/-
# The arbitration of a general `GET_UDID`

Every instance that takes part in address resolution and has no resolved address is a candidate.
The handler sorts the candidates by one byte of their UDIDs after the other, from the most
significant one down, and keeps those with the least byte, until one is left or the UDIDs end. Here
the one that answers is shown to have the least UDID of all (`eliminate_least`), whatever is found
past the end of the list, and the elements looked at to be in the list unless it is full and its
UDIDs agree in their most significant byte (`eliminate_past`).
-/
import Amr.Lib.SelectionSort
import Amr.Smbus.Frame

namespace Amr.Smbus

open StateProgram SelectionSort

/-! ### UDIDs in order -/

/-- The lower `k` bytes of a UDID, most significant first. -/
def udidDigits (ucUDID : ℕ → ℕ) : ℕ → List ℕ
  | 0 => []
  | k + 1 => ucUDID k :: udidDigits ucUDID k

/-- The bytes of a UDID, most significant first. -/
def Config.udidBytes (c : Config) : List ℕ := udidDigits c.ucUDID UDID_LENGTH

/-- The address an instance reports with its UDID: all ones where it is not valid. -/
def Config.reportedAddress (c : Config) : ℕ :=
  if c.ucAVFlag = false then 0xFF else (c.ucSMBusAddr * 2 % 2 ^ 8) ||| 1

/-- The reply of an instance to a general `GET_UDID`: the length, the UDID and the address. -/
def Config.udidMessage (c : Config) : List ℕ :=
  GET_UDID_DATA_LENGTH :: (c.udidBytes ++ [c.reportedAddress])

theorem udidDigits_lt {u v : ℕ → ℕ} {k : ℕ} (h : u k < v k) :
    udidDigits u (k + 1) ≤ udidDigits v (k + 1) :=
  le_of_lt (List.Lex.rel h : udidDigits u (k + 1) < udidDigits v (k + 1))

theorem udidDigits_cons_le {u v : ℕ → ℕ} {k : ℕ} (h : u k = v k)
    (hle : udidDigits u k ≤ udidDigits v k) : udidDigits u (k + 1) ≤ udidDigits v (k + 1) := by
  simp only [udidDigits, h]
  rcases hle.lt_or_eq with hlt | heq
  · exact le_of_lt (List.Lex.cons hlt : v k :: udidDigits u k < v k :: udidDigits v k)
  · rw [heq]

/-! ### One round -/

variable (ucUDID : ℕ → ℕ → ℕ) (stray : ℕ)

/-- The place where the comparison of neighbours ends. -/
def changeAt (ucUDID : ℕ → ℕ → ℕ) (stray : ℕ) (l : ℕ → ℕ) (size i : ℕ) : Option ℕ :=
  (List.range size).find? fun j => ucUDID (l j) i ≠ ucUDID (udidListGet stray l (j + 1)) i

theorem changeAt_spec {l : ℕ → ℕ} {size i : ℕ} (hpos : 0 < size)
    (hfit : size ≤ NUM_NON_ARP_INSTANCES)
    (hord : ∀ a b, a ≤ b → b < size → ucUDID (l a) i ≤ ucUDID (l b) i) :
    let kept := ((changeAt ucUDID stray l size i).map (· + 1)).getD size
    0 < kept ∧ kept ≤ size ∧ (∀ k < kept, ucUDID (l k) i = ucUDID (l 0) i) ∧
      (∀ k, kept ≤ k → k < size → ucUDID (l 0) i < ucUDID (l k) i) ∧
      (changeAt ucUDID stray l size i).getD (size - 1) + 1 = kept := by
  have hget : ∀ j, j + 1 < size → udidListGet stray l (j + 1) = l (j + 1) := fun j hj =>
    if_pos (hj.trans_le hfit)
  cases hc : changeAt ucUDID stray l size i with
  | none =>
    have hsame : ∀ k < size - 1, ucUDID (l k) i = ucUDID (l (k + 1)) i := by
      intro k hk
      have hnone := List.find?_eq_none.mp hc k (List.mem_range.mpr (by omega))
      rw [hget k (by omega)] at hnone
      simpa using hnone
    obtain ⟨heq, -⟩ := first_change hord hsame
    refine ⟨hpos, le_rfl, fun k hk => heq k (Nat.le_sub_one_of_lt hk), fun k hk hlt => ?_, ?_⟩
    · exact absurd hk (not_le.mpr hlt)
    · exact Nat.sub_add_cancel hpos
  | some j =>
    obtain ⟨hdiff, hmem, hbefore⟩ := List.find?_range_eq_some.mp hc
    have hjlt : j < size := List.mem_range.mp hmem
    have hsame : ∀ k < j, ucUDID (l k) i = ucUDID (l (k + 1)) i := by
      intro k hk
      have hk' := hbefore k hk
      rw [hget k (by omega)] at hk'
      simpa using hk'
    obtain ⟨heq, hgt⟩ := first_change hord hsame
    refine ⟨Nat.succ_pos j, hjlt, fun k hk => heq k (Nat.lt_succ_iff.mp hk), fun k hk hlt => ?_, rfl⟩
    have hne : ucUDID (l j) i ≠ ucUDID (l (j + 1)) i := by
      rw [hget j (lt_of_le_of_lt hk hlt)] at hdiff
      simpa using hdiff
    exact hgt hne k hk hlt

/-- What one round leaves: the list, its size, and whether an element past its end was read. -/
def eliminateRound (ucUDID : ℕ → ℕ → ℕ) (stray i : ℕ) (x : (ℕ → ℕ) × ℕ × Bool) :
    (ℕ → ℕ) × ℕ × Bool :=
  let l := vUDIDInstanceSort ucUDID x.1 x.2.1 i
  let j := changeAt ucUDID stray l x.2.1 i
  (l, (j.map (· + 1)).getD x.2.1,
    x.2.2 || decide (NUM_NON_ARP_INSTANCES ≤ j.getD (x.2.1 - 1) + 1))

theorem eliminate_succ (i : ℕ) (x : (ℕ → ℕ) × ℕ × Bool) :
    eliminate ucUDID stray (i + 1) x =
      if (eliminateRound ucUDID stray i x).2.1 = 1 then eliminateRound ucUDID stray i x
      else eliminate ucUDID stray i (eliminateRound ucUDID stray i x) := rfl

def Among (x : (ℕ → ℕ) × ℕ × Bool) (c : ℕ) : Prop := ∃ k < x.2.1, x.1 k = c

/-- **A round** keeps the candidates with the least byte. -/
theorem eliminateRound_among {i : ℕ} {x : (ℕ → ℕ) × ℕ × Bool} (hpos : 0 < x.2.1)
    (hfit : x.2.1 ≤ NUM_NON_ARP_INSTANCES) :
    0 < (eliminateRound ucUDID stray i x).2.1 ∧
      (eliminateRound ucUDID stray i x).2.1 ≤ x.2.1 ∧
      ∀ c, Among (eliminateRound ucUDID stray i x) c ↔
        Among x c ∧ ∀ d, Among x d → ucUDID c i ≤ ucUDID d i := by
  let key : ℕ → ℕ := fun c => ucUDID c i
  obtain ⟨hkept, hle, hsame, hgreater, -⟩ := changeAt_spec ucUDID stray
    (l := vUDIDInstanceSort ucUDID x.1 x.2.1 i) hpos hfit
    (fun a b hab hb => sort_monotone key x.1 hab hb)
  have hmem : ∀ c, Among x c ↔ ∃ k < x.2.1, vUDIDInstanceSort ucUDID x.1 x.2.1 i k = c :=
    fun c => (exists_sort_iff key x.1 x.2.1 (· = c)).symm
  refine ⟨hkept, hle, fun c => ⟨?_, ?_⟩⟩
  · rintro ⟨k, hk, rfl⟩
    refine ⟨(hmem _).mpr ⟨k, hk.trans_le hle, rfl⟩, fun d hd => ?_⟩
    obtain ⟨k', hk', rfl⟩ := (hmem d).mp hd
    have h0 := sort_monotone key x.1 (Nat.zero_le k') hk'
    exact (hsame k hk).le.trans h0
  · rintro ⟨hc, hleast⟩
    obtain ⟨k, hk, rfl⟩ := (hmem c).mp hc
    refine ⟨k, ?_, rfl⟩
    by_contra hge
    have hlt := hgreater k (not_lt.mp hge) hk
    exact absurd (hleast _ ((hmem _).mpr ⟨0, hpos, rfl⟩)) (not_le.mpr hlt)

theorem eliminateRound_full {i : ℕ} {x : (ℕ → ℕ) × ℕ × Bool} (hpos : 0 < x.2.1)
    (hfit : x.2.1 ≤ NUM_NON_ARP_INSTANCES) :
    (eliminateRound ucUDID stray i x).2.1 = x.2.1 ↔
      ∀ c d, Among x c → Among x d → ucUDID c i = ucUDID d i := by
  let key : ℕ → ℕ := fun c => ucUDID c i
  obtain ⟨-, hle, hsame, hgreater, -⟩ := changeAt_spec ucUDID stray
    (l := vUDIDInstanceSort ucUDID x.1 x.2.1 i) hpos hfit
    (fun a b hab hb => sort_monotone key x.1 hab hb)
  have hmem : ∀ c, Among x c ↔ ∃ k < x.2.1, vUDIDInstanceSort ucUDID x.1 x.2.1 i k = c :=
    fun c => (exists_sort_iff key x.1 x.2.1 (· = c)).symm
  constructor
  · intro hfull c d hc hd
    obtain ⟨k, hk, rfl⟩ := (hmem c).mp hc
    obtain ⟨k', hk', rfl⟩ := (hmem d).mp hd
    exact (hsame k (hk.trans_eq hfull.symm)).trans (hsame k' (hk'.trans_eq hfull.symm)).symm
  · intro hall
    by_contra hne
    have hlt := lt_of_le_of_ne hle hne
    have hgt := hgreater _ le_rfl hlt
    exact hgt.ne (hall _ _ ((hmem _).mpr ⟨0, hpos, rfl⟩) ((hmem _).mpr ⟨_, hlt, rfl⟩))

theorem eliminateRound_past {i : ℕ} {x : (ℕ → ℕ) × ℕ × Bool} (hpos : 0 < x.2.1)
    (hfit : x.2.1 ≤ NUM_NON_ARP_INSTANCES) :
    (eliminateRound ucUDID stray i x).2.2 = (x.2.2 || decide
      ((eliminateRound ucUDID stray i x).2.1 = NUM_NON_ARP_INSTANCES)) := by
  let key : ℕ → ℕ := fun c => ucUDID c i
  obtain ⟨-, hle, -, -, hend⟩ := changeAt_spec ucUDID stray
    (l := vUDIDInstanceSort ucUDID x.1 x.2.1 i) hpos hfit
    (fun a b hab hb => sort_monotone key x.1 hab hb)
  have hiff : NUM_NON_ARP_INSTANCES ≤ (eliminateRound ucUDID stray i x).2.1 ↔
      (eliminateRound ucUDID stray i x).2.1 = NUM_NON_ARP_INSTANCES :=
    ⟨fun h => le_antisymm (hle.trans hfit) h, fun h => h.ge⟩
  calc (eliminateRound ucUDID stray i x).2.2
      = (x.2.2 || decide (NUM_NON_ARP_INSTANCES ≤ (eliminateRound ucUDID stray i x).2.1)) := by
        simp only [eliminateRound, hend]
    _ = _ := by rw [decide_eq_decide.mpr hiff]

/-! ### The whole elimination -/

/-- **The one that is left has the least UDID.** The induction is on the byte: a round keeps the
candidates with the least byte, and among them the lower bytes decide. -/
theorem eliminate_least :
    ∀ (i : ℕ) (x : (ℕ → ℕ) × ℕ × Bool), 0 < x.2.1 → x.2.1 ≤ NUM_NON_ARP_INSTANCES →
      Among x ((eliminate ucUDID stray i x).1 0) ∧
        ∀ d, Among x d →
          udidDigits (ucUDID ((eliminate ucUDID stray i x).1 0)) i ≤ udidDigits (ucUDID d) i
  | 0, x, hpos, _ => ⟨⟨0, hpos, rfl⟩, fun _ _ => le_rfl⟩
  | i + 1, x, hpos, hfit => by
    obtain ⟨hpos', hle, hround⟩ := eliminateRound_among ucUDID stray (i := i) hpos hfit
    rw [eliminate_succ]
    generalize eliminateRound ucUDID stray i x = y at hpos' hle hround ⊢
    -- a candidate with a greater byte was eliminated, the others are compared below
    have hstep : ∀ w, Among y w →
        (∀ d, Among y d → udidDigits (ucUDID w) i ≤ udidDigits (ucUDID d) i) →
        Among x w ∧ ∀ d, Among x d →
          udidDigits (ucUDID w) (i + 1) ≤ udidDigits (ucUDID d) (i + 1) := by
      intro w hw hlower
      obtain ⟨hwx, hleast⟩ := (hround w).mp hw
      refine ⟨hwx, fun d hd => ?_⟩
      rcases (hleast d hd).lt_or_eq with hlt | heq
      · exact udidDigits_lt hlt
      · have hdy : Among y d := (hround d).mpr ⟨hd, fun e he => heq ▸ hleast e he⟩
        exact udidDigits_cons_le heq (hlower d hdy)
    split_ifs with hone
    · refine hstep _ ⟨0, hpos', rfl⟩ ?_
      rintro d ⟨k, hk, rfl⟩
      obtain rfl : k = 0 := by omega
      exact le_rfl
    · obtain ⟨hw, hlower⟩ := eliminate_least i y hpos' (hle.trans hfit)
      exact hstep _ hw hlower

theorem eliminate_past_of_lt :
    ∀ (i : ℕ) (x : (ℕ → ℕ) × ℕ × Bool), 0 < x.2.1 → x.2.1 < NUM_NON_ARP_INSTANCES →
      (eliminate ucUDID stray i x).2.2 = x.2.2
  | 0, _, _, _ => rfl
  | i + 1, x, hpos, hlt => by
    obtain ⟨hpos', hle, -⟩ := eliminateRound_among ucUDID stray (i := i) hpos hlt.le
    have hpast := eliminateRound_past ucUDID stray (i := i) hpos hlt.le
    rw [eliminate_succ]
    generalize eliminateRound ucUDID stray i x = y at hpos' hle hpast ⊢
    rw [decide_eq_false (hle.trans_lt hlt).ne, Bool.or_false] at hpast
    split_ifs
    · exact hpast
    · exact (eliminate_past_of_lt i y hpos' (hle.trans_lt hlt)).trans hpast

theorem eliminate_past_of_past :
    ∀ (i : ℕ) (x : (ℕ → ℕ) × ℕ × Bool), x.2.2 = true →
      (eliminate ucUDID stray i x).2.2 = true
  | 0, _, h => h
  | i + 1, x, h => by
    have hpast : (eliminateRound ucUDID stray i x).2.2 = true := by
      simp only [eliminateRound, h, Bool.true_or]
    rw [eliminate_succ]
    split_ifs
    · exact hpast
    · exact eliminate_past_of_past i _ hpast

/-- **An element past the end of the list is read** when the list is full and all its UDIDs agree
in the first byte compared. -/
theorem eliminate_past {i : ℕ} {x : (ℕ → ℕ) × ℕ × Bool} (hpos : 0 < x.2.1)
    (hfit : x.2.1 ≤ NUM_NON_ARP_INSTANCES) (hx : x.2.2 = false) :
    (eliminate ucUDID stray (i + 1) x).2.2 = true ↔
      x.2.1 = NUM_NON_ARP_INSTANCES ∧
        ∀ c d, Among x c → Among x d → ucUDID c i = ucUDID d i := by
  obtain ⟨hpos', hle, -⟩ := eliminateRound_among ucUDID stray (i := i) hpos hfit
  have hpast := eliminateRound_past ucUDID stray (i := i) hpos hfit
  have hsame := eliminateRound_full ucUDID stray (i := i) hpos hfit
  rw [eliminate_succ]
  generalize eliminateRound ucUDID stray i x = y at hpos' hle hsame hpast ⊢
  by_cases hy : y.2.1 = NUM_NON_ARP_INSTANCES
  · have hyx : y.2.1 = x.2.1 := le_antisymm hle (hy ▸ hfit)
    rw [decide_eq_true hy, Bool.or_true] at hpast
    refine iff_of_true ?_ ⟨hyx ▸ hy, hsame.mp hyx⟩
    split_ifs
    · exact hpast
    · exact eliminate_past_of_past ucUDID stray i y hpast
  · have hlt : y.2.1 < NUM_NON_ARP_INSTANCES := lt_of_le_of_ne (hle.trans hfit) hy
    rw [decide_eq_false hy, Bool.or_false, hx] at hpast
    refine iff_of_false ?_ fun hall => hy ((hsame.mpr hall.2).trans hall.1)
    rw [Bool.not_eq_true]
    split_ifs
    · exact hpast
    · exact (eliminate_past_of_lt ucUDID stray i y hpos' hlt).trans hpast

/-! ### The command -/

section Command

variable {n : ℕ} {s : Profile}

/-- The list, its size and the note of a read past its end, where the handler answers. -/
def Profile.arbitrate (s : Profile) : (ℕ → ℕ) × ℕ × Bool :=
  let x := ((fun k => s.udidCandidates.getD k 0), s.udidCandidates.length, false)
  if 1 < s.udidCandidates.length then
    eliminate (fun i => (s.xConfig i).ucUDID) s.answer.stray UDID_LENGTH x
  else x

/-- The list is full of candidates whose UDIDs agree in their most significant byte. -/
def Profile.tied (s : Profile) : Prop :=
  s.udidCandidates.length = NUM_NON_ARP_INSTANCES ∧
    ∀ c ∈ s.udidCandidates, ∀ d ∈ s.udidCandidates,
      (s.xConfig c).ucUDID UDID_DEVICE_CAPABILITIES_BYTE =
        (s.xConfig d).ucUDID UDID_DEVICE_CAPABILITIES_BYTE

instance (s : Profile) : Decidable s.tied := by
  unfold Profile.tied; infer_instance

theorem length_udidCandidates_le (s : Profile) :
    s.udidCandidates.length ≤ NUM_NON_ARP_INSTANCES := by
  refine (List.length_filter_le _ _).trans ?_
  rw [List.length_range]

theorem among_list {l : List ℕ} {b : Bool} {c : ℕ} :
    Among ((fun k => l.getD k 0), l.length, b) c ↔ c ∈ l := by
  rw [List.mem_iff_getElem]
  constructor
  · rintro ⟨k, hk, h⟩
    exact ⟨k, hk, (List.getD_eq_getElem l 0 hk).symm.trans h⟩
  · rintro ⟨k, hk, h⟩
    exact ⟨k, hk, (List.getD_eq_getElem l 0 hk).trans h⟩

/-- **The one that answers** is a candidate, and none has a smaller UDID. -/
theorem arbitrate_least (h : s.udidCandidates ≠ []) :
    s.arbitrate.1 0 ∈ s.udidCandidates ∧ ∀ d ∈ s.udidCandidates,
      (s.xConfig (s.arbitrate.1 0)).udidBytes ≤ (s.xConfig d).udidBytes := by
  have hpos : 0 < s.udidCandidates.length := List.length_pos_iff.mpr h
  unfold Profile.arbitrate
  split_ifs with hmany
  · obtain ⟨hmem, hleast⟩ := eliminate_least (fun i => (s.xConfig i).ucUDID) s.answer.stray
      UDID_LENGTH ((fun k => s.udidCandidates.getD k 0), s.udidCandidates.length, false) hpos
      (length_udidCandidates_le s)
    exact ⟨among_list.mp hmem, fun d hd => hleast d (among_list.mpr hd)⟩
  · obtain ⟨c, hc⟩ := List.length_eq_one_iff.mp (show s.udidCandidates.length = 1 by omega)
    rw [hc]
    simp

/-- **An element past the end of the list** is read when the candidates are tied. -/
theorem arbitrate_past : s.arbitrate.2.2 = true ↔ s.tied := by
  unfold Profile.arbitrate Profile.tied
  split_ifs with hmany
  · have hpast := eliminate_past (fun i => (s.xConfig i).ucUDID) s.answer.stray
      (i := UDID_DEVICE_CAPABILITIES_BYTE)
      (x := ((fun k => s.udidCandidates.getD k 0), s.udidCandidates.length, false))
      (Nat.zero_lt_of_lt hmany) (length_udidCandidates_le s) rfl
    simp only [among_list] at hpast
    refine hpast.trans (and_congr_right fun _ => ?_)
    exact ⟨fun hall c hc d hd => hall c d hc hd, fun hall c d hc hd => hall c hc d hd⟩
  · refine iff_of_false (by simp) fun htied => hmany ?_
    rw [htied.1]
    decide

/-- A general `GET_UDID` arrives: the instance is the one for address resolution and waits for a
command byte, and the FIFO holds it. -/
structure GetsUdid (n : ℕ) (s : Profile) : Prop where
  state : s.xState n = .AWAITING_COMMAND_BYTE
  address : (s.xConfig n).ucSMBusAddr = DEVICE_DEFAULT_ARP_ADDRESS
  notEmpty : s.registers.headD 1 % 2 = 0
  command : s.registers.tail.headD 0 % 2 ^ 8 = 0x03

/-- The descriptors a reply writes: none where the descriptor FIFO is full. -/
def Profile.descriptors (s : Profile) (w : RegisterWrite) : List RegisterWrite :=
  if s.registers.tail.tail.headD 0 % 2 = 1 then [] else [w]

/-- Candidate `c` answers the command in the step from `s` to `s'`: its message waits to be read,
and the command is acknowledged. -/
structure Answers (n : ℕ) (s s' : Profile) (c : ℕ) : Prop where
  state : s'.xState n = .AWAITING_READ
  size : (s'.xTransfer n).usSendDataSize = GET_UDID_MSG_LENGTH
  message : (List.range GET_UDID_MSG_LENGTH).map (s'.xTransfer n).ucSendData =
    (s.xConfig c).udidMessage
  written : s'.written = s.written ++ s.descriptors .TARGET_WRITE_ACK

/-- The command is refused in the step from `s` to `s'`. -/
structure Refuses (n : ℕ) (s s' : Profile) : Prop where
  state : s'.xState n = .AWAITING_DONE
  nack : (s'.xTransfer n).ucNackSent = true
  written : s'.written = s.written ++ s.descriptors .TARGET_WRITE_NACK

/-- What a general `GET_UDID` is to do: the least UDID among the candidates answers, the command is
refused if and only if there is none, and no access is outside the list. -/
structure Arbitrates (n : ℕ) (s s' : Profile) : Prop where
  answered : s.udidCandidates ≠ [] → ∃ c ∈ s.udidCandidates,
    (∀ d ∈ s.udidCandidates, (s.xConfig c).udidBytes ≤ (s.xConfig d).udidBytes) ∧
      Answers n s s' c
  refused : Refuses n s s' ↔ s.udidCandidates = []
  inside : s'.faults = s.faults

/-- The profile with the command byte read. -/
def Profile.udidAsked (s : Profile) (n : ℕ) : Profile :=
  { s with
    registers := s.registers.tail.tail
    received := s.received ++ [0x03]
    xTransfer := Function.update s.xTransfer n
      { s.xTransfer n with ucCommand := 0x03, xProtocol := .ARP_GET_UDID } }

def Profile.udidReplied (s : Profile) (n : ℕ) : Profile :=
  { s with
    faults := if s.arbitrate.2.2 = true then s.faults ++ [.udidList] else s.faults
    xTransfer := Function.update s.xTransfer n
      { s.xTransfer n with
        usSendDataSize := GET_UDID_MSG_LENGTH
        ucSendData := if 0 < s.udidCandidates.length then
            udidReply (s.xTransfer n).ucSendData (s.xConfig (s.arbitrate.1 0)).ucUDID
              (s.xConfig (s.arbitrate.1 0)).reportedAddress
          else (s.xTransfer n).ucSendData } }

theorem exec_vARPGetUDID (n : ℕ) (s : Profile) :
    exec (vARPGetUDID n) s =
      exec (vAnswerARP n (decide (0 < s.udidCandidates.length)) .AWAITING_READ) (s.udidReplied n) := by
  let t : Profile := exec (setTransfer n fun t =>
    { t with usSendDataSize := GET_UDID_MSG_LENGTH }) s
  let u : Profile := exec (if s.arbitrate.2.2 = true then fault .udidList else pure ()) t
  have hu : u = { t with
      faults := if s.arbitrate.2.2 = true then s.faults ++ [.udidList] else s.faults } := by
    simp only [u, exec_ite]
    split_ifs <;> rfl
  have hv : exec (if 0 < s.udidCandidates.length then
      setTransfer n fun t =>
        { t with
          ucSendData := udidReply t.ucSendData (s.xConfig (s.arbitrate.1 0)).ucUDID
            (s.xConfig (s.arbitrate.1 0)).reportedAddress }
      else pure ()) u = s.udidReplied n := by
    rw [hu, exec_ite]
    by_cases hpos : 0 < s.udidCandidates.length
    · rw [if_pos hpos]
      simp [t, setTransfer, Profile.udidReplied, hpos]
    · rw [if_neg hpos]
      simp [t, setTransfer, Profile.udidReplied, hpos]
  calc exec (vARPGetUDID n) s
      = exec (vAnswerARP n (decide (0 < s.udidCandidates.length)) .AWAITING_READ) (exec
          (if 0 < s.udidCandidates.length then
            setTransfer n fun t =>
              { t with
                ucSendData := udidReply t.ucSendData (s.xConfig (s.arbitrate.1 0)).ucUDID
                  (s.xConfig (s.arbitrate.1 0)).reportedAddress }
          else pure ()) u) := rfl
    _ = _ := by rw [hv]

theorem exec_fsm_getUdid (h : GetsUdid n s) :
    exec (vSMBusFSM n .TARGET_DATA_IRQ) s =
      exec (vAnswerARP n (decide (0 < s.udidCandidates.length)) .AWAITING_READ)
        ((s.udidAsked n).udidReplied n) := by
  have hnotify : ¬ (s.xConfig n).ucSMBusAddr = NOTIFY_ARP_MASTER_ADDRESS := by
    rw [h.address]
    decide
  have hproto : exec (ucSMBusHandleActionGetARPProtocol n) s = s.udidAsked n ∧
      value (ucSMBusHandleActionGetARPProtocol n) s = true := by
    have hempty : ¬ s.registers.headD 1 % 2 = 1 := by rw [h.notEmpty]; decide
    have hcommand := h.command
    generalize hb : s.registers.tail.headD 0 % 2 ^ 8 = b at hcommand
    have hread : exec ulSMBusHWReadTgtRxFifoPayload (exec ulSMBusHWReadTgtRxFifoStatusEmpty s) =
        { s with registers := s.registers.tail.tail, received := s.received ++ [b] } := by
      rw [← hb]
      rfl
    have hvalue : value ulSMBusHWReadTgtRxFifoPayload (exec ulSMBusHWReadTgtRxFifoStatusEmpty s) =
        b := hb
    have hstatus : value ulSMBusHWReadTgtRxFifoStatusEmpty s = false := decide_eq_false hempty
    subst hcommand
    rw [ucSMBusHandleActionGetARPProtocol]
    simp only [exec_bind, value_bind, hstatus, Bool.false_eq_true, if_false, hread, hvalue]
    simp [arpProtocol, setTransfer, Profile.udidAsked]
  have hcommand : exec (vStateAwaitingCommandByte n .TARGET_DATA_IRQ) s =
      exec (vARPGetUDID n) (s.udidAsked n) := by
    rw [vStateAwaitingCommandByte, exec_config_bind, if_neg hnotify, if_pos h.address, exec_bind,
      hproto.1, hproto.2, if_pos rfl, exec_transfer_bind]
    simp [vARPCommand, Profile.udidAsked]
  rw [vSMBusFSM, exec_get_bind]
  simp only [h.state, hcommand]
  rw [exec_vARPGetUDID]
  rfl

theorem exec_descriptor (w : RegisterWrite) (s : Profile) :
    exec (prvucSMBusTargetDescriptorApply w false) s =
      { s with
        registers := s.registers.tail
        written := s.written ++ if s.registers.headD 0 % 2 = 1 then [] else [w] } := by
  have hfull : value ulSMBusHWReadTgtDescStatusFull s = decide (s.registers.headD 0 % 2 = 1) := rfl
  have hread : exec ulSMBusHWReadTgtDescStatusFull s = { s with registers := s.registers.tail } :=
    rfl
  rw [prvucSMBusTargetDescriptorApply]
  simp only [Bool.false_eq_true, if_false, exec_bind, exec_ite, exec_pure, hfull, hread]
  by_cases hodd : s.registers.headD 0 % 2 = 1
  · simp only [hodd, decide_true, if_true, List.append_nil]
  · simp only [hodd, decide_false, Bool.false_eq_true, if_false]
    rfl

theorem map_udidReply (dest ucUDID : ℕ → ℕ) (last : ℕ) :
    (List.range GET_UDID_MSG_LENGTH).map (udidReply dest ucUDID last) =
      GET_UDID_DATA_LENGTH :: (udidDigits ucUDID UDID_LENGTH ++ [last]) := rfl

/-- **The step of a general `GET_UDID`.** -/
theorem getUdid_step (h : GetsUdid n s) :
    (s.udidCandidates ≠ [] →
      Answers n s (exec (vSMBusFSM n .TARGET_DATA_IRQ) s) (s.arbitrate.1 0)) ∧
    (Refuses n s (exec (vSMBusFSM n .TARGET_DATA_IRQ) s) ↔ s.udidCandidates = []) ∧
    (exec (vSMBusFSM n .TARGET_DATA_IRQ) s).faults =
      if s.arbitrate.2.2 = true then s.faults ++ [.udidList] else s.faults := by
  rw [exec_fsm_getUdid h, vAnswerARP]
  by_cases hnone : s.udidCandidates = []
  · simp only [hnone, List.length_nil, lt_irrefl, decide_false, Bool.false_eq_true, if_false,
      exec_bind, vSMBusSendNACK, ucSMBusTargetWriteDescriptorNACK, exec_descriptor]
    have hfaults : ((s.udidAsked n).udidReplied n).faults =
        if s.arbitrate.2.2 = true then s.faults ++ [.udidList] else s.faults := rfl
    refine ⟨fun hne => absurd rfl hne, iff_of_true ⟨?_, ?_, ?_⟩ trivial, hfaults⟩
    · simp [vSMBusNextStateDecoder]
    · simp [vSMBusNextStateDecoder, setTransfer]
    · rfl
  · have hpos : 0 < s.udidCandidates.length := List.length_pos_iff.mpr hnone
    have hpos' : 0 < (s.udidAsked n).udidCandidates.length := hpos
    simp only [hpos, decide_true, if_true, exec_bind, ucSMBusTargetWriteDescriptorACK,
      exec_descriptor]
    have hfaults : ((s.udidAsked n).udidReplied n).faults =
        if s.arbitrate.2.2 = true then s.faults ++ [.udidList] else s.faults := rfl
    refine ⟨fun _ => ⟨?_, ?_, ?_, ?_⟩, iff_of_false (fun hno => ?_) hnone, hfaults⟩
    · simp [vSMBusNextStateDecoder]
    · simp [vSMBusNextStateDecoder, Profile.udidReplied]
    · have hdata : (((s.udidAsked n).udidReplied n).xTransfer n).ucSendData =
          udidReply ((s.udidAsked n).xTransfer n).ucSendData
            (s.xConfig (s.arbitrate.1 0)).ucUDID
            (s.xConfig (s.arbitrate.1 0)).reportedAddress := by
        simp only [Profile.udidReplied, Function.update_self, if_pos hpos']
        rfl
      exact (congrArg (List.map · (List.range GET_UDID_MSG_LENGTH)) hdata).trans
        (map_udidReply _ _ _)
    · rfl
    · simpa [vSMBusNextStateDecoder] using hno.state

/-- **The arbitration of a general `GET_UDID`** succeeds exactly when the list of candidates has a
place free or two of them differ in the most significant byte. -/
theorem getUdid_arbitrates (h : GetsUdid n s) :
    Arbitrates n s (exec (vSMBusFSM n .TARGET_DATA_IRQ) s) ↔ ¬ s.tied := by
  obtain ⟨hanswers, hrefuses, hfaults⟩ := getUdid_step h
  rw [← arbitrate_past]
  constructor
  · intro harb hpast
    have hinside := harb.inside
    rw [hfaults, if_pos hpast] at hinside
    simp at hinside
  · intro hpast
    refine ⟨fun hne => ?_, hrefuses, by rw [hfaults, if_neg hpast]⟩
    obtain ⟨hmem, hleast⟩ := arbitrate_least hne
    exact ⟨_, hmem, hleast, hanswers hne⟩

/-- A profile with `count` devices whose UDIDs differ in the least significant byte only, and a
general `GET_UDID` in the FIFO of the instance for address resolution. -/
def crowded (count : ℕ) : Profile :=
  { Profile.start with
    registers := [0, 0x03, 0]
    xState := fun i => if i = NUM_NON_ARP_INSTANCES then .AWAITING_COMMAND_BYTE else .INITIAL
    xConfig := fun i =>
      if i = NUM_NON_ARP_INSTANCES then
        { Config.unused with
          ucInstanceInUse := true, ucSMBusAddr := DEVICE_DEFAULT_ARP_ADDRESS }
      else if i < count then
        { Config.unused with
          ucInstanceInUse := true
          ucSMBusAddr := 0x20 + i
          ucUDID := fun k => if k = UDID_DEVICE_CAPABILITIES_BYTE then UDID_DYNAMIC_AND_PERSISTENT
            else if k = 0 then count - i else 0
          xARPCapability := .ARP_CAPABLE }
      else Config.unused }

theorem crowded_getsUdid (count : ℕ) : GetsUdid NUM_NON_ARP_INSTANCES (crowded count) :=
  ⟨rfl, rfl, rfl, rfl⟩

/-- Two devices with the same upper bytes: the smaller UDID answers. -/
theorem getUdid_arbitrates_crowded :
    Arbitrates NUM_NON_ARP_INSTANCES (crowded 2)
      (exec (vSMBusFSM NUM_NON_ARP_INSTANCES .TARGET_DATA_IRQ) (crowded 2)) :=
  (getUdid_arbitrates (crowded_getsUdid 2)).mpr (by decide)

/-- Seven devices with the same most significant byte: the handler looks past the list. -/
theorem not_getUdid_arbitrates : ¬ ∀ (n : ℕ) (s : Profile), GetsUdid n s →
    Arbitrates n s (exec (vSMBusFSM n .TARGET_DATA_IRQ) s) := by
  intro hall
  have hinside := (hall _ _ (crowded_getsUdid 7)).inside
  have hfault : (exec (vSMBusFSM NUM_NON_ARP_INSTANCES .TARGET_DATA_IRQ) (crowded 7)).faults =
      [.udidList] := by decide +kernel
  rw [hfault] at hinside
  exact absurd hinside (by decide)

end Command

end Amr.Smbus
