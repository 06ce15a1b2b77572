/-
# Reassembly of messages

The packets of a message follow one another from the one with `som` to the one with `eom`, with
consecutive sequence numbers, one source and one tag. The endpoint keeps of a partial message its
bytes, their number and the last sequence number. It does not look at the source and the tag, does
not compare the length with the size of the buffer, expects sequence number 1 when it holds
nothing, drops a first packet together with the partial message that it finds, and keeps a partial
message over a message of one packet. Where no packet gives occasion to that, what is passed on is
exactly the messages that are complete.
-/
import Amr.Mctp.Frame
import Amr.Lib.Transition

namespace Amr.Mctp

open StateProgram Pldm Transition

/-! ### Complete messages -/

/-- The packets since the latest one with `som`. -/
def sinceSom (h : List View) : List View :=
  h.foldl (fun ps p => if p.som then [p] else ps ++ [p]) []

theorem sinceSom_append (h : List View) (p : View) :
    sinceSom (h ++ [p]) = if p.som then [p] else sinceSom h ++ [p] := by
  simp [sinceSom]

/-- The payloads of packets, one after the other. -/
def payloads (ps : List View) : List UInt8 := ps.flatMap View.payload

/-- The packets start a message and follow one another, and what they carry fits the buffer behind
the header of the first. -/
def Joined : List View → Prop
  | [] => False
  | p :: ps =>
    p.som ∧ (∀ q ∈ ps, ¬ q.som ∧ q.src_ep_id = p.src_ep_id ∧ q.tag = p.tag) ∧
      List.IsChain (fun a b => b.seq_num = (a.seq_num + 1) % PKT_SEQ_MODULO) (p :: ps) ∧
      MCTP_HEADER + (payloads (p :: ps)).length ≤ MAX_MULTIPART_BUFFER_SIZE

instance : ∀ ps, Decidable (Joined ps)
  | [] => inferInstanceAs (Decidable False)
  | _ :: _ => inferInstanceAs (Decidable (_ ∧ _ ∧ _ ∧ _))

/-- The packets of a message that has not ended. -/
def Partial (ps : List View) : Prop := Joined ps ∧ ∀ p ∈ ps, ¬ p.eom

/-- The packets of a message of several packets, from the first to the last. -/
def Complete (ps : List View) : Prop :=
  Joined ps ∧ 2 ≤ ps.length ∧ (∀ p ∈ ps.dropLast, ¬ p.eom) ∧ ∃ p ∈ ps.getLast?, p.eom

instance (ps : List View) : Decidable (Complete ps) :=
  inferInstanceAs (Decidable (_ ∧ _ ∧ _ ∧ _))

theorem joined_append {q : View} {qs : List View} {p : View} :
    Joined (q :: qs ++ [p]) ↔
      Joined (q :: qs) ∧ ¬ p.som ∧ p.src_ep_id = q.src_ep_id ∧ p.tag = q.tag ∧
        (∀ l ∈ (q :: qs).getLast?, p.seq_num = (l.seq_num + 1) % PKT_SEQ_MODULO) ∧
        MCTP_HEADER + (payloads (q :: qs ++ [p])).length ≤ MAX_MULTIPART_BUFFER_SIZE := by
  have hpay : payloads (q :: qs ++ [p]) = payloads (q :: qs) ++ p.payload := by
    simp [payloads]
  have hchain : List.IsChain (fun a b => b.seq_num = (a.seq_num + 1) % PKT_SEQ_MODULO)
        (q :: qs ++ [p]) ↔
      List.IsChain (fun a b => b.seq_num = (a.seq_num + 1) % PKT_SEQ_MODULO) (q :: qs) ∧
        ∀ l ∈ (q :: qs).getLast?, p.seq_num = (l.seq_num + 1) % PKT_SEQ_MODULO := by
    rw [List.isChain_append]
    simp
  rw [List.cons_append] at hchain hpay ⊢
  simp only [Joined]
  rw [hchain, hpay, List.length_append]
  constructor
  · rintro ⟨hsom, hall, ⟨hc, hlast⟩, hsize⟩
    obtain ⟨hp, hsrc, htag⟩ := hall p (by simp)
    exact ⟨⟨hsom, fun x hx => hall x (by simp [hx]), hc, by omega⟩, hp, hsrc, htag, hlast, hsize⟩
  · rintro ⟨⟨hsom, hall, hc, -⟩, hp, hsrc, htag, hlast, hsize⟩
    refine ⟨hsom, fun x hx => ?_, ⟨hc, hlast⟩, hsize⟩
    rcases List.mem_append.mp hx with hx | hx
    · exact hall x hx
    · obtain rfl : x = p := by simpa using hx
      exact ⟨hp, hsrc, htag⟩

variable {ps : List View}

theorem Joined.ne_nil (h : Joined ps) : ps ≠ [] := by
  rintro rfl
  exact h

variable {p : View}

theorem Joined.init (h : Joined (ps ++ [p])) (hne : ps ≠ []) :
    Joined ps := by
  obtain ⟨q, qs, rfl⟩ := List.exists_cons_of_ne_nil hne
  exact (joined_append.mp h).1

theorem partial_append (hne : ps ≠ []) :
    Partial (ps ++ [p]) ↔ Partial ps ∧ Joined (ps ++ [p]) ∧ ¬ p.eom := by
  unfold Partial
  constructor
  · rintro ⟨hj, hall⟩
    exact ⟨⟨hj.init hne, fun x hx => hall x (by simp [hx])⟩, hj, hall p (by simp)⟩
  · rintro ⟨⟨-, hall⟩, hj, hp⟩
    refine ⟨hj, fun x hx => ?_⟩
    rcases List.mem_append.mp hx with hx | hx
    · exact hall x hx
    · obtain rfl : x = p := by simpa using hx
      exact hp

theorem complete_append (hne : ps ≠ []) :
    Complete (ps ++ [p]) ↔ Partial ps ∧ Joined (ps ++ [p]) ∧ p.eom := by
  have hlen : 0 < ps.length := List.length_pos_iff.mpr hne
  unfold Complete Partial
  constructor
  · rintro ⟨hj, -, hall, l, hl, heom⟩
    obtain rfl : p = l := by simpa using hl
    rw [List.dropLast_concat] at hall
    exact ⟨⟨hj.init hne, hall⟩, hj, heom⟩
  · rintro ⟨⟨-, hall⟩, hj, heom⟩
    refine ⟨hj, by simp; omega, by rwa [List.dropLast_concat], p, by simp, heom⟩

theorem not_complete_singleton (p : View) : ¬ Complete [p] := fun h => by
  have := h.2.1
  simp at this

theorem not_joined_singleton (h : ¬ p.som) : ¬ Joined [p] := fun hj => h hj.1

theorem partial_singleton {rx : List UInt8} (hlen : rx.length ≤ 253) :
    Partial [packet rx] ↔ (packet rx).som ∧ ¬ (packet rx).eom := by
  have hsize : MCTP_HEADER + (payloads [packet rx]).length ≤ MAX_MULTIPART_BUFFER_SIZE := by
    simp only [payloads, List.flatMap_cons, List.flatMap_nil, List.append_nil, View.payload,
      length_firstBytes, packet, MCTP_HEADER, MAX_MULTIPART_BUFFER_SIZE]
    omega
  simp [Partial, Joined, hsize]

/-! ### What the endpoint holds -/

/-- The parts of the state that a partial message is kept in. -/
def Bmc.reassembly (s : Bmc) : (ℕ → UInt8) × ℕ × ℕ × List (List UInt8) × Bool :=
  (s.multiPartReqBuffer, s.staging_buff_size, s.prv_seq_num, s.passed,
    decide (Fault.reassembly ∈ s.faults))

instance : Serving (Same Bmc.reassembly) where
  notes f _ hf := ⟨fun s => by
    simp [Same, Bmc.reassembly, note, hf.symm]⟩
  puts _ := ⟨fun _ => rfl⟩
  contexts _ := ⟨fun _ => rfl⟩
  terminus _ := ⟨fun _ => rfl⟩
  records _ := ⟨fun _ => rfl⟩
  sends _ := ⟨fun _ => rfl⟩
  marks _ := ⟨fun _ => rfl⟩
  forces _ := ⟨fun _ => rfl⟩
  assigns _ := ⟨fun _ => rfl⟩
  logs _ := ⟨fun _ => rfl⟩

/-- The header of the first packet and the payloads of all. -/
def message (ps : List View) : List UInt8 :=
  (ps.head?.elim [] fun p => firstBytes p.byte MCTP_HEADER) ++ payloads ps

/-- The endpoint holds the packets of a partial message. -/
structure Holds (s : Bmc) (ps : List View) : Prop where
  part : Partial ps
  size : s.staging_buff_size = (message ps).length
  seq : ∀ l ∈ ps.getLast?, s.prv_seq_num = l.seq_num
  bytes : firstBytes s.multiPartReqBuffer s.staging_buff_size = message ps

def Empty (s : Bmc) : Prop := s.staging_buff_size = 0 ∧ s.prv_seq_num = 0

theorem reassembly_of_accepts (P : Platform) (E : Oracle) {rx : List UInt8} {s : Bmc}
    (h : Accepts s.EID rx) :
    (exec (vProcessRxMessage P E rx) s).reassembly =
      match s.kind rx with
      | .refused => s.reassembly
      | .single => s.reassembly
      | .first =>
        (overwrite (exec dropPartial s).multiPartReqBuffer 0
            (firstBytes (packet rx).byte (packet rx).received),
          (packet rx).received, (packet rx).seq_num, s.passed,
          decide (Fault.reassembly ∈ s.faults))
      | .restart => (exec dropPartial s).reassembly
      | .stray => (exec dropPartial s).reassembly
      | .last =>
        ((s.completed rx).byte, 0, 0,
          s.passed ++ [firstBytes (s.completed rx).byte (s.completed rx).received],
          decide (Fault.reassembly ∈ (s.joined rx).faults))
      | .middle =>
        ((s.completed rx).byte, (s.completed rx).received, (packet rx).seq_num, s.passed,
          decide (Fault.reassembly ∈ (s.joined rx).faults)) := by
  rw [exec_of_accepts P E h]
  cases hk : s.kind rx with
  | refused => rfl
  | single =>
    simp only [route, exec_bind]
    rw [same Bmc.reassembly (respond E (packet rx) _), same Bmc.reassembly]
    rfl
  | first =>
    have hfit : ¬ MAX_MULTIPART_BUFFER_SIZE < (packet rx).received := by
      have := h.2.1
      simp only [packet, MAX_MULTIPART_BUFFER_SIZE]
      omega
    have hsize : (exec dropPartial (s.arrived rx)).staging_buff_size = 0 := rfl
    simp only [route, exec_bind, exec_append, exec_modify, hsize, Nat.zero_add, if_neg hfit,
      List.append_nil]
    simp only [Bmc.reassembly, View.drop, Nat.zero_add]
    rfl
  | restart => rfl
  | stray => rfl
  | last =>
    rw [exec_route_last, exec_bind, exec_bind, same Bmc.reassembly (respond E (packet rx) _),
      exec_modify]
    have hreq := same Bmc.reassembly (process_request P E (s.completed rx)) (s.joined rx)
    simp only [Bmc.reassembly, Prod.mk.injEq] at hreq ⊢
    exact ⟨hreq.1, trivial, trivial, hreq.2.2.2.1, hreq.2.2.2.2⟩
  | middle =>
    simp only [route, exec_bind, exec_append, exec_modify]
    rfl

/-! ### Runs -/

/-- The endpoint with the packets that it has accepted, oldest first. -/
def observe (P : Platform) (s : Bmc × List View) (a : Oracle × List UInt8) :
    Option (Bmc × List View) :=
  (step P s.1 a).map fun s' =>
    (s', if Accepts s.1.EID a.2 then s.2 ++ [packet a.2] else s.2)

/-- A packet with `som` comes when the endpoint holds nothing. A packet without `som` and with the
sequence number that the endpoint expects comes when it holds a partial message, is of the same
source and tag, and fits the buffer. -/
def InTurn (s : Bmc × List View) (a : Oracle × List UInt8) : Prop :=
  Accepts s.1.EID a.2 →
    ((packet a.2).som → s.1.staging_buff_size = 0) ∧
    (¬ (packet a.2).som →
      (packet a.2).seq_num = (s.1.prv_seq_num + 1) % PKT_SEQ_MODULO →
      s.1.staging_buff_size ≠ 0 ∧
      (∃ q ∈ (sinceSom s.2).head?,
        (packet a.2).src_ep_id = q.src_ep_id ∧ (packet a.2).tag = q.tag) ∧
      s.1.staging_buff_size + (packet a.2).payload.length ≤ MAX_MULTIPART_BUFFER_SIZE)

instance (s : Bmc × List View) (a : Oracle × List UInt8) : Decidable (InTurn s a) :=
  inferInstanceAs (Decidable (_ → _ ∧ (_ → _ → _ ∧ (∃ q ∈ (sinceSom s.2).head?, _) ∧ _)))

/-- The endpoint holds the packets since the latest `som` if they are those of a partial message,
and nothing otherwise. -/
structure Sound (s : Bmc × List View) : Prop where
  faults : Fault.reassembly ∉ s.1.faults
  held : Partial (sinceSom s.2) → Holds s.1 (sinceSom s.2)
  empty : ¬ Partial (sinceSom s.2) → Empty s.1

/-- What a packet passes on: the message that it completes, or nothing. -/
def PassesOn (rx : List UInt8) (s s' : Bmc × List View) : Prop :=
  (Accepts s.1.EID rx ∧ Complete (sinceSom s'.2) →
      s'.1.passed = s.1.passed ++ [message (sinceSom s'.2)]) ∧
    (¬ (Accepts s.1.EID rx ∧ Complete (sinceSom s'.2)) → s'.1.passed = s.1.passed)

theorem partial_of_append (hsom : ¬ p.som)
    (h : Partial (ps ++ [p]) ∨ Complete (ps ++ [p])) : Partial ps ∧ Joined (ps ++ [p]) := by
  by_cases hne : ps = []
  · subst hne
    rcases h with h | h
    · exact absurd h.1 (not_joined_singleton hsom)
    · exact absurd h (not_complete_singleton p)
  · rcases h with h | h
    · exact ⟨((partial_append hne).mp h).1, h.1⟩
    · exact ⟨((complete_append hne).mp h).1, h.1⟩

theorem Holds.size_ne {s : Bmc} {ps : List View} (h : Holds s ps) : s.staging_buff_size ≠ 0 := by
  obtain ⟨q, qs, rfl⟩ := List.exists_cons_of_ne_nil h.part.1.ne_nil
  rw [h.size]
  simp [message, MCTP_HEADER]

theorem Holds.joined_append {s : Bmc} {ps : List View} {p : View} (h : Holds s ps)
    (hsom : ¬ p.som) :
    Joined (ps ++ [p]) ↔ p.seq_num = (s.prv_seq_num + 1) % PKT_SEQ_MODULO ∧
      (∃ q ∈ ps.head?, p.src_ep_id = q.src_ep_id ∧ p.tag = q.tag) ∧
      s.staging_buff_size + p.payload.length ≤ MAX_MULTIPART_BUFFER_SIZE := by
  obtain ⟨q, qs, rfl⟩ := List.exists_cons_of_ne_nil h.part.1.ne_nil
  have hlast := List.getLast?_eq_some_getLast (List.cons_ne_nil q qs)
  have hseq := h.seq _ hlast
  have hsize : MCTP_HEADER + (payloads (q :: qs ++ [p])).length =
      s.staging_buff_size + p.payload.length := by
    rw [h.size]
    simp [message, payloads]
    omega
  rw [Mctp.joined_append, hsize, hlast]
  simp only [Option.mem_def, Option.some.injEq, forall_eq', List.head?_cons, exists_eq_left', hseq]
  constructor
  · rintro ⟨-, -, hsrc, htag, hnum, hfit⟩
    exact ⟨hnum, ⟨hsrc, htag⟩, hfit⟩
  · rintro ⟨hnum, ⟨hsrc, htag⟩, hfit⟩
    exact ⟨h.part.1, hsom, hsrc, htag, hnum, hfit⟩

theorem Holds.completed {s : Bmc} {ps : List View} (h : Holds s ps) (rx : List UInt8) :
    firstBytes (s.completed rx).byte (s.completed rx).received = message (ps ++ [packet rx]) := by
  obtain ⟨q, qs, rfl⟩ := List.exists_cons_of_ne_nil h.part.1.ne_nil
  have hlen : (packet rx).received - MCTP_HEADER = (packet rx).payload.length := by
    simp [View.payload]
  unfold Bmc.completed
  simp only [hlen]
  rw [firstBytes_overwrite, h.bytes]
  simp [message, payloads]

theorem Holds.of_reassembly {s s' : Bmc} {ps : List View} (h : Holds s ps)
    (heq : s'.reassembly = s.reassembly) : Holds s' ps := by
  simp only [Bmc.reassembly, Prod.mk.injEq] at heq
  obtain ⟨hbuf, hsize, hseq, -, -⟩ := heq
  exact ⟨h.part, by rw [hsize]; exact h.size, by rw [hseq]; exact h.seq,
    by rw [hbuf, hsize]; exact h.bytes⟩

theorem reassembly_of_not_accepts (P : Platform) (E : Oracle) {rx : List UInt8} {s : Bmc}
    (h : ¬ Accepts s.EID rx) :
    (exec (vProcessRxMessage P E rx) s).reassembly = s.reassembly := by
  obtain ⟨buf, hexec⟩ := exec_of_not_accepts P E h
  have hnot : Fault.reassembly ∉ refusedFaults rx := by
    unfold refusedFaults headerFaults
    simp only [List.mem_append, List.flatMap_cons, List.flatMap_nil, List.append_nil]
    split_ifs <;> simp
  rw [hexec]
  simp [Bmc.reassembly, hnot]

theorem kind_of_accepts {rx : List UInt8} {s : Bmc} (h : Accepts s.EID rx) :
    s.kind rx =
      if (packet rx).som then
        if (packet rx).eom then .single
        else if s.staging_buff_size = 0 then .first
        else .restart
      else if (s.prv_seq_num + 1) % PKT_SEQ_MODULO ≠ (packet rx).seq_num then .stray
      else if (packet rx).eom then .last
      else .middle :=
  if_neg (not_not_intro h)

theorem Sound.of_empty {s : Bmc × List View} (hf : Fault.reassembly ∉ s.1.faults)
    (hp : ¬ Partial (sinceSom s.2)) (he : Empty s.1) : Sound s :=
  ⟨hf, fun h => absurd h hp, fun _ => he⟩

/-- **A packet with `som`** that comes in turn. -/
theorem sound_of_som {P : Platform} {E : Oracle} {rx : List UInt8} {s : Bmc × List View}
    (hs : Sound s) (hacc : Accepts s.1.EID rx) (hsom : (packet rx).som)
    (hsize : s.1.staging_buff_size = 0) :
    let s' := (exec (vProcessRxMessage P E rx) s.1, s.2 ++ [packet rx])
    Sound s' ∧ s'.1.passed = s.1.passed ∧ ¬ Complete (sinceSom s'.2) := by
  have hnot : ¬ Partial (sinceSom s.2) := fun h => (hs.held h).size_ne hsize
  have hempty := hs.empty hnot
  have hsince : sinceSom (s.2 ++ [packet rx]) = [packet rx] := by
    rw [sinceSom_append, if_pos hsom]
  have hre := reassembly_of_accepts P E hacc
  rw [kind_of_accepts hacc, if_pos hsom] at hre
  simp only [hsince]
  by_cases heom : (packet rx).eom
  · rw [if_pos heom] at hre
    simp only [Bmc.reassembly, Prod.mk.injEq, decide_eq_decide] at hre
    obtain ⟨-, hsz, hseq, hpassed, hfault⟩ := hre
    refine ⟨.of_empty (fun h => hs.faults (hfault.mp h)) ?_ ?_, hpassed,
      not_complete_singleton _⟩
    · simp only [hsince]
      exact fun h => ((partial_singleton hacc.2.1).mp h).2 heom
    · exact ⟨hsz.trans hempty.1, hseq.trans hempty.2⟩
  · rw [if_neg heom, if_pos hsize] at hre
    simp only [Bmc.reassembly, Prod.mk.injEq, decide_eq_decide] at hre
    obtain ⟨hbuf, hsz, hseq, hpassed, hfault⟩ := hre
    have hpart : Partial [packet rx] := (partial_singleton hacc.2.1).mpr ⟨hsom, heom⟩
    have hheader : (packet rx).received = MCTP_HEADER + (packet rx).payload.length := by
      have := hacc.1
      simp only [View.payload, length_firstBytes, packet, MCTP_HEADER]
      omega
    have hmsg : message [packet rx] = firstBytes (packet rx).byte (packet rx).received := by
      rw [hheader, firstBytes_add]
      simp [message, payloads, View.payload, View.drop]
    refine ⟨⟨fun h => hs.faults (hfault.mp h), fun _ => ?_, fun h => ?_⟩, hpassed,
      not_complete_singleton _⟩
    · simp only [hsince]
      refine ⟨hpart, ?_, ?_, ?_⟩
      · rw [hsz, hmsg, length_firstBytes]
      · simpa using hseq
      · rw [hbuf, hsz, hmsg]
        have h0 := firstBytes_overwrite (exec dropPartial s.1).multiPartReqBuffer 0
          (firstBytes (packet rx).byte (packet rx).received)
        rw [length_firstBytes, Nat.zero_add] at h0
        exact h0
    · simp only [hsince] at h
      exact absurd hpart h

/-- **A packet without `som` and with another sequence number** than the next one. -/
theorem sound_of_stray {P : Platform} {E : Oracle} {rx : List UInt8} {s : Bmc × List View}
    (hs : Sound s) (hacc : Accepts s.1.EID rx) (hsom : ¬ (packet rx).som)
    (hnum : (s.1.prv_seq_num + 1) % PKT_SEQ_MODULO ≠ (packet rx).seq_num) :
    let s' := (exec (vProcessRxMessage P E rx) s.1, s.2 ++ [packet rx])
    Sound s' ∧ s'.1.passed = s.1.passed ∧ ¬ Complete (sinceSom s'.2) := by
  have hsince : sinceSom (s.2 ++ [packet rx]) = sinceSom s.2 ++ [packet rx] := by
    rw [sinceSom_append, if_neg hsom]
  have hends : ¬ (Partial (sinceSom s.2 ++ [packet rx]) ∨
      Complete (sinceSom s.2 ++ [packet rx])) := fun h => by
    obtain ⟨hpart, hj⟩ := partial_of_append hsom h
    exact hnum (((hs.held hpart).joined_append hsom).mp hj).1.symm
  have hre := reassembly_of_accepts P E hacc
  rw [kind_of_accepts hacc, if_neg hsom, if_pos hnum] at hre
  simp only [Bmc.reassembly, Prod.mk.injEq, decide_eq_decide] at hre
  obtain ⟨-, hsz, hseq, hpassed, hfault⟩ := hre
  simp only [hsince]
  refine ⟨.of_empty (fun h => hs.faults (hfault.mp h)) ?_ ⟨hsz, hseq⟩, hpassed,
    fun h => hends (.inr h)⟩
  simp only [hsince]
  exact fun h => hends (.inl h)

/-- **A packet without `som` that follows** the partial message that the endpoint holds. -/
theorem sound_of_next {P : Platform} {E : Oracle} {rx : List UInt8} {s : Bmc × List View}
    (hs : Sound s) (hacc : Accepts s.1.EID rx) (hsom : ¬ (packet rx).som)
    (hholds : Holds s.1 (sinceSom s.2)) (hj : Joined (sinceSom s.2 ++ [packet rx])) :
    let s' := (exec (vProcessRxMessage P E rx) s.1, s.2 ++ [packet rx])
    Sound s' ∧ PassesOn rx s s' := by
  have hsince : sinceSom (s.2 ++ [packet rx]) = sinceSom s.2 ++ [packet rx] := by
    rw [sinceSom_append, if_neg hsom]
  have hne := hholds.part.1.ne_nil
  obtain ⟨hnum, -, hfit⟩ := (hholds.joined_append hsom).mp hj
  have hfault : ¬ MAX_MULTIPART_BUFFER_SIZE < (s.1.completed rx).received := by
    simp only [View.payload, length_firstBytes] at hfit
    simp only [Bmc.completed]
    omega
  have hjoined : Fault.reassembly ∉ (s.1.joined rx).faults := by
    simpa [Bmc.joined, hfault] using hs.faults
  have hre := reassembly_of_accepts P E hacc
  rw [kind_of_accepts hacc, if_neg hsom, if_neg (not_not_intro hnum.symm)] at hre
  by_cases heom : (packet rx).eom
  · rw [if_pos heom] at hre
    simp only [Bmc.reassembly, Prod.mk.injEq, decide_eq_decide] at hre
    obtain ⟨-, hsz, hseq, hpassed, hf⟩ := hre
    have hcomplete : Complete (sinceSom s.2 ++ [packet rx]) :=
      (complete_append hne).mpr ⟨hholds.part, hj, heom⟩
    refine ⟨.of_empty (fun h => hjoined (hf.mp h)) ?_ ⟨hsz, hseq⟩, fun _ => ?_, fun h => ?_⟩
    · simp only [hsince]
      exact fun h => ((partial_append hne).mp h).2.2 heom
    · simp only [hsince]
      rw [hpassed, hholds.completed]
    · simp only [hsince] at h
      exact absurd ⟨hacc, hcomplete⟩ h
  · rw [if_neg heom] at hre
    simp only [Bmc.reassembly, Prod.mk.injEq, decide_eq_decide] at hre
    obtain ⟨hbuf, hsz, hseq, hpassed, hf⟩ := hre
    have hpart : Partial (sinceSom s.2 ++ [packet rx]) :=
      (partial_append hne).mpr ⟨hholds.part, hj, heom⟩
    have hbytes := hholds.completed rx
    refine ⟨⟨fun h => hjoined (hf.mp h), fun _ => ?_, fun h => ?_⟩, fun h => ?_, fun _ => hpassed⟩
    · simp only [hsince]
      refine ⟨hpart, ?_, ?_, ?_⟩
      · rw [hsz, ← hbytes, length_firstBytes]
      · simpa using hseq
      · rw [hbuf, hsz, hbytes]
    · simp only [hsince] at h
      exact absurd hpart h
    · simp only [hsince] at h
      exact absurd ((complete_append hne).mp h.2).2.2 heom

/-- **One packet in turn** keeps the endpoint sound and passes on what it completes. -/
theorem sound_step {P : Platform} {s s' : Bmc × List View} {a : Oracle × List UInt8}
    (hs : Sound s) (hok : InTurn s a) (hstep : observe P s a = some s') :
    Sound s' ∧ PassesOn a.2 s s' := by
  obtain ⟨E, rx⟩ := a
  by_cases hacc : Accepts s.1.EID rx
  · obtain rfl : (exec (vProcessRxMessage P E rx) s.1, s.2 ++ [packet rx]) = s' := by
      simpa [observe, step, hacc] using hstep
    obtain ⟨hfirst, hnext⟩ := hok hacc
    by_cases hsom : (packet rx).som
    · obtain ⟨hsound, hpassed, hnot⟩ := sound_of_som (P := P) (E := E) hs hacc hsom (hfirst hsom)
      exact ⟨hsound, fun h => absurd h.2 hnot, fun _ => hpassed⟩
    · by_cases hnum : (s.1.prv_seq_num + 1) % PKT_SEQ_MODULO ≠ (packet rx).seq_num
      · obtain ⟨hsound, hpassed, hnot⟩ := sound_of_stray (P := P) (E := E) hs hacc hsom hnum
        exact ⟨hsound, fun h => absurd h.2 hnot, fun _ => hpassed⟩
      · have hnum' := (not_not.mp hnum).symm
        obtain ⟨hsize, hsrc, hfit⟩ := hnext hsom hnum'
        have hpart : Partial (sinceSom s.2) := by
          by_contra h
          exact hsize (hs.empty h).1
        have hholds := hs.held hpart
        exact sound_of_next hs hacc hsom hholds
          ((hholds.joined_append hsom).mpr ⟨hnum', hsrc, hfit⟩)
  · obtain rfl : (exec (vProcessRxMessage P E rx) s.1, s.2) = s' := by
      simpa [observe, step, hacc] using hstep
    have hre := reassembly_of_not_accepts P E hacc
    have hre' := hre
    simp only [Bmc.reassembly, Prod.mk.injEq, decide_eq_decide] at hre'
    refine ⟨⟨fun h => hs.faults (hre'.2.2.2.2.mp h), fun h => (hs.held h).of_reassembly hre,
      fun h => ⟨hre'.2.1.trans (hs.empty h).1, hre'.2.2.1.trans (hs.empty h).2⟩⟩,
      fun h => absurd h.1 hacc, fun _ => hre'.2.2.2.1⟩

/-- **Reassembly.** In a run in which every packet comes in turn, nothing is written behind the
buffer, and the next packet in turn passes a message on exactly if the packets since the latest
`som` are then those of a complete message: the header of the first packet and the payloads of
all. -/
theorem reassembly {P : Platform} {repository : PDRRepositoryInfo} {s : Bmc × List View}
    (hs : Reaches (observe P) InTurn (.start repository, []) s) :
    Fault.reassembly ∉ s.1.faults ∧
      ∀ a s', InTurn s a → observe P s a = some s' → PassesOn a.2 s s' := by
  have hsound : Sound s := by
    refine hs.invariant Sound ?_ fun s a s' hI hok hstep => (sound_step hI hok hstep).1
    exact .of_empty (by simp [Bmc.start]) (fun h => h.1) ⟨rfl, rfl⟩
  exact ⟨hsound.faults, fun a s' hok hstep => (sound_step hsound hok hstep).2⟩

/-- A first packet with the start of a `GetEID` request. -/
def firstPacket : List UInt8 := [0x21, 1, 0, 8, 0x80, 0, 0x80, 2]

def lastPacket : List UInt8 := [0x21, 1, 0, 8, 0x50, 0xA5]

/-- A message of two packets is passed on as one. -/
theorem reassembly_run :
    ∃ s s', Reaches (observe board) InTurn (.start terminusRepository, []) s ∧
      observe board s (idle, lastPacket) = some s' ∧
      s'.1.passed = s.1.passed ++ [message (sinceSom s'.2)] := by
  have hrun : (run (guarded (observe board) InTurn) (.start terminusRepository, [])
      [(idle, firstPacket)]).any (fun s => decide (InTurn s (idle, lastPacket) ∧
        Accepts s.1.EID lastPacket ∧
        Complete (sinceSom (s.2 ++ [packet lastPacket])))) = true := by
    decide +kernel
  obtain ⟨s, hs, h⟩ := (Option.any_eq_true _ _).mp hrun
  obtain ⟨hturn, hacc, hcomplete⟩ := of_decide_eq_true h
  have hreach := Reaches.of_guarded_run _ .start hs
  have hstep : observe board s (idle, lastPacket) =
      some (exec (vProcessRxMessage board idle lastPacket) s.1, s.2 ++ [packet lastPacket]) := by
    simp [observe, step, hacc]
  exact ⟨s, _, hreach, hstep, ((reassembly hreach).2 _ _ hturn hstep).1 ⟨hacc, hcomplete⟩⟩

/-- **A first packet that finds a partial message** is dropped with it: the message that it starts
is complete and is not passed on, and its last packet is passed on alone. -/
theorem restarted_message_lost :
    ∃ s, Reaches (observe board) always (.start terminusRepository, []) s ∧
      Complete (sinceSom s.2) ∧ message (sinceSom s.2) ∉ s.1.passed ∧ s.1.passed = [[0xA5]] := by
  have hrun : (run (observe board) (.start terminusRepository, [])
      [(idle, firstPacket), (idle, firstPacket), (idle, lastPacket)]).any
      (fun s => decide (Complete (sinceSom s.2) ∧ message (sinceSom s.2) ∉ s.1.passed ∧
        s.1.passed = [[0xA5]])) = true := by
    decide +kernel
  obtain ⟨s, hs, h⟩ := (Option.any_eq_true _ _).mp hrun
  exact ⟨s, .of_run hs, of_decide_eq_true h⟩

end Amr.Mctp
