/-
# Every accepted request is answered once

Over the runs of `Amr/Ami/Task.lean`: a slot in use holds a request whose event has been raised
and which has no response yet, and every accepted request is either in exactly one slot or has
exactly one response, with its own id and the result of the one completion posted for it.

This holds over the runs without the failures that the driver only counts: an event that is not
raised, a heartbeat completion that is not posted, a response that is not written, a mutex that is
not taken after it was; and without a completion of type `AMI_MSG_TYPE_PDI_PROGRAM_COMPLETE`, which
the message switch does not know.
-/
import Amr.Ami.Task

namespace Amr.Ami

open Transition

/-- The event that announces a request of an opcode. -/
def AmiCmdOpcodeReq.event : AmiCmdOpcodeReq → Event
  | .bootSel => .bootSelect
  | .heartbeat => .heartbeat
  | .eepromRw => .eepromReadWrite
  | .moduleRw => .moduleReadWrite
  | .debugVerbosity => .debugVerbosity
  | .fptFlags => .fptFlags
  | .pdiDownload | .pdiProgram => .pdiDownloadStart
  | .sensor => .sensorRead
  | .pdiCopy => .pdiCopyStart
  | .identify => .getIdentity

/-! ### What is promised -/

/-- The event of the request has been raised, once, with the index of its slot unless it is a
heartbeat. -/
def Record.Raised (r : Record) (i : Fin AMI_RXDATA_SIZE) : Prop :=
  ∃ s, r.signals = [s] ∧ s.ucEventType = r.xOpCode.event ∧
    (r.xOpCode ≠ .heartbeat → s.ucInstance = i)

/-- The request has one completion and one response, which carries its id and the data and the
result of that completion. -/
def Record.Answered (r : Record) : Prop :=
  ∃ c xCmdResponse, r.completions = [c] ∧ c.response r.usCid = some xCmdResponse ∧
    r.responses = [xCmdResponse]

namespace Task

/-- The slot is in use for the request with a given serial. -/
def Holds (t : Task) (i : Fin AMI_RXDATA_SIZE) (n : ℕ) : Prop :=
  (t.xRxData i).ucInUse = true ∧ (t.xRxData i).serial = n

def recordOf (t : Task) (i : Fin AMI_RXDATA_SIZE) : Record := t.record (t.xRxData i).serial

/-- The application has the event of the slot and has not posted its completion. -/
def Awaiting (t : Task) (i : Fin AMI_RXDATA_SIZE) : Prop :=
  (t.xRxData i).ucInUse = true ∧ (t.xRxData i).xOpCode ≠ .heartbeat ∧
    ∀ m ∈ t.mbox, m.ucRxDataIndex ≠ i

instance (t : Task) (i : Fin AMI_RXDATA_SIZE) : Decidable (t.Awaiting i) :=
  inferInstanceAs (Decidable (_ ∧ _ ∧ _))

/-- The accounting of slots, requests and responses. -/
structure Accounted (t : Task) : Prop where
  /-- a slot in use holds an accepted request whose event has been raised and which is not
  answered: its completion is owed by the application, or is the one message for the slot -/
  held : ∀ i, (t.xRxData i).ucInUse = true →
    (t.xRxData i).serial < t.accepted ∧
    (t.recordOf i).usCid = (t.xRxData i).usCid ∧
    (t.recordOf i).xOpCode = (t.xRxData i).xOpCode ∧
    (t.recordOf i).Raised i ∧ (t.recordOf i).responses = [] ∧
    (t.Awaiting i ∧ (t.recordOf i).completions = [] ∨
      ∃ c, (t.recordOf i).completions = [c] ∧
        t.mbox.filter (fun m => m.ucRxDataIndex = (i : ℕ)) = [⟨i, c, (t.xRxData i).serial⟩])
  /-- an accepted request is in one slot, or is answered and in none -/
  once : ∀ n < t.accepted,
    (∃ i, t.Holds i n ∧ ∀ j, t.Holds j n → j = i) ∧ (t.record n).responses = [] ∨
      (∀ i, ¬ t.Holds i n) ∧ (t.record n).Answered

/-- The turns that handle what is in the mailbox, without failures, answer every request with a
completion and free its slot. -/
def Drains (t : Task) : Prop :=
  ∃ t', run step t (List.replicate t.mbox.length (.tx ⟨true, true⟩)) = some t' ∧
    ∀ n < t.accepted, (t.record n).completions ≠ [] →
      (t'.record n).completions = (t.record n).completions ∧ (t'.record n).Answered ∧
        ∀ i, ¬ t'.Holds i n

/-- A step that meets none of the failures, from the state before it. A request that gets no slot
is not accepted; a completion that does not fit into the mailbox is not posted. -/
def Clean (t : Task) : Action → Prop
  | .initialised => True
  | .rx image o => ∀ op ∈ opcodeOf image, (t.claimed o).isSome →
      o.raise.delivers = true ∧ (op = .heartbeat → o.raise = .ok ∧ o.postFails = false)
  | .complete ucInstance c fails => t.iInitialised = true → t.Posts fails →
      c.body ≠ .pdiProgramComplete ∧
        ∃ i : Fin AMI_RXDATA_SIZE, ucInstance = i ∧ t.Awaiting i
  | .tx o => t.mbox ≠ [] → o.written = true ∧ o.mutexTaken = true

instance (t : Task) (a : Action) : Decidable (t.Clean a) := by
  cases a <;> unfold Clean <;> infer_instance

/-! ### The functions in one case each -/

variable {t : Task}

theorem not_inUse_of_claimed {o : RxOutcome} {i : Fin AMI_RXDATA_SIZE}
    (h : t.claimed o = some i) : (t.xRxData i).ucInUse = false := by
  unfold claimed iFindNextFreeRxDataIndex at h
  split_ifs at h
  simpa using List.find?_some h

theorem rx_eq_storeAndRaise {image : ℕ} {op : AmiCmdOpcodeReq} (o : RxOutcome)
    (h : opcodeOf image = some op) (hop : op ≠ .heartbeat) :
    t.rx image o = t.storeAndRaise op op.event image o := by
  unfold rx
  rw [h]
  cases op <;> first | rfl | exact absurd rfl hop

/-- The state after a request is accepted, announced and, when `cs` is not empty, completed. -/
def accept (t : Task) (i : Fin AMI_RXDATA_SIZE) (op : AmiCmdOpcodeReq) (image : ℕ)
    (xNewSignal : EVLSignal) (cs : List Completion) : Task :=
  let usCid := (AMIProxyCmdReqHdr.ofImage image).usCid
  { t with
    xRxData := Function.update t.xRxData i ⟨true, op, usCid, rxRequest image op, t.accepted⟩
    mbox := t.mbox ++ cs.map fun c => ⟨i, c, t.accepted⟩
    accepted := t.accepted + 1
    record := Function.update t.record t.accepted ⟨usCid, op, [xNewSignal], cs, []⟩ }

theorem raiseEvent_claim {i : Fin AMI_RXDATA_SIZE} {op : AmiCmdOpcodeReq}
    {image : ℕ} {s : EVLSignal} {r : Raise} (h : r.delivers = true) :
    (t.claim i op image).raiseEvent t.accepted s r = t.accept i op image s [] := by
  simp [raiseEvent, h, claim, accept]

theorem post_accept {i : Fin AMI_RXDATA_SIZE} {op : AmiCmdOpcodeReq} {image : ℕ}
    {s : EVLSignal} {c : Completion} (hroom : t.mbox.length < AMI_MBOX_SIZE) :
    (t.accept i op image s []).post i c false = t.accept i op image s [c] := by
  have hposts : (t.accept i op image s []).Posts false := ⟨rfl, by simpa [accept] using hroom⟩
  rw [post, if_pos hposts]
  simp [postMsg, serialAt, accept]

theorem rx_cases {image : ℕ} {o : RxOutcome} (hclean : t.Clean (.rx image o))
    (hroom : t.mbox.length < AMI_MBOX_SIZE) :
    t.rx image o = t ∨
      ∃ op i, (t.xRxData i).ucInUse = false ∧
        (op ≠ .heartbeat ∧ t.rx image o = t.accept i op image ⟨op.event, i⟩ [] ∨
          op = .heartbeat ∧ ∃ s c, s.ucEventType = .heartbeat ∧ c.body ≠ .pdiProgramComplete ∧
            t.rx image o = t.accept i op image s [c]) := by
  cases hop : opcodeOf image with
  | none => exact .inl (by simp [rx, hop])
  | some op =>
    cases hi : t.claimed o with
    | none =>
      left
      by_cases hb : op = .heartbeat
      · subst hb
        simp [rx, hop, iHandleHeartbeatRequest, hi]
      · rw [rx_eq_storeAndRaise o hop hb, storeAndRaise, hi]
    | some i =>
      right
      obtain ⟨hdel, hbeat⟩ := hclean op hop (by simp [hi])
      refine ⟨op, i, not_inUse_of_claimed hi, ?_⟩
      by_cases hb : op = .heartbeat
      · subst hb
        obtain ⟨hok, hpost⟩ := hbeat rfl
        refine .inr ⟨rfl, ⟨.heartbeat, bytePayload image⟩,
          ⟨.heartbeatComplete (UInt8.ofNat (bytePayload image)), .success⟩, rfl, nofun, ?_⟩
        simp only [rx, hop, iHandleHeartbeatRequest, hi, hok, hpost, if_true,
          raiseEvent_claim (r := Raise.ok) rfl, post_accept hroom]
      · refine .inl ⟨hb, ?_⟩
        rw [rx_eq_storeAndRaise o hop hb, storeAndRaise, hi]
        exact raiseEvent_claim hdel

theorem tx_cons {m : MboxMsg} {mbox : List MboxMsg} {i : Fin AMI_RXDATA_SIZE}
    (hm : t.mbox = m :: mbox) (hi : m.ucRxDataIndex = i)
    (hbody : m.completion.body ≠ .pdiProgramComplete) :
    ∃ r, m.completion.response (t.xRxData i).usCid = some r ∧
      t.tx ⟨true, true⟩ =
        some { t with
          mbox := mbox
          xRxData := Function.update t.xRxData i { t.xRxData i with ucInUse := false }
          record := Function.update t.record m.serial
            { t.record m.serial with responses := (t.record m.serial).responses ++ [r] } } := by
  have hsome := (Completion.response_isSome_iff (t.xRxData i).usCid m.completion).mpr hbody
  obtain ⟨r, hr⟩ := Option.isSome_iff_exists.mp hsome
  have hpay : m.completion.body.payload.isNone = false := by
    cases hp : m.completion.body.payload with
    | none => simp [Completion.response, hp] at hr
    | some p => rfl
  obtain ⟨k, c, n⟩ := m
  subst hi
  refine ⟨r, hr, ?_⟩
  simp [tx, hm, hpay, hr, respond, free]

/-! ### The invariant -/

/-- What links slots, messages and records. -/
structure Inv (t : Task) : Prop where
  held : ∀ i, (t.xRxData i).ucInUse = true →
    (t.xRxData i).serial < t.accepted ∧
    (t.recordOf i).usCid = (t.xRxData i).usCid ∧
    (t.recordOf i).xOpCode = (t.xRxData i).xOpCode ∧
    (t.recordOf i).Raised i ∧ (t.recordOf i).responses = []
  /-- two slots in use hold different requests -/
  inj : ∀ i j, (t.xRxData i).ucInUse = true → (t.xRxData j).ucInUse = true →
    (t.xRxData i).serial = (t.xRxData j).serial → i = j
  /-- a message is for a slot in use, and is the only completion of its request -/
  queued : ∀ m ∈ t.mbox, ∃ i, m.ucRxDataIndex = (i : Fin AMI_RXDATA_SIZE) ∧
    (t.xRxData i).ucInUse = true ∧ m.serial = (t.xRxData i).serial ∧
    (t.record m.serial).completions = [m.completion] ∧
    m.completion.body ≠ .pdiProgramComplete
  nodup : (t.mbox.map (·.ucRxDataIndex)).Nodup
  /-- a slot without a message waits for the application -/
  waiting : ∀ i, (t.xRxData i).ucInUse = true → (∀ m ∈ t.mbox, m.ucRxDataIndex ≠ i) →
    (t.recordOf i).completions = [] ∧ (t.xRxData i).xOpCode ≠ .heartbeat
  answered : ∀ n < t.accepted, (∀ i, ¬ t.Holds i n) → (t.record n).Answered

namespace Inv

variable {t : Task}

theorem start (h : t.IsStart) : Inv t where
  held i hi := by simp [h.free i] at hi
  inj i j hi := by simp [h.free i] at hi
  queued m hm := by simp [h.mbox] at hm
  nodup := by simp [h.mbox]
  waiting i hi := by simp [h.free i] at hi
  answered n hn := by simp [h.accepted] at hn

theorem room (h : Inv t) : t.mbox.length < AMI_MBOX_SIZE := by
  have hsub : t.mbox.map (·.ucRxDataIndex) ⊆ List.range AMI_RXDATA_SIZE := by
    intro k hk
    obtain ⟨m, hm, rfl⟩ := List.mem_map.mp hk
    obtain ⟨i, hi, _⟩ := h.queued m hm
    simp [hi]
  have hlen := (h.nodup.subperm hsub).length_le
  simp only [List.length_map, List.length_range] at hlen
  exact hlen.trans_lt (by decide)

theorem accept (h : Inv t) {i : Fin AMI_RXDATA_SIZE} {op : AmiCmdOpcodeReq} {image : ℕ}
    {s : EVLSignal} {cs : List Completion} (hfree : (t.xRxData i).ucInUse = false)
    (hs : s.ucEventType = op.event) (hinst : op ≠ .heartbeat → s.ucInstance = i)
    (hcs : cs = [] ∧ op ≠ .heartbeat ∨ ∃ c, cs = [c] ∧ c.body ≠ .pdiProgramComplete) :
    Inv (t.accept i op image s cs) := by
  have hold : ∀ j, j ≠ i → (t.xRxData j).ucInUse = true → (t.xRxData j).serial ≠ t.accepted :=
    fun j _ hj => (h.held j hj).1.ne
  have hnomsg : ∀ m ∈ t.mbox, m.ucRxDataIndex ≠ i := by
    intro m hm hmi
    obtain ⟨j, hj, huse, _⟩ := h.queued m hm
    obtain rfl : j = i := Fin.ext (hj.symm.trans hmi)
    simp [hfree] at huse
  refine ⟨?_, ?_, ?_, ?_, ?_, ?_⟩
  · intro j hj
    by_cases hji : j = i
    · subst hji
      refine ⟨by simp [Task.accept], by simp [Task.accept, recordOf],
        by simp [Task.accept, recordOf], ?_, by simp [Task.accept, recordOf]⟩
      exact ⟨s, by simp [Task.accept, recordOf], by simpa [Task.accept, recordOf] using hs,
        by simpa [Task.accept, recordOf] using hinst⟩
    · have huse : (t.xRxData j).ucInUse = true := by simpa [Task.accept, hji] using hj
      have hne := hold j hji huse
      simpa [Task.accept, recordOf, hji, hne] using
        ⟨(h.held j huse).1.le, (h.held j huse).2⟩
  · intro j k hj hk hjk
    by_cases hji : j = i <;> by_cases hki : k = i
    · rw [hji, hki]
    · subst hji
      have huse : (t.xRxData k).ucInUse = true := by simpa [Task.accept, hki] using hk
      exact absurd (by simpa [Task.accept, hki] using hjk.symm) (hold k hki huse)
    · subst hki
      have huse : (t.xRxData j).ucInUse = true := by simpa [Task.accept, hji] using hj
      exact absurd (by simpa [Task.accept, hji] using hjk) (hold j hji huse)
    · refine h.inj j k ?_ ?_ ?_
      · simpa [Task.accept, hji] using hj
      · simpa [Task.accept, hki] using hk
      · simpa [Task.accept, hji, hki] using hjk
  · intro m hm
    rcases List.mem_append.mp hm with hold_m | hnew
    · obtain ⟨j, hj, huse, hser, hcomp, hbody⟩ := h.queued m hold_m
      have hji : j ≠ i := by rintro rfl; exact hnomsg m hold_m hj
      have hne : m.serial ≠ t.accepted := hser ▸ hold j hji huse
      exact ⟨j, hj, by simpa [Task.accept, hji] using huse,
        by simpa [Task.accept, hji] using hser, by simpa [Task.accept, hne] using hcomp, hbody⟩
    · obtain ⟨c, hc, rfl⟩ := List.mem_map.mp hnew
      rcases hcs with ⟨rfl, _⟩ | ⟨c', rfl, hbody⟩
      · simp at hc
      · obtain rfl : c = c' := by simpa using hc
        exact ⟨i, rfl, by simp [Task.accept], by simp [Task.accept], by simp [Task.accept], hbody⟩
  · have hnodup := h.nodup
    rcases hcs with ⟨rfl, _⟩ | ⟨c, rfl, _⟩
    · simpa [Task.accept] using hnodup
    · simp only [Task.accept, List.map_append, List.map_cons, List.map_nil]
      refine hnodup.append (by simp) ?_
      simp only [List.disjoint_singleton, List.mem_map, not_exists, not_and]
      exact hnomsg
  · intro j hj hno
    by_cases hji : j = i
    · subst hji
      rcases hcs with ⟨rfl, hop⟩ | ⟨c, rfl, _⟩
      · exact ⟨by simp [Task.accept, recordOf], by simpa [Task.accept] using hop⟩
      · exact absurd rfl (hno ⟨j, c, t.accepted⟩ (by simp [Task.accept]))
    · have huse : (t.xRxData j).ucInUse = true := by simpa [Task.accept, hji] using hj
      have hne := hold j hji huse
      have hno' : ∀ m ∈ t.mbox, m.ucRxDataIndex ≠ j :=
        fun m hm => hno m (List.mem_append_left _ hm)
      simpa [Task.accept, recordOf, hji, hne] using h.waiting j huse hno'
  · intro n hn hnot
    have hni : n ≠ t.accepted := by
      rintro rfl
      exact hnot i ⟨by simp [Task.accept], by simp [Task.accept]⟩
    have hlt : n < t.accepted := by
      have : n < t.accepted + 1 := hn
      omega
    have hans := h.answered n hlt fun j ⟨huse, hser⟩ => by
      have hji : j ≠ i := by rintro rfl; simp [hfree] at huse
      exact hnot j ⟨by simpa [Task.accept, hji] using huse,
        by simpa [Task.accept, hji] using hser⟩
    simpa [Task.accept, hni] using hans

theorem postMsg (h : Inv t) {i : Fin AMI_RXDATA_SIZE} {c : Completion} (hwait : t.Awaiting i)
    (hbody : c.body ≠ .pdiProgramComplete) : Inv (t.postMsg i c) := by
  obtain ⟨huse, hop, hnomsg⟩ := hwait
  have hser : t.serialAt i = (t.xRxData i).serial := by simp [serialAt]
  have hempty : (t.record (t.xRxData i).serial).completions = [] :=
    (h.waiting i huse hnomsg).1
  have hother : ∀ j, (t.xRxData j).ucInUse = true → j ≠ i →
      (t.xRxData j).serial ≠ (t.xRxData i).serial := fun j hj hji he => hji (h.inj j i hj huse he)
  refine ⟨?_, h.inj, ?_, ?_, ?_, ?_⟩
  · intro j hj
    obtain ⟨hlt, hcid, hopc, hraised, hresp⟩ := h.held j hj
    by_cases hji : j = i
    · subst hji
      refine ⟨hlt, ?_, ?_, ?_, ?_⟩ <;>
        simpa [Task.postMsg, recordOf, hser, Record.Raised] using ‹_›
    · have hne := hother j hj hji
      refine ⟨hlt, ?_, ?_, ?_, ?_⟩ <;>
        simpa [Task.postMsg, recordOf, hser, hne, Record.Raised] using ‹_›
  · intro m hm
    rcases List.mem_append.mp hm with hold | hnew
    · obtain ⟨j, hj, hjuse, hmser, hcomp, hmbody⟩ := h.queued m hold
      have hji : j ≠ i := by rintro rfl; exact hnomsg m hold hj
      have hne : m.serial ≠ (t.xRxData i).serial := hmser ▸ hother j hjuse hji
      exact ⟨j, hj, hjuse, hmser, by simpa [Task.postMsg, hser, hne] using hcomp, hmbody⟩
    · obtain rfl : m = ⟨i, c, t.serialAt i⟩ := by simpa using hnew
      exact ⟨i, rfl, huse, hser, by simp [Task.postMsg, hser, hempty], hbody⟩
  · have hnodup := h.nodup
    simp only [Task.postMsg, List.map_append, List.map_cons, List.map_nil]
    refine hnodup.append (by simp) ?_
    simp only [List.disjoint_singleton, List.mem_map, not_exists, not_and]
    exact hnomsg
  · intro j hj hno
    have hji : j ≠ i := by
      rintro rfl
      exact hno ⟨j, c, t.serialAt j⟩ (by simp [Task.postMsg]) rfl
    have hno' : ∀ m ∈ t.mbox, m.ucRxDataIndex ≠ j :=
      fun m hm => hno m (List.mem_append_left _ hm)
    simpa [Task.postMsg, recordOf, hser, hother j hj hji] using h.waiting j hj hno'
  · intro n hn hnot
    have hne : n ≠ (t.xRxData i).serial := fun he => hnot i ⟨huse, he.symm⟩
    simpa [Task.postMsg, hser, hne] using h.answered n hn hnot

theorem tx (h : Inv t) {m : MboxMsg} {mbox : List MboxMsg} (hm : t.mbox = m :: mbox) :
    ∃ t', t.tx ⟨true, true⟩ = some t' ∧ Inv t' ∧ t'.mbox = mbox ∧ t'.accepted = t.accepted ∧
      ∀ n, (t'.record n).completions = (t.record n).completions := by
  obtain ⟨i, hi, huse, hser, hcomp, hbody⟩ := h.queued m (by simp [hm])
  obtain ⟨r, hr, htx⟩ := tx_cons hm hi hbody
  refine ⟨_, htx, ?_, rfl, rfl, ?_⟩
  swap
  · intro n
    by_cases hn : n = m.serial
    · subst hn; simp
    · simp [hn]
  have hother : ∀ j, (t.xRxData j).ucInUse = true → j ≠ i → (t.xRxData j).serial ≠ m.serial :=
    fun j hj hji he => hji (h.inj j i hj huse (he.trans hser))
  have hnodup : m.ucRxDataIndex ∉ mbox.map (·.ucRxDataIndex) ∧
      (mbox.map (·.ucRxDataIndex)).Nodup := by
    have := h.nodup
    rw [hm] at this
    exact List.nodup_cons.mp this
  refine ⟨?_, ?_, ?_, hnodup.2, ?_, ?_⟩
  · intro j hj
    have hji : j ≠ i := by rintro rfl; simp at hj
    have hjuse : (t.xRxData j).ucInUse = true := by simpa [hji] using hj
    simpa [recordOf, hji, hother j hjuse hji] using h.held j hjuse
  · intro j k hj hk hjk
    have hji : j ≠ i := by rintro rfl; simp at hj
    have hki : k ≠ i := by rintro rfl; simp at hk
    simp only [ne_eq, hji, not_false_eq_true, Function.update_of_ne, hki] at hj hk hjk
    exact h.inj j k hj hk hjk
  · intro m' hm'
    obtain ⟨j, hj, hjuse, hmser, hmcomp, hmbody⟩ := h.queued m' (by simp [hm, hm'])
    have hji : j ≠ i := by
      rintro rfl
      exact hnodup.1 (List.mem_map.mpr ⟨m', hm', hj.trans hi.symm⟩)
    have hne : m'.serial ≠ m.serial := hmser ▸ hother j hjuse hji
    exact ⟨j, hj, by simpa [hji] using hjuse, by simpa [hji] using hmser,
      by simpa [hne] using hmcomp, hmbody⟩
  · intro j hj hno
    have hji : j ≠ i := by rintro rfl; simp at hj
    have hjuse : (t.xRxData j).ucInUse = true := by simpa [hji] using hj
    have hno' : ∀ m' ∈ t.mbox, m'.ucRxDataIndex ≠ j := by
      intro m' hm'
      rcases List.mem_cons.mp (hm ▸ hm') with rfl | hm'
      · exact fun he => hji (Fin.ext (he.symm.trans hi))
      · exact hno m' hm'
    simpa [recordOf, hji, hother j hjuse hji] using h.waiting j hjuse hno'
  · intro n hn hnot
    by_cases hnm : n = m.serial
    · subst hnm
      have hheld := h.held i huse
      refine ⟨m.completion, r, by simpa using hcomp, ?_, ?_⟩
      · have hcid : (t.record m.serial).usCid = (t.xRxData i).usCid := hser ▸ hheld.2.1
        simpa [hcid] using hr
      · have hresp : (t.record m.serial).responses = [] := hser ▸ hheld.2.2.2.2
        simp [hresp]
    · have hans := h.answered n hn fun j ⟨hjuse, hjser⟩ => by
        have hji : j ≠ i := by
          rintro rfl
          exact hnm (hjser.symm.trans hser.symm)
        exact hnot j ⟨by simpa [hji] using hjuse, by simpa [hji] using hjser⟩
      simpa [hnm] using hans

/-- **The invariant holds along every run without the counted failures.** -/
theorem step (h : Inv t) {a : Action} {t' : Task} (hclean : t.Clean a)
    (hstep : Ami.step t a = some t') : Inv t' := by
  cases a with
  | initialised =>
    obtain rfl := Option.some.inj hstep
    exact ⟨h.held, h.inj, h.queued, h.nodup, h.waiting, h.answered⟩
  | rx image o =>
    obtain rfl := Option.some.inj hstep
    rcases rx_cases hclean h.room with he | ⟨op, i, hfree, ⟨hop, he⟩ | ⟨rfl, s, c, hs, hc, he⟩⟩
    · rwa [he]
    · rw [he]
      exact h.accept hfree rfl (fun _ => rfl) (.inl ⟨rfl, hop⟩)
    · rw [he]
      exact h.accept hfree hs (fun hne => absurd rfl hne) (.inr ⟨c, rfl, hc⟩)
  | complete ucInstance c fails =>
    obtain rfl := Option.some.inj hstep
    unfold setResponse post
    split_ifs with hinit hposts
    · obtain ⟨hbody, i, rfl, hwait⟩ := hclean hinit hposts
      exact h.postMsg hwait hbody
    · exact h
    · exact h
  | tx o =>
    cases hm : t.mbox with
    | nil =>
      obtain rfl : t = t' := by simpa [Ami.step, Task.tx, hm] using hstep
      exact h
    | cons m mbox =>
      obtain ⟨hwritten, htaken⟩ := hclean (by simp [hm])
      obtain ⟨written, mutexTaken⟩ := o
      obtain rfl : written = true := hwritten
      obtain rfl : mutexTaken = true := htaken
      obtain ⟨t₁, htx, hinv, _⟩ := h.tx hm
      obtain rfl : t₁ = t' := Option.some.inj (htx.symm.trans hstep)
      exact hinv

theorem accounted (h : Inv t) : t.Accounted where
  held i hi := by
    obtain ⟨hlt, hcid, hop, hraised, hresp⟩ := h.held i hi
    refine ⟨hlt, hcid, hop, hraised, hresp, ?_⟩
    by_cases hno : ∀ m ∈ t.mbox, m.ucRxDataIndex ≠ i
    · obtain ⟨hcomp, hbeat⟩ := h.waiting i hi hno
      exact .inl ⟨⟨hi, hbeat, hno⟩, hcomp⟩
    · right
      push Not at hno
      obtain ⟨m, hm, hmi⟩ := hno
      obtain ⟨j, hj, -, hser, hcomp, -⟩ := h.queued m hm
      obtain rfl : j = i := Fin.ext (hj.symm.trans hmi)
      refine ⟨m.completion, by simpa [recordOf, hser] using hcomp, ?_⟩
      -- the indices of the messages are distinct, so `m` is the only one for the slot
      have hone : t.mbox.filter (fun m' => m'.ucRxDataIndex = (j : ℕ)) = [m] := by
        refine List.perm_singleton.mp ((List.perm_ext_iff_of_nodup
          ((h.nodup.of_map _).filter _) (List.nodup_singleton m)).mpr fun m' => ?_)
        simp only [List.mem_filter, decide_eq_true_eq, List.mem_singleton]
        refine ⟨fun ⟨hm', hj'⟩ => List.inj_on_of_nodup_map h.nodup hm' hm (hj'.trans hmi.symm), ?_⟩
        rintro rfl
        exact ⟨hm, hmi⟩
      rw [hone, ← hmi, ← hser]
  once n hn := by
    by_cases hh : ∃ i, t.Holds i n
    · obtain ⟨i, huse, hser⟩ := hh
      refine .inl ⟨⟨i, ⟨huse, hser⟩, fun j hj => h.inj j i hj.1 huse (hj.2.trans hser.symm)⟩, ?_⟩
      have hresp := (h.held i huse).2.2.2.2
      rwa [recordOf, hser] at hresp
    · push Not at hh
      exact .inr ⟨hh, h.answered n hn hh⟩

theorem run_tx (k : ℕ) : ∀ {t : Task}, Inv t → t.mbox.length = k →
    ∃ t', run Ami.step t (List.replicate k (.tx ⟨true, true⟩)) = some t' ∧ Inv t' ∧
      t'.mbox = [] ∧ t'.accepted = t.accepted ∧
      ∀ n, (t'.record n).completions = (t.record n).completions := by
  induction k with
  | zero =>
    intro t h hlen
    exact ⟨t, rfl, h, List.eq_nil_of_length_eq_zero hlen, rfl, fun _ => rfl⟩
  | succ k ih =>
    intro t h hlen
    obtain ⟨m, mbox, hm⟩ := List.exists_cons_of_length_eq_add_one hlen
    obtain ⟨t₁, htx, h₁, hmbox, hacc, hcomp⟩ := h.tx hm
    have hlen₁ : t₁.mbox.length = k := by
      rw [hmbox]
      simpa [hm] using hlen
    obtain ⟨t', hrun, h', hempty, hacc', hcomp'⟩ := ih h₁ hlen₁
    refine ⟨t', ?_, h', hempty, hacc'.trans hacc, fun n => (hcomp' n).trans (hcomp n)⟩
    simp only [List.replicate_succ, run, Ami.step, htx, Option.bind_some]
    exact hrun

theorem drains (h : Inv t) : t.Drains := by
  obtain ⟨t', hrun, h', hempty, hacc, hcomp⟩ := h.run_tx _ rfl
  refine ⟨t', hrun, fun n hn hpost => ⟨hcomp n, ?_⟩⟩
  have hnot : ∀ i, ¬ t'.Holds i n := by
    rintro i ⟨huse, rfl⟩
    have hwait := (h'.waiting i huse (by simp [hempty])).1
    exact hpost ((hcomp _).symm.trans hwait)
  exact ⟨h'.answered n (hacc ▸ hn) hnot, hnot⟩

end Inv

/-! ### Every run -/

/-- **Request and response accounting.** In every run without the counted failures, every slot in
use is accounted for, every accepted request has exactly one response or is in exactly one slot,
and what is in the mailbox is answered by as many turns of the task. -/
theorem accounted_of_clean_run {t₀ t : Task} (h₀ : t₀.IsStart) (h : Reaches step Clean t₀ t) :
    t.Accounted ∧ t.Drains := by
  have hinv : Inv t := h.invariant Inv (Inv.start h₀) fun _ _ _ hi hok hs => hi.step hok hs
  exact ⟨hinv.accounted, hinv.drains⟩

def zero : Task :=
  ⟨false, fun _ => ⟨false, .bootSel, 0, .none, 0⟩, [], 0, fun _ => ⟨0, .bootSel, [], [], []⟩⟩

theorem zero_isStart : zero.IsStart := ⟨fun _ => rfl, rfl, rfl⟩

/-- A heartbeat and an identity request, answered, and a sensor request on its way. -/
def cleanRun : List Action :=
  [.initialised, .rx 0x500000002 ⟨true, .ok, false⟩, .rx 0x600000202 ⟨true, .ok, false⟩,
    .tx ⟨true, true⟩, .complete 1 ⟨.identityComplete ⟨2, 3, 0, 1, 7, 2, 0⟩, .success⟩ false,
    .rx 0x70000000C ⟨true, .ok, false⟩, .tx ⟨true, true⟩]

theorem accounted_of_clean_run_example : ∃ t : Task, t.accepted = 3 ∧
    (t.record 1).responses.map (·.usCid) = [6] ∧ t.Accounted ∧ t.Drains := by
  have h : (run (guarded step Clean) zero cleanRun).any (fun t =>
      decide (t.accepted = 3 ∧ (t.record 1).responses.map (·.usCid) = [6])) = true := by
    decide +kernel
  obtain ⟨t, hrun, ht⟩ := (Option.any_eq_true _ _).mp h
  obtain ⟨hacc, hcid⟩ := of_decide_eq_true ht
  have hreach : Reaches step Clean zero t := .of_guarded_run cleanRun .start hrun
  exact ⟨t, hacc, hcid, accounted_of_clean_run zero_isStart hreach⟩

/-! ### The counted failures -/

/-- A slot is in use although its event was not raised, or its completion has left the mailbox, or
its request has a response. -/
def Leaks (t : Task) : Prop :=
  ∃ i, (t.xRxData i).ucInUse = true ∧
    ((t.recordOf i).signals = [] ∨ (t.recordOf i).responses ≠ [] ∨
      (∀ m ∈ t.mbox, m.ucRxDataIndex ≠ i) ∧
        ((t.recordOf i).completions ≠ [] ∨ (t.xRxData i).xOpCode = .heartbeat))

instance (t : Task) : Decidable t.Leaks := by
  unfold Leaks recordOf
  infer_instance

theorem Accounted.not_leaks (h : t.Accounted) : ¬ t.Leaks := by
  rintro ⟨i, huse, hleak⟩
  obtain ⟨-, -, hop, ⟨s, hs, -⟩, hresp, hcomp⟩ := h.held i huse
  rcases hleak with hsig | hres | ⟨hno, hgone⟩
  · simp [hs] at hsig
  · exact hres hresp
  · rcases hcomp with ⟨⟨-, hbeat, -⟩, hnil⟩ | ⟨c, -, hone⟩
    · rcases hgone with hne | hhb
      · exact hne hnil
      · exact hbeat hhb
    · have hmem : (⟨i, c, (t.xRxData i).serial⟩ : MboxMsg) ∈
          t.mbox.filter (fun m => m.ucRxDataIndex = (i : ℕ)) := by simp [hone]
      exact hno _ (List.mem_filter.mp hmem).1 rfl

/-- One run for each failure: an event that is not raised, a heartbeat completion that is not
posted, a response that is not written, a mutex that is not taken to free the slot, and the
completion of a PDI program request. -/
def failingRuns : List (List Action) :=
  [[.initialised, .rx 0x202 ⟨true, .failed, false⟩],
    [.initialised, .rx 0x2 ⟨true, .ok, true⟩],
    [.initialised, .rx 0x2 ⟨true, .ok, false⟩, .tx ⟨false, true⟩],
    [.initialised, .rx 0x2 ⟨true, .ok, false⟩, .tx ⟨true, false⟩],
    [.initialised, .rx 0xB ⟨true, .ok, false⟩, .complete 0 ⟨.pdiProgramComplete, .success⟩ false,
      .tx ⟨true, true⟩]]

theorem failingRuns_leak :
    ∀ acts ∈ failingRuns, ∃ t, Reaches step always zero t ∧ t.Leaks := by
  intro acts hacts
  have h : ∀ acts ∈ failingRuns, (run step zero acts).any (fun t => decide t.Leaks) = true := by
    decide +kernel
  obtain ⟨t, hrun, ht⟩ := (Option.any_eq_true _ _).mp (h acts hacts)
  exact ⟨t, .of_run hrun, of_decide_eq_true ht⟩

/-- A heartbeat whose response does not fit into the completion queue keeps its slot for ever. -/
theorem not_accounted_in_every_run :
    ¬ ∀ t₀ t : Task, t₀.IsStart → Reaches step always t₀ t → t.Accounted ∧ t.Drains := by
  intro hall
  obtain ⟨t, hreach, hleaks⟩ := failingRuns_leak
    [.initialised, .rx 0x2 ⟨true, .ok, false⟩, .tx ⟨false, true⟩] (by decide)
  exact (hall zero t zero_isStart hreach).1.not_leaks hleaks

end Task
end Amr.Ami
