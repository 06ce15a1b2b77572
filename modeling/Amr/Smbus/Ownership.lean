/-
# Who owns the bus

`ucInstanceInPlay` is set by an accepted command and cleared when the state machine of that
instance resets. A target transfer never sets it, so target states occur without an owner. For the
controller states the pairing is exact (`Owned`): an instance in a controller state is the one in
play, and the one in play is in a controller state or has its first event still queued.

Two slips of the source break this. A command other than `ucI2CWriteData` is accepted for an
instance that is not in use, or that still has events of an earlier life queued; and a controller
interrupt that reports both an almost empty descriptor FIFO and the end of the transfer lets the
first of the two events queue a byte to send behind the second, which ends the transfer. The runs
considered do neither (`Disciplined`).
-/
import Amr.Smbus.Entry

namespace Amr.Smbus

open StateProgram Transition

set_option synthInstance.maxSize 20000
set_option synthInstance.maxHeartbeats 200000

/-! ### Sending -/

/-- The instance ends in one of the states. -/
def Lands (n : ℕ) (next : List State) (_ s' : Profile) : Prop := s'.xState n ∈ next

instance (n : ℕ) (next : List State) {α β : Type} (m : Routine α) (f : α → Routine β)
    [hf : ∀ a, Within (Lands n next) (f a)] : Within (Lands n next) (m >>= f) :=
  ⟨fun s => (hf (value m s)).rel (exec m s)⟩

instance (n : ℕ) (next : List State) (st : State) [h : Listed st next] :
    Within (Lands n next) (vSMBusNextStateDecoder n st) :=
  ⟨fun _ => by simpa [Lands, vSMBusNextStateDecoder] using h.mem⟩

instance (n : ℕ) (p : Protocol) :
    Within (Lands n (.AWAITING_DONE :: controllerStates)) (vStartCommand n p) := by
  unfold vStartCommand; infer_instance

/-- At most one `SEND_NEXT_BYTE` is queued. -/
def SendsOnce (n : ℕ) (s s' : Profile) : Prop :=
  s'.xEventSrcCircularBuf n = s.xEventSrcCircularBuf n ∨
    s'.xEventSrcCircularBuf n = s.xEventSrcCircularBuf n ++ [.SEND_NEXT_BYTE]

section SendsOnce

variable (n : ℕ)

instance (priority := low) {α : Type} (m : Routine α) [h : Within Data m] :
    Within (Same Profile.xEventSrcCircularBuf) m := by
  refine ⟨fun s => ?_⟩
  have hdata := h.rel s
  simp only [Data, Same, Profile.control, Prod.mk.injEq] at hdata
  exact hdata.2.2.2.2.2.1

instance (st : State) :
    Within (Same Profile.xEventSrcCircularBuf) (vSMBusNextStateDecoder n st) :=
  ⟨fun _ => rfl⟩

instance (priority := low) {α : Type} (m : Routine α)
    [h : Within (Same Profile.xEventSrcCircularBuf) m] : Within (SendsOnce n) m :=
  ⟨fun s => .inl (congrFun (h.rel s) n)⟩

instance {α β : Type} (m : Routine α) (f : α → Routine β)
    [hm : Within (Same Profile.xEventSrcCircularBuf) m] [hf : ∀ a, Within (SendsOnce n) (f a)] :
    Within (SendsOnce n) (m >>= f) := by
  refine ⟨fun s => ?_⟩
  have h := (hf (value m s)).rel (exec m s)
  rwa [SendsOnce, congrFun (hm.rel s) n] at h

instance {β : Type} (f : Unit → Routine β)
    [hf : ∀ a, Within (Same Profile.xEventSrcCircularBuf) (f a)] :
    Within (SendsOnce n) (vSMBusHandleActionCreateEventSendNextByte n >>= f) := by
  refine ⟨fun s => ?_⟩
  have h := (hf ()).rel (exec (vSMBusHandleActionCreateEventSendNextByte n) s)
  rw [SendsOnce, exec_bind, congrFun h n, vSMBusHandleActionCreateEventSendNextByte,
    vSMBusCreateEvent_effect]
  simp only [Function.update_self, pushEvent]
  split
  · exact .inr rfl
  · exact .inl rfl

instance (p : Protocol) : Within (SendsOnce n) (vStartCommand n p) := by
  unfold vStartCommand; infer_instance

instance (t : Transfer) : Within (SendsOnce n) (vWriteLast n t) := by
  unfold vWriteLast; infer_instance

instance : Within (SendsOnce n) (vControllerWrite n) := by
  unfold vControllerWrite; infer_instance

end SendsOnce

/-- The state and event in which a handler may queue the next byte to send. -/
def Sends (st : State) (e : Event) : Prop :=
  e = .SEND_NEXT_BYTE ∧ st ∈ [.INITIAL, .CONTROLLER_SEND_COMMAND, .CONTROLLER_WRITE_BYTE] ∨
    e = .CONTROLLER_DESC_FIFO_ALMOST_EMPTY_IRQ ∧ st = .CONTROLLER_WRITE_BYTE

variable {n : ℕ} {e : Event}

theorem vSMBusFSM_sends {s : Profile} (h : Sends (s.xState n) e) :
    ControllerStep n [.SEND_NEXT_BYTE] s (exec (vSMBusFSM n e) s) ∧
      SendsOnce n s (exec (vSMBusFSM n e) s) := by
  suffices hm : ∃ m : Routine Unit, Within (ControllerStep n [.SEND_NEXT_BYTE]) m ∧
      Within (SendsOnce n) m ∧ exec (vSMBusFSM n e) s = exec m s by
    obtain ⟨m, hstep, honce, heq⟩ := hm
    rw [heq]
    exact ⟨hstep.rel s, honce.rel s⟩
  rcases h with ⟨rfl, hst⟩ | ⟨rfl, hst⟩
  · simp only [List.mem_cons, List.not_mem_nil, or_false] at hst
    rcases hst with hst | hst | hst
    · refine ⟨vStateInitial n .SEND_NEXT_BYTE, ?_, ?_, ?_⟩
      · unfold vStateInitial; infer_instance
      · unfold vStateInitial; infer_instance
      · rw [vSMBusFSM, exec_get_bind, hst]
    · refine ⟨vStateControllerSendCommand n .SEND_NEXT_BYTE, ?_, ?_, ?_⟩
      · unfold vStateControllerSendCommand; infer_instance
      · unfold vStateControllerSendCommand; infer_instance
      · rw [vSMBusFSM, exec_get_bind, hst]
    · refine ⟨vControllerWrite n, inferInstance, inferInstance, ?_⟩
      rw [vSMBusFSM, exec_get_bind, hst, vStateControllerWriteByte]
  · refine ⟨vControllerWrite n, inferInstance, inferInstance, ?_⟩
    rw [vSMBusFSM, exec_get_bind, hst, vStateControllerWriteByte]

theorem vSMBusFSM_lands {s : Profile} (h : s.xState n = .INITIAL) :
    (exec (vSMBusFSM n .SEND_NEXT_BYTE) s).xState n ∈ .AWAITING_DONE :: controllerStates := by
  have hm : Within (Lands n (.AWAITING_DONE :: controllerStates))
      (vStateInitial n .SEND_NEXT_BYTE) := by
    unfold vStateInitial; infer_instance
  rw [vSMBusFSM, exec_get_bind, h]
  exact hm.rel s

/-! ### Where events lead -/

/-- The events that only the start of a transfer and a controller transfer post. -/
def sending : List Event := [.SEND_NEXT_BYTE, .CONTROLLER_DESC_FIFO_ALMOST_EMPTY_IRQ]

variable {st : State}

theorem controller_of_nextStates (he : e ≠ .SEND_NEXT_BYTE) :
    ∀ st' ∈ nextStates st e, st' ∈ controllerStates → st ∈ controllerStates := by
  fun_cases nextStates st e <;> first | decide | exact absurd rfl he

theorem nextStates_of_controller (hst : st ∈ .AWAITING_DONE :: controllerStates) :
    ∀ st' ∈ nextStates st e, st' ∈ .AWAITING_DONE :: controllerStates := by
  fun_cases nextStates st e <;> first | decide | exact absurd hst (by decide)

theorem postedEvents_disjoint (h : ¬ Sends st e) :
    ∀ e' ∈ postedEvents st e, e' ∉ sending := by
  fun_cases postedEvents st e <;> first | decide | exact absurd (by simp [Sends]) h

theorem postedEvents_nil
    (hst : st ∈ .INITIAL :: .AWAITING_DONE :: controllerStates) (h : ¬ Sends st e) :
    postedEvents st e = [] := by
  fun_cases postedEvents st e <;>
    first | rfl | exact absurd hst (by decide) | exact absurd (by simp [Sends]) h

/-- The events of an interrupt that ends with an almost empty descriptor FIFO, up to that one. -/
def controllerFaults : List Event :=
  controllerErrorInterrupts.map Prod.snd ++
    [.CONTROLLER_LOA_ERROR_IRQ, .CONTROLLER_NACK_ERROR_IRQ, .CONTROLLER_PEC_ERROR_IRQ,
      .CONTROLLER_DATA_IRQ]

theorem nextStates_of_fault (he : e ∈ controllerFaults)
    (hst : st ∈ .INITIAL :: .AWAITING_DONE :: controllerStates) :
    ∀ st' ∈ nextStates st e, st' ∈ .INITIAL :: .AWAITING_DONE :: controllerStates := by
  fun_cases nextStates st e <;>
    first | decide | exact absurd hst (by decide) | exact absurd he (by decide)

/-! ### The invariant -/

/-- The event buffer of an instance: a byte to send is alone in it and its instance is in play,
and an almost empty descriptor FIFO is its last event. -/
inductive Buffered (s : Profile) (n : ℕ) : Prop
  | quiet (h : ∀ e ∈ s.xEventSrcCircularBuf n, e ∉ sending)
  | send (hhandling : s.handling = true) (hplay : s.ucInstanceInPlay = n) (hn : n ≤ LAST_INSTANCE)
      (hqueue : s.xEventSrcCircularBuf n = [.SEND_NEXT_BYTE])
  | low (hhandling : s.handling = true) (huse : (s.xConfig n).ucInstanceInUse = true)
      (hn : n ≤ LAST_INSTANCE) (es : List Event) (hes : ∀ e ∈ es, e ∈ controllerFaults)
      (hqueue : s.xEventSrcCircularBuf n = es ++ [.CONTROLLER_DESC_FIFO_ALMOST_EMPTY_IRQ])
      (hstate : s.xState n ∈ .INITIAL :: .AWAITING_DONE :: controllerStates)

/-- The instance in play is in use and in a controller transfer, or its first event is next. -/
structure Playing (s : Profile) (n : ℕ) : Prop where
  inUse : (s.xConfig n).ucInstanceInUse = true
  settled : s.handling = false → s.xEventSrcCircularBuf n = []
  transfer : s.xState n ∈ .AWAITING_DONE :: controllerStates ∨ s.xState n = .INITIAL ∧
    s.handling = true ∧ s.xEventSrcCircularBuf n = [.SEND_NEXT_BYTE]

/-- The bus belongs to the instance that runs a controller transfer. -/
structure Owned (s : Profile) : Prop where
  number : ∀ n, (s.xConfig n).ucInstanceInUse = true → (s.xConfig n).ucThisInstanceNum = n
  controller : ∀ n, s.xState n ∈ controllerStates → n ≤ LAST_INSTANCE ∧ s.ucInstanceInPlay = n
  range : s.ucInstanceInPlay = INVALID_INSTANCE ∨ s.ucInstanceInPlay ≤ LAST_NON_ARP_INSTANCE
  playing : s.ucInstanceInPlay ≠ INVALID_INSTANCE → Playing s s.ucInstanceInPlay
  buffered : ∀ n, Buffered s n

theorem start_owned : Owned .start where
  number := fun n h => by simp [Profile.start, Config.unused] at h
  controller := fun n h => by simp [Profile.start] at h
  range := .inl rfl
  playing := fun h => absurd rfl h
  buffered := fun n => .quiet (by simp [Profile.start])

variable {s s' : Profile}

theorem Owned.of_control (h : s'.control = s.control) (hs : Owned s) :
    Owned s' := by
  simp only [Profile.control, Prod.mk.injEq] at h
  obtain ⟨-, hplay, -, hconfig, hstate, hqueue, -, -, -, -, -, hhandling⟩ := h
  refine ⟨by simpa only [hconfig] using hs.number, by simpa only [hstate, hplay] using hs.controller,
    by simpa only [hplay] using hs.range, fun hne => ?_, fun n => ?_⟩
  · rw [hplay] at hne ⊢
    obtain ⟨huse, hsettled, htransfer⟩ := hs.playing hne
    exact ⟨by rwa [hconfig], by rwa [hhandling, hqueue], by rwa [hstate, hhandling, hqueue]⟩
  · rcases hs.buffered n with hq | ⟨hh, hp, hn, hq⟩ | ⟨hh, hu, hn, es, hes, hq, hst⟩
    · exact .quiet (by rwa [hqueue])
    · exact .send (by rwa [hhandling]) (by rwa [hplay]) hn (by rwa [hqueue])
    · exact .low (by rwa [hhandling]) (by rwa [hconfig]) hn es hes (by rwa [hqueue])
        (by rwa [hstate])

/-! ### A round of the queue -/

theorem Owned.of_handled {n : ℕ} (hs : Owned s) (hn : n ≤ LAST_INSTANCE)
    (hstill : s'.still = s.still)
    (hstate : ∀ j, j ≠ n → s'.xState j = s.xState j)
    (hqueue : ∀ j, j ≠ n → s'.xEventSrcCircularBuf j = s.xEventSrcCircularBuf j)
    (hplay : s'.ucInstanceInPlay = s.ucInstanceInPlay ∨
      s.ucInstanceInPlay = n ∧ s'.ucInstanceInPlay = INVALID_INSTANCE)
    (hcontroller : s'.xState n ∈ controllerStates → s'.ucInstanceInPlay = n)
    (hplaying : s'.ucInstanceInPlay = n → Playing s' n) (hbuffered : Buffered s' n) :
    Owned s' := by
  obtain ⟨-, hidentity, -, -, hhandling⟩ := still_eq.mp hstill
  have huse : ∀ j, (s'.xConfig j).ucInstanceInUse = (s.xConfig j).ucInstanceInUse := fun j =>
    Config.inUse_of_identity (hidentity j)
  have hother : ∀ j, j ≠ n → s.ucInstanceInPlay = j → s'.ucInstanceInPlay = j := by
    rintro j hj rfl
    rcases hplay with h | ⟨h, -⟩
    · exact h
    · exact absurd h hj
  refine ⟨fun j hj => ?_, fun j hj => ?_, ?_, fun hne => ?_, fun j => ?_⟩
  · rw [Config.thisInstanceNum_of_identity (hidentity j)]
    exact hs.number j (huse j ▸ hj)
  · rcases eq_or_ne j n with rfl | hjn
    · exact ⟨hn, hcontroller hj⟩
    · obtain ⟨hjl, hin⟩ := hs.controller j (hstate j hjn ▸ hj)
      exact ⟨hjl, hother j hjn hin⟩
  · rcases hplay with h | ⟨-, h⟩
    · exact h ▸ hs.range
    · exact .inl h
  · rcases eq_or_ne s'.ucInstanceInPlay n with hin | hin
    · exact hin ▸ hplaying hin
    · obtain h : s'.ucInstanceInPlay = s.ucInstanceInPlay := by
        rcases hplay with h | ⟨-, h⟩
        · exact h
        · exact absurd h hne
      rw [h] at hne hin ⊢
      obtain ⟨hu, hsettled, htransfer⟩ := hs.playing hne
      exact ⟨by rwa [huse], by rwa [hhandling, hqueue _ hin],
        by rwa [hstate _ hin, hhandling, hqueue _ hin]⟩
  · rcases eq_or_ne j n with rfl | hjn
    · exact hbuffered
    · rcases hs.buffered j with hq | ⟨hh, hp, hj, hq⟩ | ⟨hh, hu, hj, es, hes, hq, hst⟩
      · exact .quiet (by rwa [hqueue j hjn])
      · exact .send (by rwa [hhandling]) (hother j hjn hp) hj (by rwa [hqueue j hjn])
      · exact .low (by rwa [hhandling]) (by rwa [huse]) hj es hes (by rwa [hqueue j hjn])
          (by rwa [hstate j hjn])

variable {s : Profile}

theorem pending_spec (h : s.pending = some n) :
    n ≤ LAST_INSTANCE ∧ (s.xConfig n).ucInstanceInUse = true := by
  have hmem := List.mem_range.mp (List.mem_of_find?_eq_some h)
  have hp := List.find?_some h
  simp only [decide_eq_true_eq] at hp
  exact ⟨Nat.le_of_lt_succ hmem, hp.1⟩

theorem Owned.of_round {n : ℕ} {e : Event} {es : List Event} (hs : Owned s)
    (hn : n ≤ LAST_INSTANCE) (huse : (s.xConfig n).ucInstanceInUse = true)
    (hhandling : s.handling = true) (hqueue : s.xEventSrcCircularBuf n = e :: es)
    (hsends : ¬ Sends (s.xState n) e) (h : Round s n e es s') : Owned s' := by
  have hnum := hs.number n huse
  obtain ⟨-, hidentity, -, -, hhandling'⟩ := still_eq.mp h.still
  have hinitial : e = .SEND_NEXT_BYTE → s.xState n ≠ .INITIAL := fun he hst =>
    hsends (.inl ⟨he, by simp [hst]⟩)
  have hne : ∀ {j : ℕ}, j ≤ LAST_INSTANCE → j ≠ INVALID_INSTANCE := fun hj hj' => by
    subst hj'
    exact absurd hj (by decide)
  -- The state before the round is one of a controller transfer where the instance is in play.
  have hplaying : s.ucInstanceInPlay = n → s.xState n ∈ .AWAITING_DONE :: controllerStates := by
    intro hin
    rcases (hs.playing (hin ▸ hne hn)).transfer with hst | ⟨hst, -, hq⟩
    · exact hin ▸ hst
    · rw [hin, hqueue, List.cons.injEq] at hq
      exact absurd (hin ▸ hst) (hinitial hq.1)
  obtain ⟨new, hnew, hevents⟩ := h.events
  have hstate : e ∈ controllerFaults →
      s.xState n ∈ .INITIAL :: .AWAITING_DONE :: controllerStates →
      s'.xState n ∈ .INITIAL :: .AWAITING_DONE :: controllerStates := by
    intro he hst
    rcases h.outcome with ⟨-, -, hst' | hst'⟩ | ⟨-, hst'⟩
    · rwa [hst']
    · exact nextStates_of_fault he hst _ hst'
    · rw [hst']
      exact List.mem_cons_self
  have hbuffered : Buffered s' n := by
    rcases hs.buffered n with hq | ⟨hh, hp, hj, hq⟩ | ⟨hh, hu, hj, front, hfront, hq, hst⟩
    · refine .quiet fun e' he' => ?_
      rw [hevents] at he'
      rcases List.mem_append.mp he' with he' | he'
      · exact hq e' (hqueue ▸ List.mem_cons_of_mem e he')
      · exact postedEvents_disjoint hsends e' (hnew e' he')
    · have hnil := postedEvents_nil (List.mem_cons_of_mem _ (hplaying hp)) hsends
      obtain rfl : es = [] := by
        rw [hqueue, List.cons.injEq] at hq
        exact hq.2
      refine .quiet fun e' he' => ?_
      rw [hevents, List.nil_append] at he'
      have hmem := hnew e' he'
      rw [hnil] at hmem
      cases hmem
    · have hnil := postedEvents_nil hst hsends
      obtain rfl : new = [] := List.eq_nil_iff_forall_not_mem.mpr fun e' he' => by
        have hmem := hnew e' he'
        rw [hnil] at hmem
        cases hmem
      rw [List.append_nil] at hevents
      rw [hqueue] at hq
      cases front with
      | nil =>
        rw [List.nil_append, List.cons.injEq] at hq
        exact .quiet (by simp [hevents, hq.2])
      | cons f front =>
        rw [List.cons_append, List.cons.injEq] at hq
        exact .low (hhandling' ▸ hh) (Config.inUse_of_identity (hidentity n) ▸ hu) hn front
          (fun e' he' => hfront e' (List.mem_cons_of_mem f he')) (hevents.trans hq.2)
          (hstate (hq.1 ▸ hfront f List.mem_cons_self) hst)
  rcases h.outcome with ⟨hplay, -, hst⟩ | ⟨hplay, hst⟩
  · refine hs.of_handled hn h.still h.otherState h.otherEvents (.inl hplay) (fun hc => ?_)
      (fun hin => ⟨?_, fun hf => ?_, .inl ?_⟩) hbuffered
    · rw [hplay]
      rcases hst with hst | hst
      · exact (hs.controller n (hst ▸ hc)).2
      · by_cases he : e = .SEND_NEXT_BYTE
        · rcases hs.buffered n with hq | ⟨-, hp, -, -⟩ | ⟨-, -, -, front, hfront, hq, -⟩
          · exact absurd (he ▸ by decide) (hq e (hqueue ▸ List.mem_cons_self))
          · exact hp
          · have hmem : Event.SEND_NEXT_BYTE ∈ front ++ [.CONTROLLER_DESC_FIFO_ALMOST_EMPTY_IRQ] :=
              hq ▸ hqueue ▸ he ▸ List.mem_cons_self
            rcases List.mem_append.mp hmem with hmem | hmem
            · exact absurd (hfront _ hmem) (by decide)
            · exact absurd hmem (by decide)
        · exact (hs.controller n (controller_of_nextStates he _ hst hc)).2
    · rw [Config.inUse_of_identity (hidentity n)]
      exact huse
    · rw [hhandling', hhandling] at hf
      cases hf
    · rcases hst with hst | hst
      · exact hst ▸ hplaying (hplay ▸ hin)
      · exact nextStates_of_controller (hplaying (hplay ▸ hin)) _ hst
  · rw [hnum] at hplay
    have hne' : s'.ucInstanceInPlay ≠ n := by
      rw [hplay]
      split
      · exact (hne hn).symm
      · exact fun hin => absurd hin.symm ‹_›
    refine hs.of_handled hn h.still h.otherState h.otherEvents ?_ (fun hc => ?_)
      (fun hin => absurd hin hne') hbuffered
    · by_cases hin : n = s.ucInstanceInPlay
      · exact .inr ⟨hin.symm, hplay.trans (if_pos hin)⟩
      · exact .inl (hplay.trans (if_neg hin))
    · rw [hst] at hc
      exact absurd hc (by decide)

variable {es : List Event}

theorem Owned.of_sending (hs : Owned s)
    (hqueue : s.xEventSrcCircularBuf n = e :: es) (hsends : Sends (s.xState n) e) :
    s.ucInstanceInPlay = n ∧ es = [] := by
  rcases hs.buffered n with hq | ⟨-, hplay, -, hq⟩ | ⟨-, -, -, front, hfront, hq, -⟩
  · have hquiet := hq e (hqueue ▸ List.mem_cons_self)
    rcases hsends with ⟨rfl, -⟩ | ⟨rfl, -⟩ <;> exact absurd (by decide) hquiet
  · rw [hqueue, List.cons.injEq] at hq
    exact ⟨hplay, hq.2⟩
  · rw [hqueue] at hq
    cases front with
    | nil =>
      rw [List.nil_append, List.cons.injEq] at hq
      rcases hsends with ⟨rfl, -⟩ | ⟨rfl, hst⟩
      · cases hq.1
      · exact ⟨(hs.controller n (by simp [hst])).2, hq.2⟩
    | cons f front =>
      rw [List.cons_append, List.cons.injEq] at hq
      have hf := hfront f List.mem_cons_self
      rw [← hq.1] at hf
      rcases hsends with ⟨rfl, -⟩ | ⟨rfl, -⟩ <;> exact absurd hf (by decide)

theorem Owned.of_sends (hs : Owned s)
    (hn : n ≤ LAST_INSTANCE) (huse : (s.xConfig n).ucInstanceInUse = true)
    (hhandling : s.handling = true) (hqueue : s.xEventSrcCircularBuf n = e :: es)
    (hsends : Sends (s.xState n) e) (registers : List ℕ) (answer : Answer) :
    Owned (exec (vSMBusFSM n e) (s.take n registers answer)) := by
  obtain ⟨hplay, rfl⟩ := hs.of_sending hqueue hsends
  have hempty : (s.take n registers answer).xEventSrcCircularBuf n = [] := by
    simp [Profile.take, hqueue]
  obtain ⟨hstep, honce⟩ : ControllerStep n [.SEND_NEXT_BYTE] (s.take n registers answer) _ ∧
    SendsOnce n (s.take n registers answer) _ := vSMBusFSM_sends hsends
  rw [SendsOnce, hempty, List.nil_append] at honce
  have hlands : (exec (vSMBusFSM n e) (s.take n registers answer)).xState n ∈
      .AWAITING_DONE :: controllerStates := by
    rcases hstep.state with hst | hst
    · have hst' : (exec (vSMBusFSM n e) (s.take n registers answer)).xState n = s.xState n := hst
      rcases hsends with ⟨rfl, hfrom⟩ | ⟨-, hfrom⟩
      · simp only [List.mem_cons, List.not_mem_nil, or_false] at hfrom
        rcases hfrom with hfrom | hfrom | hfrom
        · exact vSMBusFSM_lands hfrom
        · simp [hst', hfrom]
        · simp [hst', hfrom]
      · simp [hst', hfrom]
    · exact hst
  obtain ⟨-, hidentity, -, -, hhandling'⟩ := still_eq.mp hstep.still
  have hplay' : (exec (vSMBusFSM n e) (s.take n registers answer)).ucInstanceInPlay = n :=
    hstep.inPlay.trans hplay
  have hhand : (exec (vSMBusFSM n e) (s.take n registers answer)).handling = true :=
    hhandling'.trans hhandling
  refine hs.of_handled hn hstep.still hstep.otherState
    (fun j hj => (hstep.otherEvents j hj).trans (by simp [Profile.take, hj]))
    (.inl (hplay'.trans hplay.symm)) (fun _ => hplay')
    (fun _ => ⟨(Config.inUse_of_identity (hidentity n)).trans huse, fun hf => ?_, .inl hlands⟩) ?_
  · rw [hhand] at hf
    cases hf
  · rcases honce with hq | hq
    · exact .quiet (by simp [hq])
    · exact .send hhand hplay' hn hq

/-- **Rounds** keep the bus with its owner. -/
theorem Owned.handled (hs : Owned s)
    (hhandling : s.handling = true) (hpending : s.pending = some n)
    (hqueue : s.xEventSrcCircularBuf n = e :: es) (registers : List ℕ) (answer : Answer) :
    Owned (exec (vSMBusFSM n e) (s.take n registers answer)) := by
  obtain ⟨hn, huse⟩ := pending_spec hpending
  by_cases hsends : Sends (s.xState n) e
  · exact hs.of_sends hn huse hhandling hqueue hsends registers answer
  · exact hs.of_round hn huse hhandling hqueue hsends (round_effect hqueue registers answer)

/-! ### Entry points and interrupts -/

/-- Whether the instance may be given a command: it is in use and no event is left over. -/
def Profile.ready (s : Profile) (n : ℕ) : Prop :=
  (s.xConfig n).ucInstanceInUse = true ∧ s.xEventSrcCircularBuf n = []

instance (s : Profile) (n : ℕ) : Decidable (s.ready n) := by
  unfold Profile.ready; infer_instance

/-- The steps of a disciplined run: a command that is accepted goes to an instance that is in use
and has no event left over, and no controller interrupt reports an almost empty descriptor FIFO
together with the end of the transfer. -/
def Disciplined (s : Profile) (a : Action) : Prop :=
  match a with
  | .controllerInterrupts vector _ => ¬ (vector.testBit 15 = true ∧ vector.testBit 12 = true)
  | a => ∀ n ∈ a.commandedInstance, s.commandable n → s.ready n

instance (s : Profile) (a : Action) : Decidable (Disciplined s a) := by
  cases a <;> unfold Disciplined <;> infer_instance

theorem Owned.rest (hs : Owned s) (hidle : s.idle) :
    (∀ n, ∀ e ∈ s.xEventSrcCircularBuf n, e ∉ sending) ∧ Owned s.rest := by
  have hdrained : s.handling = true → ∀ n, n ≤ LAST_INSTANCE →
      (s.xConfig n).ucInstanceInUse = true → s.xEventSrcCircularBuf n = [] := by
    intro hh n hn huse
    have hpending : s.pending = none := by
      rcases hidle with h | h
      · rw [hh] at h
        cases h
      · exact h
    have hnone := List.find?_eq_none.mp hpending n (List.mem_range.mpr (Nat.lt_succ_of_le hn))
    simpa [huse] using hnone
  have hinPlay : s.ucInstanceInPlay ≠ INVALID_INSTANCE → s.ucInstanceInPlay ≤ LAST_INSTANCE := by
    intro hne
    rcases hs.range with h | h
    · exact absurd h hne
    · exact h.trans (by decide)
  have hquiet : ∀ n, ∀ e ∈ s.xEventSrcCircularBuf n, e ∉ sending := by
    intro n
    rcases hs.buffered n with hq | ⟨hh, rfl, hn, hq⟩ | ⟨hh, hu, hn, es, -, hq, -⟩
    · exact hq
    · have hne : s.ucInstanceInPlay ≠ INVALID_INSTANCE := fun h => by
        rw [h] at hn
        exact absurd hn (by decide)
      simp [hdrained hh _ hn (hs.playing hne).inUse]
    · simp [hdrained hh n hn hu]
  refine ⟨hquiet, hs.number, hs.controller, hs.range, fun hne => ?_, fun n => .quiet (hquiet n)⟩
  obtain ⟨huse, hsettled, htransfer⟩ := hs.playing hne
  have hempty : s.xEventSrcCircularBuf s.ucInstanceInPlay = [] := by
    cases hh : s.handling with
    | false => exact hsettled hh
    | true => exact hdrained hh _ (hinPlay hne) huse
  refine ⟨huse, fun _ => hempty, .inl ?_⟩
  rcases htransfer with h | ⟨-, -, h⟩
  · exact h
  · rw [hempty] at h
    cases h

theorem Owned.reconfigured (hs : Owned s) (hhandling : s.handling = false)
    (hquiet : ∀ n, ∀ e ∈ s.xEventSrcCircularBuf n, e ∉ sending) (h : Reconfigured s s') :
    Owned s' := by
  have hbus := h.bus
  simp only [Profile.bus, Prod.mk.injEq] at hbus
  obtain ⟨-, hplay, -, hstate, -, -, -, hhandling', -⟩ := hbus
  refine ⟨fun n hn => ?_, fun n hn => ?_, hplay ▸ hs.range, fun hne => ?_, fun n => .quiet ?_⟩
  · rcases h.slot n with ⟨hc, -, -⟩ | ⟨-, hopen, -, -⟩ | ⟨-, ⟨left, hleft, hc⟩, -, -⟩
    · rw [hc] at hn ⊢
      exact hs.number n hn
    · generalize s'.xConfig n = c at hopen ⊢
      cases hopen with
      | smbus a hok hj => rfl
      | i2c a hok hj => rfl
      | arp hj => exact hj.symm
    · rw [hc] at hn
      simp only [List.mem_cons, List.not_mem_nil, or_false] at hleft
      rcases hleft with rfl | rfl | rfl <;> cases hn
  · rw [hplay]
    exact hs.controller n (hstate ▸ hn)
  · rw [hplay] at hne ⊢
    obtain ⟨huse, hsettled, htransfer⟩ := hs.playing hne
    have hin : s.ucInstanceInPlay ≤ LAST_NON_ARP_INSTANCE := hs.range.resolve_left hne
    rcases h.slot s.ucInstanceInPlay with ⟨hc, hq, -⟩ | ⟨hfree, -, -, -⟩ | ⟨hst, -, -, -⟩
    · exact ⟨by rwa [hc], fun _ => hq.trans (hsettled hhandling), by
        rwa [hstate, hhandling', hq]⟩
    · rw [huse] at hfree
      cases hfree
    · rcases hst with hst | hst
      · rw [hst] at hin
        exact absurd hin (by decide)
      · rcases htransfer with ht | ⟨-, hh, -⟩
        · rw [hst] at ht
          exact absurd ht (by decide)
        · rw [hhandling] at hh
          cases hh
  · rcases h.slot n with ⟨-, hq, -⟩ | ⟨-, -, hq, -⟩ | ⟨-, -, hq, -⟩
    · rw [hq]
      exact hquiet n
    · rw [hq]
      exact hquiet n
    · simp [hq]

theorem Owned.commanded (hs : Owned s) (hok : s.commandable n)
    (hready : s.ready n) (hquiet : ∀ n, ∀ e ∈ s.xEventSrcCircularBuf n, e ∉ sending)
    (transaction : Option ℕ) (load : Transfer → Transfer) :
    Owned (s.commanded n transaction load) := by
  obtain ⟨hn, hfree, hinitial⟩ := hok
  obtain ⟨huse, hempty⟩ := hready
  have hqueue : (s.commanded n transaction load).xEventSrcCircularBuf n = [.SEND_NEXT_BYTE] := by
    simp [Profile.commanded, hempty, pushEvent, MAX_EVENT_ELEMENTS]
  refine ⟨hs.number, fun j hj => ?_, .inr hn, fun _ => ⟨huse, fun hf => ?_, .inr ⟨hinitial, rfl,
    hqueue⟩⟩, fun j => ?_⟩
  · obtain ⟨hjl, hin⟩ := hs.controller j hj
    rw [← hin, hfree] at hjl
    exact absurd hjl (by decide)
  · cases hf
  · rcases eq_or_ne j n with rfl | hj
    · exact .send rfl rfl (hn.trans (by decide)) hqueue
    · refine .quiet ?_
      simpa [Profile.commanded, hj] using hquiet j

theorem mem_raised {table : List (ℕ × Event)} {vector : ℕ} {e : Event}
    (h : e ∈ raised table vector) : e ∈ table.map Prod.snd := by
  obtain ⟨x, hx, rfl⟩ := List.mem_map.mp h
  exact List.mem_map.mpr ⟨x, (List.mem_filter.mp hx).1, rfl⟩

theorem mem_targetEvents {vector errors : ℕ} {e : Event} (h : e ∈ targetEvents vector errors) :
    e ∉ sending := by
  have hall : ∀ e ∈ targetErrorInterrupts.map Prod.snd ++ targetInterrupts.map Prod.snd,
      e ∉ sending := by decide
  refine hall e (List.mem_append.mpr ?_)
  rcases List.mem_append.mp h with h | h
  · exact .inl (mem_raised h)
  · exact .inr (mem_raised h)

theorem controllerEvents_cases {vector : ℕ} (errors : ℕ)
    (h : ¬ (vector.testBit 15 = true ∧ vector.testBit 12 = true)) :
    (∀ e ∈ controllerEvents vector errors, e ∉ sending) ∨
      ∃ es, (∀ e ∈ es, e ∈ controllerFaults) ∧
        controllerEvents vector errors = es ++ [.CONTROLLER_DESC_FIFO_ALMOST_EMPTY_IRQ] := by
  have herrors : ∀ e ∈ raised controllerErrorInterrupts (errorVector vector errors),
      e ∈ controllerErrorInterrupts.map Prod.snd := fun e he => mem_raised he
  have hfront : ∀ e ∈ raised (controllerInterrupts.take 4) vector,
      e ∈ (controllerInterrupts.take 4).map Prod.snd := fun e he => mem_raised he
  have hsplit : raised controllerInterrupts vector =
      raised (controllerInterrupts.take 4) vector ++
        (if vector.testBit 15 = true then [.CONTROLLER_DESC_FIFO_ALMOST_EMPTY_IRQ] else []) ++
        (if vector.testBit 12 = true then [.CONTROLLER_DONE_IRQ] else []) := by
    simp only [raised, controllerInterrupts, List.take_succ_cons, List.take_zero,
      List.filter_cons, List.filter_nil]
    split_ifs <;> rfl
  have hquiet : ∀ e ∈ controllerErrorInterrupts.map Prod.snd ++
      (controllerInterrupts.take 4).map Prod.snd ++ [.CONTROLLER_DONE_IRQ], e ∉ sending := by
    decide
  rw [controllerEvents, hsplit]
  by_cases hlow : vector.testBit 15 = true
  · have hdone : ¬ vector.testBit 12 = true := fun hd => h ⟨hlow, hd⟩
    refine .inr ⟨raised controllerErrorInterrupts (errorVector vector errors) ++
      raised (controllerInterrupts.take 4) vector, fun e he => ?_, ?_⟩
    · rcases List.mem_append.mp he with he | he
      · exact List.mem_append_left _ (herrors e he)
      · exact List.mem_append_right _ (hfront e he)
    · rw [if_pos hlow, if_neg hdone, List.append_nil, List.append_assoc]
  · refine .inl fun e he => hquiet e ?_
    rw [if_neg hlow, List.append_nil] at he
    rcases List.mem_append.mp he with he | he
    · exact List.mem_append_left _ (List.mem_append_left _ (herrors e he))
    · rcases List.mem_append.mp he with he | he
      · exact List.mem_append_left _ (List.mem_append_right _ (hfront e he))
      · split at he
        · exact List.mem_append_right _ he
        · cases he

theorem Owned.raise_quiet {events : List Event} (hs : Owned s)
    (hquiet : ∀ n, ∀ e ∈ s.xEventSrcCircularBuf n, e ∉ sending)
    (hevents : ∀ e ∈ events, e ∉ sending) (hhandling : s.handling = false) :
    Owned (s.raise n events) := by
  refine ⟨hs.number, hs.controller, hs.range, fun hne => ?_, fun j => .quiet ?_⟩
  · obtain ⟨huse, -, htransfer⟩ := hs.playing hne
    refine ⟨huse, fun hf => (by cases hf), .inl ?_⟩
    rcases htransfer with h | ⟨-, h, -⟩
    · exact h
    · rw [hhandling] at h
      cases h
  · rcases eq_or_ne j n with rfl | hj
    · intro e he
      simp only [Profile.raise, Function.update_self, foldl_pushEvent] at he
      rcases List.mem_append.mp he with he | he
      · exact hquiet j e he
      · exact hevents e (List.mem_of_mem_take he)
    · simpa [Profile.raise, hj] using hquiet j

theorem Owned.raise_controller {vector errors : ℕ} (hs : Owned s)
    (hquiet : ∀ n, ∀ e ∈ s.xEventSrcCircularBuf n, e ∉ sending)
    (hhandling : s.handling = false) (hplay : s.ucInstanceInPlay ≤ LAST_INSTANCE)
    (h : ¬ (vector.testBit 15 = true ∧ vector.testBit 12 = true)) :
    Owned (s.raise s.ucInstanceInPlay (controllerEvents vector errors)) := by
  rcases controllerEvents_cases errors h with hevents | ⟨es, hes, hevents⟩
  · exact hs.raise_quiet hquiet hevents hhandling
  have hne : s.ucInstanceInPlay ≠ INVALID_INSTANCE := fun h => by
    rw [h] at hplay
    exact absurd hplay (by decide)
  obtain ⟨huse, hsettled, htransfer⟩ := hs.playing hne
  have hst : s.xState s.ucInstanceInPlay ∈ .AWAITING_DONE :: controllerStates := by
    rcases htransfer with h | ⟨-, h, -⟩
    · exact h
    · rw [hhandling] at h
      cases h
  have hqueue : (s.raise s.ucInstanceInPlay
      (controllerEvents vector errors)).xEventSrcCircularBuf s.ucInstanceInPlay =
      (es ++ [Event.CONTROLLER_DESC_FIFO_ALMOST_EMPTY_IRQ]).take MAX_EVENT_ELEMENTS := by
    simp only [Profile.raise, Function.update_self, foldl_pushEvent, hsettled hhandling, hevents]
    rfl
  refine ⟨hs.number, hs.controller, hs.range, fun _ => ⟨huse, fun hf => (by cases hf), .inl hst⟩,
    fun j => ?_⟩
  rcases eq_or_ne j s.ucInstanceInPlay with rfl | hj
  · rcases le_or_gt (es.length + 1) MAX_EVENT_ELEMENTS with hlen | hlen
    · refine .low rfl huse hplay es hes (hqueue.trans (List.take_of_length_le ?_))
        (List.mem_cons_of_mem _ hst)
      rwa [List.length_append, List.length_singleton]
    · refine .quiet fun e he => ?_
      rw [hqueue, List.take_append_of_le_length (Nat.lt_succ_iff.mp hlen)] at he
      have hfaults : ∀ e ∈ controllerFaults, e ∉ sending := by decide
      exact hfaults e (hes e (List.mem_of_mem_take he))
  · refine .quiet ?_
    simpa [Profile.raise, hj] using hquiet j

theorem Owned.activate (hs : Owned s) (active : ℕ) : Owned (s.activate active) := by
  refine ⟨hs.number, hs.controller, hs.range, fun hne => ?_, fun n => ?_⟩
  · obtain ⟨huse, hsettled, htransfer⟩ := hs.playing hne
    exact ⟨huse, hsettled, htransfer⟩
  · rcases hs.buffered n with hq | ⟨hh, hp, hn, hq⟩ | ⟨hh, hu, hn, es, hes, hq, hst⟩
    · exact .quiet hq
    · exact .send hh hp hn hq
    · exact .low hh hu hn es hes hq hst

/-- **Step.** A disciplined step keeps the bus with its owner. -/
theorem owned_step {a : Action} (hs : Owned s) (hok : Disciplined s a)
    (h : step s a = some s') : Owned s' := by
  cases step_effect h with
  | @handled registers answer n e es hhandling hpending hqueue =>
    exact hs.handled hhandling hpending hqueue registers answer
  | refused active hidle h =>
    exact .of_control (congrArg Prod.fst h) ((hs.rest hidle).2.activate active)
  | reconfigured hidle h =>
    obtain ⟨hquiet, hrest⟩ := hs.rest hidle
    exact hrest.reconfigured rfl hquiet h
  | commanded n hidle ha hadmitted h =>
    obtain ⟨hquiet, hrest⟩ := hs.rest hidle
    have hcommand : s.commandable n := by
      obtain ⟨m, hm, hcommand⟩ := admitted_commandable hadmitted
      rwa [Option.some.inj (ha.symm.trans hm)]
    refine .of_control (congrArg Prod.fst h) (hrest.commanded hcommand ?_ hquiet _ _)
    cases a with
    | controllerInterrupts vector errors => cases ha
    | _ => exact hok n ha hcommand
  | target active hidle hactive =>
    obtain ⟨hquiet, hrest⟩ := hs.rest hidle
    exact (hrest.activate active).raise_quiet hquiet (fun e he => mem_targetEvents he) rfl
  | controller hidle hplay =>
    obtain ⟨hquiet, hrest⟩ := hs.rest hidle
    exact hrest.raise_controller hquiet rfl hplay hok

/-! ### Ownership over runs -/

/-- **Ownership of the bus.** When the queue of a disciplined run is drained, the instance in play
is in use and in the middle of a controller transfer, and where there is none, every instance is in
the initial state or in a target transfer. -/
theorem bus_ownership {s : Profile} (hs : Reaches step Disciplined .start s) (hidle : s.idle) :
    (s.ucInstanceInPlay ≠ INVALID_INSTANCE →
      s.ucInstanceInPlay ≤ LAST_NON_ARP_INSTANCE ∧
      (s.xConfig s.ucInstanceInPlay).ucInstanceInUse = true ∧
      s.xState s.ucInstanceInPlay ∈ .AWAITING_DONE :: controllerStates) ∧
    (s.ucInstanceInPlay = INVALID_INSTANCE → ∀ n,
      s.xState n = .INITIAL ∨ s.xState n ∈ .AWAITING_COMMAND_BYTE :: targetStates) := by
  have howned : Owned s := hs.invariant Owned start_owned fun s a s' h hok hstep =>
    owned_step h hok hstep
  have hrest := (howned.rest hidle).2
  refine ⟨fun hne => ⟨howned.range.resolve_left hne, (hrest.playing hne).inUse, ?_⟩,
    fun hnone n => ?_⟩
  · rcases (hrest.playing hne).transfer with h | ⟨-, h, -⟩
    · exact h
    · cases h
  · have hcontroller : s.xState n ∉ controllerStates := fun h => by
      obtain ⟨hn, hin⟩ := howned.controller n h
      rw [← hin, hnone] at hn
      exact absurd hn (by decide)
    generalize s.xState n = st at hcontroller ⊢
    cases st <;> first | decide | exact absurd (by decide) hcontroller

/-- An I2C device with all its callbacks. -/
def i2cDevice (addr : ℕ) : CreateI2C :=
  { ucAddr := addr
    pFnGetData := true
    pFnWriteData := true
    pFnAnnounceResult := true
    pFnBusError := true
    pFnBusWarning := true }

/-- A device writes two bytes, and its queue is drained. -/
def writingRun : List Action :=
  [.createI2C (i2cDevice 0x20), .i2cWrite 0 0x30 (fun k => k) 2, .handle [] .none,
    .handle [0, 0] .none]

theorem bus_ownership_writing : ∃ s : Profile, s.ucInstanceInPlay = 0 ∧
    (s.xConfig 0).ucInstanceInUse = true ∧
    s.xState 0 ∈ .AWAITING_DONE :: controllerStates := by
  have h : (run (guarded step Disciplined) .start writingRun).any (fun s =>
      decide (s.ucInstanceInPlay = 0 ∧ s.idle)) = true := by decide +kernel
  obtain ⟨s, hrun, hs⟩ := (Option.any_eq_true _ _).mp h
  obtain ⟨hplay, hidle⟩ := of_decide_eq_true hs
  have hreach : Reaches step Disciplined .start s := .of_guarded_run writingRun .start hrun
  obtain ⟨-, huse, hst⟩ := (bus_ownership hreach hidle).1 (by rw [hplay]; decide)
  rw [hplay] at huse hst
  exact ⟨s, hplay, huse, hst⟩

/-- A target write leaves its instance in a state of its own while no instance is in play. -/
theorem bus_not_owned_in_target_transfer : ¬ ∀ s : Profile, Reaches step always .start s →
    s.idle → s.ucInstanceInPlay = INVALID_INSTANCE → ∀ n ≤ LAST_INSTANCE,
    (s.xConfig n).ucInstanceInUse = true → s.xState n = .INITIAL := by
  intro hall
  have h : (run step .start [.createI2C (i2cDevice 0x20), .targetInterrupts 0x80 0 0x20,
      .handle [] .none]).any (fun s =>
      decide (s.ucInstanceInPlay = INVALID_INSTANCE ∧ s.idle ∧
        (s.xConfig 0).ucInstanceInUse = true ∧ s.xState 0 = .AWAITING_DATA)) = true := by
    decide +kernel
  obtain ⟨s, hrun, hs⟩ := (Option.any_eq_true _ _).mp h
  obtain ⟨hplay, hidle, huse, hst⟩ := of_decide_eq_true hs
  have hinitial := hall s (.of_run hrun) hidle hplay 0 (by decide) huse
  rw [hst] at hinitial
  cases hinitial

end Amr.Smbus
