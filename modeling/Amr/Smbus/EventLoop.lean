/-
# Draining the event queue

`vSMBusEventQueueHandle` takes events off the queue of an instance until there is none, and some
states put an event on the queue while they handle one. Most of these pass the transfer on: the
instance moves to a state of smaller weight (`Passes`), so they happen a bounded number of times.
Two put the event they were given back and stay where they are (`Profile.putsBack`):
`AWAITING_DATA` a read request that came before its data, and `CHECK_IF_PEC_REQUIRED` a request
for a PEC that the descriptor FIFO has no room for. The loop ends exactly when it does not come to
an instance whose queue holds nothing but such events (`Profile.stuck`).

The hardware is a sequence: the values that the registers have in each round.
-/
import Amr.Lib.Ranking
import Amr.Smbus.Results

namespace Amr.Smbus

open StateProgram Transition

set_option synthInstance.maxSize 20000
set_option synthInstance.maxHeartbeats 200000

/-! ### Rounds of the loop -/

/-- The register values and the answers of the application of each round. -/
abbrev Hardware : Type := ℕ → List ℕ × Answer

/-- The hardware from the round `k` on. -/
def Hardware.after (hw : Hardware) (k : ℕ) : Hardware := fun j => hw (k + j)

/-- The profile after `k` rounds of `vSMBusEventQueueHandle`. -/
def rounds (hw : Hardware) (s : Profile) : ℕ → Profile
  | 0 => { s with handling := true }
  | k + 1 =>
    (vSMBusEventQueueHandle (rounds hw s k) (hw k).1 (hw k).2).getD (rounds hw s k)

/-! ### Events that are put back -/

/-- The instance sends data that a PEC may follow. -/
def Profile.wantsPec (s : Profile) (n : ℕ) : Prop :=
  ((s.xTransfer n).xProtocol ∈ targetReads ++ [.RECEIVE_BYTE] ∨
    (s.xConfig n).ulI2CDevice = true) ∨
  (s.xTransfer n).xProtocol ∈ [.ARP_GET_UDID, .ARP_GET_UDID_DIRECTED]

/-- Every PEC descriptor that the instance is to write finds the descriptor FIFO full, and there
is one. An I2C device writes one before the protocol is looked at again. -/
def Profile.pecRefused (s : Profile) (n : ℕ) (registers : List ℕ) : Prop :=
  let read := (s.xTransfer n).xProtocol ∈ targetReads ++ [.RECEIVE_BYTE] ∨
    (s.xConfig n).ulI2CDevice = true
  let udid := (s.xTransfer n).xProtocol ∈ [.ARP_GET_UDID, .ARP_GET_UDID_DIRECTED]
  s.wantsPec n ∧ (read → (s.xConfig n).ucPECRequired = true ∧ registers.headD 0 % 2 = 1) ∧
    (udid → (if read then registers.tail else registers).headD 0 % 2 = 1)

/-- The instance puts the event back and stays in its state. -/
def Profile.putsBack (s : Profile) (n : ℕ) (e : Event) (registers : List ℕ) : Prop :=
  (s.xState n = .AWAITING_DATA ∧ e = .TARGET_READ_IRQ ∧
    (s.xTransfer n).xProtocol ≠ .HOST_NOTIFY ∧ (s.xConfig n).ulI2CDevice = false) ∨
  (s.xState n = .CHECK_IF_PEC_REQUIRED ∧ e = .IS_PEC_REQUIRED ∧ s.pecRefused n registers)

/-- The instance that the loop has come to puts every event of its queue back, in every round to
come. -/
def Profile.stuck (s : Profile) (hw : Hardware) : Prop :=
  ∃ n, s.pending = some n ∧ ∀ e ∈ s.xEventSrcCircularBuf n, ∀ j, s.putsBack n e (hw j).1

/-! ### Events that pass the transfer on -/

/-- How far a state is from the end of the events that its successors post. -/
def State.weight : State → ℕ
  | .INITIAL => 3
  | .CONTROLLER_SEND_COMMAND | .AWAITING_COMMAND_BYTE | .READY_TO_SEND_BYTE => 2
  | .CONTROLLER_WRITE_BYTE | .AWAITING_DATA | .CHECK_IF_PEC_REQUIRED => 1
  | _ => 0

/-- An instance is steered, and posts an event at most once and only to move to one of `low`. -/
structure Passes (n : ℕ) (next : List State) (posts : List Event) (low : List State)
    (s s' : Profile) : Prop extends Steer n next posts s s' where
  once : s'.xEventSrcCircularBuf n = s.xEventSrcCircularBuf n ∨
    (∃ x, s'.xEventSrcCircularBuf n = s.xEventSrcCircularBuf n ++ [x]) ∧ s'.xState n ∈ low

section Passes

variable (n : ℕ) (next : List State) (posts : List Event) (low : List State)

instance {α : Type} (m : Routine α) (f : α → Routine Unit) [hm : Within Data m]
    [hf : ∀ a, Within (Passes n next posts low) (f a)] :
    Within (Passes n next posts low) (m >>= f) := by
  refine ⟨fun s => ?_⟩
  have hdata := hm.rel s
  have hpass := (hf (value m s)).rel (exec m s)
  have hevents : (exec m s).xEventSrcCircularBuf = s.xEventSrcCircularBuf := by
    simp only [Data, Same, Profile.control, Prod.mk.injEq] at hdata
    exact hdata.2.2.2.2.2.1
  have honce := hpass.once
  rw [hevents] at honce
  exact { (Steer.of_data hdata).trans hpass.toSteer with once := honce }

instance (priority := low) (m : Routine Unit) [h : Within (Steer n next []) m] :
    Within (Passes n next posts low) m := by
  refine ⟨fun s => ?_⟩
  have hsteer := h.rel s
  obtain ⟨es, hes, hevents⟩ := hsteer.events
  have hnil : es = [] := List.eq_nil_iff_forall_not_mem.mpr fun x hx => by
    simpa using hes x hx
  rw [hnil, List.append_nil] at hevents
  exact { hsteer with
    events := ⟨[], by simp, by simp [hevents]⟩
    once := .inl hevents }

instance (e : Event) (st : State) [he : Listed e posts] [hst : Listed st next]
    [hlow : Listed st low] :
    Within (Passes n next posts low)
      (vSMBusCreateEvent n e >>= fun _ => vSMBusNextStateDecoder n st) := by
  refine ⟨fun s => ?_⟩
  have hsteer : Steer n next posts s
      (exec (vSMBusCreateEvent n e >>= fun _ => vSMBusNextStateDecoder n st) s) :=
    Within.rel _
  refine { hsteer with once := ?_ }
  simp only [vSMBusCreateEvent, vSMBusNextStateDecoder, exec_bind, exec_modify]
  split
  · exact .inr ⟨⟨e, Function.update_self _ _ _⟩, by simpa using hlow.mem⟩
  · exact .inl rfl

instance (c : Prop) [Decidable c] (e : Event) (st : State) [Listed e posts] [Listed st next]
    [Listed st low] :
    Within (Passes n next posts low)
      ((if c then pure () else vSMBusCreateEvent n e) >>= fun _ =>
        vSMBusNextStateDecoder n st) := by
  split
  · infer_instance
  · infer_instance

instance (st : State) [Listed .SEND_NEXT_BYTE posts] [Listed st next] [Listed st low] :
    Within (Passes n next posts low)
      (vSMBusHandleActionCreateEventSendNextByte n >>= fun _ => vSMBusNextStateDecoder n st) := by
  unfold vSMBusHandleActionCreateEventSendNextByte; infer_instance

instance (st : State) [Listed .IS_PEC_REQUIRED posts] [Listed st next] [Listed st low] :
    Within (Passes n next posts low)
      (vSMBusHandleActionCreateEventIsPECRequired n >>= fun _ => vSMBusNextStateDecoder n st) := by
  unfold vSMBusHandleActionCreateEventIsPECRequired; infer_instance

end Passes

/-! ### The handlers that post an event -/

section Handlers

variable (n : ℕ)

/-- The states of a target transfer before its end is checked. -/
abbrev midStates : List State :=
  [.AWAITING_BLOCK_SIZE, .AWAITING_DATA, .AWAITING_READ, .READY_TO_SEND_BYTE, .AWAITING_DONE]

instance (p : Protocol) :
    Within (Passes n (.AWAITING_DONE :: controllerStates) [.SEND_NEXT_BYTE]
      [.CONTROLLER_SEND_COMMAND, .CONTROLLER_SEND_READ_START, .CONTROLLER_WRITE_BYTE])
      (vStartCommand n p) := by
  unfold vStartCommand; infer_instance

instance : Within (Passes n (.AWAITING_DONE :: controllerStates) [.SEND_NEXT_BYTE]
      [.CONTROLLER_SEND_READ_START, .CONTROLLER_WRITE_BYTE])
      (vStateControllerSendCommand n .SEND_NEXT_BYTE) := by
  simp only [vStateControllerSendCommand]; infer_instance

instance (t : Transfer) : Within (Passes n (.AWAITING_DONE :: controllerStates) [.SEND_NEXT_BYTE]
      [.CONTROLLER_SEND_READ_START]) (vWriteLast n t) := by
  unfold vWriteLast; infer_instance

instance : Within (Passes n (.AWAITING_DONE :: controllerStates) [.SEND_NEXT_BYTE]
      [.CONTROLLER_SEND_READ_START]) (vControllerWrite n) := by
  unfold vControllerWrite; infer_instance

section Mid

variable (posts : List Event)

instance (b : Bool) : Within (Steer n midStates posts) (vAnswerARP n b .AWAITING_READ) := by
  unfold vAnswerARP; infer_instance

instance (p : Protocol) : Within (Steer n midStates posts) (vARPReset n p) := by
  unfold vARPReset; infer_instance

instance : Within (Steer n midStates posts) (vARPGetUDIDDirected n) := by
  unfold vARPGetUDIDDirected; infer_instance

instance : Within (Steer n midStates posts) (vARPGetUDID n) := by
  unfold vARPGetUDID; infer_instance

instance (p : Protocol) : Within (Steer n midStates posts) (vARPCommand n p) := by
  unfold vARPCommand; infer_instance

instance : Within (Steer n midStates posts) (vAssignAddressByte n) := by
  unfold vAssignAddressByte; infer_instance

instance (p : Protocol) : Within (Steer n midStates posts) (vWriteProgress n p) := by
  unfold vWriteProgress; infer_instance

end Mid

instance (p : Protocol) :
    Within (Passes n midStates [.TARGET_DATA_IRQ] [.AWAITING_DATA]) (vCommand n p) := by
  unfold vCommand; infer_instance

instance : Within (Passes n midStates [.TARGET_DATA_IRQ] [.AWAITING_DATA])
    (vStateAwaitingCommandByte n .TARGET_DATA_IRQ) := by
  simp only [vStateAwaitingCommandByte]; infer_instance

instance : Within (Passes n [.CHECK_IF_PEC_REQUIRED] [.IS_PEC_REQUIRED] [.CHECK_IF_PEC_REQUIRED])
    (vStateReadyToSendByte n .DESC_FIFO_ALMOST_EMPTY_IRQ) := by
  simp only [vStateReadyToSendByte]; infer_instance

end Handlers

/-! ### What a round leaves -/

/-- The events that the state machine makes up while it drains a queue. -/
def madeUp : List Event := [.IS_PEC_REQUIRED, .SEND_NEXT_BYTE]

/-- What an event that is not put back leaves of its instance: the state and the posted events. -/
structure Follows (st : State) (e : Event) (st' : State) (es : List Event) : Prop where
  once : es.length ≤ 1
  kind : ∀ x ∈ es, x = e ∨ x ∈ madeUp
  lower : es ≠ [] → st'.weight < st.weight
  check : st' = .CHECK_IF_PEC_REQUIRED →
    st = .CHECK_IF_PEC_REQUIRED ∨ e = .DESC_FIFO_ALMOST_EMPTY_IRQ ∧ e ∉ es

/-- What a step of instance `n` on the event `e` leaves is what may follow. -/
def FollowsAt (n : ℕ) (e : Event) (s s' : Profile) : Prop :=
  ∃ es, s'.xEventSrcCircularBuf n = s.xEventSrcCircularBuf n ++ es ∧
    Follows (s.xState n) e (s'.xState n) es

variable {st st' : State} {e : Event}

theorem follows_nil
    (h : st' = .CHECK_IF_PEC_REQUIRED → st = .CHECK_IF_PEC_REQUIRED) : Follows st e st' [] where
  once := by simp
  kind := by simp
  lower := fun hne => absurd rfl hne
  check := fun hst => .inl (h hst)

variable {n : ℕ}

theorem Exit.follows {next : List State} {s s' : Profile} (h : Exit n next [] s s')
    (hnext : .CHECK_IF_PEC_REQUIRED ∉ next) (e : Event) : FollowsAt n e s s' := by
  cases h with
  | steers hsteer =>
    obtain ⟨es, hes, hevents⟩ := hsteer.events
    have hnil : es = [] := List.eq_nil_iff_forall_not_mem.mpr fun x hx => by
      simpa using hes x hx
    refine ⟨es, hevents, hnil ▸ follows_nil fun hcheck => ?_⟩
    rcases hsteer.state with hstate | hstate
    · exact hstate.symm.trans hcheck
    · exact absurd (hcheck ▸ hstate) hnext
  | resets m hsteer hs' =>
    obtain ⟨es, hes, hevents⟩ := hsteer.events
    have hnil : es = [] := List.eq_nil_iff_forall_not_mem.mpr fun x hx => by
      simpa using hes x hx
    have hcontrol := vResetToInitial_effect n m
    rw [← hs'] at hcontrol
    simp only [Profile.control, Prod.mk.injEq] at hcontrol
    have hstate : s'.xState n = .INITIAL := by
      rw [hcontrol.2.2.2.2.1]; exact Function.update_self _ _ _
    have hqueue : s'.xEventSrcCircularBuf n = m.xEventSrcCircularBuf n :=
      congrFun hcontrol.2.2.2.2.2.1 n
    refine ⟨es, hqueue.trans hevents, hnil ▸ follows_nil fun hcheck => ?_⟩
    rw [hstate] at hcheck
    cases hcheck

theorem Passes.follows {next low : List State} {posts : List Event} {s s' : Profile}
    {e : Event} (h : Passes n next posts low s s')
    (hposts : ∀ x ∈ posts, x = e ∨ x ∈ madeUp)
    (hlow : ∀ st ∈ low, st.weight < (s.xState n).weight)
    (hnext : .CHECK_IF_PEC_REQUIRED ∈ next → e = .DESC_FIFO_ALMOST_EMPTY_IRQ ∧ e ∉ posts) :
    FollowsAt n e s s' := by
  obtain ⟨es, hes, hevents⟩ := h.events
  refine ⟨es, hevents, ?_, fun x hx => hposts x (hes x hx), fun hne => ?_, fun hcheck => ?_⟩
  · rcases h.once with honce | ⟨⟨x, honce⟩, -⟩
    · have hnil : es = [] := by simpa [honce] using hevents
      simp [hnil]
    · have hx : es = [x] := by simpa [honce] using hevents.symm
      simp [hx]
  · rcases h.once with honce | ⟨-, hst⟩
    · exact absurd (by simpa [honce] using hevents) hne
    · exact hlow _ hst
  · rcases h.state with hstate | hstate
    · exact .inl (hstate.symm.trans hcheck)
    · obtain ⟨he, hnot⟩ := hnext (hcheck ▸ hstate)
      exact .inr ⟨he, fun hmem => hnot (hes e hmem)⟩

/-- The pairs of a target state and an event on which the state may post an event. -/
def targetPassing : List (State × Event) :=
  [(.AWAITING_COMMAND_BYTE, .TARGET_DATA_IRQ), (.AWAITING_DATA, .TARGET_READ_IRQ),
    (.AWAITING_DATA, .TARGET_DONE_IRQ), (.READY_TO_SEND_BYTE, .DESC_FIFO_ALMOST_EMPTY_IRQ),
    (.CHECK_IF_PEC_REQUIRED, .IS_PEC_REQUIRED)]

/-- The states of a target transfer other than the last. -/
def State.isTarget : State → Bool
  | .AWAITING_COMMAND_BYTE | .AWAITING_BLOCK_SIZE | .AWAITING_DATA | .AWAITING_READ
  | .READY_TO_SEND_BYTE | .CHECK_IF_PEC_REQUIRED => true
  | _ => false

theorem target_exit (n : ℕ) (e : Event) (s : Profile) (hst : (s.xState n).isTarget = true)
    (he : (s.xState n, e) ∉ targetPassing) :
    Exit n midStates [] s (exec (vSMBusFSM n e) s) := by
  rw [vSMBusFSM, exec_get_bind]
  cases hstate : s.xState n <;> rw [hstate] at hst he <;> simp only [State.isTarget] at hst <;>
    try cases hst
  case AWAITING_COMMAND_BYTE =>
    suffices h : Within (Exit n midStates []) (vStateAwaitingCommandByte n e) from h.rel s
    simp only [vStateAwaitingCommandByte]
    split
    · infer_instance
    · exact absurd (by decide) he
    · infer_instance
  case AWAITING_BLOCK_SIZE =>
    suffices h : Within (Exit n midStates []) (vStateAwaitingBlockSize n e) from h.rel s
    simp only [vStateAwaitingBlockSize]
    split <;> infer_instance
  case AWAITING_DATA =>
    suffices h : Within (Exit n midStates []) (vStateAwaitingData n e) from h.rel s
    simp only [vStateAwaitingData]
    split
    · infer_instance
    · exact absurd (by decide) he
    · exact absurd (by decide) he
    · infer_instance
    · infer_instance
  case AWAITING_READ =>
    suffices h : Within (Exit n midStates []) (vStateAwaitingRead n e) from h.rel s
    simp only [vStateAwaitingRead]
    split <;> infer_instance
  case READY_TO_SEND_BYTE =>
    suffices h : Within (Exit n midStates []) (vStateReadyToSendByte n e) from h.rel s
    simp only [vStateReadyToSendByte]
    split
    · exact absurd (by decide) he
    · infer_instance
  case CHECK_IF_PEC_REQUIRED =>
    suffices h : Within (Exit n midStates []) (vStateCheckIfPECRequired n e) from h.rel s
    simp only [vStateCheckIfPECRequired]
    split
    · exact absurd (by decide) he
    · infer_instance

/-- The pairs of a controller state and an event on which the state may post an event. -/
def controllerPassing : List (State × Event) :=
  [(.INITIAL, .SEND_NEXT_BYTE), (.CONTROLLER_SEND_COMMAND, .SEND_NEXT_BYTE),
    (.CONTROLLER_WRITE_BYTE, .SEND_NEXT_BYTE),
    (.CONTROLLER_WRITE_BYTE, .CONTROLLER_DESC_FIFO_ALMOST_EMPTY_IRQ)]

theorem postedEvents_eq_nil {st : State} {e : Event} (hst : st.isTarget = false)
    (he : (st, e) ∉ controllerPassing) : postedEvents st e = [] := by
  cases st <;> cases hst <;> cases e <;>
    first
      | rfl
      | exact absurd (by decide) he

theorem check_not_mem_nextStates {st : State} (hst : st.isTarget = false) (e : Event) :
    State.CHECK_IF_PEC_REQUIRED ∉ nextStates st e := by
  cases st <;> cases hst <;> cases e <;> decide

variable {s : Profile}

theorem controller_follows
    (hst : (s.xState n).isTarget = false) : FollowsAt n e s (exec (vSMBusFSM n e) s) := by
  by_cases he : (s.xState n, e) ∈ controllerPassing
  · rw [vSMBusFSM, exec_get_bind]
    simp only [controllerPassing, List.mem_cons, Prod.mk.injEq, List.not_mem_nil, or_false] at he
    rcases he with ⟨hs, rfl⟩ | ⟨hs, rfl⟩ | ⟨hs, rfl⟩ | ⟨hs, rfl⟩ <;> rw [hs]
    · have hpass : Within (Passes n (.AWAITING_DONE :: controllerStates) [.SEND_NEXT_BYTE]
          [.CONTROLLER_SEND_COMMAND, .CONTROLLER_SEND_READ_START, .CONTROLLER_WRITE_BYTE])
          (vStateInitial n .SEND_NEXT_BYTE) := by
        simp only [vStateInitial]; infer_instance
      exact (hpass.rel s).follows (by decide) (by rw [hs]; decide) (by decide)
    · have hpass : Within (Passes n (.AWAITING_DONE :: controllerStates) [.SEND_NEXT_BYTE]
          [.CONTROLLER_SEND_READ_START, .CONTROLLER_WRITE_BYTE])
          (vStateControllerSendCommand n .SEND_NEXT_BYTE) := inferInstance
      exact (hpass.rel s).follows (by decide) (by rw [hs]; decide) (by decide)
    all_goals
      have hpass : Within (Passes n (.AWAITING_DONE :: controllerStates) [.SEND_NEXT_BYTE]
          [.CONTROLLER_SEND_READ_START]) (vControllerWrite n) := inferInstance
      exact (hpass.rel s).follows (by decide) (by rw [hs]; decide) (by decide)
  · have hexit := vSMBusFSM_exit n e s
    rw [postedEvents_eq_nil hst he] at hexit
    exact hexit.follows (check_not_mem_nextStates hst e) e

variable {s : Profile}

theorem awaitingData_done_follows (hs : s.xState n = .AWAITING_DATA) :
    FollowsAt n .TARGET_DONE_IRQ s (exec (vStateAwaitingData n .TARGET_DONE_IRQ) s) := by
  simp only [vStateAwaitingData]
  rw [exec_config_bind]
  by_cases hdevice : (s.xConfig n).ulI2CDevice = true
  · rw [if_pos hdevice]
    have hpass : Within (Passes n midStates [.TARGET_DONE_IRQ] [.AWAITING_DONE]) (do
        vPassI2CData n
        vSMBusCreateEvent n .TARGET_DONE_IRQ
        vSMBusNextStateDecoder n .AWAITING_DONE) := inferInstance
    exact (hpass.rel s).follows (by decide) (by rw [hs]; decide) (by decide)
  · rw [if_neg hdevice]
    have hexit : Within (Exit n midStates []) (do
        vAnnounceResult n false
        vSMBusHandleActionBusError n .TARGET_DONE_IRQ
        vResetToInitial n) := inferInstance
    exact (hexit.rel s).follows (by decide) _

theorem awaitingData_read_follows
    (h : ¬ ((s.xTransfer n).xProtocol ≠ .HOST_NOTIFY ∧ (s.xConfig n).ulI2CDevice = false)) :
    FollowsAt n .TARGET_READ_IRQ s (exec (vStateAwaitingData n .TARGET_READ_IRQ) s) := by
  simp only [vStateAwaitingData]
  rw [exec_config_bind, exec_transfer_bind]
  by_cases hnotify : (s.xTransfer n).xProtocol ≠ .HOST_NOTIFY
  · have hdevice : (s.xConfig n).ulI2CDevice = true := by
      by_contra hne
      exact h ⟨hnotify, by simpa using hne⟩
    rw [if_pos hnotify, if_pos hdevice]
    have hexit : Within (Exit n midStates []) (do
        vPassI2CData n
        vSMBusHandleActionGetI2CDataFromApplication n
        vSMBusNextStateDecoder n .READY_TO_SEND_BYTE) := inferInstance
    exact (hexit.rel s).follows (by decide) _
  · rw [if_neg hnotify]
    have hexit : Within (Exit n midStates []) (do
        vSMBusHandleActionBusError n .TARGET_READ_IRQ
        vAnnounceResult n false
        vResetToInitial n) := inferInstance
    exact (hexit.rel s).follows (by decide) _

/-! ### The PEC of a target transfer -/

/-- What writing a PEC descriptor does: with a full FIFO the event comes again, if it fits in the
queue, and otherwise the transfer is done. -/
structure PecSends (n : ℕ) (es : List Event) (s s' : Profile) : Prop where
  full : s.full → es = [.IS_PEC_REQUIRED] ∨
    es = [] ∧ MAX_EVENT_ELEMENTS ≤ (s.xEventSrcCircularBuf n).length
  room : ¬ s.full → es = []
  queue : s'.xEventSrcCircularBuf =
    Function.update s.xEventSrcCircularBuf n (s.xEventSrcCircularBuf n ++ es)
  state : s'.xState = if s.full then s.xState else Function.update s.xState n .AWAITING_DONE
  registers : s'.registers = s.registers.tail
  transfer : s'.xTransfer = s.xTransfer
  config : s'.xConfig = s.xConfig
  handling : s'.handling = s.handling

theorem vSendPEC_sends (n : ℕ) (s : Profile) : ∃ es, PecSends n es s (exec (vSendPEC n) s) := by
  unfold vSendPEC ucSMBusTargetReadDescriptorPECRead
  rw [exec_bind]
  by_cases hfull : s.full
  · have hrun := targetDescriptorApply_full .TARGET_READ_PEC hfull
    have hvalue : value (prvucSMBusTargetDescriptorApply .TARGET_READ_PEC false) s = false :=
      congrArg Prod.fst hrun
    have hexec : exec (prvucSMBusTargetDescriptorApply .TARGET_READ_PEC false) s =
        { s with registers := s.registers.tail } := congrArg Prod.snd hrun
    rw [hvalue, hexec, if_neg Bool.false_ne_true]
    simp only [vSMBusHandleActionCreateEventIsPECRequired, vSMBusCreateEvent, exec_modify]
    split
    case isTrue =>
      exact ⟨[.IS_PEC_REQUIRED], fun _ => .inl rfl, fun h => absurd hfull h, rfl,
        (if_pos hfull).symm, rfl, rfl, rfl, rfl⟩
    case isFalse hlong =>
      have hlen : MAX_EVENT_ELEMENTS ≤ (s.xEventSrcCircularBuf n).length := Nat.not_lt.mp hlong
      exact ⟨[], fun _ => .inr ⟨rfl, hlen⟩, fun _ => rfl, by simp, (if_pos hfull).symm, rfl, rfl,
        rfl, rfl⟩
  · have hrun := targetDescriptorApply_room .TARGET_READ_PEC hfull
    have hvalue : value (prvucSMBusTargetDescriptorApply .TARGET_READ_PEC false) s = true :=
      congrArg Prod.fst hrun
    have hexec : exec (prvucSMBusTargetDescriptorApply .TARGET_READ_PEC false) s =
        { s with registers := s.registers.tail, written := s.written ++ [.TARGET_READ_PEC] } :=
      congrArg Prod.snd hrun
    rw [hvalue, hexec, if_pos rfl]
    exact ⟨[], fun h => absurd h hfull, fun _ => rfl, by simp [vSMBusNextStateDecoder],
      (if_neg hfull).symm, rfl, rfl, rfl, rfl⟩

/-- A round that puts the event back leaves the instance as it is. The queue gets copies of the
event, unless it is full. -/
structure PutBack (n : ℕ) (e : Event) (s s' : Profile) : Prop where
  state : s'.xState = s.xState
  transfer : s'.xTransfer = s.xTransfer
  config : s'.xConfig = s.xConfig
  handling : s'.handling = s.handling
  queue : ∃ es, (∀ x ∈ es, x = e) ∧ (e = .TARGET_READ_IRQ → es.length ≤ 1) ∧
    (es = [] → MAX_EVENT_ELEMENTS ≤ (s.xEventSrcCircularBuf n).length) ∧
    s'.xEventSrcCircularBuf =
      Function.update s.xEventSrcCircularBuf n (s.xEventSrcCircularBuf n ++ es)

/-- The part of the PEC handler for the read protocols and the I2C devices. -/
def vCheckRead (n : ℕ) (s : Profile) : Profile :=
  if (s.xTransfer n).xProtocol ∈ targetReads ++ [.RECEIVE_BYTE] ∨
      (s.xConfig n).ulI2CDevice = true then
    if (s.xConfig n).ucPECRequired = true then exec (vSendPEC n) s
    else exec (vSMBusNextStateDecoder n .AWAITING_DONE) s
  else s

theorem exec_checkIfPEC (n : ℕ) (s : Profile) :
    exec (vStateCheckIfPECRequired n .IS_PEC_REQUIRED) s =
      if (s.xTransfer n).xProtocol ∈ [.ARP_GET_UDID, .ARP_GET_UDID_DIRECTED] then
        exec (vSendPEC n) (vCheckRead n s)
      else vCheckRead n s := by
  simp only [vStateCheckIfPECRequired]
  rw [exec_config_bind, exec_transfer_bind, exec_bind, exec_ite, exec_ite, exec_ite]
  rfl

theorem checkIfPEC_putBack (h : s.pecRefused n s.registers) :
    PutBack n .IS_PEC_REQUIRED s (exec (vStateCheckIfPECRequired n .IS_PEC_REQUIRED) s) := by
  obtain ⟨hsome, hread, hudid⟩ := h
  have hirq : Event.IS_PEC_REQUIRED ≠ .TARGET_READ_IRQ := by decide
  rw [exec_checkIfPEC]
  by_cases hr : (s.xTransfer n).xProtocol ∈ targetReads ++ [.RECEIVE_BYTE] ∨
      (s.xConfig n).ulI2CDevice = true
  · obtain ⟨hpec, hfull⟩ := hread hr
    rw [if_pos hr] at hudid
    obtain ⟨es, hsends⟩ := vSendPEC_sends n s
    rw [vCheckRead, if_pos hr, if_pos hpec]
    generalize exec (vSendPEC n) s = m at hsends ⊢
    have hstate : m.xState = s.xState := hsends.state.trans (if_pos hfull)
    have hes : (∀ x ∈ es, x = .IS_PEC_REQUIRED) ∧
        (es = [] → MAX_EVENT_ELEMENTS ≤ (s.xEventSrcCircularBuf n).length) := by
      rcases hsends.full hfull with rfl | ⟨rfl, hlen⟩
      · exact ⟨by simp, by simp⟩
      · exact ⟨by simp, fun _ => hlen⟩
    by_cases hu : (s.xTransfer n).xProtocol ∈ [.ARP_GET_UDID, .ARP_GET_UDID_DIRECTED]
    · rw [if_pos hu]
      have hfull' : m.full := by
        rw [Profile.full, hsends.registers]; exact hudid hu
      obtain ⟨es', hsends'⟩ := vSendPEC_sends n m
      refine ⟨(hsends'.state.trans (if_pos hfull')).trans hstate,
        hsends'.transfer.trans hsends.transfer, hsends'.config.trans hsends.config,
        hsends'.handling.trans hsends.handling, es ++ es', ?_, fun h => absurd h hirq, ?_, ?_⟩
      · intro x hx
        rcases List.mem_append.mp hx with hx | hx
        · exact hes.1 x hx
        · rcases hsends'.full hfull' with rfl | ⟨rfl, -⟩
          · simpa using hx
          · simp at hx
      · exact fun hnil => hes.2 (List.append_eq_nil_iff.mp hnil).1
      · rw [hsends'.queue, hsends.queue]
        simp
    · rw [if_neg hu]
      exact ⟨hstate, hsends.transfer, hsends.config, hsends.handling, es, hes.1,
        fun h => absurd h hirq, hes.2, hsends.queue⟩
  · have hu := hsome.resolve_left hr
    rw [if_neg hr] at hudid
    rw [vCheckRead, if_neg hr, if_pos hu]
    have hfull : s.full := hudid hu
    obtain ⟨es, hsends⟩ := vSendPEC_sends n s
    refine ⟨hsends.state.trans (if_pos hfull), hsends.transfer, hsends.config, hsends.handling,
      es, ?_, fun h => absurd h hirq, ?_, hsends.queue⟩
    · rcases hsends.full hfull with rfl | ⟨rfl, -⟩ <;> simp
    · rcases hsends.full hfull with rfl | ⟨rfl, hlen⟩
      · simp
      · exact fun _ => hlen

theorem vSendPEC_from_done {s m : Profile}
    (hstate : m.xState = Function.update s.xState n .AWAITING_DONE)
    (hqueue : m.xEventSrcCircularBuf n = s.xEventSrcCircularBuf n) :
    (exec (vSendPEC n) m).xState n = .AWAITING_DONE ∧
      ∃ es, es.length ≤ 1 ∧ (∀ x ∈ es, x = .IS_PEC_REQUIRED) ∧
        (exec (vSendPEC n) m).xEventSrcCircularBuf n = s.xEventSrcCircularBuf n ++ es := by
  obtain ⟨es, hsends⟩ := vSendPEC_sends n m
  refine ⟨?_, es, ?_, ?_, by rw [hsends.queue, Function.update_self, hqueue]⟩
  · rw [hsends.state, hstate]
    split <;> simp
  · by_cases hfull : m.full
    · rcases hsends.full hfull with rfl | ⟨rfl, -⟩ <;> simp
    · simp [hsends.room hfull]
  · by_cases hfull : m.full
    · rcases hsends.full hfull with rfl | ⟨rfl, -⟩ <;> simp
    · simp [hsends.room hfull]

theorem checkIfPEC_done (h : ¬ s.pecRefused n s.registers)
    (hwant : s.wantsPec n) :
    (exec (vStateCheckIfPECRequired n .IS_PEC_REQUIRED) s).xState n = .AWAITING_DONE ∧
      ∃ es, es.length ≤ 1 ∧ (∀ x ∈ es, x = .IS_PEC_REQUIRED) ∧
        (exec (vStateCheckIfPECRequired n .IS_PEC_REQUIRED) s).xEventSrcCircularBuf n =
          s.xEventSrcCircularBuf n ++ es := by
  rw [exec_checkIfPEC]
  by_cases hr : (s.xTransfer n).xProtocol ∈ targetReads ++ [.RECEIVE_BYTE] ∨
      (s.xConfig n).ulI2CDevice = true
  · rw [vCheckRead, if_pos hr]
    by_cases hpec : (s.xConfig n).ucPECRequired = true
    · rw [if_pos hpec]
      obtain ⟨es, hsends⟩ := vSendPEC_sends n s
      generalize exec (vSendPEC n) s = m at hsends ⊢
      by_cases hfull : s.full
      · -- the first descriptor is refused, so the second is the one that is not
        have hu : (s.xTransfer n).xProtocol ∈ [.ARP_GET_UDID, .ARP_GET_UDID_DIRECTED] := by
          by_contra hu
          exact h ⟨.inl hr, fun _ => ⟨hpec, hfull⟩, fun hu' => absurd hu' hu⟩
        have hroom : ¬ m.full := by
          intro hm
          rw [Profile.full, hsends.registers] at hm
          exact h ⟨.inl hr, fun _ => ⟨hpec, hfull⟩, fun _ => by rw [if_pos hr]; exact hm⟩
        rw [if_pos hu]
        obtain ⟨es', hsends'⟩ := vSendPEC_sends n m
        have hstate := hsends'.state.trans (if_neg hroom)
        refine ⟨by rw [hstate]; exact Function.update_self _ _ _, es, ?_, ?_, ?_⟩
        · rcases hsends.full hfull with rfl | ⟨rfl, -⟩ <;> simp
        · rcases hsends.full hfull with rfl | ⟨rfl, -⟩ <;> simp
        · rw [hsends'.queue, hsends.queue, hsends'.room hroom]
          simp
      · have hstate : m.xState = Function.update s.xState n .AWAITING_DONE :=
          hsends.state.trans (if_neg hfull)
        obtain rfl := hsends.room hfull
        split
        · exact vSendPEC_from_done hstate (by rw [hsends.queue]; simp)
        · exact ⟨by rw [hstate]; exact Function.update_self _ _ _, [], by simp, by simp,
            by rw [hsends.queue]; simp⟩
    · rw [if_neg hpec]
      have hstate : (exec (vSMBusNextStateDecoder n .AWAITING_DONE) s).xState =
          Function.update s.xState n .AWAITING_DONE := rfl
      split
      · exact vSendPEC_from_done hstate rfl
      · exact ⟨by rw [hstate]; exact Function.update_self _ _ _, [], by simp, by simp, by simp [
          vSMBusNextStateDecoder]⟩
  · have hu := hwant.resolve_left hr
    rw [vCheckRead, if_neg hr, if_pos hu]
    have hroom : ¬ s.full := fun hfull =>
      h ⟨.inr hu, fun hr' => absurd hr' hr, fun _ => by rw [if_neg hr]; exact hfull⟩
    obtain ⟨es, hsends⟩ := vSendPEC_sends n s
    obtain rfl := hsends.room hroom
    have hstate := hsends.state.trans (if_neg hroom)
    exact ⟨by rw [hstate]; exact Function.update_self _ _ _, [], by simp, by simp,
      by rw [hsends.queue]; simp⟩

theorem checkIfPEC_follows (hs : s.xState n = .CHECK_IF_PEC_REQUIRED)
    (h : ¬ s.pecRefused n s.registers) :
    FollowsAt n .IS_PEC_REQUIRED s (exec (vStateCheckIfPECRequired n .IS_PEC_REQUIRED) s) := by
  by_cases hwant : s.wantsPec n
  · obtain ⟨hstate, es, hlen, hes, hqueue⟩ := checkIfPEC_done h hwant
    exact ⟨es, hqueue, hlen, fun x hx => .inl (hes x hx), fun _ => by rw [hstate, hs]; decide,
      fun _ => .inl hs⟩
  · rw [Profile.wantsPec, not_or] at hwant
    rw [exec_checkIfPEC, if_neg hwant.2, vCheckRead, if_neg hwant.1]
    exact ⟨[], by simp, follows_nil fun _ => hs⟩

/-- **One event.** What an event leaves that is not put back. -/
theorem vSMBusFSM_follows (h : ¬ s.putsBack n e s.registers) :
    FollowsAt n e s (exec (vSMBusFSM n e) s) := by
  by_cases htarget : (s.xState n).isTarget = true
  · by_cases he : (s.xState n, e) ∈ targetPassing
    · rw [vSMBusFSM, exec_get_bind]
      simp only [targetPassing, List.mem_cons, Prod.mk.injEq, List.not_mem_nil, or_false] at he
      rcases he with ⟨hs, rfl⟩ | ⟨hs, rfl⟩ | ⟨hs, rfl⟩ | ⟨hs, rfl⟩ | ⟨hs, rfl⟩ <;> rw [hs]
      · have hpass : Within (Passes n midStates [.TARGET_DATA_IRQ] [.AWAITING_DATA])
            (vStateAwaitingCommandByte n .TARGET_DATA_IRQ) := inferInstance
        exact (hpass.rel s).follows (by decide) (by rw [hs]; decide) (by decide)
      · exact awaitingData_read_follows fun hback => h (.inl ⟨hs, rfl, hback⟩)
      · exact awaitingData_done_follows hs
      · have hpass : Within (Passes n [.CHECK_IF_PEC_REQUIRED] [.IS_PEC_REQUIRED]
            [.CHECK_IF_PEC_REQUIRED])
            (vStateReadyToSendByte n .DESC_FIFO_ALMOST_EMPTY_IRQ) := inferInstance
        exact (hpass.rel s).follows (by decide) (by rw [hs]; decide) (by decide)
      · exact checkIfPEC_follows hs fun hback => h (.inr ⟨hs, rfl, hback⟩)
    · exact (target_exit n e s htarget he).follows (by decide) e
  · exact controller_follows (by simpa using htarget)

theorem awaitingData_putBack
    (h : (s.xTransfer n).xProtocol ≠ .HOST_NOTIFY ∧ (s.xConfig n).ulI2CDevice = false) :
    PutBack n .TARGET_READ_IRQ s (exec (vStateAwaitingData n .TARGET_READ_IRQ) s) := by
  simp only [vStateAwaitingData]
  rw [exec_config_bind, exec_transfer_bind, if_pos h.1, if_neg (by simp [h.2])]
  simp only [vSMBusCreateEvent, exec_modify]
  split
  case isTrue =>
    exact ⟨rfl, rfl, rfl, rfl, [.TARGET_READ_IRQ], by simp, by simp, by simp, rfl⟩
  case isFalse hlong =>
    exact ⟨rfl, rfl, rfl, rfl, [], by simp, by simp, fun _ => Nat.not_lt.mp hlong, by simp⟩

/-- **One event put back.** -/
theorem vSMBusFSM_putBack (h : s.putsBack n e s.registers) :
    PutBack n e s (exec (vSMBusFSM n e) s) := by
  rw [vSMBusFSM, exec_get_bind]
  rcases h with ⟨hs, rfl, hback⟩ | ⟨hs, rfl, hback⟩ <;> rw [hs]
  · exact awaitingData_putBack hback
  · exact checkIfPEC_putBack hback

/-! ### Ranks -/

/-- What can still bring an instance to the check for a PEC: its events that are not made up, and
being there. -/
def checkRank (st : State) (q : List Event) : ℕ :=
  2 * q.countP (fun e => decide (e ∉ madeUp)) + if st = .CHECK_IF_PEC_REQUIRED then 1 else 0

/-- What is left to do for an instance: its events, and what its state may still add. -/
def workRank (st : State) (q : List Event) : ℕ := 4 * q.length + st.weight

theorem State.weight_le (st : State) : st.weight ≤ 3 := by cases st <;> decide

variable {es : List Event}

theorem Follows.workRank_lt (h : Follows st e st' es)
    (q : List Event) : workRank st' (q ++ es) < workRank st (e :: q) := by
  have hweight := st'.weight_le
  have hlen := h.once
  simp only [workRank, List.length_append, List.length_cons]
  by_cases hes : es = []
  · subst hes
    simp only [List.length_nil]
    omega
  · have hlower := h.lower hes
    omega

theorem Follows.countP_le (h : Follows st e st' es) :
    es.countP (fun e => decide (e ∉ madeUp)) ≤
      if decide (e ∉ madeUp) = true ∧ e ∈ es then 1 else 0 := by
  by_cases he : e ∉ madeUp ∧ e ∈ es
  · rw [if_pos ⟨decide_eq_true he.1, he.2⟩]
    exact List.countP_le_length.trans h.once
  · rw [if_neg fun h' => he ⟨of_decide_eq_true h'.1, h'.2⟩]
    refine (List.countP_eq_zero.mpr fun x hx hnot => ?_).le
    rcases h.kind x hx with rfl | hmade
    · exact he ⟨of_decide_eq_true hnot, hx⟩
    · exact of_decide_eq_true hnot hmade

theorem Follows.checkRank_le (h : Follows st e st' es)
    (q : List Event) : checkRank st' (q ++ es) ≤ checkRank st (e :: q) := by
  have hcount := h.countP_le
  have hcount' : es.countP (fun e => decide (e ∉ madeUp)) ≤
      if decide (e ∉ madeUp) = true then 1 else 0 := by
    refine hcount.trans ?_
    by_cases he : decide (e ∉ madeUp) = true
    · rw [if_pos he]; split <;> omega
    · rw [if_neg he, if_neg fun h' => he h'.1]
  simp only [checkRank, List.countP_append, List.countP_cons]
  by_cases hcheck : st' = .CHECK_IF_PEC_REQUIRED
  · rcases h.check hcheck with hst | ⟨rfl, hnot⟩
    · rw [if_pos hcheck, if_pos hst]
      omega
    · have hmade : decide (Event.DESC_FIFO_ALMOST_EMPTY_IRQ ∉ madeUp) = true := by decide
      rw [if_neg fun h' => hnot h'.2] at hcount
      rw [if_pos hcheck, if_pos hmade]
      omega
  · rw [if_neg hcheck]
    omega

theorem PutBack.checkRank_le {s s' : Profile} (h : PutBack n e s s')
    (he : e ∈ [.TARGET_READ_IRQ, .IS_PEC_REQUIRED]) :
    checkRank (s'.xState n) (s'.xEventSrcCircularBuf n) ≤
      checkRank (s.xState n) (e :: s.xEventSrcCircularBuf n) := by
  obtain ⟨es, hes, honce, -, hqueue⟩ := h.queue
  rw [h.state, hqueue, Function.update_self]
  simp only [checkRank, List.countP_append, List.countP_cons]
  simp only [List.mem_cons, List.not_mem_nil, or_false] at he
  rcases he with rfl | rfl
  · have hle := List.countP_le_length (p := fun e => decide (e ∉ madeUp)) (l := es)
    have hlen := honce rfl
    have hmade : decide (Event.TARGET_READ_IRQ ∉ madeUp) = true := by decide
    rw [if_pos hmade]
    omega
  · have hzero : es.countP (fun e => decide (e ∉ madeUp)) = 0 :=
      List.countP_eq_zero.mpr fun x hx => by rw [hes x hx]; decide
    omega

theorem PutBack.workRank_le {s s' : Profile} (h : PutBack n .TARGET_READ_IRQ s s') :
    workRank (s'.xState n) (s'.xEventSrcCircularBuf n) ≤
      workRank (s.xState n) (.TARGET_READ_IRQ :: s.xEventSrcCircularBuf n) := by
  obtain ⟨es, -, honce, -, hqueue⟩ := h.queue
  have hlen := honce rfl
  rw [h.state, hqueue, Function.update_self]
  simp only [workRank, List.length_append, List.length_cons]
  omega

/-! ### One round -/

/-- What an event leaves of everything but its own instance. -/
structure Elsewhere (n : ℕ) (s s' : Profile) : Prop where
  state : ∀ j, j ≠ n → s'.xState j = s.xState j
  queue : ∀ j, j ≠ n → s'.xEventSrcCircularBuf j = s.xEventSrcCircularBuf j
  inUse : ∀ j, (s'.xConfig j).ucInstanceInUse = (s.xConfig j).ucInstanceInUse
  handling : s'.handling = s.handling

theorem Steer.elsewhere {next : List State} {posts : List Event} {s s' : Profile}
    (h : Steer n next posts s s') : Elsewhere n s s' where
  state := h.otherState
  queue := h.otherEvents
  inUse := fun j => Config.inUse_of_identity (h.identity j)
  handling := (still_eq.mp h.still).2.2.2.2

theorem vSMBusFSM_elsewhere (n : ℕ) (e : Event) (s : Profile) :
    Elsewhere n s (exec (vSMBusFSM n e) s) := by
  cases vSMBusFSM_exit n e s with
  | steers h => exact h.elsewhere
  | resets m h hs' =>
    rw [hs']
    have hcontrol := vResetToInitial_effect n m
    simp only [Profile.control, Prod.mk.injEq] at hcontrol
    obtain ⟨-, -, -, hconfig, hstate, hqueue, -, -, -, -, -, hhandling⟩ := hcontrol
    have hm := h.elsewhere
    exact {
      state := fun j hj => by
        rw [hstate, Profile.released]
        exact (Function.update_of_ne hj _ _).trans (hm.state j hj)
      queue := fun j hj => (congrFun hqueue j).trans (hm.queue j hj)
      inUse := fun j => by rw [hconfig]; exact hm.inUse j
      handling := hhandling.trans hm.handling }

theorem vSMBusFSM_leaves (hs : s.xState n = .CHECK_IF_PEC_REQUIRED)
    (hwant : s.wantsPec n) (he : e ∈ madeUp) (h : ¬ s.putsBack n e s.registers) :
    (exec (vSMBusFSM n e) s).xState n ≠ .CHECK_IF_PEC_REQUIRED := by
  rw [vSMBusFSM, exec_get_bind, hs]
  simp only [madeUp, List.mem_cons, List.not_mem_nil, or_false] at he
  rcases he with rfl | rfl
  · have hdone := (checkIfPEC_done (fun hback => h (.inr ⟨hs, rfl, hback⟩)) hwant).1
    simp only [hdone]
    decide
  · have hother : vStateCheckIfPECRequired n .SEND_NEXT_BYTE = vResetToInitial n := rfl
    have hcontrol := vResetToInitial_effect n s
    simp only [Profile.control, Prod.mk.injEq] at hcontrol
    simp only [hother, hcontrol.2.2.2.2.1, Profile.released, Function.update_self]
    decide

theorem pending_head {n : ℕ} (h : s.pending = some n) :
    ∃ e q, s.xEventSrcCircularBuf n = e :: q := by
  have hp := List.find?_some h
  simp only [decide_eq_true_eq] at hp
  exact List.exists_cons_of_ne_nil hp.2

theorem handle_eq {n : ℕ} {e : Event} {q : List Event} (hh : s.handling = true)
    (hp : s.pending = some n) (hq : s.xEventSrcCircularBuf n = e :: q) (registers : List ℕ)
    (answer : Answer) : vSMBusEventQueueHandle s registers answer =
      some (exec (vSMBusFSM n e) (s.take n registers answer)) := by
  simp [vSMBusEventQueueHandle, hh, hp, hq]

theorem handle_none (hp : s.pending = none) (registers : List ℕ)
    (answer : Answer) : vSMBusEventQueueHandle s registers answer = none := by
  simp [vSMBusEventQueueHandle, hp]

/-- One round of the loop, on the first event of instance `n`. -/
structure RoundOn (n : ℕ) (e : Event) (registers : List ℕ) (s s' : Profile) : Prop where
  state : ∀ j, j ≠ n → s'.xState j = s.xState j
  queue : ∀ j, j ≠ n → s'.xEventSrcCircularBuf j = s.xEventSrcCircularBuf j
  inUse : ∀ j, (s'.xConfig j).ucInstanceInUse = (s.xConfig j).ucInstanceInUse
  follows : ¬ s.putsBack n e registers → ∃ es,
    s'.xEventSrcCircularBuf n = (s.xEventSrcCircularBuf n).tail ++ es ∧
      Follows (s.xState n) e (s'.xState n) es
  leaves : ¬ s.putsBack n e registers → s.xState n = .CHECK_IF_PEC_REQUIRED → s.wantsPec n →
    e ∈ madeUp → s'.xState n ≠ .CHECK_IF_PEC_REQUIRED
  back : s.putsBack n e registers → ∃ t : Profile, t.xState = s.xState ∧
    t.xTransfer = s.xTransfer ∧ t.xConfig = s.xConfig ∧
    t.xEventSrcCircularBuf = Function.update s.xEventSrcCircularBuf n
      (s.xEventSrcCircularBuf n).tail ∧ PutBack n e t s'

theorem rounds_handling (hw : Hardware) (s : Profile) (k : ℕ) :
    (rounds hw s k).handling = true := by
  induction k with
  | zero => rfl
  | succ k ih =>
    rcases hp : (rounds hw s k).pending with _ | n
    · rw [rounds, handle_none hp]
      exact ih
    · obtain ⟨e, q, hq⟩ := pending_head hp
      rw [rounds, handle_eq ih hp hq]
      exact (vSMBusFSM_elsewhere n e _).handling.trans ih

/-- **Rounds.** A round with an instance to handle is a round on its first event. -/
theorem rounds_succ {hw : Hardware} {s : Profile} {k n : ℕ} {e : Event} {q : List Event}
    (hp : (rounds hw s k).pending = some n)
    (hq : (rounds hw s k).xEventSrcCircularBuf n = e :: q) :
    RoundOn n e (hw k).1 (rounds hw s k) (rounds hw s (k + 1)) := by
  rw [rounds, handle_eq (rounds_handling hw s k) hp hq, Option.getD_some]
  generalize rounds hw s k = t
  have helse := vSMBusFSM_elsewhere n e (t.take n (hw k).1 (hw k).2)
  refine ⟨helse.state, fun j hj => ?_, helse.inUse, fun hnot => ?_,
    fun hnot hs hwant he => vSMBusFSM_leaves (n := n) (s := t.take n (hw k).1 (hw k).2) hs hwant
      he hnot, fun hback => ?_⟩
  · exact (helse.queue j hj).trans (Function.update_of_ne hj _ _)
  · obtain ⟨es, hes, hfollows⟩ := vSMBusFSM_follows (n := n) (e := e)
      (s := t.take n (hw k).1 (hw k).2) hnot
    refine ⟨es, hes.trans ?_, hfollows⟩
    rw [Profile.take]
    exact congrArg (· ++ es) (Function.update_self _ _ _)
  · exact ⟨t.take n (hw k).1 (hw k).2, rfl, rfl, rfl, rfl, vSMBusFSM_putBack hback⟩

/-! ### Ranks of the profile -/

def Profile.total (s : Profile) (rank : State → List Event → ℕ) : ℕ :=
  ∑ n ∈ Finset.range NUM_INSTANCES, rank (s.xState n) (s.xEventSrcCircularBuf n)

section Total

variable {n : ℕ} {e : Event} {registers : List ℕ} {s s' : Profile}

theorem RoundOn.total_le (h : RoundOn n e registers s s') (rank : State → List Event → ℕ)
    (hn : rank (s'.xState n) (s'.xEventSrcCircularBuf n) ≤
      rank (s.xState n) (s.xEventSrcCircularBuf n)) : s'.total rank ≤ s.total rank := by
  refine Finset.sum_le_sum fun j _ => ?_
  by_cases hj : j = n
  · rw [hj]; exact hn
  · rw [h.state j hj, h.queue j hj]

theorem RoundOn.total_lt (h : RoundOn n e registers s s') (rank : State → List Event → ℕ)
    (hrange : n < NUM_INSTANCES)
    (hn : rank (s'.xState n) (s'.xEventSrcCircularBuf n) <
      rank (s.xState n) (s.xEventSrcCircularBuf n)) : s'.total rank < s.total rank := by
  refine Finset.sum_lt_sum (fun j _ => ?_) ⟨n, Finset.mem_range.mpr hrange, hn⟩
  by_cases hj : j = n
  · rw [hj]; exact hn.le
  · rw [h.state j hj, h.queue j hj]

variable {q : List Event}

theorem RoundOn.checkRank_le (h : RoundOn n e registers s s')
    (hq : s.xEventSrcCircularBuf n = e :: q) :
    checkRank (s'.xState n) (s'.xEventSrcCircularBuf n) ≤
      checkRank (s.xState n) (s.xEventSrcCircularBuf n) := by
  by_cases hback : s.putsBack n e registers
  · obtain ⟨t, hstate, -, -, hqueue, hput⟩ := h.back hback
    have he : e ∈ [.TARGET_READ_IRQ, .IS_PEC_REQUIRED] := by
      rcases hback with ⟨-, rfl, -⟩ | ⟨-, rfl, -⟩ <;> decide
    have hle := hput.checkRank_le he
    rw [hstate, hqueue, Function.update_self, hq, List.tail_cons] at hle
    rw [hq]
    exact hle
  · obtain ⟨es, hes, hfollows⟩ := h.follows hback
    rw [hes, hq, List.tail_cons]
    exact hfollows.checkRank_le q

theorem RoundOn.workRank_lt (h : RoundOn n e registers s s')
    (hq : s.xEventSrcCircularBuf n = e :: q) (hback : ¬ s.putsBack n e registers) :
    workRank (s'.xState n) (s'.xEventSrcCircularBuf n) <
      workRank (s.xState n) (s.xEventSrcCircularBuf n) := by
  obtain ⟨es, hes, hfollows⟩ := h.follows hback
  rw [hes, hq, List.tail_cons]
  exact hfollows.workRank_lt q

theorem RoundOn.workRank_le (h : RoundOn n e registers s s')
    (hq : s.xEventSrcCircularBuf n = e :: q) (hback : s.putsBack n e registers)
    (hs : s.xState n ≠ .CHECK_IF_PEC_REQUIRED) :
    workRank (s'.xState n) (s'.xEventSrcCircularBuf n) ≤
      workRank (s.xState n) (s.xEventSrcCircularBuf n) := by
  obtain ⟨t, hstate, -, -, hqueue, hput⟩ := h.back hback
  rcases hback with ⟨-, rfl, -⟩ | ⟨hcheck, -⟩
  · have hle := hput.workRank_le
    rw [hstate, hqueue, Function.update_self, hq, List.tail_cons] at hle
    rw [hq]
    exact hle
  · exact absurd hcheck hs

end Total

/-! ### What is put back stays put back -/

section Back

variable {n : ℕ} {e e' : Event} {registers : List ℕ} {s s' : Profile}

theorem putsBack_unique {registers' : List ℕ} (h : s.putsBack n e registers)
    (h' : s.putsBack n e' registers') : e = e' := by
  rcases h with ⟨hs, rfl, -⟩ | ⟨hs, rfl, -⟩ <;> rcases h' with ⟨hs', rfl, -⟩ | ⟨hs', rfl, -⟩
  · rfl
  · rw [hs] at hs'; cases hs'
  · rw [hs] at hs'; cases hs'
  · rfl

theorem putsBack_congr (hstate : s'.xState = s.xState) (htransfer : s'.xTransfer = s.xTransfer)
    (hconfig : s'.xConfig = s.xConfig) :
    s'.putsBack n e registers ↔ s.putsBack n e registers := by
  simp only [Profile.putsBack, Profile.pecRefused, Profile.wantsPec, hstate, htransfer, hconfig]

/-- After a round that puts its event back the loop is at the same instance, which is as it was,
with the event behind those that followed it. -/
theorem RoundOn.again (h : RoundOn n e registers s s') (hp : s.pending = some n)
    (hback : s.putsBack n e registers) :
    s'.pending = some n ∧ s'.xState = s.xState ∧ s'.xTransfer = s.xTransfer ∧
      s'.xConfig = s.xConfig ∧ ∃ es, (∀ x ∈ es, x = e) ∧
        s'.xEventSrcCircularBuf n = (s.xEventSrcCircularBuf n).tail ++ es := by
  obtain ⟨t, hstate, htransfer, hconfig, hqueue, hput⟩ := h.back hback
  obtain ⟨es, hes, -, hfull, hqueue'⟩ := hput.queue
  have hn : s'.xEventSrcCircularBuf n = (s.xEventSrcCircularBuf n).tail ++ es := by
    rw [hqueue', Function.update_self, hqueue, Function.update_self]
  have hne : s'.xEventSrcCircularBuf n ≠ [] := by
    intro hnil
    rw [hn, List.append_eq_nil_iff] at hnil
    have hlong := hfull hnil.2
    rw [hqueue, Function.update_self, hnil.1] at hlong
    exact absurd hlong (by decide)
  refine ⟨?_, hput.state.trans hstate, hput.transfer.trans htransfer,
    hput.config.trans hconfig, es, hes, hn⟩
  have hne' : s.xEventSrcCircularBuf n ≠ [] := by
    obtain ⟨x, q, hq⟩ := pending_head hp
    rw [hq]
    exact List.cons_ne_nil x q
  rw [Profile.pending] at hp ⊢
  rw [← hp]
  congr 1
  funext i
  by_cases hi : i = n
  · subst hi
    simp [h.inUse, hne, hne']
  · simp [h.inUse, h.queue i hi]

end Back

/-! ### The loop -/

def Profile.backs (s : Profile) (n : ℕ) (registers : List ℕ) : Prop :=
  ∃ e q, s.pending = some n ∧ s.xEventSrcCircularBuf n = e :: q ∧ s.putsBack n e registers

section Loop

variable {hw : Hardware} {s : Profile}

theorem rounds_succ_of_pending {k n : ℕ} (hp : (rounds hw s k).pending = some n) :
    ∃ e q, (rounds hw s k).xEventSrcCircularBuf n = e :: q ∧
      RoundOn n e (hw k).1 (rounds hw s k) (rounds hw s (k + 1)) := by
  obtain ⟨e, q, hq⟩ := pending_head hp
  exact ⟨e, q, hq, rounds_succ hp hq⟩

theorem rounds_ended {k : ℕ} (hp : (rounds hw s k).pending = none) (i : ℕ) :
    (rounds hw s (k + i)).pending = none := by
  induction i with
  | zero => exact hp
  | succ i ih =>
    rw [← Nat.add_assoc, rounds, handle_none ih]
    exact ih

theorem pending_lt (hp : s.pending = some n) : n < NUM_INSTANCES :=
  Nat.lt_succ_of_le (pending_spec hp).1

theorem rounds_checkRank (hw : Hardware) (s : Profile) (k : ℕ) :
    (rounds hw s (k + 1)).total checkRank ≤ (rounds hw s k).total checkRank := by
  rcases hp : (rounds hw s k).pending with _ | n
  · rw [rounds, handle_none hp]
    exact le_rfl
  · obtain ⟨e, q, hq, hround⟩ := rounds_succ_of_pending hp
    exact hround.total_le checkRank (hround.checkRank_le hq)

/-- While the check rank does not change, an instance that waits with a PEC puts back the event of
one round after that of another. -/
theorem backs_of_check {N n : ℕ}
    (hconst : ∀ k, N ≤ k → (rounds hw s k).total checkRank = (rounds hw s N).total checkRank)
    {j : ℕ} (hj : N ≤ j) (hback : (rounds hw s j).backs n (hw j).1)
    (hs : (rounds hw s j).xState n = .CHECK_IF_PEC_REQUIRED) (i : ℕ) :
    (rounds hw s (j + i)).backs n (hw (j + i)).1 ∧
      (rounds hw s (j + i)).xState n = .CHECK_IF_PEC_REQUIRED := by
  induction i with
  | zero => exact ⟨hback, hs⟩
  | succ i ih =>
    obtain ⟨⟨e, q, hp, hq, hput⟩, hst⟩ := ih
    obtain ⟨hp', hstate, htransfer, hconfig, -⟩ := (rounds_succ hp hq).again hp hput
    have hwant : (rounds hw s (j + i)).wantsPec n := by
      rcases hput with ⟨hs', -⟩ | ⟨-, -, hrefused⟩
      · rw [hst] at hs'; cases hs'
      · exact hrefused.1
    rw [← Nat.add_assoc]
    have hst' : (rounds hw s (j + i + 1)).xState n = .CHECK_IF_PEC_REQUIRED := by
      rw [hstate]; exact hst
    have hwant' : (rounds hw s (j + i + 1)).wantsPec n := by
      rw [Profile.wantsPec, htransfer, hconfig]; exact hwant
    obtain ⟨e', q', hq', hround⟩ := rounds_succ_of_pending hp'
    refine ⟨⟨e', q', hp', hq', ?_⟩, hst'⟩
    by_contra hnot
    obtain ⟨es, hes, hfollows⟩ := hround.follows hnot
    -- the rank is the same, so the instance is still in its state and used up a made-up event
    have hsame : checkRank ((rounds hw s (j + i + 1 + 1)).xState n)
          ((rounds hw s (j + i + 1 + 1)).xEventSrcCircularBuf n) =
        checkRank ((rounds hw s (j + i + 1)).xState n)
          ((rounds hw s (j + i + 1)).xEventSrcCircularBuf n) := by
      refine le_antisymm (hround.checkRank_le hq') (Nat.not_lt.mp fun hlt => ?_)
      have hdrop := hround.total_lt checkRank (pending_lt hp') hlt
      rw [hconst (j + i + 1 + 1) (by omega), hconst (j + i + 1) (by omega)] at hdrop
      exact absurd hdrop (lt_irrefl _)
    rw [hes, hq', List.tail_cons, hst'] at hsame
    simp only [checkRank, List.countP_append, List.countP_cons, if_true] at hsame
    by_cases hcheck : (rounds hw s (j + i + 1 + 1)).xState n = .CHECK_IF_PEC_REQUIRED
    · rw [if_pos hcheck] at hsame
      have hnil : es = [] := by
        by_contra hne
        have hlower := hfollows.lower hne
        rw [hcheck, hst'] at hlower
        exact absurd hlower (lt_irrefl _)
      have hmade : e' ∈ madeUp := by
        by_contra he
        rw [hnil, if_pos (decide_eq_true he)] at hsame
        simp only [List.countP_nil] at hsame
        omega
      exact hround.leaves hnot hst' hwant' hmade hcheck
    · rw [if_neg hcheck] at hsame
      split at hsame <;> omega

theorem backs_of_endless (h : ∀ k, (rounds hw s k).pending ≠ none) :
    ∃ M, ∀ k, M ≤ k → ∃ n, (rounds hw s k).backs n (hw k).1 := by
  obtain ⟨N, hN⟩ := Ranking.eventually_eq (fun k => (rounds hw s k).total checkRank)
    (rounds_checkRank hw s)
  by_cases hcheck : ∃ j n, N ≤ j ∧ (rounds hw s j).backs n (hw j).1 ∧
      (rounds hw s j).xState n = .CHECK_IF_PEC_REQUIRED
  · obtain ⟨j, n, hj, hback, hs⟩ := hcheck
    refine ⟨j, fun k hk => ⟨n, ?_⟩⟩
    obtain ⟨i, rfl⟩ : ∃ i, k = j + i := ⟨k - j, by omega⟩
    exact (backs_of_check hN hj hback hs i).1
  · obtain ⟨M, -, hM⟩ := Ranking.eventually_of_rank
      (fun k => (rounds hw s k).total workRank)
      (fun k => ∃ n, (rounds hw s k).backs n (hw k).1) N
      (fun k hk => by
        obtain ⟨n, hp⟩ := Option.ne_none_iff_exists'.mp (h k)
        obtain ⟨e, q, hq, hround⟩ := rounds_succ_of_pending hp
        refine hround.total_le workRank ?_
        by_cases hback : (rounds hw s k).putsBack n e (hw k).1
        · refine hround.workRank_le hq hback fun hs => hcheck ?_
          exact ⟨k, n, hk, ⟨e, q, hp, hq, hback⟩, hs⟩
        · exact (hround.workRank_lt hq hback).le)
      (fun k _ hnot => by
        obtain ⟨n, hp⟩ := Option.ne_none_iff_exists'.mp (h k)
        obtain ⟨e, q, hq, hround⟩ := rounds_succ_of_pending hp
        refine hround.total_lt workRank (pending_lt hp) (hround.workRank_lt hq fun hback => ?_)
        exact hnot ⟨n, e, q, hp, hq, hback⟩)
    exact ⟨M, hM⟩

theorem backs_turn {M n : ℕ} (hback : ∀ k, M ≤ k → ∃ n, (rounds hw s k).backs n (hw k).1)
    (hp : (rounds hw s M).pending = some n) (i : ℕ) :
    (rounds hw s (M + i)).pending = some n ∧
      (rounds hw s (M + i)).xState = (rounds hw s M).xState ∧
      (rounds hw s (M + i)).xTransfer = (rounds hw s M).xTransfer ∧
      (rounds hw s (M + i)).xConfig = (rounds hw s M).xConfig ∧
      ∃ es, (rounds hw s (M + i)).xEventSrcCircularBuf n =
        ((rounds hw s M).xEventSrcCircularBuf n).drop i ++ es := by
  induction i with
  | zero => exact ⟨hp, rfl, rfl, rfl, [], by simp⟩
  | succ i ih =>
    obtain ⟨hp', hstate, htransfer, hconfig, es, hes⟩ := ih
    obtain ⟨m, e, q, hm, hq, hput⟩ := hback (M + i) (by omega)
    obtain rfl : m = n := Option.some.inj (hm.symm.trans hp')
    obtain ⟨hp'', hstate', htransfer', hconfig', es', -, hes'⟩ :=
      (rounds_succ hm hq).again hm hput
    refine ⟨hp'', hstate'.trans hstate, htransfer'.trans htransfer, hconfig'.trans hconfig, ?_⟩
    rw [← Nat.add_assoc, hes', hes]
    rcases hdrop : ((rounds hw s M).xEventSrcCircularBuf m).drop i with _ | ⟨x, l⟩
    · refine ⟨es.tail ++ es', ?_⟩
      rw [← List.drop_drop, hdrop]
      rfl
    · refine ⟨es ++ es', ?_⟩
      have hl : ((rounds hw s M).xEventSrcCircularBuf m).drop (i + 1) = l := by
        rw [← List.drop_drop, hdrop]; rfl
      rw [hl]
      simp

theorem stuck_of_endless (h : ∀ k, (rounds hw s k).pending ≠ none) :
    ∃ k, (rounds hw s k).stuck (hw.after k) := by
  obtain ⟨M, hM⟩ := backs_of_endless h
  obtain ⟨n, hp⟩ := Option.ne_none_iff_exists'.mp (h M)
  obtain ⟨e, q, hq⟩ := pending_head hp
  -- every round finds at the head an event that the state of round `M` puts back
  have hhead : ∀ i, ∃ x l, (rounds hw s (M + i)).xEventSrcCircularBuf n = x :: l ∧
      (rounds hw s M).putsBack n x (hw (M + i)).1 := by
    intro i
    obtain ⟨hp', hstate, htransfer, hconfig, -⟩ := backs_turn hM hp i
    obtain ⟨m, x, l, hm, hl, hput⟩ := hM (M + i) (by omega)
    obtain rfl : m = n := Option.some.inj (hm.symm.trans hp')
    exact ⟨x, l, hl, (putsBack_congr hstate htransfer hconfig).mp hput⟩
  have hone : ∀ j, (rounds hw s M).putsBack n e (hw (M + j)).1 := by
    intro j
    obtain ⟨x, l, -, hx⟩ := hhead j
    obtain ⟨y, l', hy, hy'⟩ := hhead 0
    have hey : e = y := by
      rw [Nat.add_zero, hq, List.cons.injEq] at hy
      exact hy.1
    rw [hey, putsBack_unique hy' hx]
    exact hx
  refine ⟨M, n, hp, fun x hx j => ?_⟩
  obtain ⟨i, hi, rfl⟩ := List.mem_iff_getElem.mp hx
  obtain ⟨-, -, -, -, es, hes⟩ := backs_turn hM hp i
  obtain ⟨y, l, hy, hy'⟩ := hhead i
  rw [hes, List.drop_eq_getElem_cons hi, List.cons_append, List.cons.injEq] at hy
  rw [hy.1, putsBack_unique hy' (hone i)]
  exact hone j

theorem stuck_succ {k : ℕ} (h : (rounds hw s k).stuck (hw.after k)) :
    (rounds hw s (k + 1)).stuck (hw.after (k + 1)) := by
  obtain ⟨n, hp, hall⟩ := h
  obtain ⟨e, q, hq, hround⟩ := rounds_succ_of_pending hp
  have hput : (rounds hw s k).putsBack n e (hw k).1 := by
    have h0 := hall e (by rw [hq]; exact List.mem_cons_self) 0
    rwa [Hardware.after, Nat.add_zero] at h0
  obtain ⟨hp', hstate, htransfer, hconfig, es, hes, hqueue⟩ := hround.again hp hput
  refine ⟨n, hp', fun x hx j => ?_⟩
  rw [putsBack_congr hstate htransfer hconfig]
  have hmem : x ∈ (rounds hw s k).xEventSrcCircularBuf n := by
    rw [hqueue, hq, List.tail_cons, List.mem_append] at hx
    rw [hq]
    rcases hx with hx | hx
    · exact List.mem_cons_of_mem _ hx
    · rw [hes x hx]; exact List.mem_cons_self
  have hx' := hall x hmem (j + 1)
  have hindex : k + (j + 1) = k + 1 + j := by omega
  rw [Hardware.after, hindex] at hx'
  exact hx'

theorem stuck_add {k : ℕ} (h : (rounds hw s k).stuck (hw.after k)) (i : ℕ) :
    (rounds hw s (k + i)).stuck (hw.after (k + i)) := by
  induction i with
  | zero => exact h
  | succ i ih => exact stuck_succ ih

end Loop

/-- **The event loop ends exactly when no instance gets stuck.** For every contents of the queues,
every state of every instance and whatever the hardware answers in each round, the loop ends if and
only if it does not come to an instance whose queue holds nothing but events that it puts back. -/
theorem vSMBusEventQueueHandle_ends_iff (hw : Hardware) (s : Profile) :
    (∃ k, (rounds hw s k).pending = none) ↔ ∀ k, ¬ (rounds hw s k).stuck (hw.after k) := by
  constructor
  · rintro ⟨m, hm⟩ k hstuck
    obtain ⟨n, hn, -⟩ := stuck_add hstuck m
    have hended := rounds_ended hm k
    rw [Nat.add_comm, hn] at hended
    cases hended
  · intro h
    by_contra hnever
    obtain ⟨k, hk⟩ := stuck_of_endless fun k hp => hnever ⟨k, hp⟩
    exact h k hk

/-- A device is sent the command byte of a word write and then read from, before any data. -/
def readForDataRun : List Action :=
  [.createSMBus (smbusDevice 0x20), .targetInterrupts 0x80 0 0x20, .handle [] .none,
    .targetInterrupts 0x20 0 0x20,
    .handle [0, 0x11, 0, 0, 0, 1] { Answer.none with protocol := .WRITE_WORD },
    .targetInterrupts 0x40 0 0x20]

/-- The interrupt handler does not return from that read request. -/
theorem vSMBusEventQueueHandle_endless : ∃ s, Reaches step always .start s ∧
    ∀ hw k, (rounds hw s k).pending ≠ none := by
  have h : (run step .start readForDataRun).any (fun s =>
      decide (s.pending = some 0 ∧ s.xEventSrcCircularBuf 0 = [.TARGET_READ_IRQ] ∧
        s.xState 0 = .AWAITING_DATA ∧ (s.xTransfer 0).xProtocol ≠ .HOST_NOTIFY ∧
        (s.xConfig 0).ulI2CDevice = false)) = true := by decide +kernel
  obtain ⟨s, hrun, hs⟩ := (Option.any_eq_true _ _).mp h
  obtain ⟨hp, hq, hst, hprotocol, hdevice⟩ := of_decide_eq_true hs
  refine ⟨s, .of_run hrun, fun hw k hnone => ?_⟩
  have hstuck : (rounds hw s 0).stuck (hw.after 0) := by
    refine ⟨0, hp, fun e he j => .inl ⟨hst, ?_, hprotocol, hdevice⟩⟩
    have he' : e ∈ s.xEventSrcCircularBuf 0 := he
    rw [hq] at he'
    simpa using he'
  obtain ⟨n, hn, -⟩ := stuck_add hstuck k
  rw [Nat.zero_add, hnone] at hn
  cases hn

end Amr.Smbus
