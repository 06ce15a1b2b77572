/-
# How one event may leave an instance

Every handler, run on one event, either steers its instance to a state of a list that depends on
its own state and the event, or resets it (`Exit`). The lists are small: a handler of a target state
leads to target states, a handler of a controller state to controller states, `AWAITING_DONE` to no
other state, and the initial state to the states that fit the event. An event `SEND_NEXT_BYTE` is
posted only for `SEND_NEXT_BYTE` itself, in the initial state and in a controller state, and for a
descriptor FIFO that runs low while a controller writes.
-/
import Amr.Smbus.Frame

namespace Amr.Smbus

open StateProgram

set_option synthInstance.maxSize 20000
set_option synthInstance.maxHeartbeats 200000

/-! ### States and events -/

/-- The states of a target transfer that a target state may lead to. -/
abbrev targetStates : List State :=
  [.AWAITING_BLOCK_SIZE, .AWAITING_DATA, .AWAITING_READ, .READY_TO_SEND_BYTE,
    .CHECK_IF_PEC_REQUIRED, .AWAITING_DONE]

/-- The states of a controller transfer, `AWAITING_DONE` apart. -/
abbrev controllerStates : List State :=
  [.CONTROLLER_SEND_COMMAND, .CONTROLLER_SEND_READ_START, .CONTROLLER_READ_BLOCK_SIZE,
    .CONTROLLER_READ_BYTE, .CONTROLLER_READ_PEC, .CONTROLLER_READ_DONE, .CONTROLLER_WRITE_BYTE]

/-- The events that a target state posts to itself. -/
abbrev targetPosts : List Event :=
  [.TARGET_DATA_IRQ, .TARGET_READ_IRQ, .TARGET_DONE_IRQ, .IS_PEC_REQUIRED]

abbrev TargetStep (n : ℕ) : Profile → Profile → Prop := Steer n targetStates targetPosts

/-- The steps of a controller transfer, with the events that they may post. -/
abbrev ControllerStep (n : ℕ) (posts : List Event) : Profile → Profile → Prop :=
  Steer n (.AWAITING_DONE :: controllerStates) posts

/-! ### Parts of handlers -/

instance (n : ℕ) (p : Protocol) :
    Within (ControllerStep n [.SEND_NEXT_BYTE]) (vStartCommand n p) := by
  unfold vStartCommand; infer_instance

section Target

variable (n : ℕ)

instance (b : Bool) : Within (TargetStep n) (vAnswerARP n b .AWAITING_READ) := by
  unfold vAnswerARP; infer_instance

instance (p : Protocol) : Within (TargetStep n) (vARPReset n p) := by
  unfold vARPReset; infer_instance

instance : Within (TargetStep n) (vARPGetUDIDDirected n) := by
  unfold vARPGetUDIDDirected; infer_instance

instance : Within (TargetStep n) (vARPGetUDID n) := by unfold vARPGetUDID; infer_instance

instance (p : Protocol) : Within (TargetStep n) (vARPCommand n p) := by
  unfold vARPCommand; infer_instance

instance (p : Protocol) : Within (TargetStep n) (vCommand n p) := by
  unfold vCommand; infer_instance

instance : Within (TargetStep n) (vSendPEC n) := by unfold vSendPEC; infer_instance

instance : Within (TargetStep n) (vAssignAddressByte n) := by
  unfold vAssignAddressByte; infer_instance

instance (p : Protocol) : Within (TargetStep n) (vWriteProgress n p) := by
  unfold vWriteProgress; infer_instance

end Target

section Controller

variable (n : ℕ)

instance (t : Transfer) : Within (ControllerStep n [.SEND_NEXT_BYTE]) (vWriteLast n t) := by
  unfold vWriteLast; infer_instance

instance : Within (ControllerStep n [.SEND_NEXT_BYTE]) (vControllerWrite n) := by
  unfold vControllerWrite; infer_instance

variable (posts : List Event)

instance (p : Protocol) : Within (ControllerStep n posts) (vReadFixed n p) := by
  unfold vReadFixed; infer_instance

instance : Within (ControllerStep n posts) (vBlockSize n) := by
  unfold vBlockSize; infer_instance

instance : Within (ControllerStep n posts) (vReadProgress n) := by
  unfold vReadProgress; infer_instance

end Controller

section Apply

variable (n : ℕ) (next : List State) (posts : List Event)

theorem within_setConfig (i : ℕ) (f : Config → Config) (hf : ∀ c, (f c).identity = c.identity) :
    Within (Steer n next posts) (setConfig i f) := by
  refine ⟨fun s => .of_config fun j => ?_⟩
  rcases eq_or_ne j i with rfl | hj
  · rw [Function.update_self, hf]
  · rw [Function.update_of_ne hj]

instance (i : ℕ) : Within (Steer n next posts) (vSMBusARPPrepareToARP i) :=
  within_setConfig n next posts i _ fun _ => rfl

instance (i value : ℕ) : Within (Steer n next posts) (vSMBusHWWriteTgtControlEnable i value) := by
  refine ⟨fun s => ?_⟩
  simp only [vSMBusHWWriteTgtControlEnable, exec_modify]
  split
  · exact { (Steer.of_data rfl : Steer n next posts s s) with }
  · exact .of_data rfl

instance (i value : ℕ) :
    Within (Steer n next posts) (vSMBusHWWriteTgtControlAddress i value) := by
  refine ⟨fun s => ?_⟩
  simp only [vSMBusHWWriteTgtControlAddress, exec_modify]
  split
  · exact { (Steer.of_data rfl : Steer n next posts s s) with }
  · exact .of_data rfl

instance (i : ℕ) : Within (Steer n next posts) (vSMBusARPResetDevice i) := by
  have h₁ := within_setConfig n next posts i (fun c => { c with ucARFlag := false }) fun _ => rfl
  have h₂ := within_setConfig n next posts i (fun c => { c with ucAVFlag := true }) fun _ => rfl
  have h₃ := within_setConfig n next posts i (fun c => { c with ucAVFlag := false }) fun _ => rfl
  unfold vSMBusARPResetDevice
  infer_instance

instance : Within (Steer n next posts) (vApplyAssignAddress n) := by
  have h₁ := fun i => within_setConfig n next posts i
    (fun c => { c with ucARFlag := true, ucAVFlag := true }) fun _ => rfl
  have h₂ := fun i a => within_setConfig n next posts i
    (fun c => { c with ucSMBusAddr := a }) fun _ => rfl
  unfold vApplyAssignAddress
  infer_instance

instance (p : Protocol) : Within (Steer n next posts) (vApplyARP n p) := by
  unfold vApplyARP; infer_instance

end Apply

/-! ### The end of a transfer -/

/-- The profile after the transfer of an instance has ended: the instance in play gives the bus
back, any other instance ends the active target transfer. -/
def Profile.released (s : Profile) (n : ℕ) : Profile :=
  { s with
    ucInstanceInPlay :=
      if (s.xConfig n).ucThisInstanceNum = s.ucInstanceInPlay then INVALID_INSTANCE
      else s.ucInstanceInPlay
    ucActiveTargetInstance :=
      if (s.xConfig n).ucThisInstanceNum = s.ucInstanceInPlay then s.ucActiveTargetInstance
      else INVALID_INSTANCE
    xState := Function.update s.xState n .INITIAL }

theorem vResetToInitial_effect (n : ℕ) (s : Profile) :
    (exec (vResetToInitial n) s).control = (s.released n).control := by
  have hafter : ∀ m t : Profile, m.control = t.control →
      (exec (vSMBusNextStateDecoder n .INITIAL) m).control =
        (exec (vSMBusNextStateDecoder n .INITIAL) t).control := by
    intro m t h
    simp only [Profile.control, Prod.mk.injEq] at h
    simp only [vSMBusNextStateDecoder, exec_modify, Profile.control, h]
  unfold vResetToInitial vSMBusHandleActionResetAllData
  rw [exec_bind, exec_bind, exec_get_bind, exec_ite]
  split
  case isTrue h =>
    rw [exec_bind]
    have hthis : (s.xConfig n).ucThisInstanceNum = s.ucInstanceInPlay := h
    refine (hafter _ _ (same Profile.control _ _)).trans ?_
    simp only [Profile.released, if_pos hthis]
    rfl
  case isFalse h =>
    rw [exec_bind]
    have hthis : ¬ (s.xConfig n).ucThisInstanceNum = s.ucInstanceInPlay := h
    refine (hafter _ _ (same Profile.control _ _)).trans ?_
    simp only [Profile.released, if_neg hthis]
    rfl

/-! ### Handlers -/

/-- A step of a handler: it steers its instance, and may then end the transfer. -/
inductive Exit (n : ℕ) (next : List State) (posts : List Event) (s s' : Profile) : Prop
  | steers (h : Steer n next posts s s')
  | resets (m : Profile) (h : Steer n next posts s m) (hs' : s' = exec (vResetToInitial n) m)

section Exit

variable (n : ℕ) (next : List State) (posts : List Event)

instance {α : Type} (m : Routine α) (f : α → Routine Unit) [hm : Within (Steer n next posts) m]
    [hf : ∀ a, Within (Exit n next posts) (f a)] : Within (Exit n next posts) (m >>= f) := by
  refine ⟨fun s => ?_⟩
  rcases (hf (value m s)).rel (exec m s) with h | ⟨m', h, hs'⟩
  · exact .steers ((hm.rel s).trans h)
  · exact .resets m' ((hm.rel s).trans h) hs'

instance (priority := low) {α : Type} (m : Routine α) [h : Within (Steer n next posts) m] :
    Within (Exit n next posts) m :=
  ⟨fun s => .steers (h.rel s)⟩

instance : Within (Exit n next posts) (vResetToInitial n) :=
  ⟨fun s => .resets s (.of_data rfl) rfl⟩

instance (e : Event) : Within (Exit n next posts) (vOtherEvent n e) := by
  unfold vOtherEvent; infer_instance

instance (t : Transfer) : Within (Exit n next posts) (vTargetDone n t) := by
  unfold vTargetDone; infer_instance

instance (p : Protocol) : Within (Exit n next posts) (vControllerDone n p) := by
  unfold vControllerDone; infer_instance

instance (p : Protocol) : Within (Exit n next posts) (vReadDone n p) := by
  unfold vReadDone; infer_instance

end Exit

/-- The states that an event may steer an instance to. -/
def nextStates : State → Event → List State
  | .INITIAL, .TARGET_WRITE_IRQ => [.AWAITING_DATA, .AWAITING_COMMAND_BYTE]
  | .INITIAL, .TARGET_READ_IRQ => [.READY_TO_SEND_BYTE]
  | .INITIAL, .SEND_NEXT_BYTE => .AWAITING_DONE :: controllerStates
  | .INITIAL, _ => []
  | .AWAITING_DONE, _ => []
  | .AWAITING_COMMAND_BYTE, _ | .AWAITING_BLOCK_SIZE, _ | .AWAITING_DATA, _ | .AWAITING_READ, _
  | .READY_TO_SEND_BYTE, _ | .CHECK_IF_PEC_REQUIRED, _ => targetStates
  | .CONTROLLER_SEND_COMMAND, _ | .CONTROLLER_SEND_READ_START, _ | .CONTROLLER_READ_BLOCK_SIZE, _
  | .CONTROLLER_READ_BYTE, _ | .CONTROLLER_READ_PEC, _ | .CONTROLLER_READ_DONE, _
  | .CONTROLLER_WRITE_BYTE, _ => .AWAITING_DONE :: controllerStates

/-- The events that an event may make an instance post. -/
def postedEvents : State → Event → List Event
  | .INITIAL, .SEND_NEXT_BYTE => [.SEND_NEXT_BYTE]
  | .CONTROLLER_SEND_COMMAND, .SEND_NEXT_BYTE => [.SEND_NEXT_BYTE]
  | .CONTROLLER_WRITE_BYTE, .SEND_NEXT_BYTE => [.SEND_NEXT_BYTE]
  | .CONTROLLER_WRITE_BYTE, .CONTROLLER_DESC_FIFO_ALMOST_EMPTY_IRQ => [.SEND_NEXT_BYTE]
  | .AWAITING_COMMAND_BYTE, _ | .AWAITING_BLOCK_SIZE, _ | .AWAITING_DATA, _ | .AWAITING_READ, _
  | .READY_TO_SEND_BYTE, _ | .CHECK_IF_PEC_REQUIRED, _ => targetPosts
  | _, _ => []

/-- **Exits of the state machine.** -/
theorem vSMBusFSM_exit (n : ℕ) (e : Event) (s : Profile) :
    Exit n (nextStates (s.xState n) e) (postedEvents (s.xState n) e) s
      (exec (vSMBusFSM n e) s) := by
  rw [vSMBusFSM, exec_get_bind]
  refine @Within.rel _ _ _ _ ?_ s
  cases s.xState n with
  | INITIAL =>
    simp only [vStateInitial]
    split <;> simp only [nextStates, postedEvents] <;> infer_instance
  | AWAITING_COMMAND_BYTE =>
    simp only [vStateAwaitingCommandByte]
    split <;> simp only [nextStates, postedEvents] <;> infer_instance
  | AWAITING_BLOCK_SIZE =>
    simp only [vStateAwaitingBlockSize]
    split <;> simp only [nextStates, postedEvents] <;> infer_instance
  | AWAITING_DATA =>
    simp only [vStateAwaitingData]
    split <;> simp only [nextStates, postedEvents] <;> infer_instance
  | AWAITING_READ =>
    simp only [vStateAwaitingRead]
    split <;> simp only [nextStates, postedEvents] <;> infer_instance
  | READY_TO_SEND_BYTE =>
    simp only [vStateReadyToSendByte]
    split <;> simp only [nextStates, postedEvents] <;> infer_instance
  | CHECK_IF_PEC_REQUIRED =>
    simp only [vStateCheckIfPECRequired]
    split <;> simp only [nextStates, postedEvents] <;> infer_instance
  | AWAITING_DONE =>
    simp only [vStateAwaitingDone]
    split <;> simp only [nextStates, postedEvents] <;> infer_instance
  | CONTROLLER_SEND_COMMAND =>
    simp only [vStateControllerSendCommand]
    split <;> simp only [nextStates, postedEvents] <;> infer_instance
  | CONTROLLER_SEND_READ_START =>
    simp only [vStateControllerSendReadStart]
    split <;> simp only [nextStates, postedEvents] <;> infer_instance
  | CONTROLLER_READ_BLOCK_SIZE =>
    simp only [vStateControllerReadBlockSize]
    split <;> simp only [nextStates, postedEvents] <;> infer_instance
  | CONTROLLER_READ_BYTE =>
    simp only [vStateControllerReadByte]
    split <;> simp only [nextStates, postedEvents] <;> infer_instance
  | CONTROLLER_READ_PEC =>
    simp only [vStateControllerReadPEC]
    split <;> simp only [nextStates, postedEvents] <;> infer_instance
  | CONTROLLER_READ_DONE =>
    simp only [vStateControllerReadDone]
    split <;> simp only [nextStates, postedEvents] <;> infer_instance
  | CONTROLLER_WRITE_BYTE =>
    simp only [vStateControllerWriteByte]
    split <;> simp only [nextStates, postedEvents] <;> infer_instance

end Amr.Smbus
