/-
# Results of controller commands

An accepted command is answered by a callback that announces its result. For an SMBus command the
callback carries the transaction id of the profile, which `xSMBusControllerInitiateCommand` has
incremented since it handed the id to the caller, so the two never agree. For an I2C command the
callback carries no id, and there is exactly one of them as long as the state machine of the
instance in play gets the events that its state expects (`Expected`): an error or an unexpected
event resets the machine, and on that path only the SMBus callback is called, which an I2C device
does not have.
-/
import Amr.Smbus.Ownership

namespace Amr.Smbus

open StateProgram Transition

set_option synthInstance.maxSize 20000
set_option synthInstance.maxHeartbeats 200000

/-! ### Transaction ids -/

/-- The transaction id of the profile is one past the id of the last SMBus command, and no result
carries the id that was handed out for its command. -/
structure Numbered (s : Profile) : Prop where
  next : ∀ a t, s.current = some a → a.transaction = some t →
    s.ulTransactionID = (t + 1) % 2 ^ 32
  results : ∀ r ∈ s.results, ∀ a t, r.command = some a → a.transaction = some t →
    r.i2c = false → r.transaction ≠ t

theorem start_numbered : Numbered .start :=
  ⟨fun _ _ h => (by cases h), fun _ h => absurd h List.not_mem_nil⟩

theorem succ_mod_ne (t : ℕ) : (t + 1) % 2 ^ 32 % 2 ^ 8 ≠ t := by omega

variable {s : Profile}

theorem Announced.transaction_ne {n : ℕ} {r : Result} (hs : Numbered s)
    (hr : Announced s n r) {a : Accepted} {t : ℕ} (ha : r.command = some a)
    (ht : a.transaction = some t) (hi : r.i2c = false) : r.transaction ≠ t := by
  have hcommand := hr.command
  rw [ha, Profile.commandOf] at hcommand
  split at hcommand
  case isTrue h =>
    rw [hr.transaction hi, if_pos h, hs.next a t hcommand.symm ht]
    exact succ_mod_ne t
  case isFalse => cases hcommand

variable {s s' : Profile}

theorem numbered_step {a : Action} (hs : Numbered s)
    (h : step s a = some s') : Numbered s' := by
  cases step_effect h with
  | @handled registers answer n e es hhandling hpending hqueue =>
    have hround := round_effect hqueue registers answer
    obtain ⟨htid, -, -, hcurrent, -⟩ := still_eq.mp hround.still
    obtain ⟨rs, hrs, hresults⟩ := hround.results
    refine ⟨by rw [htid, hcurrent]; exact hs.next, fun r hr a t ha ht hi => ?_⟩
    rw [hresults] at hr
    rcases List.mem_append.mp hr with hr | hr
    · exact hs.results r hr a t ha ht hi
    · exact (hrs r hr).transaction_ne hs ha ht hi
  | refused active hidle h =>
    simp only [Profile.record, Profile.control, Prod.mk.injEq] at h
    obtain ⟨⟨htid, -, -, -, -, -, -, -, hresults, -, hcurrent, -⟩, -, -⟩ := h
    exact ⟨by rw [htid, hcurrent]; exact hs.next, by rw [hresults]; exact hs.results⟩
  | reconfigured hidle h =>
    have hbus := h.bus
    simp only [Profile.bus, Prod.mk.injEq] at hbus
    obtain ⟨htid, -, -, -, hresults, -, hcurrent, -, -⟩ := hbus
    exact ⟨by rw [htid, hcurrent]; exact hs.next, by rw [hresults]; exact hs.results⟩
  | commanded n hidle ha hok h =>
    simp only [Profile.record, Profile.control, Prod.mk.injEq] at h
    obtain ⟨⟨htid, -, -, -, -, -, -, -, hresults, -, hcurrent, -⟩, -, -⟩ := h
    refine ⟨fun b t hb ht => ?_, by rw [hresults]; exact hs.results⟩
    rw [hcurrent] at hb
    obtain rfl := Option.some.inj hb
    have ht' : a.transaction s = some t := ht
    have htid' : s.ulTransactionID = t := by
      cases a with
      | initiate a => exact Option.some.inj ht'
      | _ => cases ht'
    rw [htid]
    simp only [Profile.commanded, ht', Option.isSome_some, if_true]
    rw [← htid']
    rfl
  | target active hidle hactive => exact ⟨hs.next, hs.results⟩
  | controller hidle hplay => exact ⟨hs.next, hs.results⟩

/-! ### Rounds of an I2C transfer -/

/-- The protocols of the I2C commands in the states of their transfers. -/
def I2CState : State → Protocol → Prop
  | .INITIAL, p => p ∈ [.I2C_WRITE, .I2C_READ, .I2C_WRITE_READ]
  | .CONTROLLER_WRITE_BYTE, p => p ∈ [.I2C_WRITE, .I2C_WRITE_READ]
  | .CONTROLLER_SEND_READ_START, p => p = .I2C_WRITE_READ
  | .CONTROLLER_READ_BYTE, p => p ∈ [.I2C_READ, .I2C_WRITE_READ]
  | .CONTROLLER_READ_DONE, p => p ∈ [.I2C_READ, .I2C_WRITE_READ]
  | .AWAITING_DONE, p => p = .I2C_WRITE
  | _, _ => False

/-- The events that the state of an I2C transfer expects; a time-out is only reported. -/
def Profile.expects (s : Profile) (n : ℕ) (e : Event) : Prop :=
  e ∈ Event.warnings ∨
  match s.xState n with
  | .INITIAL => True
  | .CONTROLLER_WRITE_BYTE => e ∈ [.SEND_NEXT_BYTE, .CONTROLLER_DESC_FIFO_ALMOST_EMPTY_IRQ]
  | .CONTROLLER_SEND_READ_START => e = .SEND_NEXT_BYTE
  | .CONTROLLER_READ_BYTE | .CONTROLLER_READ_DONE =>
    e ∈ [.CONTROLLER_DESC_FIFO_ALMOST_EMPTY_IRQ, .CONTROLLER_DATA_IRQ, .CONTROLLER_DONE_IRQ]
  | .AWAITING_DONE =>
    e ∈ [.CONTROLLER_DESC_FIFO_ALMOST_EMPTY_IRQ, .DESC_FIFO_ALMOST_EMPTY_IRQ, .TARGET_READ_IRQ,
      .TARGET_DATA_IRQ, .CONTROLLER_DONE_IRQ] ∨
      e = .TARGET_DONE_IRQ ∧ (s.xTransfer n).ucNackSent = false
  | _ => False

instance (s : Profile) (n : ℕ) (e : Event) : Decidable (s.expects n e) := by
  unfold Profile.expects
  cases s.xState n <;> infer_instance

/-- What an I2C transfer keeps until it ends. -/
abbrev Typed (n : ℕ) : Profile → Profile → Prop :=
  Same fun s => (s.results, (s.xTransfer n).xProtocol)

instance (n : ℕ) : Ambient (Typed n) where
  reads := fun _ => ⟨fun _ => rfl⟩
  writes := fun _ => ⟨fun _ => rfl⟩
  calls := fun _ => ⟨fun _ => rfl⟩
  notes := fun _ => ⟨fun _ => rfl⟩
  strikes := fun _ => ⟨fun _ => rfl⟩

variable {n : ℕ}

theorem typed_setTransfer {f : Transfer → Transfer}
    (hf : ∀ t, (f t).xProtocol = t.xProtocol) : Within (Typed n) (setTransfer n f) :=
  ⟨fun s => by simp [Same, setTransfer, hf]⟩

instance (n : ℕ) : Plain n (Typed n) where
  offCursor := fun _ hf => typed_setTransfer fun t => congrArg Prod.fst (hf t)
  onCursor := fun _ hf => typed_setTransfer hf

instance (n : ℕ) : Faulting (Typed n) := ⟨fun _ => ⟨fun _ => rfl⟩⟩

instance (n : ℕ) (st : State) : Within (Typed n) (vSMBusNextStateDecoder n st) := ⟨fun _ => rfl⟩

instance (n : ℕ) (e : Event) : Within (Typed n) (vSMBusCreateEvent n e) := by
  refine ⟨fun s => ?_⟩
  rw [vSMBusCreateEvent_effect]
  rfl

instance (n : ℕ) : Within (Typed n) (vSMBusHandleActionCreateEventSendNextByte n) := by
  unfold vSMBusHandleActionCreateEventSendNextByte; infer_instance

structure Continues (n : ℕ) (s s' : Profile) : Prop where
  results : s'.results = s.results
  inPlay : s'.ucInstanceInPlay = s.ucInstanceInPlay
  state : I2CState (s'.xState n) (s'.xTransfer n).xProtocol

/-- The transfer ends with its one result. -/
def Finishes (n : ℕ) (s s' : Profile) : Prop :=
  ∃ r : Result, r.command = s.commandOf n ∧
    s'.control = (Profile.released { s with results := s.results ++ [r] } n).control

theorem continues_of_steer {m : Routine Unit} (next : List State)
    [hsteer : Within (Steer n next [.SEND_NEXT_BYTE]) m] [htyped : Within (Typed n) m]
    {s : Profile} (hs : I2CState (s.xState n) (s.xTransfer n).xProtocol)
    (hnext : ∀ st ∈ next, I2CState st (s.xTransfer n).xProtocol) : Continues n s (exec m s) := by
  have hstep := hsteer.rel s
  have hsame := htyped.rel s
  simp only [Same, Prod.mk.injEq] at hsame
  refine ⟨hsame.1, hstep.inPlay, ?_⟩
  rw [hsame.2]
  rcases hstep.state with hst | hst
  · rwa [hst]
  · exact hnext _ hst

theorem finishes_of_announce {m : Routine Unit} [hdata : Within Data m] {s : Profile}
    (hannounce : (s.xConfig n).pFnI2CAnnounceResult = true) :
    Finishes n s (exec (do
      m
      vSMBusHandleActionAnnounceI2CResultToApplication n true
      vResetToInitial n) s) := by
  have hm := hdata.rel s
  simp only [Data, Same, Profile.control, Prod.mk.injEq] at hm
  obtain ⟨htid, hplay, hactive, hconfig, hstate, hevents, haddr, henable, hresults, haccepted,
    hcurrent, hhandling⟩ := hm
  refine ⟨{ instanceNum := n, i2c := true, ucCommand := ((exec m s).xTransfer n).ucCommand
            transaction := 0, success := true, command := (exec m s).commandOf n }, ?_, ?_⟩
  · simp only [Profile.commandOf, hconfig, hplay, hcurrent]
  · rw [exec_bind, exec_bind, vResetToInitial_effect,
      vSMBusHandleActionAnnounceI2CResultToApplication, exec_config_bind, hconfig,
      if_pos hannounce, announce, exec_modify]
    simp only [Profile.released, Profile.control, htid, hplay, hactive, hconfig, hstate, hevents,
      haddr, henable, hresults, haccepted, hcurrent, hhandling]

theorem vSMBusFSM_warning {e : Event} (he : e ∈ Event.warnings) (s : Profile) :
    exec (vSMBusFSM n e) s = exec (vSMBusHandleActionBusWarning n e) s := by
  rw [vSMBusFSM, exec_get_bind]
  simp only [Event.warnings, List.mem_cons, List.not_mem_nil, or_false] at he
  rcases he with rfl | rfl | rfl <;> cases s.xState n <;> rfl

section I2C

variable {n : ℕ} {e : Event} {s : Profile}

theorem i2c_initial (hst : s.xState n = .INITIAL)
    (hs : I2CState .INITIAL (s.xTransfer n).xProtocol) :
    Continues n s (exec (vSMBusFSM n .SEND_NEXT_BYTE) s) := by
  have hm : exec (vSMBusFSM n .SEND_NEXT_BYTE) s =
      exec (vStartCommand n (s.xTransfer n).xProtocol) s := by
    rw [vSMBusFSM, exec_get_bind, hst]
    rfl
  rw [hm, vStartCommand, exec_transfer_bind]
  have hs' : I2CState (s.xState n) (s.xTransfer n).xProtocol := hst ▸ hs
  simp only [I2CState, List.mem_cons, List.not_mem_nil, or_false] at hs
  rcases hs with hp | hp | hp <;> rw [hp] <;> simp only [reduceCtorEq, if_false]
  · rw [if_pos (by decide)]
    exact continues_of_steer [.CONTROLLER_WRITE_BYTE] hs' (by simp [I2CState, hp])
  · rw [if_neg (by decide), if_pos trivial]
    exact continues_of_steer [.CONTROLLER_READ_BYTE] hs' (by simp [I2CState, hp])
  · rw [if_pos (by decide)]
    exact continues_of_steer [.CONTROLLER_WRITE_BYTE] hs' (by simp [I2CState, hp])

theorem i2c_write (hst : s.xState n = .CONTROLLER_WRITE_BYTE)
    (hs : I2CState .CONTROLLER_WRITE_BYTE (s.xTransfer n).xProtocol) :
    Continues n s (exec (vControllerWrite n) s) := by
  have hs' : I2CState (s.xState n) (s.xTransfer n).xProtocol := hst ▸ hs
  rw [vControllerWrite, exec_transfer_bind]
  simp only [I2CState, List.mem_cons, List.not_mem_nil, or_false] at hs
  rw [if_pos (by rcases hs with hp | hp <;> rw [hp] <;> decide), exec_ite]
  split
  · exact continues_of_steer [] hs' (by simp)
  · rw [vWriteLast]
    rcases hs with hp | hp <;> rw [hp]
    · rw [if_neg (by decide), if_neg (by decide)]
      exact continues_of_steer [.AWAITING_DONE, .CONTROLLER_WRITE_BYTE] hs' (by simp [I2CState, hp])
    · rw [if_pos (by decide)]
      exact continues_of_steer [.CONTROLLER_SEND_READ_START, .CONTROLLER_WRITE_BYTE] hs'
        (by simp [I2CState, hp])

theorem i2c_readStart (hst : s.xState n = .CONTROLLER_SEND_READ_START)
    (hs : I2CState .CONTROLLER_SEND_READ_START (s.xTransfer n).xProtocol) :
    Continues n s (exec (vSMBusFSM n .SEND_NEXT_BYTE) s) := by
  have hs' : I2CState (s.xState n) (s.xTransfer n).xProtocol := hst ▸ hs
  have hp : (s.xTransfer n).xProtocol = .I2C_WRITE_READ := hs
  rw [vSMBusFSM, exec_get_bind, hst]
  simp only [vStateControllerSendReadStart]
  rw [exec_transfer_bind, if_pos hp]
  exact continues_of_steer [.CONTROLLER_READ_DONE, .CONTROLLER_READ_BYTE] hs'
    (by simp [I2CState, hp])

theorem i2c_read (hst : s.xState n = .CONTROLLER_READ_BYTE)
    (hs : I2CState .CONTROLLER_READ_BYTE (s.xTransfer n).xProtocol)
    (he : e ∈ [.CONTROLLER_DESC_FIFO_ALMOST_EMPTY_IRQ, .CONTROLLER_DATA_IRQ,
      .CONTROLLER_DONE_IRQ]) :
    Continues n s (exec (vSMBusFSM n e) s) := by
  have hs' : I2CState (s.xState n) (s.xTransfer n).xProtocol := hst ▸ hs
  have hnext : ∀ st ∈ [State.CONTROLLER_READ_DONE], I2CState st (s.xTransfer n).xProtocol := by
    simpa [I2CState] using hs
  rw [vSMBusFSM, exec_get_bind, hst]
  simp only [List.mem_cons, List.not_mem_nil, or_false] at he
  rcases he with rfl | rfl | rfl <;> simp only [vStateControllerReadByte, vReadProgress]
  · exact continues_of_steer [.CONTROLLER_READ_DONE] hs' hnext
  · exact continues_of_steer [.CONTROLLER_READ_DONE] hs' hnext
  · exact continues_of_steer [.CONTROLLER_READ_DONE] hs' hnext

theorem i2c_readDone (hst : s.xState n = .CONTROLLER_READ_DONE)
    (hs : I2CState .CONTROLLER_READ_DONE (s.xTransfer n).xProtocol)
    (hannounce : (s.xConfig n).pFnI2CAnnounceResult = true)
    (he : e ∈ [.CONTROLLER_DESC_FIFO_ALMOST_EMPTY_IRQ, .CONTROLLER_DATA_IRQ,
      .CONTROLLER_DONE_IRQ]) :
    Continues n s (exec (vSMBusFSM n e) s) ∨ Finishes n s (exec (vSMBusFSM n e) s) := by
  have hs' : I2CState (s.xState n) (s.xTransfer n).xProtocol := hst ▸ hs
  rw [vSMBusFSM, exec_get_bind, hst]
  simp only [List.mem_cons, List.not_mem_nil, or_false] at he
  rcases he with rfl | rfl | rfl <;> simp only [vStateControllerReadDone]
  · exact .inl (continues_of_steer [] hs' (by simp))
  · exact .inl (continues_of_steer [] hs' (by simp))
  · have hp : (s.xTransfer n).xProtocol ∈ [.I2C_READ, .I2C_WRITE_READ] := hs
    have hp' : (s.xTransfer n).xProtocol ∉ [.BLOCK_READ, .READ_64, .READ_32, .READ_WORD,
        .READ_BYTE, .PROCESS_CALL, .BLK_WRITE_BLK_RD_PROCESS_CALL, .RECEIVE_BYTE,
        .ARP_GET_UDID_DIRECTED, .ARP_GET_UDID] := by
      simp only [List.mem_cons, List.not_mem_nil, or_false] at hp
      rcases hp with hp | hp <;> rw [hp] <;> decide
    rw [exec_transfer_bind, vReadDone, if_neg hp', if_pos hp]
    exact .inr (finishes_of_announce hannounce)

theorem i2c_done (hst : s.xState n = .AWAITING_DONE)
    (hs : I2CState .AWAITING_DONE (s.xTransfer n).xProtocol)
    (hdevice : (s.xConfig n).ulI2CDevice = true)
    (hannounce : (s.xConfig n).pFnI2CAnnounceResult = true)
    (he : e ∈ [.CONTROLLER_DESC_FIFO_ALMOST_EMPTY_IRQ, .DESC_FIFO_ALMOST_EMPTY_IRQ,
        .TARGET_READ_IRQ, .TARGET_DATA_IRQ, .CONTROLLER_DONE_IRQ] ∨
      e = .TARGET_DONE_IRQ ∧ (s.xTransfer n).ucNackSent = false) :
    Continues n s (exec (vSMBusFSM n e) s) ∨ Finishes n s (exec (vSMBusFSM n e) s) := by
  have hs' : I2CState (s.xState n) (s.xTransfer n).xProtocol := hst ▸ hs
  have hp : (s.xTransfer n).xProtocol = .I2C_WRITE := hs
  rw [vSMBusFSM, exec_get_bind, hst]
  rcases he with he | ⟨rfl, hnack⟩
  · simp only [List.mem_cons, List.not_mem_nil, or_false] at he
    rcases he with rfl | rfl | rfl | rfl | rfl <;> simp only [vStateAwaitingDone]
    · exact .inl (continues_of_steer [] hs' (by simp))
    · exact .inl (continues_of_steer [] hs' (by simp))
    · exact .inl (continues_of_steer [] hs' (by simp))
    · exact .inl (continues_of_steer [] hs' (by simp))
    · rw [exec_transfer_bind, hp, vControllerDone, if_neg (by decide), if_pos rfl]
      exact .inr (finishes_of_announce hannounce)
  · simp only [vStateAwaitingDone]
    rw [exec_config_bind, exec_transfer_bind, if_pos hdevice, if_pos hnack]
    have hfinish := finishes_of_announce (m := pure ()) hannounce
    exact .inr hfinish

/-- **Rounds of an I2C transfer.** On the events it expects the transfer goes on, or ends with its
one result. -/
theorem i2c_handled (hs : I2CState (s.xState n) (s.xTransfer n).xProtocol)
    (hdevice : (s.xConfig n).ulI2CDevice = true)
    (hannounce : (s.xConfig n).pFnI2CAnnounceResult = true) (he : s.expects n e)
    (hsend : s.xState n = .INITIAL → e = .SEND_NEXT_BYTE) :
    Continues n s (exec (vSMBusFSM n e) s) ∨ Finishes n s (exec (vSMBusFSM n e) s) := by
  rcases he with he | he
  · rw [vSMBusFSM_warning he]
    exact .inl (continues_of_steer [] hs (by simp))
  · generalize hst : s.xState n = st at hs he hsend
    cases st with
    | INITIAL =>
      rw [hsend rfl]
      exact .inl (i2c_initial hst hs)
    | CONTROLLER_WRITE_BYTE =>
      have hm : exec (vSMBusFSM n e) s = exec (vControllerWrite n) s := by
        rw [vSMBusFSM, exec_get_bind, hst]
        simp only [List.mem_cons, List.not_mem_nil, or_false] at he
        rcases he with rfl | rfl <;> rfl
      rw [hm]
      exact .inl (i2c_write hst hs)
    | CONTROLLER_SEND_READ_START =>
      rw [show e = .SEND_NEXT_BYTE from he]
      exact .inl (i2c_readStart hst hs)
    | CONTROLLER_READ_BYTE => exact .inl (i2c_read hst hs he)
    | CONTROLLER_READ_DONE => exact i2c_readDone hst hs hannounce he
    | AWAITING_DONE => exact i2c_done hst hs hdevice hannounce he
    | _ => exact hs.elim

end I2C

/-! ### Exactly one result -/

/-- The steps that give every accepted command its one result: only I2C devices are given commands,
and the instance in play gets the events its state expects. -/
def Expected (s : Profile) (a : Action) : Prop :=
  Disciplined s a ∧
  match a with
  | .initiate a => ¬ a.ok s
  | .handle _ _ => ∀ n ∈ s.pending, ∀ e ∈ (s.xEventSrcCircularBuf n).head?,
      n = s.ucInstanceInPlay → s.expects n e
  | a => ∀ n ∈ a.commandedInstance, s.commandable n → (s.xConfig n).ulI2CDevice = true

instance (s : Profile) (a : Action) : Decidable (Expected s a) := by
  induction a using Action.casesOn <;> unfold Expected <;> infer_instance

/-- How often the result of a command is announced. -/
def Profile.announced (s : Profile) (a : Accepted) : ℕ :=
  s.results.countP fun r => decide (r.command = some a)

/-- The command of the instance in play is the last accepted one and an I2C command. -/
structure I2CPlaying (s : Profile) (n : ℕ) : Prop where
  device : (s.xConfig n).ulI2CDevice = true
  state : I2CState (s.xState n) (s.xTransfer n).xProtocol
  current : ∃ a, s.current = some a ∧ a.instanceNum = n

/-- Every accepted command but the one in play has exactly one result. -/
structure Delivered (s : Profile) : Prop where
  arp : (s.xConfig ARP_INSTANCE_ID).ulI2CDevice = false
  announces : ∀ n, (s.xConfig n).ucInstanceInUse = true → (s.xConfig n).ulI2CDevice = true →
    (s.xConfig n).pFnI2CAnnounceResult = true
  current : ∀ a, s.current = some a → a ∈ s.accepted
  serial : ∀ a ∈ s.accepted, a.serial < s.accepted.length
  known : ∀ r ∈ s.results, ∀ a, r.command = some a → a ∈ s.accepted
  once : ∀ a ∈ s.accepted, s.announced a =
    if s.ucInstanceInPlay ≠ INVALID_INSTANCE ∧ s.current = some a then 0 else 1
  playing : s.ucInstanceInPlay ≠ INVALID_INSTANCE → I2CPlaying s s.ucInstanceInPlay

theorem start_delivered : Delivered .start where
  arp := rfl
  announces := fun n h => by simp [Profile.start, Config.unused] at h
  current := fun a h => by cases h
  serial := fun a h => absurd h List.not_mem_nil
  known := fun r h => absurd h List.not_mem_nil
  once := fun a h => absurd h List.not_mem_nil
  playing := fun h => absurd rfl h

theorem announced_append {rs : List Result}
    (h : s'.results = s.results ++ rs) (a : Accepted) :
    s'.announced a = s.announced a + rs.countP fun r => decide (r.command = some a) := by
  rw [Profile.announced, h, List.countP_append, Profile.announced]

theorem Delivered.of_other {e : Event} {es : List Event}
    (hs : Delivered s) (howned : Owned s) (huse : (s.xConfig n).ucInstanceInUse = true)
    (hn : n ≠ s.ucInstanceInPlay) (h : Round s n e es s')
    (htransfer : ∀ j, j ≠ n → s'.xTransfer j = s.xTransfer j) : Delivered s' := by
  obtain ⟨-, hidentity, haccepted, hcurrent, -⟩ := still_eq.mp h.still
  obtain ⟨rs, hrs, hresults⟩ := h.results
  have hnum : (s.xConfig n).ucThisInstanceNum ≠ s.ucInstanceInPlay := by
    rwa [howned.number n huse]
  have hplay : s'.ucInstanceInPlay = s.ucInstanceInPlay := by
    rcases h.outcome with ⟨hplay, -, -⟩ | ⟨hplay, -⟩
    · exact hplay
    · rw [hplay, if_neg hnum]
  have hnone : ∀ r ∈ rs, r.command = none := fun r hr => by
    rw [(hrs r hr).command, Profile.commandOf, if_neg hnum]
  have hcount : ∀ a, s'.announced a = s.announced a := fun a => by
    rw [announced_append hresults, List.countP_eq_zero.mpr, Nat.add_zero]
    intro r hr
    simp [hnone r hr]
  refine ⟨(Config.device_of_identity (hidentity _)).trans hs.arp, fun i hi hd => ?_,
    fun a ha => ?_, by rw [haccepted]; exact hs.serial, fun r hr a ha => ?_, fun a ha => ?_, fun hne => ?_⟩
  · rw [Config.announces_of_identity (hidentity i)]
    exact hs.announces i (Config.inUse_of_identity (hidentity i) ▸ hi)
      (Config.device_of_identity (hidentity i) ▸ hd)
  · rw [haccepted]
    exact hs.current a (hcurrent ▸ ha)
  · rw [haccepted]
    rw [hresults] at hr
    rcases List.mem_append.mp hr with hr | hr
    · exact hs.known r hr a ha
    · rw [hnone r hr] at ha
      cases ha
  · rw [hcount, hplay, hcurrent]
    exact hs.once a (haccepted ▸ ha)
  · rw [hplay] at hne ⊢
    obtain ⟨hdevice, hstate, hlast⟩ := hs.playing hne
    refine ⟨?_, ?_, by rwa [hcurrent]⟩
    · rw [Config.device_of_identity (hidentity _)]
      exact hdevice
    · rw [h.otherState _ hn.symm, htransfer _ hn.symm]
      exact hstate

theorem Delivered.of_continues {s m s' : Profile} (hs : Delivered s)
    (hresultm : m.results = s.results) (hplay₁ : m.ucInstanceInPlay = s.ucInstanceInPlay)
    (hstill : s'.still = s.still) (h : Continues s.ucInstanceInPlay m s') : Delivered s' := by
  obtain ⟨-, hidentity, haccepted, hcurrent, -⟩ := still_eq.mp hstill
  have hresults : s'.results = s.results := h.results.trans hresultm
  have hplay : s'.ucInstanceInPlay = s.ucInstanceInPlay := h.inPlay.trans hplay₁
  refine ⟨(Config.device_of_identity (hidentity _)).trans hs.arp, fun i hi hd => ?_,
    fun a ha => ?_, by rw [haccepted]; exact hs.serial,
    by rw [hresults, haccepted]; exact hs.known, fun a ha => ?_, fun hne => ?_⟩
  · rw [Config.announces_of_identity (hidentity i)]
    exact hs.announces i (Config.inUse_of_identity (hidentity i) ▸ hi)
      (Config.device_of_identity (hidentity i) ▸ hd)
  · rw [haccepted]
    exact hs.current a (hcurrent ▸ ha)
  · rw [Profile.announced, hresults, hplay, hcurrent]
    exact hs.once a (haccepted ▸ ha)
  · rw [hplay] at hne ⊢
    obtain ⟨hdevice, -, hlast⟩ := hs.playing hne
    refine ⟨?_, h.state, by rwa [hcurrent]⟩
    rw [Config.device_of_identity (hidentity _)]
    exact hdevice

theorem Delivered.of_finishes {s m s' : Profile} (hs : Delivered s)
    (hne : s.ucInstanceInPlay ≠ INVALID_INSTANCE)
    (hnum : (s.xConfig s.ucInstanceInPlay).ucThisInstanceNum = s.ucInstanceInPlay)
    (hconfig₁ : m.xConfig = s.xConfig) (hcurrent₁ : m.current = s.current)
    (haccepted₁ : m.accepted = s.accepted) (hresultm : m.results = s.results)
    (hplay₁ : m.ucInstanceInPlay = s.ucInstanceInPlay)
    (h : Finishes s.ucInstanceInPlay m s') : Delivered s' := by
  obtain ⟨r, hr, hcontrol⟩ := h
  simp only [Profile.control, Profile.released, Prod.mk.injEq, hconfig₁, hresultm, hplay₁, hnum,
    if_true] at hcontrol
  obtain ⟨-, hplay, -, hconfig, -, -, -, -, hresults, haccepted, hcurrent, -⟩ := hcontrol
  rw [haccepted₁] at haccepted
  rw [hcurrent₁] at hcurrent
  rw [Profile.commandOf, hconfig₁, hplay₁, if_pos hnum, hcurrent₁] at hr
  refine ⟨by rw [hconfig]; exact hs.arp, by rw [hconfig]; exact hs.announces,
    by rw [hcurrent, haccepted]; exact hs.current,
    by rw [haccepted]; exact hs.serial, fun r' hr' a ha => ?_, fun a ha => ?_,
    fun hne' => absurd hplay hne'⟩
  · rw [haccepted]
    rw [hresults] at hr'
    rcases List.mem_append.mp hr' with hr' | hr'
    · exact hs.known r' hr' a ha
    · obtain rfl := List.mem_singleton.mp hr'
      exact hs.current a (hr ▸ ha)
  · have honce := hs.once a (haccepted ▸ ha)
    rw [announced_append hresults, hplay, if_neg (fun h => h.1 rfl), honce]
    simp only [List.countP_cons, List.countP_nil, hr, Nat.zero_add, decide_eq_true_eq]
    by_cases hc : s.current = some a
    · rw [if_pos ⟨hne, hc⟩, if_pos hc]
    · rw [if_neg fun h => hc h.2, if_neg hc]

theorem Delivered.handled {n : ℕ} {e : Event} {es : List Event} (hs : Delivered s)
    (howned : Owned s) (hpending : s.pending = some n)
    (hqueue : s.xEventSrcCircularBuf n = e :: es)
    (hexpects : n = s.ucInstanceInPlay → s.expects n e) (registers : List ℕ) (answer : Answer) :
    Delivered (exec (vSMBusFSM n e) (s.take n registers answer)) := by
  obtain ⟨hn, huse⟩ := pending_spec hpending
  have hround := round_effect hqueue registers answer
  by_cases hin : n = s.ucInstanceInPlay
  · have hne : n ≠ INVALID_INSTANCE := fun h => by
      subst h
      exact absurd hn (by decide)
    obtain ⟨hdevice, hstate, -⟩ := hs.playing (hin ▸ hne)
    rw [← hin] at hdevice hstate
    have hsend : s.xState n = .INITIAL → e = .SEND_NEXT_BYTE := by
      intro hst
      rcases (howned.playing (hin ▸ hne)).transfer with h | ⟨-, -, h⟩
      · rw [← hin, hst] at h
        exact absurd h (by decide)
      · rw [← hin, hqueue, List.cons.injEq] at h
        exact h.1
    have hannounce := hs.announces n huse hdevice
    rcases i2c_handled (s := s.take n registers answer) hstate hdevice hannounce
      (hexpects hin) hsend with h | h
    · exact hs.of_continues (m := s.take n registers answer) rfl rfl hround.still (hin ▸ h)
    · refine hs.of_finishes (m := s.take n registers answer) (hin ▸ hne) ?_ rfl rfl rfl rfl rfl
        (hin ▸ h)
      rw [← hin]
      exact howned.number n huse
  · exact hs.of_other howned huse hin hround fun j hj => vSMBusFSM_otherTransfers hj e _

theorem Delivered.of_record (h : s'.record = s.record) (hs : Delivered s) :
    Delivered s' := by
  simp only [Profile.record, Profile.control, Prod.mk.injEq] at h
  obtain ⟨⟨-, hplay, -, hconfig, hstate, -, -, -, hresults, haccepted, hcurrent, -⟩, htransfer,
    -⟩ := h
  refine ⟨by rw [hconfig]; exact hs.arp, by rw [hconfig]; exact hs.announces,
    by rw [hcurrent, haccepted]; exact hs.current,
    by rw [haccepted]; exact hs.serial, by rw [hresults, haccepted]; exact hs.known,
    fun a ha => ?_, fun hne => ?_⟩
  · rw [Profile.announced, hresults, hplay, hcurrent]
    exact hs.once a (haccepted ▸ ha)
  · rw [hplay] at hne ⊢
    obtain ⟨hdevice, hst, hlast⟩ := hs.playing hne
    exact ⟨by rwa [hconfig], by rwa [hstate, htransfer], by rwa [hcurrent]⟩

theorem Delivered.rest (hs : Delivered s) : Delivered s.rest where
  arp := hs.arp
  announces := hs.announces
  current := hs.current
  serial := hs.serial
  known := hs.known
  once := hs.once
  playing := fun hne =>
    have h := hs.playing hne
    ⟨h.device, h.state, h.current⟩

theorem Delivered.activate (hs : Delivered s) (active : ℕ) :
    Delivered (s.activate active) where
  arp := hs.arp
  announces := hs.announces
  current := hs.current
  serial := hs.serial
  known := hs.known
  once := hs.once
  playing := fun hne =>
    have h := hs.playing hne
    ⟨h.device, h.state, h.current⟩

theorem Delivered.raise (hs : Delivered s) (n : ℕ) (events : List Event) :
    Delivered (s.raise n events) where
  arp := hs.arp
  announces := hs.announces
  current := hs.current
  serial := hs.serial
  known := hs.known
  once := hs.once
  playing := fun hne =>
    have h := hs.playing hne
    ⟨h.device, h.state, h.current⟩

theorem Delivered.reconfigured (hs : Delivered s) (howned : Owned s)
    (hhandling : s.handling = false) (h : Reconfigured s s') : Delivered s' := by
  have hbus := h.bus
  simp only [Profile.bus, Prod.mk.injEq] at hbus
  obtain ⟨-, hplay, -, hstate, hresults, haccepted, hcurrent, -, -⟩ := hbus
  refine ⟨?_, fun n hn hd => ?_, by rw [hcurrent, haccepted]; exact hs.current,
    by rw [haccepted]; exact hs.serial, by rw [hresults, haccepted]; exact hs.known,
    fun a ha => ?_, fun hne => ?_⟩
  · rcases h.slot ARP_INSTANCE_ID with ⟨hc, -, -⟩ | ⟨-, hopen, -, -⟩ | ⟨-, ⟨left, hleft, hc⟩, -, -⟩
    · rw [hc]
      exact hs.arp
    · generalize s'.xConfig ARP_INSTANCE_ID = c at hopen ⊢
      cases hopen with
      | smbus a hok hj => exact absurd hj (by decide)
      | i2c a hok hj => exact absurd hj (by decide)
      | arp hj => exact hs.arp
    · rw [hc]
      simp only [List.mem_cons, List.not_mem_nil, or_false] at hleft
      rcases hleft with rfl | rfl | rfl
      · exact hs.arp
      · exact hs.arp
      · rfl
  · rcases h.slot n with ⟨hc, -, -⟩ | ⟨-, hopen, -, -⟩ | ⟨-, ⟨left, hleft, hc⟩, -, -⟩
    · rw [hc] at hn hd ⊢
      exact hs.announces n hn hd
    · generalize s'.xConfig n = c at hopen hd ⊢
      cases hopen with
      | smbus a hok hj => cases hd
      | i2c a hok hj => exact hok.1.2.2
      | arp hj =>
        rw [hj, hs.arp] at hd
        cases hd
    · rw [hc] at hn
      simp only [List.mem_cons, List.not_mem_nil, or_false] at hleft
      rcases hleft with rfl | rfl | rfl <;> cases hn
  · rw [Profile.announced, hresults, hplay, hcurrent]
    exact hs.once a (haccepted ▸ ha)
  · rw [hplay] at hne ⊢
    obtain ⟨hdevice, hst, hlast⟩ := hs.playing hne
    obtain ⟨huse, -, htransfer⟩ := howned.playing hne
    rcases h.slot s.ucInstanceInPlay with ⟨hc, -, ht⟩ | ⟨hfree, -, -, -⟩ | ⟨hinitial, -, -, -⟩
    · exact ⟨by rwa [hc], by rwa [hstate, ht], by rwa [hcurrent]⟩
    · rw [huse] at hfree
      cases hfree
    · have hin : s.ucInstanceInPlay ≤ LAST_NON_ARP_INSTANCE := howned.range.resolve_left hne
      rcases hinitial with hinitial | hinitial
      · rw [hinitial] at hin
        exact absurd hin (by decide)
      · rcases htransfer with ht | ⟨-, hh, -⟩
        · rw [hinitial] at ht
          exact absurd ht (by decide)
        · rw [hhandling] at hh
          cases hh

theorem Delivered.commanded {a : Action} {n : ℕ} (hs : Delivered s)
    (ha : a.commandedInstance = some n) (hsmbus : ∀ b, a ≠ .initiate b)
    (hcommand : s.commandable n) (hdevice : (s.xConfig n).ulI2CDevice = true) :
    Delivered (s.commanded n (a.transaction s) a.load) := by
  obtain ⟨hn, hfree, hinitial⟩ := hcommand
  have hold : ∀ b ∈ s.accepted, s.announced b = 1 := fun b hb => by
    rw [hs.once b hb, if_neg fun h => h.1 hfree]
  refine ⟨hs.arp, hs.announces, fun b hb => ?_, fun b hb => ?_, fun r hr b hb => ?_, fun b hb => ?_,
    fun _ => ⟨hdevice, ?_, ⟨_, rfl, rfl⟩⟩⟩
  · obtain rfl := Option.some.inj hb
    exact List.mem_append_right _ List.mem_cons_self
  · simp only [Profile.commanded, List.length_append, List.length_singleton]
    rcases List.mem_append.mp hb with hb | hb
    · exact (hs.serial b hb).trans (Nat.lt_succ_self _)
    · obtain rfl := List.mem_singleton.mp hb
      exact Nat.lt_succ_self _
  · exact List.mem_append_left _ (hs.known r hr b hb)
  · have hne : (s.commanded n (a.transaction s) a.load).ucInstanceInPlay ≠ INVALID_INSTANCE := by
      intro h
      have h' : n = INVALID_INSTANCE := h
      subst h'
      exact absurd hn (by decide)
    rcases List.mem_append.mp hb with hb | hb
    · have hne' : (s.commanded n (a.transaction s) a.load).current ≠ some b := fun h => by
        obtain rfl := Option.some.inj h
        exact absurd (hs.serial _ hb) (lt_irrefl _)
      rw [if_neg fun h => hne' h.2]
      exact hold b hb
    · obtain rfl := List.mem_singleton.mp hb
      rw [if_pos ⟨hne, rfl⟩]
      refine List.countP_eq_zero.mpr fun r hr hc => ?_
      have hmem := hs.known r hr _ (of_decide_eq_true hc)
      exact absurd (hs.serial _ hmem) (lt_irrefl _)
  · have hstate : I2CState .INITIAL (a.load (s.xTransfer n)).xProtocol := by
      cases a with
      | initiate b => exact absurd rfl (hsmbus b)
      | i2cWrite m addr data size => simp [I2CState, Action.load]
      | i2cRead m addr size => simp [I2CState, Action.load]
      | i2cWriteRead m addr data size readSize => simp [I2CState, Action.load]
      | _ => cases ha
    simpa [Profile.commanded, hinitial] using hstate

theorem delivered_step {a : Action} (howned : Owned s) (hs : Delivered s)
    (hok : Expected s a) (h : step s a = some s') : Delivered s' := by
  cases step_effect h with
  | @handled registers answer n e es hhandling hpending hqueue =>
    exact hs.handled howned hpending hqueue
      (hok.2 n hpending e (by rw [hqueue]; exact List.head?_cons)) registers answer
  | refused active hidle h => exact .of_record h (hs.rest.activate active)
  | reconfigured hidle h => exact hs.rest.reconfigured (howned.rest hidle).2 rfl h
  | commanded n hidle ha hadmitted h =>
    obtain ⟨m, hm, hcommand⟩ := admitted_commandable hadmitted
    obtain rfl := Option.some.inj (ha.symm.trans hm)
    have hsmbus : ∀ b, a ≠ .initiate b := by
      rintro b rfl
      exact hok.2 hadmitted
    refine .of_record h (hs.rest.commanded ha hsmbus hcommand ?_)
    cases a with
    | initiate b => exact absurd rfl (hsmbus b)
    | handle r w => cases ha
    | _ => exact hok.2 n ha hcommand
  | target active hidle hactive => exact (hs.rest.activate active).raise _ _
  | controller hidle hplay => exact hs.rest.raise _ _

/-! ### Results over runs -/

/-- **Results of commands.** No result of an SMBus command carries the transaction id that was
returned for it. In a run whose commands go to I2C devices and whose instance in play gets the
events its state expects, every accepted command has exactly one result, which comes no later than
the instance is back in the initial state, and results are announced for accepted commands only. -/
theorem result_delivery {s : Profile} :
    (Reaches step always .start s → ∀ r ∈ s.results, ∀ a t, r.command = some a →
      a.transaction = some t → ¬ (r.i2c = false ∧ r.transaction = t)) ∧
    (Reaches step Expected .start s →
      (∀ r ∈ s.results, ∀ a, r.command = some a → a ∈ s.accepted) ∧
      (∀ a ∈ s.accepted, s.announced a ≤ 1) ∧
      ∀ a ∈ s.accepted, s.announced a ≠ 1 →
        s.ucInstanceInPlay = a.instanceNum ∧ s.announced a = 0 ∧
          (s.idle → s.xState a.instanceNum ≠ .INITIAL)) := by
  refine ⟨fun hs r hr a t ha ht h => ?_, fun hs => ?_⟩
  · have hnumbered : Numbered s := hs.invariant Numbered start_numbered fun s a s' h _ hstep =>
      numbered_step h hstep
    exact hnumbered.results r hr a t ha ht h.1 h.2
  · have hboth : Owned s ∧ Delivered s := hs.invariant (fun s => Owned s ∧ Delivered s)
      ⟨start_owned, start_delivered⟩ fun s a s' h hok hstep =>
        ⟨owned_step h.1 hok.1 hstep, delivered_step h.1 h.2 hok hstep⟩
    obtain ⟨howned, hdelivered⟩ := hboth
    refine ⟨hdelivered.known, fun a ha => ?_, fun a ha hne => ?_⟩
    · rw [hdelivered.once a ha]
      split <;> omega
    · have honce := hdelivered.once a ha
      split at honce
      case isFalse => exact absurd honce hne
      case isTrue h =>
        obtain ⟨hplay, hcurrent⟩ := h
        obtain ⟨-, -, b, hb, hnum⟩ := hdelivered.playing hplay
        obtain rfl := Option.some.inj (hcurrent.symm.trans hb)
        refine ⟨hnum.symm, honce, fun hidle hst => ?_⟩
        rw [hnum] at hst
        rcases ((howned.rest hidle).2.playing hplay).transfer with h | ⟨-, h, -⟩
        · have h' : s.xState s.ucInstanceInPlay ∈ State.AWAITING_DONE :: controllerStates := h
          rw [hst] at h'
          exact absurd h' (by decide)
        · cases h

/-- An SMBus device that takes no part in address resolution. -/
def smbusDevice (addr : ℕ) : CreateSMBus :=
  { ucSMBusAddr := addr
    ucUDID := fun _ => 0
    xARPCapability := .NON_ARP_CAPABLE
    pFnGetProtocol := true
    pFnGetData := true
    pFnWriteData := true
    pFnAnnounceResult := true
    pFnArpAddrChange := true
    pFnBusError := true
    pFnBusWarning := true
    ucSimpleDevice := false }

/-- The first command of a device, a write of two bytes. -/
def writeWord : Initiate :=
  { ucSMBusInstanceID := 0
    ucSMBusDestAddr := 0x30
    ucCommand := 0x11
    xProtocol := .WRITE_WORD
    usDataSize := 2
    pucData := fun k => k
    ucPecRequiredForTransaction := false
    lowTimeout := false }

/-- The command is carried out: its bytes are sent and the end of the transfer is reported. -/
def writeWordRun : List Action :=
  [.createSMBus (smbusDevice 0x20), .initiate writeWord, .handle [] .none, .handle [] .none,
    .handle [] .none, .controllerInterrupts 0x8000 0, .handle [] .none,
    .controllerInterrupts 0x1000 0, .handle [] .none]

def i2cWriteRun : List Action :=
  [.createI2C (i2cDevice 0x20), .i2cWrite 0 0x30 (fun k => k) 2, .handle [] .none,
    .handle [] .none, .controllerInterrupts 0x8000 0, .handle [] .none,
    .controllerInterrupts 0x1000 0, .handle [] .none]

theorem result_delivery_writes :
    (∃ s : Profile, ∃ r ∈ s.results, r.command = some ⟨0, 0, some 0⟩ ∧
      ¬ (r.i2c = false ∧ r.transaction = 0)) ∧
    ∃ s : Profile, ⟨0, 0, none⟩ ∈ s.accepted ∧ s.ucInstanceInPlay = INVALID_INSTANCE ∧
      s.announced ⟨0, 0, none⟩ = 1 := by
  constructor
  · have h : (run step .start writeWordRun).any (fun s =>
        s.results.any fun r => decide (r.command = some ⟨0, 0, some 0⟩)) = true := by
      decide +kernel
    obtain ⟨s, hrun, hs⟩ := (Option.any_eq_true _ _).mp h
    obtain ⟨r, hr, hcommand⟩ := List.any_eq_true.mp hs
    have hcommand := of_decide_eq_true hcommand
    exact ⟨s, r, hr, hcommand, result_delivery.1 (.of_run hrun) r hr _ 0 hcommand rfl⟩
  · have h : (run (guarded step Expected) .start i2cWriteRun).any (fun s =>
        decide (⟨0, 0, none⟩ ∈ s.accepted ∧ s.ucInstanceInPlay = INVALID_INSTANCE)) = true := by
      decide +kernel
    obtain ⟨s, hrun, hs⟩ := (Option.any_eq_true _ _).mp h
    obtain ⟨haccepted, hplay⟩ := of_decide_eq_true hs
    have hdelivered := result_delivery.2 (.of_guarded_run i2cWriteRun .start hrun)
    refine ⟨s, haccepted, hplay, ?_⟩
    by_contra hne
    obtain ⟨hin, -⟩ := hdelivered.2.2 _ haccepted hne
    rw [hplay] at hin
    cases hin

/-- The first command of the driver gets the id 0 and a result with the id 1. -/
theorem not_result_delivery : ¬ ∀ s, Reaches step always .start s → ∀ r ∈ s.results, ∀ a t,
    r.command = some a → a.transaction = some t → r.transaction = t := by
  intro hall
  have h : (run step .start writeWordRun).any (fun s =>
      s.results.any fun r => decide (r.command = some ⟨0, 0, some 0⟩ ∧ r.transaction = 1)) =
      true := by decide +kernel
  obtain ⟨s, hrun, hs⟩ := (Option.any_eq_true _ _).mp h
  obtain ⟨r, hr, hr'⟩ := List.any_eq_true.mp hs
  obtain ⟨hcommand, htransaction⟩ := of_decide_eq_true hr'
  have hzero := hall s (.of_run hrun) r hr _ 0 hcommand rfl
  rw [htransaction] at hzero
  cases hzero

end Amr.Smbus
