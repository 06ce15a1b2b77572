/-
# What one action does

Every action of a run is one of four kinds (`Effect`): a round of the queue handles the first event
of an instance, creating or destroying opens or closes instance slots, an accepted command gives
the bus to its instance and queues its first event, and an interrupt queues the events it reports.
Whatever is refused leaves everything here alone. An invariant of the runs is proved from these
four cases.
-/
import Amr.Smbus.Exit

namespace Amr.Smbus

open StateProgram

set_option synthInstance.maxSize 20000
set_option synthInstance.maxHeartbeats 200000

/-! ### Creating and destroying -/

/-- What creating and destroying instances keep. -/
def Profile.bus (s : Profile) :=
  (s.ulTransactionID, s.ucInstanceInPlay, s.ucActiveTargetInstance, s.xState, s.results,
    s.accepted, s.current, s.handling, s.faults)

/-- What creating instances keeps besides. -/
def Profile.busAndQueues (s : Profile) := (s.bus, s.xEventSrcCircularBuf)

/-- The configuration of a slot that is opened. -/
inductive Opened (s : Profile) (j : ℕ) : Config → Prop
  | smbus (a : CreateSMBus) (hok : a.ok s) (hj : j < NUM_NON_ARP_INSTANCES) :
    Opened s j (a.config j)
  | i2c (a : CreateI2C) (hok : a.ok s) (hj : j < NUM_NON_ARP_INSTANCES) :
    Opened s j (a.config j (s.xConfig j))
  | arp (hj : j = ARP_INSTANCE_ID) :
    Opened s j { s.xConfig j with
      ucInstanceInUse := true
      ucSMBusAddr := DEVICE_DEFAULT_ARP_ADDRESS
      ucPECRequired := true
      ucThisInstanceNum := ARP_INSTANCE_ID }

/-- What happens to one slot when instances are created or destroyed. -/
inductive Slot (s s' : Profile) (j : ℕ) : Prop
  | kept (hconfig : s'.xConfig j = s.xConfig j)
      (hqueue : s'.xEventSrcCircularBuf j = s.xEventSrcCircularBuf j)
      (htransfer : s'.xTransfer j = s.xTransfer j)
  | opened (hfree : (s.xConfig j).ucInstanceInUse = false) (hopen : Opened s j (s'.xConfig j))
      (hqueue : s'.xEventSrcCircularBuf j = s.xEventSrcCircularBuf j)
      (htransfer : (s'.xTransfer j).cursor = (s.xTransfer j).cursor)
  | closed (hstate : j = ARP_INSTANCE_ID ∨ s.xState j = .INITIAL)
      (hconfig : ∃ left ∈ [Config.destroyed, Config.arpDestroyed, Config.i2cDestroyed],
        s'.xConfig j = left (s.xConfig j))
      (hqueue : s'.xEventSrcCircularBuf j = [])
      (htransfer : s'.xTransfer j = { s.xTransfer j with xProtocol := .NONE })

structure Reconfigured (s s' : Profile) : Prop where
  bus : s'.bus = s.bus
  slot : ∀ j, Slot s s' j

theorem Reconfigured.refl (s : Profile) : Reconfigured s s := ⟨rfl, fun _ => .kept rfl rfl rfl⟩

variable {s : Profile}

theorem freeInstance_spec (h : s.freeInstance.isSome = true) :
    s.freeInstance.getD INVALID_INSTANCE < NUM_NON_ARP_INSTANCES ∧
      (s.xConfig (s.freeInstance.getD INVALID_INSTANCE)).ucInstanceInUse = false := by
  obtain ⟨i, hi⟩ := Option.isSome_iff_exists.mp h
  have hmem := List.mem_of_find?_eq_some hi
  have hfree := List.find?_some hi
  rw [hi, Option.getD_some]
  exact ⟨List.mem_range.mp hmem, by simpa using hfree⟩

instance (n : ℕ) (f : Config → Config) : Within (Same Profile.busAndQueues) (setConfig n f) :=
  ⟨fun _ => rfl⟩

instance (n : ℕ) (f : Transfer → Transfer) :
    Within (Same Profile.busAndQueues) (setTransfer n f) :=
  ⟨fun _ => rfl⟩

instance (n value : ℕ) :
    Within (Same Profile.busAndQueues) (vSMBusHWWriteTgtControlAddress n value) := by
  refine ⟨fun s => ?_⟩
  simp only [vSMBusHWWriteTgtControlAddress, exec_modify, Same]
  split <;> rfl

instance (n value : ℕ) :
    Within (Same Profile.busAndQueues) (vSMBusHWWriteTgtControlEnable n value) := by
  refine ⟨fun s => ?_⟩
  simp only [vSMBusHWWriteTgtControlEnable, exec_modify, Same]
  split <;> rfl

instance : Within (Same Profile.busAndQueues) vAddArpInstance := by
  unfold vAddArpInstance; infer_instance

instance (a : CreateSMBus) : Within (Same Profile.busAndQueues) (ucCreateSMBusInstance a) := by
  simp only [ucCreateSMBusInstance]; infer_instance

instance (a : CreateI2C) : Within (Same Profile.busAndQueues) (ucI2CCreateDevice a) := by
  simp only [ucI2CCreateDevice]; infer_instance

theorem xConfig_address (n value : ℕ) (s : Profile) :
    (exec (vSMBusHWWriteTgtControlAddress n value) s).xConfig = s.xConfig := by
  simp only [vSMBusHWWriteTgtControlAddress, exec_modify]
  split <;> rfl

theorem xTransfer_address (n value : ℕ) (s : Profile) :
    (exec (vSMBusHWWriteTgtControlAddress n value) s).xTransfer = s.xTransfer := by
  simp only [vSMBusHWWriteTgtControlAddress, exec_modify]
  split <;> rfl

theorem xConfig_enable (n value : ℕ) (s : Profile) :
    (exec (vSMBusHWWriteTgtControlEnable n value) s).xConfig = s.xConfig := by
  simp only [vSMBusHWWriteTgtControlEnable, exec_modify]
  split <;> rfl

theorem xTransfer_enable (n value : ℕ) (s : Profile) :
    (exec (vSMBusHWWriteTgtControlEnable n value) s).xTransfer = s.xTransfer := by
  simp only [vSMBusHWWriteTgtControlEnable, exec_modify]
  split <;> rfl

variable (n : ℕ)

theorem xConfig_setConfig (f : Config → Config) (s : Profile) :
    (exec (setConfig n f) s).xConfig = Function.update s.xConfig n (f (s.xConfig n)) := rfl

theorem xTransfer_setConfig (f : Config → Config) (s : Profile) :
    (exec (setConfig n f) s).xTransfer = s.xTransfer := rfl

theorem xTransfer_setTransfer (f : Transfer → Transfer) (s : Profile) :
    (exec (setTransfer n f) s).xTransfer =
      Function.update s.xTransfer n (f (s.xTransfer n)) := rfl

theorem xConfig_setTransfer (f : Transfer → Transfer) (s : Profile) :
    (exec (setTransfer n f) s).xConfig = s.xConfig := rfl

/-- The configurations with the ARP instance added. -/
def withArp (C : ℕ → Config) : ℕ → Config :=
  Function.update C ARP_INSTANCE_ID
    { C ARP_INSTANCE_ID with
      ucInstanceInUse := true
      ucSMBusAddr := DEVICE_DEFAULT_ARP_ADDRESS
      ucPECRequired := true
      ucThisInstanceNum := ARP_INSTANCE_ID }

theorem xConfig_createSMBus {a : CreateSMBus} {s : Profile}
    (h : a.ok s ∧ s.freeInstance.isSome = true) :
    (exec (ucCreateSMBusInstance a) s).xConfig =
      if (s.xConfig ARP_INSTANCE_ID).ucInstanceInUse = false ∧
          a.xARPCapability ≠ .NON_ARP_CAPABLE then
        withArp (Function.update s.xConfig (s.freeInstance.getD INVALID_INSTANCE)
          (a.config (s.freeInstance.getD INVALID_INSTANCE)))
      else Function.update s.xConfig (s.freeInstance.getD INVALID_INSTANCE)
        (a.config (s.freeInstance.getD INVALID_INSTANCE)) := by
  simp only [ucCreateSMBusInstance, exec_get_bind]
  rw [if_pos h]
  simp only [vAddArpInstance, exec_bind, exec_ite, exec_pure, apply_ite Profile.xConfig,
    xConfig_address, xConfig_enable, xConfig_setConfig, xConfig_setTransfer, ite_self, withArp]

theorem xTransfer_createSMBus {a : CreateSMBus} {s : Profile}
    (h : a.ok s ∧ s.freeInstance.isSome = true) :
    (exec (ucCreateSMBusInstance a) s).xTransfer =
      Function.update s.xTransfer (s.freeInstance.getD INVALID_INSTANCE)
        { s.xTransfer (s.freeInstance.getD INVALID_INSTANCE) with
          ucFifoEmptyWhileInDoneCount := 0
          ucNewDeviceSlaveAddr := 0
          ucNackSent := false } := by
  simp only [ucCreateSMBusInstance, exec_get_bind]
  rw [if_pos h]
  simp only [vAddArpInstance, exec_bind, exec_ite, exec_pure, apply_ite Profile.xTransfer,
    xTransfer_address, xTransfer_enable, xTransfer_setConfig, xTransfer_setTransfer, ite_self]

theorem xTransfer_createI2C {a : CreateI2C} {s : Profile}
    (h : a.ok s ∧ s.freeInstance.isSome = true) :
    (exec (ucI2CCreateDevice a) s).xTransfer =
      Function.update s.xTransfer (s.freeInstance.getD INVALID_INSTANCE)
        { s.xTransfer (s.freeInstance.getD INVALID_INSTANCE) with
          ucNewDeviceSlaveAddr := 0
          ucNackSent := false } := by
  simp only [ucI2CCreateDevice, exec_get_bind]
  rw [if_pos h]
  simp only [exec_bind, exec_pure, xTransfer_address, xTransfer_enable, xTransfer_setConfig,
    xTransfer_setTransfer]

theorem xConfig_createI2C {a : CreateI2C} {s : Profile}
    (h : a.ok s ∧ s.freeInstance.isSome = true) :
    (exec (ucI2CCreateDevice a) s).xConfig =
      Function.update s.xConfig (s.freeInstance.getD INVALID_INSTANCE)
        (a.config (s.freeInstance.getD INVALID_INSTANCE)
          (s.xConfig (s.freeInstance.getD INVALID_INSTANCE))) := by
  simp only [ucI2CCreateDevice, exec_get_bind]
  rw [if_pos h]
  simp only [exec_bind, exec_pure, xConfig_address, xConfig_enable, xConfig_setConfig,
    xConfig_setTransfer]

theorem ucCreateSMBusInstance_effect (a : CreateSMBus) (s : Profile) :
    Reconfigured s (exec (ucCreateSMBusInstance a) s) := by
  have hkeep := same Profile.busAndQueues (ucCreateSMBusInstance a) s
  simp only [Profile.busAndQueues, Prod.mk.injEq] at hkeep
  obtain ⟨hbus, hqueue⟩ := hkeep
  by_cases h : a.ok s ∧ s.freeInstance.isSome = true
  · have hconfig := xConfig_createSMBus h
    have htransfer := xTransfer_createSMBus h
    obtain ⟨hi, hfree⟩ := freeInstance_spec h.2
    generalize s.freeInstance.getD INVALID_INSTANCE = i at hconfig htransfer hi hfree
    have hne : ARP_INSTANCE_ID ≠ i := fun he => by
      subst he
      exact absurd hi (by decide)
    refine ⟨hbus, fun j => ?_⟩
    have hq := congrFun hqueue j
    rcases eq_or_ne j i with rfl | hj
    · refine .opened hfree ?_ hq (by rw [htransfer, Function.update_self]; rfl)
      have hc : (exec (ucCreateSMBusInstance a) s).xConfig j = a.config j := by
        rw [hconfig]
        split
        · rw [withArp, Function.update_of_ne hne.symm, Function.update_self]
        · rw [Function.update_self]
      rw [hc]
      exact .smbus a h.1 hi
    · have ht : (exec (ucCreateSMBusInstance a) s).xTransfer j = s.xTransfer j := by
        rw [htransfer, Function.update_of_ne hj]
      rcases eq_or_ne j ARP_INSTANCE_ID with rfl | hj7
      · by_cases harp : (s.xConfig ARP_INSTANCE_ID).ucInstanceInUse = false ∧
            a.xARPCapability ≠ .NON_ARP_CAPABLE
        · refine .opened harp.1 ?_ hq (congrArg Transfer.cursor ht)
          rw [hconfig, if_pos harp, withArp, Function.update_self, Function.update_of_ne hj]
          exact .arp rfl
        · refine .kept ?_ hq ht
          rw [hconfig, if_neg harp, Function.update_of_ne hj]
      · refine .kept ?_ hq ht
        rw [hconfig]
        split
        · rw [withArp, Function.update_of_ne hj7, Function.update_of_ne hj]
        · rw [Function.update_of_ne hj]
  · have hs : exec (ucCreateSMBusInstance a) s = s := by
      simp only [ucCreateSMBusInstance, exec_get_bind]
      rw [if_neg h, exec_pure]
    rw [hs]
    exact .refl s

theorem ucI2CCreateDevice_effect (a : CreateI2C) (s : Profile) :
    Reconfigured s (exec (ucI2CCreateDevice a) s) := by
  have hkeep := same Profile.busAndQueues (ucI2CCreateDevice a) s
  simp only [Profile.busAndQueues, Prod.mk.injEq] at hkeep
  obtain ⟨hbus, hqueue⟩ := hkeep
  by_cases h : a.ok s ∧ s.freeInstance.isSome = true
  · have hconfig := xConfig_createI2C h
    have htransfer := xTransfer_createI2C h
    obtain ⟨hi, hfree⟩ := freeInstance_spec h.2
    generalize s.freeInstance.getD INVALID_INSTANCE = i at hconfig htransfer hi hfree
    refine ⟨hbus, fun j => ?_⟩
    have hq := congrFun hqueue j
    rcases eq_or_ne j i with rfl | hj
    · refine .opened hfree ?_ hq (by rw [htransfer, Function.update_self]; rfl)
      rw [hconfig, Function.update_self]
      exact .i2c a h.1 hi
    · refine .kept ?_ hq ?_
      · rw [hconfig, Function.update_of_ne hj]
      · rw [htransfer, Function.update_of_ne hj]
  · have hs : exec (ucI2CCreateDevice a) s = s := by
      simp only [ucI2CCreateDevice, exec_get_bind]
      rw [if_neg h, exec_pure]
    rw [hs]
    exact .refl s

theorem vRelease_effect (left : Config → Config) (s : Profile) :
    (exec (vRelease n left) s).bus = s.bus ∧
      (exec (vRelease n left) s).xConfig =
        Function.update s.xConfig n (left (s.xConfig n)) ∧
      (exec (vRelease n left) s).xEventSrcCircularBuf =
        Function.update s.xEventSrcCircularBuf n [] ∧
      (exec (vRelease n left) s).xTransfer =
        Function.update s.xTransfer n { s.xTransfer n with xProtocol := .NONE } := by
  simp only [vRelease, vEventBufferInitialize, exec_bind, exec_modify, setTransfer, setConfig,
    vSMBusHWWriteTgtControlEnable, vSMBusHWWriteTgtControlAddress]
  split <;> exact ⟨rfl, rfl, rfl, rfl⟩

theorem Reconfigured.release {s m : Profile} (h : Reconfigured s m) (n : ℕ)
    (left : Config → Config)
    (hleft : left ∈ [Config.destroyed, Config.arpDestroyed, Config.i2cDestroyed])
    (hstate : n = ARP_INSTANCE_ID ∨ s.xState n = .INITIAL) (hkept : m.xConfig n = s.xConfig n)
    (hkept' : m.xTransfer n = s.xTransfer n) : Reconfigured s (exec (vRelease n left) m) := by
  obtain ⟨hbus, hconfig, hqueue, htransfer⟩ := vRelease_effect n left m
  refine ⟨hbus.trans h.bus, fun j => ?_⟩
  rcases eq_or_ne j n with rfl | hj
  · refine .closed hstate ⟨left, hleft, ?_⟩ ?_ ?_
    · rw [hconfig, Function.update_self, hkept]
    · rw [hqueue, Function.update_self]
    · rw [htransfer, Function.update_self, hkept']
  · have hc : (exec (vRelease n left) m).xConfig j = m.xConfig j := by
      rw [hconfig, Function.update_of_ne hj]
    have hq : (exec (vRelease n left) m).xEventSrcCircularBuf j = m.xEventSrcCircularBuf j := by
      rw [hqueue, Function.update_of_ne hj]
    have ht : (exec (vRelease n left) m).xTransfer j = m.xTransfer j := by
      rw [htransfer, Function.update_of_ne hj]
    cases h.slot j with
    | kept hc' hq' ht' => exact .kept (hc.trans hc') (hq.trans hq') (ht.trans ht')
    | opened hfree hopen hq' ht' =>
      exact .opened hfree (hc ▸ hopen) (hq.trans hq') ((congrArg Transfer.cursor ht).trans ht')
    | closed hst hleft' hq' ht' => exact .closed hst (hc ▸ hleft') (hq.trans hq') (ht.trans ht')

theorem xDestroySMBusInstance_effect (s : Profile) :
    Reconfigured s (exec (xDestroySMBusInstance n) s) := by
  by_cases h : n ≤ LAST_NON_ARP_INSTANCE ∧ (s.xConfig n).ucInstanceInUse = true ∧
      s.xState n = .INITIAL
  · have hfirst : Reconfigured s (exec (vRelease n Config.destroyed) s) :=
      (Reconfigured.refl s).release n _ (by simp) (.inr h.2.2) rfl rfl
    simp only [xDestroySMBusInstance, exec_get_bind]
    rw [if_pos h]
    rw [exec_bind, exec_get_bind, exec_bind, exec_pure, exec_ite]
    split
    · exact hfirst
    · have hne : ARP_INSTANCE_ID ≠ n := fun he => by
        subst he
        exact absurd h.1 (by decide)
      obtain ⟨-, hconfig, -, htransfer⟩ := vRelease_effect n Config.destroyed s
      refine hfirst.release ARP_INSTANCE_ID _ (by simp) (.inl rfl) ?_ ?_
      · rw [hconfig, Function.update_of_ne hne]
      · rw [htransfer, Function.update_of_ne hne]
  · simp only [xDestroySMBusInstance, exec_get_bind]
    rw [if_neg h]
    exact .refl s

theorem ucI2CDestroyDevice_effect (s : Profile) :
    Reconfigured s (exec (ucI2CDestroyDevice n) s) := by
  by_cases h : n ≤ LAST_NON_ARP_INSTANCE ∧ (s.xConfig n).ucInstanceInUse = true ∧
      s.xState n = .INITIAL
  · simp only [ucI2CDestroyDevice, exec_get_bind]
    rw [if_pos h]
    exact (Reconfigured.refl s).release n _ (by simp) (.inr h.2.2) rfl rfl
  · simp only [ucI2CDestroyDevice, exec_get_bind]
    rw [if_neg h]
    exact .refl s

/-! ### Commands -/

/-- What the entry points and the interrupt halves do is read off this part of the profile. -/
def Profile.record (s : Profile) := (s.control, s.xTransfer, s.faults)

/-- A buffer with one more event, if there is room for it. -/
def pushEvent (es : List Event) (e : Event) : List Event :=
  if es.length < MAX_EVENT_ELEMENTS then es ++ [e] else es

/-- The instance that an action gives a controller command to. -/
def Action.commandedInstance : Action → Option ℕ
  | .initiate a => some a.ucSMBusInstanceID
  | .i2cWrite n _ _ _ => some n
  | .i2cRead n _ _ => some n
  | .i2cWriteRead n _ _ _ _ => some n
  | _ => none

/-- The transaction id that an accepted command hands to the caller. -/
def Action.transaction (s : Profile) : Action → Option ℕ
  | .initiate _ => some s.ulTransactionID
  | _ => none

def Action.admitted (s : Profile) : Action → Prop
  | .initiate a => a.ok s
  | .i2cWrite n _ _ size =>
    size ≤ DATA_SIZE_MAX ∧ (s.xConfig n).ucInstanceInUse = true ∧ s.commandable n
  | .i2cRead n _ size => size ≤ DATA_SIZE_MAX ∧ s.commandable n
  | .i2cWriteRead n _ _ size readSize =>
    size ≤ DATA_SIZE_MAX ∧ readSize ≤ DATA_SIZE_MAX ∧ I2C_READ_DATA_SIZE_MIN ≤ readSize ∧
      s.commandable n
  | _ => False

/-- What a command writes to the transfer of its instance. -/
def Action.load : Action → Transfer → Transfer
  | .initiate a, t =>
    { t with
      ucSendData := memcpy t.ucSendData a.pucData a.usDataSize
      usSendDataSize := a.usDataSize
      usSendIndex := 0
      ucCommand := a.commandByte
      xProtocol := a.xProtocol
      ucSMBusDestAddr := a.ucSMBusDestAddr
      ucPecRequiredForTransaction := a.ucPecRequiredForTransaction }
  | .i2cWrite _ addr data size, t =>
    { t with
      ucSendData := memcpy t.ucSendData data size
      usSendDataSize := size
      usSendIndex := 0
      ulI2CTransaction := true
      xProtocol := .I2C_WRITE
      ucSMBusDestAddr := addr }
  | .i2cRead _ addr size, t =>
    { t with
      usExpectedByteCount := size
      xProtocol := .I2C_READ
      ucSMBusDestAddr := addr }
  | .i2cWriteRead _ addr data size readSize, t =>
    { t with
      ucSendData := memcpy t.ucSendData data size
      usSendDataSize := size
      usSendIndex := 0
      usExpectedByteCount := readSize
      xProtocol := .I2C_WRITE_READ
      ucSMBusDestAddr := addr }
  | _, t => t

/-- An accepted command: the bus belongs to its instance, whose first event is queued. -/
def Profile.commanded (s : Profile) (n : ℕ) (transaction : Option ℕ)
    (load : Transfer → Transfer) : Profile :=
  { s with
    ulTransactionID :=
      if transaction.isSome = true then (s.ulTransactionID + 1) % 2 ^ 32 else s.ulTransactionID
    ucInstanceInPlay := n
    accepted := s.accepted ++ [⟨s.accepted.length, n, transaction⟩]
    current := some ⟨s.accepted.length, n, transaction⟩
    xEventSrcCircularBuf :=
      Function.update s.xEventSrcCircularBuf n
        (pushEvent (s.xEventSrcCircularBuf n) .SEND_NEXT_BYTE)
    xTransfer := Function.update s.xTransfer n (load (s.xTransfer n))
    handling := true }

theorem vSMBusCreateEvent_effect (e : Event) (s : Profile) :
    exec (vSMBusCreateEvent n e) s =
      { s with
        xEventSrcCircularBuf :=
          Function.update s.xEventSrcCircularBuf n (pushEvent (s.xEventSrcCircularBuf n) e) } := by
  simp only [vSMBusCreateEvent, exec_modify, pushEvent]
  split
  · rfl
  · rw [Function.update_eq_self]

theorem admitted_commandable {a : Action} (h : a.admitted s) :
    ∃ n, a.commandedInstance = some n ∧ s.commandable n := by
  cases a with
  | initiate a => exact ⟨_, rfl, h.2.2.2⟩
  | i2cWrite n addr data size => exact ⟨n, rfl, h.2.2⟩
  | i2cRead n addr size => exact ⟨n, rfl, h.2⟩
  | i2cWriteRead n addr data size readSize => exact ⟨n, rfl, h.2.2.2⟩
  | _ => exact h.elim

/-- **Commands.** An admitted command is accepted, any other is refused. -/
theorem command_effect {a : Action} {n : ℕ} (ha : a.commandedInstance = some n) :
    ¬ a.admitted s ∧ exec a.entry s = s ∨
      a.admitted s ∧
        (exec a.entry s).record = (s.commanded n (a.transaction s) a.load).record := by
  cases a with
  | initiate a =>
    obtain rfl : a.ucSMBusInstanceID = n := Option.some.inj ha
    rw [Action.entry, exec_bind, exec_pure]
    simp only [xSMBusControllerInitiateCommand, exec_get_bind]
    rw [exec_ite]
    split
    case isTrue h =>
      refine .inr ⟨h, ?_⟩
      simp only [vAccept, vStartDraining, write, exec_bind, exec_modify, exec_pure,
        vSMBusCreateEvent_effect, setTransfer]
      rfl
    case isFalse h => exact .inl ⟨h, rfl⟩
  | i2cWrite m addr data size =>
    obtain rfl : m = n := Option.some.inj ha
    rw [Action.entry, exec_bind, exec_pure]
    simp only [ucI2CWriteData, exec_get_bind]
    rw [exec_ite]
    split
    case isTrue h =>
      refine .inr ⟨h, ?_⟩
      simp only [vAccept, vStartDraining, write, exec_bind, exec_modify, exec_pure,
        vSMBusCreateEvent_effect, setTransfer]
      rfl
    case isFalse h => exact .inl ⟨h, rfl⟩
  | i2cRead m addr size =>
    obtain rfl : m = n := Option.some.inj ha
    rw [Action.entry, exec_bind, exec_pure]
    simp only [ucI2CReadData, exec_get_bind]
    rw [exec_ite]
    split
    case isTrue h =>
      refine .inr ⟨h, ?_⟩
      simp only [vAccept, vStartDraining, write, exec_bind, exec_modify, exec_pure,
        vSMBusCreateEvent_effect, setTransfer]
      rfl
    case isFalse h => exact .inl ⟨h, rfl⟩
  | i2cWriteRead m addr data size readSize =>
    obtain rfl : m = n := Option.some.inj ha
    rw [Action.entry, exec_bind, exec_pure]
    simp only [ucI2CWriteReadData, exec_get_bind]
    rw [exec_ite]
    split
    case isTrue h =>
      refine .inr ⟨h, ?_⟩
      simp only [vAccept, vStartDraining, write, exec_bind, exec_modify, exec_pure,
        vSMBusCreateEvent_effect, setTransfer]
      rfl
    case isFalse h => exact .inl ⟨h, rfl⟩
  | _ => cases ha

/-! ### Interrupts -/

/-- The events of an interrupt are queued, as far as there is room for them. -/
def Profile.raise (s : Profile) (n : ℕ) (events : List Event) : Profile :=
  { s with
    xEventSrcCircularBuf :=
      Function.update s.xEventSrcCircularBuf n (events.foldl pushEvent (s.xEventSrcCircularBuf n))
    handling := true }

theorem forEach_createEvent (events : List Event) (s : Profile) :
    exec (forEach (vSMBusCreateEvent n) events) s =
      { s with
        xEventSrcCircularBuf :=
          Function.update s.xEventSrcCircularBuf n
            (events.foldl pushEvent (s.xEventSrcCircularBuf n)) } := by
  induction events generalizing s with
  | nil => simp only [forEach, exec_pure, List.foldl_nil, Function.update_eq_self]
  | cons e events ih =>
    rw [forEach, exec_bind, ih, vSMBusCreateEvent_effect]
    simp only [Function.update_self, Function.update_idem, List.foldl_cons]

theorem vRaise_effect (events : List Event) (s : Profile) :
    exec (vRaise n events) s = s.raise n events := by
  simp only [vRaise, exec_bind, exec_modify, forEach_createEvent, Profile.raise]

theorem foldl_pushEvent (events es : List Event) :
    events.foldl pushEvent es = es ++ events.take (MAX_EVENT_ELEMENTS - es.length) := by
  induction events generalizing es with
  | nil => simp
  | cons e events ih =>
    rw [List.foldl_cons, ih, pushEvent]
    split
    case isTrue h =>
      obtain ⟨k, hk⟩ : ∃ k, MAX_EVENT_ELEMENTS - es.length = k + 1 :=
        ⟨MAX_EVENT_ELEMENTS - es.length - 1, by omega⟩
      have hk' : MAX_EVENT_ELEMENTS - (es ++ [e]).length = k := by
        rw [List.length_append, List.length_singleton]
        omega
      rw [hk, hk', List.take_succ_cons, List.append_assoc, List.singleton_append]
    case isFalse h =>
      have hk : MAX_EVENT_ELEMENTS - es.length = 0 := by omega
      rw [hk, List.take_zero, List.take_zero]

/-- The events of the target half of an interrupt. -/
def targetEvents (vector errors : ℕ) : List Event :=
  raised targetErrorInterrupts (errorVector vector errors) ++ raised targetInterrupts vector

/-- The events of the controller half of an interrupt. -/
def controllerEvents (vector errors : ℕ) : List Event :=
  raised controllerErrorInterrupts (errorVector vector errors) ++
    raised controllerInterrupts vector

/-- The profile with another active target instance. -/
def Profile.activate (s : Profile) (active : ℕ) : Profile :=
  { s with ucActiveTargetInstance := active }

theorem vTargetInterrupts_effect (vector errors addr : ℕ) (s : Profile) :
    ∃ active, (exec (vTargetInterrupts vector errors addr) s).record =
        (s.activate active).record ∨
      active ≤ LAST_INSTANCE ∧ exec (vTargetInterrupts vector errors addr) s =
        (s.activate active).raise active (targetEvents vector errors) := by
  have hsame : s = s.activate s.ucActiveTargetInstance := rfl
  unfold vTargetInterrupts
  split
  case isFalse => exact ⟨s.ucActiveTargetInstance, .inl rfl⟩
  obtain ⟨active, hactive⟩ : ∃ active,
      exec (if vector.testBit 6 = true ∨ vector.testBit 7 = true then
        modify fun s => { s with ucActiveTargetInstance := s.instanceFromTargetAddress addr }
      else pure ()) s = s.activate active := by
    split
    · exact ⟨s.instanceFromTargetAddress addr, rfl⟩
    · exact ⟨s.ucActiveTargetInstance, rfl⟩
  rw [exec_bind, hactive, exec_get_bind, exec_ite, vRaise_effect]
  refine ⟨active, ?_⟩
  split
  case isTrue h => exact .inr ⟨h, rfl⟩
  case isFalse => exact .inl rfl

theorem vControllerInterrupts_effect (vector errors : ℕ) (s : Profile) :
    (exec (vControllerInterrupts vector errors) s).record = s.record ∨
      s.ucInstanceInPlay ≤ LAST_INSTANCE ∧ exec (vControllerInterrupts vector errors) s =
        s.raise s.ucInstanceInPlay (controllerEvents vector errors) := by
  unfold vControllerInterrupts
  split
  case isFalse => exact .inl rfl
  rw [exec_get_bind, exec_ite, vRaise_effect]
  split
  case isTrue h => exact .inr ⟨h, rfl⟩
  case isFalse => exact .inl rfl

/-! ### Rounds of the queue -/

/-- The instance of a round is steered to another state, or its transfer ends. -/
inductive Outcome (s : Profile) (n : ℕ) (e : Event) (s' : Profile) : Prop
  | steered (hplay : s'.ucInstanceInPlay = s.ucInstanceInPlay)
      (hactive : s'.ucActiveTargetInstance = s.ucActiveTargetInstance)
      (hstate : s'.xState n = s.xState n ∨ s'.xState n ∈ nextStates (s.xState n) e)
  | reset (hplay : s'.ucInstanceInPlay =
        if (s.xConfig n).ucThisInstanceNum = s.ucInstanceInPlay then INVALID_INSTANCE
        else s.ucInstanceInPlay)
      (hstate : s'.xState n = .INITIAL)

/-- A round of the queue: instance `n` handles the event `e`, and `es` are left in its buffer. -/
structure Round (s : Profile) (n : ℕ) (e : Event) (es : List Event) (s' : Profile) : Prop where
  still : s'.still = s.still
  otherState : ∀ j, j ≠ n → s'.xState j = s.xState j
  otherEvents : ∀ j, j ≠ n → s'.xEventSrcCircularBuf j = s.xEventSrcCircularBuf j
  outcome : Outcome s n e s'
  events : ∃ new, (∀ e' ∈ new, e' ∈ postedEvents (s.xState n) e) ∧
    s'.xEventSrcCircularBuf n = es ++ new
  results : ∃ rs, (∀ r ∈ rs, Announced s n r) ∧ s'.results = s.results ++ rs

theorem Round.of_steer {s s' : Profile} {n : ℕ} {e : Event} {es : List Event}
    {registers : List ℕ} {answer : Answer} (hqueue : s.xEventSrcCircularBuf n = e :: es)
    (h : Steer n (nextStates (s.xState n) e) (postedEvents (s.xState n) e)
      (s.take n registers answer) s') : Round s n e es s' where
  still := h.still
  otherState := h.otherState
  otherEvents := fun j hj => (h.otherEvents j hj).trans (by simp [Profile.take, hj])
  outcome := .steered h.inPlay h.active h.state
  events := by
    obtain ⟨new, hnew, hq⟩ := h.events
    refine ⟨new, hnew, ?_⟩
    simpa [Profile.take, hqueue] using hq
  results := by
    obtain ⟨rs, hrs, hr⟩ := h.results
    exact ⟨rs, fun r hr => ⟨(hrs r hr).instanceNum, (hrs r hr).command, (hrs r hr).transaction⟩, hr⟩

/-- **Rounds.** What a round of the queue does. -/
theorem round_effect {n : ℕ} {e : Event} {es : List Event}
    (hqueue : s.xEventSrcCircularBuf n = e :: es) (registers : List ℕ) (answer : Answer) :
    Round s n e es (exec (vSMBusFSM n e) (s.take n registers answer)) := by
  rcases vSMBusFSM_exit n e (s.take n registers answer) with h | ⟨m, h, hs'⟩
  · exact .of_steer hqueue h
  · have hround : Round s n e es m := .of_steer hqueue h
    have hreset := vResetToInitial_effect n m
    rw [← hs'] at hreset
    simp only [Profile.control, Prod.mk.injEq, Profile.released] at hreset
    obtain ⟨htid, hplay, -, hconfig, hstate, hevents, -, -, hresults, haccepted, hcurrent,
      hhandling⟩ := hreset
    have hnum := Config.thisInstanceNum_of_identity (h.identity n)
    have hplay' : m.ucInstanceInPlay = s.ucInstanceInPlay := h.inPlay
    refine ⟨?_, fun j hj => ?_, fun j hj => ?_, .reset ?_ ?_, ?_, ?_⟩
    · rw [← hround.still, Profile.still, Profile.still, htid, hconfig, haccepted, hcurrent,
        hhandling]
    · rw [hstate, Function.update_of_ne hj, hround.otherState j hj]
    · rw [hevents, hround.otherEvents j hj]
    · rw [hplay, hnum, hplay']
      rfl
    · rw [hstate, Function.update_self]
    · rw [hevents]
      exact hround.events
    · rw [hresults]
      exact hround.results

/-! ### Actions -/

/-- The profile in which an entry point or an interrupt half begins. -/
def Profile.rest (s : Profile) : Profile := { s with handling := false }

inductive Effect (s : Profile) : Action → Profile → Prop
  | handled {registers : List ℕ} {answer : Answer} (n : ℕ) (e : Event) (es : List Event)
      (hhandling : s.handling = true) (hpending : s.pending = some n)
      (hqueue : s.xEventSrcCircularBuf n = e :: es) :
    Effect s (.handle registers answer) (exec (vSMBusFSM n e) (s.take n registers answer))
  | refused {a : Action} {s' : Profile} (active : ℕ) (hidle : s.idle)
      (h : s'.record = (s.rest.activate active).record) : Effect s a s'
  | reconfigured {a : Action} {s' : Profile} (hidle : s.idle) (h : Reconfigured s.rest s') :
    Effect s a s'
  | commanded {a : Action} {s' : Profile} (n : ℕ) (hidle : s.idle)
      (ha : a.commandedInstance = some n) (hok : a.admitted s)
      (h : s'.record = (s.rest.commanded n (a.transaction s) a.load).record) : Effect s a s'
  | target {vector errors addr : ℕ} (active : ℕ) (hidle : s.idle)
      (hactive : active ≤ LAST_INSTANCE) :
    Effect s (.targetInterrupts vector errors addr)
      ((s.rest.activate active).raise active (targetEvents vector errors))
  | controller {vector errors : ℕ} (hidle : s.idle) (hplay : s.ucInstanceInPlay ≤ LAST_INSTANCE) :
    Effect s (.controllerInterrupts vector errors)
      (s.rest.raise s.ucInstanceInPlay (controllerEvents vector errors))

/-- **Actions.** Every action has one of these effects. -/
theorem step_effect {s s' : Profile} {a : Action} (h : step s a = some s') : Effect s a s' := by
  have hentry : (∀ r w, a ≠ .handle r w) → s.idle ∧ s' = exec a.entry s.rest := by
    intro hne
    cases a with
    | handle r w => exact absurd rfl (hne r w)
    | _ =>
      simp only [step] at h
      split at h
      · exact ⟨‹_›, (Option.some.inj h).symm⟩
      · cases h
  have hcommand : ∀ n, a.commandedInstance = some n → (∀ r w, a ≠ .handle r w) → Effect s a s' := by
    intro n ha hne
    obtain ⟨hidle, rfl⟩ := hentry hne
    rcases command_effect (s := s.rest) ha with ⟨-, heq⟩ | ⟨hok, heq⟩
    · exact .refused s.ucActiveTargetInstance hidle (congrArg Profile.record heq)
    · refine .commanded n hidle ha ?_ heq
      cases a <;> exact hok
  cases a with
  | handle registers answer =>
    simp only [step, vSMBusEventQueueHandle] at h
    split at h
    case isFalse => cases h
    case isTrue hhandling =>
      obtain ⟨n, hpending, h⟩ := Option.bind_eq_some_iff.mp h
      obtain ⟨e, he, rfl⟩ := Option.map_eq_some_iff.mp h
      obtain ⟨es, hes⟩ : ∃ es, s.xEventSrcCircularBuf n = e :: es :=
        List.head?_eq_some_iff.mp he
      exact .handled n e es hhandling hpending hes
  | createSMBus a =>
    obtain ⟨hidle, rfl⟩ := hentry (by simp)
    exact .reconfigured hidle (ucCreateSMBusInstance_effect a s.rest)
  | createI2C a =>
    obtain ⟨hidle, rfl⟩ := hentry (by simp)
    exact .reconfigured hidle (ucI2CCreateDevice_effect a s.rest)
  | destroySMBus n =>
    obtain ⟨hidle, rfl⟩ := hentry (by simp)
    exact .reconfigured hidle (xDestroySMBusInstance_effect n s.rest)
  | destroyI2C n =>
    obtain ⟨hidle, rfl⟩ := hentry (by simp)
    exact .reconfigured hidle (ucI2CDestroyDevice_effect n s.rest)
  | initiate a => exact hcommand _ rfl (by simp)
  | i2cWrite n addr data size => exact hcommand _ rfl (by simp)
  | i2cRead n addr size => exact hcommand _ rfl (by simp)
  | i2cWriteRead n addr data size readSize => exact hcommand _ rfl (by simp)
  | targetInterrupts vector errors addr =>
    obtain ⟨hidle, rfl⟩ := hentry (by simp)
    obtain ⟨active, heq | ⟨hactive, heq⟩⟩ := vTargetInterrupts_effect vector errors addr s.rest
    · exact .refused active hidle heq
    · exact (congrArg (Effect s _) heq).mpr (.target active hidle hactive)
  | controllerInterrupts vector errors =>
    obtain ⟨hidle, rfl⟩ := hentry (by simp)
    rcases vControllerInterrupts_effect vector errors s.rest with heq | ⟨hplay, heq⟩
    · exact .refused s.ucActiveTargetInstance hidle heq
    · exact (congrArg (Effect s _) heq).mpr (.controller hidle hplay)

end Amr.Smbus
