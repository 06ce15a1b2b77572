/-
# Who answers to an address

The address of an instance is written when it is created, when it is destroyed, and when an
`ASSIGN_ADDRESS` that matched it is done; no other step of the driver touches it
(`address_effect`). An instance with a fixed address is created only if no instance holds that
address. Neither the address of an ARP-capable instance nor one that is assigned over the bus is
compared with those in use: the first is not enabled before it is assigned one, the second is the
choice of the ARP controller. Where these choices are free of conflicts (`Addressing`), an address
has one owner and the scan of the instances finds it.
-/
import Amr.Smbus.Ownership

namespace Amr.Smbus

open StateProgram Transition

set_option synthInstance.maxSize 20000
set_option synthInstance.maxHeartbeats 200000

/-! ### What the handlers do to the addresses -/

/-- The configurations and the target control registers. -/
def Profile.targets (s : Profile) := (s.xConfig, s.tgtControlAddress, s.tgtControlEnable)

instance : Ambient (Same Profile.targets) where
  reads := fun _ => ⟨fun _ => rfl⟩
  writes := fun _ => ⟨fun _ => rfl⟩
  calls := fun _ => ⟨fun _ => rfl⟩
  notes := fun _ => ⟨fun _ => rfl⟩
  strikes := fun _ => ⟨fun _ => rfl⟩

instance : Faulting (Same Profile.targets) := ⟨fun _ => ⟨fun _ => rfl⟩⟩

instance : Announcing (Same Profile.targets) := ⟨fun _ => ⟨fun _ => rfl⟩⟩

instance (n : ℕ) : Whole n (Same Profile.targets) where
  offCursor := fun _ _ => ⟨fun _ => rfl⟩
  onCursor := fun _ _ => ⟨fun _ => rfl⟩
  any := fun _ => ⟨fun _ => rfl⟩
  decodes := fun _ => ⟨fun _ => rfl⟩
  queues := fun e => ⟨fun s => by
    rw [vSMBusCreateEvent_effect]
    rfl⟩
  resets := by
    have hreset : Within (Same Profile.targets) (setTransfer n Transfer.reset) := ⟨fun _ => rfl⟩
    have hplay : Within (Same Profile.targets)
        (modify fun s => { s with ucInstanceInPlay := INVALID_INSTANCE }) := ⟨fun _ => rfl⟩
    have hactive : Within (Same Profile.targets)
        (modify fun s => { s with ucActiveTargetInstance := INVALID_INSTANCE }) := ⟨fun _ => rfl⟩
    unfold vSMBusHandleActionResetAllData
    infer_instance

/-- The addresses stay, and no instance is enabled that was not. -/
structure Flagged (s s' : Profile) : Prop where
  identity : ∀ i, (s'.xConfig i).identity = (s.xConfig i).identity
  address : ∀ i, (s'.xConfig i).ucSMBusAddr = (s.xConfig i).ucSMBusAddr
  target : s'.tgtControlAddress = s.tgtControlAddress
  enable : ∀ i, s'.tgtControlEnable i = 1 → s.tgtControlEnable i = 1

variable {s s' : Profile}

theorem Flagged.of_targets (h : s'.targets = s.targets) : Flagged s s' := by
  simp only [Profile.targets, Prod.mk.injEq] at h
  obtain ⟨hconfig, haddress, henable⟩ := h
  exact ⟨fun i => by rw [hconfig], fun i => by rw [hconfig], haddress,
    fun i hi => by rwa [henable] at hi⟩

instance : Std.Refl Flagged := ⟨fun _ => .of_targets rfl⟩

instance : IsTrans Profile Flagged :=
  ⟨fun _ _ _ h h' => ⟨fun i => (h'.identity i).trans (h.identity i),
    fun i => (h'.address i).trans (h.address i), h'.target.trans h.target,
    fun i hi => h.enable i (h'.enable i hi)⟩⟩

instance (priority := low) {α : Type} (m : Routine α) [h : Within (Same Profile.targets) m] :
    Within Flagged m :=
  ⟨fun s => .of_targets (h.rel s)⟩

theorem flagged_setConfig (i : ℕ) {f : Config → Config} (hf : ∀ c, (f c).identity = c.identity)
    (haddr : ∀ c, (f c).ucSMBusAddr = c.ucSMBusAddr) : Within Flagged (setConfig i f) := by
  refine ⟨fun s => ⟨fun j => ?_, fun j => ?_, rfl, fun _ h => h⟩⟩
  · rcases eq_or_ne j i with rfl | hj
    · simp [setConfig, hf]
    · simp [setConfig, hj]
  · rcases eq_or_ne j i with rfl | hj
    · simp [setConfig, haddr]
    · simp [setConfig, hj]

instance (i : ℕ) : Within Flagged (vSMBusHWWriteTgtControlEnable i 0) := by
  refine ⟨fun s => ?_⟩
  simp only [vSMBusHWWriteTgtControlEnable, exec_modify]
  split
  · refine ⟨fun _ => rfl, fun _ => rfl, rfl, fun j hj => ?_⟩
    rcases eq_or_ne j i with rfl | hne
    · simp at hj
    · simpa [hne] using hj
  · exact Std.Refl.refl s

instance (i : ℕ) : Within Flagged (vSMBusARPPrepareToARP i) :=
  flagged_setConfig i (fun _ => rfl) fun _ => rfl

instance (i : ℕ) : Within Flagged (vSMBusARPResetDevice i) := by
  have h₁ : Within Flagged (setConfig i fun c => { c with ucARFlag := false }) :=
    flagged_setConfig i (fun _ => rfl) fun _ => rfl
  have h₂ : ∀ b, Within Flagged (setConfig i fun c => { c with ucAVFlag := b }) := fun b =>
    flagged_setConfig i (fun _ => rfl) fun _ => rfl
  unfold vSMBusARPResetDevice
  infer_instance

/-- An instance after an `ASSIGN_ADDRESS` that matched it: a fixed address stays. -/
def Config.assign (c : Config) (ucAddr : ℕ) : Config :=
  if c.xARPCapability = .ARP_CAPABLE then
    { c with ucSMBusAddr := ucAddr, ucARFlag := true, ucAVFlag := true }
  else if c.xARPCapability = .FIXED_AND_DISCOVERABLE then
    { c with ucARFlag := true, ucAVFlag := true }
  else c

theorem vApplyAssignAddress_effect (n : ℕ) (s : Profile) :
    (exec (vApplyAssignAddress n) s).targets =
      (Function.update s.xConfig (s.xTransfer n).ucUDIDMatchedInstance
        ((s.xConfig (s.xTransfer n).ucUDIDMatchedInstance).assign
          (s.xTransfer n).ucNewDeviceSlaveAddr),
      if (s.xConfig (s.xTransfer n).ucUDIDMatchedInstance).xARPCapability = .ARP_CAPABLE ∧
          (s.xTransfer n).ucUDIDMatchedInstance < NUM_INSTANCES then
        (Function.update s.tgtControlAddress (s.xTransfer n).ucUDIDMatchedInstance
          ((s.xTransfer n).ucNewDeviceSlaveAddr % 2 ^ 7),
        Function.update s.tgtControlEnable (s.xTransfer n).ucUDIDMatchedInstance 1)
      else (s.tgtControlAddress, s.tgtControlEnable)) := by
  rw [vApplyAssignAddress, exec_transfer_bind, exec_config_bind]
  generalize (s.xTransfer n).ucUDIDMatchedInstance = i
  generalize (s.xTransfer n).ucNewDeviceSlaveAddr = a
  by_cases hcapable : (s.xConfig i).xARPCapability = .ARP_CAPABLE
  · have hnotify := fun m => same Profile.targets
      (vSMBusHandleActionNotifyAddressChangeToApplication i) m
    simp only [hcapable, exec_bind, List.mem_cons, true_or, true_and, if_true, hnotify]
    by_cases hi : i < NUM_INSTANCES
    · simp [hi, Profile.targets, setConfig, Config.assign, vSMBusHWWriteTgtControlEnable,
        vSMBusHWWriteTgtControlAddress, hcapable]
    · simp [hi, Profile.targets, setConfig, Config.assign, vSMBusHWWriteTgtControlEnable,
        vSMBusHWWriteTgtControlAddress, hcapable]
  · by_cases hfixed : (s.xConfig i).xARPCapability = .FIXED_AND_DISCOVERABLE
    · simp [hfixed, Profile.targets, setConfig, Config.assign]
    · simp [hcapable, hfixed, Profile.targets, Config.assign]

/-- The event at which an `ASSIGN_ADDRESS` takes effect. -/
def Profile.assigning (s : Profile) (n : ℕ) (e : Event) : Prop :=
  s.xState n = .AWAITING_DONE ∧ e = .TARGET_DONE_IRQ ∧ (s.xConfig n).ulI2CDevice = false ∧
    (s.xTransfer n).xProtocol = .ARP_ASSIGN_ADDRESS ∧ (s.xTransfer n).ucNackSent = false

instance (s : Profile) (n : ℕ) (e : Event) : Decidable (s.assigning n e) := by
  unfold Profile.assigning; infer_instance

theorem applyARP_flagged (n : ℕ) {p : Protocol} (hp : p ≠ .ARP_ASSIGN_ADDRESS) :
    Within Flagged (vApplyARP n p) := by
  refine ⟨fun s => ?_⟩
  rw [vApplyARP, exec_get_bind, exec_transfer_bind, if_neg hp]
  exact Within.rel s

theorem targetDone_flagged (n : ℕ) {t : Transfer} (hp : t.xProtocol ≠ .ARP_ASSIGN_ADDRESS) :
    Within Flagged (vTargetDone n t) := by
  have happly := applyARP_flagged n hp
  unfold vTargetDone
  infer_instance

theorem targetDone_assign (n : ℕ) (s : Profile)
    (hp : (s.xTransfer n).xProtocol = .ARP_ASSIGN_ADDRESS) :
    (exec (vTargetDone n (s.xTransfer n)) s).targets =
      (exec (if (s.xTransfer n).ucNackSent = false then vApplyAssignAddress n else pure ())
        s).targets := by
  rw [vTargetDone, hp, if_neg (fun h => absurd h.1 (by decide)), exec_bind, exec_pure,
    if_neg (by decide), exec_bind, exec_pure, exec_bind, vApplyARP, exec_get_bind, exec_transfer_bind, if_pos rfl]
  exact same Profile.targets _ _

/-- **Addresses and the machine.** A handler changes an address at the end of an `ASSIGN_ADDRESS`
only. -/
theorem vSMBusFSM_address {n : ℕ} {e : Event} {s : Profile} :
    (¬ s.assigning n e → Flagged s (exec (vSMBusFSM n e) s)) ∧
      (s.assigning n e → (exec (vSMBusFSM n e) s).targets =
        (exec (vApplyAssignAddress n) s).targets) := by
  by_cases hdone : s.xState n = .AWAITING_DONE ∧ e = .TARGET_DONE_IRQ
  · obtain ⟨hst, rfl⟩ := hdone
    have hfsm : exec (vSMBusFSM n .TARGET_DONE_IRQ) s =
        exec (vStateAwaitingDone n .TARGET_DONE_IRQ) s := by
      rw [vSMBusFSM, exec_get_bind, hst]
    rw [hfsm]
    simp only [vStateAwaitingDone]
    rw [exec_config_bind, exec_transfer_bind, exec_ite]
    by_cases hi2c : (s.xConfig n).ulI2CDevice = true
    · rw [if_pos hi2c]
      refine ⟨fun _ => Within.rel s, fun h => ?_⟩
      rw [h.2.2.1] at hi2c
      cases hi2c
    · rw [if_neg hi2c]
      by_cases hp : (s.xTransfer n).xProtocol = .ARP_ASSIGN_ADDRESS
      · have hassign := targetDone_assign n s hp
        by_cases hnack : (s.xTransfer n).ucNackSent = false
        · rw [if_pos hnack] at hassign
          exact ⟨fun h => absurd ⟨hst, rfl, by simpa using hi2c, hp, hnack⟩ h, fun _ => hassign⟩
        · rw [if_neg hnack] at hassign
          exact ⟨fun _ => .of_targets hassign, fun h => absurd h.2.2.2.2 hnack⟩
      · exact ⟨fun _ => (targetDone_flagged n hp).rel s, fun h => absurd h.2.2.2.1 hp⟩
  · exact ⟨fun _ => .of_targets (vSMBusFSM_within (R := Same Profile.targets) n hdone),
      fun h => absurd ⟨h.1, h.2.1⟩ hdone⟩

/-! ### The target control registers -/

/-- An enabled target answers for an instance in use, at its address. -/
def Mirrored (s : Profile) : Prop :=
  ∀ n, s.tgtControlEnable n = 1 → (s.xConfig n).ucInstanceInUse = true ∧
    s.tgtControlAddress n = (s.xConfig n).ucSMBusAddr % 2 ^ 7

theorem Mirrored.of_targets (hs : Mirrored s) (h : s'.targets = s.targets) :
    Mirrored s' := by
  simp only [Profile.targets, Prod.mk.injEq] at h
  obtain ⟨hconfig, haddress, henable⟩ := h
  simpa only [Mirrored, hconfig, haddress, henable] using hs

theorem Mirrored.flagged (hs : Mirrored s) (h : Flagged s s') : Mirrored s' := by
  intro n hn
  obtain ⟨huse, haddress⟩ := hs n (h.enable n hn)
  exact ⟨(Config.inUse_of_identity (h.identity n)).trans huse, by
    rw [h.target, haddress, h.address]⟩

theorem Mirrored.configured (hs : Mirrored s) (i : ℕ) (c : Config)
    (hconfig : s'.xConfig = Function.update s.xConfig i c)
    (haddress : s'.tgtControlAddress =
      Function.update s.tgtControlAddress i (c.ucSMBusAddr % 2 ^ 7))
    (henable : ∀ j, j ≠ i → s'.tgtControlEnable j = s.tgtControlEnable j)
    (huse : s'.tgtControlEnable i = 1 → c.ucInstanceInUse = true) : Mirrored s' := by
  intro n hn
  rcases eq_or_ne n i with rfl | hne
  · rw [hconfig, haddress, Function.update_self, Function.update_self]
    exact ⟨huse hn, rfl⟩
  · rw [henable n hne] at hn
    rw [hconfig, haddress, Function.update_of_ne hne, Function.update_of_ne hne]
    exact hs n hn

variable {s : Profile}

theorem vRelease_mirrored (hs : Mirrored s) {n : ℕ} (hn : n < NUM_INSTANCES)
    (left : Config → Config) (hleft : (left (s.xConfig n)).ucSMBusAddr = 0) :
    Mirrored (exec (vRelease n left) s) := by
  refine hs.configured n (left (s.xConfig n)) ?_ ?_ (fun j hj => ?_) fun h => ?_
  · exact (vRelease_effect n left s).2.1
  · simp [vRelease, vEventBufferInitialize, setTransfer, setConfig, vSMBusHWWriteTgtControlEnable,
      vSMBusHWWriteTgtControlAddress, hn, hleft]
  · simp [vRelease, vEventBufferInitialize, setTransfer, setConfig, vSMBusHWWriteTgtControlEnable,
      vSMBusHWWriteTgtControlAddress, hn, hj]
  · simp [vRelease, vEventBufferInitialize, setTransfer, setConfig, vSMBusHWWriteTgtControlEnable,
      vSMBusHWWriteTgtControlAddress, hn] at h

theorem vAddArpInstance_mirrored (hs : Mirrored s) :
    Mirrored (exec vAddArpInstance s) := by
  have hlt : ARP_INSTANCE_ID < NUM_INSTANCES := by decide
  refine hs.configured ARP_INSTANCE_ID (withArp s.xConfig ARP_INSTANCE_ID) ?_ ?_ (fun j hj => ?_)
    fun h => ?_
  · simp only [vAddArpInstance, exec_bind, xConfig_enable, xConfig_address, withArp,
      Function.update_self]
    rfl
  · simp [vAddArpInstance, setConfig, vSMBusHWWriteTgtControlEnable,
      vSMBusHWWriteTgtControlAddress, hlt, withArp]
  · simp [vAddArpInstance, setConfig, vSMBusHWWriteTgtControlEnable,
      vSMBusHWWriteTgtControlAddress, hlt, hj]
  · simp [withArp]

theorem ucCreateSMBusInstance_mirrored (hs : Mirrored s) (a : CreateSMBus) :
    Mirrored (exec (ucCreateSMBusInstance a) s) := by
  simp only [ucCreateSMBusInstance, exec_get_bind]
  rw [exec_ite]
  split
  case isFalse => exact hs
  case isTrue h =>
    obtain ⟨hi, hfree⟩ := freeInstance_spec h.2
    generalize s.freeInstance.getD INVALID_INSTANCE = i at hi hfree
    have hlt : i < NUM_INSTANCES := hi.trans (by decide)
    have hoff : s.tgtControlEnable i ≠ 1 := fun hon => by
      rw [(hs i hon).1] at hfree
      cases hfree
    have harp : Within (Keeps Mirrored) vAddArpInstance := ⟨fun _ => vAddArpInstance_mirrored⟩
    simp only [exec_bind, exec_pure]
    refine Within.rel (R := Keeps Mirrored) _ ?_
    refine hs.configured i (a.config i) ?_ ?_ (fun j hj => ?_) fun _ => rfl
    · rw [exec_ite]
      simp [apply_ite Profile.xConfig, xConfig_enable, xConfig_address, xConfig_setConfig,
        xConfig_setTransfer]
    · rw [exec_ite]
      split <;> simp [setConfig, setTransfer, vSMBusHWWriteTgtControlEnable,
        vSMBusHWWriteTgtControlAddress, hlt, CreateSMBus.config]
    · rw [exec_ite]
      split <;> simp [setConfig, setTransfer, vSMBusHWWriteTgtControlEnable,
        vSMBusHWWriteTgtControlAddress, hlt, hj]

theorem ucI2CCreateDevice_mirrored (hs : Mirrored s) (a : CreateI2C) :
    Mirrored (exec (ucI2CCreateDevice a) s) := by
  simp only [ucI2CCreateDevice, exec_get_bind]
  rw [exec_ite]
  split
  case isFalse => exact hs
  case isTrue h =>
    obtain ⟨hi, -⟩ := freeInstance_spec h.2
    generalize s.freeInstance.getD INVALID_INSTANCE = i at hi
    have hlt : i < NUM_INSTANCES := hi.trans (by decide)
    simp only [exec_bind, exec_pure]
    refine hs.configured i (a.config i (s.xConfig i)) ?_ ?_ (fun j hj => ?_) fun _ => rfl
    · simp only [xConfig_enable, xConfig_address, xConfig_setConfig, xConfig_setTransfer]
    · simp [setConfig, setTransfer, vSMBusHWWriteTgtControlEnable, vSMBusHWWriteTgtControlAddress,
        hlt, CreateI2C.config]
    · simp [setConfig, setTransfer, vSMBusHWWriteTgtControlEnable, vSMBusHWWriteTgtControlAddress,
        hlt, hj]

theorem xDestroySMBusInstance_mirrored (hs : Mirrored s) (n : ℕ) :
    Mirrored (exec (xDestroySMBusInstance n) s) := by
  simp only [xDestroySMBusInstance, exec_get_bind]
  rw [exec_ite]
  split
  case isFalse => exact hs
  case isTrue h =>
    have hreleased := vRelease_mirrored hs (Nat.lt_succ_of_le (h.1.trans (by decide)))
      Config.destroyed rfl
    rw [exec_bind, exec_get_bind, exec_bind, exec_pure, exec_ite]
    split
    · exact hreleased
    · exact vRelease_mirrored hreleased (by decide) Config.arpDestroyed rfl

theorem ucI2CDestroyDevice_mirrored (hs : Mirrored s) (n : ℕ) :
    Mirrored (exec (ucI2CDestroyDevice n) s) := by
  simp only [ucI2CDestroyDevice, exec_get_bind]
  rw [exec_ite]
  split
  case isFalse => exact hs
  case isTrue h =>
    exact vRelease_mirrored hs (Nat.lt_succ_of_le (h.1.trans (by decide))) Config.i2cDestroyed rfl

theorem entry_mirrored (hs : Mirrored s) (a : Action) :
    Mirrored (exec a.entry s) := by
  have hrecord : ∀ {m : Profile}, (exec a.entry s).record = m.record →
      m.targets = s.targets → Mirrored (exec a.entry s) := by
    intro m h hm
    simp only [Profile.record, Profile.control, Prod.mk.injEq] at h
    obtain ⟨⟨-, -, -, hconfig, -, -, haddress, henable, -⟩, -⟩ := h
    refine (hs.of_targets hm).of_targets ?_
    simp only [Profile.targets, hconfig, haddress, henable]
  have hcommand : ∀ n, a.commandedInstance = some n → Mirrored (exec a.entry s) := by
    intro n ha
    rcases command_effect (s := s) ha with ⟨-, h⟩ | ⟨-, h⟩
    · rwa [h]
    · exact hrecord h rfl
  cases a with
  | createSMBus a => exact ucCreateSMBusInstance_mirrored hs a
  | createI2C a => exact ucI2CCreateDevice_mirrored hs a
  | destroySMBus n => exact xDestroySMBusInstance_mirrored hs n
  | destroyI2C n => exact ucI2CDestroyDevice_mirrored hs n
  | initiate a => exact hcommand _ rfl
  | i2cWrite n addr data size => exact hcommand _ rfl
  | i2cRead n addr size => exact hcommand _ rfl
  | i2cWriteRead n addr data size readSize => exact hcommand _ rfl
  | targetInterrupts vector errors addr =>
    obtain ⟨active, h | ⟨-, h⟩⟩ := vTargetInterrupts_effect vector errors addr s
    · exact hrecord h rfl
    · exact hrecord (congrArg Profile.record h) rfl
  | controllerInterrupts vector errors =>
    rcases vControllerInterrupts_effect vector errors s with h | ⟨-, h⟩
    · exact hrecord h rfl
    · exact hrecord (congrArg Profile.record h) rfl
  | handle registers answer => exact hs

/-! ### Actions -/

/-- The configuration that an action opens the slot `i` with. -/
def Action.opens (s : Profile) (i : ℕ) : Action → Config → Prop
  | .createSMBus a, c => a.ok s ∧ c = a.config i
  | .createI2C a, c => a.ok s ∧ c = a.config i (s.xConfig i)
  | _, _ => False

/-- What an action does to the addresses. -/
inductive AddressEffect (s : Profile) : Action → Profile → Prop
  | kept {a : Action} {s' : Profile} (h : Flagged s s') : AddressEffect s a s'
  | opened {a : Action} {s' : Profile} (i : ℕ) (c : Config) (hi : i < NUM_NON_ARP_INSTANCES)
      (hfree : (s.xConfig i).ucInstanceInUse = false) (hopens : a.opens s i c)
      (hconfig : s'.xConfig = Function.update s.xConfig i c ∨
        (s.xConfig ARP_INSTANCE_ID).ucInstanceInUse = false ∧
          s'.xConfig = withArp (Function.update s.xConfig i c)) : AddressEffect s a s'
  | closed {a : Action} {s' : Profile} (ha : ∀ r w, a ≠ .handle r w)
      (hconfig : ∀ j, s'.xConfig j = s.xConfig j ∨
      (s'.xConfig j).ucInstanceInUse = false ∧ (s'.xConfig j).xARPCapability = .UNKNOWN) :
    AddressEffect s a s'
  | assigned {registers : List ℕ} {answer : Answer} {s' : Profile} (n : ℕ) (e : Event)
      (es : List Event) (hpending : s.pending = some n)
      (hqueue : s.xEventSrcCircularBuf n = e :: es) (hassigning : s.assigning n e)
      (h : s'.targets = (exec (vApplyAssignAddress n) (s.take n registers answer)).targets) :
    AddressEffect s (.handle registers answer) s'

variable {C : ℕ → Config}

theorem closed_release {m : Profile}
    (h : ∀ j, m.xConfig j = C j ∨
      (m.xConfig j).ucInstanceInUse = false ∧ (m.xConfig j).xARPCapability = .UNKNOWN)
    (n : ℕ) (left : Config → Config)
    (hleft : ∀ c, (left c).ucInstanceInUse = false ∧ (left c).xARPCapability = .UNKNOWN) :
    ∀ j, (exec (vRelease n left) m).xConfig j = C j ∨
      ((exec (vRelease n left) m).xConfig j).ucInstanceInUse = false ∧
        ((exec (vRelease n left) m).xConfig j).xARPCapability = .UNKNOWN := by
  intro j
  rw [(vRelease_effect n left m).2.1]
  rcases eq_or_ne j n with rfl | hj
  · rw [Function.update_self]
    exact .inr (hleft _)
  · rw [Function.update_of_ne hj]
    exact h j

/-- **Addresses and entry points.** -/
theorem entry_address (a : Action) : AddressEffect s a (exec a.entry s) := by
  have hrecord : ∀ {m : Profile}, (exec a.entry s).record = m.record → m.targets = s.targets →
      AddressEffect s a (exec a.entry s) := by
    intro m h hm
    simp only [Profile.record, Profile.control, Prod.mk.injEq] at h
    obtain ⟨⟨-, -, -, hconfig, -, -, haddress, henable, -⟩, -⟩ := h
    refine .kept (.of_targets (Eq.trans ?_ hm))
    simp only [Profile.targets, hconfig, haddress, henable]
  have hcommand : ∀ n, a.commandedInstance = some n → AddressEffect s a (exec a.entry s) := by
    intro n ha
    rcases command_effect (s := s) ha with ⟨-, h⟩ | ⟨-, h⟩
    · exact hrecord (congrArg Profile.record h) rfl
    · exact hrecord h rfl
  cases a with
  | createSMBus a =>
    change AddressEffect s _ (exec (ucCreateSMBusInstance a) s)
    by_cases h : a.ok s ∧ s.freeInstance.isSome = true
    · obtain ⟨hi, hfree⟩ := freeInstance_spec h.2
      refine .opened _ _ hi hfree ⟨h.1, rfl⟩ ?_
      rw [xConfig_createSMBus h]
      split
      case isTrue harp => exact .inr ⟨harp.1, rfl⟩
      case isFalse => exact .inl rfl
    · have hs : exec (ucCreateSMBusInstance a) s = s := by
        simp only [ucCreateSMBusInstance, exec_get_bind]
        rw [if_neg h, exec_pure]
      exact .kept (.of_targets (congrArg Profile.targets hs))
  | createI2C a =>
    change AddressEffect s _ (exec (ucI2CCreateDevice a) s)
    by_cases h : a.ok s ∧ s.freeInstance.isSome = true
    · obtain ⟨hi, hfree⟩ := freeInstance_spec h.2
      exact .opened _ _ hi hfree ⟨h.1, rfl⟩ (.inl (xConfig_createI2C h))
    · have hs : exec (ucI2CCreateDevice a) s = s := by
        simp only [ucI2CCreateDevice, exec_get_bind]
        rw [if_neg h, exec_pure]
      exact .kept (.of_targets (congrArg Profile.targets hs))
  | destroySMBus n =>
    change AddressEffect s _ (exec (xDestroySMBusInstance n) s)
    refine .closed (fun _ _ => by simp) ?_
    simp only [xDestroySMBusInstance, exec_get_bind]
    rw [exec_ite]
    split
    · have hfirst := closed_release (C := s.xConfig) (m := s) (fun _ => .inl rfl) n
        Config.destroyed fun _ => ⟨rfl, rfl⟩
      rw [exec_bind, exec_get_bind, exec_bind, exec_pure, exec_ite]
      split
      · exact hfirst
      · exact closed_release hfirst ARP_INSTANCE_ID Config.arpDestroyed fun _ => ⟨rfl, rfl⟩
    · exact fun _ => .inl rfl
  | destroyI2C n =>
    change AddressEffect s _ (exec (ucI2CDestroyDevice n) s)
    refine .closed (fun _ _ => by simp) ?_
    simp only [ucI2CDestroyDevice, exec_get_bind]
    rw [exec_ite]
    split
    · exact closed_release (C := s.xConfig) (m := s) (fun _ => .inl rfl) n Config.i2cDestroyed
        fun _ => ⟨rfl, rfl⟩
    · exact fun _ => .inl rfl
  | initiate a => exact hcommand _ rfl
  | i2cWrite n addr data size => exact hcommand _ rfl
  | i2cRead n addr size => exact hcommand _ rfl
  | i2cWriteRead n addr data size readSize => exact hcommand _ rfl
  | targetInterrupts vector errors addr =>
    obtain ⟨active, h | ⟨-, h⟩⟩ := vTargetInterrupts_effect vector errors addr s
    · exact hrecord h rfl
    · exact hrecord (congrArg Profile.record h) rfl
  | controllerInterrupts vector errors =>
    rcases vControllerInterrupts_effect vector errors s with h | ⟨-, h⟩
    · exact hrecord h rfl
    · exact hrecord (congrArg Profile.record h) rfl
  | handle registers answer => exact .kept (.of_targets rfl)

theorem handle_cases {registers : List ℕ} {answer : Answer}
    (h : step s (.handle registers answer) = some s') : ∃ n e es, s.pending = some n ∧
      s.xEventSrcCircularBuf n = e :: es ∧
      s' = exec (vSMBusFSM n e) (s.take n registers answer) := by
  simp only [step, vSMBusEventQueueHandle] at h
  split at h
  case isFalse => cases h
  case isTrue =>
    obtain ⟨n, hpending, h⟩ := Option.bind_eq_some_iff.mp h
    obtain ⟨e, he, rfl⟩ := Option.map_eq_some_iff.mp h
    obtain ⟨es, hes⟩ : ∃ es, s.xEventSrcCircularBuf n = e :: es :=
      List.head?_eq_some_iff.mp he
    exact ⟨n, e, es, hpending, hes, rfl⟩

variable {a : Action}

theorem step_cases (h : step s a = some s') :
    (∃ registers answer n e es, a = .handle registers answer ∧ s.pending = some n ∧
      s.xEventSrcCircularBuf n = e :: es ∧
      s' = exec (vSMBusFSM n e) (s.take n registers answer)) ∨
    s.idle ∧ s' = exec a.entry s.rest := by
  cases a with
  | handle registers answer =>
    obtain ⟨n, e, es, hpending, hqueue, hs'⟩ := handle_cases h
    exact .inl ⟨registers, answer, n, e, es, rfl, hpending, hqueue, hs'⟩
  | _ =>
    simp only [step] at h
    split at h
    · exact .inr ⟨‹_›, (Option.some.inj h).symm⟩
    · cases h

/-- **Addresses and actions.** Every action has one of these effects. -/
theorem address_effect (h : step s a = some s') :
    AddressEffect s a s' := by
  rcases step_cases h with ⟨registers, answer, n, e, es, rfl, hpending, hqueue, rfl⟩ | ⟨-, rfl⟩
  · have hfsm := vSMBusFSM_address (n := n) (e := e) (s := s.take n registers answer)
    by_cases hassigning : s.assigning n e
    · exact .assigned n e es hpending hqueue hassigning (hfsm.2 hassigning)
    · have htake : Flagged s (s.take n registers answer) := .of_targets rfl
      exact .kept (IsTrans.trans _ _ _ htake (hfsm.1 hassigning))
  · have hrest : Flagged s s.rest := .of_targets rfl
    cases entry_address (s := s.rest) a with
    | kept h => exact .kept (IsTrans.trans _ _ _ hrest h)
    | opened i c hi hfree hopens hconfig => exact .opened i c hi hfree hopens hconfig
    | closed ha hconfig => exact .closed ha hconfig
    | assigned n e es hpending hqueue hassigning h => exact .kept hrest

/-! ### Owners -/

/-- An address of the bus: seven bits, not the general call. -/
def IsAddress (ucAddr : ℕ) : Prop := 0 < ucAddr ∧ ucAddr < INVALID_ADDRESS_MASK

instance (ucAddr : ℕ) : Decidable (IsAddress ucAddr) := by unfold IsAddress; infer_instance

/-- Whether an instance in use other than `i` holds the address. -/
def Profile.heldByOther (s : Profile) (i ucAddr : ℕ) : Bool :=
  (List.range NUM_INSTANCES).any fun j =>
    j ≠ i ∧ (s.xConfig j).ucInstanceInUse = true ∧ (s.xConfig j).ucSMBusAddr = ucAddr

/-- An instance `i` may be given the address: it is not that of the ARP instance, and if it is one
of the bus, no other instance holds it. -/
def Profile.vacant (s : Profile) (i ucAddr : ℕ) : Prop :=
  ucAddr ≠ DEVICE_DEFAULT_ARP_ADDRESS ∧ (IsAddress ucAddr → s.heldByOther i ucAddr = false)

instance (s : Profile) (i ucAddr : ℕ) : Decidable (s.vacant i ucAddr) := by
  unfold Profile.vacant; infer_instance

/-- The choices that the driver leaves to others are free of conflicts: the application gives no
instance the address of the ARP instance and no ARP-capable one an address in use, and the ARP
controller assigns no address in use. -/
def Addressing (s : Profile) : Action → Prop
  | .createSMBus a =>
    a.ucSMBusAddr ≠ DEVICE_DEFAULT_ARP_ADDRESS ∧
      (a.xARPCapability = .ARP_CAPABLE → s.vacant INVALID_INSTANCE a.ucSMBusAddr)
  | .createI2C a => a.ucAddr ≠ DEVICE_DEFAULT_ARP_ADDRESS
  | .handle _ _ =>
    match s.pending with
    | none => True
    | some n =>
      match s.xEventSrcCircularBuf n with
      | [] => True
      | e :: _ =>
        s.assigning n e →
          (s.xConfig (s.xTransfer n).ucUDIDMatchedInstance).xARPCapability = .ARP_CAPABLE →
          s.vacant (s.xTransfer n).ucUDIDMatchedInstance (s.xTransfer n).ucNewDeviceSlaveAddr
  | _ => True

instance (s : Profile) (a : Action) : Decidable (Addressing s a) := by
  induction a using Action.casesOn <;> unfold Addressing <;> try infer_instance
  induction s.pending using Option.casesOn with
  | none => infer_instance
  | some n =>
    dsimp only
    induction s.xEventSrcCircularBuf n using List.casesOn <;> infer_instance

/-- A table of instances in which every address of the bus has one owner. -/
structure Owners (C : ℕ → Config) : Prop where
  range : ∀ n, (C n).ucInstanceInUse = true → n ≤ LAST_INSTANCE
  resolved : ∀ n, (C n).xARPCapability = .ARP_CAPABLE →
    (C n).ucInstanceInUse = true ∧ n ≠ ARP_INSTANCE_ID
  arp : ∀ n, (C n).ucInstanceInUse = true →
    ((C n).ucSMBusAddr = DEVICE_DEFAULT_ARP_ADDRESS ↔ n = ARP_INSTANCE_ID)
  unique : ∀ i j, (C i).ucInstanceInUse = true → (C j).ucInstanceInUse = true →
    (C i).ucSMBusAddr = (C j).ucSMBusAddr → IsAddress (C i).ucSMBusAddr → i = j

theorem start_owners : Owners Profile.start.xConfig where
  range := fun n h => by simp [Profile.start, Config.unused] at h
  resolved := fun n h => by simp [Profile.start, Config.unused] at h
  arp := fun n h => by simp [Profile.start, Config.unused] at h
  unique := fun i j h => by simp [Profile.start, Config.unused] at h

theorem Config.capability_of_identity {c c' : Config} (h : c'.identity = c.identity) :
    c'.xARPCapability = c.xARPCapability := by
  have hcapability : c'.identity.xARPCapability = c.identity.xARPCapability := by rw [h]
  exact hcapability

variable {C C' : ℕ → Config}

theorem Owners.kept (hC : Owners C)
    (hidentity : ∀ i, (C' i).identity = (C i).identity)
    (haddress : ∀ i, (C' i).ucSMBusAddr = (C i).ucSMBusAddr) : Owners C' := by
  have huse : ∀ n, (C' n).ucInstanceInUse = (C n).ucInstanceInUse := fun n =>
    Config.inUse_of_identity (hidentity n)
  have hcapability : ∀ n, (C' n).xARPCapability = (C n).xARPCapability := fun n =>
    Config.capability_of_identity (hidentity n)
  refine ⟨?_, ?_, ?_, ?_⟩
  · simpa only [huse] using hC.range
  · simpa only [huse, hcapability] using hC.resolved
  · simpa only [huse, haddress] using hC.arp
  · simpa only [huse, haddress] using hC.unique

theorem Owners.closed (hC : Owners C)
    (h : ∀ j, C' j = C j ∨ (C' j).ucInstanceInUse = false ∧ (C' j).xARPCapability = .UNKNOWN) :
    Owners C' := by
  have huse : ∀ j, (C' j).ucInstanceInUse = true → C' j = C j := fun j hj => by
    rcases h j with heq | ⟨hfree, -⟩
    · exact heq
    · rw [hfree] at hj
      cases hj
  refine ⟨fun n hn => hC.range n (huse n hn ▸ hn), fun n hn => ?_, fun n hn => ?_,
    fun i j hi hj => ?_⟩
  · rcases h n with heq | ⟨-, hunknown⟩
    · rw [heq] at hn ⊢
      exact hC.resolved n hn
    · rw [hunknown] at hn
      cases hn
  · have heq := huse n hn
    rw [heq] at hn ⊢
    exact hC.arp n hn
  · have hi' := huse i hi
    have hj' := huse j hj
    rw [hi'] at hi ⊢
    rw [hj'] at hj ⊢
    exact hC.unique i j hi hj

theorem Owners.given (hC : Owners C) {i : ℕ} {c : Config} (hi : i ≤ LAST_INSTANCE)
    (huse : c.ucInstanceInUse = true)
    (harp : c.ucSMBusAddr = DEVICE_DEFAULT_ARP_ADDRESS ↔ i = ARP_INSTANCE_ID)
    (hcapable : c.xARPCapability = .ARP_CAPABLE → i ≠ ARP_INSTANCE_ID)
    (hvacant : IsAddress c.ucSMBusAddr → ∀ j, j ≠ i → (C j).ucInstanceInUse = true →
      (C j).ucSMBusAddr ≠ c.ucSMBusAddr) : Owners (Function.update C i c) := by
  refine ⟨fun n hn => ?_, fun n hn => ?_, fun n hn => ?_, fun j k hj hk heq haddr => ?_⟩
  · rcases eq_or_ne n i with rfl | hne
    · exact hi
    · rw [Function.update_of_ne hne] at hn
      exact hC.range n hn
  · rcases eq_or_ne n i with rfl | hne
    · rw [Function.update_self] at hn ⊢
      exact ⟨huse, hcapable hn⟩
    · rw [Function.update_of_ne hne] at hn ⊢
      exact hC.resolved n hn
  · rcases eq_or_ne n i with rfl | hne
    · rwa [Function.update_self]
    · rw [Function.update_of_ne hne] at hn ⊢
      exact hC.arp n hn
  · by_cases hji : j = i
    · by_cases hki : k = i
      · rw [hji, hki]
      · rw [hji, Function.update_self] at heq haddr
        rw [Function.update_of_ne hki] at heq hk
        exact absurd heq.symm (hvacant haddr k hki hk)
    · rw [Function.update_of_ne hji] at heq haddr hj
      by_cases hki : k = i
      · rw [hki, Function.update_self] at heq
        exact absurd heq (hvacant (heq ▸ haddr) j hji hj)
      · rw [Function.update_of_ne hki] at heq hk
        exact hC.unique j k hj hk heq haddr

theorem vacant_spec (hC : Owners s.xConfig) {i ucAddr : ℕ}
    (h : s.heldByOther i ucAddr = false) :
    ∀ j, j ≠ i → (s.xConfig j).ucInstanceInUse = true → (s.xConfig j).ucSMBusAddr ≠ ucAddr := by
  intro j hj huse heq
  have hall := List.any_eq_false.mp h j (List.mem_range.mpr (Nat.lt_succ_of_le (hC.range j huse)))
  simp [hj, huse, heq] at hall

theorem addressUsed_spec (hC : Owners s.xConfig) {ucAddr : ℕ}
    (hne : ucAddr ≠ DEVICE_DEFAULT_ARP_ADDRESS) (h : s.addressUsed ucAddr = false) :
    ∀ j, (s.xConfig j).ucInstanceInUse = true → (s.xConfig j).ucSMBusAddr ≠ ucAddr := by
  intro j huse heq
  have hj : j ≠ ARP_INSTANCE_ID := fun hj => hne (heq ▸ (hC.arp j huse).mpr hj)
  have hlt : j < NUM_NON_ARP_INSTANCES :=
    Nat.lt_of_le_of_ne (hC.range j huse) hj
  have hall := List.any_eq_false.mp h j (List.mem_range.mpr hlt)
  simp [huse, heq] at hall

theorem Owners.opened (hC : Owners s.xConfig) (hok : Addressing s a)
    {i : ℕ} {c : Config} (hi : i < NUM_NON_ARP_INSTANCES) (hopens : a.opens s i c) :
    Owners (Function.update s.xConfig i c) := by
  have hne : i ≠ ARP_INSTANCE_ID := Nat.ne_of_lt hi
  have hlast : i ≤ LAST_INSTANCE := hi.le
  cases a with
  | createSMBus a =>
    obtain ⟨hchecks, rfl⟩ := hopens
    refine hC.given hlast rfl ⟨fun h => absurd h hok.1, fun h => absurd h hne⟩ (fun _ => hne)
      fun haddr j _ huse => ?_
    by_cases hcapable : a.xARPCapability = .ARP_CAPABLE
    · have hj : j ≠ INVALID_INSTANCE := fun hj => by
        have hrange := hC.range j huse
        rw [hj] at hrange
        exact absurd hrange (by decide)
      exact vacant_spec hC ((hok.2 hcapable).2 haddr) j hj huse
    · exact addressUsed_spec hC hok.1 (hchecks.2.2.2.2 hcapable) j huse
  | createI2C a =>
    obtain ⟨hchecks, rfl⟩ := hopens
    exact hC.given hlast rfl ⟨fun h => absurd h hok, fun h => absurd h hne⟩ (fun _ => hne)
      fun _ j _ huse => addressUsed_spec hC hok hchecks.2.2 j huse
  | _ => exact hopens.elim

theorem Owners.withArp (hC : Owners C)
    (hfree : (C ARP_INSTANCE_ID).ucInstanceInUse = false) : Owners (withArp C) := by
  refine hC.given (le_refl _) rfl ⟨fun _ => rfl, fun _ => rfl⟩ (fun hcapable => ?_)
    fun _ j hj huse heq => hj ((hC.arp j huse).mp heq)
  have huse := (hC.resolved _ hcapable).1
  rw [hfree] at huse
  cases huse

theorem Config.assign_identity (c : Config) (ucAddr : ℕ) :
    (c.assign ucAddr).identity = c.identity := by
  unfold Config.assign
  split_ifs <;> rfl

theorem Config.assign_address {c : Config} (ucAddr : ℕ) (h : c.xARPCapability ≠ .ARP_CAPABLE) :
    (c.assign ucAddr).ucSMBusAddr = c.ucSMBusAddr := by
  unfold Config.assign
  rw [if_neg h]
  split_ifs <;> rfl

theorem Owners.assigned (hC : Owners C) {i ucAddr : ℕ}
    (hvacant : (C i).xARPCapability = .ARP_CAPABLE → ucAddr ≠ DEVICE_DEFAULT_ARP_ADDRESS ∧
      (IsAddress ucAddr → ∀ j, j ≠ i → (C j).ucInstanceInUse = true →
        (C j).ucSMBusAddr ≠ ucAddr)) : Owners (Function.update C i ((C i).assign ucAddr)) := by
  by_cases hcapable : (C i).xARPCapability = .ARP_CAPABLE
  · obtain ⟨huse, hne⟩ := hC.resolved i hcapable
    have hassign : ((C i).assign ucAddr).ucSMBusAddr = ucAddr := by
      rw [Config.assign, if_pos hcapable]
    have huse' := Config.inUse_of_identity ((C i).assign_identity ucAddr)
    refine hC.given (hC.range i huse) (huse'.trans huse)
      ⟨fun h => absurd (hassign ▸ h) (hvacant hcapable).1, fun h => absurd h hne⟩ (fun _ => hne) ?_
    rw [hassign]
    exact (hvacant hcapable).2
  · refine hC.kept (fun j => ?_) fun j => ?_
    · rcases eq_or_ne j i with rfl | hj
      · rw [Function.update_self, Config.assign_identity]
      · rw [Function.update_of_ne hj]
    · rcases eq_or_ne j i with rfl | hj
      · rw [Function.update_self, Config.assign_address _ hcapable]
      · rw [Function.update_of_ne hj]

theorem Mirrored.assigned (hs : Mirrored s) (hC : Owners s.xConfig) (n : ℕ)
    (h : s'.targets = (exec (vApplyAssignAddress n) s).targets) : Mirrored s' := by
  rw [vApplyAssignAddress_effect] at h
  generalize (s.xTransfer n).ucUDIDMatchedInstance = i at h
  generalize (s.xTransfer n).ucNewDeviceSlaveAddr = ucAddr at h
  have huse := Config.inUse_of_identity ((s.xConfig i).assign_identity ucAddr)
  by_cases hcapable : (s.xConfig i).xARPCapability = .ARP_CAPABLE
  · obtain ⟨hin, -⟩ := hC.resolved i hcapable
    have hlt : i < NUM_INSTANCES := Nat.lt_succ_of_le (hC.range i hin)
    rw [if_pos ⟨hcapable, hlt⟩] at h
    simp only [Profile.targets, Prod.mk.injEq] at h
    obtain ⟨hconfig, haddress, henable⟩ := h
    have hassign : ((s.xConfig i).assign ucAddr).ucSMBusAddr = ucAddr := by
      rw [Config.assign, if_pos hcapable]
    refine hs.configured i _ hconfig (by rw [hassign, haddress]) (fun j hj => ?_) fun _ =>
      huse.trans hin
    rw [henable, Function.update_of_ne hj]
  · rw [if_neg fun h => hcapable h.1] at h
    simp only [Profile.targets, Prod.mk.injEq] at h
    obtain ⟨hconfig, haddress, henable⟩ := h
    refine hs.flagged ⟨fun j => ?_, fun j => ?_, haddress, fun j hj => by rwa [henable] at hj⟩
    · rcases eq_or_ne j i with rfl | hj
      · rw [hconfig, Function.update_self, Config.assign_identity]
      · rw [hconfig, Function.update_of_ne hj]
    · rcases eq_or_ne j i with rfl | hj
      · rw [hconfig, Function.update_self, Config.assign_address _ hcapable]
      · rw [hconfig, Function.update_of_ne hj]

/-- **Step.** The owners stay unique, and the enabled targets answer for them. -/
theorem owners_step (hs : Owners s.xConfig ∧ Mirrored s)
    (hok : Addressing s a) (h : step s a = some s') : Owners s'.xConfig ∧ Mirrored s' := by
  obtain ⟨hC, hm⟩ := hs
  have hentry : (∀ r w, a ≠ .handle r w) → Mirrored s' := fun hne => by
    rcases step_cases h with ⟨r, w, -, -, -, ha, -⟩ | ⟨-, rfl⟩
    · exact absurd ha (hne r w)
    · have hrest : Mirrored s.rest := hm.of_targets rfl
      exact entry_mirrored hrest a
  cases address_effect h with
  | kept hflagged => exact ⟨hC.kept hflagged.identity hflagged.address, hm.flagged hflagged⟩
  | opened i c hi hfree hopens hconfig =>
    refine ⟨?_, hentry fun r w ha => ?_⟩
    · have hopened := hC.opened hok hi hopens
      rcases hconfig with hconfig | ⟨harp, hconfig⟩
      · rwa [hconfig]
      · rw [hconfig]
        refine hopened.withArp ?_
        rwa [Function.update_of_ne (show ARP_INSTANCE_ID ≠ i from Nat.ne_of_gt hi)]
    · rw [ha] at hopens
      exact hopens
  | closed ha hconfig => exact ⟨hC.closed hconfig, hentry ha⟩
  | @assigned registers answer _ n e es hpending hqueue hassigning htargets =>
    have htake : Mirrored (s.take n registers answer) := hm.of_targets rfl
    refine ⟨?_, htake.assigned hC n htargets⟩
    rw [vApplyAssignAddress_effect] at htargets
    rw [show s'.xConfig = _ from congrArg Prod.fst htargets]
    simp only [Addressing, hpending, hqueue] at hok
    refine hC.assigned fun hcapable => ?_
    obtain ⟨hne, hvacant⟩ := hok hassigning hcapable
    exact ⟨hne, fun haddr => vacant_spec hC (hvacant haddr)⟩

/-! ### Fixed addresses -/

/-- The instances whose address is fixed hold different ones. -/
structure FixedOwners (C : ℕ → Config) : Prop where
  range : ∀ n, (C n).ucInstanceInUse = true → n ≤ LAST_INSTANCE
  fixed : ∀ i j, i ≠ ARP_INSTANCE_ID → j ≠ ARP_INSTANCE_ID → (C i).ucInstanceInUse = true →
    (C j).ucInstanceInUse = true → (C i).xARPCapability ≠ .ARP_CAPABLE →
    (C j).xARPCapability ≠ .ARP_CAPABLE → (C i).ucSMBusAddr = (C j).ucSMBusAddr → i = j

theorem FixedOwners.of_fields (hC : FixedOwners C)
    (huse : ∀ n, (C' n).ucInstanceInUse = true → (C n).ucInstanceInUse = true)
    (hfixed : ∀ n, n ≠ ARP_INSTANCE_ID → (C' n).ucInstanceInUse = true →
      (C' n).xARPCapability ≠ .ARP_CAPABLE →
      (C n).xARPCapability ≠ .ARP_CAPABLE ∧ (C' n).ucSMBusAddr = (C n).ucSMBusAddr) :
    FixedOwners C' := by
  refine ⟨fun n hn => hC.range n (huse n hn), fun i j hi hj hui huj hci hcj heq => ?_⟩
  obtain ⟨hci', hai⟩ := hfixed i hi hui hci
  obtain ⟨hcj', haj⟩ := hfixed j hj huj hcj
  exact hC.fixed i j hi hj (huse i hui) (huse j huj) hci' hcj' (by rw [← hai, ← haj, heq])

theorem FixedOwners.withArp (hC : FixedOwners C) : FixedOwners (withArp C) := by
  refine ⟨fun n hn => ?_, fun i j hi hj => ?_⟩
  · rcases eq_or_ne n ARP_INSTANCE_ID with rfl | hne
    · exact le_refl _
    · rw [Smbus.withArp, Function.update_of_ne hne] at hn
      exact hC.range n hn
  · rw [Smbus.withArp, Function.update_of_ne hi, Function.update_of_ne hj]
    exact hC.fixed i j hi hj

theorem FixedOwners.opened (hC : FixedOwners s.xConfig) {i : ℕ}
    {c : Config} (hi : i < NUM_NON_ARP_INSTANCES) (hopens : a.opens s i c) :
    FixedOwners (Function.update s.xConfig i c) := by
  have hchecked : c.xARPCapability ≠ .ARP_CAPABLE → s.addressUsed c.ucSMBusAddr = false := by
    cases a with
    | createSMBus a =>
      obtain ⟨hchecks, rfl⟩ := hopens
      exact hchecks.2.2.2.2
    | createI2C a =>
      obtain ⟨hchecks, rfl⟩ := hopens
      exact fun _ => hchecks.2.2
    | _ => exact hopens.elim
  have hfree : ∀ j, j ≠ ARP_INSTANCE_ID → (s.xConfig j).ucInstanceInUse = true →
      c.xARPCapability ≠ .ARP_CAPABLE → (s.xConfig j).ucSMBusAddr ≠ c.ucSMBusAddr := by
    intro j hj huse hcapable heq
    have hlt : j < NUM_NON_ARP_INSTANCES := Nat.lt_of_le_of_ne (hC.range j huse) hj
    have hall := List.any_eq_false.mp (hchecked hcapable) j (List.mem_range.mpr hlt)
    simp [huse, heq] at hall
  refine ⟨fun n hn => ?_, fun j k hj hk huj huk hcj hck heq => ?_⟩
  · rcases eq_or_ne n i with rfl | hne
    · exact hi.le
    · rw [Function.update_of_ne hne] at hn
      exact hC.range n hn
  · by_cases hji : j = i
    · by_cases hki : k = i
      · rw [hji, hki]
      · rw [hji, Function.update_self] at heq hcj
        rw [Function.update_of_ne hki] at heq huk
        exact absurd heq.symm (hfree k hk huk hcj)
    · rw [Function.update_of_ne hji] at heq hcj huj
      by_cases hki : k = i
      · rw [hki, Function.update_self] at heq hck
        exact absurd heq (hfree j hj huj hck)
      · rw [Function.update_of_ne hki] at heq huk hck
        exact hC.fixed j k hj hk huj huk hcj hck heq

theorem FixedOwners.assigned (hC : FixedOwners C) (i ucAddr : ℕ) :
    FixedOwners (Function.update C i ((C i).assign ucAddr)) := by
  refine hC.of_fields (fun j hj => ?_) fun j _ _ hcapable => ?_
  · rcases eq_or_ne j i with rfl | hne
    · rwa [Function.update_self, Config.inUse_of_identity (Config.assign_identity _ _)] at hj
    · rwa [Function.update_of_ne hne] at hj
  · rcases eq_or_ne j i with rfl | hne
    · rw [Function.update_self,
        Config.capability_of_identity (Config.assign_identity _ _)] at hcapable
      rw [Function.update_self]
      exact ⟨hcapable, Config.assign_address _ hcapable⟩
    · rw [Function.update_of_ne hne] at hcapable ⊢
      exact ⟨hcapable, rfl⟩

theorem fixedOwners_step (hC : FixedOwners s.xConfig)
    (h : step s a = some s') : FixedOwners s'.xConfig := by
  cases address_effect h with
  | kept hflagged =>
    refine hC.of_fields (fun n hn => ?_) fun n _ _ hcapable => ⟨?_, hflagged.address n⟩
    · rwa [Config.inUse_of_identity (hflagged.identity n)] at hn
    · rwa [Config.capability_of_identity (hflagged.identity n)] at hcapable
  | opened i c hi hfree hopens hconfig =>
    rcases hconfig with hconfig | ⟨-, hconfig⟩
    · rw [hconfig]
      exact hC.opened hi hopens
    · rw [hconfig]
      exact (hC.opened hi hopens).withArp
  | closed ha hconfig =>
    have huse : ∀ n, (s'.xConfig n).ucInstanceInUse = true → s'.xConfig n = s.xConfig n :=
      fun n hn => (hconfig n).resolve_right fun h => by
        rw [h.1] at hn
        cases hn
    refine hC.of_fields (fun n hn => huse n hn ▸ hn) fun n _ hn hcapable => ?_
    rw [huse n hn] at hcapable ⊢
    exact ⟨hcapable, rfl⟩
  | @assigned registers answer _ n e es hpending hqueue hassigning htargets =>
    rw [vApplyAssignAddress_effect] at htargets
    rw [show s'.xConfig = _ from congrArg Prod.fst htargets]
    exact @FixedOwners.assigned s.xConfig hC _ _

/-! ### Addresses over runs -/

theorem instanceFromTargetAddress_owner (hC : Owners s.xConfig) {n : ℕ}
    (huse : (s.xConfig n).ucInstanceInUse = true) (haddr : IsAddress (s.xConfig n).ucSMBusAddr) :
    s.instanceFromTargetAddress (s.xConfig n).ucSMBusAddr = n := by
  have hn : n ∈ List.range NUM_INSTANCES :=
    List.mem_range.mpr (Nat.lt_succ_of_le (hC.range n huse))
  obtain ⟨i, hi⟩ : ∃ i, (List.range NUM_INSTANCES).find? (fun i =>
      (s.xConfig i).ucInstanceInUse = true ∧
        (s.xConfig i).ucSMBusAddr = (s.xConfig n).ucSMBusAddr) = some i :=
    Option.isSome_iff_exists.mp (List.find?_isSome.mpr ⟨n, hn, by simp [huse]⟩)
  have hfound := List.find?_some hi
  simp only [decide_eq_true_eq] at hfound
  rw [Profile.instanceFromTargetAddress, hi, Option.getD_some]
  exact hC.unique i n hfound.1 huse hfound.2 (hfound.2 ▸ haddr)

/-- **Addresses and their owners.** In every run, no two instances with a fixed address hold the
same one. In a run in which no address in use is chosen for an ARP-capable instance, and that of
the ARP instance for none, an address of the bus has one owner, and the enabled target with the
address belongs to the instance that the scan finds. -/
theorem address_ownership {s : Profile} :
    (Reaches step always .start s → ∀ i j, i ≠ j → i ≠ ARP_INSTANCE_ID → j ≠ ARP_INSTANCE_ID →
      (s.xConfig i).ucInstanceInUse = true → (s.xConfig j).ucInstanceInUse = true →
      (s.xConfig i).xARPCapability ≠ .ARP_CAPABLE → (s.xConfig j).xARPCapability ≠ .ARP_CAPABLE →
      (s.xConfig i).ucSMBusAddr ≠ (s.xConfig j).ucSMBusAddr) ∧
    (Reaches step Addressing .start s →
      (∀ i j, i ≠ j → (s.xConfig i).ucInstanceInUse = true →
        (s.xConfig j).ucInstanceInUse = true → IsAddress (s.xConfig i).ucSMBusAddr →
        (s.xConfig i).ucSMBusAddr ≠ (s.xConfig j).ucSMBusAddr) ∧
      ∀ n, s.tgtControlEnable n = 1 → IsAddress (s.xConfig n).ucSMBusAddr →
        (s.xConfig n).ucInstanceInUse = true ∧
        s.tgtControlAddress n = (s.xConfig n).ucSMBusAddr ∧
        s.instanceFromTargetAddress (s.tgtControlAddress n) = n) := by
  refine ⟨fun hs i j hne hi hj hui huj hci hcj heq => ?_, fun hs => ?_⟩
  · have hfixed : FixedOwners s.xConfig :=
      hs.invariant (fun s => FixedOwners s.xConfig)
        ⟨start_owners.range, fun i j _ _ hi => by simp [Profile.start, Config.unused] at hi⟩
        fun _ _ _ hC _ h => fixedOwners_step hC h
    exact hne (hfixed.fixed i j hi hj hui huj hci hcj heq)
  · obtain ⟨hC, hm⟩ : Owners s.xConfig ∧ Mirrored s :=
      hs.invariant (fun s => Owners s.xConfig ∧ Mirrored s)
        ⟨start_owners, fun n hn => by simp [Profile.start] at hn⟩
        fun _ _ _ h hok hstep => owners_step h hok hstep
    refine ⟨fun i j hne hi hj haddr heq => hne (hC.unique i j hi hj heq haddr),
      fun n hn haddr => ?_⟩
    obtain ⟨huse, haddress⟩ := hm n hn
    have hmod : (s.xConfig n).ucSMBusAddr % 2 ^ 7 = (s.xConfig n).ucSMBusAddr :=
      Nat.mod_eq_of_lt haddr.2
    rw [hmod] at haddress
    refine ⟨huse, haddress, ?_⟩
    rw [haddress]
    exact instanceFromTargetAddress_owner hC huse haddr

/-- An ARP-capable device whose address is dynamic and persistent. -/
def arpDevice (addr : ℕ) : CreateSMBus :=
  { ucSMBusAddr := addr
    ucUDID := fun k => if k = UDID_DEVICE_CAPABILITIES_BYTE then UDID_DYNAMIC_AND_PERSISTENT else k
    xARPCapability := .ARP_CAPABLE
    pFnGetProtocol := true
    pFnGetData := true
    pFnWriteData := true
    pFnAnnounceResult := true
    pFnArpAddrChange := true
    pFnBusError := true
    pFnBusWarning := true
    ucSimpleDevice := false }

theorem address_ownership_devices : ∃ s : Profile, s.tgtControlEnable 0 = 1 ∧
    (s.xConfig 0).ucSMBusAddr ≠ (s.xConfig 1).ucSMBusAddr ∧
    s.instanceFromTargetAddress (s.tgtControlAddress 0) = 0 := by
  have h : (run (guarded step Addressing) .start [.createI2C (i2cDevice 0x20),
      .createSMBus (arpDevice 0x21)]).any (fun s => decide (s.tgtControlEnable 0 = 1 ∧
        (s.xConfig 0).ucSMBusAddr = 0x20 ∧ (s.xConfig 0).ucInstanceInUse = true ∧
        (s.xConfig 1).ucInstanceInUse = true)) = true := by decide +kernel
  obtain ⟨s, hrun, hs⟩ := (Option.any_eq_true _ _).mp h
  obtain ⟨hon, haddr, huse, huse'⟩ := of_decide_eq_true hs
  have hbus : IsAddress (s.xConfig 0).ucSMBusAddr := by rw [haddr]; decide
  obtain ⟨hunique, hfound⟩ := address_ownership.2 (.of_guarded_run _ .start hrun)
  exact ⟨s, hon, hunique 0 1 (by decide) huse huse' hbus, (hfound 0 hon hbus).2.2⟩

/-- Two ARP-capable devices are created with one address. -/
theorem not_address_uniqueness : ¬ ∀ s : Profile, Reaches step always .start s → ∀ i j, i ≠ j →
    (s.xConfig i).ucInstanceInUse = true → (s.xConfig j).ucInstanceInUse = true →
    (s.xConfig i).ucSMBusAddr ≠ (s.xConfig j).ucSMBusAddr := by
  intro hall
  have h : (run step .start [.createSMBus (arpDevice 0x20), .createSMBus (arpDevice 0x20)]).any
      (fun s => decide ((s.xConfig 0).ucInstanceInUse = true ∧
        (s.xConfig 1).ucInstanceInUse = true ∧
        (s.xConfig 0).ucSMBusAddr = (s.xConfig 1).ucSMBusAddr)) = true := by decide +kernel
  obtain ⟨s, hrun, hs⟩ := (Option.any_eq_true _ _).mp h
  obtain ⟨huse, huse', heq⟩ := of_decide_eq_true hs
  exact hall s (.of_run hrun) 0 1 (by decide) huse huse' heq

end Amr.Smbus
