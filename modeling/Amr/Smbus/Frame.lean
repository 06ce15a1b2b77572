/-
# What the parts of the driver leave alone

`control` is what the dispatch of events, the ownership of the bus and the addresses depend on.
Reading registers, writing descriptors, moving bytes and calling the application keep all of it
(`Data`), and so does every function built from these alone. What changes it are the state, the
event queue, the reset and the announced results. A handler that does not end its transfer is
within `Steer`: it moves its own instance to one of the states listed, appends events of the kinds
listed to its own queue, and announces results of its own instance only. A handler that may end its
transfer is within `Exit`: after such steps it may reset the instance and hand the bus back. Both
are read off the syntax of the handlers.
-/
import Amr.Smbus.Driver

namespace Amr.Smbus

open StateProgram

-- A handler is one long term, and an instance problem of its size.
set_option synthInstance.maxSize 20000
set_option synthInstance.maxHeartbeats 200000

theorem exec_transfer_bind {β : Type} (n : ℕ) (f : Transfer → Routine β) (s : Profile) :
    exec (transfer n >>= f) s = exec (f (s.xTransfer n)) s := rfl

theorem exec_config_bind {β : Type} (n : ℕ) (f : Config → Routine β) (s : Profile) :
    exec (config n >>= f) s = exec (f (s.xConfig n)) s := rfl

theorem inc16_eq {k : ℕ} (h : k ≤ DATA_SIZE_MAX) : inc16 k = k + 1 := by
  have hmax : DATA_SIZE_MAX = 256 := rfl
  unfold inc16
  omega

/-! ### Descriptors -/

/-- The descriptor FIFO is full at the next read of its status. -/
def Profile.full (s : Profile) : Prop := s.registers.headD 0 % 2 = 1

instance (s : Profile) : Decidable s.full := by unfold Profile.full; infer_instance

section Descriptor

variable {s : Profile} (w : RegisterWrite)

theorem targetDescriptorApply_full (h : s.full) :
    (prvucSMBusTargetDescriptorApply w false).run s =
      (false, { s with registers := s.registers.tail }) := by
  have hd : decide (s.registers.headD 0 % 2 = 1) = true := decide_eq_true h
  have hrun : (prvucSMBusTargetDescriptorApply w false).run s =
      (if decide (s.registers.headD 0 % 2 = 1) = true then pure false
      else do
        write w
        pure true : Routine Bool).run { s with registers := s.registers.tail } := rfl
  rw [hrun, if_pos hd]
  rfl

theorem targetDescriptorApply_room (h : ¬ s.full) :
    (prvucSMBusTargetDescriptorApply w false).run s =
      (true, { s with registers := s.registers.tail, written := s.written ++ [w] }) := by
  have hd : ¬ decide (s.registers.headD 0 % 2 = 1) = true := by simpa [Profile.full] using h
  have hrun : (prvucSMBusTargetDescriptorApply w false).run s =
      (if decide (s.registers.headD 0 % 2 = 1) = true then pure false
      else do
        write w
        pure true : Routine Bool).run { s with registers := s.registers.tail } := rfl
  rw [hrun, if_neg hd]
  rfl

theorem controllerDescriptorApply_eq (b : Bool) :
    prvucSMBusControllerDescriptorApply w b = prvucSMBusTargetDescriptorApply w b := rfl

variable {β : Type} (f : Bool → Routine β)

theorem exec_controllerDescriptor_full (h : s.full) :
    exec (prvucSMBusControllerDescriptorApply w false >>= f) s =
      exec (f false) { s with registers := s.registers.tail } := by
  have hrun := targetDescriptorApply_full w h
  rw [controllerDescriptorApply_eq, exec, run_bind, value, exec, hrun]
  rfl

theorem exec_controllerDescriptor_room (h : ¬ s.full) :
    exec (prvucSMBusControllerDescriptorApply w false >>= f) s =
      exec (f true) { s with registers := s.registers.tail, written := s.written ++ [w] } := by
  have hrun := targetDescriptorApply_room w h
  rw [controllerDescriptorApply_eq, exec, run_bind, value, exec, hrun]
  rfl

end Descriptor

/-! ### Data operations

A routine is within every relation that its primitive operations are within. The routines are
sorted by the primitives they use: all of them read registers, write registers and call the
application (`Ambient`), some also write fields of the transfer other than its protocol, indices
and sizes (`Quiet`), or all fields but the protocol (`Plain`), or the protocol as well (`Free`). -/

/-- The fields of a transfer that its course depends on. -/
def Transfer.cursor (t : Transfer) :=
  (t.xProtocol, t.usSendDataSize, t.usSendIndex, t.usReceiveIndex, t.usExpectedByteCount)

/-- A relation that contains reading and writing registers, calling the application and striking
off candidates. -/
class Ambient (R : Profile → Profile → Prop) : Prop extends Std.Refl R, IsTrans Profile R where
  reads : ∀ fallback, Within R (register fallback)
  writes : ∀ w, Within R (write w)
  calls : ∀ c, Within R (call c)
  notes : ∀ b, Within R (noteReceived b)
  strikes : ∀ f, Within R (setUDIDMatch f)

/-- A relation that contains writing to the fields of a transfer off its cursor. -/
class Quiet (n : ℕ) (R : Profile → Profile → Prop) : Prop where
  offCursor : ∀ f : Transfer → Transfer, (∀ t, (f t).cursor = t.cursor) →
    Within R (setTransfer n f)

/-- A relation that contains writing to the fields of a transfer but its protocol. -/
class Plain (n : ℕ) (R : Profile → Profile → Prop) : Prop extends Quiet n R where
  onCursor : ∀ f : Transfer → Transfer, (∀ t, (f t).xProtocol = t.xProtocol) →
    Within R (setTransfer n f)

/-- A relation that contains writing to a transfer. -/
class Free (n : ℕ) (R : Profile → Profile → Prop) : Prop extends Plain n R where
  any : ∀ f, Within R (setTransfer n f)

/-- A relation that contains accesses outside an array. -/
class Faulting (R : Profile → Profile → Prop) : Prop where
  faults : ∀ f, Within R (fault f)

attribute [instance] Ambient.reads Ambient.writes Ambient.calls Ambient.notes Ambient.strikes
  Free.any Faulting.faults

section Ambient

variable (n : ℕ) {R : Profile → Profile → Prop} [Ambient R]

instance : Within R (transfer n) := by unfold transfer; infer_instance

instance : Within R (config n) := by unfold config; infer_instance

instance : Within R ulSMBusHWReadTgtRxFifoPayload := by
  unfold ulSMBusHWReadTgtRxFifoPayload; infer_instance

instance : Within R ulSMBusHWReadTgtRxFifoStatusEmpty := by
  unfold ulSMBusHWReadTgtRxFifoStatusEmpty; infer_instance

instance : Within R ulSMBusHWReadTgtRxFifoStatusFillLevel := by
  unfold ulSMBusHWReadTgtRxFifoStatusFillLevel; infer_instance

instance : Within R ulSMBusHWReadTgtDescStatusFillLevel := by
  unfold ulSMBusHWReadTgtDescStatusFillLevel; infer_instance

instance : Within R ulSMBusHWReadTgtDescStatusFull := by
  unfold ulSMBusHWReadTgtDescStatusFull; infer_instance

instance : Within R ulSMBusHWReadCtrlRxFifoPayload := by
  unfold ulSMBusHWReadCtrlRxFifoPayload; infer_instance

instance : Within R ulSMBusHWReadCtrlRxFifoStatusEmpty := by
  unfold ulSMBusHWReadCtrlRxFifoStatusEmpty; infer_instance

instance : Within R ulSMBusHWReadCtrlDescStatusFillLevel := by
  unfold ulSMBusHWReadCtrlDescStatusFillLevel; infer_instance

instance : Within R ulSMBusHWReadCtrlDescStatusFull := by
  unfold ulSMBusHWReadCtrlDescStatusFull; infer_instance

instance (w : RegisterWrite) (b : Bool) : Within R (prvucSMBusTargetDescriptorApply w b) := by
  unfold prvucSMBusTargetDescriptorApply; infer_instance

instance (w : RegisterWrite) (b : Bool) :
    Within R (prvucSMBusControllerDescriptorApply w b) := by
  unfold prvucSMBusControllerDescriptorApply; infer_instance

instance (d : ℕ) : Within R (ucSMBusTargetReadDescriptorRead d) := by
  unfold ucSMBusTargetReadDescriptorRead; infer_instance

instance : Within R ucSMBusTargetReadDescriptorPECRead := by
  unfold ucSMBusTargetReadDescriptorPECRead; infer_instance

instance (b : Bool) : Within R (ucSMBusTargetWriteDescriptorACK b) := by
  unfold ucSMBusTargetWriteDescriptorACK; infer_instance

instance : Within R ucSMBusTargetWriteDescriptorNACK := by
  unfold ucSMBusTargetWriteDescriptorNACK; infer_instance

instance : Within R ucSMBusTargetWriteDescriptorPEC := by
  unfold ucSMBusTargetWriteDescriptorPEC; infer_instance

instance (d : ℕ) : Within R (ucSMBusControllerWriteDescriptorStartWrite d) := by
  unfold ucSMBusControllerWriteDescriptorStartWrite; infer_instance

instance (d : ℕ) : Within R (ucSMBusControllerWriteDescriptorQuickWrite d) := by
  unfold ucSMBusControllerWriteDescriptorQuickWrite; infer_instance

instance (d : ℕ) (b : Bool) : Within R (ucSMBusControllerWriteDescriptorByte d b) := by
  unfold ucSMBusControllerWriteDescriptorByte; infer_instance

instance (d : ℕ) : Within R (ucSMBusControllerWriteDescriptorStopWrite d) := by
  unfold ucSMBusControllerWriteDescriptorStopWrite; infer_instance

instance : Within R ucSMBusControllerWriteDescriptorPECWrite := by
  unfold ucSMBusControllerWriteDescriptorPECWrite; infer_instance

instance (d : ℕ) : Within R (ucSMBusControllerReadDescriptorStart d) := by
  unfold ucSMBusControllerReadDescriptorStart; infer_instance

instance (d : ℕ) : Within R (ucSMBusControllerReadDescriptorQuickRead d) := by
  unfold ucSMBusControllerReadDescriptorQuickRead; infer_instance

instance (b : Bool) : Within R (ucSMBusControllerReadDescriptorByte b) := by
  unfold ucSMBusControllerReadDescriptorByte; infer_instance

instance : Within R ucSMBusControllerReadDescriptorStop := by
  unfold ucSMBusControllerReadDescriptorStop; infer_instance

instance : Within R ucSMBusControllerReadDescriptorPEC := by
  unfold ucSMBusControllerReadDescriptorPEC; infer_instance

instance (isEmpty : Routine Bool) (body : Routine Unit) [Within R isEmpty] [Within R body] :
    Within R (whileNotEmpty isEmpty body) := by
  unfold whileNotEmpty; infer_instance

instance : Within R (vSMBusHandleActionNotifyAddressChangeToApplication n) := by
  unfold vSMBusHandleActionNotifyAddressChangeToApplication; infer_instance

instance (e : Event) : Within R (vSMBusHandleActionBusError n e) := by
  unfold vSMBusHandleActionBusError; infer_instance

instance (e : Event) : Within R (vSMBusHandleActionBusWarning n e) := by
  unfold vSMBusHandleActionBusWarning; infer_instance

end Ambient

instance {n : ℕ} {R : Profile → Profile → Prop} [h : Quiet n R]
    (ucCommand usDescriptorsSent ucExpectedByteCountPart ucSMBusDestAddr ucSMBusSenderAddr
      ucNewDeviceSlaveAddr ucUDIDMatchedInstance ucMatchedSMBusAddr
      ucFifoEmptyWhileInDoneCount : Transfer → ℕ)
    (ucSendData ucReceivedData : Transfer → ℕ → ℕ)
    (ucPecRequiredForTransaction ulI2CTransaction ucNackSent ucPECSent : Transfer → Bool) :
    Within R (setTransfer n fun t =>
      { ucCommand := ucCommand t
        xProtocol := t.xProtocol
        usSendDataSize := t.usSendDataSize
        usSendIndex := t.usSendIndex
        usReceiveIndex := t.usReceiveIndex
        usDescriptorsSent := usDescriptorsSent t
        ucSendData := ucSendData t
        ucReceivedData := ucReceivedData t
        usExpectedByteCount := t.usExpectedByteCount
        ucExpectedByteCountPart := ucExpectedByteCountPart t
        ucSMBusDestAddr := ucSMBusDestAddr t
        ucSMBusSenderAddr := ucSMBusSenderAddr t
        ucPecRequiredForTransaction := ucPecRequiredForTransaction t
        ulI2CTransaction := ulI2CTransaction t
        ucNewDeviceSlaveAddr := ucNewDeviceSlaveAddr t
        ucUDIDMatchedInstance := ucUDIDMatchedInstance t
        ucMatchedSMBusAddr := ucMatchedSMBusAddr t
        ucNackSent := ucNackSent t
        ucPECSent := ucPECSent t
        ucFifoEmptyWhileInDoneCount := ucFifoEmptyWhileInDoneCount t }) :=
  h.offCursor _ fun _ => rfl

section Quiet

variable (n : ℕ) {R : Profile → Profile → Prop} [Ambient R] [Quiet n R]

instance : Within R (vSMBusSendNACK n) := by unfold vSMBusSendNACK; infer_instance

instance : Within R (vDescriptorSent n) := by unfold vDescriptorSent; infer_instance

instance : Within R (vCountedACK n) := by unfold vCountedACK; infer_instance

instance (limit : Transfer → ℕ) : Within R (vFillACK n limit) := by
  unfold vFillACK; infer_instance

instance : Within R (vCtrlExpectPart n) := by unfold vCtrlExpectPart; infer_instance

instance : Within R (vDoneAlmostEmpty n) := by unfold vDoneAlmostEmpty; infer_instance

instance : Within R (ucCheckAtLeastOneMatchFound n) := by
  unfold ucCheckAtLeastOneMatchFound; infer_instance

instance : Within R (vReadByteDescriptor n) := by
  unfold vReadByteDescriptor; infer_instance

instance (pec : Bool) : Within R (vFillReadDescriptors n pec) := by
  unfold vFillReadDescriptors; infer_instance

instance (t : Transfer) : Within R (vReadDoneI2C n t) := by
  unfold vReadDoneI2C; infer_instance

instance : Within R (vReadDoneAlmostEmpty n) := by
  unfold vReadDoneAlmostEmpty; infer_instance

end Quiet

instance {n : ℕ} {R : Profile → Profile → Prop} [h : Plain n R]
    (ucCommand usSendDataSize usSendIndex usReceiveIndex usDescriptorsSent usExpectedByteCount
      ucExpectedByteCountPart ucSMBusDestAddr ucSMBusSenderAddr ucNewDeviceSlaveAddr
      ucUDIDMatchedInstance ucMatchedSMBusAddr ucFifoEmptyWhileInDoneCount : Transfer → ℕ)
    (ucSendData ucReceivedData : Transfer → ℕ → ℕ)
    (ucPecRequiredForTransaction ulI2CTransaction ucNackSent ucPECSent : Transfer → Bool) :
    Within R (setTransfer n fun t =>
      { ucCommand := ucCommand t
        xProtocol := t.xProtocol
        usSendDataSize := usSendDataSize t
        usSendIndex := usSendIndex t
        usReceiveIndex := usReceiveIndex t
        usDescriptorsSent := usDescriptorsSent t
        ucSendData := ucSendData t
        ucReceivedData := ucReceivedData t
        usExpectedByteCount := usExpectedByteCount t
        ucExpectedByteCountPart := ucExpectedByteCountPart t
        ucSMBusDestAddr := ucSMBusDestAddr t
        ucSMBusSenderAddr := ucSMBusSenderAddr t
        ucPecRequiredForTransaction := ucPecRequiredForTransaction t
        ulI2CTransaction := ulI2CTransaction t
        ucNewDeviceSlaveAddr := ucNewDeviceSlaveAddr t
        ucUDIDMatchedInstance := ucUDIDMatchedInstance t
        ucMatchedSMBusAddr := ucMatchedSMBusAddr t
        ucNackSent := ucNackSent t
        ucPECSent := ucPECSent t
        ucFifoEmptyWhileInDoneCount := ucFifoEmptyWhileInDoneCount t }) :=
  h.onCursor _ fun _ => rfl

section Plain

variable (n : ℕ) {R : Profile → Profile → Prop} [Ambient R] [Plain n R] [Faulting R]

instance : Within R (vSMBusHandleActionGetDataFromApplication n) := by
  unfold vSMBusHandleActionGetDataFromApplication; infer_instance

instance (t : ℕ) : Within R (vSMBusHandleActionWriteDataToApplication n t) := by
  unfold vSMBusHandleActionWriteDataToApplication; infer_instance

instance : Within R (vSMBusHandleActionGetI2CDataFromApplication n) := by
  unfold vSMBusHandleActionGetI2CDataFromApplication; infer_instance

instance : Within R (vSMBusHandleActionWriteI2CDataToApplication n) := by
  unfold vSMBusHandleActionWriteI2CDataToApplication; infer_instance

instance : Within R (vWriteData n) := by unfold vWriteData; infer_instance

instance (k : ℕ) : Within R (vExpect n k) := by unfold vExpect; infer_instance

instance (payload : Routine ℕ) [Within R payload] :
    Within R (vReceiveByte n payload) := by
  unfold vReceiveByte; infer_instance

instance : Within R (vReceiveFill n) := by unfold vReceiveFill; infer_instance

instance : Within R (vReceiveAll n) := by unfold vReceiveAll; infer_instance

instance : Within R (ucNextSendByte n) := by unfold ucNextSendByte; infer_instance

instance : Within R (vFillRead n) := by unfold vFillRead; infer_instance

instance : Within R (vPassI2CData n) := by unfold vPassI2CData; infer_instance

instance : Within R (vByteSent n) := by unfold vByteSent; infer_instance

instance : Within R (vFillWrite n) := by unfold vFillWrite; infer_instance

instance : Within R (vFillAssign n) := by unfold vFillAssign; infer_instance

end Plain

section Free

variable (n : ℕ) {R : Profile → Profile → Prop} [Ambient R] [Free n R]

instance : Within R (vSMBusHandleActionGetProtocol n) := by
  unfold vSMBusHandleActionGetProtocol; infer_instance

instance : Within R (ucSMBusHandleActionGetARPProtocol n) := by
  unfold ucSMBusHandleActionGetARPProtocol; infer_instance

end Free

/-- The part of the profile that the data operations keep. -/
def Profile.control (s : Profile) :=
  (s.ulTransactionID, s.ucInstanceInPlay, s.ucActiveTargetInstance, s.xConfig, s.xState,
    s.xEventSrcCircularBuf, s.tgtControlAddress, s.tgtControlEnable, s.results, s.accepted,
    s.current, s.handling)

abbrev Data : Profile → Profile → Prop := Same Profile.control

instance : Ambient Data where
  reads := fun _ => ⟨fun _ => rfl⟩
  writes := fun _ => ⟨fun _ => rfl⟩
  calls := fun _ => ⟨fun _ => rfl⟩
  notes := fun _ => ⟨fun _ => rfl⟩
  strikes := fun _ => ⟨fun _ => rfl⟩

instance (n : ℕ) : Free n Data where
  offCursor := fun _ _ => ⟨fun _ => rfl⟩
  onCursor := fun _ _ => ⟨fun _ => rfl⟩
  any := fun _ => ⟨fun _ => rfl⟩

instance : Faulting Data := ⟨fun _ => ⟨fun _ => rfl⟩⟩

/-! ### The whole machine -/

/-- A relation that contains announcing results. -/
class Announcing (R : Profile → Profile → Prop) : Prop where
  announces : ∀ f, Within R (announce f)

/-- A relation that contains writing configurations and target control registers as well. -/
class Telling (R : Profile → Profile → Prop) : Prop extends Announcing R where
  configures : ∀ i f, Within R (setConfig i f)
  enables : ∀ i v, Within R (vSMBusHWWriteTgtControlEnable i v)
  addresses : ∀ i v, Within R (vSMBusHWWriteTgtControlAddress i v)

/-- A relation that contains a change of the state and the creation of an event. -/
class Moving (n : ℕ) (R : Profile → Profile → Prop) : Prop where
  decodes : ∀ st, Within R (vSMBusNextStateDecoder n st)
  queues : ∀ e, Within R (vSMBusCreateEvent n e)

/-- A relation that contains everything an instance may do. -/
class Whole (n : ℕ) (R : Profile → Profile → Prop) : Prop extends Free n R, Moving n R where
  resets : Within R (vSMBusHandleActionResetAllData n)

attribute [instance] Announcing.announces Telling.configures Telling.enables Telling.addresses
  Moving.decodes Moving.queues Whole.resets

section Announcing

variable (n : ℕ) {R : Profile → Profile → Prop} [Ambient R] [Announcing R]

instance (success : Bool) : Within R (vAnnounceResult n success) := by
  unfold vAnnounceResult vSMBusHandleActionAnnounceResultToApplication; infer_instance

instance (success : Bool) :
    Within R (vSMBusHandleActionAnnounceI2CResultToApplication n success) := by
  unfold vSMBusHandleActionAnnounceI2CResultToApplication; infer_instance

end Announcing

section Telling

variable (n : ℕ) {R : Profile → Profile → Prop} [Ambient R] [Telling R]

instance (i : ℕ) : Within R (vSMBusARPPrepareToARP i) := by
  unfold vSMBusARPPrepareToARP; infer_instance

instance (i : ℕ) : Within R (vSMBusARPResetDevice i) := by
  unfold vSMBusARPResetDevice; infer_instance

instance : Within R (vApplyAssignAddress n) := by
  unfold vApplyAssignAddress; infer_instance

instance (p : Protocol) : Within R (vApplyARP n p) := by
  unfold vApplyARP; infer_instance

end Telling

section Moving

variable (n : ℕ) {R : Profile → Profile → Prop} [Ambient R] [Quiet n R] [Moving n R]

instance : Within R (vSMBusHandleActionCreateEventSendNextByte n) := by
  unfold vSMBusHandleActionCreateEventSendNextByte; infer_instance

instance : Within R (vSMBusHandleActionCreateEventIsPECRequired n) := by
  unfold vSMBusHandleActionCreateEventIsPECRequired; infer_instance

instance (ok : Bool) (st : State) : Within R (vAnswerARP n ok st) := by
  unfold vAnswerARP; infer_instance

instance : Within R (vSendPEC n) := by
  unfold vSendPEC; infer_instance

end Moving

section Whole

variable (n : ℕ) {R : Profile → Profile → Prop} [Ambient R] [Faulting R] [Announcing R] [Whole n R]

instance : Within R (vResetToInitial n) := by
  unfold vResetToInitial; infer_instance

instance (e : Event) : Within R (vOtherEvent n e) := by
  unfold vOtherEvent; infer_instance

instance (p : Protocol) : Within R (vStartCommand n p) := by
  unfold vStartCommand; infer_instance

instance (p : Protocol) : Within R (vARPReset n p) := by
  unfold vARPReset; infer_instance

instance : Within R (vARPGetUDIDDirected n) := by
  unfold vARPGetUDIDDirected; infer_instance

instance : Within R (vARPGetUDID n) := by
  unfold vARPGetUDID; infer_instance

instance (p : Protocol) : Within R (vARPCommand n p) := by
  unfold vARPCommand; infer_instance

instance (p : Protocol) : Within R (vCommand n p) := by
  unfold vCommand; infer_instance

instance (p : Protocol) : Within R (vControllerDone n p) := by
  unfold vControllerDone; infer_instance

instance : Within R (vAssignAddressByte n) := by
  unfold vAssignAddressByte; infer_instance

instance (p : Protocol) : Within R (vWriteProgress n p) := by
  unfold vWriteProgress; infer_instance

instance (t : Transfer) : Within R (vWriteLast n t) := by
  unfold vWriteLast; infer_instance

instance : Within R (vControllerWrite n) := by
  unfold vControllerWrite; infer_instance

instance (p : Protocol) : Within R (vReadFixed n p) := by
  unfold vReadFixed; infer_instance

instance : Within R (vBlockSize n) := by
  unfold vBlockSize; infer_instance

instance : Within R (vReadProgress n) := by
  unfold vReadProgress; infer_instance

instance (p : Protocol) : Within R (vReadDone n p) := by
  unfold vReadDone; infer_instance

instance (e : Event) : Within R (vStateInitial n e) := by
  unfold vStateInitial; split <;> infer_instance

instance (e : Event) : Within R (vStateAwaitingCommandByte n e) := by
  unfold vStateAwaitingCommandByte; split <;> infer_instance

instance (e : Event) : Within R (vStateAwaitingBlockSize n e) := by
  unfold vStateAwaitingBlockSize; split <;> infer_instance

instance (e : Event) : Within R (vStateAwaitingData n e) := by
  unfold vStateAwaitingData; split <;> infer_instance

instance (e : Event) : Within R (vStateAwaitingRead n e) := by
  unfold vStateAwaitingRead; split <;> infer_instance

instance (e : Event) : Within R (vStateReadyToSendByte n e) := by
  unfold vStateReadyToSendByte; split <;> infer_instance

instance (e : Event) : Within R (vStateCheckIfPECRequired n e) := by
  unfold vStateCheckIfPECRequired; split <;> infer_instance

instance (e : Event) : Within R (vStateControllerSendCommand n e) := by
  unfold vStateControllerSendCommand; split <;> infer_instance

instance (e : Event) : Within R (vStateControllerSendReadStart n e) := by
  unfold vStateControllerSendReadStart; split <;> infer_instance

instance (e : Event) : Within R (vStateControllerReadBlockSize n e) := by
  unfold vStateControllerReadBlockSize; split <;> infer_instance

instance (e : Event) : Within R (vStateControllerReadByte n e) := by
  unfold vStateControllerReadByte; split <;> infer_instance

instance (e : Event) : Within R (vStateControllerReadPEC n e) := by
  unfold vStateControllerReadPEC; split <;> infer_instance

instance (e : Event) : Within R (vStateControllerReadDone n e) := by
  unfold vStateControllerReadDone; split <;> infer_instance

instance (e : Event) : Within R (vStateControllerWriteByte n e) := by
  unfold vStateControllerWriteByte; split <;> infer_instance

theorem awaitingDone_within {e : Event} (he : e ≠ .TARGET_DONE_IRQ) :
    Within R (vStateAwaitingDone n e) := by
  unfold vStateAwaitingDone
  split
  case h_4 => exact absurd rfl he
  all_goals infer_instance

theorem vSMBusFSM_within {e : Event} {s : Profile}
    (h : ¬ (s.xState n = .AWAITING_DONE ∧ e = .TARGET_DONE_IRQ)) :
    R s (exec (vSMBusFSM n e) s) := by
  rw [vSMBusFSM, exec_get_bind]
  split
  case h_8 hst => exact (awaitingDone_within n fun he => h ⟨hst, he⟩).rel s
  all_goals exact Within.rel s

end Whole

section Telling

variable (n : ℕ) {R : Profile → Profile → Prop} [Ambient R] [Faulting R] [Telling R] [Whole n R]

instance (t : Transfer) : Within R (vTargetDone n t) := by
  unfold vTargetDone; infer_instance

instance (e : Event) : Within R (vStateAwaitingDone n e) := by
  unfold vStateAwaitingDone; split <;> infer_instance

instance (e : Event) : Within R (vSMBusFSM n e) := by
  refine ⟨fun s => ?_⟩
  rw [vSMBusFSM, exec_get_bind]
  split <;> exact Within.rel s

end Telling

/-- The transfers of the other instances. -/
abbrev Others (n : ℕ) : Profile → Profile → Prop :=
  Same fun s => Function.update s.xTransfer n Transfer.start

theorem others_setTransfer (n : ℕ) (f : Transfer → Transfer) :
    Within (Others n) (setTransfer n f) :=
  ⟨fun _ => Function.update_idem ..⟩

instance (n : ℕ) : Ambient (Others n) where
  reads := fun _ => ⟨fun _ => rfl⟩
  writes := fun _ => ⟨fun _ => rfl⟩
  calls := fun _ => ⟨fun _ => rfl⟩
  notes := fun _ => ⟨fun _ => rfl⟩
  strikes := fun _ => ⟨fun _ => rfl⟩

instance (n : ℕ) : Faulting (Others n) := ⟨fun _ => ⟨fun _ => rfl⟩⟩

instance (n : ℕ) : Telling (Others n) where
  announces := fun _ => ⟨fun _ => rfl⟩
  configures := fun _ _ => ⟨fun _ => rfl⟩
  enables := fun i v => ⟨fun s => by
    simp only [vSMBusHWWriteTgtControlEnable, exec_modify, Same]
    split <;> rfl⟩
  addresses := fun i v => ⟨fun s => by
    simp only [vSMBusHWWriteTgtControlAddress, exec_modify, Same]
    split <;> rfl⟩

instance (n : ℕ) : Whole n (Others n) where
  offCursor := fun f _ => others_setTransfer n f
  onCursor := fun f _ => others_setTransfer n f
  any := others_setTransfer n
  decodes := fun _ => ⟨fun _ => rfl⟩
  queues := fun e => ⟨fun s => by
    simp only [vSMBusCreateEvent, exec_modify, Same]
    split <;> rfl⟩
  resets := by
    have hreset := others_setTransfer n Transfer.reset
    have hplay : Within (Others n)
        (modify fun s => { s with ucInstanceInPlay := INVALID_INSTANCE }) := ⟨fun _ => rfl⟩
    have hactive : Within (Others n)
        (modify fun s => { s with ucActiveTargetInstance := INVALID_INSTANCE }) := ⟨fun _ => rfl⟩
    unfold vSMBusHandleActionResetAllData
    infer_instance

theorem vSMBusFSM_otherTransfers {n j : ℕ} (hj : j ≠ n) (e : Event) (s : Profile) :
    (exec (vSMBusFSM n e) s).xTransfer j = s.xTransfer j := by
  have hothers := congrFun (same (fun s => Function.update s.xTransfer n Transfer.start)
    (vSMBusFSM n e) s) j
  rwa [Function.update_of_ne hj, Function.update_of_ne hj] at hothers

/-! ### Steps that do not end a transfer -/

/-- A configuration without what address resolution changes. -/
def Config.identity (c : Config) : Config :=
  { c with ucSMBusAddr := 0, ucARFlag := false, ucAVFlag := false }

/-- The part of the profile that no handler touches. -/
def Profile.still (s : Profile) :=
  (s.ulTransactionID, (fun i => (s.xConfig i).identity), s.accepted, s.current, s.handling)

/-- A result that instance `n` announces in the state `s`. -/
structure Announced (s : Profile) (n : ℕ) (r : Result) : Prop where
  instanceNum : r.instanceNum = n
  command : r.command = s.commandOf n
  transaction : r.i2c = false → r.transaction =
    if (s.xConfig n).ucThisInstanceNum = s.ucInstanceInPlay then s.ulTransactionID % 2 ^ 8 else 0

/-- Instance `n` stays in its state or moves to one of `next`, its queue grows by events of
`posts`, and it announces results of its own. -/
structure Steer (n : ℕ) (next : List State) (posts : List Event) (s s' : Profile) : Prop where
  still : s'.still = s.still
  inPlay : s'.ucInstanceInPlay = s.ucInstanceInPlay
  active : s'.ucActiveTargetInstance = s.ucActiveTargetInstance
  otherState : ∀ j, j ≠ n → s'.xState j = s.xState j
  state : s'.xState n = s.xState n ∨ s'.xState n ∈ next
  otherEvents : ∀ j, j ≠ n → s'.xEventSrcCircularBuf j = s.xEventSrcCircularBuf j
  events : ∃ es, (∀ e ∈ es, e ∈ posts) ∧
    s'.xEventSrcCircularBuf n = s.xEventSrcCircularBuf n ++ es
  results : ∃ rs, (∀ r ∈ rs, Announced s n r) ∧ s'.results = s.results ++ rs

theorem still_eq {s s' : Profile} : s'.still = s.still ↔
    s'.ulTransactionID = s.ulTransactionID ∧
      (∀ i, (s'.xConfig i).identity = (s.xConfig i).identity) ∧ s'.accepted = s.accepted ∧
      s'.current = s.current ∧ s'.handling = s.handling := by
  simp only [Profile.still, Prod.mk.injEq, funext_iff]

variable {c c' : Config}

theorem Config.thisInstanceNum_of_identity (h : c'.identity = c.identity) :
    c'.ucThisInstanceNum = c.ucThisInstanceNum := by
  have hnum : c'.identity.ucThisInstanceNum = c.identity.ucThisInstanceNum := by rw [h]
  exact hnum

theorem Config.inUse_of_identity (h : c'.identity = c.identity) :
    c'.ucInstanceInUse = c.ucInstanceInUse := by
  have huse : c'.identity.ucInstanceInUse = c.identity.ucInstanceInUse := by rw [h]
  exact huse

theorem Config.device_of_identity (h : c'.identity = c.identity) :
    c'.ulI2CDevice = c.ulI2CDevice := by
  have hdevice : c'.identity.ulI2CDevice = c.identity.ulI2CDevice := by rw [h]
  exact hdevice

theorem Config.announces_of_identity (h : c'.identity = c.identity) :
    c'.pFnI2CAnnounceResult = c.pFnI2CAnnounceResult := by
  have hannounce : c'.identity.pFnI2CAnnounceResult = c.identity.pFnI2CAnnounceResult := by rw [h]
  exact hannounce

namespace Steer

variable {n : ℕ} {next : List State} {posts : List Event} {s s' s'' : Profile}

theorem identity (h : Steer n next posts s s') (i : ℕ) :
    (s'.xConfig i).identity = (s.xConfig i).identity :=
  (still_eq.mp h.still).2.1 i

theorem commandOf (h : Steer n next posts s s') : s'.commandOf n = s.commandOf n := by
  simp only [Profile.commandOf, Config.thisInstanceNum_of_identity (h.identity n), h.inPlay,
    (still_eq.mp h.still).2.2.2.1]

theorem announced (h : Steer n next posts s s') {r : Result} (hr : Announced s' n r) :
    Announced s n r where
  instanceNum := hr.instanceNum
  command := hr.command.trans h.commandOf
  transaction := fun hi => by
    rw [hr.transaction hi, Config.thisInstanceNum_of_identity (h.identity n), h.inPlay,
      (still_eq.mp h.still).1]

theorem of_data (h : Data s s') : Steer n next posts s s' := by
  simp only [Data, Same, Profile.control, Prod.mk.injEq] at h
  obtain ⟨htid, hplay, hactive, hconfig, hstate, hevents, haddr, henable, hresults, haccepted,
    hcurrent, hhandling⟩ := h
  exact {
    still := still_eq.mpr ⟨htid, fun i => by rw [hconfig], haccepted, hcurrent, hhandling⟩
    inPlay := hplay
    active := hactive
    otherState := fun j _ => congrFun hstate j
    state := .inl (congrFun hstate n)
    otherEvents := fun j _ => congrFun hevents j
    events := ⟨[], by simp, by simp [congrFun hevents n]⟩
    results := ⟨[], by simp, by simp [hresults]⟩ }

theorem trans (h : Steer n next posts s s') (h' : Steer n next posts s' s'') :
    Steer n next posts s s'' := by
  obtain ⟨es, hes, hevents⟩ := h.events
  obtain ⟨es', hes', hevents'⟩ := h'.events
  obtain ⟨rs, hrs, hresults⟩ := h.results
  obtain ⟨rs', hrs', hresults'⟩ := h'.results
  exact {
    still := h'.still.trans h.still
    inPlay := h'.inPlay.trans h.inPlay
    active := h'.active.trans h.active
    otherState := fun j hj => (h'.otherState j hj).trans (h.otherState j hj)
    state := by
      rcases h'.state with hst | hst
      · exact hst ▸ h.state
      · exact .inr hst
    otherEvents := fun j hj => (h'.otherEvents j hj).trans (h.otherEvents j hj)
    events := by
      refine ⟨es ++ es', fun e he => ?_, by rw [hevents', hevents, List.append_assoc]⟩
      rcases List.mem_append.mp he with he | he
      · exact hes e he
      · exact hes' e he
    results := by
      refine ⟨rs ++ rs', fun r hr => ?_, by rw [hresults', hresults, List.append_assoc]⟩
      rcases List.mem_append.mp hr with hr | hr
      · exact hrs r hr
      · exact h.announced (hrs' r hr) }

theorem of_config {f : ℕ → Config} (hf : ∀ i, (f i).identity = (s.xConfig i).identity) :
    Steer n next posts s { s with xConfig := f } where
  still := still_eq.mpr ⟨rfl, hf, rfl, rfl, rfl⟩
  inPlay := rfl
  active := rfl
  otherState := fun _ _ => rfl
  state := .inl rfl
  otherEvents := fun _ _ => rfl
  events := ⟨[], by simp, by simp⟩
  results := ⟨[], by simp, by simp⟩

theorem of_result {r : Result} (hr : Announced s n r) :
    Steer n next posts s { s with results := s.results ++ [r] } where
  still := rfl
  inPlay := rfl
  active := rfl
  otherState := fun _ _ => rfl
  state := .inl rfl
  otherEvents := fun _ _ => rfl
  events := ⟨[], by simp, by simp⟩
  results := ⟨[r], by simpa using hr, rfl⟩

theorem of_state {st : State} (hst : st ∈ next) :
    Steer n next posts s { s with xState := Function.update s.xState n st } where
  still := rfl
  inPlay := rfl
  active := rfl
  otherState := fun j hj => Function.update_of_ne hj _ _
  state := .inr (by simpa using hst)
  otherEvents := fun _ _ => rfl
  events := ⟨[], by simp, by simp⟩
  results := ⟨[], by simp, by simp⟩

theorem of_event {e : Event} (he : e ∈ posts) :
    Steer n next posts s { s with
      xEventSrcCircularBuf :=
        Function.update s.xEventSrcCircularBuf n (s.xEventSrcCircularBuf n ++ [e]) } where
  still := rfl
  inPlay := rfl
  active := rfl
  otherState := fun _ _ => rfl
  state := .inl rfl
  otherEvents := fun j hj => Function.update_of_ne hj _ _
  events := ⟨[e], by simpa using he, by simp⟩
  results := ⟨[], by simp, by simp⟩

end Steer

instance (n : ℕ) (next : List State) (posts : List Event) : Std.Refl (Steer n next posts) :=
  ⟨fun _ => .of_data rfl⟩

instance (n : ℕ) (next : List State) (posts : List Event) :
    IsTrans Profile (Steer n next posts) :=
  ⟨fun _ _ _ h h' => h.trans h'⟩

/-- An element of a list, found by instance search. -/
class Listed {α : Type} (a : α) (as : List α) : Prop where
  /-- The element is in the list. -/
  mem : a ∈ as

instance {α : Type} (a : α) (as : List α) : Listed a (a :: as) := ⟨List.mem_cons_self⟩

instance {α : Type} (a b : α) (as : List α) [h : Listed a as] : Listed a (b :: as) :=
  ⟨List.mem_cons_of_mem _ h.mem⟩

section Handlers

variable (n : ℕ) (next : List State) (posts : List Event)

instance (priority := low) {α : Type} (m : Routine α) [h : Within Data m] :
    Within (Steer n next posts) m :=
  ⟨fun s => .of_data (h.rel s)⟩

instance (st : State) [h : Listed st next] :
    Within (Steer n next posts) (vSMBusNextStateDecoder n st) :=
  ⟨fun _ => .of_state h.mem⟩

instance (c : Prop) [Decidable c] (st st' : State) [Listed st next] [Listed st' next] :
    Within (Steer n next posts) (vSMBusNextStateDecoder n (if c then st else st')) := by
  split <;> infer_instance

instance (e : Event) [h : Listed e posts] :
    Within (Steer n next posts) (vSMBusCreateEvent n e) := by
  refine ⟨fun s => ?_⟩
  simp only [vSMBusCreateEvent, exec_modify]
  split
  · exact .of_event h.mem
  · exact .of_data rfl

instance [Listed .SEND_NEXT_BYTE posts] :
    Within (Steer n next posts) (vSMBusHandleActionCreateEventSendNextByte n) := by
  unfold vSMBusHandleActionCreateEventSendNextByte; infer_instance

instance [Listed .IS_PEC_REQUIRED posts] :
    Within (Steer n next posts) (vSMBusHandleActionCreateEventIsPECRequired n) := by
  unfold vSMBusHandleActionCreateEventIsPECRequired; infer_instance

instance (success : Bool) : Within (Steer n next posts) (vAnnounceResult n success) := by
  refine ⟨fun s => ?_⟩
  simp only [vAnnounceResult, vSMBusHandleActionAnnounceResultToApplication, exec_bind, exec_get,
    value_get, exec_ite, exec_pure, announce, exec_modify]
  split
  · exact .of_result ⟨rfl, rfl, fun _ => rfl⟩
  · exact .of_data rfl

instance (success : Bool) :
    Within (Steer n next posts) (vSMBusHandleActionAnnounceI2CResultToApplication n success) := by
  refine ⟨fun s => ?_⟩
  simp only [vSMBusHandleActionAnnounceI2CResultToApplication, exec_bind, exec_ite, exec_pure,
    announce, exec_modify]
  split
  · exact .of_result ⟨rfl, rfl, fun h => by cases h⟩
  · exact .of_data rfl

end Handlers

end Amr.Smbus
