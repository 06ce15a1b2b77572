/-
# Entry points, interrupts and runs

`smbus_driver.c` and `smbus_interrupt_handler.c`: creating and destroying instances, the four
controller commands, the interrupt handler and the loop that drains the event queue. A run of the
driver is a list of actions. An entry point or a half of the interrupt handler is one action, and
so is one round of `vSMBusEventQueueHandle`: it takes the first event of the first instance in use
that has one. No other action happens while the queue is being drained, as the loop runs in the
interrupt handler or with interrupts disabled. The interrupt handler drains the queue between its
target half and its controller half, which are therefore two actions.

The vector of an interrupt is what is left of the status after masking it with the enabled
interrupts. Writing the interrupt enable and status registers is left out.
-/
import Amr.Lib.Transition
import Amr.Smbus.Fsm

namespace Amr.Smbus

open StateProgram

/-! ### The initial profile -/

def Config.unused : Config :=
  { ucInstanceInUse := false
    ucSMBusAddr := 0
    ucThisInstanceNum := INVALID_INSTANCE
    ucUDID := fun _ => 0
    xARPCapability := .UNKNOWN
    ucPECRequired := false
    ulI2CDevice := false
    ucSimpleDevice := false
    ucARFlag := false
    ucAVFlag := false
    pFnGetProtocol := false
    pFnGetData := false
    pFnWriteData := false
    pFnAnnounceResult := false
    pFnArpAddrChange := false
    pFnBusError := false
    pFnBusWarning := false
    pFnI2CGetData := false
    pFnI2CWriteData := false
    pFnI2CAnnounceResult := false }

/-- The transfer fields after `xInitSMBus`. -/
def Transfer.start : Transfer :=
  { ucCommand := 0
    xProtocol := .NONE
    usSendDataSize := 0
    usSendIndex := 0
    usReceiveIndex := 0
    usDescriptorsSent := 0
    ucSendData := fun _ => 0
    ucReceivedData := fun _ => 0
    usExpectedByteCount := 0
    ucExpectedByteCountPart := 0
    ucSMBusDestAddr := 0
    ucSMBusSenderAddr := 0
    ucPecRequiredForTransaction := false
    ulI2CTransaction := false
    ucNewDeviceSlaveAddr := 0
    ucUDIDMatchedInstance := INVALID_INSTANCE
    ucMatchedSMBusAddr := 0
    ucNackSent := false
    ucPECSent := false
    ucFifoEmptyWhileInDoneCount := 0 }

def Answer.none : Answer :=
  { protocol := .NONE, sendData := fun _ => 0, sendDataSize := 0, stray := 0 }

/-- The profile after `xInitSMBus`. -/
def Profile.start : Profile :=
  { ulTransactionID := 0
    ucInstanceInPlay := INVALID_INSTANCE
    ucActiveTargetInstance := INVALID_INSTANCE
    ucUDIDMatch := fun _ => false
    xConfig := fun _ => Config.unused
    xState := fun _ => .INITIAL
    xEventSrcCircularBuf := fun _ => []
    xTransfer := fun _ => Transfer.start
    tgtControlAddress := fun _ => 0
    tgtControlEnable := fun _ => 0
    registers := []
    answer := Answer.none
    written := []
    received := []
    calls := []
    results := []
    accepted := []
    current := Option.none
    faults := []
    handling := false }

/-! ### Creating instances -/

/-- The arguments of `ucCreateSMBusInstance`; a callback is given or `NULL`. -/
structure CreateSMBus where
  ucSMBusAddr : ℕ
  ucUDID : ℕ → ℕ
  xARPCapability : ArpCapability
  pFnGetProtocol : Bool
  pFnGetData : Bool
  pFnWriteData : Bool
  pFnAnnounceResult : Bool
  pFnArpAddrChange : Bool
  pFnBusError : Bool
  pFnBusWarning : Bool
  ucSimpleDevice : Bool

def CreateSMBus.addressType (a : CreateSMBus) : ℕ :=
  a.ucUDID UDID_DEVICE_CAPABILITIES_BYTE &&& UDID_ADDRESS_TYPE_MASK

/-- Whether an instance in use, ARP instance apart, has the address. -/
def Profile.addressUsed (s : Profile) (ucAddr : ℕ) : Bool :=
  (List.range NUM_NON_ARP_INSTANCES).any fun i =>
    (s.xConfig i).ucInstanceInUse = true ∧ (s.xConfig i).ucSMBusAddr = ucAddr

/-- The checks of `ucCreateSMBusInstance`. -/
def CreateSMBus.ok (a : CreateSMBus) (s : Profile) : Prop :=
  ((a.pFnGetProtocol = true ∨ a.ucSimpleDevice = true) ∧ a.pFnGetData = true ∧
    a.pFnWriteData = true ∧ a.pFnAnnounceResult = true) ∧
  a.xARPCapability ≠ .UNKNOWN ∧
  ¬ (INVALID_ADDRESS_MASK &&& a.ucSMBusAddr ≠ 0 ∧ a.xARPCapability = .ARP_CAPABLE ∧
    a.addressType ≠ UDID_DYNAMIC_AND_PERSISTENT) ∧
  ¬ (a.xARPCapability = .ARP_CAPABLE ∧ a.addressType = UDID_FIXED_ADDRESS) ∧
  (a.xARPCapability ≠ .ARP_CAPABLE → s.addressUsed a.ucSMBusAddr = false)

instance (a : CreateSMBus) (s : Profile) : Decidable (a.ok s) := by
  unfold CreateSMBus.ok; infer_instance

/-- The address-valid flag of a new instance. -/
def CreateSMBus.avFlag (a : CreateSMBus) : Bool :=
  if a.xARPCapability = .ARP_CAPABLE then
    if a.addressType = UDID_DYNAMIC_AND_PERSISTENT then
      !decide (INVALID_ADDRESS_MASK &&& a.ucSMBusAddr ≠ 0 ∨ a.ucSMBusAddr = 0)
    else false
  else true

/-- The first instance that is not in use. -/
def Profile.freeInstance (s : Profile) : Option ℕ :=
  (List.range NUM_NON_ARP_INSTANCES).find? fun i => (s.xConfig i).ucInstanceInUse = false

/-- What a new SMBus instance is configured to. -/
def CreateSMBus.config (a : CreateSMBus) (i : ℕ) : Config :=
  { ucInstanceInUse := true
    ucSMBusAddr := a.ucSMBusAddr
    ucThisInstanceNum := i
    ucUDID := a.ucUDID
    xARPCapability := a.xARPCapability
    ucPECRequired := decide (a.ucUDID UDID_DEVICE_CAPABILITIES_BYTE &&& 0x01 = 1)
    ulI2CDevice := false
    ucSimpleDevice := a.ucSimpleDevice
    ucARFlag := false
    ucAVFlag := a.avFlag
    pFnGetProtocol := a.pFnGetProtocol
    pFnGetData := a.pFnGetData
    pFnWriteData := a.pFnWriteData
    pFnAnnounceResult := a.pFnAnnounceResult
    pFnArpAddrChange := a.pFnArpAddrChange
    pFnBusError := a.pFnBusError
    pFnBusWarning := a.pFnBusWarning
    pFnI2CGetData := false
    pFnI2CWriteData := false
    pFnI2CAnnounceResult := false }

/-- The ARP instance is added with the first instance that takes part in address resolution. -/
def vAddArpInstance : Routine Unit := do
  setConfig ARP_INSTANCE_ID fun c =>
    { c with
      ucInstanceInUse := true
      ucSMBusAddr := DEVICE_DEFAULT_ARP_ADDRESS
      ucPECRequired := true
      ucThisInstanceNum := ARP_INSTANCE_ID }
  vSMBusHWWriteTgtControlAddress ARP_INSTANCE_ID DEVICE_DEFAULT_ARP_ADDRESS
  vSMBusHWWriteTgtControlEnable ARP_INSTANCE_ID 1

def ucCreateSMBusInstance (a : CreateSMBus) : Routine ℕ := do
  let s ← get
  if a.ok s ∧ s.freeInstance.isSome = true then do
    let i := s.freeInstance.getD INVALID_INSTANCE
    setConfig i fun _ => a.config i
    setTransfer i fun t =>
      { t with
        ucFifoEmptyWhileInDoneCount := 0
        ucNewDeviceSlaveAddr := 0
        ucNackSent := false }
    vSMBusHWWriteTgtControlAddress i a.ucSMBusAddr
    (if a.xARPCapability ≠ .ARP_CAPABLE then vSMBusHWWriteTgtControlEnable i 1 else pure ())
    (if (s.xConfig ARP_INSTANCE_ID).ucInstanceInUse = false ∧
        a.xARPCapability ≠ .NON_ARP_CAPABLE then vAddArpInstance
    else pure ())
    pure i
  else pure INVALID_INSTANCE

/-- The arguments of `ucI2CCreateDevice`. -/
structure CreateI2C where
  ucAddr : ℕ
  pFnGetData : Bool
  pFnWriteData : Bool
  pFnAnnounceResult : Bool
  pFnBusError : Bool
  pFnBusWarning : Bool

/-- The checks of `ucI2CCreateDevice`. -/
def CreateI2C.ok (a : CreateI2C) (s : Profile) : Prop :=
  (a.pFnGetData = true ∧ a.pFnWriteData = true ∧ a.pFnAnnounceResult = true) ∧
  INVALID_ADDRESS_MASK &&& a.ucAddr = 0 ∧ s.addressUsed a.ucAddr = false

instance (a : CreateI2C) (s : Profile) : Decidable (a.ok s) := by
  unfold CreateI2C.ok; infer_instance

/-- What a new I2C device is configured to; the UDID, the ARP capability and the ARP flags are
those of the instance that had the slot before. -/
def CreateI2C.config (a : CreateI2C) (i : ℕ) (c : Config) : Config :=
  { c with
    ucInstanceInUse := true
    ucSMBusAddr := a.ucAddr
    ucThisInstanceNum := i
    ucPECRequired := false
    ulI2CDevice := true
    ucSimpleDevice := false
    pFnGetProtocol := false
    pFnGetData := false
    pFnWriteData := false
    pFnAnnounceResult := false
    pFnArpAddrChange := false
    pFnBusError := a.pFnBusError
    pFnBusWarning := a.pFnBusWarning
    pFnI2CGetData := a.pFnGetData
    pFnI2CWriteData := a.pFnWriteData
    pFnI2CAnnounceResult := a.pFnAnnounceResult }

def ucI2CCreateDevice (a : CreateI2C) : Routine ℕ := do
  let s ← get
  if a.ok s ∧ s.freeInstance.isSome = true then do
    let i := s.freeInstance.getD INVALID_INSTANCE
    setConfig i (a.config i)
    setTransfer i fun t => { t with ucNewDeviceSlaveAddr := 0, ucNackSent := false }
    vSMBusHWWriteTgtControlAddress i a.ucAddr
    vSMBusHWWriteTgtControlEnable i 1
    pure i
  else pure INVALID_INSTANCE

/-! ### Destroying instances -/

/-- `vEventBufferInitialize` on the buffer of an instance. -/
def vEventBufferInitialize (n : ℕ) : Routine Unit :=
  modify fun s =>
    { s with xEventSrcCircularBuf := Function.update s.xEventSrcCircularBuf n [] }

/-- What `xDestroySMBusInstance` leaves of the configuration of an instance. -/
def Config.destroyed (c : Config) : Config :=
  { c with
    ucInstanceInUse := false
    ucSMBusAddr := 0
    pFnGetProtocol := false
    pFnGetData := false
    pFnWriteData := false
    pFnAnnounceResult := false
    pFnArpAddrChange := false
    pFnBusError := false
    pFnBusWarning := false
    ucPECRequired := false
    xARPCapability := .UNKNOWN
    ucARFlag := false
    ucAVFlag := false
    ucThisInstanceNum := INVALID_INSTANCE }

/-- What the ARP instance is left with, whose remaining callbacks are not touched. -/
def Config.arpDestroyed (c : Config) : Config :=
  { c with
    ucInstanceInUse := false
    ucSMBusAddr := 0
    pFnGetProtocol := false
    pFnGetData := false
    ucPECRequired := false
    xARPCapability := .UNKNOWN
    ucARFlag := false
    ucAVFlag := false
    ucThisInstanceNum := INVALID_INSTANCE }

/-- The part of destroying that every instance has in common. -/
def vRelease (n : ℕ) (left : Config → Config) : Routine Unit := do
  vSMBusHWWriteTgtControlEnable n 0
  vSMBusHWWriteTgtControlAddress n 0
  setConfig n left
  setTransfer n fun t => { t with xProtocol := .NONE }
  vEventBufferInitialize n

/-- Whether an instance in use may take part in address resolution. -/
def Profile.needsArp (s : Profile) : Bool :=
  (List.range (NUM_INSTANCES - 1)).any fun i =>
    (s.xConfig i).ucInstanceInUse = true ∧ (s.xConfig i).xARPCapability ≠ .NON_ARP_CAPABLE

/-- `xDestroySMBusInstance`: true where the source returns success. -/
def xDestroySMBusInstance (ucSMBusInstanceID : ℕ) : Routine Bool := do
  let s ← get
  if ucSMBusInstanceID ≤ LAST_NON_ARP_INSTANCE ∧
      (s.xConfig ucSMBusInstanceID).ucInstanceInUse = true ∧
      s.xState ucSMBusInstanceID = .INITIAL then do
    vRelease ucSMBusInstanceID Config.destroyed
    let s ← get
    (if s.needsArp = true then pure () else vRelease ARP_INSTANCE_ID Config.arpDestroyed)
    pure true
  else pure false

/-- What `ucI2CDestroyDevice` leaves of the configuration of an instance. -/
def Config.i2cDestroyed (c : Config) : Config :=
  { c with
    ucInstanceInUse := false
    ucSMBusAddr := 0
    pFnI2CGetData := false
    pFnI2CWriteData := false
    pFnI2CAnnounceResult := false
    pFnBusError := false
    pFnBusWarning := false
    ucPECRequired := false
    xARPCapability := .UNKNOWN
    ucARFlag := false
    ucAVFlag := false
    ucThisInstanceNum := INVALID_INSTANCE
    ulI2CDevice := false }

def ucI2CDestroyDevice (ucDeviceId : ℕ) : Routine Bool := do
  let s ← get
  if ucDeviceId ≤ LAST_NON_ARP_INSTANCE ∧ (s.xConfig ucDeviceId).ucInstanceInUse = true ∧
      s.xState ucDeviceId = .INITIAL then do
    vRelease ucDeviceId Config.i2cDestroyed
    pure true
  else pure false

/-! ### Controller commands -/

/-- Whether the bus is free for a command of the instance. -/
def Profile.commandable (s : Profile) (n : ℕ) : Prop :=
  n ≤ LAST_NON_ARP_INSTANCE ∧ s.ucInstanceInPlay = INVALID_INSTANCE ∧ s.xState n = .INITIAL

instance (s : Profile) (n : ℕ) : Decidable (s.commandable n) := by
  unfold Profile.commandable; infer_instance

/-- Notes an accepted command and gives the bus to its instance. -/
def vAccept (n : ℕ) (transaction : Option ℕ) : Routine Unit :=
  modify fun s =>
    { s with
      ucInstanceInPlay := n
      accepted := s.accepted ++ [⟨s.accepted.length, n, transaction⟩]
      current := some ⟨s.accepted.length, n, transaction⟩ }

/-- The end of every entry point for a command: the FIFOs are reset, the first event is created
and the queue is drained. -/
def vStartDraining (n : ℕ) : Routine Unit := do
  write .CtrlDescFifoReset
  write .CtrlRxFifoReset
  vSMBusCreateEvent n .SEND_NEXT_BYTE
  modify fun s => { s with handling := true }

/-- The protocols below `SMBUS_PROTOCOL_NONE`. -/
def Protocol.isSMBus (p : Protocol) : Bool :=
  decide (p ∉ [.NONE, .I2C_WRITE, .I2C_READ, .I2C_WRITE_READ, .I2C_NONE])

/-- The arguments of `xSMBusControllerInitiateCommand` and the time-out bits that it reads. -/
structure Initiate where
  ucSMBusInstanceID : ℕ
  ucSMBusDestAddr : ℕ
  ucCommand : ℕ
  xProtocol : Protocol
  usDataSize : ℕ
  pucData : ℕ → ℕ
  ucPecRequiredForTransaction : Bool
  lowTimeout : Bool

/-- The checks of `xSMBusControllerInitiateCommand`. -/
def Initiate.ok (a : Initiate) (s : Profile) : Prop :=
  a.xProtocol.isSMBus = true ∧ a.usDataSize ≤ DATA_SIZE_MAX ∧ a.lowTimeout = false ∧
    s.commandable a.ucSMBusInstanceID

instance (a : Initiate) (s : Profile) : Decidable (a.ok s) := by
  unfold Initiate.ok; infer_instance

def Initiate.commandByte (a : Initiate) : ℕ :=
  if a.xProtocol = .ARP_GET_UDID_DIRECTED then a.ucCommand ||| 0x01
  else if a.xProtocol = .ARP_RESET_DEVICE_DIRECTED then a.ucCommand &&& 0xFE
  else a.ucCommand

/-- `xSMBusControllerInitiateCommand`, up to draining the queue: the transaction id handed to the
caller where the command is accepted. -/
def xSMBusControllerInitiateCommand (a : Initiate) : Routine (Option ℕ) := do
  let s ← get
  if a.ok s then do
    vAccept a.ucSMBusInstanceID (some s.ulTransactionID)
    modify fun s => { s with ulTransactionID := (s.ulTransactionID + 1) % 2 ^ 32 }
    setTransfer a.ucSMBusInstanceID fun t =>
      { t with
        ucSendData := memcpy t.ucSendData a.pucData a.usDataSize
        usSendDataSize := a.usDataSize
        usSendIndex := 0
        ucCommand := a.commandByte
        xProtocol := a.xProtocol
        ucSMBusDestAddr := a.ucSMBusDestAddr
        ucPecRequiredForTransaction := a.ucPecRequiredForTransaction }
    vStartDraining a.ucSMBusInstanceID
    pure (some s.ulTransactionID)
  else pure none

/-- `ucI2CWriteData`, up to draining the queue. -/
def ucI2CWriteData (ucDeviceId ucAddr : ℕ) (pucData : ℕ → ℕ) (usNumBytes : ℕ) :
    Routine Bool := do
  let s ← get
  if usNumBytes ≤ DATA_SIZE_MAX ∧ (s.xConfig ucDeviceId).ucInstanceInUse = true ∧
      s.commandable ucDeviceId then do
    vAccept ucDeviceId none
    setTransfer ucDeviceId fun t =>
      { t with
        ucSendData := memcpy t.ucSendData pucData usNumBytes
        usSendDataSize := usNumBytes
        usSendIndex := 0
        ulI2CTransaction := true
        xProtocol := .I2C_WRITE
        ucSMBusDestAddr := ucAddr }
    vStartDraining ucDeviceId
    pure true
  else pure false

/-- `ucI2CReadData`, up to draining the queue. -/
def ucI2CReadData (ucDeviceId ucAddr usNumBytes : ℕ) : Routine Bool := do
  let s ← get
  if usNumBytes ≤ DATA_SIZE_MAX ∧ s.commandable ucDeviceId then do
    vAccept ucDeviceId none
    setTransfer ucDeviceId fun t =>
      { t with
        usExpectedByteCount := usNumBytes
        xProtocol := .I2C_READ
        ucSMBusDestAddr := ucAddr }
    vStartDraining ucDeviceId
    pure true
  else pure false

/-- `ucI2CWriteReadData`, up to draining the queue. -/
def ucI2CWriteReadData (ucDeviceId ucAddr : ℕ) (pucWriteData : ℕ → ℕ)
    (usNumWriteBytes usNumReadBytes : ℕ) : Routine Bool := do
  let s ← get
  if usNumWriteBytes ≤ DATA_SIZE_MAX ∧ usNumReadBytes ≤ DATA_SIZE_MAX ∧
      I2C_READ_DATA_SIZE_MIN ≤ usNumReadBytes ∧ s.commandable ucDeviceId then do
    vAccept ucDeviceId none
    setTransfer ucDeviceId fun t =>
      { t with
        ucSendData := memcpy t.ucSendData pucWriteData usNumWriteBytes
        usSendDataSize := usNumWriteBytes
        usSendIndex := 0
        usExpectedByteCount := usNumReadBytes
        xProtocol := .I2C_WRITE_READ
        ucSMBusDestAddr := ucAddr }
    vStartDraining ucDeviceId
    pure true
  else pure false

/-! ### The interrupt handler -/

/-- `ucSMBusDetermineInstanceFromTargetAddress`: the first instance in use with the address. -/
def Profile.instanceFromTargetAddress (s : Profile) (ucAddress : ℕ) : ℕ :=
  ((List.range NUM_INSTANCES).find? fun i =>
    (s.xConfig i).ucInstanceInUse = true ∧ (s.xConfig i).ucSMBusAddr = ucAddress).getD
      INVALID_INSTANCE

/-- `SMBUS_INTERRUPT_ERROR_IRQ`. -/
def INTERRUPT_ERROR_IRQ : ℕ := 0

/-- The target error interrupts in the order in which they are tested, with their bits. -/
def targetErrorInterrupts : List (ℕ × Event) :=
  [(10, .TARGET_PHY_TEXT_TIMEOUT_ERROR_IRQ), (9, .TARGET_RX_FIFO_ERROR_ERROR_IRQ),
    (8, .TARGET_RX_FIFO_OVERFLOW_ERROR_IRQ), (7, .TARGET_RX_FIFO_UNDERFLOW_ERROR_IRQ),
    (6, .TARGET_DESC_FIFO_ERROR_IRQ), (5, .TARGET_DESC_FIFO_OVERFLOW_ERROR_IRQ),
    (4, .TARGET_DESC_FIFO_UNDERFLOW_ERROR_IRQ), (3, .TARGET_DESC_ERROR_IRQ),
    (2, .TARGET_PHY_UNEXPTD_BUS_IDLE_ERROR_IRQ),
    (1, .TARGET_PHY_SMBDAT_LOW_TIMEOUT_DESC_ERROR_IRQ),
    (0, .TARGET_PHY_SMBCLK_LOW_TIMEOUT_ERROR_IRQ)]

def targetInterrupts : List (ℕ × Event) :=
  [(1, .TARGET_LOA_ERROR_IRQ), (2, .TARGET_PEC_ERROR_IRQ), (6, .TARGET_READ_IRQ),
    (7, .TARGET_WRITE_IRQ), (5, .TARGET_DATA_IRQ), (3, .TARGET_DONE_IRQ),
    (8, .DESC_FIFO_ALMOST_EMPTY_IRQ)]

def controllerErrorInterrupts : List (ℕ × Event) :=
  [(18, .CONTROLLER_PHY_CTLR_TEXT_TIMEOUT_ERROR_IRQ),
    (19, .CONTROLLER_PHY_CTLR_CEXT_TIMEOUT_ERROR_IRQ), (17, .CONTROLLER_RX_FIFO_ERROR_IRQ),
    (16, .CONTROLLER_RX_FIFO_OVERFLOW_ERROR_IRQ), (15, .CONTROLLER_RX_FIFO_UNDERFLOW_ERROR_IRQ),
    (14, .CONTROLLER_DESC_FIFO_ERROR_IRQ), (13, .CONTROLLER_DESC_FIFO_OVERFLOW_ERROR_IRQ),
    (12, .CONTROLLER_DESC_FIFO_UNDERFLOW_ERROR_IRQ), (11, .CONTROLLER_DESC_ERROR_IRQ)]

def controllerInterrupts : List (ℕ × Event) :=
  [(9, .CONTROLLER_LOA_ERROR_IRQ), (10, .CONTROLLER_NACK_ERROR_IRQ),
    (11, .CONTROLLER_PEC_ERROR_IRQ), (14, .CONTROLLER_DATA_IRQ),
    (15, .CONTROLLER_DESC_FIFO_ALMOST_EMPTY_IRQ), (12, .CONTROLLER_DONE_IRQ)]

def raised (table : List (ℕ × Event)) (vector : ℕ) : List Event :=
  (table.filter fun x => vector.testBit x.1).map Prod.snd

/-- The error vector, which is read only when the error interrupt is raised. -/
def errorVector (vector errors : ℕ) : ℕ :=
  if vector.testBit INTERRUPT_ERROR_IRQ = true then errors else 0

/-- The target interrupts and the error interrupt, bits 0 to 8. -/
def INTERRUPT_TGT_OR_ERROR : ℕ := 0x1FF

/-- The controller interrupts and the error interrupt, bits 0 and 9 to 15. -/
def INTERRUPT_CTLR_OR_ERROR : ℕ := 0xFE01

/-- The events of an interrupt go to the instance and the queue is drained. -/
def vRaise (n : ℕ) (events : List Event) : Routine Unit := do
  forEach (vSMBusCreateEvent n) events
  modify fun s => { s with handling := true }

/-- The target half of `vSMBusInterruptHandler`. A read or write interrupt selects the active
target instance by its address. -/
def vTargetInterrupts (vector errors ucAddress : ℕ) : Routine Unit :=
  if vector &&& INTERRUPT_TGT_OR_ERROR ≠ 0 then do
    (if vector.testBit 6 = true ∨ vector.testBit 7 = true then
      modify fun s =>
        { s with ucActiveTargetInstance := s.instanceFromTargetAddress ucAddress }
    else pure ())
    let s ← get
    if s.ucActiveTargetInstance ≤ LAST_INSTANCE then
      vRaise s.ucActiveTargetInstance
        (raised targetErrorInterrupts (errorVector vector errors) ++
          raised targetInterrupts vector)
    else write .TgtRxFifoReset
  else pure ()

/-- The controller half of `vSMBusInterruptHandler`. -/
def vControllerInterrupts (vector errors : ℕ) : Routine Unit :=
  if vector &&& INTERRUPT_CTLR_OR_ERROR ≠ 0 then do
    let s ← get
    if s.ucInstanceInPlay ≤ LAST_INSTANCE then
      vRaise s.ucInstanceInPlay
        (raised controllerErrorInterrupts (errorVector vector errors) ++
          raised controllerInterrupts vector)
    else do
      write .CtrlRxFifoReset
      write .CtrlDescFifoReset
  else pure ()

/-! ### Runs -/

/-- The first instance in use that has an event. -/
def Profile.pending (s : Profile) : Option ℕ :=
  (List.range NUM_INSTANCES).find? fun i =>
    (s.xConfig i).ucInstanceInUse = true ∧ s.xEventSrcCircularBuf i ≠ []

/-- The queue is not being drained, or is empty. -/
def Profile.idle (s : Profile) : Prop := s.handling = false ∨ s.pending = none

instance (s : Profile) : Decidable s.idle := by unfold Profile.idle; infer_instance

/-- The state in which the next event is handled: it is off the queue, and the step has the
registers it will read and the answers of the application. -/
def Profile.take (s : Profile) (n : ℕ) (registers : List ℕ) (answer : Answer) : Profile :=
  { s with
    xEventSrcCircularBuf :=
      Function.update s.xEventSrcCircularBuf n (s.xEventSrcCircularBuf n).tail
    registers := registers
    answer := answer }

/-- One round of `vSMBusEventQueueHandle`. -/
def vSMBusEventQueueHandle (s : Profile) (registers : List ℕ) (answer : Answer) :
    Option Profile :=
  if s.handling = true then
    s.pending.bind fun n => (s.xEventSrcCircularBuf n).head?.map fun e =>
      exec (vSMBusFSM n e) (s.take n registers answer)
  else none

inductive Action
  | createSMBus (a : CreateSMBus)
  | createI2C (a : CreateI2C)
  | destroySMBus (ucSMBusInstanceID : ℕ)
  | destroyI2C (ucDeviceId : ℕ)
  | initiate (a : Initiate)
  | i2cWrite (ucDeviceId ucAddr : ℕ) (pucData : ℕ → ℕ) (usNumBytes : ℕ)
  | i2cRead (ucDeviceId ucAddr usNumBytes : ℕ)
  | i2cWriteRead (ucDeviceId ucAddr : ℕ) (pucWriteData : ℕ → ℕ)
      (usNumWriteBytes usNumReadBytes : ℕ)
  | targetInterrupts (vector errors ucAddress : ℕ)
  | controllerInterrupts (vector errors : ℕ)
  | handle (registers : List ℕ) (answer : Answer)

/-- The entry points and interrupt halves, which begin with no draining in progress. -/
def Action.entry : Action → Routine Unit
  | .createSMBus a => do
    let _ ← ucCreateSMBusInstance a
    pure ()
  | .createI2C a => do
    let _ ← ucI2CCreateDevice a
    pure ()
  | .destroySMBus n => do
    let _ ← xDestroySMBusInstance n
    pure ()
  | .destroyI2C n => do
    let _ ← ucI2CDestroyDevice n
    pure ()
  | .initiate a => do
    let _ ← xSMBusControllerInitiateCommand a
    pure ()
  | .i2cWrite n addr data size => do
    let _ ← ucI2CWriteData n addr data size
    pure ()
  | .i2cRead n addr size => do
    let _ ← ucI2CReadData n addr size
    pure ()
  | .i2cWriteRead n addr data size readSize => do
    let _ ← ucI2CWriteReadData n addr data size readSize
    pure ()
  | .targetInterrupts vector errors addr => vTargetInterrupts vector errors addr
  | .controllerInterrupts vector errors => vControllerInterrupts vector errors
  | .handle _ _ => pure ()

def step (s : Profile) : Action → Option Profile
  | .handle registers answer => vSMBusEventQueueHandle s registers answer
  | a => if s.idle then some (exec a.entry { s with handling := false }) else none

end Amr.Smbus
