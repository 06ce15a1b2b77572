/-
# Actions of the state machine

`smbus_action.c`, `smbus_event.c` and the parts of `smbus_hw_access.c` that the state machine
uses. Every function works on the instance whose number it is given. A register that the step
supplies no value for reads as an empty FIFO, so that the loops which drain a FIFO end.
-/
import Amr.Lib.StateProgram
import Amr.Smbus.Profile

namespace Amr.Smbus

open StateProgram

/-! ### Access to the profile -/

def transfer (n : ℕ) : Routine Transfer := do
  let s ← get
  pure (s.xTransfer n)

def config (n : ℕ) : Routine Config := do
  let s ← get
  pure (s.xConfig n)

/-- Changes transfer fields of an instance. -/
def setTransfer (n : ℕ) (f : Transfer → Transfer) : Routine Unit :=
  modify fun s => { s with xTransfer := Function.update s.xTransfer n (f (s.xTransfer n)) }

/-- Changes the configuration of an instance. -/
def setConfig (n : ℕ) (f : Config → Config) : Routine Unit :=
  modify fun s => { s with xConfig := Function.update s.xConfig n (f (s.xConfig n)) }

/-- The value of the next register that the step reads. -/
def register (fallback : ℕ) : Routine ℕ := do
  let s ← get
  modify fun s => { s with registers := s.registers.tail }
  pure (s.registers.headD fallback)

def write (w : RegisterWrite) : Routine Unit :=
  modify fun s => { s with written := s.written ++ [w] }

def call (c : Call) : Routine Unit :=
  modify fun s => { s with calls := s.calls ++ [c] }

def fault (f : Fault) : Routine Unit :=
  modify fun s => { s with faults := s.faults ++ [f] }

/-- Notes a byte taken from the target FIFO. -/
def noteReceived (b : ℕ) : Routine Unit :=
  modify fun s => { s with received := s.received ++ [b] }

/-- Changes the candidates of an address assignment. -/
def setUDIDMatch (f : (ℕ → Bool) → ℕ → Bool) : Routine Unit :=
  modify fun s => { s with ucUDIDMatch := f s.ucUDIDMatch }

/-- Notes a callback that announces a result. -/
def announce (f : Profile → Result) : Routine Unit :=
  modify fun s => { s with results := s.results ++ [f s] }

/-- One more, in a `uint16_t`. -/
def inc16 (n : ℕ) : ℕ := (n + 1) % 2 ^ 16

/-! ### Registers -/

def ulSMBusHWReadTgtRxFifoPayload : Routine ℕ := do
  let v ← register 0
  noteReceived (v % 2 ^ 8)
  pure (v % 2 ^ 8)

def ulSMBusHWReadTgtRxFifoStatusEmpty : Routine Bool := do
  let v ← register 1
  pure (v % 2 = 1)

/-- `ulSMBusHWReadTgtRxFifoStatusFillLevel`, a field of seven bits. -/
def ulSMBusHWReadTgtRxFifoStatusFillLevel : Routine ℕ := do
  let v ← register 0
  pure (v % 2 ^ 7)

def ulSMBusHWReadTgtDescStatusFillLevel : Routine ℕ := do
  let v ← register 0
  pure (v % 2 ^ 7)

def ulSMBusHWReadTgtDescStatusFull : Routine Bool := do
  let v ← register 0
  pure (v % 2 = 1)

def ulSMBusHWReadCtrlRxFifoPayload : Routine ℕ := do
  let v ← register 0
  pure (v % 2 ^ 8)

def ulSMBusHWReadCtrlRxFifoStatusEmpty : Routine Bool := do
  let v ← register 1
  pure (v % 2 = 1)

def ulSMBusHWReadCtrlDescStatusFillLevel : Routine ℕ := do
  let v ← register 0
  pure (v % 2 ^ 7)

def ulSMBusHWReadCtrlDescStatusFull : Routine Bool := do
  let v ← register 0
  pure (v % 2 = 1)

/-- `vSMBusHWWriteTgtControlEnable`, a field of one bit; an instance number that has no register
is ignored. -/
def vSMBusHWWriteTgtControlEnable (n value : ℕ) : Routine Unit :=
  modify fun s =>
    if n < NUM_INSTANCES then
      { s with tgtControlEnable := Function.update s.tgtControlEnable n (value % 2) }
    else s

/-- `vSMBusHWWriteTgtControlAddress`, a field of seven bits. -/
def vSMBusHWWriteTgtControlAddress (n value : ℕ) : Routine Unit :=
  modify fun s =>
    if n < NUM_INSTANCES then
      { s with tgtControlAddress := Function.update s.tgtControlAddress n (value % 2 ^ 7) }
    else s

/-- `prvucSMBusTargetDescriptorApply`: true where the source returns success. -/
def prvucSMBusTargetDescriptorApply (w : RegisterWrite) (ucNoStatusCheck : Bool) :
    Routine Bool := do
  let full ← (if ucNoStatusCheck = true then pure false else ulSMBusHWReadTgtDescStatusFull)
  if full = true then pure false
  else do
    write w
    pure true

def prvucSMBusControllerDescriptorApply (w : RegisterWrite) (ucNoStatusCheck : Bool) :
    Routine Bool := do
  let full ← (if ucNoStatusCheck = true then pure false else ulSMBusHWReadCtrlDescStatusFull)
  if full = true then pure false
  else do
    write w
    pure true

def ucSMBusTargetReadDescriptorRead (ucData : ℕ) : Routine Bool :=
  prvucSMBusTargetDescriptorApply (.TARGET_READ ucData) false

def ucSMBusTargetReadDescriptorPECRead : Routine Bool :=
  prvucSMBusTargetDescriptorApply .TARGET_READ_PEC false

def ucSMBusTargetWriteDescriptorACK (ucNoStatusCheck : Bool) : Routine Bool :=
  prvucSMBusTargetDescriptorApply .TARGET_WRITE_ACK ucNoStatusCheck

def ucSMBusTargetWriteDescriptorNACK : Routine Bool :=
  prvucSMBusTargetDescriptorApply .TARGET_WRITE_NACK false

def ucSMBusTargetWriteDescriptorPEC : Routine Bool :=
  prvucSMBusTargetDescriptorApply .TARGET_WRITE_PEC false

def ucSMBusControllerWriteDescriptorStartWrite (ucDestination : ℕ) : Routine Bool :=
  prvucSMBusControllerDescriptorApply (.CONTROLLER_WRITE_START ucDestination) false

def ucSMBusControllerWriteDescriptorQuickWrite (ucDestination : ℕ) : Routine Bool :=
  prvucSMBusControllerDescriptorApply (.CONTROLLER_WRITE_QUICK ucDestination) false

def ucSMBusControllerWriteDescriptorByte (ucData : ℕ) (ucNoStatusCheck : Bool) : Routine Bool :=
  prvucSMBusControllerDescriptorApply (.CONTROLLER_WRITE_BYTE ucData) ucNoStatusCheck

def ucSMBusControllerWriteDescriptorStopWrite (ucData : ℕ) : Routine Bool :=
  prvucSMBusControllerDescriptorApply (.CONTROLLER_WRITE_STOP ucData) false

def ucSMBusControllerWriteDescriptorPECWrite : Routine Bool :=
  prvucSMBusControllerDescriptorApply .CONTROLLER_WRITE_PEC false

def ucSMBusControllerReadDescriptorStart (ucDestination : ℕ) : Routine Bool :=
  prvucSMBusControllerDescriptorApply (.CONTROLLER_READ_START ucDestination) false

def ucSMBusControllerReadDescriptorQuickRead (ucDestination : ℕ) : Routine Bool :=
  prvucSMBusControllerDescriptorApply (.CONTROLLER_READ_QUICK ucDestination) false

def ucSMBusControllerReadDescriptorByte (ucNoStatusCheck : Bool) : Routine Bool :=
  prvucSMBusControllerDescriptorApply .CONTROLLER_READ_BYTE ucNoStatusCheck

def ucSMBusControllerReadDescriptorStop : Routine Bool :=
  prvucSMBusControllerDescriptorApply .CONTROLLER_READ_STOP false

def ucSMBusControllerReadDescriptorPEC : Routine Bool :=
  prvucSMBusControllerDescriptorApply .CONTROLLER_READ_PEC false

/-- `while( !isEmpty ) body`. Every round reads a register, so there are no more rounds than
registers left. -/
def whileNotEmpty (isEmpty : Routine Bool) (body : Routine Unit) : Routine Unit := do
  let s ← get
  forBreak (do
    let empty ← isEmpty
    if empty = true then pure false
    else do
      body
      pure true) (s.registers.length + 1)

/-! ### Events -/

/-- `vSMBusCreateEvent`: an event is dropped when the buffer is full. -/
def vSMBusCreateEvent (n : ℕ) (ucAnyEvent : Event) : Routine Unit :=
  modify fun s =>
    if (s.xEventSrcCircularBuf n).length < MAX_EVENT_ELEMENTS then
      { s with
        xEventSrcCircularBuf :=
          Function.update s.xEventSrcCircularBuf n (s.xEventSrcCircularBuf n ++ [ucAnyEvent]) }
    else s

def vSMBusHandleActionCreateEventIsPECRequired (n : ℕ) : Routine Unit :=
  vSMBusCreateEvent n .IS_PEC_REQUIRED

def vSMBusHandleActionCreateEventSendNextByte (n : ℕ) : Routine Unit :=
  vSMBusCreateEvent n .SEND_NEXT_BYTE

/-! ### Actions -/

/-- What `vSMBusHandleActionResetAllData` makes of the transfer fields. -/
def Transfer.reset (t : Transfer) : Transfer :=
  { t with
    ucCommand := COMMAND_INVALID
    xProtocol := .NONE
    usSendDataSize := 0
    usSendIndex := 0
    usReceiveIndex := 0
    usExpectedByteCount := 0
    ucNewDeviceSlaveAddr := 0
    ucNackSent := false
    usDescriptorsSent := 0
    ucPECSent := false
    ucFifoEmptyWhileInDoneCount := 0
    ucUDIDMatchedInstance := INVALID_INSTANCE }

/-- `vSMBusHandleActionResetAllData`: the instance in play gives the bus back, any other instance
ends the active target transfer. -/
def vSMBusHandleActionResetAllData (n : ℕ) : Routine Unit := do
  setTransfer n Transfer.reset
  let s ← get
  if (s.xConfig n).ucThisInstanceNum = s.ucInstanceInPlay then do
    modify fun s => { s with ucInstanceInPlay := INVALID_INSTANCE }
    whileNotEmpty ulSMBusHWReadCtrlRxFifoStatusEmpty (do
      let _ ← ulSMBusHWReadCtrlRxFifoPayload
      pure ())
    write .CtrlRxFifoReset
    write .CtrlDescFifoReset
  else do
    modify fun s => { s with ucActiveTargetInstance := INVALID_INSTANCE }
    whileNotEmpty ulSMBusHWReadTgtRxFifoStatusEmpty (do
      let _ ← ulSMBusHWReadTgtRxFifoPayload
      pure ())
    write .TgtRxFifoReset

def vSMBusHandleActionGetProtocol (n : ℕ) : Routine Unit := do
  let c ← config n
  if c.pFnGetProtocol = true then do
    let empty ← ulSMBusHWReadTgtRxFifoStatusEmpty
    if empty = true then pure ()
    else do
      let ucCommand ← ulSMBusHWReadTgtRxFifoPayload
      call (.getProtocol n ucCommand)
      let s ← get
      setTransfer n fun t => { t with ucCommand := ucCommand, xProtocol := s.answer.protocol }
  else pure ()

/-- The protocol of an ARP command byte, `none` where it is undetermined. -/
def arpProtocol (ucARPCommand : ℕ) : Option Protocol :=
  if ucARPCommand = 0x01 then some .ARP_PREPARE_TO_ARP
  else if ucARPCommand = 0x02 then some .ARP_RESET_DEVICE
  else if ucARPCommand = 0x03 then some .ARP_GET_UDID
  else if ucARPCommand = 0x04 then some .ARP_ASSIGN_ADDRESS
  else if ucARPCommand ≤ 0x1f then none
  else if ucARPCommand % 2 = 1 then some .ARP_GET_UDID_DIRECTED
  else some .ARP_RESET_DEVICE_DIRECTED

/-- `ucSMBusHandleActionGetARPProtocol`: true where the protocol is determined. A directed command
carries the address in its upper bits. -/
def ucSMBusHandleActionGetARPProtocol (n : ℕ) : Routine Bool := do
  let empty ← ulSMBusHWReadTgtRxFifoStatusEmpty
  if empty = true then pure false
  else do
    let ucARPCommand ← ulSMBusHWReadTgtRxFifoPayload
    setTransfer n fun t => { t with ucCommand := ucARPCommand }
    (if (arpProtocol ucARPCommand).isSome = true then
      setTransfer n fun t =>
        { t with xProtocol := (arpProtocol ucARPCommand).getD t.xProtocol }
    else pure ())
    (if 0x1f < ucARPCommand then
      setTransfer n fun t => { t with ucMatchedSMBusAddr := (ucARPCommand &&& 0xFE) / 2 }
    else pure ())
    pure (arpProtocol ucARPCommand).isSome

/-- The number of bytes to send for a protocol of fixed length. -/
def sendSize (p : Protocol) (usTempSendDataSize : ℕ) : ℕ :=
  if p = .READ_64 then 8
  else if p = .READ_32 then 4
  else if p = .READ_WORD then 2
  else if p = .READ_BYTE then 1
  else if p = .PROCESS_CALL then 2
  else if p = .RECEIVE_BYTE then 1
  else usTempSendDataSize

/-- `memcpy` of the first `size` bytes. -/
def memcpy (dest src : ℕ → ℕ) (size : ℕ) : ℕ → ℕ :=
  fun k => if k < size then src k else dest k

def vSMBusHandleActionGetDataFromApplication (n : ℕ) : Routine Unit := do
  let c ← config n
  if c.pFnGetData = true then do
    let t ← transfer n
    call (.getData n t.ucCommand)
    let s ← get
    if s.answer.sendDataSize ≤ DATA_SIZE_MAX then
      setTransfer n fun t =>
        { t with
          ucSendData := memcpy t.ucSendData s.answer.sendData s.answer.sendDataSize
          usSendDataSize := sendSize t.xProtocol s.answer.sendDataSize }
    else pure ()
  else pure ()

/-- `vSMBusHandleActionWriteDataToApplication`: the transaction is that of the profile, unless the
instance is not the one in play. -/
def vSMBusHandleActionWriteDataToApplication (n ulTransactionID : ℕ) : Routine Unit := do
  let c ← config n
  if c.pFnWriteData = true then do
    let s ← get
    let t ← transfer n
    (if DATA_SIZE_MAX < t.usExpectedByteCount then fault .receivedData else pure ())
    call (.writeData n t.ucCommand
      ((List.range t.usExpectedByteCount).map t.ucReceivedData)
      (if c.ucThisInstanceNum = s.ucInstanceInPlay then ulTransactionID % 2 ^ 8 else 0))
  else pure ()

/-- The command that a result callback of an instance is about: that of the instance in play. -/
def Profile.commandOf (s : Profile) (n : ℕ) : Option Accepted :=
  if (s.xConfig n).ucThisInstanceNum = s.ucInstanceInPlay then s.current else none

def vSMBusHandleActionAnnounceResultToApplication (n ulTransactionID : ℕ) (success : Bool) :
    Routine Unit := do
  let c ← config n
  if c.pFnAnnounceResult = true then
    announce fun s =>
      { instanceNum := n
        i2c := false
        ucCommand := (s.xTransfer n).ucCommand
        transaction :=
          if c.ucThisInstanceNum = s.ucInstanceInPlay then ulTransactionID % 2 ^ 8 else 0
        success := success
        command := s.commandOf n }
  else pure ()

def vSMBusHandleActionNotifyAddressChangeToApplication (n : ℕ) : Routine Unit := do
  let c ← config n
  if c.pFnArpAddrChange = true then call (.arpAddrChange n c.ucSMBusAddr) else pure ()

def vSMBusHandleActionBusError (n : ℕ) (ucError : Event) : Routine Unit := do
  let c ← config n
  if c.pFnBusError = true then call (.busError n ucError) else pure ()

def vSMBusHandleActionBusWarning (n : ℕ) (ucWarning : Event) : Routine Unit := do
  let c ← config n
  if c.pFnBusWarning = true then call (.busWarning n ucWarning) else pure ()

def vSMBusHandleActionGetI2CDataFromApplication (n : ℕ) : Routine Unit := do
  let c ← config n
  if c.pFnI2CGetData = true then do
    call (.getI2CData n)
    let s ← get
    if s.answer.sendDataSize ≤ DATA_SIZE_MAX then
      setTransfer n fun t =>
        { t with
          ucSendData := memcpy t.ucSendData s.answer.sendData s.answer.sendDataSize
          usSendDataSize := s.answer.sendDataSize }
    else pure ()
  else pure ()

def vSMBusHandleActionWriteI2CDataToApplication (n : ℕ) : Routine Unit := do
  let c ← config n
  if c.pFnI2CWriteData = true then do
    let t ← transfer n
    (if DATA_SIZE_MAX < t.usReceiveIndex then fault .receivedData else pure ())
    call (.writeI2CData n ((List.range t.usReceiveIndex).map t.ucReceivedData))
  else pure ()

def vSMBusHandleActionAnnounceI2CResultToApplication (n : ℕ) (success : Bool) :
    Routine Unit := do
  let c ← config n
  if c.pFnI2CAnnounceResult = true then
    announce fun s =>
      { instanceNum := n
        i2c := true
        ucCommand := (s.xTransfer n).ucCommand
        transaction := 0
        success := success
        command := s.commandOf n }
  else pure ()

end Amr.Smbus
