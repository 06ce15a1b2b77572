/-
# The state machine

`smbus_state.c`: one handler for each of the fifteen states and `vSMBusFSM`, which picks one. Every
handler treats the time-outs, the target errors, the controller errors and the events it does not
expect alike (`vOtherEvent`), but for one: `AWAITING_DONE` announces a target error as well. A
`switch` or a run of tests on the protocol, which no branch changes, is a chain of alternatives.
-/
import Amr.Smbus.Action

namespace Amr.Smbus

open StateProgram

/-! ### Shared by the handlers -/

def vSMBusNextStateDecoder (n : ℕ) (xNewState : State) : Routine Unit :=
  modify fun s => { s with xState := Function.update s.xState n xNewState }

/-- The exit that ends a transfer: `vSMBusHandleActionResetAllData` and the initial state. -/
def vResetToInitial (n : ℕ) : Routine Unit := do
  vSMBusHandleActionResetAllData n
  vSMBusNextStateDecoder n .INITIAL

/-- `vSMBusHandleActionAnnounceResultToApplication` with the transaction id of the profile. -/
def vAnnounceResult (n : ℕ) (success : Bool) : Routine Unit := do
  let s ← get
  vSMBusHandleActionAnnounceResultToApplication n s.ulTransactionID success

/-- `vSMBusHandleActionWriteDataToApplication` with the transaction id of the profile. -/
def vWriteData (n : ℕ) : Routine Unit := do
  let s ← get
  vSMBusHandleActionWriteDataToApplication n s.ulTransactionID

def vSMBusSendNACK (n : ℕ) : Routine Unit := do
  let _ ← ucSMBusTargetWriteDescriptorNACK
  setTransfer n fun t => { t with ucNackSent := true }

/-- The events that every state handles alike: a warning is passed on, an error is passed on and
ends the transfer, a controller error is also announced, and an unexpected event ends the
transfer. -/
def vOtherEvent (n : ℕ) (ucAnyEvent : Event) : Routine Unit :=
  if ucAnyEvent ∈ Event.warnings then vSMBusHandleActionBusWarning n ucAnyEvent
  else if ucAnyEvent ∈ Event.targetErrors then do
    vSMBusHandleActionBusError n ucAnyEvent
    vResetToInitial n
  else if ucAnyEvent ∈ Event.controllerErrors then do
    vSMBusHandleActionBusError n ucAnyEvent
    vAnnounceResult n false
    vResetToInitial n
  else vResetToInitial n

/-- `usExpectedByteCount` and `ucExpectedByteCountPart` of a protocol of fixed length. -/
def vExpect (n size : ℕ) : Routine Unit :=
  setTransfer n fun t => { t with usExpectedByteCount := size, ucExpectedByteCountPart := size }

/-- `ucReceivedData[usReceiveIndex++] = payload`. -/
def vReceiveByte (n : ℕ) (payload : Routine ℕ) : Routine Unit := do
  let b ← payload
  let t ← transfer n
  (if DATA_SIZE_MAX ≤ t.usReceiveIndex then fault .receivedData else pure ())
  setTransfer n fun t =>
    { t with
      ucReceivedData := Function.update t.ucReceivedData t.usReceiveIndex b
      usReceiveIndex := inc16 t.usReceiveIndex }

/-- The loop that takes as many bytes from the target FIFO as its fill level says. -/
def vReceiveFill (n : ℕ) : Routine Unit := do
  let ucCurrentFill ← ulSMBusHWReadTgtRxFifoStatusFillLevel
  times (vReceiveByte n ulSMBusHWReadTgtRxFifoPayload) ucCurrentFill

/-- The loop that empties the controller FIFO. -/
def vReceiveAll (n : ℕ) : Routine Unit :=
  whileNotEmpty ulSMBusHWReadCtrlRxFifoStatusEmpty
    (vReceiveByte n ulSMBusHWReadCtrlRxFifoPayload)

/-- The value of `ucSendData[usSendIndex]`. -/
def ucNextSendByte (n : ℕ) : Routine ℕ := do
  let t ← transfer n
  (if DATA_SIZE_MAX ≤ t.usSendIndex then fault .sendData else pure ())
  pure (t.ucSendData t.usSendIndex)

/-- `usDescriptorsSent++`. -/
def vDescriptorSent (n : ℕ) : Routine Unit :=
  setTransfer n fun t => { t with usDescriptorsSent := inc16 t.usDescriptorsSent }

/-- An ACK descriptor, counted when it is written. -/
def vCountedACK (n : ℕ) : Routine Unit := do
  let ok ← ucSMBusTargetWriteDescriptorACK false
  if ok = true then vDescriptorSent n else pure ()

/-- The loop that fills the target descriptor FIFO with ACKs, up to `limit` of them. -/
def vFillACK (n : ℕ) (limit : Transfer → ℕ) : Routine Unit := do
  let ucCurrentFill ← ulSMBusHWReadTgtDescStatusFillLevel
  forBreak (do
    let t ← transfer n
    if t.usDescriptorsSent < limit t then do
      let ok ← ucSMBusTargetWriteDescriptorACK true
      if ok = true then do
        vDescriptorSent n
        pure true
      else pure false
    else pure true) (FIFO_DEPTH - ucCurrentFill)

/-- The threshold write and part count that follow a byte count, `size` at most. -/
def vCtrlExpectPart (n : ℕ) : Routine Unit := do
  setTransfer n fun t =>
    { t with
      ucExpectedByteCountPart :=
        if t.usExpectedByteCount < HALF_FIFO_DEPTH then t.usExpectedByteCount
        else HALF_FIFO_DEPTH }
  let t ← transfer n
  if 0 < t.ucExpectedByteCountPart then
    write (.CtrlRxFifoFillThreshold t.ucExpectedByteCountPart)
  else pure ()

/-! ### `SMBUS_STATE_INITIAL` -/

/-- The `switch` on the protocol when a controller command starts. -/
def vStartCommand (n : ℕ) (p : Protocol) : Routine Unit := do
  let t ← transfer n
  if p = .QUICK_CMD_LO then do
    let _ ← ucSMBusControllerWriteDescriptorQuickWrite t.ucSMBusDestAddr
    write .CtrlControlEnable
    vSMBusNextStateDecoder n .AWAITING_DONE
  else if p = .QUICK_CMD_HI then do
    let _ ← ucSMBusControllerReadDescriptorQuickRead t.ucSMBusDestAddr
    write .CtrlControlEnable
    vSMBusNextStateDecoder n .AWAITING_DONE
  else if p = .RECEIVE_BYTE then do
    vExpect n 1
    vSMBusHandleActionCreateEventSendNextByte n
    vSMBusNextStateDecoder n .CONTROLLER_SEND_READ_START
  else if p ∈ [.I2C_WRITE, .I2C_WRITE_READ] then do
    let _ ← ucSMBusControllerWriteDescriptorStartWrite t.ucSMBusDestAddr
    vSMBusHandleActionCreateEventSendNextByte n
    vSMBusNextStateDecoder n .CONTROLLER_WRITE_BYTE
  else if p = .I2C_READ then do
    let _ ← ucSMBusControllerReadDescriptorStart t.ucSMBusDestAddr
    write .CtrlControlEnable
    vCtrlExpectPart n
    vSMBusNextStateDecoder n .CONTROLLER_READ_BYTE
  else do
    let _ ← ucSMBusControllerWriteDescriptorStartWrite t.ucSMBusDestAddr
    vSMBusHandleActionCreateEventSendNextByte n
    vSMBusNextStateDecoder n .CONTROLLER_SEND_COMMAND

/-- `vDefaultSMBusFSMSMBusStateInitial`. -/
def vStateInitial (n : ℕ) (ucAnyEvent : Event) : Routine Unit :=
  match ucAnyEvent with
  | .TARGET_WRITE_IRQ => do
    let c ← config n
    if c.ucSimpleDevice = false then
      if c.ulI2CDevice = true then vSMBusNextStateDecoder n .AWAITING_DATA
      else vSMBusNextStateDecoder n .AWAITING_COMMAND_BYTE
    else do
      setTransfer n fun t => { t with xProtocol := .SEND_BYTE }
      vExpect n 1
      write (.TgtRxFifoFillThreshold 1)
      vCountedACK n
      vSMBusNextStateDecoder n .AWAITING_DATA
  | .TARGET_READ_IRQ => do
    let c ← config n
    if c.ucSimpleDevice = false then
      if c.ulI2CDevice = true then do
        vSMBusHandleActionGetI2CDataFromApplication n
        vSMBusNextStateDecoder n .READY_TO_SEND_BYTE
      else do
        let _ ← ucSMBusTargetReadDescriptorRead UNEXPECTED_READ_DESCRIPTOR_DATA
        vResetToInitial n
    else do
      setTransfer n fun t => { t with xProtocol := .RECEIVE_BYTE }
      vSMBusHandleActionGetDataFromApplication n
      vSMBusNextStateDecoder n .READY_TO_SEND_BYTE
  | .SEND_NEXT_BYTE => do
    let t ← transfer n
    vStartCommand n t.xProtocol
  | ucAnyEvent => vOtherEvent n ucAnyEvent

/-! ### `SMBUS_STATE_AWAITING_COMMAND_BYTE` -/

/-- `vInstanceSwap` on two elements of a list of instances. -/
def vInstanceSwap (l : ℕ → ℕ) (a b : ℕ) : ℕ → ℕ :=
  Function.update (Function.update l a (l b)) b (l a)

/-- `vUDIDInstanceSort`: a selection sort on one byte of the UDIDs. -/
def vUDIDInstanceSort (ucUDID : ℕ → ℕ → ℕ) (l : ℕ → ℕ) (ucArraySize ucUDIDByteIndex : ℕ) :
    ℕ → ℕ :=
  (List.range (ucArraySize - 1)).foldl (fun l ucOuter =>
    vInstanceSwap l
      ((List.range' (ucOuter + 1) (ucArraySize - (ucOuter + 1))).foldl (fun ucSmallest ucInner =>
        if ucUDID (l ucInner) ucUDIDByteIndex < ucUDID (l ucSmallest) ucUDIDByteIndex then ucInner
        else ucSmallest) ucOuter)
      ucOuter) l

/-- `ucUdidList[k]`, an array of `SMBUS_NUM_NON_ARP_INSTANCES` elements. -/
def udidListGet (stray : ℕ) (l : ℕ → ℕ) (k : ℕ) : ℕ :=
  if k < NUM_NON_ARP_INSTANCES then l k else stray

/-- The elimination of candidates, from byte `k - 1` of the UDIDs down: the list, its size, and
whether an element past its end was read. -/
def eliminate (ucUDID : ℕ → ℕ → ℕ) (stray : ℕ) :
    ℕ → (ℕ → ℕ) × ℕ × Bool → (ℕ → ℕ) × ℕ × Bool
  | 0, x => x
  | i + 1, (l, size, past) =>
    let l := vUDIDInstanceSort ucUDID l size i
    let j := (List.range size).find? fun j =>
      ucUDID (l j) i ≠ ucUDID (udidListGet stray l (j + 1)) i
    let past := past || decide (NUM_NON_ARP_INSTANCES ≤ j.getD (size - 1) + 1)
    let size := (j.map (· + 1)).getD size
    if size = 1 then (l, size, past) else eliminate ucUDID stray i (l, size, past)

/-- The instances that may answer a general `GET_UDID`. -/
def Profile.udidCandidates (s : Profile) : List ℕ :=
  (List.range NUM_NON_ARP_INSTANCES).filter fun i =>
    (s.xConfig i).ucInstanceInUse = true ∧
      (s.xConfig i).xARPCapability ∈ [.ARP_CAPABLE, .FIXED_AND_DISCOVERABLE] ∧
      s.ucInstanceInPlay ≠ i ∧ (s.xConfig i).ucARFlag = false

/-- The UDID part of a reply, most significant byte first, after its length. -/
def udidReply (dest ucUDID : ℕ → ℕ) (last : ℕ) : ℕ → ℕ := fun k =>
  if k = 0 then GET_UDID_DATA_LENGTH
  else if k ≤ UDID_LENGTH then ucUDID (UDID_DEVICE_CAPABILITIES_BYTE - (k - 1))
  else if k = UDID_ASSIGNED_ADDRESS_BYTE then last
  else dest k

/-- The answer to an ARP command: an ACK and the next state, or a NACK. -/
def vAnswerARP (n : ℕ) (ucOKToACK : Bool) (xNewState : State) : Routine Unit :=
  if ucOKToACK = true then do
    let _ ← ucSMBusTargetWriteDescriptorACK false
    vSMBusNextStateDecoder n xNewState
  else do
    vSMBusSendNACK n
    vSMBusNextStateDecoder n .AWAITING_DONE

/-- The first instance that holds the address a directed command names and passes a test. -/
def Profile.findDirected (s : Profile) (address : ℕ) (ok : Config → Bool) : Option ℕ :=
  (List.range NUM_NON_ARP_INSTANCES).find? fun i =>
    (s.xConfig i).ucSMBusAddr = address ∧ ok (s.xConfig i) = true

/-- `PREPARE_TO_ARP`, `RESET_DEVICE` and the directed `RESET_DEVICE`. -/
def vARPReset (n : ℕ) (p : Protocol) : Routine Unit := do
  vExpect n 0
  let s ← get
  let t ← transfer n
  let ucOKToACK := (List.range NUM_NON_ARP_INSTANCES).any fun i =>
    (s.xConfig i).xARPCapability ∈ [.ARP_CAPABLE, .FIXED_AND_DISCOVERABLE] ∧
      s.ucInstanceInPlay ≠ i
  let directed := (s.findDirected t.ucMatchedSMBusAddr fun _ => true).any fun i =>
    (s.xConfig i).ucAVFlag
  if ucOKToACK = true ∧ (p = .ARP_RESET_DEVICE_DIRECTED → directed = true) then do
    let _ ← ucSMBusTargetWriteDescriptorACK false
    let _ ← ucSMBusTargetWriteDescriptorPEC
    setTransfer n fun t => { t with ucPECSent := true }
    vSMBusNextStateDecoder n .AWAITING_DONE
  else do
    vSMBusSendNACK n
    vSMBusNextStateDecoder n .AWAITING_DONE

def vARPGetUDIDDirected (n : ℕ) : Routine Unit := do
  setTransfer n fun t => { t with usSendDataSize := GET_UDID_MSG_LENGTH }
  let s ← get
  let t ← transfer n
  let i := s.findDirected t.ucMatchedSMBusAddr fun c =>
    decide (c.xARPCapability ≠ .NON_ARP_CAPABLE) && c.ucAVFlag
  setTransfer n fun t =>
    { t with
      ucSendData := (i.map fun i =>
        udidReply t.ucSendData (s.xConfig i).ucUDID
          (((s.xConfig i).ucSMBusAddr * 2 % 2 ^ 8) ||| 1)).getD t.ucSendData }
  vAnswerARP n i.isSome .AWAITING_READ

/-- The general `GET_UDID`. -/
def vARPGetUDID (n : ℕ) : Routine Unit := do
  setTransfer n fun t => { t with usSendDataSize := GET_UDID_MSG_LENGTH }
  let s ← get
  let candidates := s.udidCandidates
  let x := ((fun k => candidates.getD k 0), candidates.length, false)
  let x := if 1 < candidates.length then
    eliminate (fun i => (s.xConfig i).ucUDID) s.answer.stray UDID_LENGTH x else x
  (if x.2.2 = true then fault .udidList else pure ())
  (if 0 < candidates.length then
    setTransfer n fun t =>
      { t with
        ucSendData := udidReply t.ucSendData (s.xConfig (x.1 0)).ucUDID
          (if (s.xConfig (x.1 0)).ucAVFlag = false then 0xFF
          else ((s.xConfig (x.1 0)).ucSMBusAddr * 2 % 2 ^ 8) ||| 1) }
  else pure ())
  vAnswerARP n (decide (0 < candidates.length)) .AWAITING_READ

/-- The part of the handler for the ARP instance, after the command byte. -/
def vARPCommand (n : ℕ) (p : Protocol) : Routine Unit :=
  if p = .ARP_ASSIGN_ADDRESS then do
    setUDIDMatch fun candidate i => if i < NUM_NON_ARP_INSTANCES then true else candidate i
    let _ ← ucSMBusTargetWriteDescriptorACK false
    vSMBusNextStateDecoder n .AWAITING_BLOCK_SIZE
  else if p ∈ [.ARP_PREPARE_TO_ARP, .ARP_RESET_DEVICE, .ARP_RESET_DEVICE_DIRECTED] then
    vARPReset n p
  else if p = .ARP_GET_UDID_DIRECTED then vARPGetUDIDDirected n
  else if p = .ARP_GET_UDID then vARPGetUDID n
  else pure ()

/-- The number of data bytes of a write protocol of fixed length. -/
def writeSize (p : Protocol) : Option ℕ :=
  if p = .WRITE_64 then some 8
  else if p = .WRITE_32 then some 4
  else if p ∈ [.WRITE_WORD, .PROCESS_CALL] then some 2
  else if p = .WRITE_BYTE then some 1
  else none

/-- The two `switch`es on the protocol of a command. -/
def vCommand (n : ℕ) (p : Protocol) : Routine Unit :=
  if p ∈ [.BLOCK_READ, .READ_64, .READ_32, .READ_WORD, .READ_BYTE] then do
    vSMBusHandleActionGetDataFromApplication n
    let _ ← ucSMBusTargetWriteDescriptorACK false
    vSMBusNextStateDecoder n .AWAITING_READ
  else if p ∈ [.WRITE_64, .WRITE_32, .WRITE_WORD, .PROCESS_CALL, .WRITE_BYTE] then do
    let size := (writeSize p).getD 0
    vExpect n size
    write (.TgtRxFifoFillThreshold size)
    times (vCountedACK n) (size + 1)
    let empty ← ulSMBusHWReadTgtRxFifoStatusEmpty
    (if empty = true then pure () else vSMBusCreateEvent n .TARGET_DATA_IRQ)
    vSMBusNextStateDecoder n .AWAITING_DATA
  else if p ∈ [.BLOCK_WRITE, .BLK_WRITE_BLK_RD_PROCESS_CALL] then do
    let _ ← ucSMBusTargetWriteDescriptorACK false
    vSMBusNextStateDecoder n .AWAITING_BLOCK_SIZE
  else do
    vSMBusSendNACK n
    vSMBusNextStateDecoder n .AWAITING_DONE

/-- `vDefaultSMBusFSMSMBusStateAwaitingCommandByte`. -/
def vStateAwaitingCommandByte (n : ℕ) (ucAnyEvent : Event) : Routine Unit :=
  match ucAnyEvent with
  | .DESC_FIFO_ALMOST_EMPTY_IRQ => pure ()
  | .TARGET_DATA_IRQ => do
    let c ← config n
    if c.ucSMBusAddr = NOTIFY_ARP_MASTER_ADDRESS then do
      let b ← ulSMBusHWReadTgtRxFifoPayload
      setTransfer n fun t =>
        { t with xProtocol := .HOST_NOTIFY, ucCommand := b, ucSMBusSenderAddr := b }
      vExpect n 2
      let _ ← ucSMBusTargetWriteDescriptorACK false
      vSMBusNextStateDecoder n .AWAITING_DATA
    else if c.ucSMBusAddr = DEVICE_DEFAULT_ARP_ADDRESS then do
      let determined ← ucSMBusHandleActionGetARPProtocol n
      if determined = true then do
        let t ← transfer n
        vARPCommand n t.xProtocol
      else do
        vSMBusSendNACK n
        vSMBusNextStateDecoder n .AWAITING_DONE
    else do
      vSMBusHandleActionGetProtocol n
      let t ← transfer n
      vCommand n t.xProtocol
  | ucAnyEvent => vOtherEvent n ucAnyEvent

/-! ### `SMBUS_STATE_AWAITING_READ`, `READY_TO_SEND_BYTE` and `CHECK_IF_PEC_REQUIRED` -/

/-- The read protocols of a target, process calls included. -/
def targetReads : List Protocol :=
  [.BLK_WRITE_BLK_RD_PROCESS_CALL, .PROCESS_CALL, .BLOCK_READ, .READ_64, .READ_32, .READ_WORD,
    .READ_BYTE]

/-- `vDefaultSMBusFSMSMBusStateAwaitingRead`. -/
def vStateAwaitingRead (n : ℕ) (ucAnyEvent : Event) : Routine Unit :=
  match ucAnyEvent with
  | .DESC_FIFO_ALMOST_EMPTY_IRQ => vFillACK n Transfer.usExpectedByteCount
  | .TARGET_READ_IRQ => do
    let t ← transfer n
    if t.xProtocol ∈ targetReads ++ [.ARP_GET_UDID, .ARP_GET_UDID_DIRECTED] then
      vSMBusNextStateDecoder n .READY_TO_SEND_BYTE
    else pure ()
  | .TARGET_DATA_IRQ => pure ()
  | ucAnyEvent => vOtherEvent n ucAnyEvent

/-- The loop that fills the target descriptor FIFO with bytes to send. -/
def vFillRead (n : ℕ) : Routine Unit := do
  let ucCurrentFill ← ulSMBusHWReadTgtDescStatusFillLevel
  forBreak (do
    let t ← transfer n
    if t.usSendIndex < t.usSendDataSize then do
      let b ← ucNextSendByte n
      let ok ← ucSMBusTargetReadDescriptorRead b
      if ok = true then do
        setTransfer n fun t => { t with usSendIndex := inc16 t.usSendIndex }
        pure true
      else pure false
    else pure true) (FIFO_DEPTH - ucCurrentFill)

/-- `vDefaultSMBusFSMSMBusStateReadyToSendByte`. -/
def vStateReadyToSendByte (n : ℕ) (ucAnyEvent : Event) : Routine Unit :=
  match ucAnyEvent with
  | .DESC_FIFO_ALMOST_EMPTY_IRQ => do
    let c ← config n
    let t ← transfer n
    if t.xProtocol ∈
        targetReads ++ [.RECEIVE_BYTE, .ARP_GET_UDID, .ARP_GET_UDID_DIRECTED] ∨
        c.ulI2CDevice = true then do
      vFillRead n
      let t ← transfer n
      if t.usSendIndex = t.usSendDataSize then do
        vSMBusHandleActionCreateEventIsPECRequired n
        vSMBusNextStateDecoder n .CHECK_IF_PEC_REQUIRED
      else pure ()
    else pure ()
  | ucAnyEvent => vOtherEvent n ucAnyEvent

/-- The PEC descriptor, tried again by an event of its own when the FIFO is full. -/
def vSendPEC (n : ℕ) : Routine Unit := do
  let ok ← ucSMBusTargetReadDescriptorPECRead
  if ok = true then vSMBusNextStateDecoder n .AWAITING_DONE
  else vSMBusHandleActionCreateEventIsPECRequired n

/-- `vDefaultSMBusFSMSMBusStateCheckIfPECRequired`. -/
def vStateCheckIfPECRequired (n : ℕ) (ucAnyEvent : Event) : Routine Unit :=
  match ucAnyEvent with
  | .IS_PEC_REQUIRED => do
    let c ← config n
    let t ← transfer n
    (if t.xProtocol ∈ targetReads ++ [.RECEIVE_BYTE] ∨ c.ulI2CDevice = true then
      if c.ucPECRequired = true then vSendPEC n
      else vSMBusNextStateDecoder n .AWAITING_DONE
    else pure ())
    if t.xProtocol ∈ [.ARP_GET_UDID, .ARP_GET_UDID_DIRECTED] then vSendPEC n else pure ()
  | ucAnyEvent => vOtherEvent n ucAnyEvent

/-! ### `SMBUS_STATE_AWAITING_DONE` -/

def vSMBusARPPrepareToARP (n : ℕ) : Routine Unit :=
  setConfig n fun c => { c with ucARFlag := false }

/-- `vSMBusARPResetDevice`: the enable bit that is cleared is that of `ucUDIDMatchedInstance`. -/
def vSMBusARPResetDevice (n : ℕ) : Routine Unit := do
  setConfig n fun c => { c with ucARFlag := false }
  let c ← config n
  let t ← transfer n
  if c.xARPCapability ≠ .NON_ARP_CAPABLE ∧ c.xARPCapability ≠ .UNKNOWN then
    if c.ucUDID UDID_DEVICE_CAPABILITIES_BYTE &&& UDID_ADDRESS_TYPE_MASK = UDID_FIXED_ADDRESS then
      setConfig n fun c => { c with ucAVFlag := true }
    else if c.ucUDID UDID_DEVICE_CAPABILITIES_BYTE &&& UDID_ADDRESS_TYPE_MASK =
        UDID_DYNAMIC_AND_PERSISTENT then do
      (if c.ucAVFlag = true then vSMBusHWWriteTgtControlEnable t.ucUDIDMatchedInstance 0
      else pure ())
      setConfig n fun c => { c with ucAVFlag := false }
    else pure ()
  else pure ()

/-- The capabilities that address resolution resets. -/
def arpResettable : List ArpCapability :=
  [.ARP_CAPABLE, .FIXED_AND_DISCOVERABLE, .FIXED_NOT_DISCOVERABLE]

/-- The new address of an `ASSIGN_ADDRESS` goes to the matched instance. -/
def vApplyAssignAddress (n : ℕ) : Routine Unit := do
  let t ← transfer n
  let i := t.ucUDIDMatchedInstance
  let c ← config i
  (if c.xARPCapability ∈ [.ARP_CAPABLE, .FIXED_AND_DISCOVERABLE] then
    setConfig i fun c => { c with ucARFlag := true, ucAVFlag := true }
  else pure ())
  if c.xARPCapability = .ARP_CAPABLE then do
    setConfig i fun c => { c with ucSMBusAddr := t.ucNewDeviceSlaveAddr }
    vSMBusHWWriteTgtControlEnable i 0
    vSMBusHWWriteTgtControlAddress i t.ucNewDeviceSlaveAddr
    vSMBusHWWriteTgtControlEnable i 1
    vSMBusHandleActionNotifyAddressChangeToApplication i
  else pure ()

/-- The ARP commands take effect when the transfer is done. -/
def vApplyARP (n : ℕ) (p : Protocol) : Routine Unit := do
  let s ← get
  let t ← transfer n
  if p = .ARP_ASSIGN_ADDRESS then
    if t.ucNackSent = false then vApplyAssignAddress n else pure ()
  else if p = .ARP_PREPARE_TO_ARP then
    forEach vSMBusARPPrepareToARP ((List.range NUM_NON_ARP_INSTANCES).filter fun i =>
      (s.xConfig i).ucInstanceInUse = true ∧ (s.xConfig i).xARPCapability ∈ arpResettable ∧
        s.ucInstanceInPlay ≠ i)
  else if p = .ARP_RESET_DEVICE then
    forEach vSMBusARPResetDevice ((List.range NUM_NON_ARP_INSTANCES).filter fun i =>
      (s.xConfig i).ucInstanceInUse = true ∧ (s.xConfig i).xARPCapability ∈ arpResettable ∧
        s.ucInstanceInPlay ≠ i)
  else if p = .ARP_RESET_DEVICE_DIRECTED then
    forEach vSMBusARPResetDevice ((List.range NUM_NON_ARP_INSTANCES).filter fun i =>
      (s.xConfig i).ucSMBusAddr = t.ucMatchedSMBusAddr ∧ (s.xConfig i).ucInstanceInUse = true ∧
        (s.xConfig i).xARPCapability ∈ arpResettable)
  else pure ()

/-- The write protocols whose data a target passes on when the transfer is done. -/
def targetWrites : List Protocol :=
  [.BLOCK_WRITE, .WRITE_64, .WRITE_32, .WRITE_WORD, .WRITE_BYTE, .SEND_BYTE]

def arpProtocols : List Protocol :=
  [.ARP_ASSIGN_ADDRESS, .ARP_PREPARE_TO_ARP, .ARP_RESET_DEVICE, .ARP_RESET_DEVICE_DIRECTED,
    .ARP_GET_UDID, .ARP_GET_UDID_DIRECTED]

/-- The end of a target transfer of an SMBus instance. -/
def vTargetDone (n : ℕ) (t : Transfer) : Routine Unit := do
  (if t.xProtocol ∈ targetWrites ∧ t.ucNackSent = false then vWriteData n else pure ())
  (if t.xProtocol = .HOST_NOTIFY then vWriteData n else pure ())
  vApplyARP n t.xProtocol
  if t.xProtocol ∈ targetReads ++ targetWrites ++ [.RECEIVE_BYTE, .HOST_NOTIFY, .NONE] then do
    vAnnounceResult n (decide (t.ucNackSent = false))
    vResetToInitial n
  else if t.xProtocol ∈ arpProtocols then vResetToInitial n
  else pure ()

/-- The end of a controller transfer reported while waiting for it. -/
def vControllerDone (n : ℕ) (p : Protocol) : Routine Unit := do
  (if p = .BLOCK_READ then vWriteData n else pure ())
  (if p = .I2C_WRITE then vSMBusHandleActionAnnounceI2CResultToApplication n true
  else vAnnounceResult n true)
  vResetToInitial n

/-- What happens when the descriptor FIFO runs low while the transfer is finishing. -/
def vDoneAlmostEmpty (n : ℕ) : Routine Unit := do
  setTransfer n fun t =>
    { t with ucFifoEmptyWhileInDoneCount := (t.ucFifoEmptyWhileInDoneCount + 1) % 2 ^ 8 }
  let t ← transfer n
  if MAX_FIFO_EMPTY_WHILE_IN_DONE < t.ucFifoEmptyWhileInDoneCount then vSMBusSendNACK n
  else do
    (if t.ucNackSent = false then vFillACK n Transfer.usExpectedByteCount else pure ())
    let c ← config n
    let t ← transfer n
    if t.usExpectedByteCount + 1 ≤ t.usReceiveIndex then
      if c.ucPECRequired = true ∧ t.ucPECSent = false then do
        let _ ← ucSMBusTargetWriteDescriptorPEC
        setTransfer n fun t => { t with ucPECSent := true }
      else if c.ucSimpleDevice = true then vSMBusSendNACK n
      else pure ()
    else pure ()

/-- `vDefaultSMBusFSMSMBusStateAwaitingDone`, the one handler that announces a target error. -/
def vStateAwaitingDone (n : ℕ) (ucAnyEvent : Event) : Routine Unit :=
  match ucAnyEvent with
  | .CONTROLLER_DESC_FIFO_ALMOST_EMPTY_IRQ => pure ()
  | .DESC_FIFO_ALMOST_EMPTY_IRQ => vDoneAlmostEmpty n
  | .TARGET_READ_IRQ => vSMBusSendNACK n
  | .TARGET_DONE_IRQ => do
    let c ← config n
    let t ← transfer n
    if c.ulI2CDevice = true then do
      (if t.ucNackSent = false then vSMBusHandleActionAnnounceI2CResultToApplication n true
      else pure ())
      vResetToInitial n
    else vTargetDone n t
  | .TARGET_DATA_IRQ => do
    let t ← transfer n
    if t.xProtocol ∈ targetWrites ++ arpProtocols then vReceiveFill n else pure ()
  | .CONTROLLER_DONE_IRQ => do
    let t ← transfer n
    vControllerDone n t.xProtocol
  | ucAnyEvent =>
    if ucAnyEvent ∈ Event.targetErrors then do
      vSMBusHandleActionBusError n ucAnyEvent
      vAnnounceResult n false
      vResetToInitial n
    else vOtherEvent n ucAnyEvent

/-! ### `SMBUS_STATE_AWAITING_DATA` and `SMBUS_STATE_AWAITING_BLOCK_SIZE` -/

/-- `ucCheckAtLeastOneMatchFound`: the candidates whose UDID differs in the byte just received are
struck off, and the last one that agrees is the matched instance. -/
def ucCheckAtLeastOneMatchFound (n : ℕ) : Routine Bool := do
  let s ← get
  let t ← transfer n
  let agrees := fun i =>
    (s.xConfig i).ucUDID (UDID_DEVICE_CAPABILITIES_BYTE - t.usReceiveIndex) =
      t.ucReceivedData t.usReceiveIndex
  let candidate := fun i =>
    i < NUM_NON_ARP_INSTANCES ∧ (s.xConfig i).ucInstanceInUse = true ∧ s.ucUDIDMatch i = true
  let found := (List.range NUM_NON_ARP_INSTANCES).filter fun i => candidate i ∧ agrees i
  setUDIDMatch fun match' i => if candidate i then decide (agrees i) else match' i
  setTransfer n fun t =>
    { t with ucUDIDMatchedInstance := found.getLast?.getD t.ucUDIDMatchedInstance }
  pure (!found.isEmpty)

/-- One byte of an `ASSIGN_ADDRESS`: sixteen bytes of UDID, the new address, the PEC. -/
def vAssignAddressByte (n : ℕ) : Routine Unit := do
  let b ← ulSMBusHWReadTgtRxFifoPayload
  let t ← transfer n
  (if DATA_SIZE_MAX ≤ t.usReceiveIndex then fault .receivedData else pure ())
  setTransfer n fun t =>
    { t with ucReceivedData := Function.update t.ucReceivedData t.usReceiveIndex b }
  if t.usReceiveIndex < UDID_LENGTH then do
    let found ← ucCheckAtLeastOneMatchFound n
    (if found = true then do
      vCountedACK n
      vSMBusNextStateDecoder n .AWAITING_DATA
    else do
      vSMBusSendNACK n
      vSMBusNextStateDecoder n .AWAITING_DONE)
    setTransfer n fun t => { t with usReceiveIndex := inc16 t.usReceiveIndex }
  else if t.usReceiveIndex = UDID_LENGTH then do
    setTransfer n fun t => { t with ucNewDeviceSlaveAddr := b / 2 }
    vCountedACK n
    setTransfer n fun t => { t with usReceiveIndex := inc16 t.usReceiveIndex }
  else do
    let _ ← ucSMBusTargetWriteDescriptorPEC
    setTransfer n fun t => { t with ucPECSent := true }
    vSMBusNextStateDecoder n .AWAITING_DONE

/-- What follows the bytes of a write: more are expected, or the data are complete. -/
def vWriteProgress (n : ℕ) (p : Protocol) : Routine Unit := do
  let t ← transfer n
  if t.usReceiveIndex < t.usExpectedByteCount then do
    let part := if t.usExpectedByteCount - t.usReceiveIndex < FIFO_FILL_TRIGGER then 1
      else FIFO_FILL_TRIGGER
    setTransfer n fun t => { t with ucExpectedByteCountPart := part }
    write (.TgtRxFifoFillThreshold part)
    vSMBusNextStateDecoder n .AWAITING_DATA
  else do
    write (.TgtRxFifoFillThreshold 1)
    if p ∈ [.BLK_WRITE_BLK_RD_PROCESS_CALL, .PROCESS_CALL] then do
      (if t.ucNackSent = false then vWriteData n else pure ())
      vSMBusHandleActionGetDataFromApplication n
      vSMBusNextStateDecoder n .AWAITING_READ
    else vSMBusNextStateDecoder n .AWAITING_DONE

/-- The protocols whose bytes `AWAITING_DATA` takes as data. -/
def dataWrites : List Protocol :=
  [.HOST_NOTIFY, .BLK_WRITE_BLK_RD_PROCESS_CALL, .PROCESS_CALL] ++ targetWrites

/-- The bytes received so far go to the application of an I2C device. -/
def vPassI2CData (n : ℕ) : Routine Unit := do
  let t ← transfer n
  if t.ucNackSent = false ∧ 0 < t.usReceiveIndex then
    vSMBusHandleActionWriteI2CDataToApplication n
  else pure ()

/-- `vDefaultSMBusFSMSMBusStateAwaitingData`. -/
def vStateAwaitingData (n : ℕ) (ucAnyEvent : Event) : Routine Unit :=
  match ucAnyEvent with
  | .DESC_FIFO_ALMOST_EMPTY_IRQ => do
    let c ← config n
    let t ← transfer n
    if t.xProtocol ≠ .ARP_ASSIGN_ADDRESS then
      if c.ulI2CDevice = true then vFillACK n Transfer.usReceiveIndex
      else vFillACK n Transfer.usExpectedByteCount
    else pure ()
  | .TARGET_READ_IRQ => do
    let c ← config n
    let t ← transfer n
    if t.xProtocol ≠ .HOST_NOTIFY then
      if c.ulI2CDevice = true then do
        vPassI2CData n
        vSMBusHandleActionGetI2CDataFromApplication n
        vSMBusNextStateDecoder n .READY_TO_SEND_BYTE
      else vSMBusCreateEvent n .TARGET_READ_IRQ
    else do
      vSMBusHandleActionBusError n ucAnyEvent
      vAnnounceResult n false
      vResetToInitial n
  | .TARGET_DONE_IRQ => do
    let c ← config n
    if c.ulI2CDevice = true then do
      vPassI2CData n
      vSMBusCreateEvent n .TARGET_DONE_IRQ
      vSMBusNextStateDecoder n .AWAITING_DONE
    else do
      vAnnounceResult n false
      vSMBusHandleActionBusError n ucAnyEvent
      vResetToInitial n
  | .TARGET_DATA_IRQ => do
    let c ← config n
    let t ← transfer n
    if c.ulI2CDevice = true then vReceiveFill n
    else if t.xProtocol = .ARP_ASSIGN_ADDRESS then do
      let ucCurrentFill ← ulSMBusHWReadTgtRxFifoStatusFillLevel
      times (vAssignAddressByte n) ucCurrentFill
    else if t.xProtocol ∈ dataWrites then do
      vReceiveFill n
      vWriteProgress n t.xProtocol
    else pure ()
  | ucAnyEvent => vOtherEvent n ucAnyEvent

/-- `vDefaultSMBusFSMSMBusStateAwaitingBlockSize`. -/
def vStateAwaitingBlockSize (n : ℕ) (ucAnyEvent : Event) : Routine Unit :=
  match ucAnyEvent with
  | .DESC_FIFO_ALMOST_EMPTY_IRQ => pure ()
  | .TARGET_DATA_IRQ => do
    let t ← transfer n
    if t.xProtocol ∈ [.BLK_WRITE_BLK_RD_PROCESS_CALL, .BLOCK_WRITE, .ARP_ASSIGN_ADDRESS] then do
      let empty ← ulSMBusHWReadTgtRxFifoStatusEmpty
      if empty = true then pure ()
      else do
        let size ← ulSMBusHWReadTgtRxFifoPayload
        let _ ← ucSMBusTargetWriteDescriptorACK false
        let part := if size < FIFO_FILL_TRIGGER then 1 else FIFO_FILL_TRIGGER
        setTransfer n fun t =>
          { t with
            usExpectedByteCount := size
            usReceiveIndex := 0
            ucExpectedByteCountPart := part }
        write (.TgtRxFifoFillThreshold part)
        if t.xProtocol = .BLK_WRITE_BLK_RD_PROCESS_CALL ∧ size = 0 then do
          vSMBusHandleActionGetDataFromApplication n
          vSMBusNextStateDecoder n .AWAITING_READ
        else vSMBusNextStateDecoder n .AWAITING_DATA
    else pure ()
  | ucAnyEvent => vOtherEvent n ucAnyEvent

/-! ### Controller states -/

/-- `vDefaultSMBusFSMSMBusStateControllerSendCommand`. -/
def vStateControllerSendCommand (n : ℕ) (ucAnyEvent : Event) : Routine Unit :=
  match ucAnyEvent with
  | .SEND_NEXT_BYTE => do
    let t ← transfer n
    if t.xProtocol ∈ [.BLOCK_READ, .READ_64, .READ_32, .READ_WORD, .READ_BYTE, .ARP_GET_UDID,
        .ARP_GET_UDID_DIRECTED] then do
      let ok ← ucSMBusControllerWriteDescriptorByte t.ucCommand false
      if ok = true then do
        vSMBusHandleActionCreateEventSendNextByte n
        vSMBusNextStateDecoder n .CONTROLLER_SEND_READ_START
      else pure ()
    else if t.xProtocol ∈ [.BLOCK_WRITE, .WRITE_BYTE, .WRITE_WORD, .HOST_NOTIFY, .WRITE_32,
        .WRITE_64, .PROCESS_CALL, .BLK_WRITE_BLK_RD_PROCESS_CALL, .ARP_PREPARE_TO_ARP,
        .ARP_RESET_DEVICE, .ARP_RESET_DEVICE_DIRECTED, .ARP_ASSIGN_ADDRESS] then do
      let ok ← ucSMBusControllerWriteDescriptorByte t.ucCommand false
      if ok = true then do
        vSMBusHandleActionCreateEventSendNextByte n
        vSMBusNextStateDecoder n .CONTROLLER_WRITE_BYTE
      else pure ()
    else if t.xProtocol = .SEND_BYTE then do
      vSMBusHandleActionCreateEventSendNextByte n
      vSMBusNextStateDecoder n .CONTROLLER_WRITE_BYTE
    else pure ()
  | ucAnyEvent => vOtherEvent n ucAnyEvent

/-- `usSendIndex++` and `usSendDataSize--`. -/
def vByteSent (n : ℕ) : Routine Unit :=
  setTransfer n fun t =>
    { t with usSendIndex := inc16 t.usSendIndex, usSendDataSize := t.usSendDataSize - 1 }

/-- The loop that fills the controller descriptor FIFO with the bytes to send, but for the last
one. -/
def vFillWrite (n : ℕ) : Routine Unit := do
  let ucCurrentFill ← ulSMBusHWReadCtrlDescStatusFillLevel
  forBreak (do
    let t ← transfer n
    if 1 < t.usSendDataSize then do
      let b ← ucNextSendByte n
      let ok ← ucSMBusControllerWriteDescriptorByte b true
      if ok = true then do
        vByteSent n
        pure true
      else pure false
    else pure true) (FIFO_DEPTH - ucCurrentFill)

/-- The last byte of a controller write, with the repeated start, the PEC or the STOP that the
protocol asks for. -/
def vWriteLast (n : ℕ) (t : Transfer) : Routine Unit :=
  if t.xProtocol ∈ [.PROCESS_CALL, .BLK_WRITE_BLK_RD_PROCESS_CALL, .I2C_WRITE_READ] then do
    let b ← ucNextSendByte n
    let ok ← ucSMBusControllerWriteDescriptorByte b false
    if ok = true then do
      vSMBusHandleActionCreateEventSendNextByte n
      vSMBusNextStateDecoder n .CONTROLLER_SEND_READ_START
    else vSMBusNextStateDecoder n .CONTROLLER_WRITE_BYTE
  else if t.xProtocol = .HOST_NOTIFY then do
    let b ← ucNextSendByte n
    let ok ← ucSMBusControllerWriteDescriptorStopWrite b
    vSMBusNextStateDecoder n (if ok = true then .AWAITING_DONE else .CONTROLLER_WRITE_BYTE)
  else if t.ucPecRequiredForTransaction = true then do
    let ucCurrentFill ← ulSMBusHWReadCtrlDescStatusFillLevel
    if ucCurrentFill ≤ FIFO_SPACE_FOR_TWO_BYTES then do
      let b ← ucNextSendByte n
      let ok ← ucSMBusControllerWriteDescriptorByte b false
      if ok = true then do
        let _ ← ucSMBusControllerWriteDescriptorPECWrite
        write .CtrlControlEnable
        vSMBusNextStateDecoder n .AWAITING_DONE
      else vSMBusNextStateDecoder n .CONTROLLER_WRITE_BYTE
    else vSMBusNextStateDecoder n .CONTROLLER_WRITE_BYTE
  else do
    let b ← ucNextSendByte n
    let ok ← ucSMBusControllerWriteDescriptorStopWrite b
    write .CtrlControlEnable
    vSMBusNextStateDecoder n (if ok = true then .AWAITING_DONE else .CONTROLLER_WRITE_BYTE)

/-- The loop that sends all the bytes of a controller `ASSIGN_ADDRESS`. -/
def vFillAssign (n : ℕ) : Routine Unit := do
  let ucCurrentFill ← ulSMBusHWReadCtrlDescStatusFillLevel
  forBreak (do
    let t ← transfer n
    if 0 < t.usSendDataSize then do
      let b ← ucNextSendByte n
      let ok ← ucSMBusControllerWriteDescriptorByte b true
      if ok = true then do
        vByteSent n
        pure true
      else pure false
    else pure false) (FIFO_DEPTH - ucCurrentFill)

/-- The two events that `CONTROLLER_WRITE_BYTE` sends bytes on. -/
def vControllerWrite (n : ℕ) : Routine Unit := do
  let t ← transfer n
  if t.xProtocol ∈ [.BLOCK_WRITE, .WRITE_BYTE, .WRITE_WORD, .WRITE_32, .WRITE_64, .PROCESS_CALL,
      .BLK_WRITE_BLK_RD_PROCESS_CALL, .SEND_BYTE, .HOST_NOTIFY, .I2C_WRITE, .I2C_WRITE_READ] then
    if 1 < t.usSendDataSize then do
      vFillWrite n
      write .CtrlControlEnable
    else vWriteLast n t
  else if t.xProtocol = .ARP_ASSIGN_ADDRESS then do
    vFillAssign n
    let _ ← ucSMBusControllerWriteDescriptorPECWrite
    write .CtrlControlEnable
    vSMBusNextStateDecoder n .AWAITING_DONE
  else if t.xProtocol ∈ [.ARP_PREPARE_TO_ARP, .ARP_RESET_DEVICE, .ARP_RESET_DEVICE_DIRECTED] then do
    let _ ← ucSMBusControllerWriteDescriptorPECWrite
    write .CtrlControlEnable
    vSMBusNextStateDecoder n .AWAITING_DONE
  else pure ()

/-- `vDefaultSMBusFSMSMBusStateControllerWriteByte`. -/
def vStateControllerWriteByte (n : ℕ) (ucAnyEvent : Event) : Routine Unit :=
  match ucAnyEvent with
  | .SEND_NEXT_BYTE => vControllerWrite n
  | .CONTROLLER_DESC_FIFO_ALMOST_EMPTY_IRQ => vControllerWrite n
  | ucAnyEvent => vOtherEvent n ucAnyEvent

/-- The number of bytes of a read protocol of fixed length. -/
def readSize (p : Protocol) : ℕ :=
  if p = .READ_64 then 8
  else if p = .READ_32 then 4
  else if p ∈ [.READ_WORD, .PROCESS_CALL] then 2
  else 1

/-- A read descriptor of a fixed-length read, which is counted whether or not it was written. -/
def vReadByteDescriptor (n : ℕ) : Routine Unit := do
  let _ ← ucSMBusControllerReadDescriptorByte false
  vDescriptorSent n

/-- The start of a fixed-length read with all its descriptors. -/
def vReadFixed (n : ℕ) (p : Protocol) : Routine Unit := do
  vExpect n (readSize p)
  setTransfer n fun t => { t with usDescriptorsSent := 0 }
  let t ← transfer n
  write (.CtrlRxFifoFillThreshold t.ucExpectedByteCountPart)
  let _ ← ucSMBusControllerReadDescriptorStart t.ucSMBusDestAddr
  (if t.ucPecRequiredForTransaction = true then do
    times (vReadByteDescriptor n) t.ucExpectedByteCountPart
    let _ ← ucSMBusControllerReadDescriptorPEC
    pure ()
  else do
    times (vReadByteDescriptor n) (t.ucExpectedByteCountPart - 1)
    let _ ← ucSMBusControllerReadDescriptorStop
    vDescriptorSent n)
  write .CtrlControlEnable
  vSMBusNextStateDecoder n .CONTROLLER_READ_BYTE

/-- `vDefaultSMBusFSMSMBusStateControllerSendReadStart`. -/
def vStateControllerSendReadStart (n : ℕ) (ucAnyEvent : Event) : Routine Unit :=
  match ucAnyEvent with
  | .SEND_NEXT_BYTE => do
    let t ← transfer n
    if t.xProtocol = .I2C_WRITE_READ then do
      setTransfer n fun t => { t with usDescriptorsSent := 0 }
      let _ ← ucSMBusControllerReadDescriptorStart t.ucSMBusDestAddr
      vCtrlExpectPart n
      if t.usExpectedByteCount = 0 then do
        let _ ← ucSMBusControllerReadDescriptorStop
        write .CtrlControlEnable
        vSMBusNextStateDecoder n .CONTROLLER_READ_DONE
      else do
        write .CtrlControlEnable
        vSMBusNextStateDecoder n .CONTROLLER_READ_BYTE
    else if t.xProtocol ∈ [.BLOCK_READ, .BLK_WRITE_BLK_RD_PROCESS_CALL, .ARP_GET_UDID,
        .ARP_GET_UDID_DIRECTED] then do
      setTransfer n fun t => { t with usDescriptorsSent := 0 }
      let _ ← ucSMBusControllerReadDescriptorStart t.ucSMBusDestAddr
      let _ ← ulSMBusHWReadCtrlDescStatusFillLevel
      write .CtrlControlEnable
      vSMBusNextStateDecoder n .CONTROLLER_READ_BLOCK_SIZE
    else if t.xProtocol ∈ [.READ_64, .READ_32, .READ_WORD, .READ_BYTE, .PROCESS_CALL,
        .RECEIVE_BYTE] then
      vReadFixed n t.xProtocol
    else pure ()
  | ucAnyEvent => vOtherEvent n ucAnyEvent

def vBlockSize (n : ℕ) : Routine Unit := do
  let size ← ulSMBusHWReadCtrlRxFifoPayload
  setTransfer n fun t => { t with usExpectedByteCount := size, usDescriptorsSent := 0 }
  vCtrlExpectPart n
  let t ← transfer n
  if t.ucPecRequiredForTransaction = true ∨
      t.ucSMBusDestAddr = DEVICE_DEFAULT_ARP_ADDRESS then do
    let _ ← ucSMBusControllerReadDescriptorByte false
    write .CtrlControlEnable
    vSMBusNextStateDecoder n .CONTROLLER_READ_BYTE
    if size = 0 then do
      let _ ← ucSMBusControllerReadDescriptorPEC
      pure ()
    else pure ()
  else if size = 0 then do
    let _ ← ucSMBusControllerReadDescriptorStop
    write .CtrlControlEnable
    vSMBusNextStateDecoder n .CONTROLLER_READ_DONE
  else do
    let _ ← ucSMBusControllerReadDescriptorByte false
    write .CtrlControlEnable
    vSMBusNextStateDecoder n .CONTROLLER_READ_BYTE

/-- `vDefaultSMBusFSMSMBusStateControllerReadBlockSize`. -/
def vStateControllerReadBlockSize (n : ℕ) (ucAnyEvent : Event) : Routine Unit :=
  match ucAnyEvent with
  | .CONTROLLER_DESC_FIFO_ALMOST_EMPTY_IRQ => pure ()
  | .CONTROLLER_DATA_IRQ => do
    let t ← transfer n
    if t.xProtocol ∈ [.BLOCK_READ, .BLK_WRITE_BLK_RD_PROCESS_CALL, .ARP_GET_UDID,
        .ARP_GET_UDID_DIRECTED] then
      vBlockSize n
    else pure ()
  | ucAnyEvent => vOtherEvent n ucAnyEvent

/-- The loop that fills the controller descriptor FIFO with the read descriptors of a block. With
a PEC, its descriptor follows those of the data; without, the last one carries the STOP. -/
def vFillReadDescriptors (n : ℕ) (pec : Bool) : Routine Unit := do
  let ucCurrentFill ← ulSMBusHWReadCtrlDescStatusFillLevel
  forBreak (do
    let t ← transfer n
    if t.usDescriptorsSent < (if pec = true then t.usExpectedByteCount
        else t.usExpectedByteCount - 1) then do
      let ok ← ucSMBusControllerReadDescriptorByte true
      if ok = true then do
        vDescriptorSent n
        pure true
      else pure false
    else if pec = true then do
      let ok ← ucSMBusControllerReadDescriptorPEC
      (if ok = true then vDescriptorSent n else pure ())
      pure false
    else if t.usDescriptorsSent = t.usExpectedByteCount - 1 then do
      let ok ← ucSMBusControllerReadDescriptorStop
      if ok = true then do
        vDescriptorSent n
        pure true
      else pure false
    else pure true) (FIFO_DEPTH - ucCurrentFill)

/-- What follows the bytes of a controller read. -/
def vReadProgress (n : ℕ) : Routine Unit := do
  let t ← transfer n
  if t.usExpectedByteCount ≤ t.usReceiveIndex then do
    write (.CtrlRxFifoFillThreshold 1)
    if t.ucPecRequiredForTransaction = true then
      if t.usExpectedByteCount < t.usReceiveIndex then
        vSMBusNextStateDecoder n .CONTROLLER_READ_DONE
      else pure ()
    else vSMBusNextStateDecoder n .CONTROLLER_READ_DONE
  else do
    let part := if t.usExpectedByteCount - t.usReceiveIndex < HALF_FIFO_DEPTH then
      t.usExpectedByteCount - t.usReceiveIndex else HALF_FIFO_DEPTH
    setTransfer n fun t => { t with ucExpectedByteCountPart := part }
    write (.CtrlRxFifoFillThreshold part)

/-- The protocols that `CONTROLLER_READ_BYTE` takes data for. -/
def controllerReads : List Protocol :=
  [.READ_64, .READ_32, .READ_WORD, .READ_BYTE, .PROCESS_CALL, .RECEIVE_BYTE, .BLOCK_READ,
    .BLK_WRITE_BLK_RD_PROCESS_CALL, .ARP_GET_UDID, .ARP_GET_UDID_DIRECTED, .I2C_READ,
    .I2C_WRITE_READ]

/-- `vDefaultSMBusFSMSMBusStateControllerReadByte`. -/
def vStateControllerReadByte (n : ℕ) (ucAnyEvent : Event) : Routine Unit :=
  match ucAnyEvent with
  | .CONTROLLER_DESC_FIFO_ALMOST_EMPTY_IRQ => do
    let t ← transfer n
    if t.xProtocol ∈ [.BLOCK_READ, .BLK_WRITE_BLK_RD_PROCESS_CALL, .ARP_GET_UDID,
        .ARP_GET_UDID_DIRECTED, .I2C_READ, .I2C_WRITE_READ] ∧
        t.usDescriptorsSent < t.usExpectedByteCount then do
      vFillReadDescriptors n t.ucPecRequiredForTransaction
      let _ ← ulSMBusHWReadCtrlDescStatusFillLevel
      write .CtrlControlEnable
    else pure ()
  | .CONTROLLER_DONE_IRQ => pure ()
  | .CONTROLLER_DATA_IRQ => do
    let t ← transfer n
    if t.xProtocol ∈ controllerReads then do
      vReceiveAll n
      vReadProgress n
    else pure ()
  | ucAnyEvent => vOtherEvent n ucAnyEvent

/-- `vDefaultSMBusFSMSMBusStateControllerReadPEC`. -/
def vStateControllerReadPEC (n : ℕ) (ucAnyEvent : Event) : Routine Unit :=
  match ucAnyEvent with
  | .CONTROLLER_DATA_IRQ => do
    let t ← transfer n
    if t.xProtocol ∈ [.BLOCK_READ, .READ_64, .READ_32, .READ_WORD, .READ_BYTE, .PROCESS_CALL,
        .BLK_WRITE_BLK_RD_PROCESS_CALL, .RECEIVE_BYTE] ∧
        t.ucPecRequiredForTransaction = true then do
      let _ ← ucSMBusControllerReadDescriptorPEC
      write .CtrlControlEnable
      vSMBusNextStateDecoder n .CONTROLLER_READ_DONE
    else pure ()
  | ucAnyEvent => vOtherEvent n ucAnyEvent

/-- One more descriptor for an I2C read whose length the bytes received decide. -/
def vReadDoneI2C (n : ℕ) (t : Transfer) : Routine Unit :=
  if t.usDescriptorsSent < t.usReceiveIndex then do
    let ok ← (if t.usDescriptorsSent = t.usReceiveIndex - 1 then
      ucSMBusControllerReadDescriptorStop else ucSMBusControllerReadDescriptorByte true)
    if ok = true then do
      vDescriptorSent n
      write .CtrlControlEnable
    else pure ()
  else pure ()

/-- The descriptors that are still missing when the data of a read are complete. -/
def vReadDoneAlmostEmpty (n : ℕ) : Routine Unit := do
  let t ← transfer n
  if t.xProtocol = .I2C_READ then vReadDoneI2C n t
  else if t.usDescriptorsSent < t.usExpectedByteCount then do
    vFillReadDescriptors n t.ucPecRequiredForTransaction
    if t.ucPecRequiredForTransaction = true then pure () else write .CtrlControlEnable
  else if t.ucPecRequiredForTransaction = true ∧
      t.usDescriptorsSent = t.usExpectedByteCount then do
    let ok ← ucSMBusControllerReadDescriptorPEC
    if ok = true then vDescriptorSent n else pure ()
  else pure ()

def vReadDone (n : ℕ) (p : Protocol) : Routine Unit :=
  if p ∈ [.BLOCK_READ, .READ_64, .READ_32, .READ_WORD, .READ_BYTE, .PROCESS_CALL,
      .BLK_WRITE_BLK_RD_PROCESS_CALL, .RECEIVE_BYTE, .ARP_GET_UDID_DIRECTED,
      .ARP_GET_UDID] then do
    vWriteData n
    vAnnounceResult n true
    vResetToInitial n
  else if p ∈ [.I2C_READ, .I2C_WRITE_READ] then do
    vSMBusHandleActionWriteI2CDataToApplication n
    vSMBusHandleActionAnnounceI2CResultToApplication n true
    vResetToInitial n
  else if p ∈ [.SEND_BYTE, .WRITE_BYTE, .WRITE_WORD, .BLOCK_WRITE, .HOST_NOTIFY, .WRITE_32,
      .WRITE_64, .ARP_PREPARE_TO_ARP, .ARP_RESET_DEVICE, .ARP_ASSIGN_ADDRESS,
      .ARP_RESET_DEVICE_DIRECTED] then do
    vAnnounceResult n true
    vResetToInitial n
  else if p = .I2C_WRITE then do
    vSMBusHandleActionAnnounceI2CResultToApplication n true
    vResetToInitial n
  else pure ()

/-- `vDefaultSMBusFSMSMBusStateControllerReadDone`. -/
def vStateControllerReadDone (n : ℕ) (ucAnyEvent : Event) : Routine Unit :=
  match ucAnyEvent with
  | .CONTROLLER_DATA_IRQ => do
    let t ← transfer n
    if t.xProtocol = .I2C_READ then vReceiveAll n else pure ()
  | .CONTROLLER_DESC_FIFO_ALMOST_EMPTY_IRQ => vReadDoneAlmostEmpty n
  | .CONTROLLER_DONE_IRQ => do
    let t ← transfer n
    vReadDone n t.xProtocol
  | ucAnyEvent => vOtherEvent n ucAnyEvent

/-! ### The machine -/

def vSMBusFSM (n : ℕ) (ucAnyEvent : Event) : Routine Unit := do
  let s ← get
  match s.xState n with
  | .INITIAL => vStateInitial n ucAnyEvent
  | .AWAITING_COMMAND_BYTE => vStateAwaitingCommandByte n ucAnyEvent
  | .AWAITING_BLOCK_SIZE => vStateAwaitingBlockSize n ucAnyEvent
  | .AWAITING_DATA => vStateAwaitingData n ucAnyEvent
  | .AWAITING_READ => vStateAwaitingRead n ucAnyEvent
  | .READY_TO_SEND_BYTE => vStateReadyToSendByte n ucAnyEvent
  | .CHECK_IF_PEC_REQUIRED => vStateCheckIfPECRequired n ucAnyEvent
  | .AWAITING_DONE => vStateAwaitingDone n ucAnyEvent
  | .CONTROLLER_SEND_COMMAND => vStateControllerSendCommand n ucAnyEvent
  | .CONTROLLER_SEND_READ_START => vStateControllerSendReadStart n ucAnyEvent
  | .CONTROLLER_READ_BLOCK_SIZE => vStateControllerReadBlockSize n ucAnyEvent
  | .CONTROLLER_READ_BYTE => vStateControllerReadByte n ucAnyEvent
  | .CONTROLLER_READ_PEC => vStateControllerReadPEC n ucAnyEvent
  | .CONTROLLER_READ_DONE => vStateControllerReadDone n ucAnyEvent
  | .CONTROLLER_WRITE_BYTE => vStateControllerWriteByte n ucAnyEvent

end Amr.Smbus
