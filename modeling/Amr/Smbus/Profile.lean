/-
# The SMBus driver's data

`smbus_internal.h`, `smbus.h` and `smbus_event.h` of the firmware's SMBus driver: the states and
protocols of an instance, the events of its state machine, and the profile with its eight
instances. The C structure `SMBus_Instance` is kept as three maps over the instance number, split
by who writes them: `xConfig` is written when an instance is created or destroyed and by address
resolution, `xState` and `xEventSrcCircularBuf` by the state machine, and `xTransfer` holds what
belongs to one transfer. An array of the source is a function from the index, and an access past
its end is noted in `faults`.

The hardware is what the driver reads: a step is given the values of the registers it will read,
in order. Its register writes are a list. The answers of the application's callbacks are given to
the step in the same way and the calls are a list, those that announce a result a list of their
own.

Left out: the firewall words (constants that every entry point compares with themselves), the
debug log, and `ulAction`, `ucEvent`, `ucTriggerFSM`, `xPreviousState` and the message counters,
which the driver writes and no function of it reads back.
-/
import Mathlib

namespace Amr.Smbus

/-! ### Constants -/

/-- `SMBUS_DATA_SIZE_MAX`. -/
def DATA_SIZE_MAX : ℕ := 256

/-- `SMBUS_NUM_INSTANCES`. -/
def NUM_INSTANCES : ℕ := 8

/-- `SMBUS_NUM_NON_ARP_INSTANCES`. -/
def NUM_NON_ARP_INSTANCES : ℕ := 7

/-- `SMBUS_ARP_INSTANCE_ID`. -/
def ARP_INSTANCE_ID : ℕ := 7

/-- `SMBUS_LAST_SMBUS_INSTANCE`. -/
def LAST_INSTANCE : ℕ := 7

/-- `SMBUS_LAST_NON_ARP_SMBUS_INSTANCE`. -/
def LAST_NON_ARP_INSTANCE : ℕ := 6

/-- `SMBUS_INVALID_INSTANCE`. -/
def INVALID_INSTANCE : ℕ := 99

/-- `SMBUS_MAX_EVENT_ELEMENTS`. -/
def MAX_EVENT_ELEMENTS : ℕ := 300

/-- `SMBUS_UDID_LENGTH`. -/
def UDID_LENGTH : ℕ := 16

/-- `SMBUS_UDID_DEVICE_CAPABILITIES_BYTE`. -/
def UDID_DEVICE_CAPABILITIES_BYTE : ℕ := 15

/-- `SMBUS_UDID_ASSIGNED_ADDRESS_BYTE`. -/
def UDID_ASSIGNED_ADDRESS_BYTE : ℕ := 17

/-- `SMBUS_GET_UDID_DATA_LENGTH`. -/
def GET_UDID_DATA_LENGTH : ℕ := 17

/-- `SMBUS_GET_UDID_MSG_LENGTH`. -/
def GET_UDID_MSG_LENGTH : ℕ := GET_UDID_DATA_LENGTH + 1

/-- `SMBUS_UDID_ADDRESS_TYPE_MASK`. -/
def UDID_ADDRESS_TYPE_MASK : ℕ := 0xC0

/-- `SMBUS_UDID_FIXED_ADDRESS`. -/
def UDID_FIXED_ADDRESS : ℕ := 0x00

/-- `SMBUS_UDID_DYNAMIC_AND_PERSISTENT`. -/
def UDID_DYNAMIC_AND_PERSISTENT : ℕ := 0x40

/-- `SMBUS_DEVICE_DEFAULT_ARP_ADDRESS`. -/
def DEVICE_DEFAULT_ARP_ADDRESS : ℕ := 0x61

/-- `SMBUS_NOTIFY_ARP_MASTER_ADDRESS`. -/
def NOTIFY_ARP_MASTER_ADDRESS : ℕ := 0x10

/-- `SMBUS_INVALID_ADDRESS_MASK`. -/
def INVALID_ADDRESS_MASK : ℕ := 0x80

/-- `SMBUS_COMMAND_INVALID`. -/
def COMMAND_INVALID : ℕ := 66

/-- `SMBUS_FIFO_DEPTH`. -/
def FIFO_DEPTH : ℕ := 64

/-- `SMBUS_HALF_FIFO_DEPTH`. -/
def HALF_FIFO_DEPTH : ℕ := 32

/-- `SMBUS_FIFO_SPACE_FOR_TWO_BYTES`. -/
def FIFO_SPACE_FOR_TWO_BYTES : ℕ := FIFO_DEPTH - 2

/-- `SMBUS_FIFO_FILL_TRIGGER`. -/
def FIFO_FILL_TRIGGER : ℕ := 20

/-- `SMBUS_MAX_FIFO_EMPTY_WHILE_IN_DONE`. -/
def MAX_FIFO_EMPTY_WHILE_IN_DONE : ℕ := 10

/-- `SMBUS_UNEXPECTED_READ_DESCRIPTOR_DATA`. -/
def UNEXPECTED_READ_DESCRIPTOR_DATA : ℕ := 0xFF

def I2C_READ_DATA_SIZE_MIN : ℕ := 1

/-! ### Enumerations -/

/-- `SMBUS_STATE`. -/
inductive State
  | INITIAL | AWAITING_COMMAND_BYTE | AWAITING_BLOCK_SIZE | AWAITING_DATA | AWAITING_READ
  | READY_TO_SEND_BYTE | CHECK_IF_PEC_REQUIRED | AWAITING_DONE | CONTROLLER_SEND_COMMAND
  | CONTROLLER_SEND_READ_START | CONTROLLER_READ_BLOCK_SIZE | CONTROLLER_READ_BYTE
  | CONTROLLER_READ_PEC | CONTROLLER_READ_DONE | CONTROLLER_WRITE_BYTE
  deriving DecidableEq, Repr

/-- `SMBUS_COMMAND_PROTOCOL`. -/
inductive Protocol
  | QUICK_CMD_LO | QUICK_CMD_HI | SEND_BYTE | RECEIVE_BYTE | WRITE_BYTE | WRITE_WORD | READ_BYTE
  | READ_WORD | PROCESS_CALL | BLOCK_WRITE | BLOCK_READ | BLK_WRITE_BLK_RD_PROCESS_CALL
  | HOST_NOTIFY | WRITE_32 | READ_32 | WRITE_64 | READ_64 | ARP_PREPARE_TO_ARP
  | ARP_RESET_DEVICE | ARP_GET_UDID | ARP_ASSIGN_ADDRESS | ARP_GET_UDID_DIRECTED
  | ARP_RESET_DEVICE_DIRECTED | NONE | I2C_WRITE | I2C_READ | I2C_WRITE_READ | I2C_NONE
  deriving DecidableEq, Repr

/-- `SMBUS_ARP_CAPABILITY`. -/
inductive ArpCapability
  | UNKNOWN | ARP_CAPABLE | FIXED_AND_DISCOVERABLE | FIXED_NOT_DISCOVERABLE | NON_ARP_CAPABLE
  deriving DecidableEq, Repr

/-- The events of the state machine, `smbus_event.h`. -/
inductive Event
  | TARGET_WRITE_IRQ | TARGET_READ_IRQ | TARGET_DATA_IRQ | TARGET_DONE_IRQ | TARGET_DESC_IRQ
  | TARGET_LOA_ERROR_IRQ | TARGET_PEC_ERROR_IRQ | TARGET_PHY_TEXT_TIMEOUT_ERROR_IRQ
  | TARGET_RX_FIFO_ERROR_ERROR_IRQ | TARGET_RX_FIFO_OVERFLOW_ERROR_IRQ
  | TARGET_RX_FIFO_UNDERFLOW_ERROR_IRQ | TARGET_DESC_FIFO_ERROR_IRQ
  | TARGET_DESC_FIFO_OVERFLOW_ERROR_IRQ | TARGET_DESC_FIFO_UNDERFLOW_ERROR_IRQ
  | TARGET_DESC_ERROR_IRQ | TARGET_PHY_UNEXPTD_BUS_IDLE_ERROR_IRQ
  | TARGET_PHY_SMBDAT_LOW_TIMEOUT_DESC_ERROR_IRQ | TARGET_PHY_SMBCLK_LOW_TIMEOUT_ERROR_IRQ
  | CONTROLLER_WRITE_IRQ | CONTROLLER_READ_IRQ | CONTROLLER_DATA_IRQ | CONTROLLER_DONE_IRQ
  | CONTROLLER_DESC_FIFO_ALMOST_EMPTY_IRQ | CONTROLLER_LOA_ERROR_IRQ | CONTROLLER_NACK_ERROR_IRQ
  | CONTROLLER_PEC_ERROR_IRQ | CONTROLLER_PHY_CTLR_TEXT_TIMEOUT_ERROR_IRQ
  | CONTROLLER_PHY_CTLR_CEXT_TIMEOUT_ERROR_IRQ | CONTROLLER_RX_FIFO_ERROR_IRQ
  | CONTROLLER_RX_FIFO_OVERFLOW_ERROR_IRQ | CONTROLLER_RX_FIFO_UNDERFLOW_ERROR_IRQ
  | CONTROLLER_DESC_FIFO_ERROR_IRQ | CONTROLLER_DESC_FIFO_OVERFLOW_ERROR_IRQ
  | CONTROLLER_DESC_FIFO_UNDERFLOW_ERROR_IRQ | CONTROLLER_DESC_ERROR_IRQ | SEND_NEXT_BYTE
  | IS_PEC_REQUIRED | DESC_FIFO_ALMOST_EMPTY_IRQ
  deriving DecidableEq, Repr

/-- The time-outs that every state reports as a warning and otherwise ignores. -/
def Event.warnings : List Event :=
  [.TARGET_PHY_TEXT_TIMEOUT_ERROR_IRQ, .CONTROLLER_PHY_CTLR_TEXT_TIMEOUT_ERROR_IRQ,
    .CONTROLLER_PHY_CTLR_CEXT_TIMEOUT_ERROR_IRQ]

/-- The target errors that end a transfer in every state. -/
def Event.targetErrors : List Event :=
  [.TARGET_LOA_ERROR_IRQ, .TARGET_PEC_ERROR_IRQ, .TARGET_RX_FIFO_ERROR_ERROR_IRQ,
    .TARGET_RX_FIFO_OVERFLOW_ERROR_IRQ, .TARGET_RX_FIFO_UNDERFLOW_ERROR_IRQ,
    .TARGET_DESC_FIFO_ERROR_IRQ, .TARGET_DESC_FIFO_OVERFLOW_ERROR_IRQ,
    .TARGET_DESC_FIFO_UNDERFLOW_ERROR_IRQ, .TARGET_DESC_ERROR_IRQ,
    .TARGET_PHY_UNEXPTD_BUS_IDLE_ERROR_IRQ, .TARGET_PHY_SMBDAT_LOW_TIMEOUT_DESC_ERROR_IRQ,
    .TARGET_PHY_SMBCLK_LOW_TIMEOUT_ERROR_IRQ]

/-- The controller errors that end a transfer in every state. -/
def Event.controllerErrors : List Event :=
  [.CONTROLLER_LOA_ERROR_IRQ, .CONTROLLER_NACK_ERROR_IRQ, .CONTROLLER_PEC_ERROR_IRQ,
    .CONTROLLER_RX_FIFO_ERROR_IRQ, .CONTROLLER_RX_FIFO_OVERFLOW_ERROR_IRQ,
    .CONTROLLER_RX_FIFO_UNDERFLOW_ERROR_IRQ, .CONTROLLER_DESC_FIFO_ERROR_IRQ,
    .CONTROLLER_DESC_FIFO_OVERFLOW_ERROR_IRQ, .CONTROLLER_DESC_FIFO_UNDERFLOW_ERROR_IRQ,
    .CONTROLLER_DESC_ERROR_IRQ]

/-! ### Instances -/

/-- What `ucCreateSMBusInstance` and `ucI2CCreateDevice` set and address resolution changes. A
callback is present or `NULL`. -/
structure Config where
  ucInstanceInUse : Bool
  ucSMBusAddr : ℕ
  ucThisInstanceNum : ℕ
  ucUDID : ℕ → ℕ
  xARPCapability : ArpCapability
  ucPECRequired : Bool
  ulI2CDevice : Bool
  ucSimpleDevice : Bool
  ucARFlag : Bool
  ucAVFlag : Bool
  pFnGetProtocol : Bool
  pFnGetData : Bool
  pFnWriteData : Bool
  pFnAnnounceResult : Bool
  pFnArpAddrChange : Bool
  pFnBusError : Bool
  pFnBusWarning : Bool
  pFnI2CGetData : Bool
  pFnI2CWriteData : Bool
  pFnI2CAnnounceResult : Bool

/-- The fields of an instance that belong to one transfer. -/
structure Transfer where
  ucCommand : ℕ
  xProtocol : Protocol
  usSendDataSize : ℕ
  usSendIndex : ℕ
  usReceiveIndex : ℕ
  usDescriptorsSent : ℕ
  ucSendData : ℕ → ℕ
  ucReceivedData : ℕ → ℕ
  usExpectedByteCount : ℕ
  ucExpectedByteCountPart : ℕ
  ucSMBusDestAddr : ℕ
  ucSMBusSenderAddr : ℕ
  ucPecRequiredForTransaction : Bool
  ulI2CTransaction : Bool
  ucNewDeviceSlaveAddr : ℕ
  ucUDIDMatchedInstance : ℕ
  ucMatchedSMBusAddr : ℕ
  ucNackSent : Bool
  ucPECSent : Bool
  ucFifoEmptyWhileInDoneCount : ℕ

/-! ### What the driver reads and writes outside its own data -/

/-- What the application's callbacks answer during one step, and the value found past the end of
the list of candidate instances (`stray`). -/
structure Answer where
  protocol : Protocol
  sendData : ℕ → ℕ
  sendDataSize : ℕ
  stray : ℕ

/-- A write to a hardware register: a descriptor (`HW_DESCRIPTOR_TYPE` and its payload) or a
control register. -/
inductive RegisterWrite
  | TARGET_READ (payload : ℕ) | TARGET_READ_PEC | TARGET_WRITE_ACK | TARGET_WRITE_NACK
  | TARGET_WRITE_PEC | CONTROLLER_READ_START (address : ℕ) | CONTROLLER_READ_QUICK (address : ℕ)
  | CONTROLLER_READ_BYTE | CONTROLLER_READ_STOP | CONTROLLER_READ_PEC
  | CONTROLLER_WRITE_START (address : ℕ) | CONTROLLER_WRITE_QUICK (address : ℕ)
  | CONTROLLER_WRITE_BYTE (payload : ℕ) | CONTROLLER_WRITE_STOP (payload : ℕ)
  | CONTROLLER_WRITE_PEC | TgtRxFifoFillThreshold (value : ℕ) | CtrlRxFifoFillThreshold (value : ℕ)
  | CtrlControlEnable | TgtRxFifoReset | CtrlRxFifoReset | CtrlDescFifoReset
  deriving DecidableEq, Repr

/-- A callback of the application other than one that announces a result. -/
inductive Call
  | busError (instanceNum : ℕ) (event : Event)
  | busWarning (instanceNum : ℕ) (event : Event)
  | getProtocol (instanceNum command : ℕ)
  | getData (instanceNum command : ℕ)
  | getI2CData (instanceNum : ℕ)
  | writeData (instanceNum command : ℕ) (data : List ℕ) (transaction : ℕ)
  | writeI2CData (instanceNum : ℕ) (data : List ℕ)
  | arpAddrChange (instanceNum address : ℕ)
  deriving DecidableEq, Repr

/-- A controller command that an entry point accepted, with the transaction id it handed to the
caller (the I2C entry points hand out none). `serial` numbers the accepted commands. -/
structure Accepted where
  serial : ℕ
  instanceNum : ℕ
  transaction : Option ℕ
  deriving DecidableEq, Repr

/-- A callback that announces a result: `pFnAnnounceResult` or `pFnI2CAnnounceResult`. `command`
is the accepted command of the instance in play when that instance is the one that announces. -/
structure Result where
  instanceNum : ℕ
  i2c : Bool
  ucCommand : ℕ
  transaction : ℕ
  success : Bool
  command : Option Accepted
  deriving DecidableEq, Repr

/-- An access outside an array: `ucReceivedData`, `ucSendData` or the list `ucUdidList`. -/
inductive Fault
  | receivedData | sendData | udidList
  deriving DecidableEq, Repr

/-! ### The profile -/

/-- `SMBusProfile` with the registers of the step, the target control registers, and what the
driver has done to the outside. `current` is the last accepted command, and `handling` says that
the event queue is being drained. -/
structure Profile where
  ulTransactionID : ℕ
  ucInstanceInPlay : ℕ
  ucActiveTargetInstance : ℕ
  ucUDIDMatch : ℕ → Bool
  xConfig : ℕ → Config
  xState : ℕ → State
  xEventSrcCircularBuf : ℕ → List Event
  xTransfer : ℕ → Transfer
  tgtControlAddress : ℕ → ℕ
  tgtControlEnable : ℕ → ℕ
  registers : List ℕ
  answer : Answer
  written : List RegisterWrite
  received : List ℕ
  calls : List Call
  results : List Result
  accepted : List Accepted
  current : Option Accepted
  faults : List Fault
  handling : Bool

abbrev Routine := StateM Profile

end Amr.Smbus
