/-
# MCTP control commands

`mctp_commands.c`. A handler reads the payload of the request, writes the payload of the response
into `RespBuffer` from `payloadOut` on and returns the length of the response. The response has
been cleared before, so a byte that a handler leaves out is 0.
-/
import Amr.Mctp.Memory

namespace Amr.Mctp

open StateProgram

def RESP_MCTP_CTRL_MSG_SUCCESS : ℕ := 0x00
def RESP_MCTP_CTRL_MSG_ERROR_INVALID_DATA : ℕ := 0x02
def RESP_MCTP_CTRL_MSG_ERROR_MCTP_CMD_NS : ℕ := 0x05
def RESP_MCTP_CTRL_MSG_TYPE_UNSUPPORTED : ℕ := 0x80

/-- `setEIDOperations_req`. -/
def SET_EID : ℕ := 0x00
def FORCE_EID : ℕ := 0x01
def RESET_EID : ℕ := 0x02
def SET_DISCOVERED_FLAG : ℕ := 0x03

/-- `EID_ASSIGNMENT_ACCEPTED` and `EID_ASSIGNMENT_REJECTED`, shifted to bits 5:4 of the status. -/
def EID_ASSIGNMENT_ACCEPTED : ℕ := 0x0 * 2 ^ 4
def EID_ASSIGNMENT_REJECTED : ℕ := 0x1 * 2 ^ 4

/-- The response to an assignment: completion code, `EIDAssignAllocStatus`, to which the status is
or-ed, `EIDSetting` and `EIDPoolSize`. -/
def answerSetEID (payloadOut status endPointId : ℕ) : Program ℕ := do
  put payloadOut (UInt8.ofNat RESP_MCTP_CTRL_MSG_SUCCESS)
  let EIDAssignAllocStatus ← respByte (payloadOut + 1)
  put (payloadOut + 1) (UInt8.ofNat (EIDAssignAllocStatus ||| status))
  put (payloadOut + 2) (UInt8.ofNat endPointId)
  put (payloadOut + 3) 0x00
  pure 4

/-- The response to what is refused outright: only the completion code of the four bytes is set. -/
def rejectSetEID (payloadOut : ℕ) : Program ℕ := do
  put payloadOut (UInt8.ofNat RESP_MCTP_CTRL_MSG_ERROR_INVALID_DATA)
  pure 4

def mctp_cmd_SetEID (payloadIn : View) (payloadOut : ℕ) : Program ℕ := do
  let endPointId ← payloadIn.read 1
  if endPointId ≠ 0x00 ∧ endPointId ≠ 0xFF then do
    let operation ← payloadIn.read 0
    if operation = SET_EID then do
      let s ← get
      if ¬ s.eidSetFlag then do
        -- EID not yet set
        modify fun s => { s with EID := endPointId, eidSetFlag := true }
        answerSetEID payloadOut EID_ASSIGNMENT_ACCEPTED endPointId
      else answerSetEID payloadOut EID_ASSIGNMENT_REJECTED endPointId
    else if operation = FORCE_EID then do
      modify fun s => { s with EID := endPointId }
      answerSetEID payloadOut EID_ASSIGNMENT_ACCEPTED endPointId
    else if operation = RESET_EID then rejectSetEID payloadOut
    else if operation = SET_DISCOVERED_FLAG then rejectSetEID payloadOut
    else pure 0
  else rejectSetEID payloadOut

def mctp_cmd_GetEID (payloadOut : ℕ) : Program ℕ := do
  put payloadOut (UInt8.ofNat RESP_MCTP_CTRL_MSG_SUCCESS)
  let s ← get
  put (payloadOut + 1) (if ¬ s.eidSetFlag then 0x00 else UInt8.ofNat s.EID)
  put (payloadOut + 2) 0x01
  put (payloadOut + 3) 0x00
  pure 4

def mctp_cmd_GetUUID (P : Platform) (payloadOut : ℕ) : Program ℕ := do
  put payloadOut (UInt8.ofNat RESP_MCTP_CTRL_MSG_SUCCESS)
  putAll (payloadOut + 1) (P.pucUuid.take UUID_SIZE)
  pure (1 + UUID_SIZE)

/-- Handle the get MCTP version command: the versions are 1.3.1 and 1.0.0. -/
def mctp_cmd_GetMCTPVersion (payloadIn : View) (payloadOut : ℕ) : Program ℕ := do
  let msg_type_num ← payloadIn.read 0
  if msg_type_num = 0xFF ∨ msg_type_num = 0x00 then do
    putAll (payloadOut + 2) [0xf1, 0xf3, 0xf1, 0x00]
    put (payloadOut + 1) 1
  else if msg_type_num = 0x01 then do
    putAll (payloadOut + 2) [0xf1, 0xf0, 0xf0, 0x00]
    put (payloadOut + 1) 1
  else put payloadOut (UInt8.ofNat RESP_MCTP_CTRL_MSG_TYPE_UNSUPPORTED)
  let completion_code ← respByte payloadOut
  if completion_code ≠ 0 then pure 1
  else do
    put payloadOut 0
    pure 6

def mctp_cmd_GetMCTPMsgType (payloadOut : ℕ) : Program ℕ := do
  putAll payloadOut [UInt8.ofNat RESP_MCTP_CTRL_MSG_SUCCESS, 2, 0x0, 0x1]
  pure 4

/-- The functions that `mctp_func` points to. -/
inductive MctpFunction
  | SetEID
  | GetEID
  | GetUUID
  | GetMCTPVersion
  | GetMCTPMsgType
  deriving DecidableEq, Repr

/-- `MAX_MCTP_CTRL_COMMAND`: the length of `mctp_func`. -/
def MAX_MCTP_CTRL_COMMAND : ℕ := 0xA

def mctp_func : ℕ → Option MctpFunction
  | 0x1 => some .SetEID
  | 0x2 => some .GetEID
  | 0x3 => some .GetUUID
  | 0x4 => some .GetMCTPVersion
  | 0x5 => some .GetMCTPMsgType
  | _ => none

/-- Get the MCTP function to process the message. What lies behind the table reads as `NULL`
here. -/
def get_mctp_func (mctp_cmd : ℕ) : Program (Option MctpFunction) := do
  noteIf (MAX_MCTP_CTRL_COMMAND ≤ mctp_cmd) .table
  pure (mctp_func mctp_cmd)

/-- What the function pointers of the table call. -/
def MctpFunction.call (P : Platform) (payloadIn : View) (payloadOut : ℕ) :
    MctpFunction → Program ℕ
  | .SetEID => mctp_cmd_SetEID payloadIn payloadOut
  | .GetEID => mctp_cmd_GetEID payloadOut
  | .GetUUID => mctp_cmd_GetUUID P payloadOut
  | .GetMCTPVersion => mctp_cmd_GetMCTPVersion payloadIn payloadOut
  | .GetMCTPMsgType => mctp_cmd_GetMCTPMsgType payloadOut

end Amr.Mctp
