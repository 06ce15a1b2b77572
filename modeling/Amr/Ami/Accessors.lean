/-
# What the application reads of a request

`iAMI_Get*Request` of `src/fw/AMC/src/proxy_drivers/ami/ami_proxy_driver.c`: each copies the
request out of the slot that the instance of an event names, after the same checks. There is no
accessor for the heartbeat, whose event carries the count, and none for the identity request,
which has no data. `mutexHeld` tells that the mutex is taken and released.

Left out: `iAMI_GetPdiProgramRequest`, for an opcode that the host does not send.
-/
import Amr.Ami.Task

namespace Amr.Ami.Task

/-- The checks that the accessors share: the index is in range, and the slot is in use and holds a
request of the accessor's opcode. -/
def slotFor (t : Task) (ucInstance : ℕ) (op : AmiCmdOpcodeReq) (mutexHeld : Bool) :
    Option RxData :=
  if h : ucInstance < AMI_RXDATA_SIZE then
    let d := t.xRxData ⟨ucInstance, h⟩
    if t.iInitialised = true ∧ mutexHeld = true ∧ d.ucInUse = true ∧ d.xOpCode = op then some d
    else none
  else none

theorem slotFor_eq_some {t : Task} {i : Fin AMI_RXDATA_SIZE} {op : AmiCmdOpcodeReq}
    (hinit : t.iInitialised = true) (huse : (t.xRxData i).ucInUse = true)
    (hop : (t.xRxData i).xOpCode = op) : t.slotFor i op true = some (t.xRxData i) := by
  simp [slotFor, hinit, huse, hop]

def iAMIGetPdiDownloadRequest (t : Task) (ucInstance : ℕ) (mutexHeld : Bool) :
    Option AMIProxyPdiDownloadRequest :=
  (t.slotFor ucInstance .pdiDownload mutexHeld).bind fun d =>
    match d.request with
    | .xDownloadRequest r => some r
    | _ => none

def iAMIGetPdiCopyRequest (t : Task) (ucInstance : ℕ) (mutexHeld : Bool) :
    Option AMIProxyPdiCopyRequest :=
  (t.slotFor ucInstance .pdiCopy mutexHeld).bind fun d =>
    match d.request with
    | .xCopyRequest r => some r
    | _ => none

def iAMIGetSensorRequest (t : Task) (ucInstance : ℕ) (mutexHeld : Bool) :
    Option AMIProxySensorRequest :=
  (t.slotFor ucInstance .sensor mutexHeld).bind fun d =>
    match d.request with
    | .xSensorRequest r => some r
    | _ => none

def iAMIGetBootSelectRequest (t : Task) (ucInstance : ℕ) (mutexHeld : Bool) :
    Option AMIProxyBootSelectRequest :=
  (t.slotFor ucInstance .bootSel mutexHeld).bind fun d =>
    match d.request with
    | .xBootSelectRequest r => some r
    | _ => none

def iAMIGetEepromReadWriteRequest (t : Task) (ucInstance : ℕ) (mutexHeld : Bool) :
    Option AMIProxyEepromRWRequest :=
  (t.slotFor ucInstance .eepromRw mutexHeld).bind fun d =>
    match d.request with
    | .xEepromReadWriteRequest r => some r
    | _ => none

def iAMIGetModuleReadWriteRequest (t : Task) (ucInstance : ℕ) (mutexHeld : Bool) :
    Option AMIProxyModuleRWRequest :=
  (t.slotFor ucInstance .moduleRw mutexHeld).bind fun d =>
    match d.request with
    | .xModuleReadWriteRequest r => some r
    | _ => none

def iAMIGetDebugVerbosityRequest (t : Task) (ucInstance : ℕ) (mutexHeld : Bool) : Option ℕ :=
  (t.slotFor ucInstance .debugVerbosity mutexHeld).bind fun d =>
    match d.request with
    | .ucDebugVerbosityRequest v => some v
    | _ => none

def iAMIGetFptFlagsRequest (t : Task) (ucInstance : ℕ) (mutexHeld : Bool) :
    Option AMIProxyFptFlagsRequest :=
  (t.slotFor ucInstance .fptFlags mutexHeld).bind fun d =>
    match d.request with
    | .xFptFlagsRequest r => some r
    | _ => none

end Amr.Ami.Task
