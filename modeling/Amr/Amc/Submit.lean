/-
# `submit_gcq_command`

`src/sw/AMI/driver/ami_amc_control.c`: the one function through which the host driver sends a
command to the firmware and waits for the answer. The definitions below are its sections in the
order of the source; every `goto done` is an `.error` that carries the locals along, and the label
`done` is `Call.done`. What the environment decides (an allocation, an interrupted wait, the
outcome of the queue write, the answer) is a parameter of the section that meets it.

A call keeps two histories: the locks and semaphores it takes and gives back (`ops`) and the
copies between the caller's buffer and the shared memory of the device (`copies`).

Left out: the contents of the caller's buffer and of the request entry, the debug prints, and the
`NULL` checks of the static helpers, which every call passes.
-/
import Amr.Amc.CidXarray
import Amr.Lib.Ledger

namespace Amr.Amc

/-! ### Contexts, arguments and locals -/

/-- What a call reads of `struct amc_control_ctxt`. -/
structure AmcControlCtxt where
  id : ℕ
  gcqHalted : Bool
  amcDataStart : UInt32
  amcDataEnd : UInt32

/-- The arguments of a call; of the buffer only whether it is there. -/
structure Args where
  cmdReq : GcqSubmitCmdReq
  flags : UInt32
  dataBuf : Bool
  dataSize : UInt32
  deriving DecidableEq

inductive Resource
  | gcqCmdLock
  | gcqDataSema
  | gcqLogPageSema
  deriving DecidableEq, Repr

/-- The semaphore that guards the memory of a command's payload. -/
def semaOf : AmcCmdId → Option Resource
  | .copyPartition | .downloadPdi | .setFptPartition | .eepromReadWrite | .moduleReadWrite =>
    some .gcqDataSema
  | .sensor => some .gcqLogPageSema
  | .identify | .deviceBoot | .heartbeat | .debugVerbosity => none

/-- A copy between the caller's buffer and the shared memory. -/
inductive Copy
  | toDevice (offset len : UInt32)
  | fromDevice (offset len : UInt32)
  deriving DecidableEq

/-- `struct amc_proxy_cmd_struct`; of its two completions a command uses one, told by its
opcode. `complete` counts how often it was signalled and not yet waited for. -/
structure ProxyCmd where
  complete : ℕ
  cmdTimeoutJiffies : ℕ
  cmdRcode : ℤ
  cmdCid : ℕ
  cmdResponse : UInt64
  cmdResponseCode : UInt32
  cmdOpcode : AmcCmdId
  timedOut : Bool
  deriving DecidableEq

/-- A command as `kzalloc` returns it (opcode 0 is the sensor command). -/
def ProxyCmd.zero : ProxyCmd where
  complete := 0
  cmdTimeoutJiffies := 0
  cmdRcode := 0
  cmdCid := 0
  cmdResponse := 0
  cmdResponseCode := 0
  cmdOpcode := .sensor
  timedOut := false

/-- The locals of a call and its histories. -/
structure Call where
  ctxt : AmcControlCtxt
  args : Args
  ret : ℤ
  logPageAcquired : Bool
  dataPageAcquired : Bool
  payloadSize : UInt32
  payloadAddress : UInt32
  sid : Option SensorRepo
  aid : Option SensorRequest
  sensorId : Option UInt32
  amcProxyCmd : Option ProxyCmd
  ops : List (Ledger.Op Resource)
  copies : List Copy

def Call.start (ctxt : AmcControlCtxt) (args : Args) : Call where
  ctxt := ctxt
  args := args
  ret := 0
  logPageAcquired := false
  dataPageAcquired := false
  payloadSize := 0
  payloadAddress := 0
  sid := none
  aid := none
  sensorId := none
  amcProxyCmd := none
  ops := []
  copies := []

/-- `goto done` with a return value. -/
def Call.fail (c : Call) (ret : ℤ) : Except Call Call := .error { c with ret := ret }

/-- An access to the command itself, which other parties write too. -/
def Call.mapCmd (c : Call) (f : ProxyCmd → ProxyCmd) : Call :=
  { c with amcProxyCmd := c.amcProxyCmd.map f }

def Call.acquire (c : Call) (r : Resource) : Call := { c with ops := c.ops ++ [.acquire r] }
def Call.release (c : Call) (r : Resource) : Call := { c with ops := c.ops ++ [.release r] }

/-! ### The shared memory -/

def AMC_LOG_PAGE_SIZE : UInt32 := 1024 * 1024
def AMC_LOG_PAGE_NUM : UInt32 := 1
def AMC_LOG_ADDR_OFF : UInt32 := 0
def AMC_DATA_ADDR_OFF : UInt32 := AMC_LOG_PAGE_SIZE * AMC_LOG_PAGE_NUM

def AmcControlCtxt.amcSharedMemSize (x : AmcControlCtxt) : UInt32 :=
  x.amcDataEnd - x.amcDataStart + 1

def AmcControlCtxt.shmAddrData (x : AmcControlCtxt) : UInt32 := x.amcDataStart + AMC_DATA_ADDR_OFF

/-- `shm_size_data`, as the 32-bit length it is stored in. -/
def AmcControlCtxt.shmSizeData (x : AmcControlCtxt) : UInt32 :=
  x.amcSharedMemSize - AMC_LOG_PAGE_SIZE * AMC_LOG_PAGE_NUM

def AmcControlCtxt.getGcqLogPageAddr (x : AmcControlCtxt) : UInt32 :=
  x.amcDataStart + AMC_LOG_ADDR_OFF

/-- The range check of both copy helpers; the sum is taken in 64 bits. -/
def AmcControlCtxt.inRange (x : AmcControlCtxt) (offset len : UInt32) : Bool :=
  decide (offset.toNat + len.toNat ≤ x.amcSharedMemSize.toNat)

def Call.memcpyGcqPayloadToDevice (c : Call) : Call :=
  if c.args.dataBuf && c.ctxt.inRange c.payloadAddress c.args.dataSize then
    { c with copies := c.copies ++ [.toDevice c.payloadAddress c.args.dataSize] }
  else c

def Call.memcpyGcqPayloadFromDevice (c : Call) : Call :=
  if c.args.dataBuf && c.ctxt.inRange c.payloadAddress c.args.dataSize then
    { c with copies := c.copies ++ [.fromDevice c.payloadAddress c.args.dataSize] }
  else c

/-- `acquire_gcq_data` and the assignments that follow it; `interrupted` tells that
`down_interruptible` was. -/
def Call.acquireGcqData (c : Call) (interrupted : Bool) : Except Call Call :=
  if interrupted then c.fail (- EIO)
  else .ok { c.acquire .gcqDataSema with
    payloadAddress := c.ctxt.shmAddrData
    dataPageAcquired := true
    payloadSize := c.args.dataSize }

/-- `acquire_gcq_log_page_sema` and the assignments that follow it. -/
def Call.acquireGcqLogPageSema (c : Call) (interrupted : Bool) : Except Call Call :=
  if interrupted then c.fail (- EIO)
  else .ok { c.acquire .gcqLogPageSema with
    payloadAddress := c.ctxt.getGcqLogPageAddr
    logPageAcquired := true
    payloadSize := c.args.dataSize }

/-- The payload is cut to the length of the memory granted. -/
def Call.clampPayload (c : Call) (length : UInt32) : Call :=
  if length < c.payloadSize then { c with payloadSize := length } else c

/-! ### The sections of the function -/

/-- The argument that a command cannot do without: a buffer, a size, or nothing. -/
def argsMissing (cmdId : AmcCmdId) (a : Args) : Bool :=
  match cmdId with
  | .downloadPdi | .identify | .sensor | .heartbeat | .eepromReadWrite | .moduleReadWrite =>
    !a.dataBuf
  | .copyPartition => a.dataSize == 0
  | .setFptPartition => !a.dataBuf
  | .deviceBoot | .debugVerbosity => false

/-- The checks up to the allocation of the command. -/
def Call.checks (c : Call) : Except Call AmcCmdId :=
  if c.ctxt.gcqHalted then .error { c with ret := - EIO }
  else match getCmdCommandId c.args.cmdReq with
    | none => .error { c with ret := - EIO }
    | some cmdId => if argsMissing cmdId c.args then .error { c with ret := -EINVAL } else .ok cmdId

def Call.kzalloc (c : Call) (fails : Bool) : Except Call Call :=
  if fails then c.fail (-ENOMEM) else .ok { c with amcProxyCmd := some .zero }

def AMC_PROXY_CMD_RW_REQUEST_READ : UInt32 := 0
def AMC_PROXY_CMD_RW_REQUEST_WRITE : UInt32 := 1

/-- `EEPROM_GET_TYPE` and `MODULE_RW_TYPE` of the flags. -/
def rwType (cmdId : AmcCmdId) (flags : UInt32) : UInt32 :=
  match cmdId with
  | .eepromReadWrite => flags &&& 0x01
  | _ => flags >>> 24

/-- The lookup of the repository, API and sensor id. -/
def Call.sensorIds (c : Call) : Except Call Call :=
  match getSid c.args.cmdReq c.args.flags with
  | none => c.fail (- EIO)
  | some sid =>
    match getAid c.args.cmdReq with
    | none => Call.fail { c with sid := some sid } (- EIO)
    | some aid =>
      match getSensorId c.args.cmdReq with
      | none => Call.fail { c with sid := some sid, aid := some aid } (- EIO)
      | some id => .ok { c with sid := some sid, aid := some aid, sensorId := some id }

/-- "Payload formation". -/
def Call.formPayload (c : Call) (cmdId : AmcCmdId) (interrupted : Bool) : Except Call Call :=
  match cmdId with
  | .identify | .deviceBoot | .heartbeat | .debugVerbosity => .ok c
  | .copyPartition => c.acquireGcqData interrupted
  | .downloadPdi | .setFptPartition => do
    let c ← c.acquireGcqData interrupted
    .ok (c.clampPayload c.ctxt.shmSizeData).memcpyGcqPayloadToDevice
  | .sensor => do
    let c ← c.acquireGcqLogPageSema interrupted
    (c.clampPayload AMC_LOG_PAGE_SIZE).sensorIds
  | .eepromReadWrite | .moduleReadWrite => do
    let c ← c.acquireGcqData interrupted
    let c := c.clampPayload c.ctxt.shmSizeData
    if rwType cmdId c.args.flags = AMC_PROXY_CMD_RW_REQUEST_WRITE then
      .ok c.memcpyGcqPayloadToDevice
    else .ok c

def msecsToJiffies (ms : ℕ) : ℕ := ms

/-- `REQUEST_MSQ_TIMEOUT` and the timeouts that replace it. -/
def requestTimeout : AmcCmdId → ℕ
  | .downloadPdi => msecsToJiffies 150000
  | .copyPartition => msecsToJiffies 3600000
  | .heartbeat => msecsToJiffies 500
  | _ => msecsToJiffies 150000

/-- The command gets its id, its completion and its timeout. -/
def Call.initCmd (c : Call) (cmdId : AmcCmdId) (cid jiffies : ℕ) : Call :=
  c.mapCmd fun cmd =>
    { cmd with
      cmdCid := cid
      complete := 0
      cmdTimeoutJiffies := jiffies + requestTimeout cmdId
      cmdRcode := 0
      cmdOpcode := cmdId }

/-- What becomes of an `amc_proxy_request_*` call. -/
inductive RequestOutcome
  /-- no initialised proxy instance for the queue -/
  | noInstance
  /-- `gcq_write` fails -/
  | writeFailed
  /-- the entry is in the queue and the command in the list -/
  | submitted
  deriving DecidableEq, Repr

/-- The value an `amc_proxy_request_*` call returns. -/
def RequestOutcome.ret : RequestOutcome → ℤ
  | .noInstance => -EPERM
  | .writeFailed => - EIO
  | .submitted => 0

/-- A failed partition update leaves the request switch at once, with the lock held. -/
def Call.leavesLocked (c : Call) (cmdId : AmcCmdId) : Bool :=
  decide (cmdId = .setFptPartition ∧ c.ret ≠ 0)

/-- The request under `gcq_cmd_lock`; every command but a failed partition update unlocks. -/
def Call.request (c : Call) (cmdId : AmcCmdId) (o : RequestOutcome) : Except Call Call :=
  let c := { c.acquire .gcqCmdLock with ret := o.ret }
  if c.leavesLocked cmdId then .error c else .ok (c.release .gcqCmdLock)

/-- `amc_proxy_get_response_*`; `initialised` tells that the proxy instance is still there. -/
def getResponse (cmdId : AmcCmdId) (initialised : Bool) (cmd : ProxyCmd) : ℤ :=
  if !initialised then -EPERM
  else match cmdId with
    | .identify => 0
    | .sensor => cmd.cmdResponse.toUInt32.toInt32.toInt
    | _ => amcResultToLinuxErrno cmd.cmdResponseCode

def Call.readResponse (c : Call) (cmdId : AmcCmdId) (initialised : Bool) (cmd : ProxyCmd) : Call :=
  let ret := getResponse cmdId initialised cmd
  let c := { c with ret := ret }
  match cmdId with
  | .sensor => if ret = 0 then c.memcpyGcqPayloadFromDevice else c
  | .eepromReadWrite | .moduleReadWrite =>
    if ret = 0 ∧ rwType cmdId c.args.flags = AMC_PROXY_CMD_RW_REQUEST_READ then
      c.memcpyGcqPayloadFromDevice
    else c
  | _ => c

inductive Wake
  | killed
  /-- woken; `early` tells that the callback of a timeout, which signals first, has not yet set
  `timed_out` -/
  | woken (early initialised : Bool)
  deriving DecidableEq

/-- From the wait for completion to the label, and whether the request is aborted on the way; a
failed request and a killed wait return the same error. -/
def Call.await (c : Call) (cmdId : AmcCmdId) (w : Wake) : Call × Bool :=
  if c.ret ≠ 0 then ({ c with ret := -ERESTARTSYS }, true)
  else match w, c.amcProxyCmd with
    | .woken early initialised, some cmd =>
      if cmd.timedOut && !early then ({ c with ret := -ETIMEDOUT }, true)
      else if cmd.cmdRcode ≠ 0 then ({ c with ret := -EINVAL }, true)
      else (c.readResponse cmdId initialised cmd, false)
    | _, _ => ({ c with ret := -ERESTARTSYS }, true)

/-- The releases at the end of the label `done`. -/
def Call.releaseSemas (c : Call) : Call :=
  let c := if c.logPageAcquired then c.release .gcqLogPageSema else c
  if c.dataPageAcquired then c.release .gcqDataSema else c

/-- The label `done`. -/
def Call.done (c : Call) (x : CidXarray) : Call × CidXarray :=
  (c.releaseSemas,
    match c.amcProxyCmd with
    | some cmd => (removeGcqCid x c.ctxt.id cmd.cmdCid).2
    | none => x)

/-! ### The whole function -/

/-- What the response thread leaves in a command while its caller waits. -/
structure CmdUpdate where
  timedOut : Bool
  cmdRcode : ℤ
  cmdResponse : UInt64
  cmdResponseCode : UInt32

/-- The command after the response thread has dealt with it. -/
def ProxyCmd.update (cmd : ProxyCmd) (u : CmdUpdate) : ProxyCmd :=
  { cmd with
    timedOut := u.timedOut
    cmdRcode := u.cmdRcode
    cmdResponse := u.cmdResponse
    cmdResponseCode := u.cmdResponseCode }

/-- What the environment decides during one call. -/
structure Outcomes where
  kzallocFails : Bool
  semaInterrupted : Bool
  xaNoMemory : Bool
  jiffies : ℕ
  request : RequestOutcome
  update : CmdUpdate
  wake : Wake

/-- The request, the wait and the response. -/
def Call.transact (c : Call) (cmdId : AmcCmdId) (o : Outcomes) : Call :=
  match c.request cmdId o.request with
  | .error c => c
  | .ok c => ((c.mapCmd fun cmd => cmd.update o.update).await cmdId o.wake).1

/-- The function up to the label `done`. -/
def Call.body (c : Call) (o : Outcomes) (x : CidXarray) : Call × CidXarray :=
  match c.checks with
  | .error c => (c, x)
  | .ok cmdId =>
    match c.kzalloc o.kzallocFails with
    | .error c => (c, x)
    | .ok c =>
      match c.formPayload cmdId o.semaInterrupted with
      | .error c => (c, x)
      | .ok c =>
        match getGcqCid x c.ctxt.id o.xaNoMemory with
        | .error ret => ({ c with ret := ret }, x)
        | .ok (cid, x) =>
          ((c.initCmd cmdId cid o.jiffies).transact cmdId o, x)

/-- `submit_gcq_command`: the return value, the histories of the call and the ids afterwards. -/
def submitGcqCommand (amcCtrlCtxt : Option AmcControlCtxt) (args : Args) (o : Outcomes)
    (x : CidXarray) : ℤ × List (Ledger.Op Resource) × List Copy × CidXarray :=
  match amcCtrlCtxt with
  | none => (-EINVAL, [], [], x)
  | some ctxt =>
    let (c, x) := (Call.start ctxt args).body o x
    let (c, x) := c.done x
    (c.ret, c.ops, c.copies, x)

end Amr.Amc
