/-
# Callers, response thread and firmware, step by step

`src/sw/AMI/driver/amc_proxy.c` under the calls of `submit_gcq_command`: any number of calls on
any number of devices, for each device the thread that completes responses and the firmware at
the other end of the queues. A step is one section of one call, one section of the response thread
under the lock of the proxy instance, or one move of the firmware; any order of steps is a run. A
call writes its request to the submission queue in one step and enters the list of submitted
commands in a later one, as the source does.

The two queues are first-in first-out and lose nothing, as their driver guarantees; the firmware
takes requests in order and answers each at most once, whenever and in whatever order it likes.
Every entry carries the call it belongs to, which no party reads, and a call remembers the id it
was given and the call whose response completed it.

Left out: creating and closing a proxy instance (`initialised` is fixed during a run), the
contents of requests, and the second completion of a command, since it only ever uses one.
-/
import Amr.Lib.Transition
import Amr.Amc.Submit

namespace Amr.Amc.Proxy

/-! ### The parties -/

/-- A request in flight: its id, and the call that wrote it. -/
structure Request where
  cid : ℕ
  owner : ℕ
  deriving DecidableEq, Repr

/-- A completion entry: the request it answers, the two payload words and the result. -/
structure Completion where
  request : Request
  payload : UInt64
  ret : UInt32
  deriving DecidableEq

/-- The statement of `submit_gcq_command` that a call executes next. -/
inductive Pc
  /-- payload formation, which waits for a semaphore -/
  | payload
  /-- `get_gcq_cid` -/
  | cid
  /-- `mutex_lock` -/
  | lock
  /-- `gcq_write` inside `amc_proxy_request_*` -/
  | write
  /-- `list_add_tail` inside `amc_proxy_request_*` -/
  | insert
  /-- the end of the request switch and `mutex_unlock` -/
  | requested
  /-- `wait_for_completion_killable` and what follows it -/
  | wait
  /-- `amc_proxy_request_abort` -/
  | abort
  /-- `remove_gcq_cid` at the label `done` -/
  | erase
  /-- the rest of the label -/
  | release
  | returned
  deriving DecidableEq, Repr

/-- A call in progress: its locals and the next statement, the id that it owns, and the call whose
response completed it. -/
structure Thread where
  call : Call
  cmdId : AmcCmdId
  pc : Pc
  owned : Option ℕ
  answer : Option ℕ

/-- One device: what its context and its proxy instance hold, and the entries on their way. -/
structure Device where
  ctxt : AmcControlCtxt
  /-- the call that holds `gcq_cmd_lock` -/
  gcqCmdLock : Option ℕ
  gcqDataSema : ℕ
  gcqLogPageSema : ℕ
  initialised : Bool
  /-- `submitted_cmds`: the calls whose commands are in the list -/
  submittedCmds : List ℕ
  sq : List Request
  /-- taken by the firmware and not answered -/
  taken : List Request
  cq : List Completion

/-- The requests of a device that are not answered, or whose answer has not been read. -/
def Device.outstanding (d : Device) : List Request :=
  d.sq ++ d.taken ++ d.cq.map (·.request)

structure State where
  threads : ℕ → Option Thread
  devices : ℕ → Device
  cids : CidXarray
  jiffies : ℕ

def Device.start (id : ℕ) (amcDataStart amcDataEnd : UInt32) (gcqHalted initialised : Bool) :
    Device where
  ctxt := ⟨id, gcqHalted, amcDataStart, amcDataEnd⟩
  gcqCmdLock := none
  gcqDataSema := 1
  gcqLogPageSema := 1
  initialised := initialised
  submittedCmds := []
  sq := []
  taken := []
  cq := []

/-- The system as loaded: devices of any kind, no calls, no id allocated. -/
structure State.IsStart (s : State) : Prop where
  threads : ∀ k, s.threads k = none
  devices : ∀ d, ∃ amcDataStart amcDataEnd gcqHalted initialised,
    s.devices d = .start d amcDataStart amcDataEnd gcqHalted initialised
  cids : s.cids = .empty

/-! ### Semaphores and commands -/

def Device.sema (d : Device) : Resource → ℕ
  | .gcqDataSema => d.gcqDataSema
  | .gcqLogPageSema => d.gcqLogPageSema
  | .gcqCmdLock => 0

/-- `down`, when the count allows it. -/
def Device.down (d : Device) : Resource → Device
  | .gcqDataSema => { d with gcqDataSema := d.gcqDataSema - 1 }
  | .gcqLogPageSema => { d with gcqLogPageSema := d.gcqLogPageSema - 1 }
  | .gcqCmdLock => d

def Device.up (d : Device) : Resource → Device
  | .gcqDataSema => { d with gcqDataSema := d.gcqDataSema + 1 }
  | .gcqLogPageSema => { d with gcqLogPageSema := d.gcqLogPageSema + 1 }
  | .gcqCmdLock => d

/-- The id that the command of a call carries. -/
def Thread.cmdCid (t : Thread) : Option ℕ := t.call.amcProxyCmd.map (·.cmdCid)

def Thread.dev (t : Thread) : ℕ := t.call.ctxt.id

def Thread.mapCmd (t : Thread) (f : ProxyCmd → ProxyCmd) : Thread :=
  { t with call := t.call.mapCmd f }

def Thread.goto (t : Thread) (pc : Pc) : Thread := { t with pc := pc }

/-! ### One call

Each section works on the locals of the call, its device and the allocator. `fails` tells that
the outcome which the environment decides is the bad one. -/

/-- Entry of `submit_gcq_command`, its checks and `kzalloc`. -/
def enter (d : Device) (args : Args) (fails : Bool) : Thread :=
  let c := Call.start d.ctxt args
  let cmdId := (getCmdCommandId args.cmdReq).getD .sensor
  match c.checks.bind fun _ => c.kzalloc fails with
  | .error c => ⟨c, cmdId, .erase, none, none⟩
  | .ok c => ⟨c, cmdId, .payload, none, none⟩

def Thread.formPayload (t : Thread) (fails : Bool) : Thread :=
  match t.call.formPayload t.cmdId fails with
  | .error c => { t with call := c, pc := .erase }
  | .ok c => { t with call := c, pc := .cid }

/-- Payload formation. A wait for a semaphore can be interrupted only while its count is 0. -/
def payloadStep (t : Thread) (d : Device) (fails : Bool) : Option (Thread × Device) :=
  match semaOf t.cmdId with
  | none => some (t.formPayload fails, d)
  | some r =>
    if fails then if d.sema r = 0 then some (t.formPayload fails, d) else none
    else if d.sema r = 0 then none
    else some (t.formPayload fails, d.down r)

/-- `get_gcq_cid` and the initialisation of the command. -/
def cidStep (t : Thread) (x : CidXarray) (jiffies : ℕ) (fails : Bool) : Thread × CidXarray :=
  match getGcqCid x t.call.ctxt.id fails with
  | .error ret => ({ t with call := { t.call with ret := ret }, pc := .erase }, x)
  | .ok (cid, x) =>
    ({ t with call := t.call.initCmd t.cmdId cid jiffies, pc := .lock, owned := some cid }, x)

/-- `mutex_lock`. -/
def lockStep (k : ℕ) (t : Thread) (d : Device) : Option (Thread × Device) :=
  match d.gcqCmdLock with
  | some _ => none
  | none => some ({ t with call := t.call.acquire .gcqCmdLock, pc := .write },
      { d with gcqCmdLock := some k })

/-- The lookup of the proxy instance and `gcq_write`. -/
def writeStep (k : ℕ) (t : Thread) (d : Device) (fails : Bool) : Thread × Device :=
  if d.initialised = false then
    ({ t with call := { t.call with ret := RequestOutcome.noInstance.ret }, pc := .requested }, d)
  else if fails then
    ({ t with call := { t.call with ret := RequestOutcome.writeFailed.ret }, pc := .requested }, d)
  else (t.goto .insert, { d with sq := d.sq ++ [⟨t.cmdCid.getD 0, k⟩] })

/-- `list_add_tail` and the return of the request function. -/
def insertStep (k : ℕ) (t : Thread) (d : Device) : Thread × Device :=
  ({ t with call := { t.call with ret := RequestOutcome.submitted.ret }, pc := .requested },
    { d with submittedCmds := d.submittedCmds ++ [k] })

/-- The end of the request switch: a failed partition update leaves without unlocking. -/
def unlockStep (t : Thread) (d : Device) : Thread × Device :=
  if t.call.leavesLocked t.cmdId then (t.goto .erase, d)
  else ({ t with call := t.call.release .gcqCmdLock, pc := .wait }, { d with gcqCmdLock := none })

/-- What follows the wait: the call goes on to abort its request, or straight to the label. -/
def Thread.await (t : Thread) (c : Call) (w : Wake) : Thread :=
  { t with
    call := (c.await t.cmdId w).1
    pc := if (c.await t.cmdId w).2 then .abort else .erase }

/-- The wait for completion and what follows it. -/
def waitStep (t : Thread) (d : Device) (fails early : Bool) : Option Thread :=
  if t.call.ret ≠ 0 ∨ fails = true then some (t.await t.call .killed)
  else match t.call.amcProxyCmd with
    | none => none
    | some cmd =>
      if cmd.complete = 0 then none
      else
        let c := t.call.mapCmd fun cmd => { cmd with complete := cmd.complete - 1 }
        some (t.await c (.woken early d.initialised))

/-- `amc_proxy_request_abort`: the command leaves the list if it is in it. -/
def abortStep (k : ℕ) (t : Thread) (d : Device) : Thread × Device :=
  if d.initialised then
    (if k ∈ d.submittedCmds then
        (t.mapCmd fun cmd => { cmd with cmdRcode := - EIO }).goto .erase
      else t.goto .erase,
      { d with submittedCmds := d.submittedCmds.filter (· ≠ k) })
  else (t.goto .erase, d)

/-- `remove_gcq_cid`. -/
def eraseStep (t : Thread) (x : CidXarray) : Thread × CidXarray :=
  ({ t with pc := .release, owned := none },
    match t.call.amcProxyCmd with
    | some cmd => (removeGcqCid x t.call.ctxt.id cmd.cmdCid).2
    | none => x)

/-- The semaphores go up, and the call returns. -/
def releaseStep (t : Thread) (d : Device) : Thread × Device :=
  let d := if t.call.logPageAcquired then d.up .gcqLogPageSema else d
  let d := if t.call.dataPageAcquired then d.up .gcqDataSema else d
  ({ t with call := t.call.releaseSemas, pc := .returned }, d)

/-- The next section of call `k`. -/
def threadStep (k : ℕ) (t : Thread) (d : Device) (x : CidXarray) (jiffies : ℕ)
    (fails early : Bool) : Option (Thread × Device × CidXarray) :=
  match t.pc with
  | .payload => (payloadStep t d fails).map fun r => (r.1, r.2, x)
  | .cid => let r := cidStep t x jiffies fails; some (r.1, d, r.2)
  | .lock => (lockStep k t d).map fun r => (r.1, r.2, x)
  | .write => let r := writeStep k t d fails; some (r.1, r.2, x)
  | .insert => let r := insertStep k t d; some (r.1, r.2, x)
  | .requested => let r := unlockStep t d; some (r.1, r.2, x)
  | .wait => (waitStep t d fails early).map fun t => (t, d, x)
  | .abort => let r := abortStep k t d; some (r.1, r.2, x)
  | .erase => let r := eraseStep t x; some (r.1, d, r.2)
  | .release => let r := releaseStep t d; some (r.1, r.2, x)
  | .returned => none

/-! ### The response thread -/

/-- The command of call `k` has id `cid`. -/
def hasCid (threads : ℕ → Option Thread) (cid k : ℕ) : Bool :=
  decide ((threads k).bind Thread.cmdCid = some cid)

/-- The callback of `AMC_PROXY_EVENT_RESPONSE_COMPLETE`, after the response has been stored. -/
def Thread.completeWith (t : Thread) (m : Completion) : Thread :=
  { t.mapCmd fun cmd =>
      { cmd with
        cmdResponse := m.payload
        cmdResponseCode := m.ret
        complete := cmd.complete + 1 } with
    answer := some m.request.owner }

/-- `cmd_complete`: the first command of the list with the id of the entry gets the response and
leaves the list; without one the entry is discarded. -/
def cmdComplete (threads : ℕ → Option Thread) (submittedCmds : List ℕ) (m : Completion) :
    (ℕ → Option Thread) × List ℕ :=
  match submittedCmds.find? (hasCid threads m.request.cid) with
  | some k => (Function.update threads k ((threads k).map (·.completeWith m)), submittedCmds.erase k)
  | none => (threads, submittedCmds)

/-- `time_before(cmd_timeout_jiffies, jiffies)` of a listed command. -/
def expired (threads : ℕ → Option Thread) (jiffies k : ℕ) : Bool :=
  match (threads k).bind (·.call.amcProxyCmd) with
  | some cmd => decide (cmd.cmdTimeoutJiffies < jiffies)
  | none => false

/-- The callback of `AMC_PROXY_EVENT_RESPONSE_TIMEOUT`, after the return code has been stored. -/
def Thread.timeOut (t : Thread) : Thread :=
  t.mapCmd fun cmd =>
    { cmd with cmdRcode := -ETIME, complete := cmd.complete + 1, timedOut := true }

/-- Time out every listed command that has expired. -/
def timeOutListed (threads : ℕ → Option Thread) (submittedCmds : List ℕ) (jiffies : ℕ) :
    ℕ → Option Thread := fun k =>
  if k ∈ submittedCmds ∧ expired threads jiffies k = true then (threads k).map Thread.timeOut
  else threads k

/-! ### Steps of the system -/

inductive Act
  /-- a call on a device starts -/
  | call (k d : ℕ) (args : Args) (fails : Bool)
  /-- a call executes its next section -/
  | advance (k : ℕ) (fails early : Bool)
  /-- the firmware takes the next request -/
  | take (d : ℕ)
  /-- the firmware answers one of the requests it has taken -/
  | answer (d i : ℕ) (payload : UInt64) (ret : UInt32)
  /-- the response thread reads an entry: `gcq_read` and `cmd_complete` -/
  | respond (d : ℕ)
  /-- `submitted_cmd_check_timeout` -/
  | checkTimeout (d : ℕ)
  /-- `submitted_cmds_drain` -/
  | drain (d : ℕ)
  | tick
  /-- the service of a device is halted or resumed -/
  | halt (d : ℕ) (gcqHalted : Bool)

def State.setThread (s : State) (k : ℕ) (t : Thread) : State :=
  { s with threads := Function.update s.threads k (some t) }

def State.setDevice (s : State) (d : ℕ) (dev : Device) : State :=
  { s with devices := Function.update s.devices d dev }

/-- The state after an action, if it is enabled. -/
def step (s : State) : Act → Option State
  | .call k d args fails =>
    match s.threads k with
    | some _ => none
    | none => some (s.setThread k (enter (s.devices d) args fails))
  | .advance k fails early => do
    let t ← s.threads k
    let r ← threadStep k t (s.devices t.dev) s.cids s.jiffies fails early
    some { s with
      threads := Function.update s.threads k (some r.1)
      devices := Function.update s.devices t.dev r.2.1
      cids := r.2.2 }
  | .take d =>
    match (s.devices d).sq with
    | [] => none
    | m :: sq =>
      some (s.setDevice d { s.devices d with sq := sq, taken := (s.devices d).taken ++ [m] })
  | .answer d i payload ret => do
    let m ← (s.devices d).taken[i]?
    let dev :=
      { s.devices d with
        taken := (s.devices d).taken.eraseIdx i
        cq := (s.devices d).cq ++ [⟨m, payload, ret⟩] }
    some (s.setDevice d dev)
  | .respond d =>
    match (s.devices d).cq with
    | [] => none
    | m :: cq =>
      let r := cmdComplete s.threads (s.devices d).submittedCmds m
      some { s with
        threads := r.1
        devices := Function.update s.devices d
          { s.devices d with cq := cq, submittedCmds := r.2 } }
  | .checkTimeout d =>
    some { s with threads := timeOutListed s.threads (s.devices d).submittedCmds s.jiffies }
  | .drain d =>
    let listed := (s.devices d).submittedCmds
    some { s with
      threads := timeOutListed s.threads listed s.jiffies
      devices := Function.update s.devices d
        { s.devices d with
          submittedCmds := listed.filter fun k => !expired s.threads s.jiffies k } }
  | .tick => some { s with jiffies := s.jiffies + 1 }
  | .halt d gcqHalted =>
    let ctxt := { (s.devices d).ctxt with gcqHalted := gcqHalted }
    some (s.setDevice d { s.devices d with ctxt := ctxt })

end Amr.Amc.Proxy
