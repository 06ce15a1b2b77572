/-
# The task of the AMI proxy driver

`vProxyDriverTask` of `src/fw/AMC/src/proxy_drivers/ami/ami_proxy_driver.c`. A turn of its loop
reads at most one request (`rx`) and handles at most one message of the mailbox (`tx`); between
them the application, which gets the events, posts completions through `iAMI_Set*Response`. What
the operating system decides is part of the action: whether a mutex is taken, whether a post to
the mailbox fails although there is room, whether an event is raised, whether the completion queue
takes the response.

Every accepted request gets a serial number, which the driver does not have; a slot and a message
carry the serial of their request, and a record keeps what has happened to it.

Left out: the counters and `xState`, which nothing here reads, and the release of the mutex, whose
failure is only counted.
-/
import Amr.Lib.Transition
import Amr.Ami.Entry

namespace Amr.Ami

/-- Maximum number of requests in flight. -/
abbrev AMI_RXDATA_SIZE : ℕ := 8

def AMI_MBOX_SIZE : ℕ := 10

/-- The `AMI_PROXY_DRIVER_EVENTS` that the task raises. -/
inductive Event
  | pdiDownloadStart | pdiCopyStart | sensorRead | getIdentity | bootSelect | heartbeat
  | eepromReadWrite | moduleReadWrite | debugVerbosity | fptFlags
  deriving DecidableEq, Repr

structure EVLSignal where
  ucEventType : Event
  ucInstance : ℕ
  deriving DecidableEq, Repr

/-- `AMIProxyRxData`, and the serial of the request it was last used for. -/
structure RxData where
  ucInUse : Bool
  xOpCode : AmiCmdOpcodeReq
  usCid : ℕ
  request : RxRequest
  serial : ℕ
  deriving DecidableEq, Repr

/-- `AMIProxyMboxMsg`, and the serial of the request that the completion was made for. -/
structure MboxMsg where
  ucRxDataIndex : ℕ
  completion : Completion
  serial : ℕ
  deriving DecidableEq, Repr

/-- What has happened to an accepted request. -/
structure Record where
  usCid : ℕ
  xOpCode : AmiCmdOpcodeReq
  signals : List EVLSignal
  completions : List Completion
  responses : List AMIProxyCmdResp
  deriving DecidableEq, Repr

/-- The private data of the driver with its mailbox, and the requests accepted so far. -/
structure Task where
  iInitialised : Bool
  xRxData : Fin AMI_RXDATA_SIZE → RxData
  mbox : List MboxMsg
  accepted : ℕ
  record : ℕ → Record

/-- The driver as its initialisation leaves it: no slot in use, nothing in the mailbox. -/
structure Task.IsStart (t : Task) : Prop where
  free : ∀ i, (t.xRxData i).ucInUse = false
  mbox : t.mbox = []
  accepted : t.accepted = 0

/-- The outcomes of `iEVL_RaiseEvent`: the callbacks may have run although it reports an error,
when the record's mutex cannot be released after them. -/
inductive Raise
  | ok | releaseFailed | failed
  deriving DecidableEq, Repr

def Raise.delivers : Raise → Bool
  | .ok | .releaseFailed => true
  | .failed => false

/-- What the operating system decides while a request is handled. -/
structure RxOutcome where
  mutexTaken : Bool
  raise : Raise
  postFails : Bool
  deriving DecidableEq, Repr

/-- What the operating system and the completion queue decide while a message is handled. -/
structure TxOutcome where
  written : Bool
  mutexTaken : Bool
  deriving DecidableEq, Repr

namespace Task

def iFindNextFreeRxDataIndex (t : Task) : Option (Fin AMI_RXDATA_SIZE) :=
  if t.iInitialised then
    (List.finRange AMI_RXDATA_SIZE).find? fun i => !(t.xRxData i).ucInUse
  else none

/-! ### The mailbox -/

/-- The request whose slot an index names. -/
def serialAt (t : Task) (ucInstance : ℕ) : ℕ :=
  if h : ucInstance < AMI_RXDATA_SIZE then (t.xRxData ⟨ucInstance, h⟩).serial else t.accepted

/-- Whether a post that need not wait succeeds. -/
def Posts (t : Task) (fails : Bool) : Prop := fails = false ∧ t.mbox.length < AMI_MBOX_SIZE

instance (t : Task) (fails : Bool) : Decidable (t.Posts fails) :=
  inferInstanceAs (Decidable (_ ∧ _))

/-- The message in the mailbox, and in the record of the request that it is for. -/
def postMsg (t : Task) (ucInstance : ℕ) (c : Completion) : Task :=
  let n := t.serialAt ucInstance
  { t with
    mbox := t.mbox ++ [⟨ucInstance, c, n⟩]
    record := Function.update t.record n
      { t.record n with completions := (t.record n).completions ++ [c] } }

/-- `iOSAL_MBox_Post` without waiting. -/
def post (t : Task) (ucInstance : ℕ) (c : Completion) (fails : Bool) : Task :=
  if t.Posts fails then t.postMsg ucInstance c else t

/-- The body that the functions `iAMI_Set*Response` share. -/
def setResponse (t : Task) (ucInstance : ℕ) (body : MsgBody) (xResult : AMIProxyResult)
    (fails : Bool) : Task :=
  if t.iInitialised then t.post ucInstance ⟨body, xResult⟩ fails else t

def iAMISetPdiDownloadCompleteResponse (t : Task) (ucInstance : ℕ) (xResult : AMIProxyResult)
    (fails : Bool) : Task :=
  t.setResponse ucInstance .pdiDownloadComplete xResult fails

def iAMISetPdiCopyCompleteResponse (t : Task) (ucInstance : ℕ) (xResult : AMIProxyResult)
    (fails : Bool) : Task :=
  t.setResponse ucInstance .pdiCopyComplete xResult fails

def iAMISetPdiProgramCompleteResponse (t : Task) (ucInstance : ℕ) (xResult : AMIProxyResult)
    (fails : Bool) : Task :=
  t.setResponse ucInstance .pdiProgramComplete xResult fails

def iAMISetSensorCompleteResponse (t : Task) (ucInstance : ℕ) (xResult : AMIProxyResult)
    (fails : Bool) : Task :=
  t.setResponse ucInstance .sensorComplete xResult fails

def iAMISetIdentityResponse (t : Task) (ucInstance : ℕ) (xResult : AMIProxyResult)
    (xIdentity : AMIProxyIdentityResponse) (fails : Bool) : Task :=
  t.setResponse ucInstance (.identityComplete xIdentity) xResult fails

def iAMISetBootSelectCompleteResponse (t : Task) (ucInstance : ℕ) (xResult : AMIProxyResult)
    (fails : Bool) : Task :=
  t.setResponse ucInstance .bootSelectComplete xResult fails

def iAMISetEepromReadWriteCompleteResponse (t : Task) (ucInstance : ℕ)
    (xResult : AMIProxyResult) (fails : Bool) : Task :=
  t.setResponse ucInstance .eepromRwComplete xResult fails

def iAMISetModuleReadWriteCompleteResponse (t : Task) (ucInstance : ℕ)
    (xResult : AMIProxyResult) (fails : Bool) : Task :=
  t.setResponse ucInstance .moduleRwComplete xResult fails

def iAMISetDebugVerbosityResponse (t : Task) (ucInstance : ℕ) (xResult : AMIProxyResult)
    (fails : Bool) : Task :=
  t.setResponse ucInstance .debugVerbosityComplete xResult fails

def iAMISetFptFlagsResponse (t : Task) (ucInstance : ℕ) (xResult : AMIProxyResult)
    (ulFlags : UInt32) (fails : Bool) : Task :=
  t.setResponse ucInstance (.fptFlagsComplete ulFlags) xResult fails

/-! ### The receive path -/

/-- The slot filled in for a request, which is thereby accepted. -/
def claim (t : Task) (i : Fin AMI_RXDATA_SIZE) (op : AmiCmdOpcodeReq) (image : ℕ) : Task :=
  let usCid := (AMIProxyCmdReqHdr.ofImage image).usCid
  { t with
    xRxData := Function.update t.xRxData i ⟨true, op, usCid, rxRequest image op, t.accepted⟩
    accepted := t.accepted + 1
    record := Function.update t.record t.accepted ⟨usCid, op, [], [], []⟩ }

/-- `iEVL_RaiseEvent` for the request with a given serial. -/
def raiseEvent (t : Task) (n : ℕ) (xNewSignal : EVLSignal) (r : Raise) : Task :=
  if r.delivers then
    { t with
      record := Function.update t.record n
        { t.record n with signals := (t.record n).signals ++ [xNewSignal] } }
  else t

/-- The slot that a request gets: the mutex is taken and a slot is free. -/
def claimed (t : Task) (o : RxOutcome) : Option (Fin AMI_RXDATA_SIZE) :=
  if o.mutexTaken then t.iFindNextFreeRxDataIndex else none

/-- The body that all request cases but the heartbeat share: claim a slot and raise the event with
the index of the slot. -/
def storeAndRaise (t : Task) (op : AmiCmdOpcodeReq) (event : Event) (image : ℕ)
    (o : RxOutcome) : Task :=
  match t.claimed o with
  | none => t
  | some i => (t.claim i op image).raiseEvent t.accepted ⟨event, i⟩ o.raise

/-- `iHandleHeartbeatRequest`: the event carries the heartbeat count, and the task answers the
request itself. -/
def iHandleHeartbeatRequest (t : Task) (image : ℕ) (o : RxOutcome) : Task :=
  match t.claimed o with
  | none => t
  | some i =>
    let ucHeartbeatCount := bytePayload image
    let t' := (t.claim i .heartbeat image).raiseEvent t.accepted
      ⟨.heartbeat, ucHeartbeatCount⟩ o.raise
    if o.raise = .ok then
      t'.post i ⟨.heartbeatComplete (UInt8.ofNat ucHeartbeatCount), .success⟩ o.postFails
    else t'

def iHandleEepromRequest (t : Task) (image : ℕ) (o : RxOutcome) : Task :=
  t.storeAndRaise .eepromRw .eepromReadWrite image o

def iHandleModuleRequest (t : Task) (image : ℕ) (o : RxOutcome) : Task :=
  t.storeAndRaise .moduleRw .moduleReadWrite image o

def iHandleDebugVerbosityRequest (t : Task) (image : ℕ) (o : RxOutcome) : Task :=
  t.storeAndRaise .debugVerbosity .debugVerbosity image o

def iHandleFptFlagsRequest (t : Task) (image : ℕ) (o : RxOutcome) : Task :=
  t.storeAndRaise .fptFlags .fptFlags image o

/-- The case of the request switch that an entry takes. -/
def opcodeOf (image : ℕ) : Option AmiCmdOpcodeReq :=
  AmiCmdOpcodeReq.ofValue (AMIProxyCmdReqHdr.ofImage image).ulOpCode

/-- The receive path of a turn that has read an entry. -/
def rx (t : Task) (image : ℕ) (o : RxOutcome) : Task :=
  match opcodeOf image with
  | none => t
  | some .pdiDownload => t.storeAndRaise .pdiDownload .pdiDownloadStart image o
  | some .pdiCopy => t.storeAndRaise .pdiCopy .pdiCopyStart image o
  -- a program request raises the event of a download
  | some .pdiProgram => t.storeAndRaise .pdiProgram .pdiDownloadStart image o
  | some .sensor => t.storeAndRaise .sensor .sensorRead image o
  | some .identify => t.storeAndRaise .identify .getIdentity image o
  | some .bootSel => t.storeAndRaise .bootSel .bootSelect image o
  | some .heartbeat => t.iHandleHeartbeatRequest image o
  | some .eepromRw => t.iHandleEepromRequest image o
  | some .moduleRw => t.iHandleModuleRequest image o
  | some .debugVerbosity => t.iHandleDebugVerbosityRequest image o
  | some .fptFlags => t.iHandleFptFlagsRequest image o

/-! ### The transmit path -/

/-- A response written for the request of a message. -/
def respond (t : Task) (m : MboxMsg) (xCmdResponse : AMIProxyCmdResp) : Task :=
  { t with
    record := Function.update t.record m.serial
      { t.record m.serial with
        responses := (t.record m.serial).responses ++ [xCmdResponse] } }

/-- The slot freed, when the mutex is taken. -/
def free (t : Task) (i : Fin AMI_RXDATA_SIZE) (mutexTaken : Bool) : Task :=
  if mutexTaken then
    { t with xRxData := Function.update t.xRxData i { t.xRxData i with ucInUse := false } }
  else t

/-- The transmit path of a turn. A message with an index past the array makes the source read
and write past it; there is no such step. -/
def tx (t : Task) (o : TxOutcome) : Option Task :=
  match t.mbox with
  | [] => some t
  | m :: mbox =>
    let t := { t with mbox := mbox }
    if m.completion.body.payload.isNone then some t
    else if h : m.ucRxDataIndex < AMI_RXDATA_SIZE then
      let i : Fin AMI_RXDATA_SIZE := ⟨m.ucRxDataIndex, h⟩
      match m.completion.response (t.xRxData i).usCid, o.written with
      | some xCmdResponse, true => some ((t.respond m xCmdResponse).free i o.mutexTaken)
      | _, _ => some t
    else none

end Task

/-- One step of the task or of the application. -/
inductive Action
  /-- the initialisation, which starts the task, is over -/
  | initialised
  | rx (image : ℕ) (o : RxOutcome)
  /-- `iAMI_Set*Response` -/
  | complete (ucInstance : ℕ) (c : Completion) (fails : Bool)
  | tx (o : TxOutcome)
  deriving DecidableEq, Repr

def step (t : Task) : Action → Option Task
  | .initialised => some { t with iInitialised := true }
  | .rx image o => some (t.rx image o)
  | .complete ucInstance c fails => some (t.setResponse ucInstance c.body c.xResult fails)
  | .tx o => t.tx o

end Amr.Ami
