/-
# The built-in monitor

`bim.c`: the callbacks that the monitor binds to the proxy drivers, `iHandleEvent` and
`iBIM_SetOverallHealthStatus`. A callback runs in the task that raises the event. It reads the entry
of the event, compares its severity with the status of the module and then with the overall status,
and writes the two; only the write of the overall status takes the mutex, so that another task can
run between any two of these. Reading an entry past the event table of a module gives what lies
there, and is recorded.
-/
import Amr.Lib.Transition

namespace Amr.Bim

/-- `BIM_STATUS`, least severe first. -/
inductive BIM_STATUS
  | HEALTHY
  | DEGRADED
  | CRITICAL
  | FATAL
  | MAX
  deriving DecidableEq, Repr

namespace BIM_STATUS

def toNat : BIM_STATUS → ℕ
  | HEALTHY => 0
  | DEGRADED => 1
  | CRITICAL => 2
  | FATAL => 3
  | MAX => 4

theorem toNat_injective : Function.Injective toNat := by
  intro x y h
  cases x <;> cases y <;> first | rfl | exact absurd h (by decide)

instance : LinearOrder BIM_STATUS := LinearOrder.lift' toNat toNat_injective

end BIM_STATUS

/-- `AMC_CFG_UNIQUE_IDS`: the proxy drivers, each with an entry of the module table. -/
inductive AMC_CFG_UNIQUE_IDS
  | AXC
  | APC
  | ASC
  | AMI
  | BMC
  deriving DecidableEq, Repr

def AMC_CFG_UNIQUE_IDS.toNat : AMC_CFG_UNIQUE_IDS → ℕ
  | AXC => 0
  | APC => 1
  | ASC => 2
  | AMI => 3
  | BMC => 4

instance : Fintype AMC_CFG_UNIQUE_IDS where
  elems := {.AXC, .APC, .ASC, .AMI, .BMC}
  complete := by intro m; cases m <;> decide

inductive MODULE_STATE
  | UNINITIALISED
  | OK
  | ERROR
  deriving DecidableEq, Repr

structure EVLSignal where
  ucModule : UInt8
  ucEventType : UInt8
  ucInstance : UInt8
  ucAdditionalData : UInt8
  deriving DecidableEq, Repr

structure BIMEvent where
  ulEventId : UInt32
  ulCallCount : UInt32
  xContextStatus : BIM_STATUS
  deriving DecidableEq, Repr

/-- An entry of the module table, with the events that `pxEvents` points to. -/
structure BIMModule where
  xModuleId : AMC_CFG_UNIQUE_IDS
  xCurrentStatus : BIM_STATUS
  xContextStatus : BIM_STATUS
  pxEvents : List BIMEvent
  deriving DecidableEq, Repr

namespace BIMModule

def ulEventsLen (m : BIMModule) : ℕ := m.pxEvents.length

/-- `pxEvents[ ucEventType ]`, where `past` is what lies past the table. -/
def event (m : BIMModule) (past : BIMEvent) (ucEventType : UInt8) : BIMEvent :=
  m.pxEvents.getD ucEventType.toNat past

/-- `pxEvents[ ucEventType ].ulCallCount++`. -/
def count (m : BIMModule) (ucEventType : UInt8) : BIMModule :=
  { m with
    pxEvents := m.pxEvents.modify ucEventType.toNat fun e =>
      { e with ulCallCount := e.ulCallCount + 1 } }

/-- `xCurrentStatus = xStatus`. -/
def setCurrent (m : BIMModule) (xStatus : BIM_STATUS) : BIMModule :=
  { m with xCurrentStatus := xStatus }

@[simp] theorem count_current (m : BIMModule) (ucEventType : UInt8) :
    (m.count ucEventType).xCurrentStatus = m.xCurrentStatus := rfl

@[simp] theorem setCurrent_current (m : BIMModule) (xStatus : BIM_STATUS) :
    (m.setCurrent xStatus).xCurrentStatus = xStatus := rfl

end BIMModule

/-! ### The callbacks -/

/-- A callback takes the events of its module up to a largest type. -/
def callbackTakes (id : AMC_CFG_UNIQUE_IDS) (inRange : ℕ → Bool) (pxSignal : EVLSignal) : Bool :=
  decide (pxSignal.ucModule.toNat = id.toNat) && inRange pxSignal.ucEventType.toNat

def MAX_AXC_PROXY_DRIVER_EVENTS : ℕ := 2
def MAX_APC_PROXY_DRIVER_EVENTS : ℕ := 18
def MAX_ASC_PROXY_DRIVER_EVENTS : ℕ := 12
def MAX_AMI_PROXY_DRIVER_EVENTS : ℕ := 11
def MAX_BMC_PROXY_DRIVER_EVENTS : ℕ := 6

/-- `iAxcCallback` hands the signal to `iHandleEvent`. -/
def iAxcCallback : EVLSignal → Bool := callbackTakes .AXC (· ≤ MAX_AXC_PROXY_DRIVER_EVENTS)

/-- `iApcCallback` hands the signal to `iHandleEvent`. -/
def iApcCallback : EVLSignal → Bool := callbackTakes .APC (· ≤ MAX_APC_PROXY_DRIVER_EVENTS)

/-- `iAmiCallback` hands the signal to `iHandleEvent`. -/
def iAmiCallback : EVLSignal → Bool := callbackTakes .AMI (· ≤ MAX_AMI_PROXY_DRIVER_EVENTS)

/-- `iAscCallback` hands the signal to `iHandleEvent`. -/
def iAscCallback : EVLSignal → Bool := callbackTakes .ASC (· ≤ MAX_ASC_PROXY_DRIVER_EVENTS)

/-- `iBmcCallback` hands the signal to `iHandleEvent`: the only one with a strict bound, below which
its `switch` knows every type. -/
def iBmcCallback : EVLSignal → Bool := callbackTakes .BMC (· < MAX_BMC_PROXY_DRIVER_EVENTS)

/-- The callback that is bound to a proxy driver. -/
def callback : AMC_CFG_UNIQUE_IDS → EVLSignal → Bool
  | .AXC => iAxcCallback
  | .APC => iApcCallback
  | .ASC => iAscCallback
  | .AMI => iAmiCallback
  | .BMC => iBmcCallback

/-! ### Handling an event -/

/-- What a task that handles an event does next. -/
inductive Stage
  /-- Compare the event with the status of its module. -/
  | checkModule
  /-- Compare the event with the overall status. -/
  | checkOverall
  /-- Call `iBIM_SetOverallHealthStatus`. -/
  | setOverall (xStatus : BIM_STATUS)
  /-- Write the status of the module. -/
  | setModule
  /-- `iHandleEvent` has returned: ask the proxy driver for its state. -/
  | getState
  deriving DecidableEq, Repr

structure Handler where
  id : AMC_CFG_UNIQUE_IDS
  /-- `xContextStatus` of the entry of the event. -/
  xContextStatus : BIM_STATUS
  stage : Stage
  /-- What the callback returns if nothing fails from here on. -/
  iStatus : Bool
  deriving DecidableEq, Repr

/-- The monitor, with the tasks that handle events. -/
structure Monitor (n : ℕ) where
  pxModuleData : AMC_CFG_UNIQUE_IDS → BIMModule
  xHealthStatus : BIM_STATUS
  pxModuleStates : AMC_CFG_UNIQUE_IDS → MODULE_STATE
  task : Fin n → Option Handler
  /-- What the last callback in each task returned: `OK` or not. -/
  returned : Fin n → Bool
  /-- The severities of the events of each module that its callback took, latest first. -/
  raised : AMC_CFG_UNIQUE_IDS → List BIM_STATUS
  /-- An entry past the event table of its module was read. -/
  stray : Bool

inductive Action (n : ℕ)
  /-- The callback of `id` runs in task `t`, up to the first comparison; `past` is what lies past
  the event table. -/
  | raise (t : Fin n) (id : AMC_CFG_UNIQUE_IDS) (pxSignal : EVLSignal) (past : BIMEvent)
  | checkModule (t : Fin n)
  | checkOverall (t : Fin n)
  /-- `iBIM_SetOverallHealthStatus` in a handler; the mutex is taken and released, or not. -/
  | setOverall (t : Fin n) (taken released : Bool)
  | setModule (t : Fin n)
  /-- The state that the proxy driver reports, if it does. -/
  | getState (t : Fin n) (xState : Option MODULE_STATE)
  /-- `iBIM_SetOverallHealthStatus` from outside the monitor. -/
  | iBIM_SetOverallHealthStatus (xStatus : BIM_STATUS) (taken released : Bool)

variable {n : ℕ}

namespace Monitor

def setModule (s : Monitor n) (id : AMC_CFG_UNIQUE_IDS) (m : BIMModule) : Monitor n :=
  { s with pxModuleData := Function.update s.pxModuleData id m }

def setTask (s : Monitor n) (t : Fin n) (h : Option Handler) : Monitor n :=
  { s with task := Function.update s.task t h }

def setReturned (s : Monitor n) (t : Fin n) (iStatus : Bool) : Monitor n :=
  { s with returned := Function.update s.returned t iStatus }

def setStage (s : Monitor n) (t : Fin n) (h : Handler) (stage : Stage) : Monitor n :=
  s.setTask t (some { h with stage := stage })

/-- The proxy driver reports its state, or fails to. -/
def setState (s : Monitor n) (id : AMC_CFG_UNIQUE_IDS) (xState : Option MODULE_STATE) : Monitor n :=
  { s with
    pxModuleStates := Function.update s.pxModuleStates id (xState.getD (s.pxModuleStates id)) }

/-- `iBIM_SetOverallHealthStatus` writes the status under the mutex. -/
def setHealth (s : Monitor n) (xStatus : BIM_STATUS) (taken : Bool) : Monitor n :=
  if taken then { s with xHealthStatus := xStatus } else s

/-- The entry belongs to its module and its event is one of the table by its identifier: the checks
that `iHandleEvent` makes. -/
def accepts (s : Monitor n) (id : AMC_CFG_UNIQUE_IDS) (e : BIMEvent) : Bool :=
  decide ((s.pxModuleData id).xModuleId = id) &&
    decide (e.ulEventId.toNat ≤ (s.pxModuleData id).ulEventsLen)

/-- The callback took a signal: `iHandleEvent` up to the first comparison. -/
def enter (s : Monitor n) (t : Fin n) (id : AMC_CFG_UNIQUE_IDS) (ucEventType : UInt8)
    (past : BIMEvent) : Monitor n :=
  let m := s.pxModuleData id
  let e := m.event past ucEventType
  let seen : Monitor n :=
    { s with
      raised := Function.update s.raised id
        ((m.pxEvents[ucEventType.toNat]?.map (·.xContextStatus)).toList ++ s.raised id)
      stray := s.stray ||
        (decide (m.xModuleId = id) && decide (m.ulEventsLen ≤ ucEventType.toNat)) }
  if s.accepts id e then
    (seen.setModule id (m.count ucEventType)).setTask t
      (some ⟨id, e.xContextStatus, .checkModule, true⟩)
  else seen.setTask t (some ⟨id, e.xContextStatus, .getState, false⟩)

/-- The status that a handler whose event is more severe than the overall status calls
`iBIM_SetOverallHealthStatus` with: that of the event, or the context status of the module if the
event is critical. -/
def overallFor (s : Monitor n) (h : Handler) : BIM_STATUS :=
  if BIM_STATUS.CRITICAL ≤ h.xContextStatus then (s.pxModuleData h.id).xContextStatus
  else h.xContextStatus

end Monitor

open Monitor in
def step (s : Monitor n) : Action n → Option (Monitor n)
  | .raise t id pxSignal past =>
    match s.task t with
    | some _ => none
    | none =>
      if callback id pxSignal then s.enter t id pxSignal.ucEventType past
      else s.setReturned t false
  | .checkModule t =>
    match s.task t with
    | some ⟨id, x, .checkModule, r⟩ =>
      if (s.pxModuleData id).xCurrentStatus < x then
        s.setStage t ⟨id, x, .checkModule, r⟩ .checkOverall
      else s.setStage t ⟨id, x, .checkModule, r⟩ .getState
    | _ => none
  | .checkOverall t =>
    match s.task t with
    | some ⟨id, x, .checkOverall, r⟩ =>
      if s.xHealthStatus < x then
        s.setStage t ⟨id, x, .checkOverall, r⟩
          (.setOverall (s.overallFor ⟨id, x, .checkOverall, r⟩))
      else s.setStage t ⟨id, x, .checkOverall, r⟩ .setModule
    | _ => none
  | .setOverall t taken released =>
    match s.task t with
    | some ⟨id, x, .setOverall w, r⟩ =>
      (s.setHealth w taken).setTask t (some ⟨id, x, .setModule, r && (taken && released)⟩)
    | _ => none
  | .setModule t =>
    match s.task t with
    | some ⟨id, x, .setModule, r⟩ =>
      (s.setModule id ((s.pxModuleData id).setCurrent x)).setTask t (some ⟨id, x, .getState, r⟩)
    | _ => none
  | .getState t xState =>
    match s.task t with
    | some ⟨id, _, .getState, r⟩ =>
      ((s.setState id xState).setTask t none).setReturned t (r && xState.isSome)
    | _ => none
  | .iBIM_SetOverallHealthStatus xStatus taken _ => some (s.setHealth xStatus taken)

/-- The monitor as `iBIM_Initialise` leaves it, for a module table. -/
def start (pxModuleData : AMC_CFG_UNIQUE_IDS → BIMModule) : Monitor n where
  pxModuleData := pxModuleData
  xHealthStatus := .HEALTHY
  pxModuleStates _ := .UNINITIALISED
  task _ := none
  returned _ := true
  raised _ := []
  stray := false

end Amr.Bim
