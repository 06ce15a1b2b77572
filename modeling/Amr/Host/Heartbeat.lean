/-
# The heartbeat of the firmware and the state of the device

`heartbeat_health_thread` and `stop_gcq_services` of `ami_amc_control.c`, and `amc_event_cb`,
`create_pf_dev_data` and `shutdown_pf_dev_services` of `ami_top.c`. The heartbeat thread starts
inside `setup_amc`, while the probe of the device goes on; the probe, the thread and the shutdown
write the state of the device without a common lock. The probe reads the state and writes it in two
steps.

The fatal event is raised once, after three heartbeats in a row have failed, and shuts the service
off. The state that it leaves lasts in the runs in which the probe does not write the state
afterwards.
-/
import Amr.Lib.Transition

namespace Amr.Host.Heartbeat

open Transition

def HEARTBEAT_FAIL_THRESHOLD : ℕ := 3

inductive PF_DEV_STATE
  | INIT
  | READY
  | MISSING_INFO
  | NO_AMC
  | INIT_ERROR
  | SHUTDOWN
  | COMPAT
  deriving DecidableEq, Repr

inductive Pc
  | none
  /-- It is created and has not run yet. -/
  | created
  | top
  /-- A heartbeat is submitted. -/
  | waiting
  /-- `amc_event_cb` is entered with the fatal event. -/
  | fatal
  /-- `amc_event_cb` has stopped the service. -/
  | halted
  | sleeping
  | exited
  deriving DecidableEq, Repr

/-- The thread runs and uses the session. -/
def Pc.active : Pc → Bool
  | .none | .exited => false
  | _ => true

/-- The thread is between the raise of the fatal event and the return of the callback. -/
def Pc.raising : Pc → Bool
  | .fatal | .halted => true
  | _ => false

/-- The variables of the heartbeat thread, the outcomes of its heartbeats (the latest first, `true`
for a failure) and how often it raised the fatal event. -/
structure Heart where
  pc : Pc
  request_id : UInt8
  fail_count : ℕ
  fatal_event_raised : Bool
  failures : List Bool
  fatals : ℕ
  deriving DecidableEq, Repr

/-- How far the probe and the shutdown have come; each name says what was done last. -/
inductive Phase
  | start
  /-- `setup_amc` has created the heartbeat thread. -/
  | created
  | setupDone
  | discovered
  | hwmonDone
  | sysfsDone
  | cdevDone
  /-- The state was read, and whether it was `PF_DEV_STATE_INIT`. -/
  | stateRead (init : Bool)
  | probed
  /-- `unset_amc` is entered, by the failed probe or by the removal. -/
  | unset (removal : Bool)
  /-- The heartbeat thread is asked to stop. -/
  | stopping (removal : Bool)
  /-- It has stopped, and the service is shut off. -/
  | stopped (removal : Bool)
  /-- The session is freed. -/
  | closed
  deriving DecidableEq, Repr

structure Device where
  heart : Heart
  /-- `kthread_should_stop`. -/
  stop : Bool
  /-- There is a session, and it has the callback. -/
  amc_ctrl_ctxt : Bool
  event_cb : Bool
  gcq_halted : Bool
  state : PF_DEV_STATE
  phase : Phase
  /-- `pcie_function_num` is 0. -/
  pf0 : Bool
  /-- A command was accepted after the fatal event. -/
  acceptedLate : Bool
  /-- A heartbeat was submitted when there was no session. -/
  beatLate : Bool
  /-- An event was delivered without a session or a callback. -/
  missing : Bool
  deriving DecidableEq, Repr

/-- What `setup_amc` comes to. -/
inductive Setup
  | failed
  | compat
  | ok
  deriving DecidableEq, Repr

inductive Action
  /-- `setup_amc`, up to the creation of the heartbeat thread. -/
  | setup (r : Setup)
  /-- The next step of the probe, and what it comes to. -/
  | probe (ok : Bool)
  /-- The removal starts, and the next step of the shutdown. -/
  | remove
  | shutdown
  /-- The heartbeat thread starts, submits a heartbeat, gets the answer, raises the fatal event in
  three steps, does nothing and wakes up. -/
  | begin
  | beat
  | answer (response_id : Option UInt8)
  | fatal
  | halt
  | noAmc
  | skip
  | wake
  /-- A command is submitted by another context. -/
  | submit
  deriving DecidableEq, Repr

namespace Device

def start (pf0 : Bool) : Device where
  heart := ⟨.none, 0, 0, false, [], 0⟩
  stop := false
  amc_ctrl_ctxt := false
  event_cb := false
  gcq_halted := true
  state := .INIT
  phase := .start
  pf0 := pf0
  acceptedLate := false
  beatLate := false
  missing := false

def goto (s : Device) (pc : Pc) : Device := { s with heart := { s.heart with pc := pc } }

def next (s : Device) (phase : Phase) : Device := { s with phase := phase }

def deliver (s : Device) : Device :=
  { s with missing := s.missing || !(s.amc_ctrl_ctxt && s.event_cb) }

/-- `setup_amc`, and what the probe makes of its result. -/
def setup (s : Device) : Setup → Device
  | .failed => { s with state := .NO_AMC, phase := .hwmonDone }
  | .compat =>
    { s with amc_ctrl_ctxt := true, gcq_halted := false, state := .COMPAT, phase := .hwmonDone }
  | .ok =>
    { s.goto .created with
      amc_ctrl_ctxt := true, event_cb := true, gcq_halted := false, phase := .created }

/-- The steps of `create_pf_dev_data` after `setup_amc`. -/
def probe (s : Device) (ok : Bool) : Option Device :=
  match s.phase with
  | .created => some (s.next .setupDone)
  | .setupDone =>
    if s.pf0 then
      if ok then some (s.next .discovered)
      else some { s with state := .INIT_ERROR, phase := .hwmonDone }
    else some (s.next .hwmonDone)
  | .discovered => some (s.next (if ok then .hwmonDone else .unset false))
  | .hwmonDone => some (s.next (if ok then .sysfsDone else .unset false))
  | .sysfsDone => some (s.next (if ok then .cdevDone else .unset false))
  | .cdevDone => some (s.next (.stateRead (decide (s.state = .INIT))))
  | .stateRead true =>
    some { s with state := if ok then .READY else .MISSING_INFO, phase := .probed }
  | .stateRead false => some (s.next .probed)
  | _ => none

/-- The state after the session: `shutdown_pf_dev_services` writes it, a failed probe frees it. -/
def finalState (s : Device) (removal : Bool) : PF_DEV_STATE :=
  if removal then .SHUTDOWN else s.state

/-- The steps of `unset_amc` and `release_amc_mem`. -/
def shutdown (s : Device) : Option Device :=
  match s.phase with
  | .unset removal =>
    if s.amc_ctrl_ctxt then some { s with stop := true, phase := .stopping removal }
    else some { s with state := s.finalState removal, phase := .closed }
  -- `kthread_stop` waits for the thread
  | .stopping removal =>
    if s.heart.pc.active then none else some { s with gcq_halted := true, phase := .stopped removal }
  | .stopped removal =>
    some { s with amc_ctrl_ctxt := false, state := s.finalState removal, phase := .closed }
  | _ => none

def beat (s : Device) : Device :=
  { s.goto .waiting with beatLate := s.beatLate || !s.amc_ctrl_ctxt }

def answer (s : Device) (response_id : Option UInt8) : Device :=
  if response_id = some s.heart.request_id then
    { s with heart := { s.heart with
      pc := .sleeping, request_id := s.heart.request_id + 1, fail_count := 0,
      failures := false :: s.heart.failures } }
  else
    { s.deliver with heart := { s.heart with
      pc := .sleeping, request_id := s.heart.request_id + 1,
      fail_count := s.heart.fail_count + 1, failures := true :: s.heart.failures } }

/-- The callback of the fatal event has written the state. -/
def noAmc (s : Device) : Device :=
  { s with
    state := .NO_AMC
    heart := { s.heart with
      pc := .sleeping, fatal_event_raised := true, fatals := s.heart.fatals + 1 } }

/-- `submit_gcq_command` accepts a command unless the service is shut off. -/
def submit (s : Device) : Device :=
  if s.amc_ctrl_ctxt = true ∧ s.gcq_halted = false then
    { s with acceptedLate := s.acceptedLate || decide (s.heart.fatals ≠ 0) }
  else s

end Device

def step (s : Device) : Action → Option Device
  | .setup r => if s.phase = .start then some (s.setup r) else none
  | .probe ok => s.probe ok
  | .remove => if s.phase = .probed then some (s.next (.unset true)) else none
  | .shutdown => s.shutdown
  | .begin =>
    if s.heart.pc = .created then some (s.goto (if s.stop then .exited else .top)) else none
  | .beat =>
    if s.heart.pc = .top ∧ s.heart.fatal_event_raised = false ∧
        s.heart.fail_count < HEARTBEAT_FAIL_THRESHOLD then some s.beat else none
  | .answer response_id => if s.heart.pc = .waiting then some (s.answer response_id) else none
  | .fatal =>
    if s.heart.pc = .top ∧ s.heart.fatal_event_raised = false ∧
        HEARTBEAT_FAIL_THRESHOLD ≤ s.heart.fail_count then some (s.deliver.goto .fatal) else none
  | .halt =>
    if s.heart.pc = .fatal then
      some { s.goto .halted with gcq_halted := s.gcq_halted || s.amc_ctrl_ctxt }
    else none
  | .noAmc => if s.heart.pc = .halted then some s.noAmc else none
  | .skip =>
    if s.heart.pc = .top ∧ s.heart.fatal_event_raised = true then some (s.goto .sleeping) else none
  | .wake =>
    if s.heart.pc = .sleeping then some (s.goto (if s.stop then .exited else .top)) else none
  | .submit => some s.submit

/-! ### What the supervision is for -/

/-- The latest heartbeats failed, exactly as many as the threshold says. -/
def ThresholdReached (failures : List Bool) : Prop :=
  (failures.takeWhile id).length = HEARTBEAT_FAIL_THRESHOLD

structure Supervised (s : Device) : Prop where
  /-- The fatal event is raised at most once, after the threshold was reached and with no heartbeat
  after it. -/
  once : s.heart.fatals ≤ 1
  threshold : s.heart.fatals ≠ 0 → ThresholdReached s.heart.failures
  /-- From then on the service is shut off and the state is `PF_DEV_STATE_NO_AMC`, until the device
  is shut down. -/
  halted : s.heart.fatals ≠ 0 → s.amc_ctrl_ctxt = true → s.gcq_halted = true
  refused : s.acceptedLate = false
  state : s.heart.fatals ≠ 0 → s.phase ≠ .closed → s.state = .NO_AMC
  /-- No heartbeat is submitted and no event delivered without a session. -/
  inTime : s.beatLate = false
  delivered : s.missing = false

/-- The steps after which this holds: the probe does not write the state after the fatal event. -/
def Ok (s : Device) : Action → Prop
  | .probe ok =>
    s.heart.fatals ≠ 0 → (s.phase = .setupDone → s.pf0 = true → ok = true) ∧
      s.phase ≠ .stateRead true
  | _ => True

instance (s : Device) (a : Action) : Decidable (Ok s a) := by
  cases a <;> unfold Ok <;> infer_instance

end Amr.Host.Heartbeat
