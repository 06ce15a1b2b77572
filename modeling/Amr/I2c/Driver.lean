/-
# I2C transfers with retry

`iI2C_Send`, `iI2C_Recv` and `iI2C_SendRecv` of the AVED `i2c.c`, with `iI2C_ReInit` and
`iWaitForBusIdle`. Each is a loop of attempts over three statuses that persist from one attempt to
the next; the loop is left when all three are good, or when the configured number of attempts is
used up. What the mutex, the timer, the bus and the XIicPs driver answer in an attempt is given by
an `Attempt`, so that a call is run on a sequence of these; it is driven for a number of rounds, and
has no result where that is not enough. The parameters and the initialisation of the driver are
taken to be checked.
-/
import Mathlib

namespace Amr.I2c

/-- What answers a wait for the bus: whether the timer starts, whether the bus is busy, poll by
poll, until the timer calls back, whether it calls back between the last poll and the check of the
flag, and whether it stops. -/
structure BusWait where
  timer_start : Bool
  busy : List Bool
  late : Bool
  timer_stop : Bool
  deriving DecidableEq, Repr

/-- The loop in `iWaitForBusIdle`; `true` if the abort flag is set when it is left. -/
def busy_wait (late : Bool) : List Bool → Bool
  | [] => true
  | busy :: rest => if busy then busy_wait late rest else late

def iWaitForBusIdle (w : BusWait) : Bool :=
  if w.timer_start then
    let iAbortBusWait := busy_wait w.late w.busy
    if w.timer_stop then !iAbortBusWait else false
  else false

/-- What answers one attempt; not every function asks for all of it. -/
structure Attempt where
  mutex_take : Bool
  set_options : Bool
  wait : BusWait
  send : Bool
  clear_options : Bool
  recv : Bool
  wait_after : BusWait
  cfg_initialize : Bool
  set_sclk : Bool
  mutex_release : Bool
  deriving DecidableEq, Repr

inductive Fn where
  | send
  | recv
  | send_recv
  deriving DecidableEq, Repr

/-- The variables of a call, the enabled flag and the mutex. Beside them, the number of attempts so
far, and for each transfer that was begun, in order, whether it was completed. -/
structure Loop where
  iStatus : Bool
  iI2cStatus : Bool
  iWaitBusIdleStatus : Bool
  iReInitStatus : Bool
  iI2cEnabled : Bool
  held : Bool
  attempts : ℕ
  transfers : List Bool
  deriving DecidableEq, Repr

/-- `iI2C_ReInit`, and what is done with its result. -/
def iI2C_ReInit (a : Attempt) (s : Loop) : Loop :=
  if a.cfg_initialize then
    if a.set_sclk then { s with iI2cEnabled := true, iReInitStatus := true }
    else { s with iReInitStatus := false }
  else { s with iReInitStatus := false }

/-- A transfer that fails disables the bus, and is followed by an attempt to recover it. -/
def fail_transfer (a : Attempt) (s : Loop) : Loop :=
  iI2C_ReInit a
    { s with iI2cStatus := false, iI2cEnabled := false, transfers := s.transfers ++ [false] }

/-- The release of the mutex at the end of an attempt. -/
def release (a : Attempt) (s : Loop) : Loop :=
  if a.mutex_release then { s with held := false } else { s with iStatus := false }

/-- An attempt of `iI2C_Send` or `iI2C_Recv` with the mutex taken, where `transfer` is what
`XIicPs_MasterSendPolled` or `XIicPs_MasterRecvPolled` answers. -/
def polled (transfer : Bool) (a : Attempt) (s : Loop) : Loop :=
  let s := { s with iI2cStatus := false, iWaitBusIdleStatus := iWaitForBusIdle a.wait }
  if s.iWaitBusIdleStatus then
    if transfer then
      { s with iI2cStatus := true, iStatus := true, transfers := s.transfers ++ [true] }
    else fail_transfer a s
  else iI2C_ReInit a s

/-- An attempt of `iI2C_SendRecv` with the mutex taken. A transfer is begun when the data are sent,
and completed when an answer was received and the bus is idle again. -/
def send_recv (a : Attempt) (s : Loop) : Loop :=
  let s := { s with iI2cStatus := a.set_options }
  if s.iI2cStatus then
    let s := { s with iWaitBusIdleStatus := iWaitForBusIdle a.wait }
    if s.iWaitBusIdleStatus then
      if a.send then
        if a.clear_options then
          if a.recv then
            let s := { s with iI2cStatus := true, iWaitBusIdleStatus := iWaitForBusIdle a.wait_after }
            if s.iWaitBusIdleStatus then
              { s with iStatus := true, transfers := s.transfers ++ [true] }
            else iI2C_ReInit a { s with transfers := s.transfers ++ [false] }
          else fail_transfer a s
        else { s with iI2cStatus := false, transfers := s.transfers ++ [false] }
      else fail_transfer a s
    else iI2C_ReInit a s
  else s

def attempt (f : Fn) (a : Attempt) (s : Loop) : Loop :=
  let s := { s with attempts := s.attempts + 1 }
  if a.mutex_take then
    let s := { s with held := true }
    release a
      (match f with
      | .send => polled a.send a s
      | .recv => polled a.recv a s
      | .send_recv => send_recv a s)
  else s

/-- The three statuses do not all stand at success. -/
def Loop.active (s : Loop) : Bool := !(s.iI2cStatus && s.iWaitBusIdleStatus && s.iReInitStatus)

/-- The loop, with `ucTryCount` attempts made, for at most `rounds` rounds. `iI2C_Recv` counts the
rounds in which the bus is enabled, the other two count every round. -/
def retry (f : Fn) (ucReTryCount : ℕ) (a : ℕ → Attempt) : ℕ → ℕ → Loop → Option Loop
  | 0, _, _ => none
  | rounds + 1, ucTryCount, s =>
    if s.active && decide (ucTryCount < ucReTryCount) then
      if s.iI2cEnabled then
        retry f ucReTryCount a rounds (ucTryCount + 1) (attempt f (a ucTryCount) s)
      else
        retry f ucReTryCount a rounds (if f = .recv then ucTryCount else ucTryCount + 1) s
    else some s

/-- The variables at the start of a call. -/
def enter (iI2cEnabled : Bool) : Loop where
  iStatus := false
  iI2cStatus := false
  iWaitBusIdleStatus := false
  iReInitStatus := true
  iI2cEnabled := iI2cEnabled
  held := false
  attempts := 0
  transfers := []

/-- A call: the function, and the answers to its attempts. -/
structure Call where
  fn : Fn
  answers : ℕ → Attempt

/-- A call on a bus that is enabled or not, with the mutex free, for at most `rounds` rounds. -/
def call (ucReTryCount : ℕ) (c : Call) (iI2cEnabled : Bool) (rounds : ℕ) : Option Loop :=
  retry c.fn ucReTryCount c.answers rounds 0 (enter iI2cEnabled)

end Amr.I2c
