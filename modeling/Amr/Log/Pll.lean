/-
# The logs of the AMC and their reader on the host

`pll.c`: `iLogCollect`, which keeps messages locally until logging is ready and then puts them into
a ring in shared memory, and `iPLL_SendBootRecords`, which makes it ready at each identity request.
`ami_amc_control.c`: the logging thread of the host with `dump_amc_log`, which prints the entries
between the index that it has seen last and the one in shared memory.
-/
import Amr.Lib.RingLog
import Amr.Lib.Transition

namespace Amr.Log

open Transition

def PLL_LOG_ENTRY_SIZE : ℕ := 96
def PLL_LOG_MAX_RECS : ℕ := 50
def AMC_LOG_MAX_RECS : ℕ := 50

/-- The bytes of a string before its terminator, or all bytes of an entry without one. -/
abbrev Entry := List UInt8

def newline (c : UInt8) : Bool := decide (c = 13) || decide (c = 10)

/-- The copy of a message into an entry, cut off at the end of its line. -/
def trim (pcBuf : List UInt8) : Entry :=
  (pcBuf.take PLL_LOG_ENTRY_SIZE).takeWhile fun c => !newline c

/-- The host prints the entry: it has a terminator, and is not empty. -/
def shown (e : Entry) : Bool := decide (e.length < PLL_LOG_ENTRY_SIZE) && decide (e ≠ [])

/-- Where `iPLL_SendBootRecords` is. -/
structure Sending where
  /-- The records of the first stage boot loader that are still to be logged. -/
  fsbl : List (List UInt8)
  /-- The loop variable over the local records. -/
  i : ℕ
  /-- The local records that have been placed in shared memory. -/
  placed : List Entry
  /-- No other message has come since the first of them. -/
  undisturbed : Bool

/-- A message of another task, or a restart of the host, comes while local records are placed. -/
def Sending.disturb (x : Sending) : Sending :=
  { x with undisturbed := x.undisturbed && x.placed.isEmpty }

/-- The local records that a call of `iPLL_SendBootRecords` was to place, those that it has placed,
and the last entries of the ring at its end. -/
structure SendReport where
  survivors : List Entry
  placed : List Entry
  ring : List Entry
  undisturbed : Bool

/-- The messages that were added since the poll before, and those that the host prints. -/
structure PollReport where
  added : List Entry
  printed : Option (List Entry)

structure Logs where
  pcBootLogs : ℕ → Entry
  iBootLogIndex : ℕ
  iIsLogReady : Bool
  /-- The ring in shared memory, with the index of the next entry. -/
  xLogMsg : RingLog PLL_LOG_MAX_RECS Entry
  last_printed_msg_index : ℕ
  sending : Option Sending
  /-- The messages collected before logging was ready. -/
  booted : List Entry
  /-- The messages added to the ring since the last poll. -/
  unread : List Entry
  sends : List SendReport
  polls : List PollReport

inductive Action
  /-- A message is collected. -/
  | collect (pcBuf : List UInt8)
  /-- `iPLL_SendBootRecords` is called, and finds records of the first stage boot loader. -/
  | identity (fsbl : List (List UInt8))
  /-- It goes on by one record. -/
  | send
  /-- The host calls `dump_amc_log`. -/
  | poll
  /-- The logging thread of the host starts, and flushes stale logs. -/
  | attach

namespace Logs

def start (slot : ℕ → Entry) : Logs where
  pcBootLogs _ := []
  iBootLogIndex := 0
  iIsLogReady := false
  xLogMsg := ⟨slot, 0⟩
  last_printed_msg_index := 0
  sending := none
  booted := []
  unread := []
  sends := []
  polls := []

/-- `iLogCollect` when logging is ready. -/
def share (s : Logs) (pcBuf : List UInt8) : Logs :=
  { s with
    xLogMsg := s.xLogMsg.add (trim pcBuf)
    unread := s.unread ++ [trim pcBuf] }

/-- `iLogCollect` when logging is not ready. -/
def keep (s : Logs) (pcBuf : List UInt8) : Logs :=
  { s with
    iBootLogIndex := (s.iBootLogIndex + 1) % PLL_LOG_MAX_RECS
    pcBootLogs :=
      Function.update s.pcBootLogs ((s.iBootLogIndex + 1) % PLL_LOG_MAX_RECS) (trim pcBuf)
    booted := s.booted ++ [trim pcBuf] }

def iLogCollect (s : Logs) (pcBuf : List UInt8) : Logs :=
  if s.iIsLogReady then s.share pcBuf else s.keep pcBuf

def disturb (s : Logs) : Logs := { s with sending := s.sending.map Sending.disturb }

/-- The start of `iPLL_SendBootRecords`. -/
def restart (s : Logs) (fsbl : List (List UInt8)) : Logs :=
  { s with
    xLogMsg := ⟨s.xLogMsg.slot, 0⟩
    iIsLogReady := true
    sending := some ⟨fsbl, 0, [], true⟩ }

/-- The last of the messages collected before logging was ready. -/
def survivors (s : Logs) : List Entry := s.booted.drop (s.booted.length - PLL_LOG_MAX_RECS)

/-- `iPLL_SendBootRecords` returns. -/
def finish (s : Logs) (x : Sending) : Logs :=
  { s with
    sending := none
    sends := s.sends ++
      [⟨s.survivors, x.placed, s.xLogMsg.last x.placed.length, x.undisturbed⟩] }

/-- The next record of `iPLL_SendBootRecords`. -/
def sendNext (s : Logs) (x : Sending) : Logs :=
  match x.fsbl with
  | line :: rest => { s.iLogCollect line with sending := some { x with fsbl := rest } }
  | [] =>
    if x.i < PLL_LOG_MAX_RECS then
      if s.pcBootLogs x.i ≠ [] then
        { s.iLogCollect (s.pcBootLogs x.i) with
          sending := some { x with i := x.i + 1, placed := x.placed ++ [trim (s.pcBootLogs x.i)] } }
      else { s with sending := some { x with i := x.i + 1 } }
    else s.finish x

/-- The entries that the loop of `dump_amc_log` comes to. -/
def dumped (s : Logs) : Option (List Entry) :=
  RingLog.read s.xLogMsg.slot AMC_LOG_MAX_RECS AMC_LOG_MAX_RECS s.last_printed_msg_index
    s.xLogMsg.next

def dump_amc_log (s : Logs) : Logs :=
  if AMC_LOG_MAX_RECS < s.xLogMsg.next then
    { s with polls := s.polls ++ [⟨s.unread, some []⟩], unread := [] }
  else
    { s with
      last_printed_msg_index := s.xLogMsg.next
      polls := s.polls ++ [⟨s.unread, s.dumped.map (·.filter shown)⟩]
      unread := [] }

/-- The start of `logging_thread`. -/
def attach (s : Logs) : Logs :=
  { s with
    last_printed_msg_index := 0
    xLogMsg := ⟨fun _ => [], 0⟩
    unread := [] }

end Logs

def step (s : Logs) : Action → Option Logs
  | .collect pcBuf => some (s.iLogCollect pcBuf).disturb
  | .identity fsbl => if s.sending.isNone then some (s.restart fsbl) else none
  | .send => s.sending.map s.sendNext
  | .poll => some s.dump_amc_log
  | .attach => some s.attach.disturb

/-! ### What is to be delivered -/

structure Delivered (s : Logs) : Prop where
  /-- A call of `iPLL_SendBootRecords` places the surviving messages in their order, and if no other
  message comes in between, they are the last entries of the ring. -/
  sends : ∀ r ∈ s.sends, r.placed = r.survivors ∧ (r.undisturbed = true → r.ring = r.survivors)
  /-- A poll before which fewer messages came than the ring has slots prints these messages. -/
  polls : ∀ r ∈ s.polls, r.added.length < PLL_LOG_MAX_RECS → r.printed = some r.added

/-- The local records are in the order of the slots: the ring has not wrapped, or its last slot was
written last. -/
def InOrder (s : Logs) : Prop :=
  s.booted.length < PLL_LOG_MAX_RECS ∨ s.booted.length % PLL_LOG_MAX_RECS = PLL_LOG_MAX_RECS - 1

/-- The steps after which the messages are delivered: each message fits into an entry with its
terminator and has a text, and a call of `iPLL_SendBootRecords` finds the index at 0 and the local
records in order. -/
def Ok (s : Logs) : Action → Prop
  | .collect pcBuf => shown (trim pcBuf) = true
  | .identity fsbl => s.xLogMsg.next = 0 ∧ InOrder s ∧ ∀ line ∈ fsbl, shown (trim line) = true
  | _ => True

instance (s : Logs) : Decidable (InOrder s) := by unfold InOrder; infer_instance

instance (s : Logs) (a : Action) : Decidable (Ok s a) := by
  cases a <;> unfold Ok <;> infer_instance

end Amr.Log
