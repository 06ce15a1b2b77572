/-
# The dump of the AMC log

`dump_amc_log` of `ami_amc_control.c` with the start of `logging_thread`: the thread reads the index
in shared memory and walks from the record that it printed last to that index, through the
`AMC_LOG_MAX_RECS` records of the ring. The index and the records are the device's, which may
rewrite the records while they are read.

The index is compared with `AMC_LOG_MAX_RECS` first, so that bad data does not keep the thread in
the loop. The comparison admits `AMC_LOG_MAX_RECS` itself, and a walk modulo `AMC_LOG_MAX_RECS`
never comes to it: a dump is right iff it does not read that value.
-/
import Amr.Log.Pll

namespace Amr.Log

open Transition

/-- `sizeof(struct amc_msg_payload)`. -/
def AMC_LOG_ENTRY_SIZE : ℕ := 96

/-- The fields of `amc_control_ctxt` that the dump uses. -/
structure Ctxt where
  /-- `amc_shared_mem.log_msg.log_msg_buf_off`. -/
  log_msg_buf_off : BitVec 32
  last_printed_msg_index : ℕ

/-- What a dump finds in shared memory: the index, and the byte at an offset from
`gcq_payload_base_virt_addr` at the time of the `round`-th copy. -/
structure Shared where
  log_msg_index : BitVec 32
  byte : (round offset : ℕ) → UInt8

/-- A record that the loop of a dump copies, with its number in the ring. -/
structure Record where
  i : ℕ
  buff : List UInt8
  deriving DecidableEq

/-- The offset from which the `i`-th record is copied. -/
def log_msg_addr (ctxt : Ctxt) (i : ℕ) : ℕ :=
  ctxt.log_msg_buf_off.toNat + i * AMC_LOG_ENTRY_SIZE

/-- The `i`-th record, as it is copied in a round. -/
def memcpy_fromio (ctxt : Ctxt) (shm : Shared) (round i : ℕ) : Record where
  i := i
  buff := (List.range AMC_LOG_ENTRY_SIZE).map fun b => shm.byte round (log_msg_addr ctxt i + b)

/-- The text of a record, up to its terminator. -/
def Record.text (r : Record) : List UInt8 := r.buff.takeWhile (· ≠ 0)

/-- `strnchr(msg.buff, sizeof(struct amc_msg_payload), '\0') && strlen(msg.buff)`. -/
def Record.printable (r : Record) : Bool := decide ((0 : UInt8) ∈ r.buff) && decide (r.text ≠ [])

/-- The records that the loop copies on its way from `i` to the index, if it gets there in so many
rounds. -/
def walk (ctxt : Ctxt) (shm : Shared) : (fuel round i : ℕ) → Option (List Record)
  | 0, _, i => if i = shm.log_msg_index.toNat then some [] else none
  | fuel + 1, round, i =>
    if i = shm.log_msg_index.toNat then some []
    else (walk ctxt shm fuel (round + 1) ((i + 1) % AMC_LOG_MAX_RECS)).map
      (memcpy_fromio ctxt shm round i :: ·)

structure Dumped where
  ctxt : Ctxt
  read : List Record
  printed : List (List UInt8)

/-- A dump, if its loop ends in so many rounds. -/
def Ctxt.dump_amc_log (ctxt : Ctxt) (shm : Shared) (fuel : ℕ) : Option Dumped :=
  if AMC_LOG_MAX_RECS < shm.log_msg_index.toNat then
    -- "Logging thread error - invalid PCI data read!"
    some ⟨ctxt, [], []⟩
  else
    (walk ctxt shm fuel 0 ctxt.last_printed_msg_index).map fun read =>
      { ctxt := { ctxt with last_printed_msg_index := shm.log_msg_index.toNat }
        read := read
        printed := (read.filter Record.printable).map Record.text }

/-- The start of `logging_thread`. -/
def logging_thread (log_msg_buf_off : BitVec 32) : Ctxt := ⟨log_msg_buf_off, 0⟩

/-- The thread dumps the log again. It takes no step when the dump does not return. -/
def dumpStep (ctxt : Ctxt) (dump : Shared × ℕ) : Option Ctxt :=
  (ctxt.dump_amc_log dump.1 dump.2).map Dumped.ctxt

/-- How many records there are from the one printed last to the index, in ring order. -/
def pending (ctxt : Ctxt) (shm : Shared) : ℕ :=
  if AMC_LOG_MAX_RECS < shm.log_msg_index.toNat then 0
  else (shm.log_msg_index.toNat + (AMC_LOG_MAX_RECS - ctxt.last_printed_msg_index)) %
    AMC_LOG_MAX_RECS

/-- A dump returns, and did what it is for. -/
structure DumpRight (ctxt : Ctxt) (shm : Shared) (d : Dumped) : Prop where
  /-- The records that are pending are read in ring order. -/
  order : d.read.map Record.i =
    (List.range (pending ctxt shm)).map fun j =>
      (ctxt.last_printed_msg_index + j) % AMC_LOG_MAX_RECS
  /-- None is read twice. -/
  once : (d.read.map Record.i).Nodup
  /-- Each is one of the records of the ring, and is printed as it is at its copy. -/
  within : ∀ r ∈ d.read, r.i < AMC_LOG_MAX_RECS ∧
    ∃ round, r = memcpy_fromio ctxt shm round r.i
  /-- Of these, those with a text are printed. -/
  printed : d.printed = (d.read.filter Record.printable).map Record.text
  /-- The next dump goes on from the index, if it is one of the ring's. -/
  next : d.ctxt.last_printed_msg_index =
    if AMC_LOG_MAX_RECS < shm.log_msg_index.toNat then ctxt.last_printed_msg_index
    else shm.log_msg_index.toNat

/-! ### The walk -/

/-- **The walk of the loop is that of a reader of a ring**, who copies a record in each round. -/
theorem walk_eq_read (ctxt : Ctxt) (shm : Shared) : ∀ fuel round i,
    walk ctxt shm fuel round i =
      (RingLog.read id AMC_LOG_MAX_RECS fuel i shm.log_msg_index.toNat).map fun slots =>
        (slots.zipIdx round).map fun slot => memcpy_fromio ctxt shm slot.2 slot.1 := by
  intro fuel
  induction fuel with
  | zero =>
    intro round i
    unfold walk RingLog.read
    split <;> rfl
  | succ fuel ih =>
    intro round i
    unfold walk RingLog.read
    split
    · rfl
    · rw [ih, Option.map_map, Option.map_map]
      rfl

variable {ctxt : Ctxt}

theorem walk_of_le {shm : Shared}
    (hindex : AMC_LOG_MAX_RECS ≤ shm.log_msg_index.toNat) :
    ∀ fuel round i, i < AMC_LOG_MAX_RECS → walk ctxt shm fuel round i = none := by
  intro fuel
  induction fuel with
  | zero =>
    intro round i hi
    have hne : i ≠ shm.log_msg_index.toNat := by omega
    rw [walk, if_neg hne]
  | succ fuel ih =>
    intro round i hi
    have hne : i ≠ shm.log_msg_index.toNat := by omega
    have hnext : (i + 1) % AMC_LOG_MAX_RECS < AMC_LOG_MAX_RECS := Nat.mod_lt _ (by decide)
    rw [walk, if_neg hne, ih (round + 1) _ hnext, Option.map_none]

theorem walk_of_lt {shm : Shared}
    (hlast : ctxt.last_printed_msg_index < AMC_LOG_MAX_RECS)
    (hindex : shm.log_msg_index.toNat < AMC_LOG_MAX_RECS) :
    ∃ read, walk ctxt shm AMC_LOG_MAX_RECS 0 ctxt.last_printed_msg_index = some read ∧
      read = (((List.range (pending ctxt shm)).map fun j =>
        (ctxt.last_printed_msg_index + j) % AMC_LOG_MAX_RECS).zipIdx 0).map fun slot =>
          memcpy_fromio ctxt shm slot.2 slot.1 := by
  have hpending : pending ctxt shm < AMC_LOG_MAX_RECS := by
    unfold pending
    split
    · decide
    · exact Nat.mod_lt _ (by decide)
  have hstop : (ctxt.last_printed_msg_index + pending ctxt shm) % AMC_LOG_MAX_RECS =
      shm.log_msg_index.toNat := by
    unfold pending
    rw [if_neg (by omega), Nat.add_mod_mod]
    have hround : ctxt.last_printed_msg_index +
        (shm.log_msg_index.toNat + (AMC_LOG_MAX_RECS - ctxt.last_printed_msg_index)) =
        shm.log_msg_index.toNat + AMC_LOG_MAX_RECS := by omega
    rw [hround, Nat.add_mod_right, Nat.mod_eq_of_lt hindex]
  refine ⟨_, ?_, rfl⟩
  rw [walk_eq_read, ← hstop,
    RingLog.read_eq id _ _ _ hpending hpending.le hlast, Option.map_some]
  rfl

theorem round_nodup (i : ℕ) {k : ℕ} (hk : k ≤ AMC_LOG_MAX_RECS) :
    ((List.range k).map fun j => (i + j) % AMC_LOG_MAX_RECS).Nodup := by
  refine List.Nodup.map_on (fun a ha b hb heq => ?_) List.nodup_range
  rw [List.mem_range] at ha hb
  have hab : a % AMC_LOG_MAX_RECS = b % AMC_LOG_MAX_RECS := Nat.ModEq.add_left_cancel' i heq
  rwa [Nat.mod_eq_of_lt (by omega), Nat.mod_eq_of_lt (by omega)] at hab

/-! ### A dump -/

theorem dump_right_of_ne (hlast : ctxt.last_printed_msg_index < AMC_LOG_MAX_RECS)
    {shm : Shared} (hindex : shm.log_msg_index.toNat ≠ AMC_LOG_MAX_RECS) :
    ∃ fuel d, ctxt.dump_amc_log shm fuel = some d ∧ DumpRight ctxt shm d := by
  by_cases hbad : AMC_LOG_MAX_RECS < shm.log_msg_index.toNat
  · refine ⟨0, ⟨ctxt, [], []⟩, by rw [Ctxt.dump_amc_log, if_pos hbad], ?_⟩
    have hnone : pending ctxt shm = 0 := by rw [pending, if_pos hbad]
    exact
      { order := by rw [hnone]; rfl
        once := List.nodup_nil
        within := fun r hr => absurd hr List.not_mem_nil
        printed := rfl
        next := by rw [if_pos hbad] }
  · have hlt : shm.log_msg_index.toNat < AMC_LOG_MAX_RECS := by omega
    obtain ⟨read, hwalk, hread⟩ := walk_of_lt hlast hlt
    have horder : read.map Record.i = (List.range (pending ctxt shm)).map fun j =>
        (ctxt.last_printed_msg_index + j) % AMC_LOG_MAX_RECS := by
      rw [hread, List.map_map]
      exact List.zipIdx_map_fst 0 _
    have hpending : pending ctxt shm ≤ AMC_LOG_MAX_RECS := by
      rw [pending, if_neg hbad]
      exact (Nat.mod_lt _ (by decide)).le
    refine ⟨AMC_LOG_MAX_RECS, _, by rw [Ctxt.dump_amc_log, if_neg hbad, hwalk, Option.map_some], ?_⟩
    refine
      { order := horder
        once := by rw [horder]; exact round_nodup _ hpending
        within := fun r hr => ⟨?_, ?_⟩
        printed := rfl
        next := by rw [if_neg hbad] }
    · have hmem : r.i ∈ read.map Record.i := List.mem_map_of_mem hr
      rw [horder] at hmem
      obtain ⟨j, _, hj⟩ := List.mem_map.mp hmem
      rw [← hj]
      exact Nat.mod_lt _ (by decide)
    · have hr : r ∈ read := hr
      rw [hread] at hr
      obtain ⟨slot, _, rfl⟩ := List.mem_map.mp hr
      exact ⟨slot.2, rfl⟩

theorem dump_endless (hlast : ctxt.last_printed_msg_index < AMC_LOG_MAX_RECS)
    {shm : Shared} (hindex : shm.log_msg_index.toNat = AMC_LOG_MAX_RECS) (fuel : ℕ) :
    ctxt.dump_amc_log shm fuel = none := by
  rw [Ctxt.dump_amc_log, if_neg (by omega), walk_of_le hindex.ge _ _ _ hlast, Option.map_none]

theorem last_printed_lt {log_msg_buf_off : BitVec 32} {ctxt : Ctxt}
    (h : Reaches dumpStep always (logging_thread log_msg_buf_off) ctxt) :
    ctxt.last_printed_msg_index < AMC_LOG_MAX_RECS := by
  refine Reaches.invariant (fun ctxt => ctxt.last_printed_msg_index < AMC_LOG_MAX_RECS)
    (by decide : 0 < AMC_LOG_MAX_RECS) ?_ h
  rintro ctxt ⟨shm, fuel⟩ ctxt' hlast _ hstep
  obtain ⟨d, hd, rfl⟩ := Option.map_eq_some_iff.mp hstep
  by_cases hindex : shm.log_msg_index.toNat = AMC_LOG_MAX_RECS
  · rw [dump_endless hlast hindex fuel] at hd
    cases hd
  · simp only [Ctxt.dump_amc_log] at hd
    split at hd
    · cases hd
      exact hlast
    · obtain ⟨read, _, rfl⟩ := Option.map_eq_some_iff.mp hd
      simp only
      omega

/-- **A dump returns and prints the pending records, each once and in ring order, iff the index that
it reads is not `AMC_LOG_MAX_RECS`**: after every run of dumps, and for every contents of the shared
memory, also one that changes while it is read. -/
theorem dump_amc_log_right_iff {log_msg_buf_off : BitVec 32} {ctxt : Ctxt}
    (h : Reaches dumpStep always (logging_thread log_msg_buf_off) ctxt) (shm : Shared) :
    (∃ fuel d, ctxt.dump_amc_log shm fuel = some d ∧ DumpRight ctxt shm d) ↔
      shm.log_msg_index.toNat ≠ AMC_LOG_MAX_RECS := by
  have hlast := last_printed_lt h
  constructor
  · rintro ⟨fuel, d, hd, _⟩ hindex
    rw [dump_endless hlast hindex fuel] at hd
    cases hd
  · exact dump_right_of_ne hlast

/-- The index 2, and records that all say "a". -/
def twoRecords : Shared := ⟨2, fun _ offset => if offset % AMC_LOG_ENTRY_SIZE = 0 then 97 else 0⟩

theorem dump_amc_log_right_two : ∃ fuel d,
    (logging_thread 0).dump_amc_log twoRecords fuel = some d ∧
      DumpRight (logging_thread 0) twoRecords d :=
  (dump_amc_log_right_iff .start twoRecords).mpr (by decide)

/-- The index 50 passes the check, and the first dump of the thread does not return. -/
theorem dump_amc_log_of_fifty :
    ¬ ∃ fuel d, (logging_thread 0).dump_amc_log ⟨50, fun _ _ => 0⟩ fuel = some d := by
  rintro ⟨fuel, d, hd⟩
  rw [dump_endless (by decide) (by decide) fuel] at hd
  cases hd

end Amr.Log
