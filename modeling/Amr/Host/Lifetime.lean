/-
# The lifetime of a device of the host driver

`ami_top.c` and `ami_cdev.c`: the structure `pf_dev` of one device after its probe. Files, the
attributes of the device and those of its hwmon device get a reference and put it back, the
heartbeat thread delivers events, and `pcie_device_remove` disables the device, puts its own
reference, waits for the last one and frees the structure. The steps are those that the contexts can
be interrupted between: a look-up under `pf_dev_lock` fetches the pointer first and looks at the
structure next, and a last put drops the count first and signals the remover next.

A file is opened through the `cdev` in the structure, and a callback of the hwmon device fetches the
pointer that it was registered with; neither learns that the structure is gone. An attribute of the
device itself is removed only after its callbacks have returned.
-/
import Amr.Lib.Census
import Amr.Lib.Transition

namespace Amr.Host

open Transition

inductive Access
  | file
  | sysfs
  | hwmon
  deriving DecidableEq, Repr

inductive Stage
  /-- The kernel has entered the callback. -/
  | entered
  /-- It has `pf_dev_lock` and the pointer. -/
  | looking
  /-- It has a reference. -/
  | holding
  /-- Its put was the last one and is to signal the remover. -/
  | releasing
  deriving DecidableEq, Repr

/-- A slot for callbacks: none, or one under way. -/
abbrev User := Option (Access × Stage)

/-- How far `pcie_device_remove` has come; each name says what was done last. -/
inductive Remover
  | before
  | fetched
  | disabled
  | putLast
  | dropped
  | killed
  | waited
  | shutdown
  | cdevDeleted
  | sysfsRemoved
  | drvdataCleared
  | freed
  deriving DecidableEq, Repr

namespace Remover

/-- The reference of the probe is still to be put. -/
def owns : Remover → Bool
  | .before | .fetched | .disabled => true
  | _ => false

/-- The flag `enabled` was cleared. -/
def cleared : Remover → Bool
  | .before | .fetched => false
  | _ => true

def past : Remover → Bool
  | .before | .fetched | .disabled | .putLast | .dropped | .killed => false
  | _ => true

end Remover

inductive Heartbeat
  | off
  | waiting
  /-- `amc_event_cb` has fetched the pointer. -/
  | event
  deriving DecidableEq, Repr

/-- A device and the contexts that use it. -/
structure Lifetime (ι : Type) where
  enabled : Bool
  refcount : ℕ
  remove_sema : ℕ
  pf_dev_lock : Option ι
  users : ι → User
  remover : Remover
  heartbeat : Heartbeat
  /-- The character device can be opened, the attributes can be read, and the data of the PCI device
  points to the structure. -/
  cdev : Bool
  sysfs : Bool
  drvdata : Bool
  /-- The wait for the last reference was interrupted by a signal. -/
  interrupted : Bool
  /-- How often the structure was freed. -/
  frees : ℕ
  /-- The structure was used after it was freed. -/
  stray : Bool
  /-- A reference was obtained after the removal had cleared `enabled`. -/
  late : Bool

inductive Action (ι : Type)
  /-- The kernel enters a callback. -/
  | enter (u : ι) (k : Access)
  /-- `get_pf_dev_entry` takes the lock and fetches the pointer. -/
  | lookup (u : ι)
  /-- `get_pf_dev_entry` looks at the structure and returns the lock. -/
  | check (u : ι)
  /-- A callback uses the structure through its reference. -/
  | use (u : ι)
  /-- `put_pf_dev_entry` drops the count. -/
  | put (u : ι)
  /-- `release_pf_dev_entry`. -/
  | release (u : ι)
  /-- `amc_event_cb` is entered, and it returns. -/
  | event
  | eventDone
  /-- The next step of `pcie_device_remove`. -/
  | remove
  /-- A signal ends the wait of `pcie_device_remove`. -/
  | interrupt

namespace Lifetime

variable {ι : Type} [DecidableEq ι]

/-- A device after its probe, with or without a heartbeat thread. -/
def start (heartbeat : Bool) : Lifetime ι where
  enabled := true
  refcount := 1
  remove_sema := 0
  pf_dev_lock := none
  users _ := none
  remover := .before
  heartbeat := if heartbeat then .waiting else .off
  cdev := true
  sysfs := true
  drvdata := true
  interrupted := false
  frees := 0
  stray := false
  late := false

def touch (s : Lifetime ι) : Lifetime ι := { s with stray := s.stray || decide (s.frees ≠ 0) }

def setUser (s : Lifetime ι) (u : ι) (x : User) : Lifetime ι :=
  { s with users := Function.update s.users u x }

@[simp] theorem setUser_self (s : Lifetime ι) (u : ι) (x : User) :
    (s.setUser u x).users u = x := Function.update_self ..

theorem setUser_ne (s : Lifetime ι) {u v : ι} (x : User) (h : v ≠ u) :
    (s.setUser u x).users v = s.users v := Function.update_of_ne h ..

def lock (s : Lifetime ι) (x : Option ι) : Lifetime ι := { s with pf_dev_lock := x }

/-- A callback of this kind can be entered. -/
def enterable (s : Lifetime ι) : Access → Bool
  | .file => s.cdev
  | .sysfs => s.sysfs
  | .hwmon => true

/-- The pointer that a callback of this kind fetches is not `NULL`. -/
def pointer (s : Lifetime ι) : Access → Bool
  | .sysfs => s.drvdata
  | .file | .hwmon => true

/-- `kref_put` of a callback, up to the drop of the count. -/
def putUser (s : Lifetime ι) (u : ι) (k : Access) : Lifetime ι :=
  ({ s.touch with refcount := s.refcount - 1 }).setUser u
    (if s.refcount - 1 = 0 then some (k, .releasing) else none)

/-- `get_pf_dev_entry` under the lock: the reference is obtained or `NULL` returned. -/
def checkUser (s : Lifetime ι) (u : ι) (k : Access) : Lifetime ι :=
  if s.enabled = true ∧ s.refcount ≠ 0 then
    (({ s.touch with
      refcount := s.refcount + 1
      late := s.late || s.remover.cleared }).setUser u (some (k, .holding))).lock none
  else (s.touch.setUser u none).lock none

/-- No callback of an attribute of the device is under way. -/
def Drained (s : Lifetime ι) : Prop := ∀ u, (s.users u).map Prod.fst ≠ some .sysfs

instance [Fintype ι] (s : Lifetime ι) : Decidable s.Drained := by unfold Drained; infer_instance

/-- The next step of `pcie_device_remove` with `delete_pf_dev_data`. -/
def remove [Fintype ι] (s : Lifetime ι) : Option (Lifetime ι) :=
  match s.remover with
  | .before => if s.drvdata then some { s with remover := .fetched } else none
  | .fetched =>
    if s.pf_dev_lock = none then some { s.touch with enabled := false, remover := .disabled }
    else none
  | .disabled =>
    some { s.touch with
      refcount := s.refcount - 1
      remover := if s.refcount - 1 = 0 then .putLast else .dropped }
  | .putLast => some { s.touch with remove_sema := s.remove_sema + 1, remover := .dropped }
  | .dropped => some { s.touch with remover := .killed }
  | .killed =>
    if s.remove_sema = 0 then none
    else some { s.touch with remove_sema := s.remove_sema - 1, remover := .waited }
  -- `kthread_stop` waits for the thread
  | .waited =>
    if s.heartbeat = .event then none
    else some { s.touch with heartbeat := .off, remover := .shutdown }
  | .shutdown => some { s.touch with cdev := false, remover := .cdevDeleted }
  -- the removal of an attribute waits for its callbacks
  | .cdevDeleted =>
    if s.Drained then some { s.touch with sysfs := false, remover := .sysfsRemoved } else none
  | .sysfsRemoved => some { s.touch with drvdata := false, remover := .drvdataCleared }
  | .drvdataCleared => some { s.touch with frees := s.frees + 1, remover := .freed }
  | .freed => none

end Lifetime

open Lifetime

variable {ι : Type} [DecidableEq ι] [Fintype ι]

def step (s : Lifetime ι) : Action ι → Option (Lifetime ι)
  | .enter u k =>
    if s.users u = none ∧ s.enterable k = true then some (s.setUser u (some (k, .entered)))
    else none
  | .lookup u =>
    match s.users u with
    | some (k, .entered) =>
      if s.pf_dev_lock = none then
        if s.pointer k then some ((s.setUser u (some (k, .looking))).lock (some u))
        else some (s.setUser u none)
      else none
    | _ => none
  | .check u =>
    match s.users u with
    | some (k, .looking) => some (s.checkUser u k)
    | _ => none
  | .use u =>
    match s.users u with
    | some (_, .holding) => some s.touch
    | _ => none
  | .put u =>
    match s.users u with
    | some (k, .holding) => some (s.putUser u k)
    | _ => none
  | .release u =>
    match s.users u with
    | some (_, .releasing) =>
      some ({ s.touch with remove_sema := s.remove_sema + 1 }.setUser u none)
    | _ => none
  | .event =>
    match s.heartbeat with
    | .waiting => if s.drvdata then some { s with heartbeat := .event } else some s
    | _ => none
  | .eventDone =>
    match s.heartbeat with
    | .event => some { s.touch with heartbeat := .waiting }
    | _ => none
  | .remove => s.remove
  | .interrupt =>
    if s.remover = .killed ∧ s.remove_sema = 0 then
      some { s.touch with interrupted := true, remover := .waited }
    else none

/-! ### What the references are for -/

/-- The structure is freed once, when every reference has been put back; nothing uses it afterwards,
and no reference is obtained after the removal has cleared `enabled`. -/
structure Safe (s : Lifetime ι) : Prop where
  /-- It is freed at most once, and exactly once when the removal is through. -/
  once : s.frees = if s.remover = .freed then 1 else 0
  /-- No callback has a reference to a structure that was freed. -/
  putBack : s.frees ≠ 0 → ∀ u k, s.users u ≠ some (k, .holding)
  unused : s.stray = false
  refused : s.late = false

/-- The steps after which this holds: the structure is freed when no callback is between the fetch of
its pointer and the look at the structure, and, if the wait was interrupted, when no callback has a
reference or is to signal; and the pointer to a freed structure is not fetched. -/
def Ok (s : Lifetime ι) : Action ι → Prop
  | .lookup u => s.remover = .freed → (s.users u).map Prod.fst = some .sysfs
  | .remove => s.remover = .drvdataCleared →
    ∀ u, ∀ x ∈ s.users u, x.2 ≠ .looking ∧
      (s.interrupted = true → x.2 ≠ .holding ∧ x.2 ≠ .releasing)
  | _ => True

instance (s : Lifetime ι) (a : Action ι) : Decidable (Ok s a) := by
  cases a <;> unfold Ok <;> infer_instance

end Amr.Host
