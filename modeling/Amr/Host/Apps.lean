/-
# The applications that are registered with a device

`add_pf_dev_app`, `delete_pf_dev_app`, `kill_pf_dev_apps` and `delete_pf_dev_data` of `ami_top.c`,
and `ami_dev_find_next` and `ami_dev_delete` of `ami_device.c`, which register and deregister the
calling process with every handle. The driver keeps a list of the processes that are registered and
takes a reference to a pid with each call; the functions run under `app_lock`, one at a time.

The list holds each process once in every run. The references are balanced and the list is that of
the processes with a handle as long as no process has two handles at a time, no allocation fails and
no handle is deleted without the driver being reached.
-/
import Amr.Lib.Transition

namespace Amr.Host.Apps

open Transition

/-- A device, with what its processes have done. -/
structure Registry (P : Type) where
  /-- The list of registered processes. -/
  apps : List P
  /-- The references to each pid that the driver has taken and dropped. -/
  taken : P → ℕ
  dropped : P → ℕ
  /-- The data of the device was deleted. -/
  deleted : Bool
  /-- The handles that each process has obtained and not deleted, since the driver last signalled it
  and before that. -/
  fresh : P → ℕ
  stale : P → ℕ

inductive Action (P : Type)
  /-- `ami_dev_find_next`: whether the request for the registration reaches the driver, and whether
  the allocation succeeds. -/
  | find (p : P) (reached alloc : Bool)
  /-- `ami_dev_delete` of a handle that was obtained since the last signal or before it. -/
  | delete (p : P) (fresh reached : Bool)
  /-- `kill_pf_dev_apps`: to which processes the signal can be sent. -/
  | kill (sent : P → Bool)
  /-- `delete_pf_dev_data`. -/
  | remove

variable {P : Type} [DecidableEq P]

/-- A count with one more for `p`. -/
def bump (f : P → ℕ) (p : P) : P → ℕ := Function.update f p (f p + 1)

/-- A count with one less for `p`. -/
def drop (f : P → ℕ) (p : P) : P → ℕ := Function.update f p (f p - 1)

namespace Registry

def start : Registry P := ⟨[], fun _ => 0, fun _ => 0, false, fun _ => 0, fun _ => 0⟩

/-- `get_task_pid`. -/
def getPid (s : Registry P) (p : P) : Registry P := { s with taken := bump s.taken p }

def putPid (s : Registry P) (p : P) : Registry P := { s with dropped := bump s.dropped p }

/-- `add_pf_dev_app`, and whether it returns 0. -/
def add_pf_dev_app (s : Registry P) (p : P) (alloc : Bool) : Registry P × Bool :=
  if p ∈ s.apps then (s.getPid p, true)
  else if alloc then ({ s.getPid p with apps := p :: s.apps }, true)
  else (s.getPid p, false)

def delete_pf_dev_app (s : Registry P) (p : P) : Registry P :=
  if p ∈ s.apps then
    ({ (s.getPid p).putPid p with apps := s.apps.erase p }).putPid p
  else (s.getPid p).putPid p

/-- The processes that a signal was sent to are gone from the list, each with its reference. -/
def kill_pf_dev_apps (s : Registry P) (sent : P → Bool) : Registry P :=
  { s with
    apps := s.apps.filter fun p => !sent p
    dropped := fun p => s.dropped p + if sent p then s.apps.count p else 0 }

/-- The part of `delete_pf_dev_data` that empties the list. -/
def delete_pf_dev_data (s : Registry P) : Registry P :=
  { s with apps := [], dropped := fun p => s.dropped p + s.apps.count p, deleted := true }

def obtain (s : Registry P) (p : P) : Registry P := { s with fresh := bump s.fresh p }

def forget (s : Registry P) (p : P) (fresh : Bool) : Registry P :=
  if fresh then { s with fresh := drop s.fresh p } else { s with stale := drop s.stale p }

/-- The handles of a process that was signalled are no longer those since the last signal. -/
def signal (s : Registry P) (sent : P → Bool) : Registry P :=
  { s with
    fresh := fun p => if sent p = true ∧ p ∈ s.apps then 0 else s.fresh p
    stale := fun p => if sent p = true ∧ p ∈ s.apps then s.stale p + s.fresh p else s.stale p }

def handles (s : Registry P) (p : P) (fresh : Bool) : ℕ := if fresh then s.fresh p else s.stale p

end Registry

open Registry

/-- One step of a process or of the driver. -/
def step (s : Registry P) : Action P → Option (Registry P)
  | .find p reached alloc =>
    if s.deleted = true ∨ reached = false then some s
    else if (s.add_pf_dev_app p alloc).2 then some ((s.add_pf_dev_app p alloc).1.obtain p)
    else some (s.add_pf_dev_app p alloc).1
  | .delete p fresh reached =>
    if s.handles p fresh = 0 then none
    else if s.deleted = true ∨ reached = false then some (s.forget p fresh)
    else some ((s.delete_pf_dev_app p).forget p fresh)
  | .kill sent => if s.deleted then none else some ((s.signal sent).kill_pf_dev_apps sent)
  | .remove => if s.deleted then none else some s.delete_pf_dev_data

/-! ### What the list is for -/

/-- The list holds each process once, the references are those of the list, and the processes in the
list are those with a handle that they obtained since the driver last signalled them. -/
structure Right (s : Registry P) : Prop where
  once : s.apps.Nodup
  /-- Every reference that was taken has been dropped once when the list is empty. -/
  dropped : s.apps = [] → ∀ p, s.dropped p = s.taken p
  /-- No reference is dropped that was not taken. -/
  notBefore : ∀ p, s.dropped p ≤ s.taken p
  listed : s.deleted = false → ∀ p, p ∈ s.apps ↔ s.fresh p ≠ 0

/-- The steps after which this holds: a process registers that has no handle since the last signal,
and there is memory for it; and a handle is deleted that is the last one since the last signal, if
there is one, by a request that reaches the driver. -/
def Ok (s : Registry P) : Action P → Prop
  | .find p reached alloc =>
    s.deleted = false → reached = true → s.fresh p = 0 ∧ alloc = true
  | .delete p fresh reached =>
    s.deleted = false → if fresh then s.fresh p = 1 ∧ reached = true else
      reached = true → s.fresh p = 0
  | .kill _ => True
  | .remove => True

instance (s : Registry P) (a : Action P) : Decidable (Ok s a) := by
  cases a <;> unfold Ok <;> infer_instance

structure Inv (s : Registry P) : Prop where
  once : s.apps.Nodup
  /-- The references that are held are those of the list. -/
  held : ∀ p, s.taken p = s.dropped p + s.apps.count p
  listed : s.deleted = false → ∀ p, p ∈ s.apps ↔ s.fresh p ≠ 0
  empty : s.deleted = true → s.apps = []

variable {s : Registry P}

theorem Inv.right (hs : Inv s) : Right s where
  once := hs.once
  dropped hempty p := by
    have := hs.held p
    rw [hempty, List.count_nil] at this
    omega
  notBefore p := by
    have := hs.held p
    omega
  listed := hs.listed

theorem inv_start : Inv (start : Registry P) where
  once := List.nodup_nil
  held _ := rfl
  listed _ _ := ⟨fun h => absurd h List.not_mem_nil, fun h => absurd rfl h⟩
  empty _ := rfl

/-! ### The steps -/

variable (f : P → ℕ)

@[simp] theorem bump_self (p : P) : bump f p p = f p + 1 := Function.update_self ..

theorem bump_ne {p q : P} (h : q ≠ p) : bump f p q = f q := Function.update_of_ne h ..

@[simp] theorem drop_self (p : P) : drop f p p = f p - 1 := Function.update_self ..

theorem drop_ne {p q : P} (h : q ≠ p) : drop f p q = f q := Function.update_of_ne h ..

/-- **A process registers.** It is not in the list and there is memory for it. -/
theorem Inv.register (hs : Inv s) {p : P} (hdel : s.deleted = false)
    (hp : p ∉ s.apps) :
    Inv ({ s.getPid p with apps := p :: s.apps }.obtain p) where
  once := List.nodup_cons.mpr ⟨hp, hs.once⟩
  held q := by
    change bump s.taken p q = s.dropped q + (p :: s.apps).count q
    have := hs.held q
    rcases eq_or_ne q p with rfl | hq
    · rw [bump_self, List.count_cons_self]
      omega
    · rw [bump_ne _ hq, List.count_cons_of_ne hq.symm]
      exact this
  listed _ q := by
    change q ∈ p :: s.apps ↔ bump s.fresh p q ≠ 0
    rcases eq_or_ne q p with rfl | hq
    · simp
    · rw [bump_ne _ hq, List.mem_cons, or_iff_right hq]
      exact hs.listed hdel q
  empty h := absurd (h.symm.trans hdel) (by decide)

theorem Inv.deregister (hs : Inv s) (p : P) :
    (s.delete_pf_dev_app p).apps = s.apps.erase p ∧
      ∀ q, (s.delete_pf_dev_app p).taken q =
        (s.delete_pf_dev_app p).dropped q + (s.apps.erase p).count q := by
  unfold delete_pf_dev_app
  split_ifs with hp
  · refine ⟨rfl, fun q => ?_⟩
    change bump s.taken p q = bump (bump s.dropped p) p q + _
    have := hs.held q
    rcases eq_or_ne q p with rfl | hq
    · have := List.count_pos_iff.mpr hp
      rw [bump_self, bump_self, bump_self, List.count_erase_self]
      omega
    · rw [bump_ne _ hq, bump_ne _ hq, bump_ne _ hq, List.count_erase_of_ne hq]
      exact this
  · rw [List.erase_of_not_mem hp]
    refine ⟨rfl, fun q => ?_⟩
    change bump s.taken p q = bump s.dropped p q + _
    have := hs.held q
    rcases eq_or_ne q p with rfl | hq
    · rw [bump_self, bump_self]
      omega
    · rw [bump_ne _ hq, bump_ne _ hq]
      exact this

theorem delete_pf_dev_app_rest (s : Registry P) (p : P) :
    (s.delete_pf_dev_app p).deleted = s.deleted ∧ (s.delete_pf_dev_app p).fresh = s.fresh := by
  unfold delete_pf_dev_app
  split_ifs
  · exact ⟨rfl, rfl⟩
  · exact ⟨rfl, rfl⟩

/-- **A handle is deleted** that is the last one since the last signal, if there is one. -/
theorem Inv.unregister (hs : Inv s) {p : P} {fresh : Bool}
    (hdel : s.deleted = false) (hlast : s.fresh p = if fresh then 1 else 0) :
    Inv ((s.delete_pf_dev_app p).forget p fresh) := by
  obtain ⟨happs, hheld⟩ := hs.deregister p
  obtain ⟨hdeleted, hfresh⟩ := delete_pf_dev_app_rest s p
  have hlisted : ∀ q, q ∈ s.apps.erase p ↔ q ≠ p ∧ s.fresh q ≠ 0 := fun q => by
    rw [hs.once.mem_erase_iff]
    exact and_congr_right fun _ => hs.listed hdel q
  unfold forget
  split_ifs with hf
  · rw [if_pos hf] at hlast
    refine ⟨happs ▸ hs.once.erase p, fun q => happs ▸ hheld q, fun _ q => ?_, fun h => ?_⟩
    · change q ∈ (s.delete_pf_dev_app p).apps ↔ drop (s.delete_pf_dev_app p).fresh p q ≠ 0
      rw [happs, hlisted, hfresh]
      rcases eq_or_ne q p with rfl | hq
      · simp [hlast]
      · rw [drop_ne _ hq]
        exact and_iff_right hq
    · cases (hdeleted.trans hdel).symm.trans h
  · rw [if_neg hf] at hlast
    refine ⟨happs ▸ hs.once.erase p, fun q => happs ▸ hheld q, fun _ q => ?_, fun h => ?_⟩
    · change q ∈ (s.delete_pf_dev_app p).apps ↔ (s.delete_pf_dev_app p).fresh q ≠ 0
      rw [happs, hlisted, hfresh]
      rcases eq_or_ne q p with rfl | hq
      · simp [hlast]
      · exact and_iff_right hq
    · cases (hdeleted.trans hdel).symm.trans h

theorem Inv.forget (hs : Inv s) (p : P) {fresh : Bool}
    (h : s.deleted = false → fresh = false) : Inv (s.forget p fresh) := by
  unfold Registry.forget
  split_ifs with hf
  · have hdel : s.deleted = true := by
      by_contra hdel
      rw [h (by simpa using hdel)] at hf
      cases hf
    exact ⟨hs.once, hs.held, fun h => absurd (hdel.symm.trans h) (by decide), hs.empty⟩
  · exact ⟨hs.once, hs.held, hs.listed, hs.empty⟩

/-- **Signals are sent.** The processes that get one leave the list. -/
theorem Inv.kill (hs : Inv s) (sent : P → Bool) :
    Inv ((s.signal sent).kill_pf_dev_apps sent) where
  once := hs.once.filter _
  held p := by
    change s.taken p = s.dropped p + (if sent p then s.apps.count p else 0) +
      (s.apps.filter fun q => !sent q).count p
    have := hs.held p
    cases hp : sent p with
    | true =>
      have hzero : (s.apps.filter fun q => !sent q).count p = 0 := by
        rw [List.count_eq_zero, List.mem_filter]
        simp [hp]
      rw [if_pos rfl]
      omega
    | false =>
      rw [List.count_filter (by simp [hp])]
      simpa using this
  listed hdel p := by
    change p ∈ s.apps.filter (fun q => !sent q) ↔
      (if sent p = true ∧ p ∈ s.apps then 0 else s.fresh p) ≠ 0
    have := hs.listed hdel p
    rw [List.mem_filter]
    cases hp : sent p with
    | true =>
      by_cases hmem : p ∈ s.apps
      · simp [hmem]
      · simpa [hmem] using this
    | false => simpa using this
  empty hdel := by
    change s.apps.filter _ = []
    rw [hs.empty hdel]
    rfl

theorem Inv.remove (hs : Inv s) : Inv s.delete_pf_dev_data where
  once := List.nodup_nil
  held := hs.held
  listed h := by cases h
  empty _ := rfl

/-- **One step** that keeps the list that of the processes with a handle. -/
theorem Inv.step {s s' : Registry P} {a : Action P} (hs : Inv s) (hok : Ok s a)
    (h : Apps.step s a = some s') : Inv s' := by
  cases a with
  | find p reached alloc =>
    simp only [Apps.step] at h
    by_cases hreach : s.deleted = true ∨ reached = false
    · rw [if_pos hreach] at h
      obtain rfl := Option.some.inj h
      exact hs
    · rw [if_neg hreach] at h
      push Not at hreach
      obtain ⟨hdel, hreached⟩ : s.deleted = false ∧ reached = true := by simpa using hreach
      obtain ⟨hfresh, halloc⟩ := hok hdel hreached
      have hp : p ∉ s.apps := fun hp => (hs.listed hdel p).mp hp hfresh
      rw [add_pf_dev_app, if_neg hp, if_pos halloc] at h
      obtain rfl := Option.some.inj h
      exact hs.register hdel hp
  | delete p fresh reached =>
    simp only [Apps.step] at h
    split_ifs at h with hzero hreach
    · obtain rfl := Option.some.inj h
      refine hs.forget p fun hdel => ?_
      have := hok hdel
      cases fresh with
      | true => simp_all
      | false => rfl
    · obtain rfl := Option.some.inj h
      obtain ⟨hdel, hreached⟩ : s.deleted = false ∧ reached = true := by simpa using hreach
      have := hok hdel
      cases fresh with
      | true => exact hs.unregister hdel this.1
      | false => exact hs.unregister hdel (this hreached)
  | kill sent =>
    simp only [Apps.step] at h
    split_ifs at h
    obtain rfl := Option.some.inj h
    exact hs.kill sent
  | remove =>
    simp only [Apps.step] at h
    split_ifs at h
    obtain rfl := Option.some.inj h
    exact hs.remove

/-! ### Runs -/

/-- **Application registration.** In a run whose steps meet the condition the list is that of the
processes with a handle, each once, and the references are those of the list. -/
theorem app_registration {s : Registry P} (h : Reaches Apps.step Ok start s) : Right s :=
  (h.invariant Inv inv_start fun _ _ _ hs hok hstep => hs.step hok hstep).right

/-- Two processes register, one of them is signalled, and both delete their handles. -/
theorem app_registration_run :
    ∃ s : Registry (Fin 2), s.taken 0 = 2 ∧ s.apps = [] ∧ Right s := by
  have hrun : (run (guarded Apps.step Ok) start
      [.find (0 : Fin 2) true true, .find 1 true true, .kill fun p => decide (p = 1),
        .delete 0 true true, .delete 1 false true, .remove]).any
      (fun s => decide (s.taken 0 = 2 ∧ s.apps = [])) = true := by decide +kernel
  obtain ⟨s, hs, hq⟩ := (Option.any_eq_true _ _).mp hrun
  obtain ⟨htaken, happs⟩ := of_decide_eq_true hq
  exact ⟨s, htaken, happs, app_registration (.of_guarded_run _ .start hs)⟩

/-- A process obtains two handles and deletes both: a reference to its pid is left. -/
theorem second_handle_leaks_pid :
    ¬ ∀ s : Registry (Fin 1), Reaches Apps.step always start s → Right s := by
  intro h
  have hrun : (run Apps.step start
      [.find (0 : Fin 1) true true, .find 0 true true, .delete 0 true true,
        .delete 0 true true]).any
      (fun s => decide (s.apps = [] ∧ s.dropped 0 ≠ s.taken 0)) = true := by decide +kernel
  obtain ⟨s, hs, hq⟩ := (Option.any_eq_true _ _).mp hrun
  obtain ⟨happs, hleak⟩ := of_decide_eq_true hq
  exact hleak ((h s (.of_run hs)).dropped happs 0)

end Amr.Host.Apps
