/-
# The structure of a device is freed once and not used afterwards

The count is the number of callbacks with a reference and the one of the probe, and exactly one
signal is under way, waiting or consumed once it is 0. A remover that was woken by the signal finds
no reference; one that was interrupted may.
-/
import Amr.Host.Lifetime

namespace Amr.Host

open Transition Census Lifetime

variable {ι : Type} [DecidableEq ι] [Fintype ι]

def User.holding : User → Bool
  | some (_, .holding) => true
  | _ => false

/-- The callback is to signal the remover. -/
def User.releasing : User → Bool
  | some (_, .releasing) => true
  | _ => false

structure Inv (s : Lifetime ι) : Prop where
  frees : s.frees = if s.remover = .freed then 1 else 0
  unused : s.stray = false
  refused : s.late = false
  enabled : s.enabled = true → s.remover.cleared = false
  refs : s.refcount = census User.holding s.users + if s.remover.owns then 1 else 0
  signals : census User.releasing s.users + (if s.remover = .putLast then 1 else 0) +
    s.remove_sema + (if s.remover.past ∧ s.interrupted = false then 1 else 0) =
      if s.refcount = 0 then 1 else 0
  heartbeat : s.remover.past = true → s.remover ≠ .waited → s.heartbeat = .off
  interrupted : s.interrupted = true → s.remover.past = true
  drvdata : s.remover = .drvdataCleared ∨ s.remover = .freed → s.drvdata = false
  quiet : s.remover = .freed → ∀ u, ∀ x ∈ s.users u, x.2 = .entered

variable {s : Lifetime ι}

theorem Inv.safe (hs : Inv s) : Safe s where
  once := hs.frees
  putBack hfreed u k hu := by
    have hrem : s.remover = .freed := by
      by_contra h
      exact hfreed (by rw [hs.frees, if_neg h])
    cases hs.quiet hrem u _ hu
  unused := hs.unused
  refused := hs.refused

theorem inv_start (heartbeat : Bool) : Inv (start heartbeat : Lifetime ι) where
  frees := rfl
  unused := rfl
  refused := rfl
  enabled _ := rfl
  refs := by
    simp [start, Remover.owns, census_const (p := User.holding) (a := none) rfl]
  signals := by
    simp [start, Remover.past, census_const (p := User.releasing) (a := none) rfl]
  heartbeat := nofun
  interrupted := nofun
  drvdata := by rintro (h | h) <;> cases h
  quiet := nofun

/-! ### Steps of the callbacks -/

theorem Inv.touch_eq (hs : Inv s) (h : s.remover ≠ .freed) : s.touch = s := by
  have hfrees : s.frees = 0 := by rw [hs.frees, if_neg h]
  cases s
  simp_all [touch]

theorem Inv.not_freed (hs : Inv s) {u : ι} {k : Access} {stage : Stage}
    (hu : s.users u = some (k, stage)) (hstage : stage ≠ .entered) : s.remover ≠ .freed :=
  fun h => hstage (hs.quiet h u _ hu)

theorem census_move {u : ι} {x : User} {p : User → Bool}
    (h : p x = p (s.users u)) : census p (s.setUser u x).users = census p s.users := by
  have := census_update (p := p) s.users u x
  rw [h] at this
  exact Nat.add_right_cancel this

/-- **A move that concerns no reference.** -/
theorem Inv.move (hs : Inv s) {u : ι} {x : User}
    (hholding : x.holding = User.holding (s.users u))
    (hreleasing : x.releasing = User.releasing (s.users u))
    (hquiet : s.remover = .freed → ∀ y ∈ x, y.2 = .entered) : Inv (s.setUser u x) where
  frees := hs.frees
  unused := hs.unused
  refused := hs.refused
  enabled := hs.enabled
  refs := by rw [census_move hholding]; exact hs.refs
  signals := by rw [census_move hreleasing]; exact hs.signals
  heartbeat := hs.heartbeat
  interrupted := hs.interrupted
  drvdata := hs.drvdata
  quiet hrem v y hy := by
    rcases eq_or_ne v u with rfl | hv
    · rw [setUser_self] at hy
      exact hquiet hrem y hy
    · rw [setUser_ne s x hv] at hy
      exact hs.quiet hrem v y hy

theorem Inv.lock (hs : Inv s) (x : Option ι) : Inv (s.lock x) :=
  ⟨hs.frees, hs.unused, hs.refused, hs.enabled, hs.refs, hs.signals, hs.heartbeat, hs.interrupted, hs.drvdata,
    hs.quiet⟩

variable {s s' : Lifetime ι}

theorem Inv.lookup (hs : Inv s) {u : ι} (hok : Ok s (.lookup u))
    (h : step s (.lookup u) = some s') : Inv s' := by
  simp only [step] at h
  split at h
  · next k hu =>
    split_ifs at h with hlock hptr
    · obtain rfl := Option.some.inj h
      refine (hs.move (by rw [hu]; rfl) (by rw [hu]; rfl) fun hrem => ?_).lock _
      have hk : some k = some Access.sysfs := by simpa [hu] using hok hrem
      obtain rfl := Option.some.inj hk
      rw [pointer, hs.drvdata (.inr hrem)] at hptr
      cases hptr
    · obtain rfl := Option.some.inj h
      exact hs.move (by rw [hu]; rfl) (by rw [hu]; rfl) fun _ _ hy => by cases hy
  · cases h

theorem Inv.check (hs : Inv s) {u : ι} {k : Access}
    (hu : s.users u = some (k, .looking)) : Inv (s.checkUser u k) := by
  have hrem := hs.not_freed hu (by decide)
  unfold checkUser
  rw [hs.touch_eq hrem]
  split_ifs with hget
  · refine Inv.lock ?_ none
    have hholding := census_update (p := User.holding) s.users u (some (k, .holding))
    have hreleasing := census_update (p := User.releasing) s.users u (some (k, .holding))
    simp only [hu, User.holding, User.releasing, Bool.false_eq_true, if_false, if_true,
      Nat.add_zero] at hholding hreleasing
    have hrefs := hs.refs
    have hsignals := hs.signals
    exact {
      frees := hs.frees
      unused := hs.unused
      refused := by
        change (s.late || s.remover.cleared) = false
        rw [hs.refused, hs.enabled hget.1]
        rfl
      enabled := hs.enabled
      refs := by
        change s.refcount + 1 = census User.holding (Function.update s.users u _) +
          if s.remover.owns then 1 else 0
        omega
      signals := by
        change census User.releasing (Function.update s.users u _) + _ + _ + _ =
          if s.refcount + 1 = 0 then 1 else 0
        rw [hreleasing, if_neg (Nat.succ_ne_zero _)]
        rw [if_neg hget.2] at hsignals
        exact hsignals
      heartbeat := hs.heartbeat
      interrupted := hs.interrupted
      drvdata := hs.drvdata
      quiet := fun h => absurd h hrem }
  · exact (hs.move (by rw [hu]; rfl) (by rw [hu]; rfl) fun _ _ hy => by cases hy).lock none

theorem Inv.put (hs : Inv s) {u : ι} {k : Access}
    (hu : s.users u = some (k, .holding)) : Inv (s.putUser u k) := by
  have hrem := hs.not_freed hu (by decide)
  have hpos : 0 < census User.holding s.users := census_pos (i := u) (by rw [hu]; rfl)
  have hrefs := hs.refs
  have hsignals := hs.signals
  have hcount : s.refcount ≠ 0 := by omega
  rw [if_neg hcount] at hsignals
  unfold putUser
  rw [hs.touch_eq hrem]
  set x : User := if s.refcount - 1 = 0 then some (k, .releasing) else none with hx
  have hxh : User.holding x = false := by rw [hx]; split_ifs <;> rfl
  have hxr : User.releasing x = decide (s.refcount - 1 = 0) := by
    rw [hx]
    split_ifs with h
    · rw [decide_eq_true h]; rfl
    · rw [decide_eq_false h]; rfl
  have hholding := census_update (p := User.holding) s.users u x
  have hreleasing := census_update (p := User.releasing) s.users u x
  rw [hxh, hu] at hholding
  rw [hxr, hu] at hreleasing
  simp only [User.holding, User.releasing, Bool.false_eq_true, if_false, if_true,
    Nat.add_zero, decide_eq_true_eq] at hholding hreleasing
  exact {
    frees := hs.frees
    unused := hs.unused
    refused := hs.refused
    enabled := hs.enabled
    refs := by
      change s.refcount - 1 = census User.holding (Function.update s.users u x) +
        if s.remover.owns then 1 else 0
      omega
    signals := by
      change census User.releasing (Function.update s.users u x) +
        (if s.remover = .putLast then 1 else 0) + s.remove_sema +
          (if s.remover.past ∧ s.interrupted = false then 1 else 0) =
            if s.refcount - 1 = 0 then 1 else 0
      omega
    heartbeat := hs.heartbeat
    interrupted := hs.interrupted
    drvdata := hs.drvdata
    quiet := fun h => absurd h hrem }

theorem Inv.release (hs : Inv s) {u : ι} {k : Access}
    (hu : s.users u = some (k, .releasing)) :
    Inv ({ s.touch with remove_sema := s.remove_sema + 1 }.setUser u none) := by
  have hrem := hs.not_freed hu (by decide)
  rw [hs.touch_eq hrem]
  have hholding := census_update (p := User.holding) s.users u none
  have hreleasing := census_update (p := User.releasing) s.users u none
  simp only [hu, User.holding, User.releasing, Bool.false_eq_true, if_false, if_true,
    Nat.add_zero] at hholding hreleasing
  have hsignals := hs.signals
  exact {
    frees := hs.frees
    unused := hs.unused
    refused := hs.refused
    enabled := hs.enabled
    refs := by
      change s.refcount = census User.holding (Function.update s.users u none) + _
      rw [hholding]
      exact hs.refs
    signals := by
      change census User.releasing (Function.update s.users u none) +
        (if s.remover = .putLast then 1 else 0) + (s.remove_sema + 1) +
          (if s.remover.past ∧ s.interrupted = false then 1 else 0) =
            if s.refcount = 0 then 1 else 0
      omega
    heartbeat := hs.heartbeat
    interrupted := hs.interrupted
    drvdata := hs.drvdata
    quiet := fun h => absurd h hrem }

/-! ### Steps of the remover -/

/-- What the remover and its signal add to the count of signals. -/
def removerSignals (s : Lifetime ι) : ℕ :=
  (if s.remover = .putLast then 1 else 0) + s.remove_sema +
    if s.remover.past ∧ s.interrupted = false then 1 else 0

/-- **A step of the remover before the free.** It concerns no callback, and what it changes in the
counts adds up. -/
theorem Inv.removerStep {s t : Lifetime ι} (hs : Inv s) (hfreed : s.remover ≠ .freed)
    (hr : t.remover ≠ .freed) (hghost : t.frees = s.frees ∧ t.stray = s.stray ∧ t.late = s.late)
    (husers : t.users = s.users) (henabled : t.enabled = true → t.remover.cleared = false)
    (hrefs : t.refcount + (if s.remover.owns then 1 else 0) =
      s.refcount + if t.remover.owns then 1 else 0)
    (hsignals : removerSignals t + (if s.refcount = 0 then 1 else 0) =
      removerSignals s + if t.refcount = 0 then 1 else 0)
    (hbeat : t.remover.past = true → t.remover ≠ .waited → t.heartbeat = .off)
    (hint : t.interrupted = true → t.remover.past = true)
    (hdata : t.remover = .drvdataCleared → t.drvdata = false) : Inv t where
  frees := by
    rw [hghost.1, hs.frees, if_neg hfreed, if_neg hr]
  unused := hghost.2.1.trans hs.unused
  refused := hghost.2.2.trans hs.refused
  enabled := henabled
  refs := by
    have := hs.refs
    rw [husers]
    omega
  signals := by
    have := hs.signals
    rw [husers]
    unfold removerSignals at hsignals
    omega
  heartbeat := hbeat
  interrupted := hint
  drvdata h := h.elim hdata fun h => absurd h hr
  quiet h := absurd h hr

theorem Inv.not_enabled (hs : Inv s) (h : s.remover.cleared = true) :
    s.enabled = false := by
  by_contra he
  rw [hs.enabled (by simpa using he)] at h
  cases h

/-- A step from `r` to `r'` that is neither about the reference of the remover nor about the
signal. -/
def Remover.Silent (r r' : Remover) : Prop :=
  r' ≠ .freed ∧ r.cleared = true ∧ r.owns = false ∧ r'.owns = false ∧ r ≠ .putLast ∧
    r' ≠ .putLast ∧ r.past = r'.past

instance (r r' : Remover) : Decidable (r.Silent r') := by unfold Remover.Silent; infer_instance

theorem Inv.advance (hs : Inv s) (hfreed : s.remover ≠ .freed) {r : Remover}
    (hr : s.remover.Silent r) {heartbeat : Heartbeat} {cdev sysfs drvdata : Bool}
    (hbeat : r.past = true → r ≠ .waited → heartbeat = .off)
    (hdata : r = .drvdataCleared → drvdata = false) :
    Inv { s with
      remover := r, heartbeat := heartbeat, cdev := cdev, sysfs := sysfs, drvdata := drvdata } := by
  obtain ⟨hr', hcleared, howns, howns', hlast, hlast', hpast⟩ := hr
  refine hs.removerStep hfreed hr' ⟨rfl, rfl, rfl⟩ rfl (fun he => ?_) ?_ ?_ hbeat (fun hi => ?_)
    hdata
  · cases (hs.not_enabled hcleared).symm.trans he
  · simp [howns, howns']
  · simp [removerSignals, hlast, hlast', hpast]
  · rw [← hpast]
    exact hs.interrupted hi

theorem Inv.woken (hs : Inv s) (hpast : s.remover.past = true)
    (hint : s.interrupted = false) (u : ι) :
    User.holding (s.users u) = false ∧ User.releasing (s.users u) = false := by
  have hsignals := hs.signals
  have hone : (if s.remover.past = true ∧ s.interrupted = false then 1 else 0) = 1 :=
    if_pos ⟨hpast, hint⟩
  have hcount : s.refcount = 0 := by
    by_contra h
    rw [if_neg h] at hsignals
    omega
  have hrefs := hs.refs
  rw [if_pos hcount] at hsignals
  exact ⟨census_eq_zero.mp (by omega) u, census_eq_zero.mp (by omega) u⟩

theorem Inv.not_interrupted (hs : Inv s) (h : s.remover.past = false) :
    s.interrupted = false := by
  by_contra hint
  rw [hs.interrupted (by simpa using hint)] at h
  cases h

theorem Inv.free (hs : Inv s) (hrem : s.remover = .drvdataCleared)
    (hdata : s.drvdata = false)
    (hok : ∀ u, ∀ x ∈ s.users u, x.2 ≠ .looking ∧
      (s.interrupted = true → x.2 ≠ .holding ∧ x.2 ≠ .releasing)) :
    Inv { s with frees := s.frees + 1, remover := .freed } where
  frees := by
    have := hs.frees
    rw [hrem] at this
    change s.frees + 1 = 1
    rw [this]
    rfl
  unused := hs.unused
  refused := hs.refused
  enabled he := by
    have := hs.enabled he
    rw [hrem] at this
    cases this
  refs := by
    have := hs.refs
    rw [hrem] at this
    exact this
  signals := by
    have := hs.signals
    rw [hrem] at this
    exact this
  heartbeat _ _ := hs.heartbeat (by rw [hrem]; rfl) (by rw [hrem]; decide)
  interrupted _ := rfl
  drvdata _ := hdata
  quiet _ u x hx := by
    obtain ⟨hlooking, hint⟩ := hok u x hx
    change x ∈ s.users u at hx
    obtain ⟨k, stage⟩ := x
    cases hi : s.interrupted with
    | true =>
      obtain ⟨hholding, hreleasing⟩ := hint hi
      cases stage with
      | entered => rfl
      | looking => exact absurd rfl hlooking
      | holding => exact absurd rfl hholding
      | releasing => exact absurd rfl hreleasing
    | false =>
      obtain ⟨hholding, hreleasing⟩ := hs.woken (by rw [hrem]; rfl) hi u
      rw [hx] at hholding hreleasing
      cases stage with
      | entered => rfl
      | looking => exact absurd rfl hlooking
      | holding => cases hholding
      | releasing => cases hreleasing

theorem Inv.remove (hs : Inv s) (hok : Ok s .remove)
    (h : step s .remove = some s') : Inv s' := by
  simp only [step, Lifetime.remove] at h
  have hint := hs.not_interrupted
  cases hrem : s.remover with
  | before =>
    rw [hrem] at h hint
    dsimp only at h
    split_ifs at h
    obtain rfl := Option.some.inj h
    refine hs.removerStep (by rw [hrem]; decide) nofun ⟨rfl, rfl, rfl⟩ rfl (fun _ => rfl) ?_ ?_
      nofun ?_ nofun
    · simp [hrem, Remover.owns]
    · simp [hrem, removerSignals, Remover.past]
    · simp [hint rfl]
  | fetched =>
    rw [hrem] at h hint
    dsimp only at h
    split_ifs at h
    obtain rfl := Option.some.inj h
    rw [hs.touch_eq (by rw [hrem]; decide)]
    refine hs.removerStep (by rw [hrem]; decide) nofun ⟨rfl, rfl, rfl⟩ rfl nofun ?_ ?_ nofun ?_
      nofun
    · simp [hrem, Remover.owns]
    · simp [hrem, removerSignals, Remover.past]
    · simp [hint rfl]
  | disabled =>
    rw [hrem] at h hint
    obtain rfl := Option.some.inj h
    have hcount : s.refcount ≠ 0 := by
      have := hs.refs
      rw [hrem, Remover.owns, if_pos rfl] at this
      omega
    rw [hs.touch_eq (by rw [hrem]; decide)]
    have hen := hs.not_enabled (by rw [hrem]; rfl)
    by_cases hlast : s.refcount - 1 = 0
    · simp only [if_pos hlast]
      refine hs.removerStep (by rw [hrem]; decide) nofun ⟨rfl, rfl, rfl⟩ rfl
        (fun he => by cases hen.symm.trans he) ?_ ?_ nofun ?_ nofun
      · simp only [hrem, Remover.owns, if_true, Bool.false_eq_true, if_false]
        omega
      · simp [hrem, removerSignals, Remover.past, hlast, hcount]
        omega
      · simp [hint rfl]
    · simp only [if_neg hlast]
      refine hs.removerStep (by rw [hrem]; decide) nofun ⟨rfl, rfl, rfl⟩ rfl
        (fun he => by cases hen.symm.trans he) ?_ ?_ nofun ?_ nofun
      · simp only [hrem, Remover.owns, if_true, Bool.false_eq_true, if_false]
        omega
      · simp [hrem, removerSignals, Remover.past, hlast, hcount]
      · simp [hint rfl]
  | putLast =>
    rw [hrem] at h hint
    obtain rfl := Option.some.inj h
    rw [hs.touch_eq (by rw [hrem]; decide)]
    have hen := hs.not_enabled (by rw [hrem]; rfl)
    refine hs.removerStep (by rw [hrem]; decide) nofun ⟨rfl, rfl, rfl⟩ rfl
      (fun he => by cases hen.symm.trans he) ?_ ?_ nofun ?_ nofun
    · simp [hrem, Remover.owns]
    · simp [hrem, removerSignals, Remover.past]
      omega
    · simp [hint rfl]
  | dropped =>
    rw [hrem] at h
    obtain rfl := Option.some.inj h
    rw [hs.touch_eq (by rw [hrem]; decide)]
    exact hs.advance (by rw [hrem]; decide) (by rw [hrem]; decide) nofun nofun
  | killed =>
    rw [hrem] at h hint
    dsimp only at h
    split_ifs at h with hsema
    obtain rfl := Option.some.inj h
    rw [hs.touch_eq (by rw [hrem]; decide)]
    have hen := hs.not_enabled (by rw [hrem]; rfl)
    refine hs.removerStep (by rw [hrem]; decide) nofun ⟨rfl, rfl, rfl⟩ rfl
      (fun he => by cases hen.symm.trans he) ?_ ?_ (fun _ h => absurd rfl h) (fun _ => rfl) nofun
    · simp [hrem, Remover.owns]
    · simp only [hrem, removerSignals, Remover.past, hint rfl, reduceCtorEq, if_false, if_true,
        and_self, Bool.false_eq_true, false_and]
      omega
  | waited =>
    rw [hrem] at h
    dsimp only at h
    split_ifs at h
    obtain rfl := Option.some.inj h
    rw [hs.touch_eq (by rw [hrem]; decide)]
    exact hs.advance (by rw [hrem]; decide) (by rw [hrem]; decide) (fun _ _ => rfl) nofun
  | shutdown =>
    rw [hrem] at h
    obtain rfl := Option.some.inj h
    rw [hs.touch_eq (by rw [hrem]; decide)]
    exact hs.advance (by rw [hrem]; decide) (by rw [hrem]; decide)
      (fun _ _ => hs.heartbeat (by rw [hrem]; rfl) (by rw [hrem]; decide)) nofun
  | cdevDeleted =>
    rw [hrem] at h
    dsimp only at h
    split_ifs at h
    obtain rfl := Option.some.inj h
    rw [hs.touch_eq (by rw [hrem]; decide)]
    exact hs.advance (by rw [hrem]; decide) (by rw [hrem]; decide)
      (fun _ _ => hs.heartbeat (by rw [hrem]; rfl) (by rw [hrem]; decide)) nofun
  | sysfsRemoved =>
    rw [hrem] at h
    obtain rfl := Option.some.inj h
    rw [hs.touch_eq (by rw [hrem]; decide)]
    exact hs.advance (by rw [hrem]; decide) (by rw [hrem]; decide)
      (fun _ _ => hs.heartbeat (by rw [hrem]; rfl) (by rw [hrem]; decide)) fun _ => rfl
  | drvdataCleared =>
    rw [hrem] at h
    obtain rfl := Option.some.inj h
    rw [hs.touch_eq (by rw [hrem]; decide)]
    exact hs.free hrem (hs.drvdata (.inl hrem)) (hok hrem)
  | freed =>
    rw [hrem] at h
    cases h

theorem Inv.interrupt (hs : Inv s) (h : step s .interrupt = some s') :
    Inv s' := by
  simp only [step] at h
  split_ifs at h with hwait
  obtain ⟨hrem, hsema⟩ := hwait
  obtain rfl := Option.some.inj h
  rw [hs.touch_eq (by rw [hrem]; decide)]
  have hen := hs.not_enabled (by rw [hrem]; rfl)
  refine hs.removerStep (by rw [hrem]; decide) nofun ⟨rfl, rfl, rfl⟩ rfl
    (fun he => by cases hen.symm.trans he) ?_ ?_ (fun _ h => absurd rfl h) (fun _ => rfl) nofun
  · simp [hrem, Remover.owns]
  · simp [hrem, removerSignals, Remover.past]

/-! ### Runs -/

theorem Inv.beat (hs : Inv s) (hoff : s.heartbeat ≠ .off) (x : Heartbeat) :
    Inv { s with heartbeat := x } :=
  ⟨hs.frees, hs.unused, hs.refused, hs.enabled, hs.refs, hs.signals,
    fun hp hw => absurd (hs.heartbeat hp hw) hoff, hs.interrupted, hs.drvdata, hs.quiet⟩

/-- **One step** after which the structure is still used rightly. -/
theorem Inv.step {a : Action ι} (hs : Inv s) (hok : Ok s a)
    (h : Host.step s a = some s') : Inv s' := by
  cases a with
  | enter u k =>
    simp only [Host.step] at h
    split_ifs at h with hu
    obtain rfl := Option.some.inj h
    exact hs.move (by rw [hu.1]; rfl) (by rw [hu.1]; rfl) fun _ y hy => by
      obtain rfl := Option.some.inj hy
      rfl
  | lookup u => exact hs.lookup hok h
  | check u =>
    simp only [Host.step] at h
    split at h
    · next k hu =>
      obtain rfl := Option.some.inj h
      exact hs.check hu
    · cases h
  | use u =>
    simp only [Host.step] at h
    split at h
    · next k hu =>
      obtain rfl := Option.some.inj h
      rw [hs.touch_eq (hs.not_freed hu (by decide))]
      exact hs
    · cases h
  | put u =>
    simp only [Host.step] at h
    split at h
    · next k hu =>
      obtain rfl := Option.some.inj h
      exact hs.put hu
    · cases h
  | release u =>
    simp only [Host.step] at h
    split at h
    · next k hu =>
      obtain rfl := Option.some.inj h
      exact hs.release hu
    · cases h
  | event =>
    simp only [Host.step] at h
    split at h
    · next hbeat =>
      split_ifs at h
      · obtain rfl := Option.some.inj h
        exact hs.beat (by rw [hbeat]; decide) .event
      · obtain rfl := Option.some.inj h
        exact hs
    · cases h
  | eventDone =>
    simp only [Host.step] at h
    split at h
    · next hbeat =>
      obtain rfl := Option.some.inj h
      have hrem : s.remover ≠ .freed := fun hrem => by
        have := hs.heartbeat (by rw [hrem]; rfl) (by rw [hrem]; decide)
        rw [hbeat] at this
        cases this
      rw [hs.touch_eq hrem]
      exact hs.beat (by rw [hbeat]; decide) .waiting
    · cases h
  | remove => exact hs.remove hok h
  | interrupt => exact hs.interrupt h

/-- **Device lifetime.** In a run whose steps meet the condition the structure is freed once, when
every reference has been put back, and not used afterwards. -/
theorem device_lifetime (heartbeat : Bool) {s : Lifetime ι}
    (h : Reaches Host.step Ok (start heartbeat) s) : Safe s :=
  (h.invariant Inv (inv_start heartbeat) fun _ _ _ hs hok hstep => hs.step hok hstep).safe

local instance instNeZeroTwo : NeZero 2 := ⟨by decide⟩

/-- A file is opened and closed again while the device is removed; the heartbeat thread and an
attribute use the device before that. -/
def orderlyRemoval : List (Action (Fin 2)) :=
  [.event, .enter 0 .file, .lookup 0, .check 0, .enter 1 .sysfs, .lookup 1, .check 1, .use 1,
    .eventDone, .remove, .remove, .put 1, .remove, .remove, .use 0, .put 0, .release 0, .remove,
    .remove, .remove, .remove, .remove, .remove]

theorem device_lifetime_removal :
    ∃ s : Lifetime (Fin 2), s.remover = .freed ∧ Safe s := by
  have hrun : (run (guarded Host.step Ok) (start true) orderlyRemoval).any
      (fun s => decide (s.remover = .freed)) = true := by decide +kernel
  obtain ⟨s, hs, hrem⟩ := (Option.any_eq_true _ _).mp hrun
  exact ⟨s, of_decide_eq_true hrem, device_lifetime true (.of_guarded_run _ .start hs)⟩

/-- The wait for an open file is interrupted, and the structure freed while the file uses it. -/
def interruptedRemoval : List (Action (Fin 1)) :=
  [.enter 0 .file, .lookup 0, .check 0, .remove, .remove, .remove, .remove, .interrupt, .remove,
    .remove, .remove, .remove, .remove, .use 0]

theorem interrupted_wait_frees_too_early :
    ¬ ∀ s : Lifetime (Fin 1), Reaches Host.step always (start true) s → Safe s := by
  intro h
  have hrun : (run Host.step (start true) interruptedRemoval).any
      (fun s => decide (s.stray = true)) = true := by decide +kernel
  obtain ⟨s, hs, hstray⟩ := (Option.any_eq_true _ _).mp hrun
  have := (h s (.of_run hs)).unused
  rw [of_decide_eq_true hstray] at this
  cases this

end Amr.Host
