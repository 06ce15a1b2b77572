/-
# Guarded transition systems with a computable step

A system is a partial step function `step : σ → α → Option σ`: an action is either refused or
leads to one next state, and the interleaving of several parties is the choice of the action
list. `Reaches step ok s₀ s` collects the states of the runs all of whose steps meet a side
condition `ok`, evaluated in the state before the step; the unconditional runs are those of the
trivial condition. The two rules below are the only inductions over runs: an invariant is
established by one step, and a refinement mapping is established by one step.
-/
import Mathlib

namespace Transition

variable {σ α τ : Type*}

/-- The state a list of actions leads to, if no action of the list is refused. -/
def run (step : σ → α → Option σ) : σ → List α → Option σ
  | s, [] => some s
  | s, a :: as => (step s a).bind fun s' => run step s' as

/-- States of the runs from `s₀` whose every step meets `ok` in the state it is taken in. -/
inductive Reaches (step : σ → α → Option σ) (ok : σ → α → Prop) (s₀ : σ) : σ → Prop
  | start : Reaches step ok s₀ s₀
  | next {s s' : σ} {a : α} :
      Reaches step ok s₀ s → ok s a → step s a = some s' → Reaches step ok s₀ s'

/-- The side condition that every step meets. -/
def always : σ → α → Prop := fun _ _ => True

/-- The steps that meet `ok`. -/
def guarded (step : σ → α → Option σ) (ok : σ → α → Prop) [∀ s a, Decidable (ok s a)] (s : σ)
    (a : α) : Option σ :=
  if ok s a then step s a else none

namespace Reaches

variable {step : σ → α → Option σ} {ok : σ → α → Prop} {s₀ s : σ}

/-- **Invariant rule.** What holds at the start and is kept by every admissible step holds in
every state reached. -/
theorem invariant (I : σ → Prop) (hstart : I s₀)
    (hstep : ∀ s a s', I s → ok s a → step s a = some s' → I s')
    (hs : Reaches step ok s₀ s) : I s := by
  induction hs with
  | start => exact hstart
  | next _ hok h ih => exact hstep _ _ _ ih hok h

/-- A run that meets a stronger side condition meets a weaker one. -/
theorem mono {ok' : σ → α → Prop} (h : ∀ s a, ok s a → ok' s a)
    (hs : Reaches step ok s₀ s) : Reaches step ok' s₀ s := by
  induction hs with
  | start => exact .start
  | next _ hok hstep ih => exact ih.next (h _ _ hok) hstep

/-- Runs compose: a run of unconditional steps after a reached state reaches its end. -/
theorem append_run (as : List α) :
    ∀ {s s' : σ}, Reaches step always s₀ s → run step s as = some s' →
      Reaches step always s₀ s' := by
  induction as with
  | nil =>
    intro s s' hs h
    obtain rfl : s = s' := by simpa [run] using h
    exact hs
  | cons a as ih =>
    intro s s' hs h
    obtain ⟨t, ht, h⟩ := Option.bind_eq_some_iff.mp h
    exact ih (hs.next trivial ht) h

/-- The end of a computed run is reached. -/
theorem of_run {as : List α} (h : run step s₀ as = some s) : Reaches step always s₀ s :=
  append_run as .start h

/-- The end of a computed run whose every step is checked against the side condition. -/
theorem of_guarded_run [∀ s a, Decidable (ok s a)] (as : List α) :
    ∀ {s s' : σ}, Reaches step ok s₀ s →
      run (guarded step ok) s as = some s' →
      Reaches step ok s₀ s' := by
  induction as with
  | nil =>
    intro s s' hs h
    obtain rfl : s = s' := by simpa [run] using h
    exact hs
  | cons a as ih =>
    intro s s' hs h
    obtain ⟨t, ht, h⟩ := Option.bind_eq_some_iff.mp h
    unfold guarded at ht
    split_ifs at ht with hok
    exact ih (hs.next hok ht) h

/-- **Refinement rule.** If every admissible step from a state of the invariant `I` is matched
under `abs` by finitely many abstract steps, every reached state abstracts to one that the
abstract system reaches. -/
theorem refines (I : σ → Prop) (abs : σ → τ) (next : τ → τ → Prop)
    (hI : ∀ s, Reaches step ok s₀ s → I s)
    (hsim : ∀ s a s', I s → ok s a → step s a = some s' →
      Relation.ReflTransGen next (abs s) (abs s'))
    (hs : Reaches step ok s₀ s) : Relation.ReflTransGen next (abs s₀) (abs s) := by
  induction hs with
  | start => exact .refl
  | next hs hok h ih => exact ih.trans (hsim _ _ _ (hI _ hs) hok h)

end Reaches

section Exact

variable {step : σ → α → Option σ} {ok : σ → α → Prop} {I R : σ → Prop}

/-- What is lost at a step is not regained in the rest of the run. -/
theorem of_run_of_step (hI : ∀ s a s', I s → step s a = some s' → I s')
    (hR : ∀ s a s', I s → step s a = some s' → R s' → R s) (as : List α) :
    ∀ {s s' : σ}, I s → run step s as = some s' → R s' → R s := by
  induction as with
  | nil =>
    intro s s' _ h hs'
    obtain rfl : s = s' := by simpa [run] using h
    exact hs'
  | cons a as ih =>
    intro s s' hs h hs'
    obtain ⟨t, ht, h⟩ := Option.bind_eq_some_iff.mp h
    exact hR s a t hs ht (ih (hI s a t hs ht) h hs')

/-- A run whose every step meets the side condition is a run. -/
theorem run_of_guarded [∀ s a, Decidable (ok s a)] (as : List α) :
    ∀ {s s' : σ}, run (guarded step ok) s as = some s' → run step s as = some s' := by
  induction as with
  | nil => exact fun h => h
  | cons a as ih =>
    intro s s' h
    obtain ⟨t, ht, h⟩ := Option.bind_eq_some_iff.mp h
    unfold guarded at ht
    split_ifs at ht
    rw [run, ht, Option.bind_some]
    exact ih h

/-- **Exactness rule.** If a step keeps `R` exactly when it meets the side condition, the states of
a run keep `R` exactly when each of its steps meets it. -/
theorem run_guarded_iff [∀ s a, Decidable (ok s a)]
    (hI : ∀ s a s', I s → step s a = some s' → I s')
    (hR : ∀ s a s', I s → step s a = some s' → (R s' ↔ R s ∧ ok s a)) (as : List α) :
    ∀ {s s' : σ}, I s → R s → run step s as = some s' →
      (R s' ↔ run (guarded step ok) s as = some s') := by
  induction as with
  | nil =>
    intro s s' _ hRs h
    obtain rfl : s = s' := by simpa [run] using h
    exact ⟨fun _ => rfl, fun _ => hRs⟩
  | cons a as ih =>
    intro s s' hs hRs h
    obtain ⟨t, ht, h⟩ := Option.bind_eq_some_iff.mp h
    have hIt := hI s a t hs ht
    by_cases hok : ok s a
    · have hguard : guarded step ok s a = some t := by rw [guarded, if_pos hok, ht]
      rw [run, hguard, Option.bind_some]
      exact ih hIt ((hR s a t hs ht).mpr ⟨hRs, hok⟩) h
    · have hguard : guarded step ok s a = none := by rw [guarded, if_neg hok]
      rw [run, hguard, Option.bind_none]
      refine ⟨fun hRs' => absurd ?_ hok, fun hnone => by cases hnone⟩
      have hRt : R t :=
        of_run_of_step hI (fun s a s' hs h h' => ((hR s a s' hs h).mp h').1) as hIt h hRs'
      exact ((hR s a t hs ht).mp hRt).2

/-- Every step of the run along a list of actions meets `P`. -/
def Along (step : σ → α → Option σ) (P : σ → α → σ → Prop) : σ → List α → Prop
  | _, [] => True
  | s, a :: as => ∀ s', step s a = some s' → P s a s' ∧ Along step P s' as

/-- One step more. -/
theorem run_append_one (as : List α) :
    ∀ {s t t' : σ} {a : α}, run step s as = some t → step t a = some t' →
      run step s (as ++ [a]) = some t' := by
  induction as with
  | nil =>
    intro s t t' a hrun hstep
    obtain rfl : s = t := by simpa [run] using hrun
    simp [run, hstep]
  | cons b as ih =>
    intro s t t' a hrun hstep
    obtain ⟨u, hu, hrun⟩ := Option.bind_eq_some_iff.mp hrun
    rw [List.cons_append, run, hu, Option.bind_some]
    exact ih hrun hstep

/-- The step after the first ones. -/
theorem Along.last {P : σ → α → σ → Prop} (as : List α) :
    ∀ {s t t' : σ} {a : α}, Along step P s (as ++ [a]) → run step s as = some t →
      step t a = some t' → P t a t' := by
  induction as with
  | nil =>
    intro s t t' a hall hrun hstep
    obtain rfl : s = t := by simpa [run] using hrun
    exact (hall t' hstep).1
  | cons b as ih =>
    intro s t t' a hall hrun hstep
    obtain ⟨u, hu, hrun⟩ := Option.bind_eq_some_iff.mp hrun
    exact ih (hall u hu).2 hrun hstep

/-- **Exactness rule for steps.** If, as long as all steps met `P`, a step meets `P` exactly when it
meets the side condition, every step of a run meets `P` exactly when each of them meets it. -/
theorem along_iff [∀ s a, Decidable (ok s a)] {P : σ → α → σ → Prop}
    (hI : ∀ s a s', I s → step s a = some s' → P s a s' → I s')
    (hP : ∀ s a s', I s → step s a = some s' → (P s a s' ↔ ok s a)) (as : List α) :
    ∀ {s s' : σ}, I s → run step s as = some s' →
      (Along step P s as ↔ run (guarded step ok) s as = some s') := by
  induction as with
  | nil =>
    intro s s' _ h
    exact ⟨fun _ => h, fun _ => trivial⟩
  | cons a as ih =>
    intro s s' hs h
    obtain ⟨t, ht, h⟩ := Option.bind_eq_some_iff.mp h
    have hcons : Along step P s (a :: as) ↔ P s a t ∧ Along step P t as := by
      refine ⟨fun hall => hall t ht, fun hall t' ht' => ?_⟩
      obtain rfl : t = t' := Option.some.inj (ht.symm.trans ht')
      exact hall
    rw [hcons, hP s a t hs ht]
    by_cases hok : ok s a
    · have hguard : guarded step ok s a = some t := by rw [guarded, if_pos hok, ht]
      rw [run, hguard, Option.bind_some]
      have hIt := hI s a t hs ht ((hP s a t hs ht).mpr hok)
      exact ⟨fun hall => (ih hIt h).mp hall.2, fun hrun => ⟨hok, (ih hIt h).mpr hrun⟩⟩
    · have hguard : guarded step ok s a = none := by rw [guarded, if_neg hok]
      rw [run, hguard, Option.bind_none]
      exact ⟨fun hall => absurd hall.1 hok, fun hnone => by cases hnone⟩

/-- **Exactness rule, for two conditions.** If, as long as all steps met `P`, a step meets `P`
exactly when it meets `Q`, every step of a run meets `P` exactly when each of them meets `Q`. -/
theorem along_iff_along {P Q : σ → α → σ → Prop}
    (hI : ∀ s a s', I s → step s a = some s' → P s a s' → I s')
    (hP : ∀ s a s', I s → step s a = some s' → (P s a s' ↔ Q s a s')) (as : List α) :
    ∀ {s : σ}, I s → (Along step P s as ↔ Along step Q s as) := by
  induction as with
  | nil => exact fun _ => Iff.rfl
  | cons a as ih =>
    intro s hs
    constructor
    · intro hall s' hs'
      obtain ⟨hstep, hrest⟩ := hall s' hs'
      exact ⟨(hP s a s' hs hs').mp hstep, (ih (hI s a s' hs hs' hstep)).mp hrest⟩
    · intro hall s' hs'
      obtain ⟨hstep, hrest⟩ := hall s' hs'
      have hstep' := (hP s a s' hs hs').mpr hstep
      exact ⟨hstep', (ih (hI s a s' hs hs' hstep')).mpr hrest⟩

end Exact

end Transition
