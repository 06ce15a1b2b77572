/-
# Paths along labelled links

Each kind of link leads from a node to at most one other. A path is the list of the kinds of link
that are followed from a root. When every link leads to a node of higher rank, no node is reached
from itself; when moreover no two links lead to the same node and none leads to the root, a node
that is reached is reached along one path only.
-/
import Mathlib

namespace LinkPaths

variable {ι μ : Type*} {go : μ → ι → Option ι} {root : ι}

/-- The node at the end of a path. -/
def follow (go : μ → ι → Option ι) : List μ → ι → Option ι
  | [], a => some a
  | w :: ws, a => (go w a).bind (follow go ws)

theorem follow_concat (ws : List μ) (w : μ) (a : ι) :
    follow go (ws ++ [w]) a = (follow go ws a).bind (go w) := by
  induction ws generalizing a with
  | nil => cases h : go w a <;> simp [follow, h]
  | cons v ws ih =>
    cases h : go v a with
    | none => simp [follow, h]
    | some b => simpa [follow, h] using ih b

/-- Some link leads from one node to the other. -/
def Link (go : μ → ι → Option ι) (a b : ι) : Prop := ∃ w, go w a = some b

/-- **Links that lead upwards have no cycle.** -/
theorem acyclic (rank : ι → ℕ) (hrank : ∀ w a b, go w a = some b → rank a < rank b) (a : ι) :
    ¬ Relation.TransGen (Link go) a a := by
  have hup : ∀ b, Relation.TransGen (Link go) a b → rank a < rank b := by
    intro b hb
    induction hb with
    | single h => exact h.elim fun w hw => hrank w _ _ hw
    | tail _ h ih => exact ih.trans (h.elim fun w hw => hrank w _ _ hw)
  exact fun h => lt_irrefl _ (hup a h)

/-- **A node is reached along one path only.** -/
theorem path_unique (hroot : ∀ w a, go w a ≠ some root)
    (hinj : ∀ w w' a a' b, go w a = some b → go w' a' = some b → w = w' ∧ a = a')
    (ws : List μ) {ws' : List μ} {b : ι} (h : follow go ws root = some b)
    (h' : follow go ws' root = some b) : ws = ws' := by
  induction ws using List.reverseRecOn generalizing ws' b with
  | nil =>
    obtain rfl : root = b := Option.some.inj h
    rcases List.eq_nil_or_concat' ws' with rfl | ⟨vs, v, rfl⟩
    · rfl
    · rw [follow_concat] at h'
      obtain ⟨a, -, ha⟩ := Option.bind_eq_some_iff.mp h'
      exact absurd ha (hroot v a)
  | append_singleton ws w ih =>
    rw [follow_concat] at h
    obtain ⟨a, hws, ha⟩ := Option.bind_eq_some_iff.mp h
    rcases List.eq_nil_or_concat' ws' with rfl | ⟨vs, v, rfl⟩
    · obtain rfl : root = b := Option.some.inj h'
      exact absurd ha (hroot w a)
    · rw [follow_concat] at h'
      obtain ⟨a', hvs, ha'⟩ := Option.bind_eq_some_iff.mp h'
      obtain ⟨rfl, rfl⟩ := hinj w v a a' b ha ha'
      rw [ih hws hvs]

/-- Every node that a lower one links to is reached from the root. -/
theorem exists_path (rank : ι → ℕ) {S : ι → Prop}
    (hpred : ∀ b, S b → b ≠ root → ∃ w a, S a ∧ rank a < rank b ∧ go w a = some b) (b : ι)
    (hb : S b) : ∃ ws, follow go ws root = some b := by
  induction hn : rank b using Nat.strong_induction_on generalizing b with
  | _ n ih =>
    by_cases hroot : b = root
    · exact ⟨[], congrArg some hroot.symm⟩
    · obtain ⟨w, a, ha, hlt, hgo⟩ := hpred b hb hroot
      obtain ⟨ws, hws⟩ := ih (rank a) (hn ▸ hlt) a ha rfl
      exact ⟨ws ++ [w], by rw [follow_concat, hws, Option.bind_some, hgo]⟩

/-- What links keep holds of every node that is reached. -/
theorem of_follow {S : ι → Prop} (hroot : S root) (hgo : ∀ w a b, S a → go w a = some b → S b)
    (ws : List μ) {b : ι} (h : follow go ws root = some b) : S b := by
  induction ws using List.reverseRecOn generalizing b with
  | nil => exact Option.some.inj h ▸ hroot
  | append_singleton ws w ih =>
    rw [follow_concat] at h
    obtain ⟨a, hws, ha⟩ := Option.bind_eq_some_iff.mp h
    exact hgo w a b (ih hws) ha

end LinkPaths
