/-
# Preconditions and postconditions

`Triple P m Q` says of a program over a mutable state that from every state with `P` it leaves a
state, and returns a value, with `Q`. The rules follow the statements that the program is made of.
-/
import Amr.Lib.StateProgram

namespace StateProgram

variable {σ α β : Type} {P P' : σ → Prop} {Q Q' : α → σ → Prop} {R : β → σ → Prop}

/-- From a state with `P` the program `m` ends with `Q`. -/
def Triple (P : σ → Prop) (m : StateM σ α) (Q : α → σ → Prop) : Prop :=
  ∀ s, P s → Q (value m s) (exec m s)

theorem Triple.pure {a : α} (h : ∀ s, P s → Q a s) : Triple P (pure a) Q := h

theorem Triple.bind {m : StateM σ α} {f : α → StateM σ β} (hm : Triple P m Q)
    (hf : ∀ a, Triple (Q a) (f a) R) : Triple P (m >>= f) R :=
  fun s hs => hf _ _ (hm s hs)

theorem Triple.ite {c : Prop} [Decidable c] {m k : StateM σ α} (hm : c → Triple P m Q)
    (hk : ¬ c → Triple P k Q) : Triple P (if c then m else k) Q := by
  split_ifs with h
  · exact hm h
  · exact hk h

end StateProgram
