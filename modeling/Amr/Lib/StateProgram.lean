/-
# Programs over a mutable state

A C function that works on a global record is a `StateM` program over that record. What such a
program does to the state is stated with a relation between the state before and the state after,
`Within R m`, and derived from the statements the program is made of: a reflexive and transitive
relation passes through sequencing, branching and loops. The two relations used most are "this
part of the state is the same" (`Same`) and "this property is kept" (`Keeps`). The class is
resolved along the syntax of the program, so a fact about the primitive operations is a fact about
every program built from them.
-/
import Mathlib

namespace StateProgram

variable {σ τ α β : Type}

def exec (m : StateM σ α) (s : σ) : σ := (m.run s).2

def value (m : StateM σ α) (s : σ) : α := (m.run s).1

@[simp] theorem exec_pure (a : α) (s : σ) : exec (pure a : StateM σ α) s = s := rfl

@[simp] theorem value_pure (a : α) (s : σ) : value (pure a : StateM σ α) s = a := rfl

variable (m : StateM σ α) (f : α → StateM σ β) (s : σ)

@[simp] theorem exec_bind :
    exec (m >>= f) s = exec (f (value m s)) (exec m s) := rfl

@[simp] theorem value_bind :
    value (m >>= f) s = value (f (value m s)) (exec m s) := rfl

@[simp] theorem exec_get : exec (get : StateM σ σ) s = s := rfl

@[simp] theorem value_get : value (get : StateM σ σ) s = s := rfl

@[simp] theorem exec_modify (f : σ → σ) (s : σ) : exec (modify f : StateM σ Unit) s = f s := rfl

/-- Reading the state passes it on, to the decisions of the rest of the program too. -/
theorem exec_get_bind (f : σ → StateM σ β) (s : σ) :
    exec (get >>= f) s = exec (f s) s := rfl

/-- The value and the state a program leaves after a read of the state. -/
theorem run_get_bind (f : σ → StateM σ β) (s : σ) : (get >>= f).run s = (f s).run s := rfl

/-- The value and the state a program leaves that follows another. -/
theorem run_bind :
    (m >>= f).run s = (f (value m s)).run (exec m s) := rfl

theorem exec_eq_of_run {m : StateM σ α} {n : StateM σ α} {s t : σ} (h : m.run s = n.run t) :
    exec m s = exec n t := congrArg Prod.snd h

theorem value_eq_of_run {m : StateM σ α} {n : StateM σ α} {s t : σ} (h : m.run s = n.run t) :
    value m s = value n t := congrArg Prod.fst h

theorem exec_ite (c : Prop) [Decidable c] (m n : StateM σ α) (s : σ) :
    exec (if c then m else n) s = if c then exec m s else exec n s := by
  split <;> rfl

theorem value_ite (c : Prop) [Decidable c] (m n : StateM σ α) (s : σ) :
    value (if c then m else n) s = if c then value m s else value n s := by
  split <;> rfl

/-! ### Loops -/

/-- `body` at most `n` times, until it answers `false`: a counting loop with `break`. -/
def forBreak (body : StateM σ Bool) : ℕ → StateM σ Unit
  | 0 => pure ()
  | n + 1 => do
    let go ← body
    if go = true then forBreak body n else pure ()

/-- `body` exactly `n` times. -/
def times (body : StateM σ Unit) : ℕ → StateM σ Unit
  | 0 => pure ()
  | n + 1 => do
    body
    times body n

/-- `body` for every element of a list, in order. -/
def forEach (body : α → StateM σ Unit) : List α → StateM σ Unit
  | [] => pure ()
  | a :: as => do
    body a
    forEach body as

/-! ### What a program does to the state -/

/-- Every run of `m` takes a state to one related to it. -/
class Within (R : σ → σ → Prop) (m : StateM σ α) : Prop where
  /-- The state before and the state after are related. -/
  rel : ∀ s, R s (exec m s)

section Rules

variable {R : σ → σ → Prop}

instance Within.pure [Std.Refl R] (a : α) : Within R (pure a : StateM σ α) :=
  ⟨fun s => Std.Refl.refl s⟩

instance Within.get [Std.Refl R] : Within R (get : StateM σ σ) :=
  ⟨fun s => Std.Refl.refl s⟩

instance Within.bind [IsTrans σ R] (m : StateM σ α) (f : α → StateM σ β) [hm : Within R m]
    [hf : ∀ a, Within R (f a)] : Within R (m >>= f) :=
  ⟨fun s => IsTrans.trans _ _ _ (hm.rel s) ((hf _).rel _)⟩

/-- The rule of `Within.bind` where the parts are proved one by one. -/
theorem Within.seq [IsTrans σ R] {m : StateM σ α} {f : α → StateM σ β} (hm : Within R m)
    (hf : ∀ a, Within R (f a)) : Within R (m >>= f) := Within.bind m f

instance Within.ite (c : Prop) [Decidable c] (m n : StateM σ α) [hm : Within R m]
    [hn : Within R n] : Within R (if c then m else n) := by
  split
  · exact hm
  · exact hn

instance Within.forBreak [Std.Refl R] [IsTrans σ R] (body : StateM σ Bool) [Within R body] :
    ∀ n, Within R (forBreak body n)
  | 0 => inferInstanceAs (Within R (Pure.pure ()))
  | n + 1 =>
    have := Within.forBreak body n
    inferInstanceAs (Within R (body >>= fun go =>
      if go = true then StateProgram.forBreak body n else Pure.pure ()))

instance Within.times [Std.Refl R] [IsTrans σ R] (body : StateM σ Unit) [Within R body] :
    ∀ n, Within R (times body n)
  | 0 => inferInstanceAs (Within R (Pure.pure ()))
  | n + 1 =>
    have := Within.times body n
    inferInstanceAs (Within R (body >>= fun _ => StateProgram.times body n))

instance Within.forEach [Std.Refl R] [IsTrans σ R] (body : α → StateM σ Unit)
    [∀ a, Within R (body a)] : ∀ as, Within R (forEach body as)
  | [] => inferInstanceAs (Within R (Pure.pure ()))
  | a :: as =>
    have := Within.forEach body as
    inferInstanceAs (Within R (body a >>= fun _ => StateProgram.forEach body as))

end Rules

/-- The part `π` of the state is the same after as before. -/
def Same (π : σ → τ) (s s' : σ) : Prop := π s' = π s

instance (π : σ → τ) : Std.Refl (Same π) := ⟨fun _ => rfl⟩

instance (π : σ → τ) : IsTrans σ (Same π) := ⟨fun _ _ _ h h' => Eq.trans h' h⟩

/-- The property `I` is kept. -/
def Keeps (I : σ → Prop) (s s' : σ) : Prop := I s → I s'

instance (I : σ → Prop) : Std.Refl (Keeps I) := ⟨fun _ h => h⟩

instance (I : σ → Prop) : IsTrans σ (Keeps I) := ⟨fun _ _ _ h h' hs => h' (h hs)⟩

/-- A program that leaves the part `π` alone. -/
theorem same (π : σ → τ) (m : StateM σ α) [hm : Within (Same π) m] (s : σ) :
    π (exec m s) = π s := hm.rel s

end StateProgram
