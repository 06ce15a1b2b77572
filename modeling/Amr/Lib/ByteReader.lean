/-
# Readers of a byte buffer

A C parser walks a buffer with an index that it never compares with the buffer's end. Its model
reads from what is left of the buffer and notes a read behind the end (`stray`) and a copy past
its destination (`spilled`). `Reads p bs v` says that `p` takes exactly the bytes `bs` off the
buffer, for the value `v`, and notes nothing: the law of a parser and the writer of its format. It
composes along the statements of the parser.
-/
import Amr.Lib.StateProgram

namespace ByteReader

variable {α β : Type}

/-- What is left of a buffer, and what has gone wrong in reading it. -/
structure Input where
  rest : List ℕ
  /-- a byte behind the end was read -/
  stray : Bool
  /-- a copy went past its destination -/
  spilled : Bool
  deriving DecidableEq, Repr

def Input.start (buf : List ℕ) : Input := { rest := buf, stray := false, spilled := false }

abbrev Reader (α : Type) := StateM Input α

/-- `buf[i++]`; a byte behind the end reads as 0 here. -/
def byte : Reader ℕ := fun i =>
  match i.rest with
  | [] => (0, { i with stray := true })
  | b :: rest => (b, { i with rest := rest })

/-- `memcpy` of the next `n` bytes to a destination of `room` bytes. -/
def copy (room n : ℕ) : Reader (List ℕ) := fun i =>
  (i.rest.take n,
    { rest := i.rest.drop n
      stray := i.stray || decide (i.rest.length < n)
      spilled := i.spilled || decide (room < n) })

/-- `p` for every index below `n`, in order. -/
def collect (p : ℕ → Reader α) : ℕ → Reader (List α)
  | 0 => pure []
  | n + 1 => do
    let vs ← collect p n
    let v ← p n
    pure (vs ++ [v])

/-- `p` takes `bs` off the buffer for the value `v`. -/
def Reads (p : Reader α) (bs : List ℕ) (v : α) : Prop :=
  ∀ i : Input, p.run { i with rest := bs ++ i.rest } = (v, i)

theorem Reads.pure (v : α) : Reads (Pure.pure v) [] v := fun _ => rfl

variable {p : Reader α} {f : α → Reader β}

theorem Reads.bind {bs cs : List ℕ} {v : α} {w : β}
    (hp : Reads p bs v) (hf : Reads (f v) cs w) : Reads (p >>= f) (bs ++ cs) w := by
  intro i
  have hfirst := hp { i with rest := cs ++ i.rest }
  rw [← List.append_assoc] at hfirst
  rw [StateT.run_bind, hfirst]
  exact hf i

variable {bs : List ℕ}

/-- A reader that ends with what another one reads. -/
theorem Reads.bind_last {v : α} {w : β}
    (hp : Reads p bs v) (hf : Reads (f v) [] w) : Reads (p >>= f) bs w := by
  have h := hp.bind hf
  rwa [List.append_nil] at h

/-- A reader that starts with one byte. -/
theorem Reads.byte_bind {f : ℕ → Reader β} {b : ℕ} {cs : List ℕ} {w : β}
    (hf : Reads (f b) cs w) : Reads (ByteReader.byte >>= f) (b :: cs) w :=
  (show Reads ByteReader.byte [b] b from fun _ => rfl).bind hf

theorem Reads.copy {room n : ℕ} (hn : bs.length = n) (hroom : n ≤ room) :
    Reads (ByteReader.copy room n) bs bs := by
  intro i
  subst hn
  simp [ByteReader.copy, StateT.run, not_lt.mpr hroom]

/-- A reader that copies, and does no more with the bytes than the rest of it does. -/
theorem Reads.copy_bind {f : List ℕ → Reader β} {bs cs : List ℕ} {room n : ℕ} {w : β}
    (hn : bs.length = n) (hroom : n ≤ room) (hf : Reads (f bs) cs w) :
    Reads (ByteReader.copy room n >>= f) (bs ++ cs) w :=
  (Reads.copy hn hroom).bind hf

/-! ### What a reader has read -/

def Input.Clean (i : Input) : Prop := i.stray = false ∧ i.spilled = false

instance (i : Input) : Decidable i.Clean := inferInstanceAs (Decidable (_ ∧ _))

/-- When nothing goes wrong in it, `p` takes bytes off the buffer that stand to its value as `R`
says. -/
def Gives (p : Reader α) (R : List ℕ → α → Prop) : Prop :=
  ∀ i : Input, (p.run i).2.Clean →
    i.Clean ∧ ∃ bs, i.rest = bs ++ (p.run i).2.rest ∧ R bs (p.run i).1

variable {R : List ℕ → α → Prop}

theorem Gives.pure {v : α} (h : R [] v) : Gives (Pure.pure v) R :=
  fun _ hi => ⟨hi, [], rfl, h⟩

theorem Gives.mono {R S : List ℕ → α → Prop} (h : Gives p R)
    (hRS : ∀ bs v, R bs v → S bs v) : Gives p S := by
  intro i hi
  obtain ⟨hclean, bs, hrest, hR⟩ := h i hi
  exact ⟨hclean, bs, hrest, hRS _ _ hR⟩

theorem Gives.bind {S : List ℕ → β → Prop} (hp : Gives p R)
    (hf : ∀ v, Gives (f v) fun cs w => ∀ bs, R bs v → S (bs ++ cs) w) : Gives (p >>= f) S := by
  intro i hi
  rw [StateT.run_bind] at hi ⊢
  obtain ⟨hfirst, cs, hrest', hS⟩ := hf _ _ hi
  obtain ⟨hclean, bs, hrest, hR⟩ := hp i hfirst
  exact ⟨hclean, bs ++ cs, by rw [hrest, hrest', List.append_assoc]; rfl, hS bs hR⟩

theorem Gives.byte_bind {f : ℕ → Reader β} {S : List ℕ → β → Prop}
    (hf : ∀ b, Gives (f b) fun cs w => S (b :: cs) w) : Gives (ByteReader.byte >>= f) S := by
  have hbyte : Gives ByteReader.byte fun bs b => bs = [b] := by
    intro i hi
    rcases hrest : i.rest with _ | ⟨b, rest⟩
    · simp [ByteReader.byte, StateT.run, hrest, Input.Clean] at hi
    · simp only [ByteReader.byte, StateT.run, hrest] at hi ⊢
      exact ⟨hi, [b], rfl, rfl⟩
  refine hbyte.bind fun b => (hf b).mono fun cs w h bs hbs => ?_
  rw [hbs]
  exact h

theorem Gives.copy_bind {f : List ℕ → Reader β} {room n : ℕ} {S : List ℕ → β → Prop}
    (hf : ∀ bs, Gives (f bs) fun cs w => bs.length = n → n ≤ room → S (bs ++ cs) w) :
    Gives (ByteReader.copy room n >>= f) S := by
  have hcopy : Gives (ByteReader.copy room n) fun bs v => bs = v ∧ v.length = n ∧ n ≤ room := by
    intro i hi
    simp only [ByteReader.copy, StateT.run, Input.Clean, Bool.or_eq_false_iff,
      decide_eq_false_iff_not, not_lt] at hi ⊢
    refine ⟨⟨hi.1.1, hi.2.1⟩, i.rest.take n, (List.take_append_drop n i.rest).symm, rfl, ?_, hi.2.2⟩
    rw [List.length_take]
    exact Nat.min_eq_left hi.1.2
  refine hcopy.bind fun v => (hf v).mono fun cs w h bs hbs => ?_
  obtain ⟨rfl, hlen, hroom⟩ := hbs
  exact h hlen hroom

/-- **Sequences.** Items that are each read from their bytes are read from these in a row. -/
theorem Gives.collect {p : ℕ → Reader α} {R : List ℕ → α → Prop} (hp : ∀ k, Gives (p k) R)
    (n : ℕ) :
    Gives (ByteReader.collect p n) fun bs vs =>
      ∃ bss : List (List ℕ), bs = bss.flatten ∧ vs.length = n ∧ List.Forall₂ R bss vs := by
  induction n with
  | zero => exact .pure ⟨[], rfl, rfl, .nil⟩
  | succ n ih =>
    refine ih.bind fun vs => (hp n).bind fun v => .pure fun cs hR bs hvs => ?_
    obtain ⟨bss, rfl, hlen, hall⟩ := hvs
    refine ⟨bss ++ [cs], by simp, by simp [hlen], ?_⟩
    exact List.rel_append hall (.cons hR .nil)

/-- A list of items, each read from its bytes. -/
theorem Reads.collect_list {enc : α → List ℕ} {l : List α}
    (h : ∀ v ∈ l, Reads p (enc v) v) :
    Reads (ByteReader.collect (fun _ => p) l.length) (l.flatMap enc) l := by
  induction l using List.reverseRecOn with
  | nil => exact Reads.pure []
  | append_singleton l v ih =>
    have hlast : Reads (p >>= fun w => Pure.pure (l ++ [w])) (enc v) (l ++ [v]) :=
      (h v (by simp)).bind_last (Reads.pure _)
    have hall : Reads (ByteReader.collect (fun _ => p) l.length >>= fun vs =>
        p >>= fun w => Pure.pure (vs ++ [w])) (l.flatMap enc ++ enc v) (l ++ [v]) :=
      (ih fun w hw => h w (by simp [hw])).bind hlast
    rw [List.length_append, List.flatMap_append]
    simpa [ByteReader.collect] using hall

/-- What a reader makes of a buffer that starts with its bytes. -/
theorem Reads.run_start {v : α} (h : Reads p bs v)
    (rest : List ℕ) : p.run (Input.start (bs ++ rest)) = (v, Input.start rest) :=
  h (Input.start rest)

end ByteReader
