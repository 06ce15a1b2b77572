/-
# Numerals of `strtol` and `strtoul`

White space, a sign, a prefix that the base allows, and the longest row of digits of the base.
-/
import Amr.Lib.Format

namespace Numeral

open Format (isSpace NoSpace NoDigit printDec digitValue)

/-! ### Digits of a base up to 36 -/

def digit (c : Char) : Option ℕ :=
  match digitValue c with
  | some v => some v
  | none =>
    if 'g' ≤ c ∧ c ≤ 'z' then some (c.toNat - 'a'.toNat + 10)
    else if 'G' ≤ c ∧ c ≤ 'Z' then some (c.toNat - 'A'.toNat + 10)
    else none

def isDigit (base : ℕ) (c : Char) : Bool := (digit c).any fun v => decide (v < base)

/-- The number that a row of digits stands for. -/
def ofDigits (base : ℕ) (s : List Char) : ℕ :=
  s.foldl (fun n c => n * base + (digit c).getD 0) 0

theorem digit_of_isDigit {base : ℕ} {c : Char} (h : Format.isDigit base c = true) :
    digit c = digitValue c := by
  unfold digit
  cases hv : digitValue c with
  | none => simp [Format.isDigit, hv] at h
  | some v => rfl

theorem isDigit_of_isDigit {base : ℕ} {c : Char} (h : Format.isDigit base c = true) :
    isDigit base c = true := by
  unfold isDigit
  rw [digit_of_isDigit h]
  exact h

theorem ofDigits_eq {base : ℕ} {s : List Char} (h : ∀ c ∈ s, Format.isDigit base c = true) :
    ofDigits base s = Format.ofDigits base s := by
  induction s using List.reverseRecOn with
  | nil => rfl
  | append_singleton s c ih =>
    rw [Format.ofDigits_append_single, ← ih fun d hd => h d (by simp [hd]),
      ← digit_of_isDigit (h c (by simp))]
    simp [ofDigits]

/-! ### Numerals -/

def sign : List Char → Bool × List Char
  | '-' :: s => (true, s)
  | '+' :: s => (false, s)
  | s => (false, s)

/-- The base of a numeral, and its digits: base 0 is told by the prefix, and `0x` is one only when a
digit follows it. -/
def resolve (base : ℕ) : List Char → ℕ × List Char
  | '0' :: x :: c :: s =>
    if (base = 0 ∨ base = 16) ∧ (x = 'x' ∨ x = 'X') ∧ isDigit 16 c = true then (16, c :: s)
    else (if base = 0 then 8 else base, '0' :: x :: c :: s)
  | '0' :: s => (if base = 0 then 8 else base, '0' :: s)
  | s => (if base = 0 then 10 else base, s)

/-- The sign, the magnitude and what follows, if there is a digit. -/
def scan (base : ℕ) (s : List Char) : Option (Bool × ℕ × List Char) :=
  let t := sign (s.dropWhile isSpace)
  let u := resolve base t.2
  let ds := u.2.takeWhile (isDigit u.1)
  if ds = [] then none else some (t.1, ofDigits u.1 ds, u.2.drop ds.length)

theorem resolve_of_ne {base : ℕ} (h : base ≠ 0) (h' : base ≠ 16) (s : List Char) :
    resolve base s = (base, s) := by
  unfold resolve
  split <;> simp [h, h']

/-- A row of digits of a base up to 16 is scanned whole where it ends. -/
theorem scan_digits {base b : ℕ} {neg : Bool} {s t ds rest : List Char} (hspace : NoSpace s)
    (hsign : sign s = (neg, t)) (hres : resolve base t = (b, ds ++ rest))
    (hds : ∀ c ∈ ds, Format.isDigit b c = true) (hne : ds ≠ [])
    (hrest : ∀ c ∈ rest.head?, isDigit b c = false) :
    scan base s = some (neg, Format.ofDigits b ds, rest) := by
  have htake : (ds ++ rest).takeWhile (isDigit b) = ds := by
    rw [List.takeWhile_append_of_pos fun c hc => isDigit_of_isDigit (hds c hc)]
    cases rest with
    | nil => simp
    | cons c u =>
      have hc : isDigit b c = false := hrest c rfl
      simp [hc]
  unfold scan
  rw [Format.dropWhile_isSpace hspace, hsign]
  simp only [hres, htake, if_neg hne, ofDigits_eq hds, List.drop_left]

theorem sign_digits {b : ℕ} {ds rest : List Char} (hds : ∀ c ∈ ds, Format.isDigit b c = true)
    (hne : ds ≠ []) : sign (ds ++ rest) = (false, ds ++ rest) := by
  obtain ⟨c, u, rfl⟩ := List.exists_cons_of_ne_nil hne
  obtain ⟨-, hminus, hplus, -⟩ := Format.isDigit_ne (hds c (by simp))
  unfold sign
  split
  · next h => exact absurd (List.cons.inj h).1 hminus
  · next h => exact absurd (List.cons.inj h).1 hplus
  · rfl

/-- **A printed decimal is scanned as itself** where it ends. -/
theorem scan_printDec (v : ℤ) {rest : List Char} (hrest : ∀ c ∈ rest.head?, isDigit 10 c = false) :
    scan 10 (printDec v ++ rest) = some (decide (v < 0), v.natAbs, rest) := by
  obtain ⟨hdigits, hvalue⟩ := Format.toDigits_spec (b := 10) (by decide) (by decide) v.natAbs
  have hne : Nat.toDigits 10 v.natAbs ≠ [] := Nat.toDigits_ne_nil
  have hres := fun s => resolve_of_ne (s := s) (by decide : (10 : ℕ) ≠ 0) (by decide)
  have hspace := Format.noSpace_printDec v rest
  unfold printDec at hspace ⊢
  split at hspace
  · next hneg =>
    rw [if_pos hneg, decide_eq_true hneg]
    rw [scan_digits hspace rfl (hres _) hdigits hne hrest, hvalue]
  · next hneg =>
    rw [if_neg hneg, decide_eq_false hneg]
    rw [scan_digits hspace (sign_digits hdigits hne) (hres _) hdigits hne hrest, hvalue]

end Numeral
