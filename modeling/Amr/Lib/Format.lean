/-
# Formatted text: `sprintf`, `sscanf` and the lines of a file

A format is a list of directives. Printing a list of numbers under a format and scanning the result
under the same format gives the numbers back, provided that each number fits its directive and that
what follows an unbounded decimal cannot be mistaken for one of its digits. A file is read line by
line; a line ends with its newline character.
-/
import Mathlib

namespace Format

/-! ### Digits -/

/-- The value of a hexadecimal digit. -/
def digitValue (c : Char) : Option ℕ :=
  if '0' ≤ c ∧ c ≤ '9' then some (c.toNat - '0'.toNat)
  else if 'a' ≤ c ∧ c ≤ 'f' then some (c.toNat - 'a'.toNat + 10)
  else if 'A' ≤ c ∧ c ≤ 'F' then some (c.toNat - 'A'.toNat + 10)
  else none

def isDigit (base : ℕ) (c : Char) : Bool := (digitValue c).any fun v => decide (v < base)

/-- The number that a row of digits stands for. -/
def ofDigits (base : ℕ) (s : List Char) : ℕ :=
  s.foldl (fun n c => n * base + (digitValue c).getD 0) 0

theorem digitValue_digitChar {v : ℕ} (hv : v < 16) : digitValue v.digitChar = some v := by
  interval_cases v <;> decide

@[simp] theorem ofDigits_nil (base : ℕ) : ofDigits base [] = 0 := rfl

theorem ofDigits_append_single (base : ℕ) (s : List Char) (c : Char) :
    ofDigits base (s ++ [c]) = ofDigits base s * base + (digitValue c).getD 0 := by
  simp [ofDigits, List.foldl_append]

theorem ofDigits_append (base : ℕ) (s t : List Char) :
    ofDigits base (s ++ t) = ofDigits base s * base ^ t.length + ofDigits base t := by
  induction t using List.reverseRecOn with
  | nil => simp
  | append_singleton t c ih =>
    rw [← List.append_assoc, ofDigits_append_single, ih, ofDigits_append_single,
      List.length_append, List.length_singleton, pow_succ]
    ring

/-- A row of digits stands for less than the power of the base that its length gives. -/
theorem ofDigits_lt {base : ℕ} {s : List Char} (hs : ∀ c ∈ s, isDigit base c = true) :
    ofDigits base s < base ^ s.length := by
  induction s using List.reverseRecOn with
  | nil => simp
  | append_singleton s c ih =>
    have hc : (digitValue c).getD 0 < base := by
      have hdigit := hs c (by simp)
      cases hv : digitValue c with
      | none => simp [isDigit, hv] at hdigit
      | some v => simpa [isDigit, hv] using hdigit
    have hlt := ih fun d hd => hs d (by simp [hd])
    rw [ofDigits_append_single, List.length_append, List.length_singleton, pow_succ]
    nlinarith

theorem ofDigits_zero_cons (base : ℕ) (s : List Char) :
    ofDigits base ('0' :: s) = ofDigits base s := by
  have hzero : digitValue '0' = some 0 := by decide
  simp [ofDigits, hzero]

/-- The digits of a number are digits, and stand for the number. -/
theorem toDigits_spec {b : ℕ} (hb : 1 < b) (hb' : b ≤ 16) (n : ℕ) :
    (∀ c ∈ Nat.toDigits b n, isDigit b c = true) ∧
      ofDigits b (Nat.toDigits b n) = n := by
  induction n using Nat.strongRecOn with
  | ind n ih =>
    rcases Nat.lt_or_ge n b with hn | hn
    · rw [Nat.toDigits_of_lt_base hn]
      have hv := digitValue_digitChar (lt_of_lt_of_le hn hb')
      refine ⟨fun c hc => ?_, ?_⟩
      · obtain rfl := List.mem_singleton.mp hc
        simpa [isDigit, hv] using hn
      · simp [ofDigits, hv]
    · rw [Nat.toDigits_of_base_le hb hn]
      have hmod : n % b < b := Nat.mod_lt _ (by omega)
      have hv := digitValue_digitChar (lt_of_lt_of_le hmod hb')
      obtain ⟨hdigits, hvalue⟩ := ih (n / b) (Nat.div_lt_self (by omega) hb)
      refine ⟨fun c hc => ?_, ?_⟩
      · rcases List.mem_append.mp hc with hc | hc
        · exact hdigits c hc
        · obtain rfl := List.mem_singleton.mp hc
          simpa [isDigit, hv] using hmod
      · rw [ofDigits_append_single, hvalue, hv]
        exact Nat.div_add_mod' n b

/-! ### Printing and scanning one number -/

/-- `%d`. -/
def printDec (n : ℤ) : List Char :=
  if n < 0 then '-' :: Nat.toDigits 10 n.natAbs else Nat.toDigits 10 n.natAbs

/-- `%0<width>x`. -/
def printHex (width n : ℕ) : List Char := (Nat.toDigits 16 n).leftpad width '0'

/-- `isspace` in the C locale. -/
def isSpace (c : Char) : Bool := c = ' ' || ('\t' ≤ c && c ≤ '\r')

/-- The digits that a conversion of at most `width` characters takes. -/
def scanDigits (base width : ℕ) (s : List Char) : List Char :=
  (s.take width).takeWhile (isDigit base)

/-- A number after its sign. A hexadecimal one may start with `0x`. -/
def scanMagnitude (base width : ℕ) (s : List Char) : Option (ℕ × List Char) :=
  if base = 16 ∧ 2 ≤ width ∧ (s.take 2 = ['0', 'x'] ∨ s.take 2 = ['0', 'X']) then
    let ds := scanDigits base (width - 2) (s.drop 2)
    some (ofDigits base ds, (s.drop 2).drop ds.length)
  else
    let ds := scanDigits base width s
    if ds = [] then none else some (ofDigits base ds, s.drop ds.length)

/-- White space, an optional sign and digits. -/
def scanInteger (base width : ℕ) (s : List Char) : Option (ℤ × List Char) :=
  match s.dropWhile isSpace with
  | '-' :: t => (scanMagnitude base (width - 1) t).map fun r => (-(r.1 : ℤ), r.2)
  | '+' :: t => (scanMagnitude base (width - 1) t).map fun r => ((r.1 : ℤ), r.2)
  | t => (scanMagnitude base width t).map fun r => ((r.1 : ℤ), r.2)

/-- The `int` that a conversion stores: a `long`, saturated as `strtol` does, then truncated. -/
def toInt (v : ℤ) : ℤ := Int.bmod (max (-(2 ^ 63)) (min v (2 ^ 63 - 1))) (2 ^ 32)

/-- The numbers of the C type `int`. -/
def InInt (v : ℤ) : Prop := -(2 ^ 31) ≤ v ∧ v < 2 ^ 31

instance (v : ℤ) : Decidable (InInt v) := inferInstanceAs (Decidable (_ ∧ _))

theorem inInt_natCast {n : ℕ} (hn : n < 2 ^ 31) : InInt (n : ℤ) := by
  unfold InInt
  constructor <;> omega

theorem toInt_of_inInt {v : ℤ} (hv : InInt v) : toInt v = v := by
  obtain ⟨hlo, hhi⟩ := hv
  unfold toInt
  rw [min_eq_left (by omega), max_eq_right (by omega)]
  exact Int.bmod_eq_of_le (by omega) (by omega)

/-- The text does not start with a digit of the base. -/
def NoDigit (base : ℕ) (s : List Char) : Prop := ∀ c ∈ s.head?, isDigit base c = false

/-- The text does not start with white space. -/
def NoSpace (s : List Char) : Prop := ∀ c ∈ s.head?, isSpace c = false

theorem noDigit_cons {base : ℕ} {c : Char} (hc : isDigit base c = false) (s : List Char) :
    NoDigit base (c :: s) := by
  intro d hd
  obtain rfl : c = d := Option.some.inj hd
  exact hc

theorem dropWhile_isSpace {s : List Char} (hs : NoSpace s) : s.dropWhile isSpace = s := by
  cases s with
  | nil => rfl
  | cons c t =>
    have hc : isSpace c = false := hs c rfl
    simp [hc]

theorem takeWhile_digits {base : ℕ} {ds rest : List Char}
    (hds : ∀ c ∈ ds, isDigit base c = true) (hrest : NoDigit base rest) :
    (ds ++ rest).takeWhile (isDigit base) = ds := by
  rw [List.takeWhile_append_of_pos hds]
  cases rest with
  | nil => simp
  | cons c t =>
    have hc : isDigit base c = false := hrest c rfl
    simp [hc]

/-- A digit is neither white space nor a sign nor the second letter of a hexadecimal prefix. -/
theorem isDigit_ne {b : ℕ} {c : Char} (hc : isDigit b c = true) :
    isSpace c = false ∧ c ≠ '-' ∧ c ≠ '+' ∧ c ≠ 'x' ∧ c ≠ 'X' := by
  have hv : (digitValue c).isSome = true := by
    cases hd : digitValue c with
    | none => simp [isDigit, hd] at hc
    | some v => rfl
  refine ⟨?_, ?_, ?_, ?_, ?_⟩
  · by_contra hspace
    rcases Classical.em (c = ' ') with rfl | hblank
    · exact absurd hv (by decide)
    · have hhi : '\t' ≤ c ∧ c ≤ '\r' := by simpa [isSpace, hblank] using hspace
      have hhi' : c.toNat ≤ 13 := hhi.2
      have h0 : ¬ '0' ≤ c := fun h => by
        have h' : 48 ≤ c.toNat := h
        omega
      have ha : ¬ 'a' ≤ c := fun h => by
        have h' : 97 ≤ c.toNat := h
        omega
      have hA : ¬ 'A' ≤ c := fun h => by
        have h' : 65 ≤ c.toNat := h
        omega
      simp [digitValue, h0, ha, hA] at hv
  all_goals
    rintro rfl
    exact absurd hv (by decide)

/-- A row of digits is scanned whole when it fits the width and ends there. -/
theorem scanMagnitude_digits {base width : ℕ} {ds rest : List Char}
    (hds : ∀ c ∈ ds, isDigit base c = true) (hne : ds ≠ []) (hlen : ds.length ≤ width)
    (hend : ds.length = width ∨ NoDigit base rest) (hx : base = 16 → ds.length = 1 → width = 1) :
    scanMagnitude base width (ds ++ rest) = some (ofDigits base ds, rest) := by
  have hprefix : ¬ (base = 16 ∧ 2 ≤ width ∧
      ((ds ++ rest).take 2 = ['0', 'x'] ∨ (ds ++ rest).take 2 = ['0', 'X'])) := by
    rintro ⟨hbase, hwidth, htake⟩
    obtain ⟨a, b, t, rfl⟩ : ∃ a b t, ds = a :: b :: t := by
      match ds, hne, hx with
      | [a], _, hx => exact absurd (hx hbase rfl) (by omega)
      | a :: b :: t, _, _ => exact ⟨a, b, t, rfl⟩
    obtain ⟨-, -, -, hbx, hbX⟩ := isDigit_ne (hds b (by simp))
    rcases htake with htake | htake
    · exact hbx (by simpa using (List.cons.inj (List.cons.inj htake).2).1)
    · exact hbX (by simpa using (List.cons.inj (List.cons.inj htake).2).1)
  have hscan : scanDigits base width (ds ++ rest) = ds := by
    unfold scanDigits
    rw [List.take_append, List.take_of_length_le hlen]
    refine takeWhile_digits hds ?_
    rcases hend with heq | hno
    · rw [heq, Nat.sub_self, List.take_zero]
      intro c hc
      cases hc
    · intro c hc
      refine hno c ?_
      cases hk : width - ds.length with
      | zero => rw [hk] at hc; cases hc
      | succ k =>
        rw [hk] at hc
        cases rest with
        | nil => cases hc
        | cons d t => simpa using hc
  unfold scanMagnitude
  rw [if_neg hprefix]
  simp [hscan, hne]

/-- A number without a sign is scanned as its digits are. -/
theorem scanInteger_digits {base width : ℕ} {ds rest : List Char}
    (hds : ∀ c ∈ ds, isDigit base c = true) (hne : ds ≠ []) (hlen : ds.length ≤ width)
    (hend : ds.length = width ∨ NoDigit base rest) (hx : base = 16 → ds.length = 1 → width = 1) :
    scanInteger base width (ds ++ rest) = some ((ofDigits base ds : ℤ), rest) := by
  obtain ⟨c, t, rfl⟩ := List.exists_cons_of_ne_nil hne
  obtain ⟨hspace, hminus, hplus, -, -⟩ := isDigit_ne (hds c (by simp))
  have hdrop : ((c :: t) ++ rest).dropWhile isSpace = (c :: t) ++ rest :=
    dropWhile_isSpace fun d hd => by
      obtain rfl : c = d := by simpa using hd
      exact hspace
  unfold scanInteger
  rw [hdrop]
  split
  · next s h => exact absurd (List.cons.inj h).1 hminus
  · next s h => exact absurd (List.cons.inj h).1 hplus
  · rw [scanMagnitude_digits hds hne hlen hend hx]
    rfl

/-- A printed decimal starts with a character that is not white space. -/
theorem noSpace_printDec (n : ℤ) (rest : List Char) : NoSpace (printDec n ++ rest) := by
  unfold printDec
  intro c hc
  split at hc
  · obtain rfl : '-' = c := by simpa using hc
    decide
  · obtain ⟨d, t, hdt⟩ := List.exists_cons_of_ne_nil (Nat.toDigits_ne_nil (n := n.natAbs) (b := 10))
    rw [hdt] at hc
    obtain rfl : d = c := by simpa using hc
    refine (isDigit_ne (b := 10) ?_).1
    exact (toDigits_spec (by decide) (by decide) n.natAbs).1 d (by rw [hdt]; simp)

/-- A printed decimal holds its sign and digits only. -/
theorem not_mem_printDec {c : Char} (hc : isDigit 10 c = false) (hsign : c ≠ '-') (n : ℤ) :
    c ∉ printDec n := by
  have hdigits : c ∉ Nat.toDigits 10 n.natAbs := fun h => by
    have hdigit := (toDigits_spec (b := 10) (by decide) (by decide) n.natAbs).1 _ h
    simp [hc] at hdigit
  unfold printDec
  split <;> simp [hdigits, hsign]

/-- A printed hexadecimal number holds digits only. -/
theorem not_mem_printHex {c : Char} (hc : isDigit 16 c = false) (w n : ℕ) :
    c ∉ printHex w n := by
  intro h
  rcases List.mem_append.mp h with h | h
  · rw [List.eq_of_mem_replicate h] at hc
    exact absurd hc (by decide)
  · have hdigit := (toDigits_spec (b := 16) (by decide) (by decide) n).1 _ h
    simp [hc] at hdigit

/-- **`%d` reads what `%d` wrote** when no digit follows. -/
theorem scanInteger_printDec (n : ℤ) {rest : List Char} (hrest : NoDigit 10 rest) :
    scanInteger 10 (printDec n ++ rest).length (printDec n ++ rest) = some (n, rest) := by
  obtain ⟨hdigits, hvalue⟩ := toDigits_spec (b := 10) (by decide) (by decide) n.natAbs
  have hne : Nat.toDigits 10 n.natAbs ≠ [] := Nat.toDigits_ne_nil
  have hx : (10 : ℕ) = 16 → (Nat.toDigits 10 n.natAbs).length = 1 →
      ∀ w : ℕ, w = 1 := fun h => absurd h (by decide)
  unfold printDec
  split
  · next hneg =>
    have hdrop : ∀ t : List Char, ('-' :: t).dropWhile isSpace = '-' :: t := fun t =>
      dropWhile_isSpace fun d hd => by
        obtain rfl : '-' = d := by simpa using hd
        decide
    unfold scanInteger
    rw [List.cons_append, hdrop]
    simp only [List.length_cons, Nat.add_sub_cancel]
    rw [scanMagnitude_digits hdigits hne (by simp) (.inr hrest) fun h hl => hx h hl _, hvalue]
    simp only [Option.map_some, Option.some.injEq, Prod.mk.injEq, and_true]
    omega
  · next hneg =>
    rw [scanInteger_digits hdigits hne (by simp) (.inr hrest) fun h hl => hx h hl _, hvalue]
    simp only [Option.some.injEq, Prod.mk.injEq, and_true]
    omega

theorem length_printHex {w n : ℕ} (hw : 0 < w) (hn : n < 16 ^ w) : (printHex w n).length = w := by
  have hlen := (Nat.length_toDigits_le_iff (b := 16) (by decide) hw).mpr hn
  simp only [printHex, List.leftpad, List.length_append, List.length_replicate]
  omega

/-- **`%<width>x` reads what `%0<width>x` wrote**, whatever follows. -/
theorem scanInteger_printHex {w n : ℕ} (hw : 0 < w) (hn : n < 16 ^ w) (rest : List Char) :
    scanInteger 16 w (printHex w n ++ rest) = some ((n : ℤ), rest) := by
  obtain ⟨hdigits, hvalue⟩ := toDigits_spec (b := 16) (by decide) (by decide) n
  have hlen := length_printHex hw hn
  have hall : ∀ c ∈ printHex w n, isDigit 16 c = true := by
    intro c hc
    rcases List.mem_append.mp hc with hc | hc
    · obtain rfl := List.eq_of_mem_replicate hc
      decide
    · exact hdigits c hc
  have hpad : ∀ k, ofDigits 16 (List.replicate k '0' ++ Nat.toDigits 16 n) = n := by
    intro k
    induction k with
    | zero => exact hvalue
    | succ k ih => rw [List.replicate_succ, List.cons_append, ofDigits_zero_cons, ih]
  have hne : printHex w n ≠ [] := fun h => by
    rw [h] at hlen
    exact absurd hlen (by simp; omega)
  rw [scanInteger_digits hall hne hlen.le (.inl hlen) fun _ h => hlen.symm.trans h]
  congr 2
  exact congrArg Nat.cast (hpad _)

/-! ### Limited conversions -/

theorem scanDigits_eq (base width : ℕ) (s : List Char) :
    scanDigits base width s = (s.takeWhile (isDigit base)).take width := by
  induction s generalizing width with
  | nil => simp [scanDigits]
  | cons c s ih =>
    cases width with
    | zero => simp [scanDigits]
    | succ width =>
      have htail := ih width
      unfold scanDigits at htail ⊢
      rw [List.take_succ_cons, List.takeWhile_cons, List.takeWhile_cons]
      split <;> simp [htail]

theorem isDigit_scanDigits (base width : ℕ) (s : List Char) :
    ∀ c ∈ scanDigits base width s, isDigit base c = true :=
  fun _ hc => List.mem_takeWhile_imp hc

/-- What a limited conversion takes is the start of the numeral, and all of it when the text goes on
with something else. -/
theorem scanDigits_part (base width : ℕ) {W : ℕ} {s : List Char} (hW : s.length ≤ W) :
    ∃ more, scanDigits base W s = scanDigits base width s ++ more ∧
      (NoDigit base (s.drop (scanDigits base width s).length) → more = []) := by
  have hwhole : scanDigits base W s = s.takeWhile (isDigit base) := by
    rw [scanDigits_eq, List.take_of_length_le]
    exact (List.takeWhile_sublist _).length_le.trans hW
  refine ⟨(s.takeWhile (isDigit base)).drop width, ?_, fun hno => ?_⟩
  · rw [hwhole, scanDigits_eq, List.take_append_drop]
  · rw [scanDigits_eq] at hno
    set ds := s.takeWhile (isDigit base) with hds
    obtain ⟨rest, hrest⟩ : ∃ rest, s = ds ++ rest := ⟨_, (List.takeWhile_append_dropWhile ..).symm⟩
    by_contra hne
    obtain ⟨c, u, hcu⟩ := List.exists_cons_of_ne_nil hne
    have hlt : width < ds.length := by
      by_contra hge
      rw [List.drop_of_length_le (by omega)] at hne
      exact hne rfl
    have hhead : s.drop (ds.take width).length = c :: (u ++ rest) := by
      rw [List.length_take, min_eq_left hlt.le]
      conv_lhs => rw [hrest]
      rw [List.drop_append_of_le_length hlt.le, hcu, List.cons_append]
    have hfalse := hno c (by rw [hhead]; rfl)
    have hmem : c ∈ ds := List.mem_of_mem_drop (by rw [hcu]; simp)
    rw [List.mem_takeWhile_imp hmem] at hfalse
    cases hfalse

/-- A limited conversion of a magnitude against the whole numeral. -/
theorem scanMagnitude_part {width W n : ℕ} {s t : List Char} (hW : s.length ≤ W)
    (h : scanMagnitude 16 width s = some (n, t)) :
    n < 16 ^ width ∧ ∃ n' t', scanMagnitude 16 W s = some (n', t') ∧ n ≤ n' ∧
      ∀ c u, t = c :: u → isDigit 16 c = false → c ≠ 'x' → c ≠ 'X' → n' = n ∧ t' = t := by
  have hpart : ∀ (w v : ℕ) (s : List Char), s.length ≤ v →
      ofDigits 16 (scanDigits 16 w s) < 16 ^ w ∧
        ofDigits 16 (scanDigits 16 w s) ≤ ofDigits 16 (scanDigits 16 v s) ∧
        ∀ c u, s.drop (scanDigits 16 w s).length = c :: u → isDigit 16 c = false →
          scanDigits 16 v s = scanDigits 16 w s := by
    intro w v s hv
    obtain ⟨more, hmore, hend⟩ := scanDigits_part 16 w hv
    have hlt := ofDigits_lt (isDigit_scanDigits 16 w s)
    refine ⟨hlt.trans_le (Nat.pow_le_pow_right (by decide) ?_), ?_, fun c u hcu hc => ?_⟩
    · rw [scanDigits_eq]
      exact List.length_take_le _ _
    · rw [hmore, ofDigits_append]
      exact (Nat.le_mul_of_pos_right _ (by positivity)).trans (Nat.le_add_right _ _)
    · rw [hmore, hend (by rw [hcu]; exact noDigit_cons hc u), List.append_nil]
  unfold scanMagnitude at h ⊢
  by_cases hx : s.take 2 = ['0', 'x'] ∨ s.take 2 = ['0', 'X']
  · have hlen : 2 ≤ s.length := by
      have htake : (s.take 2).length = 2 := by rcases hx with hx | hx <;> rw [hx] <;> rfl
      rw [List.length_take] at htake
      omega
    rw [if_pos ⟨rfl, hlen.trans hW, hx⟩]
    by_cases hw : 2 ≤ width
    · rw [if_pos ⟨rfl, hw, hx⟩] at h
      obtain ⟨rfl, rfl⟩ := Prod.mk.inj (Option.some.inj h)
      obtain ⟨hlt, hle, hsame⟩ := hpart (width - 2) (W - 2) (s.drop 2) (by simp; omega)
      refine ⟨hlt.trans_le (Nat.pow_le_pow_right (by decide) (by omega)), _, _, rfl, hle,
        fun c u hcu hc _ _ => ?_⟩
      rw [hsame c u hcu hc]
      exact ⟨rfl, rfl⟩
    · -- only the zero of the prefix is taken
      rw [if_neg fun hp => hw hp.2.1] at h
      obtain ⟨u, x, hs, hxX⟩ : ∃ u x, s = '0' :: x :: u ∧ (x = 'x' ∨ x = 'X') := by
        match s, hlen with
        | a :: b :: u, _ => rcases hx with hx | hx <;> cases hx <;> simp
      have hdigit : isDigit 16 '0' = true := by decide
      interval_cases width
      · simp [scanDigits] at h
      · subst hs
        simp only [scanDigits, List.take_succ_cons, List.take_zero, List.takeWhile_cons, hdigit,
          if_true, List.takeWhile_nil, List.cons_ne_nil, if_false, List.length_cons,
          List.length_nil, List.drop_succ_cons, List.drop_zero, Option.some.injEq,
          Prod.mk.injEq] at h
        obtain ⟨rfl, rfl⟩ := h
        refine ⟨by decide, _, _, rfl, (show 0 ≤ _ from Nat.zero_le _), fun c u hcu _ hx' hX' => ?_⟩
        obtain ⟨rfl, -⟩ := List.cons.inj hcu
        exact absurd hxX (not_or.mpr ⟨hx', hX'⟩)
  · rw [if_neg fun hp => hx hp.2.2] at h ⊢
    obtain ⟨hlt, hle, hsame⟩ := hpart width W s hW
    obtain ⟨more, hmore, -⟩ := scanDigits_part 16 width hW
    simp only at h
    split_ifs at h with hnil
    obtain ⟨rfl, rfl⟩ := Prod.mk.inj (Option.some.inj h)
    have hne : scanDigits 16 W s ≠ [] := fun hW' =>
      hnil (List.append_eq_nil_iff.mp (hmore.symm.trans hW')).1
    refine ⟨hlt, _, _, if_neg hne, hle, fun c u hcu hc _ _ => ?_⟩
    rw [hsame c u hcu hc]
    exact ⟨rfl, rfl⟩
/-- A number after its blanks is a sign and a magnitude. -/
theorem scanInteger_sign (s : List Char) : ∃ (sign : ℤ) (k : ℕ) (u : List Char),
    (sign = 1 ∨ sign = -1) ∧ u.length ≤ s.length - k ∧ ∀ base width, scanInteger base width s =
      (scanMagnitude base (width - k) u).map fun r => (sign * r.1, r.2) := by
  have hdrop : (s.dropWhile isSpace).length ≤ s.length := (List.dropWhile_sublist _).length_le
  unfold scanInteger
  split
  · next u hu =>
    rw [hu, List.length_cons] at hdrop
    exact ⟨-1, 1, u, .inr rfl, by omega, fun _ _ => by simp only [neg_one_mul]⟩
  · next u hu =>
    rw [hu, List.length_cons] at hdrop
    exact ⟨1, 1, u, .inl rfl, by omega, fun _ _ => by simp only [one_mul]⟩
  · exact ⟨1, 0, s.dropWhile isSpace, .inl rfl, hdrop, fun _ _ => by
      simp only [one_mul, Nat.sub_zero]⟩

/-- A number that one conversion reads and one that another reads where it stands: the second has
the same sign, and is not smaller. -/
def Longer (v v' : ℤ) : Prop := (v < 0 → v' < 0) ∧ (0 < v → v ≤ v')

/-- **A limited conversion against the whole number**: its value is bounded by its width, the number
itself is longer, and the same when the text goes on with a character that is no part of one. -/
theorem scanInteger_part {width : ℕ} {v : ℤ} {s t : List Char}
    (h : scanInteger 16 width s = some (v, t)) :
    v.natAbs < 16 ^ width ∧ ∃ v' t', scanInteger 16 s.length s = some (v', t') ∧ Longer v v' ∧
      ∀ c u, t = c :: u → isDigit 16 c = false → c ≠ 'x' → c ≠ 'X' → v' = v ∧ t' = t := by
  obtain ⟨sign, k, u, hsign, hlen, hscan⟩ := scanInteger_sign s
  rw [hscan] at h
  obtain ⟨⟨n, r⟩, hn, heq⟩ := Option.map_eq_some_iff.mp h
  obtain ⟨rfl, rfl⟩ := Prod.mk.inj heq
  obtain ⟨hlt, n', r', hn', hle, hsame⟩ := scanMagnitude_part hlen hn
  have hpow : (16 : ℕ) ^ (width - k) ≤ 16 ^ width := Nat.pow_le_pow_right (by decide) (by omega)
  refine ⟨?_, sign * n', r', by rw [hscan, hn']; rfl, ?_, fun c u hcu hc hx hX => ?_⟩
  · rcases hsign with rfl | rfl <;> omega
  · rcases hsign with rfl | rfl <;> constructor <;> omega
  · obtain ⟨rfl, rfl⟩ := hsame c u hcu hc hx hX
    exact ⟨rfl, rfl⟩

/-! ### Formats -/

/-- A part of a format: a hexadecimal number of fixed width, a decimal number, a character that is
matched literally, or a blank, which matches any white space. -/
inductive Directive where
  | hex (width : ℕ)
  | dec
  | char (c : Char)
  | space
  deriving DecidableEq, Repr

/-- `sprintf` without the terminating NUL. -/
def sprintf : List Directive → List ℤ → List Char
  | [], _ => []
  | .hex w :: f, v :: vs => printHex w v.toNat ++ sprintf f vs
  | .dec :: f, v :: vs => printDec v ++ sprintf f vs
  | .char c :: f, vs => c :: sprintf f vs
  | .space :: f, vs => ' ' :: sprintf f vs
  | .hex _ :: _, [] => []
  | .dec :: _, [] => []

/-- `sscanf`: the numbers stored until the first directive that does not match. -/
def sscanf : List Directive → List Char → List ℤ
  | [], _ => []
  | .hex w :: f, s =>
    match scanInteger 16 w s with
    | none => []
    | some (v, t) => toInt v :: sscanf f t
  | .dec :: f, s =>
    match scanInteger 10 s.length s with
    | none => []
    | some (v, t) => toInt v :: sscanf f t
  | .char c :: f, s =>
    match s with
    | [] => []
    | d :: t => if d = c then sscanf f t else []
  | .space :: f, s => sscanf f (s.dropWhile isSpace)

/-- The numbers fit their directives, and what is printed after a decimal or a blank does not look
like a part of it. -/
def Separated : List Directive → List ℤ → List Char → Prop
  | [], vs, _ => vs = []
  | .hex w :: f, v :: vs, rest => 0 < w ∧ 0 ≤ v ∧ v < 16 ^ w ∧ InInt v ∧ Separated f vs rest
  | .dec :: f, v :: vs, rest => InInt v ∧ NoDigit 10 (sprintf f vs ++ rest) ∧ Separated f vs rest
  | .char _ :: f, vs, rest => Separated f vs rest
  | .space :: f, vs, rest => NoSpace (sprintf f vs ++ rest) ∧ Separated f vs rest
  | .hex _ :: _, [], _ => False
  | .dec :: _, [], _ => False

/-- **`sscanf` reads what `sprintf` wrote**, whatever follows it. -/
theorem sscanf_sprintf (f : List Directive) (vs : List ℤ) (rest : List Char)
    (h : Separated f vs rest) : sscanf f (sprintf f vs ++ rest) = vs := by
  induction f generalizing vs with
  | nil => exact (show vs = [] from h).symm
  | cons d f ih =>
    cases d with
    | hex w =>
      cases vs with
      | nil => exact h.elim
      | cons v vs =>
        obtain ⟨hw, hpos, hlt, hint, htail⟩ := h
        have hnat : v.toNat < 16 ^ w := by zify; omega
        have hv : ((v.toNat : ℕ) : ℤ) = v := by omega
        simp only [sprintf, sscanf, List.append_assoc, scanInteger_printHex hw hnat, hv]
        rw [toInt_of_inInt hint, ih vs htail]
    | dec =>
      cases vs with
      | nil => exact h.elim
      | cons v vs =>
        obtain ⟨hint, hno, htail⟩ := h
        simp only [sprintf, sscanf, List.append_assoc, scanInteger_printDec v hno]
        rw [toInt_of_inInt hint, ih vs htail]
    | char c =>
      simp only [sprintf, sscanf, List.cons_append, if_true]
      exact ih vs h
    | space =>
      obtain ⟨hno, htail⟩ := h
      have hblank : isSpace ' ' = true := by decide
      simp only [sprintf, sscanf, List.cons_append]
      rw [List.dropWhile_cons_of_pos hblank, dropWhile_isSpace hno]
      exact ih vs htail

/-! ### Lines -/

/-- The lines that repeated `getline` calls return, each with its newline when it has one. -/
def lines : List Char → List (List Char)
  | [] => []
  | c :: s =>
    if c = '\n' then ['\n'] :: lines s
    else
      match lines s with
      | [] => [[c]]
      | l :: ls => (c :: l) :: ls

/-- A text without a newline, then a newline: this is the first line. -/
theorem lines_append (l rest : List Char) (hl : '\n' ∉ l) :
    lines (l ++ '\n' :: rest) = (l ++ ['\n']) :: lines rest := by
  induction l with
  | nil => simp [lines]
  | cons c l ih =>
    have hc : c ≠ '\n' := fun h => hl (by simp [h])
    have hl' : '\n' ∉ l := fun h => hl (by simp [h])
    simp only [List.cons_append, lines, if_neg hc, ih hl']

/-- A text that is put together from terminated lines is split into these lines. -/
theorem lines_flatten (ls : List (List Char))
    (h : ∀ l ∈ ls, ∃ t, '\n' ∉ t ∧ l = t ++ ['\n']) : lines ls.flatten = ls := by
  induction ls with
  | nil => rfl
  | cons l ls ih =>
    obtain ⟨t, ht, rfl⟩ := h l (by simp)
    rw [List.flatten_cons, List.append_assoc, List.singleton_append, lines_append t _ ht,
      ih fun l' hl' => h l' (by simp [hl'])]

end Format
