/-
# Byte arrays and numbers as Python has them

`bytearray` with slice assignment, `insert` and `ljust`, `int.to_bytes`, `int` of a text, `str` of
a number and the hexadecimal digest of a hash object.

An assignment to a slice that ends before it starts puts the bytes in at the start and moves the
rest up. Written into a row of zeros from the front, an array is what was written and zeros.
-/
import Amr.Lib.ByteStore
import Amr.Lib.Format

namespace PyBytes

open ByteStore Format

/-- The exceptions that the operations raise. -/
inductive Exc
  | OverflowError
  | ValueError
  | KeyError
  deriving DecidableEq, Repr

/-! ### Arrays -/

/-- `a[i:j] = bs`, for indices that are not negative. -/
def setSlice (a : List UInt8) (i j : ℕ) (bs : List UInt8) : List UInt8 :=
  a.take i ++ bs ++ a.drop (max i j)

/-- `a.insert(i, v)`. -/
def insert (a : List UInt8) (i v : ℕ) : Except Exc (List UInt8) :=
  if v < 256 then .ok (setSlice a i 0 [.ofNat v]) else .error .ValueError

/-- `a.ljust(width, fill)`. -/
def ljust (a : List UInt8) (width : ℕ) (fill : UInt8) : List UInt8 :=
  a ++ List.replicate (width - a.length) fill

/-- Bytes put in behind those written so far. -/
theorem setSlice_append {done rest : List UInt8} {pos : ℕ} (h : done.length = pos)
    (bs : List UInt8) : setSlice (done ++ rest) pos 0 bs = (done ++ bs) ++ rest := by
  rw [setSlice, Nat.max_zero, List.take_left' h, List.drop_left' h]

theorem insert_append {done rest : List UInt8} {pos v : ℕ} (h : done.length = pos) (hv : v < 256) :
    insert (done ++ rest) pos v = .ok ((done ++ [.ofNat v]) ++ rest) := by
  rw [insert, if_pos hv, setSlice_append h]

theorem ljust_of_le {a : List UInt8} {width : ℕ} (h : width ≤ a.length) (fill : UInt8) :
    ljust a width fill = a := by
  rw [ljust, Nat.sub_eq_zero_of_le h, List.replicate_zero, List.append_nil]

/-- A row of bytes, filled up with zeros to the stride. -/
def block (stride : ℕ) (bs : List UInt8) : List UInt8 :=
  bs ++ List.replicate (stride - bs.length) 0

theorem length_block {stride : ℕ} {bs : List UInt8} (h : bs.length ≤ stride) :
    (block stride bs).length = stride := by
  rw [block, List.length_append, List.length_replicate]
  omega

variable (bs : List UInt8)

/-- The zeros behind the bytes fill their block up. -/
theorem append_zeros {stride n : ℕ} (h : bs.length ≤ stride) (hn : stride ≤ n) :
    bs ++ List.replicate n 0 =
      block stride bs ++ List.replicate (n - (stride - bs.length)) (0 : UInt8) := by
  rw [block, List.append_assoc, List.replicate_append_replicate]
  congr 2
  omega

section Blocks

variable {stride : ℕ} {bss : List (List UInt8)}

theorem length_blocks (h : ∀ bs ∈ bss, bs.length ≤ stride) :
    (bss.flatMap (block stride)).length = stride * bss.length := by
  rw [List.length_flatMap, List.map_congr_left fun bs hbs => length_block (h bs hbs),
    List.map_const', List.sum_replicate, smul_eq_mul, Nat.mul_comm]

/-- A block and what comes behind it, where the blocks before it are skipped. -/
theorem drop_blocks (h : ∀ bs ∈ bss, bs.length ≤ stride) (rest : List UInt8) {i : ℕ}
    (hi : i < bss.length) :
    ∃ more, (bss.flatMap (block stride) ++ rest).drop (stride * i) = bss[i] ++ more := by
  have hsplit : bss = bss.take i ++ bss[i] :: bss.drop (i + 1) := by
    rw [List.getElem_cons_drop, List.take_append_drop]
  have hlen : ((bss.take i).flatMap (block stride)).length = stride * i := by
    rw [length_blocks fun bs hbs => h bs (List.mem_of_mem_take hbs), List.length_take,
      Nat.min_eq_left hi.le]
  refine ⟨List.replicate (stride - bss[i].length) 0 ++
    ((bss.drop (i + 1)).flatMap (block stride) ++ rest), ?_⟩
  conv_lhs => rw [hsplit]
  rw [List.flatMap_append, List.append_assoc, ← hlen, List.drop_left, List.flatMap_cons, block,
    List.append_assoc, List.append_assoc]

/-- The bytes of a block are read back. -/
theorem read_blocks (h : ∀ bs ∈ bss, bs.length ≤ stride) (rest : List UInt8) {i : ℕ}
    (hi : i < bss.length) :
    ((bss.flatMap (block stride) ++ rest).drop (stride * i)).take bss[i].length = bss[i] := by
  obtain ⟨more, hmore⟩ := drop_blocks h rest hi
  rw [hmore, List.take_left]

/-- Behind its bytes a block holds zeros. -/
theorem zero_blocks (h : ∀ bs ∈ bss, bs.length ≤ stride) {x : ℕ}
    (hx : x < (bss.flatMap (block stride)).length)
    (hout : ∀ i (hi : i < bss.length), ¬(stride * i ≤ x ∧ x < stride * i + bss[i].length)) :
    (bss.flatMap (block stride))[x]? = some 0 := by
  induction bss generalizing x with
  | nil => exact absurd hx (Nat.not_lt_zero x)
  | cons bs bss ih =>
    have hbs := h bs List.mem_cons_self
    have hhead := hout 0 (Nat.zero_lt_succ _)
    rw [Nat.mul_zero, List.getElem_cons_zero] at hhead
    rw [List.flatMap_cons] at hx ⊢
    rcases Nat.lt_or_ge x stride with hlt | hge
    · rw [List.getElem?_append_left (by rwa [length_block hbs]), block,
        List.getElem?_append_right (by omega), List.getElem?_replicate, if_pos (by omega)]
    · rw [List.getElem?_append_right (by rwa [length_block hbs]), length_block hbs]
      refine ih (fun bs hbs => h bs (List.mem_cons_of_mem _ hbs)) ?_ fun i hi hin => ?_
      · rw [List.length_append, length_block hbs] at hx
        omega
      · refine hout (i + 1) (Nat.succ_lt_succ hi) ?_
        rw [List.getElem_cons_succ, Nat.mul_succ]
        omega

end Blocks

/-! ### Numbers -/

/-- `v.to_bytes(n, 'little')`. -/
def toBytesLittle (n v : ℕ) : Except Exc (List UInt8) :=
  if v < 256 ^ n then .ok (bytesOf n v) else .error .OverflowError

/-- `v.to_bytes(n, 'big')`. -/
def toBytesBig (n v : ℕ) : Except Exc (List UInt8) :=
  if v < 256 ^ n then .ok (bytesOf n v).reverse else .error .OverflowError

/-- `str(v)`. -/
def str (v : ℕ) : List Char := Nat.toDigits 10 v

/-- `int(s, base)` of a row of digits. -/
def int (s : List Char) (base : ℕ) : Except Exc ℕ :=
  if s ≠ [] ∧ ∀ c ∈ s, isDigit base c = true then .ok (ofDigits base s) else .error .ValueError

/-- `hexdigest()` of a hash with these bytes. -/
def hexdigest (bs : List UInt8) : List Char :=
  bs.flatMap fun b => [(b.toNat / 16).digitChar, (b.toNat % 16).digitChar]

theorem value_lt : value bs < 256 ^ bs.length := by
  induction bs with
  | nil => exact Nat.one_pos
  | cons b bs ih =>
    have hb := b.toNat_lt
    rw [value, List.length_cons, pow_succ]
    omega

/-- Bytes are found again from the number that they spell. -/
theorem bytesOf_value : bytesOf bs.length (value bs) = bs := by
  induction bs with
  | nil => rfl
  | cons b bs ih =>
    have hb : b.toNat < 256 := b.toNat_lt
    rw [List.length_cons, bytesOf, value]
    congr 1
    · refine UInt8.toNat_inj.mp ?_
      rw [UInt8.toNat_ofNat']
      omega
    · rw [Nat.add_mul_div_left _ _ (by decide : 0 < 256), Nat.div_eq_of_lt hb, Nat.zero_add, ih]

theorem value_append (bs cs : List UInt8) :
    value (bs ++ cs) = value bs + 256 ^ bs.length * value cs := by
  induction bs with
  | nil => simp [value]
  | cons b bs ih =>
    rw [List.cons_append, value, value, ih, List.length_cons, pow_succ]
    ring

/-- Two rows of one length that spell the same number are the same. -/
theorem eq_of_value {bs cs : List UInt8} (hlen : bs.length = cs.length)
    (h : value bs = value cs) : bs = cs := by
  rw [← bytesOf_value bs, ← bytesOf_value cs, hlen, h]

/-- A number is found again from its decimal digits. -/
theorem int_str (v : ℕ) : int (str v) 10 = .ok v := by
  obtain ⟨hdigits, hvalue⟩ := toDigits_spec (b := 10) (by decide) (by decide) v
  have hne : str v ≠ [] := Nat.toDigits_ne_nil
  rw [int, if_pos ⟨hne, hdigits⟩]
  exact congrArg Except.ok hvalue

theorem isDigit_digitChar {v : ℕ} (hv : v < 16) : isDigit 16 v.digitChar = true := by
  rw [isDigit, digitValue_digitChar hv]
  exact decide_eq_true hv

theorem isDigit_hexdigest {c : Char} (hc : c ∈ hexdigest bs) :
    isDigit 16 c = true := by
  obtain ⟨b, -, hc⟩ := List.mem_flatMap.mp hc
  have hb : b.toNat < 256 := b.toNat_lt
  rcases List.mem_pair.mp hc with rfl | rfl
  · exact isDigit_digitChar (by omega)
  · exact isDigit_digitChar (by omega)

/-- The digits of a digest spell its bytes, the first one highest. -/
theorem ofDigits_hexdigest : ofDigits 16 (hexdigest bs) = value bs.reverse := by
  induction bs using List.reverseRecOn with
  | nil => rfl
  | append_singleton bs b ih =>
    have hb : b.toNat < 256 := b.toNat_lt
    have hpair : hexdigest (bs ++ [b]) =
        (hexdigest bs ++ [(b.toNat / 16).digitChar]) ++ [(b.toNat % 16).digitChar] := by
      simp [hexdigest]
    rw [hpair, ofDigits_append_single, ofDigits_append_single, ih,
      digitValue_digitChar (by omega), digitValue_digitChar (by omega), List.reverse_append,
      List.reverse_singleton, List.singleton_append, value, Option.getD_some, Option.getD_some]
    omega

/-- A digest is found again from its digits. -/
theorem int_hexdigest {bs : List UInt8} (hbs : bs ≠ []) :
    int (hexdigest bs) 16 = .ok (value bs.reverse) := by
  have hne : hexdigest bs ≠ [] := by
    obtain ⟨b, bs, rfl⟩ := List.exists_cons_of_ne_nil hbs
    exact List.cons_ne_nil _ _
  rw [int, if_pos ⟨hne, fun c hc => isDigit_hexdigest bs hc⟩, ofDigits_hexdigest]

end PyBytes
