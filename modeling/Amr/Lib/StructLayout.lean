/-
# Members of a structure in memory

The little-endian layout of C structures with bit-fields: a member declared with a type takes the
next position that the type's alignment allows, a bit-field the next position at which it does not
cross a boundary of its declared type, both from the least significant bit up. `store` writes a
list of values, each cut to the width of its member, and `load` reads the members back; what one
side stores through one declaration, another side loads through the same list of members as the
values modulo the widths.
-/
import Mathlib

namespace StructLayout

/-- A member: its declared type, in bits, and for a bit-field the bits it takes. -/
inductive Member
  /-- a member of `width` bits at a multiple of `align` -/
  | plain (align width : ℕ)
  /-- a bit-field of `width` bits in units of the declared type -/
  | bits (unit width : ℕ)
  deriving DecidableEq, Repr

namespace Member

/-- An unsigned integer of 8, 16, 32 or 64 bits, aligned to its size. -/
abbrev u8 : Member := .plain 8 8
abbrev u16 : Member := .plain 16 16
abbrev u32 : Member := .plain 32 32
abbrev u64 : Member := .plain 64 64

abbrev bytes (n : ℕ) : Member := .plain 8 (8 * n)

def width : Member → ℕ
  | .plain _ w => w
  | .bits _ w => w

/-- The next multiple of the type. -/
def alignUp (unit off : ℕ) : ℕ := (off + (unit - 1)) / unit * unit

/-- The position of a member that follows the first `off` bits. -/
def place (off : ℕ) : Member → ℕ
  | .plain align _ => max off (alignUp align off)
  | .bits unit w => if off % unit + w ≤ unit then off else max off (alignUp unit off)

theorem le_place (off : ℕ) (m : Member) : off ≤ m.place off := by
  cases m with
  | plain align w => exact le_max_left _ _
  | bits unit w =>
    simp only [place]
    split_ifs
    · exact le_rfl
    · exact le_max_left _ _

end Member

open Member

/-- The image of a list of values behind the first `off` bits; members without a value are 0. -/
def store (off : ℕ) : List Member → List ℕ → ℕ
  | m :: ms, v :: vs =>
    v % 2 ^ m.width * 2 ^ m.place off + store (m.place off + m.width) ms vs
  | _, _ => 0

/-- The values of the members behind the first `off` bits. -/
def load (off image : ℕ) : List Member → List ℕ
  | [] => []
  | m :: ms =>
    image / 2 ^ m.place off % 2 ^ m.width :: load (m.place off + m.width) image ms

/-- What a member keeps of a value. -/
def cut (ms : List Member) (vs : List ℕ) : List ℕ :=
  List.zipWith (fun m v => v % 2 ^ m.width) ms vs

/-- The image starts where it is stored. -/
theorem dvd_store (off : ℕ) (ms : List Member) (vs : List ℕ) : 2 ^ off ∣ store off ms vs := by
  induction ms generalizing off vs with
  | nil => simp [store]
  | cons m ms ih =>
    cases vs with
    | nil => simp [store]
    | cons v vs =>
      have hle : off ≤ m.place off := m.le_place off
      refine dvd_add ?_ ?_
      · exact dvd_mul_of_dvd_right (pow_dvd_pow 2 hle) _
      · exact (pow_dvd_pow 2 (by omega)).trans (ih _ _)

/-- One member of an image, when what is stored around it keeps off its bits. -/
theorem member_of_sum {low v rest p w : ℕ} (hlow : low < 2 ^ p) (hv : v < 2 ^ w)
    (hrest : 2 ^ (p + w) ∣ rest) : (low + (v * 2 ^ p + rest)) / 2 ^ p % 2 ^ w = v := by
  obtain ⟨r, rfl⟩ := hrest
  have hsplit : low + (v * 2 ^ p + 2 ^ (p + w) * r) = low + 2 ^ p * (v + 2 ^ w * r) := by
    rw [pow_add]; ring
  rw [hsplit, Nat.add_mul_div_left _ _ (Nat.two_pow_pos p), Nat.div_eq_of_lt hlow, zero_add,
    Nat.add_mul_mod_self_left, Nat.mod_eq_of_lt hv]

/-- **Loading what was stored.** Whatever stands in the first `off` bits, the members read back
are the stored values cut to their widths. -/
theorem load_store (ms : List Member) :
    ∀ (off low : ℕ) (vs : List ℕ), low < 2 ^ off → vs.length = ms.length →
      load off (low + store off ms vs) ms = cut ms vs := by
  induction ms with
  | nil => intro off low vs _ _; simp [load, cut]
  | cons m ms ih =>
    intro off low vs hlow hlen
    cases vs with
    | nil => simp at hlen
    | cons v vs =>
      have hp : low < 2 ^ m.place off :=
        hlow.trans_le (Nat.pow_le_pow_right two_pos (m.le_place off))
      have hv : v % 2 ^ m.width < 2 ^ m.width := Nat.mod_lt _ (Nat.two_pow_pos _)
      have hhead := member_of_sum hp hv (dvd_store (m.place off + m.width) ms vs)
      -- the member just read is part of what stands before the next one
      have hlow' : low + v % 2 ^ m.width * 2 ^ m.place off < 2 ^ (m.place off + m.width) := by
        rw [pow_add]
        nlinarith [Nat.two_pow_pos (m.place off)]
      have htail := ih (m.place off + m.width) _ vs hlow' (by simpa using hlen)
      simp only [load, store, cut, List.zipWith_cons_cons, List.cons.injEq]
      refine ⟨hhead, ?_⟩
      rw [← add_assoc]
      exact htail

/-! ### A structure behind another one -/

/-- The position behind the last member. -/
def endOf (off : ℕ) : List Member → ℕ
  | [] => off
  | m :: ms => endOf (m.place off + m.width) ms

theorem le_endOf (ms : List Member) (off : ℕ) : off ≤ endOf off ms := by
  induction ms generalizing off with
  | nil => exact le_rfl
  | cons m ms ih => exact (m.le_place off).trans ((Nat.le_add_right _ _).trans (ih _))

/-- An image takes no more bits than its members. -/
theorem store_lt (ms : List Member) (off : ℕ) (vs : List ℕ) :
    store off ms vs < 2 ^ endOf off ms := by
  induction ms generalizing off vs with
  | nil => exact Nat.two_pow_pos _
  | cons m ms ih =>
    cases vs with
    | nil => exact Nat.two_pow_pos _
    | cons v vs =>
      have hrest := ih (m.place off + m.width) vs
      obtain ⟨r, hr⟩ := dvd_store (m.place off + m.width) ms vs
      obtain ⟨d, hd⟩ := Nat.exists_eq_add_of_le (le_endOf ms (m.place off + m.width))
      have hv : v % 2 ^ m.width * 2 ^ m.place off < 2 ^ (m.place off + m.width) := by
        rw [add_comm, pow_add]
        exact Nat.mul_lt_mul_of_pos_right (Nat.mod_lt _ (Nat.two_pow_pos _)) (Nat.two_pow_pos _)
      rw [hr, hd, pow_add _ _ d] at hrest
      rw [store, endOf, hr, hd, pow_add _ _ d]
      have hsucc : r + 1 ≤ 2 ^ d := Nat.lt_of_mul_lt_mul_left hrest
      calc _ < 2 ^ (m.place off + m.width) * (r + 1) := by rw [mul_add, mul_one, add_comm]; omega
        _ ≤ _ := Nat.mul_le_mul_left _ hsucc

theorem load_append (off image : ℕ) (ms ms' : List Member) :
    load off image (ms ++ ms') = load off image ms ++ load (endOf off ms) image ms' := by
  induction ms generalizing off with
  | nil => rfl
  | cons m ms ih => simp only [List.cons_append, load, endOf, ih]

theorem cut_append {ms : List Member} {vs : List ℕ} (h : vs.length = ms.length)
    (ms' : List Member) (vs' : List ℕ) : cut (ms ++ ms') (vs ++ vs') = cut ms vs ++ cut ms' vs' :=
  List.zipWith_append h.symm

@[simp] theorem length_load (off image : ℕ) (ms : List Member) :
    (load off image ms).length = ms.length := by
  induction ms generalizing off with
  | nil => rfl
  | cons m ms ih => simp [load, ih]

theorem length_cut {ms : List Member} {vs : List ℕ} (h : vs.length = ms.length) :
    (cut ms vs).length = ms.length := by
  simp [cut, h]

/-- Both structures of an image are read back, each from its own position. -/
theorem load_store_append (ms ms' : List Member) (vs vs' : List ℕ) (h : vs.length = ms.length)
    (h' : vs'.length = ms'.length) :
    load 0 (store 0 (ms ++ ms') (vs ++ vs')) ms = cut ms vs ∧
      load (endOf 0 ms) (store 0 (ms ++ ms') (vs ++ vs')) ms' = cut ms' vs' := by
  have hall := load_store (ms ++ ms') 0 0 (vs ++ vs') (by simp) (by simp [h, h'])
  rw [zero_add, load_append, cut_append h] at hall
  exact List.append_inj hall (by rw [length_load, length_cut h])

end StructLayout
