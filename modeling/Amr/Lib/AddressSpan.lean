/-
# Byte arrays in a 64-bit address space

`span base len` is the set of addresses a program touches when it walks `len` bytes up from
`base` with 64-bit address arithmetic, which wraps. `window lo len` is the interval
`[lo, lo + len)` of the integers, cut to the addresses that exist. A span that starts at a known
offset from `lo` lies in the window exactly when it neither wraps nor runs past the end.
-/
import Mathlib

namespace AddressSpan

/-- The addresses of `len` consecutive bytes from `base` on, wrapping at `2^64`. -/
def span (base : UInt64) (len : ℕ) : Set UInt64 :=
  {a | ∃ i < len, a = base + UInt64.ofNat i}

/-- The addresses of the interval `[lo, lo + len)`. -/
def window (lo : UInt64) (len : ℕ) : Set UInt64 :=
  {a | lo.toNat ≤ a.toNat ∧ a.toNat < lo.toNat + len}

theorem mem_window_iff {lo a : UInt64} {len : ℕ} :
    a ∈ window lo len ↔ lo.toNat ≤ a.toNat ∧ a.toNat < lo.toNat + len := Iff.rfl

/-- Adding an offset, with the wrap. -/
theorem toNat_add_ofNat_mod (lo : UInt64) {off : ℕ} (h : off < 2 ^ 64) :
    (lo + UInt64.ofNat off).toNat = (lo.toNat + off) % 2 ^ 64 := by
  rw [UInt64.toNat_add, UInt64.toNat_ofNat_of_lt' h]

/-- Adding an offset that does not wrap. -/
theorem toNat_add_ofNat {lo : UInt64} {off : ℕ} (h : lo.toNat + off < 2 ^ 64) :
    (lo + UInt64.ofNat off).toNat = lo.toNat + off := by
  rw [toNat_add_ofNat_mod lo (by omega), Nat.mod_eq_of_lt h]

/-- A span that does not wrap is an interval. -/
theorem mem_span_iff {base : UInt64} {len : ℕ} (h : base.toNat + len ≤ 2 ^ 64) (a : UInt64) :
    a ∈ span base len ↔ base.toNat ≤ a.toNat ∧ a.toNat < base.toNat + len := by
  constructor
  · rintro ⟨i, hi, rfl⟩
    rw [toNat_add_ofNat (by omega)]
    omega
  · rintro ⟨hlo, hhi⟩
    refine ⟨a.toNat - base.toNat, by omega, UInt64.toNat_inj.mp ?_⟩
    rw [toNat_add_ofNat] <;> omega

/-- The first byte of a span. -/
theorem base_mem_span {base : UInt64} {len : ℕ} (h : 0 < len) : base ∈ span base len :=
  ⟨0, h, by simp⟩

/-- **Containment.** A nonempty span at offset `off` from the start of a window lies in the
window exactly when it ends inside the window and inside the address space. -/
theorem span_subset_window_iff {lo : UInt64} {off len L : ℕ} (hlen : 0 < len)
    (hsize : off + len ≤ 2 ^ 64) :
    span (lo + UInt64.ofNat off) len ⊆ window lo L ↔
      off + len ≤ L ∧ lo.toNat + off + len ≤ 2 ^ 64 := by
  have hlo := lo.toNat_lt
  constructor
  · intro h
    -- the first byte shows that the base itself does not wrap
    have hbase : lo.toNat + off < 2 ^ 64 := by
      by_contra hwrap
      have hmem := h (base_mem_span hlen)
      have hval : (lo + UInt64.ofNat off).toNat = lo.toNat + off - 2 ^ 64 := by
        rw [toNat_add_ofNat_mod lo (by omega)]
        omega
      rw [mem_window_iff, hval] at hmem
      omega
    -- a span that wraps later contains the address 0, so the window starts at 0
    have hend : lo.toNat + off + len ≤ 2 ^ 64 := by
      by_contra hwrap
      have hmem := h (show (lo + UInt64.ofNat off) + UInt64.ofNat (2 ^ 64 - (lo.toNat + off)) ∈ _
        from ⟨_, by omega, rfl⟩)
      have hval : ((lo + UInt64.ofNat off) +
          UInt64.ofNat (2 ^ 64 - (lo.toNat + off))).toNat = 0 := by
        rw [toNat_add_ofNat_mod _ (by omega), toNat_add_ofNat hbase,
          Nat.add_sub_cancel' hbase.le, Nat.mod_self]
      rw [mem_window_iff, hval] at hmem
      omega
    have hlast := h (show (lo + UInt64.ofNat off) + UInt64.ofNat (len - 1) ∈ _ from
      ⟨_, by omega, rfl⟩)
    have hval : ((lo + UInt64.ofNat off) + UInt64.ofNat (len - 1)).toNat =
        lo.toNat + off + (len - 1) := by
      rw [toNat_add_ofNat (by rw [toNat_add_ofNat hbase]; omega), toNat_add_ofNat hbase]
    rw [mem_window_iff, hval] at hlast
    omega
  · rintro ⟨hL, hend⟩ a ha
    have hval : (lo + UInt64.ofNat off).toNat = lo.toNat + off := toNat_add_ofNat (by omega)
    rw [mem_span_iff (by omega), hval] at ha
    exact ⟨by omega, by omega⟩

/-- **Disjointness.** Two nonempty spans that do not wrap are disjoint exactly when one ends
before the other begins. -/
theorem disjoint_span_iff {a b : UInt64} {m n : ℕ} (hm : 0 < m) (hn : 0 < n)
    (ha : a.toNat + m ≤ 2 ^ 64) (hb : b.toNat + n ≤ 2 ^ 64) :
    Disjoint (span a m) (span b n) ↔ a.toNat + m ≤ b.toNat ∨ b.toNat + n ≤ a.toNat := by
  rw [Set.disjoint_left]
  constructor
  · intro h
    by_contra hover
    rcases le_total a.toNat b.toNat with hab | hba
    · exact h ((mem_span_iff ha b).mpr ⟨hab, by omega⟩) (base_mem_span hn)
    · exact h (base_mem_span hm) ((mem_span_iff hb a).mpr ⟨hba, by omega⟩)
  · rintro h x hx hy
    rw [mem_span_iff ha] at hx
    rw [mem_span_iff hb] at hy
    omega

/-- A span inside another by the bounds of the two intervals. -/
theorem span_subset_span {a b : UInt64} {m n : ℕ} (ha : a.toNat + m ≤ 2 ^ 64)
    (hlo : a.toNat ≤ b.toNat) (hhi : b.toNat + n ≤ a.toNat + m) : span b n ⊆ span a m := by
  intro x hx
  rw [mem_span_iff (by omega)] at hx
  rw [mem_span_iff ha]
  omega

end AddressSpan
