/-
# Pages of a NOR flash memory

A page is programmed by one transfer, which clears the bits of its cells that are clear in the data
and changes no other page; a transfer that starts inside a page goes on at the start of that page.
`programPages` is what is left after transfers for consecutive pages, some of which failed: each
page is the work of its own transfer alone.
-/
import Amr.Lib.ByteStore

namespace NorFlash

open ByteStore

/-- One page transfer of `bs` at `a`, with pages of `u` bytes. -/
def programPage (u : ℕ) (m : Store) (a : ℕ) (bs : List UInt8) : Store := fun x =>
  if x / u = a / u then m x &&& bs.getD ((x + u - a % u) % u) 0xFF else m x

/-- What is left after the transfers for `n` chunks of `bs` at `a`, of which those of `ps` went
well. -/
def programPages (u : ℕ) (m : Store) (a : ℕ) (bs : List UInt8) (ps : ℕ → Bool) (n : ℕ) : Store :=
  fun x =>
    if a / u ≤ x / u ∧ x / u < a / u + n ∧ ps (x / u - a / u) = true then
      m x &&& bs.getD (u * (x / u - a / u) + (x + u - a % u) % u) 0xFF
    else m x

/-- The byte that erased memory has `i` bytes behind `a` after them. -/
def landing (u a : ℕ) (bs : List UInt8) (ps : ℕ → Bool) (n i : ℕ) : UInt8 :=
  if (a % u + i) / u < n ∧ ps ((a % u + i) / u) = true then
    bs.getD (u * ((a % u + i) / u) + i % u) 0xFF
  else 0xFF

variable {u a n : ℕ} {m : Store} {bs : List UInt8} {ps : ℕ → Bool}

theorem programPages_zero : programPages u m a bs ps 0 = m := by
  funext x
  exact if_neg fun h => by omega

/-- **One more transfer.** -/
theorem programPages_succ (hu : 0 < u) :
    programPages u m a bs ps (n + 1)
      = if ps n then
          programPage u (programPages u m a bs ps n) (a + n * u) ((bs.drop (n * u)).take u)
        else programPages u m a bs ps n := by
  have hpage : (a + n * u) / u = a / u + n := Nat.add_mul_div_right _ _ hu
  have hoff : (a + n * u) % u = a % u := Nat.add_mul_mod_self_right ..
  funext x
  by_cases hx : x / u = a / u + n
  · -- the page of this transfer
    have hnew : ¬ (a / u ≤ x / u ∧ x / u < a / u + n ∧ ps (x / u - a / u) = true) := by omega
    have hold : programPages u m a bs ps n x = m x := if_neg hnew
    have hk : x / u - a / u = n := by omega
    have hlt : (x + u - a % u) % u < u := Nat.mod_lt _ hu
    have hbyte : ((bs.drop (n * u)).take u).getD ((x + u - a % u) % u) 0xFF
        = bs.getD (u * n + (x + u - a % u) % u) 0xFF := by
      simp only [List.getD_eq_getElem?_getD]
      rw [List.getElem?_take_of_lt hlt, List.getElem?_drop, Nat.mul_comm]
    cases hps : ps n with
    | true =>
      have hin : a / u ≤ x / u ∧ x / u < a / u + (n + 1) ∧ ps (x / u - a / u) = true :=
        ⟨by omega, by omega, hk ▸ hps⟩
      rw [if_pos rfl, programPage, hpage, hoff, if_pos hx, hold, hbyte]
      exact (if_pos hin).trans (by rw [hk])
    | false =>
      have hout : ¬ (a / u ≤ x / u ∧ x / u < a / u + (n + 1) ∧ ps (x / u - a / u) = true) := by
        rw [hk, hps]
        rintro ⟨-, -, h⟩
        cases h
      rw [if_neg Bool.false_ne_true, hold]
      exact if_neg hout
  · have hsame : programPages u m a bs ps (n + 1) x = programPages u m a bs ps n x := by
      unfold programPages
      have hiff : (a / u ≤ x / u ∧ x / u < a / u + (n + 1) ∧ ps (x / u - a / u) = true) ↔
          (a / u ≤ x / u ∧ x / u < a / u + n ∧ ps (x / u - a / u) = true) :=
        and_congr_right fun _ => and_congr_left fun _ => by omega
      simp only [hiff]
    rw [hsame]
    cases ps n with
    | true => rw [if_pos rfl, programPage, hpage, if_neg hx]
    | false => rfl

/-- Erased memory takes the data. -/
theorem erased_and (b : UInt8) : (0xFF : UInt8) &&& b = b := UInt8.neg_one_and

/-- **What erased memory has after the transfers.** -/
theorem programPages_landing (hu : 0 < u) {i : ℕ} (herased : m (a + i) = 0xFF) :
    programPages u m a bs ps n (a + i) = landing u a bs ps n i := by
  have hdiv : (a + i) / u = a / u + (a % u + i) / u := by
    conv_lhs => rw [← Nat.div_add_mod a u, Nat.add_assoc, Nat.mul_add_div hu]
  have hk : (a + i) / u - a / u = (a % u + i) / u := by rw [hdiv, Nat.add_sub_cancel_left]
  have hoff : (a + i + u - a % u) % u = i % u := by
    have hsplit : a + i + u - a % u = i + u * (a / u + 1) := by
      have h := Nat.div_add_mod a u
      have hmul : u * (a / u + 1) = u * (a / u) + u := by ring
      omega
    rw [hsplit, Nat.add_mul_mod_self_left]
  unfold programPages landing
  rw [hk, hoff, herased, erased_and]
  have hiff : (a / u ≤ (a + i) / u ∧ (a + i) / u < a / u + n ∧ ps ((a % u + i) / u) = true) ↔
      ((a % u + i) / u < n ∧ ps ((a % u + i) / u) = true) := by
    rw [hdiv]
    constructor
    · rintro ⟨-, hlt, hps⟩
      exact ⟨Nat.lt_of_add_lt_add_left hlt, hps⟩
    · rintro ⟨hlt, hps⟩
      exact ⟨Nat.le_add_right .., Nat.add_lt_add_left hlt _, hps⟩
  simp only [hiff]

/-- Memory behind the chunks is left alone, and so is memory before them except in the page of the
first. -/
theorem programPages_outside (hu : 0 < u) {x : ℕ} (hx : a + n * u ≤ x ∨ x < a ∧ x / u ≠ a / u) :
    programPages u m a bs ps n x = m x := by
  refine if_neg ?_
  rintro ⟨hlow, hhigh, -⟩
  rcases hx with hx | ⟨hx, hne⟩
  · have hle := Nat.div_le_div_right (c := u) hx
    rw [Nat.add_mul_div_right _ _ hu] at hle
    omega
  · have hle := Nat.div_le_div_right (c := u) hx.le
    omega

end NorFlash
