/-
# The calls of an eMMC access

Which calls of the driver an access makes, whatever the card and the driver are: its pieces in
order, up to the first that fails. A piece that is written in part is read before it is written.
After a first block that is written in part and whole blocks, the count of the bytes that are left
is wrong, and step 3 leaves the plan.
-/
import Amr.Emmc.Transfers

namespace Amr.Emmc

open ByteStore

/-! ### One call -/

section Calls

variable {o : ℕ → Call} {c c' c'' : Card} {B n : ℕ} {p q : List (ℕ × ℕ)} {b : Bool}

/-- The next call is for these blocks, and passes the checks of the driver. -/
def Card.passes (o : ℕ → Call) (c : Card) (B n : ℕ) : Bool :=
  c.iValidateBlockCount B n && (c.next o).taken

/-- The next call is for these blocks, and succeeds. -/
def Card.succeeds (o : ℕ → Call) (c : Card) (B n : ℕ) : Bool :=
  c.passes o B n && (c.next o).done && (c.next o).released

structure Added (o : ℕ → Call) (c c' : Card) (B n : ℕ) : Prop where
  same : c.Same c'
  asked : c'.asked = c.asked ++ [(B, n)]
  transfers : c'.transfers = c.transfers ++
    if c.passes o B n then [⟨Card.blockAddress B, n⟩] else []

theorem Card.Same.iValidateBlockCount_eq (h : c.Same c') (B n : ℕ) :
    c'.iValidateBlockCount B n = c.iValidateBlockCount B n := by
  unfold Card.iValidateBlockCount
  rw [h.1, h.2]

theorem Card.passes_of_succeeds (h : c.succeeds o B n = true) : c.passes o B n = true :=
  (Bool.and_eq_true _ _ ▸ (Bool.and_eq_true _ _ ▸ h).1).1

theorem Card.valid_of_passes (h : c.passes o B n = true) : c.iValidateBlockCount B n = true :=
  (Bool.and_eq_true _ _ ▸ h).1

theorem Card.succeeds_good (c : Card) (B n : ℕ) :
    c.succeeds good B n = c.iValidateBlockCount B n := by
  simp [Card.succeeds, Card.passes, Card.next, good]

theorem read_added (o : ℕ → Call) (c : Card) (B n : ℕ) (buf : List UInt8) (k : ℕ)
    (hk : k + n * 512 ≤ buf.length) :
    ∃ r, c.iEMMC_Read o B n buf k = some r ∧ Added o c r.2.2 B n ∧ r.1 = c.succeeds o B n ∧
      r.2.1.length = buf.length := by
  have hsplice : ∀ m a, (splice buf k (read m a (n * 512))).length = buf.length :=
    fun m a => length_splice (by rwa [length_read])
  have hroom : k + n * BlkSize ≤ buf.length := hk
  unfold Card.iEMMC_Read
  cases hpass : c.iValidateBlockCount B n && (c.next o).taken with
  | false =>
    refine ⟨_, rfl, ⟨⟨rfl, rfl⟩, rfl, ?_⟩, ?_, rfl⟩
    · rw [Card.passes, hpass]
      exact (List.append_nil _).symm
    · rw [Card.succeeds, Card.passes, hpass]
      rfl
  | true =>
    cases hdone : (c.next o).done with
    | false =>
      refine ⟨_, rfl, ⟨⟨rfl, rfl⟩, rfl, ?_⟩, ?_, rfl⟩
      · rw [Card.passes, hpass]
        rfl
      · rw [Card.succeeds, Card.passes, hpass, hdone]
        rfl
    | true =>
      rw [if_pos rfl, if_pos rfl, if_pos hroom]
      refine ⟨_, rfl, ⟨⟨rfl, rfl⟩, rfl, ?_⟩, ?_, hsplice _ _⟩
      · rw [Card.passes, hpass]
        rfl
      · rw [Card.succeeds, Card.passes, hpass, hdone]
        rfl

theorem write_added (o : ℕ → Call) (c : Card) (B n : ℕ) (buf : List UInt8) (k : ℕ)
    (hk : k + n * 512 ≤ buf.length) :
    ∃ r, c.iEMMC_Write o B n buf k = some r ∧ Added o c r.2 B n ∧ r.1 = c.succeeds o B n := by
  have hroom : k + n * BlkSize ≤ buf.length := hk
  unfold Card.iEMMC_Write
  cases hpass : c.iValidateBlockCount B n && (c.next o).taken with
  | false =>
    refine ⟨_, rfl, ⟨⟨rfl, rfl⟩, rfl, ?_⟩, ?_⟩
    · rw [Card.passes, hpass]
      exact (List.append_nil _).symm
    · rw [Card.succeeds, Card.passes, hpass]
      rfl
  | true =>
    cases hdone : (c.next o).done with
    | false =>
      refine ⟨_, rfl, ⟨⟨rfl, rfl⟩, rfl, ?_⟩, ?_⟩
      · rw [Card.passes, hpass]
        rfl
      · rw [Card.succeeds, Card.passes, hpass, hdone]
        rfl
    | true =>
      rw [if_pos rfl, if_pos rfl, if_pos hroom]
      refine ⟨_, rfl, ⟨⟨rfl, rfl⟩, rfl, ?_⟩, ?_⟩
      · rw [Card.passes, hpass]
        rfl
      · rw [Card.succeeds, Card.passes, hpass, hdone]
        rfl

/-! ### Calls in order -/

/-- The calls of a list are made in order, up to the first that fails; the flag tells that none
did. -/
inductive Walked (o : ℕ → Call) : Card → List (ℕ × ℕ) → Card → Bool → Prop
  | done (c : Card) : Walked o c [] c true
  | stop {c c' : Card} {B n : ℕ} (rest : List (ℕ × ℕ)) : Added o c c' B n →
      c.succeeds o B n = false → Walked o c ((B, n) :: rest) c' false
  | step {c c' c'' : Card} {B n : ℕ} {rest : List (ℕ × ℕ)} {b : Bool} : Added o c c' B n →
      c.succeeds o B n = true → Walked o c' rest c'' b → Walked o c ((B, n) :: rest) c'' b

namespace Walked

theorem one (h : Added o c c' B n) : Walked o c [(B, n)] c' (c.succeeds o B n) := by
  cases hok : c.succeeds o B n with
  | false => exact .stop [] h hok
  | true => exact .step h hok (.done c')

theorem append (h : Walked o c p c' true) (h' : Walked o c' q c'' b) :
    Walked o c (p ++ q) c'' b := by
  generalize hflag : true = flag at h
  induction h with
  | done => exact h'
  | stop => cases hflag
  | step hadded hok _ ih => exact .step hadded hok (ih h' hflag)

theorem append_of_failed (h : Walked o c p c' false) (q : List (ℕ × ℕ)) :
    Walked o c (p ++ q) c' false := by
  generalize hflag : false = flag at h
  induction h with
  | done => cases hflag
  | stop rest hadded hok => exact .stop (rest ++ q) hadded hok
  | step hadded hok _ ih => exact .step hadded hok (ih hflag)

theorem same (h : Walked o c p c' b) : c.Same c' := by
  induction h with
  | done c => exact .refl c
  | stop _ hadded => exact hadded.same
  | step hadded _ _ ih => exact hadded.same.trans ih

theorem mem_asked (h : Walked o c p c' b) : ∀ y ∈ c'.asked, y ∈ c.asked ∨ y ∈ p := by
  induction h with
  | done => exact fun y hy => .inl hy
  | stop rest hadded =>
    intro y hy
    rw [hadded.asked, List.mem_append, List.mem_singleton] at hy
    rcases hy with hy | rfl
    · exact .inl hy
    · exact .inr List.mem_cons_self
  | step hadded _ _ ih =>
    intro y hy
    rcases ih y hy with hy | hy
    · rw [hadded.asked, List.mem_append, List.mem_singleton] at hy
      rcases hy with hy | rfl
      · exact .inl hy
      · exact .inr List.mem_cons_self
    · exact .inr (List.mem_cons_of_mem _ hy)

theorem asked_mono (h : Walked o c p c' b) : ∀ y ∈ c.asked, y ∈ c'.asked := by
  induction h with
  | done => exact fun y hy => hy
  | stop _ hadded =>
    intro y hy
    rw [hadded.asked]
    exact List.mem_append_left _ hy
  | step hadded _ _ ih =>
    intro y hy
    refine ih y ?_
    rw [hadded.asked]
    exact List.mem_append_left _ hy

theorem first_mem {y : ℕ × ℕ} (h : Walked o c (y :: p) c' b) : y ∈ c'.asked := by
  have hlast : ∀ c₁ : Card, Added o c c₁ y.1 y.2 → y ∈ c₁.asked := fun c₁ hadded => by
    rw [hadded.asked]
    exact List.mem_append_right _ (List.mem_singleton_self _)
  cases h with
  | stop _ hadded => exact hlast _ hadded
  | step hadded _ hrest => exact hrest.asked_mono _ (hlast _ hadded)

theorem all_asked (h : Walked o c p c' true) : ∀ y ∈ p, y ∈ c'.asked := by
  induction p generalizing c with
  | nil => exact nofun
  | cons x rest ih =>
    intro y hy
    rcases List.mem_cons.mp hy with rfl | hmem
    · exact h.first_mem
    · cases h with
      | step _ _ hrest => exact ih hrest y hmem

theorem transfers_mono (h : Walked o c p c' b) : ∀ t ∈ c.transfers, t ∈ c'.transfers := by
  induction h with
  | done => exact fun t ht => ht
  | stop _ hadded =>
    intro t ht
    rw [hadded.transfers]
    exact List.mem_append_left _ ht
  | step hadded _ _ ih =>
    intro t ht
    refine ih t ?_
    rw [hadded.transfers]
    exact List.mem_append_left _ ht

theorem valid (h : Walked o c p c' true) : ∀ y ∈ p, c.iValidateBlockCount y.1 y.2 = true := by
  induction p generalizing c with
  | nil => exact nofun
  | cons x rest ih =>
    intro y hy
    cases h with
    | step hadded hok hrest =>
      rcases List.mem_cons.mp hy with rfl | hmem
      · exact Card.valid_of_passes (Card.passes_of_succeeds hok)
      · exact hadded.same.iValidateBlockCount_eq y.1 y.2 ▸ ih hrest y hmem

theorem not_valid (h : Walked good c p c' false) :
    ¬ ∀ y ∈ p, c.iValidateBlockCount y.1 y.2 = true := by
  generalize hflag : false = flag at h
  induction h with
  | done => cases hflag
  | stop rest _ hok =>
    rw [Card.succeeds_good] at hok
    intro hall
    exact Bool.false_ne_true (hok ▸ hall _ List.mem_cons_self)
  | step hadded _ _ ih =>
    intro hall
    refine ih hflag fun y hy => ?_
    rw [hadded.same.iValidateBlockCount_eq]
    exact hall y (List.mem_cons_of_mem _ hy)

end Walked

/-! ### The pieces of an access -/

/-- The `n` blocks at `b` are among those that `len` bytes at `A` touch. -/
def Within (A len b n : ℕ) : Prop := A / 512 ≤ b ∧ b + n ≤ (A + len + 511) / 512

/-- The bytes in front of the first whole block. -/
def headBytes (A len : ℕ) : ℕ := if A % 512 = 0 then 0 else min len (512 - A % 512)

/-- The first start of a block from `A` on. -/
def bodyStart (A : ℕ) : ℕ := (A + 511) / 512 * 512

def headPart (A : ℕ) : List (ℕ × ℕ) := if A % 512 = 0 then [] else [(A / 512 * 512, 1)]

/-- The whole blocks of the `l` bytes behind the first block. -/
def bodyPart (A l : ℕ) : List (ℕ × ℕ) := if 0 < l / 512 then [(bodyStart A, l / 512)] else []

def lastPart (A l : ℕ) : List (ℕ × ℕ) :=
  if l % 512 = 0 then [] else [(bodyStart A + l / 512 * 512, 1)]

/-- **The pieces of an access**: the blocks that it touches, in order. -/
def pieces (A len : ℕ) : List (ℕ × ℕ) :=
  headPart A ++ bodyPart A (len - headBytes A len) ++ lastPart A (len - headBytes A len)

theorem within_of_mem_pieces {A len : ℕ} {y : ℕ × ℕ} (hy : y ∈ pieces A len) :
    512 ∣ y.1 ∧ Within A len (y.1 / 512) y.2 ∧ 0 < y.2 := by
  unfold pieces headPart bodyPart lastPart at hy
  unfold Within
  have hhead : headBytes A len = if A % 512 = 0 then 0 else min len (512 - A % 512) := rfl
  have hbody : bodyStart A = (A + 511) / 512 * 512 := rfl
  simp only [List.mem_append] at hy
  rcases hy with (hy | hy) | hy
  · split_ifs at hy with hA
    · cases hy
    · obtain rfl := List.mem_singleton.mp hy
      simp only
      omega
  · split_ifs at hy with hpos
    · obtain rfl := List.mem_singleton.mp hy
      split_ifs at hhead <;> simp only <;> omega
    · cases hy
  · split_ifs at hy with hodd
    · cases hy
    · obtain rfl := List.mem_singleton.mp hy
      split_ifs at hhead <;> simp only <;> omega

theorem exists_mem_pieces {A len b : ℕ} (hb : A / 512 ≤ b) (hend : b < (A + len + 511) / 512)  :
    ∃ y ∈ pieces A len, y.1 / 512 ≤ b ∧ b < y.1 / 512 + y.2 := by
  have hhead : headBytes A len = if A % 512 = 0 then 0 else min len (512 - A % 512) := rfl
  have hbody : bodyStart A = (A + 511) / 512 * 512 := rfl
  unfold pieces headPart bodyPart lastPart
  simp only [List.mem_append]
  by_cases hfirst : b < bodyStart A / 512
  · have hA : ¬ A % 512 = 0 := by omega
    rw [if_neg hA]
    exact ⟨_, .inl (.inl (List.mem_singleton_self _)), by simp only; omega, by simp only; omega⟩
  · by_cases hmid : b < bodyStart A / 512 + (len - headBytes A len) / 512
    · have hpos : 0 < (len - headBytes A len) / 512 := by omega
      rw [if_pos hpos]
      exact ⟨_, .inl (.inr (List.mem_singleton_self _)), by simp only; omega, by simp only; omega⟩
    · have hodd : ¬ (len - headBytes A len) % 512 = 0 := by
        split_ifs at hhead <;> omega
      rw [if_neg hodd]
      refine ⟨_, .inr (List.mem_singleton_self _), by simp only; omega, ?_⟩
      simp only
      split_ifs at hhead <;> omega

/-- The calls of a list that are found valid, as far as all before them are, are for blocks that
the card has. -/
def Fits (c : Card) : List (ℕ × ℕ) → Prop
  | [] => True
  | (B, n) :: rest =>
    c.iValidateBlockCount B n = true → B / 512 + n ≤ c.SectorCount.toNat ∧ Fits c rest

theorem Fits.of_append (h : Fits c (p ++ q)) : Fits c p := by
  induction p with
  | nil => exact trivial
  | cons x rest ih => exact fun hvalid => ⟨(h hvalid).1, ih (h hvalid).2⟩

theorem Fits.append (h : Fits c p)
    (hq : (∀ y ∈ p, c.iValidateBlockCount y.1 y.2 = true) → Fits c q) : Fits c (p ++ q) := by
  induction p with
  | nil => exact hq nofun
  | cons x rest ih =>
    intro hvalid
    refine ⟨(h hvalid).1, ih (h hvalid).2 fun hall => hq fun y hy => ?_⟩
    rcases List.mem_cons.mp hy with rfl | hy
    · exact hvalid
    · exact hall y hy

theorem fits_same (h : c.Same c') (p : List (ℕ × ℕ)) : Fits c' p ↔ Fits c p := by
  induction p with
  | nil => exact Iff.rfl
  | cons x rest ih =>
    simp only [Fits, h.iValidateBlockCount_eq, h.2, ih]

/-- **What is asked of the controller** is for blocks that the card has. -/
theorem Walked.onCard (h : Walked o c p c' b) (hfits : Fits c p) :
    ∀ t ∈ c'.transfers, t ∈ c.transfers ∨
      ∃ y ∈ p, t = ⟨y.1 / 512, y.2⟩ ∧ y.1 / 512 + y.2 ≤ c.SectorCount.toNat := by
  have hcall : ∀ {c c₁ : Card} {B n : ℕ} {rest : List (ℕ × ℕ)}, Added o c c₁ B n →
      Fits c ((B, n) :: rest) → ∀ t ∈ c₁.transfers, t ∈ c.transfers ∨
        t = ⟨B / 512, n⟩ ∧ B / 512 + n ≤ c.SectorCount.toNat := by
    intro c c₁ B n rest hadded hfits t ht
    have hcount := c.SectorCount.toNat_lt
    rw [hadded.transfers, List.mem_append] at ht
    refine ht.imp_right fun ht => ?_
    split_ifs at ht with hpass
    · have hroom := (hfits (Card.valid_of_passes hpass)).1
      have hblock : Card.blockAddress B = B / 512 :=
        Nat.mod_eq_of_lt (lt_of_le_of_lt (Nat.le_add_right _ n) (hroom.trans_lt hcount))
      rw [List.mem_singleton.mp ht, hblock]
      exact ⟨rfl, hroom⟩
    · cases ht
  induction h with
  | done => exact fun t ht => .inl ht
  | stop rest hadded _ =>
    intro t ht
    exact (hcall hadded hfits t ht).imp_right fun h => ⟨_, List.mem_cons_self, h⟩
  | step hadded hok _ ih =>
    intro t ht
    have hvalid := Card.valid_of_passes (Card.passes_of_succeeds hok)
    rcases ih ((fits_same hadded.same _).mpr (hfits hvalid).2) t ht with ht | ⟨y, hy, heq, hroom⟩
    · exact (hcall hadded hfits t ht).imp_right fun h => ⟨_, List.mem_cons_self, h⟩
    · exact .inr ⟨y, List.mem_cons_of_mem _ hy, heq, hadded.same.2 ▸ hroom⟩

theorem Walked.fits {A len : ℕ} (h : Walked good c p c' b)
    (hp : ∀ y ∈ p, Within A len (y.1 / 512) y.2) (hlen : len < 2 ^ 32)
    (hcard : ∀ t ∈ c'.transfers, Within A len t.ulBlockAddress t.ulBlockCount ∧
      t.ulBlockAddress + t.ulBlockCount ≤ c.SectorCount.toNat) : Fits c p := by
  have hcall : ∀ {c c₁ c' : Card} {B n : ℕ}, Added good c c₁ B n →
      Within A len (B / 512) n → (∀ t ∈ c₁.transfers, t ∈ c'.transfers) →
      (∀ t ∈ c'.transfers, Within A len t.ulBlockAddress t.ulBlockCount ∧
        t.ulBlockAddress + t.ulBlockCount ≤ c.SectorCount.toNat) →
      c.iValidateBlockCount B n = true → B / 512 + n ≤ c.SectorCount.toNat := by
    intro c c₁ c' B n hadded hB hmono hcard hvalid
    have hpass : c.passes good B n = true := by rw [Card.passes, hvalid]; rfl
    have hmem : (⟨Card.blockAddress B, n⟩ : Transfer) ∈ c₁.transfers := by
      rw [hadded.transfers, if_pos hpass]
      exact List.mem_append_right _ (List.mem_singleton_self _)
    obtain ⟨hwithin, hroom⟩ := hcard _ (hmono _ hmem)
    have hblock : Card.blockAddress B = B / 512 % 2 ^ 32 := rfl
    unfold Within at hwithin hB
    simp only [hblock] at hwithin hroom
    omega
  induction h with
  | done => exact trivial
  | stop rest hadded hok =>
    intro hvalid
    rw [Card.succeeds_good, hvalid] at hok
    cases hok
  | step hadded _ hrest ih =>
    intro hvalid
    refine ⟨hcall hadded (hp _ List.mem_cons_self) hrest.transfers_mono hcard hvalid,
      (fits_same hadded.same _).mp (ih (fun y hy => hp y (List.mem_cons_of_mem _ hy)) ?_)⟩
    rw [hadded.same.2]
    exact hcard

/-! ### How an access goes -/

def restBytes (A len : ℕ) : ℕ := len - headBytes A len

def lastCall (A len : ℕ) : ℕ × ℕ := (bodyStart A + restBytes A len / 512 * 512, 1)

/-- After a first block and whole blocks, too few bytes are left for the count of step 2. -/
def Slips (A len : ℕ) : Prop :=
  0 < headBytes A len ∧ 0 < restBytes A len / 512 ∧ restBytes A len % 512 ≤ headBytes A len

/-- A write reads a block before it writes it. -/
def again (write : Bool) (p : List (ℕ × ℕ)) : List (ℕ × ℕ) := if write then p ++ p else p

def firstCalls (write : Bool) (A len : ℕ) : List (ℕ × ℕ) :=
  again write (headPart A) ++ bodyPart A (restBytes A len)

def lastCalls (write : Bool) (A len : ℕ) : List (ℕ × ℕ) :=
  again write (lastPart A (restBytes A len))

/-- How an access goes: with its status and the card, or out of a buffer. -/
inductive Goes (o : ℕ → Call) (c : Card) (A len : ℕ) (write : Bool) : Option (Bool × Card) → Prop
  | walks {c' : Card} {st b : Bool} : ¬ Slips A len →
      Walked o c (firstCalls write A len ++ lastCalls write A len) c' b →
      (st = true → ∀ y ∈ pieces A len, y ∈ c'.asked) → Goes o c A len write (some (st, c'))
  | stops {c' : Card} : Slips A len → Walked o c (firstCalls write A len) c' false →
      Goes o c A len write (some (false, c'))
  | leaves {c' : Card} : Slips A len → restBytes A len % 512 = headBytes A len →
      Walked o c (firstCalls write A len) c' true → Goes o c A len write (some (true, c'))
  | strays {c' : Card} : Slips A len → restBytes A len % 512 < headBytes A len →
      Walked o c (firstCalls write A len) c' true →
      (write = true → c'.succeeds o (lastCall A len).1 (lastCall A len).2 = true) →
      Goes o c A len write none
  | spares {c' c'' : Card} : write = true → Slips A len →
      restBytes A len % 512 < headBytes A len → Walked o c (firstCalls write A len) c' true →
      c'.succeeds o (lastCall A len).1 (lastCall A len).2 = false →
      Added o c' c'' (lastCall A len).1 (lastCall A len).2 →
      Goes o c A len write (some (true, c''))

@[simp] theorem again_nil (write : Bool) : again write [] = [] := by
  cases write <;> rfl

theorem mem_again {write : Bool} {y : ℕ × ℕ} : y ∈ again write p ↔ y ∈ p := by
  cases write <;> simp [again]

theorem left_of_not_slips {A len l : ℕ} (hmax : len < 2 ^ 32) (h : ¬ Slips A len)
    (hl : l = if 0 < restBytes A len / 512 then
      (restBytes A len + 2 ^ 32 - (headBytes A len + restBytes A len / 512 * 512)) % 2 ^ 32
      else restBytes A len) :
    l < 512 ∧ (l % 512 = 0 ↔ restBytes A len % 512 = 0) ∧
      headBytes A len + restBytes A len / 512 * 512 + l ≤ len := by
  have hrest : restBytes A len = len - headBytes A len := rfl
  have hhead : headBytes A len ≤ len := by
    unfold headBytes
    split_ifs <;> omega
  unfold Slips at h
  split_ifs at hl <;> omega

theorem left_of_slips {A len l : ℕ} (hmax : len < 2 ^ 32) (h : Slips A len)
    (hl : l = if 0 < restBytes A len / 512 then
      (restBytes A len + 2 ^ 32 - (headBytes A len + restBytes A len / 512 * 512)) % 2 ^ 32
      else restBytes A len) :
    if restBytes A len % 512 = headBytes A len then l = 0 else l % 512 ≠ 0 ∧ 512 < l := by
  have hrest : restBytes A len = len - headBytes A len := rfl
  have hhead : headBytes A len ≤ len ∧ headBytes A len < 512 := by
    unfold headBytes
    split_ifs <;> omega
  obtain ⟨hpos, hsome, hle⟩ := h
  rw [if_pos hsome] at hl
  split_ifs with heq <;> omega

theorem Goes.of_failed {A len : ℕ} {write : Bool}
    (h : Walked o c (firstCalls write A len) c' false) :
    Goes o c A len write (some (false, c')) := by
  by_cases hslip : Slips A len
  · exact .stops hslip h
  · exact .walks hslip (h.append_of_failed _) nofun

theorem Goes.of_head {A len : ℕ} {write st : Bool} (hzero : restBytes A len = 0)
    (hwalk : Walked o c (again write (headPart A)) c' b)
    (hasked : st = true → ∀ y ∈ headPart A, y ∈ c'.asked) :
    Goes o c A len write (some (st, c')) := by
  have hslip : ¬ Slips A len := fun hslip => by
    have hsome := hslip.2.1
    omega
  have hbody : bodyPart A (restBytes A len) = [] := if_neg (by omega)
  have hlast : lastPart A (restBytes A len) = [] := if_pos (by omega)
  refine .walks (b := b) hslip ?_ ?_
  · rw [firstCalls, lastCalls, hbody, hlast, again_nil, List.append_nil, List.append_nil]
    exact hwalk
  · intro hst y hy
    change y ∈ headPart A ++ bodyPart A (restBytes A len) ++ lastPart A (restBytes A len) at hy
    rw [hbody, hlast, List.append_nil, List.append_nil] at hy
    exact hasked hst y hy

/-! ### A write -/

section Write

variable {data : List UInt8} {A len : ℕ}

theorem writeBlocks_walked (o : ℕ → Call) (data : List UInt8) {s : WriteState}
    (hs : s.iWriteStatus = true)
    (hk : s.ulTotalBytesWritten + s.ulBytesToWrite / 512 * 512 ≤ data.length)
    (hmax : data.length < 2 ^ 32) :
    ∃ s' b, writeBlocks o data s = some s' ∧
      Walked o s.card
        (if 0 < s.ulBytesToWrite / 512 then [(s.ullAddr, s.ulBytesToWrite / 512)] else [])
        s'.card b ∧ s'.iWriteStatus = b ∧
      (b = true → s'.ullAddr = s.ullAddr + s.ulBytesToWrite / 512 * 512 ∧
        s'.ulTotalBytesWritten = s.ulTotalBytesWritten + s.ulBytesToWrite / 512 * 512 ∧
        s'.ulBytesToWrite = if 0 < s.ulBytesToWrite / 512 then
          (s.ulBytesToWrite + 2 ^ 32 -
            (s.ulTotalBytesWritten + s.ulBytesToWrite / 512 * 512)) % 2 ^ 32
          else s.ulBytesToWrite) := by
  unfold writeBlocks
  rw [HAL_EMMC_BLOCK_SIZE]
  by_cases hpos : 0 < s.ulBytesToWrite / 512
  · obtain ⟨w, hw, hadded, hok⟩ := write_added o s.card s.ullAddr (s.ulBytesToWrite / 512) data _ hk
    have htotal : (s.ulTotalBytesWritten + s.ulBytesToWrite / 512 * 512) % 2 ^ 32
        = s.ulTotalBytesWritten + s.ulBytesToWrite / 512 * 512 := Nat.mod_eq_of_lt (by omega)
    simp only [if_pos hpos, hw, Option.map_some, htotal]
    refine ⟨_, _, rfl, ?_, rfl, ?_⟩
    · have hone := Walked.one hadded
      rw [← hok] at hone
      cases hw₁ : w.1 <;> rw [hw₁] at hone <;> exact hone
    · cases w.1
      · exact fun h => absurd h Bool.false_ne_true
      · exact fun _ => ⟨rfl, rfl, rfl⟩
  · have hzero : s.ulBytesToWrite / 512 = 0 := by omega
    simp only [if_neg hpos, hzero]
    exact ⟨s, true, rfl, .done s.card, hs, fun _ => ⟨rfl, rfl, rfl⟩⟩

theorem writeLast_walked (o : ℕ → Call) (data : List UInt8) {s : WriteState}
    (hs : s.iWriteStatus = true) (hl : s.ulBytesToWrite < 512)
    (hk : s.ulTotalBytesWritten + s.ulBytesToWrite ≤ data.length) :
    ∃ s' b, writeLast o data s = some s' ∧
      Walked o s.card (again true (if s.ulBytesToWrite % 512 = 0 then [] else [(s.ullAddr, 1)]))
        s'.card b ∧
      (s.ulBytesToWrite % 512 ≠ 0 → (s.ullAddr, 1) ∈ s'.card.asked) := by
  have hbuffer := length_blockBuffer
  unfold writeLast
  rw [HAL_EMMC_BLOCK_SIZE]
  by_cases hzero : s.ulBytesToWrite % 512 = 0
  · rw [if_neg fun hcond => hcond.2 hzero, if_pos hzero]
    exact ⟨s, true, rfl, .done s.card, fun hodd => absurd hzero hodd⟩
  rw [if_pos ⟨hs, hzero⟩, if_neg hzero]
  obtain ⟨r, hr, hadded, hok, hrlen⟩ :=
    read_added o s.card s.ullAddr 1 blockBuffer 0 (by omega)
  rw [hr, Option.bind_some]
  cases hread : r.1
  · refine ⟨_, false, rfl, ?_, fun _ => ?_⟩
    · exact .stop _ hadded (hok ▸ hread)
    · change _ ∈ r.2.2.asked
      rw [hadded.asked]
      exact List.mem_append_right _ (List.mem_singleton_self _)
  · have hchunk : ((data.drop s.ulTotalBytesWritten).take s.ulBytesToWrite).length
        = s.ulBytesToWrite := by
      rw [List.length_take, List.length_drop]
      omega
    have hcopy : memcpy r.2.1 0 data s.ulTotalBytesWritten s.ulBytesToWrite
        = some (splice r.2.1 0 ((data.drop s.ulTotalBytesWritten).take s.ulBytesToWrite)) :=
      if_pos ⟨by omega, hk⟩
    obtain ⟨w, hw, hadded', hok'⟩ := write_added o r.2.2 s.ullAddr 1
      (splice r.2.1 0 ((data.drop s.ulTotalBytesWritten).take s.ulBytesToWrite)) 0
      (by rw [length_splice] <;> omega)
    have hwalk : Walked o s.card [(s.ullAddr, 1), (s.ullAddr, 1)] w.2 w.1 := by
      rw [hok']
      exact .step hadded (hok ▸ hread) (.one hadded')
    rw [if_pos rfl, hcopy, Option.bind_some, hw]
    exact ⟨_, w.1, rfl, hwalk, fun _ => hwalk.first_mem⟩

theorem writeLast_strays (o : ℕ → Call) (data : List UInt8) {s : WriteState}
    (hs : s.iWriteStatus = true) (hodd : s.ulBytesToWrite % 512 ≠ 0)
    (hbig : 512 < s.ulBytesToWrite) :
    ∃ c', Added o s.card c' s.ullAddr 1 ∧
      if s.card.succeeds o s.ullAddr 1 then writeLast o data s = none
      else writeLast o data s = some { s with card := c' } := by
  have hbuffer := length_blockBuffer
  obtain ⟨r, hr, hadded, hok, hrlen⟩ :=
    read_added o s.card s.ullAddr 1 blockBuffer 0 (by omega)
  have hcopy : memcpy r.2.1 0 data s.ulTotalBytesWritten s.ulBytesToWrite = none :=
    if_neg (by omega)
  have hrun : writeLast o data s = if r.1 then none else some { s with card := r.2.2 } := by
    unfold writeLast
    rw [HAL_EMMC_BLOCK_SIZE, if_pos ⟨hs, hodd⟩, hr, Option.bind_some, hcopy, Option.bind_none]
  refine ⟨r.2.2, hadded, ?_⟩
  rw [hrun, ← hok]
  cases r.1 <;> rfl

theorem writeRest_goes {s : WriteState} (hwalk : Walked o c (again true (headPart A)) s.card true)
    (hs : s.iWriteStatus = true) (haddr : s.ullAddr = bodyStart A)
    (htotal : s.ulTotalBytesWritten = headBytes A len) (hleft : s.ulBytesToWrite = restBytes A len)
    (hlen : data.length = len) (hmax : len < 2 ^ 32) (hhead : headBytes A len ≤ len) :
    Goes o c A len true (((writeBlocks o data s).bind (writeLast o data)).map fun s =>
      (s.iWriteStatus, s.card)) := by
  have hrest : restBytes A len = len - headBytes A len := rfl
  obtain ⟨t, b, ht, hbody, hst, hfields⟩ :=
    writeBlocks_walked o data hs (by omega) (by omega)
  rw [haddr, htotal, hleft] at hfields
  rw [haddr, hleft] at hbody
  have hbegin : Walked o c (firstCalls true A len) t.card b := hwalk.append hbody
  rw [ht, Option.bind_some]
  cases b with
  | false =>
    have hstop : writeLast o data t = some t := if_neg (by simp [hst])
    rw [hstop, Option.map_some, hst]
    exact .of_failed hbegin
  | true =>
    obtain ⟨haddr', htotal', hleft'⟩ := hfields rfl
    by_cases hslip : Slips A len
    · -- the count is wrong
      have hwrong := left_of_slips hmax hslip hleft'
      split_ifs at hwrong with heq
      · have hstop : writeLast o data t = some t := if_neg (by simp [hwrong])
        rw [hstop, Option.map_some, hst]
        exact .leaves hslip heq hbegin
      · have hlt := lt_of_le_of_ne hslip.2.2 heq
        obtain ⟨c', hadded, hrun⟩ := writeLast_strays o data hst hwrong.1 hwrong.2
        rw [haddr'] at hadded hrun
        split_ifs at hrun with hok
        · rw [hrun, Option.map_none]
          exact .strays hslip hlt hbegin fun _ => hok
        · rw [hrun, Option.map_some, hst]
          exact .spares rfl hslip hlt hbegin (Bool.not_eq_true _ ▸ hok) hadded
    · obtain ⟨hsmall, hodd, hroom⟩ := left_of_not_slips hmax hslip hleft'
      obtain ⟨u, b, hu, hlast, hasked⟩ :=
        writeLast_walked o data hst hsmall (by omega)
      rw [haddr'] at hasked hlast
      have hcalls : Walked o t.card (lastCalls true A len) u.card b := by
        unfold lastCalls lastPart
        simpa only [hodd] using hlast
      have hall : Walked o c (firstCalls true A len ++ lastCalls true A len) u.card b :=
        hbegin.append hcalls
      rw [hu, Option.map_some]
      refine .walks hslip hall fun _ y hy => ?_
      rcases List.mem_append.mp hy with hy | hy
      · refine hcalls.asked_mono _ (hbegin.all_asked _ ?_)
        rw [firstCalls, List.mem_append, mem_again]
        exact List.mem_append.mp hy
      · change y ∈ lastPart A (restBytes A len) at hy
        unfold lastPart at hy
        split_ifs at hy with hzero
        · cases hy
        · rw [List.mem_singleton.mp hy]
          exact hasked (mt hodd.mp hzero)

/-- **How a write goes.** -/
theorem writeSteps_goes (o : ℕ → Call) (c : Card) (A : ℕ) (hlen : data.length = len)
    (hmax : len < 2 ^ 32) :
    Goes o c A len true ((writeSteps o c A data len).map fun s => (s.iWriteStatus, s.card)) := by
  have hhead : headBytes A len = if A % 512 = 0 then 0 else min len (512 - A % 512) := rfl
  have hbody : bodyStart A = (A + 511) / 512 * 512 := rfl
  have hrest : restBytes A len = len - headBytes A len := rfl
  unfold writeSteps writeFirst
  rw [HAL_EMMC_BLOCK_SIZE]
  by_cases hA : A % 512 = 0
  · have hpart : headPart A = [] := if_pos hA
    rw [if_pos hA] at hhead
    simp only [hA, ne_eq, not_true_eq_false, if_false, Option.bind_some, true_and]
    by_cases hzero : len = 0
    · rw [if_neg (by omega)]
      refine .of_head (b := true) (by omega) ?_ ?_
      · rw [hpart]
        exact .done c
      · rw [hpart]
        exact fun _ _ hy => absurd hy List.not_mem_nil
    · rw [if_pos (by omega)]
      refine writeRest_goes ?_ rfl (by simp only; omega) hhead.symm (by simp only; omega) hlen hmax
        (by omega)
      rw [hpart]
      exact .done c
  · have hpart : headPart A = [(A / 512 * 512, 1)] := if_neg hA
    have hstart : A - A % 512 = A / 512 * 512 := by omega
    rw [if_neg hA] at hhead
    have hfirst : firstBytes len (A % 512) = headBytes A len := by
      unfold firstBytes
      rw [HAL_EMMC_BLOCK_SIZE]
      split_ifs <;> omega
    have hbuffer := length_blockBuffer
    simp only [ne_eq, hA, not_false_eq_true, if_true, hstart, hfirst]
    obtain ⟨r, hr, hadded, hok, hrlen⟩ :=
      read_added o c (A / 512 * 512) 1 blockBuffer 0 (by omega)
    rw [hr, Option.bind_some]
    cases hread : r.1
    · -- the first block cannot be read
      simp only [Bool.false_eq_true, if_false, Option.bind_some, false_and, Option.map_some]
      have hstop : Walked o c (again true (headPart A)) r.2.2 false := by
        rw [hpart]
        exact .stop _ hadded (hok ▸ hread)
      exact .of_failed (hstop.append_of_failed _)
    have hchunk : ((data.drop 0).take (headBytes A len)).length = headBytes A len := by
      rw [List.length_take, List.length_drop]
      omega
    have hcopy : memcpy r.2.1 (A % 512) data 0 (headBytes A len)
        = some (splice r.2.1 (A % 512) ((data.drop 0).take (headBytes A len))) :=
      if_pos ⟨by omega, by omega⟩
    obtain ⟨w, hw, hadded', hok'⟩ := write_added o r.2.2 (A / 512 * 512) 1
      (splice r.2.1 (A % 512) ((data.drop 0).take (headBytes A len))) 0
      (by rw [length_splice] <;> omega)
    have hwalk : Walked o c (again true (headPart A)) w.2 w.1 := by
      rw [hok', hpart]
      exact .step hadded (hok ▸ hread) (.one hadded')
    simp only [if_true, hcopy, Option.bind_some, hw, Option.map_some]
    cases hwrite : w.1
    · -- it cannot be written
      rw [hwrite] at hwalk
      simp only [Bool.false_eq_true, if_false, false_and, Option.map_some]
      exact .of_failed (hwalk.append_of_failed _)
    rw [hwrite] at hwalk
    simp only [if_true, true_and]
    by_cases hmore : headBytes A len < len
    · rw [if_pos hmore]
      exact writeRest_goes hwalk rfl (by simp only; omega) rfl rfl hlen hmax (by omega)
    · rw [if_neg hmore, Option.map_some]
      exact .of_head (by omega) hwalk fun _ y hy => hwalk.all_asked y (mem_again.mpr hy)

end Write

/-! ### A read -/

section Read

variable {buf : List UInt8} {A len : ℕ}

theorem readBlocks_walked (o : ℕ → Call) {s : ReadState} (hs : s.iReadStatus = true)
    (hk : s.ulTotalBytesRead + s.ulBytesToRead / 512 * 512 ≤ s.pucData.length)
    (hmax : s.pucData.length < 2 ^ 32) :
    ∃ s' b, readBlocks o s = some s' ∧
      Walked o s.card
        (if 0 < s.ulBytesToRead / 512 then [(s.ullAddr, s.ulBytesToRead / 512)] else [])
        s'.card b ∧ s'.iReadStatus = b ∧ s'.pucData.length = s.pucData.length ∧
      (b = true → s'.ullAddr = s.ullAddr + s.ulBytesToRead / 512 * 512 ∧
        s'.ulTotalBytesRead = s.ulTotalBytesRead + s.ulBytesToRead / 512 * 512 ∧
        s'.ulBytesToRead = if 0 < s.ulBytesToRead / 512 then
          (s.ulBytesToRead + 2 ^ 32 -
            (s.ulTotalBytesRead + s.ulBytesToRead / 512 * 512)) % 2 ^ 32
          else s.ulBytesToRead) := by
  unfold readBlocks
  rw [HAL_EMMC_BLOCK_SIZE]
  by_cases hpos : 0 < s.ulBytesToRead / 512
  · obtain ⟨r, hr, hadded, hok, hrlen⟩ :=
      read_added o s.card s.ullAddr (s.ulBytesToRead / 512) s.pucData _ hk
    have htotal : (s.ulTotalBytesRead + s.ulBytesToRead / 512 * 512) % 2 ^ 32
        = s.ulTotalBytesRead + s.ulBytesToRead / 512 * 512 := Nat.mod_eq_of_lt (by omega)
    simp only [if_pos hpos, hr, Option.map_some, htotal]
    refine ⟨_, _, rfl, ?_, rfl, ?_, ?_⟩
    · have hone := Walked.one hadded
      rw [← hok] at hone
      cases hr₁ : r.1 <;> rw [hr₁] at hone <;> exact hone
    · cases r.1 <;> exact hrlen
    · cases r.1
      · exact fun h => absurd h Bool.false_ne_true
      · exact fun _ => ⟨rfl, rfl, rfl⟩
  · have hzero : s.ulBytesToRead / 512 = 0 := by omega
    simp only [if_neg hpos, hzero]
    exact ⟨s, true, rfl, .done s.card, hs, rfl, fun _ => ⟨rfl, rfl, rfl⟩⟩

theorem readLast_walked (o : ℕ → Call) {s : ReadState} (hs : s.iReadStatus = true)
    (hl : s.ulBytesToRead < 512) (hk : s.ulTotalBytesRead + s.ulBytesToRead ≤ s.pucData.length) :
    ∃ s' b, readLast o s = some s' ∧
      Walked o s.card (if s.ulBytesToRead % 512 = 0 then [] else [(s.ullAddr, 1)]) s'.card b ∧
      (s.ulBytesToRead % 512 ≠ 0 → (s.ullAddr, 1) ∈ s'.card.asked) := by
  have hbuffer := length_blockBuffer
  unfold readLast
  rw [HAL_EMMC_BLOCK_SIZE]
  by_cases hzero : s.ulBytesToRead % 512 = 0
  · rw [if_neg fun hcond => hcond.2 hzero, if_pos hzero]
    exact ⟨s, true, rfl, .done s.card, fun hodd => absurd hzero hodd⟩
  rw [if_pos ⟨hs, hzero⟩, if_neg hzero]
  obtain ⟨r, hr, hadded, hok, hrlen⟩ := read_added o s.card s.ullAddr 1 blockBuffer 0 (by omega)
  have hchunk : ((r.2.1.drop 0).take s.ulBytesToRead).length = s.ulBytesToRead := by
    rw [List.length_take, List.length_drop]
    omega
  have hcopy : memcpy s.pucData s.ulTotalBytesRead r.2.1 0 s.ulBytesToRead
      = some (splice s.pucData s.ulTotalBytesRead ((r.2.1.drop 0).take s.ulBytesToRead)) :=
    if_pos ⟨by omega, by omega⟩
  rw [hr, Option.bind_some, hcopy]
  have hwalk : Walked o s.card [(s.ullAddr, 1)] r.2.2 (s.card.succeeds o s.ullAddr 1) :=
    .one hadded
  exact ⟨_, _, rfl, hwalk, fun _ => hwalk.first_mem⟩

theorem readLast_strays (o : ℕ → Call) {s : ReadState} (hs : s.iReadStatus = true)
    (hodd : s.ulBytesToRead % 512 ≠ 0) (hbig : 512 < s.ulBytesToRead) : readLast o s = none := by
  have hbuffer := length_blockBuffer
  obtain ⟨r, hr, -, -, hrlen⟩ := read_added o s.card s.ullAddr 1 blockBuffer 0 (by omega)
  have hcopy : memcpy s.pucData s.ulTotalBytesRead r.2.1 0 s.ulBytesToRead = none :=
    if_neg (by omega)
  unfold readLast
  rw [HAL_EMMC_BLOCK_SIZE, if_pos ⟨hs, hodd⟩, hr, Option.bind_some, hcopy, Option.map_none]

theorem readRest_goes {s : ReadState} (hwalk : Walked o c (again false (headPart A)) s.card true)
    (hs : s.iReadStatus = true) (haddr : s.ullAddr = bodyStart A)
    (htotal : s.ulTotalBytesRead = headBytes A len) (hleft : s.ulBytesToRead = restBytes A len)
    (hlen : s.pucData.length = len) (hmax : len < 2 ^ 32) (hhead : headBytes A len ≤ len) :
    Goes o c A len false (((readBlocks o s).bind (readLast o)).map fun s =>
      (s.iReadStatus, s.card)) := by
  have hrest : restBytes A len = len - headBytes A len := rfl
  obtain ⟨t, b, ht, hbody, hst, hdata, hfields⟩ := readBlocks_walked o hs (by omega) (by omega)
  rw [haddr, htotal, hleft] at hfields
  rw [haddr, hleft] at hbody
  have hbegin : Walked o c (firstCalls false A len) t.card b := hwalk.append hbody
  rw [ht, Option.bind_some]
  cases b with
  | false =>
    have hstop : readLast o t = some t := if_neg (by simp [hst])
    rw [hstop, Option.map_some, hst]
    exact .of_failed hbegin
  | true =>
    obtain ⟨haddr', htotal', hleft'⟩ := hfields rfl
    by_cases hslip : Slips A len
    · -- the count is wrong
      have hwrong := left_of_slips hmax hslip hleft'
      split_ifs at hwrong with heq
      · have hstop : readLast o t = some t := if_neg (by simp [hwrong])
        rw [hstop, Option.map_some, hst]
        exact .leaves hslip heq hbegin
      · rw [readLast_strays o hst hwrong.1 hwrong.2, Option.map_none]
        exact .strays hslip (lt_of_le_of_ne hslip.2.2 heq) hbegin nofun
    · obtain ⟨hsmall, hodd, hroom⟩ := left_of_not_slips hmax hslip hleft'
      obtain ⟨u, b, hu, hlast, hasked⟩ := readLast_walked o hst hsmall (by omega)
      rw [haddr'] at hasked hlast
      have hcalls : Walked o t.card (lastCalls false A len) u.card b := by
        change Walked o t.card (lastPart A (restBytes A len)) u.card b
        unfold lastPart
        simpa only [hodd] using hlast
      rw [hu, Option.map_some]
      refine .walks hslip (hbegin.append hcalls) fun _ y hy => ?_
      rcases List.mem_append.mp hy with hy | hy
      · refine hcalls.asked_mono _ (hbegin.all_asked _ ?_)
        rw [firstCalls, List.mem_append, mem_again]
        exact List.mem_append.mp hy
      · change y ∈ lastPart A (restBytes A len) at hy
        unfold lastPart at hy
        split_ifs at hy with hzero
        · cases hy
        · rw [List.mem_singleton.mp hy]
          exact hasked (mt hodd.mp hzero)

/-- **How a read goes.** -/
theorem readSteps_goes (o : ℕ → Call) (c : Card) (A : ℕ) (hlen : buf.length = len)
    (hpos : 0 < len) (hmax : len < 2 ^ 32) :
    Goes o c A len false ((readSteps o c A buf len).map fun s => (s.iReadStatus, s.card)) := by
  have hhead : headBytes A len = if A % 512 = 0 then 0 else min len (512 - A % 512) := rfl
  have hbody : bodyStart A = (A + 511) / 512 * 512 := rfl
  have hrest : restBytes A len = len - headBytes A len := rfl
  unfold readSteps readFirst
  rw [HAL_EMMC_BLOCK_SIZE]
  by_cases hA : A % 512 = 0
  · have hpart : headPart A = [] := if_pos hA
    rw [if_pos hA] at hhead
    simp only [hA, ne_eq, not_true_eq_false, if_false, Option.bind_some, true_and, if_pos hpos]
    refine readRest_goes ?_ rfl (by simp only; omega) hhead.symm (by simp only; omega) hlen hmax
      (by omega)
    rw [hpart]
    exact .done c
  · have hpart : headPart A = [(A / 512 * 512, 1)] := if_neg hA
    have hstart : A - A % 512 = A / 512 * 512 := by omega
    rw [if_neg hA] at hhead
    have hfirst : firstBytes len (A % 512) = headBytes A len := by
      unfold firstBytes
      rw [HAL_EMMC_BLOCK_SIZE]
      split_ifs <;> omega
    have hbuffer := length_blockBuffer
    simp only [ne_eq, hA, not_false_eq_true, if_true, hstart, hfirst]
    obtain ⟨r, hr, hadded, hok, hrlen⟩ :=
      read_added o c (A / 512 * 512) 1 blockBuffer 0 (by omega)
    have hwalk : Walked o c (again false (headPart A)) r.2.2 r.1 := by
      rw [hok, hpart]
      exact .one hadded
    rw [hr, Option.bind_some]
    cases hread : r.1
    · -- the first block cannot be read
      rw [hread] at hwalk
      simp only [Bool.false_eq_true, if_false, Option.bind_some, false_and, Option.map_some]
      exact .of_failed (hwalk.append_of_failed _)
    rw [hread] at hwalk
    have hchunk : ((r.2.1.drop (A % 512)).take (headBytes A len)).length = headBytes A len := by
      rw [List.length_take, List.length_drop]
      omega
    have hcopy : memcpy buf 0 r.2.1 (A % 512) (headBytes A len)
        = some (splice buf 0 ((r.2.1.drop (A % 512)).take (headBytes A len))) :=
      if_pos ⟨by omega, by omega⟩
    simp only [if_true, hcopy, Option.bind_some, Option.map_some, true_and]
    by_cases hmore : headBytes A len < len
    · rw [if_pos hmore]
      refine readRest_goes hwalk rfl (by simp only; omega) rfl rfl ?_ hmax (by omega)
      simp only
      rw [length_splice] <;> omega
    · rw [if_neg hmore, Option.map_some]
      exact .of_head (by omega) hwalk fun _ => hwalk.all_asked

end Read

/-! ### Accesses in order -/

/-- The calls are for the blocks of the access and no others, all of them if it succeeds, and what
is asked of the controller is these blocks, on the card. -/
structure ExactCalls (A len : ℕ) (SectorCount : UInt32) (st : Bool) (c : Card) : Prop where
  inside : ∀ y ∈ c.asked, 512 ∣ y.1 ∧ Within A len (y.1 / 512) y.2
  onCard : ∀ t ∈ c.transfers, Within A len t.ulBlockAddress t.ulBlockCount ∧
    t.ulBlockAddress + t.ulBlockCount ≤ SectorCount.toNat
  whole : st = true → ∀ b, A / 512 ≤ b → b < (A + len + 511) / 512 →
    ∃ y ∈ c.asked, y.1 / 512 ≤ b ∧ b < y.1 / 512 + y.2

/-- When the calls of an access are in order: the pieces fit, and where the count is wrong step 3 is
not reached, or is for the right block and fails. -/
def CallsHold (c : Card) (A len : ℕ) (write : Bool) : Prop :=
  Fits c (pieces A len) ∧
    (Slips A len → (∀ y ∈ headPart A ++ bodyPart A (restBytes A len),
        c.iValidateBlockCount y.1 y.2 = true) →
      write = true ∧ c.iValidateBlockCount (lastCall A len).1 (lastCall A len).2 = false ∧
        restBytes A len % 512 ≠ 0 ∧ restBytes A len % 512 ≠ headBytes A len)

theorem callsHold_same (h : c.Same c') (A len : ℕ) (write : Bool) :
    CallsHold c' A len write ↔ CallsHold c A len write := by
  simp only [CallsHold, fits_same h, h.iValidateBlockCount_eq]

theorem fits_append_congr {q' : List (ℕ × ℕ)} (h : Fits c q ↔ Fits c q') (p : List (ℕ × ℕ)) :
    Fits c (p ++ q) ↔ Fits c (p ++ q') := by
  induction p with
  | nil => exact h
  | cons x rest ih => simp only [List.cons_append, Fits, ih]

theorem fits_again_append (write : Bool) {p : List (ℕ × ℕ)} (hp : p = [] ∨ ∃ x, p = [x])
    (q : List (ℕ × ℕ)) : Fits c (again write p ++ q) ↔ Fits c (p ++ q) := by
  cases write with
  | false => exact Iff.rfl
  | true =>
    rcases hp with rfl | ⟨x, rfl⟩
    · exact Iff.rfl
    · exact ⟨fun h hvalid => (h hvalid).2 hvalid, fun h hvalid => ⟨(h hvalid).1, h⟩⟩

theorem headPart_eq (A : ℕ) : headPart A = [] ∨ ∃ x, headPart A = [x] := by
  unfold headPart
  split_ifs
  · exact .inl rfl
  · exact .inr ⟨_, rfl⟩

theorem lastPart_eq (A l : ℕ) : lastPart A l = [] ∨ ∃ x, lastPart A l = [x] := by
  unfold lastPart
  split_ifs
  · exact .inl rfl
  · exact .inr ⟨_, rfl⟩

theorem fits_calls (c : Card) (write : Bool) (A len : ℕ) :
    Fits c (firstCalls write A len ++ lastCalls write A len) ↔ Fits c (pieces A len) := by
  have hlast : Fits c (lastCalls write A len) ↔ Fits c (lastPart A (restBytes A len)) := by
    have h := fits_again_append (c := c) write (lastPart_eq A (restBytes A len)) []
    rwa [List.append_nil, List.append_nil] at h
  rw [fits_append_congr hlast, firstCalls, List.append_assoc,
    fits_again_append write (headPart_eq A), ← List.append_assoc]
  exact Iff.rfl

theorem mem_firstCalls {write : Bool} {A len : ℕ} {y : ℕ × ℕ} :
    y ∈ firstCalls write A len ↔ y ∈ headPart A ++ bodyPart A (restBytes A len) := by
  rw [firstCalls, List.mem_append, List.mem_append, mem_again]

theorem mem_calls (write : Bool) {A len : ℕ} {y : ℕ × ℕ} :
    y ∈ firstCalls write A len ++ lastCalls write A len ↔ y ∈ pieces A len := by
  rw [List.mem_append, mem_firstCalls, lastCalls, mem_again, ← List.mem_append]
  exact Iff.rfl

theorem exactCalls_of {A len : ℕ} {st : Bool} (hp : ∀ y ∈ p, y ∈ pieces A len)
    (hwalk : Walked o c p c' b) (hasked : c.asked = []) (htransfers : c.transfers = [])
    (hfits : Fits c p) (hwhole : st = true → ∀ y ∈ pieces A len, y ∈ c'.asked) :
    ExactCalls A len c.SectorCount st c' := by
  refine ⟨fun y hy => ?_, fun t ht => ?_, fun hst b hb hend => ?_⟩
  · have hmem := (hwalk.mem_asked y hy).resolve_left (by simp [hasked])
    obtain ⟨haligned, hwithin, -⟩ := within_of_mem_pieces (hp y hmem)
    exact ⟨haligned, hwithin⟩
  · obtain ⟨y, hy, rfl, hroom⟩ := (hwalk.onCard hfits t ht).resolve_left (by simp [htransfers])
    exact ⟨(within_of_mem_pieces (hp y hy)).2.1, hroom⟩
  · obtain ⟨y, hy, hcover⟩ := exists_mem_pieces hb hend
    exact ⟨y, hwhole hst y hy, hcover⟩

/-- **An access in order**: under the condition no copy leaves its buffer. -/
theorem Goes.exactCalls {A len : ℕ} {write : Bool} {r : Option (Bool × Card)}
    (h : Goes o c A len write r) (hasked : c.asked = []) (htransfers : c.transfers = [])
    (hholds : CallsHold c A len write) :
    ∃ x, r = some x ∧ ExactCalls A len c.SectorCount x.1 x.2 := by
  obtain ⟨hfits, hslips⟩ := hholds
  have hall := (fits_calls c write A len).mpr hfits
  have hfirst : ∀ y ∈ firstCalls write A len, y ∈ pieces A len := fun y hy =>
    (mem_calls write).mp (List.mem_append_left _ hy)
  have hvalid : ∀ {c' : Card}, Walked o c (firstCalls write A len) c' true →
      ∀ y ∈ headPart A ++ bodyPart A (restBytes A len), c.iValidateBlockCount y.1 y.2 = true :=
    fun hwalk y hy => hwalk.valid y (mem_firstCalls.mpr hy)
  cases h with
  | walks _ hwalk hwhole =>
    exact ⟨_, rfl,
      exactCalls_of (fun _ => (mem_calls write).mp) hwalk hasked htransfers hall hwhole⟩
  | stops _ hwalk =>
    exact ⟨_, rfl, exactCalls_of hfirst hwalk hasked htransfers hall.of_append nofun⟩
  | leaves hslip heq hwalk => exact absurd heq (hslips hslip (hvalid hwalk)).2.2.2
  | strays hslip hlt hwalk hok =>
    obtain ⟨hwrite, hinvalid, -⟩ := hslips hslip (hvalid hwalk)
    have hlast := Card.valid_of_passes (Card.passes_of_succeeds (hok hwrite))
    rw [hwalk.same.iValidateBlockCount_eq, hinvalid] at hlast
    cases hlast
  | @spares c₁ c₂ hwrite hslip hlt hwalk hfail hadded =>
    obtain ⟨-, hinvalid, hodd, -⟩ := hslips hslip (hvalid hwalk)
    have hwalk' : Walked o c (firstCalls write A len ++ [lastCall A len]) c₂ false :=
      hwalk.append (hfail ▸ .one hadded)
    have hlast : lastPart A (restBytes A len) = [lastCall A len] := if_neg hodd
    have hmem : ∀ y, y ∈ firstCalls write A len ++ [lastCall A len] ↔ y ∈ pieces A len := by
      intro y
      rw [← mem_calls write, lastCalls, hlast, List.mem_append, List.mem_append,
        mem_again]
    refine ⟨_, rfl, exactCalls_of (fun y => (hmem y).mp) hwalk' hasked htransfers ?_ ?_⟩
    · refine hall.of_append.append fun _ hvalid => ?_
      exact absurd (hinvalid.symm.trans hvalid) Bool.false_ne_true
    · intro _ y hy
      rcases List.mem_append.mp ((hmem y).mpr hy) with hy | hy
      · refine hadded.asked ▸ List.mem_append_left _ (hwalk.all_asked y hy)
      · rw [hadded.asked, List.mem_singleton.mp hy]
        exact List.mem_append_right _ (List.mem_singleton_self _)

/-- **The condition is needed**: an access that is in order when no transfer fails meets it. -/
theorem Goes.callsHold {A len : ℕ} {write : Bool} {x : Bool × Card}
    (h : Goes good c A len write (some x)) (hasked : c.asked = [])
    (hlen : len < 2 ^ 32) (hexact : ExactCalls A len c.SectorCount x.1 x.2) :
    CallsHold c A len write := by
  have hwithin : ∀ y ∈ firstCalls write A len ++ lastCalls write A len,
      Within A len (y.1 / 512) y.2 := fun y hy =>
    (within_of_mem_pieces ((mem_calls write).mp hy)).2.1
  cases h with
  | walks hslip hwalk =>
    exact ⟨(fits_calls c write A len).mp (hwalk.fits hwithin hlen hexact.onCard),
      fun h => absurd h hslip⟩
  | stops hslip hwalk =>
    refine ⟨(fits_calls c write A len).mp
      ((hwalk.append_of_failed _).fits hwithin hlen hexact.onCard), fun _ hvalid => ?_⟩
    exact absurd (fun y hy => hvalid y (mem_firstCalls.mp hy)) hwalk.not_valid
  | leaves hslip heq hwalk =>
    -- the last block is not asked for
    exfalso
    have hhead : headBytes A len = if A % 512 = 0 then 0 else min len (512 - A % 512) := rfl
    have hrest : restBytes A len = len - headBytes A len := rfl
    obtain ⟨hpos, hsome, -⟩ := hslip
    obtain ⟨y, hy, hle, hlt⟩ := hexact.whole rfl ((A + len) / 512)
      (by omega) (by split_ifs at hhead <;> omega)
    have hmem := mem_firstCalls.mp ((hwalk.mem_asked y hy).resolve_left (by simp [hasked]))
    unfold headPart bodyPart bodyStart at hmem
    rw [List.mem_append] at hmem
    split_ifs at hhead hmem with hA
    · omega
    · rcases hmem with hmem | hmem
      · rw [List.mem_singleton.mp hmem] at hlt
        simp only at hlt
        omega
      · rw [List.mem_singleton.mp hmem] at hlt
        simp only at hlt
        omega
  | @spares c₁ c₂ hwrite hslip hlt hwalk hfail hadded =>
    have hinvalid : c.iValidateBlockCount (lastCall A len).1 (lastCall A len).2 = false := by
      rw [Card.succeeds_good, hwalk.same.iValidateBlockCount_eq] at hfail
      exact hfail
    have hodd : restBytes A len % 512 ≠ 0 := by
      -- the block behind the access is asked for
      intro hzero
      have hmem : lastCall A len ∈ c₂.asked := by
        rw [hadded.asked]
        exact List.mem_append_right _ (List.mem_singleton_self _)
      have hin := (hexact.inside _ hmem).2
      have hhead : headBytes A len = if A % 512 = 0 then 0 else min len (512 - A % 512) := rfl
      have hrest : restBytes A len = len - headBytes A len := rfl
      unfold Within lastCall bodyStart at hin
      simp only at hin
      split_ifs at hhead <;> omega
    have hlast : lastPart A (restBytes A len) = [lastCall A len] := if_neg hodd
    refine ⟨?_, fun _ _ => ⟨hwrite, hinvalid, hodd, hlt.ne⟩⟩
    rw [← fits_calls c write, lastCalls, hlast]
    have hfirst : Fits c (firstCalls write A len) := by
      refine hwalk.fits (fun y hy => hwithin y (List.mem_append_left _ hy)) hlen fun t ht =>
        hexact.onCard t ?_
      rw [hadded.transfers]
      exact List.mem_append_left _ ht
    have hnot : Fits c [lastCall A len] := fun hvalid =>
      absurd (hinvalid.symm.trans hvalid) Bool.false_ne_true
    refine hfirst.append fun _ => ?_
    have hagain := fits_again_append (c := c) write (.inr ⟨lastCall A len, rfl⟩) []
    rw [List.append_nil, List.append_nil] at hagain
    exact hagain.mpr hnot

end Calls

end Amr.Emmc
