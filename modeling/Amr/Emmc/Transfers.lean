/-
# What an eMMC access transfers

A successful write leaves the caller's data at its address and every other byte of the card alone,
and a successful read delivers the bytes at its address, for most addresses, lengths and failures of
the driver. The exceptions are exact. A write reports success when the last block cannot be read,
and after a first block that is written in part the count of the bytes that are left is reduced
twice, so that with whole blocks in between the end is left out or the last copy leaves its
buffer.
-/
import Amr.Emmc.Access

namespace Amr.Emmc

open ByteStore

/-- The driver is initialised and call `i` succeeds. -/
def ok (iInitialised : Bool) (o : ℕ → Call) (i : ℕ) : Bool :=
  iInitialised && (o i).taken && (o i).done && (o i).released

/-- A card with these contents, before any call. -/
def card (iInitialised : Bool) (SectorCount : UInt32) (bytes : Store) : Card :=
  ⟨iInitialised, SectorCount, bytes, [], []⟩

def address (cfg : FWIfEmmcCfg) (ullAddrOffset : UInt64) : ℕ :=
  cfg.ullBaseAddress.toNat + ullAddrOffset.toNat

/-- The write stays in its buffers, and if it succeeds the data are on the card and nothing else has
changed. -/
def WriteCorrect (cfg : FWIfEmmcCfg) (o : ℕ → Call) (c : Card) (ullAddrOffset : UInt64)
    (data : List UInt8) (ulLength : UInt32) : Prop :=
  ∃ r, ulEmmcWrite cfg o c ullAddrOffset (some data) ulLength = some r ∧
    (r.1 = .NONE → r.2.bytes = put c.bytes (address cfg ullAddrOffset) data)

/-- The read stays in its buffers, and if it succeeds it has delivered the bytes of the card. -/
def ReadCorrect (cfg : FWIfEmmcCfg) (o : ℕ → Call) (c : Card) (ullAddrOffset : UInt64)
    (pucData : List UInt8) (pulLength : UInt32) : Prop :=
  ∃ r, ulEmmcRead cfg o c ullAddrOffset pucData pulLength = some r ∧
    (r.ulStatus = .NONE →
      r.pucData = read c.bytes (address cfg ullAddrOffset) pulLength.toNat ∧
        r.pulLength = pulLength.toNat)

/-- When a write of `len` bytes at `A` does what it reports. -/
def WriteHolds (ok : ℕ → Bool) (A len : ℕ) : Prop :=
  if A % 512 = 0 then
    len % 512 = 0 ∨
      if len < 512 then ok 0 = true else ok 0 = false ∨ ok 1 = true
  else
    let head := 512 - A % 512
    len ≤ head ∨ ok 0 = false ∨ ok 1 = false ∨
      if len - head < 512 then ok 2 = true
      else ok 2 = false ∨ (len - head) % 512 = 0 ∧ ok 3 = false ∨
        head < (len - head) % 512 ∧ ok 3 = true ∧ ok 4 = false

/-- When a read of `len` bytes at `A` does what it reports. -/
def ReadHolds (ok : ℕ → Bool) (A len : ℕ) : Prop :=
  let head := 512 - A % 512
  A % 512 = 0 ∨ len - head < 512 ∨ ok 0 = false ∨ ok 1 = false ∨
    head < (len - head) % 512 ∧ ok 2 = false

/-! ### One call of the driver -/

namespace Card

/-- A card that has been used: its driver and its size are those of `c`. -/
def Same (c c' : Card) : Prop :=
  c'.iInitialised = c.iInitialised ∧ c'.SectorCount = c.SectorCount

theorem Same.refl (c : Card) : c.Same c := ⟨rfl, rfl⟩

theorem Same.trans {c c' c'' : Card} (h : c.Same c') (h' : c'.Same c'') : c.Same c'' :=
  ⟨h'.1.trans h.1, h'.2.trans h.2⟩

theorem blockAddress_eq {c : Card} {B n : ℕ} (hB : B % 512 = 0)
    (hroom : B + n * 512 ≤ c.SectorCount.toNat * 512) (hn : 0 < n) :
    blockAddress B * BlkSize = B ∧ c.iValidateBlockCount B n = c.iInitialised := by
  have hcount := c.SectorCount.toNat_lt
  have hblock : blockAddress B = B / 512 := by
    unfold blockAddress EMMC_BLOCK_BITSHIFT
    rw [show 2 ^ 9 = 512 from rfl, Nat.mod_eq_of_lt]
    omega
  have hle : decide ((B / 512 + n) % 2 ^ 32 ≤ c.SectorCount.toNat) = true :=
    decide_eq_true (by omega)
  rw [iValidateBlockCount, hblock, hle, BlkSize, hB]
  exact ⟨by omega, by simp⟩

/-- **A read** of blocks of the card into a buffer with room for them. -/
theorem iEMMC_Read_eq (o : ℕ → Call) {c : Card} {B : ℕ} (n k : ℕ) (buf : List UInt8)
    (hB : B % 512 = 0) (hroom : B + n * 512 ≤ c.SectorCount.toNat * 512) (hn : 0 < n)
    (hk : k + n * 512 ≤ buf.length) :
    ∃ r, c.iEMMC_Read o B n buf k = some r ∧ r.1 = ok c.iInitialised o c.asked.length ∧
      c.Same r.2.2 ∧ r.2.2.bytes = c.bytes ∧ r.2.2.asked = c.asked ++ [(B, n)] ∧
      r.2.1.length = buf.length ∧
      (r.1 = true → r.2.1 = splice buf k (read c.bytes B (n * 512))) := by
  obtain ⟨hblock, hvalid⟩ := blockAddress_eq hB hroom hn
  unfold iEMMC_Read ok next
  rw [hvalid, hblock, BlkSize]
  cases c.iInitialised
  · exact ⟨_, rfl, rfl, .refl c, rfl, rfl, rfl, nofun⟩
  cases (o c.asked.length).taken
  · exact ⟨_, rfl, rfl, .refl c, rfl, rfl, rfl, nofun⟩
  cases (o c.asked.length).done
  · exact ⟨_, rfl, rfl, .refl c, rfl, rfl, rfl, nofun⟩
  simp only [Bool.and_self, if_true, if_pos hk]
  exact ⟨_, rfl, rfl, .refl c, rfl, rfl, length_splice (by simpa using hk), fun _ => rfl⟩

/-- **A write** of blocks of the card from a buffer that has them. -/
theorem iEMMC_Write_eq (o : ℕ → Call) {c : Card} {B : ℕ} (n k : ℕ) (buf : List UInt8)
    (hB : B % 512 = 0) (hroom : B + n * 512 ≤ c.SectorCount.toNat * 512) (hn : 0 < n)
    (hk : k + n * 512 ≤ buf.length) :
    ∃ r, c.iEMMC_Write o B n buf k = some r ∧ r.1 = ok c.iInitialised o c.asked.length ∧
      c.Same r.2 ∧ r.2.asked = c.asked ++ [(B, n)] ∧
      (r.1 = true → r.2.bytes = put c.bytes B ((buf.drop k).take (n * 512))) := by
  obtain ⟨hblock, hvalid⟩ := blockAddress_eq hB hroom hn
  unfold iEMMC_Write ok next
  rw [hvalid, hblock, BlkSize]
  cases c.iInitialised
  · exact ⟨_, rfl, rfl, .refl c, rfl, nofun⟩
  cases (o c.asked.length).taken
  · exact ⟨_, rfl, rfl, .refl c, rfl, nofun⟩
  cases (o c.asked.length).done
  · exact ⟨_, rfl, rfl, .refl c, rfl, nofun⟩
  simp only [Bool.and_self, if_true, if_pos hk]
  exact ⟨_, rfl, rfl, .refl c, rfl, fun _ => rfl⟩

end Card

theorem length_blockBuffer : blockBuffer.length = 512 := List.length_replicate

/-! ### The check of the window -/

theorem validate_eq {cfg : FWIfEmmcCfg} {off : UInt64} {len : UInt32}
    (hwindow : address cfg off + len.toNat ≤ cfg.ullLength.toNat) :
    (cfg.ullBaseAddress + off).toNat = address cfg off ∧
      (ulValidateAddressRange cfg (address cfg off) len.toNat = .NONE ↔
        address cfg off + len.toNat < cfg.ullLength.toNat) := by
  have hmax := cfg.ullLength.toNat_lt
  constructor
  · have hsum : cfg.ullBaseAddress.toNat + off.toNat < 2 ^ 64 := by
      unfold address at hwindow
      omega
    rw [UInt64.toNat_add, Nat.mod_eq_of_lt hsum]
    rfl
  · unfold ulValidateAddressRange
    rw [Nat.mod_eq_of_lt (by omega)]
    split_ifs with hend
    · simp only [false_iff]
      omega
    · simp only [true_iff]
      omega

/-! ### A write -/

section Write

variable {o : ℕ → Call} {c : Card} {data : List UInt8} {A len : ℕ}

/-- The write has come to byte `t` with `l` bytes counted as left, after `i` calls. -/
structure WriteState.At (s : WriteState) (c : Card) (data : List UInt8) (A i t l : ℕ) :
    Prop where
  status : s.iWriteStatus = true
  ullAddr : s.ullAddr = A + t
  total : s.ulTotalBytesWritten = t
  left : s.ulBytesToWrite = l
  same : c.Same s.card
  calls : s.card.asked.length = i
  bytes : s.card.bytes = put c.bytes A (data.take t)

theorem put_take (m : Store) (A : ℕ) {data : List UInt8} {t : ℕ} (l : ℕ)
    (ht : t ≤ data.length) :
    put (put m A (data.take t)) (A + t) ((data.drop t).take l) = put m A (data.take (t + l)) := by
  have hlen : (data.take t).length = t := by rw [List.length_take]; omega
  have h := put_put m A (data.take t) ((data.drop t).take l)
  rw [hlen] at h
  rw [h, List.take_add]

/-- **Read, modify, write**: one block of the card is read, bytes of the data are copied into it,
and it is written. -/
theorem patch (o : ℕ → Call) (data : List UInt8) {B : ℕ} (k j n : ℕ) (hB : B % 512 = 0)
    (hroom : B + 512 ≤ c.SectorCount.toNat * 512) (hk : k + n ≤ 512) (hj : j + n ≤ data.length) :
    ∃ r, c.iEMMC_Read o B 1 blockBuffer 0 = some r ∧
      r.1 = ok c.iInitialised o c.asked.length ∧ c.Same r.2.2 ∧ r.2.2.bytes = c.bytes ∧
      r.2.2.asked.length = c.asked.length + 1 ∧
      ∃ block, memcpy r.2.1 k data j n = some block ∧
      ∃ w, r.2.2.iEMMC_Write o B 1 block 0 = some w ∧
        w.1 = ok c.iInitialised o (c.asked.length + 1) ∧ c.Same w.2 ∧
        w.2.asked.length = c.asked.length + 2 ∧
        (r.1 = true → w.1 = true →
          w.2.bytes = put c.bytes (B + k) ((data.drop j).take n)) := by
  have hbuffer := length_blockBuffer
  obtain ⟨r, hr, hrok, hrsame, hrbytes, hrasked, hrlen, hrbuf⟩ :=
    c.iEMMC_Read_eq o 1 0 blockBuffer hB (by omega) one_pos (by omega)
  have hchunk : ((data.drop j).take n).length = n := by
    rw [List.length_take, List.length_drop]
    omega
  have hcopy : memcpy r.2.1 k data j n = some (splice r.2.1 k ((data.drop j).take n)) :=
    if_pos ⟨by omega, hj⟩
  have hblock : (splice r.2.1 k ((data.drop j).take n)).length = 512 := by
    rw [length_splice] <;> omega
  obtain ⟨w, hw, hwok, hwsame, hwasked, hwbytes⟩ :=
    r.2.2.iEMMC_Write_eq o 1 0 (splice r.2.1 k ((data.drop j).take n)) hB
      (by rw [hrsame.2]; omega) one_pos (by omega)
  refine ⟨r, hr, hrok, hrsame, hrbytes, by simp [hrasked], _, hcopy, w, hw, ?_,
    hrsame.trans hwsame, by simp [hwasked, hrasked], ?_⟩
  · rw [hwok, hrasked, hrsame.1, List.length_append, List.length_singleton]
  · intro hrtrue hwtrue
    have hread : (read c.bytes B (1 * 512)).length = blockBuffer.length := by
      rw [length_read, hbuffer, one_mul]
    rw [hwbytes hwtrue, hrbytes, List.drop_zero, one_mul, List.take_of_length_le hblock.le,
      hrbuf hrtrue, splice_all hread, one_mul, put_splice _ _ _ _ _ (by omega)]

/-- Where a write ends up: with a failure, or with a success after its first `k` bytes; `none` is a
copy that leaves its buffer. -/
inductive Ends (r : Option WriteState) (m : Store) (A : ℕ) (data : List UInt8) :
    Option (Bool × ℕ) → Prop
  | strays : r = none → Ends r m A data none
  | fails {k : ℕ} {s : WriteState} : r = some s → s.iWriteStatus = false →
      Ends r m A data (some (false, k))
  | succeeds {k : ℕ} {s : WriteState} : r = some s → s.iWriteStatus = true → k ≤ data.length →
      s.card.bytes = put m A (data.take k) → Ends r m A data (some (true, k))

def lastEnd (ok : ℕ → Bool) (i t l : ℕ) : Option (Bool × ℕ) :=
  if l % 512 ≠ 0 then
    if ok i then
      if 512 < l then none else some (ok (i + 1), t + l)
    else some (true, t)
  else some (true, t)

def restEnd (ok : ℕ → Bool) (i t l : ℕ) : Option (Bool × ℕ) :=
  let n := l / 512
  if 0 < n then
    if ok i then lastEnd ok (i + 1) (t + n * 512) ((l + 2 ^ 32 - (t + n * 512)) % 2 ^ 32)
    else some (false, t)
  else lastEnd ok i t l

def writeEnd (ok : ℕ → Bool) (A len : ℕ) : Option (Bool × ℕ) :=
  if A % 512 ≠ 0 then
    let head := 512 - A % 512
    if ok 0 = true ∧ ok 1 = true then
      if len ≤ head then some (true, len) else restEnd ok 2 head (len - head)
    else some (false, 0)
  else if len = 0 then some (true, 0)
  else restEnd ok 0 0 len

theorem writeLast_ends {s : WriteState} {i t l : ℕ} (h : s.At c data A i t l)
    (hA : (A + t) % 512 = 0) (hroom : A + t < c.SectorCount.toNat * 512)
    (htl : l < 512 → t + l ≤ data.length) (ht : t ≤ data.length) :
    Ends (writeLast o data s) c.bytes A data (lastEnd (ok c.iInitialised o) i t l) := by
  unfold writeLast lastEnd
  rw [h.left, h.total, h.ullAddr, HAL_EMMC_BLOCK_SIZE]
  by_cases hl : l % 512 = 0
  · rw [if_neg (fun hcond => hcond.2 hl), if_neg (not_not.mpr hl)]
    exact .succeeds rfl h.status ht h.bytes
  rw [if_pos ⟨h.status, hl⟩, if_pos hl]
  have hroom' : A + t + 512 ≤ s.card.SectorCount.toNat * 512 := by
    rw [h.same.2]
    omega
  have hok : ∀ j, ok s.card.iInitialised o j = ok c.iInitialised o j := fun j => by
    rw [h.same.1]
  by_cases hbig : 512 < l
  · -- more bytes than the buffer of the last block
    have hbuffer := length_blockBuffer
    obtain ⟨r, hr, hrok, -, hrbytes, -, hrlen, -⟩ :=
      s.card.iEMMC_Read_eq o 1 0 blockBuffer hA (by omega) one_pos
        (by omega)
    rw [hok, h.calls] at hrok
    rw [hr, Option.bind_some, ← hrok]
    cases r.1
    · exact .succeeds rfl h.status ht (hrbytes.trans h.bytes)
    · have hcopy : memcpy r.2.1 0 data t l = none := if_neg (by omega)
      rw [if_pos rfl, if_pos rfl, if_pos hbig, hcopy]
      exact .strays rfl
  · obtain ⟨r, hr, hrok, -, hrbytes, -, block, hblock, w, hw, hwok, -, -, hwbytes⟩ :=
      patch (c := s.card) o data 0 t l hA hroom'
        (by omega) (htl (by omega))
    rw [hok, h.calls] at hrok hwok
    rw [hr, Option.bind_some, ← hrok]
    cases hrtrue : r.1
    · exact .succeeds rfl h.status ht (hrbytes.trans h.bytes)
    rw [if_pos rfl, if_pos rfl, if_neg hbig, hblock, Option.bind_some, hw, Option.map_some,
      ← hwok]
    cases hwtrue : w.1
    · exact .fails rfl rfl
    · refine .succeeds rfl rfl (htl (by omega)) ?_
      change w.2.bytes = _
      rw [hwbytes hrtrue hwtrue, h.bytes, Nat.add_zero, put_take _ _ _ ht]

theorem writeRest_ends {s : WriteState} {i t l : ℕ} (h : s.At c data A i t l)
    (hA : (A + t) % 512 = 0) (hroom : A + (t + l) < c.SectorCount.toNat * 512)
    (htl : t + l = data.length) (hlen : data.length < 2 ^ 32) :
    Ends ((writeBlocks o data s).bind (writeLast o data)) c.bytes A data
      (restEnd (ok c.iInitialised o) i t l) := by
  have hn : l / 512 * 512 ≤ l := Nat.div_mul_le_self l 512
  unfold writeBlocks restEnd
  rw [h.left, h.total, h.ullAddr, HAL_EMMC_BLOCK_SIZE]
  by_cases hpos : 0 < l / 512
  swap
  · simp only [if_neg hpos, Option.bind_some]
    exact writeLast_ends h hA (by omega) (fun _ => htl.le) (by omega)
  obtain ⟨w, hw, hwok, hwsame, hwasked, hwbytes⟩ :=
    s.card.iEMMC_Write_eq o (l / 512) t data hA
      (by rw [h.same.2]; omega) hpos (by omega)
  rw [h.same.1, h.calls] at hwok
  simp only [if_pos hpos, hw, Option.map_some, Option.bind_some, ← hwok]
  cases hwtrue : w.1
  · have hstop : ∀ u : WriteState, u.iWriteStatus = false → writeLast o data u = some u :=
      fun u hu => if_neg (by simp [hu])
    exact .fails (hstop _ rfl) rfl
  · have htotal : (t + l / 512 * 512) % 2 ^ 32 = t + l / 512 * 512 :=
      Nat.mod_eq_of_lt (by omega)
    simp only [if_true, htotal]
    refine writeLast_ends ⟨rfl, by simp only; omega, rfl, rfl, h.same.trans hwsame,
      by simp [hwasked, h.calls], ?_⟩ (by omega) (by omega) (fun _ => by omega) (by omega)
    change w.2.bytes = _
    rw [hwbytes hwtrue, h.bytes, put_take _ _ _ (by omega)]

/-- The whole of an accepted write: step 1, and the others if they are needed. -/
def writeSteps (o : ℕ → Call) (c : Card) (A : ℕ) (data : List UInt8) (len : ℕ) :
    Option WriteState :=
  (writeFirst o c A data len).bind fun s =>
    if s.iWriteStatus = true ∧ s.ulTotalBytesWritten < len then
      (writeBlocks o data s).bind (writeLast o data)
    else some s

theorem writeSteps_ends (hcalls : c.asked = []) (hlen : data.length = len) (hmax : len < 2 ^ 32)
    (hroom : A + len < c.SectorCount.toNat * 512) :
    Ends (writeSteps o c A data len) c.bytes A data
      (writeEnd (ok c.iInitialised o) A len) := by
  unfold writeSteps writeFirst writeEnd
  rw [HAL_EMMC_BLOCK_SIZE]
  by_cases hA : A % 512 = 0
  · -- from the start of a block
    simp only [hA, ne_eq, not_true_eq_false, if_false, Option.bind_some, true_and]
    by_cases hzero : len = 0
    · rw [if_neg (by omega), if_pos hzero]
      refine .succeeds rfl rfl (Nat.zero_le _) ?_
      rw [List.take_zero, put_nil]
    · rw [if_pos (by omega), if_neg hzero]
      refine writeRest_ends ⟨rfl, rfl, rfl, rfl, .refl c, by rw [hcalls]; rfl, ?_⟩ hA
        (by omega) (by omega) (by omega)
      rw [List.take_zero, put_nil]
  · -- from inside a block
    simp only [ne_eq, hA, not_false_eq_true, if_true]
    have hfirst : firstBytes len (A % 512) = min len (512 - A % 512) := by
      unfold firstBytes
      rw [HAL_EMMC_BLOCK_SIZE]
      split_ifs <;> omega
    obtain ⟨r, hr, hrok, hrsame, hrbytes, hrasked, block, hblock, w, hw, hwok, hwsame, hwasked,
      hwbytes⟩ :=
      patch (c := c) (B := A - A % 512) o data (A % 512) 0 (firstBytes len (A % 512)) (by omega)
        (by omega) (by omega) (by omega)
    rw [hcalls, List.length_nil] at hrok hwok hwasked
    rw [hr, Option.bind_some, ← hrok, ← hwok]
    cases hrtrue : r.1
    · simp only [Bool.false_eq_true, if_false, Option.bind_some, false_and]
      exact .fails rfl rfl
    simp only [if_true, hblock, Option.bind_some, hw, Option.map_some, true_and]
    cases hwtrue : w.1
    · simp only [Bool.false_eq_true, if_false, false_and]
      exact .fails rfl rfl
    have hbytes : w.2.bytes = put c.bytes A (data.take (firstBytes len (A % 512))) := by
      rw [hwbytes hrtrue hwtrue, List.drop_zero, Nat.sub_add_cancel (Nat.mod_le A 512)]
    simp only [if_true, true_and]
    by_cases hshort : len ≤ 512 - A % 512
    · rw [if_neg (by omega), if_pos hshort]
      refine .succeeds rfl rfl hlen.ge ?_
      change w.2.bytes = _
      rw [hbytes, show firstBytes len (A % 512) = len by omega]
    · rw [if_pos (by omega), if_neg hshort]
      have hhead : firstBytes len (A % 512) = 512 - A % 512 := by omega
      rw [hhead] at hbytes ⊢
      refine writeRest_ends ⟨rfl, by simp only; omega, rfl, rfl, hwsame, hwasked, hbytes⟩
        (by omega) (by omega) (by omega) (by omega)

/-- What a write with these counts promises: no copy strays, and a success has written all. -/
def Promises (len : ℕ) (r : Option (Bool × ℕ)) : Prop :=
  ∃ st k, r = some (st, k) ∧ (st = true → k = len)

@[simp] theorem not_promises_none : ¬ Promises len none := by
  rintro ⟨st, k, hnone, -⟩
  cases hnone

@[simp] theorem promises_some {st : Bool} {k : ℕ} :
    Promises len (some (st, k)) ↔ st = false ∨ k = len := by
  constructor
  · rintro ⟨st', k', heq, hk⟩
    obtain ⟨rfl, rfl⟩ := Prod.mk.inj (Option.some.inj heq)
    cases st
    · exact .inl rfl
    · exact .inr (hk rfl)
  · rintro h
    exact ⟨st, k, rfl, fun hst => h.resolve_left (by simp [hst])⟩

theorem promises_lastEnd {b : ℕ → Bool} {i t l : ℕ} (hl : l < 512) (hlen : t + l = len) :
    Promises len (lastEnd b i t l) ↔ l = 0 ∨ b i = true := by
  unfold lastEnd
  by_cases hzero : l % 512 = 0
  · rw [if_neg (not_not.mpr hzero), promises_some]
    simp only [Bool.true_eq_false, false_or]
    omega
  · rw [if_pos hzero]
    cases b i
    · simp only [Bool.false_eq_true, if_false, promises_some, Bool.true_eq_false, false_or,
        or_false]
      omega
    · rw [if_pos rfl, if_neg (by omega), promises_some]
      simp only [or_true, iff_true]
      exact .inr hlen

/-- **A write does what it reports** under the condition, exactly. -/
theorem promises_writeEnd (b : ℕ → Bool) (A : ℕ) (hmax : len < 2 ^ 32) :
    Promises len (writeEnd b A len) ↔ WriteHolds b A len := by
  unfold writeEnd WriteHolds
  by_cases hA : A % 512 = 0
  · rw [if_neg (not_not.mpr hA), if_pos hA]
    by_cases hzero : len = 0
    · simp [hzero]
    rw [if_neg hzero, restEnd]
    have hleft : (len + 2 ^ 32 - (0 + len / 512 * 512)) % 2 ^ 32 = len % 512 := by omega
    by_cases hshort : len < 512
    · rw [if_neg (by omega), if_pos hshort, promises_lastEnd hshort (Nat.zero_add len),
        Nat.mod_eq_of_lt hshort]
    · rw [if_pos (by omega), if_neg hshort]
      cases b 0
      · simp
      · rw [if_pos rfl, hleft, promises_lastEnd (Nat.mod_lt _ (by omega)) (by omega)]
        simp
  · rw [if_pos hA, if_neg hA]
    dsimp only
    by_cases hshort : len ≤ 512 - A % 512
    · cases b 0 <;> cases b 1 <;> simp [hshort]
    rw [restEnd]
    cases h₀ : b 0
    · simp
    cases h₁ : b 1
    · simp
    simp only [true_and, if_true, hshort, if_false, Bool.true_eq_false, false_or]
    by_cases hfew : len - (512 - A % 512) < 512
    · have hnone : ¬ 0 < (len - (512 - A % 512)) / 512 := by omega
      rw [if_neg hnone, if_pos hfew, promises_lastEnd hfew (by omega)]
      simp only [show len - (512 - A % 512) ≠ 0 by omega, false_or]
    have hsome : 0 < (len - (512 - A % 512)) / 512 := by omega
    rw [if_pos hsome, if_neg hfew]
    cases h₂ : b 2
    · simp
    simp only [if_true, Bool.true_eq_false, false_or]
    -- the whole blocks are written, and the first block is taken off the rest once more
    set l := (len - (512 - A % 512) + 2 ^ 32 -
      (512 - A % 512 + (len - (512 - A % 512)) / 512 * 512)) % 2 ^ 32 with hl
    unfold lastEnd
    rcases Nat.lt_trichotomy ((len - (512 - A % 512)) % 512) (512 - A % 512) with hr | hr | hr
    · have hodd : l % 512 ≠ 0 := by omega
      have hbig : 512 < l := by omega
      rw [if_pos hodd, if_pos hbig]
      cases h₃ : b 3
      · simp
        omega
      · simp
        omega
    · have heven : ¬ l % 512 ≠ 0 := by omega
      rw [if_neg heven]
      simp
      omega
    · have hodd : l % 512 ≠ 0 := by omega
      have hsmall : ¬ 512 < l := by omega
      rw [if_pos hodd, if_neg hsmall]
      cases h₃ : b 3
      · simp
        omega
      · cases h₄ : b 4
        · simp
          omega
        · simp
          omega

/-- **Exactly when a write does what it reports**, whatever is on the card and in the data. -/
theorem writeCorrect_iff {cfg : FWIfEmmcCfg} {off : UInt64} {len : UInt32} {init : Bool}
    {SectorCount : UInt32} (hopen : cfg.xState = .OPENED)
    (hfit : cfg.ullLength.toNat ≤ SectorCount.toNat * 512)
    (haccept : address cfg off + len.toNat < cfg.ullLength.toNat) :
    (∀ bytes data, data.length = len.toNat →
        WriteCorrect cfg o (card init SectorCount bytes) off data len) ↔
      WriteHolds (ok init o) (address cfg off) len.toNat := by
  rw [← promises_writeEnd _ _ len.toNat_lt]
  obtain ⟨haddr, hrange⟩ := validate_eq haccept.le
  have hrun : ∀ bytes data, ulEmmcWrite cfg o (card init SectorCount bytes) off (some data) len
      = (writeSteps o (card init SectorCount bytes) (address cfg off) data len.toNat).map fun s =>
        (if s.iWriteStatus then .NONE else .WRITE, s.card) := by
    intro bytes data
    simp only [ulEmmcWrite, if_pos hopen, haddr, if_pos (hrange.mpr haccept), writeSteps,
      Option.map_bind]
    rfl
  have hends : ∀ (bytes : Store) (data : List UInt8), data.length = len.toNat →
      Ends (writeSteps o (card init SectorCount bytes) (address cfg off) data len.toNat) bytes
        (address cfg off) data (writeEnd (ok init o) (address cfg off) len.toNat) :=
    fun bytes data hlen => writeSteps_ends (c := card init SectorCount bytes) rfl hlen
      len.toNat_lt (haccept.trans_le hfit)
  constructor
  · intro hall
    have hones : (List.replicate len.toNat (1 : UInt8)).length = len.toNat :=
      List.length_replicate
    obtain ⟨r, hr, hcorrect⟩ := hall (fun _ => 0) _ hones
    rw [hrun] at hr
    have hcase := hends (fun _ => 0) _ hones
    generalize writeEnd (ok init o) (address cfg off) len.toNat = e at hcase ⊢
    rcases hcase with hnone | ⟨hsome, hstatus⟩ | @⟨k, s, hsome, hstatus, hk, hbytes⟩
    · rw [hnone] at hr
      cases hr
    · exact promises_some.mpr (.inl rfl)
    · rw [promises_some]
      rw [hsome] at hr
      obtain rfl := Option.some.inj hr
      have hput := hcorrect (by simp only [hstatus, if_true])
      refine .inr (hk.lt_or_eq.elim (fun hlt => ?_) fun heq => heq.trans hones)
      exact absurd (hbytes.symm.trans hput) (put_take_ne _ (hones ▸ hlt))
  · intro hpromises bytes data hlen
    unfold WriteCorrect
    rw [hrun]
    have hcase := hends bytes data hlen
    generalize writeEnd (ok init o) (address cfg off) len.toNat = e at hcase hpromises
    rcases hcase with hnone | @⟨k, s, hsome, hstatus⟩ | @⟨k, s, hsome, hstatus, -, hbytes⟩
    · exact absurd hpromises not_promises_none
    · exact ⟨_, by rw [hsome]; rfl, fun hok => by simp [hstatus] at hok⟩
    · refine ⟨_, by rw [hsome]; rfl, fun _ => ?_⟩
      have hk : k = len.toNat := (promises_some.mp hpromises).resolve_left (by simp)
      rw [hk, ← hlen, List.take_length] at hbytes
      exact hbytes

theorem writeCorrect_of_refused {cfg : FWIfEmmcCfg} {off : UInt64} {len : UInt32}
    (hwindow : address cfg off + len.toNat ≤ cfg.ullLength.toNat)
    (hrefuse : cfg.xState ≠ .OPENED ∨ address cfg off + len.toNat = cfg.ullLength.toNat) :
    WriteCorrect cfg o c off data len := by
  obtain ⟨haddr, hrange⟩ := validate_eq hwindow
  by_cases hopen : cfg.xState = .OPENED
  · have hend := hrefuse.resolve_left (not_not.mpr hopen)
    have hout : ¬ ulValidateAddressRange cfg (address cfg off) len.toNat = .NONE := by
      rw [hrange]
      omega
    refine ⟨(.DRIVER_INVALID_ADDRESS, c), ?_, fun h => nomatch h⟩
    simp only [ulEmmcWrite, if_pos hopen, haddr, if_neg hout]
  · exact ⟨(.INVALID_STATE, c), if_neg hopen, fun h => nomatch h⟩

end Write

/-! ### A read -/

section Read

variable {o : ℕ → Call} {c : Card} {buf : List UInt8} {A len : ℕ}

/-- The read has come to byte `t` with `l` bytes counted as left, after `i` calls. -/
structure ReadState.At (s : ReadState) (c : Card) (buf : List UInt8) (A i t l : ℕ) : Prop where
  status : s.iReadStatus = true
  ullAddr : s.ullAddr = A + t
  total : s.ulTotalBytesRead = t
  left : s.ulBytesToRead = l
  same : c.Same s.card
  calls : s.card.asked.length = i
  bytes : s.card.bytes = c.bytes
  data : s.pucData = splice buf 0 (read c.bytes A t)

/-- Where a read ends up: with a failure, or with a success after the first `k` bytes. -/
inductive Delivers (r : Option ReadState) (m : Store) (A : ℕ) (buf : List UInt8) :
    Option (Bool × ℕ) → Prop
  | strays : r = none → Delivers r m A buf none
  | fails {k : ℕ} {s : ReadState} : r = some s → s.iReadStatus = false →
      Delivers r m A buf (some (false, k))
  | succeeds {k : ℕ} {s : ReadState} : r = some s → s.iReadStatus = true →
      s.ulTotalBytesRead = k → s.pucData = splice buf 0 (read m A k) →
      Delivers r m A buf (some (true, k))

def lastRead (ok : ℕ → Bool) (i t l : ℕ) : Option (Bool × ℕ) :=
  if l % 512 ≠ 0 then
    if 512 < l then none else some (ok i, t + l)
  else some (true, t)

def restRead (ok : ℕ → Bool) (i t l : ℕ) : Option (Bool × ℕ) :=
  let n := l / 512
  if 0 < n then
    if ok i then lastRead ok (i + 1) (t + n * 512) ((l + 2 ^ 32 - (t + n * 512)) % 2 ^ 32)
    else some (false, t)
  else lastRead ok i t l

def readEnd (ok : ℕ → Bool) (A len : ℕ) : Option (Bool × ℕ) :=
  if A % 512 ≠ 0 then
    let head := 512 - A % 512
    if ok 0 then
      if len ≤ head then some (true, len) else restRead ok 1 head (len - head)
    else some (false, 0)
  else restRead ok 0 0 len

theorem splice_read (m : Store) (A : ℕ) {buf : List UInt8} {t : ℕ} (l : ℕ) (ht : t ≤ buf.length) :
    splice (splice buf 0 (read m A t)) t (read m (A + t) l) = splice buf 0 (read m A (t + l)) := by
  have h : splice (splice buf 0 (read m A t)) (0 + (read m A t).length) (read m (A + t) l)
      = splice buf 0 (read m A t ++ read m (A + t) l) := splice_splice (by simpa using ht)
  rwa [length_read, Nat.zero_add, read_append] at h

theorem readLast_delivers {s : ReadState} {i t l : ℕ} (h : s.At c buf A i t l)
    (hA : (A + t) % 512 = 0) (hroom : A + t < c.SectorCount.toNat * 512)
    (htl : l < 512 → t + l ≤ buf.length) (ht : t ≤ buf.length) (hlen : buf.length < 2 ^ 32) :
    Delivers (readLast o s) c.bytes A buf (lastRead (ok c.iInitialised o) i t l) := by
  unfold readLast lastRead
  rw [h.left, h.total, h.ullAddr, HAL_EMMC_BLOCK_SIZE]
  by_cases hl : l % 512 = 0
  · rw [if_neg (fun hcond => hcond.2 hl), if_neg (not_not.mpr hl)]
    exact .succeeds rfl h.status h.total h.data
  rw [if_pos ⟨h.status, hl⟩, if_pos hl]
  have hbuffer := length_blockBuffer
  have hdata : s.pucData.length = buf.length := by
    rw [h.data, length_splice (by simpa using ht)]
  obtain ⟨r, hr, hrok, -, hrbytes, -, hrlen, hrbuf⟩ :=
    s.card.iEMMC_Read_eq o 1 0 blockBuffer hA (by rw [h.same.2]; omega)
      one_pos (by omega)
  rw [h.same.1, h.calls] at hrok
  rw [hr, Option.bind_some]
  by_cases hbig : 512 < l
  · -- more bytes than the buffer of the last block
    have hcopy : memcpy s.pucData t r.2.1 0 l = none := if_neg (by omega)
    rw [if_pos hbig, hcopy]
    exact .strays rfl
  · have hcopy : memcpy s.pucData t r.2.1 0 l
        = some (splice s.pucData t ((r.2.1.drop 0).take l)) :=
      if_pos ⟨by have := htl (by omega); omega, by omega⟩
    rw [if_neg hbig, hcopy, ← hrok]
    cases hrtrue : r.1
    · exact .fails rfl rfl
    · have htotal : (t + l) % 2 ^ 32 = t + l :=
        Nat.mod_eq_of_lt (by have := htl (by omega); omega)
      refine .succeeds rfl rfl htotal ?_
      change splice s.pucData t ((r.2.1.drop 0).take l) = _
      have hread : (read s.card.bytes (A + t) (1 * 512)).length = blockBuffer.length := by
        rw [length_read, hbuffer, one_mul]
      rw [hrbuf hrtrue, splice_all hread, List.drop_zero, take_read _ _ (by omega), h.bytes, h.data,
        splice_read _ _ _ ht]

theorem readRest_delivers {s : ReadState} {i t l : ℕ} (h : s.At c buf A i t l)
    (hA : (A + t) % 512 = 0) (hroom : A + (t + l) < c.SectorCount.toNat * 512)
    (htl : t + l = buf.length) (hlen : buf.length < 2 ^ 32) :
    Delivers ((readBlocks o s).bind (readLast o)) c.bytes A buf
      (restRead (ok c.iInitialised o) i t l) := by
  have hn : l / 512 * 512 ≤ l := Nat.div_mul_le_self l 512
  have hdata : s.pucData.length = buf.length := by
    rw [h.data, length_splice (by simp; omega)]
  unfold readBlocks restRead
  rw [h.left, h.total, h.ullAddr, HAL_EMMC_BLOCK_SIZE]
  by_cases hpos : 0 < l / 512
  swap
  · simp only [if_neg hpos, Option.bind_some]
    exact readLast_delivers h hA (by omega) (fun _ => htl.le) (by omega) hlen
  obtain ⟨r, hr, hrok, hrsame, hrbytes, hrasked, -, hrbuf⟩ :=
    s.card.iEMMC_Read_eq o (l / 512) t s.pucData hA
      (by rw [h.same.2]; omega) hpos (by omega)
  rw [h.same.1, h.calls] at hrok
  simp only [if_pos hpos, hr, Option.map_some, Option.bind_some, ← hrok]
  cases hrtrue : r.1
  · have hstop : ∀ u : ReadState, u.iReadStatus = false → readLast o u = some u :=
      fun u hu => if_neg (by simp [hu])
    exact .fails (hstop _ rfl) rfl
  · have htotal : (t + l / 512 * 512) % 2 ^ 32 = t + l / 512 * 512 :=
      Nat.mod_eq_of_lt (by omega)
    simp only [if_true, htotal]
    refine readLast_delivers ⟨rfl, by simp only; omega, rfl, rfl, h.same.trans hrsame,
      by simp [hrasked, h.calls], hrbytes.trans h.bytes, ?_⟩ (by omega) (by omega)
      (fun _ => by omega) (by omega) hlen
    change r.2.1 = _
    rw [hrbuf hrtrue, h.bytes, h.data, splice_read _ _ _ (by omega)]

/-- The whole of an accepted read: step 1, and the others if they are needed. -/
def readSteps (o : ℕ → Call) (c : Card) (A : ℕ) (buf : List UInt8) (len : ℕ) : Option ReadState :=
  (readFirst o c A buf len).bind fun s =>
    if s.iReadStatus = true ∧ s.ulTotalBytesRead < len then
      (readBlocks o s).bind (readLast o)
    else some s

theorem readSteps_delivers (hcalls : c.asked = []) (hlen : buf.length = len) (hmax : len < 2 ^ 32)
    (hpos : 0 < len) (hroom : A + len < c.SectorCount.toNat * 512) :
    Delivers (readSteps o c A buf len) c.bytes A buf (readEnd (ok c.iInitialised o) A len) := by
  unfold readSteps readFirst readEnd
  rw [HAL_EMMC_BLOCK_SIZE]
  by_cases hA : A % 512 = 0
  · -- from the start of a block
    simp only [hA, ne_eq, not_true_eq_false, if_false, Option.bind_some, true_and, if_pos hpos]
    refine readRest_delivers ⟨rfl, rfl, rfl, rfl, .refl c, by rw [hcalls]; rfl, rfl, ?_⟩ hA
      (by omega) (by omega) (by omega)
    simp [splice, ByteStore.read]
  · -- from inside a block
    simp only [ne_eq, hA, not_false_eq_true, if_true]
    have hfirst : firstBytes len (A % 512) = min len (512 - A % 512) := by
      unfold firstBytes
      rw [HAL_EMMC_BLOCK_SIZE]
      split_ifs <;> omega
    have hbuffer := length_blockBuffer
    obtain ⟨r, hr, hrok, hrsame, hrbytes, hrasked, hrlen, hrbuf⟩ :=
      c.iEMMC_Read_eq o (B := A - A % 512) 1 0 blockBuffer (by omega)
        (by omega) one_pos (by omega)
    have hcopy : memcpy buf 0 r.2.1 (A % 512) (firstBytes len (A % 512))
        = some (splice buf 0 ((r.2.1.drop (A % 512)).take (firstBytes len (A % 512)))) :=
      if_pos ⟨by omega, by omega⟩
    rw [hcalls, List.length_nil] at hrok
    rw [hr, Option.bind_some, ← hrok]
    cases hrtrue : r.1
    · simp only [Bool.false_eq_true, if_false, Option.bind_some, false_and]
      exact .fails rfl rfl
    have hchunk : (r.2.1.drop (A % 512)).take (firstBytes len (A % 512))
        = read c.bytes A (firstBytes len (A % 512)) := by
      have hread : (read c.bytes (A - A % 512) (1 * 512)).length = blockBuffer.length := by
        rw [length_read, hbuffer, one_mul]
      rw [hrbuf hrtrue, splice_all hread, drop_read _ _ (by omega), take_read _ _ (by omega),
        Nat.sub_add_cancel (Nat.mod_le A 512)]
    simp only [if_true, hcopy, Option.map_some, Option.bind_some, true_and, hchunk]
    by_cases hshort : len ≤ 512 - A % 512
    · rw [if_neg (by omega), if_pos hshort]
      have hall : firstBytes len (A % 512) = len := by omega
      exact .succeeds rfl rfl hall (by rw [hall])
    · rw [if_pos (by omega), if_neg hshort]
      have hhead : firstBytes len (A % 512) = 512 - A % 512 := by omega
      rw [hhead]
      exact readRest_delivers ⟨rfl, by simp only; omega, rfl, rfl, hrsame,
        by simp [hrasked, hcalls], hrbytes, rfl⟩ (by omega) (by omega) (by omega) (by omega)

/-- **A read does what it reports** under the condition, exactly. -/
theorem promises_readEnd (b : ℕ → Bool) (A : ℕ) (hmax : len < 2 ^ 32) :
    Promises len (readEnd b A len) ↔ ReadHolds b A len := by
  have hlast : ∀ i t l, l < 512 → t + l = len → Promises len (lastRead b i t l) := by
    intro i t l hl hlen
    unfold lastRead
    split_ifs with hodd hbig
    · omega
    · exact promises_some.mpr (.inr hlen)
    · exact promises_some.mpr (.inr (by omega))
  unfold readEnd ReadHolds
  dsimp only
  by_cases hA : A % 512 = 0
  · rw [if_neg (not_not.mpr hA), restRead]
    simp only [hA, true_or, iff_true]
    by_cases hpos : 0 < len / 512
    · rw [if_pos hpos]
      cases b 0
      · simp
      · rw [if_pos rfl]
        exact hlast _ _ _ (by omega) (by omega)
    · rw [if_neg hpos]
      exact hlast _ _ _ (by omega) (by omega)
  · rw [if_pos hA]
    simp only [hA, false_or]
    by_cases hshort : len ≤ 512 - A % 512
    · simp only [hshort, if_true, show len - (512 - A % 512) < 512 by omega, true_or, iff_true]
      cases b 0 <;> simp
    rw [restRead]
    cases h₀ : b 0
    · simp
    simp only [if_true, hshort, if_false, Bool.true_eq_false, false_or]
    by_cases hfew : len - (512 - A % 512) < 512
    · have hnone : ¬ 0 < (len - (512 - A % 512)) / 512 := by omega
      rw [if_neg hnone]
      simp only [hfew, true_or, iff_true]
      exact hlast _ _ _ hfew (by omega)
    have hsome : 0 < (len - (512 - A % 512)) / 512 := by omega
    rw [if_pos hsome]
    simp only [hfew, false_or]
    cases h₁ : b 1
    · simp
    simp only [if_true, Bool.true_eq_false, false_or]
    -- the whole blocks are read, and the first block is taken off the rest once more
    set l := (len - (512 - A % 512) + 2 ^ 32 -
      (512 - A % 512 + (len - (512 - A % 512)) / 512 * 512)) % 2 ^ 32 with hl
    unfold lastRead
    rcases Nat.lt_trichotomy ((len - (512 - A % 512)) % 512) (512 - A % 512) with hr | hr | hr
    · have hodd : l % 512 ≠ 0 := by omega
      have hbig : 512 < l := by omega
      rw [if_pos hodd, if_pos hbig]
      simp [hr.le]
    · have heven : ¬ l % 512 ≠ 0 := by omega
      rw [if_neg heven]
      simp
      omega
    · have hodd : l % 512 ≠ 0 := by omega
      have hsmall : ¬ 512 < l := by omega
      rw [if_pos hodd, if_neg hsmall, promises_some]
      cases h₂ : b 2
      · simp [hr]
      · simp
        omega

/-- **Exactly when a read does what it reports**, whatever is on the card and in the buffer. -/
theorem readCorrect_iff {cfg : FWIfEmmcCfg} {off : UInt64} {len : UInt32} {init : Bool}
    {SectorCount : UInt32} (hopen : cfg.xState = .OPENED) (hpos : len ≠ 0)
    (hfit : cfg.ullLength.toNat ≤ SectorCount.toNat * 512)
    (haccept : address cfg off + len.toNat < cfg.ullLength.toNat) :
    (∀ bytes buf, buf.length = len.toNat →
        ReadCorrect cfg o (card init SectorCount bytes) off buf len) ↔
      ReadHolds (ok init o) (address cfg off) len.toNat := by
  rw [← promises_readEnd _ _ len.toNat_lt]
  obtain ⟨haddr, hrange⟩ := validate_eq haccept.le
  have hlenpos : 0 < len.toNat := Nat.pos_of_ne_zero fun hzero => hpos (UInt32.toNat_inj.mp hzero)
  have hrun : ∀ bytes buf, ulEmmcRead cfg o (card init SectorCount bytes) off buf len
      = (readSteps o (card init SectorCount bytes) (address cfg off) buf len.toNat).map fun s =>
        if s.iReadStatus then ⟨.NONE, s.pucData, s.ulTotalBytesRead, s.card⟩
        else ⟨.READ, s.pucData, 0, s.card⟩ := by
    intro bytes buf
    simp only [ulEmmcRead, if_pos hpos, if_pos hopen, haddr, if_pos (hrange.mpr haccept),
      readSteps, Option.map_bind]
    rfl
  have hends : ∀ (bytes : Store) (buf : List UInt8), buf.length = len.toNat →
      Delivers (readSteps o (card init SectorCount bytes) (address cfg off) buf len.toNat) bytes
        (address cfg off) buf (readEnd (ok init o) (address cfg off) len.toNat) :=
    fun bytes buf hlen => readSteps_delivers (c := card init SectorCount bytes) rfl hlen
      len.toNat_lt hlenpos (haccept.trans_le hfit)
  constructor
  · intro hall
    have hones : (List.replicate len.toNat (1 : UInt8)).length = len.toNat :=
      List.length_replicate
    obtain ⟨r, hr, hcorrect⟩ := hall (fun _ => 0) _ hones
    rw [hrun] at hr
    have hcase := hends (fun _ => 0) _ hones
    generalize readEnd (ok init o) (address cfg off) len.toNat = e at hcase ⊢
    rcases hcase with hnone | ⟨hsome, hstatus⟩ | @⟨k, s, hsome, hstatus, htotal, hdata⟩
    · rw [hnone] at hr
      cases hr
    · exact promises_some.mpr (.inl rfl)
    · rw [hsome, Option.map_some, hstatus, if_pos rfl] at hr
      obtain rfl := Option.some.inj hr
      exact promises_some.mpr (.inr (htotal.symm.trans (hcorrect rfl).2))
  · intro hpromises bytes buf hlen
    unfold ReadCorrect
    rw [hrun]
    have hcase := hends bytes buf hlen
    generalize readEnd (ok init o) (address cfg off) len.toNat = e at hcase hpromises
    rcases hcase with hnone | @⟨k, s, hsome, hstatus⟩ | @⟨k, s, hsome, hstatus, htotal, hdata⟩
    · exact absurd hpromises not_promises_none
    · exact ⟨_, by rw [hsome]; rfl, fun hok => by simp [hstatus] at hok⟩
    · have hk : k = len.toNat := (promises_some.mp hpromises).resolve_left (by simp)
      refine ⟨_, by rw [hsome]; rfl, fun _ => ?_⟩
      simp only [hstatus, if_true]
      rw [hk] at hdata htotal
      exact ⟨by rw [hdata, splice_all (by simpa using hlen.symm)]; rfl, htotal⟩

theorem readCorrect_of_refused {cfg : FWIfEmmcCfg} {off : UInt64} {len : UInt32}
    (hwindow : address cfg off + len.toNat ≤ cfg.ullLength.toNat)
    (hrefuse : len = 0 ∨ cfg.xState ≠ .OPENED ∨
      address cfg off + len.toNat = cfg.ullLength.toNat) :
    ReadCorrect cfg o c off buf len := by
  obtain ⟨haddr, hrange⟩ := validate_eq hwindow
  by_cases hlen : len = 0
  · exact ⟨⟨.PARAMS, buf, len.toNat, c⟩, if_neg (not_not.mpr hlen), fun h => nomatch h⟩
  by_cases hopen : cfg.xState = .OPENED
  · have hend := (hrefuse.resolve_left hlen).resolve_left (not_not.mpr hopen)
    have hout : ¬ ulValidateAddressRange cfg (address cfg off) len.toNat = .NONE := by
      rw [hrange]
      omega
    refine ⟨⟨.DRIVER_INVALID_ADDRESS, buf, len.toNat, c⟩, ?_, fun h => nomatch h⟩
    simp only [ulEmmcRead, if_pos hlen, if_pos hopen, haddr, if_neg hout]
  · refine ⟨⟨.INVALID_STATE, buf, len.toNat, c⟩, ?_, fun h => nomatch h⟩
    simp only [ulEmmcRead, if_pos hlen, if_neg hopen]

end Read

/-! ### Every access in the window -/

/-- **An access in the window of the interface, on a card that has the window, does what it reports
for every contents and data exactly when it is refused or meets the condition of its kind.** -/
theorem accesses_correct_iff (cfg : FWIfEmmcCfg) (o : ℕ → Call) (init : Bool) (SectorCount : UInt32)
    (off : UInt64) (len : UInt32) (hfit : cfg.ullLength.toNat ≤ SectorCount.toNat * 512)
    (hwindow : address cfg off + len.toNat ≤ cfg.ullLength.toNat) :
    ((∀ bytes data, data.length = len.toNat →
        WriteCorrect cfg o (card init SectorCount bytes) off data len) ↔
      cfg.xState ≠ .OPENED ∨ address cfg off + len.toNat = cfg.ullLength.toNat ∨
        WriteHolds (ok init o) (address cfg off) len.toNat) ∧
    ((∀ bytes buf, buf.length = len.toNat →
        ReadCorrect cfg o (card init SectorCount bytes) off buf len) ↔
      cfg.xState ≠ .OPENED ∨ address cfg off + len.toNat = cfg.ullLength.toNat ∨
        ReadHolds (ok init o) (address cfg off) len.toNat) := by
  by_cases hrefuse : cfg.xState ≠ .OPENED ∨ address cfg off + len.toNat = cfg.ullLength.toNat
  · have hor : ∀ p : Prop, cfg.xState ≠ .OPENED ∨
        address cfg off + len.toNat = cfg.ullLength.toNat ∨ p := fun p =>
      hrefuse.elim .inl fun hend => .inr (.inl hend)
    exact ⟨iff_of_true (fun _ _ _ => writeCorrect_of_refused hwindow hrefuse) (hor _),
      iff_of_true (fun _ _ _ => readCorrect_of_refused hwindow (.inr hrefuse)) (hor _)⟩
  obtain ⟨hopen, hend⟩ := not_or.mp hrefuse
  have hopen' := not_not.mp hopen
  have haccept := lt_of_le_of_ne hwindow hend
  rw [or_iff_right hopen, or_iff_right hend, or_iff_right hopen, or_iff_right hend]
  refine ⟨writeCorrect_iff hopen' hfit haccept, ?_⟩
  by_cases hlen : len = 0
  · refine iff_of_true (fun _ _ _ => readCorrect_of_refused hwindow (.inl hlen)) ?_
    subst hlen
    exact .inr (.inl (by simp))
  · exact readCorrect_iff hopen' hlen hfit haccept

/-- An open interface to the four blocks of a small card. -/
def fourBlocks : FWIfEmmcCfg := ⟨0, 2048, .OPENED⟩

def good : ℕ → Call := fun _ => ⟨true, true, true⟩

/-- Two blocks from the start of the card are written and read as they should. -/
theorem fourBlocks_aligned :
    (∀ bytes data, data.length = 1024 →
      WriteCorrect fourBlocks good (card true 4 bytes) 0 data 1024) ∧
    (∀ bytes buf, buf.length = 1024 →
      ReadCorrect fourBlocks good (card true 4 bytes) 0 buf 1024) := by
  have h := accesses_correct_iff fourBlocks good true 4 0 1024 (by decide) (by decide)
  have hwrite : WriteHolds (ok true good) (address fourBlocks 0) (1024 : UInt32).toNat :=
    .inl rfl
  have hread : ReadHolds (ok true good) (address fourBlocks 0) (1024 : UInt32).toNat := .inl rfl
  exact ⟨h.1.mpr (.inr (.inr hwrite)), h.2.mpr (.inr (.inr hread))⟩

/-- From the middle of a block, half a block, one block and half a block: the last half is neither
written nor read, and no call fails. -/
theorem not_accesses_correct :
    ¬ ∀ (cfg : FWIfEmmcCfg) (o : ℕ → Call) (init : Bool) (SectorCount : UInt32) (off : UInt64)
      (len : UInt32), cfg.ullLength.toNat ≤ SectorCount.toNat * 512 →
      address cfg off + len.toNat ≤ cfg.ullLength.toNat →
      (∀ bytes data, data.length = len.toNat →
        WriteCorrect cfg o (card init SectorCount bytes) off data len) ∧
      (∀ bytes buf, buf.length = len.toNat →
        ReadCorrect cfg o (card init SectorCount bytes) off buf len) := by
  intro hall
  obtain ⟨hwrite, -⟩ := hall fourBlocks good true 4 256 1024 (by decide) (by decide)
  have hholds := (writeCorrect_iff rfl (by decide) (by decide)).mp hwrite
  have haddr : address fourBlocks 256 = 256 := rfl
  have hlen : (1024 : UInt32).toNat = 1024 := rfl
  rw [haddr, hlen] at hholds
  simp [WriteHolds, ok, good] at hholds

/-! ### Runs of accesses -/

theorem Card.iEMMC_Read_bytes {o : ℕ → Call} {c : Card} {A n k : ℕ} {buf : List UInt8}
    {r : Bool × List UInt8 × Card} (h : c.iEMMC_Read o A n buf k = some r) :
    r.2.2.bytes = c.bytes := by
  unfold iEMMC_Read at h
  split_ifs at h <;> obtain rfl := Option.some.inj h <;> rfl

theorem ulEmmcRead_bytes {cfg : FWIfEmmcCfg} {o : ℕ → Call} {c : Card} {off : UInt64}
    {buf : List UInt8} {len : UInt32} {r : ReadResult}
    (h : ulEmmcRead cfg o c off buf len = some r) : r.card.bytes = c.bytes := by
  have hread := @Card.iEMMC_Read_bytes o
  have hfirst : ∀ {A l s}, readFirst o c A buf l = some s → s.card.bytes = c.bytes := by
    intro A l s h
    unfold readFirst at h
    grind [Option.bind_eq_some_iff, Option.map_eq_some_iff]
  have hblocks : ∀ {s t}, readBlocks o s = some t → t.card.bytes = s.card.bytes := by
    intro s t h
    unfold readBlocks at h
    grind [Option.bind_eq_some_iff, Option.map_eq_some_iff]
  have hlast : ∀ {s t}, readLast o s = some t → t.card.bytes = s.card.bytes := by
    intro s t h
    unfold readLast at h
    grind [Option.bind_eq_some_iff, Option.map_eq_some_iff]
  unfold ulEmmcRead at h
  grind [Option.bind_eq_some_iff, Option.map_eq_some_iff]

/-- An access through the interface, with the outcomes of the calls of the driver. -/
inductive Access
  | write (o : ℕ → Call) (off : UInt64) (data : List UInt8) (len : UInt32)
  | read (o : ℕ → Call) (off : UInt64) (buf : List UInt8) (len : UInt32)

namespace Access

/-- What an access that reports success leaves in the buffer and on the card. -/
def exec (cfg : FWIfEmmcCfg) (init : Bool) (SectorCount : UInt32) (m : Store) :
    Access → Option (List UInt8 × Store)
  | .write o off data len =>
    (ulEmmcWrite cfg o (card init SectorCount m) off (some data) len).bind fun r =>
      if r.1 = .NONE then some ([], r.2.bytes) else none
  | .read o off buf len =>
    (ulEmmcRead cfg o (card init SectorCount m) off buf len).bind fun r =>
      if r.ulStatus = .NONE then some (r.pucData, r.card.bytes) else none

/-- What it means: the interface is an array of bytes. -/
def meaning (cfg : FWIfEmmcCfg) (m : Store) : Access → List UInt8 × Store
  | .write _ off data _ => ([], put m (address cfg off) data)
  | .read _ off _ len => (ByteStore.read m (address cfg off) len.toNat, m)

/-- The access has a buffer of its length, lies in the window and meets the condition of its kind. -/
def Meets (cfg : FWIfEmmcCfg) (init : Bool) : Access → Prop
  | .write o off data len => data.length = len.toNat ∧
      address cfg off + len.toNat ≤ cfg.ullLength.toNat ∧
      WriteHolds (ok init o) (address cfg off) len.toNat
  | .read o off buf len => buf.length = len.toNat ∧
      address cfg off + len.toNat ≤ cfg.ullLength.toNat ∧
      ReadHolds (ok init o) (address cfg off) len.toNat

def execAll (cfg : FWIfEmmcCfg) (init : Bool) (SectorCount : UInt32) :
    Store → List Access → Option (List (List UInt8) × Store)
  | m, [] => some ([], m)
  | m, a :: as => (a.exec cfg init SectorCount m).bind fun r =>
      (execAll cfg init SectorCount r.2 as).map fun t => (r.1 :: t.1, t.2)

def meaningAll (cfg : FWIfEmmcCfg) : Store → List Access → List (List UInt8) × Store
  | m, [] => ([], m)
  | m, a :: as =>
    let t := meaningAll cfg (a.meaning cfg m).2 as
    ((a.meaning cfg m).1 :: t.1, t.2)

variable {cfg : FWIfEmmcCfg} {init : Bool} {SectorCount : UInt32}

theorem exec_eq (hfit : cfg.ullLength.toNat ≤ SectorCount.toNat * 512) {a : Access}
    (ha : a.Meets cfg init) {m : Store} {r : List UInt8 × Store}
    (h : a.exec cfg init SectorCount m = some r) : r = a.meaning cfg m := by
  cases a with
  | write o off data len =>
    obtain ⟨hlen, hwindow, hholds⟩ := ha
    have hcorrect : WriteCorrect cfg o (card init SectorCount m) off data len := by
      by_cases hopen : cfg.xState = .OPENED ∧ address cfg off + len.toNat < cfg.ullLength.toNat
      · exact (writeCorrect_iff hopen.1 hfit hopen.2).mpr hholds m data hlen
      · exact writeCorrect_of_refused hwindow (by
          rcases not_and_or.mp hopen with h | h
          · exact .inl h
          · exact .inr (by omega))
    obtain ⟨x, hx, hbytes⟩ := hcorrect
    rw [exec, hx, Option.bind_some] at h
    split_ifs at h with hnone
    obtain rfl := Option.some.inj h
    rw [hbytes hnone]
    rfl
  | read o off buf len =>
    obtain ⟨hlen, hwindow, hholds⟩ := ha
    have hcorrect : ReadCorrect cfg o (card init SectorCount m) off buf len := by
      by_cases hopen : len ≠ 0 ∧ cfg.xState = .OPENED ∧
          address cfg off + len.toNat < cfg.ullLength.toNat
      · exact (readCorrect_iff hopen.2.1 hopen.1 hfit hopen.2.2).mpr hholds m buf hlen
      · refine readCorrect_of_refused hwindow ?_
        by_contra hno
        obtain ⟨h₁, h₂⟩ := not_or.mp hno
        obtain ⟨h₂, h₃⟩ := not_or.mp h₂
        exact hopen ⟨h₁, not_not.mp h₂, lt_of_le_of_ne hwindow h₃⟩
    obtain ⟨x, hx, hdata⟩ := hcorrect
    rw [exec, hx, Option.bind_some] at h
    split_ifs at h with hnone
    obtain rfl := Option.some.inj h
    rw [(hdata hnone).1, ulEmmcRead_bytes hx]
    rfl

/-- **The interface is an array of bytes**: in every run of accesses that meet their conditions and
report success, each read gives the bytes that the writes before it have left. -/
theorem runs_as_bytes (hfit : cfg.ullLength.toNat ≤ SectorCount.toNat * 512) (as : List Access)
    (has : ∀ a ∈ as, a.Meets cfg init) (m : Store) (r : List (List UInt8) × Store)
    (h : execAll cfg init SectorCount m as = some r) : r = meaningAll cfg m as := by
  induction as generalizing m r with
  | nil => exact (Option.some.inj h).symm
  | cons a as ih =>
    obtain ⟨x, hx, h⟩ := Option.bind_eq_some_iff.mp h
    obtain ⟨t, ht, rfl⟩ := Option.map_eq_some_iff.mp h
    rw [exec_eq hfit (has a List.mem_cons_self) hx] at ht ⊢
    rw [ih (fun b hb => has b (List.mem_cons_of_mem _ hb)) _ _ ht]
    rfl

end Access

/-- Four bytes are written behind the start of a block and read back. -/
theorem fourBytes_read_back : ∃ r, Access.execAll fourBlocks true 4 (fun _ => 0)
      [.write good 512 [1, 2, 3, 4] 4, .read good 512 [0, 0, 0, 0] 4] = some r ∧
    r.1 = [[], [1, 2, 3, 4]] := by
  have hsome : (Access.execAll fourBlocks true 4 (fun _ => 0)
      [.write good 512 [1, 2, 3, 4] 4, .read good 512 [0, 0, 0, 0] 4]).isSome = true := by
    decide +kernel
  obtain ⟨r, hr⟩ := Option.isSome_iff_exists.mp hsome
  have hmeets : ∀ a ∈ [Access.write good 512 [1, 2, 3, 4] 4, .read good 512 [0, 0, 0, 0] 4],
      a.Meets fourBlocks true := by
    rintro a (_ | ⟨_, _ | ⟨_, h⟩⟩)
    · exact ⟨rfl, by decide, .inr rfl⟩
    · exact ⟨rfl, by decide, .inl rfl⟩
    · cases h
  have heq := Access.runs_as_bytes (by decide) _ hmeets _ r hr
  exact ⟨r, hr, by rw [heq]; decide +kernel⟩

end Amr.Emmc
