/-
# The flash operations of a download

`iDownloadImage` of `fw/AMC/src/proxy_drivers/apc/apc_proxy_driver.c` down to the sector erases,
page programs and block writes of `fw_if_ospi_amc.c`, `ospi.c`, `fw_if_emmc_amc.c` and `emmc.c`,
each with the bytes of flash that it covers.

The check of `iDownloadImage` adds packet offset, base and length in 32 bits, and below it the
flash is erased by sectors and written by pages or blocks. A download stays inside its partition
exactly when the sectors, pages or blocks that hold its bytes do.
-/
import Amr.Lib.Stride
import Amr.Apc.Download

namespace Amr.Apc

open ByteStore Stride

def HAL_OSPI_PAGE_SIZE : ℕ := 256

def HAL_EMMC_BLOCK_SIZE : ℕ := 512

inductive FlashOp
  /-- The sector that holds `a` is erased. -/
  | erase (S a : ℕ)
  /-- A page of RAM from `src` on is programmed at `a`. -/
  | program (a src : ℕ)
  /-- The block at `block` is written, with `n` bytes of RAM from `src` on put at `dest`. -/
  | write (block dest src n : ℕ)
  /-- An access outside an array: what the code does from there on is not defined. -/
  | undefined
  deriving DecidableEq, Repr

namespace FlashOp

/-- The bytes that the operation covers lie in `[lo, hi)`. -/
def Inside (lo hi : ℕ) : FlashOp → Prop
  | erase S a => lo ≤ a / S * S ∧ a / S * S + S ≤ hi
  | program a _ => lo ≤ a ∧ a + HAL_OSPI_PAGE_SIZE ≤ hi
  | write block _ _ _ => lo ≤ block ∧ block + HAL_EMMC_BLOCK_SIZE ≤ hi
  | undefined => False

instance (lo hi : ℕ) : DecidablePred (Inside lo hi)
  | erase _ _ => instDecidableAnd
  | program _ _ => instDecidableAnd
  | write _ _ _ _ => instDecidableAnd
  | undefined => instDecidableFalse

end FlashOp

/-! ### OSPI -/

/-- The OSPI flash, its sectors, and the length that its interface covers. -/
structure OspiChip where
  ulSectSize : ℕ
  ululNumSect : ℕ
  ulLength : ℕ
  ulSectSize_pos : 0 < ulSectSize
  ulSectSize_dvd : ulSectSize ∣ 2 ^ 32

/-- What a round of the erase loop comes to. -/
inductive EraseRound
  /-- The address cannot be translated: the loop ends. -/
  | stopped
  /-- A command is not taken. -/
  | refused
  /-- The sector is erased; the poll of the status goes well or not. -/
  | erased (polled : Bool)
  deriving DecidableEq, Repr

/-- How the operations of an OSPI write go. -/
structure OspiOutcome where
  erase : ℕ → EraseRound
  page : ℕ → Bool
  readBack : Bool

/-- The number of pieces of size `u` that cover `n` bytes. -/
def pieces (u n : ℕ) : ℕ := n / u + if n % u = 0 then 0 else 1

/-- The sector loop of `iFlashErase`. -/
def eraseOps (S : ℕ) (o : ℕ → EraseRound) : ℕ → ℕ → UInt32 → Bool → List FlashOp × Bool
  | 0, _, _, iOspiStatus => ([], iOspiStatus)
  | n + 1, iSector, ulAddress, _ =>
    match o iSector with
    | .stopped => ([], false)
    | .refused => eraseOps S o n (iSector + 1) ulAddress false
    | .erased polled =>
      let r := eraseOps S o n (iSector + 1) (ulAddress + UInt32.ofNat S) polled
      (.erase S ulAddress.toNat :: r.1, r.2)

/-- The page loop of `iOSPI_FlashWrite`. -/
def programOps (o : ℕ → Bool) (ulAddr : UInt32) (src : ℕ) :
    ℕ → ℕ → Bool → List FlashOp × Bool
  | 0, _, iStatus => ([], iStatus)
  | n + 1, iPage, _ =>
    if o iPage then
      let r := programOps o ulAddr src n (iPage + 1) true
      (.program (ulAddr + UInt32.ofNat (iPage * HAL_OSPI_PAGE_SIZE)).toNat
        (src + iPage * HAL_OSPI_PAGE_SIZE) :: r.1, r.2)
    else programOps o ulAddr src n (iPage + 1) false

/-- `ulOspiWrite`. The erase of a whole flash needs the stacked mode, which is not supported. -/
def ospiOps (c : OspiChip) (o : OspiOutcome) (ulAddr : UInt32) (src : ℕ) (ulLength : UInt32) :
    List FlashOp × Bool :=
  if (ulAddr + ulLength).toNat ≤ c.ulLength then
    if ulLength.toNat = c.ululNumSect * c.ulSectSize then ([], false)
    else
      let e := eraseOps c.ulSectSize o.erase (pieces c.ulSectSize ulLength.toNat) 0 ulAddr false
      if e.2 then
        let w := programOps o.page ulAddr src (pieces HAL_OSPI_PAGE_SIZE ulLength.toNat) 0 false
        (e.1 ++ w.1, w.2 && o.readBack)
      else (e.1, false)
  else ([], false)

/-! ### eMMC -/

/-- How the reads and writes of an eMMC write go. -/
structure EmmcRounds where
  headRead : Bool
  headWrite : Bool
  block : ℕ → Bool
  tailRead : Bool
  tailWrite : Bool

/-- `iEMMC_Write` of whole blocks. -/
def blockOps (o : ℕ → Bool) (ullAddr src : ℕ) : ℕ → ℕ → List FlashOp × Bool
  | 0, _ => ([], true)
  | n + 1, i =>
    if o i then
      let r := blockOps o ullAddr src n (i + 1)
      (.write (ullAddr + i * HAL_EMMC_BLOCK_SIZE) (ullAddr + i * HAL_EMMC_BLOCK_SIZE)
        (src + i * HAL_EMMC_BLOCK_SIZE) HAL_EMMC_BLOCK_SIZE :: r.1, r.2)
    else ([], false)

/-- The last step of `ulEmmcWrite`. The bytes that remain go to a buffer of one block. -/
def tailOps (o : EmmcRounds) (ullAddr src : ℕ) (ulBytesToWrite : UInt32) : List FlashOp × Bool :=
  if ulBytesToWrite.toNat % HAL_EMMC_BLOCK_SIZE ≠ 0 then
    if o.tailRead then
      if HAL_EMMC_BLOCK_SIZE < ulBytesToWrite.toNat then ([.undefined], false)
      else if o.tailWrite then ([.write ullAddr ullAddr src ulBytesToWrite.toNat], true)
      else ([], false)
    else ([], true)
  else ([], true)

/-- `ulEmmcWrite` from the start of a block on. The bytes that remain are counted down by all that
was written, the bytes of the first block included. -/
def bodyOps (o : EmmcRounds) (ullAddr src : ℕ) (ulTotalBytesWritten ulBytesToWrite : UInt32) :
    List FlashOp × Bool :=
  let ulBlockCount := ulBytesToWrite.toNat / HAL_EMMC_BLOCK_SIZE
  if 0 < ulBlockCount then
    let w := blockOps o.block ullAddr (src + ulTotalBytesWritten.toNat) ulBlockCount 0
    if w.2 then
      let done := UInt32.ofNat (ulBlockCount * HAL_EMMC_BLOCK_SIZE)
      let r := tailOps o (ullAddr + ulBlockCount * HAL_EMMC_BLOCK_SIZE)
        (src + (ulTotalBytesWritten + done).toNat) (ulBytesToWrite - (ulTotalBytesWritten + done))
      (w.1 ++ r.1, r.2)
    else (w.1, false)
  else tailOps o ullAddr (src + ulTotalBytesWritten.toNat) ulBytesToWrite

/-- `ulEmmcWrite` for a device of length `cap`; a write up to its very end is refused. -/
def emmcOps (cap : ℕ) (o : EmmcRounds) (ullAddr src : ℕ) (ulLength : UInt32) :
    List FlashOp × Bool :=
  if ullAddr + ulLength.toNat < cap then
    let ullAddrBlockOffset := ullAddr % HAL_EMMC_BLOCK_SIZE
    if ullAddrBlockOffset ≠ 0 then
      if o.headRead then
        let ulBytesToWrite := UInt32.ofNat
          (min ulLength.toNat (HAL_EMMC_BLOCK_SIZE - ullAddrBlockOffset))
        if o.headWrite then
          let op := FlashOp.write (ullAddr - ullAddrBlockOffset) ullAddr src ulBytesToWrite.toNat
          if ulBytesToWrite < ulLength then
            let r := bodyOps o (ullAddr - ullAddrBlockOffset + HAL_EMMC_BLOCK_SIZE) src
              ulBytesToWrite (ulLength - ulBytesToWrite)
            (op :: r.1, r.2)
          else ([op], true)
        else ([], false)
      else ([], false)
    else if 0 < ulLength then bodyOps o ullAddr src 0 ulLength
    else ([], true)
  else ([], false)

/-! ### A download -/

/-- A boot device as its firmware interface sees it. -/
inductive Chip
  | ospi (c : OspiChip)
  | emmc (cap : ℕ)

structure ChipOutcome where
  ospi : OspiOutcome
  emmc : EmmcRounds

/-- `write` of the firmware interface. -/
def Chip.ops (o : ChipOutcome) (ulDestAddr : UInt32) (src : ℕ) (ulImageSize : UInt32) :
    Chip → List FlashOp × Bool
  | ospi c => ospiOps c o.ospi ulDestAddr src ulImageSize
  | emmc cap => emmcOps cap o.emmc ulDestAddr.toNat src ulImageSize

namespace Bench

def ulDestAddr (x : APCMboxDownloadImage) (p : APCProxyDriverFptPartition) : UInt32 :=
  packetOffset x + p.ulPartitionBaseAddr

/-- The checks of `iDownloadImage` for a partition. -/
def Admitted (x : APCMboxDownloadImage) (p : APCProxyDriverFptPartition) : Prop :=
  x.ulImageSize ≤ p.ulPartitionSize ∧ x.ulPacketSize ≠ 0 ∧
    ulDestAddr x p + x.ulImageSize ≤ p.ulPartitionBaseAddr + p.ulPartitionSize

instance (x : APCMboxDownloadImage) (p : APCProxyDriverFptPartition) : Decidable (Admitted x p) :=
  inferInstanceAs (Decidable (_ ∧ _ ∧ _))

/-- The flash operations of `iDownloadImage`. -/
def downloadOps (chip : APC_BOOT_DEVICES → Chip) (o : ChipOutcome) (b : Bench)
    (x : APCMboxDownloadImage) : List FlashOp :=
  if x.iUpdateFpt then
    if x.ulPacketSize = 0 then []
    else (Chip.ops o (packetOffset x) x.ulSrcAddr.toNat x.ulImageSize (chip x.xBootDevice)).1
  else
    match (b.data.device x.xBootDevice).cached x.iPartition with
    | none => [.undefined]
    | some p =>
      if Admitted x p then
        (Chip.ops o (ulDestAddr x p) x.ulSrcAddr.toNat x.ulImageSize (chip x.xBootDevice)).1
      else []

/-- The checks of `iAPC_DownloadImage` before a request goes to the mailbox. -/
def Offered (b : Bench) (x : APCMboxDownloadImage) : Prop :=
  b.data.iInitialised ∧ (b.data.device x.xBootDevice).piValidFpt ∧ x.ulImageSize ≠ 0 ∧
    (b.data.device x.xBootDevice).Below x.iPartition ∧ x.iUpdateFpt = false

end Bench

/-! ### What the OSPI operations cover -/

theorem pieces_pos {u n : ℕ} (hn : 0 < n) : 0 < pieces u n := by
  unfold pieces
  split_ifs with h
  · have hu : n / u ≠ 0 := by
      intro h0
      have := Nat.div_add_mod n u
      rw [h0, h, Nat.mul_zero] at this
      omega
    exact Nat.add_pos_left (Nat.pos_of_ne_zero hu) _
  · exact Nat.add_pos_right _ Nat.one_pos

theorem toNat_add_ofNat (a : UInt32) (n : ℕ) :
    (a + UInt32.ofNat n).toNat = (a.toNat + n) % 2 ^ 32 := by
  rw [UInt32.toNat_add, UInt32.toNat_ofNat', Nat.add_mod_mod]

theorem mem_eraseOps {S : ℕ} (o : ℕ → EraseRound) (n : ℕ) :
    ∀ {i : ℕ} {a : UInt32} {st : Bool} {op : FlashOp}, op ∈ (eraseOps S o n i a st).1 →
      ∃ k < n, op = .erase S (address (2 ^ 32) a.toNat S k) := by
  induction n with
  | zero => intro i a st op h; exact absurd h List.not_mem_nil
  | succ n ih =>
    intro i a st op h
    unfold eraseOps at h
    split at h
    · exact absurd h List.not_mem_nil
    · obtain ⟨k, hk, rfl⟩ := ih h
      exact ⟨k, by omega, rfl⟩
    · rcases List.mem_cons.mp h with rfl | h
      · exact ⟨0, by omega, by rw [address_zero S a.toNat_lt]⟩
      · obtain ⟨k, hk, rfl⟩ := ih h
        rw [toNat_add_ofNat, address_step]
        exact ⟨k + 1, by omega, rfl⟩

theorem eraseOps_good (S n : ℕ) :
    ∀ (i : ℕ) (a : UInt32) (st : Bool),
      (∀ k < n, .erase S (address (2 ^ 32) a.toNat S k) ∈
        (eraseOps S (fun _ => .erased true) n i a st).1) ∧
      (0 < n → (eraseOps S (fun _ => .erased true) n i a st).2 = true) := by
  induction n with
  | zero => intro i a st; exact ⟨fun k hk => absurd hk (by omega), fun h => absurd h (by omega)⟩
  | succ n ih =>
    intro i a st
    obtain ⟨hmem, hok⟩ := ih (i + 1) (a + UInt32.ofNat S) true
    refine ⟨fun k hk => ?_, fun _ => ?_⟩
    · rcases k with _ | k
      · rw [address_zero S a.toNat_lt]
        exact List.mem_cons_self
      · refine List.mem_cons_of_mem _ ?_
        have hk' := hmem k (by omega)
        rwa [toNat_add_ofNat, address_step] at hk'
    · rcases n with _ | n
      · rfl
      · exact hok (by omega)

theorem mem_programOps (o : ℕ → Bool) (a : UInt32) (src n : ℕ) :
    ∀ {i : ℕ} {st : Bool} {op : FlashOp}, op ∈ (programOps o a src n i st).1 →
      ∃ k < i + n, ∃ s, op = .program (address (2 ^ 32) a.toNat HAL_OSPI_PAGE_SIZE k) s := by
  induction n with
  | zero => intro i st op h; exact absurd h List.not_mem_nil
  | succ n ih =>
    intro i st op h
    unfold programOps at h
    split_ifs at h
    · rcases List.mem_cons.mp h with rfl | h
      · exact ⟨i, by omega, _, by rw [toNat_add_ofNat]; rfl⟩
      · obtain ⟨k, hk, s, rfl⟩ := ih h
        exact ⟨k, by omega, s, rfl⟩
    · obtain ⟨k, hk, s, rfl⟩ := ih h
      exact ⟨k, by omega, s, rfl⟩

theorem programOps_good (a : UInt32) (src n : ℕ) :
    ∀ (i : ℕ) (st : Bool) {k : ℕ}, i ≤ k → k < i + n →
      ∃ s, .program (address (2 ^ 32) a.toNat HAL_OSPI_PAGE_SIZE k) s ∈
        (programOps (fun _ => true) a src n i st).1 := by
  induction n with
  | zero => intro i st k hle hlt; omega
  | succ n ih =>
    intro i st k hle hlt
    rcases Nat.eq_or_lt_of_le hle with rfl | hlt'
    · refine ⟨src + i * HAL_OSPI_PAGE_SIZE, ?_⟩
      have haddr : address (2 ^ 32) a.toNat HAL_OSPI_PAGE_SIZE i =
          (a + UInt32.ofNat (i * HAL_OSPI_PAGE_SIZE)).toNat := (toNat_add_ofNat ..).symm
      rw [haddr]
      exact List.mem_cons_self
    · obtain ⟨s, hs⟩ := ih (i + 1) true hlt' (by omega)
      exact ⟨s, List.mem_cons_of_mem _ hs⟩

/-- The sectors and the pages of a write lie in `[lo, hi)`, or the write is refused or empty. -/
def OspiChip.Fits (c : OspiChip) (a len : UInt32) (lo hi : ℕ) : Prop :=
  c.ulLength < (a + len).toNat ∨ len.toNat = c.ululNumSect * c.ulSectSize ∨ len = 0 ∨
    Stride.Fits (2 ^ 32) (a.toNat / c.ulSectSize * c.ulSectSize) c.ulSectSize
        (pieces c.ulSectSize len.toNat) lo hi ∧
      Stride.Fits (2 ^ 32) a.toNat HAL_OSPI_PAGE_SIZE (pieces HAL_OSPI_PAGE_SIZE len.toNat) lo hi

/-- An OSPI write on which all goes well. -/
def OspiOutcome.good : OspiOutcome := ⟨fun _ => .erased true, fun _ => true, true⟩

theorem ospiOps_inside_iff (c : OspiChip) (a len : UInt32) (src : ℕ) {lo hi : ℕ}
    (hspan : hi < lo + 2 ^ 32) :
    (∀ o, ∀ op ∈ (ospiOps c o a src len).1, op.Inside lo hi) ↔ c.Fits a len lo hi := by
  unfold OspiChip.Fits
  by_cases hcap : (a + len).toNat ≤ c.ulLength
  swap
  · refine iff_of_true (fun o op hop => ?_) (.inl (by omega))
    unfold ospiOps at hop
    rw [if_neg hcap] at hop
    exact absurd hop List.not_mem_nil
  by_cases hall : len.toNat = c.ululNumSect * c.ulSectSize
  · refine iff_of_true (fun o op hop => ?_) (.inr (.inl hall))
    unfold ospiOps at hop
    rw [if_pos hcap, if_pos hall] at hop
    exact absurd hop List.not_mem_nil
  by_cases hlen : len = 0
  · refine iff_of_true (fun o op hop => ?_) (.inr (.inr (.inl hlen)))
    unfold ospiOps at hop
    rw [if_pos hcap, if_neg hall, hlen] at hop
    simp [pieces, eraseOps] at hop
  have hpos : 0 < len.toNat := by
    rw [Nat.pos_iff_ne_zero]
    exact fun h => hlen (UInt32.toNat_inj.mp h)
  have hS : c.ulSectSize ≤ 2 ^ 32 := Nat.le_of_dvd (by norm_num) c.ulSectSize_dvd
  have hsector : a.toNat / c.ulSectSize * c.ulSectSize < 2 ^ 32 :=
    (Nat.div_mul_le_self _ _).trans_lt a.toNat_lt
  rw [or_iff_right (by omega), or_iff_right hall, or_iff_right hlen,
    ← inside_iff hsector hS hspan (pieces_pos hpos),
    ← inside_iff a.toNat_lt (by unfold HAL_OSPI_PAGE_SIZE; norm_num) hspan (pieces_pos hpos)]
  constructor
  · intro h
    have hgood := h .good
    obtain ⟨herase, hok⟩ := eraseOps_good c.ulSectSize (pieces c.ulSectSize len.toNat) 0 a false
    unfold ospiOps OspiOutcome.good at hgood
    rw [if_pos hcap, if_neg hall] at hgood
    simp only [hok (pieces_pos hpos), if_true] at hgood
    refine ⟨fun k hk => ?_, fun k hk => ?_⟩
    · have hin := hgood _ (List.mem_append_left _ (herase k hk))
      simp only [FlashOp.Inside, block_address c.ulSectSize_dvd] at hin
      exact hin
    · obtain ⟨s, hs⟩ := programOps_good a src (pieces HAL_OSPI_PAGE_SIZE len.toNat) 0 false
        (Nat.zero_le k) (by omega)
      exact hgood _ (List.mem_append_right _ hs)
  · rintro ⟨hsectors, hpages⟩ o op hop
    have herase : ∀ op ∈ (eraseOps c.ulSectSize o.erase (pieces c.ulSectSize len.toNat) 0 a
        false).1, op.Inside lo hi := by
      intro op hop
      obtain ⟨k, hk, rfl⟩ := mem_eraseOps _ _ hop
      simp only [FlashOp.Inside, block_address c.ulSectSize_dvd]
      exact hsectors k hk
    unfold ospiOps at hop
    rw [if_pos hcap, if_neg hall] at hop
    dsimp only at hop
    split_ifs at hop
    · rcases List.mem_append.mp hop with hop | hop
      · exact herase op hop
      · obtain ⟨k, hk, s, rfl⟩ := mem_programOps _ _ _ _ hop
        exact hpages k (by omega)
    · exact herase op hop

/-! ### What the eMMC operations cover -/

def FlashOp.block? : FlashOp → Option ℕ
  | write block _ _ _ => some block
  | _ => none

theorem FlashOp.inside_of_block? {op : FlashOp} {a lo hi : ℕ} (h : op.block? = some a) :
    op.Inside lo hi ↔ lo ≤ a ∧ a + HAL_EMMC_BLOCK_SIZE ≤ hi := by
  cases op with
  | write block dest src n =>
    obtain rfl : block = a := by simpa [FlashOp.block?] using h
    exact Iff.rfl
  | erase S a' => exact absurd h nofun
  | program a' src => exact absurd h nofun
  | undefined => exact absurd h nofun

/-- An eMMC write on which all goes well. -/
def EmmcRounds.good : EmmcRounds := ⟨true, true, fun _ => true, true, true⟩

/-- The operations of a write are on the `n` blocks from `a` on, and on all of them when all goes
well. -/
structure Covers (l : EmmcRounds → List FlashOp) (a n : ℕ) : Prop where
  among : ∀ o, ∀ op ∈ l o, ∃ k < n, op.block? = some (a + k * HAL_EMMC_BLOCK_SIZE)
  each : ∀ k < n, ∃ op ∈ l .good, op.block? = some (a + k * HAL_EMMC_BLOCK_SIZE)

theorem Covers.inside_iff {l : EmmcRounds → List FlashOp} {a n lo hi : ℕ} (h : Covers l a n) :
    (∀ o, ∀ op ∈ l o, op.Inside lo hi) ↔
      n = 0 ∨ lo ≤ a ∧ a + n * HAL_EMMC_BLOCK_SIZE ≤ hi := by
  constructor
  · intro hin
    rcases n with _ | n
    · exact .inl rfl
    obtain ⟨op, hop, hblock⟩ := h.each 0 (by omega)
    obtain ⟨op', hop', hblock'⟩ := h.each n (by omega)
    obtain ⟨hlo, -⟩ := (FlashOp.inside_of_block? hblock).mp (hin _ op hop)
    obtain ⟨-, hhi⟩ := (FlashOp.inside_of_block? hblock').mp (hin _ op' hop')
    rw [Nat.succ_mul]
    omega
  · intro hfit o op hop
    obtain ⟨k, hk, hblock⟩ := h.among o op hop
    have hle : (k + 1) * HAL_EMMC_BLOCK_SIZE ≤ n * HAL_EMMC_BLOCK_SIZE :=
      Nat.mul_le_mul_right _ hk
    rw [Nat.succ_mul] at hle
    rcases hfit with rfl | ⟨hlo, hhi⟩
    · omega
    · exact (FlashOp.inside_of_block? hblock).mpr ⟨by omega, by omega⟩

theorem mem_blockOps (o : ℕ → Bool) (a src n : ℕ) :
    ∀ {i : ℕ} {op : FlashOp}, op ∈ (blockOps o a src n i).1 →
      ∃ k < i + n, op.block? = some (a + k * HAL_EMMC_BLOCK_SIZE) := by
  induction n with
  | zero => intro i op h; exact absurd h List.not_mem_nil
  | succ n ih =>
    intro i op h
    unfold blockOps at h
    split_ifs at h
    · rcases List.mem_cons.mp h with rfl | h
      · exact ⟨i, by omega, rfl⟩
      · obtain ⟨k, hk, hblock⟩ := ih h
        exact ⟨k, by omega, hblock⟩
    · exact absurd h List.not_mem_nil

theorem blockOps_good (a src n : ℕ) :
    ∀ i, (blockOps (fun _ => true) a src n i).2 = true ∧ ∀ k, i ≤ k → k < i + n →
      ∃ op ∈ (blockOps (fun _ => true) a src n i).1,
        op.block? = some (a + k * HAL_EMMC_BLOCK_SIZE) := by
  induction n with
  | zero => intro i; exact ⟨rfl, fun k hle hlt => absurd hlt (by omega)⟩
  | succ n ih =>
    intro i
    obtain ⟨hok, hmem⟩ := ih (i + 1)
    refine ⟨hok, fun k hle hlt => ?_⟩
    rcases Nat.eq_or_lt_of_le hle with rfl | hlt'
    · exact ⟨_, List.mem_cons_self, rfl⟩
    · obtain ⟨op, hop, hblock⟩ := hmem k hlt' (by omega)
      exact ⟨op, List.mem_cons_of_mem _ hop, hblock⟩

/-- The number of blocks that the bytes left over take. -/
def tailBlocks (r : ℕ) : ℕ := if r % HAL_EMMC_BLOCK_SIZE = 0 then 0 else 1

variable (a src : ℕ)

theorem tailOps_covers {r : UInt32} (hr : r.toNat < HAL_EMMC_BLOCK_SIZE) :
    Covers (fun o => (tailOps o a src r).1) a (tailBlocks r.toNat) := by
  unfold tailOps tailBlocks
  by_cases h0 : r.toNat % HAL_EMMC_BLOCK_SIZE = 0
  · simp only [h0, ne_eq, not_true_eq_false, if_false, if_true]
    exact ⟨fun o op hop => absurd hop List.not_mem_nil, fun k hk => absurd hk (by omega)⟩
  · simp only [ne_eq, h0, not_false_eq_true, if_true, if_false, Nat.not_lt.mpr hr.le]
    refine ⟨fun o op hop => ?_, fun k hk => ?_⟩
    · split_ifs at hop
      · obtain rfl := List.mem_singleton.mp hop
        exact ⟨0, by omega, by simp [FlashOp.block?]⟩
      · exact absurd hop List.not_mem_nil
      · exact absurd hop List.not_mem_nil
    · obtain rfl : k = 0 := by omega
      exact ⟨_, List.mem_singleton_self _, by simp [FlashOp.block?]⟩

variable {l l' : EmmcRounds → List FlashOp}

theorem Covers.append {a n n' : ℕ} (h : Covers l a n)
    (h' : Covers l' (a + n * HAL_EMMC_BLOCK_SIZE) n') :
    Covers (fun o => l o ++ l' o) a (n + n') := by
  have hat : ∀ k, a + n * HAL_EMMC_BLOCK_SIZE + k * HAL_EMMC_BLOCK_SIZE =
      a + (n + k) * HAL_EMMC_BLOCK_SIZE := fun k => by rw [Nat.add_mul, Nat.add_assoc]
  refine ⟨fun o op hop => ?_, fun k hk => ?_⟩
  · rcases List.mem_append.mp hop with hop | hop
    · obtain ⟨k, hk, hblock⟩ := h.among o op hop
      exact ⟨k, by omega, hblock⟩
    · obtain ⟨k, hk, hblock⟩ := h'.among o op hop
      rw [hat] at hblock
      exact ⟨n + k, by omega, hblock⟩
  · rcases Nat.lt_or_ge k n with hlt | hge
    · obtain ⟨op, hop, hblock⟩ := h.each k hlt
      exact ⟨op, List.mem_append_left _ hop, hblock⟩
    · obtain ⟨op, hop, hblock⟩ := h'.each (k - n) (by omega)
      rw [hat, Nat.add_sub_cancel' hge] at hblock
      exact ⟨op, List.mem_append_right _ hop, hblock⟩

theorem Covers.weaken {a n : ℕ} (h : Covers l a n)
    (hsub : ∀ o, ∀ op ∈ l' o, op ∈ l o) (hgood : l' .good = l .good) : Covers l' a n :=
  ⟨fun o op hop => h.among o op (hsub o op hop), fun k hk => by rw [hgood]; exact h.each k hk⟩

theorem blockOps_covers (a src n : ℕ) : Covers (fun o => (blockOps o.block a src n 0).1) a n := by
  refine ⟨fun o op hop => ?_, fun k hk => ?_⟩
  · obtain ⟨k, hk, hblock⟩ := mem_blockOps _ _ _ _ hop
    exact ⟨k, by omega, hblock⟩
  · exact (blockOps_good a src n 0).2 k (by omega) (by omega)

variable {t r : UInt32}

/-- What the count of the bytes that remain comes to behind the whole blocks: it falls below zero
when the first block took more than the last one has. -/
theorem toNat_remaining (ht : t.toNat < HAL_EMMC_BLOCK_SIZE)
    (hsum : t.toNat + r.toNat < 2 ^ 32) :
    (r - (t + UInt32.ofNat (r.toNat / HAL_EMMC_BLOCK_SIZE * HAL_EMMC_BLOCK_SIZE))).toNat =
      if t.toNat ≤ r.toNat % HAL_EMMC_BLOCK_SIZE then r.toNat % HAL_EMMC_BLOCK_SIZE - t.toNat
      else 2 ^ 32 + r.toNat % HAL_EMMC_BLOCK_SIZE - t.toNat := by
  unfold HAL_EMMC_BLOCK_SIZE at *
  have hdone : (t + UInt32.ofNat (r.toNat / 512 * 512)).toNat = t.toNat + r.toNat / 512 * 512 := by
    rw [toNat_add_ofNat]
    exact Nat.mod_eq_of_lt (by omega)
  rw [UInt32.toNat_sub, hdone]
  split_ifs <;> omega

theorem bodyOps_short (hr : r.toNat < HAL_EMMC_BLOCK_SIZE) :
    Covers (fun o => (bodyOps o a src t r).1) a (tailBlocks r.toNat) := by
  have hzero : r.toNat / HAL_EMMC_BLOCK_SIZE = 0 := Nat.div_eq_of_lt hr
  unfold bodyOps
  simp only [hzero, Nat.lt_irrefl, if_false]
  exact tailOps_covers a _ hr

theorem bodyOps_covers (ht : t.toNat < HAL_EMMC_BLOCK_SIZE)
    (hsum : t.toNat + r.toNat < 2 ^ 32) (hr : HAL_EMMC_BLOCK_SIZE ≤ r.toNat)
    (hle : t.toNat ≤ r.toNat % HAL_EMMC_BLOCK_SIZE) :
    Covers (fun o => (bodyOps o a src t r).1) a
      (r.toNat / HAL_EMMC_BLOCK_SIZE + tailBlocks (r.toNat % HAL_EMMC_BLOCK_SIZE - t.toNat)) := by
  have hpos : 0 < r.toNat / HAL_EMMC_BLOCK_SIZE := Nat.div_pos hr (by decide)
  have hrem := toNat_remaining ht hsum
  rw [if_pos hle] at hrem
  have hlt : r.toNat % HAL_EMMC_BLOCK_SIZE < HAL_EMMC_BLOCK_SIZE := Nat.mod_lt _ (by decide)
  have htail := tailOps_covers (a + r.toNat / HAL_EMMC_BLOCK_SIZE * HAL_EMMC_BLOCK_SIZE)
    (src + (t + UInt32.ofNat (r.toNat / HAL_EMMC_BLOCK_SIZE * HAL_EMMC_BLOCK_SIZE)).toNat)
    (r := r - (t + UInt32.ofNat (r.toNat / HAL_EMMC_BLOCK_SIZE * HAL_EMMC_BLOCK_SIZE)))
    (by rw [hrem]; omega)
  rw [hrem] at htail
  refine ((blockOps_covers a (src + t.toNat) _).append htail).weaken (fun o op hop => ?_) ?_
  · unfold bodyOps at hop
    rw [if_pos hpos] at hop
    dsimp only at hop
    split_ifs at hop
    · exact hop
    · exact List.mem_append_left _ hop
  · have hok := (blockOps_good a (src + t.toNat) (r.toNat / HAL_EMMC_BLOCK_SIZE) 0).1
    unfold bodyOps EmmcRounds.good
    simp only [if_pos hpos, hok, if_true]

theorem bodyOps_overrun (ht : t.toNat < HAL_EMMC_BLOCK_SIZE)
    (hsum : t.toNat + r.toNat < 2 ^ 32) (hr : HAL_EMMC_BLOCK_SIZE ≤ r.toNat)
    (hlt : r.toNat % HAL_EMMC_BLOCK_SIZE < t.toNat) :
    .undefined ∈ (bodyOps .good a src t r).1 := by
  have hpos : 0 < r.toNat / HAL_EMMC_BLOCK_SIZE := Nat.div_pos hr (by decide)
  have hok := (blockOps_good a (src + t.toNat) (r.toNat / HAL_EMMC_BLOCK_SIZE) 0).1
  have hrem := toNat_remaining ht hsum
  rw [if_neg (by omega)] at hrem
  unfold bodyOps tailOps EmmcRounds.good
  simp only [if_pos hpos, hok, if_true, hrem]
  rw [if_pos, if_pos]
  · exact List.mem_append_right _ (List.mem_singleton_self _)
  · unfold HAL_EMMC_BLOCK_SIZE at *
    omega
  · unfold HAL_EMMC_BLOCK_SIZE at *
    omega

/-- The number of blocks that a write of `len` bytes at `a` goes to, from the block of `a` on;
`none` when its last copy leaves the buffer. -/
def emmcBlocks (a len : ℕ) : Option ℕ :=
  let head := HAL_EMMC_BLOCK_SIZE - a % HAL_EMMC_BLOCK_SIZE
  if a % HAL_EMMC_BLOCK_SIZE = 0 then some (pieces HAL_EMMC_BLOCK_SIZE len)
  else if len ≤ head then some 1
  else if len - head < HAL_EMMC_BLOCK_SIZE then some 2
  else if head ≤ (len - head) % HAL_EMMC_BLOCK_SIZE then
    some (1 + ((len - head) / HAL_EMMC_BLOCK_SIZE +
      tailBlocks ((len - head) % HAL_EMMC_BLOCK_SIZE - head)))
  else none

/-- The blocks of a write lie in `[lo, hi)`, or the write is refused or empty. -/
def EmmcFits (cap a len lo hi : ℕ) : Prop :=
  cap ≤ a + len ∨ ∃ n, emmcBlocks a len = some n ∧
    (n = 0 ∨ lo ≤ a / HAL_EMMC_BLOCK_SIZE * HAL_EMMC_BLOCK_SIZE ∧
      a / HAL_EMMC_BLOCK_SIZE * HAL_EMMC_BLOCK_SIZE + n * HAL_EMMC_BLOCK_SIZE ≤ hi)

theorem emmcOps_aligned {cap a src : ℕ} {len : UInt32} (hcap : a + len.toNat < cap)
    (ha : a % HAL_EMMC_BLOCK_SIZE = 0) :
    Covers (fun o => (emmcOps cap o a src len).1) a (pieces HAL_EMMC_BLOCK_SIZE len.toNat) := by
  unfold emmcOps
  simp only [if_pos hcap, ha, ne_eq, not_true_eq_false, if_false]
  by_cases hlen : 0 < len
  · simp only [if_pos hlen]
    have hpieces : pieces HAL_EMMC_BLOCK_SIZE len.toNat =
        len.toNat / HAL_EMMC_BLOCK_SIZE + tailBlocks (len.toNat % HAL_EMMC_BLOCK_SIZE) := by
      unfold pieces tailBlocks
      rw [Nat.mod_mod]
    rw [hpieces]
    rcases Nat.lt_or_ge len.toNat HAL_EMMC_BLOCK_SIZE with hlt | hge
    · rw [Nat.div_eq_of_lt hlt, Nat.zero_add, Nat.mod_eq_of_lt hlt]
      exact bodyOps_short a src hlt
    · have hcover := bodyOps_covers a src (t := 0) (r := len)
        (by decide) (by simpa using len.toNat_lt) hge (Nat.zero_le _)
      simpa using hcover
  · obtain rfl : len = 0 := by
      rw [UInt32.lt_iff_toNat_lt] at hlen
      exact UInt32.toNat_inj.mp (by simpa using hlen)
    simp only [if_neg hlen]
    exact ⟨fun o op hop => absurd hop List.not_mem_nil, fun k hk => absurd hk (by simp [pieces])⟩

theorem head_covers (src n : ℕ) {a off : ℕ} (hoff : off = a % HAL_EMMC_BLOCK_SIZE) :
    Covers (fun _ => [.write (a - off) a src n])
      (a / HAL_EMMC_BLOCK_SIZE * HAL_EMMC_BLOCK_SIZE) 1 := by
  have hblock : a - off = a / HAL_EMMC_BLOCK_SIZE * HAL_EMMC_BLOCK_SIZE := by
    have := Nat.div_add_mod' a HAL_EMMC_BLOCK_SIZE
    omega
  refine ⟨fun o op hop => ?_, fun k hk => ?_⟩
  · obtain rfl := List.mem_singleton.mp hop
    exact ⟨0, by omega, by simp [FlashOp.block?, hblock]⟩
  · obtain rfl : k = 0 := by omega
    exact ⟨_, List.mem_singleton_self _, by simp [FlashOp.block?, hblock]⟩

section Unaligned

variable {cap a src : ℕ} {len : UInt32}

theorem emmcOps_within (hcap : a + len.toNat < cap) (ha : a % HAL_EMMC_BLOCK_SIZE ≠ 0)
    (hlen : len.toNat ≤ HAL_EMMC_BLOCK_SIZE - a % HAL_EMMC_BLOCK_SIZE) :
    Covers (fun o => (emmcOps cap o a src len).1)
      (a / HAL_EMMC_BLOCK_SIZE * HAL_EMMC_BLOCK_SIZE) 1 := by
  have hmin : UInt32.ofNat (min len.toNat (HAL_EMMC_BLOCK_SIZE - a % HAL_EMMC_BLOCK_SIZE)) =
      len := by
    rw [min_eq_left hlen]
    exact UInt32.ofNat_toNat
  have hlt : ¬ len < len := UInt32.lt_irrefl len
  refine (head_covers src len.toNat rfl).weaken (fun o op hop => ?_) ?_
  · unfold emmcOps at hop
    simp only [if_pos hcap, if_pos ha, hmin, if_neg hlt] at hop
    split_ifs at hop
    · exact hop
    · exact absurd hop List.not_mem_nil
    · exact absurd hop List.not_mem_nil
  · unfold emmcOps EmmcRounds.good
    simp only [if_pos hcap, if_pos ha, hmin, if_neg hlt, if_true]

theorem emmcOps_beyond (src : ℕ) (hcap : a + len.toNat < cap) (ha : a % HAL_EMMC_BLOCK_SIZE ≠ 0)
    (hlen : HAL_EMMC_BLOCK_SIZE - a % HAL_EMMC_BLOCK_SIZE < len.toNat) :
    ∃ t r : UInt32, t.toNat = HAL_EMMC_BLOCK_SIZE - a % HAL_EMMC_BLOCK_SIZE ∧
      r.toNat = len.toNat - t.toNat ∧
      (∀ o, ∀ op ∈ (emmcOps cap o a src len).1,
        op ∈ [.write (a - a % HAL_EMMC_BLOCK_SIZE) a src t.toNat] ++
          (bodyOps o (a / HAL_EMMC_BLOCK_SIZE * HAL_EMMC_BLOCK_SIZE + 1 * HAL_EMMC_BLOCK_SIZE)
            src t r).1) ∧
      (emmcOps cap .good a src len).1 =
        [.write (a - a % HAL_EMMC_BLOCK_SIZE) a src t.toNat] ++
          (bodyOps .good (a / HAL_EMMC_BLOCK_SIZE * HAL_EMMC_BLOCK_SIZE + 1 * HAL_EMMC_BLOCK_SIZE)
            src t r).1 := by
  have hblock : a - a % HAL_EMMC_BLOCK_SIZE + HAL_EMMC_BLOCK_SIZE =
      a / HAL_EMMC_BLOCK_SIZE * HAL_EMMC_BLOCK_SIZE + 1 * HAL_EMMC_BLOCK_SIZE := by
    have := Nat.div_add_mod' a HAL_EMMC_BLOCK_SIZE
    omega
  have hmin : min len.toNat (HAL_EMMC_BLOCK_SIZE - a % HAL_EMMC_BLOCK_SIZE) =
      HAL_EMMC_BLOCK_SIZE - a % HAL_EMMC_BLOCK_SIZE := min_eq_right hlen.le
  have ht : (UInt32.ofNat (HAL_EMMC_BLOCK_SIZE - a % HAL_EMMC_BLOCK_SIZE)).toNat =
      HAL_EMMC_BLOCK_SIZE - a % HAL_EMMC_BLOCK_SIZE :=
    UInt32.toNat_ofNat_of_lt' (hlen.trans len.toNat_lt)
  have hlt : UInt32.ofNat (HAL_EMMC_BLOCK_SIZE - a % HAL_EMMC_BLOCK_SIZE) < len := by
    rw [UInt32.lt_iff_toNat_lt, ht]
    exact hlen
  refine ⟨UInt32.ofNat (HAL_EMMC_BLOCK_SIZE - a % HAL_EMMC_BLOCK_SIZE),
    len - UInt32.ofNat (HAL_EMMC_BLOCK_SIZE - a % HAL_EMMC_BLOCK_SIZE), ht,
    UInt32.toNat_sub_of_le _ _ (UInt32.le_of_lt hlt), fun o op hop => ?_, ?_⟩
  · unfold emmcOps at hop
    simp only [if_pos hcap, if_pos ha, hmin, if_pos hlt, hblock] at hop
    split_ifs at hop
    · exact hop
    · exact absurd hop List.not_mem_nil
    · exact absurd hop List.not_mem_nil
  · unfold emmcOps
    simp only [if_pos hcap, if_pos ha, hmin, if_pos hlt, hblock, EmmcRounds.good, if_true]
    rfl

end Unaligned

theorem emmcOps_inside_iff (cap a src : ℕ) (len : UInt32) (lo hi : ℕ) :
    (∀ o, ∀ op ∈ (emmcOps cap o a src len).1, op.Inside lo hi) ↔
      EmmcFits cap a len.toNat lo hi := by
  unfold EmmcFits
  by_cases hcap : a + len.toNat < cap
  swap
  · refine iff_of_true (fun o op hop => ?_) (.inl (by omega))
    unfold emmcOps at hop
    rw [if_neg hcap] at hop
    exact absurd hop List.not_mem_nil
  rw [or_iff_right (by omega)]
  -- once the blocks are known, they decide
  have hknown : ∀ {n : ℕ}, emmcBlocks a len.toNat = some n →
      Covers (fun o => (emmcOps cap o a src len).1)
        (a / HAL_EMMC_BLOCK_SIZE * HAL_EMMC_BLOCK_SIZE) n →
      ((∀ o, ∀ op ∈ (emmcOps cap o a src len).1, op.Inside lo hi) ↔
        ∃ n, emmcBlocks a len.toNat = some n ∧
          (n = 0 ∨ lo ≤ a / HAL_EMMC_BLOCK_SIZE * HAL_EMMC_BLOCK_SIZE ∧
            a / HAL_EMMC_BLOCK_SIZE * HAL_EMMC_BLOCK_SIZE + n * HAL_EMMC_BLOCK_SIZE ≤ hi)) := by
    intro n hn hcover
    rw [hcover.inside_iff, hn]
    simp only [Option.some.injEq, exists_eq_left']
  by_cases ha : a % HAL_EMMC_BLOCK_SIZE = 0
  · refine hknown (n := pieces HAL_EMMC_BLOCK_SIZE len.toNat) (by simp [emmcBlocks, ha]) ?_
    have hbase : a / HAL_EMMC_BLOCK_SIZE * HAL_EMMC_BLOCK_SIZE = a :=
      Nat.div_mul_cancel (Nat.dvd_of_mod_eq_zero ha)
    rw [hbase]
    exact emmcOps_aligned hcap ha
  rcases Nat.lt_or_ge (HAL_EMMC_BLOCK_SIZE - a % HAL_EMMC_BLOCK_SIZE) len.toNat with hlen | hlen
  swap
  · exact hknown (n := 1) (by simp [emmcBlocks, ha, hlen]) (emmcOps_within hcap ha hlen)
  obtain ⟨t, r, ht, hr, hsub, hgood⟩ := emmcOps_beyond src hcap ha hlen
  have htlt : t.toNat < HAL_EMMC_BLOCK_SIZE := by
    rw [ht]
    unfold HAL_EMMC_BLOCK_SIZE at *
    omega
  have hsum : t.toNat + r.toNat < 2 ^ 32 := by
    rw [hr, Nat.add_sub_cancel' (by omega)]
    exact len.toNat_lt
  rw [← ht] at hlen
  have hblocks : emmcBlocks a len.toNat =
      if r.toNat < HAL_EMMC_BLOCK_SIZE then some 2
      else if t.toNat ≤ r.toNat % HAL_EMMC_BLOCK_SIZE then
        some (1 + (r.toNat / HAL_EMMC_BLOCK_SIZE +
          tailBlocks (r.toNat % HAL_EMMC_BLOCK_SIZE - t.toNat)))
      else none := by
    unfold emmcBlocks
    simp only [if_neg ha, ← ht, if_neg (Nat.not_le.mpr hlen), ← hr]
  have hcovers : ∀ {n : ℕ}, Covers (fun o => (bodyOps o (a / HAL_EMMC_BLOCK_SIZE *
      HAL_EMMC_BLOCK_SIZE + 1 * HAL_EMMC_BLOCK_SIZE) src t r).1)
        (a / HAL_EMMC_BLOCK_SIZE * HAL_EMMC_BLOCK_SIZE + 1 * HAL_EMMC_BLOCK_SIZE) n →
      Covers (fun o => (emmcOps cap o a src len).1)
        (a / HAL_EMMC_BLOCK_SIZE * HAL_EMMC_BLOCK_SIZE) (1 + n) := fun hbody =>
    ((head_covers src t.toNat rfl).append hbody).weaken hsub hgood
  rcases Nat.lt_or_ge r.toNat HAL_EMMC_BLOCK_SIZE with hshort | hlong
  · refine hknown (n := 1 + 1) (by rw [hblocks, if_pos hshort]) (hcovers ?_)
    have htail : tailBlocks r.toNat = 1 := by
      unfold tailBlocks
      rw [if_neg]
      rw [Nat.mod_eq_of_lt hshort]
      omega
    rw [← htail]
    exact bodyOps_short _ src hshort
  by_cases hle : t.toNat ≤ r.toNat % HAL_EMMC_BLOCK_SIZE
  · refine hknown (n := 1 + _) ?_ (hcovers (bodyOps_covers _ src htlt hsum hlong hle))
    rw [hblocks, if_neg (Nat.not_lt.mpr hlong), if_pos hle]
  · refine iff_of_false (fun h => ?_) ?_
    · have hmem := bodyOps_overrun (a / HAL_EMMC_BLOCK_SIZE * HAL_EMMC_BLOCK_SIZE +
        1 * HAL_EMMC_BLOCK_SIZE) src htlt hsum hlong (Nat.lt_of_not_le hle)
      exact h .good .undefined (by rw [hgood]; exact List.mem_append_right _ hmem)
    · rintro ⟨n, hn, -⟩
      rw [hblocks, if_neg (Nat.not_lt.mpr hlong), if_neg hle] at hn
      exact absurd hn nofun

/-! ### Downloads that stay inside -/

/-- A write of `len` bytes at `a` stays in `[lo, hi)`. -/
def Chip.Fits (a len : UInt32) (lo hi : ℕ) : Chip → Prop
  | ospi c => c.Fits a len lo hi
  | emmc cap => EmmcFits cap a.toNat len.toNat lo hi

theorem Chip.ops_inside_iff (chip : Chip) (a len : UInt32) (src : ℕ) {lo hi : ℕ}
    (hspan : hi < lo + 2 ^ 32) :
    (∀ o, ∀ op ∈ (chip.ops o a src len).1, op.Inside lo hi) ↔ chip.Fits a len lo hi := by
  cases chip with
  | ospi c =>
    refine Iff.trans ?_ (ospiOps_inside_iff c a len src hspan)
    exact ⟨fun h o => h ⟨o, .good⟩, fun h o => h o.ospi⟩
  | emmc cap =>
    refine Iff.trans ?_ (emmcOps_inside_iff cap a.toNat src len lo hi)
    exact ⟨fun h o => h ⟨.good, o⟩, fun h o => h o.emmc⟩

namespace Bench

/-- However the flash answers, every operation of a download lies inside the partition that the
request selects. -/
def StaysInside (chip : APC_BOOT_DEVICES → Chip) (b : Bench) (x : APCMboxDownloadImage) : Prop :=
  ∀ o, ∀ op ∈ b.downloadOps chip o x,
    ∃ p, (b.data.device x.xBootDevice).cached x.iPartition = some p ∧
      op.Inside p.ulPartitionBaseAddr.toNat
        (p.ulPartitionBaseAddr.toNat + p.ulPartitionSize.toNat)

/-- **A download stays inside its partition** exactly when the partition is in the table and the
request is refused, or its sectors, pages or blocks lie there. -/
theorem iDownloadImage_inside_iff (chip : APC_BOOT_DEVICES → Chip) (b : Bench)
    (x : APCMboxDownloadImage) (hx : x.iUpdateFpt = false) :
    b.StaysInside chip x ↔
      ∃ p, (b.data.device x.xBootDevice).cached x.iPartition = some p ∧
        (Admitted x p → (chip x.xBootDevice).Fits (ulDestAddr x p) x.ulImageSize
          p.ulPartitionBaseAddr.toNat
          (p.ulPartitionBaseAddr.toNat + p.ulPartitionSize.toNat)) := by
  have hops : ∀ o, b.downloadOps chip o x =
      match (b.data.device x.xBootDevice).cached x.iPartition with
      | none => [.undefined]
      | some p =>
        if Admitted x p then
          (Chip.ops o (ulDestAddr x p) x.ulSrcAddr.toNat x.ulImageSize (chip x.xBootDevice)).1
        else [] := fun o => by
    unfold downloadOps
    rw [hx]
    rfl
  unfold StaysInside
  simp only [hops]
  cases hp : (b.data.device x.xBootDevice).cached x.iPartition with
  | none =>
    refine iff_of_false (fun h => ?_) (by simp)
    obtain ⟨p, hp, -⟩ := h ⟨.good, .good⟩ .undefined (List.mem_singleton_self _)
    exact absurd hp nofun
  | some p =>
    simp only [Option.some.injEq, exists_eq_left']
    by_cases hadm : Admitted x p
    · simp only [hadm, if_true, true_imp_iff]
      refine Chip.ops_inside_iff _ _ _ _ ?_
      have := p.ulPartitionSize.toNat_lt
      omega
    · simp [hadm]

/-- A table with one partition of 256 KiB at 1 MiB. -/
def onePartition : Bench where
  data :=
    { iInitialised := true
      device := fun _ =>
        { ppxFwIf := true
          flash := fun _ => 0xFF
          piValidFpt := true
          pxFptHeader := ⟨APC_FPT_HDR_MAGIC_NUM, 1, APC_FPT_HDR_SIZE, 36, 1⟩
          ppxFptPartitions := some [some ⟨0, 0x100000, 0x40000, 0, 0, 0⟩] }
      pvOsalMBoxHdl := []
      stray := false }
  ram := fun _ => 0
  seen := []

def packetOf (usPacketNum : UInt16) (ulPacketSize ulImageSize : UInt32) :
    APCMboxDownloadImage where
  xBootDevice := .PRIMARY
  iPartition := 0
  iUpdateFpt := false
  iPdiProgram := false
  iApuPdiProgram := false
  iRpuPdiProgram := false
  iLastPacket := false
  ulImageSize := ulImageSize
  ulSrcAddr := 0
  usPacketNum := usPacketNum
  ulPacketSize := ulPacketSize
  pucPdiMd5 := 0
  ulPdiSize := 0

/-- A flash of 64 MiB with sectors of 128 KiB. -/
def flash64 : OspiChip where
  ulSectSize := FLASH_SECTOR_SIZE_128KB
  ululNumSect := 0x200
  ulLength := 0x4000000
  ulSectSize_pos := by decide
  ulSectSize_dvd := ⟨0x8000, by decide⟩

theorem onePartition_second_packet :
    onePartition.StaysInside (fun _ => .ospi flash64) (packetOf 1 128 0x400) :=
  (iDownloadImage_inside_iff _ _ _ rfl).mpr ⟨_, rfl, fun _ => .inr (.inr (.inr (by decide)))⟩

/-- A packet size that wraps takes the second packet to the sector below the partition. -/
theorem not_stays_inside :
    ¬ ∀ (chip : APC_BOOT_DEVICES → Chip) (b : Bench) (x : APCMboxDownloadImage),
      b.Offered x → b.StaysInside chip x := by
  intro h
  have hoffered : onePartition.Offered (packetOf 1 0x3FFFFF 0x400) := by
    unfold Offered
    decide
  have hin := h (fun _ => .ospi flash64) _ _ hoffered ⟨.good, .good⟩
    (.erase FLASH_SECTOR_SIZE_128KB 0xFFC00) (by decide)
  obtain ⟨p, hp, hin⟩ := hin
  obtain rfl : (⟨0, 0x100000, 0x40000, 0, 0, 0⟩ : APCProxyDriverFptPartition) = p :=
    Option.some.inj hp
  exact absurd hin (by decide)

end Bench

end Amr.Apc
