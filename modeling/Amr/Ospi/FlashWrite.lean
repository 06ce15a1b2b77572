/-
# Writing the flash

`iFlashWrite` and `iOSPI_FlashWrite` of `ospi.c`, in the indirect mode and with the single flash
that the driver is initialised for. The flash is a NOR memory; what each transfer does is its
outcome. The loop over the pages keeps the status of the last page only, and the read-back looks at
the pages whose offsets are multiples of a tenth of the number of pages, and compares those whose
first word reads as erased. Addresses are below the size of the device, so that no sum wraps.
-/
import Amr.Lib.BlockAccess
import Amr.Lib.NorFlash

namespace Amr.Ospi

open ByteStore NorFlash

def FLASH_PAGE_SIZE_DEFAULT : ℕ := 256

/-- How `iFlashWrite` goes: the write enable fails, the page transfer fails, or the page is
programmed, and its status can then be read or not. -/
inductive PageTransfer
  | notEnabled
  | notProgrammed
  | programmed (ready : Bool)
  deriving DecidableEq, Repr

/-- The outcomes of a write: of the mutex, of the pages, and of the reads of the pages. -/
structure WriteOutcomes where
  taken : Bool
  page : ℕ → PageTransfer
  read : ℕ → Bool
  released : Bool

inductive Fault
  | overread
  | divideByZero
  deriving DecidableEq, Repr

/-- The transfer of `ulByteCount` bytes of the caller's data, from position `k` on. -/
def iFlashWrite (t : PageTransfer) (m : Store) (ulAddress ulByteCount : ℕ) (data : List UInt8)
    (k : ℕ) : Except Fault (Bool × Store) :=
  match t with
  | .notEnabled => .ok (false, m)
  | .notProgrammed => if k + ulByteCount ≤ data.length then .ok (false, m) else .error .overread
  | .programmed ready =>
    if k + ulByteCount ≤ data.length then
      .ok (ready, programPage FLASH_PAGE_SIZE_DEFAULT m ulAddress ((data.drop k).take ulByteCount))
    else .error .overread

/-- The first `iPage` rounds of the loop over the pages: the status, and the flash. -/
def writePages (o : WriteOutcomes) (m : Store) (ulAddr : ℕ) (data : List UInt8) :
    ℕ → Except Fault (Bool × Store)
  | 0 => .ok (false, m)
  | iPage + 1 =>
    match writePages o m ulAddr data iPage with
    | .ok r =>
      let ulWriteOffset := iPage * FLASH_PAGE_SIZE_DEFAULT
      iFlashWrite (o.page iPage) r.2 (ulAddr + ulWriteOffset) FLASH_PAGE_SIZE_DEFAULT data
        ulWriteOffset
    | .error fault => .error fault

/-- The comparison of a page that was read back. A page is only compared if its first word is
`ERROR`. -/
def pageMatches (m : Store) (ulAddr : ℕ) (data : List UInt8) (iCount : ℕ) : Bool :=
  let ucReadBuffer := read m (ulAddr + iCount) FLASH_PAGE_SIZE_DEFAULT
  (List.range FLASH_PAGE_SIZE_DEFAULT).all fun i =>
    decide (ucReadBuffer.take 4 ≠ [0xFF, 0xFF, 0xFF, 0xFF]) || decide (data.length ≤ iCount + i) ||
      ucReadBuffer.getD i 0 == data.getD (iCount + i) 0

/-- The first `n` rounds of the read-back: the status. -/
def verifyPages (o : WriteOutcomes) (m : Store) (ulAddr : ℕ) (data : List UInt8)
    (ulPageCount : ℕ) : ℕ → Except Fault Bool
  | 0 => .ok true
  | n + 1 =>
    match verifyPages o m ulAddr data ulPageCount n with
    | .ok st =>
      let iCount := n * FLASH_PAGE_SIZE_DEFAULT
      if iCount ≠ 0 ∧ ulPageCount / 10 = 0 then .error .divideByZero
      else if iCount ≠ 0 ∧ iCount % (ulPageCount / 10) ≠ 0 then .ok st
      else
        let st := st && o.read n
        .ok (if st then pageMatches m ulAddr data iCount else false)
    | .error fault => .error fault

def pageCount (ulLength : ℕ) : ℕ :=
  if ulLength % FLASH_PAGE_SIZE_DEFAULT ≠ 0 then ulLength / FLASH_PAGE_SIZE_DEFAULT + 1
  else ulLength / FLASH_PAGE_SIZE_DEFAULT

/-- Whether the write reports success, and the flash afterwards. -/
def iOSPI_FlashWrite (o : WriteOutcomes) (m : Store) (ulAddr : ℕ) (data : List UInt8) :
    Except Fault (Bool × Store) :=
  if o.taken then
    let ulPageCount := pageCount data.length
    match writePages o m ulAddr data ulPageCount with
    | .ok (true, m) =>
      match verifyPages o m ulAddr data ulPageCount ulPageCount with
      | .ok st => .ok (st && o.released, m)
      | .error fault => .error fault
    | .ok (false, m) => .ok (false, m)
    | .error fault => .error fault
  else .ok (false, m)

/-- The write does not read beyond the data and does not divide by zero, it changes the flash
nowhere else, and if it reports success the data are there. -/
def WriteRight (o : WriteOutcomes) (m : Store) (ulAddr : ℕ) (data : List UInt8) : Prop :=
  ∃ r, iOSPI_FlashWrite o m ulAddr data = .ok r ∧
    (∀ x, x < ulAddr ∨ ulAddr + data.length ≤ x → r.2 x = m x) ∧
    (r.1 = true → ∀ i < data.length, r.2 (ulAddr + i) = data.getD i 0)

/-! ### When a write is right -/

def PageTransfer.programs : PageTransfer → Bool
  | .programmed _ => true
  | _ => false

/-- What stands at byte `i` of the range after the transfers of `n` pages. -/
def lands (o : WriteOutcomes) (ulAddr : ℕ) (data : List UInt8) (n i : ℕ) : UInt8 :=
  landing FLASH_PAGE_SIZE_DEFAULT ulAddr data (fun k => (o.page k).programs) n i

/-- The read-back looks at page `k` of `n`. -/
def Sampled (n k : ℕ) : Prop := k = 0 ∨ k * FLASH_PAGE_SIZE_DEFAULT % (n / 10) = 0

/-- Page `k` has the data. -/
def Landed (o : WriteOutcomes) (ulAddr : ℕ) (data : List UInt8) (n k : ℕ) : Prop :=
  ∀ j < 256, lands o ulAddr data n (256 * k + j) = data.getD (256 * k + j) 0

/-- The first word of page `k` reads as erased. -/
def Blank (o : WriteOutcomes) (ulAddr : ℕ) (data : List UInt8) (n k : ℕ) : Prop :=
  ∀ j < 4, lands o ulAddr data n (256 * k + j) = 0xFF

/-- The end of a first page that is not aligned goes to the start of that page, and clears no bit
there. -/
def SpillsNothing (m : Store) (ulAddr : ℕ) (data : List UInt8) : Prop :=
  ∀ d, 0 < d → d ≤ ulAddr % 256 → m (ulAddr - d) &&& data.getD (256 - d) 0xFF = m (ulAddr - d)

def WriteHolds (o : WriteOutcomes) (m : Store) (ulAddr : ℕ) (data : List UInt8) : Prop :=
  let n := data.length / 256
  o.taken = true →
    (data.length % 256 ≠ 0 → o.page n = .notEnabled) ∧
    (0 < n → (o.page 0).programs = true → SpillsNothing m ulAddr data) ∧
    (data.length % 256 = 0 → 0 < n → o.page (n - 1) = .programmed true →
      (n = 1 ∨ 10 ≤ n) ∧
        ((∀ k < n, Sampled n k → o.read k = true) → o.released = true →
          (∀ k < n, Landed o ulAddr data n k) ∨
            ∃ k < n, Sampled n k ∧ Blank o ulAddr data n k ∧ ¬ Landed o ulAddr data n k))

/-! ### The loop over the pages -/

section

variable {o : WriteOutcomes} {m : Store} {ulAddr : ℕ} {data : List UInt8} {n : ℕ}

/-- What `iFlashWrite` reports. -/
def PageTransfer.reports : PageTransfer → Bool
  | .programmed ready => ready
  | _ => false

theorem reports_iff {t : PageTransfer} : t.reports = true ↔ t = .programmed true := by
  cases t with
  | notEnabled => exact iff_of_false nofun nofun
  | notProgrammed => exact iff_of_false nofun nofun
  | programmed ready => exact ⟨congrArg _, fun h => PageTransfer.programmed.inj h⟩

/-- The flash after the first `n` pages. -/
def written (o : WriteOutcomes) (m : Store) (ulAddr : ℕ) (data : List UInt8) (n : ℕ) : Store :=
  programPages FLASH_PAGE_SIZE_DEFAULT m ulAddr data (fun k => (o.page k).programs) n

theorem page_pos : 0 < FLASH_PAGE_SIZE_DEFAULT := Nat.succ_pos 255

/-- **The pages of which the caller has the data.** -/
theorem writePages_eq (o : WriteOutcomes) (m : Store) (ulAddr : ℕ) {data : List UInt8} :
    ∀ n, n * 256 ≤ data.length → writePages o m ulAddr data n
      = .ok (if n = 0 then false else (o.page (n - 1)).reports, written o m ulAddr data n) := by
  intro n
  induction n with
  | zero =>
    intro _
    rw [written, programPages_zero]
    rfl
  | succ n ih =>
    intro hlen
    have hroom : n * FLASH_PAGE_SIZE_DEFAULT + FLASH_PAGE_SIZE_DEFAULT ≤ data.length :=
      (Nat.succ_mul n 256).ge.trans hlen
    have hbefore : n * 256 ≤ data.length := (Nat.le_add_right _ _).trans hroom
    have hpages : written o m ulAddr data (n + 1) = if (o.page n).programs then
        programPage FLASH_PAGE_SIZE_DEFAULT (written o m ulAddr data n)
          (ulAddr + n * FLASH_PAGE_SIZE_DEFAULT)
          ((data.drop (n * FLASH_PAGE_SIZE_DEFAULT)).take FLASH_PAGE_SIZE_DEFAULT)
        else written o m ulAddr data n := programPages_succ page_pos
    rw [hpages, writePages, ih hbefore]
    dsimp only
    rw [if_neg (Nat.succ_ne_zero n), Nat.add_sub_cancel]
    cases hpage : o.page n with
    | notEnabled => rfl
    | notProgrammed =>
      rw [iFlashWrite, if_pos hroom]
      rfl
    | programmed ready =>
      rw [iFlashWrite, if_pos hroom]
      rfl

theorem writePages_partial (o : WriteOutcomes) (m : Store) (ulAddr : ℕ) (data : List UInt8) :
    writePages o m ulAddr data (data.length / 256 + 1)
      = if o.page (data.length / 256) = .notEnabled then
          .ok (false, written o m ulAddr data (data.length / 256))
        else .error .overread := by
  have hroom : ¬ data.length / 256 * FLASH_PAGE_SIZE_DEFAULT + FLASH_PAGE_SIZE_DEFAULT
      ≤ data.length := by
    rw [FLASH_PAGE_SIZE_DEFAULT]
    omega
  rw [writePages, writePages_eq o m ulAddr _ (Nat.div_mul_le_self _ _)]
  dsimp only
  cases hpage : o.page (data.length / 256) with
  | notEnabled => rfl
  | notProgrammed =>
    rw [iFlashWrite, if_neg hroom]
    rfl
  | programmed ready =>
    rw [iFlashWrite, if_neg hroom]
    rfl

/-- **Outside the range** the loop clears bits in the page of the start only. -/
theorem written_outside_iff (o : WriteOutcomes) (m : Store) (ulAddr : ℕ) (data : List UInt8)
    (hlen : n * 256 ≤ data.length) :
    (∀ x, x < ulAddr ∨ ulAddr + data.length ≤ x → written o m ulAddr data n x = m x) ↔
      (0 < n → (o.page 0).programs = true → SpillsNothing m ulAddr data) := by
  -- the bytes in front of the start, in its page
  have hfront : ∀ d, 0 < d → d ≤ ulAddr % 256 → written o m ulAddr data n (ulAddr - d)
      = if 0 < n ∧ (o.page 0).programs = true then
          m (ulAddr - d) &&& data.getD (256 - d) 0xFF else m (ulAddr - d) := by
    intro d hd hle
    have hpage : (ulAddr - d) / 256 = ulAddr / 256 := by omega
    have hoff : (ulAddr - d + 256 - ulAddr % 256) % 256 = 256 - d := by omega
    unfold written programPages
    simp only [FLASH_PAGE_SIZE_DEFAULT, hpage, hoff, Nat.sub_self, Nat.mul_zero, Nat.zero_add,
      le_refl, true_and]
    have hiff : ulAddr / 256 < ulAddr / 256 + n ↔ 0 < n := by omega
    simp only [hiff]
  constructor
  · intro hall hn hprog d hd hle
    have hsame := hall (ulAddr - d) (.inl (by omega))
    rw [hfront d hd hle, if_pos ⟨hn, hprog⟩] at hsame
    exact hsame
  · intro hspills x hx
    by_cases hin : x < ulAddr ∧ x / 256 = ulAddr / 256
    · obtain ⟨hlt, hpage⟩ := hin
      have hd : ulAddr - (ulAddr - x) = x := by omega
      have hfront' := hfront (ulAddr - x) (by omega) (by omega)
      rw [hd] at hfront'
      rw [hfront']
      split_ifs with hcond
      · have h := hspills hcond.1 hcond.2 (ulAddr - x) (by omega) (by omega)
        rwa [hd] at h
      · rfl
    · refine programPages_outside page_pos ?_
      change ulAddr + n * 256 ≤ x ∨ x < ulAddr ∧ x / 256 ≠ ulAddr / 256
      rcases hx with hx | hx
      · exact .inr ⟨hx, fun hpage => hin ⟨hx, hpage⟩⟩
      · exact .inl (by omega)

/-! ### The read-back -/

theorem pageMatches_iff {k : ℕ} (hk : (k + 1) * 256 ≤ data.length)
    (hm : ∀ i < data.length, m (ulAddr + i) = lands o ulAddr data n i) :
    pageMatches m ulAddr data (k * FLASH_PAGE_SIZE_DEFAULT) = true ↔
      (Blank o ulAddr data n k → Landed o ulAddr data n k) := by
  have hbyte : ∀ j < 256, (read m (ulAddr + k * 256) 256).getD j 0
      = lands o ulAddr data n (256 * k + j) := by
    intro j hj
    rw [getD_read, if_pos hj, Nat.add_assoc, hm _ (by omega), Nat.mul_comm]
  have hword : (read m (ulAddr + k * 256) 256).take 4 = [0xFF, 0xFF, 0xFF, 0xFF] ↔
      Blank o ulAddr data n k := by
    have htake : (read m (ulAddr + k * 256) 256).take 4
        = [0, 1, 2, 3].map fun j => lands o ulAddr data n (256 * k + j) := by
      refine List.ext_getElem (by simp) fun j hj hj' => ?_
      have hlt : j < 4 := by simpa using hj'
      have h := hbyte j (by omega)
      rw [List.getD_eq_getElem _ _ (by simpa using by omega)] at h
      rw [List.getElem_take, h]
      interval_cases j <;> rfl
    rw [htake]
    constructor
    · intro h j hj
      simp only [List.map_cons, List.map_nil, List.cons.injEq] at h
      obtain ⟨h₀, h₁, h₂, h₃, -⟩ := h
      interval_cases j
      · exact h₀
      · exact h₁
      · exact h₂
      · exact h₃
    · intro h
      simp only [List.map_cons, List.map_nil, h 0 (by omega), h 1 (by omega), h 2 (by omega),
        h 3 (by omega)]
  have hround : ∀ j < 256, (decide ((ByteStore.read m (ulAddr + k * 256) 256).take 4
        ≠ [0xFF, 0xFF, 0xFF, 0xFF]) || decide (data.length ≤ k * 256 + j) ||
        (ByteStore.read m (ulAddr + k * 256) 256).getD j 0 == data.getD (k * 256 + j) 0) = true ↔
      (Blank o ulAddr data n k → lands o ulAddr data n (256 * k + j)
        = data.getD (256 * k + j) 0) := by
    intro j hj
    have hin : ¬ data.length ≤ 256 * k + j := by omega
    rw [Bool.or_eq_true, Bool.or_eq_true, decide_eq_true_iff, decide_eq_true_iff, beq_iff_eq,
      ne_eq, hword, hbyte j hj, Nat.mul_comm k, or_iff_left hin,
      imp_iff_not_or]
  unfold pageMatches
  rw [List.all_eq_true]
  constructor
  · exact fun hall hblank j hj => (hround j hj).mp (hall j (List.mem_range.mpr hj)) hblank
  · intro himp j hj
    exact (hround j (List.mem_range.mp hj)).mpr fun hblank => himp hblank j (List.mem_range.mp hj)

theorem verifyPages_divides {count : ℕ} (hcount : count / 10 = 0) :
    ∀ n, 2 ≤ n → verifyPages o m ulAddr data count n = .error .divideByZero := by
  intro n
  induction n with
  | zero => exact fun h => absurd h (by omega)
  | succ n ih =>
    intro hn
    rw [verifyPages]
    by_cases hlast : n = 1
    · subst hlast
      simp [verifyPages, hcount, FLASH_PAGE_SIZE_DEFAULT]
    · rw [ih (by omega)]

/-- **The read-back** otherwise. -/
theorem verifyPages_eq (o : WriteOutcomes) (m : Store) (ulAddr : ℕ) (data : List UInt8)
    (count : ℕ) :
    ∀ n, (n ≤ 1 ∨ count / 10 ≠ 0) → ∃ st, verifyPages o m ulAddr data count n = .ok st ∧
      (st = true ↔ ∀ k < n, Sampled count k → o.read k = true ∧
        pageMatches m ulAddr data (k * FLASH_PAGE_SIZE_DEFAULT) = true) := by
  intro n
  induction n with
  | zero => exact fun _ => ⟨true, rfl, iff_of_true rfl nofun⟩
  | succ n ih =>
    intro hn
    obtain ⟨st, hst, hiff⟩ := ih (hn.imp_left fun h => by omega)
    have hzero : n * FLASH_PAGE_SIZE_DEFAULT = 0 ↔ n = 0 := by
      simp [FLASH_PAGE_SIZE_DEFAULT]
    have hno : ¬ (n * FLASH_PAGE_SIZE_DEFAULT ≠ 0 ∧ count / 10 = 0) := by
      rintro ⟨hpos, hten⟩
      rcases hn with hn | hn
      · exact hpos (hzero.mpr (by omega))
      · exact hn hten
    have hsplit : ∀ {P : ℕ → Prop}, (∀ k < n + 1, P k) ↔ (∀ k < n, P k) ∧ P n := by
      intro P
      refine ⟨fun h => ⟨fun k hk => h k (by omega), h n (by omega)⟩, fun h k hk => ?_⟩
      rcases Nat.lt_succ_iff_lt_or_eq.mp hk with hlt | rfl
      · exact h.1 k hlt
      · exact h.2
    rw [verifyPages, hst, hsplit]
    dsimp only
    rw [if_neg hno]
    by_cases hskip : n * FLASH_PAGE_SIZE_DEFAULT ≠ 0 ∧
        n * FLASH_PAGE_SIZE_DEFAULT % (count / 10) ≠ 0
    · rw [if_pos hskip]
      refine ⟨st, rfl, hiff.trans ⟨fun h => ⟨h, fun hs => ?_⟩, fun h => h.1⟩⟩
      rcases hs with hs | hs
      · exact absurd (hzero.mpr hs) hskip.1
      · exact absurd hs hskip.2
    · rw [if_neg hskip]
      have hsampled : Sampled count n := by
        by_cases hfirst : n = 0
        · exact .inl hfirst
        · exact .inr (not_not.mp fun h => hskip ⟨mt hzero.mp hfirst, h⟩)
      refine ⟨_, rfl, ?_⟩
      rw [← hiff]
      simp only [hsampled, true_implies]
      cases st <;> cases o.read n <;> simp

/-! ### The write -/

theorem written_eq_iff (herased : ∀ i < data.length, m (ulAddr + i) = 0xFF)
    (hlen : data.length = n * 256) :
    (∀ i < data.length, written o m ulAddr data n (ulAddr + i) = data.getD i 0) ↔
      ∀ k < n, Landed o ulAddr data n k := by
  have hlands : ∀ i < data.length, written o m ulAddr data n (ulAddr + i)
      = lands o ulAddr data n i := fun i hi => programPages_landing page_pos (herased i hi)
  constructor
  · intro hall k hk j hj
    rw [← hlands _ (by omega)]
    exact hall _ (by omega)
  · intro hall i hi
    have h := hall (i / 256) (by omega) (i % 256) (Nat.mod_lt _ (by omega))
    rw [Nat.div_add_mod] at h
    rw [hlands i hi, h]

theorem right_of_failed {m' : Store}
    (h : iOSPI_FlashWrite o m ulAddr data = .ok (false, m')) :
    WriteRight o m ulAddr data ↔
      ∀ x, x < ulAddr ∨ ulAddr + data.length ≤ x → m' x = m x := by
  constructor
  · rintro ⟨r, hr, hout, -⟩
    obtain rfl := Except.ok.inj (h.symm.trans hr)
    exact hout
  · exact fun hout => ⟨_, h, hout, nofun⟩

theorem not_right_of_fault {fault : Fault}
    (h : iOSPI_FlashWrite o m ulAddr data = .error fault) : ¬ WriteRight o m ulAddr data := by
  rintro ⟨r, hr, -⟩
  rw [h] at hr
  cases hr

theorem iOSPI_FlashWrite_taken (m : Store) (ulAddr : ℕ) (data : List UInt8)
    (htaken : o.taken = true) :
    iOSPI_FlashWrite o m ulAddr data
      = match writePages o m ulAddr data (pageCount data.length) with
        | .ok (true, m) =>
          match verifyPages o m ulAddr data (pageCount data.length) (pageCount data.length) with
          | .ok st => .ok (st && o.released, m)
          | .error fault => .error fault
        | .ok (false, m) => .ok (false, m)
        | .error fault => .error fault := by
  rw [iOSPI_FlashWrite, htaken, if_pos rfl]

theorem pageCount_whole (hlen : data.length = n * 256) : pageCount data.length = n := by
  have hmod : data.length % FLASH_PAGE_SIZE_DEFAULT = 0 := by
    rw [hlen]
    exact Nat.mul_mod_left n 256
  rw [pageCount, if_neg (not_not.mpr hmod), hlen]
  exact Nat.mul_div_cancel n page_pos

/-- **A write of whole pages** whose last page fails. -/
theorem right_of_last_fails (htaken : o.taken = true) (hlen : data.length = n * 256)
    (hlast : n = 0 ∨ o.page (n - 1) ≠ .programmed true) :
    WriteRight o m ulAddr data ↔
      (0 < n → (o.page 0).programs = true → SpillsNothing m ulAddr data) := by
  have hstatus : (if n = 0 then false else (o.page (n - 1)).reports) = false := by
    split_ifs with hn
    · rfl
    · exact Bool.eq_false_iff.mpr fun h => hlast.elim hn fun hne => hne (reports_iff.mp h)
  have hrun : iOSPI_FlashWrite o m ulAddr data = .ok (false, written o m ulAddr data n) := by
    rw [iOSPI_FlashWrite_taken m ulAddr data htaken, pageCount_whole hlen,
      writePages_eq o m ulAddr n hlen.ge, hstatus]
  rw [right_of_failed hrun, written_outside_iff o m ulAddr data hlen.ge]

/-- **A write of whole pages** whose last page is ready. -/
theorem right_of_last_ready (herased : ∀ i < data.length, m (ulAddr + i) = 0xFF)
    (htaken : o.taken = true) (hlen : data.length = n * 256) (hn : 0 < n)
    (hlast : o.page (n - 1) = .programmed true) :
    WriteRight o m ulAddr data ↔
      (0 < n → (o.page 0).programs = true → SpillsNothing m ulAddr data) ∧ (n = 1 ∨ 10 ≤ n) ∧
        ((∀ k < n, Sampled n k → o.read k = true) → o.released = true →
          (∀ k < n, Landed o ulAddr data n k) ∨
            ∃ k < n, Sampled n k ∧ Blank o ulAddr data n k ∧ ¬ Landed o ulAddr data n k) := by
  have hpages : iOSPI_FlashWrite o m ulAddr data
      = match verifyPages o (written o m ulAddr data n) ulAddr data n n with
        | .ok st => .ok (st && o.released, written o m ulAddr data n)
        | .error fault => .error fault := by
    rw [iOSPI_FlashWrite_taken m ulAddr data htaken, pageCount_whole hlen,
      writePages_eq o m ulAddr n hlen.ge, if_neg hn.ne', reports_iff.mpr hlast]
  by_cases hfew : n = 1 ∨ 10 ≤ n
  · obtain ⟨st, hst, hiff⟩ := verifyPages_eq o (written o m ulAddr data n) ulAddr data n n (by omega)
    rw [hst] at hpages
    -- the read-back sees what the transfers left
    have hseen : ∀ i < data.length, written o m ulAddr data n (ulAddr + i)
        = lands o ulAddr data n i := fun i hi => programPages_landing page_pos (herased i hi)
    have hpage : ∀ k < n, pageMatches (written o m ulAddr data n) ulAddr data
        (k * FLASH_PAGE_SIZE_DEFAULT) = true ↔
          (Blank o ulAddr data n k → Landed o ulAddr data n k) := fun k hk =>
      pageMatches_iff ((Nat.mul_le_mul_right 256 hk).trans hlen.ge) hseen
    have hright : WriteRight o m ulAddr data ↔
        (∀ x, x < ulAddr ∨ ulAddr + data.length ≤ x → written o m ulAddr data n x = m x) ∧
          (st = true → o.released = true → ∀ k < n, Landed o ulAddr data n k) := by
      rw [← written_eq_iff herased hlen]
      constructor
      · rintro ⟨r, hr, hout, hok⟩
        obtain rfl := Except.ok.inj (hpages.symm.trans hr)
        exact ⟨hout, fun h₁ h₂ => hok ((Bool.and_eq_true _ _).mpr ⟨h₁, h₂⟩)⟩
      · rintro ⟨hout, hok⟩
        refine ⟨_, hpages, hout, fun h => ?_⟩
        obtain ⟨h₁, h₂⟩ := (Bool.and_eq_true _ _).mp h
        exact hok h₁ h₂
    rw [hright, written_outside_iff o m ulAddr data hlen.ge, hiff, and_iff_right hfew]
    refine and_congr_right fun _ => ?_
    constructor
    · intro hok hread hreleased
      by_cases hbad : ∃ k < n, Sampled n k ∧ Blank o ulAddr data n k ∧ ¬ Landed o ulAddr data n k
      · exact .inr hbad
      · refine .inl (hok (fun k hk hs => ⟨hread k hk hs, (hpage k hk).mpr fun hblank => ?_⟩)
          hreleased)
        exact not_not.mp fun hnot => hbad ⟨k, hk, hs, hblank, hnot⟩
    · intro hor hall hreleased
      rcases hor (fun k hk hs => (hall k hk hs).1) hreleased with hland | hbad
      · exact hland
      · obtain ⟨k, hk, hs, hblank, hnot⟩ := hbad
        exact absurd ((hpage k hk).mp (hall k hk hs).2 hblank) hnot
  · have hten : n / 10 = 0 := Nat.div_eq_of_lt (by omega)
    rw [verifyPages_divides hten n (by omega)] at hpages
    exact iff_of_false (not_right_of_fault hpages) fun h => hfew h.2.1

/-- **Exactly when a write to an erased range is right.** -/
theorem flashWrite_right_iff (o : WriteOutcomes) (m : Store) (ulAddr : ℕ) (data : List UInt8)
    (herased : ∀ i < data.length, m (ulAddr + i) = 0xFF) :
    WriteRight o m ulAddr data ↔ WriteHolds o m ulAddr data := by
  unfold WriteHolds
  dsimp only
  cases htaken : o.taken with
  | false =>
    have hrun : iOSPI_FlashWrite o m ulAddr data = .ok (false, m) := by
      rw [iOSPI_FlashWrite, htaken]
      rfl
    exact iff_of_true ((right_of_failed hrun).mpr fun _ _ => rfl) nofun
  | true =>
    simp only [true_implies]
    by_cases hpart : data.length % 256 = 0
    · have hlen : data.length = data.length / 256 * 256 :=
        (Nat.div_mul_cancel (Nat.dvd_of_mod_eq_zero hpart)).symm
      generalize data.length / 256 = n at hlen ⊢
      have hnot : (data.length % 256 ≠ 0 → o.page n = .notEnabled) ↔ True :=
        iff_true_intro fun h => absurd hpart h
      rw [hnot, true_and]
      by_cases hlast : 0 < n ∧ o.page (n - 1) = .programmed true
      · obtain ⟨hn, hready⟩ := hlast
        rw [right_of_last_ready herased htaken hlen hn hready]
        exact and_congr_right fun _ => ⟨fun h _ _ _ => h, fun h => h hpart hn hready⟩
      · have hfails : n = 0 ∨ o.page (n - 1) ≠ .programmed true := by
          by_cases hn : n = 0
          · exact .inl hn
          · exact .inr fun h => hlast ⟨Nat.pos_of_ne_zero hn, h⟩
        rw [right_of_last_fails htaken hlen hfails]
        exact (and_iff_left fun _ hn hready => absurd ⟨hn, hready⟩ hlast).symm
    · have hcount : pageCount data.length = data.length / 256 + 1 := if_pos hpart
      have hrun := iOSPI_FlashWrite_taken m ulAddr data htaken
      rw [hcount, writePages_partial o m ulAddr data] at hrun
      have hrest : (data.length % 256 ≠ 0 → o.page (data.length / 256) = .notEnabled) ↔
          o.page (data.length / 256) = .notEnabled := ⟨fun h => h hpart, fun h _ => h⟩
      rw [hrest]
      split_ifs at hrun with hlast
      · rw [right_of_failed hrun,
          written_outside_iff o m ulAddr data (Nat.div_mul_le_self data.length 256)]
        exact ⟨fun h => ⟨hlast, h, fun h' => absurd h' hpart⟩, fun h => h.2.1⟩
      · exact iff_of_false (not_right_of_fault hrun) fun h => hlast h.1

/-- One page that is programmed to the end of the flash's first page, with every transfer well. -/
theorem flashWrite_right_one_page :
    WriteRight ⟨true, fun _ => .programmed true, fun _ => true, true⟩ (fun _ => 0xFF) 0
        (List.replicate 256 7) ↔
      WriteHolds ⟨true, fun _ => .programmed true, fun _ => true, true⟩ (fun _ => 0xFF) 0
        (List.replicate 256 7) :=
  flashWrite_right_iff _ _ _ _ fun _ _ => rfl

/-- Two pages divide by zero. -/
theorem not_flashWrite_right :
    ¬ ∀ o m ulAddr data, (∀ i < data.length, m (ulAddr + i) = 0xFF) →
      WriteRight o m ulAddr data := by
  intro h
  obtain ⟨r, hr, -⟩ := h ⟨true, fun _ => .programmed true, fun _ => true, true⟩ (fun _ => 0xFF) 0
    (List.replicate 512 7) fun _ _ => rfl
  have hlen : (List.replicate 512 (7 : UInt8)).length = 2 * 256 := List.length_replicate
  rw [iOSPI_FlashWrite_taken _ _ _ rfl, pageCount_whole hlen, writePages_eq _ _ _ 2 hlen.ge,
    if_neg (by decide)] at hr
  dsimp only [PageTransfer.reports] at hr
  rw [verifyPages_divides (by decide) 2 le_rfl] at hr
  cases hr

end

end Amr.Ospi
