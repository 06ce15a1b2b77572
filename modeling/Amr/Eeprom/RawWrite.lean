/-
# Writing raw data to the EEPROM

`iEEPROM_WriteRawValue` with `ucEepromWriteByte` and `ucEepromWriteMultiBytes` of `eeprom.c`. The
data are split into the end of the first page, whole pages and a remainder; the running offset is a
byte, and is also what the data are read at. The configuration is any that the initialisation's
checks admit.
-/
import Amr.Lib.PagedWrites

namespace Amr.Eeprom.RawWrite

open ByteStore PagedWrites

def EEPROM_MAX_DATA_SIZE : ℕ := 255
def EEPROM_WRITE_MULTI_BYTE_SIZE_MAX : ℕ := 255

/-- The configuration, as far as writes use it, with the number of pages of the device. -/
structure EEPROMCfg where
  ucEepromAddressSize : ℕ
  ucEepromPageSize : ℕ
  usEepromNumPages : ℕ
  /-- The check of `iEEPROM_Initialise`. -/
  admitted : ucEepromAddressSize + ucEepromPageSize ≤ EEPROM_WRITE_MULTI_BYTE_SIZE_MAX

/-- The caller's data, whose size is a byte. -/
structure RawValue where
  pucData : List UInt8
  sized : pucData.length ≤ EEPROM_MAX_DATA_SIZE

inductive Fault
  | overread
  | divideByZero
  deriving DecidableEq, Repr

/-- The status and the writes to the device. -/
abbrev Result := Except Fault (Bool × List Write)

/-- The address size is one or two bytes. -/
def EEPROMCfg.addressable (cfg : EEPROMCfg) : Bool :=
  decide (1 ≤ cfg.ucEepromAddressSize) && decide (cfg.ucEepromAddressSize ≤ 2)

/-- `ok` is how the transaction on the bus ends. -/
def ucEepromWriteByte (cfg : EEPROMCfg) (ok : Bool) (ucAddressOffset : ℕ)
    (ucRegisterValue : List UInt8) : Bool × List Write :=
  if cfg.addressable then (ok, [⟨ucAddressOffset, ucRegisterValue, ok⟩]) else (false, [])

/-- The write of `ucWriteSize` bytes of the data from index `k` on; `ws` are the writes before. -/
def ucEepromWriteMultiBytes (cfg : EEPROMCfg) (ok : Bool) (ws : List Write) (ucAddressOffset : ℕ)
    (pucData : List UInt8) (k : ℤ) (ucWriteSize : ℕ) : Result :=
  if cfg.addressable && decide (ucWriteSize ≤ cfg.ucEepromPageSize) then
    if 0 ≤ k ∧ k + ucWriteSize ≤ pucData.length then
      .ok (ok, ws ++ [⟨ucAddressOffset, (pucData.drop k.toNat).take ucWriteSize, ok⟩])
    else .error .overread
  else .ok (false, ws)

/-- The loop, with `ucBytesToWrite` bytes left; the page size is not zero here. -/
def writePages (cfg : EEPROMCfg) (hpage : 0 < cfg.ucEepromPageSize) (send : ℕ → Bool)
    (pucData : List UInt8) (ucEepromAddr ucBytesToWrite ucOffset : ℕ) (ws : List Write) : Result :=
  if _hleft : ucBytesToWrite = 0 then .ok (true, ws)
  else
    let ucBytesToWriteNextPage :=
      if cfg.ucEepromPageSize ≤ ucBytesToWrite then cfg.ucEepromPageSize else ucBytesToWrite
    match ucEepromWriteMultiBytes cfg (send ws.length) ws ucOffset pucData
        ((ucOffset : ℤ) - ucEepromAddr) ucBytesToWriteNextPage with
    | .ok (true, ws) =>
      writePages cfg hpage send pucData ucEepromAddr (ucBytesToWrite - ucBytesToWriteNextPage)
        ((ucOffset + ucBytesToWriteNextPage) % 256) ws
    | r => r
termination_by ucBytesToWrite
decreasing_by split_ifs <;> omega

/-- `send` tells how the transactions on the bus end. A division by a page size of zero is a
fault. -/
def iEEPROM_WriteRawValue (cfg : EEPROMCfg) (send : ℕ → Bool) (v : RawValue)
    (ucEepromAddr : UInt8) : Result :=
  let addr := ucEepromAddr.toNat
  let ucSizeBytes := v.pucData.length
  if cfg.ucEepromAddressSize = 0 then .ok (false, [])
  else if ucSizeBytes = 1 then .ok (ucEepromWriteByte cfg (send 0) addr (v.pucData.take 1))
  else if hpage : cfg.ucEepromPageSize = 0 then .error .divideByZero
  else if addr % cfg.ucEepromPageSize ≠ 0 then
    let ucBytesInFirstPage :=
      if ucSizeBytes < cfg.ucEepromPageSize - addr % cfg.ucEepromPageSize then ucSizeBytes
      else cfg.ucEepromPageSize - addr % cfg.ucEepromPageSize
    match ucEepromWriteMultiBytes cfg (send 0) [] addr v.pucData 0 ucBytesInFirstPage with
    | .ok (true, ws) =>
      writePages cfg (Nat.pos_of_ne_zero hpage) send v.pucData addr
        (ucSizeBytes - ucBytesInFirstPage) ((addr + ucBytesInFirstPage) % 256) ws
    | r => r
  else writePages cfg (Nat.pos_of_ne_zero hpage) send v.pucData addr ucSizeBytes addr []

/-! ### What a write should do -/

/-- The addresses of the device: those of its pages that its address bytes can tell apart. -/
def EEPROMCfg.space (cfg : EEPROMCfg) : ℕ :=
  min (cfg.usEepromNumPages * cfg.ucEepromPageSize) (256 ^ cfg.ucEepromAddressSize)

/-- A write inside the device is the writes of its data, which succeeds if no transaction fails; a
write that runs past the device is refused. -/
def WriteRight (cfg : EEPROMCfg) (send : ℕ → Bool) (v : RawValue) (ucEepromAddr : UInt8) : Prop :=
  ∃ st ws, iEEPROM_WriteRawValue cfg send v ucEepromAddr = .ok (st, ws) ∧
    if ucEepromAddr.toNat + v.pucData.length ≤ cfg.space then
      Written cfg.ucEepromPageSize ucEepromAddr.toNat v.pucData st ws ∧
        (cfg.addressable = true → (∀ w ∈ ws, w.accepted = true) → st = true)
    else st = false ∧ ws = []

/-- When a write is right. The pages of the data start at multiples of the page size, and one that
starts at 256 or behind must not be reached. -/
def WriteHolds (cfg : EEPROMCfg) (send : ℕ → Bool) (v : RawValue) (ucEepromAddr : UInt8) : Prop :=
  let addr := ucEepromAddr.toNat
  let u := cfg.ucEepromPageSize
  cfg.ucEepromAddressSize = 0 ∨
    cfg.addressable = true ∧ 0 < u ∧ addr + v.pucData.length ≤ cfg.space ∧
      (∀ k, 256 ≤ (addr / u + k) * u → (addr / u + k) * u < addr + v.pucData.length →
        ∃ j < k, send j = false) ∨
    2 < cfg.ucEepromAddressSize ∧ (v.pucData.length = 1 ∨ 0 < u ∧
      (v.pucData = [] → addr % u = 0 → addr ≤ cfg.space))

/-! ### The loop -/

section

variable {cfg : EEPROMCfg} {send : ℕ → Bool} {v : RawValue} {ucEepromAddr : UInt8}
variable {data : List UInt8} {addr left n : ℕ} {ws : List Write}

/-- A page behind the first 256 bytes is reached. -/
def Wraps (u : ℕ) (send : ℕ → Bool) (addr len c : ℕ) : Prop :=
  ∃ k, c ≤ k ∧ 256 ≤ (addr / u + k) * u ∧ (addr / u + k) * u < addr + len ∧
    ∀ j, c ≤ j → j < k → send j = true

/-- What a write ends with: the fault if such a page is reached, and otherwise the writes of the
data. -/
def Ends (cfg : EEPROMCfg) (send : ℕ → Bool) (data : List UInt8) (addr c : ℕ) (r : Result) :
    Prop :=
  (Wraps cfg.ucEepromPageSize send addr data.length c ∧ r = .error .overread) ∨
  (¬ Wraps cfg.ucEepromPageSize send addr data.length c ∧ ∃ st ws, r = .ok (st, ws) ∧
    Written cfg.ucEepromPageSize addr data st ws ∧
    ((∀ w ∈ ws, w.accepted = true) → st = true))

/-- **One write of the data** in the page of its address. -/
theorem writeMultiBytes_eq (hcfg : cfg.addressable = true) {k : ℕ} (hk : k ≤ cfg.ucEepromPageSize)
    (hroom : n + k ≤ data.length) (ok : Bool) (off : ℕ) :
    ucEepromWriteMultiBytes cfg ok ws off data n k
      = .ok (ok, ws ++ [⟨off, (data.drop n).take k, ok⟩]) := by
  have hin : (0 : ℤ) ≤ n ∧ (n : ℤ) + k ≤ data.length := ⟨by omega, by omega⟩
  rw [ucEepromWriteMultiBytes, hcfg, decide_eq_true hk, Bool.and_self, if_pos rfl, if_pos hin,
    Int.toNat_natCast]

theorem Wraps.succ_iff {u len c : ℕ} (hsend : send c = true) (hlow : (addr / u + c) * u < 256) :
    Wraps u send addr len (c + 1) ↔ Wraps u send addr len c := by
  constructor
  · rintro ⟨k, hk, hhigh, hin, hall⟩
    refine ⟨k, by omega, hhigh, hin, fun j hcj hjk => ?_⟩
    rcases Nat.eq_or_lt_of_le hcj with rfl | hlt
    · exact hsend
    · exact hall j hlt hjk
  · rintro ⟨k, hk, hhigh, hin, hall⟩
    rcases Nat.eq_or_lt_of_le hk with rfl | hlt
    · omega
    · exact ⟨k, hlt, hhigh, hin, fun j hcj hjk => hall j (by omega) hjk⟩

theorem not_wraps_of_fails {u len c : ℕ} (hsend : send c = false)
    (hlow : (addr / u + c) * u < 256) : ¬ Wraps u send addr len c := by
  rintro ⟨k, hk, hhigh, hin, hall⟩
  rcases Nat.eq_or_lt_of_le hk with rfl | hlt
  · omega
  · rw [hall c le_rfl hlt] at hsend
    cases hsend

/-- **The loop** from a page on, with the writes before. -/
theorem writePages_ends (send : ℕ → Bool) (hcfg : cfg.addressable = true)
    (hpage : 0 < cfg.ucEepromPageSize)
    (haddr : addr < 256) (hlen : data.length ≤ 255) :
    ∀ left n ws, Progress cfg.ucEepromPageSize addr data ws n → n + left = data.length →
      addr + n ≤ (addr / cfg.ucEepromPageSize + ws.length) * cfg.ucEepromPageSize →
      (left ≠ 0 → addr + n = (addr / cfg.ucEepromPageSize + ws.length) * cfg.ucEepromPageSize) →
      Ends cfg send data addr ws.length
        (writePages cfg hpage send data addr left ((addr + n) % 256) ws) := by
  intro left
  induction left using Nat.strong_induction_on with
  | _ left ih =>
    intro n ws hprog hsum hbehind hstart
    rw [writePages]
    by_cases hleft : left = 0
    · -- all bytes are written
      rw [dif_pos hleft]
      refine .inr ⟨?_, true, ws, rfl, hprog.ends (by omega), fun _ => rfl⟩
      rintro ⟨k, hk, -, hin, -⟩
      have hmono := Nat.mul_le_mul_right cfg.ucEepromPageSize
        (Nat.add_le_add_left hk (addr / cfg.ucEepromPageSize))
      omega
    rw [dif_neg hleft]
    have hpos := hstart hleft
    dsimp only
    generalize hk : (if cfg.ucEepromPageSize ≤ left then cfg.ucEepromPageSize else left) = k
    have hksize : k ≤ cfg.ucEepromPageSize ∧ k ≤ left ∧ 0 < k ∧
        (left - k ≠ 0 → k = cfg.ucEepromPageSize) := by
      split_ifs at hk <;> omega
    obtain ⟨hku, hkleft, hkpos, hkfull⟩ := hksize
    have hroom : n + k ≤ data.length := by omega
    by_cases hlow : addr + n < 256
    · -- the next write is in the first 256 bytes
      have hoff : (addr + n) % 256 = addr + n := Nat.mod_eq_of_lt hlow
      have hidx : ((addr + n : ℕ) : ℤ) - addr = n := by omega
      have hsame : ∀ i < k, (addr + n + i) / cfg.ucEepromPageSize
          = (addr + n) / cfg.ucEepromPageSize := fun i hi => by
        rw [hpos, Nat.mul_comm, Nat.mul_add_div hpage, Nat.mul_div_cancel_left _ hpage,
          Nat.div_eq_of_lt (hi.trans_le hku), Nat.add_zero]
      have hlow' : (addr / cfg.ucEepromPageSize + ws.length) * cfg.ucEepromPageSize < 256 :=
        hpos ▸ hlow
      rw [hoff, hidx, writeMultiBytes_eq hcfg hku hroom]
      cases hsend : send ws.length with
      | false =>
        refine .inr ⟨not_wraps_of_fails hsend hlow', false, _, rfl, hprog.fails hroom hsame, ?_⟩
        exact fun hall => hall _ (List.mem_append_right _ (List.mem_singleton_self _))
      | true =>
        have hnext := ih (left - k) (by omega) (n + k) _ (hprog.step hroom hsame) (by omega)
        rw [List.length_append, List.length_singleton, ← Nat.add_assoc, ← Nat.add_assoc,
          Nat.succ_mul, ← hpos] at hnext
        have hends := hnext (by omega) fun hrest => by rw [hkfull hrest]
        rw [Ends, Wraps.succ_iff hsend hlow'] at hends
        exact hends
    · -- the offset has wrapped, and the data are read in front of their start
      refine .inl ⟨⟨ws.length, le_rfl, by omega, by omega, fun j h₁ h₂ => absurd h₂ (by omega)⟩, ?_⟩
      have hneg : ¬ ((0 : ℤ) ≤ (((addr + n) % 256 : ℕ) : ℤ) - addr ∧
          (((addr + n) % 256 : ℕ) : ℤ) - addr + k ≤ data.length) := by
        rintro ⟨h, -⟩
        omega
      rw [ucEepromWriteMultiBytes, hcfg, decide_eq_true hku, Bool.and_self, if_pos rfl,
        if_neg hneg]

/-! ### The write -/

/-- **What a write ends with**, on a device whose pages and addresses are as they should. -/
theorem writeRawValue_ends (send : ℕ → Bool) (hcfg : cfg.addressable = true)
    (hpage : 0 < cfg.ucEepromPageSize) (v : RawValue) (ucEepromAddr : UInt8) :
    Ends cfg send v.pucData ucEepromAddr.toNat 0
      (iEEPROM_WriteRawValue cfg send v ucEepromAddr) := by
  have haddr : ucEepromAddr.toNat < 256 := ucEepromAddr.toNat_lt
  have hlen : v.pucData.length ≤ 255 := v.sized
  have hsize : cfg.ucEepromAddressSize ≠ 0 := by
    rw [EEPROMCfg.addressable, Bool.and_eq_true, decide_eq_true_iff] at hcfg
    omega
  unfold iEEPROM_WriteRawValue
  dsimp only
  rw [if_neg hsize]
  generalize ucEepromAddr.toNat = addr at haddr ⊢
  generalize v.pucData = data at hlen ⊢
  -- the page of the first byte
  have hdiv := Nat.div_add_mod addr cfg.ucEepromPageSize
  have hmod := Nat.mod_lt addr hpage
  rw [Nat.mul_comm] at hdiv
  have hlow : (addr / cfg.ucEepromPageSize + 0) * cfg.ucEepromPageSize < 256 := by
    rw [Nat.add_zero]
    omega
  have hsame : ∀ k, addr % cfg.ucEepromPageSize + k ≤ cfg.ucEepromPageSize →
      ∀ i < k, (addr + 0 + i) / cfg.ucEepromPageSize = (addr + 0) / cfg.ucEepromPageSize := by
    intro k hk i hi
    have hin : addr % cfg.ucEepromPageSize + i < cfg.ucEepromPageSize := by omega
    conv_lhs => rw [Nat.add_zero, ← Nat.div_add_mod addr cfg.ucEepromPageSize, Nat.add_assoc,
      Nat.mul_add_div hpage, Nat.div_eq_of_lt hin]
    rfl
  by_cases hone : data.length = 1
  · -- a single byte
    rw [if_pos hone, ucEepromWriteByte, hcfg, if_pos rfl]
    have hnever : ¬ Wraps cfg.ucEepromPageSize send addr data.length 0 := by
      rintro ⟨k, -, hhigh, hin, -⟩
      omega
    cases hsend : send 0 with
    | false =>
      exact .inr ⟨hnever, false, _, rfl,
        Progress.start.fails (by omega) (hsame 1 (by omega)),
        fun hall => hall _ (List.mem_singleton_self _)⟩
    | true =>
      exact .inr ⟨hnever, true, _, rfl,
        (Progress.start.step (by omega) (hsame 1 (by omega))).ends (by omega), fun _ => rfl⟩
  rw [if_neg hone, dif_neg hpage.ne']
  by_cases haligned : addr % cfg.ucEepromPageSize = 0
  · have hstart := writePages_ends send hcfg hpage haddr hlen data.length 0 []
      Progress.start (Nat.zero_add _)
    rw [Nat.add_zero, Nat.mod_eq_of_lt haddr, List.length_nil, Nat.add_zero] at hstart
    rw [if_neg (not_not.mpr haligned)]
    exact hstart (by omega) fun _ => by omega
  · rw [if_pos haligned]
    generalize hk : (if data.length < cfg.ucEepromPageSize - addr % cfg.ucEepromPageSize then
      data.length else cfg.ucEepromPageSize - addr % cfg.ucEepromPageSize) = k
    have hksize : addr % cfg.ucEepromPageSize + k ≤ cfg.ucEepromPageSize ∧ k ≤ data.length ∧
        (data.length - k ≠ 0 → addr % cfg.ucEepromPageSize + k = cfg.ucEepromPageSize) := by
      split_ifs at hk <;> omega
    obtain ⟨hku, hklen, hkfull⟩ := hksize
    have hfirst : ucEepromWriteMultiBytes cfg (send 0) [] addr data ((0 : ℕ) : ℤ) k
        = .ok (send 0, [⟨addr, (data.drop 0).take k, send 0⟩]) :=
      writeMultiBytes_eq hcfg (by omega) (by omega) (send 0) addr
    rw [Nat.cast_zero] at hfirst
    rw [hfirst]
    cases hsend : send 0 with
    | false =>
      exact .inr ⟨not_wraps_of_fails hsend hlow, false, _, rfl,
        Progress.start.fails (by omega) (hsame k hku),
        fun hall => hall _ (List.mem_singleton_self _)⟩
    | true =>
      have hnext := writePages_ends send hcfg hpage haddr hlen (data.length - k)
        (0 + k) _ (Progress.start.step (by omega) (hsame k hku)) (by omega)
      rw [Nat.zero_add, List.nil_append, List.length_singleton, Nat.succ_mul] at hnext
      have hends := hnext (by omega) fun hrest => by
        have := hkfull hrest
        omega
      rw [Ends, Wraps.succ_iff hsend hlow] at hends
      exact hends

theorem right_of_refused (hcfg : cfg.addressable ≠ true)
    (h : iEEPROM_WriteRawValue cfg send v ucEepromAddr = .ok (false, [])) :
    WriteRight cfg send v ucEepromAddr := by
  refine ⟨false, [], h, ?_⟩
  split_ifs
  · exact ⟨Progress.start.stops, fun hcfg' => absurd hcfg' hcfg⟩
  · exact ⟨rfl, rfl⟩

theorem addressable_iff : cfg.addressable = true ↔
    1 ≤ cfg.ucEepromAddressSize ∧ cfg.ucEepromAddressSize ≤ 2 := by
  rw [EEPROMCfg.addressable, Bool.and_eq_true, decide_eq_true_iff, decide_eq_true_iff]

theorem holds_of_addressable (hcfg : cfg.addressable = true) :
    WriteHolds cfg send v ucEepromAddr ↔ 0 < cfg.ucEepromPageSize ∧
      ucEepromAddr.toNat + v.pucData.length ≤ cfg.space ∧
      ¬ Wraps cfg.ucEepromPageSize send ucEepromAddr.toNat v.pucData.length 0 := by
  have hsize := addressable_iff.mp hcfg
  have hwraps : ¬ Wraps cfg.ucEepromPageSize send ucEepromAddr.toNat v.pucData.length 0 ↔
      ∀ k, 256 ≤ (ucEepromAddr.toNat / cfg.ucEepromPageSize + k) * cfg.ucEepromPageSize →
        (ucEepromAddr.toNat / cfg.ucEepromPageSize + k) * cfg.ucEepromPageSize
          < ucEepromAddr.toNat + v.pucData.length → ∃ j < k, send j = false := by
    constructor
    · intro hnot k hhigh hin
      by_contra hno
      refine hnot ⟨k, Nat.zero_le k, hhigh, hin, fun j _ hjk => ?_⟩
      exact Bool.not_eq_false _ ▸ fun hfalse => hno ⟨j, hjk, hfalse⟩
    · rintro hall ⟨k, -, hhigh, hin, hsent⟩
      obtain ⟨j, hjk, hfalse⟩ := hall k hhigh hin
      rw [hsent j (Nat.zero_le j) hjk] at hfalse
      cases hfalse
  rw [hwraps]
  constructor
  · rintro (hzero | ⟨-, hpage, hin, hall⟩ | ⟨hmany, -⟩)
    · omega
    · exact ⟨hpage, hin, hall⟩
    · omega
  · rintro ⟨hpage, hin, hall⟩
    exact .inr (.inl ⟨hcfg, hpage, hin, hall⟩)

theorem not_right_of_no_page (hsize : cfg.ucEepromAddressSize ≠ 0)
    (hone : v.pucData.length = 1 → cfg.addressable = true) (hzero : cfg.ucEepromPageSize = 0) :
    ¬ WriteRight cfg send v ucEepromAddr := by
  rintro ⟨st, ws, hrun, hright⟩
  unfold iEEPROM_WriteRawValue at hrun
  dsimp only at hrun
  rw [if_neg hsize] at hrun
  by_cases hsingle : v.pucData.length = 1
  · rw [if_pos hsingle, ucEepromWriteByte, hone hsingle, if_pos rfl] at hrun
    obtain ⟨-, rfl⟩ := Prod.mk.inj (Except.ok.inj hrun)
    have hspace : cfg.space = 0 := by
      rw [EEPROMCfg.space, hzero, Nat.mul_zero]
      exact Nat.zero_min _
    rw [if_neg (by omega)] at hright
    exact absurd hright.2 (List.cons_ne_nil _ _)
  · rw [if_neg hsingle, dif_pos hzero] at hrun
    cases hrun

theorem writeMultiBytes_refused (hcfg : ¬ cfg.addressable = true) (ok : Bool) (off : ℕ) (k : ℤ)
    (n : ℕ) : ucEepromWriteMultiBytes cfg ok ws off data k n = .ok (false, ws) := by
  rw [ucEepromWriteMultiBytes, Bool.eq_false_iff.mpr hcfg]
  rfl

theorem right_of_not_addressable (hcfg : ¬ cfg.addressable = true) :
    WriteRight cfg send v ucEepromAddr ↔ WriteHolds cfg send v ucEepromAddr := by
  by_cases hnone : cfg.ucEepromAddressSize = 0
  · exact iff_of_true (right_of_refused hcfg (if_pos hnone)) (.inl hnone)
  have hmany : 2 < cfg.ucEepromAddressSize := by
    rw [addressable_iff] at hcfg
    omega
  have hholds : WriteHolds cfg send v ucEepromAddr ↔ v.pucData.length = 1 ∨
      0 < cfg.ucEepromPageSize ∧ (v.pucData = [] →
        ucEepromAddr.toNat % cfg.ucEepromPageSize = 0 → ucEepromAddr.toNat ≤ cfg.space) := by
    constructor
    · rintro (hzero | ⟨hcfg', -⟩ | ⟨-, h⟩)
      · exact absurd hzero hnone
      · exact absurd hcfg' hcfg
      · exact h
    · exact fun h => .inr (.inr ⟨hmany, h⟩)
  rw [hholds]
  by_cases hone : v.pucData.length = 1
  · refine iff_of_true (right_of_refused hcfg ?_) (.inl hone)
    unfold iEEPROM_WriteRawValue
    dsimp only
    rw [if_neg hnone, if_pos hone, ucEepromWriteByte, if_neg hcfg]
  rw [or_iff_right hone]
  by_cases hzero : cfg.ucEepromPageSize = 0
  · exact iff_of_false (not_right_of_no_page hnone (fun h => absurd h hone) hzero)
      fun h => absurd hzero h.1.ne'
  rw [and_iff_right (Nat.pos_of_ne_zero hzero)]
  by_cases haligned : ucEepromAddr.toNat % cfg.ucEepromPageSize = 0
  · have hrun : iEEPROM_WriteRawValue cfg send v ucEepromAddr = .ok (v.pucData = [], []) := by
      unfold iEEPROM_WriteRawValue
      dsimp only
      rw [if_neg hnone, if_neg hone, dif_neg hzero, if_neg (not_not.mpr haligned), writePages]
      by_cases hempty : v.pucData = []
      · rw [dif_pos (hempty ▸ rfl), decide_eq_true hempty]
      · rw [dif_neg fun h => hempty (List.length_eq_zero_iff.mp h), decide_eq_false hempty]
        dsimp only
        rw [writeMultiBytes_refused hcfg]
    by_cases hempty : v.pucData = []
    · rw [decide_eq_true hempty] at hrun
      have hlen : v.pucData.length = 0 := hempty ▸ rfl
      constructor
      · rintro ⟨st, ws, hrun', hright⟩ - -
        obtain ⟨rfl, rfl⟩ := Prod.mk.inj (Except.ok.inj (hrun.symm.trans hrun'))
        by_contra hout
        rw [hlen, Nat.add_zero, if_neg hout] at hright
        exact Bool.noConfusion hright.1
      · intro hin
        refine ⟨true, [], hrun, ?_⟩
        rw [hlen, Nat.add_zero, if_pos (hin hempty haligned)]
        exact ⟨Progress.start.ends hlen.symm, fun _ _ => rfl⟩
    · rw [decide_eq_false hempty] at hrun
      exact iff_of_true (right_of_refused hcfg hrun) fun h => absurd h hempty
  · refine iff_of_true (right_of_refused hcfg ?_) fun _ h => absurd h haligned
    unfold iEEPROM_WriteRawValue
    dsimp only
    rw [if_neg hnone, if_neg hone, dif_neg hzero, if_pos haligned, writeMultiBytes_refused hcfg]

/-- **Exactly when a write of raw data is right.** -/
theorem rawWrite_right_iff (cfg : EEPROMCfg) (send : ℕ → Bool) (v : RawValue)
    (ucEepromAddr : UInt8) :
    WriteRight cfg send v ucEepromAddr ↔ WriteHolds cfg send v ucEepromAddr := by
  by_cases hcfg : cfg.addressable = true
  · rw [holds_of_addressable hcfg]
    rcases Nat.eq_zero_or_pos cfg.ucEepromPageSize with hzero | hpage
    · have hsize := (addressable_iff.mp hcfg).1
      exact iff_of_false (not_right_of_no_page (by omega) (fun _ => hcfg) hzero)
        fun h => absurd hzero h.1.ne'
    · rw [and_iff_right hpage]
      rcases writeRawValue_ends send hcfg hpage v ucEepromAddr with
        ⟨hwraps, hfault⟩ | ⟨hnot, st, ws, hrun, hwritten, hall⟩
      · refine iff_of_false ?_ fun h => h.2 hwraps
        rintro ⟨st, ws, hrun, -⟩
        rw [hfault] at hrun
        cases hrun
      · rw [and_iff_left hnot]
        constructor
        · rintro ⟨st', ws', hrun', hright⟩
          obtain ⟨rfl, rfl⟩ := Prod.mk.inj (Except.ok.inj (hrun.symm.trans hrun'))
          by_contra hout
          rw [if_neg hout] at hright
          obtain ⟨rfl, rfl⟩ := hright
          exact Bool.noConfusion (hall nofun)
        · intro hin
          refine ⟨st, ws, hrun, ?_⟩
          rw [if_pos hin]
          exact ⟨hwritten, fun _ => hall⟩
  · exact right_of_not_addressable hcfg

/-- The configuration of the profile: 16 pages of 16 bytes, and one address byte. -/
def profile : EEPROMCfg := ⟨1, 16, 16, by decide⟩

/-- Ten bytes from address 250 on run past the device, and are not refused. -/
theorem not_rawWrite_right :
    ¬ ∀ cfg send v ucEepromAddr, WriteRight cfg send v ucEepromAddr := by
  intro h
  obtain ⟨st, ws, hrun, -⟩ := h profile (fun _ => true) ⟨List.replicate 10 0, by decide⟩ 250
  have hwraps : Wraps 16 (fun _ => true) 250 10 0 :=
    ⟨1, Nat.zero_le 1, by decide, by decide, fun _ _ _ => rfl⟩
  have hends : Ends profile (fun _ => true) (List.replicate 10 0) 250 0
      (iEEPROM_WriteRawValue profile (fun _ => true) ⟨List.replicate 10 0, by decide⟩ 250) :=
    writeRawValue_ends _ rfl (by decide) ⟨List.replicate 10 0, by decide⟩ 250
  rcases hends with ⟨-, hfault⟩ | ⟨hnot, -⟩
  · rw [hfault] at hrun
    cases hrun
  · exact hnot hwraps

end

end Amr.Eeprom.RawWrite
