/-
# What the checksums compute

The loops of `ulGetCrc32` and `ucGetCrc8` with what `Amr.Pldm.Crc` leaves out: the index is an
`int`, although the size is a `size_t`, and the register of `ulGetCrc32` is an `unsigned long`, of 32
bits or more. The tables are those of the steps of `Crc`, so that what the loops compute for a
string whose index does not overflow is the division bit by bit, whatever the width; then a string
with its own CRC-8 behind it has the CRC-8 zero, and a change within 8 consecutive bits shows.
-/
import Amr.Lib.Crc
import Amr.Pldm.Crc

namespace Amr.Pldm

variable {σ τ : Type*} {data other : List UInt8} {extra i : ℕ}

/-! ### The loops -/

/-- `for( i = 0; i < size; i++ )` over the bytes of a string, with an `int i`: at an overflow of the
index nothing is defined any more. -/
def forBytes (body : σ → UInt8 → σ) : ℕ → List UInt8 → σ → Option σ
  | _, [], s => some s
  | i, b :: rest, s => if i + 1 < 2 ^ 31 then forBytes body (i + 1) rest (body s b) else none

/-- The body of the loop in `ulGetCrc32`, where an `unsigned long` has `extra` bits above 32. -/
def crc32Body (extra : ℕ) (crc : BitVec (32 + extra)) (b : UInt8) : BitVec (32 + extra) :=
  (crc32Table.getD ((crc ^^^ b.toBitVec.setWidth (32 + extra)) &&& 0xFF#(32 + extra)).toNat
    0).toBitVec.setWidth (32 + extra) ^^^ (crc >>> 8)

/-- `ulGetCrc32`, where an `unsigned long` has `extra` bits above 32. -/
def ulGetCrc32Wide (extra : ℕ) (data : List UInt8) : Option (BitVec 32) :=
  (forBytes (crc32Body extra) 0 data 0xFFFFFFFF#(32 + extra)).map fun crc =>
    (crc ^^^ 0xFFFFFFFF#(32 + extra)).setWidth 32

/-- The body of the loop in `ucGetCrc8`. -/
def crc8Body (crc b : UInt8) : UInt8 := crc8Table.getD (crc ^^^ b).toNat 0

def ucGetCrc8Loop (data : List UInt8) : Option UInt8 := forBytes crc8Body 0 data 0

/-! ### Division bit by bit -/

/-- The reflected CRC-32: the register starts and ends inverted, and each byte is added at its low
end and shifted out. -/
def crc32 (data : List UInt8) : BitVec 32 :=
  data.foldl (fun crc b => (Crc.stepRight 0xEDB88320)^[8] (crc ^^^ b.toBitVec.setWidth 32))
    0xFFFFFFFF ^^^ 0xFFFFFFFF

/-- The CRC-8: each byte is added and shifted out, highest bit first. -/
def crc8 (data : List UInt8) : BitVec 8 :=
  data.foldl (fun crc b => (Crc.stepLeft 0x07)^[8] (crc ^^^ b.toBitVec)) 0

/-- The bits of a string, byte by byte, highest bit first. -/
def bits (data : List UInt8) : List Bool :=
  data.flatMap fun b => List.ofFn fun k : Fin 8 => b.toBitVec.getMsbD k

/-- **What the checksums of a string should be**: the two divisions; zero, if the string ends with
the CRC-8 of what comes before; and another CRC-8 than that of any string that differs from it
within 8 consecutive bits. -/
structure ChecksRight (extra : ℕ) (data : List UInt8) : Prop where
  crc32 : ulGetCrc32Wide extra data = some (crc32 data)
  crc8 : ucGetCrc8Loop data = some (UInt8.ofBitVec (crc8 data))
  residue : ∀ front c, ucGetCrc8Loop front = some c → data = front ++ [c] →
    ucGetCrc8Loop data = some 0
  burst : ∀ other i, other.length = data.length → other ≠ data →
    (∀ j, j < i ∨ i + 8 ≤ j → (bits other)[j]? = (bits data)[j]?) →
      ucGetCrc8Loop other ≠ ucGetCrc8Loop data

/-! ### The index -/

theorem forBytes_of_lt {body : σ → UInt8 → σ} {s : σ} (h : i + data.length < 2 ^ 31) :
    forBytes body i data s = some (data.foldl body s) := by
  induction data generalizing i s with
  | nil => rfl
  | cons b rest ih =>
    rw [List.length_cons] at h
    rw [forBytes, if_pos (by omega), ih (by omega)]
    rfl

theorem forBytes_of_le {body : σ → UInt8 → σ} {s : σ} (hi : i < 2 ^ 31)
    (h : 2 ^ 31 ≤ i + data.length) : forBytes body i data s = none := by
  induction data generalizing i s with
  | nil => exact absurd h (by rw [List.length_nil]; omega)
  | cons b rest ih =>
    rw [List.length_cons] at h
    rw [forBytes]
    by_cases hnext : i + 1 < 2 ^ 31
    · rw [if_pos hnext]
      exact ih hnext (by omega)
    · exact if_neg hnext

/-! ### CRC-32 -/

/-- **The table of `ulGetCrc32`** holds eight steps of each byte. -/
theorem crc32Table_toBitVec (k : Fin 256) :
    (crc32Table.getD k 0).toBitVec = (Crc.stepRight 0xEDB88320)^[8] (BitVec.ofNat 32 k) := by
  revert k
  decide +kernel

theorem crc32Table_low (x : BitVec 32) :
    (crc32Table.getD (x &&& 0xFF#32).toNat 0).toBitVec =
      (Crc.stepRight 0xEDB88320)^[8] (x &&& 0xFF#32) := by
  have hlt : (x &&& 0xFF#32).toNat < 256 := by
    rw [BitVec.toNat_and]
    exact Nat.lt_succ_of_le Nat.and_le_right
  have hentry := crc32Table_toBitVec ⟨(x &&& 0xFF#32).toNat, hlt⟩
  rwa [BitVec.ofNat_toNat, BitVec.setWidth_eq] at hentry

theorem byte_ushiftRight (b : UInt8) : b.toBitVec.setWidth 32 >>> 8 = 0#32 := by
  refine BitVec.eq_of_toNat_eq ?_
  have hlt := b.toBitVec.isLt
  rw [BitVec.toNat_ushiftRight, BitVec.toNat_setWidth, Nat.mod_eq_of_lt (by omega),
    Nat.shiftRight_eq_div_pow]
  exact Nat.div_eq_of_lt hlt

/-- **One byte by the table** is one byte bit by bit, and the bits above 32 stay zero. -/
theorem crc32Body_eq (crc : BitVec 32) (b : UInt8) :
    crc32Body extra (crc.setWidth (32 + extra)) b =
      ((Crc.stepRight 0xEDB88320)^[8] (crc ^^^ b.toBitVec.setWidth 32)).setWidth (32 + extra) := by
  have hindex : ((crc.setWidth (32 + extra) ^^^ b.toBitVec.setWidth (32 + extra)) &&&
      0xFF#(32 + extra)).toNat = ((crc ^^^ b.toBitVec.setWidth 32) &&& 0xFF#32).toNat := by
    have hpow : (2 : ℕ) ^ 32 ≤ 2 ^ (32 + extra) := Nat.pow_le_pow_right (by norm_num) (by omega)
    have hcrc := crc.isLt
    have hb := b.toBitVec.isLt
    simp only [BitVec.toNat_and, BitVec.toNat_xor, BitVec.toNat_setWidth, BitVec.toNat_ofNat]
    rw [Nat.mod_eq_of_lt (by omega : crc.toNat < 2 ^ (32 + extra)),
      Nat.mod_eq_of_lt (by omega : b.toBitVec.toNat < 2 ^ (32 + extra)),
      Nat.mod_eq_of_lt (by omega : b.toBitVec.toNat < 2 ^ 32),
      Nat.mod_eq_of_lt (by omega : 255 < 2 ^ (32 + extra)), Nat.mod_eq_of_lt (by norm_num)]
  have hshift : crc.setWidth (32 + extra) >>> 8 = (crc >>> 8).setWidth (32 + extra) := by
    refine BitVec.eq_of_toNat_eq ?_
    have hpow : (2 : ℕ) ^ 32 ≤ 2 ^ (32 + extra) := Nat.pow_le_pow_right (by norm_num) (by omega)
    have hcrc := crc.isLt
    have hdiv : crc.toNat >>> 8 ≤ crc.toNat := by
      rw [Nat.shiftRight_eq_div_pow]
      exact Nat.div_le_self ..
    rw [BitVec.toNat_ushiftRight, BitVec.toNat_setWidth, BitVec.toNat_setWidth,
      BitVec.toNat_ushiftRight, Nat.mod_eq_of_lt (by omega), Nat.mod_eq_of_lt (by omega)]
  have hsteps := Crc.stepRight_iterate_eq 0xEDB88320 (crc ^^^ b.toBitVec.setWidth 32) 8
  rw [BitVec.ushiftRight_xor_distrib, byte_ushiftRight, BitVec.xor_zero] at hsteps
  rw [crc32Body, hindex, crc32Table_low, hshift, hsteps, BitVec.setWidth_xor]
  rfl

theorem foldl_crc32Body (data : List UInt8) (crc : BitVec 32) :
    data.foldl (crc32Body extra) (crc.setWidth (32 + extra)) =
      (data.foldl (fun crc b => (Crc.stepRight 0xEDB88320)^[8] (crc ^^^ b.toBitVec.setWidth 32))
        crc).setWidth (32 + extra) := by
  induction data generalizing crc with
  | nil => rfl
  | cons b rest ih => rw [List.foldl_cons, crc32Body_eq, ih, List.foldl_cons]

/-- **`ulGetCrc32` is the reflected CRC-32**, however wide an `unsigned long` is. -/
theorem ulGetCrc32Wide_eq (h : data.length < 2 ^ 31) :
    ulGetCrc32Wide extra data = some (crc32 data) := by
  have hpow : (2 : ℕ) ^ 32 ≤ 2 ^ (32 + extra) := Nat.pow_le_pow_right (by norm_num) (by omega)
  have hones : 0xFFFFFFFF#(32 + extra) = (0xFFFFFFFF#32).setWidth (32 + extra) := by
    refine BitVec.eq_of_toNat_eq ?_
    rw [BitVec.toNat_setWidth, BitVec.toNat_ofNat, BitVec.toNat_ofNat,
      Nat.mod_eq_of_lt (by omega : 0xFFFFFFFF < 2 ^ 32)]
  rw [ulGetCrc32Wide, forBytes_of_lt (by omega), hones, foldl_crc32Body, Option.map_some,
    ← BitVec.setWidth_xor, BitVec.setWidth_setWidth_of_le _ (by omega), BitVec.setWidth_eq]
  rfl

/-! ### CRC-8 -/

/-- **The table of `ucGetCrc8`** holds eight steps of each byte. -/
theorem crc8Table_toBitVec (k : Fin 256) :
    (crc8Table.getD k 0).toBitVec = (Crc.stepLeft 0x07)^[8] (BitVec.ofNat 8 k) := by
  revert k
  decide +kernel

theorem crc8Body_eq (crc b : UInt8) :
    (crc8Body crc b).toBitVec = (Crc.stepLeft 0x07)^[8] (crc.toBitVec ^^^ b.toBitVec) := by
  have hentry := crc8Table_toBitVec ⟨(crc ^^^ b).toNat, UInt8.toNat_lt _⟩
  have hword : BitVec.ofNat 8 (crc ^^^ b).toNat = (crc ^^^ b).toBitVec := by
    rw [← UInt8.toNat_toBitVec, BitVec.ofNat_toNat, BitVec.setWidth_eq]
  rw [crc8Body, hentry, hword, UInt8.toBitVec_xor]

theorem foldl_crc8Body (data : List UInt8) (crc : UInt8) :
    (data.foldl crc8Body crc).toBitVec =
      data.foldl (fun crc b => (Crc.stepLeft 0x07)^[8] (crc ^^^ b.toBitVec)) crc.toBitVec := by
  induction data generalizing crc with
  | nil => rfl
  | cons b rest ih => rw [List.foldl_cons, ih, crc8Body_eq, List.foldl_cons]

/-- **`ucGetCrc8` is the CRC-8.** -/
theorem ucGetCrc8Loop_eq (h : data.length < 2 ^ 31) :
    ucGetCrc8Loop data = some (UInt8.ofBitVec (crc8 data)) := by
  rw [ucGetCrc8Loop, forBytes_of_lt (by omega)]
  exact congrArg some (UInt8.toBitVec_inj.mp (foldl_crc8Body data 0))

theorem bits_cons (b : UInt8) (rest : List UInt8) :
    bits (b :: rest) = (List.ofFn fun k : Fin 8 => b.toBitVec.getMsbD k) ++ bits rest :=
  List.flatMap_cons

theorem load_bits (b : UInt8) :
    (Crc.load (List.ofFn fun k : Fin 8 => b.toBitVec.getMsbD k) : BitVec 8) = b.toBitVec := by
  refine BitVec.eq_of_getMsbD_eq fun i hi => ?_
  rw [Crc.getMsbD_load hi, List.getD_eq_getElem _ _ (by rw [List.length_ofFn]; exact hi),
    List.getElem_ofFn]

theorem crc8_eq_feed (data : List UInt8) : crc8 data = Crc.feed 0x07 0 (bits data) := by
  have hfold : ∀ crc : BitVec 8,
      data.foldl (fun crc b => (Crc.stepLeft 0x07)^[8] (crc ^^^ b.toBitVec)) crc =
        Crc.feed 0x07 crc (bits data) := by
    induction data with
    | nil => exact fun _ => rfl
    | cons b rest ih =>
      intro crc
      have hbyte : Crc.feed 0x07 crc (List.ofFn fun k : Fin 8 => b.toBitVec.getMsbD k) =
          (Crc.stepLeft 0x07)^[8] (crc ^^^ b.toBitVec) := by
        rw [Crc.feed_eq (by rw [List.length_ofFn]), load_bits, List.length_ofFn]
      rw [List.foldl_cons, ih, bits_cons, Crc.feed_append, hbyte]
  exact hfold 0

theorem length_bits (data : List UInt8) : (bits data).length = 8 * data.length := by
  induction data with
  | nil => rfl
  | cons b rest ih =>
    rw [bits_cons, List.length_append, List.length_ofFn, List.length_cons]
    omega

theorem bits_injective : Function.Injective bits := by
  intro data other h
  have hlen : data.length = other.length := by
    have hbits := congrArg List.length h
    rw [length_bits, length_bits] at hbits
    omega
  induction data generalizing other with
  | nil => exact (List.length_eq_zero_iff.mp hlen.symm).symm
  | cons b rest ih =>
    cases other with
    | nil => cases hlen
    | cons c others =>
      rw [bits_cons, bits_cons] at h
      obtain ⟨hfirst, hrest⟩ := List.append_inj h (by rw [List.length_ofFn, List.length_ofFn])
      have hbyte : b = c := by
        refine UInt8.toBitVec_inj.mp ?_
        rw [← load_bits b, ← load_bits c, hfirst]
      rw [hbyte, ih hrest (Nat.succ.inj hlen)]

/-- **The checksums of a string are right exactly if its length is an `int`.** -/
theorem checks_right_iff (extra : ℕ) (data : List UInt8) :
    ChecksRight extra data ↔ data.length < 2 ^ 31 := by
  constructor
  · intro h
    by_contra hlen
    have hnone : ucGetCrc8Loop data = none := forBytes_of_le (by norm_num) (by omega)
    exact absurd (hnone.symm.trans h.crc8) nofun
  · intro hlen
    refine ⟨ulGetCrc32Wide_eq hlen, ucGetCrc8Loop_eq hlen, ?_, ?_⟩
    · rintro front c hfront rfl
      rw [List.length_append, List.length_singleton] at hlen
      rw [ucGetCrc8Loop_eq (by omega)] at hfront
      obtain rfl := Option.some.inj hfront
      rw [ucGetCrc8Loop_eq (by rw [List.length_append]; exact hlen), crc8, List.foldl_append]
      change some (UInt8.ofBitVec ((Crc.stepLeft 0x07)^[8] (crc8 front ^^^ crc8 front))) = some 0
      rw [BitVec.xor_self]
      rfl
    · intro other i hother hne hburst heq
      rw [ucGetCrc8Loop_eq hlen, ucGetCrc8Loop_eq (by omega), crc8_eq_feed, crc8_eq_feed] at heq
      have hconstant : (0x07 : BitVec 8).getLsbD 0 = true := by decide
      exact Crc.feed_ne_of_burst hconstant (by rw [length_bits, length_bits, hother])
        (fun h => hne (bits_injective h)) hburst (UInt8.ofBitVec.inj (Option.some.inj heq))

/-- **A string that is too long for the index.** -/
theorem not_checks_right : ¬ ∀ (extra : ℕ) (data : List UInt8), ChecksRight extra data := by
  intro h
  have hlen : (List.replicate (2 ^ 31) (0 : UInt8)).length = 2 ^ 31 := List.length_replicate
  have hnone : ucGetCrc8Loop (List.replicate (2 ^ 31) 0) = none :=
    forBytes_of_le (by norm_num) (by rw [hlen]; norm_num)
  exact absurd (hnone.symm.trans (h 0 (List.replicate (2 ^ 31) 0)).crc8) nofun

end Amr.Pldm
