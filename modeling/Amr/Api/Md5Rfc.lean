/-
# The digest of RFC 1321

The message is padded with a bit 1 and bits 0 until its length is congruent to 448 modulo 512 bits,
and the length in bits of the message follows as 64 bits, the low-order word first. The words of a
block go through four rounds of sixteen operations, whose constants are the integer parts of
4294967296 times the sine of the operation's number. `md5_transform` is this, with the operations
and the constants written out.
-/
import Amr.Api.Md5
import Amr.Lib.BlockFold
import Amr.Lib.SineTable
import Mathlib.Data.List.GetD

namespace Amr.Api.Md5

namespace Rfc

/-- `T[i]`, the integer part of 4294967296 times abs(sin(i)). -/
noncomputable def T (i : ℕ) : Word := BitVec.ofNat 32 ⌊((2 ^ 32 : ℕ) : ℝ) * |Real.sin i|⌋₊

def function : ℕ → Word → Word → Word → Word
  | 0 => fun x y z => (x &&& y) ||| (~~~x &&& z)
  | 1 => fun x y z => (x &&& z) ||| (y &&& ~~~z)
  | 2 => fun x y z => x ^^^ y ^^^ z
  | _ => fun x y z => y ^^^ (x ||| ~~~z)

/-- The word that an operation of a round takes. -/
def index (round j : ℕ) : ℕ :=
  match round with
  | 0 => j
  | 1 => (1 + 5 * j) % 16
  | 2 => (5 + 3 * j) % 16
  | _ => 7 * j % 16

/-- The places that the operations of a round turn to, in fours. -/
def turns : ℕ → List ℕ
  | 0 => [7, 12, 17, 22]
  | 1 => [5, 9, 14, 20]
  | 2 => [4, 11, 16, 23]
  | _ => [6, 10, 15, 21]

/-- `a = b + ((a + f(b, c, d) + X[k] + T[i]) <<< s)`. -/
def operate (f : Word → Word → Word → Word) (a b c d x t : Word) (s : ℕ) : Word :=
  b + (a + f b c d + x + t).rotateLeft s

/-- The operation `[abcd k s i]` with the constant `t`, where the operations go through ABCD, DABC,
CDAB and BCDA in turn. `n` is its place, from 0. -/
def operationWith (X : ℕ → Word) (t : Word) (n : ℕ) (r : Regs) : Regs :=
  let f := function (n / 16)
  let x := X (index (n / 16) (n % 16))
  let s := (turns (n / 16)).getD (n % 4) 0
  match n % 4 with
  | 0 => { r with a := operate f r.a r.b r.c r.d x t s }
  | 1 => { r with d := operate f r.d r.a r.b r.c x t s }
  | 2 => { r with c := operate f r.c r.d r.a r.b x t s }
  | _ => { r with b := operate f r.b r.c r.d r.a x t s }

noncomputable def operation (X : ℕ → Word) (r : Regs) (n : ℕ) : Regs :=
  operationWith X (T (n + 1)) n r

/-- The word of four bytes, the low-order byte first. -/
def blockWord (block : List Byte) (k : ℕ) : Word :=
  block.getD (4 * k + 3) 0 ++ block.getD (4 * k + 2) 0 ++ block.getD (4 * k + 1) 0
    ++ block.getD (4 * k) 0

/-- A block is processed. -/
noncomputable def process (r : Regs) (block : List Byte) : Regs :=
  r.add ((List.range 64).foldl (operation (blockWord block)) r)

/-- The bytes of a number of bits, the low-order byte first. -/
def littleEndian {w : ℕ} (k : ℕ) (x : BitVec w) : List Byte :=
  (List.range k).map fun i => x.extractLsb' (8 * i) 8

/-- The least number of bytes 0 that make the length, with the byte 128, congruent to 56. -/
def zeros (length : ℕ) : ℕ := (119 - length % 64) % 64

/-- The message, the padding, and the low-order 64 bits of the length in bits. -/
def padded (message : List Byte) : List Byte :=
  message ++ 0x80 :: List.replicate (zeros message.length) 0
    ++ littleEndian 8 (BitVec.ofNat 64 (8 * message.length))

def initial : Regs := ⟨0x67452301, 0xefcdab89, 0x98badcfe, 0x10325476⟩

/-- A, B, C and D, from the low-order byte of A to the high-order byte of D. -/
def output (r : Regs) : List Byte :=
  littleEndian 4 r.a ++ littleEndian 4 r.b ++ littleEndian 4 r.c ++ littleEndian 4 r.d

/-- **The digest of a message.** -/
noncomputable def md5 (message : List Byte) : List Byte :=
  output (BlockFold.absorb process 64 initial (padded message))

end Rfc

/-! ### The constants -/

/-- The constants in the order of the operations. -/
def constants : List ℕ :=
  [0xd76aa478, 0xe8c7b756, 0x242070db, 0xc1bdceee, 0xf57c0faf, 0x4787c62a, 0xa8304613, 0xfd469501,
    0x698098d8, 0x8b44f7af, 0xffff5bb1, 0x895cd7be, 0x6b901122, 0xfd987193, 0xa679438e, 0x49b40821,
    0xf61e2562, 0xc040b340, 0x265e5a51, 0xe9b6c7aa, 0xd62f105d, 0x02441453, 0xd8a1e681, 0xe7d3fbc8,
    0x21e1cde6, 0xc33707d6, 0xf4d50d87, 0x455a14ed, 0xa9e3e905, 0xfcefa3f8, 0x676f02d9, 0x8d2a4c8a,
    0xfffa3942, 0x8771f681, 0x6d9d6122, 0xfde5380c, 0xa4beea44, 0x4bdecfa9, 0xf6bb4b60, 0xbebfbc70,
    0x289b7ec6, 0xeaa127fa, 0xd4ef3085, 0x04881d05, 0xd9d4d039, 0xe6db99e5, 0x1fa27cf8, 0xc4ac5665,
    0xf4292244, 0x432aff97, 0xab9423a7, 0xfc93a039, 0x655b59c3, 0x8f0ccc92, 0xffeff47d, 0x85845dd1,
    0x6fa87e4f, 0xfe2ce6e0, 0xa3014314, 0x4e0811a1, 0xf7537e82, 0xbd3af235, 0x2ad7d2bb, 0xeb86d391]

theorem constants_entry : ∀ n < 64, SineTable.Entry (2 ^ 32) (n + 1) (constants.getD n 0) := by
  decide +kernel

/-- **The constants of the code are those of the text.** -/
theorem T_eq {n : ℕ} (hn : n < 64) : Rfc.T (n + 1) = BitVec.ofNat 32 (constants.getD n 0) := by
  rw [Rfc.T, SineTable.floor_sin (constants_entry n hn)]

/-! ### The operations -/

theorem ROTL_eq {n : ℕ} (hn : n < 32) (x : Word) : ROTL x n = x.rotateLeft n := by
  rw [ROTL, BitVec.rotateLeft, Nat.mod_eq_of_lt hn, BitVec.rotateLeftAux]

theorem operate_eq (f : Word → Word → Word → Word) (a b c d x t : Word) {s : ℕ} (hs : s < 32) :
    Rfc.operate f a b c d x t s = MD5_STEP f a b c d x t s := by
  rw [Rfc.operate, MD5_STEP, ROTL_eq hs, BitVec.add_comm b, BitVec.add_assoc a,
    BitVec.add_assoc a]

theorem turns_lt : ∀ n < 64, (Rfc.turns (n / 16)).getD (n % 4) 0 < 32 := by decide

def step (m : ℕ → Word) (r : Regs) (n : ℕ) : Regs :=
  let f := Rfc.function (n / 16)
  let x := m (Rfc.index (n / 16) (n % 16))
  let t := BitVec.ofNat 32 (constants.getD n 0)
  let s := (Rfc.turns (n / 16)).getD (n % 4) 0
  match n % 4 with
  | 0 => r.stepA f x t s
  | 1 => r.stepD f x t s
  | 2 => r.stepC f x t s
  | _ => r.stepB f x t s

variable (m : ℕ → Word) (r : Regs)

theorem operation_eq_step {n : ℕ} (hn : n < 64) :
    Rfc.operation m r n = step m r n := by
  have hs := turns_lt n hn
  rw [Rfc.operation, T_eq hn, Rfc.operationWith, step]
  split
  · rw [operate_eq _ _ _ _ _ _ _ hs, Regs.stepA]
  · rw [operate_eq _ _ _ _ _ _ _ hs, Regs.stepD]
  · rw [operate_eq _ _ _ _ _ _ _ hs, Regs.stepC]
  · rw [operate_eq _ _ _ _ _ _ _ hs, Regs.stepB]

theorem round1_eq : round1 m r = (List.range' 0 16).foldl (step m) r :=
  rfl

theorem round2_eq : round2 m r = (List.range' 16 16).foldl (step m) r :=
  rfl

theorem round3_eq : round3 m r = (List.range' 32 16).foldl (step m) r :=
  rfl

theorem round4_eq : round4 m r = (List.range' 48 16).foldl (step m) r :=
  rfl

theorem or_shifts_eq_append (b₀ b₁ b₂ b₃ : Byte) :
    (b₀.setWidth (8 + 8 + 8 + 8) ||| (b₁.setWidth (8 + 8 + 8 + 8) <<< 8)
      ||| (b₂.setWidth (8 + 8 + 8 + 8) <<< 16) ||| (b₃.setWidth (8 + 8 + 8 + 8) <<< 24)
        : BitVec (8 + 8 + 8 + 8)) = b₃ ++ b₂ ++ b₁ ++ b₀ := by
  have hzero : ∀ (b : Byte) (j : ℕ), 8 ≤ j → b.getLsbD j = false :=
    fun b j hj => BitVec.getLsbD_of_ge b j hj
  refine BitVec.eq_of_getLsbD_eq fun i hi => ?_
  simp only [BitVec.getLsbD_or, BitVec.getLsbD_shiftLeft, BitVec.getLsbD_setWidth,
    BitVec.getLsbD_append, hi, decide_true, Bool.true_and]
  -- the byte that the bit is of
  by_cases h8 : i < 8
  · simp [h8, show i < 16 by omega, show i < 24 by omega]
  by_cases h16 : i < 16
  · simp [h8, h16, hzero b₀ i (by omega), show i < 24 by omega, show i - 8 < 8 by omega,
      show i - 8 < 32 by omega]
  by_cases h24 : i < 24
  · simp [h8, h16, h24, hzero b₀ i (by omega), hzero b₁ (i - 8) (by omega), Nat.sub_sub,
      show ¬ i - 8 < 8 by omega, show i - 16 < 8 by omega, show i - 16 < 32 by omega]
  · simp [h8, h16, h24, hzero b₀ i (by omega), hzero b₁ (i - 8) (by omega),
      hzero b₂ (i - 16) (by omega), Nat.sub_sub, show ¬ i - 8 < 8 by omega,
      show ¬ i - 16 < 8 by omega, show i - 24 < 32 by omega]

theorem word_eq (block : List Byte) (k : ℕ) : word block k = Rfc.blockWord block k := by
  rw [word, Rfc.blockWord, Nat.mul_comm]
  exact or_shifts_eq_append _ _ _ _

/-- **The transformation of the code is the processing of a block.** -/
theorem md5_transform_eq (state : Regs) (block : List Byte) :
    md5_transform state block = Rfc.process state block := by
  have hwords : Rfc.blockWord block = word block := funext fun k => (word_eq block k).symm
  have hrange : List.range 64 = List.range' 0 16 ++ List.range' 16 16 ++ List.range' 32 16 ++
      List.range' 48 16 := by decide
  have hfold : (List.range 64).foldl (Rfc.operation (word block)) state =
      (List.range 64).foldl (step (word block)) state :=
    List.foldl_ext _ _ _ fun r n hn => operation_eq_step _ r (List.mem_range.1 hn)
  rw [Rfc.process, hwords, hfold, hrange, List.foldl_append, List.foldl_append, List.foldl_append,
    ← round1_eq, ← round2_eq, ← round3_eq, ← round4_eq]
  rfl

end Amr.Api.Md5
