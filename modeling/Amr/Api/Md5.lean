/-
# The MD5 digest of the library

`sw/AMI/api/src/md5.c`: `md5_transform`, `md5_init`, `md5_update`, `md5_final` and `calculate_md5`.

A context holds four words of state, the number of bytes it was given and the bytes that wait for
their block to fill. `md5_update` fills the block that waits, transforms the whole blocks of its
data where they are, and keeps the rest; its loop counts with an index of 32 bits. `md5_final` pads
the bytes to a block but for the length, puts the length behind, and transforms the last block.

Memory behind a pointer is a function of the offset, and what is read is noted. A loop is given an
amount of fuel; a call that does not end has no result with any amount.
-/
import Mathlib

namespace Amr.Api.Md5

abbrev Byte := BitVec 8

abbrev Word := BitVec 32

def MD5_BLOCK_SIZE : ℕ := 64

/-! ### The transformation -/

def F (x y z : Word) : Word := (x &&& y) ||| (~~~x &&& z)
def G (x y z : Word) : Word := (x &&& z) ||| (y &&& ~~~z)
def H (x y z : Word) : Word := x ^^^ y ^^^ z
def I (x y z : Word) : Word := y ^^^ (x ||| ~~~z)

def ROTL (x : Word) (n : ℕ) : Word := (x <<< n) ||| (x >>> (32 - n))

/-- The value of `a` after `MD5_STEP(f, a, b, c, d, x, t, s)`. -/
def MD5_STEP (f : Word → Word → Word → Word) (a b c d x t : Word) (s : ℕ) : Word :=
  ROTL (a + (f b c d + x + t)) s + b

/-- The words `a`, `b`, `c` and `d`, and those of a state. -/
structure Regs where
  a : Word
  b : Word
  c : Word
  d : Word
  deriving DecidableEq, Repr

namespace Regs

variable (f : Word → Word → Word → Word) (x t : Word) (s : ℕ)

/-- `MD5_STEP(f, a, b, c, d, x, t, s)`. -/
def stepA (r : Regs) : Regs := { r with a := MD5_STEP f r.a r.b r.c r.d x t s }

/-- `MD5_STEP(f, d, a, b, c, x, t, s)`. -/
def stepD (r : Regs) : Regs := { r with d := MD5_STEP f r.d r.a r.b r.c x t s }

/-- `MD5_STEP(f, c, d, a, b, x, t, s)`. -/
def stepC (r : Regs) : Regs := { r with c := MD5_STEP f r.c r.d r.a r.b x t s }

/-- `MD5_STEP(f, b, c, d, a, x, t, s)`. -/
def stepB (r : Regs) : Regs := { r with b := MD5_STEP f r.b r.c r.d r.a x t s }

def add (r q : Regs) : Regs := ⟨r.a + q.a, r.b + q.b, r.c + q.c, r.d + q.d⟩

end Regs

/-- The words `m` of a block. -/
def word (block : List Byte) (i : ℕ) : Word :=
  (block.getD (i * 4) 0).setWidth 32
    ||| ((block.getD (i * 4 + 1) 0).setWidth 32 <<< 8)
    ||| ((block.getD (i * 4 + 2) 0).setWidth 32 <<< 16)
    ||| ((block.getD (i * 4 + 3) 0).setWidth 32 <<< 24)

def round1 (m : ℕ → Word) (r : Regs) : Regs :=
  r
    |>.stepA F (m 0) 0xd76aa478 7
    |>.stepD F (m 1) 0xe8c7b756 12
    |>.stepC F (m 2) 0x242070db 17
    |>.stepB F (m 3) 0xc1bdceee 22
    |>.stepA F (m 4) 0xf57c0faf 7
    |>.stepD F (m 5) 0x4787c62a 12
    |>.stepC F (m 6) 0xa8304613 17
    |>.stepB F (m 7) 0xfd469501 22
    |>.stepA F (m 8) 0x698098d8 7
    |>.stepD F (m 9) 0x8b44f7af 12
    |>.stepC F (m 10) 0xffff5bb1 17
    |>.stepB F (m 11) 0x895cd7be 22
    |>.stepA F (m 12) 0x6b901122 7
    |>.stepD F (m 13) 0xfd987193 12
    |>.stepC F (m 14) 0xa679438e 17
    |>.stepB F (m 15) 0x49b40821 22

def round2 (m : ℕ → Word) (r : Regs) : Regs :=
  r
    |>.stepA G (m 1) 0xf61e2562 5
    |>.stepD G (m 6) 0xc040b340 9
    |>.stepC G (m 11) 0x265e5a51 14
    |>.stepB G (m 0) 0xe9b6c7aa 20
    |>.stepA G (m 5) 0xd62f105d 5
    |>.stepD G (m 10) 0x02441453 9
    |>.stepC G (m 15) 0xd8a1e681 14
    |>.stepB G (m 4) 0xe7d3fbc8 20
    |>.stepA G (m 9) 0x21e1cde6 5
    |>.stepD G (m 14) 0xc33707d6 9
    |>.stepC G (m 3) 0xf4d50d87 14
    |>.stepB G (m 8) 0x455a14ed 20
    |>.stepA G (m 13) 0xa9e3e905 5
    |>.stepD G (m 2) 0xfcefa3f8 9
    |>.stepC G (m 7) 0x676f02d9 14
    |>.stepB G (m 12) 0x8d2a4c8a 20

def round3 (m : ℕ → Word) (r : Regs) : Regs :=
  r
    |>.stepA H (m 5) 0xfffa3942 4
    |>.stepD H (m 8) 0x8771f681 11
    |>.stepC H (m 11) 0x6d9d6122 16
    |>.stepB H (m 14) 0xfde5380c 23
    |>.stepA H (m 1) 0xa4beea44 4
    |>.stepD H (m 4) 0x4bdecfa9 11
    |>.stepC H (m 7) 0xf6bb4b60 16
    |>.stepB H (m 10) 0xbebfbc70 23
    |>.stepA H (m 13) 0x289b7ec6 4
    |>.stepD H (m 0) 0xeaa127fa 11
    |>.stepC H (m 3) 0xd4ef3085 16
    |>.stepB H (m 6) 0x04881d05 23
    |>.stepA H (m 9) 0xd9d4d039 4
    |>.stepD H (m 12) 0xe6db99e5 11
    |>.stepC H (m 15) 0x1fa27cf8 16
    |>.stepB H (m 2) 0xc4ac5665 23

def round4 (m : ℕ → Word) (r : Regs) : Regs :=
  r
    |>.stepA I (m 0) 0xf4292244 6
    |>.stepD I (m 7) 0x432aff97 10
    |>.stepC I (m 14) 0xab9423a7 15
    |>.stepB I (m 5) 0xfc93a039 21
    |>.stepA I (m 12) 0x655b59c3 6
    |>.stepD I (m 3) 0x8f0ccc92 10
    |>.stepC I (m 10) 0xffeff47d 15
    |>.stepB I (m 1) 0x85845dd1 21
    |>.stepA I (m 8) 0x6fa87e4f 6
    |>.stepD I (m 15) 0xfe2ce6e0 10
    |>.stepC I (m 6) 0xa3014314 15
    |>.stepB I (m 13) 0x4e0811a1 21
    |>.stepA I (m 4) 0xf7537e82 6
    |>.stepD I (m 11) 0xbd3af235 10
    |>.stepC I (m 2) 0x2ad7d2bb 15
    |>.stepB I (m 9) 0xeb86d391 21

def md5_transform (state : Regs) (block : List Byte) : Regs :=
  state.add (round4 (word block) (round3 (word block) (round2 (word block)
    (round1 (word block) state))))

/-! ### Contexts -/

structure md5_ctx where
  state : Regs
  count : BitVec 64
  buffer : List Byte
  deriving DecidableEq, Repr

def md5_init (ctx : md5_ctx) : md5_ctx :=
  { ctx with state := ⟨0x67452301, 0xefcdab89, 0x98badcfe, 0x10325476⟩, count := 0 }

/-- The `n` bytes at `data + i`. -/
def slice (data : ℕ → Byte) (i n : ℕ) : List Byte := (List.range n).map fun j => data (i + j)

/-- `memcpy(&buffer[index], src, length of src)`. -/
def memcpy (buffer : List Byte) (index : ℕ) (src : List Byte) : List Byte :=
  buffer.take index ++ src ++ buffer.drop (index + src.length)

/-- What a call leaves: the context, and the offset and the number of the bytes that it read, a pair
for each place of the code that reads. -/
abbrev Read := md5_ctx × List (ℕ × ℕ)

/-- The loop of `md5_update` from index `i`: the index it ends with, the state and the reads. -/
def transform_blocks : ℕ → (ℕ → Byte) → ℕ → ℕ → Regs → Option (ℕ × Regs × List (ℕ × ℕ))
  | 0, _, _, _, _ => none
  | fuel + 1, data, len, i, state =>
    -- `i` is a `uint32_t`
    if (i + MD5_BLOCK_SIZE) % 2 ^ 32 ≤ len then
      (transform_blocks fuel data len ((i + MD5_BLOCK_SIZE) % 2 ^ 32)
        (md5_transform state (slice data i MD5_BLOCK_SIZE))).map
          fun r => (r.1, r.2.1, (i, MD5_BLOCK_SIZE) :: r.2.2)
    else some (i, state, [])

/-- The whole blocks from index `i` on, and the rest. -/
def update_from (fuel : ℕ) (ctx : md5_ctx) (data : ℕ → Byte) (len i : ℕ) : Option Read :=
  (transform_blocks fuel data len i ctx.state).map fun r =>
    if r.1 < len then
      ({ ctx with
          state := r.2.1
          buffer := memcpy ctx.buffer 0 (slice data r.1 (len - r.1)) },
        r.2.2 ++ [(r.1, len - r.1)])
    else ({ ctx with state := r.2.1 }, r.2.2)

def md5_update (fuel : ℕ) (ctx : md5_ctx) (data : ℕ → Byte) (len : ℕ) : Option Read :=
  let index := (ctx.count &&& 0x3F).toNat
  let ctx := { ctx with count := ctx.count + BitVec.ofNat 64 len }
  if index ≠ 0 then
    let part_len := MD5_BLOCK_SIZE - index
    if len ≥ part_len then
      let buffer := memcpy ctx.buffer index (slice data 0 part_len)
      (update_from fuel { ctx with state := md5_transform ctx.state buffer, buffer := buffer }
        data len part_len).map fun r => (r.1, (0, part_len) :: r.2)
    else some ({ ctx with buffer := memcpy ctx.buffer index (slice data 0 len) }, [(0, len)])
  else update_from fuel ctx data len 0

/-! ### The digest -/

def md5_padding (i : ℕ) : Byte := if i = 0 then 0x80 else 0

/-- The bytes of the length in bits, the lowest first. -/
def lengthBytes (bits : BitVec 64) : List Byte :=
  (List.range 8).map fun i => (bits >>> (i * 8)).setWidth 8

/-- The four bytes of a word, the lowest first. -/
def wordBytes (w : Word) : List Byte :=
  [w.setWidth 8, (w >>> 8).setWidth 8, (w >>> 16).setWidth 8, (w >>> 24).setWidth 8]

def digest (state : Regs) : List Byte :=
  wordBytes state.a ++ wordBytes state.b ++ wordBytes state.c ++ wordBytes state.d

/-- What reading the padding notes is left out. -/
def md5_final (fuel : ℕ) (ctx : md5_ctx) : Option (List Byte) :=
  let index := (ctx.count &&& 0x3F).toNat
  let bits := ctx.count * 8
  let pad_len := if index < 56 then 56 - index else 120 - index
  (md5_update fuel ctx md5_padding pad_len).map fun r =>
    digest (md5_transform r.1.state (memcpy r.1.buffer 56 (lengthBytes bits)))

/-- What is written to `md5_out`, if anything is, and the reads. A NULL pointer is `none`. -/
def calculate_md5 (fuel : ℕ) (ctx : md5_ctx) (data : Option (ℕ → Byte)) (len : ℕ)
    (md5_out : Bool) : Option (Option (List Byte) × List (ℕ × ℕ)) :=
  match data with
  | none => some (none, [])
  | some data =>
    if md5_out = false then some (none, [])
    else
      (md5_update fuel (md5_init ctx) data len).bind fun r =>
        (md5_final fuel r.1).map fun d => (some d, r.2)

end Amr.Api.Md5
