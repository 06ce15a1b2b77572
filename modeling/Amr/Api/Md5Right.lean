/-
# When the digest is right

`sw/AMI/api/src/md5.c`: a context that was given bytes holds the state after their whole blocks and
the rest in its buffer, however the bytes were split. The loop of `md5_update` keeps that as long as
its index, of 32 bits, can pass the length of the data: from index 0 that is a length below
2^32 - 64, and a length below 2^32 less what the buffer holds otherwise. For a longer piece the
index returns to where it began, and the call reads behind its data and does not end.
-/
import Amr.Api.Md5Rfc

namespace Amr.Api.Md5

open BlockFold

/-! ### Slices and copies -/

variable (data : ℕ → Byte)

@[simp] theorem length_slice (i n : ℕ) : (slice data i n).length = n := by
  rw [slice, List.length_map, List.length_range]

theorem slice_append (i n k : ℕ) :
    slice data i (n + k) = slice data i n ++ slice data (i + n) k := by
  rw [slice, slice, slice, List.range_add, List.map_append, List.map_map]
  refine congrArg _ (List.map_congr_left fun j _ => ?_)
  rw [Function.comp_apply, Nat.add_assoc]

theorem length_memcpy {buffer src : List Byte} {index : ℕ}
    (h : index + src.length ≤ buffer.length) :
    (memcpy buffer index src).length = buffer.length := by
  rw [memcpy, List.length_append, List.length_append, List.length_take, List.length_drop]
  omega

variable {buffer : List Byte}

theorem take_memcpy (src : List Byte) {index : ℕ} (h : index ≤ buffer.length) :
    (memcpy buffer index src).take (index + src.length) = buffer.take index ++ src := by
  rw [memcpy]
  refine List.take_left' ?_
  rw [List.length_append, List.length_take, Nat.min_eq_left h]

/-! ### The loop -/

def Inside (len : ℕ) (reads : List (ℕ × ℕ)) : Prop := ∀ p ∈ reads, p.1 + p.2 ≤ len

theorem transform_blocks_eq (len : ℕ) {k : ℕ} :
    ∀ (fuel i : ℕ) (_ : k < fuel) (_ : i + 64 * k ≤ len) (_ : len < i + 64 * k + 64)
      (_ : i + 64 * k + 64 < 2 ^ 32) (state : Regs),
      ∃ reads, transform_blocks fuel data len i state =
        some (i + 64 * k, blocks md5_transform 64 k state (slice data i (64 * k)), reads) ∧
        Inside len reads := by
  induction k with
  | zero =>
    intro fuel i hfuel hle hlt hwrap state
    obtain ⟨fuel, rfl⟩ : ∃ m, fuel = m + 1 := ⟨fuel - 1, by omega⟩
    refine ⟨[], ?_, nofun⟩
    have hstop : ¬ (i + MD5_BLOCK_SIZE) % 2 ^ 32 ≤ len := by
      rw [MD5_BLOCK_SIZE, Nat.mod_eq_of_lt (by omega)]
      omega
    rw [transform_blocks, if_neg hstop]
    rfl
  | succ k ih =>
    intro fuel i hfuel hle hlt hwrap state
    obtain ⟨fuel, rfl⟩ : ∃ m, fuel = m + 1 := ⟨fuel - 1, by omega⟩
    have hnext : (i + MD5_BLOCK_SIZE) % 2 ^ 32 = i + 64 := by
      rw [MD5_BLOCK_SIZE, Nat.mod_eq_of_lt (by omega)]
    obtain ⟨reads, hrest, hin⟩ := ih fuel (i + 64) (by omega) (by omega) (by omega)
      (by omega) (md5_transform state (slice data i 64))
    refine ⟨(i, 64) :: reads, ?_, ?_⟩
    · rw [transform_blocks, hnext, if_pos (by omega)]
      have hslice : slice data i (64 * (k + 1)) =
          slice data i 64 ++ slice data (i + 64) (64 * k) := by
        rw [← slice_append, Nat.mul_succ, Nat.add_comm]
      have hend : i + 64 + 64 * k = i + 64 * (k + 1) := by omega
      rw [MD5_BLOCK_SIZE, hrest, hslice, blocks, List.take_left' (length_slice _ _ _),
        List.drop_left' (length_slice _ _ _), hend]
      rfl
    · intro p hp
      obtain rfl | hp := List.mem_cons.1 hp
      · show i + 64 ≤ len
        omega
      · exact hin p hp

theorem transform_blocks_none {data : ℕ → Byte} {len : ℕ} (fuel : ℕ) :
    ∀ {i : ℕ} (_ : 2 ^ 32 + i % 64 ≤ len + 64) (state : Regs),
      transform_blocks fuel data len i state = none := by
  induction fuel with
  | zero =>
    intro i _ state
    rfl
  | succ fuel ih =>
    intro i hlen state
    have hmod : (i + MD5_BLOCK_SIZE) % 2 ^ 32 % 64 = i % 64 := by
      rw [MD5_BLOCK_SIZE]
      omega
    have hgo : (i + MD5_BLOCK_SIZE) % 2 ^ 32 ≤ len := by
      have hlt : (i + MD5_BLOCK_SIZE) % 2 ^ 32 < 2 ^ 32 := Nat.mod_lt _ (by norm_num)
      omega
    rw [transform_blocks, if_pos hgo, ih (by rw [hmod]; exact hlen)]
    rfl

theorem transform_blocks_mono {data : ℕ → Byte} {len fuel fuel' : ℕ} (hle : fuel ≤ fuel') :
    ∀ {i : ℕ} {state : Regs} {r : ℕ × Regs × List (ℕ × ℕ)},
      transform_blocks fuel data len i state = some r →
        transform_blocks fuel' data len i state = some r := by
  induction fuel generalizing fuel' with
  | zero =>
    intro i state r h
    exact absurd h nofun
  | succ fuel ih =>
    intro i state r h
    obtain ⟨fuel', rfl⟩ : ∃ m, fuel' = m + 1 := ⟨fuel' - 1, by omega⟩
    rw [transform_blocks] at h ⊢
    by_cases hgo : (i + MD5_BLOCK_SIZE) % 2 ^ 32 ≤ len
    · rw [if_pos hgo] at h ⊢
      obtain ⟨q, hq, rfl⟩ := Option.map_eq_some_iff.1 h
      rw [ih (by omega) hq]
      rfl
    · rw [if_neg hgo] at h ⊢
      exact h

variable {fuel fuel' : ℕ}

theorem update_from_mono (hle : fuel ≤ fuel') {ctx : md5_ctx} {data : ℕ → Byte}
    {len i : ℕ} {r : Read} (h : update_from fuel ctx data len i = some r) :
    update_from fuel' ctx data len i = some r := by
  obtain ⟨q, hq, rfl⟩ := Option.map_eq_some_iff.1 h
  rw [update_from, transform_blocks_mono hle hq]
  rfl

theorem md5_update_mono (hle : fuel ≤ fuel') {ctx : md5_ctx} {data : ℕ → Byte}
    {len : ℕ} {r : Read} (h : md5_update fuel ctx data len = some r) :
    md5_update fuel' ctx data len = some r := by
  unfold md5_update at h ⊢
  dsimp only at h ⊢
  split_ifs at h ⊢
  · obtain ⟨q, hq, rfl⟩ := Option.map_eq_some_iff.1 h
    rw [update_from_mono hle hq]
    rfl
  · exact h
  · exact update_from_mono hle h

theorem md5_final_mono (hle : fuel ≤ fuel') {ctx : md5_ctx} {d : List Byte}
    (h : md5_final fuel ctx = some d) : md5_final fuel' ctx = some d := by
  obtain ⟨q, hq, rfl⟩ := Option.map_eq_some_iff.1 h
  rw [md5_final, md5_update_mono hle hq]
  rfl

/-! ### A piece of the data -/

/-- The index can pass the length: with `held` bytes in the buffer the loop ends. -/
def Fits (held len : ℕ) : Prop := if held = 0 then len + 64 < 2 ^ 32 else len + held < 2 ^ 32

instance (held len : ℕ) : Decidable (Fits held len) := by unfold Fits; infer_instance

theorem update_from_eq (fuel : ℕ) (ctx : md5_ctx) (data : ℕ → Byte) {len i : ℕ} (hi : i ≤ len)
    (hfuel : (len - i) / 64 < fuel) (hwrap : len + 64 < 2 ^ 32 + i % 64) :
    ∃ reads, update_from fuel ctx data len i =
      some ({ ctx with
        state := absorb md5_transform 64 ctx.state (slice data i (len - i))
        buffer := memcpy ctx.buffer 0 (rest 64 (slice data i (len - i))) }, reads) ∧
      Inside len reads := by
  have hdiv := Nat.div_add_mod (len - i) 64
  obtain ⟨reads, hloop, hin⟩ := transform_blocks_eq data len fuel i hfuel (by omega) (by omega)
    (by omega) ctx.state
  -- the slice is its whole blocks and the rest
  have hsplit : slice data i (len - i) = slice data i (64 * ((len - i) / 64)) ++
      slice data (i + 64 * ((len - i) / 64)) ((len - i) % 64) := by
    rw [← slice_append, hdiv]
  have hrest : rest 64 (slice data i (len - i)) =
      slice data (i + 64 * ((len - i) / 64)) ((len - i) % 64) := by
    rw [rest, length_slice, hsplit, List.drop_left' (length_slice _ _ _)]
  have hstate : absorb md5_transform 64 ctx.state (slice data i (len - i)) =
      blocks md5_transform 64 ((len - i) / 64) ctx.state
        (slice data i (64 * ((len - i) / 64))) := by
    rw [absorb, length_slice, hsplit]
    exact blocks_append _ _ _ (le_of_eq (length_slice _ _ _).symm)
  have hleft : len - (i + 64 * ((len - i) / 64)) = (len - i) % 64 := by omega
  rw [update_from, hloop, hstate, hrest]
  by_cases hlt : i + 64 * ((len - i) / 64) < len
  · refine ⟨reads ++ [(i + 64 * ((len - i) / 64), (len - i) % 64)], ?_, ?_⟩
    · simp only [Option.map_some, if_pos hlt, hleft]
    · intro p hp
      obtain hp | hp := List.mem_append.1 hp
      · exact hin p hp
      · obtain rfl := List.mem_singleton.1 hp
        show i + 64 * ((len - i) / 64) + (len - i) % 64 ≤ len
        omega
  · have hzero : (len - i) % 64 = 0 := by omega
    refine ⟨reads, ?_, hin⟩
    simp only [Option.map_some, if_neg hlt, hzero]
    rfl

/-- A context that was given the bytes `xs`: their number, the state after their whole blocks, and
the rest in the buffer. -/
structure Holds (ctx : md5_ctx) (xs : List Byte) : Prop where
  count : ctx.count = BitVec.ofNat 64 xs.length
  length : ctx.buffer.length = 64
  state : ctx.state = absorb md5_transform 64 Rfc.initial xs
  buffer : ctx.buffer.take (xs.length % 64) = rest 64 xs

variable {ctx : md5_ctx} {xs : List Byte}

theorem Holds.index (h : Holds ctx xs) :
    (ctx.count &&& 0x3F).toNat = xs.length % 64 := by
  rw [h.count, BitVec.toNat_and, BitVec.toNat_ofNat]
  have h63 : (0x3F : BitVec 64).toNat = 2 ^ 6 - 1 := rfl
  rw [h63, Nat.and_two_pow_sub_one_eq_mod]
  omega

theorem Holds.init (ctx : md5_ctx) (h : ctx.buffer.length = 64) : Holds (md5_init ctx) [] :=
  ⟨rfl, h, rfl, rfl⟩

theorem Holds.append {xs ys : List Byte} {ctx : md5_ctx}
    (hcount : ctx.count = BitVec.ofNat 64 xs.length + BitVec.ofNat 64 ys.length)
    (hlength : ctx.buffer.length = 64)
    (hstate : ctx.state =
      absorb md5_transform 64 (absorb md5_transform 64 Rfc.initial xs) (rest 64 xs ++ ys))
    (hbuffer : ctx.buffer.take ((rest 64 xs ++ ys).length % 64) = rest 64 (rest 64 xs ++ ys)) :
    Holds ctx (xs ++ ys) where
  count := by rw [hcount, List.length_append, BitVec.ofNat_add]
  length := hlength
  state := by rw [hstate, ← absorb_append _ (by decide)]
  buffer := by
    rw [rest_append (by decide), ← hbuffer, List.length_append, List.length_append, length_rest,
      Nat.mod_add_mod]

theorem take_memcpy_rest (ys : List Byte) :
    (memcpy buffer 0 (rest 64 ys)).take (ys.length % 64) = rest 64 ys := by
  have := take_memcpy (rest 64 ys) (Nat.zero_le buffer.length)
  rwa [Nat.zero_add, length_rest, List.take_zero, List.nil_append] at this

theorem length_memcpy_rest (h : buffer.length = 64) (ys : List Byte) :
    (memcpy buffer 0 (rest 64 ys)).length = 64 := by
  have hlt := length_rest_lt (n := 64) (by decide) ys
  rw [length_memcpy (by omega), h]

/-- **A piece of the data that fits is taken:** the context then holds what it held, and the
piece. -/
theorem Holds.update (h : Holds ctx xs) (data : ℕ → Byte)
    (fuel : ℕ) {len : ℕ} (hfuel : len / 64 < fuel) (hfits : Fits (xs.length % 64) len) :
    ∃ ctx' reads, md5_update fuel ctx data len = some (ctx', reads) ∧
      Holds ctx' (xs ++ slice data 0 len) ∧ Inside len reads := by
  have hrest : (rest 64 xs).length = xs.length % 64 := length_rest xs
  have hlt : xs.length % 64 < 64 := Nat.mod_lt _ (by decide)
  have hcount : ctx.count + BitVec.ofNat 64 len =
      BitVec.ofNat 64 xs.length + BitVec.ofNat 64 (slice data 0 len).length := by
    rw [h.count, length_slice]
  rw [md5_update, h.index]
  dsimp only
  by_cases hzero : xs.length % 64 = 0
  · -- the buffer is empty
    rw [if_neg (not_not.2 hzero)]
    rw [Fits, if_pos hzero] at hfits
    obtain ⟨reads, hrun, hin⟩ := update_from_eq fuel
      { ctx with count := ctx.count + BitVec.ofNat 64 len } data (Nat.zero_le len) (by omega)
      (by omega)
    refine ⟨_, reads, hrun, ?_, hin⟩
    have hnil : rest 64 xs = [] := List.eq_nil_of_length_eq_zero (hrest.trans hzero)
    refine Holds.append hcount (length_memcpy_rest h.length _) ?_ ?_
    · rw [hnil, List.nil_append, ← h.state]
      rfl
    · rw [hnil, List.nil_append]
      exact take_memcpy_rest _
  · rw [if_pos hzero]
    rw [Fits, if_neg hzero] at hfits
    rw [MD5_BLOCK_SIZE]
    by_cases hpart : len ≥ 64 - xs.length % 64
    · -- the block in the buffer is filled
      rw [if_pos hpart]
      have hfill : memcpy ctx.buffer (xs.length % 64) (slice data 0 (64 - xs.length % 64)) =
          rest 64 xs ++ slice data 0 (64 - xs.length % 64) := by
        rw [← h.buffer, memcpy, length_slice, List.drop_eq_nil_of_le (by rw [h.length]; omega),
          List.append_nil]
      have hblock : (rest 64 xs ++ slice data 0 (64 - xs.length % 64)).length = 64 := by
        rw [List.length_append, hrest, length_slice]
        omega
      obtain ⟨reads, hrun, hin⟩ := update_from_eq fuel
        ⟨md5_transform ctx.state (rest 64 xs ++ slice data 0 (64 - xs.length % 64)),
          ctx.count + BitVec.ofNat 64 len, rest 64 xs ++ slice data 0 (64 - xs.length % 64)⟩
        data hpart (by omega) (by omega)
      have hsplit : rest 64 xs ++ slice data 0 len =
          (rest 64 xs ++ slice data 0 (64 - xs.length % 64)) ++
            slice data (64 - xs.length % 64) (len - (64 - xs.length % 64)) := by
        have happ := slice_append data 0 (64 - xs.length % 64) (len - (64 - xs.length % 64))
        rw [Nat.add_sub_cancel' hpart, Nat.zero_add] at happ
        rw [happ, List.append_assoc]
      rw [hfill]
      refine ⟨_, (0, 64 - xs.length % 64) :: reads, by rw [hrun]; rfl, ?_, ?_⟩
      · refine Holds.append hcount (length_memcpy_rest hblock _) ?_ ?_
        · rw [hsplit, absorb_block _ (by decide) hblock, ← h.state]
        · rw [hsplit, rest_block (by decide) hblock, List.length_append, hblock,
            Nat.add_mod_left]
          exact take_memcpy_rest _
      · intro p hp
        obtain rfl | hp := List.mem_cons.1 hp
        · show 0 + (64 - xs.length % 64) ≤ len
          omega
        · exact hin p hp
    · -- the piece does not fill the block
      rw [if_neg hpart]
      have hshort : (rest 64 xs ++ slice data 0 len).length < 64 := by
        rw [List.length_append, hrest, length_slice]
        omega
      have hle : xs.length % 64 + (slice data 0 len).length ≤ ctx.buffer.length := by
        rw [length_slice, h.length]
        omega
      refine ⟨_, [(0, len)], rfl, ?_, ?_⟩
      · refine Holds.append hcount (by rw [length_memcpy hle, h.length]) ?_ ?_
        · rw [absorb_of_lt _ hshort, h.state]
        · rw [rest_of_lt hshort, Nat.mod_eq_of_lt hshort, List.length_append, hrest,
            take_memcpy _ (by omega), h.buffer]
      · intro p hp
        obtain rfl := List.mem_singleton.1 hp
        exact le_of_eq (Nat.zero_add len)

theorem Holds.update_none (h : Holds ctx xs) {data : ℕ → Byte}
    {len : ℕ} (hlen : len < 2 ^ 32) (hfits : ¬ Fits (xs.length % 64) len) (fuel : ℕ) :
    md5_update fuel ctx data len = none := by
  have hlt : xs.length % 64 < 64 := Nat.mod_lt _ (by decide)
  rw [md5_update, h.index]
  dsimp only
  by_cases hzero : xs.length % 64 = 0
  · rw [Fits, if_pos hzero] at hfits
    rw [if_neg (not_not.2 hzero), update_from, transform_blocks_none fuel (by omega)]
    rfl
  · rw [Fits, if_neg hzero] at hfits
    rw [if_pos hzero, MD5_BLOCK_SIZE, if_pos (by omega), update_from,
      transform_blocks_none fuel (by omega)]
    rfl

theorem Holds.update_some (h : Holds ctx xs) {data : ℕ → Byte}
    {fuel len : ℕ} (hlen : len < 2 ^ 32) {r : Read}
    (hrun : md5_update fuel ctx data len = some r) :
    Fits (xs.length % 64) len ∧ Holds r.1 (xs ++ slice data 0 len) := by
  have hfits : Fits (xs.length % 64) len := by
    by_contra hnot
    rw [h.update_none hlen hnot] at hrun
    exact absurd hrun nofun
  obtain ⟨ctx', reads, hmore, h', -⟩ := h.update data (fuel + len + 1) (by omega) hfits
  have hsame := Option.some.inj ((md5_update_mono (by omega) hrun).symm.trans hmore)
  rw [hsame]
  exact ⟨hfits, h'⟩

/-! ### The end -/

theorem lengthBytes_eq (bits : BitVec 64) : lengthBytes bits = Rfc.littleEndian 8 bits := by
  refine List.map_congr_left fun i _ => BitVec.eq_of_toNat_eq ?_
  rw [BitVec.toNat_setWidth, BitVec.toNat_ushiftRight, BitVec.extractLsb'_toNat, Nat.mul_comm]

theorem wordBytes_eq (w : Word) : wordBytes w = Rfc.littleEndian 4 w := by
  have hbyte : ∀ i, (w >>> (8 * i)).setWidth 8 = w.extractLsb' (8 * i) 8 := by
    intro i
    refine BitVec.eq_of_toNat_eq ?_
    rw [BitVec.toNat_setWidth, BitVec.toNat_ushiftRight, BitVec.extractLsb'_toNat]
  show [w.setWidth 8, _, _, _] = [w.extractLsb' (8 * 0) 8, w.extractLsb' (8 * 1) 8,
    w.extractLsb' (8 * 2) 8, w.extractLsb' (8 * 3) 8]
  rw [← hbyte 0, ← hbyte 1, ← hbyte 2, ← hbyte 3]
  rfl

theorem digest_eq (r : Regs) : digest r = Rfc.output r := by
  rw [digest, Rfc.output, wordBytes_eq, wordBytes_eq, wordBytes_eq, wordBytes_eq]

theorem slice_md5_padding (n : ℕ) : slice md5_padding 0 (n + 1) = 0x80 :: List.replicate n 0 := by
  rw [slice, List.range_succ_eq_map, List.map_cons, List.map_map]
  refine congrArg _ (List.eq_replicate_iff.2 ⟨?_, fun b hb => ?_⟩)
  · rw [List.length_map, List.length_range]
  · obtain ⟨j, -, rfl⟩ := List.mem_map.1 hb
    show md5_padding (0 + Nat.succ j) = 0
    rw [md5_padding, if_neg (by omega)]

/-- **The digest of a context is that of the bytes it holds.** -/
theorem Holds.final (h : Holds ctx xs) {fuel : ℕ}
    (hfuel : 1 < fuel) : md5_final fuel ctx = some (Rfc.md5 xs) := by
  have hlt : xs.length % 64 < 64 := Nat.mod_lt _ (by decide)
  obtain ⟨pad, hpad, hzeros⟩ : ∃ pad,
      (if xs.length % 64 < 56 then 56 - xs.length % 64 else 120 - xs.length % 64) = pad + 1 ∧
        Rfc.zeros xs.length = pad := by
    refine ⟨Rfc.zeros xs.length, ?_, rfl⟩
    unfold Rfc.zeros
    split_ifs <;> omega
  have hfits : Fits (xs.length % 64) (pad + 1) := by
    unfold Fits
    split_ifs at hpad ⊢ <;> omega
  obtain ⟨ctx', reads, hrun, h', -⟩ := h.update md5_padding fuel
    (by split_ifs at hpad <;> omega) hfits
  have hcount : ctx.count * 8 = BitVec.ofNat 64 (8 * xs.length) := by
    rw [h.count, Nat.mul_comm 8, BitVec.ofNat_mul]
    rfl
  -- the padding fills the buffer but for the length
  have h56 : (xs ++ slice md5_padding 0 (pad + 1)).length % 64 = 56 := by
    rw [List.length_append, length_slice]
    split_ifs at hpad <;> omega
  have hlength : (Rfc.littleEndian 8 (BitVec.ofNat 64 (8 * xs.length))).length = 8 := by
    rw [Rfc.littleEndian, List.length_map, List.length_range]
  have hbuffer : memcpy ctx'.buffer 56 (Rfc.littleEndian 8 (BitVec.ofNat 64 (8 * xs.length))) =
      rest 64 (xs ++ slice md5_padding 0 (pad + 1)) ++
        Rfc.littleEndian 8 (BitVec.ofNat 64 (8 * xs.length)) := by
    rw [← h'.buffer, h56, memcpy, hlength, List.drop_eq_nil_of_le (by rw [h'.length]),
      List.append_nil]
  have hblock : (rest 64 (xs ++ slice md5_padding 0 (pad + 1)) ++
      Rfc.littleEndian 8 (BitVec.ofNat 64 (8 * xs.length))).length = 64 := by
    rw [List.length_append, length_rest, h56, hlength]
  have htransform : md5_transform = Rfc.process :=
    funext fun r => funext fun b => md5_transform_eq r b
  have hmd5 : Rfc.md5 xs = Rfc.output (md5_transform ctx'.state
      (rest 64 (xs ++ slice md5_padding 0 (pad + 1)) ++
        Rfc.littleEndian 8 (BitVec.ofNat 64 (8 * xs.length)))) := by
    rw [Rfc.md5, Rfc.padded, hzeros, ← slice_md5_padding, absorb_append _ (by decide),
      ← htransform, ← h'.state, absorb_single _ (by decide) hblock]
  rw [md5_final, h.index]
  simp only [hpad]
  rw [hrun, hcount, lengthBytes_eq, Option.map_some, hbuffer, digest_eq, hmd5]

/-! ### Every run -/

/-- A piece of the data: what is behind the pointer, and a length of 32 bits. -/
structure Chunk where
  data : ℕ → Byte
  len : ℕ
  lt : len < 2 ^ 32

def Chunk.bytes (c : Chunk) : List Byte := slice c.data 0 c.len

/-- `md5_update` with one piece after the other. -/
def updates (fuel : ℕ) : md5_ctx → List Chunk → Option md5_ctx
  | ctx, [] => some ctx
  | ctx, c :: cs => (md5_update fuel ctx c.data c.len).bind fun r => updates fuel r.1 cs

/-- `md5_init`, the calls of `md5_update`, and `md5_final`. -/
def chunked (fuel : ℕ) (ctx : md5_ctx) (chunks : List Chunk) : Option (List Byte) :=
  (updates fuel (md5_init ctx) chunks).bind (md5_final fuel)

/-- Each piece fits, after the `total` bytes before it. -/
def AllFit : ℕ → List Chunk → Prop
  | _, [] => True
  | total, c :: cs => Fits (total % 64) c.len ∧ AllFit (total + c.len) cs

/-- A context on the stack: all of it has any values. -/
def uninitialised (state : Regs) (count : BitVec 64) (buffer : Fin 64 → Byte) : md5_ctx :=
  ⟨state, count, List.ofFn buffer⟩

/-- The calls end with the digest of all the bytes. -/
def ChunkedRight (ctx : md5_ctx) (chunks : List Chunk) : Prop :=
  ∃ fuel, chunked fuel ctx chunks = some (Rfc.md5 (chunks.flatMap Chunk.bytes))

/-- The call ends with the digest of the bytes, reads no other bytes, and every way to give the same
bytes in pieces ends with the same digest, if it ends. -/
def OnceRight (ctx : md5_ctx) (c : Chunk) : Prop :=
  ∃ fuel reads, calculate_md5 fuel ctx (some c.data) c.len true =
      some (some (Rfc.md5 c.bytes), reads) ∧ Inside c.len reads ∧
    ∀ fuel' chunks d, chunks.flatMap Chunk.bytes = c.bytes →
      chunked fuel' ctx chunks = some d → d = Rfc.md5 c.bytes

variable (state : Regs) (count : BitVec 64) (buffer : Fin 64 → Byte)

theorem length_uninitialised :
    (uninitialised state count buffer).buffer.length = 64 := List.length_ofFn

variable {chunks : List Chunk}

theorem Holds.updates {fuel : ℕ} (hfuel : 2 ^ 32 ≤ fuel) {ctx : md5_ctx}
    {xs : List Byte} (h : Holds ctx xs) (hfits : AllFit xs.length chunks) :
    ∃ ctx', updates fuel ctx chunks = some ctx' ∧
      Holds ctx' (xs ++ chunks.flatMap Chunk.bytes) := by
  induction chunks generalizing ctx xs with
  | nil => exact ⟨ctx, rfl, by rwa [List.flatMap_nil, List.append_nil]⟩
  | cons c cs ih =>
    have hlt := c.lt
    obtain ⟨ctx', reads, hrun, h', -⟩ := h.update c.data fuel (by omega) hfits.1
    have hnext : AllFit (xs ++ c.bytes).length cs := by
      rw [List.length_append, Chunk.bytes, length_slice]
      exact hfits.2
    obtain ⟨ctx'', hrest, h''⟩ := ih h' hnext
    refine ⟨ctx'', ?_, ?_⟩
    · rw [Md5.updates, hrun]
      exact hrest
    · rwa [List.flatMap_cons, ← List.append_assoc]

theorem Holds.updates_some {fuel : ℕ} {ctx ctx' : md5_ctx} {xs : List Byte}
    (h : Holds ctx xs) (hrun : Md5.updates fuel ctx chunks = some ctx') :
    AllFit xs.length chunks ∧ Holds ctx' (xs ++ chunks.flatMap Chunk.bytes) := by
  induction chunks generalizing ctx xs with
  | nil =>
    obtain rfl := Option.some.inj hrun
    exact ⟨trivial, by rwa [List.flatMap_nil, List.append_nil]⟩
  | cons c cs ih =>
    rw [Md5.updates] at hrun
    obtain ⟨r, hr, hrest⟩ := Option.bind_eq_some_iff.1 hrun
    obtain ⟨hfits, h'⟩ := h.update_some c.lt hr
    obtain ⟨hall, h''⟩ := ih h' hrest
    rw [List.length_append, length_slice] at hall
    refine ⟨⟨hfits, hall⟩, ?_⟩
    rwa [List.flatMap_cons, ← List.append_assoc]

theorem chunked_right_iff (chunks : List Chunk) :
    ChunkedRight (uninitialised state count buffer) chunks ↔ AllFit 0 chunks := by
  have hinit := Holds.init _ (length_uninitialised state count buffer)
  refine ⟨fun h => ?_, fun h => ?_⟩
  · obtain ⟨fuel, hrun⟩ := h
    obtain ⟨ctx', hupdates, -⟩ := Option.bind_eq_some_iff.1 hrun
    exact (hinit.updates_some hupdates).1
  · obtain ⟨ctx', hupdates, h'⟩ := hinit.updates (le_refl (2 ^ 32)) h
    refine ⟨2 ^ 32, ?_⟩
    rw [chunked, hupdates, Option.bind_some, h'.final (by norm_num), List.nil_append]

theorem eq_md5_of_chunked {fuel : ℕ} {d : List Byte}
    (h : chunked fuel (uninitialised state count buffer) chunks = some d) :
    d = Rfc.md5 (chunks.flatMap Chunk.bytes) := by
  have hinit := Holds.init _ (length_uninitialised state count buffer)
  obtain ⟨ctx', hupdates, hfinal⟩ := Option.bind_eq_some_iff.1 h
  have h' := (hinit.updates_some hupdates).2
  have hmore := md5_final_mono (Nat.le_add_right fuel 2) hfinal
  rw [h'.final (by omega), List.nil_append] at hmore
  exact (Option.some.inj hmore).symm

theorem once_right_iff (c : Chunk) :
    OnceRight (uninitialised state count buffer) c ↔ c.len + 64 < 2 ^ 32 := by
  have hinit := Holds.init _ (length_uninitialised state count buffer)
  have hfits : Fits (([] : List Byte).length % 64) c.len ↔ c.len + 64 < 2 ^ 32 := Iff.rfl
  rw [← hfits]
  refine ⟨fun h => ?_, fun h => ?_⟩
  · obtain ⟨fuel, reads, hrun, -⟩ := h
    obtain ⟨r, hr, -⟩ := Option.bind_eq_some_iff.1 hrun
    exact (hinit.update_some c.lt hr).1
  · have hlt := c.lt
    obtain ⟨ctx', reads, hupdate, h', hin⟩ := hinit.update c.data (2 ^ 32)
      (by omega) h
    refine ⟨2 ^ 32, reads, ?_, hin, fun fuel' chunks d hbytes hrun => ?_⟩
    · rw [calculate_md5, if_neg (by decide), hupdate, Option.bind_some, h'.final (by norm_num),
        List.nil_append]
      rfl
    · rw [← hbytes]
      exact eq_md5_of_chunked state count buffer hrun

/-- **The digest is right exactly when each piece fits:** the calls of `md5_update` end with the
digest of RFC 1321 of all the bytes, however they are split, exactly when no piece is so long that
the index comes around; and `calculate_md5` ends with that digest, having read only its data,
exactly for a length below 2^32 - 64. -/
theorem digest_right_iff (state : Regs) (count : BitVec 64) (buffer : Fin 64 → Byte)
    (chunks : List Chunk) (c : Chunk) :
    (ChunkedRight (uninitialised state count buffer) chunks ↔ AllFit 0 chunks) ∧
      (OnceRight (uninitialised state count buffer) c ↔ c.len + 64 < 2 ^ 32) :=
  ⟨chunked_right_iff state count buffer chunks, once_right_iff state count buffer c⟩

/-- The digest of `abc`, given as `a` and `bc`. -/
example : chunked 2 (uninitialised ⟨1, 2, 3, 4⟩ 5 fun _ => 6)
    [⟨fun _ => 0x61, 1, by norm_num⟩, ⟨fun i => 0x62 + BitVec.ofNat 8 i, 2, by norm_num⟩] =
      some [0x90, 0x01, 0x50, 0x98, 0x3c, 0xd2, 0x4f, 0xb0, 0xd6,
        0x96, 0x3f, 0x7d, 0x28, 0xe1, 0x7f, 0x72] := by
  decide +kernel

def longest : Chunk := ⟨fun _ => 0, 2 ^ 32 - 1, by norm_num⟩

/-- The digest of 2^32 - 1 bytes is never done. -/
theorem not_digest_right : ¬ ∀ (state : Regs) (count : BitVec 64) (buffer : Fin 64 → Byte)
    (chunks : List Chunk) (c : Chunk),
    ChunkedRight (uninitialised state count buffer) chunks ∧
      OnceRight (uninitialised state count buffer) c := by
  intro h
  have honce := (h ⟨0, 0, 0, 0⟩ 0 (fun _ => 0) [] longest).2
  have hlt : longest.len + 64 < 2 ^ 32 := (once_right_iff _ _ _ _).1 honce
  exact absurd hlt (by norm_num [longest])

end Amr.Api.Md5
