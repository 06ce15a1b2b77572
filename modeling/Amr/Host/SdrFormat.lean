/-
# The bytes of a sensor repository

The format that `parse_sdr` reads, as the bytes of each value: a reader of `Amr.Host.Sdr` that
nothing goes wrong in has taken the bytes of its value off the buffer, and from the bytes of a
well-formed value it gives the value back.
-/
import Amr.Host.Sdr

namespace Amr.Host.Sdr

open ByteReader

def typeLen (type len : ℕ) : ℕ := type * 64 + len

theorem typeLen_split (b : ℕ) : typeLen (b >>> SDR_TYPE_POS) (b &&& SDR_LENGTH_MASK) = b := by
  have hmask : b &&& SDR_LENGTH_MASK = b % 64 := Nat.and_two_pow_sub_one_eq_mod b 6
  have hshift : b >>> SDR_TYPE_POS = b / 64 := Nat.shiftRight_eq_div_pow b 6
  unfold typeLen
  rw [hmask, hshift]
  omega

theorem typeLen_shift {t n : ℕ} (hn : n < 64) : typeLen t n >>> SDR_TYPE_POS = t := by
  have hshift : typeLen t n >>> SDR_TYPE_POS = typeLen t n / 64 :=
    Nat.shiftRight_eq_div_pow _ 6
  rw [hshift]
  unfold typeLen
  omega

theorem typeLen_mask {t n : ℕ} (hn : n < 64) : typeLen t n &&& SDR_LENGTH_MASK = n := by
  have hmask : typeLen t n &&& SDR_LENGTH_MASK = typeLen t n % 64 :=
    Nat.and_two_pow_sub_one_eq_mod _ 6
  rw [hmask]
  unfold typeLen
  omega

theorem mask_lt (b : ℕ) : b &&& SDR_LENGTH_MASK < 64 := by
  have hmask : b &&& SDR_LENGTH_MASK = b % 64 := Nat.and_two_pow_sub_one_eq_mod b 6
  omega

/-! ### Sensor records -/

/-- A threshold is there when the mask announces it. -/
def LimitOk (t mask len : ℕ) (l : List ℕ) : Prop :=
  if t &&& mask ≠ 0 then l.length = len ∧ len ≤ SDR_THRESHOLD_MAX_LEN else l = []

namespace sdr_record

def bytes (r : sdr_record) : List ℕ :=
  r.id :: typeLen r.name_type r.name_len :: (r.name ++
    typeLen r.value_type r.value_len :: (r.value ++
      typeLen r.unit_type r.unit_len :: (r.unit ++
        r.unit_mod :: r.threshold_support :: (r.lower_fatal_limit ++ (r.lower_crit_limit ++
          (r.lower_warn_limit ++ (r.upper_fatal_limit ++ (r.upper_crit_limit ++
            (r.upper_warn_limit ++ r.sensor_status :: (r.avg ++ r.max))))))))))

structure Valid (r : sdr_record) : Prop where
  name_len : r.name_len < 64
  name : r.name.length = r.name_len
  value_len : r.value_len < 64
  value : r.value.length = r.value_len
  unit_len : r.unit_len < 64
  unit : r.unit.length = r.unit_len
  lower_fatal : LimitOk r.threshold_support THRESHOLD_LOWER_FATAL_MASK r.value_len
    r.lower_fatal_limit
  lower_crit : LimitOk r.threshold_support THRESHOLD_LOWER_CRITICAL_MASK r.value_len
    r.lower_crit_limit
  lower_warn : LimitOk r.threshold_support THRESHOLD_LOWER_WARNING_MASK r.value_len
    r.lower_warn_limit
  upper_fatal : LimitOk r.threshold_support THRESHOLD_UPPER_FATAL_MASK r.value_len
    r.upper_fatal_limit
  upper_crit : LimitOk r.threshold_support THRESHOLD_UPPER_CRITICAL_MASK r.value_len
    r.upper_crit_limit
  upper_warn : LimitOk r.threshold_support THRESHOLD_UPPER_WARNING_MASK r.value_len
    r.upper_warn_limit
  avg : LimitOk r.threshold_support THRESHOLD_SENSOR_AVG_MASK r.value_len r.avg
  max : LimitOk r.threshold_support THRESHOLD_SENSOR_MAX_MASK r.value_len r.max

end sdr_record

theorem limit_gives (t mask len : ℕ) {f : List ℕ → Reader sdr_record}
    {S : List ℕ → sdr_record → Prop}
    (hf : ∀ l, Gives (f l) fun cs w => LimitOk t mask len l → S (l ++ cs) w) :
    Gives (limit t mask len >>= f) S := by
  unfold limit
  by_cases hmask : t &&& mask ≠ 0
  · rw [if_pos hmask]
    refine .copy_bind fun l => (hf l).mono fun cs w h hlen hroom => h ?_
    unfold LimitOk
    rw [if_pos hmask]
    exact ⟨hlen, hroom⟩
  · rw [if_neg hmask, pure_bind]
    refine (hf []).mono fun cs w h => h ?_
    unfold LimitOk
    rw [if_neg hmask]

theorem limit_reads {t mask len : ℕ} {l : List ℕ} (h : LimitOk t mask len l) :
    Reads (limit t mask len) l l := by
  unfold LimitOk at h
  unfold limit
  split_ifs at h ⊢
  · exact Reads.copy h.1 h.2
  · rw [h]
    exact Reads.pure []

theorem record_gives : Gives record fun bs r => bs = r.bytes ∧ r.Valid := by
  unfold record
  refine .byte_bind fun id => .byte_bind fun b => .copy_bind fun name => ?_
  refine .byte_bind fun c => .copy_bind fun value => ?_
  refine .byte_bind fun d => .copy_bind fun unit => ?_
  refine .byte_bind fun unit_mod => .byte_bind fun t => ?_
  refine limit_gives _ _ _ fun lf => limit_gives _ _ _ fun lc => limit_gives _ _ _ fun lw => ?_
  refine limit_gives _ _ _ fun uf => limit_gives _ _ _ fun uc => limit_gives _ _ _ fun uw => ?_
  refine .byte_bind fun status => limit_gives _ _ _ fun avg => limit_gives _ _ _ fun max => ?_
  refine .pure fun hmax havg huw huc huf hlw hlc hlf hunit _ hvalue _ hname _ => ⟨?_, ?_⟩
  · simp [sdr_record.bytes, typeLen_split]
  · exact ⟨mask_lt b, hname, mask_lt c, hvalue, mask_lt d, hunit, hlf, hlc, hlw, huf, huc, huw,
      havg, hmax⟩

theorem record_reads {r : sdr_record} (h : r.Valid) : Reads record r.bytes r := by
  have hroom : ∀ {n : ℕ}, n < 64 → n ≤ SDR_VALUE_MAX_LEN := fun hn => by
    unfold SDR_VALUE_MAX_LEN
    omega
  unfold record sdr_record.bytes
  refine .byte_bind (.byte_bind ?_)
  rw [typeLen_mask h.name_len, typeLen_shift h.name_len]
  refine .copy_bind h.name (hroom h.name_len) (.byte_bind ?_)
  rw [typeLen_mask h.value_len, typeLen_shift h.value_len]
  refine .copy_bind h.value (hroom h.value_len) (.byte_bind ?_)
  rw [typeLen_mask h.unit_len, typeLen_shift h.unit_len]
  refine .copy_bind h.unit (hroom h.unit_len) (.byte_bind (.byte_bind ?_))
  refine (limit_reads h.lower_fatal).bind ((limit_reads h.lower_crit).bind ?_)
  refine (limit_reads h.lower_warn).bind ((limit_reads h.upper_fatal).bind ?_)
  refine (limit_reads h.upper_crit).bind ((limit_reads h.upper_warn).bind (.byte_bind ?_))
  refine (limit_reads h.avg).bind ?_
  exact (limit_reads h.max).bind_last (Reads.pure _)

/-! ### Board information -/

def field_info.image (v : field_info) : List ℕ := v.type :: v.len :: v.bytes.take v.len

/-- The length is that of the data; a power mode without data is marked. -/
structure field_info.Valid (f : BdField) (v : field_info) : Prop where
  len : v.len ≤ SDR_VALUE_MAX_LEN
  bytes : if f = .power_mode ∧ v.len = 0 then v.bytes = [DEFAULT_BDINFO_POWER]
    else v.bytes.length = v.len

theorem info_gives (f : BdField) : Gives (info f) fun bs v => bs = v.image ∧ v.Valid f := by
  unfold info
  refine .byte_bind fun type => .byte_bind fun len => .copy_bind fun bytes => ?_
  refine .pure fun hlen hroom => ⟨?_, hroom, ?_⟩
  · unfold field_info.image
    by_cases hdefault : f = .power_mode ∧ len = 0
    · obtain rfl : bytes = [] := List.eq_nil_of_length_eq_zero (hlen.trans hdefault.2)
      simp [hdefault.2]
    · rw [if_neg hdefault, List.take_of_length_le hlen.le, List.append_nil]
  · split_ifs
    · rfl
    · exact hlen

theorem info_reads {f : BdField} {v : field_info} (h : v.Valid f) : Reads (info f) v.image v := by
  have htake : (v.bytes.take v.len).length = v.len := by
    rw [List.length_take]
    have hbytes := h.bytes
    split_ifs at hbytes with hdefault
    · rw [hdefault.2, Nat.zero_min]
    · rw [hbytes, Nat.min_self]
  have hval : (⟨v.type, v.len, if f = .power_mode ∧ v.len = 0 then [DEFAULT_BDINFO_POWER]
      else v.bytes.take v.len⟩ : field_info) = v := by
    have hbytes := h.bytes
    split_ifs at hbytes ⊢ with hdefault
    · rw [← hbytes]
    · rw [List.take_of_length_le hbytes.le]
  unfold info field_info.image
  refine .byte_bind (.byte_bind ?_)
  refine (Reads.copy htake h.len).bind_last ?_
  rw [hval]
  exact Reads.pure v

theorem infos_gives (fs : List BdField) :
    Gives (infos fs) fun bs vs => bs = vs.flatMap field_info.image ∧
      List.Forall₂ field_info.Valid fs vs := by
  induction fs with
  | nil => exact .pure ⟨rfl, .nil⟩
  | cons f fs ih =>
    refine (info_gives f).bind fun v => ih.bind fun vs => .pure ?_
    rintro cs ⟨rfl, hvs⟩ bs ⟨rfl, hv⟩
    exact ⟨by simp, .cons hv hvs⟩

theorem infos_reads {fs : List BdField} {vs : List field_info}
    (h : List.Forall₂ field_info.Valid fs vs) :
    Reads (infos fs) (vs.flatMap field_info.image) vs := by
  induction h with
  | nil => exact Reads.pure []
  | cons hv _ ih => exact (info_reads hv).bind (ih.bind_last (Reads.pure _))

/-! ### Flash partition tables -/

def fpt_header.image (v : fpt_header) : List ℕ :=
  [v.version, v.header_size, v.entry_size, v.num_entries]

namespace fpt_partition

def image (v : fpt_partition) : List ℕ :=
  v.type ++ (v.base_addr ++ (v.size ++ (v.pdi_md5 ++ (v.pdi_size ++ v.flags))))

/-- The lengths are those of the members. -/
structure Valid (v : fpt_partition) : Prop where
  type : v.type.length = 4
  base_addr : v.base_addr.length = 4
  size : v.size.length = 4
  pdi_md5 : v.pdi_md5.length = MD5_SIZE
  pdi_size : v.pdi_size.length = 4
  flags : v.flags.length = 4

end fpt_partition

theorem fptHeader_gives : Gives fptHeader fun bs v => bs = v.image := by
  unfold fptHeader
  exact .byte_bind fun _ => .byte_bind fun _ => .byte_bind fun _ => .byte_bind fun _ => .pure rfl

theorem fptHeader_reads (v : fpt_header) : Reads fptHeader v.image v := fun _ => rfl

theorem partition_gives : Gives partition fun bs v => bs = v.image ∧ v.Valid := by
  unfold partition
  refine .copy_bind fun type => .copy_bind fun base => .copy_bind fun size => ?_
  refine .copy_bind fun md5 => .copy_bind fun pdi => .copy_bind fun flags => .pure ?_
  intro hflags _ hpdi _ hmd5 _ hsize _ hbase _ htype _
  exact ⟨by simp [fpt_partition.image], htype, hbase, hsize, hmd5, hpdi, hflags⟩

theorem partition_reads {v : fpt_partition} (h : v.Valid) : Reads partition v.image v := by
  unfold partition fpt_partition.image
  refine .copy_bind h.type le_rfl (.copy_bind h.base_addr le_rfl ?_)
  refine .copy_bind h.size le_rfl (.copy_bind h.pdi_md5 le_rfl ?_)
  refine .copy_bind h.pdi_size le_rfl ?_
  exact (Reads.copy h.flags le_rfl).bind_last (Reads.pure v)

/-! ### Repositories -/

/-- The bytes of the end of a repository. -/
def EOR : List ℕ := [0x45, 0x4E, 0x44]

theorem collect_gives {α : Type} {p : Reader α} {image : α → List ℕ} {Valid : α → Prop}
    (hp : Gives p fun bs v => bs = image v ∧ Valid v) (n : ℕ) :
    Gives (collect (fun _ => p) n) fun bs l =>
      bs = l.flatMap image ∧ l.length = n ∧ ∀ v ∈ l, Valid v := by
  refine (Gives.collect (fun _ => hp) n).mono fun bs l => ?_
  rintro ⟨bss, rfl, hlen, hall⟩
  refine ⟨?_, hlen, ?_⟩
  · clear hlen
    induction hall with
    | nil => rfl
    | cons h _ ih => rw [List.flatten_cons, List.flatMap_cons, ih, h.1]
  · clear hlen
    induction hall with
    | nil => exact fun v hv => absurd hv List.not_mem_nil
    | cons h _ ih => exact List.forall_mem_cons.mpr ⟨h.2, ih⟩

theorem eor_iff {a b c : ℕ} (ha : a < 256) (hb : b < 256) (hc : c < 256) :
    (a <<< 16) ||| (b <<< 8) ||| c = SDR_EOR ↔ [a, b, c] = EOR := by
  have hlow : (b <<< 8) ||| c = b <<< 8 + c := (Nat.shiftLeft_add_eq_or_of_lt hc b).symm
  have hmid : b <<< 8 + c < 2 ^ 16 := by
    rw [Nat.shiftLeft_eq]
    omega
  have hval : (a <<< 16) ||| (b <<< 8) ||| c = a <<< 16 + (b <<< 8 + c) := by
    rw [Nat.lor_assoc, hlow]
    exact (Nat.shiftLeft_add_eq_or_of_lt hmid a).symm
  rw [hval, Nat.shiftLeft_eq, Nat.shiftLeft_eq]
  simp only [EOR, List.cons.injEq, and_true, SDR_EOR]
  omega

theorem endOfRepo_gives : Gives endOfRepo fun bs v =>
    (∀ b ∈ bs, b < 256) → (v = SDR_EOR ↔ bs = EOR) := by
  unfold endOfRepo
  refine .byte_bind fun a => .byte_bind fun b => .byte_bind fun c => .pure fun hlt => ?_
  exact eor_iff (hlt a (by simp)) (hlt b (by simp)) (hlt c (by simp))

theorem endOfRepo_reads : Reads endOfRepo EOR SDR_EOR := fun _ => rfl

end Amr.Host.Sdr
