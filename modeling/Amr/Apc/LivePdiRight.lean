/-
# When loading a live image is right

`iDownloadPdiImage` of `fw/AMC/src/proxy_drivers/apc/apc_proxy_driver.c`, over every image and the
chunks that the host sends for it, whatever RAM held, however a chunk fares and whatever the calls
of the platform return.

A last packet is to be reported complete only when the loader ran on the image, after the power-down
that the target needs. Without an instance of the loader the status stays OK, and that of a failed
power-down is overwritten by the loader's. Nothing bounds the place of a chunk either: an image of
more than 96 MB leaves the staging area.
-/
import Amr.Apc.LivePdi

namespace Amr.Apc.LivePdi

open ByteStore

/-! ### What a report promises -/

/-- The chunk is placed at its number times the packet size, in the staging area. -/
def Placed (m : APCMboxDownloadImage) : Prop :=
  (ulDestAddr m).toNat = m.usPacketNum.toNat * (m.ulPacketSize.toNat * APC_BASE_PACKET_SIZE.toNat) ∧
    (ulDestAddr m).toNat + m.ulImageSize.toNat ≤ stagingSize

def isLoad : Call → Bool
  | .XLoader_LoadPartialPdi _ _ => true
  | .XPm_ForcePowerDown _ _ => false

/-- There is a loader, the power-down that the target needs succeeded, and the loader was called
once, succeeded, and found the image in the staging area. -/
structure Loaded (pxXLoaderInst : Bool) (size : UInt32) (buf : Store) (r : Report) : Prop where
  loader : pxXLoaderInst = true
  rpu : r.message.iRpuPdiProgram = true → .XPm_ForcePowerDown RPU1_SUBSYSTEM OK ∈ r.handled.calls
  apu : r.message.iApuPdiProgram = true → .XPm_ForcePowerDown APU_SUBSYSTEM OK ∈ r.handled.calls
  once : ∃ ram, r.handled.calls.filter isLoad = [.XLoader_LoadPartialPdi ram OK] ∧
    read ram HAL_RPU_MEMORY_BUFFER_BASE.toNat size.toNat = read buf 0 size.toNat

/-- A report that is right: a chunk that is worked on is placed, and a last packet that is complete
was loaded. -/
structure Right (pxXLoaderInst : Bool) (size : UInt32) (buf : Store) (r : Report) : Prop where
  placed : r.handled.worked = true → Placed r.message
  loaded : r.message.iLastPacket = true → r.handled.complete = true →
    Loaded pxXLoaderInst size buf r

/-- The power-down that the target needs succeeds. -/
def powerDownOk : Target → Platform → Prop
  | .pdi, _ => True
  | .apu, p => p.powerDownApu = OK
  | .rpu, p => p.powerDownRpu1 = OK

/-- The message gets as far as the image. -/
def Fare.works (f : Fare) : Prop := f.posted = true ∧ f.started = true ∧ f.taken = true

/-- Up to the first chunk that is not worked on or not complete, each chunk lies in the first 96 MB
of the image; and should the events of the last packet be raised, there is a loader, and it succeeds
only when the power-down did. -/
def Meets (pxXLoaderInst : Bool) (t : Target) (ds : ℕ → Delivery) : ℕ → List Submission → Prop
  | _, [] => True
  | k, s :: l =>
    (ds k).fare.works →
      s.chunk.toNat * chunkBytes.toNat + s.payload.size.toNat ≤ stagingSize ∧
        (s.last = true → (ds k).fare.programStarted = true → (ds k).fare.finished = true →
          pxXLoaderInst = true ∧
            ((ds k).fare.platform.load = OK → powerDownOk t (ds k).fare.platform)) ∧
        (s.last = false → (ds k).fare.finished = true →
          Meets pxXLoaderInst t ds (k + 1) l)

/-! ### The flags -/

theorem flags_eq {chunk : UInt16} (h : chunk.toNat < 2 ^ 15) (last : Bool) :
    PDI_CHUNK (MK_PDI_FLAGS chunk last) = chunk ∧
      PDI_CHUNK_IS_LAST (MK_PDI_FLAGS chunk last) = last := by
  have hmod : chunk.toNat % 2 ^ 15 = chunk.toNat := Nat.mod_eq_of_lt h
  have hmask : (0x7FFF : UInt16).toNat = 2 ^ 15 - 1 := rfl
  have htop : (0x8000 : UInt16).toNat = 2 ^ 15 := rfl
  have hshift : chunk.toNat >>> 15 = 0 := by
    rw [Nat.shiftRight_eq_div_pow, Nat.div_eq_of_lt h]
  have hplaces : (15 : UInt16).toNat % 16 = 15 := rfl
  cases last with
  | true =>
    refine ⟨UInt16.toNat_inj.1 ?_, ?_⟩
    · rw [PDI_CHUNK, MK_PDI_FLAGS, if_pos rfl, UInt16.toNat_and, UInt16.toNat_or, hmask, htop,
        Nat.and_two_pow_sub_one_eq_mod, Nat.or_mod_two_pow, Nat.mod_self, Nat.or_zero, hmod]
    · have hone : (chunk ||| 0x8000) >>> 15 = 1 := by
        refine UInt16.toNat_inj.1 ?_
        rw [UInt16.toNat_shiftRight, UInt16.toNat_or, htop, hplaces, Nat.shiftRight_or_distrib,
          hshift]
        rfl
      rw [PDI_CHUNK_IS_LAST, MK_PDI_FLAGS, if_pos rfl, hone]
      rfl
  | false =>
    have hand : chunk &&& 0x7FFF = chunk := by
      refine UInt16.toNat_inj.1 ?_
      rw [UInt16.toNat_and, hmask, Nat.and_two_pow_sub_one_eq_mod, hmod]
    refine ⟨?_, ?_⟩
    · rw [PDI_CHUNK, MK_PDI_FLAGS, if_neg Bool.false_ne_true, hand, hand]
    · have hzero : chunk >>> 15 = 0 := by
        refine UInt16.toNat_inj.1 ?_
        rw [UInt16.toNat_shiftRight, hplaces, hshift]
        rfl
      rw [PDI_CHUNK_IS_LAST, MK_PDI_FLAGS, if_neg Bool.false_ne_true, hand, hzero]
      rfl

/-! ### The chunks of a live image -/

theorem chunkBytes_toNat : chunkBytes.toNat = 6291456 := by decide

/-- The `k`-th chunk, with `len` bytes of the image from `bw` on. -/
structure IsChunk (size k bw : ℕ) (offset len : UInt32) (s : Submission) : Prop where
  payload : s.payload = .image offset len
  chunk : s.chunk.toNat = k
  lt : k < 2 ^ 15
  place : k * chunkBytes.toNat = bw
  offset : offset.toNat = bw
  pos : 0 < len.toNat
  le : bw + len.toNat ≤ size
  last : s.last = true → bw + len.toNat = size

/-- The `k`-th chunk, `bw` bytes into the image, and those after it. -/
inductive Tail (size : ℕ) : ℕ → ℕ → List Submission → Prop
  | nil (k bw : ℕ) : Tail size k bw []
  | cons {k bw : ℕ} {s : Submission} {offset len : UInt32} {l : List Submission}
      (hs : IsChunk size k bw offset len s) (hrest : Tail size (k + 1) (bw + len.toNat) l) :
      Tail size k bw (s :: l)

theorem Tail.eq_nil {size k bw : ℕ} {l : List Submission} (h : Tail size k bw l)
    (hbw : size ≤ bw) : l = [] := by
  cases h with
  | nil => rfl
  | cons hs =>
    have := hs.pos
    have := hs.le
    omega

variable (size : UInt32)

theorem num_chunks_toNat :
    (num_chunks size).toNat =
      if size.toNat + 6291455 < 2 ^ 32 then (size.toNat + 6291455) / 6291456 else 0 := by
  have hlt : size.toNat < 2 ^ 32 := size.toNat_lt
  have hC : chunkBytes.toNat = 6291456 := chunkBytes_toNat
  have hC1 : (chunkBytes - 1).toNat = 6291455 := by decide
  rw [num_chunks, UInt32.toNat_toUInt16, UInt32.toNat_div, UInt32.toNat_add, hC, hC1]
  split_ifs with h
  · rw [Nat.mod_eq_of_lt h]
    omega
  · omega

theorem chunkLoop_tail (n : ℕ) :
    ∀ (chunk : UInt16) (bw : UInt32), bw.toNat ≤ size.toNat →
      (bw.toNat < size.toNat → chunk.toNat * chunkBytes.toNat = bw.toNat) →
        (chunkLoop size true n chunk bw false).2 = false ∧
          Tail size.toNat chunk.toNat bw.toNat (chunkLoop size true n chunk bw false).1 := by
  induction n with
  | zero => exact fun chunk bw _ _ => ⟨rfl, .nil _ _⟩
  | succ n ih =>
    intro chunk bw hle hplace
    have hsize : size.toNat < 2 ^ 32 := size.toNat_lt
    have hC := chunkBytes_toNat
    rw [chunkLoop]
    by_cases hlt : bw < size
    swap
    · rw [if_neg hlt]
      exact ⟨rfl, .nil _ _⟩
    have hlt' : bw.toNat < size.toNat := UInt32.lt_iff_toNat_lt.1 hlt
    have hchunk := hplace hlt'
    rw [hC] at hchunk
    have hsub : (size - bw).toNat = size.toNat - bw.toNat := UInt32.toNat_sub_of_le _ _ hle
    -- what this chunk carries
    obtain ⟨len, hlen, hlenv⟩ : ∃ len : UInt32,
        (if size - bw < chunkBytes then size - bw else chunkBytes) = len ∧
          len.toNat = min (size.toNat - bw.toNat) 6291456 := by
      refine ⟨_, rfl, ?_⟩
      by_cases hshort : size - bw < chunkBytes
      · have := UInt32.lt_iff_toNat_lt.1 hshort
        rw [if_pos hshort, hsub]
        omega
      · have : ¬ (size - bw).toNat < chunkBytes.toNat := fun h =>
          hshort (UInt32.lt_iff_toNat_lt.2 h)
        rw [if_neg hshort, hC]
        omega
    have hadd : (bw + len).toNat = bw.toNat + len.toNat := by
      rw [UInt32.toNat_add]
      exact Nat.mod_eq_of_lt (by omega)
    have hnext : (chunk + 1).toNat = chunk.toNat + 1 := by
      rw [UInt16.toNat_add, UInt16.toNat_one]
      exact Nat.mod_eq_of_lt (by omega)
    obtain ⟨hrewrite, htail⟩ := ih (chunk + 1) (bw + len) (by omega) (by rw [hnext, hC]; omega)
    rw [if_pos hlt]
    dsimp only
    rw [hlen, if_pos (Or.inl rfl)]
    refine ⟨hrewrite, ?_⟩
    rw [hadd, hnext] at htail
    refine .cons ⟨rfl, rfl, by omega, by rw [hC]; exact hchunk, rfl, by omega, by omega, ?_⟩ htail
    intro hlast
    have hnum : (chunk.toNat : ℤ) = (num_chunks size).toNat - 1 := by simpa using hlast
    rw [num_chunks_toNat] at hnum
    split_ifs at hnum <;> omega

theorem do_image_download_tail (t : Target) :
    Tail size.toNat 0 0 ((do_image_download size t.magic).getD []) := by
  by_cases hzero : size = 0
  · rw [do_image_download, if_pos hzero]
    exact .nil _ _
  · obtain ⟨hrewrite, htail⟩ := chunkLoop_tail size (maxRounds size) 0 0 (Nat.zero_le _)
      fun _ => rfl
    have hwhole : t.magic = FPT_UPDATE_MAGIC ∨ t.magic = PDI_PROGRAM_MAGIC ∨
        t.magic = PDI_APU_PROGRAM_MAGIC ∨ t.magic = PDI_RPU_PROGRAM_MAGIC := by
      cases t <;> decide
    rw [do_image_download, if_neg hzero]
    dsimp only
    rw [if_neg (fun h => h.1 hwhole), decide_eq_true hwhole, hrewrite, if_neg Bool.false_ne_true,
      List.append_nil]
    exact htail

/-! ### One chunk -/

/-- The staging area holds the first `n` bytes of the image. -/
def Staged (ram buf : Store) (n : ℕ) : Prop :=
  ∀ x < n, ram (HAL_RPU_MEMORY_BUFFER_BASE.toNat + x) = buf x

theorem base_toNat : HAL_RPU_MEMORY_BUFFER_BASE.toNat = 0x2000000 := by decide

variable {ram buf : Store}

theorem arrive_staging {s : Submission} {d : Delivery} {x : ℕ}
    (hx : InStaging x) : arrive ram buf s d x = ram x := by
  have hshared := d.shared
  have hend : x < 0x2000000 + 0x6000000 := hx.2
  rw [arrive, put_below _ _ (by unfold HAL_RPU_SHARED_MEMORY_BASEADDR at hshared; omega),
    if_pos hx]

theorem packet_toNat : PDI_CHUNK_SIZE.toNat * APC_BASE_PACKET_SIZE.toNat = chunkBytes.toNat := by
  decide

theorem message_fields (t : Target) {s : Submission} (hk : s.chunk.toNat < 2 ^ 15) (src : UInt32) :
    (message t s src).usPacketNum = s.chunk ∧ (message t s src).iLastPacket = s.last ∧
      isLive (message t s src) = true := by
  obtain ⟨hnum, hlast⟩ := flags_eq hk s.last
  refine ⟨hnum, hlast, ?_⟩
  cases t <;> rfl

section
variable {size k bw : ℕ} {offset len : UInt32} {s : Submission}
  (hs : IsChunk size k bw offset len s) (hsize : size < 2 ^ 32) (t : Target)
include hs hsize

theorem ulDestAddr_toNat (src : UInt32) : (ulDestAddr (message t s src)).toNat = bw := by
  have hle := hs.le
  have hpos := hs.pos
  have hplace := hs.place
  have hlt := hs.lt
  have hchunk := hs.chunk
  have hbytes : (PDI_CHUNK_SIZE * APC_BASE_PACKET_SIZE).toNat = chunkBytes.toNat := by decide
  have hnum := (message_fields t (by omega : s.chunk.toNat < 2 ^ 15) src).1
  have hdest : ulDestAddr (message t s src) =
      s.chunk.toUInt32 * (PDI_CHUNK_SIZE * APC_BASE_PACKET_SIZE) := by
    rw [ulDestAddr, hnum, message, Submission.request]
  rw [hdest, UInt32.toNat_mul, UInt16.toNat_toUInt32, hbytes, hchunk, hplace,
    Nat.mod_eq_of_lt (by omega)]

theorem placed_iff (src : UInt32) : Placed (message t s src) ↔
    s.chunk.toNat * chunkBytes.toNat + s.payload.size.toNat ≤ stagingSize := by
  have hlt := hs.lt
  have hchunk := hs.chunk
  have hnum := (message_fields t (by omega : s.chunk.toNat < 2 ^ 15) src).1
  have hpacket : (message t s src).ulPacketSize = PDI_CHUNK_SIZE := rfl
  have hlen : (message t s src).ulImageSize = s.payload.size := rfl
  unfold Placed
  rw [ulDestAddr_toNat hs hsize, hnum, hpacket, hlen, packet_toNat, hchunk, hs.place]
  exact and_iff_right rfl

theorem copyChunk_staged {d : Delivery} (hst : Staged ram buf bw)
    (hin : bw + len.toNat ≤ stagingSize) :
    Staged (copyChunk (arrive ram buf s d) (message t s d.ulSrcAddr)) buf (bw + len.toNat) := by
  have hin' : bw + len.toNat ≤ 0x6000000 := hin
  have hbase := base_toNat
  have hlen : (message t s d.ulSrcAddr).ulImageSize = len := by
    rw [message, Submission.request, hs.payload, Payload.size]
  have hsrc : (message t s d.ulSrcAddr).ulSrcAddr = d.ulSrcAddr := rfl
  -- what is copied is the chunk
  have hbytes : read (arrive ram buf s d) d.ulSrcAddr.toNat len.toNat =
      read buf bw len.toNat := by
    have h := read_put (fun x => if InStaging x then ram x else d.elsewhere x)
      d.ulSrcAddr.toNat (read buf offset.toNat len.toNat)
    rw [length_read, hs.offset] at h
    rw [arrive, hs.payload, Payload.bytes, hs.offset]
    exact h
  have hcopy : copyChunk (arrive ram buf s d) (message t s d.ulSrcAddr) =
      put (arrive ram buf s d) (HAL_RPU_MEMORY_BUFFER_BASE.toNat + bw)
        (read buf bw len.toNat) := by
    rw [copyChunk, hlen, hsrc, hbytes, UInt32.toNat_add, ulDestAddr_toNat hs hsize,
      Nat.mod_eq_of_lt (by omega)]
  intro x hx
  rw [hcopy]
  by_cases hbelow : x < bw
  · have hstaging : InStaging (HAL_RPU_MEMORY_BUFFER_BASE.toNat + x) :=
      ⟨by omega, by unfold stagingSize; omega⟩
    rw [put_below _ _ (by omega), arrive_staging hstaging]
    exact hst x hbelow
  · obtain ⟨j, rfl⟩ : ∃ j, x = bw + j := ⟨x - bw, by omega⟩
    have hj : j < (read buf bw len.toNat).length := by
      rw [length_read]
      omega
    rw [← Nat.add_assoc, put_inside _ hj, getElem_read]

end

/-! ### How a message fares -/

theorem not_complete_of_not_works (inst : Bool) (ram : Store) (m : APCMboxDownloadImage) {f : Fare}
    (h : ¬ f.works) :
    (iAPC_PdiProgram inst ram m f).worked = false ∧
      (iAPC_PdiProgram inst ram m f).complete = false := by
  unfold iAPC_PdiProgram
  by_cases hpost : m.ulImageSize = 0 ∨ f.posted = false
  · rw [if_pos hpost]
    exact ⟨rfl, rfl⟩
  rw [if_neg hpost]
  unfold programPdi
  cases hstarted : f.started with
  | false => exact ⟨rfl, rfl⟩
  | true =>
    cases htaken : f.taken with
    | false =>
      unfold raise Handled.complete
      cases hf : f.finished <;> simp
    | true =>
      have hposted : f.posted = true := by simpa using fun hf => hpost (Or.inr hf)
      exact absurd ⟨hposted, hstarted, htaken⟩ h

/-- A message that gets as far as the image: its chunk is copied, the calls are those of the last
packet, and it is complete when the events are raised and the status is OK. -/
theorem iAPC_PdiProgram_of_works (inst : Bool) (ram : Store) {m : APCMboxDownloadImage} {f : Fare}
    (h : f.works) (hsize : m.ulImageSize ≠ 0) (hpacket : m.ulPacketSize ≠ 0)
    (hlive : isLive m = true) :
    (iAPC_PdiProgram inst ram m f).ram = copyChunk ram m ∧
      (iAPC_PdiProgram inst ram m f).worked = true ∧
      (iAPC_PdiProgram inst ram m f).calls =
        (if m.iLastPacket && inst then loadCalls (copyChunk ram m) m f.platform else []) ∧
      ((iAPC_PdiProgram inst ram m f).complete = true ↔ f.finished = true ∧
        (m.iLastPacket = true → f.programStarted = true ∧
          (inst = true → f.platform.load = OK))) := by
  obtain ⟨hposted, hstarted, htaken⟩ := h
  have hpost : ¬ (m.ulImageSize = 0 ∨ f.posted = false) := by
    rw [hposted]
    exact fun h => h.elim hsize nofun
  unfold iAPC_PdiProgram
  rw [if_neg hpost]
  unfold programPdi iDownloadPdiImage Handled.complete raise
  rw [hstarted, htaken, hlive, if_neg hpacket]
  cases m.iLastPacket with
  | false => cases hf : f.finished <;> simp [OK]
  | true =>
    cases inst with
    | false => cases hf : f.finished <;> cases hp : f.programStarted <;> simp [OK]
    | true =>
      by_cases hload : f.platform.load = OK <;> cases hf : f.finished <;>
        cases hp : f.programStarted <;> simp [hload]

variable {inst : Bool}

/-- With the image in the staging area, a last packet is loaded when there is a loader and it and
the power-down succeed. -/
theorem loaded_iff {size : UInt32} {buf ram : Store} {t : Target} {s : Submission}
    {src : UInt32} {p : Platform} {h : Handled}
    (hram : read ram HAL_RPU_MEMORY_BUFFER_BASE.toNat size.toNat = read buf 0 size.toNat)
    (hcalls : h.calls = if inst then loadCalls ram (message t s src) p else []) :
    Loaded inst size buf ⟨message t s src, h⟩ ↔
      inst = true ∧ p.load = OK ∧ powerDownOk t p := by
  cases inst with
  | false => exact iff_of_false (fun h => nomatch h.loader) fun h => nomatch h.1
  | true =>
    rw [if_pos rfl] at hcalls
    have honce : h.calls.filter isLoad = [.XLoader_LoadPartialPdi ram p.load] := by
      rw [hcalls]
      cases t <;> rfl
    refine ⟨fun hl => ?_, fun ⟨_, hload, hpower⟩ => ?_⟩
    · obtain ⟨ram', hfilter, -⟩ := hl.once
      rw [honce] at hfilter
      have hload : p.load = OK :=
        (Call.XLoader_LoadPartialPdi.inj (List.head_eq_of_cons_eq hfilter)).2
      refine ⟨rfl, hload, ?_⟩
      cases t with
      | pdi => trivial
      | apu =>
        have hmem := hl.apu rfl
        rw [hcalls] at hmem
        have hpower : OK = p.powerDownApu := by simpa [loadCalls, message] using hmem
        exact hpower.symm
      | rpu =>
        have hmem := hl.rpu rfl
        rw [hcalls] at hmem
        have hpower : OK = p.powerDownRpu1 := by simpa [loadCalls, message] using hmem
        exact hpower.symm
    · refine ⟨rfl, fun hrpu => ?_, fun hapu => ?_, ram, by rw [honce, hload], hram⟩
      · have ht : t = .rpu := of_decide_eq_true hrpu
        subst ht
        have hpower' : p.powerDownRpu1 = OK := hpower
        rw [hcalls, ← hpower']
        simp [loadCalls, message]
      · have ht : t = .apu := of_decide_eq_true hapu
        subst ht
        have hpower' : p.powerDownApu = OK := hpower
        rw [hcalls, ← hpower']
        simp [loadCalls, message]

theorem Staged.read_eq {n : ℕ} (h : Staged ram buf n) :
    read ram HAL_RPU_MEMORY_BUFFER_BASE.toNat n = read buf 0 n := by
  refine List.ext_getElem (by simp) fun j hj _ => ?_
  rw [length_read] at hj
  rw [getElem_read, getElem_read, h j hj, Nat.zero_add]

/-! ### Every session -/

theorem handled_of_works {size k bw : ℕ} {offset len : UInt32} {s : Submission}
    (hs : IsChunk size k bw offset len s) (inst : Bool) (t : Target) (ram : Store) {d : Delivery}
    (hworks : d.fare.works) :
    (iAPC_PdiProgram inst ram (message t s d.ulSrcAddr) d.fare).ram =
        copyChunk ram (message t s d.ulSrcAddr) ∧
      (iAPC_PdiProgram inst ram (message t s d.ulSrcAddr) d.fare).worked = true ∧
      (iAPC_PdiProgram inst ram (message t s d.ulSrcAddr) d.fare).calls =
        (if s.last && inst then
          loadCalls (copyChunk ram (message t s d.ulSrcAddr)) (message t s d.ulSrcAddr)
            d.fare.platform
        else []) ∧
      ((iAPC_PdiProgram inst ram (message t s d.ulSrcAddr) d.fare).complete = true ↔
        d.fare.finished = true ∧ (s.last = true → d.fare.programStarted = true ∧
          (inst = true → d.fare.platform.load = OK))) := by
  have hlt := hs.lt
  have hchunk := hs.chunk
  obtain ⟨-, hmark, hlive⟩ := message_fields t (by omega : s.chunk.toNat < 2 ^ 15) d.ulSrcAddr
  have hlen : (message t s d.ulSrcAddr).ulImageSize = len := by
    rw [message, Submission.request, hs.payload, Payload.size]
  have hempty : (message t s d.ulSrcAddr).ulImageSize ≠ 0 := by
    rw [hlen]
    rintro rfl
    exact absurd hs.pos (by decide)
  have hpacket : PDI_CHUNK_SIZE ≠ 0 := by decide
  have h := iAPC_PdiProgram_of_works inst ram hworks hempty hpacket hlive
  rwa [hmark] at h

theorem right_iff {size : UInt32} {buf : Store} {m : APCMboxDownloadImage}
    {h : Handled} : Right inst size buf ⟨m, h⟩ ↔ (h.worked = true → Placed m) ∧
      (m.iLastPacket = true → h.complete = true → Loaded inst size buf ⟨m, h⟩) :=
  ⟨fun hr => ⟨hr.placed, hr.loaded⟩, fun hr => ⟨hr.1, hr.2⟩⟩

/-- A last packet in its place, with all of the image in the staging area: its report is right when
there is a loader, and it succeeds only when the power-down did. -/
theorem right_last_iff {t : Target} {size : UInt32} {buf ram : Store}
    {s : Submission} {src : UInt32} {f : Fare} {h : Handled}
    (hplaced : Placed (message t s src)) (hmark : (message t s src).iLastPacket = true)
    (hram : read ram HAL_RPU_MEMORY_BUFFER_BASE.toNat size.toNat = read buf 0 size.toNat)
    (hcalls : h.calls = if inst then loadCalls ram (message t s src) f.platform else [])
    (hcomplete : h.complete = true ↔ f.finished = true ∧ f.programStarted = true ∧
      (inst = true → f.platform.load = OK)) :
    Right inst size buf ⟨message t s src, h⟩ ↔
      (f.programStarted = true → f.finished = true →
        inst = true ∧ (f.platform.load = OK → powerDownOk t f.platform)) := by
  rw [right_iff, and_iff_right fun _ => hplaced, loaded_iff hram hcalls, hcomplete]
  refine ⟨fun hr hstarted hfinished => ?_, fun hr _ ⟨hfinished, hstarted, hload⟩ => ?_⟩
  · have hdone : (inst = true → f.platform.load = OK) →
        inst = true ∧ f.platform.load = OK ∧ powerDownOk t f.platform :=
      fun hload => hr hmark ⟨hfinished, hstarted, hload⟩
    have hinst : inst = true := by
      by_contra hno
      exact hno (hdone fun hyes => absurd hyes hno).1
    exact ⟨hinst, fun hload => (hdone fun _ => hload).2.2⟩
  · obtain ⟨hinst, hpower⟩ := hr hstarted hfinished
    exact ⟨hinst, hload hinst, hpower (hload hinst)⟩

theorem session_right_iff {t : Target} {size : UInt32} {buf : Store}
    {ds : ℕ → Delivery} {k bw : ℕ} {l : List Submission} (h : Tail size.toNat k bw l) :
    ∀ {i : ℕ} {ram : Store}, Staged ram buf bw →
      ((∀ r ∈ session inst t buf ds i ram l, Right inst size buf r) ↔ Meets inst t ds i l) := by
  have hsize : size.toNat < 2 ^ 32 := size.toNat_lt
  induction h with
  | nil => exact fun _ => iff_of_true (List.forall_mem_nil _) trivial
  | @cons k bw s offset len l hs hrest ih =>
    intro i ram hst
    have hlt := hs.lt
    have hchunk := hs.chunk
    have hmark := (message_fields t (by omega : s.chunk.toNat < 2 ^ 15) (ds i).ulSrcAddr).2.1
    have hplaced := placed_iff hs hsize t (ds i).ulSrcAddr
    have hidle : ¬ (ds i).fare.works → _ := not_complete_of_not_works inst
      (arrive ram buf s (ds i)) (message t s (ds i).ulSrcAddr)
    have hdo : (ds i).fare.works → _ := handled_of_works hs inst t (arrive ram buf s (ds i))
    have hstaged := copyChunk_staged hs hsize t (d := ds i) hst
    rw [session, Meets, List.forall_mem_cons]
    generalize iAPC_PdiProgram inst (arrive ram buf s (ds i)) (message t s (ds i).ulSrcAddr)
      (ds i).fare = outcome at hidle hdo ⊢
    by_cases hworks : (ds i).fare.works
    swap
    · -- nothing is done, and nothing more is sent
      obtain ⟨hworked, hnot⟩ := hidle hworks
      rw [hnot, if_neg Bool.false_ne_true, right_iff, hworked, hnot]
      exact iff_of_true ⟨⟨fun h => absurd h Bool.false_ne_true,
        fun _ h => absurd h Bool.false_ne_true⟩, List.forall_mem_nil _⟩ fun h => absurd h hworks
    obtain ⟨hram, hworked, hcalls, hcomplete⟩ := hdo hworks
    by_cases hin : s.chunk.toNat * chunkBytes.toNat + s.payload.size.toNat ≤ stagingSize
    swap
    · -- the chunk leaves the staging area
      rw [right_iff, hworked, hplaced]
      exact iff_of_false (fun h => hin (h.1.1 rfl)) fun h => hin (h hworks).1
    have hst' := hstaged (by
      have hpay : s.payload.size = len := by rw [hs.payload, Payload.size]
      rwa [hchunk, hs.place, hpay] at hin)
    by_cases hlast : s.last = true
    · -- the last packet, with all of the image in the staging area
      have hall := hs.last hlast
      obtain rfl : l = [] := hrest.eq_nil (le_of_eq hall.symm)
      rw [hall] at hst'
      rw [hlast, Bool.true_and] at hcalls
      rw [right_last_iff (f := (ds i).fare) (hplaced.2 hin) (hmark.trans hlast) hst'.read_eq hcalls
        (hcomplete.trans (and_congr_right fun _ => ⟨fun h => h hlast, fun h _ => h⟩))]
      refine ⟨fun h _ => ⟨hin, fun _ => h.1, fun h' => ?_⟩, fun h => ⟨(h hworks).2.1 hlast, ?_⟩⟩
      · exact absurd (h'.symm.trans hlast) Bool.false_ne_true
      · have hnone : session inst t buf ds (i + 1) outcome.ram [] = [] := rfl
        rw [hnone, ite_self]
        exact List.forall_mem_nil _
    · -- the packets before it
      have hright : Right inst size buf ⟨message t s (ds i).ulSrcAddr, outcome⟩ :=
        right_iff.2 ⟨fun _ => hplaced.2 hin, fun h => absurd (hmark.symm.trans h) hlast⟩
      have hfin := hcomplete.trans (and_iff_left fun h => absurd h hlast)
      rw [and_iff_right hright]
      by_cases hfinished : (ds i).fare.finished = true
      · rw [if_pos (hfin.2 hfinished), hram]
        exact (ih hst').trans ⟨fun h _ => ⟨hin, fun h' => absurd h' hlast, fun _ _ => h⟩,
          fun h => (h hworks).2.2 (Bool.eq_false_iff.2 hlast) hfinished⟩
      · rw [if_neg fun h => hfinished (hfin.1 h)]
        exact iff_of_true (List.forall_mem_nil _) fun _ =>
          ⟨hin, fun h' => absurd h' hlast, fun _ h => absurd h hfinished⟩

/-- **The reports on a live image are right exactly when the session meets the condition:** for
every image, target and prior contents of RAM, however the chunks fare and whatever the calls of the
platform return. -/
theorem live_right_iff (inst : Bool) (t : Target) (size : UInt32) (buf ram : Store)
    (ds : ℕ → Delivery) :
    (∀ r ∈ reports inst t size buf ds ram, Right inst size buf r) ↔
      Meets inst t ds 0 ((do_image_download size t.magic).getD []) :=
  session_right_iff (do_image_download_tail size t) nofun

/-- Every call and every event goes well. -/
def smooth : Delivery :=
  ⟨fun _ => 0, 0x10001000, by decide, ⟨true, true, true, ⟨OK, OK, OK⟩, true, true⟩⟩

/-- Without an instance of the loader an image of one byte is reported complete. -/
theorem not_live_right : ¬ ∀ (inst : Bool) (t : Target) (size : UInt32) (buf ram : Store)
    (ds : ℕ → Delivery), ∀ r ∈ reports inst t size buf ds ram, Right inst size buf r := by
  intro h
  have hchunks : (do_image_download 1 Target.pdi.magic).getD [] =
      [⟨0, true, .image 0 1⟩] := by decide
  have hmeets := (session_right_iff (do_image_download_tail 1 .pdi) nofun).1
    (h false .pdi 1 (fun _ => 0) (fun _ => 0) fun _ => smooth)
  rw [hchunks] at hmeets
  have hloader := ((hmeets ⟨rfl, rfl, rfl⟩).2.1 rfl rfl rfl).1
  exact absurd hloader Bool.false_ne_true

end Amr.Apc.LivePdi
