/-
# What a verification of a download tells

`iVerifyDownload` of `fw/AMC/src/proxy_drivers/apc/apc_proxy_driver.c`, over any behaviour of the
flash interface.

`Amr.Apc.Download` verifies against a device whose reads go through whole or fail. Here a read
may also hand over fewer bytes than it is asked for, and each read may answer as it likes. The loop
keeps the chunks it was handed with the addresses they were asked at, so that what was read is
known next to the status.

The loop moves on by the bytes it was handed, so the chunks follow each other from the destination
on and no byte is left out or compared twice. A read that hands over nothing is tried again at the
same place without end, and an image without bytes leaves the status that the function starts with.
`verify_download_iff` says that nothing else goes wrong.
-/
import Amr.Apc.Download
import Amr.Lib.Ranking

namespace Amr.Apc.Verification

open ByteStore Bench

inductive FlashRead
  /-- The interface reports an error. -/
  | failed
  /-- The interface hands over `bs`. -/
  | delivered (bs : List UInt8)
  deriving DecidableEq, Repr

/-- The bytes in the buffer behind a read of `ulLength` bytes: the interface hands over no more
than it was asked for. -/
def FlashRead.bytes (r : FlashRead) (ulLength : ℕ) : List UInt8 :=
  match r with
  | .failed => []
  | .delivered bs => bs.take ulLength

theorem FlashRead.length_bytes_le (r : FlashRead) (ulLength : ℕ) :
    (r.bytes ulLength).length ≤ ulLength := by
  cases r with
  | failed => exact Nat.zero_le _
  | delivered bs => exact List.length_take_le _ _

/-- How a read at an address and of a length comes out. -/
abbrev Reader := UInt32 → ℕ → FlashRead

/-- The variables of the loop, and the chunks handed over so far with their addresses. -/
structure Loop where
  ulDestOffset : UInt32
  pucSrcOffset : ℕ
  ulRemLen : UInt32
  iStatus : Status
  chunks : List (UInt32 × List UInt8)

/-- The number of bytes of the next chunk. -/
def ulVerLen (ulRemLen : ℕ) : ℕ :=
  if ulRemLen < APC_COPY_CHUNK_LEN.toNat then ulRemLen else APC_COPY_CHUNK_LEN.toNat

/-- The loop over the reads given; it is still running when they do not suffice. -/
def verify (ram : Store) : List Reader → Loop → Loop × Status
  | [], v => (v, if v.ulRemLen = 0 then v.iStatus else .running)
  | r :: reads, v =>
    if v.ulRemLen = 0 then (v, v.iStatus)
    else
      let bs := (r v.ulDestOffset (ulVerLen v.ulRemLen.toNat)).bytes (ulVerLen v.ulRemLen.toNat)
      if 0 < bs.length then
        if bs = read ram v.pucSrcOffset bs.length then
          verify ram reads
            { ulDestOffset := v.ulDestOffset + .ofNat bs.length
              pucSrcOffset := v.pucSrcOffset + bs.length
              ulRemLen := v.ulRemLen - .ofNat bs.length
              iStatus := .OK
              chunks := v.chunks ++ [(v.ulDestOffset, bs)] }
        else ({ v with chunks := v.chunks ++ [(v.ulDestOffset, bs)] }, .ERROR)
      -- a read that fails or hands over nothing is logged and tried again
      else verify ram reads v

/-- `iVerifyDownload`; `base` is the address of the partition, and 0 for a table. -/
def iVerifyDownload (ram : Store) (x : APCMboxDownloadImage) (base : UInt32)
    (reads : List Reader) : Loop × Status :=
  verify ram reads ⟨packetOffset x + base, x.ulSrcAddr.toNat, x.ulImageSize, .ERROR, []⟩

/-! ### What the verification is for -/

/-- The chunks lie in a row from `dest` on. -/
def InRow : UInt32 → List (UInt32 × List UInt8) → Prop
  | _, [] => True
  | dest, c :: cs => c.1 = dest ∧ InRow (dest + .ofNat c.2.length) cs

def bytesRead (cs : List (UInt32 × List UInt8)) : List UInt8 := cs.flatMap Prod.snd

/-- The `len` bytes from `dest` on were read from flash and are those of RAM from `src` on. -/
def Verified (ram : Store) (dest : UInt32) (src len : ℕ) (cs : List (UInt32 × List UInt8)) :
    Prop :=
  InRow dest cs ∧ bytesRead cs = read ram src len

/-- The first `n` reads of a device. -/
def firstReads (device : ℕ → Reader) (n : ℕ) : List Reader := (List.range n).map device

/-- The verification ends, and tells whether the image is in flash. -/
def Decides (device : ℕ → Reader) (ram : Store) (x : APCMboxDownloadImage) (base : UInt32) :
    Prop :=
  ∃ n, (iVerifyDownload ram x base (firstReads device n)).2 ≠ .running ∧
    ((iVerifyDownload ram x base (firstReads device n)).2 = .OK ↔
      Verified ram (packetOffset x + base) x.ulSrcAddr.toNat x.ulImageSize.toNat
        (iVerifyDownload ram x base (firstReads device n)).1.chunks)

/-! ### What a device hands over -/

/-- The bytes that reads hand over to one who asks for `len` bytes from `dest` on, chunk by chunk. -/
def handed : List Reader → UInt32 → ℕ → List UInt8
  | [], _, _ => []
  | r :: reads, dest, len =>
    let bs := (r dest (ulVerLen len)).bytes (ulVerLen len)
    bs ++ handed reads (dest + .ofNat bs.length) (len - bs.length)

/-- The bytes handed over by the first `n` reads. -/
abbrev handedBy (device : ℕ → Reader) (dest : UInt32) (len n : ℕ) : List UInt8 :=
  handed (firstReads device n) dest len

/-- As long as the bytes handed over agree with the image and some are missing, a read that hands
over something is still to come. -/
def Responsive (device : ℕ → Reader) (image : List UInt8) (dest : UInt32) : Prop :=
  ∀ k, handedBy device dest image.length k <+: image →
    handedBy device dest image.length k ≠ image →
    ∃ j, k ≤ j ∧
      (device j (dest + .ofNat (handedBy device dest image.length k).length)
        (ulVerLen (image.length - (handedBy device dest image.length k).length))).bytes
        (ulVerLen (image.length - (handedBy device dest image.length k).length)) ≠ []

theorem ulVerLen_le (n : ℕ) : ulVerLen n ≤ n := by
  unfold ulVerLen
  split_ifs <;> omega

variable (reads : List Reader)

theorem length_handed_le (dest : UInt32) (len : ℕ) :
    (handed reads dest len).length ≤ len := by
  induction reads generalizing dest len with
  | nil => exact Nat.zero_le _
  | cons r reads ih =>
    have hchunk := (r dest (ulVerLen len)).length_bytes_le (ulVerLen len)
    have hle := ulVerLen_le len
    have hrest := ih (dest + .ofNat ((r dest (ulVerLen len)).bytes (ulVerLen len)).length)
      (len - ((r dest (ulVerLen len)).bytes (ulVerLen len)).length)
    unfold handed
    rw [List.length_append]
    omega

theorem handed_zero (dest : UInt32) : handed reads dest 0 = [] :=
  List.length_eq_zero_iff.mp (Nat.le_zero.mp (length_handed_le reads dest 0))

theorem handed_concat (r : Reader) (dest : UInt32) (len : ℕ) :
    handed (reads ++ [r]) dest len =
      handed reads dest len ++
        (r (dest + .ofNat (handed reads dest len).length)
          (ulVerLen (len - (handed reads dest len).length))).bytes
          (ulVerLen (len - (handed reads dest len).length)) := by
  induction reads generalizing dest len with
  | nil => simp [handed]
  | cons a reads ih =>
    rw [List.cons_append, handed, ih]
    conv_rhs => rw [handed]
    rw [List.append_assoc, List.length_append]
    congr 2
    rw [UInt32.ofNat_add, UInt32.add_assoc, Nat.sub_sub]

theorem handedBy_succ (device : ℕ → Reader) (dest : UInt32) (len n : ℕ) :
    handedBy device dest len (n + 1) =
      handedBy device dest len n ++
        (device n (dest + .ofNat (handedBy device dest len n).length)
          (ulVerLen (len - (handedBy device dest len n).length))).bytes
          (ulVerLen (len - (handedBy device dest len n).length)) := by
  have hreads : firstReads device (n + 1) = firstReads device n ++ [device n] := by
    simp [firstReads, List.range_succ]
  rw [handedBy, hreads, handed_concat]

theorem handedBy_silent {device : ℕ → Reader} {dest : UInt32} {len k : ℕ}
    (h : ∀ j, k ≤ j →
      (device j (dest + .ofNat (handedBy device dest len k).length)
        (ulVerLen (len - (handedBy device dest len k).length))).bytes
        (ulVerLen (len - (handedBy device dest len k).length)) = []) (n : ℕ) :
    handedBy device dest len (k + n) = handedBy device dest len k := by
  induction n with
  | zero => rfl
  | succ n ih => rw [← Nat.add_assoc, handedBy_succ, ih, h _ (Nat.le_add_right k n),
      List.append_nil]

theorem handedBy_prefix (device : ℕ → Reader) (dest : UInt32) (len : ℕ) {k n : ℕ} (h : k ≤ n) :
    handedBy device dest len k <+: handedBy device dest len n := by
  induction n, h using Nat.le_induction with
  | base => exact List.prefix_rfl
  | succ n _ ih =>
    rw [handedBy_succ]
    exact ih.trans (List.prefix_append _ _)

/-- **A responsive device gets to a decision.** After some reads the bytes handed over are the
image, or they are no part of it. -/
theorem exists_settled {device : ℕ → Reader} {image : List UInt8} {dest : UInt32}
    (h : Responsive device image dest) :
    ∃ n, handedBy device dest image.length n = image ∨
      ¬ handedBy device dest image.length n <+: image := by
  by_contra hnever
  push Not at hnever
  -- the bytes missing get fewer until every read hands over nothing
  have hmono : ∀ k, image.length - (handedBy device dest image.length (k + 1)).length ≤
      image.length - (handedBy device dest image.length k).length := fun k => by
    have hpre := handedBy_prefix device dest image.length (Nat.le_add_right k 1)
    have hlen := hpre.length_le
    omega
  obtain ⟨N, hN⟩ := Ranking.eventually_eq
    (fun k => image.length - (handedBy device dest image.length k).length) hmono
  have hsame : ∀ k, N ≤ k → handedBy device dest image.length k =
      handedBy device dest image.length N := fun k hk => by
    have hpre := handedBy_prefix device dest image.length hk
    have hle : (handedBy device dest image.length k).length ≤ image.length :=
      length_handed_le _ _ _
    have hle' := hpre.length_le
    have hrank := hN k hk
    exact (hpre.eq_of_length (by omega)).symm
  obtain ⟨hne, hpre⟩ := hnever N
  obtain ⟨j, hj, hsome⟩ := h N hpre hne
  have hnext := handedBy_succ device dest image.length j
  rw [hsame j hj, hsame (j + 1) (by omega)] at hnext
  exact hsome (List.self_eq_append_right.mp hnext)

/-! ### The loop -/

theorem toNat_sub_ofNat {rem : UInt32} {n : ℕ} (h : n ≤ rem.toNat) :
    (rem - .ofNat n).toNat = rem.toNat - n := by
  have hlt := rem.toNat_lt
  have hn : (UInt32.ofNat n).toNat = n := UInt32.toNat_ofNat_of_lt' (by
    unfold UInt32.size
    omega)
  have hle : UInt32.ofNat n ≤ rem := UInt32.le_iff_toNat_le.mpr (by omega)
  rw [UInt32.toNat_sub_of_le _ _ hle, hn]

theorem read_split (ram : Store) (src : ℕ) {n len : ℕ} (h : n ≤ len) :
    read ram src len = read ram src n ++ read ram (src + n) (len - n) := by
  rw [read_append, Nat.add_sub_cancel' h]

theorem not_prefix_of_chunk {ram : Store} {src len : ℕ} {bs rest : List UInt8}
    (hle : bs.length ≤ len) (h : bs ≠ read ram src bs.length) :
    ¬ bs ++ rest <+: read ram src len := by
  rintro ⟨t, ht⟩
  rw [List.append_assoc, read_split ram src hle] at ht
  exact h (List.append_inj_left ht (by simp))

/-- **What the loop comes to.** The chunks of a loop lie in a row, and the status tells how the
bytes that the reads hand over compare with the image. -/
theorem verify_spec (ram : Store) (reads : List Reader) (v : Loop) :
    ∃ cs, (verify ram reads v).1.chunks = v.chunks ++ cs ∧ InRow v.ulDestOffset cs ∧
      (handed reads v.ulDestOffset v.ulRemLen.toNat = read ram v.pucSrcOffset v.ulRemLen.toNat →
        bytesRead cs = read ram v.pucSrcOffset v.ulRemLen.toNat ∧
          (verify ram reads v).2 = if v.ulRemLen = 0 then v.iStatus else .OK) ∧
      (¬ handed reads v.ulDestOffset v.ulRemLen.toNat <+:
          read ram v.pucSrcOffset v.ulRemLen.toNat →
        bytesRead cs ≠ read ram v.pucSrcOffset v.ulRemLen.toNat ∧
          (verify ram reads v).2 = .ERROR) ∧
      (handed reads v.ulDestOffset v.ulRemLen.toNat <+:
          read ram v.pucSrcOffset v.ulRemLen.toNat →
        handed reads v.ulDestOffset v.ulRemLen.toNat ≠
          read ram v.pucSrcOffset v.ulRemLen.toNat →
        (verify ram reads v).2 = .running) := by
  induction reads generalizing v with
  | nil =>
    refine ⟨[], by simp [verify], trivial, fun h => ?_, fun h => absurd List.nil_prefix h,
      fun _ hne => ?_⟩
    · have hzero : v.ulRemLen = 0 := by
        have hlen := congrArg List.length h
        simp only [handed, List.length_nil, length_read] at hlen
        exact UInt32.toNat_inj.mp hlen.symm
      refine ⟨h, ?_⟩
      rw [verify, if_pos hzero, if_pos hzero]
    · have hzero : v.ulRemLen ≠ 0 := by
        rintro hzero
        rw [hzero] at hne
        exact hne rfl
      rw [verify, if_neg hzero]
  | cons r reads ih =>
    by_cases hrem : v.ulRemLen = 0
    · have hverify : verify ram (r :: reads) v = (v, v.iStatus) := by rw [verify, if_pos hrem]
      have hnil : read ram v.pucSrcOffset v.ulRemLen.toNat = [] := by rw [hrem]; rfl
      have hhanded : handed (r :: reads) v.ulDestOffset v.ulRemLen.toNat = [] := by
        rw [hrem]
        exact handed_zero _ _
      rw [hverify, hnil, hhanded, if_pos hrem]
      exact ⟨[], by simp, trivial, fun _ => ⟨rfl, rfl⟩, fun h => absurd List.nil_prefix h,
        fun _ h => absurd rfl h⟩
    set bs := (r v.ulDestOffset (ulVerLen v.ulRemLen.toNat)).bytes (ulVerLen v.ulRemLen.toNat)
      with hbs
    have hle : bs.length ≤ v.ulRemLen.toNat :=
      (FlashRead.length_bytes_le _ _).trans (ulVerLen_le _)
    have hhanded : handed (r :: reads) v.ulDestOffset v.ulRemLen.toNat =
        bs ++ handed reads (v.ulDestOffset + .ofNat bs.length)
          (v.ulRemLen.toNat - bs.length) := rfl
    by_cases hpos : 0 < bs.length
    · by_cases heq : bs = read ram v.pucSrcOffset bs.length
      · -- the chunk agrees: the rest of the loop works on the rest of the image
        set w : Loop := ⟨v.ulDestOffset + .ofNat bs.length, v.pucSrcOffset + bs.length,
          v.ulRemLen - .ofNat bs.length, .OK, v.chunks ++ [(v.ulDestOffset, bs)]⟩ with hw
        have hverify : verify ram (r :: reads) v = verify ram reads w := by
          rw [verify, if_neg hrem]
          dsimp only
          rw [← hbs, if_pos hpos, if_pos heq]
        have hsub : w.ulRemLen.toNat = v.ulRemLen.toNat - bs.length := toNat_sub_ofNat hle
        have himage : read ram v.pucSrcOffset v.ulRemLen.toNat =
            bs ++ read ram w.pucSrcOffset w.ulRemLen.toNat := by
          rw [hsub, read_split ram _ hle, ← heq]
        rw [← hsub] at hhanded
        obtain ⟨cs, hcs, hrow, hall, hbad, hpart⟩ := ih w
        rw [hverify, hhanded, himage, if_neg hrem]
        refine ⟨(v.ulDestOffset, bs) :: cs, ?_, ⟨rfl, hrow⟩, fun h => ?_, fun h => ?_,
          fun h hne => ?_⟩
        · rw [hcs, hw, List.append_assoc, List.singleton_append]
        · obtain ⟨hread, hst⟩ := hall (List.append_cancel_left h)
          refine ⟨congrArg (bs ++ ·) hread, hst.trans ?_⟩
          exact ite_self _
        · obtain ⟨hread, hst⟩ := hbad fun hpre => h ((List.prefix_append_right_inj bs).mpr hpre)
          exact ⟨fun hsame => hread (List.append_cancel_left hsame), hst⟩
        · exact hpart ((List.prefix_append_right_inj bs).mp h)
            fun hsame => hne (congrArg (bs ++ ·) hsame)
      · -- the chunk differs
        have hverify : verify ram (r :: reads) v =
            ({ v with chunks := v.chunks ++ [(v.ulDestOffset, bs)] }, .ERROR) := by
          rw [verify, if_neg hrem]
          dsimp only
          rw [← hbs, if_pos hpos, if_neg heq]
        have hdiffers : ∀ rest, ¬ bs ++ rest <+:
            ByteStore.read ram v.pucSrcOffset v.ulRemLen.toNat :=
          fun _ => not_prefix_of_chunk hle heq
        rw [hverify, hhanded]
        refine ⟨[(v.ulDestOffset, bs)], rfl, ⟨rfl, trivial⟩, fun h => ?_, fun _ => ⟨fun h => ?_, rfl⟩,
          fun h _ => absurd h (hdiffers _)⟩
        · exact absurd ⟨[], (List.append_nil _).trans h⟩ (hdiffers _)
        · exact hdiffers [] ⟨[], by rw [← h]; simp [bytesRead]⟩
    · -- nothing was handed over
      have hnil : bs = [] := List.length_eq_zero_iff.mp (by omega)
      have hverify : verify ram (r :: reads) v = verify ram reads v := by
        rw [verify, if_neg hrem]
        dsimp only
        rw [← hbs, if_neg hpos]
      have hsame : handed (r :: reads) v.ulDestOffset v.ulRemLen.toNat =
          handed reads v.ulDestOffset v.ulRemLen.toNat := by
        rw [hhanded, hnil]
        simp
      rw [hverify, hsame]
      exact ih v

/-! ### The verification of a download -/

variable {device : ℕ → Reader} {ram : Store} {x : APCMboxDownloadImage} {base : UInt32}

/-- The image that a download is verified against. -/
abbrev image (ram : Store) (x : APCMboxDownloadImage) : List UInt8 :=
  read ram x.ulSrcAddr.toNat x.ulImageSize.toNat

theorem running_iff (n : ℕ) :
    (iVerifyDownload ram x base (firstReads device n)).2 = .running ↔
      handedBy device (packetOffset x + base) x.ulImageSize.toNat n <+: image ram x ∧
        handedBy device (packetOffset x + base) x.ulImageSize.toNat n ≠ image ram x := by
  obtain ⟨cs, -, -, hall, hbad, hpart⟩ := verify_spec ram (firstReads device n)
    ⟨packetOffset x + base, x.ulSrcAddr.toNat, x.ulImageSize, .ERROR, []⟩
  refine ⟨fun h => ?_, fun h => hpart h.1 h.2⟩
  by_contra hnot
  rw [not_and_or, not_not] at hnot
  unfold iVerifyDownload at h
  rcases hnot with hnot | hnot
  · rw [(hbad hnot).2] at h
    exact Status.noConfusion h
  · rw [(hall hnot).2] at h
    split_ifs at h

theorem ok_iff_verified (hsize : x.ulImageSize ≠ 0) {n : ℕ}
    (hend : (iVerifyDownload ram x base (firstReads device n)).2 ≠ .running) :
    (iVerifyDownload ram x base (firstReads device n)).2 = .OK ↔
      Verified ram (packetOffset x + base) x.ulSrcAddr.toNat x.ulImageSize.toNat
        (iVerifyDownload ram x base (firstReads device n)).1.chunks := by
  obtain ⟨cs, hcs, hrow, hall, hbad, hpart⟩ := verify_spec ram (firstReads device n)
    ⟨packetOffset x + base, x.ulSrcAddr.toNat, x.ulImageSize, .ERROR, []⟩
  unfold iVerifyDownload at hend ⊢
  rw [hcs, List.nil_append]
  by_cases hsame : handedBy device (packetOffset x + base) x.ulImageSize.toNat n = image ram x
  · obtain ⟨hread, hst⟩ := hall hsame
    rw [hst, if_neg hsize]
    exact ⟨fun _ => ⟨hrow, hread⟩, fun _ => rfl⟩
  · by_cases hpre : handedBy device (packetOffset x + base) x.ulImageSize.toNat n <+: image ram x
    · exact absurd (hpart hpre hsame) hend
    · obtain ⟨hread, hst⟩ := hbad hpre
      rw [hst]
      exact ⟨fun h => Status.noConfusion h, fun h => absurd h.2 hread⟩

theorem not_decides_of_empty (hsize : x.ulImageSize = 0) : ¬ Decides device ram x base := by
  rintro ⟨n, -, hiff⟩
  have hdone : iVerifyDownload ram x base (firstReads device n) =
      (⟨packetOffset x + base, x.ulSrcAddr.toNat, x.ulImageSize, .ERROR, []⟩, .ERROR) := by
    unfold iVerifyDownload
    cases firstReads device n with
    | nil => rw [verify, if_pos hsize]
    | cons r reads => rw [verify, if_pos hsize]
  rw [hdone, hsize] at hiff
  exact Status.noConfusion (hiff.mpr ⟨trivial, rfl⟩)

/-- **When a verification tells whether the image is in flash.** It ends, and returns `OK` exactly
when all bytes were read and are those of RAM, if and only if the image has a byte and the flash
does not go silent while bytes are missing and none differs. -/
theorem verify_download_iff (device : ℕ → Reader) (ram : Store) (x : APCMboxDownloadImage)
    (base : UInt32) :
    Decides device ram x base ↔
      x.ulImageSize ≠ 0 ∧ Responsive device (image ram x) (packetOffset x + base) := by
  have hlen : (image ram x).length = x.ulImageSize.toNat := length_read _ _ _
  constructor
  · intro h
    have hsize : x.ulImageSize ≠ 0 := fun hzero => not_decides_of_empty hzero h
    refine ⟨hsize, fun k hpre hne => ?_⟩
    by_contra hsilent
    push Not at hsilent
    obtain ⟨n, hend, -⟩ := h
    -- the loop is under way after any number of reads
    refine hend ((running_iff n).mpr ?_)
    rw [hlen] at hpre hne hsilent
    rcases Nat.le_total n k with hnk | hkn
    · have hearly := handedBy_prefix device (packetOffset x + base) x.ulImageSize.toNat hnk
      refine ⟨hearly.trans hpre, fun hsame => hne ?_⟩
      rw [hsame] at hearly
      exact hpre.eq_of_length_le hearly.length_le
    · obtain ⟨m, rfl⟩ := Nat.exists_eq_add_of_le hkn
      rw [handedBy_silent hsilent m]
      exact ⟨hpre, hne⟩
  · rintro ⟨hsize, hresp⟩
    obtain ⟨n, hn⟩ := exists_settled hresp
    rw [hlen] at hn
    have hend : (iVerifyDownload ram x base (firstReads device n)).2 ≠ .running := by
      rw [Ne, running_iff, not_and_or, not_not]
      exact hn.symm
    exact ⟨n, hend, ok_iff_verified hsize hend⟩

def oneByte : APCMboxDownloadImage where
  xBootDevice := .PRIMARY
  iPartition := 0
  iUpdateFpt := false
  iPdiProgram := false
  iApuPdiProgram := false
  iRpuPdiProgram := false
  iLastPacket := true
  ulImageSize := 1
  ulSrcAddr := 0
  usPacketNum := 0
  ulPacketSize := 1
  pucPdiMd5 := 0
  ulPdiSize := 1

/-- The verification of a packet on a flash that answers every read with an error does not end. -/
theorem verify_download_endless :
    ¬ ∃ n, (iVerifyDownload (fun _ => 0) oneByte 0x8000000
      (firstReads (fun _ _ _ => .failed) n)).2 ≠ .running := by
  rintro ⟨n, hend⟩
  refine hend ?_
  have hloop : ∀ (reads : List Reader) (v : Loop), (∀ r ∈ reads, r = fun _ _ => .failed) →
      v.ulRemLen = 1 → (verify (fun _ => 0) reads v).2 = .running := by
    intro reads v hreads hrem
    have hne : v.ulRemLen ≠ 0 := by
      rw [hrem]
      decide
    induction reads with
    | nil => rw [verify, if_neg hne]
    | cons r reads ih =>
      rw [verify, if_neg hne, hreads r List.mem_cons_self]
      exact ih fun r hr => hreads r (List.mem_cons_of_mem _ hr)
  refine hloop _ _ (fun r hr => ?_) rfl
  simp only [firstReads, List.mem_map] at hr
  obtain ⟨_, -, rfl⟩ := hr
  rfl

/-! ### Devices whose reads go through whole or fail -/

end Amr.Apc.Verification
