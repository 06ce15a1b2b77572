/-
# Transfers of platform descriptor records

A record is read in parts: `EGetFirstPart` names the record, and each `EGetNextPart` names the
handle that came with the part before. The handle is the address of the context of the record, and
the context holds a mark and the offset of the next part. The record of a `EGetNextPart` request is
the one that the request names, not the one that its handle was returned for, and a request count
of 0 moves nothing. Where neither occurs, the parts of a transfer are the record, cut in order.
-/
import Amr.Mctp.Frame
import Amr.Lib.Transition

namespace Amr.Pldm

open StateProgram Mctp Transition

/-! ### Parts -/

def value16 (b : List UInt8) : ℕ := (b.getD 0 0).toNat + 2 ^ 8 * (b.getD 1 0).toNat

/-- The value of four bytes, lowest first. -/
def value32 (b : List UInt8) : ℕ := value16 b + 2 ^ 16 * value16 (b.drop 2)

/-- A part as it is answered: the record and the count of the request, and the response. -/
structure Part where
  record : ℕ
  first : Bool
  count : ℕ
  response : List UInt8

namespace Part

def nextRecordHandle (p : Part) : ℕ := value32 (p.response.drop 1)

def nextDataTransferHandle (p : Part) : ℕ := value32 (p.response.drop 5)

def transferFlag (p : Part) : UInt8 := p.response.getD 9 0

def responseCount (p : Part) : ℕ := value16 (p.response.drop 10)

def recordData (p : Part) : List UInt8 := (p.response.drop 12).take p.responseCount

def CRC (p : Part) : List UInt8 := (p.response.drop 12).drop p.responseCount

end Part

theorem value16_le16 {n : ℕ} (h : n < 2 ^ 16) (bs : List UInt8) : value16 (le16 n ++ bs) = n := by
  simp only [value16, le16, List.cons_append, List.getD_cons_zero, List.getD_cons_succ,
    UInt8.toNat_ofNat']
  omega

theorem value32_le32 {n : ℕ} (h : n < 2 ^ 32) (bs : List UInt8) : value32 (le32 n ++ bs) = n := by
  simp only [value32, value16, le32, List.cons_append, List.getD_cons_zero, List.getD_cons_succ,
    List.drop_succ_cons, List.drop_zero, UInt8.toNat_ofNat']
  omega

theorem Part.fields {p : Part} {next handle : ℕ} {flag : UInt8} {data crc : List UInt8}
    (h : p.response = 0 :: (le32 next ++ (le32 handle ++ (flag :: (le16 data.length ++
      (data ++ crc))))))
    (hnext : next < 2 ^ 32) (hhandle : handle < 2 ^ 32) (hdata : data.length < 2 ^ 16) :
    p.nextRecordHandle = next ∧ p.nextDataTransferHandle = handle ∧ p.transferFlag = flag ∧
      p.recordData = data ∧ p.CRC = crc := by
  have hcount : p.responseCount = data.length := by
    unfold Part.responseCount
    rw [h]
    exact value16_le16 hdata _
  refine ⟨?_, ?_, ?_, ?_, ?_⟩
  · unfold Part.nextRecordHandle
    rw [h]
    exact value32_le32 hnext _
  · unfold Part.nextDataTransferHandle
    rw [h]
    exact value32_le32 hhandle _
  · unfold Part.transferFlag
    rw [h]
    rfl
  · unfold Part.recordData
    rw [hcount, h]
    exact List.take_left
  · unfold Part.CRC
    rw [hcount, h]
    exact List.drop_left

/-! ### What a response holds -/

/-- The response holds `bs` from `out` on. -/
def Wrote (s : Bmc) (out : ℕ) (bs : List UInt8) : Prop :=
  firstBytes (fun i => s.RespBuffer (out + i)) bs.length = bs

theorem wrote_nil (s : Bmc) (out : ℕ) : Wrote s out [] := rfl

theorem Wrote.append {s s' : Bmc} {out : ℕ} {bs cs : List UInt8} (h : Wrote s out bs)
    (heq : s'.RespBuffer = overwrite s.RespBuffer (out + bs.length) cs) :
    Wrote s' out (bs ++ cs) := by
  unfold Wrote at h ⊢
  have hshift : (fun i => overwrite s.RespBuffer (out + bs.length) cs (out + i)) =
      overwrite (fun i => s.RespBuffer (out + i)) bs.length cs := by
    funext i
    simp [overwrite, Nat.add_sub_add_left]
  rw [heq, List.length_append, hshift, firstBytes_overwrite, h]

theorem Wrote.putAll {s : Bmc} {out k : ℕ} {bs : List UInt8} (h : Wrote s out bs)
    (hk : k = out + bs.length) (cs : List UInt8) : Wrote (exec (putAll k cs) s) out (bs ++ cs) := by
  subst hk
  refine h.append ?_
  rw [exec_putAll]

theorem Wrote.put {s : Bmc} {out k : ℕ} {bs : List UInt8} (h : Wrote s out bs)
    (hk : k = out + bs.length) (b : UInt8) : Wrote (exec (put k b) s) out (bs ++ [b]) := by
  subst hk
  refine h.append ?_
  rw [exec_put, overwrite_cons, overwrite_nil]

theorem Wrote.of_resp {s s' : Bmc} {out : ℕ} {bs : List UInt8} (h : Wrote s out bs)
    (heq : s'.RespBuffer = s.RespBuffer) : Wrote s' out bs := by
  unfold Wrote
  rw [heq]
  exact h

/-- The parts of the state that a transfer depends on. -/
def transferState (s : Bmc) : (ℕ → UInt8) × PDRRepositoryInfo := (s.memory, s.repository)

theorem transferState_putAll (bs : List UInt8) (i : ℕ) (s : Bmc) :
    transferState (exec (putAll i bs) s) = transferState s := by
  rw [exec_putAll]
  rfl

theorem transferState_put (b : UInt8) (i : ℕ) (s : Bmc) :
    transferState (exec (put i b) s) = transferState s := by
  rw [exec_put]
  rfl

theorem run_putPart (r : Pdr) (start n : ℕ) (flag : UInt8) {out : ℕ} {s : Bmc} {bs : List UInt8}
    (h : Wrote s out bs) (hbs : bs.length = 9) :
    let crc := if flag = 4 then [ucGetCrc8 r.bytes] else []
    value (putPart out r start n flag) s = 12 + n + crc.length ∧
      transferState (exec (putPart out r start n flag) s) = transferState s ∧
      Wrote (exec (putPart out r start n flag) s) out
        (bs ++ (flag :: (le16 n ++ (recordData r start n ++ crc)))) := by
  have hlen : (recordData r start n).length = n := by simp [recordData]
  let s₁ := exec (put (out + 9) flag) s
  let s₂ := exec (putAll (out + 10) (le16 n)) s₁
  let s₃ := exec (noteIf (r.dataLength + PDR_HEADER_SIZE < start + n) .record) s₂
  let s₄ := exec (putAll (out + 12) (recordData r start n)) s₃
  have h₁ : Wrote s₁ out (bs ++ [flag]) := h.put (by omega) flag
  have h₂ : Wrote s₂ out (bs ++ [flag] ++ le16 n) := h₁.putAll (by simp [hbs]) (le16 n)
  have h₃ : Wrote s₃ out (bs ++ [flag] ++ le16 n) := h₂.of_resp (by simp only [s₃, exec_noteIf])
  have h₄ : Wrote s₄ out (bs ++ [flag] ++ le16 n ++ recordData r start n) :=
    h₃.putAll (by simp [hbs, le16]) _
  have hstate : transferState s₄ = transferState s := by
    simp only [s₄, transferState_putAll, s₃, exec_noteIf]
    change transferState s₂ = _
    simp only [s₂, transferState_putAll, s₁, transferState_put]
  by_cases hflag : flag = 4
  · have h₅ : Wrote (exec (put (out + 12 + n) (ucGetCrc8 r.bytes)) s₄) out
        (bs ++ [flag] ++ le16 n ++ recordData r start n ++ [ucGetCrc8 r.bytes]) :=
      h₄.put (by simp [hbs, le16, hlen]; omega) _
    simp only [if_pos hflag]
    unfold putPart
    simp only [if_pos hflag]
    refine ⟨rfl, (transferState_put _ _ s₄).trans hstate, ?_⟩
    simp only [List.append_assoc, List.singleton_append] at h₅
    exact h₅
  · simp only [if_neg hflag]
    unfold putPart
    simp only [if_neg hflag]
    refine ⟨rfl, hstate, ?_⟩
    simp only [List.append_assoc, List.singleton_append] at h₄
    rw [List.append_nil]
    exact h₄

/-- The response that a handler leaves: what it returns is its length. -/
def reply (out : ℕ) (m : Program ℕ) (s : Bmc) : List UInt8 :=
  firstBytes (fun i => (exec m s).RespBuffer (out + i)) (value m s)

theorem reply_eq {out : ℕ} {m : Program ℕ} {s : Bmc} {bs : List UInt8}
    (h : Wrote (exec m s) out bs) (hn : value m s = bs.length) : reply out m s = bs := by
  unfold reply
  rw [hn]
  exact h

def layout (next handle : ℕ) (flag : UInt8) (data crc : List UInt8) : List UInt8 :=
  0 :: (le32 next ++ (le32 handle ++ (flag :: (le16 data.length ++ (data ++ crc)))))

theorem length_layout (next handle : ℕ) (flag : UInt8) (data crc : List UInt8) :
    (layout next handle flag data crc).length = 12 + data.length + crc.length := by
  simp only [layout, le32, le16, List.length_cons, List.length_append, List.length_nil]
  omega

theorem layout_eq {n : ℕ} {data : List UInt8} (h : data.length = n) (next handle : ℕ)
    (flag : UInt8) (crc : List UInt8) :
    [] ++ [0] ++ le32 next ++ le32 handle ++ (flag :: (le16 n ++ (data ++ crc))) =
      layout next handle flag data crc := by
  subst h
  simp only [layout, List.nil_append, List.append_assoc, List.cons_append]

variable {r : Pdr}

theorem recordData_eq {start n : ℕ} (h : start + n ≤ r.bytes.length) :
    recordData r start n = (r.bytes.drop start).take n := by
  refine List.ext_getElem (by simp [recordData]; omega) fun i hi hi' => ?_
  have hlt : start + i < r.bytes.length := by
    simp [recordData] at hi
    omega
  simp [recordData, hlt]

section SendPart

variable (out record : ℕ) {r : Pdr} {count start : ℕ} (handle : ℕ) (initialized next : UInt8)
  (s : Bmc)

theorem rest_eq (h : start ≤ r.bytes.length) :
    (r.dataLength + PDR_HEADER_SIZE + 2 ^ 32 - start) % 2 ^ 16 = r.bytes.length - start := by
  have hle := r.length_bytes_le
  have hlen := r.length_bytes
  simp only [PDR_MAX_SIZE] at hle
  omega

/-- **A part that is not the last**: the context holds the offset behind it. -/
theorem sendPart_more (hmore : maxData count < r.bytes.length - start) :
    let data := (r.bytes.drop start).take (maxData count)
    let flag := if initialized = PENDING_XFER_INIT_KEY then 0x1 else 0x0
    reply out (sendPart out record r count start handle initialized next) s =
        layout ((record + 1) % s.repository.recordCount) handle flag data [] ∧
      transferState (exec (sendPart out record r count start handle initialized next) s) =
        (Function.update (Function.update s.memory handle PENDING_XFER_INIT_KEY) (handle + 1)
          (next + UInt8.ofNat (maxData count)), s.repository) := by
  have hstart : start ≤ r.bytes.length := by omega
  have hflag : ¬ (if initialized = PENDING_XFER_INIT_KEY then (0x1 : UInt8) else 0x0) = 4 := by
    split <;> decide
  have hdata : recordData r start (maxData count) =
      (r.bytes.drop start).take (maxData count) := recordData_eq (by omega)
  have hlen : ((r.bytes.drop start).take (maxData count)).length = maxData count := by
    simp
    omega
  let s₁ := exec (put out (UInt8.ofNat RESP_PLDM_SUCCESS)) s
  let s₂ := exec (putAll (out + 1) (le32 ((record + 1) % s.repository.recordCount))) s₁
  let s₃ := exec (setPendingInfo handle PENDING_XFER_INIT_KEY
    (next + UInt8.ofNat (maxData count))) s₂
  let s₄ := exec (putAll (out + 5) (le32 handle)) s₃
  have h₁ : Wrote s₁ out ([] ++ [0]) := (wrote_nil s out).put (by simp) _
  have h₂ : Wrote s₂ out ([] ++ [0] ++ le32 ((record + 1) % s.repository.recordCount)) :=
    h₁.putAll (by simp) _
  have h₃ : Wrote s₃ out ([] ++ [0] ++ le32 ((record + 1) % s.repository.recordCount)) :=
    h₂.of_resp rfl
  have h₄ : Wrote s₄ out ([] ++ [0] ++ le32 ((record + 1) % s.repository.recordCount) ++
      le32 handle) := h₃.putAll (by simp [le32]) _
  have hs₂ : transferState s₂ = transferState s := by
    simp only [s₂, transferState_putAll, s₁, transferState_put]
  obtain ⟨hvalue, hstate, hwrote⟩ := run_putPart r start (maxData count)
    (if initialized = PENDING_XFER_INIT_KEY then 0x1 else 0x0) h₄ (by simp [le32])
  have hrun : (sendPart out record r count start handle initialized next).run s =
      (putPart out r start (maxData count)
        (if initialized = PENDING_XFER_INIT_KEY then 0x1 else 0x0)).run s₄ := by
    unfold sendPart
    simp only [rest_eq hstart]
    rw [run_get_bind, run_bind, run_bind, if_pos hmore, run_bind, run_bind]
  have hexec : exec (sendPart out record r count start handle initialized next) s =
      exec (putPart out r start (maxData count)
        (if initialized = PENDING_XFER_INIT_KEY then 0x1 else 0x0)) s₄ := exec_eq_of_run hrun
  have hval : value (sendPart out record r count start handle initialized next) s =
      value (putPart out r start (maxData count)
        (if initialized = PENDING_XFER_INIT_KEY then 0x1 else 0x0)) s₄ := value_eq_of_run hrun
  rw [if_neg hflag] at hvalue hwrote
  rw [hdata, layout_eq hlen] at hwrote
  refine ⟨reply_eq (hexec ▸ hwrote) ?_, ?_⟩
  · rw [hval, hvalue, length_layout, hlen]
  · have hs₄ : transferState s₄ = transferState s₃ := transferState_putAll _ _ _
    simp only [transferState, Prod.mk.injEq] at hs₂
    obtain ⟨hmem, hrepo⟩ := hs₂
    rw [hexec, hstate, hs₄, transferState]
    simp only [s₃, setPendingInfo, exec_modify, hmem, hrepo]

/-- **The last part**, of several or of one: the context of several is cleared. -/
theorem sendPart_last (hstart : start ≤ r.bytes.length)
    (hlast : ¬ maxData count < r.bytes.length - start) :
    let several := initialized = PENDING_XFER_INIT_KEY ∧ start ≠ 0
    reply out (sendPart out record r count start handle initialized next) s =
        layout ((record + 1) % s.repository.recordCount) 0 (if several then 0x4 else 0x5)
          (r.bytes.drop start) (if several then [ucGetCrc8 r.bytes] else []) ∧
      transferState (exec (sendPart out record r count start handle initialized next) s) =
        (if several then Function.update (Function.update s.memory handle 0) (handle + 1) 0
          else s.memory, s.repository) := by
  have hdata : recordData r start (r.bytes.length - start) = r.bytes.drop start := by
    rw [recordData_eq (by omega), List.take_of_length_le (by simp)]
  have hlen : (r.bytes.drop start).length = r.bytes.length - start := by simp
  let s₁ := exec (put out (UInt8.ofNat RESP_PLDM_SUCCESS)) s
  let s₂ := exec (putAll (out + 1) (le32 ((record + 1) % s.repository.recordCount))) s₁
  let s₃ := exec (putAll (out + 5) (le32 0)) s₂
  have h₁ : Wrote s₁ out ([] ++ [0]) := (wrote_nil s out).put (by simp) _
  have h₂ : Wrote s₂ out ([] ++ [0] ++ le32 ((record + 1) % s.repository.recordCount)) :=
    h₁.putAll (by simp) _
  have h₃ : Wrote s₃ out ([] ++ [0] ++ le32 ((record + 1) % s.repository.recordCount) ++
      le32 0) := h₂.putAll (by simp [le32]) _
  have hs₃ : transferState s₃ = transferState s := by
    simp only [s₃, s₂, transferState_putAll, s₁, transferState_put]
  simp only [transferState, Prod.mk.injEq] at hs₃
  obtain ⟨hmem, hrepo⟩ := hs₃
  by_cases hseveral : initialized = PENDING_XFER_INIT_KEY ∧ start ≠ 0
  · let s₄ := exec (setPendingInfo handle 0 0) s₃
    have h₄ : Wrote s₄ out ([] ++ [0] ++ le32 ((record + 1) % s.repository.recordCount) ++
        le32 0) := h₃.of_resp rfl
    obtain ⟨hvalue, hstate, hwrote⟩ := run_putPart r start (r.bytes.length - start) 4 h₄
      (by simp [le32])
    have hrun : (sendPart out record r count start handle initialized next).run s =
        (putPart out r start (r.bytes.length - start) 4).run s₄ := by
      unfold sendPart
      simp only [rest_eq hstart]
      rw [run_get_bind, run_bind, run_bind, if_neg hlast, run_bind, if_pos hseveral, run_bind]
    have hexec := exec_eq_of_run hrun
    have hval := value_eq_of_run hrun
    simp only [if_pos hseveral]
    rw [if_pos rfl] at hvalue hwrote
    rw [hdata, layout_eq hlen] at hwrote
    refine ⟨reply_eq (hexec ▸ hwrote) ?_, ?_⟩
    · rw [hval, hvalue, length_layout, hlen]
    · rw [hexec, hstate, transferState]
      simp only [s₄, setPendingInfo, exec_modify, hmem, hrepo]
  · obtain ⟨hvalue, hstate, hwrote⟩ := run_putPart r start (r.bytes.length - start) 5 h₃
      (by simp [le32])
    have hrun : (sendPart out record r count start handle initialized next).run s =
        (putPart out r start (r.bytes.length - start) 5).run s₃ := by
      unfold sendPart
      simp only [rest_eq hstart]
      rw [run_get_bind, run_bind, run_bind, if_neg hlast, run_bind, if_neg hseveral]
    have hexec := exec_eq_of_run hrun
    have hval := value_eq_of_run hrun
    simp only [if_neg hseveral]
    rw [if_neg (by decide)] at hvalue hwrote
    rw [hdata, layout_eq hlen] at hwrote
    refine ⟨reply_eq (hexec ▸ hwrote) ?_, ?_⟩
    · rw [hval, hvalue, length_layout, hlen]
    · rw [hexec, hstate, transferState, hmem, hrepo]

end SendPart

/-! ### Requests -/

/-- `recordHandle` of a request. -/
def recordHandle (v : View) : ℕ := v.word32 0

def dataTransferHandle (v : View) : ℕ := v.word32 4

/-- `transferOperationFlag`. -/
def operationFlag (v : View) : ℕ := (v.byte 8).toNat

def requestCount (v : View) : ℕ := v.word16 9

def recordChangeNumber (v : View) : ℕ := v.word16 11

/-- The address of the context of a record. -/
def contextOf (P : Platform) (record : ℕ) : ℕ := P.GetPDRPendingXfers + 2 * record

/-- The request starts a transfer of `r`. -/
def AsksFirst (s : Bmc) (v : View) (r : Pdr) : Prop :=
  s.repository.updateInprogress = false ∧ s.repository.PDRRecords[recordHandle v]? = some r ∧
    operationFlag v = EGetFirstPart

/-- The request continues a transfer, of `r` by its record and of a live context by its handle. -/
def AsksNext (s : Bmc) (v : View) (r : Pdr) : Prop :=
  s.repository.updateInprogress = false ∧ s.repository.PDRRecords[recordHandle v]? = some r ∧
    operationFlag v = EGetNextPart ∧ dataTransferHandle v ≠ 0 ∧
    s.memory (dataTransferHandle v) = PENDING_XFER_INIT_KEY ∧
    recordChangeNumber v = r.recordChangeNumber.toNat

section GetPDR

variable {P : Platform} {v : View} {r : Pdr} {s : Bmc}

theorem run_getPDR_first (out : ℕ) (h : AsksFirst s v r) :
    ∃ t : Bmc, transferState t = (Function.update (Function.update s.memory
          (contextOf P (recordHandle v)) 0) (contextOf P (recordHandle v) + 1) 0, s.repository) ∧
      (pldm_cmd_GetPDR P v out).run s =
        (sendPart out (recordHandle v) r (requestCount v) 0 (contextOf P (recordHandle v))
          0 0).run t := by
  obtain ⟨hupd, hrec, hop⟩ := h
  have hupd' : ¬ s.repository.updateInprogress = true := by simp [hupd]
  have hfirst : (v.byte 8).toNat = EGetFirstPart := hop
  have hnext : ¬ (v.byte 8).toNat = EGetNextPart := by
    rw [hfirst]
    decide
  unfold recordHandle at hrec
  unfold pldm_cmd_GetPDR recordHandle requestCount contextOf
  rw [run_get_bind, run_read32_bind, if_neg hupd', hrec]
  simp only
  rw [run_read_bind, if_neg hnext, if_pos hfirst, run_bind, run_read16_bind]
  refine ⟨_, ?_, rfl⟩
  simp only [transferState, memory_looked, repository_looked, setPendingInfo, exec_modify]

theorem run_pendingInfo_bind {α : Type} (base n handle : ℕ) (k : UInt8 × UInt8 → Program α)
    (s : Bmc) :
    (pendingInfo base n handle >>= k).run s =
      (k (s.memory handle, s.memory (handle + 1))).run
        (exec (noteIf (¬ isContext base n handle) .handle) s) := by
  unfold pendingInfo
  rw [bind_assoc, run_bind, bind_assoc, run_get_bind, exec_noteIf]
  rfl

theorem run_getPDR_next (out : ℕ) (h : AsksNext s v r) :
    ∃ t : Bmc, transferState t = transferState s ∧
      (pldm_cmd_GetPDR P v out).run s =
        (sendPart out (recordHandle v) r (requestCount v)
          (s.memory (dataTransferHandle v + 1)).toNat (dataTransferHandle v)
          PENDING_XFER_INIT_KEY (s.memory (dataTransferHandle v + 1))).run t := by
  obtain ⟨hupd, hrec, hop, hhandle, hkey, hchange⟩ := h
  have hupd' : ¬ s.repository.updateInprogress = true := by simp [hupd]
  have hnext : (v.byte 8).toNat = EGetNextPart := hop
  have hhandle' : ¬ v.word32 4 = 0 := hhandle
  have hchange' : ¬ v.word16 11 ≠ r.recordChangeNumber.toNat := not_not_intro hchange
  unfold recordHandle at hrec
  unfold dataTransferHandle at hkey
  unfold pldm_cmd_GetPDR recordHandle requestCount dataTransferHandle
  rw [run_get_bind, run_read32_bind, if_neg hupd', hrec]
  simp only
  rw [run_read_bind, if_pos hnext, run_read32_bind, if_neg hhandle', run_pendingInfo_bind]
  generalize hs' : v.looked (4 + 2 + 1) _ = s'
  have hmem : s'.memory = s.memory := by simp only [← hs', memory_looked]
  have hrepo : s'.repository = s.repository := by simp only [← hs', repository_looked]
  simp only
  rw [hmem, hkey, if_neg (by decide), run_read16_bind, if_neg hchange', run_read16_bind]
  refine ⟨_, ?_, rfl⟩
  simp only [transferState, memory_looked, repository_looked, exec_noteIf, hmem, hrepo]

theorem run_getPDR_refused (out : ℕ) (hfirst : ∀ r, ¬ AsksFirst s v r)
    (hnext : ∀ r, ¬ AsksNext s v r) :
    ∃ (t : Bmc) (code : ℕ), UInt8.ofNat code ≠ 0 ∧ transferState t = transferState s ∧
      (pldm_cmd_GetPDR P v out).run s = (complete out code).run t := by
  unfold AsksFirst recordHandle operationFlag at hfirst
  unfold AsksNext recordHandle dataTransferHandle operationFlag recordChangeNumber at hnext
  unfold pldm_cmd_GetPDR
  rw [run_get_bind, run_read32_bind]
  by_cases hupd : s.repository.updateInprogress = true
  · rw [if_pos hupd]
    refine ⟨_, RESP_REPOSITORY_UPDATE_IN_PROGRESS, by decide, ?_, rfl⟩
    simp only [transferState, memory_looked, repository_looked]
  have hupd' : s.repository.updateInprogress = false := by simpa using hupd
  rw [if_neg hupd]
  cases hrec : s.repository.PDRRecords[v.word32 0]? with
  | none =>
    refine ⟨_, RESP_INVALID_RECORD_HANDLE, by decide, ?_, rfl⟩
    simp only [transferState, memory_looked, repository_looked]
  | some r =>
    simp only
    rw [run_read_bind]
    by_cases hop : (v.byte 8).toNat = EGetNextPart
    · rw [if_pos hop, run_read32_bind]
      by_cases hhandle : v.word32 4 = 0
      · rw [if_pos hhandle]
        refine ⟨_, RESP_INVALID_DATA_XFER_HANDLE, by decide, ?_, rfl⟩
        simp only [transferState, memory_looked, repository_looked]
      rw [if_neg hhandle, run_pendingInfo_bind]
      generalize hs' : v.looked (4 + 2 + 1) _ = s'
      have hmem : s'.memory = s.memory := by simp only [← hs', memory_looked]
      have hrepo : s'.repository = s.repository := by simp only [← hs', repository_looked]
      simp only
      rw [hmem]
      by_cases hkey : s.memory (v.word32 4) ≠ PENDING_XFER_INIT_KEY
      · rw [if_pos hkey]
        refine ⟨_, RESP_INVALID_DATA_XFER_HANDLE, by decide, ?_, rfl⟩
        simp only [transferState, exec_noteIf, hmem, hrepo]
      rw [if_neg hkey, run_read16_bind]
      have hchange : v.word16 11 ≠ r.recordChangeNumber.toNat := fun hc =>
        hnext r ⟨hupd', hrec, hop, hhandle, not_not.mp hkey, hc⟩
      rw [if_pos hchange]
      refine ⟨_, RESP_INVALID_RECORD_CHANGE_NUMBER, by decide, ?_, rfl⟩
      simp only [transferState, memory_looked, repository_looked, exec_noteIf, hmem, hrepo]
    · have hop' : ¬ (v.byte 8).toNat = EGetFirstPart := fun h => hfirst r ⟨hupd', hrec, h⟩
      rw [if_neg hop, if_neg hop']
      refine ⟨_, RESP_INVALID_XFER_OPERATION_FLAG, by decide, ?_, rfl⟩
      simp only [transferState, memory_looked, repository_looked]

end GetPDR

/-! ### Transfers -/

/-- The parts of a record since its latest first part. -/
def transferOf (record : ℕ) (h : List Part) : List Part :=
  h.foldl (fun ps p =>
    if p.record = record then if p.first then [p] else ps ++ [p] else ps) []

theorem transferOf_append (record : ℕ) (h : List Part) (p : Part) :
    transferOf record (h ++ [p]) =
      if p.record = record then if p.first then [p] else transferOf record h ++ [p]
      else transferOf record h := by
  simp [transferOf]

/-- The parts are the record up to `offset`, and what follows is to be asked for with `handle`. -/
structure InProgress (r : Pdr) (handle offset : ℕ) (ps : List Part) : Prop where
  data : ps.flatMap Part.recordData = r.bytes.take offset
  offset_lt : offset < r.bytes.length
  flags : ∃ k, ps.map Part.transferFlag = 0x0 :: List.replicate k 0x1
  handles : ∀ p ∈ ps, p.nextDataTransferHandle = handle
  crc : ∀ p ∈ ps, p.CRC = []
  length_le : ps.length ≤ offset

/-- The parts are the record: one part, or a first, any number of middle and a last part, which
carries the CRC of the record. -/
structure Finished (r : Pdr) (ps : List Part) : Prop where
  data : ps.flatMap Part.recordData = r.bytes
  flags : ps.map Part.transferFlag = [0x5] ∨
    ∃ k, ps.map Part.transferFlag = 0x0 :: List.replicate k 0x1 ++ [0x4]
  handle : ∃ p ∈ ps.getLast?, p.nextDataTransferHandle = 0
  crc : ∀ p ∈ ps, p.CRC = if p.transferFlag = 0x4 then [ucGetCrc8 r.bytes] else []
  length_le : ps.length ≤ r.bytes.length

theorem InProgress.ne_nil {handle offset : ℕ} {ps : List Part}
    (h : InProgress r handle offset ps) : ps ≠ [] := by
  rintro rfl
  obtain ⟨k, hk⟩ := h.flags
  cases hk

theorem InProgress.offset_pos {handle offset : ℕ} {ps : List Part}
    (h : InProgress r handle offset ps) : 0 < offset :=
  lt_of_lt_of_le (List.length_pos_iff.mpr h.ne_nil) h.length_le

theorem InProgress.first {handle n : ℕ} {p : Part} (hn : 0 < n)
    (hlt : n < r.bytes.length) (hflag : p.transferFlag = 0x0)
    (hhandle : p.nextDataTransferHandle = handle) (hdata : p.recordData = r.bytes.take n)
    (hcrc : p.CRC = []) : InProgress r handle n [p] :=
  ⟨by simp [hdata], hlt, ⟨0, by simp [hflag]⟩, by simp [hhandle], by simp [hcrc], by simp; omega⟩

theorem Finished.first {p : Part} (hflag : p.transferFlag = 0x5)
    (hhandle : p.nextDataTransferHandle = 0) (hdata : p.recordData = r.bytes)
    (hcrc : p.CRC = []) : Finished r [p] :=
  ⟨by simp [hdata], .inl (by simp [hflag]), ⟨p, by simp, hhandle⟩, by simp [hcrc, hflag], by
    rw [r.length_bytes]
    simp [PDR_HEADER_SIZE]⟩

theorem InProgress.flag_ne {handle offset : ℕ} {ps : List Part}
    (h : InProgress r handle offset ps) {p : Part} (hp : p ∈ ps) : p.transferFlag ≠ 0x4 := by
  obtain ⟨k, hk⟩ := h.flags
  have hmem : p.transferFlag ∈ ps.map Part.transferFlag := List.mem_map_of_mem hp
  rw [hk, List.mem_cons, List.mem_replicate] at hmem
  rcases hmem with h0 | ⟨-, h1⟩
  · rw [h0]
    decide
  · rw [h1]
    decide

theorem InProgress.middle {handle offset n : ℕ} {ps : List Part} {p : Part}
    (h : InProgress r handle offset ps) (hn : 0 < n) (hlt : offset + n < r.bytes.length)
    (hflag : p.transferFlag = 0x1) (hhandle : p.nextDataTransferHandle = handle)
    (hdata : p.recordData = (r.bytes.drop offset).take n) (hcrc : p.CRC = []) :
    InProgress r handle (offset + n) (ps ++ [p]) := by
  obtain ⟨k, hk⟩ := h.flags
  refine ⟨?_, hlt, ⟨k + 1, ?_⟩, ?_, ?_, ?_⟩
  · simp only [List.flatMap_append, h.data, List.flatMap_cons, List.flatMap_nil, List.append_nil,
      hdata]
    rw [List.take_add]
  · simp [hk, hflag, List.replicate_succ']
  · simpa [or_imp, forall_and, hhandle] using h.handles
  · simpa [or_imp, forall_and, hcrc] using h.crc
  · have := h.length_le
    simp
    omega

theorem InProgress.last {handle offset : ℕ} {ps : List Part} {p : Part}
    (h : InProgress r handle offset ps) (hflag : p.transferFlag = 0x4)
    (hhandle : p.nextDataTransferHandle = 0) (hdata : p.recordData = r.bytes.drop offset)
    (hcrc : p.CRC = [ucGetCrc8 r.bytes]) : Finished r (ps ++ [p]) := by
  obtain ⟨k, hk⟩ := h.flags
  refine ⟨?_, .inr ⟨k, ?_⟩, ⟨p, by simp, hhandle⟩, fun q hq => ?_, ?_⟩
  · simp only [List.flatMap_append, h.data, List.flatMap_cons, List.flatMap_nil, List.append_nil,
      hdata, List.take_append_drop]
  · simp [hk, hflag]
  · rcases List.mem_append.mp hq with hq | hq
    · rw [h.crc q hq, if_neg (h.flag_ne hq)]
    · obtain rfl : q = p := by simpa using hq
      rw [hcrc, if_pos hflag]
  · have := h.length_le
    have := h.offset_lt
    simp
    omega

/-! ### Runs -/

/-- The part that a request is answered with: what a response without an error holds. -/
def partOf (v : View) (bytes : List UInt8) : List Part :=
  if bytes.head? = some 0 then
    [{ record := recordHandle v
       first := decide (operationFlag v = EGetFirstPart)
       count := requestCount v
       response := bytes }]
  else []

/-- A `GetPDR` request is handled, and the part that it is answered with is noted. -/
def request (P : Platform) (out : ℕ) (s : Bmc × List Part) (v : View) : Option (Bmc × List Part) :=
  some (exec (pldm_cmd_GetPDR P v out) s.1,
    s.2 ++ partOf v (reply out (pldm_cmd_GetPDR P v out) s.1))

/-- The request asks for something, and a continuation names the record of its handle. -/
def Orderly (P : Platform) (_s : Bmc × List Part) (v : View) : Prop :=
  requestCount v ≠ 0 ∧
    (operationFlag v = EGetNextPart → dataTransferHandle v = contextOf P (recordHandle v))

instance (P : Platform) (s : Bmc × List Part) (v : View) : Decidable (Orderly P s v) :=
  inferInstanceAs (Decidable (_ ∧ _))

/-- What the handle that a part carries names is the rest of its record. -/
structure Transfers (P : Platform) (R : PDRRepositoryInfo) (s : Bmc × List Part) : Prop where
  repository : s.1.repository = R
  parts : ∀ p ∈ s.2, p.recordData.length ≤ p.count ∧
    p.response.length ≤ MAX_PLDM_RESPONSE_SIZE ∧
    p.nextRecordHandle = (p.record + 1) % R.recordCount
  live : ∀ i r, R.PDRRecords[i]? = some r →
    s.1.memory (contextOf P i) = PENDING_XFER_INIT_KEY →
    InProgress r (contextOf P i) (s.1.memory (contextOf P i + 1)).toNat (transferOf i s.2)
  idle : ∀ i r, R.PDRRecords[i]? = some r →
    s.1.memory (contextOf P i) ≠ PENDING_XFER_INIT_KEY →
    transferOf i s.2 = [] ∨ Finished r (transferOf i s.2)

theorem context_other (P : Platform) {i j : ℕ} (h : j ≠ i) (m : ℕ → UInt8) (a b : UInt8) :
    Function.update (Function.update m (contextOf P i) a) (contextOf P i + 1) b (contextOf P j) =
        m (contextOf P j) ∧
      Function.update (Function.update m (contextOf P i) a) (contextOf P i + 1) b
        (contextOf P j + 1) = m (contextOf P j + 1) := by
  have h₁ : contextOf P j ≠ contextOf P i + 1 := by unfold contextOf; omega
  have h₂ : contextOf P j ≠ contextOf P i := by unfold contextOf; omega
  have h₃ : contextOf P j + 1 ≠ contextOf P i + 1 := by unfold contextOf; omega
  have h₄ : contextOf P j + 1 ≠ contextOf P i := by unfold contextOf; omega
  rw [Function.update_of_ne h₁, Function.update_of_ne h₂, Function.update_of_ne h₃,
    Function.update_of_ne h₄]
  exact ⟨rfl, rfl⟩

theorem context_self (P : Platform) (i : ℕ) (m : ℕ → UInt8) (a b : UInt8) :
    Function.update (Function.update m (contextOf P i) a) (contextOf P i + 1) b (contextOf P i) =
        a ∧
      Function.update (Function.update m (contextOf P i) a) (contextOf P i + 1) b
        (contextOf P i + 1) = b := by
  have h : contextOf P i ≠ contextOf P i + 1 := by omega
  rw [Function.update_of_ne h, Function.update_self, Function.update_self]
  exact ⟨rfl, rfl⟩

section Steps

variable {P : Platform} {R : PDRRepositoryInfo} {out : ℕ} {s : Bmc × List Part} {v : View}

theorem record_lt {i : ℕ} {r : Pdr} (h : R.PDRRecords[i]? = some r) :
    i < R.recordCount ∧ R.recordCount ≤ TOTAL_PDR_COUNT ∧ contextOf P i < 2 ^ 32 := by
  have hi : i < R.PDRRecords.length := (List.getElem?_eq_some_iff.mp h).1
  have hcount := R.count_le
  have hP := P.pdr_lt
  unfold PDRRepositoryInfo.recordCount contextOf
  simp only [TOTAL_PDR_COUNT, GET_PDR_CONTEXTS] at *
  omega

theorem Transfers.of_part (hs : Transfers P R s) {s' : Bmc} {p : Part} {r : Pdr} {i : ℕ}
    (hrec : R.PDRRecords[i]? = some r) (hp : p.record = i) (hrepo : s'.repository = R)
    (hpart : p.recordData.length ≤ p.count ∧ p.response.length ≤ MAX_PLDM_RESPONSE_SIZE ∧
      p.nextRecordHandle = (p.record + 1) % R.recordCount)
    (hother : ∀ j, j ≠ i → s'.memory (contextOf P j) = s.1.memory (contextOf P j) ∧
      s'.memory (contextOf P j + 1) = s.1.memory (contextOf P j + 1))
    (hlive : s'.memory (contextOf P i) = PENDING_XFER_INIT_KEY →
      InProgress r (contextOf P i) (s'.memory (contextOf P i + 1)).toNat
        (transferOf i (s.2 ++ [p])))
    (hidle : s'.memory (contextOf P i) ≠ PENDING_XFER_INIT_KEY →
      Finished r (transferOf i (s.2 ++ [p]))) :
    Transfers P R (s', s.2 ++ [p]) := by
  refine ⟨hrepo, fun q hq => ?_, fun j r' hr' hkey => ?_, fun j r' hr' hkey => ?_⟩
  · rcases List.mem_append.mp hq with hq | hq
    · exact hs.parts q hq
    · obtain rfl : q = p := by simpa using hq
      exact hpart
  · by_cases hj : j = i
    · subst hj
      obtain rfl : r' = r := by simpa [hr'] using hrec
      exact hlive hkey
    · have hne : ¬ p.record = j := fun h => hj (by rw [← h, hp])
      simp only [transferOf_append, if_neg hne]
      simp only [(hother j hj).1, (hother j hj).2] at hkey ⊢
      exact hs.live j r' hr' hkey
  · by_cases hj : j = i
    · subst hj
      obtain rfl : r' = r := by simpa [hr'] using hrec
      exact .inr (hidle hkey)
    · have hne : ¬ p.record = j := fun h => hj (by rw [← h, hp])
      simp only [transferOf_append, if_neg hne]
      simp only [(hother j hj).1] at hkey
      exact hs.idle j r' hr' hkey

theorem partOf_layout (v : View) (next handle : ℕ) (flag : UInt8) (data crc : List UInt8) :
    partOf v (layout next handle flag data crc) =
      [{ record := recordHandle v
         first := decide (operationFlag v = EGetFirstPart)
         count := requestCount v
         response := layout next handle flag data crc }] := rfl

theorem part_sizes {i : ℕ} {r : Pdr} (hrec : R.PDRRecords[i]? = some r) (first : Bool) (count : ℕ)
    {handle : ℕ} (hhandle : handle < 2 ^ 32) (flag : UInt8) (crc : List UInt8) {data : List UInt8}
    (hdata : data.length ≤ maxData count) (hcrc : data.length + crc.length ≤ 113) :
    let p : Part := { record := i, first := first, count := count,
                      response := layout ((i + 1) % R.recordCount) handle flag data crc }
    (p.recordData.length ≤ p.count ∧ p.response.length ≤ MAX_PLDM_RESPONSE_SIZE ∧
      p.nextRecordHandle = (p.record + 1) % R.recordCount) ∧
    p.nextDataTransferHandle = handle ∧ p.transferFlag = flag ∧ p.recordData = data ∧
      p.CRC = crc := by
  intro p
  obtain ⟨hi, hrc, -⟩ := record_lt (P := board) hrec
  have hnext : (i + 1) % R.recordCount < 2 ^ 32 := by
    have := Nat.mod_lt (i + 1) (show 0 < R.recordCount by omega)
    simp only [TOTAL_PDR_COUNT] at hrc
    omega
  obtain ⟨h₁, h₂, h₃, h₄, h₅⟩ := Part.fields (p := p) rfl hnext hhandle (by omega)
  refine ⟨⟨?_, ?_, h₁⟩, h₂, h₃, h₄, h₅⟩
  · rw [h₄]
    exact hdata.trans (min_le_left _ _)
  · change (layout _ _ _ _ _).length ≤ _
    rw [length_layout]
    simp only [MAX_PLDM_RESPONSE_SIZE]
    omega

theorem maxData_pos {count : ℕ} (h : count ≠ 0) : 0 < maxData count ∧ maxData count ≤ 113 := by
  simp only [maxData, MAX_PLDM_RESPONSE_SIZE]
  omega

/-- What a part is sent from: a cleared context, or the context of a transfer in progress. -/
structure Ready (r : Pdr) (handle start : ℕ) (initialized : UInt8) (ps : List Part) : Prop where
  from_eq : ps = [] ∧ start = 0 ∧ initialized = 0 ∨
    initialized = PENDING_XFER_INIT_KEY ∧ InProgress r handle start ps

theorem Ready.more {handle start n : ℕ} {initialized : UInt8} {ps : List Part} {p : Part}
    (h : Ready r handle start initialized ps) (hn : 0 < n) (hlt : start + n < r.bytes.length)
    (hflag : p.transferFlag = if initialized = PENDING_XFER_INIT_KEY then 0x1 else 0x0)
    (hhandle : p.nextDataTransferHandle = handle)
    (hdata : p.recordData = (r.bytes.drop start).take n) (hcrc : p.CRC = []) :
    InProgress r handle (start + n) (ps ++ [p]) := by
  rcases h.from_eq with ⟨rfl, rfl, rfl⟩ | ⟨rfl, hprog⟩
  · rw [Nat.zero_add] at hlt ⊢
    exact .first hn hlt hflag hhandle (by simpa using hdata) hcrc
  · exact hprog.middle hn hlt hflag hhandle hdata hcrc

theorem Ready.last {handle start : ℕ} {initialized : UInt8} {ps : List Part} {p : Part}
    (h : Ready r handle start initialized ps)
    (hflag : p.transferFlag =
      if initialized = PENDING_XFER_INIT_KEY ∧ start ≠ 0 then 0x4 else 0x5)
    (hhandle : p.nextDataTransferHandle = 0) (hdata : p.recordData = r.bytes.drop start)
    (hcrc : p.CRC = if initialized = PENDING_XFER_INIT_KEY ∧ start ≠ 0 then
      [ucGetCrc8 r.bytes] else []) : Finished r (ps ++ [p]) := by
  rcases h.from_eq with ⟨rfl, rfl, rfl⟩ | ⟨rfl, hprog⟩
  · exact .first hflag hhandle (by simpa using hdata) hcrc
  · have hseveral : PENDING_XFER_INIT_KEY = PENDING_XFER_INIT_KEY ∧ start ≠ 0 :=
      ⟨rfl, hprog.offset_pos.ne'⟩
    rw [if_pos hseveral] at hflag hcrc
    exact hprog.last hflag hhandle hdata hcrc

/-- **A part is sent** from a context that is ready. -/
theorem transfers_sent (hs : Transfers P R s) (ps : List Part) {r : Pdr} {start : ℕ}
    {initialized next : UInt8} {t : Bmc} (hrec : R.PDRRecords[recordHandle v]? = some r)
    (hcount : requestCount v ≠ 0) (hrepo : t.repository = R)
    (hother : ∀ j, j ≠ recordHandle v →
      t.memory (contextOf P j) = s.1.memory (contextOf P j) ∧
      t.memory (contextOf P j + 1) = s.1.memory (contextOf P j + 1))
    (hnext : next.toNat = start)
    (hready : Ready r (contextOf P (recordHandle v)) start initialized ps)
    (hclear : initialized ≠ PENDING_XFER_INIT_KEY →
      t.memory (contextOf P (recordHandle v)) ≠ PENDING_XFER_INIT_KEY)
    (hps : ∀ p : Part, p.record = recordHandle v →
      p.first = decide (operationFlag v = EGetFirstPart) →
      transferOf (recordHandle v) (s.2 ++ [p]) = ps ++ [p])
    (hrun : (pldm_cmd_GetPDR P v out).run s.1 =
      (sendPart out (recordHandle v) r (requestCount v) start (contextOf P (recordHandle v))
        initialized next).run t) {s' : Bmc × List Part} (hstep : request P out s v = some s') :
    Transfers P R s' ∧ ∃ p, s'.2 = s.2 ++ [p] := by
  obtain ⟨-, -, hctx⟩ := record_lt (P := P) hrec
  obtain ⟨hpos, hmax⟩ := maxData_pos hcount
  have hsize := r.length_bytes_le
  simp only [PDR_MAX_SIZE] at hsize
  have hstart : start ≤ r.bytes.length := by
    rcases hready.from_eq with ⟨-, rfl, -⟩ | ⟨-, hprog⟩
    · exact Nat.zero_le _
    · exact hprog.offset_lt.le
  have hexec := exec_eq_of_run hrun
  have hreply : reply out (pldm_cmd_GetPDR P v out) s.1 =
      reply out (sendPart out (recordHandle v) r (requestCount v) start
        (contextOf P (recordHandle v)) initialized next) t := by
    unfold reply
    rw [hexec, value_eq_of_run hrun]
  cases hstep
  by_cases hmore : maxData (requestCount v) < r.bytes.length - start
  · obtain ⟨hrep, hafter⟩ := sendPart_more out (recordHandle v) (contextOf P (recordHandle v))
      initialized next t hmore
    have hlen : ((r.bytes.drop start).take (maxData (requestCount v))).length =
        maxData (requestCount v) := by
      rw [List.length_take, List.length_drop]
      omega
    rw [hrepo] at hrep
    simp only [transferState, Prod.mk.injEq, hrepo] at hafter
    obtain ⟨hmem, hrepo'⟩ := hafter
    obtain ⟨hpart, hhandle, hflag, hdata, hcrc⟩ := part_sizes hrec
      (decide (operationFlag v = EGetFirstPart)) (requestCount v) hctx
      (if initialized = PENDING_XFER_INIT_KEY then 0x1 else 0x0) [] hlen.le
      (by rw [hlen]; simpa using hmax)
    have hoffset : (next + UInt8.ofNat (maxData (requestCount v))).toNat =
        start + maxData (requestCount v) := by
      rw [UInt8.toNat_add, UInt8.toNat_ofNat', hnext]
      omega
    rw [hreply, hrep, partOf_layout, hexec]
    refine ⟨hs.of_part hrec rfl hrepo' hpart (fun j hj => ?_) (fun _ => ?_) (fun hkey => ?_),
      _, rfl⟩
    · obtain ⟨h₁, h₂⟩ := context_other P hj t.memory PENDING_XFER_INIT_KEY
        (next + UInt8.ofNat (maxData (requestCount v)))
      rw [hmem, h₁, h₂]
      exact hother j hj
    · rw [hps _ rfl rfl, hmem, (context_self P _ _ _ _).2, hoffset]
      exact hready.more hpos (by omega) hflag hhandle hdata hcrc
    · rw [hmem, (context_self P _ _ _ _).1] at hkey
      exact absurd rfl hkey
  · obtain ⟨hrep, hafter⟩ := sendPart_last out (recordHandle v) (contextOf P (recordHandle v))
      initialized next t hstart hmore
    have hlen : (r.bytes.drop start).length = r.bytes.length - start := by simp
    rw [hrepo] at hrep
    simp only [transferState, Prod.mk.injEq, hrepo] at hafter
    obtain ⟨hmem, hrepo'⟩ := hafter
    have hcrclen : (if initialized = PENDING_XFER_INIT_KEY ∧ start ≠ 0 then
        [ucGetCrc8 r.bytes] else []).length ≤ 1 := by split <;> simp
    obtain ⟨hpart, hhandle, hflag, hdata, hcrc⟩ := part_sizes hrec
      (decide (operationFlag v = EGetFirstPart)) (requestCount v) (Nat.two_pow_pos 32)
      (if initialized = PENDING_XFER_INIT_KEY ∧ start ≠ 0 then 0x4 else 0x5)
      (if initialized = PENDING_XFER_INIT_KEY ∧ start ≠ 0 then [ucGetCrc8 r.bytes] else [])
      (hlen.le.trans (by omega)) (by rw [hlen]; omega)
    rw [hreply, hrep, partOf_layout, hexec]
    have hgone : (exec (sendPart out (recordHandle v) r (requestCount v) start
        (contextOf P (recordHandle v)) initialized next) t).memory
          (contextOf P (recordHandle v)) ≠ PENDING_XFER_INIT_KEY := by
      rw [hmem]
      split
      · rw [(context_self P _ _ _ _).1]
        decide
      · rename_i hone
        refine hclear fun hkey => hone ⟨hkey, ?_⟩
        rcases hready.from_eq with ⟨-, -, h0⟩ | ⟨-, hprog⟩
        · rw [h0] at hkey
          exact absurd hkey (by decide)
        · exact hprog.offset_pos.ne'
    refine ⟨hs.of_part hrec rfl hrepo' hpart (fun j hj => ?_) (fun hkey => ?_) (fun _ => ?_),
      _, rfl⟩
    · rw [hmem]
      split
      · obtain ⟨h₁, h₂⟩ := context_other P hj t.memory 0 0
        rw [h₁, h₂]
        exact hother j hj
      · exact hother j hj
    · exact absurd hkey hgone
    · rw [hps _ rfl rfl]
      exact hready.last hflag hhandle hdata hcrc

/-- **A first part.** -/
theorem transfers_first (hs : Transfers P R s) {r : Pdr} (hask : AsksFirst s.1 v r)
    (hcount : requestCount v ≠ 0) {s' : Bmc × List Part} (hstep : request P out s v = some s') :
    Transfers P R s' ∧ ∃ p, s'.2 = s.2 ++ [p] := by
  obtain ⟨t, hstate, hrun⟩ := run_getPDR_first (P := P) out hask
  have hrec : R.PDRRecords[recordHandle v]? = some r := hs.repository ▸ hask.2.1
  simp only [transferState, Prod.mk.injEq, hs.repository] at hstate
  obtain ⟨hmem, hrepo⟩ := hstate
  refine transfers_sent hs [] hrec hcount hrepo (fun j hj => ?_) ?_
    ⟨.inl ⟨rfl, rfl, rfl⟩⟩ (fun _ => ?_) (fun p hp hfirst => ?_) hrun hstep
  · rw [hmem]
    exact context_other P hj _ _ _
  · decide
  · rw [hmem, (context_self P _ _ _ _).1]
    decide
  · rw [transferOf_append, if_pos hp, hfirst, decide_eq_true hask.2.2]
    rfl

/-- **A continuation** of the record that its handle names. -/
theorem transfers_next (hs : Transfers P R s) {r : Pdr} (hask : AsksNext s.1 v r)
    (hcount : requestCount v ≠ 0) (hhandle : dataTransferHandle v = contextOf P (recordHandle v))
    {s' : Bmc × List Part} (hstep : request P out s v = some s') :
    Transfers P R s' ∧ ∃ p, s'.2 = s.2 ++ [p] := by
  obtain ⟨t, hstate, hrun⟩ := run_getPDR_next (P := P) out hask
  obtain ⟨-, hrecord, hop, -, hkey, -⟩ := hask
  have hrec : R.PDRRecords[recordHandle v]? = some r := hs.repository ▸ hrecord
  simp only [transferState, Prod.mk.injEq, hs.repository] at hstate
  obtain ⟨hmem, hrepo⟩ := hstate
  rw [hhandle] at hrun hkey
  have hprog := hs.live _ r hrec hkey
  refine transfers_sent hs _ hrec hcount hrepo (fun j hj => ?_) rfl ⟨.inr ⟨rfl, hprog⟩⟩
    (fun h => absurd rfl h) (fun p hp hfirst => ?_) hrun hstep
  · rw [hmem]
    exact ⟨rfl, rfl⟩
  · have hnot : ¬ operationFlag v = EGetFirstPart := by
      rw [hop]
      decide
    rw [transferOf_append, if_pos hp, hfirst, decide_eq_false hnot]
    rfl

/-- **A request that is refused.** -/
theorem transfers_refused (hs : Transfers P R s) (hfirst : ∀ r, ¬ AsksFirst s.1 v r)
    (hnext : ∀ r, ¬ AsksNext s.1 v r) {s' : Bmc × List Part}
    (hstep : request P out s v = some s') : Transfers P R s' ∧ s'.2 = s.2 := by
  obtain ⟨t, code, hcode, hstate, hrun⟩ := run_getPDR_refused (P := P) out hfirst hnext
  have hexec := exec_eq_of_run hrun
  have hreply : reply out (pldm_cmd_GetPDR P v out) s.1 = [UInt8.ofNat code] := by
    have hwrote : Wrote (exec (complete out code) t) out ([] ++ [UInt8.ofNat code]) :=
      (wrote_nil t out).put rfl _
    refine reply_eq ?_ ?_
    · rw [hexec]
      exact hwrote
    · rw [value_eq_of_run hrun]
      rfl
  have hpart : partOf v [UInt8.ofNat code] = [] := by
    unfold partOf
    rw [if_neg (by simpa using hcode)]
  have hafter : transferState (exec (pldm_cmd_GetPDR P v out) s.1) = transferState s.1 := by
    rw [hexec, ← hstate]
    exact transferState_put _ _ _
  simp only [transferState, Prod.mk.injEq] at hafter
  obtain ⟨hmem, hrepo⟩ := hafter
  cases hstep
  rw [hreply, hpart, List.append_nil]
  refine ⟨⟨hrepo.trans hs.repository, hs.parts, fun i r hr hkey => ?_, fun i r hr hkey => ?_⟩, rfl⟩
  · simp only [hmem] at hkey ⊢
    exact hs.live i r hr hkey
  · simp only [hmem] at hkey
    exact hs.idle i r hr hkey

end Steps

theorem InProgress.not_finished {handle offset : ℕ} {ps : List Part}
    (h : InProgress r handle offset ps) : ¬ Finished r ps := fun hf => by
  have hlen : (r.bytes.take offset).length = r.bytes.length := by rw [← h.data, hf.data]
  have := h.offset_lt
  rw [List.length_take] at hlen
  omega

theorem transfers_step {P : Platform} {R : PDRRepositoryInfo} {out : ℕ} {s s' : Bmc × List Part}
    {v : View} (hs : Transfers P R s) (hok : Orderly P s v) (hstep : request P out s v = some s') :
    Transfers P R s' ∧ ((∃ p, s'.2 = s.2 ++ [p]) ↔ ∃ r, AsksFirst s.1 v r ∨ AsksNext s.1 v r) := by
  by_cases hfirst : ∃ r, AsksFirst s.1 v r
  · obtain ⟨r, hask⟩ := hfirst
    obtain ⟨htr, hp⟩ := transfers_first hs hask hok.1 hstep
    exact ⟨htr, iff_of_true hp ⟨r, .inl hask⟩⟩
  by_cases hnext : ∃ r, AsksNext s.1 v r
  · obtain ⟨r, hask⟩ := hnext
    obtain ⟨htr, hp⟩ := transfers_next hs hask hok.1 (hok.2 hask.2.2.1) hstep
    exact ⟨htr, iff_of_true hp ⟨r, .inr hask⟩⟩
  · obtain ⟨htr, hsame⟩ := transfers_refused hs (fun r h => hfirst ⟨r, h⟩)
      (fun r h => hnext ⟨r, h⟩) hstep
    refine ⟨htr, iff_of_false ?_ ?_⟩
    · rintro ⟨p, hp⟩
      rw [hsame] at hp
      simp at hp
    · rintro ⟨r, h | h⟩
      · exact hfirst ⟨r, h⟩
      · exact hnext ⟨r, h⟩

/-- The record that `nextRecordHandle` names after a record. -/
def nextRecord (R : PDRRepositoryInfo) (i : ℕ) : ℕ := (i + 1) % R.recordCount

theorem nextRecord_enumerates (R : PDRRepositoryInfo) :
    (List.range R.recordCount).map (fun k => (nextRecord R)^[k] 0) = List.range R.recordCount ∧
      (nextRecord R)^[R.recordCount] 0 = 0 := by
  have hiter : ∀ k, (nextRecord R)^[k] 0 = k % R.recordCount := by
    intro k
    induction k with
    | zero => simp
    | succ k ih =>
      rw [Function.iterate_succ_apply', ih, nextRecord, Nat.mod_add_mod]
  constructor
  · refine (List.map_congr_left fun k hk => ?_).trans (List.map_id _)
    rw [hiter, Nat.mod_eq_of_lt (List.mem_range.mp hk)]
    rfl
  · rw [hiter, Nat.mod_self]

/-- **Transfers of records.** In a run of `GetPDR` requests that ask for something and name with
each handle the record of its context, the parts of every record since its latest first part are
none, a beginning of the record or all of it; the flags, the handles and the CRC say which. No part
exceeds its count or the response. A first part is always answered, a continuation exactly while
the transfer of its record is in progress, and every part brings the end nearer. The next records
are all records, each once. -/
theorem getPDR_transfers {P : Platform} {R : PDRRepositoryInfo} {out : ℕ} {s : Bmc × List Part}
    (havailable : R.updateInprogress = false)
    (hs : Reaches (request P out) (Orderly P) (.start R, []) s) :
    (∀ p ∈ s.2, p.recordData.length ≤ p.count ∧ p.response.length ≤ MAX_PLDM_RESPONSE_SIZE ∧
        p.nextRecordHandle = nextRecord R p.record) ∧
      ((List.range R.recordCount).map (fun k => (nextRecord R)^[k] 0) = List.range R.recordCount ∧
        (nextRecord R)^[R.recordCount] 0 = 0) ∧
      ∀ i r, R.PDRRecords[i]? = some r →
        (transferOf i s.2 = [] ∨
          (∃ offset, InProgress r (contextOf P i) offset (transferOf i s.2)) ∨
          Finished r (transferOf i s.2)) ∧
        ∀ v s', Orderly P s v → request P out s v = some s' → recordHandle v = i →
          ((∃ p, s'.2 = s.2 ++ [p]) ↔
            operationFlag v = EGetFirstPart ∨
            operationFlag v = EGetNextPart ∧
              (∃ offset, InProgress r (contextOf P i) offset (transferOf i s.2)) ∧
              recordChangeNumber v = r.recordChangeNumber.toNat) := by
  have hinv : Transfers P R s := by
    refine hs.invariant (Transfers P R) ?_ fun s v s' hI hok hstep =>
      (transfers_step hI hok hstep).1
    refine ⟨rfl, by simp, fun i r _ hkey => ?_, fun i r _ _ => .inl rfl⟩
    exact absurd (show (0 : UInt8) = PENDING_XFER_INIT_KEY from hkey) (by decide)
  refine ⟨hinv.parts, nextRecord_enumerates R, fun i r hr => ⟨?_, ?_⟩⟩
  · by_cases hkey : s.1.memory (contextOf P i) = PENDING_XFER_INIT_KEY
    · exact .inr (.inl ⟨_, hinv.live i r hr hkey⟩)
    · rcases hinv.idle i r hr hkey with h | h
      · exact .inl h
      · exact .inr (.inr h)
  · rintro v s' hok hstep rfl
    have hlive : s.1.memory (contextOf P (recordHandle v)) = PENDING_XFER_INIT_KEY ↔
        ∃ offset, InProgress r (contextOf P (recordHandle v)) offset
          (transferOf (recordHandle v) s.2) := by
      refine ⟨fun hkey => ⟨_, hinv.live _ r hr hkey⟩, fun ⟨offset, hprog⟩ => ?_⟩
      by_contra hkey
      rcases hinv.idle _ r hr hkey with h | h
      · exact hprog.ne_nil h
      · exact hprog.not_finished h
    rw [(transfers_step hinv hok hstep).2, ← hlive]
    have hrec : s.1.repository.PDRRecords[recordHandle v]? = some r := by
      rw [hinv.repository]
      exact hr
    have hupd : s.1.repository.updateInprogress = false := by
      rw [hinv.repository]
      exact havailable
    have hne : contextOf P (recordHandle v) ≠ 0 := by
      have := P.pdr_pos
      unfold contextOf
      omega
    constructor
    · rintro ⟨r', ⟨-, -, hop⟩ | ⟨-, hrec', hop, -, hkey, hchange⟩⟩
      · exact .inl hop
      · obtain rfl : r' = r := by simpa [hrec'] using hrec
        rw [hok.2 hop] at hkey
        exact .inr ⟨hop, hkey, hchange⟩
    · rintro (hop | ⟨hop, hkey, hchange⟩)
      · exact ⟨r, .inl ⟨hupd, hrec, hop⟩⟩
      · have hhandle := hok.2 hop
        refine ⟨r, .inr ⟨hupd, hrec, hop, ?_, ?_, hchange⟩⟩
        · rw [hhandle]
          exact hne
        · rw [hhandle]
          exact hkey

/-- The payload of a `GetPDR` request. -/
def getPDRRequest (record handle : ℕ) (flag : UInt8) (count : ℕ) : View where
  byte := fun i => (le32 record ++ le32 handle ++ [flag] ++ le16 count ++ le16 0).getD i 0
  received := 13

/-- The terminus record is read in two parts. -/
theorem getPDR_transfers_run :
    ∃ s, Reaches (request board 11) (Orderly board) (.start terminusRepository, []) s ∧
      (transferOf 0 s.2).length = 2 ∧ Finished xPdrTerminusLocator (transferOf 0 s.2) := by
  have hrun : (run (guarded (request board 11) (Orderly board)) (.start terminusRepository, [])
      [getPDRRequest 0 0 1 20, getPDRRequest 0 (contextOf board 0) 0 20]).any
      (fun s => decide ((transferOf 0 s.2).map Part.transferFlag = [0x0, 0x4])) = true := by
    decide +kernel
  obtain ⟨s, hs, h⟩ := (Option.any_eq_true _ _).mp hrun
  have hflags := of_decide_eq_true h
  have hlen := congrArg List.length hflags
  rw [List.length_map] at hlen
  have hreach := Reaches.of_guarded_run _ .start hs
  obtain ⟨-, -, hall⟩ := getPDR_transfers rfl hreach
  refine ⟨s, hreach, hlen, ?_⟩
  rcases (hall 0 xPdrTerminusLocator rfl).1 with h0 | ⟨offset, hprog⟩ | hfin
  · rw [h0] at hlen
    cases hlen
  · have hlast : (0x4 : UInt8) ∈ (transferOf 0 s.2).map Part.transferFlag := by
      rw [hflags]
      decide
    obtain ⟨p, hp, hflag⟩ := List.mem_map.mp hlast
    exact absurd hflag (hprog.flag_ne hp)
  · exact hfin

/-- A second record: the names of a sensor. -/
def sensorNames : Pdr where
  recordHandle := 1
  PDRHeaderVersion := 1
  PDRType := 6
  recordChangeNumber := 0
  data := List.replicate 76 0x41
  size_le := by decide

def sensorRepository : PDRRepositoryInfo :=
  { terminusRepository with
    PDRRecords := [xPdrTerminusLocator, sensorNames]
    nonempty := by decide
    count_le := by decide }

/-- **A handle that was returned for one record** serves another record, from the middle on. -/
theorem continuation_of_other_record :
    ∃ s, Reaches (request board 11) always (.start sensorRepository, []) s ∧
      (transferOf 1 s.2).map (fun p => (p.first, p.recordData)) =
        [(false, (sensorNames.bytes.drop 20).take 30)] := by
  have hrun : (run (request board 11) (.start sensorRepository, [])
      [getPDRRequest 0 0 1 20, getPDRRequest 1 (contextOf board 0) 0 30]).any
      (fun s => decide ((transferOf 1 s.2).map (fun p => (p.first, p.recordData)) =
        [(false, (sensorNames.bytes.drop 20).take 30)])) = true := by
    decide +kernel
  obtain ⟨s, hs, h⟩ := (Option.any_eq_true _ _).mp hrun
  exact ⟨s, .of_run hs, of_decide_eq_true h⟩

end Amr.Pldm
