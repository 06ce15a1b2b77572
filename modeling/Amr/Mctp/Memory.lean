/-
# The memory of the BMC proxy

The globals of `bmc_proxy_driver.c`, `mctp_interpreter.c`, `mctp_commands.c`, `pldm_processor.c`
and `pldm_pdr.c` that a request is handled with. Packed structures are laid over byte buffers, so
a field is its bytes at their offset, lowest byte first; what an access does wrong is noted. A
buffer has a byte at every address: the C code does not stop at the end of one either.
-/
import Amr.Lib.StateProgram

namespace Amr.Mctp

/-! ### Constants -/

/-- The size of `ReqBuffer` and of `RespBuffer`. -/
def MAX_BUFFER_SIZE : ℕ := 255

/-- The size of `multiPartReqBuffer`. -/
def MAX_MULTIPART_BUFFER_SIZE : ℕ := 1024

/-- The bytes of a packet in front of its payload. -/
def MCTP_HEADER : ℕ := 7

/-- `sizeof( mctp_message )`: the header and the message type. -/
def MCTP_MESSAGE_SIZE : ℕ := 8

def MCTP_MAX_PAYLOAD_SIZE : ℕ := 64

def PKT_SEQ_MODULO : ℕ := 4

/-- `PENDING_XFER_INIT_KEY`: the mark of a transfer that is going on. -/
def PENDING_XFER_INIT_KEY : UInt8 := 0x93

/-- `HAL_UUID_SIZE`. -/
def UUID_SIZE : ℕ := 16

/-! ### Platform descriptor records -/

/-- `sizeof( CommonPDRFormat )`. -/
def PDR_HEADER_SIZE : ℕ := 10

/-- `sizeof( PLDMNumericSensorNamePdr )`, the largest record that `vPdrRepoInit` enters. -/
def PDR_MAX_SIZE : ℕ := 86

/-- `TOTAL_PDR_COUNT`: the length of `PDRRecords`. -/
def TOTAL_PDR_COUNT : ℕ := 77

/-- A record. `vPdrRepoInit` sets the field `dataLength` of the header to the length of what
follows the header. -/
structure Pdr where
  recordHandle : UInt32
  PDRHeaderVersion : UInt8
  PDRType : UInt8
  recordChangeNumber : UInt16
  data : List UInt8
  size_le : data.length + PDR_HEADER_SIZE ≤ PDR_MAX_SIZE

def le16 (n : ℕ) : List UInt8 := [UInt8.ofNat n, UInt8.ofNat (n / 2 ^ 8)]

def le32 (n : ℕ) : List UInt8 :=
  [UInt8.ofNat n, UInt8.ofNat (n / 2 ^ 8), UInt8.ofNat (n / 2 ^ 16), UInt8.ofNat (n / 2 ^ 24)]

namespace Pdr

def dataLength (r : Pdr) : ℕ := r.data.length

/-- The record in memory: the common header and what follows it. -/
def bytes (r : Pdr) : List UInt8 :=
  le32 r.recordHandle.toNat ++ [r.PDRHeaderVersion, r.PDRType] ++
    le16 r.recordChangeNumber.toNat ++ le16 r.dataLength ++ r.data

theorem length_bytes (r : Pdr) : r.bytes.length = r.dataLength + PDR_HEADER_SIZE := by
  simp [bytes, le32, le16, dataLength, PDR_HEADER_SIZE]

theorem length_bytes_le (r : Pdr) : r.bytes.length ≤ PDR_MAX_SIZE := by
  rw [length_bytes]
  exact r.size_le

end Pdr

/-- `PDRRepositoryInfo`. The time stamps are kept as their thirteen bytes. -/
structure PDRRepositoryInfo where
  /-- `repositoryState == ERepoStateUpdateInprogress` -/
  updateInprogress : Bool
  updateTimestamp : List UInt8
  OEMUpdateTimestamp : List UInt8
  repositorySize : ℕ
  largestRecordSize : ℕ
  dataTransferHandleTimeout : UInt8
  PDRRecords : List Pdr
  nonempty : 0 < PDRRecords.length
  count_le : PDRRecords.length ≤ TOTAL_PDR_COUNT

def PDRRepositoryInfo.recordCount (r : PDRRepositoryInfo) : ℕ := r.PDRRecords.length

/-- The contexts that `GetPDRPendingXfers` and `GetVersionPendingXfers` hold. -/
def GET_PDR_CONTEXTS : ℕ := 100
def GET_VERSION_CONTEXTS : ℕ := 64

/-! ### State -/

inductive Fault
  /-- a table of functions is indexed behind its last entry -/
  | table
  /-- a byte of the request is read that was not received -/
  | unreceived
  /-- a handle is dereferenced that names no transfer context of the endpoint -/
  | handle
  /-- a byte behind a record is read -/
  | record
  /-- a variable is read that was never written -/
  | unset
  /-- a write behind the end of `ReqBuffer` -/
  | request
  /-- a write behind the end of `RespBuffer` -/
  | response
  /-- a write behind the end of `multiPartReqBuffer` -/
  | reassembly
  deriving DecidableEq, Repr

/-- Where the linker puts the transfer contexts, which are two bytes each, and what the board
is. -/
structure Platform where
  GetPDRPendingXfers : ℕ
  GetVersionPendingXfers : ℕ
  pucUuid : List UInt8
  pdr_pos : 0 < GetPDRPendingXfers
  pdr_lt : GetPDRPendingXfers + 2 * GET_PDR_CONTEXTS < 2 ^ 32
  version_pos : 0 < GetVersionPendingXfers
  version_lt : GetVersionPendingXfers + 2 * GET_VERSION_CONTEXTS < 2 ^ 32

/-- A control command that was handled: its payload, and the payload of the response. -/
structure Exchange where
  mctp_cmd : ℕ
  request : ℕ → UInt8
  response : List UInt8

/-- The globals of the proxy, and what has been observed of it. -/
structure Bmc where
  ReqBuffer : ℕ → UInt8
  RespBuffer : ℕ → UInt8
  multiPartReqBuffer : ℕ → UInt8
  request_pkt : Bool
  prv_seq_num : ℕ
  staging_buff_size : ℕ
  /-- `_EID` -/
  EID : ℕ
  eidSetFlag : Bool
  /-- `_TID` -/
  TID : UInt8
  repository : PDRRepositoryInfo
  /-- the memory behind 32-bit addresses; the transfer contexts lie in it -/
  memory : ℕ → UInt8
  /-- packets written to the bus, oldest first -/
  sent : List (List UInt8)
  /-- messages of several packets handed to `process_request`, oldest first -/
  passed : List (List UInt8)
  /-- control commands handled, oldest first -/
  handled : List Exchange
  faults : List Fault

abbrev Program (α : Type) := StateM Bmc α

def note (f : Fault) : Program Unit :=
  modify fun s => { s with faults := s.faults ++ [f] }

/-- Notes an access that goes wrong if it does. -/
def noteIf (wrong : Prop) [Decidable wrong] (f : Fault) : Program Unit :=
  if wrong then note f else pure ()

/-- A pointer into a request: the bytes from there on, and how many of them were received. -/
structure View where
  byte : ℕ → UInt8
  received : ℕ

/-- `&view[ off ]`. -/
def View.drop (v : View) (off : ℕ) : View :=
  { byte := fun i => v.byte (off + i), received := v.received - off }

def View.read (v : View) (i : ℕ) : Program ℕ := do
  noteIf (v.received ≤ i) .unreceived
  pure (v.byte i).toNat

/-- Reads a `uint16_t` of a request. -/
def View.read16 (v : View) (i : ℕ) : Program ℕ := do
  let lo ← v.read i
  let hi ← v.read (i + 1)
  pure (lo + 2 ^ 8 * hi)

/-- Reads a `uint32_t` of a request. -/
def View.read32 (v : View) (i : ℕ) : Program ℕ := do
  let lo ← v.read16 i
  let hi ← v.read16 (i + 2)
  pure (lo + 2 ^ 16 * hi)

def put (i : ℕ) (b : UInt8) : Program Unit := do
  noteIf (MAX_BUFFER_SIZE ≤ i) .response
  modify fun s => { s with RespBuffer := Function.update s.RespBuffer i b }

/-- Writes bytes of the response, from `i` on. -/
def putAll : ℕ → List UInt8 → Program Unit
  | _, [] => pure ()
  | i, b :: bs => do
    put i b
    putAll (i + 1) bs

/-- The first `n` bytes of a buffer. -/
def firstBytes (buf : ℕ → UInt8) (n : ℕ) : List UInt8 := (List.range n).map buf

/-- Copies `data` over a buffer from `off` on. -/
def overwrite (buf : ℕ → UInt8) (off : ℕ) (data : List UInt8) (i : ℕ) : UInt8 :=
  if i < off then buf i else data.getD (i - off) (buf i)

variable (buf : ℕ → UInt8)

@[simp] theorem length_firstBytes (n : ℕ) : (firstBytes buf n).length = n := by
  simp [firstBytes]

theorem firstBytes_add (m n : ℕ) :
    firstBytes buf (m + n) = firstBytes buf m ++ firstBytes (fun i => buf (m + i)) n := by
  simp [firstBytes, List.range_add, Function.comp_def]

theorem firstBytes_overwrite (off : ℕ) (data : List UInt8) :
    firstBytes (overwrite buf off data) (off + data.length) = firstBytes buf off ++ data := by
  have hfront : firstBytes (overwrite buf off data) off = firstBytes buf off := by
    refine List.map_congr_left fun i hi => ?_
    rw [overwrite, if_pos (List.mem_range.mp hi)]
  have hback : firstBytes (fun i => overwrite buf off data (off + i)) data.length = data := by
    refine List.ext_getElem (by simp) fun i hi hi' => ?_
    have hoff : ¬ off + i < off := by omega
    simp [firstBytes, overwrite, hoff, hi']
  rw [firstBytes_add, hfront, hback]

def respByte (i : ℕ) : Program ℕ := do
  let s ← get
  pure (s.RespBuffer i).toNat

/-! ### What the primitives do -/

open StateProgram

variable (v : View) (i : ℕ)

@[simp] theorem value_read (s : Bmc) : value (v.read i) s = (v.byte i).toNat :=
  rfl

theorem exec_noteIf (wrong : Prop) [Decidable wrong] (f : Fault) (s : Bmc) :
    exec (noteIf wrong f) s = { s with faults := s.faults ++ if wrong then [f] else [] } := by
  unfold noteIf
  by_cases h : wrong
  · simp only [if_pos h]
    rfl
  · simp only [if_neg h, exec_pure, List.append_nil]

theorem exec_noteIf_neg {wrong : Prop} [Decidable wrong] (h : ¬ wrong) (f : Fault) (s : Bmc) :
    exec (noteIf wrong f) s = s := by
  simp only [exec_noteIf, if_neg h, List.append_nil]

theorem exec_read (s : Bmc) :
    exec (v.read i) s =
      { s with faults := s.faults ++ if v.received ≤ i then [.unreceived] else [] } :=
  exec_noteIf _ _ _

theorem exec_read_of_lt {v : View} {i : ℕ} (h : i < v.received) (s : Bmc) :
    exec (v.read i) s = s :=
  exec_noteIf_neg (by omega) _ _

theorem exec_read_bind {α : Type} {v : View} {i : ℕ} (h : i < v.received) (k : ℕ → Program α)
    (s : Bmc) : exec (v.read i >>= k) s = exec (k (v.byte i).toNat) s := by
  rw [exec_bind, value_read, exec_read_of_lt h]

def View.looked (v : View) (i : ℕ) (s : Bmc) : Bmc :=
  { s with faults := s.faults ++ if v.received ≤ i then [.unreceived] else [] }

theorem run_read_bind {α : Type} (v : View) (i : ℕ) (k : ℕ → Program α) (s : Bmc) :
    (v.read i >>= k).run s = (k (v.byte i).toNat).run (v.looked i s) := by
  change (k (v.byte i).toNat).run (exec (v.read i) s) = _
  rw [exec_read]
  rfl

theorem exec_read_bind_looked {α : Type} (v : View) (i : ℕ) (k : ℕ → Program α) (s : Bmc) :
    exec (v.read i >>= k) s = exec (k (v.byte i).toNat) (v.looked i s) :=
  congrArg Prod.snd (run_read_bind v i k s)

theorem exec_put (b : UInt8) (s : Bmc) :
    exec (put i b) s =
      { s with
        RespBuffer := Function.update s.RespBuffer i b
        faults := s.faults ++ if MAX_BUFFER_SIZE ≤ i then [.response] else [] } := by
  simp only [put, exec_bind, exec_noteIf, exec_modify]

/-- The value of a `uint16_t` of a request. -/
def View.word16 (v : View) (i : ℕ) : ℕ := (v.byte i).toNat + 2 ^ 8 * (v.byte (i + 1)).toNat

/-- The value of a `uint32_t` of a request. -/
def View.word32 (v : View) (i : ℕ) : ℕ := v.word16 i + 2 ^ 16 * v.word16 (i + 2)

@[simp] theorem memory_looked (s : Bmc) :
    (v.looked i s).memory = s.memory := rfl

@[simp] theorem repository_looked (s : Bmc) :
    (v.looked i s).repository = s.repository := rfl

theorem run_read16_bind {α : Type} (v : View) (i : ℕ) (k : ℕ → Program α) (s : Bmc) :
    (v.read16 i >>= k).run s = (k (v.word16 i)).run (v.looked (i + 1) (v.looked i s)) := by
  unfold View.read16
  rw [bind_assoc, run_read_bind, bind_assoc, run_read_bind]
  rfl

theorem run_read32_bind {α : Type} (v : View) (i : ℕ) (k : ℕ → Program α) (s : Bmc) :
    (v.read32 i >>= k).run s = (k (v.word32 i)).run
      (v.looked (i + 2 + 1) (v.looked (i + 2) (v.looked (i + 1) (v.looked i s)))) := by
  unfold View.read32
  rw [bind_assoc, run_read16_bind, bind_assoc, run_read16_bind]
  rfl

theorem overwrite_cons (b : UInt8) (bs : List UInt8) :
    overwrite buf i (b :: bs) = overwrite (Function.update buf i b) (i + 1) bs := by
  funext j
  unfold overwrite
  rcases Nat.lt_trichotomy j i with h | rfl | h
  · have hne : j ≠ i := by omega
    rw [if_pos h, if_pos (by omega), Function.update_of_ne hne]
  · simp
  · have hne : j ≠ i := by omega
    obtain ⟨k, rfl⟩ : ∃ k, j = i + 1 + k := ⟨j - (i + 1), by omega⟩
    rw [if_neg (by omega), if_neg (by omega), Function.update_of_ne hne,
      show i + 1 + k - i = k + 1 by omega, show i + 1 + k - (i + 1) = k by omega]
    simp

theorem overwrite_nil : overwrite buf i [] = buf := by
  funext j
  simp [overwrite]

theorem exec_putAll (bs : List UInt8) : ∀ (i : ℕ) (s : Bmc),
    exec (putAll i bs) s =
      { s with
        RespBuffer := overwrite s.RespBuffer i bs
        faults := s.faults ++
          List.replicate (i + bs.length - max i MAX_BUFFER_SIZE) .response } := by
  induction bs with
  | nil =>
    intro i s
    have h : i + 0 - max i MAX_BUFFER_SIZE = 0 := by omega
    simp [putAll, overwrite_nil, h]
  | cons b bs ih =>
    intro i s
    simp only [putAll, exec_bind]
    rw [exec_put, ih, overwrite_cons]
    have hcount : (if MAX_BUFFER_SIZE ≤ i then [Fault.response] else []) ++
        List.replicate (i + 1 + bs.length - max (i + 1) MAX_BUFFER_SIZE) Fault.response =
        List.replicate (i + (b :: bs).length - max i MAX_BUFFER_SIZE) Fault.response := by
      rw [List.length_cons]
      by_cases h : MAX_BUFFER_SIZE ≤ i
      · rw [if_pos h, max_eq_left h, max_eq_left (by omega),
          show i + (bs.length + 1) - i = (i + 1 + bs.length - (i + 1)) + 1 by omega,
          List.replicate_succ]
        rfl
      · rw [if_neg h, List.nil_append, max_eq_right (by omega), max_eq_right (by omega),
          show i + 1 + bs.length = i + (bs.length + 1) by omega]
    simp only [List.append_assoc, hcount]

end Amr.Mctp
