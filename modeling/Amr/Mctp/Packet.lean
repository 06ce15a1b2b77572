/-
# What a packet does

`vProcessRxMessage` lays a packet out in `ReqBuffer` and `process_pmci_request` takes one of seven
ways with it. Which one depends on the packet and on three variables of the endpoint (`kind`), and
`exec_vProcessRxMessage` gives the state that each of them leaves. Everything that is proved about
runs of the endpoint starts from that equation.
-/
import Amr.Mctp.Interpreter

namespace Amr.Mctp

open StateProgram Pldm

/-! ### The packet as the endpoint sees it -/

/-- `ReqBuffer` when a packet is looked at: the address of the endpoint and the count in front of
the bytes from the bus. -/
def packet (rx : List UInt8) : View where
  byte := Function.update
    (overwrite (Function.update (fun _ => 0) 1 (UInt8.ofNat rx.length)) 2 rx) 0 (0x18 * 2)
  received := rx.length + 2

namespace View

def dest_ep_id (req : View) : ℕ := (req.byte 4).toNat

def src_ep_id (req : View) : ℕ := (req.byte 5).toNat

def tag (req : View) : ℕ := (req.byte 6).toNat % 2 ^ 3

def seq_num (req : View) : ℕ := (req.byte 6).toNat / 2 ^ 4 % 2 ^ 2

def eom (req : View) : Prop := (req.byte 6).toNat / 2 ^ 6 % 2 = 1

def som (req : View) : Prop := (req.byte 6).toNat / 2 ^ 7 % 2 = 1

instance (req : View) : Decidable req.eom := inferInstanceAs (Decidable (_ = _))

instance (req : View) : Decidable req.som := inferInstanceAs (Decidable (_ = _))

def payload (req : View) : List UInt8 :=
  firstBytes (req.drop MCTP_HEADER).byte (req.received - MCTP_HEADER)

end View

/-- The packet has a message type, its count fits the byte that holds it, and it is addressed to
the endpoint or to everyone. -/
def Accepts (EID : ℕ) (rx : List UInt8) : Prop :=
  6 ≤ rx.length ∧ rx.length ≤ 253 ∧
    ((packet rx).dest_ep_id = EID ∨ (packet rx).dest_ep_id = 0)

instance (EID : ℕ) (rx : List UInt8) : Decidable (Accepts EID rx) :=
  inferInstanceAs (Decidable (_ ∧ _ ∧ _))

/-- The ways through `process_pmci_request`. -/
inductive Kind
  /-- not for the endpoint, or malformed -/
  | refused
  /-- a message of one packet -/
  | single
  /-- the first packet of a message -/
  | first
  /-- a first packet while a partial message is held -/
  | restart
  /-- a packet with another sequence number than the one that follows -/
  | stray
  /-- the last packet of a message -/
  | last
  /-- a packet between the first and the last -/
  | middle
  deriving DecidableEq, Repr

def kind (EID staging_buff_size prv_seq_num : ℕ) (rx : List UInt8) : Kind :=
  if ¬ Accepts EID rx then .refused
  else if (packet rx).som then
    if (packet rx).eom then .single
    else if staging_buff_size = 0 then .first
    else .restart
  else if (prv_seq_num + 1) % PKT_SEQ_MODULO ≠ (packet rx).seq_num then .stray
  else if (packet rx).eom then .last
  else .middle

/-- The way that a packet takes in a state. -/
def Bmc.kind (s : Bmc) (rx : List UInt8) : Kind :=
  Mctp.kind s.EID s.staging_buff_size s.prv_seq_num rx

/-- The state in which a packet is looked at. -/
def Bmc.arrived (s : Bmc) (rx : List UInt8) : Bmc :=
  { s with ReqBuffer := (packet rx).byte, RespBuffer := fun _ => 0 }

/-- The message that the last packet completes. -/
def Bmc.completed (s : Bmc) (rx : List UInt8) : View where
  byte := overwrite s.multiPartReqBuffer s.staging_buff_size (packet rx).payload
  received := s.staging_buff_size + ((packet rx).received - MCTP_HEADER)

/-- The message that a packet delivers to `process_request`. -/
def Bmc.delivered (s : Bmc) (rx : List UInt8) : Option View :=
  match s.kind rx with
  | .single => some (packet rx)
  | .last => some (s.completed rx)
  | _ => none

/-- What the endpoint does with a packet on each of the ways. -/
def route (P : Platform) (E : Oracle) (rx : List UInt8) : Kind → Program Unit
  | .refused => pure ()
  | .single => do
    let payload_size ← process_request P E (packet rx)
    respond E (packet rx) payload_size
  | .first => do
    dropPartial
    append (packet rx) 0 (packet rx).received
    modify fun s => { s with prv_seq_num := (packet rx).seq_num }
  | .restart => dropPartial
  | .stray => dropPartial
  | .last => do
    append (packet rx) MCTP_HEADER ((packet rx).received - MCTP_HEADER)
    let s ← get
    modify fun s => { s with
      passed := s.passed ++ [firstBytes s.multiPartReqBuffer s.staging_buff_size] }
    let payload_size ← process_request P E
      { byte := s.multiPartReqBuffer, received := s.staging_buff_size }
    modify fun s => { s with staging_buff_size := 0, prv_seq_num := 0 }
    respond E (packet rx) payload_size
  | .middle => do
    append (packet rx) MCTP_HEADER ((packet rx).received - MCTP_HEADER)
    modify fun s => { s with prv_seq_num := (packet rx).seq_num }

theorem packet_byte (rx : List UInt8) (i : ℕ) (h : i ≠ 0) :
    (packet rx).byte i =
      overwrite (Function.update (fun _ => 0) 1 (UInt8.ofNat rx.length)) 2 rx i :=
  Function.update_of_ne h _ _

variable {rx : List UInt8}

theorem packet_count (h : rx.length ≤ 253) :
    ((packet rx).byte 1).toNat = rx.length := by
  rw [packet_byte rx 1 (by decide)]
  have : rx.length < 256 := by omega
  simpa [overwrite] using this

variable (P : Platform) (E : Oracle)

theorem exec_receive {s : Bmc}
    (h : Accepts s.EID rx) :
    exec (receive P E (packet rx) (rx.length + 2) ((packet rx).byte 6).toNat) (s.arrived rx) =
      exec (route P E rx (s.kind rx)) (s.arrived rx) := by
  unfold receive
  rw [exec_get_bind]
  unfold Bmc.kind kind
  rw [if_neg (not_not_intro h)]
  by_cases hsom : (packet rx).som
  · have hsom' : ((packet rx).byte 6).toNat / 2 ^ 7 % 2 = 1 := hsom
    rw [if_pos hsom', if_pos hsom]
    by_cases heom : (packet rx).eom
    · have heom' : ((packet rx).byte 6).toNat / 2 ^ 6 % 2 = 1 := heom
      rw [if_pos heom', if_pos heom]
      rfl
    · have heom' : ¬ ((packet rx).byte 6).toNat / 2 ^ 6 % 2 = 1 := heom
      have harrived : (s.arrived rx).staging_buff_size = s.staging_buff_size := rfl
      rw [if_neg heom', if_neg heom, harrived]
      split <;> rfl
  · have hsom' : ¬ ((packet rx).byte 6).toNat / 2 ^ 7 % 2 = 1 := hsom
    have harrived : (s.arrived rx).prv_seq_num = s.prv_seq_num := rfl
    have hseq : ((packet rx).byte 6).toNat / 2 ^ 4 % 2 ^ 2 = (packet rx).seq_num := rfl
    rw [if_neg hsom', if_neg hsom, harrived, hseq]
    split
    · rfl
    · by_cases heom : (packet rx).eom
      · have heom' : ((packet rx).byte 6).toNat / 2 ^ 6 % 2 = 1 := heom
        rw [if_pos heom', if_pos heom]
        rfl
      · have heom' : ¬ ((packet rx).byte 6).toNat / 2 ^ 6 % 2 = 1 := heom
        rw [if_neg heom', if_neg heom]
        rfl

/-- **What an accepted packet does** to the endpoint. -/
theorem exec_of_accepts {s : Bmc}
    (h : Accepts s.EID rx) :
    exec (vProcessRxMessage P E rx) s = exec (route P E rx (s.kind rx)) (s.arrived rx) := by
  have hacc := h
  obtain ⟨hmin, hmax, hdest⟩ := h
  have hfit : ¬ MAX_BUFFER_SIZE < 2 + rx.length := by
    simp only [MAX_BUFFER_SIZE]
    omega
  have hlen : ¬ rx.length + 2 < MCTP_MESSAGE_SIZE := by
    simp only [MCTP_MESSAGE_SIZE]
    omega
  have hcount : (((packet rx).byte 1).toNat + 2) % 2 ^ 8 = rx.length + 2 := by
    rw [packet_count hmax]
    omega
  have hdest' : ¬ (((packet rx).byte 4).toNat ≠ s.EID ∧ ((packet rx).byte 4).toNat ≠ 0) := by
    simp only [View.dest_ep_id] at hdest
    tauto
  unfold vProcessRxMessage
  simp only [exec_bind, exec_noteIf_neg hfit, exec_modify]
  rw [if_pos (by omega)]
  unfold process_pmci_request
  rw [exec_get_bind, exec_read_bind (by simp only; omega), exec_read_bind (by simp only; omega),
    exec_read_bind (by simp only; omega), exec_read_bind (by simp only; omega),
    exec_read_bind (by simp only; omega), if_neg hlen, exec_bind]
  change exec ((packet rx).read 1 >>= _) (s.arrived rx) = _
  rw [exec_read_bind (by simp only [packet]; omega)]
  change exec (if (((packet rx).byte 1).toNat + 2) % 2 ^ 8 ≠ rx.length + 2 then _ else _) _ = _
  rw [if_neg (not_not_intro hcount), exec_read_bind (by simp only; omega)]
  change exec (if ((packet rx).byte 4).toNat ≠ s.EID ∧ ((packet rx).byte 4).toNat ≠ 0 then _
    else receive P E (packet rx) ((((packet rx).byte 1).toNat + 2) % 2 ^ 8)
      ((packet rx).byte 6).toNat) _ = _
  rw [if_neg hdest', hcount]
  exact exec_receive P E hacc

theorem exec_append (req : View) (off n : ℕ) (s : Bmc) :
    exec (append req off n) s =
      { s with
        multiPartReqBuffer := overwrite s.multiPartReqBuffer s.staging_buff_size
          (firstBytes (req.drop off).byte n)
        staging_buff_size := s.staging_buff_size + n
        faults := s.faults ++
          if MAX_MULTIPART_BUFFER_SIZE < s.staging_buff_size + n then [.reassembly] else [] } := by
  unfold append
  rw [exec_get_bind, exec_bind, exec_noteIf]
  rfl

/-- The state in which the message of several packets is handled. -/
def Bmc.joined (s : Bmc) (rx : List UInt8) : Bmc :=
  let req := s.completed rx
  { s.arrived rx with
    multiPartReqBuffer := req.byte
    staging_buff_size := req.received
    passed := s.passed ++ [firstBytes req.byte req.received]
    faults := s.faults ++ if MAX_MULTIPART_BUFFER_SIZE < req.received then [.reassembly] else [] }

/-- **What the last packet does**: the joined message is handled, then forgotten. -/
theorem exec_route_last (rx : List UInt8) (s : Bmc) :
    exec (route P E rx .last) (s.arrived rx) =
      exec (do
        let payload_size ← process_request P E (s.completed rx)
        modify fun s => { s with staging_buff_size := 0, prv_seq_num := 0 }
        respond E (packet rx) payload_size) (s.joined rx) := by
  unfold route
  rw [exec_bind, exec_append, exec_get_bind, exec_bind]
  rfl

/-! ### Runs -/

/-- The endpoint before the first packet. -/
def Bmc.start (repository : PDRRepositoryInfo) : Bmc where
  ReqBuffer := fun _ => 0
  RespBuffer := fun _ => 0
  multiPartReqBuffer := fun _ => 0
  request_pkt := true
  prv_seq_num := 0
  staging_buff_size := 0
  EID := 0
  eidSetFlag := false
  TID := 0
  repository := repository
  memory := fun _ => 0
  sent := []
  passed := []
  handled := []
  faults := []

/-- A packet is received, and the rest of the firmware does its part. -/
def step (P : Platform) (s : Bmc) (a : Oracle × List UInt8) : Option Bmc :=
  some (exec (vProcessRxMessage P a.1 a.2) s)

/-- The terminus record that `vPdrRepoInit` enters first, before the UUID is known. -/
def xPdrTerminusLocator : Pdr where
  recordHandle := 0
  PDRHeaderVersion := 1
  PDRType := 1
  recordChangeNumber := 0
  data := [0, 0, 1, 0, 0x7F, 0x7F, 0, 17, 1] ++ List.replicate UUID_SIZE 0
  size_le := by decide

/-- The repository of a board without sensors. -/
def terminusRepository : PDRRepositoryInfo where
  updateInprogress := false
  updateTimestamp := List.replicate 13 0
  OEMUpdateTimestamp := List.replicate 13 0
  repositorySize := 35
  largestRecordSize := 35
  dataTransferHandleTimeout := 0
  PDRRecords := [xPdrTerminusLocator]
  nonempty := by decide
  count_le := by decide

/-- A board with the transfer contexts one after the other. -/
def board : Platform where
  GetPDRPendingXfers := 0x20000000
  GetVersionPendingXfers := 0x20001000
  pucUuid := List.replicate UUID_SIZE 0
  pdr_pos := by decide
  pdr_lt := by decide
  version_pos := by decide
  version_lt := by decide

/-- An application without sensors on a bus that takes every packet. -/
def idle : Oracle where
  iSetNumericSensorEnable _ _ := UInt8.ofNat RESP_INVALID_SENSOR_ID
  iGetNumericSensorReading _ := none
  write _ := true

/-! ### Refused packets -/

/-- What goes wrong when the fields are collected from a packet that is too short for them. -/
def headerFaults (rx : List UInt8) : List Fault :=
  [6, 5, 4, 3, 2].flatMap fun i => if rx.length + 2 ≤ i then [.unreceived] else []

/-- What goes wrong with a packet that is refused. -/
def refusedFaults (rx : List UInt8) : List Fault :=
  (if MAX_BUFFER_SIZE < 2 + rx.length then [.request] else []) ++
    if rx = [] then [] else headerFaults rx

/-- **What a refused packet does** to the endpoint: only the buffers of one request change. -/
theorem exec_of_not_accepts {s : Bmc}
    (h : ¬ Accepts s.EID rx) :
    ∃ buf, exec (vProcessRxMessage P E rx) s =
      { s with
        ReqBuffer := buf
        RespBuffer := fun _ => 0
        faults := s.faults ++ refusedFaults rx } := by
  unfold vProcessRxMessage
  simp only [exec_bind, exec_noteIf, exec_modify]
  by_cases hrx : rx = []
  · subst hrx
    exact ⟨_, rfl⟩
  have hpos : 0 < rx.length := List.length_pos_iff.mpr hrx
  rw [if_pos hpos]
  unfold process_pmci_request refusedFaults headerFaults
  rw [exec_get_bind, exec_bind, exec_read, exec_bind, exec_read, exec_bind, exec_read, exec_bind,
    exec_read, exec_bind, exec_read]
  simp only [List.flatMap_cons, List.flatMap_nil, List.append_nil, if_neg hrx, List.append_assoc]
  by_cases hlen : rx.length + 2 < MCTP_MESSAGE_SIZE
  · rw [if_pos hlen]
    exact ⟨_, rfl⟩
  simp only [MCTP_MESSAGE_SIZE] at hlen
  rw [if_neg (by simpa [MCTP_MESSAGE_SIZE] using hlen), exec_bind,
    exec_read_bind (by simp only; omega)]
  refine ⟨(packet rx).byte, ?_⟩
  change exec (if (((packet rx).byte 1).toNat + 2) % 2 ^ 8 ≠ rx.length + 2 then _ else _) _ = _
  by_cases hcount : (((packet rx).byte 1).toNat + 2) % 2 ^ 8 ≠ rx.length + 2
  · rw [if_pos hcount]
    rfl
  have hmax : rx.length ≤ 253 := by omega
  have hdest : ((packet rx).byte 4).toNat ≠ s.EID ∧ ((packet rx).byte 4).toNat ≠ 0 := by
    refine ⟨fun he => h ⟨by omega, hmax, .inl he⟩, fun h0 => h ⟨by omega, hmax, .inr h0⟩⟩
  rw [if_neg hcount, exec_read_bind (by simp only; omega)]
  change exec (if ((packet rx).byte 4).toNat ≠ s.EID ∧ ((packet rx).byte 4).toNat ≠ 0 then _
    else _) _ = _
  rw [if_pos hdest]
  rfl

end Amr.Mctp
