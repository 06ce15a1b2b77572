/-
# The MCTP interpreter

`process_mctp_request` (`mctp_parser.c`), `process_pldm_request` (`pldm_parser.c`), `process_request`
and `process_pmci_request` (`mctp_interpreter.c`), and their caller `vProcessRxMessage`
(`bmc_proxy_driver.c`). A message is laid out as
`dest_slave_addr`, `byte_count`, `src_slave_addr`, `hdr_version`, `dest_ep_id`, `src_ep_id`, a byte
of `tag`, `to`, `seq_num`, `eom` and `som`, the message type, and the message from byte 8 on.
-/
import Amr.Mctp.Commands
import Amr.Pldm.Processor

namespace Amr.Mctp

open StateProgram Pldm

/-- `MCTP_MSG_MCTP_CONTROL` and `MCTP_MSG_MCTP_PLDM`. -/
def MCTP_MSG_MCTP_CONTROL : ℕ := 0x00
def MCTP_MSG_MCTP_PLDM : ℕ := 0x01

/-- Where the messages start in the response buffer. -/
def MSG_HEADER : ℕ := 8

/-- Create the initial data for an MCTP response message: the instance and the command. -/
def init_mctp_response (req : View) : Program Unit := do
  let header ← req.read 0
  put MSG_HEADER (UInt8.ofNat (header % 2 ^ 5))
  let mctp_cmd ← req.read 1
  put (MSG_HEADER + 1) (UInt8.ofNat mctp_cmd)

/-- Calls the function of a control command, and notes the exchange. -/
def serve (P : Platform) (req : View) (cmd : ℕ) (processor : MctpFunction) : Program ℕ := do
  let n ← processor.call P (req.drop 2) (MSG_HEADER + 2)
  modify fun s => { s with
    handled := s.handled ++ [{
      mctp_cmd := cmd
      request := (req.drop 2).byte
      response := (List.range n).map fun i => s.RespBuffer (MSG_HEADER + 2 + i) }] }
  pure (2 + n)

/-- Process data received in an MCTP control message. -/
def process_mctp_request (P : Platform) (req : View) (request_pkt : Bool) : Program ℕ := do
  (if request_pkt then init_mctp_response req else pure ())
  let cmd ← req.read 1
  match ← get_mctp_func cmd with
  | none => do
    put (MSG_HEADER + 2) (UInt8.ofNat RESP_MCTP_CTRL_MSG_ERROR_MCTP_CMD_NS)
    pure 3
  | some processor => serve P req cmd processor

/-- Create the initial data for a PLDM response: the header of the request without the bits `rq`
and `d`. -/
def init_pldm_response (req : View) : Program Unit := do
  let rq_d_instanceID ← req.read 0
  put MSG_HEADER (UInt8.ofNat (rq_d_instanceID % 2 ^ 6))
  let hdr_pldm_type ← req.read 1
  put (MSG_HEADER + 1) (UInt8.ofNat hdr_pldm_type)
  let pldm_cmd ← req.read 2
  put (MSG_HEADER + 2) (UInt8.ofNat pldm_cmd)

def process_pldm_request (P : Platform) (E : Oracle) (req : View) (request_pkt : Bool) :
    Program ℕ := do
  (if request_pkt then init_pldm_response req else pure ())
  let hdr_pldm_type ← req.read 1
  let cmd ← req.read 2
  match get_pldm_func (hdr_pldm_type % 2 ^ 3) cmd with
  | .error ret => do
    put (MSG_HEADER + 3) (UInt8.ofNat ret)
    pure 4
  | .ok processor => do
    let n ← processor.call P E (req.drop 3) (MSG_HEADER + 3)
    pure (3 + n)

/-- Process the MCTP request message. The type of the response is that of the request where the
endpoint knows it. -/
def process_request (P : Platform) (E : Oracle) (req : View) : Program ℕ := do
  let header ← req.read 8
  modify fun s => { s with request_pkt := decide (header / 2 ^ 7 = 1) }
  let s ← get
  let msg_type ← req.read 7
  if msg_type = MCTP_MSG_MCTP_CONTROL then do
    put 7 (UInt8.ofNat MCTP_MSG_MCTP_CONTROL)
    let n ← process_mctp_request P (req.drop MSG_HEADER) s.request_pkt
    pure (n + 1)
  else if msg_type = MCTP_MSG_MCTP_PLDM then do
    put 7 (UInt8.ofNat MCTP_MSG_MCTP_PLDM)
    let n ← process_pldm_request P E (req.drop MSG_HEADER) s.request_pkt
    pure (n + 1)
  else pure 1

/-- Writes the byte with `tag`, `seq_num`, `eom` and `som` of the response; `to` stays 0. -/
def putFlags (tag seq_num : ℕ) (eom som : Bool) : Program Unit :=
  put 6 (UInt8.ofNat (tag + 2 ^ 4 * (seq_num % 4) + 2 ^ 6 * eom.toNat + 2 ^ 7 * som.toNat))

/-- The loop that splits the response: packet `n` is sent, and the rest of the payload is moved to
the start of the payload buffer. At most `fuel` packets; the payload shrinks with every packet. -/
def disassemble (E : Oracle) (dest tag : ℕ) : ℕ → ℕ → ℕ → Program Unit
  | 0, _, _ => pure ()
  | fuel + 1, n, payload_size =>
    if payload_size = 0 then pure ()
    else do
      let pkt_size := min payload_size MCTP_MAX_PAYLOAD_SIZE
      putFlags tag n (decide (payload_size ≤ MCTP_MAX_PAYLOAD_SIZE)) (decide (n = 0))
      put 0 (UInt8.ofNat (dest / 2))
      let ret_size := MCTP_HEADER + pkt_size
      put 1 (UInt8.ofNat (ret_size - 2))
      let s ← get
      -- `iResponseDataWrite`
      if E.write n then do
        modify fun s => { s with sent := s.sent ++ [firstBytes s.RespBuffer ret_size] }
        let rest := payload_size - pkt_size
        modify fun t => { t with
          RespBuffer := overwrite t.RespBuffer MCTP_HEADER
            ((List.range rest).map fun i =>
              s.RespBuffer (MCTP_HEADER + MCTP_MAX_PAYLOAD_SIZE + i)) }
        disassemble E dest tag fuel (n + 1) rest
      else pure ()

/-- The part of `process_pmci_request` that answers. -/
def respond (E : Oracle) (req : View) (payload_size : ℕ) : Program Unit := do
  let s ← get
  if s.request_pkt then do
    put 2 (UInt8.ofNat (0x18 * 2 + 1))
    let hdr_version ← req.read 3
    put 3 (UInt8.ofNat hdr_version)
    let src_ep_id ← req.read 5
    put 4 (UInt8.ofNat src_ep_id)
    let dest_ep_id ← req.read 4
    put 5 (UInt8.ofNat dest_ep_id)
    let flags ← req.read 6
    let src_slave_addr ← req.read 2
    disassemble E src_slave_addr (flags % 2 ^ 3) payload_size 0 payload_size

/-- Forgets a partial message: the buffer is filled with the character 0. -/
def dropPartial : Program Unit :=
  modify fun s => { s with
    multiPartReqBuffer := fun i =>
      if i < MAX_MULTIPART_BUFFER_SIZE then 0x30 else s.multiPartReqBuffer i
    staging_buff_size := 0
    prv_seq_num := 0 }

/-- Copies `n` bytes of a request behind the partial message. -/
def append (req : View) (off n : ℕ) : Program Unit := do
  let s ← get
  noteIf (MAX_MULTIPART_BUFFER_SIZE < s.staging_buff_size + n) .reassembly
  modify fun s => { s with
    multiPartReqBuffer := overwrite s.multiPartReqBuffer s.staging_buff_size
      (firstBytes (req.drop off).byte n)
    staging_buff_size := s.staging_buff_size + n }

/-- The switch of `process_pmci_request`: `flags` is the byte with `tag`, `to`, `seq_num`, `eom` and
`som` of the packet. -/
def receive (P : Platform) (E : Oracle) (req : View) (byte_count flags : ℕ) : Program Unit := do
  let seq_num := flags / 2 ^ 4 % 2 ^ 2
  let s ← get
  if flags / 2 ^ 7 % 2 = 1 then
    if flags / 2 ^ 6 % 2 = 1 then do
      -- a single packet
      let payload_size ← process_request P E req
      respond E req payload_size
    else if s.staging_buff_size = 0 then do
      dropPartial
      append req 0 byte_count
      modify fun s => { s with prv_seq_num := seq_num }
    else dropPartial
  else if (s.prv_seq_num + 1) % PKT_SEQ_MODULO ≠ seq_num then dropPartial
  else if flags / 2 ^ 6 % 2 = 1 then do
    -- the end of a message
    append req MCTP_HEADER (byte_count - MCTP_HEADER)
    let s ← get
    modify fun s => { s with
      passed := s.passed ++ [firstBytes s.multiPartReqBuffer s.staging_buff_size] }
    let payload_size ← process_request P E
      { byte := s.multiPartReqBuffer, received := s.staging_buff_size }
    modify fun s => { s with staging_buff_size := 0, prv_seq_num := 0 }
    respond E req payload_size
  else do
    append req MCTP_HEADER (byte_count - MCTP_HEADER)
    modify fun s => { s with prv_seq_num := seq_num }

/-- Process a received PMCI message of `i2cSlaveReadCount` bytes. The fields that are collected
before the length is looked at are kept for requests to the BMC, which nothing makes. -/
def process_pmci_request (P : Platform) (E : Oracle) (i2cSlaveReadCount : ℕ) : Program Unit := do
  let s ← get
  let req : View := { byte := s.ReqBuffer, received := i2cSlaveReadCount }
  let flags ← req.read 6
  let _BMC_endpoint_id_g ← req.read 5
  let _SC_endpoint_id_g ← req.read 4
  let _MCTP_header_version_g ← req.read 3
  let _BMC_slave_address_g ← req.read 2
  if i2cSlaveReadCount < MCTP_MESSAGE_SIZE then pure ()
  else do
    -- the bus does not deliver the address of the endpoint
    let req : View := { req with byte := Function.update req.byte 0 (0x18 * 2) }
    modify fun s => { s with ReqBuffer := req.byte }
    let byte_count := ((← req.read 1) + 2) % 2 ^ 8
    if byte_count ≠ i2cSlaveReadCount then pure ()
    else do
      let dest_ep_id ← req.read 4
      if dest_ep_id ≠ s.EID ∧ dest_ep_id ≠ 0 then pure ()
      else receive P E req byte_count flags

/-- The part of `vProcessRxMessage` that runs with the mutex taken and the arrival announced: the
message is put behind two bytes that the bus does not deliver. -/
def vProcessRxMessage (P : Platform) (E : Oracle) (pucRxData : List UInt8) : Program Unit := do
  let ulRxDataSize := pucRxData.length
  noteIf (MAX_BUFFER_SIZE < 2 + ulRxDataSize) .request
  modify fun s => { s with
    ReqBuffer := overwrite (Function.update (fun _ => 0) 1 (UInt8.ofNat ulRxDataSize)) 2 pucRxData
    RespBuffer := fun _ => 0 }
  if 0 < ulRxDataSize then process_pmci_request P E (ulRxDataSize + 2)
  else pure ()

end Amr.Mctp
