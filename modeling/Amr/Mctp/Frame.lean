/-
# What answering a request leaves alone

A handler writes the response, the transfer contexts and the terminus, and the answer is sent.
None of that is what the endpoint takes its decisions about packets on: a relation that contains
these primitives (`Answering`) contains every handler but `mctp_cmd_SetEID`, and one that contains
the assignment of an endpoint id and the log of control commands too (`Serving`) contains all of
`process_request`.
-/
import Amr.Mctp.Packet

namespace Amr.Mctp

open StateProgram Pldm

-- A handler is one long term, and an instance problem of its size.
set_option synthInstance.maxSize 20000
set_option synthInstance.maxHeartbeats 200000

/-- A relation that contains what handlers do: what they get wrong is never the copy of a packet. -/
class Answering (R : Bmc → Bmc → Prop) : Prop extends Std.Refl R, IsTrans Bmc R where
  notes : ∀ f, f ≠ .request → f ≠ .reassembly → Within R (note f)
  puts : ∀ f : Bmc → ℕ → UInt8, Within R (modify fun s => { s with RespBuffer := f s })
  contexts : ∀ f : Bmc → ℕ → UInt8, Within R (modify fun s => { s with memory := f s })
  terminus : ∀ f : Bmc → UInt8, Within R (modify fun s => { s with TID := f s })
  records : ∀ f : Bmc → PDRRepositoryInfo, Within R (modify fun s => { s with repository := f s })
  sends : ∀ f : Bmc → List (List UInt8), Within R (modify fun s => { s with sent := f s })
  marks : ∀ f : Bmc → Bool, Within R (modify fun s => { s with request_pkt := f s })

/-- A relation that contains the assignment of an endpoint id and the log too. -/
class Serving (R : Bmc → Bmc → Prop) : Prop extends Answering R where
  forces : ∀ f : Bmc → ℕ, Within R (modify fun s => { s with EID := f s })
  assigns : ∀ f : Bmc → ℕ, Within R (modify fun s => { s with EID := f s, eidSetFlag := true })
  logs : ∀ f : Bmc → List Exchange, Within R (modify fun s => { s with handled := f s })

attribute [instance] Answering.puts Answering.contexts Answering.terminus
  Answering.records Answering.sends Answering.marks Serving.forces Serving.assigns Serving.logs

section Primitives

variable {R : Bmc → Bmc → Prop} [Answering R]

theorem Within.noteIf (wrong : Prop) [Decidable wrong] (f : Fault) (h : f ≠ .request)
    (h' : f ≠ .reassembly) : Within R (noteIf wrong f) := by
  have := Answering.notes (R := R) f h h'
  unfold Mctp.noteIf
  infer_instance

instance : Within R (note .unset) := Answering.notes _ (by decide) (by decide)

instance (wrong : Prop) [Decidable wrong] : Within R (noteIf wrong .table) :=
  Within.noteIf _ _ (by decide) (by decide)

instance (wrong : Prop) [Decidable wrong] : Within R (noteIf wrong .unreceived) :=
  Within.noteIf _ _ (by decide) (by decide)

instance (wrong : Prop) [Decidable wrong] : Within R (noteIf wrong .handle) :=
  Within.noteIf _ _ (by decide) (by decide)

instance (wrong : Prop) [Decidable wrong] : Within R (noteIf wrong .record) :=
  Within.noteIf _ _ (by decide) (by decide)

instance (wrong : Prop) [Decidable wrong] : Within R (noteIf wrong .response) :=
  Within.noteIf _ _ (by decide) (by decide)

instance (v : View) (i : ℕ) : Within R (v.read i) := by unfold View.read; infer_instance

instance (v : View) (i : ℕ) : Within R (v.read16 i) := by unfold View.read16; infer_instance

instance (v : View) (i : ℕ) : Within R (v.read32 i) := by unfold View.read32; infer_instance

instance (i : ℕ) (b : UInt8) : Within R (put i b) := by unfold put; infer_instance

instance Within.putAll : ∀ (i : ℕ) (bs : List UInt8), Within R (putAll i bs)
  | _, [] => inferInstanceAs (Within R (Pure.pure ()))
  | i, b :: bs =>
    have := Within.putAll (i + 1) bs
    inferInstanceAs (Within R (put i b >>= fun _ => Mctp.putAll (i + 1) bs))

instance (i : ℕ) : Within R (respByte i) := by unfold respByte; infer_instance

instance (out code : ℕ) : Within R (complete out code) := by unfold complete; infer_instance

instance (base n handle : ℕ) : Within R (pendingInfo base n handle) := by
  unfold pendingInfo; infer_instance

instance (handle : ℕ) (i n : UInt8) : Within R (setPendingInfo handle i n) := by
  unfold setPendingInfo; infer_instance

instance (tid : UInt8) : Within R (update_tid tid) := by unfold update_tid; infer_instance

end Primitives

section Handlers

variable {R : Bmc → Bmc → Prop} [Answering R] (P : Platform) (E : Oracle) (payloadIn : View)
  (out : ℕ)

/-! ### MCTP control commands -/

instance (status endPointId : ℕ) : Within R (answerSetEID out status endPointId) := by
  unfold answerSetEID; infer_instance

instance : Within R (rejectSetEID out) := by unfold rejectSetEID; infer_instance

instance : Within R (mctp_cmd_GetEID out) := by
  simp only [mctp_cmd_GetEID]; infer_instance

instance : Within R (mctp_cmd_GetUUID P out) := by unfold mctp_cmd_GetUUID; infer_instance

instance : Within R (mctp_cmd_GetMCTPVersion payloadIn out) := by
  simp only [mctp_cmd_GetMCTPVersion]; infer_instance

instance : Within R (mctp_cmd_GetMCTPMsgType out) := by
  unfold mctp_cmd_GetMCTPMsgType; infer_instance

instance (cmd : ℕ) : Within R (get_mctp_func cmd) := by unfold get_mctp_func; infer_instance

theorem Within.mctpCall {f : MctpFunction} (hf : f ≠ .SetEID) : Within R (f.call P payloadIn out) := by
  cases f with
  | SetEID => exact absurd rfl hf
  | GetEID => exact inferInstanceAs (Within R (mctp_cmd_GetEID out))
  | GetUUID => exact inferInstanceAs (Within R (mctp_cmd_GetUUID P out))
  | GetMCTPVersion => exact inferInstanceAs (Within R (mctp_cmd_GetMCTPVersion payloadIn out))
  | GetMCTPMsgType => exact inferInstanceAs (Within R (mctp_cmd_GetMCTPMsgType out))

/-! ### PLDM commands -/

instance : Within R (pldm_cmd_SetTID payloadIn out) := by unfold pldm_cmd_SetTID; infer_instance

instance : Within R (pldm_cmd_GetTID out) := by unfold pldm_cmd_GetTID; infer_instance

instance (type start_index handle : ℕ) (i : UInt8) :
    Within R (sendVersions out type start_index handle i) := by
  simp only [sendVersions]; infer_instance

instance : Within R (pldm_cmd_GetPLDMVersion P payloadIn out) := by
  simp only [pldm_cmd_GetPLDMVersion]; infer_instance

instance : Within R (pldm_cmd_GetPLDMType out) := by
  unfold pldm_cmd_GetPLDMType; infer_instance

instance Within.sameVersion (version : View) :
    ∀ (i : ℕ) (bs : List UInt8), Within R (sameVersion version i bs)
  | _, [] => inferInstanceAs (Within R (Pure.pure true))
  | i, b :: bs => by
    have := Within.sameVersion version (i + 1) bs
    unfold Pldm.sameVersion
    infer_instance

instance Within.versionId (version : View) :
    ∀ (id : ℕ) (vs : List (List UInt8)), Within R (get_pldm_version_id version id vs)
  | _, [] => inferInstanceAs (Within R (Pure.pure none))
  | id, v :: vs => by
    have := Within.versionId version (id + 1) vs
    unfold get_pldm_version_id
    infer_instance

instance (type : ℕ) (ver : View) : Within R (IsPldmVersionSupported type ver) := by
  unfold IsPldmVersionSupported
  split
  · refine Within.seq inferInstance (fun o => ?_)
    cases o <;> exact Within.pure _
  · infer_instance

instance (type : ℕ) (ver : View) : Within R (getPldmCmdSupport type ver) := by
  unfold getPldmCmdSupport
  split
  · refine Within.seq inferInstance (fun o => ?_)
    cases o with
    | none => exact Within.pure _
    | some id =>
      simp only
      split <;> exact Within.pure _
  · infer_instance

instance : Within R (pldm_cmd_GetPLDMCommand payloadIn out) := by
  unfold pldm_cmd_GetPLDMCommand; infer_instance

instance : Within R (pldm_cmd_SetNumericSensorEnable E payloadIn out) := by
  unfold pldm_cmd_SetNumericSensorEnable; infer_instance

instance (st : UInt8) (r : UInt16) : Within R (reportReading out st r) := by
  simp only [reportReading]; infer_instance

instance : Within R (pldm_cmd_GetSensorReading E payloadIn out) := by
  unfold pldm_cmd_GetSensorReading
  refine Within.seq inferInstance (fun id => ?_)
  cases E.iGetNumericSensorReading id with
  | none => infer_instance
  | some r =>
    simp only
    cases r.reading with
    | none => simp only; infer_instance
    | some p => simp only; infer_instance

instance : Within R (pldm_cmd_GetPDRRepositoryInfo out) := by
  unfold pldm_cmd_GetPDRRepositoryInfo; infer_instance

instance (r : Pdr) (start_index n : ℕ) (flag : UInt8) :
    Within R (putPart out r start_index n flag) := by
  unfold putPart; infer_instance

instance (record_handle : ℕ) (r : Pdr) (requestCount start_index handle : ℕ) (i n : UInt8) :
    Within R (sendPart out record_handle r requestCount start_index handle i n) := by
  simp only [sendPart]; infer_instance

instance : Within R (pldm_cmd_GetPDR P payloadIn out) := by
  unfold pldm_cmd_GetPDR
  refine Within.seq inferInstance (fun s => Within.seq inferInstance (fun h => ?_))
  split
  · infer_instance
  · split <;> infer_instance

instance (f : PldmFunction) : Within R (f.call P E payloadIn out) := by
  cases f <;> simp only [PldmFunction.call] <;> infer_instance

end Handlers

/-! ### The interpreter -/

section Interpreter

variable {R : Bmc → Bmc → Prop} [Answering R] (P : Platform) (E : Oracle) (req : View)

instance : Within R (init_mctp_response req) := by unfold init_mctp_response; infer_instance

instance : Within R (init_pldm_response req) := by unfold init_pldm_response; infer_instance

instance (request_pkt : Bool) : Within R (process_pldm_request P E req request_pkt) := by
  unfold process_pldm_request
  refine Within.seq inferInstance (fun _ => Within.seq inferInstance (fun type =>
    Within.seq inferInstance (fun cmd => ?_)))
  cases get_pldm_func (type % 2 ^ 3) cmd <;> simp only <;> infer_instance

instance (tag seq_num : ℕ) (eom som : Bool) : Within R (putFlags tag seq_num eom som) := by
  unfold putFlags; infer_instance

instance Within.disassemble (dest tag : ℕ) :
    ∀ fuel n payload_size : ℕ, Within R (disassemble E dest tag fuel n payload_size)
  | 0, _, _ => inferInstanceAs (Within R (Pure.pure ()))
  | fuel + 1, n, payload_size => by
    have := fun k => Within.disassemble dest tag fuel (n + 1) k
    simp only [Mctp.disassemble]
    infer_instance

instance (payload_size : ℕ) : Within R (respond E req payload_size) := by
  unfold respond; infer_instance

end Interpreter

section Serving

variable {R : Bmc → Bmc → Prop} [Serving R] (P : Platform) (E : Oracle) (req : View)

instance (payloadIn : View) (out : ℕ) : Within R (mctp_cmd_SetEID payloadIn out) := by
  unfold mctp_cmd_SetEID; infer_instance

instance (f : MctpFunction) (payloadIn : View) (out : ℕ) : Within R (f.call P payloadIn out) := by
  cases f <;> simp only [MctpFunction.call] <;> infer_instance

instance (cmd : ℕ) (f : MctpFunction) : Within R (serve P req cmd f) := by
  unfold serve; infer_instance

instance (request_pkt : Bool) : Within R (process_mctp_request P req request_pkt) := by
  unfold process_mctp_request
  refine Within.seq inferInstance (fun _ => Within.seq inferInstance (fun cmd =>
    Within.seq inferInstance (fun o => ?_)))
  cases o <;> simp only <;> infer_instance

instance : Within R (process_request P E req) := by unfold process_request; infer_instance

end Serving

end Amr.Mctp
