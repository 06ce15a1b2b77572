/-
# The identity of the endpoint

`_EID` decides which packets the endpoint accepts, and `eidSetFlag` whether `GetEID` reports it.
An assignment is accepted when its response carries the completion code 0 and the status 0 in bits
5:4. The last accepted assignment names the endpoint in every state of a run, to the filter and to
`GetEID`, as long as no `FORCE_EID` comes while the flag is clear: `FORCE_EID` writes `_EID` and
leaves the flag as it is, and `GetEID` then reports 0.
-/
import Amr.Mctp.Frame
import Amr.Lib.Transition

namespace Amr.Mctp

open StateProgram Pldm Transition

/-! ### Assignments -/

namespace Exchange

/-- `endPointId` of a `SetEID` request. -/
def endPointId (e : Exchange) : ℕ := (e.request 1).toNat

/-- `operation` of a `SetEID` request. -/
def operation (e : Exchange) : ℕ := (e.request 0).toNat

/-- The response says that the endpoint id was assigned: it is complete, its completion code is
`RESP_MCTP_CTRL_MSG_SUCCESS` and the status in bits 5:4 is `EID_ASSIGNMENT_ACCEPTED`. -/
def Accepted (e : Exchange) : Prop :=
  e.mctp_cmd = 1 ∧ e.response.length = 4 ∧ e.response.getD 0 0 = 0 ∧
    (e.response.getD 1 0).toNat / 2 ^ 4 % 2 ^ 2 = 0

instance (e : Exchange) : Decidable e.Accepted := inferInstanceAs (Decidable (_ ∧ _ ∧ _ ∧ _))

end Exchange

/-- The endpoint id of the last accepted assignment. -/
def lastAssigned (es : List Exchange) : Option ℕ :=
  (es.reverse.find? fun e => decide e.Accepted).map Exchange.endPointId

theorem lastAssigned_nil : lastAssigned [] = none := rfl

theorem lastAssigned_append_of_accepted {e : Exchange} (es : List Exchange) (h : e.Accepted) :
    lastAssigned (es ++ [e]) = some e.endPointId := by
  simp [lastAssigned, h]

theorem lastAssigned_append_of_not {e : Exchange} (es : List Exchange) (h : ¬ e.Accepted) :
    lastAssigned (es ++ [e]) = lastAssigned es := by
  simp [lastAssigned, h]

/-- The parts of the state that an assignment is about. -/
def Bmc.identity (s : Bmc) : ℕ × Bool × List Exchange := (s.EID, s.eidSetFlag, s.handled)

instance : Answering (Same Bmc.identity) where
  notes _ _ _ := ⟨fun _ => rfl⟩
  puts _ := ⟨fun _ => rfl⟩
  contexts _ := ⟨fun _ => rfl⟩
  terminus _ := ⟨fun _ => rfl⟩
  records _ := ⟨fun _ => rfl⟩
  sends _ := ⟨fun _ => rfl⟩
  marks _ := ⟨fun _ => rfl⟩

theorem value_answerSetEID (out status endPointId : ℕ) (s : Bmc) :
    value (answerSetEID out status endPointId) s = 4 := rfl

theorem exec_answerSetEID (out status endPointId : ℕ) (s : Bmc) (h : s.RespBuffer (out + 1) = 0) :
    (exec (answerSetEID out status endPointId) s).RespBuffer out = 0 ∧
      (exec (answerSetEID out status endPointId) s).RespBuffer (out + 1) = UInt8.ofNat status := by
  simp only [answerSetEID, exec_bind, exec_put, respByte, value_bind, value_get, value_pure,
    exec_pure, exec_get, RESP_MCTP_CTRL_MSG_SUCCESS]
  simp [h]

theorem exec_rejectSetEID (out : ℕ) (s : Bmc) :
    (exec (rejectSetEID out) s).RespBuffer out = 2 := by
  simp only [rejectSetEID, exec_bind, exec_put, exec_pure]
  simp [RESP_MCTP_CTRL_MSG_ERROR_INVALID_DATA]

/-- The requests that assign an endpoint id. -/
def Assigns (eidSetFlag : Bool) (payloadIn : View) : Prop :=
  (payloadIn.byte 1).toNat ≠ 0 ∧ (payloadIn.byte 1).toNat ≠ 0xFF ∧
    ((payloadIn.byte 0).toNat = SET_EID ∧ eidSetFlag = false ∨ (payloadIn.byte 0).toNat = FORCE_EID)

instance (flag : Bool) (v : View) : Decidable (Assigns flag v) :=
  inferInstanceAs (Decidable (_ ∧ _ ∧ (_ ∨ _)))

theorem run_setEID_of_assigns {v : View} {s : Bmc} (out : ℕ) (hs : Assigns s.eidSetFlag v) :
    ∃ t : Bmc, (mctp_cmd_SetEID v out).run s =
        (answerSetEID out EID_ASSIGNMENT_ACCEPTED (v.byte 1).toNat).run t ∧
      t.RespBuffer = s.RespBuffer ∧
      t.identity =
        ((v.byte 1).toNat, s.eidSetFlag || decide ((v.byte 0).toNat = SET_EID), s.handled) := by
  obtain ⟨hne, hff, hop⟩ := hs
  have hid : (v.byte 1).toNat ≠ 0x00 ∧ (v.byte 1).toNat ≠ 0xFF := ⟨hne, hff⟩
  unfold mctp_cmd_SetEID
  rw [run_read_bind, if_pos hid, run_read_bind]
  rcases hop with ⟨hop, hflag⟩ | hop
  · have hflag' : ¬ (v.looked 0 (v.looked 1 s)).eidSetFlag = true := by
      change ¬ s.eidSetFlag = true
      simp [hflag]
    rw [if_pos hop, run_get_bind, if_pos hflag']
    refine ⟨_, rfl, rfl, ?_⟩
    simp [Bmc.identity, hop, View.looked]
  · have hset : ¬ (v.byte 0).toNat = SET_EID := by
      rw [hop]
      decide
    rw [if_neg hset, if_pos hop]
    refine ⟨_, rfl, rfl, ?_⟩
    simp [Bmc.identity, hset, View.looked]

theorem run_setEID_of_not_assigns {v : View} {s : Bmc} (out : ℕ)
    (hs : ¬ Assigns s.eidSetFlag v) :
    ∃ t : Bmc, t.RespBuffer = s.RespBuffer ∧ t.identity = s.identity ∧
      ((mctp_cmd_SetEID v out).run s = (0, t) ∨
        (mctp_cmd_SetEID v out).run s = (rejectSetEID out).run t ∨
        (mctp_cmd_SetEID v out).run s =
          (answerSetEID out EID_ASSIGNMENT_REJECTED (v.byte 1).toNat).run t) := by
  unfold mctp_cmd_SetEID
  rw [run_read_bind]
  by_cases hid : (v.byte 1).toNat ≠ 0x00 ∧ (v.byte 1).toNat ≠ 0xFF
  · rw [if_pos hid, run_read_bind]
    by_cases hset : (v.byte 0).toNat = SET_EID
    · have hflag : ¬ ¬ (v.looked 0 (v.looked 1 s)).eidSetFlag = true := by
        change ¬ ¬ s.eidSetFlag = true
        intro hf
        exact hs ⟨hid.1, hid.2, .inl ⟨hset, by simpa using hf⟩⟩
      rw [if_pos hset, run_get_bind, if_neg hflag]
      exact ⟨v.looked 0 (v.looked 1 s), rfl, rfl, .inr (.inr rfl)⟩
    · have hforce : ¬ (v.byte 0).toNat = FORCE_EID := fun hf => hs ⟨hid.1, hid.2, .inr hf⟩
      rw [if_neg hset, if_neg hforce]
      refine ⟨v.looked 0 (v.looked 1 s), rfl, rfl, ?_⟩
      split
      · exact .inr (.inl rfl)
      · split
        · exact .inr (.inl rfl)
        · exact .inl rfl
  · rw [if_neg hid]
    exact ⟨v.looked 1 s, rfl, rfl, .inr (.inl rfl)⟩

/-! ### One control command -/

/-- The request is a `SetEID` command. -/
def View.setsEID (req : View) : Prop :=
  (req.byte 7).toNat = MCTP_MSG_MCTP_CONTROL ∧ (req.byte (MSG_HEADER + 1)).toNat = 1

def View.control (req : View) : View := (req.drop MSG_HEADER).drop 2

theorem status_init (req : View) (s : Bmc) :
    (exec (init_mctp_response req) s).RespBuffer (MSG_HEADER + 2 + 1) =
      s.RespBuffer (MSG_HEADER + 2 + 1) := by
  simp only [init_mctp_response, exec_bind, value_read, exec_put, exec_read, MSG_HEADER]
  simp

variable (P : Platform)

theorem exec_process_mctp_request (req : View) (request_pkt : Bool) (s : Bmc) :
    ∃ t : Bmc, t.identity = s.identity ∧
      t.RespBuffer (MSG_HEADER + 2 + 1) = s.RespBuffer (MSG_HEADER + 2 + 1) ∧
      match mctp_func (req.byte 1).toNat with
      | none => (exec (process_mctp_request P req request_pkt) s).identity = t.identity
      | some f => exec (process_mctp_request P req request_pkt) s =
          exec (serve P req (req.byte 1).toNat f) t := by
  let t₀ := exec (if request_pkt then init_mctp_response req else pure () : Program Unit) s
  have hid : t₀.identity = s.identity := by
    exact same Bmc.identity (if request_pkt then init_mctp_response req else pure ()) s
  have hstatus : t₀.RespBuffer (MSG_HEADER + 2 + 1) = s.RespBuffer (MSG_HEADER + 2 + 1) := by
    cases request_pkt with
    | false => rfl
    | true => exact status_init req s
  have hfunc : (exec (get_mctp_func (req.byte 1).toNat) (req.looked 1 t₀)).RespBuffer =
      t₀.RespBuffer := by
    simp only [get_mctp_func, exec_bind, exec_noteIf, exec_pure, View.looked]
  refine ⟨exec (get_mctp_func (req.byte 1).toNat) (req.looked 1 t₀), ?_, ?_, ?_⟩
  · rw [same Bmc.identity]
    exact hid
  · rw [hfunc, hstatus]
  · have hexec : exec (process_mctp_request P req request_pkt) s =
        exec (match mctp_func (req.byte 1).toNat with
          | none => do
            put (MSG_HEADER + 2) (UInt8.ofNat RESP_MCTP_CTRL_MSG_ERROR_MCTP_CMD_NS)
            pure 3
          | some processor => serve P req (req.byte 1).toNat processor : Program ℕ)
          (exec (get_mctp_func (req.byte 1).toNat) (req.looked 1 t₀)) := by
      unfold process_mctp_request
      rw [exec_bind, exec_read_bind_looked]
      rfl
    rw [hexec]
    cases mctp_func (req.byte 1).toNat with
    | none => exact same Bmc.identity _ _
    | some f => rfl

theorem accepted_iff {cmd n : ℕ} {request : ℕ → UInt8} {resp : ℕ → UInt8} :
    Exchange.Accepted
        { mctp_cmd := cmd, request := request, response := (List.range n).map resp } ↔
      cmd = 1 ∧ n = 4 ∧ resp 0 = 0 ∧ (resp 1).toNat / 2 ^ 4 % 2 ^ 2 = 0 := by
  unfold Exchange.Accepted
  simp only [List.length_map, List.length_range]
  constructor
  · rintro ⟨hcmd, rfl, h0, h1⟩
    exact ⟨hcmd, rfl, h0, h1⟩
  · rintro ⟨hcmd, rfl, h0, h1⟩
    exact ⟨hcmd, rfl, h0, h1⟩

/-- The exchange that `serve` notes. -/
def exchange (P : Platform) (req : View) (cmd : ℕ) (f : MctpFunction) (s : Bmc) : Exchange where
  mctp_cmd := cmd
  request := (req.drop 2).byte
  response := (List.range (value (f.call P (req.drop 2) (MSG_HEADER + 2)) s)).map fun i =>
    (exec (f.call P (req.drop 2) (MSG_HEADER + 2)) s).RespBuffer (MSG_HEADER + 2 + i)

theorem identity_serve (req : View) (cmd : ℕ) (f : MctpFunction) (s : Bmc) :
    (exec (serve P req cmd f) s).identity =
      ((exec (f.call P (req.drop 2) (MSG_HEADER + 2)) s).EID,
        (exec (f.call P (req.drop 2) (MSG_HEADER + 2)) s).eidSetFlag,
        (exec (f.call P (req.drop 2) (MSG_HEADER + 2)) s).handled ++ [exchange P req cmd f s]) :=
  rfl

theorem mctp_func_eq_setEID {cmd : ℕ} {f : MctpFunction} (h : mctp_func cmd = some f) :
    f = .SetEID ↔ cmd = 1 := by
  unfold mctp_func at h
  split at h <;> cases h <;> simp

theorem serve_of_assigns (P : Platform) (req : View) {s : Bmc}
    (hs : Assigns s.eidSetFlag (req.drop 2)) (h0 : s.RespBuffer (MSG_HEADER + 2 + 1) = 0) :
    let e := exchange P req 1 .SetEID s
    e.Accepted ∧ (exec (serve P req 1 .SetEID) s).identity =
      (e.endPointId, s.eidSetFlag || decide (e.operation = SET_EID), s.handled ++ [e]) := by
  obtain ⟨t, hrun, hresp, hid⟩ := run_setEID_of_assigns (MSG_HEADER + 2) hs
  have hcall : exec (mctp_cmd_SetEID (req.drop 2) (MSG_HEADER + 2)) s =
      exec (answerSetEID (MSG_HEADER + 2) EID_ASSIGNMENT_ACCEPTED ((req.drop 2).byte 1).toNat) t :=
    congrArg Prod.snd hrun
  have hvalue : value (mctp_cmd_SetEID (req.drop 2) (MSG_HEADER + 2)) s = 4 :=
    congrArg Prod.fst hrun
  obtain ⟨hcode, hstatus⟩ := exec_answerSetEID (MSG_HEADER + 2) EID_ASSIGNMENT_ACCEPTED
    ((req.drop 2).byte 1).toNat t (by rw [hresp]; exact h0)
  have hkept : (exec (mctp_cmd_SetEID (req.drop 2) (MSG_HEADER + 2)) s).identity = t.identity := by
    rw [hcall]
    exact same Bmc.identity _ _
  refine ⟨accepted_iff.mpr ⟨rfl, hvalue, ?_, ?_⟩, ?_⟩
  · change (exec (mctp_cmd_SetEID (req.drop 2) (MSG_HEADER + 2)) s).RespBuffer _ = 0
    rw [hcall]
    exact hcode
  · change ((exec (mctp_cmd_SetEID (req.drop 2) (MSG_HEADER + 2)) s).RespBuffer _).toNat / _ % _ = 0
    rw [hcall, hstatus]
    rfl
  · rw [hid] at hkept
    rw [identity_serve]
    simp only [Bmc.identity, Prod.mk.injEq] at hkept
    change ((exec (mctp_cmd_SetEID (req.drop 2) (MSG_HEADER + 2)) s).EID,
      (exec (mctp_cmd_SetEID (req.drop 2) (MSG_HEADER + 2)) s).eidSetFlag,
      (exec (mctp_cmd_SetEID (req.drop 2) (MSG_HEADER + 2)) s).handled ++ [_]) = _
    rw [hkept.1, hkept.2.1, hkept.2.2]
    rfl

theorem identity_serve_of_same {P : Platform} {req : View} {cmd : ℕ} {f : MctpFunction} {s : Bmc}
    (h : (exec (f.call P (req.drop 2) (MSG_HEADER + 2)) s).identity = s.identity) :
    (exec (serve P req cmd f) s).identity =
      (s.EID, s.eidSetFlag, s.handled ++ [exchange P req cmd f s]) := by
  simp only [Bmc.identity, Prod.mk.injEq] at h
  rw [identity_serve, h.1, h.2.1, h.2.2]

theorem serve_of_not_assigns (req : View) {cmd : ℕ} {f : MctpFunction} {s : Bmc}
    (hf : mctp_func cmd = some f) (hs : ¬ (cmd = 1 ∧ Assigns s.eidSetFlag (req.drop 2)))
    (h0 : s.RespBuffer (MSG_HEADER + 2 + 1) = 0) :
    ¬ (exchange P req cmd f s).Accepted ∧ (exec (serve P req cmd f) s).identity =
      (s.EID, s.eidSetFlag, s.handled ++ [exchange P req cmd f s]) := by
  by_cases hset : f = .SetEID
  · subst hset
    obtain rfl : cmd = 1 := (mctp_func_eq_setEID hf).mp rfl
    obtain ⟨t, hresp, hid, hrun⟩ := run_setEID_of_not_assigns (v := req.drop 2) (MSG_HEADER + 2)
      (fun ha => hs ⟨rfl, ha⟩)
    refine ⟨fun hacc => ?_, identity_serve_of_same ?_⟩
    · obtain ⟨-, hn, hcode, hstatus⟩ := accepted_iff.mp hacc
      rcases hrun with hrun | hrun | hrun
      · have hn' : value (mctp_cmd_SetEID (req.drop 2) (MSG_HEADER + 2)) s = 0 :=
          congrArg Prod.fst hrun
        exact absurd (hn'.symm.trans hn) (by decide)
      · have hexec : exec (mctp_cmd_SetEID (req.drop 2) (MSG_HEADER + 2)) s =
            exec (rejectSetEID (MSG_HEADER + 2)) t := congrArg Prod.snd hrun
        change (exec (mctp_cmd_SetEID (req.drop 2) (MSG_HEADER + 2)) s).RespBuffer _ = 0 at hcode
        rw [hexec, exec_rejectSetEID] at hcode
        exact absurd hcode (by decide)
      · have hexec : exec (mctp_cmd_SetEID (req.drop 2) (MSG_HEADER + 2)) s =
            exec (answerSetEID (MSG_HEADER + 2) EID_ASSIGNMENT_REJECTED
              ((req.drop 2).byte 1).toNat) t := congrArg Prod.snd hrun
        change ((exec (mctp_cmd_SetEID (req.drop 2) (MSG_HEADER + 2)) s).RespBuffer
          (MSG_HEADER + 2 + 1)).toNat / 2 ^ 4 % 2 ^ 2 = 0 at hstatus
        rw [hexec, (exec_answerSetEID _ _ _ t (by rw [hresp]; exact h0)).2] at hstatus
        exact absurd hstatus (by decide)
    · change (exec (mctp_cmd_SetEID (req.drop 2) (MSG_HEADER + 2)) s).identity = s.identity
      rw [← hid]
      rcases hrun with hrun | hrun | hrun
      · exact congrArg Bmc.identity (congrArg Prod.snd hrun)
      · have hexec : exec (mctp_cmd_SetEID (req.drop 2) (MSG_HEADER + 2)) s =
            exec (rejectSetEID (MSG_HEADER + 2)) t := congrArg Prod.snd hrun
        rw [hexec]
        exact same Bmc.identity _ _
      · have hexec : exec (mctp_cmd_SetEID (req.drop 2) (MSG_HEADER + 2)) s =
            exec (answerSetEID (MSG_HEADER + 2) EID_ASSIGNMENT_REJECTED
              ((req.drop 2).byte 1).toNat) t := congrArg Prod.snd hrun
        rw [hexec]
        exact same Bmc.identity _ _
  · have hcall : Within (Same Bmc.identity) (f.call P (req.drop 2) (MSG_HEADER + 2)) :=
      Within.mctpCall P (req.drop 2) (MSG_HEADER + 2) hset
    refine ⟨fun hacc => hset ((mctp_func_eq_setEID hf).mpr ?_), identity_serve_of_same ?_⟩
    · exact hacc.1
    · exact hcall.rel s

/-! ### One packet -/

instance (req : View) : Decidable req.setsEID := inferInstanceAs (Decidable (_ ∧ _))

variable (E : Oracle)

theorem identity_process_request (req : View) {s : Bmc}
    (h0 : s.RespBuffer (MSG_HEADER + 2 + 1) = 0) :
    if req.setsEID ∧ Assigns s.eidSetFlag req.control then
      ∃ e : Exchange, e.request = req.control.byte ∧ e.Accepted ∧
        (exec (process_request P E req) s).identity =
          (e.endPointId, s.eidSetFlag || decide (e.operation = SET_EID), s.handled ++ [e])
    else
      (exec (process_request P E req) s).identity = s.identity ∨
        ∃ e : Exchange, ¬ e.Accepted ∧
          (exec (process_request P E req) s).identity =
            (s.EID, s.eidSetFlag, s.handled ++ [e]) := by
  by_cases hctrl : (req.byte 7).toNat = MCTP_MSG_MCTP_CONTROL
  · -- the state in which the command is looked at
    let t₀ : Bmc := req.looked 7 (exec (modify fun s => { s with
      request_pkt := decide ((req.byte 8).toNat / 2 ^ 7 = 1) } : Program Unit) (req.looked 8 s))
    let t₁ := exec (put 7 (UInt8.ofNat MCTP_MSG_MCTP_CONTROL)) t₀
    have h1 : t₁.RespBuffer (MSG_HEADER + 2 + 1) = 0 := by
      simp only [t₁, exec_put]
      rw [Function.update_of_ne (by decide)]
      exact h0
    have hid1 : t₁.identity = s.identity := by
      change (exec (put 7 (UInt8.ofNat MCTP_MSG_MCTP_CONTROL)) t₀).identity = _
      rw [same Bmc.identity]
      rfl
    obtain ⟨t, hid, hstatus, hexec⟩ :=
      exec_process_mctp_request P (req.drop MSG_HEADER) t₀.request_pkt t₁
    have hidt : t.identity = s.identity := hid.trans hid1
    have hflag : t.eidSetFlag = s.eidSetFlag := congrArg (fun p => p.2.1) hidt
    have hEID : t.EID = s.EID := congrArg (fun p => p.1) hidt
    have hhandled : t.handled = s.handled := congrArg (fun p => p.2.2) hidt
    have hstep : exec (process_request P E req) s =
        exec (process_mctp_request P (req.drop MSG_HEADER) t₀.request_pkt) t₁ := by
      unfold process_request
      rw [exec_read_bind_looked, exec_bind, exec_get_bind, exec_read_bind_looked, if_pos hctrl]
      rfl
    rw [hstep, ← hflag, ← hEID, ← hhandled]
    cases hf : mctp_func ((req.drop MSG_HEADER).byte 1).toNat with
    | none =>
      have hset : ¬ (req.setsEID ∧ Assigns t.eidSetFlag req.control) := by
        rintro ⟨⟨-, hcmd⟩, -⟩
        have hcmd' : ((req.drop MSG_HEADER).byte 1).toNat = 1 := hcmd
        rw [hcmd'] at hf
        cases hf
      rw [hf] at hexec
      rw [if_neg hset]
      exact .inl (hexec.trans hidt)
    | some f =>
      rw [hf] at hexec
      simp only at hexec
      rw [hexec]
      by_cases hs : req.setsEID ∧ Assigns t.eidSetFlag req.control
      · have hcmd : ((req.drop MSG_HEADER).byte 1).toNat = 1 := hs.1.2
        obtain rfl : f = .SetEID := (mctp_func_eq_setEID hf).mpr hcmd
        rw [if_pos hs, hcmd]
        exact ⟨_, rfl, serve_of_assigns P (req.drop MSG_HEADER) hs.2 (hstatus.trans h1)⟩
      · rw [if_neg hs]
        refine .inr ⟨_, serve_of_not_assigns P (req.drop MSG_HEADER) hf (fun h => hs ?_)
          (hstatus.trans h1)⟩
        exact ⟨⟨hctrl, h.1⟩, h.2⟩
  · have hset : ¬ (req.setsEID ∧ Assigns s.eidSetFlag req.control) := fun h => hctrl h.1.1
    rw [if_neg hset]
    unfold process_request
    rw [exec_read_bind_looked, exec_bind, exec_get_bind, exec_read_bind_looked, if_neg hctrl]
    exact .inl (same Bmc.identity _ _)

theorem identity_route (rx : List UInt8) {s : Bmc} {k : Kind}
    (h : k ≠ .single) (h' : k ≠ .last) : (exec (route P E rx k) s).identity = s.identity := by
  cases k with
  | single => exact absurd rfl h
  | last => exact absurd rfl h'
  | refused => rfl
  | restart => rfl
  | stray => rfl
  | first =>
    simp only [route, exec_bind, exec_append, exec_modify]
    rfl
  | middle =>
    simp only [route, exec_bind, exec_append, exec_modify]
    rfl

variable {rx : List UInt8}

theorem identity_of_not_delivered {s : Bmc}
    (h : s.delivered rx = none) : (exec (vProcessRxMessage P E rx) s).identity = s.identity := by
  by_cases hacc : Accepts s.EID rx
  · rw [exec_of_accepts P E hacc, identity_route P E rx]
    · rfl
    · intro hk
      simp [Bmc.delivered, hk] at h
    · intro hk
      simp [Bmc.delivered, hk] at h
  · obtain ⟨buf, hexec⟩ := exec_of_not_accepts P E hacc
    rw [hexec]
    rfl

theorem identity_of_delivered {s : Bmc} {req : View}
    (h : s.delivered rx = some req) :
    ∃ t : Bmc, t.identity = s.identity ∧ t.RespBuffer (MSG_HEADER + 2 + 1) = 0 ∧
      (exec (vProcessRxMessage P E rx) s).identity = (exec (process_request P E req) t).identity := by
  have hacc : Accepts s.EID rx := by
    by_contra hacc
    simp [Bmc.delivered, Bmc.kind, kind, hacc] at h
  rw [exec_of_accepts P E hacc]
  unfold Bmc.delivered at h
  cases hk : s.kind rx with
  | single =>
    rw [hk] at h
    cases h
    refine ⟨s.arrived rx, rfl, rfl, ?_⟩
    exact same Bmc.identity (respond E (packet rx) _) _
  | last =>
    rw [hk] at h
    cases h
    refine ⟨s.joined rx, rfl, rfl, ?_⟩
    rw [exec_route_last, exec_bind, exec_bind]
    exact same Bmc.identity (respond E (packet rx) _) _
  | refused => rw [hk] at h; cases h
  | first => rw [hk] at h; cases h
  | restart => rw [hk] at h; cases h
  | stray => rw [hk] at h; cases h
  | middle => rw [hk] at h; cases h

/-! ### Runs -/

/-- The endpoint id that `GetEID` reports. -/
def reportedEID (s : Bmc) : ℕ :=
  ((exec (mctp_cmd_GetEID (MSG_HEADER + 2)) s).RespBuffer (MSG_HEADER + 2 + 1)).toNat

theorem reportedEID_eq (s : Bmc) : reportedEID s = if s.eidSetFlag then s.EID % 2 ^ 8 else 0 := by
  unfold reportedEID mctp_cmd_GetEID
  simp only [exec_bind, exec_put, exec_get, value_get, exec_pure]
  cases hf : s.eidSetFlag <;> simp

/-- The packet delivers a `FORCE_EID` request for a valid endpoint id. -/
def Bmc.Forces (s : Bmc) (rx : List UInt8) : Prop :=
  ∃ req ∈ s.delivered rx, req.setsEID ∧ (req.control.byte 0).toNat = FORCE_EID ∧
    (req.control.byte 1).toNat ≠ 0 ∧ (req.control.byte 1).toNat ≠ 0xFF

instance (s : Bmc) (rx : List UInt8) : Decidable (s.Forces rx) :=
  inferInstanceAs (Decidable (∃ req ∈ s.delivered rx, _))

/-- No endpoint id is forced before one has been set. -/
def SetBeforeForced (s : Bmc) (a : Oracle × List UInt8) : Prop :=
  s.Forces a.2 → s.eidSetFlag = true

instance (s : Bmc) (a : Oracle × List UInt8) : Decidable (SetBeforeForced s a) :=
  inferInstanceAs (Decidable (_ → _))

/-- The identity is that of the last accepted assignment. -/
structure Identified (s : Bmc) : Prop where
  EID_eq : s.EID = (lastAssigned s.handled).getD 0
  flag_eq : s.eidSetFlag = (lastAssigned s.handled).isSome
  EID_lt : s.EID < 2 ^ 8

theorem Identified.of_identity {s s' : Bmc} (hs : Identified s) (h : s'.identity = s.identity) :
    Identified s' := by
  simp only [Bmc.identity, Prod.mk.injEq] at h
  obtain ⟨hEID, hflag, hhandled⟩ := h
  exact ⟨by rw [hEID, hhandled, hs.EID_eq], by rw [hflag, hhandled, hs.flag_eq],
    by rw [hEID]; exact hs.EID_lt⟩

/-- The packet delivers a request that assigns an endpoint id. -/
def Bmc.Assigning (s : Bmc) (rx : List UInt8) : Prop :=
  ∃ req ∈ s.delivered rx, req.setsEID ∧ Assigns s.eidSetFlag req.control

theorem identity_of_assigning {s : Bmc} {req : View}
    (hd : s.delivered rx = some req) (hset : req.setsEID)
    (hass : Assigns s.eidSetFlag req.control) :
    ∃ e : Exchange, e.request = req.control.byte ∧ e.Accepted ∧
      (exec (vProcessRxMessage P E rx) s).identity =
        (e.endPointId, s.eidSetFlag || decide (e.operation = SET_EID), s.handled ++ [e]) := by
  obtain ⟨t, hid, h0, hexec⟩ := identity_of_delivered P E hd
  have hflag : t.eidSetFlag = s.eidSetFlag := congrArg (fun p => p.2.1) hid
  have hhandled : t.handled = s.handled := congrArg (fun p => p.2.2) hid
  have hreq := identity_process_request P E req h0
  rw [hflag, if_pos ⟨hset, hass⟩, hhandled] at hreq
  obtain ⟨e, hbyte, hacc, hident⟩ := hreq
  exact ⟨e, hbyte, hacc, hexec.trans hident⟩

theorem identity_of_not_assigning {s : Bmc}
    (h : ¬ s.Assigning rx) :
    (exec (vProcessRxMessage P E rx) s).identity = s.identity ∨
      ∃ e : Exchange, ¬ e.Accepted ∧ (exec (vProcessRxMessage P E rx) s).identity =
        (s.EID, s.eidSetFlag, s.handled ++ [e]) := by
  cases hd : s.delivered rx with
  | none => exact .inl (identity_of_not_delivered P E hd)
  | some req =>
    obtain ⟨t, hid, h0, hexec⟩ := identity_of_delivered P E hd
    have hflag : t.eidSetFlag = s.eidSetFlag := congrArg (fun p => p.2.1) hid
    have hEID : t.EID = s.EID := congrArg (fun p => p.1) hid
    have hhandled : t.handled = s.handled := congrArg (fun p => p.2.2) hid
    have hreq := identity_process_request P E req h0
    rw [hflag, if_neg (fun hs => h ⟨req, hd, hs⟩), hhandled, hEID, hid] at hreq
    rw [hexec]
    exact hreq

theorem Exchange.endPointId_lt (e : Exchange) : e.endPointId < 2 ^ 8 := UInt8.toNat_lt _

/-- **One packet keeps the identity** that of the last accepted assignment. -/
theorem identified_step {P : Platform} {s : Bmc} {a : Oracle × List UInt8} (hs : Identified s)
    (hok : SetBeforeForced s a) : Identified (exec (vProcessRxMessage P a.1 a.2) s) := by
  by_cases hass : s.Assigning a.2
  · obtain ⟨req, hd, hset, hvalid⟩ := hass
    obtain ⟨e, hbyte, hacc, h⟩ := identity_of_assigning P a.1 hd hset hvalid
    simp only [Bmc.identity, Prod.mk.injEq] at h
    obtain ⟨hEID, hflag, hhandled⟩ := h
    have hlast := lastAssigned_append_of_accepted s.handled hacc
    refine ⟨by rw [hEID, hhandled, hlast]; rfl, ?_, by rw [hEID]; exact e.endPointId_lt⟩
    rw [hflag, hhandled, hlast]
    obtain ⟨hne, hff, ⟨hop, -⟩ | hop⟩ := hvalid
    · have hop' : e.operation = SET_EID := by
        unfold Exchange.operation
        rw [hbyte]
        exact hop
      simp [hop']
    · simp [hok ⟨req, hd, hset, hop, hne, hff⟩]
  · rcases identity_of_not_assigning P a.1 hass with h | ⟨e, hacc, h⟩
    · exact hs.of_identity h
    · simp only [Bmc.identity, Prod.mk.injEq] at h
      obtain ⟨hEID, hflag, hhandled⟩ := h
      have hlast := lastAssigned_append_of_not s.handled hacc
      exact ⟨by rw [hEID, hhandled, hlast, hs.EID_eq], by rw [hflag, hhandled, hlast, hs.flag_eq],
        by rw [hEID]; exact hs.EID_lt⟩

/-- The endpoint is as the exchange says: the endpoint id is the requested one if the response says
accepted, and nothing of the identity has changed if it does not. -/
def Truthful (s s' : Bmc) (e : Exchange) : Prop :=
  s'.handled = s.handled ++ [e] ∧
    if e.Accepted then s'.EID = e.endPointId
    else s'.EID = s.EID ∧ s'.eidSetFlag = s.eidSetFlag

/-- **Endpoint identity.** In a run in which no endpoint id is forced before one has been set, the
id that the filter uses and the id that `GetEID` reports are that of the last accepted assignment,
or 0 if there is none. In every state a packet either leaves the identity alone or is answered with
the truth, and the two ids differ after a packet that forces an id before one has been set. -/
theorem endpoint_identity {P : Platform} {repository : PDRRepositoryInfo} {s : Bmc}
    (hs : Reaches (step P) SetBeforeForced (.start repository) s) :
    s.EID = (lastAssigned s.handled).getD 0 ∧
      reportedEID s = (lastAssigned s.handled).getD 0 ∧
      ∀ (E : Oracle) (rx : List UInt8) (s' : Bmc), step P s (E, rx) = some s' →
        (s'.identity = s.identity ∨ ∃ e, Truthful s s' e) ∧
          (¬ SetBeforeForced s (E, rx) → reportedEID s' ≠ s'.EID) := by
  have hid : Identified s := by
    refine hs.invariant Identified ⟨rfl, rfl, Nat.two_pow_pos 8⟩ fun s a s' hI hok hstep => ?_
    cases hstep
    exact identified_step hI hok
  refine ⟨hid.EID_eq, ?_, fun E rx s' hstep => ⟨?_, fun hforced => ?_⟩⟩
  · rw [reportedEID_eq, hid.flag_eq, Nat.mod_eq_of_lt hid.EID_lt, hid.EID_eq]
    cases lastAssigned s.handled <;> simp
  · cases hstep
    by_cases hass : s.Assigning rx
    · obtain ⟨req, hd, hset, hvalid⟩ := hass
      obtain ⟨e, -, hacc, h⟩ := identity_of_assigning P E hd hset hvalid
      simp only [Bmc.identity, Prod.mk.injEq] at h
      exact .inr ⟨e, h.2.2, by rw [if_pos hacc]; exact h.1⟩
    · rcases identity_of_not_assigning P E hass with h | ⟨e, hacc, h⟩
      · exact .inl h
      · simp only [Bmc.identity, Prod.mk.injEq] at h
        exact .inr ⟨e, h.2.2, by rw [if_neg hacc]; exact ⟨h.1, h.2.1⟩⟩
  · cases hstep
    obtain ⟨⟨req, hd, hset, hop, hne, hff⟩, hflag⟩ := Classical.not_imp.mp hforced
    have hflag' : s.eidSetFlag = false := by simpa using hflag
    obtain ⟨e, hbyte, -, h⟩ := identity_of_assigning P E hd hset ⟨hne, hff, .inr hop⟩
    simp only [Bmc.identity, Prod.mk.injEq] at h
    have hop' : e.operation ≠ SET_EID := by
      unfold Exchange.operation
      rw [hbyte, hop]
      decide
    have hid' : e.endPointId ≠ 0 := by
      unfold Exchange.endPointId
      rw [hbyte]
      exact hne
    rw [reportedEID_eq, h.1, h.2.1, hflag', decide_eq_false hop']
    exact fun h0 => hid' h0.symm

/-- A packet with a `SetEID` request. -/
def setEIDPacket (operation endPointId : UInt8) : List UInt8 :=
  [0x21, 1, 0, 8, 0xC8, 0, 0x80, 1, operation, endPointId]

/-- An endpoint that is assigned 9 and then forced to 10 is known as 10. -/
theorem endpoint_identity_run :
    ∃ s, Reaches (step board) SetBeforeForced (.start terminusRepository) s ∧ s.EID = 10 ∧
      reportedEID s = 10 := by
  have hrun : (run (guarded (step board) SetBeforeForced) (.start terminusRepository)
      [(idle, setEIDPacket 0 9), (idle, setEIDPacket 1 10)]).any
      (fun s => decide (lastAssigned s.handled = some 10)) = true := by
    decide +kernel
  obtain ⟨s, hs, hlast⟩ := (Option.any_eq_true _ _).mp hrun
  have hreach := Reaches.of_guarded_run _ .start hs
  obtain ⟨hEID, hreported, -⟩ := endpoint_identity hreach
  rw [of_decide_eq_true hlast] at hEID hreported
  exact ⟨s, hreach, hEID, hreported⟩

/-- **An endpoint id that is forced before one has been set** is used by the filter, and `GetEID`
reports 0. -/
theorem forced_endpoint_not_reported :
    ∃ s, Reaches (step board) always (.start terminusRepository) s ∧
      lastAssigned s.handled = some 9 ∧ s.EID = 9 ∧ reportedEID s = 0 := by
  have hrun : (run (step board) (.start terminusRepository) [(idle, setEIDPacket 1 9)]).any
      (fun s => decide (lastAssigned s.handled = some 9 ∧ s.EID = 9 ∧ reportedEID s = 0)) =
      true := by
    decide +kernel
  obtain ⟨s, hs, h⟩ := (Option.any_eq_true _ _).mp hrun
  exact ⟨s, .of_run hs, of_decide_eq_true h⟩

end Amr.Mctp
