/-
# The payload of a command

A command with a payload goes through the shared memory of the device: the caller's buffer is copied
to the memory before the request is written, or from it after a response without error. Both copy
helpers compare `offset + len` with the size of the shared memory and return nothing, so a copy
that fails the comparison is left out and the call goes on.

The offset counts from the start of the payload memory and already has `amc_data_start` in it, the
size is that of the region from `amc_data_start` on. A payload at the end of the length granted is
therefore left out as soon as the region does not start at 0: the payload is transferred iff the
comparison of the copy helpers holds for it.
-/
import Amr.Amc.SubmitBalance

namespace Amr.Amc

/-! ### What is to be transferred -/

/-- The command sends the caller's buffer to the device. -/
def payloadOut (cmdId : AmcCmdId) (flags : UInt32) : Bool :=
  match cmdId with
  | .downloadPdi | .setFptPartition => true
  | .eepromReadWrite | .moduleReadWrite => rwType cmdId flags == AMC_PROXY_CMD_RW_REQUEST_WRITE
  | _ => false

/-- The command fills the caller's buffer from the device. -/
def payloadIn (cmdId : AmcCmdId) (flags : UInt32) : Bool :=
  match cmdId with
  | .sensor => true
  | .eepromReadWrite | .moduleReadWrite => rwType cmdId flags == AMC_PROXY_CMD_RW_REQUEST_READ
  | _ => false

/-- The offset of the memory that is acquired for a payload. -/
def payloadOffset (ctxt : AmcControlCtxt) : AmcCmdId → UInt32
  | .sensor => ctxt.getGcqLogPageAddr
  | _ => ctxt.shmAddrData

/-- The length of the memory that is acquired for a payload. -/
def grantedLength (ctxt : AmcControlCtxt) : AmcCmdId → UInt32
  | .sensor => AMC_LOG_PAGE_SIZE
  | _ => ctxt.shmSizeData

/-- The copy to the device that a command needs, of the whole payload and nothing past it. -/
def copiesOut (ctxt : AmcControlCtxt) (args : Args) (cmdId : AmcCmdId) : List Copy :=
  if payloadOut cmdId args.flags then [.toDevice (payloadOffset ctxt cmdId) args.dataSize] else []

/-- The copy from the device that a command needs. -/
def copiesIn (ctxt : AmcControlCtxt) (args : Args) (cmdId : AmcCmdId) : List Copy :=
  if payloadIn cmdId args.flags then [.fromDevice (payloadOffset ctxt cmdId) args.dataSize] else []

/-- The call as it comes to the request, if it does. -/
def prepared (ctxt : AmcControlCtxt) (args : Args) (o : Outcomes) (x : CidXarray) :
    Option (AmcCmdId × Call) :=
  match (Call.start ctxt args).checks with
  | .error _ => none
  | .ok cmdId =>
    match (Call.start ctxt args).kzalloc o.kzallocFails with
    | .error _ => none
    | .ok c =>
      match c.formPayload cmdId o.semaInterrupted with
      | .error _ => none
      | .ok c =>
        match getGcqCid x c.ctxt.id o.xaNoMemory with
        | .error _ => none
        | .ok (cid, _) => some (cmdId, c.initCmd cmdId cid o.jiffies)

def returned (ctxt : AmcControlCtxt) (args : Args) (o : Outcomes) (x : CidXarray) : ℤ :=
  (submitGcqCommand (some ctxt) args o x).1

def copied (ctxt : AmcControlCtxt) (args : Args) (o : Outcomes) (x : CidXarray) : List Copy :=
  (submitGcqCommand (some ctxt) args o x).2.2.1

/-- A call transfers its payload, or reports an error. -/
structure Transferred (ctxt : AmcControlCtxt) (args : Args) (o : Outcomes) (x : CidXarray) :
    Prop where
  /-- When the command is about to be written to the queue, the payload is in the device's memory. -/
  sent : ∀ cmdId c, prepared ctxt args o x = some (cmdId, c) → c.copies = copiesOut ctxt args cmdId
  /-- When the call succeeds, it has also fetched the payload of the answer. -/
  fetched : returned ctxt args o x = 0 → ∀ cmdId, getCmdCommandId args.cmdReq = some cmdId →
    copied ctxt args o x = copiesOut ctxt args cmdId ++ copiesIn ctxt args cmdId

/-- The payload of a request that is submitted meets the comparison of the copy helpers. -/
def PayloadInRange (ctxt : AmcControlCtxt) (args : Args) : Prop :=
  Accepted (some ctxt) args → ∀ cmdId, getCmdCommandId args.cmdReq = some cmdId →
    ¬ PayloadFails cmdId args false →
    payloadOut cmdId args.flags = true ∨ payloadIn cmdId args.flags = true →
      ctxt.inRange (payloadOffset ctxt cmdId) args.dataSize = true

/-! ### Up to the request -/

section

variable {ctxt : AmcControlCtxt} {args : Args} {cmdId : AmcCmdId} {c c' : Call}

/-- What is left of a copy that has to meet the comparison. -/
def ifInRange (ctxt : AmcControlCtxt) (args : Args) (cmdId : AmcCmdId) (l : List Copy) :
    List Copy :=
  if args.dataBuf && ctxt.inRange (payloadOffset ctxt cmdId) args.dataSize then l else []

@[simp] theorem ifInRange_nil : ifInRange ctxt args cmdId [] = [] := ite_self _

theorem memcpyToDevice_copies (h : c.payloadAddress = payloadOffset c.ctxt cmdId) :
    c.memcpyGcqPayloadToDevice.copies = c.copies ++
      ifInRange c.ctxt c.args cmdId [.toDevice (payloadOffset c.ctxt cmdId) c.args.dataSize] := by
  unfold Call.memcpyGcqPayloadToDevice ifInRange
  rw [h]
  split_ifs
  · rfl
  · exact (List.append_nil _).symm

theorem memcpyFromDevice_copies (h : c.payloadAddress = payloadOffset c.ctxt cmdId) :
    c.memcpyGcqPayloadFromDevice.copies = c.copies ++
      ifInRange c.ctxt c.args cmdId [.fromDevice (payloadOffset c.ctxt cmdId) c.args.dataSize] := by
  unfold Call.memcpyGcqPayloadFromDevice ifInRange
  rw [h]
  split_ifs
  · rfl
  · exact (List.append_nil _).symm

structure Formed (c : Call) (cmdId : AmcCmdId) (c' : Call) : Prop where
  ctxt : c'.ctxt = c.ctxt
  args : c'.args = c.args
  amcProxyCmd : c'.amcProxyCmd = c.amcProxyCmd
  address : payloadIn cmdId c.args.flags = true → c'.payloadAddress = payloadOffset c.ctxt cmdId
  copies : c'.copies = c.copies ++ ifInRange c.ctxt c.args cmdId (copiesOut c.ctxt c.args cmdId)

@[simp] theorem clampPayload_fields (c : Call) (length : UInt32) :
    (c.clampPayload length).ctxt = c.ctxt ∧ (c.clampPayload length).args = c.args ∧
      (c.clampPayload length).amcProxyCmd = c.amcProxyCmd ∧
      (c.clampPayload length).payloadAddress = c.payloadAddress ∧
      (c.clampPayload length).copies = c.copies := by
  unfold Call.clampPayload
  split_ifs <;> exact ⟨rfl, rfl, rfl, rfl, rfl⟩

theorem memcpyToDevice_fields (c : Call) :
    c.memcpyGcqPayloadToDevice.ctxt = c.ctxt ∧ c.memcpyGcqPayloadToDevice.args = c.args ∧
      c.memcpyGcqPayloadToDevice.amcProxyCmd = c.amcProxyCmd ∧
      c.memcpyGcqPayloadToDevice.payloadAddress = c.payloadAddress := by
  unfold Call.memcpyGcqPayloadToDevice
  split_ifs <;> exact ⟨rfl, rfl, rfl, rfl⟩

theorem Formed.of_memcpy {d : Call} (hctxt : d.ctxt = c.ctxt) (hargs : d.args = c.args)
    (hcmd : d.amcProxyCmd = c.amcProxyCmd) (haddr : d.payloadAddress = payloadOffset c.ctxt cmdId)
    (hcopies : d.copies = c.copies) (hout : payloadOut cmdId c.args.flags = true) :
    Formed c cmdId d.memcpyGcqPayloadToDevice := by
  obtain ⟨h1, h2, h3, h4⟩ := memcpyToDevice_fields d
  have haddr' : d.payloadAddress = payloadOffset d.ctxt cmdId := by rw [hctxt]; exact haddr
  refine ⟨h1.trans hctxt, h2.trans hargs, h3.trans hcmd, fun _ => h4.trans haddr, ?_⟩
  rw [memcpyToDevice_copies haddr', hctxt, hargs, hcopies, copiesOut, if_pos hout]

theorem Formed.of_eq {d : Call} (hctxt : d.ctxt = c.ctxt) (hargs : d.args = c.args)
    (hcmd : d.amcProxyCmd = c.amcProxyCmd)
    (haddr : payloadIn cmdId c.args.flags = true → d.payloadAddress = payloadOffset c.ctxt cmdId)
    (hcopies : d.copies = c.copies) (hout : payloadOut cmdId c.args.flags = false) :
    Formed c cmdId d := by
  refine ⟨hctxt, hargs, hcmd, haddr, ?_⟩
  rw [copiesOut, hout, if_neg (by decide), ifInRange_nil, List.append_nil, hcopies]

theorem sensorIds_fields (h : c.sensorIds = .ok c') :
    c'.ctxt = c.ctxt ∧ c'.args = c.args ∧ c'.amcProxyCmd = c.amcProxyCmd ∧
      c'.payloadAddress = c.payloadAddress ∧ c'.copies = c.copies := by
  unfold Call.sensorIds Call.fail at h
  split at h
  · cases h
  · split at h
    · cases h
    · split at h
      · cases h
      · cases h
        exact ⟨rfl, rfl, rfl, rfl, rfl⟩

variable {interrupted : Bool}

/-- **Payload formation** makes the copy to the device, if it meets the comparison. -/
theorem formPayload_formed (h : c.formPayload cmdId interrupted = .ok c') :
    Formed c cmdId c' := by
  cases interrupted with
  | true =>
    cases cmdId with
    | identify | deviceBoot | heartbeat | debugVerbosity =>
      cases h
      exact .of_eq rfl rfl rfl nofun rfl rfl
    | _ => cases h
  | false =>
    cases cmdId with
    | identify | deviceBoot | heartbeat | debugVerbosity =>
      cases h
      exact .of_eq rfl rfl rfl nofun rfl rfl
    | copyPartition =>
      cases h
      exact .of_eq rfl rfl rfl nofun rfl rfl
    | downloadPdi | setFptPartition =>
      cases h
      obtain ⟨h1, h2, h3, h4, h5⟩ := clampPayload_fields { c.acquire .gcqDataSema with
        payloadAddress := c.ctxt.shmAddrData
        dataPageAcquired := true
        payloadSize := c.args.dataSize } c.ctxt.shmSizeData
      exact .of_memcpy h1 h2 h3 h4 h5 rfl
    | sensor =>
      obtain ⟨h1, h2, h3, h4, h5⟩ := clampPayload_fields { c.acquire .gcqLogPageSema with
        payloadAddress := c.ctxt.getGcqLogPageAddr
        logPageAcquired := true
        payloadSize := c.args.dataSize } AMC_LOG_PAGE_SIZE
      obtain ⟨i1, i2, i3, i4, i5⟩ := sensorIds_fields h
      exact .of_eq (i1.trans h1) (i2.trans h2) (i3.trans h3) (fun _ => i4.trans h4) (i5.trans h5) rfl
    | eepromReadWrite | moduleReadWrite =>
      obtain ⟨h1, h2, h3, h4, h5⟩ := clampPayload_fields { c.acquire .gcqDataSema with
        payloadAddress := c.ctxt.shmAddrData
        dataPageAcquired := true
        payloadSize := c.args.dataSize } c.ctxt.shmSizeData
      simp only [Call.formPayload, Call.acquireGcqData, Bool.false_eq_true, if_false, bind,
        Except.bind, Call.clampPayload_args] at h
      split_ifs at h with htype
      · cases h
        exact .of_memcpy h1 h2 h3 h4 h5 (beq_iff_eq.mpr htype)
      · cases h
        exact .of_eq h1 h2 h3 (fun _ => h4) h5 (beq_eq_false_iff_ne.mpr htype)

/-! ### The request, the wait and the response -/

variable {o : Outcomes} {x : CidXarray}

theorem prepared_formed (h : prepared ctxt args o x = some (cmdId, c)) :
    (Call.start ctxt args).checks = .ok cmdId ∧ ¬ PayloadFails cmdId args o.semaInterrupted ∧
      c.ctxt = ctxt ∧ c.args = args ∧
      (payloadIn cmdId args.flags = true → c.payloadAddress = payloadOffset ctxt cmdId) ∧
      c.copies = ifInRange ctxt args cmdId (copiesOut ctxt args cmdId) := by
  unfold prepared Call.kzalloc at h
  cases hchecks : (Call.start ctxt args).checks with
  | error e =>
    rw [hchecks] at h
    cases h
  | ok id =>
    rw [hchecks] at h
    by_cases hfails : o.kzallocFails = true
    · simp [hfails, Call.fail] at h
    · simp only [hfails, Bool.false_eq_true, if_false] at h
      generalize hd : ({ Call.start ctxt args with amcProxyCmd := some .zero } : Call) = d at h
      have hdctxt : d.ctxt = ctxt := by rw [← hd]; rfl
      have hdargs : d.args = args := by rw [← hd]; rfl
      have hdcopies : d.copies = [] := by rw [← hd]; rfl
      have hfresh : d.Fresh := by rw [← hd]; exact ⟨rfl, rfl, rfl⟩
      have hcmd : getCmdCommandId d.args.cmdReq = some id := by
        rw [hdargs]
        exact (checks_ok_iff.mp hchecks).2.1
      rcases formPayload_cases hfresh hcmd o.semaInterrupted with
        ⟨-, e, he, -⟩ | ⟨hok, e, he, -⟩ <;> rw [he] at h
      · cases h
      · dsimp only at h
        split at h
        · cases h
        · cases h
          have hformed := formPayload_formed he
          rw [hdargs] at hok
          refine ⟨rfl, hok, hformed.ctxt.trans hdctxt, hformed.args.trans hdargs, fun hin => ?_, ?_⟩
          · have haddr := hformed.address
            rw [hdctxt, hdargs] at haddr
            exact haddr hin
          · have hcopies := hformed.copies
            rw [hdctxt, hdargs, hdcopies, List.nil_append] at hcopies
            exact hcopies

theorem readResponse_copiesIn {initialised : Bool} {cmd : ProxyCmd}
    (haddr : payloadIn cmdId c.args.flags = true → c.payloadAddress = payloadOffset c.ctxt cmdId)
    (hret : (c.readResponse cmdId initialised cmd).ret = 0) :
    (c.readResponse cmdId initialised cmd).copies =
      c.copies ++ ifInRange c.ctxt c.args cmdId (copiesIn c.ctxt c.args cmdId) := by
  unfold Call.readResponse at hret ⊢
  dsimp only at hret ⊢
  generalize hresp : getResponse cmdId initialised cmd = ret at hret ⊢
  have hin : ∀ d : Call, d = { c with ret := ret } → payloadIn cmdId c.args.flags = true →
      d.memcpyGcqPayloadFromDevice.copies =
        c.copies ++ ifInRange c.ctxt c.args cmdId (copiesIn c.ctxt c.args cmdId) := by
    rintro d rfl hpay
    have hcopies := memcpyFromDevice_copies (c := { c with ret := ret }) (haddr hpay)
    rw [copiesIn, if_pos hpay]
    exact hcopies
  have hout : payloadIn cmdId c.args.flags = false → c.copies =
      c.copies ++ ifInRange c.ctxt c.args cmdId (copiesIn c.ctxt c.args cmdId) := by
    intro hpay
    rw [copiesIn, hpay, if_neg (by decide), ifInRange_nil, List.append_nil]
  cases cmdId with
  | sensor =>
    dsimp only at hret ⊢
    split_ifs at hret ⊢ with hzero
    · exact hin _ rfl rfl
    · exact absurd hret hzero
  | eepromReadWrite | moduleReadWrite =>
    dsimp only at hret ⊢
    split_ifs at hret ⊢ with hread
    · exact hin _ rfl (beq_iff_eq.mpr hread.2)
    · exact hout (beq_eq_false_iff_ne.mpr fun h => hread ⟨hret, h⟩)
  | _ => exact hout rfl

theorem transact_of_zero (hret : (c.transact cmdId o).ret = 0) :
    ∃ (d : Call) (initialised : Bool) (cmd : ProxyCmd), d.ctxt = c.ctxt ∧ d.args = c.args ∧
      d.payloadAddress = c.payloadAddress ∧ d.copies = c.copies ∧
      c.transact cmdId o = d.readResponse cmdId initialised cmd := by
  have hrestart : -ERESTARTSYS ≠ 0 := by decide
  have htimedout : -ETIMEDOUT ≠ 0 := by decide
  have heinval : -EINVAL ≠ 0 := by decide
  unfold Call.transact at hret ⊢
  rcases request_cases c cmdId o.request with ⟨-, hreq, he⟩ | ⟨-, he⟩ <;> rw [he] at hret ⊢
  · have hzero : o.request.ret = 0 := hret
    cases hr : o.request <;> rw [hr] at hreq hzero
    · exact absurd hzero (by decide)
    · exact absurd hzero (by decide)
    · exact absurd rfl hreq
  · dsimp only at hret ⊢
    unfold Call.await at hret ⊢
    split at hret
    · exact absurd hret hrestart
    · rename_i hok
      rw [if_neg hok]
      split at hret
      · rename_i early initialised cmd hwake hcmd
        split_ifs at hret with htime hcode
        · exact absurd hret htimedout
        · exact absurd hret heinval
        · rw [hcmd]
          rw [if_neg htime, if_neg hcode]
          exact ⟨({ c.acquire .gcqCmdLock with ret := o.request.ret }.release .gcqCmdLock).mapCmd
            fun cmd => cmd.update o.update, initialised, cmd, rfl, rfl, rfl, rfl, rfl⟩
      · exact absurd hret hrestart

/-! ### The whole call -/

theorem body_of_prepared (h : prepared ctxt args o x = some (cmdId, c)) :
    ((Call.start ctxt args).body o x).1 = c.transact cmdId o := by
  revert h
  unfold prepared Call.body
  cases (Call.start ctxt args).checks with
  | error e => exact nofun
  | ok id =>
    dsimp only
    cases (Call.start ctxt args).kzalloc o.kzallocFails with
    | error e => exact nofun
    | ok d =>
      dsimp only
      cases d.formPayload id o.semaInterrupted with
      | error e => exact nofun
      | ok e =>
        dsimp only
        cases getGcqCid x e.ctxt.id o.xaNoMemory with
        | error ret => exact nofun
        | ok r =>
          intro h
          cases h
          rfl

theorem formPayload_error (h : c.formPayload cmdId interrupted = .error c') :
    c'.ret ≠ 0 := by
  have heio : - EIO ≠ 0 := by decide
  have hids : ∀ d : Call, d.sensorIds = .error c' → c'.ret ≠ 0 := by
    intro d hd
    unfold Call.sensorIds Call.fail at hd
    repeat' split at hd
    all_goals cases hd
    all_goals exact heio
  cases interrupted with
  | true =>
    cases cmdId with
    | identify | deviceBoot | heartbeat | debugVerbosity => cases h
    | _ =>
      cases h
      exact heio
  | false =>
    cases cmdId with
    | sensor => exact hids _ h
    | eepromReadWrite | moduleReadWrite =>
      simp only [Call.formPayload, Call.acquireGcqData, Bool.false_eq_true, if_false, bind,
        Except.bind] at h
      split_ifs at h
    | _ => cases h

theorem body_of_not_prepared (h : prepared ctxt args o x = none) :
    ((Call.start ctxt args).body o x).1.ret ≠ 0 := by
  have heio : - EIO ≠ 0 := by decide
  have heinval : -EINVAL ≠ 0 := by decide
  have henomem : -ENOMEM ≠ 0 := by decide
  revert h
  unfold prepared Call.body
  cases hchecks : (Call.start ctxt args).checks with
  | error e =>
    intro _
    unfold Call.checks at hchecks
    repeat' split at hchecks
    all_goals cases hchecks
    · exact heio
    · exact heio
    · exact heinval
  | ok id =>
    dsimp only
    cases hd : (Call.start ctxt args).kzalloc o.kzallocFails with
    | error e =>
      intro _
      unfold Call.kzalloc Call.fail at hd
      split at hd <;> cases hd
      exact henomem
    | ok d =>
      dsimp only
      cases he : d.formPayload id o.semaInterrupted with
      | error e => exact fun _ => formPayload_error he
      | ok e =>
        dsimp only
        cases hcid : getGcqCid x e.ctxt.id o.xaNoMemory with
        | error ret => exact fun _ => getGcqCid_error hcid
        | ok r => exact nofun

theorem returned_eq (ctxt : AmcControlCtxt) (args : Args) (o : Outcomes) (x : CidXarray) :
    returned ctxt args o x = ((Call.start ctxt args).body o x).1.ret := by
  unfold returned submitGcqCommand Call.done Call.releaseSemas
  dsimp only
  split_ifs <;> rfl

theorem copied_eq (ctxt : AmcControlCtxt) (args : Args) (o : Outcomes) (x : CidXarray) :
    copied ctxt args o x = ((Call.start ctxt args).body o x).1.copies := by
  unfold copied submitGcqCommand Call.done Call.releaseSemas
  dsimp only
  split_ifs <;> rfl

/-- **What a call copies**: before the request the payload to the device, and at the end of a call
that succeeds also the payload of the answer, either one if it meets the comparison. -/
theorem copied_of_zero (hret : returned ctxt args o x = 0) :
    ∃ cmdId, getCmdCommandId args.cmdReq = some cmdId ∧ ¬ PayloadFails cmdId args o.semaInterrupted ∧
      copied ctxt args o x = ifInRange ctxt args cmdId (copiesOut ctxt args cmdId) ++
        ifInRange ctxt args cmdId (copiesIn ctxt args cmdId) := by
  rw [returned_eq] at hret
  rw [copied_eq]
  cases hprep : prepared ctxt args o x with
  | none => exact absurd hret (body_of_not_prepared hprep)
  | some p =>
    obtain ⟨cmdId, c⟩ := p
    obtain ⟨hchecks, hpay, hctxt, hargs, haddr, hcopies⟩ := prepared_formed hprep
    rw [body_of_prepared hprep] at hret ⊢
    obtain ⟨d, initialised, cmd, h1, h2, h3, h4, he⟩ := transact_of_zero hret
    rw [he] at hret ⊢
    refine ⟨cmdId, (checks_ok_iff.mp hchecks).2.1, hpay, ?_⟩
    have hd : payloadIn cmdId d.args.flags = true → d.payloadAddress = payloadOffset d.ctxt cmdId := by
      rw [h1, h2, h3, hctxt, hargs]
      exact haddr
    rw [readResponse_copiesIn hd hret, h1, h2, h4, hctxt, hargs, hcopies]

/-! ### Calls that nothing disturbs -/

/-- The environment in which a request is answered without an error. -/
def answered : Outcomes where
  kzallocFails := false
  semaInterrupted := false
  xaNoMemory := false
  jiffies := 0
  request := .submitted
  update := ⟨false, 0, 0, 0⟩
  wake := .woken false true

theorem readResponse_ret (c : Call) (cmdId : AmcCmdId) (initialised : Bool) (cmd : ProxyCmd) :
    (c.readResponse cmdId initialised cmd).ret = getResponse cmdId initialised cmd := by
  have hkeep : ∀ d : Call, d.memcpyGcqPayloadFromDevice.ret = d.ret := by
    intro d
    unfold Call.memcpyGcqPayloadFromDevice
    split_ifs <;> rfl
  unfold Call.readResponse
  dsimp only
  repeat' split
  all_goals first | exact hkeep _ | rfl

theorem transact_answered {cmd : ProxyCmd} (hcmd : c.amcProxyCmd = some cmd) :
    (c.transact cmdId answered).ret = 0 := by
  unfold Call.transact
  rcases request_cases c cmdId answered.request with ⟨-, hreq, -⟩ | ⟨-, he⟩
  · exact absurd rfl hreq
  · rw [he]
    dsimp only
    generalize he : ((({ c.acquire .gcqCmdLock with ret := answered.request.ret }).release
        .gcqCmdLock).mapCmd fun cmd => cmd.update answered.update) = d
    have hd : d.amcProxyCmd = some (cmd.update answered.update) := by
      rw [← he]
      change c.amcProxyCmd.map _ = _
      rw [hcmd]
      rfl
    have hzero : ¬ d.ret ≠ 0 := by
      rw [← he]
      exact not_not.mpr rfl
    have hresp : getResponse cmdId true (cmd.update answered.update) = 0 := by
      cases cmdId <;> rfl
    unfold Call.await
    rw [if_neg hzero, hd]
    dsimp only [answered]
    exact (readResponse_ret ..).trans hresp

theorem answered_zero (haccept : Accepted (some ctxt) args)
    (hcmd : getCmdCommandId args.cmdReq = some cmdId) (hpay : ¬ PayloadFails cmdId args false) :
    (∃ c, prepared ctxt args answered ⟨fun _ => none, 0⟩ = some (cmdId, c)) ∧
      returned ctxt args answered ⟨fun _ => none, 0⟩ = 0 := by
  obtain ⟨x, hx, hhalted, id, hid, hargs⟩ := haccept
  obtain rfl := Option.some.inj hx
  obtain rfl := Option.some.inj (hcmd.symm.trans hid)
  have hchecks : (Call.start ctxt args).checks = .ok cmdId :=
    checks_ok_iff.mpr ⟨hhalted, hcmd, hargs⟩
  have hfresh : Call.Fresh { Call.start ctxt args with amcProxyCmd := some .zero } :=
    ⟨rfl, rfl, rfl⟩
  rcases formPayload_cases hfresh hcmd false with ⟨hfails, -⟩ | ⟨-, d, hd, -⟩
  · exact absurd hfails hpay
  · have hcid : getGcqCid ⟨fun _ => none, 0⟩ d.ctxt.id false =
        .ok (0, ⟨Function.update (fun _ => none) 0 (some d.ctxt.id), 1⟩) := rfl
    have hprep : prepared ctxt args answered ⟨fun _ => none, 0⟩ =
        some (cmdId, d.initCmd cmdId 0 0) := by
      unfold prepared
      rw [hchecks]
      dsimp only [Call.kzalloc, answered]
      rw [if_neg (by decide)]
      dsimp only
      rw [hd]
      dsimp only
      rw [hcid]
    have hsome : (d.initCmd cmdId 0 0).amcProxyCmd.isSome = true := by
      change (d.amcProxyCmd.map _).isSome = true
      rw [(formPayload_formed hd).amcProxyCmd]
      rfl
    obtain ⟨cmd, hproxy⟩ := Option.isSome_iff_exists.mp hsome
    refine ⟨⟨_, hprep⟩, ?_⟩
    rw [returned_eq, body_of_prepared hprep]
    exact transact_answered hproxy

/-! ### When the payload is transferred -/

theorem payloadFails_of_false (h : PayloadFails cmdId args false) :
    PayloadFails cmdId args interrupted := by
  rcases h with ⟨-, h⟩ | h
  · cases h
  · exact .inr h

theorem ifInRange_eq (hargs : argsMissing cmdId args = false)
    (hpay : payloadOut cmdId args.flags = true ∨ payloadIn cmdId args.flags = true →
      ctxt.inRange (payloadOffset ctxt cmdId) args.dataSize = true) :
    ifInRange ctxt args cmdId (copiesOut ctxt args cmdId) = copiesOut ctxt args cmdId ∧
      ifInRange ctxt args cmdId (copiesIn ctxt args cmdId) = copiesIn ctxt args cmdId := by
  have hbuf : payloadOut cmdId args.flags = true ∨ payloadIn cmdId args.flags = true →
      args.dataBuf = true := by
    intro h
    cases cmdId <;> simp_all [argsMissing, payloadOut, payloadIn]
  constructor
  · by_cases h : payloadOut cmdId args.flags = true
    · rw [ifInRange, hbuf (.inl h), hpay (.inl h)]
      rfl
    · rw [copiesOut, if_neg h, ifInRange_nil]
  · by_cases h : payloadIn cmdId args.flags = true
    · rw [ifInRange, hbuf (.inr h), hpay (.inr h)]
      rfl
    · rw [copiesIn, if_neg h, ifInRange_nil]

/-- **The payload is transferred, or an error reported, iff the payload meets the comparison of the
copy helpers**: whatever the environment does during the call. -/
theorem payload_transferred_iff (ctxt : AmcControlCtxt) (args : Args) :
    (∀ o x, Transferred ctxt args o x) ↔ PayloadInRange ctxt args := by
  constructor
  · intro hall haccept cmdId hcmd hpay hpayload
    by_contra hrange
    obtain ⟨⟨c, hprep⟩, hzero⟩ := answered_zero haccept hcmd hpay
    obtain ⟨hsent, hfetched⟩ := hall answered ⟨fun _ => none, 0⟩
    have hnone : ∀ l, ifInRange ctxt args cmdId l = [] := by
      intro l
      rw [ifInRange, Bool.eq_false_iff.mpr hrange, Bool.and_false, if_neg (by decide)]
    have hout : copiesOut ctxt args cmdId = [] := by
      rw [← hsent cmdId c hprep, (prepared_formed hprep).2.2.2.2.2, hnone]
    obtain ⟨id, hid, -, hcopied⟩ := copied_of_zero hzero
    obtain rfl := Option.some.inj (hcmd.symm.trans hid)
    have hin : copiesIn ctxt args cmdId = [] := by
      rw [hfetched hzero cmdId hcmd, hnone, hnone, hout] at hcopied
      exact hcopied
    rcases hpayload with h | h
    · rw [copiesOut, if_pos h] at hout
      cases hout
    · rw [copiesIn, if_pos h] at hin
      cases hin
  · intro hrange o x
    constructor
    · intro cmdId c hprep
      obtain ⟨hchecks, hpay, -, -, -, hcopies⟩ := prepared_formed hprep
      obtain ⟨hhalted, hcmd, hargs⟩ := checks_ok_iff.mp hchecks
      have hargs : argsMissing cmdId args = false := hargs
      have haccept : Accepted (some ctxt) args := ⟨ctxt, rfl, hhalted, cmdId, hcmd, hargs⟩
      rw [hcopies]
      exact (ifInRange_eq hargs
        (hrange haccept cmdId hcmd fun h => hpay (payloadFails_of_false h))).1
    · intro hzero cmdId hcmd
      obtain ⟨id, hid, hpay, hcopied⟩ := copied_of_zero hzero
      obtain rfl := Option.some.inj (hcmd.symm.trans hid)
      rw [hcopied]
      cases hprep : prepared ctxt args o x with
      | none =>
        rw [returned_eq] at hzero
        exact absurd hzero (body_of_not_prepared hprep)
      | some p =>
        obtain ⟨id, c⟩ := p
        obtain ⟨hchecks, -⟩ := prepared_formed hprep
        obtain ⟨hhalted, hid, hargs⟩ := checks_ok_iff.mp hchecks
        obtain rfl := Option.some.inj (hcmd.symm.trans hid)
        have hargs : argsMissing cmdId args = false := hargs
        have haccept : Accepted (some ctxt) args := ⟨ctxt, rfl, hhalted, cmdId, hcmd, hargs⟩
        obtain ⟨hout, hin⟩ := ifInRange_eq hargs
          (hrange haccept cmdId hcmd fun h => hpay (payloadFails_of_false h))
        rw [hout, hin]

end

/-- A region of two pages behind the description of the shared memory. -/
def twoPages : AmcControlCtxt where
  id := 0
  gcqHalted := false
  amcDataStart := 0x1000
  amcDataEnd := 0x200FFF

/-- A chunk of an image that takes up the length granted. -/
def pageChunk : Args where
  cmdReq := .downloadPdi
  flags := 0
  dataBuf := true
  dataSize := 0x100000

/-- The chunk is not copied, and the download succeeds. -/
theorem payload_left_out :
    pageChunk.dataSize ≤ grantedLength twoPages .downloadPdi ∧
      returned twoPages pageChunk answered ⟨fun _ => none, 0⟩ = 0 ∧
      copied twoPages pageChunk answered ⟨fun _ => none, 0⟩ = [] ∧
      ¬ Transferred twoPages pageChunk answered ⟨fun _ => none, 0⟩ := by
  have hzero : returned twoPages pageChunk answered ⟨fun _ => none, 0⟩ = 0 := by decide +kernel
  have hnone : copied twoPages pageChunk answered ⟨fun _ => none, 0⟩ = [] := by decide +kernel
  refine ⟨by decide +kernel, hzero, hnone, fun h => ?_⟩
  have hcopied := h.fetched hzero .downloadPdi rfl
  rw [hnone] at hcopied
  cases hcopied

end Amr.Amc
