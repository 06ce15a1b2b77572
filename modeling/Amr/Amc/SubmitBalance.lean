/-
# What a call of `submit_gcq_command` leaves behind

Every way through the function ends at the label `done`, which releases the semaphores that the
flags record, erases the id of the command that was allocated and leaves `gcq_cmd_lock` alone. So
the call is balanced except on two ways: a partition update whose request fails leaves with the
lock held, and a call that fails after `kzalloc` but before it has an id erases id 0, which may be
another command's.
-/
import Amr.Amc.Submit

namespace Amr.Amc

open Ledger

/-! ### The flags and the ledger -/

/-- The acquisitions that the flags record. -/
def Call.held (c : Call) : List (Op Resource) :=
  (if c.logPageAcquired then [.acquire .gcqLogPageSema] else []) ++
    (if c.dataPageAcquired then [.acquire .gcqDataSema] else [])

def Call.givenBack (c : Call) : List (Op Resource) :=
  (if c.logPageAcquired then [.release .gcqLogPageSema] else []) ++
    (if c.dataPageAcquired then [.release .gcqDataSema] else [])

def Call.OneSema (c : Call) : Prop := c.logPageAcquired = false ∨ c.dataPageAcquired = false

@[simp] theorem Call.releaseSemas_ops (c : Call) :
    c.releaseSemas.ops = c.ops ++ c.givenBack := by
  unfold releaseSemas givenBack release
  cases hlog : c.logPageAcquired <;> cases hdata : c.dataPageAcquired <;> simp [hdata]

variable {c : Call}

theorem balanced_held_givenBack (h : c.OneSema) {mid : List (Op Resource)}
    (hmid : Balanced mid) : Balanced (c.held ++ mid ++ c.givenBack) := by
  unfold Call.held Call.givenBack
  rcases h with h | h
  · rw [h]
    by_cases hd : c.dataPageAcquired = true
    · rw [hd]
      exact hmid.bracket .gcqDataSema
    · simpa [hd] using hmid
  · rw [h]
    by_cases hl : c.logPageAcquired = true
    · rw [hl]
      simpa using hmid.bracket .gcqLogPageSema
    · simpa [hl] using hmid

theorem not_balanced_locked (c : Call) :
    ¬ Balanced (c.held ++ [.acquire .gcqCmdLock] ++ c.givenBack) := by
  apply not_balanced_of_held (r := .gcqCmdLock)
  unfold Call.held Call.givenBack
  cases c.logPageAcquired <;> cases c.dataPageAcquired <;> decide

/-! ### What each section keeps -/

/-- The payload section and all that it calls touch the flags and the ledger together, and
neither the command nor the context. -/
structure Call.PayloadStep (c c' : Call) : Prop where
  ops : c'.ops = c'.held
  oneSema : c'.OneSema
  amcProxyCmd : c'.amcProxyCmd = c.amcProxyCmd
  ctxt : c'.ctxt = c.ctxt

theorem Call.PayloadStep.of_eq {c c' d : Call} (h : c.PayloadStep c')
    (hops : d.ops = c'.ops) (hlog : d.logPageAcquired = c'.logPageAcquired)
    (hdata : d.dataPageAcquired = c'.dataPageAcquired) (hcmd : d.amcProxyCmd = c'.amcProxyCmd)
    (hctxt : d.ctxt = c'.ctxt) : c.PayloadStep d where
  ops := by rw [hops, h.ops, held, held, hlog, hdata]
  oneSema := by rw [OneSema, hlog, hdata]; exact h.oneSema
  amcProxyCmd := hcmd.trans h.amcProxyCmd
  ctxt := hctxt.trans h.ctxt

/-- A call that has acquired nothing yet. -/
structure Call.Fresh (c : Call) : Prop where
  ops : c.ops = []
  log : c.logPageAcquired = false
  data : c.dataPageAcquired = false

theorem Call.Fresh.payloadStep (h : c.Fresh) (ret : ℤ) :
    c.PayloadStep { c with ret := ret } where
  ops := by rw [held, h.log, h.data]; exact h.ops
  oneSema := .inl h.log
  amcProxyCmd := rfl
  ctxt := rfl

/-- The payload section fails when the wait for the semaphore is interrupted, or when no flag
names the repository of a sensor request. -/
def PayloadFails (cmdId : AmcCmdId) (a : Args) (interrupted : Bool) : Prop :=
  semaOf cmdId ≠ none ∧ interrupted = true ∨ cmdId = .sensor ∧ getSid a.cmdReq a.flags = none

theorem acquireGcqData_cases (h : c.Fresh) (interrupted : Bool) :
    (interrupted = true ∧ ∃ c', c.acquireGcqData interrupted = .error c' ∧ c.PayloadStep c') ∨
    (interrupted = false ∧ ∃ c', c.acquireGcqData interrupted = .ok c' ∧ c.PayloadStep c' ∧
      c'.args = c.args) := by
  unfold Call.acquireGcqData
  cases interrupted with
  | true => exact .inl ⟨rfl, _, rfl, h.payloadStep _⟩
  | false =>
    refine .inr ⟨rfl, _, rfl, ⟨?_, .inl h.log, rfl, rfl⟩, rfl⟩
    simp [Call.held, Call.acquire, h.ops, h.log]

theorem acquireGcqLogPageSema_cases (h : c.Fresh) (interrupted : Bool) :
    (interrupted = true ∧
      ∃ c', c.acquireGcqLogPageSema interrupted = .error c' ∧ c.PayloadStep c') ∨
    (interrupted = false ∧ ∃ c', c.acquireGcqLogPageSema interrupted = .ok c' ∧
      c.PayloadStep c' ∧ c'.args = c.args) := by
  unfold Call.acquireGcqLogPageSema
  cases interrupted with
  | true => exact .inl ⟨rfl, _, rfl, h.payloadStep _⟩
  | false =>
    refine .inr ⟨rfl, _, rfl, ⟨?_, .inr h.data, rfl, rfl⟩, rfl⟩
    simp [Call.held, Call.acquire, h.ops, h.data]

theorem Call.PayloadStep.clampPayload {c c' : Call} (h : c.PayloadStep c') (length : UInt32) :
    c.PayloadStep (c'.clampPayload length) := by
  unfold Call.clampPayload
  split_ifs
  · exact h.of_eq rfl rfl rfl rfl rfl
  · exact h

theorem Call.PayloadStep.memcpyToDevice {c c' : Call} (h : c.PayloadStep c') :
    c.PayloadStep c'.memcpyGcqPayloadToDevice := by
  unfold Call.memcpyGcqPayloadToDevice
  split_ifs
  · exact h.of_eq rfl rfl rfl rfl rfl
  · exact h

@[simp] theorem Call.clampPayload_args (c : Call) (length : UInt32) :
    (c.clampPayload length).args = c.args := by
  unfold clampPayload
  split_ifs <;> rfl

theorem Call.PayloadStep.sensorIds {c c' : Call} (h : c.PayloadStep c')
    (hcmd : getCmdCommandId c'.args.cmdReq = some .sensor) :
    (getSid c'.args.cmdReq c'.args.flags = none ∧
      ∃ d, c'.sensorIds = .error d ∧ c.PayloadStep d) ∨
    (getSid c'.args.cmdReq c'.args.flags ≠ none ∧ ∃ d, c'.sensorIds = .ok d ∧ c.PayloadStep d) := by
  obtain ⟨⟨aid, haid⟩, ⟨id, hid⟩, -⟩ := sensor_ids_known hcmd
  unfold Call.sensorIds
  cases hsid : getSid c'.args.cmdReq c'.args.flags with
  | none => exact .inl ⟨rfl, _, rfl, h.of_eq rfl rfl rfl rfl rfl⟩
  | some sid =>
    rw [haid, hid]
    exact .inr ⟨by simp, _, rfl, h.of_eq rfl rfl rfl rfl rfl⟩

/-- **The payload section**: it fails exactly on `PayloadFails`, and either way the ledger holds
what the flags record. -/
theorem formPayload_cases (h : c.Fresh) {cmdId : AmcCmdId}
    (hcmd : getCmdCommandId c.args.cmdReq = some cmdId) (interrupted : Bool) :
    (PayloadFails cmdId c.args interrupted ∧
      ∃ c', c.formPayload cmdId interrupted = .error c' ∧ c.PayloadStep c') ∨
    (¬ PayloadFails cmdId c.args interrupted ∧
      ∃ c', c.formPayload cmdId interrupted = .ok c' ∧ c.PayloadStep c') := by
  unfold PayloadFails Call.formPayload
  cases cmdId with
  | identify | deviceBoot | heartbeat | debugVerbosity =>
    exact .inr ⟨by simp [semaOf], _, rfl, h.payloadStep c.ret⟩
  | copyPartition =>
    rcases acquireGcqData_cases h interrupted with ⟨hi, c', he, hc'⟩ | ⟨hi, c', he, hc', -⟩
    · exact .inl ⟨.inl ⟨nofun, hi⟩, c', he, hc'⟩
    · exact .inr ⟨by simp [hi], c', he, hc'⟩
  | downloadPdi | setFptPartition =>
    rcases acquireGcqData_cases h interrupted with ⟨hi, c', he, hc'⟩ | ⟨hi, c', he, hc', -⟩
    · exact .inl ⟨.inl ⟨nofun, hi⟩, c', by rw [he]; rfl, hc'⟩
    · exact .inr ⟨by simp [hi], _, by rw [he]; rfl, (hc'.clampPayload _).memcpyToDevice⟩
  | sensor =>
    rcases acquireGcqLogPageSema_cases h interrupted with ⟨hi, c', he, hc'⟩ | ⟨hi, c', he, hc', ha⟩
    · exact .inl ⟨.inl ⟨nofun, hi⟩, c', by rw [he]; rfl, hc'⟩
    · have hids := (hc'.clampPayload AMC_LOG_PAGE_SIZE).sensorIds (by simpa [ha] using hcmd)
      rw [Call.clampPayload_args, ha] at hids
      rcases hids with ⟨hsid, d, hd, hstep⟩ | ⟨hsid, d, hd, hstep⟩
      · exact .inl ⟨.inr ⟨rfl, hsid⟩, d, by rw [he]; exact hd, hstep⟩
      · exact .inr ⟨by simp [hi, hsid], d, by rw [he]; exact hd, hstep⟩
  | eepromReadWrite | moduleReadWrite =>
    rcases acquireGcqData_cases h interrupted with ⟨hi, c', he, hc'⟩ | ⟨hi, c', he, hc', -⟩
    · exact .inl ⟨.inl ⟨nofun, hi⟩, c', by rw [he]; rfl, hc'⟩
    · refine .inr ⟨by simp [hi], ?_⟩
      rw [he]
      simp only [bind, Except.bind]
      split_ifs
      · exact ⟨_, rfl, (hc'.clampPayload _).memcpyToDevice⟩
      · exact ⟨_, rfl, hc'.clampPayload _⟩

/-! ### The ways through the function -/

/-- The checks let a call through to the allocation of its command. -/
def Accepted (amcCtrlCtxt : Option AmcControlCtxt) (a : Args) : Prop :=
  ∃ ctxt, amcCtrlCtxt = some ctxt ∧ ctxt.gcqHalted = false ∧
    ∃ cmdId, getCmdCommandId a.cmdReq = some cmdId ∧ argsMissing cmdId a = false

/-- A call past `kzalloc` fails before it has a command id. -/
def FailsBeforeCid (a : Args) (o : Outcomes) (x : CidXarray) : Prop :=
  (∃ cmdId, getCmdCommandId a.cmdReq = some cmdId ∧ PayloadFails cmdId a o.semaInterrupted) ∨
    ¬ (o.xaNoMemory = false ∧ x.HasFree)

theorem checks_ok_iff {cmdId : AmcCmdId} :
    c.checks = .ok cmdId ↔ c.ctxt.gcqHalted = false ∧
      getCmdCommandId c.args.cmdReq = some cmdId ∧ argsMissing cmdId c.args = false := by
  unfold Call.checks
  by_cases hhalted : c.ctxt.gcqHalted = true
  · simp [hhalted]
  · cases hcmd : getCmdCommandId c.args.cmdReq with
    | none => simp [hhalted]
    | some id =>
      by_cases hmissing : argsMissing id c.args = true
      · simp only [hhalted, hmissing, Bool.false_eq_true, if_false, if_true, Option.some.injEq]
        refine iff_of_false (by simp) ?_
        rintro ⟨-, rfl, h⟩
        rw [hmissing] at h
        cases h
      · simp only [hhalted, hmissing, Bool.false_eq_true, if_false, Except.ok.injEq,
          Option.some.injEq]
        refine ⟨?_, fun h => h.2.1⟩
        rintro rfl
        exact ⟨by simp, rfl, by simpa using hmissing⟩

theorem checks_error {c c' : Call} (h : c.checks = .error c') : ∃ ret, c' = { c with ret := ret } := by
  unfold Call.checks at h
  split_ifs at h
  · cases h
    exact ⟨_, rfl⟩
  · split at h
    · cases h
      exact ⟨_, rfl⟩
    · split_ifs at h
      cases h
      exact ⟨_, rfl⟩

/-- How a call reaches the label: before it has a command, with a command but no id, with an id
and the lock still held, or with everything but its id and its semaphore given back. -/
inductive Exit (ctxt : AmcControlCtxt) (a : Args) (o : Outcomes) (x : CidXarray) :
    Call → CidXarray → Prop
  | early {c : Call} (hno : ¬ Accepted (some ctxt) a ∨ o.kzallocFails = true)
      (hcmd : c.amcProxyCmd = none) (hops : c.ops = c.held) (hsema : c.OneSema) :
      Exit ctxt a o x c x
  | noCid {c : Call} (hacc : Accepted (some ctxt) a) (halloc : o.kzallocFails = false)
      (hfails : FailsBeforeCid a o x) (hcmd : c.amcProxyCmd = some .zero)
      (hops : c.ops = c.held) (hsema : c.OneSema) : Exit ctxt a o x c x
  | locked {c : Call} {cid : ℕ} {x' : CidXarray} {cmd : ProxyCmd}
      (hacc : Accepted (some ctxt) a) (halloc : o.kzallocFails = false)
      (hfails : ¬ FailsBeforeCid a o x)
      (hreq : a.cmdReq = .setFptPartition ∧ o.request ≠ .submitted)
      (hcid : getGcqCid x ctxt.id o.xaNoMemory = .ok (cid, x'))
      (hctxt : c.ctxt = ctxt) (hcmd : c.amcProxyCmd = some cmd) (hcmdCid : cmd.cmdCid = cid)
      (hops : c.ops = c.held ++ [.acquire .gcqCmdLock]) : Exit ctxt a o x c x'
  | finished {c : Call} {cid : ℕ} {x' : CidXarray} {cmd : ProxyCmd}
      (hacc : Accepted (some ctxt) a) (halloc : o.kzallocFails = false)
      (hfails : ¬ FailsBeforeCid a o x)
      (hreq : ¬ (a.cmdReq = .setFptPartition ∧ o.request ≠ .submitted))
      (hcid : getGcqCid x ctxt.id o.xaNoMemory = .ok (cid, x'))
      (hctxt : c.ctxt = ctxt) (hcmd : c.amcProxyCmd = some cmd) (hcmdCid : cmd.cmdCid = cid)
      (hsema : c.OneSema)
      (hops : c.ops = c.held ++ [.acquire .gcqCmdLock, .release .gcqCmdLock]) :
      Exit ctxt a o x c x'

/-- What the wait and the response switch leave alone. -/
structure Call.SameHolding (c c' : Call) : Prop where
  ops : c'.ops = c.ops
  held : c'.held = c.held
  oneSema : c'.OneSema ↔ c.OneSema
  amcProxyCmd : c'.amcProxyCmd = c.amcProxyCmd
  ctxt : c'.ctxt = c.ctxt

theorem readResponse_same (c : Call) (cmdId : AmcCmdId) (initialised : Bool) (cmd : ProxyCmd) :
    c.SameHolding (c.readResponse cmdId initialised cmd) := by
  unfold Call.readResponse Call.memcpyGcqPayloadFromDevice
  dsimp only
  repeat' split
  all_goals exact ⟨rfl, rfl, .rfl, rfl, rfl⟩

theorem await_same (c : Call) (cmdId : AmcCmdId) (w : Wake) :
    c.SameHolding (c.await cmdId w).1 := by
  unfold Call.await
  split_ifs
  · exact ⟨rfl, rfl, .rfl, rfl, rfl⟩
  · split
    · split_ifs
      · exact ⟨rfl, rfl, .rfl, rfl, rfl⟩
      · exact ⟨rfl, rfl, .rfl, rfl, rfl⟩
      · exact readResponse_same ..
    · exact ⟨rfl, rfl, .rfl, rfl, rfl⟩

theorem request_cases (c : Call) (cmdId : AmcCmdId) (o : RequestOutcome) :
    (cmdId = .setFptPartition ∧ o ≠ .submitted ∧
      c.request cmdId o = .error { c.acquire .gcqCmdLock with ret := o.ret }) ∨
    (¬ (cmdId = .setFptPartition ∧ o ≠ .submitted) ∧
      c.request cmdId o =
        .ok ({ c.acquire .gcqCmdLock with ret := o.ret }.release .gcqCmdLock)) := by
  have hret : o.ret ≠ 0 ↔ o ≠ .submitted := by cases o <;> simp [RequestOutcome.ret, EPERM, EIO]
  unfold Call.request
  by_cases h : cmdId = .setFptPartition ∧ o ≠ .submitted
  · refine .inl ⟨h.1, h.2, if_pos ?_⟩
    exact decide_eq_true ⟨h.1, hret.mpr h.2⟩
  · refine .inr ⟨h, if_neg fun hc => h ?_⟩
    obtain ⟨hset, hne⟩ := of_decide_eq_true hc
    exact ⟨hset, hret.mp hne⟩

theorem setFptPartition_iff {cmdReq : GcqSubmitCmdReq} {cmdId : AmcCmdId}
    (h : getCmdCommandId cmdReq = some cmdId) :
    cmdId = .setFptPartition ↔ cmdReq = .setFptPartition := by
  cases cmdReq <;> simp [getCmdCommandId] at h <;> subst h <;> simp

/-- The request, the wait and the response: the command keeps its id, and the lock is given back
except after a partition update that was not submitted. -/
theorem transact_cases {cmd : ProxyCmd} (hcmd : c.amcProxyCmd = some cmd)
    (cmdId : AmcCmdId) (o : Outcomes) :
    (∃ cmd', (c.transact cmdId o).amcProxyCmd = some cmd' ∧ cmd'.cmdCid = cmd.cmdCid) ∧
    (c.transact cmdId o).ctxt = c.ctxt ∧ (c.transact cmdId o).held = c.held ∧
    ((c.transact cmdId o).OneSema ↔ c.OneSema) ∧
    ((cmdId = .setFptPartition ∧ o.request ≠ .submitted ∧
        (c.transact cmdId o).ops = c.ops ++ [.acquire .gcqCmdLock]) ∨
      (¬ (cmdId = .setFptPartition ∧ o.request ≠ .submitted) ∧
        (c.transact cmdId o).ops = c.ops ++ [.acquire .gcqCmdLock, .release .gcqCmdLock])) := by
  unfold Call.transact
  rcases request_cases c cmdId o.request with ⟨hset, hreq, he⟩ | ⟨hreq, he⟩
  · rw [he]
    exact ⟨⟨cmd, hcmd, rfl⟩, rfl, rfl, .rfl, .inl ⟨hset, hreq, rfl⟩⟩
  · rw [he]
    let d := ({ c.acquire .gcqCmdLock with ret := o.request.ret }.release .gcqCmdLock).mapCmd
      fun cmd => cmd.update o.update
    have hd : d.amcProxyCmd = some (cmd.update o.update) := by
      change c.amcProxyCmd.map _ = _
      rw [hcmd]
      rfl
    have hsame := await_same d cmdId o.wake
    refine ⟨⟨_, hsame.amcProxyCmd.trans hd, rfl⟩, hsame.ctxt, hsame.held, hsame.oneSema,
      .inr ⟨hreq, hsame.ops.trans ?_⟩⟩
    change c.ops ++ _ ++ _ = _
    rw [List.append_assoc]
    rfl

/-- **Every call takes one of the four exits.** -/
theorem body_exit (ctxt : AmcControlCtxt) (a : Args) (o : Outcomes) (x : CidXarray) :
    Exit ctxt a o x ((Call.start ctxt a).body o x).1 ((Call.start ctxt a).body o x).2 := by
  unfold Call.body
  cases hchecks : (Call.start ctxt a).checks with
  | error c =>
    obtain ⟨ret, rfl⟩ := checks_error hchecks
    refine .early (.inl ?_) rfl rfl (.inl rfl)
    rintro ⟨_, ⟨⟩, hhalted, cmdId, hcmd, hargs⟩
    rw [checks_ok_iff.mpr ⟨hhalted, hcmd, hargs⟩] at hchecks
    cases hchecks
  | ok cmdId =>
    obtain ⟨hhalted, hcmd, hargs⟩ := checks_ok_iff.mp hchecks
    replace hcmd : getCmdCommandId a.cmdReq = some cmdId := hcmd
    have hacc : Accepted (some ctxt) a := ⟨ctxt, rfl, hhalted, cmdId, hcmd, hargs⟩
    unfold Call.kzalloc
    by_cases halloc : o.kzallocFails = true
    · rw [if_pos halloc]
      exact .early (.inr halloc) rfl rfl (.inl rfl)
    rw [if_neg halloc]
    replace halloc : o.kzallocFails = false := by simpa using halloc
    have hfresh : Call.Fresh { Call.start ctxt a with amcProxyCmd := some .zero } :=
      ⟨rfl, rfl, rfl⟩
    rcases formPayload_cases hfresh hcmd o.semaInterrupted with
      ⟨hpay, c, hc, hstep⟩ | ⟨hpay, c, hc, hstep⟩
    · dsimp only
      rw [hc]
      exact .noCid hacc halloc (.inl ⟨cmdId, hcmd, hpay⟩) hstep.amcProxyCmd hstep.ops hstep.oneSema
    have hctxt : c.ctxt = ctxt := hstep.ctxt
    dsimp only
    rw [hc]
    dsimp only
    rw [hctxt]
    cases hcid : getGcqCid x ctxt.id o.xaNoMemory with
    | error ret =>
      have hfails : FailsBeforeCid a o x := by
        refine .inr fun hok => ?_
        obtain ⟨r, hr⟩ : ∃ r, getGcqCid x ctxt.id o.xaNoMemory = .ok r :=
          getGcqCid_isOk_iff.mpr hok
        rw [hcid] at hr
        cases hr
      exact .noCid hacc halloc hfails hstep.amcProxyCmd hstep.ops hstep.oneSema
    | ok r =>
      obtain ⟨cid, x'⟩ := r
      have hfails : ¬ FailsBeforeCid a o x := by
        rintro (⟨id, hid, hp⟩ | hno)
        · rw [hcmd] at hid
          cases hid
          exact hpay hp
        · exact hno (getGcqCid_isOk_iff.mp ⟨_, hcid⟩)
      have hinit : ∃ cmd, (c.initCmd cmdId cid o.jiffies).amcProxyCmd = some cmd ∧
          cmd.cmdCid = cid := by
        unfold Call.initCmd Call.mapCmd
        dsimp only
        rw [hstep.amcProxyCmd]
        exact ⟨_, rfl, rfl⟩
      obtain ⟨cmd, hcmd', hcmdCid⟩ := hinit
      obtain ⟨⟨cmd'', hcmd'', hcid''⟩, hctxt', hheld, hsema, hops⟩ :=
        transact_cases hcmd' cmdId o
      have hheld' : (c.initCmd cmdId cid o.jiffies).ops = (c.initCmd cmdId cid o.jiffies).held :=
        hstep.ops
      rw [hheld', ← hheld] at hops
      rcases hops with ⟨hset, hreq, hops⟩ | ⟨hreq, hops⟩
      · exact .locked hacc halloc hfails ⟨(setFptPartition_iff hcmd).mp hset, hreq⟩ hcid
          (hctxt'.trans hctxt) hcmd'' (hcid''.trans hcmdCid) hops
      · refine .finished hacc halloc hfails ?_ hcid (hctxt'.trans hctxt) hcmd''
          (hcid''.trans hcmdCid) (hsema.mpr hstep.oneSema) hops
        exact fun h => hreq ⟨(setFptPartition_iff hcmd).mpr h.1, h.2⟩

/-! ### Balance -/

/-- The result of a call is balanced: it gave back what it took, once, and nothing else, in
particular `gcq_cmd_lock`, and the allocated ids are those of before. -/
structure ResourceBalance (amcCtrlCtxt : Option AmcControlCtxt) (a : Args) (o : Outcomes)
    (x : CidXarray) : Prop where
  ops : Balanced (submitGcqCommand amcCtrlCtxt a o x).2.1
  cids : (submitGcqCommand amcCtrlCtxt a o x).2.2.2.allocated = x.allocated

/-- A partition update gets as far as its request, and the request fails. -/
def LeavesLocked (amcCtrlCtxt : Option AmcControlCtxt) (a : Args) (o : Outcomes) (x : CidXarray) :
    Prop :=
  Accepted amcCtrlCtxt a ∧ o.kzallocFails = false ∧ ¬ FailsBeforeCid a o x ∧
    a.cmdReq = .setFptPartition ∧ o.request ≠ .submitted

/-- A call fails between `kzalloc` and its id while id 0 is allocated. -/
def ErasesForeignCid (amcCtrlCtxt : Option AmcControlCtxt) (a : Args) (o : Outcomes)
    (x : CidXarray) : Prop :=
  Accepted amcCtrlCtxt a ∧ o.kzallocFails = false ∧ FailsBeforeCid a o x ∧ 0 ∈ x.allocated

theorem allocated_eq_of_entries {x y : CidXarray} (h : x.entries = y.entries) :
    x.allocated = y.allocated := by
  rw [CidXarray.allocated, CidXarray.allocated, h]

theorem allocated_remove_iff (x : CidXarray) (ctx id : ℕ) :
    (removeGcqCid x ctx id).2.allocated = x.allocated ↔ id ∉ x.allocated := by
  rw [removeGcqCid_snd]
  constructor
  · intro h hid
    rw [← h] at hid
    exact hid (Function.update_self ..)
  · intro h
    refine allocated_eq_of_entries ?_
    have hnone : x.entries id = none := by simpa [CidXarray.allocated] using h
    rw [← hnone]
    exact Function.update_eq_self id x.entries

/-- **Resource balance, exactly.** Whatever the command, its arguments and the outcome of every
step, a call of `submit_gcq_command` returns without `gcq_cmd_lock`, with every semaphore it took
released once, no other released, and the ids allocated that were allocated before, if and only
if it is neither a partition update whose request fails nor a call that fails between `kzalloc`
and `get_gcq_cid` while id 0 is allocated. -/
theorem submitGcqCommand_balance_iff (amcCtrlCtxt : Option AmcControlCtxt) (a : Args)
    (o : Outcomes) (x : CidXarray) :
    ResourceBalance amcCtrlCtxt a o x ↔
      ¬ LeavesLocked amcCtrlCtxt a o x ∧ ¬ ErasesForeignCid amcCtrlCtxt a o x := by
  cases amcCtrlCtxt with
  | none =>
    refine iff_of_true ⟨balanced_nil, rfl⟩ ⟨?_, ?_⟩
    · rintro ⟨⟨_, ⟨⟩, _⟩, _⟩
    · rintro ⟨⟨_, ⟨⟩, _⟩, _⟩
  | some ctxt =>
    have hexit := body_exit ctxt a o x
    have hops : (submitGcqCommand (some ctxt) a o x).2.1 =
        ((Call.start ctxt a).body o x).1.ops ++ ((Call.start ctxt a).body o x).1.givenBack :=
      Call.releaseSemas_ops _
    have hcids : (submitGcqCommand (some ctxt) a o x).2.2.2 =
        (((Call.start ctxt a).body o x).1.done ((Call.start ctxt a).body o x).2).2 := rfl
    generalize ((Call.start ctxt a).body o x).1 = c at hexit hops hcids
    generalize ((Call.start ctxt a).body o x).2 = x' at hexit hcids
    unfold Call.done at hcids
    cases hexit with
    | early hno hcmd hheld hsema =>
      rw [hcmd] at hcids
      rw [hheld] at hops
      refine iff_of_true ⟨?_, by rw [hcids]⟩ ⟨fun h => ?_, fun h => ?_⟩
      · rw [hops]
        simpa using balanced_held_givenBack hsema balanced_nil
      · rcases hno with hno | hno
        · exact hno h.1
        · rw [h.2.1] at hno
          cases hno
      · rcases hno with hno | hno
        · exact hno h.1
        · rw [h.2.1] at hno
          cases hno
    | noCid hacc halloc hfails hcmd hheld hsema =>
      rw [hcmd] at hcids
      rw [hheld] at hops
      have hbal : Balanced (submitGcqCommand (some ctxt) a o x).2.1 := by
        rw [hops]
        simpa using balanced_held_givenBack hsema balanced_nil
      constructor
      · intro h
        refine ⟨fun hl => hl.2.2.1 hfails, fun he => ?_⟩
        have hkeep := h.cids
        rw [hcids] at hkeep
        exact (allocated_remove_iff x c.ctxt.id 0).mp hkeep he.2.2.2
      · rintro ⟨-, he⟩
        refine ⟨hbal, ?_⟩
        rw [hcids]
        exact (allocated_remove_iff x c.ctxt.id 0).mpr fun h0 => he ⟨hacc, halloc, hfails, h0⟩
    | locked hacc halloc hfails hreq hcid hctxt hcmd hcmdCid hheld =>
      rw [hheld] at hops
      refine iff_of_false (fun h => ?_) fun h => h.1 ⟨hacc, halloc, hfails, hreq⟩
      have hbal := h.ops
      rw [hops] at hbal
      exact not_balanced_locked c hbal
    | finished hacc halloc hfails hreq hcid hctxt hcmd hcmdCid hsema hheld =>
      rw [hheld] at hops
      rw [hcmd] at hcids
      refine iff_of_true ⟨?_, ?_⟩ ⟨fun h => hreq h.2.2.2, fun h => hfails h.2.2.1⟩
      · rw [hops]
        exact balanced_held_givenBack hsema (Balanced.bracket Resource.gcqCmdLock balanced_nil)
      · rw [hcids]
        refine allocated_eq_of_entries ?_
        dsimp only
        rw [hctxt, hcmdCid]
        exact entries_remove_alloc hcid

/-- A context with a megabyte of data memory behind the log page. -/
def exampleCtxt : AmcControlCtxt := ⟨0, false, 0, 0x1FFFFF⟩

/-- Outcomes of a call in which the named steps fail and nothing else does. -/
def exampleOutcomes (semaInterrupted : Bool) (request : RequestOutcome) : Outcomes where
  kzallocFails := false
  semaInterrupted := semaInterrupted
  xaNoMemory := false
  jiffies := 0
  request := request
  update := ⟨false, 0, 0, 0⟩
  wake := .woken false true

/-- A partition update whose queue write fails leaves `gcq_cmd_lock` held, and a partition copy
whose wait for the data memory is interrupted frees id 0 of another device's command. -/
theorem submitGcqCommand_unbalanced :
    ¬ ResourceBalance (some exampleCtxt) ⟨.setFptPartition, 0, true, 64⟩
        (exampleOutcomes false .writeFailed) .empty ∧
      ¬ ResourceBalance (some exampleCtxt) ⟨.copyPartition, 0, false, 64⟩
        (exampleOutcomes true .submitted) ⟨fun id => if id = 0 then some 7 else none, 1⟩ := by
  refine ⟨fun h => ?_, fun h => ?_⟩
  · exact not_balanced_of_held (r := Resource.gcqCmdLock) (by decide) h.ops
  · have h0 : 0 ∈ CidXarray.allocated ⟨fun id => if id = 0 then some 7 else none, 1⟩ := by
      simp [CidXarray.allocated]
    rw [← h.cids] at h0
    exact h0 rfl

end Amr.Amc
