/-
# What the sections of a call do to its window

Payload formation takes the semaphore of the window, places the payload at its first address and
copies the caller's buffer at most once; every later section keeps address, length and semaphore,
the response switch copies to the caller if a read has succeeded, and the end of the call gives the
semaphore back. The sections in between change neither semaphores nor payload.
-/
import Amr.Amc.Window

namespace Amr.Amc.Window

open Proxy (Thread Request Pc KeepsIds Device)

/-! ### The sections of a call -/

/-- The call has formed its payload and has not reached the label. -/
def carries : Pc → Bool
  | .cid | .lock | .write | .insert | .requested | .wait | .abort => true
  | _ => false

def windowBase (x : AmcControlCtxt) (r : Resource) : ℕ :=
  match r with
  | .gcqLogPageSema => x.getGcqLogPageAddr.toNat
  | .gcqDataSema => x.shmAddrData.toNat
  | .gcqCmdLock => 0

/-- What a thread keeps once it has formed its payload. -/
structure Keeps (t u : Thread) : Prop where
  ctxt : u.call.ctxt = t.call.ctxt
  args : u.call.args = t.call.args
  cmdId : u.cmdId = t.cmdId
  payloadAddress : u.call.payloadAddress = t.call.payloadAddress
  payloadSize : u.call.payloadSize = t.call.payloadSize
  log : u.call.logPageAcquired = t.call.logPageAcquired
  data : u.call.dataPageAcquired = t.call.dataPageAcquired

variable (t : Thread)

theorem Keeps.refl : Keeps t t := ⟨rfl, rfl, rfl, rfl, rfl, rfl, rfl⟩

theorem Keeps.acquired {t u : Thread} (h : Keeps t u) (r : Resource) :
    acquired u r = acquired t r := by
  cases r with
  | gcqLogPageSema => exact h.log
  | gcqDataSema => exact h.data
  | gcqCmdLock => rfl

theorem Keeps.dev {t u : Thread} (h : Keeps t u) : u.dev = t.dev :=
  congrArg AmcControlCtxt.id h.ctxt

theorem Keeps.readsPayload {t u : Thread} (h : Keeps t u) :
    readsPayload u = readsPayload t := by
  unfold Window.readsPayload
  rw [h.cmdId, h.args]

theorem Keeps.payloadExtent {t u : Thread} (h : Keeps t u) :
    payloadExtent u = payloadExtent t := by
  unfold Window.payloadExtent
  rw [h.payloadSize]

/-- A call has taken the semaphore `r` and formed its payload in the window. -/
structure Took (c c' : Call) (r : Resource) : Prop where
  ctxt : c'.ctxt = c.ctxt
  args : c'.args = c.args
  amcProxyCmd : c'.amcProxyCmd = c.amcProxyCmd
  log : c'.logPageAcquired = decide (r = .gcqLogPageSema)
  data : c'.dataPageAcquired = decide (r = .gcqDataSema)
  base : c'.payloadAddress.toNat = windowBase c.ctxt r
  size : r = .gcqLogPageSema → c'.payloadSize ≤ AMC_LOG_PAGE_SIZE
  copies : c'.copies = c.copies ∨ r = .gcqDataSema ∧
    ∃ len, c'.copies = c.copies ++ [.toDevice c'.payloadAddress len]

theorem Took.clampPayload {c c' : Call} {r : Resource} (h : Took c c' r) (length : UInt32)
    (hsize : r = .gcqLogPageSema → length ≤ AMC_LOG_PAGE_SIZE) :
    Took c (c'.clampPayload length) r := by
  unfold Call.clampPayload
  split_ifs
  · exact ⟨h.ctxt, h.args, h.amcProxyCmd, h.log, h.data, h.base, hsize, h.copies⟩
  · exact h

theorem Took.memcpyToDevice {c c' : Call} (h : Took c c' .gcqDataSema)
    (hcopies : c'.copies = c.copies) : Took c c'.memcpyGcqPayloadToDevice .gcqDataSema := by
  unfold Call.memcpyGcqPayloadToDevice
  split_ifs
  · exact ⟨h.ctxt, h.args, h.amcProxyCmd, h.log, h.data, h.base, h.size,
      .inr ⟨rfl, c'.args.dataSize, by rw [← hcopies]⟩⟩
  · exact h

@[simp] theorem clampPayload_copies (c : Call) (length : UInt32) :
    (c.clampPayload length).copies = c.copies := by
  unfold Call.clampPayload
  split_ifs <;> rfl

variable {cmdId : AmcCmdId}

theorem formPayload_of_none (h : semaOf cmdId = none) (c : Call) (b : Bool) :
    c.formPayload cmdId b = .ok c := by
  cases cmdId <;> first | rfl | cases h

theorem formPayload_interrupted {r : Resource} (h : semaOf cmdId = some r)
    (c : Call) : c.formPayload cmdId true = .error { c with ret := - EIO } := by
  cases cmdId <;> first | rfl | cases h

theorem took_data {c : Call} (hc : c.Fresh) :
    Took c { c.acquire .gcqDataSema with
      payloadAddress := c.ctxt.shmAddrData
      dataPageAcquired := true
      payloadSize := c.args.dataSize } .gcqDataSema :=
  ⟨rfl, rfl, rfl, hc.log, rfl, rfl, nofun, .inl rfl⟩

/-- **Payload formation in a window** takes its semaphore, and copies at most once, to the first
address of the data window. -/
theorem formPayload_took {c : Call} (hc : c.Fresh) {cmdId : AmcCmdId} {r : Resource}
    (h : semaOf cmdId = some r) :
    (∃ c', c.formPayload cmdId false = .ok c' ∧ Took c c' r) ∨
    (∃ c', c.formPayload cmdId false = .error c' ∧ Took c c' r ∧ c'.ret ≠ 0) := by
  have hdata := took_data hc
  have hclamp := hdata.clampPayload c.ctxt.shmSizeData nofun
  have hcopy := hclamp.memcpyToDevice (clampPayload_copies ..)
  cases cmdId with
  | identify | deviceBoot | heartbeat | debugVerbosity => cases h
  | copyPartition =>
    cases h
    exact .inl ⟨_, rfl, hdata⟩
  | downloadPdi | setFptPartition =>
    cases h
    exact .inl ⟨_, rfl, hcopy⟩
  | eepromReadWrite | moduleReadWrite =>
    cases h
    unfold Call.formPayload
    simp only [Call.acquireGcqData, Bool.false_eq_true, if_false, bind, Except.bind]
    split_ifs
    · exact .inl ⟨_, rfl, hcopy⟩
    · exact .inl ⟨_, rfl, hclamp⟩
  | sensor =>
    cases h
    have hlog : Took c ({ c.acquire .gcqLogPageSema with
        payloadAddress := c.ctxt.getGcqLogPageAddr
        logPageAcquired := true
        payloadSize := c.args.dataSize }.clampPayload AMC_LOG_PAGE_SIZE) .gcqLogPageSema := by
      unfold Call.clampPayload
      split_ifs with hlt
      · exact ⟨rfl, rfl, rfl, rfl, hc.data, rfl, fun _ => UInt32.le_refl _, .inl rfl⟩
      · exact ⟨rfl, rfl, rfl, rfl, hc.data, rfl, fun _ => UInt32.not_lt.mp hlt, .inl rfl⟩
    have hids : ∀ c' : Call, Took c c' .gcqLogPageSema →
        (∃ e, c'.sensorIds = .ok e ∧ Took c e .gcqLogPageSema) ∨
        (∃ e, c'.sensorIds = .error e ∧ Took c e .gcqLogPageSema ∧ e.ret ≠ 0) := by
      intro c' hc'
      have heio : - EIO ≠ 0 := by decide
      obtain ⟨h1, h2, h3, h4, h5, h6, h7, h8⟩ := hc'
      unfold Call.sensorIds Call.fail
      cases getSid c'.args.cmdReq c'.args.flags with
      | none => exact .inr ⟨_, rfl, ⟨h1, h2, h3, h4, h5, h6, h7, h8⟩, heio⟩
      | some sid =>
        cases getAid c'.args.cmdReq with
        | none => exact .inr ⟨_, rfl, ⟨h1, h2, h3, h4, h5, h6, h7, h8⟩, heio⟩
        | some aid =>
          cases getSensorId c'.args.cmdReq with
          | none => exact .inr ⟨_, rfl, ⟨h1, h2, h3, h4, h5, h6, h7, h8⟩, heio⟩
          | some id => exact .inl ⟨_, rfl, h1, h2, h3, h4, h5, h6, h7, h8⟩
    exact hids _ hlog

theorem readResponse_copies (initialised : Bool) (cmd : ProxyCmd)
    (hread : readsPayload t = true) (hret : getResponse t.cmdId initialised cmd = 0)
    (hbuf : t.call.args.dataBuf = true)
    (hrange : t.call.ctxt.inRange t.call.payloadAddress t.call.args.dataSize = true) :
    (t.call.readResponse t.cmdId initialised cmd).copies =
      t.call.copies ++ [.fromDevice t.call.payloadAddress t.call.args.dataSize] := by
  have hcopy : ∀ ret, ({ t.call with ret := ret } : Call).memcpyGcqPayloadFromDevice.copies =
      t.call.copies ++ [.fromDevice t.call.payloadAddress t.call.args.dataSize] := by
    intro ret
    unfold Call.memcpyGcqPayloadFromDevice
    rw [if_pos (by rw [hbuf, hrange]; rfl)]
  unfold readsPayload at hread
  unfold Call.readResponse
  cases hcmd : t.cmdId with
  | sensor =>
    rw [hcmd] at hret
    dsimp only
    rw [if_pos hret]
    exact hcopy _
  | eepromReadWrite | moduleReadWrite =>
    rw [hcmd] at hret hread
    dsimp only
    rw [if_pos ⟨hret, beq_iff_eq.mp hread⟩]
    exact hcopy _
  | _ =>
    rw [hcmd] at hread
    cases hread

theorem readResponse_copies_cases (c : Call) (cmdId : AmcCmdId) (initialised : Bool)
    (cmd : ProxyCmd) :
    (c.readResponse cmdId initialised cmd).copies = c.copies ∨
      ∃ offset len, (c.readResponse cmdId initialised cmd).copies =
        c.copies ++ [.fromDevice offset len] := by
  unfold Call.readResponse Call.memcpyGcqPayloadFromDevice
  dsimp only
  repeat' split
  all_goals first | exact .inl rfl | exact .inr ⟨_, _, rfl⟩

theorem readResponse_keeps (initialised : Bool) (cmd : ProxyCmd) (pc : Pc) :
    Keeps t { t with call := t.call.readResponse t.cmdId initialised cmd, pc := pc } := by
  unfold Call.readResponse Call.memcpyGcqPayloadFromDevice
  dsimp only
  repeat' split
  all_goals exact ⟨rfl, rfl, rfl, rfl, rfl, rfl, rfl⟩

inductive Awaited (t : Thread) (c : Call) (w : Wake) : Prop
  /-- the call is killed, timed out or failed, and aborts its request -/
  | aborts (ret : ℤ) (hret : ret ≠ 0)
      (h : t.await c w = { t with call := { c with ret := ret }, pc := .abort })
  /-- the call was completed, and reads its response -/
  | completes (early initialised : Bool) (cmd : ProxyCmd) (hwake : w = .woken early initialised)
      (hcmd : c.amcProxyCmd = some cmd) (hcode : cmd.cmdRcode = 0) (hret : c.ret = 0)
      (h : t.await c w = { t with call := c.readResponse t.cmdId initialised cmd, pc := .erase })

theorem await_awaited (c : Call) (w : Wake) : Awaited t c w := by
  by_cases hret : c.ret ≠ 0
  · exact .aborts (-ERESTARTSYS) (by decide) (by simp [Thread.await, Call.await, hret])
  · cases w with
    | killed => exact .aborts (-ERESTARTSYS) (by decide) (by simp [Thread.await, Call.await])
    | woken early initialised =>
      cases hcmd : c.amcProxyCmd with
      | none =>
        exact .aborts (-ERESTARTSYS) (by decide) (by simp [Thread.await, Call.await, hcmd])
      | some cmd =>
        by_cases hto : (cmd.timedOut && !early) = true
        · refine .aborts (-ETIMEDOUT) (by decide) ?_
          simp only [Thread.await, Call.await, hcmd, hret, hto, if_true, if_false]
        · by_cases hcode : cmd.cmdRcode ≠ 0
          · refine .aborts (-EINVAL) (by decide) ?_
            simp only [Thread.await, Call.await, hcmd, hret, hto, hcode, if_false, if_true,
              not_false_eq_true, ne_eq, Bool.false_eq_true]
          · refine .completes early initialised cmd rfl hcmd (not_not.mp hcode) (not_not.mp hret) ?_
            simp only [Thread.await, Call.await, hcmd, hret, hto, hcode, if_false,
              Bool.false_eq_true]

def leaves : Pc → Bool
  | .erase | .release | .returned => true
  | _ => false

/-- The command keeps the response; its code is cleared only when it gets its id. -/
structure KeepsResponse (pc : Pc) (cmd cmd' : ProxyCmd) : Prop where
  response : cmd'.cmdResponse = cmd.cmdResponse ∧ cmd'.cmdResponseCode = cmd.cmdResponseCode
  timedOut : cmd'.timedOut = cmd.timedOut
  code : cmd'.cmdRcode = 0 → cmd.cmdRcode = 0 ∨ pc = .cid

/-- What a section that neither takes nor gives back a semaphore does. -/
structure Quiet (k : ℕ) (t : Thread) (d : Device) (u : Thread) (d' : Device) : Prop where
  keeps : Keeps t u
  carries : carries u.pc = true → carries t.pc = true
  going : t.pc ≠ .returned ∧ u.pc ≠ .returned
  entered : u.pc ≠ .payload ∧ u.pc ≠ .cid
  unwritten : t.pc.unwritten = false → u.pc.unwritten = false
  answer : u.answer = t.answer
  cmd : ∀ cmd', u.call.amcProxyCmd = some cmd' →
    ∃ cmd, t.call.amcProxyCmd = some cmd ∧ KeepsResponse t.pc cmd cmd'
  copies : t.pc ≠ .wait → u.call.copies = t.call.copies
  failed : t.pc ≠ .wait → u.pc ≠ .abort
  leaves : t.pc ≠ .wait → leaves u.pc = true → u.call.ret = 0 →
    t.call.ret = 0 ∧ (leaves t.pc = true ∨ t.pc = .abort)
  ctxt : d'.ctxt = d.ctxt
  sema : ∀ r, d'.sema r = d.sema r
  taken : d'.taken = d.taken
  cq : d'.cq = d.cq
  sq : d'.sq = d.sq ∨ t.pc = .write ∧ ∃ cid, d'.sq = d.sq ++ [⟨cid, k⟩]

theorem KeepsResponse.refl (pc : Pc) (cmd : ProxyCmd) : KeepsResponse pc cmd cmd :=
  ⟨⟨rfl, rfl⟩, rfl, .inl⟩

theorem quiet_of_pc {k : ℕ} {t u : Thread} {d d' : Device} (hkeeps : Keeps t u)
    (hcmd : u.call.amcProxyCmd = t.call.amcProxyCmd) (hcopies : u.call.copies = t.call.copies)
    (hans : u.answer = t.answer) (hcar : carries u.pc = true → carries t.pc = true)
    (hgoing : t.pc ≠ .returned ∧ u.pc ≠ .returned) (hentered : u.pc ≠ .payload ∧ u.pc ≠ .cid)
    (hunwritten : t.pc.unwritten = false → u.pc.unwritten = false) (hfailed : u.pc ≠ .abort)
    (hleaves : leaves u.pc = true → u.call.ret = 0 →
      t.call.ret = 0 ∧ (leaves t.pc = true ∨ t.pc = .abort))
    (hctxt : d'.ctxt = d.ctxt) (hsema : ∀ r, d'.sema r = d.sema r) (htaken : d'.taken = d.taken)
    (hcq : d'.cq = d.cq)
    (hsq : d'.sq = d.sq ∨ t.pc = .write ∧ ∃ cid, d'.sq = d.sq ++ [⟨cid, k⟩]) :
    Quiet k t d u d' where
  keeps := hkeeps
  carries := hcar
  going := hgoing
  entered := hentered
  unwritten := hunwritten
  answer := hans
  cmd := fun cmd' h => ⟨cmd', hcmd ▸ h, .refl _ cmd'⟩
  copies := fun _ => hcopies
  failed := fun _ => hfailed
  leaves := fun _ => hleaves
  ctxt := hctxt
  sema := hsema
  taken := htaken
  cq := hcq
  sq := hsq

theorem cidStep_quiet (k : ℕ) {t : Thread} (d : Device) (hpc : t.pc = .cid) (x : CidXarray)
    (jiffies : ℕ) (fails : Bool) : Quiet k t d (Proxy.cidStep t x jiffies fails).1 d := by
  have hgoing : t.pc ≠ .returned := by rw [hpc]; nofun
  have hcar : carries t.pc = true := by rw [hpc]; rfl
  have hunwritten : t.pc.unwritten = false → False := by rw [hpc]; nofun
  unfold Proxy.cidStep
  cases hcid : getGcqCid x t.call.ctxt.id fails with
  | error ret =>
    exact quiet_of_pc ⟨rfl, rfl, rfl, rfl, rfl, rfl, rfl⟩ rfl rfl rfl nofun ⟨hgoing, nofun⟩
      ⟨nofun, nofun⟩ (fun h => (hunwritten h).elim) nofun
      (fun _ h => (getGcqCid_error hcid h).elim) rfl (fun _ => rfl) rfl rfl (.inl rfl)
  | ok q =>
    refine
      { keeps := ⟨rfl, rfl, rfl, rfl, rfl, rfl, rfl⟩
        carries := fun _ => hcar
        going := ⟨hgoing, nofun⟩
        entered := ⟨nofun, nofun⟩
        unwritten := fun h => (hunwritten h).elim
        answer := rfl
        cmd := fun cmd' h => ?_
        copies := fun _ => rfl
        failed := fun _ => nofun
        leaves := fun _ => nofun
        ctxt := rfl
        sema := fun _ => rfl
        taken := rfl
        cq := rfl
        sq := .inl rfl }
    obtain ⟨cmd, hcmd, rfl⟩ := Option.map_eq_some_iff.mp h
    exact ⟨cmd, hcmd, ⟨rfl, rfl⟩, rfl, fun _ => .inr hpc⟩

theorem abortStep_quiet (k : ℕ) {t : Thread} (d : Device) (hpc : t.pc = .abort) :
    Quiet k t d (Proxy.abortStep k t d).1 (Proxy.abortStep k t d).2 := by
  have hgoing : t.pc ≠ .returned := by rw [hpc]; nofun
  have hleaves : ∀ ret : ℤ, ret = 0 → ret = 0 ∧ (leaves t.pc = true ∨ t.pc = .abort) :=
    fun ret h => ⟨h, .inr hpc⟩
  unfold Proxy.abortStep
  split_ifs
  · refine
      { keeps := ⟨rfl, rfl, rfl, rfl, rfl, rfl, rfl⟩
        carries := nofun
        going := ⟨hgoing, nofun⟩
        entered := ⟨nofun, nofun⟩
        unwritten := fun _ => rfl
        answer := rfl
        cmd := fun cmd' h => ?_
        copies := fun _ => rfl
        failed := fun _ => nofun
        leaves := fun _ _ h => hleaves _ h
        ctxt := rfl
        sema := fun r => by cases r <;> rfl
        taken := rfl
        cq := rfl
        sq := .inl rfl }
    obtain ⟨cmd, hcmd, rfl⟩ := Option.map_eq_some_iff.mp h
    have heio : - EIO ≠ 0 := by decide
    exact ⟨cmd, hcmd, ⟨rfl, rfl⟩, rfl, fun h => (heio h).elim⟩
  · exact quiet_of_pc ⟨rfl, rfl, rfl, rfl, rfl, rfl, rfl⟩ rfl rfl rfl nofun ⟨hgoing, nofun⟩
      ⟨nofun, nofun⟩ (fun _ => rfl) nofun (fun _ h => hleaves _ h) rfl
      (fun r => by cases r <;> rfl) rfl rfl (.inl rfl)
  · exact quiet_of_pc ⟨rfl, rfl, rfl, rfl, rfl, rfl, rfl⟩ rfl rfl rfl nofun ⟨hgoing, nofun⟩
      ⟨nofun, nofun⟩ (fun _ => rfl) nofun (fun _ h => hleaves _ h) rfl (fun _ => rfl) rfl rfl
      (.inl rfl)

/-- The outcome of a wait: the call aborts its request, or it was completed without an error and
has read its response. -/
inductive Outcome (t : Thread) (d : Device) : Thread → Prop
  | aborts (f : ProxyCmd → ProxyCmd) (hf : ∀ cmd, (f cmd).cmdCid = cmd.cmdCid ∧
      (f cmd).cmdResponse = cmd.cmdResponse ∧ (f cmd).cmdResponseCode = cmd.cmdResponseCode ∧
      (f cmd).timedOut = cmd.timedOut ∧ (f cmd).cmdRcode = cmd.cmdRcode) (ret : ℤ) (hret : ret ≠ 0) :
      Outcome t d { t with call := { t.call.mapCmd f with ret := ret }, pc := .abort }
  | completes (cmd : ProxyCmd) (hcmd : t.call.amcProxyCmd = some cmd) (hcomplete : cmd.complete ≠ 0)
      (hcode : cmd.cmdRcode = 0) (hret : t.call.ret = 0) :
      Outcome t d
        { t with
          call := (t.call.mapCmd fun cmd => { cmd with complete := cmd.complete - 1 }).readResponse
            t.cmdId d.initialised { cmd with complete := cmd.complete - 1 }
          pc := .erase }

theorem waitStep_outcome {t u : Thread} {d : Device} {fails early : Bool}
    (h : Proxy.waitStep t d fails early = some u) : Outcome t d u := by
  unfold Proxy.waitStep at h
  split_ifs at h with hkilled
  · cases h
    have hid : t.call = t.call.mapCmd id := by
      unfold Call.mapCmd
      rw [Option.map_id]
      rfl
    rcases await_awaited t t.call .killed with ⟨ret, hret, h⟩ | ⟨_, _, _, hwake, _⟩
    · rw [h]
      have := Outcome.aborts (d := d) (t := t) id (fun _ => ⟨rfl, rfl, rfl, rfl, rfl⟩) ret hret
      rwa [← hid] at this
    · cases hwake
  · cases hcmd : t.call.amcProxyCmd with
    | none =>
      rw [hcmd] at h
      cases h
    | some cmd =>
      rw [hcmd] at h
      dsimp only at h
      split_ifs at h with hcomplete
      cases h
      rcases await_awaited t (t.call.mapCmd fun cmd => { cmd with complete := cmd.complete - 1 })
          (.woken early d.initialised) with
        ⟨ret, hret, h⟩ | ⟨early', ini, cmd', hwake, hcmd', hcode, hret, h⟩
      · rw [h]
        exact .aborts (fun cmd => { cmd with complete := cmd.complete - 1 })
          (fun _ => ⟨rfl, rfl, rfl, rfl, rfl⟩) ret hret
      · cases hwake
        obtain rfl : { cmd with complete := cmd.complete - 1 } = cmd' := by
          have : t.call.amcProxyCmd.map _ = some cmd' := hcmd'
          rw [hcmd] at this
          exact Option.some.inj this
        rw [h]
        exact .completes cmd hcmd hcomplete hcode hret

theorem waitStep_quiet (k : ℕ) {t u : Thread} {d : Device} (hpc : t.pc = .wait)
    (h : Outcome t d u) : Quiet k t d u d := by
  have hcar : carries t.pc = true := by rw [hpc]; rfl
  have hgoing : t.pc ≠ .returned := by rw [hpc]; nofun
  cases h with
  | aborts f hf ret hret =>
    refine
      { keeps := ⟨rfl, rfl, rfl, rfl, rfl, rfl, rfl⟩
        carries := fun _ => hcar
        going := ⟨hgoing, nofun⟩
        entered := ⟨nofun, nofun⟩
        unwritten := fun _ => rfl
        answer := rfl
        cmd := fun cmd' h => ?_
        copies := fun hne => (hne hpc).elim
        failed := fun hne => (hne hpc).elim
        leaves := fun hne => (hne hpc).elim
        ctxt := rfl
        sema := fun _ => rfl
        taken := rfl
        cq := rfl
        sq := .inl rfl }
    obtain ⟨cmd, hcmd, rfl⟩ := Option.map_eq_some_iff.mp h
    obtain ⟨-, hresp, hcode, hto, hrc⟩ := hf cmd
    exact ⟨cmd, hcmd, ⟨hresp, hcode⟩, hto, fun h => .inl (hrc ▸ h)⟩
  | completes cmd hcmd hcomplete hcode hret =>
    have hkeeps := readResponse_keeps
      (t.mapCmd fun cmd => { cmd with complete := cmd.complete - 1 }) d.initialised
      { cmd with complete := cmd.complete - 1 } .erase
    refine
      { keeps := ⟨hkeeps.ctxt, hkeeps.args, hkeeps.cmdId, hkeeps.payloadAddress,
          hkeeps.payloadSize, hkeeps.log, hkeeps.data⟩
        carries := nofun
        going := ⟨hgoing, nofun⟩
        entered := ⟨nofun, nofun⟩
        unwritten := fun _ => rfl
        answer := rfl
        cmd := fun cmd' h => ?_
        copies := fun hne => (hne hpc).elim
        failed := fun hne => (hne hpc).elim
        leaves := fun hne => (hne hpc).elim
        ctxt := rfl
        sema := fun _ => rfl
        taken := rfl
        cq := rfl
        sq := .inl rfl }
    have hsame := (readResponse_same (t.call.mapCmd fun cmd =>
      { cmd with complete := cmd.complete - 1 }) t.cmdId d.initialised
      { cmd with complete := cmd.complete - 1 }).amcProxyCmd
    have h' := hsame.symm.trans h
    obtain ⟨cmd₀, hcmd₀, rfl⟩ := Option.map_eq_some_iff.mp h'
    exact ⟨cmd₀, hcmd₀, ⟨rfl, rfl⟩, rfl, .inl⟩

theorem threadStep_quiet {k : ℕ} {t : Thread} {d : Device} {x : CidXarray} {jiffies : ℕ}
    {fails early : Bool} {r : Thread × Device × CidXarray}
    (h : Proxy.threadStep k t d x jiffies fails early = some r) (hpayload : t.pc ≠ .payload)
    (hrelease : t.pc ≠ .release) : Quiet k t d r.1 r.2.1 := by
  unfold Proxy.threadStep at h
  cases hpc : t.pc with
  | payload => exact (hpayload hpc).elim
  | release => exact (hrelease hpc).elim
  | returned =>
    rw [hpc] at h
    cases h
  | cid =>
    rw [hpc] at h
    cases h
    exact cidStep_quiet k d hpc x jiffies fails
  | lock =>
    rw [hpc] at h
    obtain ⟨q, hq, rfl⟩ := Option.map_eq_some_iff.mp h
    unfold Proxy.lockStep at hq
    split at hq
    · cases hq
    · cases hq
      exact quiet_of_pc ⟨rfl, rfl, rfl, rfl, rfl, rfl, rfl⟩ rfl rfl rfl (fun _ => by rw [hpc]; rfl)
        ⟨by rw [hpc]; nofun, nofun⟩ ⟨nofun, nofun⟩ (by rw [hpc]; nofun) nofun nofun rfl
        (fun r => by cases r <;> rfl) rfl rfl (.inl rfl)
  | write =>
    rw [hpc] at h
    cases h
    unfold Proxy.writeStep
    split_ifs
    · exact quiet_of_pc ⟨rfl, rfl, rfl, rfl, rfl, rfl, rfl⟩ rfl rfl rfl (fun _ => by rw [hpc]; rfl)
        ⟨by rw [hpc]; nofun, nofun⟩ ⟨nofun, nofun⟩ (fun _ => rfl) nofun nofun rfl (fun _ => rfl)
        rfl rfl (.inl rfl)
    · exact quiet_of_pc ⟨rfl, rfl, rfl, rfl, rfl, rfl, rfl⟩ rfl rfl rfl (fun _ => by rw [hpc]; rfl)
        ⟨by rw [hpc]; nofun, nofun⟩ ⟨nofun, nofun⟩ (fun _ => rfl) nofun nofun rfl (fun _ => rfl)
        rfl rfl (.inl rfl)
    · exact quiet_of_pc ⟨rfl, rfl, rfl, rfl, rfl, rfl, rfl⟩ rfl rfl rfl (fun _ => by rw [hpc]; rfl)
        ⟨by rw [hpc]; nofun, nofun⟩ ⟨nofun, nofun⟩ (fun _ => rfl) nofun nofun rfl
        (fun r => by cases r <;> rfl) rfl rfl (.inr ⟨hpc, _, rfl⟩)
  | insert =>
    rw [hpc] at h
    cases h
    exact quiet_of_pc ⟨rfl, rfl, rfl, rfl, rfl, rfl, rfl⟩ rfl rfl rfl (fun _ => by rw [hpc]; rfl)
      ⟨by rw [hpc]; nofun, nofun⟩ ⟨nofun, nofun⟩ (fun _ => rfl) nofun nofun rfl
      (fun r => by cases r <;> rfl) rfl rfl (.inl rfl)
  | requested =>
    rw [hpc] at h
    cases h
    unfold Proxy.unlockStep
    split_ifs with hleave
    · have hret : t.call.ret ≠ 0 := (of_decide_eq_true hleave).2
      exact quiet_of_pc ⟨rfl, rfl, rfl, rfl, rfl, rfl, rfl⟩ rfl rfl rfl nofun
        ⟨by rw [hpc]; nofun, nofun⟩ ⟨nofun, nofun⟩ (fun _ => rfl) nofun
        (fun _ h => (hret h).elim) rfl (fun _ => rfl) rfl rfl (.inl rfl)
    · exact quiet_of_pc ⟨rfl, rfl, rfl, rfl, rfl, rfl, rfl⟩ rfl rfl rfl (fun _ => by rw [hpc]; rfl)
        ⟨by rw [hpc]; nofun, nofun⟩ ⟨nofun, nofun⟩ (fun _ => rfl) nofun nofun rfl
        (fun r => by cases r <;> rfl) rfl rfl (.inl rfl)
  | wait =>
    rw [hpc] at h
    obtain ⟨u, hu, rfl⟩ := Option.map_eq_some_iff.mp h
    exact waitStep_quiet k hpc (waitStep_outcome hu)
  | abort =>
    rw [hpc] at h
    cases h
    exact abortStep_quiet k d hpc
  | erase =>
    rw [hpc] at h
    cases h
    exact quiet_of_pc ⟨rfl, rfl, rfl, rfl, rfl, rfl, rfl⟩ rfl rfl rfl nofun
      ⟨by rw [hpc]; nofun, nofun⟩ ⟨nofun, nofun⟩ (fun _ => rfl) nofun
      (fun _ h => ⟨h, .inl (by rw [hpc]; rfl)⟩) rfl (fun _ => rfl) rfl rfl (.inl rfl)

/-! ### Taking and giving back -/

theorem payloadStep_cases {t : Thread} {d : Device} {fails : Bool} {q : Thread × Device}
    (hfresh : t.call.Fresh) (h : Proxy.payloadStep t d fails = some q) :
    (q.2 = d ∧ (q.1 = { t with pc := .cid } ∧ semaOf t.cmdId = none ∨
      q.1 = { t with call := { t.call with ret := - EIO }, pc := .erase })) ∨
    ∃ r c pc, semaOf t.cmdId = some r ∧ fails = false ∧ d.sema r ≠ 0 ∧ q.2 = d.down r ∧
      q.1 = { t with call := c, pc := pc } ∧ Took t.call c r ∧
      (pc = .cid ∨ pc = .erase ∧ c.ret ≠ 0) := by
  unfold Proxy.payloadStep at h
  cases hsema : semaOf t.cmdId with
  | none =>
    rw [hsema] at h
    cases h
    refine .inl ⟨rfl, .inl ⟨?_, rfl⟩⟩
    unfold Thread.formPayload
    rw [formPayload_of_none hsema]
  | some r =>
    rw [hsema] at h
    dsimp only at h
    split_ifs at h with hfails hzero hzero
    · cases h
      refine .inl ⟨rfl, .inr ?_⟩
      unfold Thread.formPayload
      rw [hfails, formPayload_interrupted hsema]
    · cases h
      obtain rfl : fails = false := by simpa using hfails
      refine .inr ?_
      unfold Thread.formPayload
      rcases formPayload_took hfresh hsema with ⟨c, hc, htook⟩ | ⟨c, hc, htook, hret⟩
      · rw [hc]
        exact ⟨r, c, .cid, rfl, rfl, hzero, rfl, rfl, htook, .inl rfl⟩
      · rw [hc]
        exact ⟨r, c, .erase, rfl, rfl, hzero, rfl, rfl, htook, .inr ⟨rfl, hret⟩⟩

variable (d : Device)

theorem sema_down (r q : Resource) :
    (d.down r).sema q = if q = r then d.sema r - 1 else d.sema q := by
  cases r <;> cases q <;> rfl

theorem down_same (r : Resource) :
    (d.down r).ctxt = d.ctxt ∧ (d.down r).sq = d.sq ∧ (d.down r).taken = d.taken ∧
      (d.down r).cq = d.cq := by
  cases r <;> exact ⟨rfl, rfl, rfl, rfl⟩

theorem releaseStep_spec :
    Keeps t (Proxy.releaseStep t d).1 ∧ (Proxy.releaseStep t d).1.pc = .returned ∧
      (Proxy.releaseStep t d).2.ctxt = d.ctxt ∧ (Proxy.releaseStep t d).2.sq = d.sq ∧
      (Proxy.releaseStep t d).2.taken = d.taken ∧ (Proxy.releaseStep t d).2.cq = d.cq ∧
      ∀ q, (Proxy.releaseStep t d).2.sema q =
        if acquired t q = true then d.sema q + 1 else d.sema q := by
  have hcall : Keeps t (Proxy.releaseStep t d).1 := by
    unfold Proxy.releaseStep Call.releaseSemas
    dsimp only
    split_ifs <;> exact ⟨rfl, rfl, rfl, rfl, rfl, rfl, rfl⟩
  refine ⟨hcall, rfl, ?_⟩
  unfold Proxy.releaseStep
  cases hlog : t.call.logPageAcquired <;> cases hdata : t.call.dataPageAcquired <;>
    refine ⟨rfl, rfl, rfl, rfl, fun q => ?_⟩ <;>
    cases q <;> simp [acquired, hlog, hdata, Device.up, Device.sema]

theorem acquired_of_took {t : Thread} {c : Call} {r : Resource} (hsema : r ≠ .gcqCmdLock)
    (h : Took t.call c r) (pc : Pc) (q : Resource) :
    acquired { t with call := c, pc := pc } q = true ↔ q = r := by
  unfold acquired
  cases q <;> simp [h.log, h.data, eq_comm, hsema]

theorem semaOf_ne_lock {r : Resource} (h : semaOf cmdId = some r) :
    r ≠ .gcqCmdLock := by
  rintro rfl
  cases cmdId <;> cases h

/-- What holds of a call that has just entered: it holds nothing, and unless it is on its way out
with an error it has its command and the buffer that the command needs. -/
structure Entered (d : Device) (u : Thread) : Prop where
  ctxt : u.call.ctxt = d.ctxt
  acquired : ∀ r, acquired u r = false
  answer : u.answer = none
  pc : u.pc = .payload ∨ u.pc = .erase ∧ u.call.ret ≠ 0
  cmd : ∀ cmd, u.call.amcProxyCmd = some cmd → cmd = .zero ∧
    argsMissing u.cmdId u.call.args = false

theorem checks_error_ret {c c' : Call} (h : c.checks = .error c') : c'.ret ≠ 0 := by
  have heio : - EIO ≠ 0 := by decide
  have heinval : -EINVAL ≠ 0 := by decide
  unfold Call.checks at h
  split_ifs at h
  · cases h
    exact heio
  · split at h
    · cases h
      exact heio
    · split_ifs at h
      cases h
      exact heinval

theorem enter_entered (args : Args) (fails : Bool) :
    Entered d (Proxy.enter d args fails) := by
  have hstart : ∀ r cmdId ret, acquired
      ⟨{ Call.start d.ctxt args with ret := ret }, cmdId, .erase, none, none⟩ r = false :=
    fun r _ _ => by cases r <;> rfl
  cases hchecks : (Call.start d.ctxt args).checks with
  | error c =>
    have hret := checks_error_ret hchecks
    obtain ⟨ret, rfl⟩ := checks_error hchecks
    have he : ∃ cmdId, Proxy.enter d args fails =
        ⟨{ Call.start d.ctxt args with ret := ret }, cmdId, .erase, none, none⟩ := by
      unfold Proxy.enter
      simp only [hchecks, Except.bind]
      exact ⟨_, rfl⟩
    obtain ⟨cmdId, he⟩ := he
    rw [he]
    exact ⟨rfl, fun r => hstart r cmdId ret, rfl, .inr ⟨rfl, hret⟩, fun _ h => by cases h⟩
  | ok cmdId =>
    obtain ⟨-, hcmd, hargs⟩ := checks_ok_iff.mp hchecks
    cases fails with
    | true =>
      have he : Proxy.enter d args true =
          ⟨{ Call.start d.ctxt args with ret := -ENOMEM }, cmdId, .erase, none, none⟩ := by
        unfold Proxy.enter
        simp only [hchecks, Except.bind, Call.kzalloc, if_true, Call.fail]
        rw [show getCmdCommandId args.cmdReq = some cmdId from hcmd]
        rfl
      rw [he]
      exact ⟨rfl, fun r => hstart r cmdId _, rfl,
        .inr ⟨rfl, show -ENOMEM ≠ 0 by decide⟩, fun _ h => by cases h⟩
    | false =>
      have he : Proxy.enter d args false =
          ⟨{ Call.start d.ctxt args with amcProxyCmd := some .zero }, cmdId, .payload, none,
            none⟩ := by
        unfold Proxy.enter
        simp only [hchecks, Except.bind, Call.kzalloc, Bool.false_eq_true, if_false]
        rw [show getCmdCommandId args.cmdReq = some cmdId from hcmd]
        rfl
      rw [he]
      refine ⟨rfl, fun r => by cases r <;> rfl, rfl, .inl rfl, fun cmd h => ?_⟩
      cases h
      exact ⟨rfl, hargs⟩

end Amr.Amc.Window
