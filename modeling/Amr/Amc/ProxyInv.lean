/-
# The invariant of the host proxy

What every call, list and queue satisfies in a run in which no call erases an id that another one
owns and no command enters the list while an older request with its id is unanswered: the ids in
flight differ, every listed command belongs to a call that still waits, every entry on its way
belongs to a call that has written it and not been answered, and all entries on their way with the
id of a waiting call are that call's own. Every section of a call keeps it.
-/
import Amr.Amc.Proxy
import Amr.Amc.SubmitBalance

namespace Amr.Amc.Proxy

/-! ### Where a call is -/

/-- The call has been given an id and has not reached the label. -/
def Pc.holdsCid : Pc → Bool
  | .lock | .write | .insert | .requested | .wait | .abort => true
  | _ => false

/-- The call has not written its request. -/
def Pc.unwritten : Pc → Bool
  | .payload | .cid | .lock | .write => true
  | _ => false

/-- The call has an id, and its command is not yet in the list. -/
def Pc.unlisted : Pc → Bool
  | .lock | .write | .insert => true
  | _ => false

/-- The request of the call is submitted, and nothing has ended its wait. -/
def Thread.Waits (t : Thread) : Prop := (t.pc = .requested ∨ t.pc = .wait) ∧ t.call.ret = 0

def Thread.timedOut (t : Thread) : Bool := t.call.amcProxyCmd.any (·.timedOut)

/-- A signalled completion of a command that is still listed comes from a timeout. -/
def Thread.SignalledLate (t : Thread) : Prop :=
  ∀ cmd, t.call.amcProxyCmd = some cmd → cmd.complete ≠ 0 → cmd.cmdRcode ≠ 0

/-- What holds of the locals of a call on their own. -/
structure Thread.Ok (t : Thread) : Prop where
  cmd : ∀ cid, t.owned = some cid → t.cmdCid = some cid
  owns : t.pc.holdsCid = true → t.owned ≠ none
  unanswered : t.pc.unwritten = true → t.answer = none
  entered : t.pc = .payload → t.call.Fresh ∧ getCmdCommandId t.call.args.cmdReq = some t.cmdId
  allocated : t.pc = .payload ∨ t.pc = .cid → t.call.amcProxyCmd ≠ none
  unsignalled : t.pc.unlisted = true → ∀ cmd, t.call.amcProxyCmd = some cmd → cmd.complete = 0

structure Inv (s : State) : Prop where
  ok : ∀ k t, s.threads k = some t → t.Ok
  alloc : ∀ k t cid, s.threads k = some t → t.owned = some cid → s.cids.entries cid ≠ none
  distinct : ∀ k k' t t' cid, s.threads k = some t → s.threads k' = some t' →
    t.owned = some cid → t'.owned = some cid → k = k'
  listed : ∀ d k, k ∈ (s.devices d).submittedCmds → ∃ t, s.threads k = some t ∧ t.dev = d ∧
    t.owned ≠ none ∧ (t.Waits ∨ t.pc = .abort) ∧ t.SignalledLate
  nodup : ∀ d, (s.devices d).submittedCmds.Nodup
  outstanding : ∀ d, ∀ m ∈ (s.devices d).outstanding, ∃ t, s.threads m.owner = some t ∧
    t.dev = d ∧ t.pc.unwritten = false ∧ t.answer = none
  owners : ∀ d, ((s.devices d).outstanding.map (·.owner)).Nodup
  own : ∀ k t cid, s.threads k = some t → t.owned = some cid →
    (k ∈ (s.devices t.dev).submittedCmds ∨ t.Waits) →
    ∀ m ∈ (s.devices t.dev).outstanding, m.cid = cid → m.owner = k
  answer : ∀ k t o, s.threads k = some t → t.answer = some o → o = k
  live : ∀ k t, s.threads k = some t → t.Waits → t.timedOut = false → t.answer = none →
    k ∈ (s.devices t.dev).submittedCmds
  instances : ∀ d, (s.devices d).initialised = false → (s.devices d).submittedCmds = [] ∧
    ∀ k t, s.threads k = some t → t.dev = d → t.pc ≠ .insert

variable {s : State}

theorem Inv.start (h : s.IsStart) : Inv s := by
  have hnone : ∀ {k t}, s.threads k = some t → False := fun {k t} ht => by
    rw [h.threads k] at ht
    cases ht
  have hdev : ∀ d, (s.devices d).submittedCmds = [] ∧ (s.devices d).outstanding = [] := by
    intro d
    obtain ⟨lo, hi, halted, ini, hd⟩ := h.devices d
    rw [hd]
    exact ⟨rfl, rfl⟩
  constructor
  · exact fun k t ht => (hnone ht).elim
  · exact fun k t _ ht => (hnone ht).elim
  · exact fun k _ t _ _ ht => (hnone ht).elim
  · intro d k hk
    rw [(hdev d).1] at hk
    cases hk
  · intro d
    rw [(hdev d).1]
    exact List.nodup_nil
  · intro d m hm
    rw [(hdev d).2] at hm
    cases hm
  · intro d
    rw [(hdev d).2]
    exact List.nodup_nil
  · exact fun k t _ ht => (hnone ht).elim
  · exact fun k t _ ht => (hnone ht).elim
  · exact fun k t ht => (hnone ht).elim
  · exact fun d _ => ⟨(hdev d).1, fun k t ht => (hnone ht).elim⟩

/-! ### One call moves -/

/-- The state after a section of call `k` on device `d`. -/
def State.move (s : State) (k d : ℕ) (t : Thread) (dev : Device) (x : CidXarray) : State :=
  { s with
    threads := Function.update s.threads k (some t)
    devices := Function.update s.devices d dev
    cids := x }

theorem update_eq_some {th : ℕ → Option Thread} {k j : ℕ} {t u : Thread}
    (h : Function.update th k (some t) j = some u) : j = k ∧ u = t ∨ j ≠ k ∧ th j = some u := by
  by_cases hj : j = k
  · subst hj
    rw [Function.update_self] at h
    exact .inl ⟨rfl, (Option.some.inj h).symm⟩
  · rw [Function.update_of_ne hj] at h
    exact .inr ⟨hj, h⟩

/-- What a section of a call may do to the invariant: it keeps the device, the answer and the
other calls' ids and list entries; what it adds is accounted for. -/
structure Move (s : State) (k : ℕ) (t t' : Thread) (dev : Device) (x : CidXarray) : Prop where
  device : t'.dev = t.dev
  ok : t'.Ok
  answer : t'.answer = t.answer
  written : t.pc.unwritten = false → t'.pc.unwritten = false
  timedOut : t'.timedOut = false → t.timedOut = false
  alloc : ∀ cid, t'.owned = some cid → x.entries cid ≠ none
  others : ∀ j u cid, j ≠ k → s.threads j = some u → u.owned = some cid →
    x.entries cid ≠ none ∧ t'.owned ≠ some cid
  mem_list : ∀ j, j ≠ k → (j ∈ dev.submittedCmds ↔ j ∈ (s.devices t.dev).submittedCmds)
  nodup : dev.submittedCmds.Nodup
  listed : k ∈ dev.submittedCmds → t'.owned ≠ none ∧ (t'.Waits ∨ t'.pc = .abort) ∧ t'.SignalledLate
  outstanding : dev.outstanding.Perm (s.devices t.dev).outstanding ∨
    t'.pc.unwritten = false ∧ t'.answer = none ∧ t.pc.unwritten = true ∧
      ∃ cid, t'.owned = some cid ∧ dev.outstanding.Perm (⟨cid, k⟩ :: (s.devices t.dev).outstanding)
  own : ∀ cid, t'.owned = some cid → k ∈ dev.submittedCmds ∨ t'.Waits →
    ∀ m ∈ (s.devices t.dev).outstanding, m.cid = cid → m.owner = k
  live : t'.Waits → t'.timedOut = false → t'.answer = none → k ∈ dev.submittedCmds
  instances : dev.initialised = (s.devices t.dev).initialised ∧
    (dev.initialised = false → k ∉ dev.submittedCmds ∧ t'.pc ≠ .insert)

/-- **A section of a call keeps the invariant**, if it is a `Move`. -/
theorem Inv.move (hs : Inv s) {k : ℕ} {t t' : Thread} {dev : Device} {x : CidXarray}
    (ht : s.threads k = some t) (h : Move s k t t' dev x) : Inv (s.move k t.dev t' dev x) := by
  have hself : (s.move k t.dev t' dev x).devices t.dev = dev := Function.update_self ..
  have hother : ∀ d, d ≠ t.dev → (s.move k t.dev t' dev x).devices d = s.devices d :=
    fun d hd => Function.update_of_ne hd ..
  have hk : (s.move k t.dev t' dev x).threads k = some t' := Function.update_self ..
  have hne : ∀ j, j ≠ k → (s.move k t.dev t' dev x).threads j = s.threads j :=
    fun j hj => Function.update_of_ne hj ..
  -- an entry on its way is an old one, or the one that `k` has just written
  have hmem : ∀ m ∈ dev.outstanding, m ∈ (s.devices t.dev).outstanding ∨
      (t'.pc.unwritten = false ∧ t'.answer = none ∧ t.pc.unwritten = true ∧
        t'.owned = some m.cid ∧ m.owner = k) := by
    intro m hm
    rcases h.outstanding with hp | ⟨hw, ha, hu, cid, ho, hp⟩
    · exact .inl (hp.mem_iff.mp hm)
    · rcases List.mem_cons.mp (hp.mem_iff.mp hm) with rfl | hm
      · exact .inr ⟨hw, ha, hu, ho, rfl⟩
      · exact .inl hm
  constructor
  · intro j u hu
    rcases update_eq_some hu with ⟨rfl, rfl⟩ | ⟨-, hu⟩
    · exact h.ok
    · exact hs.ok j u hu
  · intro j u cid hu ho
    rcases update_eq_some hu with ⟨rfl, rfl⟩ | ⟨hj, hu⟩
    · exact h.alloc cid ho
    · exact (h.others j u cid hj hu ho).1
  · intro j j' u u' cid hu hu' ho ho'
    rcases update_eq_some hu with ⟨rfl, rfl⟩ | ⟨hj, hold⟩ <;>
      rcases update_eq_some hu' with ⟨rfl, rfl⟩ | ⟨hj', hold'⟩
    · rfl
    · exact ((h.others j' u' cid hj' hold' ho').2 ho).elim
    · exact ((h.others j u cid hj hold ho).2 ho').elim
    · exact hs.distinct j j' u u' cid hold hold' ho ho'
  · intro d j hj
    by_cases hd : d = t.dev
    · subst hd
      rw [hself] at hj
      by_cases hjk : j = k
      · subst hjk
        exact ⟨t', hk, h.device, h.listed hj⟩
      · obtain ⟨u, hu, hrest⟩ := hs.listed t.dev j ((h.mem_list j hjk).mp hj)
        exact ⟨u, (hne j hjk).trans hu, hrest⟩
    · rw [hother d hd] at hj
      obtain ⟨u, hu, hdev, hrest⟩ := hs.listed d j hj
      have hjk : j ≠ k := by
        rintro rfl
        rw [ht] at hu
        cases hu
        exact hd hdev.symm
      exact ⟨u, (hne j hjk).trans hu, hdev, hrest⟩
  · intro d
    by_cases hd : d = t.dev
    · subst hd
      rw [hself]
      exact h.nodup
    · rw [hother d hd]
      exact hs.nodup d
  · intro d m hm
    have hold : ∀ u, s.threads m.owner = some u → u.dev = d → u.pc.unwritten = false →
        u.answer = none → ∃ u', (s.move k t.dev t' dev x).threads m.owner = some u' ∧
          u'.dev = d ∧ u'.pc.unwritten = false ∧ u'.answer = none := by
      intro u hu hdev hw ha
      by_cases hjk : m.owner = k
      · rw [hjk, ht] at hu
        cases hu
        rw [hjk]
        exact ⟨t', hk, h.device.trans hdev, h.written hw, h.answer.trans ha⟩
      · exact ⟨u, (hne _ hjk).trans hu, hdev, hw, ha⟩
    by_cases hd : d = t.dev
    · subst hd
      rw [hself] at hm
      rcases hmem m hm with hm | ⟨hw, ha, -, -, hmk⟩
      · obtain ⟨u, hu, hdev, hw, ha⟩ := hs.outstanding _ m hm
        exact hold u hu hdev hw ha
      · rw [hmk]
        exact ⟨t', hk, h.device, hw, ha⟩
    · rw [hother d hd] at hm
      obtain ⟨u, hu, hdev, hw, ha⟩ := hs.outstanding d m hm
      exact hold u hu hdev hw ha
  · intro d
    by_cases hd : d = t.dev
    · subst hd
      rw [hself]
      rcases h.outstanding with hp | ⟨-, -, hunw, cid, -, hp⟩
      · exact (hp.map _).nodup_iff.mpr (hs.owners t.dev)
      · refine (hp.map _).nodup_iff.mpr (List.nodup_cons.mpr ⟨fun hmem => ?_, hs.owners t.dev⟩)
        obtain ⟨m, hm, hmk⟩ := List.mem_map.mp hmem
        obtain ⟨u, hu, -, hw, -⟩ := hs.outstanding _ m hm
        rw [hmk, ht] at hu
        cases hu
        rw [hunw] at hw
        cases hw
    · rw [hother d hd]
      exact hs.owners d
  · intro j u cid hu ho hwaits m hm hcid
    rcases update_eq_some hu with ⟨rfl, rfl⟩ | ⟨hj, hu⟩
    · rw [h.device, hself] at hwaits hm
      rcases hmem m hm with hm | ⟨-, -, -, -, hmk⟩
      · exact h.own cid ho hwaits m hm hcid
      · exact hmk
    · by_cases hd : u.dev = t.dev
      · rw [hd, hself] at hwaits hm
        rw [h.mem_list j hj, ← hd] at hwaits
        rcases hmem m hm with hm | ⟨-, -, -, ho', -⟩
        · rw [← hd] at hm
          exact hs.own j u cid hu ho hwaits m hm hcid
        · rw [hcid] at ho'
          exact ((h.others j u cid hj hu ho).2 ho').elim
      · rw [hother _ hd] at hwaits hm
        exact hs.own j u cid hu ho hwaits m hm hcid
  · intro j u o hu hans
    rcases update_eq_some hu with ⟨rfl, rfl⟩ | ⟨-, hu⟩
    · exact hs.answer j t o ht (h.answer ▸ hans)
    · exact hs.answer j u o hu hans
  · intro j u hu hw hto hans
    rcases update_eq_some hu with ⟨rfl, rfl⟩ | ⟨hj, hu⟩
    · rw [h.device, hself]
      exact h.live hw hto hans
    · have := hs.live j u hu hw hto hans
      by_cases hd : u.dev = t.dev
      · rw [hd, hself, h.mem_list j hj, ← hd]
        exact this
      · rw [hother _ hd]
        exact this
  · intro d hini
    have hthreads : (∀ u, s.threads k = some u → t'.dev = d → t'.pc ≠ .insert) →
        (∀ j u, s.threads j = some u → u.dev = d → u.pc ≠ .insert) →
        ∀ j u, (s.move k t.dev t' dev x).threads j = some u → u.dev = d → u.pc ≠ .insert := by
      intro hnew hold j u hu
      rcases update_eq_some hu with ⟨rfl, rfl⟩ | ⟨-, hu⟩
      · exact hnew t ht
      · exact hold j u hu
    by_cases hd : d = t.dev
    · subst hd
      rw [hself] at hini ⊢
      obtain ⟨hnot, hpc⟩ := h.instances.2 hini
      obtain ⟨hempty, hold⟩ := hs.instances t.dev (h.instances.1 ▸ hini)
      refine ⟨List.eq_nil_iff_forall_not_mem.mpr fun j hj => ?_, hthreads (fun _ _ _ => hpc) hold⟩
      by_cases hjk : j = k
      · exact hnot (hjk ▸ hj)
      · have := (h.mem_list j hjk).mp hj
        rw [hempty] at this
        cases this
    · rw [hother d hd] at hini ⊢
      obtain ⟨hempty, hold⟩ := hs.instances d hini
      exact ⟨hempty, hthreads (fun _ _ hdev => (hd (hdev.symm.trans h.device)).elim) hold⟩

theorem Move.quiet (hs : Inv s) {k : ℕ} {t t' : Thread} {dev : Device}
    {x : CidXarray} (ht : s.threads k = some t) (hdev : t'.dev = t.dev) (hok : t'.Ok)
    (hans : t'.answer = t.answer) (howned : t'.owned = t.owned)
    (hx : x.entries = s.cids.entries)
    (hlist : dev.submittedCmds = (s.devices t.dev).submittedCmds)
    (hout : dev.outstanding = (s.devices t.dev).outstanding)
    (hini : dev.initialised = (s.devices t.dev).initialised) (hpc : t'.pc ≠ .insert)
    (hwritten : t.pc.unwritten = false → t'.pc.unwritten = false)
    (hto : t'.timedOut = false → t.timedOut = false)
    (hlisted : k ∈ (s.devices t.dev).submittedCmds →
      (t'.Waits ∨ t'.pc = .abort) ∧ t'.SignalledLate)
    (hwaits : t'.Waits → t.Waits) : Move s k t t' dev x where
  device := hdev
  ok := hok
  answer := hans
  written := hwritten
  timedOut := hto
  alloc := by
    intro cid ho
    rw [hx]
    exact hs.alloc k t cid ht (howned ▸ ho)
  others := by
    intro j u cid hj hu ho
    rw [hx, howned]
    exact ⟨hs.alloc j u cid hu ho, fun h => hj (hs.distinct j k u t cid hu ht ho h)⟩
  mem_list := fun j _ => by rw [hlist]
  nodup := hlist ▸ hs.nodup t.dev
  listed := by
    intro hk
    rw [hlist] at hk
    obtain ⟨u, hu, -, ho, -⟩ := hs.listed _ _ hk
    rw [ht] at hu
    cases hu
    exact ⟨howned ▸ ho, hlisted hk⟩
  outstanding := .inl (hout ▸ .refl _)
  own := by
    intro cid ho hw m hm hcid
    rw [hlist] at hw
    exact hs.own k t cid ht (howned ▸ ho) (hw.imp_right hwaits) m hm hcid
  live := by
    intro hw htimed ha
    rw [hlist]
    exact hs.live k t ht (hwaits hw) (hto htimed) (hans ▸ ha)
  instances := by
    refine ⟨hini, fun h => ⟨?_, hpc⟩⟩
    rw [hlist, (hs.instances t.dev (hini ▸ h)).1]
    exact List.not_mem_nil

theorem Inv.not_listed (hs : Inv s) {k d : ℕ} {t : Thread} (ht : s.threads k = some t)
    (hw : ¬ t.Waits) (ha : t.pc ≠ .abort) : k ∉ (s.devices d).submittedCmds := fun hk => by
  obtain ⟨u, hu, -, -, h, -⟩ := hs.listed d k hk
  rw [ht] at hu
  cases hu
  exact h.elim hw ha

/-! ### The sections of a call -/

theorem not_waits_of_pc {t : Thread} (h : t.pc ≠ .requested) (h' : t.pc ≠ .wait) : ¬ t.Waits :=
  fun hw => hw.1.elim h h'

theorem payloadStep_move (hs : Inv s) {k : ℕ} {t : Thread}
    (ht : s.threads k = some t) (hpc : t.pc = .payload) {fails : Bool} {r : Thread × Device}
    (h : payloadStep t (s.devices t.dev) fails = some r) : Move s k t r.1 r.2 s.cids := by
  obtain ⟨hfresh, hcmd⟩ := (hs.ok k t ht).entered hpc
  have hnot : ∀ d, k ∉ (s.devices d).submittedCmds := fun d =>
    hs.not_listed ht (not_waits_of_pc (by rw [hpc]; nofun) (by rw [hpc]; nofun)) (by rw [hpc]; nofun)
  have hdown : ∀ q : Resource, ((s.devices t.dev).down q).submittedCmds =
      (s.devices t.dev).submittedCmds ∧
      ((s.devices t.dev).down q).outstanding = (s.devices t.dev).outstanding ∧
      ((s.devices t.dev).down q).initialised = (s.devices t.dev).initialised := by
    intro q
    cases q <;> exact ⟨rfl, rfl, rfl⟩
  -- either way the locals keep the command and the device, and the count of a semaphore changes
  have hquiet : ∀ (c : Call) (pc : Pc), t.call.PayloadStep c → (pc = .erase ∨ pc = .cid) →
      ∀ dev : Device, dev.submittedCmds = (s.devices t.dev).submittedCmds →
        dev.outstanding = (s.devices t.dev).outstanding →
        dev.initialised = (s.devices t.dev).initialised →
        Move s k t { t with call := c, pc := pc } dev s.cids := by
    intro c pc hc hpc' dev hlist hout hini
    have hok := hs.ok k t ht
    refine Move.quiet hs ht ?_ ⟨?_, ?_, ?_, ?_, ?_, ?_⟩ rfl rfl rfl hlist hout hini ?_ ?_ ?_
      (fun hk => (hnot _ hk).elim) ?_
    · rw [Thread.dev, hc.ctxt, Thread.dev]
    · intro cid ho
      rw [Thread.cmdCid, hc.amcProxyCmd]
      exact hok.cmd cid ho
    · rcases hpc' with rfl | rfl <;> intro h <;> cases h
    · intro _
      exact hok.unanswered (by rw [hpc]; rfl)
    · rcases hpc' with rfl | rfl <;> intro h <;> cases h
    · intro _
      change c.amcProxyCmd ≠ none
      rw [hc.amcProxyCmd]
      exact hok.allocated (.inl hpc)
    · rcases hpc' with rfl | rfl <;> intro h <;> cases h
    · rcases hpc' with rfl | rfl <;> nofun
    · rw [hpc]
      intro h
      cases h
    · intro h
      rwa [Thread.timedOut, hc.amcProxyCmd] at h
    · rcases hpc' with rfl | rfl <;> rintro ⟨h | h, -⟩ <;> cases h
  have hmove : ∀ dev : Device, dev.submittedCmds = (s.devices t.dev).submittedCmds →
      dev.outstanding = (s.devices t.dev).outstanding →
      dev.initialised = (s.devices t.dev).initialised →
      Move s k t (t.formPayload fails) dev s.cids := by
    unfold Thread.formPayload
    rcases formPayload_cases hfresh hcmd fails with ⟨-, c, hc, hstep⟩ | ⟨-, c, hc, hstep⟩
    · rw [hc]
      exact hquiet c .erase hstep (.inl rfl)
    · rw [hc]
      exact hquiet c .cid hstep (.inr rfl)
  unfold payloadStep at h
  cases hsema : semaOf t.cmdId with
  | none =>
    rw [hsema] at h
    cases h
    exact hmove _ rfl rfl rfl
  | some q =>
    rw [hsema] at h
    dsimp only at h
    split_ifs at h <;> cases h
    · exact hmove _ rfl rfl rfl
    · exact hmove _ (hdown q).1 (hdown q).2.1 (hdown q).2.2

theorem Thread.Ok.later {t t' : Thread} (h : t.Ok) (hcmd : t'.cmdCid = t.cmdCid)
    (howned : t'.owned = t.owned) (hans : t'.answer = t.answer) (hpayload : t'.pc ≠ .payload)
    (hcid : t'.pc ≠ .cid) (hholds : t'.pc.holdsCid = true → t.owned ≠ none)
    (hunwritten : t'.pc.unwritten = true → t.pc.unwritten = true)
    (hunlisted : t'.pc.unlisted = true → t.pc.unlisted = true ∧
      t'.call.amcProxyCmd = t.call.amcProxyCmd) : t'.Ok where
  cmd := fun cid ho => hcmd.trans (h.cmd cid (howned ▸ ho))
  owns := fun hp => howned ▸ hholds hp
  unanswered := fun hp => hans.trans (h.unanswered (hunwritten hp))
  entered := fun hp => (hpayload hp).elim
  allocated := fun hp => (hp.elim hpayload hcid).elim
  unsignalled := fun hp cmd hcmd' =>
    h.unsignalled (hunlisted hp).1 cmd ((hunlisted hp).2 ▸ hcmd')

theorem Thread.Ok.owns_of_pc {t : Thread} (h : t.Ok) {pc : Pc} (hpc : t.pc = pc)
    (hholds : pc.holdsCid = true) : ∃ cid, t.owned = some cid ∧ t.cmdCid = some cid := by
  obtain ⟨cid, hcid⟩ := Option.ne_none_iff_exists'.mp (h.owns (hpc ▸ hholds))
  exact ⟨cid, hcid, h.cmd cid hcid⟩

theorem cidStep_move (hs : Inv s) {k : ℕ} {t : Thread} (ht : s.threads k = some t)
    (hpc : t.pc = .cid) (jiffies : ℕ) (fails : Bool) :
    Move s k t (cidStep t s.cids jiffies fails).1 (s.devices t.dev)
      (cidStep t s.cids jiffies fails).2 := by
  have hok := hs.ok k t ht
  have hnot : k ∉ (s.devices t.dev).submittedCmds :=
    hs.not_listed ht (not_waits_of_pc (by rw [hpc]; nofun) (by rw [hpc]; nofun)) (by rw [hpc]; nofun)
  unfold cidStep
  cases hcid : getGcqCid s.cids t.call.ctxt.id fails with
  | error ret =>
    refine Move.quiet hs ht rfl ⟨hok.cmd, nofun, nofun, nofun, nofun, nofun⟩ rfl rfl rfl rfl rfl rfl nofun ?_ id
      (fun hk => (hnot hk).elim) (fun hw => (not_waits_of_pc (by nofun) (by nofun) hw).elim)
    rw [hpc]
    nofun
  | ok q =>
    obtain ⟨cid, x⟩ := q
    obtain ⟨-, hfree, rfl⟩ := getGcqCid_ok hcid
    obtain ⟨cmd, hcmd⟩ := Option.ne_none_iff_exists'.mp (hok.allocated (.inr hpc))
    have hinit : (t.call.initCmd t.cmdId cid jiffies).amcProxyCmd =
        some { cmd with
          cmdCid := cid
          complete := 0
          cmdTimeoutJiffies := jiffies + requestTimeout t.cmdId
          cmdRcode := 0
          cmdOpcode := t.cmdId } := by
      unfold Call.initCmd Call.mapCmd
      rw [hcmd]
      rfl
    have hnotwaits : ¬ Thread.Waits
        { t with call := t.call.initCmd t.cmdId cid jiffies, pc := .lock, owned := some cid } :=
      not_waits_of_pc (by nofun) (by nofun)
    refine
      { device := rfl
        ok := ⟨?_, nofun, fun _ => hok.unanswered (by rw [hpc]; rfl), nofun, nofun, ?_⟩
        answer := rfl
        written := by rw [hpc]; nofun
        timedOut := ?_
        alloc := ?_
        others := ?_
        mem_list := fun _ _ => .rfl
        nodup := hs.nodup t.dev
        listed := fun hk => (hnot hk).elim
        outstanding := .inl (.refl _)
        own := fun _ _ hw => (hw.elim hnot hnotwaits).elim
        live := fun hw => (hnotwaits hw).elim
        instances := ⟨rfl, fun _ => ⟨hnot, nofun⟩⟩ }
    · rintro _ ⟨⟩
      rw [Thread.cmdCid, hinit]
      rfl
    · intro _ cmd' hcmd'
      rw [show _ = _ from hinit] at hcmd'
      cases hcmd'
      rfl
    · intro h
      rw [Thread.timedOut, hinit] at h
      rw [Thread.timedOut, hcmd]
      exact h
    · rintro _ ⟨⟩
      simp
    · intro j u c hj hu ho
      have hne : c ≠ cid := by
        rintro rfl
        exact hs.alloc j u c hu ho hfree
      refine ⟨?_, fun h => hne (Option.some.inj h).symm⟩
      simpa [Function.update_of_ne hne] using hs.alloc j u c hu ho

theorem lockStep_move (hs : Inv s) {k : ℕ} {t : Thread} (ht : s.threads k = some t)
    (hpc : t.pc = .lock) {r : Thread × Device} (h : lockStep k t (s.devices t.dev) = some r) :
    Move s k t r.1 r.2 s.cids := by
  have hok := hs.ok k t ht
  unfold lockStep at h
  split at h
  · cases h
  · cases h
    refine Move.quiet hs ht rfl ?_ rfl rfl rfl rfl rfl rfl nofun (by rw [hpc]; nofun) id ?_ ?_
    · exact hok.later rfl rfl rfl nofun nofun (fun _ => hok.owns (by rw [hpc]; rfl))
        (fun _ => by rw [hpc]; rfl) (fun _ => ⟨by rw [hpc]; rfl, rfl⟩)
    · exact fun hk => (hs.not_listed ht (not_waits_of_pc (by rw [hpc]; nofun) (by rw [hpc]; nofun))
        (by rw [hpc]; nofun) hk).elim
    · exact fun hw => (not_waits_of_pc (by nofun) (by nofun) hw).elim

theorem writeStep_move (hs : Inv s) {k : ℕ} {t : Thread} (ht : s.threads k = some t)
    (hpc : t.pc = .write) (fails : Bool) :
    Move s k t (writeStep k t (s.devices t.dev) fails).1 (writeStep k t (s.devices t.dev) fails).2
      s.cids := by
  have hok := hs.ok k t ht
  obtain ⟨cid, howned, hcmdCid⟩ := hok.owns_of_pc hpc rfl
  have hnot : k ∉ (s.devices t.dev).submittedCmds :=
    hs.not_listed ht (not_waits_of_pc (by rw [hpc]; nofun) (by rw [hpc]; nofun)) (by rw [hpc]; nofun)
  have hownsNone : t.owned ≠ none := by rw [howned]; nofun
  have hfail : ∀ ret : ℤ, ret ≠ 0 →
      Move s k t { t with call := { t.call with ret := ret }, pc := .requested }
        (s.devices t.dev) s.cids := by
    intro ret hret
    refine Move.quiet hs ht rfl ?_ rfl rfl rfl rfl rfl rfl nofun (fun _ => rfl) id
      (fun hk => (hnot hk).elim) (fun hw => (hret hw.2).elim)
    exact hok.later rfl rfl rfl nofun nofun (fun _ => hownsNone) nofun nofun
  unfold writeStep
  split_ifs with hini
  · exact hfail _ (by decide)
  · exact hfail _ (by decide)
  · have hnotwaits : ¬ (t.goto .insert).Waits := not_waits_of_pc (by nofun) (by nofun)
    refine
      { device := rfl
        ok := hok.later rfl rfl rfl nofun nofun (fun _ => hownsNone) nofun
          (fun _ => ⟨by rw [hpc]; rfl, rfl⟩)
        answer := rfl
        written := fun _ => rfl
        timedOut := id
        alloc := fun c ho => hs.alloc k t c ht ho
        others := fun j u c hj hu ho =>
          ⟨hs.alloc j u c hu ho, fun h => hj (hs.distinct j k u t c hu ht ho h)⟩
        mem_list := fun _ _ => .rfl
        nodup := hs.nodup t.dev
        listed := fun hk => (hnot hk).elim
        outstanding := .inr ⟨rfl, hok.unanswered (by rw [hpc]; rfl), by rw [hpc]; rfl, cid, howned, ?_⟩
        own := fun _ _ hw => (hw.elim hnot hnotwaits).elim
        live := fun hw => (hnotwaits hw).elim
        instances := ⟨rfl, fun h => (hini h).elim⟩ }
    rw [hcmdCid]
    unfold Device.outstanding
    rw [Option.getD_some, List.append_assoc, List.append_assoc, List.singleton_append,
      List.append_assoc]
    exact List.perm_middle

theorem insertStep_move (hs : Inv s) {k : ℕ} {t : Thread} (ht : s.threads k = some t)
    (hpc : t.pc = .insert)
    (hown : ∀ m ∈ (s.devices t.dev).outstanding, t.cmdCid = some m.cid → m.owner = k) :
    Move s k t (insertStep k t (s.devices t.dev)).1 (insertStep k t (s.devices t.dev)).2 s.cids := by
  have hok := hs.ok k t ht
  obtain ⟨cid, howned, hcmdCid⟩ := hok.owns_of_pc hpc rfl
  have hnot : k ∉ (s.devices t.dev).submittedCmds :=
    hs.not_listed ht (not_waits_of_pc (by rw [hpc]; nofun) (by rw [hpc]; nofun)) (by rw [hpc]; nofun)
  have hownsNone : t.owned ≠ none := by rw [howned]; nofun
  have hsig : t.SignalledLate := fun cmd hcmd hcomplete =>
    (hcomplete (hok.unsignalled (by rw [hpc]; rfl) cmd hcmd)).elim
  unfold insertStep
  refine
    { device := rfl
      ok := hok.later rfl rfl rfl nofun nofun (fun _ => hownsNone) nofun nofun
      answer := rfl
      written := fun _ => rfl
      timedOut := id
      alloc := fun c ho => hs.alloc k t c ht ho
      others := fun j u c hj hu ho =>
        ⟨hs.alloc j u c hu ho, fun h => hj (hs.distinct j k u t c hu ht ho h)⟩
      mem_list := ?_
      nodup := ?_
      listed := fun _ => ⟨hownsNone, .inl ⟨.inl rfl, rfl⟩, hsig⟩
      outstanding := .inl (.refl _)
      own := ?_
      live := fun _ _ _ => by simp
      instances := ⟨rfl, fun h => ((hs.instances t.dev h).2 k t ht rfl hpc).elim⟩ }
  · intro j hj
    simp [hj]
  · rw [List.nodup_append]
    refine ⟨hs.nodup t.dev, List.nodup_singleton k, ?_⟩
    rintro j hj i hi rfl
    exact hnot (List.mem_singleton.mp hi ▸ hj)
  · intro c ho _ m hm hc
    refine hown m hm ?_
    rw [hc]
    exact hok.cmd c ho

theorem unlockStep_move (hs : Inv s) {k : ℕ} {t : Thread} (ht : s.threads k = some t)
    (hpc : t.pc = .requested) :
    Move s k t (unlockStep t (s.devices t.dev)).1 (unlockStep t (s.devices t.dev)).2 s.cids := by
  have hok := hs.ok k t ht
  obtain ⟨cid, howned, -⟩ := hok.owns_of_pc hpc rfl
  have hownsNone : t.owned ≠ none := by rw [howned]; nofun
  unfold unlockStep
  split_ifs with hleave
  · -- the request has failed, so the command is in no list
    have hret : t.call.ret ≠ 0 := (of_decide_eq_true hleave).2
    have hnot : k ∉ (s.devices t.dev).submittedCmds :=
      hs.not_listed ht (fun hw => hret hw.2) (by rw [hpc]; nofun)
    refine Move.quiet hs ht rfl ?_ rfl rfl rfl rfl rfl rfl nofun (fun _ => rfl) id
      (fun hk => (hnot hk).elim) (fun hw => (hret hw.2).elim)
    exact hok.later rfl rfl rfl nofun nofun nofun nofun nofun
  · have hwaits : t.call.ret = 0 → t.Waits := fun h => ⟨.inl hpc, h⟩
    refine Move.quiet hs ht rfl ?_ rfl rfl rfl rfl rfl rfl nofun (fun _ => rfl) id ?_
      (fun hw => hwaits hw.2)
    · exact hok.later rfl rfl rfl nofun nofun (fun _ => hownsNone) nofun nofun
    · intro hk
      obtain ⟨u, hu, -, -, hw, hsig⟩ := hs.listed _ _ hk
      rw [ht] at hu
      cases hu
      refine ⟨.inl ⟨.inr rfl, ?_⟩, hsig⟩
      exact (hw.resolve_right (by rw [hpc]; nofun)).2

theorem await_cases (c : Call) (cmdId : AmcCmdId) (w : Wake) :
    (c.await cmdId w).1.amcProxyCmd = c.amcProxyCmd ∧ (c.await cmdId w).1.ctxt = c.ctxt ∧
      ((c.await cmdId w).2 = false → c.ret = 0 ∧ ∃ cmd, c.amcProxyCmd = some cmd ∧
        cmd.cmdRcode = 0) := by
  have hsame := await_same c cmdId w
  refine ⟨hsame.amcProxyCmd, hsame.ctxt, fun h => ?_⟩
  unfold Call.await at h
  split_ifs at h with hret
  · split at h
    · rename_i cmd hcmd
      split_ifs at h with hto hrc
      exact ⟨not_not.mp hret, cmd, hcmd, not_not.mp hrc⟩
    · cases h

theorem awaitThread_move (hs : Inv s) {k : ℕ} {t : Thread}
    (ht : s.threads k = some t) (hpc : t.pc = .wait) {f : ProxyCmd → ProxyCmd} (w : Wake)
    (hf : ∀ cmd, (f cmd).cmdCid = cmd.cmdCid ∧ (f cmd).timedOut = cmd.timedOut ∧
      (f cmd).cmdRcode = cmd.cmdRcode ∧ (f cmd).complete ≤ cmd.complete)
    (hsignal : ((t.call.mapCmd f).await t.cmdId w).2 = false →
      ∃ cmd, t.call.amcProxyCmd = some cmd ∧ cmd.complete ≠ 0) :
    Move s k t (t.await (t.call.mapCmd f) w) (s.devices t.dev) s.cids := by
  have hok := hs.ok k t ht
  obtain ⟨cid, howned, -⟩ := hok.owns_of_pc hpc rfl
  obtain ⟨hcmd, hctxt, hfinal⟩ := await_cases (t.call.mapCmd f) t.cmdId w
  replace hcmd : (t.await (t.call.mapCmd f) w).call.amcProxyCmd = t.call.amcProxyCmd.map f := hcmd
  have hpc' : (t.await (t.call.mapCmd f) w).pc = .abort ∨
      (t.await (t.call.mapCmd f) w).pc = .erase := by
    unfold Thread.await
    cases ((t.call.mapCmd f).await t.cmdId w).2
    · exact .inr rfl
    · exact .inl rfl
  refine Move.quiet hs ht (congrArg AmcControlCtxt.id hctxt) ?_ rfl rfl rfl rfl rfl rfl ?_ ?_ ?_ ?_ ?_
  · refine hok.later ?_ rfl rfl ?_ ?_ (fun _ => by rw [howned]; nofun) ?_ ?_
    · rw [Thread.cmdCid, hcmd, Thread.cmdCid, Option.map_map]
      exact Option.map_congr fun cmd _ => (hf cmd).1
    all_goals rcases hpc' with h | h <;> rw [h] <;> nofun
  · rcases hpc' with h | h <;> rw [h] <;> nofun
  · intro _
    rcases hpc' with h | h <;> rw [h] <;> rfl
  · intro h
    rw [Thread.timedOut, hcmd, Option.any_map] at h
    rw [Thread.timedOut, ← h]
    exact congrArg (fun p => Option.any p _) (funext fun cmd => ((hf cmd).2.1).symm)
  · intro hk
    obtain ⟨u, hu, -, -, -, hsig⟩ := hs.listed _ _ hk
    rw [ht] at hu
    cases hu
    cases hab : ((t.call.mapCmd f).await t.cmdId w).2 with
    | true =>
      refine ⟨.inr ?_, fun cmd hcmd' hcomplete => ?_⟩
      · unfold Thread.await
        rw [hab]
        rfl
      · rw [hcmd] at hcmd'
        obtain ⟨cmd₀, hcmd₀, rfl⟩ := Option.map_eq_some_iff.mp hcmd'
        obtain ⟨-, -, hrc, hle⟩ := hf cmd₀
        rw [hrc]
        exact hsig cmd₀ hcmd₀ (by omega)
    | false =>
      obtain ⟨cmd, hcmd₀, hcomplete⟩ := hsignal hab
      obtain ⟨-, cmd', hcmd₁, hrc⟩ := hfinal hab
      rw [Call.mapCmd, hcmd₀] at hcmd₁
      obtain rfl : f cmd = cmd' := by simpa using hcmd₁
      rw [(hf cmd).2.2.1] at hrc
      exact (hsig cmd hcmd₀ hcomplete hrc).elim
  · rintro ⟨hp, -⟩
    rcases hpc' with h | h <;> rw [h] at hp <;> rcases hp with hp | hp <;> cases hp

theorem waitStep_move (hs : Inv s) {k : ℕ} {t t' : Thread} (ht : s.threads k = some t)
    (hpc : t.pc = .wait) {fails early : Bool}
    (h : waitStep t (s.devices t.dev) fails early = some t') :
    Move s k t t' (s.devices t.dev) s.cids := by
  unfold waitStep at h
  by_cases hret : t.call.ret ≠ 0 ∨ fails = true
  · rw [if_pos hret] at h
    cases h
    have hid : t.call = t.call.mapCmd id := by
      unfold Call.mapCmd
      rw [Option.map_id]
      rfl
    have hmove := awaitThread_move hs ht hpc (f := id) .killed
      (fun _ => ⟨rfl, rfl, rfl, le_rfl⟩) (fun hab => ?_)
    · rwa [← hid] at hmove
    · unfold Call.await at hab
      split_ifs at hab
  · rw [if_neg hret] at h
    cases hcmd : t.call.amcProxyCmd with
    | none =>
      rw [hcmd] at h
      cases h
    | some cmd =>
      rw [hcmd] at h
      by_cases hcomplete : cmd.complete = 0
      · simp [hcomplete] at h
      · simp only [hcomplete, if_false, Option.some.injEq] at h
        subst h
        exact awaitThread_move hs ht hpc _ (fun _ => ⟨rfl, rfl, rfl, Nat.sub_le _ _⟩)
          (fun _ => ⟨cmd, hcmd, hcomplete⟩)

theorem mapCmd_cmdCid (t : Thread) {f : ProxyCmd → ProxyCmd}
    (hf : ∀ cmd, (f cmd).cmdCid = cmd.cmdCid) : (t.mapCmd f).cmdCid = t.cmdCid := by
  have hcmd : (t.mapCmd f).call.amcProxyCmd = t.call.amcProxyCmd.map f := rfl
  rw [Thread.cmdCid, hcmd, Option.map_map]
  exact Option.map_congr fun cmd _ => hf cmd

theorem mapCmd_timedOut (t : Thread) {f : ProxyCmd → ProxyCmd}
    (hf : ∀ cmd, (f cmd).timedOut = cmd.timedOut) : (t.mapCmd f).timedOut = t.timedOut := by
  have hcmd : (t.mapCmd f).call.amcProxyCmd = t.call.amcProxyCmd.map f := rfl
  rw [Thread.timedOut, hcmd, Option.any_map]
  exact congrArg (fun p => Option.any p _) (funext fun cmd => hf cmd)

theorem abortStep_move (hs : Inv s) {k : ℕ} {t : Thread}
    (ht : s.threads k = some t) :
    Move s k t (abortStep k t (s.devices t.dev)).1 (abortStep k t (s.devices t.dev)).2 s.cids := by
  have hok := hs.ok k t ht
  -- the command leaves the list, whatever else the call does to it
  have hleave : ∀ (t' : Thread) (dev : Device), t'.pc = .erase → t'.dev = t.dev →
      t'.cmdCid = t.cmdCid → t'.timedOut = t.timedOut → t'.owned = t.owned →
      t'.answer = t.answer →
      dev.submittedCmds = (s.devices t.dev).submittedCmds.filter (· ≠ k) →
      dev.outstanding = (s.devices t.dev).outstanding →
      dev.initialised = (s.devices t.dev).initialised → Move s k t t' dev s.cids := by
    intro t' dev hpc' hdev hcmd hto howned hans hlist hout hini
    have hnotwaits : ¬ t'.Waits := not_waits_of_pc (by rw [hpc']; nofun) (by rw [hpc']; nofun)
    have hnot : k ∉ dev.submittedCmds := by simp [hlist]
    refine
      { device := hdev
        ok := hok.later hcmd howned hans (by rw [hpc']; nofun) (by rw [hpc']; nofun)
          (by rw [hpc']; nofun) (by rw [hpc']; nofun) (by rw [hpc']; nofun)
        answer := hans
        written := fun _ => by rw [hpc']; rfl
        timedOut := fun h => hto ▸ h
        alloc := fun c ho => hs.alloc k t c ht (howned ▸ ho)
        others := ?_
        mem_list := ?_
        nodup := ?_
        listed := fun hk => (hnot hk).elim
        outstanding := .inl (by rw [hout])
        own := fun _ _ hw => (hw.elim hnot hnotwaits).elim
        live := fun hw => (hnotwaits hw).elim
        instances := ⟨hini, fun _ => ⟨hnot, by rw [hpc']; nofun⟩⟩ }
    · intro j u c hj hu ho
      rw [howned]
      exact ⟨hs.alloc j u c hu ho, fun h => hj (hs.distinct j k u t c hu ht ho h)⟩
    · intro j hj
      rw [hlist]
      simp [hj]
    · rw [hlist]
      exact (hs.nodup t.dev).filter _
  unfold abortStep
  split_ifs with hi hk
  · exact hleave _ _ rfl rfl (mapCmd_cmdCid t fun _ => rfl) (mapCmd_timedOut t fun _ => rfl)
      rfl rfl rfl rfl rfl
  · exact hleave _ _ rfl rfl rfl rfl rfl rfl rfl rfl rfl
  · refine hleave _ _ rfl rfl rfl rfl rfl rfl ?_ rfl rfl
    have hempty := (hs.instances t.dev (by simpa using hi)).1
    change (s.devices t.dev).submittedCmds = _
    rw [hempty]
    rfl

theorem eraseStep_move (hs : Inv s) {k : ℕ} {t : Thread} (ht : s.threads k = some t)
    (hpc : t.pc = .erase)
    (hfree : t.owned = none → ∀ cid, t.cmdCid = some cid → s.cids.entries cid = none) :
    Move s k t (eraseStep t s.cids).1 (s.devices t.dev) (eraseStep t s.cids).2 := by
  have hok := hs.ok k t ht
  have hnot : k ∉ (s.devices t.dev).submittedCmds :=
    hs.not_listed ht (not_waits_of_pc (by rw [hpc]; nofun) (by rw [hpc]; nofun)) (by rw [hpc]; nofun)
  have hnotwaits : ¬ (eraseStep t s.cids).1.Waits := not_waits_of_pc (by nofun) (by nofun)
  refine
    { device := rfl
      ok := ⟨nofun, nofun, nofun, nofun, nofun, nofun⟩
      answer := rfl
      written := fun _ => rfl
      timedOut := id
      alloc := nofun
      others := ?_
      mem_list := fun _ _ => .rfl
      nodup := hs.nodup t.dev
      listed := fun hk => (hnot hk).elim
      outstanding := .inl (.refl _)
      own := fun _ _ hw => (hw.elim hnot hnotwaits).elim
      live := fun hw => (hnotwaits hw).elim
      instances := ⟨rfl, fun _ => ⟨hnot, nofun⟩⟩ }
  intro j u c hj hu ho
  refine ⟨?_, nofun⟩
  have halloc := hs.alloc j u c hu ho
  unfold eraseStep
  cases hcmd : t.call.amcProxyCmd with
  | none => exact halloc
  | some cmd =>
    have hcid : t.cmdCid = some cmd.cmdCid := by rw [Thread.cmdCid, hcmd]; rfl
    -- the id is the call's own, or it is free
    have hne : c ≠ cmd.cmdCid := by
      rintro rfl
      cases howned : t.owned with
      | none => exact halloc (hfree howned _ hcid)
      | some cid =>
        have := hok.cmd cid howned
        rw [hcid] at this
        cases this
        exact hj (hs.distinct j k u t _ hu ht ho howned)
    simpa [Function.update_of_ne hne] using halloc

theorem releaseStep_move (hs : Inv s) {k : ℕ} {t : Thread} (ht : s.threads k = some t)
    (hpc : t.pc = .release) :
    Move s k t (releaseStep t (s.devices t.dev)).1 (releaseStep t (s.devices t.dev)).2 s.cids := by
  have hok := hs.ok k t ht
  have hcall : t.call.releaseSemas.amcProxyCmd = t.call.amcProxyCmd ∧
      t.call.releaseSemas.ctxt = t.call.ctxt := by
    unfold Call.releaseSemas
    cases t.call.logPageAcquired <;> dsimp only <;> split_ifs <;> exact ⟨rfl, rfl⟩
  have hup : ∀ (d : Device) (b : Bool) (q : Resource),
      (if b then d.up q else d).submittedCmds = d.submittedCmds ∧
        (if b then d.up q else d).outstanding = d.outstanding ∧
        (if b then d.up q else d).initialised = d.initialised := by
    intro d b q
    cases b <;> cases q <;> exact ⟨rfl, rfl, rfl⟩
  unfold releaseStep
  refine Move.quiet hs ht ?_ ?_ rfl rfl rfl ?_ ?_ ?_ nofun (fun _ => rfl) ?_ ?_ ?_
  · exact congrArg AmcControlCtxt.id hcall.2
  · refine hok.later ?_ rfl rfl nofun nofun nofun nofun nofun
    rw [Thread.cmdCid, hcall.1, Thread.cmdCid]
  · exact (hup _ _ _).1.trans (hup _ _ _).1
  · exact (hup _ _ _).2.1.trans (hup _ _ _).2.1
  · exact (hup _ _ _).2.2.trans (hup _ _ _).2.2
  · intro h
    rwa [Thread.timedOut, hcall.1] at h
  · exact fun hk => (hs.not_listed ht (not_waits_of_pc (by rw [hpc]; nofun) (by rw [hpc]; nofun))
      (by rw [hpc]; nofun) hk).elim
  · exact fun hw => (not_waits_of_pc (by nofun) (by nofun) hw).elim

/-- The step erases no id of another call, and lists no command while an older request with its
id is unanswered. -/
def KeepsIds (s : State) : Act → Prop
  | .advance k _ _ => ∀ t ∈ s.threads k,
    (t.pc = .insert → ∀ m ∈ (s.devices t.dev).outstanding, t.cmdCid = some m.cid → m.owner = k) ∧
    (t.pc = .erase → t.owned = none → ∀ cid ∈ t.cmdCid, s.cids.entries cid = none)
  | _ => True

/-- **Every section of a call is a move.** -/
theorem threadStep_move (hs : Inv s) {k : ℕ} {t : Thread} (ht : s.threads k = some t)
    {fails early : Bool} (hkeep : KeepsIds s (.advance k fails early))
    {r : Thread × Device × CidXarray}
    (h : threadStep k t (s.devices t.dev) s.cids s.jiffies fails early = some r) :
    Move s k t r.1 r.2.1 r.2.2 := by
  unfold threadStep at h
  cases hpc : t.pc with
  | payload =>
    rw [hpc] at h
    obtain ⟨q, hq, rfl⟩ := Option.map_eq_some_iff.mp h
    exact payloadStep_move hs ht hpc hq
  | cid =>
    rw [hpc] at h
    cases h
    exact cidStep_move hs ht hpc s.jiffies fails
  | lock =>
    rw [hpc] at h
    obtain ⟨q, hq, rfl⟩ := Option.map_eq_some_iff.mp h
    exact lockStep_move hs ht hpc hq
  | write =>
    rw [hpc] at h
    cases h
    exact writeStep_move hs ht hpc fails
  | insert =>
    rw [hpc] at h
    cases h
    exact insertStep_move hs ht hpc ((hkeep t ht).1 hpc)
  | requested =>
    rw [hpc] at h
    cases h
    exact unlockStep_move hs ht hpc
  | wait =>
    rw [hpc] at h
    obtain ⟨t', ht', rfl⟩ := Option.map_eq_some_iff.mp h
    exact waitStep_move hs ht hpc ht'
  | abort =>
    rw [hpc] at h
    cases h
    exact abortStep_move hs ht
  | erase =>
    rw [hpc] at h
    cases h
    exact eraseStep_move hs ht hpc ((hkeep t ht).2 hpc)
  | release =>
    rw [hpc] at h
    cases h
    exact releaseStep_move hs ht hpc
  | returned =>
    rw [hpc] at h
    cases h

end Amr.Amc.Proxy
