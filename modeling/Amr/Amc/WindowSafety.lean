/-
# Payloads belong to the command that placed them

While a call uses a window, what the firmware has written for it is in the window and stays there,
and the response to the call, once it is on its way, comes with a complete payload. From this follow
the two promises about the windows, in every run in which ids are not confused, a window is taken
only when the firmware has finished with the earlier requests to it, and a successful answer to a
read is complete. Without the second condition they fail: a call that times out gives its window to
the next one while the firmware still has its request.
-/
import Amr.Amc.WindowHolders

namespace Amr.Amc.Window

open Transition
open Proxy (Thread Request Pc KeepsIds Device)

/-! ### The invariant -/

structure Sound (t : Thread) : Prop where
  fresh : t.pc = .payload ∨ t.pc = .cid →
    ∀ cmd, t.call.amcProxyCmd = some cmd → cmd.timedOut = false
  code : ∀ cmd, t.call.amcProxyCmd = some cmd → cmd.timedOut = true → cmd.cmdRcode ≠ 0
  buffer : t.call.amcProxyCmd ≠ none → argsMissing t.cmdId t.call.args = false
  failed : t.pc = .abort → t.call.ret ≠ 0

/-- The response that a call has got is a complete one. -/
def Answered (s : State) (k : ℕ) (t : Thread) : Prop :=
  t.answer ≠ none → ∀ cmd, t.call.amcProxyCmd = some cmd → readsPayload t = true →
    getResponse t.cmdId true cmd = 0 → Covered s k t

/-- A read that is on its way out with success has been answered and delivered. -/
def Finished (s : State) (k : ℕ) (t : Thread) : Prop :=
  leaves t.pc = true → t.call.ret = 0 → readsPayload t = true → t.answer ≠ none ∧ Delivered s k t

/-- The invariant of the system with its windows. -/
structure Inv (s : State) : Prop where
  proxy : Proxy.Inv s.proxy
  holders : Holders s.proxy
  sound : ∀ k t, s.proxy.threads k = some t → Sound t
  written : ∀ k offset, s.written k offset ≠ none → ∃ t, s.proxy.threads k = some t ∧
    t.pc.unwritten = false ∧ offset < payloadExtent t
  kept : ∀ d r k t offset byte, Uses s.proxy d r k → s.proxy.threads k = some t →
    s.written k offset = some byte → s.sharedMem d (t.call.payloadAddress.toNat + offset) = byte
  entries : ∀ d, ∀ m ∈ (s.proxy.devices d).cq, ∀ t, s.proxy.threads m.request.owner = some t →
    readsPayload t = true → accepts t m.payload m.ret → Covered s m.request.owner t
  answered : ∀ k t, s.proxy.threads k = some t → Answered s k t
  finished : ∀ k t, s.proxy.threads k = some t → Finished s k t

variable {s : State}

theorem Inv.start (h : s.IsStart) : Inv s := by
  have hnone : ∀ {k t}, s.proxy.threads k = some t → False := fun {k t} ht => by
    rw [h.proxy.threads k] at ht
    cases ht
  constructor
  · exact Proxy.Inv.start h.proxy
  · exact Holders.start h.proxy h.layout
  · exact fun k t ht => (hnone ht).elim
  · exact fun k offset hw => (hw (h.written k offset)).elim
  · exact fun _ _ k t _ _ _ ht => (hnone ht).elim
  · exact fun _ _ _ t ht => (hnone ht).elim
  · exact fun k t ht => (hnone ht).elim
  · exact fun k t ht => (hnone ht).elim

theorem getResponse_congr {cmd cmd' : ProxyCmd} (cmdId : AmcCmdId) (initialised : Bool)
    (hresponse : cmd'.cmdResponse = cmd.cmdResponse)
    (hcode : cmd'.cmdResponseCode = cmd.cmdResponseCode) :
    getResponse cmdId initialised cmd' = getResponse cmdId initialised cmd := by
  unfold getResponse
  rw [hresponse, hcode]

variable {s s' : State}

theorem Covered.of_keeps {k : ℕ} {t u : Thread} (h : Covered s k t)
    (hkeeps : Keeps t u) (hwritten : s'.written = s.written) : Covered s' k u := by
  unfold Covered
  rw [hkeeps.ctxt, hkeeps.payloadAddress, hkeeps.args, hwritten]
  exact h

theorem Delivered.of_keeps {k : ℕ} {t u : Thread} (h : Delivered s k t)
    (hkeeps : Keeps t u) (hwritten : s'.written = s.written)
    (hbuf : s'.dataBuf k = s.dataBuf k) : Delivered s' k u := by
  unfold Delivered
  rw [hkeeps.args, hwritten, hbuf]
  exact h

/-- What a step does to one call, apart from its window. -/
structure Evolves (s' : State) (k : ℕ) (t u : Thread) : Prop where
  extent : t.pc.unwritten = false → payloadExtent u = payloadExtent t
  unwritten : t.pc.unwritten = false → u.pc.unwritten = false
  sound : Sound u
  answered : Answered s' k u
  finished : Finished s' k u

theorem Inv.evolves_self (hs : Inv s) {k : ℕ} {t : Thread}
    (ht : s.proxy.threads k = some t) (hwritten : s'.written = s.written)
    (hbuf : s'.dataBuf k = s.dataBuf k) : Evolves s' k t t where
  extent := fun _ => rfl
  unwritten := id
  sound := hs.sound k t ht
  answered := fun ha cmd hcmd hread hresp =>
    (hs.answered k t ht ha cmd hcmd hread hresp).of_keeps (.refl t) hwritten
  finished := fun hpc hret hread =>
    have h := hs.finished k t ht hpc hret hread
    ⟨h.1, h.2.of_keeps (.refl t) hwritten hbuf⟩

/-- A step that writes no window on behalf of the firmware keeps the invariant, if what it does to
each call, to the contents of the windows and to the entries on their way is accounted for. -/
theorem Inv.evolve (hs : Inv s) (hp : Proxy.Inv s'.proxy) (hh : Holders s'.proxy)
    (hwritten : s'.written = s.written)
    (hkept : ∀ d r k u offset byte, Uses s'.proxy d r k → s'.proxy.threads k = some u →
      s.written k offset = some byte → s'.sharedMem d (u.call.payloadAddress.toNat + offset) = byte)
    (hthreads : ∀ k u, s'.proxy.threads k = some u →
      (∃ t, s.proxy.threads k = some t ∧ Evolves s' k t u) ∨
      (s.proxy.threads k = none ∧ Sound u ∧ u.answer = none ∧
        (leaves u.pc = true → u.call.ret ≠ 0)))
    (hback : ∀ k t, s.proxy.threads k = some t → ∃ u, s'.proxy.threads k = some u)
    (hentries : ∀ d, ∀ m ∈ (s'.proxy.devices d).cq, ∀ u,
      s'.proxy.threads m.request.owner = some u → readsPayload u = true →
      accepts u m.payload m.ret → Covered s' m.request.owner u) : Inv s' where
  proxy := hp
  holders := hh
  sound := fun k u hu => by
    rcases hthreads k u hu with ⟨t, -, h⟩ | ⟨-, h, -⟩
    · exact h.sound
    · exact h
  written := fun k offset hw => by
    rw [hwritten] at hw
    obtain ⟨t, ht, hpc, hoff⟩ := hs.written k offset hw
    obtain ⟨u, hu⟩ := hback k t ht
    rcases hthreads k u hu with ⟨t', ht', h⟩ | ⟨hnone, -⟩
    · rw [ht] at ht'
      cases ht'
      exact ⟨u, hu, h.unwritten hpc, by rwa [h.extent hpc]⟩
    · rw [ht] at hnone
      cases hnone
  kept := fun d r k u offset byte hu hk hw => hkept d r k u offset byte hu hk (hwritten ▸ hw)
  entries := hentries
  answered := fun k u hu => by
    rcases hthreads k u hu with ⟨t, -, h⟩ | ⟨-, -, hans, -⟩
    · exact h.answered
    · exact fun ha => (ha hans).elim
  finished := fun k u hu => by
    rcases hthreads k u hu with ⟨t, -, h⟩ | ⟨-, -, -, hret⟩
    · exact h.finished
    · exact fun hpc h => (hret hpc h).elim

theorem Inv.kept_of_uses (hs : Inv s) (hmem : s'.sharedMem = s.sharedMem)
    (huses : ∀ d r k, Uses s'.proxy d r k → Uses s.proxy d r k)
    (hkeeps : ∀ k t u, s.proxy.threads k = some t → s'.proxy.threads k = some u →
      u.call.payloadAddress = t.call.payloadAddress) :
    ∀ d r k u offset byte, Uses s'.proxy d r k → s'.proxy.threads k = some u →
      s.written k offset = some byte →
      s'.sharedMem d (u.call.payloadAddress.toNat + offset) = byte := by
  intro d r k u offset byte hu hk hw
  obtain ⟨t, ht, hrest⟩ := huses d r k hu
  rw [hmem, hkeeps k t u ht hk]
  exact hs.kept d r k t offset byte ⟨t, ht, hrest⟩ ht hw

/-! ### The steps of other parties -/

theorem Touched.evolves (hs : Inv s) {k : ℕ} {t u : Thread}
    (ht : s.proxy.threads k = some t) (hwritten : s'.written = s.written)
    (hbuf : s'.dataBuf k = s.dataBuf k) (h : Touched s.proxy k t u) : Evolves s' k t u := by
  have hsound := hs.sound k t ht
  have hself := hs.evolves_self ht hwritten hbuf
  obtain ⟨hkeeps, hpc, -⟩ := h.keeps
  have hbuffer : u.call.amcProxyCmd ≠ none → argsMissing u.cmdId u.call.args = false := by
    intro hne
    rw [hkeeps.cmdId, hkeeps.args]
    refine hsound.buffer fun hnone => hne ?_
    cases h with
    | same => exact hnone
    | timedOut | completed =>
      change t.call.amcProxyCmd.map _ = none
      rw [hnone]
      rfl
  cases h with
  | same => exact hself
  | timedOut hunwritten =>
    have hetime : -ETIME ≠ 0 := by decide
    refine ⟨fun _ => hkeeps.payloadExtent, fun h => hpc ▸ h, ⟨?_, ?_, hbuffer, ?_⟩, ?_, ?_⟩
    · rw [hpc]
      rintro (h | h) <;> rw [h] at hunwritten <;> cases hunwritten
    · intro cmd hcmd _
      obtain ⟨cmd₀, -, rfl⟩ := Option.map_eq_some_iff.mp hcmd
      exact hetime
    · exact hsound.failed
    · intro ha cmd hcmd hread hresp
      obtain ⟨cmd₀, hcmd₀, rfl⟩ := Option.map_eq_some_iff.mp hcmd
      exact hself.answered ha cmd₀ hcmd₀ hread hresp
    · exact hself.finished
  | completed d m hm howner =>
    refine ⟨fun _ => hkeeps.payloadExtent, fun h => hpc ▸ h, ⟨?_, ?_, hbuffer, ?_⟩, ?_, ?_⟩
    · intro h cmd hcmd
      obtain ⟨cmd₀, hcmd₀, rfl⟩ := Option.map_eq_some_iff.mp hcmd
      exact hsound.fresh h cmd₀ hcmd₀
    · intro cmd hcmd hto
      obtain ⟨cmd₀, hcmd₀, rfl⟩ := Option.map_eq_some_iff.mp hcmd
      exact hsound.code cmd₀ hcmd₀ hto
    · exact hsound.failed
    · intro _ cmd hcmd hread hresp
      obtain ⟨cmd₀, hcmd₀, rfl⟩ := Option.map_eq_some_iff.mp hcmd
      subst howner
      exact (hs.entries d m hm t ht hread hresp).of_keeps hkeeps hwritten
    · intro hleaves hzero hread
      exact ⟨nofun, (hself.finished hleaves hzero hread).2⟩

theorem threads_persist {p p' : Proxy.State} {a : Proxy.Act} (h : Proxy.step p a = some p') :
    ∀ k t, p.threads k = some t → ∃ u, p'.threads k = some u := by
  intro k t ht
  have hupdate : ∀ j v, ∃ u, Function.update p.threads j (some v) k = some u := by
    intro j v
    by_cases hk : k = j
    · subst hk
      exact ⟨v, Function.update_self ..⟩
    · exact ⟨t, (Function.update_of_ne hk ..).trans ht⟩
  have htimeout : ∀ list jiffies, ∃ u, Proxy.timeOutListed p.threads list jiffies k = some u := by
    intro list jiffies
    obtain ⟨u, hu, -⟩ := Proxy.timeOutListed_of_some ht list jiffies
    exact ⟨u, hu⟩
  cases a with
  | call j d args fails =>
    cases hj : p.threads j with
    | some t =>
      simp only [Proxy.step, hj] at h
      cases h
    | none =>
      simp only [Proxy.step, hj, Option.some.injEq] at h
      subst h
      exact hupdate j _
  | advance j fails early =>
    obtain ⟨t', -, h⟩ := Option.bind_eq_some_iff.mp h
    obtain ⟨r, -, h⟩ := Option.bind_eq_some_iff.mp h
    cases h
    exact hupdate j _
  | take d =>
    cases hsq : (p.devices d).sq with
    | nil =>
      simp only [Proxy.step, hsq] at h
      cases h
    | cons m sq =>
      simp only [Proxy.step, hsq, Option.some.injEq] at h
      subst h
      exact ⟨t, ht⟩
  | answer d i payload ret =>
    obtain ⟨m, -, h⟩ := Option.bind_eq_some_iff.mp h
    cases h
    exact ⟨t, ht⟩
  | respond d =>
    cases hcq : (p.devices d).cq with
    | nil =>
      simp only [Proxy.step, hcq] at h
      cases h
    | cons m cq =>
      simp only [Proxy.step, hcq, Option.some.injEq] at h
      subst h
      unfold Proxy.cmdComplete
      cases (p.devices d).submittedCmds.find? (Proxy.hasCid p.threads m.request.cid) with
      | none => exact ⟨t, ht⟩
      | some j =>
        dsimp only
        cases hj : p.threads j with
        | some v => exact hupdate j _
        | none =>
          have hk : k ≠ j := by
            rintro rfl
            rw [ht] at hj
            cases hj
          exact ⟨t, (Function.update_of_ne hk ..).trans ht⟩
  | checkTimeout d =>
    cases h
    exact htimeout _ _
  | drain d =>
    cases h
    exact htimeout _ _
  | tick =>
    cases h
    exact ⟨t, ht⟩
  | halt d gcqHalted =>
    cases h
    exact ⟨t, ht⟩

theorem Inv.entry_thread (hs : Inv s) {d : ℕ} {m : Proxy.Completion}
    (hm : m ∈ (s.proxy.devices d).cq) : ∃ t, s.proxy.threads m.request.owner = some t ∧
      t.pc.unwritten = false ∧ t.answer = none := by
  obtain ⟨t, ht, -, hpc, ha⟩ := hs.proxy.outstanding d m.request
    (List.mem_append_right _ (List.mem_map_of_mem hm))
  exact ⟨t, ht, hpc, ha⟩

theorem Inv.passive (hs : Inv s) {a : Proxy.Act} {p' : Proxy.State}
    (ha : Passive a) (hp : Proxy.Inv p') (hh : Holders p')
    (hwhole : AnswersWhole s a) (h : Proxy.step s.proxy a = some p') :
    Inv { s with proxy := p' } := by
  have hpasses := passes_of_step hs.proxy ha h
  have htouched : ∀ k t u, s.proxy.threads k = some t → p'.threads k = some u →
      Touched s.proxy k t u := by
    intro k t u ht hu
    obtain ⟨t', ht', htouch⟩ := hpasses.threads k u hu
    rw [ht] at ht'
    cases ht'
    exact htouch
  refine hs.evolve hp hh rfl ?_ ?_ (threads_persist h) ?_
  · exact hs.kept_of_uses rfl (fun d r k => hpasses.frame.uses hs.proxy hs.holders)
      fun k t u ht hu => (htouched k t u ht hu).keeps.1.payloadAddress
  · intro k u hu
    obtain ⟨t, ht, htouch⟩ := hpasses.threads k u hu
    exact .inl ⟨t, ht, htouch.evolves hs ht rfl rfl⟩
  · intro d m hm u hu hread haccept
    obtain ⟨t, ht, htouch⟩ := hpasses.threads _ u hu
    have hkeeps := htouch.keeps.1
    rw [hkeeps.readsPayload] at hread
    unfold accepts at haccept
    rw [hkeeps.cmdId] at haccept
    rcases hpasses.entries d m hm with hold | ⟨i, rfl, htaken⟩
    · exact (hs.entries d m hold t ht hread haccept).of_keeps hkeeps rfl
    · exact (hwhole m.request htaken t ht hread haccept).of_keeps hkeeps rfl

theorem Inv.call (hs : Inv s) {k : ℕ} (hk : s.proxy.threads k = none) (d : ℕ)
    (args : Args) (fails : Bool)
    (hp : Proxy.Inv (s.proxy.setThread k (Proxy.enter (s.proxy.devices d) args fails)))
    (hh : Holders (s.proxy.setThread k (Proxy.enter (s.proxy.devices d) args fails))) :
    Inv { s with
      proxy := s.proxy.setThread k (Proxy.enter (s.proxy.devices d) args fails) } := by
  have hframe := frame_call hs.holders hk d args fails
  have hentered := enter_entered (s.proxy.devices d) args fails
  have hnew : ∀ j t, s.proxy.threads j = some t → j ≠ k := by
    rintro j t ht rfl
    rw [hk] at ht
    cases ht
  refine hs.evolve hp hh rfl ?_ ?_ ?_ ?_
  · refine hs.kept_of_uses rfl (fun d r k => hframe.uses hs.proxy hs.holders) ?_
    intro j t u ht hu
    have hu : Function.update _ _ _ j = _ := hu
    rw [Function.update_of_ne (hnew j t ht), ht] at hu
    cases hu
    rfl
  · intro j u hu
    rcases Proxy.update_eq_some hu with ⟨rfl, rfl⟩ | ⟨-, hu⟩
    · refine .inr ⟨hk, ⟨?_, ?_, ?_, ?_⟩, hentered.answer, ?_⟩
      · intro _ cmd hcmd
        rw [(hentered.cmd cmd hcmd).1]
        rfl
      · intro cmd hcmd hto
        rw [(hentered.cmd cmd hcmd).1] at hto
        cases hto
      · intro hne
        obtain ⟨cmd, hcmd⟩ := Option.ne_none_iff_exists'.mp hne
        exact (hentered.cmd cmd hcmd).2
      · intro hpc
        rcases hentered.pc with h | ⟨h, -⟩ <;> rw [h] at hpc <;> cases hpc
      · intro hpc
        rcases hentered.pc with h | ⟨-, h⟩
        · rw [h] at hpc
          cases hpc
        · exact h
    · exact .inl ⟨u, hu, hs.evolves_self hu rfl rfl⟩
  · intro j t ht
    exact ⟨t, (Function.update_of_ne (hnew j t ht) ..).trans ht⟩
  · intro e m hm u hu hread haccept
    obtain ⟨t, ht, -⟩ := hs.entry_thread hm
    have hu : Function.update _ _ _ _ = _ := hu
    rw [Function.update_of_ne (hnew _ t ht)] at hu
    exact (hs.entries e m hm u hu hread haccept).of_keeps (.refl u) rfl

/-! ### The sections of a call -/

theorem Inv.move (hs : Inv s) {k : ℕ} {t u : Thread} {dev : Device} {x : CidXarray}
    (ht : s.proxy.threads k = some t) (hproxy : s'.proxy = s.proxy.move k t.dev u dev x)
    (hp : Proxy.Inv s'.proxy) (hh : Holders s'.proxy) (hmem : s'.sharedMem = s.sharedMem)
    (hwritten : s'.written = s.written) (hbuf : ∀ j, j ≠ k → s'.dataBuf j = s.dataBuf j)
    (hkeeps : Keeps t u) (hcq : dev.cq = (s.proxy.devices t.dev).cq)
    (huses : ∀ d r j, Uses s'.proxy d r j → Uses s.proxy d r j) (hevolves : Evolves s' k t u) :
    Inv s' := by
  have hk : s'.proxy.threads k = some u := by
    rw [hproxy]
    exact Function.update_self ..
  have hne : ∀ j, j ≠ k → s'.proxy.threads j = s.proxy.threads j := by
    intro j hj
    rw [hproxy]
    exact Function.update_of_ne hj ..
  have hcqs : ∀ d, (s'.proxy.devices d).cq = (s.proxy.devices d).cq := by
    intro d
    rw [hproxy]
    by_cases hd : d = t.dev
    · subst hd
      rw [move_devices_self, hcq]
    · rw [move_devices_of_ne s.proxy u dev x hd]
  have hpair : ∀ j v v', s.proxy.threads j = some v → s'.proxy.threads j = some v' →
      Keeps v v' := by
    intro j v v' hv hv'
    by_cases hj : j = k
    · subst hj
      rw [ht] at hv
      rw [hk] at hv'
      cases hv
      cases hv'
      exact hkeeps
    · rw [hne j hj, hv] at hv'
      cases hv'
      exact .refl v
  refine hs.evolve hp hh hwritten ?_ ?_ ?_ ?_
  · exact hs.kept_of_uses hmem huses fun j v v' hv hv' => (hpair j v v' hv hv').payloadAddress
  · intro j v hv
    by_cases hj : j = k
    · subst hj
      rw [hk] at hv
      cases hv
      exact .inl ⟨t, ht, hevolves⟩
    · rw [hne j hj] at hv
      exact .inl ⟨v, hv, hs.evolves_self hv hwritten (hbuf j hj)⟩
  · intro j v hv
    by_cases hj : j = k
    · exact ⟨u, hj ▸ hk⟩
    · exact ⟨v, (hne j hj).trans hv⟩
  · intro d m hm v hv hread haccept
    rw [hcqs] at hm
    obtain ⟨w, hw, -⟩ := hs.entry_thread hm
    have hkeeps' := hpair _ w v hw hv
    rw [hkeeps'.readsPayload] at hread
    unfold accepts at haccept
    rw [hkeeps'.cmdId] at haccept
    exact (hs.entries d m hm w hw hread haccept).of_keeps hkeeps' hwritten

theorem Quiet.evolves (hs : Inv s) {k : ℕ} {t u : Thread} {d d' : Device}
    (ht : s.proxy.threads k = some t) (hq : Quiet k t d u d') (hwritten : s'.written = s.written)
    (hfailed : u.pc = .abort → u.call.ret ≠ 0) (hfinished : Finished s' k u) :
    Evolves s' k t u where
  extent := fun _ => hq.keeps.payloadExtent
  unwritten := hq.unwritten
  sound := by
    have hsound := hs.sound k t ht
    refine ⟨fun h => (h.elim hq.entered.1 hq.entered.2).elim, ?_, ?_, hfailed⟩
    · intro cmd' hcmd' hto hcode
      obtain ⟨cmd, hcmd, hresp⟩ := hq.cmd cmd' hcmd'
      rw [hresp.timedOut] at hto
      rcases hresp.code hcode with h | h
      · exact hsound.code cmd hcmd hto h
      · rw [hsound.fresh (.inr h) cmd hcmd] at hto
        cases hto
    · intro hne
      obtain ⟨cmd', hcmd'⟩ := Option.ne_none_iff_exists'.mp hne
      obtain ⟨cmd, hcmd, -⟩ := hq.cmd cmd' hcmd'
      rw [hq.keeps.cmdId, hq.keeps.args]
      exact hsound.buffer (by rw [hcmd]; nofun)
  answered := by
    intro ha cmd' hcmd' hread hzero
    obtain ⟨cmd, hcmd, hresp⟩ := hq.cmd cmd' hcmd'
    rw [hq.keeps.readsPayload] at hread
    rw [getResponse_congr _ _ hresp.response.1 hresp.response.2, hq.keeps.cmdId] at hzero
    rw [hq.answer] at ha
    exact (hs.answered k t ht ha cmd hcmd hread hzero).of_keeps hq.keeps hwritten
  finished := hfinished

theorem Quiet.finished (hs : Inv s) {k : ℕ} {t u : Thread} {d d' : Device}
    (ht : s.proxy.threads k = some t) (hq : Quiet k t d u d') (hwait : t.pc ≠ .wait)
    (hwritten : s'.written = s.written) (hbuf : s'.dataBuf k = s.dataBuf k) :
    Finished s' k u := by
  intro hleaves hret hread
  obtain ⟨hzero, hpc⟩ := hq.leaves hwait hleaves hret
  rw [hq.keeps.readsPayload] at hread
  rw [hq.answer]
  rcases hpc with hpc | hpc
  · obtain ⟨ha, hdel⟩ := hs.finished k t ht hpc hzero hread
    exact ⟨ha, hdel.of_keeps hq.keeps hwritten hbuf⟩
  · exact ((hs.sound k t ht).failed hpc hzero).elim

theorem Quiet.uses {p : Proxy.State} (hp : Proxy.Inv p) (hh : Holders p) {k : ℕ} {t u : Thread}
    {dev : Device} {x : CidXarray} (ht : p.threads k = some t)
    (hq : Quiet k t (p.devices t.dev) u dev) :
    ∀ d r j, Uses (p.move k t.dev u dev x) d r j → Uses p d r j := by
  intro d r j
  refine (frame_move ht hq.keeps (fun h => .inl (hq.carries h))
    (fun h => (hq.going.1 h).elim) hq.ctxt hq.sema hq.taken ?_).uses hp hh
  exact hq.sq.imp_right fun ⟨hpc, hsq⟩ => ⟨by rw [hpc]; rfl, hsq⟩

theorem newCopies_of_append {t u : Thread} {l : List Copy}
    (h : u.call.copies = t.call.copies ++ l) : newCopies t u = l := by
  rw [newCopies, h, List.drop_left]

theorem copiesOf_advance {p p' : Proxy.State} {k : ℕ} {t u : Thread} (ht : p.threads k = some t)
    (hu : p'.threads k = some u) (fails early : Bool) :
    copiesOf p p' (.advance k fails early) = (newCopies t u).map fun c => (t.dev, k, c) := by
  simp only [copiesOf, ht, hu]

theorem step_advance {k : ℕ} {fails early : Bool} {buf : ℕ → UInt8}
    (h : step s (.proxy (.advance k fails early) buf) = some s') :
    ∃ t r, s.proxy.threads k = some t ∧
      Proxy.threadStep k t (s.proxy.devices t.dev) s.proxy.cids s.proxy.jiffies fails early =
        some r ∧
      s' = (newCopies t r.1).foldl (fun s c => s.memcpy t.dev k buf c)
        { s with proxy := s.proxy.move k t.dev r.1 r.2.1 r.2.2 } := by
  obtain ⟨p, hp, rfl⟩ := Option.map_eq_some_iff.mp h
  obtain ⟨t, ht, hp⟩ := Option.bind_eq_some_iff.mp hp
  obtain ⟨r, hr, hp⟩ := Option.bind_eq_some_iff.mp hp
  cases hp
  refine ⟨t, r, ht, hr, ?_⟩
  rw [copiesOf_advance ht (Function.update_self ..), List.foldl_map]
  rfl

theorem Inv.answer_of_completed (hs : Inv s) {k : ℕ} {t : Thread}
    (ht : s.proxy.threads k = some t) (hpc : t.pc = .wait) {cmd : ProxyCmd}
    (hcmd : t.call.amcProxyCmd = some cmd) (hcomplete : cmd.complete ≠ 0)
    (hcode : cmd.cmdRcode = 0) (hret : t.call.ret = 0) : t.answer ≠ none := by
  intro hans
  have hto : t.timedOut = false := by
    rw [Thread.timedOut, hcmd, Option.any_some, Bool.eq_false_iff]
    exact fun h => (hs.sound k t ht).code cmd hcmd h hcode
  -- otherwise the command is still listed, and only a timeout can have signalled it
  have hlisted := hs.proxy.live k t ht ⟨.inr hpc, hret⟩ hto hans
  obtain ⟨t', ht', -, -, -, hlate⟩ := hs.proxy.listed _ _ hlisted
  rw [ht] at ht'
  cases ht'
  exact hlate cmd hcmd hcomplete hcode

theorem readResponse_ret (c : Call) (cmdId : AmcCmdId) (initialised : Bool) (cmd : ProxyCmd) :
    (c.readResponse cmdId initialised cmd).ret = getResponse cmdId initialised cmd := by
  unfold Call.readResponse Call.memcpyGcqPayloadFromDevice
  dsimp only
  repeat' split
  all_goals rfl

theorem dataBuf_of_reads {t : Thread} (hread : readsPayload t = true)
    (h : argsMissing t.cmdId t.call.args = false) : t.call.args.dataBuf = true := by
  unfold readsPayload at hread
  cases hcmd : t.cmdId <;> rw [hcmd] at h hread <;>
    first | exact (by simpa [argsMissing] using h) | cases hread

theorem semaOf_of_reads {t : Thread} (hread : readsPayload t = true) :
    ∃ r, semaOf t.cmdId = some r := by
  unfold readsPayload at hread
  cases hcmd : t.cmdId <;> rw [hcmd] at hread <;> first | exact ⟨_, rfl⟩ | cases hread

/-- **Delivery.** A read that wakes up with a good response has been answered, and copies the bytes
that the firmware has written for it. -/
theorem Inv.deliver (hs : Inv s) {k : ℕ} {t : Thread}
    (ht : s.proxy.threads k = some t) (hpc : t.pc = .wait) {cmd : ProxyCmd}
    (hcmd : t.call.amcProxyCmd = some cmd) (hcomplete : cmd.complete ≠ 0)
    (hcode : cmd.cmdRcode = 0) (hret : t.call.ret = 0) (initialised : Bool)
    (hread : readsPayload t = true) (hzero : getResponse t.cmdId initialised cmd = 0) :
    t.answer ≠ none ∧ t.call.args.dataBuf = true ∧
      t.call.ctxt.inRange t.call.payloadAddress t.call.args.dataSize = true ∧
      ∀ i < t.call.args.dataSize.toNat, s.written k i =
        some (s.sharedMem t.dev (t.call.payloadAddress.toNat + i)) := by
  have hans := hs.answer_of_completed ht hpc hcmd hcomplete hcode hret
  have hini : initialised = true := by
    cases initialised with
    | true => rfl
    | false => exact absurd hzero (show -EPERM ≠ 0 by decide)
  subst hini
  obtain ⟨hrange, hwritten⟩ := hs.answered k t ht hans cmd hcmd hread hzero
  refine ⟨hans, dataBuf_of_reads hread ((hs.sound k t ht).buffer (by rw [hcmd]; nofun)), hrange,
    fun i hi => ?_⟩
  obtain ⟨r, hr⟩ := semaOf_of_reads hread
  have hcar : carries t.pc = true := by rw [hpc]; rfl
  have huses : Uses s.proxy t.dev r k :=
    ⟨t, ht, rfl, hr, .inl ⟨hs.holders.carries k t r ht (.inl hcar) hr, by rw [hpc]; nofun⟩⟩
  obtain ⟨byte, hbyte⟩ := Option.isSome_iff_exists.mp (hwritten i hi)
  rw [hbyte, hs.kept t.dev r k t i byte huses ht hbyte]

theorem foldl_fromDevice {l : List Copy} (hl : l = [] ∨ ∃ offset len, l = [.fromDevice offset len])
    (s : State) (d k : ℕ) (buf : ℕ → UInt8) :
    (l.foldl (fun s c => s.memcpy d k buf c) s).proxy = s.proxy ∧
      (l.foldl (fun s c => s.memcpy d k buf c) s).sharedMem = s.sharedMem ∧
      (l.foldl (fun s c => s.memcpy d k buf c) s).written = s.written ∧
      ∀ j, j ≠ k → (l.foldl (fun s c => s.memcpy d k buf c) s).dataBuf j = s.dataBuf j := by
  rcases hl with rfl | ⟨offset, len, rfl⟩
  · exact ⟨rfl, rfl, rfl, fun _ _ => rfl⟩
  · exact ⟨rfl, rfl, rfl, fun j hj => Function.update_of_ne hj ..⟩

theorem Inv.wait (hs : Inv s) {k : ℕ} {t u : Thread} (ht : s.proxy.threads k = some t)
    (hpc : t.pc = .wait) (h : Outcome t (s.proxy.devices t.dev) u)
    (hp : Proxy.Inv (s.proxy.move k t.dev u (s.proxy.devices t.dev) s.proxy.cids))
    (hh : Holders (s.proxy.move k t.dev u (s.proxy.devices t.dev) s.proxy.cids))
    (buf : ℕ → UInt8) :
    Inv ((newCopies t u).foldl (fun s c => s.memcpy t.dev k buf c)
      { s with proxy := s.proxy.move k t.dev u (s.proxy.devices t.dev) s.proxy.cids }) := by
  have hq := waitStep_quiet k hpc h
  have hcopies : newCopies t u = [] ∨ ∃ offset len, newCopies t u = [.fromDevice offset len] := by
    cases h with
    | aborts => exact .inl (newCopies_of_append (List.append_nil _).symm)
    | completes cmd =>
      rcases readResponse_copies_cases (t.call.mapCmd fun cmd =>
          { cmd with complete := cmd.complete - 1 }) t.cmdId (s.proxy.devices t.dev).initialised
          { cmd with complete := cmd.complete - 1 } with h | ⟨offset, len, h⟩
      · exact .inl (newCopies_of_append (h.trans (List.append_nil _).symm))
      · exact .inr ⟨offset, len, newCopies_of_append h⟩
  obtain ⟨hproxy, hmem, hwritten, hbuf⟩ := foldl_fromDevice hcopies
    { s with proxy := s.proxy.move k t.dev u (s.proxy.devices t.dev) s.proxy.cids } t.dev k buf
  refine hs.move ht hproxy (by rwa [hproxy]) (by rwa [hproxy]) hmem hwritten hbuf hq.keeps rfl ?_
    (hq.evolves hs ht hwritten ?_ ?_)
  · rw [hproxy]
    exact hq.uses hs.proxy hs.holders ht
  · cases h with
    | aborts f hf ret hret => exact fun _ => hret
    | completes => nofun
  · intro hleaves hzero hread
    cases h with
    | aborts f hf ret hret => cases hleaves
    | completes cmd hcmd hcomplete hcode hret =>
      rw [hq.keeps.readsPayload] at hread
      have hzero := (readResponse_ret ..).symm.trans hzero
      have hzero' : getResponse t.cmdId (s.proxy.devices t.dev).initialised cmd = 0 :=
        (getResponse_congr _ _ rfl rfl).trans hzero
      obtain ⟨hans, hdata, hrange, hbytes⟩ :=
        hs.deliver ht hpc hcmd hcomplete hcode hret _ hread hzero'
      have hcopy := readResponse_copies
        (t.mapCmd fun cmd => { cmd with complete := cmd.complete - 1 })
        (s.proxy.devices t.dev).initialised { cmd with complete := cmd.complete - 1 } hread hzero
        hdata hrange
      refine ⟨hans, fun i => s.sharedMem t.dev (t.call.payloadAddress.toNat + i), ?_, ?_⟩
      · rw [newCopies_of_append hcopy]
        exact Function.update_self ..
      · intro i hi
        rw [hwritten]
        exact hbytes i (hq.keeps.args ▸ hi)

theorem Inv.pass (hs : Inv s) {k : ℕ} {t u : Thread} (ht : s.proxy.threads k = some t)
    (hpc : t.pc = .payload) (hkeeps : Keeps t u) (hcopies : u.call.copies = t.call.copies)
    (hcmd : u.call.amcProxyCmd = t.call.amcProxyCmd) (hans : u.answer = t.answer)
    (hpc' : u.pc = .cid ∧ semaOf t.cmdId = none ∨ u.pc = .erase ∧ u.call.ret ≠ 0)
    (hp : Proxy.Inv (s.proxy.move k t.dev u (s.proxy.devices t.dev) s.proxy.cids))
    (hh : Holders (s.proxy.move k t.dev u (s.proxy.devices t.dev) s.proxy.cids))
    (buf : ℕ → UInt8) :
    Inv ((newCopies t u).foldl (fun s c => s.memcpy t.dev k buf c)
      { s with proxy := s.proxy.move k t.dev u (s.proxy.devices t.dev) s.proxy.cids }) := by
  have hsound := hs.sound k t ht
  have hunwritten : t.pc.unwritten = false → False := by rw [hpc]; nofun
  rw [newCopies_of_append (hcopies.trans (List.append_nil _).symm)]
  refine hs.move ht rfl hp hh rfl rfl (fun _ _ => rfl) hkeeps rfl ?_
    ⟨fun h => (hunwritten h).elim, fun h => (hunwritten h).elim, ⟨?_, ?_, ?_, ?_⟩, ?_, ?_⟩
  · intro d r j
    refine (frame_move ht hkeeps ?_ (by rw [hpc]; nofun) rfl (fun _ => rfl) rfl (.inl rfl)).uses
      hs.proxy hs.holders
    rcases hpc' with ⟨-, h⟩ | ⟨h, -⟩
    · exact fun _ => .inr h
    · rw [h]
      nofun
  · intro _ cmd h
    exact hsound.fresh (.inl hpc) cmd (hcmd ▸ h)
  · intro cmd h
    exact hsound.code cmd (hcmd ▸ h)
  · rw [hcmd, hkeeps.cmdId, hkeeps.args]
    exact hsound.buffer
  · rcases hpc' with ⟨h, -⟩ | ⟨h, -⟩ <;> rw [h] <;> nofun
  · intro ha
    rw [hans] at ha
    exact (ha ((hs.proxy.ok k t ht).unanswered (by rw [hpc]; rfl))).elim
  · intro hleaves hzero
    rcases hpc' with ⟨h, -⟩ | ⟨-, h⟩
    · rw [h] at hleaves
      cases hleaves
    · exact (h hzero).elim

/-- **Payload formation in a window** leaves what other calls have in theirs alone. -/
theorem Inv.take (hs : Inv s) {k : ℕ} {t : Thread} (ht : s.proxy.threads k = some t)
    (hpc : t.pc = .payload) {r : Resource} {c : Call} {pc : Pc} (hsema : semaOf t.cmdId = some r)
    (htook : Took t.call c r) (hpc' : pc = .cid ∨ pc = .erase ∧ c.ret ≠ 0)
    (halone : ∀ j, ¬ Uses s.proxy t.dev r j)
    (hp : Proxy.Inv (s.proxy.move k t.dev { t with call := c, pc := pc }
      ((s.proxy.devices t.dev).down r) s.proxy.cids))
    (hh : Holders (s.proxy.move k t.dev { t with call := c, pc := pc }
      ((s.proxy.devices t.dev).down r) s.proxy.cids))
    (buf : ℕ → UInt8) :
    Inv ((newCopies t { t with call := c, pc := pc }).foldl (fun s c => s.memcpy t.dev k buf c)
      { s with
        proxy := s.proxy.move k t.dev { t with call := c, pc := pc }
          ((s.proxy.devices t.dev).down r) s.proxy.cids }) := by
  obtain ⟨hctxt, hsq, htaken, hcq⟩ := down_same (s.proxy.devices t.dev) r
  have hsound := hs.sound k t ht
  have hunwritten : t.pc.unwritten = true := by rw [hpc]; rfl
  generalize hnew : newCopies t { t with call := c, pc := pc } = l
  -- the copies of payload formation change one byte range of the data window
  have hfold : ∀ s₀ : State, (l.foldl (fun s c => s.memcpy t.dev k buf c) s₀).proxy = s₀.proxy ∧
      (l.foldl (fun s c => s.memcpy t.dev k buf c) s₀).written = s₀.written ∧
      (l.foldl (fun s c => s.memcpy t.dev k buf c) s₀).dataBuf = s₀.dataBuf ∧
      ∀ d addr, (d = t.dev → ¬ inWindow (s.proxy.devices t.dev).ctxt r addr) →
        (l.foldl (fun s c => s.memcpy t.dev k buf c) s₀).sharedMem d addr =
          s₀.sharedMem d addr := by
    intro s₀
    rcases htook.copies with h | ⟨rfl, len, h⟩
    · obtain rfl : [] = l := (newCopies_of_append
        (u := { t with call := c, pc := pc }) (h.trans (List.append_nil _).symm)).symm.trans hnew
      exact ⟨rfl, rfl, rfl, fun _ _ _ => rfl⟩
    · obtain rfl : [.toDevice c.payloadAddress len] = l := (newCopies_of_append
        (u := { t with call := c, pc := pc }) h).symm.trans hnew
      refine ⟨rfl, rfl, rfl, fun d addr houtside => ?_⟩
      change Function.update s₀.sharedMem t.dev _ d addr = _
      by_cases hd : d = t.dev
      · subst hd
        rw [Function.update_self, if_neg]
        rintro ⟨hlo, -⟩
        refine houtside rfl ?_
        have hlayout := hs.holders.layout t.dev
        have hstart := hs.holders.base k t ht
        rw [htook.base, windowBase_data (hstart ▸ hlayout), hstart] at hlo
        exact hlo
      · rw [Function.update_of_ne hd]
  obtain ⟨hproxy, hwritten, hbuf, hmem⟩ := hfold { s with
    proxy := s.proxy.move k t.dev { t with call := c, pc := pc }
      ((s.proxy.devices t.dev).down r) s.proxy.cids }
  generalize l.foldl (fun (s : State) c => s.memcpy t.dev k buf c) _ = s'
    at hproxy hwritten hbuf hmem ⊢
  have hk : s'.proxy.threads k = some { t with call := c, pc := pc } := by
    rw [hproxy]
    exact Function.update_self ..
  have hne : ∀ j, j ≠ k → s'.proxy.threads j = s.proxy.threads j := by
    intro j hj
    rw [hproxy]
    exact Function.update_of_ne hj ..
  refine hs.evolve (hproxy ▸ hp) (hproxy ▸ hh) hwritten ?_ ?_ ?_ ?_
  · intro d q j u offset byte huses hu hw
    obtain ⟨t', ht', hpct, hoff⟩ := hs.written j offset (by rw [hw]; nofun)
    have hj : j ≠ k := by
      rintro rfl
      rw [ht] at ht'
      cases ht'
      rw [hunwritten] at hpct
      cases hpct
    rw [hne j hj] at hu
    rw [hu] at ht'
    cases ht'
    have hold : Uses s.proxy d q j := uses_move_of_ne hj hsq htaken (hproxy ▸ huses)
    rw [hmem d]
    · exact hs.kept d q j u offset byte hold hu hw
    · rintro rfl hin
      exact halone j (inWindow_inj (hs.holders.inWindow hu hold hoff) hin ▸ hold)
  · intro j u hu
    by_cases hj : j = k
    · subst hj
      rw [hk] at hu
      cases hu
      refine .inl ⟨t, ht, fun h => ?_, fun h => ?_, ⟨?_, ?_, ?_, ?_⟩, ?_, ?_⟩
      · rw [hunwritten] at h
        cases h
      · rw [hunwritten] at h
        cases h
      · intro _ cmd h
        exact hsound.fresh (.inl hpc) cmd (htook.amcProxyCmd ▸ h)
      · intro cmd h
        exact hsound.code cmd (htook.amcProxyCmd ▸ h)
      · change c.amcProxyCmd ≠ none → argsMissing t.cmdId c.args = false
        rw [htook.amcProxyCmd, htook.args]
        exact hsound.buffer
      · intro h
        rcases hpc' with rfl | ⟨rfl, -⟩ <;> cases h
      · exact fun ha => (ha ((hs.proxy.ok j t ht).unanswered hunwritten)).elim
      · intro hleaves hzero
        rcases hpc' with rfl | ⟨-, h⟩
        · cases hleaves
        · exact (h hzero).elim
    · rw [hne j hj] at hu
      exact .inl ⟨u, hu, hs.evolves_self hu hwritten (by rw [hbuf])⟩
  · intro j u hu
    by_cases hj : j = k
    · exact ⟨_, hj ▸ hk⟩
    · exact ⟨u, (hne j hj).trans hu⟩
  · intro d m hm u hu hread haccept
    have hm : m ∈ (s.proxy.devices d).cq := by
      rw [hproxy] at hm
      by_cases hd : d = t.dev
      · subst hd
        rwa [move_devices_self, hcq] at hm
      · rwa [move_devices_of_ne s.proxy _ _ _ hd] at hm
    obtain ⟨w, hw, hwpc, -⟩ := hs.entry_thread hm
    have hj : m.request.owner ≠ k := by
      intro h
      rw [h, ht] at hw
      cases hw
      rw [hunwritten] at hwpc
      cases hwpc
    rw [hne _ hj] at hu
    exact (hs.entries d m hm u hu hread haccept).of_keeps (.refl u) hwritten

theorem Inv.release (hs : Inv s) {k : ℕ} {t : Thread} (ht : s.proxy.threads k = some t)
    (hpc : t.pc = .release)
    (hp : Proxy.Inv (s.proxy.move k t.dev (Proxy.releaseStep t (s.proxy.devices t.dev)).1
      (Proxy.releaseStep t (s.proxy.devices t.dev)).2 s.proxy.cids))
    (hh : Holders (s.proxy.move k t.dev (Proxy.releaseStep t (s.proxy.devices t.dev)).1
      (Proxy.releaseStep t (s.proxy.devices t.dev)).2 s.proxy.cids))
    (buf : ℕ → UInt8) :
    Inv ((newCopies t (Proxy.releaseStep t (s.proxy.devices t.dev)).1).foldl
      (fun s c => s.memcpy t.dev k buf c)
      { s with
        proxy := s.proxy.move k t.dev (Proxy.releaseStep t (s.proxy.devices t.dev)).1
          (Proxy.releaseStep t (s.proxy.devices t.dev)).2 s.proxy.cids }) := by
  obtain ⟨hkeeps, -, -, -, -, hcq, -⟩ := releaseStep_spec t (s.proxy.devices t.dev)
  have hcall : t.call.releaseSemas.copies = t.call.copies ∧
      t.call.releaseSemas.amcProxyCmd = t.call.amcProxyCmd ∧
      t.call.releaseSemas.ret = t.call.ret := by
    unfold Call.releaseSemas
    dsimp only
    split_ifs <;> exact ⟨rfl, rfl, rfl⟩
  obtain ⟨hcopies, hcmd, hretval⟩ := hcall
  rw [newCopies_of_append (hcopies.trans (List.append_nil _).symm)]
  have hsound := hs.sound k t ht
  refine hs.move ht rfl hp hh rfl rfl (fun _ _ => rfl) hkeeps hcq (uses_release ht)
    ⟨fun _ => hkeeps.payloadExtent, fun _ => rfl, ⟨?_, ?_, ?_, nofun⟩, ?_, ?_⟩
  · exact fun h => h.elim nofun nofun
  · intro cmd h
    exact hsound.code cmd (hcmd ▸ h)
  · intro hne
    rw [hkeeps.cmdId, hkeeps.args]
    exact hsound.buffer fun h => hne (hcmd.trans h)
  · intro ha cmd h hread hzero
    rw [hkeeps.readsPayload] at hread
    exact (hs.answered k t ht ha cmd (hcmd ▸ h) hread hzero).of_keeps hkeeps rfl
  · intro _ hzero hread
    rw [hkeeps.readsPayload] at hread
    obtain ⟨ha, hdel⟩ := hs.finished k t ht (by rw [hpc]; rfl)
      (hretval.symm.trans hzero) hread
    exact ⟨ha, hdel.of_keeps hkeeps rfl rfl⟩

/-! ### The firmware writes -/

theorem semaOf_of_fills {t : Thread} (h : fillsPayload t = true) : ∃ r, semaOf t.cmdId = some r := by
  unfold fillsPayload at h
  rcases Bool.or_eq_true_iff.mp h with h | h
  · exact semaOf_of_reads h
  · rw [of_decide_eq_true h]
    exact ⟨_, rfl⟩

theorem Inv.filling (hs : Inv s) {d i offset : ℕ} {byte : UInt8}
    (h : step s (.fill d i offset byte) = some s') :
    ∃ m t r, (s.proxy.devices d).taken[i]? = some m ∧ s.proxy.threads m.owner = some t ∧
      t.dev = d ∧ t.pc.unwritten = false ∧ t.answer = none ∧ offset < payloadExtent t ∧
      Uses s.proxy d r m.owner ∧
      s' = { s with
        sharedMem := Function.update s.sharedMem d
          (Function.update (s.sharedMem d) (t.call.payloadAddress.toNat + offset) byte)
        written := Function.update s.written m.owner
          (Function.update (s.written m.owner) offset (some byte)) } := by
  obtain ⟨m, hm, h⟩ := Option.bind_eq_some_iff.mp h
  obtain ⟨t, ht, h⟩ := Option.bind_eq_some_iff.mp h
  split_ifs at h with hfill
  cases h
  obtain ⟨r, hr⟩ := semaOf_of_fills hfill.1
  have hfirm : atFirmware s.proxy d m.owner :=
    ⟨m, List.mem_append_right _ (List.mem_of_getElem? hm), rfl⟩
  obtain ⟨t', ht', hdev, hpc, ha⟩ := thread_of_atFirmware hs.proxy hfirm
  rw [ht] at ht'
  cases ht'
  exact ⟨m, t, r, hm, ht, hdev, hpc, ha, hfill.2, ⟨t, ht, hdev, hr, .inr hfirm⟩, rfl⟩

theorem Inv.fill (hs : Inv s) {d i offset : ℕ} {byte : UInt8}
    (h : step s (.fill d i offset byte) = some s') : Inv s' := by
  obtain ⟨m, t, r, -, ht, hdev, hpc, ha, hoff, huses, rfl⟩ := hs.filling h
  -- what is covered stays covered, and nothing of a call that has been answered changes
  have hsome : ∀ k j, (s.written k j).isSome = true →
      (Function.update s.written m.owner
        (Function.update (s.written m.owner) offset (some byte)) k j).isSome = true := by
    intro k j hw
    by_cases hk : k = m.owner
    · subst hk
      rw [Function.update_self]
      by_cases hj : j = offset
      · subst hj
        rw [Function.update_self]
        rfl
      · rwa [Function.update_of_ne hj]
    · rwa [Function.update_of_ne hk]
  refine ⟨hs.proxy, hs.holders, hs.sound, ?_, ?_, ?_, ?_, ?_⟩
  · intro k j hw
    dsimp only at hw
    by_cases hk : k = m.owner
    · subst hk
      rw [Function.update_self] at hw
      by_cases hj : j = offset
      · subst hj
        exact ⟨t, ht, hpc, hoff⟩
      · rw [Function.update_of_ne hj] at hw
        exact hs.written _ j hw
    · rw [Function.update_of_ne hk] at hw
      exact hs.written k j hw
  · intro e q k u j b hu hk hw
    dsimp only at hw ⊢
    by_cases hkm : k = m.owner
    · subst hkm
      rw [ht] at hk
      cases hk
      obtain ⟨rfl, -⟩ := hs.holders.acquired_of_uses ht hu
      obtain rfl := hdev
      rw [Function.update_self] at hw ⊢
      by_cases hj : j = offset
      · subst hj
        rw [Function.update_self] at hw ⊢
        exact Option.some.inj hw
      · rw [Function.update_of_ne hj] at hw
        rw [Function.update_of_ne fun h => hj (Nat.add_left_cancel h)]
        exact hs.kept _ q _ t j b hu ht hw
    · rw [Function.update_of_ne hkm] at hw
      have hold := hs.kept e q k u j b hu hk hw
      by_cases he : e = d
      · subst he
        rw [Function.update_self, Function.update_of_ne, hold]
        -- both calls would use one window
        intro haddr
        obtain ⟨u', hu', -, hoff'⟩ := hs.written k j (by rw [hw]; nofun)
        rw [hk] at hu'
        cases hu'
        have hin := hs.holders.inWindow hk hu hoff'
        rw [haddr] at hin
        obtain rfl := inWindow_inj hin (hs.holders.inWindow ht huses hoff)
        exact hkm (hs.holders.sole e q k m.owner hu huses)
      · rw [Function.update_of_ne he, hold]
  · intro e n hn u hu hread haccept
    obtain ⟨hrange, hall⟩ := hs.entries e n hn u hu hread haccept
    exact ⟨hrange, fun j hj => hsome _ j (hall j hj)⟩
  · intro k u hu hans cmd hcmd hread hzero
    obtain ⟨hrange, hall⟩ := hs.answered k u hu hans cmd hcmd hread hzero
    exact ⟨hrange, fun j hj => hsome _ j (hall j hj)⟩
  · intro k u hu hleaves hret hread
    obtain ⟨hans, bytes, hbuf, hall⟩ := hs.finished k u hu hleaves hret hread
    refine ⟨hans, bytes, hbuf, fun j hj => ?_⟩
    have hk : k ≠ m.owner := by
      rintro rfl
      rw [ht] at hu
      cases hu
      exact hans ha
    exact (congrFun (Function.update_of_ne hk ..) j).trans (hall j hj)

/-! ### Every step, every run -/

/-- **A step that meets the condition keeps the invariant.** -/
theorem Inv.step (hs : Inv s) {a : Act} (hok : Ok s a) (h : step s a = some s') :
    Inv s' := by
  cases a with
  | fill d i offset byte => exact hs.fill h
  | proxy a buf =>
    obtain ⟨hkeep, hfree, hwhole⟩ := hok
    have hstep := h
    obtain ⟨p', hp', hs'⟩ := Option.map_eq_some_iff.mp h
    have hp := hs.proxy.step hkeep hp'
    have hh := hs.holders.step hs.proxy hfree hp'
    by_cases ha : Passive a
    · have hnone : copiesOf s.proxy p' a = [] := by
        cases a <;> first | rfl | exact ha.elim
      rw [hnone] at hs'
      subst hs'
      exact hs.passive ha hp hh hwhole hp'
    cases a with
    | call k d args fails =>
      cases hk : s.proxy.threads k with
      | some t =>
        simp only [Proxy.step, hk] at hp'
        cases hp'
      | none =>
        simp only [Proxy.step, hk, Option.some.injEq] at hp'
        subst hp' hs'
        exact hs.call hk d args fails hp hh
    | advance k fails early =>
      clear hs'
      obtain ⟨t, r, ht, hr, rfl⟩ := step_advance hstep
      obtain rfl : s.proxy.move k t.dev r.1 r.2.1 r.2.2 = p' := by
        obtain ⟨t', ht', hp'⟩ := Option.bind_eq_some_iff.mp hp'
        obtain ⟨r', hr', hp'⟩ := Option.bind_eq_some_iff.mp hp'
        rw [ht] at ht'
        cases ht'
        rw [hr] at hr'
        cases hr'
        cases hp'
        rfl
      by_cases hpayload : t.pc = .payload
      · obtain ⟨hfresh, -⟩ := (hs.proxy.ok k t ht).entered hpayload
        unfold Proxy.threadStep at hr
        rw [hpayload] at hr
        obtain ⟨q, hq, rfl⟩ := Option.map_eq_some_iff.mp hr
        have heio : - EIO ≠ 0 := by decide
        rcases payloadStep_cases hfresh hq with ⟨hdev, ⟨hu, hnone⟩ | hu⟩ |
          ⟨r, c, pc, hsema, hfails, hne, hdev, hu, htook, hpc⟩
        · rw [hu, hdev] at hp hh ⊢
          exact hs.pass (u := { t with pc := .cid }) ht hpayload
            ⟨rfl, rfl, rfl, rfl, rfl, rfl, rfl⟩ rfl rfl rfl (.inl ⟨rfl, hnone⟩) hp hh buf
        · rw [hu, hdev] at hp hh ⊢
          exact hs.pass (u := { t with call := { t.call with ret := - EIO }, pc := .erase }) ht
            hpayload ⟨rfl, rfl, rfl, rfl, rfl, rfl, rfl⟩ rfl rfl rfl (.inr ⟨rfl, heio⟩) hp hh buf
        · rw [hu, hdev] at hp hh ⊢
          refine hs.take ht hpayload hsema htook hpc ?_ hp hh buf
          have hfree' := hfree t ht hfails hpayload (by rw [hsema]; exact Option.some_ne_none r)
          exact hs.holders.alone hne (hsema ▸ hfree')
      · by_cases hrelease : t.pc = .release
        · unfold Proxy.threadStep at hr
          rw [hrelease] at hr
          cases hr
          exact hs.release ht hrelease hp hh buf
        · have hquiet := threadStep_quiet hr hpayload hrelease
          by_cases hwait : t.pc = .wait
          · unfold Proxy.threadStep at hr
            rw [hwait] at hr
            obtain ⟨u, hu, rfl⟩ := Option.map_eq_some_iff.mp hr
            exact hs.wait ht hwait (waitStep_outcome hu) hp hh buf
          · rw [newCopies_of_append ((hquiet.copies hwait).trans (List.append_nil _).symm)]
            exact hs.move ht rfl hp hh rfl rfl (fun _ _ => rfl) hquiet.keeps hquiet.cq
              (hquiet.uses hs.proxy hs.holders ht)
              (hquiet.evolves hs ht rfl (fun h => (hquiet.failed hwait h).elim)
                (hquiet.finished hs ht hwait rfl rfl))
    | _ => exact (ha trivial).elim

/-- A copy to the device is made by payload formation, at the start of the data window, when the
semaphore of that window is up. -/
theorem toDevice_of_section {p : Proxy.State} (hp : Proxy.Inv p) (hs : Holders p) {k : ℕ}
    {t : Thread} (ht : p.threads k = some t) {fails early : Bool} {r : Thread × Device × CidXarray}
    (hr : Proxy.threadStep k t (p.devices t.dev) p.cids p.jiffies fails early = some r)
    {offset len : UInt32} (h : .toDevice offset len ∈ newCopies t r.1) :
    t.pc = .payload ∧ fails = false ∧ semaOf t.cmdId = some .gcqDataSema ∧
      (p.devices t.dev).sema .gcqDataSema ≠ 0 ∧
      offset.toNat = (p.devices t.dev).ctxt.amcDataStart.toNat + AMC_LOG_PAGE_SIZE.toNat := by
  have hquiet : r.1.call.copies = t.call.copies → False := by
    intro hcopies
    rw [newCopies_of_append (hcopies.trans (List.append_nil _).symm)] at h
    cases h
  by_cases hpayload : t.pc = .payload
  · obtain ⟨hfresh, -⟩ := (hp.ok k t ht).entered hpayload
    unfold Proxy.threadStep at hr
    rw [hpayload] at hr
    obtain ⟨q, hq, rfl⟩ := Option.map_eq_some_iff.mp hr
    rcases payloadStep_cases hfresh hq with ⟨-, ⟨hu, -⟩ | hu⟩ |
      ⟨r, c, pc, hsema, hfails, hne, -, hu, htook, -⟩
    · exact (hquiet (by rw [hu])).elim
    · exact (hquiet (by rw [hu])).elim
    · rcases htook.copies with hcopies | ⟨rfl, n, hcopies⟩
      · exact (hquiet (by rw [hu, hcopies])).elim
      · refine ⟨hpayload, hfails, hsema, hne, ?_⟩
        rw [newCopies_of_append (by rw [hu, hcopies])] at h
        obtain ⟨rfl, -⟩ : offset = c.payloadAddress ∧ len = n := by simpa using h
        have hstart := hs.base k t ht
        rw [htook.base, windowBase_data (hstart ▸ hs.layout t.dev), hstart]
  · by_cases hrelease : t.pc = .release
    · unfold Proxy.threadStep at hr
      rw [hrelease] at hr
      cases hr
      refine (hquiet ?_).elim
      unfold Proxy.releaseStep Call.releaseSemas
      dsimp only
      split_ifs <;> rfl
    · by_cases hwait : t.pc = .wait
      · unfold Proxy.threadStep at hr
        rw [hwait] at hr
        obtain ⟨u, hu, rfl⟩ := Option.map_eq_some_iff.mp hr
        cases waitStep_outcome hu with
        | aborts => exact (hquiet rfl).elim
        | completes cmd =>
          rcases readResponse_copies_cases (t.call.mapCmd fun cmd =>
              { cmd with complete := cmd.complete - 1 }) t.cmdId (p.devices t.dev).initialised
              { cmd with complete := cmd.complete - 1 } with hcopies | ⟨o, n, hcopies⟩
          · exact (hquiet hcopies).elim
          · rw [newCopies_of_append hcopies] at h
            simp at h
      · exact (hquiet ((threadStep_quiet hr hpayload hrelease).copies hwait)).elim

/-- **The windows, in every run.** If no id is confused, no window is taken while the firmware
still has a request of an earlier call to it, and no read is answered with success before the whole
answer is in the window, then as long as a call uses a window nobody else writes it, and what a
successful read returns to its caller is what the firmware wrote for that read. -/
theorem windows_owned {s₀ s : State} (h₀ : s₀.IsStart) (hs : Reaches step Ok s₀ s) :
    Owned Ok s := by
  have hinv : Inv s := hs.invariant Inv (Inv.start h₀) fun _ _ _ hinv hok h => hinv.step hok h
  refine ⟨?_, fun k t ht hpc hret hread => ?_⟩
  · intro a s' d j k r addr hok h hwrites huses hin
    cases a with
    | fill d' i offset byte =>
      obtain ⟨rfl, m, t, hm, rfl, ht, rfl⟩ := hwrites
      obtain ⟨m', t', q, hm', ht', hdev, -, -, hoff, huses', -⟩ := hinv.filling h
      rw [hm] at hm'
      cases hm'
      rw [ht] at ht'
      cases ht'
      obtain rfl := inWindow_inj hin (hinv.holders.inWindow ht huses' hoff)
      exact hinv.holders.sole _ _ _ _ huses' huses
    | proxy a buf =>
      obtain ⟨p', hp', offset, len, hmem, hlo, -⟩ := hwrites
      cases a with
      | advance j' fails early =>
        obtain ⟨t, ht, hp'⟩ := Option.bind_eq_some_iff.mp hp'
        obtain ⟨q, hq, hp'⟩ := Option.bind_eq_some_iff.mp hp'
        cases hp'
        rw [copiesOf_advance ht (Function.update_self ..)] at hmem
        obtain ⟨c, hc, heq⟩ := List.mem_map.mp hmem
        cases heq
        obtain ⟨hpc, hfails, hsema, hne, hoff⟩ :=
          toDevice_of_section hinv.proxy hinv.holders ht hq hc
        -- the data window is free, so nobody uses it
        rw [hoff] at hlo
        have hdata : inWindow (s.proxy.devices t.dev).ctxt .gcqDataSema addr := hlo
        obtain rfl := inWindow_inj hin hdata
        have hfree := hok.2.1 t ht hfails hpc (by rw [hsema]; nofun)
        exact (hinv.holders.alone hne (hsema ▸ hfree) k huses).elim
      | _ => cases hmem
  · exact (hinv.finished k t ht (by rw [hpc]; rfl) hret hread).2

/-! ### A read, and a window given away -/

instance (p : Proxy.State) : ∀ a, Decidable (TakesFree p a)
  | .advance k _ _ => inferInstanceAs (Decidable (∀ t ∈ p.threads k, _))
  | .call .. | .take .. | .answer .. | .respond .. | .checkTimeout .. | .drain .. | .tick
  | .halt .. => inferInstanceAs (Decidable True)

instance (t : Thread) (payload : UInt64) (ret : UInt32) : Decidable (accepts t payload ret) :=
  inferInstanceAs (Decidable (_ = (0 : ℤ)))

instance (s : State) (k : ℕ) (t : Thread) : Decidable (Covered s k t) :=
  inferInstanceAs (Decidable (_ ∧ _))

instance (s : State) : ∀ a, Decidable (AnswersWhole s a)
  | .answer d i _ _ => inferInstanceAs (Decidable (∀ m ∈ (s.proxy.devices d).taken[i]?, _))
  | .call .. | .advance .. | .take .. | .respond .. | .checkTimeout .. | .drain .. | .tick
  | .halt .. => inferInstanceAs (Decidable True)

instance (s : State) : ∀ a, Decidable (Ok s a)
  | .proxy a _ => inferInstanceAs (Decidable (KeepsIds s.proxy a ∧ TakesFree s.proxy a ∧ _))
  | .fill .. => inferInstanceAs (Decidable True)

/-- Devices whose windows start at address 0, as loaded. -/
def exampleState : State where
  proxy := Proxy.exampleStart
  sharedMem := fun _ _ => 0
  written := fun _ _ => none
  dataBuf := fun _ => none

theorem exampleState_isStart : exampleState.IsStart :=
  ⟨Proxy.exampleStart_isStart,
    fun _ => show (0 : UInt32).toNat + AMC_LOG_PAGE_SIZE.toNat < 2 ^ 32 by decide,
    fun _ _ => rfl⟩

/-- A step in which the caller's buffer holds sevens. -/
def sevens (a : Proxy.Act) : Act := .proxy a fun _ => 7

/-- A sensor request of two bytes is answered. -/
def sensorRun : List Act :=
  [sevens (.call 0 0 ⟨.getAllInstTempSensor, 0, true, 2⟩ false), sevens (.advance 0 false false),
    sevens (.advance 0 false false), sevens (.advance 0 false false),
    sevens (.advance 0 false false), sevens (.advance 0 false false),
    sevens (.advance 0 false false), sevens (.take 0), .fill 0 0 0 21, .fill 0 0 1 22,
    sevens (.answer 0 0 0 0), sevens (.respond 0), sevens (.advance 0 false false),
    sevens (.advance 0 false false), sevens (.advance 0 false false)]

theorem windows_owned_at_sensorRun :
    ∃ s, Owned Ok s ∧ (s.proxy.threads 0).map (fun t => (t.pc, t.call.ret)) = some (.returned, 0) ∧
      (s.dataBuf 0).map (fun bytes => (bytes 0, bytes 1)) = some (21, 22) := by
  have h : (run (guarded step Ok) exampleState sensorRun).any (fun s => decide
      ((s.proxy.threads 0).map (fun t => (t.pc, t.call.ret)) = some (.returned, 0) ∧
        (s.dataBuf 0).map (fun bytes => (bytes 0, bytes 1)) = some (21, 22))) = true := by
    decide +kernel
  obtain ⟨s, hrun, hs⟩ := (Option.any_eq_true _ _).mp h
  exact ⟨s, windows_owned exampleState_isStart (.of_guarded_run sensorRun .start hrun),
    of_decide_eq_true hs⟩

/-- The firmware has taken a request to download an image when its waiter is killed; the call
gives the data window back, and an EEPROM write is about to form its payload. -/
def killedRun : List Act :=
  [sevens (.call 0 0 ⟨.downloadPdi, 0, true, 4⟩ false), sevens (.advance 0 false false),
    sevens (.advance 0 false false), sevens (.advance 0 false false),
    sevens (.advance 0 false false), sevens (.advance 0 false false),
    sevens (.advance 0 false false), sevens (.take 0), sevens (.advance 0 true false),
    sevens (.advance 0 false false), sevens (.advance 0 false false),
    sevens (.advance 0 false false), sevens (.call 1 0 ⟨.eepromReadWrite, 1, true, 4⟩ false)]

/-- The EEPROM write overwrites the image that the firmware is still reading. -/
theorem window_given_away : ¬ ∀ s₀ s, s₀.IsStart → Reaches step always s₀ s → Owned always s := by
  intro hall
  have h : (run step exampleState killedRun).any (fun s =>
      (step s (sevens (.advance 1 false false))).isSome &&
      ((Proxy.step s.proxy (.advance 1 false false)).any fun p => decide
        ((0, 1, Copy.toDevice 0x100000 4) ∈ copiesOf s.proxy p (.advance 1 false false))) &&
      ((s.proxy.threads 0).any fun t =>
        decide (t.dev = 0 ∧ semaOf t.cmdId = some .gcqDataSema)) &&
      decide (⟨0, 0⟩ ∈ (s.proxy.devices 0).sq ++ (s.proxy.devices 0).taken ∧
        (s.proxy.devices 0).ctxt.amcDataStart = 0)) = true := by
    decide +kernel
  obtain ⟨s, hrun, hs⟩ := (Option.any_eq_true _ _).mp h
  simp only [Bool.and_eq_true] at hs
  obtain ⟨⟨⟨hstep, hcopy⟩, hthread⟩, hdev⟩ := hs
  obtain ⟨s', hs'⟩ := Option.isSome_iff_exists.mp hstep
  obtain ⟨p, hp, hmem⟩ := (Option.any_eq_true _ _).mp hcopy
  obtain ⟨t, ht, htd⟩ := (Option.any_eq_true _ _).mp hthread
  obtain ⟨hfirm, hstart⟩ := of_decide_eq_true hdev
  obtain ⟨hd, hsema⟩ := of_decide_eq_true htd
  have hwrites : Writes s 0 1 0x100000 (sevens (.advance 1 false false)) :=
    ⟨p, hp, _, _, of_decide_eq_true hmem, le_rfl, by decide⟩
  have hin : inWindow (s.proxy.devices 0).ctxt .gcqDataSema 0x100000 := by
    change (s.proxy.devices 0).ctxt.amcDataStart.toNat + AMC_LOG_PAGE_SIZE.toNat ≤ _
    rw [hstart]
    decide
  have := (hall exampleState s exampleState_isStart (.of_run hrun)).exclusive _ s' 0 1 0
    .gcqDataSema _ trivial hs' hwrites ⟨t, ht, hd, hsema, .inr ⟨_, hfirm, rfl⟩⟩ hin
  cases this

end Amr.Amc.Window
