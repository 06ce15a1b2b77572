/-
# Responses reach the calls that wait for them

The remaining steps of the system (calls that start, the firmware, the response thread, timeouts)
keep the invariant, and so does every run that keeps the ids. From it follow the two properties of
the host proxy: the ids in flight differ and a call is woken by the response to its own request
only; and no response to a command that still waits is lost, as long as the response thread reads
it after the command has entered the list.
-/
import Amr.Amc.ProxyInv

namespace Amr.Amc.Proxy

/-! ### The other steps -/

theorem enter_cases (d : Device) (args : Args) (fails : Bool) :
    (∃ c cmdId, enter d args fails = ⟨c, cmdId, .erase, none, none⟩ ∧ c.amcProxyCmd = none) ∨
    (∃ cmdId, getCmdCommandId args.cmdReq = some cmdId ∧
      enter d args fails =
        ⟨{ Call.start d.ctxt args with amcProxyCmd := some .zero }, cmdId, .payload, none, none⟩) := by
  unfold enter
  cases hchecks : (Call.start d.ctxt args).checks with
  | error c =>
    obtain ⟨ret, rfl⟩ := checks_error hchecks
    exact .inl ⟨_, _, by simp only [hchecks, Except.bind]; exact rfl, rfl⟩
  | ok cmdId =>
    cases fails with
    | true => exact .inl ⟨_, _, by simp only [hchecks, Except.bind, Call.kzalloc]; exact rfl, rfl⟩
    | false =>
      have hcmd : getCmdCommandId args.cmdReq = some cmdId := (checks_ok_iff.mp hchecks).2.1
      refine .inr ⟨cmdId, hcmd, ?_⟩
      simp only [hchecks, Except.bind, Call.kzalloc, hcmd]
      rfl

theorem enter_ok (d : Device) (args : Args) (fails : Bool) :
    (enter d args fails).Ok ∧ (enter d args fails).owned = none ∧
      (enter d args fails).answer = none ∧
      ((enter d args fails).pc = .payload ∨ (enter d args fails).pc = .erase) := by
  rcases enter_cases d args fails with ⟨c, cmdId, he, -⟩ | ⟨cmdId, hcmd, he⟩
  · rw [he]
    exact ⟨⟨nofun, nofun, nofun, nofun, nofun, nofun⟩, rfl, rfl, .inr rfl⟩
  · rw [he]
    exact ⟨⟨nofun, nofun, fun _ => rfl, fun _ => ⟨⟨rfl, rfl, rfl⟩, hcmd⟩, fun _ => nofun, nofun⟩,
      rfl, rfl, .inl rfl⟩

variable {s : State}

theorem Inv.call (hs : Inv s) {k : ℕ} (hk : s.threads k = none) (d : ℕ) (args : Args)
    (fails : Bool) : Inv (s.setThread k (enter (s.devices d) args fails)) := by
  obtain ⟨hok, howned, hans, hpc⟩ := enter_ok (s.devices d) args fails
  generalize enter (s.devices d) args fails = t' at hok howned hans hpc
  have hne : ∀ j u, s.threads j = some u → (s.setThread k t').threads j = some u := by
    intro j u hu
    have hj : j ≠ k := by
      rintro rfl
      rw [hk] at hu
      cases hu
    exact (Function.update_of_ne hj ..).trans hu
  have hnotwaits : ¬ t'.Waits :=
    not_waits_of_pc (by rcases hpc with h | h <;> rw [h] <;> nofun)
      (by rcases hpc with h | h <;> rw [h] <;> nofun)
  have hunlisted : ∀ e, k ∉ (s.devices e).submittedCmds := fun e he => by
    obtain ⟨u, hu, -⟩ := hs.listed e k he
    rw [hk] at hu
    cases hu
  constructor
  · intro j u hu
    rcases update_eq_some hu with ⟨rfl, rfl⟩ | ⟨-, hu⟩
    · exact hok
    · exact hs.ok j u hu
  · intro j u cid hu ho
    rcases update_eq_some hu with ⟨rfl, rfl⟩ | ⟨-, hu⟩
    · rw [howned] at ho
      cases ho
    · exact hs.alloc j u cid hu ho
  · intro j j' u u' cid hu hu' ho ho'
    rcases update_eq_some hu with ⟨rfl, rfl⟩ | ⟨-, hold⟩
    · rw [howned] at ho
      cases ho
    · rcases update_eq_some hu' with ⟨rfl, rfl⟩ | ⟨-, hold'⟩
      · rw [howned] at ho'
        cases ho'
      · exact hs.distinct j j' u u' cid hold hold' ho ho'
  · intro e j hj
    obtain ⟨u, hu, hrest⟩ := hs.listed e j hj
    exact ⟨u, hne j u hu, hrest⟩
  · exact hs.nodup
  · intro e m hm
    obtain ⟨u, hu, hrest⟩ := hs.outstanding e m hm
    exact ⟨u, hne _ u hu, hrest⟩
  · exact hs.owners
  · intro j u cid hu ho hw m hm hcid
    rcases update_eq_some hu with ⟨rfl, rfl⟩ | ⟨-, hu⟩
    · rw [howned] at ho
      cases ho
    · exact hs.own j u cid hu ho hw m hm hcid
  · intro j u o hu ha
    rcases update_eq_some hu with ⟨rfl, rfl⟩ | ⟨-, hu⟩
    · rw [hans] at ha
      cases ha
    · exact hs.answer j u o hu ha
  · intro j u hu hw hto ha
    rcases update_eq_some hu with ⟨rfl, rfl⟩ | ⟨-, hu⟩
    · exact (hnotwaits hw).elim
    · exact hs.live j u hu hw hto ha
  · intro e hini
    obtain ⟨hempty, hold⟩ := hs.instances e hini
    refine ⟨hempty, fun j u hu hdev => ?_⟩
    rcases update_eq_some hu with ⟨rfl, rfl⟩ | ⟨-, hu⟩
    · rcases hpc with h | h <;> rw [h] <;> nofun
    · exact hold j u hu hdev

theorem Inv.setDevice (hs : Inv s) {d : ℕ} {dev : Device}
    (hlist : dev.submittedCmds = (s.devices d).submittedCmds)
    (hini : dev.initialised = (s.devices d).initialised)
    (hsub : ∀ m ∈ dev.outstanding, m ∈ (s.devices d).outstanding)
    (howners : (dev.outstanding.map (·.owner)).Nodup) : Inv (s.setDevice d dev) := by
  have hview : ∀ e, ((s.setDevice d dev).devices e).submittedCmds = (s.devices e).submittedCmds ∧
      ((s.setDevice d dev).devices e).initialised = (s.devices e).initialised ∧
      ∀ m ∈ ((s.setDevice d dev).devices e).outstanding, m ∈ (s.devices e).outstanding := by
    intro e
    by_cases he : e = d
    · subst he
      have hself : (s.setDevice e dev).devices e = dev := Function.update_self ..
      rw [hself]
      exact ⟨hlist, hini, hsub⟩
    · have hother : (s.setDevice d dev).devices e = s.devices e := Function.update_of_ne he ..
      rw [hother]
      exact ⟨rfl, rfl, fun _ h => h⟩
  constructor
  · exact hs.ok
  · exact hs.alloc
  · exact hs.distinct
  · intro e j hj
    exact hs.listed e j ((hview e).1 ▸ hj)
  · intro e
    rw [(hview e).1]
    exact hs.nodup e
  · intro e m hm
    exact hs.outstanding e m ((hview e).2.2 m hm)
  · intro e
    by_cases he : e = d
    · subst he
      have hself : (s.setDevice e dev).devices e = dev := Function.update_self ..
      rw [hself]
      exact howners
    · have hother : (s.setDevice d dev).devices e = s.devices e := Function.update_of_ne he ..
      rw [hother]
      exact hs.owners e
  · intro j u cid hu ho hw m hm hcid
    rw [(hview u.dev).1] at hw
    exact hs.own j u cid hu ho hw m ((hview u.dev).2.2 m hm) hcid
  · exact hs.answer
  · intro j u hu hw hto ha
    rw [(hview u.dev).1]
    exact hs.live j u hu hw hto ha
  · intro e h
    rw [(hview e).2.1] at h
    rw [(hview e).1]
    exact hs.instances e h

/-! ### The response thread -/

theorem find_hasCid (hs : Inv s) {d cid k : ℕ}
    (h : (s.devices d).submittedCmds.find? (hasCid s.threads cid) = some k) :
    k ∈ (s.devices d).submittedCmds ∧ ∃ t, s.threads k = some t ∧ t.dev = d ∧
      t.owned = some cid ∧ (t.Waits ∨ t.pc = .abort) := by
  have hk := List.mem_of_find?_eq_some h
  have hcid : (s.threads k).bind Thread.cmdCid = some cid := by
    simpa [hasCid] using List.find?_some h
  obtain ⟨t, ht, hdev, ho, hw, -⟩ := hs.listed d k hk
  replace hcid : t.cmdCid = some cid := by rwa [ht] at hcid
  obtain ⟨c, hc⟩ := Option.ne_none_iff_exists'.mp ho
  have hcmd := (hs.ok k t ht).cmd c hc
  obtain rfl : c = cid := Option.some.inj (hcmd.symm.trans hcid)
  exact ⟨hk, t, ht, hdev, hc, hw⟩

theorem outstanding_of_cq {d : Device} {m : Completion} {cq : List Completion} (h : d.cq = m :: cq)
    (list : List ℕ) :
    d.outstanding.Perm
      (m.request :: { d with cq := cq, submittedCmds := list }.outstanding) := by
  unfold Device.outstanding
  rw [h, List.map_cons]
  exact List.perm_middle

theorem Inv.owner_of_listed (hs : Inv s) {d k : ℕ} {t : Thread} {m : Completion}
    {cq : List Completion} (hcq : (s.devices d).cq = m :: cq)
    (hk : k ∈ (s.devices d).submittedCmds) (ht : s.threads k = some t) (hdev : t.dev = d)
    (howned : t.owned = some m.request.cid) : m.request.owner = k := by
  subst hdev
  refine hs.own k t _ ht howned (.inl hk) m.request ?_ rfl
  exact (outstanding_of_cq hcq []).mem_iff.mpr (List.mem_cons_self ..)

/-- The state after `cmd_complete` has found the command of call `k`. -/
def State.complete (s : State) (d k : ℕ) (t : Thread) (m : Completion) (cq : List Completion) :
    State :=
  { s with
    threads := Function.update s.threads k (some (t.completeWith m))
    devices := Function.update s.devices d
      { s.devices d with cq := cq, submittedCmds := (s.devices d).submittedCmds.erase k } }

theorem Inv.complete (hs : Inv s) {d k : ℕ} {t : Thread} {m : Completion}
    {cq : List Completion} (hcq : (s.devices d).cq = m :: cq)
    (hk : k ∈ (s.devices d).submittedCmds) (ht : s.threads k = some t) (hdev : t.dev = d)
    (howned : t.owned = some m.request.cid) (hw : t.Waits ∨ t.pc = .abort) :
    Inv (s.complete d k t m cq) := by
  have howner := hs.owner_of_listed hcq hk ht hdev howned
  have hperm := outstanding_of_cq hcq ((s.devices d).submittedCmds.erase k)
  have hpc : t.pc = .requested ∨ t.pc = .wait ∨ t.pc = .abort := by
    rcases hw with ⟨h | h, -⟩ | h
    · exact .inl h
    · exact .inr (.inl h)
    · exact .inr (.inr h)
  set t' := t.completeWith m with ht'
  set dev : Device :=
    { s.devices d with cq := cq, submittedCmds := (s.devices d).submittedCmds.erase k } with hdev'
  have hcmd : t'.cmdCid = t.cmdCid := mapCmd_cmdCid t fun _ => rfl
  have hself : (s.complete d k t m cq).devices d = dev := Function.update_self ..
  have hother : ∀ e, e ≠ d → (s.complete d k t m cq).devices e = s.devices e :=
    fun e he => Function.update_of_ne he ..
  have hne : ∀ j, j ≠ k → (s.complete d k t m cq).threads j = s.threads j :=
    fun j hj => Function.update_of_ne hj ..
  have hsub : ∀ e, ∀ j ∈ ((s.complete d k t m cq).devices e).submittedCmds,
      j ∈ (s.devices e).submittedCmds ∧ j ≠ k := by
    intro e j hj
    by_cases he : e = d
    · subst he
      rw [hself] at hj
      exact ⟨List.mem_of_mem_erase hj, fun h => (hs.nodup e).not_mem_erase (h ▸ hj)⟩
    · rw [hother e he] at hj
      refine ⟨hj, ?_⟩
      rintro rfl
      obtain ⟨u, hu, hdevu, -⟩ := hs.listed e j hj
      rw [ht] at hu
      cases hu
      exact he (hdevu.symm.trans hdev)
  have hout : ∀ e, ∀ q ∈ ((s.complete d k t m cq).devices e).outstanding,
      q ∈ (s.devices e).outstanding ∧ q.owner ≠ k := by
    intro e q hq
    by_cases he : e = d
    · subst he
      rw [hself] at hq
      refine ⟨hperm.mem_iff.mpr (List.mem_cons_of_mem _ hq), fun hqk => ?_⟩
      have hnodup := (hperm.map (·.owner)).nodup_iff.mp (hs.owners e)
      refine (List.nodup_cons.mp hnodup).1 (List.mem_map.mpr ⟨q, hq, ?_⟩)
      exact hqk.trans howner.symm
    · rw [hother e he] at hq
      refine ⟨hq, fun hqk => ?_⟩
      obtain ⟨u, hu, hdevu, -⟩ := hs.outstanding e q hq
      rw [hqk, ht] at hu
      cases hu
      exact he (hdevu.symm.trans hdev)
  constructor
  · intro j u hu
    rcases update_eq_some hu with ⟨rfl, rfl⟩ | ⟨-, hu⟩
    · have hok := hs.ok j t ht
      have hpc' : t'.pc = .requested ∨ t'.pc = .wait ∨ t'.pc = .abort := hpc
      refine ⟨fun cid ho => hcmd.trans (hok.cmd cid ho), hok.owns, ?_, ?_, ?_, ?_⟩
      all_goals rcases hpc' with h | h | h <;> rw [h] <;> nofun
    · exact hs.ok j u hu
  · intro j u cid hu ho
    rcases update_eq_some hu with ⟨rfl, rfl⟩ | ⟨-, hu⟩
    · exact hs.alloc j t cid ht ho
    · exact hs.alloc j u cid hu ho
  · intro j j' u u' cid hu hu' ho ho'
    rcases update_eq_some hu with ⟨rfl, rfl⟩ | ⟨hj, hold⟩ <;>
      rcases update_eq_some hu' with ⟨rfl, rfl⟩ | ⟨hj', hold'⟩
    · rfl
    · exact hs.distinct j j' t u' cid ht hold' ho ho'
    · exact hs.distinct j j' u t cid hold ht ho ho'
    · exact hs.distinct j j' u u' cid hold hold' ho ho'
  · intro e j hj
    obtain ⟨hmem, hjk⟩ := hsub e j hj
    obtain ⟨u, hu, hrest⟩ := hs.listed e j hmem
    exact ⟨u, (hne j hjk).trans hu, hrest⟩
  · intro e
    by_cases he : e = d
    · subst he
      rw [hself]
      exact (hs.nodup e).erase k
    · rw [hother e he]
      exact hs.nodup e
  · intro e q hq
    obtain ⟨hmem, hqk⟩ := hout e q hq
    obtain ⟨u, hu, hrest⟩ := hs.outstanding e q hmem
    exact ⟨u, (hne _ hqk).trans hu, hrest⟩
  · intro e
    by_cases he : e = d
    · subst he
      rw [hself]
      exact (List.nodup_cons.mp ((hperm.map (·.owner)).nodup_iff.mp (hs.owners e))).2
    · rw [hother e he]
      exact hs.owners e
  · intro j u cid hu ho hwaits q hq hcid
    rcases update_eq_some hu with ⟨rfl, rfl⟩ | ⟨hj, hu⟩
    · exact hs.own j t cid ht ho (.inl (hdev ▸ hk)) q (hout _ q hq).1 hcid
    · exact hs.own j u cid hu ho (hwaits.imp_left fun h => (hsub _ j h).1) q (hout _ q hq).1 hcid
  · intro j u o hu ha
    rcases update_eq_some hu with ⟨rfl, rfl⟩ | ⟨-, hu⟩
    · exact (Option.some.inj ha).symm.trans howner
    · exact hs.answer j u o hu ha
  · intro j u hu hwaits hto ha
    rcases update_eq_some hu with ⟨rfl, rfl⟩ | ⟨hj, hu⟩
    · cases ha
    · have hmem := hs.live j u hu hwaits hto ha
      by_cases he : u.dev = d
      · rw [he] at hmem ⊢
        rw [hself]
        exact (List.mem_erase_of_ne hj).mpr hmem
      · rwa [hother _ he]
  · intro e hini
    have hthreads : ∀ j u, (s.complete d k t m cq).threads j = some u → u.dev = e →
        (∀ j u, s.threads j = some u → u.dev = e → u.pc ≠ .insert) → u.pc ≠ .insert := by
      intro j u hu hdevu hold
      rcases update_eq_some hu with ⟨rfl, rfl⟩ | ⟨-, hu⟩
      · exact hold j t ht hdevu
      · exact hold j u hu hdevu
    by_cases he : e = d
    · subst he
      rw [hself] at hini
      obtain ⟨hempty, -⟩ := hs.instances e hini
      rw [hempty] at hk
      cases hk
    · rw [hother e he] at hini ⊢
      obtain ⟨hempty, hold⟩ := hs.instances e hini
      exact ⟨hempty, fun j u hu hdevu => hthreads j u hu hdevu hold⟩

/-! ### Timeouts -/

theorem timeOutListed_eq_some {list : List ℕ} {jiffies j : ℕ} {u : Thread}
    (h : timeOutListed s.threads list jiffies j = some u) :
    ∃ t, s.threads j = some t ∧ (u = t ∧ (j ∈ list → expired s.threads jiffies j = false) ∨
      u = t.timeOut ∧ j ∈ list ∧ expired s.threads jiffies j = true) := by
  unfold timeOutListed at h
  split_ifs at h with hexp
  · obtain ⟨t, ht, rfl⟩ := Option.map_eq_some_iff.mp h
    exact ⟨t, ht, .inr ⟨rfl, hexp⟩⟩
  · exact ⟨u, h, .inl ⟨rfl, fun hj => by simpa [hj] using hexp⟩⟩

theorem timeOutListed_of_some {j : ℕ} {t : Thread} (ht : s.threads j = some t)
    (list : List ℕ) (jiffies : ℕ) :
    ∃ u, timeOutListed s.threads list jiffies j = some u ∧ (u = t ∨ u = t.timeOut) := by
  unfold timeOutListed
  split_ifs
  · exact ⟨t.timeOut, by rw [ht]; rfl, .inr rfl⟩
  · exact ⟨t, ht, .inl rfl⟩

/-- The state after the listed commands of a device that have expired are timed out, and those of
them that `keep` rejects have left the list. -/
def State.expire (s : State) (d : ℕ) (list : List ℕ) : State :=
  { s with
    threads := timeOutListed s.threads (s.devices d).submittedCmds s.jiffies
    devices := Function.update s.devices d { s.devices d with submittedCmds := list } }

theorem cmdCid_timeOut (t : Thread) : t.timeOut.cmdCid = t.cmdCid :=
  mapCmd_cmdCid t (f := fun cmd =>
    { cmd with cmdRcode := -ETIME, complete := cmd.complete + 1, timedOut := true }) fun _ => rfl

theorem signalledLate_timeOut (t : Thread) : t.timeOut.SignalledLate := by
  intro cmd hcmd _
  obtain ⟨cmd₀, -, rfl⟩ := Option.map_eq_some_iff.mp hcmd
  change -ETIME ≠ 0
  decide

theorem Inv.expire (hs : Inv s) {d : ℕ} {list : List ℕ} (hnodup : list.Nodup)
    (hsub : ∀ k ∈ list, k ∈ (s.devices d).submittedCmds)
    (hkeep : ∀ k ∈ (s.devices d).submittedCmds, expired s.threads s.jiffies k = false → k ∈ list) :
    Inv (s.expire d list) := by
  have hview : ∀ e, ((s.expire d list).devices e).outstanding = (s.devices e).outstanding ∧
      ((s.expire d list).devices e).initialised = (s.devices e).initialised ∧
      (∀ k ∈ ((s.expire d list).devices e).submittedCmds, k ∈ (s.devices e).submittedCmds) := by
    intro e
    by_cases he : e = d
    · subst he
      have hself : (s.expire e list).devices e = { s.devices e with submittedCmds := list } :=
        Function.update_self ..
      rw [hself]
      exact ⟨rfl, rfl, hsub⟩
    · have hother : (s.expire d list).devices e = s.devices e := Function.update_of_ne he ..
      rw [hother]
      exact ⟨rfl, rfl, fun _ h => h⟩
  -- a timeout leaves everything of a call alone but the flag, the code and the signal
  have hthread : ∀ j u, (s.expire d list).threads j = some u → ∃ t, s.threads j = some t ∧
      u.dev = t.dev ∧ u.owned = t.owned ∧ u.answer = t.answer ∧ u.pc = t.pc ∧
      (u.Waits ↔ t.Waits) := by
    intro j u hu
    obtain ⟨t, ht, ⟨rfl, -⟩ | ⟨rfl, -⟩⟩ := timeOutListed_eq_some hu
    · exact ⟨u, ht, rfl, rfl, rfl, rfl, .rfl⟩
    · exact ⟨t, ht, rfl, rfl, rfl, rfl, .rfl⟩
  have hback : ∀ j t, s.threads j = some t → ∃ u, (s.expire d list).threads j = some u ∧
      (u = t ∨ u = t.timeOut) :=
    fun j t ht => timeOutListed_of_some ht _ _
  constructor
  · intro j u hu
    obtain ⟨t, ht, ⟨rfl, -⟩ | ⟨rfl, hj, -⟩⟩ := timeOutListed_eq_some hu
    · exact hs.ok j u ht
    · have hok := hs.ok j t ht
      obtain ⟨t₀, ht₀, -, -, hw, -⟩ := hs.listed d j hj
      rw [ht] at ht₀
      cases ht₀
      have hpc : t.timeOut.pc = .requested ∨ t.timeOut.pc = .wait ∨ t.timeOut.pc = .abort := by
        rcases hw with ⟨h | h, -⟩ | h
        · exact .inl h
        · exact .inr (.inl h)
        · exact .inr (.inr h)
      refine ⟨fun cid ho => (cmdCid_timeOut t).trans (hok.cmd cid ho), hok.owns, ?_, ?_,
        ?_, ?_⟩
      all_goals rcases hpc with h | h | h <;> rw [h] <;> nofun
  · intro j u cid hu ho
    obtain ⟨t, ht, -, howned, -⟩ := hthread j u hu
    exact hs.alloc j t cid ht (howned ▸ ho)
  · intro j j' u u' cid hu hu' ho ho'
    obtain ⟨t, ht, -, howned, -⟩ := hthread j u hu
    obtain ⟨t', ht', -, howned', -⟩ := hthread j' u' hu'
    exact hs.distinct j j' t t' cid ht ht' (howned ▸ ho) (howned' ▸ ho')
  · intro e j hj
    obtain ⟨t, ht, hdev, ho, hw, hsig⟩ := hs.listed e j ((hview e).2.2 j hj)
    obtain ⟨u, hu, rfl | rfl⟩ := hback j t ht
    · exact ⟨u, hu, hdev, ho, hw, hsig⟩
    · exact ⟨t.timeOut, hu, hdev, ho, hw, signalledLate_timeOut t⟩
  · intro e
    by_cases he : e = d
    · subst he
      have hself : (s.expire e list).devices e = { s.devices e with submittedCmds := list } :=
        Function.update_self ..
      rw [hself]
      exact hnodup
    · have hother : (s.expire d list).devices e = s.devices e := Function.update_of_ne he ..
      rw [hother]
      exact hs.nodup e
  · intro e m hm
    obtain ⟨t, ht, hdev, hpc, ha⟩ := hs.outstanding e m ((hview e).1 ▸ hm)
    obtain ⟨u, hu, rfl | rfl⟩ := hback _ t ht
    · exact ⟨u, hu, hdev, hpc, ha⟩
    · exact ⟨t.timeOut, hu, hdev, hpc, ha⟩
  · intro e
    rw [(hview e).1]
    exact hs.owners e
  · intro j u cid hu ho hw m hm hcid
    obtain ⟨t, ht, hdev, howned, -, -, hwaits⟩ := hthread j u hu
    rw [(hview u.dev).1, hdev] at hm
    refine hs.own j t cid ht (howned ▸ ho) (hw.imp (fun h => ?_) hwaits.mp) m hm hcid
    exact hdev ▸ (hview u.dev).2.2 j h
  · intro j u o hu ha
    obtain ⟨t, ht, -, -, hans, -⟩ := hthread j u hu
    exact hs.answer j t o ht (hans ▸ ha)
  · intro j u hu hw hto ha
    obtain ⟨t, ht, ⟨rfl, hexp⟩ | ⟨rfl, hj, hexp⟩⟩ := timeOutListed_eq_some hu
    · have hmem := hs.live j u ht hw hto ha
      by_cases he : u.dev = d
      · rw [he] at hmem ⊢
        have hself : (s.expire d list).devices d = { s.devices d with submittedCmds := list } :=
          Function.update_self ..
        rw [hself]
        exact hkeep j hmem (hexp hmem)
      · have hother : (s.expire d list).devices u.dev = s.devices u.dev :=
          Function.update_of_ne he ..
        rwa [hother]
    · -- a command that has been timed out is not live
      unfold expired at hexp
      rw [ht] at hexp
      cases hcmd : t.call.amcProxyCmd with
      | none => simp [hcmd] at hexp
      | some cmd =>
        rw [Thread.timedOut, Thread.timeOut, Thread.mapCmd, Call.mapCmd, hcmd] at hto
        cases hto
  · intro e hini
    rw [(hview e).2.1] at hini
    obtain ⟨hempty, hold⟩ := hs.instances e hini
    refine ⟨List.eq_nil_iff_forall_not_mem.mpr fun j hj => ?_, fun j u hu hdev => ?_⟩
    · have := (hview e).2.2 j hj
      rw [hempty] at this
      cases this
    · obtain ⟨t, ht, hdevt, -, -, hpc, -⟩ := hthread j u hu
      rw [hpc]
      exact hold j t ht (hdevt.symm.trans hdev)

/-! ### Every step, every run -/

/-- **A step that keeps the ids keeps the invariant.** -/
theorem Inv.step {s s' : State} (hs : Inv s) {a : Act} (hkeep : KeepsIds s a)
    (h : step s a = some s') : Inv s' := by
  cases a with
  | call k d args fails =>
    cases hk : s.threads k with
    | some t =>
      simp only [Proxy.step, hk] at h
      cases h
    | none =>
      simp only [Proxy.step, hk, Option.some.injEq] at h
      subst h
      exact hs.call hk d args fails
  | advance k fails early =>
    obtain ⟨t, ht, h⟩ := Option.bind_eq_some_iff.mp h
    obtain ⟨r, hr, h⟩ := Option.bind_eq_some_iff.mp h
    cases h
    exact hs.move ht (threadStep_move hs ht hkeep hr)
  | take d =>
    cases hsq : (s.devices d).sq with
    | nil =>
      simp only [Proxy.step, hsq] at h
      cases h
    | cons m sq =>
      simp only [Proxy.step, hsq, Option.some.injEq] at h
      subst h
      have hperm : ({ s.devices d with sq := sq, taken := (s.devices d).taken ++ [m] } :
          Device).outstanding.Perm (s.devices d).outstanding := by
        unfold Device.outstanding
        rw [hsq, List.perm_iff_count]
        intro q
        simp only [List.count_append, List.count_cons, List.count_nil]
        omega
      exact hs.setDevice rfl rfl (fun q hq => hperm.mem_iff.mp hq)
        ((hperm.map _).nodup_iff.mpr (hs.owners d))
  | answer d i payload ret =>
    obtain ⟨m, hm, h⟩ := Option.bind_eq_some_iff.mp h
    cases h
    obtain ⟨hi, hget⟩ := List.getElem?_eq_some_iff.mp hm
    have hperm : ({ s.devices d with
        taken := (s.devices d).taken.eraseIdx i
        cq := (s.devices d).cq ++ [⟨m, payload, ret⟩] } : Device).outstanding.Perm
          (s.devices d).outstanding := by
      have herase := List.perm_iff_count.mp (List.getElem_cons_eraseIdx_perm hi)
      unfold Device.outstanding
      rw [List.perm_iff_count]
      intro q
      have := herase q
      rw [hget] at this
      simp only [List.count_append, List.count_cons, List.count_nil, List.map_append,
        List.map_cons, List.map_nil] at this ⊢
      omega
    exact hs.setDevice rfl rfl (fun q hq => hperm.mem_iff.mp hq)
      ((hperm.map _).nodup_iff.mpr (hs.owners d))
  | respond d =>
    cases hcq : (s.devices d).cq with
    | nil =>
      simp only [Proxy.step, hcq] at h
      cases h
    | cons m cq =>
      simp only [Proxy.step, hcq, Option.some.injEq] at h
      subst h
      unfold cmdComplete
      cases hfind : (s.devices d).submittedCmds.find? (hasCid s.threads m.request.cid) with
      | some k =>
        obtain ⟨hk, t, ht, hdev, howned, hw⟩ := find_hasCid hs hfind
        dsimp only
        rw [ht]
        exact hs.complete hcq hk ht hdev howned hw
      | none =>
        have hperm := outstanding_of_cq hcq (s.devices d).submittedCmds
        refine hs.setDevice rfl rfl (fun q hq => hperm.mem_iff.mpr (List.mem_cons_of_mem _ hq)) ?_
        exact (List.nodup_cons.mp ((hperm.map (·.owner)).nodup_iff.mp (hs.owners d))).2
  | checkTimeout d =>
    cases h
    have hexpire := hs.expire (hs.nodup d) (fun k hk => hk) (fun k hk _ => hk)
    unfold State.expire at hexpire
    rwa [Function.update_eq_self] at hexpire
  | drain d =>
    cases h
    exact hs.expire ((hs.nodup d).filter _) (fun k hk => List.mem_of_mem_filter hk)
      fun k hk hexp => List.mem_filter.mpr ⟨hk, by simp [hexp]⟩
  | tick =>
    cases h
    exact ⟨hs.ok, hs.alloc, hs.distinct, hs.listed, hs.nodup, hs.outstanding, hs.owners, hs.own,
      hs.answer, hs.live, hs.instances⟩
  | halt d gcqHalted =>
    cases h
    exact hs.setDevice rfl rfl (fun _ h => h) (hs.owners d)

end Amr.Amc.Proxy
