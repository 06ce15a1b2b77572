/-
# Command ids are unique, and responses authentic

In a run in which no call fails between `kzalloc` and its id, and no command enters the list while
an older request with its id is unanswered, the ids in flight differ, a call only ever erases its
own id, and it is only ever woken by the response to its own request. Without the first condition
a call erases id 0, whoever owns it.
-/
import Amr.Amc.ProxySafety

namespace Amr.Amc.Proxy

open Transition

/-- The property: ids in flight are pairwise distinct, `remove_gcq_cid` is applied to the id of
the finishing call only, and a call is woken by the response to its own request only. -/
structure CommandIds (s : State) : Prop where
  distinct : ∀ k k' t t' cid, s.threads k = some t → s.threads k' = some t' →
    t.owned = some cid → t'.owned = some cid → k = k'
  removed : ∀ k t cmd, s.threads k = some t → t.pc = .erase → t.call.amcProxyCmd = some cmd →
    t.owned = some cmd.cmdCid
  woken : ∀ k t o, s.threads k = some t → t.answer = some o → o = k

instance (cmdId : AmcCmdId) (a : Args) (interrupted : Bool) :
    Decidable (PayloadFails cmdId a interrupted) :=
  inferInstanceAs (Decidable (_ ∨ _))

instance (x : CidXarray) : Decidable x.HasFree :=
  decidable_of_iff (x.firstFree 0 ≠ none) (not_congr CidXarray.firstFree_zero_eq_none |>.trans
    not_not)

/-- The call neither fails between `kzalloc` and its id, nor enters the list while an older
request with its id is unanswered. -/
def OwnsCid (s : State) : Act → Prop
  | .advance k fails _ => ∀ t ∈ s.threads k,
    (t.pc = .payload → ¬ PayloadFails t.cmdId t.call.args fails) ∧
    (t.pc = .cid → fails = false ∧ s.cids.HasFree) ∧
    (t.pc = .insert → ∀ m ∈ (s.devices t.dev).outstanding, t.cmdCid = some m.cid → m.owner = k)
  | _ => True

instance (s : State) : ∀ a, Decidable (OwnsCid s a)
  | .advance k _ _ => inferInstanceAs (Decidable (∀ t ∈ s.threads k, _))
  | .call .. | .take .. | .answer .. | .respond .. | .checkTimeout .. | .drain .. | .tick
  | .halt .. => inferInstanceAs (Decidable True)

/-- Every call at `remove_gcq_cid` that has a command has an id. -/
def ErasesOwn (s : State) : Prop :=
  ∀ k t, s.threads k = some t → t.pc = .erase → t.owned = none → t.call.amcProxyCmd = none

theorem keepsIds_of_ownsCid {s : State} {a : Act} (herase : ErasesOwn s) (h : OwnsCid s a) :
    KeepsIds s a := by
  cases a with
  | advance k fails early =>
    intro t ht
    refine ⟨(h t ht).2.2, fun hpc howned cid hcid => ?_⟩
    have hnone := herase k t ht hpc howned
    rw [Option.mem_def, Thread.cmdCid, hnone] at hcid
    cases hcid
  | _ => trivial

theorem waitStep_owned {t t' : Thread} {d : Device} {fails early : Bool}
    (h : waitStep t d fails early = some t') : t'.owned = t.owned := by
  unfold waitStep at h
  split_ifs at h
  · cases h
    rfl
  · split at h
    · cases h
    · split_ifs at h
      cases h
      rfl

theorem threadStep_erasesOwn {s : State} (hs : Inv s) {k : ℕ} {t : Thread}
    (ht : s.threads k = some t) {fails early : Bool} (hown : OwnsCid s (.advance k fails early))
    {r : Thread × Device × CidXarray}
    (h : threadStep k t (s.devices t.dev) s.cids s.jiffies fails early = some r)
    (hpc' : r.1.pc = .erase) : r.1.owned ≠ none := by
  have hok := hs.ok k t ht
  unfold threadStep at h
  cases hpc : t.pc with
  | payload =>
    rw [hpc] at h
    obtain ⟨q, hq, rfl⟩ := Option.map_eq_some_iff.mp h
    obtain ⟨hfresh, hcmd⟩ := hok.entered hpc
    have hcid : (t.formPayload fails).pc = .cid := by
      unfold Thread.formPayload
      rcases formPayload_cases hfresh hcmd fails with ⟨hf, -⟩ | ⟨-, c, hc, -⟩
      · exact ((hown t ht).1 hpc hf).elim
      · rw [hc]
    have hq' : q.1 = t.formPayload fails := by
      unfold payloadStep at hq
      cases hsema : semaOf t.cmdId with
      | none =>
        rw [hsema] at hq
        cases hq
        rfl
      | some res =>
        rw [hsema] at hq
        dsimp only at hq
        split_ifs at hq <;> cases hq <;> rfl
    replace hpc' : q.1.pc = .erase := hpc'
    rw [hq', hcid] at hpc'
    cases hpc'
  | cid =>
    rw [hpc] at h
    cases h
    obtain ⟨x, hx⟩ : ∃ x, getGcqCid s.cids t.call.ctxt.id fails = .ok x :=
      getGcqCid_isOk_iff.mpr ((hown t ht).2.1 hpc)
    unfold cidStep at hpc'
    rw [hx] at hpc'
    cases hpc'
  | lock =>
    rw [hpc] at h
    obtain ⟨q, hq, rfl⟩ := Option.map_eq_some_iff.mp h
    unfold lockStep at hq
    split at hq
    · cases hq
    · cases hq
      cases hpc'
  | write =>
    rw [hpc] at h
    cases h
    unfold writeStep at hpc'
    dsimp only at hpc'
    split_ifs at hpc'
    all_goals cases hpc'
  | insert =>
    rw [hpc] at h
    cases h
    cases hpc'
  | requested =>
    rw [hpc] at h
    cases h
    obtain ⟨cid, howned, -⟩ := hok.owns_of_pc hpc rfl
    unfold unlockStep
    dsimp only
    split_ifs <;> exact fun h => by cases howned.symm.trans h
  | wait =>
    rw [hpc] at h
    obtain ⟨t', ht', rfl⟩ := Option.map_eq_some_iff.mp h
    obtain ⟨cid, howned, -⟩ := hok.owns_of_pc hpc rfl
    rw [waitStep_owned ht', howned]
    nofun
  | abort =>
    rw [hpc] at h
    cases h
    obtain ⟨cid, howned, -⟩ := hok.owns_of_pc hpc rfl
    unfold abortStep
    dsimp only
    split_ifs <;> exact fun h => by cases howned.symm.trans h
  | erase =>
    rw [hpc] at h
    cases h
    cases hpc'
  | release =>
    rw [hpc] at h
    cases h
    cases hpc'
  | returned =>
    rw [hpc] at h
    cases h

theorem step_keeps_threads {s s' : State} (hs : Inv s) {a : Act} (h : step s a = some s')
    (hcall : ∀ k d args fails, a ≠ .call k d args fails)
    (hadvance : ∀ k fails early, a ≠ .advance k fails early) {j : ℕ} {u : Thread}
    (hu : s'.threads j = some u) : ∃ t, s.threads j = some t ∧ u.pc = t.pc ∧ u.owned = t.owned ∧
      (t.call.amcProxyCmd = none → u.call.amcProxyCmd = none) := by
  have hmap : ∀ (t : Thread) (f : ProxyCmd → ProxyCmd), t.call.amcProxyCmd = none →
      (t.mapCmd f).call.amcProxyCmd = none := by
    intro t f hnone
    change t.call.amcProxyCmd.map f = none
    rw [hnone]
    rfl
  have htimeout : ∀ list jiffies, timeOutListed s.threads list jiffies j = some u →
      ∃ t, s.threads j = some t ∧ u.pc = t.pc ∧ u.owned = t.owned ∧
        (t.call.amcProxyCmd = none → u.call.amcProxyCmd = none) := by
    intro list jiffies hu
    obtain ⟨t, ht, ⟨rfl, -⟩ | ⟨rfl, -⟩⟩ := timeOutListed_eq_some hu
    · exact ⟨u, ht, rfl, rfl, id⟩
    · exact ⟨t, ht, rfl, rfl, hmap t _⟩
  have hsame : s'.threads = s.threads → ∃ t, s.threads j = some t ∧ u.pc = t.pc ∧
      u.owned = t.owned ∧ (t.call.amcProxyCmd = none → u.call.amcProxyCmd = none) :=
    fun he => ⟨u, he ▸ hu, rfl, rfl, id⟩
  cases a with
  | call k d args fails => exact (hcall k d args fails rfl).elim
  | advance k fails early => exact (hadvance k fails early rfl).elim
  | take d =>
    cases hsq : (s.devices d).sq with
    | nil =>
      simp only [step, hsq] at h
      cases h
    | cons m sq =>
      simp only [step, hsq, Option.some.injEq] at h
      subst h
      exact hsame rfl
  | answer d i payload ret =>
    obtain ⟨m, -, h⟩ := Option.bind_eq_some_iff.mp h
    cases h
    exact hsame rfl
  | respond d =>
    cases hcq : (s.devices d).cq with
    | nil =>
      simp only [step, hcq] at h
      cases h
    | cons m cq =>
      simp only [step, hcq, Option.some.injEq] at h
      subst h
      unfold cmdComplete at hu
      cases hfind : (s.devices d).submittedCmds.find? (hasCid s.threads m.request.cid) with
      | some k =>
        obtain ⟨-, t, ht, -⟩ := find_hasCid hs hfind
        rw [hfind] at hu
        dsimp only at hu
        rw [ht] at hu
        rcases update_eq_some hu with ⟨rfl, rfl⟩ | ⟨-, hu⟩
        · exact ⟨t, ht, rfl, rfl, hmap t _⟩
        · exact ⟨u, hu, rfl, rfl, id⟩
      | none =>
        rw [hfind] at hu
        exact ⟨u, hu, rfl, rfl, id⟩
  | checkTimeout d =>
    cases h
    exact htimeout _ _ hu
  | drain d =>
    cases h
    exact htimeout _ _ hu
  | tick =>
    cases h
    exact hsame rfl
  | halt d gcqHalted =>
    cases h
    exact hsame rfl

theorem ErasesOwn.step {s s' : State} (hs : Inv s) (herase : ErasesOwn s) {a : Act}
    (hown : OwnsCid s a) (h : step s a = some s') : ErasesOwn s' := by
  intro j u hu hpc howned
  by_cases hcall : ∃ k d args fails, a = .call k d args fails
  · obtain ⟨k, d, args, fails, rfl⟩ := hcall
    cases hk : s.threads k with
    | some t =>
      simp only [Proxy.step, hk] at h
      cases h
    | none =>
      simp only [Proxy.step, hk, Option.some.injEq] at h
      subst h
      rcases update_eq_some hu with ⟨rfl, rfl⟩ | ⟨-, hu⟩
      · rcases enter_cases (s.devices d) args fails with ⟨c, cmdId, he, hnone⟩ | ⟨cmdId, -, he⟩
        · rw [he]
          exact hnone
        · rw [he] at hpc
          cases hpc
      · exact herase j u hu hpc howned
  by_cases hadvance : ∃ k fails early, a = .advance k fails early
  · obtain ⟨k, fails, early, rfl⟩ := hadvance
    obtain ⟨t, ht, h⟩ := Option.bind_eq_some_iff.mp h
    obtain ⟨r, hr, h⟩ := Option.bind_eq_some_iff.mp h
    cases h
    rcases update_eq_some hu with ⟨rfl, rfl⟩ | ⟨-, hu⟩
    · exact (threadStep_erasesOwn hs ht hown hr hpc howned).elim
    · exact herase j u hu hpc howned
  · push Not at hcall hadvance
    obtain ⟨t, ht, hpct, hownedt, hcmd⟩ := step_keeps_threads hs h hcall hadvance hu
    exact hcmd (herase j t ht (hpct ▸ hpc) (hownedt ▸ howned))

/-- **Command ids, in every run.** If no call fails between `kzalloc` and its id, and no command
enters the list while an older request with its id is unanswered, then in every state that is
reached the ids in flight are pairwise distinct, `remove_gcq_cid` is applied to the id of the
finishing call, and every call that has been woken by a response has been woken by the response
to the request that it wrote. -/
theorem commandIds_of_ownsCid {s₀ s : State} (h₀ : s₀.IsStart)
    (hs : Reaches step OwnsCid s₀ s) : CommandIds s := by
  obtain ⟨hinv, herase⟩ : Inv s ∧ ErasesOwn s := by
    refine hs.invariant (fun s => Inv s ∧ ErasesOwn s) ⟨Inv.start h₀, ?_⟩ ?_
    · intro k t ht
      rw [h₀.threads k] at ht
      cases ht
    · rintro s a s' ⟨hinv, herase⟩ hok h
      exact ⟨hinv.step (keepsIds_of_ownsCid herase hok) h, herase.step hinv hok h⟩
  refine ⟨hinv.distinct, ?_, hinv.answer⟩
  intro k t cmd ht hpc hcmd
  cases howned : t.owned with
  | none =>
    rw [herase k t ht hpc howned] at hcmd
    cases hcmd
  | some cid =>
    have hcid := (hinv.ok k t ht).cmd cid howned
    rw [Thread.cmdCid, hcmd] at hcid
    exact hcid.symm

/-! ### Runs -/

/-- The driver as loaded, with a megabyte of data memory on every device. -/
def exampleStart : State where
  threads := fun _ => none
  devices := fun d => .start d 0 0x1FFFFF false true
  cids := .empty
  jiffies := 0

theorem exampleStart_isStart : exampleStart.IsStart :=
  ⟨fun _ => rfl, fun _ => ⟨_, _, _, _, rfl⟩, rfl⟩

/-- A call identifies the firmware and is answered, while a second one gets its id. -/
def identifyRun : List Act :=
  [.call 0 0 ⟨.getGcqVersion, 0, true, 8⟩ false, .advance 0 false false, .advance 0 false false,
    .advance 0 false false, .advance 0 false false, .advance 0 false false,
    .call 1 0 ⟨.getHeartbeat, 7, true, 1⟩ false, .advance 1 false false, .advance 1 false false,
    .take 0, .advance 0 false false, .answer 0 0 0x0100 0, .respond 0]

theorem commandIds_of_ownsCid_at_identifyRun :
    ∃ s, CommandIds s ∧ (s.threads 0).bind Thread.answer = some 0 ∧
      (s.threads 1).bind Thread.owned = some 1 := by
  have h : (run (guarded step OwnsCid) exampleStart identifyRun).any (fun s =>
      decide ((s.threads 0).bind Thread.answer = some 0 ∧
        (s.threads 1).bind Thread.owned = some 1)) = true := by
    decide +kernel
  obtain ⟨s, hrun, hs⟩ := (Option.any_eq_true _ _).mp h
  exact ⟨s, commandIds_of_ownsCid exampleStart_isStart (.of_guarded_run identifyRun .start hrun),
    of_decide_eq_true hs⟩

/-- While one partition copy holds the data memory, a second one is interrupted as it waits for
it. -/
def interruptedRun : List Act :=
  [.call 0 0 ⟨.copyPartition, 0, false, 64⟩ false, .advance 0 false false, .advance 0 false false,
    .call 1 0 ⟨.copyPartition, 0, false, 64⟩ false, .advance 1 true false]

/-- The interrupted call is about to erase id 0, which is the other one's. -/
theorem not_commandIds_interrupted :
    ¬ ∀ s₀ s, s₀.IsStart → Reaches step always s₀ s → CommandIds s := by
  intro hall
  have h : (run step exampleStart interruptedRun).any (fun s => (s.threads 1).any fun t =>
      decide (t.pc = .erase ∧ t.owned = none ∧ t.call.amcProxyCmd = some .zero)) = true := by
    decide +kernel
  obtain ⟨s, hrun, hs⟩ := (Option.any_eq_true _ _).mp h
  obtain ⟨t, ht, hprop⟩ := (Option.any_eq_true _ _).mp hs
  obtain ⟨hpc, howned, hcmd⟩ := of_decide_eq_true hprop
  have hids := hall exampleStart s exampleStart_isStart (.of_run hrun)
  rw [hids.removed 1 t .zero ht hpc hcmd] at howned
  cases howned

end Amr.Amc.Proxy
