/-
# No response is lost

In a run that keeps the ids and in which the response thread reads no entry for a command that is
written and not yet listed, every entry for a command that still waits completes that command. A
response that is read between the queue write and the insertion finds no command and is discarded,
and its call waits until it times out.
-/
import Amr.Amc.CommandIds

namespace Amr.Amc.Proxy

open Transition

/-- The request of the call is in the queue, and its wait has neither been timed out nor killed. -/
def Thread.Live (t : Thread) : Prop := (t.pc = .insert ∨ t.Waits) ∧ t.timedOut = false

/-- What the response thread does to the command of call `k` when it reads the entry `m`: it finds
the command, which is in the list once, stores the response in it and removes it, and leaves every
other command alone. -/
structure Completes (s s' : State) (d k : ℕ) (t : Thread) (m : Completion) : Prop where
  found : (s.devices d).submittedCmds.find? (hasCid s.threads m.request.cid) = some k
  once : (s.devices d).submittedCmds.count k = 1
  stored : s'.threads k = some (t.completeWith m)
  removed : (s'.devices d).submittedCmds = (s.devices d).submittedCmds.erase k
  others : ∀ j, j ≠ k → s'.threads j = s.threads j

/-- The step keeps the ids, and if the response thread reads an entry, no command with its id is
written and not yet listed. -/
def ReadsListed (s : State) (a : Act) : Prop :=
  KeepsIds s a ∧ ∀ d, a = .respond d → ∀ m ∈ (s.devices d).cq.head?, ∀ k t, s.threads k = some t →
    t.dev = d → t.pc = .insert → t.cmdCid ≠ some m.request.cid

theorem inv_of_readsListed {s₀ s : State} (h₀ : s₀.IsStart) (hs : Reaches step ReadsListed s₀ s) :
    Inv s :=
  hs.invariant Inv (Inv.start h₀) fun _ _ _ hinv hok h => hinv.step hok.1 h

/-- The command of a waiting call is in the list when an entry with its id is read, and no other
command with that id is. -/
theorem Inv.find_of_waits {s : State} (hs : Inv s) {k : ℕ} {t : Thread} {m : Completion}
    {cq : List Completion} (hcq : (s.devices t.dev).cq = m :: cq) (ht : s.threads k = some t)
    (hw : t.Waits) (hto : t.timedOut = false) (hcid : t.cmdCid = some m.request.cid) :
    (s.devices t.dev).submittedCmds.find? (hasCid s.threads m.request.cid) = some k ∧
      k ∈ (s.devices t.dev).submittedCmds := by
  have hok := hs.ok k t ht
  have howned : t.owned = some m.request.cid := by
    have hpc : t.pc.holdsCid = true := by rcases hw.1 with h | h <;> rw [h] <;> rfl
    obtain ⟨cid, ho, hc⟩ := hok.owns_of_pc rfl hpc
    rwa [← hcid.symm.trans hc] at ho
  have hmem : m.request ∈ (s.devices t.dev).outstanding :=
    (outstanding_of_cq hcq []).mem_iff.mpr (List.mem_cons_self ..)
  -- the entry answers the call's own request, so the call has no answer yet
  have howner : m.request.owner = k := hs.own k t _ ht howned (.inr hw) m.request hmem rfl
  have hans : t.answer = none := by
    obtain ⟨u, hu, -, -, ha⟩ := hs.outstanding _ _ hmem
    rw [howner, ht] at hu
    cases hu
    exact ha
  have hk := hs.live k t ht hw hto hans
  refine ⟨?_, hk⟩
  cases hfind : (s.devices t.dev).submittedCmds.find? (hasCid s.threads m.request.cid) with
  | none =>
    have := List.find?_eq_none.mp hfind k hk
    simp [hasCid, ht, hcid] at this
  | some j =>
    obtain ⟨-, u, hu, -, howned', -⟩ := find_hasCid hs hfind
    rw [hs.distinct j k u t _ hu ht howned' howned]

/-- **No response is lost.** In every run that keeps the ids and reads no entry for a command that
is written and not yet listed, an entry with the id of a command whose call still waits completes
that command. -/
theorem response_completes {s₀ s s' : State} (h₀ : s₀.IsStart)
    (hs : Reaches step ReadsListed s₀ s) {d : ℕ} (hok : ReadsListed s (.respond d))
    (h : step s (.respond d) = some s') {m : Completion} {cq : List Completion}
    (hcq : (s.devices d).cq = m :: cq) {k : ℕ} {t : Thread} (ht : s.threads k = some t)
    (hdev : t.dev = d) (hlive : t.Live) (hcid : t.cmdCid = some m.request.cid) :
    Completes s s' d k t m := by
  have hinv := inv_of_readsListed h₀ hs
  subst hdev
  obtain ⟨hpc | hw, hto⟩ := hlive
  · exact (hok.2 _ rfl m (by rw [hcq]; rfl) k t ht rfl hpc hcid).elim
  obtain ⟨hfind, hk⟩ := hinv.find_of_waits hcq ht hw hto hcid
  simp only [step, hcq, cmdComplete, hfind, Option.some.injEq] at h
  subst h
  refine ⟨hfind, List.count_eq_one_of_mem (hinv.nodup _) hk, ?_, ?_, ?_⟩
  · change Function.update _ _ _ k = _
    rw [Function.update_self, ht]
    rfl
  · simp only [Function.update_self]
  · exact fun j hj => Function.update_of_ne hj ..

/-! ### Runs -/

theorem step_none {s s' : State} (hs : Inv s) {a : Act} (h : step s a = some s') {j : ℕ}
    (hj : s.threads j = none) (hcall : ∀ d args fails, a ≠ .call j d args fails) :
    s'.threads j = none := by
  rw [Option.eq_none_iff_forall_ne_some]
  intro u hu
  by_cases hcall' : ∃ k d args fails, a = .call k d args fails
  · obtain ⟨k, d, args, fails, rfl⟩ := hcall'
    cases hk : s.threads k with
    | some t =>
      simp only [step, hk] at h
      cases h
    | none =>
      simp only [step, hk, Option.some.injEq] at h
      subst h
      rcases update_eq_some hu with ⟨rfl, -⟩ | ⟨-, hu⟩
      · exact hcall d args fails rfl
      · rw [hj] at hu
        cases hu
  by_cases hadvance : ∃ k fails early, a = .advance k fails early
  · obtain ⟨k, fails, early, rfl⟩ := hadvance
    obtain ⟨t, ht, h⟩ := Option.bind_eq_some_iff.mp h
    obtain ⟨r, -, h⟩ := Option.bind_eq_some_iff.mp h
    cases h
    rcases update_eq_some hu with ⟨rfl, -⟩ | ⟨-, hu⟩
    · rw [Option.mem_def.mp ht] at hj
      cases hj
    · rw [hj] at hu
      cases hu
  · push Not at hcall' hadvance
    obtain ⟨t, ht, -⟩ := step_keeps_threads hs h hcall' hadvance hu
    rw [hj] at ht
    cases ht

instance (s : State) : ∀ a, Decidable (KeepsIds s a)
  | .advance k _ _ => inferInstanceAs (Decidable (∀ t ∈ s.threads k, _))
  | .call .. | .take .. | .answer .. | .respond .. | .checkTimeout .. | .drain .. | .tick
  | .halt .. => inferInstanceAs (Decidable True)

/-- A step that keeps the ids, of a run with two calls in which nothing is read yet. -/
def Unread (s : State) : Act → Prop
  | .respond _ => False
  | .call k _ _ _ => k < 2
  | a => KeepsIds s a

instance (s : State) : ∀ a, Decidable (Unread s a)
  | .respond _ => inferInstanceAs (Decidable False)
  | .call k _ _ _ => inferInstanceAs (Decidable (k < 2))
  | .advance k fails early => inferInstanceAs (Decidable (KeepsIds s (.advance k fails early)))
  | .take d => inferInstanceAs (Decidable (KeepsIds s (.take d)))
  | .answer d i p r => inferInstanceAs (Decidable (KeepsIds s (.answer d i p r)))
  | .checkTimeout d => inferInstanceAs (Decidable (KeepsIds s (.checkTimeout d)))
  | .drain d => inferInstanceAs (Decidable (KeepsIds s (.drain d)))
  | .tick => inferInstanceAs (Decidable (KeepsIds s .tick))
  | .halt d b => inferInstanceAs (Decidable (KeepsIds s (.halt d b)))

theorem readsListed_of_unread (s : State) (a : Act) (h : Unread s a) : ReadsListed s a := by
  refine ⟨?_, ?_⟩
  · cases a <;> first | exact h | trivial
  · rintro d rfl
    exact h.elim

/-- A call waits for its answer, which is in the queue, while a second one is about to write. -/
def answeredRun : List Act :=
  [.call 0 0 ⟨.getGcqVersion, 0, true, 8⟩ false, .advance 0 false false, .advance 0 false false,
    .advance 0 false false, .advance 0 false false, .advance 0 false false,
    .advance 0 false false, .call 1 0 ⟨.getHeartbeat, 7, true, 1⟩ false, .advance 1 false false,
    .advance 1 false false, .advance 1 false false, .take 0, .answer 0 0 0x0100 0]

theorem response_completes_at_answeredRun :
    ∃ s s' t, t.cmdCid = some 0 ∧ step s (.respond 0) = some s' ∧
      Completes s s' 0 0 t ⟨⟨0, 0⟩, 0x0100, 0⟩ := by
  have h : (run (guarded step Unread) exampleStart answeredRun).any (fun s =>
      decide ((s.devices 0).cq = [⟨⟨0, 0⟩, 0x0100, 0⟩]) &&
      ((s.threads 0).any fun t => decide (t.pc = .wait ∧ t.call.ret = 0 ∧ t.timedOut = false ∧
        t.dev = 0 ∧ t.cmdCid = some 0)) &&
      ((s.threads 1).any fun t => decide (t.pc = .write))) = true := by
    decide +kernel
  obtain ⟨s, hrun, hs⟩ := (Option.any_eq_true _ _).mp h
  simp only [Bool.and_eq_true, decide_eq_true_eq] at hs
  obtain ⟨⟨hcq, h0⟩, h1⟩ := hs
  obtain ⟨t, ht, hprop⟩ := (Option.any_eq_true _ _).mp h0
  obtain ⟨u, hu, hwrite⟩ := (Option.any_eq_true _ _).mp h1
  obtain ⟨hpc, hret, hto, hdev, hcid⟩ := of_decide_eq_true hprop
  have hreach : Reaches step Unread exampleStart s := .of_guarded_run answeredRun .start hrun
  -- no third call has started, so no command is between its write and the list
  have hnone : Inv s ∧ ∀ j, 2 ≤ j → s.threads j = none := by
    refine hreach.invariant (fun s => Inv s ∧ ∀ j, 2 ≤ j → s.threads j = none)
      ⟨Inv.start exampleStart_isStart, fun _ _ => rfl⟩ ?_
    rintro s a s' ⟨hinv, hnone⟩ hok hstep
    refine ⟨hinv.step (readsListed_of_unread s a hok).1 hstep, fun j hj => ?_⟩
    refine step_none hinv hstep (hnone j hj) ?_
    rintro d args fails rfl
    have : j < 2 := hok
    omega
  have hok : ReadsListed s (.respond 0) := by
    refine ⟨trivial, ?_⟩
    rintro _ ⟨⟩ m - k v hv - hinsert
    have hk : k = 0 ∨ k = 1 ∨ 2 ≤ k := by omega
    rcases hk with rfl | rfl | hk
    · rw [ht] at hv
      cases hv
      rw [hpc] at hinsert
      cases hinsert
    · rw [hu] at hv
      cases hv
      rw [of_decide_eq_true hwrite] at hinsert
      cases hinsert
    · rw [hnone.2 k hk] at hv
      cases hv
  obtain ⟨s', hs'⟩ : ∃ s', step s (.respond 0) = some s' := by
    simp only [step, hcq]
    exact ⟨_, rfl⟩
  exact ⟨s, s', t, hcid, hs', response_completes exampleStart_isStart
    (hreach.mono readsListed_of_unread) hok hs' hcq ht hdev ⟨.inr ⟨.inr hpc, hret⟩, hto⟩ hcid⟩

/-- The firmware answers a request before its call has put the command into the list. -/
def earlyAnswerRun : List Act :=
  [.call 0 0 ⟨.getGcqVersion, 0, true, 8⟩ false, .advance 0 false false, .advance 0 false false,
    .advance 0 false false, .advance 0 false false, .take 0, .answer 0 0 0x0100 0]

/-- The response thread discards the entry of that command, whose call still waits. -/
theorem response_lost :
    ¬ ∀ s₀ s s' d m cq k t, s₀.IsStart → Reaches step always s₀ s →
      step s (.respond d) = some s' → (s.devices d).cq = m :: cq → s.threads k = some t →
      t.dev = d → t.Live → t.cmdCid = some m.request.cid → Completes s s' d k t m := by
  intro hall
  have h : (run step exampleStart earlyAnswerRun).any (fun s =>
      decide ((s.devices 0).cq = [⟨⟨0, 0⟩, 0x0100, 0⟩]) &&
      decide ((s.devices 0).submittedCmds = []) &&
      ((s.threads 0).any fun t => decide (t.pc = .insert ∧ t.timedOut = false ∧
        t.dev = 0 ∧ t.cmdCid = some 0))) = true := by
    decide +kernel
  obtain ⟨s, hrun, hs⟩ := (Option.any_eq_true _ _).mp h
  simp only [Bool.and_eq_true, decide_eq_true_eq] at hs
  obtain ⟨⟨hcq, hlist⟩, h0⟩ := hs
  obtain ⟨t, ht, hprop⟩ := (Option.any_eq_true _ _).mp h0
  obtain ⟨hpc, hto, hdev, hcid⟩ := of_decide_eq_true hprop
  obtain ⟨s', hs'⟩ : ∃ s', step s (.respond 0) = some s' := by
    simp only [step, hcq]
    exact ⟨_, rfl⟩
  have hcompletes := hall exampleStart s s' 0 _ _ 0 t exampleStart_isStart (.of_run hrun) hs' hcq
    ht hdev ⟨.inl hpc, hto⟩ hcid
  have honce := hcompletes.once
  rw [hlist] at honce
  cases honce

end Amr.Amc.Proxy
