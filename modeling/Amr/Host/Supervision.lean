/-
# The fatal event is raised once, in time, and shuts the service off

What holds of the variables of the heartbeat thread is kept by its own steps; the thread runs only
while there is a session, since the shutdown waits for it before the session is freed.
-/
import Amr.Host.Heartbeat

namespace Amr.Host.Heartbeat

open Transition

/-! ### The heartbeat thread -/

/-- What holds of the variables of the thread. -/
structure Heart.Sound (h : Heart) : Prop where
  count : h.fail_count = (h.failures.takeWhile id).length
  le : h.fail_count ≤ HEARTBEAT_FAIL_THRESHOLD
  fatals : h.fatals = if h.fatal_event_raised then 1 else 0
  /-- A heartbeat is only submitted below the threshold. -/
  waiting : h.pc = .waiting → h.fail_count < HEARTBEAT_FAIL_THRESHOLD ∧ h.fatal_event_raised = false
  raising : h.pc.raising = true →
    h.fail_count = HEARTBEAT_FAIL_THRESHOLD ∧ h.fatal_event_raised = false
  raised : h.fatal_event_raised = true → h.fail_count = HEARTBEAT_FAIL_THRESHOLD

theorem Heart.Sound.raised_iff {h : Heart} (hh : h.Sound) :
    h.fatals ≠ 0 ↔ h.fatal_event_raised = true := by
  rw [hh.fatals]
  split_ifs with hr
  · simp [hr]
  · simp [hr]

theorem Heart.Sound.goto {h : Heart} (hh : h.Sound) {pc : Pc} (hw : pc ≠ .waiting)
    (hr : pc.raising = false) : ({ h with pc := pc } : Heart).Sound :=
  ⟨hh.count, hh.le, hh.fatals, fun h => absurd h hw, fun h => (by cases hr.symm.trans h), hh.raised⟩

theorem Heart.Sound.answer {h : Heart} (hh : h.Sound) (hpc : h.pc = .waiting) (failed : Bool) :
    ({ h with
      pc := .sleeping, request_id := h.request_id + 1
      fail_count := if failed then h.fail_count + 1 else 0
      failures := failed :: h.failures } : Heart).Sound := by
  obtain ⟨hlt, hraised⟩ := hh.waiting hpc
  have hcount := hh.count
  cases failed with
  | true =>
    refine ⟨?_, ?_, hh.fatals, nofun, nofun, fun hr => by cases hraised.symm.trans hr⟩
    · simp [← hcount]
    · exact hlt
  | false =>
    refine ⟨?_, Nat.zero_le _, hh.fatals, nofun, nofun, fun hr => by cases hraised.symm.trans hr⟩
    simp

/-! ### The invariant -/

structure Inv (s : Device) : Prop where
  heart : s.heart.Sound
  /-- The thread runs only while there is a session with a callback. -/
  alive : s.heart.pc.active = true → s.amc_ctrl_ctxt = true ∧ s.event_cb = true
  start : s.phase = .start → s.heart.pc = .none ∧ s.heart.fatal_event_raised = false
  ended : (∃ removal, s.phase = .stopped removal) ∨ s.phase = .closed → s.heart.pc.active = false
  halted : s.heart.fatal_event_raised = true ∨ s.heart.pc = .halted → s.amc_ctrl_ctxt = true →
    s.gcq_halted = true
  state : s.heart.fatal_event_raised = true → s.phase ≠ .closed → s.state = .NO_AMC
  refused : s.acceptedLate = false
  inTime : s.beatLate = false
  delivered : s.missing = false

variable {s : Device}

theorem Inv.supervised (hs : Inv s) : Supervised s where
  once := by
    rw [hs.heart.fatals]
    split_ifs <;> decide
  threshold h := hs.heart.count.symm.trans (hs.heart.raised (hs.heart.raised_iff.mp h))
  halted h := hs.halted (.inl (hs.heart.raised_iff.mp h))
  refused := hs.refused
  state h := hs.state (hs.heart.raised_iff.mp h)
  inTime := hs.inTime
  delivered := hs.delivered

theorem inv_start (pf0 : Bool) : Inv (Device.start pf0) where
  heart := ⟨rfl, Nat.zero_le _, rfl, nofun, nofun, nofun⟩
  alive := nofun
  start _ := ⟨rfl, rfl⟩
  ended _ := rfl
  halted := by rintro (h | h) <;> cases h
  state := nofun
  refused := rfl
  inTime := rfl
  delivered := rfl

/-! ### The steps of the thread -/

theorem Inv.goto (hs : Inv s) {pc : Pc} (hactive : s.heart.pc.active = true)
    (hw : pc ≠ .waiting) (hr : pc.raising = false) : Inv (s.goto pc) where
  heart := hs.heart.goto hw hr
  alive _ := hs.alive hactive
  start h := by
    have := (hs.start h).1
    rw [this] at hactive
    cases hactive
  ended h := by cases (hs.ended h).symm.trans hactive
  halted h := hs.halted (h.imp_right fun h => by
    change pc = .halted at h
    rw [h] at hr
    cases hr)
  state := hs.state
  refused := hs.refused
  inTime := hs.inTime
  delivered := hs.delivered

theorem Inv.beat (hs : Inv s) (hpc : s.heart.pc = .top)
    (hraised : s.heart.fatal_event_raised = false)
    (hlt : s.heart.fail_count < HEARTBEAT_FAIL_THRESHOLD) : Inv s.beat where
  heart := ⟨hs.heart.count, hs.heart.le, hs.heart.fatals, fun _ => ⟨hlt, hraised⟩, nofun,
    hs.heart.raised⟩
  alive _ := hs.alive (by rw [hpc]; rfl)
  start h := by cases (hs.start h).1.symm.trans hpc
  ended h := by
    have := hs.ended h
    rw [hpc] at this
    cases this
  halted h := hs.halted (h.imp_right nofun)
  state := hs.state
  refused := hs.refused
  inTime := by
    change (s.beatLate || !s.amc_ctrl_ctxt) = false
    rw [hs.inTime, (hs.alive (by rw [hpc]; rfl)).1]
    rfl
  delivered := hs.delivered

theorem Inv.deliver_eq (hs : Inv s) (hactive : s.heart.pc.active = true) :
    s.deliver = s := by
  obtain ⟨hctxt, hcb⟩ := hs.alive hactive
  have hmissing := hs.delivered
  cases s
  simp_all [Device.deliver]

theorem Inv.answer (hs : Inv s) (hpc : s.heart.pc = .waiting)
    (response_id : Option UInt8) : Inv (s.answer response_id) := by
  have hactive : s.heart.pc.active = true := by rw [hpc]; rfl
  have hraised := (hs.heart.waiting hpc).2
  have hmoved : ∀ failed : Bool, Inv { s with heart := { s.heart with
      pc := .sleeping, request_id := s.heart.request_id + 1
      fail_count := if failed then s.heart.fail_count + 1 else 0
      failures := failed :: s.heart.failures } } := fun failed =>
    { heart := hs.heart.answer hpc failed
      alive := fun _ => hs.alive hactive
      start := fun h => by cases (hs.start h).1.symm.trans hpc
      ended := fun h => by cases (hs.ended h).symm.trans hactive
      halted := fun h => hs.halted (h.imp_right nofun)
      state := hs.state
      refused := hs.refused
      inTime := hs.inTime
      delivered := hs.delivered }
  unfold Device.answer
  rw [hs.deliver_eq hactive]
  split_ifs
  · exact hmoved false
  · exact hmoved true

theorem Inv.fatal (hs : Inv s) (hpc : s.heart.pc = .top)
    (hraised : s.heart.fatal_event_raised = false)
    (hle : HEARTBEAT_FAIL_THRESHOLD ≤ s.heart.fail_count) : Inv (s.goto .fatal) where
  heart := ⟨hs.heart.count, hs.heart.le, hs.heart.fatals, nofun,
    fun _ => ⟨le_antisymm hs.heart.le hle, hraised⟩, hs.heart.raised⟩
  alive _ := hs.alive (by rw [hpc]; rfl)
  start h := by cases (hs.start h).1.symm.trans hpc
  ended h := by
    have := hs.ended h
    rw [hpc] at this
    cases this
  halted h := hs.halted (h.imp_right nofun)
  state := hs.state
  refused := hs.refused
  inTime := hs.inTime
  delivered := hs.delivered

theorem Inv.halt (hs : Inv s) (hpc : s.heart.pc = .fatal) :
    Inv { s.goto .halted with gcq_halted := s.gcq_halted || s.amc_ctrl_ctxt } where
  heart := ⟨hs.heart.count, hs.heart.le, hs.heart.fatals, nofun,
    fun _ => hs.heart.raising (by rw [hpc]; rfl), hs.heart.raised⟩
  alive _ := hs.alive (by rw [hpc]; rfl)
  start h := by cases (hs.start h).1.symm.trans hpc
  ended h := by
    have := hs.ended h
    rw [hpc] at this
    cases this
  halted _ hctxt := by
    change s.amc_ctrl_ctxt = true at hctxt
    change (s.gcq_halted || s.amc_ctrl_ctxt) = true
    rw [hctxt, Bool.or_true]
  state := hs.state
  refused := hs.refused
  inTime := hs.inTime
  delivered := hs.delivered

theorem Inv.noAmc (hs : Inv s) (hpc : s.heart.pc = .halted) : Inv s.noAmc := by
  obtain ⟨hcount, hraised⟩ := hs.heart.raising (by rw [hpc]; rfl)
  exact {
    heart := ⟨hs.heart.count, hs.heart.le, by
        change s.heart.fatals + 1 = 1
        rw [hs.heart.fatals, hraised]
        rfl, nofun, nofun, fun _ => hcount⟩
    alive := fun _ => hs.alive (by rw [hpc]; rfl)
    start := fun h => by cases (hs.start h).1.symm.trans hpc
    ended := fun h => by
      have := hs.ended h
      rw [hpc] at this
      cases this
    halted := fun _ => hs.halted (.inr hpc)
    state := fun _ _ => rfl
    refused := hs.refused
    inTime := hs.inTime
    delivered := hs.delivered }

/-! ### The steps of the probe and of the shutdown -/

theorem Inv.proceed (hs : Inv s) {phase : Phase} {state : PF_DEV_STATE} {stop : Bool}
    (hstart : s.phase ≠ .start) (hphase : phase ≠ .start)
    (hended : (∃ removal, phase = .stopped removal) ∨ phase = .closed →
      s.heart.pc.active = false)
    (hclosed : s.phase ≠ .closed)
    (hstate : s.heart.fatal_event_raised = true → phase ≠ .closed → state = s.state) :
    Inv { s with phase := phase, state := state, stop := stop } where
  heart := hs.heart
  alive := hs.alive
  start h := absurd h hphase
  ended := hended
  halted := hs.halted
  state hraised hne := (hstate hraised hne).trans (hs.state hraised hclosed)
  refused := hs.refused
  inTime := hs.inTime
  delivered := hs.delivered

theorem Inv.setup (hs : Inv s) (hphase : s.phase = .start) (r : Setup) :
    Inv (s.setup r) := by
  obtain ⟨hpc, hraised⟩ := hs.start hphase
  have hidle : s.heart.pc.active = false := by rw [hpc]; rfl
  have hquiet : ¬ (s.heart.fatal_event_raised = true ∨ s.heart.pc = .halted) := by
    rw [hraised, hpc]
    decide
  cases r with
  | failed =>
    exact ⟨hs.heart, fun h => (by cases hidle.symm.trans h), nofun, fun _ => hidle,
      fun h => absurd h hquiet, fun h => absurd (.inl h) hquiet, hs.refused, hs.inTime,
      hs.delivered⟩
  | compat =>
    exact ⟨hs.heart, fun h => (by cases hidle.symm.trans h), nofun, fun _ => hidle,
      fun h => absurd h hquiet, fun h => absurd (.inl h) hquiet, hs.refused, hs.inTime,
      hs.delivered⟩
  | ok =>
    refine ⟨hs.heart.goto nofun rfl, fun _ => ⟨rfl, rfl⟩, nofun, ?_, ?_, fun h => ?_, hs.refused,
      hs.inTime, hs.delivered⟩
    · rintro (⟨_, h⟩ | h) <;> cases h
    · rintro (h | h)
      · exact absurd (.inl h) hquiet
      · cases h
    · exact absurd (.inl h) hquiet

variable {s s' : Device}

theorem Inv.probe (hs : Inv s) {ok : Bool} (hok : Ok s (.probe ok))
    (h : s.probe ok = some s') : Inv s' := by
  have hok' : s.heart.fatal_event_raised = true → _ := fun hr => hok (hs.heart.raised_iff.mpr hr)
  have hnext : ∀ phase, s.phase ≠ .start → s.phase ≠ .closed → phase ≠ .start →
      (∀ removal, phase ≠ .stopped removal) → phase ≠ .closed → Inv (s.next phase) :=
    fun phase hstart hclosed hphase hstopped hphase' =>
      hs.proceed hstart hphase (fun h => h.elim (fun ⟨r, h⟩ => absurd h (hstopped r))
        fun h => absurd h hphase') hclosed fun _ _ => rfl
  unfold Device.probe at h
  split at h
  · next hphase =>
    obtain rfl := Option.some.inj h
    exact hnext _ (by rw [hphase]; nofun) (by rw [hphase]; nofun) nofun nofun nofun
  · next hphase =>
    split_ifs at h with hpf0 hdiscover
    · obtain rfl := Option.some.inj h
      exact hnext _ (by rw [hphase]; nofun) (by rw [hphase]; nofun) nofun nofun nofun
    · obtain rfl := Option.some.inj h
      refine hs.proceed (by rw [hphase]; nofun) nofun ?_ (by rw [hphase]; nofun) fun hr => ?_
      · rintro (⟨_, h⟩ | h) <;> cases h
      · exact absurd ((hok' hr).1 hphase hpf0) hdiscover
    · obtain rfl := Option.some.inj h
      exact hnext _ (by rw [hphase]; nofun) (by rw [hphase]; nofun) nofun nofun nofun
  · next hphase =>
    obtain rfl := Option.some.inj h
    split_ifs
    · exact hnext _ (by rw [hphase]; nofun) (by rw [hphase]; nofun) nofun nofun nofun
    · exact hnext _ (by rw [hphase]; nofun) (by rw [hphase]; nofun) nofun nofun nofun
  · next hphase =>
    obtain rfl := Option.some.inj h
    split_ifs
    · exact hnext _ (by rw [hphase]; nofun) (by rw [hphase]; nofun) nofun nofun nofun
    · exact hnext _ (by rw [hphase]; nofun) (by rw [hphase]; nofun) nofun nofun nofun
  · next hphase =>
    obtain rfl := Option.some.inj h
    split_ifs
    · exact hnext _ (by rw [hphase]; nofun) (by rw [hphase]; nofun) nofun nofun nofun
    · exact hnext _ (by rw [hphase]; nofun) (by rw [hphase]; nofun) nofun nofun nofun
  · next hphase =>
    obtain rfl := Option.some.inj h
    exact hnext _ (by rw [hphase]; nofun) (by rw [hphase]; nofun) nofun nofun nofun
  · next hphase =>
    obtain rfl := Option.some.inj h
    refine hs.proceed (by rw [hphase]; nofun) nofun ?_ (by rw [hphase]; nofun) fun hr => ?_
    · rintro (⟨_, h⟩ | h) <;> cases h
    · exact absurd hphase (hok' hr).2
  · next hphase =>
    obtain rfl := Option.some.inj h
    exact hnext _ (by rw [hphase]; nofun) (by rw [hphase]; nofun) nofun nofun nofun
  · cases h

theorem Inv.shutdown (hs : Inv s) (h : s.shutdown = some s') : Inv s' := by
  unfold Device.shutdown at h
  split at h
  · next removal hphase =>
    split_ifs at h with hctxt
    · obtain rfl := Option.some.inj h
      refine hs.proceed (by rw [hphase]; nofun) nofun ?_ (by rw [hphase]; nofun) fun _ _ => rfl
      rintro (⟨_, h⟩ | h) <;> cases h
    · obtain rfl := Option.some.inj h
      refine hs.proceed (by rw [hphase]; nofun) nofun (fun _ => ?_) (by rw [hphase]; nofun)
        fun _ hne => absurd rfl hne
      by_contra hactive
      exact hctxt (hs.alive (by simpa using hactive)).1
  · next removal hphase =>
    split_ifs at h with hactive
    obtain rfl := Option.some.inj h
    have hidle : s.heart.pc.active = false := by simpa using hactive
    exact ⟨hs.heart, hs.alive, nofun, fun _ => hidle, fun _ _ => rfl,
      fun hr _ => hs.state hr (by rw [hphase]; nofun), hs.refused, hs.inTime, hs.delivered⟩
  · next removal hphase =>
    obtain rfl := Option.some.inj h
    have hidle := hs.ended (.inl ⟨removal, hphase⟩)
    exact ⟨hs.heart, fun h => (by cases hidle.symm.trans h), nofun, fun _ => hidle, nofun,
      fun _ hne => absurd rfl hne, hs.refused, hs.inTime, hs.delivered⟩
  · cases h

theorem Inv.submit (hs : Inv s) : Inv s.submit := by
  unfold Device.submit
  split_ifs with h
  · obtain ⟨hctxt, hhalted⟩ := h
    have hfatals : s.heart.fatals = 0 := by
      by_contra hf
      have := hs.halted (.inl (hs.heart.raised_iff.mp hf)) hctxt
      cases this.symm.trans hhalted
    refine ⟨hs.heart, hs.alive, hs.start, hs.ended, hs.halted, hs.state, ?_, hs.inTime,
      hs.delivered⟩
    change (s.acceptedLate || decide (s.heart.fatals ≠ 0)) = false
    rw [hs.refused, hfatals]
    rfl
  · exact hs

/-! ### Runs -/

/-- **One step** after which the supervision is right. -/
theorem Inv.step {a : Action} (hs : Inv s) (hok : Ok s a)
    (h : Heartbeat.step s a = some s') : Inv s' := by
  cases a with
  | setup r =>
    simp only [Heartbeat.step] at h
    split_ifs at h with hphase
    obtain rfl := Option.some.inj h
    exact hs.setup hphase r
  | probe ok => exact hs.probe hok h
  | remove =>
    simp only [Heartbeat.step] at h
    split_ifs at h with hphase
    obtain rfl := Option.some.inj h
    refine hs.proceed (by rw [hphase]; nofun) nofun ?_ (by rw [hphase]; nofun) fun _ _ => rfl
    rintro (⟨_, h⟩ | h) <;> cases h
  | shutdown => exact hs.shutdown h
  | begin =>
    simp only [Heartbeat.step] at h
    split_ifs at h with hpc hstop
    · obtain rfl := Option.some.inj h
      exact hs.goto (by rw [hpc]; rfl) nofun rfl
    · obtain rfl := Option.some.inj h
      exact hs.goto (by rw [hpc]; rfl) nofun rfl
  | beat =>
    simp only [Heartbeat.step] at h
    split_ifs at h with hpc
    obtain rfl := Option.some.inj h
    exact hs.beat hpc.1 hpc.2.1 hpc.2.2
  | answer response_id =>
    simp only [Heartbeat.step] at h
    split_ifs at h with hpc
    obtain rfl := Option.some.inj h
    exact hs.answer hpc response_id
  | fatal =>
    simp only [Heartbeat.step] at h
    split_ifs at h with hpc
    obtain rfl := Option.some.inj h
    rw [hs.deliver_eq (by rw [hpc.1]; rfl)]
    exact hs.fatal hpc.1 hpc.2.1 hpc.2.2
  | halt =>
    simp only [Heartbeat.step] at h
    split_ifs at h with hpc
    obtain rfl := Option.some.inj h
    exact hs.halt hpc
  | noAmc =>
    simp only [Heartbeat.step] at h
    split_ifs at h with hpc
    obtain rfl := Option.some.inj h
    exact hs.noAmc hpc
  | skip =>
    simp only [Heartbeat.step] at h
    split_ifs at h with hpc
    obtain rfl := Option.some.inj h
    exact hs.goto (by rw [hpc.1]; rfl) nofun rfl
  | wake =>
    simp only [Heartbeat.step] at h
    split_ifs at h with hpc hstop
    · obtain rfl := Option.some.inj h
      exact hs.goto (by rw [hpc]; rfl) nofun rfl
    · obtain rfl := Option.some.inj h
      exact hs.goto (by rw [hpc]; rfl) nofun rfl
  | submit =>
    obtain rfl := Option.some.inj h
    exact hs.submit

/-- **Heartbeat supervision.** In a run in which the probe does not write the state after the fatal
event, the event is raised once and in time, and its effects last until the shutdown. -/
theorem heartbeat_supervision (pf0 : Bool) {s : Device}
    (h : Reaches Heartbeat.step Ok (Device.start pf0) s) : Supervised s :=
  (h.invariant Inv (inv_start pf0) fun _ _ _ hs hok hstep => hs.step hok hstep).supervised

/-- Three heartbeats in a row fail and the fatal event is raised. -/
def fatalEvent : List Action :=
  [.beat, .answer none, .wake, .beat, .answer (some 7), .wake, .beat, .answer none, .wake, .fatal,
    .halt, .noAmc]

/-- A device is probed, loses its firmware and is removed. -/
def lostFirmware : List Action :=
  [.setup .ok, .begin, .beat, .probe true, .probe true, .answer (some 0), .wake, .probe true,
    .probe true, .probe true, .probe true, .probe true, .submit] ++ fatalEvent ++
    [.submit, .remove, .shutdown, .wake, .shutdown, .shutdown]

theorem heartbeat_supervision_lost :
    ∃ s : Device, s.heart.fatals = 1 ∧ s.phase = .closed ∧ Supervised s := by
  have hrun : (run (guarded Heartbeat.step Ok) (Device.start true) lostFirmware).any
      (fun s => decide (s.heart.fatals = 1 ∧ s.phase = .closed)) = true := by decide +kernel
  obtain ⟨s, hs, hq⟩ := (Option.any_eq_true _ _).mp hrun
  obtain ⟨hfatals, hphase⟩ := of_decide_eq_true hq
  exact ⟨s, hfatals, hphase, heartbeat_supervision true (.of_guarded_run _ .start hs)⟩

/-- The firmware is lost while the sensors are discovered: the failed discovery overwrites the
state. -/
theorem failed_discovery_overwrites_state :
    ¬ ∀ s : Device, Reaches Heartbeat.step always (Device.start true) s → Supervised s := by
  intro h
  have hrun : (run Heartbeat.step (Device.start true)
      ([.setup .ok, .begin, .probe true] ++ fatalEvent ++ [.probe false])).any
      (fun s => decide (s.heart.fatals ≠ 0 ∧ s.phase ≠ .closed ∧ s.state ≠ .NO_AMC)) = true := by
    decide +kernel
  obtain ⟨s, hs, hq⟩ := (Option.any_eq_true _ _).mp hrun
  obtain ⟨hfatals, hphase, hstate⟩ := of_decide_eq_true hq
  exact hstate ((h s (.of_run hs)).state hfatals hphase)

end Amr.Host.Heartbeat
