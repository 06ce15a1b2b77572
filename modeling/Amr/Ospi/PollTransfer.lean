/-
# Polled flash transfers and their time-out

`iPollTransferWithRetry` and `vTimerPollTimeoutCb` of `ospi.c`. The flag that the callback of the
timer sets belongs to the driver: it is reset when a first transfer has failed, and tested at the
end of every call. A call is what happens in its course: how the transfers, the start and the stop
of the timer go, and where the timer expires.
-/
import Mathlib

namespace Amr.Ospi

/-- The driver as far as its transfers use it: whether it is initialised, the abort flag, and
whether the one-shot timer is running. -/
structure Driver where
  iInitialised : Bool
  iAbortPollWait : Bool
  running : Bool
  deriving DecidableEq, Repr

/-- What happens in the course of a call. The timer expires in round `expiry.1` of the loop, after
the transfer of that round if `expiry.2` is set and before its end otherwise. A timer that is still
running from an earlier call may expire `early`, before the flag is reset or at any time of a call
that does not start it, or `late`, between the reset and the start. -/
structure Call where
  /-- The transfer succeeds at once. -/
  first : Bool
  early : Bool
  late : Bool
  /-- The timer is started without error. -/
  started : Bool
  /-- A start with an error leaves the timer running all the same. -/
  arms : Bool
  /-- It then expires before it is stopped. -/
  meanwhile : Bool
  /-- The transfer of each round of the loop succeeds. -/
  polls : ℕ → Bool
  expiry : ℕ × Bool
  /-- The timer is stopped without error. -/
  stopped : Bool

/-- The timer's own handle is the one it was created with. -/
def vTimerPollTimeoutCb (d : Driver) : Driver :=
  if d.iInitialised then { d with iAbortPollWait := true } else d

def Driver.expire (d : Driver) : Driver :=
  if d.running then { vTimerPollTimeoutCb d with running := false } else d

/-- The loop from round `k` on: the status of the last transfer, if the loop is left within the
rounds given. -/
def pollLoop (x : Call) : ℕ → ℕ → Driver → Option (Bool × Driver)
  | 0, _, _ => none
  | rounds + 1, k, d =>
    let d := if x.expiry = (k, false) then d.expire else d
    let d := if x.expiry = (k, true) then d.expire else d
    if x.polls k || d.iAbortPollWait then some (x.polls k, d) else pollLoop x rounds (k + 1) d

/-- The result, and the driver afterwards. A timer that was not stopped may expire after the stop
too; the call has then failed already. -/
def iPollTransferWithRetry (rounds : ℕ) (d : Driver) (x : Call) : Option (Bool × Driver) :=
  let d := if x.early then d.expire else d
  if x.first then some (!d.iAbortPollWait, d)
  else
    let d := { d with iAbortPollWait := false }
    let d := if x.late then d.expire else d
    let polled :=
      if x.started then pollLoop x rounds 0 { d with running := true }
      else
        let d := { d with running := d.running || x.arms }
        some (false, if x.meanwhile then d.expire else d)
    polled.map fun p =>
      let d := if x.stopped then { p.2 with running := false } else p.2
      (p.1 && x.stopped && !d.iAbortPollWait, d)

/-! ### What a call should do -/

/-- A transfer of the loop succeeds before the timer of the call expires. -/
def InTime (x : Call) : Prop :=
  ∃ k, x.polls k = true ∧ (k < x.expiry.1 ∨ k = x.expiry.1 ∧ x.expiry.2 = true)

/-- The call should report success: this looks at nothing but the call itself. -/
def Succeeds (x : Call) : Prop :=
  x.first = true ∨ x.started = true ∧ x.stopped = true ∧ InTime x

/-- The call ends, with the result that it should have. -/
def Right (d : Driver) (x : Call) : Prop :=
  ∃ rounds r, iPollTransferWithRetry rounds d x = some r ∧ (r.1 = true ↔ Succeeds x)

/-- An expiry of a timer that is still running from an earlier call sets the flag. -/
def Leftover (d : Driver) : Prop := d.running = true ∧ d.iInitialised = true

/-- When a call in this state of the driver is right. -/
def Holds (d : Driver) (x : Call) : Prop :=
  if x.first then d.iAbortPollWait = false ∧ ¬ (x.early = true ∧ Leftover d)
  else x.started = true →
    if d.iInitialised then x.stopped = true → InTime x →
      ¬ (x.late = true ∧ x.early = false ∧ Leftover d) ∧ ∃ k < x.expiry.1, x.polls k = true
    else (∃ k, x.polls k = true) ∧ (x.stopped = true → InTime x)

/-! ### The loop -/

section Loop

variable {x : Call} {d d' : Driver} {rounds k : ℕ} {ok : Bool}

theorem Driver.expire_of_running (hrun : d.running = true) (hinit : d.iInitialised = true) :
    d.expire = { d with iAbortPollWait := true, running := false } := by
  rw [Driver.expire, if_pos hrun, vTimerPollTimeoutCb, if_pos hinit]

theorem Driver.expire_flag (hinit : d.iInitialised = false) :
    d.expire.iAbortPollWait = d.iAbortPollWait ∧ d.expire.iInitialised = false := by
  unfold Driver.expire vTimerPollTimeoutCb
  rw [hinit]
  cases d.running <;> simp [hinit]

theorem pollLoop_expires (hrun : d.running = true) (hinit : d.iInitialised = true)
    (hk : x.expiry.1 = k) :
    pollLoop x (rounds + 1) k d
      = some (x.polls k, { d with iAbortPollWait := true, running := false }) := by
  have hexpire := Driver.expire_of_running hrun hinit
  unfold pollLoop
  cases hb : x.expiry.2 with
  | false =>
    have heq : x.expiry = (k, false) := Prod.ext hk hb
    have hne : x.expiry ≠ (k, true) := by rw [heq]; simp
    simp only [if_pos heq, if_neg hne, hexpire, Bool.or_true, if_true]
  | true =>
    have heq : x.expiry = (k, true) := Prod.ext hk hb
    have hne : x.expiry ≠ (k, false) := by rw [heq]; simp
    simp only [if_pos heq, if_neg hne, hexpire, Bool.or_true, if_true]

theorem pollLoop_ticks (hk : x.expiry.1 ≠ k) :
    pollLoop x (rounds + 1) k d
      = if x.polls k || d.iAbortPollWait then some (x.polls k, d)
        else pollLoop x rounds (k + 1) d := by
  have hne : ∀ b, x.expiry ≠ (k, b) := fun b h => hk (congrArg Prod.fst h)
  rw [pollLoop]
  simp only [if_neg (hne false), if_neg (hne true)]

/-- **The loop of an initialised driver** ends, with success and the flag down exactly if a transfer
succeeds in a round before the one in which the timer expires. -/
theorem pollLoop_initialised (hinit : d.iInitialised = true) (hrun : d.running = true)
    (hflag : d.iAbortPollWait = false) :
    ∀ n k, n + k = x.expiry.1 → ∃ r, pollLoop x (n + 1) k d = some r ∧
      ((r.1 = true ∧ r.2.iAbortPollWait = false) ↔
        ∃ j, k ≤ j ∧ j < x.expiry.1 ∧ x.polls j = true) := by
  intro n
  induction n with
  | zero =>
    intro k hk
    refine ⟨_, pollLoop_expires hrun hinit (by omega), ?_⟩
    refine iff_of_false (fun h => by cases h.2) ?_
    rintro ⟨j, hj, hlt, -⟩
    omega
  | succ n ih =>
    intro k hk
    rw [pollLoop_ticks (by omega), hflag, Bool.or_false]
    cases hpoll : x.polls k with
    | true =>
      exact ⟨_, rfl, iff_of_true ⟨rfl, hflag⟩ ⟨k, le_rfl, by omega, hpoll⟩⟩
    | false =>
      obtain ⟨r, hr, hiff⟩ := ih (k + 1) (by omega)
      refine ⟨r, hr, hiff.trans ⟨?_, ?_⟩⟩
      · rintro ⟨j, hj, hlt, hok⟩
        exact ⟨j, by omega, hlt, hok⟩
      · rintro ⟨j, hj, hlt, hok⟩
        have hne : j ≠ k := fun heq => by rw [heq, hpoll] at hok; cases hok
        exact ⟨j, by omega, hlt, hok⟩

theorem pollLoop_flagged (x : Call) (rounds k : ℕ) (hflag : d.iAbortPollWait = true) :
    ∃ d', pollLoop x (rounds + 1) k d = some (x.polls k, d') ∧ d'.iAbortPollWait = true := by
  have hexpire : ∀ d : Driver, d.iAbortPollWait = true → d.expire.iAbortPollWait = true := by
    intro d h
    unfold Driver.expire vTimerPollTimeoutCb
    split_ifs <;> simp [h]
  have hone : ∀ (p : Prop) [Decidable p] (d : Driver), d.iAbortPollWait = true →
      (if p then d.expire else d).iAbortPollWait = true := by
    intro p _ d h
    split_ifs
    · exact hexpire d h
    · exact h
  unfold pollLoop
  dsimp only
  rw [hone _ _ (hone _ _ hflag), Bool.or_true, if_pos rfl]
  exact ⟨_, rfl, hone _ _ (hone _ _ hflag)⟩

/-- **The loop of a driver that is not initialised** ends when a transfer succeeds, and only
then. -/
theorem pollLoop_uninitialised :
    ∀ {rounds k : ℕ} {d : Driver}, d.iInitialised = false → d.iAbortPollWait = false →
      ∀ r, pollLoop x rounds k d = some r →
        r.1 = true ∧ r.2.iAbortPollWait = false ∧ ∃ j, x.polls j = true := by
  intro rounds
  induction rounds with
  | zero => exact fun _ _ r hr => by cases hr
  | succ n ih =>
    intro k d hinit hflag r hr
    have hone : ∀ (p : Prop) [Decidable p] (d : Driver), d.iInitialised = false →
        d.iAbortPollWait = false → (if p then d.expire else d).iInitialised = false ∧
          (if p then d.expire else d).iAbortPollWait = false := by
      intro p _ d hinit hflag
      split_ifs
      · obtain ⟨hsame, hinit'⟩ := Driver.expire_flag hinit
        exact ⟨hinit', hsame.trans hflag⟩
      · exact ⟨hinit, hflag⟩
    obtain ⟨hinit₁, hflag₁⟩ := hone (x.expiry = (k, false)) d hinit hflag
    obtain ⟨hinit₂, hflag₂⟩ := hone (x.expiry = (k, true)) _ hinit₁ hflag₁
    unfold pollLoop at hr
    dsimp only at hr
    rw [hflag₂, Bool.or_false] at hr
    by_cases hpoll : x.polls k = true
    · rw [if_pos hpoll] at hr
      obtain rfl := Option.some.inj hr
      exact ⟨hpoll, hflag₂, k, hpoll⟩
    · rw [if_neg hpoll] at hr
      exact ih hinit₂ hflag₂ r hr

theorem exists_pollLoop_uninitialised {j : ℕ} (hj : x.polls j = true) :
    ∀ n k, n + k = j → ∀ d : Driver, ∃ r, pollLoop x (n + 1) k d = some r := by
  intro n
  induction n with
  | zero =>
    intro k hk d
    obtain rfl : k = j := by omega
    unfold pollLoop
    dsimp only
    rw [hj, Bool.true_or, if_pos rfl]
    exact ⟨_, rfl⟩
  | succ n ih =>
    intro k hk d
    rw [pollLoop]
    generalize (if x.expiry = (k, false) then d.expire else d) = d₁
    generalize (if x.expiry = (k, true) then d₁.expire else d₁) = d₂
    split_ifs
    · exact ⟨_, rfl⟩
    · exact ih (k + 1) (by omega) _

theorem pollLoop_mono {r : Bool × Driver} :
    ∀ {n m k : ℕ} {d : Driver}, n ≤ m → pollLoop x n k d = some r → pollLoop x m k d = some r := by
  intro n
  induction n with
  | zero => exact fun _ hr => by cases hr
  | succ n ih =>
    intro m k d hle hr
    obtain ⟨m, rfl⟩ : ∃ m', m = m' + 1 := ⟨m - 1, by omega⟩
    rw [pollLoop] at hr ⊢
    generalize (if x.expiry = (k, false) then d.expire else d) = d₁ at hr ⊢
    generalize (if x.expiry = (k, true) then d₁.expire else d₁) = d₂ at hr ⊢
    split_ifs at hr ⊢
    · exact hr
    · exact ih (by omega) hr

end Loop

/-! ### A call -/

section Calls

variable {x : Call} {d : Driver}

def atStart (d : Driver) (x : Call) : Driver :=
  let d := { if x.early then d.expire else d with iAbortPollWait := false }
  { if x.late then d.expire else d with running := true }

theorem iPollTransferWithRetry_started (rounds : ℕ) (hfirst : x.first = false)
    (hstart : x.started = true) :
    iPollTransferWithRetry rounds d x = (pollLoop x rounds 0 (atStart d x)).map fun p =>
      (p.1 && x.stopped && !p.2.iAbortPollWait,
        if x.stopped then { p.2 with running := false } else p.2) := by
  unfold iPollTransferWithRetry
  simp only [hfirst, hstart, Bool.false_eq_true, if_false, if_true]
  cases x.stopped <;> rfl

theorem atStart_flag : (atStart d x).iAbortPollWait = true ↔
    x.late = true ∧ x.early = false ∧ Leftover d := by
  unfold atStart Leftover Driver.expire vTimerPollTimeoutCb
  rcases d with ⟨init, flag, running⟩
  cases x.late <;> cases x.early <;> cases running <;> cases init <;> simp

theorem atStart_initialised : (atStart d x).iInitialised = d.iInitialised := by
  unfold atStart Driver.expire vTimerPollTimeoutCb
  rcases d with ⟨init, flag, running⟩
  cases x.late <;> cases x.early <;> cases running <;> cases init <;> rfl

theorem result_unique {n m : ℕ} {r r' : Bool × Driver} (h : iPollTransferWithRetry n d x = some r)
    (h' : iPollTransferWithRetry m d x = some r') : r = r' := by
  have hmono : ∀ {n m : ℕ} {r : Bool × Driver}, n ≤ m →
      iPollTransferWithRetry n d x = some r → iPollTransferWithRetry m d x = some r := by
    intro n m r hle h
    cases hfirst : x.first with
    | true =>
      unfold iPollTransferWithRetry at h ⊢
      simpa only [hfirst, if_true] using h
    | false =>
      cases hstart : x.started with
      | true =>
        rw [iPollTransferWithRetry_started _ hfirst hstart] at h ⊢
        obtain ⟨p, hp, rfl⟩ := Option.map_eq_some_iff.mp h
        rw [pollLoop_mono hle hp, Option.map_some]
      | false =>
        unfold iPollTransferWithRetry at h ⊢
        simpa only [hfirst, hstart, Bool.false_eq_true, if_false] using h
  exact Option.some.inj ((hmono (le_max_left n m) h).symm.trans (hmono (le_max_right n m) h'))

theorem right_iff_of_ends {rounds : ℕ} {r : Bool × Driver}
    (h : iPollTransferWithRetry rounds d x = some r) :
    Right d x ↔ (r.1 = true ↔ Succeeds x) := by
  constructor
  · rintro ⟨m, r', hr', hiff⟩
    rwa [result_unique h hr']
  · exact fun hiff => ⟨rounds, r, h, hiff⟩

theorem right_iff_first (hfirst : x.first = true) :
    Right d x ↔ d.iAbortPollWait = false ∧ ¬ (x.early = true ∧ Leftover d) := by
  have hrun : ∃ d', iPollTransferWithRetry 0 d x
      = some (!(if x.early then d.expire else d).iAbortPollWait, d') := by
    unfold iPollTransferWithRetry
    simp only [hfirst, if_true]
    exact ⟨_, rfl⟩
  obtain ⟨d', hd'⟩ := hrun
  rw [right_iff_of_ends hd']
  have hok : Succeeds x := .inl hfirst
  simp only [hok, iff_true]
  unfold Leftover Driver.expire vTimerPollTimeoutCb
  rcases d with ⟨init, flag, running⟩
  cases x.early <;> cases running <;> cases init <;> simp

theorem right_of_not_started (hfirst : x.first = false) (hstart : x.started = false) :
    Right d x := by
  have hrun : ∃ r, iPollTransferWithRetry 0 d x = some r ∧ r.1 = false := by
    unfold iPollTransferWithRetry
    simp only [hfirst, hstart, Bool.false_eq_true, if_false]
    exact ⟨_, rfl, rfl⟩
  obtain ⟨r, hr, hfail⟩ := hrun
  have hnot : ¬ Succeeds x := by simp [Succeeds, hfirst, hstart]
  exact (right_iff_of_ends hr).mpr (iff_of_false (by simp [hfail]) hnot)

theorem succeeds_iff (hfirst : x.first = false) (hstart : x.started = true) :
    Succeeds x ↔ x.stopped = true ∧ InTime x := by
  simp [Succeeds, hfirst, hstart]

/-- **The timer is started** by an initialised driver. -/
theorem right_iff_initialised (hfirst : x.first = false) (hstart : x.started = true)
    (hinit : d.iInitialised = true) :
    Right d x ↔ (x.stopped = true → InTime x →
      ¬ (x.late = true ∧ x.early = false ∧ Leftover d) ∧
        ∃ k < x.expiry.1, x.polls k = true) := by
  have hsucceeds := succeeds_iff hfirst hstart
  by_cases hflag : x.late = true ∧ x.early = false ∧ Leftover d
  · -- the loop is left at once
    obtain ⟨d', hd', hup⟩ :=
      pollLoop_flagged x 0 0 (atStart_flag.mpr hflag)
    have hend := iPollTransferWithRetry_started (d := d) 1 hfirst hstart
    rw [hd', Option.map_some, hup, Bool.not_true, Bool.and_false] at hend
    rw [right_iff_of_ends hend, hsucceeds]
    constructor
    · rintro hiff hstop hin
      exact absurd (hiff.mpr ⟨hstop, hin⟩) (by simp)
    · intro himp
      refine iff_of_false (by simp) fun hok => ?_
      exact (himp hok.1 hok.2).1 hflag
  · have hdown : (atStart d x).iAbortPollWait = false :=
      Bool.not_eq_true _ ▸ mt atStart_flag.mp hflag
    obtain ⟨p, hp, hloop⟩ := pollLoop_initialised (x := x) (atStart_initialised.trans hinit) rfl
      hdown x.expiry.1 0 (Nat.add_zero _)
    have hend := iPollTransferWithRetry_started (d := d) (x.expiry.1 + 1) hfirst hstart
    rw [hp, Option.map_some] at hend
    have hresult : (p.1 && x.stopped && !p.2.iAbortPollWait) = true ↔
        x.stopped = true ∧ ∃ k < x.expiry.1, x.polls k = true := by
      rw [Bool.and_eq_true, Bool.and_eq_true, Bool.not_eq_true', and_right_comm, hloop, and_comm]
      simp
    rw [right_iff_of_ends hend, hsucceeds, hresult]
    constructor
    · rintro hiff hstop hin
      exact ⟨hflag, (hiff.mpr ⟨hstop, hin⟩).2⟩
    · intro himp
      refine and_congr_right fun hstop => ⟨?_, fun hin => (himp hstop hin).2⟩
      rintro ⟨k, hk, hok⟩
      exact ⟨k, hok, .inl hk⟩

/-- **The timer is started** before the driver is initialised. -/
theorem right_iff_uninitialised (hfirst : x.first = false) (hstart : x.started = true)
    (hinit : d.iInitialised = false) :
    Right d x ↔ (∃ k, x.polls k = true) ∧ (x.stopped = true → InTime x) := by
  have hsucceeds := succeeds_iff hfirst hstart
  have hinit' : (atStart d x).iInitialised = false := atStart_initialised.trans hinit
  have hdown : (atStart d x).iAbortPollWait = false := by
    refine Bool.not_eq_true _ ▸ mt atStart_flag.mp fun hflag => ?_
    rw [Leftover, hinit] at hflag
    exact Bool.false_ne_true hflag.2.2.2
  by_cases hsome : ∃ k, x.polls k = true
  · obtain ⟨k, hk⟩ := hsome
    obtain ⟨p, hp⟩ := exists_pollLoop_uninitialised hk k 0 (Nat.add_zero k) (atStart d x)
    obtain ⟨hok, hlow, -⟩ := pollLoop_uninitialised hinit' hdown p hp
    have hend := iPollTransferWithRetry_started (d := d) (k + 1) hfirst hstart
    rw [hp, Option.map_some, hok, hlow, Bool.true_and, Bool.not_false, Bool.and_true] at hend
    rw [right_iff_of_ends hend, hsucceeds]
    constructor
    · exact fun hiff => ⟨⟨k, hk⟩, fun hstop => (hiff.mp hstop).2⟩
    · exact fun himp => ⟨fun hstop => ⟨hstop, himp.2 hstop⟩, fun h => h.1⟩
  · -- the loop is never left
    refine iff_of_false ?_ fun h => hsome h.1
    rintro ⟨rounds, r, hr, -⟩
    rw [iPollTransferWithRetry_started _ hfirst hstart] at hr
    obtain ⟨p, hp, -⟩ := Option.map_eq_some_iff.mp hr
    exact hsome (pollLoop_uninitialised hinit' hdown p hp).2.2

/-- **Exactly when a call is right.** -/
theorem right_iff (d : Driver) (x : Call) : Right d x ↔ Holds d x := by
  unfold Holds
  cases hfirst : x.first with
  | true =>
    rw [if_pos rfl]
    exact right_iff_first hfirst
  | false =>
    rw [if_neg Bool.false_ne_true]
    cases hstart : x.started with
    | false => exact iff_of_true (right_of_not_started hfirst hstart) nofun
    | true =>
      cases hinit : d.iInitialised with
      | true =>
        simpa using right_iff_initialised hfirst hstart hinit
      | false =>
        simpa using right_iff_uninitialised hfirst hstart hinit

end Calls

/-! ### Runs -/

/-- The calls, the expiries of a timer between them, and the end of the initialisation. -/
inductive Event
  | call (x : Call)
  | expiry
  | initialised

/-- What an event makes of the driver. A call that never ends leads nowhere. -/
inductive Step : Driver → Event → Driver → Prop
  | call {d : Driver} {x : Call} {r : Bool × Driver} (rounds : ℕ) :
      iPollTransferWithRetry rounds d x = some r → Step d (.call x) r.2
  | expiry (d : Driver) : Step d .expiry d.expire
  | initialised (d : Driver) : Step d .initialised { d with iInitialised := true }

inductive Runs : Driver → List Event → Driver → Prop
  | nil (d : Driver) : Runs d [] d
  | cons {d d' d'' : Driver} {e : Event} {events : List Event} :
      Step d e d' → Runs d' events d'' → Runs d (e :: events) d''

def fresh : Driver := ⟨false, false, false⟩

/-- Every call of the run meets `P` in the state in which it is made. -/
def EveryCall (P : Driver → Call → Prop) (events : List Event) : Prop :=
  ∀ before x after d, events = before ++ .call x :: after → Runs fresh before d → P d x

/-- **The calls of a run are right exactly if each meets the condition** in its state. -/
theorem calls_right_iff (events : List Event) :
    EveryCall Right events ↔ EveryCall Holds events := by
  constructor
  · exact fun hall before x after d heq hrun => (right_iff d x).mp (hall before x after d heq hrun)
  · exact fun hall before x after d heq hrun => (right_iff d x).mpr (hall before x after d heq hrun)

/-- No transfer succeeds, and the timer expires in the first round. -/
def timingOut : Call :=
  ⟨false, false, false, true, false, false, fun _ => false, (0, false), true⟩

def succeeding : Call := { timingOut with first := true }

/-- After a time-out a transfer that succeeds at once is reported as a failure. -/
theorem not_calls_right : ¬ ∀ events, EveryCall Right events := by
  intro hall
  have hruns : Runs fresh [.initialised, .call timingOut] ⟨true, true, false⟩ := by
    refine .cons (.initialised fresh) (.cons ?_ (.nil _))
    exact Step.call (r := (false, ⟨true, true, false⟩)) 1 (by decide)
  have hright := hall [.initialised, .call timingOut, .call succeeding] _ succeeding [] _ rfl hruns
  have hdown := ((right_iff_first rfl).mp hright).1
  cases hdown

end Amr.Ospi
