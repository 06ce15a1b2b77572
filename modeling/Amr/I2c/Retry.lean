/-
# When a retried transfer is reported rightly

What an attempt does to the variables of a call is said once, by `attempt_effect`: which attempts
begin a transfer, which complete one, which call for a re-initialisation, and which leave the bus
disabled. From this follows what a call needs: `iI2C_Recv` never returns while the bus is disabled,
since it counts only the attempts made on an enabled bus; none of the functions enables the bus at
its start, so that a disabled bus is never reached again; and a failed re-initialisation is not
forgotten by the attempt that completes a transfer, which is then followed by another.
-/
import Amr.I2c.Driver

namespace Amr.I2c

variable {f : Fn} {a : Attempt} {s s' : Loop} {n k m : ℕ}

/-! ### What an attempt comes to -/

def reinit_ok (a : Attempt) : Bool := a.cfg_initialize && a.set_sclk

/-- A transfer is begun: the mutex is taken and the bus idle. -/
def begins (f : Fn) (a : Attempt) : Bool :=
  match f with
  | .send | .recv => a.mutex_take && iWaitForBusIdle a.wait
  | .send_recv => a.mutex_take && a.set_options && iWaitForBusIdle a.wait

/-- The transfer that is begun is completed. -/
def completes (f : Fn) (a : Attempt) : Bool :=
  begins f a &&
    match f with
    | .send => a.send
    | .recv => a.recv
    | .send_recv => a.send && a.clear_options && a.recv && iWaitForBusIdle a.wait_after

/-- The transfer that is begun fails on the bus, which is disabled for it. -/
def disables (f : Fn) (a : Attempt) : Bool :=
  begins f a &&
    match f with
    | .send => !a.send
    | .recv => !a.recv
    | .send_recv => !a.send || a.clear_options && !a.recv

/-- A re-initialisation is called for: the bus is not idle, or a transfer fails on it. -/
def recovers (f : Fn) (a : Attempt) : Bool :=
  disables f a ||
    match f with
    | .send | .recv => a.mutex_take && !iWaitForBusIdle a.wait
    | .send_recv =>
      a.mutex_take && a.set_options && (!iWaitForBusIdle a.wait ||
        a.send && a.clear_options && a.recv && !iWaitForBusIdle a.wait_after)

def loses (f : Fn) (a : Attempt) : Bool := disables f a && !reinit_ok a

/-- What an attempt with the mutex taken does to the variables, on a bus that is enabled. -/
structure Effect (f : Fn) (a : Attempt) (s s' : Loop) : Prop where
  attempts : s'.attempts = s.attempts + 1
  held : s'.held = !a.mutex_release
  transfers : s'.transfers = s.transfers ++ if begins f a then [completes f a] else []
  status : s'.iStatus = (a.mutex_release && (s.iStatus || completes f a))
  reinit : s'.iReInitStatus = if recovers f a then reinit_ok a else s.iReInitStatus
  enabled : s'.iI2cEnabled = !loses f a
  through : (s'.iI2cStatus && s'.iWaitBusIdleStatus) = completes f a

theorem iI2C_ReInit_eq (a : Attempt) (s : Loop) : iI2C_ReInit a s =
    { s with
      iI2cEnabled := reinit_ok a || s.iI2cEnabled
      iReInitStatus := reinit_ok a } := by
  rw [iI2C_ReInit, reinit_ok]
  cases a.cfg_initialize <;> cases a.set_sclk <;> rfl

theorem release_eq (a : Attempt) (s : Loop) : release a s =
    { s with
      held := !a.mutex_release && s.held
      iStatus := a.mutex_release && s.iStatus } := by
  rw [release]
  cases a.mutex_release <;> rfl

/-- **What an attempt does**, with the mutex taken. -/
theorem attempt_effect (htake : a.mutex_take = true) (hs : s.iI2cEnabled = true) :
    Effect f a s (attempt f a s) := by
  have hattempt : attempt f a s = release a (match f with
      | .send => polled a.send a { s with attempts := s.attempts + 1, held := true }
      | .recv => polled a.recv a { s with attempts := s.attempts + 1, held := true }
      | .send_recv => send_recv a { s with attempts := s.attempts + 1, held := true }) := by
    unfold attempt
    exact (if_pos htake).trans (by cases f <;> rfl)
  rw [hattempt, release_eq]
  cases f with
  | send =>
    cases hwait : iWaitForBusIdle a.wait <;> cases hsend : a.send <;>
      constructor <;>
      simp [polled, fail_transfer, iI2C_ReInit_eq, begins, completes, disables, recovers, loses,
        hwait, hsend, htake, hs]
  | recv =>
    cases hwait : iWaitForBusIdle a.wait <;> cases hrecv : a.recv <;>
      constructor <;>
      simp [polled, fail_transfer, iI2C_ReInit_eq, begins, completes, disables, recovers, loses,
        hwait, hrecv, htake, hs]
  | send_recv =>
    cases hset : a.set_options <;> cases hwait : iWaitForBusIdle a.wait <;>
      cases hsend : a.send <;> cases hclear : a.clear_options <;> cases hrecv : a.recv <;>
      cases hafter : iWaitForBusIdle a.wait_after <;>
      constructor <;>
      simp [send_recv, fail_transfer, iI2C_ReInit_eq, begins, completes, disables, recovers, loses,
        hset, hwait, hsend, hclear, hrecv, hafter, htake, hs]

theorem attempt_untaken (htake : a.mutex_take = false) :
    attempt f a s = { s with attempts := s.attempts + 1 } := by
  rw [attempt, if_neg (by rw [htake]; exact Bool.false_ne_true)]

theorem begins_of_untaken (htake : a.mutex_take = false) : begins f a = false := by
  cases f <;> simp [begins, htake]

theorem completes_of_not_begins (h : begins f a = false) : completes f a = false := by
  cases f <;> simp [completes, h]

theorem loses_of_not_begins (h : begins f a = false) : loses f a = false := by
  cases f <;> simp [loses, disables, h]

theorem loses_of_completes (h : completes f a = true) : loses f a = false := by
  cases f <;> simp_all [completes, loses, disables]

theorem recovers_of_completes (h : completes f a = true) : recovers f a = false := by
  cases f <;> simp_all [completes, begins, recovers, disables]

/-! ### The loop -/

variable {as : ℕ → Attempt} {P : Loop → Prop}

/-- The loop is left, with `k` attempts made before, in a state with `P`. -/
def Finishes (f : Fn) (n : ℕ) (as : ℕ → Attempt) (k : ℕ) (s : Loop) (P : Loop → Prop) : Prop :=
  ∃ rounds s', retry f n as rounds k s = some s' ∧ P s'

theorem retry_unique {rounds rounds' : ℕ} {t t' : Loop} (h : retry f n as rounds k s = some t)
    (h' : retry f n as rounds' k s = some t') : t = t' := by
  induction rounds generalizing rounds' k s with
  | zero => cases h
  | succ rounds ih =>
    cases rounds' with
    | zero => cases h'
    | succ rounds' =>
      rw [retry] at h h'
      split at h
      · rename_i hactive
        rw [if_pos hactive] at h'
        split at h
        · rename_i henabled
          rw [if_pos henabled] at h'
          exact ih h h'
        · rename_i henabled
          rw [if_neg henabled] at h'
          exact ih h h'
      · rename_i hactive
        rw [if_neg hactive] at h'
        exact Option.some.inj (h.symm.trans h')

theorem finishes_iff_of_left (h : s.active = false ∨ n ≤ k) : Finishes f n as k s P ↔ P s := by
  have hnot : ¬ (s.active && decide (k < n)) = true := by
    rcases h with h | h
    · rw [h]
      exact Bool.false_ne_true
    · rw [decide_eq_false (not_lt.mpr h), Bool.and_false]
      exact Bool.false_ne_true
  constructor
  · rintro ⟨rounds, s', hrun, hP⟩
    cases rounds with
    | zero => cases hrun
    | succ rounds =>
      rw [retry, if_neg hnot] at hrun
      obtain rfl := Option.some.inj hrun
      exact hP
  · intro hP
    exact ⟨1, s, by rw [retry, if_neg hnot], hP⟩

theorem finishes_iff_of_round {k' : ℕ} {t : Loop}
    (h : ∀ rounds, retry f n as (rounds + 1) k s = retry f n as rounds k' t) :
    Finishes f n as k s P ↔ Finishes f n as k' t P := by
  constructor
  · rintro ⟨rounds, s', hrun, hP⟩
    cases rounds with
    | zero => cases hrun
    | succ rounds => exact ⟨rounds, s', (h rounds).symm.trans hrun, hP⟩
  · rintro ⟨rounds, s', hrun, hP⟩
    exact ⟨rounds + 1, s', (h rounds).trans hrun, hP⟩

theorem finishes_iff_attempt (hactive : s.active = true) (hk : k < n)
    (henabled : s.iI2cEnabled = true) :
    Finishes f n as k s P ↔ Finishes f n as (k + 1) (attempt f (as k) s) P := by
  refine finishes_iff_of_round fun rounds => ?_
  rw [retry, if_pos (by rw [hactive, decide_eq_true hk]; rfl), if_pos henabled]

theorem not_finishes_recv (hactive : s.active = true) (hk : k < n)
    (henabled : s.iI2cEnabled = false) : ¬ Finishes .recv n as k s P := by
  rintro ⟨rounds, s', hrun, -⟩
  induction rounds with
  | zero => cases hrun
  | succ rounds ih =>
    rw [retry, if_pos (by rw [hactive, decide_eq_true hk]; rfl),
      if_neg (by rw [henabled]; exact Bool.false_ne_true), if_pos rfl] at hrun
    exact ih hrun

theorem finishes_iff_of_disabled (hf : f ≠ .recv) (henabled : s.iI2cEnabled = false) :
    Finishes f n as k s P ↔ P s := by
  by_cases hactive : s.active = true
  · induction hm : n - k generalizing k with
    | zero => exact finishes_iff_of_left (.inr (by omega))
    | succ m ih =>
      have hround : Finishes f n as k s P ↔ Finishes f n as (k + 1) s P := by
        refine finishes_iff_of_round fun rounds => ?_
        rw [retry, if_pos (by rw [hactive, decide_eq_true (by omega)]; rfl),
          if_neg (by rw [henabled]; exact Bool.false_ne_true), if_neg hf]
      exact hround.trans (ih (by omega))
  · exact finishes_iff_of_left (.inl (Bool.eq_false_iff.mpr hactive))

theorem transfers_prefix_retry {rounds : ℕ} (h : retry f n as rounds k s = some s') :
    s.transfers <+: s'.transfers := by
  induction rounds generalizing k s with
  | zero => cases h
  | succ rounds ih =>
    rw [retry] at h
    split at h
    · split at h
      · rename_i henabled
        refine List.IsPrefix.trans ?_ (ih h)
        cases htake : (as k).mutex_take with
        | false => rw [attempt_untaken htake]
        | true => exact ⟨_, (attempt_effect htake henabled).transfers.symm⟩
      · exact ih h
    · obtain rfl := Option.some.inj h
      exact List.prefix_rfl

/-! ### What a call should come to -/

/-- **What the end of a call should be**: no more attempts than configured, success reported exactly
if the transfer that was begun last was completed, none begun after one was completed, and the mutex
free. -/
structure Outcome (n : ℕ) (s : Loop) : Prop where
  bounded : s.attempts ≤ n
  reported : s.iStatus = true ↔ s.transfers.getLast? = some true
  stops : ∀ b ∈ s.transfers.dropLast, b = false
  released : s.held = false

/-- The attempts from the `k`-th on, `m` of them, begin no transfer, and release the mutex. -/
def Quiet (f : Fn) (as : ℕ → Attempt) (k m : ℕ) : Prop :=
  ∀ i, k ≤ i → i < k + m →
    begins f (as i) = false ∧ ((as i).mutex_take = true → (as i).mutex_release = true)

/-- **What the answers to the attempts from the `k`-th on, `m` of them, must be** for a call on an
enabled bus, where `reinit` says whether the last re-initialisation before them succeeded, and
`released` whether the mutex was released. Attempts that complete no transfer may come first. The
first one that does must release the mutex, and unless the last re-initialisation before it
succeeded, those behind it must begin no transfer and release the mutex. Where the bus is left
disabled, `iI2C_Recv` must have no attempt left. -/
def Smooth (f : Fn) (as : ℕ → Attempt) : ℕ → ℕ → Bool → Bool → Prop
  | 0, _, _, released => released = true
  | m + 1, k, reinit, released =>
    if (as k).mutex_take = false then Smooth f as m (k + 1) reinit released
    else if completes f (as k) = true then
      (as k).mutex_release = true ∧ (reinit = true ∨ Quiet f as (k + 1) m)
    else if loses f (as k) = true then (as k).mutex_release = true ∧ (f = .recv → m = 0)
    else
      Smooth f as m (k + 1) (if recovers f (as k) then reinit_ok (as k) else reinit)
        (as k).mutex_release

/-- No transfer has been completed, and the bus is enabled. -/
structure Trying (k : ℕ) (s : Loop) : Prop where
  enabled : s.iI2cEnabled = true
  failing : (s.iI2cStatus && s.iWaitBusIdleStatus) = false
  status : s.iStatus = false
  transfers : ∀ b ∈ s.transfers, b = false
  attempts : s.attempts ≤ k

/-- The transfer begun last was completed and no other, the bus is enabled, and the loop goes on. -/
structure GoingOn (k : ℕ) (s : Loop) : Prop where
  enabled : s.iI2cEnabled = true
  active : s.active = true
  last : s.transfers.getLast? = some true
  others : ∀ b ∈ s.transfers.dropLast, b = false
  held : s.iStatus = true → s.held = false
  attempts : s.attempts ≤ k

theorem active_of_failing (h : (s.iI2cStatus && s.iWaitBusIdleStatus) = false) :
    s.active = true := by
  rw [Loop.active, h]
  rfl

theorem getLast?_ne_of_forall {l : List Bool} (h : ∀ b ∈ l, b = false) :
    l.getLast? ≠ some true := fun hlast =>
  Bool.noConfusion (h true (List.mem_of_getLast? hlast))

theorem outcome_iff_of_failed (hstatus : s.iStatus = false) (htransfers : ∀ b ∈ s.transfers, b = false)
    (hattempts : s.attempts ≤ n) : Outcome n s ↔ s.held = false := by
  refine ⟨fun h => h.released, fun hheld => ⟨hattempts, ?_, fun b hb =>
    htransfers b (List.mem_of_mem_dropLast hb), hheld⟩⟩
  exact iff_of_false (by rw [hstatus]; exact Bool.false_ne_true) (getLast?_ne_of_forall htransfers)

theorem outcome_iff_of_completed (hlast : s.transfers.getLast? = some true)
    (hothers : ∀ b ∈ s.transfers.dropLast, b = false) (hheld : s.iStatus = true → s.held = false)
    (hattempts : s.attempts ≤ n) : Outcome n s ↔ s.iStatus = true :=
  ⟨fun h => h.reported.mpr hlast, fun hstatus =>
    ⟨hattempts, iff_of_true hstatus hlast, hothers, hheld hstatus⟩⟩

theorem not_outcome_of_prefix {l : List Bool} {b : Bool} (hlast : l.getLast? = some true)
    (h : l ++ [b] <+: s.transfers) : ¬ Outcome n s := by
  intro hout
  obtain ⟨t, ht⟩ := h
  have hmem : true ∈ s.transfers.dropLast := by
    rw [← ht, List.append_assoc, List.dropLast_append_of_ne_nil (by simp)]
    exact List.mem_append_left _ (List.mem_of_getLast? hlast)
  exact Bool.noConfusion (hout.stops true hmem)

theorem quiet_succ_iff : Quiet f as k (m + 1) ↔
    (begins f (as k) = false ∧ ((as k).mutex_take = true → (as k).mutex_release = true)) ∧
      Quiet f as (k + 1) m := by
  constructor
  · exact fun h => ⟨h k le_rfl (by omega), fun i hki him => h i (by omega) (by omega)⟩
  · rintro ⟨hk, hrest⟩ i hki him
    rcases Nat.eq_or_lt_of_le hki with rfl | hlt
    · exact hk
    · exact hrest i hlt (by omega)

/-- **Going on after a completed transfer** ends well exactly if nothing more is begun. -/
theorem goingOn_iff (hn : n = k + m) (hs : GoingOn k s) :
    Finishes f n as k s (Outcome n) ↔ s.iStatus = true ∧ Quiet f as k m := by
  induction m generalizing k s with
  | zero =>
    rw [finishes_iff_of_left (.inr (show n ≤ k from hn.le)),
      outcome_iff_of_completed hs.last hs.others hs.held (hs.attempts.trans (by omega))]
    exact ⟨fun h => ⟨h, fun i h₁ h₂ => absurd h₂ (by omega)⟩, fun h => h.1⟩
  | succ m ih =>
    rw [finishes_iff_attempt hs.active (by omega) hs.enabled, quiet_succ_iff]
    cases htake : (as k).mutex_take with
    | false =>
      have hnext : GoingOn (k + 1) { s with attempts := s.attempts + 1 } :=
        ⟨hs.enabled, hs.active, hs.last, hs.others, hs.held, Nat.succ_le_succ hs.attempts⟩
      rw [attempt_untaken htake, ih (by omega) hnext]
      simp [begins_of_untaken htake]
    | true =>
      have heffect := attempt_effect (f := f) htake hs.enabled
      cases hbegins : begins f (as k) with
      | true =>
        refine iff_of_false ?_ (fun h => Bool.noConfusion h.2.1.1)
        rintro ⟨rounds, s', hrun, hout⟩
        have hpre := transfers_prefix_retry hrun
        rw [heffect.transfers, hbegins] at hpre
        exact not_outcome_of_prefix hs.last hpre hout
      | false =>
        have htransfers := heffect.transfers
        rw [hbegins, if_neg Bool.false_ne_true, List.append_nil] at htransfers
        have hthrough := heffect.through
        rw [completes_of_not_begins hbegins] at hthrough
        have hstatus := heffect.status
        rw [completes_of_not_begins hbegins, Bool.or_false] at hstatus
        have hnext : GoingOn (k + 1) (attempt f (as k) s) := {
          enabled := by rw [heffect.enabled, loses_of_not_begins hbegins]; rfl
          active := active_of_failing hthrough
          last := by rw [htransfers]; exact hs.last
          others := by rw [htransfers]; exact hs.others
          held := by
            rw [hstatus, heffect.held, Bool.and_eq_true]
            exact fun h => by rw [h.1]; rfl
          attempts := by rw [heffect.attempts]; exact Nat.succ_le_succ hs.attempts }
        rw [ih (by omega) hnext, hstatus, Bool.and_eq_true]
        tauto

/-- **A call on an enabled bus** ends well exactly if the answers are smooth. -/
theorem trying_iff (hn : n = k + m) (hs : Trying k s) :
    Finishes f n as k s (Outcome n) ↔ Smooth f as m k s.iReInitStatus (!s.held) := by
  induction m generalizing k s with
  | zero =>
    rw [finishes_iff_of_left (.inr (show n ≤ k from hn.le)),
      outcome_iff_of_failed hs.status hs.transfers (hs.attempts.trans (by omega)), Smooth,
      Bool.not_eq_true']
  | succ m ih =>
    rw [finishes_iff_attempt (active_of_failing hs.failing) (by omega) hs.enabled, Smooth]
    cases htake : (as k).mutex_take with
    | false =>
      rw [attempt_untaken htake, if_pos rfl]
      exact ih (by omega)
        ⟨hs.enabled, hs.failing, hs.status, hs.transfers, Nat.succ_le_succ hs.attempts⟩
    | true =>
      have heffect := attempt_effect (f := f) htake hs.enabled
      have hattempts : (attempt f (as k) s).attempts ≤ k + 1 := by
        rw [heffect.attempts]
        exact Nat.succ_le_succ hs.attempts
      have hstatus := heffect.status
      rw [hs.status, Bool.false_or] at hstatus
      rw [if_neg (Bool.noConfusion : ¬ true = false)]
      cases hcompletes : completes f (as k) with
      | true =>
        have hbegins : begins f (as k) = true := by
          by_contra hnot
          rw [completes_of_not_begins (Bool.eq_false_iff.mpr hnot)] at hcompletes
          exact Bool.noConfusion hcompletes
        have htransfers := heffect.transfers
        rw [hbegins, if_pos rfl, hcompletes] at htransfers
        have hreinit := heffect.reinit
        rw [recovers_of_completes hcompletes, if_neg Bool.false_ne_true] at hreinit
        have hlast : (attempt f (as k) s).transfers.getLast? = some true := by
          rw [htransfers, List.getLast?_concat]
        have hothers : ∀ b ∈ (attempt f (as k) s).transfers.dropLast, b = false := by
          rw [htransfers, List.dropLast_concat]
          exact hs.transfers
        have hheld : (attempt f (as k) s).iStatus = true → (attempt f (as k) s).held = false := by
          rw [hstatus, hcompletes, Bool.and_true, heffect.held]
          exact fun h => by rw [h]; rfl
        rw [if_pos rfl]
        cases hreinit' : s.iReInitStatus with
        | true =>
          have hleft : (attempt f (as k) s).active = false := by
            rw [Loop.active, heffect.through, hcompletes, hreinit, hreinit']
            rfl
          rw [finishes_iff_of_left (.inl hleft),
            outcome_iff_of_completed hlast hothers hheld (hattempts.trans (by omega)), hstatus,
            hcompletes, Bool.and_true]
          simp
        | false =>
          have hgoing : GoingOn (k + 1) (attempt f (as k) s) := {
            enabled := by rw [heffect.enabled, loses_of_completes hcompletes]; rfl
            active := by rw [Loop.active, hreinit, hreinit', Bool.and_false]; rfl
            last := hlast
            others := hothers
            held := hheld
            attempts := hattempts }
          rw [goingOn_iff (show n = k + 1 + m by omega) hgoing, hstatus, hcompletes, Bool.and_true]
          simp
      | false =>
        have hthrough := heffect.through
        rw [hcompletes] at hthrough
        rw [hcompletes, Bool.and_false] at hstatus
        have htransfers : ∀ b ∈ (attempt f (as k) s).transfers, b = false := by
          rw [heffect.transfers, hcompletes]
          intro b hb
          rcases List.mem_append.mp hb with hb | hb
          · exact hs.transfers b hb
          · split at hb
            · exact List.mem_singleton.mp hb
            · cases hb
        have houtcome := outcome_iff_of_failed hstatus htransfers (hattempts.trans (show k + 1 ≤ n by omega))
        rw [heffect.held, Bool.not_eq_false'] at houtcome
        rw [if_neg Bool.false_ne_true]
        cases hloses : loses f (as k) with
        | true =>
          have hdisabled : (attempt f (as k) s).iI2cEnabled = false := by
            rw [heffect.enabled, hloses]
            rfl
          rw [if_pos rfl]
          by_cases hf : f = .recv
          · subst hf
            cases m with
            | zero =>
              rw [finishes_iff_of_left (.inr hn.le), houtcome]
              simp
            | succ m =>
              have hnever : ¬ Finishes .recv n as (k + 1) (attempt .recv (as k) s) (Outcome n) :=
                not_finishes_recv (active_of_failing hthrough) (by omega) hdisabled
              simp [hnever]
          · rw [finishes_iff_of_disabled hf hdisabled, houtcome]
            simp [hf]
        | false =>
          rw [if_neg Bool.false_ne_true, ih (by omega) {
            enabled := by rw [heffect.enabled, hloses]; rfl
            failing := hthrough
            status := hstatus
            transfers := htransfers
            attempts := hattempts }, heffect.held, heffect.reinit, Bool.not_not]

/-! ### Calls -/

def works (a : Attempt) : Bool :=
  a.mutex_take && a.set_options && iWaitForBusIdle a.wait && a.send && a.clear_options && a.recv &&
    iWaitForBusIdle a.wait_after && reinit_ok a && a.mutex_release

/-- **What a call should do**: return, in the way it should, and reach the hardware if everything
works. -/
structure CallRight (n : ℕ) (c : Call) (enabled : Bool) : Prop where
  returns : ∃ rounds s, call n c enabled rounds = some s
  outcome : ∀ rounds s, call n c enabled rounds = some s → Outcome n s
  reaches : (∀ i, works (c.answers i) = true) →
    ∀ rounds s, call n c enabled rounds = some s → s.transfers ≠ []

/-- **When it does**: a call in which everything works finds the bus enabled, and attempts
configured; `iI2C_Recv` does so, or has none configured; and on an enabled bus the answers are
smooth. -/
structure CallSmooth (n : ℕ) (c : Call) (enabled : Bool) : Prop where
  works : (∀ i, works (c.answers i) = true) → enabled = true ∧ 0 < n
  recv : c.fn = .recv → enabled = true ∨ n = 0
  answers : enabled = true → Smooth c.fn c.answers n 0 true true

theorem enter_trying : Trying 0 (enter true) :=
  ⟨rfl, rfl, rfl, fun _ hb => absurd hb List.not_mem_nil, le_rfl⟩

variable {enabled : Bool}

theorem enter_outcome : Outcome n (enter enabled) :=
  ⟨Nat.zero_le n, iff_of_false Bool.false_ne_true nofun, fun _ hb => absurd hb List.not_mem_nil, rfl⟩

variable {c : Call}

theorem callRight_of_finishes (h : Finishes c.fn n c.answers 0 (enter enabled) (Outcome n))
    (hreach : (∀ i, works (c.answers i) = true) →
      Finishes c.fn n c.answers 0 (enter enabled) fun s => s.transfers ≠ []) :
    CallRight n c enabled where
  returns := by
    obtain ⟨rounds, s, hrun, -⟩ := h
    exact ⟨rounds, s, hrun⟩
  outcome rounds s hrun := by
    obtain ⟨rounds', s', hrun', hout⟩ := h
    rwa [retry_unique hrun hrun']
  reaches hworks rounds s hrun := by
    obtain ⟨rounds', s', hrun', hne⟩ := hreach hworks
    rwa [retry_unique hrun hrun']

theorem begins_of_works (h : works a = true) : begins f a = true := by
  simp only [works, Bool.and_eq_true] at h
  cases f <;> simp [begins, h]

theorem reaches_of_enabled {rounds : ℕ} (hn : 0 < n)
    (hworks : works (c.answers 0) = true) (hrun : call n c true rounds = some s) :
    s.transfers ≠ [] := by
  have hactive : (enter true).active = true := rfl
  have hattempt : Finishes c.fn n c.answers 1 (attempt c.fn (c.answers 0) (enter true)) (· = s) :=
    (finishes_iff_attempt hactive hn rfl).mp ⟨rounds, s, hrun, rfl⟩
  obtain ⟨rounds', s', hrun', rfl⟩ := hattempt
  have htake : (c.answers 0).mutex_take = true := by
    simp only [works, Bool.and_eq_true] at hworks
    exact hworks.1.1.1.1.1.1.1.1
  have htransfers := (attempt_effect (f := c.fn) (s := enter true) htake rfl).transfers
  rw [begins_of_works hworks, if_pos rfl] at htransfers
  intro hnil
  have hpre := transfers_prefix_retry hrun'
  rw [hnil, List.prefix_nil, htransfers] at hpre
  cases hpre

theorem callRight_enabled_iff : CallRight n c true ↔ CallSmooth n c true := by
  constructor
  · intro h
    refine ⟨fun hworks => ⟨rfl, Nat.pos_of_ne_zero ?_⟩, fun _ => .inl rfl, fun _ => ?_⟩
    · rintro rfl
      exact h.reaches hworks 1 (enter true) rfl rfl
    · obtain ⟨rounds, s, hrun⟩ := h.returns
      exact (trying_iff (Nat.zero_add n).symm enter_trying).mp
        ⟨rounds, s, hrun, h.outcome rounds s hrun⟩
  · intro h
    have hfinish := (trying_iff (Nat.zero_add n).symm enter_trying).mpr (h.answers rfl)
    refine callRight_of_finishes hfinish fun hworks => ?_
    obtain ⟨rounds, s, hrun, -⟩ := hfinish
    exact ⟨rounds, s, hrun, reaches_of_enabled (h.works hworks).2 (hworks 0) hrun⟩

theorem callRight_disabled_iff : CallRight n c false ↔ CallSmooth n c false := by
  have hactive : (enter false).active = true := rfl
  constructor
  · intro h
    refine ⟨fun hworks => ?_, fun hrecv => .inr ?_, fun h => Bool.noConfusion h⟩
    · obtain ⟨rounds, s, hrun⟩ := h.returns
      have hne := h.reaches hworks rounds s hrun
      have hfinish : Finishes c.fn n c.answers 0 (enter false) (fun s => s.transfers ≠ []) :=
        ⟨rounds, s, hrun, hne⟩
      by_cases hf : c.fn = .recv
      · rcases Nat.eq_zero_or_pos n with rfl | hn
        · exact absurd rfl ((finishes_iff_of_left (.inr le_rfl)).mp hfinish)
        · rw [hf] at hfinish
          exact absurd hfinish (not_finishes_recv hactive hn rfl)
      · exact absurd rfl ((finishes_iff_of_disabled hf rfl).mp hfinish)
    · by_contra hn
      obtain ⟨rounds, s, hrun⟩ := h.returns
      rw [call, hrecv] at hrun
      exact not_finishes_recv (P := fun _ => True) hactive (Nat.pos_of_ne_zero hn) rfl
        ⟨rounds, s, hrun, trivial⟩
  · intro h
    refine callRight_of_finishes ?_ fun hworks => Bool.noConfusion (h.works hworks).1
    by_cases hf : c.fn = .recv
    · have hn := (h.recv hf).resolve_left Bool.false_ne_true
      subst hn
      exact (finishes_iff_of_left (.inr le_rfl)).mpr enter_outcome
    · exact (finishes_iff_of_disabled hf rfl).mpr enter_outcome

theorem callRight_iff : CallRight n c enabled ↔ CallSmooth n c enabled := by
  cases enabled with
  | true => exact callRight_enabled_iff
  | false => exact callRight_disabled_iff

/-- All calls of a run are right, from a bus that is enabled or not. -/
def CallsRight (n : ℕ) : Bool → List Call → Prop
  | _, [] => True
  | enabled, c :: calls =>
    CallRight n c enabled ∧
      ∀ rounds s, call n c enabled rounds = some s → CallsRight n s.iI2cEnabled calls

/-- All calls of a run are smooth, each for the bus that it finds. -/
def CallsSmooth (n : ℕ) : Bool → List Call → Prop
  | _, [] => True
  | enabled, c :: calls =>
    CallSmooth n c enabled ∧
      ∀ rounds s, call n c enabled rounds = some s → CallsSmooth n s.iI2cEnabled calls

/-- **The calls of a run are right exactly if each is smooth.** -/
theorem i2c_calls_right_iff (n : ℕ) (enabled : Bool) (calls : List Call) :
    CallsRight n enabled calls ↔ CallsSmooth n enabled calls := by
  induction calls generalizing enabled with
  | nil => exact Iff.rfl
  | cons c calls ih =>
    exact and_congr callRight_iff
      (forall_congr' fun _ => forall_congr' fun _ => forall_congr' fun _ => ih _)

/-! ### A bus that is not reached again -/

def working : Attempt where
  mutex_take := true
  set_options := true
  wait := ⟨true, [false], false, true⟩
  send := true
  clear_options := true
  recv := true
  wait_after := ⟨true, [false], false, true⟩
  cfg_initialize := true
  set_sclk := true
  mutex_release := true

/-- The transfer fails, and the re-initialisation too. -/
def broken : Attempt := { working with send := false, cfg_initialize := false }

/-- **After a failed re-initialisation no call reaches the hardware.** -/
theorem not_i2c_calls_right :
    ¬ ∀ (n : ℕ) (enabled : Bool) (calls : List Call), CallsRight n enabled calls := by
  intro h
  have hcalls := h 3 true [⟨.send, fun _ => broken⟩, ⟨.send, fun _ => working⟩]
  have hsecond := (hcalls.2 4 _ rfl).1
  exact hsecond.reaches (fun _ => rfl) 4 _ rfl rfl

end Amr.I2c
