/-
# Health status is the worst seen

A handler compares and then writes, and the mutex is held for the write of the overall status only.
The overall status does not fall and the status of a module is that of its worst event in the runs
in which no task writes over a more severe status that another one, still to write, has not
compared with, in which a critical event finds the context status of its module at least as severe
as the overall status, and in which an event has an entry that `iHandleEvent` accepts.
-/
import Amr.Bim.Monitor

namespace Amr.Bim

open Transition

local instance instNeZeroTwo : NeZero 2 := ⟨by decide⟩

variable {n : ℕ}

namespace Handler

/-- The status that the handler is about to set as the overall status. -/
def target (h : Handler) : Option BIM_STATUS :=
  match h.stage with
  | .setOverall w => some w
  | _ => none

/-- The event was found more severe than the status of its module, which is still to be written. -/
def checked (h : Handler) : Bool :=
  match h.stage with
  | .checkOverall | .setOverall _ | .setModule => true
  | _ => false

/-- The handler may still write the status of its module. -/
def active (h : Handler) : Bool :=
  match h.stage with
  | .getState => false
  | _ => true

theorem active_of_checked {h : Handler} (hc : h.checked = true) : h.active = true := by
  rcases h with ⟨_, _, stage, _⟩
  cases stage <;> first | rfl | exact absurd hc (by simp [checked])

end Handler

namespace Monitor

/-- The severities that count for a module: the one its entry starts with and those of its events. -/
def history (table : AMC_CFG_UNIQUE_IDS → BIMModule) (s : Monitor n) (id : AMC_CFG_UNIQUE_IDS) :
    List BIM_STATUS :=
  (table id).xCurrentStatus :: s.raised id

/-- The current status of a module is the most severe of its history. -/
def Worst (table : AMC_CFG_UNIQUE_IDS → BIMModule) (s : Monitor n) (id : AMC_CFG_UNIQUE_IDS) :
    Prop :=
  (s.pxModuleData id).xCurrentStatus ∈ s.history table id ∧
    ∀ y ∈ s.history table id, y ≤ (s.pxModuleData id).xCurrentStatus

/-- No event of the module is being handled. -/
def Idle (s : Monitor n) (id : AMC_CFG_UNIQUE_IDS) : Prop :=
  ∀ t, ∀ h ∈ s.task t, h.id = id → h.active = false

/-- What is recorded is right: no entry past an event table was read or counted, and each module
whose events have been handled has the status of the worst of them. -/
def Truthful (table : AMC_CFG_UNIQUE_IDS → BIMModule) (s : Monitor n) : Prop :=
  s.stray = false ∧ ∀ id, s.Idle id → s.Worst table id

def count (s : Monitor n) (id : AMC_CFG_UNIQUE_IDS) (x : BIM_STATUS) : Monitor n :=
  { s with raised := Function.update s.raised id (x :: s.raised id) }

/-- No handler is about to set a less severe overall status than `v`. -/
def NoneBelow (s : Monitor n) (v : BIM_STATUS) : Prop :=
  ∀ t, ∀ h ∈ s.task t, ∀ w ∈ h.target, v ≤ w

/-- No handler that is about to write the status of `id` has a less severe event than `v`. -/
def NoneLesser (s : Monitor n) (id : AMC_CFG_UNIQUE_IDS) (v : BIM_STATUS) : Prop :=
  ∀ t, ∀ h ∈ s.task t, h.id = id → h.checked = true → v ≤ h.xContextStatus

instance (s : Monitor n) (id : AMC_CFG_UNIQUE_IDS) : Decidable (s.Idle id) := by
  unfold Idle; infer_instance

instance (table : AMC_CFG_UNIQUE_IDS → BIMModule) (s : Monitor n) (id : AMC_CFG_UNIQUE_IDS) :
    Decidable (s.Worst table id) := by
  unfold Worst; infer_instance

instance (table : AMC_CFG_UNIQUE_IDS → BIMModule) (s : Monitor n) :
    Decidable (s.Truthful table) := by
  unfold Truthful; infer_instance

instance (s : Monitor n) (v : BIM_STATUS) : Decidable (s.NoneBelow v) := by
  unfold NoneBelow; infer_instance

instance (s : Monitor n) (id : AMC_CFG_UNIQUE_IDS) (v : BIM_STATUS) :
    Decidable (s.NoneLesser id v) := by
  unfold NoneLesser; infer_instance

end Monitor

/-- The overall status is set from outside. -/
def Action.external : Action n → Bool
  | .iBIM_SetOverallHealthStatus .. => true
  | _ => false

open Monitor

/-- The steps in which compare and write agree. -/
def Ok (s : Monitor n) : Action n → Prop
  | .raise _ id pxSignal _ =>
    callback id pxSignal = true →
      ∃ e ∈ (s.pxModuleData id).pxEvents[pxSignal.ucEventType.toNat]?,
        s.accepts id e = true ∨ e.xContextStatus ≤ (s.pxModuleData id).xCurrentStatus
  | .checkOverall t =>
    ∀ h ∈ s.task t, s.xHealthStatus < h.xContextStatus → s.xHealthStatus ≤ s.overallFor h
  | .setOverall t taken _ => ∀ h ∈ s.task t, ∀ w ∈ h.target, taken = true → s.NoneBelow w
  | .setModule t => ∀ h ∈ s.task t, s.NoneLesser h.id h.xContextStatus
  | .iBIM_SetOverallHealthStatus xStatus taken _ => taken = true → s.NoneBelow xStatus
  | .checkModule _ | .getState .. => True

instance (s : Monitor n) (a : Action n) : Decidable (Ok s a) := by
  cases a <;> unfold Ok <;> infer_instance

/-! ### The invariant -/

/-- What holds of the monitor with its handlers under way. -/
structure Inv (table : AMC_CFG_UNIQUE_IDS → BIMModule) (s : Monitor n) : Prop where
  stray : s.stray = false
  /-- What is about to be set is no less severe than what is set. -/
  overall : s.NoneBelow s.xHealthStatus
  /-- A handler that is about to write found the status no more severe. -/
  module : ∀ id, s.NoneLesser id (s.pxModuleData id).xCurrentStatus
  /-- The event of a handler counts for its module. -/
  counted : ∀ t, ∀ h ∈ s.task t, h.active = true → h.xContextStatus ∈ s.raised h.id
  /-- The status of a module is one that counts for it. -/
  mem : ∀ id, (s.pxModuleData id).xCurrentStatus ∈ s.history table id
  /-- A severity that counts is reached by the status or still in the hands of a handler. -/
  reached : ∀ id, ∀ y ∈ s.history table id, y ≤ (s.pxModuleData id).xCurrentStatus ∨
    ∃ t, ∃ h ∈ s.task t, h.id = id ∧ h.active = true ∧ y = h.xContextStatus

variable {table : AMC_CFG_UNIQUE_IDS → BIMModule} {s s' : Monitor n}

theorem inv_start : Inv table (start table : Monitor n) where
  stray := rfl
  overall _ _ h := by simp [start] at h
  module _ _ _ h := by simp [start] at h
  counted _ _ h := by simp [start] at h
  mem _ := List.mem_cons_self
  reached _ y hy := by
    left
    simp only [history, start, List.mem_cons, List.not_mem_nil, or_false] at hy
    exact hy.le

theorem Inv.truthful (h : Inv table s) : s.Truthful table := by
  refine ⟨h.stray, fun id hidle => ⟨h.mem id, fun y hy => ?_⟩⟩
  rcases h.reached id y hy with hle | ⟨t, k, hk, rfl, hactive, -⟩
  · exact hle
  · rw [hidle t k hk rfl] at hactive
    exact absurd hactive (by simp)

theorem mem_setTask {t u : Fin n} {o : Option Handler} {k : Handler}
    (hk : k ∈ (s.setTask t o).task u) : (u = t ∧ k ∈ o) ∨ (u ≠ t ∧ k ∈ s.task u) := by
  by_cases hu : u = t
  · subst hu
    exact .inl ⟨rfl, by simpa [setTask] using hk⟩
  · exact .inr ⟨hu, by simpa [setTask, hu] using hk⟩

theorem Inv.move (h : Inv table s) {t : Fin n} {k k' : Handler} (ht : k ∈ s.task t)
    (hid : k'.id = k.id) (hctx : k'.xContextStatus = k.xContextStatus)
    (htarget : ∀ w ∈ k'.target, s.xHealthStatus ≤ w)
    (hchecked : k'.checked = true → (s.pxModuleData k.id).xCurrentStatus ≤ k.xContextStatus)
    (hback : k'.active = true → k.active = true)
    (hdone : k'.active = false → k.active = true →
      k.xContextStatus ≤ (s.pxModuleData k.id).xCurrentStatus) :
    Inv table (s.setTask t (some k')) where
  stray := h.stray
  overall u j hj w hw := by
    rcases mem_setTask hj with ⟨-, hj⟩ | ⟨-, hj⟩
    · obtain rfl : k' = j := by simpa using hj
      exact htarget w hw
    · exact h.overall u j hj w hw
  module id u j hj hj' hc := by
    rcases mem_setTask hj with ⟨-, hj⟩ | ⟨-, hj⟩
    · obtain rfl : k' = j := by simpa using hj
      subst hj'
      rw [hctx, hid]
      exact hchecked hc
    · exact h.module id u j hj hj' hc
  counted u j hj ha := by
    rcases mem_setTask hj with ⟨-, hj⟩ | ⟨-, hj⟩
    · obtain rfl : k' = j := by simpa using hj
      rw [hctx, hid]
      exact h.counted t k ht (hback ha)
    · exact h.counted u j hj ha
  mem := h.mem
  reached id y hy := by
    rcases h.reached id y hy with hle | ⟨u, j, hj, hj', ha, hy'⟩
    · exact .inl hle
    · by_cases hu : u = t
      · subst hu
        obtain rfl : j = k := Option.mem_unique hj ht
        by_cases hk' : k'.active = true
        · exact .inr ⟨u, k', by simp [setTask], hid.trans hj', hk', by rw [hctx]; exact hy'⟩
        · left
          rw [hy', ← hj']
          exact hdone (by simpa using hk') ha
      · exact .inr ⟨u, j, by simpa [setTask, hu] using hj, hj', ha, hy'⟩

theorem Inv.setHealth (h : Inv table s) {v : BIM_STATUS} {taken : Bool}
    (hv : taken = true → s.NoneBelow v) : Inv table (s.setHealth v taken) := by
  cases taken
  · exact h
  · exact ⟨h.stray, hv rfl, h.module, h.counted, h.mem, h.reached⟩

theorem Inv.count (h : Inv table s) (id : AMC_CFG_UNIQUE_IDS) (ucEventType : UInt8) :
    Inv table (s.setModule id ((s.pxModuleData id).count ucEventType)) := by
  have hcur : ∀ j, ((s.setModule id ((s.pxModuleData id).count ucEventType)).pxModuleData
      j).xCurrentStatus = (s.pxModuleData j).xCurrentStatus := by
    intro j
    by_cases hj : j = id
    · subst hj; simp [setModule]
    · simp [setModule, hj]
  exact
    { stray := h.stray
      overall := h.overall
      module := fun j => by rw [hcur]; exact h.module j
      counted := h.counted
      mem := fun j => by rw [hcur]; exact h.mem j
      reached := fun j y hy => by rw [hcur]; exact h.reached j y hy }

theorem Inv.setCurrent (h : Inv table s) {t : Fin n} {k : Handler} (ht : k ∈ s.task t)
    (hc : k.checked = true) (hv : s.NoneLesser k.id k.xContextStatus) :
    Inv table (s.setModule k.id ((s.pxModuleData k.id).setCurrent k.xContextStatus)) where
  stray := h.stray
  overall := h.overall
  module id := by
    by_cases hid : id = k.id
    · subst hid
      simpa [setModule, NoneLesser] using hv
    · simpa [setModule, hid, NoneLesser] using h.module id
  counted := h.counted
  mem id := by
    by_cases hid : id = k.id
    · subst hid
      have := h.counted t k ht (Handler.active_of_checked hc)
      simp [setModule, history, this]
    · simpa [setModule, hid, history] using h.mem id
  reached id y hy := by
    rcases h.reached id y hy with hle | hheld
    · left
      by_cases hid : id = k.id
      · subst hid
        have := h.module k.id t k ht rfl hc
        simpa [setModule] using hle.trans this
      · simpa [setModule, hid] using hle
    · exact .inr hheld

theorem Inv.raised (h : Inv table s) {t : Fin n} (ht : s.task t = none) {id : AMC_CFG_UNIQUE_IDS}
    {x : BIM_STATUS} {k : Handler} (hk : k.id = id) (hx : k.xContextStatus = x)
    (htarget : k.target = none) (hchecked : k.checked = false)
    (hactive : k.active = false → x ≤ (s.pxModuleData id).xCurrentStatus) :
    Inv table ((s.count id x).setTask t (some k)) where
  stray := h.stray
  overall u j hj w hw := by
    rcases mem_setTask hj with ⟨-, hj⟩ | ⟨-, hj⟩
    · obtain rfl : k = j := by simpa using hj
      simp [htarget] at hw
    · exact h.overall u j hj w hw
  module i u j hj hj' hc := by
    rcases mem_setTask hj with ⟨-, hj⟩ | ⟨-, hj⟩
    · obtain rfl : k = j := by simpa using hj
      simp [hchecked] at hc
    · exact h.module i u j hj hj' hc
  counted u j hj ha := by
    rcases mem_setTask hj with ⟨-, hj⟩ | ⟨-, hj⟩
    · obtain rfl : k = j := by simpa using hj
      simp [setTask, Monitor.count, hk, hx]
    · have := h.counted u j hj ha
      by_cases hi : j.id = id
      · simpa [setTask, Monitor.count, hi] using Or.inr (hi ▸ this)
      · simpa [setTask, Monitor.count, hi] using this
  mem i := by
    have := h.mem i
    by_cases hi : i = id
    · subst hi
      simp only [history, setTask, Monitor.count, Function.update_self, List.mem_cons] at this ⊢
      tauto
    · simpa [history, setTask, Monitor.count, hi] using this
  reached i y hy := by
    have hold : ∀ y ∈ s.history table i, y ≤ (s.pxModuleData i).xCurrentStatus ∨
        ∃ u, ∃ j ∈ (s.setTask t (some k)).task u, j.id = i ∧ j.active = true ∧
          y = j.xContextStatus := by
      intro y hy
      rcases h.reached i y hy with hle | ⟨u, j, hj, hrest⟩
      · exact .inl hle
      · have hu : u ≠ t := by
          rintro rfl
          simp [ht] at hj
        exact .inr ⟨u, j, by simpa [setTask, hu] using hj, hrest⟩
    by_cases hi : i = id
    · subst hi
      simp only [history, setTask, Monitor.count, Function.update_self, List.mem_cons] at hy
      rcases hy with hy | rfl | hy
      · exact hold y (by simp [history, hy])
      · by_cases ha : k.active = true
        · exact .inr ⟨t, k, by simp [setTask], hk, ha, hx.symm⟩
        · exact .inl (hactive (by simpa using ha))
      · exact hold y (by simp [history, hy])
    · exact hold y (by simpa [history, setTask, Monitor.count, hi] using hy)

theorem Inv.done (h : Inv table s) {t : Fin n} (ht : ∀ k ∈ s.task t, k.active = false) :
    Inv table (s.setTask t none) where
  stray := h.stray
  overall u j hj := by
    rcases mem_setTask hj with ⟨-, hj⟩ | ⟨-, hj⟩
    · simp at hj
    · exact h.overall u j hj
  module i u j hj := by
    rcases mem_setTask hj with ⟨-, hj⟩ | ⟨-, hj⟩
    · simp at hj
    · exact h.module i u j hj
  counted u j hj := by
    rcases mem_setTask hj with ⟨-, hj⟩ | ⟨-, hj⟩
    · simp at hj
    · exact h.counted u j hj
  mem := h.mem
  reached i y hy := by
    rcases h.reached i y hy with hle | ⟨u, j, hj, hj', ha, hy'⟩
    · exact .inl hle
    · have hu : u ≠ t := by
        rintro rfl
        simp [ht j hj] at ha
      exact .inr ⟨u, j, by simpa [setTask, hu] using hj, hj', ha, hy'⟩

/-! ### One step -/

theorem Inv.enter (h : Inv table s) {t : Fin n} (ht : s.task t = none) {id : AMC_CFG_UNIQUE_IDS}
    {ucEventType : UInt8} {past e : BIMEvent}
    (he : (s.pxModuleData id).pxEvents[ucEventType.toNat]? = some e)
    (hok : s.accepts id e = true ∨ e.xContextStatus ≤ (s.pxModuleData id).xCurrentStatus) :
    Inv table (s.enter t id ucEventType past) := by
  have hevent : (s.pxModuleData id).event past ucEventType = e := by
    simp [BIMModule.event, List.getD_eq_getElem?_getD, he]
  have hlen : ¬ (s.pxModuleData id).ulEventsLen ≤ ucEventType.toNat := by
    obtain ⟨hlt, -⟩ := List.getElem?_eq_some_iff.mp he
    exact Nat.not_le.mpr hlt
  simp only [Monitor.enter, hevent, he, hlen, Option.map_some, Option.toList_some,
    List.singleton_append, decide_false, Bool.and_false, Bool.or_false]
  split_ifs with ha
  · exact (h.count id ucEventType).raised ht rfl rfl rfl rfl fun hf =>
      absurd hf (by simp [Handler.active])
  · exact h.raised ht rfl rfl rfl rfl fun _ => hok.resolve_left ha

theorem step_inv {a : Action n} (h : Inv table s) (hok : Ok s a) (hs : step s a = some s') :
    Inv table s' ∧ (a.external = false → s.xHealthStatus ≤ s'.xHealthStatus) := by
  cases a with
  | raise t id pxSignal past =>
    simp only [step] at hs
    split at hs
    · exact absurd hs (by simp)
    next ht =>
      split_ifs at hs with hcb
      · obtain rfl := Option.some.inj hs
        obtain ⟨e, he, hacc⟩ := hok hcb
        refine ⟨h.enter ht he hacc, fun _ => ?_⟩
        unfold Monitor.enter
        dsimp only
        split_ifs <;> exact le_rfl
      · obtain rfl := Option.some.inj hs
        exact ⟨⟨h.stray, h.overall, h.module, h.counted, h.mem, h.reached⟩, fun _ => le_rfl⟩
  | checkModule t =>
    simp only [step] at hs
    split at hs
    next id x r ht =>
      split_ifs at hs with hlt <;> obtain rfl := Option.some.inj hs
      · exact ⟨h.move ht rfl rfl (by simp [Handler.target]) (fun _ => hlt.le) (fun _ => rfl)
          (fun hf => absurd hf (by simp [Handler.active])), fun _ => le_rfl⟩
      · exact ⟨h.move ht rfl rfl (by simp [Handler.target])
          (fun hf => absurd hf (by simp [Handler.checked]))
          (fun _ => rfl) (fun _ _ => not_lt.mp hlt), fun _ => le_rfl⟩
    · exact absurd hs (by simp)
  | checkOverall t =>
    simp only [step] at hs
    split at hs
    next id x r ht =>
      have hcur := h.module id t _ ht rfl rfl
      split_ifs at hs with hlt <;> obtain rfl := Option.some.inj hs
      · refine ⟨h.move ht rfl rfl (fun w hw => ?_) (fun _ => hcur) (fun _ => rfl)
          (fun hf => absurd hf (by simp [Handler.active])), fun _ => le_rfl⟩
        obtain rfl : s.overallFor ⟨id, x, .checkOverall, r⟩ = w := by
          simpa [Handler.target] using hw
        exact hok _ ht hlt
      · exact ⟨h.move ht rfl rfl (by simp [Handler.target]) (fun _ => hcur) (fun _ => rfl)
          (fun hf => absurd hf (by simp [Handler.active])), fun _ => le_rfl⟩
    · exact absurd hs (by simp)
  | setOverall t taken released =>
    simp only [step] at hs
    split at hs
    next id x w r ht =>
      obtain rfl := Option.some.inj hs
      have hcur := h.module id t _ ht rfl rfl
      have hset : Inv table (s.setHealth w taken) :=
        h.setHealth fun htaken => hok _ ht w (by simp [Handler.target]) htaken
      have htask : (s.setHealth w taken).task t = some ⟨id, x, .setOverall w, r⟩ := by
        unfold Monitor.setHealth; split_ifs <;> exact ht
      have hdata : (s.setHealth w taken).pxModuleData = s.pxModuleData := by
        unfold Monitor.setHealth; split_ifs <;> rfl
      refine ⟨hset.move htask rfl rfl (by simp [Handler.target]) (fun _ => ?_) (fun _ => rfl)
        (fun hf => absurd hf (by simp [Handler.active])), fun _ => ?_⟩
      · rw [hdata]
        exact hcur
      · cases taken
        · exact le_rfl
        · exact h.overall t _ ht w (by simp [Handler.target])
    · exact absurd hs (by simp)
  | setModule t =>
    simp only [step] at hs
    split at hs
    next id x r ht =>
      obtain rfl := Option.some.inj hs
      refine ⟨(h.setCurrent ht rfl (hok _ ht)).move ht rfl rfl (by simp [Handler.target])
        (fun hf => absurd hf (by simp [Handler.checked])) (fun hf => absurd hf (by simp [Handler.active])) (fun _ _ => ?_),
        fun _ => le_rfl⟩
      simp [Monitor.setModule]
    · exact absurd hs (by simp)
  | getState t xState =>
    simp only [step] at hs
    split at hs
    next id x r ht =>
      obtain rfl := Option.some.inj hs
      have hdone : Inv table (s.setTask t none) := h.done fun k hk => by
        obtain rfl : ⟨id, x, .getState, r⟩ = k := by simpa [ht] using hk
        rfl
      exact ⟨⟨hdone.stray, hdone.overall, hdone.module, hdone.counted, hdone.mem, hdone.reached⟩,
        fun _ => le_rfl⟩
    · exact absurd hs (by simp)
  | iBIM_SetOverallHealthStatus xStatus taken released =>
    obtain rfl := Option.some.inj hs
    exact ⟨h.setHealth hok, fun hf => absurd hf (by simp [Action.external])⟩

/-! ### Runs -/

/-- **Health status is the worst seen.** In the runs whose writes agree with what they were compared
with, no entry past an event table is read or counted, a module whose events have been handled has
the status of the worst of them, and no handler lowers the overall status. -/
theorem health_worst_seen (table : AMC_CFG_UNIQUE_IDS → BIMModule) {s : Monitor n}
    (hs : Reaches step Ok (start table) s) :
    s.Truthful table ∧
      ∀ a s', Ok s a → step s a = some s' → a.external = false →
        s.xHealthStatus ≤ s'.xHealthStatus := by
  have hinv : Inv table s :=
    hs.invariant (Inv table) inv_start fun _ _ _ h hok hstep => (step_inv h hok hstep).1
  exact ⟨hinv.truthful, fun a s' hok hstep => (step_inv hinv hok hstep).2⟩

/-- A module with further entries in its event table. -/
def BIMModule.append (m : BIMModule) (events : List BIMEvent) : BIMModule :=
  { m with pxEvents := m.pxEvents ++ events }

/-- The entry of a module in `PROFILE_BIM_MODULE_DATA`, with the severities of its events. -/
def profileModule (id : AMC_CFG_UNIQUE_IDS) (xContextStatus : BIM_STATUS)
    (events : List BIM_STATUS) : BIMModule where
  xModuleId := id
  xCurrentStatus := .HEALTHY
  xContextStatus := xContextStatus
  pxEvents := events.mapIdx fun i x => ⟨UInt32.ofNat i, 0, x⟩

/-- `PROFILE_BIM_MODULE_DATA`; the table gives no values for the last three events of the AMI. -/
def PROFILE_BIM_MODULE_DATA : AMC_CFG_UNIQUE_IDS → BIMModule
  | .AXC => profileModule .AXC .DEGRADED [.HEALTHY, .HEALTHY]
  | .APC => profileModule .APC .CRITICAL
      [.HEALTHY, .HEALTHY, .HEALTHY, .CRITICAL, .HEALTHY, .HEALTHY, .HEALTHY, .HEALTHY, .CRITICAL,
        .HEALTHY, .CRITICAL, .HEALTHY, .HEALTHY, .HEALTHY, .HEALTHY, .CRITICAL, .HEALTHY, .CRITICAL]
  | .ASC => profileModule .ASC .CRITICAL
      [.HEALTHY, .DEGRADED, .CRITICAL, .DEGRADED, .CRITICAL, .FATAL, .DEGRADED, .CRITICAL, .FATAL,
        .DEGRADED, .CRITICAL, .FATAL]
  | .AMI => (profileModule .AMI .FATAL (List.replicate 8 .HEALTHY)).append
      (List.replicate 3 ⟨0, 0, .HEALTHY⟩)
  | .BMC => profileModule .BMC .DEGRADED
      [.HEALTHY, .HEALTHY, .HEALTHY, .HEALTHY, .HEALTHY, .DEGRADED]

/-- The BMC driver raises a degrading event and, one after the other, the ASC driver a critical
one; each is handled to its end. -/
def healthRun : List (Action 2) :=
  [.raise 0 .BMC ⟨4, 5, 0, 0⟩ ⟨0, 0, .HEALTHY⟩, .checkModule 0, .checkOverall 0,
    .setOverall 0 true true, .setModule 0, .getState 0 (some .OK),
    .raise 1 .ASC ⟨2, 10, 1, 0⟩ ⟨0, 0, .HEALTHY⟩, .checkModule 1, .checkOverall 1,
    .setOverall 1 true true, .setModule 1, .getState 1 (some .OK)]

theorem health_worst_seen_profile :
    ∃ s : Monitor 2,
      (s.xHealthStatus = .CRITICAL ∧ (s.pxModuleData .ASC).xCurrentStatus = .CRITICAL) ∧
      s.Truthful PROFILE_BIM_MODULE_DATA ∧
      ∀ a s', Ok s a → step s a = some s' → a.external = false →
        s.xHealthStatus ≤ s'.xHealthStatus := by
  have hrun : (run (guarded step Ok) (start PROFILE_BIM_MODULE_DATA) healthRun).any (fun s =>
      decide (s.xHealthStatus = .CRITICAL ∧
        (s.pxModuleData .ASC).xCurrentStatus = .CRITICAL)) = true := by
    decide +kernel
  obtain ⟨s, hs, hfinal⟩ := (Option.any_eq_true _ _).mp hrun
  exact ⟨s, of_decide_eq_true hfinal,
    health_worst_seen PROFILE_BIM_MODULE_DATA (Reaches.of_guarded_run _ .start hs)⟩

/-- The degrading event of the BMC driver is compared with a healthy status and set after the
critical event of the ASC driver; and an event of the AXC driver whose type is the number of its
events has no entry. -/
theorem health_falls :
    (∃ s s' : Monitor 2, Reaches step always (start PROFILE_BIM_MODULE_DATA) s ∧
      step s (.setOverall 0 true true) = some s' ∧ s'.xHealthStatus < s.xHealthStatus) ∧
    ∃ s : Monitor 2, Reaches step always (start PROFILE_BIM_MODULE_DATA) s ∧
      ¬ s.Truthful PROFILE_BIM_MODULE_DATA := by
  constructor
  · have hrun : (run step (start PROFILE_BIM_MODULE_DATA : Monitor 2)
        [.raise 0 .BMC ⟨4, 5, 0, 0⟩ ⟨0, 0, .HEALTHY⟩, .checkModule 0, .checkOverall 0,
          .raise 1 .ASC ⟨2, 10, 1, 0⟩ ⟨0, 0, .HEALTHY⟩, .checkModule 1, .checkOverall 1,
          .setOverall 1 true true]).any (fun s =>
        (step s (.setOverall 0 true true)).any fun s' =>
          decide (s'.xHealthStatus < s.xHealthStatus)) = true := by
      decide +kernel
    obtain ⟨s, hs, hstep⟩ := (Option.any_eq_true _ _).mp hrun
    obtain ⟨s', hs', hlt⟩ := (Option.any_eq_true _ _).mp hstep
    exact ⟨s, s', .of_run hs, hs', of_decide_eq_true hlt⟩
  · have hrun : (run step (start PROFILE_BIM_MODULE_DATA : Monitor 2)
        [.raise 0 .AXC ⟨0, 2, 0, 0⟩ ⟨0, 0, .HEALTHY⟩]).any (fun s =>
        decide (¬ s.Truthful PROFILE_BIM_MODULE_DATA)) = true := by
      decide +kernel
    obtain ⟨s, hs, hnot⟩ := (Option.any_eq_true _ _).mp hrun
    exact ⟨s, .of_run hs, of_decide_eq_true hnot⟩

end Amr.Bim
