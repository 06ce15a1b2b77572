/-
# The total power

`iCalculateTotalPower` of `asdm.c` over the runs of `Amr.Asdm.Mirror`: the record of the total power
next to the sums of all updates so far.

The maximum and the average are kept from the first update on and no function resets them. The
average is a running mean with truncating divisions by the number of updates, a `uint32_t`; it stays
within the sums by the monotonicity of `Amr.Lib.TruncatedMean`.
-/
import Amr.Asdm.Mirror
import Amr.Lib.TruncatedMean

namespace Amr.Asdm

open Asc Transition TruncatedMean

local instance instNeZeroTwo : NeZero 2 := ⟨by decide⟩

variable {n : ℕ}

/-- The sum of the values of the power sensors that are flagged as part of the total. -/
def powerSum (t : SensorTable n) (indices : List (Fin n)) : ℕ :=
  ((indices.filter fun i => (t i).ucTotalPowerSensor).map fun i =>
    ((t i).pxReadings .POWER).ulSensorValue).sum

/-- The event leads to `iUpdateAsdmValues` with the mutex. -/
def updates (s : Session n) : Action n → Bool
  | .raise .SENSOR_UPDATE_COMPLETE m =>
    (s.asc.iASC_GetAllSensorData s.asdm.ucAscNumSensors m.ascTaken m.ascReleased).2 && m.taken
  | _ => false

/-- The modules, with the sums of the updates so far, latest first. -/
structure Metered (n : ℕ) where
  session : Session n
  sums : List ℕ

namespace Metered

def start (asc : SensorTable n) (pxSensorList : ASC_PROXY_DRIVER_SENSOR_TYPE → List (Fin n)) :
    Metered n :=
  ⟨.start asc pxSensorList, []⟩

def step (s : Metered n) (a : Action n) : Option (Metered n) :=
  (Asdm.step s.session a).map fun s' =>
    ⟨s', if updates s.session a then
      powerSum s.session.asc (s.session.asdm.pxSensorList .POWER) :: s.sums else s.sums⟩

/-- The total power and its statistics are those of the sums. -/
structure Metering (s : Metered n) : Prop where
  count : s.session.asdm.totalPower.ulPowerCalcIterations = s.sums.length
  max : s.session.asdm.totalPower.ulMaxPower = s.sums.foldr max 0
  average : Within s.session.asdm.totalPower.ulAveragePower s.sums

end Metered

/-! ### The sum -/

theorem foldl_mod {α : Type*} (f : α → ℕ) (l : List α) (acc : ℕ) (h : acc < 2 ^ 32) :
    l.foldl (fun sum p => (sum + f p) % 2 ^ 32) acc = (acc + (l.map f).sum) % 2 ^ 32 := by
  induction l generalizing acc with
  | nil =>
    rw [List.foldl_nil, List.map_nil, List.sum_nil, Nat.add_zero]
    exact (Nat.mod_eq_of_lt h).symm
  | cons p l ih =>
    rw [List.foldl_cons, ih _ (Nat.mod_lt _ (by norm_num)), List.map_cons, List.sum_cons,
      Nat.mod_add_mod, Nat.add_assoc]

theorem zip_records (t : SensorTable n) (indices : List (Fin n)) :
    indices.zip (Asdm.records t indices .POWER) =
      indices.map fun i => (i, .ofReadings ((t i).pxReadings .POWER)) := by
  unfold Asdm.records
  induction indices with
  | nil => rfl
  | cons i indices ih => rw [List.map_cons, List.map_cons, List.zip_cons_cons, ih]

theorem ulTotalPower_eq {a : Asdm n} {t : SensorTable n} (hdata : a.pxAscData = t)
    (hrecords : a.pxAsdmSdrInfo .POWER = Asdm.records t (a.pxSensorList .POWER) .POWER) :
    a.ulTotalPower = powerSum t (a.pxSensorList .POWER) % 2 ^ 32 := by
  unfold Asdm.ulTotalPower
  rw [hrecords, hdata, zip_records, List.filter_map, foldl_mod _ _ _ (by norm_num), zero_add,
    List.map_map]
  rfl

/-! ### The runs -/

namespace Metered

variable {s s' : Metered n} {a : Action n}

theorem totalPower_of_not_updates {s s' : Session n} (h : Asdm.step s a = some s')
    (hup : updates s a = false) : s'.asdm.totalPower = s.asdm.totalPower := by
  cases a with
  | sense pxReadings ulThresholdStatus =>
    obtain rfl := Option.some.inj h
    rfl
  | raise e m =>
    obtain rfl := Option.some.inj h
    have hstore : ∀ (b : Asdm n) d, (b.store d).totalPower = b.totalPower := by
      intro b d
      cases d <;> rfl
    cases e with
    | SENSOR_UPDATE_COMPLETE =>
      simp only [iAscCallback, Asdm.updateComplete]
      unfold updates at hup
      split_ifs with hgot
      · have htaken : m.taken = false := by simpa [hgot] using hup
        simp [Asdm.iUpdateAsdmValues, htaken, Asdm.storeAll]
      · rfl
    | SENSOR_UPPER_WARNING i => exact hstore _ _
    | SENSOR_UPPER_CRITICAL i => exact hstore _ _
    | SENSOR_UPPER_FATAL i => exact hstore _ _
    | other => rfl

theorem totalPower_of_updates {s s' : Session n} (h : Asdm.step s a = some s')
    (hup : updates s a = true) :
    s'.asc = s.asc ∧ s'.asdm.pxSensorList = s.asdm.pxSensorList ∧
      s'.asdm.totalPower =
        { ulPowerCalcIterations := (s.asdm.totalPower.ulPowerCalcIterations + 1) % 2 ^ 32
          ulAveragePower := advance ((s.asdm.totalPower.ulPowerCalcIterations + 1) % 2 ^ 32)
            s.asdm.totalPower.ulAveragePower
            (powerSum s.asc (s.asdm.pxSensorList .POWER) % 2 ^ 32) % 2 ^ 32
          ulMaxPower := Max.max s.asdm.totalPower.ulMaxPower
            (powerSum s.asc (s.asdm.pxSensorList .POWER) % 2 ^ 32)
          ulValue := powerSum s.asc (s.asdm.pxSensorList .POWER) % 2 ^ 32 } := by
  match a, h, hup with
  | .raise .SENSOR_UPDATE_COMPLETE m, h, hup =>
    obtain rfl := Option.some.inj h
    simp only [updates, SensorTable.iASC_GetAllSensorData, Bool.and_eq_true] at hup
    obtain ⟨hgot, htaken⟩ := hup
    split_ifs at hgot with hcopied
    · have hdata : (s.asdm.updateComplete s.asc m).1 =
          Asdm.iCalculateTotalPower { s.asdm with
            pxAscData := s.asc
            pxAsdmSdrInfo := fun j => Asdm.records s.asc (s.asdm.pxSensorList j) j } := by
        simp [Asdm.updateComplete, SensorTable.iASC_GetAllSensorData, hcopied, hgot,
          Asdm.iUpdateAsdmValues, htaken, Asdm.storeAll]
      refine ⟨rfl, ?_, ?_⟩
      · simp only [iAscCallback, hdata, Asdm.iCalculateTotalPower]
      · simp only [iAscCallback, hdata, Asdm.iCalculateTotalPower]
        rw [ulTotalPower_eq rfl rfl]
        rfl

theorem Metering.update (h : s.Metering) (hstep : s.step a = some s')
    (hup : updates s.session a = true) (hfew : s'.sums.length < 2 ^ 32)
    (hfit : ∀ x ∈ s'.sums, x < 2 ^ 32) :
    s'.Metering ∧ s'.session.asdm.totalPower.ulValue =
      powerSum s'.session.asc (s'.session.asdm.pxSensorList .POWER) := by
  obtain ⟨t, ht, rfl⟩ := Option.map_eq_some_iff.mp hstep
  obtain ⟨hasc, hlist, hpower⟩ := totalPower_of_updates ht hup
  rw [if_pos hup] at hfew hfit ⊢
  set sum := powerSum s.session.asc (s.session.asdm.pxSensorList .POWER) with hsum
  have hmod : sum % 2 ^ 32 = sum := Nat.mod_eq_of_lt (hfit sum List.mem_cons_self)
  have hcount : (s.session.asdm.totalPower.ulPowerCalcIterations + 1) % 2 ^ 32 =
      s.sums.length + 1 := by
    rw [h.count]
    exact Nat.mod_eq_of_lt hfew
  have hwithin := h.average.advance sum
  rw [hmod, hcount, Nat.mod_eq_of_lt (hwithin.lt (by norm_num) hfit)] at hpower
  refine ⟨⟨?_, ?_, ?_⟩, ?_⟩
  · simp [hpower]
  · simp [hpower, h.max, Nat.max_comm]
  · simpa [hpower] using hwithin
  · simp [hpower, hasc, hlist, hsum]

theorem metering {asc : SensorTable n}
    {pxSensorList : ASC_PROXY_DRIVER_SENSOR_TYPE → List (Fin n)}
    (hs : Reaches step always (start asc pxSensorList) s) (hfew : s.sums.length < 2 ^ 32)
    (hfit : ∀ x ∈ s.sums, x < 2 ^ 32) : s.Metering := by
  refine hs.invariant
    (fun s => s.sums.length < 2 ^ 32 → (∀ x ∈ s.sums, x < 2 ^ 32) → s.Metering)
    (fun _ _ => ⟨rfl, rfl, .start⟩) (fun s a s' ih _ hstep hfew hfit => ?_) hfew hfit
  by_cases hup : updates s.session a = true
  · obtain ⟨t, -, hs'⟩ := Option.map_eq_some_iff.mp hstep
    rw [if_pos hup] at hs'
    have hsums : s'.sums = powerSum s.session.asc (s.session.asdm.pxSensorList .POWER) :: s.sums := by
      rw [← hs']
    rw [hsums] at hfew hfit
    have hbefore := ih (by simp at hfew; omega) fun x hx => hfit x (List.mem_cons_of_mem _ hx)
    rw [← hsums] at hfew hfit
    exact (hbefore.update hstep hup hfew hfit).1
  · obtain ⟨t, ht, rfl⟩ := Option.map_eq_some_iff.mp hstep
    rw [if_neg hup] at hfew hfit ⊢
    have hsame := totalPower_of_not_updates ht (Bool.not_eq_true _ ▸ hup)
    have hbefore := ih hfew hfit
    exact ⟨by rw [hsame]; exact hbefore.count, by rw [hsame]; exact hbefore.max,
      by rw [hsame]; exact hbefore.average⟩

end Metered

/-- **The total power.** After each of fewer than `2 ^ 32` updates whose sums fit 32 bits, the record
holds the sum over the flagged power sensors, the largest sum so far, and an average between the
smallest and the largest sum so far. -/
theorem total_power_statistics (asc : SensorTable n)
    (pxSensorList : ASC_PROXY_DRIVER_SENSOR_TYPE → List (Fin n)) {s s' : Metered n}
    {a : Action n} (hs : Reaches Metered.step always (Metered.start asc pxSensorList) s)
    (hstep : s.step a = some s') (hup : updates s.session a = true)
    (hfew : s'.sums.length < 2 ^ 32) (hfit : ∀ x ∈ s'.sums, x < 2 ^ 32) :
    s'.session.asdm.totalPower.ulValue =
        powerSum s'.session.asc (s'.session.asdm.pxSensorList .POWER) ∧
      s'.session.asdm.totalPower.ulMaxPower = s'.sums.foldr max 0 ∧
      (∃ lo ∈ s'.sums, lo ≤ s'.session.asdm.totalPower.ulAveragePower) ∧
      ∃ hi ∈ s'.sums, s'.session.asdm.totalPower.ulAveragePower ≤ hi := by
  obtain ⟨t, -, hs'⟩ := Option.map_eq_some_iff.mp hstep
  rw [if_pos hup] at hs'
  have hsums : s'.sums = powerSum s.session.asc (s.session.asdm.pxSensorList .POWER) :: s.sums := by
    rw [← hs']
  have hne : s'.sums ≠ [] := by
    rw [hsums]
    exact List.cons_ne_nil _ _
  have hbefore : s.Metering := by
    rw [hsums] at hfew hfit
    exact Metered.metering hs (by simp at hfew; omega)
      fun x hx => hfit x (List.mem_cons_of_mem _ hx)
  obtain ⟨hmeter, hvalue⟩ := hbefore.update hstep hup hfew hfit
  exact ⟨hvalue, hmeter.max, hmeter.average.above hne, hmeter.average.below hne⟩

/-- Two power sensors, of which the first is part of the total. -/
def powerSensors : SensorTable 2 := fun i =>
  { twoSensors i with
    ucTotalPowerSensor := decide (i.val = 0)
    ppxReadSensorFunc := fun j => decide (j = .POWER) }

/-- The power sensors are those of the table. -/
def bothPower : ASC_PROXY_DRIVER_SENSOR_TYPE → List (Fin 2)
  | .POWER => [0, 1]
  | _ => []

/-- All sensors are read and the event is handled without a failure. -/
def allTaken : Action 2 := .raise .SENSOR_UPDATE_COMPLETE ⟨true, true, true, true⟩

/-- Powers of 3 and then 2 units. -/
theorem total_power_statistics_two :
    ∃ s' : Metered 2,
      (s'.sums = [2, 3] ∧ s'.session.asdm.totalPower.ulAveragePower = 3) ∧
      s'.session.asdm.totalPower.ulMaxPower = s'.sums.foldr max 0 := by
  have hrun : (run Metered.step (Metered.start powerSensors bothPower)
      [senseAll 3, allTaken, senseAll 2]).any (fun s => (s.step allTaken).any fun s' =>
        decide (updates s.session allTaken = true ∧ s'.sums = [2, 3] ∧
          s'.session.asdm.totalPower.ulAveragePower = 3)) = true := by
    decide +kernel
  obtain ⟨s, hs, hlast⟩ := (Option.any_eq_true _ _).mp hrun
  obtain ⟨s', hs', hfinal⟩ := (Option.any_eq_true _ _).mp hlast
  obtain ⟨hup, hsums, haverage⟩ := of_decide_eq_true hfinal
  refine ⟨s', ⟨hsums, haverage⟩, ?_⟩
  exact (total_power_statistics powerSensors bothPower (.of_run hs) hs' hup
    (by rw [hsums]; norm_num) (by rw [hsums]; simp)).2.1

end Amr.Asdm
