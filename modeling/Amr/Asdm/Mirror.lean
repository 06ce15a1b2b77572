/-
# The copy of the sensor table in the ASDM application

`asdm.c`: `iAscCallback`, which copies the table of the ASC proxy driver, and `iUpdateAsdmValues`
and `iCalculateTotalPower`, which fill the sensor repositories from the copy. A repository record
takes its values from the entry of the copy that `pxSensorList` names for it.

The event of one sensor over a limit copies the record of that sensor to the start of the copy, so
that an entry is the record of its own sensor in the runs in which such events come from the first
sensor only.
-/
import Amr.Asc.Sensors
import Amr.Lib.Transition

namespace Amr
namespace Asdm

open Asc Transition

variable {n : ℕ}

/-- The values of a record of a sensor repository. -/
structure ASDMSensorRecord where
  ulValue : ℕ
  ulAverageValue : ℕ
  ulMaxValue : ℕ
  ucSensorStatus : ASC_PROXY_DRIVER_SENSOR_STATUS
  deriving DecidableEq, Repr

/-- The values that `iUpdateAsdmValues` takes from a reading. -/
def ASDMSensorRecord.ofReadings (r : ASCProxyDriverSensorReadings) : ASDMSensorRecord where
  ulValue := r.ulSensorValue
  ulAverageValue := r.ulAverageSensorValue
  ulMaxValue := r.ulMaxSensorValue
  ucSensorStatus := r.xSensorStatus

/-- The total power, over its calculations so far. -/
structure TotalPower where
  ulPowerCalcIterations : ℕ
  ulAveragePower : ℕ
  ulMaxPower : ℕ
  ulValue : ℕ
  deriving DecidableEq, Repr

/-- The application. The repository of a type has a record for each index of `pxSensorList`. -/
structure Asdm (n : ℕ) where
  ucAscNumSensors : ℕ
  pxAscData : SensorTable n
  pxSensorList : ASC_PROXY_DRIVER_SENSOR_TYPE → List (Fin n)
  pxAsdmSdrInfo : ASC_PROXY_DRIVER_SENSOR_TYPE → List ASDMSensorRecord
  totalPower : TotalPower

namespace Asdm

/-- The records of a repository as `iUpdateAsdmValues` fills them. -/
def records (t : SensorTable n) (indices : List (Fin n)) (j : ASC_PROXY_DRIVER_SENSOR_TYPE) :
    List ASDMSensorRecord :=
  indices.map fun i => .ofReadings ((t i).pxReadings j)

/-- The sum that `iCalculateTotalPower` makes, in 32 bits. -/
def ulTotalPower (a : Asdm n) : ℕ :=
  (((a.pxSensorList .POWER).zip (a.pxAsdmSdrInfo .POWER)).filter fun p =>
    (a.pxAscData p.1).ucTotalPowerSensor).foldl (fun sum p => (sum + p.2.ulValue) % 2 ^ 32) 0

def iCalculateTotalPower (a : Asdm n) : Asdm n :=
  let iterations := (a.totalPower.ulPowerCalcIterations + 1) % 2 ^ 32
  let average := a.totalPower.ulAveragePower
  { a with
    totalPower :=
      { ulPowerCalcIterations := iterations
        ulAveragePower :=
          (average - average / iterations + a.ulTotalPower / iterations) % 2 ^ 32
        ulMaxPower := max a.totalPower.ulMaxPower a.ulTotalPower
        ulValue := a.ulTotalPower } }

/-- `iUpdateAsdmValues`: the values of all repositories, if the mutex is taken. -/
def iUpdateAsdmValues (a : Asdm n) (taken released : Bool) : Asdm n × Bool :=
  if taken then
    (iCalculateTotalPower
      { a with pxAsdmSdrInfo := fun j => records a.pxAscData (a.pxSensorList j) j }, released)
  else (a, false)

/-- What is copied to `pxAscData`: one record goes to its first entry. -/
def store (a : Asdm n) (d : Option ASCProxyDriverSensorData) : Asdm n :=
  match d with
  | some d => { a with pxAscData := fun i => if i.val = 0 then d else a.pxAscData i }
  | none => a

def storeAll (a : Asdm n) (t : Option (SensorTable n)) : Asdm n :=
  { a with pxAscData := t.getD a.pxAscData }

/-- The failures of the mutexes of both modules. -/
structure Mutexes where
  ascTaken : Bool
  ascReleased : Bool
  taken : Bool
  released : Bool
  deriving DecidableEq, Repr

/-- The `SENSOR_UPDATE_COMPLETE` branch of `iAscCallback`. -/
def updateComplete (a : Asdm n) (asc : SensorTable n) (m : Mutexes) : Asdm n × Bool :=
  let got := asc.iASC_GetAllSensorData a.ucAscNumSensors m.ascTaken m.ascReleased
  if got.2 then (a.storeAll got.1).iUpdateAsdmValues m.taken m.released
  else (a.storeAll got.1, false)

/-- The three branches of `iAscCallback` for a sensor over an upper limit. -/
def upperLimit (a : Asdm n) (asc : SensorTable n) (ucInstance : UInt8) (m : Mutexes) :
    Asdm n × Bool :=
  let got := asc.iASC_GetSingleSensorDataById ucInstance m.ascTaken m.ascReleased
  (a.store got.1, got.2)

end Asdm

/-- What is raised to `iAscCallback`. -/
inductive AscEvent
  | SENSOR_UPDATE_COMPLETE
  | SENSOR_UPPER_WARNING (ucInstance : UInt8)
  | SENSOR_UPPER_CRITICAL (ucInstance : UInt8)
  | SENSOR_UPPER_FATAL (ucInstance : UInt8)
  /-- An event that is counted only. -/
  | other
  deriving DecidableEq, Repr

/-- The sensor that an upper limit event names. -/
def AscEvent.sensor : AscEvent → Option UInt8
  | .SENSOR_UPPER_WARNING i | .SENSOR_UPPER_CRITICAL i | .SENSOR_UPPER_FATAL i => some i
  | .SENSOR_UPDATE_COMPLETE | .other => none

/-- `iAscCallback`, with what it returns. -/
def iAscCallback (a : Asdm n) (asc : SensorTable n) (e : AscEvent) (m : Asdm.Mutexes) :
    Asdm n × Bool :=
  match e with
  | .SENSOR_UPDATE_COMPLETE => a.updateComplete asc m
  | .SENSOR_UPPER_WARNING i | .SENSOR_UPPER_CRITICAL i | .SENSOR_UPPER_FATAL i =>
    a.upperLimit asc i m
  | .other => (a, true)

/-! ### Runs -/

/-- The two modules, with the tables that the ASC proxy driver has had. -/
structure Session (n : ℕ) where
  asc : SensorTable n
  asdm : Asdm n
  past : List (SensorTable n)

inductive Action (n : ℕ)
  /-- The proxy driver changes readings and threshold states; the rest of a record is constant. -/
  | sense (pxReadings : Fin n → ASC_PROXY_DRIVER_SENSOR_TYPE → ASCProxyDriverSensorReadings)
      (ulThresholdStatus : Fin n → ASC_PROXY_DRIVER_SENSOR_THRESHOLD_STATUS)
  /-- `iAscCallback` runs. -/
  | raise (e : AscEvent) (m : Asdm.Mutexes)

def sensed (asc : SensorTable n)
    (pxReadings : Fin n → ASC_PROXY_DRIVER_SENSOR_TYPE → ASCProxyDriverSensorReadings)
    (ulThresholdStatus : Fin n → ASC_PROXY_DRIVER_SENSOR_THRESHOLD_STATUS) : SensorTable n :=
  fun i => { asc i with pxReadings := pxReadings i, ulThresholdStatus := ulThresholdStatus i }

def step (s : Session n) : Action n → Option (Session n)
  | .sense pxReadings ulThresholdStatus =>
    let asc := sensed s.asc pxReadings ulThresholdStatus
    some { s with asc := asc, past := asc :: s.past }
  | .raise e m => some { s with asdm := (iAscCallback s.asdm s.asc e m).1 }

/-- `iASDM_Initialise` has copied the table, listed the enabled sensors of each type and filled the
repositories. -/
def Session.start (asc : SensorTable n)
    (pxSensorList : ASC_PROXY_DRIVER_SENSOR_TYPE → List (Fin n)) : Session n where
  asc := asc
  asdm :=
    { ucAscNumSensors := n
      pxAscData := asc
      pxSensorList := pxSensorList
      pxAsdmSdrInfo := fun j => Asdm.records asc (pxSensorList j) j
      totalPower := ⟨0, 0, 0, 0⟩ }
  past := [asc]

namespace Session

/-- Entry `k` of the copy is a record that sensor `k` of the proxy driver has had. -/
def Mirrors (s : Session n) : Prop :=
  ∀ k, (∃ t ∈ s.past, s.asdm.pxAscData k = t k) ∧
    (s.asdm.pxAscData k).ucSensorId = (s.asc k).ucSensorId

/-- Each record of a repository has the values that the sensor it was populated for has had. -/
def Filled (s : Session n) : Prop :=
  ∀ j, ∃ t ∈ s.past, s.asdm.pxAsdmSdrInfo j = Asdm.records t (s.asdm.pxSensorList j) j

instance (s : Session n) : Decidable s.Mirrors := by
  unfold Mirrors; infer_instance

instance (s : Session n) : Decidable s.Filled := by
  unfold Filled; infer_instance

end Session

/-- An upper limit event names the first sensor of the table, or none of it. -/
def Ok (s : Session n) : Action n → Prop
  | .sense .. => True
  | .raise e _ => ∀ ucInstance ∈ e.sensor, ∀ i ∈ s.asc.byId ucInstance, i.val = 0

instance (s : Session n) (a : Action n) : Decidable (Ok s a) := by
  cases a <;> unfold Ok <;> infer_instance

/-- What holds of the copy between the events. -/
structure Inv (s : Session n) : Prop where
  now : s.asc ∈ s.past
  ids : ∀ t ∈ s.past, ∀ k, (t k).ucSensorId = (s.asc k).ucSensorId
  copy : ∀ k, ∃ t ∈ s.past, s.asdm.pxAscData k = t k
  filled : s.Filled

variable {s s' : Session n}

theorem Inv.mirrors (h : Inv s) : s.Mirrors := by
  intro k
  obtain ⟨t, ht, hk⟩ := h.copy k
  exact ⟨⟨t, ht, hk⟩, by rw [hk]; exact h.ids t ht k⟩

theorem Inv.replace (h : Inv s) {a : Asdm n}
    (hcopy : ∀ k, a.pxAscData k = s.asdm.pxAscData k ∨ a.pxAscData k = s.asc k)
    (hlist : a.pxSensorList = s.asdm.pxSensorList)
    (hfill : a.pxAsdmSdrInfo = s.asdm.pxAsdmSdrInfo ∨
      a.pxAsdmSdrInfo = fun j => Asdm.records s.asc (s.asdm.pxSensorList j) j) :
    Inv { s with asdm := a } where
  now := h.now
  ids := h.ids
  copy k := by
    rcases hcopy k with hk | hk
    · obtain ⟨t, ht, heq⟩ := h.copy k
      exact ⟨t, ht, hk.trans heq⟩
    · exact ⟨s.asc, h.now, hk⟩
  filled j := by
    rcases hfill with hf | hf
    · obtain ⟨t, ht, heq⟩ := h.filled j
      exact ⟨t, ht, by simp only [hf, hlist]; exact heq⟩
    · exact ⟨s.asc, h.now, by simp only [hf, hlist]⟩

theorem Inv.updateComplete (h : Inv s) (m : Asdm.Mutexes) :
    Inv { s with asdm := (s.asdm.updateComplete s.asc m).1 } := by
  unfold Asdm.updateComplete SensorTable.iASC_GetAllSensorData
  dsimp only
  by_cases hcopied : (m.ascTaken && decide (n ≤ s.asdm.ucAscNumSensors)) = true
  · rw [if_pos hcopied]
    dsimp only
    split_ifs with hreleased
    · unfold Asdm.iUpdateAsdmValues
      split_ifs with htaken
      · exact h.replace (fun k => .inr rfl) rfl (.inr rfl)
      · exact h.replace (fun k => .inr rfl) rfl (.inl rfl)
    · exact h.replace (fun k => .inr rfl) rfl (.inl rfl)
  · rw [if_neg hcopied]
    dsimp only
    rw [if_neg (by simp)]
    exact h.replace (fun k => .inl rfl) rfl (.inl rfl)

theorem Inv.upperLimit (h : Inv s) {ucInstance : UInt8} (m : Asdm.Mutexes)
    (hfirst : ∀ i ∈ s.asc.byId ucInstance, i.val = 0) :
    Inv { s with asdm := (s.asdm.upperLimit s.asc ucInstance m).1 } := by
  unfold Asdm.upperLimit SensorTable.iASC_GetSingleSensorDataById
  dsimp only
  split_ifs with htaken
  · split
    next i hi =>
      refine h.replace (fun k => ?_) rfl (.inl rfl)
      by_cases hk : k.val = 0
      · right
        obtain rfl : k = i := Fin.ext (hk.trans (hfirst i hi).symm)
        simp [Asdm.store, hk]
      · left
        simp [Asdm.store, hk]
    · exact h.replace (fun k => .inl rfl) rfl (.inl rfl)
  · exact h.replace (fun k => .inl rfl) rfl (.inl rfl)

theorem step_inv {a : Action n} (h : Inv s) (hok : Ok s a) (hs : step s a = some s') : Inv s' := by
  cases a with
  | sense pxReadings ulThresholdStatus =>
    obtain rfl := Option.some.inj hs
    refine ⟨List.mem_cons_self, fun t ht k => ?_, fun k => ?_, fun j => ?_⟩
    · rcases List.mem_cons.mp ht with rfl | ht
      · rfl
      · exact h.ids t ht k
    · obtain ⟨t, ht, hk⟩ := h.copy k
      exact ⟨t, List.mem_cons_of_mem _ ht, hk⟩
    · obtain ⟨t, ht, hj⟩ := h.filled j
      exact ⟨t, List.mem_cons_of_mem _ ht, hj⟩
  | raise e m =>
    obtain rfl := Option.some.inj hs
    cases e with
    | SENSOR_UPDATE_COMPLETE => exact h.updateComplete m
    | SENSOR_UPPER_WARNING i => exact h.upperLimit m (hok i rfl)
    | SENSOR_UPPER_CRITICAL i => exact h.upperLimit m (hok i rfl)
    | SENSOR_UPPER_FATAL i => exact h.upperLimit m (hok i rfl)
    | other => exact h

/-- **The sensor mirror.** In the runs in which only the first sensor goes over an upper limit,
entry `k` of the copy is a snapshot of record `k` of the proxy driver, and every repository record is
filled from the sensor it was populated for. -/
theorem sensor_mirror (asc : SensorTable n)
    (pxSensorList : ASC_PROXY_DRIVER_SENSOR_TYPE → List (Fin n)) {s : Session n}
    (hs : Reaches step Ok (Session.start asc pxSensorList) s) : s.Mirrors ∧ s.Filled := by
  have hinv : Inv s := by
    refine hs.invariant Inv ⟨List.mem_singleton_self _, ?_, ?_, ?_⟩
      fun _ _ _ h hok hstep => step_inv h hok hstep
    · intro t ht k
      rw [List.mem_singleton.mp ht]
      rfl
    · exact fun k => ⟨asc, List.mem_singleton_self _, rfl⟩
    · exact fun j => ⟨asc, List.mem_singleton_self _, rfl⟩
  exact ⟨hinv.mirrors, hinv.filled⟩

/-- Two temperature sensors, with the identifiers 1 and 2. -/
def twoSensors : SensorTable 2 := fun i =>
  { pcSensorName := if i.val = 0 then "PCB".toList else "Device".toList
    ucSensorId := if i.val = 0 then 1 else 2
    ucTotalPowerSensor := false
    ppxReadSensorFunc := fun j => decide (j = .TEMPERATURE)
    pxReadings := fun _ =>
      { ulSensorValue := 0
        ulUpperWarningLimit := 80
        ulUpperCriticalLimit := 85
        ulUpperFatalLimit := 95
        ulAverageSensorValue := 0
        ulMaxSensorValue := 0
        xSensorStatus := .NOT_PRESENT
        xSensorOperationalStatus := .ENABLED }
    ulThresholdStatus := .HEALTHY }

/-- Both sensors are temperature sensors only. -/
def twoTemperatures : ASC_PROXY_DRIVER_SENSOR_TYPE → List (Fin 2)
  | .TEMPERATURE => [0, 1]
  | _ => []

/-- All readings of a table become `ulSensorValue`. -/
def senseAll (ulSensorValue : ℕ) : Action 2 :=
  .sense (fun i j =>
      { (twoSensors i).pxReadings j with
        ulSensorValue := ulSensorValue
        ulMaxSensorValue := ulSensorValue
        xSensorStatus := .PRESENT_AND_VALID })
    fun _ => .HEALTHY

theorem sensor_mirror_two :
    ∃ s : Session 2,
      ((s.asdm.pxAsdmSdrInfo .TEMPERATURE).map (·.ulValue) = [82, 82] ∧
        ((s.asdm.pxAscData 0).pxReadings .TEMPERATURE).ulSensorValue = 83) ∧
      s.Mirrors ∧ s.Filled := by
  have hrun : (run (guarded step Ok) (Session.start twoSensors twoTemperatures)
      [senseAll 82, .raise .SENSOR_UPDATE_COMPLETE ⟨true, true, true, true⟩, senseAll 83,
        .raise (.SENSOR_UPPER_WARNING 1) ⟨true, true, true, true⟩]).any (fun s =>
      decide ((s.asdm.pxAsdmSdrInfo .TEMPERATURE).map (·.ulValue) = [82, 82] ∧
        ((s.asdm.pxAscData 0).pxReadings .TEMPERATURE).ulSensorValue = 83)) = true := by
    decide +kernel
  obtain ⟨s, hs, hfinal⟩ := (Option.any_eq_true _ _).mp hrun
  exact ⟨s, of_decide_eq_true hfinal,
    sensor_mirror twoSensors twoTemperatures (Reaches.of_guarded_run _ .start hs)⟩

/-- The second sensor goes over its limit and is copied over the first. -/
theorem second_sensor_misplaced :
    ¬ ∀ s, Reaches step always (Session.start twoSensors twoTemperatures) s → s.Mirrors := by
  intro hall
  have hrun : (run step (Session.start twoSensors twoTemperatures)
      [senseAll 82, .raise (.SENSOR_UPPER_WARNING 2) ⟨true, true, true, true⟩]).any (fun s =>
      decide ((s.asdm.pxAscData 0).ucSensorId ≠ (s.asc 0).ucSensorId)) = true := by
    decide +kernel
  obtain ⟨s, hs, hids⟩ := (Option.any_eq_true _ _).mp hrun
  exact of_decide_eq_true hids (hall s (.of_run hs) 0).2

end Asdm
end Amr
