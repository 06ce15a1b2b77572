/-
# The values of one sensor and of all sensors

`iPopulateAsdmGetSingleSensorResponse` and `iPopulateAsdmGetAllSensorDataResponse` of `asdm.c`,
over the records that `iInitAsdm` populates and `iUpdateAsdmValues` refreshes. Both build an entry
from a record. The first takes the sensor identifier for the index of the record, the length of the
name for the length of the values and the length of the status for its first byte, and has no
bound, so that its entries are never those of the second.
-/
import Amr.Asdm.Population
import Amr.Lib.Transition

namespace Amr.Asdm.Records

open Asc ByteStore Transition AMC_ASDM_SUPPORTED_REPO

/-! ### The application -/

/-- `ASDMPrivateData`, with the parts that the sensor records depend on. -/
structure Store where
  iInitialised : Bool
  /-- `NULL` until the first initialisation. -/
  pxAsdmSdrInfo : Option (AMC_ASDM_SUPPORTED_REPO → Repository)
  pucSensorIndex : AMC_ASDM_SUPPORTED_REPO → List ℕ
  ulPowerCalcIterations : ℕ
  ulAveragePower : ℕ
  ulMaxPower : ℕ

def Store.start : Store := ⟨false, none, fun _ => [], 0, 0, 0⟩

/-- The indices that `iPopulateRepoSensorList` stores. -/
def sensorIndices (inp : Input) (repo : AMC_ASDM_SUPPORTED_REPO) : List ℕ :=
  if inp.iSensorListInitialised then
    (List.range inp.pxAscData.length).filter fun i =>
      (inp.pxAscData[i]?).any (·.listed repo)
  else []

/-- The part of `iASDM_Initialise` after the mutex was created. A write through a `NULL` pointer has
no state after it. -/
def Store.initialise (s : Store) (inp : Input) (bound : Bool) : Option Store :=
  let inp := { inp with fresh := s.pxAsdmSdrInfo.isNone }
  let x := iInitAsdm inp
  if x.1 = .fault then none
  else
    some
      { s with
        iInitialised := decide (x.1 = .OK) && bound
        pxAsdmSdrInfo := if inp.ascData && inp.fresh && inp.sdrInfo then some x.2
          else s.pxAsdmSdrInfo
        pucSensorIndex := sensorIndices inp }

/-- The values that `iUpdateAsdmValues` stores in a record of the SDR. -/
def ASDMSdrRecord.update (r : ASDMSdrRecord) (d : Readings) : ASDMSdrRecord :=
  { r with
    xSensorValue := { r.xSensorValue with ulValue := d.ulSensorValue }
    ulAverageValue := d.ulAverageSensorValue
    ulMaxValue := d.ulMaxSensorValue
    ucSensorStatus := statusNat d.xSensorStatus }

/-- The values that it stores in a record of the SDS. -/
def ASDMSdsRecord.update (r : ASDMSdsRecord) (d : Readings) : ASDMSdsRecord :=
  { r with
    xSensorValue := { r.xSensorValue with ulValue := d.ulSensorValue }
    ucSensorStatus := statusNat d.xSensorStatus }

/-- The loop over the records of a repository, each with the index of its sensor. -/
def Repository.update (x : Repository) (repo : AMC_ASDM_SUPPORTED_REPO) (pxAscData : ℕ → Sensor)
    (indices : List ℕ) : Repository :=
  { x with
    sdr := x.sdr.mapIdx fun k r =>
      (indices[k]?).elim r fun i => r.update ((pxAscData i).pxReadings repo.toNat)
    sds := x.sds.mapIdx fun k r =>
      (indices[k]?).elim r fun i => r.update ((pxAscData i).pxReadings repo.toNat) }

/-- The sum of `iCalculateTotalPower`, in 32 bits. -/
def ulTotalPower (x : Repository) (pxAscData : ℕ → Sensor) (indices : List ℕ) : ℕ :=
  ((indices.zip x.sdr).filter fun p => (pxAscData p.1).ucTotalPowerSensor).foldl
    (fun sum p => (sum + p.2.xSensorValue.ulValue) % 2 ^ 32) 0

def Repository.updateTotal (x : Repository) (ulAveragePower ulMaxPower ulTotal : ℕ) : Repository :=
  { x with
    sdr := x.sdr.mapIdx fun k r =>
      if k = 0 then
        { r with
          ulAverageValue := ulAveragePower
          ulMaxValue := ulMaxPower
          xSensorValue := { r.xSensorValue with ulValue := ulTotal } }
      else r }

/-- `iUpdateAsdmValues` with the mutex, from a new copy of the sensor table. -/
def Store.update (s : Store) (pxAscData : ℕ → Sensor) : Store :=
  match s.pxAsdmSdrInfo with
  | none => s
  | some info =>
    let values := fun repo =>
      if repo ∈ [TEMP, VOLTAGE, CURRENT, POWER] then
        (info repo).update repo pxAscData (s.pucSensorIndex repo)
      else info repo
    let total := ulTotalPower (values POWER) pxAscData (s.pucSensorIndex POWER)
    let iterations := (s.ulPowerCalcIterations + 1) % 2 ^ 32
    let average :=
      (s.ulAveragePower - s.ulAveragePower / iterations + total / iterations) % 2 ^ 32
    { s with
      pxAsdmSdrInfo := some (Function.update values TOTAL_POWER
        ((values TOTAL_POWER).updateTotal average (max s.ulMaxPower total) total))
      ulPowerCalcIterations := iterations
      ulAveragePower := average
      ulMaxPower := max s.ulMaxPower total }

inductive Action
  /-- `iASDM_Initialise`, and whether the callbacks are bound. -/
  | initialise (inp : Input) (bound : Bool)
  /-- The sensors are read. -/
  | update (pxAscData : ℕ → Sensor)

def step (s : Store) : Action → Option Store
  | .initialise inp bound => if s.iInitialised then some s else s.initialise inp bound
  | .update pxAscData => some (s.update pxAscData)

/-! ### The responses -/

/-- The failures of the mutex during a request. -/
structure Mutex where
  taken : Bool
  released : Bool
  deriving DecidableEq, Repr

/-- What is found where a request reads past an array: the records behind a table, and the bytes
behind the value, the maximum and the average of a record. -/
structure Memory where
  record : AMC_ASDM_SUPPORTED_REPO → ℕ → ASDMSdrRecord
  behindValue : ℕ → UInt8
  behindMax : ℕ → UInt8
  behindAverage : ℕ → UInt8

/-- `pxAsdmSdrInfo[repo]`. -/
def Store.repository (s : Store) (repo : AMC_ASDM_SUPPORTED_REPO) : Repository :=
  (s.pxAsdmSdrInfo.map (· repo)).getD .zero

/-- `pxSensorRecord[i]`. -/
def Store.record (s : Store) (memory : Memory) (repo : AMC_ASDM_SUPPORTED_REPO) (i : ℕ) :
    ASDMSdrRecord :=
  (s.repository repo).sdr[i]?.getD (memory.record repo i)

/-- `pvOSAL_MemCpy` of `len` bytes from a number of four bytes on. -/
def copyFrom (v : ℕ) (behind : ℕ → UInt8) (len : ℕ) : List UInt8 :=
  (List.range len).map fun k => (bytesOf 4 v).getD k (behind k)

/-- The entry of a sensor: a first byte, value, maximum and average in `len` bytes each, and the
status. -/
def entry (memory : Memory) (first len : ℕ) (r : ASDMSdrRecord) : List UInt8 :=
  UInt8.ofNat first :: (copyFrom r.xSensorValue.ulValue memory.behindValue len ++
    copyFrom r.ulMaxValue memory.behindMax len ++
    copyFrom r.ulAverageValue memory.behindAverage len ++ [UInt8.ofNat r.ucSensorStatus])

/-- The entry of a record in the response for all sensors. -/
def allEntry (memory : Memory) (r : ASDMSdrRecord) : List UInt8 :=
  entry memory r.valueLen r.valueLen r

/-- The entry of a record in the response for a single sensor. -/
def singleEntry (memory : Memory) (r : ASDMSdrRecord) : List UInt8 :=
  entry memory 1 (r.xSensorName.ucLength &&& ASDM_RECORD_FIELD_LENGTH_MASK) r

/-- The size that a response gives for entries with values of `len` bytes. -/
def payloadSize (len : ℕ) : ℕ := 1 + 3 * len + 1

/-- The answer to a request: the response where `OK` is returned, and the records that were read. -/
structure Reply where
  response : Option (List UInt8)
  read : List ℕ
  deriving DecidableEq, Repr

/-- A request that is answered under the mutex. -/
def locked (m : Mutex) (response : List UInt8) (read : List ℕ) : Reply :=
  if m.taken then ⟨if m.released then some response else none, read⟩ else ⟨none, []⟩

/-- `iASDM_PopulateResponse` with `GET_ALL_SENSOR_DATA`. -/
def iPopulateAsdmGetAllSensorDataResponse (s : Store) (memory : Memory) (xRepo : ℕ) (m : Mutex) :
    Reply :=
  match (if s.iInitialised then iMapAsdmRepo xRepo else none) with
  | none => ⟨none, []⟩
  | some repo =>
    let indices := List.range (s.repository repo).ucTotalNumRecords
    let records := indices.map (s.record memory repo)
    locked m
      ([1, UInt8.ofNat repo.ucRepoType,
          UInt8.ofNat (records.map fun r => payloadSize r.valueLen).sum] ++
        (records.map (allEntry memory)).flatten)
      indices

/-- `iASDM_PopulateResponse` with `GET_SINGLE_SENSOR_DATA`. -/
def iPopulateAsdmGetSingleSensorResponse (s : Store) (memory : Memory) (xRepo ucSensorId : ℕ)
    (m : Mutex) : Reply :=
  match (if s.iInitialised then iMapAsdmRepo xRepo else none) with
  | none => ⟨none, []⟩
  | some repo =>
    let r := s.record memory repo ucSensorId
    locked m
      ([1, UInt8.ofNat repo.ucRepoType,
          UInt8.ofNat (payloadSize (r.xSensorName.ucLength &&& ASDM_RECORD_FIELD_LENGTH_MASK))] ++
        singleEntry memory r)
      [ucSensorId]

/-! ### What is asked of the two requests -/

/-- Record `j` of a repository is that of a sensor. -/
def Store.Holds (s : Store) (memory : Memory) (repo : AMC_ASDM_SUPPORTED_REPO) (ucSensorId j : ℕ) :
    Prop :=
  j < (s.repository repo).ucTotalNumRecords ∧ (s.record memory repo j).ucId = ucSensorId

/-- The repository has a record of the sensor. -/
def Store.Knows (s : Store) (memory : Memory) (repo : AMC_ASDM_SUPPORTED_REPO) (ucSensorId : ℕ) :
    Prop :=
  ∃ j, s.Holds memory repo ucSensorId j

/-- A request for a single sensor is answered with the entry of that sensor in the response for all
sensors; for a sensor that the repository does not have it is refused, and no record is read. -/
structure Agrees (s : Store) (memory : Memory) (repo : AMC_ASDM_SUPPORTED_REPO) (ucSensorId : ℕ)
    (m : Mutex) : Prop where
  entry : ∀ j, s.Holds memory repo ucSensorId j →
    ∀ response ∈ (iPopulateAsdmGetSingleSensorResponse s memory repo.ucRepoType ucSensorId
      m).response, response.drop 3 = allEntry memory (s.record memory repo j)
  refused : ¬ s.Knows memory repo ucSensorId →
    iPopulateAsdmGetSingleSensorResponse s memory repo.ucRepoType ucSensorId m = ⟨none, []⟩

/-! ### The length of the values -/

/-- The values of a record are present with four bytes, or absent. -/
def ASDMSdrRecord.Sized (r : ASDMSdrRecord) : Prop :=
  r.xSensorValue.ucLength = 0 ∨ r.xSensorValue.ucLength = AMC_ASDM_SENSOR_SIZE_4B

/-- The records of a repository are there, each with the length of its values. -/
def Repository.Sound (x : Repository) : Prop :=
  x.sdr.length = x.ucTotalNumRecords ∧ ∀ r ∈ x.sdr, r.Sized

theorem iPopulateSdr_sized (i ucRepoType : ℕ) (d : Sensor) :
    (iPopulateSdr i ucRepoType d .zero).1.Sized := by
  unfold iPopulateSdr
  cases sdrReading ucRepoType with
  | none => exact .inl rfl
  | some repo =>
    simp only
    split_ifs with hname
    · exact .inl rfl
    · cases iMapUnitModifier (d.pxReadings repo.toNat).xSensorUnitModifier with
      | none => exact .inr rfl
      | some m =>
        exact .inr (congrArg (fun x => x.2.2.1.ucLength)
          ((iPopulateSdrStatistics_fixed _ _ _).trans (iPopulateSdrThresholds_fixed _ _)))

theorem populateRecord_sized (inp : Input) (repo : AMC_ASDM_SUPPORTED_REPO) (i : ℕ) (d : Sensor) :
    (populateRecord inp repo i d).1.Sized := by
  unfold populateRecord
  split_ifs
  · exact .inl rfl
  · exact iPopulateSdr_sized i repo.ucRepoType d

theorem populateRecords_sized {inp : Input} {repo : AMC_ASDM_SUPPORTED_REPO} :
    ∀ (i : ℕ) (ds : List Sensor) (x : List (ASDMSdrRecord × ASDMSdsRecord) × ℕ),
      populateRecords inp repo i ds = some x →
        x.1.length = ds.length ∧ ∀ p ∈ x.1, p.1.Sized
  | _, [], x, h => by
    obtain rfl := Option.some.inj h
    exact ⟨rfl, nofun⟩
  | i, d :: ds, x, h => by
    simp only [populateRecords] at h
    split_ifs at h with hok
    obtain ⟨y, hy, rfl⟩ := Option.map_eq_some_iff.mp h
    obtain ⟨hlen, hall⟩ := populateRecords_sized (i + 1) ds y hy
    refine ⟨congrArg (· + 1) hlen, fun p hp => ?_⟩
    rcases List.mem_cons.mp hp with rfl | hp
    · exact populateRecord_sized inp repo i d
    · exact hall p hp

/-- **A repository that was filled** has its records. -/
theorem initRepo_sound {inp : Input} {repo : AMC_ASDM_SUPPORTED_REPO} (hrepo : repo ∈ sensorRepos)
    (h : inp.stepFailure repo = none) : (initRepo inp repo).2.Sound := by
  have hfound : inp.ucNumFound repo = (inp.sensors repo).length := by
    cases repo with
    | FPT => exact absurd hrepo (by decide)
    | BOARD_INFO => exact absurd hrepo (by decide)
    | _ => rfl
  by_cases hnone : inp.ucNumFound repo = 0
  · unfold initRepo
    rw [if_pos hnone]
    exact ⟨hnone.symm, nofun⟩
  · obtain ⟨hinit, hfail⟩ := initRepo_sensors hrepo hnone
    obtain ⟨x, hx⟩ := populateRecords_isSome inp hrepo 0 (inp.sensors repo)
    obtain ⟨hlen, hall⟩ := populateRecords_sized 0 _ x hx
    rw [hfail] at h
    split_ifs at h with hsds hsdr
    rw [hinit, if_neg hsds, if_neg hsdr, hx]
    refine ⟨?_, fun r hr => ?_⟩
    · simpa [complete, hfound] using hlen
    · obtain ⟨p, hp, rfl⟩ := List.mem_map.mp hr
      exact hall p hp

/-- The records of a store that answers requests. -/
def Store.Sound (s : Store) : Prop :=
  s.iInitialised = true → ∀ repo ∈ sensorRepos, (s.repository repo).Sound

theorem Repository.update_sound {x : Repository} (h : x.Sound) (repo : AMC_ASDM_SUPPORTED_REPO)
    (pxAscData : ℕ → Sensor) (indices : List ℕ) : (x.update repo pxAscData indices).Sound := by
  refine ⟨?_, fun r hr => ?_⟩
  · simpa [Repository.update] using h.1
  · obtain ⟨k, hk, rfl⟩ := List.mem_mapIdx.mp hr
    have hsized := h.2 _ (List.getElem_mem hk)
    cases indices[k]? with
    | none => exact hsized
    | some i => exact hsized

theorem Repository.updateTotal_sound {x : Repository} (h : x.Sound) (a m t : ℕ) :
    (x.updateTotal a m t).Sound := by
  refine ⟨?_, fun r hr => ?_⟩
  · simpa [Repository.updateTotal] using h.1
  · obtain ⟨k, hk, rfl⟩ := List.mem_mapIdx.mp hr
    have hsized := h.2 _ (List.getElem_mem hk)
    split_ifs
    · exact hsized
    · exact hsized

theorem Store.update_sound {s : Store} (h : s.Sound) (pxAscData : ℕ → Sensor) :
    (s.update pxAscData).Sound := by
  unfold Store.update
  cases hinfo : s.pxAsdmSdrInfo with
  | none => exact h
  | some info =>
    intro hinit repo hrepo
    have hsound : ∀ r ∈ sensorRepos, (info r).Sound := by
      intro r hr
      have hr' := h hinit r hr
      simpa [Store.repository, hinfo] using hr'
    have hvalues : ∀ r ∈ sensorRepos, (if r ∈ [TEMP, VOLTAGE, CURRENT, POWER] then
        (info r).update r pxAscData (s.pucSensorIndex r) else info r).Sound := by
      intro r hr
      split_ifs
      · exact Repository.update_sound (hsound r hr) _ _ _
      · exact hsound r hr
    simp only [Store.repository, Option.map_some, Option.getD_some]
    by_cases htotal : repo = TOTAL_POWER
    · subst htotal
      rw [Function.update_self]
      exact Repository.updateTotal_sound (hvalues _ hrepo) _ _ _
    · rw [Function.update_of_ne htotal]
      exact hvalues repo hrepo

theorem Store.initialise_sound {s s' : Store} {inp : Input} {bound : Bool}
    (h : s.initialise inp bound = some s') : s'.Sound := by
  unfold Store.initialise at h
  set inp' : Input := { inp with fresh := s.pxAsdmSdrInfo.isNone } with hinp'
  simp only at h
  split_ifs at h with hfault htable
  · obtain rfl := Option.some.inj h
    intro hinit repo hrepo
    have hok : (iInitAsdm inp').1 = .OK := by
      simp only [Bool.and_eq_true, decide_eq_true_eq] at hinit
      exact hinit.1
    have hend := iInitAsdm_ending inp'
    rw [hok] at hend
    have hfail : inp'.failure = none := by
      cases hf : inp'.failure with
      | none => rfl
      | some e =>
        rw [hf] at hend
        exact absurd (hf.trans (congrArg some hend.symm)) (failure_ne_ok inp')
    have hstep : inp'.stepFailure repo = none := by
      unfold Input.failure at hfail
      split_ifs at hfail
      exact List.findSome?_eq_none_iff.mp hfail _ (by cases repo <;> decide)
    simp only [Store.repository, Option.map_some, Option.getD_some]
    rw [iInitAsdm_info hfail]
    exact initRepo_sound hrepo hstep
  · obtain rfl := Option.some.inj h
    intro hinit
    have hok : (iInitAsdm inp').1 = .OK := by
      simp only [Bool.and_eq_true, decide_eq_true_eq] at hinit
      exact hinit.1
    unfold iInitAsdm at hok
    rw [if_pos (by simpa [hinp'] using htable)] at hok
    exact absurd hok (by decide)

/-- **The records of every reachable store.** -/
theorem reaches_sound {s : Store} (h : Reaches step always .start s) : s.Sound := by
  refine h.invariant Store.Sound (fun hinit => absurd hinit Bool.false_ne_true) ?_
  intro s a s' hs _ hstep
  cases a with
  | initialise inp bound =>
    simp only [step] at hstep
    split_ifs at hstep
    · obtain rfl := Option.some.inj hstep
      exact hs
    · exact Store.initialise_sound hstep
  | update pxAscData =>
    obtain rfl := Option.some.inj hstep
    exact Store.update_sound hs pxAscData

/-! ### The result -/

theorem single_reply {s : Store} (repo : AMC_ASDM_SUPPORTED_REPO) (hinit : s.iInitialised = true)
    (memory : Memory) (ucSensorId : ℕ) (m : Mutex) :
    ∃ header, header.length = 3 ∧
      iPopulateAsdmGetSingleSensorResponse s memory repo.ucRepoType ucSensorId m =
        locked m (header ++ singleEntry memory (s.record memory repo ucSensorId)) [ucSensorId] := by
  have hmap : iMapAsdmRepo repo.ucRepoType = some repo := by cases repo <;> decide
  unfold iPopulateAsdmGetSingleSensorResponse
  rw [if_pos hinit, hmap]
  exact ⟨_, rfl, rfl⟩

/-- **The entries differ in their first byte.** -/
theorem singleEntry_ne_allEntry {memory : Memory} {r r' : ASDMSdrRecord} (h : r'.Sized) :
    singleEntry memory r ≠ allEntry memory r' := by
  intro heq
  have hfirst : UInt8.ofNat 1 = UInt8.ofNat r'.valueLen := (List.cons.inj heq).1
  rw [ASDMSdrRecord.valueLen] at hfirst
  rcases h with h | h
  · rw [h] at hfirst
    exact absurd hfirst (by decide)
  · rw [h] at hfirst
    exact absurd hfirst (by decide)

/-- **The two responses agree** exactly when the request for a single sensor is refused for another
reason: before the first initialisation has succeeded, without the mutex, or, for a sensor of the
repository, when the mutex cannot be released. -/
theorem single_sensor_agrees {s : Store} (h : Reaches step always .start s)
    {repo : AMC_ASDM_SUPPORTED_REPO} (hrepo : repo ∈ sensorRepos) (memory : Memory)
    (ucSensorId : ℕ) (m : Mutex) :
    Agrees s memory repo ucSensorId m ↔ s.iInitialised = false ∨ m.taken = false ∨
      (m.released = false ∧ s.Knows memory repo ucSensorId) := by
  by_cases hinit : s.iInitialised = true
  · obtain ⟨header, hheader, hreply⟩ := single_reply repo hinit memory ucSensorId m
    have hsound := reaches_sound h hinit repo hrepo
    have hrecord : ∀ j < (s.repository repo).ucTotalNumRecords, (s.record memory repo j).Sized := by
      intro j hj
      rw [← hsound.1] at hj
      rw [Store.record, List.getElem?_eq_getElem hj, Option.getD_some]
      exact hsound.2 _ (List.getElem_mem hj)
    constructor
    · intro hagrees
      refine .inr ?_
      by_contra hnot
      rw [not_or, Bool.not_eq_false, not_and_or, Bool.not_eq_false] at hnot
      obtain ⟨htaken, hrest⟩ := hnot
      by_cases hknows : s.Knows memory repo ucSensorId
      · have hreleased : m.released = true := hrest.resolve_right (not_not.mpr hknows)
        obtain ⟨j, hj⟩ := hknows
        have hentry := hagrees.entry j hj
          (header ++ singleEntry memory (s.record memory repo ucSensorId))
          (by rw [hreply]; simp [locked, htaken, hreleased])
        rw [← hheader, List.drop_left] at hentry
        exact singleEntry_ne_allEntry (hrecord j hj.1) hentry
      · have hrefused := hagrees.refused hknows
        rw [hreply] at hrefused
        simp [locked, htaken] at hrefused
    · rintro (hno | htaken | ⟨hreleased, hknows⟩)
      · exact absurd hno (by simp [hinit])
      · have hnone : locked m (header ++ singleEntry memory (s.record memory repo ucSensorId))
            [ucSensorId] = ⟨none, []⟩ := by simp [locked, htaken]
        rw [hnone] at hreply
        refine ⟨fun j _ response hresponse => ?_, fun _ => hreply⟩
        rw [hreply] at hresponse
        exact absurd hresponse (by simp)
      · refine ⟨fun j _ response hresponse => ?_, fun hunknown => absurd hknows hunknown⟩
        have hnone : (locked m (header ++ singleEntry memory (s.record memory repo ucSensorId))
            [ucSensorId]).response = none := by
          unfold locked
          split_ifs with htaken hreleased'
          · exact absurd hreleased' (by simp [hreleased])
          · rfl
          · rfl
        rw [hreply, hnone] at hresponse
        exact absurd hresponse (by simp)
  · have hnone : iPopulateAsdmGetSingleSensorResponse s memory repo.ucRepoType ucSensorId m =
        ⟨none, []⟩ := by
      unfold iPopulateAsdmGetSingleSensorResponse
      rw [if_neg hinit]
    refine iff_of_true ⟨fun j _ response hresponse => ?_, fun _ => hnone⟩
      (.inl (by simpa using hinit))
    rw [hnone] at hresponse
    exact absurd hresponse (by simp)

def zeroMemory : Memory := ⟨fun _ _ => .zero, fun _ => 0, fun _ => 0, fun _ => 0⟩

theorem exists_initialised : ∃ s, Reaches step always .start s ∧ s.iInitialised = true ∧
    s.Holds zeroMemory TEMP 1 0 := by
  have h : (Store.start.initialise oneSensor true).any (fun s => decide (s.iInitialised = true ∧
      0 < (s.repository TEMP).ucTotalNumRecords ∧ (s.record zeroMemory TEMP 0).ucId = 1)) = true := by
    decide +kernel
  obtain ⟨s, hs, hall⟩ := (Option.any_eq_true _ _).mp h
  obtain ⟨hinit, hcount, hid⟩ := of_decide_eq_true hall
  exact ⟨s, .next .start trivial (a := .initialise oneSensor true) hs, hinit, hcount, hid⟩

/-- Without the mutex the request is refused. -/
theorem single_sensor_agrees_refused : ∃ s : Store, s.iInitialised = true ∧
    Agrees s zeroMemory TEMP 1 ⟨false, true⟩ := by
  obtain ⟨s, hreach, hinit, -⟩ := exists_initialised
  exact ⟨s, hinit, (single_sensor_agrees hreach (by decide) zeroMemory 1 _).mpr (.inr (.inl rfl))⟩

/-- The request for the only temperature sensor is answered with another entry. -/
theorem not_single_sensor_agrees : ¬ ∀ s : Store, Reaches step always .start s →
    ∀ repo ∈ sensorRepos, ∀ (memory : Memory) (ucSensorId : ℕ) (m : Mutex),
      Agrees s memory repo ucSensorId m := by
  intro hall
  obtain ⟨s, hreach, hinit, hholds⟩ := exists_initialised
  obtain ⟨header, hheader, hreply⟩ := single_reply TEMP hinit zeroMemory 1 ⟨true, true⟩
  have hentry := (hall s hreach TEMP (by decide) zeroMemory 1 ⟨true, true⟩).entry 0 hholds
    (header ++ singleEntry zeroMemory (s.record zeroMemory TEMP 1)) (by rw [hreply]; rfl)
  rw [← hheader, List.drop_left] at hentry
  have hsound := reaches_sound hreach hinit TEMP (by decide)
  have hsized : (s.record zeroMemory TEMP 0).Sized := by
    have hlt : 0 < (s.repository TEMP).sdr.length := hsound.1.symm ▸ hholds.1
    rw [Store.record, List.getElem?_eq_getElem hlt, Option.getD_some]
    exact hsound.2 _ (List.getElem_mem hlt)
  exact singleEntry_ne_allEntry hsized hentry

end Amr.Asdm.Records
