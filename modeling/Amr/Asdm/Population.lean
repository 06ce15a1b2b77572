/-
# What the initialisation of the sensor repositories leaves

The steps of `iInitAsdm` that can fail are the allocations and the steps of the FPT and of the
board information, and the first of them that fails decides how it ends (`iInitAsdm_ending`). When
none fails, every repository has a record for each of its sensors. The declared size counts eight
bytes for a record, less than the total power alone takes when it is sent (`serialise`), so that an
initialisation with a sensor table is as it should be only when it fails.
-/
import Amr.Asdm.Records

namespace Amr.Asdm.Records

open Asc ByteStore AMC_ASDM_SUPPORTED_REPO

/-! ### A record as it is sent -/

/-- The byte that holds the length and the type of a field. -/
def typeLength (ucType ucLength : ℕ) : UInt8 :=
  UInt8.ofNat ((ucLength &&& ASDM_RECORD_FIELD_LENGTH_MASK) ||| ((ucType &&& 3) <<< 6))

/-- The length byte of a text field and the text. -/
def TextField.serialise (f : TextField) : List UInt8 :=
  typeLength f.ucType f.ucLength ::
    (List.range (f.ucLength &&& ASDM_RECORD_FIELD_LENGTH_MASK)).map (f.pucBytesValue.getD · 0)

/-- The number of bytes of the values of a record; no record has more than four. -/
def ASDMSdrRecord.valueLen (r : ASDMSdrRecord) : ℕ :=
  r.xSensorValue.ucLength &&& ASDM_RECORD_FIELD_LENGTH_MASK

/-- A value that is sent where its bit is set. -/
def ASDMSdrRecord.optional (r : ASDMSdrRecord) (mask ulValue : ℕ) : List UInt8 :=
  if r.ucThresholdSupportedBitMask &&& mask ≠ 0 then bytesOf r.valueLen ulValue else []

/-- A record as `iPopulateAsdmGetSdrResponse` sends it. -/
def ASDMSdrRecord.serialise (r : ASDMSdrRecord) : List UInt8 :=
  UInt8.ofNat r.ucId :: (r.xSensorName.serialise ++
    typeLength r.xSensorValue.ucType r.xSensorValue.ucLength ::
      bytesOf r.valueLen r.xSensorValue.ulValue ++
    r.xSensorBaseUnit.serialise ++
    [UInt8.ofNat (r.cUnitModifier % 2 ^ 8).toNat, UInt8.ofNat r.ucThresholdSupportedBitMask] ++
    r.optional 0x20 r.ulLowerFatalLimit ++ r.optional 0x10 r.ulLowerCritLimit ++
    r.optional 0x08 r.ulLowerWarnLimit ++ r.optional 0x04 r.ulUpperFatalLimit ++
    r.optional 0x02 r.ulUpperCritLimit ++ r.optional 0x01 r.ulUpperWarnLimit ++
    [UInt8.ofNat r.ucSensorStatus] ++
    r.optional ASDM_SDR_THRESHOLD_SENSOR_AVG_MASK r.ulAverageValue ++
    r.optional ASDM_SDR_THRESHOLD_SENSOR_MAX_MASK r.ulMaxValue)

/-- The bytes of a repository as it is sent, with header and end marker. -/
def Repository.size (x : Repository) : ℕ :=
  ASDM_HEADER_BYTES + (x.sdr.map fun r => r.serialise.length).sum + ASDM_EOR_BYTES

/-! ### What is asked of the initialisation -/

def Sensor.reading (d : Sensor) (repo : AMC_ASDM_SUPPORTED_REPO) : Readings :=
  d.pxReadings (if repo = TOTAL_POWER then POWER else repo).toNat

/-- A limit or a statistic is in the record where it is valid, and its bit says so. -/
def Marked (r : ASDMSdrRecord) (mask limit stored : ℕ) : Prop :=
  if limit = ASC_SENSOR_INVALID_VAL then r.ucThresholdSupportedBitMask &&& mask = 0
  else r.ucThresholdSupportedBitMask &&& mask ≠ 0 ∧ stored = limit

/-- Record `i` is fully populated from a sensor. -/
structure Populated (repo : AMC_ASDM_SUPPORTED_REPO) (i : ℕ) (d : Sensor) (r : ASDMSdrRecord) :
    Prop where
  id : r.ucId = i + 1
  name : r.xSensorName = .ofText d.pcSensorName (d.pcSensorName.length + 1)
  value : r.xSensorValue = ⟨0, AMC_ASDM_SENSOR_SIZE_4B, (d.reading repo).ulSensorValue⟩
  unit : r.xSensorBaseUnit = .ofText (pcConvertRepoBaseUnitStr repo.ucRepoType)
    ((pcConvertRepoBaseUnitStr repo.ucRepoType).length + 1)
  modifier : iMapUnitModifier (d.reading repo).xSensorUnitModifier = some r.cUnitModifier
  status : r.ucSensorStatus = 1
  lowerFatal : Marked r 0x20 (d.reading repo).ulLowerFatalLimit r.ulLowerFatalLimit
  lowerCritical : Marked r 0x10 (d.reading repo).ulLowerCriticalLimit r.ulLowerCritLimit
  lowerWarning : Marked r 0x08 (d.reading repo).ulLowerWarningLimit r.ulLowerWarnLimit
  upperFatal : Marked r 0x04 (d.reading repo).ulUpperFatalLimit r.ulUpperFatalLimit
  upperCritical : Marked r 0x02 (d.reading repo).ulUpperCriticalLimit r.ulUpperCritLimit
  upperWarning : Marked r 0x01 (d.reading repo).ulUpperWarningLimit r.ulUpperWarnLimit
  average : Marked r ASDM_SDR_THRESHOLD_SENSOR_AVG_MASK (d.reading repo).ulAverageSensorValue
    r.ulAverageValue
  maximum : Marked r ASDM_SDR_THRESHOLD_SENSOR_MAX_MASK (d.reading repo).ulMaxSensorValue
    r.ulMaxValue

/-- A record for the sensor can be populated: the name fits a field, the unit modifier is known and
there is memory. -/
def Populatable (inp : Input) (repo : AMC_ASDM_SUPPORTED_REPO) (d : Sensor) : Prop :=
  d.pcSensorName.length + 1 < ASDM_RECORD_FIELD_BYTES_MAX ∧
    (iMapUnitModifier (d.reading repo).xSensorUnitModifier).isSome ∧
    inp.sdrRecord repo = true ∧ inp.sdsRecord repo = true

/-- A repository has its records, in order and fully populated, and declares enough bytes. -/
structure Filled (inp : Input) (repo : AMC_ASDM_SUPPORTED_REPO) (x : Repository) : Prop where
  count : x.ucTotalNumRecords = (inp.sensors repo).length
  length : x.sdr.length = (inp.sensors repo).length
  records : ∀ i, ∀ d ∈ (inp.sensors repo)[i]?, ∀ r ∈ x.sdr[i]?, Populated repo i d r
  size : x.size ≤ TOTAL_NUM_BYTES_MULTIPLE * x.usTotalNumBytes

/-- What the initialisation is to do: it returns, it fills the sensor repositories where it
succeeds, and fails where a record cannot be populated. -/
structure Initialises (inp : Input) (x : Ending × (AMC_ASDM_SUPPORTED_REPO → Repository)) :
    Prop where
  returns : x.1 ≠ .fault
  filled : x.1 = .OK → ∀ repo ∈ sensorRepos, Filled inp repo (x.2 repo)
  refused : (∃ repo ∈ sensorRepos, ∃ d ∈ inp.sensors repo, ¬ Populatable inp repo d) →
    x.1 = .ERROR

/-! ### How it ends -/

/-- How a pass of the loop over the repositories fails. -/
def Input.stepFailure (inp : Input) (repo : AMC_ASDM_SUPPORTED_REPO) : Option Ending :=
  if inp.ucNumFound repo = 0 then none
  else
    match repo with
    | FPT => if inp.iPopulateAsdmFpt.isSome then none else some .ERROR
    | BOARD_INFO => if inp.iPopulateAsdmBoardInfo.isSome then none else some .ERROR
    | repo =>
      if inp.sdsRecord repo = false then some .ERROR
      else if inp.sdrRecord repo = false then some .fault
      else none

/-- The first step that fails, and whether its failure is noticed. -/
def Input.failure (inp : Input) : Option Ending :=
  if (inp.ascData && inp.fresh && inp.sdrInfo) = false then some .ERROR
  else if inp.sdsInfo = false then some .fault
  else repos.findSome? inp.stepFailure

variable {inp : Input}

theorem populateRecord_status {repo : AMC_ASDM_SUPPORTED_REPO} (h : repo ∈ sensorRepos) (i : ℕ)
    (d : Sensor) : (populateRecord inp repo i d).2.2.2 = true := by
  have hmap : iMapAsdmRepo repo.ucRepoType = some repo := by cases repo <;> decide
  have htag : (iMapSensorTag repo).isSome = true := by
    revert h
    cases repo <;> decide
  unfold populateRecord
  split_ifs
  · rfl
  · simp only [iPopulateSds, hmap]
    exact htag

theorem populateRecords_isSome (inp : Input) {repo : AMC_ASDM_SUPPORTED_REPO}
    (h : repo ∈ sensorRepos) :
    ∀ (i : ℕ) (ds : List Sensor), ∃ x, populateRecords inp repo i ds = some x
  | _, [] => ⟨_, rfl⟩
  | i, d :: ds => by
    obtain ⟨x, hx⟩ := populateRecords_isSome inp h (i + 1) ds
    simp only [populateRecords, populateRecord_status h, if_true, hx]
    exact ⟨_, rfl⟩

theorem initRepo_sensors {repo : AMC_ASDM_SUPPORTED_REPO} (h : repo ∈ sensorRepos)
    (hsome : inp.ucNumFound repo ≠ 0) :
    initRepo inp repo =
        (if inp.sdsRecord repo = false then (.ERROR, failed inp repo)
        else if inp.sdrRecord repo = false then (.fault, failed inp repo)
        else
          match populateRecords inp repo 0 (inp.sensors repo) with
          | some x => complete inp repo x.1 x.2
          | none => (.ERROR, .zero)) ∧
      inp.stepFailure repo =
        if inp.sdsRecord repo = false then some .ERROR
        else if inp.sdrRecord repo = false then some .fault
        else none := by
  unfold initRepo Input.stepFailure
  rw [if_neg hsome, if_neg hsome]
  cases repo with
  | FPT => exact absurd h (by decide)
  | BOARD_INFO => exact absurd h (by decide)
  | _ => exact ⟨rfl, rfl⟩

/-- **A pass of the loop** fails as its steps do: no record is refused. -/
theorem initRepo_ending (inp : Input) (repo : AMC_ASDM_SUPPORTED_REPO) :
    (initRepo inp repo).1 = (inp.stepFailure repo).getD .OK := by
  by_cases hnone : inp.ucNumFound repo = 0
  · unfold initRepo Input.stepFailure
    rw [if_pos hnone, if_pos hnone]
    rfl
  · by_cases hrepo : repo ∈ sensorRepos
    · obtain ⟨hinit, hfail⟩ := initRepo_sensors hrepo hnone
      obtain ⟨x, hx⟩ := populateRecords_isSome inp hrepo 0 (inp.sensors repo)
      rw [hinit, hfail, hx]
      split_ifs <;> rfl
    · have hcases : repo = FPT ∨ repo = BOARD_INFO := by
        revert hrepo
        cases repo <;> decide
      unfold initRepo Input.stepFailure
      rw [if_neg hnone, if_neg hnone]
      rcases hcases with rfl | rfl
      · cases h : inp.iPopulateAsdmFpt <;> simp [h, complete]
      · cases h : inp.iPopulateAsdmBoardInfo <;> simp [h, complete]

theorem stepFailure_ne_ok (inp : Input) (repo : AMC_ASDM_SUPPORTED_REPO) :
    inp.stepFailure repo ≠ some .OK := by
  unfold Input.stepFailure
  cases repo <;> simp only <;> split_ifs <;> simp

theorem failure_ne_ok (inp : Input) : inp.failure ≠ some .OK := by
  unfold Input.failure
  split_ifs
  · simp
  · simp
  · intro h
    obtain ⟨repo, -, hrepo⟩ := List.exists_of_findSome?_eq_some h
    exact stepFailure_ne_ok inp repo hrepo

/-- **The loop over the repositories** ends with the first failure. -/
theorem initRepos_ending (inp : Input) :
    ∀ (l : List AMC_ASDM_SUPPORTED_REPO) (info : AMC_ASDM_SUPPORTED_REPO → Repository),
      (initRepos inp l info).1 = (l.findSome? inp.stepFailure).getD .OK
  | [], _ => rfl
  | repo :: rest, info => by
    have hend := initRepo_ending inp repo
    have hnot := stepFailure_ne_ok inp repo
    simp only [initRepos, List.findSome?_cons, hend]
    cases hstep : inp.stepFailure repo with
    | none => simpa using initRepos_ending inp rest _
    | some e =>
      have hne : e ≠ .OK := fun he => hnot (he ▸ hstep)
      simp [hne]

theorem initRepos_info (inp : Input) :
    ∀ (l : List AMC_ASDM_SUPPORTED_REPO) (info : AMC_ASDM_SUPPORTED_REPO → Repository),
      (initRepos inp l info).1 = .OK → l.Nodup →
      ∀ repo, (initRepos inp l info).2 repo = if repo ∈ l then (initRepo inp repo).2 else info repo
  | [], _, _, _, repo => rfl
  | r :: rest, info, hok, hnodup, repo => by
    obtain ⟨hnot, hrest⟩ := List.nodup_cons.mp hnodup
    rw [initRepos] at hok ⊢
    by_cases hstep : (initRepo inp r).1 = .OK
    · rw [if_pos hstep] at hok ⊢
      rw [initRepos_info inp rest _ hok hrest repo]
      by_cases hr : repo = r
      · subst hr
        simp [hnot]
      · simp [hr]
    · rw [if_neg hstep] at hok
      exact absurd hok hstep

/-- **How the initialisation ends** is decided by the first failure. -/
theorem iInitAsdm_ending (inp : Input) : (iInitAsdm inp).1 = inp.failure.getD .OK := by
  unfold iInitAsdm Input.failure
  split_ifs
  · rfl
  · rfl
  · exact initRepos_ending inp repos _

theorem iInitAsdm_info (h : inp.failure = none) (repo : AMC_ASDM_SUPPORTED_REPO) :
    (iInitAsdm inp).2 repo = (initRepo inp repo).2 := by
  have hok : (iInitAsdm inp).1 = .OK := by rw [iInitAsdm_ending, h]; rfl
  unfold Input.failure at h
  unfold iInitAsdm at hok ⊢
  split_ifs at h with hfresh hsds
  rw [if_neg hfresh, if_neg hsds] at hok ⊢
  rw [initRepos_info inp repos _ hok (by decide) repo, if_pos (by cases repo <;> decide)]

/-! ### A populated record -/

/-- The fields that the thresholds and the statistics leave alone. -/
def ASDMSdrRecord.fixed (r : ASDMSdrRecord) :=
  (r.ucId, r.xSensorName, r.xSensorValue, r.xSensorBaseUnit, r.cUnitModifier)

theorem threshold_fixed (limit mask : ℕ) {store : ASDMSdrRecord → ASDMSdrRecord}
    (h : ∀ r, (store r).fixed = r.fixed) (x : ASDMSdrRecord × ℕ) :
    (threshold limit mask store x).1.fixed = x.1.fixed := by
  unfold threshold
  split_ifs
  · exact h x.1
  · rfl

theorem iPopulateSdrThresholds_fixed (d : Readings) (r : ASDMSdrRecord) :
    (iPopulateSdrThresholds d r).1.fixed = r.fixed := by
  unfold iPopulateSdrThresholds
  simp only
  iterate 6
    refine (threshold_fixed _ _ ?_ _).trans ?_
    · exact fun _ => rfl
  rfl

theorem iPopulateSdrStatistics_fixed (d : Readings) (r : ASDMSdrRecord) (n : ℕ) :
    (iPopulateSdrStatistics d r n).1.fixed = r.fixed := by
  unfold iPopulateSdrStatistics
  simp only
  iterate 2
    refine (threshold_fixed _ _ ?_ _).trans ?_
    · exact fun _ => rfl
  rfl

/-- **A sensor whose name and unit modifier can be stored** gets a record with its identity, its
value and its unit. -/
theorem iPopulateSdr_fixed {repo : AMC_ASDM_SUPPORTED_REPO} (hrepo : repo ∈ sensorRepos) (i : ℕ)
    {d : Sensor} (hname : d.pcSensorName.length + 1 < ASDM_RECORD_FIELD_BYTES_MAX) {m : ℤ}
    (hmod : iMapUnitModifier (d.reading repo).xSensorUnitModifier = some m) :
    (iPopulateSdr i repo.ucRepoType d .zero).1.fixed =
      ((i + 1) % 2 ^ 8, .ofText d.pcSensorName (d.pcSensorName.length + 1),
        ⟨0, AMC_ASDM_SENSOR_SIZE_4B, (d.reading repo).ulSensorValue⟩,
        .ofText (pcConvertRepoBaseUnitStr repo.ucRepoType)
          ((pcConvertRepoBaseUnitStr repo.ucRepoType).length + 1), m) := by
  have hreading : sdrReading repo.ucRepoType =
      some (if repo = TOTAL_POWER then POWER else repo) := by
    revert hrepo
    cases repo <;> decide
  have hlen : (d.pcSensorName.length + 1) % 2 ^ 16 = d.pcSensorName.length + 1 :=
    Nat.mod_eq_of_lt (hname.trans (by decide))
  unfold iPopulateSdr
  simp only [hreading, hlen, if_neg (not_le.mpr hname)]
  unfold Sensor.reading at hmod ⊢
  simp only [hmod]
  rw [iPopulateSdrStatistics_fixed, iPopulateSdrThresholds_fixed]
  rfl

theorem le_length_serialise (r : ASDMSdrRecord) :
    7 + (r.xSensorName.ucLength &&& ASDM_RECORD_FIELD_LENGTH_MASK) + r.valueLen +
      (r.xSensorBaseUnit.ucLength &&& ASDM_RECORD_FIELD_LENGTH_MASK) ≤ r.serialise.length := by
  simp only [ASDMSdrRecord.serialise, TextField.serialise, List.length_cons, List.length_append,
    List.length_map, List.length_range, List.length_nil, length_bytesOf]
  omega

/-! ### The total power -/

theorem le_length_serialise_totalPower (stray : ℕ → Readings) :
    29 ≤ (iPopulateSdr 0 TOTAL_POWER.ucRepoType (xTotalPowerData true stray)
      .zero).1.serialise.length := by
  have hfixed := iPopulateSdr_fixed (by decide : TOTAL_POWER ∈ sensorRepos) 0
    (d := xTotalPowerData true stray) (m := -3) (by simp [xTotalPowerData, text]; decide) rfl
  have hlen := le_length_serialise
    (iPopulateSdr 0 TOTAL_POWER.ucRepoType (xTotalPowerData true stray) .zero).1
  generalize (iPopulateSdr 0 TOTAL_POWER.ucRepoType (xTotalPowerData true stray) .zero).1 = r
    at hfixed hlen
  simp only [ASDMSdrRecord.fixed, Prod.mk.injEq] at hfixed
  obtain ⟨-, hname, hvalue, hunit, -⟩ := hfixed
  have hchars : (xTotalPowerData true stray).pcSensorName.length = 11 := by
    rw [xTotalPowerData, text, List.length_map]
    rfl
  have hnameLen : r.xSensorName.ucLength = 12 := by
    rw [hname, TextField.ofText, hchars]
    exact (by decide : (11 + 1) &&& ASDM_RECORD_FIELD_LENGTH_MASK = 12)
  have hunitLen : r.xSensorBaseUnit.ucLength = 6 := by
    rw [hunit]
    decide
  have hvalueLen : r.xSensorValue.ucLength = 4 := by
    rw [hvalue]
    rfl
  have hsum : 7 + (12 &&& ASDM_RECORD_FIELD_LENGTH_MASK) + (4 &&& ASDM_RECORD_FIELD_LENGTH_MASK) +
      (6 &&& ASDM_RECORD_FIELD_LENGTH_MASK) = 29 := by decide
  rwa [ASDMSdrRecord.valueLen, hvalueLen, hnameLen, hunitLen, hsum] at hlen

theorem length_serialise_zero : ASDMSdrRecord.zero.serialise.length = 7 := rfl

/-- **The total power takes more bytes than its repository declares.** -/
theorem totalPower_not_covered (hlist : inp.iSensorListInitialised = true)
    (hok : inp.stepFailure TOTAL_POWER = none) :
    TOTAL_NUM_BYTES_MULTIPLE * (initRepo inp TOTAL_POWER).2.usTotalNumBytes <
      (initRepo inp TOTAL_POWER).2.size := by
  have hsensors : inp.sensors TOTAL_POWER =
      [xTotalPowerData inp.powerSensorsEnabled inp.stray] := by simp [Input.sensors, hlist]
  have hsome : inp.ucNumFound TOTAL_POWER ≠ 0 := by simp [Input.ucNumFound, hsensors]
  obtain ⟨hinit, hfail⟩ := initRepo_sensors (by decide) hsome
  rw [hfail] at hok
  split_ifs at hok with hsds hsdr
  rw [hinit, if_neg hsds, if_neg hsdr, hsensors]
  cases inp.powerSensorsEnabled with
  | false =>
    have hrecords : populateRecords inp TOTAL_POWER 0 [xTotalPowerData false inp.stray] =
        some ([(.zero, inp.sdsMemory)], 0) := rfl
    simp only [hrecords, complete, Repository.size, List.map_cons, List.map_nil, List.sum_cons,
      List.sum_nil, length_serialise_zero]
    decide
  | true =>
    have hrecords : populateRecords inp TOTAL_POWER 0 [xTotalPowerData true inp.stray] =
        some ([((iPopulateSdr 0 TOTAL_POWER.ucRepoType (xTotalPowerData true inp.stray) .zero).1,
          (iPopulateSds 0 TOTAL_POWER.ucRepoType (xTotalPowerData true inp.stray)
            inp.sdsMemory).1)], 8) := rfl
    simp only [hrecords, complete, Repository.size, List.map_cons, List.map_nil, List.sum_cons,
      List.sum_nil]
    have hlen := le_length_serialise_totalPower inp.stray
    have hbytes : usTotalNumBytes 8 = 2 := by decide
    rw [hbytes]
    unfold TOTAL_NUM_BYTES_MULTIPLE ASDM_HEADER_BYTES ASDM_EOR_BYTES
    omega

/-! ### The result -/

theorem Input.sensors_of_not_listed (hlist : inp.iSensorListInitialised = false)
    (repo : AMC_ASDM_SUPPORTED_REPO) : inp.sensors repo = [] := by
  cases repo <;> simp [Input.sensors, iPopulateRepoSensorList, hlist]

theorem filled_of_not_listed (hlist : inp.iSensorListInitialised = false)
    {repo : AMC_ASDM_SUPPORTED_REPO} (h : repo ∈ sensorRepos) :
    Filled inp repo (initRepo inp repo).2 := by
  have hnone : inp.sensors repo = [] := inp.sensors_of_not_listed hlist repo
  have hfound : inp.ucNumFound repo = 0 := by
    revert h
    cases repo <;> simp [Input.ucNumFound, hnone, sensorRepos]
  have hinit : initRepo inp repo = complete inp repo [] 0 := by
    unfold initRepo
    rw [if_pos hfound]
  rw [hinit]
  refine ⟨?_, ?_, ?_, ?_⟩
  · rw [hnone]
    exact hfound
  · rw [hnone]
    rfl
  · intro i d hd
    simp [hnone] at hd
  · exact (by decide : ASDM_HEADER_BYTES + 0 + ASDM_EOR_BYTES ≤
      TOTAL_NUM_BYTES_MULTIPLE * usTotalNumBytes 0)

/-- **The initialisation does what it is to do** exactly when a step fails and its failure is
noticed, or when no step fails and there is no sensor table. -/
theorem iInitAsdm_initialises (inp : Input) :
    Initialises inp (iInitAsdm inp) ↔
      inp.failure = some .ERROR ∨ (inp.failure = none ∧ inp.iSensorListInitialised = false) := by
  have hend := iInitAsdm_ending inp
  constructor
  · intro h
    cases hfail : inp.failure with
    | none =>
      refine .inr ⟨rfl, ?_⟩
      rw [hfail] at hend
      by_contra hlist
      rw [Bool.not_eq_false] at hlist
      have hsize := (h.filled hend TOTAL_POWER (by decide)).size
      rw [iInitAsdm_info hfail] at hsize
      have hok : inp.stepFailure TOTAL_POWER = none := by
        unfold Input.failure at hfail
        split_ifs at hfail
        exact List.findSome?_eq_none_iff.mp hfail _ (by decide)
      exact absurd (totalPower_not_covered hlist hok) (not_lt.mpr hsize)
    | some e =>
      rw [hfail] at hend
      cases e with
      | ERROR => exact .inl rfl
      | fault => exact absurd hend h.returns
      | OK => exact absurd hfail (failure_ne_ok inp)
  · rintro (hfail | ⟨hfail, hlist⟩)
    · rw [hfail] at hend
      refine ⟨?_, ?_, fun _ => hend⟩
      · rw [hend]
        decide
      · rw [hend]
        exact fun hok => absurd hok (by decide)
    · rw [hfail] at hend
      refine ⟨?_, ?_, ?_⟩
      · rw [hend]
        decide
      · intro _ repo hrepo
        rw [iInitAsdm_info hfail]
        exact filled_of_not_listed hlist hrepo
      · rintro ⟨repo, -, d, hd, -⟩
        rw [inp.sensors_of_not_listed hlist] at hd
        exact absurd hd List.not_mem_nil

/-- A temperature sensor with a unit modifier that `iMapUnitModifier` does not know. -/
def unknownModifier : Sensor where
  pcSensorName := text ['T', 'e', 'm', 'p']
  ucSensorId := 1
  ucSensorType := 1
  ucTotalPowerSensor := false
  pxSensorEnabled := true
  pxReadings := fun _ => totalPowerReadings 5

/-- A table with that sensor, and no step that fails. -/
def oneSensor : Input where
  pxAscData := [unknownModifier]
  ascData := true
  iSensorListInitialised := true
  fresh := true
  powerSensorsEnabled := true
  stray := fun _ => totalPowerReadings 0
  sdrInfo := true
  sdsInfo := true
  sdrRecord := fun _ => true
  sdsRecord := fun _ => true
  sdsMemory := ⟨0, ⟨0, 0, 0⟩, 0, 0, 0⟩
  iGetFptData := false
  iPopulateAsdmFpt := none
  iGetBoardInfoData := false
  iPopulateAsdmBoardInfo := none
  length_le := by decide

/-- The record of the sensor cannot be populated, and the initialisation succeeds. -/
theorem not_iInitAsdm_initialises : ¬ ∀ inp : Input, Initialises inp (iInitAsdm inp) := by
  intro hall
  have hend : (iInitAsdm oneSensor).1 = .OK := by
    rw [iInitAsdm_ending]
    rfl
  have hrefused := (hall oneSensor).refused
    ⟨TEMP, by decide, unknownModifier, List.mem_singleton.mpr rfl, fun h => by
      have hmod := h.2.1
      exact absurd hmod (by decide)⟩
  rw [hend] at hrefused
  exact absurd hrefused (by decide)

end Amr.Asdm.Records
