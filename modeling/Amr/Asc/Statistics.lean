/-
# The statistics of a sensor

`asc_proxy_driver.c`: `vProxyDriverTask`, which samples every sensor under the mutex and then raises
an event for each reading over an upper limit, interleaved with the reset functions. The average is
computed with a count of readings that the task keeps and that no reset clears; a failed read leaves
the value that the checks use.

The statistics are those of the values since the last reset in the runs in which a sensor that was
read is not read again after a reset, and the values of a cycle are what its checks see.
-/
import Amr.Asc.Sensors
import Amr.Lib.Transition

namespace Amr.Asc

open Transition

variable {n : ℕ}

/-! ### One reading -/

/-- The value that a `uint32_t` has after the assignment of a number: its integer part, and for a
number out of range, for which the language defines none, what `undef` says. -/
def toUInt32 (undef : ℚ → ℕ) (x : ℚ) : ℕ :=
  if -1 < x ∧ x < 2 ^ 32 then ⌊x⌋.toNat else undef x

/-- The value of an `int` after an increment, with a wrap. -/
def increment (i : ℤ) : ℤ := (i + 1 + 2 ^ 31) % 2 ^ 32 - 2 ^ 31

/-- The new average: the old one less its share, plus the share of the value that was read. -/
def average (undef : ℚ → ℕ) (ulAverageSensorValue : ℕ) (iNumberOfReadings : ℤ)
    (fTempSensorVal : ℚ) : ℕ :=
  toUInt32 undef
    (((ulAverageSensorValue - ulAverageSensorValue / (iNumberOfReadings % 2 ^ 32).toNat : ℕ) : ℚ) +
      fTempSensorVal / iNumberOfReadings)

/-- The readings of a type after a read, which succeeded with a value or failed, and the count of
readings of the task. -/
def ASCProxyDriverSensorReadings.sample (undef : ℚ → ℕ) (r : ASCProxyDriverSensorReadings)
    (iNumberOfReadings : ℤ) : Option ℚ → ASCProxyDriverSensorReadings × ℤ
  | some fTempSensorVal =>
    ({ r with
      ulSensorValue := toUInt32 undef fTempSensorVal
      xSensorStatus := .PRESENT_AND_VALID
      ulAverageSensorValue :=
        average undef r.ulAverageSensorValue (increment iNumberOfReadings) fTempSensorVal
      ulMaxSensorValue := max r.ulMaxSensorValue (toUInt32 undef fTempSensorVal) },
      increment iNumberOfReadings)
  | none => ({ r with xSensorStatus := .DATA_NOT_AVAILABLE }, iNumberOfReadings)

/-- `ASC_PROXY_DRIVER_EVENTS` that the task raises. -/
inductive ASC_PROXY_DRIVER_EVENTS
  | SENSOR_UPDATE_COMPLETE
  | SENSOR_UPPER_WARNING
  | SENSOR_UPPER_CRITICAL
  | SENSOR_UPPER_FATAL
  deriving DecidableEq, Repr

def reaches (limit ulSensorValue : ℕ) : Bool :=
  decide (ASC_SENSOR_INVALID_VAL ≠ limit) && decide (limit ≤ ulSensorValue)

/-- The event for a value: the most severe of the upper limits that it reaches. -/
def ASCProxyDriverSensorReadings.alarm (r : ASCProxyDriverSensorReadings) (ulSensorValue : ℕ) :
    Option ASC_PROXY_DRIVER_EVENTS :=
  if reaches r.ulUpperFatalLimit ulSensorValue then some .SENSOR_UPPER_FATAL
  else if reaches r.ulUpperCriticalLimit ulSensorValue then some .SENSOR_UPPER_CRITICAL
  else if reaches r.ulUpperWarningLimit ulSensorValue then some .SENSOR_UPPER_WARNING
  else none

structure EVLSignal where
  ucEventType : ASC_PROXY_DRIVER_EVENTS
  ucInstance : UInt8
  ucAdditionalData : ASC_PROXY_DRIVER_SENSOR_TYPE
  deriving DecidableEq, Repr

/-! ### The task -/

/-- What the task does after the samples of a cycle: it looks at each sensor, and at each reading of
a sensor that is enabled. -/
inductive Check (n : ℕ)
  | sensor (i : Fin n)
  | reading (i : Fin n) (j : ASC_PROXY_DRIVER_SENSOR_TYPE)
  deriving DecidableEq

structure Sampler (n : ℕ) where
  table : SensorTable n
  iNumberOfReadings : Fin n → ASC_PROXY_DRIVER_SENSOR_TYPE → ℤ
  /-- The checks of the cycle that are still to be made; `none` between cycles. -/
  checks : Option (List (Check n))
  /-- The events for upper limits that the cycle has raised. -/
  events : List EVLSignal
  /-- The cycle has raised `SENSOR_UPDATE_COMPLETE`. -/
  complete : Bool
  /-- The values stored since the last reset of a sensor, latest first. -/
  stored : Fin n → ASC_PROXY_DRIVER_SENSOR_TYPE → List ℕ
  /-- The value that the cycle has stored. -/
  reading : Fin n → ASC_PROXY_DRIVER_SENSOR_TYPE → Option ℕ

/-- What the reads of a cycle give: whether a sensor is enabled, and a value for each type. -/
structure Bench (n : ℕ) where
  pxSensorEnabled : Fin n → Bool
  read : Fin n → ASC_PROXY_DRIVER_SENSOR_TYPE → Option ℚ

inductive Reset
  | all
  | byId (ucId : UInt8)
  | byName (pcName : List Char)

inductive Action (n : ℕ)
  /-- The task takes the mutex, reads the sensors and releases it. -/
  | sample (taken released : Bool) (b : Bench n)
  /-- The next check, and whether the sensor is enabled by now. -/
  | check (pxSensorEnabled : Bool)
  /-- One of the reset functions, if it takes the mutex. -/
  | reset (r : Reset) (taken : Bool)

namespace Sampler

/-- The task reads type `j` of sensor `i` in the cycle. -/
def reads (s : Sampler n) (b : Bench n) (i : Fin n) (j : ASC_PROXY_DRIVER_SENSOR_TYPE) : Bool :=
  b.pxSensorEnabled i && (s.table i).ppxReadSensorFunc j

/-- The reading of a type and its count after the samples. -/
def sampled (undef : ℚ → ℕ) (s : Sampler n) (b : Bench n) (i : Fin n)
    (j : ASC_PROXY_DRIVER_SENSOR_TYPE) : ASCProxyDriverSensorReadings × ℤ :=
  if s.reads b i j then
    ((s.table i).pxReadings j).sample undef (s.iNumberOfReadings i j) (b.read i j)
  else ((s.table i).pxReadings j, s.iNumberOfReadings i j)

def taken (undef : ℚ → ℕ) (s : Sampler n) (b : Bench n) (i : Fin n)
    (j : ASC_PROXY_DRIVER_SENSOR_TYPE) : Option ℕ :=
  if s.reads b i j then (b.read i j).map (toUInt32 undef) else none

/-- The loops over the sensors and their types. -/
def sampleAll (undef : ℚ → ℕ) (s : Sampler n) (b : Bench n) : Sampler n where
  table := fun i => { s.table i with pxReadings := fun j => (s.sampled undef b i j).1 }
  iNumberOfReadings := fun i j => (s.sampled undef b i j).2
  checks := none
  events := []
  complete := false
  stored := fun i j => (s.taken undef b i j).toList ++ s.stored i j
  reading := s.taken undef b

def startChecks (s : Sampler n) : Sampler n :=
  { s with checks := some ((List.finRange n).map .sensor) }

def skip (s : Sampler n) : Sampler n :=
  { s with events := [], complete := false, reading := fun _ _ => none }

/-- The signal for a value of type `j` of sensor `i`. -/
def signal (s : Sampler n) (i : Fin n) (j : ASC_PROXY_DRIVER_SENSOR_TYPE) (x : ℕ) :
    Option EVLSignal :=
  (((s.table i).pxReadings j).alarm x).map fun e => ⟨e, (s.table i).ucSensorId, j⟩

def resets (s : Sampler n) : Reset → Fin n → Bool
  | .all, _ => true
  | .byId ucId, i => decide (some i = s.table.byId ucId)
  | .byName pcName, i => decide (some i = s.table.byName pcName)

def resetTable (t : SensorTable n) : Reset → SensorTable n
  | .all => t.iASC_ResetAllSensorData
  | .byId ucId => t.iASC_ResetSingleSensorDataById ucId
  | .byName pcName => t.iASC_ResetSingleSensorDataByName pcName

def reset (s : Sampler n) (r : Reset) : Sampler n :=
  { s with
    table := resetTable s.table r
    stored := fun i j => if s.resets r i then [] else s.stored i j }

theorem resetTable_apply (s : Sampler n) (r : Reset) (i : Fin n) :
    resetTable s.table r i = if s.resets r i then (s.table i).reset else s.table i := by
  cases r with
  | all => rfl
  | byId ucId =>
    simp [resetTable, resets, SensorTable.iASC_ResetSingleSensorDataById, SensorTable.resetAt]
  | byName pcName =>
    simp [resetTable, resets, SensorTable.iASC_ResetSingleSensorDataByName, SensorTable.resetAt]

end Sampler

/-- One step of the task or of a caller of the reset functions. -/
def step (undef : ℚ → ℕ) (s : Sampler n) : Action n → Option (Sampler n)
  | .sample taken released b =>
    match s.checks with
    | some _ => none
    | none =>
      if taken then
        if released then some (s.sampleAll undef b).startChecks else some (s.sampleAll undef b)
      else some s.skip
  | .check pxSensorEnabled =>
    match s.checks with
    | none => none
    | some (.sensor i :: rest) =>
      some { s with
        checks := some ((if pxSensorEnabled then sensorTypes.map (.reading i) else []) ++ rest) }
    | some (.reading i j :: rest) =>
      some { s with
        checks := some rest
        events := s.events ++
          (s.signal i j ((s.table i).pxReadings j).ulSensorValue).toList }
    | some [] => some { s with checks := none, complete := true }
  | .reset r taken => some (if taken then s.reset r else s)

/-- The proxy driver as its initialisation leaves it: no sensor has a value. -/
def Sampler.start (table : SensorTable n) : Sampler n where
  table := table.iASC_ResetAllSensorData
  iNumberOfReadings _ _ := 0
  checks := none
  events := []
  complete := false
  stored _ _ := []
  reading _ _ := none

/-! ### What the statistics are to be -/

namespace Sampler

/-- The largest value since the last reset. -/
def Maximum (s : Sampler n) (i : Fin n) (j : ASC_PROXY_DRIVER_SENSOR_TYPE) : Prop :=
  ((s.table i).pxReadings j).ulMaxSensorValue = (s.stored i j).foldr max 0

/-- The average is between two of the values since the last reset. -/
def Between (s : Sampler n) (i : Fin n) (j : ASC_PROXY_DRIVER_SENSOR_TYPE) : Prop :=
  s.stored i j ≠ [] →
    (∃ x ∈ s.stored i j, x ≤ ((s.table i).pxReadings j).ulAverageSensorValue) ∧
    ∃ x ∈ s.stored i j, ((s.table i).pxReadings j).ulAverageSensorValue ≤ x

/-- The signals for the values that the cycle has read. -/
def due (s : Sampler n) : List EVLSignal :=
  (List.finRange n).flatMap fun i =>
    sensorTypes.flatMap fun j => ((s.reading i j).bind (s.signal i j)).toList

/-- A cycle that is over has raised the signals for its values and no others. -/
def Announced (s : Sampler n) : Prop := s.checks = none → s.events = s.due

def Right (s : Sampler n) : Prop := (∀ i j, s.Maximum i j ∧ s.Between i j) ∧ s.Announced

instance (s : Sampler n) : Decidable s.Right := by
  unfold Right Maximum Between Announced; infer_instance

end Sampler

/-- A read gives no value, or one that a `uint32_t` can hold, for a sensor that was not read before
its last reset, and the count does not overflow. -/
def ReadOk (s : Sampler n) (b : Bench n) (i : Fin n) (j : ASC_PROXY_DRIVER_SENSOR_TYPE) : Prop :=
  s.reads b i j = true → ∀ v ∈ b.read i j,
    (-1 < v ∧ v < 2 ^ 32) ∧ (s.stored i j = [] → s.iNumberOfReadings i j = 0) ∧
      s.iNumberOfReadings i j + 1 < 2 ^ 31

/-- The next check sees what the cycle has read: a sensor with an alarm is still enabled, a reading
holds the value of the cycle, and a reading that got none in the cycle is below its limits. -/
def CheckOk (s : Sampler n) (pxSensorEnabled : Bool) : Check n → Prop
  | .sensor i => pxSensorEnabled = false → ∀ j, ∀ x ∈ s.reading i j, s.signal i j x = none
  | .reading i j =>
    (∀ x ∈ s.reading i j, ((s.table i).pxReadings j).ulSensorValue = x) ∧
      (s.reading i j = none → s.signal i j ((s.table i).pxReadings j).ulSensorValue = none)

instance (s : Sampler n) (pxSensorEnabled : Bool) (c : Check n) :
    Decidable (CheckOk s pxSensorEnabled c) := by
  cases c <;> unfold CheckOk <;> infer_instance

/-- The steps after which the statistics and the events are right. -/
def Ok (undef : ℚ → ℕ) (s : Sampler n) : Action n → Prop
  | .sample taken released b => taken = true →
    (∀ i j, ReadOk s b i j) ∧ (released = true ∨ (s.sampleAll undef b).due = [])
  | .check pxSensorEnabled => ∀ l ∈ s.checks, ∀ c ∈ l.head?, CheckOk s pxSensorEnabled c
  | .reset .. => True

instance (s : Sampler n) (b : Bench n) (i : Fin n) (j : ASC_PROXY_DRIVER_SENSOR_TYPE) :
    Decidable (ReadOk s b i j) := by
  unfold ReadOk; infer_instance

instance (undef : ℚ → ℕ) (s : Sampler n) (a : Action n) : Decidable (Ok undef s a) := by
  cases a <;> unfold Ok <;> infer_instance

/-! ### The average -/

theorem increment_eq {k : ℤ} (h : 0 ≤ k) (hk : k + 1 < 2 ^ 31) : increment k = k + 1 := by
  unfold increment
  omega

variable (undef : ℚ → ℕ) {x : ℚ}

theorem toUInt32_eq (h : -1 < x) (hx : x < 2 ^ 32) :
    toUInt32 undef x = ⌊x⌋.toNat := if_pos ⟨h, hx⟩

theorem toUInt32_le {m : ℕ} (h : -1 < x) (hx : x < 2 ^ 32)
    (hm : x < m + 1) : toUInt32 undef x ≤ m := by
  rw [toUInt32_eq undef h hx]
  have : ⌊x⌋ < (m : ℤ) + 1 := Int.floor_lt.mpr (by push_cast; exact hm)
  omega

theorem le_toUInt32 {m : ℕ} (h : -1 < x) (hx : x < 2 ^ 32)
    (hm : (m : ℚ) ≤ x) : m ≤ toUInt32 undef x := by
  rw [toUInt32_eq undef h hx]
  have : (m : ℤ) ≤ ⌊x⌋ := Int.le_floor.mpr (by exact_mod_cast hm)
  omega

theorem toUInt32_lt (h : -1 < x) (hx : x < 2 ^ 32) :
    toUInt32 undef x < 2 ^ 32 := by
  have := toUInt32_le (m := 2 ^ 32 - 1) undef h hx (by push_cast; linarith)
  omega

theorem lt_toUInt32_add_one (h : -1 < x) (hx : x < 2 ^ 32) :
    x < toUInt32 undef x + 1 := by
  rw [toUInt32_eq undef h hx]
  have hfloor := Int.lt_floor_add_one x
  have : (⌊x⌋ : ℚ) ≤ (⌊x⌋.toNat : ℚ) := by exact_mod_cast Int.self_le_toNat _
  linarith

theorem toUInt32_le_self (h : -1 < x) (hx : x < 2 ^ 32) :
    toUInt32 undef x = 0 ∨ (toUInt32 undef x : ℚ) ≤ x := by
  rw [toUInt32_eq undef h hx]
  rcases le_or_gt 0 ⌊x⌋ with hpos | hneg
  · right
    have hfloor := Int.floor_le x
    have : ((⌊x⌋.toNat : ℤ) : ℚ) = (⌊x⌋ : ℚ) := by rw [Int.toNat_of_nonneg hpos]
    push_cast at this
    linarith
  · left
    omega

theorem average_first (a : ℕ) (v : ℚ) :
    average undef a 1 v = toUInt32 undef v := by
  simp [average]

theorem average_next {a m M : ℕ} {k : ℤ} {v : ℚ} (hk : 2 ≤ k) (hk' : k < 2 ^ 31)
    (ha : m ≤ a) (ha' : a ≤ M) (hM : M < 2 ^ 32) (hv : -1 < v) (hv' : v < 2 ^ 32)
    (hm : m ≤ toUInt32 undef v) (hvM : toUInt32 undef v ≤ M) :
    m ≤ average undef a k v ∧ average undef a k v ≤ M := by
  obtain ⟨d, rfl⟩ := Int.eq_ofNat_of_zero_le (a := k) (by omega)
  have hd : 2 ≤ d := by omega
  have hmod : (((d : ℤ) % 2 ^ 32).toNat) = d := by omega
  have hdpos : (0 : ℚ) < d := by exact_mod_cast (by omega : 0 < d)
  -- the share of the average is its integer part
  have hdiv := Nat.div_add_mod a d
  have hrem := Nat.mod_lt a (by omega : 0 < d)
  have hshare : a / d ≤ a := Nat.div_le_self a d
  have hq : ((a - a / d : ℕ) : ℚ) = a - (a / d : ℕ) := by push_cast [Nat.cast_sub hshare]; ring
  have hqlo : (d : ℚ) * (a / d : ℕ) ≤ a := by exact_mod_cast Nat.mul_div_le a d
  have hqhi : (a : ℚ) + 1 ≤ d * (a / d : ℕ) + d := by exact_mod_cast (by omega)
  have hvlt := lt_toUInt32_add_one undef hv hv'
  have hvM' : (toUInt32 undef v : ℚ) ≤ M := by exact_mod_cast hvM
  have haQ : (a : ℚ) ≤ M := by exact_mod_cast ha'
  have hmQ : (m : ℚ) ≤ a := by exact_mod_cast ha
  have hd2 : (2 : ℚ) ≤ d := by exact_mod_cast hd
  set x : ℚ := ((a - a / d : ℕ) : ℚ) + v / d with hx
  have hxmul : d * x = d * (a - (a / d : ℕ)) + v := by
    rw [hx, hq]
    field_simp
  have hupper : x < M + 1 := by
    by_contra hle
    have hge : d * ((M : ℚ) + 1) ≤ d * x := mul_le_mul_of_nonneg_left (not_lt.mp hle) hdpos.le
    nlinarith [mul_nonneg (sub_nonneg.mpr haQ) (by linarith : (0 : ℚ) ≤ d - 1)]
  have hlower : -1 < x := by
    have hnonneg : (0 : ℚ) ≤ ((a - a / d : ℕ) : ℚ) := Nat.cast_nonneg _
    have : -1 < v / d := by
      rw [lt_div_iff₀ hdpos]
      linarith
    linarith
  have hrange : x < 2 ^ 32 := by
    have : (M : ℚ) + 1 ≤ 2 ^ 32 := by exact_mod_cast hM
    linarith
  have haverage : average undef a (d : ℤ) v = toUInt32 undef x := by
    unfold average
    rw [hmod, hx]
    push_cast
    rfl
  rw [haverage]
  refine ⟨?_, toUInt32_le undef hlower hrange hupper⟩
  rcases toUInt32_le_self undef hv hv' with hzero | hself
  · omega
  · refine le_toUInt32 undef hlower hrange ?_
    by_contra hlt
    have hge : d * x < d * (m : ℚ) := mul_lt_mul_of_pos_left (not_le.mp hlt) hdpos
    have hmv : (m : ℚ) ≤ v := le_trans (by exact_mod_cast hm) hself
    nlinarith [mul_nonneg (sub_nonneg.mpr hmQ) (by linarith : (0 : ℚ) ≤ d - 1)]

theorem between_cons {a : ℕ} {k : ℤ} {l : List ℕ} {v : ℚ}
    (hfresh : l = [] → k = 0) (hcounted : l ≠ [] → 1 ≤ k) (hk : k + 1 < 2 ^ 31)
    (hbetween : l ≠ [] → (∃ x ∈ l, x ≤ a) ∧ ∃ x ∈ l, a ≤ x) (hl : ∀ x ∈ l, x < 2 ^ 32)
    (hv : -1 < v) (hv' : v < 2 ^ 32) :
    (∃ x ∈ toUInt32 undef v :: l, x ≤ average undef a (k + 1) v) ∧
      ∃ x ∈ toUInt32 undef v :: l, average undef a (k + 1) v ≤ x := by
  rcases eq_or_ne l [] with rfl | hne
  · obtain rfl := hfresh rfl
    have haverage : average undef a (0 + 1) v = toUInt32 undef v := average_first undef a v
    exact ⟨⟨_, List.mem_cons_self, haverage.ge⟩, ⟨_, List.mem_cons_self, haverage.le⟩⟩
  · obtain ⟨⟨x, hx, hxa⟩, ⟨y, hy, hay⟩⟩ := hbetween hne
    have hvlt := toUInt32_lt undef hv hv'
    have hylt := hl y hy
    obtain ⟨hlow, hhigh⟩ := average_next undef (a := a) (m := min x (toUInt32 undef v))
      (M := max y (toUInt32 undef v)) (by have := hcounted hne; omega) hk
      (le_trans (min_le_left _ _) hxa) (le_trans hay (le_max_left _ _)) (max_lt hylt hvlt) hv hv'
      (min_le_right _ _) (le_max_right _ _)
    constructor
    · rcases min_choice x (toUInt32 undef v) with h | h
      · exact ⟨x, List.mem_cons_of_mem _ hx, h ▸ hlow⟩
      · exact ⟨_, List.mem_cons_self, h ▸ hlow⟩
    · rcases max_choice y (toUInt32 undef v) with h | h
      · exact ⟨y, List.mem_cons_of_mem _ hy, h ▸ hhigh⟩
      · exact ⟨_, List.mem_cons_self, h ▸ hhigh⟩

/-! ### A run -/

namespace Sampler

/-- What the steps keep of the statistics of a type. -/
structure Tracked (s : Sampler n) (i : Fin n) (j : ASC_PROXY_DRIVER_SENSOR_TYPE) : Prop where
  maximum : s.Maximum i j
  between : s.Between i j
  counted : s.stored i j ≠ [] → 1 ≤ s.iNumberOfReadings i j
  nonneg : 0 ≤ s.iNumberOfReadings i j
  stored_lt : ∀ x ∈ s.stored i j, x < 2 ^ 32

/-- The signals that a check is to raise. -/
def dueAt (s : Sampler n) : Check n → List EVLSignal
  | .sensor i => sensorTypes.flatMap fun j => ((s.reading i j).bind (s.signal i j)).toList
  | .reading i j => ((s.reading i j).bind (s.signal i j)).toList

/-- With the checks that are left, the cycle raises the signals for its values. -/
def Announcing (s : Sampler n) : Prop :=
  s.events ++ (s.checks.getD []).flatMap s.dueAt = s.due

structure Inv (s : Sampler n) : Prop where
  tracked : ∀ i j, s.Tracked i j
  announcing : s.Announcing

theorem Inv.right {s : Sampler n} (h : s.Inv) : s.Right := by
  refine ⟨fun i j => ⟨(h.tracked i j).maximum, (h.tracked i j).between⟩, fun hchecks => ?_⟩
  have := h.announcing
  simpa [Announcing, hchecks] using this

theorem inv_start (table : SensorTable n) : (Sampler.start table).Inv where
  tracked i j :=
    { maximum := rfl
      between := fun h => absurd rfl h
      counted := fun h => absurd rfl h
      nonneg := le_rfl
      stored_lt := fun x hx => by simp [start] at hx }
  announcing := by simp [Announcing, start, due]

variable (s : Sampler n)

theorem signal_reset (r : Reset) (i : Fin n) (j : ASC_PROXY_DRIVER_SENSOR_TYPE) :
    (s.reset r).signal i j = s.signal i j := by
  funext x
  unfold signal reset
  dsimp only
  rw [resetTable_apply]
  split_ifs <;> rfl

theorem Tracked.congr {s t : Sampler n} {i : Fin n} {j : ASC_PROXY_DRIVER_SENSOR_TYPE}
    (h : s.Tracked i j)
    (hmax : ((t.table i).pxReadings j).ulMaxSensorValue =
      ((s.table i).pxReadings j).ulMaxSensorValue)
    (haverage : ((t.table i).pxReadings j).ulAverageSensorValue =
      ((s.table i).pxReadings j).ulAverageSensorValue)
    (hcount : t.iNumberOfReadings i j = s.iNumberOfReadings i j)
    (hstored : t.stored i j = s.stored i j) : t.Tracked i j where
  maximum := by
    unfold Maximum
    rw [hmax, hstored]
    exact h.maximum
  between := by
    unfold Between
    rw [haverage, hstored]
    exact h.between
  counted := by
    rw [hcount, hstored]
    exact h.counted
  nonneg := by
    rw [hcount]
    exact h.nonneg
  stored_lt := by
    rw [hstored]
    exact h.stored_lt

theorem Tracked.sampleAll {s : Sampler n} {b : Bench n} {i : Fin n}
    {j : ASC_PROXY_DRIVER_SENSOR_TYPE} (h : s.Tracked i j) (hread : ReadOk s b i j) :
    (s.sampleAll undef b).Tracked i j := by
  have hreading : ((s.sampleAll undef b).table i).pxReadings j = (s.sampled undef b i j).1 := rfl
  have hcount : (s.sampleAll undef b).iNumberOfReadings i j = (s.sampled undef b i j).2 := rfl
  have hstored : (s.sampleAll undef b).stored i j =
      (s.taken undef b i j).toList ++ s.stored i j := rfl
  rcases hreads : s.reads b i j with _ | _
  · -- the type is not read
    have hsampled : s.sampled undef b i j =
        ((s.table i).pxReadings j, s.iNumberOfReadings i j) := by simp [sampled, hreads]
    have htaken : s.taken undef b i j = none := by simp [taken, hreads]
    rw [hsampled] at hreading hcount
    exact h.congr (by rw [hreading]) (by rw [hreading]) hcount (by rw [hstored, htaken]; rfl)
  · rcases hvalue : b.read i j with _ | v
    · -- the read fails
      have hsampled : s.sampled undef b i j =
          ((s.table i).pxReadings j).sample undef (s.iNumberOfReadings i j) none := by
        simp [sampled, hreads, hvalue]
      have htaken : s.taken undef b i j = none := by simp [taken, hvalue]
      rw [hsampled] at hreading hcount
      exact h.congr (by rw [hreading]; rfl) (by rw [hreading]; rfl) hcount
        (by rw [hstored, htaken]; rfl)
    · -- a value is read
      obtain ⟨⟨hv, hv'⟩, hfresh, hk⟩ := hread hreads v (by simp [hvalue])
      have hincrement := increment_eq h.nonneg hk
      have hsampled : s.sampled undef b i j =
          ((s.table i).pxReadings j).sample undef (s.iNumberOfReadings i j) (some v) := by
        simp [sampled, hreads, hvalue]
      have htaken : s.taken undef b i j = some (toUInt32 undef v) := by
        simp [taken, hreads, hvalue]
      replace hstored : (s.sampleAll undef b).stored i j = toUInt32 undef v :: s.stored i j := by
        rw [hstored, htaken]
        rfl
      rw [hsampled] at hreading hcount
      replace hcount : (s.sampleAll undef b).iNumberOfReadings i j =
          s.iNumberOfReadings i j + 1 := hcount.trans hincrement
      have hbetween := between_cons undef hfresh h.counted hk h.between h.stored_lt hv hv'
      have hnonneg := h.nonneg
      refine ⟨?_, ?_, ?_, ?_, ?_⟩
      · have hmaximum := h.maximum
        unfold Maximum at hmaximum ⊢
        rw [hstored, List.foldr_cons, ← hmaximum, max_comm, hreading]
        rfl
      · intro _
        rw [hstored, hreading]
        simpa [ASCProxyDriverSensorReadings.sample, hincrement] using hbetween
      · intro _
        omega
      · omega
      · rw [hstored]
        intro x hx
        rcases List.mem_cons.mp hx with rfl | hx
        · exact toUInt32_lt undef hv hv'
        · exact h.stored_lt x hx

theorem Tracked.reset {s : Sampler n} {i : Fin n} {j : ASC_PROXY_DRIVER_SENSOR_TYPE}
    (h : s.Tracked i j) (r : Reset) : (s.reset r).Tracked i j := by
  have htable : (s.reset r).table i = if s.resets r i then (s.table i).reset else s.table i :=
    s.resetTable_apply r i
  have hstored : (s.reset r).stored i j = if s.resets r i then [] else s.stored i j := rfl
  rcases hresets : s.resets r i with _ | _
  · simp only [hresets, Bool.false_eq_true, if_false] at htable hstored
    exact h.congr (by rw [htable]) (by rw [htable]) rfl hstored
  · simp only [hresets, if_true] at htable hstored
    exact
      { maximum := by
          simp [Maximum, htable, hstored, ASCProxyDriverSensorData.reset,
            ASCProxyDriverSensorReadings.reset]
        between := by simp [Between, hstored]
        counted := by simp [hstored]
        nonneg := h.nonneg
        stored_lt := by simp [hstored] }

theorem due_eq : s.due = ((List.finRange n).map Check.sensor).flatMap s.dueAt := by
  rw [List.flatMap_map]
  rfl

theorem flatMap_readings (i : Fin n) :
    (sensorTypes.map (Check.reading i)).flatMap s.dueAt = s.dueAt (.sensor i) := by
  rw [List.flatMap_map]
  rfl

theorem announcing_startChecks (b : Bench n) :
    (s.sampleAll undef b).startChecks.Announcing := by
  unfold Announcing
  rw [due_eq]
  rfl

theorem Announcing.reset {s : Sampler n} (h : s.Announcing) (r : Reset) :
    (s.reset r).Announcing := by
  have hdueAt : (s.reset r).dueAt = s.dueAt := by
    funext c
    cases c with
    | sensor i =>
      simp only [dueAt, signal_reset]
      rfl
    | reading i j =>
      simp only [dueAt, signal_reset]
      rfl
  have hdue : (s.reset r).due = s.due := by rw [due_eq, due_eq, hdueAt]
  unfold Announcing at h ⊢
  rw [hdueAt, hdue]
  exact h

end Sampler

open Sampler

theorem Sampler.Inv.step {s s' : Sampler n} {a : Action n} (hs : s.Inv)
    (hok : Ok undef s a) (h : step undef s a = some s') : s'.Inv := by
  cases a with
  | sample taken released b =>
    rcases hchecks : s.checks with _ | l
    · simp only [Asc.step, hchecks] at h
      split_ifs at h with htaken hreleased <;> obtain rfl := Option.some.inj h
      · exact ⟨fun i j => ((hs.tracked i j).sampleAll undef ((hok htaken).1 i j)).congr rfl rfl rfl
          rfl, announcing_startChecks undef s b⟩
      · refine ⟨fun i j => (hs.tracked i j).sampleAll undef ((hok htaken).1 i j), ?_⟩
        rcases (hok htaken).2 with hrel | hdue
        · exact absurd hrel hreleased
        · unfold Announcing
          rw [hdue]
          rfl
      · refine ⟨fun i j => (hs.tracked i j).congr rfl rfl rfl rfl, ?_⟩
        simp [Announcing, skip, due, hchecks]
    · simp [Asc.step, hchecks] at h
  | check pxSensorEnabled =>
    rcases hchecks : s.checks with _ | l
    · simp [Asc.step, hchecks] at h
    · have hannouncing := hs.announcing
      simp only [Announcing, hchecks, Option.getD_some] at hannouncing
      have htracked : ∀ t : Sampler n, t.table = s.table →
          t.iNumberOfReadings = s.iNumberOfReadings → t.stored = s.stored →
          ∀ i j, t.Tracked i j := fun t ht hn hst i j =>
        (hs.tracked i j).congr (by rw [ht]) (by rw [ht]) (by rw [hn]) (by rw [hst])
      rcases l with _ | ⟨_ | _, rest⟩
      · simp only [Asc.step, hchecks] at h
        obtain rfl := Option.some.inj h
        exact ⟨htracked _ rfl rfl rfl, hannouncing⟩
      · rename_i i
        simp only [Asc.step, hchecks] at h
        obtain rfl := Option.some.inj h
        refine ⟨htracked _ rfl rfl rfl, ?_⟩
        have hcheck : CheckOk s pxSensorEnabled (.sensor i) :=
          hok _ hchecks _ rfl
        have hfirst : (if pxSensorEnabled then sensorTypes.map (Check.reading i)
            else []).flatMap s.dueAt = s.dueAt (.sensor i) := by
          rcases pxSensorEnabled with _ | _
          · -- a sensor that is disabled by now has no alarm
            have hnone : ∀ j, (s.reading i j).bind (s.signal i j) = none := by
              intro j
              rcases hreading : s.reading i j with _ | x
              · rfl
              · exact hcheck rfl j x (by simp [hreading])
            simp [dueAt, hnone]
          · simpa using flatMap_readings s i
        have hsplit : s.events ++ ((if pxSensorEnabled then sensorTypes.map (Check.reading i)
            else []) ++ rest).flatMap s.dueAt = s.due := by
          rw [List.flatMap_append, hfirst, ← hannouncing, List.flatMap_cons]
        exact hsplit
      · rename_i i j
        simp only [Asc.step, hchecks] at h
        obtain rfl := Option.some.inj h
        refine ⟨htracked _ rfl rfl rfl, ?_⟩
        have hcheck : CheckOk s pxSensorEnabled (.reading i j) :=
          hok _ hchecks _ rfl
        have hraised : (s.signal i j ((s.table i).pxReadings j).ulSensorValue).toList =
            s.dueAt (.reading i j) := by
          rcases hreading : s.reading i j with _ | x
          · simp [dueAt, hreading, hcheck.2 hreading]
          · simp [dueAt, hreading, hcheck.1 x (by simp [hreading])]
        have hsplit : (s.events ++
            (s.signal i j ((s.table i).pxReadings j).ulSensorValue).toList) ++
            rest.flatMap s.dueAt = s.due := by
          rw [hraised, List.append_assoc, ← hannouncing, List.flatMap_cons]
        exact hsplit
  | reset r taken =>
    simp only [Asc.step] at h
    obtain rfl := Option.some.inj h
    rcases taken with _ | _
    · exact hs
    · exact ⟨fun i j => (hs.tracked i j).reset r, hs.announcing.reset r⟩

/-- In every run whose steps meet the condition the maximum of a type is the largest value since
the last reset, its average lies between two of these values, and the signals of a cycle are those
for the values that it has read. -/
theorem sensor_statistics (undef : ℚ → ℕ) (table : SensorTable n) {s : Sampler n}
    (hs : Reaches (step undef) (Ok undef) (Sampler.start table) s) : s.Right :=
  (hs.invariant Sampler.Inv (inv_start table)
    fun _ _ _ hinv hok h => hinv.step undef hok h).right

def oneTemperature : SensorTable 1 := fun _ =>
  { pcSensorName := "PCB".toList
    ucSensorId := 1
    ucTotalPowerSensor := false
    ppxReadSensorFunc := fun j => decide (j = .TEMPERATURE)
    pxReadings := fun _ =>
      { ulSensorValue := 0
        ulUpperWarningLimit := 80
        ulUpperCriticalLimit := 85
        ulUpperFatalLimit := 95
        ulAverageSensorValue := 0
        ulMaxSensorValue := 0
        xSensorStatus := .NOT_PRESENT
        xSensorOperationalStatus := .ENABLED }
    ulThresholdStatus := .HEALTHY }

/-- A cycle in which every read gives `v`, with its checks. -/
def cycle (v : Option ℚ) : List (Action 1) :=
  .sample true true ⟨fun _ => true, fun _ _ => v⟩ :: List.replicate 6 (.check true)

theorem sensor_statistics_two :
    ∃ s : Sampler 1,
      (((s.table 0).pxReadings .TEMPERATURE).ulAverageSensorValue = 60 ∧
        s.events = [⟨.SENSOR_UPPER_WARNING, 1, .TEMPERATURE⟩]) ∧ s.Right := by
  have hrun : (run (guarded (step fun _ => 0) (Ok fun _ => 0)) (Sampler.start oneTemperature)
      (cycle (some 40) ++ cycle (some (161 / 2)))).any (fun s =>
      decide (((s.table 0).pxReadings .TEMPERATURE).ulAverageSensorValue = 60 ∧
        s.events = [⟨.SENSOR_UPPER_WARNING, 1, .TEMPERATURE⟩])) = true := by
    decide +kernel
  obtain ⟨s, hs, hfinal⟩ := (Option.any_eq_true _ _).mp hrun
  exact ⟨s, of_decide_eq_true hfinal,
    sensor_statistics _ oneTemperature (Reaches.of_guarded_run _ .start hs)⟩

/-- A value of 10 before a reset and one after it make an average of 5. -/
theorem average_outlives_reset :
    ¬ ∀ s, Reaches (step fun _ => 0) always (Sampler.start oneTemperature) s → s.Right := by
  intro hall
  have hrun : (run (step fun _ => 0) (Sampler.start oneTemperature)
      (cycle (some 10) ++ .reset .all true :: cycle (some 10))).any (fun s =>
      decide (¬ s.Right)) = true := by
    decide +kernel
  obtain ⟨s, hs, hwrong⟩ := (Option.any_eq_true _ _).mp hrun
  exact of_decide_eq_true hwrong (hall s (.of_run hs))

end Amr.Asc
