/-
# When the sensor table is right

`sw/AMI/app/sensors.c`: `report_sensors` for a device, over all sensors with their types, all
options, and all values, limits and modifiers that the API can return.

There is to be a row for every sensor and type in the order of the list, and at most one for the
cables, each filled in once and inside the rows that were allocated; nothing is to be written past
a buffer; and what was read is to be converted by the modifier of the sensor. The argument of the
option `x` is copied to memory one byte too short; only a table counts the row of the cables, which
is filled in for the other format as well; a limit has room for three digits before the point, or
two behind a sign; and the average is converted if the maximum was read.
-/
import Amr.App.Sensors
import Amr.App.TableRight

namespace Amr.App.Sensors

open Binary64

/-! ### A table that is right -/

def Content.pair : Content → Option (Text × ami_sensor_type)
  | .cables _ _ => none
  | .values s t _ => some (s.name, t)

def Content.isCables : Content → Bool
  | .cables _ _ => true
  | .values _ _ _ => false

/-- The sensors with their types, in the order of the list and of the bits. -/
def Run.pairs (r : Run) : List (Text × ami_sensor_type) :=
  r.targets.flatMap fun s => (sensorTypes.filter s.has).map fun t => (s.name, t)

/-- What was read and is reported is in the unit itself. -/
structure Converted (a : Answers) (extra : ExtraFields) (v : sensor_values) : Prop where
  value : ∀ x ∈ a.value, v.value = convert x.1 a.mod
  max : extra.max = true → ∀ x ∈ a.max, v.max = convert x a.mod
  avg : extra.avg = true → ∀ x ∈ a.avg, v.avg = convert x a.mod
  limit_w : extra.limits = true → ∀ x ∈ a.limit_w, v.limit_w = convert x a.mod
  limit_c : extra.limits = true → ∀ x ∈ a.limit_c, v.limit_c = convert x a.mod
  limit_f : extra.limits = true → ∀ x ∈ a.limit_f, v.limit_f = convert x a.mod

/-- The text and its NUL fit the buffer, and this is one of a column that there is. -/
def Write.Fits (n_fields : ℕ) (w : Write) : Prop :=
  w.text.length < w.size ∧
    match w.buffer with
    | .header i => i < n_fields
    | .cell _ col => col < n_fields
    | _ => True

/-- The rows, in order and none twice; those that are looked at; what is written, and what is
reported. -/
structure Run.Right (r : Run) (e : Effects) : Prop where
  pairs : e.rows.filterMap (·.content.pair) = r.pairs
  cables : (e.rows.filter (·.content.isCables)).length ≤ 1
  indices : e.rows.map Row.index = List.range e.rows.length
  inside : ∀ i ∈ e.addressed, i < r.n_rows
  writes : ∀ w ∈ e.writes, w.Fits r.n_fields
  converted : ∀ row ∈ e.rows, ∀ s t v, row.content = .values s t v →
    Converted (s.answers t) r.extra v

/-! ### When it is -/

/-- A number with three digits before the point, or two behind a sign. -/
def Short (q : ℚ) : Prop := scaled 3 q < if q < 0 then 10 ^ 5 else 10 ^ 6

/-- The limits that can be read are short. -/
def LimitsShort (a : Answers) : Prop :=
  ∀ x, x ∈ a.limit_w ∨ x ∈ a.limit_c ∨ x ∈ a.limit_f → Short (convert x a.mod)

/-- If the maximum is asked for and cannot be read, the average is 0 or cannot be read either. -/
def AverageSeen (a : Answers) (extra : ExtraFields) : Prop :=
  extra.max = true → a.max = none → ∀ x ∈ a.avg, x = 0

/-- There is no option `x`, or it is not looked at; a row is left for the cables if they get one; and
of the sensors that are printed the limits are short, if they are asked for, and the averages do not
depend on a maximum that cannot be read. -/
structure Run.Meets (r : Run) : Prop where
  options : r.verbose = true ∨ r.args = []
  room : r.sensor ≠ none ∨ r.fmt = .APP_OUT_FORMAT_TABLE ∨ 0 < r.dev.replaced ∨
    ∀ s ∈ r.dev.sensors, s.name ≠ "12V_AUX1".toList
  limits : r.extra.limits = true → ∀ s ∈ r.targets, ∀ t, s.has t = true →
    LimitsShort (s.answers t)
  average : r.extra.avg = true → ∀ s ∈ r.targets, ∀ t, s.has t = true →
    AverageSeen (s.answers t) r.extra

/-! ### Values -/

theorem abs_toInt_le (x : Int64) : |(x.toInt : ℚ)| ≤ 2 ^ (63 : ℤ) := by
  have hlo := x.le_toInt
  have hhi := x.toInt_lt
  rw [abs_le]
  constructor
  · exact_mod_cast hlo
  · exact_mod_cast hhi.le

theorem abs_pow_le (mod : ami_sensor_unit_mod) :
    |(UNIT_MOD_BASE : ℚ) ^ mod.toInt| ≤ 2 ^ (20 : ℤ) := by
  cases mod <;> norm_num [UNIT_MOD_BASE, ami_sensor_unit_mod.toInt]

theorem abs_convert_le (x : Int64) (mod : ami_sensor_unit_mod) :
    |convert x mod| ≤ 2 ^ (83 : ℤ) := by
  refine abs_nearest_le ?_
  rw [abs_mul]
  calc |toDouble x| * |nearest (UNIT_MOD_BASE ^ mod.toInt)|
      ≤ 2 ^ (63 : ℤ) * 2 ^ (20 : ℤ) :=
        mul_le_mul (abs_nearest_le (abs_toInt_le x)) (abs_nearest_le (abs_pow_le mod))
          (abs_nonneg _) (by norm_num)
    _ = 2 ^ (83 : ℤ) := by norm_num

theorem convert_eq_zero_iff (x : Int64) (mod : ami_sensor_unit_mod) :
    convert x mod = 0 ↔ x = 0 := by
  have hbase : (UNIT_MOD_BASE : ℚ) ^ mod.toInt ≠ 0 := zpow_ne_zero _ (by norm_num [UNIT_MOD_BASE])
  unfold convert toDouble
  rw [nearest_eq_zero_iff, mul_eq_zero, nearest_eq_zero_iff, nearest_eq_zero_iff,
    or_iff_left hbase, Int.cast_eq_zero]
  constructor
  · intro h
    exact Int64.toInt_inj.1 h
  · rintro rfl
    rfl

/-- The values that are printed are bounded. -/
def Bounded (q : ℚ) : Prop := |q| ≤ 2 ^ (83 : ℤ)

theorem bounded_zero : Bounded 0 := by
  norm_num [Bounded]

theorem bounded_ite {c : Prop} [Decidable c] (x : Int64) (mod : ami_sensor_unit_mod) :
    Bounded (if c then convert x mod else 0) := by
  split_ifs
  · exact abs_convert_le x mod
  · exact bounded_zero

theorem length_fixed_of_bounded {q : ℚ} (h : Bounded q) : (fixed 3 q).length ≤ 30 := by
  have hbound : |q| ≤ ((2 ^ 83 : ℕ) : ℚ) := by
    refine h.trans (le_of_eq ?_)
    norm_num
  have hscaled := scaled_le (d := 3) hbound
  have hlen := (length_fixed_le_iff (d := 3) (m := 25) (by norm_num) (by norm_num) q).2
    (lt_of_le_of_lt hscaled (by norm_num))
  split_ifs at hlen <;> omega

theorem length_fixed_lt_iff (q : ℚ) : (fixed 3 q).length < LIMIT_STR_SIZE ↔ Short q := by
  unfold Short
  by_cases hq : q < 0
  · have := length_fixed_le_iff (d := 3) (m := 2) (by norm_num) (by norm_num) q
    rw [if_pos hq] at this ⊢
    rw [← this]
    unfold LIMIT_STR_SIZE
    omega
  · have := length_fixed_le_iff (d := 3) (m := 3) (by norm_num) (by norm_num) q
    rw [if_neg hq] at this ⊢
    rw [← this]
    unfold LIMIT_STR_SIZE
    omega

/-! ### The writes of a row -/

section Row

variable (a : Answers) (extra : ExtraFields)

abbrev valuesOf : sensor_values := get_all_sensor_values a extra true

theorem bounded_value : Bounded (valuesOf a extra).value := abs_convert_le _ _

theorem bounded_max : Bounded (valuesOf a extra).max := bounded_ite _ _

theorem bounded_avg : Bounded (valuesOf a extra).avg := bounded_ite _ _

def fieldsOf : ℕ :=
  DEFAULT_SENSOR_FIELDS + (if extra.max then 1 else 0) + (if extra.avg then 1 else 0) +
    if extra.limits then 1 else 0

theorem length_make_unit_string (t : ami_sensor_type) :
    (make_unit_string .AMI_SENSOR_UNIT_MOD_NONE t).length = 1 := by
  cases t <;> rfl

theorem length_statusText (st : ami_sensor_status) : (statusText st).length ≤ 7 := by
  cases st <;> decide

theorem length_withUnit {q : ℚ} (h : Bounded q) (t : ami_sensor_type) :
    (withUnit q (make_unit_string .AMI_SENSOR_UNIT_MOD_NONE t)).length < TABLE_FIELD_MAX := by
  have := length_fixed_of_bounded h
  have hunit := length_make_unit_string t
  unfold withUnit TABLE_FIELD_MAX
  rw [List.length_append, List.length_append, hunit, List.length_singleton]
  omega

theorem length_reported {r : Bool} {text : Text} {n : ℕ} (hn : 3 < n) (h : text.length < n) :
    (reported r text).length < n := by
  cases r
  · exact hn
  · exact h

theorem limit_fits_iff (x : Option Int64) (mod : ami_sensor_unit_mod) :
    (reported x.isSome (fixed 3 (if x.isSome then convert (x.getD 0) mod else 0))).length <
        LIMIT_STR_SIZE ↔ ∀ y ∈ x, Short (convert y mod) := by
  cases x with
  | none =>
    refine ⟨fun _ => nofun, fun _ => ?_⟩
    exact (by decide : "N/A".toList.length < LIMIT_STR_SIZE)
  | some y =>
    show (fixed 3 (convert y mod)).length < LIMIT_STR_SIZE ↔ _
    rw [length_fixed_lt_iff]
    constructor
    · intro h z hz
      obtain rfl := Option.some_injective _ hz
      exact h
    · intro h
      exact h y rfl

theorem limitTexts_eq (h : extra.limits = true) :
    limitTexts (valuesOf a extra) = [a.limit_w, a.limit_c, a.limit_f].map fun x =>
      reported x.isSome (fixed 3 (if x.isSome then convert (x.getD 0) a.mod else 0)) := by
  simp [limitTexts, get_all_sensor_values, h]

theorem limitTexts_fit_iff (h : extra.limits = true) :
    (∀ text ∈ limitTexts (valuesOf a extra), text.length < LIMIT_STR_SIZE) ↔ LimitsShort a := by
  rw [limitTexts_eq a extra h, List.forall_mem_map]
  simp only [List.forall_mem_cons, limit_fits_iff]
  unfold LimitsShort
  constructor
  · rintro ⟨hw, hc, hf, -⟩ x (hx | hx | hx)
    · exact hw x hx
    · exact hc x hx
    · exact hf x hx
  · intro h
    exact ⟨fun x hx => h x (.inl hx), fun x hx => h x (.inr (.inl hx)),
      fun x hx => h x (.inr (.inr hx)), List.forall_mem_nil _⟩

theorem limitsShort_of_noLimit (h : extra.limits = true)
    (hno : noLimit (valuesOf a extra) = true) : LimitsShort a := by
  have hnone : a.limit_w = none ∧ a.limit_c = none ∧ a.limit_f = none := by
    simpa [noLimit, get_all_sensor_values, h, and_assoc] using hno
  obtain ⟨hw, hc, hf⟩ := hnone
  unfold LimitsShort
  rw [hw, hc, hf]
  rintro x (hx | hx | hx)
  all_goals exact absurd hx nofun

theorem length_limitsText (v : sensor_values)
    (h : ∀ text ∈ limitTexts v, text.length < LIMIT_STR_SIZE) :
    (limitsText v).length < TABLE_FIELD_MAX := by
  have hpad : ∀ text ∈ limitTexts v,
      (padded .TABLE_ALIGN_RIGHT (LIMIT_STR_SIZE - 1) text).length = 7 := by
    intro text ht
    have hlt := h text ht
    unfold LIMIT_STR_SIZE at hlt
    exact length_padded (Nat.le_of_lt_succ hlt)
  unfold limitsText
  simp only [limitTexts, List.forall_mem_cons, List.map_cons, List.map_nil] at hpad ⊢
  obtain ⟨hw, hc, hf, -⟩ := hpad
  rw [List.intercalate_cons_cons, List.intercalate_cons_cons, List.intercalate_singleton]
  simp only [List.length_append, hw, hc, hf]
  decide

theorem length_cell_lt {name : Text} (hname : name.length < AMI_SENSOR_MAX_STR)
    (t : ami_sensor_type) (n_row : ℕ) (hlimits : extra.limits = true → LimitsShort a) {text : Text}
    (h : some text ∈ rowCells name t n_row extra (valuesOf a extra)) :
    text.length < TABLE_FIELD_MAX := by
  unfold rowCells at h
  simp only [List.mem_append, List.mem_cons, List.not_mem_nil, or_false] at h
  rcases h with ((h | h) | h) | h
  · rcases h with h | h | h
    · split_ifs at h
      obtain rfl := Option.some_injective _ h
      exact hname
    · obtain rfl := Option.some_injective _ h
      exact length_withUnit (bounded_value a extra) t
    · obtain rfl := Option.some_injective _ h
      exact (length_statusText _).trans_lt (by decide)
  · split_ifs at h
    · obtain rfl := Option.some_injective _ (List.mem_singleton.1 h)
      exact length_reported (by decide) (length_withUnit (bounded_max a extra) t)
    · exact absurd h List.not_mem_nil
  · split_ifs at h
    · obtain rfl := Option.some_injective _ (List.mem_singleton.1 h)
      exact length_reported (by decide) (length_withUnit (bounded_avg a extra) t)
    · exact absurd h List.not_mem_nil
  · split_ifs at h with hl hno
    · obtain rfl := Option.some_injective _ (List.mem_singleton.1 h)
      decide
    · obtain rfl := Option.some_injective _ (List.mem_singleton.1 h)
      exact length_limitsText _ ((limitTexts_fit_iff a extra hl).2 (hlimits hl))
    · exact absurd h List.not_mem_nil

theorem length_rowCells (name : Text) (t : ami_sensor_type) (n_row : ℕ) (v : sensor_values) :
    (rowCells name t n_row extra v).length = fieldsOf extra := by
  unfold rowCells fieldsOf DEFAULT_SENSOR_FIELDS
  simp only [List.length_append, List.length_cons, List.length_nil]
  split_ifs <;> rfl

theorem mk_sensor_row_fits_iff {name : Text} (hname : name.length < AMI_SENSOR_MAX_STR)
    (t : ami_sensor_type) (n_row row : ℕ) :
    (∀ w ∈ mk_sensor_row name t n_row extra (valuesOf a extra) row, w.Fits (fieldsOf extra)) ↔
      (extra.limits = true → LimitsShort a) := by
  unfold mk_sensor_row
  constructor
  · intro h hl
    by_cases hno : noLimit (valuesOf a extra) = true
    · exact limitsShort_of_noLimit a extra hl hno
    · refine (limitTexts_fit_iff a extra hl).1 fun text ht => ?_
      have hmem : ⟨.limit, LIMIT_STR_SIZE, text⟩ ∈
          (if (extra.limits && !noLimit (valuesOf a extra)) = true then
            (limitTexts (valuesOf a extra)).map fun text => Write.mk .limit LIMIT_STR_SIZE text
          else []) := by
        rw [if_pos (by simp [hl, hno])]
        exact List.mem_map_of_mem ht
      exact (h _ (List.mem_append_left _ (List.mem_append_right _ hmem))).1
  · intro hlimits w hw
    rcases List.mem_append.1 hw with hw | hw
    · rcases List.mem_append.1 hw with hw | hw
      · obtain rfl := List.mem_singleton.1 hw
        refine ⟨?_, trivial⟩
        rw [length_make_unit_string]
        exact (by decide : 1 < UNIT_STR_SIZE)
      · split_ifs at hw with hl
        · obtain ⟨text, ht, rfl⟩ := List.mem_map.1 hw
          rw [Bool.and_eq_true] at hl
          exact ⟨(limitTexts_fit_iff a extra hl.1).2 (hlimits hl.1) text ht, trivial⟩
        · exact absurd hw List.not_mem_nil
    · obtain ⟨⟨cell, col⟩, hc, hw⟩ := List.mem_filterMap.1 hw
      obtain ⟨text, rfl, rfl⟩ := Option.map_eq_some_iff.1 hw
      have hcell := List.mem_zipIdx' hc
      refine ⟨length_cell_lt a extra hname t n_row hlimits (hcell.2 ▸ List.getElem_mem hcell.1), ?_⟩
      exact hcell.1.trans_eq (length_rowCells extra name t n_row _)

theorem valuesOf_avg (havg : extra.avg = true) :
    (valuesOf a extra).avg =
      if extra.max = true ∧ a.max = none then 0 else convert (a.avg.getD 0) a.mod := by
  cases hmax : extra.max
  · simp [get_all_sensor_values, havg, hmax]
  · cases h : a.max <;> simp [get_all_sensor_values, havg, hmax, h]

theorem converted_iff :
    Converted a extra (valuesOf a extra) ↔ (extra.avg = true → AverageSeen a extra) := by
  constructor
  · intro h havg hmax hnone x hx
    have hc := h.avg havg x hx
    rw [valuesOf_avg a extra havg, if_pos ⟨hmax, hnone⟩] at hc
    exact (convert_eq_zero_iff x a.mod).1 hc.symm
  · intro h
    refine ⟨?_, ?_, ?_, ?_, ?_, ?_⟩
    · intro x hx
      simp [get_all_sensor_values, Option.mem_def.1 hx]
    · intro he x hx
      simp [get_all_sensor_values, he, Option.mem_def.1 hx]
    · intro havg x hx
      rw [valuesOf_avg a extra havg, Option.mem_def.1 hx]
      split_ifs with hseen
      · rw [h havg hseen.1 hseen.2 x hx]
        exact ((convert_eq_zero_iff 0 a.mod).2 rfl).symm
      · rfl
    · intro he x hx
      simp [get_all_sensor_values, he, Option.mem_def.1 hx]
    · intro he x hx
      simp [get_all_sensor_values, he, Option.mem_def.1 hx]
    · intro he x hx
      simp [get_all_sensor_values, he, Option.mem_def.1 hx]

theorem header_fits (num_fields : ℕ) :
    ∀ w ∈ populate_sensor_header num_fields extra, w.Fits num_fields := by
  have hcons : ∀ (i : ℕ) (text : Text) (l : List Write), i < num_fields →
      text.length < TABLE_HEADING_MAX → (∀ w ∈ l, w.Fits num_fields) →
      ∀ w ∈ ⟨.header i, TABLE_HEADING_MAX, text⟩ :: l, Write.Fits num_fields w :=
    fun _ _ _ hi ht hl => List.forall_mem_cons.2 ⟨⟨ht, hi⟩, hl⟩
  have hfrom : ∀ (n i : ℕ) (extra : ExtraFields), i + n = num_fields →
      ∀ w ∈ headerFrom extra i n, w.Fits num_fields := by
    intro n
    induction n with
    | zero => exact fun _ _ _ => List.forall_mem_nil _
    | succ n ih =>
      intro i extra hi
      have hlt : i < num_fields := by omega
      have hnext : i + 1 + n = num_fields := by omega
      unfold headerFrom
      split_ifs
      · exact hcons _ _ _ hlt (by decide) (ih _ _ hnext)
      · exact hcons _ _ _ hlt (by decide) (ih _ _ hnext)
      · exact hcons _ _ _ hlt (by decide) (ih _ _ hnext)
      · exact hcons _ _ _ hlt (by decide) (ih _ _ hnext)
      · exact hcons _ _ _ hlt (by decide) (ih _ _ hnext)
      · exact hcons _ _ _ hlt (by decide) (ih _ _ hnext)
      · exact ih _ _ hnext
  exact hfrom num_fields 0 extra (Nat.zero_add _)

end Row

/-! ### The rows -/

@[simp] theorem append_rows (e f : Effects) : (e ++ f).rows = e.rows ++ f.rows := rfl

@[simp] theorem append_writes (e f : Effects) : (e ++ f).writes = e.writes ++ f.writes := rfl

/-- Some rows from `j` on, one after the other, that are looked at and no others. -/
structure Tidy (e : Effects) (j n : ℕ) (ps : List (Text × ami_sensor_type)) (c : ℕ) : Prop where
  indices : e.rows.map Row.index = List.range' j n
  pairs : e.rows.filterMap (·.content.pair) = ps
  cables : (e.rows.filter (·.content.isCables)).length = c
  inside : ∀ i ∈ e.addressed, i < j + n

theorem Tidy.nil (j : ℕ) : Tidy ⟨[], [], []⟩ j 0 [] 0 :=
  ⟨rfl, rfl, rfl, List.forall_mem_nil _⟩

theorem Tidy.append {e f : Effects} {j n m c d : ℕ} {ps qs : List (Text × ami_sensor_type)}
    (he : Tidy e j n ps c) (hf : Tidy f (j + n) m qs d) :
    Tidy (e ++ f) j (n + m) (ps ++ qs) (c + d) where
  indices := by
    rw [append_rows, List.map_append, he.indices, hf.indices, List.range'_append_1]
  pairs := by
    rw [append_rows, List.filterMap_append, he.pairs, hf.pairs]
  cables := by
    rw [append_rows, List.filter_append, List.length_append, he.cables, hf.cables]
  inside := by
    intro i hi
    rcases List.mem_append.1 hi with hi | hi
    · have := he.inside i hi
      omega
    · have := hf.inside i hi
      omega

theorem Tidy.look {e : Effects} {j n c : ℕ} {ps : List (Text × ami_sensor_type)} (hn : 0 < n)
    (h : Tidy e j n ps c) : Tidy (⟨[j], [], []⟩ ++ e) j n ps c where
  indices := h.indices
  pairs := h.pairs
  cables := h.cables
  inside := by
    intro i hi
    rcases List.mem_cons.1 hi with rfl | hi
    · omega
    · exact h.inside i hi

/-- The rows that are filled in are looked at. -/
def Seen (e : Effects) : Prop := ∀ row ∈ e.rows, row.index ∈ e.addressed

theorem Seen.append {e f : Effects} (he : Seen e) (hf : Seen f) : Seen (e ++ f) := by
  intro row hrow
  rcases List.mem_append.1 hrow with hrow | hrow
  · exact List.mem_append_left _ (he row hrow)
  · exact List.mem_append_right _ (hf row hrow)

theorem Seen.of_no_rows {addressed : List ℕ} {writes : List Write} :
    Seen ⟨addressed, [], writes⟩ := List.forall_mem_nil _

/-- What is written fits, and what is reported is converted. -/
def Good (extra : ExtraFields) (e : Effects) : Prop :=
  (∀ w ∈ e.writes, w.Fits (fieldsOf extra)) ∧
    ∀ row ∈ e.rows, ∀ s t v, row.content = .values s t v → Converted (s.answers t) extra v

theorem good_append (extra : ExtraFields) (e f : Effects) :
    Good extra (e ++ f) ↔ Good extra e ∧ Good extra f := by
  unfold Good
  rw [append_writes, append_rows, List.forall_mem_append, List.forall_mem_append]
  exact and_and_and_comm

theorem good_nil (extra : ExtraFields) (addressed : List ℕ) : Good extra ⟨addressed, [], []⟩ :=
  ⟨List.forall_mem_nil _, List.forall_mem_nil _⟩

def Sound (extra : ExtraFields) (a : Answers) : Prop :=
  (extra.limits = true → LimitsShort a) ∧ (extra.avg = true → AverageSeen a extra)

theorem flagged_type (s : Sensor) : flagged s.type = sensorTypes.filter s.has := by
  unfold flagged sensorTypes Sensor.type
  simp only [List.filter_cons, List.filter_nil]
  cases s.has .AMI_SENSOR_TYPE_TEMP <;> cases s.has .AMI_SENSOR_TYPE_CURRENT <;>
    cases s.has .AMI_SENSOR_TYPE_VOLTAGE <;> cases s.has .AMI_SENSOR_TYPE_POWER <;> rfl

theorem mem_flagged (s : Sensor) (t : ami_sensor_type) : t ∈ flagged s.type ↔ s.has t = true := by
  rw [flagged_type, List.mem_filter]
  refine and_iff_right ?_
  cases t <;> decide

theorem flagged_pos (s : Sensor) : 0 < (flagged s.type).length := by
  obtain ⟨t, ht⟩ := s.has_some
  exact List.length_pos_of_mem ((mem_flagged s t).2 ht)

section Loop

variable (sensors : List Sensor) (all : Bool) (extra : ExtraFields)

theorem constructRows_tidy (s : Sensor) (types : List ami_sensor_type) (group_row j : ℕ) :
    Tidy (constructRows s extra types group_row j) j types.length
      (types.map fun t => (s.name, t)) 0 := by
  induction types generalizing group_row j with
  | nil => exact Tidy.nil j
  | cons t types ih =>
    have hone : Tidy ⟨[j], [⟨j, .values s t (valuesOf (s.answers t) extra)⟩],
        mk_sensor_row s.name t group_row extra (valuesOf (s.answers t) extra) j⟩ j 1
        [(s.name, t)] 0 :=
      ⟨rfl, rfl, rfl, by simp⟩
    have := hone.append (ih (group_row + 1) (j + 1))
    rwa [Nat.add_comm 1] at this

theorem constructRows_seen (s : Sensor) (types : List ami_sensor_type) (group_row j : ℕ) :
    Seen (constructRows s extra types group_row j) := by
  induction types generalizing group_row j with
  | nil => exact Seen.of_no_rows
  | cons t types ih =>
    refine Seen.append ?_ (ih (group_row + 1) (j + 1))
    intro row hrow
    obtain rfl := List.mem_singleton.1 hrow
    exact List.mem_singleton_self _

theorem constructRows_good_iff (s : Sensor) (types : List ami_sensor_type) (group_row j : ℕ) :
    Good extra (constructRows s extra types group_row j) ↔
      ∀ t ∈ types, Sound extra (s.answers t) := by
  induction types generalizing group_row j with
  | nil => exact ⟨fun _ => List.forall_mem_nil _, fun _ => good_nil extra []⟩
  | cons t types ih =>
    rw [constructRows, good_append, ih, List.forall_mem_cons]
    refine and_congr_left fun _ => ?_
    refine and_congr (mk_sensor_row_fits_iff (s.answers t) extra s.name_lt t group_row j) ?_
    rw [← converted_iff]
    constructor
    · intro h
      exact h _ (List.mem_singleton_self _) s t _ rfl
    · intro h row hrow s' t' v hcontent
      obtain rfl := List.mem_singleton.1 hrow
      obtain ⟨rfl, rfl, rfl⟩ := Content.values.inj hcontent
      exact h

/-- What one sensor brings, with the row of the cables should it be due. -/
def sensorEffects (s : Sensor) (j : ℕ) : Effects :=
  if cablesBefore all s then cableRow sensors j ++ construct_sensor_table s extra (j + 1)
  else construct_sensor_table s extra j

def rowsOfSensor (s : Sensor) : ℕ :=
  (if cablesBefore all s then 1 else 0) + (flagged s.type).length

theorem populateFrom_cons {n_rows : ℕ} (s : Sensor) (next : List Sensor) {j : ℕ}
    (hj : j < n_rows) :
    populateFrom sensors all extra n_rows (s :: next) j =
      sensorEffects sensors all extra s j ++
        populateFrom sensors all extra n_rows next (j + rowsOfSensor all s) := by
  rw [populateFrom, if_pos hj]
  unfold sensorEffects rowsOfSensor
  by_cases hc : cablesBefore all s = true
  · rw [if_pos hc, if_pos hc, if_pos hc, Nat.add_assoc]
  · rw [if_neg hc, if_neg hc, if_neg hc, Nat.zero_add]

theorem cableRow_tidy (j : ℕ) : Tidy (cableRow sensors j) j 1 [] 1 :=
  ⟨rfl, rfl, rfl, by simp [cableRow]⟩

theorem sensorEffects_tidy (s : Sensor) (j : ℕ) :
    Tidy (sensorEffects sensors all extra s j) j (rowsOfSensor all s)
      ((sensorTypes.filter s.has).map fun t => (s.name, t))
      (if cablesBefore all s then 1 else 0) := by
  have htable : ∀ j, Tidy (construct_sensor_table s extra j) j (flagged s.type).length
      ((sensorTypes.filter s.has).map fun t => (s.name, t)) 0 := by
    intro j
    rw [← flagged_type]
    exact (constructRows_tidy extra s _ 0 j).look (flagged_pos s)
  unfold sensorEffects rowsOfSensor
  split_ifs
  · exact (cableRow_tidy sensors j).append (htable (j + 1))
  · rw [Nat.zero_add]
    exact htable j

theorem sensorEffects_seen (s : Sensor) (j : ℕ) : Seen (sensorEffects sensors all extra s j) := by
  have htable : ∀ j, Seen (construct_sensor_table s extra j) := fun j =>
    Seen.append Seen.of_no_rows (constructRows_seen extra s _ 0 j)
  unfold sensorEffects
  split_ifs
  · refine Seen.append ?_ (htable (j + 1))
    intro row hrow
    obtain rfl := List.mem_singleton.1 hrow
    exact List.mem_singleton_self _
  · exact htable j

theorem cableRow_good (j : ℕ) : Good extra (cableRow sensors j) := by
  refine ⟨?_, ?_⟩
  · intro w hw
    have hcell : ∀ col text, col < 3 → (cellWrite j col text).Fits (fieldsOf extra) := by
      intro col text hcol
      refine ⟨?_, ?_⟩
      · exact lt_of_le_of_lt (List.length_take_le _ _)
          (by decide : TABLE_FIELD_MAX - 1 < TABLE_FIELD_MAX)
      · show col < fieldsOf extra
        unfold fieldsOf DEFAULT_SENSOR_FIELDS
        omega
    simp only [cableRow, List.mem_cons, List.not_mem_nil, or_false] at hw
    rcases hw with rfl | rfl | rfl
    · exact hcell 0 _ (by decide)
    · exact hcell 1 _ (by decide)
    · exact hcell 2 _ (by decide)
  · intro row hrow s t v hcontent
    obtain rfl := List.mem_singleton.1 hrow
    exact absurd hcontent nofun

theorem sensorEffects_good_iff (s : Sensor) (j : ℕ) :
    Good extra (sensorEffects sensors all extra s j) ↔
      ∀ t, s.has t = true → Sound extra (s.answers t) := by
  have htable : ∀ j, Good extra (construct_sensor_table s extra j) ↔
      ∀ t, s.has t = true → Sound extra (s.answers t) := by
    intro j
    unfold construct_sensor_table
    rw [good_append, constructRows_good_iff]
    simp only [mem_flagged]
    exact and_iff_right (good_nil extra [j])
  unfold sensorEffects
  split_ifs
  · rw [good_append, htable]
    exact and_iff_right (cableRow_good sensors extra j)
  · exact htable j

def rowsOfSensors (rest : List Sensor) : ℕ := (rest.map (rowsOfSensor all)).sum

theorem rowsOfSensors_eq (rest : List Sensor) :
    rowsOfSensors all rest =
      (rest.map fun s => (flagged s.type).length).sum + rest.countP (cablesBefore all) := by
  unfold rowsOfSensors
  induction rest with
  | nil => rfl
  | cons s rest ih =>
    rw [List.map_cons, List.sum_cons, ih, List.map_cons, List.sum_cons, List.countP_cons,
      rowsOfSensor]
    omega

theorem rowsOfSensors_cons (s : Sensor) (next : List Sensor) :
    rowsOfSensors all (s :: next) = rowsOfSensor all s + rowsOfSensors all next :=
  List.sum_cons

theorem rowsOfSensor_pos (s : Sensor) : 0 < rowsOfSensor all s :=
  Nat.add_pos_right _ (flagged_pos s)

theorem populateFrom_tidy {n_rows : ℕ} (rest : List Sensor) {j : ℕ}
    (h : j + rowsOfSensors all rest ≤ n_rows) :
    Tidy (populateFrom sensors all extra n_rows rest j) j (rowsOfSensors all rest)
      (rest.flatMap fun s => (sensorTypes.filter s.has).map fun t => (s.name, t))
      (rest.countP (cablesBefore all)) := by
  induction rest generalizing j with
  | nil => exact Tidy.nil j
  | cons s rest ih =>
    rw [rowsOfSensors_cons] at h ⊢
    have hpos := rowsOfSensor_pos all s
    rw [populateFrom_cons sensors all extra s rest (by omega), List.countP_cons, Nat.add_comm
      (List.countP _ _)]
    exact (sensorEffects_tidy sensors all extra s j).append (ih (by omega))

theorem populateFrom_good_iff {n_rows : ℕ} (rest : List Sensor) {j : ℕ}
    (h : j + rowsOfSensors all rest ≤ n_rows) :
    Good extra (populateFrom sensors all extra n_rows rest j) ↔
      ∀ s ∈ rest, ∀ t, s.has t = true → Sound extra (s.answers t) := by
  induction rest generalizing j with
  | nil => exact ⟨fun _ => List.forall_mem_nil _, fun _ => good_nil extra []⟩
  | cons s rest ih =>
    rw [rowsOfSensors_cons] at h
    have hpos := rowsOfSensor_pos all s
    rw [populateFrom_cons sensors all extra s rest (by omega), good_append,
      sensorEffects_good_iff, ih (by omega), List.forall_mem_cons]

theorem populateFrom_seen (n_rows : ℕ) (rest : List Sensor) (j : ℕ) :
    Seen (populateFrom sensors all extra n_rows rest j) := by
  induction rest generalizing j with
  | nil => exact Seen.of_no_rows
  | cons s rest ih =>
    by_cases hj : j < n_rows
    · rw [populateFrom_cons sensors all extra s rest hj]
      exact (sensorEffects_seen sensors all extra s j).append (ih _)
    · rw [populateFrom, if_neg hj]
      exact Seen.of_no_rows

theorem constructRows_values {s s' : Sensor} {types : List ami_sensor_type} {group_row j : ℕ}
    {row : Row} (hrow : row ∈ (constructRows s extra types group_row j).rows)
    {t : ami_sensor_type} {v : sensor_values} (h : row.content = .values s' t v) : s' = s := by
  induction types generalizing group_row j with
  | nil => exact absurd hrow List.not_mem_nil
  | cons u types ih =>
    rcases List.mem_append.1 hrow with hrow | hrow
    · obtain rfl := List.mem_singleton.1 hrow
      exact (Content.values.inj h).1.symm
    · exact ih hrow

theorem exists_cables_of_values {n_rows : ℕ} {rest : List Sensor} {j : ℕ} {row : Row}
    (hrow : row ∈ (populateFrom sensors all extra n_rows rest j).rows) {s : Sensor}
    {t : ami_sensor_type} {v : sensor_values} (h : row.content = .values s t v)
    (hs : cablesBefore all s = true) :
    ∃ c ∈ (populateFrom sensors all extra n_rows rest j).rows, c.content.isCables = true := by
  induction rest generalizing j with
  | nil => exact absurd hrow List.not_mem_nil
  | cons s' rest ih =>
    by_cases hj : j < n_rows
    · rw [populateFrom_cons sensors all extra s' rest hj] at hrow ⊢
      rcases List.mem_append.1 hrow with hrow | hrow
      · by_cases hs' : cablesBefore all s' = true
        · refine ⟨⟨j, .cables (count_connected_aux_cables sensors).1
            (count_connected_aux_cables sensors).2⟩, List.mem_append_left _ ?_, rfl⟩
          rw [sensorEffects, if_pos hs']
          exact List.mem_append_left _ (List.mem_singleton_self _)
        · rw [sensorEffects, if_neg hs'] at hrow
          obtain rfl := constructRows_values extra hrow h
          exact absurd hs hs'
      · obtain ⟨c, hc, hcables⟩ := ih hrow
        exact ⟨c, List.mem_append_right _ hc, hcables⟩
    · rw [populateFrom, if_neg hj] at hrow
      exact absurd hrow List.not_mem_nil

theorem populateFrom_zero (rest : List Sensor) :
    populateFrom sensors all extra 0 rest 0 = ⟨[], [], []⟩ := by
  cases rest with
  | nil => rfl
  | cons s rest => rw [populateFrom, if_neg (Nat.lt_irrefl 0)]

end Loop

/-! ### The run -/

namespace Run

variable (r : Run)

def filled : Effects :=
  populate_sensor_values r.targets r.sensor.isNone r.extra r.n_rows

def optionWrites : List Write :=
  if r.verbose then [] else (parse_extra r.args EXTRA_FIELDS_NONE).1

def headerWrites : List Write :=
  if r.n_rows = 0 then [] else populate_sensor_header r.n_fields r.extra

theorem report_eq :
    r.report_sensors = ⟨[], [], r.optionWrites⟩ ++ (⟨[], [], r.headerWrites⟩ ++ r.filled) := by
  unfold report_sensors print_sensor_data optionWrites headerWrites filled
  congr 1
  by_cases hn : r.n_rows = 0
  · rw [if_pos hn, if_pos hn, hn]
    exact (populateFrom_zero r.targets r.sensor.isNone r.extra r.targets).symm
  · rw [if_neg hn, if_neg hn]

theorem headerWrites_fit : ∀ w ∈ r.headerWrites, w.Fits r.n_fields := by
  unfold headerWrites
  split_ifs
  · exact List.forall_mem_nil _
  · exact header_fits r.extra r.n_fields

theorem optionWrites_fit_iff :
    (∀ w ∈ r.optionWrites, w.Fits r.n_fields) ↔ r.verbose = true ∨ r.args = [] := by
  unfold optionWrites parse_extra
  constructor
  · intro h
    by_contra hnot
    push Not at hnot
    obtain ⟨hv, ha⟩ := hnot
    obtain ⟨arg, harg⟩ := List.exists_mem_of_ne_nil _ ha
    rw [if_neg hv] at h
    exact Nat.lt_irrefl _ (h _ (List.mem_map_of_mem harg)).1
  · rintro (hv | ha)
    · rw [if_pos hv]
      exact List.forall_mem_nil _
    · rw [ha]
      split_ifs <;> exact List.forall_mem_nil _

theorem right_iff : r.Right r.report_sensors ↔
    (r.verbose = true ∨ r.args = []) ∧ r.filled.rows.filterMap (·.content.pair) = r.pairs ∧
      (r.filled.rows.filter (·.content.isCables)).length ≤ 1 ∧
      r.filled.rows.map Row.index = List.range r.filled.rows.length ∧
      (∀ i ∈ r.filled.addressed, i < r.n_rows) ∧ Good r.extra r.filled := by
  rw [report_eq, ← optionWrites_fit_iff]
  constructor
  · rintro ⟨hpairs, hcables, hindices, hinside, hwrites, hconverted⟩
    refine ⟨?_, hpairs, hcables, hindices, hinside, ?_, hconverted⟩
    · intro w hw
      exact hwrites w (List.mem_append_left _ hw)
    · intro w hw
      exact hwrites w (List.mem_append_right _ (List.mem_append_right _ hw))
  · rintro ⟨hoptions, hpairs, hcables, hindices, hinside, hwrites, hconverted⟩
    refine ⟨hpairs, hcables, hindices, hinside, ?_, hconverted⟩
    intro w hw
    rcases List.mem_append.1 hw with hw | hw
    · exact hoptions w hw
    · rcases List.mem_append.1 hw with hw | hw
      · exact r.headerWrites_fit w hw
      · exact hwrites w hw

/-- A row is left for the cables if they get one. -/
def Room : Prop :=
  r.sensor ≠ none ∨ r.fmt = .APP_OUT_FORMAT_TABLE ∨ 0 < r.dev.replaced ∨
    ∀ s ∈ r.dev.sensors, s.name ≠ "12V_AUX1".toList

theorem countP_cables_le : r.targets.countP (cablesBefore r.sensor.isNone) ≤ 1 := by
  have hone : ∀ name : Text, (r.dev.sensors.countP fun s => decide (s.name = name)) ≤ 1 := by
    intro name
    have hcount := List.nodup_iff_count_le_one.1 r.dev.distinct name
    rw [List.count_eq_countP, List.countP_map] at hcount
    refine le_trans (le_of_eq (List.countP_congr fun s _ => ?_)) hcount
    rw [decide_eq_true_eq, Function.comp_apply, beq_iff_eq]
  unfold targets
  cases r.sensor with
  | none => exact hone _
  | some name =>
    refine le_trans (le_of_eq (List.countP_eq_zero.2 fun s _ => ?_)) (Nat.zero_le 1)
    exact Bool.false_ne_true

theorem rowsOfSensors_le (h : r.Room) :
    rowsOfSensors r.sensor.isNone r.targets ≤ r.n_rows := by
  have hle := r.countP_cables_le
  rw [rowsOfSensors_eq]
  unfold Room at h
  unfold targets n_rows at *
  cases hs : r.sensor with
  | some name =>
    have hnone : ∀ l : List Sensor, l.countP (cablesBefore (some name).isNone) = 0 := fun l =>
      List.countP_eq_zero.2 fun s _ => Bool.false_ne_true
    rw [hnone]
    dsimp only
    cases r.dev.find_sensor_by_name name with
    | none => exact Nat.le_refl 0
    | some s => exact Nat.le_refl _
  | none =>
    rw [hs] at hle h
    unfold Device.ami_sensor_get_num_total
    rcases h with h | h | h | h
    · exact absurd rfl h
    · rw [if_pos h]
      dsimp only at hle ⊢
      omega
    · dsimp only at hle ⊢
      omega
    · have hzero : r.dev.sensors.countP (cablesBefore (none : Option Text).isNone) = 0 :=
        List.countP_eq_zero.2 fun s hmem hs => h s hmem (of_decide_eq_true hs)
      dsimp only
      omega

theorem right_iff_of_room (h : r.Room) : r.Right r.report_sensors ↔
    (r.verbose = true ∨ r.args = []) ∧
      ∀ s ∈ r.targets, ∀ t, s.has t = true → Sound r.extra (s.answers t) := by
  have hroom : 0 + rowsOfSensors r.sensor.isNone r.targets ≤ r.n_rows := by
    rw [Nat.zero_add]
    exact r.rowsOfSensors_le h
  obtain ⟨hindices, hpairs, hcables, hinside⟩ :=
    populateFrom_tidy r.targets r.sensor.isNone r.extra r.targets hroom
  have hgood := populateFrom_good_iff r.targets r.sensor.isNone r.extra r.targets hroom
  rw [right_iff, ← hgood]
  refine and_congr_right fun _ => ?_
  constructor
  · rintro ⟨-, -, -, -, hg⟩
    exact hg
  · intro hg
    refine ⟨hpairs, hcables.trans_le r.countP_cables_le, ?_, fun i hi => ?_, hg⟩
    · have hlen : r.filled.rows.length = rowsOfSensors r.sensor.isNone r.targets := by
        rw [← List.length_map (f := Row.index)]
        exact (congrArg List.length hindices).trans List.length_range'
      rw [hlen, List.range_eq_range']
      exact hindices
    · have := hinside i hi
      omega

theorem length_eq_add (rows : List Row) :
    rows.length = (rows.filterMap (·.content.pair)).length +
      (rows.filter (·.content.isCables)).length := by
  induction rows with
  | nil => rfl
  | cons row rows ih =>
    rcases row with ⟨i, ⟨n, text⟩ | ⟨s, t, v⟩⟩
    · rw [List.filterMap_cons_none rfl, List.filter_cons_of_pos rfl, List.length_cons,
        List.length_cons, ih]
      omega
    · rw [List.filterMap_cons_some (f := fun row : Row => row.content.pair) rfl,
        List.filter_cons_of_neg Bool.false_ne_true, List.length_cons, List.length_cons, ih]
      omega

theorem not_right_of_not_room (h : ¬ r.Room) : ¬ r.Right r.report_sensors := by
  unfold Room at h
  push Not at h
  obtain ⟨hs, hfmt, hreplaced, s, hmem, hname⟩ := h
  have htargets : r.targets = r.dev.sensors := by
    unfold targets
    rw [hs]
  have hrows : r.n_rows = r.pairs.length := by
    unfold n_rows pairs Device.ami_sensor_get_num_total
    rw [hs, htargets]
    dsimp only
    rw [if_neg hfmt, List.length_flatMap]
    simp only [List.length_map, flagged_type]
    omega
  rw [right_iff]
  rintro ⟨-, hpairs, -, hindices, hinside, -⟩
  -- the sensor of the first cable is there, and so is the row before it
  obtain ⟨t, ht⟩ := s.has_some
  have hpair : (s.name, t) ∈ r.filled.rows.filterMap (·.content.pair) := by
    rw [hpairs]
    refine List.mem_flatMap.2 ⟨s, htargets ▸ hmem, List.mem_map_of_mem ?_⟩
    rw [← flagged_type]
    exact (mem_flagged s t).2 ht
  obtain ⟨row, hrow, hcontent⟩ := List.mem_filterMap.1 hpair
  have hcables : ∃ c ∈ r.filled.rows, c.content.isCables = true := by
    rcases hc : row.content with ⟨n, text⟩ | ⟨s', t', v⟩
    · rw [hc] at hcontent
      exact absurd hcontent nofun
    · rw [hc] at hcontent
      have hname' : s'.name = "12V_AUX1".toList :=
        (Prod.mk.inj (Option.some_injective _ hcontent)).1.trans hname
      refine exists_cables_of_values r.targets r.sensor.isNone r.extra hrow hc ?_
      rw [hs, cablesBefore, hname']
      rfl
  obtain ⟨c, hc, hcables⟩ := hcables
  have hpos : 0 < (r.filled.rows.filter (·.content.isCables)).length :=
    List.length_pos_of_mem (List.mem_filter.2 ⟨hc, hcables⟩)
  have hlen := length_eq_add r.filled.rows
  rw [hpairs] at hlen
  -- so there is a row with the number of rows for its index
  have hindex : r.n_rows ∈ r.filled.rows.map Row.index := by
    rw [hindices, List.mem_range]
    omega
  obtain ⟨last, hlast, hn⟩ := List.mem_map.1 hindex
  have hseen := populateFrom_seen r.targets r.sensor.isNone r.extra r.n_rows r.targets 0 last hlast
  have := hinside last.index hseen
  omega

end Run

/-- **The sensor table is right if no option is copied, the cables have a row, the limits are short,
and the averages do not depend on the maxima.** -/
theorem sensors_right_iff (r : Run) : r.Right r.report_sensors ↔ r.Meets := by
  by_cases h : r.Room
  · rw [r.right_iff_of_room h]
    constructor
    · rintro ⟨hoptions, hsound⟩
      exact ⟨hoptions, h, fun hl s hs t ht => (hsound s hs t ht).1 hl,
        fun ha s hs t ht => (hsound s hs t ht).2 ha⟩
    · rintro ⟨hoptions, -, hlimits, haverage⟩
      exact ⟨hoptions, fun s hs t ht => ⟨fun hl => hlimits hl s hs t ht,
        fun ha => haverage ha s hs t ht⟩⟩
  · constructor
    · intro hright
      exact absurd hright (r.not_right_of_not_room h)
    · intro hmeets
      exact absurd hmeets.room h

def boardTemp : Sensor where
  name := "pcb".toList
  name_lt := by decide
  has t := t = .AMI_SENSOR_TYPE_TEMP
  has_some := ⟨.AMI_SENSOR_TYPE_TEMP, rfl⟩
  answers _ :=
    { value := some (41000, .AMI_SENSOR_STATUS_OK)
      mod := .AMI_SENSOR_UNIT_MOD_MILLI
      max := some 43000
      avg := some 40000
      limit_w := some 80000
      limit_c := some 85000
      limit_f := some 95000 }
  voltage := none

/-- Its table with the maximum, of the option `-x max`. -/
def maxOnly : Run where
  args := ["max".toList]
  verbose := false
  sensor := none
  fmt := .APP_OUT_FORMAT_TABLE
  dev := ⟨[boardTemp], List.nodup_singleton _, 0⟩

/-- The argument of the option takes a byte more than it was given. -/
theorem not_sensors_right : ¬ ∀ r : Run, r.Right r.report_sensors := by
  intro h
  have hmem : ⟨.option, 3, "max".toList⟩ ∈ maxOnly.report_sensors.writes :=
    List.mem_append_left _ (List.mem_singleton_self _)
  exact Nat.lt_irrefl 3 ((h maxOnly).writes _ hmem).1

end Amr.App.Sensors
