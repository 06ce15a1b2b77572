/-
# Numbers read from text

`ami_convert_num` of `ami.c`, and `read_sensor_attr` for the numeric attributes, which it serves.
The end pointer of `strtol` is required not to stand at the end of the text.
-/
import Amr.Api.Sensor
import Amr.Host.HwmonRight
import Amr.Lib.Numeral

namespace Amr.Api.ConvertNum

open Numeral
open Format (printDec)

/-- The numbers of the C type `long`. -/
def InLong (v : ℤ) : Prop := -(2 ^ 63) ≤ v ∧ v < 2 ^ 63

instance (v : ℤ) : Decidable (InLong v) := inferInstanceAs (Decidable (_ ∧ _))

/-- A base that `strtol` refuses. -/
def BadBase (base : ℕ) : Prop := base = 1 ∨ 36 < base

instance (base : ℕ) : Decidable (BadBase base) := inferInstanceAs (Decidable (_ ∨ _))

def signed (neg : Bool) (n : ℕ) : ℤ := if neg then -n else n

/-- What `strtol` leaves: its value, the text at the end pointer, and whether `errno` is set. -/
structure Strtol where
  value : ℤ
  rest : List Char
  errno : Bool

def strtol (buf : List Char) (base : ℕ) : Strtol :=
  if BadBase base then ⟨0, buf, true⟩
  else
    match scan base buf with
    | none => ⟨0, buf, false⟩
    | some (neg, n, rest) =>
      if InLong (signed neg n) then ⟨signed neg n, rest, false⟩
      else ⟨if neg then -(2 ^ 63) else 2 ^ 63 - 1, rest, true⟩

/-- `ami_convert_num`: whether it succeeds, and what `*out` is afterwards. -/
def ami_convert_num (buf : List Char) (base : ℕ) (out : ℤ) : Bool × ℤ :=
  let result := strtol buf base
  if result.errno = false ∧ result.rest ≠ [] then (true, result.value) else (false, out)

/-- The text is a complete numeral of the base, with one newline or none behind it. -/
def Denotes (base : ℕ) (buf : List Char) (v : ℤ) : Prop :=
  ¬ BadBase base ∧ ∃ neg n rest, scan base buf = some (neg, n, rest) ∧
    (rest = [] ∨ rest = ['\n']) ∧ v = signed neg n ∧ InLong v

/-- The numerals, and only these, are converted, each to its number. -/
def Right (base : ℕ) (buf : List Char) : Prop :=
  ∀ out, (∀ v, ami_convert_num buf base out = (true, v) ↔ Denotes base buf v) ∧
    ((∀ v, ¬ Denotes base buf v) → ami_convert_num buf base out = (false, out))

/-- The base is refused, the text is empty, or it is a numeral that is out of range or ends in
exactly one newline. -/
def Terminated (base : ℕ) (buf : List Char) : Prop :=
  BadBase base ∨
    match scan base buf with
    | none => buf = []
    | some (neg, n, rest) => rest = ['\n'] ∨ ¬ InLong (signed neg n)

theorem right_of_refused {base : ℕ} {buf : List Char}
    (hcode : ∀ out, ami_convert_num buf base out = (false, out))
    (hnone : ∀ v, ¬ Denotes base buf v) : Right base buf := by
  refine fun out => ⟨fun v => ?_, fun _ => hcode out⟩
  rw [hcode]
  exact ⟨fun h => absurd (Prod.mk.inj h).1 Bool.false_ne_true, fun h => absurd h (hnone v)⟩

/-- **The conversion is right exactly when** the text is terminated. -/
theorem right_iff (base : ℕ) (buf : List Char) : Right base buf ↔ Terminated base buf := by
  by_cases hbase : BadBase base
  · refine iff_of_true (right_of_refused (fun out => ?_) fun v h => h.1 hbase) (.inl hbase)
    simp [ami_convert_num, strtol, hbase]
  unfold Terminated
  rw [or_iff_right hbase]
  cases hscan : scan base buf with
  | none =>
    have hnone : ∀ v, ¬ Denotes base buf v := by
      rintro v ⟨-, neg, n, rest, h, -⟩
      rw [hscan] at h
      cases h
    have hcode : ∀ out, ami_convert_num buf base out =
        if buf ≠ [] then (true, 0) else (false, out) := by
      intro out
      simp [ami_convert_num, strtol, hbase, hscan]
    constructor
    · intro hright
      by_contra hne
      exact hnone 0 (((hright 0).1 0).mp ((hcode 0).trans (if_pos hne)))
    · exact fun hnil => right_of_refused (fun out => (hcode out).trans (if_neg (not_not.mpr hnil)))
        hnone
  | some r =>
    obtain ⟨neg, n, rest⟩ := r
    have hdenotes : ∀ v, Denotes base buf v ↔
        (rest = [] ∨ rest = ['\n']) ∧ v = signed neg n ∧ InLong v := by
      intro v
      constructor
      · rintro ⟨-, neg', n', rest', h, hv⟩
        rw [hscan] at h
        cases h
        exact hv
      · exact fun hv => ⟨hbase, neg, n, rest, hscan, hv⟩
    dsimp only
    by_cases hlong : InLong (signed neg n)
    · have hcode : ∀ out, ami_convert_num buf base out =
          if rest ≠ [] then (true, signed neg n) else (false, out) := by
        intro out
        simp [ami_convert_num, strtol, hbase, hscan, hlong]
      rw [or_iff_left (not_not.mpr hlong)]
      constructor
      · intro hright
        have hdone := ((hright 0).1 (signed neg n)).trans (hdenotes _)
        rw [hcode] at hdone
        by_cases hnil : rest = []
        · rw [if_neg (not_not.mpr hnil)] at hdone
          cases (Prod.mk.inj (hdone.mpr ⟨.inl hnil, rfl, hlong⟩)).1
        · rw [if_pos hnil] at hdone
          exact (hdone.mp rfl).1.resolve_left hnil
      · intro hnl
        have hne : rest ≠ [] := by rw [hnl]; exact List.cons_ne_nil _ _
        refine fun out => ⟨fun v => ?_, fun hno => absurd ⟨.inr hnl, rfl, hlong⟩
          (fun h => hno _ ((hdenotes _).mpr h))⟩
        rw [hcode, if_pos hne, hdenotes, Prod.mk.injEq]
        constructor
        · rintro ⟨-, rfl⟩
          exact ⟨.inr hnl, rfl, hlong⟩
        · exact fun h => ⟨rfl, h.2.1.symm⟩
    · refine iff_of_true (right_of_refused (fun out => ?_) ?_) (.inr hlong)
      · simp [ami_convert_num, strtol, hbase, hscan, hlong]
      · intro v hv
        obtain ⟨-, rfl, hv⟩ := (hdenotes v).mp hv
        exact hlong hv

/-! ### The value of a sensor attribute -/

def AMI_BASE_10 : ℕ := 10

/-- The text that `read_hwmon` leaves in the buffer, which was zero. -/
def bufferText (content : CString) : CString :=
  (content.take AMI_HWMON_MAX_STR).takeWhile fun c => decide (c.toNat ≠ 0)

/-- `read_sensor_attr` for a numeric attribute: the status, and what `value_l` is afterwards. The
buffer is not terminated when it is full. -/
def read_sensor_value (h : Hwmon) (hwmon : CString) (value_l : ℤ) : Status × ℤ :=
  match h.content hwmon with
  | none => (.error, value_l)
  | some content =>
    if (bufferText content).length < AMI_HWMON_MAX_STR then
      let converted := ami_convert_num (bufferText content) AMI_BASE_10 value_l
      (if converted.1 then .ok else .error, converted.2)
    else (.overflow, value_l)

/-- `"%ld\n"`, as the driver prints a value. -/
def shown (v : ℤ) : CString := printDec v ++ ['\n']

theorem length_printDec {v : ℤ} (hv : InLong v) : (printDec v).length ≤ 20 := by
  obtain ⟨hlo, hhi⟩ := hv
  have hlen : (Nat.toDigits 10 v.natAbs).length ≤ 19 :=
    (Nat.length_toDigits_le_iff (by decide) (by decide)).mpr (by omega)
  unfold printDec
  split
  · rw [List.length_cons]
    omega
  · omega

theorem bufferText_shown {v : ℤ} (hv : InLong v) : bufferText (shown v) = shown v := by
  have hlen := length_printDec hv
  unfold bufferText
  have hshort : (shown v).length ≤ AMI_HWMON_MAX_STR := by
    simp only [shown, AMI_HWMON_MAX_STR, List.length_append, List.length_singleton]
    omega
  rw [List.take_of_length_le hshort, List.takeWhile_eq_self_iff]
  intro c hc
  refine decide_eq_true fun hzero => ?_
  obtain rfl : c = Char.ofNat 0 := Char.toNat_inj.mp hzero
  rcases List.mem_append.mp hc with hc | hc
  · exact Format.not_mem_printDec (by decide) (by decide) v hc
  · revert hc
    decide

/-- **A value that the driver prints is read back.** -/
theorem read_shown {h : Hwmon} {hwmon : CString} {v : ℤ} (hv : InLong v)
    (hcontent : h.content hwmon = some (shown v)) (value_l : ℤ) :
    read_sensor_value h hwmon value_l = (.ok, v) := by
  have hscan : scan 10 (shown v) = some (decide (v < 0), v.natAbs, ['\n']) :=
    scan_printDec v fun c hc => by
      obtain rfl : '\n' = c := Option.some.inj hc
      decide
  have hsigned : signed (decide (v < 0)) v.natAbs = v := by
    unfold signed
    split_ifs with hneg
    · have hlt := of_decide_eq_true hneg
      omega
    · have hge : ¬ v < 0 := fun hlt => hneg (decide_eq_true hlt)
      omega
  have hconvert : ami_convert_num (shown v) AMI_BASE_10 value_l = (true, v) := by
    have hbase : ¬ BadBase 10 := by decide
    simp [ami_convert_num, strtol, hbase, AMI_BASE_10, hscan, hsigned, hv]
  have hlen : (shown v).length < AMI_HWMON_MAX_STR := by
    have hprint := length_printDec hv
    simp only [shown, AMI_HWMON_MAX_STR, List.length_append, List.length_singleton]
    omega
  unfold read_sensor_value
  rw [hcontent]
  simp only [bufferText_shown hv, if_pos hlen, hconvert, if_true]

/-- **A text is converted rightly exactly when it is terminated**, and what the driver prints is
read back. -/
theorem convert_num_iff (base : ℕ) (buf : List Char) : (Right base buf ↔ Terminated base buf) ∧
    ∀ (h : Hwmon) (hwmon : CString) (v value_l : ℤ), InLong v →
      h.content hwmon = some (shown v) → read_sensor_value h hwmon value_l = (.ok, v) :=
  ⟨right_iff base buf, fun _ _ _ value_l hv hcontent => read_shown hv hcontent value_l⟩

/-- A number with nothing behind it is refused. -/
theorem unterminated_refused : ¬ Right 10 "123".toList := by
  intro hright
  have hdenotes : Denotes 10 "123".toList 123 :=
    ⟨by decide, false, 123, [], by decide, .inl rfl, by decide, by decide⟩
  exact absurd (((hright 0).1 123).mpr hdenotes) (by decide)

/-! ### From the record of a sensor to the application -/

open Host.Hwmon DecimalShift

/-- What the kernel shows of an attribute that the driver has read. -/
def hwmon_attr_show (o : Outcome) : Option CString := if o.ret = 0 then o.val.map shown else none

/-- The average temperature, for which the driver has a file of its own. -/
def temp_average (sensor_repos : List sensor_repo) (nr index : ℤ) : Option ℤ :=
  let unit_mod := get_sensor_value sensor_repos nr .SENSOR_ATTR_UNIT_MOD index SENSOR_UNIT_MOD_NONE
  let value := get_sensor_value sensor_repos nr .SENSOR_ATTR_AVERAGE index 0
  if unit_mod.1 = 0 ∧ value.1 = 0 then convert_milli_units unit_mod.2 value.2 else none

/-- The file is empty when there is no average. -/
def temp_average_show (sensor_repos : List sensor_repo) (nr index : ℤ) : CString :=
  (temp_average sensor_repos nr index).elim [] shown

theorem inLong_thousand (x : ℤ) : InLong (thousand x) := by
  have hpos : (0 : ℕ) < 2 ^ 64 := by decide
  have hle := Int.le_bmod (x := x * 1000) hpos
  have hlt := Int.bmod_lt (x := x * 1000) hpos
  unfold thousand mulWord InLong
  omega

theorem inLong_tdiv {x : ℤ} (hx : InLong x) : InLong (x.tdiv 1000) := by
  obtain ⟨hlo, hhi⟩ := hx
  have habs : (x.tdiv 1000).natAbs = x.natAbs / 1000 := Int.natAbs_tdiv x 1000
  unfold InLong
  omega

theorem inLong_milli {u x y : ℤ} (hx : InLong x) (h : convert_milli_units u x = some y) :
    InLong y := by
  unfold convert_milli_units at h
  split_ifs at h <;> obtain rfl := Option.some.inj h
  · exact inLong_thousand _
  · exact inLong_thousand _
  · exact inLong_thousand _
  · exact hx
  · exact inLong_tdiv hx

theorem inLong_micro {u x y : ℤ} (hx : InLong x) (h : convert_micro_units u x = some y) :
    InLong y := by
  unfold convert_micro_units at h
  split_ifs at h <;> obtain rfl := Option.some.inj h
  · exact inLong_thousand _
  · exact inLong_thousand _
  · exact inLong_thousand _
  · exact inLong_thousand _
  · exact hx

theorem inLong_make_val (type size : ℕ) (data : List ℕ) : InLong (make_val type size data) := by
  have h₀ := cell_lt data 0
  have h₁ := cell_lt data 1
  have h₂ := cell_lt data 2
  have h₃ := cell_lt data 3
  unfold make_val InLong
  split
  · decide
  · split <;> omega

theorem inLong_get_limit (r : sensor_record) (mask : ℕ) (limit : List ℕ) :
    InLong (get_limit r mask limit 0).2 := by
  unfold get_limit
  split_ifs
  · exact inLong_make_val _ _ _
  · decide

theorem inLong_get_sensor_value (repos : List sensor_repo) (type sid : ℤ)
    {a : ami_sensor_attribute} (hstatus : a ≠ .SENSOR_ATTR_STATUS)
    (hunit : a ≠ .SENSOR_ATTR_UNIT_MOD) : InLong (get_sensor_value repos type a sid 0).2 := by
  have hzero : InLong 0 := by decide
  unfold get_sensor_value
  cases find_sdr_record repos type sid with
  | none => exact hzero
  | some r =>
    cases a
    case SENSOR_ATTR_STATUS => exact absurd rfl hstatus
    case SENSOR_ATTR_UNIT_MOD => exact absurd rfl hunit
    case SENSOR_ATTR_INVALID => exact hzero
    all_goals first | exact inLong_make_val _ _ _ | exact inLong_get_limit _ _ _

theorem inLong_convert {type : hwmon_sensor_types} {u x y : ℤ} (hx : InLong x)
    (h : convert_units type u x = some y) : InLong y := by
  cases type
  case hwmon_power => exact inLong_micro hx h
  case hwmon_chip => cases h
  case other => cases h
  all_goals exact inLong_milli hx h

theorem inLong_val {env : Env} {pf_dev : pf_dev_struct} {type : hwmon_sensor_types}
    {attr : HwmonAttr} {channel : ℤ} {status : Bool} {v : ℤ}
    (hrefresh : pf_dev.sensor_refresh < 2 ^ 16)
    (hval : (read_sensor_val env pf_dev type attr channel status).val = some v) : InLong v := by
  have hne := to_ami_attribute_ne type attr
  unfold read_sensor_val at hval
  split_ifs at hval
  · obtain rfl := Option.some.inj hval
    unfold InLong
    omega
  · cases hval
  · cases hval
  · unfold read_alarm at hval
    dsimp only at hval
    split_ifs at hval <;> cases hval
    · decide
    · decide
  · unfold read_other at hval
    dsimp only at hval
    split_ifs at hval
    · cases hval
    · cases hval
    all_goals exact inLong_convert (inLong_get_sensor_value _ _ _ hne.1 hne.2) hval

theorem inLong_temp_average {repos : List sensor_repo} {nr index v : ℤ}
    (h : temp_average repos nr index = some v) : InLong v := by
  unfold temp_average at h
  dsimp only at h
  split_ifs at h
  exact inLong_milli (inLong_get_sensor_value _ _ _ (by decide) (by decide)) h

/-- **What the driver has read of a sensor reaches the application**: the number, of every type and
attribute and also of the average temperature, or an error where the driver has none. -/
theorem sensor_value_delivered (env : Env) (repos : List sensor_repo) (refresh : UInt16)
    (type : hwmon_sensor_types) (attr : HwmonAttr) (channel nr index value_l : ℤ)
    (hwmon : CString) :
    (let o := read_sensor_val env ⟨refresh.toNat, repos⟩ type attr channel false
     read_sensor_value ⟨fun _ => true, fun _ => hwmon_attr_show o⟩ hwmon value_l =
      (if o.ret = 0 then o.val else none).elim (.error, value_l) fun v => (.ok, v)) ∧
    read_sensor_value ⟨fun _ => true, fun _ => some (temp_average_show repos nr index)⟩ hwmon
        value_l = (temp_average repos nr index).elim (.error, value_l) fun v => (.ok, v) := by
  constructor
  · dsimp only
    unfold hwmon_attr_show
    split_ifs
    · cases hval : (read_sensor_val env ⟨refresh.toNat, repos⟩ type attr channel false).val with
      | none => rfl
      | some v => exact read_shown (inLong_val refresh.toNat_lt hval) rfl value_l
    · rfl
  · unfold temp_average_show
    cases hval : temp_average repos nr index with
    | none => rfl
    | some v => exact read_shown (inLong_temp_average hval) rfl value_l

end Amr.Api.ConvertNum
