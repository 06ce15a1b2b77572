/-
# Enumerating the devices

`ami_dev_find_next` and `ami_dev_get_num_devices` of `ami_device.c`: each call reads the text of the
driver's `devices` attribute from its start. The cursor of an enumeration is the minor number of the
device found before.
-/
import Amr.Host.DeviceMap

namespace Amr.Api.FindNext

open Format
open Host.DeviceMap

/-! ### The calls -/

inductive Status where
  | AMI_STATUS_OK
  | AMI_STATUS_ERROR
  | AMI_ERROR_EINVAL
  | AMI_ERROR_EVER
  | AMI_ERROR_EBADF
  | AMI_ERROR_EFMT
  | AMI_ERROR_ENOMEM
  | AMI_ERROR_ENODEV
  | AMI_ERROR_ERET
  deriving DecidableEq, Repr

/-- What `ami_dev_find_next` fills in of a device handle. -/
structure ami_device where
  bdf : BitVec 16
  cdev_num : ℤ
  hwmon_num : ℤ
  deriving DecidableEq, Repr

def AMI_ANY_DEV : ℤ := -1

/-- `AMI_MK_BDF`, on values of type `int`. -/
def AMI_MK_BDF (b d f : ℤ) : BitVec 16 :=
  (((BitVec.ofInt 32 b <<< 8) &&& 0xFF00#32) |||
    (((BitVec.ofInt 32 d <<< 3) &&& ~~~0x07#32) ||| (BitVec.ofInt 32 f &&& 0x07#32))).setWidth 16

/-- `"%02x:%02x.%1x %d %d"`. -/
def MAP_FORMAT : List Directive :=
  [.hex 2, .char ':', .hex 2, .char '.', .hex 1, .space, .dec, .space, .dec]

/-- What one call meets: the driver's version (none when it cannot be read, else whether it is the
one that the API was built for), the opening of the map, the allocation of the handle, and the
registration of the handle with the driver. -/
structure Call where
  version : Option Bool
  opened : Bool
  calloc : Bool
  register : Status

def Call.fine : Call := ⟨some true, true, true, .AMI_STATUS_OK⟩

/-- A criterion of the search and a parsed value. -/
def wanted (x v : ℤ) : Bool := x == AMI_ANY_DEV || v == x

/-- The loop over the lines of devices: the previous device has been passed or not, and the minor
number of the line before. The status and the handle that is left in `*dev`. -/
def search (c : Call) (b d f : ℤ) (prev : Option ami_device) :
    List (List Char) → Bool → ℤ → Status × Option ami_device
  | [], _, _ => (.AMI_ERROR_ENODEV, none)
  | line :: lines, passed_prev, previous_dev =>
    match sscanf MAP_FORMAT line with
    | [bus, dev, func, devn, hwmon] =>
      let passed_prev := passed_prev || prev.all fun p => previous_dev == p.cdev_num
      if passed_prev && wanted b bus && wanted d dev && wanted f func then
        if c.calloc then (c.register, some ⟨AMI_MK_BDF bus dev func, devn, hwmon⟩)
        else (.AMI_ERROR_ENOMEM, none)
      else search c b d f prev lines passed_prev devn
    | _ => (.AMI_ERROR_EFMT, none)

/-- `ami_dev_find_next`: the status, and what `*dev` is afterwards. -/
def ami_dev_find_next (text : List Char) (c : Call) (dev : Option ami_device) (b d f : ℤ)
    (prev : Option ami_device) : Status × Option ami_device :=
  if dev.isSome then (.AMI_ERROR_EINVAL, dev)
  else
    match c.version with
    | none => (.AMI_STATUS_ERROR, dev)
    | some false => (.AMI_ERROR_EVER, dev)
    | some true =>
      -- the first line is the number of devices
      if c.opened then search c b d f prev (lines text).tail false 0
      else (.AMI_ERROR_EBADF, dev)

/-- `ami_dev_get_num_devices`, with the value of `*num` when it is set. -/
def ami_dev_get_num_devices (opened : Bool) (text : List Char) : Status × Option (BitVec 16) :=
  if opened then
    match lines text with
    | [] => (.AMI_STATUS_ERROR, none)
    | line :: _ =>
      match sscanf [.dec] line with
      | [num_devices] => (.AMI_STATUS_OK, some (BitVec.ofInt 16 num_devices))
      | _ => (.AMI_ERROR_ERET, none)
  else (.AMI_ERROR_EBADF, none)

/-- Calls with wildcards, each with the handle of the one before, until one fails: the handles, and
the status of the last call. Every call of the enumeration meets no failure outside of it. -/
def enumerate (text : List Char) : ℕ → Option ami_device → List ami_device × Status
  | 0, _ => ([], .AMI_STATUS_ERROR)
  | fuel + 1, prev =>
    match ami_dev_find_next text .fine none AMI_ANY_DEV AMI_ANY_DEV AMI_ANY_DEV prev with
    | (.AMI_STATUS_OK, some dev) =>
      let rest := enumerate text fuel (some dev)
      (dev :: rest.1, rest.2)
    | (status, _) => ([], status)

/-! ### What the calls read of a map -/

/-- The kernel's number of a device: bus, slot and function. -/
def PCI_DEVID (d : Attached) : BitVec 16 :=
  (d.bus.toBitVec.setWidth 16 <<< 8) ||| d.devfn.toBitVec.setWidth 16

/-- The handle of a device, with its own BDF, minor and hwmon number. -/
def handle (d : Attached) : ami_device := ⟨PCI_DEVID d, d.minor, d.hwmon_id⟩

theorem AMI_MK_BDF_eq (d : Attached) :
    AMI_MK_BDF d.bus.toNat (PCI_SLOT d.devfn) (PCI_FUNC d.devfn) = PCI_DEVID d := by
  have hhigh : ∀ b : BitVec 8, ((BitVec.ofInt 32 (b.toNat : ℤ) <<< 8) &&& 0xFF00#32).setWidth 16 =
      b.setWidth 16 <<< 8 := by decide +kernel
  have hlow : ∀ b : BitVec 8, ((BitVec.ofInt 32 (((b.toNat >>> 3) &&& 0x1f : ℕ) : ℤ) <<< 3) &&&
      ~~~0x07#32 ||| (BitVec.ofInt 32 ((b.toNat &&& 0x07 : ℕ) : ℤ) &&& 0x07#32)).setWidth 16 =
      b.setWidth 16 := by decide +kernel
  unfold AMI_MK_BDF PCI_DEVID PCI_SLOT PCI_FUNC
  rw [BitVec.setWidth_or]
  exact congr (congrArg _ (hhigh d.bus.toBitVec)) (hlow d.devfn.toBitVec)

/-- **A line is read back as the device it was printed for.** -/
theorem sscanf_line (d : Attached) : sscanf MAP_FORMAT d.line = d.fields := by
  have hprint : d.line = sprintf MAP_FORMAT d.fields ++ ['\n'] := by
    simp [Attached.line, LINE_FORMAT, MAP_FORMAT, Attached.fields, sprintf]
  have hbus := d.bus.toNat_lt
  have hslot := PCI_SLOT_lt d.devfn
  have hfunc := PCI_FUNC_lt d.devfn
  have hminor := d.minor_lt
  rw [hprint]
  refine sscanf_sprintf _ _ _ ⟨by decide, by omega, by omega, inInt_natCast (by omega),
    by decide, by omega, by omega, inInt_natCast (by omega), by decide, by omega, by omega,
    inInt_natCast (by omega), ?_, ?_, ?_, ?_, d.hwmon_int, ?_, rfl⟩
  · simpa [sprintf] using noSpace_printDec _ _
  · exact inInt_natCast (lt_trans hminor (by norm_num [MINORS]))
  · exact noDigit_cons (by decide) _
  · simpa [sprintf] using noSpace_printDec _ _
  · exact noDigit_cons (by decide) _

variable (ds : List Attached)

theorem lines_map_text :
    lines (map_text ds) = sprintf COUNT_FORMAT [(ds.length : ℤ)] :: ds.map Attached.line := by
  have hflat : map_text ds =
      (sprintf COUNT_FORMAT [(ds.length : ℤ)] :: ds.map Attached.line).flatten := by
    simp [map_text]
  rw [hflat]
  refine lines_flatten _ ?_
  rintro l (_ | ⟨_, hl⟩)
  · exact count_line_terminated _
  · obtain ⟨d, -, rfl⟩ := List.mem_map.mp hl
    exact d.line_terminated

/-- The devices that a search passes over until the previous one is behind it, and those that
remain. -/
def after (p : ℤ) : ℤ → List Attached → List Attached
  | _, [] => []
  | q, d :: ds => if q = p then d :: ds else after p d.minor ds

def remaining (prev : Option ami_device) (ds : List Attached) : List Attached :=
  match prev with
  | none => ds
  | some p => after p.cdev_num 0 ds

def Matches (b d f : ℤ) (x : Attached) : Bool :=
  wanted b x.bus.toNat && wanted d (PCI_SLOT x.devfn) && wanted f (PCI_FUNC x.devfn)

/-- What the call does with the first device that it can find. -/
def conclude (c : Call) : Option Attached → Status × Option ami_device
  | none => (.AMI_ERROR_ENODEV, none)
  | some x => if c.calloc then (c.register, some (handle x)) else (.AMI_ERROR_ENOMEM, none)

variable (c : Call) (b d f : ℤ) (prev : Option ami_device)

theorem search_line (x : Attached)
    (ls : List (List Char)) (passed : Bool) (q : ℤ) :
    search c b d f prev (x.line :: ls) passed q =
      if (passed || prev.all fun p => q == p.cdev_num) && Matches b d f x then conclude c (some x)
      else search c b d f prev ls (passed || prev.all fun p => q == p.cdev_num) x.minor := by
  rw [search, sscanf_line]
  simp only [Attached.fields, conclude, handle, Matches, AMI_MK_BDF_eq, Bool.and_assoc]

theorem search_passed (ds : List Attached)
    (q : ℤ) : search c b d f prev (ds.map Attached.line) true q =
      conclude c (ds.find? (Matches b d f)) := by
  induction ds generalizing q with
  | nil => rfl
  | cons x ds ih =>
    rw [List.map_cons, search_line, List.find?_cons, Bool.true_or, Bool.true_and]
    cases hx : Matches b d f x with
    | true => rfl
    | false => exact ih _

/-- **The search**: the first match among the devices that remain. -/
theorem search_eq (ds : List Attached) :
    search c b d f prev (ds.map Attached.line) false 0 =
      conclude c ((remaining prev ds).find? (Matches b d f)) := by
  cases prev with
  | none =>
    cases ds with
    | nil => rfl
    | cons x ds =>
      rw [List.map_cons, search_line, remaining, List.find?_cons]
      cases hx : Matches b d f x with
      | true => rfl
      | false => exact search_passed c b d f none ds _
  | some p =>
    -- the cursor moves from line to line until it stands at the previous device
    have hfrom : ∀ (ds : List Attached) (q : ℤ),
        search c b d f (some p) (ds.map Attached.line) false q =
          conclude c ((after p.cdev_num q ds).find? (Matches b d f)) := by
      intro ds
      induction ds with
      | nil => exact fun _ => rfl
      | cons x ds ih =>
        intro q
        rw [List.map_cons, search_line, after]
        by_cases hq : q = p.cdev_num
        · rw [if_pos hq, List.find?_cons, Option.all_some, hq, beq_self_eq_true, Bool.false_or]
          cases hx : Matches b d f x with
          | true => rfl
          | false => exact search_passed c b d f (some p) ds _
        · have hne : (q == p.cdev_num) = false := by simpa using hq
          rw [if_neg hq, Option.all_some, hne, Bool.false_or]
          exact ih _
    exact hfrom ds 0

/-- **One call on the driver's map.** -/
theorem ami_dev_find_next_eq
    (ds : List Attached) : ami_dev_find_next (map_text ds) c none b d f prev =
      match c.version with
      | none => (.AMI_STATUS_ERROR, none)
      | some false => (.AMI_ERROR_EVER, none)
      | some true =>
        if c.opened then conclude c ((remaining prev ds).find? (Matches b d f))
        else (.AMI_ERROR_EBADF, none) := by
  unfold ami_dev_find_next
  rw [lines_map_text, List.tail_cons, search_eq]
  rfl

/-! ### The enumeration -/

theorem after_append (x : Attached) (as ds : List Attached) (q : ℤ)
    (hq : q ≠ x.minor) (has : ∀ a ∈ as, a.minor ≠ x.minor) :
    after x.minor q (as ++ x :: ds) = ds := by
  induction as generalizing q with
  | nil =>
    rw [List.nil_append, after, if_neg hq]
    cases ds with
    | nil => rfl
    | cons y ds => rw [after, if_pos rfl]
  | cons a as ih =>
    rw [List.cons_append, after, if_neg hq]
    exact ih _ (fun h => has a (by simp) (by exact_mod_cast h)) fun a' ha' => has a' (by simp [ha'])

theorem matches_any (x : Attached) : Matches AMI_ANY_DEV AMI_ANY_DEV AMI_ANY_DEV x = true := by
  simp [Matches, wanted]

theorem find_next_any (ds : List Attached) :
    ami_dev_find_next (map_text ds) .fine none AMI_ANY_DEV AMI_ANY_DEV AMI_ANY_DEV prev =
      match (remaining prev ds).head? with
      | none => (.AMI_ERROR_ENODEV, none)
      | some x => (.AMI_STATUS_OK, some (handle x)) := by
  rw [ami_dev_find_next_eq]
  cases remaining prev ds with
  | nil => rfl
  | cons x rest =>
    rw [List.find?_cons, matches_any]
    rfl

theorem enumerate_remaining (ds : Devices) (as rest : List Attached) (prev : Option ami_device)
    (hlist : ds.list = as ++ rest) (hprev : remaining prev ds.list = rest) {fuel : ℕ}
    (hfuel : rest.length < fuel) :
    enumerate (map_text ds.list) fuel prev = (rest.map handle, .AMI_ERROR_ENODEV) := by
  induction rest generalizing as prev fuel with
  | nil =>
    obtain ⟨fuel, rfl⟩ := Nat.exists_eq_succ_of_ne_zero (Nat.ne_of_gt hfuel)
    rw [enumerate, find_next_any, hprev]
    rfl
  | cons x rest ih =>
    obtain ⟨fuel, rfl⟩ := Nat.exists_eq_succ_of_ne_zero (Nat.ne_of_gt (Nat.zero_lt_of_lt hfuel))
    have hnext : remaining (some (handle x)) ds.list = rest := by
      have hnodup := ds.nodup
      rw [hlist, List.map_append, List.nodup_append] at hnodup
      have hx := x.minor_pos
      rw [hlist]
      refine after_append x as rest 0 (by omega) fun a ha heq => ?_
      exact hnodup.2.2 a.minor (List.mem_map_of_mem ha) x.minor (by simp) heq
    rw [enumerate, find_next_any, hprev]
    simp only [List.head?_cons, List.map_cons]
    rw [ih (as ++ [x]) (some (handle x)) (by rw [hlist]; simp) hnext (by simpa using hfuel)]

/-- **The enumeration visits every device once, in the order of the map.** -/
theorem enumerate_eq (ds : Devices) {fuel : ℕ} (hfuel : ds.list.length < fuel) :
    enumerate (map_text ds.list) fuel none = (ds.list.map handle, .AMI_ERROR_ENODEV) :=
  enumerate_remaining ds [] ds.list none rfl rfl hfuel

theorem num_devices_eq (hds : (map_text ds).length < PAGE_SIZE) :
    ami_dev_get_num_devices true (map_text ds) =
      (.AMI_STATUS_OK, some (BitVec.ofNat 16 ds.length)) := by
  have hlen : ds.length < 4096 := lt_trans (length_le_map_text ds) hds
  have hprint : sprintf COUNT_FORMAT [(ds.length : ℤ)] =
      sprintf [.dec] [(ds.length : ℤ)] ++ ['\n'] := by
    simp [sprintf, COUNT_FORMAT]
  have hscan : sscanf [.dec] (sprintf COUNT_FORMAT [(ds.length : ℤ)]) = [(ds.length : ℤ)] := by
    rw [hprint]
    exact sscanf_sprintf _ _ _ ⟨inInt_natCast (lt_trans hlen (by norm_num)),
      noDigit_cons (by decide) _, rfl⟩
  unfold ami_dev_get_num_devices
  simp only [lines_map_text, hscan, if_true, BitVec.ofInt_natCast]

/-- A failed call leaves a handle exactly when the registration of a found device fails. -/
def Registers (c : Call) (b d f : ℤ) (prev : Option ami_device) (ds : List Attached) : Prop :=
  c.version = some true ∧ c.opened = true ∧ c.calloc = true ∧
    ∃ x ∈ remaining prev ds, Matches b d f x = true

theorem find_next_leaves_none_iff (ds : List Attached) :
    ((ami_dev_find_next (map_text ds) c none b d f prev).1 ≠ .AMI_STATUS_OK →
        (ami_dev_find_next (map_text ds) c none b d f prev).2 = none) ↔
      (Registers c b d f prev ds → c.register = .AMI_STATUS_OK) := by
  rw [ami_dev_find_next_eq]
  rcases hv : c.version with _ | _ | _
  · simp [Registers, hv]
  · simp [Registers, hv]
  · cases ho : c.opened with
    | false => simp [Registers, ho]
    | true =>
      cases hfind : (remaining prev ds).find? (Matches b d f) with
      | none =>
        have hnone := List.find?_eq_none.mp hfind
        simp only [if_true, conclude, implies_true, Registers, hv, ho, true_and, true_iff]
        rintro ⟨-, x, hx, hmatch⟩
        exact absurd hmatch (hnone x hx)
      | some x =>
        have hreg : ∃ x ∈ remaining prev ds, Matches b d f x = true :=
          ⟨x, List.mem_of_find?_eq_some hfind, List.find?_some hfind⟩
        cases hc : c.calloc with
        | false => simp [conclude, Registers, hc]
        | true =>
          simp only [if_true, conclude, hc, Registers, hv, ho, hreg, and_self, true_imp_iff,
            reduceCtorEq, imp_false, not_not]

/-! ### From the driver to the handles -/

/-- The devices are enumerated through the driver's map: the driver shows it without a fault, the
enumeration visits every device once and in order and then reports that none is left, the number of
devices is that of the lines, and a call that fails leaves no handle behind. -/
def Enumerated (m : Memory) (ds : Devices) (c : Call) (b d f : ℤ) (prev : Option ami_device) :
    Prop :=
  ∃ text, devices_show m ds.list = .ok text ∧ text = map_text ds.list ∧
    (∀ fuel, ds.list.length < fuel →
      enumerate text fuel none = (ds.list.map handle, .AMI_ERROR_ENODEV)) ∧
    ami_dev_get_num_devices true text = (.AMI_STATUS_OK, some (BitVec.ofNat 16 ds.list.length)) ∧
    ds.list.length < 2 ^ 16 ∧
    ((ami_dev_find_next text c none b d f prev).1 ≠ .AMI_STATUS_OK →
      (ami_dev_find_next text c none b d f prev).2 = none)

/-- The two decimals of a line have at most eight characters. -/
def Narrow (d : Attached) : Prop :=
  (printDec d.minor).length + (printDec d.hwmon_id).length ≤ 8

theorem narrow_iff (d : Attached) : Narrow d ↔ d.line.length < TEMP_SIZE := by
  have hsize : TEMP_SIZE = 19 := rfl
  have hlen := d.length_line
  unfold Narrow
  omega

/-- **Devices are enumerated through the map exactly when** the two decimals of every line have at
most eight characters, the map fits a page, its memory is there, and a handle that the call creates
can be registered. -/
theorem enumerated_iff (m : Memory) (ds : Devices) (c : Call) (b d f : ℤ)
    (prev : Option ami_device) :
    Enumerated m ds c b d f prev ↔
      (∀ x ∈ ds.list, Narrow x) ∧ (map_text ds.list).length < PAGE_SIZE ∧ m.Suffices ds.list ∧
        (Registers c b d f prev ds.list → c.register = .AMI_STATUS_OK) := by
  constructor
  · rintro ⟨text, hshow, rfl, -, -, -, hleft⟩
    obtain ⟨hfit, hpage, hm⟩ := devices_show_eq_map_text.mp hshow
    exact ⟨fun x hx => (narrow_iff x).mpr (hfit x hx), hpage, hm,
      (find_next_leaves_none_iff c b d f prev ds.list).mp hleft⟩
  · rintro ⟨hfit, hpage, hm, hreg⟩
    have hlen : ds.list.length < 4096 := lt_trans (length_le_map_text ds.list) hpage
    exact ⟨_, devices_show_eq_map_text.mpr ⟨fun x hx => (narrow_iff x).mp (hfit x hx), hpage, hm⟩,
      rfl, fun fuel hfuel => enumerate_eq ds hfuel, num_devices_eq ds.list hpage, by omega,
      (find_next_leaves_none_iff c b d f prev ds.list).mpr hreg⟩

def plenty : Memory :=
  ⟨true, true, fun _ => ⟨true, true, fun _ => NUL⟩, ⟨true, true, fun _ => NUL⟩,
    ⟨true, true, fun _ => NUL⟩⟩

/-- The device `c1:00.0` with a minor and a hwmon number. -/
def single (minor : ℕ) (hwmon_id : ℤ) (hpos : 0 < minor) (hlt : minor < MINORS)
    (hint : InInt hwmon_id) : Devices :=
  ⟨[⟨0xc1, 0, minor, hwmon_id, hpos, hlt, hint⟩], List.nodup_singleton _⟩

/-- The line of a device with minor 12345 and hwmon number 1000 runs over the line buffer; and when
the registration of a found device fails, its handle stays allocated. -/
theorem wide_line_overruns_buffer :
    devices_show plenty (single 12345 1000 (by decide) (by decide) (by decide)).list =
        .error .line_buffer ∧
      ¬ Enumerated plenty (single 12345 1000 (by decide) (by decide) (by decide)) .fine
        AMI_ANY_DEV AMI_ANY_DEV AMI_ANY_DEV none ∧
      ami_dev_find_next "1\nc1:00.0 1 3\n".toList ⟨some true, true, true, .AMI_STATUS_ERROR⟩ none
        AMI_ANY_DEV AMI_ANY_DEV AMI_ANY_DEV none = (.AMI_STATUS_ERROR, some ⟨0xc100#16, 1, 3⟩) := by
  have hover : devices_show plenty (single 12345 1000 (by decide) (by decide) (by decide)).list =
      .error .line_buffer := by decide +kernel
  refine ⟨hover, ?_, by decide +kernel⟩
  rintro ⟨text, hshow, -⟩
  rw [hover] at hshow
  cases hshow

/-! ### Devices that satisfy criteria -/

/-- Calls with the same criteria, each with the handle of the one before, until one fails. -/
def enumerateMatching (text : List Char) (b d f : ℤ) : ℕ → Option ami_device →
    List ami_device × Status
  | 0, _ => ([], .AMI_STATUS_ERROR)
  | fuel + 1, prev =>
    match ami_dev_find_next text .fine none b d f prev with
    | (.AMI_STATUS_OK, some dev) =>
      let rest := enumerateMatching text b d f fuel (some dev)
      (dev :: rest.1, rest.2)
    | (status, _) => ([], status)

theorem enumerateMatching_remaining (ds : Devices) (b d f : ℤ) (fuel : ℕ) :
    ∀ (as rest : List Attached) (prev : Option ami_device), ds.list = as ++ rest →
      remaining prev ds.list = rest → rest.length < fuel →
      enumerateMatching (map_text ds.list) b d f fuel prev =
        ((rest.filter (Matches b d f)).map handle, .AMI_ERROR_ENODEV) := by
  induction fuel with
  | zero => exact fun _ rest _ _ _ hlen => absurd hlen (Nat.not_lt_zero _)
  | succ fuel ih =>
    intro as rest prev hlist hprev hlen
    rw [enumerateMatching, ami_dev_find_next_eq, hprev]
    cases hfind : rest.find? (Matches b d f) with
    | none =>
      have hnone : rest.filter (Matches b d f) = [] :=
        List.filter_eq_nil_iff.mpr fun x hx => List.find?_eq_none.mp hfind x hx
      rw [hnone]
      rfl
    | some x =>
      -- the devices before `x` do not match, and the search goes on behind `x`
      obtain ⟨hx, pre, post, rfl, hpre⟩ := List.find?_eq_some_iff_append.mp hfind
      have hnone : pre.filter (Matches b d f) = [] :=
        List.filter_eq_nil_iff.mpr fun y hy => by simpa using hpre y hy
      have hnext : remaining (some (handle x)) ds.list = post := by
        have hnodup := ds.nodup
        have hpos := x.minor_pos
        rw [hlist, ← List.append_assoc] at hnodup ⊢
        rw [List.map_append, List.nodup_append] at hnodup
        refine after_append x (as ++ pre) post 0 (by omega) fun a ha heq => ?_
        exact hnodup.2.2 a.minor (List.mem_map_of_mem ha) x.minor (by simp) heq
      have hrest := ih (as ++ pre ++ [x]) post (some (handle x)) (by rw [hlist]; simp) hnext
        (by rw [List.length_append, List.length_cons] at hlen; omega)
      simp only [Call.fine, conclude, if_true, hrest, List.filter_append, hnone, List.nil_append,
        List.filter_cons, hx, List.map_cons]

/-- **The calls with some criteria visit the devices that satisfy them**, each once and in the order
of the map, and then report that there are no more. -/
theorem criteria_enumerated (ds : Devices) (b d f : ℤ) (spare : ℕ) :
    enumerateMatching (map_text ds.list) b d f (ds.list.length + 1 + spare) none =
      ((ds.list.filter (Matches b d f)).map handle, .AMI_ERROR_ENODEV) :=
  enumerateMatching_remaining ds b d f _ [] ds.list none rfl rfl (by omega)

end Amr.Api.FindNext
