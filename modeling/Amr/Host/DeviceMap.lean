/-
# The map of attached devices

`create_map_str` and `devices_show` of `ami_top.c`: one line for each attached device is printed
into a buffer on the stack and appended to a growing string in kernel memory; a line with the number
of devices goes in front, and the whole is copied into the page of the `devices` attribute. The
results of the appends are ignored.
-/
import Amr.Lib.Format

namespace Amr.Host.DeviceMap

open Format

/-! ### Devices and their lines -/

/-- The minor numbers of a `dev_t`. -/
def MINORS : ℕ := 2 ^ 20

/-- A device that the driver is bound to. Minor number zero belongs to the driver's own character
device; `hwmon_id` is `-1` when there is no hwmon device. -/
structure Attached where
  bus : UInt8
  devfn : UInt8
  minor : ℕ
  hwmon_id : ℤ
  minor_pos : 0 < minor
  minor_lt : minor < MINORS
  hwmon_int : InInt hwmon_id
  deriving DecidableEq

/-- The attached devices, in the order in which `pci_get_device` finds them. Each has a minor number
of its own. -/
structure Devices where
  list : List Attached
  nodup : (list.map Attached.minor).Nodup

def PCI_SLOT (devfn : UInt8) : ℕ := (devfn.toNat >>> 3) &&& 0x1f
def PCI_FUNC (devfn : UInt8) : ℕ := devfn.toNat &&& 0x07

/-- `"%02x:%02x.%1x %d %d\n"`. -/
def LINE_FORMAT : List Directive :=
  [.hex 2, .char ':', .hex 2, .char '.', .hex 1, .space, .dec, .space, .dec, .char '\n']

/-- `"%d\n"`. -/
def COUNT_FORMAT : List Directive := [.dec, .char '\n']

def Attached.fields (d : Attached) : List ℤ :=
  [d.bus.toNat, PCI_SLOT d.devfn, PCI_FUNC d.devfn, d.minor, d.hwmon_id]

def Attached.line (d : Attached) : List Char := sprintf LINE_FORMAT d.fields

/-- The line with the number of devices, an `int`. -/
def count_line (n : ℕ) : List Char := sprintf COUNT_FORMAT [Int.bmod n (2 ^ 32)]

/-- The text of the map: the number of devices, then the devices. -/
def map_text (ds : List Attached) : List Char :=
  sprintf COUNT_FORMAT [(ds.length : ℤ)] ++ (ds.map Attached.line).flatten

theorem PCI_SLOT_lt (devfn : UInt8) : PCI_SLOT devfn < 16 ^ 2 :=
  lt_of_le_of_lt Nat.and_le_right (by decide)

theorem PCI_FUNC_lt (devfn : UInt8) : PCI_FUNC devfn < 16 ^ 1 :=
  lt_of_le_of_lt Nat.and_le_right (by decide)

variable (d : Attached)

theorem Attached.length_line :
    d.line.length = (printDec d.minor).length + (printDec d.hwmon_id).length + 10 := by
  have hbus : (printHex 2 d.bus.toNat).length = 2 :=
    length_printHex (by decide) (by simpa using d.bus.toNat_lt)
  have hslot : (printHex 2 (PCI_SLOT d.devfn)).length = 2 :=
    length_printHex (by decide) (PCI_SLOT_lt _)
  have hfunc : (printHex 1 (PCI_FUNC d.devfn)).length = 1 :=
    length_printHex (by decide) (PCI_FUNC_lt _)
  simp only [Attached.line, LINE_FORMAT, Attached.fields, sprintf, List.length_append,
    List.length_cons, List.length_nil, Int.toNat_natCast, hbus, hslot, hfunc]
  omega

theorem Attached.length_line_pos : 0 < d.line.length := by
  rw [d.length_line]
  omega

theorem Attached.line_terminated : ∃ t, '\n' ∉ t ∧ d.line = t ++ ['\n'] := by
  refine ⟨sprintf LINE_FORMAT.dropLast d.fields, ?_, ?_⟩
  · have hdec := not_mem_printDec (c := '\n') (by decide) (by decide)
    have hhex := not_mem_printHex (c := '\n') (by decide)
    simp [LINE_FORMAT, Attached.fields, sprintf, hdec, hhex]
  · simp [Attached.line, LINE_FORMAT, Attached.fields, sprintf]

theorem count_line_terminated (v : ℤ) : ∃ t, '\n' ∉ t ∧ sprintf COUNT_FORMAT [v] = t ++ ['\n'] :=
  ⟨printDec v, not_mem_printDec (by decide) (by decide) v, rfl⟩

/-! ### Memory -/

/-- The outcomes of the two allocations inside one `my_krealloc`, and what the new memory holds. -/
structure Grant where
  tmp : Bool
  fresh : Bool
  junk : ℕ → Char

/-- The allocations of one `create_map_str`: the two initial ones, and those of each append. -/
structure Memory where
  map : Bool
  map_str : Bool
  line : ℕ → Grant
  count : Grant
  whole : Grant

/-- What goes wrong beyond an error code: a write past the line buffer, a write past the page of the
attribute, a read through NULL. -/
inductive Fault where
  | line_buffer
  | page
  | null
  deriving DecidableEq, Repr

def NUL : Char := Char.ofNat 0

def c_str (b : List Char) : List Char := b.takeWhile (· ≠ NUL)

/-- `kmalloc`: memory that nobody has written yet. -/
def Grant.kmalloc (g : Grant) (size : ℕ) : List Char := (List.range size).map g.junk

/-- The buffer afterwards, and whether the call succeeded. -/
def my_krealloc (g : Grant) (buf : Option (List Char)) (old_size new_size : ℕ) :
    Option (List Char) × Bool :=
  if new_size = 0 then (buf, false)
  else
    match buf with
    | none => if g.fresh then (some (g.kmalloc new_size), true) else (none, false)
    | some b =>
      let tmp_size := min old_size new_size
      if g.tmp = false then (some b, false)
      -- the old buffer is freed before the new one is allocated
      else if g.fresh = false then (none, false)
      else (some (b.take tmp_size ++ g.kmalloc (new_size - tmp_size)), true)

/-- The string and its size after `src` has been appended, if it could be. -/
def strconcat (g : Grant) (dst : Option (List Char)) (src : List Char) (size : ℕ) :
    Option (List Char) × ℕ :=
  match my_krealloc g dst size (size + src.length) with
  | (some b, true) => (some (b.take (size - 1) ++ (src ++ [NUL])), size + src.length)
  | (b, _) => (b, size)

/-! ### The map -/

def BDF_STR_LEN : ℕ := 7 + 1

/-- The size of the buffer that a line is printed into. -/
def TEMP_SIZE : ℕ := BDF_STR_LEN + 11

def PAGE_SIZE : ℕ := 4096

/-- The loop of `create_map_str` from the `k`-th device on. -/
def append_lines (m : Memory) :
    ℕ → List Attached → Option (List Char) × ℕ → Except Fault (Option (List Char) × ℕ)
  | _, [], s => .ok s
  | k, d :: ds, s =>
    if d.line.length < TEMP_SIZE then
      append_lines m (k + 1) ds (strconcat (m.line k) s.1 d.line s.2)
    else .error .line_buffer

/-- The map string; none when an error code was returned or the string was lost. -/
def create_map_str (m : Memory) (ds : List Attached) : Except Fault (Option (List Char)) :=
  if m.map = false then .ok none
  else
    match append_lines m 0 ds (some [NUL], 1) with
    | .error e => .error e
    | .ok (map, _) =>
      if m.map_str = false then .ok none
      else if (count_line ds.length).length < TEMP_SIZE then
        let s := strconcat m.count (some [NUL]) (count_line ds.length) 1
        match map with
        | none => .error .null
        | some map => .ok (strconcat m.whole s.1 (c_str map) s.2).1
      else .error .line_buffer

/-- The text of the `devices` attribute. -/
def devices_show (m : Memory) (ds : List Attached) : Except Fault (List Char) :=
  match create_map_str m ds with
  | .error e => .error e
  | .ok none => .ok []
  | .ok (some s) => if (c_str s).length < PAGE_SIZE then .ok (c_str s) else .error .page

/-! ### Appending -/

/-- An append that is granted its memory. A string that is not there needs no temporary copy. -/
def Grant.Given (g : Grant) (dst : Option (List Char)) : Prop :=
  g.fresh = true ∧ (dst.isSome = true → g.tmp = true)

/-- A string in a buffer of the given size. -/
def Holds (size : ℕ) (dst : Option (List Char)) : Prop :=
  ∀ b ∈ dst, b.length = size ∧ NUL ∈ b

theorem holds_start : Holds 1 (some [NUL]) := by
  rintro b hb
  obtain rfl : [NUL] = b := Option.some.inj hb
  exact ⟨rfl, List.mem_singleton_self _⟩

theorem Holds.length_c_str {size : ℕ} {b : List Char} (h : Holds size (some b)) :
    (c_str b).length < size := by
  obtain ⟨hlen, hnul⟩ := h b rfl
  rw [← hlen]
  obtain ⟨s, t, rfl⟩ := List.append_of_mem hnul
  have hle : (c_str (s ++ NUL :: t)).length ≤ s.length := by
    unfold c_str
    clear hlen h hnul
    induction s with
    | nil => simp
    | cons c s ih =>
      rw [List.cons_append, List.takeWhile_cons]
      split
      · simpa using ih
      · simp
  simp only [List.length_append, List.length_cons]
  omega

theorem strconcat_cases (g : Grant) (dst : Option (List Char)) (src : List Char) {size : ℕ}
    (hsize : 0 < size) (hdst : Holds size dst) :
    Holds (strconcat g dst src size).2 (strconcat g dst src size).1 ∧
      ((g.Given dst ∧ (strconcat g dst src size).2 = size + src.length ∧
          (strconcat g dst src size).1.isSome = true) ∨
        (¬ g.Given dst ∧ (strconcat g dst src size).2 = size)) := by
  have hnz : size + src.length ≠ 0 := by omega
  have hnew : ∀ b : List Char, b.length = size + src.length →
      Holds (size + src.length) (some (b.take (size - 1) ++ (src ++ [NUL]))) := by
    rintro b hb _ ⟨⟩
    refine ⟨?_, by simp⟩
    simp only [List.length_append, List.length_take, List.length_singleton, hb]
    omega
  unfold strconcat my_krealloc
  rw [if_neg hnz]
  cases dst with
  | none =>
    cases hf : g.fresh with
    | false =>
      exact ⟨fun _ hb => (by cases hb), .inr ⟨fun h => absurd h.1 (by simp [hf]), rfl⟩⟩
    | true =>
      exact ⟨hnew _ (by simp [Grant.kmalloc]), .inl ⟨⟨hf, fun h => by cases h⟩, rfl, rfl⟩⟩
  | some b =>
    cases ht : g.tmp with
    | false =>
      exact ⟨hdst, .inr ⟨fun h => by simpa [ht] using h.2 rfl, rfl⟩⟩
    | true =>
      cases hf : g.fresh with
      | false =>
        exact ⟨fun _ hb => (by cases hb), .inr ⟨fun h => by simpa [hf] using h.1, rfl⟩⟩
      | true =>
        obtain ⟨hlen, -⟩ := hdst b rfl
        refine ⟨hnew _ ?_, .inl ⟨⟨hf, fun _ => ht⟩, rfl, rfl⟩⟩
        simp only [Grant.kmalloc, List.length_append, List.length_take, List.length_map,
          List.length_range, hlen]
        omega

variable {g : Grant}

theorem strconcat_given {t src : List Char} (h : g.Given (some (t ++ [NUL]))) :
    strconcat g (some (t ++ [NUL])) src (t.length + 1) =
      (some (t ++ src ++ [NUL]), (t ++ src).length + 1) := by
  obtain ⟨hf, ht⟩ := h
  have ht := ht rfl
  have hnz : t.length + 1 + src.length ≠ 0 := by omega
  have hmin : min (t.length + 1) (t.length + 1 + src.length) = t.length + 1 := by omega
  unfold strconcat my_krealloc
  simp only [hnz, if_false, ht, hf, hmin, Bool.true_eq_false]
  have htake : (t ++ [NUL]).take (t.length + 1) = t ++ [NUL] :=
    List.take_of_length_le (by simp)
  simp only [htake, Nat.add_sub_cancel, List.append_assoc, List.take_left, List.length_append]
  rw [Nat.add_right_comm]

theorem c_str_append {t : List Char} (ht : NUL ∉ t) : c_str (t ++ [NUL]) = t := by
  unfold c_str
  rw [List.takeWhile_append_of_pos fun c hc => by simpa using fun h : c = NUL => ht (h ▸ hc)]
  simp

theorem strconcat_lost (ht : g.tmp = true) (hf : g.fresh = false)
    (dst : Option (List Char)) (src : List Char) {size : ℕ} (hsize : 0 < size) :
    (strconcat g dst src size).1 = none := by
  have hnz : size + src.length ≠ 0 := by omega
  unfold strconcat my_krealloc
  rw [if_neg hnz]
  cases dst <;> simp [ht, hf]

/-! ### When the attribute shows the map -/

/-- The lines of the devices, one after the other. -/
def map_lines (ds : List Attached) : List Char := (ds.map Attached.line).flatten

variable (ds : List Attached)

theorem map_lines_cons :
    map_lines (d :: ds) = d.line ++ map_lines ds := by
  simp [map_lines]

theorem length_le_map_lines : ds.length ≤ (map_lines ds).length := by
  induction ds with
  | nil => simp
  | cons d ds ih =>
    have hpos := d.length_line_pos
    rw [map_lines_cons, List.length_append, List.length_cons]
    omega

def Grant.Granted (g : Grant) : Prop := g.tmp = true ∧ g.fresh = true

theorem Grant.granted_of_given {dst : Option (List Char)} (h : g.Given dst)
    (hdst : dst.isSome = true) : g.Granted := ⟨h.2 hdst, h.1⟩

theorem Grant.Granted.given (h : g.Granted) (dst : Option (List Char)) :
    g.Given dst := ⟨h.2, fun _ => h.1⟩

variable {m : Memory}

theorem append_lines_granted {ds : List Attached} {k : ℕ} {t : List Char}
    (hfit : ∀ d ∈ ds, d.line.length < TEMP_SIZE)
    (hgrant : ∀ i < ds.length, (m.line (k + i)).Granted) :
    append_lines m k ds (some (t ++ [NUL]), t.length + 1) =
      .ok (some (t ++ map_lines ds ++ [NUL]), (t ++ map_lines ds).length + 1) := by
  induction ds generalizing k t with
  | nil => simp [append_lines, map_lines]
  | cons d ds ih =>
    have hg : (m.line k).Granted := by simpa using hgrant 0 (by simp)
    have hrest : ∀ i < ds.length, (m.line (k + 1 + i)).Granted := fun i hi => by
      have h := hgrant (i + 1) (by simpa using hi)
      rwa [show k + (i + 1) = k + 1 + i by omega] at h
    rw [append_lines, if_pos (hfit d (by simp)), strconcat_given (hg.given _),
      ih (fun e he => hfit e (by simp [he])) hrest]
    simp only [map_lines_cons, List.append_assoc]

/-- Whatever the memory, the loop prints lines that fit, and the string is as long as it can be only
if every append was granted its memory. -/
theorem append_lines_cases {ds : List Attached} {k : ℕ}
    {s r : Option (List Char) × ℕ} (hs : Holds s.2 s.1) (hpos : 0 < s.2)
    (h : append_lines m k ds s = .ok r) :
    (∀ d ∈ ds, d.line.length < TEMP_SIZE) ∧ Holds r.2 r.1 ∧
      r.2 ≤ s.2 + (map_lines ds).length ∧
      (r.2 = s.2 + (map_lines ds).length → s.1.isSome = true →
        ∀ i < ds.length, (m.line (k + i)).Granted) := by
  induction ds generalizing k s with
  | nil =>
    obtain rfl := Except.ok.inj (show Except.ok s = Except.ok r from h)
    exact ⟨fun _ hd => (by cases hd), hs, by simp [map_lines], fun _ _ i hi => absurd hi (by simp)⟩
  | cons d ds ih =>
    rw [append_lines] at h
    split at h
    · next hfit =>
      have hd := d.length_line_pos
      obtain ⟨hholds, hcase⟩ := strconcat_cases (m.line k) s.1 d.line hpos hs
      have hpos' : 0 < (strconcat (m.line k) s.1 d.line s.2).2 := by
        rcases hcase with ⟨-, hsz, -⟩ | ⟨-, hsz⟩ <;> omega
      obtain ⟨hfits, hr, hle, hall⟩ := ih hholds hpos' h
      have hlen : (map_lines (d :: ds)).length = d.line.length + (map_lines ds).length := by
        rw [map_lines_cons, List.length_append]
      refine ⟨?_, hr, ?_, fun heq hsome i hi => ?_⟩
      · rintro e (_ | ⟨_, he⟩)
        · exact hfit
        · exact hfits e he
      · rcases hcase with ⟨-, hsz, -⟩ | ⟨-, hsz⟩ <;> omega
      · rcases hcase with ⟨hgiven, hsz, hsome'⟩ | ⟨-, hsz⟩
        · cases i with
          | zero => exact Grant.granted_of_given hgiven hsome
          | succ i =>
            have hrest := hall (by omega) hsome' i (by simpa using hi)
            rwa [show k + (i + 1) = k + 1 + i by omega]
        · omega
    · cases h

/-- The allocations without which the map is not complete. The temporary copy of the last append can
be missed when there is no device: nothing is appended then. -/
structure Memory.Suffices (m : Memory) (ds : List Attached) : Prop where
  map : m.map = true
  map_str : m.map_str = true
  line : ∀ k < ds.length, (m.line k).Granted
  count : m.count.Granted
  whole : ds ≠ [] → m.whole.Granted
  kept : m.whole.tmp = true → m.whole.fresh = true

theorem count_line_eq {n : ℕ} (hn : n < PAGE_SIZE) :
    count_line n = sprintf COUNT_FORMAT [(n : ℤ)] := by
  have hn' : n < 4096 := hn
  unfold count_line
  rw [Int.bmod_eq_of_le (by omega) (by omega)]

theorem count_line_fits {n : ℕ} (hn : n < PAGE_SIZE) : (count_line n).length < TEMP_SIZE := by
  have hdigits : (Nat.toDigits 10 n).length ≤ 4 :=
    (Nat.length_toDigits_le_iff (by decide) (by decide)).mpr (lt_trans hn (by decide))
  have hneg : ¬ (n : ℤ) < 0 := by omega
  have hsize : TEMP_SIZE = 19 := rfl
  rw [count_line_eq hn]
  simp only [sprintf, COUNT_FORMAT, printDec, if_neg hneg, Int.natAbs_natCast, List.length_append,
    List.length_cons, List.length_nil]
  omega

theorem nul_not_mem_line : NUL ∉ d.line := by
  have hdec := not_mem_printDec (c := NUL) (by decide) (by decide)
  have hhex := not_mem_printHex (c := NUL) (by decide)
  have hlit : NUL ≠ ':' ∧ NUL ≠ '.' ∧ NUL ≠ ' ' ∧ NUL ≠ '\n' := by decide
  simp [Attached.line, LINE_FORMAT, Attached.fields, sprintf, hdec, hhex, hlit]

theorem nul_not_mem_map_lines : NUL ∉ map_lines ds := by
  simp [map_lines, nul_not_mem_line]

theorem nul_not_mem_count_line (n : ℕ) : NUL ∉ count_line n := by
  have hlit : NUL ≠ '\n' := by decide
  have hall : ∀ v : ℤ, NUL ∉ sprintf COUNT_FORMAT [v] := fun v => by
    have hdec := not_mem_printDec (c := NUL) (by decide) (by decide) v
    simp [COUNT_FORMAT, sprintf, hdec, hlit]
  exact hall _

theorem map_text_eq {ds : List Attached} (hds : ds.length < PAGE_SIZE) :
    map_text ds = count_line ds.length ++ map_lines ds := by
  rw [count_line_eq hds]
  rfl

theorem length_le_map_text : ds.length < (map_text ds).length := by
  have hle := length_le_map_lines ds
  have hpos : 0 < (sprintf COUNT_FORMAT [(ds.length : ℤ)]).length := by
    simp [sprintf, COUNT_FORMAT]
  have hlen : (map_text ds).length =
      (sprintf COUNT_FORMAT [(ds.length : ℤ)]).length + (map_lines ds).length :=
    List.length_append
  omega

theorem devices_show_of_suffices {ds : List Attached}
    (hfit : ∀ d ∈ ds, d.line.length < TEMP_SIZE) (hpage : (map_text ds).length < PAGE_SIZE)
    (hm : m.Suffices ds) : devices_show m ds = .ok (map_text ds) := by
  have hcount : ds.length < PAGE_SIZE := lt_trans (length_le_map_text ds) hpage
  have hloop : append_lines m 0 ds (some [NUL], 1) =
      .ok (some (map_lines ds ++ [NUL]), (map_lines ds).length + 1) :=
    append_lines_granted (t := []) hfit fun i hi => by simpa using hm.line i hi
  have hfirst : ∀ c : List Char, strconcat m.count (some [NUL]) c 1 =
      (some (c ++ [NUL]), c.length + 1) := fun c =>
    strconcat_given (t := []) (hm.count.given _)
  have hnul : NUL ∉ count_line ds.length ++ map_lines ds := by
    simp [nul_not_mem_count_line, nul_not_mem_map_lines]
  have hlast : (strconcat m.whole (some (count_line ds.length ++ [NUL])) (map_lines ds)
      ((count_line ds.length).length + 1)).1 = some (map_text ds ++ [NUL]) := by
    rw [map_text_eq hcount]
    by_cases hds : ds = []
    · subst hds
      cases ht : m.whole.tmp with
      | false => simp [strconcat, my_krealloc, ht, map_lines]
      | true => rw [strconcat_given (Grant.Granted.given ⟨ht, hm.kept ht⟩ _)]
    · rw [strconcat_given ((hm.whole hds).given _)]
  have hmap : create_map_str m ds = .ok (some (map_text ds ++ [NUL])) := by
    simp [create_map_str, hm.map, hm.map_str, hloop, count_line_fits hcount, hfirst,
      c_str_append (nul_not_mem_map_lines ds), hlast]
  rw [← map_text_eq hcount] at hnul
  simp [devices_show, hmap, c_str_append hnul, hpage]

/-- **When the attribute shows the map**: every line fits the line buffer, the map fits a page, and
the memory for it is there. -/
theorem devices_show_eq_map_text {ds : List Attached} :
    devices_show m ds = .ok (map_text ds) ↔
      (∀ d ∈ ds, d.line.length < TEMP_SIZE) ∧ (map_text ds).length < PAGE_SIZE ∧
        m.Suffices ds := by
  refine ⟨fun h => ?_, fun h => devices_show_of_suffices h.1 h.2.1 h.2.2⟩
  have hne := length_le_map_text ds
  obtain ⟨s, hs, htext, hpage⟩ : ∃ s, create_map_str m ds = .ok (some s) ∧
      c_str s = map_text ds ∧ (map_text ds).length < PAGE_SIZE := by
    unfold devices_show at h
    split at h
    · cases h
    · rw [← Except.ok.inj h] at hne
      exact absurd hne (by simp)
    · next s hs =>
      split at h
      · next hlt =>
        have heq := Except.ok.inj h
        exact ⟨s, hs, heq, heq ▸ hlt⟩
      · cases h
  have hcount : ds.length < PAGE_SIZE := lt_trans hne hpage
  have htotal : (map_text ds).length = (count_line ds.length).length + (map_lines ds).length := by
    rw [map_text_eq hcount, List.length_append]
  unfold create_map_str at hs
  split at hs
  · cases hs
  · next hmap =>
    split at hs
    · cases hs
    · next map n hloop =>
      obtain ⟨hfits, hr, hle, hall⟩ := append_lines_cases holds_start Nat.one_pos hloop
      split at hs
      · cases hs
      · next hstr =>
        split at hs
        swap
        · cases hs
        dsimp only at hs
        split at hs
        · cases hs
        next map =>
        -- the sizes of the two strings bound the length of the text
        have hshort := hr.length_c_str
        obtain ⟨hfirst, hfirst_case⟩ :=
          strconcat_cases m.count (some [NUL]) (count_line ds.length) Nat.one_pos holds_start
        generalize hs₁ : strconcat m.count (some [NUL]) (count_line ds.length) 1 = s₁ at *
        have hpos : 0 < s₁.2 := by rcases hfirst_case with ⟨-, hsz, -⟩ | ⟨-, hsz⟩ <;> omega
        obtain ⟨hlast, hlast_case⟩ := strconcat_cases m.whole s₁.1 (c_str map) hpos hfirst
        have hsome : (strconcat m.whole s₁.1 (c_str map) s₁.2).1 = some s := Except.ok.inj hs
        rw [hsome] at hlast
        have hlong := hlast.length_c_str
        rw [htext, htotal] at hlong
        have hkept : m.whole.tmp = true → m.whole.fresh = true := fun ht => by
          by_contra hf
          rw [strconcat_lost ht (by simpa using hf) _ _ hpos] at hsome
          cases hsome
        rcases hfirst_case with ⟨hcgiven, hcsz, hcsome⟩ | ⟨-, hcsz⟩
        · refine ⟨hfits, hpage, by simpa using hmap, by simpa using hstr, ?_,
            Grant.granted_of_given hcgiven rfl, fun hds => ?_, hkept⟩
          · intro k hk
            have hfull : n = 1 + (map_lines ds).length := by
              rcases hlast_case with ⟨-, hsz, -⟩ | ⟨-, hsz⟩
              · omega
              · have := length_le_map_lines ds
                omega
            simpa using hall hfull rfl k hk
          · rcases hlast_case with ⟨hgiven, -, -⟩ | ⟨-, hsz⟩
            · exact Grant.granted_of_given hgiven hcsome
            · have := length_le_map_lines ds
              have := List.length_pos_of_ne_nil hds
              omega
        · exfalso
          have hcpos : 0 < (count_line ds.length).length := by
            rw [count_line_eq hcount]
            simp [sprintf, COUNT_FORMAT]
          rcases hlast_case with ⟨-, hsz, -⟩ | ⟨-, hsz⟩ <;> omega

end Amr.Host.DeviceMap
