/-
# Sysfs attributes: what is shown is what is got

What a getter returns for what the show function of its attribute printed. A number printed under a
format is scanned back. A string survives as far as no line end stands in it. The count that
`snprintf` gives tells of bytes that a field of full length cuts off, and the local buffers of two
getters are smaller than what `ami_read_sysfs` reads into them.
-/
import Amr.Api.SysfsRead

namespace Amr.Api.Sysfs

open Format Host.DeviceMap Host.Sysfs

/-! ### Printed numbers -/

def Plain : Directive → Prop
  | .char c => inLine c = true
  | _ => True

instance : DecidablePred Plain := fun d => by cases d <;> unfold Plain <;> infer_instance

theorem inLine_of_ne {c : Char} (h0 : c ≠ NUL) (hr : c ≠ '\r') (hn : c ≠ '\n') :
    inLine c = true := by
  simp [inLine, h0, hr, hn]

theorem inLine_printHex {w n : ℕ} {c : Char} (hc : c ∈ printHex w n) : inLine c = true :=
  inLine_of_ne (fun h => not_mem_printHex (by decide) w n (h ▸ hc))
    (fun h => not_mem_printHex (by decide) w n (h ▸ hc))
    fun h => not_mem_printHex (by decide) w n (h ▸ hc)

theorem inLine_printDec {v : ℤ} {c : Char} (hc : c ∈ printDec v) : inLine c = true :=
  inLine_of_ne (fun h => not_mem_printDec (by decide) (by decide) v (h ▸ hc))
    (fun h => not_mem_printDec (by decide) (by decide) v (h ▸ hc))
    fun h => not_mem_printDec (by decide) (by decide) v (h ▸ hc)

theorem inLine_sprintf {f : List Directive} (hf : ∀ d ∈ f, Plain d) :
    ∀ (vs : List ℤ), ∀ c ∈ sprintf f vs, inLine c = true := by
  induction f with
  | nil => intro vs c hc; exact absurd hc List.not_mem_nil
  | cons d f ih =>
    have htail := ih fun d hd => hf d (List.mem_cons_of_mem _ hd)
    have hhead := hf d List.mem_cons_self
    intro vs c hc
    cases d with
    | hex w =>
      cases vs with
      | nil => exact absurd hc List.not_mem_nil
      | cons v vs =>
        rcases List.mem_append.mp hc with hc | hc
        · exact inLine_printHex hc
        · exact htail vs c hc
    | dec =>
      cases vs with
      | nil => exact absurd hc List.not_mem_nil
      | cons v vs =>
        rcases List.mem_append.mp hc with hc | hc
        · exact inLine_printDec hc
        · exact htail vs c hc
    | char d =>
      rcases List.mem_cons.mp hc with rfl | hc
      · exact hhead
      · exact htail vs c hc
    | space =>
      rcases List.mem_cons.mp hc with rfl | hc
      · decide
      · exact htail vs c hc

/-- The characters that a decimal number takes. -/
def decWidth (v : ℤ) : ℕ := Nat.log 10 v.natAbs + 1 + if v < 0 then 1 else 0

theorem length_toDigits (n : ℕ) : (Nat.toDigits 10 n).length = Nat.log 10 n + 1 := by
  refine le_antisymm ?_ ?_
  · exact (Nat.length_toDigits_le_iff (by decide) (Nat.succ_pos _)).mpr
      (Nat.lt_pow_succ_log_self (by decide) n)
  · by_contra hlt
    rcases Nat.eq_zero_or_pos (Nat.log 10 n) with hlog | hlog
    · have hpos : 0 < (Nat.toDigits 10 n).length := Nat.length_toDigits_pos
      omega
    · have hle := (Nat.length_toDigits_le_iff (n := n) (b := 10) (by decide) hlog).mp (by omega)
      have hn : n ≠ 0 := fun h => absurd hlog (by rw [h, Nat.log_zero_right]; decide)
      have := Nat.pow_log_le_self 10 hn
      omega

theorem length_printDec (v : ℤ) : (printDec v).length = decWidth v := by
  unfold printDec decWidth
  split_ifs
  · rw [List.length_cons, length_toDigits]
  · rw [length_toDigits]

theorem length_printDec_le {n k : ℕ} (hk : 0 < k) (hn : n < 10 ^ k) :
    (printDec (n : ℤ)).length ≤ k := by
  rw [printDec, if_neg (by omega), Int.natAbs_natCast]
  exact (Nat.length_toDigits_le_iff (by decide) hk).mpr hn

/-! ### One attribute -/

/-- What an attribute shows is counted right, the getter keeps within its local buffer of `n` bytes
and the caller's of `size`, and the value is the right one. -/
structure RoundTrip {α : Type} (n size : ℕ) (s : Shown) (g : Fetched α) (Same : α → Prop) :
    Prop where
  counted : s.Counted
  contained : Contained n g
  supplied : ∀ i ∈ g.given, i < size
  same : Same g.value

theorem takeWhile_line (t : List Char) : (line t).takeWhile inLine = t.takeWhile inLine := by
  by_cases hmem : ∃ c ∈ t, inLine c = false
  · exact takeWhile_append_of_mem hmem _
  · have hall := takeWhile_all hmem
    rw [hall, line, List.takeWhile_append_of_pos (List.takeWhile_eq_self_iff.mp hall),
      List.takeWhile_cons_of_neg (by decide), List.append_nil]

theorem take_takeWhile_iff {t : List Char} {n : ℕ} :
    (t.takeWhile inLine).take n = t.take n ↔ ∀ c ∈ t.take n, inLine c = true := by
  rw [List.take_takeWhile, List.takeWhile_eq_self_iff]

theorem roundTrip_line {t stack : List Char} {n size : ℕ} {Same : List Char → Prop}
    (hn : t.length + 1 < n) (hread : n ≤ AMI_SYSFS_STR_MAX) :
    RoundTrip n size (print (line t))
        (getText n size stack ((print (line t)).read AMI_SYSFS_STR_MAX)) Same ↔
      Same ((t.takeWhile inLine).take (size - 1)) := by
  have hlen : (line t).length = t.length + 1 := by rw [line, List.length_append]; rfl
  have hdata : (print (line t)).read AMI_SYSFS_STR_MAX = line t := by
    rw [(counted_print _).read]
    exact List.take_of_length_le (by rw [print, hlen]; omega)
  have hends : Ends n (line t) := .inl (by rw [hlen]; exact hn)
  rw [hdata]
  constructor
  · intro h
    have hsame := h.same
    rwa [value_getText hends, takeWhile_line] at hsame
  · intro h
    refine ⟨counted_print _, contained_getText.mpr hends, supplied_getText _ _ _ _, ?_⟩
    rwa [value_getText hends, takeWhile_line]

theorem roundTrip_plain {t stack : List Char} {n size : ℕ} {Same : List Char → Prop}
    (hn : t.length + 1 < n) (hread : n ≤ AMI_SYSFS_STR_MAX) (hplain : ∀ c ∈ t, inLine c = true)
    (hsize : t.length ≤ size - 1) :
    RoundTrip n size (print (line t))
        (getText n size stack ((print (line t)).read AMI_SYSFS_STR_MAX)) Same ↔ Same t := by
  rw [roundTrip_line hn hread, List.takeWhile_eq_self_iff.mpr hplain, List.take_of_length_le hsize]

/-! ### Versions -/

theorem hhd_emod (b : UInt8) : hhd b % 256 = b.toNat := by
  have hb := b.toNat_lt
  unfold hhd
  rw [Int.bmod_def]
  split_ifs <;> omega

theorem hd_emod (v : UInt16) : hd v % 65536 = v.toNat := by
  have hv := v.toNat_lt
  unfold hd
  rw [Int.bmod_def]
  split_ifs <;> omega

theorem ofHhd_hhd (b : UInt8) : ofHhd (hhd b) = b := by
  unfold ofHhd
  norm_num [hhd_emod]

theorem ofHd_hd (v : UInt16) : ofHd (hd v) = v := by
  unfold ofHd
  norm_num [hd_emod]

theorem inInt_hhd (b : UInt8) : InInt (hhd b) := by
  have hb := b.toNat_lt
  unfold hhd InInt
  rw [Int.bmod_def]
  split_ifs <;> omega

theorem inInt_hd (v : UInt16) : InInt (hd v) := by
  have hv := v.toNat_lt
  unfold hd InInt
  rw [Int.bmod_def]
  split_ifs <;> omega

/-- The version of the interface that the driver's version stands for. -/
def published (v : amc_version) : AmcVersion :=
  ⟨v.ver_major, v.ver_minor, v.ver_patch, v.local_changes, v.dev_commits⟩

section Numbers

variable {a b c d e : ℤ}

theorem separated_version (ha : InInt a) (hb : InInt b) (hc : InInt c) (hd : InInt d)
    (he : InInt e) (more : List Char) :
    Separated AMC_VERSION_ATTR_FMT [a, b, c, d, e] ('\n' :: more) := by
  refine ⟨ha, noDigit_cons (by decide) _, hb, noDigit_cons (by decide) _, hc,
    noDigit_cons (by decide) _, ?_, hd, noDigit_cons (by decide) _, ?_, he,
    noDigit_cons (by decide) _, rfl⟩
  · intro x hx
    obtain rfl : '+' = x := by simpa [sprintf] using hx
    decide
  · intro x hx
    obtain rfl : '*' = x := by simpa [sprintf] using hx
    decide

theorem length_sprintf_version (a b c d e : ℤ) :
    (sprintf AMC_VERSION_ATTR_FMT [a, b, c, d, e]).length =
      ([a, b, c, d, e].map decWidth).sum + 6 := by
  simp only [AMC_VERSION_ATTR_FMT, sprintf, List.length_append, List.length_cons, List.length_nil,
    List.map_cons, List.map_nil, List.sum_cons, List.sum_nil, length_printDec]
  omega

end Numbers

theorem scanVersion_print (v : amc_version) (more : List Char) :
    scanVersion (sprintf AMC_VERSION_ATTR_FMT v.numbers ++ '\n' :: more) = some (published v) := by
  have hsep := separated_version (inInt_hhd v.ver_major) (inInt_hhd v.ver_minor)
    (inInt_hhd v.ver_patch) (inInt_hd v.dev_commits) (inInt_hhd v.local_changes) more
  rw [scanVersion, amc_version.numbers, sscanf_sprintf _ _ _ hsep]
  simp only [ofHhd_hhd, ofHd_hd, published]

theorem length_version (v : amc_version) :
    (line (sprintf AMC_VERSION_ATTR_FMT v.numbers)).length =
      (v.numbers.map decWidth).sum + 7 := by
  rw [line, List.length_append, amc_version.numbers, length_sprintf_version, List.length_singleton]

theorem roundTrip_version (v : amc_version) (stack : List Char) :
    RoundTrip AMC_VERSION_ATTR_SIZE 0 (print (line (sprintf AMC_VERSION_ATTR_FMT v.numbers)))
        (getVersion stack ((print (line (sprintf AMC_VERSION_ATTR_FMT v.numbers))).read
          AMI_SYSFS_STR_MAX)) (· = some (published v)) ↔
      (v.numbers.map decWidth).sum ≤ 9 := by
  set t := sprintf AMC_VERSION_ATTR_FMT v.numbers with ht
  have hlen := length_version v
  rw [← ht] at hlen
  have hplain : ∀ c ∈ t, inLine c = true := inLine_sprintf (by decide) _
  rw [(counted_print _).read]
  change RoundTrip AMC_VERSION_ATTR_SIZE 0 (print (line t))
    (getVersion stack ((line t).take AMI_SYSFS_STR_MAX)) _ ↔ _
  constructor
  · intro h
    have hle := contained_getVersion.mp h.contained
    rw [List.length_take, hlen] at hle
    unfold AMI_SYSFS_STR_MAX AMC_VERSION_ATTR_SIZE at hle
    omega
  · intro h
    have hfit : (line t).length ≤ AMC_VERSION_ATTR_SIZE := by
      unfold AMC_VERSION_ATTR_SIZE
      omega
    have hdata : (line t).take AMI_SYSFS_STR_MAX = line t :=
      List.take_of_length_le (hfit.trans (by decide))
    rw [hdata]
    have hnul : ∀ c ∈ line t, decide (c ≠ NUL) = true := by
      intro c hc
      rcases List.mem_append.mp hc with hc | hc
      · have hin := hplain c hc
        simp only [inLine, Bool.and_eq_true] at hin
        exact hin.1.1
      · rw [List.mem_singleton.mp hc]
        decide
    have hscan := scanVersion_print v
    rw [← ht] at hscan
    have hstr : ∃ more, c_str (rawBuf AMC_VERSION_ATTR_SIZE stack (line t)) = t ++ '\n' :: more := by
      rw [rawBuf, c_str, List.takeWhile_append_of_pos hnul, line, List.append_assoc,
        List.singleton_append]
      exact ⟨_, rfl⟩
    obtain ⟨more, hstr⟩ := hstr
    refine ⟨counted_print _, contained_getVersion.mpr hfit, fun i hi => absurd hi List.not_mem_nil,
      ?_⟩
    rw [getVersion, hstr, hscan]

/-! ### Names -/

/-- A name that comes back: no line end in what the caller's buffer holds, and an end within the
local buffer. -/
def NameFits (t : List Char) : Prop :=
  (∀ c ∈ t.take (AMI_DEV_NAME_SIZE - 1), inLine c = true) ∧ Ends AMI_DEV_NAME_SIZE t

theorem roundTrip_name (t stack : List Char) :
    RoundTrip AMI_DEV_NAME_SIZE AMI_DEV_NAME_SIZE (print t)
        (getText AMI_DEV_NAME_SIZE AMI_DEV_NAME_SIZE stack ((print t).read AMI_SYSFS_STR_MAX))
        (· = t.take (AMI_DEV_NAME_SIZE - 1)) ↔ NameFits t := by
  have hread : (print t).read AMI_SYSFS_STR_MAX = t.take AMI_SYSFS_STR_MAX :=
    (counted_print t).read _
  -- what is read of a text that ends in the buffer is the text
  have hcut : Ends AMI_DEV_NAME_SIZE (t.take AMI_SYSFS_STR_MAX) ∨ Ends AMI_DEV_NAME_SIZE t →
      t.take AMI_SYSFS_STR_MAX = t := by
    intro h
    refine List.take_of_length_le ?_
    unfold Ends AMI_DEV_NAME_SIZE at h
    unfold AMI_SYSFS_STR_MAX at h ⊢
    rw [List.length_take] at h
    omega
  rw [hread]
  constructor
  · intro h
    have hends := contained_getText.mp h.contained
    have hsame := h.same
    rw [value_getText hends] at hsame
    have heq := hcut (.inl hends)
    rw [heq] at hends hsame
    exact ⟨take_takeWhile_iff.mp hsame, hends⟩
  · rintro ⟨hplain, hends⟩
    rw [hcut (.inr hends)]
    refine ⟨counted_print t, contained_getText.mpr hends, supplied_getText _ _ _ _, ?_⟩
    rw [value_getText hends]
    exact take_takeWhile_iff.mpr hplain

/-! ### The fields of the board information -/

/-- The field of the record that an attribute shows. -/
def mfgField : sysfs_mfg_field → BdField
  | .EEPROM_VERSION => .eeprom_version
  | .PRODUCT_NAME => .product_name
  | .BOARD_REV => .board_rev
  | .BOARD_SERIAL => .board_serial
  | .MEMORY_SIZE => .memory_size
  | .PART_NUM => .part_number
  | .M_PART_NUM => .mfg_part_number
  | .MAC_ADDR_C => .mac_addr_count
  | .MAC_ADDR => .first_mac_addr
  | .MAC_ADDR_N => .first_mac_addr
  | .ACTIVE_STATE => .active_state
  | .CONFIG_MODE => .config_mode
  | .M_DATE => .manufacturing_date
  | .UUID => .uuid
  | .PCIE_ID => .pcie_id
  | .POWER_MODE => .power_mode
  | .OEM_ID => .oem_id
  | .CAPABILITY => .capability

/-- The texts of the values that a byte stands for. -/
def names : sysfs_mfg_field → List (ℕ × String)
  | .ACTIVE_STATE => [('A'.toNat, "Active"), ('P'.toNat, "Passive")]
  | .CONFIG_MODE => [(FPGA_CONFIG_MODE_QSPIX4, "QSPIx4"), (FPGA_CONFIG_MODE_OSPI, "OSPI")]
  | .POWER_MODE => [(MAX_POWER_MODE_75W, "75W"), (MAX_POWER_MODE_150W, "150W"),
      (MAX_POWER_MODE_225W, "225W"), (MAX_POWER_MODE_350W, "350W")]
  | _ => []

section Record

variable (r : bd_info_record)

/-- The value of the attribute is not known although its field is there. -/
def Unknown : sysfs_mfg_field → Prop
  | .ACTIVE_STATE => (names .ACTIVE_STATE).lookup ((r .active_state).byte 0) = none
  | .CONFIG_MODE => (names .CONFIG_MODE).lookup ((r .config_mode).byte 0) = none
  | .POWER_MODE => (names .POWER_MODE).lookup ((r .power_mode).byte 0) = none
  | .MAC_ADDR_N => (r .mac_addr_count).len = 0
  | _ => False

def Absent (var : sysfs_mfg_field) : Prop := (r (mfgField var)).len = 0 ∨ Unknown r var

/-- The number that six bytes spell, the first one highest. -/
def macNumber (bs : List ℤ) : ℤ := bs.foldl (fun n b => n * 256 + b) 0

/-- The text is that of the value of the attribute. -/
def Carries (behind : List UInt8) (out : List Char) : sysfs_mfg_field → Prop
  | .MAC_ADDR_C => sscanf [.dec] out = bytesOf r .mac_addr_count [0]
  | .MAC_ADDR => sscanf MAC_FORMAT out = bytesOf r .first_mac_addr [0, 1, 2, 3, 4, 5]
  | .MAC_ADDR_N => (sscanf MAC_FORMAT out).length = 6 ∧ macNumber (sscanf MAC_FORMAT out) =
      macNumber (bytesOf r .first_mac_addr [0, 1, 2, 3, 4, 5]) + (r .mac_addr_count).byte 0 - 1
  | .ACTIVE_STATE =>
    ((names .ACTIVE_STATE).lookup ((r .active_state).byte 0)).map String.toList = some out
  | .CONFIG_MODE =>
    ((names .CONFIG_MODE).lookup ((r .config_mode).byte 0)).map String.toList = some out
  | .POWER_MODE =>
    ((names .POWER_MODE).lookup ((r .power_mode).byte 0)).map String.toList = some out
  | .M_DATE => sscanf [.dec] out = [((r .manufacturing_date).byte 0 +
      256 * (r .manufacturing_date).byte 1 + 256 ^ 2 * (r .manufacturing_date).byte 2 : ℕ)]
  | .UUID => sscanf UUID_FORMAT out =
      bytesOf r .uuid [0, 1, 2, 3, 4, 5, 6, 7, 8, 9, 10, 11, 12, 13, 14, 15]
  | .PCIE_ID => sscanf PCIE_ID_FORMAT out = bytesOf r .pcie_id [0, 1, 2, 3, 4, 5, 6, 7]
  | .OEM_ID => sscanf OEM_ID_FORMAT out = bytesOf r .oem_id [1, 0]
  | .CAPABILITY => sscanf CAPABILITY_FORMAT out = bytesOf r .capability [1, 0]
  | var => out = (r.str behind (mfgField var)).take (AMI_MFG_INFO_MAX_STR - 1)

/-- What a getter should return: `N/A` exactly for a field that is absent or unknown, and else the
value. -/
def MfgValue (behind : List UInt8) (var : sysfs_mfg_field) (out : List Char) : Prop :=
  (out = NA ↔ Absent r var) ∧ (¬Absent r var → Carries r behind out var)

/-! ### When a field comes back -/

/-- A string that comes back: shorter than its field, no line end in what the caller's buffer holds,
and not the text for an absent field. -/
def StrFits (behind : List UInt8) (f : BdField) : Prop :=
  (r.str behind f).length < (r f).len.toNat ∧
    (∀ c ∈ (r.str behind f).take (AMI_MFG_INFO_MAX_STR - 1), inLine c = true) ∧
    (r.str behind f).take (AMI_MFG_INFO_MAX_STR - 1) ≠ NA

def MfgFits (behind : List UInt8) : sysfs_mfg_field → Prop
  | .MEMORY_SIZE => (r .memory_size).len = 0 ∨ StrFits r behind .memory_size
  | .M_PART_NUM => (r .mfg_part_number).len = 0 ∨ StrFits r behind .mfg_part_number
  | .MAC_ADDR_C => (r .mac_addr_count).len ≠ 0
  | .MAC_ADDR => (r .first_mac_addr).len ≠ 0
  -- the last address is one of 48 bits, or 0 as it is for a count of 0
  | .MAC_ADDR_N => (r .first_mac_addr).len ≠ 0 ∧ (r .mac_addr_count).len ≠ 0 ∧
      if (r .mac_addr_count).byte 0 ≠ 0 then
        macNumber (bytesOf r .first_mac_addr [0, 1, 2, 3, 4, 5]) +
          (r .mac_addr_count).byte 0 - 1 < 2 ^ 48
      else macNumber (bytesOf r .first_mac_addr [0, 1, 2, 3, 4, 5]) = 1
  | .ACTIVE_STATE => (r .active_state).len = 0 →
      (names .ACTIVE_STATE).lookup ((r .active_state).byte 0) = none
  | .CONFIG_MODE => (r .config_mode).len = 0 →
      (names .CONFIG_MODE).lookup ((r .config_mode).byte 0) = none
  | .M_DATE => (r .manufacturing_date).len ≠ 0
  | .UUID => (r .uuid).len ≠ 0
  | .PCIE_ID => True
  | .POWER_MODE => (r .power_mode).byte 0 ≠ MAX_POWER_MODE_350W ∧ ((r .power_mode).len = 0 →
      (names .POWER_MODE).lookup ((r .power_mode).byte 0) = none)
  | .OEM_ID => (r .oem_id).len = 0 ↔ (r .capability).len = 0
  | .CAPABILITY => True
  | var => StrFits r behind (mfgField var)

end Record

/-! ### Printed fields -/

section Printed

variable {r : bd_info_record} {behind : List UInt8} {stack : List Char}

/-- The round trip of a field that is shown as `s`. -/
abbrev MfgTrip (stack : List Char) (s : Shown) (Same : List Char → Prop) : Prop :=
  RoundTrip AMI_SYSFS_STR_MAX AMI_MFG_INFO_MAX_STR s
    (getText AMI_SYSFS_STR_MAX AMI_MFG_INFO_MAX_STR stack (s.read AMI_SYSFS_STR_MAX)) Same

variable (stack) in
theorem mfgTrip_na {A : Prop} {C : List Char → Prop} :
    MfgTrip stack (print (line NA)) (fun out => (out = NA ↔ A) ∧ (¬A → C out)) ↔ A := by
  have hlen : NA.length = 3 := rfl
  have hplain : ∀ c ∈ NA, inLine c = true := by simp [NA, inLine, NUL]
  rw [MfgTrip, roundTrip_plain (by rw [hlen]; norm_num [AMI_SYSFS_STR_MAX]) le_rfl hplain
    (by rw [hlen]; norm_num [AMI_MFG_INFO_MAX_STR])]
  constructor
  · intro h
    exact h.1.mp rfl
  · intro h
    exact ⟨⟨fun _ => h, fun _ => rfl⟩, fun hn => absurd h hn⟩

variable (stack) in
theorem mfgTrip_text {t : List Char} {A : Prop} {C : List Char → Prop}
    (hplain : ∀ c ∈ t, inLine c = true) (hlen : t.length < AMI_MFG_INFO_MAX_STR) (hna : t ≠ NA) :
    MfgTrip stack (print (line t)) (fun out => (out = NA ↔ A) ∧ (¬A → C out)) ↔ ¬A ∧ C t := by
  unfold AMI_MFG_INFO_MAX_STR at hlen
  rw [MfgTrip, roundTrip_plain (by unfold AMI_SYSFS_STR_MAX; omega) le_rfl hplain
    (by unfold AMI_MFG_INFO_MAX_STR; omega)]
  constructor
  · rintro ⟨hiff, hvalue⟩
    have habsent : ¬A := fun h => hna (hiff.mpr h)
    exact ⟨habsent, hvalue habsent⟩
  · rintro ⟨habsent, hvalue⟩
    exact ⟨⟨fun h => absurd h hna, fun h => absurd h habsent⟩, fun _ => hvalue⟩

/-! ### Strings -/

theorem mfgTrip_str (f : BdField) :
    MfgTrip stack (show_str r behind f) (fun out => (out = NA ↔ (r f).len = 0) ∧
      (¬(r f).len = 0 → out = (r.str behind f).take (AMI_MFG_INFO_MAX_STR - 1))) ↔
      StrFits r behind f := by
  set t := r.str behind f with ht
  have hlen : (line t).length = t.length + 1 := by rw [line, List.length_append]; rfl
  have hbound := (r f).len.toNat_lt
  have hzero : (r f).len = 0 ↔ (r f).len.toNat = 0 := by
    rw [← UInt8.toNat_inj]
    rfl
  -- a string that leaves room for the newline is printed whole
  have hprint : t.length < (r f).len.toNat → show_str r behind f = print (line t) := fun h =>
    nprint_of_le (by rw [hlen]; exact h)
  have htrip : ∀ Same, t.length < (r f).len.toNat → (MfgTrip stack (print (line t)) Same ↔
      Same ((t.takeWhile inLine).take (AMI_MFG_INFO_MAX_STR - 1))) := fun Same h =>
    roundTrip_line (by unfold AMI_SYSFS_STR_MAX; omega) le_rfl
  unfold StrFits
  rw [← ht]
  constructor
  · intro h
    have hshort : t.length < (r f).len.toNat := by
      have hcounted := counted_nprint.mp h.counted
      rwa [hlen] at hcounted
    rw [hprint hshort, htrip _ hshort] at h
    have hthere : ¬(r f).len = 0 := fun h => by rw [hzero] at h; omega
    have hvalue := h.2 hthere
    refine ⟨hshort, take_takeWhile_iff.mp hvalue, fun hna => hthere (h.1.mp ?_)⟩
    rw [hvalue, hna]
  · rintro ⟨hshort, hplain, hna⟩
    have hthere : ¬(r f).len = 0 := fun h => by rw [hzero] at h; omega
    have hvalue := take_takeWhile_iff.mpr hplain
    rw [hprint hshort, htrip _ hshort, hvalue]
    exact ⟨⟨fun h => absurd h hna, fun h => absurd h hthere⟩, fun _ => rfl⟩

theorem mfgTrip_str_or_na (f : BdField) :
    MfgTrip stack (show_str_or_na r behind f) (fun out => (out = NA ↔ (r f).len = 0) ∧
      (¬(r f).len = 0 → out = (r.str behind f).take (AMI_MFG_INFO_MAX_STR - 1))) ↔
      (r f).len = 0 ∨ StrFits r behind f := by
  unfold show_str_or_na
  split_ifs with h
  · rw [mfgTrip_str]
    exact ⟨.inr, fun hfits => hfits.resolve_left h⟩
  · rw [mfgTrip_na stack]
    exact ⟨.inl, fun _ => not_not.mp h⟩

/-! ### Names -/

theorem mfgTrip_name {name : Option String} {A : Prop}
    (hname : ∀ s ∈ name, (∀ c ∈ s.toList, inLine c = true) ∧
      s.toList.length < AMI_MFG_INFO_MAX_STR ∧ s.toList ≠ NA) :
    MfgTrip stack (print (line (name.getD "N/A").toList))
        (fun out => (out = NA ↔ A ∨ name = none) ∧
          (¬(A ∨ name = none) → name.map String.toList = some out)) ↔ (A → name = none) := by
  cases name with
  | none =>
    have hna : (none.getD "N/A" : String).toList = NA := by decide
    rw [hna, mfgTrip_na stack (C := fun out => Option.map String.toList none = some out)]
    exact ⟨fun _ _ => rfl, fun _ => .inr rfl⟩
  | some s =>
    obtain ⟨hplain, hlen, hna⟩ := hname s rfl
    rw [Option.getD_some,
      mfgTrip_text stack (C := fun out => (some s).map String.toList = some out) hplain hlen hna]
    constructor
    · intro h hA
      exact absurd (.inl hA) h.1
    · intro h
      refine ⟨?_, rfl⟩
      rintro (hA | hnone)
      · exact absurd (h hA) (Option.some_ne_none s)
      · exact absurd hnone (Option.some_ne_none s)

/-! ### Numbers -/

/-- The characters of a directive that prints a fixed number of them. -/
def width : Directive → ℕ
  | .hex w => w
  | .dec => 0
  | .char _ => 1
  | .space => 1

theorem length_sprintf {f : List Directive} (hf : Directive.dec ∉ f) :
    ∀ {vs : List ℤ} {rest : List Char}, Separated f vs rest →
      (sprintf f vs).length = (f.map width).sum := by
  induction f with
  | nil => intro vs rest _; rfl
  | cons d f ih =>
    have htail := @ih fun h => hf (List.mem_cons_of_mem _ h)
    intro vs rest hsep
    rw [List.map_cons, List.sum_cons]
    cases d with
    | dec => exact absurd List.mem_cons_self hf
    | hex w =>
      cases vs with
      | nil => exact hsep.elim
      | cons v vs =>
        obtain ⟨hw, hpos, hlt, -, hsep⟩ := hsep
        have hnat : v.toNat < 16 ^ w := by zify; omega
        rw [sprintf, List.length_append, htail hsep, length_printHex hw hnat, width]
    | char c =>
      rw [sprintf, List.length_cons, htail hsep, width, Nat.add_comm]
    | space =>
      rw [sprintf, List.length_cons, htail hsep.2, width, Nat.add_comm]

theorem mfgTrip_numbers {f : List Directive} {vs : List ℤ} {A : Prop} {C : List Char → Prop}
    (hplain : ∀ d ∈ f, Plain d) (hlen : (sprintf f vs).length < AMI_MFG_INFO_MAX_STR)
    (hsep : Separated f vs []) (hna : sscanf f NA = []) (hvs : vs ≠ []) :
    MfgTrip stack (print (line (sprintf f vs))) (fun out => (out = NA ↔ A) ∧ (¬A → C out)) ↔
      ¬A ∧ C (sprintf f vs) := by
  have hscan : sscanf f (sprintf f vs) = vs := by
    have h := sscanf_sprintf f vs [] hsep
    rwa [List.append_nil] at h
  refine mfgTrip_text stack (inLine_sprintf hplain vs) hlen fun h => hvs ?_
  rw [← hscan, h, hna]

theorem separated_hex {f : List Directive} {v : ℤ} {vs : List ℤ} {rest : List Char}
    (hv : 0 ≤ v ∧ v < 256) (h : Separated f vs rest) : Separated (.hex 2 :: f) (v :: vs) rest := by
  refine ⟨by decide, hv.1, hv.2, ?_, h⟩
  unfold InInt
  omega

theorem separated_char {f : List Directive} {c : Char} {vs : List ℤ} {rest : List Char}
    (h : Separated f vs rest) : Separated (.char c :: f) vs rest := h

theorem separated_space {f : List Directive} {v : ℤ} {vs : List ℤ} {rest : List Char}
    (h : Separated (.hex 2 :: f) (v :: vs) rest) :
    Separated (.space :: .hex 2 :: f) (v :: vs) rest := by
  refine ⟨fun c hc => ?_, h⟩
  obtain ⟨-, hpos, hlt, -⟩ := h
  have hnat : v.toNat < 16 ^ 2 := by zify; omega
  have hlen := length_printHex (w := 2) (by decide) hnat
  rw [sprintf, List.append_assoc] at hc
  have hmem : c ∈ printHex 2 v.toNat := by
    cases hhex : printHex 2 v.toNat with
    | nil => rw [hhex] at hlen; exact absurd hlen (by decide)
    | cons d t =>
      rw [hhex] at hc
      obtain rfl : d = c := by simpa using hc
      exact List.mem_cons_self
  by_contra hspace
  rw [Bool.not_eq_false] at hspace
  refine not_mem_printHex ?_ 2 v.toNat hmem
  by_contra hdigit
  rw [Bool.not_eq_false] at hdigit
  exact absurd ((isDigit_ne hdigit).1.symm.trans hspace) (by decide)

theorem byte_range (f : field_info) (k : Fin SDR_VALUE_MAX_LEN) :
    0 ≤ (f.byte k : ℤ) ∧ (f.byte k : ℤ) < 256 :=
  ⟨Int.natCast_nonneg _, by exact_mod_cast f.byte_lt k⟩

end Printed

/-! ### Addresses and dates -/

theorem or_eq_add {a b k : ℕ} (h : b < 2 ^ k) : a <<< k ||| b = a * 2 ^ k + b := by
  rw [← Nat.shiftLeft_add_eq_or_of_lt h, Nat.shiftLeft_eq]

theorem mac_first_eq (r : bd_info_record) :
    (mac_first r : ℤ) = macNumber (bytesOf r .first_mac_addr [0, 1, 2, 3, 4, 5]) := by
  have h1 := (r .first_mac_addr).byte_lt 1
  have h2 := (r .first_mac_addr).byte_lt 2
  have h3 := (r .first_mac_addr).byte_lt 3
  have h4 := (r .first_mac_addr).byte_lt 4
  have h5 := (r .first_mac_addr).byte_lt 5
  rw [mac_first, Nat.or_assoc, Nat.or_assoc, Nat.or_assoc, Nat.or_assoc,
    or_eq_add (k := 8) (by omega), or_eq_add (k := 16) (by omega), or_eq_add (k := 24) (by omega),
    or_eq_add (k := 32) (by omega), or_eq_add (k := 40) (by omega)]
  simp only [macNumber, bytesOf, List.map_cons, List.map_nil, List.foldl_cons, List.foldl_nil]
  push_cast
  ring

theorem timestamp_eq (r : bd_info_record) :
    timestamp r = (r .manufacturing_date).byte 0 + 256 * (r .manufacturing_date).byte 1 +
      256 ^ 2 * (r .manufacturing_date).byte 2 := by
  have h0 := (r .manufacturing_date).byte_lt 0
  have h1 := (r .manufacturing_date).byte_lt 1
  rw [timestamp, Nat.or_assoc, or_eq_add (k := 8) (by omega), or_eq_add (k := 16) (by omega)]
  ring

theorem macNumber_macBytes (n : ℕ) : macNumber (macBytes n) = (n % 2 ^ 48 : ℕ) := by
  simp only [macNumber, macBytes, List.foldl_cons, List.foldl_nil, Nat.shiftRight_eq_div_pow]
  omega

theorem macBytes_range (n : ℕ) : ∀ v ∈ macBytes n, 0 ≤ v ∧ v < 256 := by
  intro v hv
  simp only [macBytes, List.mem_cons, List.not_mem_nil, or_false] at hv
  omega

theorem separated_mac {a b c d e g : ℤ} (h : ∀ v ∈ [a, b, c, d, e, g], 0 ≤ v ∧ v < 256) :
    Separated MAC_FORMAT [a, b, c, d, e, g] [] := by
  simp only [List.forall_mem_cons] at h
  obtain ⟨ha, hb, hc, hd, he, hg, -⟩ := h
  exact separated_hex ha <| separated_char <| separated_hex hb <| separated_char <|
    separated_hex hc <| separated_char <| separated_hex hd <| separated_char <|
    separated_hex he <| separated_char <| separated_hex hg rfl

theorem separated_nat {n : ℕ} (hn : n < 2 ^ 31) : Separated [.dec] [(n : ℤ)] [] :=
  ⟨inInt_natCast hn, fun c hc => absurd hc (by simp [sprintf]), rfl⟩

/-! ### All fields -/

section Fields

variable {r : bd_info_record} {behind : List UInt8} {stack : List Char}

theorem mfgValue_str {var : sysfs_mfg_field} (hunknown : ¬Unknown r var)
    (hcarries : ∀ out, Carries r behind out var ↔
      out = (r.str behind (mfgField var)).take (AMI_MFG_INFO_MAX_STR - 1)) :
    MfgValue r behind var = fun out => (out = NA ↔ (r (mfgField var)).len = 0) ∧
      (¬(r (mfgField var)).len = 0 →
        out = (r.str behind (mfgField var)).take (AMI_MFG_INFO_MAX_STR - 1)) := by
  funext out
  unfold MfgValue Absent
  rw [or_iff_left hunknown, hcarries]

theorem separated_mac_list {vs : List ℤ} (hvs : vs.length = 6) (h : ∀ v ∈ vs, 0 ≤ v ∧ v < 256) :
    Separated MAC_FORMAT vs [] :=
  match vs, hvs, h with
  | [_, _, _, _, _, _], _, h => separated_mac h

theorem scan_print {f : List Directive} {vs : List ℤ} (h : Separated f vs []) :
    sscanf f (sprintf f vs) = vs := by
  have hscan := sscanf_sprintf f vs [] h
  rwa [List.append_nil] at hscan

variable (stack) in
theorem mfgTrip_hex {f : List Directive} {vs : List ℤ} {A : Prop} {C : List Char → Prop}
    (hsep : Separated f vs []) (hplain : ∀ d ∈ f, Plain d) (hdec : Directive.dec ∉ f)
    (hlen : (f.map width).sum < AMI_MFG_INFO_MAX_STR) (hna : sscanf f NA = []) (hvs : vs ≠ []) :
    MfgTrip stack (print (line (sprintf f vs))) (fun out => (out = NA ↔ A) ∧ (¬A → C out)) ↔
      ¬A ∧ C (sprintf f vs) :=
  mfgTrip_numbers hplain (by rwa [length_sprintf hdec hsep]) hsep hna hvs

theorem mfgTrip_nat {n : ℕ} (hn : n < 10 ^ 9) {A : Prop} {C : List Char → Prop} :
    MfgTrip stack (print (line (sprintf [.dec] [(n : ℤ)])))
        (fun out => (out = NA ↔ A) ∧ (¬A → C out)) ↔ ¬A ∧ C (sprintf [.dec] [(n : ℤ)]) := by
  refine mfgTrip_numbers (by decide) ?_ (separated_nat (by omega)) (by decide)
    (List.cons_ne_nil _ _)
  have hlen := length_printDec_le (k := 9) (by decide) hn
  rw [sprintf, sprintf, List.append_nil]
  unfold AMI_MFG_INFO_MAX_STR
  omega

theorem mfgTrip_mac_n : MfgTrip stack (show_mfg r behind .MAC_ADDR_N)
    (MfgValue r behind .MAC_ADDR_N) ↔ MfgFits r behind .MAC_ADDR_N := by
  have hsep := separated_mac_list rfl (macBytes_range (mac_n r))
  have htrip := mfgTrip_hex stack (A := Absent r .MAC_ADDR_N)
    (C := fun out => Carries r behind out .MAC_ADDR_N) hsep (by decide) (by decide) (by decide)
    (by decide) (List.cons_ne_nil _ _)
  have hcount := (r .mac_addr_count).byte_lt 0
  have hfirst := mac_first_eq r
  have hlt : mac_first r < 2 ^ 48 := by
    have h0 := (r .first_mac_addr).byte_lt 0
    have h1 := (r .first_mac_addr).byte_lt 1
    have h2 := (r .first_mac_addr).byte_lt 2
    have h3 := (r .first_mac_addr).byte_lt 3
    have h4 := (r .first_mac_addr).byte_lt 4
    have h5 := (r .first_mac_addr).byte_lt 5
    simp only [macNumber, bytesOf, List.map_cons, List.map_nil, List.foldl_cons,
      List.foldl_nil] at hfirst
    omega
  refine htrip.trans ?_
  simp only [Carries, scan_print hsep, macNumber_macBytes, MfgFits, Absent, Unknown, mfgField,
    not_or, and_assoc, ← hfirst]
  refine and_congr_right fun _ => and_congr_right fun _ => ?_
  rw [and_iff_right (show (macBytes (mac_n r)).length = 6 from rfl)]
  unfold mac_n
  split_ifs with h
  · omega
  · omega

theorem names_plain (var : sysfs_mfg_field) {k : ℕ} :
    ∀ s ∈ (names var).lookup k, (∀ c ∈ s.toList, inLine c = true) ∧
      s.toList.length < AMI_MFG_INFO_MAX_STR ∧ s.toList ≠ NA := by
  have hall : ∀ p ∈ names var, (∀ c ∈ p.2.toList, inLine c = true) ∧
      p.2.toList.length < AMI_MFG_INFO_MAX_STR ∧ p.2.toList ≠ NA := by
    cases var <;> simp [names, inLine, NUL, NA, AMI_MFG_INFO_MAX_STR]
  intro s hs
  obtain ⟨l₁, l₂, hsplit, -⟩ := List.lookup_eq_some_iff.mp hs
  exact hall (k, s) (by rw [hsplit]; simp)

theorem active_state_name_eq (r : bd_info_record) : active_state_name r =
    ((names .ACTIVE_STATE).lookup ((r .active_state).byte 0)).getD "N/A" := by
  unfold active_state_name names
  split_ifs with h h'
  · rw [h]; rfl
  · rw [h']; rfl
  · simp only [List.lookup, beq_eq_false_iff_ne.mpr h, beq_eq_false_iff_ne.mpr h',
      Option.getD_none]

theorem config_mode_name_eq (r : bd_info_record) : config_mode_name r =
    ((names .CONFIG_MODE).lookup ((r .config_mode).byte 0)).getD "N/A" := by
  unfold config_mode_name names
  split_ifs with h h'
  · rw [h]; rfl
  · rw [h']; rfl
  · simp [List.lookup, beq_eq_false_iff_ne.mpr h, beq_eq_false_iff_ne.mpr h']

theorem power_mode_name_eq {r : bd_info_record}
    (hmode : (r .power_mode).byte 0 ≠ MAX_POWER_MODE_350W) : power_mode_name r =
    ((names .POWER_MODE).lookup ((r .power_mode).byte 0)).getD "N/A" := by
  unfold power_mode_name names
  split_ifs with h h' h''
  · rw [h]; rfl
  · rw [h']; rfl
  · rw [h'']; rfl
  · simp [List.lookup, beq_eq_false_iff_ne.mpr h, beq_eq_false_iff_ne.mpr h',
      beq_eq_false_iff_ne.mpr h'', beq_eq_false_iff_ne.mpr hmode]

theorem mfgTrip_power_mode : MfgTrip stack (show_mfg r behind .POWER_MODE)
    (MfgValue r behind .POWER_MODE) ↔ MfgFits r behind .POWER_MODE := by
  by_cases hmode : (r .power_mode).byte 0 = MAX_POWER_MODE_350W
  · -- the last mode is shown as another wattage than its own
    have hname : power_mode_name r = "300W" := by
      rw [power_mode_name, hmode]
      rfl
    have htext := mfgTrip_text stack (t := "300W".toList) (A := Absent r .POWER_MODE)
      (C := fun out => Carries r behind out .POWER_MODE) (by simp [inLine, NUL])
      (by simp [AMI_MFG_INFO_MAX_STR]) (by simp [NA])
    rw [show_mfg, hname]
    refine htext.trans ⟨fun h => ?_, fun h => absurd hmode h.1⟩
    have hcarries := h.2
    simp only [Carries, hmode] at hcarries
    exact absurd hcarries (by decide)
  · rw [show_mfg, power_mode_name_eq hmode]
    refine (mfgTrip_name (A := (r .power_mode).len = 0) (names_plain .POWER_MODE)).trans ?_
    exact (and_iff_right hmode).symm

/-- **A field comes back exactly on its condition.** -/
theorem mfgTrip_iff (r : bd_info_record) (behind : List UInt8) (stack : List Char)
    (var : sysfs_mfg_field) :
    MfgTrip stack (show_mfg r behind var) (MfgValue r behind var) ↔ MfgFits r behind var := by
  have hrange : ∀ (f : BdField) (ks : List (Fin SDR_VALUE_MAX_LEN)),
      ∀ v ∈ bytesOf r f ks, 0 ≤ v ∧ v < 256 := by
    intro f ks v hv
    obtain ⟨k, -, rfl⟩ := List.mem_map.mp hv
    exact byte_range (r f) k
  have hb := fun f k => byte_range (r f) k
  cases var with
  | EEPROM_VERSION =>
    rw [mfgValue_str (by simp [Unknown]) fun _ => Iff.rfl]
    exact mfgTrip_str .eeprom_version
  | PRODUCT_NAME =>
    rw [mfgValue_str (by simp [Unknown]) fun _ => Iff.rfl]
    exact mfgTrip_str .product_name
  | BOARD_REV =>
    rw [mfgValue_str (by simp [Unknown]) fun _ => Iff.rfl]
    exact mfgTrip_str .board_rev
  | BOARD_SERIAL =>
    rw [mfgValue_str (by simp [Unknown]) fun _ => Iff.rfl]
    exact mfgTrip_str .board_serial
  | PART_NUM =>
    rw [mfgValue_str (by simp [Unknown]) fun _ => Iff.rfl]
    exact mfgTrip_str .part_number
  | MEMORY_SIZE =>
    rw [mfgValue_str (by simp [Unknown]) fun _ => Iff.rfl]
    exact mfgTrip_str_or_na .memory_size
  | M_PART_NUM =>
    rw [mfgValue_str (by simp [Unknown]) fun _ => Iff.rfl]
    exact mfgTrip_str_or_na .mfg_part_number
  | MAC_ADDR_C =>
    have hlt := (r .mac_addr_count).byte_lt 0
    refine (mfgTrip_nat (n := (r .mac_addr_count).byte 0) (by omega) (A := Absent r .MAC_ADDR_C)
      (C := fun out => Carries r behind out .MAC_ADDR_C)).trans ?_
    simp [Carries, scan_print (separated_nat (n := (r .mac_addr_count).byte 0) (by omega)),
      MfgFits, Absent, Unknown, mfgField, bytesOf]
  | MAC_ADDR =>
    have hsep := separated_mac_list rfl (hrange .first_mac_addr [0, 1, 2, 3, 4, 5])
    refine (mfgTrip_hex stack (A := Absent r .MAC_ADDR) (C := fun out => Carries r behind out .MAC_ADDR)
      hsep (by decide) (by decide) (by decide) (by decide) (List.cons_ne_nil _ _)).trans ?_
    simp [Carries, scan_print hsep, MfgFits, Absent, Unknown, mfgField]
  | MAC_ADDR_N => exact mfgTrip_mac_n
  | ACTIVE_STATE =>
    rw [show_mfg, active_state_name_eq]
    exact mfgTrip_name (A := (r .active_state).len = 0) (names_plain .ACTIVE_STATE)
  | CONFIG_MODE =>
    rw [show_mfg, config_mode_name_eq]
    exact mfgTrip_name (A := (r .config_mode).len = 0) (names_plain .CONFIG_MODE)
  | M_DATE =>
    have hlt0 := (r .manufacturing_date).byte_lt 0
    have hlt1 := (r .manufacturing_date).byte_lt 1
    have hlt2 := (r .manufacturing_date).byte_lt 2
    have heq := timestamp_eq r
    refine (mfgTrip_nat (n := timestamp r) (by omega) (A := Absent r .M_DATE)
      (C := fun out => Carries r behind out .M_DATE)).trans ?_
    simp only [Carries, ← heq, scan_print (separated_nat (n := timestamp r) (by omega))]
    simp [MfgFits, Absent, Unknown, mfgField]
  | UUID =>
    have hsep : Separated UUID_FORMAT
        (bytesOf r .uuid [0, 1, 2, 3, 4, 5, 6, 7, 8, 9, 10, 11, 12, 13, 14, 15]) [] :=
      separated_hex (hb _ _) <| separated_hex (hb _ _) <| separated_hex (hb _ _) <|
      separated_hex (hb _ _) <| separated_char <| separated_hex (hb _ _) <|
      separated_hex (hb _ _) <| separated_char <| separated_hex (hb _ _) <|
      separated_hex (hb _ _) <| separated_char <| separated_hex (hb _ _) <|
      separated_hex (hb _ _) <| separated_char <| separated_hex (hb _ _) <|
      separated_hex (hb _ _) <| separated_hex (hb _ _) <| separated_hex (hb _ _) <|
      separated_hex (hb _ _) <| separated_hex (hb _ _) rfl
    refine (mfgTrip_hex stack (A := Absent r .UUID) (C := fun out => Carries r behind out .UUID)
      hsep (by decide) (by decide) (by decide) (by decide) (List.cons_ne_nil _ _)).trans ?_
    simp [Carries, scan_print hsep, MfgFits, Absent, Unknown, mfgField]
  | PCIE_ID =>
    have hsep : Separated PCIE_ID_FORMAT (bytesOf r .pcie_id [0, 1, 2, 3, 4, 5, 6, 7]) [] :=
      separated_hex (hb _ _) <| separated_hex (hb _ _) <| separated_char <| separated_space <|
      separated_hex (hb _ _) <| separated_hex (hb _ _) <| separated_char <| separated_space <|
      separated_hex (hb _ _) <| separated_hex (hb _ _) <| separated_char <| separated_space <|
      separated_hex (hb _ _) <| separated_hex (hb _ _) rfl
    have htext := mfgTrip_hex stack (A := Absent r .PCIE_ID)
      (C := fun out => Carries r behind out .PCIE_ID) hsep (by decide) (by decide) (by decide)
      (by decide) (List.cons_ne_nil _ _)
    have hna := mfgTrip_na stack (A := Absent r .PCIE_ID)
      (C := fun out => Carries r behind out .PCIE_ID)
    rw [show_mfg]
    split_ifs with h
    · refine htext.trans ?_
      simp [Carries, scan_print hsep, MfgFits, Absent, Unknown, mfgField, h]
    · refine hna.trans ?_
      simpa [MfgFits, Absent, Unknown, mfgField] using h
  | POWER_MODE => exact mfgTrip_power_mode
  | OEM_ID =>
    have hsep : Separated OEM_ID_FORMAT (bytesOf r .oem_id [1, 0]) [] :=
      separated_char <| separated_char <| separated_hex (hb _ _) <| separated_hex (hb _ _) rfl
    have htext := mfgTrip_hex stack (A := Absent r .OEM_ID)
      (C := fun out => Carries r behind out .OEM_ID) hsep (by decide) (by decide) (by decide)
      (by decide) (List.cons_ne_nil _ _)
    have hna := mfgTrip_na stack (A := Absent r .OEM_ID)
      (C := fun out => Carries r behind out .OEM_ID)
    rw [show_mfg]
    split_ifs with h
    · refine htext.trans ?_
      simp [Carries, scan_print hsep, MfgFits, Absent, Unknown, mfgField, h]
    · refine hna.trans ?_
      simp only [not_not, ne_eq] at h
      simp [MfgFits, Absent, Unknown, mfgField, h]
  | CAPABILITY =>
    have hsep : Separated CAPABILITY_FORMAT (bytesOf r .capability [1, 0]) [] :=
      separated_hex (hb _ _) <| separated_hex (hb _ _) rfl
    have htext := mfgTrip_hex stack (A := Absent r .CAPABILITY)
      (C := fun out => Carries r behind out .CAPABILITY) hsep (by decide) (by decide) (by decide)
      (by decide) (List.cons_ne_nil _ _)
    have hna := mfgTrip_na stack (A := Absent r .CAPABILITY)
      (C := fun out => Carries r behind out .CAPABILITY)
    rw [show_mfg]
    split_ifs with h
    · refine htext.trans ?_
      simp [Carries, scan_print hsep, MfgFits, Absent, Unknown, mfgField, h]
    · refine hna.trans ?_
      simpa [MfgFits, Absent, Unknown, mfgField] using h

end Fields

/-! ### All attributes -/

section Device

variable (h : Heap) (pf_dev : pf_dev_struct) (stack : List Char)

/-- The name that the driver gives a device. -/
def deviceName : List Char :=
  match read_board_info pf_dev with
  | some r => r.str h.behind .product_name
  | none => (pcie_device_id_to_str pf_dev.device_id).toList

/-- What the driver publishes under an attribute comes back through the getter of it. -/
def RoundTrips (attr : Attr) : Prop :=
  ∀ s, attr.show h (some pf_dev) = .ok s →
    match attr with
    | .dev_state =>
      ∃ g, ami_dev_get_state (sysfs h (some pf_dev)) stack = .ok g ∧
        RoundTrip AMI_DEV_STATE_SIZE AMI_DEV_STATE_SIZE s g
          (· = (get_state_name pf_dev.state).toList)
    | .dev_name =>
      ∃ g, ami_dev_get_name (sysfs h (some pf_dev)) stack = .ok g ∧
        RoundTrip AMI_DEV_NAME_SIZE AMI_DEV_NAME_SIZE s g
          (· = (deviceName h pf_dev).take (AMI_DEV_NAME_SIZE - 1))
    | .amc_version =>
      ∀ v, pf_dev.amc_ctrl_ctxt = some v →
        ∃ g, ami_dev_get_amc_version (sysfs h (some pf_dev)) stack = .ok g ∧
          RoundTrip AMC_VERSION_ATTR_SIZE 0 s g (· = some (published v))
    | .mfg var =>
      ∀ repo, pf_dev.bdinfo = some repo →
        ∃ g, ami_mfg_get_info (sysfs h (some pf_dev)) (matching var) stack = .ok g ∧
          RoundTrip AMI_SYSFS_STR_MAX AMI_MFG_INFO_MAX_STR s g
            (MfgValue repo.bd_info repo.behind var)

def Fits : Attr → Prop
  | .dev_state => True
  | .dev_name =>
    h.alloc → ∀ r, read_board_info pf_dev = some r → NameFits (r.str h.behind .product_name)
  | .amc_version =>
    ∀ v, pf_dev.amc_ctrl_ctxt = some v → (v.numbers.map decWidth).sum ≤ 9
  | .mfg var =>
    ∀ repo, pf_dev.bdinfo = some repo → repo.num_records ≠ 0 →
      MfgFits repo.bd_info repo.behind var

variable {h pf_dev stack}

theorem read_sysfs {name : String} {attr : Attr} {s : Shown}
    (hname : attributes.lookup name = some attr) (hs : attr.show h (some pf_dev) = .ok s) :
    ami_read_sysfs (sysfs h (some pf_dev)) name = .ok (s.read AMI_SYSFS_STR_MAX) := by
  rw [ami_read_sysfs, sysfs, hname, Option.map_some, hs]

theorem exists_ok {α : Type} {x : Except AmiError α} {g : α} {P : α → Prop} (hx : x = .ok g) :
    (∃ g, x = .ok g ∧ P g) ↔ P g := by
  rw [hx]
  constructor
  · rintro ⟨g', hg, hP⟩
    rwa [Except.ok.inj hg]
  · intro hP
    exact ⟨g, rfl, hP⟩

theorem attributes_matching (var : sysfs_mfg_field) :
    attributes.lookup (get_name_for_mfg_field (matching var)) = some (.mfg var) := by
  cases var <;> rfl

theorem get_state_ok {s : Shown} (hs : Attr.dev_state.show h (some pf_dev) = .ok s) :
    ami_dev_get_state (sysfs h (some pf_dev)) stack =
      .ok (getText AMI_DEV_STATE_SIZE AMI_DEV_STATE_SIZE stack (s.read AMI_SYSFS_STR_MAX)) := by
  rw [ami_dev_get_state, read_sysfs rfl hs]
  rfl

variable (stack) in
theorem get_name_ok {s : Shown} (hs : Attr.dev_name.show h (some pf_dev) = .ok s) :
    ami_dev_get_name (sysfs h (some pf_dev)) stack =
      .ok (getText AMI_DEV_NAME_SIZE AMI_DEV_NAME_SIZE stack (s.read AMI_SYSFS_STR_MAX)) := by
  rw [ami_dev_get_name, read_sysfs rfl hs]
  rfl

variable (stack) in
theorem get_amc_version_ok {s : Shown} (hs : Attr.amc_version.show h (some pf_dev) = .ok s) :
    ami_dev_get_amc_version (sysfs h (some pf_dev)) stack =
      .ok (getVersion stack (s.read AMI_SYSFS_STR_MAX)) := by
  rw [ami_dev_get_amc_version, read_sysfs rfl hs]
  rfl

variable (stack) in
theorem mfg_get_info_ok {var : sysfs_mfg_field} {s : Shown}
    (hs : (Attr.mfg var).show h (some pf_dev) = .ok s) :
    ami_mfg_get_info (sysfs h (some pf_dev)) (matching var) stack =
      .ok (getText AMI_SYSFS_STR_MAX AMI_MFG_INFO_MAX_STR stack (s.read AMI_SYSFS_STR_MAX)) := by
  have hname : get_name_for_mfg_field (matching var) ≠ "" := by cases var <;> decide
  rw [ami_mfg_get_info, if_neg hname, read_sysfs (attributes_matching var) hs]
  rfl

theorem roundTrips_dev_state : RoundTrips h pf_dev stack .dev_state := by
  intro s hs
  obtain rfl : print (line (get_state_name pf_dev.state).toList) = s := Except.ok.inj hs
  have hplain : ∀ c ∈ (get_state_name pf_dev.state).toList, inLine c = true := by
    cases pf_dev.state <;> simp [get_state_name, inLine, NUL]
  have hlen : (get_state_name pf_dev.state).toList.length ≤ 12 := by
    cases pf_dev.state <;> decide
  refine ⟨_, get_state_ok hs, (roundTrip_plain ?_ (by decide) hplain ?_).mpr rfl⟩
  · unfold AMI_DEV_STATE_SIZE
    omega
  · unfold AMI_DEV_STATE_SIZE
    omega

theorem roundTrips_dev_name_iff : RoundTrips h pf_dev stack .dev_name ↔ Fits h pf_dev .dev_name := by
  have hshow : Attr.dev_name.show h (some pf_dev) =
      dev_name_show h.alloc h.behind (some pf_dev) := rfl
  unfold RoundTrips Fits
  rw [hshow, dev_name_show]
  by_cases halloc : h.alloc
  · cases hboard : read_board_info pf_dev with
    | none =>
      -- without board information the name is one of a few short ones
      have hname : deviceName h pf_dev = (pcie_device_id_to_str pf_dev.device_id).toList := by
        rw [deviceName, hboard]
      have hplain : ∀ c ∈ (pcie_device_id_to_str pf_dev.device_id).toList, inLine c = true := by
        unfold pcie_device_id_to_str
        split_ifs <;> simp [inLine, NUL]
      have hlen : (pcie_device_id_to_str pf_dev.device_id).toList.length ≤ 10 := by
        unfold pcie_device_id_to_str
        split_ifs <;> decide
      refine iff_of_true ?_ fun _ r hr => absurd hr (by simp)
      intro s hs
      have hok : Attr.dev_name.show h (some pf_dev) = .ok s := by
        rw [hshow, dev_name_show, hboard]
        exact hs
      rw [if_pos halloc] at hs
      obtain rfl := Except.ok.inj hs
      refine ⟨_, get_name_ok stack hok, (roundTrip_plain ?_ (by decide) hplain ?_).mpr ?_⟩
      · unfold AMI_DEV_NAME_SIZE
        omega
      · unfold AMI_DEV_NAME_SIZE
        omega
      · rw [hname, List.take_of_length_le]
        unfold AMI_DEV_NAME_SIZE
        omega
    | some r =>
      have hname : deviceName h pf_dev = r.str h.behind .product_name := by
        rw [deviceName, hboard]
      have hok : Attr.dev_name.show h (some pf_dev) =
          .ok (print (r.str h.behind .product_name)) := by
        rw [hshow, dev_name_show, hboard]
        exact if_pos halloc
      have hiff := roundTrip_name (r.str h.behind .product_name) stack
      have hget := exists_ok (P := fun g => RoundTrip AMI_DEV_NAME_SIZE AMI_DEV_NAME_SIZE
        (print (r.str h.behind .product_name)) g
          (· = (deviceName h pf_dev).take (AMI_DEV_NAME_SIZE - 1))) (get_name_ok stack hok)
      rw [hname] at hget
      constructor
      · intro htrip _ r' hr'
        obtain rfl := Option.some.inj hr'
        have htrip' := htrip _ (by rw [if_pos halloc])
        rw [hname] at htrip'
        exact hiff.mp (hget.mp htrip')
      · intro hfits s hs
        rw [if_pos halloc] at hs
        obtain rfl := Except.ok.inj hs
        rw [hname]
        exact hget.mpr (hiff.mpr (hfits halloc r rfl))
  · refine iff_of_true ?_ fun h' => absurd h' halloc
    intro s hs
    rw [if_neg halloc] at hs
    exact absurd hs (by simp)

theorem roundTrips_amc_version_iff :
    RoundTrips h pf_dev stack .amc_version ↔ Fits h pf_dev .amc_version := by
  have hshow : Attr.amc_version.show h (some pf_dev) = amc_version_show (some pf_dev) := rfl
  have hok : ∀ v, pf_dev.amc_ctrl_ctxt = some v → Attr.amc_version.show h (some pf_dev) =
      .ok (print (line (sprintf AMC_VERSION_ATTR_FMT v.numbers))) := by
    intro v hv
    rw [hshow, amc_version_show, hv]
  constructor
  · intro htrip v hv
    obtain ⟨g, hg, hround⟩ := htrip _ (hok v hv) v hv
    obtain rfl := Except.ok.inj ((get_amc_version_ok stack (hok v hv)).symm.trans hg)
    exact (roundTrip_version v stack).mp hround
  · intro hfits s hs v hv
    obtain rfl := Except.ok.inj ((hok v hv).symm.trans hs)
    exact ⟨_, get_amc_version_ok stack (hok v hv), (roundTrip_version v stack).mpr (hfits v hv)⟩

theorem roundTrips_mfg_iff (var : sysfs_mfg_field) :
    RoundTrips h pf_dev stack (.mfg var) ↔ Fits h pf_dev (.mfg var) := by
  have hshow : (Attr.mfg var).show h (some pf_dev) = read_mfg_field (some pf_dev) var := rfl
  have hok : ∀ repo, pf_dev.bdinfo = some repo → repo.num_records ≠ 0 →
      (Attr.mfg var).show h (some pf_dev) = .ok (show_mfg repo.bd_info repo.behind var) := by
    intro repo hrepo hrecords
    rw [hshow, read_mfg_field, hrepo]
    exact if_neg hrecords
  constructor
  · intro htrip repo hrepo hrecords
    have hs := hok repo hrepo hrecords
    obtain ⟨g, hg, hround⟩ := htrip _ hs repo hrepo
    obtain rfl := Except.ok.inj ((mfg_get_info_ok stack hs).symm.trans hg)
    exact (mfgTrip_iff repo.bd_info repo.behind stack var).mp hround
  · intro hfits s hs repo hrepo
    have hrecords : repo.num_records ≠ 0 := by
      intro hzero
      rw [hshow, read_mfg_field, hrepo] at hs
      simp [hzero] at hs
    obtain rfl := Except.ok.inj ((hok repo hrepo hrecords).symm.trans hs)
    exact ⟨_, mfg_get_info_ok stack (hok repo hrepo hrecords),
      (mfgTrip_iff repo.bd_info repo.behind stack var).mpr (hfits repo hrepo hrecords)⟩

end Device

/-- The getter of an attribute keeps within its local buffer on what a read brings. -/
def Keeps (stack data : List Char) : Attr → Prop
  | .dev_state =>
    Contained AMI_DEV_STATE_SIZE (getText AMI_DEV_STATE_SIZE AMI_DEV_STATE_SIZE stack data)
  | .dev_name =>
    Contained AMI_DEV_NAME_SIZE (getText AMI_DEV_NAME_SIZE AMI_DEV_NAME_SIZE stack data)
  | .amc_version => Contained AMC_VERSION_ATTR_SIZE (getVersion stack data)
  | .mfg _ =>
    Contained AMI_SYSFS_STR_MAX (getText AMI_SYSFS_STR_MAX AMI_MFG_INFO_MAX_STR stack data)

/-- The bytes that the local buffer of a getter has room for. -/
def HasRoom (data : List Char) : Attr → Prop
  | .dev_state => Ends AMI_DEV_STATE_SIZE data
  | .dev_name => Ends AMI_DEV_NAME_SIZE data
  | .amc_version => data.length ≤ AMC_VERSION_ATTR_SIZE
  | .mfg _ => Ends AMI_SYSFS_STR_MAX data

theorem keeps_iff (stack data : List Char) (attr : Attr) :
    Keeps stack data attr ↔ HasRoom data attr := by
  cases attr with
  | dev_state => exact contained_getText
  | dev_name => exact contained_getText
  | amc_version => exact contained_getVersion
  | mfg var => exact contained_getText

/-- **What is published is got, on the condition of each attribute**, and a getter keeps within its
local buffer exactly on the bytes that this has room for. -/
theorem sysfs_round_trip_iff (h : Heap) (pf_dev : pf_dev_struct) (stack : List Char)
    (attr : Attr) :
    (RoundTrips h pf_dev stack attr ↔ Fits h pf_dev attr) ∧
      ∀ data, Keeps stack data attr ↔ HasRoom data attr := by
  refine ⟨?_, fun data => keeps_iff stack data attr⟩
  cases attr with
  | dev_state => exact iff_of_true roundTrips_dev_state trivial
  | dev_name => exact roundTrips_dev_name_iff
  | amc_version => exact roundTrips_amc_version_iff
  | mfg var => exact roundTrips_mfg_iff var

/-- A device whose version is `10.20.30 +1000 *1`. -/
def tenTwentyThirty : pf_dev_struct where
  state := .READY
  amc_ctrl_ctxt := some ⟨10, 20, 30, 1, 1000⟩
  device_id := 0x50B4
  bdinfo := none

theorem sysfs_version_overflow :
    ¬ RoundTrips ⟨true, []⟩ tenTwentyThirty [] .amc_version := by
  rw [roundTrips_amc_version_iff]
  intro hfits
  have hsum := hfits ⟨10, 20, 30, 1, 1000⟩ rfl
  have hwidths : ([10, 20, 30, 1000, 1] : List ℤ).map decWidth = [2, 2, 2, 4, 1] := by
    decide +kernel
  have hnumbers : amc_version.numbers ⟨10, 20, 30, 1, 1000⟩ = [10, 20, 30, 1000, 1] := by decide
  rw [hnumbers, hwidths] at hsum
  exact absurd hsum (by decide)

end Amr.Api.Sysfs
