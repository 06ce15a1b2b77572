/-
# The text of a BDF

`ami_parse_bdf` of `ami.c` and the search of `ami_device.c` that it feeds. A first colon behind four
characters ends a domain, which is skipped. The three fields are read with two, two and one
characters at most, and packed by `AMI_MK_BDF`, which masks the bus and the function only.
-/
import Amr.Api.FindNext

namespace Amr.Api.ParseBdf

open Format
open Host.DeviceMap
open FindNext

/-! ### Parsing and searching -/

def AMI_PCI_BUS (bdf : BitVec 16) : ℤ := (bdf.toNat >>> 8 : ℕ)
def AMI_PCI_DEV (bdf : BitVec 16) : ℤ := (((bdf.toNat &&& 0xFF) >>> 3) &&& 0x1F : ℕ)
def AMI_PCI_FUNC (bdf : BitVec 16) : ℤ := ((bdf.toNat &&& 0xFF) &&& 0x07 : ℕ)

def AMI_BDF_FIELDS_NUM : ℕ := 3
def BDF_DOMAIN_END : ℕ := 4

/-- `"%02x:%02x.%1x"`. -/
def AMI_BDF_FORMAT : List Directive := [.hex 2, .char ':', .hex 2, .char '.', .hex 1]

/-- What is left of a text behind `"%*04x:"` when its first colon ends a domain. -/
def skipDomain (bdf : List Char) : Option (List Char) :=
  if bdf.idxOf? ':' = some BDF_DOMAIN_END then
    match scanInteger 16 4 bdf with
    | some (_, ':' :: s) => some s
    | _ => none
  else some bdf

/-- `sscanf` with the format that `ami_parse_bdf` chooses. -/
def scan (bdf : List Char) : List ℤ := (skipDomain bdf).elim [] (sscanf AMI_BDF_FORMAT)

def ami_parse_bdf (bdf : List Char) : BitVec 16 :=
  let ret := scan bdf
  if 1 ≤ ret.length ∧ ret.length ≤ AMI_BDF_FIELDS_NUM then
    AMI_MK_BDF (ret.getD 0 0) (ret.getD 1 0) (ret.getD 2 0)
  else 0

/-- `ami_dev_find`: the status, and what `*dev` is afterwards. -/
def ami_dev_find (text : List Char) (c : Call) (bdf : List Char) (dev : Option ami_device) :
    Status × Option ami_device :=
  let bdf_num := ami_parse_bdf bdf
  ami_dev_find_next text c dev (AMI_PCI_BUS bdf_num) (AMI_PCI_DEV bdf_num) (AMI_PCI_FUNC bdf_num)
    none

/-! ### What a text names -/

/-- The numbers that stand where a format reads them, each with all of its digits. -/
def numbers : List Directive → List Char → List ℤ
  | .hex _ :: f, s =>
    match scanInteger 16 s.length s with
    | none => []
    | some (v, t) => v :: numbers f t
  | .char c :: f, d :: t => if d = c then numbers f t else []
  | _, _ => []

/-- The numbers written in a text behind its domain. -/
def written (bdf : List Char) : List ℤ := (skipDomain bdf).elim [] (numbers AMI_BDF_FORMAT)

/-- Bus, device and function, those that are missing being zero. -/
def triple (l : List ℤ) : ℤ × ℤ × ℤ := (l.getD 0 0, l.getD 1 0, l.getD 2 0)

def fields (bdf : BitVec 16) : ℤ × ℤ × ℤ := (AMI_PCI_BUS bdf, AMI_PCI_DEV bdf, AMI_PCI_FUNC bdf)

/-- The text names this bus, device and function. -/
def Names (text : List Char) (bdf : BitVec 16) : Prop :=
  written text ≠ [] ∧ fields bdf = triple (written text)

/-- A text is rejected or gives the number that it names, and a search for it leaves no device but
one that it names, whatever devices there are. -/
def Right (text : List Char) : Prop :=
  (ami_parse_bdf text = 0 ∨ Names text (ami_parse_bdf text)) ∧
    ∀ (ds : List Attached) (c : Call) (dev : ami_device),
      (ami_dev_find (map_text ds) c text none).2 = some dev → Names text dev.bdf

def InRange (p : ℤ × ℤ × ℤ) : Prop :=
  (0 ≤ p.1 ∧ p.1 < 256) ∧ (0 ≤ p.2.1 ∧ p.2.1 < 32) ∧ 0 ≤ p.2.2 ∧ p.2.2 < 8

/-- There is a number in the text, the limited fields hold its numbers whole, and these are a bus, a
device and a function. -/
def Whole (text : List Char) : Prop :=
  written text ≠ [] ∧ triple (scan text) = triple (written text) ∧ InRange (triple (written text))

instance (p : ℤ × ℤ × ℤ) : Decidable (InRange p) := inferInstanceAs (Decidable (_ ∧ _))
instance (text : List Char) : Decidable (Whole text) := inferInstanceAs (Decidable (_ ∧ _))
instance (text : List Char) (bdf : BitVec 16) : Decidable (Names text bdf) :=
  inferInstanceAs (Decidable (_ ∧ _))

/-! ### The number of a device -/

theorem fields_eq (bdf : BitVec 16) :
    fields bdf =
      ((↑(bdf.toNat / 256), ↑(bdf.toNat % 256 / 8 % 32), ↑(bdf.toNat % 8)) : ℤ × ℤ × ℤ) := by
  have hbyte : bdf.toNat &&& 0xFF = bdf.toNat % 256 := Nat.and_two_pow_sub_one_eq_mod _ 8
  have hlow : ∀ n : ℕ, n &&& 0x1F = n % 32 := fun n => Nat.and_two_pow_sub_one_eq_mod n 5
  have hfunc : ∀ n : ℕ, n &&& 0x07 = n % 8 := fun n => Nat.and_two_pow_sub_one_eq_mod n 3
  unfold fields AMI_PCI_BUS AMI_PCI_DEV AMI_PCI_FUNC
  rw [hbyte, hlow, hfunc, Nat.shiftRight_eq_div_pow, Nat.shiftRight_eq_div_pow,
    Nat.mod_mod_of_dvd _ (by decide)]

theorem inRange_fields (bdf : BitVec 16) : InRange (fields bdf) := by
  have hlt := bdf.isLt
  rw [fields_eq]
  refine ⟨⟨?_, ?_⟩, ⟨?_, ?_⟩, ?_, ?_⟩ <;> dsimp only <;> omega

theorem fields_injective {a b : BitVec 16} (h : fields a = fields b) : a = b := by
  rw [fields_eq, fields_eq] at h
  simp only [Prod.mk.injEq, Nat.cast_inj] at h
  exact BitVec.eq_of_toNat_eq (by omega)

theorem toNat_PCI_DEVID (x : Attached) :
    (PCI_DEVID x).toNat = x.bus.toNat * 256 + x.devfn.toNat := by
  have hbus := x.bus.toNat_lt
  have hdevfn := x.devfn.toNat_lt
  unfold PCI_DEVID
  rw [BitVec.toNat_or, BitVec.toNat_shiftLeft, BitVec.toNat_setWidth, BitVec.toNat_setWidth,
    UInt8.toNat_toBitVec, UInt8.toNat_toBitVec, Nat.mod_eq_of_lt (a := x.devfn.toNat) (by omega),
    Nat.mod_eq_of_lt (a := x.bus.toNat) (by omega), Nat.shiftLeft_eq, Nat.mod_eq_of_lt (by omega),
    ← Nat.shiftLeft_eq, ← Nat.shiftLeft_add_eq_or_of_lt hdevfn, Nat.shiftLeft_eq]

theorem fields_PCI_DEVID (x : Attached) :
    fields (PCI_DEVID x) = ((x.bus.toNat, PCI_SLOT x.devfn, PCI_FUNC x.devfn) : ℤ × ℤ × ℤ) := by
  have hbus := x.bus.toNat_lt
  have hdevfn := x.devfn.toNat_lt
  have hslot : PCI_SLOT x.devfn = x.devfn.toNat / 8 % 32 := by
    unfold PCI_SLOT
    rw [Nat.shiftRight_eq_div_pow]
    exact Nat.and_two_pow_sub_one_eq_mod _ 5
  have hfunc : PCI_FUNC x.devfn = x.devfn.toNat % 8 := Nat.and_two_pow_sub_one_eq_mod _ 3
  rw [fields_eq, toNat_PCI_DEVID, hslot, hfunc, Prod.mk.injEq, Prod.mk.injEq]
  refine ⟨?_, ?_, ?_⟩ <;> omega

def deviceOf (bdf : BitVec 16) : Attached :=
  ⟨.ofNat (bdf.toNat / 256), .ofNat (bdf.toNat % 256), 1, 0, by decide, by decide, by decide⟩

theorem PCI_DEVID_deviceOf (bdf : BitVec 16) : PCI_DEVID (deviceOf bdf) = bdf := by
  have hlt := bdf.isLt
  refine BitVec.eq_of_toNat_eq ?_
  rw [toNat_PCI_DEVID]
  simp only [deviceOf, UInt8.toNat_ofNat']
  omega

/-- **Packing the fields of a number gives the number.** -/
theorem AMI_MK_BDF_fields (bdf : BitVec 16) :
    AMI_MK_BDF (fields bdf).1 (fields bdf).2.1 (fields bdf).2.2 = bdf := by
  have h := fields_PCI_DEVID (deviceOf bdf)
  rw [PCI_DEVID_deviceOf] at h
  rw [h]
  exact (AMI_MK_BDF_eq _).trans (PCI_DEVID_deviceOf bdf)

theorem fields_AMI_MK_BDF {p : ℤ × ℤ × ℤ} (hp : InRange p) :
    fields (AMI_MK_BDF p.1 p.2.1 p.2.2) = p := by
  obtain ⟨b, d, f⟩ := p
  obtain ⟨⟨hb, hb'⟩, ⟨hd, hd'⟩, hf, hf'⟩ := hp
  have hfields : fields (BitVec.ofNat 16 (b * 256 + d * 8 + f).toNat) = (b, d, f) := by
    rw [fields_eq, BitVec.toNat_ofNat, Prod.mk.injEq, Prod.mk.injEq]
    dsimp only at hb hb' hd hd' hf hf'
    refine ⟨?_, ?_, ?_⟩ <;> omega
  rw [← hfields, AMI_MK_BDF_fields]

/-! ### What is read of the numbers written -/

/-- The numbers read are not longer than those written. -/
def Part (l m : List ℤ) : Prop := ∀ i, Longer (l.getD i 0) (m.getD i 0)

theorem longer_zero (v : ℤ) : Longer 0 v :=
  ⟨fun h => absurd h (by decide), fun h => absurd h (by decide)⟩

theorem part_nil (m : List ℤ) : Part [] m := fun _ => longer_zero _

theorem Part.cons {v v' : ℤ} {l m : List ℤ} (hv : Longer v v') (h : Part l m) :
    Part (v :: l) (v' :: m)
  | 0 => hv
  | i + 1 => h i

theorem inInt_of_natAbs {w : ℕ} {v : ℤ} (hw : w ≤ 7) (hv : v.natAbs < 16 ^ w) : InInt v := by
  have hpow : 16 ^ w ≤ 16 ^ 7 := Nat.pow_le_pow_right (by decide) hw
  exact ⟨by omega, by omega⟩

theorem part_hex {w : ℕ} (hw : w ≤ 7) (f : List Directive) {s : List Char}
    (hf : ∀ t t', (∀ c u, t = c :: u → isDigit 16 c = false → c ≠ 'x' → c ≠ 'X' → t' = t) →
      Part (sscanf f t) (numbers f t')) :
    Part (sscanf (.hex w :: f) s) (numbers (.hex w :: f) s) := by
  rw [sscanf, numbers]
  cases h : scanInteger 16 w s with
  | none => exact part_nil _
  | some r =>
    obtain ⟨v, t⟩ := r
    obtain ⟨hlt, v', t', hwhole, hlonger, hsame⟩ := scanInteger_part h
    rw [hwhole]
    dsimp only
    rw [toInt_of_inInt (inInt_of_natAbs hw hlt)]
    exact .cons hlonger (hf t t' fun c u hcu hc hx hX => (hsame c u hcu hc hx hX).2)

/-- Behind a field, a separator: where it is missing, nothing more is read. -/
theorem part_char {c : Char} (hc : isDigit 16 c = false) (hx : c ≠ 'x') (hX : c ≠ 'X')
    {f : List Directive} (hf : ∀ s, Part (sscanf f s) (numbers f s)) {t t' : List Char}
    (hsame : ∀ c u, t = c :: u → isDigit 16 c = false → c ≠ 'x' → c ≠ 'X' → t' = t) :
    Part (sscanf (.char c :: f) t) (numbers (.char c :: f) t') := by
  cases t with
  | nil => exact part_nil _
  | cons d u =>
    by_cases hd : d = c
    · subst hd
      rw [hsame d u rfl hc hx hX, sscanf, numbers, if_pos rfl, if_pos rfl]
      exact hf u
    · rw [sscanf, if_neg hd]
      exact part_nil _

theorem part_sscanf (s : List Char) :
    Part (sscanf AMI_BDF_FORMAT s) (numbers AMI_BDF_FORMAT s) := by
  refine part_hex (by decide) _ fun _ _ hsame =>
    part_char (by decide) (by decide) (by decide) (fun s => ?_) hsame
  refine part_hex (by decide) _ fun _ _ hsame =>
    part_char (by decide) (by decide) (by decide) (fun s => ?_) hsame
  exact part_hex (by decide) _ fun _ _ _ => part_nil _

theorem part_scan (bdf : List Char) : Part (scan bdf) (written bdf) := by
  unfold scan written
  cases skipDomain bdf with
  | none => exact part_nil _
  | some s => exact part_sscanf s

theorem length_sscanf (f : List Directive) (s : List Char) : (sscanf f s).length ≤
    (f.filter fun d => d matches .hex _ | .dec).length := by
  fun_induction sscanf f s <;> simp_all

theorem ami_parse_bdf_eq (bdf : List Char) : ami_parse_bdf bdf =
    AMI_MK_BDF (triple (scan bdf)).1 (triple (scan bdf)).2.1 (triple (scan bdf)).2.2 := by
  have hlen : (scan bdf).length ≤ AMI_BDF_FIELDS_NUM := by
    unfold scan
    cases skipDomain bdf with
    | none => exact Nat.zero_le _
    | some s => exact length_sscanf AMI_BDF_FORMAT s
  unfold ami_parse_bdf
  dsimp only
  split_ifs with h
  · rfl
  · have hnil : scan bdf = [] := List.eq_nil_of_length_eq_zero (by omega)
    rw [hnil]
    decide

theorem bus_lt (bdf : List Char) : (triple (scan bdf)).1 < 256 := by
  have hhex : ∀ f s, (sscanf (.hex 2 :: f) s).getD 0 0 < 256 := by
    intro f s
    rw [sscanf]
    cases h : scanInteger 16 2 s with
    | none => exact (by decide : (0 : ℤ) < 256)
    | some r =>
      have hlt := (scanInteger_part h).1
      rw [List.getD_cons_zero, toInt_of_inInt (inInt_of_natAbs (by decide) hlt)]
      omega
  unfold triple scan
  cases skipDomain bdf with
  | none => decide
  | some s => exact hhex _ s

/-- **What the number has in its fields** is what the text names exactly when its numbers are read
whole and are in their ranges. -/
theorem names_iff (bdf : List Char) : Names bdf (ami_parse_bdf bdf) ↔ Whole bdf := by
  rw [ami_parse_bdf_eq]
  constructor
  · rintro ⟨hne, hfields⟩
    have hrange := inRange_fields
      (AMI_MK_BDF (triple (scan bdf)).1 (triple (scan bdf)).2.1 (triple (scan bdf)).2.2)
    rw [hfields] at hrange
    -- a number that is read out of its range is written out of its range
    have hread : InRange (triple (scan bdf)) := by
      obtain ⟨⟨hb, -⟩, ⟨hd, hd'⟩, hf, hf'⟩ := hrange
      obtain ⟨hneg0, -⟩ := part_scan bdf 0
      obtain ⟨hneg1, hpos1⟩ := part_scan bdf 1
      obtain ⟨hneg2, hpos2⟩ := part_scan bdf 2
      have hbus := bus_lt bdf
      unfold triple at *
      dsimp only at *
      refine ⟨⟨?_, hbus⟩, ⟨?_, ?_⟩, ?_, ?_⟩ <;> dsimp only <;> by_contra hout <;> omega
    exact ⟨hne, by rw [← hfields, fields_AMI_MK_BDF hread], hrange⟩
  · rintro ⟨hne, hread, hrange⟩
    exact ⟨hne, by rw [hread, fields_AMI_MK_BDF hrange]⟩

/-! ### The device found -/

theorem fields_of_find {ds : List Attached} {c : Call} {text : List Char} {dev : ami_device}
    (h : (ami_dev_find (map_text ds) c text none).2 = some dev) :
    fields dev.bdf = fields (ami_parse_bdf text) := by
  have hwanted : ∀ x v : ℤ, 0 ≤ x → wanted x v = true → v = x := by
    intro x v hx hv
    rcases Bool.or_eq_true_iff.mp hv with hany | heq
    · have hx' : x = -1 := beq_iff_eq.mp hany
      omega
    · exact beq_iff_eq.mp heq
  obtain ⟨⟨hb, -⟩, ⟨hd, -⟩, hf, -⟩ := inRange_fields (ami_parse_bdf text)
  unfold ami_dev_find at h
  rw [ami_dev_find_next_eq] at h
  obtain ⟨x, hx, rfl⟩ : ∃ x, Matches (fields (ami_parse_bdf text)).1
      (fields (ami_parse_bdf text)).2.1 (fields (ami_parse_bdf text)).2.2 x = true ∧
        dev = handle x := by
    revert h
    rcases c.version with _ | _ | _
    · exact nofun
    · exact nofun
    · dsimp only
      split_ifs
      · cases hfind : (remaining none ds).find? _ with
        | none => exact nofun
        | some x =>
          unfold conclude
          split_ifs
          · exact fun h => ⟨x, List.find?_some hfind, (Option.some.inj h).symm⟩
          · exact nofun
      · exact nofun
  rw [Matches, Bool.and_eq_true, Bool.and_eq_true] at hx
  rw [handle, fields_PCI_DEVID, hwanted _ _ hb hx.1.1, hwanted _ _ hd hx.1.2, hwanted _ _ hf hx.2]

theorem find_deviceOf (text : List Char) :
    (ami_dev_find (map_text [deviceOf (ami_parse_bdf text)]) .fine text none).2 =
      some (handle (deviceOf (ami_parse_bdf text))) := by
  have hfields := fields_PCI_DEVID (deviceOf (ami_parse_bdf text))
  rw [PCI_DEVID_deviceOf] at hfields
  obtain ⟨hb, hd, hf⟩ : _ ∧ _ ∧ _ := by simpa only [fields, Prod.mk.injEq] using hfields
  unfold ami_dev_find
  rw [ami_dev_find_next_eq, hb, hd, hf]
  simp [Call.fine, remaining, conclude, Matches, wanted]

theorem right_iff (text : List Char) : Right text ↔ Whole text := by
  rw [← names_iff]
  constructor
  · rintro ⟨-, hfind⟩
    have hnames := hfind _ _ _ (find_deviceOf text)
    rwa [handle, PCI_DEVID_deviceOf] at hnames
  · refine fun hnames => ⟨.inr hnames, fun ds c dev hdev => ⟨hnames.1, ?_⟩⟩
    rw [fields_of_find hdev, hnames.2]

/-! ### Printing and parsing -/

/-- The text of a number in the format of the driver and the application. -/
def printBdf (bdf : BitVec 16) : List Char :=
  sprintf AMI_BDF_FORMAT [AMI_PCI_BUS bdf, AMI_PCI_DEV bdf, AMI_PCI_FUNC bdf]

theorem skipDomain_printBdf (bdf : BitVec 16) :
    skipDomain (printBdf bdf) = some (printBdf bdf) := by
  obtain ⟨⟨hb, hb'⟩, -⟩ := inRange_fields bdf
  have hlen : (printHex 2 (AMI_PCI_BUS bdf).toNat).length = 2 :=
    length_printHex (by decide) (by change (fields bdf).1.toNat < _; omega)
  have hfirst : (printHex 2 (AMI_PCI_BUS bdf).toNat).findIdx? (· == ':') = none := by
    rw [List.findIdx?_eq_none_iff]
    intro c hc
    refine beq_eq_false_iff_ne.mpr ?_
    rintro rfl
    exact not_mem_printHex (by decide) _ _ hc
  have hidx : (printBdf bdf).idxOf? ':' = some 2 := by
    unfold List.idxOf? printBdf AMI_BDF_FORMAT
    rw [sprintf, List.findIdx?_append, hfirst, hlen, sprintf, List.findIdx?_cons]
    rfl
  unfold skipDomain
  rw [hidx, if_neg (by decide)]

/-- **A printed number is parsed as itself.** -/
theorem ami_parse_bdf_printBdf (bdf : BitVec 16) : ami_parse_bdf (printBdf bdf) = bdf := by
  obtain ⟨⟨hb, hb'⟩, ⟨hd, hd'⟩, hf, hf'⟩ := inRange_fields bdf
  dsimp only [fields] at hb hb' hd hd' hf hf'
  have hscan : scan (printBdf bdf) = [AMI_PCI_BUS bdf, AMI_PCI_DEV bdf, AMI_PCI_FUNC bdf] := by
    have h := sscanf_sprintf AMI_BDF_FORMAT
      [AMI_PCI_BUS bdf, AMI_PCI_DEV bdf, AMI_PCI_FUNC bdf] []
      ⟨by decide, hb, by omega, ⟨by omega, by omega⟩, by decide, hd, by omega,
        ⟨by omega, by omega⟩, by decide, hf, by omega, ⟨by omega, by omega⟩, rfl⟩
    rw [List.append_nil] at h
    unfold scan
    rw [skipDomain_printBdf]
    exact h
  rw [ami_parse_bdf_eq, hscan]
  exact AMI_MK_BDF_fields bdf

/-- **A text is parsed and searched for rightly exactly when** its numbers are read whole and are a
bus, a device and a function; and every printed number is parsed as itself. -/
theorem parse_bdf_iff (text : List Char) (bdf : BitVec 16) :
    (Right text ↔ Whole text) ∧ ami_parse_bdf (printBdf bdf) = bdf :=
  ⟨right_iff text, ami_parse_bdf_printBdf bdf⟩

/-- The upper bits of a device number are packed into the bus. -/
theorem device_in_bus : ¬ ((∀ text, Right text) ∧ ∀ bdf, ami_parse_bdf (printBdf bdf) = bdf) := by
  rintro ⟨hright, -⟩
  rcases (hright "c1:ab".toList).1 with h | h
  · exact absurd h (by decide +kernel)
  · exact absurd h (by decide +kernel)

/-! ### From the number to the handle -/

theorem matches_fields (bdf : BitVec 16) (x : Attached) :
    Matches (AMI_PCI_BUS bdf) (AMI_PCI_DEV bdf) (AMI_PCI_FUNC bdf) x =
      decide (PCI_DEVID x = bdf) := by
  obtain ⟨⟨hb, -⟩, ⟨hd, -⟩, hf, -⟩ := inRange_fields bdf
  dsimp only [fields] at hb hd hf
  have hany : ∀ a v : ℤ, 0 ≤ a → wanted a v = decide (v = a) := by
    intro a v ha
    have hne : (a == AMI_ANY_DEV) = false := by
      rw [beq_eq_false_iff_ne, AMI_ANY_DEV]
      omega
    rw [wanted, hne, Bool.false_or, beq_eq_decide]
  unfold Matches
  rw [hany _ _ hb, hany _ _ hd, hany _ _ hf, ← Bool.decide_and, ← Bool.decide_and]
  refine decide_eq_decide.mpr ⟨fun h => fields_injective ?_, fun h => ?_⟩
  · obtain ⟨⟨h₁, h₂⟩, h₃⟩ := h
    rw [fields_PCI_DEVID, h₁, h₂, h₃]
    rfl
  · have hfields := fields_PCI_DEVID x
    rw [h, fields, Prod.mk.injEq, Prod.mk.injEq] at hfields
    exact ⟨⟨hfields.1.symm, hfields.2.1.symm⟩, hfields.2.2.symm⟩

/-- **A device is found by its number as the driver prints it**: the first one in the map that has
it. -/
theorem printed_device_found (ds : List Attached) (bdf : BitVec 16) :
    ami_dev_find (map_text ds) .fine (printBdf bdf) none =
      match ds.find? fun x => decide (PCI_DEVID x = bdf) with
      | some x => (.AMI_STATUS_OK, some (handle x))
      | none => (.AMI_ERROR_ENODEV, none) := by
  have hmatch : Matches (AMI_PCI_BUS bdf) (AMI_PCI_DEV bdf) (AMI_PCI_FUNC bdf) =
      fun x => decide (PCI_DEVID x = bdf) := funext (matches_fields bdf)
  unfold ami_dev_find
  simp only [ami_parse_bdf_printBdf]
  rw [ami_dev_find_next_eq, remaining, hmatch]
  cases ds.find? fun x => decide (PCI_DEVID x = bdf) <;> rfl

end Amr.Api.ParseBdf
