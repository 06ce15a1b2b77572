/-
# The image is decoded into its fields

One field is read at a time (`readOne_spec`), and leaves the others alone because the buffers of a
layout are apart. So a run over the fields ends with all of them decoded, exactly when all bytes
could be read (`readFields_spec`). What goes wrong is at the ends: the terminator behind the number
of MAC addresses has no room, and the last try at the device id counts as a match.
-/
import Amr.Eeprom.Image

namespace Amr.Eeprom

open ByteStore EEPROM_VERSION

variable {bus : Bus} {usEepromDeviceId : ℕ} {v : EEPROM_VERSION} {s : EEPROMPrivateData}

/-! ### The layouts -/

theorem size_pos {f : Field} {field : ℕ × ℕ} (hf : fields v f = some field) : 0 < field.2 := by
  cases v <;> cases f <;> cases hf <;> decide

theorem size_lt_room {f : Field} {field : ℕ × ℕ} (hf : fields v f = some field)
    (hcount : f ≠ .numMacIds) : field.2 < room v f := by
  cases v <;> cases f <;> cases hf <;> first | decide | exact absurd rfl hcount

theorem numMacIds_size {field : ℕ × ℕ} (hf : fields v .numMacIds = some field) : field.2 = 1 := by
  cases v <;> cases hf <;> rfl

theorem buffers_apart {f g : Field} {field field' : ℕ × ℕ} (hf : fields v f = some field)
    (hg : fields v g = some field') (hfg : f ≠ g) (hf' : f ≠ .numMacIds) (hg' : g ≠ .numMacIds) :
    position v f + field.2 < position v g ∨ position v g + field'.2 < position v f := by
  cases v <;> cases f <;> cases hf <;> cases g <;> cases hg <;>
    first | decide | exact absurd rfl hfg | exact absurd rfl hf' | exact absurd rfl hg'

theorem position_eepromVersion : position v .eepromVersion = 0 := by cases v <;> rfl

theorem fields_eepromVersion : fields v .eepromVersion = some (0, 4) := by cases v <;> rfl

theorem mem_fieldsRead (f : Field) :
    (∃ field, fields v f = some field) ↔ f = .eepromVersion ∨ f ∈ fieldsRead v := by
  cases v <;> cases f <;> simp [fields, fieldsV3, fieldsV4_0, fieldsRead]

/-! ### One field -/

theorem readBytes_length (bus : Bus) (offset : ℕ) (mac iStatus : Bool) (n i : ℕ) :
    (readBytes bus offset mac iStatus n i).2.length ≤ n := by
  induction n generalizing iStatus i with
  | zero => simp [readBytes]
  | succ n ih =>
    rw [readBytes]
    split_ifs
    · simp
    · simpa using ih true (i + 1)

theorem readBytes_ok (offset : ℕ) (mac iStatus : Bool) (n i : ℕ) :
    (readBytes bus offset mac iStatus n i).1 = true ↔
      (n = 0 → iStatus = true) ∧ ∀ j < n, bus.fails (offset + (i + j)) = false := by
  induction n generalizing iStatus i with
  | zero => simp [readBytes]
  | succ n ih =>
    rw [readBytes]
    split_ifs with hfails
    · refine iff_of_false (by simp) fun h => ?_
      have hfirst := h.2 0 (Nat.succ_pos n)
      rw [Nat.add_zero, hfails] at hfirst
      cases hfirst
    · rw [ih]
      constructor
      · rintro ⟨-, hrest⟩
        refine ⟨fun h => absurd h (by simp), fun j hj => ?_⟩
        rcases j with _ | j
        · simpa using hfails
        · have hj := hrest j (Nat.lt_of_succ_lt_succ hj)
          rwa [Nat.add_assoc, Nat.add_comm 1 j] at hj
      · rintro ⟨-, hall⟩
        refine ⟨fun _ => rfl, fun j hj => ?_⟩
        have hj := hall (j + 1) (Nat.succ_lt_succ hj)
        rwa [Nat.add_assoc, Nat.add_comm 1 j]

theorem readBytes_bytes (offset : ℕ) (mac iStatus : Bool) (n i : ℕ)
    (hall : ∀ j < n, bus.fails (offset + (i + j)) = false) :
    (readBytes bus offset mac iStatus n i).2 =
      (List.range n).map fun j => clean mac (bus.content (offset + (i + j))) := by
  induction n generalizing iStatus i with
  | zero => rfl
  | succ n ih =>
    have hfirst : ¬ bus.fails (offset + i) = true := by simpa using hall 0 (Nat.succ_pos n)
    have hrest : ∀ j < n, bus.fails (offset + (i + 1 + j)) = false := fun j hj => by
      have hj := hall (j + 1) (Nat.succ_lt_succ hj)
      rwa [Nat.add_assoc, Nat.add_comm 1 j]
    rw [readBytes, if_neg hfirst, ih true (i + 1) hrest, List.range_succ_eq_map, List.map_cons,
      List.map_map]
    refine congrArg₂ _ rfl (List.map_congr_left fun j _ => ?_)
    rw [Function.comp_apply, Nat.add_assoc, Nat.add_comm 1 j]

section Field

variable {f : Field} {field : ℕ × ℕ}

theorem iEepromReadField_ok (hf : fields v f = some field) (mac : Bool) :
    (iEepromReadField bus field.1 field.2 mac).1 = true ↔ FieldReadable bus field := by
  have hsize := size_pos hf
  unfold iEepromReadField FieldReadable
  rw [readBytes_ok]
  simp only [Nat.zero_add]
  exact ⟨fun h => h.2, fun h => ⟨fun h0 => absurd h0 hsize.ne', h⟩⟩

theorem iEepromReadField_bytes (hread : FieldReadable bus field) :
    (iEepromReadField bus field.1 field.2 (decide (f = .boardMac))).2 =
      fieldBytes bus f field := by
  unfold iEepromReadField fieldBytes
  have hall : ∀ j < field.2, bus.fails (field.1 + (0 + j)) = false := by
    simp only [Nat.zero_add]
    exact hread
  rw [readBytes_bytes _ _ _ _ _ hall]
  simp only [Nat.zero_add]

theorem length_fieldBytes : (fieldBytes bus f field).length = field.2 := by simp [fieldBytes]

theorem read_storeField (m : Store) (p n : ℕ) {bytes : List UInt8} (hn : bytes.length = n) :
    read (storeField m p n bytes) p n = bytes := by
  subst hn
  refine Eq.trans (read_congr fun x _ hx => ?_) (read_put m p bytes)
  exact put_below _ _ hx

theorem storeField_outside (m : Store) {p n x : ℕ} {bytes : List UInt8} (hn : bytes.length ≤ n)
    (hx : x < p ∨ p + n < x) : storeField m p n bytes x = m x := by
  rcases hx with hx | hx
  · rw [storeField, put_below _ _ (by omega), put_below _ _ hx]
  · rw [storeField, put_above _ (by simpa using hx), put_above _ (by omega)]

end Field

/-- The fields point to the layout of a version. -/
structure Points (s : EEPROMPrivateData) (v : EEPROM_VERSION) : Prop where
  field : ∀ f field, fields v f = some field →
    s.field f = ⟨some (position v f), room v f, field.2, field.1⟩
  checksum : s.checksum = checksum v

theorem points_initialise (s : EEPROMPrivateData) (v : EEPROM_VERSION) :
    Points (vEepromInitialiseVersionFields s v) v := by
  refine ⟨fun f field hf => ?_, rfl⟩
  simp only [vEepromInitialiseVersionFields, fieldInfo, hf]

theorem points_pointTo (hp : Points s v) (v' : EEPROM_VERSION) : Points (pointTo s v v') v' := by
  unfold pointTo
  split_ifs with hne
  · exact points_initialise s v'
  · obtain rfl := not_not.mp hne
    exact hp

def fieldValue (v : EEPROM_VERSION) (s : EEPROMPrivateData) (f : Field) (field : ℕ × ℕ) :
    List UInt8 :=
  if f = .numMacIds then [s.ucNumMacIds] else read s.xBoardInfo (position v f) field.2

structure FieldRead (bus : Bus) (v : EEPROM_VERSION) (f : Field) (field : ℕ × ℕ)
    (s : EEPROMPrivateData) (r : Bool × EEPROMPrivateData) : Prop where
  ok : r.1 = true ↔ FieldReadable bus field
  points : Points r.2 v
  stored : ∃ bytes : List UInt8, bytes.length ≤ field.2 ∧ r.2.stored = s.stored ++
    storesOf f (if f = .numMacIds then EEPROM_V4_0_TOT_MAC_ID_SIZE else room v f) field.2 bytes
  value : r.1 = true → fieldValue v r.2 f field = fieldBytes bus f field
  others : ∀ g field', fields v g = some field' → g ≠ f →
    fieldValue v r.2 g field' = fieldValue v s g field'

theorem readField_spec (hp : Points s v) {f : Field} {field : ℕ × ℕ} (hf : fields v f = some field)
    (hcount : f ≠ .numMacIds) : FieldRead bus v f field s (readField bus f s) := by
  have hlength := readBytes_length bus field.1 (decide (f = .boardMac)) false field.2 0
  unfold readField
  rw [hp.field f field hf]
  refine ⟨iEepromReadField_ok hf _, ⟨hp.field, hp.checksum⟩, ⟨_, hlength, ?_⟩, fun hok => ?_,
    fun g field' hg hne => ?_⟩
  · rw [if_neg hcount]
    rfl
  · have hread := (iEepromReadField_ok hf _).mp hok
    unfold fieldValue
    rw [if_neg hcount]
    simp only [iEepromReadField_bytes hread]
    exact read_storeField _ _ _ length_fieldBytes
  · unfold fieldValue
    split_ifs with hnum
    · rfl
    · refine read_congr fun x hlow hhigh => storeField_outside _ hlength ?_
      have happart := buffers_apart hf hg hne.symm hcount hnum
      show x < position v f ∨ position v f + field.2 < x
      omega

theorem readNumMacIds_spec (bus : Bus) (hp : Points s v) {field : ℕ × ℕ}
    (hf : fields v .numMacIds = some field) :
    FieldRead bus v .numMacIds field s (readNumMacIds bus s) := by
  have hlength := readBytes_length bus field.1 false false field.2 0
  unfold readNumMacIds
  rw [hp.field .numMacIds field hf]
  refine ⟨iEepromReadField_ok hf _, ⟨hp.field, hp.checksum⟩, ⟨_, hlength, ?_⟩, fun hok => ?_,
    fun g field' hg hne => ?_⟩
  · rw [if_pos rfl]
    rfl
  · have hread := (iEepromReadField_ok hf _).mp hok
    have hbytes : (iEepromReadField bus field.1 field.2 false).2 =
        fieldBytes bus .numMacIds field := iEepromReadField_bytes (f := .numMacIds) hread
    have hsize := numMacIds_size hf
    unfold fieldValue
    rw [if_pos rfl]
    simp only at hok
    simp only [hok, if_true, hbytes]
    simp [fieldBytes, hsize]
  · unfold fieldValue
    rw [if_neg hne, if_neg hne]

theorem readOne_spec (hp : Points s v) {f : Field} {field : ℕ × ℕ} (hf : fields v f = some field) :
    FieldRead bus v f field s (readOne bus f s) := by
  unfold readOne
  split_ifs with hcount
  · subst hcount
    exact readNumMacIds_spec bus hp hf
  · exact readField_spec hp hf hcount

/-! ### All fields -/

/-- The fields of a list have their bytes. -/
def Decoded (bus : Bus) (v : EEPROM_VERSION) (s : EEPROMPrivateData) (l : List Field) : Prop :=
  ∀ f ∈ l, ∀ field, fields v f = some field → fieldValue v s f field = fieldBytes bus f field

theorem FieldRead.decoded {f : Field} {field : ℕ × ℕ} {r : Bool × EEPROMPrivateData}
    (hr : FieldRead bus v f field s r) (hf : fields v f = some field) (hok : r.1 = true)
    {l : List Field} (hl : Decoded bus v s l) : Decoded bus v r.2 (f :: l) := by
  intro g hg field' hfield
  rcases eq_or_ne g f with rfl | hne
  · obtain rfl := Option.some.inj (hf.symm.trans hfield)
    exact hr.value hok
  · rw [hr.others g field' hfield hne]
    exact hl g (List.mem_of_ne_of_mem hne hg) field' hfield

/-- The stores are within their buffers, or excused. -/
def StoresWithin (Exempt : Stored → Prop) (s : EEPROMPrivateData) : Prop :=
  ∀ st ∈ s.stored, st.index < st.room ∨ Exempt st

theorem FieldRead.storesWithin {Exempt : Stored → Prop} {f : Field} {field : ℕ × ℕ}
    {r : Bool × EEPROMPrivateData} (hr : FieldRead bus v f field s r)
    (hf : fields v f = some field) (hexempt : f = .numMacIds → ∀ st, CountTerminator st → Exempt st)
    (hs : StoresWithin Exempt s) : StoresWithin Exempt r.2 := by
  obtain ⟨bytes, hlength, hstored⟩ := hr.stored
  intro st hst
  rw [hstored] at hst
  rcases List.mem_append.mp hst with hst | hst
  · exact hs st hst
  · obtain ⟨i, hi, rfl⟩ := List.mem_map.mp hst
    have hindex : i ≤ field.2 := by
      rcases List.mem_append.mp hi with hi | hi
      · exact (List.mem_range.mp hi).le.trans hlength
      · exact (List.mem_singleton.mp hi).le
    by_cases hcount : f = .numMacIds
    · subst hcount
      have hsize := numMacIds_size hf
      rcases Nat.eq_zero_or_pos i with rfl | hpos
      · exact .inl (by simp [EEPROM_V4_0_TOT_MAC_ID_SIZE])
      · exact .inr (hexempt rfl _ ⟨rfl, by dsimp only; omega⟩)
    · refine .inl ?_
      have hroom := size_lt_room hf hcount
      simp only [if_neg hcount]
      omega

/-- The effect of reading several fields. -/
structure FieldsRead (bus : Bus) (v : EEPROM_VERSION) (l : List Field) (s : EEPROMPrivateData)
    (r : Bool × EEPROMPrivateData) : Prop where
  ok : r.1 = true ↔ ∀ f ∈ l, ∀ field, fields v f = some field → FieldReadable bus field
  points : Points r.2 v
  decoded : r.1 = true → ∀ done, Decoded bus v s done → Decoded bus v r.2 (l ++ done)
  stored : s.stored ⊆ r.2.stored
  within : ∀ Exempt : Stored → Prop, (.numMacIds ∈ l → ∀ st, CountTerminator st → Exempt st) →
    StoresWithin Exempt s → StoresWithin Exempt r.2

theorem readFields_spec {l : List Field} (hl : ∀ f ∈ l, ∃ field, fields v f = some field)
    (hp : Points s v) : FieldsRead bus v l s (readFields bus l s) := by
  induction l generalizing s with
  | nil =>
    exact ⟨iff_of_true rfl fun f hf => absurd hf List.not_mem_nil, hp, fun _ _ h => h,
      List.Subset.refl _, fun _ _ h => h⟩
  | cons f l ih =>
    obtain ⟨field, hf⟩ := hl f List.mem_cons_self
    have hone : FieldRead bus v f field s (readOne bus f s) := readOne_spec hp hf
    have hsub : s.stored ⊆ (readOne bus f s).2.stored := by
      obtain ⟨bytes, -, hstored⟩ := hone.stored
      rw [hstored]
      exact List.subset_append_left _ _
    have hwithin : ∀ Exempt : Stored → Prop,
        (.numMacIds ∈ f :: l → ∀ st, CountTerminator st → Exempt st) → StoresWithin Exempt s →
        StoresWithin Exempt (readOne bus f s).2 := fun Exempt hexempt =>
      hone.storesWithin hf fun h => hexempt (h ▸ List.mem_cons_self)
    rw [readFields]
    split_ifs with hok
    · have hrest := ih (fun g hg => hl g (List.mem_cons_of_mem _ hg)) hone.points
      refine ⟨hrest.ok.trans ?_, hrest.points, fun hall done hdone => ?_,
        fun st hst => hrest.stored (hsub hst),
        fun Exempt hexempt hs => hrest.within Exempt
          (fun h => hexempt (List.mem_cons_of_mem _ h)) (hwithin Exempt hexempt hs)⟩
      · refine ⟨fun hall g hg => ?_, fun hall g hg => hall g (List.mem_cons_of_mem _ hg)⟩
        rcases List.mem_cons.mp hg with rfl | hg
        · intro field' hfield
          obtain rfl := Option.some.inj (hf.symm.trans hfield)
          exact hone.ok.mp hok
        · exact hall g hg
      · have hboth := hrest.decoded hall _ (hone.decoded hf hok hdone)
        intro g hg
        refine hboth g ?_
        simp only [List.cons_append, List.mem_cons, List.mem_append] at hg ⊢
        tauto
    · refine ⟨iff_of_false Bool.false_ne_true fun hall => hok (hone.ok.mpr ?_), hone.points,
        (fun h => by cases h), hsub, hwithin⟩
      exact hall f List.mem_cons_self field hf

theorem readFields_append (l l' : List Field) (s : EEPROMPrivateData) :
    readFields bus (l ++ l') s =
      if (readFields bus l s).1 then readFields bus l' (readFields bus l s).2
      else readFields bus l s := by
  induction l generalizing s with
  | nil => rfl
  | cons f l ih =>
    rw [List.cons_append, readFields, readFields]
    by_cases hok : (readOne bus f s).1 = true
    · rw [if_pos hok, if_pos hok, ih]
    · rw [if_neg hok, if_neg hok, if_neg Bool.false_ne_true]

/-! ### The device id and the checksum -/

theorem verifyDeviceId_iff (iStatus : Bool) (n i : ℕ) :
    verifyDeviceId bus usEepromDeviceId iStatus n i = true ↔
      (∃ j < n, ∃ buf, bus.deviceId (i + j) = some buf ∧ usDeviceId buf = usEepromDeviceId) ∨
        (if n = 0 then iStatus else (bus.deviceId (i + (n - 1))).isSome) = true := by
  induction n generalizing iStatus i with
  | zero => simp [verifyDeviceId]
  | succ n ih =>
    have hshift : (∃ j < n, ∃ buf, bus.deviceId (i + 1 + j) = some buf ∧
        usDeviceId buf = usEepromDeviceId) ↔ ∃ j < n, ∃ buf, bus.deviceId (i + (j + 1)) = some buf ∧
        usDeviceId buf = usEepromDeviceId := by
      simp only [Nat.add_assoc, Nat.add_comm 1]
    have hlast : n ≠ 0 → i + 1 + (n - 1) = i + n := by omega
    rw [verifyDeviceId, Nat.exists_lt_succ_left, if_neg (Nat.succ_ne_zero n), Nat.add_sub_cancel]
    rcases hid : bus.deviceId i with _ | buf
    · simp only [ih, hshift]
      rcases eq_or_ne n 0 with rfl | hn
      · simp [hid]
      · simp [hn, hlast hn]
    · simp only
      split_ifs with hmatch
      · simp [hmatch]
      · simp only [ih, hshift]
        rcases eq_or_ne n 0 with rfl | hn
        · simp [hid]
        · simp [hn, hlast hn, hmatch]

theorem iEeprom_VerifyDeviceId_iff (bus : Bus) (usEepromDeviceId : ℕ) :
    iEeprom_VerifyDeviceId bus usEepromDeviceId = true ↔
      DeviceIdRead bus usEepromDeviceId ∨ OtherIdLast bus usEepromDeviceId := by
  unfold iEeprom_VerifyDeviceId OtherIdLast
  rw [verifyDeviceId_iff]
  have hread : (∃ j < EEPROM_DEVICE_ID_CHECK_TRY_COUNT, ∃ buf,
      bus.deviceId (0 + j) = some buf ∧ usDeviceId buf = usEepromDeviceId) ↔
        DeviceIdRead bus usEepromDeviceId := by
    simp only [Nat.zero_add]
    rfl
  have hlast : (if EEPROM_DEVICE_ID_CHECK_TRY_COUNT = 0 then false
      else (bus.deviceId (0 + (EEPROM_DEVICE_ID_CHECK_TRY_COUNT - 1))).isSome) =
        (bus.deviceId 2).isSome := rfl
  rw [hread, hlast]
  by_cases hid : DeviceIdRead bus usEepromDeviceId <;> simp [hid]

theorem foldl_checksum (g : ℕ → ℕ) (l : List ℕ) (a : ℕ) (ha : a < 65536) :
    l.foldl (fun sum i => (sum + g i) % 65536) a = (a + (l.map g).sum) % 65536 := by
  induction l generalizing a with
  | nil => simp [Nat.mod_eq_of_lt ha]
  | cons i l ih =>
    rw [List.foldl_cons, ih _ (Nat.mod_lt _ (by decide)), List.map_cons, List.sum_cons,
      Nat.mod_add_mod, Nat.add_assoc]

theorem iEepromVerifyChecksum_iff (c : Checksum) :
    iEepromVerifyChecksum bus c = true ↔ bus.blockFails = false ∧ ChecksumMatches bus c := by
  unfold iEepromVerifyChecksum ChecksumMatches
  rw [foldl_checksum _ _ 0 (by decide), Bool.and_eq_true, Bool.not_eq_true', decide_eq_true_iff]
  refine and_congr_right fun _ => ?_
  have hmsb : (bus.content c.ucOffsetChecksumMsb).toNat < 256 := UInt8.toNat_lt _
  have hlsb : (bus.content c.ucOffsetChecksumLsb).toNat < 256 := UInt8.toNat_lt _
  omega

/-! ### The initialisation -/

theorem fieldsRead_exists : ∀ f ∈ fieldsRead v, ∃ field, fields v f = some field :=
  fun f hf => (mem_fieldsRead f).mpr (.inr hf)

theorem readVersion_spec (bus : Bus) (hp : Points s v) :
    FieldRead bus v .eepromVersion (0, 4) s (readField bus .eepromVersion s) :=
  readField_spec hp fields_eepromVersion (by decide)

theorem version_eq {xExpected : EEPROM_VERSION} (hp : Points s xExpected)
    (hok : (readField bus .eepromVersion s).1 = true) :
    versionOf (read (readField bus .eepromVersion s).2.xBoardInfo
      (((readField bus .eepromVersion s).2.field .eepromVersion).puc.getD 0) 4) =
        imageVersion bus := by
  have hread := readVersion_spec bus hp
  have hvalue := hread.value hok
  rw [fieldValue, if_neg (by decide)] at hvalue
  rw [hread.points.field .eepromVersion (0, 4) fields_eepromVersion, Option.getD_some, hvalue]
  rfl

theorem getter_eq (hp : Points s v) {f : Field} {field : ℕ × ℕ} (hf : fields v f = some field) :
    getter f s = if s.iEepromInitialised then some (fieldValue v s f field) else none := by
  have hother : ∀ g, fields v g = some field → g ≠ .numMacIds →
      getField g s = if s.iEepromInitialised then some (fieldValue v s g field) else none := by
    intro g hg hne
    unfold getField fieldValue
    rw [if_neg hne, hp.field g field hg]
    rfl
  cases f with
  | numMacIds =>
    have hsize := numMacIds_size hf
    change iEEPROM_GetMacAddressCount s = _
    unfold iEEPROM_GetMacAddressCount fieldValue
    rw [if_pos rfl, hp.field _ field hf, hsize]
    rfl
  | _ => exact hother _ hf (by decide)

theorem finish_stored (r : Bool × EEPROMPrivateData) : (finish r).2.stored = r.2.stored := by
  unfold finish
  split_ifs <;> rfl

/-- The checksum matches, and the fields before the number of MAC addresses can be read. -/
def BeforeCount (bus : Bus) (v : EEPROM_VERSION) : Prop :=
  ChecksumMatches bus (checksum v) ∧ bus.blockFails = false ∧
    ∀ f ∈ [Field.productName, .boardRev, .boardSerial], ∀ field, fields v f = some field →
      FieldReadable bus field

structure DecodeSpec (bus : Bus) (v : EEPROM_VERSION) (s : EEPROMPrivateData)
    (r : Bool × EEPROMPrivateData) : Prop where
  ok : r.1 = true ↔ ChecksumMatches bus (checksum v) ∧ bus.blockFails = false ∧
    ∀ f ∈ fieldsRead v, ∀ field, fields v f = some field → FieldReadable bus field
  getters : r.1 = true → ∀ f field, fields v f = some field →
    getter f r.2 = some (fieldBytes bus f field)
  within : StoresWithin (fun _ => False) s → StoresWithin CountTerminator r.2
  /-- Without the number of MAC addresses, all stores are within their buffers. -/
  strictly : StoresWithin (fun _ => False) s → ¬ BeforeCount bus v →
    StoresWithin (fun _ => False) r.2
  /-- With it, its terminator is not. -/
  terminator : BeforeCount bus v → ⟨.numMacIds, 1, 1⟩ ∈ r.2.stored

theorem fieldsRead_split (v : EEPROM_VERSION) :
    ∃ rest, fieldsRead v = [.productName, .boardRev, .boardSerial] ++ .numMacIds :: rest := by
  cases v <;> exact ⟨_, rfl⟩

theorem decode_spec (hp : Points s v) (hversion : Decoded bus v s [.eepromVersion]) :
    DecodeSpec bus v s (decode bus v s) := by
  have hcheck : iEepromVerifyChecksum bus s.checksum = true ↔
      bus.blockFails = false ∧ ChecksumMatches bus (checksum v) := by
    rw [iEepromVerifyChecksum_iff, hp.checksum]
  unfold decode
  split_ifs with hsum
  · obtain ⟨hblock, hmatch⟩ := hcheck.mp hsum
    have hall : FieldsRead bus v (fieldsRead v) s (readFields bus (fieldsRead v) s) :=
      readFields_spec fieldsRead_exists hp
    obtain ⟨rest, hsplit⟩ := fieldsRead_split v
    have hfirst : FieldsRead bus v [.productName, .boardRev, .boardSerial] s
        (readFields bus [.productName, .boardRev, .boardSerial] s) := by
      refine readFields_spec (fun f hf => fieldsRead_exists f ?_) hp
      rw [hsplit]
      exact List.mem_append_left _ hf
    refine ⟨?_, fun hok f field hf => ?_, fun hs => ?_, fun hs hnot => ?_, fun hreached => ?_⟩
    · change (readFields bus (fieldsRead v) s).1 = true ↔ _
      rw [hall.ok]
      tauto
    · have hok : (readFields bus (fieldsRead v) s).1 = true := hok
      have hdecoded := hall.decoded hok _ hversion
      have hp' : Points { (readFields bus (fieldsRead v) s).2 with iEepromInitialised := true } v :=
        ⟨hall.points.field, hall.points.checksum⟩
      unfold finish
      rw [if_pos hok]
      refine (getter_eq hp' hf).trans ((if_pos rfl).trans (congrArg some (hdecoded f ?_ field hf)))
      rw [List.mem_append, List.mem_singleton, or_comm]
      exact (mem_fieldsRead f).mp ⟨field, hf⟩
    · unfold StoresWithin
      rw [finish_stored]
      refine hall.within CountTerminator (fun _ _ h => h) fun st hst => ?_
      exact .inl ((hs st hst).resolve_right not_false)
    · -- the fields before cannot all be read
      have hfails : ¬ (readFields bus [.productName, .boardRev, .boardSerial] s).1 = true :=
        fun hok => hnot ⟨hmatch, hblock, hfirst.ok.mp hok⟩
      have hsame : readFields bus (fieldsRead v) s =
          readFields bus [.productName, .boardRev, .boardSerial] s := by
        rw [hsplit, readFields_append, if_neg hfails]
      unfold StoresWithin
      rw [finish_stored, hsame]
      exact hfirst.within _ (fun h => absurd h (by decide)) hs
    · have hok := hfirst.ok.mpr hreached.2.2
      have hrest : readFields bus (fieldsRead v) s = readFields bus (.numMacIds :: rest)
          (readFields bus [.productName, .boardRev, .boardSerial] s).2 := by
        rw [hsplit, readFields_append, if_pos hok]
      obtain ⟨field, hf⟩ := fieldsRead_exists (v := v) .numMacIds (by
        rw [hsplit]
        exact List.mem_append_right _ List.mem_cons_self)
      have hone := readNumMacIds_spec bus hfirst.points hf
      have hmem : ⟨.numMacIds, 1, 1⟩ ∈ (readNumMacIds bus
          (readFields bus [.productName, .boardRev, .boardSerial] s).2).2.stored := by
        obtain ⟨bytes, -, hstored⟩ := hone.stored
        rw [hstored]
        refine List.mem_append_right _ (List.mem_map.mpr ⟨field.2, List.mem_append_right _
          List.mem_cons_self, ?_⟩)
        rw [numMacIds_size hf]
        rfl
      have hothers : ∀ f ∈ rest, ∃ field, fields v f = some field := fun f hf =>
        fieldsRead_exists f (by
          rw [hsplit]
          exact List.mem_append_right _ (List.mem_cons_of_mem _ hf))
      rw [finish_stored, hrest, readFields]
      change _ ∈ (if (readNumMacIds bus _).1 then readFields bus rest (readNumMacIds bus _).2
        else (false, (readNumMacIds bus _).2)).2.stored
      split_ifs
      · exact (readFields_spec hothers hone.points).stored hmem
      · exact hmem
  · have hno : ¬ (bus.blockFails = false ∧ ChecksumMatches bus (checksum v)) :=
      fun h => hsum (hcheck.mpr h)
    exact ⟨iff_of_false Bool.false_ne_true fun h => hno ⟨h.2.1, h.1⟩, (fun h => by cases h),
      fun hs st hst => .inl ((hs st hst).resolve_right not_false), fun hs _ => hs,
      fun h => absurd ⟨h.2.1, h.1⟩ hno⟩

/-! ### What the initialisation does -/

/-- The outcome once the device id has been taken. -/
structure ImageSpec (bus : Bus) (r : Bool × EEPROMPrivateData) : Prop where
  ok : r.1 = true ↔ ∃ v, Acceptable bus v
  getters : r.1 = true → ∀ v, imageVersion bus = some v → ∀ f field,
    fields v f = some field → getter f r.2 = some (fieldBytes bus f field)
  within : StoresWithin CountTerminator r.2
  strictly : (¬ ∃ v, FieldReadable bus (0, 4) ∧ imageVersion bus = some v ∧ BeforeCount bus v) →
    StoresWithin (fun _ => False) r.2
  terminator : (∃ v, FieldReadable bus (0, 4) ∧ imageVersion bus = some v ∧ BeforeCount bus v) →
    ⟨.numMacIds, 1, 1⟩ ∈ r.2.stored

theorem not_acceptable {bus : Bus} (h : ¬ FieldReadable bus (0, 4)) : ¬ ∃ v, Acceptable bus v :=
  fun ⟨_, hv⟩ => h (hv.fields .eepromVersion (0, 4) fields_eepromVersion)

theorem readImage_spec (bus : Bus) {xExpected : EEPROM_VERSION} (hp : Points s xExpected)
    (hs : StoresWithin (fun _ => False) s) : ImageSpec bus (readImage bus xExpected s) := by
  have hread := readVersion_spec bus hp
  have hwithin : StoresWithin (fun _ => False) (readField bus .eepromVersion s).2 :=
    hread.storesWithin fields_eepromVersion (fun h => by cases h) hs
  have hloose : StoresWithin CountTerminator (readField bus .eepromVersion s).2 :=
    fun st hst => .inl ((hwithin st hst).resolve_right not_false)
  unfold readImage
  rcases hresult : readField bus .eepromVersion s with ⟨_ | _, s₁⟩
  · -- the version cannot be read
    have hno : ¬ FieldReadable bus (0, 4) := fun h => by
      have hok := hread.ok.mpr h
      rw [hresult] at hok
      cases hok
    rw [hresult] at hwithin hloose
    exact ⟨iff_of_false Bool.false_ne_true (not_acceptable hno), (fun h => by cases h), hloose,
      fun _ => hwithin, fun ⟨_, h, _⟩ => absurd h hno⟩
  · have hok : (readField bus .eepromVersion s).1 = true := by rw [hresult]
    have hreadable := hread.ok.mp hok
    have hversion := version_eq hp hok
    have hvalue := hread.value hok
    have hp₁ := hread.points
    rw [hresult] at hversion hvalue hp₁ hwithin hloose
    simp only [hversion]
    rcases himage : imageVersion bus with _ | v
    · have hno : ¬ ∃ v, Acceptable bus v := fun ⟨v, hv⟩ => by
        cases himage.symm.trans hv.version
      exact ⟨iff_of_false Bool.false_ne_true hno, (fun h => by cases h), hloose,
        fun _ => hwithin, fun ⟨_, _, h, _⟩ => by cases himage.symm.trans h⟩
    · -- the layout changes, but not the bytes of the version
      have hp₂ : Points (pointTo s₁ xExpected v) v := points_pointTo hp₁ v
      have hsame : (pointTo s₁ xExpected v).xBoardInfo = s₁.xBoardInfo ∧
          (pointTo s₁ xExpected v).stored = s₁.stored := by
        unfold pointTo
        split_ifs <;> exact ⟨rfl, rfl⟩
      have hdecoded : Decoded bus v (pointTo s₁ xExpected v) [.eepromVersion] := by
        intro f hf field hfield
        obtain rfl := List.mem_singleton.mp hf
        obtain rfl := Option.some.inj (fields_eepromVersion.symm.trans hfield)
        rw [fieldValue, if_neg (by decide), hsame.1, position_eepromVersion]
        rwa [fieldValue, if_neg (by decide), position_eepromVersion] at hvalue
      have hdecode := decode_spec hp₂ hdecoded
      have hstores : StoresWithin (fun _ => False) (pointTo s₁ xExpected v) := by
        unfold StoresWithin
        rw [hsame.2]
        exact hwithin
      have hunique : ∀ v', imageVersion bus = some v' → v' = v := fun v' hv' =>
        Option.some.inj (hv'.symm.trans himage)
      refine ⟨hdecode.ok.trans ?_, fun hok v' hv' => ?_, hdecode.within hstores,
        fun hno => hdecode.strictly hstores fun h => hno ⟨v, hreadable, himage, h⟩,
        fun ⟨v', _, hv', h⟩ => ?_⟩
      · constructor
        · rintro ⟨hmatch, hblock, hfields⟩
          refine ⟨v, himage, hmatch, hblock, fun f field hf => ?_⟩
          rcases (mem_fieldsRead f).mp ⟨field, hf⟩ with rfl | hmem
          · obtain rfl := Option.some.inj (fields_eepromVersion.symm.trans hf)
            exact hreadable
          · exact hfields f hmem field hf
        · rintro ⟨v', hv'⟩
          obtain rfl := hunique v' hv'.version
          exact ⟨hv'.checksum, hv'.block, fun f _ => hv'.fields f⟩
      · obtain rfl := hunique v' hv'
        exact hdecode.getters hok
      · obtain rfl := hunique v' hv'
        exact hdecode.terminator h

theorem countReached_iff : (∃ v, CountReached bus usEepromDeviceId v) ↔
    iEeprom_VerifyDeviceId bus usEepromDeviceId = true ∧
      ∃ v, FieldReadable bus (0, 4) ∧ imageVersion bus = some v ∧ BeforeCount bus v := by
  constructor
  · rintro ⟨v, hid, hversion, hmatch, hblock, hfields⟩
    exact ⟨hid, v, hfields .eepromVersion List.mem_cons_self _ fields_eepromVersion, hversion,
      hmatch, hblock, fun f hf => hfields f (List.mem_cons_of_mem _ hf)⟩
  · rintro ⟨hid, v, hread, hversion, hmatch, hblock, hfields⟩
    refine ⟨v, hid, hversion, hmatch, hblock, fun f hf field hfield => ?_⟩
    rcases List.mem_cons.mp hf with rfl | hf
    · obtain rfl := Option.some.inj (fields_eepromVersion.symm.trans hfield)
      exact hread
    · exact hfields f hf field hfield

theorem Acceptable.beforeCount (hv : Acceptable bus v) :
    FieldReadable bus (0, 4) ∧ imageVersion bus = some v ∧ BeforeCount bus v :=
  ⟨hv.fields .eepromVersion (0, 4) fields_eepromVersion, hv.version, hv.checksum, hv.block,
    fun f _ field hf => hv.fields f field hf⟩

/-- **When the image is decoded as it should be.** The terminator behind the number of MAC
addresses has no room, so all is well exactly when the initialisation fails before that number.
Leaving this byte out of account, it is accepted exactly when it should be, all stores are within
their buffers, and the getters return the fields, unless no try reads the device id but the last
one reads another and the image is acceptable. -/
theorem eeprom_initialise (bus : Bus) (usEepromDeviceId : ℕ) (xEepromVersion : EEPROM_VERSION)
    (xBoardInfo : Store) :
    (Initialised (fun _ => False) bus usEepromDeviceId
        (iEEPROM_Initialise bus usEepromDeviceId xEepromVersion (.start xBoardInfo)) ↔
      ¬ ∃ v, CountReached bus usEepromDeviceId v) ∧
    (Initialised CountTerminator bus usEepromDeviceId
        (iEEPROM_Initialise bus usEepromDeviceId xEepromVersion (.start xBoardInfo)) ↔
      ¬ (OtherIdLast bus usEepromDeviceId ∧ ∃ v, Acceptable bus v)) := by
  have hpoints := points_initialise (.start xBoardInfo) xEepromVersion
  have hstart : StoresWithin (fun _ => False)
      (vEepromInitialiseVersionFields (.start xBoardInfo) xEepromVersion) :=
    fun st hst => absurd hst List.not_mem_nil
  have himage := readImage_spec bus hpoints hstart
  have hid := iEeprom_VerifyDeviceId_iff bus usEepromDeviceId
  rw [countReached_iff]
  unfold iEEPROM_Initialise
  split_ifs with hverify
  · refine ⟨⟨fun hall hreached => ?_, fun hno => ?_⟩, ⟨fun hall hwrong => ?_, fun hno => ?_⟩⟩
    · -- the terminator
      rcases hall.stores _ (himage.terminator hreached.2) with hlt | hfalse
      · exact absurd hlt (by decide)
      · exact hfalse
    · have hbefore := fun h => hno ⟨hverify, h⟩
      have hrefused : ¬ ∃ v, Acceptable bus v := fun ⟨v, hv⟩ => hbefore ⟨v, hv.beforeCount⟩
      exact ⟨iff_of_false (fun h => hrefused (himage.ok.mp h)) fun h => hrefused h.2,
        himage.strictly hbefore, himage.getters⟩
    · exact hwrong.1.1 (hall.accepts.mp (himage.ok.mpr hwrong.2)).1
    · refine ⟨himage.ok.trans ⟨fun h => ⟨?_, h⟩, fun h => h.2⟩, himage.within, himage.getters⟩
      rcases hid.mp hverify with hread | hlast
      · exact hread
      · exact absurd ⟨hlast, h⟩ hno
  · -- the device id is not taken
    have hnone : ∀ Exempt, Initialised Exempt bus usEepromDeviceId (false,
        vEepromInitialiseVersionFields (.start xBoardInfo) xEepromVersion) := fun Exempt =>
      ⟨iff_of_false Bool.false_ne_true fun h => hverify (hid.mpr (.inl h.1)),
        fun st hst => absurd hst List.not_mem_nil, fun h => by cases h⟩
    exact ⟨iff_of_true (hnone _) fun h => hverify h.1,
      iff_of_true (hnone _) fun h => hverify (hid.mpr (.inr h.1))⟩

/-- An unprogrammed image of version 4.0, with a checksum of 0. -/
def emptyImage : Bus where
  deviceId _ := some (0x0A, 0x01)
  content a := [0x34, 0x2E, 0x30, 0x00].getD a 0
  fails _ := false
  junk _ := 0
  blockFails := false

/-- The terminator of the number of MAC addresses is stored behind its array. -/
theorem count_terminator_outside : ¬ Initialised (fun _ => False) emptyImage 0x0A01
    (iEEPROM_Initialise emptyImage 0x0A01 EEPROM_VERSION_4_0 (.start fun _ => 0)) := by
  intro hall
  have hrun : ∃ st ∈ (iEEPROM_Initialise emptyImage 0x0A01 EEPROM_VERSION_4_0
      (.start fun _ => 0)).2.stored, st.room ≤ st.index := by
    decide +kernel
  obtain ⟨st, hst, houtside⟩ := hrun
  rcases hall.stores st hst with hlt | hfalse
  · exact absurd hlt (not_lt.mpr houtside)
  · exact hfalse

end Amr.Eeprom
