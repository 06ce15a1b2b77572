/-
# The order of the hwmon files

Both loops of `ami_sensor_discover` keep registries (`Registry`): the data records are keyed by
type and id, and the sensors by name. Attributes of one record commute when no two files are for the
same attribute, and records of one sensor commute when they are of different types. So for such
files, when all of them are supported, the discovery does not depend on their order, and is
complete; for any others, it does or is not.
-/
import Mathlib.Logic.Function.Basic
import Mathlib.Data.List.Perm.Basic
import Amr.Api.Sensor

namespace Amr.Api

variable {h : Hwmon} {files order : List CString}

/-! ### One file -/

/-- The name of the file is read, if it has one. -/
def Readable (h : Hwmon) (path : CString) : Prop :=
  parse_hwmon h path ≠ .overflow ∧
    ∀ key, IsAttribute h path key .name → (read_sensor_attr h (stored path)).1 = .ok

variable {attr : SensorAttr}

theorem readName_of_ne (hattr : attr ≠ .name) (hwmon : CString) :
    readName h attr hwmon = (.ok, none) := if_neg hattr

variable {path : CString}

theorem readName_status (hread : Readable h path) {key : SensorKey}
    {attr : SensorAttr} (hattr : IsAttribute h path key attr) :
    (readName h attr (path.take AMI_HWMON_MAX_STR)).1 = .ok := by
  rcases eq_or_ne attr .name with rfl | hne
  · exact hread.2 key hattr
  · rw [readName_of_ne hne]

variable {key : SensorKey}

theorem attributeOf_name (hok : (read_sensor_attr h (stored path)).1 = .ok) :
    (attributeOf h path key .name).name = some (read_sensor_attr h (stored path)).2 := by
  simp only [attributeOf, readName, if_true]
  exact if_pos hok

theorem attributeOf_name_of_ne
    (hattr : attr ≠ .name) : (attributeOf h path key attr).name = none := by
  simp only [attributeOf, readName_of_ne hattr]

theorem supported_of (hattr : IsAttribute h path key attr) : supported h path = true :=
  decide_eq_true (by rw [show parse_hwmon h path = _ from hattr]; exact Parsed.noConfusion)

/-! ### The loop over the files -/

/-- The attribute of a file, if it is supported. -/
def attribute? (h : Hwmon) (path : CString) : Option Attribute :=
  match parse_hwmon h path with
  | .attribute key attr => some (attributeOf h path key attr)
  | _ => none

theorem attribute?_of (hattr : IsAttribute h path key attr) :
    attribute? h path = some (attributeOf h path key attr) := by
  unfold attribute?
  rw [show parse_hwmon h path = _ from hattr]

theorem mem_attributes {b : Attribute} :
    b ∈ files.filterMap (attribute? h) ↔
      ∃ path ∈ files, ∃ key attr, IsAttribute h path key attr ∧ b = attributeOf h path key attr := by
  rw [List.mem_filterMap]
  constructor
  · rintro ⟨path, hpath, hb⟩
    unfold attribute? at hb
    split at hb
    · rename_i key attr hattr
      exact ⟨path, hpath, key, attr, hattr, (Option.some.inj hb).symm⟩
    · cases hb
  · rintro ⟨path, hpath, key, attr, hattr, rfl⟩
    exact ⟨path, hpath, attribute?_of hattr⟩

/-- The variables after the files with these attributes. -/
structure Collected (items : List Attribute) (s : Discovery) : Prop where
  holds : dataRegistry.Holds items s.sensors
  total : s.num_total_sensors = s.sensors.length

theorem Collected.start : Collected [] .start := ⟨.nil, rfl⟩

theorem Collected.store {items : List Attribute} {s : Discovery} (hs : Collected items s)
    (b : Attribute) : Collected (items ++ [b]) (s.store b) := by
  have hlocated := dataRegistry.locate_located s.sensors s.data b.key
  refine ⟨hs.holds.put hlocated, ?_⟩
  change s.num_total_sensors + _ = (dataRegistry.put s.sensors _ b).length
  rw [dataRegistry.length_put, hs.total]

variable {l : List CString}

theorem discoverFiles_append (hl : ∀ path ∈ l, Readable h path)
    {items : List Attribute} {s : Discovery} (hs : Collected items s) (ret : Status) :
    ∃ ret' s', Collected (items ++ l.filterMap (attribute? h)) s' ∧
      ∀ rest, discoverFiles h ret s (l ++ rest) = discoverFiles h ret' s' rest := by
  induction l generalizing items s ret with
  | nil => exact ⟨ret, s, by simpa using hs, fun _ => rfl⟩
  | cons path l ih =>
    have hl' : ∀ path ∈ l, Readable h path := fun p hp => hl p (List.mem_cons_of_mem _ hp)
    have hread : Readable h path := hl path List.mem_cons_self
    rcases hparse : parse_hwmon h path with _ | _ | ⟨key, attr⟩
    · exact absurd hparse hread.1
    · obtain ⟨ret', s', hs', hrest⟩ := ih hl' hs .error
      refine ⟨ret', s', ?_, fun rest => ?_⟩
      · rw [List.filterMap_cons_none (by rw [attribute?, hparse])]
        exact hs'
      · rw [List.cons_append, discoverFiles, hparse]
        exact hrest rest
    · obtain ⟨ret', s', hs', hrest⟩ := ih hl' (hs.store (attributeOf h path key attr)) .ok
      refine ⟨ret', s', ?_, fun rest => ?_⟩
      · rw [List.filterMap_cons_some (attribute?_of hparse), List.append_cons]
        exact hs'
      · rw [List.cons_append, discoverFiles, hparse]
        dsimp only
        rw [readName_status hread hparse]
        exact hrest rest

theorem discoverFiles_ok (hread : ∀ path ∈ files, Readable h path)
    (hsupported : ∀ path ∈ files, ∃ key attr, IsAttribute h path key attr) (hne : files ≠ []) :
    ∃ s, discoverFiles h .error .start files = (.ok, s) ∧
      Collected (files.filterMap (attribute? h)) s := by
  obtain ⟨l, path, rfl⟩ := (List.eq_nil_or_concat' files).resolve_left hne
  have hpath : path ∈ l ++ [path] := List.mem_append_right _ List.mem_cons_self
  obtain ⟨ret, s, hs, hrest⟩ := discoverFiles_append
    (fun p hp => hread p (List.mem_append_left _ hp)) Collected.start .error
  obtain ⟨key, attr, hattr⟩ := hsupported path hpath
  refine ⟨s.store (attributeOf h path key attr), ?_, ?_⟩
  · rw [hrest, discoverFiles, show parse_hwmon h path = _ from hattr]
    dsimp only
    rw [readName_status (hread path hpath) hattr]
    rfl
  · rw [List.filterMap_append, List.filterMap_cons_some (attribute?_of hattr)]
    exact hs.store _

theorem discoverFiles_failed (hread : ∀ path ∈ l, Readable h path)
    {path : CString} (hpath : parse_hwmon h path = .failed) :
    (discoverFiles h .error .start (l ++ [path])).1 = .error := by
  obtain ⟨ret, s, -, hrest⟩ := discoverFiles_append hread Collected.start .error
  rw [hrest, discoverFiles, hpath]
  rfl

theorem discoverFiles_error (hfits : Fits h files) (hreads : ¬ NameReadsSucceed h files)
    (ret : Status) (s : Discovery) : (discoverFiles h ret s files).1 = .error := by
  induction files generalizing ret s with
  | nil => exact absurd (fun path hpath => absurd hpath List.not_mem_nil) hreads
  | cons path l ih =>
    have hfits' : Fits h l := fun p hp => hfits p (List.mem_cons_of_mem _ hp)
    obtain ⟨hparses, hname⟩ := hfits path List.mem_cons_self
    -- the loop goes on
    have hskip : (∀ key, IsAttribute h path key .name →
        (read_sensor_attr h (stored path)).1 ≠ .error) → ¬ NameReadsSucceed h l := by
      intro hok hall
      refine hreads fun p hp => ?_
      rcases List.mem_cons.mp hp with rfl | hp
      · exact hok
      · exact hall p hp
    rw [discoverFiles]
    rcases hparse : parse_hwmon h path with _ | _ | ⟨key, attr⟩
    · exact absurd hparse hparses
    · exact ih hfits' (hskip fun key hkey => by cases hparse.symm.trans hkey) _ _
    · dsimp only
      rcases eq_or_ne attr .name with rfl | hne
      · have hstatus : (readName h .name (path.take AMI_HWMON_MAX_STR)).1 =
            (read_sensor_attr h (stored path)).1 := rfl
        rw [hstatus]
        rcases hread : (read_sensor_attr h (stored path)).1 with _ | _ | _
        · refine ih hfits' (hskip fun key hkey => ?_) _ _
          rw [hread]
          exact Status.noConfusion
        · rfl
        · exact absurd hread (hname key hparse)
      · rw [readName_of_ne hne]
        refine ih hfits' (hskip fun key' hkey => ?_) _ _
        cases hparse.symm.trans hkey
        exact absurd rfl hne

/-! ### The data records -/

section Records

variable (hread : ∀ path ∈ files, Readable h path) (hd : Distinct h files)
  (hperm : order.Perm files) {records : List SensorData}
  (hr : dataRegistry.Holds (order.filterMap (attribute? h)) records)

section Distinct

include hd

theorem set_comm {b c : Attribute} (hb : b ∈ files.filterMap (attribute? h))
    (hc : c ∈ files.filterMap (attribute? h)) (hkey : b.key = c.key) (r : SensorData) :
    (r.set c).set b = (r.set b).set c := by
  obtain ⟨p, hp, key, attr, hattr, rfl⟩ := mem_attributes.mp hb
  obtain ⟨q, hq, key', attr', hattr', rfl⟩ := mem_attributes.mp hc
  obtain rfl : key = key' := hkey
  rcases eq_or_ne attr attr' with rfl | hne
  · have hstored : p.take AMI_HWMON_MAX_STR = q.take AMI_HWMON_MAX_STR :=
      hd.attributes p hp q hq key attr hattr hattr'
    have hsame : attributeOf h p key attr = attributeOf h q key attr := by
      unfold attributeOf
      rw [hstored]
    rw [hsame]
  · have hhwmon := Function.update_comm hne (some (stored p)) (some (stored q)) r.hwmon
    -- at most one of them is the name
    have hname : (attributeOf h p key attr).name = none ∨
        (attributeOf h q key attr').name = none := by
      rcases eq_or_ne attr .name with rfl | hname
      · exact .inr (attributeOf_name_of_ne hne.symm)
      · exact .inl (attributeOf_name_of_ne hname)
    unfold SensorData.set
    simp only [SensorData.mk.injEq, true_and]
    refine ⟨hhwmon.symm, ?_⟩
    rcases hname with hname | hname <;> rw [hname] <;> rfl

theorem sensorName_of (hpath : path ∈ files) {key : SensorKey}
    (hname : IsAttribute h path key .name) :
    sensorName h files key = (read_sensor_attr h (stored path)).2 := by
  unfold sensorName
  split
  · rename_i p hfind
    have hp : parse_hwmon h p = .attribute key .name := of_decide_eq_true (List.find?_some hfind :)
    rw [hd.attributes p (List.mem_of_find?_eq_some hfind) path hpath key .name hp hname]
  · rename_i hfind
    have hname : parse_hwmon h path = .attribute key .name := hname
    exact absurd (decide_eq_true hname) (List.find?_eq_none.mp hfind path hpath)

end Distinct

include hperm hr

theorem record_of_found (hfound : Found h files key) :
    ∃ r ∈ records, r = dataRegistry.value (order.filterMap (attribute? h)) key ∧ r.key = key := by
  obtain ⟨path, hpath, attr, hattr⟩ := hfound
  have hb : attributeOf h path key attr ∈ order.filterMap (attribute? h) :=
    mem_attributes.mpr ⟨path, hperm.mem_iff.mpr hpath, key, attr, hattr, rfl⟩
  exact ⟨_, hr.value_mem hb, rfl, dataRegistry.key_value _ _⟩

variable {r : SensorData}

theorem record_found (hmem : r ∈ records) :
    Found h files r.key ∧ r = dataRegistry.value (order.filterMap (attribute? h)) r.key := by
  obtain ⟨⟨b, hb, htarget⟩, hvalue⟩ := (hr.mem r).mp hmem
  obtain ⟨path, hpath, key, attr, hattr, rfl⟩ := mem_attributes.mp hb
  obtain rfl : key = r.key := htarget
  exact ⟨⟨path, hperm.mem_iff.mp hpath, attr, hattr⟩, hvalue⟩

include hd

theorem record_hwmon (hmem : r ∈ records) {path : CString} (hpath : path ∈ files)
    {attr : SensorAttr} (hattr : IsAttribute h path r.key attr) :
    r.hwmon attr = some (stored path) := by
  rw [(record_found hperm hr hmem).2]
  have hb : attributeOf h path r.key attr ∈ order.filterMap (attribute? h) :=
    mem_attributes.mpr ⟨path, hperm.mem_iff.mpr hpath, r.key, attr, hattr, rfl⟩
  refine dataRegistry.value_of_mem (P := fun r => r.hwmon attr = some (stored path)) hb
    (fun a => Function.update_self _ _ _) fun c hc hkey a ha => ?_
  obtain ⟨q, hq, key, attr', hattr', rfl⟩ := mem_attributes.mp hc
  obtain rfl : key = r.key := hkey
  rcases eq_or_ne attr' attr with rfl | hne
  · have hstored : stored q = stored path :=
      hd.attributes q (hperm.mem_iff.mp hq) path hpath _ _ hattr' hattr
    rw [← hstored]
    exact Function.update_self _ _ _
  · exact (Function.update_of_ne hne.symm _ _).trans ha

include hread

theorem record_name (hmem : r ∈ records) :
    r.name = sensorName h files r.key := by
  have hkeep : ∀ c ∈ order.filterMap (attribute? h), c.key = r.key → ∀ a : SensorData,
      a.name = sensorName h files r.key → (a.set c).name = sensorName h files r.key := by
    intro c hc hkey a ha
    obtain ⟨q, hq, key, attr, hattr, rfl⟩ := mem_attributes.mp hc
    obtain rfl : key = r.key := hkey
    rw [hperm.mem_iff] at hq
    simp only [SensorData.set]
    rcases eq_or_ne attr .name with rfl | hne
    · rw [attributeOf_name ((hread q hq).2 _ hattr), sensorName_of hd hq hattr]
      rfl
    · rw [attributeOf_name_of_ne hne]
      exact ha
  obtain ⟨-, hvalue⟩ := record_found hperm hr hmem
  have hname : (dataRegistry.value (order.filterMap (attribute? h)) r.key).name =
      sensorName h files r.key := by
    rcases hfind : files.find? (fun path =>
        decide (parse_hwmon h path = .attribute r.key .name)) with _ | path
    · refine dataRegistry.value_of_new (P := fun a => a.name = sensorName h files r.key) ?_ hkeep
      unfold sensorName
      rw [hfind]
      rfl
    · have hpath : path ∈ files := List.mem_of_find?_eq_some hfind
      have hattr : parse_hwmon h path = .attribute r.key .name :=
        of_decide_eq_true (List.find?_some hfind :)
      have hb : attributeOf h path r.key .name ∈ order.filterMap (attribute? h) :=
        mem_attributes.mpr ⟨path, hperm.mem_iff.mpr hpath, _, _, hattr, rfl⟩
      refine dataRegistry.value_of_mem (P := fun a => a.name = sensorName h files r.key) hb
        (fun a => ?_) hkeep
      change ((attributeOf h path r.key .name).name.getD a.name) = _
      rw [attributeOf_name ((hread path hpath).2 _ hattr), sensorName_of hd hpath hattr]
      rfl
  rw [← hvalue] at hname
  exact hname

theorem record_eq {r r' : SensorData} (hmem : r ∈ records) (hmem' : r' ∈ records)
    (hname : r.name = r'.name) (htype : r.type = r'.type) : r = r' := by
  have hsame : sensorName h files r.key = sensorName h files r'.key := by
    rw [← record_name hread hd hperm hr hmem, ← record_name hread hd hperm hr hmem', hname]
  exact hr.eq_of_key hmem hmem' (hd.names _ _ (record_found hperm hr hmem).1
    (record_found hperm hr hmem').1 htype hsame)

end Records

/-! ### The sensors -/

structure Populated (n : ℕ) (records : List SensorData) (dev : Device) : Prop where
  holds : sensorRegistry.Holds records dev.sensors
  num : dev.num_sensors = dev.sensors.length
  total : dev.num_total_sensors = n

theorem Populated.addData {n : ℕ} {records : List SensorData} {dev : Device}
    (hdev : Populated n records dev) (r : SensorData) :
    Populated n (records ++ [r]) (dev.addData r) := by
  have hlocated := sensorRegistry.locate_located dev.sensors dev.last r.name
  refine ⟨hdev.holds.put hlocated, ?_, hdev.total⟩
  change dev.num_sensors + _ = (sensorRegistry.put dev.sensors _ r).length
  rw [sensorRegistry.length_put, hdev.num]

theorem populated (n : ℕ) (records : List SensorData) :
    Populated n records ((Device.fresh n).populate_device_sensors records) := by
  induction records using List.reverseRecOn with
  | nil => exact ⟨.nil, rfl, rfl⟩
  | append_singleton records r ih =>
    unfold Device.populate_device_sensors
    rw [List.foldl_append]
    exact ih.addData r

theorem Populated.data_mem {n : ℕ} {records : List SensorData} {dev : Device}
    (hdev : Populated n records dev) {s : Sensor} (hs : s ∈ dev.sensors) {type : SensorType}
    {r : SensorData} (hr : s.data type = some r) : r ∈ records := by
  obtain ⟨-, hvalue⟩ := (hdev.holds.mem s).mp hs
  have hall : ∀ type r, (sensorRegistry.value records s.name).data type = some r → r ∈ records := by
    refine sensorRegistry.value_of_new
      (P := fun s => ∀ type r, s.data type = some r → r ∈ records) (fun _ _ h => by cases h) ?_
    intro c hc _ a ha type r hdata
    rcases eq_or_ne type c.type with rfl | hne
    · have hself : (sensorRegistry.apply c a).data c.type = some c := Function.update_self _ _ _
      obtain rfl := Option.some.inj (hself.symm.trans hdata)
      exact hc
    · exact ha type r ((Function.update_of_ne hne _ _).symm.trans hdata)
  exact hall type r (by rw [← hr]; exact congrArg (fun s => s.data type) hvalue.symm)

/-! ### The discovery -/

theorem discover_status (hne : files ≠ []) :
    (ami_sensor_discover h files).1 = (discoverFiles h .error .start files).1 := by
  unfold ami_sensor_discover
  rw [if_neg hne]

structure Discovered (h : Hwmon) (order : List CString) (records : List SensorData) (dev : Device) :
    Prop where
  result : ami_sensor_discover h order = (.ok, dev)
  holds : dataRegistry.Holds (order.filterMap (attribute? h)) records
  sensors : Populated records.length records dev

theorem discover_ok (hread : ∀ path ∈ order, Readable h path)
    (hsupported : ∀ path ∈ order, ∃ key attr, IsAttribute h path key attr) (hne : order ≠ []) :
    ∃ records dev, Discovered h order records dev := by
  obtain ⟨s, hs, hcollected⟩ := discoverFiles_ok hread hsupported hne
  refine ⟨s.sensors, _, ⟨?_, hcollected.holds, populated s.sensors.length s.sensors⟩⟩
  unfold ami_sensor_discover
  rw [if_neg hne, hs, if_pos rfl, hcollected.total]

section Discovered

variable {records records' : List SensorData} {dev dev' : Device}
  (hread : ∀ path ∈ files, Readable h path) (hd : Distinct h files) (hperm : order.Perm files)
  (hdev : Discovered h order records dev)
include hread hd hperm hdev

theorem Discovered.same (hdev' : Discovered h files records' dev') :
    SameResult (.ok, dev) (.ok, dev') := by
  have hrecords : records.Perm records' := by
    refine hdev.holds.perm hdev'.holds (hperm.filterMap _) fun b hb c hc hkey r => ?_
    exact set_comm hd ((hperm.filterMap _).mem_iff.mp hb) ((hperm.filterMap _).mem_iff.mp hc) hkey r
  have hsensors : dev.sensors.Perm dev'.sensors := by
    refine hdev.sensors.holds.perm hdev'.sensors.holds hrecords fun b hb c hc hname s => ?_
    rcases eq_or_ne b.type c.type with htype | htype
    · rw [record_eq hread hd hperm hdev.holds hb hc hname htype]
    · have hdata := Function.update_comm htype (some b) (some c) s.data
      exact congrArg (Sensor.mk s.name) hdata.symm
  refine ⟨rfl, fun _ => ⟨hsensors, ?_, ?_⟩⟩
  · rw [hdev.sensors.num, hdev'.sensors.num, hsensors.length_eq]
  · rw [hdev.sensors.total, hdev'.sensors.total, hrecords.length_eq]

theorem Discovered.reachable (hfound : Found h files key) :
    ∃ s r, Reachable h files dev key s r := by
  obtain ⟨r, hr, -, rfl⟩ := record_of_found hperm hdev.holds hfound
  have hname := record_name hread hd hperm hdev.holds hr
  have hs := hdev.sensors.holds.value_mem hr
  refine ⟨sensorRegistry.value records r.name, r, ⟨?_, ?_, rfl, hname, fun path hpath attr hattr =>
    record_hwmon hd hperm hdev.holds hr hpath hattr, fun s' hs' r' hdata hkey => ?_⟩⟩
  · have hfind := hdev.sensors.holds.find hs
    rw [sensorRegistry.key_value] at hfind
    rw [← hname]
    exact hfind
  · -- no other record of the type goes into this sensor
    refine sensorRegistry.value_of_mem (P := fun s => s.data r.type = some r) hr
      (fun _ => Function.update_self _ _ _) fun c hc htarget s hdata => ?_
    rcases eq_or_ne r.type c.type with htype | htype
    · obtain rfl := record_eq hread hd hperm hdev.holds hc hr htarget htype.symm
      exact Function.update_self _ _ _
    · exact (Function.update_of_ne htype _ _).trans hdata
  · exact hdev.holds.eq_of_key (hdev.sensors.data_mem hs' hdata) hr hkey

end Discovered

theorem discover_error (hfits : Fits h files) (hreads : ¬ NameReadsSucceed h files) :
    (ami_sensor_discover h files).1 = .error := by
  by_cases hne : files = []
  · unfold ami_sensor_discover
    rw [if_pos hne]
  · rw [discover_status hne]
    exact discoverFiles_error hfits hreads _ _

theorem fits_of_subset (hfits : Fits h files) (hl : ∀ path ∈ l, path ∈ files) :
    Fits h l := fun path hpath => hfits path (hl path hpath)

theorem readable (hfits : Fits h files) (hreads : NameReadsSucceed h files) :
    ∀ path ∈ files, Readable h path := by
  intro path hpath
  refine ⟨(hfits path hpath).1, fun key hkey => ?_⟩
  rcases hstatus : (read_sensor_attr h (stored path)).1 with _ | _ | _
  · rfl
  · exact absurd hstatus (hreads path hpath key hkey)
  · exact absurd hstatus ((hfits path hpath).2 key hkey)

theorem nameReadsSucceed_of_perm (hperm : order.Perm files) :
    NameReadsSucceed h order ↔ NameReadsSucceed h files := by
  unfold NameReadsSucceed
  simp only [hperm.mem_iff]

theorem nameReadsSucceed_filter : NameReadsSucceed h (files.filter (supported h)) ↔
    NameReadsSucceed h files := by
  refine ⟨fun hall path hpath key hkey => ?_, fun hall path hpath => ?_⟩
  · exact hall path (List.mem_filter.mpr ⟨hpath, supported_of hkey⟩) key hkey
  · exact hall path (List.mem_of_mem_filter hpath)

/-! ### When it is as it should be -/

theorem discovers_of_unreadable (hfits : Fits h files) (hreads : ¬ NameReadsSucceed h files) :
    Discovers h files := by
  have herror : ∀ order, order.Perm files → (ami_sensor_discover h order).1 = .error := by
    intro order hperm
    refine discover_error (fits_of_subset hfits fun path => hperm.mem_iff.mp) ?_
    rwa [nameReadsSucceed_of_perm hperm]
  have hfiltered : ∀ order : List CString, order.Perm files →
      (ami_sensor_discover h (order.filter (supported h))).1 = .error := by
    intro order hperm
    refine discover_error (fits_of_subset hfits fun path hpath =>
      hperm.mem_iff.mp (List.mem_of_mem_filter hpath)) ?_
    rwa [nameReadsSucceed_filter, nameReadsSucceed_of_perm hperm]
  refine ⟨fun order hperm => ⟨?_, fun hok => ?_⟩,
    fun order hperm => ⟨?_, fun hok => ?_, fun hok => ?_⟩, fun order hperm hok => ?_,
    fun order hperm => ⟨?_, fun hok => ?_⟩⟩
  · rw [herror order hperm, herror files (List.Perm.refl _)]
  · cases (herror order hperm).symm.trans hok
  · rw [herror order hperm]
    exact Status.noConfusion
  · cases (herror order hperm).symm.trans hok
  · exact absurd hok hreads
  · cases (herror order hperm).symm.trans hok
  · rw [herror order hperm, hfiltered order hperm]
  · cases (herror order hperm).symm.trans hok

theorem discovers_of_distinct (hfits : Fits h files) (hreads : NameReadsSucceed h files)
    (hd : Distinct h files) : Discovers h files := by
  have hread := readable hfits hreads
  have hall : ∀ order, order.Perm files → ∃ records dev, Discovered h order records dev := by
    intro order hperm
    refine discover_ok (fun path hpath => hread path (hperm.mem_iff.mp hpath))
      (fun path hpath => hd.supported path (hperm.mem_iff.mp hpath)) fun hnil => hd.nonempty ?_
    rw [hnil] at hperm
    exact hperm.symm.eq_nil
  obtain ⟨records', dev', hdev'⟩ := hall files (List.Perm.refl _)
  refine ⟨fun order hperm => ?_, fun order hperm => ?_, fun order hperm _ key hfound => ?_,
    fun order hperm => ?_⟩
  all_goals obtain ⟨records, dev, hdev⟩ := hall order hperm
  · rw [hdev.result, hdev'.result]
    exact hdev.same hread hd hperm hdev'
  · rw [hdev.result]
    exact ⟨Status.noConfusion, fun _ => hreads, fun _ => rfl⟩
  · rw [hdev.result]
    exact hdev.reachable hread hd hperm hfound
  · have hfilter : order.filter (supported h) = order := by
      refine List.filter_eq_self.mpr fun path hpath => ?_
      obtain ⟨key, attr, hattr⟩ := hd.supported path (hperm.mem_iff.mp hpath)
      exact supported_of hattr
    rw [hfilter]
    exact ⟨rfl, fun _ => ⟨List.Perm.refl _, rfl, rfl⟩⟩

theorem fits_of_discovers (hall : Discovers h files) : Fits h files := by
  intro path hpath
  have hperm : (path :: files.erase path).Perm files := (List.perm_cons_erase hpath).symm
  have hstatus := (hall.succeeds _ hperm).1
  rw [discover_status (List.cons_ne_nil _ _), discoverFiles] at hstatus
  refine ⟨fun hparse => ?_, fun key hkey hread => ?_⟩
  · rw [hparse] at hstatus
    exact hstatus rfl
  · have hname : (readName h .name (path.take AMI_HWMON_MAX_STR)).1 = .overflow := hread
    rw [show parse_hwmon h path = _ from hkey] at hstatus
    dsimp only at hstatus
    rw [hname] at hstatus
    exact hstatus rfl

theorem distinct_of_discovers (hall : Discovers h files) (hreads : NameReadsSucceed h files) :
    Distinct h files := by
  have hfits := fits_of_discovers hall
  have hread := readable hfits hreads
  have hok : ∀ order, order.Perm files → (ami_sensor_discover h order).1 = .ok :=
    fun order hperm => (hall.succeeds order hperm).2.mpr hreads
  have hfiles := hok files (List.Perm.refl _)
  have hcomplete := hall.complete files (List.Perm.refl _) hfiles
  refine ⟨?_, fun path hpath => ?_, fun p hp q hq key attr hattr hattr' => ?_,
    fun key key' hfound hfound' htype hname => ?_⟩
  · rintro rfl
    cases hfiles
  · -- a file that is not supported can come last
    rcases hparse : parse_hwmon h path with _ | _ | ⟨key, attr⟩
    · exact absurd hparse (hfits path hpath).1
    · have hperm : (files.erase path ++ [path]).Perm files :=
        List.perm_append_comm.trans (List.perm_cons_erase hpath).symm
      have herror := discoverFiles_failed
        (fun p hp => hread p (List.mem_of_mem_erase hp)) hparse (l := files.erase path)
      have hstatus := hok _ hperm
      rw [discover_status (by simp), herror] at hstatus
      cases hstatus
    · exact ⟨key, attr, hparse⟩
  · obtain ⟨s, r, hr⟩ := hcomplete key ⟨p, hp, attr, hattr⟩
    exact Option.some.inj
      ((hr.attributes p hp attr hattr).symm.trans (hr.attributes q hq attr hattr'))
  · obtain ⟨s, r, hr⟩ := hcomplete key hfound
    obtain ⟨s', r', hr'⟩ := hcomplete key' hfound'
    have hs : s = s' := by
      refine Option.some.inj (hr.find.symm.trans ?_)
      rw [hname]
      exact hr'.find
    have hdata : r = r' := by
      refine Option.some.inj (hr.data.symm.trans ?_)
      rw [hs, htype]
      exact hr'.data
    rw [← hr.sensor, ← hr'.sensor, hdata]

/-- The discovery does not depend on the order of the files, and is complete, exactly when all
names fit into their buffers, and a name cannot be read or the files are distinct and supported. -/
theorem sensor_discovery (h : Hwmon) (files : List CString) :
    Discovers h files ↔ Fits h files ∧ (¬ NameReadsSucceed h files ∨ Distinct h files) := by
  refine ⟨fun hall => ⟨fits_of_discovers hall, ?_⟩, fun ⟨hfits, hcases⟩ => ?_⟩
  · by_cases hreads : NameReadsSucceed h files
    · exact .inr (distinct_of_discovers hall hreads)
    · exact .inl hreads
  · by_cases hreads : NameReadsSucceed h files
    · exact discovers_of_distinct hfits hreads (hcases.resolve_left (not_not_intro hreads))
    · exact discovers_of_unreadable hfits hreads

/-- A directory in which each file has the same text. -/
def hwmonOf (text : CString) : Hwmon := ⟨fun _ => true, fun _ => some text⟩

/-- A temperature sensor, and one of temperature and voltage. -/
example :
    let files := ["temp1_label", "in1_label", "temp1_input", "temp2_label", "temp2_input",
      "temp2_max", "in1_input"].map fun file => ("/sys/class/hwmon/hwmon2/" ++ file).toList
    let h : Hwmon := ⟨fun _ => true, fun path =>
      some (if path = files.headD [] then "device".toList else "pcb".toList)⟩
    let result := ami_sensor_discover h files
    (result.1, result.2.num_sensors, result.2.num_total_sensors) = (.ok, 2, 3) := by
  decide +kernel

/-- The files of one power sensor, of which the last is not supported. -/
def files_power : List CString :=
  ["/sys/class/hwmon/hwmon2/power1_label".toList, "/sys/class/hwmon/hwmon2/power1_avg".toList]

/-- The status of the last file is that of the discovery, although the file is skipped. -/
theorem unsupported_file_fails : ¬ Discovers (hwmonOf "device".toList) files_power := by
  intro hall
  have hreads : NameReadsSucceed (hwmonOf "device".toList) files_power := by
    intro path _ key _
    simp only [read_sensor_attr, hwmonOf]
    split_ifs <;> exact Status.noConfusion
  have hok := (hall.succeeds files_power (List.Perm.refl _)).2.mpr hreads
  have herror : (ami_sensor_discover (hwmonOf "device".toList) files_power).1 = .error := by
    decide +kernel
  cases herror.symm.trans hok

end Amr.Api
