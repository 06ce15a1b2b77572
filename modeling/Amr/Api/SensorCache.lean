/-
# The sensor that was found last

`find_sensor_by_name` keeps the sensor that it found last, and the device it was found for, in two
static pointers, and `ami_dev_delete` leaves them alone. The model is the heap as far as these
pointers see it: the devices with their lists of sensors, and the sensors with their names, by their
addresses. An allocation returns any address that is free. A result of `none` is a read of memory
that is no sensor any more.
-/
import Amr.Api.Sensor
import Amr.Lib.Transition

namespace Amr.Api.Cache

/-- The heap, the two static pointers, and the device whose sensors are being populated. -/
structure State where
  /-- The sensors of the device at an address, in the order of its list. -/
  devices : ℕ → Option (List ℕ)
  /-- The name of the sensor at an address. -/
  sensors : ℕ → Option CString
  last_dev : Option ℕ
  last : Option ℕ
  populating : Option ℕ

/-- Neither a device nor a sensor is at the address. -/
def State.Free (s : State) (a : ℕ) : Prop := s.devices a = none ∧ s.sensors a = none

instance (s : State) (a : ℕ) : Decidable (s.Free a) := inferInstanceAs (Decidable (_ ∧ _))

def State.list (s : State) (dev : ℕ) : List ℕ := (s.devices dev).getD []

def search (sensors : ℕ → Option CString) (name : CString) : List ℕ → Option (Option ℕ)
  | [] => some none
  | a :: next =>
    (sensors a).bind fun n => if n = name then some (some a) else search sensors name next

/-- The cached value, if it is for this device and of this name. -/
def cached (s : State) (dev : ℕ) (name : CString) : Option (Option ℕ) :=
  match s.last with
  | some a =>
    if s.last_dev = some dev then
      (s.sensors a).map fun n => if n = name then some a else none
    else some none
  | none => some none

def find_sensor_by_name (s : State) (dev : ℕ) (name : CString) : Option (Option ℕ × State) :=
  if s.list dev = [] then some (none, s)
  else
    (cached s dev name).bind fun hit =>
      match hit with
      | some a => some (some a, s)
      | none =>
        (search s.sensors name (s.list dev)).map fun found =>
          match found with
          | some a => (some a, { s with last := some a, last_dev := some dev })
          | none => (none, s)

/-- How the two allocations of a new sensor go: the first fails, the second does, or none. -/
inductive Alloc
  | failed
  | half (a : ℕ)
  | done (a : ℕ)

/-- What is done with the interface: a device is acquired, its sensors are populated (a round for
each record), it is deleted, or a sensor of it is looked up. -/
inductive Event
  | acquire (a : ℕ)
  | discover (dev : ℕ)
  | record (name : CString) (alloc : Alloc)
  | finish
  | delete (dev : ℕ)
  | lookup (dev : ℕ) (name : CString)

/-- One round of `populate_device_sensors`. A sensor whose data cannot be allocated is lost. -/
def populate (s : State) (dev : ℕ) (name : CString) (alloc : Alloc) : Option State :=
  (find_sensor_by_name s dev name).bind fun r =>
    match r.1, alloc with
    | some _, _ => some r.2
    | none, .failed => some { r.2 with populating := none }
    | none, .half a =>
      if r.2.Free a then
        some { r.2 with sensors := Function.update r.2.sensors a (some []), populating := none }
      else none
    | none, .done a =>
      if r.2.Free a then
        some { r.2 with
          sensors := Function.update r.2.sensors a (some name)
          devices := Function.update r.2.devices dev (some (r.2.list dev ++ [a])) }
      else none

/-- The memory of a device and of its sensors is freed. -/
def ami_dev_delete (s : State) (dev : ℕ) : State :=
  { s with
    devices := Function.update s.devices dev none
    sensors := fun a => if a ∈ s.list dev then none else s.sensors a }

/-- Callers use the devices that they have acquired and not deleted. -/
def step (s : State) : Event → Option State
  | .acquire a =>
    if s.populating = none ∧ s.Free a then
      some { s with devices := Function.update s.devices a (some []) }
    else none
  | .discover dev =>
    if s.populating = none ∧ (s.devices dev).isSome then
      if s.list dev = [] then some { s with populating := some dev } else some s
    else none
  | .record name alloc => s.populating.bind fun dev => populate s dev name alloc
  | .finish => s.populating.map fun _ => { s with populating := none }
  | .delete dev =>
    if s.populating = none ∧ (s.devices dev).isSome then some (ami_dev_delete s dev) else none
  | .lookup dev name =>
    if s.populating = none ∧ (s.devices dev).isSome then
      (find_sensor_by_name s dev name).map Prod.snd
    else none

/-- No memory is allocated, and nothing is cached. -/
def init : State := ⟨fun _ => none, fun _ => none, none, none, none⟩

/-- The call of `find_sensor_by_name` that an event makes. -/
def call? (s : State) : Event → Option (ℕ × CString)
  | .record name _ => s.populating.map fun dev => (dev, name)
  | .lookup dev name =>
    if s.populating = none ∧ (s.devices dev).isSome then some (dev, name) else none
  | _ => none

/-- The call reads sensors only, and returns a sensor of the device's list with this name if there
is one, and none otherwise. -/
def Right (s : State) (dev : ℕ) (name : CString) : Prop :=
  ∃ r, find_sensor_by_name s dev name = some r ∧
    (∀ a, r.1 = some a → a ∈ s.list dev ∧ s.sensors a = some name) ∧
    (r.1 = none → ∀ a ∈ s.list dev, s.sensors a ≠ some name)

/-- The device has no sensors, or what is cached for it is a sensor still, and if it has this name,
of the device's list. -/
def Holds (s : State) (dev : ℕ) (name : CString) : Prop :=
  s.list dev = [] ∨ ∀ a, s.last_dev = some dev → s.last = some a →
    ∃ n, s.sensors a = some n ∧ (n = name → a ∈ s.list dev)

/-! ### The heap -/

/-- The lists hold sensors, and no sensor is in two of them. -/
structure Inv (s : State) : Prop where
  live : ∀ dev, ∀ a ∈ s.list dev, ∃ n, s.sensors a = some n
  apart : ∀ dev dev', dev ≠ dev' → ∀ a ∈ s.list dev, a ∉ s.list dev'

variable {s s' : State} {dev a : ℕ} {name : CString}

theorem search_eq {sensors : ℕ → Option CString} {l : List ℕ}
    (hl : ∀ a ∈ l, ∃ n, sensors a = some n) (name : CString) :
    ∃ r, search sensors name l = some r ∧ (∀ a, r = some a → a ∈ l ∧ sensors a = some name) ∧
      (r = none → ∀ a ∈ l, sensors a ≠ some name) := by
  induction l with
  | nil => exact ⟨none, rfl, nofun, fun _ => nofun⟩
  | cons a next ih =>
    obtain ⟨n, hn⟩ := hl a List.mem_cons_self
    obtain ⟨r, hr, hsome, hnone⟩ := ih fun b hb => hl b (List.mem_cons_of_mem _ hb)
    rw [search, hn, Option.bind_some]
    by_cases heq : n = name
    · rw [if_pos heq]
      refine ⟨some a, rfl, fun b hb => ?_, nofun⟩
      obtain rfl := Option.some.inj hb
      exact ⟨List.mem_cons_self, heq ▸ hn⟩
    · rw [if_neg heq]
      refine ⟨r, hr, fun b hb => ?_, fun hr b hb => ?_⟩
      · obtain ⟨hmem, hname⟩ := hsome b hb
        exact ⟨List.mem_cons_of_mem _ hmem, hname⟩
      · rcases List.mem_cons.mp hb with rfl | hmem
        · rw [hn]
          exact fun h => heq (Option.some.inj h)
        · exact hnone hr b hmem

theorem find_frame {r : Option ℕ × State} (h : find_sensor_by_name s dev name = some r) :
    r.2.devices = s.devices ∧ r.2.sensors = s.sensors ∧ r.2.populating = s.populating := by
  unfold find_sensor_by_name at h
  split_ifs at h
  · obtain rfl := Option.some.inj h
    exact ⟨rfl, rfl, rfl⟩
  · obtain ⟨hit, -, h⟩ := Option.bind_eq_some_iff.mp h
    cases hit with
    | some a =>
      obtain rfl := Option.some.inj h
      exact ⟨rfl, rfl, rfl⟩
    | none =>
      obtain ⟨found, -, rfl⟩ := Option.map_eq_some_iff.mp h
      cases found <;> exact ⟨rfl, rfl, rfl⟩

/-- **Exactly when a call is right.** -/
theorem right_iff (hs : Inv s) (dev : ℕ) (name : CString) :
    Right s dev name ↔ Holds s dev name := by
  unfold Right Holds find_sensor_by_name
  by_cases hnil : s.list dev = []
  · rw [if_pos hnil]
    refine iff_of_true ⟨_, rfl, nofun, fun _ => ?_⟩ (.inl hnil)
    rw [hnil]
    exact nofun
  rw [if_neg hnil, or_iff_right hnil]
  obtain ⟨found, hfound, hsome, hnone⟩ := search_eq (hs.live dev) name
  -- the search is right
  have hsearch : ∃ r, ((search s.sensors name (s.list dev)).map fun found =>
      match found with
      | some a => (some a, { s with last := some a, last_dev := some dev })
      | none => (none, s)) = some r ∧
        (∀ a, r.1 = some a → a ∈ s.list dev ∧ s.sensors a = some name) ∧
        (r.1 = none → ∀ a ∈ s.list dev, s.sensors a ≠ some name) := by
    rw [hfound, Option.map_some]
    cases found with
    | none => exact ⟨_, rfl, nofun, fun _ => hnone rfl⟩
    | some a => exact ⟨_, rfl, hsome, nofun⟩
  unfold cached
  cases hlast : s.last with
  | none => exact iff_of_true hsearch nofun
  | some a =>
    by_cases hdev : s.last_dev = some dev
    swap
    · simp only [if_neg hdev]
      exact iff_of_true hsearch fun _ h => absurd h hdev
    simp only [Option.some.injEq, forall_eq', forall_const, hdev]
    cases hname : s.sensors a with
    | none =>
      refine iff_of_false ?_ ?_
      · rintro ⟨r, hr, -⟩
        cases hr
      · rintro ⟨n, hn, -⟩
        cases hn
    | some n =>
      simp only [Option.map_some, Option.bind_some, Option.some.injEq, exists_eq_left']
      by_cases heq : n = name
      · -- the cached value is returned
        simp only [if_pos heq]
        constructor
        · rintro ⟨r, hr, hin, -⟩ _
          obtain rfl := Option.some.inj hr
          exact (hin a rfl).1
        · intro hmem
          refine ⟨_, rfl, fun b hb => ?_, nofun⟩
          obtain rfl := Option.some.inj hb
          exact ⟨hmem heq, heq ▸ hname⟩
      · simp only [if_neg heq]
        exact iff_of_true hsearch fun h => absurd h heq

/-! ### Runs -/

theorem Inv.init : Inv init := ⟨fun _ => nofun, fun _ _ _ => nofun⟩

theorem Inv.congr (hs : Inv s) (hlist : ∀ dev, s'.list dev = s.list dev)
    (hsensors : ∀ a n, s.sensors a = some n → s'.sensors a = some n) : Inv s' := by
  refine ⟨fun dev a ha => ?_, fun dev dev' hne a ha ha' => ?_⟩
  · obtain ⟨n, hn⟩ := hs.live dev a (hlist dev ▸ ha)
    exact ⟨n, hsensors a n hn⟩
  · exact hs.apart dev dev' hne a (hlist dev ▸ ha) (hlist dev' ▸ ha')

theorem list_of_update (s s' : State) (dev : ℕ) (v : Option (List ℕ))
    (h : s'.devices = Function.update s.devices dev v) :
    s'.list dev = v.getD [] ∧ ∀ dev', dev' ≠ dev → s'.list dev' = s.list dev' := by
  unfold State.list
  rw [h]
  refine ⟨by rw [Function.update_self], fun dev' hne => ?_⟩
  rw [Function.update_of_ne hne]

theorem Inv.add (hs : Inv s) (hfree : s.sensors a = none)
    (hsensors : s'.sensors = Function.update s.sensors a (some name))
    (hlist : s'.list dev = s.list dev ++ [a])
    (hother : ∀ dev', dev' ≠ dev → s'.list dev' = s.list dev') : Inv s' := by
  have hnew : ∀ dev', a ∉ s.list dev' := fun dev' ha => by
    obtain ⟨n, hn⟩ := hs.live dev' a ha
    rw [hfree] at hn
    cases hn
  have hmem : ∀ dev' b, b ∈ s'.list dev' → b ∈ s.list dev' ∨ b = a ∧ dev' = dev := by
    intro dev' b hb
    by_cases heq : dev' = dev
    · rw [heq, hlist, List.mem_append, List.mem_singleton] at hb
      exact hb.imp (heq ▸ ·) fun h => ⟨h, heq⟩
    · exact .inl (hother dev' heq ▸ hb)
  refine ⟨fun dev' b hb => ?_, fun dev₁ dev₂ hne b hb hb' => ?_⟩
  · rw [hsensors]
    rcases hmem dev' b hb with hold | ⟨rfl, -⟩
    · obtain ⟨n, hn⟩ := hs.live dev' b hold
      have hba : b ≠ a := fun heq => hnew dev' (heq ▸ hold)
      exact ⟨n, by rw [Function.update_of_ne hba, hn]⟩
    · exact ⟨name, Function.update_self ..⟩
  · rcases hmem dev₁ b hb with hold | ⟨rfl, hdev⟩
    · rcases hmem dev₂ b hb' with hold' | ⟨rfl, -⟩
      · exact hs.apart dev₁ dev₂ hne b hold hold'
      · exact hnew dev₁ hold
    · rcases hmem dev₂ b hb' with hold' | ⟨-, hdev'⟩
      · exact hnew dev₂ hold'
      · exact hne (hdev.trans hdev'.symm)

theorem Inv.delete (hs : Inv s) (dev : ℕ) : Inv (ami_dev_delete s dev) := by
  obtain ⟨hself, hother⟩ := list_of_update s (ami_dev_delete s dev) dev none rfl
  have hmem : ∀ dev' a, a ∈ (ami_dev_delete s dev).list dev' → dev' ≠ dev ∧ a ∈ s.list dev' := by
    intro dev' a ha
    have hne : dev' ≠ dev := by
      rintro rfl
      rw [hself] at ha
      cases ha
    exact ⟨hne, hother dev' hne ▸ ha⟩
  refine ⟨fun dev' a ha => ?_, fun dev₁ dev₂ hne a ha ha' => ?_⟩
  · obtain ⟨hne, hmem'⟩ := hmem dev' a ha
    obtain ⟨n, hn⟩ := hs.live dev' a hmem'
    exact ⟨n, (if_neg (hs.apart dev' dev hne a hmem')).trans hn⟩
  · exact hs.apart dev₁ dev₂ hne a (hmem dev₁ a ha).2 (hmem dev₂ a ha').2

/-- What a round of `populate_device_sensors` does: a sensor is found, none can be made, or one is
put at the end of the list. -/
theorem populate_cases {alloc : Alloc} (h : populate s dev name alloc = some s') :
    ∃ r, find_sensor_by_name s dev name = some r ∧
      (s'.last_dev = r.2.last_dev ∧ s'.last = r.2.last ∧
        ∀ d, s'.populating = some d → s.populating = some d) ∧
      ((∀ d, s'.list d = s.list d) ∧
          (∀ a n, s.sensors a = some n → s'.sensors a = some n) ∧
          (∀ d, s'.devices d = none ↔ s.devices d = none) ∨
        ∃ a, s.Free a ∧ s'.sensors = Function.update s.sensors a (some name) ∧
          s'.devices = Function.update s.devices dev (some (s.list dev ++ [a]))) := by
  unfold populate at h
  obtain ⟨r, hr, h⟩ := Option.bind_eq_some_iff.mp h
  obtain ⟨hdevices, hsensors, hpop⟩ := find_frame hr
  have hpop' : ∀ d, r.2.populating = some d → s.populating = some d := fun d hd => hpop ▸ hd
  have hlist : ∀ d, r.2.list d = s.list d := fun d => by rw [State.list, State.list, hdevices]
  have hdev : ∀ d, r.2.devices d = none ↔ s.devices d = none := fun d => by rw [hdevices]
  refine ⟨r, hr, ?_⟩
  obtain ⟨found, t⟩ := r
  rcases found with _ | b
  · rcases alloc with _ | a | a
    · obtain rfl := Option.some.inj h
      exact ⟨⟨rfl, rfl, nofun⟩, .inl ⟨hlist, fun a n hn => hsensors ▸ hn, hdev⟩⟩
    · dsimp only at h
      split_ifs at h with hfree
      obtain rfl := Option.some.inj h
      refine ⟨⟨rfl, rfl, nofun⟩, .inl ⟨hlist, fun b n hn => ?_, hdev⟩⟩
      have hne : b ≠ a := by
        rintro rfl
        rw [← hsensors, hfree.2] at hn
        cases hn
      exact (Function.update_of_ne hne ..).trans (hsensors ▸ hn)
    · dsimp only at h
      split_ifs at h with hfree
      obtain rfl := Option.some.inj h
      refine ⟨⟨rfl, rfl, hpop'⟩, .inr ⟨a, ?_, ?_, ?_⟩⟩
      · exact ⟨hdevices ▸ hfree.1, hsensors ▸ hfree.2⟩
      · rw [← hsensors]
      · rw [← hdevices, ← hlist]
  · obtain rfl := Option.some.inj h
    exact ⟨⟨rfl, rfl, hpop'⟩, .inl ⟨hlist, fun a n hn => hsensors ▸ hn, hdev⟩⟩

/-- **Every step keeps the heap in order.** -/
theorem step_inv {e : Event} (hs : Inv s) (h : step s e = some s') : Inv s' := by
  cases e with
  | acquire a =>
    simp only [step] at h
    split_ifs at h with hfree
    obtain rfl := Option.some.inj h
    refine hs.congr (fun dev => ?_) fun _ _ hn => hn
    obtain ⟨hself, hother⟩ := list_of_update s
      { s with devices := Function.update s.devices a (some []) } a (some []) rfl
    by_cases heq : dev = a
    · rw [heq, hself, State.list, hfree.2.1]
      rfl
    · exact hother dev heq
  | discover dev =>
    simp only [step] at h
    split_ifs at h <;> obtain rfl := Option.some.inj h
    · exact hs.congr (fun _ => rfl) fun _ _ hn => hn
    · exact hs
  | record name alloc =>
    obtain ⟨dev, -, h⟩ := Option.bind_eq_some_iff.mp h
    obtain ⟨-, -, -, ⟨hlist, hsensors, -⟩ | ⟨a, hfree, hsensors, hdevices⟩⟩ := populate_cases h
    · exact hs.congr hlist hsensors
    · obtain ⟨hself, hother⟩ := list_of_update s s' dev _ hdevices
      exact hs.add hfree.2 hsensors hself hother
  | finish =>
    obtain ⟨dev, -, rfl⟩ := Option.map_eq_some_iff.mp h
    exact hs.congr (fun _ => rfl) fun _ _ hn => hn
  | delete dev =>
    simp only [step] at h
    split_ifs at h
    obtain rfl := Option.some.inj h
    exact hs.delete dev
  | lookup dev name =>
    simp only [step] at h
    split_ifs at h
    obtain ⟨r, hr, rfl⟩ := Option.map_eq_some_iff.mp h
    obtain ⟨hdevices, hsensors, -⟩ := find_frame hr
    exact hs.congr (fun d => by rw [State.list, State.list, hdevices])
      fun _ _ hn => hsensors ▸ hn

/-- Every call of `find_sensor_by_name` in the course of the events meets `P` in its state. -/
def EveryCall (P : State → ℕ → CString → Prop) (events : List Event) : Prop :=
  ∀ before e after s dev name, events = before ++ e :: after →
    Transition.run step init before = some s → call? s e = some (dev, name) → P s dev name

/-- **The calls of a run are right exactly if each meets the condition** in its state. -/
theorem sensors_found_iff (events : List Event) :
    EveryCall Right events ↔ EveryCall Holds events := by
  have hpoint : ∀ before s dev name, Transition.run step init before = some s →
      (Right s dev name ↔ Holds s dev name) := by
    intro before s dev name hrun
    refine right_iff ?_ dev name
    exact (Transition.Reaches.of_run hrun).invariant Inv .init
      fun _ _ _ hs _ hstep => step_inv hs hstep
  constructor
  · exact fun hall before e after s dev name heq hrun hcall =>
      (hpoint before s dev name hrun).mp (hall before e after s dev name heq hrun hcall)
  · exact fun hall before e after s dev name heq hrun hcall =>
      (hpoint before s dev name hrun).mpr (hall before e after s dev name heq hrun hcall)

/-- A device is looked at, deleted and acquired again at the same address, and the address of its
sensor goes to another device's. -/
def reused : List Event :=
  [.acquire 0, .discover 0, .record ['a'] (.done 1), .finish, .lookup 0 ['a'], .delete 0,
    .acquire 0, .discover 0, .record ['b'] (.done 2), .finish,
    .acquire 5, .discover 5, .record ['a'] (.done 1), .finish]

/-- The sensor of the other device is found. -/
theorem not_sensors_found : ¬ ∀ events, EveryCall Right events := by
  intro hall
  have hrun : ∃ s, Transition.run step init reused = some s ∧
      find_sensor_by_name s 0 ['a'] = some (some 1, s) ∧ s.list 0 = [2] ∧
        call? s (.lookup 0 ['a']) = some (0, ['a']) := ⟨_, rfl, rfl, rfl, rfl⟩
  obtain ⟨s, hs, hfind, hlist, hcall⟩ := hrun
  obtain ⟨r, hr, hin, -⟩ :=
    hall (reused ++ [.lookup 0 ['a']]) reused _ [] s 0 ['a'] rfl hs hcall
  obtain rfl := Option.some.inj (hfind.symm.trans hr)
  have hmem := (hin 1 rfl).1
  rw [hlist] at hmem
  simp at hmem

end Amr.Api.Cache
