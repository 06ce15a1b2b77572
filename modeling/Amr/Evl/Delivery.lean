/-
# Which callbacks a raised event reaches

Records are created, callbacks are bound to them and events are raised in any order, with any of the
system calls and callbacks failing. A raised event is handed to exactly the callbacks whose binding
was accepted for its record, once and in the order of the bindings. The status says whether all of
them succeeded only when they did, as it is set to OK behind the loop that has collected it.
-/
import Amr.Evl.Library
import Amr.Lib.Transition

namespace Amr.Evl

open LinkedCells Transition

structure Binding (C : Type) where
  record : ℕ
  callback : C

/-- The library, and the bindings that it has accepted, in their order. -/
structure System (C : Type) where
  library : Library C
  accepted : List (Binding C)

inductive Action (C : Type)
  | initialise (created : Bool)
  | createRecord (ppxRecord : Option (Option ℕ)) (allocated created : Bool)
  | bindCallback (pxRecord : Option ℕ) (pxNewCallback : Option C) (o : BindCalls)
  | raiseEvent (pxRecord : Option ℕ) (pxSignal : Option EVLSignal) (o : RaiseCalls)

variable {C : Type}

/-- A handle is NULL or that of a record. -/
def Library.Knows (e : Library C) (pxRecord : Option ℕ) : Prop :=
  ∀ r ∈ pxRecord, r < e.records.length

instance (e : Library C) (pxRecord : Option ℕ) : Decidable (e.Knows pxRecord) :=
  inferInstanceAs (Decidable (∀ r ∈ pxRecord, r < e.records.length))

namespace System

def start : System C := ⟨.initial, []⟩

/-- The callbacks that are bound to a record, in the order of their bindings. -/
def bound (s : System C) (r : ℕ) : List C :=
  s.accepted.filterMap fun b => if b.record = r then some b.callback else none

def answered (s : System C) (pxRecord : Option ℕ) (pxNewCallback : Option C) :
    Status × Library C → System C
  | (.OK, e) =>
    ⟨e, s.accepted ++ (pxRecord.bind fun r => pxNewCallback.map fun c => ⟨r, c⟩).toList⟩
  | (.ERROR, e) => ⟨e, s.accepted⟩

/-- A call that does not return leaves the system where it is. -/
def step (s : System C) : Action C → Option (System C)
  | .initialise created => some { s with library := (s.library.iEVL_Initialise created).2 }
  | .createRecord ppxRecord allocated created =>
    some { s with library := (s.library.iEVL_CreateRecord ppxRecord allocated created).2 }
  | .bindCallback pxRecord pxNewCallback o =>
    if s.library.Knows pxRecord then
      some ((s.library.iEVL_BindCallback pxRecord pxNewCallback o).elim s
        (s.answered pxRecord pxNewCallback))
    else none
  | .raiseEvent pxRecord pxSignal o =>
    if s.library.Knows pxRecord then
      some ((s.library.iEVL_RaiseEvent pxRecord pxSignal o).elim s
        fun x => { s with library := x.library })
    else none

/-- A binding returns and, if it is refused, changes nothing; an event that is raised on a record
is handed to each of its callbacks once and in order, and the status tells whether all of them
succeeded. -/
def Faithful (s : System C) : Action C → System C → Prop
  | .bindCallback pxRecord pxNewCallback o, _ =>
    ∃ x, s.library.iEVL_BindCallback pxRecord pxNewCallback o = some x ∧
      (x.1 ≠ .OK → x.2 = s.library)
  | .raiseEvent (some r) (some sig) o, _ =>
    ∃ x, s.library.iEVL_RaiseEvent (some r) (some sig) o = some x ∧ x.calls = s.bound r ∧
      (x.iStatus = .OK ↔ ∀ i < (s.bound r).length, o.answer i = .OK)
  | _, _ => True

/-- The mutexes are had, and that of the record is released just when no callback fails. -/
def Delivered (s : System C) : Action C → Prop
  | .raiseEvent (some r) (some _) o =>
    o.logTaken ∧ o.logReleased ∧ o.recordTaken ∧
      (o.recordReleased ↔ ∀ i < (s.bound r).length, o.answer i = .OK)
  | _ => True

instance (s : System C) (a : Action C) : Decidable (s.Delivered a) := by
  unfold Delivered
  split <;> infer_instance

/-! ### The chains of the records -/

/-- The records have chains of their own nodes, one node for each accepted binding. -/
structure Held (s : System C) (cells : ℕ → List ℕ) : Prop where
  initialised : s.library.records ≠ [] → s.library.iIsInitialised = true
  chain : ∀ r x, s.library.records[r]? = some x →
    Spells s.library.next x.pxFirstBinding (cells r) ∧ x.iNumBindings = (cells r).length
  callbacks : ∀ r, (cells r).map s.library.callback = (s.bound r).map some
  allocated : ∀ r, ∀ a ∈ cells r, a < s.library.nodes.length
  apart : ∀ r r' a, a ∈ cells r → a ∈ cells r' → r = r'
  none_beyond : ∀ r, s.library.records.length ≤ r → cells r = []

def Inv (s : System C) : Prop := ∃ cells, s.Held cells

theorem inv_start : (start : System C).Inv :=
  ⟨fun _ => [], fun h => absurd rfl h, fun r x h => by simp [start, Library.initial] at h,
    fun _ => rfl, fun _ a ha => by simp at ha, fun _ _ a ha => by simp at ha, fun _ _ => rfl⟩

variable {s : System C} {cells : ℕ → List ℕ}

theorem Held.createRecord (h : s.Held cells)
    (hinit : s.library.iIsInitialised = true) :
    Held { s with library := { s.library with records := s.library.records ++ [⟨none, 0⟩] } }
      cells where
  initialised := fun _ => hinit
  chain := by
    intro r x hx
    rcases Nat.lt_trichotomy r s.library.records.length with hr | rfl | hr
    · exact h.chain r x (by simpa only [List.getElem?_append_left hr] using hx)
    · obtain rfl : ⟨none, 0⟩ = x := by simpa using hx
      rw [h.none_beyond _ le_rfl]
      exact ⟨rfl, rfl⟩
    · have : s.library.records.length + 1 ≤ r := hr
      simp [List.getElem?_append_right hr.le, show r - s.library.records.length ≠ 0 by omega]
        at hx
  callbacks := h.callbacks
  allocated := h.allocated
  apart := h.apart
  none_beyond := fun r hr => h.none_beyond r (by
    simp only [List.length_append, List.length_singleton] at hr
    omega)

/-- **A node that ends the chain of a record binds its callback behind the others**: the library
`e` holds the new node, and the links of the other chains are as they were. -/
theorem Held.bindCallback (h : s.Held cells) {e : Library C}
    {r : ℕ} {c : C} {x y : EVLRecord} (hx : s.library.records[r]? = some x)
    (hinit : e.iIsInitialised = s.library.iIsInitialised)
    (hrecords : e.records = s.library.records.set r y)
    (hlength : e.nodes.length = s.library.nodes.length + 1)
    (hspells : Spells e.next y.pxFirstBinding (cells r ++ [s.library.nodes.length]))
    (hcount : y.iNumBindings = x.iNumBindings + 1)
    (hnext : ∀ r' ≠ r, ∀ a ∈ cells r', e.next a = s.library.next a)
    (hcallback : ∀ a < s.library.nodes.length, e.callback a = s.library.callback a)
    (hnew : e.callback s.library.nodes.length = some c) :
    Held ⟨e, s.accepted ++ [⟨r, c⟩]⟩
      (Function.update cells r (cells r ++ [s.library.nodes.length])) := by
  have hr : r < s.library.records.length := (List.getElem?_eq_some_iff.mp hx).1
  have hfresh : ∀ r', s.library.nodes.length ∉ cells r' := fun r' hmem =>
    lt_irrefl _ (h.allocated r' _ hmem)
  have hcells : ∀ r', ∀ a ∈ Function.update cells r (cells r ++ [s.library.nodes.length]) r',
      a ∈ cells r' ∨ r' = r ∧ a = s.library.nodes.length := by
    intro r' a ha
    by_cases hr' : r' = r
    · subst hr'
      simpa using ha
    · exact .inl (by simpa [hr'] using ha)
  refine ⟨fun _ => ?_, ?_, ?_, ?_, ?_, ?_⟩
  · rw [hinit]
    exact h.initialised (List.ne_nil_of_length_pos (Nat.zero_lt_of_lt hr))
  · intro r' x' hx'
    simp only [hrecords] at hx'
    by_cases hr' : r' = r
    · subst hr'
      obtain rfl : y = x' := by simpa [List.getElem?_set, hr] using hx'
      rw [Function.update_self, List.length_append, List.length_singleton, hcount,
        (h.chain r' x hx).2]
      exact ⟨hspells, rfl⟩
    · rw [Function.update_of_ne hr']
      rw [List.getElem?_set_ne (Ne.symm hr')] at hx'
      exact ⟨(h.chain r' x' hx').1.frame (hnext r' hr'), (h.chain r' x' hx').2⟩
  · intro r'
    have hold : (cells r').map e.callback = (s.bound r').map some := by
      rw [← h.callbacks r']
      exact List.map_congr_left fun a ha => hcallback a (h.allocated r' a ha)
    by_cases hr' : r' = r
    · subst hr'
      simp only [bound] at hold
      simp [bound, hold, hnew]
    · simp only [bound] at hold
      simp [bound, hold, hr', Ne.symm hr']
  · intro r' a ha
    rcases hcells r' a ha with ha | ⟨-, rfl⟩
    · exact lt_of_lt_of_eq (Nat.lt_succ_of_lt (h.allocated r' a ha)) hlength.symm
    · exact lt_of_lt_of_eq (Nat.lt_succ_self _) hlength.symm
  · intro r₁ r₂ a h₁ h₂
    rcases hcells r₁ a h₁ with hold | ⟨hr₁, hnew₁⟩ <;>
      rcases hcells r₂ a h₂ with hold' | ⟨hr₂, hnew₂⟩
    · exact h.apart r₁ r₂ a hold hold'
    · exact absurd (hnew₂ ▸ hold) (hfresh r₁)
    · exact absurd (hnew₁ ▸ hold') (hfresh r₂)
    · exact hr₁.trans hr₂.symm
  · intro r' hr'
    simp only [hrecords, List.length_set] at hr'
    have hne : r' ≠ r := by omega
    rw [Function.update_of_ne hne]
    exact h.none_beyond r' hr'

theorem iEVL_BindCallback_cases (h : s.Held cells)
    (pxRecord : Option ℕ) (pxNewCallback : Option C) (o : BindCalls)
    (hknows : s.library.Knows pxRecord) :
    s.library.iEVL_BindCallback pxRecord pxNewCallback o = some (.ERROR, s.library) ∨
      ∃ r c e, pxRecord = some r ∧ pxNewCallback = some c ∧
        s.library.iEVL_BindCallback pxRecord pxNewCallback o = some (.OK, e) ∧
        Held ⟨e, s.accepted ++ [⟨r, c⟩]⟩
          (Function.update cells r (cells r ++ [s.library.nodes.length])) := by
  cases pxRecord with
  | none => exact .inl rfl
  | some r =>
  cases pxNewCallback with
  | none => exact .inl rfl
  | some c =>
  have hr : r < s.library.records.length := hknows r rfl
  obtain ⟨x, hx⟩ : ∃ x, s.library.records[r]? = some x :=
    ⟨_, List.getElem?_eq_getElem hr⟩
  have hinit : s.library.iIsInitialised = true :=
    h.initialised (List.ne_nil_of_length_pos (Nat.zero_lt_of_lt hr))
  obtain ⟨hspells, hcount⟩ := h.chain r x hx
  simp only [Library.iEVL_BindCallback, hinit, hx, if_true, Option.bind_some]
  by_cases hmax : x.iNumBindings < EVL_MAX_BINDINGS
  swap
  · exact .inl (if_neg hmax)
  rw [if_pos hmax]
  cases htaken : o.taken
  · exact .inl rfl
  simp only [if_true]
  by_cases hfirst : x.iNumBindings = 0
  · -- the first binding of the record
    rw [if_pos hfirst]
    have hnil : cells r = [] := List.length_eq_zero_iff.mp (hcount ▸ hfirst)
    cases halloc : o.allocated
    · exact .inl rfl
    refine .inr ⟨r, c, _, rfl, rfl, rfl, h.bindCallback hx rfl rfl (by simp) ?_ rfl ?_ ?_ ?_⟩
    · simp [hnil, Library.next_new]
    · exact fun r' _ a ha => Library.next_newNode (h.allocated r' a ha)
    · exact fun a ha => Library.callback_newNode ha
    · simp [Library.callback_new]
  · -- the last node of the chain is linked to the new one
    rw [if_neg hfirst]
    have hne : cells r ≠ [] := fun hnil => hfirst (by rw [hcount, hnil]; rfl)
    obtain ⟨z, hz⟩ : ∃ z, (cells r).getLast? = some z := ⟨_, List.getLast?_eq_some_getLast hne⟩
    have hzmem : z ∈ cells r := List.mem_of_getLast? hz
    have hzalloc : z < s.library.nodes.length := h.allocated r z hzmem
    obtain ⟨a, rest, hcells⟩ := List.exists_cons_of_ne_nil hne
    have hp : x.pxFirstBinding = some a := by
      rw [hcells] at hspells
      exact hspells.1
    simp only [hp]
    cases halloc : o.allocated
    · exact .inl rfl
    have hnew : Spells (s.library.newNode c).next (some a) (cells r) := by
      rw [← hp]
      exact hspells.frame fun b hb => Library.next_newNode (h.allocated r b hb)
    have hlast : lastCell (s.library.newNode c).next (s.library.newNode c).nodes.length a
        = some z := by
      rw [hnew.lastCell_eq (hnew.length_le fun b hb => ?_), hz]
      simpa using Nat.lt_succ_of_lt (h.allocated r b hb)
    have hznew : z < (s.library.newNode c).nodes.length := by
      simpa using Nat.lt_succ_of_lt hzalloc
    simp only [if_true, hlast, Option.map_some]
    refine .inr ⟨r, c, _, rfl, rfl, rfl, h.bindCallback hx rfl rfl (by simp) ?_ rfl ?_ ?_ ?_⟩
    · refine hnew.snoc hz (Library.next_setNext _ hznew) ?_
        fun b hb hbz => Library.next_setNext_of_ne _ _ hbz
      rw [Library.next_setRecord, Library.next_setNext_of_ne _ _ hzalloc.ne', Library.next_new]
    · intro r' hr' b hb
      have hbz : b ≠ z := by
        rintro rfl
        exact hr' (h.apart r' r b hb hzmem)
      rw [Library.next_setRecord, Library.next_setNext_of_ne _ _ hbz,
        Library.next_newNode (h.allocated r' b hb)]
    · intro b hb
      rw [Library.callback_setRecord, Library.callback_setNext, Library.callback_newNode hb]
    · rw [Library.callback_setRecord, Library.callback_setNext, Library.callback_new]

/-! ### A raised event -/

theorem Held.log (h : s.Held cells) (sig : EVLSignal)
    (t : UInt32) : Held { s with library := s.library.log sig t } cells :=
  ⟨h.initialised, h.chain, h.callbacks, h.allocated, h.apart, h.none_beyond⟩

/-- **An event whose mutexes are had is handed to every callback**; the status is that of the
release alone. -/
theorem iEVL_RaiseEvent_eq (h : s.Held cells) {r : ℕ}
    (hr : r < s.library.records.length) (sig : EVLSignal) {o : RaiseCalls}
    (hlog : o.logTaken = true) (hlog' : o.logReleased = true) (hrecord : o.recordTaken = true) :
    s.library.iEVL_RaiseEvent (some r) (some sig) o = some
      ⟨if o.recordReleased then .OK else .ERROR, s.bound r,
        s.library.log sig o.ulOSAL_GetUptimeMs⟩ := by
  obtain ⟨x, hx⟩ : ∃ x, s.library.records[r]? = some x :=
    ⟨_, List.getElem?_eq_getElem hr⟩
  have hinit : s.library.iIsInitialised = true :=
    h.initialised (List.ne_nil_of_length_pos (Nat.zero_lt_of_lt hr))
  obtain ⟨hspells, -⟩ := h.chain r x hx
  obtain ⟨status, hloop, hstatus⟩ := Library.callEach_eq o.answer s.library.nodes.length [] .ERROR
    hspells (hspells.length_le (h.allocated r)) (h.callbacks r)
  simp only [Library.iEVL_RaiseEvent, hinit, hlog, hlog', hrecord, hx, if_true, Option.bind_some,
    hloop, Option.map_some, hstatus rfl, List.nil_append]

theorem iEVL_RaiseEvent_of_not (h : s.Held cells) {r : ℕ}
    (hr : r < s.library.records.length) (sig : EVLSignal) {o : RaiseCalls}
    (ho : ¬ (o.logTaken = true ∧ o.logReleased = true ∧ o.recordTaken = true)) :
    ∃ x, s.library.iEVL_RaiseEvent (some r) (some sig) o = some x ∧ x.iStatus = .ERROR ∧
      x.calls = [] ∧
      (x.library = s.library ∨ x.library = s.library.log sig o.ulOSAL_GetUptimeMs) := by
  obtain ⟨x, hx⟩ : ∃ x, s.library.records[r]? = some x :=
    ⟨_, List.getElem?_eq_getElem hr⟩
  have hinit : s.library.iIsInitialised = true :=
    h.initialised (List.ne_nil_of_length_pos (Nat.zero_lt_of_lt hr))
  simp only [Library.iEVL_RaiseEvent, hinit, hx, if_true, Option.bind_some]
  cases hlog : o.logTaken
  · exact ⟨_, rfl, rfl, rfl, .inl rfl⟩
  cases hlog' : o.logReleased
  · exact ⟨_, rfl, rfl, rfl, .inr rfl⟩
  cases hrecord : o.recordTaken
  · exact ⟨_, rfl, rfl, rfl, .inr rfl⟩
  · exact absurd ⟨hlog, hlog', hrecord⟩ ho

/-! ### Every run -/

theorem inv_step {s s' : System C} {a : Action C} (h : s.Inv) (hstep : s.step a = some s') :
    s'.Inv := by
  obtain ⟨cells, h⟩ := h
  cases a with
  | initialise created =>
    obtain rfl := Option.some.inj hstep
    refine ⟨cells, ⟨fun hne => ?_, ?_, ?_, ?_, ?_, ?_⟩⟩ <;>
      simp only [Library.iEVL_Initialise] at * <;> split_ifs at *
    all_goals first | exact h.initialised hne | rfl | exact h.chain | exact h.callbacks |
      exact h.allocated | exact h.apart | exact h.none_beyond
  | createRecord ppxRecord allocated created =>
    obtain rfl := Option.some.inj hstep
    refine ⟨cells, ?_⟩
    by_cases hinit : s.library.iIsInitialised = true
    · rcases ppxRecord with _ | _ | p <;> simp only [Library.iEVL_CreateRecord, if_pos hinit]
      · exact h
      · cases allocated
        · exact h
        · cases created
          · exact h
          · exact h.createRecord hinit
      · exact h
    · simpa only [Library.iEVL_CreateRecord, if_neg hinit] using h
  | bindCallback pxRecord pxNewCallback o =>
    simp only [step] at hstep
    split_ifs at hstep with hknows
    obtain rfl := Option.some.inj hstep
    rcases iEVL_BindCallback_cases h pxRecord pxNewCallback o hknows with
      hrun | ⟨r, c, e, rfl, rfl, hrun, hheld⟩
    · rw [hrun]
      exact ⟨cells, h⟩
    · rw [hrun]
      exact ⟨_, hheld⟩
  | raiseEvent pxRecord pxSignal o =>
    simp only [step] at hstep
    split_ifs at hstep with hknows
    obtain rfl := Option.some.inj hstep
    cases pxRecord with
    | none => exact ⟨cells, h⟩
    | some r =>
    cases pxSignal with
    | none => exact ⟨cells, h⟩
    | some sig =>
    by_cases ho : o.logTaken = true ∧ o.logReleased = true ∧ o.recordTaken = true
    · rw [iEVL_RaiseEvent_eq h (hknows r rfl) sig ho.1 ho.2.1 ho.2.2]
      exact ⟨cells, h.log sig _⟩
    · obtain ⟨x, hrun, -, -, hlibrary⟩ := iEVL_RaiseEvent_of_not h (hknows r rfl) sig ho
      rw [hrun]
      rcases hlibrary with hlibrary | hlibrary
      · exact ⟨cells, by simpa only [Option.elim_some, hlibrary] using h⟩
      · exact ⟨cells, by simpa only [Option.elim_some, hlibrary] using h.log sig _⟩

theorem faithful_iff {s s' : System C} {a : Action C} (h : s.Inv) (hstep : s.step a = some s') :
    s.Faithful a s' ↔ s.Delivered a := by
  obtain ⟨cells, h⟩ := h
  cases a with
  | initialise created => exact Iff.rfl
  | createRecord ppxRecord allocated created => exact Iff.rfl
  | bindCallback pxRecord pxNewCallback o =>
    simp only [step] at hstep
    split_ifs at hstep with hknows
    refine ⟨fun _ => trivial, fun _ => ?_⟩
    rcases iEVL_BindCallback_cases h pxRecord pxNewCallback o hknows with
      hrun | ⟨r, c, e, -, -, hrun, -⟩
    · exact ⟨_, hrun, fun _ => rfl⟩
    · exact ⟨_, hrun, fun hne => absurd rfl hne⟩
  | raiseEvent pxRecord pxSignal o =>
    simp only [step] at hstep
    split_ifs at hstep with hknows
    cases pxRecord with
    | none => exact Iff.rfl
    | some r =>
    cases pxSignal with
    | none => exact Iff.rfl
    | some sig =>
    have hr : r < s.library.records.length := hknows r rfl
    by_cases ho : o.logTaken = true ∧ o.logReleased = true ∧ o.recordTaken = true
    · have hrun := iEVL_RaiseEvent_eq h hr sig ho.1 ho.2.1 ho.2.2
      have hstatus : (if o.recordReleased then Status.OK else .ERROR) = .OK ↔
          o.recordReleased = true := by
        cases o.recordReleased <;> simp
      constructor
      · rintro ⟨x, hx, -, hall⟩
        obtain rfl := Option.some.inj (hrun.symm.trans hx)
        exact ⟨ho.1, ho.2.1, ho.2.2, hstatus.symm.trans hall⟩
      · rintro ⟨-, -, -, hall⟩
        exact ⟨_, hrun, rfl, hstatus.trans hall⟩
    · obtain ⟨y, hrun, hstatus, hcalls, -⟩ := iEVL_RaiseEvent_of_not h hr sig ho
      refine ⟨?_, fun hdelivered => absurd ⟨hdelivered.1, hdelivered.2.1, hdelivered.2.2.1⟩ ho⟩
      rintro ⟨x, hx, hbound, hall⟩
      obtain rfl := Option.some.inj (hrun.symm.trans hx)
      -- nobody was called, so nobody is bound and the status had to be OK
      have hnil : s.bound r = [] := hbound.symm.trans hcalls
      have hok : y.iStatus = .OK := hall.mpr (by simp [hnil])
      exact absurd (hstatus.symm.trans hok) (by simp)

/-- **In every run, every refused binding changes nothing and every raised event calls the callbacks
of its record once, in the order of their bindings, and reports whether all of them succeeded, just
when the mutexes are had at every event and the last release succeeds as long as no callback
fails.** -/
theorem events_faithful_iff (as : List (Action C)) {s : System C}
    (hrun : run step start as = some s) :
    Along step Faithful start as ↔ run (guarded step Delivered) start as = some s :=
  along_iff (P := Faithful) (I := Inv) (fun _ _ _ h hstep _ => inv_step h hstep)
    (fun _ _ _ h hstep => faithful_iff h hstep) as inv_start hrun

/-- Two callbacks are bound to a record, and both of them succeed. -/
def twoCallbacks (answer : ℕ → Status) : List (Action Bool) :=
  [.initialise true, .createRecord (some none) true true,
    .bindCallback (some 0) (some false) ⟨true, true⟩,
    .bindCallback (some 0) (some true) ⟨true, true⟩,
    .raiseEvent (some 0) (some ⟨1, 2, 3, 4⟩) ⟨true, true, true, true, 5, answer⟩]

theorem twoCallbacks_faithful :
    Along step Faithful start (twoCallbacks fun _ => .OK) := by
  have hany : (run (guarded step Delivered) start (twoCallbacks fun _ => .OK)).isSome := by
    decide +kernel
  obtain ⟨s, hs⟩ := Option.isSome_iff_exists.mp hany
  exact (events_faithful_iff (twoCallbacks fun _ => .OK) (run_of_guarded _ hs)).mpr hs

/-- The first of two callbacks fails, and the event is reported as handled. -/
theorem not_events_faithful :
    ¬ ∀ (as : List (Action Bool)) (s : System Bool), run step start as = some s →
      Along step Faithful start as := by
  intro hall
  have hany : (run step start (twoCallbacks fun i => if i = 0 then .ERROR else .OK)).isSome := by
    decide +kernel
  obtain ⟨s, hs⟩ := Option.isSome_iff_exists.mp hany
  have hfaithful := hall _ s hs
  obtain ⟨x, hx, -, hstatus⟩ :=
    (((((hfaithful _ rfl).2 _ rfl).2 _ rfl).2 _ rfl).2 _ rfl).1
  have hok : x.iStatus = .OK := by
    obtain rfl := Option.some.inj hx
    rfl
  exact absurd (hstatus.mp hok 0 (by decide)) (by decide)

end System

end Amr.Evl
