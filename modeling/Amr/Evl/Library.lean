/-
# The event library

`iEVL_Initialise`, `iEVL_CreateRecord`, `iEVL_BindCallback` and `iEVL_RaiseEvent` of `evl.c`. A
record holds the callbacks that are bound to an event as a chain of nodes from the heap; a raised
event is written to the log and handed to each callback of the chain. Records and nodes are named by
their order of allocation, and none is ever freed once it is in use. A result of `none` is a call
that does not return: it runs outside the heap or around a chain without an end.
-/
import Amr.Lib.LinkedCells

namespace Amr.Evl

open LinkedCells

inductive Status
  | OK
  | ERROR
  deriving DecidableEq, Repr

def EVL_LOG_LEN : ℕ := 100
def EVL_MAX_BINDINGS : ℕ := 10

structure EVLSignal where
  ucModule : UInt8
  ucEventType : UInt8
  ucInstance : UInt8
  ucAdditionalData : UInt8
  deriving DecidableEq, Repr

/-- A node of a chain, for callbacks named by `C`. -/
structure EVLCallbackNode (C : Type) where
  pxCallback : C
  pxNext : Option ℕ

structure EVLRecord where
  pxFirstBinding : Option ℕ
  iNumBindings : ℕ
  deriving DecidableEq, Repr

/-- The private data of the library, with its nodes and records. -/
structure Library (C : Type) where
  iIsInitialised : Bool
  iLogIdx : ℕ
  pxEvlLog : List EVLSignal
  pulLogTimes : List UInt32
  nodes : List (EVLCallbackNode C)
  records : List EVLRecord

/-- Which calls succeed while a callback is bound. A mutex that is not released is only counted. -/
structure BindCalls where
  taken : Bool
  allocated : Bool

/-- Which calls succeed while an event is raised, and what the callbacks return, by their turn. -/
structure RaiseCalls where
  logTaken : Bool
  logReleased : Bool
  recordTaken : Bool
  recordReleased : Bool
  ulOSAL_GetUptimeMs : UInt32
  answer : ℕ → Status

structure Raised (C : Type) where
  iStatus : Status
  calls : List C
  library : Library C

namespace Library

variable {C : Type}

/-- `xLocalData`. -/
def initial : Library C where
  iIsInitialised := false
  iLogIdx := 0
  pxEvlLog := List.replicate EVL_LOG_LEN ⟨0, 0, 0, 0⟩
  pulLogTimes := List.replicate EVL_LOG_LEN 0
  nodes := []
  records := []

/-! ### The heap -/

/-- `pxNext` of a node. -/
def next (e : Library C) (a : ℕ) : Option ℕ := (e.nodes[a]?).bind EVLCallbackNode.pxNext

/-- `pxCallback` of a node. -/
def callback (e : Library C) (a : ℕ) : Option C := (e.nodes[a]?).map EVLCallbackNode.pxCallback

/-- A new node, at the next free address. -/
def newNode (e : Library C) (pxNewCallback : C) : Library C :=
  { e with nodes := e.nodes ++ [⟨pxNewCallback, none⟩] }

def setNext (e : Library C) (a b : ℕ) : Library C :=
  { e with nodes := e.nodes.modify a fun n => { n with pxNext := some b } }

def setRecord (e : Library C) (r : ℕ) (x : EVLRecord) : Library C :=
  { e with records := e.records.set r x }

/-! ### The functions -/

def iEVL_Initialise (e : Library C) (created : Bool) : Status × Library C :=
  if e.iIsInitialised = false then
    if created then (.OK, { e with iIsInitialised := true })
    else (.ERROR, e)
  else (.ERROR, e)

/-- The record is freed again when its mutex cannot be created. -/
def iEVL_CreateRecord (e : Library C) (ppxRecord : Option (Option ℕ))
    (allocated created : Bool) : Status × Library C :=
  if e.iIsInitialised then
    match ppxRecord with
    | some none =>
      if allocated then
        if created then (.OK, { e with records := e.records ++ [⟨none, 0⟩] })
        else (.ERROR, e)
      else (.ERROR, e)
    | _ => (.ERROR, e)
  else (.ERROR, e)

def iEVL_BindCallback (e : Library C) (pxRecord : Option ℕ) (pxNewCallback : Option C)
    (o : BindCalls) : Option (Status × Library C) :=
  match pxRecord, pxNewCallback with
  | some r, some c =>
    if e.iIsInitialised then
      (e.records[r]?).bind fun x =>
        if x.iNumBindings < EVL_MAX_BINDINGS then
          if o.taken then
            if x.iNumBindings = 0 then
              if o.allocated then
                some (.OK, (e.newNode c).setRecord r ⟨some e.nodes.length, x.iNumBindings + 1⟩)
              else some (.ERROR, e)
            else
              match x.pxFirstBinding with
              | some first =>
                if o.allocated then
                  (lastCell (e.newNode c).next (e.newNode c).nodes.length first).map fun z =>
                    (.OK, ((e.newNode c).setNext z e.nodes.length).setRecord r
                      ⟨some first, x.iNumBindings + 1⟩)
                else some (.ERROR, e)
              | none => some (.ERROR, e)
          else some (.ERROR, e)
        else some (.ERROR, e)
    else some (.ERROR, e)
  | _, _ => some (.ERROR, e)

def log (e : Library C) (pxSignal : EVLSignal) (ulTime : UInt32) : Library C :=
  { e with
    pulLogTimes := e.pulLogTimes.set e.iLogIdx ulTime
    pxEvlLog := e.pxEvlLog.set e.iLogIdx pxSignal
    iLogIdx := if EVL_LOG_LEN ≤ e.iLogIdx + 1 then 0 else e.iLogIdx + 1 }

/-- The loop over the nodes of a record: each callback is called, and a failure sets the status. -/
def callEach (e : Library C) (answer : ℕ → Status) :
    ℕ → Option ℕ → List C → Status → Option (List C × Status)
  | _, none, calls, iStatus => some (calls, iStatus)
  | 0, some _, _, _ => none
  | fuel + 1, some a, calls, iStatus =>
    (e.nodes[a]?).bind fun n =>
      callEach e answer fuel n.pxNext (calls ++ [n.pxCallback])
        (if answer calls.length ≠ .OK then .ERROR else iStatus)

/-- The status of the loop is replaced when the mutex of the record has been released. -/
def iEVL_RaiseEvent (e : Library C) (pxRecord : Option ℕ) (pxSignal : Option EVLSignal)
    (o : RaiseCalls) : Option (Raised C) :=
  match pxRecord, pxSignal with
  | some r, some sig =>
    if e.iIsInitialised then
      if o.logTaken then
        if o.logReleased then
          (e.records[r]?).bind fun x =>
            if o.recordTaken then
              (callEach e o.answer e.nodes.length x.pxFirstBinding [] .ERROR).map fun w =>
                ⟨if o.recordReleased then .OK else w.2, w.1, e.log sig o.ulOSAL_GetUptimeMs⟩
            else some ⟨.ERROR, [], e.log sig o.ulOSAL_GetUptimeMs⟩
        else some ⟨.ERROR, [], e.log sig o.ulOSAL_GetUptimeMs⟩
      else some ⟨.ERROR, [], e⟩
    else some ⟨.ERROR, [], e⟩
  | _, _ => some ⟨.ERROR, [], e⟩

/-! ### What the heap operations change -/

theorem next_newNode {e : Library C} {c : C} {a : ℕ} (ha : a < e.nodes.length) :
    (e.newNode c).next a = e.next a := by
  simp [next, newNode, List.getElem?_append_left ha]

variable (e : Library C)

theorem next_new (c : C) : (e.newNode c).next e.nodes.length = none := by
  simp [next, newNode]

theorem callback_newNode {e : Library C} {c : C} {a : ℕ} (ha : a < e.nodes.length) :
    (e.newNode c).callback a = e.callback a := by
  simp [callback, newNode, List.getElem?_append_left ha]

theorem callback_new (c : C) :
    (e.newNode c).callback e.nodes.length = some c := by
  simp [callback, newNode]

@[simp] theorem length_newNode (c : C) :
    (e.newNode c).nodes.length = e.nodes.length + 1 := by
  simp [newNode]

theorem next_setNext {e : Library C} {z : ℕ} (b : ℕ) (hz : z < e.nodes.length) :
    (e.setNext z b).next z = some b := by
  simp [next, setNext, List.getElem?_modify, List.getElem?_eq_getElem hz]

theorem next_setNext_of_ne {z a : ℕ} (b : ℕ) (ha : a ≠ z) :
    (e.setNext z b).next a = e.next a := by
  simp [next, setNext, List.getElem?_modify, Ne.symm ha]

@[simp] theorem callback_setNext (z b a : ℕ) :
    (e.setNext z b).callback a = e.callback a := by
  by_cases ha : z = a
  · cases h : e.nodes[a]? <;> simp [callback, setNext, List.getElem?_modify, ha, h]
  · simp [callback, setNext, List.getElem?_modify, ha]

@[simp] theorem length_setNext (z b : ℕ) :
    (e.setNext z b).nodes.length = e.nodes.length := by
  simp [setNext]

@[simp] theorem next_setRecord (r : ℕ) (x : EVLRecord) :
    (e.setRecord r x).next = e.next := rfl

@[simp] theorem callback_setRecord (r : ℕ) (x : EVLRecord) :
    (e.setRecord r x).callback = e.callback := rfl

@[simp] theorem nodes_setRecord (r : ℕ) (x : EVLRecord) :
    (e.setRecord r x).nodes = e.nodes := rfl

@[simp] theorem records_newNode (c : C) :
    (e.newNode c).records = e.records := rfl

@[simp] theorem records_setNext (z b : ℕ) :
    (e.setNext z b).records = e.records := rfl

/-! ### The loop over the callbacks -/

/-- **Every callback of the chain is called once, in order, whatever the earlier ones return**, and
the status of the loop is the one it started with if none of them fails. -/
theorem callEach_eq {e : Library C} (answer : ℕ → Status) {p : Option ℕ} {cells : List ℕ}
    {bound : List C} (fuel : ℕ) (calls : List C) (iStatus : Status)
    (hspells : Spells e.next p cells) (hfuel : cells.length ≤ fuel)
    (hbound : cells.map e.callback = bound.map some) :
    ∃ status, e.callEach answer fuel p calls iStatus = some (calls ++ bound, status) ∧
      (iStatus = .ERROR → status = .ERROR) := by
  induction cells generalizing p fuel calls iStatus bound with
  | nil =>
    obtain rfl : p = none := hspells
    obtain rfl : bound = [] := by simpa using hbound.symm
    exact ⟨iStatus, by cases fuel <;> simp [callEach], fun h => h⟩
  | cons a cells ih =>
    obtain ⟨rfl, hrest⟩ := hspells
    cases bound with
    | nil => simp at hbound
    | cons c bound =>
      simp only [List.map_cons, List.cons.injEq] at hbound
      obtain ⟨hc, hbound⟩ := hbound
      obtain ⟨n, hn, hnc⟩ := Option.map_eq_some_iff.mp hc
      obtain ⟨fuel, rfl⟩ : ∃ k, fuel = k + 1 :=
        ⟨fuel - 1, by simp only [List.length_cons] at hfuel; omega⟩
      have hnext : e.next a = n.pxNext := by rw [next, hn, Option.bind_some]
      rw [hnext] at hrest
      obtain ⟨status, hloop, hstatus⟩ :=
        ih fuel (calls ++ [n.pxCallback])
          (if answer calls.length ≠ .OK then .ERROR else iStatus) hrest
          (Nat.le_of_succ_le_succ hfuel) hbound
      refine ⟨status, ?_, fun herror => hstatus ?_⟩
      · rw [callEach, hn, Option.bind_some, hloop, hnc]
        simp
      · rw [herror, ite_self]

end Library

end Amr.Evl
