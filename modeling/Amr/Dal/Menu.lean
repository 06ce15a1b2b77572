/-
# The debug menu

`iDAL_Initialise`, the functions that add items, `xNewMenuItem` and `iSelectOption` of `dal.c`, and
the commands of `vProcessCmd` that change the level. A menu option links to its parent, to its next
sibling and, through a union with its debug function, to its first child; the first child also links
to the last one. Options are named by their order of allocation and are never freed. A result of
`none` is an access outside the heap or through the wrong member of the union.

A debug function is named by `F`. Counts are natural numbers: an option takes more than its fifty
bytes of name out of a memory of 32 bits of address, so no `int` that counts options overflows.
-/
import Amr.Lib.LinkPaths
import Amr.Lib.LinkedCells

namespace Amr.Dal

inductive Status
  | OK
  | ERROR
  deriving DecidableEq, Repr

inductive DAL_MENU_OPTION_TYPE
  | DIR
  | FUNC
  deriving DecidableEq, Repr

/-- The member of the union that was written last; a null pointer is the same in both. -/
inductive DALMenuAction (F : Type)
  | null
  | pxDebugFunc (f : F)
  | pxLevelDown (h : ℕ)

structure DALMenuOption (F : Type) where
  pcName : List UInt8
  xNodeType : DAL_MENU_OPTION_TYPE
  xAction : DALMenuAction F
  pxLevelUp : Option ℕ
  pxNextNode : Option ℕ
  pxLastNode : Option ℕ
  iNumNodes : ℕ
  iDepth : ℤ

def DAL_MAX_NAME_LEN : ℕ := 50
def DAL_START_IDX : ℤ := 1
def DAL_TOP_MENU_NAME : List UInt8 := [42]

/-- The private data, and the heap: the options with an address below `count` are allocated. -/
structure Menu (F : Type) where
  iIsInitialised : Bool
  pcMenuName : List UInt8
  pxTopLevel : Option ℕ
  pxCurrentLevel : Option ℕ
  count : ℕ
  node : ℕ → DALMenuOption F

/-- What a selection has led to: the debug function that was called, if any. -/
structure Selected (F : Type) where
  iStatus : Status
  called : Option F
  menu : Menu F

/-- Which calls succeed during the initialisation, and what is in the memory of the top level. -/
structure InitCalls where
  mutex : Bool
  task : Bool
  allocated : Bool
  garbage : ℤ

/-- Which calls succeed while an item is added. A mutex that is not released is only counted. -/
structure AddCalls where
  taken : Bool
  allocated : Bool

/-- The kinds of link that lead down the menu. -/
inductive Link
  | levelDown
  | nextNode
  deriving DecidableEq, Repr

variable {F : Type}

/-- `pxLevelDown` of the union. -/
def DALMenuAction.levelDown : DALMenuAction F → Option (Option ℕ)
  | .null => some none
  | .pxDebugFunc _ => none
  | .pxLevelDown h => some (some h)

namespace Menu

/-- `xLocalData`, with a heap that nothing is allocated on. -/
def initial : Menu F where
  iIsInitialised := false
  pcMenuName := []
  pxTopLevel := none
  pxCurrentLevel := none
  count := 0
  node := fun _ => ⟨[], .DIR, .null, none, none, none, 0, 0⟩

/-! ### The heap -/

def read (m : Menu F) (a : ℕ) : Option (DALMenuOption F) :=
  if a < m.count then some (m.node a) else none

/-- A new option, at the next free address. -/
def append (m : Menu F) (n : DALMenuOption F) : Menu F :=
  { m with count := m.count + 1, node := Function.update m.node m.count n }

def put (m : Menu F) (a : ℕ) (f : DALMenuOption F → DALMenuOption F) : Menu F :=
  { m with node := Function.update m.node a (f (m.node a)) }

/-- `pxNextNode` of an option. -/
def next (m : Menu F) (a : ℕ) : Option ℕ := (m.node a).pxNextNode

/-- `pxLevelDown` of a directory. -/
def down (m : Menu F) (a : ℕ) : Option ℕ :=
  match (m.node a).xAction with
  | .pxLevelDown h => some h
  | _ => none

def go (m : Menu F) : Link → ℕ → Option ℕ
  | .levelDown => m.down
  | .nextNode => m.next

/-! ### The functions -/

def iDAL_Initialise (m : Menu F) (pcMenuName : Option (List UInt8)) (pxPrintInitBanner : Bool)
    (o : InitCalls) : Status × Menu F :=
  match pcMenuName with
  | some name =>
    if name.length ≤ DAL_MAX_NAME_LEN ∧ m.iIsInitialised = false ∧ pxPrintInitBanner = true then
      if o.mutex = false then (.ERROR, m)
      else if o.task = false then (.ERROR, m)
      else if o.allocated then
        (.OK, { m.append ⟨DAL_TOP_MENU_NAME, .DIR, .null, none, none, none, 0, o.garbage⟩ with
          pcMenuName := name
          pxTopLevel := some m.count
          pxCurrentLevel := some m.count
          iIsInitialised := true })
      else (.ERROR, m)
    else (.ERROR, m)
  | none => (.ERROR, m)

/-- The new option `a` becomes the last one of the directory `p`. -/
def appendToParent (m : Menu F) (p a : ℕ) : Option (Menu F) :=
  match (m.node p).xAction with
  | .null =>
    some ((m.put p fun n => { n with xAction := .pxLevelDown a }).put a fun n =>
      { n with pxNextNode := none, pxLastNode := none, iNumNodes := 1 })
  | .pxDebugFunc _ => none
  | .pxLevelDown first =>
    (m.read first).bind fun x =>
      (match x.pxNextNode with
        | none =>
          some (m.put first fun n => { n with pxNextNode := some a, pxLastNode := some a })
        | some _ =>
          x.pxLastNode.bind fun l => (m.read l).map fun _ =>
            (m.put l fun n => { n with pxNextNode := some a }).put first fun n =>
              { n with pxLastNode := some a }).map fun (m : Menu F) =>
      m.put first fun n => { n with iNumNodes := n.iNumNodes + 1 }

def newOption (name : List UInt8) (pxParent : ℕ) (pxFunction : Option F) (iDepth : ℤ) :
    DALMenuOption F where
  pcName := name
  xNodeType := if pxFunction.isSome then .FUNC else .DIR
  xAction := pxFunction.elim .null .pxDebugFunc
  pxLevelUp := some pxParent
  pxNextNode := none
  pxLastNode := none
  iNumNodes := 0
  iDepth := iDepth

def xNewMenuItem (m : Menu F) (pcItemName : Option (List UInt8)) (pxParent : Option ℕ)
    (pxFunction : Option F) (allocated : Bool) : Option (Option ℕ × Menu F) :=
  match pcItemName, pxParent with
  | some name, some p =>
    (m.read p).bind fun parent =>
      if name.length ≤ DAL_MAX_NAME_LEN ∧ parent.xNodeType = .DIR ∧ m.iIsInitialised = true then
        if allocated then
          (((m.append (newOption name p pxFunction (parent.iDepth + 1))).put p fun n =>
              { n with iNumNodes := n.iNumNodes + 1 }).appendToParent p m.count).map
            fun m' => (some m.count, m')
        else some (none, m)
      else some (none, m)
  | _, _ => some (none, m)

def pxDAL_NewDirectory (m : Menu F) (pcDirName : Option (List UInt8)) (o : AddCalls) :
    Option (Option ℕ × Menu F) :=
  if m.iIsInitialised = true ∧ pcDirName.isSome then
    if o.taken then m.xNewMenuItem pcDirName m.pxTopLevel none o.allocated
    else some (none, m)
  else some (none, m)

/-- The rest of `pxDAL_NewSubDirectory` and `pxDAL_NewDebugFunction` behind their checks. -/
def newUnder (m : Menu F) (pcItemName : Option (List UInt8)) (pxParent : Option ℕ)
    (pxFunction : Option F) (o : AddCalls) : Option (Option ℕ × Menu F) :=
  match pxParent with
  | none => some (none, m)
  | some p =>
    (m.read p).bind fun parent =>
      if parent.xNodeType = .DIR then
        if o.taken then m.xNewMenuItem pcItemName pxParent pxFunction o.allocated
        else some (none, m)
      else some (none, m)

def pxDAL_NewSubDirectory (m : Menu F) (pcSubDirName : Option (List UInt8))
    (pxParent : Option ℕ) (o : AddCalls) : Option (Option ℕ × Menu F) :=
  if m.iIsInitialised = true ∧ pcSubDirName.isSome then m.newUnder pcSubDirName pxParent none o
  else some (none, m)

def pxDAL_NewDebugFunction (m : Menu F) (pcFunctionName : Option (List UInt8))
    (pxParent : Option ℕ) (pxFunction : Option F) (o : AddCalls) :
    Option (Option ℕ × Menu F) :=
  if m.iIsInitialised = true ∧ pcFunctionName.isSome ∧ pxFunction.isSome then
    m.newUnder pcFunctionName pxParent pxFunction o
  else some (none, m)

/-- The loop of `iSelectOption`: at most `links` links are followed. -/
def walk (m : Menu F) : ℕ → Option ℕ → Option (Option ℕ)
  | _, none => some none
  | 0, some a => some (some a)
  | links + 1, some a => (m.read a).bind fun n => m.walk links n.pxNextNode

def iSelectOption (m : Menu F) (iCmd : ℤ) : Option (Selected F) :=
  match m.pxCurrentLevel with
  | none => some ⟨.ERROR, none, m⟩
  | some c =>
    (m.read c).bind fun level =>
      if 0 < iCmd ∧ iCmd ≤ level.iNumNodes then
        level.xAction.levelDown.bind fun first =>
          (m.walk (iCmd - DAL_START_IDX).toNat first).bind fun found =>
            match found with
            | none => some ⟨.ERROR, none, m⟩
            | some a =>
              (m.read a).bind fun n =>
                match n.xNodeType, n.xAction with
                | .DIR, _ => some ⟨.OK, none, { m with pxCurrentLevel := some a }⟩
                | .FUNC, .pxDebugFunc f => some ⟨.OK, some f, m⟩
                | .FUNC, .null => some ⟨.ERROR, none, m⟩
                | .FUNC, .pxLevelDown _ => none
      else some ⟨.ERROR, none, m⟩

theorem iSelectOption_menu {m : Menu F} {iCmd : ℤ} {r : Selected F}
    (h : m.iSelectOption iCmd = some r) :
    r.menu = m ∨ ∃ a < m.count, (m.node a).xNodeType = .DIR ∧
      r.menu = { m with pxCurrentLevel := some a } := by
  unfold iSelectOption at h
  cases hcurrent : m.pxCurrentLevel with
  | none =>
    simp only [hcurrent] at h
    obtain rfl := Option.some.inj h
    exact .inl rfl
  | some c =>
    simp only [hcurrent] at h
    obtain ⟨level, -, h⟩ := Option.bind_eq_some_iff.mp h
    split_ifs at h
    · obtain ⟨first, -, h⟩ := Option.bind_eq_some_iff.mp h
      obtain ⟨found, -, h⟩ := Option.bind_eq_some_iff.mp h
      cases found with
      | none =>
        obtain rfl := Option.some.inj h
        exact .inl rfl
      | some a =>
        obtain ⟨n, hn, h⟩ := Option.bind_eq_some_iff.mp h
        obtain ⟨ha, rfl⟩ : a < m.count ∧ m.node a = n := by
          unfold read at hn
          split_ifs at hn with ha
          exact ⟨ha, Option.some.inj hn⟩
        cases htype : (m.node a).xNodeType with
        | DIR =>
          rw [htype] at h
          obtain rfl := Option.some.inj h
          exact .inr ⟨a, ha, htype, rfl⟩
        | FUNC =>
          rw [htype] at h
          cases haction : (m.node a).xAction with
          | null =>
            rw [haction] at h
            obtain rfl := Option.some.inj h
            exact .inl rfl
          | pxDebugFunc f =>
            rw [haction] at h
            obtain rfl := Option.some.inj h
            exact .inl rfl
          | pxLevelDown b =>
            rw [haction] at h
            cases h
    · obtain rfl := Option.some.inj h
      exact .inl rfl

/-- `DAL_CMD_GO_TOP`. -/
def goTop (m : Menu F) : Menu F :=
  match m.pxTopLevel with
  | some t => { m with pxCurrentLevel := some t }
  | none => m

/-- `DAL_CMD_GO_BACK`. -/
def goBack (m : Menu F) : Option (Menu F) :=
  m.pxCurrentLevel.bind fun c => (m.read c).map fun level =>
    match level.pxLevelUp with
    | some u => { m with pxCurrentLevel := some u }
    | none => m

end Menu

end Amr.Dal
