/-
# The debug menu is a tree

Items are added under any directory in any order, with the selections and commands of the user in
between. The links down the menu have no cycle and lead to every item along one path; the children
of a menu are linked in the order of their creation, and an option selects the child of its number
just when there is one. The count of a menu bounds its options from above only, as the count of the
first child of a menu is also that of its siblings; the selection then runs off the end of the chain
and fails.
-/
import Amr.Dal.Menu
import Amr.Lib.Transition

namespace Amr.Dal

open LinkedCells LinkPaths Transition

variable {F : Type}

/-- An item as the caller has added it: its handle, and a directory or a debug function. -/
structure Item (F : Type) where
  handle : ℕ
  parent : ℕ
  pxFunction : Option F

/-- The children of a menu in the order of their creation. -/
def children (items : List (Item F)) (p : ℕ) : List ℕ :=
  (items.filter fun i => i.parent = p).map Item.handle

/-- The menu, the items that were added, oldest first, and whether a call strayed. -/
structure System (F : Type) where
  menu : Menu F
  items : List (Item F)
  stray : Bool

inductive Action (F : Type)
  | initialise (pcMenuName : Option (List UInt8)) (pxPrintInitBanner : Bool) (o : InitCalls)
  | newDirectory (pcDirName : Option (List UInt8)) (o : AddCalls)
  | newSubDirectory (pcSubDirName : Option (List UInt8)) (pxParent : Option ℕ) (o : AddCalls)
  | newDebugFunction (pcFunctionName : Option (List UInt8)) (pxParent : Option ℕ)
      (pxFunction : Option F) (o : AddCalls)
  | select (iCmd : ℤ)
  | goTop
  | goBack

/-- A handle is NULL or that of an option. -/
def Menu.Knows (m : Menu F) (pxParent : Option ℕ) : Prop := ∀ p ∈ pxParent, p < m.count

instance (m : Menu F) (pxParent : Option ℕ) : Decidable (m.Knows pxParent) :=
  inferInstanceAs (Decidable (∀ p ∈ pxParent, p < m.count))

namespace System

def start : System F := ⟨.initial, [], false⟩

/-- An item whose handle is returned has been added. -/
def added (s : System F) (pxParent : Option ℕ) (pxFunction : Option F) :
    Option (Option ℕ × Menu F) → System F
  | none => { s with stray := true }
  | some (handle, m) =>
    { s with
      menu := m
      items := s.items ++
        (handle.bind fun h => pxParent.map fun p => ⟨h, p, pxFunction⟩).toList }

/-- The task takes commands once the menu is there. -/
def step (s : System F) : Action F → Option (System F)
  | .initialise pcMenuName pxPrintInitBanner o =>
    some { s with menu := (s.menu.iDAL_Initialise pcMenuName pxPrintInitBanner o).2 }
  | .newDirectory pcDirName o =>
    some (s.added s.menu.pxTopLevel none (s.menu.pxDAL_NewDirectory pcDirName o))
  | .newSubDirectory pcSubDirName pxParent o =>
    if s.menu.Knows pxParent then
      some (s.added pxParent none (s.menu.pxDAL_NewSubDirectory pcSubDirName pxParent o))
    else none
  | .newDebugFunction pcFunctionName pxParent pxFunction o =>
    if s.menu.Knows pxParent then
      some (s.added pxParent pxFunction
        (s.menu.pxDAL_NewDebugFunction pcFunctionName pxParent pxFunction o))
    else none
  | .select iCmd =>
    if s.menu.iIsInitialised then
      some ((s.menu.iSelectOption iCmd).elim { s with stray := true }
        fun r => { s with menu := r.menu })
    else none
  | .goTop => if s.menu.iIsInitialised then some { s with menu := s.menu.goTop } else none
  | .goBack =>
    if s.menu.iIsInitialised then
      some (s.menu.goBack.elim { s with stray := true } fun m => { s with menu := m })
    else none

/-- The top level and the directories that were added. -/
def IsMenu (s : System F) (root p : ℕ) : Prop :=
  p = root ∨ ∃ i ∈ s.items, i.handle = p ∧ i.pxFunction = none

end System

/-- A directory becomes the current level, a debug function is called. -/
def Selected.Yields (r : Selected F) (m : Menu F) (i : Item F) : Prop :=
  match i.pxFunction with
  | none => r.called = none ∧ r.menu = { m with pxCurrentLevel := some i.handle }
  | some f => r.called = some f ∧ r.menu = m

/-- The menu under `root` is the tree of the items that were added. -/
structure System.IsTree (s : System F) (root : ℕ) : Prop where
  /-- No call has strayed. -/
  defined : s.stray = false
  /-- No option is reached from itself. -/
  acyclic : ∀ a, ¬ Relation.TransGen (LinkPaths.Link s.menu.go) a a
  /-- The items are different options, each is reached along one path, and nothing else is. -/
  handles : (s.items.map Item.handle).Nodup
  once : ∀ i ∈ s.items, ∃! ws, follow s.menu.go ws root = some i.handle
  only : ∀ ws a, follow s.menu.go ws root = some a → a = root ∨ ∃ i ∈ s.items, i.handle = a
  /-- The children of a menu are linked in the order of their creation. -/
  spells : ∀ p, s.IsMenu root p → Spells s.menu.next (s.menu.down p) (children s.items p)
  /-- A selection in a menu succeeds just when there is a child of its number, which it yields; and
  the child links back to the menu. -/
  select : ∀ p, s.IsMenu root p → ∀ k : ℤ, ∃ r,
    Menu.iSelectOption { s.menu with pxCurrentLevel := some p } k = some r ∧
    (r.iStatus = .OK ↔ 1 ≤ k ∧ k ≤ (children s.items p).length) ∧
    ∀ i ∈ s.items, 1 ≤ k → (children s.items p)[(k - 1).toNat]? = some i.handle →
      r.Yields { s.menu with pxCurrentLevel := some p } i ∧
        (s.menu.node i.handle).pxLevelUp = some p

/-! ### The invariant of the links -/

/-- The links of a directory with the children `kids`. -/
def Level (m : Menu F) (p : ℕ) (kids : List ℕ) : Prop :=
  (kids = [] ∧ (m.node p).xAction = .null) ∨
    ∃ first, (m.node p).xAction = .pxLevelDown first ∧ Spells m.next (some first) kids ∧
      (m.next first ≠ none → (m.node first).pxLastNode = kids.getLast?)

/-- The options are the top level at address 0 and the items, in the order of their creation. -/
structure Tree (m : Menu F) (items : List (Item F)) : Prop where
  handles : items.map Item.handle = List.range' 1 items.length
  count : m.count = items.length + 1
  root : (m.node 0).xNodeType = .DIR ∧ m.next 0 = none ∧ (m.node 0).pxLevelUp = none
  parent : ∀ i ∈ items, (m.node i.handle).pxLevelUp = some i.parent ∧ i.parent < i.handle ∧
    (m.node i.parent).xNodeType = .DIR
  dir : ∀ i ∈ items, i.pxFunction = none → (m.node i.handle).xNodeType = .DIR
  func : ∀ i ∈ items, ∀ f, i.pxFunction = some f →
    (m.node i.handle).xNodeType = .FUNC ∧ (m.node i.handle).xAction = .pxDebugFunc f
  level : ∀ p < m.count, (m.node p).xNodeType = .DIR → Level m p (children items p)
  counts : ∀ p < m.count, (children items p).length ≤ (m.node p).iNumNodes
  beyond : ∀ b, m.count ≤ b → m.next b = none ∧ m.down b = none

theorem mem_children {items : List (Item F)} {p b : ℕ} :
    b ∈ children items p ↔ ∃ i ∈ items, i.parent = p ∧ i.handle = b := by
  simp [children, and_assoc]

theorem children_concat (items : List (Item F)) (i : Item F) (p : ℕ) :
    children (items ++ [i]) p
      = children items p ++ if i.parent = p then [i.handle] else [] := by
  by_cases h : i.parent = p <;> simp [children, List.filter_append, h]

namespace Tree

variable {m : Menu F} {items : List (Item F)}

theorem nodup (h : Tree m items) : (items.map Item.handle).Nodup := by
  rw [h.handles]
  exact List.nodup_range'

theorem handle_bounds (h : Tree m items) {i : Item F} (hi : i ∈ items) :
    0 < i.handle ∧ i.handle < m.count := by
  have hmem : i.handle ∈ List.range' 1 items.length :=
    h.handles ▸ List.mem_map_of_mem hi
  have := List.mem_range'_1.mp hmem
  rw [h.count]
  omega

theorem exists_item (h : Tree m items) {b : ℕ} (hb : b < m.count) (hpos : b ≠ 0) :
    ∃ i ∈ items, i.handle = b := by
  have hmem : b ∈ items.map Item.handle := by
    rw [h.handles, List.mem_range'_1]
    rw [h.count] at hb
    omega
  obtain ⟨i, hi, hib⟩ := List.mem_map.mp hmem
  exact ⟨i, hi, hib⟩

theorem parent_unique (h : Tree m items) {b p p' : ℕ} (hp : b ∈ children items p)
    (hp' : b ∈ children items p') : p = p' := by
  obtain ⟨i, hi, rfl, hib⟩ := mem_children.mp hp
  obtain ⟨j, hj, rfl, hjb⟩ := mem_children.mp hp'
  have hup := (h.parent i hi).1
  rw [hib, ← hjb, (h.parent j hj).1] at hup
  exact (Option.some.inj hup).symm

theorem child_bounds (h : Tree m items) {p b : ℕ} (hb : b ∈ children items p) :
    p < b ∧ b < m.count ∧ (m.node p).xNodeType = .DIR := by
  obtain ⟨i, hi, rfl, rfl⟩ := mem_children.mp hb
  exact ⟨(h.parent i hi).2.1, (h.handle_bounds hi).2, (h.parent i hi).2.2⟩

theorem pairwise (h : Tree m items) (p : ℕ) : (children items p).Pairwise (· < ·) := by
  have hsorted : (items.map Item.handle).Pairwise (· < ·) := by
    rw [h.handles]
    exact List.pairwise_lt_range'
  exact hsorted.sublist (List.filter_sublist.map Item.handle)

/-- **The children of a directory are linked in the order of their creation.** -/
theorem spells (h : Tree m items) {p : ℕ} (hp : p < m.count)
    (hdir : (m.node p).xNodeType = .DIR) :
    Spells m.next (m.down p) (children items p) := by
  rcases h.level p hp hdir with ⟨hkids, hnull⟩ | ⟨first, hdown, hspells, -⟩
  · rw [hkids, Menu.down, hnull]
    rfl
  · rw [Menu.down, hdown]
    exact hspells

theorem down_item (h : Tree m items) {i : Item F} (hi : i ∈ items) {b : ℕ}
    (hdown : m.down i.handle = some b) : (m.node i.handle).xNodeType = .DIR := by
  cases hfunction : i.pxFunction with
  | none => exact h.dir i hi hfunction
  | some f =>
    rw [Menu.down, (h.func i hi f hfunction).2] at hdown
    cases hdown

/-- **What a link leads to** is a child: the first one of the directory, or the next sibling. -/
theorem link_cases (h : Tree m items) {w : Link} {a b : ℕ} (hgo : m.go w a = some b) :
    a < b ∧ ∃ p, b ∈ children items p ∧ Spells m.next (m.down p) (children items p) ∧
      (w = .levelDown ∧ a = p ∧ m.down p = some b ∨
        w = .nextNode ∧ a ∈ children items p ∧ m.next a = some b) := by
  have ha : a < m.count := by
    by_contra hbeyond
    obtain ⟨hnext, hdown⟩ := h.beyond a (not_lt.mp hbeyond)
    cases w
    · exact absurd (hgo.symm.trans hdown) (by simp)
    · exact absurd (hgo.symm.trans hnext) (by simp)
  cases w with
  | levelDown =>
    have hdown : m.down a = some b := hgo
    have hdir : (m.node a).xNodeType = .DIR := by
      by_cases hzero : a = 0
      · exact hzero ▸ h.root.1
      · obtain ⟨i, hi, rfl⟩ := h.exists_item ha hzero
        exact h.down_item hi hdown
    have hspells := h.spells ha hdir
    have hb : b ∈ children items a := Spells.first_mem (hdown ▸ hspells)
    exact ⟨(h.child_bounds hb).1, a, hb, hspells, .inl ⟨rfl, rfl, hdown⟩⟩
  | nextNode =>
    have hnext : m.next a = some b := hgo
    have hpos : a ≠ 0 := by
      rintro rfl
      exact absurd (hnext.symm.trans h.root.2.1) (by simp)
    obtain ⟨i, hi, rfl⟩ := h.exists_item ha hpos
    have hmem : i.handle ∈ children items i.parent := mem_children.mpr ⟨i, hi, rfl, rfl⟩
    have hp : i.parent < m.count :=
      (h.child_bounds hmem).1.trans (h.child_bounds hmem).2.1
    have hspells := h.spells hp (h.child_bounds hmem).2.2
    obtain ⟨before, rest, hkids⟩ := hspells.next_mem hmem hnext
    have hsorted := h.pairwise i.parent
    rw [hkids, List.pairwise_append] at hsorted
    have hb : b ∈ children items i.parent := by
      rw [hkids]
      simp
    exact ⟨(List.pairwise_cons.mp hsorted.2.1).1 b (List.mem_cons_self ..), i.parent, hb,
      hspells, .inr ⟨rfl, hmem, hnext⟩⟩

theorem link_inj (h : Tree m items) {w w' : Link} {a a' b : ℕ} (hgo : m.go w a = some b)
    (hgo' : m.go w' a' = some b) : w = w' ∧ a = a' := by
  obtain ⟨-, p, hb, hspells, hlink⟩ := h.link_cases hgo
  obtain ⟨-, p', hb', -, hlink'⟩ := h.link_cases hgo'
  obtain rfl := h.parent_unique hb hb'
  rcases hlink with ⟨rfl, rfl, hdown⟩ | ⟨rfl, ha, hnext⟩ <;>
    rcases hlink' with ⟨rfl, rfl, hdown'⟩ | ⟨rfl, ha', hnext'⟩
  · exact ⟨rfl, rfl⟩
  · rw [hdown] at hspells
    exact absurd hnext' (hspells.next_ne_first ha')
  · rw [hdown'] at hspells
    exact absurd hnext (hspells.next_ne_first ha)
  · exact ⟨rfl, hspells.next_inj ha ha' hnext hnext'⟩

theorem exists_link (h : Tree m items) {b : ℕ} (hb : b < m.count) (hpos : b ≠ 0) :
    ∃ w a, a < m.count ∧ a < b ∧ m.go w a = some b := by
  obtain ⟨i, hi, rfl⟩ := h.exists_item hb hpos
  have hmem : i.handle ∈ children items i.parent := mem_children.mpr ⟨i, hi, rfl, rfl⟩
  obtain ⟨hlt, -, hdir⟩ := h.child_bounds hmem
  have hp : i.parent < m.count := hlt.trans hb
  rcases (h.spells hp hdir).pred hmem with hdown | ⟨a, ha, hnext⟩
  · exact ⟨.levelDown, i.parent, hp, hlt, hdown⟩
  · have hgo : m.go .nextNode a = some i.handle := hnext
    exact ⟨.nextNode, a, (h.child_bounds ha).2.1, (h.link_cases hgo).1, hgo⟩

/-- **Every item is reached along one path.** -/
theorem existsUnique_path (h : Tree m items) {i : Item F} (hi : i ∈ items) :
    ∃! ws, follow m.go ws 0 = some i.handle := by
  obtain ⟨ws, hws⟩ := exists_path id (S := (· < m.count))
    (fun b hb hpos => h.exists_link hb hpos) i.handle (h.handle_bounds hi).2
  refine ⟨ws, hws, fun ws' hws' => ?_⟩
  refine path_unique (fun w a hgo => ?_) (fun _ _ _ _ _ => h.link_inj) ws' hws' hws
  exact absurd (h.link_cases hgo).1 (Nat.not_lt_zero a)

theorem of_path (h : Tree m items) {ws : List Link} {a : ℕ} (hws : follow m.go ws 0 = some a) :
    a = 0 ∨ ∃ i ∈ items, i.handle = a := by
  refine of_follow (S := fun a => a = 0 ∨ ∃ i ∈ items, i.handle = a) (.inl rfl) ?_ ws hws
  intro w b c _ hgo
  obtain ⟨-, p, hc, -, -⟩ := h.link_cases hgo
  obtain ⟨i, hi, -, hic⟩ := mem_children.mp hc
  exact .inr ⟨i, hi, hic⟩

/-! ### A selection -/

theorem walk_eq {p : Option ℕ} {cells : List ℕ} (links : ℕ) (hspells : Spells m.next p cells)
    (hcells : ∀ a ∈ cells, a < m.count) : m.walk links p = some cells[links]? := by
  induction links generalizing p cells with
  | zero =>
    cases cells with
    | nil =>
      obtain rfl : p = none := hspells
      rfl
    | cons a cells =>
      rw [hspells.1]
      rfl
  | succ links ih =>
    cases cells with
    | nil =>
      obtain rfl : p = none := hspells
      rfl
    | cons a cells =>
      have ha : m.read a = some (m.node a) := if_pos (hcells a (List.mem_cons_self ..))
      rw [hspells.1, Menu.walk, ha, Option.bind_some, List.getElem?_cons_succ]
      exact ih hspells.2 fun b hb => hcells b (List.mem_cons_of_mem a hb)

/-- **A selection in a directory** yields the child of its number, and fails if there is none. -/
theorem select (h : Tree m items) {p : ℕ} (hp : p < m.count)
    (hdir : (m.node p).xNodeType = .DIR) (k : ℤ) :
    ∃ r, Menu.iSelectOption { m with pxCurrentLevel := some p } k = some r ∧
      (r.iStatus = .OK ↔ 1 ≤ k ∧ k ≤ (children items p).length) ∧
      ∀ i ∈ items, 1 ≤ k → (children items p)[(k - 1).toNat]? = some i.handle →
        r.Yields { m with pxCurrentLevel := some p } i ∧
          (m.node i.handle).pxLevelUp = some p := by
  set n : Menu F := { m with pxCurrentLevel := some p } with hn
  have hread : ∀ a < m.count, n.read a = some (m.node a) := fun a ha => if_pos ha
  have hdown : (m.node p).xAction.levelDown = some (m.down p) := by
    rcases h.level p hp hdir with ⟨-, hnull⟩ | ⟨first, hfirst, -, -⟩
    · rw [Menu.down, hnull]
      rfl
    · rw [Menu.down, hfirst]
      rfl
  have hwalk : n.walk (k - DAL_START_IDX).toNat (m.down p)
      = some (children items p)[(k - 1).toNat]? :=
    walk_eq (m := n) _ (h.spells hp hdir) fun a ha => (h.child_bounds ha).2.1
  have hcount := h.counts p hp
  have hlevel : n.pxCurrentLevel = some p := rfl
  unfold Menu.iSelectOption
  simp only [hlevel, hread p hp, Option.bind_some]
  by_cases hrange : 0 < k ∧ k ≤ (m.node p).iNumNodes
  swap
  · rw [if_neg hrange]
    refine ⟨_, rfl, ⟨nofun, fun hk => absurd ⟨by omega, by omega⟩ hrange⟩, ?_⟩
    intro i _ hk hchild
    have := (List.getElem?_eq_some_iff.mp hchild).1
    exact absurd ⟨by omega, by omega⟩ hrange
  rw [if_pos hrange, hdown, Option.bind_some, hwalk, Option.bind_some]
  cases hchild : (children items p)[(k - 1).toNat]? with
  | none =>
    have := List.getElem?_eq_none_iff.mp hchild
    exact ⟨_, rfl, ⟨nofun, fun hk => by omega⟩, fun _ _ _ hi => nomatch hi⟩
  | some a =>
    obtain ⟨hlt, rfl⟩ := List.getElem?_eq_some_iff.mp hchild
    obtain ⟨i, hi, hparent, hhandle⟩ := mem_children.mp (List.getElem_mem hlt)
    have hk : 1 ≤ k ∧ k ≤ (children items p).length := by omega
    have hthis : ∀ j ∈ items, some (children items p)[(k - 1).toNat] = some j.handle → j = i :=
      fun j hj hjh => List.inj_on_of_nodup_map h.nodup hj hi
        ((Option.some.inj hjh).symm.trans hhandle.symm)
    simp only [← hhandle] at hthis ⊢
    rw [hread i.handle (h.handle_bounds hi).2, Option.bind_some]
    cases hfunction : i.pxFunction with
    | none =>
      rw [h.dir i hi hfunction]
      refine ⟨_, rfl, ⟨fun _ => hk, fun _ => rfl⟩, fun j hj _ hjh => ?_⟩
      obtain rfl := hthis j hj hjh
      refine ⟨?_, by rw [(h.parent j hj).1, hparent]⟩
      rw [Selected.Yields, hfunction]
      exact ⟨rfl, rfl⟩
    | some f =>
      rw [(h.func i hi f hfunction).1, (h.func i hi f hfunction).2]
      refine ⟨_, rfl, ⟨fun _ => hk, fun _ => rfl⟩, fun j hj _ hjh => ?_⟩
      obtain rfl := hthis j hj hjh
      refine ⟨?_, by rw [(h.parent j hj).1, hparent]⟩
      rw [Selected.Yields, hfunction]
      exact ⟨rfl, rfl⟩

/-! ### A new item -/

/-- What changes when the option at `m.count` becomes the last child of `p`, after `kids`. -/
structure Grown (m m' : Menu F) (p : ℕ) (kids : List ℕ) (pxFunction : Option F) : Prop where
  count : m'.count = m.count + 1
  type : ∀ b < m.count, (m'.node b).xNodeType = (m.node b).xNodeType
  up : ∀ b < m.count, (m'.node b).pxLevelUp = (m.node b).pxLevelUp
  action : ∀ b < m.count, b ≠ p → (m'.node b).xAction = (m.node b).xAction
  next : ∀ b < m.count, kids.getLast? ≠ some b → m'.next b = m.next b
  last : ∀ b < m.count, kids.head? ≠ some b → (m'.node b).pxLastNode = (m.node b).pxLastNode
  counts : ∀ b < m.count, (m.node b).iNumNodes + (if b = p then 1 else 0) ≤ (m'.node b).iNumNodes
  new : (m'.node m.count).xNodeType = (if pxFunction.isSome then .FUNC else .DIR) ∧
    (m'.node m.count).xAction = pxFunction.elim .null .pxDebugFunc ∧
    (m'.node m.count).pxLevelUp = some p ∧ m'.next m.count = none
  down : ∀ first, (kids ++ [m.count]).head? = some first → (m'.node p).xAction = .pxLevelDown first
  linked : ∀ z, kids.getLast? = some z → m'.next z = some m.count
  lastKid : ∀ first, kids.head? = some first → (m'.node first).pxLastNode = some m.count
  beyond : ∀ b, m.count < b → m'.node b = m.node b

/-- **The new option is linked behind the last child of its directory.** -/
theorem grown (h : Tree m items) {p : ℕ} (hp : p < m.count)
    (hdir : (m.node p).xNodeType = .DIR) (name : List UInt8) (pxFunction : Option F) (d : ℤ) :
    ∃ m', ((m.append (Menu.newOption name p pxFunction d)).put p fun n =>
        { n with iNumNodes := n.iNumNodes + 1 }).appendToParent p m.count = some m' ∧
      Grown m m' p (children items p) pxFunction ∧
      m'.iIsInitialised = m.iIsInitialised ∧ m'.pxTopLevel = m.pxTopLevel ∧
      m'.pxCurrentLevel = m.pxCurrentLevel := by
  have hne : m.count ≠ p := hp.ne'
  set m₁ := (m.append (Menu.newOption name p pxFunction d)).put p fun n =>
    { n with iNumNodes := n.iNumNodes + 1 } with hm₁
  have hnode : ∀ b, m₁.node b =
      if b = p then { m.node p with iNumNodes := (m.node p).iNumNodes + 1 }
      else if b = m.count then Menu.newOption name p pxFunction d else m.node b := by
    intro b
    by_cases hbp : b = p
    · simp [hm₁, Menu.put, Menu.append, hbp, hp.ne]
    · simp [hm₁, Menu.put, Menu.append, hbp, Function.update_apply]
  have hcount : m₁.count = m.count + 1 := rfl
  unfold Menu.appendToParent
  rcases h.level p hp hdir with ⟨hkids, hnull⟩ | ⟨first, hfirst, hspells, hlast⟩
  · -- the first child of the directory
    have haction : (m₁.node p).xAction = .null := by rw [hnode, if_pos rfl, hnull]
    rw [haction]
    refine ⟨_, rfl, ⟨hcount, ?_, ?_, ?_, ?_, ?_, ?_, ?_, ?_, ?_, ?_, ?_⟩, rfl, rfl, rfl⟩
    all_goals simp only [Menu.put, Menu.next, Function.update_apply, hnode, hkids, Menu.newOption]
    all_goals grind
  · -- behind the children that the directory has
    have haction : (m₁.node p).xAction = .pxLevelDown first := by rw [hnode, if_pos rfl, hfirst]
    obtain ⟨rest, hkids⟩ := hspells.eq_cons
    have hfirstMem := hspells.first_mem
    obtain ⟨hpf, hfa, -⟩ := h.child_bounds hfirstMem
    have hread : m₁.read first = some (m₁.node first) := if_pos (Nat.lt_succ_of_lt hfa)
    have hsame : m₁.node first = m.node first := by
      rw [hnode, if_neg hpf.ne', if_neg hfa.ne]
    rw [haction]
    simp only [hread, hsame, Option.bind_some]
    cases hnext : (m.node first).pxNextNode with
    | none =>
      have hrest : rest = [] := by
        rw [hkids, spells_cons] at hspells
        have hnone : m.next first = none := hnext
        rw [hnone] at hspells
        exact hspells.2.unique (spells_nil.mpr rfl)
      rw [hrest] at hkids
      refine ⟨_, rfl, ⟨hcount, ?_, ?_, ?_, ?_, ?_, ?_, ?_, ?_, ?_, ?_, ?_⟩, rfl, rfl, rfl⟩
      all_goals simp only [Menu.put, Menu.next, Function.update_apply, hnode, hkids,
        Menu.newOption]
      all_goals grind
    | some second =>
      obtain ⟨l, hl⟩ : ∃ l, (children items p).getLast? = some l :=
        ⟨_, List.getLast?_eq_some_getLast (List.ne_nil_of_mem hfirstMem)⟩
      obtain ⟨hpl, hla, -⟩ := h.child_bounds (List.mem_of_getLast? hl)
      have hlastNode : (m.node first).pxLastNode = some l := by
        rw [hlast (by rw [Menu.next, hnext]; exact nofun), hl]
      have hreadl : m₁.read l = some (m₁.node l) := if_pos (Nat.lt_succ_of_lt hla)
      simp only [hlastNode, Option.bind_some, hreadl, Option.map_some]
      refine ⟨_, rfl, ⟨hcount, ?_, ?_, ?_, ?_, ?_, ?_, ?_, ?_, ?_, ?_, ?_⟩, rfl, rfl, rfl⟩
      all_goals simp only [Menu.put, Menu.next, Function.update_apply, hnode, hl, hkids,
        Menu.newOption, List.head?_cons]
      all_goals grind

/-- **The tree with the new item.** -/
theorem append (h : Tree m items) {m' : Menu F} {p : ℕ} {pxFunction : Option F}
    (hp : p < m.count) (hdir : (m.node p).xNodeType = .DIR)
    (hg : Grown m m' p (children items p) pxFunction) :
    Tree m' (items ++ [⟨m.count, p, pxFunction⟩]) := by
  have hcount : m'.count = m.count + 1 := hg.count
  obtain ⟨htype, haction, hup, hnext⟩ := hg.new
  have hchildren : ∀ q, children (items ++ [⟨m.count, p, pxFunction⟩]) q
      = children items q ++ if p = q then [m.count] else [] :=
    fun q => children_concat items ⟨m.count, p, pxFunction⟩ q
  have hparents : ∀ i ∈ items, i.parent < m.count := fun i hi =>
    (h.parent i hi).2.1.trans (h.handle_bounds hi).2
  refine ⟨?_, ?_, ?_, ?_, ?_, ?_, ?_, ?_, ?_⟩
  · rw [List.map_append, h.handles, List.length_append, List.length_singleton,
      List.range'_1_concat, h.count, Nat.add_comm]
    rfl
  · rw [hcount, h.count, List.length_append, List.length_singleton]
  · have hzero : 0 < m.count := by rw [h.count]; omega
    refine ⟨by rw [hg.type 0 hzero, h.root.1], ?_, by rw [hg.up 0 hzero, h.root.2.2]⟩
    rw [hg.next 0 hzero fun hlast => ?_, h.root.2.1]
    exact Nat.not_lt_zero p (h.child_bounds (List.mem_of_getLast? hlast)).1
  · intro i hi
    rcases List.mem_append.mp hi with hi | hi
    · rw [hg.up _ (h.handle_bounds hi).2, hg.type _ (hparents i hi)]
      exact h.parent i hi
    · obtain rfl := List.mem_singleton.mp hi
      exact ⟨hup, hp, by rw [hg.type p hp, hdir]⟩
  · intro i hi hfunction
    rcases List.mem_append.mp hi with hi | hi
    · rw [hg.type _ (h.handle_bounds hi).2]
      exact h.dir i hi hfunction
    · obtain rfl := List.mem_singleton.mp hi
      obtain rfl : pxFunction = none := hfunction
      exact htype
  · intro i hi f hfunction
    rcases List.mem_append.mp hi with hi | hi
    · have hfunc := h.func i hi f hfunction
      have hne : i.handle ≠ p := by
        rintro rfl
        exact absurd (hdir.symm.trans hfunc.1) (by simp)
      rw [hg.type _ (h.handle_bounds hi).2, hg.action _ (h.handle_bounds hi).2 hne]
      exact hfunc
    · obtain rfl := List.mem_singleton.mp hi
      obtain rfl : pxFunction = some f := hfunction
      exact ⟨htype, haction⟩
  · intro q hq hqdir
    rw [hchildren]
    by_cases hqp : p = q
    · -- the directory of the new item
      subst hqp
      rw [if_pos rfl]
      cases hkids : children items p with
      | nil =>
        refine .inr ⟨m.count, hg.down m.count (by rw [hkids]; rfl), ⟨rfl, hnext⟩, ?_⟩
        exact fun hsome => absurd hnext hsome
      | cons first rest =>
        have hspells := h.spells hp hdir
        rw [hkids] at hspells
        obtain ⟨z, hz⟩ : ∃ z, (children items p).getLast? = some z :=
          ⟨_, List.getLast?_eq_some_getLast (by rw [hkids]; simp)⟩
        refine .inr ⟨first, hg.down first (by rw [hkids]; rfl), ?_, fun _ => ?_⟩
        · rw [hspells.1] at hspells
          refine hspells.snoc (hkids ▸ hz) (hg.linked z hz) hnext fun b hb hbz => ?_
          refine hg.next b (h.child_bounds (p := p) (hkids ▸ hb)).2.1 fun hlast => hbz ?_
          exact Option.some.inj (hlast.symm.trans hz)
        · rw [hg.lastKid first (by rw [hkids]; rfl), List.getLast?_append]
          rfl
    · rw [if_neg hqp, List.append_nil]
      rcases Nat.lt_succ_iff_lt_or_eq.mp (hcount ▸ hq) with hqold | rfl
      · -- another directory
        rw [hg.type q hqold] at hqdir
        have hframe : ∀ b ∈ children items q, m'.next b = m.next b := fun b hb =>
          hg.next b (h.child_bounds hb).2.1 fun hlast =>
            hqp (h.parent_unique (List.mem_of_getLast? hlast) hb)
        rcases h.level q hqold hqdir with ⟨hkids, hnull⟩ | ⟨first, hfirst, hspells, hlast⟩
        · exact .inl ⟨hkids, by rw [hg.action q hqold (Ne.symm hqp), hnull]⟩
        · have hmem := hspells.first_mem
          refine .inr ⟨first, by rw [hg.action q hqold (Ne.symm hqp), hfirst],
            hspells.frame hframe, fun hsome => ?_⟩
          rw [hg.last first (h.child_bounds hmem).2.1 fun hhead => ?_]
          · exact hlast (hframe first hmem ▸ hsome)
          · exact hqp (h.parent_unique (List.mem_of_head? hhead) hmem)
      · -- the new item is a directory without children
        have hnone : pxFunction = none := by
          rw [htype] at hqdir
          cases pxFunction with
          | none => rfl
          | some f => simp at hqdir
        refine .inl ⟨List.eq_nil_iff_forall_not_mem.mpr fun b hb => ?_, by rw [haction, hnone]; rfl⟩
        obtain ⟨i, hi, hparent, -⟩ := mem_children.mp hb
        exact lt_irrefl _ (hparent ▸ hparents i hi)
  · intro q hq
    rw [hchildren]
    rcases Nat.lt_succ_iff_lt_or_eq.mp (hcount ▸ hq) with hqold | rfl
    · have hgrow := hg.counts q hqold
      have hold := h.counts q hqold
      by_cases hqp : p = q
      · rw [if_pos hqp.symm] at hgrow
        rw [if_pos hqp, List.length_append, List.length_singleton]
        omega
      · rw [if_neg (Ne.symm hqp)] at hgrow
        rw [if_neg hqp, List.append_nil]
        omega
    · have hnil : children items m.count = [] :=
        List.eq_nil_iff_forall_not_mem.mpr fun b hb => by
          obtain ⟨i, hi, hparent, -⟩ := mem_children.mp hb
          exact lt_irrefl _ (hparent ▸ hparents i hi)
      rw [if_neg hp.ne, hnil]
      exact Nat.zero_le _
  · intro b hb
    have hbeyond := h.beyond b (by omega)
    simp only [Menu.next, Menu.down, hg.beyond b (by omega)]
    exact hbeyond

end Tree

theorem Tree.congr {m m' : Menu F} {items : List (Item F)} (h : Tree m items)
    (hcount : m'.count = m.count) (hnode : m'.node = m.node) : Tree m' items := by
  have hnext : m'.next = m.next := by
    funext b
    simp only [Menu.next, hnode]
  have hdown : m'.down = m.down := by
    funext b
    simp only [Menu.down, hnode]
  refine ⟨h.handles, hcount.trans h.count, ?_, ?_, ?_, ?_, ?_, ?_, ?_⟩
  · simpa only [hnode, hnext] using h.root
  · simpa only [hnode] using h.parent
  · simpa only [hnode] using h.dir
  · simpa only [hnode] using h.func
  · simpa only [hnode, hcount, Level, hnext] using h.level
  · simpa only [hnode, hcount] using h.counts
  · simpa only [hcount, hnext, hdown] using h.beyond

namespace System

/-! ### Every run -/

/-- Before the initialisation there is nothing; afterwards the menu is a tree under address 0, and
the current level is a directory of it. -/
structure Inv (s : System F) : Prop where
  defined : s.stray = false
  before : s.menu.iIsInitialised = false →
    s.menu.count = 0 ∧ s.items = [] ∧ s.menu.pxTopLevel = none ∧ s.menu.pxCurrentLevel = none ∧
      ∀ b, s.menu.next b = none ∧ s.menu.down b = none
  after : s.menu.iIsInitialised = true → Tree s.menu s.items ∧ s.menu.pxTopLevel = some 0 ∧
    ∃ c < s.menu.count, s.menu.pxCurrentLevel = some c ∧ (s.menu.node c).xNodeType = .DIR

theorem inv_start : (start : System F).Inv :=
  ⟨rfl, fun _ => ⟨rfl, rfl, rfl, rfl, fun _ => ⟨rfl, rfl⟩⟩, nofun⟩

variable {s : System F}

theorem inv_initialise (h : s.Inv) (pcMenuName : Option (List UInt8))
    (pxPrintInitBanner : Bool) (o : InitCalls) :
    Inv { s with menu := (s.menu.iDAL_Initialise pcMenuName pxPrintInitBanner o).2 } := by
  cases pcMenuName with
  | none => exact h
  | some name =>
  simp only [Menu.iDAL_Initialise]
  split_ifs with hcheck _ _ halloc
  · exact h
  · exact h
  · obtain ⟨hcount, hitems, -, -, hlinks⟩ := h.before hcheck.2.1
    refine ⟨h.defined, nofun, fun _ => ⟨?_, congrArg some hcount, 0, ?_, congrArg some hcount, ?_⟩⟩
    · refine ⟨by simp [hitems], ?_, ?_, ?_, ?_, ?_, fun p hp _ => .inl ⟨?_, ?_⟩, ?_, ?_⟩
      · simp [Menu.append, hcount, hitems]
      · simp [Menu.append, Menu.next, hcount]
      · simp [hitems]
      · simp [hitems]
      · simp [hitems]
      · simp [hitems, children]
      · obtain rfl : p = 0 := by simpa [Menu.append, hcount] using hp
        simp [Menu.append, hcount]
      · simp [hitems, children]
      · intro b hb
        have hne : b ≠ 0 := by
          rintro rfl
          simp [Menu.append, hcount] at hb
        have hold := hlinks b
        simp only [Menu.next, Menu.down] at hold
        simpa [Menu.append, Menu.next, Menu.down, hcount, hne] using hold
    · simp [Menu.append, hcount]
    · simp [Menu.append, hcount]
  · exact h
  · exact h

/-- A call refuses and changes nothing, or it adds an item under the parent. -/
def Adds (s : System F) (pxParent : Option ℕ) (pxFunction : Option F)
    (r : Option (Option ℕ × Menu F)) : Prop :=
  r = some (none, s.menu) ∨ ∃ p m', pxParent = some p ∧ r = some (some s.menu.count, m') ∧
    Inv ⟨m', s.items ++ [⟨s.menu.count, p, pxFunction⟩], s.stray⟩

theorem inv_added (h : s.Inv) {pxParent : Option ℕ} {pxFunction : Option F}
    {r : Option (Option ℕ × Menu F)} (hr : s.Adds pxParent pxFunction r) :
    (s.added pxParent pxFunction r).Inv := by
  rcases hr with rfl | ⟨p, m', rfl, rfl, hinv⟩
  · simpa [added] using h
  · simpa [added] using hinv

theorem adds_xNewMenuItem (h : s.Inv) (hinit : s.menu.iIsInitialised = true)
    (pcItemName : Option (List UInt8)) {pxParent : Option ℕ} (hknows : s.menu.Knows pxParent)
    (pxFunction : Option F) (allocated : Bool) :
    s.Adds pxParent pxFunction
      (s.menu.xNewMenuItem pcItemName pxParent pxFunction allocated) := by
  obtain ⟨htree, htop, c, hc, hcurrent, hcdir⟩ := h.after hinit
  cases pcItemName with
  | none => exact .inl rfl
  | some name =>
  cases pxParent with
  | none => exact .inl rfl
  | some p =>
  have hp : p < s.menu.count := hknows p rfl
  have hread : s.menu.read p = some (s.menu.node p) := if_pos hp
  simp only [Menu.xNewMenuItem, hread, Option.bind_some]
  by_cases hcheck : name.length ≤ DAL_MAX_NAME_LEN ∧ (s.menu.node p).xNodeType = .DIR ∧
      s.menu.iIsInitialised = true
  swap
  · exact .inl (if_neg hcheck)
  rw [if_pos hcheck]
  cases allocated
  · exact .inl rfl
  obtain ⟨m', hrun, hgrown, hinit', htop', hcurrent'⟩ :=
    htree.grown hp hcheck.2.1 name pxFunction ((s.menu.node p).iDepth + 1)
  rw [if_pos rfl, hrun]
  refine .inr ⟨p, m', rfl, rfl, h.defined, fun hfalse => ?_, fun _ => ?_⟩
  · exact absurd ((hinit'.trans hinit).symm.trans hfalse) (by simp)
  · refine ⟨htree.append hp hcheck.2.1 hgrown, htop'.trans htop, c, ?_, hcurrent'.trans hcurrent,
      (hgrown.type c hc).trans hcdir⟩
    rw [hgrown.count]
    exact Nat.lt_succ_of_lt hc

theorem adds_newUnder (h : s.Inv) (hinit : s.menu.iIsInitialised = true)
    (pcItemName : Option (List UInt8)) {pxParent : Option ℕ} (hknows : s.menu.Knows pxParent)
    (pxFunction : Option F) (o : AddCalls) :
    s.Adds pxParent pxFunction (s.menu.newUnder pcItemName pxParent pxFunction o) := by
  cases pxParent with
  | none => exact .inl rfl
  | some p =>
    have hread : s.menu.read p = some (s.menu.node p) := if_pos (hknows p rfl)
    simp only [Menu.newUnder, hread, Option.bind_some]
    split_ifs
    · exact adds_xNewMenuItem h hinit pcItemName hknows pxFunction o.allocated
    · exact .inl rfl
    · exact .inl rfl

theorem Inv.moved (h : s.Inv) (hinit : s.menu.iIsInitialised = true) {a : ℕ}
    (ha : a < s.menu.count) (hdir : (s.menu.node a).xNodeType = .DIR) :
    Inv { s with menu := { s.menu with pxCurrentLevel := some a } } := by
  obtain ⟨htree, htop, -⟩ := h.after hinit
  exact ⟨h.defined, fun hfalse => absurd (hinit.symm.trans hfalse) (by simp),
    fun _ => ⟨htree.congr rfl rfl, htop, a, ha, rfl, hdir⟩⟩

theorem inv_step {s s' : System F} {a : Action F} (h : s.Inv) (hstep : s.step a = some s') :
    s'.Inv := by
  cases a with
  | initialise pcMenuName pxPrintInitBanner o =>
    obtain rfl := Option.some.inj hstep
    exact inv_initialise h pcMenuName pxPrintInitBanner o
  | newDirectory pcDirName o =>
    obtain rfl := Option.some.inj hstep
    refine inv_added h ?_
    simp only [Menu.pxDAL_NewDirectory]
    split_ifs with hcheck htaken
    · refine adds_xNewMenuItem h hcheck.1 pcDirName (fun p hp => ?_) none o.allocated
      obtain ⟨htree, htop, -⟩ := h.after hcheck.1
      obtain rfl : 0 = p := Option.some.inj (htop.symm.trans hp)
      rw [htree.count]
      exact Nat.succ_pos _
    · exact .inl rfl
    · exact .inl rfl
  | newSubDirectory pcSubDirName pxParent o =>
    simp only [step] at hstep
    split_ifs at hstep with hknows
    obtain rfl := Option.some.inj hstep
    refine inv_added h ?_
    simp only [Menu.pxDAL_NewSubDirectory]
    split_ifs with hcheck
    · exact adds_newUnder h hcheck.1 pcSubDirName hknows none o
    · exact .inl rfl
  | newDebugFunction pcFunctionName pxParent pxFunction o =>
    simp only [step] at hstep
    split_ifs at hstep with hknows
    obtain rfl := Option.some.inj hstep
    refine inv_added h ?_
    simp only [Menu.pxDAL_NewDebugFunction]
    split_ifs with hcheck
    · exact adds_newUnder h hcheck.1 pcFunctionName hknows pxFunction o
    · exact .inl rfl
  | select iCmd =>
    simp only [step] at hstep
    split_ifs at hstep with hinit
    obtain rfl := Option.some.inj hstep
    obtain ⟨htree, htop, c, hc, hcurrent, hcdir⟩ := h.after hinit
    obtain ⟨r, hrun, -⟩ := htree.select hc hcdir iCmd
    have hself : { s.menu with pxCurrentLevel := some c } = s.menu := by rw [← hcurrent]
    rw [hself] at hrun
    rw [hrun, Option.elim_some]
    rcases Menu.iSelectOption_menu hrun with hsame | ⟨a, ha, hdir, hmoved⟩
    · rw [hsame]
      exact h
    · rw [hmoved]
      exact h.moved hinit ha hdir
  | goTop =>
    simp only [step] at hstep
    split_ifs at hstep with hinit
    obtain rfl := Option.some.inj hstep
    obtain ⟨htree, htop, -⟩ := h.after hinit
    have hcount := htree.count
    have hgo : s.menu.goTop = { s.menu with pxCurrentLevel := some 0 } := by
      simp only [Menu.goTop, htop]
    rw [hgo]
    exact h.moved hinit (hcount ▸ Nat.succ_pos _) htree.root.1
  | goBack =>
    simp only [step] at hstep
    split_ifs at hstep with hinit
    obtain rfl := Option.some.inj hstep
    obtain ⟨htree, htop, c, hc, hcurrent, hcdir⟩ := h.after hinit
    have hread : s.menu.read c = some (s.menu.node c) := if_pos hc
    simp only [Menu.goBack, hcurrent, Option.bind_some, hread, Option.map_some, Option.elim_some]
    cases hup : (s.menu.node c).pxLevelUp with
    | none => exact h
    | some u =>
      have hpos : c ≠ 0 := by
        rintro rfl
        exact absurd (hup.symm.trans htree.root.2.2) (by simp)
      obtain ⟨i, hi, rfl⟩ := htree.exists_item hc hpos
      obtain ⟨hparent, hlt, hdir⟩ := htree.parent i hi
      obtain rfl : i.parent = u := Option.some.inj (hparent.symm.trans hup)
      exact h.moved hinit (hlt.trans hc) hdir

theorem IsMenu.bounds (h : Tree s.menu s.items) {p : ℕ} (hp : s.IsMenu 0 p) :
    p < s.menu.count ∧ (s.menu.node p).xNodeType = .DIR := by
  rcases hp with rfl | ⟨i, hi, rfl, hfunction⟩
  · exact ⟨h.count ▸ Nat.succ_pos _, h.root.1⟩
  · exact ⟨(h.handle_bounds hi).2, h.dir i hi hfunction⟩

/-- **In every state that is reached, the menu under the top level is the tree of the items that
were added, linked in the order of their creation, and an option selects the child of its
number.** -/
theorem menu_isTree {s : System F} (hs : Reaches step always start s) {root : ℕ}
    (hroot : s.menu.pxTopLevel = some root) : s.IsTree root := by
  have hinv : s.Inv := hs.invariant Inv inv_start fun _ _ _ h _ hstep => inv_step h hstep
  have hinit : s.menu.iIsInitialised = true := by
    by_contra hfalse
    obtain ⟨-, -, hnone, -⟩ := hinv.before (Bool.eq_false_of_not_eq_true hfalse)
    exact absurd (hroot.symm.trans hnone) (by simp)
  obtain ⟨htree, htop, -⟩ := hinv.after hinit
  obtain rfl : 0 = root := Option.some.inj (htop.symm.trans hroot)
  refine ⟨hinv.defined, ?_, htree.nodup, fun i hi => htree.existsUnique_path hi,
    fun ws a => htree.of_path, fun p hp => ?_, fun p hp k => ?_⟩
  · exact acyclic id fun w a b hgo => (htree.link_cases hgo).1
  · obtain ⟨hcount, hdir⟩ := hp.bounds htree
    exact htree.spells hcount hdir
  · obtain ⟨hcount, hdir⟩ := hp.bounds htree
    exact htree.select hcount hdir k

/-- Two directories and a debug function in the first of them, which are then selected. -/
def twoDirectories : List (Action Bool) :=
  [.initialise (some [77]) true ⟨true, true, true, 5⟩,
    .newDirectory (some [65]) ⟨true, true⟩,
    .newDirectory (some [66]) ⟨true, true⟩,
    .newDebugFunction (some [67]) (some 1) (some true) ⟨true, true⟩,
    .select 1, .select 1, .goBack]

theorem twoDirectories_isTree :
    ∃ s : System Bool, run step start twoDirectories = some s ∧ s.IsTree 0 := by
  have hany : (run step start twoDirectories).any
      (fun s => decide (s.menu.pxTopLevel = some 0)) = true := by decide +kernel
  obtain ⟨s, hs, htop⟩ := (Option.any_eq_true _ _).mp hany
  exact ⟨s, hs, menu_isTree (Reaches.of_run hs) (of_decide_eq_true htop)⟩

/-! ### Navigation -/

/-- The system at another level of the menu. -/
def atLevel (s : System F) (p : ℕ) : System F :=
  { s with menu := { s.menu with pxCurrentLevel := some p } }

/-- The numbers `ks` lead from the top to the level of the item and `k` selects it: a debug function
is called, and a directory is entered, from which the way back leads to the level before. -/
def Navigable (s : System F) (i : Item F) : Prop :=
  ∃ (ks : List ℤ) (k : ℤ) (r : Selected F),
    run step s (.goTop :: ks.map .select) = some (s.atLevel i.parent) ∧
    (s.atLevel i.parent).menu.iSelectOption k = some r ∧ r.iStatus = .OK ∧
    r.called = i.pxFunction ∧
    r.menu = (s.atLevel (if i.pxFunction.isSome then i.parent else i.handle)).menu ∧
    (s.atLevel i.handle).menu.goBack = some (s.atLevel i.parent).menu

theorem select_child (htree : Tree s.menu s.items) {i : Item F} (hi : i ∈ s.items) :
    ∃ (k : ℤ) (r : Selected F), (s.atLevel i.parent).menu.iSelectOption k = some r ∧
      r.iStatus = .OK ∧ r.Yields (s.atLevel i.parent).menu i := by
  obtain ⟨-, hlt, hdir⟩ := htree.parent i hi
  obtain ⟨n, hn, hget⟩ := List.getElem_of_mem (mem_children.mpr ⟨i, hi, rfl, rfl⟩)
  have hcount : i.parent < s.menu.count := hlt.trans (htree.handle_bounds hi).2
  obtain ⟨r, hr, hok, hyields⟩ := htree.select hcount hdir (n + 1)
  have hchild : (children s.items i.parent)[((n : ℤ) + 1 - 1).toNat]? = some i.handle := by
    rw [add_sub_cancel_right, Int.toNat_natCast, List.getElem?_eq_getElem hn, hget]
  exact ⟨n + 1, r, hr, hok.mpr (by omega), (hyields i hi (by omega) hchild).1⟩

/-- Every directory is reached from the top: the induction is on its address, which is behind that
of its parent. -/
theorem exists_numbers (hinit : s.menu.iIsInitialised = true) (htree : Tree s.menu s.items)
    (htop : s.menu.pxTopLevel = some 0) (p : ℕ) (hp : p < s.menu.count)
    (hdir : (s.menu.node p).xNodeType = .DIR) :
    ∃ ks : List ℤ, run step s (.goTop :: ks.map .select) = some (s.atLevel p) := by
  induction p using Nat.strong_induction_on with
  | h p ih =>
    by_cases hroot : p = 0
    · subst hroot
      have hgo : s.menu.goTop = (s.atLevel 0).menu := by
        unfold Menu.goTop atLevel
        split
        · next t ht => rw [Option.some.inj (ht.symm.trans htop)]
        · next ht => cases ht.symm.trans htop
      have hstep : step s .goTop = some (s.atLevel 0) := (if_pos hinit).trans (by rw [hgo]; rfl)
      exact ⟨[], by rw [List.map_nil, run, hstep]; rfl⟩
    obtain ⟨i, hi, rfl⟩ := htree.exists_item hp hroot
    obtain ⟨-, hlt, hparent⟩ := htree.parent i hi
    obtain ⟨ks, hks⟩ := ih i.parent hlt (hlt.trans hp) hparent
    obtain ⟨k, r, hr, -, hyields⟩ := select_child htree hi
    have hnone : i.pxFunction = none := by
      cases hfun : i.pxFunction with
      | none => rfl
      | some f => cases hdir.symm.trans (htree.func i hi f hfun).1
    rw [Selected.Yields, hnone] at hyields
    refine ⟨ks ++ [k], ?_⟩
    have hstep : step (s.atLevel i.parent) (.select k) = some (s.atLevel i.handle) := by
      have hyield : r.menu = (s.atLevel i.handle).menu := hyields.2
      refine (if_pos hinit).trans ?_
      rw [hr, Option.elim_some, hyield]
      rfl
    rw [List.map_append, ← List.cons_append]
    exact run_append_one _ hks hstep

/-- **Every item is reached by the numbers that the menu shows**, in every state that is reached. -/
theorem items_navigable (hs : Reaches step always start s) {i : Item F} (hi : i ∈ s.items) :
    s.Navigable i := by
  have hinv : s.Inv := hs.invariant Inv inv_start fun _ _ _ h _ hstep => inv_step h hstep
  have hinit : s.menu.iIsInitialised = true := by
    by_contra hfalse
    obtain ⟨-, hnone, -⟩ := hinv.before (Bool.eq_false_of_not_eq_true hfalse)
    exact List.not_mem_nil (hnone ▸ hi)
  obtain ⟨htree, htop, -⟩ := hinv.after hinit
  obtain ⟨hup, hlt, hdir⟩ := htree.parent i hi
  have hbound := (htree.handle_bounds hi).2
  obtain ⟨ks, hks⟩ := exists_numbers hinit htree htop i.parent (hlt.trans hbound) hdir
  obtain ⟨k, r, hr, hok, hyields⟩ := select_child htree hi
  refine ⟨ks, k, r, hks, hr, hok, ?_, ?_, ?_⟩
  · unfold Selected.Yields at hyields
    cases hfun : i.pxFunction <;> rw [hfun] at hyields <;> exact hyields.1
  · unfold Selected.Yields at hyields
    cases hfun : i.pxFunction <;> rw [hfun] at hyields <;> exact hyields.2
  · have hread : (s.atLevel i.handle).menu.read i.handle = some (s.menu.node i.handle) :=
      if_pos hbound
    have hcurrent : (s.atLevel i.handle).menu.pxCurrentLevel = some i.handle := rfl
    unfold Menu.goBack
    rw [hcurrent, Option.bind_some, hread, Option.map_some, hup]
    rfl

/-- The debug function in the first of two directories. -/
theorem twoDirectories_navigable :
    ∃ (s : System Bool) (i : Item Bool), run step start twoDirectories = some s ∧ i.handle = 3 ∧
      s.Navigable i := by
  have hany : (run step start twoDirectories).any
      (fun s => decide (3 ∈ s.items.map Item.handle)) = true := by decide +kernel
  obtain ⟨s, hs, hmem⟩ := (Option.any_eq_true _ _).mp hany
  obtain ⟨i, hi, hhandle⟩ := List.mem_map.mp (of_decide_eq_true hmem)
  exact ⟨s, i, hs, hhandle, items_navigable (Reaches.of_run hs) hi⟩

end System

end Amr.Dal
