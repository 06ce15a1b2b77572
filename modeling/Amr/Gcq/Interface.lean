/-
# The interfaces over the sGCQ driver

`fw_if_gcq_amc.c`: the interfaces with their profiles, and the calls that reach the driver through
them. An open takes an instance of the driver before it attaches to the peer, and neither a failed
attach nor a close gives it back. The interfaces' own initialisation has run; each interface has a
configuration of its own.
-/
import Amr.Gcq.Lifecycle
import Amr.Lib.Grants

namespace Amr.Gcq.Interface

open Transition Grants

inductive FW_IF_GCQ_STATE
  | CLOSED
  | INIT
  | OPENED
  | ATTACHED
  deriving DecidableEq, Repr

/-- The statuses of the interface; those of the driver are mapped one to one. -/
inductive FW_IF_GCQ_ERRORS
  | NONE
  | PARAMS
  | INVALID_CFG
  | NO_FREE_PROFILES
  | NOT_SUPPORTED
  | DRIVER (xError : GCQErrors)
  deriving DecidableEq, Repr

structure FWIfGCQProfile (N : ℕ) where
  xState : FW_IF_GCQ_STATE
  pxGCQInstance : Option (Fin N)
  deriving DecidableEq, Repr

/-- The driver, the profiles, and for each interface that was created its configuration with the
profile that it points to. -/
structure Interfaces (N : ℕ) (F : Type*) where
  peer : Peer N
  ulProfilesAllocated : ℕ
  xGcqProfile : Fin N → FWIfGCQProfile N
  cfg : F → Option (GCQInitArgs × Fin N)

def CHECK_INVALID_STATE {N : ℕ} (f : FWIfGCQProfile N) : Bool :=
  f.xState ≠ .OPENED && f.xState ≠ .ATTACHED

def prvxMapIFDriverReturnCode (xError : GCQErrors) : FW_IF_GCQ_ERRORS :=
  if xError = .none then .NONE else .DRIVER xError

variable {N : ℕ} {F : Type*}

namespace Interfaces

def setProfile (s : Interfaces N F) (k : Fin N) (p : FWIfGCQProfile N) : Interfaces N F :=
  { s with xGcqProfile := Function.update s.xGcqProfile k p }

/-- The instance in the profile of an interface. -/
def handle (s : Interfaces N F) (f : F) : Option (Fin N) :=
  (s.cfg f).bind fun c => (s.xGcqProfile c.2).pxGCQInstance

def ulFW_IF_GCQ_Create [DecidableEq F] (s : Interfaces N F) (f : F) (a : GCQInitArgs) :
    FW_IF_GCQ_ERRORS × Interfaces N F :=
  if hroom : s.ulProfilesAllocated < N then
    if a.xMode ≠ .maxGcqModeType then
      (.NONE, { s with
        ulProfilesAllocated := s.ulProfilesAllocated + 1
        xGcqProfile := Function.update s.xGcqProfile ⟨s.ulProfilesAllocated, hroom⟩ ⟨.INIT, none⟩
        cfg := Function.update s.cfg f (some (a, ⟨s.ulProfilesAllocated, hroom⟩)) })
    else (.INVALID_CFG, s)
  else (.NO_FREE_PROFILES, s)

def prvGCQOpen (s : Interfaces N F) (f : F) : Option (FW_IF_GCQ_ERRORS × Interfaces N F) :=
  match s.cfg f with
  | none => some (.INVALID_CFG, s)
  | some (a, k) =>
    match xGCQInit s.peer none a with
    | none => none
    | some (xStatus, peer, pxGCQInstance) =>
      if xStatus = .none then
        if a.xMode = .consumerMode then
          let attached := xGCQAttachConsumer peer pxGCQInstance
          some (prvxMapIFDriverReturnCode attached.1, { s with peer := attached.2 }.setProfile k
            ⟨if attached.1 = GCQErrors.none then .ATTACHED else .OPENED, pxGCQInstance⟩)
        else
          some (prvxMapIFDriverReturnCode xStatus,
            { s with peer := peer }.setProfile k ⟨.OPENED, pxGCQInstance⟩)
      else
        some (prvxMapIFDriverReturnCode xStatus,
          { s with peer := peer }.setProfile k ⟨(s.xGcqProfile k).xState, pxGCQInstance⟩)

def prvGCQClose (s : Interfaces N F) (f : F) : FW_IF_GCQ_ERRORS × Interfaces N F :=
  match s.cfg f with
  | none => (.INVALID_CFG, s)
  | some (_, k) =>
    if CHECK_INVALID_STATE (s.xGcqProfile k) then (.NOT_SUPPORTED, s)
    else (.NONE, s.setProfile k { s.xGcqProfile k with xState := .CLOSED })

/-- The checks of a transfer, and the instance that is passed to the driver. -/
def driverHandle (s : Interfaces N F) (f : F) : Except FW_IF_GCQ_ERRORS (Option (Fin N)) :=
  match s.cfg f with
  | none => .error .INVALID_CFG
  | some (_, k) =>
    if CHECK_INVALID_STATE (s.xGcqProfile k) then .error .NOT_SUPPORTED
    else .ok (s.xGcqProfile k).pxGCQInstance

def prvGCQWrite (s : Interfaces N F) (f : F) (pucData : Option (ℕ → UInt32)) (ulSize : UInt32) :
    FW_IF_GCQ_ERRORS × Interfaces N F :=
  match s.driverHandle f with
  | .error e => (e, s)
  | .ok h =>
    let r := xGCQProduceData s.peer h pucData ulSize
    (prvxMapIFDriverReturnCode r.1, { s with peer := r.2 })

/-- `null` tells that one of the caller's pointers is. -/
def prvGCQRead (s : Interfaces N F) (f : F) (null : Bool) (ulSize : UInt32) :
    FW_IF_GCQ_ERRORS × Interfaces N F :=
  if null then (.PARAMS, s)
  else
    match s.driverHandle f with
    | .error e => (e, s)
    | .ok h =>
      let r := xGCQConsumeData s.peer h false ulSize
      (prvxMapIFDriverReturnCode r.1, { s with peer := r.2.1 })

/-- The attach of an open of `f` succeeds, if its initialisation does. -/
def attaches (s : Interfaces N F) (f : F) : Bool :=
  match s.cfg f with
  | none => true
  | some (a, _) =>
    match xGCQInit s.peer none a with
    | some (.none, peer, pxGCQInstance) =>
      decide (a.xMode = .consumerMode → (xGCQAttachConsumer peer pxGCQInstance).1 = .none)
    | _ => true

end Interfaces

/-! ### Runs -/

/-- A call of an interface, or a store of the peer to the shared memory. -/
inductive Call (F : Type*)
  | FW_IF_create (f : F) (a : GCQInitArgs)
  | FW_IF_open (f : F)
  | FW_IF_close (f : F)
  | FW_IF_write (f : F) (pucData : Option (ℕ → UInt32)) (ulSize : UInt32)
  | FW_IF_read (f : F) (null : Bool) (ulSize : UInt32)
  | store (ullMemAddr : UInt64) (ulValue : UInt32)

/-- The interfaces, and the callers' view of them: an interface is open, with the instance of its
latest open, if that reported success and the interface was neither closed nor created since. -/
structure System (N : ℕ) (F : Type*) where
  ifs : Interfaces N F
  opened : F → Option (Fin N)

def start (N : ℕ) (F : Type*) (mem : Mem) : System N F where
  ifs := ⟨⟨xLocalData N, mem⟩, 0, fun _ => ⟨.CLOSED, none⟩, fun _ => none⟩
  opened := fun _ => none

/-- One call; an open whose driver call does not return does not. -/
def step [DecidableEq F] (s : System N F) : Call F → Option (System N F)
  | .FW_IF_create f a =>
    let r := s.ifs.ulFW_IF_GCQ_Create f a
    some ⟨r.2, if r.1 = .NONE then Function.update s.opened f none else s.opened⟩
  | .FW_IF_open f =>
    (s.ifs.prvGCQOpen f).map fun r =>
      ⟨r.2, Function.update s.opened f (if r.1 = .NONE then r.2.handle f else none)⟩
  | .FW_IF_close f =>
    let r := s.ifs.prvGCQClose f
    some ⟨r.2, if r.1 = .NONE then Function.update s.opened f none else s.opened⟩
  | .FW_IF_write f pucData ulSize => some { s with ifs := (s.ifs.prvGCQWrite f pucData ulSize).2 }
  | .FW_IF_read f null ulSize => some { s with ifs := (s.ifs.prvGCQRead f null ulSize).2 }
  | .store a v =>
    some { s with ifs := { s.ifs with peer :=
      { s.ifs.peer with mem := xGCQWriteMem32 s.ifs.peer.mem a v } } }

def Call.transfers : Call F → Option F
  | .FW_IF_write f _ _ => some f
  | .FW_IF_read f false _ => some f
  | _ => none

/-- After the call no more instances are in use than interfaces are open, and an interface that is
not open finds an instance; and what the call passed to the driver was the instance of an open
interface. -/
def Accounted [Fintype F] (s : System N F) (c : Call F) (s' : System N F) : Prop :=
  (initialised s'.ifs.peer.pxThis).card ≤ (holders s'.opened).card ∧
  (∀ f, (s'.ifs.cfg f).isSome → s'.opened f = none →
    ∃ i, prviGCQFindNextFreeInstance s'.ifs.peer.pxThis none = (.none, some i)) ∧
  ∀ f h, c.transfers = some f → s.ifs.driverHandle f = .ok h → h.isSome ∧ s.opened f = h

/-- What keeps the account: an open interface is not opened again, not closed and not created again,
and the attach of an open does not fail. -/
def Keeps (s : System N F) : Call F → Prop
  | .FW_IF_create f a =>
    s.opened f = none ∨ N ≤ s.ifs.ulProfilesAllocated ∨ a.xMode = .maxGcqModeType
  | .FW_IF_open f => s.opened f = none ∧ s.ifs.attaches f = true
  | .FW_IF_close f => s.opened f = none
  | _ => True

instance (s : System N F) (c : Call F) : Decidable (Keeps s c) := by
  cases c <;> unfold Keeps <;> infer_instance

/-! ### The instances in use -/

section Driver

variable {d d' : GCQPrivateData N} {p : Peer N} {i : Fin N}

/-- The count of the driver is that of its initialised instances. -/
def Counted (d : GCQPrivateData N) : Prop :=
  d.ucInstancesAllocated = UInt8.ofNat (initialised d).card

def SameUse (d d' : GCQPrivateData N) : Prop :=
  initialised d' = initialised d ∧ d'.ucInstancesAllocated = d.ucInstancesAllocated

def Took (d d' : GCQPrivateData N) (i : Fin N) : Prop :=
  i ∉ initialised d ∧ initialised d' = insert i (initialised d) ∧
    d'.ucInstancesAllocated = d.ucInstancesAllocated + 1

theorem SameUse.refl (d : GCQPrivateData N) : SameUse d d := ⟨rfl, rfl⟩

theorem SameUse.counted (h : SameUse d d') (hd : Counted d) : Counted d' := by
  rw [Counted, h.2, h.1]
  exact hd

theorem Took.card (h : Took d d' i) : (initialised d').card = (initialised d).card + 1 := by
  rw [h.2.1, Finset.card_insert_of_notMem h.1]

theorem Took.counted (h : Took d d' i) (hd : Counted d) : Counted d' := by
  rw [Counted, h.2.2, h.card, UInt8.ofNat_add, ← hd]
  rfl

theorem SameUse.of_transferred (h : Transferred d d') : SameUse d d' := by
  rcases h with rfl | ⟨i, inst, hsame, rfl⟩
  · exact .refl d'
  · exact ⟨initialised_setInstance hsame.iInitialised, rfl⟩

theorem attach_sameUse (p : Peer N) (h : Option (Fin N)) :
    SameUse p.pxThis (xGCQAttachConsumer p h).2.pxThis := by
  rcases xGCQAttachConsumer_cases (Prod.mk.eta (p := xGCQAttachConsumer p h)).symm with
    ⟨-, hp⟩ | ⟨i, inst, -, -, -, hsame, -, hd⟩
  · rw [hp]
    exact .refl _
  · rw [hd]
    exact ⟨initialised_setInstance hsame.iInitialised, rfl⟩

theorem took_committed (a : GCQInitArgs) (n : UInt32)
    (hfree : (p.pxThis.xGCQInstances i).iInitialised = false) :
    Took p.pxThis (committed p a i n).pxThis i := by
  refine ⟨?_, initialised_start (initInstance_iInitialised p.mem a n), rfl⟩
  rw [mem_initialised, hfree]
  exact Bool.false_ne_true

/-- **A free instance is found** while not all are in use. -/
theorem findNextFreeInstance_of_card_lt (hd : Counted d) (hlt : (initialised d).card < N) :
    ∃ i, prviGCQFindNextFreeInstance d none = (.none, some i) := by
  have hcount : N > d.ucInstancesAllocated.toNat := by
    rw [show d.ucInstancesAllocated = _ from hd, UInt8.toNat_ofNat']
    exact lt_of_le_of_lt (Nat.mod_le _ _) hlt
  obtain ⟨i, hi⟩ : ∃ i, i ∉ initialised d := by
    by_contra hall
    simp only [not_exists, not_not] at hall
    rw [Finset.eq_univ_iff_forall.mpr hall, Finset.card_univ, Fintype.card_fin] at hlt
    exact lt_irrefl N hlt
  rw [mem_initialised, Bool.not_eq_true] at hi
  have hsome : ((List.finRange N).find? fun i => !(d.xGCQInstances i).iInitialised).isSome := by
    rw [List.find?_isSome]
    exact ⟨i, List.mem_finRange i, by rw [hi]; rfl⟩
  obtain ⟨j, hj⟩ := Option.isSome_iff_exists.mp hsome
  refine ⟨j, ?_⟩
  rw [prviGCQFindNextFreeInstance, if_neg (not_not.mpr rfl), if_pos hcount, hj]

end Driver

/-! ### What an open can do -/

section Open

variable {s s' : Interfaces N F} {f : F} {a : GCQInitArgs} {k : Fin N} {e : FW_IF_GCQ_ERRORS}

/-- The interfaces after an open, apart from the driver: the profile is changed only. -/
structure SameInterfaces (s s' : Interfaces N F) (k : Fin N) (p : FWIfGCQProfile N) : Prop where
  allocated : s'.ulProfilesAllocated = s.ulProfilesAllocated
  profile : s'.xGcqProfile = Function.update s.xGcqProfile k p
  cfg : s'.cfg = s.cfg

theorem mapped_eq_none {x : GCQErrors} : prvxMapIFDriverReturnCode x = .NONE ↔ x = .none := by
  unfold prvxMapIFDriverReturnCode
  split_ifs with h
  · exact iff_of_true rfl h
  · exact iff_of_false nofun h

/-- **What an open can do.** The initialisation fails, and nothing is taken; the attach fails, and
the instance that was taken stays so; or the open succeeds. -/
theorem prvGCQOpen_cases (hcfg : s.cfg f = some (a, k)) (h : s.prvGCQOpen f = some (e, s')) :
    (e ≠ .NONE ∧ s.attaches f = true ∧ s'.peer = s.peer ∧
      ∃ h', SameInterfaces s s' k ⟨(s.xGcqProfile k).xState, h'⟩) ∨
    (e ≠ .NONE ∧ s.attaches f = false ∧ ∃ i st, Took s.peer.pxThis s'.peer.pxThis i ∧
      SameInterfaces s s' k ⟨st, some i⟩) ∨
    (e = .NONE ∧ s.attaches f = true ∧ ∃ i st, (st = .OPENED ∨ st = .ATTACHED) ∧
      Took s.peer.pxThis s'.peer.pxThis i ∧ SameInterfaces s s' k ⟨st, some i⟩) := by
  unfold Interfaces.prvGCQOpen at h
  unfold Interfaces.attaches
  rw [hcfg] at h ⊢
  dsimp only at h ⊢
  cases hinit : xGCQInit s.peer none a with
  | none =>
    rw [hinit] at h
    cases h
  | some r =>
    obtain ⟨xStatus, peer, pxGCQInstance⟩ := r
    rw [hinit] at h
    dsimp only at h ⊢
    have hfails : xStatus ≠ .none → peer = s.peer →
        (e ≠ .NONE ∧ (match some (xStatus, peer, pxGCQInstance) with
          | some (.none, peer, pxGCQInstance) =>
            decide (a.xMode = .consumerMode → (xGCQAttachConsumer peer pxGCQInstance).1 = .none)
          | _ => true) = true ∧ s'.peer = s.peer ∧
          ∃ h', SameInterfaces s s' k ⟨(s.xGcqProfile k).xState, h'⟩) := by
      intro hne hpeer
      rw [if_neg hne] at h
      obtain ⟨rfl, rfl⟩ := Prod.mk.inj (Option.some.inj h)
      refine ⟨fun hnone => hne (mapped_eq_none.mp hnone), ?_, hpeer, _, rfl, rfl, rfl⟩
      cases xStatus with
      | none => exact absurd rfl hne
      | _ => rfl
    rcases xGCQInit_cases hinit with
      ⟨hne, hpeer, -⟩ | ⟨i, hne, -, -, hpeer, -⟩ | ⟨i, n, rfl, -, rfl, rfl, hfree, -⟩
    · exact .inl (hfails hne hpeer)
    · exact .inl (hfails hne hpeer)
    · have htook := took_committed a n hfree
      rw [if_pos rfl] at h
      by_cases hmode : a.xMode = .consumerMode
      · rw [if_pos hmode] at h
        obtain ⟨rfl, rfl⟩ := Prod.mk.inj (Option.some.inj h)
        have hattach := attach_sameUse (committed s.peer a i n) (some i)
        have htook' : Took s.peer.pxThis
            (xGCQAttachConsumer (committed s.peer a i n) (some i)).2.pxThis i :=
          ⟨htook.1, hattach.1.trans htook.2.1, hattach.2.trans htook.2.2⟩
        by_cases hok : (xGCQAttachConsumer (committed s.peer a i n) (some i)).1 = .none
        · refine .inr (.inr ⟨mapped_eq_none.mpr hok, decide_eq_true fun _ => hok, i, .ATTACHED,
            .inr rfl, htook', rfl, ?_, rfl⟩)
          rw [if_pos hok]
          rfl
        · refine .inr (.inl ⟨fun hnone => hok (mapped_eq_none.mp hnone),
            decide_eq_false fun himp => hok (himp hmode), i, .OPENED, htook', rfl, ?_, rfl⟩)
          rw [if_neg hok]
          rfl
      · rw [if_neg hmode] at h
        obtain ⟨rfl, rfl⟩ := Prod.mk.inj (Option.some.inj h)
        exact .inr (.inr ⟨rfl, decide_eq_true fun h => absurd h hmode, i, .OPENED, .inl rfl, htook,
          rfl, rfl, rfl⟩)

end Open

/-! ### The account -/

section Account

variable {s s' : System N F} {c : Call F}

/-- **What the calls that keep the account keep.** Each open interface has an instance of its own
and its profile says so, and all instances in use are theirs. -/
structure Inv (s : System N F) : Prop where
  counted : Counted s.ifs.peer.pxThis
  exact : Exact s.opened (initialised s.ifs.peer.pxThis)
  room : ∀ f c, s.ifs.cfg f = some c → c.2.val < s.ifs.ulProfilesAllocated
  distinct : ∀ f f' c c', s.ifs.cfg f = some c → s.ifs.cfg f' = some c' → c.2 = c'.2 → f = f'
  closed : ∀ f c, s.ifs.cfg f = some c → s.opened f = none →
    CHECK_INVALID_STATE (s.ifs.xGcqProfile c.2) = true
  opened : ∀ f i, s.opened f = some i → ∃ c, s.ifs.cfg f = some c ∧
    CHECK_INVALID_STATE (s.ifs.xGcqProfile c.2) = false ∧
    (s.ifs.xGcqProfile c.2).pxGCQInstance = some i

theorem inv_start (mem : Mem) : Inv (start N F mem) := by
  have hnone : initialised (start N F mem).ifs.peer.pxThis = ∅ := by
    refine Finset.eq_empty_of_forall_notMem fun i hi => ?_
    exact Bool.false_ne_true (mem_initialised.mp hi)
  refine ⟨?_, ⟨nofun, nofun, fun i hi => ?_⟩, nofun, nofun, nofun, nofun⟩
  · rw [Counted, hnone]
    rfl
  · rw [hnone] at hi
    exact absurd hi (Finset.notMem_empty i)

theorem Inv.finds [Fintype F] (hinv : Inv s) {f : F} (hcreated : (s.ifs.cfg f).isSome)
    (hclosed : s.opened f = none) :
    ∃ i, prviGCQFindNextFreeInstance s.ifs.peer.pxThis none = (.none, some i) := by
  refine findNextFreeInstance_of_card_lt hinv.counted ?_
  rw [hinv.exact.card]
  classical
  have hnot : f ∉ holders s.opened := fun hmem => by
    obtain ⟨i, hi⟩ := mem_holders.mp hmem
    rw [hclosed] at hi
    cases hi
  have hcfg : ∀ f' ∈ insert f (holders s.opened), ∃ c, s.ifs.cfg f' = some c := by
    intro f' hf'
    rcases Finset.mem_insert.mp hf' with rfl | hf'
    · exact Option.isSome_iff_exists.mp hcreated
    · obtain ⟨i, hi⟩ := mem_holders.mp hf'
      obtain ⟨c, hc, -⟩ := hinv.opened f' i hi
      exact ⟨c, hc⟩
  have hle : (insert f (holders s.opened)).card ≤ ((Finset.univ : Finset (Fin N)).image some).card := by
    refine Finset.card_le_card_of_injOn (fun f => (s.ifs.cfg f).map Prod.snd) ?_ ?_
    · intro f' hf'
      obtain ⟨c, hc⟩ := hcfg f' hf'
      have hmap : (s.ifs.cfg f').map Prod.snd = some c.2 := by
        rw [hc]
        rfl
      exact Finset.mem_coe.mpr (Finset.mem_image.mpr ⟨c.2, Finset.mem_univ _, hmap.symm⟩)
    · intro f₁ h₁ f₂ h₂ heq
      obtain ⟨c₁, hc₁⟩ := hcfg f₁ h₁
      obtain ⟨c₂, hc₂⟩ := hcfg f₂ h₂
      dsimp only at heq
      rw [hc₁, hc₂] at heq
      exact hinv.distinct f₁ f₂ c₁ c₂ hc₁ hc₂ (Option.some.inj heq)
  rw [Finset.card_insert_of_notMem hnot, Finset.card_image_of_injective _ (Option.some_injective _),
    Finset.card_univ, Fintype.card_fin] at hle
  exact hle

theorem Inv.passes (hinv : Inv s) {f : F} {h : Option (Fin N)} (hpass : s.ifs.driverHandle f = .ok h) :
    h.isSome ∧ s.opened f = h := by
  unfold Interfaces.driverHandle at hpass
  cases hcfg : s.ifs.cfg f with
  | none =>
    rw [hcfg] at hpass
    cases hpass
  | some c =>
    rw [hcfg] at hpass
    dsimp only at hpass
    split_ifs at hpass with hstate
    obtain rfl := Except.ok.inj hpass
    cases hopen : s.opened f with
    | none => exact absurd (hinv.closed f c hcfg hopen) hstate
    | some i =>
      obtain ⟨c', hc', -, hi⟩ := hinv.opened f i hopen
      obtain rfl := Option.some.inj (hcfg.symm.trans hc')
      rw [hi]
      exact ⟨rfl, rfl⟩

/-- **The account**, while the invariant is kept. -/
theorem Inv.accounted [Fintype F] (hinv : Inv s) (hinv' : Inv s') : Accounted s c s' :=
  ⟨hinv'.exact.card.le, fun _ hcreated hclosed => hinv'.finds hcreated hclosed,
    fun _ _ _ hpass => hinv.passes hpass⟩

theorem Inv.sameUse (hinv : Inv s) {peer : Peer N} (h : SameUse s.ifs.peer.pxThis peer.pxThis) :
    Inv { s with ifs := { s.ifs with peer := peer } } where
  counted := h.counted hinv.counted
  exact := by
    have hsame : initialised peer.pxThis = initialised s.ifs.peer.pxThis := h.1
    exact hsame.symm ▸ hinv.exact
  room := hinv.room
  distinct := hinv.distinct
  closed := hinv.closed
  opened := hinv.opened

variable [DecidableEq F]

theorem Inv.setProfile (hinv : Inv s) {ifs' : Interfaces N F} {f : F} {a : GCQInitArgs} {k : Fin N}
    {p : FWIfGCQProfile N} {x : Option (Fin N)} (hcfg : s.ifs.cfg f = some (a, k))
    (hsame : SameInterfaces s.ifs ifs' k p) (hcounted : Counted ifs'.peer.pxThis)
    (hexact : Exact (Function.update s.opened f x) (initialised ifs'.peer.pxThis))
    (hclosed : x = none → CHECK_INVALID_STATE p = true)
    (hopened : ∀ i, x = some i → CHECK_INVALID_STATE p = false ∧ p.pxGCQInstance = some i) :
    Inv ⟨ifs', Function.update s.opened f x⟩ := by
  have hother : ∀ f' c, s.ifs.cfg f' = some c → f' ≠ f →
      ifs'.xGcqProfile c.2 = s.ifs.xGcqProfile c.2 := by
    intro f' c hc hne
    rw [hsame.profile, Function.update_of_ne]
    exact fun heq => hne (hinv.distinct f' f c (a, k) hc hcfg heq)
  have hself : ifs'.xGcqProfile k = p := by
    rw [hsame.profile, Function.update_self]
  refine ⟨hcounted, hexact, ?_, ?_, ?_, ?_⟩
  · intro f' c hc
    rw [hsame.allocated]
    exact hinv.room f' c (hsame.cfg ▸ hc)
  · intro f₁ f₂ c₁ c₂ h₁ h₂ heq
    exact hinv.distinct f₁ f₂ c₁ c₂ (hsame.cfg ▸ h₁) (hsame.cfg ▸ h₂) heq
  · intro f' c hc hnone
    have hold : s.ifs.cfg f' = some c := by
      rw [← hsame.cfg]
      exact hc
    dsimp only at hnone
    by_cases hff : f' = f
    · subst hff
      obtain rfl := Option.some.inj (hcfg.symm.trans hold)
      rw [Function.update_self] at hnone
      exact (congrArg CHECK_INVALID_STATE hself).trans (hclosed hnone)
    · rw [Function.update_of_ne hff] at hnone
      exact (congrArg CHECK_INVALID_STATE (hother f' c hold hff)).trans
        (hinv.closed f' c hold hnone)
  · intro f' i hi
    dsimp only at hi
    by_cases hff : f' = f
    · subst hff
      rw [Function.update_self] at hi
      refine ⟨(a, k), hsame.cfg.symm ▸ hcfg, ?_⟩
      dsimp only
      rw [hself]
      exact hopened i hi
    · rw [Function.update_of_ne hff] at hi
      obtain ⟨c, hc, hstate, hinst⟩ := hinv.opened f' i hi
      refine ⟨c, hsame.cfg.symm ▸ hc, ?_⟩
      dsimp only
      rw [hother f' c hc hff]
      exact ⟨hstate, hinst⟩

theorem Inv.create (hinv : Inv s) {f : F} {a : GCQInitArgs} (hclosed : s.opened f = none)
    (hroom : s.ifs.ulProfilesAllocated < N) :
    Inv ⟨{ s.ifs with
      ulProfilesAllocated := s.ifs.ulProfilesAllocated + 1
      xGcqProfile :=
        Function.update s.ifs.xGcqProfile ⟨s.ifs.ulProfilesAllocated, hroom⟩ ⟨.INIT, none⟩
      cfg := Function.update s.ifs.cfg f (some (a, ⟨s.ifs.ulProfilesAllocated, hroom⟩)) },
      s.opened⟩ := by
  have hcases : ∀ f' c, Function.update s.ifs.cfg f
      (some (a, ⟨s.ifs.ulProfilesAllocated, hroom⟩)) f' = some c →
      f' = f ∧ c = (a, ⟨s.ifs.ulProfilesAllocated, hroom⟩) ∨
        f' ≠ f ∧ s.ifs.cfg f' = some c ∧ c.2 ≠ ⟨s.ifs.ulProfilesAllocated, hroom⟩ := by
    intro f' c hc
    by_cases hff : f' = f
    · rw [hff, Function.update_self] at hc
      exact .inl ⟨hff, (Option.some.inj hc).symm⟩
    · rw [Function.update_of_ne hff] at hc
      refine .inr ⟨hff, hc, fun heq => ?_⟩
      have hlt := hinv.room f' c hc
      rw [heq] at hlt
      exact lt_irrefl _ hlt
  refine ⟨hinv.counted, hinv.exact, ?_, ?_, ?_, ?_⟩
  · intro f' c hc
    rcases hcases f' c hc with ⟨-, rfl⟩ | ⟨-, hold, -⟩
    · exact Nat.lt_succ_self _
    · exact (hinv.room f' c hold).trans (Nat.lt_succ_self _)
  · intro f₁ f₂ c₁ c₂ h₁ h₂ heq
    rcases hcases f₁ c₁ h₁ with ⟨rfl, rfl⟩ | ⟨-, hold₁, hne₁⟩ <;>
      rcases hcases f₂ c₂ h₂ with ⟨rfl, rfl⟩ | ⟨-, hold₂, hne₂⟩
    · rfl
    · exact absurd heq.symm hne₂
    · exact absurd heq hne₁
    · exact hinv.distinct f₁ f₂ c₁ c₂ hold₁ hold₂ heq
  · intro f' c hc hnone
    rcases hcases f' c hc with ⟨-, rfl⟩ | ⟨-, hold, hne⟩
    · dsimp only
      rw [Function.update_self]
      rfl
    · dsimp only
      rw [Function.update_of_ne hne]
      exact hinv.closed f' c hold hnone
  · intro f' i hi
    obtain ⟨c, hc, hstate, hinst⟩ := hinv.opened f' i hi
    have hff : f' ≠ f := by
      rintro rfl
      rw [hclosed] at hi
      cases hi
    have hnew : Function.update s.ifs.cfg f (some (a, ⟨s.ifs.ulProfilesAllocated, hroom⟩)) f'
        = some c := by rw [Function.update_of_ne hff, hc]
    rcases hcases f' c hnew with ⟨heq, -⟩ | ⟨-, -, hne⟩
    · exact absurd heq hff
    · refine ⟨c, hnew, ?_⟩
      dsimp only
      rw [Function.update_of_ne hne]
      exact ⟨hstate, hinst⟩

theorem ulFW_IF_GCQ_Create_cases (s : Interfaces N F) (f : F) (a : GCQInitArgs) :
    (∃ hroom : s.ulProfilesAllocated < N, a.xMode ≠ .maxGcqModeType ∧
      s.ulFW_IF_GCQ_Create f a = (.NONE, { s with
        ulProfilesAllocated := s.ulProfilesAllocated + 1
        xGcqProfile := Function.update s.xGcqProfile ⟨s.ulProfilesAllocated, hroom⟩ ⟨.INIT, none⟩
        cfg := Function.update s.cfg f (some (a, ⟨s.ulProfilesAllocated, hroom⟩)) })) ∨
    (N ≤ s.ulProfilesAllocated ∨ a.xMode = .maxGcqModeType) ∧
      ∃ e, e ≠ .NONE ∧ s.ulFW_IF_GCQ_Create f a = (e, s) := by
  unfold Interfaces.ulFW_IF_GCQ_Create
  by_cases hroom : s.ulProfilesAllocated < N
  · rw [dif_pos hroom]
    by_cases hmode : a.xMode = .maxGcqModeType
    · rw [if_neg (not_not.mpr hmode)]
      exact .inr ⟨.inr hmode, .INVALID_CFG, nofun, rfl⟩
    · rw [if_pos hmode]
      exact .inl ⟨hroom, hmode, rfl⟩
  · rw [dif_neg hroom]
    exact .inr ⟨.inl (not_lt.mp hroom), .NO_FREE_PROFILES, nofun, rfl⟩

/-- **A call that keeps the account** keeps the invariant. -/
theorem Inv.step (hinv : Inv s) (hstep : step s c = some s') (hkeeps : Keeps s c) : Inv s' := by
  cases c with
  | FW_IF_create f a =>
    obtain rfl := Option.some.inj hstep
    rcases ulFW_IF_GCQ_Create_cases s.ifs f a with ⟨hroom, hmode, hrun⟩ | ⟨-, e, hne, hrun⟩
    · have hclosed : s.opened f = none :=
        hkeeps.resolve_right fun h => h.elim (fun hfull => by omega) hmode
      have hsame : Function.update s.opened f none = s.opened :=
        Function.update_eq_self_iff.mpr hclosed.symm
      rw [hrun]
      dsimp only
      rw [if_pos rfl, hsame]
      exact hinv.create hclosed hroom
    · rw [hrun]
      dsimp only
      rw [if_neg hne]
      exact hinv
  | FW_IF_open f =>
    obtain ⟨hclosed, hattaches⟩ := hkeeps
    obtain ⟨⟨e, ifs'⟩, hopen, rfl⟩ := Option.map_eq_some_iff.mp hstep
    cases hcfg : s.ifs.cfg f with
    | none =>
      rw [Interfaces.prvGCQOpen, hcfg] at hopen
      obtain ⟨rfl, rfl⟩ := Prod.mk.inj (Option.some.inj hopen)
      dsimp only
      rw [if_neg nofun, Function.update_eq_self_iff.mpr hclosed.symm]
      exact hinv
    | some c =>
      obtain ⟨a, k⟩ := c
      dsimp only
      rcases prvGCQOpen_cases hcfg hopen with
        ⟨hfail, -, hpeer, h', hsame⟩ | ⟨-, hno, -⟩ | ⟨rfl, -, i, st, hst, htook, hsame⟩
      · rw [if_neg hfail]
        refine hinv.setProfile hcfg hsame (hpeer ▸ hinv.counted) ?_ (fun _ => ?_) nofun
        · rw [Function.update_eq_self_iff.mpr hclosed.symm, hpeer]
          exact hinv.exact
        · exact hinv.closed f (a, k) hcfg hclosed
      · rw [hattaches] at hno
        cases hno
      · have hhandle : ifs'.handle f = some i := by
          rw [Interfaces.handle, hsame.cfg, hcfg, Option.bind_some, hsame.profile,
            Function.update_self]
        rw [if_pos rfl, hhandle]
        refine hinv.setProfile hcfg hsame (htook.counted hinv.counted) ?_ nofun ?_
        · rw [htook.2.1]
          exact hinv.exact.grant hclosed htook.1
        · intro j hj
          refine ⟨?_, hj⟩
          rcases hst with rfl | rfl <;> rfl
  | FW_IF_close f =>
    obtain rfl := Option.some.inj hstep
    have hrefused : (s.ifs.prvGCQClose f).1 ≠ .NONE ∧ (s.ifs.prvGCQClose f).2 = s.ifs := by
      unfold Interfaces.prvGCQClose
      cases hcfg : s.ifs.cfg f with
      | none => exact ⟨nofun, rfl⟩
      | some c =>
        dsimp only
        rw [if_pos (hinv.closed f c hcfg hkeeps)]
        exact ⟨nofun, rfl⟩
    rw [if_neg hrefused.1, hrefused.2]
    exact hinv
  | FW_IF_write f pucData ulSize =>
    obtain rfl := Option.some.inj hstep
    unfold Interfaces.prvGCQWrite
    cases hpass : s.ifs.driverHandle f with
    | error e => exact hinv
    | ok h => exact hinv.sameUse (.of_transferred (xGCQProduceData_cases (Prod.mk.eta).symm).1)
  | FW_IF_read f null ulSize =>
    obtain rfl := Option.some.inj hstep
    unfold Interfaces.prvGCQRead
    cases null with
    | true => exact hinv
    | false =>
      cases hpass : s.ifs.driverHandle f with
      | error e => exact hinv
      | ok h =>
        have hcases := xGCQConsumeData_cases
          (show xGCQConsumeData s.ifs.peer h false ulSize = (_, _, _) from rfl)
        exact hinv.sameUse (.of_transferred hcases.1)
  | store a v =>
    obtain rfl := Option.some.inj hstep
    exact hinv.sameUse (.refl _)

/-- **A call that does not** loses an instance. -/
theorem Inv.leaks [Fintype F] (hinv : Inv s) (hstep : Interface.step s c = some s')
    (hloses : ¬ Keeps s c) : ¬ Accounted s c s' := by
  rintro ⟨hcard, -⟩
  have hexact := hinv.exact.card
  cases c with
  | FW_IF_create f a =>
    obtain rfl := Option.some.inj hstep
    rcases ulFW_IF_GCQ_Create_cases s.ifs f a with ⟨hroom, hmode, hrun⟩ | ⟨hwhy, -⟩
    · have hopen : (s.opened f).isSome :=
        Option.isSome_iff_ne_none.mpr fun hclosed => hloses (.inl hclosed)
      rw [hrun] at hcard
      have hlt := card_holders_update_none hopen
      dsimp only at hcard
      rw [if_pos rfl] at hcard
      omega
    · exact hloses (.inr hwhy)
  | FW_IF_open f =>
    obtain ⟨⟨e, ifs'⟩, hrun, rfl⟩ := Option.map_eq_some_iff.mp hstep
    dsimp only at hcard
    have hcreated : ∃ c, s.ifs.cfg f = some c := by
      cases hcfg : s.ifs.cfg f with
      | some c => exact ⟨c, rfl⟩
      | none =>
        exfalso
        refine hloses ⟨?_, ?_⟩
        · cases hopen : s.opened f with
          | none => rfl
          | some i =>
            obtain ⟨c, hc, -⟩ := hinv.opened f i hopen
            rw [hcfg] at hc
            cases hc
        · rw [Interfaces.attaches, hcfg]
    obtain ⟨⟨a, k⟩, hcfg⟩ := hcreated
    by_cases hopen : (s.opened f).isSome
    · have hle := card_holders_update_le hopen (if e = .NONE then ifs'.handle f else none)
      rcases prvGCQOpen_cases hcfg hrun with
        ⟨hfail, -, hpeer, -⟩ | ⟨-, -, i, st, htook, -⟩ | ⟨-, -, i, st, -, htook, -⟩
      · have hlt := card_holders_update_none hopen
        rw [if_neg hfail, hpeer] at hcard
        omega
      · have hmore := htook.card
        omega
      · have hmore := htook.card
        omega
    · have hclosed : s.opened f = none := Option.not_isSome_iff_eq_none.mp hopen
      rcases prvGCQOpen_cases hcfg hrun with
        ⟨-, hattaches, -⟩ | ⟨hfail, -, i, st, htook, -⟩ | ⟨-, hattaches, -⟩
      · exact hloses ⟨hclosed, hattaches⟩
      · have hmore := htook.card
        rw [if_neg hfail, Function.update_eq_self_iff.mpr hclosed.symm] at hcard
        omega
      · exact hloses ⟨hclosed, hattaches⟩
  | FW_IF_close f =>
    obtain rfl := Option.some.inj hstep
    have hopen : (s.opened f).isSome := Option.isSome_iff_ne_none.mpr hloses
    obtain ⟨i, hi⟩ := Option.isSome_iff_exists.mp hopen
    obtain ⟨c, hcfg, hstate, -⟩ := hinv.opened f i hi
    have hrun : s.ifs.prvGCQClose f
        = (.NONE, s.ifs.setProfile c.2 { s.ifs.xGcqProfile c.2 with xState := .CLOSED }) := by
      rw [Interfaces.prvGCQClose, hcfg]
      dsimp only
      rw [if_neg (Bool.eq_false_iff.mp hstate)]
    rw [hrun] at hcard
    have hlt := card_holders_update_none hopen
    have hsame : initialised (s.ifs.setProfile c.2
        { s.ifs.xGcqProfile c.2 with xState := .CLOSED }).peer.pxThis
        = initialised s.ifs.peer.pxThis := rfl
    dsimp only at hcard
    rw [if_pos rfl, hsame] at hcard
    omega
  | FW_IF_write f pucData ulSize => exact hloses trivial
  | FW_IF_read f null ulSize => exact hloses trivial
  | store a v => exact hloses trivial

/-- **In every run, the instances of the driver are accounted for at every call just when no open
interface is opened, closed or created again and no attach fails.** -/
theorem accounted_iff [Fintype F] (mem : Mem) (calls : List (Call F)) {s : System N F}
    (hrun : run Interface.step (start N F mem) calls = some s) :
    Along Interface.step Accounted (start N F mem) calls ↔
      run (guarded Interface.step Keeps) (start N F mem) calls = some s := by
  have hiff : ∀ (s : System N F) c s', Inv s → Interface.step s c = some s' →
      (Accounted s c s' ↔ Keeps s c) := by
    intro s c s' hinv hstep
    constructor
    · intro hacc
      by_contra hloses
      exact hinv.leaks hstep hloses hacc
    · exact fun hkeeps => hinv.accounted (hinv.step hstep hkeeps)
  exact along_iff (P := Accounted) (I := Inv)
    (fun s c s' hinv hstep hacc => hinv.step hstep ((hiff s c s' hinv hstep).mp hacc))
    hiff calls (inv_start mem) hrun

/-- One interface is created and opened, and the peer has published the header. -/
def openOnce : List (Call Unit) := [.FW_IF_create () consumerArgs, .FW_IF_open ()]

theorem openOnce_accounted : Along Interface.step Accounted (start 1 Unit headerMem) openOnce := by
  have hany : (run (guarded Interface.step Keeps) (start 1 Unit headerMem) openOnce).isSome := by
    decide +kernel
  obtain ⟨s, hs⟩ := Option.isSome_iff_exists.mp hany
  exact (accounted_iff headerMem openOnce (run_of_guarded openOnce hs)).mpr hs

/-- An open that is tried again while the peer is not ready takes a second instance. -/
theorem not_accounted :
    ¬ ∀ (N : ℕ) (mem : Mem) (calls : List (Call Unit)) (s : System N Unit),
      run Interface.step (start N Unit mem) calls = some s →
      Along Interface.step Accounted (start N Unit mem) calls := by
  intro h
  have hany : (run Interface.step (start 4 Unit fun _ => 0) openOnce).any (fun t =>
      (Interface.step t (.FW_IF_open ())).any fun t' =>
        decide ((holders t'.opened).card < (initialised t'.ifs.peer.pxThis).card)) = true := by
    decide +kernel
  obtain ⟨t, ht, hany⟩ := (Option.any_eq_true _ _).mp hany
  obtain ⟨t', ht', hlt⟩ := (Option.any_eq_true _ _).mp hany
  have hrun : run Interface.step (start 4 Unit fun _ => 0) (openOnce ++ [.FW_IF_open ()])
      = some t' := run_append_one openOnce ht ht'
  have hall := h 4 (fun _ => 0) _ t' hrun
  exact absurd (hall.last openOnce ht ht').1 (not_le.mpr (of_decide_eq_true hlt))

end Account

end Amr.Gcq.Interface
