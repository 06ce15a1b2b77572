/-
# What the capability walks need of a device

Both loops follow three functions of the capability that is visited: the reads it takes, the pointer
in its header and what is kept of it. So `read_pcie_capabilities` and `read_pcie_ext_capabilities`
end exactly for a device whose pointers lead to 0, or to a read that fails, before they run in a
circle for ever; nothing in the loops counts the visits. What they keep is then what the list holds,
unless the list is empty: a `capability_list` of 0 still has the start of the configuration space
visited, since the loop tests the pointer only after a visit.
-/
import Amr.Host.Capabilities

namespace Amr.Host.Capabilities

variable {n : ℕ} {C R : Type} {dev : pci_dev} {L : Layout n C R} {head a : BitVec n}
  {k base : ℕ} {r r' : R}

/-! ### Reads -/

def Fails (dev : pci_dev) (w : Width) (pos k : ℕ) : Prop :=
  pos % w.bytes ≠ 0 ∨ dev.ret k ≠ 0

/-- One of the reads at offsets from `base`, the first of them the `k`-th, does not succeed. -/
def Unreadable (dev : pci_dev) (base : ℕ) : List (Width × ℕ) → ℕ → Prop
  | [], _ => False
  | (w, offset) :: rest, k => Fails dev w (base + offset) k ∨ Unreadable dev base rest (k + 1)

theorem pci_read_config_of_fails {w : Width} {pos : ℕ} (h : Fails dev w pos k) :
    ∃ ret, pci_read_config dev w pos k = .error ret := by
  rw [pci_read_config]
  by_cases hpos : pos % w.bytes ≠ 0
  · exact ⟨_, if_pos hpos⟩
  · rw [if_neg hpos, if_pos (h.resolve_left hpos)]
    exact ⟨_, rfl⟩

theorem pci_read_config_of_not_fails {w : Width} {pos : ℕ} (h : ¬ Fails dev w pos k) :
    pci_read_config dev w pos k = .ok (dev.value w pos) := by
  rw [Fails, not_or] at h
  rw [pci_read_config, if_neg h.1, if_neg h.2]

theorem read_registers_of_unreadable {reads : List (Width × ℕ)} (h : Unreadable dev base reads k) :
    ∃ ret, read_registers dev base reads k = .error ret := by
  induction reads generalizing k with
  | nil => exact h.elim
  | cons read rest ih =>
    obtain ⟨w, offset⟩ := read
    by_cases hread : Fails dev w (base + offset) k
    · obtain ⟨ret, hret⟩ := pci_read_config_of_fails hread
      exact ⟨ret, by rw [read_registers, hret]⟩
    · obtain ⟨ret, hret⟩ := ih (h.resolve_left hread)
      exact ⟨ret, by rw [read_registers, pci_read_config_of_not_fails hread, hret]⟩

theorem read_registers_of_readable {reads : List (Width × ℕ)}
    (h : ¬ Unreadable dev base reads k) :
    read_registers dev base reads k =
      .ok (reads.map fun read => dev.value read.1 (base + read.2), k + reads.length) := by
  induction reads generalizing k with
  | nil => rfl
  | cons read rest ih =>
    obtain ⟨w, offset⟩ := read
    rw [Unreadable, not_or] at h
    rw [read_registers, pci_read_config_of_not_fails h.1, ih h.2]
    simp only [List.map_cons, List.length_cons, Nat.add_assoc, Nat.add_comm 1]

/-! ### A visit -/

/-- The header at `a`. -/
def pci_dev.header (dev : pci_dev) (a : BitVec n) : BitVec 32 := dev.value .dword a.toNat

namespace Layout

/-- The pointer in the header at `a`. -/
def pointer (L : Layout n C R) (dev : pci_dev) (a : BitVec n) : BitVec n := L.next (dev.header a)

/-- The registers that are read behind the header at `a`. -/
def behind (L : Layout n C R) (dev : pci_dev) (a : BitVec n) : List (Width × ℕ) :=
  match L.kind (dev.header a) with
  | none => []
  | some c => L.registers (dev.header a) c

/-- A visit to `visit.1` from read number `visit.2` on has a read that fails. -/
def VisitFails (L : Layout n C R) (dev : pci_dev) (visit : BitVec n × ℕ) : Prop :=
  Unreadable dev visit.1.toNat ((.dword, 0) :: L.behind dev visit.1) visit.2

/-- The visit after `visit`: where the pointer leads, with the number of the next read. -/
def after (L : Layout n C R) (dev : pci_dev) (visit : BitVec n × ℕ) : BitVec n × ℕ :=
  (L.pointer dev visit.1, visit.2 + 1 + (L.behind dev visit.1).length)

def note (L : Layout n C R) (dev : pci_dev) (visit : BitVec n × ℕ) (r : R) : R :=
  match L.kind (dev.header visit.1) with
  | none => r
  | some c =>
    L.keep visit.1 c (dev.header visit.1)
      ((L.behind dev visit.1).map fun read => dev.value read.1 (visit.1.toNat + read.2)) r

/-- **What a visit to a capability does.** -/
theorem follows (L : Layout n C R) (dev : pci_dev) :
    PointerWalk.Follows (L.body dev) (L.VisitFails dev) (L.after dev) (L.note dev) where
  fails := by
    rintro ⟨a, k⟩ r h
    by_cases hheader : Fails dev .dword (a.toNat + 0) k
    · obtain ⟨ret, hret⟩ := pci_read_config_of_fails hheader
      exact ⟨ret, by rw [body]; dsimp only; rw [← Nat.add_zero a.toNat, hret]⟩
    · have hregs : Unreadable dev a.toNat (L.behind dev a) (k + 1) := h.resolve_left hheader
      have hvalue : pci_read_config dev .dword a.toNat k = .ok (dev.header a) :=
        pci_read_config_of_not_fails hheader
      cases hc : L.kind (dev.header a) with
      | none =>
        rw [behind, hc] at hregs
        exact hregs.elim
      | some c =>
        rw [behind, hc] at hregs
        obtain ⟨ret, hret⟩ := read_registers_of_unreadable hregs
        refine ⟨ret, ?_⟩
        rw [body, hvalue]
        dsimp only
        rw [hc]
        dsimp only
        rw [hret]
  goes := by
    rintro ⟨a, k⟩ r h
    rw [VisitFails, Unreadable, not_or] at h
    have hvalue : pci_read_config dev .dword a.toNat k = .ok (dev.header a) :=
      pci_read_config_of_not_fails h.1
    have hregs := read_registers_of_readable h.2
    rw [body, after, note, hvalue]
    dsimp only at hregs ⊢
    cases hc : L.kind (dev.header a) with
    | none =>
      rw [behind, hc]
      rfl
    | some c =>
      have hlist : L.behind dev a = L.registers (dev.header a) c := by rw [behind, hc]
      dsimp only
      rw [← hlist, hregs]
      rfl

theorem fst_after (i : ℕ) (visit : BitVec n × ℕ) :
    ((L.after dev)^[i] visit).1 = (L.pointer dev)^[i] visit.1 :=
  (Function.Semiconj.iterate_right (f := Prod.fst) (fun _ => rfl) i) visit

/-! ### The way from a head -/

/-- The way from `head` ends: the pointers lead to 0, or to a capability with a read that fails. -/
def Ends (L : Layout n C R) (dev : pci_dev) (head : BitVec n) (k : ℕ) : Prop :=
  PointerWalk.Ends (L.VisitFails dev) (L.after dev) (fun visit => visit.1 == 0) (head, k)

/-- The way from `head` comes to 0, after `m` more capabilities, and no read before that fails. -/
def Completes (L : Layout n C R) (dev : pci_dev) (head : BitVec n) (k m : ℕ) : Prop :=
  PointerWalk.Completes (L.VisitFails dev) (L.after dev) (fun visit => visit.1 == 0) (head, k) m

/-- A capability of kind `c` in the list that starts with `head`: the pointers lead to it, and none
up to it, `head` included, is 0. -/
def Listed (L : Layout n C R) (dev : pci_dev) (head : BitVec n) (c : C) (a : BitVec n) : Prop :=
  L.kind (dev.header a) = some c ∧
    ∃ i, (L.pointer dev)^[i] head = a ∧ ∀ j ≤ i, (L.pointer dev)^[j] head ≠ 0

theorem loop_ends_iff : (∃ fuel x, L.loop dev head k fuel r = some x) ↔ L.Ends dev head k :=
  (L.follows dev).ends_iff

theorem completes_of_loop {fuel : ℕ} (h : L.loop dev head k fuel r = some (.ok r')) :
    ∃ m, L.Completes dev head k m ∧
      r' = PointerWalk.notes (L.after dev) (L.note dev) (m + 1) (head, k) r := by
  obtain ⟨m, -, hc, hr⟩ := (L.follows dev).completes_of_ok h
  exact ⟨m, hc, hr⟩

theorem Completes.listed {c : C} {i m : ℕ} (h : L.Completes dev head k m) (hhead : head ≠ 0)
    (hi : i ≤ m) (hkind : L.kind (dev.header ((L.pointer dev)^[i] head)) = some c) :
    L.Listed dev head c ((L.pointer dev)^[i] head) := by
  refine ⟨hkind, i, rfl, fun j hj => ?_⟩
  cases j with
  | zero => exact hhead
  | succ j =>
    have hdone : (((L.after dev)^[j + 1] (head, k)).1 == 0) = false := h.2.1 j (by omega)
    rw [fst_after] at hdone
    exact ne_of_beq_false hdone

end Layout

/-! ### What is kept -/

theorem pcie_cap_struct.part_fill (cap : pcie_cap_struct) (c c' : Capability) (s : cap_struct) :
    (cap.fill c s).part c' = if c = c' then some s else cap.part c' := by
  cases c <;> cases c' <;> rfl

/-- All that is kept is listed, under the kind of its ID. -/
def KeepsListed (dev : pci_dev) (capability_list : BitVec 8) (cap : pcie_cap_struct) : Prop :=
  ∀ c s, cap.part c = some s → cap_layout.Listed dev capability_list c s.base_addr

/-- The VSEC address that is kept, if one is found, is listed. -/
def KeepsListedVsec (dev : pci_dev) (e_cap : pcie_ext_cap_struct) : Prop :=
  e_cap.vsec_base_addr_found = true → ∃ a : BitVec 16, e_cap.vsec_base_addr = a.setWidth 32 ∧
    ext_layout.Listed dev PCIE_EXT_CAP_BASE_ADDR .vsec a

/-- **What `read_pcie_capabilities` should do**: come to an end, and keep capabilities of the list
only, each under the kind of its ID. -/
structure CapabilitiesRight (dev : pci_dev) (capability_list : BitVec 8) (k : ℕ) : Prop where
  ends : ∃ fuel x, read_pcie_capabilities dev capability_list k fuel = some x
  listed : ∀ fuel cap, read_pcie_capabilities dev capability_list k fuel = some (.ok cap) →
    KeepsListed dev capability_list cap

/-- **What `read_pcie_ext_capabilities` should do**: come to an end, and keep the address of a VSEC
of the list only. -/
structure ExtCapabilitiesRight (dev : pci_dev) (k : ℕ) : Prop where
  ends : ∃ fuel x, read_pcie_ext_capabilities dev k fuel = some x
  listed : ∀ fuel e_cap, read_pcie_ext_capabilities dev k fuel = some (.ok e_cap) →
    KeepsListedVsec dev e_cap

/-- The start of the configuration space, visited for the `capability_list` of 0 that says there is
no list, leads to 0 without a read that fails, past an ID that is kept. -/
def NoListKept (dev : pci_dev) (k : ℕ) : Prop :=
  ∃ m, cap_layout.Completes dev 0 k m ∧
    ∃ i ≤ m, (capability (dev.header ((cap_layout.pointer dev)^[i] 0))).isSome

theorem note_cap_part {visit : BitVec 8 × ℕ} {cap : pcie_cap_struct} {c : Capability}
    {s : cap_struct} (h : (cap_layout.note dev visit cap).part c = some s) :
    cap.part c = some s ∨ capability (dev.header visit.1) = some c ∧ s.base_addr = visit.1 := by
  rw [Layout.note] at h
  cases hc : cap_layout.kind (dev.header visit.1) with
  | none =>
    rw [hc] at h
    exact .inl h
  | some c' =>
    rw [hc] at h
    change (cap.fill c' _).part c = some s at h
    rw [pcie_cap_struct.part_fill] at h
    by_cases hcc : c' = c
    · rw [if_pos hcc] at h
      subst hcc
      obtain rfl := Option.some.inj h
      exact .inr ⟨hc, rfl⟩
    · rw [if_neg hcc] at h
      exact .inl h

theorem note_cap_isSome {visit : BitVec 8 × ℕ} {cap : pcie_cap_struct} {c : Capability}
    (h : (cap.part c).isSome ∨ capability (dev.header visit.1) = some c) :
    ((cap_layout.note dev visit cap).part c).isSome := by
  rw [Layout.note]
  cases hc : cap_layout.kind (dev.header visit.1) with
  | none =>
    rcases h with h | h
    · exact h
    · exact absurd (hc.symm.trans h) nofun
  | some c' =>
    change ((cap.fill c' _).part c).isSome
    rw [pcie_cap_struct.part_fill]
    by_cases hcc : c' = c
    · rw [if_pos hcc]
      rfl
    · rw [if_neg hcc]
      exact h.resolve_right fun h' => hcc (Option.some.inj (hc.symm.trans h'))

theorem keepsListed_no_caps {head : BitVec 8} : KeepsListed dev head no_caps := by
  intro c s hs
  cases c <;> cases hs

theorem capabilitiesRight_iff {head : BitVec 8} :
    CapabilitiesRight dev head k ↔
      cap_layout.Ends dev head k ∧ (head = 0 → ¬ NoListKept dev k) := by
  constructor
  · rintro ⟨hends, hlisted⟩
    refine ⟨Layout.loop_ends_iff.mp hends, ?_⟩
    rintro rfl ⟨m, hc, i, hi, hkind⟩
    obtain ⟨c, hkind⟩ := Option.isSome_iff_exists.mp hkind
    have hok : read_pcie_capabilities dev 0 k (m + 1) = some (.ok _) :=
      (cap_layout.follows dev).ok_of_completes hc (Nat.lt_succ_self m)
    have hvisit : capability (dev.header ((cap_layout.after dev)^[i] (0, k)).1) = some c := by
      rw [Layout.fst_after]
      exact hkind
    have hsome := PointerWalk.notes_bring (r := no_caps) (fun cap => (cap.part c).isSome)
      (Nat.lt_succ_of_le hi) (fun cap => note_cap_isSome (.inr hvisit))
      (fun j _ cap hcap => note_cap_isSome (.inl hcap))
    obtain ⟨s, hs⟩ := Option.isSome_iff_exists.mp hsome
    obtain ⟨-, i, -, hne⟩ := hlisted _ _ hok c s hs
    exact hne 0 (Nat.zero_le i) rfl
  · rintro ⟨hends, hkept⟩
    refine ⟨Layout.loop_ends_iff.mpr hends, fun fuel cap hok => ?_⟩
    obtain ⟨m, hc, rfl⟩ := Layout.completes_of_loop hok
    by_cases hhead : head = 0
    · subst hhead
      -- nothing on the way is of a kind that is kept
      refine PointerWalk.notes_keep (KeepsListed dev 0) keepsListed_no_caps
        fun i hi cap hcap c s hs => ?_
      rcases note_cap_part hs with hold | ⟨hkind, -⟩
      · exact hcap c s hold
      · rw [Layout.fst_after] at hkind
        exact absurd ⟨m, hc, i, Nat.le_of_lt_succ hi, Option.isSome_iff_exists.mpr ⟨c, hkind⟩⟩
          (hkept rfl)
    · refine PointerWalk.notes_keep (KeepsListed dev head) keepsListed_no_caps
        fun i hi cap hcap c s hs => ?_
      rcases note_cap_part hs with hold | ⟨hkind, hbase⟩
      · exact hcap c s hold
      · rw [Layout.fst_after] at hkind hbase
        rw [hbase]
        exact hc.listed hhead (Nat.le_of_lt_succ hi) hkind

theorem note_ext_cap {visit : BitVec 16 × ℕ} {e_cap : pcie_ext_cap_struct}
    (h : (ext_layout.note dev visit e_cap).vsec_base_addr_found = true) :
    (e_cap.vsec_base_addr_found = true ∧
        (ext_layout.note dev visit e_cap).vsec_base_addr = e_cap.vsec_base_addr) ∨
      ext_capability (dev.header visit.1) = some .vsec ∧
        (ext_layout.note dev visit e_cap).vsec_base_addr = visit.1.setWidth 32 := by
  rw [Layout.note] at h ⊢
  cases hc : ext_layout.kind (dev.header visit.1) with
  | none =>
    rw [hc] at h
    exact .inl ⟨h, rfl⟩
  | some c =>
    rw [hc] at h
    cases c with
    | vsec => exact .inr ⟨hc, rfl⟩
    | aer => exact .inl ⟨h, rfl⟩
    | ari => exact .inl ⟨h, rfl⟩
    | secondary_pci => exact .inl ⟨h, rfl⟩
    | dlf => exact .inl ⟨h, rfl⟩
    | phy_16_gts => exact .inl ⟨h, rfl⟩
    | lane_mar_rec => exact .inl ⟨h, rfl⟩

theorem extCapabilitiesRight_iff :
    ExtCapabilitiesRight dev k ↔ ext_layout.Ends dev PCIE_EXT_CAP_BASE_ADDR k := by
  refine ⟨fun h => Layout.loop_ends_iff.mp h.ends, fun hends => ?_⟩
  refine ⟨Layout.loop_ends_iff.mpr hends, fun fuel e_cap hok => ?_⟩
  obtain ⟨m, hc, rfl⟩ := Layout.completes_of_loop hok
  have hbase : PCIE_EXT_CAP_BASE_ADDR ≠ 0 := by decide
  refine PointerWalk.notes_keep (KeepsListedVsec dev) (fun h => absurd h Bool.false_ne_true)
    fun i hi e_cap he_cap hfound => ?_
  rcases note_ext_cap hfound with ⟨hold, heq⟩ | ⟨hkind, heq⟩
  · rw [heq]
    exact he_cap hold
  · rw [Layout.fst_after] at hkind heq
    exact ⟨_, heq, hc.listed hbase (Nat.le_of_lt_succ hi) hkind⟩

/-- **The capability walks are right exactly for devices whose pointers lead to an end.** -/
theorem walks_right_iff (dev : pci_dev) (capability_list : BitVec 8) (k k' : ℕ) :
    (CapabilitiesRight dev capability_list k ∧ ExtCapabilitiesRight dev k') ↔
      cap_layout.Ends dev capability_list k ∧
        ext_layout.Ends dev PCIE_EXT_CAP_BASE_ADDR k' ∧
        (capability_list = 0 → ¬ NoListKept dev k) := by
  rw [capabilitiesRight_iff, extCapabilitiesRight_iff]
  tauto

/-! ### A capability that points at itself -/

/-- A device whose only capability, at `0x40`, has its own address for a pointer; every read is
answered. -/
def loops : pci_dev where
  config pos := if pos = 0x34 ∨ pos = 0x41 then 0x40 else if pos = 0x40 then 0x09 else 0
  ret _ := 0

theorem loops_stays (i k : ℕ) : (cap_layout.after loops)^[i] (0x40, k) = (0x40, k + i) := by
  induction i with
  | zero => rfl
  | succ i ih =>
    rw [Function.iterate_succ_apply', ih]
    have hpointer : cap_layout.pointer loops 0x40 = 0x40 := by decide
    have hbehind : cap_layout.behind loops 0x40 = [] := by decide
    rw [Layout.after, hpointer, hbehind]
    rfl

/-- **The walk of a list that is a circle never ends.** -/
theorem not_walks_right :
    ¬ ∀ (dev : pci_dev) (capability_list : BitVec 8) (k k' : ℕ),
      CapabilitiesRight dev capability_list k ∧ ExtCapabilitiesRight dev k' := by
  intro h
  obtain ⟨i, hi⟩ := Layout.loop_ends_iff.mp (h loops 0x40 0 0).1.ends
  rcases hi with hfails | hdone
  · rw [loops_stays] at hfails
    rcases hfails with hheader | hrest
    · rcases hheader with hpos | hret
      · exact hpos (show 0x40 % 4 = 0 from rfl)
      · exact hret rfl
    · rw [show cap_layout.behind loops 0x40 = [] by decide] at hrest
      exact hrest
  · rw [loops_stays] at hdone
    have hne : (0x40 : BitVec 8) ≠ 0 := by decide
    exact hne (eq_of_beq hdone)

end Amr.Host.Capabilities
