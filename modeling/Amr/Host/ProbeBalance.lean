/-
# What a probe leaves behind

The configuration structures, the session, the attributes and the character device are released on
every path, and nothing that is not held is touched but for one case: the clean-up of the capability
lists reads through the list structure when it could not be allocated. The endpoints structure is
released on no path.
-/
import Amr.Host.Probe

namespace Amr.Host.Probe

open Holdings Holdings.Book Resource

/-! ### The configuration -/

/-- The structures of `ami_pcie.c`. -/
def CONFIG : Finset Resource :=
  {pcie_config, header, cap, pwr_mgt, msi, exp, ext_cap, ari, aer, dlf, lane_mar_rec, phy_16_gts,
    secondary_pci}

namespace Outcomes

variable (e : Outcomes)

def header_ok : Bool := e.header && e.header_reads.all id

def cap_ok : Bool := e.cap && e.exp && e.msi && e.pwr_mgt && e.cap_reads.all id

def ext_cap_ok : Bool :=
  e.ext_cap && e.ari && e.aer && e.dlf && e.lane_mar_rec && e.phy_16_gts && e.secondary_pci &&
    e.ext_cap_reads.all id

def config_ok : Bool := e.pcie_config && e.header_ok && e.cap_ok && e.ext_cap_ok

/-- One of the two list structures cannot be allocated. -/
def null_struct : Bool :=
  e.pcie_config && e.header_ok && (!e.cap || (e.cap_ok && !e.ext_cap))

end Outcomes

/-- A structure is held while one of its parts is. -/
structure Closed (H : Finset Resource) : Prop where
  in_config : header ∈ H ∨ cap ∈ H ∨ ext_cap ∈ H → pcie_config ∈ H
  in_cap : pwr_mgt ∈ H ∨ msi ∈ H ∨ exp ∈ H → cap ∈ H
  in_ext_cap : ari ∈ H ∨ aer ∈ H ∨ dlf ∈ H ∨ lane_mar_rec ∈ H ∨ phy_16_gts ∈ H ∨
    secondary_pci ∈ H → ext_cap ∈ H

variable {e : Outcomes} {H : Finset Resource} {w : Bool}

/-- The structures of the capability list. -/
def CAP : Finset Resource := {cap, pwr_mgt, msi, exp}

/-- The structures of the extended capability list. -/
def EXT_CAP : Finset Resource :=
  {ext_cap, ari, aer, dlf, lane_mar_rec, phy_16_gts, secondary_pci}

theorem read_pcie_config_header_of (hc : pcie_config ∈ H) (hh : header ∉ H) :
    read_pcie_config_header e (of H w) =
      if e.header_ok then (of (insert header H) w, true) else (of H w, false) := by
  unfold read_pcie_config_header Outcomes.header_ok
  simp only [use_of, alloc_of _ hh, release_of, hc]
  cases e.header <;> cases e.header_reads.all id <;> simp [hc, hh]

theorem fail_capabilities_of (hc : pcie_config ∈ H) (hcap : pwr_mgt ∈ H → cap ∈ H) :
    fail_capabilities (of H w) = (of (H \ CAP) (w || decide (cap ∉ H)), false) := by
  unfold fail_capabilities
  by_cases h : cap ∈ H
  · simp only [of_ptr, h, if_true, release_of]
    congr 2
    · ext x
      simp only [CAP, Finset.mem_erase, Finset.mem_sdiff, Finset.mem_insert, Finset.mem_singleton]
      tauto
    · simp [hc, h]
  · have hp : pwr_mgt ∉ H := fun hp => h (hcap hp)
    simp only [of_ptr, h, if_false, release_of]
    congr 2
    · ext x
      simp only [CAP, Finset.mem_erase, Finset.mem_sdiff, Finset.mem_insert, Finset.mem_singleton]
      constructor
      · rintro ⟨h₁, h₂, h₃, hx⟩
        refine ⟨hx, fun hor => ?_⟩
        rcases hor with rfl | rfl | rfl | rfl <;> contradiction
      · tauto
    · simp [hc, h]

theorem read_pcie_capabilities_of (hc : pcie_config ∈ H) (hh : header ∈ H)
    (hd : Disjoint H CAP) : read_pcie_capabilities e (of H w) =
      if e.cap_ok then (of (insert pwr_mgt (insert msi (insert exp (insert cap H)))) w, true)
      else (of H (w || !e.cap), false) := by
  have hnot : ∀ r ∈ CAP, r ∉ H := fun r hr hH => Finset.disjoint_left.mp hd hH hr
  have h₀ : cap ∉ H := hnot _ (by decide)
  have h₁ : exp ∉ H := hnot _ (by decide)
  have h₂ : msi ∉ H := hnot _ (by decide)
  have h₃ : pwr_mgt ∉ H := hnot _ (by decide)
  have hfail : ∀ T ⊆ CAP, cap ∈ T → fail_capabilities (of (T ∪ H) w) = (of H w, false) := by
    intro T hT hcap
    rw [fail_capabilities_of (by simp [hc]) (by simp [hcap]), Finset.union_sdiff_distrib,
      Finset.sdiff_eq_empty_iff_subset.mpr hT, Finset.sdiff_eq_self_of_disjoint hd]
    simp [hcap]
  unfold read_pcie_capabilities Outcomes.cap_ok
  cases e.cap with
  | false =>
    simp [alloc_of, hc, hh, h₀, fail_capabilities_of, h₃, Finset.sdiff_eq_self_of_disjoint hd]
  | true =>
    cases e.exp with
    | false => simpa [alloc_of, hc, hh, h₀, h₁] using hfail {cap} (by decide) (by decide)
    | true =>
      cases e.msi with
      | false =>
        simpa [alloc_of, hc, hh, h₀, h₁, h₂] using hfail {exp, cap} (by decide) (by decide)
      | true =>
        cases e.pwr_mgt with
        | false =>
          simpa [alloc_of, hc, hh, h₀, h₁, h₂, h₃] using
            hfail {msi, exp, cap} (by decide) (by decide)
        | true =>
          cases e.cap_reads.all id with
          | false =>
            simpa [alloc_of, hc, hh, h₀, h₁, h₂, h₃] using
              hfail {pwr_mgt, msi, exp, cap} (by decide) (by decide)
          | true => simp [alloc_of, hc, hh, h₀, h₁, h₂, h₃]

theorem fail_ext_capabilities_of (hc : pcie_config ∈ H) :
    fail_ext_capabilities (of H w) = (of (H \ EXT_CAP) (w || decide (ext_cap ∉ H)), false) := by
  unfold fail_ext_capabilities
  simp only [release_of]
  congr 2
  · ext x
    simp only [EXT_CAP, Finset.mem_erase, Finset.mem_sdiff, Finset.mem_insert,
      Finset.mem_singleton]
    tauto
  · simp [hc]

theorem read_pcie_ext_capabilities_of (hc : pcie_config ∈ H) (hd : Disjoint H EXT_CAP) :
    read_pcie_ext_capabilities e (of H w) =
      if e.ext_cap_ok then (of (insert secondary_pci (insert phy_16_gts (insert lane_mar_rec
        (insert dlf (insert aer (insert ari (insert ext_cap H))))))) w, true)
      else (of H (w || !e.ext_cap), false) := by
  have hnot : ∀ r ∈ EXT_CAP, r ∉ H := fun r hr hH => Finset.disjoint_left.mp hd hH hr
  have h₀ : ext_cap ∉ H := hnot _ (by decide)
  have h₁ : ari ∉ H := hnot _ (by decide)
  have h₂ : aer ∉ H := hnot _ (by decide)
  have h₃ : dlf ∉ H := hnot _ (by decide)
  have h₄ : lane_mar_rec ∉ H := hnot _ (by decide)
  have h₅ : phy_16_gts ∉ H := hnot _ (by decide)
  have h₆ : secondary_pci ∉ H := hnot _ (by decide)
  have hfail : ∀ T ⊆ EXT_CAP, ext_cap ∈ T →
      fail_ext_capabilities (of (T ∪ H) w) = (of H w, false) := by
    intro T hT hcap
    rw [fail_ext_capabilities_of (by simp [hc]), Finset.union_sdiff_distrib,
      Finset.sdiff_eq_empty_iff_subset.mpr hT, Finset.sdiff_eq_self_of_disjoint hd]
    simp [hcap]
  unfold read_pcie_ext_capabilities Outcomes.ext_cap_ok
  cases e.ext_cap with
  | false =>
    simp [alloc_of, hc, h₀, fail_ext_capabilities_of, Finset.sdiff_eq_self_of_disjoint hd]
  | true =>
    cases e.ari with
    | false => simpa [alloc_of, hc, h₀, h₁] using hfail {ext_cap} (by decide) (by decide)
    | true =>
      cases e.aer with
      | false =>
        simpa [alloc_of, hc, h₀, h₁, h₂] using hfail {ari, ext_cap} (by decide) (by decide)
      | true =>
        cases e.dlf with
        | false =>
          simpa [alloc_of, hc, h₀, h₁, h₂, h₃] using
            hfail {aer, ari, ext_cap} (by decide) (by decide)
        | true =>
          cases e.lane_mar_rec with
          | false =>
            simpa [alloc_of, hc, h₀, h₁, h₂, h₃, h₄] using
              hfail {dlf, aer, ari, ext_cap} (by decide) (by decide)
          | true =>
            cases e.phy_16_gts with
            | false =>
              simpa [alloc_of, hc, h₀, h₁, h₂, h₃, h₄, h₅] using
                hfail {lane_mar_rec, dlf, aer, ari, ext_cap} (by decide) (by decide)
            | true =>
              cases e.secondary_pci with
              | false =>
                simpa [alloc_of, hc, h₀, h₁, h₂, h₃, h₄, h₅, h₆] using
                  hfail {phy_16_gts, lane_mar_rec, dlf, aer, ari, ext_cap} (by decide) (by decide)
              | true =>
                cases e.ext_cap_reads.all id with
                | false =>
                  simpa [alloc_of, hc, h₀, h₁, h₂, h₃, h₄, h₅, h₆] using
                    hfail {secondary_pci, phy_16_gts, lane_mar_rec, dlf, aer, ari, ext_cap}
                      (by decide) (by decide)
                | true => simp [alloc_of, hc, h₀, h₁, h₂, h₃, h₄, h₅, h₆]

theorem release_ext_caps_of (hc : pcie_config ∈ H) (hcl : Closed H) :
    release_ext_caps (of H w) = of (H \ EXT_CAP) w := by
  unfold release_ext_caps
  by_cases h : ext_cap ∈ H
  · simp only [of_ptr, h, if_true, release_of]
    refine congrArg₂ of ?_ (by simp [h, hc])
    ext x
    simp only [EXT_CAP, Finset.mem_erase, Finset.mem_sdiff, Finset.mem_insert,
      Finset.mem_singleton]
    tauto
  · have hnone : Disjoint H EXT_CAP := by
      refine Finset.disjoint_left.mpr fun x hx hmem => h ?_
      simp only [EXT_CAP, Finset.mem_insert, Finset.mem_singleton] at hmem
      rcases hmem with rfl | hmem
      · exact hx
      · refine hcl.in_ext_cap ?_
        rcases hmem with rfl | rfl | rfl | rfl | rfl | rfl <;> simp [hx]
    simp [h, hc, Finset.sdiff_eq_self_of_disjoint hnone]

theorem release_caps_of (hc : pcie_config ∈ H) (hcl : Closed H) :
    release_caps (of H w) = of (H \ CAP) w := by
  unfold release_caps
  by_cases h : cap ∈ H
  · simp only [of_ptr, h, if_true, release_of]
    refine congrArg₂ of ?_ (by simp [h, hc])
    ext x
    simp only [CAP, Finset.mem_erase, Finset.mem_sdiff, Finset.mem_insert, Finset.mem_singleton]
    tauto
  · have hnone : Disjoint H CAP := by
      refine Finset.disjoint_left.mpr fun x hx hmem => h ?_
      simp only [CAP, Finset.mem_insert, Finset.mem_singleton] at hmem
      rcases hmem with rfl | hmem
      · exact hx
      · refine hcl.in_cap ?_
        rcases hmem with rfl | rfl | rfl <;> simp [hx]
    simp [h, hc, Finset.sdiff_eq_self_of_disjoint hnone]

theorem Closed.sdiff_ext (hcl : Closed H) : Closed (H \ EXT_CAP) where
  in_config h := by
    refine Finset.mem_sdiff.mpr ⟨hcl.in_config ?_, by decide⟩
    rcases h with h | h | h
    · exact .inl (Finset.mem_sdiff.mp h).1
    · exact .inr (.inl (Finset.mem_sdiff.mp h).1)
    · exact .inr (.inr (Finset.mem_sdiff.mp h).1)
  in_cap h := by
    refine Finset.mem_sdiff.mpr ⟨hcl.in_cap ?_, by decide⟩
    rcases h with h | h | h
    · exact .inl (Finset.mem_sdiff.mp h).1
    · exact .inr (.inl (Finset.mem_sdiff.mp h).1)
    · exact .inr (.inr (Finset.mem_sdiff.mp h).1)
  in_ext_cap h := by
    exfalso
    rcases h with h | h | h | h | h | h <;> exact (Finset.mem_sdiff.mp h).2 (by decide)

theorem CONFIG_eq : CONFIG = insert pcie_config (insert header (CAP ∪ EXT_CAP)) := by decide

/-- **The configuration structures are released**, whichever of them are there. -/
theorem release_pcie_mem_of (hp : pf_dev ∈ H) (hcl : Closed H) :
    release_pcie_mem (of H w) = of (H \ CONFIG) w := by
  unfold release_pcie_mem
  by_cases hc : pcie_config ∈ H
  · have hc' : pcie_config ∈ H \ EXT_CAP := Finset.mem_sdiff.mpr ⟨hc, by decide⟩
    have hc'' : pcie_config ∈ (H \ EXT_CAP) \ CAP := Finset.mem_sdiff.mpr ⟨hc', by decide⟩
    have hp'' : pf_dev ∈ ((H \ EXT_CAP) \ CAP).erase header :=
      Finset.mem_erase.mpr ⟨by decide, Finset.mem_sdiff.mpr
        ⟨Finset.mem_sdiff.mpr ⟨hp, by decide⟩, by decide⟩⟩
    simp only [use_of, of_ptr, hp, hc, if_true, not_true_eq_false, decide_false, Bool.or_false]
    rw [release_ext_caps_of hc hcl, release_caps_of hc' hcl.sdiff_ext, release_of, release_of,
      sdiff_sdiff_left, Finset.sup_eq_union, Finset.union_comm, ← Finset.sdiff_insert,
      ← Finset.sdiff_insert, ← CONFIG_eq]
    rw [sdiff_sdiff_left, Finset.sup_eq_union, Finset.union_comm] at hc'' hp''
    rw [← Finset.sdiff_insert] at hp''
    simp only [hc'', hp'', not_true_eq_false, decide_false, Bool.or_false]
  · have hnone : Disjoint H CONFIG := by
      refine Finset.disjoint_left.mpr fun x hx hmem => hc ?_
      have hcap : cap ∈ H → pcie_config ∈ H := fun h => hcl.in_config (.inr (.inl h))
      have hext : ext_cap ∈ H → pcie_config ∈ H := fun h => hcl.in_config (.inr (.inr h))
      have h₁ := hcl.in_cap
      have h₂ := hcl.in_ext_cap
      simp only [CONFIG, Finset.mem_insert, Finset.mem_singleton] at hmem
      rcases hmem with rfl | rfl | rfl | rfl | rfl | rfl | rfl | rfl | rfl | rfl | rfl | rfl | rfl
      · exact hx
      · exact hcl.in_config (.inl hx)
      · exact hcap hx
      · exact hcap (h₁ (.inl hx))
      · exact hcap (h₁ (.inr (.inl hx)))
      · exact hcap (h₁ (.inr (.inr hx)))
      · exact hext hx
      all_goals exact hext (h₂ (by simp [hx]))
    simp [hp, hc, Finset.sdiff_eq_self_of_disjoint hnone]

theorem Closed.union {T : Finset Resource} (hT : Closed T) (hd : Disjoint H CONFIG) :
    Closed (T ∪ H) := by
  have hnot : ∀ r ∈ CONFIG, r ∉ H := fun r hr hH => Finset.disjoint_left.mp hd hH hr
  have hmem : ∀ r ∈ CONFIG, (r ∈ T ∪ H ↔ r ∈ T) := fun r hr => by simp [hnot r hr]
  refine ⟨?_, ?_, ?_⟩
  · rw [hmem header (by decide), hmem cap (by decide), hmem ext_cap (by decide),
      hmem pcie_config (by decide)]
    exact hT.in_config
  · rw [hmem pwr_mgt (by decide), hmem msi (by decide), hmem exp (by decide),
      hmem cap (by decide)]
    exact hT.in_cap
  · rw [hmem ari (by decide), hmem aer (by decide), hmem dlf (by decide),
      hmem lane_mar_rec (by decide), hmem phy_16_gts (by decide),
      hmem secondary_pci (by decide), hmem ext_cap (by decide)]
    exact hT.in_ext_cap

theorem release_pcie_mem_union {T : Finset Resource} (hp : pf_dev ∈ H) (hd : Disjoint H CONFIG)
    (hT : T ⊆ CONFIG) (hcl : Closed T) : release_pcie_mem (of (T ∪ H) w) = of H w := by
  rw [release_pcie_mem_of (by simp [hp]) (hcl.union hd), Finset.union_sdiff_distrib,
    Finset.sdiff_eq_empty_iff_subset.mpr hT, Finset.sdiff_eq_self_of_disjoint hd,
    Finset.empty_union]

theorem config_union (H : Finset Resource) :
    insert secondary_pci (insert phy_16_gts (insert lane_mar_rec (insert dlf (insert aer
      (insert ari (insert ext_cap (insert pwr_mgt (insert msi (insert exp (insert cap
        (insert header (insert pcie_config H)))))))))))) = CONFIG ∪ H := by
  have hset : CONFIG = {secondary_pci, phy_16_gts, lane_mar_rec, dlf, aer, ari, ext_cap, pwr_mgt,
      msi, exp, cap, header, pcie_config} := by decide
  rw [hset]
  simp only [Finset.insert_union, Finset.singleton_union]

/-- **Reading the configuration**: all its structures, or none of them. -/
theorem read_pcie_configuration_of (hp : pf_dev ∈ H) (hd : Disjoint H CONFIG) :
    read_pcie_configuration e (of H w) =
      if e.config_ok then (of (CONFIG ∪ H) w, true)
      else (of H (w || e.null_struct), false) := by
  have hnot : ∀ r ∈ CONFIG, r ∉ H := fun r hr hH => Finset.disjoint_left.mp hd hH hr
  have hc : pcie_config ∉ H := hnot _ (by decide)
  have hh : header ∉ insert pcie_config H := by simp [hnot header (by decide)]
  have hcap : Disjoint (insert header (insert pcie_config H)) CAP := by
    rw [show insert header (insert pcie_config H) = {header, pcie_config} ∪ H by simp]
    exact Finset.disjoint_union_left.mpr ⟨by decide, hd.mono_right (by decide)⟩
  have hext : Disjoint (insert pwr_mgt (insert msi (insert exp (insert cap (insert header
      (insert pcie_config H)))))) EXT_CAP := by
    rw [show insert pwr_mgt (insert msi (insert exp (insert cap (insert header
      (insert pcie_config H))))) = {pwr_mgt, msi, exp, cap, header, pcie_config} ∪ H by simp]
    exact Finset.disjoint_union_left.mpr ⟨by decide, hd.mono_right (by decide)⟩
  have hrel := fun (T : Finset Resource) (hT : T ⊆ CONFIG) (hcl : Closed T) (v : Bool) =>
    release_pcie_mem_union (w := v) hp hd hT hcl
  unfold read_pcie_configuration Outcomes.config_ok Outcomes.null_struct
  simp only [use_of, hp, not_true_eq_false, decide_false, Bool.or_false, alloc_of _ hc]
  cases e.pcie_config with
  | false =>
    have hnone := hrel ∅ (by decide) ⟨by decide, by decide, by decide⟩ w
    simpa using hnone
  | true =>
    simp only [if_true, Bool.true_eq_false, if_false, Bool.true_and]
    rw [read_pcie_config_header_of (by simp) hh]
    cases e.header_ok with
    | false =>
      simpa using hrel {pcie_config} (by decide) ⟨by decide, by decide, by decide⟩ w
    | true =>
      simp only [if_true, Bool.true_eq_false, if_false, Bool.true_and]
      rw [read_pcie_capabilities_of (by simp) (by simp) hcap]
      cases hcapok : e.cap_ok with
      | false =>
        simpa using hrel {header, pcie_config} (by decide) ⟨by decide, by decide, by decide⟩
          (w || !e.cap)
      | true =>
        have hcapt : e.cap = true := by
          simp only [Outcomes.cap_ok, Bool.and_eq_true] at hcapok
          exact hcapok.1.1.1.1
        simp only [if_true, Bool.true_eq_false, if_false, Bool.true_and, hcapt, Bool.not_true,
          Bool.false_or]
        rw [read_pcie_ext_capabilities_of (by simp) hext]
        cases e.ext_cap_ok with
        | false =>
          simpa using hrel {pwr_mgt, msi, exp, cap, header, pcie_config} (by decide)
            ⟨by decide, by decide, by decide⟩ (w || !e.ext_cap)
        | true =>
          simp only [if_true, Bool.true_eq_false, if_false, Prod.mk.injEq, and_true]
          rw [config_union]

/-! ### The vendor region -/

/-- What `read_vsec` leaves behind, whether it succeeds or not. -/
def Outcomes.kept (e : Outcomes) : Finset Resource :=
  if e.endpoints then
    if e.region && e.mapping && !(e.uuid_in_range && e.iounmap_inside) then
      {Resource.mapping, Resource.endpoints}
    else {Resource.endpoints}
  else ∅

theorem read_vsec_of (hp : pf_dev ∈ H) (he : endpoints ∉ H) (hr : region ∉ H)
    (hm : mapping ∉ H) : read_vsec e (of H w) =
      (of (H ∪ e.kept) w, e.endpoints && e.region && e.mapping && e.uuid_in_range) := by
  unfold read_vsec read_logic_uuid release_vsec_mem Outcomes.kept
  simp only [use_of, hp, alloc_of _ he]
  cases e.endpoints with
  | false => simp
  | true =>
    cases e.region with
    | false => simp
    | true =>
      cases e.mapping with
      | false => simp [hr]
      | true =>
        have hswap : (insert mapping (insert region (insert endpoints H))).erase region =
            insert mapping (insert endpoints H) := by
          rw [Finset.erase_insert_of_ne (by decide), Finset.erase_insert (by simp [hr])]
        cases e.uuid_in_range <;> cases e.iounmap_inside <;> simp [hr, hm, hswap]

/-! ### Attributes and the character device -/

def ATTRS : Finset Resource := (Finset.range MGMT_ATTRS).image mgmt_attr

theorem mem_ATTRS {x : Resource} : x ∈ ATTRS ↔ ∃ i < MGMT_ATTRS, mgmt_attr i = x := by
  simp [ATTRS]

theorem remove_sysfs_of : remove_sysfs (of H w) = of (H \ ATTRS) w := by
  have hfold : ∀ (l : List ℕ) (H : Finset Resource),
      l.foldl (fun b i => b.discard (mgmt_attr i)) (of H w) =
        of (H \ (l.map mgmt_attr).toFinset) w := by
    intro l
    induction l with
    | nil => simp
    | cons i l ih =>
      intro H
      rw [List.foldl_cons, discard_of, ih, List.map_cons, List.toFinset_cons,
        Finset.sdiff_insert, Finset.erase_sdiff_comm]
  have hset : ((List.range MGMT_ATTRS).map mgmt_attr).toFinset = ATTRS := by
    ext x
    simp [mem_ATTRS]
  unfold remove_sysfs
  rw [hfold, hset]

theorem create_files_of (l : List ℕ) (hl : l.Nodup) (hd : ∀ i ∈ l, mgmt_attr i ∉ H) :
    ∃ T ⊆ (l.map mgmt_attr).toFinset,
      create_files e l (of H w) = (of (T ∪ H) w, l.all e.mgmt_attr) ∧
        (l.all e.mgmt_attr = true → T = (l.map mgmt_attr).toFinset) := by
  induction l generalizing H with
  | nil => exact ⟨∅, by simp, by simp [create_files], by simp⟩
  | cons i l ih =>
    obtain ⟨hi, hl⟩ := List.nodup_cons.mp hl
    rw [create_files, List.all_cons]
    cases hok : e.mgmt_attr i with
    | false => exact ⟨∅, by simp, by simp, by simp⟩
    | true =>
      have hnew : mgmt_attr i ∉ H := hd i (by simp)
      have hrest : ∀ j ∈ l, mgmt_attr j ∉ insert (mgmt_attr i) H := by
        intro j hj hmem
        rcases Finset.mem_insert.mp hmem with heq | hmem
        · exact hi (by injection heq with hij; exact hij ▸ hj)
        · exact hd j (by simp [hj]) hmem
      obtain ⟨T, hT, hrun, hall⟩ := ih hl hrest
      refine ⟨insert (mgmt_attr i) T, ?_, ?_, fun h => ?_⟩
      · rw [List.map_cons, List.toFinset_cons]
        exact Finset.insert_subset_insert _ hT
      · simp only [if_true, acquire_of, hnew, decide_false, Bool.or_false, hrun, Bool.true_and,
          Finset.union_insert, Finset.insert_union]
      · rw [hall (by simpa using h), List.map_cons, List.toFinset_cons]

theorem register_sysfs_of (hd : Disjoint H ATTRS) : register_sysfs e (of H w) =
    if (List.range MGMT_ATTRS).all e.mgmt_attr then (of (ATTRS ∪ H) w, true)
    else (of H w, false) := by
  have hset : ((List.range MGMT_ATTRS).map mgmt_attr).toFinset = ATTRS := by
    ext x
    simp [mem_ATTRS]
  obtain ⟨T, hT, hrun, hall⟩ := create_files_of (e := e) (H := H) (w := w) (List.range MGMT_ATTRS)
    List.nodup_range fun i hi hH => Finset.disjoint_left.mp hd hH
      (mem_ATTRS.mpr ⟨i, List.mem_range.mp hi, rfl⟩)
  rw [hset] at hT hall
  unfold register_sysfs
  simp only [hrun]
  cases hok : (List.range MGMT_ATTRS).all e.mgmt_attr with
  | true => simp [hall hok]
  | false =>
    simp only [Bool.false_eq_true, if_false, remove_sysfs_of, Finset.union_sdiff_distrib,
      Finset.sdiff_eq_empty_iff_subset.mpr hT, Finset.sdiff_eq_self_of_disjoint hd,
      Finset.empty_union]

theorem create_cdev_of (h₀ : chrdev_region ∉ H) (h₁ : device ∉ H) (h₂ : cdev ∉ H) :
    create_cdev e true (of H w) =
      if e.chrdev_region && e.device && e.cdev_add then
        (of (insert cdev (insert device (insert chrdev_region H))) w, true)
      else (of H w, false) := by
  unfold create_cdev
  cases e.chrdev_region <;> cases e.device <;> cases e.cdev_add <;> simp [h₀, h₁, h₂]

/-! ### The whole of a probe and a removal -/

/-- What is released after a session could have been set up. -/
def LATE : Finset Resource := insert amc (insert pf_dev CONFIG)

def REMOVED : Finset Resource :=
  insert chrdev_region (insert device (insert cdev (insert amc (insert pf_dev (ATTRS ∪ CONFIG)))))

/-- What the caller of the probe and the driver core release. -/
def CORE : Finset Resource := {sensors, hwmon, enabled}

theorem closed_of_subset (h : CONFIG ⊆ H) : Closed H :=
  ⟨fun _ => h (by decide), fun _ => h (by decide), fun _ => h (by decide)⟩

theorem delete_data_of (hp : pf_dev ∈ H) (hcl : Closed H) :
    delete_data (of H w) = (of (H \ insert pf_dev CONFIG) w, false) := by
  have hmem : pf_dev ∈ H \ CONFIG := Finset.mem_sdiff.mpr ⟨hp, by decide⟩
  unfold delete_data release_vsec_mem
  rw [if_neg (by decide), release_pcie_mem_of hp hcl, undo_of, Finset.sdiff_insert]
  simp [hmem]

theorem remove_pf_dev_of (hp : pf_dev ∈ H) (hc : CONFIG ⊆ H) :
    remove_pf_dev (of H w) = (of (H \ LATE) w, false) := by
  have hsub : CONFIG ⊆ H.erase amc := fun x hx =>
    Finset.mem_erase.mpr ⟨fun h => absurd (h ▸ hx) (by decide), hc hx⟩
  unfold remove_pf_dev LATE
  rw [release_of, delete_data_of (by simp [hp]) (closed_of_subset hsub), Finset.erase_sdiff_comm,
    ← Finset.sdiff_insert]
  simp [hp]

theorem delete_pf_dev_data_of (hp : pf_dev ∈ H) (hc : CONFIG ⊆ H) (h₀ : chrdev_region ∈ H)
    (h₁ : device ∈ H) (h₂ : cdev ∈ H) : delete_pf_dev_data (of H w) = of (H \ REMOVED) w := by
  have hsub : CONFIG ⊆ (((H.erase amc).erase cdev).erase device).erase chrdev_region := by
    intro x hx
    have hne : ∀ r ∉ CONFIG, x ≠ r := fun r hr h => hr (h ▸ hx)
    simp only [Finset.mem_erase]
    exact ⟨hne _ (by decide), hne _ (by decide), hne _ (by decide), hne _ (by decide), hc hx⟩
  have hattr : ∀ r, r ∉ ATTRS ∨ ∃ i, r = mgmt_attr i := fun r => by
    rw [mem_ATTRS]
    exact or_iff_not_imp_left.mpr fun h => by
      obtain ⟨i, -, hi⟩ := not_not.mp h
      exact ⟨i, hi.symm⟩
  have hpf : pf_dev ∉ ATTRS := (hattr pf_dev).resolve_right (by simp)
  unfold delete_pf_dev_data shutdown_pf_dev_services release_vsec_mem
  simp only [release_of, of_ptr, Finset.mem_erase, h₂, h₁, h₀, hp, ne_eq, reduceCtorEq,
    not_false_eq_true, true_and, if_true, undo_of, not_true_eq_false, decide_false,
    Bool.or_false, Bool.true_eq_false, if_false]
  rw [release_pcie_mem_of (by simp [hp]) (closed_of_subset hsub), remove_sysfs_of, undo_of]
  have hmem : pf_dev ∈ ((((H.erase amc).erase cdev).erase device).erase chrdev_region \ CONFIG) \
      ATTRS := by
    simp [hp, hpf, CONFIG]
  congr 1
  · ext x
    simp only [REMOVED, Finset.mem_erase, Finset.mem_sdiff, Finset.mem_insert, Finset.mem_union]
    tauto
  · simp [hmem]

theorem union_sdiff_eq {T K R : Finset Resource} (hT : T ⊆ R) (hK : Disjoint K R) :
    (T ∪ K) \ R = K := by
  rw [Finset.union_sdiff_distrib, Finset.sdiff_eq_empty_iff_subset.mpr hT,
    Finset.sdiff_eq_self_of_disjoint hK, Finset.empty_union]

theorem core_of (he : enabled ∈ H) :
    devres_release_all ((of H w).undo enabled) = of (H \ CORE) w := by
  unfold devres_release_all CORE
  rw [undo_of, discard_of, discard_of, Finset.sdiff_insert, Finset.sdiff_insert,
    Finset.sdiff_singleton_eq_erase, Finset.erase_right_comm]
  simp [he]

theorem removal_of (he : enabled ∈ H) (hp : pf_dev ∈ H) (hc : CONFIG ⊆ H)
    (h₀ : chrdev_region ∈ H) (h₁ : device ∈ H) (h₂ : cdev ∈ H) :
    devres_release_all (pcie_device_remove (of H w)) = of (H \ (CORE ∪ REMOVED)) w := by
  have hsub : CONFIG ⊆ H.erase enabled := fun x hx =>
    Finset.mem_erase.mpr ⟨fun h => absurd (h ▸ hx) (by decide), hc hx⟩
  unfold pcie_device_remove devres_release_all
  rw [undo_of, delete_pf_dev_data_of (by simp [hp]) hsub (by simp [h₀]) (by simp [h₁])
    (by simp [h₂]), discard_of, discard_of]
  refine congrArg₂ of ?_ ?_
  · ext x
    simp only [CORE, Finset.mem_erase, Finset.mem_sdiff, Finset.mem_insert, Finset.mem_union,
      Finset.mem_singleton]
    tauto
  · simp [he]

namespace Outcomes

variable (e : Outcomes)

/-- The vendor region is looked at: the configuration was read and written. -/
def reaches_vsec : Bool := e.pf_dev && e.config_ok && write_pcie_configuration e

def left : Finset Resource := if e.supported && e.enable && e.reaches_vsec then e.kept else ∅

/-- The probe reads through a pointer that is NULL. -/
def faulty : Bool := e.supported && e.enable && e.pf_dev && e.null_struct

end Outcomes

theorem kept_subset : e.kept ⊆ {mapping, endpoints} := by
  unfold Outcomes.kept
  split
  · split
    · exact subset_rfl
    · decide
  · exact Finset.empty_subset _

/-- What is held when a device is there: on top of what the vendor region left. -/
def BASE : Finset Resource := CONFIG ∪ {pf_dev, enabled}

theorem discover_and_register_of (h₀ : sensors ∉ H) (h₁ : hwmon ∉ H) :
    ∃ M ⊆ ({sensors, hwmon} : Finset Resource), ∃ ok,
      discover_and_register e (of H w) = (of (M ∪ H) w, ok) := by
  unfold discover_and_register
  split
  · cases e.discover_sensors <;> cases e.hwmon
    · exact ⟨{sensors}, by decide, true, by simp [h₀]⟩
    · exact ⟨{sensors}, by decide, true, by simp [h₀]⟩
    · exact ⟨{sensors}, by decide, false, by simp [h₀]⟩
    · exact ⟨{hwmon, sensors}, by decide, e.hwmon_name, by simp [h₀, h₁]⟩
  · exact ⟨∅, by simp, true, by simp⟩

/-- The outcome of a creation: what is left once the rest is released, and what a removal needs. -/
structure Created (K : Finset Resource) (w : Bool) (r : Ran) : Prop where
  book : r.1 = of r.1.held w
  enabled_held : enabled ∈ r.1.held
  failed : r.2 = false → r.1.held \ CORE = K
  created : r.2 = true → pf_dev ∈ r.1.held ∧ CONFIG ⊆ r.1.held ∧ chrdev_region ∈ r.1.held ∧
    device ∈ r.1.held ∧ cdev ∈ r.1.held ∧ r.1.held \ (CORE ∪ REMOVED) = K

theorem BASE_subset : BASE ⊆ insert pf_dev CONFIG ∪ CORE := by decide

theorem Created.of_failed {K T R : Finset Resource} (he : enabled ∈ T) (hR : enabled ∉ R)
    (hT : T ⊆ R ∪ CORE) (hd : Disjoint K (R ∪ CORE)) :
    Created K w (of ((T ∪ K) \ R) w, false) where
  book := rfl
  enabled_held := Finset.mem_sdiff.mpr ⟨Finset.mem_union_left _ he, hR⟩
  failed _ := by
    rw [of_held, sdiff_sdiff_left, Finset.sup_eq_union]
    exact union_sdiff_eq hT hd
  created h := absurd h (by simp)

theorem disjoint_kept {K R : Finset Resource} (hK : K ⊆ {mapping, endpoints})
    (hm : mapping ∉ R) (he : endpoints ∉ R) : Disjoint K R := by
  refine Finset.disjoint_left.mpr fun x hx hR => ?_
  rcases Finset.mem_insert.mp (hK hx) with rfl | hx
  · exact hm hR
  · exact he (Finset.mem_singleton.mp hx ▸ hR)

theorem not_mem_ATTRS {x : Resource} (hx : ∀ i, mgmt_attr i ≠ x) : x ∉ ATTRS := fun h => by
  obtain ⟨i, -, hi⟩ := mem_ATTRS.mp h
  exact hx i hi

theorem services_of {T K : Finset Resource} (hlo : BASE ⊆ T) (hhi : T ⊆ insert amc BASE)
    (hK : K ⊆ {mapping, endpoints}) : Created K false
      (let s := discover_and_register e (of (T ∪ K) false)
      if s.2 = false then remove_pf_dev s.1
      else
        let f := register_sysfs e s.1
        if f.2 = false then remove_pf_dev f.1
        else
          let d := create_cdev e true f.1
          if d.2 = false then remove_pf_dev (remove_sysfs d.1) else (d.1, true)) := by
  have hnot : ∀ r, r ∉ insert amc BASE → r ∉ ({mapping, endpoints} : Finset Resource) →
      r ∉ T ∪ K := fun r h₁ h₂ h =>
    (Finset.mem_union.mp h).elim (fun h => h₁ (hhi h)) fun h => h₂ (hK h)
  obtain ⟨M, hM, ok, hrun⟩ := discover_and_register_of (e := e) (w := false)
    (hnot sensors (by decide) (by decide)) (hnot hwmon (by decide) (by decide))
  simp only [hrun]
  rw [← Finset.union_assoc]
  have hS : M ∪ T ⊆ LATE ∪ CORE := Finset.union_subset (hM.trans (by decide))
    (hhi.trans (by decide))
  have hbase : BASE ⊆ M ∪ T := hlo.trans Finset.subset_union_right
  generalize M ∪ T = S at hS hbase ⊢
  have hpf : pf_dev ∈ S ∪ K := Finset.mem_union_left _ (hbase (by decide))
  have hen : enabled ∈ S := hbase (by decide)
  have hconf : CONFIG ⊆ S ∪ K :=
    (Finset.subset_union_left.trans hbase).trans Finset.subset_union_left
  have hattrs : Disjoint (S ∪ K) ATTRS := by
    refine Finset.disjoint_left.mpr fun x hx hmem => ?_
    obtain ⟨i, -, rfl⟩ := mem_ATTRS.mp hmem
    rcases Finset.mem_union.mp hx with hx | hx
    · exact absurd (hS hx) (by simp [LATE, CORE, CONFIG])
    · exact absurd (hK hx) (by simp)
  have hfail : Created K false (remove_pf_dev (of (S ∪ K) false)) := by
    rw [remove_pf_dev_of hpf hconf]
    exact .of_failed hen (by decide) hS (disjoint_kept hK (by decide) (by decide))
  cases ok with
  | false => exact hfail
  | true =>
    simp only [Bool.true_eq_false, if_false]
    rw [register_sysfs_of hattrs]
    cases (List.range MGMT_ATTRS).all e.mgmt_attr with
    | false => exact hfail
    | true =>
      have hfresh : ∀ r, r ∉ LATE ∪ CORE → r ∉ ({mapping, endpoints} : Finset Resource) →
          r ∉ ATTRS → r ∉ ATTRS ∪ (S ∪ K) := fun r h₁ h₂ h₃ h => by
        rcases Finset.mem_union.mp h with h | h
        · exact h₃ h
        · exact (Finset.mem_union.mp h).elim (fun h => h₁ (hS h)) fun h => h₂ (hK h)
      simp only [if_true, Bool.true_eq_false, if_false]
      rw [create_cdev_of (hfresh _ (by decide) (by decide) (not_mem_ATTRS (by simp)))
        (hfresh _ (by decide) (by decide) (not_mem_ATTRS (by simp)))
        (hfresh _ (by decide) (by decide) (not_mem_ATTRS (by simp)))]
      cases e.chrdev_region && e.device && e.cdev_add with
      | false =>
        have hback : (ATTRS ∪ (S ∪ K)) \ ATTRS = S ∪ K := by
          rw [Finset.union_sdiff_distrib, Finset.sdiff_self, Finset.empty_union,
            Finset.sdiff_eq_self_of_disjoint hattrs]
        simp only [Bool.false_eq_true, if_false, if_true, remove_sysfs_of, hback]
        exact hfail
      | true =>
        simp only [if_true, Bool.true_eq_false, if_false]
        have hup : S ∪ K ⊆
            insert cdev (insert device (insert chrdev_region (ATTRS ∪ (S ∪ K)))) := fun x hx => by
          simp only [Finset.mem_insert, Finset.mem_union] at hx ⊢
          tauto
        have hall : insert cdev (insert device (insert chrdev_region (ATTRS ∪ (S ∪ K)))) =
            insert cdev (insert device (insert chrdev_region (ATTRS ∪ S))) ∪ K := by
          simp only [Finset.insert_union, Finset.union_assoc]
        refine ⟨rfl, hup (Finset.mem_union_left _ hen), fun h => absurd h (by simp),
          fun _ => ⟨hup hpf, hconf.trans hup, by simp, by simp, by simp, ?_⟩⟩
        rw [of_held, hall]
        refine union_sdiff_eq ?_ (disjoint_kept hK ?_ ?_)
        · have hlate : S ⊆ CORE ∪ REMOVED := fun x hx => by
            have hmem := hS hx
            simp only [LATE, REMOVED, Finset.mem_union, Finset.mem_insert] at hmem ⊢
            tauto
          intro x hx
          simp only [Finset.mem_insert, Finset.mem_union] at hx
          rcases hx with rfl | rfl | rfl | hx | hx
          · simp [REMOVED]
          · simp [REMOVED]
          · simp [REMOVED]
          · simp [REMOVED, hx]
          · exact hlate hx
        · simp [CORE, REMOVED, CONFIG, mem_ATTRS]
        · simp [CORE, REMOVED, CONFIG, mem_ATTRS]

/-- **A creation**: when it fails, or when the device is removed, what `read_vsec` left stays. -/
theorem create_pf_dev_data_of : Created (if e.reaches_vsec then e.kept else ∅)
    (e.pf_dev && e.null_struct) (create_pf_dev_data e (of {enabled} false)) := by
  have hnone : Disjoint ({pf_dev, enabled} : Finset Resource) CONFIG := by decide
  have hbase : CONFIG ∪ {pf_dev, enabled} = BASE := rfl
  have hconfig : CONFIG ⊆ BASE := Finset.subset_union_left
  have hclosed : Closed ({pf_dev, enabled} : Finset Resource) :=
    ⟨by decide, by decide, by decide⟩
  unfold create_pf_dev_data Outcomes.reaches_vsec
  rw [alloc_of _ (by decide)]
  cases e.pf_dev with
  | false =>
    simp only [Bool.false_eq_true, if_false, if_true, Bool.false_and]
    exact ⟨rfl, by decide, fun _ => by decide, by simp⟩
  | true =>
    simp only [if_true, Bool.true_eq_false, if_false, Bool.true_and]
    rw [read_pcie_configuration_of (by decide) hnone]
    cases hconf : e.config_ok with
    | false =>
      simp only [Bool.false_eq_true, if_false, if_true, Bool.false_or, Bool.false_and]
      rw [delete_data_of (by decide) hclosed]
      simpa using Created.of_failed (K := ∅) (T := {pf_dev, enabled}) (R := insert pf_dev CONFIG)
        (by decide) (by decide) (by decide) (Finset.disjoint_empty_left _)
    | true =>
      have hnull : e.null_struct = false := by
        simp only [Outcomes.config_ok, Bool.and_eq_true] at hconf
        obtain ⟨⟨⟨-, -⟩, hcap⟩, hext⟩ := hconf
        have hc : e.cap = true := by
          simp only [Outcomes.cap_ok, Bool.and_eq_true] at hcap
          exact hcap.1.1.1.1
        have hx : e.ext_cap = true := by
          simp only [Outcomes.ext_cap_ok, Bool.and_eq_true] at hext
          exact hext.1.1.1.1.1.1.1
        simp [Outcomes.null_struct, hc, hx]
      simp only [if_true, Bool.true_eq_false, if_false, Bool.true_and, hbase, hnull]
      cases write_pcie_configuration e with
      | false =>
        simp only [Bool.false_eq_true, if_false, if_true]
        rw [delete_data_of (by decide) (closed_of_subset hconfig)]
        simpa using Created.of_failed (K := ∅) (T := BASE) (R := insert pf_dev CONFIG)
          (by decide) (by decide) BASE_subset (Finset.disjoint_empty_left _)
      | true =>
        have hK := kept_subset (e := e)
        generalize hkept : e.kept = K at *
        have hbase_pf : pf_dev ∈ BASE := by decide
        simp only [Bool.true_eq_false, if_false, if_true]
        rw [read_vsec_of hbase_pf (by decide) (by decide) (by decide), hkept]
        cases hvsec : e.endpoints && e.region && e.mapping && e.uuid_in_range with
        | false =>
          simp only [if_true]
          rw [delete_data_of (Finset.mem_union_left _ hbase_pf)
            (closed_of_subset (hconfig.trans Finset.subset_union_left))]
          exact .of_failed (by decide) (by decide) BASE_subset
            (disjoint_kept hK (by decide) (by decide))
        | true =>
          have hend : endpoints ∈ K := by
            have he : e.endpoints = true := by
              simp only [Bool.and_eq_true] at hvsec
              exact hvsec.1.1.1
            rw [← hkept]
            unfold Outcomes.kept
            split_ifs <;> simp_all
          -- the session, when it is set up, is on top
          obtain ⟨T, hlo, hhi, hset⟩ : ∃ T, BASE ⊆ T ∧ T ⊆ insert amc BASE ∧
              (of (BASE ∪ K) false).alloc e.setup_amc amc = of (T ∪ K) false := by
            have hamc : amc ∉ BASE ∪ K := by
              rw [Finset.mem_union, not_or]
              exact ⟨by decide, fun h => by simpa using hK h⟩
            rw [alloc_of _ hamc]
            cases e.setup_amc with
            | true => exact ⟨insert amc BASE, Finset.subset_insert _ _, subset_rfl, by simp⟩
            | false => exact ⟨BASE, subset_rfl, Finset.subset_insert _ _, by simp⟩
          simp only [use_of, Finset.mem_union_right _ hend, not_true_eq_false, decide_false,
            Bool.or_false, Bool.true_eq_false, if_false, hset]
          exact services_of hlo hhi hK

/-- **What a device leaves behind** after a failed probe, or after its removal: the endpoints
structure and perhaps the mapping for the UUID, and nothing else. -/
theorem probe_and_remove_of : probe_and_remove e = of e.left e.faulty := by
  unfold probe_and_remove pcie_device_probe Outcomes.left Outcomes.faulty
  cases e.supported with
  | false => rfl
  | true =>
    cases e.enable with
    | false => rfl
    | true =>
      have hstart : (of ∅ false).acquire enabled = of ({enabled} : Finset Resource) false := rfl
      simp only [Bool.true_eq_false, if_false, Bool.true_and, hstart]
      have hcr := create_pf_dev_data_of (e := e)
      generalize create_pf_dev_data e (of {enabled} false) = r at hcr ⊢
      obtain ⟨b, ok⟩ := r
      obtain ⟨hbook, hen, hfailed, hcreated⟩ := hcr
      simp only at hbook hen hfailed hcreated
      rw [hbook]
      cases ok with
      | false =>
        simp only [Bool.false_eq_true, if_false, core_of hen, hfailed rfl]
      | true =>
        obtain ⟨hpf, hc, h₀, h₁, h₂, heq⟩ := hcreated rfl
        simp only [if_true, removal_of hen hpf hc h₀ h₁ h₂, heq]

/-- **A device is given back whole exactly when** the probe stops before the endpoints structure is
there, and not in the clean-up of a capability list that could not be allocated. -/
theorem probe_balanced_iff (e : Outcomes) : (probe_and_remove e).Clear ↔
    e.faulty = false ∧ (e.supported && e.enable && e.reaches_vsec && e.endpoints) = false := by
  rw [probe_and_remove_of, clear_of, and_comm]
  refine and_congr_right fun _ => ?_
  unfold Outcomes.left
  cases e.supported && e.enable && e.reaches_vsec with
  | false => simp
  | true =>
    unfold Outcomes.kept
    cases e.endpoints with
    | false => simp
    | true =>
      simp only [if_true, Bool.true_and, Bool.true_eq_false, iff_false]
      split <;> simp

/-- Every step succeeds, and the read request is at its maximum. -/
def plain : Outcomes where
  supported := true
  enable := true
  pf_dev := true
  pcie_config := true
  header := true
  header_reads := [true]
  cap := true
  exp := true
  msi := true
  pwr_mgt := true
  cap_reads := [true]
  ext_cap := true
  ari := true
  aer := true
  dlf := true
  lane_mar_rec := true
  phy_16_gts := true
  secondary_pci := true
  ext_cap_reads := [true]
  readrq := 512
  set_readrq := true
  endpoints := true
  region := true
  mapping := true
  uuid_in_range := true
  iounmap_inside := true
  setup_amc := true
  compat_mode := false
  function0 := true
  discover_sensors := true
  hwmon := true
  hwmon_name := true
  mgmt_attr := fun _ => true
  chrdev_region := true
  dev_class := true
  device := true
  cdev_add := true

/-- A device that is probed and removed without any failure leaves its endpoints structure behind,
and a probe without memory for the capability list reads through NULL. -/
theorem plain_removal_leaks_endpoints :
    (probe_and_remove plain).held = {endpoints} ∧ ¬ (probe_and_remove plain).Clear ∧
      (probe_and_remove { plain with cap := false }).wrong = true := by
  have hleft : (probe_and_remove plain).held = {endpoints} := by
    rw [probe_and_remove_of]
    rfl
  refine ⟨hleft, fun h => ?_, ?_⟩
  · rw [h.1] at hleft
    exact absurd hleft (by decide)
  · rw [probe_and_remove_of]
    rfl

end Amr.Host.Probe
