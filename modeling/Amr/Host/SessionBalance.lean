/-
# What a session leaves behind

Next to the resources of the other sessions, those of one session are a set of their own, and every
step of its set-up and tear-down changes that set only.
-/
import Amr.Host.Session

namespace Amr.Host.Session

open Holdings

/-! ### The session next to the others -/

/-- The other sessions: what they hold, and their proxy entries. -/
structure Others (me : ℕ) where
  held : Finset (ℕ × Kind)
  proxies : List ℕ
  disjoint : ∀ k, (me, k) ∉ held
  unlisted : me ∉ proxies

variable {me : ℕ} (others : Others me)

/-- The session holds the resources `S`, with its pointers and flags set accordingly. -/
def view (S : Finset Kind) (w listed : Bool) : State :=
  ⟨.of (S.image (Prod.mk me) ∪ others.held) w,
    if listed then others.proxies ++ [me] else others.proxies⟩

/-- The state before a session is set up. -/
def alone : State := view others ∅ false false

section

variable (S : Finset Kind) (w listed : Bool)

variable (k : Kind)

theorem mem_image_iff : (me, k) ∈ S.image (Prod.mk me) ∪ others.held ↔ k ∈ S := by
  simp [others.disjoint k]

theorem mem_ptr_view : (me, k) ∈ (view others S w listed).book.ptr ↔ k ∈ S :=
  mem_image_iff others S k

theorem erase_image : (S.image (Prod.mk me) ∪ others.held).erase (me, k) =
    (S.erase k).image (Prod.mk me) ∪ others.held := by
  ext x
  obtain ⟨i, j⟩ := x
  have hnot := others.disjoint k
  simp only [Finset.mem_erase, Finset.mem_union, Finset.mem_image, Prod.mk.injEq, ne_eq, not_and]
  constructor
  · rintro ⟨hne, ⟨a, ha, rfl, rfl⟩ | hx⟩
    · exact .inl ⟨a, ⟨hne rfl, ha⟩, rfl, rfl⟩
    · exact .inr hx
  · rintro (⟨a, ⟨hne, ha⟩, rfl, rfl⟩ | hx)
    · exact ⟨fun _ => hne, .inl ⟨a, ha, rfl, rfl⟩⟩
    · exact ⟨fun hi hj => hnot (hi ▸ hj ▸ hx), .inr hx⟩

@[simp] theorem acquire_view : acquire me k (view others S w listed) =
    view others (insert k S) (w || decide (k ∈ S)) listed := by
  have hset : insert (me, k) (S.image (Prod.mk me) ∪ others.held) =
      (insert k S).image (Prod.mk me) ∪ others.held := by
    rw [Finset.image_insert, Finset.insert_union]
  unfold acquire view
  rw [Book.acquire_of, hset]
  simp only [mem_image_iff]

@[simp] theorem giveBack_view : giveBack me k (view others S w listed) =
    view others (S.erase k) ((w || decide (k ∉ S)) || k.users.any fun u => decide (u ∈ S))
      listed := by
  unfold giveBack view
  rw [Book.undoUnused_of, erase_image, List.any_map]
  simp only [Function.comp_def, mem_image_iff]

@[simp] theorem giveBackIfSet_view : giveBackIfSet me k (view others S w listed) =
    view others (S.erase k) (w || (decide (k ∈ S) && k.users.any fun u => decide (u ∈ S)))
      listed := by
  unfold giveBackIfSet
  by_cases hk : k ∈ S
  · rw [if_pos ((mem_ptr_view ..).mpr hk), giveBack_view]
    simp [hk]
  · rw [if_neg fun h => hk ((mem_ptr_view ..).mp h)]
    simp [hk, Finset.erase_eq_of_notMem hk]

@[simp] theorem stop_gcq_services_view : stop_gcq_services me (view others S w listed) =
    view others (S.erase .service) w listed := by
  unfold stop_gcq_services view
  rw [Book.discard_of, erase_image]

@[simp] theorem mem_proxies_view : me ∈ (view others S w listed).proxies ↔ listed = true := by
  cases listed <;> simp [view, others.unlisted]

@[simp] theorem list_view :
    State.mk (view others S w false).book ((view others S w false).proxies ++ [me]) =
      view others S w true := rfl

@[simp] theorem unlist_view :
    State.mk (view others S w true).book ((view others S w true).proxies.erase me) =
      view others S w false := by
  simp [view, List.erase_append_right, others.unlisted]

end

/-! ### Tear-down -/

variable {o : Outcomes}

theorem amc_proxy_close_unlisted (S : Finset Kind) (w : Bool) :
    amc_proxy_close me o (view others S w false) = view others S w false := by
  simp [amc_proxy_close]

variable {S : Finset Kind}

theorem amc_proxy_close_listed {w : Bool} (hp : .proxy_thread ∈ S)
    (hg : .gcq ∈ S) (he : .entry ∈ S) (hh : .heartbeat_thread ∉ S)
    (ho : (o.proxy_ran && o.gcq_close) = true) :
    amc_proxy_close me o (view others S w true) =
      view others (((S.erase .proxy_thread).erase .gcq).erase .entry) w false := by
  simp [amc_proxy_close, ho, Kind.users, hp, hg, he, hh]

theorem release_unset_eq (hc : .ctxt ∈ S) (hd : o.drvdata = true)
    (w listed : Bool) : release_amc_mem me (unset_amc me o (view others S w listed)) =
      giveBackIfSet me .ctxt (giveBack me (.region PCIE_BAR0) (giveBackIfSet me .mapping
        (amc_proxy_close me o (stop_gcq_services me (giveBackIfSet me .logging_thread
          (giveBackIfSet me .heartbeat_thread (view others S w listed))))))) := by
  unfold release_amc_mem unset_amc
  rw [if_neg fun h => h ((mem_ptr_view ..).mpr hc), if_neg (by simp [hd])]

/-- The proxy of a session is complete: opened, with its entry and its response thread. -/
def Outcomes.has_gcq (o : Outcomes) : Bool := o.iomap && o.device_ready && o.gcq_open

def Outcomes.has_entry (o : Outcomes) : Bool := o.has_gcq && o.entry

def Outcomes.has_proxy (o : Outcomes) : Bool := o.has_entry && o.proxy_thread

/-- The response thread and the queue are closed without an error. -/
def Outcomes.closes (o : Outcomes) : Bool := o.proxy_ran && o.gcq_close

/-- What a session holds when it is torn down, after its region was requested. -/
structure Reached (o : Outcomes) (S : Finset Kind) (listed : Bool) : Prop where
  ctxt : .ctxt ∈ S
  region : ∀ bar, .region bar ∈ S ↔ bar = o.bar_num
  mapping : .mapping ∈ S ↔ o.iomap = true
  gcq : .gcq ∈ S ↔ o.has_gcq = true
  entry : .entry ∈ S ↔ o.has_entry = true
  proxy_thread : .proxy_thread ∈ S ↔ o.has_proxy = true
  listed : listed = o.has_proxy
  version_buf : .version_buf ∉ S

variable {listed : Bool}

theorem Reached.erase_all (h : Reached o S listed)
    (hb : o.bar_num = PCIE_BAR0) {T : Finset Kind} (hT : T ⊆ S)
    (hnot : ∀ k ∈ T, k ≠ .ctxt ∧ k ≠ .region PCIE_BAR0 ∧ k ≠ .mapping ∧ k ≠ .service ∧
      k ≠ .gcq ∧ k ≠ .entry ∧ k ≠ .proxy_thread ∧ k ≠ .logging_thread ∧
      k ≠ .heartbeat_thread) : T = ∅ := by
  refine Finset.eq_empty_of_forall_notMem fun k hk => ?_
  have hne := hnot k hk
  cases k with
  | region bar =>
    have hbar := (h.region bar).mp (hT hk)
    exact hne.2.1 (by rw [hbar, hb])
  | version_buf => exact h.version_buf (hT hk)
  | _ => simp at hne

/-- **A session is torn down whole** when the BAR that is released was requested, and its queue, if
it is open, belongs to a proxy on the list and is closed. -/
theorem Reached.torn_down (h : Reached o S listed)
    (hd : o.drvdata = true) (hb : o.bar_num = PCIE_BAR0)
    (hg : o.has_gcq = true → o.has_proxy = true ∧ o.closes = true) :
    release_amc_mem me (unset_amc me o (view others S false listed)) = alone others := by
  have hr : .region PCIE_BAR0 ∈ S := (h.region _).mpr hb.symm
  have hc := h.ctxt
  rw [release_unset_eq others hc hd]
  cases hlisted : listed with
  | true =>
    have hproxy : o.has_proxy = true := h.listed ▸ hlisted
    have hentry : o.has_entry = true := by
      simp only [Outcomes.has_proxy, Bool.and_eq_true] at hproxy
      exact hproxy.1
    have hgcq : o.has_gcq = true := by
      simp only [Outcomes.has_entry, Bool.and_eq_true] at hentry
      exact hentry.1
    have hp := h.proxy_thread.mpr hproxy
    have he := h.entry.mpr hentry
    have hq := h.gcq.mpr hgcq
    simp only [giveBackIfSet_view, stop_gcq_services_view]
    rw [amc_proxy_close_listed others (by simp [hp]) (by simp [hq]) (by simp [he]) (by simp)
      (hg hgcq).2]
    simp only [giveBackIfSet_view, giveBack_view]
    rw [h.erase_all hb (T := Finset.erase _ _)]
    · simp [alone, Kind.users, hc, hr]
    · intro k hk
      simp only [Finset.mem_erase] at hk
      tauto
    · intro k hk
      simp only [Finset.mem_erase] at hk
      tauto
  | false =>
    have hproxy : o.has_proxy = false := h.listed ▸ hlisted
    have hgcq : o.has_gcq = false := by
      by_contra hne
      exact absurd (hg (by simpa using hne)).1 (by simp [hproxy])
    have hq : .gcq ∉ S := fun hmem => absurd (h.gcq.mp hmem) (by simp [hgcq])
    have hp : .proxy_thread ∉ S := fun hmem =>
      absurd (h.proxy_thread.mp hmem) (by simp [hproxy])
    have he : .entry ∉ S := fun hmem =>
      absurd (h.entry.mp hmem) (by simp [Outcomes.has_entry, hgcq])
    simp only [giveBackIfSet_view, stop_gcq_services_view, amc_proxy_close_unlisted,
      giveBack_view]
    rw [h.erase_all hb (T := Finset.erase _ _)]
    · simp [alone, Kind.users, hc, hr, hq, hp]
    · intro k hk
      simp only [Finset.mem_erase] at hk
      tauto
    · intro k hk
      have hk' := hk
      simp only [Finset.mem_erase] at hk
      refine ⟨by tauto, by tauto, by tauto, by tauto, ?_, ?_, ?_, by tauto, by tauto⟩
      all_goals
        rintro rfl
        tauto

theorem amc_proxy_close_view (S : Finset Kind) (w listed : Bool) :
    ∃ T v l, amc_proxy_close me o (view others S w listed) = view others T v l ∧ T ⊆ S ∧
      (.mapping ∈ S → .mapping ∈ T) ∧
        ((listed && o.closes) = false → .gcq ∈ S → .gcq ∈ T) := by
  cases listed with
  | false =>
    exact ⟨S, w, false, amc_proxy_close_unlisted others S w, subset_rfl, id, fun _ => id⟩
  | true =>
    have hstart : (view others S w true).proxies.contains me = true := by simp
    cases hcl : o.proxy_ran && o.gcq_close with
    | true =>
      obtain ⟨v, hv⟩ : ∃ v, amc_proxy_close me o (view others S w true) =
          view others (((S.erase .proxy_thread).erase .gcq).erase .entry) v false := by
        simp only [amc_proxy_close, hstart, hcl, if_true, giveBack_view, unlist_view]
        exact ⟨_, rfl⟩
      refine ⟨_, v, false, hv, ?_, fun h => by simp [h], fun h => ?_⟩
      · exact ((Finset.erase_subset _ _).trans (Finset.erase_subset _ _)).trans
          (Finset.erase_subset _ _)
      · simp [Outcomes.closes, hcl] at h
    | false =>
      obtain ⟨v, hv⟩ : ∃ v, amc_proxy_close me o (view others S w true) =
          view others ((S.erase .proxy_thread).erase .entry) v false := by
        simp only [amc_proxy_close, hstart, hcl, if_true, Bool.false_eq_true, if_false,
          giveBack_view, unlist_view]
        exact ⟨_, rfl⟩
      refine ⟨_, v, false, hv, ?_, fun h => by simp [h], fun _ h => by simp [h]⟩
      exact (Finset.erase_subset _ _).trans (Finset.erase_subset _ _)

/-- **A tear-down goes wrong** when the BAR that it releases was not requested by the session, or
the queue of the session stays open. -/
theorem Reached.goes_wrong (h : Reached o S listed)
    (hd : o.drvdata = true)
    (hbad : o.bar_num ≠ PCIE_BAR0 ∨ (o.has_gcq = true ∧ (o.has_proxy && o.closes) = false)) :
    (release_amc_mem me (unset_amc me o (view others S false listed))).book.wrong = true := by
  rw [release_unset_eq others h.ctxt hd]
  simp only [giveBackIfSet_view, stop_gcq_services_view]
  obtain ⟨T, v, l, hclose, hT, hmap, hgcq⟩ := amc_proxy_close_view others (o := o)
    (((S.erase .heartbeat_thread).erase .logging_thread).erase .service)
    ((false || (decide (Kind.heartbeat_thread ∈ S) &&
      Kind.heartbeat_thread.users.any fun u => decide (u ∈ S))) ||
        (decide (Kind.logging_thread ∈ S.erase .heartbeat_thread) &&
          Kind.logging_thread.users.any fun u => decide (u ∈ S.erase .heartbeat_thread))) listed
  rw [hclose]
  simp only [giveBackIfSet_view, giveBack_view]
  rcases hbad with hb | ⟨hq, hcl⟩
  · have hr : .region PCIE_BAR0 ∉ T := fun hmem => by
      have hS := hT hmem
      simp only [Finset.mem_erase] at hS
      exact hb ((h.region _).mp hS.2.2.2).symm
    simp [view, hr]
  · have hm : .mapping ∈ S := by
      refine h.mapping.mpr ?_
      simp only [Outcomes.has_gcq, Bool.and_eq_true] at hq
      exact hq.1.1
    have hmT : .mapping ∈ T := hmap (by simp [hm])
    have hgT : .gcq ∈ T := by
      refine hgcq ?_ (by simp [h.gcq.mpr hq])
      rw [h.listed]
      exact hcl
    simp [view, Kind.users, hmT, hgT]

/-! ### Set-up -/

/-- In compatibility mode, the logging thread is stopped before it has run. -/
def Outcomes.stuck (o : Outcomes) : Bool :=
  o.has_proxy && o.logging_thread && o.version_buf && o.get_version && o.gcq_supported &&
    !o.amc_supported && !o.logging_ran

def withProxy (o : Outcomes) : Finset Kind :=
  {.proxy_thread, .entry, .gcq, .service, .mapping, .region o.bar_num, .ctxt}

theorem withProxy_eq (o : Outcomes) : insert .proxy_thread (insert .entry (insert .gcq
    (insert .service (insert .mapping (insert (.region o.bar_num) {Kind.ctxt}))))) =
      withProxy o := rfl

theorem reached_proxy (h : o.has_proxy = true) {S : Finset Kind}
    (hS : S ⊆ {.logging_thread, .heartbeat_thread}) : Reached o (S ∪ withProxy o) true := by
  have hentry : o.has_entry = true := by
    simp only [Outcomes.has_proxy, Bool.and_eq_true] at h
    exact h.1
  have hgcq : o.has_gcq = true := by
    simp only [Outcomes.has_entry, Bool.and_eq_true] at hentry
    exact hentry.1
  have hmap : o.iomap = true := by
    simp only [Outcomes.has_gcq, Bool.and_eq_true] at hgcq
    exact hgcq.1.1
  have hnot : ∀ k, k ≠ .logging_thread → k ≠ .heartbeat_thread → k ∉ S := fun k h₁ h₂ hk => by
    have hmem := hS hk
    simp only [Finset.mem_insert, Finset.mem_singleton] at hmem
    tauto
  refine ⟨by simp [withProxy], fun bar => ?_, by simp [withProxy, hmap], by simp [withProxy, hgcq],
    by simp [withProxy, hentry], by simp [withProxy, h], h.symm, ?_⟩
  · simp [withProxy, hnot (.region bar)]
  · simp [withProxy, hnot .version_buf]

theorem start_threads_eq (h : o.has_proxy = true) (hstuck : o.stuck = false) :
    ∃ S ⊆ ({.logging_thread, .heartbeat_thread} : Finset Kind),
      (let r := start_threads me o (view others (withProxy o) false true)
        if r.2 then release_amc_mem me (unset_amc me o r.1) else r.1) =
      release_amc_mem me (unset_amc me o (view others (S ∪ withProxy o) false true)) := by
  have hvb : .version_buf ∉ withProxy o := by simp [withProxy]
  have hlog : .logging_thread ∉ withProxy o := by simp [withProxy]
  have hhb : .heartbeat_thread ∉ withProxy o := by simp [withProxy]
  unfold start_threads start_heartbeat enter_compat_mode fail
  cases hl : o.logging_thread with
  | false => exact ⟨∅, by simp, by simp [hvb]⟩
  | true =>
    cases hb : o.version_buf with
    | false => exact ⟨{.logging_thread}, by simp, by simp [hvb, hlog, Finset.erase_eq_of_notMem]⟩
    | true =>
      cases hv : o.get_version with
      | false =>
        exact ⟨{.logging_thread}, by simp, by simp [hvb, hlog, Kind.users]⟩
      | true =>
        cases hg : o.gcq_supported with
        | false => exact ⟨{.logging_thread}, by simp, by simp [hvb, hlog, Kind.users]⟩
        | true =>
          cases ha : o.amc_supported with
          | true =>
            cases hh : o.heartbeat_thread with
            | false => exact ⟨{.logging_thread}, by simp, by simp [hvb, hlog, Kind.users]⟩
            | true =>
              have hback : (insert Kind.heartbeat_thread (insert .version_buf
                  (insert .logging_thread (withProxy o)))).erase .version_buf =
                  insert .heartbeat_thread (insert .logging_thread (withProxy o)) := by
                rw [Finset.erase_insert_of_ne (by decide), Finset.erase_insert (by simp [hvb])]
              exact ⟨{.heartbeat_thread, .logging_thread}, by decide,
                by simp [hvb, hlog, hhb, hback, Kind.users]⟩
          | false =>
            have hran : o.logging_ran = true := by
              simpa [Outcomes.stuck, h, hl, hb, hv, hg, ha] using hstuck
            have hback : ((insert Kind.version_buf (insert .logging_thread
                (withProxy o))).erase .logging_thread).erase .version_buf = withProxy o := by
              rw [Finset.erase_insert_of_ne (by decide), Finset.erase_insert hlog,
                Finset.erase_insert hvb]
            exact ⟨∅, by simp, by simp [hvb, hlog, hran, hback, Kind.users]⟩

/-- **A session that requested its region** is torn down from a state that it reached. -/
theorem setup_and_unset_eq (hctxt : o.ctxt = true) (hd : o.drvdata = true)
    (hreq : o.requested = false) (hreg : o.region = true) (hstuck : o.stuck = false) :
    ∃ S listed, Reached o S listed ∧ setup_and_unset me o (alone others) =
      release_amc_mem me (unset_amc me o (view others S false listed)) := by
  unfold setup_and_unset setup_amc map_amc_endpoints start_gcq_services amc_proxy_init alone
  cases hm : o.iomap with
  | false =>
    refine ⟨{.region o.bar_num, .ctxt}, false, ?_, by simp [hctxt, hd, hreq, hreg, fail]⟩
    constructor <;> simp [hm, Outcomes.has_gcq, Outcomes.has_entry, Outcomes.has_proxy]
  | true =>
    cases hr : o.device_ready with
    | false =>
      refine ⟨{.mapping, .region o.bar_num, .ctxt}, false, ?_,
        by simp [hctxt, hd, hreq, hreg, fail]⟩
      constructor <;> simp [hm, hr, Outcomes.has_gcq, Outcomes.has_entry, Outcomes.has_proxy]
    | true =>
      cases hg : o.gcq_open with
      | false =>
        refine ⟨{.service, .mapping, .region o.bar_num, .ctxt}, false, ?_,
          by simp [hctxt, hd, hreq, hreg, fail]⟩
        constructor <;> simp [hm, hr, hg, Outcomes.has_gcq, Outcomes.has_entry, Outcomes.has_proxy]
      | true =>
        cases he : o.entry with
        | false =>
          refine ⟨{.gcq, .service, .mapping, .region o.bar_num, .ctxt}, false, ?_,
            by simp [hctxt, hd, hreq, hreg, fail]⟩
          constructor <;>
            simp [hm, hr, hg, he, Outcomes.has_gcq, Outcomes.has_entry, Outcomes.has_proxy]
        | true =>
          cases hp : o.proxy_thread with
          | false =>
            refine ⟨{.entry, .gcq, .service, .mapping, .region o.bar_num, .ctxt}, false, ?_,
              by simp [hctxt, hd, hreq, hreg, fail]⟩
            constructor <;>
              simp [hm, hr, hg, he, hp, Outcomes.has_gcq, Outcomes.has_entry, Outcomes.has_proxy]
          | true =>
            have hproxy : o.has_proxy = true := by
              simp [hm, hr, hg, he, hp, Outcomes.has_gcq, Outcomes.has_entry, Outcomes.has_proxy]
            obtain ⟨S, hS, hrun⟩ := start_threads_eq others hproxy hstuck
            refine ⟨S ∪ withProxy o, true, reached_proxy hproxy hS, ?_⟩
            rw [← hrun]
            simp [hctxt, hd, hreq, hreg, amc_proxy_bind_callback, withProxy_eq]

/-! ### When nothing is left -/

theorem giveBack_wrong (k : Kind) {s : State} (h : s.book.wrong = true) :
    (giveBack me k s).book.wrong = true := by
  simp [giveBack, Book.undoUnused, Book.undo, h]

theorem giveBackIfSet_wrong (k : Kind) {s : State} (h : s.book.wrong = true) :
    (giveBackIfSet me k s).book.wrong = true := by
  unfold giveBackIfSet
  split
  · exact giveBack_wrong k h
  · exact h

theorem amc_proxy_close_wrong {s : State} (h : s.book.wrong = true) :
    (amc_proxy_close me o s).book.wrong = true := by
  unfold amc_proxy_close
  split
  · refine giveBack_wrong _ ?_
    dsimp only
    split
    · exact giveBack_wrong _ (giveBack_wrong _ h)
    · exact giveBack_wrong _ h
  · exact h

theorem giveBackIfSet_other {k j : Kind} (hne : k ≠ j) {s : State}
    (hset : (me, j) ∈ s.book.ptr) (hgone : (me, j) ∉ s.book.held) :
    (me, j) ∈ (giveBackIfSet me k s).book.ptr ∧ (me, j) ∉ (giveBackIfSet me k s).book.held := by
  unfold giveBackIfSet
  split
  · simp [giveBack, Book.undoUnused, Book.undo, hset, hgone, hne.symm]
  · exact ⟨hset, hgone⟩

theorem unset_stopped_twice {s : State} (hd : o.drvdata = true) (hc : (me, .ctxt) ∈ s.book.ptr)
    (hset : (me, .logging_thread) ∈ s.book.ptr) (hgone : (me, .logging_thread) ∉ s.book.held) :
    (release_amc_mem me (unset_amc me o s)).book.wrong = true := by
  obtain ⟨hset', hgone'⟩ := giveBackIfSet_other (k := .heartbeat_thread) (by decide) hset hgone
  have hstop : (giveBackIfSet me .logging_thread
      (giveBackIfSet me .heartbeat_thread s)).book.wrong = true := by
    rw [giveBackIfSet, if_pos hset']
    simp [giveBack, Book.undoUnused, Book.undo, hgone']
  unfold release_amc_mem unset_amc
  rw [if_neg (not_not.mpr hc), if_neg (by simp [hd])]
  exact giveBackIfSet_wrong _ (giveBack_wrong _ (giveBackIfSet_wrong _ (amc_proxy_close_wrong
    (by simpa [stop_gcq_services, Book.discard] using hstop))))

theorem enter_compat_mode_wrong {s : State} (hran : o.logging_ran = false)
    (hd : o.drvdata = true) (hc : (me, .ctxt) ∈ s.book.ptr)
    (hset : (me, .logging_thread) ∈ s.book.ptr) :
    (enter_compat_mode me o s).2 = false ∧ (enter_compat_mode me o s).1.book.wrong = true := by
  have hgone : (me, Kind.logging_thread) ∉ (s.book.free (me, .logging_thread)).held := by
    simp [Book.free]
  unfold enter_compat_mode fail
  rw [if_neg (by simp [hran])]
  refine ⟨rfl, ?_⟩
  obtain ⟨hset', hgone'⟩ := giveBackIfSet_other (k := .version_buf) (by decide)
    (s := { s with book := s.book.free (me, .logging_thread) }) hset hgone
  refine unset_stopped_twice hd ?_ hset' hgone'
  unfold giveBackIfSet
  split
  · simp [giveBack, Book.undoUnused, Book.undo, Book.free, hc]
  · exact hc

/-- **A session is not given back whole** when its logging thread is stopped before it has run. -/
theorem stuck_goes_wrong (hctxt : o.ctxt = true) (hd : o.drvdata = true)
    (hreq : o.requested = false) (hreg : o.region = true) (hstuck : o.stuck = true) :
    (setup_and_unset me o (alone others)).book.wrong = true := by
  simp only [Outcomes.stuck, Outcomes.has_proxy, Outcomes.has_entry, Outcomes.has_gcq,
    Bool.and_eq_true, Bool.not_eq_true'] at hstuck
  obtain ⟨⟨⟨⟨⟨⟨⟨⟨⟨⟨hm, hr⟩, hg⟩, he⟩, hp⟩, hl⟩, hb⟩, hv⟩, hs⟩, ha⟩, hran⟩ := hstuck
  have hrun : setup_amc me o (alone others) = enter_compat_mode me o
      (view others (insert .version_buf (insert .logging_thread (withProxy o))) false true) := by
    have hvb : .version_buf ∉ withProxy o := by simp [withProxy]
    have hlog : .logging_thread ∉ withProxy o := by simp [withProxy]
    simp [setup_amc, map_amc_endpoints, start_gcq_services, amc_proxy_init, start_threads,
      amc_proxy_bind_callback, alone, withProxy_eq, hvb, hlog, hctxt, hd, hreq, hreg, hm, hr, hg,
      he, hp, hl, hb, hv, hs, ha]
  obtain ⟨hfalse, hwrong⟩ := enter_compat_mode_wrong (o := o) hran hd
    ((mem_ptr_view others (insert .version_buf (insert .logging_thread (withProxy o))) false true
      .ctxt).mpr (by simp [withProxy]))
    ((mem_ptr_view others _ false true .logging_thread).mpr (by simp))
  unfold setup_and_unset
  rw [hrun]
  simpa [hfalse] using hwrong

/-- The outcomes with which a session is given back whole. -/
def Outcomes.Sound (o : Outcomes) : Prop :=
  o.ctxt = true → o.drvdata = true →
    o.requested = false ∧ o.region = true ∧ o.bar_num = PCIE_BAR0 ∧ o.stuck = false ∧
      (o.has_gcq = true → o.has_proxy = true ∧ o.closes = true)

/-- **A session is given back whole exactly when** its region is requested by itself and is that of
the first BAR, its queue belongs to a proxy that is complete and closed without an error, and no
logging thread is stopped before it has run. -/
theorem session_balanced_iff (me : ℕ) (others : Others me) (o : Outcomes) :
    setup_and_unset me o (alone others) = alone others ↔ o.Sound := by
  have hright : ∀ s : State, s.book.wrong = true → s ≠ alone others := by
    rintro _ hw rfl
    exact absurd hw (by simp [alone, view])
  unfold Outcomes.Sound
  cases hctxt : o.ctxt with
  | false =>
    refine iff_of_true ?_ (fun h => absurd h (by simp))
    simp [setup_and_unset, setup_amc, hctxt, fail, unset_amc, release_amc_mem, alone,
      mem_ptr_view]
  | true =>
    cases hd : o.drvdata with
    | false =>
      refine iff_of_true ?_ (fun _ h => absurd h (by simp))
      simp [setup_and_unset, setup_amc, map_amc_endpoints, hctxt, hd, fail, unset_amc,
        release_amc_mem, alone, Kind.users]
    | true =>
      simp only [true_imp_iff]
      -- without a region of its own, the session releases that of somebody else
      have hforeign : o.requested = true ∨ o.region = false →
          (setup_and_unset me o (alone others)).book.wrong = true := by
        intro h
        have hrun : setup_amc me o (alone others) =
            fail me o (view others {.ctxt} false false) := by
          rcases h with h | h <;> simp [setup_amc, map_amc_endpoints, hctxt, hd, h, alone]
        unfold setup_and_unset
        rw [hrun, fail, giveBackIfSet_view, release_unset_eq others (by simp) hd]
        simp only [giveBackIfSet_view, stop_gcq_services_view, amc_proxy_close_unlisted,
          giveBack_view]
        simp [view]
      cases hreq : o.requested with
      | true => exact iff_of_false (hright _ (hforeign (.inl hreq))) (by simp)
      | false =>
        cases hreg : o.region with
        | false => exact iff_of_false (hright _ (hforeign (.inr hreg))) (by simp)
        | true =>
          cases hstuck : o.stuck with
          | true =>
            exact iff_of_false (hright _ (stuck_goes_wrong others hctxt hd hreq hreg hstuck))
              (by simp)
          | false =>
            obtain ⟨S, listed, hreach, hrun⟩ := setup_and_unset_eq others hctxt hd hreq hreg hstuck
            rw [hrun]
            simp only [true_and]
            by_cases hbar : o.bar_num = PCIE_BAR0
            · by_cases hq : o.has_gcq = true → o.has_proxy = true ∧ o.closes = true
              · exact iff_of_true (hreach.torn_down others hd hbar hq) ⟨hbar, hq⟩
              · refine iff_of_false (hright _ (hreach.goes_wrong others hd (.inr ?_)))
                  fun h => hq h.2
                simpa [Classical.not_imp] using hq
            · exact iff_of_false (hright _ (hreach.goes_wrong others hd (.inl hbar)))
                fun h => hbar h.1

def nobody (me : ℕ) : Others me where
  held := ∅
  proxies := []
  disjoint _ := Finset.notMem_empty _
  unlisted := List.not_mem_nil

/-- Everything succeeds, with a supported AMC. -/
def smooth : Outcomes where
  ctxt := true
  drvdata := true
  bar_num := PCIE_BAR0
  requested := false
  region := true
  iomap := true
  device_ready := true
  gcq_open := true
  entry := true
  proxy_thread := true
  logging_thread := true
  version_buf := true
  get_version := true
  gcq_supported := true
  amc_supported := true
  heartbeat_thread := true
  logging_ran := true
  proxy_ran := true
  gcq_close := true

/-- Without memory for the proxy entry, the queue stays open after the failed set-up; and without the
region, that of somebody else is released. -/
theorem failed_entry_leaves_queue_open :
    (0, Kind.gcq) ∈ (setup_and_unset 0 { smooth with entry := false } (alone (nobody 0))).book.held ∧
      setup_and_unset 0 { smooth with entry := false } (alone (nobody 0)) ≠ alone (nobody 0) ∧
      (setup_and_unset 0 { smooth with region := false } (alone (nobody 0))).book.wrong = true := by
  have hheld : (0, Kind.gcq) ∈
      (setup_and_unset 0 { smooth with entry := false } (alone (nobody 0))).book.held := by
    decide +kernel
  refine ⟨hheld, fun h => ?_, by decide +kernel⟩
  rw [h] at hheld
  exact absurd hheld (by decide)

end Amr.Host.Session
