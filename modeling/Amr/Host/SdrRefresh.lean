/-
# Refreshing a sensor repository

`update_sdr` parses the response of the firmware into a fresh repository. When all goes well the
fresh one takes the place of the old one, whose blocks are freed, each once. When the parse fails
the old repository stays as it is; what the parse had allocated until then is kept by nobody and
freed by nobody. So the old data and the ownership of every block survive exactly when the response
is refused before anything is allocated, or is read to its end without a fault.
-/
import Amr.Host.SdrFormat

namespace Amr.Host.Sdr

open ByteReader

/-! ### The heap -/

namespace Heap

/-- Every block has an address below the next one. -/
def Fresh (h : Heap) : Prop := ∀ p ∈ h.live, p < h.next

/-- The blocks `ps` are new in `h'`. -/
structure Grows (h h' : Heap) (ps : List ℕ) : Prop where
  live : h'.live = h.live ∪ ps.toFinset
  next : h.next ≤ h'.next
  nodup : ps.Nodup
  above : ∀ p ∈ ps, h.next ≤ p ∧ p < h'.next
  wrong : h'.wrong = h.wrong

theorem Grows.refl (h : Heap) : Grows h h [] :=
  ⟨by simp, le_rfl, .nil, fun _ hp => absurd hp List.not_mem_nil, rfl⟩

theorem grows_alloc (h : Heap) : Grows h h.alloc [h.next] where
  live := (Finset.insert_eq h.next h.live).trans (Finset.union_comm _ _)
  next := Nat.le_succ _
  nodup := List.nodup_singleton _
  above p hp := by
    obtain rfl := List.mem_singleton.mp hp
    exact ⟨le_rfl, Nat.lt_succ_self _⟩
  wrong := rfl

theorem Grows.trans {h h' h'' : Heap} {ps qs : List ℕ} (hp : Grows h h' ps)
    (hq : Grows h' h'' qs) : Grows h h'' (ps ++ qs) where
  live := by rw [hq.live, hp.live, List.toFinset_append, Finset.union_assoc]
  next := hp.next.trans hq.next
  nodup := by
    refine List.nodup_append'.mpr ⟨hp.nodup, hq.nodup, fun p hpp hpq => ?_⟩
    have := (hp.above p hpp).2
    have := (hq.above p hpq).1
    omega
  above p hmem := by
    have := hp.next
    have := hq.next
    rcases List.mem_append.mp hmem with hmem | hmem
    · have := hp.above p hmem
      omega
    · have := hq.above p hmem
      omega
  wrong := hq.wrong.trans hp.wrong

theorem Grows.fresh {h h' : Heap} {ps : List ℕ} (hg : Grows h h' ps) (hf : h.Fresh) :
    h'.Fresh := by
  intro p hp
  rw [hg.live, Finset.mem_union, List.mem_toFinset] at hp
  rcases hp with hp | hp
  · exact (hf p hp).trans_le hg.next
  · exact (hg.above p hp).2

theorem Grows.notMem {h h' : Heap} {ps : List ℕ} (hg : Grows h h' ps) (hf : h.Fresh) {p : ℕ}
    (hp : p ∈ ps) : p ∉ h.live := fun hlive => by
  have := hf p hlive
  have := (hg.above p hp).1
  omega

/-- The blocks are freed one after the other. -/
def freeAll (h : Heap) : List ℕ → Heap
  | [] => h
  | p :: ps => (h.free p).freeAll ps

theorem freeAll_spec {ps : List ℕ} : ∀ {h : Heap}, ps.Nodup → (∀ p ∈ ps, p ∈ h.live) →
    h.freeAll ps = { h with live := h.live \ ps.toFinset } := by
  induction ps with
  | nil => intro h _ _; simp [freeAll]
  | cons p ps ih =>
    intro h hnodup hlive
    obtain ⟨hp, hnodup⟩ := List.nodup_cons.mp hnodup
    have hrest : ∀ q ∈ ps, q ∈ (h.free p).live := by
      intro q hq
      refine Finset.mem_erase.mpr ⟨?_, hlive q (List.mem_cons_of_mem _ hq)⟩
      rintro rfl
      exact hp hq
    have hmem : p ∈ h.live := hlive p List.mem_cons_self
    rw [freeAll, ih hnodup hrest]
    simp [free, hmem, Finset.sdiff_insert, Finset.erase_sdiff_comm]

theorem freePtr_eq (h : Heap) (p : Option ℕ) : h.freePtr p = h.freeAll p.toList := by
  cases p <;> rfl

theorem freeAll_append (h : Heap) (ps qs : List ℕ) :
    h.freeAll (ps ++ qs) = (h.freeAll ps).freeAll qs := by
  induction ps generalizing h with
  | nil => rfl
  | cons p ps ih => exact ih _

end Heap

/-! ### What a repository holds -/

/-- What the union of a repository points to. -/
inductive Contents
  | records (l : List sdr_record)
  | bd_info (r : bd_info_record)
  | fpt (hdr_primary : fpt_header) (primary : List fpt_partition)
    (hdr_secondary : fpt_header) (secondary : List fpt_partition)

namespace Contents

def family : Contents → Family
  | records _ => .records
  | bd_info _ => .bd_info
  | fpt _ _ _ _ => .fpt

/-- The bytes of a response that carry it. -/
def image : Contents → List ℕ
  | records l => l.flatMap sdr_record.bytes
  | bd_info r => r.flatMap field_info.image
  | fpt hp p hs s =>
    (hp.image ++ p.flatMap fpt_partition.image) ++ (hs.image ++ s.flatMap fpt_partition.image)

/-- Every length is the one announced, and within the arrays. -/
def Valid (num_records : ℕ) : Contents → Prop
  | records l => l.length = num_records ∧ ∀ r ∈ l, r.Valid
  | bd_info r => List.Forall₂ field_info.Valid BdField.all r
  | fpt hp p hs s => (p.length = hp.num_entries ∧ ∀ v ∈ p, v.Valid) ∧
      s.length = hs.num_entries ∧ ∀ v ∈ s, v.Valid

def Allocated (o : Allocs) : Contents → Prop
  | records _ => o.records
  | bd_info _ => o.records
  | fpt hp _ hs _ => (0 < hp.num_entries → o.partition_primary) ∧
      (0 < hs.num_entries → o.partition_secondary)

end Contents

namespace Body

/-- The blocks that the pointers of a union own. -/
def blocks : Body → List ℕ
  | empty => []
  | records p _ => [p]
  | bd_info p _ => [p]
  | fpt _ p _ _ s _ => p.toList ++ s.toList

def contents : Body → Option Contents
  | empty => none
  | records _ l => some (.records l)
  | bd_info _ r => some (.bd_info r)
  | fpt hp _ p hs _ s => some (.fpt hp p hs s)

/-- The member in use is that of the type. -/
def Matches (type : ℕ) (b : Body) : Prop :=
  ∀ c, b.contents = some c → family type = some c.family

end Body

theorem delete_repo_records_eq {repo : sdr_repo} (h : Heap)
    (hm : repo.body.Matches repo.repo_type) :
    delete_repo_records h repo = h.freeAll repo.body.blocks := by
  unfold delete_repo_records
  cases hb : repo.body with
  | empty =>
    rcases family repo.repo_type with _ | f
    · rfl
    · cases f <;> rfl
  | records p l =>
    rw [hm (.records l) (by rw [hb]; rfl)]
    rfl
  | bd_info p r =>
    rw [hm (.bd_info r) (by rw [hb]; rfl)]
    rfl
  | fpt hp p lp hs s ls =>
    rw [hm (.fpt hp lp hs ls) (by rw [hb]; rfl)]
    simp only [Contents.family, Body.blocks, Heap.freeAll_append, Heap.freePtr_eq]

/-! ### Parsing -/

theorem parse_fpt_gives {ok : Bool} {h : Heap} {i : Input}
    (hclean : (parse_fpt ok h i).input.Clean) (hright : (parse_fpt ok h i).heap.wrong = false) :
    i.Clean ∧ h.wrong = false ∧ ∃ hdr ptr l, (parse_fpt ok h i).val = (hdr, ptr, l) ∧
      i.rest = (hdr.image ++ l.flatMap fpt_partition.image) ++ (parse_fpt ok h i).input.rest ∧
      (l.length = hdr.num_entries ∧ ∀ v ∈ l, v.Valid) ∧ (0 < hdr.num_entries → ok) ∧
      h.Grows (parse_fpt ok h i).heap ptr.toList ∧
      (ptr = none ↔ hdr.num_entries = 0) := by
  unfold parse_fpt at *
  dsimp only at *
  by_cases hpos : 0 < (fptHeader.run i).1.num_entries
  · rw [if_pos hpos] at *
    cases ok with
    | false => exact absurd hright (by simp [Heap.crash])
    | true =>
      rw [if_pos rfl] at *
      obtain ⟨hclean', bs, hrest, rfl, hlen, hvalid⟩ := collect_gives partition_gives _ _ hclean
      obtain ⟨hi, cs, hhdr, rfl⟩ := fptHeader_gives i hclean'
      refine ⟨hi, hright, _, _, _, rfl, ?_, ⟨hlen, hvalid⟩, fun _ => rfl, h.grows_alloc, ?_⟩
      · rw [hhdr, hrest, List.append_assoc]
      · exact ⟨fun hp => absurd hp nofun, fun hz => by omega⟩
  · rw [if_neg hpos] at *
    obtain ⟨hi, cs, hhdr, rfl⟩ := fptHeader_gives i hclean
    refine ⟨hi, hright, _, _, _, rfl, ?_, ⟨?_, fun v hv => absurd hv List.not_mem_nil⟩,
      fun h => absurd h hpos, .refl h, ?_⟩
    · simpa using hhdr
    · simp only [List.length_nil]
      omega
    · exact ⟨fun _ => by omega, fun _ => rfl⟩

theorem parse_fpt_reads {ok : Bool} (h : Heap) {hdr : fpt_header} {l : List fpt_partition}
    (hlen : l.length = hdr.num_entries) (hvalid : ∀ v ∈ l, v.Valid)
    (hok : 0 < hdr.num_entries → ok) (tail : List ℕ) :
    ∃ ptr heap, parse_fpt ok h (.start ((hdr.image ++ l.flatMap fpt_partition.image) ++ tail)) =
      ⟨(hdr, ptr, l), heap, .start tail⟩ ∧ h.Grows heap ptr.toList ∧ (l = [] → ptr = none) := by
  have hhdr : fptHeader.run (.start ((hdr.image ++ l.flatMap fpt_partition.image) ++ tail)) =
      (hdr, .start (l.flatMap fpt_partition.image ++ tail)) := by
    rw [List.append_assoc]
    exact (fptHeader_reads hdr).run_start _
  unfold parse_fpt
  rw [hhdr]
  dsimp only
  by_cases hpos : 0 < hdr.num_entries
  · have hl := (Reads.collect_list fun v hv => partition_reads (hvalid v hv)).run_start tail
    rw [hlen] at hl
    rw [if_pos hpos, if_pos (hok hpos), hl]
    refine ⟨_, _, rfl, h.grows_alloc, ?_⟩
    rintro rfl
    rw [← hlen] at hpos
    exact absurd hpos (Nat.lt_irrefl 0)
  · obtain rfl : l = [] := List.eq_nil_of_length_eq_zero (by omega)
    rw [if_neg hpos]
    exact ⟨_, _, rfl, .refl h, fun _ => rfl⟩

theorem parse_body_gives {o : Allocs} {n : ℕ} {h : Heap} {i : Input} {f : Family}
    (hclean : (parse_body o n h i f).input.Clean)
    (hright : (parse_body o n h i f).heap.wrong = false) :
    i.Clean ∧ h.wrong = false ∧
      (((parse_body o n h i f).val = none ∧ (parse_body o n h i f).heap = h ∧ f ≠ .fpt ∧
        o.records = false) ∨
      ∃ b c, (parse_body o n h i f).val = some b ∧ b.contents = some c ∧ c.family = f ∧
        i.rest = c.image ++ (parse_body o n h i f).input.rest ∧ c.Valid n ∧ c.Allocated o ∧
        h.Grows (parse_body o n h i f).heap b.blocks ∧
        (b.blocks = [] → ∃ hp hs, c = .fpt hp [] hs [] ∧ hp.num_entries = 0 ∧
          hs.num_entries = 0)) := by
  cases f with
  | fpt =>
    obtain ⟨hclean', hright', hs, ptrs, ls, hvals, hrests, hvalids, hoks, hgrows, hnulls⟩ :=
      parse_fpt_gives hclean hright
    obtain ⟨hi, hwrong, hp, ptrp, lp, hvalp, hrestp, hvalidp, hokp, hgrowp, hnullp⟩ :=
      parse_fpt_gives hclean' hright'
    refine ⟨hi, hwrong, .inr ⟨_, _, rfl, rfl, rfl, ?_, ?_, ?_, ?_, ?_⟩⟩
    · rw [hrestp, hrests]
      simp only [parse_body, hvalp, hvals, Contents.image, List.append_assoc]
    · simp only [hvalp, hvals]
      exact ⟨hvalidp, hvalids⟩
    · simp only [hvalp, hvals]
      exact ⟨hokp, hoks⟩
    · simp only [parse_body, Body.blocks, hvalp, hvals]
      exact hgrowp.trans hgrows
    · simp only [Body.blocks, hvalp, hvals, List.append_eq_nil_iff, Option.toList_eq_nil_iff]
      rintro ⟨hp0, hs0⟩
      have hp0 := hnullp.mp hp0
      have hs0 := hnulls.mp hs0
      have hlp : lp = [] := List.eq_nil_of_length_eq_zero (by omega)
      have hls : ls = [] := List.eq_nil_of_length_eq_zero (by omega)
      exact ⟨hp, hs, by rw [hlp, hls], hp0, hs0⟩
  | bd_info =>
    cases ho : o.records with
    | false =>
      have hbody : parse_body o n h i .bd_info = ⟨none, h, i⟩ := by
        unfold parse_body
        rw [ho]
        rfl
      rw [hbody] at hclean hright ⊢
      exact ⟨hclean, hright, .inl ⟨rfl, rfl, nofun, rfl⟩⟩
    | true =>
      have hbody : parse_body o n h i .bd_info = ⟨some (.bd_info h.next
          ((infos BdField.all).run i).1), h.alloc, ((infos BdField.all).run i).2⟩ := by
        unfold parse_body
        rw [ho]
        rfl
      rw [hbody] at hclean hright ⊢
      dsimp only at hclean
      obtain ⟨hi, bs, hrest, hbs, hvalid⟩ := infos_gives BdField.all i hclean
      rw [hbs] at hrest
      generalize (infos BdField.all).run i = r at hrest hvalid ⊢
      exact ⟨hi, hright, .inr ⟨_, .bd_info _, rfl, rfl, rfl, hrest, hvalid, ho, h.grows_alloc,
        fun hnil => absurd hnil (List.cons_ne_nil _ _)⟩⟩
  | records =>
    cases ho : o.records with
    | false =>
      have hbody : parse_body o n h i .records = ⟨none, h, i⟩ := by
        unfold parse_body
        rw [ho]
        rfl
      rw [hbody] at hclean hright ⊢
      exact ⟨hclean, hright, .inl ⟨rfl, rfl, nofun, rfl⟩⟩
    | true =>
      have hbody : parse_body o n h i .records = ⟨some (.records h.next
          ((collect (fun _ => record) n).run i).1), h.alloc,
          ((collect (fun _ => record) n).run i).2⟩ := by
        unfold parse_body
        rw [ho]
        rfl
      rw [hbody] at hclean hright ⊢
      obtain ⟨hi, bs, hrest, hbs, hvalid⟩ := collect_gives record_gives n i hclean
      rw [hbs] at hrest
      exact ⟨hi, hright, .inr ⟨_, .records _, rfl, rfl, rfl, hrest, hvalid, ho, h.grows_alloc,
        fun hnil => absurd hnil (List.cons_ne_nil _ _)⟩⟩

theorem parse_body_reads {o : Allocs} {n : ℕ} (h : Heap) {c : Contents} (hvalid : c.Valid n)
    (halloc : c.Allocated o) (tail : List ℕ) :
    ∃ b heap, parse_body o n h (.start (c.image ++ tail)) c.family =
      ⟨some b, heap, .start tail⟩ ∧ b.contents = some c ∧ h.Grows heap b.blocks ∧
      ∀ hp hs, c = .fpt hp [] hs [] → b.blocks = [] := by
  cases c with
  | records l =>
    have hl := (Reads.collect_list fun v hv => record_reads (hvalid.2 v hv)).run_start tail
    rw [hvalid.1] at hl
    refine ⟨.records h.next l, h.alloc, ?_, rfl, h.grows_alloc, nofun⟩
    unfold parse_body
    simp only [Contents.family, Contents.image, hl]
    exact if_pos halloc
  | bd_info r =>
    refine ⟨.bd_info h.next r, h.alloc, ?_, rfl, h.grows_alloc, nofun⟩
    unfold parse_body
    simp only [Contents.family, Contents.image, (infos_reads hvalid).run_start tail]
    exact if_pos halloc
  | fpt hp p hs s =>
    obtain ⟨⟨hlenp, hvalidp⟩, hlens, hvalids⟩ := hvalid
    obtain ⟨ptrp, heapp, hparsep, hgrowp, hnullp⟩ := parse_fpt_reads h hlenp hvalidp halloc.1
      ((hs.image ++ s.flatMap fpt_partition.image) ++ tail)
    obtain ⟨ptrs, heaps, hparses, hgrows, hnulls⟩ :=
      parse_fpt_reads heapp hlens hvalids halloc.2 tail
    refine ⟨.fpt hp ptrp p hs ptrs s, heaps, ?_, rfl, hgrowp.trans hgrows, ?_⟩
    · unfold parse_body
      simp only [Contents.family, Contents.image]
      rw [List.append_assoc, hparsep]
      simp only [hparses]
    · rintro _ _ ⟨⟩
      unfold Body.blocks
      rw [hnullp rfl, hnulls rfl]
      rfl

theorem verify_gives {repo : sdr_repo} {ret : Option Errno} {h : Heap} {i : Input}
    (hclean : (verify repo ret h i).input.Clean) :
    i.Clean ∧ ((∀ b ∈ i.rest, b < 256) →
      (∃ tail, i.rest = EOR ++ tail ∧ (verify repo ret h i).val = (ret, repo)) ∨
        (verify repo ret h i).val = (some .EILSEQ, repo)) := by
  unfold verify at *
  dsimp only at *
  obtain ⟨hi, bs, hrest, hiff⟩ := endOfRepo_gives i hclean
  refine ⟨hi, fun hbytes => ?_⟩
  have hmark := hiff fun b hb => hbytes b (by rw [hrest]; exact List.mem_append_left _ hb)
  by_cases hval : (endOfRepo.run i).1 = SDR_EOR
  · rw [hmark.mp hval] at hrest
    rw [if_pos hval]
    exact .inl ⟨_, hrest, rfl⟩
  · rw [if_neg hval]
    exact .inr rfl

theorem verify_marked (repo : sdr_repo) (ret : Option Errno) (h : Heap) (tail : List ℕ) :
    verify repo ret h (.start (EOR ++ tail)) = ⟨(ret, repo), h, .start tail⟩ := by
  unfold verify
  rw [endOfRepo_reads.run_start tail]
  rfl

theorem verify_clean (repo : sdr_repo) (ret : Option Errno) (h : Heap) {rest : List ℕ}
    (hlen : 3 ≤ rest.length) : (verify repo ret h (.start rest)).input.Clean := by
  obtain ⟨a, b, c, rest, rfl⟩ : ∃ a b c rest', rest = a :: b :: c :: rest' := by
    rcases rest with _ | ⟨a, _ | ⟨b, _ | ⟨c, rest⟩⟩⟩
    · simp at hlen
    · simp at hlen
    · simp at hlen
    · exact ⟨a, b, c, rest, rfl⟩
  exact ⟨rfl, rfl⟩

/-- A response is one of these: it is refused before anything is allocated; it announces two empty
tables; or it holds what it announces, and the mark behind it. -/
def Parsable (o : Allocs) (repo : sdr_repo) (rest : List ℕ) : Prop :=
  repo.size = 0 ∨ repo.num_records = 0 ∨ family repo.repo_type = none ∨
    (family repo.repo_type ≠ some .fpt ∧ o.records = false) ∨
    (∃ (hp hs : fpt_header) (tail : List ℕ), family repo.repo_type = some .fpt ∧
      hp.num_entries = 0 ∧ hs.num_entries = 0 ∧ rest = (Contents.fpt hp [] hs []).image ++ tail) ∨
    ∃ (c : Contents) (tail : List ℕ), family repo.repo_type = some c.family ∧
      rest = c.image ++ (EOR ++ tail) ∧ c.Valid repo.num_records ∧ c.Allocated o

section Parse

variable {o : Allocs} {h : Heap} {repo : sdr_repo} {rest : List ℕ}

theorem parse_records_done (hbytes : ∀ b ∈ rest, b < 256)
    (hclean : (parse_records o h repo (.start rest)).input.Clean)
    (hright : (parse_records o h repo (.start rest)).heap.wrong = false)
    (hret : (parse_records o h repo (.start rest)).val.1 = none) :
    repo.size ≠ 0 ∧ 0 < repo.num_records ∧ ∃ b c tail,
      (parse_records o h repo (.start rest)).val.2 = { repo with body := b } ∧
      b.contents = some c ∧ family repo.repo_type = some c.family ∧
      rest = c.image ++ (EOR ++ tail) ∧ c.Valid repo.num_records ∧ c.Allocated o ∧
      h.Grows (parse_records o h repo (.start rest)).heap b.blocks := by
  unfold parse_records at *
  by_cases hsize : repo.size = 0
  · rw [if_pos hsize] at hret
    exact absurd hret nofun
  rw [if_neg hsize] at *
  by_cases hnum : 0 < repo.num_records
  swap
  · rw [if_neg hnum] at hret
    unfold verify at hret
    dsimp only at hret
    split_ifs at hret
  rw [if_pos hnum] at *
  refine ⟨hsize, hnum, ?_⟩
  cases hf : family repo.repo_type with
  | none =>
    simp only [hf] at hret
    exact absurd hret nofun
  | some f =>
    simp only [hf] at hclean hright hret ⊢
    cases hb : (parse_body o repo.num_records h (.start rest) f).val with
    | none =>
      simp only [hb] at hret
      exact absurd hret nofun
    | some b =>
      simp only [hb] at hclean hright hret ⊢
      obtain ⟨hclean', hmark⟩ := verify_gives hclean
      obtain ⟨-, -, ⟨hnone, -⟩ | ⟨b', c, hb', hc, hfam, hrest, hvalid, halloc, hgrow, -⟩⟩ :=
        parse_body_gives hclean' hright
      · rw [hb] at hnone
        exact absurd hnone nofun
      · obtain rfl : b = b' := Option.some.inj (hb.symm.trans hb')
        have hsub : ∀ v ∈ (parse_body o repo.num_records h (.start rest) f).input.rest, v < 256 :=
          fun v hv => hbytes v (by
            have hmem : v ∈ (Input.start rest).rest := by
              rw [hrest]
              exact List.mem_append_right _ hv
            exact hmem)
        rcases hmark hsub with ⟨tail, htail, hval⟩ | hval
        · rw [htail] at hrest
          refine ⟨b, c, tail, ?_, hc, by rw [hfam], hrest, hvalid, halloc, hgrow⟩
          rw [hval]
        · rw [hval] at hret
          exact absurd hret nofun

theorem parse_records_grows (hclean : (parse_records o h repo (.start rest)).input.Clean)
    (hright : (parse_records o h repo (.start rest)).heap.wrong = false) :
    ∃ ps, h.Grows (parse_records o h repo (.start rest)).heap ps := by
  unfold parse_records at *
  by_cases hsize : repo.size = 0
  · rw [if_pos hsize]
    exact ⟨[], .refl h⟩
  rw [if_neg hsize] at *
  by_cases hnum : 0 < repo.num_records
  swap
  · rw [if_neg hnum]
    exact ⟨[], .refl h⟩
  rw [if_pos hnum] at *
  cases hf : family repo.repo_type with
  | none => exact ⟨[], .refl h⟩
  | some f =>
    simp only [hf] at hclean hright ⊢
    cases hb : (parse_body o repo.num_records h (.start rest) f).val with
    | none =>
      simp only [hb] at hclean hright ⊢
      obtain ⟨-, -, ⟨-, hheap, -⟩ | ⟨b, c, hb', -⟩⟩ := parse_body_gives hclean hright
      · rw [hheap]
        exact ⟨[], .refl h⟩
      · rw [hb] at hb'
        exact absurd hb' nofun
    | some b =>
      simp only [hb] at hclean hright ⊢
      obtain ⟨-, -, ⟨hnone, -⟩ | ⟨b', c, -, -, -, -, -, -, hgrow, -⟩⟩ :=
        parse_body_gives (verify_gives hclean).1 hright
      · rw [hb] at hnone
        exact absurd hnone nofun
      · exact ⟨_, hgrow⟩

/-- **A parse is safe** exactly for these responses: nothing goes wrong in it, and when it fails it
leaves no block behind. -/
theorem parse_records_safe_iff (hfresh : h.Fresh) (hright : h.wrong = false)
    (hbytes : ∀ b ∈ rest, b < 256) (hlen : 11 ≤ rest.length) :
    ((parse_records o h repo (.start rest)).input.Clean ∧
      (parse_records o h repo (.start rest)).heap.wrong = false ∧
      ((parse_records o h repo (.start rest)).val.1 = none ∨
        (parse_records o h repo (.start rest)).heap.live = h.live)) ↔ Parsable o repo rest := by
  unfold Parsable
  constructor
  · rintro ⟨hclean, hw, hret | hlive⟩
    · obtain ⟨-, -, b, c, tail, -, -, hfam, hrest, hvalid, halloc, -⟩ :=
        parse_records_done hbytes hclean hw hret
      exact .inr (.inr (.inr (.inr (.inr ⟨c, tail, hfam, hrest, hvalid, halloc⟩))))
    · unfold parse_records at hclean hw hlive
      by_cases hsize : repo.size = 0
      · exact .inl hsize
      rw [if_neg hsize] at hclean hw hlive
      by_cases hnum : 0 < repo.num_records
      swap
      · exact .inr (.inl (by omega))
      rw [if_pos hnum] at hclean hw hlive
      cases hf : family repo.repo_type with
      | none => exact .inr (.inr (.inl rfl))
      | some f =>
        simp only [hf] at hclean hw hlive
        cases hb : (parse_body o repo.num_records h (.start rest) f).val with
        | none =>
          simp only [hb] at hclean hw
          obtain ⟨-, -, ⟨-, -, hne, hrec⟩ | ⟨b', c, hb', -⟩⟩ := parse_body_gives hclean hw
          · exact .inr (.inr (.inr (.inl ⟨fun heq => hne (Option.some.inj heq), hrec⟩)))
          · rw [hb] at hb'
            exact absurd hb' nofun
        | some b =>
          simp only [hb] at hclean hw hlive
          obtain ⟨-, -, ⟨hnone, -⟩ | ⟨b', c, -, -, hfam, hrest, -, -, hgrow, hempty⟩⟩ :=
            parse_body_gives (verify_gives hclean).1 hw
          · rw [hb] at hnone
            exact absurd hnone nofun
          · -- no block is new, so both tables are empty
            have hnil : b'.blocks = [] := List.eq_nil_iff_forall_not_mem.mpr fun p hp => by
              have hmem : p ∈ h.live := by
                rw [← hlive]
                unfold verify
                rw [hgrow.live]
                exact Finset.mem_union_right _ (List.mem_toFinset.mpr hp)
              exact hgrow.notMem hfresh hp hmem
            obtain ⟨hp, hs, rfl, hp0, hs0⟩ := hempty hnil
            exact .inr (.inr (.inr (.inr (.inl ⟨hp, hs, _, by rw [← hfam]; rfl, hp0, hs0,
              hrest⟩))))
  · intro hparse
    unfold parse_records
    by_cases hsize : repo.size = 0
    · rw [if_pos hsize]
      exact ⟨⟨rfl, rfl⟩, hright, .inr rfl⟩
    rw [if_neg hsize]
    by_cases hnum : 0 < repo.num_records
    swap
    · rw [if_neg hnum]
      exact ⟨verify_clean _ _ _ (by omega), hright, .inr rfl⟩
    rw [if_pos hnum]
    rcases hparse with h0 | h0 | hf | ⟨hne, hrec⟩ | ⟨hp, hs, tail, hf, hp0, hs0, hrest⟩ |
      ⟨c, tail, hf, hrest, hvalid, halloc⟩
    · exact absurd h0 hsize
    · omega
    · rw [hf]
      exact ⟨⟨rfl, rfl⟩, hright, .inr rfl⟩
    · rcases hf : family repo.repo_type with _ | f
      · exact ⟨⟨rfl, rfl⟩, hright, .inr rfl⟩
      · have hbody : parse_body o repo.num_records h (.start rest) f = ⟨none, h, .start rest⟩ := by
          cases f with
          | fpt => exact absurd hf hne
          | bd_info => exact if_neg (by simp [hrec])
          | records => exact if_neg (by simp [hrec])
        simp only [hbody]
        exact ⟨⟨rfl, rfl⟩, hright, .inr trivial⟩
    · have hvalid : (Contents.fpt hp [] hs []).Valid repo.num_records :=
        ⟨⟨hp0.symm, nofun⟩, hs0.symm, nofun⟩
      have halloc : (Contents.fpt hp [] hs []).Allocated o :=
        ⟨fun hpos => by omega, fun hpos => by omega⟩
      obtain ⟨b, heap, hbody, -, hgrow, hnil⟩ := parse_body_reads h hvalid halloc tail
      have htail : 3 ≤ tail.length := by
        rw [hrest] at hlen
        simp only [Contents.image, fpt_header.image, List.flatMap_nil, List.length_append,
          List.length_cons, List.length_nil] at hlen
        omega
      rw [hf, hrest]
      simp only [Contents.family] at hbody
      simp only [hbody]
      rw [hnil hp hs rfl] at hgrow
      refine ⟨verify_clean _ _ _ htail, hgrow.wrong.trans hright, .inr ?_⟩
      unfold verify
      rw [hgrow.live]
      simp
    · obtain ⟨b, heap, hbody, -, hgrow, -⟩ := parse_body_reads h hvalid halloc (EOR ++ tail)
      rw [hf, hrest]
      simp only [hbody, verify_marked]
      exact ⟨⟨rfl, rfl⟩, hgrow.wrong.trans hright, .inl trivial⟩

end Parse

/-! ### The response -/

theorem Response.shape (r : Response) : ∃ code rid ver num lo hi rest,
    r.buf = code :: rid :: ver :: num :: lo :: hi :: rest ∧ rest.length = 4090 ∧
      ∀ b ∈ rest, b < 256 := by
  have hlen : r.buf.length = 4096 := by
    unfold Response.buf
    rw [List.length_map, r.length_bytes]
    rfl
  have hlt : ∀ b ∈ r.buf, b < 256 := by
    unfold Response.buf
    intro b hb
    obtain ⟨v, -, rfl⟩ := List.mem_map.mp hb
    exact v.toNat_lt
  rcases hbuf : r.buf with _ | ⟨code, _ | ⟨rid, _ | ⟨ver, _ | ⟨num, _ | ⟨lo, _ | ⟨hi, rest⟩⟩⟩⟩⟩⟩ <;>
    rw [hbuf] at hlen hlt <;> simp only [List.length_cons, List.length_nil] at hlen
  · omega
  · omega
  · omega
  · omega
  · omega
  · omega
  · exact ⟨_, _, _, _, _, _, rest, rfl, by omega, fun b hb => hlt b (by simp [hb])⟩

/-- The response carries the repository: its header, its contents, and the mark behind them. -/
def Carries (r : Response) (repo : sdr_repo) : Prop :=
  ∃ lo hi c tail, r.buf = SDR_CODE_OP_SUCCESS :: repo.repo_type :: repo.repo_ver ::
      repo.num_records :: lo :: hi :: (c.image ++ (EOR ++ tail)) ∧
    repo.size = lo ||| (hi <<< 8) ∧ repo.body.contents = some c ∧
    family repo.repo_type = some c.family ∧ c.Valid repo.num_records

/-- The response is refused before anything is allocated, or is read to its end. -/
def Answerable (o : Allocs) (repo_type : ℕ) (r : Response) : Prop :=
  match r.buf with
  | code :: rid :: ver :: num :: lo :: hi :: rest =>
    code ≠ SDR_CODE_OP_SUCCESS ∨ rid ≠ repo_type ∨
      Parsable o ⟨rid, ver, num, lo ||| (hi <<< 8), 0, .empty⟩ rest
  | _ => True

section Response

variable {e : Env} {repo_type : ℕ} {h : Heap} {r : Response} {code rid ver num lo hi : ℕ}
  {rest : List ℕ}

theorem answerable_iff (o : Allocs)
    (hbuf : r.buf = code :: rid :: ver :: num :: lo :: hi :: rest) :
    Answerable o repo_type r ↔ code ≠ SDR_CODE_OP_SUCCESS ∨ rid ≠ repo_type ∨
      Parsable o ⟨rid, ver, num, lo ||| (hi <<< 8), 0, .empty⟩ rest := by
  unfold Answerable
  rw [hbuf]

theorem get_sdr_raw_refused (hr : e.response = some r)
    (hbuf : r.buf = code :: rid :: ver :: num :: lo :: hi :: rest)
    (hrefused : code ≠ SDR_CODE_OP_SUCCESS ∨ rid ≠ repo_type) :
    get_sdr_raw e repo_type h = ⟨(some .EINVAL, .zero), h, .start []⟩ := by
  unfold get_sdr_raw
  simp only [hr, hbuf]
  by_cases hcode : code = SDR_CODE_OP_SUCCESS
  · have hrid : rid ≠ repo_type := hrefused.resolve_left (not_not.mpr hcode)
    rw [if_neg (not_not.mpr hcode), if_pos hrid]
  · rw [if_pos hcode]

theorem get_sdr_raw_accepted (hr : e.response = some r)
    (hbuf : r.buf = code :: rid :: ver :: num :: lo :: hi :: rest)
    (hcode : code = SDR_CODE_OP_SUCCESS) (hrid : rid = repo_type) :
    get_sdr_raw e repo_type h = parse_records e.parse h
      ⟨rid, ver, num, lo ||| (hi <<< 8), 0, .empty⟩ (.start rest) := by
  unfold get_sdr_raw
  simp only [hr, hbuf]
  rw [if_neg (not_not.mpr hcode), if_neg (not_not.mpr hrid)]
  rfl

end Response

theorem get_sdr_raw_safe_iff (e : Env) (repo_type : ℕ) {h : Heap} (hfresh : h.Fresh)
    (hright : h.wrong = false) :
    ((get_sdr_raw e repo_type h).input.Clean ∧ (get_sdr_raw e repo_type h).heap.wrong = false ∧
      ((get_sdr_raw e repo_type h).val.1 = none ∨
        (get_sdr_raw e repo_type h).heap.live = h.live)) ↔
      ∀ r, e.response = some r → Answerable e.parse repo_type r := by
  cases hr : e.response with
  | none =>
    unfold get_sdr_raw
    rw [hr]
    exact iff_of_true ⟨⟨rfl, rfl⟩, hright, .inr rfl⟩ nofun
  | some r =>
    obtain ⟨code, rid, ver, num, lo, hi, rest, hbuf, hlen, hlt⟩ := r.shape
    have hanswer : (∀ r', some r = some r' → Answerable e.parse repo_type r') ↔
        code ≠ SDR_CODE_OP_SUCCESS ∨ rid ≠ repo_type ∨
          Parsable e.parse ⟨rid, ver, num, lo ||| (hi <<< 8), 0, .empty⟩ rest := by
      rw [← answerable_iff e.parse hbuf]
      exact ⟨fun h => h r rfl, fun h r' hr' => Option.some.inj hr' ▸ h⟩
    rw [hanswer]
    by_cases hcode : code = SDR_CODE_OP_SUCCESS
    swap
    · rw [get_sdr_raw_refused hr hbuf (.inl hcode)]
      exact iff_of_true ⟨⟨rfl, rfl⟩, hright, .inr rfl⟩ (.inl hcode)
    by_cases hrid : rid = repo_type
    swap
    · rw [get_sdr_raw_refused hr hbuf (.inr hrid)]
      exact iff_of_true ⟨⟨rfl, rfl⟩, hright, .inr rfl⟩ (.inr (.inl hrid))
    rw [get_sdr_raw_accepted hr hbuf hcode hrid, or_iff_right (not_not.mpr hcode),
      or_iff_right (not_not.mpr hrid)]
    exact parse_records_safe_iff hfresh hright hlt (by omega)

theorem get_sdr_raw_done {e : Env} {repo_type : ℕ} {h : Heap}
    (hclean : (get_sdr_raw e repo_type h).input.Clean)
    (hright : (get_sdr_raw e repo_type h).heap.wrong = false)
    (hret : (get_sdr_raw e repo_type h).val.1 = none) :
    ∃ r, e.response = some r ∧ Carries r (get_sdr_raw e repo_type h).val.2 ∧
      (get_sdr_raw e repo_type h).val.2.repo_type = repo_type ∧
      h.Grows (get_sdr_raw e repo_type h).heap (get_sdr_raw e repo_type h).val.2.body.blocks := by
  cases hr : e.response with
  | none =>
    unfold get_sdr_raw at hret
    rw [hr] at hret
    exact absurd hret nofun
  | some r =>
    obtain ⟨code, rid, ver, num, lo, hi, rest, hbuf, hlen, hlt⟩ := r.shape
    by_cases hok : code = SDR_CODE_OP_SUCCESS ∧ rid = repo_type
    swap
    · rw [get_sdr_raw_refused hr hbuf (by tauto)] at hret
      exact absurd hret nofun
    rw [get_sdr_raw_accepted hr hbuf hok.1 hok.2] at hclean hright hret ⊢
    obtain ⟨-, -, b, c, tail, hval, hc, hfam, hrest, hvalid, -, hgrow⟩ :=
      parse_records_done hlt hclean hright hret
    rw [hval]
    refine ⟨r, rfl, ⟨lo, hi, c, tail, ?_, rfl, hc, hfam, hvalid⟩, hok.2, hgrow⟩
    rw [hbuf, hok.1, hrest]

theorem get_sdr_raw_grows {e : Env} {repo_type : ℕ} {h : Heap}
    (hclean : (get_sdr_raw e repo_type h).input.Clean)
    (hright : (get_sdr_raw e repo_type h).heap.wrong = false) :
    ∃ ps, h.Grows (get_sdr_raw e repo_type h).heap ps := by
  cases hr : e.response with
  | none =>
    unfold get_sdr_raw
    rw [hr]
    exact ⟨[], .refl h⟩
  | some r =>
    obtain ⟨code, rid, ver, num, lo, hi, rest, hbuf, -, -⟩ := r.shape
    by_cases hok : code = SDR_CODE_OP_SUCCESS ∧ rid = repo_type
    · rw [get_sdr_raw_accepted hr hbuf hok.1 hok.2] at hclean hright ⊢
      exact parse_records_grows hclean hright
    · rw [get_sdr_raw_refused hr hbuf (by tauto)]
      exact ⟨[], .refl h⟩

/-! ### The refresh -/

namespace pf_dev_struct

/-- The blocks that the repositories of a device own. -/
def blocks (d : pf_dev_struct) : List ℕ := d.sensor_repos.flatMap fun r => r.body.blocks

/-- Every block of the repositories is allocated, and owned once. -/
structure Owned (d : pf_dev_struct) : Prop where
  nodup : d.blocks.Nodup
  live : ∀ p ∈ d.blocks, p ∈ d.heap.live
  fresh : d.heap.Fresh
  right : d.heap.wrong = false
  kinds : ∀ r ∈ d.sensor_repos, r.body.Matches r.repo_type

def others (d : pf_dev_struct) : Finset ℕ := d.heap.live \ d.blocks.toFinset

end pf_dev_struct

/-- The refresh replaces the records of the repository by those of the response and succeeds, or
fails and leaves them; every block is still owned once, and none is lost. -/
structure Refreshes (e : Env) (dev : pf_dev_struct) (repo_type : ℕ) : Prop where
  clean : (update_sdr e dev repo_type).input.Clean
  owned : (update_sdr e dev repo_type).dev.Owned
  others : (update_sdr e dev repo_type).dev.others = dev.others
  done : (update_sdr e dev repo_type).ret = none → ∃ before old behind repo r,
    find_sdr_repo repo_type dev.sensor_repos = some (before, old, behind) ∧
      (update_sdr e dev repo_type).dev.sensor_repos = before ++ repo :: behind ∧
      e.response = some r ∧ Carries r repo ∧ repo.repo_type = repo_type
  kept : (update_sdr e dev repo_type).ret ≠ none →
    (update_sdr e dev repo_type).dev.sensor_repos = dev.sensor_repos ∧
      (update_sdr e dev repo_type).dev.heap.live = dev.heap.live

theorem find_sdr_repo_split {type : ℕ} {l before behind : List sdr_repo} {repo : sdr_repo}
    (h : find_sdr_repo type l = some (before, repo, behind)) :
    l = before ++ repo :: behind ∧ repo.repo_type = type := by
  induction l generalizing before repo behind with
  | nil => exact absurd h nofun
  | cons r rs ih =>
    unfold find_sdr_repo at h
    split_ifs at h with hr
    · obtain ⟨rfl, rfl, rfl⟩ : [] = before ∧ r = repo ∧ rs = behind := by simpa using h
      exact ⟨rfl, hr⟩
    · obtain ⟨⟨before', repo', behind'⟩, hz, heq⟩ := Option.map_eq_some_iff.mp h
      obtain ⟨rfl, rfl, rfl⟩ : r :: before' = before ∧ repo' = repo ∧ behind' = behind := by
        simpa using heq
      obtain ⟨hl, htype⟩ := ih hz
      exact ⟨by rw [hl]; rfl, htype⟩

namespace Heap

theorem free_two {h h' : Heap} {ps : List ℕ} (hfresh : h.Fresh)
    (hg : h.alloc.alloc.Grows h' ps) :
    (h'.free (h.next + 1)).live.erase h.next = h.live ∪ ps.toFinset ∧
      h.next + 1 ∈ h'.live ∧ h.next ∈ (h'.free (h.next + 1)).live ∧ h.next ≤ h'.next := by
  have hlive : h'.live = insert (h.next + 1) (insert h.next h.live) ∪ ps.toFinset := hg.live
  have habove : ∀ p ∈ ps, h.next + 2 ≤ p := fun p hp => (hg.above p hp).1
  have hnext : h.next + 2 ≤ h'.next := hg.next
  refine ⟨?_, ?_, ?_, by omega⟩
  · ext p
    simp only [free, hlive, Finset.mem_erase, Finset.mem_union, Finset.mem_insert,
      List.mem_toFinset]
    constructor
    · rintro ⟨hne, hne', (rfl | rfl | hp) | hp⟩
      · exact absurd rfl hne'
      · exact absurd rfl hne
      · exact .inl hp
      · exact .inr hp
    · rintro (hp | hp)
      · have := hfresh p hp
        exact ⟨by omega, by omega, .inl (.inr (.inr hp))⟩
      · have := habove p hp
        exact ⟨by omega, by omega, .inr hp⟩
  · rw [hlive]
    simp
  · simp [free, hlive]

theorem free_wrong {h : Heap} {p : ℕ} (hw : (h.free p).wrong = false) : h.wrong = false := by
  unfold free at hw
  exact (Bool.or_eq_false_iff.mp hw).1

theorem freeAll_wrong {ps : List ℕ} : ∀ {h : Heap}, (h.freeAll ps).wrong = false →
    h.wrong = false := by
  induction ps with
  | nil => exact id
  | cons p ps ih => exact fun hw => free_wrong (ih hw)

theorem free_wrong_of_mem {h : Heap} {p : ℕ} (hp : p ∈ h.live) : (h.free p).wrong = h.wrong := by
  simp [free, hp]

end Heap

section Update

variable {e : Env} {dev : pf_dev_struct} {repo_type : ℕ}

theorem refreshes_of_failed {errno : Errno} {h : Heap} {i : Input} (hdev : dev.Owned)
    (hu : update_sdr e dev repo_type = ⟨some errno, ⟨dev.sensor_repos, h⟩, i⟩) (hi : i.Clean)
    (hlive : h.live = dev.heap.live) (hnext : dev.heap.next ≤ h.next) (hright : h.wrong = false) :
    Refreshes e dev repo_type where
  clean := by rw [hu]; exact hi
  owned := by
    rw [hu]
    exact ⟨hdev.nodup, fun p hp => hlive ▸ hdev.live p hp,
      fun p hp => (hdev.fresh p (hlive ▸ hp)).trans_le hnext, hright, hdev.kinds⟩
  others := by
    rw [hu]
    unfold pf_dev_struct.others
    rw [hlive]
    rfl
  done hret := by
    rw [hu] at hret
    exact absurd hret nofun
  kept _ := by
    rw [hu]
    exact ⟨rfl, hlive⟩

variable {before behind : List sdr_repo}

theorem refreshes_of_done {old repo : sdr_repo} {h : Heap}
    {i : Input} {r : Response} (hdev : dev.Owned)
    (hu : update_sdr e dev repo_type = ⟨none, ⟨before ++ repo :: behind, h⟩, i⟩) (hi : i.Clean)
    (hfind : find_sdr_repo repo_type dev.sensor_repos = some (before, old, behind))
    (hlive : h.live = (dev.heap.live \ old.body.blocks.toFinset) ∪ repo.body.blocks.toFinset)
    (hnew : ∀ p ∈ repo.body.blocks, dev.heap.next ≤ p ∧ p < h.next)
    (hnodup : repo.body.blocks.Nodup) (hnext : dev.heap.next ≤ h.next) (hright : h.wrong = false)
    (hr : e.response = some r) (hcarries : Carries r repo) (htype : repo.repo_type = repo_type) :
    Refreshes e dev repo_type := by
  obtain ⟨hsplit, -⟩ := find_sdr_repo_split hfind
  have hblocks : dev.blocks = (before.flatMap fun r => r.body.blocks) ++
      (old.body.blocks ++ behind.flatMap fun r => r.body.blocks) := by
    unfold pf_dev_struct.blocks
    rw [hsplit, List.flatMap_append, List.flatMap_cons]
  have hblocks' : pf_dev_struct.blocks ⟨before ++ repo :: behind, h⟩ =
      (before.flatMap fun r => r.body.blocks) ++
        (repo.body.blocks ++ behind.flatMap fun r => r.body.blocks) := by
    unfold pf_dev_struct.blocks
    rw [List.flatMap_append, List.flatMap_cons]
  set bs := before.flatMap fun r => r.body.blocks
  set as := behind.flatMap fun r => r.body.blocks
  have hnd := hdev.nodup
  rw [hblocks, List.nodup_append'] at hnd
  obtain ⟨hndb, hnd, hdisj⟩ := hnd
  obtain ⟨hndo, hnda, hdisj'⟩ := List.nodup_append'.mp hnd
  have hin : ∀ p ∈ bs ++ (old.body.blocks ++ as), p ∈ dev.heap.live := fun p hp =>
    hdev.live p (hblocks ▸ hp)
  -- a new block lies above all that were there
  have hapart : ∀ p ∈ repo.body.blocks, p ∉ dev.heap.live := fun p hp hmem => by
    have := hdev.fresh p hmem
    have := (hnew p hp).1
    omega
  have hinb : ∀ p ∈ bs, p ∈ dev.heap.live := fun p hp => hin p (List.mem_append_left _ hp)
  have hina : ∀ p ∈ as, p ∈ dev.heap.live := fun p hp =>
    hin p (List.mem_append_right _ (List.mem_append_right _ hp))
  refine ⟨by rw [hu]; exact hi, ?_, ?_, fun _ => ?_, fun hret => ?_⟩
  · rw [hu]
    refine ⟨?_, fun p hp => ?_, fun p hp => ?_, hright, ?_⟩
    · rw [hblocks']
      refine List.nodup_append'.mpr ⟨hndb, List.nodup_append'.mpr ⟨hnodup, hnda, ?_⟩, ?_⟩
      · exact fun p hp hpa => hapart p hp (hina p hpa)
      · intro p hpb hp
        rcases List.mem_append.mp hp with hp | hp
        · exact hapart p hp (hinb p hpb)
        · exact hdisj hpb (List.mem_append_right _ hp)
    · rw [hblocks'] at hp
      rw [hlive, Finset.mem_union, Finset.mem_sdiff, List.mem_toFinset, List.mem_toFinset]
      rcases List.mem_append.mp hp with hp | hp
      · exact .inl ⟨hinb p hp, fun ho => hdisj hp (List.mem_append_left _ ho)⟩
      · rcases List.mem_append.mp hp with hp | hp
        · exact .inr hp
        · exact .inl ⟨hina p hp, fun ho => hdisj' ho hp⟩
    · rw [hlive, Finset.mem_union, Finset.mem_sdiff, List.mem_toFinset, List.mem_toFinset] at hp
      rcases hp with ⟨hp, -⟩ | hp
      · exact (hdev.fresh p hp).trans_le hnext
      · exact (hnew p hp).2
    · intro q hq
      have hkinds := hdev.kinds
      rw [hsplit] at hkinds
      rcases List.mem_append.mp hq with hq | hq
      · exact hkinds q (List.mem_append_left _ hq)
      · rcases List.mem_cons.mp hq with rfl | hq
        · obtain ⟨-, -, c, -, -, -, hc, hfam, -⟩ := hcarries
          intro c' hc'
          rw [hfam, Option.some.inj (hc.symm.trans hc')]
        · exact hkinds q (List.mem_append_right _ (List.mem_cons_of_mem _ hq))
  · rw [hu]
    unfold pf_dev_struct.others
    rw [hblocks, hblocks', hlive]
    ext p
    have := hapart p
    simp only [List.toFinset_append, Finset.mem_sdiff, Finset.mem_union, List.mem_toFinset]
    tauto
  · rw [hu]
    exact ⟨before, old, behind, repo, r, hfind, rfl, hr, hcarries, htype⟩
  · rw [hu] at hret
    exact absurd rfl hret

theorem update_sdr_raw {old : sdr_repo} (hdev : dev.Owned)
    (hfind : find_sdr_repo repo_type dev.sensor_repos = some (before, old, behind))
    (hnew : e.new_repo = true) (hraw : e.sdr_raw_buf = true) :
    Refreshes e dev repo_type ↔
      (get_sdr_raw e repo_type dev.heap.alloc.alloc).input.Clean ∧
      (get_sdr_raw e repo_type dev.heap.alloc.alloc).heap.wrong = false ∧
      ((get_sdr_raw e repo_type dev.heap.alloc.alloc).val.1 = none ∨
        (get_sdr_raw e repo_type dev.heap.alloc.alloc).heap.live =
          dev.heap.alloc.alloc.live) := by
  have hfresh : dev.heap.alloc.alloc.Fresh :=
    ((Heap.grows_alloc _).trans (Heap.grows_alloc _)).fresh hdev.fresh
  have hget : get_sdr e repo_type dev.heap.alloc =
      { get_sdr_raw e repo_type dev.heap.alloc.alloc with
        heap := (get_sdr_raw e repo_type dev.heap.alloc.alloc).heap.free (dev.heap.next + 1) } := by
    unfold get_sdr
    rw [hraw]
    rfl
  set p := get_sdr_raw e repo_type dev.heap.alloc.alloc with hp
  -- new blocks on top of those that were there show in what is allocated
  have hnone : ∀ {ps : List ℕ}, (∀ q ∈ ps, q ∉ dev.heap.alloc.alloc.live) →
      dev.heap.live ∪ ps.toFinset = dev.heap.live → ps = [] := by
    intro ps hout hlive
    refine List.eq_nil_iff_forall_not_mem.mpr fun q hq => hout q hq ?_
    have hmem : q ∈ dev.heap.live := by
      rw [← hlive]
      exact Finset.mem_union_right _ (List.mem_toFinset.mpr hq)
    exact Finset.mem_insert_of_mem (Finset.mem_insert_of_mem hmem)
  have hold : old ∈ dev.sensor_repos := by
    rw [(find_sdr_repo_split hfind).1]
    simp
  cases hret : p.val.1 with
  | some errno =>
    have hu : update_sdr e dev repo_type = ⟨some errno, ⟨dev.sensor_repos,
        (p.heap.free (dev.heap.next + 1)).free dev.heap.next⟩, p.input⟩ := by
      unfold update_sdr
      simp only [hfind, hnew, if_true, hget, hret]
    constructor
    · intro href
      have hclean := href.clean
      have hright := href.owned.right
      have hlive := (href.kept (by rw [hu]; exact Option.some_ne_none _)).2
      rw [hu] at hclean hright hlive
      have hright' := Heap.free_wrong (Heap.free_wrong hright)
      obtain ⟨ps, hgrow⟩ := get_sdr_raw_grows hclean hright'
      obtain ⟨hfreed, -⟩ := Heap.free_two hdev.fresh hgrow
      have hps : ps = [] := hnone (fun q hq => hgrow.notMem hfresh hq) (hfreed.symm.trans hlive)
      refine ⟨hclean, hright', .inr ?_⟩
      rw [hgrow.live, hps]
      simp
    · rintro ⟨hclean, hright, hlive⟩
      have hlive := hlive.resolve_left (Option.some_ne_none _)
      obtain ⟨ps, hgrow⟩ := get_sdr_raw_grows hclean hright
      obtain ⟨hfreed, hmem, hmem', hnext⟩ := Heap.free_two hdev.fresh hgrow
      have hps : ps = [] := by
        refine List.eq_nil_iff_forall_not_mem.mpr fun q hq => hgrow.notMem hfresh hq ?_
        rw [← hlive, hgrow.live]
        exact Finset.mem_union_right _ (List.mem_toFinset.mpr hq)
      refine refreshes_of_failed hdev hu hclean ?_ hnext ?_
      · exact hfreed.trans (by rw [hps]; simp)
      · rw [Heap.free_wrong_of_mem hmem', Heap.free_wrong_of_mem hmem]
        exact hright
  | none =>
    have hu : update_sdr e dev repo_type = ⟨none, ⟨before ++ p.val.2 :: behind,
        ((p.heap.free (dev.heap.next + 1)).freeAll old.body.blocks).free dev.heap.next⟩,
        p.input⟩ := by
      unfold update_sdr
      simp only [hfind, hnew, if_true, hget, hret]
      rw [delete_repo_records_eq _ (hdev.kinds old hold)]
    constructor
    · intro href
      have hclean := href.clean
      have hright := href.owned.right
      rw [hu] at hclean hright
      exact ⟨hclean, Heap.free_wrong (Heap.freeAll_wrong (Heap.free_wrong hright)), .inl rfl⟩
    · rintro ⟨hclean, hright, -⟩
      obtain ⟨r, hr, hcarries, hrtype, hgrow⟩ := get_sdr_raw_done hclean hright hret
      obtain ⟨hfreed, hmem, hmem', hnext⟩ := Heap.free_two hdev.fresh hgrow
      have hsub : ∀ q ∈ old.body.blocks, q ∈ dev.blocks := fun q hq =>
        List.mem_flatMap.mpr ⟨old, hold, hq⟩
      have holdlive : ∀ q ∈ old.body.blocks, q ∈ (p.heap.free (dev.heap.next + 1)).live := by
        intro q hq
        have hq' : q ∈ dev.heap.live ∪ p.val.2.body.blocks.toFinset :=
          Finset.mem_union_left _ (hdev.live q (hsub q hq))
        rw [← hfreed] at hq'
        exact Finset.mem_of_mem_erase hq'
      have hnd : old.body.blocks.Nodup := by
        have hnd := hdev.nodup
        unfold pf_dev_struct.blocks at hnd
        rw [(find_sdr_repo_split hfind).1, List.flatMap_append, List.flatMap_cons] at hnd
        exact (List.nodup_append'.mp (List.nodup_append'.mp hnd).2.1).1
      have hout : dev.heap.next ∉ old.body.blocks := fun hq =>
        absurd (hdev.fresh _ (hdev.live _ (hsub _ hq))) (Nat.lt_irrefl _)
      rw [Heap.freeAll_spec hnd holdlive] at hu
      have hstill : dev.heap.next ∈
          (p.heap.free (dev.heap.next + 1)).live \ old.body.blocks.toFinset :=
        Finset.mem_sdiff.mpr ⟨hmem', fun hq => hout (List.mem_toFinset.mp hq)⟩
      refine refreshes_of_done hdev hu hclean hfind ?_ ?_ hgrow.nodup ?_ ?_ hr hcarries hrtype
      · have hdisj : ∀ q ∈ p.val.2.body.blocks, q ∉ old.body.blocks := fun q hq hq' =>
          hgrow.notMem hfresh hq (Finset.mem_insert_of_mem (Finset.mem_insert_of_mem
            (hdev.live q (hsub q hq'))))
        have hset : ((p.heap.free (dev.heap.next + 1)).live \ old.body.blocks.toFinset).erase
            dev.heap.next = (dev.heap.live ∪ p.val.2.body.blocks.toFinset) \
              old.body.blocks.toFinset := by
          rw [← hfreed, Finset.erase_sdiff_comm]
        refine hset.trans ?_
        rw [Finset.union_sdiff_distrib]
        congr 1
        refine Finset.sdiff_eq_self_of_disjoint (Finset.disjoint_left.mpr fun q hq hq' => ?_)
        exact hdisj q (List.mem_toFinset.mp hq) (List.mem_toFinset.mp hq')
      · intro q hq
        have habove : dev.heap.next + 2 ≤ q ∧ q < p.heap.next := hgrow.above q hq
        exact ⟨by omega, habove.2⟩
      · exact hnext
      · rw [Heap.free_wrong_of_mem hstill]
        exact (Heap.free_wrong_of_mem hmem).trans hright

/-- The conditions under which a refresh keeps its promise. -/
def Refreshable (e : Env) (dev : pf_dev_struct) (repo_type : ℕ) : Prop :=
  find_sdr_repo repo_type dev.sensor_repos = none ∨ e.new_repo = false ∨ e.sdr_raw_buf = false ∨
    ∀ r, e.response = some r → Answerable e.parse repo_type r

/-- **A refresh replaces the records or keeps them**, with every block owned once and none lost,
exactly when the response is refused before anything is allocated or is read to its end. -/
theorem update_sdr_refreshes_iff (hdev : dev.Owned) :
    Refreshes e dev repo_type ↔ Refreshable e dev repo_type := by
  unfold Refreshable
  cases hfind : find_sdr_repo repo_type dev.sensor_repos with
  | none =>
    have hu : update_sdr e dev repo_type =
        ⟨some .ENODATA, ⟨dev.sensor_repos, dev.heap⟩, .start []⟩ := by
      unfold update_sdr
      rw [hfind]
    exact iff_of_true (refreshes_of_failed hdev hu ⟨rfl, rfl⟩ rfl le_rfl hdev.right) (.inl rfl)
  | some z =>
    obtain ⟨before, old, behind⟩ := z
    rw [or_iff_right (Option.some_ne_none _)]
    cases hnew : e.new_repo with
    | false =>
      have hu : update_sdr e dev repo_type =
          ⟨some .ENOMEM, ⟨dev.sensor_repos, dev.heap⟩, .start []⟩ := by
        unfold update_sdr
        simp only [hfind, hnew]
        rfl
      exact iff_of_true (refreshes_of_failed hdev hu ⟨rfl, rfl⟩ rfl le_rfl hdev.right) (.inl rfl)
    | true =>
      rw [or_iff_right (by simp)]
      cases hraw : e.sdr_raw_buf with
      | false =>
        have hu : update_sdr e dev repo_type = ⟨some .ENOMEM,
            ⟨dev.sensor_repos, dev.heap.alloc.free dev.heap.next⟩, .start []⟩ := by
          unfold update_sdr get_sdr
          simp only [hfind, hnew, hraw]
          rfl
        refine iff_of_true (refreshes_of_failed hdev hu ⟨rfl, rfl⟩ ?_ (Nat.le_succ _) ?_) (.inl rfl)
        · have hout : dev.heap.next ∉ dev.heap.live := fun hmem =>
            absurd (hdev.fresh _ hmem) (Nat.lt_irrefl _)
          exact Finset.erase_insert hout
        · rw [Heap.free_wrong_of_mem (by simp [Heap.alloc])]
          exact hdev.right
      | true =>
        rw [or_iff_right (by simp)]
        have hfresh : dev.heap.alloc.alloc.Fresh :=
          ((Heap.grows_alloc _).trans (Heap.grows_alloc _)).fresh hdev.fresh
        rw [← get_sdr_raw_safe_iff e repo_type hfresh hdev.right]
        exact update_sdr_raw hdev hfind hnew hraw

end Update

/-! ### Responses with a record -/

/-- A response: what it announces, and zeros behind it. -/
def responseOf (l : List UInt8) (h : l.length ≤ SDR_RESP_LEN) : Response where
  bytes := l ++ List.replicate (SDR_RESP_LEN - l.length) 0
  length_bytes := by
    rw [List.length_append, List.length_replicate, Nat.add_sub_cancel' h]

/-- A device with a repository of temperatures that owns one block. -/
def oneRepo : pf_dev_struct := ⟨[⟨0xC1, 1, 1, 2, 0, .records 0 []⟩], ⟨{0}, 1, false⟩⟩

theorem oneRepo_owned : oneRepo.Owned where
  nodup := by decide
  live := by decide
  fresh := by
    intro p hp
    obtain rfl := Finset.mem_singleton.mp hp
    exact Nat.zero_lt_one
  right := rfl
  kinds r hr := by
    obtain rfl := List.mem_singleton.mp hr
    intro c hc
    obtain rfl : Contents.records [] = c := Option.some.inj hc
    rfl

/-- A record without a name, with a value of one byte. -/
def byteRecord (v : ℕ) : sdr_record :=
  ⟨1, 0, 0, [], 0, 1, [v], 0, 0, [], 0, 0, [], [], [], [], [], [], 1, [], []⟩

/-- All allocations succeed, and the response comes. -/
def envOf (r : Response) : Env := ⟨true, true, ⟨true, true, true⟩, some r⟩

/-- A record of 35 degrees, and the mark. -/
def marked : Response :=
  responseOf [1, 0xC1, 1, 1, 2, 0, 1, 0, 1, 35, 0, 0, 0, 1, 0x45, 0x4E, 0x44] (by decide)

def unmarked : Response :=
  responseOf [1, 0xC1, 1, 1, 2, 0, 1, 0, 1, 35, 0, 0, 0, 1] (by decide)

theorem oneRepo_refreshes : Refreshes (envOf marked) oneRepo 0xC1 := by
  refine (update_sdr_refreshes_iff oneRepo_owned).mpr (.inr (.inr (.inr fun r hr => ?_)))
  obtain rfl : marked = r := Option.some.inj hr
  refine .inr (.inr (.inr (.inr (.inr (.inr (.inr ⟨.records [byteRecord 35],
    (List.replicate (SDR_RESP_LEN - 17) 0).map UInt8.toNat, rfl, rfl, ⟨rfl, ?_⟩, rfl⟩))))))
  intro v hv
  obtain rfl := List.mem_singleton.mp hv
  exact ⟨by decide, rfl, by decide, rfl, by decide, rfl, rfl, rfl, rfl, rfl, rfl, rfl, rfl, rfl⟩

/-- Without the mark the new records stay allocated, and nobody has them. -/
theorem not_update_sdr_refreshes :
    ¬ ∀ (e : Env) (dev : pf_dev_struct) (repo_type : ℕ), dev.Owned →
      Refreshes e dev repo_type := by
  intro h
  have hlive := ((h (envOf unmarked) oneRepo 0xC1 oneRepo_owned).kept (by decide +kernel)).2
  exact absurd hlive (by decide +kernel)

/-! ### What `parse_sdr` accepts -/

/-- **`parse_sdr` is the inverse of the format**: it reads a repository without a fault and returns
success with these contents exactly when the response announces records of their kind and is their
bytes and the mark, whatever stands behind, and the memory can be had. -/
theorem parse_sdr_exact (o : Allocs) (live : Finset ℕ) (next : ℕ) (type ver num lo hi : UInt8)
    (rest : List UInt8) (c : Contents) :
    (let p := parse_sdr o ⟨live, next, false⟩
      ((type :: ver :: num :: lo :: hi :: rest).map UInt8.toNat)
     p.input.Clean ∧ p.heap.wrong = false ∧ p.val.1 = none ∧ p.val.2.body.contents = some c) ↔
      lo.toNat ||| (hi.toNat <<< 8) ≠ 0 ∧ 0 < num.toNat ∧ family type.toNat = some c.family ∧
        (∃ tail, rest.map UInt8.toNat = c.image ++ (EOR ++ tail)) ∧ c.Valid num.toNat ∧
        c.Allocated o := by
  have hparse : parse_sdr o ⟨live, next, false⟩
      ((type :: ver :: num :: lo :: hi :: rest).map UInt8.toNat) =
      parse_records o ⟨live, next, false⟩ ⟨type.toNat, ver.toNat, num.toNat,
        lo.toNat ||| (hi.toNat <<< 8), 0, .empty⟩ (.start (rest.map UInt8.toNat)) := rfl
  dsimp only
  rw [hparse]
  constructor
  · rintro ⟨hclean, hright, hret, hcontents⟩
    have hbytes : ∀ b ∈ rest.map UInt8.toNat, b < 256 := by
      intro b hb
      obtain ⟨v, -, rfl⟩ := List.mem_map.mp hb
      exact v.toNat_lt
    obtain ⟨hsize, hnum, b, c', tail, hval, hc, hfam, hrest, hvalid, halloc, -⟩ :=
      parse_records_done hbytes hclean hright hret
    rw [hval] at hcontents
    obtain rfl : c' = c := Option.some.inj (hc.symm.trans hcontents)
    exact ⟨hsize, hnum, hfam, ⟨tail, hrest⟩, hvalid, halloc⟩
  · rintro ⟨hsize, hnum, hfam, ⟨tail, hrest⟩, hvalid, halloc⟩
    obtain ⟨b, heap, hbody, hc, hgrow, -⟩ :=
      parse_body_reads ⟨live, next, false⟩ hvalid halloc (EOR ++ tail)
    unfold parse_records
    rw [if_neg hsize, if_pos hnum, hfam, hrest]
    simp only [hbody, verify_marked]
    exact ⟨⟨rfl, rfl⟩, hgrow.wrong, trivial, hc⟩

end Amr.Host.Sdr
