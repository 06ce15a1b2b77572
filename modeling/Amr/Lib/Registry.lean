/-
# Lists of entries with unique keys

A registry is a list in which an entry is looked up by its key, possibly starting from a position
that was remembered from an earlier look-up, and is appended when it is missing. What the list
holds in the end is, for each key, the fold of the operations on that key in their order
(`Registry.Holds`). So if operations on the same key commute, their order changes nothing but the
order of the entries (`Registry.Holds.perm`).
-/
import Mathlib.Data.List.Perm.Basic
import Mathlib.Data.List.Nodup
import Mathlib.Data.List.Induction

/-- The entries of a registry, and the operations on them. -/
structure Registry (α κ β : Type*) where
  key : α → κ
  /-- A new entry for a key. -/
  new : κ → α
  /-- The key of the entry that an operation is about. -/
  target : β → κ
  apply : β → α → α
  key_new : ∀ k, key (new k) = k
  key_apply : ∀ b a, key (apply b a) = key a

namespace Registry

/-- A fold that comes past an operation after which a property holds, and that no operation
breaks. -/
theorem foldl_of_mem {α β : Type*} {P : α → Prop} {f : α → β → α} {l : List β} {x : β} (hx : x ∈ l)
    (hset : ∀ a, P (f a x)) (hkeep : ∀ y ∈ l, ∀ a, P a → P (f a y)) (a : α) :
    P (l.foldl f a) := by
  obtain ⟨l₁, l₂, rfl⟩ := List.append_of_mem hx
  rw [List.foldl_append, List.foldl_cons]
  refine List.foldlRecOn l₂ f (hset _) fun b hb y hy => ?_
  exact hkeep y (List.mem_append_right _ (List.mem_cons_of_mem _ hy)) b hb

variable {α κ β : Type*} [DecidableEq κ] (R : Registry α κ β)

/-- The position of the entry for `k`: the remembered one if the entry there is for `k`, otherwise
the first one that a search finds. -/
def locate (l : List α) (cached : Option ℕ) (k : κ) : Option ℕ :=
  if cached.any fun i => l[i]?.any fun a => decide (R.key a = k) then cached
  else l.findIdx? fun a => decide (R.key a = k)

/-- Apply an operation to the entry at position `i?`, or to a new one at the end. -/
def put (l : List α) (i? : Option ℕ) (b : β) : List α :=
  match i? with
  | some i => l.modify i (R.apply b)
  | none => l ++ [R.apply b (R.new (R.target b))]

/-- What the operations make of the entry for `k`. -/
def value (items : List β) (k : κ) : α :=
  (items.filter fun b => decide (R.target b = k)).foldl (fun a b => R.apply b a) (R.new k)

/-- `i?` is a position of an entry for `k`, if there is one. -/
def Located (l : List α) (k : κ) : Option ℕ → Prop
  | some i => ∃ a, l[i]? = some a ∧ R.key a = k
  | none => ∀ a ∈ l, R.key a ≠ k

theorem locate_located (l : List α) (cached : Option ℕ) (k : κ) :
    R.Located l k (R.locate l cached k) := by
  unfold locate
  split_ifs with hhit
  · obtain ⟨i, rfl, hi⟩ := (Option.any_eq_true _ _).mp hhit
    obtain ⟨a, ha, hkey⟩ := (Option.any_eq_true _ _).mp hi
    exact ⟨a, ha, of_decide_eq_true hkey⟩
  · rcases hfind : l.findIdx? fun a => decide (R.key a = k) with _ | i
    · intro a ha hkey
      exact absurd hkey (of_decide_eq_false (List.findIdx?_eq_none_iff.mp hfind a ha))
    · obtain ⟨hi, hkey, -⟩ := List.findIdx?_eq_some_iff_getElem.mp hfind
      exact ⟨l[i], List.getElem?_eq_getElem hi, of_decide_eq_true hkey⟩

theorem length_put (l : List α) (i? : Option ℕ) (b : β) :
    (R.put l i? b).length = l.length + if i?.isSome then 0 else 1 := by
  rcases i? with _ | i <;> simp [put]

/-- The change of one entry, in terms of keys. -/
theorem modify_eq_map {l : List α} (hl : (l.map R.key).Nodup) {i : ℕ} {a : α} (ha : l[i]? = some a)
    (f : α → α) : l.modify i f = l.map fun b => if R.key b = R.key a then f b else b := by
  induction l generalizing i with
  | nil => simp at ha
  | cons b l ih =>
    rw [List.map_cons, List.nodup_cons] at hl
    cases i with
    | zero =>
      obtain rfl : b = a := by simpa using ha
      have hrest : l.map (fun c => if R.key c = R.key b then f c else c) = l := by
        refine Eq.trans (List.map_congr_left fun c hc => if_neg fun hkey => ?_) (List.map_id l)
        exact hl.1 (List.mem_map.mpr ⟨c, hc, hkey⟩)
      rw [List.modify_zero_cons, List.map_cons, if_pos rfl, hrest]
    | succ i =>
      have ha : l[i]? = some a := by simpa using ha
      have hne : R.key b ≠ R.key a := fun hkey =>
        hl.1 (List.mem_map.mpr ⟨a, List.mem_of_getElem? ha, hkey.symm⟩)
      rw [List.modify_succ_cons, List.map_cons, if_neg hne, ih hl.2 ha]

/-! ### The value of an entry -/

theorem value_concat (items : List β) (b : β) (k : κ) :
    R.value (items ++ [b]) k =
      if R.target b = k then R.apply b (R.value items k) else R.value items k := by
  unfold value
  rw [List.filter_append, List.foldl_append]
  by_cases hb : R.target b = k <;> simp [hb]

theorem key_value (items : List β) (k : κ) : R.key (R.value items k) = k := by
  induction items using List.reverseRecOn with
  | nil => exact R.key_new k
  | append_singleton items b ih =>
    rw [value_concat]
    split_ifs
    · rw [R.key_apply, ih]
    · exact ih

/-- A property of the entry that one of the operations on it establishes, and none breaks. -/
theorem value_of_mem {P : α → Prop} {items : List β} {b : β} (hb : b ∈ items)
    (hset : ∀ a, P (R.apply b a))
    (hkeep : ∀ c ∈ items, R.target c = R.target b → ∀ a, P a → P (R.apply c a)) :
    P (R.value items (R.target b)) := by
  refine foldl_of_mem (f := fun a b => R.apply b a)
    (List.mem_filter.mpr ⟨hb, decide_eq_true rfl⟩) hset (fun c hc => ?_) _
  obtain ⟨hc, htarget⟩ := List.mem_filter.mp hc
  exact hkeep c hc (of_decide_eq_true htarget)

/-- A property of the new entry that no operation on it breaks. -/
theorem value_of_new {P : α → Prop} {items : List β} {k : κ} (hnew : P (R.new k))
    (hkeep : ∀ c ∈ items, R.target c = k → ∀ a, P a → P (R.apply c a)) : P (R.value items k) := by
  induction items using List.reverseRecOn with
  | nil => exact hnew
  | append_singleton items b ih =>
    have hprev := ih fun c hc => hkeep c (List.mem_append_left _ hc)
    rw [value_concat]
    split_ifs with hb
    · exact hkeep b (List.mem_append_right _ List.mem_cons_self) hb _ hprev
    · exact hprev

/-- The order of commuting operations does not matter. -/
theorem value_perm {items items' : List β} (hperm : items.Perm items') {k : κ}
    (hcomm : ∀ b ∈ items, ∀ c ∈ items, R.target b = k → R.target c = k → ∀ a,
      R.apply b (R.apply c a) = R.apply c (R.apply b a)) : R.value items k = R.value items' k := by
  refine List.Perm.foldl_eq' (hperm.filter _) (fun b hb c hc a => ?_) _
  obtain ⟨hb, htarget⟩ := List.mem_filter.mp hb
  obtain ⟨hc, htarget'⟩ := List.mem_filter.mp hc
  exact hcomm c hc b hb (of_decide_eq_true htarget') (of_decide_eq_true htarget) a

/-! ### What a registry holds -/

/-- The registry after the operations: one entry for each key that they are about. -/
structure Holds (items : List β) (l : List α) : Prop where
  nodup : (l.map R.key).Nodup
  mem : ∀ a, a ∈ l ↔ (∃ b ∈ items, R.target b = R.key a) ∧ a = R.value items (R.key a)

namespace Holds

variable {R} {items : List β} {l : List α}

theorem nil : R.Holds [] [] where
  nodup := List.nodup_nil
  mem a := by simp

/-- The entry for a key that an operation is about. -/
theorem value_mem (h : R.Holds items l) {b : β} (hb : b ∈ items) :
    R.value items (R.target b) ∈ l := by
  rw [h.mem, R.key_value]
  exact ⟨⟨b, hb, rfl⟩, rfl⟩

/-- Entries with the same key are the same. -/
theorem eq_of_key (h : R.Holds items l) {a b : α} (ha : a ∈ l) (hb : b ∈ l)
    (hkey : R.key a = R.key b) : a = b :=
  List.inj_on_of_nodup_map h.nodup ha hb hkey

/-- A search finds the entry. -/
theorem find (h : R.Holds items l) {a : α} (ha : a ∈ l) :
    l.find? (fun b => decide (R.key b = R.key a)) = some a := by
  rcases hfind : l.find? (fun b => decide (R.key b = R.key a)) with _ | b
  · exact absurd (decide_eq_true rfl) (List.find?_eq_none.mp hfind a ha)
  · have hkey : R.key b = R.key a := of_decide_eq_true (List.find?_some hfind :)
    rw [h.eq_of_key (List.mem_of_find?_eq_some hfind) ha hkey]

/-- One more operation. -/
theorem put (h : R.Holds items l) {b : β} {i? : Option ℕ} (hi : R.Located l (R.target b) i?) :
    R.Holds (items ++ [b]) (R.put l i? b) := by
  rcases i? with _ | i
  · -- there is no entry yet
    have hnone : ∀ c ∈ items, R.target c ≠ R.target b := fun c hc hkey =>
      hi _ (h.value_mem hc) (by rw [R.key_value, hkey])
    have hvalue : R.value items (R.target b) = R.new (R.target b) :=
      R.value_of_new (P := (· = R.new (R.target b))) rfl fun c hc hkey => absurd hkey (hnone c hc)
    have hkey : R.key (R.apply b (R.new (R.target b))) = R.target b := by
      rw [R.key_apply, R.key_new]
    refine ⟨?_, fun a => ?_⟩
    · simp only [Registry.put, List.map_append, List.map_singleton, hkey]
      rw [List.nodup_append]
      refine ⟨h.nodup, List.nodup_singleton _, fun k hk k' hk' heq => ?_⟩
      obtain ⟨a, ha, rfl⟩ := List.mem_map.mp hk
      exact hi a ha (heq.trans (List.mem_singleton.mp hk'))
    · simp only [Registry.put, List.mem_append, List.mem_singleton]
      constructor
      · rintro (ha | rfl)
        · obtain ⟨⟨c, hc, htarget⟩, hval⟩ := (h.mem a).mp ha
          refine ⟨⟨c, .inl hc, htarget⟩, ?_⟩
          rw [value_concat, if_neg fun hb => hi a ha hb.symm]
          exact hval
        · refine ⟨⟨b, .inr rfl, hkey.symm⟩, ?_⟩
          rw [hkey, value_concat, if_pos rfl, hvalue]
      · rintro ⟨⟨c, hc, htarget⟩, hval⟩
        rw [value_concat] at hval
        split_ifs at hval with hb
        · refine .inr ?_
          rw [hval, ← hb, hvalue]
        · rcases hc with hc | rfl
          · exact .inl ((h.mem a).mpr ⟨⟨c, hc, htarget⟩, hval⟩)
          · exact absurd htarget hb
  · -- the entry at position `i`
    obtain ⟨e, he, hkey⟩ := hi
    have hmap : R.put l (some i) b =
        l.map fun a => if R.key a = R.target b then R.apply b a else a := by
      rw [← hkey]
      exact R.modify_eq_map h.nodup he _
    have hsame : ∀ a, R.key (if R.key a = R.target b then R.apply b a else a) = R.key a := by
      intro a
      split_ifs
      · exact R.key_apply b a
      · rfl
    have hmem : e ∈ l := List.mem_of_getElem? he
    have hval : e = R.value items (R.target b) := by
      rw [← hkey]
      exact ((h.mem e).mp hmem).2
    rw [hmap]
    refine ⟨?_, fun a => ?_⟩
    · rw [List.map_map]
      have hkeys : R.key ∘ (fun a => if R.key a = R.target b then R.apply b a else a) = R.key :=
        funext hsame
      rw [hkeys]
      exact h.nodup
    · rw [List.mem_map]
      constructor
      · rintro ⟨c, hc, rfl⟩
        obtain ⟨⟨d, hd, htarget⟩, hc⟩ := (h.mem c).mp hc
        rw [hsame]
        refine ⟨⟨d, List.mem_append_left _ hd, htarget⟩, ?_⟩
        rw [value_concat]
        split_ifs with h₁ h₂ h₂
        · rw [← hc]
        · exact absurd h₁.symm h₂
        · exact absurd h₂.symm h₁
        · exact hc
      · rintro ⟨⟨c, hc, htarget⟩, ha⟩
        rw [value_concat] at ha
        split_ifs at ha with hb
        · refine ⟨e, hmem, ?_⟩
          rw [if_pos hkey, ha, ← hb, ← hval]
        · refine ⟨a, (h.mem a).mpr ⟨?_, ha⟩, if_neg fun hb' => hb hb'.symm⟩
          rcases List.mem_append.mp hc with hc | hc
          · exact ⟨c, hc, htarget⟩
          · obtain rfl := List.mem_singleton.mp hc
            exact absurd htarget hb

/-- **Commuting operations can come in any order.** The registry holds the same entries. -/
theorem perm {items' : List β} {l' : List α} (h : R.Holds items l) (h' : R.Holds items' l')
    (hperm : items.Perm items')
    (hcomm : ∀ b ∈ items, ∀ c ∈ items, R.target b = R.target c → ∀ a,
      R.apply b (R.apply c a) = R.apply c (R.apply b a)) : l.Perm l' := by
  refine (List.perm_ext_iff_of_nodup h.nodup.of_map h'.nodup.of_map).mpr fun a => ?_
  have hvalue : R.value items (R.key a) = R.value items' (R.key a) :=
    R.value_perm hperm fun b hb c hc h₁ h₂ => hcomm b hb c hc (h₁.trans h₂.symm)
  rw [h.mem, h'.mem, hvalue]
  exact and_congr_left fun _ => ⟨fun ⟨b, hb, hk⟩ => ⟨b, hperm.mem_iff.mp hb, hk⟩,
    fun ⟨b, hb, hk⟩ => ⟨b, hperm.mem_iff.mpr hb, hk⟩⟩

end Holds

end Registry
