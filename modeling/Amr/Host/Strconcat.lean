/-
# Building strings in the kernel

`strconcat` of `ami_top.c` appends a string to a buffer and keeps the size of the buffer, with its
terminator, in an `int`. `my_krealloc` makes the room: it copies the buffer to a temporary block,
frees it, allocates the new one and copies back. Where the temporary is there and the new block is
not, the old contents are lost and the temporary is leaked; where the new size does not fit an
`int`, the new block may be too small. A run of calls builds the concatenation of what was appended
exactly if neither happens in it.
-/
import Amr.Lib.Heap
import Amr.Lib.Transition

namespace Amr.Host.Strconcat

def SUCCESS : ℤ := 0
def EINVAL : ℤ := 22
def ENOMEM : ℤ := 12

/-- A value as an `int`. -/
def toInt (n : ℤ) : ℤ := Int.bmod n (2 ^ 32)

/-- What is in memory, the pointer `*dst` and the number `*size`. -/
structure Buffer where
  heap : Heap (BitVec 8)
  dst : Option ℕ
  size : ℤ

/-- `my_krealloc`; `alloc` says whether its first and its second allocation succeed. With the
result, the pointer `*buf` and the memory. -/
def my_krealloc (h : Heap (BitVec 8)) (buf : Option ℕ) (old_size new_size : ℤ)
    (alloc : Bool × Bool) : ℤ × Option ℕ × Heap (BitVec 8) :=
  if new_size ≤ 0 ∨ old_size < 0 then (-EINVAL, buf, h)
  else
    match buf with
    | none =>
      match h.malloc new_size.toNat alloc.1 with
      | (none, h) => (-ENOMEM, none, h)
      | (some p, h) => (SUCCESS, some p, h)
    | some old =>
      let tmp_size := if old_size < new_size then old_size else new_size
      match h.malloc tmp_size.toNat alloc.1 with
      | (none, h) => (-ENOMEM, some old, h)
      | (some tmp, h) =>
        let h := (h.copy tmp old tmp_size.toNat).free old
        match h.malloc new_size.toNat alloc.2 with
        | (none, h) => (-ENOMEM, none, h)
        | (some p, h) => (SUCCESS, some p, (h.copy p tmp tmp_size.toNat).free tmp)

/-- The bytes of a C string, without its terminator. -/
structure CString where
  bytes : List (BitVec 8)
  no_nul : 0 ∉ bytes

def CString.strlen (src : CString) : ℕ := src.bytes.length

/-- The cells that `text` takes with its terminator. -/
def cells (text : List (BitVec 8)) : List (Option (BitVec 8)) := (text ++ [0]).map some

def strconcat (b : Buffer) (src : CString) (alloc : Bool × Bool) : ℤ × Buffer :=
  if b.size < 0 then (-EINVAL, b)
  else
    match my_krealloc b.heap b.dst b.size (toInt (b.size + src.strlen)) alloc with
    | (ret, dst, h) =>
      if ret ≠ 0 then (ret, { b with heap := h, dst := dst })
      else
        match dst with
        | none => (-ENOMEM, { b with heap := h, dst := dst })
        | some p =>
          (SUCCESS, {
            heap := h.store p (b.size - 1) (cells src.bytes)
            dst := dst
            size := toInt (b.size + src.strlen) })

/-! ### Runs of calls -/

/-- A call: the string, and whether its allocations succeed. -/
structure Call where
  src : CString
  alloc : Bool × Bool

/-- The buffer, and beside it what the successful calls have appended so far. -/
structure State where
  buffer : Buffer
  text : List (BitVec 8)

def step (s : State) (c : Call) : Option State :=
  match strconcat s.buffer c.src c.alloc with
  | (ret, buffer) =>
    some { buffer := buffer, text := if ret = 0 then s.text ++ c.src.bytes else s.text }

/-- An empty string in a buffer of one byte. -/
def start : State where
  buffer := {
    heap := {
      block := Function.update (fun _ => none) 0 (some (cells []))
      fresh := 1
      wrong := false }
    dst := some 0
    size := 1 }
  text := []

/-- The buffer holds the terminated `text`, and its size is the length plus one. -/
def Buffer.Holds (b : Buffer) (text : List (BitVec 8)) : Prop :=
  b.size = text.length + 1 ∧ ∃ p, b.dst = some p ∧ b.heap.block p = some (cells text)

/-- The pointer, the contents of the buffer and its size are those of before. -/
def Buffer.Same (b b' : Buffer) : Prop :=
  b'.dst = b.dst ∧ b'.size = b.size ∧ ∀ p, b.dst = some p → b'.heap.block p = b.heap.block p

/-- **What a call should do**: append, or leave everything as it was, and neither leak memory nor
use or free what is not allocated. -/
structure CallRight (s : State) (c : Call) (s' : State) : Prop where
  appends : (strconcat s.buffer c.src c.alloc).1 = 0 → s'.buffer.Holds (s.text ++ c.src.bytes)
  keeps : (strconcat s.buffer c.src c.alloc).1 ≠ 0 → s.buffer.Same s'.buffer
  no_leak : ∀ p, (s'.buffer.heap.block p).isSome → s'.buffer.dst = some p
  no_fault : s'.buffer.heap.wrong = false

/-- A call that gets as far as the temporary block gets the new block too, of a size that is not cut
off. -/
def Allocates (s : State) (c : Call) : Prop :=
  0 < toInt (s.buffer.size + c.src.strlen) → c.alloc.1 = true →
    c.alloc.2 = true ∧ s.buffer.size + c.src.strlen < 2 ^ 31

/-! ### One call -/

/-- The buffer is all there is, and holds `text`. -/
structure Kept (s : State) : Prop where
  size_eq : s.buffer.size = s.text.length + 1
  sole : ∃ p, s.buffer.dst = some p ∧ s.buffer.heap.Sole p (cells s.text)

variable {s s' : State} {c : Call} {text more : List (BitVec 8)}

@[simp] theorem length_cells : (cells text).length = text.length + 1 := by simp [cells]

theorem start_kept : Kept start :=
  ⟨rfl, 0, rfl, rfl, Nat.one_pos, rfl⟩

theorem splice_cells :
    Heap.splice (cells text ++ List.replicate more.length none) (cells more) text.length =
      cells (text ++ more) := by
  have hdrop : (cells text ++ List.replicate more.length none).drop
      (text.length + (cells more).length) = [] :=
    List.drop_eq_nil_of_le (by simp; omega)
  rw [Heap.splice, hdrop]
  simp [cells]

theorem toInt_of_lt {n : ℤ} (h0 : 0 ≤ n) (h : n < 2 ^ 31) : toInt n = n := by
  rw [toInt, Int.bmod_def]
  omega

theorem toInt_lt_of_le {n : ℤ} (h : 2 ^ 31 ≤ n) : toInt n < n := by
  rw [toInt, Int.bmod_def]
  split <;> omega

theorem my_krealloc_no_tmp {h : Heap (BitVec 8)} {old : ℕ} {old_size new_size : ℤ} {ok : Bool}
    (hnew : 0 < new_size) (hold : 0 ≤ old_size) :
    my_krealloc h (some old) old_size new_size (false, ok) = (-ENOMEM, some old, h) := by
  rw [my_krealloc, if_neg (by omega)]
  rfl

theorem my_krealloc_no_new {h : Heap (BitVec 8)} {old : ℕ} {old_size new_size : ℤ}
    (hnew : 0 < new_size) (hold : 0 ≤ old_size) :
    ∃ h', my_krealloc h (some old) old_size new_size (true, false) = (-ENOMEM, none, h') := by
  rw [my_krealloc, if_neg (by omega)]
  exact ⟨_, rfl⟩

theorem my_krealloc_both {h : Heap (BitVec 8)} {old : ℕ} {cs : List (Option (BitVec 8))}
    {new_size : ℤ} (hs : h.Sole old cs) (hnew : 0 < new_size) :
    ∃ p h', my_krealloc h (some old) cs.length new_size (true, true) = (SUCCESS, some p, h') ∧
      h'.Sole p (cs.take (min cs.length new_size.toNat) ++
        List.replicate (new_size.toNat - min cs.length new_size.toNat) none) := by
  have htmp : (if (cs.length : ℤ) < new_size then (cs.length : ℤ) else new_size).toNat =
      min cs.length new_size.toNat := by
    split_ifs <;> omega
  rw [my_krealloc, if_neg (by omega)]
  dsimp only
  rw [htmp]
  generalize hk : min cs.length new_size.toNat = k
  have hmoved := hs.move (n := k) (k := k) (by omega) le_rfl
  rw [Nat.sub_self, List.replicate_zero, List.append_nil] at hmoved
  have hlen : (cs.take k).length = k := List.length_take_of_le (by omega)
  have hagain := hmoved.move (n := k) (k := new_size.toNat) hlen.ge (by omega)
  rw [List.take_take, Nat.min_self] at hagain
  exact ⟨_, _, rfl, hagain⟩

theorem strconcat_of_fails {b : Buffer} {src : CString} {alloc : Bool × Bool} {ret : ℤ}
    {dst : Option ℕ} {h : Heap (BitVec 8)} (h0 : 0 ≤ b.size)
    (hcall : my_krealloc b.heap b.dst b.size (toInt (b.size + src.strlen)) alloc = (ret, dst, h))
    (hret : ret ≠ 0) : strconcat b src alloc = (ret, { b with heap := h, dst := dst }) := by
  rw [strconcat, if_neg (by omega), hcall]
  exact if_pos hret

theorem strconcat_of_success {b : Buffer} {src : CString} {alloc : Bool × Bool} {p : ℕ}
    {h : Heap (BitVec 8)} (h0 : 0 ≤ b.size)
    (hcall : my_krealloc b.heap b.dst b.size (toInt (b.size + src.strlen)) alloc =
      (SUCCESS, some p, h)) :
    strconcat b src alloc = (SUCCESS, {
      heap := h.store p (b.size - 1) (cells src.bytes)
      dst := some p
      size := toInt (b.size + src.strlen) }) := by
  rw [strconcat, if_neg (by omega), hcall]
  rfl

theorem kept_of_fits {src : CString} {p : ℕ} {h : Heap (BitVec 8)} {size : ℤ}
    (hsize : size = text.length + 1) (hfits : size + src.strlen < 2 ^ 31)
    (hsole : h.Sole p (cells text ++ List.replicate src.strlen none)) :
    Kept {
      buffer := {
        heap := h.store p (size - 1) (cells src.bytes)
        dst := some p
        size := toInt (size + src.strlen) }
      text := text ++ src.bytes } := by
  have hlen : src.strlen = src.bytes.length := rfl
  refine ⟨?_, p, rfl, ?_⟩
  · change toInt (size + src.strlen) = _
    rw [toInt_of_lt (by omega) hfits, hsize, hlen]
    push_cast [List.length_append]
    ring
  · have hroom : size - 1 + (cells src.bytes).length ≤
        (cells text ++ List.replicate src.strlen none).length := by
      simp only [List.length_append, length_cells, List.length_replicate]
      omega
    have hstore := hsole.store (by omega) hroom
    rw [show (size - 1).toNat = text.length by omega, hlen, splice_cells] at hstore
    exact hstore

/-- **What a call does in a state that is in order.** -/
theorem strconcat_cases (hs : Kept s) :
    (∃ ret, ret ≠ 0 ∧ strconcat s.buffer c.src c.alloc = (ret, s.buffer) ∧ Allocates s c) ∨
    (∃ ret b, ret ≠ 0 ∧ strconcat s.buffer c.src c.alloc = (ret, b) ∧ b.dst = none ∧
      ¬ Allocates s c) ∨
    (∃ b, strconcat s.buffer c.src c.alloc = (SUCCESS, b) ∧ b.heap.wrong = true ∧
      ¬ Allocates s c) ∨
    ∃ b, strconcat s.buffer c.src c.alloc = (SUCCESS, b) ∧
      Kept { buffer := b, text := s.text ++ c.src.bytes } ∧ Allocates s c := by
  obtain ⟨hsize, old, hdst, hsole⟩ := hs
  obtain ⟨⟨heap, dst, size⟩, text⟩ := s
  obtain ⟨src, ok₁, ok₂⟩ := c
  dsimp only at hsize hdst hsole ⊢
  subst hdst
  have h0 : 0 ≤ size := by omega
  by_cases hnew : 0 < toInt (size + src.strlen)
  · cases ok₁ with
    | false =>
      have hcall : my_krealloc heap (some old) size (toInt (size + src.strlen)) (false, ok₂) =
          (-ENOMEM, some old, heap) := my_krealloc_no_tmp hnew h0
      exact .inl ⟨-ENOMEM, by decide, strconcat_of_fails h0 hcall (by decide), fun _ h => nomatch h⟩
    | true =>
      cases ok₂ with
      | false =>
        obtain ⟨h', hcall⟩ : ∃ h', my_krealloc heap (some old) size (toInt (size + src.strlen))
            (true, false) = (-ENOMEM, none, h') := my_krealloc_no_new hnew h0
        exact .inr (.inl ⟨-ENOMEM, _, by decide, strconcat_of_fails h0 hcall (by decide), rfl,
          fun h => nomatch (h hnew rfl).1⟩)
      | true =>
        have hlen : size = ((cells text).length : ℤ) := by rw [hsize, length_cells]; rfl
        obtain ⟨p, h', hcall, hsole'⟩ := my_krealloc_both hsole hnew
        rw [← hlen] at hcall
        have hresult := strconcat_of_success (b := ⟨heap, some old, size⟩) h0 hcall
        by_cases hfits : size + src.strlen < 2 ^ 31
        · refine .inr (.inr (.inr ⟨_, hresult, kept_of_fits hsize hfits ?_, fun _ _ => ⟨rfl, hfits⟩⟩))
          rw [toInt_of_lt (by omega) hfits] at hsole'
          rw [show min (cells text).length (size + src.strlen).toNat = (cells text).length by omega,
            List.take_length,
            show (size + src.strlen).toNat - (cells text).length = src.strlen by omega] at hsole'
          exact hsole'
        · have hcut := toInt_lt_of_le (not_lt.mp hfits)
          refine .inr (.inr (.inl ⟨_, hresult, ?_, fun h => hfits (h hnew rfl).2⟩))
          refine Heap.store_past hsole'.block_self ?_
          simp only [List.length_append, List.length_take, List.length_replicate, length_cells]
          have hsrc : src.strlen = src.bytes.length := rfl
          omega
  · have hcall : my_krealloc heap (some old) size (toInt (size + src.strlen)) (ok₁, ok₂) =
        (-EINVAL, some old, heap) := by
      rw [my_krealloc, if_pos (.inl (not_lt.mp hnew))]
    exact .inl ⟨-EINVAL, by decide, strconcat_of_fails h0 hcall (by decide), fun h => absurd h hnew⟩

/-! ### Runs -/

theorem step_eq {ret : ℤ} {b : Buffer} (hcall : strconcat s.buffer c.src c.alloc = (ret, b))
    (hstep : step s c = some s') :
    s' = { buffer := b, text := if ret = 0 then s.text ++ c.src.bytes else s.text } := by
  rw [step, hcall] at hstep
  exact (Option.some.inj hstep).symm

theorem Kept.no_leak (hs : Kept s) : ∀ p, (s.buffer.heap.block p).isSome → s.buffer.dst = some p := by
  obtain ⟨-, old, hdst, hsole⟩ := hs
  intro p hp
  rw [hsole.eq_of_block hp, hdst]

theorem Kept.no_fault (hs : Kept s) : s.buffer.heap.wrong = false := by
  obtain ⟨-, old, -, hsole⟩ := hs
  exact hsole.right

theorem Kept.holds (hs : Kept s) : s.buffer.Holds s.text := by
  obtain ⟨hsize, old, hdst, hsole⟩ := hs
  exact ⟨hsize, old, hdst, hsole.block_self⟩

/-- **A call is right exactly if it allocates what it needs.** -/
theorem callRight_iff (hs : Kept s) (hstep : step s c = some s') :
    CallRight s c s' ↔ Allocates s c := by
  obtain ⟨ret, hret, hcall, hok⟩ | ⟨ret, b, hret, hcall, hnone, hnot⟩ |
    ⟨b, hcall, hwrong, hnot⟩ | ⟨b, hcall, hkept, hok⟩ := strconcat_cases (c := c) hs
  · obtain rfl := step_eq hcall hstep
    refine ⟨fun _ => hok, fun _ => ⟨fun h => ?_, fun _ => ⟨rfl, rfl, fun _ _ => rfl⟩, hs.no_leak,
      hs.no_fault⟩⟩
    rw [hcall] at h
    exact absurd h hret
  · obtain rfl := step_eq hcall hstep
    refine ⟨fun h => ?_, fun h => absurd h hnot⟩
    have hsame := (h.keeps (by rw [hcall]; exact hret)).1
    obtain ⟨-, old, hdst, -⟩ := hs
    rw [hdst] at hsame
    exact absurd (hnone.symm.trans hsame) nofun
  · obtain rfl := step_eq hcall hstep
    refine ⟨fun h => ?_, fun h => absurd h hnot⟩
    exact absurd (hwrong.symm.trans h.no_fault) nofun
  · obtain rfl := step_eq hcall hstep
    refine ⟨fun _ => hok, fun _ => ⟨fun _ => hkept.holds, fun h => ?_, hkept.no_leak,
      hkept.no_fault⟩⟩
    rw [hcall] at h
    exact absurd rfl h

theorem kept_of_right (hs : Kept s) (hstep : step s c = some s') (h : CallRight s c s') :
    Kept s' := by
  have hok := (callRight_iff hs hstep).mp h
  obtain ⟨ret, hret, hcall, -⟩ | ⟨_, _, _, _, _, hnot⟩ | ⟨_, _, _, hnot⟩ | ⟨b, hcall, hkept, -⟩ :=
    strconcat_cases (c := c) hs
  · obtain rfl := step_eq hcall hstep
    rw [if_neg hret]
    exact hs
  · exact absurd hok hnot
  · exact absurd hok hnot
  · obtain rfl := step_eq hcall hstep
    exact hkept

/-- **A run of calls builds strings rightly exactly if each of them allocates what it needs.** -/
theorem strconcat_calls_right_iff (calls : List Call) :
    Transition.Along step CallRight start calls ↔
      Transition.Along step (fun s c _ => Allocates s c) start calls :=
  Transition.along_iff_along (fun _ _ _ hs hstep h => kept_of_right hs hstep h)
    (fun _ _ _ hs hstep => callRight_iff hs hstep) calls start_kept

/-- **A new block that is refused costs the old contents.** -/
theorem not_strconcat_calls_right : ¬ ∀ calls : List Call, Transition.Along step CallRight start calls := by
  intro h
  have hcall := (h [⟨⟨[0x61], by decide⟩, true, false⟩] _ rfl).1
  obtain ⟨hdst, -⟩ := hcall.keeps (by decide)
  exact absurd hdst (by decide)

end Amr.Host.Strconcat
