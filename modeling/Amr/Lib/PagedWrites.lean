/-
# Writes to a memory with pages

A run of bytes is written by writes that each stay in one page. `Progress` is what holds while all
writes were accepted, and `Written` what holds in the end: the writes are in order and in their
pages, they send the data from the front, and what was stored is a first part of the data, which is
all of it if the write reports success.
-/
import Amr.Lib.BlockAccess

namespace PagedWrites

open ByteStore

/-- One write to the device, and whether the device takes it. -/
structure Write where
  address : ℕ
  bytes : List UInt8
  accepted : Bool
  deriving DecidableEq, Repr

def sent (ws : List Write) : List UInt8 := ws.flatMap Write.bytes

/-- Each write starts where the one before it ends. -/
def InOrder : ℕ → List Write → Prop
  | _, [] => True
  | a, w :: ws => w.address = a ∧ InOrder (a + w.bytes.length) ws

/-- The write stays in one page of `u` bytes. -/
def Write.InPage (u : ℕ) (w : Write) : Prop :=
  ∀ i < w.bytes.length, (w.address + i) / u = w.address / u

/-- The memory afterwards; a write that is not accepted has no effect. -/
def stored (m : Store) (ws : List Write) : Store :=
  ws.foldl (fun m w => if w.accepted then put m w.address w.bytes else m) m

variable {u a n k : ℕ} {data : List UInt8} {ws : List Write} {w : Write}

theorem sent_append_one : sent (ws ++ [w]) = sent ws ++ w.bytes := by
  simp [sent]

theorem inOrder_append_one :
    InOrder a (ws ++ [w]) ↔ InOrder a ws ∧ w.address = a + (sent ws).length := by
  induction ws generalizing a with
  | nil => simp [InOrder, sent]
  | cons v ws ih =>
    have hlen : (sent (v :: ws)).length = v.bytes.length + (sent ws).length := by simp [sent]
    rw [List.cons_append, InOrder, InOrder, ih, hlen, and_assoc, Nat.add_assoc]

/-- **What accepted writes store.** -/
theorem stored_eq (m : Store) (haccepted : ∀ w ∈ ws, w.accepted = true) (horder : InOrder a ws) :
    stored m ws = put m a (sent ws) := by
  induction ws generalizing m a with
  | nil => exact (put_nil m a).symm
  | cons v ws ih =>
    obtain ⟨hfirst, hrest⟩ := List.forall_mem_cons.mp haccepted
    obtain ⟨rfl, horder⟩ := horder
    have hsent : sent (v :: ws) = v.bytes ++ sent ws := rfl
    rw [hsent, ← put_put, stored, List.foldl_cons, if_pos hfirst]
    exact ih _ hrest horder

/-- All writes so far were accepted, and sent the first `n` bytes. -/
structure Progress (u a : ℕ) (data : List UInt8) (ws : List Write) (n : ℕ) : Prop where
  accepted : ∀ w ∈ ws, w.accepted = true
  inOrder : InOrder a ws
  inPage : ∀ w ∈ ws, w.InPage u
  sent : sent ws = data.take n
  room : n ≤ data.length

/-- The writes of `data` to `a` with this status. -/
structure Written (u a : ℕ) (data : List UInt8) (st : Bool) (ws : List Write) : Prop where
  inOrder : InOrder a ws
  inPage : ∀ w ∈ ws, w.InPage u
  /-- They send the data from the front. -/
  sent : sent ws <+: data
  /-- A first part of the data is stored. -/
  stored : ∀ m, ∃ n, stored m ws = put m a (data.take n)
  whole : st = true → PagedWrites.sent ws = data ∧ ∀ w ∈ ws, w.accepted = true

theorem Progress.start : Progress u a data [] 0 :=
  ⟨nofun, trivial, nofun, rfl, Nat.zero_le _⟩

namespace Progress

theorem length_sent (h : Progress u a data ws n) : (PagedWrites.sent ws).length = n := by
  rw [h.sent, List.length_take, min_eq_left h.room]

theorem stored (h : Progress u a data ws n) (m : Store) :
    PagedWrites.stored m ws = put m a (data.take n) := by
  rw [stored_eq m h.accepted h.inOrder, h.sent]

/-- The next write sends the next bytes, in order and in its page. -/
theorem next (h : Progress u a data ws n) (hroom : n + k ≤ data.length)
    (hpage : ∀ i < k, (a + n + i) / u = (a + n) / u)
    (hw : w.address = a + n ∧ w.bytes = (data.drop n).take k) :
    InOrder a (ws ++ [w]) ∧ (∀ w' ∈ ws ++ [w], w'.InPage u) ∧
      PagedWrites.sent (ws ++ [w]) = data.take (n + k) := by
  obtain ⟨haddr, hbytes⟩ := hw
  have hlen : w.bytes.length = k := by
    rw [hbytes, List.length_take, List.length_drop, min_eq_left (by omega)]
  refine ⟨inOrder_append_one.mpr ⟨h.inOrder, by rw [haddr, h.length_sent]⟩, ?_, ?_⟩
  · intro w' hw'
    rcases List.mem_append.mp hw' with hold | hnew
    · exact h.inPage w' hold
    · obtain rfl := List.mem_singleton.mp hnew
      intro i hi
      rw [haddr]
      exact hpage i (hlen ▸ hi)
  · rw [sent_append_one, h.sent, hbytes, ← List.take_add]

/-- **One more write** that is accepted. -/
theorem step (h : Progress u a data ws n) (hroom : n + k ≤ data.length)
    (hpage : ∀ i < k, (a + n + i) / u = (a + n) / u) :
    Progress u a data (ws ++ [⟨a + n, (data.drop n).take k, true⟩]) (n + k) := by
  obtain ⟨horder, hin, hsent⟩ :=
    h.next (w := ⟨a + n, (data.drop n).take k, true⟩) hroom hpage ⟨rfl, rfl⟩
  refine ⟨fun w hw => ?_, horder, hin, hsent, hroom⟩
  rcases List.mem_append.mp hw with hold | hnew
  · exact h.accepted w hold
  · rw [List.mem_singleton.mp hnew]

/-- **A write that fails** leaves what was stored before. -/
theorem fails (h : Progress u a data ws n) (hroom : n + k ≤ data.length)
    (hpage : ∀ i < k, (a + n + i) / u = (a + n) / u) :
    Written u a data false (ws ++ [⟨a + n, (data.drop n).take k, false⟩]) := by
  obtain ⟨horder, hin, hsent⟩ :=
    h.next (w := ⟨a + n, (data.drop n).take k, false⟩) hroom hpage ⟨rfl, rfl⟩
  refine ⟨horder, hin, hsent ▸ List.take_prefix _ _, fun m => ⟨n, ?_⟩, nofun⟩
  rw [PagedWrites.stored, List.foldl_append]
  exact h.stored m

/-- The writes stop. -/
theorem stops (h : Progress u a data ws n) : Written u a data false ws :=
  ⟨h.inOrder, h.inPage, h.sent ▸ List.take_prefix _ _, fun m => ⟨n, h.stored m⟩, nofun⟩

/-- All data are sent. -/
theorem ends (h : Progress u a data ws n) (hall : n = data.length) :
    Written u a data true ws :=
  ⟨h.inOrder, h.inPage, h.sent ▸ List.take_prefix _ _, fun m => ⟨n, h.stored m⟩, fun _ =>
    ⟨h.sent.trans (hall ▸ List.take_length), h.accepted⟩⟩

end Progress

end PagedWrites
