/-
# A bounded first-in first-out channel

The abstract meaning of a ring between one sender and one receiver: the whole history of what was
sent and of what was received. A message may be sent while fewer than `cap` messages are
outstanding, and what is received next is the oldest message not yet received. Every run of the
channel keeps the received messages a prefix of the sent ones, with at most `cap` outstanding.
-/
import Mathlib

namespace BoundedFifo

variable {α : Type*}

/-- Everything sent into and received from the channel, oldest first. -/
structure Channel (α : Type*) where
  sent : List α
  received : List α

/-- One step of a channel of capacity `cap`. -/
inductive Next (cap : ℕ) : Channel α → Channel α → Prop
  | send {c : Channel α} (m : α) (h : c.sent.length < c.received.length + cap) :
      Next cap c { c with sent := c.sent ++ [m] }
  | receive {c : Channel α} (m : α) (h : c.sent[c.received.length]? = some m) :
      Next cap c { c with received := c.received ++ [m] }

/-- What a channel promises: order, no loss, no duplication, and the capacity. -/
structure Sound (cap : ℕ) (c : Channel α) : Prop where
  isPrefix : c.received <+: c.sent
  bounded : c.sent.length ≤ c.received.length + cap

/-- Extending a prefix by the next element of the list keeps it a prefix. -/
theorem isPrefix_append_next {xs ys : List α} {m : α} (hpre : xs <+: ys)
    (hm : ys[xs.length]? = some m) : xs ++ [m] <+: ys := by
  obtain ⟨rest, rfl⟩ := hpre
  obtain ⟨zs, rfl⟩ : ∃ zs, rest = m :: zs := by
    cases rest with
    | nil => simp at hm
    | cons z zs => exact ⟨zs, by simpa using hm⟩
  exact ⟨zs, by simp⟩

/-- One step keeps the promises. -/
theorem Next.sound {cap : ℕ} {c c' : Channel α} (h : Next cap c c') (hc : Sound cap c) :
    Sound cap c' := by
  obtain ⟨hpre, hbound⟩ := hc
  cases h with
  | send m hroom =>
    refine ⟨hpre.trans (List.prefix_append _ _), ?_⟩
    simp only [List.length_append, List.length_singleton]
    omega
  | receive m hm =>
    refine ⟨isPrefix_append_next hpre hm, ?_⟩
    simp only [List.length_append, List.length_singleton]
    omega

/-- Every run keeps the promises. -/
theorem sound_of_run {cap : ℕ} {c c' : Channel α} (hc : Sound cap c)
    (h : Relation.ReflTransGen (Next cap) c c') : Sound cap c' := by
  induction h with
  | refl => exact hc
  | tail _ hstep ih => exact hstep.sound ih

/-- The empty channel keeps its promises. -/
theorem sound_empty (cap : ℕ) : Sound cap (⟨[], []⟩ : Channel α) :=
  ⟨List.prefix_rfl, by simp⟩

end BoundedFifo
