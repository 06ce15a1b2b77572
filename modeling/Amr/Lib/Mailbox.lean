/-
# A mailbox for one message

A new message replaces one that has not been taken. The mailbox keeps the whole history: what it was
sent, what was taken out of it and what was dropped, because it was refused or replaced. Every
message that was sent is taken once, dropped or still there, and messages are taken in the order in
which they were sent. The promises are fields, so every mailbox built from the operations keeps
them.
-/
import Mathlib

/-- A mailbox with its history, oldest message first. -/
structure Mailbox (α : Type*) where
  slot : Option α
  sent : List α
  taken : List α
  dropped : List α
  order : (taken ++ slot.toList).Sublist sent
  fate : sent.Perm (taken ++ dropped ++ slot.toList)

namespace Mailbox

open scoped List

variable {α : Type*}

def empty : Mailbox α := ⟨none, [], [], [], .refl _, .refl _⟩

/-- A message replaces the one that has not been taken. -/
def put (m : Mailbox α) (a : α) : Mailbox α where
  slot := some a
  sent := m.sent ++ [a]
  taken := m.taken
  dropped := m.dropped ++ m.slot.toList
  order := ((List.sublist_append_left _ _).trans m.order).append (.refl _)
  fate := by
    have := m.fate.append_right [a]
    simpa only [List.append_assoc, Option.toList_some] using this

def refuse (m : Mailbox α) (a : α) : Mailbox α where
  slot := m.slot
  sent := m.sent ++ [a]
  taken := m.taken
  dropped := m.dropped ++ [a]
  order := m.order.trans (List.sublist_append_left _ _)
  fate := by
    calc m.sent ++ [a]
      _ ~ m.taken ++ m.dropped ++ m.slot.toList ++ [a] := m.fate.append_right [a]
      _ = m.taken ++ m.dropped ++ (m.slot.toList ++ [a]) := List.append_assoc ..
      _ ~ m.taken ++ m.dropped ++ ([a] ++ m.slot.toList) := List.perm_append_comm.append_left _
      _ = m.taken ++ (m.dropped ++ [a]) ++ m.slot.toList := by simp only [List.append_assoc]

/-- The message is taken out, if there is one. -/
def take (m : Mailbox α) : Mailbox α where
  slot := none
  sent := m.sent
  taken := m.taken ++ m.slot.toList
  dropped := m.dropped
  order := by simpa using m.order
  fate := by
    calc m.sent
      _ ~ m.taken ++ (m.dropped ++ m.slot.toList) := by simpa only [List.append_assoc] using m.fate
      _ ~ m.taken ++ (m.slot.toList ++ m.dropped) := List.perm_append_comm.append_left _
      _ = m.taken ++ m.slot.toList ++ m.dropped ++ none.toList := by simp

variable (m : Mailbox α)

@[simp] theorem put_slot (a : α) : (m.put a).slot = some a := rfl

@[simp] theorem put_taken (a : α) : (m.put a).taken = m.taken := rfl

@[simp] theorem refuse_slot (a : α) : (m.refuse a).slot = m.slot := rfl

@[simp] theorem refuse_taken (a : α) : (m.refuse a).taken = m.taken := rfl

@[simp] theorem take_slot : m.take.slot = none := rfl

@[simp] theorem take_taken : m.take.taken = m.taken ++ m.slot.toList := rfl

/-- What was taken was sent, in this order. -/
theorem taken_sublist : m.taken.Sublist m.sent :=
  (List.sublist_append_left _ _).trans m.order

end Mailbox
