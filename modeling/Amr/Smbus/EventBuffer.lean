/-
# The event buffer of an instance

`smbus_event_buffer.c`: a ring of elements that carry their own mark of use, a cursor that writes
and a cursor that reads. There is no count: a write is refused at an element in use, and a read at
one that is not.

The elements in use are those of the events that were accepted and not yet read, in order from the
reading cursor on. With this the buffer is a bounded first-in first-out channel.
-/
import Amr.Lib.BoundedFifo

namespace Amr.Smbus.EventBuffer

open BoundedFifo

def SMBUS_MAX_EVENT_ELEMENTS : ℕ := 300

structure SMBus_EventBufElement where
  ucIsOccupied : Bool
  ucOctet : UInt8

structure SMBus_EventBuf where
  ulMaxElements : ℕ
  ulWrite : ℕ
  ulRead : ℕ
  pxEventBuf : ℕ → SMBus_EventBufElement

/-- The index after `ulAnyIndex`. -/
def ulEventBufferInc (pxContext : SMBus_EventBuf) (ulAnyIndex : ℕ) : ℕ :=
  if pxContext.ulMaxElements ≤ ulAnyIndex + 1 then 0 else ulAnyIndex + 1

def vEventBufferInitialize (pxEventBuf : ℕ → SMBus_EventBufElement) (ulMaxElements : ℕ) :
    SMBus_EventBuf where
  ulMaxElements := ulMaxElements
  ulWrite := 0
  ulRead := 0
  pxEventBuf := fun i => if i < ulMaxElements then ⟨false, 0x00⟩ else pxEventBuf i

/-- The position of the event, or `SMBUS_EVENT_BUFFER_FAIL`. -/
def ucEventBufferTryWrite (pxContext : SMBus_EventBuf) (ucAnyCharacter : UInt8) :
    SMBus_EventBuf × Option ℕ :=
  if (pxContext.pxEventBuf pxContext.ulWrite).ucIsOccupied = false then
    ({ pxContext with
        pxEventBuf := Function.update pxContext.pxEventBuf pxContext.ulWrite ⟨true, ucAnyCharacter⟩
        ulWrite := ulEventBufferInc pxContext pxContext.ulWrite }, some pxContext.ulWrite)
  else (pxContext, none)

/-- `*pucAnyCharacter`, and the position of the event or `SMBUS_FALSE`. -/
def ucEventBufferTryRead (pxContext : SMBus_EventBuf) : SMBus_EventBuf × UInt8 × Option ℕ :=
  let x := pxContext.pxEventBuf pxContext.ulRead
  if x.ucIsOccupied = true then
    ({ pxContext with
        pxEventBuf := Function.update pxContext.pxEventBuf pxContext.ulRead ⟨false, x.ucOctet⟩
        ulRead := ulEventBufferInc pxContext pxContext.ulRead }, x.ucOctet, some pxContext.ulRead)
  else (pxContext, 0xCC, none)

/-! ### Sequences of calls -/

inductive Call
  | tryWrite (ucAnyCharacter : UInt8)
  | tryRead

/-- A buffer, with the events that it accepted and those that were read from it. -/
structure Session where
  buf : SMBus_EventBuf
  history : Channel UInt8

namespace Session

/-- The events that were accepted and not yet read. -/
def held (s : Session) : List UInt8 := s.history.sent.drop s.history.received.length

def call (s : Session) : Call → Session
  | .tryWrite c =>
    let r := ucEventBufferTryWrite s.buf c
    ⟨r.1, if r.2.isSome then { s.history with sent := s.history.sent ++ [c] } else s.history⟩
  | .tryRead =>
    let r := ucEventBufferTryRead s.buf
    ⟨r.1, if r.2.2.isSome then { s.history with received := s.history.received ++ [r.2.1] }
      else s.history⟩

/-- A sequence of calls on a buffer that has been initialised. -/
def run (pxEventBuf : ℕ → SMBus_EventBufElement) (ulMaxElements : ℕ) (calls : List Call) : Session :=
  calls.foldl call ⟨vEventBufferInitialize pxEventBuf ulMaxElements, ⟨[], []⟩⟩

/-- The buffer is a channel for `cap` events. -/
structure Fifo (cap : ℕ) (s : Session) : Prop where
  /-- The events read are those accepted, in order, up to the ones that are held. -/
  ordered : s.history.received ++ s.held = s.history.sent
  refused : ∀ c, (ucEventBufferTryWrite s.buf c).2 = none ↔ s.held.length = cap
  empty : (ucEventBufferTryRead s.buf).2.2 = none ↔ s.held = []
  next : ∀ i, (ucEventBufferTryRead s.buf).2.2 = some i →
    s.held.head? = some (ucEventBufferTryRead s.buf).2.1

/-- **Invariant**: the elements from the reading cursor on hold the events that are not yet read,
and the others are free. -/
structure Represents (cap : ℕ) (s : Session) : Prop where
  max : s.buf.ulMaxElements = cap
  sound : Sound cap s.history
  write : s.buf.ulWrite = s.history.sent.length % cap
  read : s.buf.ulRead = s.history.received.length % cap
  used : ∀ k c, s.history.received.length ≤ k → s.history.sent[k]? = some c →
    s.buf.pxEventBuf (k % cap) = ⟨true, c⟩
  free : ∀ k, s.history.sent.length ≤ k → k < s.history.received.length + cap →
    (s.buf.pxEventBuf (k % cap)).ucIsOccupied = false

variable {cap : ℕ} {s : Session}

theorem inc_mod {b : SMBus_EventBuf} (hb : b.ulMaxElements = cap) (hcap : 0 < cap) (i : ℕ) :
    ulEventBufferInc b (i % cap) = (i + 1) % cap := by
  have hlt := Nat.mod_lt i hcap
  unfold ulEventBufferInc
  rw [hb, ← Nat.mod_add_mod]
  split_ifs with hge
  · rw [show i % cap + 1 = cap by omega, Nat.mod_self]
  · exact (Nat.mod_eq_of_lt (by omega)).symm

theorem mod_ne {i j : ℕ} (hij : i < j) (hj : j < i + cap) : i % cap ≠ j % cap := by
  intro heq
  have hdvd := (Nat.modEq_iff_dvd' hij.le).mp heq
  exact absurd (Nat.le_of_dvd (by omega) hdvd) (by omega)

theorem Represents.init (pxEventBuf : ℕ → SMBus_EventBufElement) (hcap : 0 < cap) :
    Represents cap (run pxEventBuf cap []) where
  max := rfl
  sound := sound_empty cap
  write := (Nat.zero_mod cap).symm
  read := (Nat.zero_mod cap).symm
  used := fun k c _ hk => by cases hk
  free := fun k _ _ => by
    have hlt : k % cap < cap := Nat.mod_lt k hcap
    simp only [run, List.foldl_nil, vEventBufferInitialize, if_pos hlt]

theorem Represents.occupied_iff (h : Represents cap s) (hcap : 0 < cap) :
    (s.buf.pxEventBuf s.buf.ulWrite).ucIsOccupied = false ↔
      s.history.sent.length < s.history.received.length + cap := by
  refine ⟨fun hfree => ?_, fun hroom => h.write ▸ h.free _ le_rfl hroom⟩
  by_contra hfull
  have hbound := h.sound.bounded
  -- a full buffer holds its oldest event where the next one would go
  have hwrap : s.history.sent.length % cap = s.history.received.length % cap := by
    rw [show s.history.sent.length = s.history.received.length + cap by omega, Nat.add_mod_right]
  have hlt : s.history.received.length < s.history.sent.length := by omega
  have hused := h.used _ _ le_rfl (List.getElem?_eq_getElem hlt)
  rw [h.write, hwrap, hused] at hfree
  cases hfree

theorem Represents.oldest (h : Represents cap s) (hcap : 0 < cap) :
    match s.history.sent[s.history.received.length]? with
    | some c => s.buf.pxEventBuf s.buf.ulRead = ⟨true, c⟩
    | none => (s.buf.pxEventBuf s.buf.ulRead).ucIsOccupied = false := by
  cases hnext : s.history.sent[s.history.received.length]? with
  | some c => exact h.read ▸ h.used _ c le_rfl hnext
  | none =>
    have hle := List.getElem?_eq_none_iff.mp hnext
    exact h.read ▸ h.free _ hle (Nat.lt_add_of_pos_right hcap)

theorem Represents.tryWrite (h : Represents cap s) (hcap : 0 < cap) (c : UInt8) :
    Represents cap (s.call (.tryWrite c)) := by
  by_cases hfree : (s.buf.pxEventBuf s.buf.ulWrite).ucIsOccupied = false
  swap
  · have hcall : s.call (.tryWrite c) = s := by
      simp only [call, ucEventBufferTryWrite, if_neg hfree]
      rfl
    rwa [hcall]
  have hroom := (h.occupied_iff hcap).mp hfree
  have hle := h.sound.isPrefix.length_le
  simp only [call, ucEventBufferTryWrite, if_pos hfree, Option.isSome_some, if_true]
  rw [h.write]
  refine ⟨h.max, (Next.send c hroom).sound h.sound, ?_, h.read, fun k d hk hd => ?_,
    fun k hk hlt => ?_⟩
  · rw [List.length_append, List.length_singleton]
    exact inc_mod h.max hcap _
  · simp only at hk hd ⊢
    rcases Nat.lt_or_ge k s.history.sent.length with hold | hnew
    · rw [List.getElem?_append_left hold] at hd
      exact (Function.update_of_ne (mod_ne hold (by omega)) ..).trans (h.used k d hk hd)
    · have hlast := (List.getElem?_eq_some_iff.mp hd).1
      rw [List.length_append, List.length_singleton] at hlast
      obtain rfl : k = s.history.sent.length := by omega
      obtain rfl : c = d := by simpa using hd
      exact Function.update_self ..
  · rw [List.length_append, List.length_singleton] at hk
    simp only at hlt ⊢
    rw [Function.update_of_ne (mod_ne hk (by omega)).symm]
    exact h.free k (by omega) hlt

theorem Represents.tryRead (h : Represents cap s) (hcap : 0 < cap) :
    Represents cap (s.call .tryRead) := by
  have holdest := h.oldest hcap
  cases hnext : s.history.sent[s.history.received.length]? with
  | none =>
    rw [hnext] at holdest
    have hcall : s.call .tryRead = s := by
      simp only [call, ucEventBufferTryRead, holdest]
      rfl
    rwa [hcall]
  | some c =>
    rw [hnext] at holdest
    have hsound := (Next.receive c hnext).sound h.sound
    have hbound := h.sound.bounded
    have hlt := (List.getElem?_eq_some_iff.mp hnext).1
    simp only [call, ucEventBufferTryRead, holdest, if_true, Option.isSome_some]
    rw [h.read]
    refine ⟨h.max, hsound, h.write, ?_, fun k d hk hd => ?_, fun k hk hk' => ?_⟩
    · rw [List.length_append, List.length_singleton]
      exact inc_mod h.max hcap _
    · rw [List.length_append, List.length_singleton] at hk
      have hkl := (List.getElem?_eq_some_iff.mp hd).1
      simp only at hkl ⊢
      rw [Function.update_of_ne (mod_ne hk (by omega)).symm]
      exact h.used k d (by omega) hd
    · rw [List.length_append, List.length_singleton] at hk'
      simp only at hk ⊢
      by_cases hlast : k = s.history.received.length + cap
      · rw [hlast, Nat.add_mod_right, Function.update_self]
      · rw [Function.update_of_ne (mod_ne (by omega) (by omega)).symm]
        exact h.free k hk (by omega)

theorem Represents.fifo (h : Represents cap s) (hcap : 0 < cap) : Fifo cap s := by
  have holdest := h.oldest hcap
  have hbound := h.sound.bounded
  have hlen : s.held.length = s.history.sent.length - s.history.received.length :=
    List.length_drop
  have hhead : s.held.head? = s.history.sent[s.history.received.length]? := List.head?_drop
  obtain ⟨rest, hrest⟩ := h.sound.isPrefix
  refine ⟨?_, fun c => ?_, ?_, fun i hi => ?_⟩
  · rw [held, ← hrest, List.drop_left]
  · have hocc := h.occupied_iff hcap
    unfold ucEventBufferTryWrite
    split_ifs with hfree
    · have hroom := hocc.mp hfree
      refine ⟨nofun, fun hfull => ?_⟩
      omega
    · have hfull := mt hocc.mpr hfree
      refine ⟨fun _ => ?_, fun _ => rfl⟩
      omega
  · rw [← List.head?_eq_none_iff, hhead]
    unfold ucEventBufferTryRead
    cases hnext : s.history.sent[s.history.received.length]? with
    | none => simp [hnext ▸ holdest]
    | some c => simp [show s.buf.pxEventBuf s.buf.ulRead = ⟨true, c⟩ by simpa [hnext] using holdest]
  · rw [hhead]
    unfold ucEventBufferTryRead at hi ⊢
    cases hnext : s.history.sent[s.history.received.length]? with
    | none =>
      rw [hnext] at holdest
      simp [holdest] at hi
    | some c =>
      rw [hnext] at holdest
      simp [holdest]

/-- **The event buffer is a first-in first-out channel** for `SMBUS_MAX_EVENT_ELEMENTS` events, over
every sequence of calls. -/
theorem event_buffer_fifo (pxEventBuf : ℕ → SMBus_EventBufElement) (calls : List Call) :
    Fifo SMBUS_MAX_EVENT_ELEMENTS (run pxEventBuf SMBUS_MAX_EVENT_ELEMENTS calls) := by
  have hcap : 0 < SMBUS_MAX_EVENT_ELEMENTS := by decide
  have hrun : Represents SMBUS_MAX_EVENT_ELEMENTS
      (run pxEventBuf SMBUS_MAX_EVENT_ELEMENTS calls) := by
    induction calls using List.reverseRecOn with
    | nil => exact .init pxEventBuf hcap
    | append_singleton calls call ih =>
      rw [run, List.foldl_append]
      cases call with
      | tryWrite c => exact ih.tryWrite hcap c
      | tryRead => exact ih.tryRead hcap
  exact hrun.fifo hcap

end Session

end Amr.Smbus.EventBuffer
