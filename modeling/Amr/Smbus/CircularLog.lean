/-
# The debug log

`vLogInitialize`, `vLogAddEntry` and `vLogDisplayLog` of `smbus_circular_log.c`. The display begins
at the slot that is written next, where the oldest entry of a ring is. The step that goes back to
the first slot is commented out, and the last slot is written over and over.
-/
import Mathlib

namespace Amr.Smbus.CircularLog

def SMBUS_MAX_CIRCULAR_LOG_ENTRIES : ℕ := 5000

inductive SMBUS_LOG_EVENT
  | INTERRUPT_EVENT
  | FSM_EVENT
  | ERROR
  | HW_READ
  | HW_WRITE
  | PROTOCOL
  | DEBUG
  | TRYREAD
  | TRYWRITE
  deriving DecidableEq

/-- An entry; `ulIsOccupied` tells `SMBUS_LOG_IS_OCCUPIED` from `SMBUS_LOG_IS_NOT_OCCUPIED`. -/
structure SMBus_LogBufRecord where
  ulIsOccupied : Bool
  ulTicks : UInt32
  ulEntry1 : UInt32
  ulInstance : UInt32
  ulEntry2 : UInt32
  xEvent : SMBUS_LOG_EVENT
  deriving DecidableEq

/-- The fields of `SMBusProfile` that the log uses. -/
structure SMBusProfile where
  xLogLevel : ℕ
  ulWrite : ℕ
  xCircularBuf : ℕ → SMBus_LogBufRecord

/-- What `vLogAddEntry` is called with, and the time that it reads. -/
structure Call where
  xLogLevel : ℕ
  ulTicks : UInt32
  ulInstance : UInt32
  Log_Event : SMBUS_LOG_EVENT
  ulEntry1 : UInt32
  ulEntry2 : UInt32

def Call.record (c : Call) : SMBus_LogBufRecord :=
  ⟨true, c.ulTicks, c.ulEntry1, c.ulInstance, c.ulEntry2, c.Log_Event⟩

namespace SMBusProfile

def vLogInitialize (p : SMBusProfile) : SMBusProfile where
  xLogLevel := p.xLogLevel
  ulWrite := 0
  xCircularBuf := fun i =>
    if i < SMBUS_MAX_CIRCULAR_LOG_ENTRIES then
      { p.xCircularBuf i with ulIsOccupied := false, ulEntry1 := 0, ulEntry2 := 0, ulTicks := 0 }
    else p.xCircularBuf i

def vLogAddEntry (p : SMBusProfile) (c : Call) : SMBusProfile :=
  if c.xLogLevel ≤ p.xLogLevel then
    { p with
      xCircularBuf := Function.update p.xCircularBuf p.ulWrite c.record
      ulWrite :=
        if SMBUS_MAX_CIRCULAR_LOG_ENTRIES - 1 ≤ p.ulWrite then SMBUS_MAX_CIRCULAR_LOG_ENTRIES - 1
        else p.ulWrite + 1 }
  else p

/-- The line of a slot, as what `prvvFormatLine` prints in it. -/
def line (p : SMBusProfile) (i : ℕ) : Option (ℕ × SMBus_LogBufRecord) :=
  if (p.xCircularBuf i).ulIsOccupied then some (i, p.xCircularBuf i) else none

/-- The lines in the order in which they are printed. -/
def vLogDisplayLog (p : SMBusProfile) : List (ℕ × SMBus_LogBufRecord) :=
  (List.range' p.ulWrite (SMBUS_MAX_CIRCULAR_LOG_ENTRIES - p.ulWrite)).filterMap p.line ++
    (List.range p.ulWrite).filterMap p.line

def run (p : SMBusProfile) (calls : List Call) : SMBusProfile :=
  calls.foldl vLogAddEntry p.vLogInitialize

def added (p : SMBusProfile) (calls : List Call) : List SMBus_LogBufRecord :=
  (calls.filter fun c => c.xLogLevel ≤ p.xLogLevel).map Call.record

/-- The entries that the log should still have. -/
def survivors (l : List SMBus_LogBufRecord) : List SMBus_LogBufRecord :=
  l.drop (l.length - SMBUS_MAX_CIRCULAR_LOG_ENTRIES)

/-- The surviving entries are printed, each once and in order. -/
def Displayed (p : SMBusProfile) (calls : List Call) : Prop :=
  (p.run calls).vLogDisplayLog.map Prod.snd = survivors (p.added calls)

/-- What a log has got after the entries `l`. -/
structure Holds (l : List SMBus_LogBufRecord) (p : SMBusProfile) : Prop where
  write : p.ulWrite = min l.length (SMBUS_MAX_CIRCULAR_LOG_ENTRIES - 1)
  front : ∀ i x, l[i]? = some x → i < SMBUS_MAX_CIRCULAR_LOG_ENTRIES - 1 → p.xCircularBuf i = x
  last : ∀ x, l.getLast? = some x → SMBUS_MAX_CIRCULAR_LOG_ENTRIES ≤ l.length →
    p.xCircularBuf (SMBUS_MAX_CIRCULAR_LOG_ENTRIES - 1) = x
  free : ∀ i, l.length ≤ i → i < SMBUS_MAX_CIRCULAR_LOG_ENTRIES →
    (p.xCircularBuf i).ulIsOccupied = false

theorem two_le_entries : 2 ≤ SMBUS_MAX_CIRCULAR_LOG_ENTRIES := by decide

variable {p : SMBusProfile} {l : List SMBus_LogBufRecord}

theorem Holds.add (h : Holds l p) {c : Call}
    (hlevel : c.xLogLevel ≤ p.xLogLevel) : Holds (l ++ [c.record]) (p.vLogAddEntry c) := by
  have hN := two_le_entries
  have hwrite := h.write
  unfold vLogAddEntry
  rw [if_pos hlevel]
  refine ⟨?_, fun i x hx hi => ?_, fun x hx hfull => ?_, fun i hi hlt => ?_⟩
  · rw [List.length_append, List.length_singleton]
    dsimp only
    split_ifs <;> omega
  · rcases Nat.lt_or_ge i l.length with hold | hnew
    · rw [List.getElem?_append_left hold] at hx
      exact (Function.update_of_ne (by omega) ..).trans (h.front i x hx hi)
    · have hlen := (List.getElem?_eq_some_iff.mp hx).1
      rw [List.length_append, List.length_singleton] at hlen
      obtain rfl : i = l.length := by omega
      obtain rfl : c.record = x := by simpa using hx
      rw [show l.length = p.ulWrite by omega]
      exact Function.update_self ..
  · rw [List.length_append, List.length_singleton] at hfull
    obtain rfl : c.record = x := by simpa using hx
    rw [show SMBUS_MAX_CIRCULAR_LOG_ENTRIES - 1 = p.ulWrite by omega]
    exact Function.update_self ..
  · rw [List.length_append, List.length_singleton] at hi
    dsimp only
    rw [Function.update_of_ne (by omega)]
    exact h.free i (by omega) hlt

theorem run_holds (p : SMBusProfile) (calls : List Call) :
    Holds (p.added calls) (p.run calls) ∧ (p.run calls).xLogLevel = p.xLogLevel := by
  induction calls using List.reverseRecOn with
  | nil =>
    refine ⟨⟨rfl, fun i x hx => ?_, fun x hx => ?_, fun i _ hi => ?_⟩, rfl⟩
    · cases hx
    · cases hx
    · simp only [run, List.foldl_nil, vLogInitialize, if_pos hi]
  | append_singleton calls c ih =>
    have hrun : p.run (calls ++ [c]) = (p.run calls).vLogAddEntry c := by simp [run]
    have hadded : p.added (calls ++ [c]) =
        p.added calls ++ if c.xLogLevel ≤ p.xLogLevel then [c.record] else [] := by
      unfold added
      rw [List.filter_append, List.map_append]
      by_cases hlevel : c.xLogLevel ≤ p.xLogLevel <;> simp [hlevel]
    rw [hrun, hadded]
    by_cases hlevel : c.xLogLevel ≤ p.xLogLevel
    · rw [if_pos hlevel]
      refine ⟨ih.1.add (ih.2.symm ▸ hlevel), ?_⟩
      unfold vLogAddEntry
      rw [if_pos (ih.2.symm ▸ hlevel)]
      exact ih.2
    · rw [if_neg hlevel, List.append_nil]
      have hsame : (p.run calls).vLogAddEntry c = p.run calls := by
        unfold vLogAddEntry
        rw [if_neg (ih.2.symm ▸ hlevel)]
      exact hsame.symm ▸ ih

theorem added_occupied {calls : List Call} {x : SMBus_LogBufRecord}
    (hx : x ∈ p.added calls) : x.ulIsOccupied = true := by
  obtain ⟨c, -, rfl⟩ := List.mem_map.mp hx
  rfl

theorem Holds.display (h : Holds l p)
    (hocc : ∀ x ∈ l, x.ulIsOccupied = true) (hlt : l.length < SMBUS_MAX_CIRCULAR_LOG_ENTRIES) :
    p.vLogDisplayLog.map Prod.snd = l := by
  have hwrite : p.ulWrite = l.length := h.write.trans (by omega)
  have hfree : (List.range' p.ulWrite (SMBUS_MAX_CIRCULAR_LOG_ENTRIES - p.ulWrite)).filterMap
      p.line = [] := by
    refine List.filterMap_eq_nil_iff.mpr fun i hi => ?_
    obtain ⟨hle, hi⟩ := List.mem_range'_1.mp hi
    unfold line
    rw [h.free i (by omega) (by omega)]
    rfl
  have hused : (List.range l.length).filterMap (fun i => (p.line i).map Prod.snd) = l := by
    have hline : ∀ i ∈ List.range l.length,
        (p.line i).map Prod.snd = some (p.xCircularBuf i) := fun i hi => by
      have hi : i < l.length := List.mem_range.mp hi
      have hslot := h.front i _ (List.getElem?_eq_getElem hi) (by omega)
      unfold line
      rw [if_pos (hslot ▸ hocc _ (List.getElem_mem hi))]
      rfl
    rw [List.filterMap_congr hline, List.filterMap_eq_map']
    refine List.ext_getElem (by simp) fun i _ hi => ?_
    rw [List.getElem_map, List.getElem_range]
    exact h.front i _ (List.getElem?_eq_getElem hi) (by omega)
  unfold vLogDisplayLog
  rw [hfree, List.nil_append, List.map_filterMap, hwrite]
  exact hused

theorem Holds.head (h : Holds l p)
    (hocc : ∀ x ∈ l, x.ulIsOccupied = true) (hle : SMBUS_MAX_CIRCULAR_LOG_ENTRIES ≤ l.length) :
    (p.vLogDisplayLog.map Prod.snd).head? = l.getLast? := by
  have hN := two_le_entries
  have hne : l ≠ [] := List.ne_nil_of_length_pos (by omega)
  have hlast := List.getLast?_eq_some_getLast hne
  have hwrite : p.ulWrite = SMBUS_MAX_CIRCULAR_LOG_ENTRIES - 1 := h.write.trans (by omega)
  have hslot := h.last _ hlast hle
  unfold vLogDisplayLog
  rw [hwrite, show SMBUS_MAX_CIRCULAR_LOG_ENTRIES - (SMBUS_MAX_CIRCULAR_LOG_ENTRIES - 1) = 1 by omega,
    hlast]
  simp [line, hslot, hocc _ (List.getLast_mem hne)]

/-- A profile without debug messages, and a call that it logs. -/
def quiet : SMBusProfile := ⟨0, 0, fun _ => ⟨false, 0, 0, 0, 0, .DEBUG⟩⟩

def callOf (ulInstance : UInt32) : Call := ⟨0, 0, ulInstance, .ERROR, 0, 0⟩

/-- `k + 1` calls, of which the last one comes from another instance. -/
def lastFromOther (k : ℕ) : List Call := List.replicate k (callOf 0) ++ [callOf 1]

theorem added_lastFromOther (k : ℕ) : quiet.added (lastFromOther k) =
    List.replicate k (callOf 0).record ++ [(callOf 1).record] := by
  simp [added, lastFromOther, callOf, quiet]

theorem lastFromOther_not_displayed {k : ℕ} (hk : SMBUS_MAX_CIRCULAR_LOG_ENTRIES ≤ k + 1) :
    ¬ quiet.Displayed (lastFromOther k) := by
  intro hdisplayed
  have hN := two_le_entries
  have hlen : (quiet.added (lastFromOther k)).length = k + 1 := by simp [added_lastFromOther]
  have hhead := (quiet.run_holds (lastFromOther k)).1.head (fun _ => added_occupied) (by omega)
  rw [hdisplayed, survivors, List.head?_drop, hlen, added_lastFromOther, List.getLast?_concat,
    List.getElem?_append_left (by rw [List.length_replicate]; omega),
    List.getElem?_replicate_of_lt (by omega)] at hhead
  exact absurd (Option.some.inj hhead) (by decide)

/-- **The log is printed as it was written exactly as long as it is not full.** -/
theorem displayed_iff (k : ℕ) :
    (∀ (p : SMBusProfile) (calls : List Call), (p.added calls).length = k → p.Displayed calls) ↔
      k < SMBUS_MAX_CIRCULAR_LOG_ENTRIES := by
  have hN := two_le_entries
  constructor
  · intro hall
    by_contra hfull
    obtain ⟨k, rfl⟩ := Nat.exists_eq_succ_of_ne_zero (by omega : k ≠ 0)
    exact lastFromOther_not_displayed (by omega)
      (hall quiet (lastFromOther k) (by simp [added_lastFromOther]))
  · intro hlt p calls hlen
    unfold Displayed survivors
    rw [(p.run_holds calls).1.display (fun _ => added_occupied) (by omega),
      Nat.sub_eq_zero_of_le (by omega), List.drop_zero]

/-- With its last slot in use, a log prints the newest entry first. -/
theorem not_displayed : ¬ ∀ (p : SMBusProfile) (calls : List Call), p.Displayed calls :=
  fun hall => lastFromOther_not_displayed (k := 4999) (by decide) (hall quiet (lastFromOther 4999))

end SMBusProfile

end Amr.Smbus.CircularLog
