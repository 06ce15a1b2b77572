/-
# Log messages are delivered

The local ring of the AMC and the ring in shared memory are both logs in rings (`RingLog`). Local
records are written from slot 1 on and sent from slot 0 on, so they are sent in their order as long
as the local ring has not wrapped, or has just been filled up to its last slot. The host reads from
the index that it has seen last, so it misses nothing as long as that index is not set back.
-/
import Amr.Log.Pll

namespace Amr.Log

open Transition

theorem pll_log_max_recs : PLL_LOG_MAX_RECS = 50 := rfl

theorem pll_log_max_recs_pos : 0 < PLL_LOG_MAX_RECS := by decide

/-! ### Entries -/

theorem trim_trim (pcBuf : List UInt8) : trim (trim pcBuf) = trim pcBuf := by
  have hlen : (trim pcBuf).length ≤ PLL_LOG_ENTRY_SIZE :=
    (List.takeWhile_sublist _).length_le.trans (List.length_take_le _ _)
  have htake : (trim pcBuf).take PLL_LOG_ENTRY_SIZE = trim pcBuf := List.take_of_length_le hlen
  conv_lhs => rw [trim, htake]
  refine List.takeWhile_eq_self_iff.mpr fun c hc => ?_
  exact List.mem_takeWhile_imp (p := fun c => !newline c) hc

theorem ne_nil_of_shown {e : Entry} (h : shown e = true) : e ≠ [] := by
  simp only [shown, Bool.and_eq_true, decide_eq_true_eq] at h
  exact h.2

variable {l : List Entry}

theorem filter_ne_nil (h : ∀ e ∈ l, shown e = true) :
    l.filter (fun e => decide (e ≠ [])) = l :=
  List.filter_eq_self.mpr fun e he => decide_eq_true (ne_nil_of_shown (h e he))

/-! ### The local records -/

/-- The local ring before the first message. -/
def blank : RingLog PLL_LOG_MAX_RECS Entry := ⟨fun _ => [], 1⟩

/-- The entries of the local slots that are not empty, in the order of the slots. -/
def records (slot : ℕ → Entry) (i : ℕ) : List Entry :=
  ((List.range i).map slot).filter fun e => decide (e ≠ [])

theorem records_of_lt (hl : ∀ e ∈ l, shown e = true)
    (hlt : l.length < PLL_LOG_MAX_RECS) :
    records (blank.addAll l).slot PLL_LOG_MAX_RECS = l := by
  have hnext : blank.next < PLL_LOG_MAX_RECS := by decide
  rw [pll_log_max_recs] at hlt
  have hempty : ∀ i, i < 50 → i < 1 ∨ 1 + l.length ≤ i → (blank.addAll l).slot i = [] :=
    fun i hi hout => RingLog.addAll_slot_of_not_written l blank
      (by simp only [blank, pll_log_max_recs]; omega) i hi hout
  -- the slots from 1 on have the messages
  have hlast := RingLog.last_addAll blank hnext l l.length hlt.le le_rfl
  rw [Nat.sub_self, List.drop_zero] at hlast
  have hslots : (List.range l.length).map (fun j => (blank.addAll l).slot (1 + j)) = l := by
    refine Eq.trans (List.map_congr_left fun j hj => congrArg _ ?_) hlast
    have hj : j < l.length := List.mem_range.mp hj
    rw [RingLog.addAll_next blank hnext l]
    simp only [blank, pll_log_max_recs]
    omega
  have hsplit : List.range PLL_LOG_MAX_RECS =
      List.range 1 ++ ((List.range l.length).map (1 + ·) ++
        (List.range (49 - l.length)).map (fun j => 1 + (l.length + j))) := by
    have h50 : PLL_LOG_MAX_RECS = 1 + (l.length + (49 - l.length)) := by
      rw [pll_log_max_recs]
      omega
    rw [h50, List.range_add, List.range_add, List.map_append, List.map_map]
    rfl
  have hrest : ∀ e ∈ ((List.range (49 - l.length)).map fun j => 1 + (l.length + j)).map
      (blank.addAll l).slot, ¬ decide (e ≠ []) = true := by
    intro e he
    obtain ⟨i, hi, rfl⟩ := List.mem_map.mp he
    obtain ⟨j, hj, rfl⟩ := List.mem_map.mp hi
    have hj : j < 49 - l.length := List.mem_range.mp hj
    simp [hempty (1 + (l.length + j)) (by omega) (by omega)]
  have hzero : (blank.addAll l).slot 0 = [] := hempty 0 (by omega) (by omega)
  unfold records
  rw [hsplit, List.map_append, List.map_append, List.filter_append, List.filter_append,
    List.filter_eq_nil_iff.mpr hrest, List.map_map, List.append_nil]
  have hmiddle : (List.range l.length).map ((blank.addAll l).slot ∘ (1 + ·)) = l := hslots
  rw [hmiddle, filter_ne_nil hl]
  simp [hzero]

theorem records_of_full (hl : ∀ e ∈ l, shown e = true)
    (hge : PLL_LOG_MAX_RECS ≤ l.length) (hfull : l.length % PLL_LOG_MAX_RECS = PLL_LOG_MAX_RECS - 1) :
    records (blank.addAll l).slot PLL_LOG_MAX_RECS =
      l.drop (l.length - PLL_LOG_MAX_RECS) := by
  have hnext : blank.next < PLL_LOG_MAX_RECS := by decide
  have hlast := RingLog.last_addAll blank hnext l PLL_LOG_MAX_RECS le_rfl hge
  have hwrapped : (blank.addAll l).next = 0 := by
    rw [RingLog.addAll_next blank hnext l]
    simp only [blank, pll_log_max_recs] at hfull ⊢
    omega
  have hslots : (List.range PLL_LOG_MAX_RECS).map (blank.addAll l).slot =
      l.drop (l.length - PLL_LOG_MAX_RECS) := by
    refine Eq.trans (List.map_congr_left fun j hj => congrArg _ ?_) hlast
    have hj : j < PLL_LOG_MAX_RECS := List.mem_range.mp hj
    rw [hwrapped, Nat.sub_self, Nat.add_zero, Nat.zero_add, Nat.mod_eq_of_lt hj]
  unfold records
  rw [hslots]
  exact filter_ne_nil fun e he => hl e (List.mem_of_mem_drop he)

/-! ### A run -/

/-- What holds of a call of `iPLL_SendBootRecords` under way. -/
structure SendingInv (s : Logs) (x : Sending) : Prop where
  ready : s.iIsLogReady = true
  order : InOrder s
  fsbl : ∀ line ∈ x.fsbl, shown (trim line) = true
  first : x.fsbl ≠ [] → x.i = 0
  bound : x.i ≤ PLL_LOG_MAX_RECS
  placed : x.placed = records s.pcBootLogs x.i
  ring : x.undisturbed = true → ∃ base : RingLog PLL_LOG_MAX_RECS Entry,
    base.next < PLL_LOG_MAX_RECS ∧ s.xLogMsg = base.addAll x.placed

structure Inv (s : Logs) : Prop where
  boot : ∃ r : RingLog PLL_LOG_MAX_RECS Entry, r = blank.addAll s.booted ∧
    s.pcBootLogs = r.slot ∧ (s.iBootLogIndex + 1) % PLL_LOG_MAX_RECS = r.next
  booted : ∀ e ∈ s.booted, shown e = true ∧ trim e = e
  ring : ∃ base : RingLog PLL_LOG_MAX_RECS Entry, base.next = s.last_printed_msg_index ∧
    base.next < PLL_LOG_MAX_RECS ∧ s.xLogMsg = base.addAll s.unread
  unread : ∀ e ∈ s.unread, shown e = true
  sending : ∀ x, s.sending = some x → SendingInv s x
  delivered : Delivered s

namespace Inv

variable {s : Logs}

theorem start (slot : ℕ → Entry) : Inv (.start slot) where
  boot := ⟨blank, rfl, rfl, rfl⟩
  booted _ h := absurd h List.not_mem_nil
  ring := ⟨⟨slot, 0⟩, rfl, pll_log_max_recs_pos, rfl⟩
  unread _ h := absurd h List.not_mem_nil
  sending _ h := nomatch h
  delivered := ⟨fun _ h => absurd h List.not_mem_nil, fun _ h => absurd h List.not_mem_nil⟩

theorem next_lt (h : Inv s) : s.xLogMsg.next < PLL_LOG_MAX_RECS := by
  obtain ⟨base, -, hlt, hring⟩ := h.ring
  rw [hring]
  exact RingLog.addAll_next_lt base hlt s.unread

theorem pcBootLogs_mem (h : Inv s) (i : ℕ) : s.pcBootLogs i = [] ∨ s.pcBootLogs i ∈ s.booted := by
  obtain ⟨r, rfl, hslot, -⟩ := h.boot
  rw [hslot]
  exact RingLog.addAll_slot blank s.booted i

theorem records_eq_survivors (h : Inv s) (horder : InOrder s) :
    records s.pcBootLogs PLL_LOG_MAX_RECS = s.survivors := by
  obtain ⟨r, rfl, hslot, -⟩ := h.boot
  have hshown : ∀ e ∈ s.booted, shown e = true := fun e he => (h.booted e he).1
  rw [hslot]
  unfold Logs.survivors
  rcases Nat.lt_or_ge s.booted.length PLL_LOG_MAX_RECS with hlt | hge
  · rw [Nat.sub_eq_zero_of_le hlt.le, List.drop_zero]
    exact records_of_lt hshown hlt
  · rcases horder with hlt | hfull
    · exact absurd hlt (not_lt.mpr hge)
    · exact records_of_full hshown hge hfull

theorem share_ring (h : Inv s) (pcBuf : List UInt8) :
    ∃ base : RingLog PLL_LOG_MAX_RECS Entry, base.next = s.last_printed_msg_index ∧
      base.next < PLL_LOG_MAX_RECS ∧
      (s.share pcBuf).xLogMsg = base.addAll (s.share pcBuf).unread := by
  obtain ⟨base, hlast, hlt, hring⟩ := h.ring
  refine ⟨base, hlast, hlt, ?_⟩
  simp only [Logs.share]
  rw [RingLog.addAll_concat, ← hring]

theorem share_unread (h : Inv s) {pcBuf : List UInt8} (hshown : shown (trim pcBuf) = true) :
    ∀ e ∈ (s.share pcBuf).unread, shown e = true := by
  intro e he
  rcases List.mem_append.mp he with he | he
  · exact h.unread e he
  · obtain rfl := List.mem_singleton.mp he
    exact hshown

theorem disturbed (h : Inv s) (s' : Logs) (hready : s'.iIsLogReady = s.iIsLogReady)
    (hbooted : s'.booted = s.booted) (hslots : s'.pcBootLogs = s.pcBootLogs)
    (hnext : s'.xLogMsg.next < PLL_LOG_MAX_RECS) {x : Sending} (hx : s.sending = some x) :
    SendingInv s' x.disturb := by
  obtain ⟨hr, horder, hfsbl, hfirst, hbound, hplaced, -⟩ := h.sending x hx
  refine ⟨hready.trans hr, ?_, hfsbl, hfirst, hbound, ?_, fun hundisturbed => ?_⟩
  · unfold InOrder
    rw [hbooted]
    exact horder
  · rw [hslots]
    exact hplaced
  · simp only [Sending.disturb, Bool.and_eq_true, List.isEmpty_iff] at hundisturbed
    refine ⟨s'.xLogMsg, hnext, ?_⟩
    change s'.xLogMsg = s'.xLogMsg.addAll x.placed
    rw [hundisturbed.2, RingLog.addAll_nil]

theorem share_next_lt (s : Logs) (pcBuf : List UInt8) :
    (s.share pcBuf).xLogMsg.next < PLL_LOG_MAX_RECS :=
  Nat.mod_lt _ (by decide)

theorem collect (h : Inv s) {pcBuf : List UInt8} (hok : shown (trim pcBuf) = true) :
    Inv (s.iLogCollect pcBuf).disturb := by
  unfold Logs.iLogCollect
  split_ifs with hready
  · refine ⟨h.boot, h.booted, h.share_ring pcBuf, h.share_unread hok, fun x hx => ?_,
      ⟨h.delivered.sends, h.delivered.polls⟩⟩
    obtain ⟨y, hy, rfl⟩ := Option.map_eq_some_iff.mp hx
    exact h.disturbed (s.share pcBuf).disturb rfl rfl rfl (share_next_lt s pcBuf) hy
  · have hnone : s.sending = none := by
      rcases hsending : s.sending with _ | x
      · rfl
      · exact absurd (h.sending x hsending).ready hready
    obtain ⟨r, hr, hslots, hnext⟩ := h.boot
    refine ⟨⟨r.add (trim pcBuf), ?_, ?_, ?_⟩, ?_, h.ring, h.unread, fun x hx => ?_,
      ⟨h.delivered.sends, h.delivered.polls⟩⟩
    · simp only [Logs.disturb, Logs.keep]
      rw [RingLog.addAll_concat, hr]
    · simp only [Logs.disturb, Logs.keep, RingLog.add]
      rw [hslots, hnext]
    · simp only [Logs.disturb, Logs.keep, RingLog.add]
      rw [hnext]
    · intro e he
      rcases List.mem_append.mp he with he | he
      · exact h.booted e he
      · obtain rfl := List.mem_singleton.mp he
        exact ⟨hok, trim_trim pcBuf⟩
    · have hx : s.sending.map Sending.disturb = some x := hx
      rw [hnone] at hx
      cases hx

theorem identity (h : Inv s) {fsbl : List (List UInt8)} (hok : Ok s (.identity fsbl)) :
    Inv (s.restart fsbl) := by
  obtain ⟨hzero, horder, hfsbl⟩ := hok
  -- the index is 0 already
  have hsame : (⟨s.xLogMsg.slot, 0⟩ : RingLog PLL_LOG_MAX_RECS Entry) = s.xLogMsg := by
    rw [← hzero]
  refine ⟨h.boot, h.booted, ?_, h.unread, fun x hx => ?_,
    ⟨h.delivered.sends, h.delivered.polls⟩⟩
  · obtain ⟨base, hlast, hlt, hring⟩ := h.ring
    exact ⟨base, hlast, hlt, hsame.trans hring⟩
  · obtain rfl := Option.some.inj hx
    exact ⟨rfl, horder, hfsbl, fun _ => rfl, Nat.zero_le _, rfl,
      fun _ => ⟨⟨s.xLogMsg.slot, 0⟩, pll_log_max_recs_pos, rfl⟩⟩

theorem records_succ (slot : ℕ → Entry) (i : ℕ) :
    records slot (i + 1) = records slot i ++ if slot i ≠ [] then [slot i] else [] := by
  unfold records
  rw [List.range_succ, List.map_append, List.filter_append, List.map_singleton]
  by_cases hslot : slot i = [] <;> simp [hslot]

theorem sendNext (h : Inv s) {x : Sending} (hx : s.sending = some x) : Inv (s.sendNext x) := by
  obtain ⟨hready, horder, hfsbl, hfirst, hbound, hplaced, hring⟩ := h.sending x hx
  unfold Logs.sendNext
  rcases hlines : x.fsbl with _ | ⟨line, rest⟩
  · dsimp only
    split_ifs with hi hrecord
    · -- the next local record
      have hcollect : s.iLogCollect (s.pcBootLogs x.i) = s.share (s.pcBootLogs x.i) :=
        if_pos hready
      obtain ⟨hshown, htrim⟩ : shown (s.pcBootLogs x.i) = true ∧
          trim (s.pcBootLogs x.i) = s.pcBootLogs x.i := by
        rcases h.pcBootLogs_mem x.i with hempty | hmem
        · exact absurd hempty hrecord
        · exact h.booted _ hmem
      rw [hcollect]
      refine ⟨h.boot, h.booted, h.share_ring _, h.share_unread (by rw [htrim]; exact hshown),
        fun y hy => ?_, ⟨h.delivered.sends, h.delivered.polls⟩⟩
      obtain rfl := Option.some.inj hy
      refine ⟨hready, horder, fun _ hl => absurd hl List.not_mem_nil, fun hne => absurd rfl hne, hi, ?_, fun hundisturbed => ?_⟩
      · change x.placed ++ [trim (s.pcBootLogs x.i)] = records s.pcBootLogs (x.i + 1)
        rw [records_succ, if_pos hrecord, htrim, hplaced]
      · obtain ⟨base, hlt, hbase⟩ := hring hundisturbed
        refine ⟨base, hlt, ?_⟩
        change s.xLogMsg.add _ = base.addAll (x.placed ++ _)
        rw [RingLog.addAll_concat, ← hbase]
    · -- an empty slot
      refine ⟨h.boot, h.booted, h.ring, h.unread, fun y hy => ?_,
        ⟨h.delivered.sends, h.delivered.polls⟩⟩
      obtain rfl := Option.some.inj hy
      refine ⟨hready, horder, fun _ hl => absurd hl List.not_mem_nil, fun hne => absurd rfl hne, hi, ?_, hring⟩
      change x.placed = records s.pcBootLogs (x.i + 1)
      rw [records_succ, if_neg hrecord, List.append_nil, hplaced]
    · -- all slots have been looked at
      have hall : x.placed = s.survivors := by
        rw [hplaced, Nat.le_antisymm hbound (not_lt.mp hi)]
        exact h.records_eq_survivors horder
      refine ⟨h.boot, h.booted, h.ring, h.unread, (fun y hy => by cases hy), ⟨fun r hr => ?_,
        h.delivered.polls⟩⟩
      rcases List.mem_append.mp hr with hr | hr
      · exact h.delivered.sends r hr
      · obtain rfl := List.mem_singleton.mp hr
        refine ⟨hall, fun hundisturbed => ?_⟩
        obtain ⟨base, hlt, hbase⟩ := hring hundisturbed
        have hlength : x.placed.length ≤ PLL_LOG_MAX_RECS := by
          rw [hplaced]
          calc (records s.pcBootLogs x.i).length
            _ ≤ ((List.range x.i).map s.pcBootLogs).length := List.length_filter_le ..
            _ ≤ PLL_LOG_MAX_RECS := by simpa using hbound
        change s.xLogMsg.last x.placed.length = s.survivors
        rw [hbase, RingLog.last_addAll base hlt x.placed _ hlength le_rfl, Nat.sub_self,
          List.drop_zero, hall]
  · -- a record of the first stage boot loader
    have hcollect : s.iLogCollect line = s.share line := if_pos hready
    have hshown : shown (trim line) = true := hfsbl line (by rw [hlines]; exact List.mem_cons_self)
    dsimp only
    rw [hcollect]
    refine ⟨h.boot, h.booted, h.share_ring line, h.share_unread hshown, fun y hy => ?_,
      ⟨h.delivered.sends, h.delivered.polls⟩⟩
    obtain rfl := Option.some.inj hy
    have hzero : x.i = 0 := hfirst (by rw [hlines]; exact List.cons_ne_nil _ _)
    have hnone : x.placed = [] := by
      rw [hplaced, hzero]
      rfl
    refine ⟨hready, horder, fun line' hline' => ?_, fun _ => hzero, hbound, hplaced, fun _ => ?_⟩
    · exact hfsbl line' (by rw [hlines]; exact List.mem_cons_of_mem _ hline')
    · refine ⟨(s.share line).xLogMsg, share_next_lt s line, ?_⟩
      change (s.share line).xLogMsg = (s.share line).xLogMsg.addAll x.placed
      rw [hnone, RingLog.addAll_nil]

theorem poll (h : Inv s) : Inv s.dump_amc_log := by
  have hlt := h.next_lt
  unfold Logs.dump_amc_log
  have hmax : ¬ AMC_LOG_MAX_RECS < s.xLogMsg.next := not_lt.mpr (le_of_lt hlt)
  rw [if_neg hmax]
  refine ⟨h.boot, h.booted, ⟨s.xLogMsg, rfl, hlt, rfl⟩, fun e he => absurd he List.not_mem_nil,
    fun x hx => ?_, ⟨h.delivered.sends, fun r hr hfew => ?_⟩⟩
  · obtain ⟨hready, horder, hfsbl, hfirst, hbound, hplaced, hring⟩ := h.sending x hx
    exact ⟨hready, horder, hfsbl, hfirst, hbound, hplaced, hring⟩
  · rcases List.mem_append.mp hr with hr | hr
    · exact h.delivered.polls r hr hfew
    · obtain rfl := List.mem_singleton.mp hr
      obtain ⟨base, hlast, hbase, hring⟩ := h.ring
      have hdumped : s.dumped = some s.unread := by
        unfold Logs.dumped
        rw [hring, ← hlast]
        exact RingLog.read_addAll base hbase hfew le_rfl
      change s.dumped.map _ = some s.unread
      rw [hdumped, Option.map_some, List.filter_eq_self.mpr h.unread]

theorem attach (h : Inv s) : Inv s.attach.disturb := by
  refine ⟨h.boot, h.booted, ⟨⟨fun _ => [], 0⟩, rfl, pll_log_max_recs_pos, rfl⟩,
    fun e he => absurd he List.not_mem_nil, fun x hx => ?_,
    ⟨h.delivered.sends, h.delivered.polls⟩⟩
  obtain ⟨y, hy, rfl⟩ := Option.map_eq_some_iff.mp hx
  exact h.disturbed s.attach.disturb rfl rfl rfl pll_log_max_recs_pos hy

theorem step {s s' : Logs} {a : Action} (h : Inv s) (hok : Ok s a) (hs : step s a = some s') :
    Inv s' := by
  cases a with
  | collect pcBuf =>
    obtain rfl := Option.some.inj hs
    exact h.collect hok
  | identity fsbl =>
    simp only [Log.step] at hs
    split_ifs at hs
    obtain rfl := Option.some.inj hs
    exact h.identity hok
  | send =>
    obtain ⟨x, hx, rfl⟩ := Option.map_eq_some_iff.mp hs
    exact h.sendNext hx
  | poll =>
    obtain rfl := Option.some.inj hs
    exact h.poll
  | attach =>
    obtain rfl := Option.some.inj hs
    exact h.attach

end Inv

/-- In every run whose steps meet the condition, each call of `iPLL_SendBootRecords` places the
surviving messages in their order, and each poll prints the messages that came since the one before,
if they are fewer than the ring has slots. -/
theorem log_delivery (slot : ℕ → Entry) {s : Logs} (hs : Reaches step Ok (.start slot) s) :
    Delivered s :=
  (hs.invariant Inv (.start slot) fun _ _ _ h hok hstep => h.step hok hstep).delivered

/-- A message of one character with its end of line. -/
def message (c : UInt8) : Action := .collect [c, 13, 10]

/-- Two messages are kept and sent, one more follows, and the host prints all three. -/
theorem log_delivery_three :
    ∃ s : Logs, (s.polls.map (·.printed) = [some [[65], [66], [67]]] ∧ s.sends.length = 1) ∧
      Delivered s := by
  have hrun : (run (guarded step Ok) (.start fun _ => [])
      ([message 65, message 66, .identity []] ++ List.replicate 51 .send ++
        [message 67, .poll])).any (fun s =>
      decide (s.polls.map (·.printed) = [some [[65], [66], [67]]] ∧ s.sends.length = 1)) = true := by
    decide +kernel
  obtain ⟨s, hs, hfinal⟩ := (Option.any_eq_true _ _).mp hrun
  exact ⟨s, of_decide_eq_true hfinal,
    log_delivery (fun _ => []) (Reaches.of_guarded_run _ .start hs)⟩

/-- The local ring is filled once: the last message is in slot 0, and is sent first. -/
theorem boot_records_rotated :
    ¬ ∀ s, Reaches step always (.start fun _ => []) s → Delivered s := by
  intro hall
  have hrun : (run step (.start fun _ => [])
      ((List.range 50).map (fun j => message (UInt8.ofNat (65 + j))) ++
        .identity [] :: List.replicate 51 .send)).any (fun s =>
      decide (∃ r ∈ s.sends, r.placed ≠ r.survivors)) = true := by
    decide +kernel
  obtain ⟨s, hs, hwrong⟩ := (Option.any_eq_true _ _).mp hrun
  obtain ⟨r, hr, hne⟩ := of_decide_eq_true hwrong
  exact hne ((hall s (.of_run hs)).sends r hr).1

end Amr.Log
