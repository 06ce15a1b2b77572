/-
# What the calls on a queue report

`xGCQConsumeData` reports that there is no data, and `xGCQProduceData` that there is no free slot.
Each report is put beside the numbers of messages that were produced and returned at the read that
decides it: a consume call is right when it reports no data exactly when each message produced
before its last read of the queue's tail has been returned, a produce call when it reports a full
queue exactly when one message per slot is outstanding.

Before it looks for data a consumer reads the tails of both queues, and takes two registers of all
ones for a dead device. The counters run freely through that value, so a call is right unless it
reads it from both tails with a message outstanding (`OkStep`).
-/
import Amr.Gcq.ChannelSafety

namespace Amr.Gcq.Channel

open Transition WrapCounter

/-- What a consume call answers, once it has looked for data. -/
structure ConsumeReport where
  noData : Bool
  /-- Messages produced before the call's last read of the tail. -/
  produced : ℕ
  /-- Messages returned before the call. -/
  returned : ℕ
  deriving DecidableEq

/-- What a produce call answers, once it has looked for a free slot. -/
structure ProduceReport where
  full : Bool
  produced : ℕ
  returned : ℕ
  deriving DecidableEq

structure Watch where
  /-- Messages produced before the check for a dead device last read this queue's tail. -/
  seen : ℕ
  consumes : List ConsumeReport
  produces : List ProduceReport

/-- No data means that nothing is outstanding. -/
def ConsumeReport.Right (r : ConsumeReport) : Prop := r.noData = true ↔ r.produced ≤ r.returned

/-- No free slot means that a message per slot is outstanding. -/
def ProduceReport.Right (n : UInt32) (r : ProduceReport) : Prop :=
  r.full = true ↔ r.produced = r.returned + n.toNat

instance (r : ConsumeReport) : Decidable r.Right := by
  unfold ConsumeReport.Right
  infer_instance

/-- Messages produced before the read of this queue's tail, at the end of the check for a dead
device: the SQ tail was read an access earlier, the CQ tail is read now. -/
def Watch.seenBy (k : Watch) (q : Queue) (c : Chan) : ℕ :=
  if q = .cq then c.producer.produced.length else k.seen

/-- The report of a consume call that a step makes. -/
def consumeReport (q : Queue) (k : Watch) (c c' : Chan) : Act → Option ConsumeReport
  | .consumerAccess =>
    match c.consumer.pc, c'.consumer.pc with
    | .readCqTail _ _, .readTail _ => none
    | .readCqTail _ _, pc =>
      some ⟨decide (pc = .idle), k.seenBy q c, c.consumer.returned.length⟩
    | .readTail _, pc =>
      some ⟨decide (pc = .idle), c.producer.produced.length, c.consumer.returned.length⟩
    | _, _ => none
  | _ => none

/-- The report of a produce call that a step makes. -/
def produceReport (c c' : Chan) : Act → Option ProduceReport
  | .produce _ _ =>
    match c'.producer.pc with
    | .writing _ _ _ => some ⟨false, c.producer.produced.length, c.consumer.returned.length⟩
    | _ => none
  | .producerAccess =>
    match c.producer.pc with
    | .readConsumed _ => some ⟨decide (c'.producer.pc = .idle), c.producer.produced.length,
        c.consumer.returned.length⟩
    | _ => none
  | _ => none

/-- What is known of the tail after a step. -/
def Watch.seenAfter (k : Watch) (c : Chan) : Act → ℕ
  | .consumerAccess =>
    match c.consumer.pc with
    | .readSqTail _ => c.producer.produced.length
    | _ => k.seen
  | _ => k.seen

def Watch.after (k : Watch) (q : Queue) (c c' : Chan) (a : Act) : Watch where
  seen := k.seenAfter c a
  consumes := k.consumes ++ (consumeReport q k c c' a).toList
  produces := k.produces ++ (produceReport c c' a).toList

structure Watch.Right (n : UInt32) (k : Watch) : Prop where
  consumes : ∀ r ∈ k.consumes, r.Right
  produces : ∀ r ∈ k.produces, r.Right n

/-- The pair with the reports of the calls on either queue. -/
structure Watched where
  pair : Pair
  watch : Queue → Watch

/-- A pair on which no call has been made. -/
def Watched.start (pair : Pair) : Watched := ⟨pair, fun _ => ⟨0, [], []⟩⟩

/-- One step of the pair, with its report. -/
def watchedStep (w : Watched) (qa : Queue × Act) : Option Watched :=
  (step w.pair qa).map fun s =>
    { pair := s
      watch := Function.update w.watch qa.1
        ((w.watch qa.1).after qa.1 (w.pair.chan qa.1) (s.chan qa.1) qa.2) }

/-- A consumer takes the device for dead. -/
def TakesForDead (c : Chan) (ulCqTail : UInt32) : Act → Prop
  | .consumerAccess =>
    match c.consumer.pc with
    | .readCqTail _ ulSqTailPointer => ulSqTailPointer = 0xFFFFFFFF ∧ ulCqTail = 0xFFFFFFFF
    | _ => False
  | _ => False

/-- A step that does not read all ones from both tails with a message outstanding. -/
def OkStep (w : Watched) (qa : Queue × Act) : Prop :=
  TakesForDead (w.pair.chan qa.1) w.pair.cq.shared.tail qa.2 →
    (w.watch qa.1).seenBy qa.1 (w.pair.chan qa.1) ≤ (w.pair.chan qa.1).consumer.returned.length

instance (c : Chan) (t : UInt32) (a : Act) : Decidable (TakesForDead c t a) := by
  unfold TakesForDead
  split
  · split <;> infer_instance
  · infer_instance

instance (w : Watched) (qa : Queue × Act) : Decidable (OkStep w qa) := by
  unfold OkStep
  infer_instance

/-- Every report of either queue is right. -/
def Watched.Right (n : UInt32) (w : Watched) : Prop := ∀ q, (w.watch q).Right n

/-! ### One step of a queue -/

section

variable {n base : UInt32} {c c' : Chan} {q : Queue} {k : Watch}

/-- Between the reads of the two tails, the cached tail is not ahead of what was produced at the
first. -/
def SeenInv (base : UInt32) (c : Chan) (k : Watch) : Prop :=
  match c.consumer.pc with
  | .readCqTail _ _ => ConsumerBehind base c.consumer.ring c.consumer.returned.length k.seen ∧
      k.seen ≤ c.producer.produced.length
  | _ => True

theorem produceCall_consumer {data : ℕ → UInt32} {len : UInt32}
    (hstep : produceCall c data len = some c') : c'.consumer = c.consumer := by
  unfold Channel.produceCall at hstep
  split at hstep
  · split_ifs at hstep <;> obtain rfl := Option.some.inj hstep <;> rfl
  · cases hstep

theorem producerAccess_consumer (hstep : producerAccess c = some c') :
    c'.consumer = c.consumer := by
  unfold Channel.producerAccess at hstep
  split at hstep
  · obtain rfl := Option.some.inj hstep
    rfl
  · obtain rfl := Option.some.inj hstep
    rfl
  · cases hstep
  · simp only at hstep
    split_ifs at hstep <;> obtain rfl := Option.some.inj hstep <;> rfl
  · split at hstep <;> obtain rfl := Option.some.inj hstep <;> rfl

variable {sqTail cqTail : UInt32}

theorem produced_le_of_step {a : Act}
    (hstep : chanStep sqTail cqTail c a = some c') :
    c.producer.produced.length ≤ c'.producer.produced.length := by
  rcases chanStep_logs hstep with ⟨hp, -⟩ | ⟨msg, -, -, -, hp, -⟩ | ⟨-, -, -, -, hp, -⟩ <;> rw [hp]
  rw [List.length_append]
  exact Nat.le_add_right _ _

theorem SeenInv.producer_moves (h : SeenInv base c k) (hcons : c'.consumer = c.consumer)
    (hle : c.producer.produced.length ≤ c'.producer.produced.length) : SeenInv base c' k := by
  unfold SeenInv at h ⊢
  rw [hcons]
  split at h
  · exact ⟨h.1, h.2.trans hle⟩
  · trivial

theorem SeenInv.step {a : Act} (hinv : ChanInv n base c)
    (h : SeenInv base c k) (hstep : chanStep sqTail cqTail c a = some c') :
    SeenInv base c' (k.after q c c' a) := by
  have hle := produced_le_of_step hstep
  cases a with
  | produce data len => exact h.producer_moves (produceCall_consumer hstep) hle
  | producerAccess => exact h.producer_moves (producerAccess_consumer hstep) hle
  | consume len =>
    simp only [chanStep, Channel.consumeCall] at hstep
    split at hstep
    · rename_i hpc
      split_ifs at hstep <;> obtain rfl := Option.some.inj hstep
      · simp only [SeenInv, hpc]
      · trivial
    · cases hstep
  | consumerAccess =>
    have hcons := hinv.consumer
    simp only [chanStep, Channel.consumerAccess] at hstep
    split at hstep <;> rename_i hpc <;> simp only [ConsumerInv, hpc] at hcons
    · obtain rfl := Option.some.inj hstep
      trivial
    · obtain rfl := Option.some.inj hstep
      trivial
    · cases hstep
    · -- the SQ tail is read: the cached tail is not ahead of what is produced now
      obtain rfl := Option.some.inj hstep
      simp only [SeenInv, Watch.after, Watch.seenAfter, hpc]
      exact ⟨hcons, le_rfl⟩
    · split_ifs at hstep <;> obtain rfl := Option.some.inj hstep <;> trivial
    · split_ifs at hstep <;> obtain rfl := Option.some.inj hstep <;> trivial
    · split_ifs at hstep <;> obtain rfl := Option.some.inj hstep <;> trivial

theorem ConsumerBehind.lt_of_not_empty {ring : GCQRing} {taken seen : ℕ}
    (h : ConsumerBehind base ring taken seen) (hlap : seen ≤ taken + n.toNat)
    (hempty : prvucGCQRingIsEmpty ring = false) : taken < seen := by
  obtain ⟨hc, p, hp, hpr, hle⟩ := h
  have hone := (isEmpty_iff hpr hc hle (hp.trans hlap)).mp hempty
  omega

/-- **A produce call reports a full queue exactly when one message per slot is outstanding.** -/
theorem produceReport_right {a : Act} (hinv : ChanInv n base c)
    (hstep : chanStep sqTail cqTail c a = some c') :
    ∀ r ∈ (produceReport c c' a).toList, r.Right n := by
  intro r hr
  have hprod := hinv.producer
  have hord := hinv.ordered
  cases a with
  | produce data len =>
    simp only [chanStep, Channel.produceCall] at hstep
    split at hstep <;> rename_i hpc
    · simp only [ProducerInv, hpc] at hprod
      split_ifs at hstep with hbad hfull <;> obtain rfl := Option.some.inj hstep
      · simp only [produceReport, hpc, Option.toList_none, List.not_mem_nil] at hr
      · -- the cached counters show a free slot
        obtain rfl : r = ⟨false, c.producer.produced.length, c.consumer.returned.length⟩ := by
          simpa [produceReport, Producer.claim] using hr
        obtain ⟨hp, seen, hseen, hc, hroom⟩ := hprod
        have hone := (isFull_iff hinv.producerSlots hp hc (hseen.trans hord) hroom).mp hfull
        have hne : c.producer.produced.length ≠ c.consumer.returned.length + n.toNat := by omega
        simp [ProduceReport.Right, hne]
      · simp only [produceReport, Option.toList_none, List.not_mem_nil] at hr
    · cases hstep
  | producerAccess =>
    simp only [chanStep, Channel.producerAccess] at hstep
    split at hstep <;> rename_i hpc
    case h_4 msg =>
      simp only [ProducerInv, hpc] at hprod
      have hroom := hprod.room
      have hfull : prvucGCQRingIsFull
          { c.producer.ring with ulRingConsumed := c.shared.consumed } = false ↔
            c.producer.produced.length + 1 ≤ c.consumer.returned.length + n.toNat :=
        isFull_iff hinv.producerSlots hprod.produced hinv.consumed hord hroom
      split_ifs at hstep with hnot <;> obtain rfl := Option.some.inj hstep
      · obtain rfl : r = ⟨false, c.producer.produced.length, c.consumer.returned.length⟩ := by
          simpa [produceReport, hpc, Producer.claim] using hr
        have hone := hfull.mp hnot
        have hne : c.producer.produced.length ≠ c.consumer.returned.length + n.toNat := by omega
        simp [ProduceReport.Right, hne]
      · obtain rfl : r = ⟨true, c.producer.produced.length, c.consumer.returned.length⟩ := by
          simpa [produceReport, hpc] using hr
        have hmany : ¬ c.producer.produced.length + 1 ≤ c.consumer.returned.length + n.toNat :=
          fun hone => hnot (hfull.mpr hone)
        have heq : c.producer.produced.length = c.consumer.returned.length + n.toNat := by omega
        simp [ProduceReport.Right, heq]
    all_goals simp only [produceReport, hpc, Option.toList_none, List.not_mem_nil] at hr
  | consume len => simp only [produceReport, Option.toList_none, List.not_mem_nil] at hr
  | consumerAccess => simp only [produceReport, Option.toList_none, List.not_mem_nil] at hr

/-- **A consume call is right unless it takes the device for dead with a message outstanding.** -/
theorem consumeReport_right_iff {a : Act} (hinv : ChanInv n base c)
    (hseen : SeenInv base c k) (hstep : chanStep sqTail cqTail c a = some c') :
    (∀ r ∈ (consumeReport q k c c' a).toList, r.Right) ↔
      (TakesForDead c cqTail a → k.seenBy q c ≤ c.consumer.returned.length) := by
  have hcons := hinv.consumer
  have hlap := hinv.producer.room
  cases a with
  | produce data len => simp [consumeReport, TakesForDead]
  | producerAccess => simp [consumeReport, TakesForDead]
  | consume len => simp [consumeReport, TakesForDead]
  | consumerAccess =>
    simp only [chanStep, Channel.consumerAccess] at hstep
    split at hstep <;> rename_i hpc
    case h_5 len ulSqTailPointer =>
      simp only [ConsumerInv, hpc] at hcons
      simp only [SeenInv, hpc] at hseen
      have hbehind : ConsumerBehind base c.consumer.ring c.consumer.returned.length
          (k.seenBy q c) ∧ k.seenBy q c ≤ c.producer.produced.length := by
        unfold Watch.seenBy
        split
        · exact ⟨hcons, le_rfl⟩
        · exact hseen
      split_ifs at hstep with hdead hempty <;> obtain rfl := Option.some.inj hstep
      · -- no data is reported, whatever is outstanding
        simp [consumeReport, hpc, TakesForDead, hdead, ConsumeReport.Right]
      · have hlt := hbehind.1.lt_of_not_empty (n := n) (hbehind.2.trans hlap) hempty
        simp [consumeReport, hpc, TakesForDead, hdead, ConsumeReport.Right, Consumer.take, hlt]
      · simp [consumeReport, hpc, TakesForDead, hdead]
    case h_6 len =>
      simp only [ConsumerInv, hpc] at hcons
      have hempty : prvucGCQRingIsEmpty
          { c.consumer.ring with ulRingProduced := c.shared.tail } = false ↔
            c.consumer.returned.length + 1 ≤ c.producer.produced.length :=
        isEmpty_iff hinv.tail hcons.consumed hinv.ordered hlap
      split_ifs at hstep with hnot <;> obtain rfl := Option.some.inj hstep
      · have hlt := hempty.mp hnot
        simp [consumeReport, hpc, TakesForDead, ConsumeReport.Right, Consumer.take]
        omega
      · have hge : c.producer.produced.length ≤ c.consumer.returned.length := by
          by_contra hlt
          exact hnot (hempty.mpr (by omega))
        simp [consumeReport, hpc, TakesForDead, ConsumeReport.Right, hge]
    all_goals simp [consumeReport, hpc, TakesForDead]

end

/-! ### Runs -/

section

variable {n : UInt32} {i : ℕ} {base : Queue → UInt32} {w w' : Watched}

def WatchedInv (n : UInt32) (base : Queue → UInt32) (w : Watched) : Prop :=
  ∀ q, ChanInv n (base q) (w.pair.chan q) ∧ SeenInv (base q) (w.pair.chan q) (w.watch q)

theorem watchedStep_cases {q : Queue} {a : Act} (hstep : watchedStep w (q, a) = some w') :
    chanStep w.pair.sq.shared.tail w.pair.cq.shared.tail (w.pair.chan q) a =
        some (w'.pair.chan q) ∧
      w'.watch q = (w.watch q).after q (w.pair.chan q) (w'.pair.chan q) a ∧
      ∀ p, p ≠ q → w'.pair.chan p = w.pair.chan p ∧ w'.watch p = w.watch p := by
  obtain ⟨s, hs, rfl⟩ := Option.map_eq_some_iff.mp hstep
  cases q <;> obtain ⟨c, hc, rfl⟩ := Option.map_eq_some_iff.mp hs
  · refine ⟨hc, by simp only [Function.update_self], fun p hp => ?_⟩
    cases p
    · exact absurd rfl hp
    · exact ⟨rfl, by simp only [Function.update_of_ne hp]⟩
  · refine ⟨hc, by simp only [Function.update_self], fun p hp => ?_⟩
    cases p
    · exact ⟨rfl, by simp only [Function.update_of_ne hp]⟩
    · exact absurd rfl hp

theorem WatchedInv.step (hn : n.toNat = 2 ^ i) {qa : Queue × Act} (h : WatchedInv n base w)
    (hstep : watchedStep w qa = some w') : WatchedInv n base w' := by
  obtain ⟨q, a⟩ := qa
  obtain ⟨hc, hwatch, hothers⟩ := watchedStep_cases hstep
  intro p
  by_cases hp : p = q
  · subst hp
    rw [hwatch]
    exact ⟨(h p).1.step hn hc, (h p).2.step (h p).1 hc⟩
  · rw [(hothers p hp).1, (hothers p hp).2]
    exact h p

theorem Watch.right_after {k : Watch} {q : Queue} {c c' : Chan} {a : Act} :
    (k.after q c c' a).Right n ↔ k.Right n ∧ (∀ r ∈ (consumeReport q k c c' a).toList, r.Right) ∧
      ∀ r ∈ (produceReport c c' a).toList, r.Right n := by
  constructor
  · rintro ⟨hcons, hprod⟩
    exact ⟨⟨fun r hr => hcons r (List.mem_append_left _ hr),
        fun r hr => hprod r (List.mem_append_left _ hr)⟩,
      fun r hr => hcons r (List.mem_append_right _ hr),
      fun r hr => hprod r (List.mem_append_right _ hr)⟩
  · rintro ⟨⟨hcons, hprod⟩, hcons', hprod'⟩
    exact ⟨fun r hr => (List.mem_append.mp hr).elim (hcons r) (hcons' r),
      fun r hr => (List.mem_append.mp hr).elim (hprod r) (hprod' r)⟩

theorem right_step_iff {qa : Queue × Act} (h : WatchedInv n base w)
    (hstep : watchedStep w qa = some w') : w'.Right n ↔ w.Right n ∧ OkStep w qa := by
  obtain ⟨q, a⟩ := qa
  obtain ⟨hc, hwatch, hothers⟩ := watchedStep_cases hstep
  have hconsume := consumeReport_right_iff (q := q) (h q).1 (h q).2 hc
  have hproduce := produceReport_right (h q).1 hc
  have hmoved : (w'.watch q).Right n ↔ (w.watch q).Right n ∧ OkStep w (q, a) := by
    rw [hwatch, Watch.right_after, hconsume]
    exact and_congr_right fun _ => and_iff_left hproduce
  constructor
  · intro hright
    refine ⟨fun p => ?_, (hmoved.mp (hright q)).2⟩
    by_cases hp : p = q
    · exact hp ▸ (hmoved.mp (hright q)).1
    · exact (hothers p hp).2 ▸ hright p
  · rintro ⟨hright, hok⟩ p
    by_cases hp : p = q
    · exact hp ▸ hmoved.mpr ⟨hright q, hok⟩
    · exact (hothers p hp).2.symm ▸ hright p

/-- **No false empty, and no false full.** In every run of the pair, of any interleaving and from
any start values of the counters, every report of a call is right exactly when no consume call of
the run takes the device for dead while a message is outstanding. -/
theorem reports_right_iff (hn : n.toNat = 2 ^ i) {pair : Pair}
    (h₀ : ∀ q, (pair.chan q).Initial n (base q)) {as : List (Queue × Act)}
    (hrun : run watchedStep (.start pair) as = some w) :
    w.Right n ↔ run (guarded watchedStep OkStep) (.start pair) as = some w := by
  have hstart : WatchedInv n base (.start pair) := fun q => by
    refine ⟨(h₀ q).inv, ?_⟩
    unfold SeenInv
    rcases (h₀ q).consumer with hpc | ⟨hpc, -⟩ <;> simp only [Watched.start, hpc]
  have hright : (Watched.start pair).Right n := fun q =>
    ⟨fun r hr => absurd hr List.not_mem_nil, fun r hr => absurd hr List.not_mem_nil⟩
  exact run_guarded_iff (I := WatchedInv n base) (fun _ _ _ h hstep => h.step hn hstep)
    (fun _ _ _ h hstep => right_step_iff h hstep) as hstart hright hrun

end

/-! ### Counters at all ones -/

/-- On the pair whose counters all start at all ones, with nothing outstanding. -/
theorem reports_right_at_exampleRun :
    ∃ w, run watchedStep (.start examplePair) exampleRun = some w ∧ w.Right 4 := by
  have hsome : (run (guarded watchedStep OkStep) (.start examplePair) exampleRun).isSome = true := by
    decide +kernel
  obtain ⟨w, hw⟩ := Option.isSome_iff_exists.mp hsome
  have hrun : run watchedStep (.start examplePair) exampleRun = some w := run_of_guarded _ hw
  have h₀ : ∀ q : Queue, (examplePair.chan q).Initial 4 ((fun _ => 0xFFFFFFFF) q) := by
    rintro (_ | _) <;> exact exampleChan_initial
  exact ⟨w, hrun, (reports_right_iff (i := 2) rfl h₀ hrun).mpr hw⟩

/-- A queue whose counters are one message away from all ones. -/
def nearChan : Chan :=
  let ring := { exampleRing with ulRingProduced := 0xFFFFFFFE, ulRingConsumed := 0xFFFFFFFE }
  { shared := ⟨0xFFFFFFFE, 0xFFFFFFFE, fun _ _ => 0⟩
    producer := ⟨ring, .idle, .none, []⟩
    consumer := ⟨ring, .idle, .none, []⟩ }

/-- The SQ is one message away from all ones, and the CQ is at all ones. -/
def nearPair : Pair := ⟨nearChan, exampleChan⟩

/-- The host sends a message, and the firmware looks for it. -/
def nearRun : List (Queue × Act) :=
  [(.sq, .produce (fun _ => 7) 4), (.sq, .producerAccess), (.sq, .producerAccess),
    (.sq, .consume 4), (.sq, .consumerAccess), (.sq, .consumerAccess)]

/-- The message brings the tail of the SQ to all ones, and the firmware reports no data. -/
theorem false_empty :
    (∀ q, (nearPair.chan q).Initial 4 (match q with | .sq => 0xFFFFFFFE | .cq => 0xFFFFFFFF)) ∧
      ∃ w, run watchedStep (.start nearPair) nearRun = some w ∧ ¬ w.Right 4 := by
  constructor
  · rintro (_ | _)
    · exact ⟨rfl, rfl, rfl, rfl, .inr ⟨rfl, rfl, rfl⟩, .inr ⟨rfl, rfl, rfl⟩, rfl, rfl⟩
    · exact exampleChan_initial
  · have hany : (run watchedStep (.start nearPair) nearRun).any
        (fun w => decide (⟨true, 1, 0⟩ ∈ (w.watch .sq).consumes)) = true := by decide +kernel
    obtain ⟨w, hw, hmem⟩ := (Option.any_eq_true _ _).mp hany
    refine ⟨w, hw, fun hright => ?_⟩
    have hbad := (hright .sq).consumes _ (of_decide_eq_true hmem)
    exact absurd (hbad.mp rfl) (by decide)

end Amr.Gcq.Channel
