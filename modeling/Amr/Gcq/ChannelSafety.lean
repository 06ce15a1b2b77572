/-
# Safety of a queue under every interleaving

`P` messages have been produced and `R` returned; neither number wraps. The tail register shows
`P` and the consumed counter `R`, as 32-bit counters from the common start value `base`. The
producer's cached consumed counter shows some earlier `r ≤ R`, and what it has claimed stays
within `r + n`; the consumer's cached tail shows some earlier `p ≤ P`, and what it has taken stays
within `p`. So a stale cache only makes a side more careful, the slot being written is never that
of an outstanding message, and the slot being read holds the oldest one.

`ChanInv` states this, one lemma per kind of step keeps it, and `pair_refines` maps every run of
the pair to two bounded first-in first-out channels.
-/
import Amr.Lib.BoundedFifo
import Amr.Gcq.Channel

namespace Amr.Gcq.Channel

open Transition WrapCounter

/-! ### The invariant -/

/-- Two messages agree on every word that both have. -/
def Agree (got sent : Msg) : Prop :=
  ∀ (w : ℕ) (x y : UInt32), got[w]? = some x → sent[w]? = some y → x = y

def Holds (slot : ℕ → UInt32) (msg : Msg) : Prop :=
  ∀ (w : ℕ) (x : UInt32), msg[w]? = some x → slot w = x

/-- The slot of message number `j`. -/
def slotAt (n base : UInt32) (j : ℕ) : ℕ := (ctr base j &&& (n - 1)).toNat

/-- A producer's cached counters when `claimed` slots are claimed and `R` messages returned. -/
structure ProducerAhead (n base : UInt32) (ring : GCQRing) (claimed R : ℕ) : Prop where
  produced : ring.ulRingProduced = ctr base claimed
  consumed : ∃ r, r ≤ R ∧ ring.ulRingConsumed = ctr base r ∧ claimed ≤ r + n.toNat

/-- A consumer's cached counters when `taken` slots are taken and `P` messages produced. -/
structure ConsumerBehind (base : UInt32) (ring : GCQRing) (taken P : ℕ) : Prop where
  consumed : ring.ulRingConsumed = ctr base taken
  produced : ∃ p, p ≤ P ∧ ring.ulRingProduced = ctr base p ∧ taken ≤ p

/-- The producing side, in each place of its program. -/
def ProducerInv (n base : UInt32) (p : Producer) (slots : ℕ → ℕ → UInt32) (R : ℕ) : Prop :=
  match p.pc with
  | .detached => p.produced.length ≤ R + n.toNat
  | .attaching => p.ring.ulRingProduced = ctr base p.produced.length ∧
      p.produced.length ≤ R + n.toNat
  | .idle => ProducerAhead n base p.ring p.produced.length R
  | .readConsumed _ => ProducerAhead n base p.ring p.produced.length R
  | .writing msg slot off => ProducerAhead n base p.ring (p.produced.length + 1) R ∧
      slot = slotAt n base p.produced.length ∧
      ∀ (w : ℕ) (x : UInt32), w < off → msg[w]? = some x → slots slot w = x

/-- The consuming side, in each place of its program. -/
def ConsumerInv (n base : UInt32) (q : Consumer) (produced : List Msg) : Prop :=
  match q.pc with
  | .detached => True
  | .attaching => ∃ p, p ≤ produced.length ∧ q.ring.ulRingProduced = ctr base p ∧
      q.returned.length ≤ p
  | .idle => ConsumerBehind base q.ring q.returned.length produced.length
  | .readSqTail _ => ConsumerBehind base q.ring q.returned.length produced.length
  | .readCqTail _ _ => ConsumerBehind base q.ring q.returned.length produced.length
  | .readTail _ => ConsumerBehind base q.ring q.returned.length produced.length
  | .reading _ slot got => ConsumerBehind base q.ring (q.returned.length + 1) produced.length ∧
      slot = slotAt n base q.returned.length ∧
      ∀ m : Msg, produced[q.returned.length]? = some m → Agree got m

structure ChanInv (n base : UInt32) (c : Chan) : Prop where
  tail : c.shared.tail = ctr base c.producer.produced.length
  consumed : c.shared.consumed = ctr base c.consumer.returned.length
  ordered : c.consumer.returned.length ≤ c.producer.produced.length
  stored : ∀ (j : ℕ) (m : Msg), c.consumer.returned.length ≤ j → c.producer.produced[j]? = some m →
    Holds (c.shared.slots (slotAt n base j)) m
  delivered : ∀ (j : ℕ) (g m : Msg), c.consumer.returned[j]? = some g →
    c.producer.produced[j]? = some m → Agree g m
  producerSlots : c.producer.ring.ulRingNumSlots = n
  consumerSlots : c.consumer.ring.ulRingNumSlots = n
  producer : ProducerInv n base c.producer c.shared.slots c.consumer.returned.length
  consumer : ConsumerInv n base c.consumer c.producer.produced

/-! ### The pieces of the invariant -/

section

variable {n base : UInt32}

variable {ring : GCQRing}

theorem ProducerAhead.mono {claimed R R' : ℕ}
    (h : ProducerAhead n base ring claimed R) (hR : R ≤ R') :
    ProducerAhead n base ring claimed R' := by
  obtain ⟨hp, r, hr, hc, hroom⟩ := h
  exact ⟨hp, r, hr.trans hR, hc, hroom⟩

theorem ConsumerBehind.mono {taken P P' : ℕ}
    (h : ConsumerBehind base ring taken P) (hP : P ≤ P') :
    ConsumerBehind base ring taken P' := by
  obtain ⟨hc, p, hp, hpr, hle⟩ := h
  exact ⟨hc, p, hp.trans hP, hpr, hle⟩

theorem ProducerAhead.room {claimed R : ℕ}
    (h : ProducerAhead n base ring claimed R) : claimed ≤ R + n.toNat := by
  obtain ⟨-, r, hr, -, hroom⟩ := h
  omega

theorem ProducerInv.room {p : Producer} {slots : ℕ → ℕ → UInt32} {R : ℕ}
    (h : ProducerInv n base p slots R) : p.produced.length ≤ R + n.toNat := by
  unfold ProducerInv at h
  split at h
  · exact h
  · exact h.2
  · exact h.room
  · exact h.room
  · have := h.1.room
    omega

theorem ProducerInv.mono {p : Producer} {slots : ℕ → ℕ → UInt32} {R R' : ℕ}
    (h : ProducerInv n base p slots R) (hR : R ≤ R') : ProducerInv n base p slots R' := by
  unfold ProducerInv at h ⊢
  split at h
  · exact h.trans (by omega)
  · exact ⟨h.1, h.2.trans (by omega)⟩
  · exact h.mono hR
  · exact h.mono hR
  · exact ⟨h.1.mono hR, h.2⟩

theorem ConsumerInv.append {q : Consumer} {produced : List Msg} (m : Msg)
    (h : ConsumerInv n base q produced) : ConsumerInv n base q (produced ++ [m]) := by
  have hlen : produced.length ≤ (produced ++ [m]).length := by simp
  unfold ConsumerInv at h ⊢
  split at h
  · trivial
  · obtain ⟨p, hp, hpr, hle⟩ := h
    exact ⟨p, hp.trans hlen, hpr, hle⟩
  · exact h.mono hlen
  · exact h.mono hlen
  · exact h.mono hlen
  · exact h.mono hlen
  · obtain ⟨hbehind, hslot, hgot⟩ := h
    obtain ⟨-, p, hp, -, hle⟩ := id hbehind
    refine ⟨hbehind.mono hlen, hslot, fun x hx => hgot x ?_⟩
    rwa [List.getElem?_append_left (by omega)] at hx

theorem slotAt_ne {k : ℕ} (hn : n.toNat = 2 ^ k) {i j : ℕ} (hij : i < j)
    (hlap : j - i < n.toNat) : slotAt n base j ≠ slotAt n base i :=
  mask_ctr_ne hn base hij hlap

theorem isFull_iff {claimed r : ℕ} (hnum : ring.ulRingNumSlots = n)
    (hp : ring.ulRingProduced = ctr base claimed) (hc : ring.ulRingConsumed = ctr base r)
    (hle : r ≤ claimed) (hroom : claimed ≤ r + n.toNat) :
    prvucGCQRingIsFull ring = false ↔ claimed + 1 ≤ r + n.toNat := by
  have hlt := n.toNat_lt
  have hsub := toNat_ctr_sub base hle (by omega)
  simp only [prvucGCQRingIsFull, hp, hc, hnum, ge_iff_le, UInt32.le_iff_toNat_le, hsub,
    decide_eq_false_iff_not]
  omega

theorem isEmpty_iff {taken p : ℕ}
    (hp : ring.ulRingProduced = ctr base p) (hc : ring.ulRingConsumed = ctr base taken)
    (hle : taken ≤ p) (hlap : p ≤ taken + n.toNat) :
    prvucGCQRingIsEmpty ring = false ↔ taken + 1 ≤ p := by
  have hlt := n.toNat_lt
  simp only [prvucGCQRingIsEmpty, hp, hc, ctr_inj base hle (show p - taken < 2 ^ 32 by omega),
    decide_eq_false_iff_not]
  omega

theorem ProducerAhead.claim {p : Producer} {ring : GCQRing} {msg : Msg}
    {slots : ℕ → ℕ → UInt32} {R : ℕ} (hR : R ≤ p.produced.length)
    (h : ProducerAhead n base ring p.produced.length R) (hnum : ring.ulRingNumSlots = n)
    (hfull : prvucGCQRingIsFull ring = false) :
    ProducerInv n base (p.claim ring msg) slots R := by
  obtain ⟨hp, r, hr, hc, hroom⟩ := h
  have hone := (isFull_iff hnum hp hc (hr.trans hR) hroom).mp hfull
  refine ⟨⟨?_, r, hr, hc, hone⟩, ?_, fun w x hw => absurd hw (Nat.not_lt_zero w)⟩
  · show ring.ulRingProduced + 1 = _
    rw [hp, ctr_succ]
    rfl
  · show (ring.slotIndex ring.ulRingProduced).toNat = _
    rw [GCQRing.slotIndex, hp, hnum]
    rfl

theorem ConsumerBehind.take {q : Consumer} {ring : GCQRing} {len : ℕ} {produced : List Msg}
    (h : ConsumerBehind base ring q.returned.length produced.length)
    (hnum : ring.ulRingNumSlots = n)
    (hlap : produced.length ≤ q.returned.length + n.toNat)
    (hempty : prvucGCQRingIsEmpty ring = false) :
    ConsumerInv n base (q.take ring len) produced := by
  obtain ⟨hc, p, hp, hpr, hle⟩ := h
  have hone := (isEmpty_iff hpr hc hle (hp.trans hlap)).mp hempty
  refine ⟨⟨?_, p, hp, hpr, hone⟩, ?_, fun m _ w x y hx => by simp at hx⟩
  · show ring.ulRingConsumed + 1 = _
    rw [hc, ctr_succ]
    rfl
  · show (ring.slotIndex ring.ulRingConsumed).toNat = _
    rw [GCQRing.slotIndex, hc, hnum]
    rfl

/-! ### Every step keeps the invariant -/

variable {c c' : Chan}

theorem ChanInv.setProducer (h : ChanInv n base c) {p : Producer}
    (hlog : p.produced = c.producer.produced) (hnum : p.ring.ulRingNumSlots = n)
    (hp : ProducerInv n base p c.shared.slots c.consumer.returned.length) :
    ChanInv n base { c with producer := p } where
  tail := by simp only [hlog]; exact h.tail
  consumed := h.consumed
  ordered := by simp only [hlog]; exact h.ordered
  stored := by simp only [hlog]; exact h.stored
  delivered := by simp only [hlog]; exact h.delivered
  producerSlots := hnum
  consumerSlots := h.consumerSlots
  producer := hp
  consumer := by simp only [hlog]; exact h.consumer

theorem ChanInv.setConsumer (h : ChanInv n base c) {q : Consumer}
    (hlog : q.returned = c.consumer.returned) (hnum : q.ring.ulRingNumSlots = n)
    (hq : ConsumerInv n base q c.producer.produced) :
    ChanInv n base { c with consumer := q } where
  tail := h.tail
  consumed := by simp only [hlog]; exact h.consumed
  ordered := by simp only [hlog]; exact h.ordered
  stored := by simp only [hlog]; exact h.stored
  delivered := by simp only [hlog]; exact h.delivered
  producerSlots := h.producerSlots
  consumerSlots := hnum
  producer := by simp only [hlog]; exact h.producer
  consumer := hq

theorem ChanInv.produceCall {data : ℕ → UInt32} {len : UInt32} (h : ChanInv n base c)
    (hstep : produceCall c data len = some c') : ChanInv n base c' := by
  unfold Channel.produceCall at hstep
  split at hstep
  · rename_i hpc
    have hp := h.producer
    simp only [ProducerInv, hpc] at hp
    simp only at hstep
    split_ifs at hstep with hbad hfull <;> obtain rfl := Option.some.inj hstep
    · exact h.setProducer rfl h.producerSlots (by simp only [ProducerInv, hpc]; exact hp)
    · exact h.setProducer rfl h.producerSlots (hp.claim h.ordered h.producerSlots hfull)
    · exact h.setProducer rfl h.producerSlots hp
  · cases hstep

theorem ChanInv.writeWord {k : ℕ} (hn : n.toNat = 2 ^ k) (h : ChanInv n base c) {msg : Msg}
    {slot off : ℕ} {w : UInt32} (hpc : c.producer.pc = .writing msg slot off)
    (hw : msg[off]? = some w) :
    ChanInv n base { c with
      shared := { c.shared with slots := fun s o =>
        if s = slot ∧ o = off then w else c.shared.slots s o }
      producer := { c.producer with pc := .writing msg slot (off + 1) } } := by
  have hp := h.producer
  simp only [ProducerInv, hpc] at hp
  obtain ⟨hahead, hslot, hwritten⟩ := hp
  have hroom := hahead.room
  refine ⟨h.tail, h.consumed, h.ordered, ?_, h.delivered, h.producerSlots, h.consumerSlots, ?_,
    h.consumer⟩
  · intro j m hj hm o x hx
    replace hj : c.consumer.returned.length ≤ j := hj
    have hjlt : j < c.producer.produced.length := (List.getElem?_eq_some_iff.mp hm).1
    have hne : slotAt n base j ≠ slot := hslot ▸ (slotAt_ne hn hjlt (by omega)).symm
    simp only [hne, false_and, if_false]
    exact h.stored j m hj hm o x hx
  · refine ⟨hahead, hslot, fun o x ho hx => ?_⟩
    rcases eq_or_ne o off with rfl | hoff
    · simp only [and_self, if_true]
      exact Option.some.inj (hw.symm.trans hx)
    · simp only [hoff, and_false, if_false]
      exact hwritten o x (by omega) hx

theorem ChanInv.publish (h : ChanInv n base c) {msg : Msg} {slot off : ℕ}
    (hpc : c.producer.pc = .writing msg slot off) (hend : msg[off]? = none) :
    ChanInv n base { c with
      shared := { c.shared with tail := c.producer.ring.ulRingProduced }
      producer := { c.producer with
        pc := .idle, ret := .none, produced := c.producer.produced ++ [msg] } } := by
  have hp := h.producer
  simp only [ProducerInv, hpc] at hp
  obtain ⟨hahead, hslot, hwritten⟩ := hp
  have hlen : (c.producer.produced ++ [msg]).length = c.producer.produced.length + 1 := by simp
  refine ⟨?_, h.consumed, ?_, ?_, ?_, h.producerSlots, h.consumerSlots, ?_, h.consumer.append msg⟩
  · simp only [hlen]
    exact hahead.produced
  · simp only [hlen]
    exact h.ordered.trans (Nat.le_succ _)
  · intro j m hj hm
    rcases Nat.lt_or_ge j c.producer.produced.length with hlt | hge
    · exact h.stored j m hj (by rwa [List.getElem?_append_left hlt] at hm)
    · have hjlt : j < (c.producer.produced ++ [msg]).length := (List.getElem?_eq_some_iff.mp hm).1
      obtain rfl : j = c.producer.produced.length := by omega
      obtain rfl : msg = m := by simpa using hm
      intro w x hx
      have hwlt := (List.getElem?_eq_some_iff.mp hx).1
      have hoff := List.getElem?_eq_none_iff.mp hend
      exact hslot ▸ hwritten w x (by omega) hx
  · intro j g m hg hm
    have hjlt : j < c.consumer.returned.length := (List.getElem?_eq_some_iff.mp hg).1
    have hord := h.ordered
    exact h.delivered j g m hg (by rwa [List.getElem?_append_left (by omega)] at hm)
  · simp only [ProducerInv, hlen]
    exact hahead

theorem ChanInv.producerAccess {k : ℕ} (hn : n.toNat = 2 ^ k) (h : ChanInv n base c)
    (hstep : producerAccess c = some c') : ChanInv n base c' := by
  have hp := h.producer
  unfold Channel.producerAccess at hstep
  split at hstep <;> rename_i hpc <;> simp only [ProducerInv, hpc] at hp
  · obtain rfl := Option.some.inj hstep
    exact h.setProducer rfl h.producerSlots ⟨h.tail, hp⟩
  · obtain rfl := Option.some.inj hstep
    exact h.setProducer rfl h.producerSlots ⟨hp.1, _, le_rfl, h.consumed, hp.2⟩
  · cases hstep
  · -- the re-read consumed counter is exact
    have hahead : ProducerAhead n base
        { c.producer.ring with ulRingConsumed := c.shared.consumed }
        c.producer.produced.length c.consumer.returned.length :=
      ⟨hp.produced, _, le_rfl, h.consumed, hp.room⟩
    simp only at hstep
    split_ifs at hstep with hfull <;> obtain rfl := Option.some.inj hstep
    · exact h.setProducer rfl h.producerSlots (hahead.claim h.ordered h.producerSlots hfull)
    · exact h.setProducer rfl h.producerSlots hahead
  · split at hstep <;> rename_i hword <;> obtain rfl := Option.some.inj hstep
    · exact h.writeWord hn hpc hword
    · exact h.publish hpc hword

theorem ChanInv.consumeCall {len : UInt32} (h : ChanInv n base c)
    (hstep : consumeCall c len = some c') : ChanInv n base c' := by
  unfold Channel.consumeCall at hstep
  split at hstep
  · rename_i hpc
    have hq := h.consumer
    simp only [ConsumerInv, hpc] at hq
    split_ifs at hstep with hbad <;> obtain rfl := Option.some.inj hstep
    · exact h.setConsumer rfl h.consumerSlots (by simp only [ConsumerInv, hpc]; exact hq)
    · exact h.setConsumer rfl h.consumerSlots hq
  · cases hstep

theorem ChanInv.readWord (h : ChanInv n base c) {len slot : ℕ} {got : Msg}
    (hpc : c.consumer.pc = .reading len slot got) :
    ChanInv n base { c with consumer := { c.consumer with
      pc := .reading len slot (got ++ [c.shared.slots slot got.length]) } } := by
  have hq := h.consumer
  simp only [ConsumerInv, hpc] at hq
  obtain ⟨hbehind, hslot, hgot⟩ := hq
  refine h.setConsumer rfl h.consumerSlots ⟨hbehind, hslot, fun m hm w x y hx hy => ?_⟩
  rcases Nat.lt_or_ge w got.length with hlt | hge
  · exact hgot m hm w x y (by rwa [List.getElem?_append_left hlt] at hx) hy
  · have hwlt := (List.getElem?_eq_some_iff.mp hx).1
    simp only [List.length_append, List.length_singleton] at hwlt
    obtain rfl : w = got.length := by omega
    obtain rfl : c.shared.slots slot got.length = x := by simpa using hx
    rw [hslot]
    exact h.stored _ m le_rfl hm _ y hy

theorem ChanInv.release (h : ChanInv n base c) {len slot : ℕ} {got : Msg}
    (hpc : c.consumer.pc = .reading len slot got) :
    ChanInv n base { c with
      shared := { c.shared with consumed := c.consumer.ring.ulRingConsumed }
      consumer := { c.consumer with
        pc := .idle, ret := .none, returned := c.consumer.returned ++ [got] } } := by
  have hq := h.consumer
  simp only [ConsumerInv, hpc] at hq
  obtain ⟨hbehind, hslot, hgot⟩ := hq
  obtain ⟨hcons, p, hp, hpr, hle⟩ := id hbehind
  have hlen : (c.consumer.returned ++ [got]).length = c.consumer.returned.length + 1 := by simp
  refine ⟨h.tail, ?_, ?_, ?_, ?_, h.producerSlots, h.consumerSlots, ?_, ?_⟩
  · simp only [hlen]
    exact hcons
  · simp only [hlen]
    exact hle.trans hp
  · intro j m hj hm
    simp only [hlen] at hj
    exact h.stored j m (by omega) hm
  · intro j g m hg hm
    rcases Nat.lt_or_ge j c.consumer.returned.length with hlt | hge
    · exact h.delivered j g m (by rwa [List.getElem?_append_left hlt] at hg) hm
    · have hjlt : j < (c.consumer.returned ++ [got]).length := (List.getElem?_eq_some_iff.mp hg).1
      obtain rfl : j = c.consumer.returned.length := by omega
      obtain rfl : got = g := by simpa using hg
      exact hgot m hm
  · simp only [hlen]
    exact h.producer.mono (Nat.le_succ _)
  · simp only [ConsumerInv, hlen]
    exact hbehind

variable {sqTail cqTail : UInt32}

theorem ChanInv.consumerAccess (h : ChanInv n base c)
    (hstep : consumerAccess sqTail cqTail c = some c') : ChanInv n base c' := by
  have hq := h.consumer
  have hlap := h.producer.room
  unfold Channel.consumerAccess at hstep
  split at hstep <;> rename_i hpc <;> simp only [ConsumerInv, hpc] at hq
  · obtain rfl := Option.some.inj hstep
    exact h.setConsumer rfl h.consumerSlots ⟨_, le_rfl, h.tail, h.ordered⟩
  · obtain rfl := Option.some.inj hstep
    exact h.setConsumer rfl h.consumerSlots ⟨h.consumed, hq⟩
  · cases hstep
  · obtain rfl := Option.some.inj hstep
    exact h.setConsumer rfl h.consumerSlots hq
  · split_ifs at hstep with hdead hempty <;> obtain rfl := Option.some.inj hstep
    · exact h.setConsumer rfl h.consumerSlots hq
    · exact h.setConsumer rfl h.consumerSlots (hq.take h.consumerSlots hlap hempty)
    · exact h.setConsumer rfl h.consumerSlots hq
  · -- the re-read tail is exact
    have hbehind : ConsumerBehind base { c.consumer.ring with ulRingProduced := c.shared.tail }
        c.consumer.returned.length c.producer.produced.length :=
      ⟨hq.consumed, _, le_rfl, h.tail, h.ordered⟩
    simp only at hstep
    split_ifs at hstep with hempty <;> obtain rfl := Option.some.inj hstep
    · exact h.setConsumer rfl h.consumerSlots (hbehind.take h.consumerSlots hlap hempty)
    · exact h.setConsumer rfl h.consumerSlots hbehind
  · split_ifs at hstep with hmore <;> obtain rfl := Option.some.inj hstep
    · exact h.readWord hpc
    · exact h.release hpc

/-- **One step keeps the invariant.** -/
theorem ChanInv.step {k : ℕ} (hn : n.toNat = 2 ^ k) {sqTail cqTail : UInt32} {a : Act}
    (h : ChanInv n base c) (hstep : chanStep sqTail cqTail c a = some c') : ChanInv n base c' := by
  cases a with
  | produce data len => exact h.produceCall hstep
  | producerAccess => exact h.producerAccess hn hstep
  | consume len => exact h.consumeCall hstep
  | consumerAccess => exact h.consumerAccess hstep

theorem Chan.Initial.inv (h : c.Initial n base) : ChanInv n base c := by
  have hctr : ctr base 0 = base := ctr_zero base
  refine ⟨?_, ?_, ?_, ?_, ?_, h.producerSlots, h.consumerSlots, ?_, ?_⟩
  · rw [h.tail, h.produced, List.length_nil, hctr]
  · rw [h.consumed, h.returned, List.length_nil, hctr]
  · simp [h.returned]
  · simp [h.produced]
  · simp [h.returned]
  · rcases h.producer with hpc | ⟨hpc, hp, hc⟩ <;> simp only [ProducerInv, hpc, h.produced,
      h.returned, List.length_nil]
    · exact Nat.zero_le _
    · exact ⟨hp.trans hctr.symm, 0, le_rfl, hc.trans hctr.symm, Nat.zero_le _⟩
  · rcases h.consumer with hpc | ⟨hpc, hp, hc⟩ <;> simp only [ConsumerInv, hpc, h.produced,
      h.returned, List.length_nil]
    · exact ⟨hc.trans hctr.symm, 0, le_rfl, hp.trans hctr.symm, le_rfl⟩

/-! ### A queue is a bounded channel -/

/-- The abstract history of a queue: what was produced, and as much of it as was returned. -/
def Chan.abs (c : Chan) : BoundedFifo.Channel Msg where
  sent := c.producer.produced
  received := c.producer.produced.take c.consumer.returned.length

theorem chanStep_logs {a : Act}
    (hstep : chanStep sqTail cqTail c a = some c') :
    (c'.producer.produced = c.producer.produced ∧ c'.consumer.returned = c.consumer.returned) ∨
      (∃ msg slot off, c.producer.pc = .writing msg slot off ∧
        c'.producer.produced = c.producer.produced ++ [msg] ∧
        c'.consumer.returned = c.consumer.returned) ∨
      ∃ len slot got, c.consumer.pc = .reading len slot got ∧
        c'.producer.produced = c.producer.produced ∧
        c'.consumer.returned = c.consumer.returned ++ [got] := by
  cases a with
  | produce data len =>
    left
    simp only [chanStep, Channel.produceCall] at hstep
    split at hstep
    · split_ifs at hstep <;> obtain rfl := Option.some.inj hstep <;> exact ⟨rfl, rfl⟩
    · cases hstep
  | producerAccess =>
    simp only [chanStep, Channel.producerAccess] at hstep
    split at hstep
    · obtain rfl := Option.some.inj hstep
      exact .inl ⟨rfl, rfl⟩
    · obtain rfl := Option.some.inj hstep
      exact .inl ⟨rfl, rfl⟩
    · cases hstep
    · split_ifs at hstep <;> obtain rfl := Option.some.inj hstep <;> exact .inl ⟨rfl, rfl⟩
    · rename_i msg slot off hpc
      split at hstep <;> obtain rfl := Option.some.inj hstep
      · exact .inl ⟨rfl, rfl⟩
      · exact .inr (.inl ⟨msg, slot, off, hpc, rfl, rfl⟩)
  | consume len =>
    left
    simp only [chanStep, Channel.consumeCall] at hstep
    split at hstep
    · split_ifs at hstep <;> obtain rfl := Option.some.inj hstep <;> exact ⟨rfl, rfl⟩
    · cases hstep
  | consumerAccess =>
    simp only [chanStep, Channel.consumerAccess] at hstep
    split at hstep
    · obtain rfl := Option.some.inj hstep
      exact .inl ⟨rfl, rfl⟩
    · obtain rfl := Option.some.inj hstep
      exact .inl ⟨rfl, rfl⟩
    · cases hstep
    · obtain rfl := Option.some.inj hstep
      exact .inl ⟨rfl, rfl⟩
    · split_ifs at hstep <;> obtain rfl := Option.some.inj hstep <;> exact .inl ⟨rfl, rfl⟩
    · split_ifs at hstep <;> obtain rfl := Option.some.inj hstep <;> exact .inl ⟨rfl, rfl⟩
    · rename_i len slot got hpc
      split_ifs at hstep <;> obtain rfl := Option.some.inj hstep
      · exact .inl ⟨rfl, rfl⟩
      · exact .inr (.inr ⟨len, slot, got, hpc, rfl, rfl⟩)

theorem ChanInv.refines {a : Act} (h : ChanInv n base c)
    (hstep : chanStep sqTail cqTail c a = some c') :
    Relation.ReflTransGen (BoundedFifo.Next n.toNat) c.abs c'.abs := by
  have hord := h.ordered
  have hlen : (c.producer.produced.take c.consumer.returned.length).length =
      c.consumer.returned.length := List.length_take_of_le hord
  rcases chanStep_logs hstep with ⟨hp, hr⟩ | ⟨msg, slot, off, hpc, hp, hr⟩ |
    ⟨len, slot, got, hpc, hp, hr⟩
  · rw [show c'.abs = c.abs by simp only [Chan.abs, hp, hr]]
  · have hprod := h.producer
    simp only [ProducerInv, hpc] at hprod
    have hroom := hprod.1.room
    have habs : c'.abs = { c.abs with sent := c.abs.sent ++ [msg] } := by
      simp only [Chan.abs, hp, hr, List.take_append_of_le_length hord]
    rw [habs]
    refine .single (.send msg ?_)
    simp only [Chan.abs, hlen]
    omega
  · have hcons := h.consumer
    simp only [ConsumerInv, hpc] at hcons
    obtain ⟨-, p, hple, -, hle⟩ := hcons.1
    have hlt : c.consumer.returned.length < c.producer.produced.length := by omega
    have habs : c'.abs =
        { c.abs with received := c.abs.received ++ [c.producer.produced[c.consumer.returned.length]] } := by
      simp only [Chan.abs, hp, hr, List.length_append, List.length_singleton,
        List.take_succ_eq_append_getElem hlt]
    rw [habs]
    refine .single (.receive _ ?_)
    simp only [Chan.abs, hlen, List.getElem?_eq_getElem hlt]

end

/-! ### Runs of the pair -/

section

variable {n : UInt32} {k : ℕ} {base : Queue → UInt32} {s₀ s : Pair}

theorem chanInv_of_reaches (hn : n.toNat = 2 ^ k) (h₀ : ∀ q, (s₀.chan q).Initial n (base q))
    (hs : Reaches step always s₀ s) (q : Queue) : ChanInv n (base q) (s.chan q) := by
  revert q
  refine hs.invariant (fun s => ∀ q, ChanInv n (base q) (s.chan q)) (fun q => (h₀ q).inv) ?_
  rintro s ⟨moved, a⟩ s' hinv - hstep q
  cases moved <;> obtain ⟨c, hc, rfl⟩ := Option.map_eq_some_iff.mp hstep <;> cases q
  · exact (hinv .sq).step hn hc
  · exact hinv .cq
  · exact hinv .sq
  · exact (hinv .cq).step hn hc

/-- **Refinement.** Every run of the pair is, on either queue, a run of a bounded first-in
first-out channel with one place per slot. -/
theorem pair_refines (hn : n.toNat = 2 ^ k) (h₀ : ∀ q, (s₀.chan q).Initial n (base q))
    (hs : Reaches step always s₀ s) (q : Queue) :
    Relation.ReflTransGen (BoundedFifo.Next n.toNat) (s₀.chan q).abs (s.chan q).abs := by
  refine hs.refines (fun s => ∀ q, ChanInv n (base q) (s.chan q)) (fun s => (s.chan q).abs) _
    (fun s hs => chanInv_of_reaches hn h₀ hs) ?_
  rintro s ⟨moved, a⟩ s' hinv - hstep
  cases moved <;> obtain ⟨c, hc, rfl⟩ := Option.map_eq_some_iff.mp hstep <;> cases q
  · exact (hinv .sq).refines hc
  · exact .refl
  · exact .refl
  · exact (hinv .cq).refines hc

/-- What a queue guarantees in a reachable state. -/
structure RingSafe (n base : UInt32) (c : Chan) : Prop where
  /-- The `j`-th message returned is the `j`-th message produced, on every word both calls
  asked for: nothing is lost, duplicated, reordered or partly written. -/
  delivered : ∀ (j : ℕ) (got : Msg), c.consumer.returned[j]? = some got →
    ∃ sent, c.producer.produced[j]? = some sent ∧ Agree got sent
  /-- When both sides of the queue use one message length, the messages returned are a prefix of
  the messages produced. -/
  isPrefix : ∀ len, (∀ m ∈ c.producer.produced, m.length = len) →
    (∀ m ∈ c.consumer.returned, m.length = len) → c.consumer.returned <+: c.producer.produced
  /-- At most `n` messages are produced and not consumed. -/
  bounded : c.producer.produced.length ≤ c.consumer.returned.length + n.toNat
  /-- A slot that is being written is not the slot of a message that is yet to be consumed. -/
  noOverwrite : ∀ msg slot off, c.producer.pc = .writing msg slot off →
    ∀ j, c.consumer.returned.length ≤ j → j < c.producer.produced.length →
      slotAt n base j ≠ slot

theorem Agree.eq {got sent : Msg} (h : Agree got sent) (hlen : got.length = sent.length) :
    got = sent := by
  refine List.ext_getElem hlen fun w hw hw' => h w _ _ ?_ ?_
  · exact List.getElem?_eq_getElem hw
  · exact List.getElem?_eq_getElem hw'

theorem isPrefix_of_agree {returned produced : List Msg}
    (h : ∀ (j : ℕ) (got : Msg), returned[j]? = some got →
      ∃ sent, produced[j]? = some sent ∧ Agree got sent) {len : ℕ}
    (hp : ∀ m ∈ produced, m.length = len) (hr : ∀ m ∈ returned, m.length = len) :
    returned <+: produced := by
  refine List.prefix_iff_getElem?.mpr fun j hj => ?_
  obtain ⟨sent, hsent, hagree⟩ := h j _ (List.getElem?_eq_getElem hj)
  have hlen : returned[j].length = sent.length := by
    rw [hr _ (List.getElem_mem hj), hp _ (List.mem_of_getElem? hsent)]
  rw [hsent, hagree.eq hlen]

/-- **Ring safety under every interleaving.** From an initialised pair whose sides are attached or
attach at any time, with a power of two of slots and any start values of the counters, every
reachable state of every run is safe on both queues. -/
theorem ring_safety (hn : n.toNat = 2 ^ k) (h₀ : ∀ q, (s₀.chan q).Initial n (base q))
    (hs : Reaches step always s₀ s) (q : Queue) : RingSafe n (base q) (s.chan q) := by
  have hinv := chanInv_of_reaches hn h₀ hs q
  have hord := hinv.ordered
  have hsound : BoundedFifo.Sound n.toNat (s.chan q).abs := by
    refine BoundedFifo.sound_of_run ?_ (pair_refines hn h₀ hs q)
    simpa [Chan.abs, (h₀ q).produced] using BoundedFifo.sound_empty (α := Msg) n.toNat
  have hdelivered : ∀ (j : ℕ) (got : Msg), (s.chan q).consumer.returned[j]? = some got →
      ∃ sent, (s.chan q).producer.produced[j]? = some sent ∧ Agree got sent := by
    intro j got hgot
    have hj : j < (s.chan q).producer.produced.length :=
      (List.getElem?_eq_some_iff.mp hgot).1.trans_le hord
    exact ⟨_, List.getElem?_eq_getElem hj, hinv.delivered j got _ hgot
      (List.getElem?_eq_getElem hj)⟩
  refine ⟨hdelivered, fun len => isPrefix_of_agree hdelivered, ?_, ?_⟩
  · have hbound := hsound.bounded
    simpa only [Chan.abs, List.length_take_of_le hord] using hbound
  · intro msg slot off hpc j hj hjlt
    have hp := hinv.producer
    simp only [ProducerInv, hpc] at hp
    obtain ⟨hahead, hslot, -⟩ := hp
    have hroom := hahead.room
    exact hslot ▸ (slotAt_ne hn hjlt (by omega)).symm

end

/-! ### A pair to start from -/

/-- One side's view of a queue of four 56-byte slots whose counters are about to wrap. -/
def exampleRing : GCQRing where
  ulRingNumSlots := 4
  ulRingSlotSize := 56
  ulRingProduced := 0xFFFFFFFF
  ulRingConsumed := 0xFFFFFFFF
  ullRingProducedAddr := 0
  ullRingConsumedAddr := 0
  ullRingSlotAddr := 0

/-- A queue after init and attach, its counters about to wrap. -/
def exampleChan : Chan where
  shared := ⟨0xFFFFFFFF, 0xFFFFFFFF, fun _ _ => 0⟩
  producer := ⟨exampleRing, .idle, .none, []⟩
  consumer := ⟨exampleRing, .idle, .none, []⟩

theorem exampleChan_initial : exampleChan.Initial 4 0xFFFFFFFF :=
  ⟨rfl, rfl, rfl, rfl, .inr ⟨rfl, rfl, rfl⟩, .inr ⟨rfl, rfl, rfl⟩, rfl, rfl⟩

def examplePair : Pair := ⟨exampleChan, exampleChan⟩

/-- The host sends a message of two words, and the firmware receives it after the tail has
wrapped to zero. -/
def exampleRun : List (Queue × Act) :=
  [(.sq, .consume 8), (.sq, .produce (fun w => if w = 0 then 7 else 8) 8), (.sq, .producerAccess),
    (.sq, .producerAccess), (.sq, .producerAccess), (.sq, .consumerAccess), (.sq, .consumerAccess),
    (.sq, .consumerAccess), (.sq, .consumerAccess), (.sq, .consumerAccess), (.sq, .consumerAccess)]

/-- That run delivers the message, and its end is safe. -/
theorem ring_safety_at_exampleRun :
    ∃ s, run step examplePair exampleRun = some s ∧ s.sq.consumer.returned = [[7, 8]] ∧
      RingSafe 4 0xFFFFFFFF s.sq := by
  have hany : (run step examplePair exampleRun).any
      (fun s => decide (s.sq.consumer.returned = [[7, 8]])) = true := by decide
  obtain ⟨s, hs, hret⟩ := (Option.any_eq_true _ _).mp hany
  have h₀ : ∀ q : Queue, (examplePair.chan q).Initial 4 ((fun _ => 0xFFFFFFFF) q) := by
    rintro (_ | _) <;> exact exampleChan_initial
  exact ⟨s, hs, of_decide_eq_true hret, ring_safety (k := 2) rfl h₀ (Reaches.of_run hs) .sq⟩

end Amr.Gcq.Channel
