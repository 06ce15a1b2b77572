/-
# From one end of the queues to the other

A request is written into a slot of the submission queue word by word, a response into one of the
completion queue. The peer reads the words of a slot while the other side goes on, whatever the
interleaving, and reads the members of the entry out of them. Here the queues meet the entries: in
every run what is read is the entry of the message's number, so the values arrive in the order in
which they were sent.
-/
import Amr.Wire
import Amr.Gcq.ChannelSafety

namespace Amr.Wire

open StructLayout Transition Amc Ami Gcq Channel

/-- The words of `struct amc_proxy_cmd_request`, whose largest payload is that of the data. -/
def requestWords : ℕ := endOf payloadOff DataPayload.members / 32

/-- The words of `AMIProxyCmdResp`. -/
def responseWords : ℕ := endOf 0 respMembers / 32

/-- The words of an entry in a slot. -/
def wordsOf (len image : ℕ) : Msg :=
  (List.range len).map fun w => UInt32.ofNat (image / 2 ^ (32 * w))

/-- The entry that the words of a slot make. -/
def imageOf : Msg → ℕ
  | [] => 0
  | w :: ws => w.toNat + 2 ^ 32 * imageOf ws

theorem wordsOf_succ (len image : ℕ) :
    wordsOf (len + 1) image = UInt32.ofNat image :: wordsOf len (image / 2 ^ 32) := by
  unfold wordsOf
  rw [List.range_succ_eq_map, List.map_cons, List.map_map, mul_zero, pow_zero, Nat.div_one]
  congr 2
  funext w
  rw [Function.comp_apply, Nat.div_div_eq_div_mul, ← pow_add, Nat.succ_eq_add_one, mul_add, mul_one,
    add_comm]

theorem imageOf_wordsOf {len : ℕ} : ∀ {image : ℕ}, image < 2 ^ (32 * len) →
    imageOf (wordsOf len image) = image := by
  induction len with
  | zero =>
    intro image h
    rw [mul_zero, pow_zero, Nat.lt_one_iff] at h
    exact h.symm
  | succ len ih =>
    intro image h
    rw [mul_add, mul_one, pow_add] at h
    rw [wordsOf_succ, imageOf, ih (Nat.div_lt_of_lt_mul (by rwa [mul_comm])), UInt32.toNat_ofNat']
    exact Nat.mod_add_div image (2 ^ 32)

section

variable {n : UInt32} {k : ℕ} {base : Queue → UInt32} {s₀ s : Pair}

/-- What a side reads is the entry that the other one has written. -/
theorem imageOf_returned (hn : n.toNat = 2 ^ k) (h₀ : ∀ q, (s₀.chan q).Initial n (base q))
    (hs : Reaches Channel.step always s₀ s) (q : Queue) {len : ℕ} {es : List ℕ}
    (hsent : (s.chan q).producer.produced = es.map (wordsOf len))
    (hfits : ∀ e ∈ es, e < 2 ^ (32 * len))
    (hread : ∀ m ∈ (s.chan q).consumer.returned, m.length = len) {j : ℕ} {got : Msg}
    (hgot : (s.chan q).consumer.returned[j]? = some got) : es[j]? = some (imageOf got) := by
  have hinv := chanInv_of_reaches hn h₀ hs q
  have hj : j < (s.chan q).producer.produced.length :=
    (List.getElem?_eq_some_iff.mp hgot).1.trans_le hinv.ordered
  rw [hsent, List.length_map] at hj
  have hprod : (s.chan q).producer.produced[j]? = some (wordsOf len es[j]) := by
    rw [hsent, List.getElem?_map, List.getElem?_eq_getElem hj]
    rfl
  have heq : got = wordsOf len es[j] := by
    refine (hinv.delivered j got _ hgot hprod).eq ?_
    rw [hread got (List.mem_of_getElem? hgot), wordsOf, List.length_map, List.length_range]
  rw [List.getElem?_eq_getElem hj, heq, imageOf_wordsOf (hfits _ (List.getElem_mem hj))]

theorem entry_lt (cid : UInt16) (req : Request) : req.entry cid < 2 ^ (32 * requestWords) := by
  have key : ∀ (opcode : AmcProxyCmdOpcode) (count : ℕ) (ms : List Member) (vs : List ℕ),
      endOf 0 (requestHdrMembers ++ ms) ≤ 32 * requestWords →
      req.entry cid = requestEntry opcode count cid ms vs →
      req.entry cid < 2 ^ (32 * requestWords) := by
    intro opcode count ms vs hend hentry
    rw [hentry]
    refine lt_of_lt_of_le (store_lt _ _ _) ?_
    gcongr
    exact one_le_two
  cases req <;> exact key _ _ _ _ (by decide) rfl

theorem examplePair_initial (q : Queue) :
    (examplePair.chan q).Initial 4 ((fun _ => 0xFFFFFFFF) q) := by
  cases q <;> exact exampleChan_initial

/-- A message is written and then read. -/
def oneMessage (q : Queue) (len image : ℕ) : List (Queue × Act) :=
  (q, .produce (fun w => UInt32.ofNat (image / 2 ^ (32 * w))) (UInt32.ofNat (4 * len))) ::
    List.replicate (len + 1) (q, .producerAccess) ++
    (q, .consume (UInt32.ofNat (4 * len))) :: List.replicate (len + 4) (q, .consumerAccess)

/-- **The requests arrive in order.** In every run in which the host writes requests whose values
fit their fields, the `j`-th entry that the firmware reads holds the `j`-th request: whenever the
driver stores it, the application obtains the values that the host passed. -/
theorem requests_arrive (reqs : List (UInt16 × Request)) (hn : n.toNat = 2 ^ k)
    (h₀ : ∀ q, (s₀.chan q).Initial n (base q)) (hs : Reaches Channel.step always s₀ s)
    (hsent : s.sq.producer.produced = reqs.map fun p => wordsOf requestWords (p.2.entry p.1))
    (hfits : ∀ p ∈ reqs, p.2.Fits)
    (hread : ∀ m ∈ s.sq.consumer.returned, m.length = requestWords) {j : ℕ} {got : Msg}
    (hgot : s.sq.consumer.returned[j]? = some got) :
    ∃ p, reqs[j]? = some p ∧ ∀ (t : Task) o i, t.claimed o = some i → o.raise.delivers = true →
      Delivered (t.rx (imageOf got) o) i p.1 p.2 := by
  have hes : (s.chan .sq).producer.produced =
      (reqs.map fun p => p.2.entry p.1).map (wordsOf requestWords) := by
    rw [List.map_map]
    exact hsent
  have hlt : ∀ e ∈ reqs.map fun p => p.2.entry p.1, e < 2 ^ (32 * requestWords) := by
    intro e he
    obtain ⟨p, -, rfl⟩ := List.mem_map.mp he
    exact entry_lt p.1 p.2
  have himage := imageOf_returned hn h₀ hs .sq hes hlt hread hgot
  rw [List.getElem?_map, Option.map_eq_some_iff] at himage
  obtain ⟨p, hp, hentry⟩ := himage
  refine ⟨p, hp, ?_⟩
  rw [← hentry]
  exact (requestAgrees_iff p.1 p.2).mpr (hfits p (List.mem_of_getElem? hp))

/-- A heartbeat arrives. -/
theorem heartbeat_arrives : ∃ s got, run Channel.step examplePair
      (oneMessage .sq requestWords ((Request.heartbeat 7).entry 5)) = some s ∧
    s.sq.consumer.returned = [got] ∧ ∀ (t : Task) o i, t.claimed o = some i →
      o.raise.delivers = true → Delivered (t.rx (imageOf got) o) i 5 (.heartbeat 7) := by
  let words := wordsOf requestWords ((Request.heartbeat 7).entry 5)
  have hany : (run Channel.step examplePair
      (oneMessage .sq requestWords ((Request.heartbeat 7).entry 5))).any (fun s => decide
        (s.sq.producer.produced = [words] ∧ s.sq.consumer.returned = [words])) = true := by
    decide +kernel
  obtain ⟨s, hs, hmsgs⟩ := (Option.any_eq_true _ _).mp hany
  obtain ⟨hsent, hret⟩ := of_decide_eq_true hmsgs
  obtain ⟨p, hp, harrives⟩ := requests_arrive (k := 2) (j := 0) [(5, .heartbeat 7)] rfl
    examplePair_initial (Reaches.of_run hs) hsent (by simp [Request.Fits])
    (by rw [hret]; simp [words, wordsOf]) (by rw [hret]; rfl)
  obtain rfl := Option.some.inj hp
  exact ⟨s, words, hs, hret, harrives⟩

/-- **The responses arrive in order.** In every run the `j`-th entry that the host reads is the
`j`-th response of the firmware: it names the command, and the host returns the values of its
completion, if its result is read from the response code. -/
theorem responses_arrive (rs : List AMIProxyCmdResp) (hn : n.toNat = 2 ^ k)
    (h₀ : ∀ q, (s₀.chan q).Initial n (base q)) (hs : Reaches Channel.step always s₀ s)
    (hsent : s.cq.producer.produced = rs.map fun r => wordsOf responseWords (respImage r))
    (hread : ∀ m ∈ s.cq.consumer.returned, m.length = responseWords) {j : ℕ} {got : Msg}
    (hgot : s.cq.consumer.returned[j]? = some got) :
    ∃ r, rs[j]? = some r ∧ ∀ (cid : UInt16) (c : Completion), c.response cid.toNat = some r →
      ReadFromCode c → (CmdCompletion.ofImage (imageOf got)).cid = cid.toNat ∧
        Returned (CmdCompletion.ofImage (imageOf got)) c.body c.xResult := by
  have hes : (s.chan .cq).producer.produced =
      (rs.map respImage).map (wordsOf responseWords) := by
    rw [List.map_map]
    exact hsent
  have himage := imageOf_returned hn h₀ hs .cq hes
    (List.forall_mem_map.mpr fun r _ => store_lt _ _ _) hread hgot
  rw [List.getElem?_map, Option.map_eq_some_iff] at himage
  obtain ⟨r, hr, hentry⟩ := himage
  refine ⟨r, hr, fun cid c hresp hcode => ?_⟩
  rw [← hentry]
  exact (responseAgrees_iff cid c).mpr hcode r hresp

end

/-- The response to a heartbeat arrives. -/
theorem heartbeat_returns : ∃ s got, run Channel.step examplePair
      (oneMessage .cq responseWords (respImage ⟨5, 7, 0, 0⟩)) = some s ∧
    s.cq.consumer.returned = [got] ∧ (CmdCompletion.ofImage (imageOf got)).cid = 5 ∧
      amcProxyGetResponseHeartbeat (CmdCompletion.ofImage (imageOf got)) = (7, 0) := by
  let words := wordsOf responseWords (respImage ⟨5, 7, 0, 0⟩)
  have hany : (run Channel.step examplePair
      (oneMessage .cq responseWords (respImage ⟨5, 7, 0, 0⟩))).any (fun s => decide
        (s.cq.producer.produced = [words] ∧ s.cq.consumer.returned = [words])) = true := by
    decide +kernel
  obtain ⟨s, hs, hmsgs⟩ := (Option.any_eq_true _ _).mp hany
  obtain ⟨hsent, hret⟩ := of_decide_eq_true hmsgs
  obtain ⟨r, hr, hreturns⟩ := responses_arrive (k := 2) (j := 0) [⟨5, 7, 0, 0⟩] rfl
    examplePair_initial (Reaches.of_run hs) hsent (by rw [hret]; simp [words, wordsOf])
    (by rw [hret]; rfl)
  obtain rfl := Option.some.inj hr
  obtain ⟨hcid, hvalue⟩ := hreturns 5 ⟨.heartbeatComplete 7, .success⟩ rfl trivial
  exact ⟨s, words, hs, hret, hcid, hvalue⟩

end Amr.Wire
