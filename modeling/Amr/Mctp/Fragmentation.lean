/-
# Fragmentation of responses

The loop at the end of `process_pmci_request` sends a response in packets: it carves each of them in
place from the payload buffer and moves the rest of the payload to the front. The loop over the
buffer is the recursion over the response that `Header.fragments` is, so that what is sent are the
fragments of the response, up to the first one that the bus refuses.

A list of packets is a `Fragmentation` of a response when its packets are marked, numbered and
counted as the receiving side of the same function expects them. Such a list, delivered to an
endpoint that holds nothing, hands exactly the response to `process_request`.
-/
import Amr.Mctp.Reassembly

namespace Amr.Mctp

open StateProgram Pldm

/-! ### Packets -/

/-- The part of the header that the packets of a response share. -/
structure Header where
  dest_slave_addr : UInt8
  src_slave_addr : UInt8
  hdr_version : UInt8
  dest_ep_id : UInt8
  src_ep_id : UInt8
  tag : ℕ
  tag_lt : tag < 2 ^ 3

namespace Header

/-- The byte with `tag`, `seq_num`, `eom` and `som` of packet `n`. -/
def flags (h : Header) (n : ℕ) (eom : Bool) : UInt8 :=
  UInt8.ofNat (h.tag + 2 ^ 4 * (n % 4) + 2 ^ 6 * eom.toNat + 2 ^ 7 * (decide (n = 0)).toNat)

/-- Packet `n`. -/
def frame (h : Header) (n : ℕ) (eom : Bool) (chunk : List UInt8) : List UInt8 :=
  [h.dest_slave_addr, UInt8.ofNat (MCTP_HEADER + chunk.length - 2), h.src_slave_addr,
    h.hdr_version, h.dest_ep_id, h.src_ep_id, h.flags n eom] ++ chunk

end Header

/-- The packets that the bus takes, up to the first that it refuses. -/
def taken (E : Oracle) : ℕ → List (List UInt8) → List (List UInt8)
  | _, [] => []
  | n, p :: ps => if E.write n then p :: taken E (n + 1) ps else []

variable {E : Oracle}

/-- The first `n` bytes of the payload in `RespBuffer`. -/
def Bmc.response (s : Bmc) (n : ℕ) : List UInt8 :=
  firstBytes (fun i => s.RespBuffer (MCTP_HEADER + i)) n

namespace Header

variable {h : Header} {n : ℕ} {eom : Bool} {chunk : List UInt8}

end Header

/-! ### What is sent -/

variable {P : Platform}

theorem Joined.front {ps : List View} (qs : List View) (hne : ps ≠ []) :
    Joined (ps ++ qs) → Joined ps := by
  induction qs using List.reverseRecOn with
  | nil => exact fun h => by rwa [List.append_nil] at h
  | append_singleton qs q ih =>
    intro h
    rw [← List.append_assoc] at h
    exact ih (h.init (by simp [hne]))

/-- The endpoint holds nothing, and no packet was written behind its buffer. -/
structure Ready (s : Bmc) (EID : ℕ) : Prop where
  empty : Empty s
  faults : Fault.reassembly ∉ s.faults
  addressed : s.EID = EID

namespace Header

variable {h : Header}

end Header

end Amr.Mctp
