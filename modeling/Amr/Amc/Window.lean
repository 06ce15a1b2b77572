/-
# The payload windows of the shared memory

The log window and the data window of a device (`src/sw/AMI/driver/ami_amc_control.c`, the acquire,
release and copy helpers), through which `submit_gcq_command` and the firmware's `iAmiCallback`
(`src/fw/AMC/src/apps/in_band/in_band_telemetry.c`) exchange the payloads of commands. The system is
the one of calls, response threads and firmware of the host proxy, with the shared memory of every
device next to it: a call copies when its own copy history says so, and the firmware writes the
payload of a request it has taken, byte by byte and at any time until it answers. A request carries
the address and the length of its call, so both are read from the call that wrote it.

The log window starts at `amc_data_start` and is one log page long; the data window starts behind
it. A window is guarded by a semaphore that a call takes when it forms its payload and gives back
when it returns, whatever the firmware has done with the request by then.

For every call the bytes that the firmware has written for it and the bytes that were copied to its
caller are remembered; no party reads them.

Left out: what the firmware does with the payloads it only reads, the contents of callers' buffers,
and the caches on both sides.
-/
import Amr.Amc.ResponseDelivery

namespace Amr.Amc.Window

open Transition
open Proxy (Thread Request Pc KeepsIds)

/-! ### Commands and their windows -/

/-- The command asks for bytes that the response switch copies to the caller. -/
def readsPayload (t : Thread) : Bool :=
  match t.cmdId with
  | .sensor => true
  | .eepromReadWrite | .moduleReadWrite =>
    rwType t.cmdId t.call.args.flags == AMC_PROXY_CMD_RW_REQUEST_READ
  | _ => false

/-- The firmware writes the payload of the command: an answer for the host, or the partition that
it copies through the window. -/
def fillsPayload (t : Thread) : Bool := readsPayload t || decide (t.cmdId = .copyPartition)

/-- The bytes of the payload that the firmware may write; the answer to a sensor request that fails
is two bytes long, whatever the length of the request. -/
def payloadExtent (t : Thread) : ℕ := max t.call.payloadSize.toNat 2

def inWindow (x : AmcControlCtxt) (r : Resource) (addr : ℕ) : Prop :=
  match r with
  | .gcqLogPageSema =>
    x.amcDataStart.toNat ≤ addr ∧ addr < x.amcDataStart.toNat + AMC_LOG_PAGE_SIZE.toNat
  | .gcqDataSema => x.amcDataStart.toNat + AMC_LOG_PAGE_SIZE.toNat ≤ addr
  | .gcqCmdLock => False

def acquired (t : Thread) : Resource → Bool
  | .gcqLogPageSema => t.call.logPageAcquired
  | .gcqDataSema => t.call.dataPageAcquired
  | .gcqCmdLock => false

/-- The firmware has not finished with a request of call `k`. -/
def atFirmware (p : Proxy.State) (d k : ℕ) : Prop :=
  ∃ m ∈ (p.devices d).sq ++ (p.devices d).taken, m.owner = k

/-- Call `k` uses a window of device `d`: it has placed its payload there, and it has not yet given
the semaphore back or the firmware has not yet finished with its request. -/
def Uses (p : Proxy.State) (d : ℕ) (r : Resource) (k : ℕ) : Prop :=
  ∃ t, p.threads k = some t ∧ t.dev = d ∧ semaOf t.cmdId = some r ∧
    (acquired t r = true ∧ t.pc ≠ .returned ∨ atFirmware p d k)

/-! ### The system -/

/-- The system and the shared memory of every device. -/
structure State where
  proxy : Proxy.State
  sharedMem : ℕ → ℕ → UInt8
  /-- for every call, the bytes of its payload that the firmware has written -/
  written : ℕ → ℕ → Option UInt8
  /-- for every call, the bytes that were copied to its caller -/
  dataBuf : ℕ → Option (ℕ → UInt8)

/-- A step of the system, with the contents of the caller's buffer where a call copies it; or the
firmware writes one byte of the payload of a request it has taken. -/
inductive Act
  | proxy (a : Proxy.Act) (buf : ℕ → UInt8)
  | fill (d i offset : ℕ) (byte : UInt8)

/-- `memcpy_toio` and `memcpy_fromio` of call `k` on device `d`. -/
def State.memcpy (s : State) (d k : ℕ) (buf : ℕ → UInt8) : Copy → State
  | .toDevice offset len =>
    { s with
      sharedMem := Function.update s.sharedMem d fun addr =>
        if offset.toNat ≤ addr ∧ addr < offset.toNat + len.toNat then buf (addr - offset.toNat)
        else s.sharedMem d addr }
  | .fromDevice offset _ =>
    { s with
      dataBuf := Function.update s.dataBuf k (some fun i => s.sharedMem d (offset.toNat + i)) }

/-- The copies that a section of a call has made. -/
def newCopies (t t' : Thread) : List Copy := t'.call.copies.drop t.call.copies.length

/-- The copies of a step, with the call that makes them. -/
def copiesOf (p p' : Proxy.State) : Proxy.Act → List (ℕ × ℕ × Copy)
  | .advance k _ _ =>
    match p.threads k, p'.threads k with
    | some t, some t' => (newCopies t t').map fun c => (t.dev, k, c)
    | _, _ => []
  | _ => []

/-- The state after an action, if it is enabled. -/
def step (s : State) : Act → Option State
  | .proxy a buf =>
    (Proxy.step s.proxy a).map fun p =>
      (copiesOf s.proxy p a).foldl (fun s c => s.memcpy c.1 c.2.1 buf c.2.2) { s with proxy := p }
  | .fill d i offset byte => do
    let m ← (s.proxy.devices d).taken[i]?
    let t ← s.proxy.threads m.owner
    if fillsPayload t = true ∧ offset < payloadExtent t then
      some { s with
        sharedMem := Function.update s.sharedMem d
          (Function.update (s.sharedMem d) (t.call.payloadAddress.toNat + offset) byte)
        written := Function.update s.written m.owner
          (Function.update (s.written m.owner) offset (some byte)) }
    else none

/-- The system as loaded. The data window lies behind the log window, as the firmware that
publishes both sees to. -/
structure State.IsStart (s : State) : Prop where
  proxy : s.proxy.IsStart
  layout : ∀ d, (s.proxy.devices d).ctxt.amcDataStart.toNat + AMC_LOG_PAGE_SIZE.toNat < 2 ^ 32
  written : ∀ k offset, s.written k offset = none

/-! ### What the windows promise -/

/-- A step writes the address on behalf of call `k`. -/
def Writes (s : State) (d k addr : ℕ) : Act → Prop
  | .proxy a _ => ∃ p, Proxy.step s.proxy a = some p ∧
    ∃ offset len, (d, k, .toDevice offset len) ∈ copiesOf s.proxy p a ∧
      offset.toNat ≤ addr ∧ addr < offset.toNat + len.toNat
  | .fill d' i offset _ => d' = d ∧ ∃ m t, (s.proxy.devices d).taken[i]? = some m ∧ m.owner = k ∧
    s.proxy.threads k = some t ∧ addr = t.call.payloadAddress.toNat + offset

/-- The caller of call `k` has got `data_size` bytes, and each is the one that the firmware wrote
for this call. -/
def Delivered (s : State) (k : ℕ) (t : Thread) : Prop :=
  ∃ bytes, s.dataBuf k = some bytes ∧
    ∀ i < t.call.args.dataSize.toNat, s.written k i = some (bytes i)

/-- The promise: while a call uses a window nobody else writes it, and what a successful read
returns is what the firmware wrote for it. The first part is about the steps that meet `ok`. -/
structure Owned (ok : State → Act → Prop) (s : State) : Prop where
  exclusive : ∀ a s' d j k r addr, ok s a → step s a = some s' → Writes s d j addr a →
    Uses s.proxy d r k → inWindow (s.proxy.devices d).ctxt r addr → j = k
  delivered : ∀ k t, s.proxy.threads k = some t → t.pc = .returned → t.call.ret = 0 →
    readsPayload t = true → Delivered s k t

/-! ### When it is kept -/

/-- No call takes a window while the firmware still has the request of an earlier call to it. -/
def TakesFree (p : Proxy.State) : Proxy.Act → Prop
  | .advance k fails _ => ∀ t ∈ p.threads k, fails = false → t.pc = .payload →
    semaOf t.cmdId ≠ none → ∀ m ∈ (p.devices t.dev).sq ++ (p.devices t.dev).taken,
      ∀ u ∈ p.threads m.owner, semaOf u.cmdId ≠ semaOf t.cmdId
  | _ => True

/-- The host takes the answer for a success. -/
def accepts (t : Thread) (payload : UInt64) (ret : UInt32) : Prop :=
  getResponse t.cmdId true
    { ProxyCmd.zero with cmdResponse := payload, cmdResponseCode := ret } = 0

/-- The firmware has written every byte that the host will copy, and the copy is in range. -/
def Covered (s : State) (k : ℕ) (t : Thread) : Prop :=
  t.call.ctxt.inRange t.call.payloadAddress t.call.args.dataSize = true ∧
    ∀ i < t.call.args.dataSize.toNat, (s.written k i).isSome = true

/-- The firmware answers a read with success only after it has written all bytes of the answer. -/
def AnswersWhole (s : State) : Proxy.Act → Prop
  | .answer d i payload ret => ∀ m ∈ (s.proxy.devices d).taken[i]?, ∀ t ∈ s.proxy.threads m.owner,
    readsPayload t = true → accepts t payload ret → Covered s m.owner t
  | _ => True

/-- The condition on a step: ids are not confused, windows are taken when they are free, and reads
are answered in full. -/
def Ok (s : State) : Act → Prop
  | .proxy a _ => KeepsIds s.proxy a ∧ TakesFree s.proxy a ∧ AnswersWhole s a
  | .fill .. => True

end Amr.Amc.Window
