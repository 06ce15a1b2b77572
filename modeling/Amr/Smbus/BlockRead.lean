/-
# The block read of a controller

The target of a block read sends a byte count and then the bytes. A read descriptor acknowledges the
byte received last: `READ_BYTE` asks for another byte, `READ_STOP` and `READ_PEC` end the read. The
count is answered as soon as it is there (`vBlockSize`), and the descriptors for the data go in the
descriptor FIFO in pieces, as many at a time as it has room for, in two states of the machine
(`vFillReadDescriptors`). The bytes are taken from the receive FIFO in pieces of their own.

What is to be asked for is stated for the count that the target sent (`blockDescriptors`). A PEC is
due where the caller asked for one and at the address of address resolution, which is the test that
`vBlockSize` makes. A run starts with the accepted command and goes on as long as the instance reads;
its state keeps the bytes that came from the target.
-/
import Amr.Smbus.WriteTransmission

namespace Amr.Smbus

open StateProgram Transition

set_option synthInstance.maxSize 20000
set_option synthInstance.maxHeartbeats 200000

/-! ### What is asked for and handed over -/

/-- The read descriptors put in the controller descriptor FIFO, in order. -/
def Profile.asked (s : Profile) : List RegisterWrite := s.written.filter RegisterWrite.reads

/-- The data handed to the application, in order. -/
def Profile.handed (s : Profile) : List (List ℕ) := s.calls.filterMap Call.handed

/-- The number of bytes stored outside the receive buffer. -/
def Profile.overflows (s : Profile) : ℕ := s.faults.count .receivedData

/-- The protocols with a block count from the target. -/
def blockReads : List Protocol :=
  [.BLOCK_READ, .BLK_WRITE_BLK_RD_PROCESS_CALL, .ARP_GET_UDID, .ARP_GET_UDID_DIRECTED]

def Initiate.pecDue (a : Initiate) : Bool :=
  a.ucPecRequiredForTransaction || decide (a.ucSMBusDestAddr = DEVICE_DEFAULT_ARP_ADDRESS)

/-- The descriptor that acknowledges the count, where another byte follows it. -/
def countDescriptors (pec : Bool) (count : ℕ) : List RegisterWrite :=
  if pec = true ∨ 0 < count then [.CONTROLLER_READ_BYTE] else []

/-- The descriptors for the bytes of a block and for the end of the read. -/
def dataDescriptors (pec : Bool) (count : ℕ) : List RegisterWrite :=
  if pec = true then List.replicate count .CONTROLLER_READ_BYTE ++ [.CONTROLLER_READ_PEC]
  else List.replicate (count - 1) .CONTROLLER_READ_BYTE ++ [.CONTROLLER_READ_STOP]

def blockDescriptors (pec : Bool) (count : ℕ) : List RegisterWrite :=
  countDescriptors pec count ++ dataDescriptors pec count

/-! ### Runs -/

/-- The states of a block read, a write of the process call before it included. -/
def readingStates : List State :=
  [.INITIAL, .CONTROLLER_SEND_COMMAND, .CONTROLLER_WRITE_BYTE, .CONTROLLER_SEND_READ_START,
    .CONTROLLER_READ_BLOCK_SIZE, .CONTROLLER_READ_BYTE, .CONTROLLER_READ_DONE]

def Profile.ReadsBlock (s : Profile) (n : ℕ) (p : Protocol) : Prop :=
  s.xState n ∈ readingStates ∧ (s.xTransfer n).xProtocol = p

instance (s : Profile) (n : ℕ) (p : Protocol) : Decidable (s.ReadsBlock n p) := by
  unfold Profile.ReadsBlock; infer_instance

/-- A block read with the bytes that came from the target, the count first. -/
structure BlockRead where
  profile : Profile
  received : List ℕ

/-- The bytes that the loop over a FIFO takes from the registers it reads. -/
def pendingData : List ℕ → List ℕ
  | [] => []
  | [status] => if status % 2 = 1 then [] else [0]
  | status :: payload :: registers =>
    if status % 2 = 1 then [] else payload % 2 ^ 8 :: pendingData registers

/-- The bytes that a step takes from the target. -/
def arrivals (st : State) (x : Input) : List ℕ :=
  match st, x.event with
  | .CONTROLLER_READ_BLOCK_SIZE, .CONTROLLER_DATA_IRQ => [x.registers.headD 0 % 2 ^ 8]
  | .CONTROLLER_READ_BYTE, .CONTROLLER_DATA_IRQ => pendingData x.registers
  | _, _ => []

/-- An instance that reads a block handles an event. -/
def readStep (n : ℕ) (p : Protocol) (r : BlockRead) (x : Input) : Option BlockRead :=
  if r.profile.ReadsBlock n p then
    some ⟨exec (vSMBusFSM n x.event) (r.profile.given x),
      r.received ++ arrivals (r.profile.xState n) x⟩
  else none

/-- What has been asked for is right for the block that comes: nothing before the count, the count
is answered, and the descriptors are the first of those for the block. Data are handed over once, all
descriptors were issued then, and the data are the bytes that came after the count. -/
def BlockRight (base : Profile) (pec : Bool) (r : BlockRead) : Prop :=
  r.profile.overflows = base.overflows ∧
  match r.received with
  | [] => r.profile.asked = base.asked ∧ r.profile.handed = base.handed
  | count :: data => ∃ ws, r.profile.asked = base.asked ++ ws ∧ ws ≠ [] ∧
      ws <+: blockDescriptors pec count ∧
      (r.profile.handed = base.handed ∨
        count ≤ data.length ∧ ws = blockDescriptors pec count ∧
          r.profile.handed = base.handed ++ [data.take count])

/-- All registers read as zero: the FIFOs are found empty. -/
def Input.idle (x : Input) : Prop := ∀ v ∈ x.registers, v = 0

instance (x : Input) : Decidable x.idle := by unfold Input.idle; infer_instance

def Profile.complete (s : Profile) (n : ℕ) (base : Profile) (pec : Bool) : Prop :=
  s.asked = base.asked ++ blockDescriptors pec (s.xTransfer n).usExpectedByteCount

instance (s : Profile) (n : ℕ) (base : Profile) (pec : Bool) :
    Decidable (s.complete n base pec) := by
  unfold Profile.complete; infer_instance

/-- An event that finds the descriptor FIFO empty puts a descriptor in it, while there are some
missing for the data, and in the end while any is missing. -/
def Advances (n : ℕ) (base : Profile) (pec : Bool) (r : BlockRead) (x : Input) (r' : BlockRead) :
    Prop :=
  x.event = .CONTROLLER_DESC_FIFO_ALMOST_EMPTY_IRQ → x.idle →
  ¬ r.profile.complete n base pec →
  (r.profile.xState n = .CONTROLLER_READ_BYTE ∧ r.profile.asked.length ≤
      base.asked.length + (r.profile.xTransfer n).usExpectedByteCount ∨
    r.profile.xState n = .CONTROLLER_READ_DONE) →
  r.profile.asked.length < r'.profile.asked.length

def RightStep (n : ℕ) (base : Profile) (pec : Bool) (r : BlockRead) (x : Input)
    (r' : BlockRead) : Prop :=
  BlockRight base pec r' ∧ Advances n base pec r x r'

/-! ### Steps that ask for nothing -/

instance (b : ℕ) : Asks (.CONTROLLER_WRITE_BYTE b) := ⟨rfl⟩
instance (b : ℕ) : Asks (.CONTROLLER_WRITE_STOP b) := ⟨rfl⟩
instance : Asks .CONTROLLER_WRITE_PEC := ⟨rfl⟩

/-- Nothing more is asked for or handed over, and no byte is stored outside the buffer. -/
abbrev Unasked : Profile → Profile → Prop := Same fun s => (s.asked, s.handed, s.overflows)

section Unasked

instance (w : RegisterWrite) [h : Asks w] : Within Unasked (write w) := by
  refine ⟨fun s => ?_⟩
  have hfilter : [w].filter RegisterWrite.reads = [] := by simp [h.nothing]
  have hasked : Profile.asked { s with written := s.written ++ [w] } = s.asked := by
    rw [Profile.asked, List.filter_append, hfilter, List.append_nil, Profile.asked]
  exact congrArg (·, s.handed, s.overflows) hasked

instance (c : Call) [h : Handless c] : Within Unasked (call c) := by
  refine ⟨fun s => ?_⟩
  have hfilter : [c].filterMap Call.handed = [] := by simp [h.nothing]
  have hhanded : Profile.handed { s with calls := s.calls ++ [c] } = s.handed := by
    rw [Profile.handed, List.filterMap_append, hfilter, List.append_nil, Profile.handed]
  exact congrArg (s.asked, ·, s.overflows) hhanded

instance : Within Unasked (fault .sendData) := by
  refine ⟨fun s => ?_⟩
  have hcount : [Fault.sendData].count .receivedData = 0 := by decide
  have hoverflows : Profile.overflows { s with faults := s.faults ++ [.sendData] } =
      s.overflows := by
    rw [Profile.overflows, List.count_append, hcount, Nat.add_zero, Profile.overflows]
  exact congrArg (s.asked, s.handed, ·) hoverflows

instance : Loose Unasked where
  same := fun hwritten hcalls hfaults => by
    simp only [Same, Profile.asked, Profile.handed, Profile.overflows, hwritten, hcalls, hfaults]
  neutral := fun _ _ => inferInstance
  handless := fun _ _ => inferInstance

instance (b : ℕ) (u : Bool) : Within Unasked (ucSMBusControllerWriteDescriptorByte b u) := by
  unfold ucSMBusControllerWriteDescriptorByte; infer_instance

instance (n : ℕ) (e : Event) : Within Unasked (vStateControllerSendCommand n e) := by
  unfold vStateControllerSendCommand
  split <;> infer_instance

instance (n : ℕ) : Within Unasked (ucNextSendByte n) := by unfold ucNextSendByte; infer_instance

instance : Within Unasked ulSMBusHWReadCtrlDescStatusFillLevel := by
  unfold ulSMBusHWReadCtrlDescStatusFillLevel; infer_instance

instance (n : ℕ) : Within Unasked (vControllerWrite n) := by
  unfold vControllerWrite vFillWrite vFillAssign vWriteLast vByteSent
    ucSMBusControllerWriteDescriptorStopWrite ucSMBusControllerWriteDescriptorPECWrite
  infer_instance

instance (n : ℕ) : Within Unasked (vReadProgress n) := by unfold vReadProgress; infer_instance

end Unasked

/-- The fields of the transfer that a block read relies on are the same. -/
abbrev Held (n : ℕ) : Profile → Profile → Prop := Same fun s =>
  ((s.xTransfer n).xProtocol, (s.xTransfer n).usReceiveIndex, (s.xTransfer n).ucSMBusDestAddr,
    (s.xTransfer n).ucPecRequiredForTransaction)

section Held

variable (n : ℕ)

instance : Ambient (Held n) where
  reads := fun _ => ⟨fun _ => rfl⟩
  writes := fun _ => ⟨fun _ => rfl⟩
  calls := fun _ => ⟨fun _ => rfl⟩
  notes := fun _ => ⟨fun _ => rfl⟩
  strikes := fun _ => ⟨fun _ => rfl⟩

instance : Faulting (Held n) := ⟨fun _ => ⟨fun _ => rfl⟩⟩

instance (e : Event) : Within (Held n) (vSMBusCreateEvent n e) := by
  refine ⟨fun s => ?_⟩
  simp only [vSMBusCreateEvent, exec_modify]
  split <;> rfl

instance (st : State) : Within (Held n) (vSMBusNextStateDecoder n st) := ⟨fun _ => rfl⟩

instance : Within (Held n) (vByteSent n) :=
  ⟨fun s => by simp [Same, vByteSent, setTransfer]⟩

instance : Within (Held n) (setTransfer n fun t => { t with usDescriptorsSent := 0 }) :=
  ⟨fun s => by simp [Same, setTransfer]⟩

instance : Within (Held n) (ucNextSendByte n) := by unfold ucNextSendByte; infer_instance

instance : Within (Held n) (vSMBusHandleActionCreateEventSendNextByte n) := by
  unfold vSMBusHandleActionCreateEventSendNextByte; infer_instance

instance : Within (Held n) (vControllerWrite n) := by
  unfold vControllerWrite vFillWrite vFillAssign vWriteLast; infer_instance

end Held

/-! ### Up to the block count -/

/-- The states before the read descriptors. -/
def beforeCount : List State :=
  [.INITIAL, .CONTROLLER_SEND_COMMAND, .CONTROLLER_WRITE_BYTE, .CONTROLLER_SEND_READ_START,
    .CONTROLLER_READ_BLOCK_SIZE]

/-- A step that asks for nothing, after which the instance still waits for the count or reads no
block any more. -/
structure Waits (n : ℕ) (p : Protocol) (s s' : Profile) : Prop where
  unasked : Unasked s s'
  held : s'.ReadsBlock n p → Held n s s' ∧ s'.xState n ∈ beforeCount

section Waits

variable {n : ℕ} {p : Protocol} {s s' : Profile}

theorem Waits.of_turns (hp : p ≠ .NONE) (hst : s.xState n ∈ beforeCount) (hunasked : Unasked s s')
    (h : Turns n s s') : Waits n p s s' := by
  refine ⟨hunasked, fun hreads => ?_⟩
  rcases h with ⟨htransfer, hstate⟩ | ⟨-, hprotocol, -⟩ | hstate
  · refine ⟨?_, by rw [hstate]; exact hst⟩
    change (_, _, _, _) = (_, _, _, _)
    rw [htransfer]
  · exact absurd (hreads.2.symm.trans hprotocol) hp
  · have hreading := hreads.1
    refine absurd hreading ?_
    revert hstate
    generalize s'.xState n = st
    cases st <;> decide

theorem blockRead_ne (hp : p ∈ blockReads) : p ≠ .NONE ∧
    p ∉ [.QUICK_CMD_LO, .QUICK_CMD_HI, .RECEIVE_BYTE, .I2C_READ] ∧
    p ∉ [.I2C_WRITE, .I2C_WRITE_READ] := by
  revert hp
  cases p <;> decide

theorem initial_waits (hp : p ∈ blockReads) (hs : s.ReadsBlock n p) (hst : s.xState n = .INITIAL)
    (e : Event) : Waits n p s (exec (vStateInitial n e) s) := by
  obtain ⟨hnone, hstart, hi2c⟩ := blockRead_ne hp
  by_cases he : e = .SEND_NEXT_BYTE
  · rw [he]
    refine ⟨Within.rel s, fun _ => ?_⟩
    have hexec : exec (vStateInitial n .SEND_NEXT_BYTE) s = exec (vStartCommand n p) s := by
      simp only [vStateInitial]
      rw [exec_transfer_bind, hs.2]
    obtain ⟨-, htransfer, hstate⟩ := vStartCommand_effect (n := n) hstart s
    rw [hexec]
    refine ⟨?_, ?_⟩
    · change (_, _, _, _) = (_, _, _, _)
      rw [htransfer]
    · rw [hstate, startState, if_neg hi2c]
      decide
  · exact .of_turns hnone (by rw [hst]; decide) (Within.rel s) (vStateInitial_turns he s)

theorem sendCommand_waits (hp : p ∈ blockReads) (hst : s.xState n = .CONTROLLER_SEND_COMMAND)
    (e : Event) : Waits n p s (exec (vStateControllerSendCommand n e) s) := by
  by_cases he : e = .SEND_NEXT_BYTE
  · rw [he]
    have hheld : Within (Held n) (vStateControllerSendCommand n .SEND_NEXT_BYTE) := by
      simp only [vStateControllerSendCommand]; infer_instance
    have hsteer : Within (Steer n [.CONTROLLER_SEND_READ_START, .CONTROLLER_WRITE_BYTE]
        [.SEND_NEXT_BYTE]) (vStateControllerSendCommand n .SEND_NEXT_BYTE) := by
      simp only [vStateControllerSendCommand]; infer_instance
    refine ⟨Within.rel s, fun _ => ⟨hheld.rel s, ?_⟩⟩
    rcases (hsteer.rel s).state with hstate | hstate
    · rw [hstate, hst]; decide
    · revert hstate
      generalize (exec (vStateControllerSendCommand n .SEND_NEXT_BYTE) s).xState n = st
      cases st <;> decide
  · have hother : vStateControllerSendCommand n e = vOtherEvent n e := by
      unfold vStateControllerSendCommand
      split
      · exact absurd rfl he
      · rfl
    rw [hother]
    exact .of_turns (blockRead_ne hp).1 (by rw [hst]; decide) (Within.rel s)
      (vOtherEvent_turns n e s)

theorem writeByte_waits (hp : p ∈ blockReads) (hst : s.xState n = .CONTROLLER_WRITE_BYTE)
    (e : Event) : Waits n p s (exec (vStateControllerWriteByte n e) s) := by
  have hwrite : Waits n p s (exec (vControllerWrite n) s) := by
    refine ⟨Within.rel s, fun hreads => ⟨Within.rel s, ?_⟩⟩
    have hsteer : Within (Steer n [.CONTROLLER_SEND_READ_START, .CONTROLLER_WRITE_BYTE,
        .AWAITING_DONE] [.SEND_NEXT_BYTE]) (vControllerWrite n) := by
      unfold vControllerWrite vWriteLast; infer_instance
    have hreading := hreads.1
    rcases (hsteer.rel s).state with hstate | hstate
    · rw [hstate, hst]; decide
    · revert hstate hreading
      generalize (exec (vControllerWrite n) s).xState n = st
      cases st <;> decide
  unfold vStateControllerWriteByte
  split
  · exact hwrite
  · exact hwrite
  · exact .of_turns (blockRead_ne hp).1 (by rw [hst]; decide) (Within.rel s)
      (vOtherEvent_turns n _ s)

theorem readStart_waits (hp : p ∈ blockReads) (hs : s.ReadsBlock n p)
    (hst : s.xState n = .CONTROLLER_SEND_READ_START) (e : Event) :
    Waits n p s (exec (vStateControllerSendReadStart n e) s) := by
  unfold vStateControllerSendReadStart
  split
  · have hblock : (s.xTransfer n).xProtocol ∈ [.BLOCK_READ, .BLK_WRITE_BLK_RD_PROCESS_CALL,
        .ARP_GET_UDID, .ARP_GET_UDID_DIRECTED] := by rw [hs.2]; exact hp
    have hi2c : ¬ (s.xTransfer n).xProtocol = .I2C_WRITE_READ := by
      rw [hs.2]
      exact fun h => (blockRead_ne hp).2.2 (by rw [h]; decide)
    rw [exec_transfer_bind, if_neg hi2c, if_pos hblock]
    generalize hbody : (do
      setTransfer n fun t => { t with usDescriptorsSent := 0 }
      let _ ← ucSMBusControllerReadDescriptorStart (s.xTransfer n).ucSMBusDestAddr
      let _ ← ulSMBusHWReadCtrlDescStatusFillLevel
      write .CtrlControlEnable
      vSMBusNextStateDecoder n .CONTROLLER_READ_BLOCK_SIZE : Routine Unit) = body
    have hunasked : Within Unasked body := by
      rw [← hbody]; unfold ucSMBusControllerReadDescriptorStart; infer_instance
    have hheld : Within (Held n) body := by rw [← hbody]; infer_instance
    have hlands : Within (Lands n [.CONTROLLER_READ_BLOCK_SIZE]) body := by
      rw [← hbody]; infer_instance
    refine ⟨hunasked.rel s, fun _ => ⟨hheld.rel s, ?_⟩⟩
    rw [List.mem_singleton.mp (hlands.rel s)]
    decide
  · exact .of_turns (blockRead_ne hp).1 (by rw [hst]; decide) (Within.rel s)
      (vOtherEvent_turns n _ s)

end Waits

/-! ### Filling the descriptor FIFO -/

/-- The profile after read descriptors were issued and counted, with the registers that are left. -/
def Profile.issues (s : Profile) (n : ℕ) (ws : List RegisterWrite) (registers : List ℕ) : Profile :=
  { s with
    registers := registers
    written := s.written ++ ws
    xTransfer := Function.update s.xTransfer n { s.xTransfer n with
      usDescriptorsSent := (s.xTransfer n).usDescriptorsSent + ws.length } }

theorem issues_issues (s : Profile) (n : ℕ) (ws vs : List RegisterWrite) (rs rs' : List ℕ) :
    (s.issues n ws rs).issues n vs rs' = s.issues n (ws ++ vs) rs' := by
  simp only [Profile.issues, Function.update_self, Function.update_idem, List.append_assoc,
    List.length_append, Nat.add_assoc]

theorem issues_nil (s : Profile) (n : ℕ) : s.issues n [] s.registers = s := by
  simp [Profile.issues, Function.update_eq_self]

theorem issues_transfer (s : Profile) (n : ℕ) (ws : List RegisterWrite) (rs : List ℕ) :
    (s.issues n ws rs).xTransfer n = { s.xTransfer n with
      usDescriptorsSent := (s.xTransfer n).usDescriptorsSent + ws.length } :=
  Function.update_self _ _ _

def ender (pec : Bool) : RegisterWrite :=
  if pec = true then .CONTROLLER_READ_PEC else .CONTROLLER_READ_STOP

/-- The number of data descriptors before the one that ends the read. -/
def Transfer.limit (t : Transfer) (pec : Bool) : ℕ :=
  if pec = true then t.usExpectedByteCount else t.usExpectedByteCount - 1

/-- The descriptors that fit the room: those for the data that are left, and the last one. -/
def fillUp (pec : Bool) (left room : ℕ) (registers : List ℕ) : List RegisterWrite :=
  if left < room ∧ ¬ refuses registers then
    List.replicate left .CONTROLLER_READ_BYTE ++ [ender pec]
  else List.replicate (min room left) .CONTROLLER_READ_BYTE

/-- One round of the loop that fills the FIFO. -/
def vFillOne (n : ℕ) (pec : Bool) : Routine Bool := do
  let t ← transfer n
  if t.usDescriptorsSent < t.limit pec then do
    let ok ← ucSMBusControllerReadDescriptorByte true
    if ok = true then do
      vDescriptorSent n
      pure true
    else pure false
  else if pec = true then do
    let ok ← ucSMBusControllerReadDescriptorPEC
    (if ok = true then vDescriptorSent n else pure ())
    pure false
  else if t.usDescriptorsSent = t.usExpectedByteCount - 1 then do
    let ok ← ucSMBusControllerReadDescriptorStop
    if ok = true then do
      vDescriptorSent n
      pure true
    else pure false
  else pure true

section Fill

variable {n : ℕ} {pec : Bool} {s : Profile}

theorem run_transfer_bind {β : Type} (n : ℕ) (f : Transfer → Routine β) (s : Profile) :
    (transfer n >>= f).run s = (f (s.xTransfer n)).run s := rfl

theorem run_descriptor_full {β : Type} (w : RegisterWrite) (f : Bool → Routine β) (h : s.full) :
    (prvucSMBusControllerDescriptorApply w false >>= f).run s =
      (f false).run { s with registers := s.registers.tail } := by
  have hrun := targetDescriptorApply_full w h
  rw [controllerDescriptorApply_eq, run_bind, value, exec, hrun]

theorem run_descriptor_room {β : Type} (w : RegisterWrite) (f : Bool → Routine β)
    (h : ¬ s.full) : (prvucSMBusControllerDescriptorApply w false >>= f).run s =
      (f true).run { s with registers := s.registers.tail, written := s.written ++ [w] } := by
  have hrun := targetDescriptorApply_room w h
  rw [controllerDescriptorApply_eq, run_bind, value, exec, hrun]

theorem run_counted (hsent : (s.xTransfer n).usDescriptorsSent ≤ DATA_SIZE_MAX) (w : RegisterWrite)
    (rs : List ℕ) (b : Bool) :
    (do
      vDescriptorSent n
      pure b : Routine Bool).run { s with registers := rs, written := s.written ++ [w] } =
      (b, s.issues n [w] rs) := by
  simp only [Profile.issues, List.length_singleton, ← inc16_eq hsent]
  rfl

theorem run_fillOne_data (hsent : (s.xTransfer n).usDescriptorsSent < (s.xTransfer n).limit pec)
    (hmax : (s.xTransfer n).usDescriptorsSent ≤ DATA_SIZE_MAX) :
    (vFillOne n pec).run s = (true, s.issues n [.CONTROLLER_READ_BYTE] s.registers) := by
  rw [vFillOne, run_transfer_bind, if_pos hsent, ← run_counted hmax]
  rfl

theorem run_fillOne_refused (hsent : (s.xTransfer n).usDescriptorsSent = (s.xTransfer n).limit pec)
    (hfull : s.full) :
    (vFillOne n pec).run s = (false, s.issues n [] s.registers.tail) := by
  have hnot : ¬ (s.xTransfer n).usDescriptorsSent < (s.xTransfer n).limit pec := by omega
  have hissues : s.issues n [] s.registers.tail = { s with registers := s.registers.tail } := by
    simp [Profile.issues, Function.update_eq_self]
  rw [vFillOne, run_transfer_bind, if_neg hnot, hissues]
  cases pec with
  | true =>
    rw [if_pos rfl, ucSMBusControllerReadDescriptorPEC, run_descriptor_full _ _ hfull,
      if_neg Bool.false_ne_true]
    rfl
  | false =>
    have hstop : (s.xTransfer n).usDescriptorsSent = (s.xTransfer n).usExpectedByteCount - 1 :=
      hsent
    rw [if_neg Bool.false_ne_true, if_pos hstop, ucSMBusControllerReadDescriptorStop,
      run_descriptor_full _ _ hfull, if_neg Bool.false_ne_true]
    rfl

theorem run_fillOne_taken (hsent : (s.xTransfer n).usDescriptorsSent = (s.xTransfer n).limit pec)
    (hmax : (s.xTransfer n).usDescriptorsSent ≤ DATA_SIZE_MAX) (hroom : ¬ s.full) :
    (vFillOne n pec).run s = (!pec, s.issues n [ender pec] s.registers.tail) := by
  have hnot : ¬ (s.xTransfer n).usDescriptorsSent < (s.xTransfer n).limit pec := by omega
  rw [vFillOne, run_transfer_bind, if_neg hnot, ← run_counted hmax]
  cases pec with
  | true =>
    rw [if_pos rfl, ucSMBusControllerReadDescriptorPEC, run_descriptor_room _ _ hroom, if_pos rfl]
    rfl
  | false =>
    have hstop : (s.xTransfer n).usDescriptorsSent = (s.xTransfer n).usExpectedByteCount - 1 :=
      hsent
    rw [if_neg Bool.false_ne_true, if_pos hstop, ucSMBusControllerReadDescriptorStop,
      run_descriptor_room _ _ hroom, if_pos rfl]
    rfl

theorem forBreak_fill_over (hpos : 0 < (s.xTransfer n).usExpectedByteCount)
    (hsent : (s.xTransfer n).usDescriptorsSent = (s.xTransfer n).usExpectedByteCount) (k : ℕ) :
    exec (forBreak (vFillOne n false) k) s = s := by
  have hrun : (vFillOne n false).run s = (true, s) := by
    have hlimit : ¬ (s.xTransfer n).usDescriptorsSent < (s.xTransfer n).limit false := by
      change ¬ (s.xTransfer n).usDescriptorsSent < (s.xTransfer n).usExpectedByteCount - 1
      omega
    rw [vFillOne, run_transfer_bind, if_neg hlimit, if_neg Bool.false_ne_true,
      if_neg (by omega)]
    rfl
  have hvalue : value (vFillOne n false) s = true := congrArg Prod.fst hrun
  have hexec : exec (vFillOne n false) s = s := congrArg Prod.snd hrun
  induction k with
  | zero => rfl
  | succ k ih => rw [forBreak, exec_bind, hvalue, hexec, if_pos rfl, ih]

theorem forBreak_fill (pec : Bool) (k : ℕ) : ∀ s : Profile,
    (s.xTransfer n).usDescriptorsSent ≤ (s.xTransfer n).limit pec →
    (s.xTransfer n).usExpectedByteCount ≤ DATA_SIZE_MAX →
    (pec = false → 0 < (s.xTransfer n).usExpectedByteCount) →
    ∃ rs, exec (forBreak (vFillOne n pec) k) s = s.issues n (fillUp pec
      ((s.xTransfer n).limit pec - (s.xTransfer n).usDescriptorsSent) k s.registers) rs := by
  induction k with
  | zero =>
    intro s _ _ _
    refine ⟨s.registers, ?_⟩
    rw [fillUp, if_neg fun h => Nat.not_lt_zero _ h.1, Nat.zero_min, List.replicate_zero,
      issues_nil]
    rfl
  | succ k ih =>
    intro s hle hmax hpos
    have hlimit : (s.xTransfer n).limit pec ≤ (s.xTransfer n).usExpectedByteCount := by
      unfold Transfer.limit
      split <;> omega
    rw [forBreak, exec_bind]
    rcases Nat.lt_or_eq_of_le hle with hsent | hsent
    · have hrun := run_fillOne_data hsent (by omega)
      have hvalue : value (vFillOne n pec) s = true := congrArg Prod.fst hrun
      have hexec : exec (vFillOne n pec) s = s.issues n [.CONTROLLER_READ_BYTE] s.registers :=
        congrArg Prod.snd hrun
      have htransfer := issues_transfer s n [.CONTROLLER_READ_BYTE] s.registers
      obtain ⟨rs, hrest⟩ := ih (s.issues n [.CONTROLLER_READ_BYTE] s.registers)
        (by rw [htransfer]; exact hsent) (by rw [htransfer]; exact hmax)
        (by rw [htransfer]; exact hpos)
      refine ⟨rs, ?_⟩
      rw [hvalue, hexec, if_pos rfl, hrest, issues_issues, htransfer]
      congr 1
      change .CONTROLLER_READ_BYTE :: fillUp pec ((s.xTransfer n).limit pec -
        ((s.xTransfer n).usDescriptorsSent + 1)) k s.registers = _
      obtain ⟨left, hleft⟩ : ∃ left,
          (s.xTransfer n).limit pec - (s.xTransfer n).usDescriptorsSent = left + 1 :=
        ⟨_, (Nat.succ_pred_eq_of_pos (by omega)).symm⟩
      rw [← Nat.sub_sub, hleft, Nat.add_sub_cancel]
      simp only [fillUp, Nat.add_lt_add_iff_right, Nat.add_min_add_right]
      split <;> simp [List.replicate_succ]
    · have hzero : (s.xTransfer n).limit pec - (s.xTransfer n).usDescriptorsSent = 0 := by omega
      by_cases hfull : refuses s.registers
      · have hrun := run_fillOne_refused (n := n) hsent hfull
        have hvalue : value (vFillOne n pec) s = false := congrArg Prod.fst hrun
        have hexec : exec (vFillOne n pec) s = s.issues n [] s.registers.tail :=
          congrArg Prod.snd hrun
        refine ⟨s.registers.tail, ?_⟩
        rw [hvalue, hexec, if_neg Bool.false_ne_true, hzero, fillUp, if_neg fun h => h.2 hfull,
          Nat.min_zero, List.replicate_zero]
        rfl
      · have hrun := run_fillOne_taken (n := n) hsent (by omega) hfull
        have hvalue : value (vFillOne n pec) s = !pec := congrArg Prod.fst hrun
        have hexec : exec (vFillOne n pec) s = s.issues n [ender pec] s.registers.tail :=
          congrArg Prod.snd hrun
        refine ⟨s.registers.tail, ?_⟩
        have hlast : fillUp pec 0 (k + 1) s.registers = [ender pec] :=
          if_pos ⟨Nat.succ_pos k, hfull⟩
        rw [hvalue, hexec, hzero, hlast]
        cases pec with
        | true => rfl
        | false =>
          have hposs := hpos rfl
          have htransfer := issues_transfer s n [ender false] s.registers.tail
          have hstop : (s.xTransfer n).usDescriptorsSent =
            (s.xTransfer n).usExpectedByteCount - 1 := hsent
          rw [Bool.not_false, if_pos rfl]
          refine forBreak_fill_over (by rw [htransfer]; exact hposs) ?_ k
          rw [htransfer]
          change (s.xTransfer n).usDescriptorsSent + 1 = (s.xTransfer n).usExpectedByteCount
          omega

/-- **Filling.** The descriptors that fit the FIFO's room are issued. -/
theorem vFillReadDescriptors_effect
    (hle : (s.xTransfer n).usDescriptorsSent ≤ (s.xTransfer n).limit pec)
    (hmax : (s.xTransfer n).usExpectedByteCount ≤ DATA_SIZE_MAX)
    (hpos : pec = false → 0 < (s.xTransfer n).usExpectedByteCount) :
    ∃ rs, exec (vFillReadDescriptors n pec) s = s.issues n (fillUp pec
      ((s.xTransfer n).limit pec - (s.xTransfer n).usDescriptorsSent) s.room
      s.registers.tail) rs := by
  have hfill : exec (vFillReadDescriptors n pec) s =
      exec (forBreak (vFillOne n pec) s.room) { s with registers := s.registers.tail } := rfl
  rw [hfill]
  exact forBreak_fill pec s.room { s with registers := s.registers.tail } hle hmax hpos

end Fill

/-! ### The answer to the count -/

/-- A step that asks for `ws` and hands nothing over. -/
structure Adds (s s' : Profile) (ws : List RegisterWrite) : Prop where
  asked : s'.asked = s.asked ++ ws
  handed : s'.handed = s.handed
  overflows : s'.overflows = s.overflows

theorem Adds.of_unasked {s s' : Profile} (h : Unasked s s') : Adds s s' [] := by
  simp only [Same, Prod.mk.injEq] at h
  exact ⟨by rw [h.1, List.append_nil], h.2.1, h.2.2⟩

theorem Adds.trans {s m s' : Profile} {ws vs : List RegisterWrite} (h : Adds s m ws)
    (h' : Adds m s' vs) : Adds s s' (ws ++ vs) :=
  ⟨by rw [h'.asked, h.asked, List.append_assoc], h'.handed.trans h.handed,
    h'.overflows.trans h.overflows⟩

theorem Adds.unasked {s m s' : Profile} {ws : List RegisterWrite} (h : Adds s m ws)
    (h' : Unasked m s') : Adds s s' ws := by
  have htrans := h.trans (.of_unasked h')
  rwa [List.append_nil] at htrans

theorem adds_issues (s : Profile) (n : ℕ) {ws : List RegisterWrite} (rs : List ℕ)
    (hws : ∀ w ∈ ws, w.reads = true) : Adds s (s.issues n ws rs) ws := by
  refine ⟨?_, rfl, rfl⟩
  simp only [Profile.asked, Profile.issues, List.filter_append]
  rw [List.filter_eq_self.mpr hws]

theorem adds_offered (s : Profile) {w : RegisterWrite} (hw : w.reads = true) :
    Adds s (s.offered w) (taken w s.registers) := by
  refine ⟨?_, rfl, rfl⟩
  simp only [Profile.asked, Profile.offered, List.filter_append, taken]
  split <;> simp [hw]

/-- What the handler of the count issues. -/
def countAnswer (due : Bool) (size : ℕ) (registers : List ℕ) : List RegisterWrite :=
  if due = true then
    taken .CONTROLLER_READ_BYTE registers ++
      if size = 0 then taken .CONTROLLER_READ_PEC registers.tail else []
  else if size = 0 then taken .CONTROLLER_READ_STOP registers
  else taken .CONTROLLER_READ_BYTE registers

/-- The test for a PEC that the handler of the count makes. -/
def Transfer.due (t : Transfer) : Bool :=
  t.ucPecRequiredForTransaction || decide (t.ucSMBusDestAddr = DEVICE_DEFAULT_ARP_ADDRESS)

theorem due_iff (t : Transfer) : t.due = true ↔
    t.ucPecRequiredForTransaction = true ∨ t.ucSMBusDestAddr = DEVICE_DEFAULT_ARP_ADDRESS := by
  rw [Transfer.due, Bool.or_eq_true, decide_eq_true_iff]

/-- The part of the bytes that is waited for first. -/
def countPart (size : ℕ) : ℕ := if size < HALF_FIFO_DEPTH then size else HALF_FIFO_DEPTH

/-- The transfer once the count is there. -/
def Transfer.counted (t : Transfer) (size : ℕ) : Transfer :=
  { t with
    usExpectedByteCount := size
    usDescriptorsSent := 0
    ucExpectedByteCountPart := countPart size }

/-- The threshold that follows the count, where there is one to set. -/
def countThreshold (part : ℕ) : List RegisterWrite :=
  if 0 < part then [.CtrlRxFifoFillThreshold part] else []

def Profile.counted (s : Profile) (n size : ℕ) : Profile :=
  { s with
    registers := s.registers.tail
    written := s.written ++ countThreshold (countPart size)
    xTransfer := Function.update s.xTransfer n ((s.xTransfer n).counted size) }

theorem counted_transfer (s : Profile) (n size : ℕ) :
    (s.counted n size).xTransfer n = (s.xTransfer n).counted size := Function.update_self _ _ _

theorem counted_unasked (s : Profile) (n size : ℕ) : Unasked s (s.counted n size) := by
  have hasked : (s.counted n size).asked = s.asked := by
    simp only [Profile.asked, Profile.counted, List.filter_append, countThreshold]
    split <;> simp [RegisterWrite.reads]
  exact congrArg (·, s.handed, s.overflows) hasked

def vAnswerCount (n : ℕ) (due : Bool) (size : ℕ) : Routine Unit :=
  if due = true then do
    let _ ← ucSMBusControllerReadDescriptorByte false
    write .CtrlControlEnable
    vSMBusNextStateDecoder n .CONTROLLER_READ_BYTE
    if size = 0 then do
      let _ ← ucSMBusControllerReadDescriptorPEC
      pure ()
    else pure ()
  else if size = 0 then do
    let _ ← ucSMBusControllerReadDescriptorStop
    write .CtrlControlEnable
    vSMBusNextStateDecoder n .CONTROLLER_READ_DONE
  else do
    let _ ← ucSMBusControllerReadDescriptorByte false
    write .CtrlControlEnable
    vSMBusNextStateDecoder n .CONTROLLER_READ_BYTE

def Profile.parted (s : Profile) (n : ℕ) : Profile :=
  { s with
    written := s.written ++ countThreshold (countPart (s.xTransfer n).usExpectedByteCount)
    xTransfer := Function.update s.xTransfer n { s.xTransfer n with
      ucExpectedByteCountPart := countPart (s.xTransfer n).usExpectedByteCount } }

theorem exec_expectPart (n : ℕ) (s : Profile) : exec (vCtrlExpectPart n) s = s.parted n := by
  generalize hm : exec (setTransfer n fun t =>
    { t with ucExpectedByteCountPart := countPart t.usExpectedByteCount }) s = m
  have hpart : (m.xTransfer n).ucExpectedByteCountPart =
      countPart (s.xTransfer n).usExpectedByteCount := by
    rw [← hm]
    simp only [setTransfer, exec_modify, Function.update_self]
  have hexec : exec (vCtrlExpectPart n) s =
      exec (if 0 < (m.xTransfer n).ucExpectedByteCountPart then
        write (.CtrlRxFifoFillThreshold (m.xTransfer n).ucExpectedByteCountPart)
      else pure ()) m := by
    rw [← hm]
    rfl
  rw [hexec, hpart, exec_ite, Profile.parted, countThreshold, ← hm]
  split
  · rfl
  · rw [List.append_nil]
    rfl

theorem vBlockSize_eq (n : ℕ) (s : Profile) :
    exec (vBlockSize n) s = exec (vAnswerCount n (s.xTransfer n).due (s.registers.headD 0 % 2 ^ 8))
      (s.counted n (s.registers.headD 0 % 2 ^ 8)) := by
  generalize hsize : s.registers.headD 0 % 2 ^ 8 = size
  generalize hm : exec (setTransfer n fun t =>
    { t with usExpectedByteCount := size, usDescriptorsSent := 0 })
    { s with registers := s.registers.tail } = m
  have hparted : m.parted n = s.counted n size := by
    rw [← hm]
    simp only [setTransfer, exec_modify, Profile.parted, Profile.counted, Transfer.counted,
      Function.update_self, Function.update_idem]
  have hdue : ∀ t : Transfer, exec (if t.ucPecRequiredForTransaction = true ∨
      t.ucSMBusDestAddr = DEVICE_DEFAULT_ARP_ADDRESS then do
        let _ ← ucSMBusControllerReadDescriptorByte false
        write .CtrlControlEnable
        vSMBusNextStateDecoder n .CONTROLLER_READ_BYTE
        if size = 0 then do
          let _ ← ucSMBusControllerReadDescriptorPEC
          pure ()
        else pure ()
      else if size = 0 then do
        let _ ← ucSMBusControllerReadDescriptorStop
        write .CtrlControlEnable
        vSMBusNextStateDecoder n .CONTROLLER_READ_DONE
      else do
        let _ ← ucSMBusControllerReadDescriptorByte false
        write .CtrlControlEnable
        vSMBusNextStateDecoder n .CONTROLLER_READ_BYTE) (m.parted n) =
      exec (vAnswerCount n t.due size) (m.parted n) := by
    intro t
    by_cases h : t.due = true
    · rw [if_pos ((due_iff t).mp h), vAnswerCount, if_pos h]
    · rw [if_neg (mt (due_iff t).mpr h), vAnswerCount, if_neg h]
  rw [← hparted, ← exec_expectPart]
  rw [← exec_expectPart] at hdue
  have htransfer : ((exec (vCtrlExpectPart n) m).xTransfer n).due = (s.xTransfer n).due := by
    rw [exec_expectPart, hparted, counted_transfer]
    rfl
  rw [← htransfer, ← hdue, ← hm, ← hsize]
  rfl

theorem offered_next (s : Profile) (n : ℕ) (st : State) {w : RegisterWrite} (hw : w.reads = true) :
    let s' := exec (do
      write .CtrlControlEnable
      vSMBusNextStateDecoder n st) (s.offered w)
    Adds s s' (taken w s.registers) ∧ s'.xTransfer n = s.xTransfer n ∧ s'.xState n = st ∧
      s'.registers = s.registers.tail := by
  intro s'
  refine ⟨(adds_offered s hw).unasked ?_, rfl, Function.update_self _ _ _, rfl⟩
  exact Within.rel (R := Unasked) (m := do
    write .CtrlControlEnable
    vSMBusNextStateDecoder n st) (s.offered w)

theorem vAnswerCount_effect (n : ℕ) (due : Bool) (size : ℕ) (s : Profile) :
    let s' := exec (vAnswerCount n due size) s
    Adds s s' (countAnswer due size s.registers) ∧ s'.xTransfer n = s.xTransfer n ∧
      s'.xState n = if due = true ∨ 0 < size then .CONTROLLER_READ_BYTE
        else .CONTROLLER_READ_DONE := by
  intro s'
  have hs' : s' = exec (vAnswerCount n due size) s := rfl
  rw [vAnswerCount] at hs'
  by_cases hdue : due = true
  · rw [if_pos hdue, ucSMBusControllerReadDescriptorByte, exec_offered] at hs'
    obtain ⟨hadds, htransfer, hstate, hregisters⟩ :=
      offered_next s n .CONTROLLER_READ_BYTE (w := .CONTROLLER_READ_BYTE) rfl
    generalize hm : exec (do
      write .CtrlControlEnable
      vSMBusNextStateDecoder n .CONTROLLER_READ_BYTE) (s.offered .CONTROLLER_READ_BYTE) = m
      at hadds htransfer hstate hregisters
    have hrest : s' = exec (if size = 0 then do
          let _ ← ucSMBusControllerReadDescriptorPEC
          pure ()
        else pure ()) m := by
      rw [hs', ← hm]
      rfl
    have hor : due = true ∨ 0 < size := .inl hdue
    rw [countAnswer, if_pos hdue, if_pos hor]
    by_cases hsize : size = 0
    · rw [if_pos hsize, ucSMBusControllerReadDescriptorPEC, exec_offered] at hrest
      rw [if_pos hsize, hrest, ← hregisters]
      exact ⟨hadds.trans (adds_offered m rfl), htransfer, hstate⟩
    · rw [if_neg hsize] at hrest
      rw [if_neg hsize, List.append_nil, hrest]
      exact ⟨hadds, htransfer, hstate⟩
  · rw [if_neg hdue] at hs'
    rw [countAnswer, if_neg hdue]
    by_cases hsize : size = 0
    · rw [if_pos hsize, ucSMBusControllerReadDescriptorStop, exec_offered] at hs'
      obtain ⟨hadds, htransfer, hstate, -⟩ :=
        offered_next s n .CONTROLLER_READ_DONE (w := .CONTROLLER_READ_STOP) rfl
      have hnot : ¬ (due = true ∨ 0 < size) := by
        rintro (h | h)
        · exact hdue h
        · omega
      rw [if_pos hsize, if_neg hnot, hs']
      exact ⟨hadds, htransfer, hstate⟩
    · rw [if_neg hsize, ucSMBusControllerReadDescriptorByte, exec_offered] at hs'
      obtain ⟨hadds, htransfer, hstate, -⟩ :=
        offered_next s n .CONTROLLER_READ_BYTE (w := .CONTROLLER_READ_BYTE) rfl
      have hor : due = true ∨ 0 < size := .inr (Nat.pos_of_ne_zero hsize)
      rw [if_neg hsize, if_pos hor, hs']
      exact ⟨hadds, htransfer, hstate⟩

/-- **The count.** It is taken from the FIFO and answered. -/
theorem vBlockSize_effect (n : ℕ) (s : Profile) :
    let size := s.registers.headD 0 % 2 ^ 8
    let s' := exec (vBlockSize n) s
    Adds s s' (countAnswer (s.xTransfer n).due size s.registers.tail) ∧
      s'.xTransfer n = (s.xTransfer n).counted size ∧
      s'.xState n = if (s.xTransfer n).due = true ∨ 0 < size then .CONTROLLER_READ_BYTE
        else .CONTROLLER_READ_DONE := by
  intro size s'
  have hs' : s' = exec (vAnswerCount n (s.xTransfer n).due size) (s.counted n size) :=
    vBlockSize_eq n s
  obtain ⟨hadds, htransfer, hstate⟩ :=
    vAnswerCount_effect n (s.xTransfer n).due size (s.counted n size)
  rw [hs']
  exact ⟨(Adds.of_unasked (counted_unasked s n size)).trans hadds,
    htransfer.trans (counted_transfer s n size), hstate⟩

/-! ### Taking the bytes -/

theorem pendingData_of_empty {registers : List ℕ} (h : registers.headD 1 % 2 = 1) :
    pendingData registers = [] := by
  match registers, h with
  | [], _ => rfl
  | [_], h => exact if_pos h
  | _ :: _ :: _, h => exact if_pos h

theorem pendingData_of_byte {registers : List ℕ} (h : ¬ registers.headD 1 % 2 = 1) :
    pendingData registers =
      registers.tail.headD 0 % 2 ^ 8 :: pendingData registers.tail.tail := by
  match registers, h with
  | [], h => exact absurd rfl h
  | [_], h => exact if_neg h
  | _ :: _ :: _, h => exact if_neg h

def Transfer.stored (t : Transfer) : List ℕ := (List.range t.usReceiveIndex).map t.ucReceivedData

/-- A step that stores bytes behind the ones there are. -/
structure Stores (n : ℕ) (s s' : Profile) (bytes : List ℕ) : Prop where
  unasked : Unasked s s'
  state : s'.xState n = s.xState n
  stored : (s'.xTransfer n).stored = (s.xTransfer n).stored ++ bytes
  rest : s'.xTransfer n = { s.xTransfer n with
    ucReceivedData := (s'.xTransfer n).ucReceivedData
    usReceiveIndex := (s'.xTransfer n).usReceiveIndex }

theorem length_stored (t : Transfer) : t.stored.length = t.usReceiveIndex := by
  simp [Transfer.stored]

theorem Stores.index {n : ℕ} {s s' : Profile} {bytes : List ℕ} (h : Stores n s s' bytes) :
    (s'.xTransfer n).usReceiveIndex = (s.xTransfer n).usReceiveIndex + bytes.length := by
  have hlength := congrArg List.length h.stored
  rwa [List.length_append, length_stored, length_stored] at hlength

theorem Stores.trans {n : ℕ} {s m s' : Profile} {bs cs : List ℕ} (h : Stores n s m bs)
    (h' : Stores n m s' cs) : Stores n s s' (bs ++ cs) where
  unasked := IsTrans.trans _ _ _ h.unasked h'.unasked
  state := h'.state.trans h.state
  stored := by rw [h'.stored, h.stored, List.append_assoc]
  rest := by
    have hrest := h'.rest
    rw [h.rest] at hrest
    exact hrest

section Receive

variable {n : ℕ} {s : Profile}

theorem receiveByte_stores (hroom : (s.xTransfer n).usReceiveIndex < DATA_SIZE_MAX) :
    let s' := exec (vReceiveByte n ulSMBusHWReadCtrlRxFifoPayload) s
    Stores n s s' [s.registers.headD 0 % 2 ^ 8] ∧ s'.registers = s.registers.tail := by
  intro s'
  have hs' : s' = exec (do
      (if DATA_SIZE_MAX ≤ (s.xTransfer n).usReceiveIndex then fault .receivedData else pure ())
      setTransfer n fun t =>
        { t with
          ucReceivedData := Function.update t.ucReceivedData t.usReceiveIndex
            (s.registers.headD 0 % 2 ^ 8)
          usReceiveIndex := inc16 t.usReceiveIndex }) { s with registers := s.registers.tail } :=
    rfl
  rw [if_neg (not_le.mpr hroom), exec_bind, exec_pure] at hs'
  have htransfer : s'.xTransfer n = { s.xTransfer n with
      ucReceivedData := Function.update (s.xTransfer n).ucReceivedData
        (s.xTransfer n).usReceiveIndex (s.registers.headD 0 % 2 ^ 8)
      usReceiveIndex := (s.xTransfer n).usReceiveIndex + 1 } := by
    rw [hs', ← inc16_eq hroom.le]
    exact Function.update_self _ _ _
  refine ⟨⟨?_, ?_, ?_, ?_⟩, ?_⟩
  · rw [hs']; rfl
  · rw [hs']; rfl
  · rw [htransfer]
    simp only [Transfer.stored, List.range_succ, List.map_append, List.map_cons, List.map_nil,
      Function.update_self]
    congr 1
    refine List.map_congr_left fun k hk => Function.update_of_ne ?_ _ _
    exact (List.mem_range.mp hk).ne
  · rw [htransfer]
  · rw [hs']; rfl

/-- One round of the loop that empties the FIFO. -/
def vReceiveOne (n : ℕ) : Routine Bool := do
  let empty ← ulSMBusHWReadCtrlRxFifoStatusEmpty
  if empty = true then pure false
  else do
    vReceiveByte n ulSMBusHWReadCtrlRxFifoPayload
    pure true

theorem forBreak_receive_empty (h : s.registers.headD 1 % 2 = 1) (k : ℕ) :
    exec (forBreak (vReceiveOne n) (k + 1)) s = { s with registers := s.registers.tail } := by
  have hempty : value ulSMBusHWReadCtrlRxFifoStatusEmpty s = true := decide_eq_true h
  have hvalue : value (vReceiveOne n) s = false := by
    rw [vReceiveOne, value_bind, hempty]
    rfl
  have hexec : exec (vReceiveOne n) s = { s with registers := s.registers.tail } := by
    rw [vReceiveOne, exec_bind, hempty]
    rfl
  rw [forBreak, exec_bind, hvalue, hexec]
  rfl

theorem forBreak_receive_byte (h : ¬ s.registers.headD 1 % 2 = 1) (k : ℕ) :
    exec (forBreak (vReceiveOne n) (k + 1)) s =
      exec (forBreak (vReceiveOne n) k) (exec (vReceiveByte n ulSMBusHWReadCtrlRxFifoPayload)
        { s with registers := s.registers.tail }) := by
  have hempty : value ulSMBusHWReadCtrlRxFifoStatusEmpty s = false := decide_eq_false h
  have hvalue : value (vReceiveOne n) s = true := by
    rw [vReceiveOne, value_bind, hempty]
    rfl
  have hexec : exec (vReceiveOne n) s = exec (vReceiveByte n ulSMBusHWReadCtrlRxFifoPayload)
      { s with registers := s.registers.tail } := by
    rw [vReceiveOne, exec_bind, hempty]
    rfl
  rw [forBreak, exec_bind, hvalue, hexec]
  rfl

theorem length_registers_pos (h : ¬ s.registers.headD 1 % 2 = 1) : 0 < s.registers.length := by
  refine List.length_pos_of_ne_nil fun hnil => h ?_
  rw [hnil]
  rfl

theorem forBreak_stores (k : ℕ) : ∀ s : Profile, s.registers.length < k →
    (s.xTransfer n).usReceiveIndex + (pendingData s.registers).length ≤ DATA_SIZE_MAX →
    Stores n s (exec (forBreak (vReceiveOne n) k) s) (pendingData s.registers) := by
  induction k with
  | zero => exact fun s hk => absurd hk (Nat.not_lt_zero _)
  | succ k ih =>
    intro s hk hroom
    by_cases h : s.registers.headD 1 % 2 = 1
    · rw [forBreak_receive_empty h, pendingData_of_empty h]
      exact ⟨rfl, rfl, (List.append_nil _).symm, rfl⟩
    · have hdata := pendingData_of_byte h
      have hlength := length_registers_pos h
      rw [hdata, List.length_cons] at hroom
      have hindex : (s.xTransfer n).usReceiveIndex < DATA_SIZE_MAX := by omega
      obtain ⟨hbyte, hregisters⟩ := receiveByte_stores
        (n := n) (s := { s with registers := s.registers.tail }) hindex
      rw [forBreak_receive_byte h, hdata]
      generalize exec (vReceiveByte n ulSMBusHWReadCtrlRxFifoPayload)
        { s with registers := s.registers.tail } = m at hbyte hregisters ⊢
      have hnext : (m.xTransfer n).usReceiveIndex = (s.xTransfer n).usReceiveIndex + 1 :=
        hbyte.index
      have hleft : m.registers = s.registers.tail.tail := hregisters
      have hrest := ih m (by rw [hleft, List.length_tail, List.length_tail]; omega)
        (by rw [hleft, hnext]; omega)
      rw [hleft] at hrest
      have hfirst : Stores n s m [s.registers.tail.headD 0 % 2 ^ 8] :=
        ⟨hbyte.unasked, hbyte.state, hbyte.stored, hbyte.rest⟩
      exact hfirst.trans hrest

/-- The number of bytes stored outside the buffer does not go down. -/
def Spills (s s' : Profile) : Prop := s.overflows ≤ s'.overflows

instance : Std.Refl Spills := ⟨fun _ => le_refl _⟩

instance : IsTrans Profile Spills := ⟨fun _ _ _ h h' => le_trans h h'⟩

instance : Ambient Spills where
  reads := fun _ => ⟨fun _ => le_refl _⟩
  writes := fun _ => ⟨fun _ => le_refl _⟩
  calls := fun _ => ⟨fun _ => le_refl _⟩
  notes := fun _ => ⟨fun _ => le_refl _⟩
  strikes := fun _ => ⟨fun _ => le_refl _⟩

instance : Plain n Spills where
  offCursor := fun _ _ => ⟨fun _ => le_refl _⟩
  onCursor := fun _ _ => ⟨fun _ => le_refl _⟩

instance : Faulting Spills where
  faults := fun f => ⟨fun s => by
    change s.faults.count _ ≤ (s.faults ++ [f]).count _
    rw [List.count_append]
    exact Nat.le_add_right _ _⟩

theorem receiveByte_spills (hfull : DATA_SIZE_MAX ≤ (s.xTransfer n).usReceiveIndex) :
    s.overflows < (exec (vReceiveByte n ulSMBusHWReadCtrlRxFifoPayload) s).overflows := by
  have hs' : exec (vReceiveByte n ulSMBusHWReadCtrlRxFifoPayload) s = exec (do
      (if DATA_SIZE_MAX ≤ (s.xTransfer n).usReceiveIndex then fault .receivedData else pure ())
      setTransfer n fun t =>
        { t with
          ucReceivedData := Function.update t.ucReceivedData t.usReceiveIndex
            (s.registers.headD 0 % 2 ^ 8)
          usReceiveIndex := inc16 t.usReceiveIndex }) { s with registers := s.registers.tail } :=
    rfl
  rw [hs', if_pos hfull]
  change s.faults.count _ < (s.faults ++ [Fault.receivedData]).count _
  rw [List.count_append]
  exact Nat.lt_add_of_pos_right (by decide)

theorem forBreak_spills (k : ℕ) : ∀ s : Profile, s.registers.length < k →
    (s.xTransfer n).usReceiveIndex ≤ DATA_SIZE_MAX →
    DATA_SIZE_MAX < (s.xTransfer n).usReceiveIndex + (pendingData s.registers).length →
    s.overflows < (exec (forBreak (vReceiveOne n) k) s).overflows := by
  induction k with
  | zero => exact fun s hk => absurd hk (Nat.not_lt_zero _)
  | succ k ih =>
    intro s hk hle hover
    by_cases h : s.registers.headD 1 % 2 = 1
    · rw [pendingData_of_empty h, List.length_nil] at hover
      omega
    · have hlength := length_registers_pos h
      rw [pendingData_of_byte h, List.length_cons] at hover
      rw [forBreak_receive_byte h]
      rcases Nat.lt_or_ge (s.xTransfer n).usReceiveIndex DATA_SIZE_MAX with hindex | hindex
      · obtain ⟨hbyte, hregisters⟩ := receiveByte_stores
          (n := n) (s := { s with registers := s.registers.tail }) hindex
        generalize exec (vReceiveByte n ulSMBusHWReadCtrlRxFifoPayload)
          { s with registers := s.registers.tail } = m at hbyte hregisters ⊢
        have hnext : (m.xTransfer n).usReceiveIndex = (s.xTransfer n).usReceiveIndex + 1 :=
          hbyte.index
        have hleft : m.registers = s.registers.tail.tail := hregisters
        have hsame : m.overflows = s.overflows := (Adds.of_unasked hbyte.unasked).overflows
        rw [← hsame]
        exact ih m (by rw [hleft, List.length_tail, List.length_tail]; omega) (by omega)
          (by rw [hleft, hnext]; omega)
      · refine lt_of_lt_of_le (receiveByte_spills (n := n)
          (s := { s with registers := s.registers.tail }) hindex) ?_
        have hspills : Within Spills (forBreak (vReceiveOne n) k) := by
          unfold vReceiveOne; infer_instance
        exact hspills.rel _

/-- **Receiving.** The bytes in the FIFO go in the buffer if and only if they fit. -/
theorem vReceiveAll_effect (hle : (s.xTransfer n).usReceiveIndex ≤ DATA_SIZE_MAX) :
    ((s.xTransfer n).usReceiveIndex + (pendingData s.registers).length ≤ DATA_SIZE_MAX →
      Stores n s (exec (vReceiveAll n) s) (pendingData s.registers)) ∧
    (DATA_SIZE_MAX < (s.xTransfer n).usReceiveIndex + (pendingData s.registers).length →
      s.overflows < (exec (vReceiveAll n) s).overflows) := by
  rw [vReceiveAll, whileNotEmpty, exec_get_bind]
  exact ⟨forBreak_stores _ s (Nat.lt_succ_self _), forBreak_spills _ s (Nat.lt_succ_self _) hle⟩

end Receive

/-! ### The descriptors of a block -/

/-- The number of data descriptors before the one that ends the read. -/
def limitOf (pec : Bool) (count : ℕ) : ℕ := if pec = true then count else count - 1

theorem limit_eq (t : Transfer) (pec : Bool) : t.limit pec = limitOf pec t.usExpectedByteCount := rfl

theorem blockDescriptors_eq {pec : Bool} {count : ℕ} (h : pec = true ∨ 0 < count) :
    blockDescriptors pec count =
      .CONTROLLER_READ_BYTE :: (List.replicate (limitOf pec count) .CONTROLLER_READ_BYTE ++
        [ender pec]) := by
  rw [blockDescriptors, countDescriptors, if_pos h, dataDescriptors, limitOf, ender]
  cases pec <;> rfl

theorem under_prefix {pec : Bool} {count k : ℕ} (h : pec = true ∨ 0 < count)
    (hk : k ≤ limitOf pec count) :
    RegisterWrite.CONTROLLER_READ_BYTE :: List.replicate k .CONTROLLER_READ_BYTE <+:
      blockDescriptors pec count := by
  obtain ⟨j, hj⟩ := Nat.exists_eq_add_of_le hk
  rw [blockDescriptors_eq h, hj, ← List.replicate_append_replicate, List.append_assoc]
  exact List.prefix_append
    (RegisterWrite.CONTROLLER_READ_BYTE :: List.replicate k .CONTROLLER_READ_BYTE) _

theorem stop_not_prefix {count : ℕ} (ws : List RegisterWrite) :
    ¬ ws ++ [.CONTROLLER_READ_STOP] <+: blockDescriptors true count := by
  intro h
  have hmem : RegisterWrite.CONTROLLER_READ_STOP ∈ blockDescriptors true count :=
    h.subset (List.mem_append_right _ List.mem_cons_self)
  rw [blockDescriptors_eq (.inl rfl)] at hmem
  simp [ender] at hmem

/-- What has been issued for a block of `count` bytes when `sent` descriptors are counted: the answer
to the count is not counted, nor is the end of a read of no bytes. -/
def Issued (flag due : Bool) (count sent : ℕ) (ws : List RegisterWrite) : Prop :=
  (sent ≤ limitOf flag count ∧
    ws = .CONTROLLER_READ_BYTE :: List.replicate sent .CONTROLLER_READ_BYTE) ∨
  (ws = blockDescriptors due count ∧ (sent = limitOf flag count + 1 ∨ count = 0 ∧ sent = 0))

/-- **The answer to the count.** It is right exactly when its descriptor is taken. -/
theorem countAnswer_right (due : Bool) (size : ℕ) (registers : List ℕ) :
    (countAnswer due size registers ≠ [] ∧
      countAnswer due size registers <+: blockDescriptors due size) ↔ ¬ refuses registers := by
  unfold countAnswer taken
  by_cases hfull : refuses registers
  · refine ⟨fun ⟨hne, hprefix⟩ => ?_, fun h => absurd hfull h⟩
    exfalso
    simp only [if_pos hfull] at hne hprefix
    cases due with
    | false => simp at hne
    | true =>
      by_cases hsize : size = 0
      · by_cases htail : refuses registers.tail
        · simp [htail] at hne
        · rw [blockDescriptors_eq (.inl rfl)] at hprefix
          simp [hsize, htail] at hprefix
      · simp [hsize] at hne
  · refine ⟨fun _ => hfull, fun _ => ?_⟩
    simp only [if_neg hfull]
    cases due with
    | false =>
      by_cases hsize : size = 0
      · rw [hsize]
        exact ⟨by simp, List.prefix_refl _⟩
      · simp only [Bool.false_eq_true, if_false, if_neg hsize]
        exact ⟨by simp, under_prefix (k := 0) (.inr (Nat.pos_of_ne_zero hsize)) (Nat.zero_le _)⟩
    | true =>
      by_cases hsize : size = 0
      · rw [hsize]
        by_cases htail : refuses registers.tail
        · simp only [if_true, if_pos htail, List.append_nil]
          exact ⟨by simp, under_prefix (k := 0) (.inl rfl) (Nat.zero_le _)⟩
        · simp only [if_true, if_neg htail]
          exact ⟨by simp, List.prefix_refl _⟩
      · simp only [if_true, if_neg hsize, List.append_nil]
        exact ⟨by simp, under_prefix (k := 0) (.inl rfl) (Nat.zero_le _)⟩

theorem countAnswer_issued (flag due : Bool) (size : ℕ) {registers : List ℕ}
    (h : ¬ refuses registers) : Issued flag due size 0 (countAnswer due size registers) := by
  have hone : Issued flag due size 0 [.CONTROLLER_READ_BYTE] := .inl ⟨Nat.zero_le _, rfl⟩
  unfold countAnswer taken
  simp only [if_neg h]
  cases due with
  | false =>
    by_cases hsize : size = 0
    · rw [hsize]
      exact .inr ⟨rfl, .inr ⟨rfl, rfl⟩⟩
    · simpa [hsize] using hone
  | true =>
    by_cases hsize : size = 0
    · rw [hsize] at hone ⊢
      by_cases htail : refuses registers.tail
      · simpa [htail] using hone
      · simp only [if_true, if_neg htail]
        exact .inr ⟨rfl, .inr ⟨rfl, rfl⟩⟩
    · simpa [hsize] using hone

/-- A STOP does not go where a PEC is due. -/
def Transfer.fillsRight (t : Transfer) (due : Bool) (registers : List ℕ) : Prop :=
  t.ucPecRequiredForTransaction = due ∨
    ¬ (t.limit t.ucPecRequiredForTransaction - t.usDescriptorsSent <
      FIFO_DEPTH - registers.headD 0 % 2 ^ 7 ∧ ¬ refuses registers.tail)

instance (t : Transfer) (due : Bool) (registers : List ℕ) :
    Decidable (t.fillsRight due registers) := by
  unfold Transfer.fillsRight; infer_instance

/-- **Filling a block.** What the FIFO is filled up with is right unless a STOP goes where a PEC is
due. -/
theorem fillUp_right {flag due : Bool} (hflag : flag = true → due = true) {count sent : ℕ}
    (hsent : sent < count) {ws : List RegisterWrite} (hws : Issued flag due count sent ws)
    (room : ℕ) (registers : List ℕ) :
    let vs := fillUp flag (limitOf flag count - sent) room registers
    (ws ++ vs <+: blockDescriptors due count ↔
        flag = due ∨ ¬ (limitOf flag count - sent < room ∧ ¬ refuses registers)) ∧
      (ws ++ vs <+: blockDescriptors due count →
        Issued flag due count (sent + vs.length) (ws ++ vs)) ∧
      (0 < room → ¬ refuses registers → vs ≠ []) := by
  intro vs
  have hpos : due = true ∨ 0 < count := .inr (by omega)
  have hlimits : limitOf flag count ≤ limitOf due count := by
    unfold limitOf
    cases flag with
    | false =>
      rw [if_neg Bool.false_ne_true]
      split <;> omega
    | true => rw [if_pos rfl, if_pos (hflag rfl)]
  have hlimit : sent ≤ limitOf flag count := by
    unfold limitOf
    split <;> omega
  have hunder : ws = .CONTROLLER_READ_BYTE :: List.replicate sent .CONTROLLER_READ_BYTE := by
    rcases hws with ⟨-, hws⟩ | ⟨-, hfull | ⟨hzero, -⟩⟩
    · exact hws
    · unfold limitOf at hfull
      split at hfull <;> omega
    · omega
  have hmore : ∀ j, ws ++ List.replicate j RegisterWrite.CONTROLLER_READ_BYTE =
      .CONTROLLER_READ_BYTE :: List.replicate (sent + j) .CONTROLLER_READ_BYTE := by
    intro j
    rw [hunder, List.cons_append, List.replicate_append_replicate]
  by_cases hends : limitOf flag count - sent < room ∧ ¬ refuses registers
  · have hvs : vs = List.replicate (limitOf flag count - sent) .CONTROLLER_READ_BYTE ++
        [ender flag] := if_pos hends
    have hall : ws ++ vs = .CONTROLLER_READ_BYTE ::
        (List.replicate (limitOf flag count) .CONTROLLER_READ_BYTE ++ [ender flag]) := by
      rw [hvs, ← List.append_assoc, hmore, Nat.add_sub_cancel' hlimit, List.cons_append]
    have hlength : sent + vs.length = limitOf flag count + 1 := by
      rw [hvs]
      simp only [List.length_append, List.length_replicate, List.length_singleton]
      omega
    have hiff : ws ++ vs <+: blockDescriptors due count ↔ flag = due := by
      cases flag with
      | true =>
        rw [hflag rfl] at hpos ⊢
        rw [hall, blockDescriptors_eq hpos]
        simp
      | false =>
        cases due with
        | false =>
          rw [hall, blockDescriptors_eq hpos]
          simp
        | true =>
          simp only [Bool.false_eq_true, iff_false]
          rw [hall, ← List.cons_append]
          exact stop_not_prefix _
    refine ⟨by simp [hiff, hends], fun hprefix => .inr ⟨?_, .inl hlength⟩, fun _ _ => ?_⟩
    · rw [hall, blockDescriptors_eq hpos, hiff.mp hprefix]
    · rw [hvs]
      simp
  · have hvs : vs = List.replicate (min room (limitOf flag count - sent))
        .CONTROLLER_READ_BYTE := if_neg hends
    have hle : sent + min room (limitOf flag count - sent) ≤ limitOf flag count := by omega
    refine ⟨?_, fun _ => .inl ?_, fun hroom hfull => ?_⟩
    · rw [hvs, hmore]
      exact ⟨fun _ => .inr hends, fun _ => under_prefix hpos (hle.trans hlimits)⟩
    · rw [hvs, hmore, List.length_replicate]
      exact ⟨hle, rfl⟩
    · have hleft : room ≤ limitOf flag count - sent := by
        by_contra hlt
        exact hends ⟨by omega, hfull⟩
      rw [hvs, Nat.min_eq_left hleft]
      exact fun hnil => by
        have := congrArg List.length hnil
        simp at this
        omega

/-! ### The condition and the invariant -/

/-- The step goes right: the answer to the count is taken, the bytes fit the buffer, no STOP goes
where a PEC is due, no second PEC goes out, and the data are handed over with all descriptors issued. -/
def StepsRight (n : ℕ) (base : Profile) (due : Bool) (r : BlockRead) (x : Input) : Prop :=
  match r.profile.xState n, x.event with
  | .CONTROLLER_READ_BLOCK_SIZE, .CONTROLLER_DATA_IRQ => ¬ refuses x.registers.tail
  | .CONTROLLER_READ_BYTE, .CONTROLLER_DATA_IRQ =>
    (r.profile.xTransfer n).usReceiveIndex + (pendingData x.registers).length ≤ DATA_SIZE_MAX
  | .CONTROLLER_READ_BYTE, .CONTROLLER_DESC_FIFO_ALMOST_EMPTY_IRQ =>
    (r.profile.xTransfer n).usDescriptorsSent < (r.profile.xTransfer n).usExpectedByteCount →
      (r.profile.xTransfer n).fillsRight due x.registers
  | .CONTROLLER_READ_DONE, .CONTROLLER_DESC_FIFO_ALMOST_EMPTY_IRQ =>
    if (r.profile.xTransfer n).usDescriptorsSent <
        (r.profile.xTransfer n).usExpectedByteCount then
      (r.profile.xTransfer n).fillsRight due x.registers
    else if (r.profile.xTransfer n).ucPecRequiredForTransaction = true ∧
        (r.profile.xTransfer n).usDescriptorsSent =
          (r.profile.xTransfer n).usExpectedByteCount then
      r.profile.complete n base due → refuses x.registers
    else x.idle → r.profile.complete n base due
  | .CONTROLLER_READ_DONE, .CONTROLLER_DONE_IRQ =>
    (r.profile.xConfig n).pFnWriteData = true → r.profile.complete n base due
  | _, _ => True

instance (n : ℕ) (base : Profile) (due : Bool) (r : BlockRead) (x : Input) :
    Decidable (StepsRight n base due r x) := by
  unfold StepsRight
  split <;> infer_instance

/-- The block has begun: the count is there, the bytes after it are in the buffer, and the
descriptors issued are those that are counted. -/
structure BlockBegun (n : ℕ) (flag due : Bool) (base : Profile) (r : BlockRead) : Prop where
  received : r.received = (r.profile.xTransfer n).usExpectedByteCount ::
    (r.profile.xTransfer n).stored
  expected : (r.profile.xTransfer n).usExpectedByteCount < DATA_SIZE_MAX
  index : (r.profile.xTransfer n).usReceiveIndex ≤ DATA_SIZE_MAX
  asked : ∃ ws, r.profile.asked = base.asked ++ ws ∧ ws ≠ [] ∧
    ws <+: blockDescriptors due (r.profile.xTransfer n).usExpectedByteCount ∧
    Issued flag due (r.profile.xTransfer n).usExpectedByteCount
      (r.profile.xTransfer n).usDescriptorsSent ws

/-- What holds of a block read that is under way and right so far. -/
structure Ongoing (n : ℕ) (flag due : Bool) (base : Profile) (r : BlockRead) : Prop where
  hflag : (r.profile.xTransfer n).ucPecRequiredForTransaction = flag
  hdue : (r.profile.xTransfer n).due = due
  overflows : r.profile.overflows = base.overflows
  handed : r.profile.handed = base.handed
  before : r.profile.xState n ∈ beforeCount → r.received = [] ∧
    (r.profile.xTransfer n).usReceiveIndex = 0 ∧ r.profile.asked = base.asked
  during : r.profile.xState n ∉ beforeCount → BlockBegun n flag due base r
  done : r.profile.xState n = .CONTROLLER_READ_DONE →
    (r.profile.xTransfer n).usExpectedByteCount ≤ (r.profile.xTransfer n).usReceiveIndex

theorem Ongoing.right {n : ℕ} {flag due : Bool} {base : Profile} {r : BlockRead}
    (h : Ongoing n flag due base r) : BlockRight base due r := by
  refine ⟨h.overflows, ?_⟩
  by_cases hst : r.profile.xState n ∈ beforeCount
  · obtain ⟨hreceived, -, hasked⟩ := h.before hst
    rw [hreceived]
    exact ⟨hasked, h.handed⟩
  · have hbegun := h.during hst
    obtain ⟨ws, hasked, hne, hprefix, -⟩ := hbegun.asked
    rw [hbegun.received]
    exact ⟨ws, hasked, hne, hprefix, .inl h.handed⟩

/-! ### Steps -/

section Step

variable {n : ℕ} {flag due : Bool} {base : Profile} {r r' : BlockRead} {p : Protocol}

theorem Ongoing.of_turns (hp : p ≠ .NONE) (h : Ongoing n flag due base r)
    (hunasked : Unasked r.profile r'.profile) (hreceived : r'.received = r.received)
    (hturns : Turns n r.profile r'.profile) :
    BlockRight base due r' ∧ (r'.profile.ReadsBlock n p → Ongoing n flag due base r') := by
  simp only [Same, Prod.mk.injEq] at hunasked
  obtain ⟨hasked, hhanded, hoverflows⟩ := hunasked
  have hright := h.right
  refine ⟨?_, fun hreads => ?_⟩
  · unfold BlockRight at hright ⊢
    rwa [hreceived, hasked, hhanded, hoverflows]
  · rcases hturns with ⟨htransfer, hstate⟩ | ⟨-, hprotocol, -⟩ | hstate
    · refine ⟨?_, ?_, hoverflows.trans h.overflows, hhanded.trans h.handed, fun hst' => ?_,
        fun hst' => ?_, fun hst' => ?_⟩
      · rw [htransfer]; exact h.hflag
      · rw [htransfer]; exact h.hdue
      · rw [hreceived, htransfer, hasked]
        rw [hstate] at hst'
        exact h.before hst'
      · rw [hstate] at hst'
        obtain ⟨hreceived', hexpected, hindex, hws⟩ := h.during hst'
        refine ⟨?_, ?_, ?_, ?_⟩
        · rw [hreceived, htransfer]; exact hreceived'
        · rw [htransfer]; exact hexpected
        · rw [htransfer]; exact hindex
        · rw [htransfer, hasked]; exact hws
      · rw [htransfer]
        rw [hstate] at hst'
        exact h.done hst'
    · exact absurd (hreads.2.symm.trans hprotocol) hp
    · have hreading := hreads.1
      refine absurd hreading ?_
      revert hstate
      generalize r'.profile.xState n = st
      cases st <;> decide

theorem Ongoing.of_waits (h : Ongoing n flag due base r) (hst : r.profile.xState n ∈ beforeCount)
    (hreceived : r'.received = r.received) (hwaits : Waits n p r.profile r'.profile) :
    BlockRight base due r' ∧ (r'.profile.ReadsBlock n p → Ongoing n flag due base r') := by
  have hunasked := hwaits.unasked
  simp only [Same, Prod.mk.injEq] at hunasked
  obtain ⟨hasked, hhanded, hoverflows⟩ := hunasked
  have hright := h.right
  refine ⟨?_, fun hreads => ?_⟩
  · unfold BlockRight at hright ⊢
    rwa [hreceived, hasked, hhanded, hoverflows]
  · obtain ⟨hheld, hst'⟩ := hwaits.held hreads
    simp only [Same, Prod.mk.injEq] at hheld
    obtain ⟨-, hindex, haddress, hpec⟩ := hheld
    refine ⟨hpec.trans h.hflag, ?_, hoverflows.trans h.overflows, hhanded.trans h.handed,
      fun _ => ?_, fun hnot => absurd hst' hnot, fun hdone => ?_⟩
    · rw [← h.hdue, Transfer.due, hpec, haddress, Transfer.due]
    · obtain ⟨hnil, hzero, hbase⟩ := h.before hst
      exact ⟨hreceived.trans hnil, hindex.trans hzero, hasked.trans hbase⟩
    · rw [hdone] at hst'
      exact absurd hst' (by decide)

theorem Ongoing.count_iff (h : Ongoing n flag due base r)
    (hst : r.profile.xState n = .CONTROLLER_READ_BLOCK_SIZE)
    (hprofile : r'.profile = exec (vBlockSize n) r.profile)
    (hreceived : r'.received = r.received ++ [r.profile.registers.headD 0 % 2 ^ 8]) :
    (BlockRight base due r' ↔ ¬ refuses r.profile.registers.tail) ∧
      (BlockRight base due r' → Ongoing n flag due base r') := by
  obtain ⟨hadds, htransfer, hstate⟩ := vBlockSize_effect n r.profile
  obtain ⟨hnil, hzero, hbase⟩ := h.before (by rw [hst]; decide)
  rw [hnil, List.nil_append] at hreceived
  rw [← hprofile, h.hdue] at hadds hstate
  rw [← hprofile] at htransfer
  generalize hsize : r.profile.registers.headD 0 % 2 ^ 8 = size at hadds htransfer hstate hreceived
  generalize hws : countAnswer due size r.profile.registers.tail = ws at hadds
  have hhanded : r'.profile.handed = base.handed := hadds.handed.trans h.handed
  have hasked : r'.profile.asked = base.asked ++ ws := by rw [hadds.asked, hbase]
  have hiff : BlockRight base due r' ↔ ws ≠ [] ∧ ws <+: blockDescriptors due size := by
    unfold BlockRight
    rw [hreceived]
    refine ⟨?_, fun ⟨hne, hprefix⟩ => ⟨hadds.overflows.trans h.overflows, ws, hasked, hne, hprefix,
      .inl hhanded⟩⟩
    rintro ⟨-, vs, hvs, hne, hprefix, -⟩
    obtain rfl := List.append_cancel_left (hasked.symm.trans hvs)
    exact ⟨hne, hprefix⟩
  have hanswer : (ws ≠ [] ∧ ws <+: blockDescriptors due size) ↔
      ¬ refuses r.profile.registers.tail := by
    rw [← hws]
    exact countAnswer_right due size r.profile.registers.tail
  have hlt : size < DATA_SIZE_MAX := by
    rw [← hsize]
    exact Nat.mod_lt _ (by decide)
  refine ⟨hiff.trans hanswer, fun hright => ?_⟩
  have hafter : r'.profile.xState n ∉ beforeCount := by
    rw [hstate]
    split <;> decide
  have hstored : (r'.profile.xTransfer n).stored = [] := by
    rw [htransfer]
    change (List.range (r.profile.xTransfer n).usReceiveIndex).map _ = []
    rw [hzero]
    rfl
  refine ⟨by rw [htransfer]; exact h.hflag, by rw [htransfer]; exact h.hdue,
    hadds.overflows.trans h.overflows, hhanded, fun hbefore => absurd hbefore hafter,
    fun _ => ⟨?_, ?_, ?_, ws, hasked, ?_⟩, fun hdone => ?_⟩
  · rw [hstored, htransfer]; exact hreceived
  · rw [htransfer]; exact hlt
  · rw [htransfer]
    change (r.profile.xTransfer n).usReceiveIndex ≤ _
    rw [hzero]
    exact Nat.zero_le _
  · rw [htransfer]
    refine ⟨(hiff.mp hright).1, (hiff.mp hright).2, ?_⟩
    rw [← hws]
    exact countAnswer_issued flag due size ((hiff.trans hanswer).mp hright)
  · rw [hstate] at hdone
    have hsmall : size = 0 := by
      by_contra hne
      rw [if_pos (.inr (Nat.pos_of_ne_zero hne))] at hdone
      cases hdone
    rw [htransfer]
    change size ≤ _
    rw [hsmall]
    exact Nat.zero_le _

theorem Ongoing.issue_iff (h : Ongoing n flag due base r)
    (hst : r.profile.xState n ∉ beforeCount) {ws vs : List RegisterWrite} {k : ℕ}
    (hws : r.profile.asked = base.asked ++ ws) (hne : ws ≠ [])
    (hadds : Adds r.profile r'.profile vs)
    (htransfer : r'.profile.xTransfer n = { r.profile.xTransfer n with usDescriptorsSent := k })
    (hstate : r'.profile.xState n = r.profile.xState n) (hreceived : r'.received = r.received) :
    (BlockRight base due r' ↔
        ws ++ vs <+: blockDescriptors due (r.profile.xTransfer n).usExpectedByteCount) ∧
      (BlockRight base due r' →
        Issued flag due (r.profile.xTransfer n).usExpectedByteCount k (ws ++ vs) →
          Ongoing n flag due base r') := by
  have hbegun := h.during hst
  have hasked : r'.profile.asked = base.asked ++ (ws ++ vs) := by
    rw [hadds.asked, hws, List.append_assoc]
  have hnext : ws ++ vs ≠ [] := fun hnil => hne (List.append_eq_nil_iff.mp hnil).1
  have hhanded : r'.profile.handed = base.handed := hadds.handed.trans h.handed
  have hiff : BlockRight base due r' ↔
      ws ++ vs <+: blockDescriptors due (r.profile.xTransfer n).usExpectedByteCount := by
    unfold BlockRight
    rw [hreceived, hbegun.received]
    refine ⟨?_, fun hprefix => ⟨hadds.overflows.trans h.overflows, ws ++ vs, hasked, hnext,
      hprefix, .inl hhanded⟩⟩
    rintro ⟨-, us, hus, -, hprefix, -⟩
    obtain rfl := List.append_cancel_left (hasked.symm.trans hus)
    exact hprefix
  refine ⟨hiff, fun hright hissued => ?_⟩
  refine ⟨by rw [htransfer]; exact h.hflag, by rw [htransfer]; exact h.hdue,
    hadds.overflows.trans h.overflows, hhanded, fun hbefore => ?_, fun _ => ⟨?_, ?_, ?_, ?_⟩,
    fun hdone => ?_⟩
  · rw [hstate] at hbefore
    exact absurd hbefore hst
  · rw [hreceived, htransfer]; exact hbegun.received
  · rw [htransfer]; exact hbegun.expected
  · rw [htransfer]; exact hbegun.index
  · rw [htransfer]; exact ⟨ws ++ vs, hasked, hnext, hiff.mp hright, hissued⟩
  · rw [hstate] at hdone
    rw [htransfer]
    exact h.done hdone

theorem fillUp_reads (pec : Bool) (left room : ℕ) (registers : List ℕ) :
    ∀ w ∈ fillUp pec left room registers, w.reads = true := by
  intro w hw
  have hcases : w = .CONTROLLER_READ_BYTE ∨ w = ender pec := by
    unfold fillUp at hw
    split at hw
    · rcases List.mem_append.mp hw with hw | hw
      · exact .inl (List.eq_of_mem_replicate hw)
      · exact .inr (List.mem_singleton.mp hw)
    · exact .inl (List.eq_of_mem_replicate hw)
  rcases hcases with rfl | rfl
  · rfl
  · cases pec <;> rfl

theorem fill_effect {s : Profile} {k : Routine Unit} [hunasked : Within Unasked k]
    [hkept : Within (Kept n) k] [hdata : Within Data k]
    (hsent : (s.xTransfer n).usDescriptorsSent < (s.xTransfer n).usExpectedByteCount)
    (hmax : (s.xTransfer n).usExpectedByteCount ≤ DATA_SIZE_MAX) :
    let vs := fillUp (s.xTransfer n).ucPecRequiredForTransaction
      ((s.xTransfer n).limit (s.xTransfer n).ucPecRequiredForTransaction -
        (s.xTransfer n).usDescriptorsSent) s.room s.registers.tail
    let s' := exec (do
      vFillReadDescriptors n (s.xTransfer n).ucPecRequiredForTransaction
      k) s
    Adds s s' vs ∧
      s'.xTransfer n = { s.xTransfer n with
        usDescriptorsSent := (s.xTransfer n).usDescriptorsSent + vs.length } ∧
      s'.xState n = s.xState n := by
  intro vs s'
  have hle : (s.xTransfer n).usDescriptorsSent ≤
      (s.xTransfer n).limit (s.xTransfer n).ucPecRequiredForTransaction := by
    unfold Transfer.limit
    split <;> omega
  obtain ⟨rs, hfill⟩ := vFillReadDescriptors_effect (n := n) hle hmax fun _ => by omega
  have hs' : s' = exec k (s.issues n vs rs) := by rw [← hfill]; rfl
  have hcontrol := hdata.rel (s.issues n vs rs)
  simp only [Same, Profile.control, Prod.mk.injEq] at hcontrol
  obtain ⟨-, -, -, -, hstate, -⟩ := hcontrol
  rw [hs']
  refine ⟨(adds_issues s n rs (fillUp_reads _ _ _ _)).unasked (hunasked.rel _), ?_, ?_⟩
  · exact (hkept.rel (s.issues n vs rs)).trans (issues_transfer s n vs rs)
  · rw [hstate]
    rfl

theorem Ongoing.fill_iff (h : Ongoing n flag due base r) (hdue : flag = true → due = true)
    (hst : r.profile.xState n ∉ beforeCount)
    (hsent : (r.profile.xTransfer n).usDescriptorsSent <
      (r.profile.xTransfer n).usExpectedByteCount)
    {k : Routine Unit} [Within Unasked k] [Within (Kept n) k] [Within Data k]
    (hprofile : r'.profile = exec (do
      vFillReadDescriptors n (r.profile.xTransfer n).ucPecRequiredForTransaction
      k) r.profile) (hreceived : r'.received = r.received) :
    (BlockRight base due r' ↔ (r.profile.xTransfer n).fillsRight due r.profile.registers) ∧
      (BlockRight base due r' → Ongoing n flag due base r') ∧
      ((∀ v ∈ r.profile.registers, v = 0) →
        r.profile.asked.length < r'.profile.asked.length) := by
  obtain ⟨ws, hws, hne, hprefix, hissued⟩ := (h.during hst).asked
  obtain ⟨hadds, htransfer, hstate⟩ := fill_effect (n := n) (s := r.profile) (k := k) hsent
    (h.during hst).expected.le
  rw [← hprofile] at hadds htransfer hstate
  obtain ⟨hright, hgoes⟩ := h.issue_iff hst hws hne hadds htransfer hstate hreceived
  rw [h.hflag, limit_eq] at hadds hright hgoes
  obtain ⟨hfill, hnext, hmore⟩ := fillUp_right hdue hsent hissued r.profile.room
    r.profile.registers.tail
  refine ⟨?_, fun hright' => hgoes hright' (hnext (hright.mp hright')), fun hidle => ?_⟩
  · rw [hright, hfill, Transfer.fillsRight, h.hflag]
    rfl
  · have hzero : ∀ l : List ℕ, (∀ v ∈ l, v = 0) → l.headD 0 = 0 := by
      intro l hl
      cases l with
      | nil => rfl
      | cons v l => exact hl v List.mem_cons_self
    have hroom : 0 < r.profile.room := by
      rw [Profile.room, hzero _ hidle]
      decide
    have htaken : ¬ refuses r.profile.registers.tail := by
      rw [refuses, hzero _ fun v hv => hidle v (List.mem_of_mem_tail hv)]
      decide
    rw [hadds.asked, List.length_append]
    exact Nat.lt_add_of_pos_right (List.length_pos_of_ne_nil (hmore hroom htaken))

theorem vReadProgress_effect (n : ℕ) (s : Profile) :
    (∃ part, (exec (vReadProgress n) s).xTransfer n =
        { s.xTransfer n with ucExpectedByteCountPart := part }) ∧
      ((exec (vReadProgress n) s).xState n = s.xState n ∨
        (exec (vReadProgress n) s).xState n = .CONTROLLER_READ_DONE ∧
          (s.xTransfer n).usExpectedByteCount ≤ (s.xTransfer n).usReceiveIndex) := by
  rw [vReadProgress, exec_transfer_bind, exec_ite]
  split
  case isTrue hall =>
    refine ⟨⟨(s.xTransfer n).ucExpectedByteCountPart, ?_⟩, ?_⟩
    · exact Within.rel (R := Kept n) (m := (do
        write (.CtrlRxFifoFillThreshold 1)
        if (s.xTransfer n).ucPecRequiredForTransaction = true then
          if (s.xTransfer n).usExpectedByteCount < (s.xTransfer n).usReceiveIndex then
            vSMBusNextStateDecoder n .CONTROLLER_READ_DONE
          else pure ()
        else vSMBusNextStateDecoder n .CONTROLLER_READ_DONE : Routine Unit)) s
    · rw [exec_bind, exec_ite]
      split
      · rw [exec_ite]
        split
        · exact .inr ⟨Function.update_self _ _ _, hall⟩
        · exact .inl rfl
      · exact .inr ⟨Function.update_self _ _ _, hall⟩
  case isFalse =>
    exact ⟨⟨_, Function.update_self _ _ _⟩, .inl rfl⟩

theorem Ongoing.receive_iff (h : Ongoing n flag due base r)
    (hst : r.profile.xState n = .CONTROLLER_READ_BYTE)
    (hprofile : r'.profile = exec (do
      vReceiveAll n
      vReadProgress n) r.profile)
    (hreceived : r'.received = r.received ++ pendingData r.profile.registers) :
    (BlockRight base due r' ↔ (r.profile.xTransfer n).usReceiveIndex +
        (pendingData r.profile.registers).length ≤ DATA_SIZE_MAX) ∧
      (BlockRight base due r' → Ongoing n flag due base r') := by
  have hbegun := h.during (by rw [hst]; decide)
  obtain ⟨hstores, hspills⟩ := vReceiveAll_effect (n := n) hbegun.index
  rw [exec_bind] at hprofile
  generalize exec (vReceiveAll n) r.profile = m at hprofile hstores hspills
  have hprogress : Unasked m r'.profile := by
    rw [hprofile]
    exact Within.rel m
  by_cases hroom : (r.profile.xTransfer n).usReceiveIndex +
      (pendingData r.profile.registers).length ≤ DATA_SIZE_MAX
  · have hstored := hstores hroom
    obtain ⟨⟨part, htransfer⟩, hstate⟩ := vReadProgress_effect n m
    rw [← hprofile] at htransfer hstate
    have hunasked : Unasked r.profile r'.profile := IsTrans.trans _ _ _ hstored.unasked hprogress
    simp only [Same, Prod.mk.injEq] at hunasked
    obtain ⟨hasked, hhanded, hoverflows⟩ := hunasked
    have hrest := hstored.rest
    have hexpected : (r'.profile.xTransfer n).usExpectedByteCount =
        (r.profile.xTransfer n).usExpectedByteCount := by rw [htransfer, hrest]
    have hsent : (r'.profile.xTransfer n).usDescriptorsSent =
        (r.profile.xTransfer n).usDescriptorsSent := by rw [htransfer, hrest]
    have hindex : (r'.profile.xTransfer n).usReceiveIndex = (m.xTransfer n).usReceiveIndex := by
      rw [htransfer]
    have hdata : (r'.profile.xTransfer n).stored =
        (r.profile.xTransfer n).stored ++ pendingData r.profile.registers := by
      rw [← hstored.stored, htransfer]
      rfl
    have hnext : Ongoing n flag due base r' := by
      refine ⟨?_, ?_, hoverflows.trans h.overflows, hhanded.trans h.handed, fun hbefore => ?_,
        fun _ => ⟨?_, ?_, ?_, ?_⟩, fun hdone => ?_⟩
      · rw [htransfer, hrest]; exact h.hflag
      · rw [htransfer, hrest]; exact h.hdue
      · rcases hstate with hstate | ⟨hstate, -⟩
        · rw [hstate, hstored.state, hst] at hbefore
          exact absurd hbefore (by decide)
        · rw [hstate] at hbefore
          exact absurd hbefore (by decide)
      · rw [hreceived, hbegun.received, hexpected, hdata, List.cons_append]
      · rw [hexpected]; exact hbegun.expected
      · rw [hindex, hstored.index]; exact hroom
      · rw [hasked, hexpected, hsent]; exact hbegun.asked
      · rcases hstate with hstate | ⟨-, hall⟩
        · rw [hstate, hstored.state, hst] at hdone
          cases hdone
        · rw [hexpected, hindex]
          have hcount : (m.xTransfer n).usExpectedByteCount =
              (r.profile.xTransfer n).usExpectedByteCount := by rw [hrest]
          exact hcount ▸ hall
    exact ⟨⟨fun _ => hroom, fun _ => hnext.right⟩, fun _ => hnext⟩
  · have hmore := hspills (not_le.mp hroom)
    have hwrong : ¬ BlockRight base due r' := by
      intro hright
      have hsame : r'.profile.overflows = m.overflows := (Adds.of_unasked hprogress).overflows
      have hbase := hright.1
      rw [hsame] at hbase
      rw [h.overflows, hbase] at hmore
      exact lt_irrefl _ hmore
    exact ⟨⟨fun hright => absurd hright hwrong, fun hroom' => absurd hroom' hroom⟩,
      fun hright => absurd hright hwrong⟩

theorem complete_iff {ws : List RegisterWrite} (hws : r.profile.asked = base.asked ++ ws) :
    r.profile.complete n base due ↔
      ws = blockDescriptors due (r.profile.xTransfer n).usExpectedByteCount := by
  rw [Profile.complete, hws, List.append_cancel_left_eq]

theorem Ongoing.pec_iff (h : Ongoing n true true base r)
    (hst : r.profile.xState n = .CONTROLLER_READ_DONE)
    (hsent : (r.profile.xTransfer n).usDescriptorsSent =
      (r.profile.xTransfer n).usExpectedByteCount)
    (hprofile : r'.profile = exec (do
      let ok ← ucSMBusControllerReadDescriptorPEC
      if ok = true then vDescriptorSent n else pure ()) r.profile)
    (hreceived : r'.received = r.received) :
    (BlockRight base true r' ↔
        (r.profile.complete n base true → refuses r.profile.registers)) ∧
      (BlockRight base true r' → Ongoing n true true base r') ∧
      ((∀ v ∈ r.profile.registers, v = 0) →
        r.profile.asked.length < r'.profile.asked.length) := by
  have hst' : r.profile.xState n ∉ beforeCount := by rw [hst]; decide
  have hbegun := h.during hst'
  obtain ⟨ws, hws, hne, hprefix, hissued⟩ := hbegun.asked
  rw [ucSMBusControllerReadDescriptorPEC] at hprofile
  by_cases hfull : refuses r.profile.registers
  · rw [exec_controllerDescriptor_full _ _ hfull, if_neg Bool.false_ne_true] at hprofile
    have hadds : Adds r.profile r'.profile [] := by
      rw [hprofile]
      exact .of_unasked rfl
    have htransfer : r'.profile.xTransfer n = { r.profile.xTransfer n with
        usDescriptorsSent := (r.profile.xTransfer n).usDescriptorsSent } := by
      rw [hprofile]
      rfl
    have hstate : r'.profile.xState n = r.profile.xState n := by rw [hprofile]; rfl
    obtain ⟨hright, hgoes⟩ := h.issue_iff hst' hws hne hadds htransfer hstate hreceived
    rw [List.append_nil] at hright hgoes
    refine ⟨⟨fun _ _ => hfull, fun _ => hright.mpr hprefix⟩, fun hr => hgoes hr hissued,
      fun hidle => ?_⟩
    have hzero : r.profile.registers.headD 0 = 0 := by
      cases hregisters : r.profile.registers with
      | nil => rfl
      | cons v l => exact hidle v (by rw [hregisters]; exact List.mem_cons_self)
    rw [refuses, hzero] at hfull
    exact absurd hfull (by decide)
  · have hmax : (r.profile.xTransfer n).usDescriptorsSent ≤ DATA_SIZE_MAX := by
      rw [hsent]
      exact hbegun.expected.le
    rw [exec_controllerDescriptor_room _ _ hfull, if_pos rfl] at hprofile
    have hissues : r'.profile =
        r.profile.issues n [.CONTROLLER_READ_PEC] r.profile.registers.tail := by
      rw [hprofile]
      exact congrArg Prod.snd (run_counted hmax .CONTROLLER_READ_PEC r.profile.registers.tail true)
    have hadds : Adds r.profile r'.profile [.CONTROLLER_READ_PEC] := by
      rw [hissues]
      exact adds_issues _ n _ (by simp [RegisterWrite.reads])
    have hstate : r'.profile.xState n = r.profile.xState n := by rw [hissues]; rfl
    have htransfer := issues_transfer r.profile n [.CONTROLLER_READ_PEC] r.profile.registers.tail
    rw [← hissues] at htransfer
    obtain ⟨hright, hgoes⟩ := h.issue_iff hst' hws hne hadds htransfer hstate hreceived
    have hlonger : r.profile.asked.length < r'.profile.asked.length := by
      rw [hadds.asked]
      simp
    rw [complete_iff hws, hright]
    rcases hissued with ⟨-, hunder⟩ | ⟨hfullws, hsentws⟩
    · -- only the PEC is missing
      have hall : ws ++ [.CONTROLLER_READ_PEC] =
          blockDescriptors true (r.profile.xTransfer n).usExpectedByteCount := by
        rw [hunder, hsent, blockDescriptors_eq (.inl rfl)]
        rfl
      have hnot : ws ≠ blockDescriptors true (r.profile.xTransfer n).usExpectedByteCount := by
        rw [← hall]
        intro heq
        have hlength := congrArg List.length heq
        simp at hlength
      refine ⟨⟨fun _ heq => absurd heq hnot, fun _ => by rw [hall]⟩,
        fun hr => hgoes (hright.mpr hr) (.inr ⟨hall, .inl ?_⟩), fun _ => hlonger⟩
      rw [hsent]
      rfl
    · have hwrong : ¬ ws ++ [.CONTROLLER_READ_PEC] <+:
          blockDescriptors true (r.profile.xTransfer n).usExpectedByteCount := by
        intro hpre
        have hlength := hpre.length_le
        rw [← hfullws, List.length_append] at hlength
        simp at hlength
      exact ⟨⟨fun hpre => absurd hpre hwrong, fun himp => absurd (himp hfullws) hfull⟩,
        fun hpre => absurd hpre hwrong, fun _ => hlonger⟩

theorem vWriteData_effect (n : ℕ) (s : Profile)
    (hmax : (s.xTransfer n).usExpectedByteCount ≤ DATA_SIZE_MAX) :
    let s' := exec (vWriteData n) s
    s'.asked = s.asked ∧ s'.overflows = s.overflows ∧ s'.handed = s.handed ++
      if (s.xConfig n).pFnWriteData = true then
        [(List.range (s.xTransfer n).usExpectedByteCount).map (s.xTransfer n).ucReceivedData]
      else [] := by
  intro s'
  have hs' : s' = exec (vWriteData n) s := rfl
  rw [vWriteData, exec_get_bind, vSMBusHandleActionWriteDataToApplication, exec_config_bind] at hs'
  by_cases hcallback : (s.xConfig n).pFnWriteData = true
  · rw [if_pos hcallback, exec_get_bind, exec_transfer_bind, if_neg (not_lt.mpr hmax), exec_bind,
      exec_pure] at hs'
    rw [if_pos hcallback, hs']
    refine ⟨rfl, rfl, ?_⟩
    simp [Profile.handed, call, Call.handed]
  · rw [if_neg hcallback] at hs'
    rw [if_neg hcallback, List.append_nil, hs']
    exact ⟨rfl, rfl, rfl⟩

theorem Ongoing.done_iff (h : Ongoing n flag due base r) (hp : p ∈ blockReads)
    (hst : r.profile.xState n = .CONTROLLER_READ_DONE)
    (hprofile : r'.profile = exec (vReadDone n p) r.profile)
    (hreceived : r'.received = r.received) :
    (BlockRight base due r' ↔
        ((r.profile.xConfig n).pFnWriteData = true → r.profile.complete n base due)) ∧
      ¬ r'.profile.ReadsBlock n p := by
  have hbegun := h.during (by rw [hst]; decide)
  have hall := h.done hst
  obtain ⟨ws, hws, hne, hprefix, hissued⟩ := hbegun.asked
  have hbranch : p ∈ [.BLOCK_READ, .READ_64, .READ_32, .READ_WORD, .READ_BYTE, .PROCESS_CALL,
      .BLK_WRITE_BLK_RD_PROCESS_CALL, .RECEIVE_BYTE, .ARP_GET_UDID_DIRECTED,
      .ARP_GET_UDID] := by
    revert hp
    cases p <;> decide
  rw [vReadDone, if_pos hbranch, exec_bind, exec_bind] at hprofile
  obtain ⟨hasked, hoverflows, hhanded⟩ := vWriteData_effect n r.profile hbegun.expected.le
  generalize exec (vWriteData n) r.profile = m at hprofile hasked hoverflows hhanded
  have hrest : Unasked m r'.profile := by
    rw [hprofile]
    exact IsTrans.trans _ _ _ (Within.rel (R := Unasked) (m := vAnnounceResult n true) m)
      (Within.rel (R := Unasked) (m := vResetToInitial n) _)
  simp only [Same, Prod.mk.injEq] at hrest
  rw [hasked, hhanded, hoverflows, h.handed, h.overflows] at hrest
  obtain ⟨hasked', hhanded', hoverflows'⟩ := hrest
  refine ⟨?_, fun hreads => ?_⟩
  · have hdata : (List.range (r.profile.xTransfer n).usExpectedByteCount).map
        (r.profile.xTransfer n).ucReceivedData =
        (r.profile.xTransfer n).stored.take (r.profile.xTransfer n).usExpectedByteCount := by
      rw [Transfer.stored, ← List.map_take, List.take_range, Nat.min_eq_left hall]
    rw [complete_iff hws]
    unfold BlockRight
    rw [hreceived, hbegun.received, hasked', hoverflows', hhanded', hws]
    by_cases hcallback : (r.profile.xConfig n).pFnWriteData = true
    · rw [if_pos hcallback, hdata]
      refine ⟨?_, fun hfull => ⟨rfl, ws, rfl, hne, hprefix, .inr ⟨?_, hfull hcallback, rfl⟩⟩⟩
      · rintro ⟨-, us, hus, -, -, hhand | ⟨-, hfull, -⟩⟩ _
        · simp at hhand
        · rw [List.append_cancel_left hus]
          exact hfull
      · rw [length_stored]
        exact hall
    · rw [if_neg hcallback, List.append_nil]
      exact ⟨fun _ hcall => absurd hcall hcallback,
        fun _ => ⟨rfl, ws, rfl, hne, hprefix, .inl rfl⟩⟩
  · have hnone : (r'.profile.xTransfer n).xProtocol = .NONE := by
      rw [hprofile]
      exact vResetToInitial_protocol n _
    exact (blockRead_ne hp).1 (hreads.2.symm.trans hnone)

theorem Ongoing.given (h : Ongoing n flag due base r) (x : Input) :
    Ongoing n flag due base ⟨r.profile.given x, r.received⟩ :=
  ⟨h.hflag, h.hdue, h.overflows, h.handed, h.before, fun hst =>
    ⟨(h.during hst).received, (h.during hst).expected, (h.during hst).index,
      (h.during hst).asked⟩, h.done⟩

/-- The events that the condition is about, by state. -/
def criticalEvents : State → List Event
  | .CONTROLLER_READ_BLOCK_SIZE => [.CONTROLLER_DATA_IRQ]
  | .CONTROLLER_READ_BYTE => [.CONTROLLER_DATA_IRQ, .CONTROLLER_DESC_FIFO_ALMOST_EMPTY_IRQ]
  | .CONTROLLER_READ_DONE => [.CONTROLLER_DESC_FIFO_ALMOST_EMPTY_IRQ, .CONTROLLER_DONE_IRQ]
  | _ => []

variable (base due r') in
theorem rightStep_of_other {x : Input} (hx : x.event ∉ criticalEvents (r.profile.xState n)) :
    StepsRight n base due r x ∧ arrivals (r.profile.xState n) x = [] ∧
      (RightStep n base due r x r' ↔ BlockRight base due r') := by
  refine ⟨?_, ?_, ⟨fun h => h.1, fun h => ⟨h, fun he _ _ hst => ?_⟩⟩⟩
  · unfold StepsRight
    split <;> first | trivial | simp_all [criticalEvents]
  · unfold arrivals
    split <;> first | rfl | simp_all [criticalEvents]
  · rcases hst with ⟨hst, -⟩ | hst <;> simp_all [criticalEvents]

theorem Ongoing.other_iff (hp : p ∈ blockReads) (h : Ongoing n flag due base r) {x : Input}
    (hx : x.event ∉ criticalEvents (r.profile.xState n))
    (hreceived : r'.received = r.received ++ arrivals (r.profile.xState n) x)
    (hunasked : Unasked r.profile r'.profile) (hturns : Turns n r.profile r'.profile) :
    (RightStep n base due r x r' ↔ StepsRight n base due r x) ∧
      (RightStep n base due r x r' → r'.profile.ReadsBlock n p →
        Ongoing n flag due base r') := by
  obtain ⟨hok, hnone, hright⟩ := rightStep_of_other due base r' hx
  rw [hnone, List.append_nil] at hreceived
  obtain ⟨hblock, hgoes⟩ := h.of_turns (blockRead_ne hp).1 hunasked hreceived hturns
  exact ⟨⟨fun _ => hok, fun _ => hright.mpr hblock⟩, fun _ => hgoes⟩

theorem Ongoing.wait_iff (h : Ongoing n flag due base r) {x : Input}
    (hst : r.profile.xState n ∈ [.INITIAL, .CONTROLLER_SEND_COMMAND, .CONTROLLER_WRITE_BYTE,
      .CONTROLLER_SEND_READ_START])
    (hreceived : r'.received = r.received ++ arrivals (r.profile.xState n) x)
    (hwaits : Waits n p r.profile r'.profile) :
    (RightStep n base due r x r' ↔ StepsRight n base due r x) ∧
      (RightStep n base due r x r' → r'.profile.ReadsBlock n p →
        Ongoing n flag due base r') := by
  have hx : x.event ∉ criticalEvents (r.profile.xState n) ∧ r.profile.xState n ∈ beforeCount := by
    revert hst
    generalize r.profile.xState n = st
    cases st <;> simp [criticalEvents, beforeCount]
  obtain ⟨hok, hnone, hright⟩ := rightStep_of_other due base r' hx.1
  rw [hnone, List.append_nil] at hreceived
  obtain ⟨hblock, hgoes⟩ := h.of_waits hx.2 hreceived hwaits
  exact ⟨⟨fun _ => hok, fun _ => hright.mpr hblock⟩, fun _ => hgoes⟩

theorem rightStep_iff_of_ne {x : Input} (hx : x.event ≠ .CONTROLLER_DESC_FIFO_ALMOST_EMPTY_IRQ) :
    RightStep n base due r x r' ↔ BlockRight base due r' :=
  ⟨fun h => h.1, fun h => ⟨h, fun he => absurd he hx⟩⟩

theorem rightStep_iff_of_lt {x : Input}
    (hx : x.idle → r.profile.asked.length < r'.profile.asked.length) :
    RightStep n base due r x r' ↔ BlockRight base due r' :=
  ⟨fun h => h.1, fun h => ⟨h, fun _ hidle _ _ => hx hidle⟩⟩

theorem Ongoing.blockSize_step (hp : p ∈ blockReads) (h : Ongoing n flag due base r)
    (hs : r.profile.ReadsBlock n p) (hst : r.profile.xState n = .CONTROLLER_READ_BLOCK_SIZE)
    {x : Input}
    (hprofile : r'.profile = exec (vStateControllerReadBlockSize n x.event) r.profile)
    (hregisters : r.profile.registers = x.registers)
    (hreceived : r'.received = r.received ++ arrivals (r.profile.xState n) x) :
    (RightStep n base due r x r' ↔ StepsRight n base due r x) ∧
      (RightStep n base due r x r' → r'.profile.ReadsBlock n p →
        Ongoing n flag due base r') := by
  by_cases hdata : x.event = .CONTROLLER_DATA_IRQ
  · have hblock : (r.profile.xTransfer n).xProtocol ∈ [.BLOCK_READ,
        .BLK_WRITE_BLK_RD_PROCESS_CALL, .ARP_GET_UDID, .ARP_GET_UDID_DIRECTED] := by
      rw [hs.2]
      exact hp
    have hexec : r'.profile = exec (vBlockSize n) r.profile := by
      rw [hprofile, hdata]
      simp only [vStateControllerReadBlockSize]
      rw [exec_transfer_bind, if_pos hblock]
    have hcount : r'.received = r.received ++ [r.profile.registers.headD 0 % 2 ^ 8] := by
      rw [hreceived, hregisters]
      simp only [arrivals, hst, hdata]
    obtain ⟨hiff, hgoes⟩ := h.count_iff hst hexec hcount
    rw [rightStep_iff_of_ne (by rw [hdata]; decide), hiff, hregisters]
    simp only [StepsRight, hst, hdata]
    refine ⟨trivial, fun htaken _ => hgoes (hiff.mpr ?_)⟩
    rw [hregisters]
    exact htaken
  · have hcritical : x.event ∉ criticalEvents (r.profile.xState n) := by
      rw [hst]
      simpa [criticalEvents] using hdata
    refine h.other_iff hp hcritical hreceived ?_ ?_
    · rw [hprofile]
      unfold vStateControllerReadBlockSize
      split
      · exact rfl
      · exact absurd ‹_› hdata
      · exact Within.rel r.profile
    · rw [hprofile]
      unfold vStateControllerReadBlockSize
      split
      · exact .inl ⟨rfl, rfl⟩
      · exact absurd ‹_› hdata
      · exact vOtherEvent_turns n _ r.profile

theorem Ongoing.byte_step (hp : p ∈ blockReads) (hdue : flag = true → due = true)
    (h : Ongoing n flag due base r) (hs : r.profile.ReadsBlock n p)
    (hst : r.profile.xState n = .CONTROLLER_READ_BYTE) {x : Input}
    (hprofile : r'.profile = exec (vStateControllerReadByte n x.event) r.profile)
    (hregisters : r.profile.registers = x.registers)
    (hreceived : r'.received = r.received ++ arrivals (r.profile.xState n) x) :
    (RightStep n base due r x r' ↔ StepsRight n base due r x) ∧
      (RightStep n base due r x r' → r'.profile.ReadsBlock n p →
        Ongoing n flag due base r') := by
  have hst' : r.profile.xState n ∉ beforeCount := by rw [hst]; decide
  by_cases hdata : x.event = .CONTROLLER_DATA_IRQ
  · have hread : (r.profile.xTransfer n).xProtocol ∈ controllerReads := by
      rw [hs.2]
      revert hp
      cases p <;> decide
    have hexec : r'.profile = exec (do
        vReceiveAll n
        vReadProgress n) r.profile := by
      rw [hprofile, hdata]
      simp only [vStateControllerReadByte]
      rw [exec_transfer_bind, if_pos hread]
    have hbytes : r'.received = r.received ++ pendingData r.profile.registers := by
      rw [hreceived, hregisters]
      simp only [arrivals, hst, hdata]
    obtain ⟨hiff, hgoes⟩ := h.receive_iff hst hexec hbytes
    rw [rightStep_iff_of_ne (by rw [hdata]; decide), hiff, hregisters]
    simp only [StepsRight, hst, hdata]
    refine ⟨trivial, fun hroom _ => hgoes (hiff.mpr ?_)⟩
    rw [hregisters]
    exact hroom
  by_cases hempty : x.event = .CONTROLLER_DESC_FIFO_ALMOST_EMPTY_IRQ
  · have hsame : r'.received = r.received := by
      rw [hreceived]
      simp only [arrivals, hst, hempty, List.append_nil]
    have hblock : (r.profile.xTransfer n).xProtocol ∈ [.BLOCK_READ,
        .BLK_WRITE_BLK_RD_PROCESS_CALL, .ARP_GET_UDID, .ARP_GET_UDID_DIRECTED, .I2C_READ,
        .I2C_WRITE_READ] := by
      rw [hs.2]
      revert hp
      cases p <;> decide
    rw [hempty] at hprofile
    simp only [vStateControllerReadByte] at hprofile
    rw [exec_transfer_bind] at hprofile
    by_cases hsent : (r.profile.xTransfer n).usDescriptorsSent <
        (r.profile.xTransfer n).usExpectedByteCount
    · rw [if_pos ⟨hblock, hsent⟩] at hprofile
      obtain ⟨hiff, hgoes, hmore⟩ := h.fill_iff hdue hst' hsent (k := do
        let _ ← ulSMBusHWReadCtrlDescStatusFillLevel
        write .CtrlControlEnable) hprofile hsame
      rw [rightStep_iff_of_lt fun hidle => hmore (by rw [hregisters]; exact hidle), hiff,
        hregisters]
      simp only [StepsRight, hst, hempty]
      refine ⟨⟨fun hfill _ => hfill, fun hfill => hfill hsent⟩, fun hfill _ => hgoes ?_⟩
      rw [hiff, hregisters]
      exact hfill
    · rw [if_neg fun hand => hsent hand.2] at hprofile
      have heq : r'.profile = r.profile := hprofile
      have hunasked : Unasked r.profile r'.profile := by rw [heq]; rfl
      obtain ⟨hright, hgoes⟩ := h.of_turns (blockRead_ne hp).1 hunasked hsame
        (by rw [heq]; exact .inl ⟨rfl, rfl⟩)
      have hadvances : Advances n base due r x r' := by
        rintro - - hincomplete (⟨-, hshort⟩ | hdone)
        · obtain ⟨ws, hws, -, -, hissued⟩ := (h.during hst').asked
          exfalso
          rcases hissued with ⟨-, hunder⟩ | ⟨hfull, -⟩
          · rw [hws, hunder] at hshort
            simp only [List.length_append, List.length_cons, List.length_replicate] at hshort
            omega
          · exact hincomplete ((complete_iff hws).mpr hfull)
        · rw [hst] at hdone
          cases hdone
      simp only [StepsRight, hst, hempty]
      exact ⟨⟨fun _ hlt => absurd hlt hsent, fun _ => ⟨hright, hadvances⟩⟩, fun _ => hgoes⟩
  · have hcritical : x.event ∉ criticalEvents (r.profile.xState n) := by
      rw [hst]
      simpa [criticalEvents] using ⟨hdata, hempty⟩
    refine h.other_iff hp hcritical hreceived ?_ ?_
    · rw [hprofile]
      unfold vStateControllerReadByte
      split
      · exact absurd ‹_› hempty
      · exact rfl
      · exact absurd ‹_› hdata
      · exact Within.rel r.profile
    · rw [hprofile]
      unfold vStateControllerReadByte
      split
      · exact absurd ‹_› hempty
      · exact .inl ⟨rfl, rfl⟩
      · exact absurd ‹_› hdata
      · exact vOtherEvent_turns n _ r.profile

theorem Ongoing.done_step (hp : p ∈ blockReads) (hdue : flag = true → due = true)
    (h : Ongoing n flag due base r) (hs : r.profile.ReadsBlock n p)
    (hst : r.profile.xState n = .CONTROLLER_READ_DONE) {x : Input}
    (hprofile : r'.profile = exec (vStateControllerReadDone n x.event) r.profile)
    (hregisters : r.profile.registers = x.registers)
    (hreceived : r'.received = r.received ++ arrivals (r.profile.xState n) x) :
    (RightStep n base due r x r' ↔ StepsRight n base due r x) ∧
      (RightStep n base due r x r' → r'.profile.ReadsBlock n p →
        Ongoing n flag due base r') := by
  have hst' : r.profile.xState n ∉ beforeCount := by rw [hst]; decide
  have hi2c : ¬ (r.profile.xTransfer n).xProtocol = .I2C_READ := by
    rw [hs.2]
    exact fun hp' => (blockRead_ne hp).2.1 (by rw [hp']; decide)
  by_cases hdone : x.event = .CONTROLLER_DONE_IRQ
  · have hsame : r'.received = r.received := by
      rw [hreceived]
      simp only [arrivals, hst, hdone, List.append_nil]
    have hexec : r'.profile = exec (vReadDone n p) r.profile := by
      rw [hprofile, hdone]
      simp only [vStateControllerReadDone]
      rw [exec_transfer_bind, hs.2]
    obtain ⟨hiff, hnot⟩ := h.done_iff hp hst hexec hsame
    rw [rightStep_iff_of_ne (by rw [hdone]; decide), hiff]
    simp only [StepsRight, hst, hdone]
    exact ⟨trivial, fun _ hreads => absurd hreads hnot⟩
  by_cases hempty : x.event = .CONTROLLER_DESC_FIFO_ALMOST_EMPTY_IRQ
  · have hsame : r'.received = r.received := by
      rw [hreceived]
      simp only [arrivals, hst, hempty, List.append_nil]
    rw [hempty] at hprofile
    simp only [vStateControllerReadDone] at hprofile
    rw [vReadDoneAlmostEmpty, exec_transfer_bind, if_neg hi2c] at hprofile
    simp only [StepsRight, hst, hempty]
    by_cases hsent : (r.profile.xTransfer n).usDescriptorsSent <
        (r.profile.xTransfer n).usExpectedByteCount
    · rw [if_pos hsent] at hprofile ⊢
      obtain ⟨hiff, hgoes, hmore⟩ := h.fill_iff hdue hst' hsent (k :=
        if (r.profile.xTransfer n).ucPecRequiredForTransaction = true then pure ()
        else write .CtrlControlEnable) hprofile hsame
      rw [rightStep_iff_of_lt fun hidle => hmore (by rw [hregisters]; exact hidle), hiff,
        hregisters]
      refine ⟨Iff.rfl, fun hfill _ => hgoes ?_⟩
      rw [hiff, hregisters]
      exact hfill
    rw [if_neg hsent] at hprofile ⊢
    by_cases hpec : (r.profile.xTransfer n).ucPecRequiredForTransaction = true ∧
        (r.profile.xTransfer n).usDescriptorsSent = (r.profile.xTransfer n).usExpectedByteCount
    · rw [if_pos hpec] at hprofile ⊢
      obtain rfl : flag = true := h.hflag.symm.trans hpec.1
      obtain rfl : due = true := hdue rfl
      obtain ⟨hiff, hgoes, hmore⟩ := h.pec_iff hst hpec.2 hprofile hsame
      rw [rightStep_iff_of_lt fun hidle => hmore (by rw [hregisters]; exact hidle), hiff,
        hregisters]
      refine ⟨Iff.rfl, fun himp _ => hgoes ?_⟩
      rw [hiff, hregisters]
      exact himp
    · rw [if_neg hpec] at hprofile ⊢
      have heq : r'.profile = r.profile := hprofile
      have hunasked : Unasked r.profile r'.profile := by rw [heq]; rfl
      obtain ⟨hright, hgoes⟩ := h.of_turns (blockRead_ne hp).1 hunasked hsame
        (by rw [heq]; exact .inl ⟨rfl, rfl⟩)
      refine ⟨⟨fun hstep hidle => ?_, fun himp => ⟨hright, fun _ hidle hincomplete _ =>
        absurd (himp hidle) hincomplete⟩⟩, fun _ => hgoes⟩
      by_contra hincomplete
      have hlt := hstep.2 hempty hidle hincomplete (.inr hst)
      rw [heq] at hlt
      exact lt_irrefl _ hlt
  · have hcritical : x.event ∉ criticalEvents (r.profile.xState n) := by
      rw [hst]
      simpa [criticalEvents] using ⟨hempty, hdone⟩
    refine h.other_iff hp hcritical hreceived ?_ ?_
    · rw [hprofile]
      unfold vStateControllerReadDone
      split
      · rw [exec_transfer_bind, if_neg hi2c]
        exact rfl
      · exact absurd ‹_› hempty
      · exact absurd ‹_› hdone
      · exact Within.rel r.profile
    · rw [hprofile]
      unfold vStateControllerReadDone
      split
      · rw [exec_transfer_bind, if_neg hi2c]
        exact .inl ⟨rfl, rfl⟩
      · exact absurd ‹_› hempty
      · exact absurd ‹_› hdone
      · exact vOtherEvent_turns n _ r.profile

/-- **Step of a block read.** It is right exactly when it meets the condition. -/
theorem Ongoing.step_iff (hp : p ∈ blockReads) (hdue : flag = true → due = true)
    (h : Ongoing n flag due base r) (hs : r.profile.ReadsBlock n p) (x : Input)
    (hprofile : r'.profile = exec (vSMBusFSM n x.event) (r.profile.given x))
    (hreceived : r'.received = r.received ++ arrivals (r.profile.xState n) x) :
    (RightStep n base due r x r' ↔ StepsRight n base due r x) ∧
      (RightStep n base due r x r' → r'.profile.ReadsBlock n p →
        Ongoing n flag due base r') := by
  have hg := h.given x
  have hsg : (r.profile.given x).ReadsBlock n p := hs
  have hstates := hs.1
  simp only [readingStates, List.mem_cons, List.not_mem_nil, or_false] at hstates
  rw [vSMBusFSM, exec_get_bind] at hprofile
  have hstate : (r.profile.given x).xState n = r.profile.xState n := rfl
  rw [hstate] at hprofile
  rcases hstates with hst | hst | hst | hst | hst | hst | hst
  · simp only [hst] at hprofile
    refine hg.wait_iff (by rw [hstate, hst]; decide) hreceived ?_
    rw [hprofile]
    exact initial_waits hp hsg hst x.event
  · simp only [hst] at hprofile
    refine hg.wait_iff (by rw [hstate, hst]; decide) hreceived ?_
    rw [hprofile]
    exact sendCommand_waits (s := r.profile.given x) hp hst x.event
  · simp only [hst] at hprofile
    refine hg.wait_iff (by rw [hstate, hst]; decide) hreceived ?_
    rw [hprofile]
    exact writeByte_waits (s := r.profile.given x) hp hst x.event
  · simp only [hst] at hprofile
    refine hg.wait_iff (by rw [hstate, hst]; decide) hreceived ?_
    rw [hprofile]
    exact readStart_waits hp hsg hst x.event
  · simp only [hst] at hprofile
    exact hg.blockSize_step hp hsg hst hprofile rfl hreceived
  · simp only [hst] at hprofile
    exact hg.byte_step hp hdue hsg hst hprofile rfl hreceived
  · simp only [hst] at hprofile
    exact hg.done_step hp hdue hsg hst hprofile rfl hreceived

end Step

/-! ### The command -/

/-- An instance in the initial state has received nothing. -/
def AtRest (s : Profile) : Prop :=
  ∀ n, s.xState n = .INITIAL → (s.xTransfer n).usReceiveIndex = 0

theorem vSMBusFSM_atRest {n : ℕ} {e : Event} {s : Profile}
    (hs : s.xState n = .INITIAL → (s.xTransfer n).usReceiveIndex = 0)
    (hafter : (exec (vSMBusFSM n e) s).xState n = .INITIAL) :
    ((exec (vSMBusFSM n e) s).xTransfer n).usReceiveIndex = 0 := by
  rcases vSMBusFSM_exit n e s with h | ⟨m, -, hs'⟩
  · -- a handler that ends no transfer stays in the initial state only if it began there
    have hbefore : s.xState n = .INITIAL := by
      rcases h.state with hst | hst
      · exact hst.symm.trans hafter
      · rw [hafter] at hst
        exact absurd hst (by
          generalize s.xState n = st
          cases st <;> cases e <;> decide)
    rw [vSMBusFSM, exec_get_bind, hbefore] at hafter ⊢
    by_cases he : e = .SEND_NEXT_BYTE
    · have hlands : Within (Lands n (.AWAITING_DONE :: controllerStates))
          (vStateInitial n .SEND_NEXT_BYTE) := by
        simp only [vStateInitial]; unfold vStartCommand; infer_instance
      have hstate := hlands.rel s
      rw [he] at hafter
      change (exec (vStateInitial n .SEND_NEXT_BYTE) s).xState n = .INITIAL at hafter
      rw [Lands, hafter] at hstate
      exact absurd hstate (by decide)
    · rcases vStateInitial_turns he s with ⟨htransfer, -⟩ | ⟨-, -, hzero⟩ | hstate
      · change ((exec (vStateInitial n e) s).xTransfer n).usReceiveIndex = 0
        rw [htransfer]
        exact hs hbefore
      · exact hzero
      · change (exec (vStateInitial n e) s).xState n = .INITIAL at hafter
        rw [hafter] at hstate
        exact absurd hstate (by decide)
  · rw [hs']
    exact (vResetToInitial_fresh n m).received

theorem atRest_step {s s' : Profile} {a : Action} (hs : AtRest s) (h : step s a = some s') :
    AtRest s' := by
  have hfields : ∀ {t : Profile}, t.xState = s.xState → t.xTransfer = s.xTransfer → AtRest t := by
    intro t hstate htransfer n
    rw [hstate, htransfer]
    exact hs n
  cases step_effect h with
  | @handled registers answer n e es hhandling hpending hqueue =>
    intro j hj
    rcases eq_or_ne j n with rfl | hne
    · exact vSMBusFSM_atRest (s := s.take j registers answer) (hs j) hj
    · have hother := vSMBusFSM_otherTransfers hne e (s.take n registers answer)
      rw [hother]
      have hround := round_effect hqueue registers answer
      rw [hround.otherState j hne] at hj
      exact hs j hj
  | refused active hidle hrecord =>
    simp only [Profile.record, Profile.control, Prod.mk.injEq] at hrecord
    obtain ⟨⟨-, -, -, -, hstate, -⟩, htransfer, -⟩ := hrecord
    exact hfields hstate htransfer
  | reconfigured hidle hrec =>
    have hbus := hrec.bus
    simp only [Profile.bus, Prod.mk.injEq] at hbus
    obtain ⟨-, -, -, hstate, -⟩ := hbus
    intro j hj
    rw [hstate] at hj
    have hzero : (s.xTransfer j).usReceiveIndex = 0 := hs j hj
    rcases hrec.slot j with ⟨-, -, htransfer⟩ | ⟨-, -, -, htransfer⟩ | ⟨-, -, -, htransfer⟩
    · rw [htransfer]
      exact hzero
    · simp only [Transfer.cursor, Prod.mk.injEq] at htransfer
      rw [htransfer.2.2.2.1]
      exact hzero
    · rw [htransfer]
      exact hzero
  | commanded n hidle ha hadmitted hrecord =>
    simp only [Profile.record, Profile.control, Prod.mk.injEq] at hrecord
    obtain ⟨⟨-, -, -, -, hstate, -⟩, htransfer, -⟩ := hrecord
    intro j hj
    rw [hstate] at hj
    rw [htransfer]
    have hzero : (s.xTransfer j).usReceiveIndex = 0 := hs j hj
    rcases eq_or_ne j n with rfl | hne
    · simp only [Profile.commanded, Function.update_self]
      cases a <;> exact hzero
    · simp only [Profile.commanded, Function.update_of_ne hne]
      exact hzero
  | target active hidle hactive => exact hfields rfl rfl
  | controller hidle hplay => exact hfields rfl rfl

theorem blockRead_loaded {a : Initiate} {s₀ s : Profile} (hreach : Reaches step always .start s₀)
    (hok : a.ok s₀) (hstep : step s₀ (.initiate a) = some s) :
    s.ReadsBlock a.ucSMBusInstanceID a.xProtocol ∧
      Ongoing a.ucSMBusInstanceID a.ucPecRequiredForTransaction a.pecDue s ⟨s, []⟩ := by
  have hrest : AtRest s₀ := hreach.invariant AtRest (fun _ _ => rfl)
    fun _ _ _ h _ hstep => atRest_step h hstep
  have hs : s = exec (Action.initiate a).entry s₀.rest := by
    simp only [step] at hstep
    split at hstep <;> simp_all [Profile.rest]
  have hrecord : s.record = (s₀.rest.commanded a.ucSMBusInstanceID
      ((Action.initiate a).transaction s₀.rest) (Action.initiate a).load).record := by
    rw [hs]
    rcases command_effect (s := s₀.rest) (a := .initiate a) rfl with ⟨hnot, -⟩ | ⟨-, h⟩
    · exact absurd hok hnot
    · exact h
  simp only [Profile.record, Profile.control, Prod.mk.injEq] at hrecord
  obtain ⟨⟨-, -, -, -, hstate, -⟩, htransfer, -⟩ := hrecord
  have hst : s.xState a.ucSMBusInstanceID = .INITIAL := by
    rw [hstate]
    exact hok.2.2.2.2.2
  have hload : s.xTransfer a.ucSMBusInstanceID =
      (Action.initiate a).load (s₀.xTransfer a.ucSMBusInstanceID) := by
    rw [htransfer]
    exact Function.update_self _ _ _
  have hzero : (s.xTransfer a.ucSMBusInstanceID).usReceiveIndex = 0 := by
    rw [hload]
    exact hrest _ hok.2.2.2.2.2
  refine ⟨⟨by rw [hst]; decide, by rw [hload]; rfl⟩, by rw [hload]; rfl, by rw [hload]; rfl, rfl,
    rfl, fun _ => ⟨rfl, hzero, rfl⟩, fun hnot => ?_, fun hdone => ?_⟩
  · change s.xState a.ucSMBusInstanceID ∉ beforeCount at hnot
    rw [hst] at hnot
    exact absurd (by decide) hnot
  · change s.xState a.ucSMBusInstanceID = .CONTROLLER_READ_DONE at hdone
    rw [hst] at hdone
    cases hdone

/-- **Block reads ask for the block.** For every block read accepted in a reachable state, in every
run of events with any fill levels, refused descriptors and bytes: each step is right if and only if
each step meets the condition. -/
theorem block_read_iff {a : Initiate} {s₀ s : Profile} {r : BlockRead}
    (hreach : Reaches step always .start s₀) (hp : a.xProtocol ∈ blockReads) (hok : a.ok s₀)
    (hstep : step s₀ (.initiate a) = some s) (xs : List Input)
    (hrun : run (readStep a.ucSMBusInstanceID a.xProtocol) ⟨s, []⟩ xs = some r) :
    Along (readStep a.ucSMBusInstanceID a.xProtocol)
        (RightStep a.ucSMBusInstanceID s a.pecDue) ⟨s, []⟩ xs ↔
      run (guarded (readStep a.ucSMBusInstanceID a.xProtocol)
        (StepsRight a.ucSMBusInstanceID s a.pecDue)) ⟨s, []⟩ xs = some r := by
  obtain ⟨hreads, hongoing⟩ := blockRead_loaded hreach hok hstep
  have hdue : a.ucPecRequiredForTransaction = true → a.pecDue = true := by
    intro h
    rw [Initiate.pecDue, h, Bool.true_or]
  refine along_iff (I := fun t : BlockRead => t.profile.ReadsBlock a.ucSMBusInstanceID a.xProtocol →
      Ongoing a.ucSMBusInstanceID a.ucPecRequiredForTransaction a.pecDue s t)
    (fun t x t' ht h hright => ?_) (fun t x t' ht h => ?_) xs (fun _ => hongoing) hrun
  · unfold readStep at h
    split_ifs at h with hs
    obtain rfl := Option.some.inj h
    exact ((ht hs).step_iff hp hdue hs x rfl rfl).2 hright
  · unfold readStep at h
    split_ifs at h with hs
    obtain rfl := Option.some.inj h
    exact ((ht hs).step_iff hp hdue hs x rfl rfl).1

def blockRead : Initiate :=
  { writeWord with xProtocol := .BLOCK_READ, usDataSize := 0, ucPecRequiredForTransaction := true }

def bytesCome (registers : List ℕ) : Input := ⟨.CONTROLLER_DATA_IRQ, registers, .none⟩

def fifoEmpty : Input := ⟨.CONTROLLER_DESC_FIFO_ALMOST_EMPTY_IRQ, [], .none⟩

def readDone : Input := ⟨.CONTROLLER_DONE_IRQ, [], .none⟩

def threeBytes : List Input :=
  [nextByte, nextByte, nextByte, bytesCome [3], fifoEmpty,
    bytesCome [0, 10, 0, 11, 0, 12, 0, 99, 1], readDone]

/-- The block of three bytes is read right. -/
theorem block_read_three : ∃ (s : Profile) (r : BlockRead),
    run (readStep 0 .BLOCK_READ) ⟨s, []⟩ threeBytes = some r ∧
      r.profile.handed = [[10, 11, 12]] ∧
      Along (readStep 0 .BLOCK_READ) (RightStep 0 s true) ⟨s, []⟩ threeBytes := by
  have h : ((run step .start [.createSMBus (smbusDevice 0x20)]).bind fun s₀ =>
      (step s₀ (.initiate blockRead)).bind fun s =>
        (run (guarded (readStep 0 .BLOCK_READ) (StepsRight 0 s true)) ⟨s, []⟩ threeBytes).map
          fun r => (s₀, s, r)).any (fun x =>
      decide (blockRead.ok x.1 ∧ x.2.2.profile.handed = [[10, 11, 12]])) = true := by
    decide +kernel
  obtain ⟨⟨s₀, s, r⟩, hsome, hall⟩ := (Option.any_eq_true _ _).mp h
  obtain ⟨hok, hhanded⟩ := of_decide_eq_true hall
  obtain ⟨t₀, ht₀, hsome⟩ := Option.bind_eq_some_iff.mp hsome
  obtain ⟨t, ht, hsome⟩ := Option.bind_eq_some_iff.mp hsome
  obtain ⟨t', hguarded, heq⟩ := Option.map_eq_some_iff.mp hsome
  cases heq
  have hrun := run_of_guarded _ hguarded
  exact ⟨s, r, hrun, hhanded, (block_read_iff (a := blockRead) (.of_run ht₀) (by decide) hok ht _
    hrun).mpr hguarded⟩

def noBytes : List Input :=
  [nextByte, nextByte, nextByte, bytesCome [0], bytesCome [0, 99, 1], fifoEmpty]

/-- Where the block has no bytes, the PEC is asked for twice. -/
theorem block_read_second_pec : ∃ (s₀ s : Profile) (r : BlockRead), blockRead.ok s₀ ∧
    step s₀ (.initiate blockRead) = some s ∧
    run (readStep 0 .BLOCK_READ) ⟨s, []⟩ noBytes = some r ∧
    r.profile.asked = s.asked ++
      [.CONTROLLER_READ_BYTE, .CONTROLLER_READ_PEC, .CONTROLLER_READ_PEC] ∧
    ¬ BlockRight s true r := by
  have h : ((run step .start [.createSMBus (smbusDevice 0x20)]).bind fun s₀ =>
      (step s₀ (.initiate blockRead)).bind fun s =>
        (run (readStep 0 .BLOCK_READ) ⟨s, []⟩ noBytes).map fun r => (s₀, s, r)).any (fun x =>
      decide (blockRead.ok x.1 ∧ x.2.1.asked = [] ∧ x.2.2.received = [0, 99] ∧
        x.2.2.profile.asked = [.CONTROLLER_READ_BYTE, .CONTROLLER_READ_PEC,
          .CONTROLLER_READ_PEC])) = true := by
    decide +kernel
  obtain ⟨⟨s₀, s, r⟩, hsome, hall⟩ := (Option.any_eq_true _ _).mp h
  obtain ⟨hok, hbase, hreceived, hasked⟩ := of_decide_eq_true hall
  obtain ⟨t₀, ht₀, hsome⟩ := Option.bind_eq_some_iff.mp hsome
  obtain ⟨t, ht, hsome⟩ := Option.bind_eq_some_iff.mp hsome
  obtain ⟨t', hrun, heq⟩ := Option.map_eq_some_iff.mp hsome
  cases heq
  have hbase' : s.asked = [] := hbase
  have hasked' : r.profile.asked = [.CONTROLLER_READ_BYTE, .CONTROLLER_READ_PEC,
    .CONTROLLER_READ_PEC] := hasked
  have hreceived' : r.received = [0, 99] := hreceived
  refine ⟨s₀, s, r, hok, ht, hrun, by rw [hbase', hasked']; rfl, fun hright => ?_⟩
  unfold BlockRight at hright
  rw [hreceived', hasked', hbase'] at hright
  obtain ⟨-, ws, hws, -, hprefix, -⟩ := hright
  rw [List.nil_append] at hws
  rw [← hws] at hprefix
  exact absurd hprefix (by decide)

end Amr.Smbus
