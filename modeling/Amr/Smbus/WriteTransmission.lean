/-
# Sending the data of a controller write

A controller write puts a start, the command byte where the protocol has one, the caller's data and
the PEC or the STOP in the controller descriptor FIFO. The data go in pieces, as many at a time as
the FIFO has room for, and the last byte goes by itself, with what ends the write
(`vFillWrite`, `vWriteLast`). A step here is one event handled by the instance with any values of
the registers, so every schedule of fill levels and refused descriptors is a list of steps.

What is to be sent is stated for the command that the caller gave (`WriteCommand.expected`). For a
block the caller's data begin with the block count. The PEC of a command is the one asked for; the
commands of address resolution always have one, and `HOST_NOTIFY` and I2C writes never have. A
write that a read follows ends with neither a PEC nor a STOP.

Left out: the start descriptor, whose loss the FIFO reset before it rules out.
-/
import Amr.Smbus.BufferSafety
import Amr.Smbus.Results

namespace Amr.Smbus

open StateProgram Transition

set_option synthInstance.maxSize 20000
set_option synthInstance.maxHeartbeats 200000

/-! ### What is put on the bus -/

/-- The descriptors that carry a byte or the PEC. -/
def RegisterWrite.sends : RegisterWrite → Bool
  | .CONTROLLER_WRITE_BYTE _ | .CONTROLLER_WRITE_STOP _ | .CONTROLLER_WRITE_PEC => true
  | _ => false

/-- The bytes and PECs put in the controller descriptor FIFO, in order. -/
def Profile.sent (s : Profile) : List RegisterWrite := s.written.filter RegisterWrite.sends

def combinedWrites : List Protocol :=
  [.PROCESS_CALL, .BLK_WRITE_BLK_RD_PROCESS_CALL, .I2C_WRITE_READ]

/-- The writes that end the transfer, those of address resolution apart. -/
def plainWrites : List Protocol :=
  [.BLOCK_WRITE, .WRITE_BYTE, .WRITE_WORD, .WRITE_32, .WRITE_64, .SEND_BYTE, .HOST_NOTIFY,
    .I2C_WRITE]

/-- The commands of address resolution without data. -/
def arpCommands : List Protocol :=
  [.ARP_PREPARE_TO_ARP, .ARP_RESET_DEVICE, .ARP_RESET_DEVICE_DIRECTED]

def writeProtocols : List Protocol :=
  combinedWrites ++ plainWrites ++ .ARP_ASSIGN_ADDRESS :: arpCommands

/-- What the caller of a controller write asks for. -/
structure WriteCommand where
  protocol : Protocol
  command : ℕ
  data : List ℕ
  pec : Bool

/-- The protocol is a write and the entry points take the length. -/
structure WriteCommand.Valid (c : WriteCommand) : Prop where
  protocol : c.protocol ∈ writeProtocols
  length : c.data.length ≤ DATA_SIZE_MAX

def WriteCommand.pecRequired (c : WriteCommand) : Bool :=
  decide (c.protocol ∈ .ARP_ASSIGN_ADDRESS :: arpCommands) ||
    c.pec && decide (c.protocol ∉ [.HOST_NOTIFY, .I2C_WRITE])

/-- The command byte, where the protocol has one. -/
def WriteCommand.head (c : WriteCommand) : List RegisterWrite :=
  if c.protocol ∈ [.SEND_BYTE, .I2C_WRITE, .I2C_WRITE_READ] then []
  else [.CONTROLLER_WRITE_BYTE c.command]

/-- The data, each byte once and in order, and what ends them. -/
def WriteCommand.payload (c : WriteCommand) : List RegisterWrite :=
  if c.protocol ∈ combinedWrites then c.data.map .CONTROLLER_WRITE_BYTE
  else if c.pecRequired = true then
    c.data.map .CONTROLLER_WRITE_BYTE ++ [.CONTROLLER_WRITE_PEC]
  else c.data.dropLast.map .CONTROLLER_WRITE_BYTE ++
    c.data.getLast?.toList.map .CONTROLLER_WRITE_STOP

/-- All that the write is to put in the descriptor FIFO. -/
def WriteCommand.expected (c : WriteCommand) : List RegisterWrite := c.head ++ c.payload

/-! ### Steps of a transmission -/

/-- The states of a transmission that is under way. -/
def sendingStates : List State :=
  [.INITIAL, .CONTROLLER_SEND_COMMAND, .CONTROLLER_WRITE_BYTE]

/-- The states after a transmission: the end of the transfer is awaited, or the read follows. -/
def sentStates : List State := [.AWAITING_DONE, .CONTROLLER_SEND_READ_START]

theorem not_sending_of_sent {st : State} (h : st ∈ sentStates) : st ∉ sendingStates := by
  revert h
  cases st <;> decide

/-- The instance is sending what its caller asked for. -/
def Profile.Sending (s : Profile) (n : ℕ) (p : Protocol) : Prop :=
  s.xState n ∈ sendingStates ∧ (s.xTransfer n).xProtocol = p

instance (s : Profile) (n : ℕ) (p : Protocol) : Decidable (s.Sending n p) := by
  unfold Profile.Sending; infer_instance

/-- One event, with the registers as they are while it is handled. -/
structure Input where
  event : Event
  registers : List ℕ
  answer : Answer

/-- The state in which the event is handled. -/
def Profile.given (s : Profile) (x : Input) : Profile :=
  { s with registers := x.registers, answer := x.answer }

/-- An instance that is sending handles an event. -/
def feed (n : ℕ) (p : Protocol) (s : Profile) (x : Input) : Option Profile :=
  if s.Sending n p then some (exec (vSMBusFSM n x.event) (s.given x)) else none

/-- What has been sent since `base` is the beginning of what is to be sent, and all of it when the
transmission is over. -/
def Right (n : ℕ) (c : WriteCommand) (base : List RegisterWrite) (s : Profile) : Prop :=
  s.sent <+: base ++ c.expected ∧ (s.xState n ∈ sentStates → s.sent = base ++ c.expected)

/-! ### Steps that send nothing -/

/-- The descriptors that ask for a byte or end a read. -/
def RegisterWrite.reads : RegisterWrite → Bool
  | .CONTROLLER_READ_BYTE | .CONTROLLER_READ_STOP | .CONTROLLER_READ_PEC => true
  | _ => false

/-- A register write that asks for nothing. -/
class Asks (w : RegisterWrite) : Prop where
  nothing : w.reads = false

/-- A register write that neither sends nor asks for anything. -/
class Neutral (w : RegisterWrite) : Prop where
  sends : w.sends = false
  reads : w.reads = false

instance (w : RegisterWrite) [h : Neutral w] : Asks w := ⟨h.reads⟩

instance (d : ℕ) : Neutral (.TARGET_READ d) := ⟨rfl, rfl⟩
instance : Neutral .TARGET_WRITE_ACK := ⟨rfl, rfl⟩
instance (a : ℕ) : Neutral (.CONTROLLER_WRITE_START a) := ⟨rfl, rfl⟩
instance (a : ℕ) : Neutral (.CONTROLLER_WRITE_QUICK a) := ⟨rfl, rfl⟩
instance (a : ℕ) : Neutral (.CONTROLLER_READ_QUICK a) := ⟨rfl, rfl⟩
instance (a : ℕ) : Neutral (.CONTROLLER_READ_START a) := ⟨rfl, rfl⟩
instance (k : ℕ) : Neutral (.TgtRxFifoFillThreshold k) := ⟨rfl, rfl⟩
instance (k : ℕ) : Neutral (.CtrlRxFifoFillThreshold k) := ⟨rfl, rfl⟩
instance : Neutral .CtrlControlEnable := ⟨rfl, rfl⟩
instance : Neutral .TgtRxFifoReset := ⟨rfl, rfl⟩
instance : Neutral .CtrlRxFifoReset := ⟨rfl, rfl⟩
instance : Neutral .CtrlDescFifoReset := ⟨rfl, rfl⟩

/-- The data that a call hands to the application. -/
def Call.handed : Call → Option (List ℕ)
  | .writeData _ _ data _ => some data
  | _ => none

/-- A call that hands over no data. -/
class Handless (c : Call) : Prop where
  nothing : c.handed = none

instance (n : ℕ) (e : Event) : Handless (.busError n e) := ⟨rfl⟩
instance (n : ℕ) (e : Event) : Handless (.busWarning n e) := ⟨rfl⟩
instance (n k : ℕ) : Handless (.getData n k) := ⟨rfl⟩
instance (n : ℕ) : Handless (.getI2CData n) := ⟨rfl⟩

/-- A relation that looks at the descriptors with bytes, the data that are handed over and the
faults only. -/
class Loose (R : Profile → Profile → Prop) : Prop extends Std.Refl R, IsTrans Profile R where
  same : ∀ {s s' : Profile}, s'.written = s.written → s'.calls = s.calls →
    s'.faults = s.faults → R s s'
  neutral : ∀ w [Neutral w], Within R (write w)
  handless : ∀ c [Handless c], Within R (call c)

attribute [instance] Loose.neutral Loose.handless

section Loose

variable {R : Profile → Profile → Prop} [Loose R]

instance (fallback : ℕ) : Within R (register fallback) := ⟨fun _ => Loose.same rfl rfl rfl⟩

instance (b : ℕ) : Within R (noteReceived b) := ⟨fun _ => Loose.same rfl rfl rfl⟩

instance (n : ℕ) (f : Transfer → Transfer) : Within R (setTransfer n f) :=
  ⟨fun _ => Loose.same rfl rfl rfl⟩

instance (f : Profile → Result) : Within R (announce f) := ⟨fun _ => Loose.same rfl rfl rfl⟩

instance (n : ℕ) (st : State) : Within R (vSMBusNextStateDecoder n st) :=
  ⟨fun _ => Loose.same rfl rfl rfl⟩

instance (n : ℕ) (e : Event) : Within R (vSMBusCreateEvent n e) := by
  refine ⟨fun s => ?_⟩
  simp only [vSMBusCreateEvent, exec_modify]
  split <;> exact Loose.same rfl rfl rfl

instance (n : ℕ) : Within R (transfer n) := by unfold transfer; infer_instance

instance (n : ℕ) : Within R (config n) := by unfold config; infer_instance

instance (w : RegisterWrite) [Within R (write w)] (b : Bool) :
    Within R (prvucSMBusTargetDescriptorApply w b) := by
  unfold prvucSMBusTargetDescriptorApply ulSMBusHWReadTgtDescStatusFull; infer_instance

instance (w : RegisterWrite) [Within R (write w)] (b : Bool) :
    Within R (prvucSMBusControllerDescriptorApply w b) := by
  unfold prvucSMBusControllerDescriptorApply ulSMBusHWReadCtrlDescStatusFull; infer_instance

instance (isEmpty : Routine Bool) (body : Routine Unit) [Within R isEmpty] [Within R body] :
    Within R (whileNotEmpty isEmpty body) := by
  unfold whileNotEmpty; infer_instance

instance (n : ℕ) : Within R (vSMBusHandleActionResetAllData n) := by
  have hplay : Within R (modify fun s : Profile =>
      { s with ucInstanceInPlay := INVALID_INSTANCE }) := ⟨fun _ => Loose.same rfl rfl rfl⟩
  have hactive : Within R (modify fun s : Profile =>
      { s with ucActiveTargetInstance := INVALID_INSTANCE }) := ⟨fun _ => Loose.same rfl rfl rfl⟩
  unfold vSMBusHandleActionResetAllData ulSMBusHWReadCtrlRxFifoStatusEmpty
    ulSMBusHWReadCtrlRxFifoPayload ulSMBusHWReadTgtRxFifoStatusEmpty
    ulSMBusHWReadTgtRxFifoPayload
  infer_instance

instance (n : ℕ) : Within R (vResetToInitial n) := by
  unfold vResetToInitial; infer_instance

instance (n : ℕ) (b : Bool) : Within R (vAnnounceResult n b) := by
  unfold vAnnounceResult vSMBusHandleActionAnnounceResultToApplication; infer_instance

instance (n : ℕ) (e : Event) : Within R (vOtherEvent n e) := by
  unfold vOtherEvent vSMBusHandleActionBusWarning vSMBusHandleActionBusError
  infer_instance

instance (n : ℕ) : Within R (vSMBusHandleActionCreateEventSendNextByte n) := by
  unfold vSMBusHandleActionCreateEventSendNextByte; infer_instance

instance (n : ℕ) (p : Protocol) : Within R (vStartCommand n p) := by
  unfold vStartCommand vExpect vCtrlExpectPart
    ucSMBusControllerWriteDescriptorQuickWrite ucSMBusControllerReadDescriptorQuickRead
    ucSMBusControllerWriteDescriptorStartWrite ucSMBusControllerReadDescriptorStart
  infer_instance

instance (n : ℕ) (e : Event) : Within R (vStateInitial n e) := by
  unfold vStateInitial vSMBusHandleActionGetI2CDataFromApplication
    vSMBusHandleActionGetDataFromApplication vCountedACK vDescriptorSent vExpect
    ucSMBusTargetReadDescriptorRead ucSMBusTargetWriteDescriptorACK
  split <;> infer_instance

end Loose

abbrev Silent : Profile → Profile → Prop := Same Profile.sent

instance : Loose Silent where
  same := fun h _ _ => congrArg (List.filter RegisterWrite.sends) h
  neutral := fun w h => by
    refine ⟨fun s => ?_⟩
    have hfilter : [w].filter RegisterWrite.sends = [] := by simp [h.sends]
    change (s.written ++ [w]).filter RegisterWrite.sends = s.sent
    rw [List.filter_append, hfilter, List.append_nil]
    rfl
  handless := fun _ _ => ⟨fun _ => rfl⟩

theorem nextState_state (n : ℕ) (st : State) (s : Profile) :
    (exec (vSMBusNextStateDecoder n st) s).xState n = st := Function.update_self _ _ _

/-! ### Events that break a transmission off -/

theorem vResetToInitial_protocol (n : ℕ) (s : Profile) :
    ((exec (vResetToInitial n) s).xTransfer n).xProtocol = .NONE := by
  have hsteady := vResetToInitial_steady n s
  simp only [Same, Prod.mk.injEq] at hsteady
  have hprotocol := congrArg Prod.fst hsteady.1
  simpa [Transfer.cursor, setTransfer, Transfer.reset] using hprotocol

theorem vResetToInitial_state (n : ℕ) (s : Profile) :
    (exec (vResetToInitial n) s).xState n = .INITIAL := by
  have hcontrol := vResetToInitial_effect n s
  simp only [Profile.control, Prod.mk.injEq] at hcontrol
  rw [hcontrol.2.2.2.2.1]
  exact Function.update_self _ _ _

/-- A step that sends nothing: the instance is as it was, or it is not sending any more and its
transmission is not over. -/
structure Pauses (n : ℕ) (p : Protocol) (s s' : Profile) : Prop where
  silent : s'.sent = s.sent
  same : (s'.xTransfer n = s.xTransfer n ∧ s'.xState n = s.xState n) ∨
    (s'.xState n ∉ sentStates ∧ ¬ s'.Sending n p)

/-- A step off the course of a controller transfer: the instance is as it was, its transfer is reset,
or a target transfer has begun. -/
def Turns (n : ℕ) (s s' : Profile) : Prop :=
  (s'.xTransfer n = s.xTransfer n ∧ s'.xState n = s.xState n) ∨
    (s'.xState n = .INITIAL ∧ (s'.xTransfer n).xProtocol = .NONE ∧
      (s'.xTransfer n).usReceiveIndex = 0) ∨
    s'.xState n ∈ [.AWAITING_DATA, .AWAITING_COMMAND_BYTE, .READY_TO_SEND_BYTE]

theorem Turns.of_reset (n : ℕ) (s m : Profile) : Turns n s (exec (vResetToInitial n) m) :=
  .inr (.inl ⟨vResetToInitial_state n m, vResetToInitial_protocol n m,
    (vResetToInitial_fresh n m).received⟩)

theorem vOtherEvent_turns (n : ℕ) (e : Event) (s : Profile) :
    Turns n s (exec (vOtherEvent n e) s) := by
  unfold vOtherEvent
  split
  · refine .inl ?_
    unfold vSMBusHandleActionBusWarning
    rw [exec_config_bind, exec_ite]
    split <;> exact ⟨rfl, rfl⟩
  · split
    · rw [exec_bind]
      exact .of_reset n s _
    · split
      · rw [exec_bind, exec_bind]
        exact .of_reset n s _
      · exact .of_reset n s s

variable {n : ℕ}

theorem vStateInitial_turns {e : Event} (he : e ≠ .SEND_NEXT_BYTE) (s : Profile) :
    Turns n s (exec (vStateInitial n e) s) := by
  have hlands : ∀ m : Routine Unit,
      Within (Lands n [.AWAITING_DATA, .AWAITING_COMMAND_BYTE, .READY_TO_SEND_BYTE]) m →
      Turns n s (exec m s) := fun _ h => .inr (.inr (h.rel s))
  cases e with
  | TARGET_WRITE_IRQ =>
    refine hlands (vStateInitial n .TARGET_WRITE_IRQ) ?_
    simp only [vStateInitial]
    infer_instance
  | TARGET_READ_IRQ =>
    simp only [vStateInitial]
    rw [exec_config_bind]
    by_cases hsimple : (s.xConfig n).ucSimpleDevice = false
    · rw [if_pos hsimple]
      by_cases hdevice : (s.xConfig n).ulI2CDevice = true
      · rw [if_pos hdevice]
        exact hlands _ inferInstance
      · rw [if_neg hdevice, exec_bind]
        exact .of_reset n s _
    · rw [if_neg hsimple]
      exact hlands _ inferInstance
  | SEND_NEXT_BYTE => exact absurd rfl he
  | _ => exact vOtherEvent_turns n _ s

variable {p : Protocol}

theorem Pauses.of_turns (hp : p ≠ .NONE) {s s' : Profile}
    (hsilent : Silent s s') (h : Turns n s s') : Pauses n p s s' := by
  refine ⟨hsilent, ?_⟩
  rcases h with hsame | ⟨hstate, hprotocol, -⟩ | hstate
  · exact .inl hsame
  · refine .inr ⟨?_, fun hsending => hp (hsending.2.symm.trans hprotocol)⟩
    rw [hstate]
    decide
  · refine .inr ⟨fun hsent => ?_, fun hsending => ?_⟩
    · revert hstate hsent
      generalize s'.xState n = st
      cases st <;> decide
    · have hst := hsending.1
      revert hstate hst
      generalize s'.xState n = st
      cases st <;> decide

theorem vOtherEvent_pauses (hp : p ≠ .NONE) (e : Event) (s : Profile) :
    Pauses n p s (exec (vOtherEvent n e) s) :=
  .of_turns hp (Within.rel s) (vOtherEvent_turns n e s)

theorem vStateInitial_pauses (hp : p ≠ .NONE) {e : Event}
    (he : e ≠ .SEND_NEXT_BYTE) (s : Profile) : Pauses n p s (exec (vStateInitial n e) s) :=
  .of_turns hp (Within.rel s) (vStateInitial_turns he s)

/-! ### The start and the command byte -/

/-- The transfer of the instance is the same. -/
abbrev Kept (n : ℕ) : Profile → Profile → Prop := Same fun s => s.xTransfer n

instance (n : ℕ) : Ambient (Kept n) where
  reads := fun _ => ⟨fun _ => rfl⟩
  writes := fun _ => ⟨fun _ => rfl⟩
  calls := fun _ => ⟨fun _ => rfl⟩
  notes := fun _ => ⟨fun _ => rfl⟩
  strikes := fun _ => ⟨fun _ => rfl⟩

instance (n i : ℕ) (e : Event) : Within (Kept n) (vSMBusCreateEvent i e) := by
  refine ⟨fun s => ?_⟩
  simp only [vSMBusCreateEvent, exec_modify]
  split <;> rfl

instance (n i : ℕ) (st : State) : Within (Kept n) (vSMBusNextStateDecoder i st) := ⟨fun _ => rfl⟩

instance (n : ℕ) : Within (Kept n) (vSMBusHandleActionCreateEventSendNextByte n) := by
  unfold vSMBusHandleActionCreateEventSendNextByte; infer_instance

def startState (p : Protocol) : State :=
  if p ∈ [.I2C_WRITE, .I2C_WRITE_READ] then .CONTROLLER_WRITE_BYTE else .CONTROLLER_SEND_COMMAND

theorem passOn_effect (n : ℕ) (st : State) (s : Profile) :
    let s' := exec (vSMBusHandleActionCreateEventSendNextByte n >>= fun _ =>
      vSMBusNextStateDecoder n st) s
    s'.sent = s.sent ∧ s'.xTransfer n = s.xTransfer n ∧ s'.xState n = st := by
  intro s'
  have hlands : Lands n [st] s s' := Within.rel s
  exact ⟨Within.rel (R := Silent) s, Within.rel (R := Kept n) s, List.mem_singleton.mp hlands⟩

theorem vStartCommand_effect {n : ℕ} {p : Protocol}
    (hp : p ∉ [.QUICK_CMD_LO, .QUICK_CMD_HI, .RECEIVE_BYTE, .I2C_READ]) (s : Profile) :
    let s' := exec (vStartCommand n p) s
    s'.sent = s.sent ∧ s'.xTransfer n = s.xTransfer n ∧ s'.xState n = startState p := by
  intro s'
  have hs' : s' = exec (vStartCommand n p) s := rfl
  have hne : p ≠ .QUICK_CMD_LO ∧ p ≠ .QUICK_CMD_HI ∧ p ≠ .RECEIVE_BYTE ∧ p ≠ .I2C_READ := by
    simpa only [List.mem_cons, List.not_mem_nil, or_false, not_or] using hp
  have hgo : s' = exec (vSMBusHandleActionCreateEventSendNextByte n >>= fun _ =>
      vSMBusNextStateDecoder n (startState p))
      (exec (ucSMBusControllerWriteDescriptorStartWrite (s.xTransfer n).ucSMBusDestAddr) s) := by
    rw [hs', vStartCommand, exec_transfer_bind, if_neg hne.1, if_neg hne.2.1, if_neg hne.2.2.1]
    by_cases hi2c : p ∈ [.I2C_WRITE, .I2C_WRITE_READ]
    · rw [if_pos hi2c, exec_bind, startState, if_pos hi2c]
    · rw [if_neg hi2c, if_neg hne.2.2.2, exec_bind, startState, if_neg hi2c]
  have hsilent : Within Silent
      (ucSMBusControllerWriteDescriptorStartWrite (s.xTransfer n).ucSMBusDestAddr) := by
    unfold ucSMBusControllerWriteDescriptorStartWrite; infer_instance
  obtain ⟨hsent, htransfer, hstate⟩ := passOn_effect n (startState p)
    (exec (ucSMBusControllerWriteDescriptorStartWrite (s.xTransfer n).ucSMBusDestAddr) s)
  rw [hgo]
  exact ⟨hsent.trans (hsilent.rel s), htransfer.trans (Within.rel (R := Kept n) s), hstate⟩

variable (s : Profile)

theorem sent_append (w : RegisterWrite) (registers : List ℕ) (hw : w.sends = true) :
    Profile.sent { s with registers := registers, written := s.written ++ [w] } =
      s.sent ++ [w] := by
  simp [Profile.sent, hw]

variable {c : WriteCommand}

theorem sendCommand_effect (hc : c.Valid) {s : Profile}
    (hprotocol : (s.xTransfer n).xProtocol = c.protocol)
    (hcommand : c.protocol ∉ [.I2C_WRITE, .I2C_WRITE_READ] →
      (s.xTransfer n).ucCommand = c.command) :
    let s' := exec (vStateControllerSendCommand n .SEND_NEXT_BYTE) s
    s'.xTransfer n = s.xTransfer n ∧
      (s'.sent = s.sent ∧ s'.xState n = s.xState n ∨
        s'.sent = s.sent ++ c.head ∧ s'.xState n = .CONTROLLER_WRITE_BYTE) := by
  intro s'
  have hp := hc.protocol
  have hread : (s.xTransfer n).xProtocol ∉ [.BLOCK_READ, .READ_64, .READ_32, .READ_WORD,
      .READ_BYTE, .ARP_GET_UDID, .ARP_GET_UDID_DIRECTED] := by
    rw [hprotocol]
    revert hp
    generalize c.protocol = p
    cases p <;> decide
  have hs' : s' = exec (vStateControllerSendCommand n .SEND_NEXT_BYTE) s := rfl
  simp only [vStateControllerSendCommand] at hs'
  rw [exec_transfer_bind, if_neg hread] at hs'
  by_cases hwrite : (s.xTransfer n).xProtocol ∈ [.BLOCK_WRITE, .WRITE_BYTE, .WRITE_WORD,
      .HOST_NOTIFY, .WRITE_32, .WRITE_64, .PROCESS_CALL, .BLK_WRITE_BLK_RD_PROCESS_CALL,
      .ARP_PREPARE_TO_ARP, .ARP_RESET_DEVICE, .ARP_RESET_DEVICE_DIRECTED, .ARP_ASSIGN_ADDRESS]
  · rw [if_pos hwrite, ucSMBusControllerWriteDescriptorByte] at hs'
    by_cases hfull : s.full
    · rw [exec_controllerDescriptor_full _ _ hfull, if_neg Bool.false_ne_true] at hs'
      rw [hs']
      exact ⟨rfl, .inl ⟨rfl, rfl⟩⟩
    · rw [exec_controllerDescriptor_room _ _ hfull, if_pos rfl] at hs'
      have hhead : c.head = [.CONTROLLER_WRITE_BYTE (s.xTransfer n).ucCommand] := by
        have hnot : c.protocol ∉ [.SEND_BYTE, .I2C_WRITE, .I2C_WRITE_READ] := by
          rw [← hprotocol]
          revert hwrite
          generalize (s.xTransfer n).xProtocol = p
          cases p <;> decide
        rw [WriteCommand.head, if_neg hnot,
          hcommand fun hi2c => hnot (List.mem_cons_of_mem _ hi2c)]
      obtain ⟨h₁, h₂, h₃⟩ := passOn_effect n .CONTROLLER_WRITE_BYTE
        { s with
          registers := s.registers.tail
          written := s.written ++ [.CONTROLLER_WRITE_BYTE (s.xTransfer n).ucCommand] }
      rw [hs', hhead]
      exact ⟨h₂, .inr ⟨h₁.trans (sent_append s _ _ rfl), h₃⟩⟩
  · rw [if_neg hwrite] at hs'
    by_cases hsend : (s.xTransfer n).xProtocol = .SEND_BYTE
    · rw [if_pos hsend] at hs'
      have hhead : c.head = [] := by
        rw [WriteCommand.head, ← hprotocol, hsend, if_pos (by decide)]
      obtain ⟨h₁, h₂, h₃⟩ := passOn_effect n .CONTROLLER_WRITE_BYTE s
      rw [hs', hhead, List.append_nil]
      exact ⟨h₂, .inr ⟨h₁, h₃⟩⟩
    · rw [if_neg hsend] at hs'
      rw [hs']
      exact ⟨rfl, .inl ⟨rfl, rfl⟩⟩

/-! ### The data in pieces -/

/-- The profile after `j` more bytes of the data are in the descriptor FIFO. -/
def Profile.sending (s : Profile) (n j : ℕ) : Profile :=
  { s with
    written := s.written ++ (List.range j).map fun i =>
      .CONTROLLER_WRITE_BYTE ((s.xTransfer n).ucSendData ((s.xTransfer n).usSendIndex + i))
    xTransfer := Function.update s.xTransfer n { s.xTransfer n with
      usSendIndex := (s.xTransfer n).usSendIndex + j
      usSendDataSize := (s.xTransfer n).usSendDataSize - j } }

theorem sending_zero (n : ℕ) : s.sending n 0 = s := by
  simp [Profile.sending, Function.update_eq_self]

theorem sending_succ (n j : ℕ) :
    (s.sending n 1).sending n j = s.sending n (j + 1) := by
  have hdata : (List.range (j + 1)).map (fun i => RegisterWrite.CONTROLLER_WRITE_BYTE
        ((s.xTransfer n).ucSendData ((s.xTransfer n).usSendIndex + i))) =
      .CONTROLLER_WRITE_BYTE ((s.xTransfer n).ucSendData (s.xTransfer n).usSendIndex) ::
        (List.range j).map fun i => .CONTROLLER_WRITE_BYTE
          ((s.xTransfer n).ucSendData ((s.xTransfer n).usSendIndex + 1 + i)) := by
    rw [List.range_succ_eq_map, List.map_cons, List.map_map, Nat.add_zero]
    congr 1
    refine List.map_congr_left fun i _ => ?_
    simp only [Function.comp_apply, Nat.succ_eq_add_one]
    rw [Nat.add_assoc, Nat.add_comm 1 i]
  simp only [Profile.sending, Function.update_self, Function.update_idem, hdata]
  simp only [List.range_one, List.map_cons, List.map_nil, Nat.add_zero, List.append_assoc,
    List.singleton_append, Nat.add_assoc, Nat.add_comm 1 j, Nat.sub_sub]

theorem run_nextSendByte_bind {s : Profile} {β : Type}
    (h : (s.xTransfer n).usSendIndex < DATA_SIZE_MAX) (f : ℕ → Routine β) :
    (ucNextSendByte n >>= f).run s =
      (f ((s.xTransfer n).ucSendData (s.xTransfer n).usSendIndex)).run s := by
  have hrun : (ucNextSendByte n >>= f).run s =
      ((if DATA_SIZE_MAX ≤ (s.xTransfer n).usSendIndex then fault .sendData else pure () :
        Routine Unit) >>= fun _ =>
          f ((s.xTransfer n).ucSendData (s.xTransfer n).usSendIndex)).run s := rfl
  rw [hrun, if_neg (not_le.mpr h)]
  rfl

/-- One byte of the data, put in the FIFO without a look at its status. -/
def vSendOne (n : ℕ) : Routine Bool := do
  let b ← ucNextSendByte n
  let ok ← ucSMBusControllerWriteDescriptorByte b true
  if ok = true then do
    vByteSent n
    pure true
  else pure false

theorem run_sendOne {s : Profile} (h : (s.xTransfer n).usSendIndex < DATA_SIZE_MAX) :
    (vSendOne n).run s = (true, s.sending n 1) := by
  have hinc : inc16 (s.xTransfer n).usSendIndex = (s.xTransfer n).usSendIndex + 1 :=
    inc16_eq h.le
  rw [vSendOne, run_nextSendByte_bind h]
  simp only [Profile.sending, List.range_one, List.map_cons, List.map_nil, Nat.add_zero, ← hinc]
  rfl

theorem forBreak_sending {n limit : ℕ} {body : Routine Bool}
    (hsend : ∀ s, limit < (s.xTransfer n).usSendDataSize → body.run s = (vSendOne n).run s)
    (hrest : ∀ s, ¬ limit < (s.xTransfer n).usSendDataSize → exec body s = s) (k : ℕ) :
    ∀ s : Profile, (s.xTransfer n).usSendIndex + (s.xTransfer n).usSendDataSize ≤ DATA_SIZE_MAX →
      exec (forBreak body k) s =
        s.sending n (min k ((s.xTransfer n).usSendDataSize - limit)) := by
  induction k with
  | zero =>
    intro s _
    rw [Nat.zero_min, sending_zero]
    rfl
  | succ k ih =>
    intro s hbound
    rw [forBreak, exec_bind]
    by_cases hsize : limit < (s.xTransfer n).usSendDataSize
    · have hrun := (hsend s hsize).trans (run_sendOne (by omega))
      have hvalue : value body s = true := congrArg Prod.fst hrun
      have hexec : exec body s = s.sending n 1 := congrArg Prod.snd hrun
      have hindex : ((s.sending n 1).xTransfer n).usSendIndex =
          (s.xTransfer n).usSendIndex + 1 := by simp [Profile.sending]
      have hleft : ((s.sending n 1).xTransfer n).usSendDataSize =
          (s.xTransfer n).usSendDataSize - 1 := by simp [Profile.sending]
      rw [hvalue, hexec, if_pos rfl, ih _ (by omega), sending_succ, hleft]
      congr 1
      omega
    · have hzero : (s.xTransfer n).usSendDataSize - limit = 0 := by omega
      rw [hrest s hsize, hzero, Nat.min_zero, sending_zero]
      split
      · rw [ih s hbound, hzero, Nat.min_zero, sending_zero]
      · rfl

/-- The room that the fill level leaves in the descriptor FIFO. -/
def Profile.room (s : Profile) : ℕ := FIFO_DEPTH - s.registers.headD 0 % 2 ^ 7

theorem vFillWrite_effect {s : Profile}
    (h : (s.xTransfer n).usSendIndex + (s.xTransfer n).usSendDataSize ≤ DATA_SIZE_MAX) :
    exec (vFillWrite n) s = Profile.sending { s with registers := s.registers.tail } n
      (min s.room ((s.xTransfer n).usSendDataSize - 1)) := by
  have hfill : exec (vFillWrite n) s = exec (forBreak (do
      let t ← transfer n
      if 1 < t.usSendDataSize then vSendOne n else pure true) s.room)
        { s with registers := s.registers.tail } := rfl
  rw [hfill]
  refine forBreak_sending (fun m hm => ?_) (fun m hm => ?_) _ _ h
  · have hrun : (do
        let t ← transfer n
        if 1 < t.usSendDataSize then vSendOne n else pure true : Routine Bool).run m =
        (if 1 < (m.xTransfer n).usSendDataSize then vSendOne n else pure true).run m := rfl
    rw [hrun, if_pos hm]
  · rw [exec_transfer_bind, if_neg hm]
    rfl

theorem vFillAssign_effect {s : Profile}
    (h : (s.xTransfer n).usSendIndex + (s.xTransfer n).usSendDataSize ≤ DATA_SIZE_MAX) :
    exec (vFillAssign n) s = Profile.sending { s with registers := s.registers.tail } n
      (min s.room (s.xTransfer n).usSendDataSize) := by
  have hfill : exec (vFillAssign n) s = exec (forBreak (do
      let t ← transfer n
      if 0 < t.usSendDataSize then vSendOne n else pure false) s.room)
        { s with registers := s.registers.tail } := rfl
  rw [hfill, ← Nat.sub_zero (s.xTransfer n).usSendDataSize]
  refine forBreak_sending (fun m hm => ?_) (fun m hm => ?_) _ _ h
  · have hrun : (do
        let t ← transfer n
        if 0 < t.usSendDataSize then vSendOne n else pure false : Routine Bool).run m =
        (if 0 < (m.xTransfer n).usSendDataSize then vSendOne n else pure false).run m := rfl
    rw [hrun, if_pos hm]
  · rw [exec_transfer_bind, if_neg hm]
    rfl

/-! ### The last byte -/

/-- The status register that is read next refuses a descriptor. -/
def refuses (registers : List ℕ) : Prop := registers.headD 0 % 2 = 1

instance (registers : List ℕ) : Decidable (refuses registers) := by unfold refuses; infer_instance

/-- What goes in the FIFO with the last byte, if anything does. -/
def Transfer.ending (t : Transfer) (registers : List ℕ) : Option (List RegisterWrite) :=
  let b := t.ucSendData t.usSendIndex
  if t.xProtocol ∈ combinedWrites then
    if refuses registers then none else some [.CONTROLLER_WRITE_BYTE b]
  else if t.xProtocol = .HOST_NOTIFY then
    if refuses registers then none else some [.CONTROLLER_WRITE_STOP b]
  else if t.ucPecRequiredForTransaction = true then
    if registers.headD 0 % 2 ^ 7 ≤ FIFO_SPACE_FOR_TWO_BYTES ∧ ¬ refuses registers.tail then
      some (.CONTROLLER_WRITE_BYTE b ::
        if refuses registers.tail.tail then [] else [.CONTROLLER_WRITE_PEC])
    else none
  else if refuses registers then none else some [.CONTROLLER_WRITE_STOP b]

/-- The instance has sent `ws` and is done, or nothing and is where it was. -/
def Ended (n : ℕ) (s s' : Profile) : Option (List RegisterWrite) → Prop
  | none => s'.sent = s.sent ∧ s'.xTransfer n = s.xTransfer n ∧
      s'.xState n = .CONTROLLER_WRITE_BYTE
  | some ws => s'.sent = s.sent ++ ws ∧ s'.xState n ∈ sentStates

theorem exec_nextSendByte_bind {s : Profile} {β : Type}
    (h : (s.xTransfer n).usSendIndex < DATA_SIZE_MAX) (f : ℕ → Routine β) :
    exec (ucNextSendByte n >>= f) s =
      exec (f ((s.xTransfer n).ucSendData (s.xTransfer n).usSendIndex)) s :=
  exec_eq_of_run (run_nextSendByte_bind h f)

/-- A descriptor where the status register takes it. -/
def taken (w : RegisterWrite) (registers : List ℕ) : List RegisterWrite :=
  if refuses registers then [] else [w]

/-- The profile after a descriptor was tried. -/
def Profile.offered (s : Profile) (w : RegisterWrite) : Profile :=
  { s with registers := s.registers.tail, written := s.written ++ taken w s.registers }

theorem exec_offered (w : RegisterWrite) (k : Routine Unit) (s : Profile) :
    exec (prvucSMBusControllerDescriptorApply w false >>= fun _ => k) s = exec k (s.offered w) := by
  by_cases hfull : s.full
  · have htaken : taken w s.registers = [] := if_pos hfull
    rw [exec_controllerDescriptor_full _ _ hfull, Profile.offered, htaken, List.append_nil]
  · have htaken : taken w s.registers = [w] := if_neg hfull
    rw [exec_controllerDescriptor_room _ _ hfull, Profile.offered, htaken]

theorem sent_offered {w : RegisterWrite} (hw : w.sends = true) :
    (s.offered w).sent = s.sent ++ taken w s.registers := by
  simp only [Profile.sent, Profile.offered, List.filter_append, taken]
  split <;> simp [hw]

/-- The PEC descriptor of a command of address resolution, taken or not. -/
def pecTaken (registers : List ℕ) : List RegisterWrite :=
  if refuses registers then [] else [.CONTROLLER_WRITE_PEC]

theorem pecDone_effect (n : ℕ) (s : Profile) :
    let s' := exec (do
      let _ ← ucSMBusControllerWriteDescriptorPECWrite
      write .CtrlControlEnable
      vSMBusNextStateDecoder n .AWAITING_DONE) s
    s'.sent = s.sent ++ pecTaken s.registers ∧ s'.xState n = .AWAITING_DONE := by
  intro s'
  have hs' : s' = exec (do
      write .CtrlControlEnable
      vSMBusNextStateDecoder n .AWAITING_DONE) (s.offered .CONTROLLER_WRITE_PEC) :=
    exec_offered _ _ s
  rw [hs']
  exact ⟨(Within.rel (R := Silent) (m := do
    write .CtrlControlEnable
    vSMBusNextStateDecoder n .AWAITING_DONE) _).trans (sent_offered s rfl), nextState_state n _ _⟩

section Last

variable {n : ℕ} {s : Profile}

theorem writeLast_combined (hindex : (s.xTransfer n).usSendIndex < DATA_SIZE_MAX)
    (hp : (s.xTransfer n).xProtocol ∈ combinedWrites) :
    Ended n s (exec (vWriteLast n (s.xTransfer n)) s)
      ((s.xTransfer n).ending s.registers) := by
  have hp' : (s.xTransfer n).xProtocol ∈
      [.PROCESS_CALL, .BLK_WRITE_BLK_RD_PROCESS_CALL, .I2C_WRITE_READ] := hp
  rw [vWriteLast, if_pos hp', Transfer.ending, if_pos hp, exec_nextSendByte_bind hindex,
    ucSMBusControllerWriteDescriptorByte]
  by_cases hfull : refuses s.registers
  · rw [exec_controllerDescriptor_full _ _ hfull, if_neg Bool.false_ne_true, if_pos hfull]
    exact ⟨rfl, rfl, Function.update_self _ _ _⟩
  · rw [exec_controllerDescriptor_room _ _ hfull, if_pos rfl, if_neg hfull]
    obtain ⟨h₁, -, h₃⟩ := passOn_effect n .CONTROLLER_SEND_READ_START
      { s with
        registers := s.registers.tail
        written := s.written ++ [.CONTROLLER_WRITE_BYTE
          ((s.xTransfer n).ucSendData (s.xTransfer n).usSendIndex)] }
    exact ⟨h₁.trans (sent_append s _ _ rfl), by rw [h₃]; decide⟩

theorem writeLast_notify (hindex : (s.xTransfer n).usSendIndex < DATA_SIZE_MAX)
    (hp : (s.xTransfer n).xProtocol = .HOST_NOTIFY) :
    Ended n s (exec (vWriteLast n (s.xTransfer n)) s)
      ((s.xTransfer n).ending s.registers) := by
  have hnot : (s.xTransfer n).xProtocol ∉ combinedWrites := by rw [hp]; decide
  have hnot' : (s.xTransfer n).xProtocol ∉
      [.PROCESS_CALL, .BLK_WRITE_BLK_RD_PROCESS_CALL, .I2C_WRITE_READ] := hnot
  rw [vWriteLast, if_neg hnot', if_pos hp, Transfer.ending, if_neg hnot, if_pos hp,
    exec_nextSendByte_bind hindex, ucSMBusControllerWriteDescriptorStopWrite]
  by_cases hfull : refuses s.registers
  · rw [exec_controllerDescriptor_full _ _ hfull, if_neg Bool.false_ne_true, if_pos hfull]
    exact ⟨rfl, rfl, Function.update_self _ _ _⟩
  · rw [exec_controllerDescriptor_room _ _ hfull, if_pos rfl, if_neg hfull]
    refine ⟨sent_append s _ s.registers.tail rfl, ?_⟩
    rw [nextState_state]
    decide

theorem writeLast_stop (hindex : (s.xTransfer n).usSendIndex < DATA_SIZE_MAX)
    (hcombined : (s.xTransfer n).xProtocol ∉ combinedWrites)
    (hnotify : (s.xTransfer n).xProtocol ≠ .HOST_NOTIFY)
    (hpec : ¬ (s.xTransfer n).ucPecRequiredForTransaction = true) :
    Ended n s (exec (vWriteLast n (s.xTransfer n)) s)
      ((s.xTransfer n).ending s.registers) := by
  have hcombined' : (s.xTransfer n).xProtocol ∉
      [.PROCESS_CALL, .BLK_WRITE_BLK_RD_PROCESS_CALL, .I2C_WRITE_READ] := hcombined
  rw [vWriteLast, if_neg hcombined', if_neg hnotify, if_neg hpec, Transfer.ending,
    if_neg hcombined, if_neg hnotify, if_neg hpec, exec_nextSendByte_bind hindex,
    ucSMBusControllerWriteDescriptorStopWrite]
  by_cases hfull : refuses s.registers
  · rw [exec_controllerDescriptor_full _ _ hfull, if_neg Bool.false_ne_true, if_pos hfull,
      exec_bind]
    refine ⟨?_, rfl, Function.update_self _ _ _⟩
    exact Within.rel (R := Silent) (m := write .CtrlControlEnable)
      { s with registers := s.registers.tail }
  · rw [exec_controllerDescriptor_room _ _ hfull, if_pos rfl, if_neg hfull, exec_bind]
    refine ⟨?_, ?_⟩
    · exact (Within.rel (R := Silent) (m := write .CtrlControlEnable) _).trans
        (sent_append s _ _ rfl)
    · rw [nextState_state]
      decide

theorem writeLast_pec (hindex : (s.xTransfer n).usSendIndex < DATA_SIZE_MAX)
    (hcombined : (s.xTransfer n).xProtocol ∉ combinedWrites)
    (hnotify : (s.xTransfer n).xProtocol ≠ .HOST_NOTIFY)
    (hpec : (s.xTransfer n).ucPecRequiredForTransaction = true) :
    Ended n s (exec (vWriteLast n (s.xTransfer n)) s)
      ((s.xTransfer n).ending s.registers) := by
  have hcombined' : (s.xTransfer n).xProtocol ∉
      [.PROCESS_CALL, .BLK_WRITE_BLK_RD_PROCESS_CALL, .I2C_WRITE_READ] := hcombined
  rw [vWriteLast, if_neg hcombined', if_neg hnotify, if_pos hpec, Transfer.ending,
    if_neg hcombined, if_neg hnotify, if_pos hpec]
  have hread : ∀ f : ℕ → Routine Unit,
      exec (ulSMBusHWReadCtrlDescStatusFillLevel >>= f) s =
        exec (f (s.registers.headD 0 % 2 ^ 7)) { s with registers := s.registers.tail } :=
    fun _ => rfl
  rw [hread]
  by_cases hfill : s.registers.headD 0 % 2 ^ 7 ≤ FIFO_SPACE_FOR_TWO_BYTES
  · have hindex' : (Profile.xTransfer { s with registers := s.registers.tail } n).usSendIndex <
        DATA_SIZE_MAX := hindex
    rw [if_pos hfill, exec_nextSendByte_bind hindex', ucSMBusControllerWriteDescriptorByte]
    by_cases hfull : Profile.full { s with registers := s.registers.tail }
    · rw [exec_controllerDescriptor_full _ _ hfull, if_neg Bool.false_ne_true,
        if_neg fun h => h.2 hfull]
      exact ⟨rfl, rfl, Function.update_self _ _ _⟩
    · rw [exec_controllerDescriptor_room _ _ hfull, if_pos rfl, if_pos ⟨hfill, hfull⟩]
      obtain ⟨hsent, hstate⟩ := pecDone_effect n { s with
        registers := s.registers.tail.tail
        written := s.written ++ [.CONTROLLER_WRITE_BYTE
          ((s.xTransfer n).ucSendData (s.xTransfer n).usSendIndex)] }
      refine ⟨hsent.trans ?_, by rw [hstate]; decide⟩
      rw [sent_append s _ _ rfl, List.append_assoc]
      rfl
  · rw [if_neg hfill, if_neg fun h => hfill h.1]
    exact ⟨rfl, rfl, Function.update_self _ _ _⟩

theorem vWriteLast_effect (hindex : (s.xTransfer n).usSendIndex < DATA_SIZE_MAX) :
    Ended n s (exec (vWriteLast n (s.xTransfer n)) s)
      ((s.xTransfer n).ending s.registers) := by
  by_cases hcombined : (s.xTransfer n).xProtocol ∈ combinedWrites
  · exact writeLast_combined hindex hcombined
  · by_cases hnotify : (s.xTransfer n).xProtocol = .HOST_NOTIFY
    · exact writeLast_notify hindex hnotify
    · by_cases hpec : (s.xTransfer n).ucPecRequiredForTransaction = true
      · exact writeLast_pec hindex hcombined hnotify hpec
      · exact writeLast_stop hindex hcombined hnotify hpec

end Last

/-! ### The handler of the data -/

theorem mem_dataWrites : p ∈ [.BLOCK_WRITE, .WRITE_BYTE, .WRITE_WORD, .WRITE_32,
    .WRITE_64, .PROCESS_CALL, .BLK_WRITE_BLK_RD_PROCESS_CALL, .SEND_BYTE, .HOST_NOTIFY,
    .I2C_WRITE, .I2C_WRITE_READ] ↔ p ∈ combinedWrites ++ plainWrites := by
  cases p <;> decide

section Handler

variable {n : ℕ} {s : Profile}

theorem sending_sent (n j : ℕ) : (s.sending n j).sent =
    s.sent ++ (List.range j).map fun i =>
      .CONTROLLER_WRITE_BYTE ((s.xTransfer n).ucSendData ((s.xTransfer n).usSendIndex + i)) := by
  have hall : ∀ l : List RegisterWrite, (∀ w ∈ l, w.sends = true) →
      l.filter RegisterWrite.sends = l := fun l hl => List.filter_eq_self.mpr hl
  simp only [Profile.sent, Profile.sending, List.filter_append]
  rw [hall ((List.range j).map _) ?_]
  intro w hw
  obtain ⟨i, -, rfl⟩ := List.mem_map.mp hw
  rfl

theorem controllerWrite_more
    (hbound : (s.xTransfer n).usSendIndex + (s.xTransfer n).usSendDataSize ≤ DATA_SIZE_MAX)
    (hp : (s.xTransfer n).xProtocol ∈ combinedWrites ++ plainWrites)
    (hsize : 1 < (s.xTransfer n).usSendDataSize) :
    let j := min s.room ((s.xTransfer n).usSendDataSize - 1)
    let s' := exec (vControllerWrite n) s
    s'.sent = (s.sending n j).sent ∧ s'.xTransfer n = (s.sending n j).xTransfer n ∧
      s'.xState n = s.xState n := by
  intro j s'
  have hs' : s' = exec (vControllerWrite n) s := rfl
  rw [vControllerWrite, exec_transfer_bind, if_pos (mem_dataWrites.mpr hp), if_pos hsize, exec_bind,
    vFillWrite_effect hbound] at hs'
  rw [hs']
  exact ⟨Within.rel (R := Silent) (m := write .CtrlControlEnable) _, rfl, rfl⟩

theorem controllerWrite_last (hindex : (s.xTransfer n).usSendIndex < DATA_SIZE_MAX)
    (hp : (s.xTransfer n).xProtocol ∈ combinedWrites ++ plainWrites)
    (hsize : ¬ 1 < (s.xTransfer n).usSendDataSize) :
    Ended n s (exec (vControllerWrite n) s) ((s.xTransfer n).ending s.registers) := by
  rw [vControllerWrite, exec_transfer_bind, if_pos (mem_dataWrites.mpr hp), if_neg hsize]
  exact vWriteLast_effect hindex

theorem controllerWrite_assign
    (hbound : (s.xTransfer n).usSendIndex + (s.xTransfer n).usSendDataSize ≤ DATA_SIZE_MAX)
    (hp : (s.xTransfer n).xProtocol = .ARP_ASSIGN_ADDRESS) :
    (exec (vControllerWrite n) s).sent =
        (s.sending n (min s.room (s.xTransfer n).usSendDataSize)).sent ++
          pecTaken s.registers.tail ∧
      (exec (vControllerWrite n) s).xState n = .AWAITING_DONE := by
  rw [vControllerWrite, exec_transfer_bind, if_neg (by rw [hp]; decide), if_pos hp, exec_bind,
    vFillAssign_effect hbound]
  exact pecDone_effect n _

theorem controllerWrite_command (hp : (s.xTransfer n).xProtocol ∈ arpCommands) :
    (exec (vControllerWrite n) s).sent = s.sent ++ pecTaken s.registers ∧
      (exec (vControllerWrite n) s).xState n = .AWAITING_DONE := by
  have hnot : (s.xTransfer n).xProtocol ∉ combinedWrites ++ plainWrites ∧
      (s.xTransfer n).xProtocol ≠ .ARP_ASSIGN_ADDRESS := by
    revert hp
    generalize (s.xTransfer n).xProtocol = p
    cases p <;> decide
  have hp' : (s.xTransfer n).xProtocol ∈
      [.ARP_PREPARE_TO_ARP, .ARP_RESET_DEVICE, .ARP_RESET_DEVICE_DIRECTED] := hp
  rw [vControllerWrite, exec_transfer_bind, if_neg (mt mem_dataWrites.mp hnot.1), if_neg hnot.2,
    if_pos hp']
  exact pecDone_effect n s

end Handler

/-! ### What a transmission has done -/

/-- An instance that is sending has sent the beginning of what it is to send, as far as its index
says. -/
structure Progress (n : ℕ) (c : WriteCommand) (base : List RegisterWrite) (s : Profile) :
    Prop where
  data : ∀ k < c.data.length, (s.xTransfer n).ucSendData k = c.data.getD k 0
  size : (s.xTransfer n).usSendIndex + (s.xTransfer n).usSendDataSize = c.data.length
  index : (s.xTransfer n).usSendIndex = 0 ∨ (s.xTransfer n).usSendIndex < c.data.length
  command : c.protocol ∉ [.I2C_WRITE, .I2C_WRITE_READ] → (s.xTransfer n).ucCommand = c.command
  pec : c.protocol ∉ [.I2C_WRITE, .I2C_WRITE_READ] →
    (s.xTransfer n).ucPecRequiredForTransaction = c.pec
  sent : if s.xState n = .CONTROLLER_WRITE_BYTE then
      s.sent = base ++ (c.head ++
        (c.data.take (s.xTransfer n).usSendIndex).map .CONTROLLER_WRITE_BYTE)
    else (s.xTransfer n).usSendIndex = 0 ∧ s.sent = base

theorem WriteCommand.payload_combined (h : c.protocol ∈ combinedWrites) :
    c.payload = c.data.map .CONTROLLER_WRITE_BYTE := if_pos h

theorem WriteCommand.payload_pec (h : c.protocol ∉ combinedWrites)
    (hpec : c.pecRequired = true) :
    c.payload = c.data.map .CONTROLLER_WRITE_BYTE ++ [.CONTROLLER_WRITE_PEC] := by
  rw [WriteCommand.payload, if_neg h, if_pos hpec]

theorem WriteCommand.payload_stop (h : c.protocol ∉ combinedWrites)
    (hpec : ¬ c.pecRequired = true) :
    c.payload = c.data.dropLast.map .CONTROLLER_WRITE_BYTE ++
      c.data.getLast?.toList.map .CONTROLLER_WRITE_STOP := by
  rw [WriteCommand.payload, if_neg h, if_neg hpec]

theorem WriteCommand.take_prefix (c : WriteCommand) {i : ℕ} (hi : i = 0 ∨ i < c.data.length) :
    (c.data.take i).map RegisterWrite.CONTROLLER_WRITE_BYTE <+: c.payload := by
  have htake : (c.data.take i).map RegisterWrite.CONTROLLER_WRITE_BYTE <+:
      c.data.map .CONTROLLER_WRITE_BYTE := (List.take_prefix i c.data).map _
  by_cases hcombined : c.protocol ∈ combinedWrites
  · rw [c.payload_combined hcombined]
    exact htake
  · by_cases hpec : c.pecRequired = true
    · rw [c.payload_pec hcombined hpec]
      exact htake.trans (List.prefix_append _ _)
    · rw [c.payload_stop hcombined hpec]
      have hdrop : c.data.take i <+: c.data.dropLast := by
        rw [List.dropLast_eq_take]
        exact List.take_prefix_take_left (by omega)
      exact (hdrop.map _).trans (List.prefix_append _ _)

section Step

variable {n : ℕ} {c : WriteCommand} {base : List RegisterWrite} {s s' : Profile}

theorem Progress.pieces (h : Progress n c base s) {j : ℕ}
    (hj : j ≤ (s.xTransfer n).usSendDataSize) :
    (List.range j).map (fun i => RegisterWrite.CONTROLLER_WRITE_BYTE
        ((s.xTransfer n).ucSendData ((s.xTransfer n).usSendIndex + i))) =
      ((c.data.drop (s.xTransfer n).usSendIndex).take j).map .CONTROLLER_WRITE_BYTE := by
  have hsize := h.size
  refine List.ext_getElem (by simp; omega) fun i hi hi' => ?_
  have hij : i < j := by simpa using hi
  simp only [List.getElem_map, List.getElem_range, List.getElem_take, List.getElem_drop]
  rw [h.data _ (by omega), List.getD_eq_getElem _ _ (by omega)]

theorem Progress.sent_pieces (h : Progress n c base s)
    (hst : s.xState n = .CONTROLLER_WRITE_BYTE) {j : ℕ}
    (hj : j ≤ (s.xTransfer n).usSendDataSize) :
    (s.sending n j).sent = base ++ (c.head ++
      (c.data.take ((s.xTransfer n).usSendIndex + j)).map .CONTROLLER_WRITE_BYTE) := by
  have hsent := h.sent
  rw [if_pos hst] at hsent
  rw [sending_sent, h.pieces hj, hsent, List.take_add, List.map_append]
  simp only [List.append_assoc]

theorem Progress.right (h : Progress n c base s) (hs : s.Sending n c.protocol) :
    Right n c base s := by
  refine ⟨?_, fun hst => ?_⟩
  · have hsent := h.sent
    split at hsent
    · rw [hsent, List.prefix_append_right_inj, WriteCommand.expected,
        List.prefix_append_right_inj]
      exact c.take_prefix h.index
    · rw [hsent.2]
      exact List.prefix_append _ _
  · exact absurd hs.1 (not_sending_of_sent hst)

theorem Progress.of_transfer (h : Progress n c base s) (htransfer : s'.xTransfer n = s.xTransfer n)
    (hsent : if s'.xState n = .CONTROLLER_WRITE_BYTE then
        s'.sent = base ++ (c.head ++
          (c.data.take (s.xTransfer n).usSendIndex).map .CONTROLLER_WRITE_BYTE)
      else (s.xTransfer n).usSendIndex = 0 ∧ s'.sent = base) : Progress n c base s' := by
  obtain ⟨hdata, hsize, hindex, hcommand, hpec, -⟩ := h
  rw [← htransfer] at hdata hsize hindex hcommand hpec hsent
  exact ⟨hdata, hsize, hindex, hcommand, hpec, hsent⟩

theorem Progress.of_same (h : Progress n c base s) (hsent : s'.sent = s.sent)
    (htransfer : s'.xTransfer n = s.xTransfer n) (hstate : s'.xState n = s.xState n) :
    Progress n c base s' :=
  h.of_transfer htransfer (by rw [hstate, hsent]; exact h.sent)

/-- A step after which the instance is sending and has made progress, or has broken off. -/
def Sound (n : ℕ) (c : WriteCommand) (base : List RegisterWrite) (s' : Profile) : Prop :=
  (s'.Sending n c.protocol → Progress n c base s') ∧ Right n c base s'

theorem Progress.sound_of_pauses (h : Progress n c base s) (hs : s.Sending n c.protocol)
    (hpause : Pauses n c.protocol s s') : Sound n c base s' := by
  have hright := h.right hs
  rcases hpause.same with ⟨htransfer, hstate⟩ | ⟨hst, hnot⟩
  · refine ⟨fun _ => h.of_same hpause.silent htransfer hstate, ?_⟩
    rw [Right, hpause.silent, hstate]
    exact hright
  · refine ⟨fun hs' => absurd hs' hnot, ?_, fun hst' => absurd hst' hst⟩
    rw [hpause.silent]
    exact hright.1

theorem Progress.sound_start (hc : c.Valid) (h : Progress n c base s)
    (hs : s.Sending n c.protocol) (hst : s.xState n = .INITIAL) :
    Sound n c base (exec (vStateInitial n .SEND_NEXT_BYTE) s) := by
  have hexec : exec (vStateInitial n .SEND_NEXT_BYTE) s =
      exec (vStartCommand n c.protocol) s := by
    simp only [vStateInitial]
    rw [exec_transfer_bind, hs.2]
  have hp : c.protocol ∉ [.QUICK_CMD_LO, .QUICK_CMD_HI, .RECEIVE_BYTE, .I2C_READ] := by
    have hprotocol := hc.protocol
    revert hprotocol
    generalize c.protocol = p
    cases p <;> decide
  obtain ⟨hsent, htransfer, hstate⟩ := vStartCommand_effect (n := n) hp s
  rw [hexec]
  have hs0 := h.sent
  rw [if_neg (by rw [hst]; decide)] at hs0
  have hprogress : Progress n c base (exec (vStartCommand n c.protocol) s) := by
    refine h.of_transfer htransfer ?_
    rw [hsent, hstate, hs0.1, hs0.2]
    by_cases hi2c : c.protocol ∈ [.I2C_WRITE, .I2C_WRITE_READ]
    · have hhead : c.head = [] := by
        rw [WriteCommand.head, if_pos (List.mem_cons_of_mem _ hi2c)]
      rw [startState, if_pos hi2c, if_pos rfl, hhead]
      simp
    · rw [startState, if_neg hi2c, if_neg (by decide)]
      exact ⟨rfl, rfl⟩
  have hsending : (exec (vStartCommand n c.protocol) s).Sending n c.protocol := by
    refine ⟨?_, by rw [htransfer]; exact hs.2⟩
    rw [hstate, startState]
    split <;> decide
  exact ⟨fun _ => hprogress, hprogress.right hsending⟩

theorem Progress.sound_command (hc : c.Valid) (h : Progress n c base s)
    (hs : s.Sending n c.protocol) (hst : s.xState n = .CONTROLLER_SEND_COMMAND) :
    Sound n c base (exec (vStateControllerSendCommand n .SEND_NEXT_BYTE) s) := by
  obtain ⟨htransfer, hcases⟩ := sendCommand_effect hc hs.2 h.command
  generalize exec (vStateControllerSendCommand n .SEND_NEXT_BYTE) s = m at htransfer hcases ⊢
  have hs0 := h.sent
  rw [if_neg (by rw [hst]; decide)] at hs0
  rcases hcases with ⟨hsent, hstate⟩ | ⟨hsent, hstate⟩
  · exact h.sound_of_pauses hs ⟨hsent, .inl ⟨htransfer, hstate⟩⟩
  · have hprogress : Progress n c base m := by
      refine h.of_transfer htransfer ?_
      rw [hsent, hstate, if_pos rfl, hs0.1, hs0.2]
      simp
    have hsending : m.Sending n c.protocol :=
      ⟨by rw [hstate]; decide, by rw [htransfer]; exact hs.2⟩
    exact ⟨fun _ => hprogress, hprogress.right hsending⟩

end Step

/-! ### The end of the data -/

/-- The last byte is to go out with a PEC behind it. -/
def Transfer.sendsPec (t : Transfer) : Bool :=
  t.ucPecRequiredForTransaction && decide (t.xProtocol ∉ .HOST_NOTIFY :: combinedWrites)

/-- The FIFO takes the last byte: with a PEC behind it there is to be room for two. -/
def Transfer.hasRoomForLast (t : Transfer) (registers : List ℕ) : Prop :=
  if t.sendsPec = true then
    registers.headD 0 % 2 ^ 7 ≤ FIFO_SPACE_FOR_TWO_BYTES ∧ ¬ refuses registers.tail
  else ¬ refuses registers

instance (t : Transfer) (registers : List ℕ) : Decidable (t.hasRoomForLast registers) := by
  unfold Transfer.hasRoomForLast; infer_instance

/-- What goes in the FIFO with the last byte. -/
def Transfer.lastWrites (t : Transfer) (registers : List ℕ) : List RegisterWrite :=
  let b := t.ucSendData t.usSendIndex
  if t.xProtocol ∈ combinedWrites then [.CONTROLLER_WRITE_BYTE b]
  else if t.sendsPec = true then .CONTROLLER_WRITE_BYTE b :: pecTaken registers.tail.tail
  else [.CONTROLLER_WRITE_STOP b]

theorem ending_eq (t : Transfer) (registers : List ℕ) : t.ending registers =
    if t.hasRoomForLast registers then some (t.lastWrites registers) else none := by
  unfold Transfer.ending Transfer.hasRoomForLast Transfer.lastWrites
  by_cases hcombined : t.xProtocol ∈ combinedWrites
  · have hpec : t.sendsPec = false := by
      simp [Transfer.sendsPec, hcombined]
    simp only [if_pos hcombined, hpec, Bool.false_eq_true, if_false]
    split <;> simp_all
  · by_cases hnotify : t.xProtocol = .HOST_NOTIFY
    · have hpec : t.sendsPec = false := by simp [Transfer.sendsPec, hnotify]
      simp only [if_neg hcombined, if_pos hnotify, hpec, Bool.false_eq_true, if_false]
      split <;> simp_all
    · have hpec : t.sendsPec = t.ucPecRequiredForTransaction := by
        simp [Transfer.sendsPec, hnotify, hcombined]
      simp only [if_neg hcombined, if_neg hnotify, hpec]
      by_cases hflag : t.ucPecRequiredForTransaction = true
      · simp only [if_pos hflag, pecTaken]
      · simp only [if_neg hflag]
        split <;> simp_all

/-- The step that ends the data ends them right: there is a last byte, an I2C write has no PEC left
over from another transfer, and a PEC that is due is taken. The commands of address resolution send
their data and the PEC in one go. -/
def Transfer.endsRight (t : Transfer) (registers : List ℕ) : Prop :=
  if t.xProtocol = .ARP_ASSIGN_ADDRESS then
    t.usSendDataSize ≤ FIFO_DEPTH - registers.headD 0 % 2 ^ 7 ∧ ¬ refuses registers.tail
  else if t.xProtocol ∈ arpCommands then t.usSendDataSize = 0 ∧ ¬ refuses registers
  else t.usSendDataSize ≤ 1 → t.hasRoomForLast registers → t.usSendDataSize = 1 ∧
    (t.sendsPec = true → t.xProtocol ≠ .I2C_WRITE ∧ ¬ refuses registers.tail.tail)

instance (t : Transfer) (registers : List ℕ) : Decidable (t.endsRight registers) := by
  unfold Transfer.endsRight; infer_instance

/-- The events that the data are sent on. -/
def sendEvents : List Event := [.SEND_NEXT_BYTE, .CONTROLLER_DESC_FIFO_ALMOST_EMPTY_IRQ]

/-- A step that sends data ends them right, if it ends them. -/
def EndsRight (n : ℕ) (s : Profile) (x : Input) : Prop :=
  s.xState n = .CONTROLLER_WRITE_BYTE → x.event ∈ sendEvents →
    (s.xTransfer n).endsRight x.registers

instance (n : ℕ) (s : Profile) (x : Input) : Decidable (EndsRight n s x) := by
  unfold EndsRight; infer_instance

theorem pecTaken_eq_iff (registers : List ℕ) :
    pecTaken registers = [.CONTROLLER_WRITE_PEC] ↔ ¬ refuses registers := by
  unfold pecTaken
  split <;> simp_all

section Last

variable {n : ℕ} {c : WriteCommand} {base : List RegisterWrite} {s s' : Profile}

theorem Progress.lastWrites_ne_of_zero (h : Progress n c base s)
    (hsize : (s.xTransfer n).usSendDataSize = 0) (registers : List ℕ) :
    (c.data.take (s.xTransfer n).usSendIndex).map .CONTROLLER_WRITE_BYTE ++
      (s.xTransfer n).lastWrites registers ≠ c.payload := by
  have hnil : c.data = [] := by
    have hlen := h.size
    have hindex := h.index
    exact List.eq_nil_of_length_eq_zero (by omega)
  simp only [hnil, List.take_nil, List.map_nil, List.nil_append]
  unfold Transfer.lastWrites WriteCommand.payload
  simp only [hnil, List.map_nil, List.nil_append, List.dropLast_nil, List.getLast?_nil,
    Option.toList_none]
  split_ifs <;> simp

theorem Progress.split_last (h : Progress n c base s)
    (hsize : (s.xTransfer n).usSendDataSize = 1) :
    c.data.dropLast = c.data.take (s.xTransfer n).usSendIndex ∧
      c.data = c.data.take (s.xTransfer n).usSendIndex ++
        [(s.xTransfer n).ucSendData (s.xTransfer n).usSendIndex] := by
  have hlen := h.size
  have hlt : (s.xTransfer n).usSendIndex < c.data.length := by omega
  have hdrop : c.data.dropLast = c.data.take (s.xTransfer n).usSendIndex := by
    rw [List.dropLast_eq_take]
    congr 1
    omega
  refine ⟨hdrop, ?_⟩
  rw [h.data _ hlt, List.getD_eq_getElem _ _ hlt]
  have hone := List.take_append_drop (s.xTransfer n).usSendIndex c.data
  rw [List.drop_eq_getElem_cons hlt, List.drop_eq_nil_of_le (by omega)] at hone
  exact hone.symm

theorem Progress.pecRequired_eq (h : Progress n c base s) (hs : s.Sending n c.protocol)
    (hp : c.protocol ∈ combinedWrites ++ plainWrites) (hcombined : c.protocol ∉ combinedWrites) :
    c.pecRequired = ((s.xTransfer n).sendsPec && decide (c.protocol ≠ .I2C_WRITE)) := by
  have harp : c.protocol ∉ .ARP_ASSIGN_ADDRESS :: arpCommands := by
    revert hp
    generalize c.protocol = p
    cases p <;> decide
  rw [WriteCommand.pecRequired, Transfer.sendsPec, hs.2, decide_eq_false harp, Bool.false_or]
  by_cases hi2c : c.protocol = .I2C_WRITE
  · simp [hi2c]
  · have hflag : (s.xTransfer n).ucPecRequiredForTransaction = c.pec := by
      refine h.pec ?_
      simp only [List.mem_cons, List.not_mem_nil, or_false, not_or]
      exact ⟨hi2c, fun h' => hcombined (by rw [h']; decide)⟩
    rw [hflag]
    by_cases hnotify : c.protocol = .HOST_NOTIFY <;> simp [hnotify, hi2c, hcombined]

/-- **The last byte.** It completes the data exactly when there is one and the PEC is in order. -/
theorem Progress.lastWrites_iff (h : Progress n c base s) (hs : s.Sending n c.protocol)
    (hp : c.protocol ∈ combinedWrites ++ plainWrites)
    (hle : (s.xTransfer n).usSendDataSize ≤ 1) (registers : List ℕ) :
    (c.data.take (s.xTransfer n).usSendIndex).map .CONTROLLER_WRITE_BYTE ++
        (s.xTransfer n).lastWrites registers = c.payload ↔
      (s.xTransfer n).usSendDataSize = 1 ∧ ((s.xTransfer n).sendsPec = true →
        (s.xTransfer n).xProtocol ≠ .I2C_WRITE ∧ ¬ refuses registers.tail.tail) := by
  rcases Nat.le_one_iff_eq_zero_or_eq_one.mp hle with hsize | hsize
  · refine ⟨fun heq => absurd heq (h.lastWrites_ne_of_zero hsize registers), fun hone => ?_⟩
    rw [hsize] at hone
    exact absurd hone.1 (by decide)
  obtain ⟨hinit, hdata⟩ := h.split_last hsize
  have hlast := congrArg List.getLast? hdata
  rw [List.getLast?_concat] at hlast
  rw [hs.2]
  by_cases hcombined : c.protocol ∈ combinedWrites
  · have hpec : (s.xTransfer n).sendsPec = false := by simp [Transfer.sendsPec, hs.2, hcombined]
    rw [c.payload_combined hcombined, Transfer.lastWrites, hs.2, if_pos hcombined, hpec]
    refine ⟨fun _ => ⟨hsize, fun hfalse => by cases hfalse⟩, fun _ => ?_⟩
    nth_rewrite 2 [hdata]
    simp
  · have hrequired := h.pecRequired_eq hs hp hcombined
    rw [Transfer.lastWrites, hs.2, if_neg hcombined]
    by_cases hpec : (s.xTransfer n).sendsPec = true
    · rw [if_pos hpec]
      by_cases hi2c : c.protocol = .I2C_WRITE
      · have hnone : ¬ c.pecRequired = true := by rw [hrequired]; simp [hi2c]
        rw [c.payload_stop hcombined hnone, hinit]
        refine ⟨fun heq => ?_, fun hone => absurd hi2c (hone.2 hpec).1⟩
        have htail := List.append_cancel_left heq
        rw [hlast] at htail
        simp at htail
      · have hsome : c.pecRequired = true := by rw [hrequired]; simp [hi2c, hpec]
        rw [c.payload_pec hcombined hsome]
        nth_rewrite 2 [hdata]
        simp only [List.map_append, List.map_cons, List.map_nil, List.append_assoc,
          List.singleton_append, List.append_cancel_left_eq, List.cons.injEq, true_and]
        rw [pecTaken_eq_iff]
        exact ⟨fun hroom => ⟨hsize, fun _ => ⟨hi2c, hroom⟩⟩, fun hone => (hone.2 hpec).2⟩
    · have hnone : ¬ c.pecRequired = true := by rw [hrequired]; simp [hpec]
      rw [if_neg hpec, c.payload_stop hcombined hnone, hinit]
      refine ⟨fun _ => ⟨hsize, fun hpec' => absurd hpec' hpec⟩, fun _ => ?_⟩
      rw [hlast]
      rfl

theorem right_of_done (hst : s'.xState n ∈ sentStates) :
    Right n c base s' ↔ s'.sent = base ++ c.expected :=
  ⟨fun h => h.2 hst, fun h => ⟨by rw [h], fun _ => h⟩⟩

theorem sent_eq_iff {front ws : List RegisterWrite} (h : s'.sent = base ++ (c.head ++ front) ++ ws) :
    s'.sent = base ++ c.expected ↔ front ++ ws = c.payload := by
  rw [h, WriteCommand.expected, List.append_assoc, List.append_assoc,
    List.append_cancel_left_eq, List.append_cancel_left_eq]

theorem Progress.sound_more (hc : c.Valid) (h : Progress n c base s)
    (hs : s.Sending n c.protocol) (hst : s.xState n = .CONTROLLER_WRITE_BYTE)
    (hp : c.protocol ∈ combinedWrites ++ plainWrites)
    (hsize : 1 < (s.xTransfer n).usSendDataSize) :
    Sound n c base (exec (vControllerWrite n) s) := by
  have hlen := h.size
  have hmax := hc.length
  have hp' : (s.xTransfer n).xProtocol ∈ combinedWrites ++ plainWrites := by rw [hs.2]; exact hp
  obtain ⟨hsent, htransfer, hstate⟩ := controllerWrite_more (n := n) (s := s) (by omega) hp' hsize
  generalize exec (vControllerWrite n) s = m at hsent htransfer hstate ⊢
  generalize hj : min s.room ((s.xTransfer n).usSendDataSize - 1) = j at hsent htransfer
  have hjle : j ≤ (s.xTransfer n).usSendDataSize - 1 := hj ▸ Nat.min_le_right _ _
  have hfields : m.xTransfer n = { s.xTransfer n with
      usSendIndex := (s.xTransfer n).usSendIndex + j
      usSendDataSize := (s.xTransfer n).usSendDataSize - j } := by
    rw [htransfer]
    exact Function.update_self _ _ _
  have hprogress : Progress n c base m := by
    refine ⟨?_, ?_, ?_, ?_, ?_, ?_⟩
    · rw [hfields]; exact h.data
    · rw [hfields]
      change (s.xTransfer n).usSendIndex + j + ((s.xTransfer n).usSendDataSize - j) = _
      omega
    · rw [hfields]
      exact .inr (show (s.xTransfer n).usSendIndex + j < _ by omega)
    · rw [hfields]; exact h.command
    · rw [hfields]; exact h.pec
    · rw [hstate, if_pos hst, hsent, h.sent_pieces hst (by omega), hfields]
  have hsending : m.Sending n c.protocol :=
    ⟨by rw [hstate]; exact hs.1, by rw [hfields]; exact hs.2⟩
  exact ⟨fun _ => hprogress, hprogress.right hsending⟩

theorem Progress.last_iff (hc : c.Valid) (h : Progress n c base s)
    (hs : s.Sending n c.protocol) (hst : s.xState n = .CONTROLLER_WRITE_BYTE)
    (hp : c.protocol ∈ combinedWrites ++ plainWrites)
    (hsize : ¬ 1 < (s.xTransfer n).usSendDataSize) :
    ((exec (vControllerWrite n) s).Sending n c.protocol →
        Progress n c base (exec (vControllerWrite n) s)) ∧
      (Right n c base (exec (vControllerWrite n) s) ↔
        (s.xTransfer n).endsRight s.registers) := by
  have hlen := h.size
  have hindex := h.index
  have hmax := hc.length
  have hdata : DATA_SIZE_MAX = 256 := rfl
  have hp' : (s.xTransfer n).xProtocol ∈ combinedWrites ++ plainWrites := by rw [hs.2]; exact hp
  have hended := controllerWrite_last (n := n) (s := s) (by omega) hp' hsize
  rw [ending_eq] at hended
  have hends : (s.xTransfer n).endsRight s.registers ↔
      ((s.xTransfer n).usSendDataSize ≤ 1 → (s.xTransfer n).hasRoomForLast s.registers →
        (s.xTransfer n).usSendDataSize = 1 ∧ ((s.xTransfer n).sendsPec = true →
          (s.xTransfer n).xProtocol ≠ .I2C_WRITE ∧ ¬ refuses s.registers.tail.tail)) := by
    have harp : (s.xTransfer n).xProtocol ≠ .ARP_ASSIGN_ADDRESS ∧
        (s.xTransfer n).xProtocol ∉ arpCommands := by
      revert hp'
      generalize (s.xTransfer n).xProtocol = p
      cases p <;> decide
    rw [Transfer.endsRight, if_neg harp.1, if_neg harp.2]
  rw [hends]
  generalize exec (vControllerWrite n) s = m at hended ⊢
  by_cases hroom : (s.xTransfer n).hasRoomForLast s.registers
  · rw [if_pos hroom] at hended
    obtain ⟨hsent, hdone⟩ := hended
    refine ⟨fun hs' => absurd hs'.1 (not_sending_of_sent hdone), ?_⟩
    have hs0 := h.sent
    rw [if_pos hst] at hs0
    rw [right_of_done hdone, sent_eq_iff (hsent.trans (by rw [hs0])),
      h.lastWrites_iff hs hp (by omega)]
    exact ⟨fun hright _ _ => hright, fun hright => hright (by omega) hroom⟩
  · rw [if_neg hroom] at hended
    obtain ⟨hsent, htransfer, hstate⟩ := hended
    obtain ⟨hprogress, hright⟩ := h.sound_of_pauses hs
      ⟨hsent, .inl ⟨htransfer, hstate.trans hst.symm⟩⟩
    exact ⟨hprogress, fun _ _ hroom' => absurd hroom' hroom, fun _ => hright⟩

theorem Progress.assign_iff (hc : c.Valid) (h : Progress n c base s)
    (hs : s.Sending n c.protocol) (hst : s.xState n = .CONTROLLER_WRITE_BYTE)
    (hp : c.protocol = .ARP_ASSIGN_ADDRESS) :
    (exec (vControllerWrite n) s).xState n = .AWAITING_DONE ∧
      (Right n c base (exec (vControllerWrite n) s) ↔
        (s.xTransfer n).endsRight s.registers) := by
  have hlen := h.size
  have hindex := h.index
  have hmax := hc.length
  have hp' : (s.xTransfer n).xProtocol = .ARP_ASSIGN_ADDRESS := by rw [hs.2]; exact hp
  obtain ⟨hsent, hstate⟩ := controllerWrite_assign (n := n) (s := s) (by omega) hp'
  generalize exec (vControllerWrite n) s = m at hsent hstate ⊢
  refine ⟨hstate, ?_⟩
  have hdone : m.xState n ∈ sentStates := by rw [hstate]; decide
  have hpayload : c.payload = c.data.map .CONTROLLER_WRITE_BYTE ++ [.CONTROLLER_WRITE_PEC] :=
    c.payload_pec (by rw [hp]; decide) (by simp [WriteCommand.pecRequired, hp])
  rw [h.sent_pieces hst (Nat.min_le_right _ _)] at hsent
  rw [right_of_done hdone, sent_eq_iff hsent, hpayload, Transfer.endsRight, if_pos hp']
  have hroom : s.room = FIFO_DEPTH - s.registers.headD 0 % 2 ^ 7 := rfl
  rw [← hroom]
  by_cases hfits : (s.xTransfer n).usSendDataSize ≤ s.room
  · have htake : c.data.take ((s.xTransfer n).usSendIndex +
        min s.room (s.xTransfer n).usSendDataSize) = c.data := by
      rw [Nat.min_eq_right hfits]
      exact List.take_of_length_le (by omega)
    rw [htake, List.append_cancel_left_eq, pecTaken_eq_iff]
    exact ⟨fun hroom => ⟨hfits, hroom⟩, fun hends => hends.2⟩
  · refine ⟨fun heq => ?_, fun hends => absurd hends.1 hfits⟩
    have hlength := congrArg List.length heq
    have hpec : (pecTaken s.registers.tail).length ≤ 1 := by
      unfold pecTaken
      split <;> simp
    simp only [List.length_append, List.length_map, List.length_take, List.length_singleton]
      at hlength
    omega

theorem Progress.command_iff (h : Progress n c base s) (hs : s.Sending n c.protocol)
    (hst : s.xState n = .CONTROLLER_WRITE_BYTE) (hp : c.protocol ∈ arpCommands) :
    (exec (vControllerWrite n) s).xState n = .AWAITING_DONE ∧
      (Right n c base (exec (vControllerWrite n) s) ↔
        (s.xTransfer n).endsRight s.registers) := by
  have hlen := h.size
  have hp' : (s.xTransfer n).xProtocol ∈ arpCommands := by rw [hs.2]; exact hp
  obtain ⟨hsent, hstate⟩ := controllerWrite_command hp'
  generalize exec (vControllerWrite n) s = m at hsent hstate ⊢
  refine ⟨hstate, ?_⟩
  have hdone : m.xState n ∈ sentStates := by rw [hstate]; decide
  have hnot : c.protocol ∉ combinedWrites ∧ c.protocol ≠ .ARP_ASSIGN_ADDRESS := by
    revert hp
    generalize c.protocol = p
    cases p <;> decide
  have hpayload : c.payload = c.data.map .CONTROLLER_WRITE_BYTE ++ [.CONTROLLER_WRITE_PEC] := by
    refine c.payload_pec hnot.1 ?_
    rw [WriteCommand.pecRequired, decide_eq_true (List.mem_cons_of_mem _ hp), Bool.true_or]
  have hs0 := h.sent
  rw [if_pos hst] at hs0
  rw [right_of_done hdone, sent_eq_iff (hsent.trans (by rw [hs0])), hpayload,
    Transfer.endsRight, if_neg (by rw [hs.2]; exact hnot.2), if_pos hp']
  by_cases hsize : (s.xTransfer n).usSendDataSize = 0
  · have htake : c.data.take (s.xTransfer n).usSendIndex = c.data :=
      List.take_of_length_le (by omega)
    rw [htake, List.append_cancel_left_eq, pecTaken_eq_iff]
    exact ⟨fun hroom => ⟨hsize, hroom⟩, fun hends => hends.2⟩
  · refine ⟨fun heq => ?_, fun hends => absurd hends.1 hsize⟩
    have hlength := congrArg List.length heq
    have hpec : (pecTaken s.registers).length ≤ 1 := by
      unfold pecTaken
      split <;> simp
    simp only [List.length_append, List.length_map, List.length_take, List.length_singleton]
      at hlength
    omega

end Last

/-! ### Steps and runs -/

section Runs

variable {n : ℕ} {c : WriteCommand} {base : List RegisterWrite} {s s' : Profile}

theorem Progress.given (h : Progress n c base s) (x : Input) : Progress n c base (s.given x) :=
  h.of_same rfl rfl rfl

theorem write_step (hc : c.Valid) (h : Progress n c base s) (hs : s.Sending n c.protocol)
    (hst : s.xState n = .CONTROLLER_WRITE_BYTE) :
    ((exec (vControllerWrite n) s).Sending n c.protocol →
        Progress n c base (exec (vControllerWrite n) s)) ∧
      (Right n c base (exec (vControllerWrite n) s) ↔
        (s.xTransfer n).endsRight s.registers) := by
  by_cases hp : c.protocol ∈ combinedWrites ++ plainWrites
  · by_cases hsize : 1 < (s.xTransfer n).usSendDataSize
    · obtain ⟨hprogress, hright⟩ := h.sound_more hc hs hst hp hsize
      refine ⟨hprogress, fun _ => ?_, fun _ => hright⟩
      have harp : (s.xTransfer n).xProtocol ≠ .ARP_ASSIGN_ADDRESS ∧
          (s.xTransfer n).xProtocol ∉ arpCommands := by
        rw [hs.2]
        revert hp
        generalize c.protocol = p
        cases p <;> decide
      rw [Transfer.endsRight, if_neg harp.1, if_neg harp.2]
      exact fun hle => absurd hle (by omega)
    · exact h.last_iff hc hs hst hp hsize
  · have hdone : ∀ m : Profile, m.xState n = .AWAITING_DONE →
        m.Sending n c.protocol → Progress n c base m := by
      intro m hm hm'
      have hst' := hm'.1
      rw [hm] at hst'
      exact absurd hst' (by decide)
    rcases List.mem_append.mp hc.protocol with hp' | hp'
    · exact absurd hp' hp
    · rcases List.mem_cons.mp hp' with hp' | hp'
      · obtain ⟨hstate, hiff⟩ := h.assign_iff hc hs hst hp'
        exact ⟨hdone _ hstate, hiff⟩
      · obtain ⟨hstate, hiff⟩ := h.command_iff hs hst hp'
        exact ⟨hdone _ hstate, hiff⟩

/-- **Step of a transmission.** An instance that goes on sending has made progress, and what it has
sent is right exactly when the data are ended right. -/
theorem feed_iff (hc : c.Valid) (h : Progress n c base s) (hs : s.Sending n c.protocol)
    (x : Input) :
    ((exec (vSMBusFSM n x.event) (s.given x)).Sending n c.protocol →
        Progress n c base (exec (vSMBusFSM n x.event) (s.given x))) ∧
      (Right n c base (exec (vSMBusFSM n x.event) (s.given x)) ↔ EndsRight n s x) := by
  have hgiven := h.given x
  have hsg : (s.given x).Sending n c.protocol := hs
  have hnone : c.protocol ≠ .NONE := by
    have hp := hc.protocol
    rintro hnone
    rw [hnone] at hp
    exact absurd hp (by decide)
  have hsound : ∀ m, Sound n c base m → ¬ (s.xState n = .CONTROLLER_WRITE_BYTE ∧
      x.event ∈ sendEvents) →
      (m.Sending n c.protocol → Progress n c base m) ∧ (Right n c base m ↔ EndsRight n s x) :=
    fun m hm hnot => ⟨hm.1, fun _ hst he => absurd ⟨hst, he⟩ hnot, fun _ => hm.2⟩
  have hstates := hs.1
  simp only [sendingStates, List.mem_cons, List.not_mem_nil, or_false] at hstates
  rw [vSMBusFSM, exec_get_bind]
  have hstate : (s.given x).xState n = s.xState n := rfl
  rw [hstate]
  rcases hstates with hst | hst | hst
  · simp only [hst]
    refine hsound _ ?_ fun hwrite => by rw [hst] at hwrite; cases hwrite.1
    by_cases he : x.event = .SEND_NEXT_BYTE
    · rw [he]
      exact hgiven.sound_start hc hsg hst
    · exact hgiven.sound_of_pauses hsg (vStateInitial_pauses hnone he _)
  · simp only [hst]
    refine hsound _ ?_ fun hwrite => by rw [hst] at hwrite; cases hwrite.1
    by_cases he : x.event = .SEND_NEXT_BYTE
    · rw [he]
      exact hgiven.sound_command hc hsg hst
    · have hother : vStateControllerSendCommand n x.event = vOtherEvent n x.event := by
        unfold vStateControllerSendCommand
        split
        · exact absurd ‹_› he
        · rfl
      rw [hother]
      exact hgiven.sound_of_pauses hsg (vOtherEvent_pauses hnone _ _)
  · simp only [hst]
    by_cases he : x.event ∈ sendEvents
    · have hwrite : vStateControllerWriteByte n x.event = vControllerWrite n := by
        simp only [sendEvents, List.mem_cons, List.not_mem_nil, or_false] at he
        rcases he with he | he <;> rw [he] <;> rfl
      rw [hwrite]
      obtain ⟨hprogress, hiff⟩ := write_step hc hgiven hsg hst
      refine ⟨hprogress, hiff.trans ⟨fun hends _ _ => hends, fun hends => hends hst he⟩⟩
    · have hother : vStateControllerWriteByte n x.event = vOtherEvent n x.event := by
        simp only [sendEvents, List.mem_cons, List.not_mem_nil, or_false, not_or] at he
        unfold vStateControllerWriteByte
        split
        · exact absurd ‹_› he.1
        · exact absurd ‹_› he.2
        · rfl
      rw [hother]
      exact hsound _ (hgiven.sound_of_pauses hsg (vOtherEvent_pauses hnone _ _))
        fun hwrite => he hwrite.2

/-- The controller write that an entry point is called for. -/
def Action.writeCommand : Action → Option WriteCommand
  | .initiate a =>
    some ⟨a.xProtocol, a.commandByte, (List.range a.usDataSize).map a.pucData,
      a.ucPecRequiredForTransaction⟩
  | .i2cWrite _ _ data size => some ⟨.I2C_WRITE, 0, (List.range size).map data, false⟩
  | .i2cWriteRead _ _ data size _ =>
    some ⟨.I2C_WRITE_READ, 0, (List.range size).map data, false⟩
  | _ => none

theorem writeCommand_length {a : Action} {s : Profile} (hc : a.writeCommand = some c)
    (hok : a.admitted s) : c.data.length ≤ DATA_SIZE_MAX := by
  cases a with
  | initiate a =>
    obtain rfl := Option.some.inj hc
    simpa using hok.2.1
  | i2cWrite m addr data size =>
    obtain rfl := Option.some.inj hc
    simpa using hok.1
  | i2cWriteRead m addr data size readSize =>
    obtain rfl := Option.some.inj hc
    simpa using hok.1
  | _ => cases hc

theorem memcpy_data {dest src : ℕ → ℕ} {size k : ℕ} (hk : k < size) :
    memcpy dest src size k = ((List.range size).map src).getD k 0 := by
  rw [memcpy, if_pos hk, List.getD_eq_getElem _ _ (by simpa using hk)]
  simp

theorem writeCommand_loaded {a : Action} {s₀ : Profile} (ha : a.commandedInstance = some n)
    (hc : a.writeCommand = some c) (hok : a.admitted s₀) (hstep : step s₀ a = some s) :
    s.Sending n c.protocol ∧ Progress n c s.sent s := by
  obtain ⟨m, hm, hcommandable⟩ := admitted_commandable hok
  obtain rfl : m = n := Option.some.inj (hm.symm.trans ha)
  have hs : s = exec a.entry s₀.rest := by
    cases a with
    | initiate a => simp only [step] at hstep; split at hstep <;> simp_all [Profile.rest]
    | i2cWrite m addr data size =>
      simp only [step] at hstep; split at hstep <;> simp_all [Profile.rest]
    | i2cWriteRead m addr data size readSize =>
      simp only [step] at hstep; split at hstep <;> simp_all [Profile.rest]
    | _ => cases hc
  have hrecord : s.record = (s₀.rest.commanded m (a.transaction s₀.rest) a.load).record := by
    rw [hs]
    rcases command_effect (s := s₀.rest) ha with ⟨hnot, -⟩ | ⟨-, h⟩
    · exact absurd (by cases a <;> exact hok) hnot
    · exact h
  simp only [Profile.record, Profile.control, Prod.mk.injEq] at hrecord
  obtain ⟨⟨-, -, -, -, hstate, -⟩, htransfer, -⟩ := hrecord
  have hst : s.xState m = .INITIAL := by rw [hstate]; exact hcommandable.2.2
  have hload : s.xTransfer m = a.load (s₀.xTransfer m) := by
    rw [htransfer]; exact Function.update_self _ _ _
  clear hstate htransfer hs hstep
  have hnot : ¬ s.xState m = .CONTROLLER_WRITE_BYTE := by rw [hst]; decide
  cases a with
  | initiate a =>
    obtain rfl := Option.some.inj hc
    refine ⟨⟨by rw [hst]; decide, by rw [hload]; rfl⟩, ?_, ?_, ?_, ?_, ?_, ?_⟩
    · intro k hk
      rw [hload]
      exact memcpy_data (by simpa using hk)
    · rw [hload]; simp [Action.load]
    · rw [hload]; exact .inl rfl
    · rw [hload]; exact fun _ => rfl
    · rw [hload]; exact fun _ => rfl
    · rw [if_neg hnot, hload]; exact ⟨rfl, rfl⟩
  | i2cWrite i addr data size =>
    obtain rfl := Option.some.inj hc
    refine ⟨⟨by rw [hst]; decide, by rw [hload]; rfl⟩, ?_, ?_, ?_, ?_, ?_, ?_⟩
    · intro k hk
      rw [hload]
      exact memcpy_data (by simpa using hk)
    · rw [hload]; simp [Action.load]
    · rw [hload]; exact .inl rfl
    · exact fun hne => absurd List.mem_cons_self hne
    · exact fun hne => absurd List.mem_cons_self hne
    · rw [if_neg hnot, hload]; exact ⟨rfl, rfl⟩
  | i2cWriteRead i addr data size readSize =>
    obtain rfl := Option.some.inj hc
    refine ⟨⟨by rw [hst]; decide, by rw [hload]; rfl⟩, ?_, ?_, ?_, ?_, ?_, ?_⟩
    · intro k hk
      rw [hload]
      exact memcpy_data (by simpa using hk)
    · rw [hload]; simp [Action.load]
    · rw [hload]; exact .inl rfl
    · exact fun hne => absurd (List.mem_cons_of_mem _ List.mem_cons_self) hne
    · exact fun hne => absurd (List.mem_cons_of_mem _ List.mem_cons_self) hne
    · rw [if_neg hnot, hload]; exact ⟨rfl, rfl⟩
  | _ => cases hc

/-- **Controller writes send the caller's data.** For every accepted write, in every run of events
with any fill levels and refused descriptors: what the instance has put in the descriptor FIFO is
the beginning of the command and the data, and all of them with the PEC or the STOP when it is
done, if and only if each step that ended the data ended them right. -/
theorem write_transmission_iff {a : Action} {s₀ : Profile} (ha : a.commandedInstance = some n)
    (hc : a.writeCommand = some c) (hp : c.protocol ∈ writeProtocols) (hok : a.admitted s₀)
    (hstep : step s₀ a = some s) (as : List Input)
    (hrun : run (feed n c.protocol) s as = some s') :
    Right n c s.sent s' ↔
      run (guarded (feed n c.protocol) (EndsRight n)) s as = some s' := by
  have hvalid : c.Valid := ⟨hp, writeCommand_length hc hok⟩
  obtain ⟨hsending, hprogress⟩ := writeCommand_loaded ha hc hok hstep
  refine run_guarded_iff (I := fun t => t.Sending n c.protocol → Progress n c s.sent t)
    (R := Right n c s.sent) (fun t x t' ht hfeed => ?_) (fun t x t' ht hfeed => ?_) as
    (fun _ => hprogress) (hprogress.right hsending) hrun
  · unfold feed at hfeed
    split_ifs at hfeed with hs
    obtain rfl := Option.some.inj hfeed
    exact (feed_iff hvalid (ht hs) hs x).1
  · unfold feed at hfeed
    split_ifs at hfeed with hs
    obtain rfl := Option.some.inj hfeed
    rw [(feed_iff hvalid (ht hs) hs x).2]
    exact ⟨fun hends => ⟨(ht hs).right hs, hends⟩, fun h => h.2⟩

end Runs

/-- The next byte is to be sent, and the FIFO is empty. -/
def nextByte : Input := ⟨.SEND_NEXT_BYTE, [], .none⟩

/-- A word is written, and both bytes go out with the STOP on the last. -/
theorem write_transmission_word : ∃ s s' : Profile,
    run (feed 0 .WRITE_WORD) s [nextByte, nextByte, nextByte, nextByte] = some s' ∧
      s'.xState 0 = .AWAITING_DONE ∧ Right 0 ⟨.WRITE_WORD, 0x11, [0, 1], false⟩ s.sent s' := by
  have h : ((step .start (.createSMBus (smbusDevice 0x20))).bind fun s₀ =>
      (step s₀ (.initiate writeWord)).bind fun s =>
        (run (guarded (feed 0 .WRITE_WORD) (EndsRight 0)) s
          [nextByte, nextByte, nextByte, nextByte]).map fun s' => (s₀, s, s')).any (fun x =>
      decide (writeWord.ok x.1 ∧ x.2.2.xState 0 = .AWAITING_DONE)) = true := by decide +kernel
  obtain ⟨⟨s₀, s, s'⟩, hsome, hall⟩ := (Option.any_eq_true _ _).mp h
  obtain ⟨hok, hdone⟩ := of_decide_eq_true hall
  obtain ⟨t₀, ht₀, hsome⟩ := Option.bind_eq_some_iff.mp hsome
  obtain ⟨t, ht, hsome⟩ := Option.bind_eq_some_iff.mp hsome
  obtain ⟨t', hguarded, heq⟩ := Option.map_eq_some_iff.mp hsome
  cases heq
  have hrun := run_of_guarded _ hguarded
  exact ⟨s, s', hrun, hdone, (write_transmission_iff (a := .initiate writeWord) rfl rfl
    (by decide) hok ht _ hrun).mpr hguarded⟩

def writeNothing : Initiate := { writeWord with xProtocol := .WRITE_BYTE, usDataSize := 0 }

/-- With no data a byte that the caller did not give goes out. -/
theorem write_transmission_stale_byte : ∃ s₀ s s' : Profile, writeNothing.ok s₀ ∧
    step s₀ (.initiate writeNothing) = some s ∧
    run (feed 0 .WRITE_BYTE) s [nextByte, nextByte, nextByte] = some s' ∧
    s'.sent = s.sent ++ [.CONTROLLER_WRITE_BYTE 0x11, .CONTROLLER_WRITE_STOP 0] ∧
    ¬ Right 0 ⟨.WRITE_BYTE, 0x11, [], false⟩ s.sent s' := by
  have h : ((step .start (.createSMBus (smbusDevice 0x20))).bind fun s₀ =>
      (step s₀ (.initiate writeNothing)).bind fun s =>
        (run (feed 0 .WRITE_BYTE) s [nextByte, nextByte, nextByte]).map fun s' =>
          (s₀, s, s')).any (fun x => decide (writeNothing.ok x.1 ∧ x.2.1.sent = [] ∧
            x.2.2.sent = [.CONTROLLER_WRITE_BYTE 0x11, .CONTROLLER_WRITE_STOP 0])) = true := by
    decide +kernel
  obtain ⟨⟨s₀, s, s'⟩, hsome, hall⟩ := (Option.any_eq_true _ _).mp h
  obtain ⟨hok, hbase, hsent⟩ := of_decide_eq_true hall
  obtain ⟨t₀, ht₀, hsome⟩ := Option.bind_eq_some_iff.mp hsome
  obtain ⟨t, ht, hsome⟩ := Option.bind_eq_some_iff.mp hsome
  obtain ⟨t', hrun, heq⟩ := Option.map_eq_some_iff.mp hsome
  cases heq
  have hbase' : s.sent = [] := hbase
  have hsent' : s'.sent = [.CONTROLLER_WRITE_BYTE 0x11, .CONTROLLER_WRITE_STOP 0] := hsent
  refine ⟨s₀, s, s', hok, ht, hrun, by rw [hbase', hsent']; rfl, fun hright => ?_⟩
  have hprefix := hright.1
  rw [hbase', hsent'] at hprefix
  exact absurd hprefix (by decide)

end Amr.Smbus
