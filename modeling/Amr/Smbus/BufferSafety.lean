/-
# The buffers of a transfer

`ucSendData` and `ucReceivedData` have room for `DATA_SIZE_MAX` bytes. The sizes that the
application and a block count give are checked or fit by their width, and a byte is sent only while
some are left, so the bounds for sending follow from the phase of the transfer (`band`). The loops
that drain a FIFO compare the receive index with nothing: they store as many bytes as the hardware
delivers. A run is safe as long as these fit (`Fitting`).
-/
import Amr.Smbus.Ownership

namespace Amr.Smbus

open StateProgram Transition

set_option synthInstance.maxSize 20000
set_option synthInstance.maxHeartbeats 200000

/-! ### The phases of a transfer -/

structure Fresh (t : Transfer) : Prop where
  received : t.usReceiveIndex = 0
  sent : t.usSendIndex = 0
  size : t.usSendDataSize ≤ DATA_SIZE_MAX
  expected : t.usExpectedByteCount ≤ DATA_SIZE_MAX

/-- A target transfer before its end: an address assignment stores eighteen bytes. -/
structure Taking (i2c : Bool) (t : Transfer) : Prop where
  received : t.usReceiveIndex ≤ DATA_SIZE_MAX
  size : t.usSendDataSize ≤ DATA_SIZE_MAX
  expected : t.usExpectedByteCount ≤ DATA_SIZE_MAX
  assign : t.xProtocol = .ARP_ASSIGN_ADDRESS → i2c = false →
    t.usReceiveIndex ≤ UDID_ASSIGNED_ADDRESS_BYTE

/-- A controller transfer before its end. -/
structure Sending (t : Transfer) : Prop where
  received : t.usReceiveIndex ≤ DATA_SIZE_MAX
  left : t.usSendIndex + t.usSendDataSize ≤ DATA_SIZE_MAX
  next : t.usSendIndex < DATA_SIZE_MAX
  expected : t.usExpectedByteCount ≤ DATA_SIZE_MAX

structure Ending (t : Transfer) : Prop where
  received : t.usReceiveIndex ≤ DATA_SIZE_MAX
  size : t.usSendDataSize ≤ DATA_SIZE_MAX
  expected : t.usExpectedByteCount ≤ DATA_SIZE_MAX

def band (i2c : Bool) : State → Transfer → Prop
  | .INITIAL | .AWAITING_COMMAND_BYTE => Fresh
  | .AWAITING_DONE => Ending
  | .AWAITING_BLOCK_SIZE | .AWAITING_DATA | .AWAITING_READ | .READY_TO_SEND_BYTE
  | .CHECK_IF_PEC_REQUIRED => Taking i2c
  | .CONTROLLER_SEND_COMMAND | .CONTROLLER_SEND_READ_START | .CONTROLLER_READ_BLOCK_SIZE
  | .CONTROLLER_READ_BYTE | .CONTROLLER_READ_PEC | .CONTROLLER_READ_DONE
  | .CONTROLLER_WRITE_BYTE => Sending

variable {t : Transfer}

theorem Fresh.taking (h : Fresh t) (i2c : Bool) : Taking i2c t where
  received := by rw [h.received]; exact Nat.zero_le _
  size := h.size
  expected := h.expected
  assign := fun _ _ => by rw [h.received]; exact Nat.zero_le _

theorem Fresh.sending (h : Fresh t) : Sending t where
  received := by rw [h.received]; exact Nat.zero_le _
  left := by rw [h.sent, Nat.zero_add]; exact h.size
  next := by rw [h.sent]; decide
  expected := h.expected

theorem Fresh.ending (h : Fresh t) : Ending t where
  received := by rw [h.received]; exact Nat.zero_le _
  size := h.size
  expected := h.expected

theorem Taking.ending {i2c : Bool} {t : Transfer} (h : Taking i2c t) : Ending t :=
  ⟨h.received, h.size, h.expected⟩

theorem Sending.ending (h : Sending t) : Ending t :=
  ⟨h.received, (Nat.le_add_left _ _).trans h.left, h.expected⟩

theorem band_next {i2c : Bool} {st : State} {e : Event} {t : Transfer} (h : band i2c st t) :
    ∀ st' ∈ nextStates st e, band i2c st' t := by
  cases st with
  | INITIAL | AWAITING_COMMAND_BYTE =>
    have hfresh : Fresh t := h
    intro st' _
    cases st' <;> first | exact hfresh | exact hfresh.taking i2c | exact hfresh.sending |
      exact hfresh.ending
  | AWAITING_DONE => exact fun st' hst' => absurd hst' List.not_mem_nil
  | AWAITING_BLOCK_SIZE | AWAITING_DATA | AWAITING_READ | READY_TO_SEND_BYTE
  | CHECK_IF_PEC_REQUIRED =>
    have htaking : Taking i2c t := h
    intro st' hst'
    simp only [nextStates, targetStates, List.mem_cons, List.not_mem_nil, or_false] at hst'
    rcases hst' with rfl | rfl | rfl | rfl | rfl | rfl <;>
      first | exact htaking | exact htaking.ending
  | _ =>
    have hsending : Sending t := h
    intro st' hst'
    simp only [nextStates, controllerStates, List.mem_cons, List.not_mem_nil, or_false] at hst'
    rcases hst' with rfl | rfl | rfl | rfl | rfl | rfl | rfl | rfl <;>
      first | exact hsending | exact hsending.ending

/-- What every phase gives the handlers. -/
class Phase (P : Transfer → Prop) : Prop where
  of_cursor : ∀ {t t' : Transfer}, t'.cursor = t.cursor → P t → P t'
  received : ∀ {t}, P t → t.usReceiveIndex ≤ DATA_SIZE_MAX
  expected : ∀ {t}, P t → t.usExpectedByteCount ≤ DATA_SIZE_MAX
  expect : ∀ {t : Transfer} (size part : ℕ), size ≤ DATA_SIZE_MAX → P t →
    P { t with usExpectedByteCount := size, ucExpectedByteCountPart := part }
  reset : ∀ t : Transfer, P t.reset

/-- A phase in which the application may give data to send. -/
class Filling (P : Transfer → Prop) : Prop where
  size : ∀ {t}, P t → t.usSendDataSize ≤ DATA_SIZE_MAX
  fill : ∀ {t : Transfer} (data : ℕ → ℕ) (size : ℕ), size ≤ DATA_SIZE_MAX → P t →
    P { t with ucSendData := data, usSendDataSize := size }

theorem fresh_reset (t : Transfer) : Fresh t.reset :=
  ⟨rfl, rfl, Nat.zero_le _, Nat.zero_le _⟩

instance : Phase Fresh where
  of_cursor := fun h ht => by
    simp only [Transfer.cursor, Prod.mk.injEq] at h
    obtain ⟨-, hsize, hsent, hreceived, hexpected⟩ := h
    exact ⟨hreceived.trans ht.received, hsent.trans ht.sent, hsize.le.trans ht.size,
      hexpected.le.trans ht.expected⟩
  received := fun h => (h.taking true).received
  expected := fun h => h.expected
  expect := fun _ _ hsize h => ⟨h.received, h.sent, h.size, hsize⟩
  reset := fresh_reset

instance (i2c : Bool) : Phase (Taking i2c) where
  of_cursor := fun h ht => by
    simp only [Transfer.cursor, Prod.mk.injEq] at h
    obtain ⟨hprotocol, hsize, -, hreceived, hexpected⟩ := h
    exact ⟨hreceived.le.trans ht.received, hsize.le.trans ht.size, hexpected.le.trans ht.expected,
      fun hp hi => hreceived.le.trans (ht.assign (hprotocol ▸ hp) hi)⟩
  received := fun h => h.received
  expected := fun h => h.expected
  expect := fun _ _ hsize h => ⟨h.received, h.size, hsize, h.assign⟩
  reset := fun t => (fresh_reset t).taking i2c

instance : Phase Sending where
  of_cursor := fun h ht => by
    simp only [Transfer.cursor, Prod.mk.injEq] at h
    obtain ⟨-, hsize, hsent, hreceived, hexpected⟩ := h
    exact ⟨hreceived.le.trans ht.received, by rw [hsent, hsize]; exact ht.left,
      hsent ▸ ht.next, hexpected.le.trans ht.expected⟩
  received := fun h => h.received
  expected := fun h => h.expected
  expect := fun _ _ hsize h => ⟨h.received, h.left, h.next, hsize⟩
  reset := fun t => (fresh_reset t).sending

instance : Phase Ending where
  of_cursor := fun h ht => by
    simp only [Transfer.cursor, Prod.mk.injEq] at h
    obtain ⟨-, hsize, -, hreceived, hexpected⟩ := h
    exact ⟨hreceived.le.trans ht.received, hsize.le.trans ht.size, hexpected.le.trans ht.expected⟩
  received := fun h => h.received
  expected := fun h => h.expected
  expect := fun _ _ hsize h => ⟨h.received, h.size, hsize⟩
  reset := fun t => (fresh_reset t).ending

instance : Filling Fresh where
  size := fun h => h.size
  fill := fun _ _ hsize h => ⟨h.received, h.sent, hsize, h.expected⟩

instance (i2c : Bool) : Filling (Taking i2c) where
  size := fun h => h.size
  fill := fun _ _ hsize h => ⟨h.received, hsize, h.expected, h.assign⟩

/-! ### Parts of handlers that keep a phase -/

/-- No access to a data buffer was outside it. -/
def Safe (s : Profile) : Prop := .receivedData ∉ s.faults ∧ .sendData ∉ s.faults

/-- The transfer of the instance is in a phase, and no access was outside a buffer. -/
def Fits (n : ℕ) (P : Transfer → Prop) (s : Profile) : Prop := P (s.xTransfer n) ∧ Safe s

/-- The cursor of the transfer stays, and nothing is accessed. -/
abbrev Steady (n : ℕ) : Profile → Profile → Prop :=
  Same fun s => ((s.xTransfer n).cursor, s.faults)

instance (n : ℕ) : Ambient (Steady n) where
  reads := fun _ => ⟨fun _ => rfl⟩
  writes := fun _ => ⟨fun _ => rfl⟩
  calls := fun _ => ⟨fun _ => rfl⟩
  notes := fun _ => ⟨fun _ => rfl⟩
  strikes := fun _ => ⟨fun _ => rfl⟩

instance (n : ℕ) : Quiet n (Steady n) where
  offCursor := fun f hf => ⟨fun s => by simp [Same, setTransfer, hf]⟩

instance (n : ℕ) : Telling (Steady n) where
  announces := fun _ => ⟨fun _ => rfl⟩
  configures := fun _ _ => ⟨fun _ => rfl⟩
  enables := fun i v => ⟨fun s => by
    simp only [vSMBusHWWriteTgtControlEnable, exec_modify, Same]
    split <;> rfl⟩
  addresses := fun i v => ⟨fun s => by
    simp only [vSMBusHWWriteTgtControlAddress, exec_modify, Same]
    split <;> rfl⟩

instance (n : ℕ) : Moving n (Steady n) where
  decodes := fun _ => ⟨fun _ => rfl⟩
  queues := fun e => ⟨fun s => by
    rw [vSMBusCreateEvent_effect]
    rfl⟩

/-- A size that fits a data buffer, found by instance search. -/
class Small (k : ℕ) : Prop where
  /-- The size fits. -/
  le : k ≤ DATA_SIZE_MAX

instance : Small 0 := ⟨by decide⟩

instance : Small 1 := ⟨by decide⟩

instance : Small 2 := ⟨by decide⟩

instance (p : Protocol) : Small (readSize p) := ⟨by cases p <;> decide⟩

instance (p : Protocol) : Small ((writeSize p).getD 0) := ⟨by cases p <;> decide⟩

section Keeps

variable {n : ℕ} {P : Transfer → Prop}

instance (priority := low) {α : Type} [Phase P] (m : Routine α) [h : Within (Steady n) m] :
    Within (Keeps (Fits n P)) m := by
  refine ⟨fun s hs => ?_⟩
  have hsteady := h.rel s
  simp only [Same, Prod.mk.injEq] at hsteady
  refine ⟨Phase.of_cursor hsteady.1 hs.1, ?_⟩
  rw [Safe, hsteady.2]
  exact hs.2

theorem keeps_setTransfer {f : Transfer → Transfer} (hf : ∀ t, P t → P (f t)) :
    Within (Keeps (Fits n P)) (setTransfer n f) :=
  ⟨fun s hs => ⟨by simpa [setTransfer] using hf _ hs.1, hs.2⟩⟩

variable [hP : Phase P]

instance (k : ℕ) [hk : Small k] : Within (Keeps (Fits n P)) (vExpect n k) :=
  keeps_setTransfer fun _ ht => hP.expect k k hk.le ht

instance : Within (Keeps (Fits n P)) (setTransfer n Transfer.reset) :=
  keeps_setTransfer fun t _ => hP.reset t

instance : Within (Keeps (Fits n P)) (vResetToInitial n) := by
  have hplay : Within (Steady n)
      (modify fun s => { s with ucInstanceInPlay := INVALID_INSTANCE }) := ⟨fun _ => rfl⟩
  have hactive : Within (Steady n)
      (modify fun s => { s with ucActiveTargetInstance := INVALID_INSTANCE }) := ⟨fun _ => rfl⟩
  unfold vResetToInitial vSMBusHandleActionResetAllData
  infer_instance

instance (e : Event) : Within (Keeps (Fits n P)) (vOtherEvent n e) := by
  unfold vOtherEvent; infer_instance

instance (i : ℕ) : Within (Keeps (Fits n P)) (vSMBusHandleActionWriteDataToApplication n i) := by
  refine ⟨fun s hs => ?_⟩
  have hguard : ¬ DATA_SIZE_MAX < (s.xTransfer n).usExpectedByteCount :=
    not_lt.mpr (hP.expected hs.1)
  rw [vSMBusHandleActionWriteDataToApplication, exec_config_bind, exec_ite]
  split
  · rw [exec_get_bind, exec_transfer_bind, if_neg hguard]
    exact hs
  · exact hs

instance : Within (Keeps (Fits n P)) (vSMBusHandleActionWriteI2CDataToApplication n) := by
  refine ⟨fun s hs => ?_⟩
  have hguard : ¬ DATA_SIZE_MAX < (s.xTransfer n).usReceiveIndex :=
    not_lt.mpr (hP.received hs.1)
  rw [vSMBusHandleActionWriteI2CDataToApplication, exec_config_bind, exec_ite]
  split
  · rw [exec_transfer_bind, if_neg hguard]
    exact hs
  · exact hs

instance : Within (Keeps (Fits n P)) (vWriteData n) := by unfold vWriteData; infer_instance

instance : Within (Keeps (Fits n P)) (vPassI2CData n) := by unfold vPassI2CData; infer_instance

instance (p : Protocol) : Within (Keeps (Fits n P)) (vApplyARP n p) := inferInstance

instance (t : Transfer) : Within (Keeps (Fits n P)) (vTargetDone n t) := by
  unfold vTargetDone; infer_instance

instance (p : Protocol) : Within (Keeps (Fits n P)) (vControllerDone n p) := by
  unfold vControllerDone; infer_instance

instance (p : Protocol) : Within (Keeps (Fits n P)) (vReadDone n p) := by
  unfold vReadDone; infer_instance

end Keeps

section Filling

variable {n : ℕ} {P : Transfer → Prop} [hP : Phase P] [hfill : Filling P]

instance : Within (Keeps (Fits n P)) (vSMBusHandleActionGetI2CDataFromApplication n) := by
  refine ⟨fun s hs => ?_⟩
  rw [vSMBusHandleActionGetI2CDataFromApplication, exec_config_bind, exec_ite]
  split
  · rw [exec_bind, exec_get_bind, exec_ite]
    split
    case isTrue h =>
      refine (keeps_setTransfer (n := n) fun t ht => ?_).rel _ hs
      exact hfill.fill _ _ h ht
    case isFalse => exact hs
  · exact hs

theorem sendSize_le (p : Protocol) {size : ℕ} (h : size ≤ DATA_SIZE_MAX) :
    sendSize p size ≤ DATA_SIZE_MAX := by
  unfold sendSize
  split_ifs <;> first | decide | exact h

instance : Within (Keeps (Fits n P)) (vSMBusHandleActionGetDataFromApplication n) := by
  refine ⟨fun s hs => ?_⟩
  rw [vSMBusHandleActionGetDataFromApplication, exec_config_bind, exec_ite]
  split
  · rw [exec_transfer_bind, exec_bind, exec_get_bind, exec_ite]
    split
    case isTrue h =>
      refine (keeps_setTransfer (n := n) fun t ht => ?_).rel _ hs
      exact hfill.fill _ _ (sendSize_le _ h) ht
    case isFalse => exact hs
  · exact hs

end Filling

/-! ### Sending bytes -/

theorem ucNextSendByte_safe {n : ℕ} {s : Profile}
    (h : (s.xTransfer n).usSendIndex < DATA_SIZE_MAX) : exec (ucNextSendByte n) s = s := by
  rw [ucNextSendByte, exec_transfer_bind, if_neg (not_le.mpr h)]
  rfl

instance (n : ℕ) (i2c : Bool) : Within (Keeps (Fits n (Taking i2c))) (vFillRead n) := by
  have hsent : Within (Keeps (Fits n (Taking i2c)))
      (setTransfer n fun t => { t with usSendIndex := inc16 t.usSendIndex }) :=
    keeps_setTransfer fun _ ht => ⟨ht.received, ht.size, ht.expected, ht.assign⟩
  unfold vFillRead
  refine @Within.bind _ _ _ _ _ _ _ inferInstance fun k => ?_
  refine @Within.forBreak _ _ _ _ _ ⟨fun s hs => ?_⟩ _
  rw [exec_transfer_bind, exec_ite]
  split
  case isTrue h =>
    rw [exec_bind, ucNextSendByte_safe (h.trans_le hs.1.size)]
    exact Within.rel (R := Keeps (Fits n (Taking i2c))) s hs
  case isFalse => exact hs

/-- A controller transfer whose bytes may all be sent. -/
structure Spending (t : Transfer) : Prop where
  received : t.usReceiveIndex ≤ DATA_SIZE_MAX
  left : t.usSendIndex + t.usSendDataSize ≤ DATA_SIZE_MAX
  expected : t.usExpectedByteCount ≤ DATA_SIZE_MAX

theorem Sending.spending (h : Sending t) : Spending t :=
  ⟨h.received, h.left, h.expected⟩

theorem Spending.ending (h : Spending t) : Ending t :=
  ⟨h.received, (Nat.le_add_left _ _).trans h.left, h.expected⟩

instance : Phase Spending where
  of_cursor := fun h ht => by
    simp only [Transfer.cursor, Prod.mk.injEq] at h
    obtain ⟨-, hsize, hsent, hreceived, hexpected⟩ := h
    exact ⟨hreceived.le.trans ht.received, by rw [hsent, hsize]; exact ht.left,
      hexpected.le.trans ht.expected⟩
  received := fun h => h.received
  expected := fun h => h.expected
  expect := fun _ _ hsize h => ⟨h.received, h.left, hsize⟩
  reset := fun t => (fresh_reset t).sending.spending

theorem Spending.sent (h : Spending t) (hsize : 0 < t.usSendDataSize) :
    Spending { t with
      usSendIndex := inc16 t.usSendIndex
      usSendDataSize := t.usSendDataSize - 1 } := by
  have hleft := h.left
  refine ⟨h.received, ?_, h.expected⟩
  simp only [inc16_eq (show t.usSendIndex ≤ DATA_SIZE_MAX by omega)]
  omega

theorem Sending.sent (h : Sending t) (hsize : 1 < t.usSendDataSize) :
    Sending { t with
      usSendIndex := inc16 t.usSendIndex
      usSendDataSize := t.usSendDataSize - 1 } := by
  have hleft := h.left
  have hspent := h.spending.sent (by omega)
  refine ⟨h.received, hspent.left, ?_, h.expected⟩
  simp only [inc16_eq (show t.usSendIndex ≤ DATA_SIZE_MAX by omega)]
  omega

section Bytes

variable (n : ℕ)

theorem sendByte_fits {P : Transfer → Prop} [hP : Phase P] {s : Profile} (hs : Fits n P s)
    (hnext : (s.xTransfer n).usSendIndex < DATA_SIZE_MAX)
    (hsent : ∀ t : Transfer, t.cursor = (s.xTransfer n).cursor →
      P { t with usSendIndex := inc16 t.usSendIndex, usSendDataSize := t.usSendDataSize - 1 }) :
    Fits n P (exec (do
      let b ← ucNextSendByte n
      let ok ← ucSMBusControllerWriteDescriptorByte b true
      if ok = true then do
        vByteSent n
        pure true
      else pure false) s) := by
  rw [exec_bind, ucNextSendByte_safe hnext, exec_bind]
  generalize value (ucNextSendByte n) s = b
  have hsteady := same (fun s => ((s.xTransfer n).cursor, s.faults))
    (ucSMBusControllerWriteDescriptorByte b true) s
  simp only [Prod.mk.injEq] at hsteady
  have hsafe : Safe (exec (ucSMBusControllerWriteDescriptorByte b true) s) := by
    rw [Safe, hsteady.2]
    exact hs.2
  rw [exec_ite]
  split
  · refine ⟨?_, hsafe⟩
    have hbyte := hsent _ hsteady.1
    simpa only [exec_bind, exec_pure, vByteSent, setTransfer, exec_modify,
      Function.update_self] using hbyte
  · exact ⟨hP.of_cursor hsteady.1 hs.1, hsafe⟩

instance : Within (Keeps (Fits n Sending)) (ucNextSendByte n) :=
  ⟨fun s hs => by rwa [ucNextSendByte_safe hs.1.next]⟩

instance : Within (Keeps (Fits n Sending)) (vFillWrite n) := by
  unfold vFillWrite
  refine @Within.bind _ _ _ _ _ _ _ inferInstance fun k => ?_
  refine @Within.forBreak _ _ _ _ _ ⟨fun s hs => ?_⟩ _
  rw [exec_transfer_bind, exec_ite]
  split
  case isTrue h =>
    refine sendByte_fits n hs hs.1.next fun t ht => ?_
    have hsize : t.usSendDataSize = (s.xTransfer n).usSendDataSize :=
      congrArg (fun c => c.2.1) ht
    exact (Phase.of_cursor ht hs.1 : Sending t).sent (hsize ▸ h)
  case isFalse => exact hs

instance (t : Transfer) : Within (Keeps (Fits n Sending)) (vWriteLast n t) := by
  unfold vWriteLast; infer_instance

instance : Within (Keeps (Fits n Spending)) (vFillAssign n) := by
  unfold vFillAssign
  refine @Within.bind _ _ _ _ _ _ _ inferInstance fun k => ?_
  refine @Within.forBreak _ _ _ _ _ ⟨fun s hs => ?_⟩ _
  rw [exec_transfer_bind, exec_ite]
  split
  case isTrue h =>
    have hleft := hs.1.left
    refine sendByte_fits n hs (by omega) fun t ht => ?_
    have hsize : t.usSendDataSize = (s.xTransfer n).usSendDataSize :=
      congrArg (fun c => c.2.1) ht
    exact (Phase.of_cursor ht hs.1 : Spending t).sent (hsize ▸ h)
  case isFalse => exact hs

end Bytes

/-! ### Receiving bytes -/

/-- A phase in which bytes are stored. -/
class Storing (P : Transfer → Prop) : Prop extends Phase P where
  store : ∀ {t : Transfer} (data : ℕ → ℕ) (index : ℕ), index ≤ DATA_SIZE_MAX → P t →
    P { t with ucReceivedData := data, usReceiveIndex := index }

instance : Storing Sending where
  store := fun _ _ hindex h => ⟨hindex, h.left, h.next, h.expected⟩

instance : Storing Ending where
  store := fun _ _ hindex h => ⟨hindex, h.size, h.expected⟩

/-- The end of a transfer or the data of a write, but no address assignment. -/
structure Gathering (t : Transfer) : Prop extends Ending t where
  other : t.xProtocol ≠ .ARP_ASSIGN_ADDRESS

theorem Gathering.taking (h : Gathering t) (i2c : Bool) : Taking i2c t :=
  ⟨h.received, h.size, h.expected, fun hp => absurd hp h.other⟩

instance : Storing Gathering where
  of_cursor := fun h ht =>
    ⟨Phase.of_cursor h ht.toEnding, fun hp => ht.other ((congrArg Prod.fst h).symm.trans hp)⟩
  received := fun h => h.received
  expected := fun h => h.expected
  expect := fun _ _ hsize h => ⟨⟨h.received, h.size, hsize⟩, h.other⟩
  reset := fun t => ⟨(fresh_reset t).ending, by simp [Transfer.reset]⟩
  store := fun _ _ hindex h => ⟨⟨hindex, h.size, h.expected⟩, h.other⟩

/-- The number of bytes that the loop over a FIFO takes from the registers it reads: each byte is
preceded by a status that says whether there is one. -/
def pendingBytes : List ℕ → ℕ
  | [] => 0
  | [status] => if status % 2 = 1 then 0 else 1
  | status :: _ :: registers => if status % 2 = 1 then 0 else 1 + pendingBytes registers

section Receive

variable {n : ℕ} {P : Transfer → Prop} [hP : Storing P]

theorem receiveByte_fits (payload : Routine ℕ) [Within (Steady n) payload] {s : Profile}
    (hs : Fits n P s) (hroom : (s.xTransfer n).usReceiveIndex < DATA_SIZE_MAX) :
    Fits n P (exec (vReceiveByte n payload) s) ∧
      ((exec (vReceiveByte n payload) s).xTransfer n).usReceiveIndex =
        (s.xTransfer n).usReceiveIndex + 1 ∧
      (exec (vReceiveByte n payload) s).registers = (exec payload s).registers := by
  have hsteady := same (fun s => ((s.xTransfer n).cursor, s.faults)) payload s
  simp only [Prod.mk.injEq] at hsteady
  obtain ⟨hcursor, hfaults⟩ := hsteady
  have hindex : ((exec payload s).xTransfer n).usReceiveIndex = (s.xTransfer n).usReceiveIndex :=
    congrArg (fun c => c.2.2.2.1) hcursor
  have hguard : ¬ DATA_SIZE_MAX ≤ ((exec payload s).xTransfer n).usReceiveIndex := by
    rw [hindex]
    exact not_le.mpr hroom
  have hinc : inc16 (s.xTransfer n).usReceiveIndex = (s.xTransfer n).usReceiveIndex + 1 :=
    inc16_eq hroom.le
  rw [vReceiveByte, exec_bind, exec_transfer_bind, if_neg hguard, exec_bind, exec_pure]
  simp only [setTransfer, exec_modify, Function.update_self, Fits, hindex, hinc]
  refine ⟨⟨hP.store _ _ hroom (hP.of_cursor hcursor hs.1), ?_⟩, trivial, trivial⟩
  rw [Safe, hfaults]
  exact hs.2

theorem times_receive_fits {payload : Routine ℕ} [Within (Steady n) payload] (k : ℕ) :
    ∀ s : Profile, Fits n P s → (s.xTransfer n).usReceiveIndex + k ≤ DATA_SIZE_MAX →
      Fits n P (exec (times (vReceiveByte n payload) k) s) := by
  induction k with
  | zero => exact fun s hs _ => hs
  | succ k ih =>
    intro s hs hroom
    obtain ⟨hbyte, hindex, -⟩ := receiveByte_fits payload hs (by omega)
    rw [times, exec_bind]
    exact ih _ hbyte (by omega)

theorem receiveFill_fits {s : Profile} (hs : Fits n P s)
    (hroom : (s.xTransfer n).usReceiveIndex + s.registers.headD 0 % 2 ^ 7 ≤ DATA_SIZE_MAX) :
    Fits n P (exec (vReceiveFill n) s) := by
  have hread : Fits n P (exec ulSMBusHWReadTgtRxFifoStatusFillLevel s) :=
    Within.rel (R := Keeps (Fits n P)) s hs
  rw [vReceiveFill, exec_bind]
  exact times_receive_fits _ _ hread hroom

theorem pendingBytes_of_byte {registers : List ℕ} (h : registers.headD 1 % 2 ≠ 1) :
    pendingBytes registers = 1 + pendingBytes registers.tail.tail := by
  match registers, h with
  | [], h => exact absurd rfl h
  | [status], h => simp [pendingBytes, show status % 2 = 0 by simpa using h]
  | status :: _ :: registers, h =>
    simp [pendingBytes, show status % 2 = 0 by simpa using h]

theorem receiveAll_fits {s : Profile} (hs : Fits n P s)
    (hroom : (s.xTransfer n).usReceiveIndex + pendingBytes s.registers ≤ DATA_SIZE_MAX) :
    Fits n P (exec (vReceiveAll n) s) := by
  rw [vReceiveAll, whileNotEmpty, exec_get_bind]
  generalize s.registers.length + 1 = k
  induction k generalizing s with
  | zero => exact hs
  | succ k ih =>
    have hread : Fits n P (exec ulSMBusHWReadCtrlRxFifoStatusEmpty s) :=
      Within.rel (R := Keeps (Fits n P)) s hs
    rw [forBreak, exec_bind, exec_bind, value_bind]
    by_cases h : s.registers.headD 1 % 2 = 1
    · have hempty : value ulSMBusHWReadCtrlRxFifoStatusEmpty s = true := decide_eq_true h
      rw [hempty]
      exact hread
    · have hempty : value ulSMBusHWReadCtrlRxFifoStatusEmpty s = false := decide_eq_false h
      have hpending := pendingBytes_of_byte h
      obtain ⟨hbyte, hindex, hregisters⟩ := receiveByte_fits
        ulSMBusHWReadCtrlRxFifoPayload hread
        (show (s.xTransfer n).usReceiveIndex < DATA_SIZE_MAX by omega)
      rw [hempty]
      refine ih hbyte (le_of_eq_of_le (congrArg₂ (· + ·) hindex
        (congrArg pendingBytes hregisters)) ?_)
      change (s.xTransfer n).usReceiveIndex + 1 + pendingBytes s.registers.tail.tail ≤ _
      omega

end Receive

/-! ### Address assignment -/

/-- The transfer of an address assignment. -/
structure Assigning (t : Transfer) : Prop where
  received : t.usReceiveIndex ≤ UDID_ASSIGNED_ADDRESS_BYTE
  size : t.usSendDataSize ≤ DATA_SIZE_MAX
  expected : t.usExpectedByteCount ≤ DATA_SIZE_MAX

theorem Assigning.index (h : Assigning t) : t.usReceiveIndex < DATA_SIZE_MAX :=
  h.received.trans_lt (by decide)

theorem Assigning.taking (h : Assigning t) (i2c : Bool) : Taking i2c t :=
  ⟨h.index.le, h.size, h.expected, fun _ _ => h.received⟩

theorem Assigning.of_cursor {t t' : Transfer} (h : t'.cursor = t.cursor) (ht : Assigning t) :
    Assigning t' := by
  simp only [Transfer.cursor, Prod.mk.injEq] at h
  obtain ⟨-, hsize, -, hreceived, hexpected⟩ := h
  exact ⟨hreceived.le.trans ht.received, hsize.le.trans ht.size, hexpected.le.trans ht.expected⟩

section Assign

variable {n : ℕ}

theorem assigned_next {s m : Profile} (hs : Fits n Assigning s) (h : Steady n s m)
    (hindex : (s.xTransfer n).usReceiveIndex < UDID_ASSIGNED_ADDRESS_BYTE) :
    Fits n Assigning (exec (setTransfer n fun t =>
      { t with usReceiveIndex := inc16 t.usReceiveIndex }) m) := by
  simp only [Steady, Same, Prod.mk.injEq] at h
  obtain ⟨hcursor, hfaults⟩ := h
  have hreceived : (m.xTransfer n).usReceiveIndex = (s.xTransfer n).usReceiveIndex :=
    congrArg (fun c => c.2.2.2.1) hcursor
  have hm : Assigning (m.xTransfer n) := hs.1.of_cursor hcursor
  have hinc : inc16 (m.xTransfer n).usReceiveIndex = (m.xTransfer n).usReceiveIndex + 1 :=
    inc16_eq hm.index.le
  refine ⟨?_, ?_⟩
  · simp only [setTransfer, exec_modify, Function.update_self]
    refine ⟨?_, hm.size, hm.expected⟩
    rw [hinc, hreceived]
    exact hindex
  · change _ ∉ m.faults ∧ _ ∉ m.faults
    rw [hfaults]
    exact hs.2

theorem assignAddressByte_fits {s : Profile} (hs : Fits n Assigning s) :
    Fits n Assigning (exec (vAssignAddressByte n) s) := by
  have hread : Steady n s (exec ulSMBusHWReadTgtRxFifoPayload s) := Within.rel s
  generalize hm : exec ulSMBusHWReadTgtRxFifoPayload s = m at hread
  have hcursor := hread
  simp only [Steady, Same, Prod.mk.injEq] at hcursor
  have hreceived : (m.xTransfer n).usReceiveIndex = (s.xTransfer n).usReceiveIndex :=
    congrArg (fun c => c.2.2.2.1) hcursor.1
  have hindex := hs.1.index
  rw [vAssignAddressByte, exec_bind, hm, exec_transfer_bind, hreceived, if_neg (not_le.mpr hindex),
    exec_bind, exec_pure, exec_bind]
  generalize hstored : exec (setTransfer n _) m = m'
  have hsteady : Steady n s m' := by
    refine IsTrans.trans _ _ _ hread ?_
    rw [← hstored]
    exact Within.rel m
  have hlast : UDID_LENGTH < UDID_ASSIGNED_ADDRESS_BYTE := by decide
  rw [exec_ite]
  split
  case isTrue hudid =>
    rw [exec_bind, exec_bind]
    refine assigned_next hs (IsTrans.trans _ _ _ (IsTrans.trans _ _ _ hsteady (Within.rel _))
      (Within.rel _)) (hudid.trans hlast)
  case isFalse hudid =>
    rw [exec_ite]
    split
    case isTrue haddress =>
      rw [exec_bind, exec_bind]
      exact assigned_next hs (IsTrans.trans _ _ _ (IsTrans.trans _ _ _ hsteady (Within.rel _))
        (Within.rel _)) (haddress.trans_lt hlast)
    case isFalse =>
      have hdone := IsTrans.trans _ _ _ hsteady (Within.rel (m := (do
        let _ ← ucSMBusTargetWriteDescriptorPEC
        setTransfer n fun t => { t with ucPECSent := true }
        vSMBusNextStateDecoder n .AWAITING_DONE)) m')
      simp only [Same, Prod.mk.injEq] at hdone
      refine ⟨hs.1.of_cursor hdone.1, ?_⟩
      rw [Safe, hdone.2]
      exact hs.2

instance : Within (Keeps (Fits n Assigning)) (vAssignAddressByte n) :=
  ⟨fun _ hs => assignAddressByte_fits hs⟩

instance (priority := low) {α : Type} (m : Routine α) [h : Within (Steady n) m] :
    Within (Keeps (Fits n Assigning)) m := by
  refine ⟨fun s hs => ?_⟩
  have hsteady := h.rel s
  simp only [Same, Prod.mk.injEq] at hsteady
  refine ⟨hs.1.of_cursor hsteady.1, ?_⟩
  rw [Safe, hsteady.2]
  exact hs.2

end Assign

/-! ### The handlers -/

instance {R : Profile → Profile → Prop} [IsTrans Profile R] {β : Type}
    [Within R ulSMBusHWReadTgtRxFifoPayload] (f : ℕ → Routine β)
    [hf : ∀ b, Within R (f (b % 2 ^ 8))] : Within R (ulSMBusHWReadTgtRxFifoPayload >>= f) := by
  refine ⟨fun s => ?_⟩
  have hread : R s (exec ulSMBusHWReadTgtRxFifoPayload s) := Within.rel s
  exact IsTrans.trans _ _ _ hread ((hf (s.registers.headD 0)).rel _)

instance {R : Profile → Profile → Prop} [IsTrans Profile R] {β : Type}
    [Within R ulSMBusHWReadCtrlRxFifoPayload] (f : ℕ → Routine β)
    [hf : ∀ b, Within R (f (b % 2 ^ 8))] : Within R (ulSMBusHWReadCtrlRxFifoPayload >>= f) := by
  refine ⟨fun s => ?_⟩
  have hread : R s (exec ulSMBusHWReadCtrlRxFifoPayload s) := Within.rel s
  exact IsTrans.trans _ _ _ hread ((hf (s.registers.headD 0)).rel _)

section Handlers

variable (n : ℕ)

instance (p : Protocol) : Within (Keeps (Fits n Fresh)) (vStartCommand n p) := by
  unfold vStartCommand; infer_instance

instance (e : Event) : Within (Keeps (Fits n Fresh)) (vStateInitial n e) := by
  have hprotocol : ∀ p : Protocol,
      Within (Keeps (Fits n Fresh)) (setTransfer n fun t => { t with xProtocol := p }) :=
    fun p => keeps_setTransfer fun _ ht => ⟨ht.received, ht.sent, ht.size, ht.expected⟩
  unfold vStateInitial
  split <;> infer_instance

instance : Within (Keeps (Fits n Fresh)) (setTransfer n fun t =>
    { t with usSendDataSize := GET_UDID_MSG_LENGTH }) :=
  have hsize : GET_UDID_MSG_LENGTH ≤ DATA_SIZE_MAX := by decide
  keeps_setTransfer fun _ ht => ⟨ht.received, ht.sent, hsize, ht.expected⟩

instance (p : Protocol) : Within (Keeps (Fits n Fresh)) (vARPCommand n p) := by
  have hreset : Within (Keeps (Fits n Fresh)) (vARPReset n p) := by
    unfold vARPReset; infer_instance
  have hdirected : Within (Keeps (Fits n Fresh)) (vARPGetUDIDDirected n) := by
    unfold vARPGetUDIDDirected; infer_instance
  have hgeneral : Within (Keeps (Fits n Fresh)) (vARPGetUDID n) := by
    have hlist : Within (Keeps (Fits n Fresh)) (fault .udidList) := ⟨fun s hs => by
      simpa [Fits, Safe, fault] using hs⟩
    unfold vARPGetUDID; infer_instance
  unfold vARPCommand
  infer_instance

instance (p : Protocol) : Within (Keeps (Fits n Fresh)) (vCommand n p) := by
  unfold vCommand; infer_instance

instance (e : Event) : Within (Keeps (Fits n Fresh)) (vStateAwaitingCommandByte n e) := by
  have hnotify : ∀ b : ℕ, Within (Keeps (Fits n Fresh)) (setTransfer n fun t =>
      { t with xProtocol := .HOST_NOTIFY, ucCommand := b, ucSMBusSenderAddr := b }) :=
    fun b => keeps_setTransfer fun _ ht => ⟨ht.received, ht.sent, ht.size, ht.expected⟩
  have hprotocol : ∀ (b : ℕ) (p : Protocol), Within (Keeps (Fits n Fresh)) (setTransfer n fun t =>
      { t with ucCommand := b, xProtocol := p }) :=
    fun b p => keeps_setTransfer fun _ ht => ⟨ht.received, ht.sent, ht.size, ht.expected⟩
  have harp : ∀ b : ℕ, Within (Keeps (Fits n Fresh)) (setTransfer n fun t =>
      { t with xProtocol := (arpProtocol b).getD t.xProtocol }) :=
    fun b => keeps_setTransfer fun _ ht => ⟨ht.received, ht.sent, ht.size, ht.expected⟩
  have hget : Within (Keeps (Fits n Fresh)) (vSMBusHandleActionGetProtocol n) := by
    unfold vSMBusHandleActionGetProtocol; infer_instance
  have hgetArp : Within (Keeps (Fits n Fresh)) (ucSMBusHandleActionGetARPProtocol n) := by
    unfold ucSMBusHandleActionGetARPProtocol; infer_instance
  unfold vStateAwaitingCommandByte
  split <;> infer_instance

variable (i2c : Bool)

instance (e : Event) : Within (Keeps (Fits n (Taking i2c))) (vStateAwaitingBlockSize n e) := by
  have hsize : ∀ b part : ℕ, Within (Keeps (Fits n (Taking i2c))) (setTransfer n fun t =>
      { t with
        usExpectedByteCount := b % 2 ^ 8
        usReceiveIndex := 0
        ucExpectedByteCountPart := part }) :=
    fun b part => keeps_setTransfer fun _ ht =>
      ⟨Nat.zero_le _, ht.size, (Nat.mod_lt b (by decide)).le, fun _ _ => Nat.zero_le _⟩
  simp only [vStateAwaitingBlockSize]
  split <;> infer_instance

instance (e : Event) : Within (Keeps (Fits n (Taking i2c))) (vStateAwaitingRead n e) := by
  unfold vStateAwaitingRead
  split <;> infer_instance

instance (e : Event) : Within (Keeps (Fits n (Taking i2c))) (vStateReadyToSendByte n e) := by
  unfold vStateReadyToSendByte
  split <;> infer_instance

instance (e : Event) : Within (Keeps (Fits n (Taking i2c))) (vStateCheckIfPECRequired n e) := by
  unfold vStateCheckIfPECRequired
  split <;> infer_instance

variable {e : Event}

theorem awaitingData_keeps (he : e ≠ .TARGET_DATA_IRQ) :
    Within (Keeps (Fits n (Taking i2c))) (vStateAwaitingData n e) := by
  unfold vStateAwaitingData
  split
  case h_4 => exact absurd rfl he
  all_goals infer_instance

theorem awaitingDone_keeps (he : e ≠ .TARGET_DATA_IRQ) :
    Within (Keeps (Fits n Ending)) (vStateAwaitingDone n e) := by
  unfold vStateAwaitingDone
  split
  case h_5 => exact absurd rfl he
  all_goals infer_instance

instance (e : Event) : Within (Keeps (Fits n Sending)) (vStateControllerSendCommand n e) := by
  unfold vStateControllerSendCommand
  split <;> infer_instance

instance (e : Event) : Within (Keeps (Fits n Sending)) (vStateControllerSendReadStart n e) := by
  unfold vStateControllerSendReadStart vReadFixed
  split <;> infer_instance

instance (e : Event) : Within (Keeps (Fits n Sending)) (vStateControllerReadBlockSize n e) := by
  have hsize : ∀ b : ℕ, Within (Keeps (Fits n Sending)) (setTransfer n fun t =>
      { t with usExpectedByteCount := b % 2 ^ 8, usDescriptorsSent := 0 }) :=
    fun b => keeps_setTransfer fun _ ht =>
      ⟨ht.received, ht.left, ht.next, (Nat.mod_lt b (by decide)).le⟩
  unfold vStateControllerReadBlockSize vBlockSize
  split <;> infer_instance

theorem controllerReadByte_keeps (he : e ≠ .CONTROLLER_DATA_IRQ) :
    Within (Keeps (Fits n Sending)) (vStateControllerReadByte n e) := by
  unfold vStateControllerReadByte
  split
  case h_3 => exact absurd rfl he
  all_goals infer_instance

instance (e : Event) : Within (Keeps (Fits n Sending)) (vStateControllerReadPEC n e) := by
  unfold vStateControllerReadPEC
  split <;> infer_instance

theorem controllerReadDone_keeps (he : e ≠ .CONTROLLER_DATA_IRQ) :
    Within (Keeps (Fits n Sending)) (vStateControllerReadDone n e) := by
  unfold vStateControllerReadDone
  split
  case h_1 => exact absurd rfl he
  all_goals infer_instance

theorem controllerWrite_fits {s : Profile} (hs : Fits n Sending s) :
    Fits n Sending (exec (vControllerWrite n) s) ∨
      Fits n Ending (exec (vControllerWrite n) s) ∧
        (exec (vControllerWrite n) s).xState n = .AWAITING_DONE := by
  rw [vControllerWrite, exec_transfer_bind, exec_ite]
  split
  · exact .inl (Within.rel (R := Keeps (Fits n Sending)) s hs)
  · rw [exec_ite]
    split
    · have hspent := Within.rel (R := Keeps (Fits n Spending)) (m := (do
        vFillAssign n
        let _ ← ucSMBusControllerWriteDescriptorPECWrite
        write .CtrlControlEnable
        vSMBusNextStateDecoder n .AWAITING_DONE)) s ⟨hs.1.spending, hs.2⟩
      have hstate := Within.rel (R := Lands n [.AWAITING_DONE]) (m := (do
        vFillAssign n
        let _ ← ucSMBusControllerWriteDescriptorPECWrite
        write .CtrlControlEnable
        vSMBusNextStateDecoder n .AWAITING_DONE)) s
      exact .inr ⟨⟨hspent.1.ending, hspent.2⟩, List.mem_singleton.mp hstate⟩
    · exact .inl (Within.rel (R := Keeps (Fits n Sending)) s hs)

/-- Data for a target write: as many bytes are stored as the fill level says, whatever they are
for, and those of an address assignment one by one. -/
theorem awaitingData_fits {s : Profile} (hi2c : (s.xConfig n).ulI2CDevice = i2c)
    (hs : Fits n (Taking i2c) s)
    (hroom : i2c = true ∨ (s.xTransfer n).xProtocol ∈ dataWrites →
      (s.xTransfer n).usReceiveIndex + s.registers.headD 0 % 2 ^ 7 ≤ DATA_SIZE_MAX) :
    Fits n (Taking i2c) (exec (vStateAwaitingData n .TARGET_DATA_IRQ) s) := by
  have hending : Fits n Ending s := ⟨hs.1.ending, hs.2⟩
  rw [vStateAwaitingData, exec_config_bind, exec_transfer_bind, hi2c, exec_ite]
  split
  case isTrue h =>
    obtain ⟨hfill, hsafe⟩ := receiveFill_fits hending (hroom (.inl h))
    refine ⟨⟨hfill.received, hfill.size, hfill.expected, fun _ hno => ?_⟩, hsafe⟩
    rw [h] at hno
    cases hno
  case isFalse h =>
    have hno : i2c = false := by simpa using h
    rw [exec_ite]
    split
    case isTrue hp =>
      have hassigning : Fits n Assigning s :=
        ⟨⟨hs.1.assign hp hno, hs.1.size, hs.1.expected⟩, hs.2⟩
      obtain ⟨hkeep, hsafe⟩ := Within.rel (R := Keeps (Fits n Assigning)) (m := (do
        let ucCurrentFill ← ulSMBusHWReadTgtRxFifoStatusFillLevel
        times (vAssignAddressByte n) ucCurrentFill)) s hassigning
      exact ⟨hkeep.taking i2c, hsafe⟩
    case isFalse hp =>
      rw [exec_ite]
      split
      case isTrue hdata =>
        have hgathering : Fits n Gathering s := ⟨⟨hs.1.ending, hp⟩, hs.2⟩
        obtain ⟨hfill, hsafe⟩ := receiveFill_fits hgathering (hroom (.inr hdata))
        have hprogress : Within (Keeps (Fits n (Taking i2c)))
            (vWriteProgress n (s.xTransfer n).xProtocol) := by
          simp only [vWriteProgress]
          infer_instance
        rw [exec_bind]
        exact hprogress.rel _ ⟨hfill.taking i2c, hsafe⟩
      case isFalse => exact hs

end Handlers

/-! ### Rounds -/

/-- The number of bytes that the handler of an event stores without a look at the index. -/
def Profile.drained (s : Profile) (n : ℕ) (e : Event) : ℕ :=
  match s.xState n, e with
  | .AWAITING_DATA, .TARGET_DATA_IRQ =>
    if (s.xConfig n).ulI2CDevice = true ∨ (s.xTransfer n).xProtocol ∈ dataWrites then
      s.registers.headD 0 % 2 ^ 7
    else 0
  | .AWAITING_DONE, .TARGET_DATA_IRQ =>
    if (s.xTransfer n).xProtocol ∈ targetWrites ++ arpProtocols then s.registers.headD 0 % 2 ^ 7
    else 0
  | .CONTROLLER_READ_BYTE, .CONTROLLER_DATA_IRQ =>
    if (s.xTransfer n).xProtocol ∈ controllerReads then pendingBytes s.registers else 0
  | .CONTROLLER_READ_DONE, .CONTROLLER_DATA_IRQ =>
    if (s.xTransfer n).xProtocol = .I2C_READ then pendingBytes s.registers else 0
  | _, _ => 0

/-- What a handler stores fits the buffer. -/
def Profile.hasRoom (s : Profile) (n : ℕ) (e : Event) : Prop :=
  (s.xTransfer n).usReceiveIndex + s.drained n e ≤ DATA_SIZE_MAX

theorem handler_fits {n : ℕ} {e : Event} {s : Profile}
    (hs : Fits n (band (s.xConfig n).ulI2CDevice (s.xState n)) s) (hroom : s.hasRoom n e) :
    Fits n (band (s.xConfig n).ulI2CDevice (s.xState n)) (exec (vSMBusFSM n e) s) ∨
      Fits n Ending (exec (vSMBusFSM n e) s) ∧
        (exec (vSMBusFSM n e) s).xState n = .AWAITING_DONE := by
  rw [vSMBusFSM, exec_get_bind]
  unfold Profile.hasRoom Profile.drained at hroom
  cases hst : s.xState n with
  | INITIAL =>
    rw [hst] at hs
    exact .inl (Within.rel (R := Keeps (Fits n Fresh)) (m := vStateInitial n e) s hs)
  | AWAITING_COMMAND_BYTE =>
    rw [hst] at hs
    exact .inl (Within.rel (R := Keeps (Fits n Fresh)) (m := vStateAwaitingCommandByte n e) s hs)
  | AWAITING_BLOCK_SIZE =>
    rw [hst] at hs
    exact .inl (Within.rel (R := Keeps (Fits n (Taking (s.xConfig n).ulI2CDevice)))
      (m := vStateAwaitingBlockSize n e) s hs)
  | AWAITING_READ =>
    rw [hst] at hs
    exact .inl (Within.rel (R := Keeps (Fits n (Taking (s.xConfig n).ulI2CDevice)))
      (m := vStateAwaitingRead n e) s hs)
  | READY_TO_SEND_BYTE =>
    rw [hst] at hs
    exact .inl (Within.rel (R := Keeps (Fits n (Taking (s.xConfig n).ulI2CDevice)))
      (m := vStateReadyToSendByte n e) s hs)
  | CHECK_IF_PEC_REQUIRED =>
    rw [hst] at hs
    exact .inl (Within.rel (R := Keeps (Fits n (Taking (s.xConfig n).ulI2CDevice)))
      (m := vStateCheckIfPECRequired n e) s hs)
  | AWAITING_DATA =>
    rw [hst] at hs hroom
    rcases eq_or_ne e .TARGET_DATA_IRQ with rfl | he
    · refine .inl (awaitingData_fits n _ rfl hs fun h => ?_)
      rwa [if_pos h] at hroom
    · exact .inl ((awaitingData_keeps n _ he).rel s hs)
  | AWAITING_DONE =>
    rw [hst] at hs hroom
    rcases eq_or_ne e .TARGET_DATA_IRQ with rfl | he
    · refine .inl ?_
      simp only [vStateAwaitingDone]
      rw [exec_transfer_bind, exec_ite]
      split
      case isTrue hp =>
        rw [if_pos hp] at hroom
        exact receiveFill_fits (P := Ending) hs hroom
      case isFalse => exact hs
    · exact .inl ((awaitingDone_keeps n he).rel s hs)
  | CONTROLLER_READ_BYTE =>
    rw [hst] at hs hroom
    rcases eq_or_ne e .CONTROLLER_DATA_IRQ with rfl | he
    · refine .inl ?_
      simp only [vStateControllerReadByte]
      rw [exec_transfer_bind, exec_ite]
      split
      case isTrue hp =>
        rw [if_pos hp] at hroom
        have hprogress : Within (Keeps (Fits n Sending)) (vReadProgress n) := by
          simp only [vReadProgress]
          infer_instance
        rw [exec_bind]
        exact hprogress.rel _ (receiveAll_fits (P := Sending) hs hroom)
      case isFalse => exact hs
    · exact .inl ((controllerReadByte_keeps n he).rel s hs)
  | CONTROLLER_READ_DONE =>
    rw [hst] at hs hroom
    rcases eq_or_ne e .CONTROLLER_DATA_IRQ with rfl | he
    · refine .inl ?_
      simp only [vStateControllerReadDone]
      rw [exec_transfer_bind, exec_ite]
      split
      case isTrue hp =>
        rw [if_pos hp] at hroom
        exact receiveAll_fits (P := Sending) hs hroom
      case isFalse => exact hs
    · exact .inl ((controllerReadDone_keeps n he).rel s hs)
  | CONTROLLER_WRITE_BYTE =>
    rw [hst] at hs
    simp only [vStateControllerWriteByte]
    split
    · exact controllerWrite_fits n hs
    · exact controllerWrite_fits n hs
    · exact .inl (Within.rel (R := Keeps (Fits n Sending)) (m := vOtherEvent n e) s hs)
  | CONTROLLER_SEND_COMMAND =>
    rw [hst] at hs
    exact .inl (Within.rel (R := Keeps (Fits n Sending)) (m := vStateControllerSendCommand n e)
      s hs)
  | CONTROLLER_SEND_READ_START =>
    rw [hst] at hs
    exact .inl (Within.rel (R := Keeps (Fits n Sending)) (m := vStateControllerSendReadStart n e)
      s hs)
  | CONTROLLER_READ_BLOCK_SIZE =>
    rw [hst] at hs
    exact .inl (Within.rel (R := Keeps (Fits n Sending)) (m := vStateControllerReadBlockSize n e)
      s hs)
  | CONTROLLER_READ_PEC =>
    rw [hst] at hs
    exact .inl (Within.rel (R := Keeps (Fits n Sending)) (m := vStateControllerReadPEC n e) s hs)

theorem vResetToInitial_steady (n : ℕ) (s : Profile) :
    Steady n (exec (setTransfer n Transfer.reset) s) (exec (vResetToInitial n) s) := by
  have hplay : Within (Steady n)
      (modify fun s => { s with ucInstanceInPlay := INVALID_INSTANCE }) := ⟨fun _ => rfl⟩
  have hactive : Within (Steady n)
      (modify fun s => { s with ucActiveTargetInstance := INVALID_INSTANCE }) := ⟨fun _ => rfl⟩
  rw [vResetToInitial, exec_bind, vSMBusHandleActionResetAllData, exec_bind]
  exact IsTrans.trans _ _ _ (Within.rel _) (Within.rel _)

theorem vResetToInitial_fresh (n : ℕ) (s : Profile) :
    Fresh ((exec (vResetToInitial n) s).xTransfer n) := by
  have hsteady := vResetToInitial_steady n s
  simp only [Same, Prod.mk.injEq] at hsteady
  refine Phase.of_cursor hsteady.1 ?_
  simpa only [setTransfer, exec_modify, Function.update_self] using fresh_reset (s.xTransfer n)

/-- **Step of the machine.** -/
theorem vSMBusFSM_fits {n : ℕ} {e : Event} {s : Profile}
    (hs : Fits n (band (s.xConfig n).ulI2CDevice (s.xState n)) s) (hroom : s.hasRoom n e) :
    Fits n (band (s.xConfig n).ulI2CDevice ((exec (vSMBusFSM n e) s).xState n))
      (exec (vSMBusFSM n e) s) := by
  rcases handler_fits hs hroom with ⟨hband, hsafe⟩ | ⟨⟨hending, hsafe⟩, hst⟩
  · refine ⟨?_, hsafe⟩
    rcases vSMBusFSM_exit n e s with h | ⟨m, h, hs'⟩
    · rcases h.state with hst | hst
      · rwa [hst]
      · exact band_next hband _ hst
    · have hreset := vResetToInitial_effect n m
      rw [← hs'] at hreset
      simp only [Profile.control, Prod.mk.injEq, Profile.released] at hreset
      obtain ⟨-, -, -, -, hstate, -⟩ := hreset
      rw [hstate, Function.update_self, hs']
      exact vResetToInitial_fresh n m
  · rw [hst]
    exact ⟨hending, hsafe⟩

/-! ### Runs -/

/-- Every transfer is in the phase of its state. An instance that is not in use is in the initial
state, the ARP instance apart, which is never an I2C device. -/
structure Bounded (s : Profile) : Prop where
  safe : Safe s
  phase : ∀ n, band (s.xConfig n).ulI2CDevice (s.xState n) (s.xTransfer n)
  unused : ∀ n, n ≠ ARP_INSTANCE_ID → (s.xConfig n).ucInstanceInUse = false →
    s.xState n = .INITIAL
  arp : (s.xConfig ARP_INSTANCE_ID).ulI2CDevice = false

theorem start_bounded : Bounded .start where
  safe := ⟨List.not_mem_nil, List.not_mem_nil⟩
  phase := fun _ => ⟨rfl, rfl, Nat.zero_le _, Nat.zero_le _⟩
  unused := fun _ _ _ => rfl
  arp := rfl

/-- The bytes that the next handler stores fit the buffer. -/
def Fitting (s : Profile) : Action → Prop
  | .handle registers answer =>
    match s.pending with
    | none => True
    | some n =>
      match s.xEventSrcCircularBuf n with
      | [] => True
      | e :: _ => (s.take n registers answer).hasRoom n e
  | _ => True

instance (s : Profile) (a : Action) : Decidable (Fitting s a) := by
  induction a using Action.casesOn <;> unfold Fitting <;> try infer_instance
  induction s.pending using Option.casesOn with
  | none => infer_instance
  | some n =>
    dsimp only [Profile.hasRoom]
    induction s.xEventSrcCircularBuf n using List.casesOn <;> infer_instance

theorem Bounded.handled {s : Profile} {n : ℕ} {e : Event} {es : List Event}
    {registers : List ℕ} {answer : Answer} (hs : Bounded s) (hpending : s.pending = some n)
    (hqueue : s.xEventSrcCircularBuf n = e :: es)
    (hroom : (s.take n registers answer).hasRoom n e) :
    Bounded (exec (vSMBusFSM n e) (s.take n registers answer)) := by
  have hfits := vSMBusFSM_fits (s := s.take n registers answer) ⟨hs.phase n, hs.safe⟩ hroom
  have hround := round_effect hqueue registers answer
  obtain ⟨-, hidentity, -, -, -⟩ := still_eq.mp hround.still
  have huse := (pending_spec hpending).2
  generalize hs' : exec (vSMBusFSM n e) (s.take n registers answer) = s' at *
  have hdevice : ∀ j, (s'.xConfig j).ulI2CDevice = (s.xConfig j).ulI2CDevice := fun j =>
    Config.device_of_identity (hidentity j)
  refine ⟨hfits.2, fun j => ?_, fun j hj hunused => ?_, (hdevice _).trans hs.arp⟩
  · rw [hdevice]
    rcases eq_or_ne j n with rfl | hj
    · exact hfits.1
    · have hother : s'.xTransfer j = s.xTransfer j := by
        rw [← hs']
        exact vSMBusFSM_otherTransfers hj e _
      rw [hround.otherState j hj, hother]
      exact hs.phase j
  · rw [Config.inUse_of_identity (hidentity j)] at hunused
    rcases eq_or_ne j n with rfl | hjn
    · rw [huse] at hunused
      cases hunused
    · rw [hround.otherState j hjn]
      exact hs.unused j hj hunused

variable {s s' : Profile}

theorem Bounded.of_fields (hs : Bounded s) (hconfig : s'.xConfig = s.xConfig)
    (hstate : s'.xState = s.xState) (htransfer : s'.xTransfer = s.xTransfer)
    (hfaults : s'.faults = s.faults) : Bounded s' :=
  ⟨by simpa only [Safe, hfaults] using hs.safe,
    by simpa only [hconfig, hstate, htransfer] using hs.phase,
    by simpa only [hconfig, hstate] using hs.unused, by simpa only [hconfig] using hs.arp⟩

theorem Bounded.of_record (hs : Bounded s) (h : s'.record = s.record) :
    Bounded s' := by
  simp only [Profile.record, Profile.control, Prod.mk.injEq] at h
  obtain ⟨⟨-, -, -, hconfig, hstate, -⟩, htransfer, hfaults⟩ := h
  exact hs.of_fields hconfig hstate htransfer hfaults

instance (i2c : Bool) (st : State) : Phase (band i2c st) := by
  cases st <;> simp only [band] <;> infer_instance

theorem band_untyped {i2c : Bool} {st : State} {t : Transfer} (h : band i2c st t) :
    band i2c st { t with xProtocol := .NONE } := by
  cases st <;> first
    | exact ⟨h.received, h.sent, h.size, h.expected⟩
    | exact ⟨h.received, h.size, h.expected, fun hp => by cases hp⟩
    | exact ⟨h.received, h.size, h.expected⟩
    | exact ⟨h.received, h.left, h.next, h.expected⟩

theorem Bounded.reconfigured (hs : Bounded s) (h : Reconfigured s s') :
    Bounded s' := by
  have hbus := h.bus
  simp only [Profile.bus, Prod.mk.injEq] at hbus
  obtain ⟨-, -, -, hstate, -, -, -, -, hfaults⟩ := hbus
  -- Slots are opened and closed in the initial state, but for that of the ARP instance.
  have harp : ∀ j, j = ARP_INSTANCE_ID → (s'.xConfig j).ulI2CDevice = false := by
    rintro j rfl
    rcases h.slot ARP_INSTANCE_ID with ⟨hc, -, -⟩ | ⟨-, hopen, -, -⟩ | ⟨-, ⟨left, hleft, hc⟩, -, -⟩
    · exact hc ▸ hs.arp
    · generalize s'.xConfig ARP_INSTANCE_ID = c at hopen ⊢
      cases hopen with
      | smbus a hok hj => exact absurd hj (by decide)
      | i2c a hok hj => exact absurd hj (by decide)
      | arp hj => exact hs.arp
    · rw [hc]
      simp only [List.mem_cons, List.not_mem_nil, or_false] at hleft
      rcases hleft with rfl | rfl | rfl
      · exact hs.arp
      · exact hs.arp
      · rfl
  refine ⟨by simpa only [Safe, hfaults] using hs.safe, fun j => ?_, fun j hj hunused => ?_,
    harp _ rfl⟩
  · rw [hstate]
    rcases h.slot j with ⟨hc, -, ht⟩ | ⟨hfree, -, -, ht⟩ | ⟨hst, -, -, ht⟩
    · rw [hc, ht]
      exact hs.phase j
    · rcases eq_or_ne j ARP_INSTANCE_ID with hj | hj
      · have hphase := hs.phase j
        rw [harp j hj]
        rw [hj] at ht ⊢
        rw [hj, hs.arp] at hphase
        exact Phase.of_cursor ht hphase
      · have hphase := hs.phase j
        rw [hs.unused j hj hfree] at hphase ⊢
        exact Phase.of_cursor (P := Fresh) ht hphase
    · rw [ht]
      rcases eq_or_ne j ARP_INSTANCE_ID with hj | hj
      · have hphase := hs.phase j
        rw [harp j hj]
        rw [hj, hs.arp] at hphase
        rw [hj]
        exact band_untyped hphase
      · have hphase := hs.phase j
        rw [hst.resolve_left hj] at hphase ⊢
        exact @band_untyped (s'.xConfig j).ulI2CDevice .INITIAL _ hphase
  · rcases h.slot j with ⟨hc, -, -⟩ | ⟨-, hopen, -, -⟩ | ⟨hst, -, -, -⟩
    · rw [hstate]
      exact hs.unused j hj (hc ▸ hunused)
    · generalize s'.xConfig j = c at hopen hunused
      cases hopen <;> cases hunused
    · rw [hstate]
      exact hst.resolve_left hj

theorem Bounded.commanded {s : Profile} {a : Action} {n : ℕ} (hs : Bounded s)
    (ha : a.commandedInstance = some n) (hok : a.admitted s) (transaction : Option ℕ) :
    Bounded (s.commanded n transaction a.load) := by
  have hinitial : s.xState n = .INITIAL := by
    obtain ⟨m, hm, hcommand⟩ := admitted_commandable hok
    obtain rfl := Option.some.inj (ha.symm.trans hm)
    exact hcommand.2.2
  have hfresh : Fresh (s.xTransfer n) := by
    have hphase := hs.phase n
    rwa [hinitial] at hphase
  have hload : Fresh (a.load (s.xTransfer n)) := by
    cases a with
    | initiate a => exact ⟨hfresh.received, rfl, hok.2.1, hfresh.expected⟩
    | i2cWrite m addr data size => exact ⟨hfresh.received, rfl, hok.1, hfresh.expected⟩
    | i2cRead m addr size => exact ⟨hfresh.received, hfresh.sent, hfresh.size, hok.1⟩
    | i2cWriteRead m addr data size readSize => exact ⟨hfresh.received, rfl, hok.1, hok.2.1⟩
    | _ => exact hok.elim
  refine ⟨hs.safe, fun j => ?_, hs.unused, hs.arp⟩
  rcases eq_or_ne j n with rfl | hj
  · have hphase : band (s.xConfig j).ulI2CDevice .INITIAL (a.load (s.xTransfer j)) := hload
    simpa only [Profile.commanded, Function.update_self, hinitial] using hphase
  · simpa only [Profile.commanded, Function.update_of_ne hj] using hs.phase j

theorem bounded_step {a : Action} (hs : Bounded s) (hok : Fitting s a)
    (h : step s a = some s') : Bounded s' := by
  have hrest : Bounded s.rest := hs.of_fields rfl rfl rfl rfl
  cases step_effect h with
  | @handled registers answer n e es hhandling hpending hqueue =>
    refine hs.handled hpending hqueue ?_
    simp only [Fitting, hpending, hqueue] at hok
    exact hok
  | refused active hidle hrecord =>
    have hactive : Bounded (s.rest.activate active) := hrest.of_fields rfl rfl rfl rfl
    exact hactive.of_record hrecord
  | reconfigured hidle hrec => exact hrest.reconfigured hrec
  | commanded n hidle ha hadmitted hrecord =>
    refine (hrest.commanded ha ?_ _).of_record hrecord
    cases a <;> exact hadmitted
  | target active hidle hactive => exact hrest.of_fields rfl rfl rfl rfl
  | controller hidle hplay => exact hrest.of_fields rfl rfl rfl rfl

/-- **Buffer safety.** While the bytes that the FIFOs deliver fit, no run touches a data buffer
outside its bounds. -/
theorem buffer_safety {s : Profile} (hs : Reaches step Fitting .start s) : Safe s :=
  (hs.invariant Bounded start_bounded fun _ _ _ h hok hstep => bounded_step h hok hstep).safe

/-- An I2C device is written to, and its FIFO is found with `fills` bytes at a time. -/
def filledRun (fills : List ℕ) : List Action :=
  [.createI2C (i2cDevice 0x20), .targetInterrupts 0x80 0 0x20, .handle [] .none] ++
    fills.flatMap fun fill => [.targetInterrupts 0x20 0 0x20, .handle [fill] .none]

theorem buffer_safety_filled : ∃ s : Profile, (s.xTransfer 0).usReceiveIndex = DATA_SIZE_MAX ∧
    Safe s := by
  have h : (run (guarded step Fitting) .start (filledRun [64, 64, 64, 64])).any (fun s =>
      decide ((s.xTransfer 0).usReceiveIndex = DATA_SIZE_MAX)) = true := by decide +kernel
  obtain ⟨s, hrun, hs⟩ := (Option.any_eq_true _ _).mp h
  have hreach : Reaches step Fitting .start s := .of_guarded_run _ .start hrun
  exact ⟨s, of_decide_eq_true hs, buffer_safety hreach⟩

/-- One more byte is stored behind the buffer. -/
theorem not_buffer_safety : ¬ ∀ s : Profile, Reaches step always .start s → Safe s := by
  intro hall
  have h : (run step .start (filledRun [64, 64, 64, 64, 1])).any (fun s =>
      decide (.receivedData ∈ s.faults)) = true := by decide +kernel
  obtain ⟨s, hrun, hs⟩ := (Option.any_eq_true _ _).mp h
  exact (hall s (.of_run hrun)).1 (of_decide_eq_true hs)

end Amr.Smbus
