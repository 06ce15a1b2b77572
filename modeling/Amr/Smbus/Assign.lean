/-
# Assigning an address

An `ASSIGN_ADDRESS` transfer brings sixteen bytes of UDID, most significant first, the new address
and a PEC. The driver compares the UDID while the bytes arrive, in whatever portions, and applies
the address when the end of the transfer is reported. Here its flags and indices are related to the
list of bytes received so far (`Reading`), one byte at a time, and from there to what the transfer
comes to (`assignTable`): the last instance in use whose UDID is the one received is assigned the
address, unless a NACK was sent.
-/
import Amr.Smbus.Address

namespace Amr.Smbus

open StateProgram Transition

set_option synthInstance.maxSize 20000
set_option synthInstance.maxHeartbeats 200000

/-! ### What a transfer asks for -/

/-- The UDID of an instance agrees with the bytes received, as far as they are of a UDID. -/
def Config.agrees (c : Config) (bytes : List ℕ) : Prop :=
  ∀ k < UDID_LENGTH, ∀ b ∈ bytes[k]?, c.ucUDID (UDID_DEVICE_CAPABILITIES_BYTE - k) = b

instance (c : Config) (bytes : List ℕ) : Decidable (c.agrees bytes) := by
  unfold Config.agrees; infer_instance

/-- The instances that the bytes may be meant for. -/
def matching (C : ℕ → Config) (bytes : List ℕ) : List ℕ :=
  (List.range NUM_NON_ARP_INSTANCES).filter fun i =>
    (C i).ucInstanceInUse = true ∧ (C i).agrees bytes

def assignedAddress (bytes : List ℕ) : ℕ := bytes.getD UDID_LENGTH 0 / 2

/-- The table of instances after a transfer has been applied. -/
def assignTable (C : ℕ → Config) (bytes : List ℕ) : ℕ → Config :=
  match (matching C bytes).getLast? with
  | none => C
  | some m => Function.update C m ((C m).assign (assignedAddress bytes))

theorem agrees_nil (c : Config) : c.agrees [] := fun k _ b hb => by simp at hb

theorem agrees_append {c : Config} {bytes : List ℕ} {b : ℕ} (h : bytes.length < UDID_LENGTH) :
    c.agrees (bytes ++ [b]) ↔
      c.agrees bytes ∧ c.ucUDID (UDID_DEVICE_CAPABILITIES_BYTE - bytes.length) = b := by
  constructor
  · intro hall
    refine ⟨fun k hk b' hb' => hall k hk b' ?_, hall _ h b (by simp)⟩
    have hlt : k < bytes.length := (List.getElem?_eq_some_iff.mp hb').1
    rwa [List.getElem?_append_left hlt]
  · rintro ⟨hall, hb⟩ k hk b' hb'
    rcases lt_trichotomy k bytes.length with hlt | rfl | hgt
    · rw [List.getElem?_append_left hlt] at hb'
      exact hall k hk b' hb'
    · obtain rfl : b = b' := by simpa using hb'
      exact hb
    · have hlen := (List.getElem?_eq_some_iff.mp hb').1
      rw [List.length_append, List.length_singleton] at hlen
      omega

theorem agrees_append_of_le {c : Config} {bytes more : List ℕ} (h : UDID_LENGTH ≤ bytes.length) :
    c.agrees (bytes ++ more) ↔ c.agrees bytes := by
  have hk : ∀ k < UDID_LENGTH, (bytes ++ more)[k]? = bytes[k]? := fun k hk =>
    List.getElem?_append_left (hk.trans_le h)
  constructor
  · exact fun hall k hlt b hb => hall k hlt b (by rwa [hk k hlt])
  · exact fun hall k hlt b hb => hall k hlt b (by rwa [hk k hlt] at hb)

theorem matching_append_of_le {C : ℕ → Config} {bytes more : List ℕ}
    (h : UDID_LENGTH ≤ bytes.length) : matching C (bytes ++ more) = matching C bytes := by
  simp only [matching, agrees_append_of_le h]

theorem assignedAddress_append {bytes more : List ℕ} (h : UDID_LENGTH < bytes.length) :
    assignedAddress (bytes ++ more) = assignedAddress bytes := by
  rw [assignedAddress, assignedAddress, List.getD_append _ _ _ _ h]

/-! ### What a transfer is kept in -/

/-- What an `ASSIGN_ADDRESS` depends on. -/
def Profile.gathered (s : Profile) (n : ℕ) :=
  (s.xConfig, s.ucUDIDMatch, s.received, (s.xTransfer n).xProtocol, (s.xTransfer n).usReceiveIndex,
    (s.xTransfer n).ucUDIDMatchedInstance, (s.xTransfer n).ucNewDeviceSlaveAddr,
    (s.xTransfer n).ucNackSent, s.xState n)

/-- Nothing of it changes, and no NACK is sent. -/
structure Aside (n : ℕ) (s s' : Profile) : Prop where
  gathered : s'.gathered n = s.gathered n
  written : ∃ ws, s'.written = s.written ++ ws ∧ .TARGET_WRITE_NACK ∉ ws

section Aside

variable (n : ℕ)

theorem aside_of_same {s s' : Profile} (h : s'.gathered n = s.gathered n)
    (hw : s'.written = s.written) : Aside n s s' :=
  ⟨h, [], by simpa using hw, List.not_mem_nil⟩

instance : Std.Refl (Aside n) := ⟨fun _ => aside_of_same n rfl rfl⟩

instance : IsTrans Profile (Aside n) := by
  refine ⟨fun _ _ _ h h' => ⟨h'.gathered.trans h.gathered, ?_⟩⟩
  obtain ⟨ws, hws, hnone⟩ := h.written
  obtain ⟨ws', hws', hnone'⟩ := h'.written
  exact ⟨ws ++ ws', by rw [hws', hws, List.append_assoc], fun hmem =>
    (List.mem_append.mp hmem).elim hnone hnone'⟩

instance (fallback : ℕ) : Within (Aside n) (register fallback) :=
  ⟨fun _ => aside_of_same n rfl rfl⟩

instance (c : Call) : Within (Aside n) (call c) := ⟨fun _ => aside_of_same n rfl rfl⟩

instance (f : Fault) : Within (Aside n) (fault f) := ⟨fun _ => aside_of_same n rfl rfl⟩

instance (i : ℕ) (e : Event) : Within (Aside n) (vSMBusCreateEvent i e) := by
  refine ⟨fun s => ?_⟩
  rw [vSMBusCreateEvent_effect]
  exact aside_of_same n rfl rfl

theorem aside_write {w : RegisterWrite} (hw : w ≠ .TARGET_WRITE_NACK) :
    Within (Aside n) (write w) :=
  ⟨fun _ => ⟨rfl, [w], rfl, by simpa using hw.symm⟩⟩

instance (ucCommand usSendDataSize usSendIndex usDescriptorsSent usExpectedByteCount
    ucExpectedByteCountPart ucSMBusDestAddr ucSMBusSenderAddr ucMatchedSMBusAddr
    ucFifoEmptyWhileInDoneCount : Transfer → ℕ) (ucSendData ucReceivedData : Transfer → ℕ → ℕ)
    (ucPecRequiredForTransaction ulI2CTransaction ucPECSent : Transfer → Bool) :
    Within (Aside n) (setTransfer n fun t =>
      { ucCommand := ucCommand t
        xProtocol := t.xProtocol
        usSendDataSize := usSendDataSize t
        usSendIndex := usSendIndex t
        usReceiveIndex := t.usReceiveIndex
        usDescriptorsSent := usDescriptorsSent t
        ucSendData := ucSendData t
        ucReceivedData := ucReceivedData t
        usExpectedByteCount := usExpectedByteCount t
        ucExpectedByteCountPart := ucExpectedByteCountPart t
        ucSMBusDestAddr := ucSMBusDestAddr t
        ucSMBusSenderAddr := ucSMBusSenderAddr t
        ucPecRequiredForTransaction := ucPecRequiredForTransaction t
        ulI2CTransaction := ulI2CTransaction t
        ucNewDeviceSlaveAddr := t.ucNewDeviceSlaveAddr
        ucUDIDMatchedInstance := t.ucUDIDMatchedInstance
        ucMatchedSMBusAddr := ucMatchedSMBusAddr t
        ucNackSent := t.ucNackSent
        ucPECSent := ucPECSent t
        ucFifoEmptyWhileInDoneCount := ucFifoEmptyWhileInDoneCount t }) :=
  ⟨fun s => aside_of_same n (by simp [Profile.gathered, setTransfer]) rfl⟩

instance : Within (Aside n) (transfer n) := by unfold transfer; infer_instance

instance : Within (Aside n) (config n) := by unfold config; infer_instance

instance : Within (Aside n) ulSMBusHWReadTgtRxFifoStatusEmpty := by
  unfold ulSMBusHWReadTgtRxFifoStatusEmpty; infer_instance

instance : Within (Aside n) ulSMBusHWReadTgtRxFifoStatusFillLevel := by
  unfold ulSMBusHWReadTgtRxFifoStatusFillLevel; infer_instance

instance : Within (Aside n) ulSMBusHWReadTgtDescStatusFillLevel := by
  unfold ulSMBusHWReadTgtDescStatusFillLevel; infer_instance

instance : Within (Aside n) ulSMBusHWReadTgtDescStatusFull := by
  unfold ulSMBusHWReadTgtDescStatusFull; infer_instance

instance (b : Bool) : Within (Aside n) (ucSMBusTargetWriteDescriptorACK b) := by
  have hwrite := aside_write n (w := .TARGET_WRITE_ACK) (by decide)
  unfold ucSMBusTargetWriteDescriptorACK prvucSMBusTargetDescriptorApply
  infer_instance

instance : Within (Aside n) ucSMBusTargetWriteDescriptorPEC := by
  have hwrite := aside_write n (w := .TARGET_WRITE_PEC) (by decide)
  unfold ucSMBusTargetWriteDescriptorPEC prvucSMBusTargetDescriptorApply
  infer_instance

instance : Within (Aside n) (vDescriptorSent n) := by unfold vDescriptorSent; infer_instance

instance : Within (Aside n) (vCountedACK n) := by unfold vCountedACK; infer_instance

instance (limit : Transfer → ℕ) : Within (Aside n) (vFillACK n limit) := by
  unfold vFillACK; infer_instance

instance (e : Event) : Within (Aside n) (vSMBusHandleActionBusWarning n e) := by
  unfold vSMBusHandleActionBusWarning; infer_instance

instance (vector errors addr : ℕ) : Within (Aside n) (vTargetInterrupts vector errors addr) := by
  have hactive : Within (Aside n) (modify fun s : Profile =>
      { s with ucActiveTargetInstance := s.instanceFromTargetAddress addr }) :=
    ⟨fun _ => aside_of_same n rfl rfl⟩
  have hhandling : Within (Aside n) (modify fun s : Profile => { s with handling := true }) :=
    ⟨fun _ => aside_of_same n rfl rfl⟩
  have hreset := aside_write n (w := .TgtRxFifoReset) (by decide)
  unfold vTargetInterrupts vRaise
  infer_instance

instance (vector errors : ℕ) : Within (Aside n) (vControllerInterrupts vector errors) := by
  have hhandling : Within (Aside n) (modify fun s : Profile => { s with handling := true }) :=
    ⟨fun _ => aside_of_same n rfl rfl⟩
  have hreset := aside_write n (w := .CtrlRxFifoReset) (by decide)
  have hreset' := aside_write n (w := .CtrlDescFifoReset) (by decide)
  unfold vControllerInterrupts vRaise
  infer_instance

end Aside

/-! ### One byte after the other -/

/-- No NACK was sent since `s₁`, as far as the flag says. -/
def Unrefused (n : ℕ) (s₁ s : Profile) : Prop :=
  ∃ ws, s.written = s₁.written ++ ws ∧
    ((s.xTransfer n).ucNackSent = false → .TARGET_WRITE_NACK ∉ ws)

/-- The bytes of a transfer since `s₁`, and what the driver has made of them. -/
structure Reading (n : ℕ) (s₁ : Profile) (bytes : List ℕ) (s : Profile) : Prop where
  config : s.xConfig = s₁.xConfig
  received : ∃ size, s.received = s₁.received ++ size :: bytes
  unrefused : Unrefused n s₁ s
  protocol : (s.xTransfer n).xProtocol = .ARP_ASSIGN_ADDRESS
  index : (s.xTransfer n).usReceiveIndex = min bytes.length UDID_ASSIGNED_ADDRESS_BYTE
  candidates : ∀ i < NUM_NON_ARP_INSTANCES, (s₁.xConfig i).ucInstanceInUse = true →
    (s.ucUDIDMatch i = true ↔ (s₁.xConfig i).agrees bytes)
  matched : (s.xTransfer n).ucNackSent = false → bytes ≠ [] →
    (matching s₁.xConfig bytes).getLast? = some (s.xTransfer n).ucUDIDMatchedInstance
  address : UDID_LENGTH < bytes.length →
    (s.xTransfer n).ucNewDeviceSlaveAddr = assignedAddress bytes
  state : s.xState n = .AWAITING_DATA ∨ s.xState n = .AWAITING_DONE ∧
    ((s.xTransfer n).ucNackSent = false → UDID_ASSIGNED_ADDRESS_BYTE < bytes.length)

variable {n : ℕ} {s₁ s s' : Profile}

theorem Unrefused.aside (hs : Unrefused n s₁ s) (h : Aside n s s') :
    Unrefused n s₁ s' := by
  have hgathered := h.gathered
  simp only [Profile.gathered, Prod.mk.injEq] at hgathered
  obtain ⟨-, -, -, -, -, -, -, hnack, -⟩ := hgathered
  obtain ⟨ws, hws, hnone⟩ := hs
  obtain ⟨ws', hws', hnone'⟩ := h.written
  refine ⟨ws ++ ws', by rw [hws', hws, List.append_assoc], fun hfalse hmem => ?_⟩
  rw [hnack] at hfalse
  exact (List.mem_append.mp hmem).elim (hnone hfalse) hnone'

variable {bytes : List ℕ}

theorem Reading.aside (hs : Reading n s₁ bytes s)
    (h : Aside n s s') : Reading n s₁ bytes s' := by
  have hgathered := h.gathered
  simp only [Profile.gathered, Prod.mk.injEq] at hgathered
  obtain ⟨hconfig, hcandidates, hreceived, hprotocol, hindex, hmatched, haddress, hnack, hstate⟩ :=
    hgathered
  exact ⟨hconfig.trans hs.config, hreceived ▸ hs.received, hs.unrefused.aside h,
    hprotocol.trans hs.protocol, hindex.trans hs.index, by rw [hcandidates]; exact hs.candidates,
    by rw [hnack, hmatched]; exact hs.matched, by rw [haddress]; exact hs.address,
    by rw [hnack, hstate]; exact hs.state⟩

/-- The candidates that agree in the byte just received. -/
def Profile.agreeing (s : Profile) (n : ℕ) : List ℕ :=
  (List.range NUM_NON_ARP_INSTANCES).filter fun i =>
    (i < NUM_NON_ARP_INSTANCES ∧ (s.xConfig i).ucInstanceInUse = true ∧ s.ucUDIDMatch i = true) ∧
      (s.xConfig i).ucUDID (UDID_DEVICE_CAPABILITIES_BYTE - (s.xTransfer n).usReceiveIndex) =
        (s.xTransfer n).ucReceivedData (s.xTransfer n).usReceiveIndex

theorem ucCheckAtLeastOneMatchFound_effect (n : ℕ) (s : Profile) :
    value (ucCheckAtLeastOneMatchFound n) s = !(s.agreeing n).isEmpty ∧
      exec (ucCheckAtLeastOneMatchFound n) s =
        { s with
          ucUDIDMatch := fun i =>
            if i < NUM_NON_ARP_INSTANCES ∧ (s.xConfig i).ucInstanceInUse = true ∧
                s.ucUDIDMatch i = true then
              decide ((s.xConfig i).ucUDID (UDID_DEVICE_CAPABILITIES_BYTE -
                (s.xTransfer n).usReceiveIndex) =
                  (s.xTransfer n).ucReceivedData (s.xTransfer n).usReceiveIndex)
            else s.ucUDIDMatch i
          xTransfer := Function.update s.xTransfer n
            { s.xTransfer n with
              ucUDIDMatchedInstance :=
                (s.agreeing n).getLast?.getD (s.xTransfer n).ucUDIDMatchedInstance } } :=
  ⟨rfl, rfl⟩

/-- The byte that is taken from the FIFO. -/
def Profile.nextByte (s : Profile) : ℕ := s.registers.headD 0 % 2 ^ 8

/-- The profile with the next byte stored. -/
def Profile.stored (s : Profile) (n : ℕ) : Profile :=
  { s with
    registers := s.registers.tail
    received := s.received ++ [s.nextByte]
    xTransfer := Function.update s.xTransfer n
      { s.xTransfer n with
        ucReceivedData := Function.update (s.xTransfer n).ucReceivedData
          (s.xTransfer n).usReceiveIndex s.nextByte } }

/-- What follows a byte, once it is stored. -/
def vAssignStored (n b index : ℕ) : Routine Unit :=
  if index < UDID_LENGTH then do
    let found ← ucCheckAtLeastOneMatchFound n
    (if found = true then do
      vCountedACK n
      vSMBusNextStateDecoder n .AWAITING_DATA
    else do
      vSMBusSendNACK n
      vSMBusNextStateDecoder n .AWAITING_DONE)
    setTransfer n fun t => { t with usReceiveIndex := inc16 t.usReceiveIndex }
  else if index = UDID_LENGTH then do
    setTransfer n fun t => { t with ucNewDeviceSlaveAddr := b / 2 }
    vCountedACK n
    setTransfer n fun t => { t with usReceiveIndex := inc16 t.usReceiveIndex }
  else do
    let _ ← ucSMBusTargetWriteDescriptorPEC
    setTransfer n fun t => { t with ucPECSent := true }
    vSMBusNextStateDecoder n .AWAITING_DONE

theorem vAssignAddressByte_eq {s : Profile}
    (h : (s.xTransfer n).usReceiveIndex < DATA_SIZE_MAX) :
    exec (vAssignAddressByte n) s =
      exec (vAssignStored n s.nextByte (s.xTransfer n).usReceiveIndex) (s.stored n) := by
  have hread : exec ulSMBusHWReadTgtRxFifoPayload s =
      { s with registers := s.registers.tail, received := s.received ++ [s.nextByte] } := rfl
  have hvalue : value ulSMBusHWReadTgtRxFifoPayload s = s.nextByte := rfl
  rw [vAssignAddressByte, exec_bind, hread, hvalue, exec_transfer_bind, if_neg (not_le.mpr h),
    exec_bind, exec_pure, exec_bind]
  rfl

theorem vSMBusSendNACK_effect (n : ℕ) (s : Profile) :
    ∃ ws, (exec (vSMBusSendNACK n) s).written = s.written ++ ws ∧
      (exec (vSMBusSendNACK n) s).xConfig = s.xConfig ∧
      (exec (vSMBusSendNACK n) s).ucUDIDMatch = s.ucUDIDMatch ∧
      (exec (vSMBusSendNACK n) s).received = s.received ∧
      (exec (vSMBusSendNACK n) s).xState = s.xState ∧
      (exec (vSMBusSendNACK n) s).xTransfer =
        Function.update s.xTransfer n { s.xTransfer n with ucNackSent := true } := by
  simp only [vSMBusSendNACK, ucSMBusTargetWriteDescriptorNACK, prvucSMBusTargetDescriptorApply,
    Bool.false_eq_true, if_false, exec_bind, exec_ite, exec_pure]
  split
  · exact ⟨[], (List.append_nil _).symm, rfl, rfl, rfl, rfl, rfl⟩
  · exact ⟨[.TARGET_WRITE_NACK], rfl, rfl, rfl, rfl, rfl, rfl⟩

section Byte

variable {n : ℕ} {s₁ s : Profile} {bytes : List ℕ}

theorem Reading.agreeing (hs : Reading n s₁ bytes s) (h : bytes.length < UDID_LENGTH) :
    (s.stored n).agreeing n = matching s₁.xConfig (bytes ++ [s.nextByte]) := by
  have hindex : (s.xTransfer n).usReceiveIndex = bytes.length := by
    rw [hs.index]
    exact min_eq_left (h.le.trans (by decide))
  refine List.filter_congr fun i hi => ?_
  have hlt : i < NUM_NON_ARP_INSTANCES := List.mem_range.mp hi
  refine decide_eq_decide.mpr ?_
  simp only [Profile.stored, hs.config, hindex, Function.update_self, hlt, true_and, and_assoc]
  refine and_congr_right fun huse => ?_
  rw [hs.candidates i hlt huse, agrees_append h]

/-- The profile after a byte of the UDID has been compared, and its instance told to go on. -/
structure Compared (n : ℕ) (s₁ : Profile) (bytes : List ℕ) (b : ℕ) (s : Profile) : Prop where
  config : s.xConfig = s₁.xConfig
  received : ∃ size, s.received = s₁.received ++ size :: (bytes ++ [b])
  unrefused : Unrefused n s₁ s
  protocol : (s.xTransfer n).xProtocol = .ARP_ASSIGN_ADDRESS
  index : (s.xTransfer n).usReceiveIndex = bytes.length
  candidates : ∀ i < NUM_NON_ARP_INSTANCES, (s₁.xConfig i).ucInstanceInUse = true →
    (s.ucUDIDMatch i = true ↔ (s₁.xConfig i).agrees (bytes ++ [b]))
  matched : (s.xTransfer n).ucNackSent = false →
    (matching s₁.xConfig (bytes ++ [b])).getLast? = some (s.xTransfer n).ucUDIDMatchedInstance

theorem Compared.aside {b : ℕ} {s' : Profile} (hs : Compared n s₁ bytes b s) (h : Aside n s s') :
    Compared n s₁ bytes b s' := by
  have hgathered := h.gathered
  simp only [Profile.gathered, Prod.mk.injEq] at hgathered
  obtain ⟨hconfig, hcandidates, hreceived, hprotocol, hindex, hmatched, -, hnack, -⟩ := hgathered
  exact ⟨hconfig.trans hs.config, hreceived ▸ hs.received, hs.unrefused.aside h,
    hprotocol.trans hs.protocol, hindex.trans hs.index, by rw [hcandidates]; exact hs.candidates,
    by rw [hnack, hmatched]; exact hs.matched⟩

theorem Compared.reading {b : ℕ} (hs : Compared n s₁ bytes b s) (h : bytes.length < UDID_LENGTH)
    (st : State) (hstate : st = .AWAITING_DATA ∨ st = .AWAITING_DONE ∧
      (s.xTransfer n).ucNackSent = true) :
    Reading n s₁ (bytes ++ [b]) (exec (setTransfer n fun t =>
      { t with usReceiveIndex := inc16 t.usReceiveIndex })
      (exec (vSMBusNextStateDecoder n st) s)) := by
  have hlast : UDID_LENGTH < UDID_ASSIGNED_ADDRESS_BYTE := by decide
  have hlen : (bytes ++ [b]).length = bytes.length + 1 := by simp
  have hinc : inc16 bytes.length = bytes.length + 1 :=
    inc16_eq (h.le.trans (by decide))
  refine ⟨hs.config, hs.received, ?_, ?_, ?_, hs.candidates, fun hnack _ => ?_, fun haddr => ?_, ?_⟩
  · simpa [Unrefused, setTransfer, vSMBusNextStateDecoder] using hs.unrefused
  · simpa [setTransfer, vSMBusNextStateDecoder] using hs.protocol
  · simp only [setTransfer, vSMBusNextStateDecoder, exec_modify, Function.update_self, hs.index,
      hinc, hlen]
    omega
  · simp only [setTransfer, vSMBusNextStateDecoder, exec_modify, Function.update_self] at hnack ⊢
    exact hs.matched hnack
  · omega
  · simp only [setTransfer, vSMBusNextStateDecoder, exec_modify, Function.update_self]
    rcases hstate with rfl | ⟨rfl, hnack⟩
    · exact .inl rfl
    · exact .inr ⟨rfl, fun hfalse => by simp [hnack] at hfalse⟩

theorem Reading.udid (hs : Reading n s₁ bytes s) (h : bytes.length < UDID_LENGTH) :
    Reading n s₁ (bytes ++ [s.nextByte]) (exec (vAssignStored n s.nextByte
      (s.xTransfer n).usReceiveIndex) (s.stored n)) := by
  have hindex : (s.xTransfer n).usReceiveIndex = bytes.length := by
    rw [hs.index]
    exact min_eq_left (h.le.trans (by decide))
  obtain ⟨hvalue, hexec⟩ := ucCheckAtLeastOneMatchFound_effect n (s.stored n)
  rw [hs.agreeing h] at hvalue hexec
  rw [vAssignStored, if_pos (by rw [hindex]; exact h), exec_bind, exec_bind, hvalue, exec_ite]
  generalize hk : exec (ucCheckAtLeastOneMatchFound n) (s.stored n) = k at *
  have hcompared : ∀ i < NUM_NON_ARP_INSTANCES, (s₁.xConfig i).ucInstanceInUse = true →
      (k.ucUDIDMatch i = true ↔ (s₁.xConfig i).agrees (bytes ++ [s.nextByte])) := by
    intro i hi huse
    rw [hexec, agrees_append h, ← hs.candidates i hi huse]
    simp only [Profile.stored, hs.config, huse, hi, hindex, Function.update_self, true_and]
    split
    case isTrue hcandidate => simp [hcandidate]
    case isFalse hcandidate => simp [hcandidate]
  obtain ⟨size, hreceived⟩ := hs.received
  have hreceived' : k.received = s₁.received ++ size :: (bytes ++ [s.nextByte]) := by
    rw [hexec]
    simp [Profile.stored, hreceived]
  obtain ⟨ws, hws, hnone⟩ := hs.unrefused
  have hnack : (k.xTransfer n).ucNackSent = (s.xTransfer n).ucNackSent := by
    rw [hexec]
    simp [Profile.stored]
  have hwritten : k.written = s₁.written ++ ws := by
    rw [hexec]
    exact hws
  have hprotocol : (k.xTransfer n).xProtocol = .ARP_ASSIGN_ADDRESS := by
    rw [hexec]
    simpa [Profile.stored] using hs.protocol
  have hindex' : (k.xTransfer n).usReceiveIndex = bytes.length := by
    rw [hexec]
    simpa [Profile.stored] using hindex
  have hconfig : k.xConfig = s₁.xConfig := by
    rw [hexec]
    exact hs.config
  by_cases hfound : matching s₁.xConfig (bytes ++ [s.nextByte]) = []
  · -- No candidate is left: the byte is refused.
    rw [hfound, if_neg (by simp), exec_bind]
    obtain ⟨ws', hws', hc, hm, hr, -, ht⟩ := vSMBusSendNACK_effect n k
    have hrefused : Compared n s₁ bytes s.nextByte (exec (vSMBusSendNACK n) k) :=
      ⟨hc.trans hconfig, ⟨size, hr.trans hreceived'⟩,
        ⟨ws ++ ws', by rw [hws', hwritten, List.append_assoc], fun hfalse => by simp [ht] at hfalse⟩,
        by simpa [ht] using hprotocol, by simpa [ht] using hindex',
        by rw [hm]; exact hcompared, fun hfalse => by simp [ht] at hfalse⟩
    exact hrefused.reading h .AWAITING_DONE (.inr ⟨rfl, by simp [ht]⟩)
  · rw [if_pos (by simpa using hfound), exec_bind]
    have hmatched : (k.xTransfer n).ucUDIDMatchedInstance =
        (matching s₁.xConfig (bytes ++ [s.nextByte])).getLast hfound := by
      rw [hexec]
      simp [List.getLast?_eq_some_getLast hfound]
    have hgoes : Compared n s₁ bytes s.nextByte k :=
      ⟨hconfig, ⟨size, hreceived'⟩, ⟨ws, hwritten, by rw [hnack]; exact hnone⟩, hprotocol, hindex',
        hcompared, fun _ => by rw [hmatched, List.getLast?_eq_some_getLast hfound]⟩
    exact (hgoes.aside (Within.rel k)).reading h .AWAITING_DATA (.inl rfl)

theorem Reading.newAddress (hs : Reading n s₁ bytes s) (h : bytes.length = UDID_LENGTH) :
    Reading n s₁ (bytes ++ [s.nextByte]) (exec (vAssignStored n s.nextByte
      (s.xTransfer n).usReceiveIndex) (s.stored n)) := by
  have hindex : (s.xTransfer n).usReceiveIndex = UDID_LENGTH := by
    rw [hs.index, h]
    rfl
  rw [vAssignStored, if_neg (by rw [hindex]; exact lt_irrefl _), if_pos hindex, exec_bind, exec_bind]
  generalize hm : exec (setTransfer n fun t =>
    { t with ucNewDeviceSlaveAddr := s.nextByte / 2 }) (s.stored n) = m
  have hk : Aside n m (exec (vCountedACK n) m) := Within.rel m
  generalize exec (vCountedACK n) m = k at hk ⊢
  have hgathered := hk.gathered
  simp only [Profile.gathered, Prod.mk.injEq, ← hm, setTransfer, exec_modify, Profile.stored,
    Function.update_self] at hgathered
  obtain ⟨hconfig, hcandidates, hreceived, hprotocol, hindex', hmatched, haddress, hnack, hstate⟩ :=
    hgathered
  have hunrefused : Unrefused n s₁ m := by
    simpa [← hm, Unrefused, setTransfer, Profile.stored] using hs.unrefused
  obtain ⟨size, hsize⟩ := hs.received
  have hlast : (bytes ++ [s.nextByte]).getD UDID_LENGTH 0 = s.nextByte := by
    rw [← h]
    simp
  have hinc : inc16 UDID_LENGTH = UDID_ASSIGNED_ADDRESS_BYTE := by decide
  refine ⟨hconfig.trans hs.config, ⟨size, ?_⟩, ?_, ?_, ?_, fun i hi huse => ?_, fun hfalse _ => ?_,
    fun _ => ?_, ?_⟩
  · change k.received = _
    rw [hreceived, hsize, List.append_assoc, List.cons_append]
  · simpa [Unrefused, setTransfer] using hunrefused.aside hk
  · simpa [setTransfer] using hprotocol.trans hs.protocol
  · simp only [setTransfer, exec_modify, Function.update_self, hindex', hindex, hinc,
      List.length_append, h]
    rfl
  · change k.ucUDIDMatch i = true ↔ _
    rw [hcandidates, agrees_append_of_le h.ge]
    exact hs.candidates i hi huse
  · simp only [setTransfer, exec_modify, Function.update_self, hnack, hmatched] at hfalse ⊢
    rw [matching_append_of_le h.ge]
    exact hs.matched hfalse fun hnil => by simp [hnil, UDID_LENGTH] at h
  · simp only [setTransfer, exec_modify, Function.update_self, haddress, assignedAddress, hlast]
  · simp only [setTransfer, exec_modify, Function.update_self, hstate, hnack]
    refine hs.state.imp_right fun hdone => ⟨hdone.1, fun hfalse => ?_⟩
    have hlen := hdone.2 hfalse
    rw [h] at hlen
    exact absurd hlen (by decide)

theorem Reading.pec (hs : Reading n s₁ bytes s) (h : UDID_LENGTH < bytes.length) :
    Reading n s₁ (bytes ++ [s.nextByte]) (exec (vAssignStored n s.nextByte
      (s.xTransfer n).usReceiveIndex) (s.stored n)) := by
  have hlast : UDID_ASSIGNED_ADDRESS_BYTE = UDID_LENGTH + 1 := rfl
  have hindex : (s.xTransfer n).usReceiveIndex = UDID_ASSIGNED_ADDRESS_BYTE := by
    rw [hs.index]
    exact min_eq_right (hlast ▸ h)
  rw [vAssignStored, if_neg (by rw [hindex]; decide), if_neg (by rw [hindex]; decide), exec_bind,
    exec_bind]
  have hk : Aside n (s.stored n) (exec (setTransfer n fun t => { t with ucPECSent := true })
      (exec ucSMBusTargetWriteDescriptorPEC (s.stored n))) :=
    IsTrans.trans _ _ _ (Within.rel _) (Within.rel _)
  generalize exec (setTransfer n fun t => { t with ucPECSent := true })
    (exec ucSMBusTargetWriteDescriptorPEC (s.stored n)) = k at hk ⊢
  have hgathered := hk.gathered
  simp only [Profile.gathered, Prod.mk.injEq, Profile.stored, Function.update_self] at hgathered
  obtain ⟨hconfig, hcandidates, hreceived, hprotocol, hindex', hmatched, haddress, hnack, -⟩ :=
    hgathered
  have hunrefused : Unrefused n s₁ (s.stored n) := by
    simpa [Unrefused, Profile.stored] using hs.unrefused
  obtain ⟨size, hsize⟩ := hs.received
  refine ⟨hconfig.trans hs.config, ⟨size, ?_⟩, ?_, hprotocol.trans hs.protocol, ?_,
    fun i hi huse => ?_, fun hfalse _ => ?_, fun _ => ?_, .inr ⟨?_, fun _ => ?_⟩⟩
  · change k.received = _
    rw [hreceived, hsize, List.append_assoc, List.cons_append]
  · have hkept : Unrefused n s₁ k := hunrefused.aside hk
    exact hkept
  · change (k.xTransfer n).usReceiveIndex = _
    rw [hindex', hindex, List.length_append]
    exact (min_eq_right (by omega)).symm
  · change k.ucUDIDMatch i = true ↔ _
    rw [hcandidates, agrees_append_of_le h.le]
    exact hs.candidates i hi huse
  · change (k.xTransfer n).ucNackSent = false at hfalse
    change _ = some (k.xTransfer n).ucUDIDMatchedInstance
    rw [hmatched, matching_append_of_le h.le]
    exact hs.matched (hnack ▸ hfalse) fun hnil => by simp [hnil] at h
  · change (k.xTransfer n).ucNewDeviceSlaveAddr = _
    rw [haddress, assignedAddress_append h]
    exact hs.address h
  · simp [vSMBusNextStateDecoder]
  · rw [List.length_append, List.length_singleton]
    omega

/-- **One byte.** -/
theorem Reading.byte (hs : Reading n s₁ bytes s) :
    Reading n s₁ (bytes ++ [s.nextByte]) (exec (vAssignAddressByte n) s) := by
  have hbound : (s.xTransfer n).usReceiveIndex < DATA_SIZE_MAX := by
    rw [hs.index]
    exact (min_le_right _ _).trans_lt (by decide)
  rw [vAssignAddressByte_eq hbound]
  rcases lt_trichotomy bytes.length UDID_LENGTH with h | h | h
  · exact hs.udid h
  · exact hs.newAddress h
  · exact hs.pec h

/-- **A portion of bytes**, however many. -/
theorem Reading.portion (k : ℕ) : ∀ {bytes : List ℕ} {s : Profile}, Reading n s₁ bytes s →
    ∃ more, Reading n s₁ (bytes ++ more) (exec (times (vAssignAddressByte n) k) s) := by
  induction k with
  | zero => exact fun {bytes s} hs => ⟨[], by simpa [times] using hs⟩
  | succ k ih =>
    intro bytes s hs
    obtain ⟨more, hmore⟩ := ih hs.byte
    exact ⟨s.nextByte :: more, by simpa [times] using hmore⟩

end Byte

/-! ### The phases of the transfer -/

/-- The command has been answered, and the size of the data is next. -/
structure Begun (n : ℕ) (s₁ s : Profile) : Prop where
  config : s.xConfig = s₁.xConfig
  received : s.received = s₁.received
  unrefused : Unrefused n s₁ s
  protocol : (s.xTransfer n).xProtocol = .ARP_ASSIGN_ADDRESS
  candidates : ∀ i < NUM_NON_ARP_INSTANCES, s.ucUDIDMatch i = true

/-- The data are complete or refused, and the end of the transfer is next. -/
structure Settled (n : ℕ) (s₁ : Profile) (bytes : List ℕ) (s : Profile) : Prop where
  config : s.xConfig = s₁.xConfig
  received : ∃ size, s.received = s₁.received ++ size :: bytes
  unrefused : Unrefused n s₁ s
  protocol : (s.xTransfer n).xProtocol = .ARP_ASSIGN_ADDRESS
  outcome : (s.xTransfer n).ucNackSent = false → UDID_ASSIGNED_ADDRESS_BYTE < bytes.length ∧
    (matching s₁.xConfig bytes).getLast? = some (s.xTransfer n).ucUDIDMatchedInstance ∧
    (s.xTransfer n).ucNewDeviceSlaveAddr = assignedAddress bytes

variable {s₁ s : Profile}

theorem Reading.settled {bytes : List ℕ} (hs : Reading n s₁ bytes s)
    (h : s.xState n = .AWAITING_DONE) : Settled n s₁ bytes s := by
  have hlast : UDID_LENGTH < UDID_ASSIGNED_ADDRESS_BYTE := by decide
  refine ⟨hs.config, hs.received, hs.unrefused, hs.protocol, fun hnack => ?_⟩
  have hlen : UDID_ASSIGNED_ADDRESS_BYTE < bytes.length := by
    rcases hs.state with hst | ⟨-, hdone⟩
    · rw [h] at hst
      cases hst
    · exact hdone hnack
  exact ⟨hlen, hs.matched hnack fun hnil => by simp [hnil] at hlen, hs.address (hlast.trans hlen)⟩

/-- More bytes may arrive, and a NACK may be sent. -/
structure Onward (n : ℕ) (s s' : Profile) : Prop where
  config : s'.xConfig = s.xConfig
  received : ∃ more, s'.received = s.received ++ more
  written : ∃ ws, s'.written = s.written ++ ws ∧ ((s'.xTransfer n).ucNackSent = false →
    (s.xTransfer n).ucNackSent = false ∧ .TARGET_WRITE_NACK ∉ ws)
  protocol : (s'.xTransfer n).xProtocol = (s.xTransfer n).xProtocol
  matched : (s'.xTransfer n).ucUDIDMatchedInstance = (s.xTransfer n).ucUDIDMatchedInstance
  address : (s'.xTransfer n).ucNewDeviceSlaveAddr = (s.xTransfer n).ucNewDeviceSlaveAddr
  state : s'.xState n = s.xState n

section Onward

variable (n : ℕ)

theorem Onward.of_aside {s s' : Profile} (h : Aside n s s') : Onward n s s' := by
  have hgathered := h.gathered
  simp only [Profile.gathered, Prod.mk.injEq] at hgathered
  obtain ⟨hconfig, -, hreceived, hprotocol, -, hmatched, haddress, hnack, hstate⟩ := hgathered
  obtain ⟨ws, hws, hnone⟩ := h.written
  exact ⟨hconfig, ⟨[], by simpa using hreceived⟩, ⟨ws, hws, fun h => ⟨hnack ▸ h, hnone⟩⟩, hprotocol,
    hmatched, haddress, hstate⟩

instance : Std.Refl (Onward n) := ⟨fun s => .of_aside n (Std.Refl.refl s)⟩

instance : IsTrans Profile (Onward n) := by
  refine ⟨fun _ _ _ h h' => ⟨h'.config.trans h.config, ?_, ?_, h'.protocol.trans h.protocol,
    h'.matched.trans h.matched, h'.address.trans h.address, h'.state.trans h.state⟩⟩
  · obtain ⟨more, hmore⟩ := h.received
    obtain ⟨more', hmore'⟩ := h'.received
    exact ⟨more ++ more', by rw [hmore', hmore, List.append_assoc]⟩
  · obtain ⟨ws, hws, hnone⟩ := h.written
    obtain ⟨ws', hws', hnone'⟩ := h'.written
    refine ⟨ws ++ ws', by rw [hws', hws, List.append_assoc], fun hfalse => ?_⟩
    obtain ⟨hmid, hno'⟩ := hnone' hfalse
    obtain ⟨hfirst, hno⟩ := hnone hmid
    exact ⟨hfirst, fun hmem => (List.mem_append.mp hmem).elim hno hno'⟩

instance (priority := low) {α : Type} (m : Routine α) [h : Within (Aside n) m] :
    Within (Onward n) m :=
  ⟨fun s => .of_aside n (h.rel s)⟩

instance : Within (Onward n) ulSMBusHWReadTgtRxFifoPayload :=
  ⟨fun s => ⟨rfl, ⟨[s.nextByte], rfl⟩, ⟨[], (List.append_nil _).symm, fun h => ⟨h, by simp⟩⟩, rfl,
    rfl, rfl, rfl⟩⟩

instance : Within (Onward n) (vSMBusSendNACK n) := by
  refine ⟨fun s => ?_⟩
  obtain ⟨ws, hws, hc, -, hr, hst, ht⟩ := vSMBusSendNACK_effect n s
  exact ⟨hc, ⟨[], by simpa using hr⟩, ⟨ws, hws, fun h => by simp [ht] at h⟩, by simp [ht],
    by simp [ht], by simp [ht], by rw [hst]⟩

instance : Within (Onward n) (vReceiveFill n) := by
  have hstore : ∀ b, Within (Onward n) (setTransfer n fun t =>
      { t with
        ucReceivedData := Function.update t.ucReceivedData t.usReceiveIndex b
        usReceiveIndex := inc16 t.usReceiveIndex }) := fun b =>
    ⟨fun s => ⟨rfl, ⟨[], by simp [setTransfer]⟩, ⟨[], by simp [setTransfer], fun h => ⟨by
      simpa [setTransfer] using h, by simp⟩⟩, by simp [setTransfer], by simp [setTransfer],
      by simp [setTransfer], rfl⟩⟩
  unfold vReceiveFill vReceiveByte
  infer_instance

instance : Within (Onward n) (vDoneAlmostEmpty n) := by unfold vDoneAlmostEmpty; infer_instance

end Onward

theorem Settled.onward (hs : Settled n s₁ bytes s)
    (h : Onward n s s') : ∃ more, Settled n s₁ (bytes ++ more) s' := by
  obtain ⟨size, hsize⟩ := hs.received
  obtain ⟨more, hmore⟩ := h.received
  obtain ⟨ws, hws, hnone⟩ := hs.unrefused
  obtain ⟨ws', hws', hnone'⟩ := h.written
  have hlast : UDID_LENGTH < UDID_ASSIGNED_ADDRESS_BYTE := by decide
  refine ⟨more, h.config.trans hs.config, ⟨size, by rw [hmore, hsize, List.append_assoc]; rfl⟩,
    ⟨ws ++ ws', by rw [hws', hws, List.append_assoc], fun hfalse => ?_⟩,
    h.protocol.trans hs.protocol, fun hfalse => ?_⟩
  · obtain ⟨hfirst, hno⟩ := hnone' hfalse
    exact fun hmem => (List.mem_append.mp hmem).elim (hnone hfirst) hno
  · obtain ⟨hlen, hmatched, haddress⟩ := hs.outcome (hnone' hfalse).1
    have hudid := hlast.trans hlen
    rw [matching_append_of_le hudid.le, assignedAddress_append hudid, h.matched, h.address]
    exact ⟨by rw [List.length_append]; omega, hmatched, haddress⟩

/-- What is known of a transfer in each of its states. -/
def Underway (n : ℕ) (s₁ s : Profile) : Prop :=
  match s.xState n with
  | .AWAITING_BLOCK_SIZE => Begun n s₁ s
  | .AWAITING_DATA => ∃ bytes, Reading n s₁ bytes s
  | .AWAITING_DONE => ∃ bytes, Settled n s₁ bytes s
  | .INITIAL => True
  | _ => False

theorem Underway.initial (h : s.xState n = .INITIAL) :
    Underway n s₁ s := by
  rw [Underway, h]
  trivial

theorem Begun.aside (hs : Begun n s₁ s) (h : Aside n s s') :
    Begun n s₁ s' := by
  have hgathered := h.gathered
  simp only [Profile.gathered, Prod.mk.injEq] at hgathered
  obtain ⟨hconfig, hcandidates, hreceived, hprotocol, -⟩ := hgathered
  exact ⟨hconfig.trans hs.config, hreceived.trans hs.received, hs.unrefused.aside h,
    hprotocol.trans hs.protocol, by rw [hcandidates]; exact hs.candidates⟩

theorem Aside.state {s s' : Profile} (h : Aside n s s') : s'.xState n = s.xState n := by
  have hgathered := h.gathered
  simp only [Profile.gathered, Prod.mk.injEq] at hgathered
  exact hgathered.2.2.2.2.2.2.2.2

theorem Aside.config {s s' : Profile} (h : Aside n s s') : s'.xConfig = s.xConfig :=
  congrArg Prod.fst h.gathered

theorem Underway.aside (hs : Underway n s₁ s) (h : Aside n s s') :
    Underway n s₁ s' := by
  unfold Underway at hs ⊢
  rw [h.state]
  split
  · rename_i hst
    rw [hst] at hs
    exact Begun.aside hs h
  · rename_i hst
    rw [hst] at hs
    obtain ⟨bytes, hs⟩ := hs
    exact ⟨bytes, hs.aside h⟩
  · rename_i hst
    rw [hst] at hs
    obtain ⟨bytes, hs⟩ := hs
    obtain ⟨more, hmore⟩ := hs.onward (.of_aside n h)
    exact ⟨bytes ++ more, hmore⟩
  · trivial
  · rename_i h₁ h₂ h₃ h₄
    split at hs
    · exact absurd ‹_› h₁
    · exact absurd ‹_› h₂
    · exact absurd ‹_› h₃
    · exact absurd ‹_› h₄
    · exact hs

section Steps

variable {n : ℕ} {s₁ s : Profile}

instance : Within (Lands n [.INITIAL]) (vResetToInitial n) := by
  unfold vResetToInitial; infer_instance

theorem Underway.otherEvent (hs : Underway n s₁ s) (e : Event) :
    Underway n s₁ (exec (vOtherEvent n e) s) := by
  unfold vOtherEvent
  split
  · exact hs.aside (Within.rel s)
  · have hlands : Within (Lands n [.INITIAL])
        (if e ∈ Event.targetErrors then do
          vSMBusHandleActionBusError n e
          vResetToInitial n
        else if e ∈ Event.controllerErrors then do
          vSMBusHandleActionBusError n e
          vAnnounceResult n false
          vResetToInitial n
        else vResetToInitial n) := inferInstance
    exact .initial (List.mem_singleton.mp (hlands.rel s))

theorem Begun.size {t : Transfer} (hs : Begun n s₁ s) (ht : t.xProtocol = .ARP_ASSIGN_ADDRESS) :
    Underway n s₁ (exec (do
      let size ← ulSMBusHWReadTgtRxFifoPayload
      let _ ← ucSMBusTargetWriteDescriptorACK false
      let part := if size < FIFO_FILL_TRIGGER then 1 else FIFO_FILL_TRIGGER
      setTransfer n fun t =>
        { t with
          usExpectedByteCount := size
          usReceiveIndex := 0
          ucExpectedByteCountPart := part }
      write (.TgtRxFifoFillThreshold part)
      if t.xProtocol = .BLK_WRITE_BLK_RD_PROCESS_CALL ∧ size = 0 then do
        vSMBusHandleActionGetDataFromApplication n
        vSMBusNextStateDecoder n .AWAITING_READ
      else vSMBusNextStateDecoder n .AWAITING_DATA) s) := by
  have hread : exec ulSMBusHWReadTgtRxFifoPayload s =
      { s with registers := s.registers.tail, received := s.received ++ [s.nextByte] } := rfl
  rw [exec_bind, hread, exec_bind]
  have hk : Aside n { s with registers := s.registers.tail, received := s.received ++ [s.nextByte] }
      (exec (ucSMBusTargetWriteDescriptorACK false)
        { s with registers := s.registers.tail, received := s.received ++ [s.nextByte] }) :=
    Within.rel _
  generalize exec (ucSMBusTargetWriteDescriptorACK false) _ = k at hk ⊢
  have hgathered := hk.gathered
  simp only [Profile.gathered, Prod.mk.injEq] at hgathered
  obtain ⟨hconfig, hcandidates, hreceived, hprotocol, -⟩ := hgathered
  have hread' : Unrefused n s₁
      { s with registers := s.registers.tail, received := s.received ++ [s.nextByte] } :=
    hs.unrefused
  obtain ⟨ws, hws, hnone⟩ := hread'.aside hk
  have hplain : ¬ (t.xProtocol = .BLK_WRITE_BLK_RD_PROCESS_CALL ∧
      value ulSMBusHWReadTgtRxFifoPayload s = 0) := by simp [ht]
  simp only [exec_bind, if_neg hplain]
  generalize (if value ulSMBusHWReadTgtRxFifoPayload s < FIFO_FILL_TRIGGER then 1
    else FIFO_FILL_TRIGGER) = part
  rw [Underway]
  simp only [vSMBusNextStateDecoder, write, setTransfer, exec_modify, Function.update_self]
  refine ⟨[], hconfig.trans hs.config, ⟨s.nextByte, ?_⟩,
    ⟨ws ++ [.TgtRxFifoFillThreshold part], ?_, fun hfalse => ?_⟩, ?_, ?_, fun i hi _ => ?_, fun _ hnil => absurd rfl hnil, fun hlen => ?_, .inl ?_⟩
  · rw [hreceived, hs.received]
  · rw [hws, List.append_assoc]
  · simp only [Function.update_self] at hfalse
    simpa using hnone hfalse
  · simpa using hprotocol.trans hs.protocol
  · simp
  · simp [hcandidates, hs.candidates i hi, agrees_nil]
  · simp at hlen
  · simp

theorem Begun.step (hs : Begun n s₁ s) (hst : s.xState n = .AWAITING_BLOCK_SIZE) (e : Event) :
    Underway n s₁ (exec (vStateAwaitingBlockSize n e) s) := by
  have hunder : Underway n s₁ s := by
    rw [Underway, hst]
    exact hs
  unfold vStateAwaitingBlockSize
  split
  · exact hunder
  · rw [exec_transfer_bind, if_pos (by simp [hs.protocol]), exec_bind, exec_ite]
    have hempty : Aside n s (exec ulSMBusHWReadTgtRxFifoStatusEmpty s) := Within.rel s
    generalize exec ulSMBusHWReadTgtRxFifoStatusEmpty s = m at hempty ⊢
    split
    · exact hunder.aside hempty
    · exact (hs.aside hempty).size hs.protocol
  · exact hunder.otherEvent _

theorem Reading.step (hs : Reading n s₁ bytes s)
    (hst : s.xState n = .AWAITING_DATA) (hi2c : (s₁.xConfig n).ulI2CDevice = false) (e : Event) :
    Underway n s₁ (exec (vStateAwaitingData n e) s) := by
  have hunder : Underway n s₁ s := by
    rw [Underway, hst]
    exact ⟨bytes, hs⟩
  have hi2c' : ¬ (s.xConfig n).ulI2CDevice = true := by simp [hs.config, hi2c]
  unfold vStateAwaitingData
  split
  · rw [exec_config_bind, exec_transfer_bind, if_neg (by simp [hs.protocol])]
    exact hunder
  · rw [exec_config_bind, exec_transfer_bind, if_pos (by simp [hs.protocol]), if_neg hi2c']
    exact hunder.aside (Within.rel s)
  · rw [exec_config_bind, if_neg hi2c']
    have hlands : Within (Lands n [.INITIAL]) (do
        vAnnounceResult n false
        vSMBusHandleActionBusError n .TARGET_DONE_IRQ
        vResetToInitial n) := inferInstance
    exact .initial (List.mem_singleton.mp (hlands.rel s))
  · rw [exec_config_bind, exec_transfer_bind, if_neg hi2c', if_pos hs.protocol, exec_bind]
    have hread : Reading n s₁ bytes (exec ulSMBusHWReadTgtRxFifoStatusFillLevel s) :=
      hs.aside (Within.rel s)
    obtain ⟨more, hmore⟩ := Reading.portion (value ulSMBusHWReadTgtRxFifoStatusFillLevel s) hread
    generalize exec (times _ _) _ = s' at hmore ⊢
    unfold Underway
    rcases hmore.state with hst' | ⟨hst', -⟩
    · rw [hst']
      exact ⟨_, hmore⟩
    · rw [hst']
      exact ⟨_, hmore.settled hst'⟩
  · exact hunder.otherEvent _

theorem Settled.step (hs : Settled n s₁ bytes s)
    (hst : s.xState n = .AWAITING_DONE) (hi2c : (s₁.xConfig n).ulI2CDevice = false) (e : Event) :
    Underway n s₁ (exec (vStateAwaitingDone n e) s) := by
  have hunder : Underway n s₁ s := by
    rw [Underway, hst]
    exact ⟨bytes, hs⟩
  have honward : ∀ s', Onward n s s' → Underway n s₁ s' := fun s' h => by
    obtain ⟨more, hmore⟩ := hs.onward h
    rw [Underway, h.state, hst]
    exact ⟨_, hmore⟩
  have hi2c' : ¬ (s.xConfig n).ulI2CDevice = true := by simp [hs.config, hi2c]
  unfold vStateAwaitingDone
  split
  · exact hunder
  · exact honward _ (Within.rel s)
  · exact honward _ (Within.rel s)
  · have hother : ¬ Protocol.ARP_ASSIGN_ADDRESS ∈
        targetReads ++ targetWrites ++ [.RECEIVE_BYTE, .HOST_NOTIFY, .NONE] := by decide
    have harp : Protocol.ARP_ASSIGN_ADDRESS ∈ arpProtocols := by decide
    rw [exec_config_bind, exec_transfer_bind, if_neg hi2c', vTargetDone, hs.protocol,
      if_neg hother, if_pos harp]
    exact .initial (List.mem_singleton.mp (Within.rel (R := Lands n [.INITIAL]) s))
  · rw [exec_transfer_bind, if_pos (by simp [hs.protocol, arpProtocols])]
    exact honward _ (Within.rel s)
  · have hlands : Within (Lands n [.INITIAL]) (do
        let t ← transfer n
        vControllerDone n t.xProtocol) := by
      unfold vControllerDone
      infer_instance
    exact .initial (List.mem_singleton.mp (hlands.rel s))
  · split
    · have hlands : Within (Lands n [.INITIAL]) (do
          vSMBusHandleActionBusError n e
          vAnnounceResult n false
          vResetToInitial n) := inferInstance
      exact .initial (List.mem_singleton.mp (hlands.rel s))
    · exact hunder.otherEvent _

end Steps

/-! ### Transfers over runs -/

/-- The interrupts, and the rounds of the queue that serve instance `n`. -/
def Action.serves (s : Profile) (n : ℕ) : Action → Prop
  | .targetInterrupts _ _ _ | .controllerInterrupts _ _ => True
  | .handle _ _ => s.pending = some n
  | _ => False

instance (s : Profile) (n : ℕ) (a : Action) : Decidable (a.serves s n) := by
  induction a using Action.casesOn <;> unfold Action.serves <;> infer_instance

/-- Instance `n` is in a transfer, which other activity of the driver leaves aside. -/
def Serving (n : ℕ) (s : Profile) (a : Action) : Prop :=
  s.xState n ≠ .INITIAL ∧ (a.serves s n ∨ ∀ s', step s a = some s' → Aside n s s')

/-- The next event is the command byte of an `ASSIGN_ADDRESS`. -/
structure Commanded (n : ℕ) (s : Profile) : Prop where
  state : s.xState n = .AWAITING_COMMAND_BYTE
  address : (s.xConfig n).ucSMBusAddr = DEVICE_DEFAULT_ARP_ADDRESS
  device : (s.xConfig n).ulI2CDevice = false
  registers : ∃ status command rest, s.registers = status :: command :: rest ∧
    status % 2 = 0 ∧ command % 2 ^ 8 = 0x04

theorem ucSMBusHandleActionGetARPProtocol_assign {s : Profile} {status command : ℕ}
    {rest : List ℕ} (h : s.registers = status :: command :: rest) (hstatus : status % 2 = 0)
    (hcommand : command % 2 ^ 8 = 0x04) :
    value (ucSMBusHandleActionGetARPProtocol n) s = true ∧
      exec (ucSMBusHandleActionGetARPProtocol n) s =
        { s with
          registers := rest
          received := s.received ++ [0x04]
          xTransfer := Function.update s.xTransfer n
            { s.xTransfer n with ucCommand := 0x04, xProtocol := .ARP_ASSIGN_ADDRESS } } := by
  have hempty : value ulSMBusHWReadTgtRxFifoStatusEmpty s = false := by
    change decide (s.registers.headD 1 % 2 = 1) = false
    simp [h, hstatus]
  have hempty' : exec ulSMBusHWReadTgtRxFifoStatusEmpty s =
      { s with registers := command :: rest } := by
    change { s with registers := s.registers.tail } = _
    rw [h, List.tail_cons]
  have hread : value ulSMBusHWReadTgtRxFifoPayload { s with registers := command :: rest } =
      0x04 := hcommand
  have hread' : exec ulSMBusHWReadTgtRxFifoPayload { s with registers := command :: rest } =
      { s with registers := rest, received := s.received ++ [0x04] } := by
    rw [← hcommand]
    rfl
  have hprotocol : arpProtocol 0x04 = some .ARP_ASSIGN_ADDRESS := by decide
  constructor
  · rw [ucSMBusHandleActionGetARPProtocol, value_bind, hempty, if_neg (by decide), hempty',
      value_bind, hread, hread', hprotocol]
    rfl
  · rw [ucSMBusHandleActionGetARPProtocol, exec_bind, hempty, if_neg (by decide), hempty',
      exec_bind, hread, hread', hprotocol, if_pos (by rfl), if_neg (by decide)]
    simp only [exec_bind, exec_pure, setTransfer, exec_modify, Function.update_self,
      Function.update_idem, Option.getD_some]

/-- **The command byte.** -/
theorem Commanded.begun {s : Profile} (h : Commanded n s) :
    (exec (vSMBusFSM n .TARGET_DATA_IRQ) s).xState n = .AWAITING_BLOCK_SIZE ∧
      (exec (vSMBusFSM n .TARGET_DATA_IRQ) s).xConfig = s.xConfig ∧
      Begun n (exec (vSMBusFSM n .TARGET_DATA_IRQ) s) (exec (vSMBusFSM n .TARGET_DATA_IRQ) s) := by
  obtain ⟨status, command, rest, hregisters, hstatus, hcommand⟩ := h.registers
  have hnotify : ¬ (s.xConfig n).ucSMBusAddr = NOTIFY_ARP_MASTER_ADDRESS := by
    rw [h.address]
    decide
  obtain ⟨hvalue, hexec⟩ :=
    ucSMBusHandleActionGetARPProtocol_assign (n := n) hregisters hstatus hcommand
  rw [vSMBusFSM, exec_get_bind, h.state]
  simp only [vStateAwaitingCommandByte]
  rw [exec_config_bind, if_neg hnotify, if_pos h.address, exec_bind, hvalue, hexec, if_pos rfl,
    exec_transfer_bind, vARPCommand]
  simp only [Function.update_self, if_true]
  rw [exec_bind, exec_bind]
  generalize hm : exec (setUDIDMatch _) _ = m
  have hk : Aside n m (exec (ucSMBusTargetWriteDescriptorACK false) m) := Within.rel m
  generalize exec (ucSMBusTargetWriteDescriptorACK false) m = k at hk ⊢
  have hgathered := hk.gathered
  simp only [Profile.gathered, Prod.mk.injEq, ← hm, setUDIDMatch, exec_modify,
    Function.update_self] at hgathered
  obtain ⟨hconfig, hcandidates, -, hprotocol, -⟩ := hgathered
  refine ⟨by simp [vSMBusNextStateDecoder], hconfig, rfl, rfl,
    ⟨[], (List.append_nil _).symm, fun _ => List.not_mem_nil⟩, hprotocol, fun i hi => ?_⟩
  change k.ucUDIDMatch i = true
  rw [hcandidates]
  exact if_pos hi

theorem Underway.event (hs : Underway n s₁ s)
    (hi2c : (s₁.xConfig n).ulI2CDevice = false) (hst : s.xState n ≠ .INITIAL) (e : Event) :
    Underway n s₁ (exec (vSMBusFSM n e) s) := by
  rw [vSMBusFSM, exec_get_bind]
  unfold Underway at hs
  split at hs
  · rename_i hsize
    rw [hsize]
    exact hs.step hsize e
  · rename_i hdata
    rw [hdata]
    obtain ⟨bytes, hs⟩ := hs
    exact hs.step hdata hi2c e
  · rename_i hdone
    rw [hdone]
    obtain ⟨bytes, hs⟩ := hs
    exact hs.step hdone hi2c e
  · exact absurd ‹_› hst
  · exact hs.elim

theorem Underway.kept (hs : Underway n s₁ s)
    (hst : s.xState n ≠ .INITIAL) :
    s.xConfig = s₁.xConfig ∧ (s.xTransfer n).xProtocol = .ARP_ASSIGN_ADDRESS := by
  unfold Underway at hs
  split at hs
  · exact ⟨hs.config, hs.protocol⟩
  · obtain ⟨bytes, hs⟩ := hs
    exact ⟨hs.config, hs.protocol⟩
  · obtain ⟨bytes, hs⟩ := hs
    exact ⟨hs.config, hs.protocol⟩
  · exact absurd ‹_› hst
  · exact hs.elim

theorem config_of_not_assigning {e : Event} {s : Profile}
    (hp : (s.xTransfer n).xProtocol = .ARP_ASSIGN_ADDRESS)
    (hi2c : (s.xConfig n).ulI2CDevice = false) (h : ¬ s.assigning n e) :
    (exec (vSMBusFSM n e) s).xConfig = s.xConfig := by
  refine congrArg Prod.fst (?_ : (exec (vSMBusFSM n e) s).targets = s.targets)
  by_cases hdone : s.xState n = .AWAITING_DONE ∧ e = .TARGET_DONE_IRQ
  · obtain ⟨hst, rfl⟩ := hdone
    have hnack : ¬ (s.xTransfer n).ucNackSent = false := fun hfalse =>
      h ⟨hst, rfl, hi2c, hp, hfalse⟩
    have hassign := targetDone_assign n s hp
    rw [if_neg hnack] at hassign
    rw [vSMBusFSM, exec_get_bind, hst]
    simp only [vStateAwaitingDone]
    rw [exec_config_bind, exec_transfer_bind, if_neg (by simp [hi2c])]
    exact hassign
  · exact vSMBusFSM_within (R := Same Profile.targets) n hdone

theorem Serving.aside {s s' : Profile} {a : Action} (ha : Serving n s a)
    (h : step s a = some s') (hother : ¬ ((∃ registers answer, a = .handle registers answer) ∧
      s.pending = some n)) : Aside n s s' := by
  rcases ha.2 with hserves | haside
  · rcases step_cases h with ⟨registers, answer, m, e, es, rfl, hpending, -, -⟩ | ⟨-, rfl⟩
    · exact absurd ⟨⟨registers, answer, rfl⟩, hserves⟩ hother
    · have hrest : Aside n s s.rest := aside_of_same n rfl rfl
      cases a with
      | targetInterrupts vector errors addr =>
        have hentry : Aside n s.rest (exec (vTargetInterrupts vector errors addr) s.rest) :=
          Within.rel _
        exact IsTrans.trans _ _ _ hrest hentry
      | controllerInterrupts vector errors =>
        have hentry : Aside n s.rest (exec (vControllerInterrupts vector errors) s.rest) :=
          Within.rel _
        exact IsTrans.trans _ _ _ hrest hentry
      | handle registers answer => exact hrest
      | _ => exact hserves.elim
  · exact haside s' h

/-- **The step of a transfer.** -/
theorem Underway.step {a : Action} (hs : Underway n s₁ s)
    (hi2c : (s₁.xConfig n).ulI2CDevice = false) (ha : Serving n s a) (h : step s a = some s') :
    Underway n s₁ s' := by
  by_cases hown : (∃ registers answer, a = .handle registers answer) ∧ s.pending = some n
  · obtain ⟨⟨registers, answer, rfl⟩, hpending⟩ := hown
    obtain ⟨m, e, es, hm, -, rfl⟩ := handle_cases h
    obtain rfl : n = m := Option.some.inj (hpending.symm.trans hm)
    have htaken : Underway n s₁ (s.take n registers answer) :=
      hs.aside (aside_of_same n rfl rfl)
    exact htaken.event hi2c ha.1 e
  · exact hs.aside (ha.aside h hown)

/-- The step completes the transfer, and no NACK was noted in it. -/
def Action.completes (s : Profile) (n : ℕ) (a : Action) : Prop :=
  (∃ registers answer, a = .handle registers answer) ∧ s.pending = some n ∧
    (s.xEventSrcCircularBuf n).head? = some .TARGET_DONE_IRQ ∧ s.xState n = .AWAITING_DONE ∧
    (s.xTransfer n).ucNackSent = false

theorem mem_matching {C : ℕ → Config} {bytes : List ℕ} {m : ℕ}
    (h : (matching C bytes).getLast? = some m) :
    (m < NUM_NON_ARP_INSTANCES ∧ (C m).ucInstanceInUse = true ∧ (C m).agrees bytes) ∧
      ∀ j < NUM_NON_ARP_INSTANCES, (C j).ucInstanceInUse = true → (C j).agrees bytes → j ≤ m := by
  obtain ⟨front, hfront⟩ := List.getLast?_eq_some_iff.mp h
  have hmem : ∀ j, j ∈ matching C bytes ↔ j < NUM_NON_ARP_INSTANCES ∧
      (C j).ucInstanceInUse = true ∧ (C j).agrees bytes := fun j => by
    simp [matching]
  have hsorted : (matching C bytes).Pairwise (· < ·) := List.pairwise_lt_range.filter _
  refine ⟨(hmem m).mp (by simp [hfront]), fun j hj huse hagrees => ?_⟩
  have hj : j ∈ matching C bytes := (hmem j).mpr ⟨hj, huse, hagrees⟩
  rw [hfront] at hj hsorted
  rcases List.mem_append.mp hj with hj | hj
  · exact ((List.pairwise_append.mp hsorted).2.2 j hj m (by simp)).le
  · exact (List.mem_singleton.mp hj).le

/-- **Address assignment.** In a transfer that began with the command byte of an `ASSIGN_ADDRESS`,
however its bytes are read, the table of instances changes only in the step that completes it, and
then sixteen bytes of UDID and an address were received and no NACK was sent, and the last instance
in use with this UDID is assigned the address; no other instance changes. -/
theorem address_assignment {n : ℕ} {s₀ s s' : Profile} {a : Action} (h₀ : Commanded n s₀)
    (hs : Reaches step (Serving n) (exec (vSMBusFSM n .TARGET_DATA_IRQ) s₀) s)
    (ha : Serving n s a) (h : step s a = some s') :
    (¬ a.completes s n → s'.xConfig = s₀.xConfig) ∧
    (a.completes s n → ∃ size bytes ws m,
      s.received = (exec (vSMBusFSM n .TARGET_DATA_IRQ) s₀).received ++ size :: bytes ∧
      s.written = (exec (vSMBusFSM n .TARGET_DATA_IRQ) s₀).written ++ ws ∧
      .TARGET_WRITE_NACK ∉ ws ∧ UDID_LENGTH < bytes.length ∧
      (m < NUM_NON_ARP_INSTANCES ∧ (s₀.xConfig m).ucInstanceInUse = true ∧
        (s₀.xConfig m).agrees bytes) ∧
      (∀ j < NUM_NON_ARP_INSTANCES, (s₀.xConfig j).ucInstanceInUse = true →
        (s₀.xConfig j).agrees bytes → j ≤ m) ∧
      s'.xConfig =
        Function.update s₀.xConfig m ((s₀.xConfig m).assign (assignedAddress bytes))) := by
  obtain ⟨hst₁, hconfig₁, hbegun⟩ := h₀.begun
  generalize exec (vSMBusFSM n .TARGET_DATA_IRQ) s₀ = s₁ at *
  have hi2c : (s₁.xConfig n).ulI2CDevice = false := by
    rw [hconfig₁]
    exact h₀.device
  have hstart : Underway n s₁ s₁ := by
    rw [Underway, hst₁]
    exact hbegun
  have hunder : Underway n s₁ s := hs.invariant (Underway n s₁) hstart
    fun _ _ _ hs hok hstep => hs.step hi2c hok hstep
  obtain ⟨hconfig, hprotocol⟩ := hunder.kept ha.1
  have hsame : s.xConfig = s₀.xConfig := hconfig.trans hconfig₁
  rw [hconfig₁] at hi2c
  by_cases hown : (∃ registers answer, a = .handle registers answer) ∧ s.pending = some n
  · obtain ⟨⟨registers, answer, rfl⟩, hpending⟩ := hown
    obtain ⟨m, e, es, hm, hqueue, rfl⟩ := handle_cases h
    obtain rfl : n = m := Option.some.inj (hpending.symm.trans hm)
    have hdevice : (s.xConfig n).ulI2CDevice = false := by
      rw [hsame]
      exact hi2c
    refine ⟨fun hother => ?_, fun hcompletes => ?_⟩
    · refine (config_of_not_assigning (s := s.take n registers answer) hprotocol hdevice
        fun hassigning => ?_).trans hsame
      obtain ⟨hst, rfl, -, -, hnack⟩ := hassigning
      exact hother ⟨⟨registers, answer, rfl⟩, hpending, by rw [hqueue, List.head?_cons], hst, hnack⟩
    · obtain ⟨-, -, hhead, hst, hnack⟩ := hcompletes
      obtain rfl : e = .TARGET_DONE_IRQ := by simpa [hqueue] using hhead
      have hassigning : (s.take n registers answer).assigning n .TARGET_DONE_IRQ :=
        ⟨hst, rfl, hdevice, hprotocol, hnack⟩
      have htargets := vSMBusFSM_address.2 hassigning
      rw [vApplyAssignAddress_effect] at htargets
      have happlied := congrArg Prod.fst htargets
      rw [Underway, hst] at hunder
      obtain ⟨bytes, hsettled⟩ := hunder
      obtain ⟨size, hsize⟩ := hsettled.received
      obtain ⟨ws, hws, hnone⟩ := hsettled.unrefused
      obtain ⟨hlen, hmatched, haddress⟩ := hsettled.outcome hnack
      rw [hconfig₁] at hmatched
      obtain ⟨hmeant, hlast⟩ := mem_matching hmatched
      refine ⟨size, bytes, ws, _, hsize, hws, hnone hnack, ?_, hmeant, hlast, ?_⟩
      · exact lt_trans (by decide) hlen
      · rw [← haddress, ← hsame]
        exact happlied
  · refine ⟨fun _ => (ha.aside h hown).config.trans hsame, fun hcompletes => ?_⟩
    exact absurd ⟨hcompletes.1, hcompletes.2.1⟩ hown

/-! ### A transfer to a device -/

/-- The actions up to the command byte of the first transfer to a device. -/
def commandActions (a : CreateSMBus) : List Action :=
  [.createSMBus a, .targetInterrupts 0x80 0 DEVICE_DEFAULT_ARP_ADDRESS, .handle [] Answer.none,
    .targetInterrupts 0x20 0 0]

/-- The UDID, the byte with the address, and a PEC. -/
def assignBytes (ucUDID : ℕ → ℕ) (last : ℕ) : List ℕ :=
  ((List.range UDID_LENGTH).map fun k => ucUDID (UDID_DEVICE_CAPABILITIES_BYTE - k)) ++ [last, 0]

/-- The actions after the command byte, up to the end of the transfer. -/
def dataActions (bytes : List ℕ) : List Action :=
  [.targetInterrupts 0x20 0 0, .handle [0, bytes.length - 1, 0] Answer.none,
    .targetInterrupts 0x20 0 0,
    .handle (bytes.length :: bytes.flatMap fun b => [b, 0]) Answer.none,
    .targetInterrupts 0x08 0 0]

/-- The profile at the command byte, before the end and after the end of the transfer. -/
def transferred (a : CreateSMBus) (last : ℕ) : Option (Profile × Profile × Profile) := do
  let s₀ ← run step .start (commandActions a)
  let s₀ := s₀.take ARP_INSTANCE_ID [0, 0x04] Answer.none
  let s ← run (guarded step fun s a => s.xState ARP_INSTANCE_ID ≠ .INITIAL ∧
      a.serves s ARP_INSTANCE_ID) (exec (vSMBusFSM ARP_INSTANCE_ID .TARGET_DATA_IRQ) s₀)
    (dataActions (assignBytes a.ucUDID last))
  let s' ← step s (.handle [] Answer.none)
  pure (s₀, s, s')

theorem transferred_run {a : CreateSMBus} {last : ℕ} {s₀ s s' : Profile}
    (h : transferred a last = some (s₀, s, s')) :
    s₀.registers = [0, 0x04] ∧
      Reaches step (Serving ARP_INSTANCE_ID)
        (exec (vSMBusFSM ARP_INSTANCE_ID .TARGET_DATA_IRQ) s₀) s ∧
      step s (.handle [] Answer.none) = some s' := by
  obtain ⟨t, -, h⟩ := Option.bind_eq_some_iff.mp h
  obtain ⟨u, hu, h⟩ := Option.bind_eq_some_iff.mp h
  obtain ⟨v, hv, h⟩ := Option.bind_eq_some_iff.mp h
  obtain ⟨rfl, rfl, rfl⟩ : t.take ARP_INSTANCE_ID [0, 0x04] Answer.none = s₀ ∧ u = s ∧ v = s' := by
    simpa using h
  exact ⟨rfl, (Reaches.of_guarded_run _ .start hu).mono fun s a h => ⟨h.1, .inl h.2⟩, hv⟩

theorem address_assignment_device : ∃ s : Profile, (s.xConfig 0).ucSMBusAddr = 0x30 ∧
    (s.xConfig 0).ucARFlag = true ∧ (s.xConfig 0).ucAVFlag = true := by
  have h : (transferred (arpDevice 0x21) 0x60).any (fun x =>
      decide ((x.1.xState ARP_INSTANCE_ID = .AWAITING_COMMAND_BYTE ∧
        (x.1.xConfig ARP_INSTANCE_ID).ucSMBusAddr = DEVICE_DEFAULT_ARP_ADDRESS ∧
        (x.1.xConfig ARP_INSTANCE_ID).ulI2CDevice = false ∧
        (∀ m < NUM_NON_ARP_INSTANCES, (x.1.xConfig m).ucInstanceInUse = true → m = 0) ∧
        (x.1.xConfig 0).xARPCapability = .ARP_CAPABLE) ∧
        (x.2.1.pending = some ARP_INSTANCE_ID ∧
        (x.2.1.xEventSrcCircularBuf ARP_INSTANCE_ID).head? = some .TARGET_DONE_IRQ ∧
        x.2.1.xState ARP_INSTANCE_ID = .AWAITING_DONE ∧
        (x.2.1.xTransfer ARP_INSTANCE_ID).ucNackSent = false) ∧
        x.2.1.received = (exec (vSMBusFSM ARP_INSTANCE_ID .TARGET_DATA_IRQ) x.1).received ++
          17 :: assignBytes (arpDevice 0x21).ucUDID 0x60)) = true := by
    decide +kernel
  obtain ⟨⟨s₀, s, s'⟩, hrun, h⟩ := (Option.any_eq_true _ _).mp h
  obtain ⟨⟨hst, haddr, hi2c, honly, hcapable⟩, ⟨hpending, hhead, hdone, hnack⟩, hreceived⟩ :=
    of_decide_eq_true h
  obtain ⟨hregisters, hreach, hstep⟩ := transferred_run hrun
  have hserving : Serving ARP_INSTANCE_ID s (.handle [] Answer.none) :=
    ⟨by rw [hdone]; decide, .inl hpending⟩
  obtain ⟨size, bytes, ws, m, hreceived', -, -, -, ⟨hm, huse, -⟩, -, hconfig⟩ :=
    (address_assignment ⟨hst, haddr, hi2c, 0, 0x04, [], hregisters, rfl, rfl⟩ hreach hserving
      hstep).2 ⟨⟨_, _, rfl⟩, hpending, hhead, hdone, hnack⟩
  obtain rfl := honly m hm huse
  rw [hreceived] at hreceived'
  obtain ⟨rfl, rfl⟩ := List.cons.inj (List.append_cancel_left hreceived')
  have haddress : assignedAddress (assignBytes (arpDevice 0x21).ucUDID 0x60) = 0x30 := by decide
  refine ⟨s', ?_⟩
  rw [hconfig, Function.update_self, Config.assign, if_pos hcapable]
  exact ⟨haddress, rfl, rfl⟩

/-- A device whose address is fixed, and which address resolution may discover. -/
def fixedDevice (addr : ℕ) : CreateSMBus :=
  { arpDevice addr with
    ucUDID := fun k => if k = UDID_DEVICE_CAPABILITIES_BYTE then UDID_FIXED_ADDRESS else k
    xARPCapability := .FIXED_AND_DISCOVERABLE }

/-- The UDID of a device with a fixed address is received, and the device does not get the
address. -/
theorem not_assigned_address : ¬ ∀ (n : ℕ) (s₀ s s' : Profile) (a : Action), Commanded n s₀ →
    Reaches step (Serving n) (exec (vSMBusFSM n .TARGET_DATA_IRQ) s₀) s → Serving n s a →
    step s a = some s' → a.completes s n → ∀ size bytes,
      s.received = (exec (vSMBusFSM n .TARGET_DATA_IRQ) s₀).received ++ size :: bytes →
      ∃ m < NUM_NON_ARP_INSTANCES, (s₀.xConfig m).agrees bytes ∧
        (s'.xConfig m).ucSMBusAddr = assignedAddress bytes ∧ (s'.xConfig m).ucARFlag = true ∧
        (s'.xConfig m).ucAVFlag = true := by
  intro hall
  have h : (transferred (fixedDevice 0x21) 0x60).any (fun x =>
      decide ((x.1.xState ARP_INSTANCE_ID = .AWAITING_COMMAND_BYTE ∧
        (x.1.xConfig ARP_INSTANCE_ID).ucSMBusAddr = DEVICE_DEFAULT_ARP_ADDRESS ∧
        (x.1.xConfig ARP_INSTANCE_ID).ulI2CDevice = false) ∧
        (x.2.1.pending = some ARP_INSTANCE_ID ∧
        (x.2.1.xEventSrcCircularBuf ARP_INSTANCE_ID).head? = some .TARGET_DONE_IRQ ∧
        x.2.1.xState ARP_INSTANCE_ID = .AWAITING_DONE ∧
        (x.2.1.xTransfer ARP_INSTANCE_ID).ucNackSent = false) ∧
        x.2.1.received = (exec (vSMBusFSM ARP_INSTANCE_ID .TARGET_DATA_IRQ) x.1).received ++
          17 :: assignBytes (fixedDevice 0x21).ucUDID 0x60 ∧
        ∀ m < NUM_NON_ARP_INSTANCES, (x.2.2.xConfig m).ucSMBusAddr ≠ 0x30)) = true := by
    decide +kernel
  obtain ⟨⟨s₀, s, s'⟩, hrun, h⟩ := (Option.any_eq_true _ _).mp h
  obtain ⟨⟨hst, haddr, hi2c⟩, ⟨hpending, hhead, hdone, hnack⟩, hreceived, hnone⟩ :=
    of_decide_eq_true h
  obtain ⟨hregisters, hreach, hstep⟩ := transferred_run hrun
  have hserving : Serving ARP_INSTANCE_ID s (.handle [] Answer.none) :=
    ⟨by rw [hdone]; decide, .inl hpending⟩
  obtain ⟨m, hm, -, hassigned, -⟩ := hall ARP_INSTANCE_ID s₀ s s' _
    ⟨hst, haddr, hi2c, 0, 0x04, [], hregisters, rfl, rfl⟩ hreach hserving hstep
    ⟨⟨_, _, rfl⟩, hpending, hhead, hdone, hnack⟩ _ _ hreceived
  exact hnone m hm (hassigned.trans (by decide))

end Amr.Smbus
