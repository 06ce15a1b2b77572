/-
# A transfer reaches one device

Over all runs of calls on the devices of a board: when a call transfers data to or from a slave
behind a mux, the channel registers connect that slave and no channel of another device, and a read
or a write of a QSFP module that reports no error leaves the module's mux deselected.

`iQsfpModuleSelect` goes on when the second of the other muxes cannot be deselected, so the first
part holds as long as that mux connects no other device whenever this happens.
-/
import Amr.Muxed.Device
import Amr.Lib.Hoare
import Amr.Lib.Transition

namespace Amr.Muxed

open StateProgram Transition

variable {n : ℕ}

/-- The devices of a board: the mux of each is one of the three muxes of any other, and devices
behind one mux have channels of their own. -/
structure Board (n : ℕ) where
  cfg : Fin n → FW_IF_MUXED_DEVICE_CFG
  muxes : ∀ d e, (cfg e).ucSelectedMuxAddr = (cfg d).ucSelectedMuxAddr ∨
    ∃ k, (cfg e).ucSelectedMuxAddr = (cfg d).pucUnselectedMuxAddr k
  channels : ∀ d e, d ≠ e → (cfg d).ucSelectedMuxAddr = (cfg e).ucSelectedMuxAddr →
    (cfg d).bits &&& (cfg e).bits = 0

/-- The channel that a slave of the device is behind. -/
def FW_IF_MUXED_DEVICE_CFG.channel (cfg : FW_IF_MUXED_DEVICE_CFG) : Slave → UInt8
  | .ioExpander => cfg.ioExpanderBit
  | .device =>
    match cfg.xDevice with
    | .QSFP => cfg.ulMuxRegBit.toUInt8
    | .DIMM => cfg.ioExpanderBit
  | .power | .mux _ => 0

/-- No channel of a device other than `d` is connected. -/
def Alone (B : Board n) (d : Fin n) (channels : UInt8 → UInt8) : Prop :=
  ∀ e, e ≠ d → channels (B.cfg e).ucSelectedMuxAddr &&& (B.cfg e).bits = 0

/-- A transfer through a mux finds its own channel connected and no channel of another device. -/
def Isolated (B : Board n) (t : Transfer n) : Prop :=
  t.slave.muxed = true →
    t.channels (B.cfg t.pxCfg).ucSelectedMuxAddr &&& (B.cfg t.pxCfg).channel t.slave =
      (B.cfg t.pxCfg).channel t.slave ∧
    Alone B t.pxCfg t.channels

instance (B : Board n) (d : Fin n) (channels : UInt8 → UInt8) :
    Decidable (Alone B d channels) := by
  unfold Alone; infer_instance

instance (B : Board n) (t : Transfer n) : Decidable (Isolated B t) := by
  unfold Isolated; infer_instance

/-! ### The calls -/

/-- What a call depends on besides its arguments: the results of its transfers, of the pause after a
selection and of the allocation of a buffer. -/
structure Env where
  replies : List (Option (List UInt8))
  slept : Bool
  allocated : Bool

inductive Call
  | open
  | close
  | read (ullSrcPort : UInt64) (pulSize : ℕ)
  | write (ullDstPort : UInt64) (pucData : List UInt8)
  | ioctrl (xHwLevel : FW_IF_MUXED_DEVICE_HW_LEVEL_TYPE)

def Call.accesses : Call → Bool
  | .read _ pulSize => decide (pulSize ≤ FAL_QSFP_MAX_DATA)
  | .write _ pucData => decide (pucData.length ≤ FAL_QSFP_MAX_DATA)
  | _ => false

def Call.transfersData : Call → Bool
  | .read .. | .write .. => true
  | _ => false

structure Return (n : ℕ) where
  pxCfg : Fin n
  call : Call
  ulStatus : FW_IF_ERRORS
  pucData : List UInt8

structure Session (n : ℕ) where
  channels : UInt8 → UInt8
  xHwLevel : Fin n → FW_IF_MUXED_DEVICE_HW_LEVEL_TYPE
  transfers : List (Transfer n)
  /-- The last call. -/
  last : Option (Return n)

structure Action (n : ℕ) where
  pxCfg : Fin n
  call : Call
  env : Env

namespace Session

/-- Before the first call: the registers have any values. -/
def start (channels : UInt8 → UInt8)
    (xHwLevel : Fin n → FW_IF_MUXED_DEVICE_HW_LEVEL_TYPE) : Session n :=
  ⟨channels, xHwLevel, [], none⟩

def bus (s : Session n) (env : Env) : Bus n := ⟨s.channels, env.replies, s.transfers⟩

end Session

/-- The program of a call, with the status and the data that it returns. -/
def Call.program (cfg : FW_IF_MUXED_DEVICE_CFG) (d : Fin n)
    (xHwLevel : FW_IF_MUXED_DEVICE_HW_LEVEL_TYPE) (env : Env) :
    Call → StateM (Bus n) (FW_IF_ERRORS × List UInt8)
  | .open => do pure (← cfg.ulQsfpOpen d env.slept, [])
  | .close => do pure (← cfg.ulQsfpClose d, [])
  | .read ullSrcPort pulSize => cfg.ulQsfpRead d xHwLevel env.slept ullSrcPort pulSize
  | .write ullDstPort pucData => do
    pure (← cfg.ulQsfpWrite d xHwLevel env.allocated env.slept ullDstPort pucData, [])
  | .ioctrl _ => pure (.NONE, [])

/-- The hardware level of a device after a call. -/
def Call.level (call : Call) (old : FW_IF_MUXED_DEVICE_HW_LEVEL_TYPE) :
    FW_IF_MUXED_DEVICE_HW_LEVEL_TYPE :=
  match call with
  | .ioctrl xHwLevel => xHwLevel
  | _ => old

def call (B : Board n) (s : Session n) (a : Action n) : Session n where
  channels := (exec (a.call.program (B.cfg a.pxCfg) a.pxCfg (s.xHwLevel a.pxCfg) a.env)
    (s.bus a.env)).channels
  xHwLevel := Function.update s.xHwLevel a.pxCfg (a.call.level (s.xHwLevel a.pxCfg))
  transfers := (exec (a.call.program (B.cfg a.pxCfg) a.pxCfg (s.xHwLevel a.pxCfg) a.env)
    (s.bus a.env)).transfers
  last :=
    let result := value (a.call.program (B.cfg a.pxCfg) a.pxCfg (s.xHwLevel a.pxCfg) a.env)
      (s.bus a.env)
    some ⟨a.pxCfg, a.call, result.1, result.2⟩

def step (B : Board n) (s : Session n) (a : Action n) : Option (Session n) := some (call B s a)

/-- The transfers are isolated, and a read or a write of a QSFP module has deselected its mux or
reported an error. -/
structure Safe (B : Board n) (s : Session n) : Prop where
  isolated : ∀ t ∈ s.transfers, Isolated B t
  deselected : ∀ r ∈ s.last, r.call.transfersData = true → (B.cfg r.pxCfg).xDevice = .QSFP →
    r.ulStatus = .NONE → s.channels (B.cfg r.pxCfg).ucSelectedMuxAddr = 0

/-- The muxes are as a selection needs them: if the first of the other muxes is deselected, the
second is not and the mux of the module is set, the second connects no other device. -/
def SelectOk (B : Board n) (d : Fin n) (s : Bus n) : Prop :=
  (s.replies.getD 0 none).isSome = true → s.replies.getD 1 none = none →
    (s.replies.getD 2 none).isSome = true → ∀ e, e ≠ d →
      (B.cfg e).ucSelectedMuxAddr = (B.cfg d).pucUnselectedMuxAddr 1 →
        s.channels ((B.cfg d).pucUnselectedMuxAddr 1) &&& (B.cfg e).bits = 0

instance (B : Board n) (d : Fin n) (s : Bus n) : Decidable (SelectOk B d s) := by
  unfold SelectOk; infer_instance

/-- The calls after which the transfers are isolated. -/
def Ok (B : Board n) (s : Session n) (a : Action n) : Prop :=
  a.call.accesses = true → (B.cfg a.pxCfg).xDevice = .QSFP → SelectOk B a.pxCfg (s.bus a.env)

instance (B : Board n) (s : Session n) (a : Action n) : Decidable (Ok B s a) := by
  unfold Ok; infer_instance

/-! ### The registers after a selection -/

variable (d : Fin n) (slave : Slave) (buf : List UInt8) (s : Bus n)

@[simp] theorem exec_iI2C_SendRecv :
    exec (iI2C_SendRecv d slave buf) s = s.after d slave buf := rfl

@[simp] theorem exec_iI2C_Send :
    exec (iI2C_Send d slave buf) s = s.after d slave buf := rfl

@[simp] theorem value_iI2C_SendRecv :
    value (iI2C_SendRecv d slave buf) s = s.reply := rfl

@[simp] theorem value_iI2C_Send :
    value (iI2C_Send d slave buf) s = s.reply.isSome := rfl

theorem reply_eq : s.reply = s.replies.getD 0 none := by
  unfold Bus.reply
  cases s.replies <;> rfl

theorem getD_tail {α : Type} (l : List α) (i : ℕ) (a : α) : l.tail.getD i a = l.getD (i + 1) a := by
  cases l <;> rfl

theorem reply_after (d : Fin n) (slave : Slave) (buf : List UInt8) :
    (s.after d slave buf).reply = s.replies.getD 1 none := by
  rw [reply_eq]
  exact getD_tail ..

theorem exec_onSend {α : Type} (d : Fin n) (slave : Slave) (buf : List UInt8) (error : α)
    (rest : StateM (Bus n) α) (s : Bus n) :
    exec (onSuccess (iI2C_Send d slave buf) error rest) s =
      if s.reply.isSome = true then exec rest (s.after d slave buf) else s.after d slave buf :=
  exec_onSuccess ..

theorem value_onSend {α : Type} (d : Fin n) (slave : Slave) (buf : List UInt8) (error : α)
    (rest : StateM (Bus n) α) (s : Bus n) :
    value (onSuccess (iI2C_Send d slave buf) error rest) s =
      if s.reply.isSome = true then value rest (s.after d slave buf) else error :=
  value_onSuccess ..

variable (cfg : FW_IF_MUXED_DEVICE_CFG)

theorem FW_IF_MUXED_DEVICE_CFG.bits_eq :
    cfg.bits = cfg.ioExpanderBit ||| cfg.ulMuxRegBit.toUInt8 := by
  simp [FW_IF_MUXED_DEVICE_CFG.bits, FW_IF_MUXED_DEVICE_CFG.ioExpanderBit]

theorem or_and_left (a b : UInt8) : (a ||| b) &&& a = a := by
  refine UInt8.toBitVec_inj.mp (BitVec.eq_of_getLsbD_eq fun i hi => ?_)
  simp only [UInt8.toBitVec_and, UInt8.toBitVec_or, BitVec.getLsbD_and, BitVec.getLsbD_or]
  grind

theorem or_and_right (a b : UInt8) : (a ||| b) &&& b = b := by
  rw [UInt8.or_comm, or_and_left]

theorem left_and_eq_zero {a b c : UInt8} (h : (a ||| b) &&& c = 0) : a &&& c = 0 := by
  rw [← or_and_left a b, UInt8.and_assoc, UInt8.and_comm a c, ← UInt8.and_assoc, h,
    UInt8.zero_and]

theorem FW_IF_MUXED_DEVICE_CFG.bits_and_channel (slave : Slave) :
    cfg.bits &&& cfg.channel slave = cfg.channel slave := by
  cases slave with
  | power => simp [FW_IF_MUXED_DEVICE_CFG.channel]
  | mux ucMuxAddr => simp [FW_IF_MUXED_DEVICE_CFG.channel]
  | ioExpander => rw [cfg.bits_eq]; exact or_and_left _ _
  | device =>
    rw [cfg.bits_eq]
    unfold FW_IF_MUXED_DEVICE_CFG.channel
    cases cfg.xDevice
    · exact or_and_right _ _
    · exact or_and_left _ _

variable {B : Board n}

theorem alone_update {d : Fin n} {channels : UInt8 → UInt8} {v : UInt8}
    (hv : ∀ e, e ≠ d → (B.cfg e).ucSelectedMuxAddr = (B.cfg d).ucSelectedMuxAddr →
      v &&& (B.cfg e).bits = 0)
    (hother : ∀ e, e ≠ d → ∀ k, (B.cfg e).ucSelectedMuxAddr = (B.cfg d).pucUnselectedMuxAddr k →
      channels ((B.cfg d).pucUnselectedMuxAddr k) &&& (B.cfg e).bits = 0) :
    Alone B d (Function.update channels (B.cfg d).ucSelectedMuxAddr v) := by
  intro e he
  by_cases hsame : (B.cfg e).ucSelectedMuxAddr = (B.cfg d).ucSelectedMuxAddr
  · rw [hsame, Function.update_self]
    exact hv e he hsame
  · rw [Function.update_of_ne hsame]
    obtain hsel | ⟨k, hk⟩ := B.muxes d e
    · exact absurd hsel hsame
    · rw [hk]
      exact hother e he k hk

theorem Board.bits_disjoint (B : Board n) {d e : Fin n} (he : e ≠ d)
    (h : (B.cfg e).ucSelectedMuxAddr = (B.cfg d).ucSelectedMuxAddr) :
    (B.cfg d).bits &&& (B.cfg e).bits = 0 := B.channels d e (Ne.symm he) h.symm

theorem Board.ioExpanderBit_disjoint (B : Board n) {d e : Fin n} (he : e ≠ d)
    (h : (B.cfg e).ucSelectedMuxAddr = (B.cfg d).ucSelectedMuxAddr) :
    (B.cfg d).ioExpanderBit &&& (B.cfg e).bits = 0 := by
  have := B.bits_disjoint he h
  rw [(B.cfg d).bits_eq] at this
  exact left_and_eq_zero this

/-! ### What the programs keep -/

def Clean (B : Board n) (s : Bus n) : Prop := ∀ t ∈ s.transfers, Isolated B t

/-- The mux of `d` has the byte `v`, and no other device is connected. -/
structure Ready (B : Board n) (d : Fin n) (v : UInt8) (s : Bus n) : Prop where
  clean : Clean B s
  alone : Alone B d s.channels
  selected : s.channels (B.cfg d).ucSelectedMuxAddr = v

theorem clean_append {s : Bus n} {t : Transfer n} (h : Clean B s)
    (ht : Isolated B t) {s' : Bus n} (hs' : s'.transfers = s.transfers ++ [t]) : Clean B s' := by
  intro u hu
  rw [hs'] at hu
  rcases List.mem_append.mp hu with hu | hu
  · exact h u hu
  · obtain rfl := List.mem_singleton.mp hu
    exact ht

theorem Clean.after_unmuxed {s : Bus n} (h : Clean B s) (d : Fin n) (slave : Slave)
    (hslave : slave.muxed = false) (buf : List UInt8) : Clean B (s.after d slave buf) :=
  clean_append h (fun hm => by simp [hslave] at hm) rfl

theorem Ready.after {d : Fin n} {v : UInt8} {s : Bus n} (h : Ready B d v s)
    (slave : Slave) (hslave : slave.muxed = true)
    (hv : v &&& (B.cfg d).channel slave = (B.cfg d).channel slave) (buf : List UInt8) :
    Ready B d v (s.after d slave buf) := by
  have hchannels : (s.after d slave buf).channels = s.channels := by
    cases slave <;> first | rfl | cases hslave
  refine ⟨clean_append h.clean (fun _ => ⟨?_, h.alone⟩) rfl, ?_, ?_⟩
  · change s.channels _ &&& _ = _
    rw [h.selected]
    exact hv
  · rw [hchannels]
    exact h.alone
  · rw [hchannels]
    exact h.selected

section Keeps

variable {B : Board n} {d : Fin n} {v : UInt8} {R : Bus n → Bus n → Prop}

instance within_onSuccess {α : Type} [Std.Refl R] [IsTrans _ R] (m : StateM (Bus n) Bool)
    (error : α) (rest : StateM (Bus n) α) [Within R m] [Within R rest] :
    Within R (onSuccess m error rest) := by
  unfold onSuccess
  infer_instance

instance within_onByte {α : Type} [Std.Refl R] [IsTrans _ R]
    (m : StateM (Bus n) (Option (List UInt8))) (error : α) (rest : UInt8 → StateM (Bus n) α)
    [Within R m] [∀ b, Within R (rest b)] : Within R (onByte m error rest) := by
  refine Within.seq inferInstance fun r => ?_
  cases r <;> infer_instance

instance keeps_send_mux (ucMuxAddr : UInt8) (buf : List UInt8) :
    Within (Keeps (Clean B)) (iI2C_Send d (.mux ucMuxAddr) buf) :=
  ⟨fun _ h => h.after_unmuxed d _ rfl buf⟩

instance keeps_send_power (buf : List UInt8) :
    Within (Keeps (Clean B)) (iI2C_Send d .power buf) :=
  ⟨fun _ h => h.after_unmuxed d _ rfl buf⟩

instance keeps_sendRecv_power (buf : List UInt8) :
    Within (Keeps (Clean B)) (iI2C_SendRecv d .power buf) :=
  ⟨fun _ h => h.after_unmuxed d _ rfl buf⟩

instance keeps_send_device (buf : List UInt8) :
    Within (Keeps (Ready B d (B.cfg d).bits)) (iI2C_Send d .device buf) :=
  ⟨fun _ h => h.after .device rfl ((B.cfg d).bits_and_channel _) buf⟩

instance keeps_sendRecv_device (buf : List UInt8) :
    Within (Keeps (Ready B d (B.cfg d).bits)) (iI2C_SendRecv d .device buf) :=
  ⟨fun _ h => h.after .device rfl ((B.cfg d).bits_and_channel _) buf⟩

instance keeps_send_ioExpander (buf : List UInt8) :
    Within (Keeps (Ready B d (B.cfg d).bits)) (iI2C_Send d .ioExpander buf) :=
  ⟨fun _ h => h.after .ioExpander rfl ((B.cfg d).bits_and_channel _) buf⟩

instance keeps_sendRecv_ioExpander (buf : List UInt8) :
    Within (Keeps (Ready B d (B.cfg d).bits)) (iI2C_SendRecv d .ioExpander buf) :=
  ⟨fun _ h => h.after .ioExpander rfl ((B.cfg d).bits_and_channel _) buf⟩

instance keeps_send_ioExpander_open (buf : List UInt8) :
    Within (Keeps (Ready B d (B.cfg d).ioExpanderBit)) (iI2C_Send d .ioExpander buf) :=
  ⟨fun _ h => h.after .ioExpander rfl UInt8.and_self buf⟩

end Keeps

/-! ### The functions -/

section Functions

variable {B : Board n} {d : Fin n}

open FW_IF_MUXED_DEVICE_CFG

theorem keeps_clean_of_ready {α : Type} {v : UInt8} {s : Bus n} (h : Ready B d v s)
    (m : StateM (Bus n) α) [hm : Within (Keeps (Ready B d v)) m] : Clean B (exec m s) :=
  (hm.rel s h).clean

theorem setMuxes_clean {α : Type} {v : UInt8} {error : α} {rest : StateM (Bus n) α}
    (hv : ∀ e, e ≠ d → (B.cfg e).ucSelectedMuxAddr = (B.cfg d).ucSelectedMuxAddr →
      v &&& (B.cfg e).bits = 0)
    [Within (Keeps (Ready B d v)) rest] :
    Within (Keeps (Clean B)) ((B.cfg d).setMuxes d v error rest) := by
  refine ⟨fun s hs => ?_⟩
  unfold setMuxes
  simp only [exec_onSend]
  set s₁ := s.after d (.mux ((B.cfg d).pucUnselectedMuxAddr 0))
    [FAL_QSFP_MUX_IO_EXPANDER_DESELECTED] with hs₁
  set s₂ := s₁.after d (.mux ((B.cfg d).pucUnselectedMuxAddr 1))
    [FAL_QSFP_MUX_IO_EXPANDER_DESELECTED] with hs₂
  set s₃ := s₂.after d (.mux (B.cfg d).ucSelectedMuxAddr) [v] with hs₃
  have hclean₁ : Clean B s₁ := hs.after_unmuxed d _ rfl _
  have hclean₂ : Clean B s₂ := hclean₁.after_unmuxed d _ rfl _
  have hclean₃ : Clean B s₃ := hclean₂.after_unmuxed d _ rfl _
  split_ifs with h₁ h₂ h₃
  · have hchannels₁ : s₁.channels =
        Function.update s.channels ((B.cfg d).pucUnselectedMuxAddr 0) 0 := if_pos h₁
    have hchannels₂ : s₂.channels =
        Function.update s₁.channels ((B.cfg d).pucUnselectedMuxAddr 1) 0 := if_pos h₂
    have hchannels₃ : s₃.channels =
        Function.update s₂.channels (B.cfg d).ucSelectedMuxAddr v := if_pos h₃
    have hzero : ∀ k, s₂.channels ((B.cfg d).pucUnselectedMuxAddr k) = 0 := by
      intro k
      rw [hchannels₂, hchannels₁]
      fin_cases k
      · simp only [Function.update_apply, Fin.zero_eta, if_true]
        split_ifs <;> rfl
      · exact Function.update_self ..
    have hready : Ready B d v s₃ := by
      refine ⟨hclean₃, ?_, ?_⟩
      · rw [hchannels₃]
        refine alone_update hv fun e _ k _ => ?_
        rw [hzero k, UInt8.zero_and]
      · rw [hchannels₃, Function.update_self]
    exact keeps_clean_of_ready hready rest
  · exact hclean₃
  · exact hclean₂
  · exact hclean₁

theorem selectMux_spec : Triple (fun s => Clean B s ∧ SelectOk B d s) ((B.cfg d).selectMux d)
    fun selected s => Clean B s ∧ (selected = true → Ready B d (B.cfg d).bits s) := by
  rintro s ⟨hs, hok⟩
  unfold selectMux
  simp only [exec_onSend, value_onSend, exec_bind, value_bind, value_iI2C_Send, exec_iI2C_Send]
  set s₁ := s.after d (.mux ((B.cfg d).pucUnselectedMuxAddr 0))
    [FAL_QSFP_MUX_IO_EXPANDER_DESELECTED] with hs₁
  set s₂ := s₁.after d (.mux ((B.cfg d).pucUnselectedMuxAddr 1))
    [FAL_QSFP_MUX_IO_EXPANDER_DESELECTED] with hs₂
  set s₃ := s₂.after d (.mux (B.cfg d).ucSelectedMuxAddr) [(B.cfg d).bits] with hs₃
  have hclean₁ : Clean B s₁ := hs.after_unmuxed d _ rfl _
  have hclean₂ : Clean B s₂ := hclean₁.after_unmuxed d _ rfl _
  have hclean₃ : Clean B s₃ := hclean₂.after_unmuxed d _ rfl _
  split_ifs with h₁
  · refine ⟨hclean₃, fun h₃ => ?_⟩
    have hchannels₁ : s₁.channels =
        Function.update s.channels ((B.cfg d).pucUnselectedMuxAddr 0) 0 := if_pos h₁
    have hchannels₃ : s₃.channels =
        Function.update s₂.channels (B.cfg d).ucSelectedMuxAddr (B.cfg d).bits := if_pos h₃
    have hother : ∀ e, e ≠ d → ∀ k,
        (B.cfg e).ucSelectedMuxAddr = (B.cfg d).pucUnselectedMuxAddr k →
        s₂.channels ((B.cfg d).pucUnselectedMuxAddr k) &&& (B.cfg e).bits = 0 := by
      intro e he k hk
      by_cases h₂ : s₁.reply.isSome = true
      · have hchannels₂ : s₂.channels =
            Function.update s₁.channels ((B.cfg d).pucUnselectedMuxAddr 1) 0 := if_pos h₂
        rw [hchannels₂, hchannels₁]
        simp only [Function.update_apply]
        split_ifs with hk₁ hk₀
        · exact UInt8.zero_and
        · exact UInt8.zero_and
        · fin_cases k
          · exact absurd rfl hk₀
          · exact absurd rfl hk₁
      · -- the failure that is overlooked
        have hchannels₂ : s₂.channels = s₁.channels := if_neg h₂
        rw [hchannels₂, hchannels₁]
        simp only [Function.update_apply]
        split_ifs with hk₀
        · exact UInt8.zero_and
        · fin_cases k
          · exact absurd rfl hk₀
          · refine hok ?_ ?_ ?_ e he hk
            · rw [← reply_eq]
              exact h₁
            · rw [← reply_after s d (.mux ((B.cfg d).pucUnselectedMuxAddr 0))]
              exact Option.not_isSome_iff_eq_none.mp h₂
            · have hreply₂ : s₂.reply = s.replies.getD 2 none :=
                (reply_after s₁ d _ _).trans (getD_tail ..)
              rw [← hreply₂]
              exact h₃
    refine ⟨hclean₃, ?_, ?_⟩
    · rw [hchannels₃]
      exact alone_update (fun e he h => B.bits_disjoint he h) hother
    · rw [hchannels₃, Function.update_self]
  · exact ⟨hclean₁, fun h => h.elim⟩

instance keeps_selectModule (slept : Bool) :
    Within (Keeps (Ready B d (B.cfg d).bits)) (selectModule d slept) := by
  refine Within.seq inferInstance fun r => ?_
  cases r with
  | none => infer_instance
  | some pucReadBuf =>
    dsimp only
    infer_instance

instance keeps_writeModule (xHwLevel : FW_IF_MUXED_DEVICE_HW_LEVEL_TYPE) (allocated : Bool)
    (ullDstPort : UInt64) (pucData : List UInt8) :
    Within (Keeps (Ready B d (B.cfg d).bits))
      (writeModule d xHwLevel allocated ullDstPort pucData) := by
  unfold writeModule
  cases xHwLevel <;> infer_instance

instance keeps_readModule (xHwLevel : FW_IF_MUXED_DEVICE_HW_LEVEL_TYPE) (ullSrcPort : UInt64) :
    Within (Keeps (Ready B d (B.cfg d).bits)) (readModule d xHwLevel ullSrcPort) := by
  unfold readModule
  cases xHwLevel <;> infer_instance

theorem iQsfpModuleSelect_spec (slept : Bool) :
    Triple (fun s => Clean B s ∧ SelectOk B d s) ((B.cfg d).iQsfpModuleSelect d slept)
      fun selected s => Clean B s ∧ (selected = true → Ready B d (B.cfg d).bits s) := by
  refine Triple.bind selectMux_spec fun selected => ?_
  refine Triple.ite (fun hselected => ?_) fun hselected => ?_
  · refine fun s hs => ⟨?_, fun _ => ?_⟩
    · exact keeps_clean_of_ready (hs.2 hselected) _
    · exact Within.rel (R := Keeps _) s (hs.2 hselected)
  · exact Triple.pure fun s hs => ⟨hs.1, fun h => absurd h Bool.false_ne_true⟩

theorem iQsfpModuleDeselect_spec :
    Triple (Clean B) ((B.cfg d).iQsfpModuleDeselect d)
      fun deselected s => Clean B s ∧
        (deselected = true → s.channels (B.cfg d).ucSelectedMuxAddr = 0) := by
  intro s hs
  have hclean := hs.after_unmuxed d (.mux (B.cfg d).ucSelectedMuxAddr) rfl
  unfold iQsfpModuleDeselect
  simp only [exec_onSend, value_onSend, value_iI2C_Send, exec_iI2C_Send]
  split_ifs with h₁
  · refine ⟨(hclean _).after_unmuxed d _ rfl _, fun h₂ => ?_⟩
    refine (congrFun (if_pos h₂) _).trans ?_
    exact Function.update_self ..
  · exact ⟨hclean _, fun h => h.elim⟩

variable (xHwLevel : FW_IF_MUXED_DEVICE_HW_LEVEL_TYPE)

theorem ulReadQsfpDevice_spec (slept : Bool)
    (ullSrcPort : UInt64) :
    Triple (fun s => Clean B s ∧ SelectOk B d s)
      ((B.cfg d).ulReadQsfpDevice d xHwLevel slept ullSrcPort)
      fun r s => Clean B s ∧ (r.1 = .NONE → s.channels (B.cfg d).ucSelectedMuxAddr = 0) := by
  refine Triple.bind (iQsfpModuleSelect_spec slept) fun selected => ?_
  refine Triple.ite (fun hselected => ?_) fun hselected => ?_
  · refine Triple.bind (Q := fun _ s => Clean B s) ?_ fun data => ?_
    · exact fun s hs => keeps_clean_of_ready (hs.2 hselected) _
    · refine Triple.bind iQsfpModuleDeselect_spec fun deselected => ?_
      refine Triple.ite (fun hdeselected => ?_) fun _ => ?_
      · exact Triple.pure fun s hs => ⟨hs.1, fun _ => hs.2 hdeselected⟩
      · exact Triple.pure fun s hs => ⟨hs.1, fun h => nomatch h⟩
  · exact Triple.pure fun s hs => ⟨hs.1, fun h => nomatch h⟩

theorem writeQsfp_spec (allocated slept : Bool)
    (ullDstPort : UInt64) (pucData : List UInt8) :
    Triple (fun s => Clean B s ∧ SelectOk B d s)
      ((B.cfg d).writeQsfp d xHwLevel allocated slept ullDstPort pucData)
      fun ulStatus s =>
        Clean B s ∧ (ulStatus = .NONE → s.channels (B.cfg d).ucSelectedMuxAddr = 0) := by
  refine Triple.bind (Q := fun _ s => Clean B s) ?_ fun ulStatus => ?_
  · refine Triple.bind (iQsfpModuleSelect_spec slept) fun selected => ?_
    refine Triple.ite (fun hselected => ?_) fun hselected => ?_
    · refine Triple.bind (Q := fun _ s => Clean B s) ?_ fun ulStatus => ?_
      · exact fun s hs => keeps_clean_of_ready (hs.2 hselected) _
      · refine Triple.bind iQsfpModuleDeselect_spec fun deselected => ?_
        exact Triple.ite (fun _ => Triple.pure fun s hs => hs.1)
          fun _ => Triple.pure fun s hs => hs.1
    · exact Triple.pure fun s hs => hs.1
  · intro s hs
    have hclean := hs.after_unmuxed d (.mux (B.cfg d).ucSelectedMuxAddr) rfl
    simp only [exec_onSend, value_onSend, exec_pure, value_pure]
    split_ifs with h
    · refine ⟨hclean _, fun _ => ?_⟩
      refine (congrFun (if_pos h) _).trans ?_
      exact Function.update_self ..
    · exact ⟨hclean _, fun h => nomatch h⟩

theorem powerOn_clean {rest : StateM (Bus n) FW_IF_ERRORS} [Within (Keeps (Clean B)) rest] :
    Within (Keeps (Clean B)) ((B.cfg d).powerOn d rest) := by
  unfold powerOn
  infer_instance

instance setMuxes_ioExpander {α : Type} (error : α) (rest : StateM (Bus n) α)
    [Within (Keeps (Ready B d (B.cfg d).ioExpanderBit)) rest] :
    Within (Keeps (Clean B)) ((B.cfg d).setMuxes d (B.cfg d).ioExpanderBit error rest) :=
  setMuxes_clean fun _ he h => B.ioExpanderBit_disjoint he h

instance ulOpenQsfpDevice_clean (slept : Bool) :
    Within (Keeps (Clean B)) ((B.cfg d).ulOpenQsfpDevice d slept) := powerOn_clean

theorem ulReadDimmDevice_clean (hdimm : (B.cfg d).xDevice = .DIMM) (ullSrcPort : UInt64) :
    Within (Keeps (Clean B)) ((B.cfg d).ulReadDimmDevice d ullSrcPort) := by
  have hchannel : (B.cfg d).channel .device = (B.cfg d).ioExpanderBit := by
    simp [channel, hdimm]
  have hread : Within (Keeps (Ready B d (B.cfg d).ioExpanderBit))
      (iI2C_SendRecv d .device [ullSrcPort.toUInt8]) :=
    ⟨fun _ h => h.after .device rfl (by rw [hchannel, UInt8.and_self]) [ullSrcPort.toUInt8]⟩
  exact setMuxes_ioExpander _ _

/-- What a call leaves: isolated transfers, and a deselected mux after a read or a write of a QSFP
module without an error. -/
theorem program_spec (env : Env) (c : Call) :
    Triple
      (fun s => Clean B s ∧ (c.accesses = true → (B.cfg d).xDevice = .QSFP → SelectOk B d s))
      (c.program (B.cfg d) d xHwLevel env)
      fun r s => Clean B s ∧ (c.transfersData = true → (B.cfg d).xDevice = .QSFP →
        r.1 = .NONE → s.channels (B.cfg d).ucSelectedMuxAddr = 0) := by
  rintro s ⟨hs, hok⟩
  cases c with
  | «open» =>
    have hopen : Within (Keeps (Clean B)) ((B.cfg d).ulQsfpOpen d env.slept) := by
      unfold ulQsfpOpen
      cases (B.cfg d).xDevice <;> infer_instance
    exact ⟨hopen.rel s hs, fun h => nomatch h⟩
  | close =>
    have hclose : Within (Keeps (Clean B)) ((B.cfg d).ulQsfpClose d) := by
      unfold ulQsfpClose
      cases (B.cfg d).xDevice <;> infer_instance
    exact ⟨hclose.rel s hs, fun h => nomatch h⟩
  | read ullSrcPort pulSize =>
    simp only [Call.program, ulQsfpRead]
    split_ifs with hsize
    · rcases hdevice : (B.cfg d).xDevice with _ | _
      · obtain ⟨hclean, hmux⟩ := ulReadQsfpDevice_spec xHwLevel env.slept ullSrcPort s
          ⟨hs, hok (by simpa [Call.accesses] using hsize) hdevice⟩
        exact ⟨hclean, fun _ _ => hmux⟩
      · exact ⟨(ulReadDimmDevice_clean hdevice ullSrcPort).rel s hs, fun _ h => nomatch h⟩
    · exact ⟨hs, fun _ _ h => nomatch h⟩
  | write ullDstPort pucData =>
    simp only [Call.program, ulQsfpWrite]
    split_ifs with hsize
    · rcases hdevice : (B.cfg d).xDevice with _ | _
      · obtain ⟨hclean, hmux⟩ := writeQsfp_spec xHwLevel env.allocated env.slept ullDstPort
          pucData s ⟨hs, hok (by simpa [Call.accesses] using hsize) hdevice⟩
        exact ⟨hclean, fun _ _ => hmux⟩
      · exact ⟨hs, fun _ h => nomatch h⟩
    · exact ⟨hs, fun _ _ h => nomatch h⟩
  | ioctrl level => exact ⟨hs, fun h => nomatch h⟩

end Functions

/-! ### A run -/

theorem safe_start (B : Board n) (channels : UInt8 → UInt8)
    (xHwLevel : Fin n → FW_IF_MUXED_DEVICE_HW_LEVEL_TYPE) :
    Safe B (.start channels xHwLevel) where
  isolated _ h := absurd h List.not_mem_nil
  deselected _ h := nomatch h

theorem Safe.step {s s' : Session n} {a : Action n} (h : Safe B s) (hok : Ok B s a)
    (hs : step B s a = some s') : Safe B s' := by
  obtain rfl := Option.some.inj hs
  obtain ⟨hclean, hmux⟩ := program_spec (s.xHwLevel a.pxCfg) a.env a.call (s.bus a.env)
    ⟨h.isolated, hok⟩
  refine ⟨hclean, fun r hr hdata hdevice hstatus => ?_⟩
  obtain rfl := Option.some.inj hr
  exact hmux hdata hdevice hstatus

/-- In every run of calls that meet the condition, each transfer through a mux finds its channel
connected and no channel of another device, and a read or a write of a QSFP module without an error
has deselected its mux. -/
theorem mux_isolation (B : Board n) (channels : UInt8 → UInt8)
    (xHwLevel : Fin n → FW_IF_MUXED_DEVICE_HW_LEVEL_TYPE) {s : Session n}
    (hs : Reaches (step B) (Ok B) (.start channels xHwLevel) s) : Safe B s :=
  hs.invariant (Safe B) (safe_start B channels xHwLevel) fun _ _ _ h hok hstep => h.step hok hstep

/-! ### The board of the V80 -/

/-- A QSFP module behind the mux at `ucSelectedMuxAddr`. -/
def qsfpCfg (ucPowerIoExpanderRegBit ucSelectedMuxAddr ucOtherMuxAddr : UInt8)
    (ulMuxRegBitIoExpander ulMuxRegBit : UInt32) : FW_IF_MUXED_DEVICE_CFG where
  xDevice := .QSFP
  ucPowerIoExpanderAddr := 0x21
  ucPowerIoExpanderRegBit := ucPowerIoExpanderRegBit
  ucSelectedMuxAddr := ucSelectedMuxAddr
  pucUnselectedMuxAddr := ![ucOtherMuxAddr, 0x72]
  ulMuxRegBitIoExpander := ulMuxRegBitIoExpander
  ulMuxRegBit := ulMuxRegBit
  ucIoExpanderAddr := 0x20
  ucDeviceI2cAddr := 0x50

def xDimmCfg : FW_IF_MUXED_DEVICE_CFG where
  xDevice := .DIMM
  ucPowerIoExpanderAddr := 0
  ucPowerIoExpanderRegBit := 0
  ucSelectedMuxAddr := 0x72
  pucUnselectedMuxAddr := ![0x70, 0x71]
  ulMuxRegBitIoExpander := 8
  ulMuxRegBit := 0
  ucIoExpanderAddr := 0
  ucDeviceI2cAddr := 0x18

/-- `xQsfpCfg1` to `xQsfpCfg4` and `xDimmCfg`. -/
def v80 : Board 5 where
  cfg := ![qsfpCfg 1 0x70 0x71 1 2, qsfpCfg 2 0x70 0x71 4 8, qsfpCfg 4 0x71 0x70 1 2,
    qsfpCfg 8 0x71 0x70 4 8, xDimmCfg]
  muxes := by decide
  channels := by decide

/-- Every transfer of a call succeeds; a slave that is read gives `byte`. -/
def fine (byte : UInt8) : Env := ⟨List.replicate 20 (some [byte]), true, true⟩

/-- The DIMM is read, and then module 1. -/
theorem mux_isolation_dimm_module :
    ∃ s : Session 5, (s.transfers.length = 12 ∧ s.channels 0x70 = 0) ∧ Safe v80 s := by
  have hrun : (run (guarded (step v80) (Ok v80)) (.start (fun _ => 0) fun _ => .MEMORY_MAP)
      [⟨4, .read 5 2, fine 1⟩, ⟨0, .read 22 1, fine 1⟩]).any (fun s =>
      decide (s.transfers.length = 12 ∧ s.channels 0x70 = 0)) = true := by
    decide +kernel
  obtain ⟨s, hs, hfinal⟩ := (Option.any_eq_true _ _).mp hrun
  exact ⟨s, of_decide_eq_true hfinal,
    mux_isolation v80 _ _ (Reaches.of_guarded_run _ .start hs)⟩

/-- The read of the DIMM leaves its channel connected, and the transfer that would disconnect it
fails: module 1 is read with the DIMM connected. -/
theorem dimm_stays_connected :
    ¬ ∀ s, Reaches (step v80) always (.start (fun _ => 0) fun _ => .MEMORY_MAP) s →
      Safe v80 s := by
  intro hall
  have hrun : (run (step v80) (.start (fun _ => 0) fun _ => .MEMORY_MAP)
      [⟨4, .read 5 2, fine 1⟩,
        ⟨0, .read 22 1, ⟨some [0] :: none :: List.replicate 6 (some [0]), true, true⟩⟩]).any
      (fun s => decide (∃ t ∈ s.transfers, ¬ Isolated v80 t)) = true := by
    decide +kernel
  obtain ⟨s, hs, hwrong⟩ := (Option.any_eq_true _ _).mp hrun
  obtain ⟨t, ht, hconnected⟩ := of_decide_eq_true hwrong
  exact hconnected ((hall s (.of_run hs)).isolated t ht)

end Amr.Muxed
