/-
# Presence, temperature and IO status of the external modules

`axc_proxy_driver.c`: the task that reads the temperature of each device in turn, records whether
the device is present and raises an event when this changes, and the functions that return the
control lines of a QSFP module. The new status is a variable of the task that outlasts the visit of
a device, and the functions read through the interface at the hardware level that was set last.

What is recorded and raised is about the device's own reads as long as a visit without a read finds
the device's status in that variable, and a control line is the one of the IO expander as long as it
agrees with the memory map, which the functions read.
-/
import Amr.Muxed.Device
import Amr.Lib.Transition

namespace Amr.Axc.Presence

open Transition Muxed

def QSFP_MSB_TEMPERATURE_REG : ℕ := 22
def DIMM_TEMPERATURE_REG : ℕ := 5
def QSFP_MAX_POSITIVE_TEMP : ℕ := 0x7FFF
def QSFP_MAX_NEGATIVE_TEMP : ℕ := 0x8000
def DIMM_MAX_POSITIVE_TEMP : ℕ := 0x03FF
def QSFP_TEMP_BIT_MASK : ℕ := 0x7FFF
def DIMM_TEMP_BIT_MASK : ℕ := 0x07FF
def DIMM_TEMP_UNUSED_BITS : ℕ := 2
def AXC_EXTERNAL_DEVICE_TEMP_NOT_SET : ℚ := 0

inductive AXC_EXTERNAL_DEVICE_STATUS
  | FAILED
  | NOT_PRESENT
  | PRESENT
  deriving DecidableEq, Repr

inductive AXC_PROXY_DRIVER_EVENTS
  | QSFP_PRESENT
  | QSFP_NOT_PRESENT
  deriving DecidableEq, Repr

inductive AXC_PROXY_DRIVER_QSFP_IO
  | MODSEL
  | RESET
  | LPMODE
  | MODPRS
  | INTERRUPT
  deriving DecidableEq, Repr

def AXC_PROXY_DRIVER_QSFP_IO.toNat : AXC_PROXY_DRIVER_QSFP_IO → ℕ
  | .MODSEL => 0
  | .RESET => 1
  | .LPMODE => 2
  | .MODPRS => 3
  | .INTERRUPT => 4

/-- `ucIoExpanderByte & ( 1 << xIoControlLine )` is not 0. -/
def AXC_PROXY_DRIVER_QSFP_IO.status (xIoControlLine : AXC_PROXY_DRIVER_QSFP_IO)
    (ucIoExpanderByte : UInt8) : Bool :=
  ucIoExpanderByte.toNat.testBit xIoControlLine.toNat

structure EVLSignal where
  ucEventType : AXC_PROXY_DRIVER_EVENTS
  ucInstance : UInt8
  deriving DecidableEq, Repr

/-! ### Temperatures -/

/-- The bytes of a temperature, `AXCProxyDriverExternalDeviceTemperatureRequest`. -/
structure TemperatureRequest where
  ucTemperatureMsb : UInt8
  ucTemperatureLsb : UInt8
  deriving DecidableEq, Repr

/-- `usTemperatureHexValue`. -/
def TemperatureRequest.hex (r : TemperatureRequest) : ℕ :=
  r.ucTemperatureMsb.toNat * 256 + r.ucTemperatureLsb.toNat

/-- The temperature of a device in degrees. -/
def TemperatureRequest.celsius (r : TemperatureRequest) : FW_IF_DEVICE_TYPE → ℚ
  | .QSFP =>
    if r.hex ≤ QSFP_MAX_POSITIVE_TEMP then (r.hex : ℚ) / 256
    else ((QSFP_MAX_NEGATIVE_TEMP - (r.hex &&& QSFP_TEMP_BIT_MASK) : ℕ) : ℚ) / 256 * -1
  | .DIMM =>
    if (r.hex >>> DIMM_TEMP_UNUSED_BITS) &&& DIMM_TEMP_BIT_MASK ≤ DIMM_MAX_POSITIVE_TEMP then
      (((r.hex >>> DIMM_TEMP_UNUSED_BITS) &&& DIMM_TEMP_BIT_MASK : ℕ) : ℚ) / 4
    else
      -- all bits toggled, below the sign bit
      ((DIMM_MAX_POSITIVE_TEMP - ((r.hex >>> DIMM_TEMP_UNUSED_BITS) &&& DIMM_MAX_POSITIVE_TEMP) + 1
        : ℕ) : ℚ) / 4 * -1

/-- The bytes that a read puts over those of the last one. -/
def TemperatureRequest.overwrite (r : TemperatureRequest) : List UInt8 → TemperatureRequest
  | [] => r
  | [msb] => { r with ucTemperatureMsb := msb }
  | msb :: lsb :: _ => ⟨msb, lsb⟩

/-! ### Devices -/

/-- What a device would answer: its memory map, and the input port of its IO expander. -/
structure Hardware where
  memory : ℕ → UInt8
  inputPort : UInt8

/-- The bytes that a read of the interface gives: at the level of the IO expander it is one byte for
a QSFP module. -/
def Hardware.read (h : Hardware) (xDevice : FW_IF_DEVICE_TYPE)
    (xHwLevel : FW_IF_MUXED_DEVICE_HW_LEVEL_TYPE) (ullSrcPort pulSize : ℕ) : List UInt8 :=
  match xDevice, xHwLevel with
  | .QSFP, .IO_EXPANDER => [h.inputPort]
  | _, _ => (List.range pulSize).map fun o => h.memory (ullSrcPort + o)

def temperatureReg : FW_IF_DEVICE_TYPE → ℕ
  | .QSFP => QSFP_MSB_TEMPERATURE_REG
  | .DIMM => DIMM_TEMPERATURE_REG

def Hardware.temperature (h : Hardware) (xDevice : FW_IF_DEVICE_TYPE) : TemperatureRequest :=
  ⟨h.memory (temperatureReg xDevice), h.memory (temperatureReg xDevice + 1)⟩

/-- What a section under the mutex meets: whether the mutex is taken, the level is set, the read
succeeds and the mutex is released, and the hardware. -/
structure Section where
  taken : Bool
  ioctrl : Bool
  read : Bool
  released : Bool
  hardware : Hardware

/-- An attempt to read the temperature: what the device answered, unless the read failed. -/
abbrev Attempt := Option TemperatureRequest

/-- The status after the last attempt to read a device, if there was one. -/
def outcome : Option Attempt → AXC_EXTERNAL_DEVICE_STATUS
  | none => .FAILED
  | some none => .NOT_PRESENT
  | some (some _) => .PRESENT

/-- A call of `iAXC_GetSingleIoStatus` or `iAXC_GetAllIoStatuses` that has returned. -/
structure IoReport where
  lines : List AXC_PROXY_DRIVER_QSFP_IO
  ok : Bool
  statuses : List Bool
  /-- The input port of the device's IO expander at the read. -/
  inputPort : UInt8

variable {n : ℕ}

/-- The proxy driver with its list of `n` devices, and its task. -/
structure Driver (n : ℕ) where
  ucExDeviceId : Fin n → UInt8
  xDevice : Fin n → FW_IF_DEVICE_TYPE
  xHwLevel : Fin n → FW_IF_MUXED_DEVICE_HW_LEVEL_TYPE
  xExDevStatus : Fin n → AXC_EXTERNAL_DEVICE_STATUS
  fExDevTemperature : Fin n → ℚ
  ucTemperatureReq : TemperatureRequest
  ulTemperatureBytes : ℕ
  xNewExDevStatus : AXC_EXTERNAL_DEVICE_STATUS
  /-- The device that the task visits next, `n` at the end of the list. -/
  ppxCurrentExDev : ℕ
  events : List EVLSignal
  reports : List IoReport
  /-- The last attempt to read each device. -/
  last : Fin n → Option Attempt
  /-- The events for the attempts whose outcome differs from the one before. -/
  due : List EVLSignal

inductive Action (n : ℕ)
  /-- The task visits the next device. -/
  | visit (x : Section)
  /-- The task starts at the head of the list again. -/
  | restart
  /-- Control lines of a device are asked for. -/
  | ioStatus (i : Fin n) (lines : List AXC_PROXY_DRIVER_QSFP_IO) (x : Section)
  /-- Another function sets the hardware level of a device. -/
  | setMemoryMap (i : Fin n)

namespace Driver

def start (ucExDeviceId : Fin n → UInt8) (xDevice : Fin n → FW_IF_DEVICE_TYPE)
    (xHwLevel : Fin n → FW_IF_MUXED_DEVICE_HW_LEVEL_TYPE) : Driver n where
  ucExDeviceId := ucExDeviceId
  xDevice := xDevice
  xHwLevel := xHwLevel
  xExDevStatus _ := .FAILED
  fExDevTemperature _ := AXC_EXTERNAL_DEVICE_TEMP_NOT_SET
  ucTemperatureReq := ⟨0, 0⟩
  ulTemperatureBytes := 2
  xNewExDevStatus := .FAILED
  ppxCurrentExDev := 0
  events := []
  reports := []
  last _ := none
  due := []

/-- `FW_IF_MUXED_DEVICE_IOCTL_SET_MEMORY_MAP`. -/
def setMemoryMap (s : Driver n) (i : Fin n) : Driver n :=
  { s with xHwLevel := Function.update s.xHwLevel i .MEMORY_MAP }

def signal (s : Driver n) (i : Fin n) (status : AXC_EXTERNAL_DEVICE_STATUS) : EVLSignal :=
  ⟨if status = .PRESENT then .QSFP_PRESENT else .QSFP_NOT_PRESENT, s.ucExDeviceId i⟩

/-- An attempt to read a device is noted, and the event that it calls for. -/
def note (s : Driver n) (i : Fin n) (a : Attempt) : Driver n :=
  { s with
    last := Function.update s.last i (some a)
    due :=
      if s.xDevice i = .QSFP ∧ outcome (s.last i) ≠ outcome (some a) then
        s.due ++ [s.signal i (outcome (some a))]
      else s.due }

/-- The bytes that the read of a device gives. -/
def bytes (s : Driver n) (i : Fin n) (h : Hardware) : List UInt8 :=
  h.read (s.xDevice i) (s.xHwLevel i) (temperatureReg (s.xDevice i)) s.ulTemperatureBytes

def sense (s : Driver n) (i : Fin n) (h : Hardware) : Driver n :=
  { s with
    ulTemperatureBytes := (s.bytes i h).length
    ucTemperatureReq := s.ucTemperatureReq.overwrite (s.bytes i h)
    xNewExDevStatus := .PRESENT
    fExDevTemperature := Function.update s.fExDevTemperature i
      ((s.ucTemperatureReq.overwrite (s.bytes i h)).celsius (s.xDevice i)) }

def miss (s : Driver n) : Driver n := { s with xNewExDevStatus := .NOT_PRESENT }

/-- What the task does with a device under the mutex. -/
def readDevice (s : Driver n) (i : Fin n) (x : Section) : Driver n :=
  if x.taken = true ∧ x.ioctrl = true then
    if x.read then ((s.setMemoryMap i).sense i x.hardware).note i
      (some (x.hardware.temperature (s.xDevice i)))
    else (s.setMemoryMap i).miss.note i none
  else s

/-- What the task does with the new status. -/
def record (s : Driver n) (i : Fin n) : Driver n :=
  match s.xDevice i with
  | .QSFP =>
    if s.xExDevStatus i ≠ s.xNewExDevStatus then
      { s with
        xExDevStatus := Function.update s.xExDevStatus i s.xNewExDevStatus
        events := s.events ++ [s.signal i s.xNewExDevStatus] }
    else s
  | .DIMM => s

/-- The task moves on to the next device. -/
def moveOn (s : Driver n) : Driver n := { s with ppxCurrentExDev := s.ppxCurrentExDev + 1 }

/-- `iAXC_GetSingleIoStatus` for one line, `iAXC_GetAllIoStatuses` for all of them. -/
def ioStatus (s : Driver n) (i : Fin n) (lines : List AXC_PROXY_DRIVER_QSFP_IO) (x : Section) :
    Driver n :=
  if x.taken = true ∧ x.ioctrl = true then
    { s.setMemoryMap i with
      reports := s.reports ++
        [⟨lines, x.read && x.released, lines.map fun l => l.status
          ((x.hardware.read (s.xDevice i) ((s.setMemoryMap i).xHwLevel i) 0 1).headD 0),
          x.hardware.inputPort⟩] }
  else { s with reports := s.reports ++ [⟨lines, false, [], x.hardware.inputPort⟩] }

def iAXC_GetTemperature (s : Driver n) (i : Fin n) : Option ℚ :=
  match s.xDevice i with
  | .QSFP => if s.xExDevStatus i = .PRESENT then some (s.fExDevTemperature i) else none
  | .DIMM => some (s.fExDevTemperature i)

end Driver

def step (s : Driver n) : Action n → Option (Driver n)
  | .visit x =>
    if h : s.ppxCurrentExDev < n then
      some (((s.readDevice ⟨s.ppxCurrentExDev, h⟩ x).record ⟨s.ppxCurrentExDev, h⟩).moveOn)
    else none
  | .restart => if s.ppxCurrentExDev < n then none else some { s with ppxCurrentExDev := 0 }
  | .ioStatus i lines x => some (s.ioStatus i lines x)
  | .setMemoryMap i => some (s.setMemoryMap i)

/-! ### What is to be recorded -/

/-- What is recorded of the devices, what is raised and what is returned is true. -/
structure Truthful (s : Driver n) : Prop where
  /-- The status of a QSFP module is the outcome of its last read; a DIMM has none. -/
  status : ∀ i, s.xExDevStatus i =
    match s.xDevice i with
    | .QSFP => outcome (s.last i)
    | .DIMM => .FAILED
  /-- A temperature that is returned is the one of the device's last read. -/
  temperature : ∀ i, ∀ v ∈ s.iAXC_GetTemperature i, ∀ a ∈ s.last i,
    ∃ r ∈ a, v = r.celsius (s.xDevice i)
  /-- The events are those for the changes of the outcomes. -/
  events : s.events = s.due
  /-- The control lines that are returned are those of the IO expander. -/
  lines : ∀ r ∈ s.reports, r.ok = true → r.statuses = r.lines.map (·.status r.inputPort)

/-- A visit without a read finds the status of the device in the variable of the task, and a DIMM
that is read answers. -/
def VisitOk (s : Driver n) (i : Fin n) (x : Section) : Prop :=
  match s.xDevice i with
  | .QSFP => ¬ (x.taken = true ∧ x.ioctrl = true) → s.xNewExDevStatus = s.xExDevStatus i
  | .DIMM => x.taken = true → x.ioctrl = true → x.read = true

/-- The steps after which what is recorded is true. -/
def Ok (s : Driver n) : Action n → Prop
  | .visit x => ∀ h : s.ppxCurrentExDev < n, VisitOk s ⟨s.ppxCurrentExDev, h⟩ x
  | .ioStatus _ lines x => x.taken = true → x.ioctrl = true → x.read = true → x.released = true →
    ∀ l ∈ lines, l.status (x.hardware.memory 0) = l.status x.hardware.inputPort
  | _ => True

instance (s : Driver n) (i : Fin n) (x : Section) : Decidable (VisitOk s i x) := by
  unfold VisitOk
  cases s.xDevice i <;> infer_instance

instance (s : Driver n) (a : Action n) : Decidable (Ok s a) := by
  cases a <;> unfold Ok <;> infer_instance

/-! ### A visit -/

structure Inv (s : Driver n) : Prop where
  status : ∀ i, s.xExDevStatus i =
    match s.xDevice i with
    | .QSFP => outcome (s.last i)
    | .DIMM => .FAILED
  celsius : ∀ i, ∀ r, s.last i = some (some r) → s.fExDevTemperature i = r.celsius (s.xDevice i)
  answered : ∀ i, s.xDevice i = .DIMM → s.last i ≠ some none
  events : s.events = s.due
  lines : ∀ r ∈ s.reports, r.ok = true → r.statuses = r.lines.map (·.status r.inputPort)
  bytes : s.ulTemperatureBytes = 2

variable {s : Driver n}

theorem Inv.truthful (h : Inv s) : Truthful s where
  status := h.status
  temperature i v hv a ha := by
    have hlast : s.last i = some a := ha
    rcases hdevice : s.xDevice i with _ | _
    · have hstatus : s.xExDevStatus i = outcome (some a) := by
        rw [h.status i, hdevice, hlast]
      simp only [Driver.iAXC_GetTemperature, hdevice] at hv
      split_ifs at hv with hpresent
      · obtain rfl := Option.some.inj hv
        rcases a with _ | r
        · rw [hstatus] at hpresent
          cases hpresent
        · exact ⟨r, rfl, by rw [h.celsius i r hlast, hdevice]⟩
      · cases hv
    · simp only [Driver.iAXC_GetTemperature, hdevice] at hv
      obtain rfl := Option.some.inj hv
      rcases a with _ | r
      · exact absurd hlast (h.answered i hdevice)
      · exact ⟨r, rfl, by rw [h.celsius i r hlast, hdevice]⟩
  events := h.events
  lines := h.lines

theorem inv_start (ucExDeviceId : Fin n → UInt8) (xDevice : Fin n → FW_IF_DEVICE_TYPE)
    (xHwLevel : Fin n → FW_IF_MUXED_DEVICE_HW_LEVEL_TYPE) :
    Inv (Driver.start ucExDeviceId xDevice xHwLevel) where
  status i := by cases h : xDevice i <;> simp [Driver.start, h, outcome]
  celsius _ _ h := nomatch h
  answered _ _ h := nomatch h
  events := rfl
  lines _ h := absurd h List.not_mem_nil
  bytes := rfl

/-- The proxy driver after an attempt to read a device, before the attempt is noted. -/
def Driver.attempted (s : Driver n) (i : Fin n) (r : TemperatureRequest) (t : ℚ)
    (status : AXC_EXTERNAL_DEVICE_STATUS) : Driver n :=
  { s.setMemoryMap i with
    ucTemperatureReq := r
    fExDevTemperature := Function.update s.fExDevTemperature i t
    xNewExDevStatus := status }

theorem Hardware.read_memoryMap (h : Hardware) (xDevice : FW_IF_DEVICE_TYPE)
    (ullSrcPort pulSize : ℕ) : h.read xDevice .MEMORY_MAP ullSrcPort pulSize =
      (List.range pulSize).map fun o => h.memory (ullSrcPort + o) := by
  cases xDevice <;> rfl

theorem Driver.bytes_eq (hbytes : s.ulTemperatureBytes = 2) (i : Fin n)
    (h : Hardware) : (s.setMemoryMap i).bytes i h =
      [h.memory (temperatureReg (s.xDevice i)), h.memory (temperatureReg (s.xDevice i) + 1)] := by
  have hlevel : (s.setMemoryMap i).xHwLevel i = .MEMORY_MAP := Function.update_self ..
  have hsize : (s.setMemoryMap i).ulTemperatureBytes = 2 := hbytes
  unfold Driver.bytes
  rw [hlevel, hsize, Hardware.read_memoryMap]
  rfl

theorem Driver.sense_eq (hbytes : s.ulTemperatureBytes = 2) (i : Fin n)
    (h : Hardware) : (s.setMemoryMap i).sense i h =
      s.attempted i (h.temperature (s.xDevice i))
        ((h.temperature (s.xDevice i)).celsius (s.xDevice i)) .PRESENT := by
  have hread := Driver.bytes_eq hbytes i h
  unfold Driver.sense
  rw [hread]
  unfold Driver.attempted Hardware.temperature
  simp only [List.length_cons, List.length_nil, TemperatureRequest.overwrite]
  congr 1
  exact hbytes.symm

theorem Driver.miss_eq (s : Driver n) (i : Fin n) :
    (s.setMemoryMap i).miss =
      s.attempted i s.ucTemperatureReq (s.fExDevTemperature i) .NOT_PRESENT := by
  unfold Driver.attempted Driver.miss
  rw [Function.update_eq_self]
  rfl

theorem Inv.attempt (h : Inv s) (i : Fin n) (a : Attempt) (r : TemperatureRequest)
    (t : ℚ) (ht : ∀ r ∈ a, t = r.celsius (s.xDevice i)) (hdimm : s.xDevice i = .DIMM → a ≠ none) :
    Inv (((s.attempted i r t (outcome (some a))).note i a).record i) := by
  have hother : ∀ j, j ≠ i → ∀ b : Attempt, Function.update s.last i (some b) j = s.last j :=
    fun j hj b => Function.update_of_ne hj ..
  have hcelsius : ∀ j, ∀ b, Function.update s.last i (some a) j = some (some b) →
      Function.update s.fExDevTemperature i t j = b.celsius (s.xDevice j) := by
    intro j b hb
    by_cases hj : j = i
    · subst hj
      rw [Function.update_self] at hb ⊢
      exact ht b (Option.some.inj hb)
    · rw [Function.update_of_ne hj] at hb ⊢
      exact h.celsius j b hb
  have hanswered : ∀ j, s.xDevice j = .DIMM → Function.update s.last i (some a) j ≠ some none := by
    intro j hj hnone
    by_cases hji : j = i
    · subst hji
      rw [Function.update_self] at hnone
      exact hdimm hj (Option.some.inj hnone)
    · rw [Function.update_of_ne hji] at hnone
      exact h.answered j hj hnone
  have hstatus := h.status i
  set s' := (s.attempted i r t (outcome (some a))).note i a with hs'
  have hstatuses : ∀ j, j ≠ i → s.xExDevStatus j =
      match s.xDevice j with
      | .QSFP => outcome (Function.update s.last i (some a) j)
      | .DIMM => .FAILED := by
    intro j hj
    rw [hother j hj a]
    exact h.status j
  rcases hdevice : s.xDevice i with _ | _
  · rw [hdevice] at hstatus
    dsimp only at hstatus
    by_cases hsame : outcome (s.last i) = outcome (some a)
    · -- the outcome is the one before: nothing is recorded, and nothing is due
      have hrecord : s'.record i = s' := by
        unfold Driver.record
        rw [show s'.xDevice i = .QSFP from hdevice]
        exact if_neg (not_not.mpr (hstatus.trans hsame))
      have hdue : s'.due = s.due := if_neg fun hnew => hnew.2 hsame
      rw [hrecord]
      refine ⟨fun j => ?_, hcelsius, hanswered, h.events.trans hdue.symm, h.lines, h.bytes⟩
      by_cases hj : j = i
      · subst hj
        have hlast : s'.last j = some a := Function.update_self ..
        rw [show s'.xDevice j = .QSFP from hdevice, hlast]
        exact hstatus.trans hsame
      · exact hstatuses j hj
    · -- the outcome differs: the status is recorded, and the event is raised
      have hrecord : s'.record i = { s' with
          xExDevStatus := Function.update s.xExDevStatus i (outcome (some a))
          events := s.events ++ [s.signal i (outcome (some a))] } := by
        unfold Driver.record
        rw [show s'.xDevice i = .QSFP from hdevice]
        exact if_pos fun heq => hsame (hstatus.symm.trans heq)
      have hdue : s'.due = s.due ++ [s.signal i (outcome (some a))] := if_pos ⟨hdevice, hsame⟩
      rw [hrecord]
      refine ⟨fun j => ?_, hcelsius, hanswered, ?_, h.lines, h.bytes⟩
      · by_cases hj : j = i
        · subst hj
          have hlast : s'.last j = some a := Function.update_self ..
          dsimp only
          rw [Function.update_self, show s'.xDevice j = .QSFP from hdevice, hlast]
        · dsimp only
          rw [Function.update_of_ne hj]
          exact hstatuses j hj
      · dsimp only
        rw [hdue, h.events]
  · -- nothing is recorded of a DIMM but its temperature
    have hrecord : s'.record i = s' := by
      unfold Driver.record
      rw [show s'.xDevice i = .DIMM from hdevice]
    have hdue : s'.due = s.due := if_neg fun hnew => by
      have : s.xDevice i = .QSFP := hnew.1
      rw [hdevice] at this
      cases this
    rw [hrecord]
    refine ⟨fun j => ?_, hcelsius, hanswered, h.events.trans hdue.symm, h.lines, h.bytes⟩
    by_cases hj : j = i
    · subst hj
      rw [hdevice] at hstatus
      rw [show s'.xDevice j = .DIMM from hdevice]
      exact hstatus
    · exact hstatuses j hj

theorem Inv.visit (h : Inv s) (i : Fin n) (x : Section) (hok : VisitOk s i x) :
    Inv ((s.readDevice i x).record i) := by
  unfold Driver.readDevice
  split_ifs with hsection hread
  · rw [Driver.sense_eq h.bytes]
    refine h.attempt i (some _) _ _ (fun r hr => ?_) (fun _ => Option.some_ne_none _)
    obtain rfl := Option.some.inj hr
    rfl
  · rw [Driver.miss_eq]
    refine h.attempt i none _ _ (fun r hr => nomatch hr) fun hdimm => ?_
    unfold VisitOk at hok
    rw [hdimm] at hok
    exact absurd (hok hsection.1 hsection.2) hread
  · -- no read: the variable of the task has the status of the device
    have hrecord : s.record i = s := by
      unfold Driver.record
      unfold VisitOk at hok
      rcases hdevice : s.xDevice i with _ | _
      · rw [hdevice] at hok
        exact if_neg (not_not.mpr (hok hsection).symm)
      · rfl
    rw [hrecord]
    exact h

theorem Inv.ioStatus (h : Inv s) (i : Fin n)
    (lines : List AXC_PROXY_DRIVER_QSFP_IO) (x : Section) (hok : Ok s (.ioStatus i lines x)) :
    Inv (s.ioStatus i lines x) := by
  unfold Driver.ioStatus
  split_ifs with hsection
  · refine ⟨h.status, h.celsius, h.answered, h.events, fun r hr hr' => ?_, h.bytes⟩
    rcases List.mem_append.mp hr with hr | hr
    · exact h.lines r hr hr'
    · obtain rfl := List.mem_singleton.mp hr
      obtain ⟨hread, hreleased⟩ := Bool.and_eq_true_iff.mp hr'
      have hlevel : (s.setMemoryMap i).xHwLevel i = .MEMORY_MAP := Function.update_self ..
      refine List.map_congr_left fun l hl => ?_
      rw [hlevel, Hardware.read_memoryMap]
      exact hok hsection.1 hsection.2 hread hreleased l hl
  · refine ⟨h.status, h.celsius, h.answered, h.events, fun r hr hr' => ?_, h.bytes⟩
    rcases List.mem_append.mp hr with hr | hr
    · exact h.lines r hr hr'
    · obtain rfl := List.mem_singleton.mp hr
      cases hr'

theorem Inv.step {s s' : Driver n} {a : Action n} (h : Inv s) (hok : Ok s a)
    (hs : step s a = some s') : Inv s' := by
  cases a with
  | visit x =>
    simp only [Presence.step] at hs
    split_ifs at hs with hcurrent
    obtain rfl := Option.some.inj hs
    obtain ⟨hstatus, hcelsius, hanswered, hevents, hlines, hbytes⟩ :=
      h.visit ⟨s.ppxCurrentExDev, hcurrent⟩ x (hok hcurrent)
    exact ⟨hstatus, hcelsius, hanswered, hevents, hlines, hbytes⟩
  | restart =>
    simp only [Presence.step] at hs
    split_ifs at hs
    obtain rfl := Option.some.inj hs
    exact ⟨h.status, h.celsius, h.answered, h.events, h.lines, h.bytes⟩
  | ioStatus i lines x =>
    obtain rfl := Option.some.inj hs
    exact h.ioStatus i lines x hok
  | setMemoryMap i =>
    obtain rfl := Option.some.inj hs
    exact ⟨h.status, h.celsius, h.answered, h.events, h.lines, h.bytes⟩

/-! ### A run -/

/-- In every run whose steps meet the condition, the status of a QSFP module and the temperature of
a device are those of its last read, the events are those for the changes of the outcomes, and the
control lines that are returned are those of the IO expander. -/
theorem presence_truthful (ucExDeviceId : Fin n → UInt8) (xDevice : Fin n → FW_IF_DEVICE_TYPE)
    (xHwLevel : Fin n → FW_IF_MUXED_DEVICE_HW_LEVEL_TYPE) {s : Driver n}
    (hs : Reaches step Ok (Driver.start ucExDeviceId xDevice xHwLevel) s) : Truthful s :=
  (hs.invariant Inv (inv_start ucExDeviceId xDevice xHwLevel)
    fun _ _ _ h hok hstep => h.step hok hstep).truthful

/-- A device whose memory map has one value everywhere. -/
def constant (byte : UInt8) : Hardware := ⟨fun _ => byte, byte⟩

/-- A section in which everything succeeds. -/
def fine (byte : UInt8) : Section := ⟨true, true, true, true, constant byte⟩

/-- Two modules, of which the second goes away in the second round. -/
theorem presence_truthful_two :
    ∃ s : Driver 2, (s.events = [⟨.QSFP_PRESENT, 1⟩, ⟨.QSFP_PRESENT, 2⟩, ⟨.QSFP_NOT_PRESENT, 2⟩] ∧
      s.iAXC_GetTemperature 0 = some (771 / 256)) ∧ Truthful s := by
  have hrun : (run (guarded step Ok)
      (Driver.start ![1, 2] (fun _ => .QSFP) (fun _ => .MEMORY_MAP))
      [.visit (fine 1), .visit (fine 2), .restart, .ioStatus 0 [.MODPRS, .MODSEL] (fine 1),
        .visit (fine 3), .visit ⟨true, true, false, true, constant 0⟩]).any (fun s =>
      decide (s.events = [⟨.QSFP_PRESENT, 1⟩, ⟨.QSFP_PRESENT, 2⟩, ⟨.QSFP_NOT_PRESENT, 2⟩] ∧
        s.iAXC_GetTemperature 0 = some (771 / 256))) = true := by
    decide +kernel
  obtain ⟨s, hs, hfinal⟩ := (Option.any_eq_true _ _).mp hrun
  exact ⟨s, of_decide_eq_true hfinal,
    presence_truthful ![1, 2] (fun _ => .QSFP) (fun _ => .MEMORY_MAP)
      (Reaches.of_guarded_run _ .start hs)⟩

/-- The hardware level of the second device cannot be set, and it is recorded as present because the
first one is. -/
theorem status_of_other_device :
    ¬ ∀ s : Driver 2, Reaches step always
      (Driver.start ![1, 2] (fun _ => .QSFP) fun _ => .MEMORY_MAP) s → Truthful s := by
  intro hall
  have hrun : (run step (Driver.start ![1, 2] (fun _ => .QSFP) (fun _ => .MEMORY_MAP))
      [.visit (fine 1), .visit ⟨true, false, false, true, constant 0⟩]).any (fun s =>
      decide (s.events ≠ s.due)) = true := by
    decide +kernel
  obtain ⟨s, hs, hwrong⟩ := (Option.any_eq_true _ _).mp hrun
  exact of_decide_eq_true hwrong (hall s (.of_run hs)).events

end Amr.Axc.Presence
