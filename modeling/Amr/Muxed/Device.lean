/-
# Devices behind the I2C muxes

`fw_if_muxed_device_amc.c`: the functions that open, close, read and write a QSFP module or a DIMM.
Modules behind different muxes answer on the same address, so each access first sets the channel
registers of the three muxes. A transfer on the bus that fails leaves the registers as they are.
-/
import Amr.Lib.StateProgram

namespace Amr.Muxed

open StateProgram

scoped instance instNeZeroTwo : NeZero 2 := ⟨by decide⟩

inductive FW_IF_DEVICE_TYPE
  | QSFP
  | DIMM
  deriving DecidableEq, Repr

inductive FW_IF_MUXED_DEVICE_HW_LEVEL_TYPE
  | IO_EXPANDER
  | MEMORY_MAP
  deriving DecidableEq, Repr

inductive FW_IF_ERRORS
  | NONE
  | OPEN
  | CLOSE
  | READ
  | WRITE
  | PARAMS
  deriving DecidableEq, Repr

/-- The configuration of a device; `xHwLevel`, which changes, is not in it. -/
structure FW_IF_MUXED_DEVICE_CFG where
  xDevice : FW_IF_DEVICE_TYPE
  ucPowerIoExpanderAddr : UInt8
  ucPowerIoExpanderRegBit : UInt8
  ucSelectedMuxAddr : UInt8
  pucUnselectedMuxAddr : Fin 2 → UInt8
  ulMuxRegBitIoExpander : UInt32
  ulMuxRegBit : UInt32
  ucIoExpanderAddr : UInt8
  ucDeviceI2cAddr : UInt8

def FAL_QSFP_MAX_DATA : ℕ := 256
def FAL_QSFP_MODPRES_L_BIT_MASK : UInt8 := (1 : UInt8) <<< 3
def FAL_QSFP_MODSEL_L_BIT_MASK : UInt8 := (1 : UInt8) <<< 0
def FAL_QSFP_MODSELL_L_SET_LOW : UInt8 := 0xFE
def FAL_QSFP_POWER_IO_EXPANDER_NUM_INPUTS : UInt8 := 4
def FAL_QSFP_ALL_OUTPUTS_HIGH : UInt8 := 0xFF
def FAL_QSFP_IO_EXPANDER_INPUT_PORT_REG : UInt8 := 0
def FAL_QSFP_IO_EXPANDER_OUTPUT_PORT_REG : UInt8 := 1
def FAL_QSFP_IO_EXPANDER_CONFIGURATION_REG : UInt8 := 3
def FAL_QSFP_MUX_IO_EXPANDER_DESELECTED : UInt8 := 0

/-! ### The bus -/

/-- The slave of a transfer: the field of the configuration that its address comes from. -/
inductive Slave
  | power
  | mux (ucMuxAddr : UInt8)
  | ioExpander
  | device
  deriving DecidableEq, Repr

/-- A slave that is reached through a mux. -/
def Slave.muxed : Slave → Bool
  | .ioExpander | .device => true
  | .power | .mux _ => false

/-- A transfer for one of `n` devices, with the channel registers of the muxes at its time. -/
structure Transfer (n : ℕ) where
  pxCfg : Fin n
  slave : Slave
  channels : UInt8 → UInt8

structure Bus (n : ℕ) where
  /-- The channel register of the mux at an address. -/
  channels : UInt8 → UInt8
  /-- What the next transfers give: the bytes received, or `ERROR`. -/
  replies : List (Option (List UInt8))
  /-- The transfers so far. -/
  transfers : List (Transfer n)

variable {n : ℕ}

namespace Bus

def reply (s : Bus n) : Option (List UInt8) := s.replies.head?.join

/-- The bus after a transfer: a mux that gets a byte has it as its channel register. -/
def after (s : Bus n) (d : Fin n) (slave : Slave) (pucWriteBuff : List UInt8) : Bus n where
  channels :=
    match slave with
    | .mux ucMuxAddr =>
      if s.reply.isSome then Function.update s.channels ucMuxAddr (pucWriteBuff.headD 0)
      else s.channels
    | _ => s.channels
  replies := s.replies.tail
  transfers := s.transfers ++ [⟨d, slave, s.channels⟩]

end Bus

/-- `iI2C_SendRecv`: the bytes received, unless the transfer fails. -/
def iI2C_SendRecv (d : Fin n) (slave : Slave) (pucWriteBuff : List UInt8) :
    StateM (Bus n) (Option (List UInt8)) :=
  fun s => (s.reply, s.after d slave pucWriteBuff)

/-- `iI2C_Send`: whether the transfer succeeds. -/
def iI2C_Send (d : Fin n) (slave : Slave) (pucWriteBuff : List UInt8) : StateM (Bus n) Bool :=
  fun s => (s.reply.isSome, s.after d slave pucWriteBuff)

/-- The rest of a call goes on after a part that succeeds. -/
def onSuccess {α : Type} (part : StateM (Bus n) Bool) (error : α)
    (rest : StateM (Bus n) α) : StateM (Bus n) α := do
  if ← part then rest else pure error

/-- The rest of a call goes on with the byte that a transfer receives. -/
def onByte {α : Type} (transfer : StateM (Bus n) (Option (List UInt8))) (error : α)
    (rest : UInt8 → StateM (Bus n) α) : StateM (Bus n) α := do
  match ← transfer with
  | some pucReadBuf => rest (pucReadBuf.headD 0)
  | none => pure error

theorem exec_onSuccess {α : Type} (part : StateM (Bus n) Bool) (error : α)
    (rest : StateM (Bus n) α) (s : Bus n) :
    exec (onSuccess part error rest) s =
      if value part s = true then exec rest (exec part s) else exec part s := by
  unfold onSuccess
  rw [exec_bind, exec_ite, exec_pure]

theorem value_onSuccess {α : Type} (part : StateM (Bus n) Bool) (error : α)
    (rest : StateM (Bus n) α) (s : Bus n) :
    value (onSuccess part error rest) s =
      if value part s = true then value rest (exec part s) else error := by
  unfold onSuccess
  rw [value_bind, value_ite, value_pure]

/-! ### The functions -/

namespace FW_IF_MUXED_DEVICE_CFG

variable (cfg : FW_IF_MUXED_DEVICE_CFG) (d : Fin n)

/-- The channel of the IO expander, as a byte. -/
def ioExpanderBit : UInt8 := cfg.ulMuxRegBitIoExpander.toUInt8

/-- The channels of the IO expander and of the module, as a byte. -/
def bits : UInt8 := (cfg.ulMuxRegBitIoExpander ||| cfg.ulMuxRegBit).toUInt8

/-- The transfers with which `iQsfpModuleSelect` sets the muxes. The status is `OK` after the first
of them, so the second may fail. -/
def selectMux : StateM (Bus n) Bool :=
  onSuccess (iI2C_Send d (.mux (cfg.pucUnselectedMuxAddr 0))
    [FAL_QSFP_MUX_IO_EXPANDER_DESELECTED]) false do
    let _ ← iI2C_Send d (.mux (cfg.pucUnselectedMuxAddr 1)) [FAL_QSFP_MUX_IO_EXPANDER_DESELECTED]
    iI2C_Send d (.mux cfg.ucSelectedMuxAddr) [cfg.bits]

/-- The part of `iQsfpModuleSelect` that follows: the module is present, and its MODSEL line is low.
The pause after a change of the line may fail. -/
def selectModule (slept : Bool) : StateM (Bus n) Bool := do
  match ← iI2C_SendRecv d .ioExpander [FAL_QSFP_IO_EXPANDER_INPUT_PORT_REG] with
  | none => pure false
  | some pucReadBuf =>
    if pucReadBuf.headD 0 &&& FAL_QSFP_MODPRES_L_BIT_MASK = 0 then
      if pucReadBuf.headD 0 &&& FAL_QSFP_MODSEL_L_BIT_MASK ≠ 0 then
        let sent ← iI2C_Send d .ioExpander
          [FAL_QSFP_IO_EXPANDER_OUTPUT_PORT_REG, pucReadBuf.headD 0 &&& FAL_QSFP_MODSELL_L_SET_LOW]
        pure (sent && slept)
      else pure true
    else
      if pucReadBuf.headD 0 &&& FAL_QSFP_MODSEL_L_BIT_MASK = 0 then
        let _ ← iI2C_Send d .ioExpander
          [FAL_QSFP_IO_EXPANDER_OUTPUT_PORT_REG,
            pucReadBuf.headD 0 ||| ~~~FAL_QSFP_MODSELL_L_SET_LOW]
        pure false
      else pure false

def iQsfpModuleSelect (slept : Bool) : StateM (Bus n) Bool :=
  onSuccess (cfg.selectMux d) false (selectModule d slept)

def iQsfpModuleDeselect : StateM (Bus n) Bool :=
  onSuccess (iI2C_Send d (.mux cfg.ucSelectedMuxAddr) [cfg.ioExpanderBit]) false
    (iI2C_Send d (.mux cfg.ucSelectedMuxAddr) [FAL_QSFP_MUX_IO_EXPANDER_DESELECTED])

/-- The steps of `ulOpenQsfpDevice` that turn the module's power on, before the muxes are set. -/
def powerOn (rest : StateM (Bus n) FW_IF_ERRORS) : StateM (Bus n) FW_IF_ERRORS :=
  onByte (iI2C_SendRecv d .power [FAL_QSFP_IO_EXPANDER_CONFIGURATION_REG]) .OPEN fun config =>
  onSuccess (iI2C_Send d .power
    [FAL_QSFP_IO_EXPANDER_CONFIGURATION_REG, config &&& ~~~cfg.ucPowerIoExpanderRegBit]) .OPEN <|
  onByte (iI2C_SendRecv d .power [FAL_QSFP_IO_EXPANDER_OUTPUT_PORT_REG]) .OPEN fun output =>
  onSuccess (iI2C_Send d .power
    [FAL_QSFP_IO_EXPANDER_OUTPUT_PORT_REG, output ||| cfg.ucPowerIoExpanderRegBit]) .OPEN <|
  onByte (iI2C_SendRecv d .power [FAL_QSFP_IO_EXPANDER_INPUT_PORT_REG]) .OPEN fun input =>
    if (input >>> FAL_QSFP_POWER_IO_EXPANDER_NUM_INPUTS) &&& cfg.ucPowerIoExpanderRegBit ≠ 0 then
      rest
    else pure .OPEN

/-- The two other muxes are deselected and the mux of the device gets a byte; each transfer has to
succeed. -/
def setMuxes {α : Type} (v : UInt8) (error : α) (rest : StateM (Bus n) α) : StateM (Bus n) α :=
  onSuccess (iI2C_Send d (.mux (cfg.pucUnselectedMuxAddr 0))
    [FAL_QSFP_MUX_IO_EXPANDER_DESELECTED]) error <|
  onSuccess (iI2C_Send d (.mux (cfg.pucUnselectedMuxAddr 1))
    [FAL_QSFP_MUX_IO_EXPANDER_DESELECTED]) error <|
  onSuccess (iI2C_Send d (.mux cfg.ucSelectedMuxAddr) [v]) error rest

def ulOpenQsfpDevice (slept : Bool) : StateM (Bus n) FW_IF_ERRORS :=
  cfg.powerOn d <| cfg.setMuxes d cfg.ioExpanderBit .OPEN <|
  onSuccess (iI2C_Send d .ioExpander
    [FAL_QSFP_IO_EXPANDER_OUTPUT_PORT_REG, FAL_QSFP_ALL_OUTPUTS_HIGH]) .OPEN <|
  onSuccess (iI2C_Send d .ioExpander
    [FAL_QSFP_IO_EXPANDER_CONFIGURATION_REG, FAL_QSFP_MODSELL_L_SET_LOW]) .OPEN <|
  pure (if slept then .NONE else .OPEN)

def ulQsfpOpen (slept : Bool) : StateM (Bus n) FW_IF_ERRORS :=
  match cfg.xDevice with
  | .QSFP => cfg.ulOpenQsfpDevice d slept
  | .DIMM => pure .NONE

def ulQsfpClose : StateM (Bus n) FW_IF_ERRORS :=
  match cfg.xDevice with
  | .QSFP =>
    onByte (iI2C_SendRecv d .power [FAL_QSFP_IO_EXPANDER_OUTPUT_PORT_REG]) .CLOSE fun output =>
    onSuccess (iI2C_Send d .power
      [FAL_QSFP_IO_EXPANDER_OUTPUT_PORT_REG, output &&& ~~~cfg.ucPowerIoExpanderRegBit]) .CLOSE <|
    pure .NONE
  | .DIMM => pure .NONE

/-- The access of `ulQsfpWrite` to a module that is selected. -/
def writeModule (xHwLevel : FW_IF_MUXED_DEVICE_HW_LEVEL_TYPE) (allocated : Bool)
    (ullDstPort : UInt64) (pucData : List UInt8) : StateM (Bus n) FW_IF_ERRORS :=
  match xHwLevel with
  | .MEMORY_MAP =>
    if allocated then
      onSuccess (iI2C_Send d .device (ullDstPort.toUInt8 :: pucData)) .WRITE (pure .NONE)
    else pure .WRITE
  | .IO_EXPANDER =>
    onSuccess (iI2C_Send d .ioExpander
      [FAL_QSFP_IO_EXPANDER_OUTPUT_PORT_REG, pucData.headD 0]) .WRITE (pure .NONE)

/-- The write to a QSFP module; the mux is disabled in any case. -/
def writeQsfp (xHwLevel : FW_IF_MUXED_DEVICE_HW_LEVEL_TYPE) (allocated slept : Bool)
    (ullDstPort : UInt64) (pucData : List UInt8) : StateM (Bus n) FW_IF_ERRORS := do
  let ulStatus ← onSuccess (cfg.iQsfpModuleSelect d slept) .WRITE do
    let ulStatus ← writeModule d xHwLevel allocated ullDstPort pucData
    onSuccess (cfg.iQsfpModuleDeselect d) .WRITE (pure ulStatus)
  onSuccess (iI2C_Send d (.mux cfg.ucSelectedMuxAddr) [FAL_QSFP_MUX_IO_EXPANDER_DESELECTED]) .WRITE
    (pure ulStatus)

def ulQsfpWrite (xHwLevel : FW_IF_MUXED_DEVICE_HW_LEVEL_TYPE) (allocated slept : Bool)
    (ullDstPort : UInt64) (pucData : List UInt8) : StateM (Bus n) FW_IF_ERRORS :=
  if pucData.length ≤ FAL_QSFP_MAX_DATA then
    match cfg.xDevice with
    | .QSFP => cfg.writeQsfp d xHwLevel allocated slept ullDstPort pucData
    | .DIMM => pure .NONE
  else pure .PARAMS

/-- The status of a read that received some bytes, and the bytes. -/
def received : Option (List UInt8) → FW_IF_ERRORS × List UInt8
  | some pucData => (.NONE, pucData)
  | none => (.READ, [])

/-- The access of `ulReadQsfpDevice` to a module that is selected. -/
def readModule (xHwLevel : FW_IF_MUXED_DEVICE_HW_LEVEL_TYPE) (ullSrcPort : UInt64) :
    StateM (Bus n) (Option (List UInt8)) :=
  match xHwLevel with
  | .MEMORY_MAP => iI2C_SendRecv d .device [ullSrcPort.toUInt8]
  | .IO_EXPANDER => iI2C_SendRecv d .ioExpander [FAL_QSFP_IO_EXPANDER_INPUT_PORT_REG]

def ulReadQsfpDevice (xHwLevel : FW_IF_MUXED_DEVICE_HW_LEVEL_TYPE) (slept : Bool)
    (ullSrcPort : UInt64) : StateM (Bus n) (FW_IF_ERRORS × List UInt8) :=
  onSuccess (cfg.iQsfpModuleSelect d slept) (.READ, []) do
    let data ← readModule d xHwLevel ullSrcPort
    onSuccess (cfg.iQsfpModuleDeselect d) (.READ, (received data).2) (pure (received data))

def ulReadDimmDevice (ullSrcPort : UInt64) : StateM (Bus n) (FW_IF_ERRORS × List UInt8) :=
  cfg.setMuxes d cfg.ioExpanderBit (.READ, []) do
    let data ← iI2C_SendRecv d .device [ullSrcPort.toUInt8]
    pure (received data)

/-- `ulQsfpRead`, with the number of bytes asked for. -/
def ulQsfpRead (xHwLevel : FW_IF_MUXED_DEVICE_HW_LEVEL_TYPE) (slept : Bool) (ullSrcPort : UInt64)
    (pulSize : ℕ) : StateM (Bus n) (FW_IF_ERRORS × List UInt8) :=
  if pulSize ≤ FAL_QSFP_MAX_DATA then
    match cfg.xDevice with
    | .QSFP => cfg.ulReadQsfpDevice d xHwLevel slept ullSrcPort
    | .DIMM => cfg.ulReadDimmDevice d ullSrcPort
  else pure (.PARAMS, [])

end FW_IF_MUXED_DEVICE_CFG

end Amr.Muxed
