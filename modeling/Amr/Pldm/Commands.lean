/-
# Tables of the PLDM commands

`pldm_commands.c`: which types, versions and commands the endpoint supports. The command lists of a
type are linked through `next`; here they are a list. What `pldm_command_init` enters into the
support tables is computed from the function tables.
-/
import Amr.Mctp.Memory

namespace Amr.Pldm

open StateProgram Mctp

/-- The functions that the tables point to. -/
inductive PldmFunction
  | SetTID
  | GetTID
  | GetPLDMVersion
  | GetPLDMType
  | GetPLDMCommand
  | SetNumericSensorEnable
  | GetSensorReading
  | GetPDRRepositoryInfo
  | GetPDR
  deriving DecidableEq, Repr

structure PldmCommandList where
  funcList : ℕ → Option PldmFunction
  max_command_id : ℕ
  version_id : ℕ

def MAX_PLDM_TYPE : ℕ := 6

def MAX_PLDM_0_COMMAND : ℕ := 0x06

def MAX_PLDM_2_COMMAND : ℕ := 0x54

def RESP_PLDM_SUCCESS : ℕ := 0x00
def RESP_PLDM_ERROR_GENERIC : ℕ := 0x01
def RESP_PLDM_ERROR_PLDM_CMD_NS : ℕ := 0x05
def RESP_PLDM_ERROR_PLDM_TYPE_INV : ℕ := 0x20

def CHECK_RANGE (val min max : ℕ) : Prop := min ≤ val ∧ val < max ∧ min < max

instance (val min max : ℕ) : Decidable (CHECK_RANGE val min max) :=
  inferInstanceAs (Decidable (_ ∧ _ ∧ _))

def Pldm_Versions : List (List UInt8) := [[0x00, 0xF0, 0xF1, 0xF1], [0x00, 0xF2, 0xF2, 0xF1]]

def PldmType0_cmd : ℕ → Option PldmFunction
  | 0x1 => some .SetTID
  | 0x2 => some .GetTID
  | 0x3 => some .GetPLDMVersion
  | 0x4 => some .GetPLDMType
  | 0x5 => some .GetPLDMCommand
  | _ => none

def PldmType2_cmd : ℕ → Option PldmFunction
  | 0x10 => some .SetNumericSensorEnable
  | 0x11 => some .GetSensorReading
  | 0x50 => some .GetPDRRepositoryInfo
  | 0x51 => some .GetPDR
  | _ => none

def type0_cmd_list : PldmCommandList :=
  { funcList := PldmType0_cmd, max_command_id := MAX_PLDM_0_COMMAND, version_id := 0 }

def type2_cmd_list : PldmCommandList :=
  { funcList := PldmType2_cmd, max_command_id := MAX_PLDM_2_COMMAND, version_id := 1 }

/-- `pldm_type_cmd`, a table of `MAX_PLDM_TYPE` entries. -/
def pldm_type_cmd : ℕ → List PldmCommandList
  | 0 => [type0_cmd_list]
  | 2 => [type2_cmd_list]
  | _ => []

/-- A byte of a bit field: bit `j` is `p (8 * k + j)`. -/
def bitsOf (p : ℕ → Bool) (k : ℕ) : UInt8 :=
  UInt8.ofNat (((List.range 8).filter fun j => p (8 * k + j)).map (2 ^ ·)).sum

/-- `Pldm_Command_Supported`, as `pldm_command_init` builds it. -/
def PldmCommandList.Pldm_Command_Supported (l : PldmCommandList) : List UInt8 :=
  (List.range 32).map (bitsOf fun i => decide (i < l.max_command_id) && (l.funcList i).isSome)

/-- `Pldm_Type_Supported`, as `pldm_command_init` builds it. -/
def Pldm_Type_Supported : List UInt8 :=
  (List.range 8).map (bitsOf fun i => decide (i < MAX_PLDM_TYPE) && !(pldm_type_cmd i).isEmpty)

def IsPldmTypeSupported (type : ℕ) : Bool :=
  decide (CHECK_RANGE type 0 MAX_PLDM_TYPE) && !(pldm_type_cmd type).isEmpty

/-- The search of `get_pldm_func` through the command lists of a type. -/
def findFunc (pldm_cmd : ℕ) : List PldmCommandList → Option PldmFunction
  | [] => none
  | l :: next =>
    if CHECK_RANGE pldm_cmd 0x1 l.max_command_id then
      match l.funcList pldm_cmd with
      | some f => some f
      | none => findFunc pldm_cmd next
    else findFunc pldm_cmd next

/-- Get the PLDM function for the type, or the completion code of the refusal. -/
def get_pldm_func (pldm_type pldm_cmd : ℕ) : Except ℕ PldmFunction :=
  if IsPldmTypeSupported pldm_type then
    match findFunc pldm_cmd (pldm_type_cmd pldm_type) with
    | some f => .ok f
    | none => .error RESP_PLDM_ERROR_PLDM_CMD_NS
  else .error RESP_PLDM_ERROR_PLDM_TYPE_INV

/-- Compares a version of the request with bytes of a table, up to the first difference. -/
def sameVersion (version : View) : ℕ → List UInt8 → Program Bool
  | _, [] => pure true
  | i, b :: bs => do
    let v ← version.read i
    if v = b.toNat then sameVersion version (i + 1) bs else pure false

/-- `get_pldm_version_id`: the index of the first version of the table that matches. -/
def get_pldm_version_id (version : View) : ℕ → List (List UInt8) → Program (Option ℕ)
  | _, [] => pure none
  | id, v :: vs => do
    let same ← sameVersion version 0 v
    if same then pure (some id) else get_pldm_version_id version (id + 1) vs

/-- Check if the PLDM version is supported. -/
def IsPldmVersionSupported (type : ℕ) (ver : View) : Program Bool :=
  if IsPldmTypeSupported type then do
    match ← get_pldm_version_id ver 0 Pldm_Versions with
    | none => pure false
    | some id => pure ((pldm_type_cmd type).any fun l => decide (l.version_id = id))
  else pure false

/-- `getPldmVersionSupport`: the bytes of up to `num_version` versions from `start_version` on, and
whether more are there. -/
def getPldmVersionSupport (type start_version num_version : ℕ) : List UInt8 × Bool :=
  if IsPldmTypeSupported type then
    let rest := (pldm_type_cmd type).drop start_version
    ((rest.take num_version).flatMap fun l => Pldm_Versions.getD l.version_id [],
      !(rest.drop num_version).isEmpty)
  else ([], false)

/-- `getPldmCmdSupport`: the bit field of the supported commands. -/
def getPldmCmdSupport (type : ℕ) (ver : View) : Program (List UInt8) :=
  if IsPldmTypeSupported type then do
    match ← get_pldm_version_id ver 0 Pldm_Versions with
    | none => pure []
    | some id =>
      match (pldm_type_cmd type).find? fun l => decide (l.version_id = id) with
      | none => pure []
      | some l => pure l.Pldm_Command_Supported
  else pure []

/-! ### What the tables hold -/

end Amr.Pldm
