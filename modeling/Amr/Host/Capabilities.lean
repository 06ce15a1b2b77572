/-
# Reading the capability lists of a device

`read_pcie_capabilities` and `read_pcie_ext_capabilities` of `ami_pcie.c`: two loops over the
configuration space of a device. Each visits a capability by reading its header and the registers
that its ID asks for, keeps what it has read, and goes on to the capability that the header points
at, until that pointer is 0 or a read fails. The two loops differ in how the header is laid out,
which registers belong to an ID, and where they start: at the pointer in the configuration header,
or at `PCIE_EXT_CAP_BASE_ADDR`.
-/
import Amr.Lib.PointerWalk

namespace Amr.Host.Capabilities

/-! ### Reads of the configuration space -/

/-- A device: the bytes of its configuration space, with those past its end that a read may reach,
and what the bus returns for each read, in order; 0 is success. -/
structure pci_dev where
  config : ℕ → BitVec 8
  ret : ℕ → ℤ

inductive Width where
  | word
  | dword
  deriving DecidableEq, Repr

def Width.bytes : Width → ℕ
  | .word => 2
  | .dword => 4

/-- What the kernel answers to a read that is not aligned to its size. -/
def PCIBIOS_BAD_REGISTER_NUMBER : ℤ := 0x87

/-- The value at `pos`, low byte first. -/
def pci_dev.value (dev : pci_dev) : Width → ℕ → BitVec 32
  | .word, pos => (dev.config (pos + 1) ++ dev.config pos).setWidth 32
  | .dword, pos =>
    (dev.config (pos + 3) ++ dev.config (pos + 2) ++ dev.config (pos + 1) ++ dev.config pos).setWidth
      32

/-- `pci_read_config_word` and `pci_read_config_dword`, as the `k`-th read. -/
def pci_read_config (dev : pci_dev) (w : Width) (pos k : ℕ) : Except ℤ (BitVec 32) :=
  if pos % w.bytes ≠ 0 then .error PCIBIOS_BAD_REGISTER_NUMBER
  else if dev.ret k ≠ 0 then .error (dev.ret k)
  else .ok (dev.value w pos)

/-- Reads at offsets from `base`, one after the other from the `k`-th read on, up to the first that
fails; with the values, the number of the next read. -/
def read_registers (dev : pci_dev) (base : ℕ) :
    List (Width × ℕ) → ℕ → Except ℤ (List (BitVec 32) × ℕ)
  | [], k => .ok ([], k)
  | (w, offset) :: rest, k =>
    match pci_read_config dev w (base + offset) k with
    | .error ret => .error ret
    | .ok value =>
      match read_registers dev base rest (k + 1) with
      | .error ret => .error ret
      | .ok (values, k') => .ok (value :: values, k')

/-! ### The loop -/

/-- What the two loops differ in: how a header is read, which registers belong to it, and what is
kept of a capability of kind `c` at a place, given its header and the values of its registers. -/
structure Layout (n : ℕ) (C R : Type) where
  next : BitVec 32 → BitVec n
  kind : BitVec 32 → Option C
  registers : BitVec 32 → C → List (Width × ℕ)
  keep : BitVec n → C → BitVec 32 → List (BitVec 32) → R → R

variable {n : ℕ} {C R : Type}

/-- The body of the loop: visit the capability at `visit.1`, from read number `visit.2` on. -/
def Layout.body (L : Layout n C R) (dev : pci_dev) (visit : BitVec n × ℕ) (r : R) :
    Except ℤ ((BitVec n × ℕ) × R) :=
  match pci_read_config dev .dword visit.1.toNat visit.2 with
  | .error ret => .error ret
  | .ok header =>
    match L.kind header with
    | none => .ok ((L.next header, visit.2 + 1), r)
    | some c =>
      match read_registers dev visit.1.toNat (L.registers header c) (visit.2 + 1) with
      | .error ret => .error ret
      | .ok (regs, k) => .ok ((L.next header, k), L.keep visit.1 c header regs r)

/-- The loop from `head` on, for at most `fuel` capabilities: it tests the pointer after a visit. -/
def Layout.loop (L : Layout n C R) (dev : pci_dev) (head : BitVec n) (k fuel : ℕ) (r : R) :
    Option (Except ℤ R) :=
  PointerWalk.walk (L.body dev) (fun visit => visit.1 == 0) fuel (head, k) r

/-! ### Capabilities -/

def PCI_CAP_ID_PM : BitVec 32 := 0x01
def PCI_CAP_ID_MSI : BitVec 32 := 0x05
def PCI_CAP_ID_EXP : BitVec 32 := 0x10

def get_pcie_capability_cap_id (capability_read_buf : BitVec 32) : BitVec 32 :=
  (capability_read_buf >>> 0x0) &&& 0xFF

def get_pcie_capability_next_cap (capability_read_buf : BitVec 32) : BitVec 32 :=
  (capability_read_buf >>> 0x8) &&& 0xFF

/-- `get_pcie_cap_pm`, `get_pcie_cap_msi_config_status` and `get_pcie_exp_cap`. -/
def get_pcie_cap_reg (capability_read_buf : BitVec 32) : BitVec 16 :=
  ((capability_read_buf >>> 0x10) &&& 0xFFFF).setWidth 16

def get_pcie_cap_msi_msg_ctrl_64_bit_addr (msi_config_status : BitVec 16) : BitVec 16 :=
  (msi_config_status >>> 0x7) &&& 0x01

def MSI_32_BIT_ADDRESSING : BitVec 16 := 0x00

/-- The capabilities that are kept; an MSI-X capability is passed like any other. -/
inductive Capability where
  | pwr_mgt
  | msi
  | exp
  deriving DecidableEq, Repr

/-- The `switch` on the ID in a header. -/
def capability (capability_read_buf : BitVec 32) : Option Capability :=
  if get_pcie_capability_cap_id capability_read_buf = PCI_CAP_ID_PM then some .pwr_mgt
  else if get_pcie_capability_cap_id capability_read_buf = PCI_CAP_ID_MSI then some .msi
  else if get_pcie_capability_cap_id capability_read_buf = PCI_CAP_ID_EXP then some .exp
  else none

/-- The registers of a capability that are read behind its header, in the order of the reads. -/
def Capability.registers (capability_read_buf : BitVec 32) : Capability → List (Width × ℕ)
  | .pwr_mgt => [(.dword, 0x04)]
  | .msi =>
    if get_pcie_cap_msi_msg_ctrl_64_bit_addr (get_pcie_cap_reg capability_read_buf) =
        MSI_32_BIT_ADDRESSING then
      [(.dword, 0x4), (.word, 0x8)]
    else
      [(.dword, 0x4), (.dword, 0x8), (.word, 0xC)]
  | .exp =>
    [(.dword, 0x04), (.word, 0x08), (.word, 0x0A), (.dword, 0x0C), (.word, 0x10), (.word, 0x12),
      (.dword, 0x14), (.word, 0x18), (.word, 0x1A), (.word, 0x1C), (.word, 0x1E), (.dword, 0x20),
      (.dword, 0x24), (.word, 0x28), (.dword, 0x2C), (.word, 0x30), (.word, 0x32)]

/-- What is kept of a capability: `pcie_pwr_mgt_cap_struct`, `pcie_msi_cap_struct` and
`pcie_exp_cap_struct`, with the values of the registers in the order of the reads. -/
structure cap_struct where
  base_addr : BitVec 8
  cap_id : BitVec 8
  next_cap : BitVec 8
  cap_reg : BitVec 16
  regs : List (BitVec 32)
  deriving DecidableEq, Repr

/-- `pcie_cap_struct`; a part that no capability has filled is `none`. -/
structure pcie_cap_struct where
  pwr_mgt : Option cap_struct
  msi : Option cap_struct
  exp : Option cap_struct
  deriving DecidableEq, Repr

def pcie_cap_struct.part (cap : pcie_cap_struct) : Capability → Option cap_struct
  | .pwr_mgt => cap.pwr_mgt
  | .msi => cap.msi
  | .exp => cap.exp

def pcie_cap_struct.fill (cap : pcie_cap_struct) (c : Capability) (s : cap_struct) :
    pcie_cap_struct :=
  match c with
  | .pwr_mgt => { cap with pwr_mgt := some s }
  | .msi => { cap with msi := some s }
  | .exp => { cap with exp := some s }

/-- The loop in `read_pcie_capabilities`. -/
def cap_layout : Layout 8 Capability pcie_cap_struct where
  next capability_read_buf := (get_pcie_capability_next_cap capability_read_buf).setWidth 8
  kind := capability
  registers := Capability.registers
  keep current_cap_index c capability_read_buf regs cap := cap.fill c {
    base_addr := current_cap_index
    cap_id := (get_pcie_capability_cap_id capability_read_buf).setWidth 8
    next_cap := (get_pcie_capability_next_cap capability_read_buf).setWidth 8
    cap_reg := get_pcie_cap_reg capability_read_buf
    regs := regs }

/-- A `pcie_cap_struct` that nothing has filled. -/
def no_caps : pcie_cap_struct where
  pwr_mgt := none
  msi := none
  exp := none

/-- `read_pcie_capabilities` from the `k`-th read on, for at most `fuel` capabilities. -/
def read_pcie_capabilities (dev : pci_dev) (capability_list : BitVec 8) (k fuel : ℕ) :
    Option (Except ℤ pcie_cap_struct) :=
  cap_layout.loop dev capability_list k fuel no_caps

/-! ### Extended capabilities -/

def PCIE_EXT_CAP_BASE_ADDR : BitVec 16 := 0x100

def PCI_EXT_CAP_ID_ERR : BitVec 32 := 0x01
def PCI_EXT_CAP_ID_VNDR : BitVec 32 := 0x0B
def PCI_EXT_CAP_ID_ARI : BitVec 32 := 0x0E
def PCI_EXT_CAP_ID_SECPCI : BitVec 32 := 0x19
def PCI_EXT_CAP_ID_DLF : BitVec 32 := 0x25
def PCI_EXT_CAP_ID_PL_16GT : BitVec 32 := 0x26
def PCIE_LANE_MARGINING_AT_REC_ID : BitVec 32 := 0x27

def get_pcie_capability_ext_cap_id (ext_header_read_buf : BitVec 32) : BitVec 32 :=
  (ext_header_read_buf >>> 0x00) &&& 0xFFFF

def get_pcie_capability_ext_cap_version (ext_header_read_buf : BitVec 32) : BitVec 32 :=
  (ext_header_read_buf >>> 0x10) &&& 0xF

def get_pcie_capability_ext_cap_next (ext_header_read_buf : BitVec 32) : BitVec 32 :=
  (ext_header_read_buf >>> 0x14) &&& 0xFFC

/-- The extended capabilities that are kept. -/
inductive ExtCapability where
  | aer
  | vsec
  | ari
  | secondary_pci
  | dlf
  | phy_16_gts
  | lane_mar_rec
  deriving DecidableEq, Repr

/-- The `switch` on the ID in an extended header. -/
def ext_capability (ext_header_read_buf : BitVec 32) : Option ExtCapability :=
  let id := get_pcie_capability_ext_cap_id ext_header_read_buf
  if id = PCI_EXT_CAP_ID_ERR then some .aer
  else if id = PCI_EXT_CAP_ID_VNDR then some .vsec
  else if id = PCI_EXT_CAP_ID_ARI then some .ari
  else if id = PCI_EXT_CAP_ID_SECPCI then some .secondary_pci
  else if id = PCI_EXT_CAP_ID_DLF then some .dlf
  else if id = PCI_EXT_CAP_ID_PL_16GT then some .phy_16_gts
  else if id = PCIE_LANE_MARGINING_AT_REC_ID then some .lane_mar_rec
  else none

/-- The registers of an extended capability that are read behind its header. -/
def ExtCapability.registers : ExtCapability → List (Width × ℕ)
  | .aer =>
    [(.dword, 0x04), (.dword, 0x08), (.dword, 0x0C), (.dword, 0x10), (.dword, 0x14), (.dword, 0x18),
      (.dword, 0x1C), (.dword, 0x20), (.dword, 0x24), (.dword, 0x28), (.dword, 0x2C),
      (.dword, 0x30), (.dword, 0x34), (.dword, 0x38), (.dword, 0x3C), (.dword, 0x40),
      (.dword, 0x44)]
  | .vsec => []
  | .ari => [(.word, 0x04), (.word, 0x06)]
  | .secondary_pci => [(.dword, 0x04), (.dword, 0x08)]
  | .dlf => [(.dword, 0x04)]
  | .phy_16_gts =>
    [(.dword, 0x04), (.dword, 0x08), (.dword, 0x0C), (.dword, 0x10), (.dword, 0x14), (.dword, 0x18)]
  | .lane_mar_rec => []

/-- `pcie_ext_header_struct`, with the values of the registers that are read behind the header. -/
structure ext_cap_struct where
  id : BitVec 16
  version : BitVec 8
  next : BitVec 16
  regs : List (BitVec 32)
  deriving DecidableEq, Repr

/-- `pcie_ext_cap_struct`; a part that no capability has filled is `none`. -/
structure pcie_ext_cap_struct where
  aer : Option ext_cap_struct
  ari : Option ext_cap_struct
  secondary_pci : Option ext_cap_struct
  dlf : Option ext_cap_struct
  phy_16_gts : Option ext_cap_struct
  lane_mar_rec : Option ext_cap_struct
  vsec_base_addr_found : Bool
  vsec_base_addr : BitVec 32
  deriving DecidableEq, Repr

/-- What a visit to an extended capability at `ext_cap_ptr` keeps. -/
def pcie_ext_cap_struct.fill (e_cap : pcie_ext_cap_struct) (ext_cap_ptr : BitVec 16)
    (c : ExtCapability) (s : ext_cap_struct) : pcie_ext_cap_struct :=
  match c with
  | .aer => { e_cap with aer := some s }
  | .vsec =>
    { e_cap with vsec_base_addr_found := true, vsec_base_addr := ext_cap_ptr.setWidth 32 }
  | .ari => { e_cap with ari := some s }
  | .secondary_pci => { e_cap with secondary_pci := some s }
  | .dlf => { e_cap with dlf := some s }
  | .phy_16_gts => { e_cap with phy_16_gts := some s }
  | .lane_mar_rec => { e_cap with lane_mar_rec := some s }

/-- The loop in `read_pcie_ext_capabilities`. -/
def ext_layout : Layout 16 ExtCapability pcie_ext_cap_struct where
  next ext_header_read_buf := (get_pcie_capability_ext_cap_next ext_header_read_buf).setWidth 16
  kind := ext_capability
  registers _ := ExtCapability.registers
  keep ext_cap_ptr c ext_header_read_buf regs e_cap := e_cap.fill ext_cap_ptr c {
    id := (get_pcie_capability_ext_cap_id ext_header_read_buf).setWidth 16
    version := (get_pcie_capability_ext_cap_version ext_header_read_buf).setWidth 8
    next := (get_pcie_capability_ext_cap_next ext_header_read_buf).setWidth 16
    regs := regs }

/-- A `pcie_ext_cap_struct` that nothing has filled. -/
def no_ext_caps : pcie_ext_cap_struct where
  aer := none
  ari := none
  secondary_pci := none
  dlf := none
  phy_16_gts := none
  lane_mar_rec := none
  vsec_base_addr_found := false
  vsec_base_addr := 0

/-- `read_pcie_ext_capabilities` from the `k`-th read on, for at most `fuel` capabilities. -/
def read_pcie_ext_capabilities (dev : pci_dev) (k fuel : ℕ) :
    Option (Except ℤ pcie_ext_cap_struct) :=
  ext_layout.loop dev PCIE_EXT_CAP_BASE_ADDR k fuel no_ext_caps

end Amr.Host.Capabilities
