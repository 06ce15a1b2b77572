/-
# Probing and removing a device

`pcie_device_probe`, `create_pf_dev_data`, `delete_pf_dev_data` and `pcie_device_remove` of
`ami_top.c`, with what they call in `ami_pcie.c`, `ami_vsec.c`, `ami_sysfs.c` and `ami_cdev.c`, as
programs on the book of what the driver holds for the device. `setup_amc` and `unset_amc` are one
step each here: a session is set up and torn down as a whole. The values that are read from the
configuration space are left out; whether each read succeeds is not.
-/
import Amr.Lib.Holdings

namespace Amr.Host.Probe

open Holdings

/-! ### Resources and outcomes -/

/-- What the driver, or the kernel on its behalf, holds for a device. -/
inductive Resource where
  | enabled
  | pf_dev
  | pcie_config
  | header
  | cap
  | pwr_mgt
  | msi
  | exp
  | ext_cap
  | ari
  | aer
  | dlf
  | lane_mar_rec
  | phy_16_gts
  | secondary_pci
  | endpoints
  | region
  | mapping
  | amc
  | sensors
  | hwmon
  | mgmt_attr (i : ℕ)
  | chrdev_region
  | dev_class
  | device
  | cdev
  deriving DecidableEq, Repr

open Resource

/-- What each step of a probe comes to: `true` is success. A list holds the results of the
configuration reads of one function, in order. -/
structure Outcomes where
  supported : Bool
  enable : Bool
  pf_dev : Bool
  pcie_config : Bool
  header : Bool
  header_reads : List Bool
  cap : Bool
  exp : Bool
  msi : Bool
  pwr_mgt : Bool
  cap_reads : List Bool
  ext_cap : Bool
  ari : Bool
  aer : Bool
  dlf : Bool
  lane_mar_rec : Bool
  phy_16_gts : Bool
  secondary_pci : Bool
  ext_cap_reads : List Bool
  /-- The maximum memory read request, or a negative error. -/
  readrq : ℤ
  set_readrq : Bool
  endpoints : Bool
  region : Bool
  mapping : Bool
  /-- The UUID lies inside the region. -/
  uuid_in_range : Bool
  /-- `pci_iounmap` undoes a mapping when it is given an address in its midst. -/
  iounmap_inside : Bool
  setup_amc : Bool
  compat_mode : Bool
  function0 : Bool
  discover_sensors : Bool
  hwmon : Bool
  /-- The name of the hwmon device can be scanned. -/
  hwmon_name : Bool
  mgmt_attr : ℕ → Bool
  chrdev_region : Bool
  dev_class : Bool
  device : Bool
  cdev_add : Bool

/-- The book afterwards, and whether the function returned `SUCCESS`. -/
abbrev Ran := Book Resource × Bool

/-! ### `ami_pcie.c` -/

def read_pcie_config_header (e : Outcomes) (b : Book Resource) : Ran :=
  let b := (b.use pcie_config).alloc e.header header
  if e.header && e.header_reads.all id then (b, true)
  else (b.release pcie_config header, false)

/-- The label `fail` of `read_pcie_capabilities`. `pwr_mgt` comes first in the structure: its address
is NULL when `cap` is NULL, and that is tested. -/
def fail_capabilities (b : Book Resource) : Ran :=
  let b := if cap ∈ b.ptr then b.release cap pwr_mgt else b
  (((b.release cap msi).release cap exp).release pcie_config cap, false)

def read_pcie_capabilities (e : Outcomes) (b : Book Resource) : Ran :=
  let b := ((b.use pcie_config).use header).alloc e.cap cap
  if e.cap = false then fail_capabilities b
  else
    let b := (b.use cap).alloc e.exp exp
    if e.exp = false then fail_capabilities b
    else
      let b := b.alloc e.msi msi
      if e.msi = false then fail_capabilities b
      else
        let b := b.alloc e.pwr_mgt pwr_mgt
        if e.pwr_mgt = false then fail_capabilities b
        else if e.cap_reads.all id then (b, true) else fail_capabilities b

/-- The label `fail` of `read_pcie_ext_capabilities`. -/
def fail_ext_capabilities (b : Book Resource) : Ran :=
  (((((((b.release ext_cap secondary_pci).release ext_cap phy_16_gts).release ext_cap
    lane_mar_rec).release ext_cap dlf).release ext_cap aer).release ext_cap ari).release
    pcie_config ext_cap, false)

def read_pcie_ext_capabilities (e : Outcomes) (b : Book Resource) : Ran :=
  let b := (b.use pcie_config).alloc e.ext_cap ext_cap
  if e.ext_cap = false then fail_ext_capabilities b
  else
    let b := (b.use ext_cap).alloc e.ari ari
    if e.ari = false then fail_ext_capabilities b
    else
      let b := b.alloc e.aer aer
      if e.aer = false then fail_ext_capabilities b
      else
        let b := b.alloc e.dlf dlf
        if e.dlf = false then fail_ext_capabilities b
        else
          let b := b.alloc e.lane_mar_rec lane_mar_rec
          if e.lane_mar_rec = false then fail_ext_capabilities b
          else
            let b := b.alloc e.phy_16_gts phy_16_gts
            if e.phy_16_gts = false then fail_ext_capabilities b
            else
              let b := b.alloc e.secondary_pci secondary_pci
              if e.secondary_pci = false then fail_ext_capabilities b
              else if e.ext_cap_reads.all id then (b, true)
              else fail_ext_capabilities b

/-- The part of `release_pcie_mem` about the extended capability list. -/
def release_ext_caps (b : Book Resource) : Book Resource :=
  let b := if ext_cap ∈ b.ptr then
      (((((b.release ext_cap secondary_pci).release ext_cap phy_16_gts).release ext_cap
        lane_mar_rec).release ext_cap dlf).release ext_cap aer).release ext_cap ari
    else b
  b.release pcie_config ext_cap

def release_caps (b : Book Resource) : Book Resource :=
  let b := if cap ∈ b.ptr then
      ((b.release cap pwr_mgt).release cap msi).release cap exp
    else b
  b.release pcie_config cap

def release_pcie_mem (b : Book Resource) : Book Resource :=
  let b := b.use pf_dev
  if pcie_config ∈ b.ptr then
    let b := release_caps (release_ext_caps (b.use pcie_config))
    (b.release pcie_config header).release pf_dev pcie_config
  else b

def read_pcie_configuration (e : Outcomes) (b : Book Resource) : Ran :=
  let b := (b.use pf_dev).alloc e.pcie_config pcie_config
  if e.pcie_config = false then (release_pcie_mem b, false)
  else
    let h := read_pcie_config_header e b
    if h.2 = false then (release_pcie_mem h.1, false)
    else
      let c := read_pcie_capabilities e h.1
      if c.2 = false then (release_pcie_mem c.1, false)
      else
        let x := read_pcie_ext_capabilities e c.1
        if x.2 = false then (release_pcie_mem x.1, false) else (x.1, true)

def PCIE_MAX_READ_BYTES : ℤ := 512

/-- Bus mastering and the read request are set in the device; nothing is acquired. -/
def write_pcie_configuration (e : Outcomes) : Bool :=
  if e.readrq < 0 then false
  else if e.readrq > PCIE_MAX_READ_BYTES then e.set_readrq
  else true

/-! ### `ami_vsec.c` -/

/-- The structure is released when the address of its pointer is NULL, which no caller passes. -/
def release_vsec_mem (address : Bool) (b : Book Resource) : Book Resource :=
  if address = false then b.release pf_dev endpoints else b

def read_logic_uuid (e : Outcomes) (b : Book Resource) : Ran :=
  let b := b.use endpoints
  if e.region = false then (b, false)
  else
    let b := b.acquire region
    if e.mapping = false then (b.undo region, false)
    else
      let b := b.acquire mapping
      if e.uuid_in_range = false then (b.undo region, false)
      else
        -- the address passed to `pci_iounmap` has been moved to the UUID
        let b := if e.iounmap_inside then b.undo mapping else b
        (b.undo region, true)

def read_vsec (e : Outcomes) (b : Book Resource) : Ran :=
  let b := (b.use pf_dev).alloc e.endpoints endpoints
  if e.endpoints = false then (release_vsec_mem true b, false)
  else
    let u := read_logic_uuid e b
    if u.2 then u else (release_vsec_mem true u.1, false)

/-! ### `ami_sysfs.c` and `ami_cdev.c` -/

/-- The length of `mgmt_attrs`, without its last entry. -/
def MGMT_ATTRS : ℕ := 26

/-- `device_remove_file` does nothing for a file that does not exist. -/
def remove_sysfs (b : Book Resource) : Book Resource :=
  (List.range MGMT_ATTRS).foldl (fun b i => b.discard (mgmt_attr i)) b

/-- The files from number `i` on are created until one fails. -/
def create_files (e : Outcomes) : List ℕ → Book Resource → Ran
  | [], b => (b, true)
  | i :: is, b =>
    if e.mgmt_attr i then create_files e is (b.acquire (mgmt_attr i)) else (b, false)

def register_sysfs (e : Outcomes) (b : Book Resource) : Ran :=
  let r := create_files e (List.range MGMT_ATTRS) b
  if r.2 then r else (remove_sysfs r.1, false)

/-- The class of the device, if it has one already, is the driver's. -/
def create_cdev (e : Outcomes) (has_class : Bool) (b : Book Resource) : Ran :=
  if e.chrdev_region = false then (b, false)
  else
    let b := b.acquire chrdev_region
    if has_class = false && e.dev_class = false then (b.undo chrdev_region, false)
    else
      let b := if has_class = false then b.acquire dev_class else b
      let del_class := fun (b : Book Resource) =>
        let b := if has_class = false then b.undo dev_class else b
        (b.undo chrdev_region, false)
      if e.device = false then del_class b
      else
        let b := b.acquire device
        if e.cdev_add = false then del_class (b.undo device)
        else (b.acquire cdev, true)

/-! ### `ami_top.c` -/

/-- The labels of `create_pf_dev_data` from `delete_data` on. -/
def delete_data (b : Book Resource) : Ran :=
  ((release_pcie_mem (release_vsec_mem true b)).undo pf_dev, false)

/-- The labels from `remove_pf_dev` on. -/
def remove_pf_dev (b : Book Resource) : Ran := delete_data (b.release pf_dev amc)

/-- The sensors and the hwmon device are managed memory of the device: whatever `discover_sensors`
allocated is freed by the driver core. -/
def discover_and_register (e : Outcomes) (b : Book Resource) : Ran :=
  if e.function0 && e.setup_amc && !e.compat_mode then
    let b := b.acquire sensors
    if e.discover_sensors then
      if e.hwmon then (b.acquire hwmon, e.hwmon_name) else (b, false)
    else (b, true)
  else (b, true)

def create_pf_dev_data (e : Outcomes) (b : Book Resource) : Ran :=
  let b := b.alloc e.pf_dev pf_dev
  if e.pf_dev = false then (b, false)
  else
    let c := read_pcie_configuration e b
    if c.2 = false then delete_data c.1
    else if write_pcie_configuration e = false then delete_data c.1
    else
      let v := read_vsec e c.1
      if v.2 = false then delete_data v.1
      else
        -- a failed `setup_amc` leaves a device without AMC
        let b := (v.1.use endpoints).alloc e.setup_amc amc
        let s := discover_and_register e b
        if s.2 = false then remove_pf_dev s.1
        else
          let f := register_sysfs e s.1
          if f.2 = false then remove_pf_dev f.1
          else
            let d := create_cdev e true f.1
            if d.2 = false then remove_pf_dev (remove_sysfs d.1) else (d.1, true)

def pcie_device_probe (e : Outcomes) (b : Book Resource) : Ran :=
  if e.supported = false then (b, false)
  else if e.enable = false then (b, false)
  else
    let r := create_pf_dev_data e (b.acquire enabled)
    if r.2 then r else (r.1.undo enabled, false)

def shutdown_pf_dev_services (b : Book Resource) : Book Resource := b.release pf_dev amc

def delete_pf_dev_data (b : Book Resource) : Book Resource :=
  let b := shutdown_pf_dev_services b
  let b := if cdev ∈ b.ptr then ((b.undo cdev).undo device).undo chrdev_region else b
  let b := release_vsec_mem true b
  let b := release_pcie_mem b
  let b := remove_sysfs b
  b.undo pf_dev

def pcie_device_remove (b : Book Resource) : Book Resource :=
  delete_pf_dev_data (b.undo enabled)

/-- The driver core releases managed memory after a failed probe and after a removal. -/
def devres_release_all (b : Book Resource) : Book Resource := (b.discard hwmon).discard sensors

/-- A probe and, when it succeeds, the removal of the device. -/
def probe_and_remove (e : Outcomes) : Book Resource :=
  let r := pcie_device_probe e (.of ∅ false)
  devres_release_all (if r.2 then pcie_device_remove r.1 else r.1)

end Amr.Host.Probe
