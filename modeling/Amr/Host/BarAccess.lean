/-
# Reading and writing a BAR

The commands `AMI_IOC_READ_BAR` and `AMI_IOC_WRITE_BAR` of `ami_cdev.c`, with `read_pcie_bar`,
`write_pcie_bar` and `do_bar_transaction` of `ami_pcie.c`. The count of registers is checked against
the length of the BAR as if it were a count of bytes, the index of the BAR against the number of
BARs inclusively, and the registers are counted by an `int`. So what is accessed lies inside the BAR
exactly for the requests that these slips let through by right.
-/
import Mathlib

namespace Amr.Host.BarAccess

def EPERM : ℤ := 1
def EIO : ℤ := 5
def ENOMEM : ℤ := 12
def EFAULT : ℤ := 14
def EBUSY : ℤ := 16
def EINVAL : ℤ := 22

def NUM_PCIE_BAR : ℕ := 6

/-- `sizeof(uint32_t)`. -/
def wordSize : ℕ := 4

/-- What of a `bar_header_struct` is used. -/
structure bar_header_struct where
  requested : Bool
  len : BitVec 64
  deriving DecidableEq, Repr

structure ami_ioc_bar_data where
  num : BitVec 32
  addr : BitVec 64
  bar_idx : BitVec 8
  offset : BitVec 64
  cap_override : Bool
  deriving DecidableEq, Repr

/-- What the kernel answers: whether the request is copied, whether the user is root, whether the
buffer is allocated, how many bytes of the data are left when they are copied, and whether the
region is granted and mapped. -/
structure Answers where
  payload : Bool
  root_user : Bool
  alloc : Bool
  left : ℕ
  request_region : Bool
  iomap_range : Bool
  deriving DecidableEq, Repr

/-- An access of the register at byte `addr` of the BAR, from or to word `cell` of the buffer. -/
structure Access where
  addr : ℕ
  cell : ℕ
  deriving DecidableEq, Repr

/-- The result of a command, the accesses, and the size of the buffer. -/
structure Result where
  ret : ℤ
  accesses : List Access
  buffer : ℕ
  deriving DecidableEq, Repr

/-- The loop over the registers, from the `i`-th on, with an `int i`: at an overflow nothing is
defined any more. -/
def accessLoop (offset : ℕ) : ℕ → ℕ → Option (List Access)
  | 0, _ => some []
  | n + 1, i =>
    if i + 1 < 2 ^ 31 then
      (accessLoop offset n (i + 1)).map ({ addr := offset + wordSize * i, cell := i } :: ·)
    else none

/-- `do_bar_transaction`, and with it `read_pcie_bar` and `write_pcie_bar`. `bars` gives the entries
of the array, and behind them what is in memory there. -/
def do_bar_transaction (bars : ℕ → bar_header_struct) (o : Answers) (bar_idx : BitVec 8)
    (offset : BitVec 64) (num : BitVec 32) : Option (ℤ × List Access) :=
  if num = 0 ∨ NUM_PCIE_BAR < bar_idx.toNat then some (-EINVAL, [])
  else
    let bar := bars bar_idx.toNat
    if bar.len = 0 ∨ bar.len < offset + num.setWidth 64 then some (-EFAULT, [])
    else if !bar.requested && !o.request_region then some (-EBUSY, [])
    else if !o.iomap_range then some (- EIO, [])
    else (accessLoop offset.toNat num.toNat 0).map fun accesses => (0, accesses)

/-- `AMI_IOC_WRITE_BAR` if `write`, else `AMI_IOC_READ_BAR`. -/
def ioc_bar (write : Bool) (bars : ℕ → bar_header_struct) (data : ami_ioc_bar_data) (o : Answers) :
    Option Result :=
  if !o.payload then some { ret := -EFAULT, accesses := [], buffer := 0 }
  else if !(data.cap_override || o.root_user) then
    some { ret := -EPERM, accesses := [], buffer := 0 }
  else if data.num = 0 ∨ data.addr = 0 then some { ret := -EINVAL, accesses := [], buffer := 0 }
  else
    let size := data.num.setWidth 64 * BitVec.ofNat 64 wordSize
    if !o.alloc then some { ret := -ENOMEM, accesses := [], buffer := 0 }
    else if write && decide (o.left ≠ 0) then
      some { ret := -EFAULT, accesses := [], buffer := size.toNat }
    else
      (do_bar_transaction bars o data.bar_idx data.offset data.num).map fun (ret, accesses) => {
        ret := if !write && decide (ret = 0) then o.left else ret
        accesses := accesses
        buffer := size.toNat }

/-! ### What a command should do -/

/-- The command fails, and nothing of the device is accessed. -/
def Refused (r : Result) : Prop := r.ret ≠ 0 ∧ r.accesses = []

/-- Exactly the registers of the request are accessed; they lie inside the BAR, their words inside
the buffer, and the BAR has an entry. -/
structure Inside (bars : ℕ → bar_header_struct) (data : ami_ioc_bar_data) (r : Result) : Prop where
  exact : r.accesses.map Access.addr =
    (List.range data.num.toNat).map fun i => data.offset.toNat + 4 * i
  in_bar : ∀ a ∈ r.accesses, a.addr + 4 ≤ (bars data.bar_idx.toNat).len.toNat
  in_buffer : ∀ a ∈ r.accesses, 4 * (a.cell + 1) ≤ r.buffer
  large : 4 * data.num.toNat ≤ r.buffer
  entry : data.bar_idx.toNat < NUM_PCIE_BAR

/-- **What a command should do**: it is defined, and refused or inside the BAR. -/
def BarRight (write : Bool) (bars : ℕ → bar_header_struct) (data : ami_ioc_bar_data)
    (o : Answers) : Prop :=
  ∃ r, ioc_bar write bars data o = some r ∧ (Refused r ∨ Inside bars data r)

/-- The request passes every check, and the kernel gives what is asked of it. -/
structure Passes (write : Bool) (bars : ℕ → bar_header_struct) (data : ami_ioc_bar_data)
    (o : Answers) : Prop where
  payload : o.payload = true
  permitted : (data.cap_override || o.root_user) = true
  num : data.num ≠ 0
  addr : data.addr ≠ 0
  alloc : o.alloc = true
  copied : write = true → o.left = 0
  index : data.bar_idx.toNat ≤ NUM_PCIE_BAR
  len : (bars data.bar_idx.toNat).len ≠ 0
  sum : data.offset + data.num.setWidth 64 ≤ (bars data.bar_idx.toNat).len
  granted : ((bars data.bar_idx.toNat).requested || o.request_region) = true
  mapped : o.iomap_range = true

/-- The BAR has an entry, the registers of the request lie inside it, and an `int` counts them. -/
structure Fits (bars : ℕ → bar_header_struct) (data : ami_ioc_bar_data) : Prop where
  entry : data.bar_idx.toNat < NUM_PCIE_BAR
  inside : data.offset.toNat + 4 * data.num.toNat ≤ (bars data.bar_idx.toNat).len.toNat
  counted : data.num.toNat < 2 ^ 31

variable {write : Bool} {bars : ℕ → bar_header_struct} {data : ami_ioc_bar_data} {o : Answers}
  {offset n i : ℕ}

/-! ### The loop -/

theorem accessLoop_of_lt (h : i + n < 2 ^ 31) :
    accessLoop offset n i =
      some ((List.range' i n).map fun k => { addr := offset + 4 * k, cell := k }) := by
  induction n generalizing i with
  | zero => rfl
  | succ n ih =>
    rw [accessLoop, if_pos (by omega), ih (by omega)]
    rfl

theorem accessLoop_of_le (hi : i < 2 ^ 31) (h : 2 ^ 31 ≤ i + n) : accessLoop offset n i = none := by
  induction n generalizing i with
  | zero => omega
  | succ n ih =>
    rw [accessLoop]
    by_cases hnext : i + 1 < 2 ^ 31
    · rw [if_pos hnext, ih hnext (by omega)]
      rfl
    · exact if_neg hnext

/-! ### The checks -/

/-- **A request that passes** has its registers accessed in order. -/
theorem ioc_bar_of_passes (h : Passes write bars data o) :
    ∃ ret, ioc_bar write bars data o =
      (accessLoop data.offset.toNat data.num.toNat 0).map fun accesses =>
        { ret := ret, accesses := accesses, buffer := 4 * data.num.toNat } := by
  have hsize : (data.num.setWidth 64 * BitVec.ofNat 64 wordSize).toNat = 4 * data.num.toNat := by
    have hlt := data.num.isLt
    rw [BitVec.toNat_mul, BitVec.toNat_setWidth, BitVec.toNat_ofNat, wordSize]
    omega
  have hcopied : (write && decide (o.left ≠ 0)) = false := by
    cases hw : write with
    | false => rfl
    | true => simp [h.copied hw]
  refine ⟨if !write then o.left else 0, ?_⟩
  rw [ioc_bar, if_neg (by simp [h.payload]), if_neg (by simp only [h.permitted]; decide),
    if_neg (not_or.mpr ⟨h.num, h.addr⟩)]
  dsimp only
  rw [if_neg (by simp [h.alloc]), if_neg (by rw [hcopied]; exact Bool.false_ne_true), hsize,
    do_bar_transaction, if_neg (not_or.mpr ⟨h.num, not_lt.mpr h.index⟩)]
  dsimp only
  rw [if_neg (not_or.mpr ⟨h.len, BitVec.not_lt.mpr h.sum⟩),
    if_neg (by rw [← Bool.not_or, h.granted]; exact Bool.false_ne_true),
    if_neg (by simp [h.mapped]), Option.map_map]
  refine congrArg (fun f => Option.map f _) (funext fun accesses => ?_)
  simp

/-- **A request that does not pass** is refused. -/
theorem refused_of_not_passes (h : ¬ Passes write bars data o) :
    ∃ r, ioc_bar write bars data o = some r ∧ Refused r := by
  rw [ioc_bar]
  by_cases hpayload : o.payload = true
  swap
  · exact ⟨_, if_pos (by simpa using hpayload), by decide, rfl⟩
  rw [if_neg (by simp [hpayload])]
  by_cases hpermitted : (data.cap_override || o.root_user) = true
  swap
  · exact ⟨_, if_pos (by simpa using hpermitted), by decide, rfl⟩
  rw [if_neg (by simp only [hpermitted]; decide)]
  by_cases hargs : data.num = 0 ∨ data.addr = 0
  · exact ⟨_, if_pos hargs, by decide, rfl⟩
  rw [if_neg hargs]
  dsimp only
  by_cases halloc : o.alloc = true
  swap
  · exact ⟨_, if_pos (by simpa using halloc), by decide, rfl⟩
  rw [if_neg (by simp [halloc])]
  by_cases hcopied : (write && decide (o.left ≠ 0)) = true
  · exact ⟨_, if_pos hcopied, (by decide : -EFAULT ≠ 0), rfl⟩
  rw [if_neg hcopied]
  -- from here on the transaction fails, and its result is passed on
  have hfail : ∀ ret : ℤ, ret ≠ 0 →
      do_bar_transaction bars o data.bar_idx data.offset data.num = some (ret, []) →
      ∃ r, Option.map (fun x : ℤ × List Access => ({
        ret := if (!write && decide (x.1 = 0)) = true then (o.left : ℤ) else x.1
        accesses := x.2
        buffer := (data.num.setWidth 64 * BitVec.ofNat 64 wordSize).toNat } : Result))
        (do_bar_transaction bars o data.bar_idx data.offset data.num) = some r ∧ Refused r := by
    intro ret hret heq
    rw [heq]
    refine ⟨_, rfl, ?_, rfl⟩
    simp [hret]
  rw [not_or] at hargs
  by_cases hindex : NUM_PCIE_BAR < data.bar_idx.toNat
  · exact hfail (-EINVAL) (by decide) (by rw [do_bar_transaction, if_pos (.inr hindex)])
  by_cases hlen : (bars data.bar_idx.toNat).len = 0 ∨
      (bars data.bar_idx.toNat).len < data.offset + data.num.setWidth 64
  · refine hfail (-EFAULT) (by decide) ?_
    rw [do_bar_transaction, if_neg (not_or.mpr ⟨hargs.1, hindex⟩)]
    exact if_pos hlen
  by_cases hgranted : ((bars data.bar_idx.toNat).requested || o.request_region) = true
  swap
  · refine hfail (-EBUSY) (by decide) ?_
    rw [do_bar_transaction, if_neg (not_or.mpr ⟨hargs.1, hindex⟩)]
    dsimp only
    rw [if_neg hlen]
    exact if_pos (by rw [← Bool.not_or]; simpa using hgranted)
  by_cases hmapped : o.iomap_range = true
  swap
  · refine hfail (- EIO) (by decide) ?_
    rw [do_bar_transaction, if_neg (not_or.mpr ⟨hargs.1, hindex⟩)]
    dsimp only
    rw [if_neg hlen, if_neg (by rw [← Bool.not_or, hgranted]; exact Bool.false_ne_true)]
    exact if_pos (by simpa using hmapped)
  rw [not_or] at hlen
  refine absurd ⟨hpayload, hpermitted, hargs.1, hargs.2, halloc, fun hw => ?_, not_lt.mp hindex,
    hlen.1, BitVec.not_lt.mp hlen.2, hgranted, hmapped⟩ h
  simpa [hw] using hcopied

/-- **A BAR access is right exactly if a request that passes every check fits.** -/
theorem bar_right_iff (write : Bool) (bars : ℕ → bar_header_struct) (data : ami_ioc_bar_data)
    (o : Answers) :
    BarRight write bars data o ↔ (Passes write bars data o → Fits bars data) := by
  by_cases hpasses : Passes write bars data o
  swap
  · obtain ⟨r, hr, hrefused⟩ := refused_of_not_passes hpasses
    exact ⟨fun _ h => absurd h hpasses, fun _ => ⟨r, hr, .inl hrefused⟩⟩
  obtain ⟨ret, hioc⟩ := ioc_bar_of_passes hpasses
  have hpos : 0 < data.num.toNat :=
    Nat.pos_of_ne_zero fun h => hpasses.num (BitVec.eq_of_toNat_eq h)
  have hmem : ∀ {r : Result} {a : Access}, ioc_bar write bars data o = some r →
      data.num.toNat < 2 ^ 31 → (a ∈ r.accesses ↔
        ∃ k < data.num.toNat, { addr := data.offset.toNat + 4 * k, cell := k } = a) := by
    intro r a hr hcount
    rw [hioc, accessLoop_of_lt (by omega)] at hr
    obtain rfl := Option.some.inj hr
    simp [List.mem_range'_1]
  constructor
  · rintro ⟨r, hr, hcase⟩ -
    have hcounted : data.num.toNat < 2 ^ 31 := by
      by_contra hcount
      rw [hioc, accessLoop_of_le (by norm_num) (by omega)] at hr
      cases hr
    have hlast := (hmem hr hcounted).mpr ⟨data.num.toNat - 1, by omega, rfl⟩
    rcases hcase with hrefused | hinside
    · rw [hrefused.2] at hlast
      cases hlast
    · refine ⟨hinside.entry, ?_, hcounted⟩
      have hbound := hinside.in_bar _ hlast
      dsimp only at hbound
      omega
  · intro hfits
    obtain ⟨hentry, hinside, hcounted⟩ := hfits hpasses
    have hr := hioc
    rw [accessLoop_of_lt (by omega)] at hr
    refine ⟨_, hr, .inr ⟨?_, ?_, ?_, le_rfl, hentry⟩⟩
    · rw [List.map_map, List.range_eq_range']
      rfl
    · intro a ha
      obtain ⟨k, hk, rfl⟩ := (hmem hr hcounted).mp ha
      dsimp only
      omega
    · intro a ha
      obtain ⟨k, hk, rfl⟩ := (hmem hr hcounted).mp ha
      dsimp only
      omega

/-! ### A register behind the BAR -/

/-- Two registers from the last but three bytes of a BAR of 4096 bytes on. -/
def beyond : ami_ioc_bar_data where
  num := 2
  addr := 0x1000
  bar_idx := 0
  offset := 4092
  cap_override := true

def granted : Answers where
  payload := true
  root_user := true
  alloc := true
  left := 0
  request_region := true
  iomap_range := true

/-- **A count of registers that is checked as a count of bytes** lets one pass behind the BAR. -/
theorem not_bar_right :
    ¬ ∀ (write : Bool) (bars : ℕ → bar_header_struct) (data : ami_ioc_bar_data) (o : Answers),
      BarRight write bars data o := by
  intro h
  obtain ⟨r, hr, hcase⟩ := h false (fun _ => { requested := false, len := 4096 }) beyond granted
  have hresult : ioc_bar false (fun _ => { requested := false, len := 4096 }) beyond granted =
      some { ret := 0, accesses := [⟨4092, 0⟩, ⟨4096, 1⟩], buffer := 8 } := by decide
  rw [hresult] at hr
  obtain rfl := Option.some.inj hr
  rcases hcase with hrefused | hinside
  · exact hrefused.1 rfl
  · have hbound := hinside.in_bar ⟨4096, 1⟩ (by decide)
    exact absurd hbound (by decide)

end Amr.Host.BarAccess
