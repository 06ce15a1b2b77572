/-
# The windows of the storage interfaces

An access through the OSPI or eMMC interface should reach the driver exactly when it lies in the
configured window, `offset + length ≤ configured length`, and should then be at the address
`base + offset`. The OSPI check adds the lower 32 bits of the offset to the length in 32 bits; the
eMMC check compares the absolute address, in 64 bits, and leaves out the end of the window; the eMMC
driver keeps 32 bits of the number of a block. For both interfaces the accesses are characterised
for which the checks are right.
-/
import Amr.Emmc.Calls
import Amr.Ospi.Interface

namespace Amr.Storage

open ByteStore

/-! ### OSPI -/

/-- The calls are those of an access to the window, exactly. -/
def OspiExact (base L : UInt32) (off : UInt64) (len : UInt32) (calls : List Ospi.DriverCall) :
    Prop :=
  (calls ≠ [] ↔ off.toNat + len.toNat ≤ L.toNat) ∧
    ∀ call ∈ calls, call.ulAddr.toNat = base.toNat + off.toNat ∧ call.ulLength = len

/-- When the OSPI check is right about an access. -/
def OspiHolds (base L : UInt32) (off : UInt64) (len : UInt32) : Prop :=
  if off.toNat + len.toNat ≤ L.toNat then base.toNat + off.toNat < 2 ^ 32
  else L.toNat < (off.toNat + len.toNat) % 2 ^ 32

variable (base L : UInt32)

theorem ospi_accepts_iff (flag : Bool) (off : UInt64) (len : UInt32) :
    Ospi.ulValidateAddressRange ⟨base, L, flag, .OPENED⟩ off.toUInt32 len = .NONE ↔
      (off.toNat + len.toNat) % 2 ^ 32 ≤ L.toNat := by
  have hle : off.toUInt32 + len ≤ L ↔ (off.toNat + len.toNat) % 2 ^ 32 ≤ L.toNat := by
    rw [UInt32.le_iff_toNat_le, UInt32.toNat_add, UInt64.toNat_toUInt32, Nat.mod_add_mod]
  unfold Ospi.ulValidateAddressRange
  rw [← hle]
  split_ifs with h
  · simp [h]
  · simp [h]

theorem ospiExact_iff {base L : UInt32} {off : UInt64} {len : UInt32}
    {calls : List Ospi.DriverCall}
    (hnone : L.toNat < (off.toNat + len.toNat) % 2 ^ 32 → calls = [])
    (hsome : (off.toNat + len.toNat) % 2 ^ 32 ≤ L.toNat → calls ≠ [] ∧
      ∀ call ∈ calls, call.ulAddr = base + off.toUInt32 ∧ call.ulLength = len) :
    OspiExact base L off len calls ↔ OspiHolds base L off len := by
  have hL := L.toNat_lt
  have hbase := base.toNat_lt
  unfold OspiExact OspiHolds
  by_cases hwindow : off.toNat + len.toNat ≤ L.toNat
  · have hmod : (off.toNat + len.toNat) % 2 ^ 32 = off.toNat + len.toNat :=
      Nat.mod_eq_of_lt (by omega)
    obtain ⟨hne, hargs⟩ := hsome (by omega)
    have haddr : (base + off.toUInt32).toNat = (base.toNat + off.toNat) % 2 ^ 32 := by
      rw [UInt32.toNat_add, UInt64.toNat_toUInt32, Nat.add_mod_mod]
    rw [if_pos hwindow]
    constructor
    · rintro ⟨-, hall⟩
      obtain ⟨call, hcall⟩ := List.exists_mem_of_ne_nil calls hne
      have hexact := (hall call hcall).1
      rw [(hargs call hcall).1, haddr] at hexact
      rw [← hexact]
      exact Nat.mod_lt _ (by omega)
    · intro hsmall
      refine ⟨iff_of_true hne hwindow, fun call hcall => ?_⟩
      rw [(hargs call hcall).1, haddr, Nat.mod_eq_of_lt hsmall]
      exact ⟨rfl, (hargs call hcall).2⟩
  · rw [if_neg hwindow]
    constructor
    · rintro ⟨hiff, -⟩
      by_contra hle
      exact hwindow (hiff.mp (hsome (not_lt.mp hle)).1)
    · intro hout
      rw [hnone hout]
      exact ⟨iff_of_false (not_not.mpr rfl) hwindow, fun call hcall => by cases hcall⟩

theorem ospiWrite_exact_iff (flag : Bool) (off : UInt64) (len : UInt32)
    (erased written : Bool) :
    OspiExact base L off len
        (Ospi.ulOspiWrite ⟨base, L, flag, .OPENED⟩ off true len erased written).2 ↔
      OspiHolds base L off len := by
  have haccepts := ospi_accepts_iff base L flag off len
  apply ospiExact_iff
  · intro hout
    simp only [Ospi.ulOspiWrite, if_true, if_neg (mt haccepts.mp (not_le.mpr hout))]
  · intro hin
    simp only [Ospi.ulOspiWrite, if_true, if_pos (haccepts.mpr hin)]
    cases flag <;> cases erased <;> simp

theorem ospiRead_exact_iff (flag : Bool) (off : UInt64) (len : UInt32)
    (done : Bool) :
    OspiExact base L off len
        (Ospi.ulOspiRead ⟨base, L, flag, .OPENED⟩ off true (some len) done).2 ↔
      OspiHolds base L off len := by
  have haccepts := ospi_accepts_iff base L flag off len
  apply ospiExact_iff
  · intro hout
    simp only [Ospi.ulOspiRead, if_true, if_neg (mt haccepts.mp (not_le.mpr hout))]
  · intro hin
    simp only [Ospi.ulOspiRead, if_true, if_pos (haccepts.mpr hin)]
    simp

/-! ### eMMC -/

section Emmc

open Emmc

/-- The driver is called for an access to the window, exactly, for the blocks of the access at
`base + off` and no others. -/
structure EmmcExact (base L : UInt64) (SectorCount : UInt32) (off : UInt64) (len : UInt32)
    (st : Bool) (c : Card) : Prop where
  reached : c.asked ≠ [] ↔ off.toNat + len.toNat ≤ L.toNat
  exact : ExactCalls (base.toNat + off.toNat) len.toNat SectorCount st c

/-- The sum that is checked is short of the end. -/
def Accepted (base L off : UInt64) (len : UInt32) : Prop :=
  ((base + off).toNat + len.toNat) % 2 ^ 64 < L.toNat

/-- When the eMMC checks are right about an access; `nothing` is the access without a byte that
calls nothing. -/
def EmmcHolds (base L : UInt64) (c : Card) (off : UInt64) (len : UInt32) (write : Bool)
    (nothing : Prop) : Prop :=
  if off.toNat + len.toNat ≤ L.toNat then
    Accepted base L off len ∧ ¬ nothing ∧ base.toNat + off.toNat < 2 ^ 64 ∧
      CallsHold c (base.toNat + off.toNat) len.toNat write
  else Accepted base L off len → nothing

theorem exists_asked {o : ℕ → Call} {c : Card} {A len : ℕ} {write : Bool} {x : Bool × Card}
    (h : Goes o c A len write (some x)) (hsome : A % 512 ≠ 0 ∨ len ≠ 0) :
    ∃ y ∈ x.2.asked, y.1 / 512 = A / 512 := by
  have hhead : A % 512 ≠ 0 → ∃ p, firstCalls write A len = (A / 512 * 512, 1) :: p := by
    intro hA
    unfold firstCalls headPart again
    rw [if_neg hA]
    cases write <;> exact ⟨_, rfl⟩
  have hslips : Slips A len → ∃ p, firstCalls write A len = (A / 512 * 512, 1) :: p := by
    rintro ⟨hpos, -⟩
    refine hhead fun hA => ?_
    rw [headBytes, if_pos hA] at hpos
    omega
  have hstart : A / 512 * 512 / 512 = A / 512 := Nat.mul_div_cancel _ (by omega)
  cases h with
  | @walks c' st b _ hwalk _ =>
    by_cases hA : A % 512 = 0
    · have hrest : restBytes A len = len := by rw [restBytes, headBytes, if_pos hA, Nat.sub_zero]
      have hbody : bodyStart A = A := by unfold bodyStart; omega
      have hnone : firstCalls write A len = bodyPart A len := by
        rw [firstCalls, headPart, if_pos hA, again_nil, hrest, List.nil_append]
      rw [hnone, lastCalls, lastPart, bodyPart, hrest, hbody] at hwalk
      by_cases hpos : 0 < len / 512
      · rw [if_pos hpos] at hwalk
        exact ⟨_, hwalk.first_mem, rfl⟩
      · have hodd : ¬ len % 512 = 0 := by omega
        rw [if_neg hpos, if_neg hodd, List.nil_append, show len / 512 = 0 by omega] at hwalk
        cases write <;> exact ⟨_, hwalk.first_mem, by simp⟩
    · obtain ⟨p, hp⟩ := hhead hA
      rw [hp] at hwalk
      exact ⟨(A / 512 * 512, 1), hwalk.first_mem, hstart⟩
  | stops hslip hwalk =>
    obtain ⟨p, hp⟩ := hslips hslip
    exact ⟨(A / 512 * 512, 1), (hp ▸ hwalk).first_mem, hstart⟩
  | leaves hslip _ hwalk =>
    obtain ⟨p, hp⟩ := hslips hslip
    exact ⟨(A / 512 * 512, 1), (hp ▸ hwalk).first_mem, hstart⟩
  | spares _ hslip _ hwalk _ hadded =>
    obtain ⟨p, hp⟩ := hslips hslip
    refine ⟨(A / 512 * 512, 1), ?_, hstart⟩
    rw [hadded.asked]
    exact List.mem_append_left _ (hp ▸ hwalk).first_mem

/-- **The checks are right about an access** when every way it can go is exact. The ways are
numbered by `ι`. -/
theorem emmcExact_iff {ι : Type} {base L off : UInt64} {init : Bool} {SectorCount len : UInt32}
    {write : Bool} {nothing : Prop} (o : ι → ℕ → Call) (bytes : ι → Store)
    (run : ι → Option (Bool × Card)) (hgood : ∃ i, o i = good)
    (hcalled : Accepted base L off len → ¬ nothing →
      ((base + off).toNat % 512 ≠ 0 ∨ len.toNat ≠ 0) ∧ ∀ i,
        Goes (o i) (card init SectorCount (bytes i)) (base + off).toNat len.toNat write (run i))
    (hnothing : ¬ (Accepted base L off len ∧ ¬ nothing) → ∀ i, ∃ st,
      run i = some (st, card init SectorCount (bytes i)) ∧
        (st = true → (base + off).toNat % 512 = 0 ∧ len.toNat = 0)) :
    (∀ i, ∃ x, run i = some x ∧ EmmcExact base L SectorCount off len x.1 x.2) ↔
      EmmcHolds base L (card init SectorCount fun _ => 0) off len write nothing := by
  have haddr : (base + off).toNat = (base.toNat + off.toNat) % 2 ^ 64 := UInt64.toNat_add ..
  have hbase := base.toNat_lt
  have hoff := off.toNat_lt
  have hlen := len.toNat_lt
  obtain ⟨i₀, hi₀⟩ := hgood
  have hsame : ∀ i, (card init SectorCount fun _ => 0).Same (card init SectorCount (bytes i)) :=
    fun _ => ⟨rfl, rfl⟩
  unfold EmmcHolds
  by_cases hcalls : Accepted base L off len ∧ ¬ nothing
  · -- the driver is called
    obtain ⟨hsome, hgoes⟩ := hcalled hcalls.1 hcalls.2
    constructor
    · intro hall
      obtain ⟨x, hx, hreached, hexact⟩ := hall i₀
      have hgo := hgoes i₀
      rw [hx] at hgo
      obtain ⟨y, hy, hstart⟩ := exists_asked hgo hsome
      have hwindow := hreached.mp (List.ne_nil_of_mem hy)
      have hin := (hexact.inside y hy).2.1
      have hsmall : base.toNat + off.toNat < 2 ^ 64 := by omega
      rw [Nat.mod_eq_of_lt hsmall] at haddr
      rw [if_pos hwindow]
      rw [haddr, hi₀] at hgo
      exact ⟨hcalls.1, hcalls.2, hsmall,
        (callsHold_same (hsame i₀) ..).mp (hgo.callsHold rfl hlen hexact)⟩
    · intro hholds i
      split_ifs at hholds with hwindow
      · obtain ⟨-, -, hsmall, hcallsHold⟩ := hholds
        have hgo := hgoes i
        rw [haddr, Nat.mod_eq_of_lt hsmall] at hgo hsome
        obtain ⟨x, hx, hexact⟩ :=
          hgo.exactCalls rfl rfl ((callsHold_same (hsame i) ..).mpr hcallsHold)
        rw [hx] at hgo
        obtain ⟨y, hy, -⟩ := exists_asked hgo hsome
        exact ⟨x, hx, iff_of_true (List.ne_nil_of_mem hy) hwindow, hexact⟩
      · exact absurd (hholds hcalls.1) hcalls.2
  · -- nothing is called
    constructor
    · intro hall
      obtain ⟨x, hx, hreached, -⟩ := hall i₀
      obtain ⟨st, hst, -⟩ := hnothing hcalls i₀
      obtain rfl := Option.some.inj (hx.symm.trans hst)
      have hout : ¬ off.toNat + len.toNat ≤ L.toNat := fun hwindow => hreached.mpr hwindow rfl
      rw [if_neg hout]
      intro haccept
      by_contra hne
      exact hcalls ⟨haccept, hne⟩
    · intro hholds i
      obtain ⟨st, hst, hempty⟩ := hnothing hcalls i
      split_ifs at hholds with hwindow
      · exact absurd ⟨hholds.1, hholds.2.1⟩ hcalls
      · refine ⟨_, hst, iff_of_false (not_not.mpr rfl) hwindow, nofun, nofun,
          fun hok b hb hend => ?_⟩
        obtain ⟨haligned, hzero⟩ := hempty hok
        omega

/-- The calls of an open interface for every outcome, contents and buffer. -/
abbrev Runs (len : UInt32) : Type :=
  (ℕ → Call) × Store × { data : List UInt8 // data.length = len.toNat }

theorem exists_good (len : UInt32) : ∃ i : Runs len, i.1 = good :=
  ⟨⟨good, fun _ => 0, List.replicate len.toNat 0, List.length_replicate⟩, rfl⟩

variable (base L off : UInt64)

theorem accepts_iff (len : UInt32) :
    Emmc.ulValidateAddressRange ⟨base, L, .OPENED⟩ (base + off).toNat len.toNat = .NONE ↔
      Accepted base L off len := by
  unfold Emmc.ulValidateAddressRange Accepted
  split_ifs with h
  · exact iff_of_false nofun (not_lt.mpr h)
  · exact iff_of_true rfl (not_le.mp h)

def writeRun (base L off : UInt64) (init : Bool) (SectorCount len : UInt32) (i : Runs len) :
    Option (Bool × Card) :=
  (ulEmmcWrite ⟨base, L, .OPENED⟩ i.1 (card init SectorCount i.2.1) off (some i.2.2.1) len).map
    fun r => (decide (r.1 = .NONE), r.2)

def readRun (base L off : UInt64) (init : Bool) (SectorCount len : UInt32) (i : Runs len) :
    Option (Bool × Card) :=
  (ulEmmcRead ⟨base, L, .OPENED⟩ i.1 (card init SectorCount i.2.1) off i.2.2.1 len).map
    fun r => (decide (r.ulStatus = .NONE), r.card)

theorem emmcWrite_exact_iff (init : Bool) (SectorCount len : UInt32) :
    (∀ i, ∃ x, writeRun base L off init SectorCount len i = some x ∧
        EmmcExact base L SectorCount off len x.1 x.2) ↔
      EmmcHolds base L (card init SectorCount fun _ => 0) off len true
        ((base + off).toNat % 512 = 0 ∧ len = 0) := by
  have haccepts := accepts_iff base L off len
  have hzero : len = 0 ↔ len.toNat = 0 := UInt32.toNat_inj.symm
  have hrun : ∀ i, Accepted base L off len → writeRun base L off init SectorCount len i
      = (writeSteps i.1 (card init SectorCount i.2.1) (base + off).toNat i.2.2.1 len.toNat).map
        fun s => (s.iWriteStatus, s.card) := by
    intro i haccept
    simp only [writeRun, ulEmmcWrite, if_true, if_pos (haccepts.mpr haccept), writeSteps,
      Option.map_bind]
    congr 1
    funext s
    simp only [Function.comp, Option.map_map]
    congr 1
    funext s
    dsimp only [Function.comp]
    by_cases hst : s.iWriteStatus = true <;> simp [hst]
  refine emmcExact_iff (fun i => i.1) (fun i => i.2.1) _ (exists_good len) ?_ ?_
  · intro haccept hnothing
    rw [hzero] at hnothing
    refine ⟨by omega, fun i => ?_⟩
    rw [hrun i haccept]
    exact writeSteps_goes i.1 _ _ i.2.2.2 len.toNat_lt
  · intro hcalls i
    by_cases haccept : Accepted base L off len
    · obtain ⟨haligned, hlen⟩ := not_not.mp fun hnot => hcalls ⟨haccept, hnot⟩
      have hnone : writeSteps i.1 (card init SectorCount i.2.1) (base + off).toNat i.2.2.1
          len.toNat
          = some ⟨true, (base + off).toNat, 0, len.toNat, card init SectorCount i.2.1⟩ := by
        simp only [writeSteps, writeFirst, HAL_EMMC_BLOCK_SIZE, haligned, ne_eq, not_true_eq_false,
          if_false, Option.bind_some, hzero.mp hlen, lt_self_iff_false, and_false]
      rw [hrun i haccept, hnone]
      exact ⟨true, rfl, fun _ => ⟨haligned, hzero.mp hlen⟩⟩
    · refine ⟨false, ?_, fun h => absurd h Bool.false_ne_true⟩
      simp only [writeRun, ulEmmcWrite, if_true, if_neg (mt haccepts.mp haccept)]
      rfl

theorem emmcRead_exact_iff (init : Bool) (SectorCount len : UInt32) :
    (∀ i, ∃ x, readRun base L off init SectorCount len i = some x ∧
        EmmcExact base L SectorCount off len x.1 x.2) ↔
      EmmcHolds base L (card init SectorCount fun _ => 0) off len false (len = 0) := by
  have haccepts := accepts_iff base L off len
  have hzero : len = 0 ↔ len.toNat = 0 := UInt32.toNat_inj.symm
  refine emmcExact_iff (fun i => i.1) (fun i => i.2.1) _ (exists_good len) ?_ ?_
  · intro haccept hnothing
    have hpos : 0 < len.toNat := Nat.pos_of_ne_zero (mt hzero.mpr hnothing)
    refine ⟨.inr hpos.ne', fun i => ?_⟩
    have hrun : readRun base L off init SectorCount len i
        = (readSteps i.1 (card init SectorCount i.2.1) (base + off).toNat i.2.2.1 len.toNat).map
          fun s => (s.iReadStatus, s.card) := by
      simp only [readRun, ulEmmcRead, if_true, if_pos hnothing, if_pos (haccepts.mpr haccept),
        readSteps, Option.map_bind]
      congr 1
      funext s
      simp only [Function.comp, Option.map_map]
      congr 1
      funext s
      dsimp only [Function.comp]
      by_cases hst : s.iReadStatus = true <;> simp [hst]
    rw [hrun]
    exact readSteps_goes i.1 _ _ i.2.2.2 hpos len.toNat_lt
  · intro hcalls i
    refine ⟨false, ?_, fun h => absurd h Bool.false_ne_true⟩
    by_cases hlen : len = 0
    · simp only [readRun, ulEmmcRead, if_neg (not_not.mpr hlen)]
      rfl
    · have haccept : ¬ Accepted base L off len := fun h => hcalls ⟨h, hlen⟩
      simp only [readRun, ulEmmcRead, if_true, if_pos hlen, if_neg (mt haccepts.mp haccept)]
      rfl

end Emmc

/-! ### Both interfaces -/

/-- **The checks of both interfaces are right about an access exactly under these conditions**, for
every configuration, offset and length, however the driver's calls go. -/
theorem windows_exact_iff (off : UInt64) (len : UInt32) :
    (∀ (base L : UInt32) (flag : Bool) (erased written : Bool),
      OspiExact base L off len
          (Ospi.ulOspiWrite ⟨base, L, flag, .OPENED⟩ off true len erased written).2 ↔
        OspiHolds base L off len) ∧
    (∀ (base L : UInt32) (flag : Bool) (done : Bool),
      OspiExact base L off len
          (Ospi.ulOspiRead ⟨base, L, flag, .OPENED⟩ off true (some len) done).2 ↔
        OspiHolds base L off len) ∧
    (∀ (base L : UInt64) (init : Bool) (SectorCount : UInt32),
      (∀ o bytes data, data.length = len.toNat → ∃ r,
          Emmc.ulEmmcWrite ⟨base, L, .OPENED⟩ o (Emmc.card init SectorCount bytes) off (some data)
            len = some r ∧
          EmmcExact base L SectorCount off len (decide (r.1 = .NONE)) r.2) ↔
        EmmcHolds base L (Emmc.card init SectorCount fun _ => 0) off len true
          ((base + off).toNat % 512 = 0 ∧ len = 0)) ∧
    (∀ (base L : UInt64) (init : Bool) (SectorCount : UInt32),
      (∀ o bytes buf, buf.length = len.toNat → ∃ r,
          Emmc.ulEmmcRead ⟨base, L, .OPENED⟩ o (Emmc.card init SectorCount bytes) off buf len
            = some r ∧
          EmmcExact base L SectorCount off len (decide (r.ulStatus = .NONE)) r.card) ↔
        EmmcHolds base L (Emmc.card init SectorCount fun _ => 0) off len false (len = 0)) := by
  refine ⟨fun base L flag => ospiWrite_exact_iff base L flag off len,
    fun base L flag => ospiRead_exact_iff base L flag off len, fun base L init SectorCount => ?_,
    fun base L init SectorCount => ?_⟩
  · rw [← emmcWrite_exact_iff]
    simp only [Prod.forall, Subtype.forall, writeRun, Option.map_eq_some_iff]
    constructor
    · intro hall o bytes data hdata
      obtain ⟨r, hr, hexact⟩ := hall o bytes data hdata
      exact ⟨_, ⟨r, hr, rfl⟩, hexact⟩
    · intro hall o bytes data hdata
      obtain ⟨_, ⟨r, hr, rfl⟩, hexact⟩ := hall o bytes data hdata
      exact ⟨r, hr, hexact⟩
  · rw [← emmcRead_exact_iff]
    simp only [Prod.forall, Subtype.forall, readRun, Option.map_eq_some_iff]
    constructor
    · intro hall o bytes buf hbuf
      obtain ⟨r, hr, hexact⟩ := hall o bytes buf hbuf
      exact ⟨_, ⟨r, hr, rfl⟩, hexact⟩
    · intro hall o bytes buf hbuf
      obtain ⟨_, ⟨r, hr, rfl⟩, hexact⟩ := hall o bytes buf hbuf
      exact ⟨r, hr, hexact⟩

/-- Sixteen bytes at offset `2 ^ 32` of a window of 4096 bytes are written through the OSPI
interface. -/
theorem not_windows_exact :
    ¬ ((∀ (base L : UInt32) (flag : Bool) (off : UInt64) (len : UInt32) (erased written : Bool),
        OspiExact base L off len
          (Ospi.ulOspiWrite ⟨base, L, flag, .OPENED⟩ off true len erased written).2) ∧
      (∀ (base L : UInt32) (flag : Bool) (off : UInt64) (len : UInt32) (done : Bool),
        OspiExact base L off len
          (Ospi.ulOspiRead ⟨base, L, flag, .OPENED⟩ off true (some len) done).2) ∧
      (∀ (base L off : UInt64) (init : Bool) (SectorCount len : UInt32) o bytes data,
        data.length = len.toNat → ∃ r,
          Emmc.ulEmmcWrite ⟨base, L, .OPENED⟩ o (Emmc.card init SectorCount bytes) off (some data)
            len = some r ∧
          EmmcExact base L SectorCount off len (decide (r.1 = .NONE)) r.2) ∧
      (∀ (base L off : UInt64) (init : Bool) (SectorCount len : UInt32) o bytes buf,
        buf.length = len.toNat → ∃ r,
          Emmc.ulEmmcRead ⟨base, L, .OPENED⟩ o (Emmc.card init SectorCount bytes) off buf len
            = some r ∧
          EmmcExact base L SectorCount off len (decide (r.ulStatus = .NONE)) r.card)) := by
  rintro ⟨hospi, -⟩
  have hexact := hospi 0 0x1000 true 0x100000000 16 true true
  have hwindow := hexact.1.mp (by decide)
  revert hwindow
  decide

end Amr.Storage
