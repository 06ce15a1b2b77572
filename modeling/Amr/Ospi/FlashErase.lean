/-
# Erasing the flash

`iFlashErase`, `iBulkErase`, `iDieErase` and `iOSPI_FlashErase` of `ospi.c`. The initialisation
refuses flashes in the stacked mode, and the status with which the branch for the whole device
starts is only set in that mode. The loop over the sectors keeps the status of its last round, and
moves on to the next sector only if the erase command was taken.
-/
import Amr.Lib.Polling

namespace Amr.Ospi

open Polling

/-- A flash device, as far as it is erased. -/
structure OSPIFlashInfo where
  ulJedecId : ℕ
  ulSectSize : ℕ
  ululNumSect : ℕ
  ulFlashDeviceSize : ℕ
  ucNumDie : ℕ
  deriving DecidableEq, Repr

def FLASH_SECTOR_SIZE_32KB : ℕ := 0x8000
def FLASH_SECTOR_SIZE_64KB : ℕ := 0x10000
def FLASH_SECTOR_SIZE_128KB : ℕ := 0x20000
def FLASH_DEVICE_SIZE_256M : ℕ := 0x2000000
def FLASH_DEVICE_SIZE_512M : ℕ := 0x4000000
def FLASH_DEVICE_SIZE_1G : ℕ := 0x8000000
def FLASH_DEVICE_SIZE_2G : ℕ := 0x10000000
def XFLASH_STATUS_BYTE : UInt8 := 0x80

def pxFlashConfigTable : List OSPIFlashInfo :=
  [⟨0x2c5b1a, FLASH_SECTOR_SIZE_128KB, 0x200, FLASH_DEVICE_SIZE_512M, 1⟩,
   ⟨0x2c5b1b, FLASH_SECTOR_SIZE_128KB, 0x400, FLASH_DEVICE_SIZE_1G, 1⟩,
   ⟨0x2c5b1c, FLASH_SECTOR_SIZE_32KB, 0x800, FLASH_DEVICE_SIZE_2G, 1⟩,
   ⟨0xc86819, FLASH_SECTOR_SIZE_64KB, 0x200, FLASH_DEVICE_SIZE_256M, 1⟩,
   ⟨0x9d5b19, FLASH_SECTOR_SIZE_128KB, 0x100, FLASH_DEVICE_SIZE_256M, 1⟩]

/-- The driver: the initialisation fails if the flashes are stacked. -/
structure EraseDriver where
  info : OSPIFlashInfo
  known : info ∈ pxFlashConfigTable
  stacked : Bool
  iInitialised : Bool
  supported : iInitialised = true → stacked = false

/-- How an erase command goes: whether the flash is selected, whether the write enable and the
command are transferred, and what each poll of the status register reads, if it is transferred. -/
structure EraseOutcome where
  selected : Bool
  enabled : Bool
  commanded : Bool
  status : ℕ → Option UInt8

/-- The outcomes of an erase, with those of the rounds of the loop, and of the bulk and the die
erases of both flashes. -/
structure EraseOutcomes where
  taken : Bool
  sector : ℕ → EraseOutcome
  bulk : Bool → EraseOutcome
  die : Bool → ℕ → EraseOutcome
  released : Bool

/-- A command that a flash has taken; `cs` is the flash that was selected. -/
inductive Erasure
  | sector (cs : Bool) (ulRealAddr : ℕ)
  | die (cs : Bool)
  | bulk (cs : Bool)
  deriving DecidableEq, Repr

/-- It erases the byte at `a`; the erase commands without an address erase all. -/
def Erasure.Covers (ulSectSize a : ℕ) : Erasure → Prop
  | .sector _ ulRealAddr => ulRealAddr / ulSectSize = a / ulSectSize
  | .die _ => True
  | .bulk _ => True

def statusOf (t : EraseOutcome) (k : ℕ) : Option Bool :=
  match t.status k with
  | none => some false
  | some ucFlashStatus => if ucFlashStatus &&& XFLASH_STATUS_BYTE ≠ 0 then some true else none

/-- Whether the command is taken, and the status. -/
def eraseCommand (fuel : ℕ) (t : EraseOutcome) : Option (Bool × Bool) :=
  if t.enabled && t.commanded then (poll (statusOf t) fuel 0).map fun st => (true, st)
  else some (false, false)

def iBulkErase (fuel : ℕ) (t : EraseOutcome) (cs : Bool) (erased : List Erasure) :
    Option (Bool × List Erasure) :=
  (eraseCommand fuel t).map fun r => (r.2, if r.1 then erased ++ [.bulk cs] else erased)

/-- The first rounds of the loop over the dies. -/
def iDieErase (fuel : ℕ) (o : ℕ → EraseOutcome) (cs : Bool) (erased : List Erasure) :
    ℕ → Option (Bool × List Erasure)
  | 0 => some (false, erased)
  | ucDieCnt + 1 =>
    match iDieErase fuel o cs erased ucDieCnt with
    | some (_, erased) =>
      (eraseCommand fuel (o ucDieCnt)).map fun r =>
        (r.2, if r.1 then erased ++ [.die cs] else erased)
    | none => none

/-- The bulk or die erase of one flash, whose result is dropped. -/
def eraseFlash (fuel : ℕ) (d : EraseDriver) (o : EraseOutcomes) (cs : Bool)
    (erased : List Erasure) : Option (List Erasure) :=
  if d.info.ucNumDie = 1 then (iBulkErase fuel (o.bulk cs) cs erased).map Prod.snd
  else (iDieErase fuel (o.die cs) cs erased d.info.ucNumDie).map Prod.snd

/-- The flash to select, and the address in it. -/
def iGetRealAddr (d : EraseDriver) (ulAddress : ℕ) : Bool × ℕ :=
  if d.stacked ∧ ulAddress &&& d.info.ulFlashDeviceSize ≠ 0 then
    (true, ulAddress - (ulAddress &&& d.info.ulFlashDeviceSize))
  else (false, ulAddress)

/-- The loop over the sectors: its status, the running address, and whether it was left. -/
structure SectorLoop where
  status : Bool
  ulAddress : ℕ
  erased : List Erasure
  left : Bool

def eraseRound (fuel : ℕ) (d : EraseDriver) (t : EraseOutcome) (s : SectorLoop) :
    Option SectorLoop :=
  let r := iGetRealAddr d s.ulAddress
  if t.selected then
    (eraseCommand fuel t).map fun
      | (true, st) =>
        ⟨st, (s.ulAddress + d.info.ulSectSize) % 2 ^ 32, s.erased ++ [.sector r.1 r.2], false⟩
      | (false, st) => { s with status := st }
  else some { s with status := false, left := true }

/-- The first rounds of the loop over the sectors. -/
def eraseSectors (fuel : ℕ) (d : EraseDriver) (o : ℕ → EraseOutcome) (ulAddress : ℕ) :
    ℕ → Option SectorLoop
  | 0 => some ⟨false, ulAddress, [], false⟩
  | iSector + 1 =>
    match eraseSectors fuel d o ulAddress iSector with
    | some s => if s.left then some s else eraseRound fuel d (o iSector) s
    | none => none

def numSect (ulSectSize ulByteCount : ℕ) : ℕ :=
  if ulByteCount % ulSectSize ≠ 0 then ulByteCount / ulSectSize + 1 else ulByteCount / ulSectSize

/-- The status, and the commands that were taken. -/
def iFlashErase (fuel : ℕ) (d : EraseDriver) (o : EraseOutcomes) (ulAddress ulByteCount : ℕ) :
    Option (Bool × List Erasure) :=
  if ulByteCount = d.info.ululNumSect * d.info.ulSectSize then
    let iOspiStatus := if d.stacked then (o.bulk false).selected else false
    if iOspiStatus then
      match eraseFlash fuel d o false [] with
      | some erased =>
        if d.stacked then
          if (o.bulk true).selected then
            (eraseFlash fuel d o true erased).map fun erased => (true, erased)
          else some (false, erased)
        else some (iOspiStatus, erased)
      | none => none
    else some (false, [])
  else
    (eraseSectors fuel d o.sector ulAddress (numSect d.info.ulSectSize ulByteCount)).map fun s =>
      (s.status, s.erased)

def iOSPI_FlashErase (fuel : ℕ) (d : EraseDriver) (o : EraseOutcomes) (ulAddr ulLength : ℕ) :
    Option (Bool × List Erasure) :=
  if d.iInitialised && o.taken then
    (iFlashErase fuel d o ulAddr ulLength).map fun r => (r.1 && o.released, r.2)
  else some (false, [])

/-! ### What an erase should do -/

/-- The flash reports ready at some time. -/
def EraseOutcome.ReportsReady (t : EraseOutcome) : Prop :=
  ∃ k b, t.status k = some b ∧ b &&& XFLASH_STATUS_BYTE ≠ 0

/-- Nothing fails, and the flash reports ready. -/
def EraseOutcome.Succeeds (t : EraseOutcome) : Prop :=
  t.selected = true ∧ t.enabled = true ∧ t.commanded = true ∧ (∀ k, t.status k ≠ none) ∧
    t.ReportsReady

def EraseOutcomes.All (o : EraseOutcomes) (P : EraseOutcome → Prop) : Prop :=
  (∀ k, P (o.sector k)) ∧ ∀ cs, P (o.bulk cs) ∧ ∀ k, P (o.die cs k)

def EraseOutcomes.Succeeds (o : EraseOutcomes) : Prop :=
  o.taken = true ∧ o.released = true ∧ o.All EraseOutcome.Succeeds

/-- The erase ends if the flash reports ready. When it ends it has not erased a sector outside the
range, it has erased those of the range if it reports success, and it does report success if it is
for the whole device and nothing fails. -/
def EraseRight (d : EraseDriver) (o : EraseOutcomes) (ulAddr ulLength : ℕ) : Prop :=
  (o.All EraseOutcome.ReportsReady →
    ∃ fuel r, iOSPI_FlashErase fuel d o ulAddr ulLength = some r) ∧
  ∀ fuel r, iOSPI_FlashErase fuel d o ulAddr ulLength = some r →
    (r.1 = true → ∀ a, ulAddr ≤ a → a < ulAddr + ulLength →
      ∃ e ∈ r.2, e.Covers d.info.ulSectSize a) ∧
    (∀ e ∈ r.2, ∀ a, e.Covers d.info.ulSectSize a →
      ∃ b, ulAddr ≤ b ∧ b < ulAddr + ulLength ∧
        b / d.info.ulSectSize = a / d.info.ulSectSize) ∧
    (d.iInitialised = true → ulLength = d.info.ulFlashDeviceSize → o.Succeeds → r.1 = true)

/-- The erase command of a round is taken. -/
def EraseOutcome.Taken (t : EraseOutcome) : Prop := t.enabled = true ∧ t.commanded = true

/-- The polls of a round end, and the flash is then ready. -/
def EraseOutcome.EndsReady (t : EraseOutcome) : Prop := Answers (statusOf t) true

def EraseHolds (d : EraseDriver) (o : EraseOutcomes) (ulLength : ℕ) : Prop :=
  let n := numSect d.info.ulSectSize ulLength
  d.iInitialised = true → o.taken = true →
    if ulLength = d.info.ululNumSect * d.info.ulSectSize then
      ¬ (ulLength = d.info.ulFlashDeviceSize ∧ o.Succeeds)
    else
      (∀ k < n, (o.sector k).selected = true ∧
        ((o.sector k).Taken → Settles (statusOf (o.sector k)))) →
      0 < n → (o.sector (n - 1)).Taken → (o.sector (n - 1)).EndsReady → o.released = true →
        ∀ k < n, (o.sector k).Taken

/-! ### One command -/

section

variable {d : EraseDriver} {o : EraseOutcomes} {t : EraseOutcome} {s s' : SectorLoop}
variable {ulAddress n fuel : ℕ}

theorem EraseOutcome.ReportsReady.settles (h : t.ReportsReady) : Settles (statusOf t) := by
  obtain ⟨k, b, hk, hb⟩ := h
  refine ⟨k, ?_⟩
  rw [statusOf, hk]
  dsimp only
  rw [if_pos hb]
  rfl

theorem EraseOutcome.Succeeds.endsReady (h : t.Succeeds) : t.EndsReady := by
  obtain ⟨-, -, -, hpolls, hready⟩ := h
  obtain ⟨st, k, hk, hbefore⟩ := hready.settles.answers
  cases st with
  | true => exact ⟨k, hk, hbefore⟩
  | false =>
    exfalso
    rw [statusOf] at hk
    cases hstatus : t.status k with
    | none => exact hpolls k hstatus
    | some b =>
      rw [hstatus] at hk
      dsimp only at hk
      split_ifs at hk
      exact Bool.noConfusion (Option.some.inj hk)

theorem eraseCommand_not_taken (h : ¬ t.Taken) : eraseCommand fuel t = some (false, false) := by
  refine if_neg fun hboth => h ?_
  exact (Bool.and_eq_true _ _).mp hboth

theorem eraseCommand_taken (h : t.Taken) :
    eraseCommand fuel t = (poll (statusOf t) fuel 0).map fun st => (true, st) :=
  if_pos ((Bool.and_eq_true _ _).mpr h)

/-- **What one round can do**, in the connection mode that is supported. -/
theorem eraseRound_cases (hsingle : d.stacked = false)
    (h : eraseRound fuel d t s = some s') :
    (t.selected = false ∧ s' = { s with status := false, left := true }) ∨
    (t.selected = true ∧ ¬ t.Taken ∧ s' = { s with status := false }) ∨
    (t.selected = true ∧ t.Taken ∧ ∃ st, Answers (statusOf t) st ∧
      s' = ⟨st, (s.ulAddress + d.info.ulSectSize) % 2 ^ 32,
        s.erased ++ [.sector false s.ulAddress], false⟩) := by
  have hreal : iGetRealAddr d s.ulAddress = (false, s.ulAddress) := by
    refine if_neg ?_
    rintro ⟨hstacked, -⟩
    rw [hsingle] at hstacked
    cases hstacked
  rw [eraseRound, hreal] at h
  cases hsel : t.selected with
  | false =>
    rw [hsel] at h
    exact .inl ⟨rfl, (Option.some.inj h).symm⟩
  | true =>
    rw [hsel, if_pos rfl] at h
    by_cases htaken : t.Taken
    · rw [eraseCommand_taken htaken] at h
      cases hpoll : poll (statusOf t) fuel 0 with
      | none =>
        rw [hpoll] at h
        cases h
      | some st =>
        rw [hpoll] at h
        exact .inr (.inr ⟨rfl, htaken, st, answers_of_poll hpoll, (Option.some.inj h).symm⟩)
    · rw [eraseCommand_not_taken htaken] at h
      exact .inr (.inl ⟨rfl, htaken, (Option.some.inj h).symm⟩)

theorem eraseRound_ends (hsettles : t.Taken → Settles (statusOf t)) :
    ∃ fuel, ∀ m, fuel ≤ m → ∀ s, ∃ s', eraseRound m d t s = some s' := by
  by_cases htaken : t.Taken
  · obtain ⟨st, hst⟩ := (hsettles htaken).answers
    obtain ⟨fuel, hfuel⟩ := hst.poll
    refine ⟨fuel, fun m hm s => ?_⟩
    unfold eraseRound
    dsimp only
    rw [eraseCommand_taken htaken, hfuel m hm]
    split_ifs
    · exact ⟨_, rfl⟩
    · exact ⟨_, rfl⟩
  · refine ⟨0, fun m _ s => ?_⟩
    unfold eraseRound
    dsimp only
    rw [eraseCommand_not_taken htaken]
    split_ifs
    · exact ⟨_, rfl⟩
    · exact ⟨_, rfl⟩

/-! ### The loop over the sectors -/

/-- The sectors from `ulAddress` on. -/
def sectorsFrom (ulSectSize ulAddress n : ℕ) : List Erasure :=
  (List.range n).map fun i => .sector false (ulAddress + i * ulSectSize)

theorem sectorsFrom_succ (ulSectSize ulAddress n : ℕ) :
    sectorsFrom ulSectSize ulAddress (n + 1)
      = sectorsFrom ulSectSize ulAddress n ++ [.sector false (ulAddress + n * ulSectSize)] := by
  simp [sectorsFrom, List.range_succ]

/-- What is known after `n` rounds of the loop. -/
structure Rounds (d : EraseDriver) (o : ℕ → EraseOutcome) (ulAddress n : ℕ) (s : SectorLoop) :
    Prop where
  /-- The loop is left if a flash cannot be selected, and has then failed. -/
  failed : s.left = true → s.status = false
  selected : s.left = false ↔ ∀ k < n, (o k).selected = true
  settled : s.left = false → ∀ k < n, (o k).Taken → Settles (statusOf (o k))
  /-- The sectors are erased one after the other, one for each command that is taken. -/
  erased : ∃ t ≤ n, s.erased = sectorsFrom d.info.ulSectSize ulAddress t ∧
    s.ulAddress = ulAddress + t * d.info.ulSectSize ∧
    (s.left = false → (t = n ↔ ∀ k < n, (o k).Taken))

theorem forall_lt_succ {P : ℕ → Prop} : (∀ k < n + 1, P k) ↔ (∀ k < n, P k) ∧ P n := by
  refine ⟨fun h => ⟨fun k hk => h k (by omega), h n (by omega)⟩, fun h k hk => ?_⟩
  rcases Nat.lt_succ_iff_lt_or_eq.mp hk with hlt | rfl
  · exact h.1 k hlt
  · exact h.2

/-- **One round more.** -/
theorem Rounds.step {o : ℕ → EraseOutcome} (hsingle : d.stacked = false)
    (hroom : ulAddress + (n + 1) * d.info.ulSectSize < 2 ^ 32) (hs : Rounds d o ulAddress n s)
    (hleft : s.left = false) (h : eraseRound fuel d (o n) s = some s') :
    Rounds d o ulAddress (n + 1) s' ∧
      (s'.status = true ↔
        (∀ k < n + 1, (o k).selected = true) ∧ (o n).Taken ∧ (o n).EndsReady) := by
  have hsel := hs.selected.mp hleft
  obtain ⟨t, hle, herased, haddr, hcount⟩ := hs.erased
  have hcount := hcount hleft
  rcases eraseRound_cases hsingle h with
    ⟨hno, rfl⟩ | ⟨hyes, hnot, rfl⟩ | ⟨hyes, htaken, st, hst, rfl⟩
  · -- the flash is not selected
    have hnone : ¬ ∀ k < n + 1, (o k).selected = true := fun hall => by
      rw [hall n (Nat.lt_succ_self n)] at hno
      cases hno
    refine ⟨⟨fun _ => rfl, iff_of_false nofun hnone, nofun, t, by omega, herased, haddr, nofun⟩, ?_⟩
    exact iff_of_false nofun fun hall => hnone hall.1
  · -- the command is not taken
    refine ⟨⟨fun hl => absurd (hleft.symm.trans hl) nofun, ?_, fun _ => ?_, t, by omega, herased,
      haddr, fun _ => ?_⟩, ?_⟩
    · exact iff_of_true hleft (forall_lt_succ.mpr ⟨hsel, hyes⟩)
    · exact forall_lt_succ.mpr ⟨hs.settled hleft, fun htaken => absurd htaken hnot⟩
    · exact iff_of_false (by omega) fun hall => hnot (hall n (Nat.lt_succ_self n))
    · exact iff_of_false nofun fun hall => hnot hall.2.1
  · -- the command is taken, and the polls end
    have hnext : (s.ulAddress + d.info.ulSectSize) % 2 ^ 32
        = ulAddress + (t + 1) * d.info.ulSectSize := by
      have hmono : (t + 1) * d.info.ulSectSize ≤ (n + 1) * d.info.ulSectSize :=
        Nat.mul_le_mul_right _ (Nat.succ_le_succ hle)
      rw [haddr, Nat.add_assoc, ← Nat.succ_mul]
      exact Nat.mod_eq_of_lt (lt_of_le_of_lt (Nat.add_le_add_left hmono _) hroom)
    refine ⟨⟨nofun, ?_, fun _ => ?_, t + 1, by omega, ?_, hnext, fun _ => ?_⟩, ?_⟩
    · exact iff_of_true rfl (forall_lt_succ.mpr ⟨hsel, hyes⟩)
    · exact forall_lt_succ.mpr ⟨hs.settled hleft, fun _ => hst.settles⟩
    · rw [sectorsFrom_succ, herased, haddr]
    · rw [forall_lt_succ, ← hcount]
      exact ⟨fun heq => ⟨by omega, htaken⟩, fun heq => by omega⟩
    · have hready : (o n).EndsReady ↔ st = true := by
        refine ⟨fun h => hst.unique h, fun h => ?_⟩
        rw [h] at hst
        exact hst
      exact ⟨fun h => ⟨forall_lt_succ.mpr ⟨hsel, hyes⟩, htaken, hready.mpr h⟩,
        fun h => hready.mp h.2.2⟩

/-- **The first rounds of the loop.** -/
theorem eraseSectors_rounds {o : ℕ → EraseOutcome} (hsingle : d.stacked = false) :
    ∀ n s, ulAddress + n * d.info.ulSectSize < 2 ^ 32 →
      eraseSectors fuel d o ulAddress n = some s →
      Rounds d o ulAddress n s ∧
        (0 < n → (s.status = true ↔
          (∀ k < n, (o k).selected = true) ∧ (o (n - 1)).Taken ∧ (o (n - 1)).EndsReady)) := by
  intro n
  induction n with
  | zero =>
    intro s _ h
    obtain rfl := Option.some.inj h
    refine ⟨⟨nofun, iff_of_true rfl nofun, fun _ => nofun, 0, le_rfl, rfl, ?_, ?_⟩, nofun⟩
    · rw [Nat.zero_mul, Nat.add_zero]
    · exact fun _ => iff_of_true rfl nofun
  | succ n ih =>
    intro s hroom h
    rw [eraseSectors] at h
    have hroom' : ulAddress + n * d.info.ulSectSize < 2 ^ 32 := by
      rw [Nat.succ_mul] at hroom
      omega
    cases hbefore : eraseSectors fuel d o ulAddress n with
    | none =>
      rw [hbefore] at h
      cases h
    | some s₀ =>
      rw [hbefore] at h
      obtain ⟨hs₀, -⟩ := ih s₀ hroom' hbefore
      dsimp only at h
      cases hleft : s₀.left with
      | false =>
        rw [hleft, if_neg Bool.false_ne_true] at h
        obtain ⟨hs, hstatus⟩ := hs₀.step hsingle hroom hleft h
        exact ⟨hs, fun _ => hstatus⟩
      | true =>
        rw [hleft, if_pos rfl] at h
        obtain rfl := Option.some.inj h
        have hnone : ¬ ∀ k < n + 1, (o k).selected = true := fun hall => by
          rw [hs₀.selected.mpr fun k hk => hall k (by omega)] at hleft
          cases hleft
        have hfalse : ¬ s₀.left = false := fun hl => by
          rw [hl] at hleft
          cases hleft
        obtain ⟨t, hle, herased, haddr, -⟩ := hs₀.erased
        refine ⟨⟨hs₀.failed, iff_of_false hfalse hnone, fun hl => absurd hl hfalse, t, by omega,
          herased, haddr, fun hl => absurd hl hfalse⟩, fun _ => ?_⟩
        refine iff_of_false (fun hst => ?_) fun hall => hnone hall.1
        rw [hs₀.failed hleft] at hst
        cases hst

/-- **The loop ends** if the polls of its rounds do. -/
theorem eraseSectors_ends {o : ℕ → EraseOutcome} (ulAddress n : ℕ)
    (hsettles : ∀ k < n, (o k).Taken → Settles (statusOf (o k))) :
    ∃ fuel, ∀ m, fuel ≤ m → ∃ s, eraseSectors m d o ulAddress n = some s := by
  induction n with
  | zero => exact ⟨0, fun m _ => ⟨_, rfl⟩⟩
  | succ n ih =>
    obtain ⟨hbefore, hround⟩ := forall_lt_succ.mp hsettles
    obtain ⟨f₁, hf₁⟩ := ih hbefore
    obtain ⟨f₂, hf₂⟩ := eraseRound_ends (d := d) hround
    refine ⟨max f₁ f₂, fun m hm => ?_⟩
    obtain ⟨s, hs⟩ := hf₁ m (le_trans (le_max_left _ _) hm)
    rw [eraseSectors, hs]
    dsimp only
    split_ifs
    · exact ⟨s, rfl⟩
    · exact hf₂ m (le_trans (le_max_right _ _) hm) s

/-! ### The erase -/

theorem EraseDriver.sizes (d : EraseDriver) :
    0 < d.info.ulSectSize ∧ 0 < d.info.ulFlashDeviceSize ∧
      d.info.ulFlashDeviceSize + d.info.ulSectSize ≤ 2 ^ 32 := by
  have htable : ∀ info ∈ pxFlashConfigTable, 0 < info.ulSectSize ∧ 0 < info.ulFlashDeviceSize ∧
      info.ulFlashDeviceSize + info.ulSectSize ≤ 2 ^ 32 := by decide +kernel
  exact htable d.info d.known

theorem lt_numSect_iff {size len i : ℕ} (hsize : 0 < size) :
    i < numSect size len ↔ i * size < len := by
  unfold numSect
  split_ifs with hpart
  · rw [Nat.lt_succ_iff, Nat.le_div_iff_mul_le hsize]
    refine ⟨fun h => lt_of_le_of_ne h ?_, le_of_lt⟩
    rintro rfl
    exact hpart (Nat.mul_mod_left i size)
  · have hlen : len / size * size = len :=
      Nat.div_mul_cancel (Nat.dvd_of_mod_eq_zero (not_not.mp hpart))
    rw [← Nat.mul_lt_mul_right hsize, hlen]

theorem covers_sectorsFrom_iff {size A t a : ℕ} (hsize : 0 < size) (hA : size ∣ A) (ha : A ≤ a) :
    (∃ e ∈ sectorsFrom size A t, e.Covers size a) ↔ (a - A) / size < t := by
  obtain ⟨c, rfl⟩ := hA
  have hdiv : a / size = c + (a - size * c) / size := by
    conv_lhs => rw [← Nat.add_sub_cancel' ha]
    exact Nat.mul_add_div hsize c _
  have hstart : ∀ i, (size * c + i * size) / size = c + i := fun i => by
    rw [Nat.mul_add_div hsize, Nat.mul_div_cancel _ hsize]
  constructor
  · rintro ⟨e, he, hcovers⟩
    obtain ⟨i, hi, rfl⟩ := List.mem_map.mp he
    have heq : (size * c + i * size) / size = a / size := hcovers
    rw [hstart, hdiv] at heq
    exact (Nat.add_left_cancel heq) ▸ List.mem_range.mp hi
  · intro hlt
    refine ⟨_, List.mem_map.mpr ⟨_, List.mem_range.mpr hlt, rfl⟩, ?_⟩
    change (size * c + (a - size * c) / size * size) / size = a / size
    rw [hstart, hdiv]

theorem right_of_refused {A len : ℕ}
    (h : ∀ fuel, iOSPI_FlashErase fuel d o A len = some (false, [])) :
    EraseRight d o A len ↔
      ¬ (d.iInitialised = true ∧ len = d.info.ulFlashDeviceSize ∧ o.Succeeds) := by
  constructor
  · rintro ⟨-, hright⟩ ⟨hinit, hwhole, hsucceeds⟩
    exact Bool.noConfusion ((hright 0 _ (h 0)).2.2 hinit hwhole hsucceeds)
  · intro hnot
    refine ⟨fun _ => ⟨0, _, h 0⟩, fun fuel r hr => ?_⟩
    obtain rfl := Option.some.inj ((h fuel).symm.trans hr)
    exact ⟨nofun, nofun, fun h₁ h₂ h₃ => absurd ⟨h₁, h₂, h₃⟩ hnot⟩

/-- **Sector by sector.** -/
theorem right_of_sectors {A len : ℕ} (hA : d.info.ulSectSize ∣ A)
    (hlen : A + len ≤ d.info.ulFlashDeviceSize) (hinit : d.iInitialised = true)
    (htaken : o.taken = true) (hpart : len ≠ d.info.ululNumSect * d.info.ulSectSize) :
    EraseRight d o A len ↔
      ((∀ k < numSect d.info.ulSectSize len, (o.sector k).selected = true ∧
        ((o.sector k).Taken → Settles (statusOf (o.sector k)))) →
      0 < numSect d.info.ulSectSize len → (o.sector (numSect d.info.ulSectSize len - 1)).Taken →
      (o.sector (numSect d.info.ulSectSize len - 1)).EndsReady → o.released = true →
        ∀ k < numSect d.info.ulSectSize len, (o.sector k).Taken) := by
  obtain ⟨hsize, hdevice, hwrap⟩ := d.sizes
  have hsingle := d.supported hinit
  have hin : ∀ i, i < numSect d.info.ulSectSize len ↔ i * d.info.ulSectSize < len :=
    fun i => lt_numSect_iff hsize
  have hrun : ∀ fuel, iOSPI_FlashErase fuel d o A len
      = (eraseSectors fuel d o.sector A (numSect d.info.ulSectSize len)).map fun s =>
          (s.status && o.released, s.erased) := by
    intro fuel
    rw [iOSPI_FlashErase, hinit, htaken, iFlashErase, if_neg hpart, Option.map_map]
    rfl
  generalize numSect d.info.ulSectSize len = n at hin hrun ⊢
  have hbound : A + n * d.info.ulSectSize < 2 ^ 32 := by
    cases n with
    | zero => omega
    | succ n =>
      have hlast := (hin n).mp (Nat.lt_succ_self n)
      rw [Nat.succ_mul]
      omega
  -- what a run that ends has done
  have hrounds : ∀ fuel r, iOSPI_FlashErase fuel d o A len = some r →
      ∃ s, r = (s.status && o.released, s.erased) ∧ Rounds d o.sector A n s ∧
        (0 < n → (s.status = true ↔ (∀ k < n, (o.sector k).selected = true) ∧
          (o.sector (n - 1)).Taken ∧ (o.sector (n - 1)).EndsReady)) := by
    intro fuel r hr
    rw [hrun] at hr
    obtain ⟨s, hs, rfl⟩ := Option.map_eq_some_iff.mp hr
    exact ⟨s, rfl, eraseSectors_rounds hsingle n s hbound hs⟩
  have hends : (∀ k < n, (o.sector k).Taken → Settles (statusOf (o.sector k))) →
      ∃ fuel r, iOSPI_FlashErase fuel d o A len = some r := by
    intro hsettles
    obtain ⟨fuel, hfuel⟩ := eraseSectors_ends (d := d) A n hsettles
    obtain ⟨s, hs⟩ := hfuel fuel le_rfl
    exact ⟨fuel, _, by rw [hrun, hs]; rfl⟩
  constructor
  · rintro ⟨-, hright⟩ hpolls hpos hlast hready hreleased
    obtain ⟨fuel, r, hr⟩ := hends fun k hk => (hpolls k hk).2
    obtain ⟨s, rfl, hs, hstatus⟩ := hrounds fuel r hr
    have hsel : ∀ k < n, (o.sector k).selected = true := fun k hk => (hpolls k hk).1
    obtain ⟨t, hle, herased, -, hcount⟩ := hs.erased
    refine (hcount (hs.selected.mpr hsel)).mp (le_antisymm hle (not_lt.mp fun hlt => ?_))
    -- the sector behind those that were erased is one of the range
    have hok : (s.status && o.released) = true := by
      rw [(hstatus hpos).mpr ⟨hsel, hlast, hready⟩, hreleased]
      rfl
    have hcovers := (hright fuel _ hr).1 hok (A + t * d.info.ulSectSize) (Nat.le_add_right _ _)
      (Nat.add_lt_add_left ((hin t).mp hlt) A)
    rw [herased, covers_sectorsFrom_iff hsize hA (Nat.le_add_right _ _), Nat.add_sub_cancel_left,
      Nat.mul_div_cancel _ hsize] at hcovers
    exact lt_irrefl t hcovers
  · intro hall
    refine ⟨fun hready => hends fun k _ _ => (hready.1 k).settles, fun fuel r hr => ?_⟩
    obtain ⟨s, rfl, hs, hstatus⟩ := hrounds fuel r hr
    obtain ⟨t, hle, herased, -, hcount⟩ := hs.erased
    refine ⟨fun hok a ha hlt => ?_, fun e he a hcovers => ?_, fun _ hwhole hsucceeds => ?_⟩
    · obtain ⟨hst, hreleased⟩ := (Bool.and_eq_true _ _).mp hok
      have hdiv : (a - A) / d.info.ulSectSize * d.info.ulSectSize < len :=
        lt_of_le_of_lt (Nat.div_mul_le_self _ _) (by omega)
      have hk := (hin _).mpr hdiv
      have hpos : 0 < n := Nat.zero_lt_of_lt hk
      obtain ⟨hsel, hlast, hready⟩ := (hstatus hpos).mp hst
      have hleft := hs.selected.mpr hsel
      have htakes := hall (fun k hk => ⟨hsel k hk, hs.settled hleft k hk⟩) hpos hlast hready
        hreleased
      rw [herased, covers_sectorsFrom_iff hsize hA ha, (hcount hleft).mpr htakes]
      exact hk
    · rw [herased] at he
      obtain ⟨i, hi, rfl⟩ := List.mem_map.mp he
      have hi' : i < n := lt_of_lt_of_le (List.mem_range.mp hi) hle
      exact ⟨A + i * d.info.ulSectSize, Nat.le_add_right _ _,
        Nat.add_lt_add_left ((hin i).mp hi') A, hcovers⟩
    · obtain ⟨-, hreleased, hsectors, -⟩ := hsucceeds
      have hpos : 0 < n := (hin 0).mpr (by omega)
      have hst : s.status = true := (hstatus hpos).mpr ⟨fun k _ => (hsectors k).1,
        ⟨(hsectors _).2.1, (hsectors _).2.2.1⟩, (hsectors _).endsReady⟩
      exact (Bool.and_eq_true _ _).mpr ⟨hst, hreleased⟩

/-- **Exactly when an erase of whole sectors is right.** -/
theorem flashErase_right_iff (d : EraseDriver) (o : EraseOutcomes) (ulAddr ulLength : ℕ)
    (haligned : d.info.ulSectSize ∣ ulAddr)
    (hroom : ulAddr + ulLength ≤ d.info.ulFlashDeviceSize) :
    EraseRight d o ulAddr ulLength ↔ EraseHolds d o ulLength := by
  unfold EraseHolds
  dsimp only
  by_cases hrun : d.iInitialised = true ∧ o.taken = true
  · obtain ⟨hinit, htaken⟩ := hrun
    simp only [hinit, htaken, true_implies]
    by_cases hwhole : ulLength = d.info.ululNumSect * d.info.ulSectSize
    · have hrefused : ∀ fuel, iOSPI_FlashErase fuel d o ulAddr ulLength = some (false, []) := by
        intro fuel
        rw [iOSPI_FlashErase, hinit, htaken, iFlashErase, if_pos hwhole, d.supported hinit]
        rfl
      rw [if_pos hwhole, right_of_refused hrefused]
      exact not_congr (and_iff_right hinit)
    · rw [if_neg hwhole, right_of_sectors haligned hroom hinit htaken hwhole]
  · have hrefused : ∀ fuel, iOSPI_FlashErase fuel d o ulAddr ulLength = some (false, []) :=
      fun fuel => if_neg fun h => hrun ((Bool.and_eq_true _ _).mp h)
    rw [right_of_refused hrefused]
    refine iff_of_true ?_ fun h₁ h₂ => absurd ⟨h₁, h₂⟩ hrun
    rintro ⟨hinit, -, hsucceeds⟩
    exact hrun ⟨hinit, hsucceeds.1⟩

/-- A flash with which nothing fails, and which is always ready. -/
def readyOutcome : EraseOutcome := ⟨true, true, true, fun _ => some XFLASH_STATUS_BYTE⟩

theorem readyOutcome_succeeds : readyOutcome.Succeeds :=
  ⟨rfl, rfl, rfl, fun _ => nofun, 0, XFLASH_STATUS_BYTE, rfl, by decide⟩

/-- The smallest part of the table, with its sectors of 64 kilobytes. -/
def gigadevice : EraseDriver where
  info := ⟨0xc86819, FLASH_SECTOR_SIZE_64KB, 0x200, FLASH_DEVICE_SIZE_256M, 1⟩
  known := by decide
  stacked := false
  iInitialised := true
  supported := fun _ => rfl

def readyOutcomes : EraseOutcomes :=
  ⟨true, fun _ => readyOutcome, fun _ => readyOutcome, fun _ _ => readyOutcome, true⟩

theorem readyOutcomes_succeeds : readyOutcomes.Succeeds :=
  ⟨rfl, rfl, fun _ => readyOutcome_succeeds, fun _ =>
    ⟨readyOutcome_succeeds, fun _ => readyOutcome_succeeds⟩⟩

/-- Two of its sectors. -/
theorem flashErase_right_two_sectors :
    EraseRight gigadevice readyOutcomes 0x10000 0x20000 ↔
      EraseHolds gigadevice readyOutcomes 0x20000 :=
  flashErase_right_iff gigadevice readyOutcomes 0x10000 0x20000 (by decide) (by decide)

/-- The whole device cannot be erased. -/
theorem not_flashErase_right :
    ¬ ∀ d o ulAddr ulLength, d.info.ulSectSize ∣ ulAddr →
      ulAddr + ulLength ≤ d.info.ulFlashDeviceSize → EraseRight d o ulAddr ulLength := by
  intro h
  obtain ⟨-, hright⟩ := h gigadevice readyOutcomes 0 0x2000000 (dvd_zero _) (by decide)
  have hrefused : iOSPI_FlashErase 0 gigadevice readyOutcomes 0 0x2000000 = some (false, []) := rfl
  exact Bool.noConfusion ((hright 0 _ hrefused).2.2 rfl rfl readyOutcomes_succeeds)

end

end Amr.Ospi
