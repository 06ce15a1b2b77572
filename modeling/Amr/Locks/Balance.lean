/-
# When the drivers keep their mutexes in balance

A call is balanced if it releases the mutexes that it took, once each and after the take, and no
other. Most functions are. The ones that are not release in the branch of the work that succeeded,
so that a failed read of the hardware leaves the mutex taken, or release after the branch of the
take, so that a mutex is released whose take failed.
-/
import Amr.Locks.Calls

namespace Amr.Locks

open Ledger Asc Apc

/-! ### The three shapes of a section -/

namespace Ran

variable (m : Mutex) (o : Attempts) (work : Bool)

theorem balanced_untouched (ok : Bool) : Balanced (untouched ok).ops := balanced_nil

theorem balanced_releaseIfTaken : Balanced (releaseIfTaken m o work).ops := by
  unfold releaseIfTaken
  split_ifs
  · exact balanced_nil.bracket m
  · exact balanced_nil

theorem balanced_releaseAlways : Balanced (releaseAlways m o work).ops ↔ o.take = true := by
  unfold releaseAlways
  split_ifs with h
  · exact iff_of_true (balanced_nil.bracket m) h
  · refine iff_of_false (fun hb => ?_) h
    have := (hb m).1
    simp [acquired, released] at this

theorem balanced_releaseIfDone :
    Balanced (releaseIfDone m o work).ops ↔ (o.take = true → work = true) := by
  unfold releaseIfDone
  split_ifs with ht hw
  · exact iff_of_true (balanced_nil.bracket m) fun _ => hw
  · refine iff_of_false (not_balanced_of_held (r := m) (by simp)) fun h => hw (h ht)
  · exact iff_of_true balanced_nil fun h => absurd h ht

theorem balanced_andThen {x y : Ran} (hx : Balanced x.ops) (hy : Balanced y.ops) :
    Balanced (x.andThen y).ops := by
  unfold andThen
  split_ifs
  · exact hx.append hy
  · exact hx

end Ran

/-! ### The calls -/

/-- The arguments of a call of `iAPC_GetFptHeader` are accepted. -/
def headerAccepted (s : Data) (xBootDevice : ℕ) (pxFptHeader : Bool) : Bool :=
  (APC_BOOT_DEVICES.ofNat? xBootDevice).any fun b =>
    s.iInitialised && (s.device b).ppxFwIf && pxFptHeader

/-- The arguments of a call of `iAPC_GetFptPartition` are accepted. -/
def partitionAccepted (s : Data) (xBootDevice : ℕ) (iPartition : ℤ) (pxFptPartition : Bool) :
    Bool :=
  (APC_BOOT_DEVICES.ofNat? xBootDevice).any fun b =>
    s.iInitialised && (s.device b).piValidFpt && pxFptPartition &&
      decide ((s.device b).Below iPartition)

/-- The call takes none of the branches that upset the balance: no step fails under the mutex of
`iSYS_MON_ReadTemperature`, `iSYS_MON_ReadVoltage`, `iAPC_GetFptHeader` and `iAPC_GetFptPartition`,
and the mutex is taken in `iASC_ResetAllSensorData`, the three functions that return a state and
every visit of the AXC task. -/
def Call.Regular : Call → Prop
  | .iSYS_MON_ReadTemperature iIsInitialised pfTemperatureInC o read =>
    (iIsInitialised && pfTemperatureInC) = true → o.take = true → read = true
  | .iSYS_MON_ReadVoltage rave iIsInitialised xVoltageType pfVoltageInMV o read =>
    (iIsInitialised && decide (xVoltageType < MAX_SYS_MON_VOLTAGE rave) && pfVoltageInMV) = true →
      o.take = true → read = true
  | .iASC_ResetAllSensorData d o => d.iInitialised = true → o.take = true
  | .iASC_GetState pxState o | .iAPC_GetState pxState o | .iAXC_GetState pxState o =>
    pxState = true → o.take = true
  | .iAPC_GetFptHeader s xBootDevice pxFptHeader o copied =>
    headerAccepted s xBootDevice pxFptHeader = true → o.take = true → copied = true
  | .iAPC_GetFptPartition s xBootDevice iPartition pxFptPartition o copied =>
    partitionAccepted s xBootDevice iPartition pxFptPartition = true →
      o.take = true → copied = true
  | .vProxyDriverTask visits => ∀ x ∈ visits, x.taken = true
  | _ => True

theorem balanced_checked {c : Bool} {x : Ran} {P : Prop} (h : Balanced x.ops ↔ P) (ok : Bool) :
    Balanced (if c then x else Ran.untouched ok).ops ↔ (c = true → P) := by
  split_ifs with hc
  · exact h.trans ⟨fun hP _ => hP, fun hP => hP hc⟩
  · exact iff_of_true (Ran.balanced_untouched ok) fun h => absurd h hc

theorem AscDriver.balanced_onSensor (d : AscDriver) (pointers : Bool)
    (found : Option (Fin d.ucNumSensors)) (o : Attempts) :
    Balanced (d.onSensor pointers found o).ops := by
  unfold onSensor
  split_ifs
  · exact Ran.balanced_releaseIfTaken _ _ _
  · exact balanced_nil

theorem AxcDriver.balanced_request (d : AxcDriver) (pointers : Bool) (r : Axc.Request)
    (x y : Axc.Section) : Balanced (d.request pointers r x y).ops := by
  unfold request
  cases d.iGetExDevFromList r.ucExDeviceId with
  | none =>
    split_ifs
    all_goals exact balanced_nil
  | some xDevice =>
    split_ifs
    · exact Ran.balanced_releaseIfTaken _ _ _
    · exact Ran.balanced_andThen (Ran.balanced_releaseIfTaken _ _ _)
        (Ran.balanced_releaseIfTaken _ _ _)
    · exact balanced_nil
    · exact balanced_nil

theorem AxcDriver.balanced_ioStatus (d : AxcDriver) (pointers : Bool) (ucExDeviceId : UInt8)
    (x : Axc.Presence.Section) : Balanced (d.ioStatus pointers ucExDeviceId x).ops := by
  unfold ioStatus
  split_ifs
  · exact Ran.balanced_releaseIfTaken _ _ _
  · exact balanced_nil

theorem visit_counts (x : Axc.Presence.Section) (work : Bool) :
    let ops := (Ran.releaseAlways .AXC ⟨x.taken, x.released⟩ work).ops
    released .AXC ops = 1 ∧ acquired .AXC ops = if x.taken then 1 else 0 := by
  unfold Ran.releaseAlways
  cases x.taken
  · exact ⟨rfl, rfl⟩
  · exact ⟨rfl, rfl⟩

variable (visits : List Axc.Presence.Section)

theorem task_counts :
    acquired .AXC (vProxyDriverTask visits).ops ≤ released .AXC (vProxyDriverTask visits).ops ∧
      (acquired .AXC (vProxyDriverTask visits).ops =
        released .AXC (vProxyDriverTask visits).ops → ∀ x ∈ visits, x.taken = true) := by
  induction visits with
  | nil => exact ⟨le_rfl, fun _ x hx => absurd hx (List.not_mem_nil)⟩
  | cons x visits ih =>
    obtain ⟨hle, hall⟩ := ih
    obtain ⟨hr, ha⟩ := visit_counts x (x.ioctrl && x.read)
    have hops : (vProxyDriverTask (x :: visits)).ops =
        (Ran.releaseAlways .AXC ⟨x.taken, x.released⟩ (x.ioctrl && x.read)).ops ++
          (vProxyDriverTask visits).ops := rfl
    rw [hops, acquired_append, released_append, hr, ha]
    refine ⟨by split_ifs <;> omega, fun heq => ?_⟩
    split_ifs at heq with hx
    · exact List.forall_mem_cons.mpr ⟨hx, hall (by omega)⟩
    · omega

theorem balanced_task :
    Balanced (vProxyDriverTask visits).ops ↔ ∀ x ∈ visits, x.taken = true := by
  constructor
  · intro h
    exact (task_counts visits).2 (h .AXC).1.symm
  · intro h
    induction visits with
    | nil => exact balanced_nil
    | cons x visits ih =>
      obtain ⟨hx, hvisits⟩ := List.forall_mem_cons.mp h
      exact ((Ran.balanced_releaseAlways ..).mpr hx).append (ih hvisits)

/-- **One call.** A call is balanced if it takes none of the branches that upset the balance, and
only then. -/
theorem Call.balanced_iff (c : Call) : Balanced c.ran.ops ↔ c.Regular := by
  cases c with
  | iSYS_MON_ReadTemperature init pf o read =>
    exact balanced_checked (Ran.balanced_releaseIfDone ..) false
  | iSYS_MON_ReadVoltage rave init v pf o read =>
    exact balanced_checked (Ran.balanced_releaseIfDone ..) false
  | iASC_ResetAllSensorData d o => exact balanced_checked (Ran.balanced_releaseAlways ..) false
  | iASC_GetState pxState o => exact balanced_checked (Ran.balanced_releaseAlways ..) false
  | iAPC_GetState pxState o => exact balanced_checked (Ran.balanced_releaseAlways ..) false
  | iAXC_GetState pxState o => exact balanced_checked (Ran.balanced_releaseAlways ..) false
  | iAPC_GetFptHeader s b px o copied =>
    simp only [ran, Regular, headerAccepted, Locks.iAPC_GetFptHeader]
    cases APC_BOOT_DEVICES.ofNat? b with
    | none => exact iff_of_true balanced_nil (fun h => absurd h (by simp))
    | some b => exact balanced_checked (Ran.balanced_releaseIfDone ..) false
  | iAPC_GetFptPartition s b i px o copied =>
    simp only [ran, Regular, partitionAccepted, Locks.iAPC_GetFptPartition]
    cases APC_BOOT_DEVICES.ofNat? b with
    | none => exact iff_of_true balanced_nil (fun h => absurd h (by simp))
    | some b => exact balanced_checked (Ran.balanced_releaseIfDone ..) false
  | vProxyDriverTask visits => exact balanced_task visits
  | iASC_GetAllSensorData d px room o =>
    refine iff_of_true ?_ trivial
    unfold ran AscDriver.iASC_GetAllSensorData
    cases room with
    | none => exact balanced_nil
    | some room =>
      exact (balanced_checked (P := True)
        (iff_of_true (Ran.balanced_releaseIfTaken _ _ _) trivial) false).mpr fun _ => trivial
  | iASC_ResetSingleSensorDataById d ucId o => exact iff_of_true (d.balanced_onSensor _ _ _) trivial
  | iASC_ResetSingleSensorDataByName d name o =>
    exact iff_of_true (d.balanced_onSensor _ _ _) trivial
  | iASC_GetSingleSensorDataById d ucId px o => exact iff_of_true (d.balanced_onSensor _ _ _) trivial
  | iASC_GetSingleSensorDataByName d name px o =>
    exact iff_of_true (d.balanced_onSensor _ _ _) trivial
  | iASC_SetSingleSensorThresholdStatusById d ucId o =>
    exact iff_of_true (d.balanced_onSensor _ _ _) trivial
  | iASC_SetSingleSensorOperationalStateById d ucId o =>
    exact iff_of_true (d.balanced_onSensor _ _ _) trivial
  | iASC_GetSingleSensorOperationalStateById d ucId puc o =>
    exact iff_of_true (d.balanced_onSensor _ _ _) trivial
  | iAXC_SetByte d id page offset v x y => exact iff_of_true (d.balanced_request _ _ _ _) trivial
  | iAXC_GetByte d id page offset puc x y => exact iff_of_true (d.balanced_request _ _ _ _) trivial
  | iAXC_GetPage d id page px x y => exact iff_of_true (d.balanced_request _ _ _ _) trivial
  | iAXC_GetSingleIoStatus d id line puc x => exact iff_of_true (d.balanced_ioStatus _ _ _) trivial
  | iAXC_GetAllIoStatuses d id px x => exact iff_of_true (d.balanced_ioStatus _ _ _) trivial
  | untouching f ok => exact iff_of_true balanced_nil trivial

/-! ### Runs -/

/-- The ledger of the calls that one task makes, one after another. -/
def ledger (calls : List Call) : List (Op Mutex) := calls.flatMap fun c => c.ran.ops

/-- Every call of a run releases the mutexes that it took and no others, and none is left taken for
the next call. -/
def LocksKept (calls : List Call) : Prop :=
  (∀ c ∈ calls, Balanced c.ran.ops) ∧
    ∀ done, done <+: calls → ∀ m, released m (ledger done) = acquired m (ledger done)

theorem balanced_ledger {calls : List Call} (h : ∀ c ∈ calls, Balanced c.ran.ops) :
    Balanced (ledger calls) := by
  induction calls with
  | nil => exact balanced_nil
  | cons c calls ih =>
    obtain ⟨hc, hcalls⟩ := List.forall_mem_cons.mp h
    exact hc.append (ih hcalls)

/-- **The mutexes of a run.** The calls of a run keep the mutexes in balance if none of them takes a
branch that upsets it, and only then. -/
theorem run_locksKept_iff (calls : List Call) :
    LocksKept calls ↔ ∀ c ∈ calls, c.Regular := by
  constructor
  · intro h c hc
    exact c.balanced_iff.mp (h.1 c hc)
  · intro h
    have hcalls : ∀ c ∈ calls, Balanced c.ran.ops := fun c hc => c.balanced_iff.mpr (h c hc)
    refine ⟨hcalls, fun done hdone m => ?_⟩
    exact (balanced_ledger (fun c hc => hcalls c (hdone.subset hc)) m).1

/-- A temperature that cannot be read leaves the mutex taken for the next call. -/
theorem failed_read_leaves_mutex :
    ¬ ∀ calls, LocksKept calls := by
  intro h
  have hkept := h [.iSYS_MON_ReadTemperature true true ⟨true, true⟩ false]
  have := hkept.2 _ List.prefix_rfl .SYS_MON
  revert this
  decide

end Amr.Locks
