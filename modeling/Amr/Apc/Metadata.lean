/-
# Updates of the metadata of a partition

`iAPC_SetFptPartition`, `iAPC_SetFptPartitionFlags` and the `APC_MSG_TYPE_UPDATE_FPT_FLAGS` branch
of `vProxyDriverTask`. The caller changes the checksum and the size in the cache and posts a
message; the task sets the flags in the cache and writes the entry to flash, unless the flags are
there already, and then reloads the table of the primary device. Calls and the two halves of the
task's work interleave.

An update is atomic in the runs in which an update of the checksum or the size finds the proxy idle,
can be posted and comes with other flags than the cached ones, and in which the write of an entry
and the reload of the primary table go through.
-/
import Amr.Apc.Proxy
import Amr.Lib.Transition

namespace Amr.Apc

open ByteStore Transition

/-- A request to update an entry, with the entry as the call found it in the cache and in flash. -/
structure Request where
  ucRequestId : UInt8
  xBootDevice : APC_BOOT_DEVICES
  iPartition : ℤ
  /-- The checksum, if one is given, and the size; `none` for a request to set the flags. -/
  pdi : Option (Option (BitVec 128) × UInt32)
  ulFlags : UInt32
  cached : Option APCProxyDriverFptPartition
  flash : APCProxyDriverFptPartition

namespace Request

def msg (r : Request) : APCMboxMsg :=
  .UPDATE_FPT_FLAGS r.ucRequestId ⟨r.xBootDevice, r.iPartition, r.ulFlags⟩

/-- An entry with the requested checksum and size. -/
def apply (r : Request) (p : APCProxyDriverFptPartition) : APCProxyDriverFptPartition :=
  match r.pdi with
  | some (pucPdiMd5, ulPdiSize) => Device.withPdi pucPdiMd5 ulPdiSize p
  | none => p

/-- The entry holds what the request asks for. -/
def Holds (r : Request) (p : APCProxyDriverFptPartition) : Prop :=
  r.apply p = p ∧ p.ulPartitionFlags = r.ulFlags

instance (r : Request) (p : APCProxyDriverFptPartition) : Decidable (r.Holds p) := by
  unfold Holds; infer_instance

theorem apply_apply (r : Request) (p : APCProxyDriverFptPartition) :
    r.apply (r.apply p) = r.apply p := by
  unfold apply Device.withPdi
  rcases r.pdi with _ | ⟨_ | _, _⟩ <;> rfl

@[simp] theorem apply_flags (r : Request) (p : APCProxyDriverFptPartition) :
    (r.apply p).ulPartitionFlags = p.ulPartitionFlags := by
  unfold apply Device.withPdi
  rcases r.pdi with _ | _ <;> rfl

theorem apply_withFlags {r : Request} {p : APCProxyDriverFptPartition} (h : r.apply p = p)
    (ulFlags : UInt32) :
    r.apply { p with ulPartitionFlags := ulFlags } = { p with ulPartitionFlags := ulFlags } := by
  unfold apply Device.withPdi at *
  rcases hr : r.pdi with _ | ⟨pucPdiMd5, ulPdiSize⟩
  · rfl
  · rw [hr] at h
    simp only [APCProxyDriverFptPartition.mk.injEq] at h ⊢
    cases p
    simp_all

end Request

inductive Report
  | complete (r : Request)
  | failed (r : Request)

/-- The proxy with the requests that it works on. -/
structure Session where
  apc : Data
  /-- The requests of the messages in the mailbox. -/
  waiting : List Request
  /-- The first message changed the checksum or the size of its cached entry. -/
  changed : Bool
  /-- The request whose flags are set and whose reload is still to come. -/
  setting : Option Request
  /-- What the last step reported. -/
  report : Option Report

namespace Session

def request (s : Session) (ucRequestId : UInt8) (b : APC_BOOT_DEVICES) (iPartition : ℤ)
    (pdi : Option (Option (BitVec 128) × UInt32)) (ulFlags : UInt32) : Request where
  ucRequestId := ucRequestId
  xBootDevice := b
  iPartition := iPartition
  pdi := pdi
  ulFlags := ulFlags
  cached := (s.apc.device b).cached iPartition
  flash := partitionAt (s.apc.device b).flash iPartition.toNat

/-- A call that made the request `r` has returned. -/
def returned (s : Session) (r : Request) (res : Data × Bool) : Session :=
  if res.2 then
    { s with
      apc := res.1
      waiting := s.waiting ++ [r]
      changed := s.changed || decide (r.cached.map r.apply ≠ r.cached)
      report := none }
  else { s with apc := res.1, report := some (.failed r) }

def Quiet (s : Session) : Prop := s.waiting = [] ∧ s.setting = none

/-- The cached and the stored entry of a request. -/
def entries (s : Session) (r : Request) :
    Option APCProxyDriverFptPartition × APCProxyDriverFptPartition :=
  ((s.apc.device r.xBootDevice).cached r.iPartition,
    partitionAt (s.apc.device r.xBootDevice).flash r.iPartition.toNat)

end Session

inductive Action
  | setFptPartition (pxSignal : Option UInt8) (xBootDevice : ℕ) (iPartition : ℤ)
      (pucPdiMd5 : Option (BitVec 128)) (ulPdiSize ulFlags : UInt32) (posted : Bool)
  | setFptPartitionFlags (pxSignal : Option UInt8) (xBootDevice : ℕ) (iPartition : ℤ)
      (ulFlags : UInt32) (posted : Bool)
  /-- The task takes a message and calls `iSetFptFlags`. -/
  | setFlags (o : WriteOutcome)
  /-- The task calls `iRefreshFptData` and, if that went well, raises the event. -/
  | refresh (o : Device.RefreshOutcome) (raised : Bool)

/-- One call, or one half of the task's work on a message. -/
def step (s : Session) : Action → Option Session
  | .setFptPartition pxSignal xBootDevice iPartition pucPdiMd5 ulPdiSize ulFlags posted =>
    match pxSignal, APC_BOOT_DEVICES.ofNat? xBootDevice with
    | some ucInstance, some b =>
      some (s.returned (s.request ucInstance b iPartition (some (pucPdiMd5, ulPdiSize)) ulFlags)
        (s.apc.iAPC_SetFptPartition pxSignal xBootDevice iPartition pucPdiMd5 ulPdiSize ulFlags
          posted))
    | _, _ => some { s with report := none }
  | .setFptPartitionFlags pxSignal xBootDevice iPartition ulFlags posted =>
    match pxSignal, APC_BOOT_DEVICES.ofNat? xBootDevice with
    | some ucInstance, some b =>
      some (s.returned (s.request ucInstance b iPartition none ulFlags)
        (s.apc.iAPC_SetFptPartitionFlags pxSignal xBootDevice iPartition ulFlags posted))
    | _, _ => some { s with report := none }
  | .setFlags o =>
    match s.setting, s.waiting, s.apc.pvOsalMBoxHdl with
    | none, r :: rs, .UPDATE_FPT_FLAGS _ x :: ms =>
      let res := { s.apc with pvOsalMBoxHdl := ms }.onDevice x.xBootDevice fun d =>
        d.iSetFptFlags x.iPartition x.ulFlags o
      some { s with
        apc := res.1
        waiting := rs
        changed := false
        setting := if res.2 then some r else none
        report := if res.2 then none else some (.failed r) }
    | _, _, _ => none
  | .refresh o raised =>
    s.setting.map fun r =>
      let res := s.apc.onDevice .PRIMARY fun d => some (d.iRefreshFptData o)
      { s with
        apc := res.1
        setting := none
        report := some (if res.2 ∧ raised then .complete r else .failed r) }

/-- The cache is what a load of the flash gives. -/
structure Device.Loaded (d : Device) : Prop where
  header : d.pxFptHeader = headerAt d.flash
  accepted : (headerAt d.flash).Accepted
  entries : (headerAt d.flash).entries ≠ 0
  partitions : d.ppxFptPartitions = some (Device.table d.flash)

/-- An idle proxy whose valid tables are those of the flash. -/
structure Settled (s : Data) : Prop where
  initialised : s.iInitialised
  mbox : s.pvOsalMBoxHdl = []
  loaded : ∀ b, (s.device b).piValidFpt → (s.device b).Loaded

/-- A session that starts with an idle proxy. -/
def Session.start (s : Data) : Session := ⟨s, [], false, none, none⟩

/-- **Atomic updates.** A request reported complete stands in the cache and in flash, one that
failed left both as they were, and without a request under way cache and flash agree, so that a
reload changes nothing. -/
structure Atomic (s : Session) : Prop where
  complete : ∀ r, s.report = some (.complete r) →
    (s.entries r).1 = some (s.entries r).2 ∧ r.Holds (s.entries r).2
  failed : ∀ r, s.report = some (.failed r) → s.entries r = (r.cached, r.flash)
  quiet : s.Quiet → ∀ b, (s.apc.device b).piValidFpt →
    (s.apc.device b).Loaded ∧
      ∀ o : Device.RefreshOutcome, o.take → Device.Readable (s.apc.device b).flash o.load →
        (s.apc.device b).iRefreshFptData o = (s.apc.device b, true)

/-- The condition on a step.

An update that is taken up names an entry of a valid table. Where it changes the checksum or the
size, no request is under way, the message can be posted, and the flags are not the cached ones.
The write of an entry goes through. The reload goes through, if the mutex is taken at all; where it
is not taken or the event cannot be raised, the request has changed nothing. -/
def Ok (s : Session) : Action → Prop
  | .setFptPartition pxSignal xBootDevice iPartition pucPdiMd5 ulPdiSize ulFlags posted =>
    ∀ b ∈ APC_BOOT_DEVICES.ofNat? xBootDevice, pxSignal.isSome →
      (s.apc.device b).Below iPartition →
        (s.apc.device b).piValidFpt ∧ 0 ≤ iPartition ∧
          ∀ p ∈ (s.apc.device b).cached iPartition,
            Device.withPdi pucPdiMd5 ulPdiSize p = p ∨
              s.Quiet ∧ posted ∧ p.ulPartitionFlags ≠ ulFlags
  | .setFptPartitionFlags pxSignal xBootDevice iPartition _ _ =>
    ∀ b ∈ APC_BOOT_DEVICES.ofNat? xBootDevice, pxSignal.isSome →
      (s.apc.device b).piValidFpt → (s.apc.device b).Below iPartition → 0 ≤ iPartition
  | .setFlags o =>
    ∀ r ∈ s.waiting.head?, ∀ p ∈ (s.entries r).1, p.ulPartitionFlags = r.ulFlags ∨ o.isDone
  | .refresh o raised =>
    (o.take → Device.Readable (s.apc.device .PRIMARY).flash o.load) ∧
      (o.take ∧ raised ∨ ∀ r ∈ s.setting, s.entries r = (r.cached, r.flash))

/-! ### The cache during an update -/

/-- The table of the flash, with the checksum and the size of a pending request in its entry. -/
def pendingTable (m : Store) : Option Request → List (Option APCProxyDriverFptPartition)
  | some r => (Device.table m).modify r.iPartition.toNat (Option.map r.apply)
  | none => Device.table m

/-- An entry of the table of the flash, with a pending request applied. -/
def pendingAt (m : Store) (r : Option Request) (i : ℕ) : APCProxyDriverFptPartition :=
  match r with
  | some r => if r.iPartition.toNat = i then r.apply (partitionAt m i) else partitionAt m i
  | none => partitionAt m i

/-- The cache is the table of the flash but for a pending request. -/
structure Device.Holding (d : Device) (r : Option Request) : Prop where
  header : d.pxFptHeader = headerAt d.flash
  accepted : (headerAt d.flash).Accepted
  entries : (headerAt d.flash).entries ≠ 0
  partitions : d.ppxFptPartitions = some (pendingTable d.flash r)

variable {d : Device}

theorem Device.Loaded.holding (h : d.Loaded) : d.Holding none :=
  ⟨h.header, h.accepted, h.entries, h.partitions⟩

theorem Device.Holding.loaded (h : d.Holding none) : d.Loaded :=
  ⟨h.header, h.accepted, h.entries, h.partitions⟩

theorem getElem?_pendingTable {m : Store} {r : Option Request} {i : ℕ}
    (h : i < (headerAt m).entries) :
    (pendingTable m r)[i]? = some (some (pendingAt m r i)) := by
  rcases r with _ | r
  · exact Device.getElem?_table h
  · rw [pendingTable, pendingAt, List.getElem?_modify, Device.getElem?_table h]
    split_ifs with hi <;> rfl

namespace Device

variable {r : Option Request}

theorem Holding.cell (h : d.Holding r) {i : ℤ} (h0 : 0 ≤ i)
    (hi : d.Below i) : d.cell i = some (some (pendingAt d.flash r i.toNat)) := by
  have hlt : i.toNat < (headerAt d.flash).entries := by
    unfold Below at hi
    rw [h.header] at hi
    omega
  unfold Device.cell
  rw [if_pos h0, h.partitions, Option.bind_some, getElem?_pendingTable hlt]

theorem Holding.cached (h : d.Holding r) {i : ℤ} (h0 : 0 ≤ i)
    (hi : d.Below i) : d.cached i = some (pendingAt d.flash r i.toNat) := by
  unfold Device.cached
  rw [h.cell h0 hi]
  rfl

theorem Loaded.refresh (h : d.Loaded) (hvalid : d.piValidFpt)
    {o : RefreshOutcome} (htake : o.take) (hread : Readable d.flash o.load) :
    d.iRefreshFptData o = (d, true) := by
  rw [iRefreshFptData_of_readable htake hread]
  obtain ⟨fwIf, flash, valid, header, partitions⟩ := d
  obtain ⟨hheader, -, -, hpart⟩ := h
  simp only at hheader hvalid hpart ⊢
  rw [hheader, hvalid, hpart]

theorem setPdi_of_same {i : ℤ} {p : APCProxyDriverFptPartition}
    {pucPdiMd5 : Option (BitVec 128)} {ulPdiSize : UInt32}
    (hcell : d.cell i = some (some p)) (h : withPdi pucPdiMd5 ulPdiSize p = p) :
    d.setPdi i pucPdiMd5 ulPdiSize = some d := by
  unfold setPdi
  rw [hcell, Option.map_some, Option.some_inj]
  unfold Device.cell at hcell
  split_ifs at hcell with h0
  obtain ⟨l, hl, hcell⟩ := Option.bind_eq_some_iff.mp hcell
  have hkeep : l.modify i.toNat (Option.map (withPdi pucPdiMd5 ulPdiSize)) = l := by
    refine List.ext_getElem? fun j => ?_
    rw [List.getElem?_modify]
    split_ifs with hj
    · rw [← hj, hcell]
      simp [h]
    · simp
  rw [hl, Option.map_some, hkeep, ← hl]

theorem Holding.setPdi (h : d.Holding none) {i : ℤ} (h0 : 0 ≤ i) (hi : d.Below i)
    {r : Request} {pucPdiMd5 : Option (BitVec 128)} {ulPdiSize : UInt32}
    (hr : r.pdi = some (pucPdiMd5, ulPdiSize)) (hri : r.iPartition = i) :
    ∃ d', d.setPdi i pucPdiMd5 ulPdiSize = some d' ∧ d'.flash = d.flash ∧
      d'.piValidFpt = d.piValidFpt ∧ d'.Holding (some r) := by
  have hset : d.setPdi i pucPdiMd5 ulPdiSize = some { d with
      ppxFptPartitions := d.ppxFptPartitions.map fun l =>
        l.modify i.toNat (Option.map (withPdi pucPdiMd5 ulPdiSize)) } := by
    unfold Device.setPdi
    rw [h.cell h0 hi]
    rfl
  have happly : r.apply = withPdi pucPdiMd5 ulPdiSize := by
    funext p
    unfold Request.apply
    rw [hr]
  refine ⟨_, hset, rfl, rfl, h.header, h.accepted, h.entries, ?_⟩
  simp only [h.partitions, Option.map_some, pendingTable, happly, hri]

theorem table_write (m rest : Store) {i : ℕ} (p : APCProxyDriverFptPartition) :
    table (program FLASH_SECTOR_SIZE_128KB m rest (partitionAddr i) p.bytes) =
      (table m).set i (some p) := by
  refine List.ext_getElem? fun j => ?_
  unfold table
  rw [headerAt_write, List.getElem?_set, List.getElem?_map, List.getElem?_map]
  by_cases hj : i = j
  · subst hj
    rw [if_pos rfl, List.length_map, List.length_range]
    split_ifs with hlt
    · rw [List.getElem?_range hlt, Option.map_some, partitionAt_write]
    · rw [List.getElem?_eq_none (by simpa using hlt), Option.map_none]
  · rw [if_neg hj]
    refine Option.map_congr fun k hk => ?_
    obtain ⟨_, rfl⟩ := List.getElem?_eq_some_iff.mp hk
    rw [List.getElem_range, partitionAt_write_other m rest p (fun h => hj h.symm)]

theorem Holding.setFlags_same (h : d.Holding r) {i : ℤ}
    (h0 : 0 ≤ i) (hi : d.Below i) {ulFlags : UInt32} (o : WriteOutcome)
    (hflags : (pendingAt d.flash r i.toNat).ulPartitionFlags = ulFlags) :
    d.iSetFptFlags i ulFlags o = some (d, true) := by
  unfold iSetFptFlags
  rw [if_pos hi, h.cached h0 hi, Option.map_some, if_neg (not_not.mpr hflags)]

theorem Holding.setFlags_write (h : d.Holding r) {i : ℤ}
    (h0 : 0 ≤ i) (hi : d.Below i) {ulFlags : UInt32} (rest : Store)
    (hflags : (pendingAt d.flash r i.toNat).ulPartitionFlags ≠ ulFlags)
    (hr : ∀ q ∈ r, q.iPartition.toNat = i.toNat) :
    ∃ d', d.iSetFptFlags i ulFlags (.done rest) = some (d', true) ∧
      d'.piValidFpt = d.piValidFpt ∧ d'.pxFptHeader = d.pxFptHeader ∧ d'.Holding none ∧
      (∀ j, j ≠ i.toNat → partitionAt d'.flash j = partitionAt d.flash j) ∧
      partitionAt d'.flash i.toNat =
        { pendingAt d.flash r i.toNat with ulPartitionFlags := ulFlags } := by
  set p' : APCProxyDriverFptPartition :=
    { pendingAt d.flash r i.toNat with ulPartitionFlags := ulFlags } with hp'
  have hset : d.iSetFptFlags i ulFlags (.done rest) = some ({ d.setCell i.toNat p' with
      flash := program FLASH_SECTOR_SIZE_128KB d.flash rest (partitionAddr i.toNat) p'.bytes },
      true) := by
    unfold iSetFptFlags
    rw [if_pos hi, h.cached h0 hi, Option.map_some, if_pos hflags]
    rfl
  have hcells : (pendingTable d.flash r).set i.toNat (some p') =
      (table d.flash).set i.toNat (some p') := by
    rcases r with _ | q
    · rfl
    · refine List.ext_getElem? fun j => ?_
      rw [pendingTable, hr q rfl, List.getElem?_set, List.getElem?_set, List.length_modify,
        List.getElem?_modify]
      split_ifs with hj
      · rfl
      · rfl
      · simp
  refine ⟨_, hset, rfl, rfl, ⟨?_, ?_, ?_, ?_⟩, ?_, partitionAt_write _ _ _ _⟩
  · simp only [Device.setCell, headerAt_write]
    exact h.header
  · simp only [headerAt_write]
    exact h.accepted
  · simp only [headerAt_write]
    exact h.entries
  · simp only [Device.setCell, h.partitions, Option.map_some]
    rw [hcells, ← table_write]
    rfl
  · intro j hj
    exact partitionAt_write_other _ _ _ hj

end Device

/-! ### The invariant -/

namespace Session

/-- The requests that were posted and are not yet reported. -/
def underWay (s : Session) : List Request := s.setting.toList ++ s.waiting

/-- The request whose checksum and size are in the cache of a device but not in its flash. -/
def dirty (s : Session) (b : APC_BOOT_DEVICES) : Option Request :=
  if s.changed then s.waiting.head?.filter fun r => r.xBootDevice = b else none

end Session

/-- The invariant of the runs that meet the condition. -/
structure Inv (s : Session) : Prop where
  initialised : s.apc.iInitialised
  mbox : s.apc.pvOsalMBoxHdl = s.waiting.map Request.msg
  held : ∀ b, (s.apc.device b).piValidFpt → (s.apc.device b).Holding (s.dirty b)
  inside : ∀ r ∈ s.underWay, (s.apc.device r.xBootDevice).piValidFpt ∧ 0 ≤ r.iPartition ∧
    (s.apc.device r.xBootDevice).Below r.iPartition
  data : ∀ r ∈ s.underWay, ∀ p, (s.entries r).1 = some p → r.apply p = p
  changed : s.changed → s.setting = none ∧ ∃ r rs, s.waiting = r :: rs ∧
    (s.entries r).2.ulPartitionFlags ≠ r.ulFlags
  flags : ∀ r ∈ s.setting, (s.entries r).2.ulPartitionFlags = r.ulFlags

variable {s : Session}

theorem Session.dirty_of_not_changed (h : s.changed = false)
    (b : APC_BOOT_DEVICES) : s.dirty b = none := by
  unfold Session.dirty
  rw [h]
  rfl

theorem inv_start {d : Data} (h : Settled d) : Inv (Session.start d) where
  initialised := h.initialised
  mbox := h.mbox
  held b hb := (h.loaded b hb).holding
  inside r hr := by simp [Session.start, Session.underWay] at hr
  data r hr := by simp [Session.start, Session.underWay] at hr
  changed hc := by simp [Session.start] at hc
  flags r hr := by simp [Session.start] at hr

theorem Inv.reported (h : Inv s) (rep : Option Report) :
    Inv { s with report := rep } := ⟨h.1, h.2, h.3, h.4, h.5, h.6, h.7⟩

theorem Inv.enqueue (h : Inv s) {r : Request} {d : Data}
    (hinit : d.iInitialised) (hdev : d.device = s.apc.device)
    (hmbox : d.pvOsalMBoxHdl = s.apc.pvOsalMBoxHdl ++ [r.msg])
    (hin : (s.apc.device r.xBootDevice).piValidFpt ∧ 0 ≤ r.iPartition ∧
      (s.apc.device r.xBootDevice).Below r.iPartition)
    (hdata : ∀ p, (s.entries r).1 = some p → r.apply p = p) (rep : Option Report) :
    Inv { s with apc := d, waiting := s.waiting ++ [r], report := rep } := by
  have hmem : ∀ q, q ∈ s.setting.toList ++ (s.waiting ++ [r]) → q ∈ s.underWay ∨ q = r := by
    intro q hq
    simpa [Session.underWay, or_assoc] using hq
  have hdirty : ∀ b, Session.dirty { s with apc := d, waiting := s.waiting ++ [r], report := rep } b
      = s.dirty b := by
    intro b
    unfold Session.dirty
    by_cases hc : s.changed
    · obtain ⟨-, q, rs, hw, -⟩ := h.changed hc
      simp only [hw]
      rfl
    · simp only [hc]
      rfl
  refine ⟨hinit, ?_, ?_, ?_, ?_, ?_, ?_⟩
  · simp only [hmbox, h.mbox, List.map_append, List.map_cons, List.map_nil]
  · intro b hb
    rw [hdirty b]
    simp only [hdev] at hb ⊢
    exact h.held b hb
  · intro q hq
    simp only [hdev]
    rcases hmem q hq with hq | rfl
    · exact h.inside q hq
    · exact hin
  · intro q hq p hp
    simp only [Session.entries, hdev] at hp
    rcases hmem q hq with hq | rfl
    · exact h.data q hq p hp
    · exact hdata p hp
  · intro hc
    obtain ⟨hset, q, rs, hw, hflags⟩ := h.changed hc
    refine ⟨hset, q, rs ++ [r], by simp [hw], ?_⟩
    simp only [Session.entries, hdev]
    exact hflags
  · intro q hq
    simp only [Session.entries, hdev]
    exact h.flags q hq

theorem Inv.change (h : Inv s) (hq : s.Quiet) {r : Request} {d : Device}
    (hin : (s.apc.device r.xBootDevice).piValidFpt ∧ 0 ≤ r.iPartition ∧
      (s.apc.device r.xBootDevice).Below r.iPartition)
    (hflash : d.flash = (s.apc.device r.xBootDevice).flash) (hhold : d.Holding (some r))
    (hvalid : d.piValidFpt = (s.apc.device r.xBootDevice).piValidFpt)
    (hflags : (s.entries r).2.ulPartitionFlags ≠ r.ulFlags) (rep : Option Report) :
    Inv { s with
      apc := { s.apc.setDevice r.xBootDevice d with
        pvOsalMBoxHdl := s.apc.pvOsalMBoxHdl ++ [r.msg] }
      waiting := [r]
      changed := true
      report := rep } := by
  obtain ⟨hw, hset⟩ := hq
  have hnot : s.changed = false := by
    by_contra hc
    obtain ⟨-, q, rs, hcons, -⟩ := h.changed (by simpa using hc)
    rw [hw] at hcons
    exact absurd hcons (by simp)
  have hheader : d.pxFptHeader = (s.apc.device r.xBootDevice).pxFptHeader := by
    have hold := (h.held _ hin.1).header
    rw [hhold.header, hold, hflash]
  have hbelow : d.Below r.iPartition := by
    unfold Device.Below
    rw [hheader]
    exact hin.2.2
  refine ⟨h.initialised, ?_, ?_, ?_, ?_, ?_, ?_⟩
  · simp only [h.mbox, hw, List.map_nil, List.nil_append, List.map_cons]
  · intro b hb
    by_cases hbr : b = r.xBootDevice
    · subst hbr
      simp only [Session.dirty, Data.setDevice, Function.update_self, List.head?_cons, if_true,
        Option.filter_some, decide_true]
      exact hhold
    · simp only [Session.dirty, Data.setDevice, Function.update_of_ne hbr, List.head?_cons,
        if_true, Option.filter_some, decide_eq_true_eq] at hb ⊢
      rw [if_neg (fun he => hbr he.symm)]
      have hold := h.held b hb
      rw [Session.dirty_of_not_changed hnot] at hold
      exact hold
  · intro q hqm
    obtain rfl : q = r := by simpa [Session.underWay, hset] using hqm
    simp only [Data.setDevice, Function.update_self]
    exact ⟨hvalid.trans hin.1, hin.2.1, hbelow⟩
  · intro q hqm p hp
    obtain rfl : q = r := by simpa [Session.underWay, hset] using hqm
    simp only [Session.entries, Data.setDevice, Function.update_self] at hp
    rw [hhold.cached hin.2.1 hbelow] at hp
    obtain rfl := Option.some.inj hp
    simp only [pendingAt, if_true]
    exact q.apply_apply _
  · intro _
    refine ⟨hset, r, [], rfl, ?_⟩
    simp only [Session.entries, Data.setDevice, Function.update_self, hflash]
    exact hflags
  · intro q hqm
    simp only [hset] at hqm
    exact absurd hqm (by simp)

theorem Inv.setFlags (h : Inv s) {r : Request} {rs : List Request}
    (hset : s.setting = none) (hw : s.waiting = r :: rs) {d : Device}
    (hvalid : d.piValidFpt = (s.apc.device r.xBootDevice).piValidFpt)
    (hheader : d.pxFptHeader = (s.apc.device r.xBootDevice).pxFptHeader) (hhold : d.Holding none)
    (hother : ∀ j, j ≠ r.iPartition.toNat →
      partitionAt d.flash j = pendingAt (s.apc.device r.xBootDevice).flash
        (s.dirty r.xBootDevice) j)
    (hentry : ∃ p, (s.entries r).1 = some p ∧ partitionAt d.flash r.iPartition.toNat =
      { p with ulPartitionFlags := r.ulFlags })
    (hclean : ∀ b, b ≠ r.xBootDevice → s.dirty b = none) (rep : Option Report) :
    Inv { s with
      apc := { s.apc.setDevice r.xBootDevice d with pvOsalMBoxHdl := rs.map Request.msg }
      waiting := rs
      changed := false
      setting := some r
      report := rep } := by
  obtain ⟨p, hp, hwritten⟩ := hentry
  have hmem : ∀ q, q ∈ (some r).toList ++ rs → q ∈ s.underWay := by
    intro q hq
    simpa [Session.underWay, hset, hw] using hq
  have hbelow : ∀ i, d.Below i ↔ (s.apc.device r.xBootDevice).Below i := by
    intro i
    unfold Device.Below
    rw [hheader]
  refine ⟨h.initialised, rfl, ?_, ?_, ?_, ?_, ?_⟩
  · intro b hb
    rw [Session.dirty_of_not_changed rfl]
    by_cases hbr : b = r.xBootDevice
    · subst hbr
      simp only [Data.setDevice, Function.update_self]
      exact hhold
    · simp only [Data.setDevice, Function.update_of_ne hbr] at hb ⊢
      have hold := h.held b hb
      rw [hclean b hbr] at hold
      exact hold
  · intro q hq
    have hin := h.inside q (hmem q hq)
    by_cases hbr : q.xBootDevice = r.xBootDevice
    · simp only [Data.setDevice, hbr, Function.update_self]
      rw [hbr] at hin
      exact ⟨hvalid.trans hin.1, hin.2.1, (hbelow _).mpr hin.2.2⟩
    · simp only [Data.setDevice, Function.update_of_ne hbr]
      exact hin
  · intro q hq p' hp'
    have hdata := h.data q (hmem q hq)
    have hin := h.inside q (hmem q hq)
    by_cases hbr : q.xBootDevice = r.xBootDevice
    · simp only [Session.entries, Data.setDevice, hbr, Function.update_self] at hp'
      rw [hbr] at hin
      rw [hhold.cached hin.2.1 ((hbelow _).mpr hin.2.2)] at hp'
      obtain rfl := Option.some.inj hp'
      have hold := (h.held r.xBootDevice hin.1).cached hin.2.1 hin.2.2
      simp only [Session.entries, hbr] at hdata
      have hkeep := hdata _ hold
      simp only [pendingAt]
      by_cases hqi : q.iPartition.toNat = r.iPartition.toNat
      · have hsame : pendingAt (s.apc.device r.xBootDevice).flash (s.dirty r.xBootDevice)
            q.iPartition.toNat = p := by
          have hri := h.inside r (hmem r (by simp))
          have hcr := (h.held r.xBootDevice hri.1).cached hri.2.1 hri.2.2
          simp only [Session.entries] at hp
          rw [hqi]
          exact Option.some.inj (hcr.symm.trans hp)
        rw [hsame] at hkeep
        rw [hqi, hwritten]
        exact Request.apply_withFlags hkeep _
      · rw [hother _ hqi]
        exact hkeep
    · simp only [Session.entries, Data.setDevice, Function.update_of_ne hbr] at hp'
      exact hdata p' hp'
  · intro hc
    exact absurd hc (by simp)
  · intro q hq
    obtain rfl : r = q := by simpa using hq
    simp only [Session.entries, Data.setDevice, Function.update_self, hwritten]

theorem Inv.refresh (h : Inv s) {r : Request} (hset : s.setting = some r)
    {o : Device.RefreshOutcome}
    (hread : o.take → Device.Readable (s.apc.device .PRIMARY).flash o.load) (rep : Option Report) :
    ((s.apc.device .PRIMARY).iRefreshFptData o).2 = o.take ∧
    (∀ q ∈ s.underWay, Session.entries { s with
      apc := s.apc.setDevice .PRIMARY ((s.apc.device .PRIMARY).iRefreshFptData o).1 } q =
        s.entries q) ∧
    Inv { s with
      apc := s.apc.setDevice .PRIMARY ((s.apc.device .PRIMARY).iRefreshFptData o).1
      setting := none
      report := rep } := by
  have hnot : s.changed = false := by
    by_contra hc
    obtain ⟨hnone, -⟩ := h.changed (by simpa using hc)
    rw [hset] at hnone
    exact absurd hnone (by simp)
  have hsub : ∀ q ∈ s.waiting, q ∈ s.underWay := fun q hq => List.mem_append_right _ hq
  by_cases hid : ((s.apc.device .PRIMARY).iRefreshFptData o).1 = s.apc.device .PRIMARY
  · have hdev : (s.apc.setDevice .PRIMARY ((s.apc.device .PRIMARY).iRefreshFptData o).1) =
        s.apc := by
      rw [hid, Data.setDevice_self]
    rw [hdev]
    refine ⟨?_, fun q _ => rfl, h.initialised, h.mbox, h.held, ?_, ?_, ?_, ?_⟩
    · by_cases htake : o.take
      · rw [Device.iRefreshFptData_of_readable htake (hread htake), htake]
      · unfold Device.iRefreshFptData
        rw [if_neg htake]
        simpa using htake
    · intro q hq
      exact h.inside q (hsub q (by simpa [Session.underWay] using hq))
    · intro q hq
      exact h.data q (hsub q (by simpa [Session.underWay] using hq))
    · intro hc
      rw [hnot] at hc
      exact absurd hc (by simp)
    · intro q hq
      exact absurd hq (by simp)
  -- otherwise the primary table was not valid, and no request is about it
  · have htake : o.take := by
      by_contra htake
      refine hid ?_
      unfold Device.iRefreshFptData
      rw [if_neg htake]
    have hload := Device.iRefreshFptData_of_readable htake (hread htake)
    have hinvalid : ¬ (s.apc.device .PRIMARY).piValidFpt := by
      intro hv
      have hheld := h.held _ hv
      rw [Session.dirty_of_not_changed hnot] at hheld
      exact hid (by rw [hheld.loaded.refresh hv htake (hread htake)])
    have hnp : ∀ q ∈ s.underWay, q.xBootDevice ≠ .PRIMARY := by
      intro q hq hb
      have hv := (h.inside q hq).1
      rw [hb] at hv
      exact hinvalid hv
    rw [hload]
    refine ⟨htake.symm, ?_, h.initialised, h.mbox, ?_, ?_, ?_, ?_, ?_⟩
    · intro q hq
      simp only [Session.entries, Data.setDevice, Function.update_of_ne (hnp q hq)]
    · intro b hb
      rw [Session.dirty_of_not_changed (by exact hnot)]
      by_cases hbp : b = .PRIMARY
      · subst hbp
        simp only [Data.setDevice, Function.update_self]
        obtain ⟨-, hacc, hne, -, -⟩ := hread htake
        exact ⟨rfl, hacc, hne, rfl⟩
      · simp only [Data.setDevice, Function.update_of_ne hbp] at hb ⊢
        have hold := h.held b hb
        rw [Session.dirty_of_not_changed hnot] at hold
        exact hold
    · intro q hq
      have hq := hsub q (by simpa [Session.underWay] using hq)
      simp only [Data.setDevice, Function.update_of_ne (hnp q hq)]
      exact h.inside q hq
    · intro q hq p hp
      have hq := hsub q (by simpa [Session.underWay] using hq)
      simp only [Session.entries, Data.setDevice, Function.update_of_ne (hnp q hq)] at hp
      exact h.data q hq p hp
    · intro hc
      simp only [hnot] at hc
      exact absurd hc (by simp)
    · intro q hq
      exact absurd hq (by simp)

/-! ### The steps -/

def Session.Reported (s : Session) : Prop :=
  (∀ r, s.report = some (.complete r) →
    (s.entries r).1 = some (s.entries r).2 ∧ r.Holds (s.entries r).2) ∧
  ∀ r, s.report = some (.failed r) → s.entries r = (r.cached, r.flash)

theorem Session.reported_none (h : s.report = none) : s.Reported := by
  unfold Session.Reported
  rw [h]
  exact ⟨fun r hr => absurd hr (by simp), fun r hr => absurd hr (by simp)⟩

theorem Session.reported_failed {r : Request} (h : s.report = some (.failed r))
    (hr : s.entries r = (r.cached, r.flash)) : s.Reported := by
  unfold Session.Reported
  rw [h]
  refine ⟨fun q hq => absurd hq (by simp), fun q hq => ?_⟩
  obtain rfl : r = q := by simpa using hq
  exact hr

theorem returned_false (h : Inv s) {r : Request}
    (hr : s.entries r = (r.cached, r.flash)) :
    Inv (s.returned r (s.apc, false)) ∧ (s.returned r (s.apc, false)).Reported := by
  unfold Session.returned
  rw [if_neg (by simp)]
  exact ⟨h.reported _, Session.reported_failed rfl hr⟩

theorem returned_post (h : Inv s) {r : Request}
    (hr : s.entries r = (r.cached, r.flash))
    (hin : (s.apc.device r.xBootDevice).piValidFpt ∧ 0 ≤ r.iPartition ∧
      (s.apc.device r.xBootDevice).Below r.iPartition)
    (hsame : ∀ p, (s.entries r).1 = some p → r.apply p = p) (posted : Bool) :
    Inv (s.returned r (s.apc.post r.msg posted)) ∧
      (s.returned r (s.apc.post r.msg posted)).Reported := by
  unfold Data.post
  split_ifs with hpost
  · have hkeep : r.cached.map r.apply = r.cached := by
      have hc : (s.entries r).1 = r.cached := congrArg Prod.fst hr
      rcases hrc : r.cached with _ | p
      · rfl
      · rw [Option.map_some, hsame p (hc.trans hrc)]
    unfold Session.returned
    rw [if_pos rfl]
    simp only [hkeep, ne_eq, not_true_eq_false, decide_false, Bool.or_false]
    refine ⟨h.enqueue ?_ ?_ ?_ hin hsame none, Session.reported_none rfl⟩
    · exact h.initialised
    · rfl
    · rfl
  · exact returned_false h hr

variable {s s' : Session}

theorem step_setFptPartition (h : Inv s) {pxSignal : Option UInt8}
    {xBootDevice : ℕ} {iPartition : ℤ} {pucPdiMd5 : Option (BitVec 128)}
    {ulPdiSize ulFlags : UInt32} {posted : Bool}
    (hok : Ok s (.setFptPartition pxSignal xBootDevice iPartition pucPdiMd5 ulPdiSize ulFlags
      posted))
    (hstep : step s (.setFptPartition pxSignal xBootDevice iPartition pucPdiMd5 ulPdiSize ulFlags
      posted) = some s') : Inv s' ∧ s'.Reported := by
  unfold step at hstep
  rcases pxSignal with _ | ucInstance
  · obtain rfl := Option.some.inj hstep
    exact ⟨h.reported _, Session.reported_none rfl⟩
  rcases hb : APC_BOOT_DEVICES.ofNat? xBootDevice with _ | b
  · simp only [hb, Option.some_inj] at hstep
    subst hstep
    exact ⟨h.reported _, Session.reported_none rfl⟩
  simp only [hb, Option.some_inj] at hstep
  subst hstep
  set r := s.request ucInstance b iPartition (some (pucPdiMd5, ulPdiSize)) ulFlags with hr
  by_cases hacc : (s.apc.device b).Below iPartition
  swap
  · have hcall : s.apc.iAPC_SetFptPartition (some ucInstance) xBootDevice iPartition pucPdiMd5
        ulPdiSize ulFlags posted = (s.apc, false) := by
      unfold Data.iAPC_SetFptPartition
      simp only [hb, hacc, and_false, if_false]
    rw [hcall]
    exact returned_false h rfl
  obtain ⟨hvalid, h0, hchange⟩ := hok b hb rfl hacc
  have hheld := h.held b hvalid
  have hcached := hheld.cached h0 hacc
  have hcall : ∀ d, (s.apc.device b).setPdi iPartition pucPdiMd5 ulPdiSize = some d →
      s.apc.iAPC_SetFptPartition (some ucInstance) xBootDevice iPartition pucPdiMd5 ulPdiSize
        ulFlags posted = (s.apc.setDevice b d).post r.msg posted := by
    intro d hd
    unfold Data.iAPC_SetFptPartition
    simp only [hb, h.initialised, hacc, and_self, if_true, hd]
    rfl
  by_cases hsame : Device.withPdi pucPdiMd5 ulPdiSize
      (pendingAt (s.apc.device b).flash (s.dirty b) iPartition.toNat) =
        pendingAt (s.apc.device b).flash (s.dirty b) iPartition.toNat
  · rw [hcall _ (Device.setPdi_of_same (hheld.cell h0 hacc) hsame), Data.setDevice_self]
    refine returned_post h rfl ⟨hvalid, h0, hacc⟩ ?_ posted
    intro p hp
    obtain rfl := Option.some.inj (hcached.symm.trans hp)
    exact hsame
  -- the cache changes: nothing else is under way, and the message is posted
  · obtain ⟨hq, hposted, hne⟩ := (hchange _ hcached).resolve_left hsame
    have hnot : s.changed = false := by
      by_contra hc
      obtain ⟨-, q, rs, hcons, -⟩ := h.changed (by simpa using hc)
      rw [hq.1] at hcons
      exact absurd hcons (by simp)
    rw [Session.dirty_of_not_changed hnot] at hheld hcached hsame hne
    obtain ⟨d, hd, hflash, hdvalid, hhold⟩ := hheld.setPdi h0 hacc (r := r) rfl rfl
    have hmbox : s.apc.pvOsalMBoxHdl = [] := by rw [h.mbox, hq.1, List.map_nil]
    have hpost : (s.apc.setDevice b d).post r.msg posted = ({ s.apc.setDevice b d with
        pvOsalMBoxHdl := s.apc.pvOsalMBoxHdl ++ [r.msg] }, true) := by
      unfold Data.post
      rw [if_pos ⟨hposted, by rw [Data.setDevice_mbox, hmbox]; decide⟩]
      rfl
    have hdiffers : r.cached.map r.apply ≠ r.cached := by
      have hrc : r.cached = some (pendingAt (s.apc.device b).flash none iPartition.toNat) :=
        hcached
      rw [hrc, Option.map_some]
      exact fun he => hsame (Option.some.inj he)
    rw [hcall d hd, hpost]
    unfold Session.returned
    rw [if_pos rfl]
    refine ⟨?_, Session.reported_none rfl⟩
    have hinv := h.change hq (r := r) ⟨hvalid, h0, hacc⟩ hflash hhold hdvalid hne none
    simp only [hdiffers, hq.1, List.nil_append, not_false_eq_true, ne_eq, decide_true,
      Bool.or_true]
    exact hinv

theorem step_setFptPartitionFlags (h : Inv s) {pxSignal : Option UInt8}
    {xBootDevice : ℕ} {iPartition : ℤ} {ulFlags : UInt32} {posted : Bool}
    (hok : Ok s (.setFptPartitionFlags pxSignal xBootDevice iPartition ulFlags posted))
    (hstep : step s (.setFptPartitionFlags pxSignal xBootDevice iPartition ulFlags posted) =
      some s') : Inv s' ∧ s'.Reported := by
  unfold step at hstep
  rcases pxSignal with _ | ucInstance
  · obtain rfl := Option.some.inj hstep
    exact ⟨h.reported _, Session.reported_none rfl⟩
  rcases hb : APC_BOOT_DEVICES.ofNat? xBootDevice with _ | b
  · simp only [hb, Option.some_inj] at hstep
    subst hstep
    exact ⟨h.reported _, Session.reported_none rfl⟩
  simp only [hb, Option.some_inj] at hstep
  subst hstep
  by_cases hacc : (s.apc.device b).piValidFpt ∧ (s.apc.device b).Below iPartition
  · have hcall : s.apc.iAPC_SetFptPartitionFlags (some ucInstance) xBootDevice iPartition ulFlags
        posted = s.apc.post (s.request ucInstance b iPartition none ulFlags).msg posted := by
      unfold Data.iAPC_SetFptPartitionFlags
      simp only [hb, h.initialised, hacc, and_self, if_true]
      rfl
    rw [hcall]
    exact returned_post h rfl ⟨hacc.1, hok b hb rfl hacc.1 hacc.2, hacc.2⟩ (fun p _ => rfl) posted
  · have hcall : s.apc.iAPC_SetFptPartitionFlags (some ucInstance) xBootDevice iPartition ulFlags
        posted = (s.apc, false) := by
      unfold Data.iAPC_SetFptPartitionFlags
      simp only [hb]
      rw [if_neg (fun hc => hacc hc.2)]
    rw [hcall]
    exact returned_false h rfl

theorem step_setFlags (h : Inv s) {o : WriteOutcome} (hok : Ok s (.setFlags o))
    (hstep : step s (.setFlags o) = some s') : Inv s' ∧ s'.Reported := by
  unfold step at hstep
  rcases hset : s.setting with _ | q
  swap
  · simp [hset] at hstep
  rcases hw : s.waiting with _ | ⟨r, rs⟩
  · simp [hset, hw] at hstep
  have hmbox : s.apc.pvOsalMBoxHdl = r.msg :: rs.map Request.msg := by
    rw [h.mbox, hw, List.map_cons]
  simp only [hset, hw, hmbox, Request.msg, Option.some_inj] at hstep
  have hin := h.inside r (by simp [Session.underWay, hset, hw])
  have hheld := h.held r.xBootDevice hin.1
  have hcached := hheld.cached hin.2.1 hin.2.2
  -- what is pending is the request at the head
  have hdirty : ∀ b, s.dirty b = none ∨ s.changed ∧ b = r.xBootDevice ∧ s.dirty b = some r := by
    intro b
    by_cases hc : s.changed
    · by_cases hb : r.xBootDevice = b
      · exact .inr ⟨hc, hb.symm, by simp [Session.dirty, hc, hw, hb]⟩
      · exact .inl (by simp [Session.dirty, hc, hw, hb])
    · exact .inl (Session.dirty_of_not_changed (by simpa using hc) b)
  by_cases hflags : (pendingAt (s.apc.device r.xBootDevice).flash (s.dirty r.xBootDevice)
      r.iPartition.toNat).ulPartitionFlags = r.ulFlags
  · -- a request that changed the cache comes with other flags, so that nothing is pending
    have hnot : s.changed = false := by
      by_contra hc
      obtain ⟨-, q, qs, hcons, hne⟩ := h.changed (by simpa using hc)
      obtain ⟨rfl, rfl⟩ : r = q ∧ rs = qs := by simpa [hw] using hcons
      rcases hdirty r.xBootDevice with hd | ⟨-, -, hd⟩
      · rw [hd] at hflags
        exact hne hflags
      · rw [hd] at hflags
        simp only [pendingAt, if_true, Request.apply_flags] at hflags
        exact hne hflags
    have hcall : Data.onDevice { s.apc with pvOsalMBoxHdl := rs.map Request.msg } r.xBootDevice
        (fun d => d.iSetFptFlags r.iPartition r.ulFlags o) =
          ({ s.apc with pvOsalMBoxHdl := rs.map Request.msg }, true) := by
      rw [Data.onDevice_some (d := s.apc.device r.xBootDevice)
        (hheld.setFlags_same hin.2.1 hin.2.2 o hflags)]
      exact congrArg (·, true)
        (Data.setDevice_self { s.apc with pvOsalMBoxHdl := rs.map Request.msg } r.xBootDevice)
    rw [hcall] at hstep
    simp only [if_true] at hstep
    subst hstep
    refine ⟨⟨h.initialised, rfl, ?_, ?_, ?_, ?_, ?_⟩, Session.reported_none rfl⟩
    · intro b hb
      have hold := h.held b hb
      rw [Session.dirty_of_not_changed hnot] at hold
      exact hold
    · intro q hq
      exact h.inside q (by simpa [Session.underWay, hset, hw] using hq)
    · intro q hq
      exact h.data q (by simpa [Session.underWay, hset, hw] using hq)
    · intro hc
      exact absurd hc (by simp)
    · intro q hq
      obtain rfl : r = q := by simpa using hq
      rw [Session.dirty_of_not_changed hnot] at hflags
      exact hflags
  · obtain ⟨rest, rfl⟩ := WriteOutcome.isDone_iff.mp
      ((hok r (by simp [hw]) _ hcached).resolve_left hflags)
    have hpend : ∀ q ∈ s.dirty r.xBootDevice, q.iPartition.toNat = r.iPartition.toNat := by
      intro q hq
      rcases hdirty r.xBootDevice with hd | ⟨-, -, hd⟩
      · rw [hd] at hq
        exact absurd hq (by simp)
      · rw [hd] at hq
        obtain rfl : r = q := by simpa using hq
        rfl
    obtain ⟨d, hcall, hvalid, hheader, hhold, hother, hentry⟩ :=
      hheld.setFlags_write hin.2.1 hin.2.2 rest hflags hpend
    have hcall' : Data.onDevice { s.apc with pvOsalMBoxHdl := rs.map Request.msg } r.xBootDevice
        (fun d => d.iSetFptFlags r.iPartition r.ulFlags (.done rest)) =
          ({ s.apc.setDevice r.xBootDevice d with pvOsalMBoxHdl := rs.map Request.msg }, true) :=
      Data.onDevice_some hcall
    rw [hcall'] at hstep
    simp only [if_true] at hstep
    subst hstep
    refine ⟨h.setFlags hset hw hvalid hheader hhold ?_ ⟨_, hcached, hentry⟩ ?_ none,
      Session.reported_none rfl⟩
    · intro j hj
      rw [hother j hj]
      rcases hdirty r.xBootDevice with hd | ⟨-, -, hd⟩
      · rw [hd]
        rfl
      · rw [hd, pendingAt, if_neg (fun he => hj he.symm)]
    · intro b hb
      rcases hdirty b with hd | ⟨-, hbr, -⟩
      · exact hd
      · exact absurd hbr hb

theorem step_refresh (h : Inv s) {o : Device.RefreshOutcome} {raised : Bool}
    (hok : Ok s (.refresh o raised)) (hstep : step s (.refresh o raised) = some s') :
    Inv s' ∧ s'.Reported := by
  obtain ⟨hread, hharmless⟩ := hok
  unfold step at hstep
  obtain ⟨r, hset, hstep⟩ := Option.map_eq_some_iff.mp hstep
  subst hstep
  obtain ⟨hres, hentries, hinv⟩ := h.refresh hset hread
    (some (if o.take ∧ raised then .complete r else .failed r))
  have hmem : r ∈ s.underWay := by simp [Session.underWay, hset]
  have hin := h.inside r hmem
  have hnot : s.changed = false := by
    by_contra hc
    obtain ⟨hnone, -⟩ := h.changed (by simpa using hc)
    rw [hset] at hnone
    exact absurd hnone (by simp)
  have hagree : (s.entries r).1 = some (s.entries r).2 := by
    have hcached := (h.held r.xBootDevice hin.1).cached hin.2.1 hin.2.2
    rw [Session.dirty_of_not_changed hnot] at hcached
    exact hcached
  have hcall : (s.apc.onDevice .PRIMARY fun d => some (d.iRefreshFptData o)) =
      (s.apc.setDevice .PRIMARY ((s.apc.device .PRIMARY).iRefreshFptData o).1, o.take) := by
    rw [← hres]
    exact Data.onDevice_some rfl
  simp only [hcall]
  refine ⟨hinv, ?_⟩
  have hsame := hentries r hmem
  split_ifs with hdone
  · refine ⟨fun q hq => ?_, fun q hq => absurd hq (by simp)⟩
    obtain rfl : r = q := by simpa using hq
    have hholds : r.Holds (s.entries r).2 := ⟨h.data r hmem _ hagree, h.flags r hset⟩
    rw [← hsame] at hagree hholds
    exact ⟨hagree, hholds⟩
  · refine ⟨fun q hq => absurd hq (by simp), fun q hq => ?_⟩
    obtain rfl : r = q := by simpa using hq
    have hbefore := hharmless.resolve_left hdone r hset
    rw [← hsame] at hbefore
    exact hbefore

theorem inv_step {a : Action} (h : Inv s) (hok : Ok s a)
    (hstep : step s a = some s') : Inv s' ∧ s'.Reported := by
  cases a with
  | setFptPartition => exact step_setFptPartition h hok hstep
  | setFptPartitionFlags => exact step_setFptPartitionFlags h hok hstep
  | setFlags => exact step_setFlags h hok hstep
  | refresh => exact step_refresh h hok hstep

theorem Inv.atomic (h : Inv s) (hrep : s.Reported) : Atomic s where
  complete := hrep.1
  failed := hrep.2
  quiet hq b hb := by
    have hnot : s.changed = false := by
      by_contra hc
      obtain ⟨-, q, rs, hcons, -⟩ := h.changed (by simpa using hc)
      rw [hq.1] at hcons
      exact absurd hcons (by simp)
    have hheld := h.held b hb
    rw [Session.dirty_of_not_changed hnot] at hheld
    exact ⟨hheld.loaded, fun o htake hread => hheld.loaded.refresh hb htake hread⟩

/-- **Updates of the metadata are atomic** in every state of a run whose steps meet the
condition. -/
theorem metadata_atomic {d : Data} (hd : Settled d) {s : Session}
    (hs : Reaches step Ok (Session.start d) s) : Atomic s := by
  have hinv : Inv s ∧ s.Reported := by
    refine hs.invariant (fun s => Inv s ∧ s.Reported) ⟨inv_start hd, Session.reported_none rfl⟩ ?_
    intro s a s' hs hok hstep
    exact inv_step hs.1 hok hstep
  exact hinv.1.atomic hinv.2

/-! ### Runs -/

instance (s : Session) : Decidable s.Quiet := by unfold Session.Quiet; infer_instance

instance (s : Session) (a : Action) : Decidable (Ok s a) := by
  cases a <;> unfold Ok <;> infer_instance

/-- An entry of a table: a partition of 1 MiB at 16 MiB, with no checksum, no size and no flags. -/
def blankEntry : APCProxyDriverFptPartition := ⟨0x0E00, 0x1000000, 0x100000, 0, 0, 0⟩

/-- Erased flash with a table of one entry. -/
def tableFlash : Store :=
  put (put (fun _ => 0xFF) 0 [0x16, 0xA5, 0xF7, 0x92, 1, 128, 128, 1]) (partitionAddr 0)
    blankEntry.bytes

def goodLoad : LoadOutcome := ⟨true, true, fun _ => true⟩

/-- A proxy that has loaded the table of the primary device and has no secondary device. -/
def readyData : Data where
  iInitialised := true
  device := fun
    | .PRIMARY => (Device.iLoadFpt ⟨true, tableFlash, false, .zero, none⟩ goodLoad).1
    | .SECONDARY => ⟨false, fun _ => 0xFF, false, .zero, none⟩
  pvOsalMBoxHdl := []
  stray := false

theorem readable_tableFlash : Device.Readable tableFlash goodLoad := by decide +kernel

theorem settled_readyData : Settled readyData where
  initialised := rfl
  mbox := rfl
  loaded b hb := by
    cases b with
    | PRIMARY =>
      have hload := Device.iLoadFpt_of_readable (d := ⟨true, tableFlash, false, .zero, none⟩)
        readable_tableFlash
      have hdev : readyData.device .PRIMARY = ⟨true, tableFlash, true, headerAt tableFlash,
          some (Device.table tableFlash)⟩ := congrArg Prod.fst hload
      rw [hdev]
      obtain ⟨-, hacc, hne, -, -⟩ := readable_tableFlash
      exact ⟨rfl, hacc, hne, rfl⟩
    | SECONDARY => exact absurd hb (by decide)

/-- An update of the checksum, the size and the flags, worked on to the end. -/
def updateRun (ulFlags : UInt32) : List Action :=
  [.setFptPartition (some 7) 0 0 (some 0x5A) 0x1234 ulFlags true,
    .setFlags (.done fun _ => 0xFF), .refresh ⟨true, goodLoad⟩ true]

/-- The run with other flags ends in a state in which the update is reported and stands. -/
theorem update_with_new_flags : ∃ s, Reaches step Ok (Session.start readyData) s ∧
    Atomic s ∧ s.Quiet ∧
      (s.apc.device .PRIMARY).cached 0 = some { blankEntry with
        pdi_md5 := 0x5A
        ulPdiSize := 0x1234
        ulPartitionFlags := 1 } := by
  have hrun : (run (guarded step Ok) (Session.start readyData) (updateRun 1)).any (fun s =>
      decide (s.Quiet ∧ (s.apc.device .PRIMARY).cached 0 = some { blankEntry with
        pdi_md5 := 0x5A
        ulPdiSize := 0x1234
        ulPartitionFlags := 1 })) = true := by
    decide +kernel
  obtain ⟨s, hs, hfinal⟩ := (Option.any_eq_true _ _).mp hrun
  have hreach := Reaches.of_guarded_run _ .start hs
  exact ⟨s, hreach, metadata_atomic settled_readyData hreach, of_decide_eq_true hfinal⟩

/-- With the flags that the entry has, nothing is written: the reload takes the checksum and the
size back, and the update is reported complete. -/
theorem update_with_cached_flags_lost :
    ¬ ∀ (d : Data), Settled d → ∀ s, Reaches step always (Session.start d) s → Atomic s := by
  intro hall
  have hrun : (run step (Session.start readyData) (updateRun 0)).any (fun s =>
      s.report.any fun
        | .complete r => !decide (r.Holds (s.entries r).2)
        | .failed _ => false) = true := by
    decide +kernel
  obtain ⟨s, hs, hlost⟩ := (Option.any_eq_true _ _).mp hrun
  have hatomic := hall readyData settled_readyData s (.of_run hs)
  obtain ⟨r | r, hrep, hlost⟩ := (Option.any_eq_true _ _).mp hlost
  · rw [Bool.not_eq_true', decide_eq_false_iff_not] at hlost
    exact hlost (hatomic.complete r hrep).2
  · cases hlost

end Amr.Apc
