/-
# The paged regulator

`iISL68221_ReadVoltage`, `iISL68221_ReadCurrent` and `iISL68221_ReadTemperature`, called by any
number of tasks. A call selects its page with one locked transfer, retried as `iI2C_Send` retries,
and reads the register with another; between the two the page register belongs to everybody. A step
is one attempt of a transfer, or the return of the function that makes them.
-/
import Amr.I2c.Retry
import Amr.Lib.Transition

namespace Amr.I2c.Isl68221

open Transition

/-! ### The calls -/

/-- The three functions, by the register that they read. -/
inductive Reading where
  | OUTPUT_VOLTAGE
  | OUTPUT_CURRENT
  | READ_TEMP_HOTTEST_POWER_STAGE
  deriving DecidableEq, Repr

def ISL68221_CURRENT_SCALING_FACTOR : ℚ := 10
def MAX_ISL68221_SENSOR_PAGE : UInt8 := 3

/-- `ISL68221_SELECT_PAGE_RAIL_0` and so on, by the number of the page. -/
def select_page (ucPageNum : UInt8) : Option UInt8 :=
  match ucPageNum.toNat with
  | 0 => some 0x00
  | 1 => some 0x01
  | 2 => some 0x02
  | _ => none

/-- The arguments of a call; `out` if there is a place for the result. -/
structure Request where
  reading : Reading
  ucPageNum : UInt8
  out : Bool
  deriving DecidableEq, Repr

/-- What a valid call writes to the page register. -/
def Request.page (r : Request) : Option UInt8 :=
  if r.out ∧ r.ucPageNum < MAX_ISL68221_SENSOR_PAGE then select_page r.ucPageNum else none

def usReadData (pucReadBuf : UInt8 × UInt8) : ℕ :=
  (pucReadBuf.2.toNat <<< 8) ||| pucReadBuf.1.toNat

/-- The value handed over for the bytes of a register. -/
def value (reading : Reading) (pucReadBuf : UInt8 × UInt8) : ℚ :=
  match reading with
  | .OUTPUT_CURRENT => usReadData pucReadBuf / ISL68221_CURRENT_SCALING_FACTOR
  | _ => usReadData pucReadBuf

/-- Where a call is: in `iI2C_Send` for its page, in `iI2C_SendRecv` with the read buffer, or back,
with the value if it returned `OK`. -/
inductive Pc where
  | select (page : UInt8) (ucTryCount : ℕ) (loop : Loop)
  | read (page : UInt8) (ucTryCount : ℕ) (loop : Loop) (pucReadBuf : UInt8 × UInt8)
  | returned (result : Option ℚ)
  deriving DecidableEq

structure Task where
  request : Request
  pc : Pc
  deriving DecidableEq

/-! ### The regulator and its callers -/

/-- The page register, the enabled flag of the bus, and the last call of each task. -/
structure State (ι : Type) where
  page : UInt8
  iI2cEnabled : Bool
  task : ι → Option Task

/-- What can happen: a task makes a call, or goes on with it, where a page select that fails may
have been taken all the same; or another user of the bus leaves it enabled or disabled. -/
inductive Action (ι : Type) where
  | call (i : ι) (r : Request)
  | transfer (i : ι) (a : Attempt) (taken : Bool)
  | bus (iI2cEnabled : Bool)

def Pc.idle : Pc → Bool
  | .returned _ => true
  | _ => false

def again (ucReTryCount ucTryCount : ℕ) (l : Loop) : Bool :=
  l.active && decide (ucTryCount < ucReTryCount)

/-- The page select arrives at the regulator. -/
def wrote (a : Attempt) (taken : Bool) : Bool := begins .send a && (a.send || taken)

/-- The bytes of the register arrive in the buffer. -/
def received (a : Attempt) : Bool := begins .send_recv a && a.send && a.clear_options && a.recv

variable {ι : Type} [DecidableEq ι] (ucReTryCount : ℕ) (regs : UInt8 → Reading → UInt8 × UInt8)

def State.set (s : State ι) (i : ι) (t : Task) : State ι :=
  { s with task := Function.update s.task i (some t) }

/-- One step: the registers of the pages are `regs`. -/
def step (s : State ι) : Action ι → Option (State ι)
  | .call i r =>
    if (s.task i).all fun t => t.pc.idle then
      some (s.set i ⟨r, match r.page with
        | some p => .select p 0 (enter s.iI2cEnabled)
        | none => .returned none⟩)
    else none
  | .transfer i a taken =>
    match s.task i with
    | some ⟨r, .select p k l⟩ =>
      if again ucReTryCount k l then
        if s.iI2cEnabled then
          let l := attempt .send a { l with iI2cEnabled := true }
          some ({ s with
            page := if wrote a taken then p else s.page
            iI2cEnabled := l.iI2cEnabled }.set i ⟨r, .select p (k + 1) l⟩)
        else some (s.set i ⟨r, .select p (k + 1) l⟩)
      else some (s.set i ⟨r,
        if l.iStatus then .read p 0 (enter s.iI2cEnabled) (0, 0) else .returned none⟩)
    | some ⟨r, .read p k l buf⟩ =>
      if again ucReTryCount k l then
        if s.iI2cEnabled then
          let l := attempt .send_recv a { l with iI2cEnabled := true }
          some ({ s with iI2cEnabled := l.iI2cEnabled }.set i ⟨r, .read p (k + 1) l
            (if received a then regs s.page r.reading else buf)⟩)
        else some (s.set i ⟨r, .read p (k + 1) l buf⟩)
      else some (s.set i ⟨r, .returned (if l.iStatus then some (value r.reading buf) else none)⟩)
    | _ => none
  | .bus iI2cEnabled => some { s with iI2cEnabled := iI2cEnabled }

def State.start (page : UInt8) (iI2cEnabled : Bool) : State ι := ⟨page, iI2cEnabled, fun _ => none⟩

/-- Every call that has returned `OK` has the value of the page that it was asked for. -/
def State.Right (s : State ι) : Prop :=
  ∀ i r v, s.task i = some ⟨r, .returned (some v)⟩ →
    ∃ p, r.page = some p ∧ v = value r.reading (regs p r.reading)

/-- The page that a call counts on: it has been selected, and is still to be read. -/
def Pc.holds : Pc → Option UInt8
  | .select p _ l => if l.iStatus then some p else none
  | .read p _ _ _ => some p
  | .returned _ => none

/-- The page that the next step of a call may select. -/
def Pc.selects : Pc → Option UInt8
  | .select p k l => if again ucReTryCount k l then some p else none
  | _ => none

/-- A page is selected only while no other call counts on another one. -/
def Ok (s : State ι) : Action ι → Prop
  | .transfer i _ _ => ∀ p ∈ (s.task i).bind fun t => t.pc.selects ucReTryCount,
      ∀ j, j ≠ i → ∀ q ∈ (s.task j).bind fun t => t.pc.holds, q = p
  | _ => True

instance [Fintype ι] (s : State ι) (a : Action ι) : Decidable (Ok ucReTryCount s a) := by
  cases a <;> unfold Ok <;> infer_instance

/-! ### The invariant -/

/-- What a call has reached: it works on the page of its request, and its buffer, once filled by a
completed transfer, is that page's register. -/
def Task.Good (t : Task) : Prop :=
  match t.pc with
  | .select p _ _ => t.request.page = some p
  | .read p _ l buf => t.request.page = some p ∧
      (l.iStatus = true → buf = regs p t.request.reading)
  | .returned result => ∀ v ∈ result, ∃ p, t.request.page = some p ∧
      v = value t.request.reading (regs p t.request.reading)

/-- The invariant of the runs: the page register holds what a call counts on. -/
structure Inv (s : State ι) : Prop where
  good : ∀ i t, s.task i = some t → t.Good regs
  page : ∀ i t q, s.task i = some t → t.pc.holds = some q → s.page = q

variable {ucReTryCount regs} {s s' : State ι}

theorem Inv.set {s s' : State ι} (hs : Inv regs s) {i : ι} {t : Task}
    (htask : s'.task = Function.update s.task i (some t)) (hgood : t.Good regs)
    (hpage : ∀ q, t.pc.holds = some q → s'.page = q)
    (hothers : s'.page = s.page ∨ ∀ j t' q, j ≠ i → s.task j = some t' →
      t'.pc.holds = some q → s'.page = q) : Inv regs s' := by
  have hcases : ∀ j t', s'.task j = some t' → j = i ∧ t' = t ∨ j ≠ i ∧ s.task j = some t' := by
    intro j t' hj
    rw [htask] at hj
    by_cases hji : j = i
    · subst hji
      rw [Function.update_self] at hj
      exact .inl ⟨rfl, (Option.some.inj hj).symm⟩
    · rw [Function.update_of_ne hji] at hj
      exact .inr ⟨hji, hj⟩
  constructor
  · intro j t' hj
    rcases hcases j t' hj with ⟨-, rfl⟩ | ⟨-, hj⟩
    · exact hgood
    · exact hs.good j t' hj
  · intro j t' q hj hq
    rcases hcases j t' hj with ⟨-, rfl⟩ | ⟨hji, hj⟩
    · exact hpage q hq
    · rcases hothers with hsame | hothers
      · exact hsame.trans (hs.page j t' q hj hq)
      · exact hothers j t' q hji hj hq

theorem iStatus_attempt {f : Fn} {a : Attempt} {l : Loop}
    (h : (attempt f a { l with iI2cEnabled := true }).iStatus = true) :
    l.iStatus = true ∨ completes f a = true := by
  cases htake : a.mutex_take with
  | false =>
    rw [attempt_untaken htake] at h
    exact .inl h
  | true =>
    rw [(attempt_effect htake rfl).status] at h
    simpa using (Bool.and_eq_true_iff.mp h).2

theorem wrote_of_completes {a : Attempt} {taken : Bool} (h : completes .send a = true) :
    wrote a taken = true := by
  simp_all [completes, wrote]

theorem received_of_completes {a : Attempt} (h : completes .send_recv a = true) :
    received a = true := by
  simp_all [completes, received]

theorem Inv.call (hs : Inv regs s) {i : ι} {r : Request}
    (h : step ucReTryCount regs s (.call i r) = some s') : Inv regs s' := by
  rw [step] at h
  split_ifs at h
  obtain rfl := Option.some.inj h
  cases hr : r.page with
  | none => exact hs.set rfl nofun nofun (.inl rfl)
  | some p => exact hs.set rfl hr nofun (.inl rfl)

theorem Inv.transfer (hs : Inv regs s) {i : ι} {a : Attempt} {taken : Bool}
    (hok : Ok ucReTryCount s (.transfer i a taken))
    (h : step ucReTryCount regs s (.transfer i a taken) = some s') : Inv regs s' := by
  rw [step] at h
  split at h
  · next r p k l hi =>
    have hgood := hs.good i _ hi
    have hpage := fun q => hs.page i _ q hi
    by_cases hagain : again ucReTryCount k l = true
    · rw [if_pos hagain] at h
      by_cases henabled : s.iI2cEnabled = true
      · rw [if_pos henabled] at h
        obtain rfl := Option.some.inj h
        refine hs.set rfl hgood (fun q hq => ?_) ?_
        · obtain ⟨hstatus, hpq⟩ := Option.ite_none_right_eq_some.mp hq
          obtain rfl := Option.some.inj hpq
          change (if wrote a taken then p else s.page) = p
          rcases iStatus_attempt hstatus with hl | hdone
          · rw [hpage p (if_pos hl), ite_self]
          · rw [wrote_of_completes hdone, if_pos rfl]
        · change (if wrote a taken then p else s.page) = s.page ∨ ∀ j t' q, j ≠ i →
            s.task j = some t' → t'.pc.holds = some q → (if wrote a taken then p else s.page) = q
          cases wrote a taken with
          | false => exact .inl rfl
          | true =>
            have hselects : p ∈ (s.task i).bind fun t => t.pc.selects ucReTryCount := by
              rw [hi]
              exact if_pos hagain
            refine .inr fun j t' q hj ht' hq => (hok p hselects j hj q ?_).symm
            rw [ht']
            exact hq
      · rw [if_neg henabled] at h
        obtain rfl := Option.some.inj h
        exact hs.set rfl hgood hpage (.inl rfl)
    · rw [if_neg hagain] at h
      by_cases hstatus : l.iStatus = true
      · rw [if_pos hstatus] at h
        obtain rfl := Option.some.inj h
        exact hs.set rfl ⟨hgood, nofun⟩ (fun q hq => hpage q ((if_pos hstatus).trans hq)) (.inl rfl)
      · rw [if_neg hstatus] at h
        obtain rfl := Option.some.inj h
        exact hs.set rfl nofun nofun (.inl rfl)
  · next r p k l buf hi =>
    obtain ⟨hreq, hbuf⟩ := hs.good i _ hi
    have hpage : ∀ q, some p = some q → s.page = q := fun q => hs.page i _ q hi
    by_cases hagain : again ucReTryCount k l = true
    · rw [if_pos hagain] at h
      by_cases henabled : s.iI2cEnabled = true
      · rw [if_pos henabled] at h
        obtain rfl := Option.some.inj h
        refine hs.set rfl ⟨hreq, fun hstatus => ?_⟩ hpage (.inl rfl)
        change (if received a then regs s.page r.reading else buf) = regs p r.reading
        rw [hpage p rfl]
        rcases iStatus_attempt hstatus with hl | hdone
        · rw [hbuf hl, ite_self]
        · rw [received_of_completes hdone, if_pos rfl]
      · rw [if_neg henabled] at h
        obtain rfl := Option.some.inj h
        exact hs.set rfl ⟨hreq, hbuf⟩ hpage (.inl rfl)
    · rw [if_neg hagain] at h
      obtain rfl := Option.some.inj h
      refine hs.set rfl (fun v hv => ?_) nofun (.inl rfl)
      obtain ⟨hstatus, hv⟩ := Option.ite_none_right_eq_some.mp hv
      exact ⟨p, hreq, by rw [← Option.some.inj hv, hbuf hstatus]⟩
  · cases h

theorem Inv.step (hs : Inv regs s) {a : Action ι} (hok : Ok ucReTryCount s a)
    (h : Isl68221.step ucReTryCount regs s a = some s') : Inv regs s' := by
  cases a with
  | call i r => exact hs.call h
  | transfer i a taken => exact hs.transfer hok h
  | bus b =>
    obtain rfl := Option.some.inj h
    exact ⟨hs.good, hs.page⟩

variable (ucReTryCount regs)

/-- **In every run in which a page is selected only while no other call counts on another one**, a
call that returns `OK` has the value of its page. -/
theorem reading_of_page {page : UInt8} {b : Bool}
    (hs : Reaches (step ucReTryCount regs) (Ok ucReTryCount) (State.start page b) s) :
    s.Right regs := by
  have hstart : Inv regs (State.start page b : State ι) :=
    ⟨fun _ _ h => absurd h.symm (Option.some_ne_none _),
      fun _ _ _ h => absurd h.symm (Option.some_ne_none _)⟩
  have hinv : Inv regs s := hs.invariant (Inv regs) hstart fun _ _ _ hI hok h => hI.step hok h
  exact fun i r v hi => hinv.good i _ hi v rfl

def attemptFine : Attempt :=
  ⟨true, true, ⟨true, [false], false, true⟩, true, true, true, ⟨true, [false], false, true⟩, true,
    true, true⟩

/-- Pages whose voltages are their numbers. -/
def numbered : UInt8 → Reading → UInt8 × UInt8 := fun p _ => (p, 0)

def inTurn : List (Action Bool) :=
  .call false ⟨.OUTPUT_VOLTAGE, 1, true⟩ ::
    (List.replicate 4 (.transfer false attemptFine false) ++
      .call true ⟨.OUTPUT_VOLTAGE, 2, true⟩ ::
        List.replicate 4 (.transfer true attemptFine false))

theorem reading_of_page_two : ∃ s : State Bool,
    s.task true = some ⟨⟨.OUTPUT_VOLTAGE, 2, true⟩, .returned (some 2)⟩ ∧ s.Right numbered := by
  have hrun : (run (guarded (step 3 numbered) (Ok 3)) (State.start 0 true) inTurn).any (fun s =>
      decide (s.task true = some ⟨⟨.OUTPUT_VOLTAGE, 2, true⟩, .returned (some 2)⟩)) = true := by
    decide +kernel
  obtain ⟨s, hs, hfinal⟩ := (Option.any_eq_true _ _).mp hrun
  exact ⟨s, of_decide_eq_true hfinal,
    reading_of_page 3 numbered (Reaches.of_guarded_run _ .start hs)⟩

/-- Page 2 is selected between the selection of page 1 and its reading. -/
def between : List (Action Bool) :=
  [.call false ⟨.OUTPUT_VOLTAGE, 1, true⟩, .transfer false attemptFine false,
    .call true ⟨.OUTPUT_VOLTAGE, 2, true⟩, .transfer true attemptFine false,
    .transfer false attemptFine false, .transfer false attemptFine false,
    .transfer false attemptFine false]

/-- The call for page 1 returns the value of page 2. -/
theorem page_selected_between : ¬ ∀ s : State Bool,
    Reaches (step 3 numbered) always (State.start 0 true) s → s.Right numbered := by
  intro hall
  have hrun : (run (step 3 numbered) (State.start 0 true) between).any (fun s =>
      decide (s.task false = some ⟨⟨.OUTPUT_VOLTAGE, 1, true⟩, .returned (some 2)⟩)) = true := by
    decide +kernel
  obtain ⟨s, hs, hwrong⟩ := (Option.any_eq_true _ _).mp hrun
  obtain ⟨p, hp, hv⟩ := hall s (.of_run hs) false _ 2 (of_decide_eq_true hwrong)
  obtain rfl : 1 = p := Option.some.inj hp
  exact absurd hv (by decide +kernel)

end Amr.I2c.Isl68221
