/-
# Page access to the external modules

`axc_proxy_driver.c`: `iAXC_GetByte`, `iAXC_SetByte` and `iAXC_GetPage`, called by any number of
tasks. A call for an upper page selects the page and then accesses it, and each of the two steps
takes and releases the mutex of the proxy driver, so that calls of other tasks come in between.

A call reads or writes what it asks for as long as no other call writes another value to the
page-select byte of the module between its two steps, the page fits into that byte, and the module
has pages.
-/
import Amr.Muxed.Device
import Amr.Lib.Transition

namespace Amr.Axc

open Transition Muxed

def AXC_LOWER_PAGE_SIZE : ℕ := 128
def AXC_UPPER_PAGE_SIZE : ℕ := 128
def AXC_PAGE_SIZE : ℕ := 256
def AXC_PAGE_SELECT_BYTE : ℕ := 127
def AXC_UPPER_PAGE_START_INDEX : ℕ := 128

/-! ### Modules -/

/-- A byte of the memory map of a module. -/
inductive Addr
  | lower (ulByteOffset : ℕ)
  | upper (ulPage ulByteOffset : ℕ)
  deriving DecidableEq, Repr

/-- The byte with which the upper page is selected. -/
def pageSelect : Addr := .lower AXC_PAGE_SELECT_BYTE

abbrev Memory := Addr → UInt8

/-- The byte that an access at an offset reaches. -/
def Memory.reached (m : Memory) (ulByteOffset : ℕ) : Addr :=
  if ulByteOffset < AXC_LOWER_PAGE_SIZE then .lower ulByteOffset
  else .upper (m pageSelect).toNat ulByteOffset

inductive Request
  | GetByte (ucExDeviceId : UInt8) (ulPage ulByteOffset : ℕ)
  | SetByte (ucExDeviceId : UInt8) (ulPage ulByteOffset : ℕ) (ucValue : UInt8)
  | GetPage (ucExDeviceId : UInt8) (ulPage : ℕ)
  deriving DecidableEq, Repr

namespace Request

def ucExDeviceId : Request → UInt8
  | .GetByte ucExDeviceId .. | .SetByte ucExDeviceId .. | .GetPage ucExDeviceId _ => ucExDeviceId

def ulPage : Request → ℕ
  | .GetByte _ ulPage _ | .SetByte _ ulPage .. | .GetPage _ ulPage => ulPage

/-- The call writes the byte that it is for. -/
def sets : Request → Bool
  | .SetByte .. => true
  | _ => false

def offsets : Request → List ℕ
  | .GetByte _ _ ulByteOffset | .SetByte _ _ ulByteOffset _ => [ulByteOffset]
  | .GetPage .. => (List.range AXC_UPPER_PAGE_SIZE).map (AXC_UPPER_PAGE_START_INDEX + ·)

/-- The call is for a byte of the lower page, which is not selected. -/
def lower : Request → Bool
  | .GetByte _ ulPage ulByteOffset | .SetByte _ ulPage ulByteOffset _ =>
    decide (ulByteOffset < AXC_LOWER_PAGE_SIZE) && decide (ulPage = 0)
  | .GetPage .. => false

def upper : Request → Bool
  | .GetByte _ _ ulByteOffset | .SetByte _ _ ulByteOffset _ =>
    decide (AXC_LOWER_PAGE_SIZE ≤ ulByteOffset) && decide (ulByteOffset < AXC_PAGE_SIZE)
  | .GetPage .. => true

def asks (r : Request) : List Addr :=
  r.offsets.map fun ulByteOffset => if r.lower then .lower ulByteOffset
    else .upper r.ulPage ulByteOffset

end Request

/-- One section under the mutex: whether the mutex is taken, the hardware level is set, the transfer
takes place, the interface reports success, and the mutex is released. -/
structure Section where
  taken : Bool
  ioctrl : Bool
  applied : Bool
  ok : Bool
  released : Bool
  deriving DecidableEq, Repr

namespace Section

/-- A write takes place. `ulQsfpWrite` does nothing for a DIMM, and a write that is reported as a
success has taken place. -/
def writes (x : Section) (xDevice : FW_IF_DEVICE_TYPE) : Bool :=
  x.taken && x.ioctrl && decide (xDevice = .QSFP) && (x.ok || x.applied)

/-- The section with a write has the status `OK`. -/
def written (x : Section) (xDevice : FW_IF_DEVICE_TYPE) : Bool :=
  x.taken && x.ioctrl && (decide (xDevice = .DIMM) || x.ok) && x.released

/-- The section with a read has the status `OK`. -/
def read (x : Section) : Bool := x.taken && x.ioctrl && x.ok && x.released

end Section

/-! ### Tasks -/

structure Pending (n : ℕ) where
  request : Request
  pxExDev : Fin n
  /-- The page is still to be selected. -/
  selecting : Bool
  /-- The bytes of the module that the call has written. -/
  wrote : List (Addr × UInt8)

structure Report where
  request : Request
  /-- The status is `OK`. -/
  ok : Bool
  /-- The bytes that it returns. -/
  pucValue : List UInt8
  /-- The bytes of the module that it has written. -/
  wrote : List (Addr × UInt8)
  /-- The memory map of the module at the access. -/
  memory : Memory

variable {n k : ℕ}

/-- `n` modules and `k` tasks. -/
structure Session (n k : ℕ) where
  ucExDeviceId : Fin n → UInt8
  xDevice : Fin n → FW_IF_DEVICE_TYPE
  memory : Fin n → Memory
  tasks : Fin k → Option (Pending n)
  reports : List Report

inductive Action (k : ℕ)
  /-- A task calls one of the functions. -/
  | call (t : Fin k) (r : Request)
  /-- The page of a call is selected. -/
  | select (t : Fin k) (x : Section)
  /-- The access of a call. -/
  | access (t : Fin k) (x : Section)
  /-- The temperature task reads a module. -/
  | temperature

namespace Session

def start (ucExDeviceId : Fin n → UInt8) (xDevice : Fin n → FW_IF_DEVICE_TYPE)
    (memory : Fin n → Memory) : Session n k :=
  ⟨ucExDeviceId, xDevice, memory, fun _ => none, []⟩

def iGetExDevFromList (s : Session n k) (ucExDeviceId : UInt8) : Option (Fin n) :=
  (List.finRange n).find? fun i => decide (s.ucExDeviceId i = ucExDeviceId)

def pend (s : Session n k) (t : Fin k) (p : Pending n) : Session n k :=
  { s with tasks := Function.update s.tasks t (some p) }

def finish (s : Session n k) (t : Fin k) (r : Report) : Session n k :=
  { s with tasks := Function.update s.tasks t none, reports := s.reports ++ [r] }

def write (s : Session n k) (i : Fin n) (a : Addr) (v : UInt8) : Session n k :=
  { s with memory := Function.update s.memory i (Function.update (s.memory i) a v) }

def call (s : Session n k) (t : Fin k) (r : Request) : Session n k :=
  match s.iGetExDevFromList r.ucExDeviceId with
  | some i =>
    if r.lower then s.pend t ⟨r, i, false, []⟩
    else if r.upper then s.pend t ⟨r, i, true, []⟩
    else s.finish t ⟨r, false, [], [], s.memory i⟩
  | none => s.finish t ⟨r, false, [], [], fun _ => 0⟩

/-- The value that selects the page of a call. -/
def page (p : Pending n) : UInt8 := UInt8.ofNat p.request.ulPage

def selectWrite (s : Session n k) (p : Pending n) (x : Section) : List (Addr × UInt8) :=
  if x.writes (s.xDevice p.pxExDev) then [(pageSelect, page p)] else []

def accessWrite (s : Session n k) (p : Pending n) (x : Section) : List (Addr × UInt8) :=
  match p.request with
  | .SetByte _ _ ulByteOffset ucValue =>
    if x.writes (s.xDevice p.pxExDev) then
      [((s.memory p.pxExDev).reached ulByteOffset, ucValue)]
    else []
  | _ => []

def writeAll (s : Session n k) (i : Fin n) (l : List (Addr × UInt8)) : Session n k :=
  l.foldl (fun s w => s.write i w.1 w.2) s

def select (s : Session n k) (t : Fin k) (p : Pending n) (x : Section) : Session n k :=
  if x.written (s.xDevice p.pxExDev) then
    (s.writeAll p.pxExDev (s.selectWrite p x)).pend t
      { p with selecting := false, wrote := p.wrote ++ s.selectWrite p x }
  else
    (s.writeAll p.pxExDev (s.selectWrite p x)).finish t
      ⟨p.request, false, [], p.wrote ++ s.selectWrite p x, s.memory p.pxExDev⟩

def accessOk (s : Session n k) (p : Pending n) (x : Section) : Bool :=
  match p.request with
  | .SetByte .. => x.written (s.xDevice p.pxExDev)
  | _ => x.read

/-- The bytes that the second section reads. -/
def accessValue (s : Session n k) (p : Pending n) : List UInt8 :=
  match p.request with
  | .SetByte .. => []
  | _ => p.request.offsets.map fun o => s.memory p.pxExDev ((s.memory p.pxExDev).reached o)

def access (s : Session n k) (t : Fin k) (p : Pending n) (x : Section) : Session n k :=
  (s.writeAll p.pxExDev (s.accessWrite p x)).finish t
    ⟨p.request, s.accessOk p x, s.accessValue p, p.wrote ++ s.accessWrite p x,
      s.memory p.pxExDev⟩

end Session

def step (s : Session n k) : Action k → Option (Session n k)
  | .call t r => if (s.tasks t).isNone then some (s.call t r) else none
  | .select t x =>
    match s.tasks t with
    | some p => if p.selecting then some (s.select t p x) else none
    | none => none
  | .access t x =>
    match s.tasks t with
    | some p => if p.selecting then none else some (s.access t p x)
    | none => none
  | .temperature => some s

/-! ### What the calls are to do -/

def Selects (w : Addr × UInt8) : Prop := w.1 = pageSelect

instance (w : Addr × UInt8) : Decidable (Selects w) := by unfold Selects; infer_instance

/-- A call with the status `OK` has read or written what it asks for, and else only selected a page;
a call that fails has at most selected a page. -/
def Report.Right (r : Report) : Prop :=
  if r.ok then
    match r.request with
    | .SetByte _ _ _ ucValue =>
      r.wrote.getLast? = r.request.asks.head?.map (·, ucValue) ∧ ∀ w ∈ r.wrote.dropLast, Selects w
    | _ => r.pucValue = r.request.asks.map r.memory ∧ ∀ w ∈ r.wrote, Selects w
  else ∀ w ∈ r.wrote, Selects w

instance (r : Report) : Decidable r.Right := by
  unfold Report.Right
  cases r.request <;> infer_instance

/-- The call `p` is between the selection of its page and the access to it. -/
def Selected (p : Pending n) : Prop := p.selecting = false ∧ p.request.lower = false

/-- Every other call that is between its two steps has selected the page that is now selected. -/
def Undisturbed (s : Session n k) (t : Fin k) (i : Fin n) (l : List (Addr × UInt8)) : Prop :=
  ∀ w ∈ l, Selects w → ∀ u, u ≠ t → ∀ p ∈ s.tasks u, p.pxExDev = i → Selected p →
    Session.page p = w.2

/-- An access that succeeds for an upper page is made to a QSFP module, for a page that the
page-select byte can hold, and so is a write; a write that fails has not taken place, unless it is
one to the page-select byte. -/
def AccessOk (s : Session n k) (p : Pending n) (x : Section) : Prop :=
  if s.accessOk p x then
    (p.request.lower = false ∨ p.request.sets = true → s.xDevice p.pxExDev = .QSFP) ∧
      (p.request.lower = false → p.request.ulPage < 256)
  else ∀ w ∈ s.accessWrite p x, Selects w

/-- The steps after which the calls are right. -/
def Ok (s : Session n k) : Action k → Prop
  | .call .. => True
  | .select t x => ∀ p ∈ s.tasks t, Undisturbed s t p.pxExDev (s.selectWrite p x)
  | .access t x => ∀ p ∈ s.tasks t,
    Undisturbed s t p.pxExDev (s.accessWrite p x) ∧ AccessOk s p x
  | .temperature => True

instance (p : Pending n) : Decidable (Selected p) := by unfold Selected; infer_instance

instance (s : Session n k) (t : Fin k) (i : Fin n) (l : List (Addr × UInt8)) :
    Decidable (Undisturbed s t i l) := by
  unfold Undisturbed; infer_instance

instance (s : Session n k) (p : Pending n) (x : Section) : Decidable (AccessOk s p x) := by
  unfold AccessOk; infer_instance

instance (s : Session n k) (a : Action k) : Decidable (Ok s a) := by
  cases a <;> unfold Ok <;> infer_instance

/-! ### The bytes that an access reaches -/

/-- The call is for the lower page or for an upper one. -/
def Request.Valid (r : Request) : Prop := r.lower = true ∨ r.upper = true

theorem Request.lower_offsets {r : Request} (h : r.lower = true) :
    ∀ o ∈ r.offsets, o < AXC_LOWER_PAGE_SIZE := by
  cases r with
  | GetByte ucExDeviceId ulPage ulByteOffset =>
    simp only [Request.lower, Bool.and_eq_true, decide_eq_true_eq] at h
    simpa [Request.offsets] using h.1
  | SetByte ucExDeviceId ulPage ulByteOffset ucValue =>
    simp only [Request.lower, Bool.and_eq_true, decide_eq_true_eq] at h
    simpa [Request.offsets] using h.1
  | GetPage ucExDeviceId ulPage => cases h

theorem Request.upper_offsets {r : Request} (h : r.upper = true) :
    ∀ o ∈ r.offsets, AXC_LOWER_PAGE_SIZE ≤ o := by
  cases r with
  | GetByte ucExDeviceId ulPage ulByteOffset =>
    simp only [Request.upper, Bool.and_eq_true, decide_eq_true_eq] at h
    simpa [Request.offsets] using h.1
  | SetByte ucExDeviceId ulPage ulByteOffset ucValue =>
    simp only [Request.upper, Bool.and_eq_true, decide_eq_true_eq] at h
    simpa [Request.offsets] using h.1
  | GetPage ucExDeviceId ulPage =>
    intro o ho
    obtain ⟨j, -, rfl⟩ := List.mem_map.mp ho
    simp [AXC_LOWER_PAGE_SIZE, AXC_UPPER_PAGE_START_INDEX]

theorem reached_eq_asks {p : Pending n} {m : Memory} (hvalid : p.request.Valid)
    (hpage : p.request.lower = false → m pageSelect = Session.page p ∧ p.request.ulPage < 256) :
    p.request.offsets.map m.reached = p.request.asks := by
  unfold Request.asks
  refine List.map_congr_left fun o ho => ?_
  rcases hlower : p.request.lower with _ | _
  · obtain ⟨hselect, hbyte⟩ := hpage hlower
    have hupper : p.request.upper = true := by
      rcases hvalid with h | h
      · rw [hlower] at h
        cases h
      · exact h
    have hoffset := Request.upper_offsets hupper o ho
    have hnat : (Session.page p).toNat = p.request.ulPage := by
      simp only [Session.page, UInt8.toNat_ofNat']
      omega
    simp [Memory.reached, Nat.not_lt.mpr hoffset, hselect, hnat]
  · have hoffset := Request.lower_offsets hlower o ho
    simp [Memory.reached, hoffset]

/-! ### Writes -/

section Writes

variable (s : Session n k) (i : Fin n) (l : List (Addr × UInt8))

@[simp] theorem Session.writeAll_tasks : (s.writeAll i l).tasks = s.tasks := by
  induction l generalizing s with
  | nil => rfl
  | cons w l ih => exact ih (s.write i w.1 w.2)

@[simp] theorem Session.writeAll_xDevice : (s.writeAll i l).xDevice = s.xDevice := by
  induction l generalizing s with
  | nil => rfl
  | cons w l ih => exact ih (s.write i w.1 w.2)

@[simp] theorem Session.writeAll_reports : (s.writeAll i l).reports = s.reports := by
  induction l generalizing s with
  | nil => rfl
  | cons w l ih => exact ih (s.write i w.1 w.2)

theorem Session.writeAll_pageSelect {j : Fin n} {v : UInt8}
    (hl : ∀ w ∈ l, Selects w → j = i → w.2 = v)
    (h : s.memory j pageSelect = v ∨ ∃ w ∈ l, Selects w ∧ j = i) :
    (s.writeAll i l).memory j pageSelect = v := by
  induction l generalizing s with
  | nil =>
    rcases h with h | ⟨w, hw, -⟩
    · exact h
    · cases hw
  | cons w l ih =>
    refine ih (s.write i w.1 w.2) (fun w' hw' => hl w' (List.mem_cons_of_mem _ hw')) ?_
    by_cases hw : Selects w ∧ j = i
    · -- this write selects the page
      obtain ⟨hselects, rfl⟩ := hw
      left
      rw [← hl w List.mem_cons_self hselects rfl]
      unfold Selects at hselects
      simp [Session.write, ← hselects]
    · rcases h with h | ⟨w', hw', hselects⟩
      · left
        by_cases hji : j = i
        · subst hji
          have hne : pageSelect ≠ w.1 := fun heq => hw ⟨heq.symm, rfl⟩
          simp [Session.write, Function.update_of_ne hne, h]
        · simp [Session.write, Function.update_of_ne hji, h]
      · rcases List.mem_cons.mp hw' with rfl | hw'
        · exact absurd hselects hw
        · exact .inr ⟨w', hw', hselects⟩

end Writes

/-! ### A run -/

/-- What holds of a call under way: it has written no byte but the page-select byte, and the page of
a module that it has selected is still selected. -/
structure Kept (s : Session n k) (p : Pending n) : Prop where
  valid : p.request.Valid
  wrote : ∀ w ∈ p.wrote, Selects w
  page : Selected p → s.xDevice p.pxExDev = .QSFP →
    s.memory p.pxExDev pageSelect = Session.page p

structure Inv (s : Session n k) : Prop where
  tasks : ∀ t, ∀ p ∈ s.tasks t, Kept s p
  reports : ∀ r ∈ s.reports, r.Right

theorem inv_start (ucExDeviceId : Fin n → UInt8) (xDevice : Fin n → FW_IF_DEVICE_TYPE)
    (memory : Fin n → Memory) : Inv (Session.start ucExDeviceId xDevice memory : Session n k) where
  tasks _ _ h := nomatch h
  reports _ h := absurd h List.not_mem_nil

variable {s : Session n k}

theorem Kept.writeAll {t u : Fin k} {i : Fin n} {l : List (Addr × UInt8)}
    {p : Pending n} (h : Kept s p) (hu : u ≠ t) (hp : p ∈ s.tasks u)
    (hl : Undisturbed s t i l) : Kept (s.writeAll i l) p where
  valid := h.valid
  wrote := h.wrote
  page hselected hdevice := by
    rw [Session.writeAll_xDevice] at hdevice
    refine s.writeAll_pageSelect i l (fun w hw hselects hi => ?_) (.inl (h.page hselected hdevice))
    exact (hl w hw hselects u hu p hp hi hselected).symm

theorem Inv.pend {t : Fin k} {p : Pending n}
    (hothers : ∀ u, u ≠ t → ∀ q ∈ s.tasks u, Kept s q) (hp : Kept s p)
    (hreports : ∀ r ∈ s.reports, r.Right) : Inv (s.pend t p) where
  tasks u q hq := by
    by_cases hu : u = t
    · subst hu
      obtain rfl : p = q := by simpa [Session.pend] using hq
      exact ⟨hp.valid, hp.wrote, hp.page⟩
    · have hq : q ∈ s.tasks u := by simpa [Session.pend, hu] using hq
      obtain ⟨hvalid, hwrote, hpage⟩ := hothers u hu q hq
      exact ⟨hvalid, hwrote, hpage⟩
  reports := hreports

theorem Inv.finish {t : Fin k} {r : Report}
    (hothers : ∀ u, u ≠ t → ∀ q ∈ s.tasks u, Kept s q) (hr : r.Right)
    (hreports : ∀ r ∈ s.reports, r.Right) : Inv (s.finish t r) where
  tasks u q hq := by
    by_cases hu : u = t
    · subst hu
      simp [Session.finish] at hq
    · have hq : q ∈ s.tasks u := by simpa [Session.finish, hu] using hq
      obtain ⟨hvalid, hwrote, hpage⟩ := hothers u hu q hq
      exact ⟨hvalid, hwrote, hpage⟩
  reports r' hr' := by
    rcases List.mem_append.mp hr' with hr' | hr'
    · exact hreports r' hr'
    · obtain rfl := List.mem_singleton.mp hr'
      exact hr

theorem Report.right_of_failed {r : Report} (hok : r.ok = false)
    (hwrote : ∀ w ∈ r.wrote, Selects w) : r.Right := by
  unfold Report.Right
  rw [if_neg (by simp [hok])]
  exact hwrote

theorem Inv.call (h : Inv s) (t : Fin k) (r : Request) : Inv (s.call t r) := by
  have hothers : ∀ u, u ≠ t → ∀ q ∈ s.tasks u, Kept s q := fun u _ q hq => h.tasks u q hq
  have hnone : ∀ w ∈ ([] : List (Addr × UInt8)), Selects w := fun w hw => absurd hw List.not_mem_nil
  unfold Session.call
  rcases s.iGetExDevFromList r.ucExDeviceId with _ | i
  · exact Inv.finish hothers (Report.right_of_failed rfl hnone) h.reports
  · dsimp only
    split_ifs with hlower hupper
    · refine Inv.pend hothers ⟨.inl hlower, hnone, fun hselected => ?_⟩ h.reports
      have hnot : r.lower = false := hselected.2
      rw [hlower] at hnot
      cases hnot
    · exact Inv.pend hothers ⟨.inr hupper, hnone, fun hselected => nomatch hselected.1⟩ h.reports
    · exact Inv.finish hothers (Report.right_of_failed rfl hnone) h.reports

theorem Session.selectWrite_selects (s : Session n k) (p : Pending n) (x : Section) :
    ∀ w ∈ s.selectWrite p x, Selects w := by
  unfold Session.selectWrite
  split_ifs
  · intro w hw
    obtain rfl := List.mem_singleton.mp hw
    rfl
  · exact fun w hw => absurd hw List.not_mem_nil

theorem Inv.select (h : Inv s) {t : Fin k} {p : Pending n} (hp : p ∈ s.tasks t)
    (x : Section) (hok : Undisturbed s t p.pxExDev (s.selectWrite p x)) :
    Inv (s.select t p x) := by
  have hothers : ∀ u, u ≠ t → ∀ q ∈ (s.writeAll p.pxExDev (s.selectWrite p x)).tasks u,
      Kept (s.writeAll p.pxExDev (s.selectWrite p x)) q := by
    intro u hu q hq
    rw [Session.writeAll_tasks] at hq
    exact (h.tasks u q hq).writeAll hu hq hok
  have hreports : ∀ r ∈ (s.writeAll p.pxExDev (s.selectWrite p x)).reports, r.Right := by
    rw [Session.writeAll_reports]
    exact h.reports
  have hwrote : ∀ w ∈ p.wrote ++ s.selectWrite p x, Selects w := by
    intro w hw
    rcases List.mem_append.mp hw with hw | hw
    · exact (h.tasks t p hp).wrote w hw
    · exact s.selectWrite_selects p x w hw
  unfold Session.select
  split_ifs with hwritten
  · refine Inv.pend hothers ⟨(h.tasks t p hp).valid, hwrote, fun _ hdevice => ?_⟩ hreports
    -- the page has been written to the byte
    rw [Session.writeAll_xDevice] at hdevice
    have hwrites : x.writes (s.xDevice p.pxExDev) = true := by
      simp only [Section.written, Section.writes, hdevice] at hwritten ⊢
      simp only [reduceCtorEq, decide_false, Bool.false_or, Bool.and_eq_true] at hwritten
      simp [hwritten.1.1.1, hwritten.1.1.2, hwritten.1.2]
    have hwrite : s.selectWrite p x = [(pageSelect, Session.page p)] := if_pos hwrites
    refine s.writeAll_pageSelect _ _ (fun w hw _ _ => ?_) 
      (.inr ⟨(pageSelect, Session.page p), ?_, rfl, rfl⟩)
    · rw [hwrite] at hw
      obtain rfl := List.mem_singleton.mp hw
      rfl
    · rw [hwrite]
      exact List.mem_singleton_self _
  · exact Inv.finish hothers (Report.right_of_failed rfl hwrote) hreports

theorem access_right {p : Pending n} (h : Kept s p)
    (hselecting : p.selecting = false) {x : Section} (hok : AccessOk s p x) :
    Report.Right ⟨p.request, s.accessOk p x, s.accessValue p, p.wrote ++ s.accessWrite p x,
      s.memory p.pxExDev⟩ := by
  unfold AccessOk at hok
  unfold Report.Right
  split_ifs at hok with hstatus
  · obtain ⟨hdevice, hpage⟩ := hok
    have hreached := reached_eq_asks (m := s.memory p.pxExDev) h.valid fun hlower =>
      ⟨h.page ⟨hselecting, hlower⟩ (hdevice (.inl hlower)), hpage hlower⟩
    rw [if_pos hstatus]
    rcases hrequest : p.request with ⟨id, page, offset⟩ | ⟨id, page, offset, value⟩ | ⟨id, page⟩
    · rw [hrequest] at hreached
      refine ⟨?_, ?_⟩
      · simp only [Session.accessValue, hrequest, ← hreached, List.map_map]
        rfl
      · simpa [Session.accessWrite, hrequest] using h.wrote
    · have hqsfp : s.xDevice p.pxExDev = .QSFP := hdevice (.inr (by rw [hrequest]; rfl))
      have hwrites : x.writes (s.xDevice p.pxExDev) = true := by
        simp only [Session.accessOk, hrequest, Section.written, hqsfp, reduceCtorEq, decide_false,
          Bool.false_or, Bool.and_eq_true] at hstatus
        simp [Section.writes, hqsfp, hstatus.1.1.1, hstatus.1.1.2, hstatus.1.2]
      have hwrite : s.accessWrite p x =
          [((s.memory p.pxExDev).reached offset, value)] := by
        simp only [Session.accessWrite, hrequest]
        exact if_pos hwrites
      rw [hrequest] at hreached
      simp only [hwrite]
      refine ⟨?_, ?_⟩
      · rw [List.getLast?_append, ← hreached]
        rfl
      · rw [List.dropLast_concat]
        exact h.wrote
    · rw [hrequest] at hreached
      refine ⟨?_, ?_⟩
      · simp only [Session.accessValue, hrequest, ← hreached, List.map_map]
        rfl
      · simpa [Session.accessWrite, hrequest] using h.wrote
  · rw [if_neg hstatus]
    intro w hw
    rcases List.mem_append.mp hw with hw | hw
    · exact h.wrote w hw
    · exact hok w hw

theorem Inv.step {s s' : Session n k} {a : Action k} (h : Inv s) (hok : Ok s a)
    (hs : step s a = some s') : Inv s' := by
  cases a with
  | call t r =>
    simp only [Axc.step] at hs
    split_ifs at hs
    obtain rfl := Option.some.inj hs
    exact h.call t r
  | select t x =>
    rcases hp : s.tasks t with _ | p <;> simp only [Axc.step, hp] at hs
    · cases hs
    · split_ifs at hs
      obtain rfl := Option.some.inj hs
      exact h.select hp x (hok p hp)
  | access t x =>
    rcases hp : s.tasks t with _ | p <;> simp only [Axc.step, hp] at hs
    · cases hs
    · split_ifs at hs with hselecting
      obtain rfl := Option.some.inj hs
      obtain ⟨hundisturbed, haccess⟩ := hok p hp
      refine Inv.finish ?_ (access_right (h.tasks t p hp) (by simpa using hselecting) haccess) ?_
      · intro u hu q hq
        rw [Session.writeAll_tasks] at hq
        exact (h.tasks u q hq).writeAll hu hq hundisturbed
      · rw [Session.writeAll_reports]
        exact h.reports
  | temperature =>
    obtain rfl := Option.some.inj hs
    exact h

/-- A section in which everything succeeds. -/
def fine : Section := ⟨true, true, true, true, true⟩

/-- A memory map in which each byte of an upper page has the number of the page. -/
def numbered : Memory
  | .lower _ => 0
  | .upper ulPage _ => UInt8.ofNat ulPage

end Amr.Axc
