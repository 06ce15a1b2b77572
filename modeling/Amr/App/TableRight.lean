/-
# When a table is right

`sw/AMI/app/printer.c`: `print_table_data`, with the table that `print_table` prints
(`sw/AMI/app/table.c`), over all numbers of columns and rows, all texts, and all points of failure.

Whatever was allocated is to be freed once, and no column outside the allocated ones accessed; and
every divider is to be as wide as a full row, every cell at the place of its column. The clean-up
looks for three cells in each row, whatever the number of columns; the width of a divider is passed
in 8 bits; and a row leaves out the empty cells with their width, so that the cells behind move to
the left.
-/
import Amr.App.Table
import Mathlib

namespace Amr.App

open Columns Finset

/-! ### A table that is right -/

/-- The longest of the header and the cells of a column. -/
def columnWidth (header : ℕ → Text) (values : ℕ → ℕ → Text) (num_rows i : ℕ) : ℕ :=
  (header i).length ⊔ (range num_rows).sup fun j => (values j i).length

/-- The width of a full row: those of the columns, and three for each separator. -/
def fullWidth (w : ℕ → ℕ) (num_cols : ℕ) : ℕ := ∑ i ∈ range num_cols, w i + 3 * (num_cols - 1)

def offset (w : ℕ → ℕ) (i : ℕ) : ℕ := ∑ k ∈ range i, (w k + 3)

/-- Every cell with a text starts at the place of its column. -/
def Aligned (w : ℕ → ℕ) (num_cols : ℕ) (v : ℕ → Text) (ps : List (Piece Char)) : Prop :=
  ∀ i < num_cols, v i ≠ [] → start i ps = some (offset w i)

/-- What the format of the dividers demands before a row: one before the first, one before every
row, or one before the first and before those with data in the first column. -/
def Demands (divider_fmt : table_divider_format) (values : ℕ → ℕ → Text) (j : ℕ) : Prop :=
  match divider_fmt with
  | .TABLE_DIVIDER_NONE => False
  | .TABLE_DIVIDER_HEADER_ONLY => j = 0
  | .TABLE_DIVIDER_ALL => True
  | .TABLE_DIVIDER_GROUPS => j = 0 ∨ values j 0 ≠ []

instance (fmt : table_divider_format) (values : ℕ → ℕ → Text) (j : ℕ) :
    Decidable (Demands fmt values j) := by
  unfold Demands
  cases fmt <;> infer_instance

inductive Kind
  | blank
  | divider
  | row
  deriving DecidableEq, Repr

def Line.kind : Line → Kind
  | .blank => .blank
  | .divider _ _ => .divider
  | .row _ => .row

def rowsOf (lines : List Line) : List (List (Piece Char)) :=
  lines.filterMap fun l => match l with
    | .row ps => some ps
    | _ => none

/-- The lines of a table: the header and the rows, with the dividers that are demanded, each as wide
as a full row, and the cells at the places of their columns. -/
structure LinesRight (header : ℕ → Text) (values : ℕ → ℕ → Text) (num_cols num_rows : ℕ)
    (divider_fmt : table_divider_format) (lines : List Line) : Prop where
  kinds : lines.map Line.kind = [.blank, .row] ++
    (List.range num_rows).flatMap (fun j =>
      (if Demands divider_fmt values j then [.divider] else []) ++ [.row]) ++ [.blank]
  wide : ∀ c len, .divider c len ∈ lines →
    c = '-' ∧ len = fullWidth (columnWidth header values num_rows) num_cols
  placed : List.Forall₂ (Aligned (columnWidth header values num_rows) num_cols)
    (header :: (List.range num_rows).map values) (rowsOf lines)

/-- The element belongs to an array that was allocated with it. -/
def Table.Inside (t : Table) : Block → Prop
  | .heading i => i < t.n_fields
  | .cell i j => i < t.n_rows ∧ j < t.n_fields
  | _ => True

/-- A run that is right: each block that was allocated is freed once and no other is, no column
outside the allocated ones is accessed, and what is printed is a table. -/
structure Table.Right (t : Table) (r : Trace) : Prop where
  freed : ∀ b, r.freed.count b = if b ∈ r.allocated then 1 else 0
  inside : ∀ b ∈ r.accessed, t.Inside b
  printed : r.printed ≠ [] →
    LinesRight t.header t.values t.n_fields_table t.n_rows_table t.divider_fmt r.printed

/-! ### When it is -/

/-- Only the cells at the end of a row are empty, but for the first column. -/
def NoGap (num_cols : ℕ) (v : ℕ → Text) : Prop :=
  ∀ i k, 1 ≤ i → i < k → k < num_cols → v i = [] → v k = []

/-- The rows are reached: the header is allocated and filled in, and the array of the rows is
allocated. -/
def Table.Reached (t : Table) : Prop :=
  t.alloc .header = true ∧ t.headings.all t.alloc = true ∧ t.header_ok = true ∧
    t.alloc .rows = true

def Table.Printed (t : Table) : Prop :=
  t.Reached ∧ t.allRows.all t.alloc = true ∧ t.values_ok = true ∧ t.n_rows_table ≤ t.n_rows ∧
    t.n_fields_table ≤ t.n_fields ∧ t.alloc .widths = true

/-- There is no row, or the first cannot be allocated, or there are three columns, or more and one
of the first four cells cannot be allocated. -/
def Table.CleanUp (t : Table) : Prop :=
  t.n_rows = 0 ∨ t.alloc (.row 0) = false ∨ t.n_fields = 3 ∨
    3 < t.n_fields ∧ ∃ j ≤ 3, t.alloc (.cell 0 j) = false

/-- A full row has less than 256 characters, or there is no divider; and neither the header nor a
row has an empty cell before one that is not, but for the first column. -/
def Table.Fits (t : Table) : Prop :=
  (fullWidth (columnWidth t.header t.values t.n_rows_table) t.n_fields_table < 256 ∨
      t.n_rows_table = 0 ∨ t.divider_fmt = .TABLE_DIVIDER_NONE) ∧
    NoGap t.n_fields_table t.header ∧ ∀ j < t.n_rows_table, NoGap t.n_fields_table (t.values j)

/-- The clean-up fits the columns if there are rows, and the layout fits the texts if they are
printed. -/
def Table.Meets (t : Table) : Prop := (t.Reached → t.CleanUp) ∧ (t.Printed → t.Fits)

/-! ### Widths -/

theorem foldl_max_eq (f : ℕ → ℕ) (n a : ℕ) :
    (List.range n).foldl (fun m j => if f j > m then f j else m) a = a ⊔ (range n).sup f := by
  induction n with
  | zero => simp
  | succ n ih =>
    rw [List.range_succ, List.foldl_append, ih, Finset.range_add_one, Finset.sup_insert]
    simp only [List.foldl_cons, List.foldl_nil]
    split_ifs with h
    · rw [sup_comm (f n), ← sup_assoc]
      exact (sup_eq_right.2 (le_of_lt h)).symm
    · rw [sup_comm (f n), ← sup_assoc]
      exact (sup_eq_left.2 (not_lt.1 h)).symm

theorem column_width_eq (header : ℕ → Text) (values : ℕ → ℕ → Text) (num_rows i : ℕ) :
    column_width header values num_rows i = columnWidth header values num_rows i :=
  foldl_max_eq (fun j => (values j i).length) num_rows _

theorem header_le (header : ℕ → Text) (values : ℕ → ℕ → Text) (num_rows i : ℕ) :
    (header i).length ≤ columnWidth header values num_rows i := le_sup_left

theorem value_le (header : ℕ → Text) (values : ℕ → ℕ → Text) {num_rows j : ℕ}
    (hj : j < num_rows) (i : ℕ) :
    (values j i).length ≤ columnWidth header values num_rows i :=
  (Finset.le_sup (f := fun j => (values j i).length) (Finset.mem_range.2 hj)).trans le_sup_right

theorem table_width_eq (w : ℕ → ℕ) (num_cols : ℕ) :
    table_width w num_cols = fullWidth w num_cols := by
  unfold table_width fullWidth
  induction num_cols with
  | zero => rfl
  | succ n ih =>
    rw [List.range_succ, List.foldl_append, ih, Finset.sum_range_succ]
    simp only [List.foldl_cons, List.foldl_nil, COLUMN_PADDING]
    split_ifs <;> omega

/-! ### The place of a cell -/

section Cells

variable {w : ℕ → ℕ} {v : ℕ → Text} {align : Option (ℕ → table_align)} {n : ℕ}

def pieces (w : ℕ → ℕ) (v : ℕ → Text) (align : Option (ℕ → table_align)) (n : ℕ) :
    List (Piece Char) :=
  (List.range n).flatMap (print_column v w COLUMN_PADDING align)

def taken (w : ℕ → ℕ) (v : ℕ → Text) (j : ℕ) : ℕ :=
  if j = 0 then w 0 else if v j = [] then 0 else w j + 3

theorem length_padded {a : table_align} {m : ℕ} {x : Text} (h : x.length ≤ m) :
    (padded a m x).length = m := by
  cases a <;> simp only [padded, List.length_append, List.length_replicate] <;> omega

theorem length_print_column {j : ℕ} (h : (v j).length ≤ w j) :
    (text (print_column v w COLUMN_PADDING align j)).length = taken w v j := by
  have hp : (padded (alignOf align j) (w j + COLUMN_PADDING) (v j)).length = w j :=
    length_padded h
  unfold print_column taken
  by_cases hj : j = 0
  · subst hj
    simp [text, hp]
  · by_cases hv : v j = []
    · simp [text, hj, hv]
    · simp [text, hj, hv, hp]

theorem start_print_column {k : ℕ} (hv : v k ≠ []) :
    start k (print_column v w COLUMN_PADDING align k) = some (if k = 0 then 0 else 3) := by
  unfold print_column
  by_cases hk : k = 0
  · simp [hk, start]
  · simp [hk, hv, start]

theorem own_print_column {j : ℕ} {p : Piece Char}
    (hp : p ∈ print_column v w COLUMN_PADDING align j) {i : ℕ} (hi : p.col = some i) : i = j := by
  unfold print_column at hp
  split_ifs at hp
  · obtain rfl := List.mem_singleton.1 hp
    exact (Option.some_injective _ hi).symm
  · rcases List.mem_pair.1 hp with rfl | rfl
    · exact absurd hi nofun
    · exact (Option.some_injective _ hi).symm
  · exact absurd hp (List.not_mem_nil)

theorem start_pieces (hw : ∀ j < n, (v j).length ≤ w j) {k : ℕ} (hk : k < n) (hv : v k ≠ []) :
    start k (pieces w v align n) =
      some (∑ j ∈ range k, taken w v j + if k = 0 then 0 else 3) := by
  rw [pieces, start_flatMap (fun j p hp i hi => own_print_column hp hi) hk (start_print_column hv)]
  congr 2
  refine Finset.sum_congr rfl fun j hj => length_print_column (hw j ?_)
  exact (Finset.mem_range.1 hj).trans hk

theorem taken_eq_offset_iff (w : ℕ → ℕ) (v : ℕ → Text) (k : ℕ) :
    (∑ j ∈ range k, taken w v j + if k = 0 then 0 else 3) = offset w k ↔
      ∀ i, 1 ≤ i → i < k → v i ≠ [] := by
  unfold offset
  cases k with
  | zero => simp
  | succ m =>
    rw [Finset.sum_range_succ', Finset.sum_range_succ', if_neg (Nat.succ_ne_zero m)]
    have hfirst : taken w v 0 = w 0 := if_pos rfl
    have hle : ∀ j ∈ range m, taken w v (j + 1) ≤ w (j + 1) + 3 := by
      intro j _
      unfold taken
      rw [if_neg (Nat.succ_ne_zero j)]
      split_ifs <;> omega
    have heach : ∀ j, taken w v (j + 1) = w (j + 1) + 3 ↔ v (j + 1) ≠ [] := by
      intro j
      unfold taken
      rw [if_neg (Nat.succ_ne_zero j)]
      by_cases hv : v (j + 1) = []
      · simp [hv]
      · simp [hv]
    rw [hfirst, Nat.add_assoc, Nat.add_right_cancel_iff, Finset.sum_eq_sum_iff_of_le hle]
    constructor
    · intro h i hi hik
      obtain ⟨j, rfl⟩ := Nat.exists_eq_add_of_le' hi
      exact (heach j).1 (h j (Finset.mem_range.2 (by omega)))
    · intro h j hj
      have := Finset.mem_range.1 hj
      exact (heach j).2 (h (j + 1) (by omega) (by omega))

theorem aligned_iff (hw : ∀ j < n, (v j).length ≤ w j) :
    Aligned w n v (pieces w v align n) ↔ NoGap n v := by
  unfold Aligned NoGap
  constructor
  · intro h i k hi hik hk hvi
    by_contra hvk
    have hs := h k hk hvk
    rw [start_pieces hw hk hvk] at hs
    exact (taken_eq_offset_iff w v k).1 (Option.some_injective _ hs) i hi hik hvi
  · intro h k hk hvk
    rw [start_pieces hw hk hvk]
    refine congrArg some ((taken_eq_offset_iff w v k).2 ?_)
    intro i hi hik hvi
    exact hvk (h i k hi hik hk hvi)

end Cells

/-! ### The lines -/

section Lines

variable (header : ℕ → Text) (values : ℕ → ℕ → Text) (num_cols num_rows : ℕ)
  (divider_fmt : table_divider_format) (col_align : Option (ℕ → table_align))

theorem divider_before_iff (j : ℕ) :
    divider_before divider_fmt values j = true ↔ Demands divider_fmt values j := by
  cases divider_fmt
  · simp [divider_before, Demands]
  · simp [divider_before, Demands]
  · simp [divider_before, Demands]
  · simp only [divider_before, Demands, decide_eq_true_eq, not_and_or, not_not,
      List.length_eq_zero_iff, ne_eq]

theorem kinds_print_table_row (v : ℕ → Text) (w : ℕ → ℕ) (width : ℕ) (divider : Bool) :
    (print_table_row num_cols v w COLUMN_PADDING width divider col_align).map Line.kind =
      (if divider then [.divider] else []) ++ [.row] := by
  cases divider <;> rfl

theorem rowsOf_append (l₁ l₂ : List Line) : rowsOf (l₁ ++ l₂) = rowsOf l₁ ++ rowsOf l₂ :=
  List.filterMap_append

theorem rowsOf_print_table_row (v : ℕ → Text) (w : ℕ → ℕ) (width : ℕ) (divider : Bool) :
    rowsOf (print_table_row num_cols v w COLUMN_PADDING width divider col_align) =
      [pieces w v col_align num_cols] := by
  cases divider <;> rfl

theorem divider_mem_print_table_row (v : ℕ → Text) (w : ℕ → ℕ) (width : ℕ) (divider : Bool)
    (c : Char) (len : ℕ) :
    .divider c len ∈ print_table_row num_cols v w COLUMN_PADDING width divider col_align ↔
      divider = true ∧ c = '-' ∧ len = width % 256 := by
  cases divider <;> simp [print_table_row, print_divider]

theorem kinds_print_table :
    (print_table header values num_cols num_rows divider_fmt col_align).map Line.kind =
      [.blank, .row] ++ (List.range num_rows).flatMap (fun j =>
        (if Demands divider_fmt values j then [.divider] else []) ++ [.row]) ++ [.blank] := by
  unfold print_table
  simp only [List.map_append, List.map_flatMap, kinds_print_table_row, divider_before_iff]
  rfl

theorem rowsOf_print_table :
    rowsOf (print_table header values num_cols num_rows divider_fmt col_align) =
      pieces (columnWidth header values num_rows) header col_align num_cols ::
        (List.range num_rows).map fun j =>
          pieces (columnWidth header values num_rows) (values j) col_align num_cols := by
  have hw : column_width header values num_rows = columnWidth header values num_rows :=
    funext (column_width_eq header values num_rows)
  have hrows : ∀ (l : List ℕ) (f : ℕ → List Line) (g : ℕ → List (Piece Char)),
      (∀ j, rowsOf (f j) = [g j]) → rowsOf (l.flatMap f) = l.map g := by
    intro l f g hfg
    induction l with
    | nil => rfl
    | cons j l ih =>
      rw [List.flatMap_cons, rowsOf_append, hfg, ih, List.map_cons, List.singleton_append]
  unfold print_table
  simp only [rowsOf_append, rowsOf_print_table_row, hw]
  rw [hrows _ _ _ fun j => rowsOf_print_table_row num_cols col_align (values j) _ _ _]
  show [] ++ [_] ++ _ ++ [] = _
  rw [List.nil_append, List.append_nil, List.singleton_append]

theorem divider_mem_print_table (c : Char) (len : ℕ) :
    .divider c len ∈ print_table header values num_cols num_rows divider_fmt col_align ↔
      (∃ j < num_rows, Demands divider_fmt values j) ∧ c = '-' ∧
        len = fullWidth (columnWidth header values num_rows) num_cols % 256 := by
  have hw : column_width header values num_rows = columnWidth header values num_rows :=
    funext (column_width_eq header values num_rows)
  have hblank : ¬ Line.divider c len ∈ [Line.blank] := by simp
  unfold print_table
  simp only [List.mem_append, List.mem_flatMap, List.mem_range, divider_mem_print_table_row,
    divider_before_iff, hblank, hw, table_width_eq, reduceCtorEq, false_and, false_or, or_false]
  constructor
  · rintro ⟨j, hj, hd, hc, hlen⟩
    exact ⟨⟨j, hj, hd⟩, hc, hlen⟩
  · rintro ⟨⟨j, hj, hd⟩, hc, hlen⟩
    exact ⟨j, hj, hd, hc, hlen⟩

theorem exists_demands_iff :
    (∃ j < num_rows, Demands divider_fmt values j) ↔
      num_rows ≠ 0 ∧ divider_fmt ≠ .TABLE_DIVIDER_NONE := by
  constructor
  · rintro ⟨j, hj, hd⟩
    refine ⟨Nat.ne_zero_of_lt hj, ?_⟩
    rintro rfl
    exact hd
  · rintro ⟨hn, hf⟩
    refine ⟨0, Nat.pos_of_ne_zero hn, ?_⟩
    cases divider_fmt
    · exact hf rfl
    · exact rfl
    · exact trivial
    · exact .inl rfl

theorem wide_iff :
    (∀ c len, .divider c len ∈
        print_table header values num_cols num_rows divider_fmt col_align →
      c = '-' ∧ len = fullWidth (columnWidth header values num_rows) num_cols) ↔
      fullWidth (columnWidth header values num_rows) num_cols < 256 ∨ num_rows = 0 ∨
        divider_fmt = .TABLE_DIVIDER_NONE := by
  simp only [divider_mem_print_table, exists_demands_iff]
  constructor
  · intro h
    by_contra hnot
    push Not at hnot
    have := (h '-' _ ⟨hnot.2, rfl, rfl⟩).2
    omega
  · rintro h c len ⟨⟨hn, hf⟩, rfl, rfl⟩
    rcases h with h | h | h
    · exact ⟨rfl, Nat.mod_eq_of_lt h⟩
    · exact absurd h hn
    · exact absurd h hf

theorem lines_right_iff :
    LinesRight header values num_cols num_rows divider_fmt
        (print_table header values num_cols num_rows divider_fmt col_align) ↔
      (fullWidth (columnWidth header values num_rows) num_cols < 256 ∨ num_rows = 0 ∨
          divider_fmt = .TABLE_DIVIDER_NONE) ∧
        NoGap num_cols header ∧ ∀ j < num_rows, NoGap num_cols (values j) := by
  have hplaced : List.Forall₂ (Aligned (columnWidth header values num_rows) num_cols)
      (header :: (List.range num_rows).map values)
      (rowsOf (print_table header values num_cols num_rows divider_fmt col_align)) ↔
      NoGap num_cols header ∧ ∀ j < num_rows, NoGap num_cols (values j) := by
    rw [rowsOf_print_table, List.forall₂_cons, List.forall₂_map_left_iff,
      List.forall₂_map_right_iff, List.forall₂_same]
    refine and_congr (aligned_iff fun i _ => header_le header values num_rows i) ?_
    constructor
    · intro h j hj
      exact (aligned_iff fun i _ => value_le header values hj i).1 (h j (List.mem_range.2 hj))
    · intro h j hj
      have hj' := List.mem_range.1 hj
      exact (aligned_iff fun i _ => value_le header values hj' i).2 (h j hj')
  constructor
  · rintro ⟨-, hwide, hp⟩
    exact ⟨(wide_iff header values num_cols num_rows divider_fmt col_align).1 hwide, hplaced.1 hp⟩
  · rintro ⟨hwide, hp⟩
    exact ⟨kinds_print_table header values num_cols num_rows divider_fmt col_align,
      (wide_iff header values num_cols num_rows divider_fmt col_align).2 hwide, hplaced.2 hp⟩

end Lines

/-! ### What is allocated -/

section Got

variable {α : Type*} {p : α → Bool}

theorem mem_takeWhile_append (l₁ l₂ : List α) (b : α) :
    b ∈ (l₁ ++ l₂).takeWhile p ↔
      b ∈ l₁.takeWhile p ∨ (∀ a ∈ l₁, p a = true) ∧ b ∈ l₂.takeWhile p := by
  induction l₁ with
  | nil => simp
  | cons a l₁ ih =>
    rw [List.cons_append]
    by_cases ha : p a = true
    · rw [List.takeWhile_cons_of_pos ha, List.takeWhile_cons_of_pos ha, List.mem_cons,
        List.mem_cons, ih, List.forall_mem_cons, or_assoc]
      simp [ha]
    · rw [List.takeWhile_cons_of_neg ha, List.takeWhile_cons_of_neg ha, List.forall_mem_cons]
      simp [ha]

theorem mem_takeWhile_flatMap (f : ℕ → List α) (n : ℕ) (b : α) :
    b ∈ ((List.range n).flatMap f).takeWhile p ↔
      ∃ i < n, (∀ k < i, ∀ a ∈ f k, p a = true) ∧ b ∈ (f i).takeWhile p := by
  induction n with
  | zero => simp
  | succ n ih =>
    have hall : (∀ a ∈ (List.range n).flatMap f, p a = true) ↔ ∀ k < n, ∀ a ∈ f k, p a = true := by
      simp only [List.mem_flatMap, List.mem_range]
      constructor
      · intro h k hk a ha
        exact h a ⟨k, hk, ha⟩
      · rintro h a ⟨k, hk, ha⟩
        exact h k hk a ha
    rw [List.range_succ, List.flatMap_append, List.flatMap_singleton, mem_takeWhile_append, ih,
      hall]
    constructor
    · rintro (⟨i, hi, h⟩ | h)
      · exact ⟨i, by omega, h⟩
      · exact ⟨n, by omega, h⟩
    · rintro ⟨i, hi, h⟩
      rcases Nat.lt_succ_iff_lt_or_eq.1 hi with hi | rfl
      · exact .inl ⟨i, hi, h⟩
      · exact .inr h

theorem mem_takeWhile_map (g : ℕ → α) (n : ℕ) (b : α) :
    b ∈ ((List.range n).map g).takeWhile p ↔ ∃ j < n, (∀ k ≤ j, p (g k) = true) ∧ b = g j := by
  rw [List.map_eq_flatMap, mem_takeWhile_flatMap]
  refine exists_congr fun j => and_congr_right fun _ => ?_
  constructor
  · rintro ⟨hbefore, hb⟩
    have hj : p (g j) = true ∧ b = g j := by
      by_cases hp : p (g j) = true
      · rw [List.takeWhile_cons_of_pos hp, List.takeWhile_nil, List.mem_singleton] at hb
        exact ⟨hp, hb⟩
      · rw [List.takeWhile_cons_of_neg hp] at hb
        exact absurd hb List.not_mem_nil
    refine ⟨fun k hk => ?_, hj.2⟩
    rcases Nat.lt_or_eq_of_le hk with hk | rfl
    · exact hbefore k hk _ (List.mem_singleton_self _)
    · exact hj.1
  · rintro ⟨h, rfl⟩
    refine ⟨fun k hk a ha => ?_, ?_⟩
    · rw [List.mem_singleton.1 ha]
      exact h k (le_of_lt hk)
    · rw [List.takeWhile_cons_of_pos (h j le_rfl)]
      exact List.mem_cons_self

end Got

namespace Table

variable (t : Table)

/-- The rows before this one are allocated, and itself. -/
def HasRow (i : ℕ) : Prop :=
  i < t.n_rows ∧ (∀ k < i, ∀ b ∈ t.rowBlocks k, t.alloc b = true) ∧ t.alloc (.row i) = true

theorem mem_gotRows_iff (b : Block) :
    b ∈ t.gotRows ↔ ∃ i, t.HasRow i ∧
      (b = .row i ∨ ∃ j < t.n_fields, (∀ k ≤ j, t.alloc (.cell i k) = true) ∧ b = .cell i j) := by
  unfold gotRows allRows HasRow
  rw [mem_takeWhile_flatMap]
  refine exists_congr fun i => ?_
  rw [and_assoc, and_assoc]
  refine and_congr_right fun _ => and_congr_right fun _ => ?_
  rw [rowBlocks]
  by_cases hrow : t.alloc (.row i) = true
  · rw [List.takeWhile_cons_of_pos hrow, List.mem_cons, mem_takeWhile_map]
    simp [hrow]
  · rw [List.takeWhile_cons_of_neg hrow]
    simp [hrow]

theorem row_mem_gotRows (i : ℕ) : .row i ∈ t.gotRows ↔ t.HasRow i := by
  rw [mem_gotRows_iff]
  constructor
  · rintro ⟨i', hrow, h | ⟨j, -, -, h⟩⟩
    · obtain rfl := Block.row.inj h
      exact hrow
    · exact absurd h nofun
  · intro hrow
    exact ⟨i, hrow, .inl rfl⟩

theorem cell_mem_gotRows (i j : ℕ) :
    .cell i j ∈ t.gotRows ↔
      t.HasRow i ∧ j < t.n_fields ∧ ∀ k ≤ j, t.alloc (.cell i k) = true := by
  rw [mem_gotRows_iff]
  constructor
  · rintro ⟨i', hrow, h | ⟨j', hj, hk, h⟩⟩
    · exact absurd h nofun
    · obtain ⟨rfl, rfl⟩ := Block.cell.inj h
      exact ⟨hrow, hj, hk⟩
  · rintro ⟨hrow, hj, hk⟩
    exact ⟨i, hrow, .inr ⟨j, hj, hk, rfl⟩⟩

theorem mem_gotHeadings_iff (b : Block) :
    b ∈ t.gotHeadings ↔ ∃ j < t.n_fields, (∀ k ≤ j, t.alloc (.heading k) = true) ∧ b = .heading j :=
  mem_takeWhile_map _ _ _

/-- No row has been allocated whose cells are not the three that are looked for. -/
def ThreeCells : Prop :=
  ∀ i, t.HasRow i → 3 ≤ t.n_fields ∧ ∀ j, .cell i j ∈ t.gotRows → j < 3

theorem hasRow_zero (hn : t.n_rows ≠ 0) (h : t.alloc (.row 0) = true) : t.HasRow 0 :=
  ⟨Nat.pos_of_ne_zero hn, fun k hk => absurd hk (Nat.not_lt_zero k), h⟩

theorem threeCells_iff : t.ThreeCells ↔ t.CleanUp := by
  unfold ThreeCells CleanUp
  constructor
  · intro h
    by_contra hnot
    push Not at hnot
    obtain ⟨hn, hrow, hthree, hfirst⟩ := hnot
    have hzero := t.hasRow_zero hn (by simpa using hrow)
    obtain ⟨hle, hcells⟩ := h 0 hzero
    have hlt : 3 < t.n_fields := by omega
    -- the fourth cell is there
    refine absurd (hcells 3 ((t.cell_mem_gotRows 0 3).2 ⟨hzero, hlt, fun k hk => ?_⟩))
      (Nat.lt_irrefl 3)
    simpa using hfirst hlt k hk
  · rintro h i ⟨hi, hbefore, hrow⟩
    rcases h with h | h | h | ⟨hlt, k, hk, hfail⟩
    · omega
    · rcases Nat.eq_zero_or_pos i with rfl | hpos
      · exact absurd (h.symm.trans hrow) Bool.false_ne_true
      · have := hbefore 0 hpos (.row 0) List.mem_cons_self
        exact absurd (h.symm.trans this) Bool.false_ne_true
    · refine ⟨le_of_eq h.symm, fun j hj => ?_⟩
      have := ((t.cell_mem_gotRows i j).1 hj).2.1
      omega
    · refine ⟨le_of_lt hlt, fun j hj => ?_⟩
      rcases Nat.eq_zero_or_pos i with rfl | hpos
      · by_contra hj3
        have := ((t.cell_mem_gotRows 0 j).1 hj).2.2 k (by omega)
        exact absurd (hfail.symm.trans this) Bool.false_ne_true
      · have hcell : .cell 0 k ∈ t.rowBlocks 0 :=
          List.mem_cons_of_mem _ (List.mem_map_of_mem (List.mem_range.2 (by omega)))
        exact absurd (hfail.symm.trans (hbefore 0 hpos _ hcell)) Bool.false_ne_true

/-! ### What is freed and accessed -/

theorem mem_freeRow_fst (got : List Block) (i : ℕ) (b : Block) :
    b ∈ (t.freeRow got i).1 ↔ .row i ∈ got ∧
      (b = .row i ∨ ∃ j < 3, j < t.n_fields ∧ .cell i j ∈ got ∧ b = .cell i j) := by
  unfold freeRow
  by_cases hrow : .row i ∈ got
  · rw [if_pos hrow]
    simp only [List.mem_append, List.mem_map, List.mem_filter, List.mem_range, List.mem_singleton,
      decide_eq_true_eq, hrow, true_and]
    constructor
    · rintro (⟨j, ⟨hj, hf, hg⟩, rfl⟩ | h)
      · exact .inr ⟨j, hj, hf, hg, rfl⟩
      · exact .inl h
    · rintro (h | ⟨j, hj, hf, hg, rfl⟩)
      · exact .inr h
      · exact .inl ⟨j, ⟨hj, hf, hg⟩, rfl⟩
  · rw [if_neg hrow]
    simp [hrow]

theorem mem_freeRow_snd (got : List Block) (i : ℕ) (b : Block) :
    b ∈ (t.freeRow got i).2 ↔ .row i ∈ got ∧ ∃ j < 3, b = .cell i j := by
  unfold freeRow
  by_cases hrow : .row i ∈ got
  · rw [if_pos hrow]
    simp only [List.mem_map, List.mem_range, hrow, true_and]
    exact exists_congr fun j => and_congr_right fun _ => eq_comm
  · rw [if_neg hrow]
    simp [hrow]

theorem mem_delete_rows_fst (b : Block) :
    b ∈ (t.delete_rows t.gotRows).1 ↔ b = .rows ∨ ∃ i, t.HasRow i ∧
      (b = .row i ∨ ∃ j < 3, .cell i j ∈ t.gotRows ∧ b = .cell i j) := by
  unfold delete_rows
  simp only [List.mem_append, List.mem_flatMap, List.mem_range, mem_freeRow_fst, row_mem_gotRows,
    List.mem_singleton]
  constructor
  · rintro (⟨i, -, hrow, h | ⟨j, hj, -, hg, h⟩⟩ | h)
    · exact .inr ⟨i, hrow, .inl h⟩
    · exact .inr ⟨i, hrow, .inr ⟨j, hj, hg, h⟩⟩
    · exact .inl h
  · rintro (h | ⟨i, hrow, h | ⟨j, hj, hg, h⟩⟩)
    · exact .inr h
    · exact .inl ⟨i, hrow.1, hrow, .inl h⟩
    · exact .inl ⟨i, hrow.1, hrow, .inr ⟨j, hj, ((t.cell_mem_gotRows i j).1 hg).2.1, hg, h⟩⟩

theorem mem_delete_rows_snd (b : Block) :
    b ∈ (t.delete_rows t.gotRows).2 ↔ ∃ i, t.HasRow i ∧ ∃ j < 3, b = .cell i j := by
  unfold delete_rows
  simp only [List.mem_flatMap, List.mem_range, mem_freeRow_snd, row_mem_gotRows]
  constructor
  · rintro ⟨i, -, h⟩
    exact ⟨i, h⟩
  · rintro ⟨i, hrow, h⟩
    exact ⟨i, hrow.1, hrow, h⟩

theorem mem_delete_header (b : Block) :
    b ∈ t.delete_header t.gotHeadings ↔ b = .header ∨ b ∈ t.gotHeadings := by
  unfold delete_header
  have hsub : t.gotHeadings ⊆ t.headings := (List.takeWhile_sublist _).subset
  simp only [List.mem_append, List.mem_filter, decide_eq_true_eq, List.mem_singleton]
  constructor
  · rintro (⟨-, h⟩ | h)
    · exact .inr h
    · exact .inl h
  · rintro (h | h)
    · exact .inr h
    · exact .inl ⟨hsub h, h⟩

theorem nodup_freeRow (got : List Block) (i : ℕ) : (t.freeRow got i).1.Nodup := by
  unfold freeRow
  by_cases hrow : .row i ∈ got
  · rw [if_pos hrow]
    refine List.nodup_append.2 ⟨?_, List.nodup_singleton _, ?_⟩
    · exact (List.nodup_range.filter _).map fun j k h => (Block.cell.inj h).2
    · rintro a ha b hb rfl
      obtain ⟨j, -, hj⟩ := List.mem_map.1 ha
      exact absurd (hj.trans (List.mem_singleton.1 hb)) nofun
  · rw [if_neg hrow]
    exact List.nodup_nil

theorem nodup_delete_rows : (t.delete_rows t.gotRows).1.Nodup := by
  unfold delete_rows
  refine List.nodup_append.2 ⟨List.nodup_flatMap.2 ⟨?_, ?_⟩, List.nodup_singleton _, ?_⟩
  · intro i _
    exact t.nodup_freeRow _ i
  · refine List.nodup_range.imp ?_
    intro i k hik b hbi hbk
    obtain ⟨-, rfl | ⟨j, -, -, -, rfl⟩⟩ := (t.mem_freeRow_fst _ i b).1 hbi
    · obtain ⟨-, h | ⟨j, -, -, -, h⟩⟩ := (t.mem_freeRow_fst _ k _).1 hbk
      · exact hik (Block.row.inj h)
      · exact absurd h nofun
    · obtain ⟨-, h | ⟨j', -, -, -, h⟩⟩ := (t.mem_freeRow_fst _ k _).1 hbk
      · exact absurd h nofun
      · exact hik (Block.cell.inj h).1
  · rintro a ha b hb rfl
    obtain ⟨i, -, ha⟩ := List.mem_flatMap.1 ha
    obtain rfl := List.mem_singleton.1 hb
    obtain ⟨-, h | ⟨j, -, -, -, h⟩⟩ := (t.mem_freeRow_fst _ i _).1 ha
    · exact absurd h nofun
    · exact absurd h nofun

theorem nodup_delete_header : (t.delete_header t.gotHeadings).Nodup := by
  unfold delete_header headings
  refine List.nodup_append.2 ⟨?_, List.nodup_singleton _, ?_⟩
  · exact (List.nodup_range.map fun j k h => Block.heading.inj h).filter _
  · rintro a ha b hb rfl
    obtain rfl := List.mem_singleton.1 hb
    obtain ⟨j, -, hj⟩ := List.mem_map.1 (List.mem_filter.1 ha).1
    exact absurd hj nofun

theorem nodup_freed : t.print_table_data.freed.Nodup := by
  have hheader := t.nodup_delete_header
  have hrows : ((t.delete_rows t.gotRows).1 ++ t.delete_header t.gotHeadings).Nodup := by
    refine List.nodup_append.2 ⟨t.nodup_delete_rows, hheader, ?_⟩
    rintro a ha b hb rfl
    rcases (t.mem_delete_header a).1 hb with rfl | hb
    · obtain h | ⟨i, -, h | ⟨j, -, -, h⟩⟩ := (t.mem_delete_rows_fst _).1 ha
      all_goals exact absurd h nofun
    · obtain ⟨k, -, -, rfl⟩ := (t.mem_gotHeadings_iff a).1 hb
      obtain h | ⟨i, -, h | ⟨j, -, -, h⟩⟩ := (t.mem_delete_rows_fst _).1 ha
      all_goals exact absurd h nofun
  have hwidths :
      (.widths :: ((t.delete_rows t.gotRows).1 ++ t.delete_header t.gotHeadings)).Nodup := by
    refine List.nodup_cons.2 ⟨fun h => ?_, hrows⟩
    rcases List.mem_append.1 h with h | h
    · obtain h | ⟨i, -, h | ⟨j, -, -, h⟩⟩ := (t.mem_delete_rows_fst _).1 h
      all_goals exact absurd h nofun
    · rcases (t.mem_delete_header _).1 h with h | h
      · exact absurd h nofun
      · obtain ⟨k, -, -, h⟩ := (t.mem_gotHeadings_iff _).1 h
        exact absurd h nofun
  unfold print_table_data build fill
  split_ifs
  · exact hwidths
  · exact hrows
  · exact hrows
  · exact hrows
  · exact hheader
  · exact hheader
  · exact List.nodup_nil

theorem freed_iff_allocated {W : List Block} (hW : ∀ i j, .cell i j ∉ W) :
    (∀ b, b ∈ W ++ (t.delete_rows t.gotRows).1 ++ t.delete_header t.gotHeadings ↔
        b ∈ [.header] ++ t.gotHeadings ++ ([.rows] ++ t.gotRows ++ W)) ↔
      ∀ i j, .cell i j ∈ t.gotRows → j < 3 := by
  simp only [List.mem_append, mem_delete_rows_fst, mem_delete_header, List.mem_singleton]
  constructor
  · intro h i j hcell
    rcases (h (.cell i j)).2 (.inr (.inl (.inr hcell))) with (hw | hrows) | hheader
    · exact absurd hw (hW i j)
    · obtain hb | ⟨k, -, hb | ⟨j', hj, -, hb⟩⟩ := hrows
      · exact absurd hb nofun
      · exact absurd hb nofun
      · rw [(Block.cell.inj hb).2]
        exact hj
    · rcases hheader with hb | hb
      · exact absurd hb nofun
      · obtain ⟨k, -, -, hb⟩ := (t.mem_gotHeadings_iff _).1 hb
        exact absurd hb nofun
  · intro h b
    constructor
    · rintro ((hw | rfl | ⟨i, hrow, rfl | ⟨j, -, hcell, rfl⟩⟩) | rfl | hb)
      · exact .inr (.inr hw)
      · exact .inr (.inl (.inl rfl))
      · exact .inr (.inl (.inr ((t.row_mem_gotRows i).2 hrow)))
      · exact .inr (.inl (.inr hcell))
      · exact .inl (.inl rfl)
      · exact .inl (.inr hb)
    · rintro ((rfl | hb) | (rfl | hb) | hw)
      · exact .inr (.inl rfl)
      · exact .inr (.inr hb)
      · exact .inl (.inr (.inl rfl))
      · obtain ⟨i, hrow, rfl | ⟨j, -, -, rfl⟩⟩ := (t.mem_gotRows_iff b).1 hb
        · exact .inl (.inr (.inr ⟨i, hrow, .inl rfl⟩))
        · exact .inl (.inr (.inr ⟨i, hrow, .inr ⟨j, h i j hb, hb, rfl⟩⟩))
      · exact .inl (.inl hw)

theorem inside_delete_rows_iff :
    (∀ b ∈ (t.delete_rows t.gotRows).2, t.Inside b) ↔ ∀ i, t.HasRow i → 3 ≤ t.n_fields := by
  simp only [mem_delete_rows_snd]
  constructor
  · intro h i hrow
    exact (h (.cell i 2) ⟨i, hrow, 2, by omega, rfl⟩).2
  · rintro h b ⟨i, hrow, j, hj, rfl⟩
    exact ⟨hrow.1, hj.trans_le (h i hrow)⟩

theorem threeCells_iff_and :
    t.ThreeCells ↔
      (∀ i j, .cell i j ∈ t.gotRows → j < 3) ∧ ∀ i, t.HasRow i → 3 ≤ t.n_fields := by
  constructor
  · intro h
    exact ⟨fun i j hcell => (h i ((t.cell_mem_gotRows i j).1 hcell).1).2 j hcell,
      fun i hrow => (h i hrow).1⟩
  · intro h i hrow
    exact ⟨h.2 i hrow, h.1 i⟩

theorem inside_printAccesses (h : t.Printed) (hthree : ∀ i, t.HasRow i → 3 ≤ t.n_fields) :
    ∀ b ∈ t.printAccesses, t.Inside b := by
  obtain ⟨-, hall, -, hrows, hfields, -⟩ := h
  intro b hb
  unfold printAccesses at hb
  rcases List.mem_append.1 hb with hb | hb
  · rcases List.mem_append.1 hb with hb | hb
    · obtain ⟨i, hi, rfl⟩ := List.mem_map.1 hb
      exact (List.mem_range.1 hi).trans_le hfields
    · obtain ⟨j, hj, hb⟩ := List.mem_flatMap.1 hb
      obtain ⟨i, hi, rfl⟩ := List.mem_map.1 hb
      exact ⟨(List.mem_range.1 hj).trans_le hrows, (List.mem_range.1 hi).trans_le hfields⟩
  · split_ifs at hb
    · obtain ⟨j, hj, hb⟩ := List.mem_flatMap.1 hb
      have hj := (List.mem_range.1 hj).trans_le hrows
      split_ifs at hb with hne
      · obtain rfl := List.mem_singleton.1 hb
        -- the first row is there if there is a later one
        have hmem : .row 0 ∈ t.allRows :=
          List.mem_flatMap.2 ⟨0, List.mem_range.2 (by omega), List.mem_cons_self⟩
        have := hthree 0 (t.hasRow_zero (by omega) (List.all_eq_true.1 hall _ hmem))
        exact ⟨hj, by omega⟩
      · exact absurd hb List.not_mem_nil
    · exact absurd hb List.not_mem_nil

/-! ### The run -/

theorem freed_count_iff :
    (∀ b, t.print_table_data.freed.count b = if b ∈ t.print_table_data.allocated then 1 else 0) ↔
      ∀ b, b ∈ t.print_table_data.freed ↔ b ∈ t.print_table_data.allocated := by
  refine forall_congr' fun b => ?_
  rw [t.nodup_freed.count]
  by_cases hf : b ∈ t.print_table_data.freed <;>
    by_cases ha : b ∈ t.print_table_data.allocated <;> simp [hf, ha]

theorem right_of_not_reached (h : ¬ t.Reached) : t.Right t.print_table_data := by
  have hrun : (t.print_table_data = ⟨[], [], [], []⟩) ∨
      t.print_table_data = ⟨[.header] ++ t.gotHeadings, t.delete_header t.gotHeadings, [], []⟩ := by
    unfold Reached at h
    unfold print_table_data build
    by_cases hheader : t.alloc .header = true
    · rw [if_pos hheader]
      by_cases hheadings : (t.headings.all t.alloc && t.header_ok) = true
      · have hrows : ¬ t.alloc .rows = true := by
          intro hrows
          rw [Bool.and_eq_true] at hheadings
          exact h ⟨hheader, hheadings.1, hheadings.2, hrows⟩
        rw [if_pos hheadings, if_neg hrows, List.append_nil]
        exact .inr rfl
      · rw [if_neg hheadings]
        exact .inr rfl
    · rw [if_neg hheader]
      exact .inl rfl
  refine ⟨t.freed_count_iff.2 ?_, ?_, ?_⟩ <;> rcases hrun with hrun | hrun <;> rw [hrun]
  · exact fun b => Iff.rfl
  · intro b
    rw [mem_delete_header]
    simp
  · exact List.forall_mem_nil _
  · exact List.forall_mem_nil _
  · exact fun hne => absurd rfl hne
  · exact fun hne => absurd rfl hne

/-- A run that allocates the rows, and prints the table or not. -/
def reachedTrace (W A : List Block) (lines : List Line) : Trace :=
  ⟨[.header] ++ t.gotHeadings ++ ([.rows] ++ t.gotRows ++ W),
    W ++ (t.delete_rows t.gotRows).1 ++ t.delete_header t.gotHeadings,
    A ++ (t.delete_rows t.gotRows).2, lines⟩

theorem print_of_printed (h : t.Printed) :
    t.print_table_data = t.reachedTrace [.widths] t.printAccesses (print_table t.header t.values
      t.n_fields_table t.n_rows_table t.divider_fmt t.col_align) := by
  obtain ⟨⟨hheader, hheadings, hok, hrows⟩, hall, hvalues, hn, hf, hwidths⟩ := h
  unfold print_table_data build fill
  simp only [hheader, hheadings, hok, hrows, hall, hvalues, hn, hf, hwidths, if_true,
    Bool.and_self, decide_true]
  rfl

theorem print_of_reached (h : t.Reached) (hnot : ¬ t.Printed) :
    t.print_table_data = t.reachedTrace [] [] [] := by
  have hfill : t.fill t.gotRows =
      ⟨[], (t.delete_rows t.gotRows).1, (t.delete_rows t.gotRows).2, []⟩ := by
    unfold Printed at hnot
    unfold fill
    split_ifs with hall hvalues hwidths
    · simp only [Bool.and_eq_true, decide_eq_true_eq] at hvalues
      exact absurd ⟨h, hall, hvalues.1.1, hvalues.1.2, hvalues.2, hwidths⟩ hnot
    · rfl
    · rfl
    · rfl
  obtain ⟨hheader, hheadings, hok, hrows⟩ := h
  unfold print_table_data build
  simp only [hheader, hheadings, hok, hrows, hfill, if_true, Bool.and_self]
  rfl

theorem right_reachedTrace_iff {W A : List Block} {lines : List Line}
    (hrun : t.print_table_data = t.reachedTrace W A lines) (hW : ∀ i j, .cell i j ∉ W)
    (hA : (∀ i, t.HasRow i → 3 ≤ t.n_fields) → ∀ b ∈ A, t.Inside b) :
    t.Right t.print_table_data ↔ t.ThreeCells ∧ (lines ≠ [] →
      LinesRight t.header t.values t.n_fields_table t.n_rows_table t.divider_fmt lines) := by
  have hfreed : (∀ b, b ∈ t.print_table_data.freed ↔ b ∈ t.print_table_data.allocated) ↔
      ∀ i j, .cell i j ∈ t.gotRows → j < 3 := by
    rw [hrun]
    exact t.freed_iff_allocated hW
  have hinside : (∀ b ∈ t.print_table_data.accessed, t.Inside b) ↔
      ∀ i, t.HasRow i → 3 ≤ t.n_fields := by
    rw [hrun, ← t.inside_delete_rows_iff]
    constructor
    · intro h b hb
      exact h b (List.mem_append_right _ hb)
    · intro h b hb
      rcases List.mem_append.1 hb with hb | hb
      · exact hA (t.inside_delete_rows_iff.1 h) b hb
      · exact h b hb
  have hprinted : t.print_table_data.printed = lines := by
    rw [hrun]
    rfl
  rw [t.threeCells_iff_and]
  constructor
  · rintro ⟨hf, hi, hp⟩
    rw [hprinted] at hp
    exact ⟨⟨hfreed.1 (t.freed_count_iff.1 hf), hinside.1 hi⟩, hp⟩
  · rintro ⟨⟨hf, hi⟩, hp⟩
    refine ⟨t.freed_count_iff.2 (hfreed.2 hf), hinside.2 hi, ?_⟩
    rwa [hprinted]

theorem not_cell_widths (i j : ℕ) : .cell i j ∉ [Block.widths] := by simp

end Table

/-- **A table is right if the clean-up fits its columns and the layout its texts.** -/
theorem table_right_iff (t : Table) : t.Right t.print_table_data ↔ t.Meets := by
  unfold Table.Meets
  rw [← t.threeCells_iff]
  by_cases hreached : t.Reached
  · by_cases hprinted : t.Printed
    · rw [t.right_reachedTrace_iff (t.print_of_printed hprinted) Table.not_cell_widths
        (t.inside_printAccesses hprinted), lines_right_iff]
      have hne : print_table t.header t.values t.n_fields_table t.n_rows_table t.divider_fmt
          t.col_align ≠ [] := List.cons_ne_nil _ _
      constructor
      · rintro ⟨hthree, hlines⟩
        exact ⟨fun _ => hthree, fun _ => hlines hne⟩
      · rintro ⟨hthree, hfits⟩
        exact ⟨hthree hreached, fun _ => hfits hprinted⟩
    · rw [t.right_reachedTrace_iff (t.print_of_reached hreached hprinted)
        (fun _ _ => List.not_mem_nil) (fun _ => List.forall_mem_nil _)]
      constructor
      · rintro ⟨hthree, -⟩
        exact ⟨fun _ => hthree, fun h => absurd h hprinted⟩
      · rintro ⟨hthree, -⟩
        exact ⟨hthree hreached, fun hne => absurd rfl hne⟩
  · constructor
    · intro _
      exact ⟨fun h => absurd h hreached, fun h => absurd h.1 hreached⟩
    · intro _
      exact t.right_of_not_reached hreached

/-- A table of one row with four columns, all of whose allocations succeed. -/
def fourColumns : Table where
  n_fields := 4
  n_rows := 1
  alloc := fun _ => true
  header_ok := true
  header := fun _ => ['h']
  values_ok := true
  n_rows_table := 1
  n_fields_table := 4
  values := fun _ _ => ['v']
  divider_fmt := .TABLE_DIVIDER_ALL
  col_align := none

/-- The cell of its fourth column is never freed. -/
theorem not_table_right : ¬ ∀ t : Table, t.Right t.print_table_data := by
  intro h
  have hcount := (h fourColumns).freed (.cell 0 3)
  have hfreed : fourColumns.print_table_data.freed.count (.cell 0 3) = 0 := by decide
  have hallocated : .cell 0 3 ∈ fourColumns.print_table_data.allocated := by decide
  rw [hfreed, if_pos hallocated] at hcount
  exact Nat.zero_ne_one hcount

end Amr.App
