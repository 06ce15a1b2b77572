/-
# Tables of the application

`sw/AMI/app/table.c`: `print_table_row` and `print_table`; `sw/AMI/app/printer.c`: `print_divider`
and `print_table_data`.

`print_table_data` allocates a header and rows of cells, lets two callbacks fill them, prints the
table and frees what it allocated, from wherever an allocation or a callback failed. `print_table`
takes the longest text of a column for its width and prints the rows with separators between the
columns and dividers between the rows.
-/
import Amr.Lib.Columns

namespace Amr.App

open Columns

def TABLE_FIELD_MAX : ℕ := 64

def TABLE_HEADING_MAX : ℕ := 32

inductive table_divider_format
  | TABLE_DIVIDER_NONE
  | TABLE_DIVIDER_HEADER_ONLY
  | TABLE_DIVIDER_ALL
  | TABLE_DIVIDER_GROUPS
  deriving DecidableEq, Repr

inductive table_align
  | TABLE_ALIGN_RIGHT
  | TABLE_ALIGN_LEFT
  deriving DecidableEq, Repr

abbrev Text := List Char

/-! ### Printing -/

def COLUMN_PADDING : ℕ := 0

/-- `%*s` and `%-*s`. -/
def padded (align : table_align) (width : ℕ) (value : Text) : Text :=
  match align with
  | .TABLE_ALIGN_RIGHT => List.replicate (width - value.length) ' ' ++ value
  | .TABLE_ALIGN_LEFT => value ++ List.replicate (width - value.length) ' '

def alignOf (col_align : Option (ℕ → table_align)) (i : ℕ) : table_align :=
  match col_align with
  | some a => a i
  | none => .TABLE_ALIGN_LEFT

def print_column (values : ℕ → Text) (col_widths : ℕ → ℕ) (col_padding : ℕ)
    (col_align : Option (ℕ → table_align)) (i : ℕ) : List (Piece Char) :=
  let field : Piece Char :=
    ⟨some i, padded (alignOf col_align i) (col_widths i + col_padding) (values i)⟩
  if i = 0 then [field]
  else if values i ≠ [] then [⟨none, [' ', '|', ' ']⟩, field]
  else []

inductive Line
  | blank
  | divider (c : Char) (len : ℕ)
  | row (pieces : List (Piece Char))
  deriving DecidableEq, Repr

def Line.text : Line → Text
  | .blank => ['\r', '\n']
  | .divider c len => List.replicate len c ++ ['\r', '\n']
  | .row pieces => Columns.text pieces ++ ['\r', '\n']

/-- `len` is a `uint8_t`. -/
def print_divider (c : Char) (len : ℕ) : Line := .divider c (len % 256)

def print_table_row (num_cols : ℕ) (values : ℕ → Text) (col_widths : ℕ → ℕ)
    (col_padding table_width : ℕ) (divider : Bool) (col_align : Option (ℕ → table_align)) :
    List Line :=
  (if divider then [print_divider '-' table_width] else []) ++
    [.row ((List.range num_cols).flatMap (print_column values col_widths col_padding col_align))]

/-- The longest of the header and the items of a column. -/
def column_width (header : ℕ → Text) (values : ℕ → ℕ → Text) (num_rows i : ℕ) : ℕ :=
  (List.range num_rows).foldl
    (fun max_col j => if (values j i).length > max_col then (values j i).length else max_col)
    (header i).length

/-- The widths of the columns, with a separator before all but the first. -/
def table_width (column_widths : ℕ → ℕ) (num_cols : ℕ) : ℕ :=
  (List.range num_cols).foldl
    (fun w i => w + (column_widths i + COLUMN_PADDING) + if i > 0 then 3 else 0) 0

/-- Whether a divider is printed before a row. -/
def divider_before (divider_fmt : table_divider_format) (values : ℕ → ℕ → Text) (j : ℕ) : Bool :=
  match divider_fmt with
  | .TABLE_DIVIDER_HEADER_ONLY => j = 0
  | .TABLE_DIVIDER_ALL => true
  | .TABLE_DIVIDER_GROUPS => ¬ (j ≠ 0 ∧ (values j 0).length = 0)
  | .TABLE_DIVIDER_NONE => false

/-- The lines of a table, once the array of the widths is there. -/
def print_table (header : ℕ → Text) (values : ℕ → ℕ → Text) (num_cols num_rows : ℕ)
    (divider_fmt : table_divider_format) (col_align : Option (ℕ → table_align)) : List Line :=
  let column_widths := column_width header values num_rows
  let width := table_width column_widths num_cols
  [.blank] ++
    print_table_row num_cols header column_widths COLUMN_PADDING width false col_align ++
    (List.range num_rows).flatMap (fun j =>
      print_table_row num_cols (values j) column_widths COLUMN_PADDING width
        (divider_before divider_fmt values j) col_align) ++
    [.blank]

/-! ### Memory -/

inductive Block
  | header
  | heading (i : ℕ)
  | rows
  | row (i : ℕ)
  | cell (i j : ℕ)
  | widths
  deriving DecidableEq, Repr

/-- What the table is made of: the sizes that the caller asks for, which allocations succeed, and
what the callbacks return and fill in. -/
structure Table where
  n_fields : ℕ
  n_rows : ℕ
  alloc : Block → Bool
  header_ok : Bool
  header : ℕ → Text
  values_ok : Bool
  n_rows_table : ℕ
  n_fields_table : ℕ
  values : ℕ → ℕ → Text
  divider_fmt : table_divider_format
  col_align : Option (ℕ → table_align)

/-- What was allocated, what was freed, the elements of the arrays that were accessed, and what was
printed. -/
structure Trace where
  allocated : List Block
  freed : List Block
  accessed : List Block
  printed : List Line

namespace Table

variable (t : Table)

/-- The headings in the order of their allocation. -/
def headings : List Block := (List.range t.n_fields).map .heading

/-- A row and its cells, in the order of their allocation. -/
def rowBlocks (i : ℕ) : List Block := .row i :: (List.range t.n_fields).map (.cell i)

/-- The rows in the order of their allocation. -/
def allRows : List Block := (List.range t.n_rows).flatMap t.rowBlocks

/-- Allocation goes on up to the first that fails. -/
def gotHeadings : List Block := t.headings.takeWhile t.alloc

def gotRows : List Block := t.allRows.takeWhile t.alloc

/-- A row is freed with the cells that it has, as far as they are looked for. An element outside the
row is accessed, and what becomes of it is open. -/
def freeRow (got : List Block) (i : ℕ) : List Block × List Block :=
  if .row i ∈ got then
    (((List.range 3).filter fun j => j < t.n_fields ∧ .cell i j ∈ got).map (.cell i) ++ [.row i],
      (List.range 3).map (.cell i))
  else ([], [])

/-- The label `delete_rows`. -/
def delete_rows (got : List Block) : List Block × List Block :=
  ((List.range t.n_rows).flatMap (fun i => (t.freeRow got i).1) ++ [.rows],
    (List.range t.n_rows).flatMap fun i => (t.freeRow got i).2)

/-- The label `delete_header`. -/
def delete_header (got : List Block) : List Block :=
  (t.headings.filter (· ∈ got)) ++ [.header]

/-- The elements that `print_table` reads. -/
def printAccesses : List Block :=
  (List.range t.n_fields_table).map .heading ++
    (List.range t.n_rows_table).flatMap (fun j => (List.range t.n_fields_table).map (.cell j)) ++
    if t.divider_fmt = .TABLE_DIVIDER_GROUPS then
      (List.range t.n_rows_table).flatMap fun j => if j ≠ 0 then [.cell j 0] else []
    else []

/-- The rows were allocated: what is freed, accessed and printed. -/
def fill (got : List Block) : Trace :=
  if t.allRows.all t.alloc then
    if t.values_ok && t.n_rows_table ≤ t.n_rows && t.n_fields_table ≤ t.n_fields then
      if t.alloc .widths then
        ⟨[.widths], [.widths] ++ (t.delete_rows got).1, t.printAccesses ++ (t.delete_rows got).2,
          print_table t.header t.values t.n_fields_table t.n_rows_table t.divider_fmt t.col_align⟩
      else ⟨[], (t.delete_rows got).1, (t.delete_rows got).2, []⟩
    else ⟨[], (t.delete_rows got).1, (t.delete_rows got).2, []⟩
  else ⟨[], (t.delete_rows got).1, (t.delete_rows got).2, []⟩

def build : Trace :=
  if t.alloc .rows then
    let r := t.fill t.gotRows
    { r with
      allocated := [.rows] ++ t.gotRows ++ r.allocated
      freed := r.freed ++ t.delete_header t.gotHeadings }
  else ⟨[], t.delete_header t.gotHeadings, [], []⟩

def print_table_data : Trace :=
  if t.alloc .header then
    if t.headings.all t.alloc && t.header_ok then
      { t.build with allocated := [.header] ++ t.gotHeadings ++ t.build.allocated }
    else ⟨[.header] ++ t.gotHeadings, t.delete_header t.gotHeadings, [], []⟩
  else ⟨[], [], [], []⟩

end Table

end Amr.App
