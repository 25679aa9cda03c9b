import CrossSource.Calendar
import CrossSource.Query.Basic

/-!
# Sample rows

A preview shows sample values instead of data. A row has a value for each selected field, by the
type of the field and the number of the row, under the field's name; of several fields of one name
the last one counts. Rows are numbered from 1.
-/

namespace CrossSource.Preview

open Document

structure Column where
  name : String
  type : FieldType
deriving DecidableEq, Repr

/-- The values of a row by name, in ascending order of names. -/
abbrev Row := List (String × Value)

structure Result where
  columns : List Column
  rows : List Row
  totalRows : Nat
  /-- Milliseconds spent on the result. -/
  executionTime : Nat

/-- The selected fields as columns. -/
def columns (q : Query) : List Column := q.selectedFields.map fun f => ⟨f.name, f.type⟩

/-- The day of the first row. -/
def firstDay : Date := ⟨2024, 1, 1⟩

/-- The day of a row: each row is a day later than the one before, as far as dates go. -/
def dayOfRow (n : Nat) : Option Date :=
  let d := Date.ofDayNumber (firstDay.dayNumber + (n - 1))
  if d.year ≤ Date.greatestYear then some d else none

/-- The value of a type in a row. -/
def sample (type : FieldType) (n : Nat) : Value :=
  match type with
  | .string => .str s!"Sample{n}"
  | .number => .int (n * 100)
  | .decimal => .float (Float.ofNat n * 100 + 0.5)
  | .date =>
    match dayOfRow n with
    | some d => .str d.text
    | none => .null
  | .boolean | .other _ => .null

def row (fields : List Field) (n : Nat) : Row :=
  sortMembers (fields.map fun f => (f.name, sample f.type n))

def rows (fields : List Field) (count : Nat) : List Row :=
  (List.range count).map fun i => row fields (i + 1)

/-- The result for a query, with a number of rows. -/
def synthesize (q : Query) (count elapsed : Nat) : Result :=
  let rows := rows q.selectedFields count
  ⟨columns q, rows, rows.length, elapsed⟩

end CrossSource.Preview
