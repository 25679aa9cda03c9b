/-!
# Edit distance

The least number of insertions, deletions and replacements of single characters that turns one
text into another, computed row by row: the row of a prefix `as` of the first text holds, for each
prefix of the second text, its distance from `as`.
-/

namespace CrossSource.Text

/-- The cells of a row from the second on. `diagonal` and `left` are the cells above left and to
the left of the next one, and the list holds the cells above it and after. -/
def cellsFrom (a : Char) : List Char → Nat → List Nat → Nat → List Nat
  | b :: bs, diagonal, above :: row, left =>
    let cell := min (min (above + 1) (left + 1)) (diagonal + if a = b then 0 else 1)
    cell :: cellsFrom a bs above row cell
  | _, _, _, _ => []

/-- The row of `as ++ [a]`, given the row of `as`. -/
def nextRow (bs : List Char) (row : List Nat) (a : Char) : List Nat :=
  match row with
  | [] => []
  | first :: rest => (first + 1) :: cellsFrom a bs first rest (first + 1)

/-- The row of the empty text. -/
def firstRow (bs : List Char) : List Nat := List.range (bs.length + 1)

/-- The row of the whole first text. -/
def lastRow (as bs : List Char) : List Nat := as.foldl (nextRow bs) (firstRow bs)

/-- The edit distance of two texts, counted in characters. -/
def editDistance (a b : String) : Nat := (lastRow a.toList b.toList).getLastD 0

end CrossSource.Text
