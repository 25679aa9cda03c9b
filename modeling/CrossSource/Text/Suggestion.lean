import CrossSource.Text.Case
import CrossSource.Text.EditDistance

/-!
# Suggestions for a misspelled name

The candidate nearest to a name, letter case aside, is suggested if no more than half of the
longer name would have to change. Of equally near candidates the earliest counts.
-/

namespace CrossSource.Text

/-- The edit distance of a name, already in small letters, from a candidate. -/
def distanceTo (name candidate : String) : Nat := editDistance name (lower candidate)

/-- The earliest candidate at the least distance, with that distance. -/
def nearest (name : String) : List String → Option (String × Nat)
  | [] => none
  | c :: cs =>
    let d := distanceTo name c
    match nearest name cs with
    | some (c', d') => if d' < d then some (c', d') else some (c, d)
    | none => some (c, d)

/-- The nearest candidate, if it is near enough to be meant. -/
def suggestion (name : String) (candidates : List String) : Option String :=
  let name := lower name
  match nearest name candidates with
  | none => none
  | some (candidate, distance) =>
    if distance ≤ max name.length candidate.length / 2 then some candidate else none

end CrossSource.Text
