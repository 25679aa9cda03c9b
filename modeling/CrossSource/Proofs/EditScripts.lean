import CrossSource.Text.EditDistance
import Mathlib.Data.List.Induction
import Mathlib.Order.Bounds.Basic
/-!
# The edit distance is the least number of edits

`Edits` says that so many insertions, deletions and replacements of single characters turn one text
into another. Edits may undo each other and come in any order; an alignment (`Aligned`) writes the
two texts side by side instead and counts the columns that differ. Each alignment is a list of
edits, and no list of edits is shorter than the best alignment (`Edits.aligned`). The rows of the
computation hold the least alignments of prefixes (`IsRow`), so that the distance is the least
number of edits (`isLeast_editDistance`).

The rows are computed in two buffers of cells, where each row overwrites the row before the last
one. `distanceInCells` fails where a cell is not there, and it never does (`distanceInCells_eq`).
-/

namespace CrossSource.Text

variable {as bs cs ds : List Char} {m n : Nat}

/-! ## Edits -/

/-- One character is inserted, deleted or replaced. -/
inductive OneEdit : List Char → List Char → Prop
  | insert (before after : List Char) (c : Char) : OneEdit (before ++ after) (before ++ c :: after)
  | delete (before after : List Char) (c : Char) : OneEdit (before ++ c :: after) (before ++ after)
  | replace (before after : List Char) (c d : Char) :
    OneEdit (before ++ c :: after) (before ++ d :: after)

/-- So many edits, one after the other, turn the first text into the second one. -/
inductive Edits : Nat → List Char → List Char → Prop
  | done (as : List Char) : Edits 0 as as
  | edit {as bs cs : List Char} {n : Nat} : OneEdit as bs → Edits n bs cs → Edits (n + 1) as cs

theorem OneEdit.symm (h : OneEdit as bs) : OneEdit bs as := by
  cases h with
  | insert before after c => exact .delete before after c
  | delete before after c => exact .insert before after c
  | replace before after c d => exact .replace before after d c

theorem Edits.trans (h : Edits m as bs) (h' : Edits n bs cs) : Edits (m + n) as cs := by
  induction h with
  | done _ => rwa [Nat.zero_add]
  | edit he _ ih =>
    rw [Nat.add_right_comm]
    exact .edit he (ih h')

theorem Edits.symm (h : Edits n as bs) : Edits n bs as := by
  induction h with
  | done as => exact .done as
  | edit he _ ih => exact ih.trans (.edit he.symm (.done _))

theorem edits_zero_iff : Edits 0 as bs ↔ as = bs := by
  constructor
  · intro h
    cases h with
    | done _ => rfl
  · rintro rfl
    exact .done as

/-- Edits leave alone what stands in front. -/
theorem Edits.cons (c : Char) (h : Edits n as bs) : Edits n (c :: as) (c :: bs) := by
  induction h with
  | done as => exact .done _
  | edit he _ ih =>
    refine .edit ?_ ih
    cases he with
    | insert before after d => exact .insert (c :: before) after d
    | delete before after d => exact .delete (c :: before) after d
    | replace before after d e => exact .replace (c :: before) after d e

/-! ## Alignments -/

/-- The cost of a column of two characters. -/
def mismatch (a b : Char) : Nat := if a = b then 0 else 1

theorem mismatch_le (a b : Char) : mismatch a b ≤ 1 := by
  unfold mismatch
  split <;> omega

/-- Two texts side by side in columns of two characters or of one and a gap, at the cost of a gap or
a mismatch each. -/
inductive Aligned : List Char → List Char → Nat → Prop
  | nil : Aligned [] [] 0
  | insert {as bs : List Char} {n : Nat} (b : Char) : Aligned as bs n → Aligned as (b :: bs) (n + 1)
  | delete {as bs : List Char} {n : Nat} (a : Char) : Aligned as bs n → Aligned (a :: as) bs (n + 1)
  | pair {as bs : List Char} {n : Nat} (a b : Char) :
    Aligned as bs n → Aligned (a :: as) (b :: bs) (n + mismatch a b)

/-- What the columns say can be done edit by edit. -/
theorem Aligned.edits (h : Aligned as bs n) : Edits n as bs := by
  induction h with
  | nil => exact .done []
  | @insert as bs n b _ ih => exact ih.trans (.edit (.insert [] bs b) (.done _))
  | @delete as bs n a _ ih => exact .edit (.delete [] as a) ih
  | @pair as bs n a b _ ih =>
    by_cases hab : a = b
    · subst hab
      simpa [mismatch] using ih.cons a
    · simp only [mismatch, if_neg hab]
      exact .edit (.replace [] as a b) (ih.cons b)

theorem Aligned.append (h : Aligned as bs m) (h' : Aligned cs ds n) :
    Aligned (as ++ cs) (bs ++ ds) (m + n) := by
  induction h with
  | nil => simpa using h'
  | insert b _ ih =>
    rw [Nat.add_right_comm]
    exact .insert b ih
  | delete a _ ih =>
    rw [Nat.add_right_comm]
    exact .delete a ih
  | pair a b _ ih =>
    rw [Nat.add_right_comm]
    exact .pair a b ih

/-- Where the first text is cut, the columns can be cut as well. -/
theorem Aligned.cut (h : Aligned as ds n) : ∀ {bs cs : List Char}, as = bs ++ cs →
    ∃ es fs k l, ds = es ++ fs ∧ n = k + l ∧ Aligned bs es k ∧ Aligned cs fs l := by
  induction h with
  | nil =>
    intro bs cs heq
    obtain ⟨rfl, rfl⟩ := List.nil_eq_append_iff.1 heq
    exact ⟨[], [], 0, 0, rfl, rfl, .nil, .nil⟩
  | insert b _ ih =>
    intro bs cs heq
    obtain ⟨es, fs, k, l, rfl, rfl, hk, hl⟩ := ih heq
    exact ⟨b :: es, fs, k + 1, l, rfl, by omega, .insert b hk, hl⟩
  | @delete as ds n a hrest ih =>
    intro bs cs heq
    rcases List.cons_eq_append_iff.1 heq with ⟨rfl, rfl⟩ | ⟨bs, rfl, rfl⟩
    · exact ⟨[], ds, 0, n + 1, rfl, by omega, .nil, hrest.delete a⟩
    · obtain ⟨es, fs, k, l, rfl, rfl, hk, hl⟩ := ih rfl
      exact ⟨es, fs, k + 1, l, rfl, by omega, .delete a hk, hl⟩
  | @pair as ds n a d hrest ih =>
    intro bs cs heq
    rcases List.cons_eq_append_iff.1 heq with ⟨rfl, rfl⟩ | ⟨bs, rfl, rfl⟩
    · exact ⟨[], d :: ds, 0, n + mismatch a d, rfl, by omega, .nil, hrest.pair a d⟩
    · obtain ⟨es, fs, k, l, rfl, rfl, hk, hl⟩ := ih rfl
      exact ⟨d :: es, fs, k + mismatch a d, l, rfl, by omega, .pair a d hk, hl⟩

theorem aligned_self (as : List Char) : Aligned as as 0 := by
  induction as with
  | nil => exact .nil
  | cons a as ih => simpa [mismatch] using ih.pair a a

theorem aligned_nil_left (bs : List Char) : Aligned [] bs bs.length := by
  induction bs with
  | nil => exact .nil
  | cons b bs ih => exact ih.insert b

theorem aligned_nil_right (as : List Char) : Aligned as [] as.length := by
  induction as with
  | nil => exact .nil
  | cons a as ih => exact ih.delete a

/-- Each column costs as much as the texts differ in length, or more. -/
theorem Aligned.length_le (h : Aligned as bs n) : bs.length ≤ as.length + n ∧
    as.length ≤ bs.length + n := by
  induction h with
  | nil => exact ⟨Nat.le_refl _, Nat.le_refl _⟩
  | insert | delete | pair =>
    simp only [List.length_cons]
    omega

theorem Aligned.reverse (h : Aligned as bs n) : Aligned as.reverse bs.reverse n := by
  induction h with
  | nil => exact .nil
  | insert b _ ih => simpa using ih.append (.insert b .nil)
  | delete a _ ih => simpa using ih.append (.delete a .nil)
  | pair a b _ ih => simpa using ih.append (.pair a b .nil)

/-- The last column of two texts that both have a last character. -/
theorem Aligned.last {a b : Char} (h : Aligned (as ++ [a]) (bs ++ [b]) n) :
    (∃ k, n = k + 1 ∧ Aligned as (bs ++ [b]) k) ∨ (∃ k, n = k + 1 ∧ Aligned (as ++ [a]) bs k) ∨
      ∃ k, n = k + mismatch a b ∧ Aligned as bs k := by
  have hrev := h.reverse
  rw [List.reverse_append, List.reverse_append, List.reverse_singleton, List.reverse_singleton,
    List.singleton_append, List.singleton_append] at hrev
  cases hrev with
  | insert _ hrest => exact .inr (.inl ⟨_, rfl, by simpa using hrest.reverse⟩)
  | delete _ hrest => exact .inl ⟨_, rfl, by simpa using hrest.reverse⟩
  | pair _ _ hrest => exact .inr (.inr ⟨_, rfl, by simpa using hrest.reverse⟩)

/-! ## No edits are fewer than the columns need -/

/-- One character or none, beside a text of which all but one character have to be paid for
anyway. -/
theorem exists_aligned_of_length_le (h : as.length ≤ 1) (hbs : bs.length ≤ n + 1) :
    ∃ k ≤ n + 1, Aligned as bs k := by
  match as, bs with
  | [], bs => exact ⟨bs.length, hbs, aligned_nil_left bs⟩
  | [a], [] => exact ⟨1, by omega, aligned_nil_right [a]⟩
  | [a], b :: bs =>
    have hcost := mismatch_le a b
    rw [List.length_cons] at hbs
    exact ⟨bs.length + mismatch a b, by omega, (aligned_nil_left bs).pair a b⟩

/-- An edit in front of an alignment adds one to its cost at most. -/
theorem OneEdit.aligned (he : OneEdit as bs) (h : Aligned bs cs n) :
    ∃ k ≤ n + 1, Aligned as cs k := by
  -- The edit changes a part of one character or none and leaves what stands around it.
  obtain ⟨before, old, new, after, rfl, rfl, hold, hnew⟩ : ∃ before old new after,
      as = before ++ (old ++ after) ∧ bs = before ++ (new ++ after) ∧
        old.length ≤ 1 ∧ new.length ≤ 1 := by
    cases he with
    | insert before after c => exact ⟨before, [], [c], after, rfl, rfl, by simp, by simp⟩
    | delete before after c => exact ⟨before, [c], [], after, rfl, rfl, by simp, by simp⟩
    | replace before after c d => exact ⟨before, [c], [d], after, rfl, rfl, by simp, by simp⟩
  obtain ⟨xs, rest, k, l, rfl, rfl, hbefore, hrest⟩ := h.cut rfl
  obtain ⟨ys, zs, l, r, rfl, rfl, hchanged, hafter⟩ := hrest.cut rfl
  have hlen := hchanged.length_le
  have hys : ys.length ≤ l + 1 := by omega
  obtain ⟨l', hl', hchanged'⟩ := exists_aligned_of_length_le hold hys
  exact ⟨k + (l' + r), by omega, hbefore.append (hchanged'.append hafter)⟩

/-- Edits are never fewer than what some alignment costs. -/
theorem Edits.aligned (h : Edits n as bs) : ∃ k ≤ n, Aligned as bs k := by
  induction h with
  | done as => exact ⟨0, Nat.le_refl 0, aligned_self as⟩
  | edit he _ ih =>
    obtain ⟨k, hk, haligned⟩ := ih
    obtain ⟨k', hk', haligned'⟩ := he.aligned haligned
    exact ⟨k', by omega, haligned'⟩

/-! ## Least alignments -/

/-- The cost of a best alignment of the two texts. -/
def Least (as bs : List Char) (n : Nat) : Prop := IsLeast {k | Aligned as bs k} n

theorem least_nil_left (bs : List Char) : Least [] bs bs.length :=
  ⟨aligned_nil_left bs, fun _ hk => by simpa using (Aligned.length_le hk).1⟩

theorem least_nil_right (as : List Char) : Least as [] as.length :=
  ⟨aligned_nil_right as, fun _ hk => by simpa using (Aligned.length_le hk).2⟩

/-- A best alignment of two texts is a best one of the texts without the last character of the one,
of the other or of both, and one more column. -/
theorem Least.cell {a b : Char} {above left diagonal : Nat} (habove : Least as (bs ++ [b]) above)
    (hleft : Least (as ++ [a]) bs left) (hdiagonal : Least as bs diagonal) :
    Least (as ++ [a]) (bs ++ [b])
      (min (min (above + 1) (left + 1)) (diagonal + mismatch a b)) := by
  constructor
  · have hdelete : Aligned (as ++ [a]) (bs ++ [b]) (above + 1) := by
      simpa using habove.1.append (.delete a .nil)
    have hinsert : Aligned (as ++ [a]) (bs ++ [b]) (left + 1) := by
      simpa using hleft.1.append (.insert b .nil)
    have hpair : Aligned (as ++ [a]) (bs ++ [b]) (diagonal + mismatch a b) := by
      simpa using hdiagonal.1.append (.pair a b .nil)
    have hone : min (min (above + 1) (left + 1)) (diagonal + mismatch a b) = above + 1 ∨
        min (min (above + 1) (left + 1)) (diagonal + mismatch a b) = left + 1 ∨
        min (min (above + 1) (left + 1)) (diagonal + mismatch a b) = diagonal + mismatch a b := by
      omega
    rcases hone with h | h | h <;> rw [h] <;> assumption
  · intro n hn
    rcases Aligned.last hn with ⟨k, rfl, hk⟩ | ⟨k, rfl, hk⟩ | ⟨k, rfl, hk⟩
    · have := habove.2 hk
      omega
    · have := hleft.2 hk
      omega
    · have := hdiagonal.2 hk
      omega

/-! ## Rows -/

/-- The cells behind the one for `before`: of each longer prefix the cost of a best alignment with
`as`. -/
inductive Cells (as : List Char) : List Char → List Char → List Nat → Prop
  | nil (before : List Char) : Cells as before [] []
  | cons {before bs : List Char} {b : Char} {cell : Nat} {row : List Nat} :
    Least as (before ++ [b]) cell → Cells as (before ++ [b]) bs row →
      Cells as before (b :: bs) (cell :: row)

/-- The row of `as`: of each prefix of `bs` the cost of a best alignment with `as`. -/
def IsRow (as bs : List Char) (row : List Nat) : Prop :=
  ∃ rest, row = as.length :: rest ∧ Cells as [] bs rest

theorem cells_first (before bs : List Char) :
    Cells [] before bs (List.range' (before.length + 1) bs.length) := by
  induction bs generalizing before with
  | nil => exact .nil before
  | cons b bs ih =>
    have hcell := least_nil_left (before ++ [b])
    have hrest := ih (before ++ [b])
    rw [List.length_append, List.length_singleton] at hcell hrest
    exact .cons hcell hrest

theorem isRow_firstRow (bs : List Char) : IsRow [] bs (firstRow bs) := by
  refine ⟨_, ?_, cells_first [] bs⟩
  rw [firstRow, List.range_eq_range', List.range'_succ]
  rfl

/-- The next row needs of the one before only that its cells are best costs. -/
theorem Cells.next {before : List Char} {row : List Nat} {a : Char}
    (h : Cells as before bs row) {diagonal left : Nat} (hdiagonal : Least as before diagonal)
    (hleft : Least (as ++ [a]) before left) :
    Cells (as ++ [a]) before bs (cellsFrom a bs diagonal row left) := by
  induction h generalizing diagonal left with
  | nil before => exact .nil before
  | cons habove _ ih =>
    have hcell := habove.cell hleft hdiagonal
    exact .cons hcell (ih habove hcell)

theorem IsRow.next {row : List Nat} (h : IsRow as bs row) (a : Char) :
    IsRow (as ++ [a]) bs (nextRow bs row a) := by
  obtain ⟨rest, rfl, hcells⟩ := h
  have hlen : (as ++ [a]).length = as.length + 1 := by simp
  have hleft := least_nil_right (as ++ [a])
  rw [hlen] at hleft
  exact ⟨_, by rw [hlen]; rfl, hcells.next (least_nil_right as) hleft⟩

theorem lastRow_concat (as bs : List Char) (a : Char) :
    lastRow (as ++ [a]) bs = nextRow bs (lastRow as bs) a := by
  simp [lastRow]

/-- Row by row the computation comes to the row of the whole first text. -/
theorem isRow_lastRow (as bs : List Char) : IsRow as bs (lastRow as bs) := by
  induction as using List.reverseRecOn with
  | nil => exact isRow_firstRow bs
  | append_singleton as a ih =>
    rw [lastRow_concat]
    exact ih.next a

theorem Cells.least_last {before : List Char} {row : List Nat} (h : Cells as before bs row)
    {first : Nat} (hfirst : Least as before first) :
    Least as (before ++ bs) ((first :: row).getLastD 0) := by
  induction h generalizing first with
  | nil before => simpa using hfirst
  | cons hcell _ ih => simpa using ih hcell

/-- The last cell of the last row is about both texts as they are. -/
theorem least_editDistance (a b : String) : Least a.toList b.toList (editDistance a b) := by
  obtain ⟨rest, hrow, hcells⟩ := isRow_lastRow a.toList b.toList
  rw [editDistance, hrow]
  exact hcells.least_last (least_nil_right a.toList)

theorem isLeast_editDistance (a b : String) :
    IsLeast {n | Edits n a.toList b.toList} (editDistance a b) := by
  obtain ⟨haligned, hleast⟩ := least_editDistance a b
  refine ⟨haligned.edits, fun n hn => ?_⟩
  obtain ⟨k, hk, haligned'⟩ := Edits.aligned hn
  exact (hleast haligned').trans hk

/-! ## Rows in two buffers -/

/-- A cell overwritten, if it is there. -/
def setCell? (row : List Nat) (j cell : Nat) : Option (List Nat) :=
  if j < row.length then some (row.set j cell) else none

/-- Fills the cell behind the one at `j`, with the row above it at hand. -/
def fillCell (as bs : List Char) (above : List Nat) (i : Nat) (row : List Nat) (j : Nat) :
    Option (List Nat) := do
  let a ← as[i]?
  let b ← bs[j]?
  let up ← above[j + 1]?
  let left ← row[j]?
  let diagonal ← above[j]?
  setCell? row (j + 1) (min (min (up + 1) (left + 1)) (diagonal + mismatch a b))

/-- Fills the second buffer from the first one, and lets them change places. -/
def fillRow (as bs : List Char) (buffers : List Nat × List Nat) (i : Nat) :
    Option (List Nat × List Nat) := do
  let (above, row) := buffers
  let row ← setCell? row 0 (i + 1)
  let row ← (List.range bs.length).foldlM (fillCell as bs above i) row
  return (row, above)

/-- The last cell of the last row, where the rows are computed in two buffers. -/
def distanceInCells (as bs : List Char) : Option Nat := do
  let buffers := (List.range (bs.length + 1), List.replicate (bs.length + 1) 0)
  let (row, _) ← (List.range as.length).foldlM (fillRow as bs) buffers
  row[bs.length]?

/-- Of a row that is being overwritten, the next cell. -/
theorem setCell?_overwriting {next old : List Nat} (hlen : old.length = next.length) {k cell : Nat}
    (h : next[k]? = some cell) :
    setCell? (next.take k ++ old.drop k) k cell = some (next.take (k + 1) ++ old.drop (k + 1)) := by
  obtain ⟨hk, hcell⟩ := List.getElem?_eq_some_iff.1 h
  have hold : k < old.length := by omega
  have htake : (next.take k).length = k := List.length_take_of_le hk.le
  have hfits : k < (next.take k ++ old.drop k).length := by
    rw [List.length_append, htake, List.length_drop]
    omega
  rw [setCell?, if_pos hfits, List.set_append_right _ _ (by omega), htake, Nat.sub_self,
    List.drop_eq_getElem_cons hold, List.set_cons_zero, List.take_add_one, h, Option.toList_some,
    List.append_assoc, List.singleton_append]

/-- The neighbours that a cell is computed from. -/
theorem exists_neighbours (a : Char) {bs : List Char} {row : List Nat}
    (hlen : row.length = bs.length) (diagonal left : Nat) {k : Nat} (hk : k < bs.length) :
    ∃ b up l d, bs[k]? = some b ∧ row[k]? = some up ∧
      (left :: cellsFrom a bs diagonal row left)[k]? = some l ∧ (diagonal :: row)[k]? = some d ∧
      (cellsFrom a bs diagonal row left)[k]? =
        some (min (min (up + 1) (l + 1)) (d + mismatch a b)) := by
  induction bs generalizing row diagonal left k with
  | nil => cases hk
  | cons b bs ih =>
    obtain ⟨up, row, rfl⟩ := List.exists_cons_of_length_eq_add_one hlen
    cases k with
    | zero => exact ⟨b, up, left, diagonal, rfl, rfl, rfl, rfl, rfl⟩
    | succ k =>
      simp only [List.length_cons, Nat.add_right_cancel_iff, Nat.add_lt_add_iff_right] at hlen hk
      exact ih hlen _ _ hk

theorem length_cellsFrom (a : Char) {bs : List Char} {row : List Nat}
    (hlen : row.length = bs.length) (diagonal left : Nat) :
    (cellsFrom a bs diagonal row left).length = bs.length := by
  induction bs generalizing row diagonal left with
  | nil => rfl
  | cons b bs ih =>
    obtain ⟨up, row, rfl⟩ := List.exists_cons_of_length_eq_add_one hlen
    rw [List.length_cons, List.length_cons, Nat.add_right_cancel_iff] at hlen
    rw [cellsFrom, List.length_cons, List.length_cons, ih hlen]

/-- After some rounds, so many cells and the first one are those of the next row, and the others
still hold what they held. -/
theorem foldlM_fillCell {as : List Char} {i : Nat} {a : Char} (ha : as[i]? = some a) (first : Nat)
    {rest old : List Nat} (hrest : rest.length = bs.length) (hold : old.length = bs.length + 1)
    {k : Nat} (hk : k ≤ bs.length) :
    (List.range k).foldlM (fillCell as bs (first :: rest) i)
        ((nextRow bs (first :: rest) a).take 1 ++ old.drop 1) =
      some ((nextRow bs (first :: rest) a).take (k + 1) ++ old.drop (k + 1)) := by
  have hnext : old.length = (nextRow bs (first :: rest) a).length := by
    rw [hold, nextRow, List.length_cons, length_cellsFrom a hrest]
  induction k with
  | zero => rfl
  | succ k ih =>
    obtain ⟨b, up, left, diagonal, hb, hup, hleft, hdiagonal, hcell⟩ :=
      exists_neighbours a hrest first (first + 1) hk
    have hread : ((nextRow bs (first :: rest) a).take (k + 1) ++ old.drop (k + 1))[k]? =
        some left := by
      rw [List.getElem?_append_left (by rw [List.length_take]; omega),
        List.getElem?_take_of_lt (Nat.lt_succ_self k)]
      exact hleft
    have hset := setCell?_overwriting (k := k + 1) hnext hcell
    rw [List.range_succ, List.foldlM_append, ih (by omega)]
    simp only [Option.bind_eq_bind, Option.bind_some, List.foldlM_cons, List.foldlM_nil, fillCell,
      ha, hb, List.getElem?_cons_succ, hup, hread, hdiagonal, hset]
    rfl

theorem fillRow_eq {as : List Char} {i : Nat} {a : Char} (ha : as[i]? = some a)
    {rest old : List Nat} (hrest : rest.length = bs.length) (hold : old.length = bs.length + 1) :
    fillRow as bs (i :: rest, old) i = some (nextRow bs (i :: rest) a, i :: rest) := by
  have hnext : old.length = (nextRow bs (i :: rest) a).length := by
    rw [hold, nextRow, List.length_cons, length_cellsFrom a hrest]
  have hcell : (nextRow bs (i :: rest) a)[0]? = some (i + 1) := rfl
  have hfirst := setCell?_overwriting hnext hcell
  have hcells := foldlM_fillCell ha i hrest hold (Nat.le_refl bs.length)
  rw [List.take_zero, List.drop_zero, List.nil_append] at hfirst
  rw [List.drop_of_length_le hold.le, List.append_nil, ← hold, hnext, List.take_length] at hcells
  simp only [fillRow, hfirst, hcells, Option.bind_eq_bind, Option.bind_some, Option.pure_def]

theorem Cells.length_eq {before : List Char} {row : List Nat} (h : Cells as before bs row) :
    row.length = bs.length := by
  induction h with
  | nil _ => rfl
  | cons _ _ ih => rw [List.length_cons, List.length_cons, ih]

/-- After some rounds the first buffer is the row of so many characters. -/
theorem foldlM_fillRow (as bs : List Char) {i : Nat} (hi : i ≤ as.length) :
    ∃ old : List Nat, old.length = bs.length + 1 ∧
      (List.range i).foldlM (fillRow as bs)
          (List.range (bs.length + 1), List.replicate (bs.length + 1) 0) =
        some (lastRow (as.take i) bs, old) := by
  induction i with
  | zero => exact ⟨_, List.length_replicate, rfl⟩
  | succ i ih =>
    obtain ⟨old, hold, hrounds⟩ := ih (by omega)
    obtain ⟨rest, hrow, hcells⟩ := isRow_lastRow (as.take i) bs
    rw [List.length_take_of_le (by omega)] at hrow
    have ha : as[i]? = some as[i] := List.getElem?_eq_getElem hi
    refine ⟨i :: rest, by rw [List.length_cons, hcells.length_eq], ?_⟩
    rw [List.range_succ (n := i), List.foldlM_append, hrounds, hrow, List.take_add_one, ha,
      Option.toList_some, lastRow_concat, hrow]
    simp only [Option.bind_eq_bind, Option.bind_some, List.foldlM_cons, List.foldlM_nil,
      fillRow_eq ha hcells.length_eq hold]
    rfl

/-- Every cell that is read or written is there, and what the buffers hold in the end is the row
that the distance is the last cell of. -/
theorem distanceInCells_eq (a b : String) :
    distanceInCells a.toList b.toList = some (editDistance a b) := by
  obtain ⟨old, -, hrounds⟩ := foldlM_fillRow a.toList b.toList (Nat.le_refl a.toList.length)
  obtain ⟨rest, hrow, hcells⟩ := isRow_lastRow a.toList b.toList
  have hlength : b.toList.length < (a.toList.length :: rest).length := by
    rw [List.length_cons, hcells.length_eq]
    exact Nat.lt_succ_self _
  have hlast : (lastRow a.toList b.toList)[b.toList.length]? = some (editDistance a b) := by
    rw [editDistance, hrow, List.getLastD_eq_getLast?, List.getLast?_eq_getElem?,
      List.length_cons, hcells.length_eq, Nat.add_sub_cancel, List.getElem?_eq_getElem hlength]
    rfl
  rw [List.take_length] at hrounds
  simp only [distanceInCells, hrounds, Option.bind_eq_bind, Option.bind_some, hlast]

/-! ## The distance -/

/-- The edit distance of two texts is the least number of insertions, deletions and replacements of
single characters that turns one into the other, and so a metric. The computation in two buffers
never looks for a cell that is not there and comes to the same number. -/
theorem editDistance_is_least (a b : String) :
    IsLeast {n | Edits n a.toList b.toList} (editDistance a b) ∧
    (editDistance a b = 0 ↔ a = b) ∧ editDistance a b = editDistance b a ∧
    (∀ c, editDistance a c ≤ editDistance a b + editDistance b c) ∧
    distanceInCells a.toList b.toList = some (editDistance a b) := by
  have hleast := isLeast_editDistance a b
  refine ⟨hleast, ?_, ?_, fun c => ?_, distanceInCells_eq a b⟩
  · constructor
    · intro hzero
      have hedits : Edits 0 a.toList b.toList := hzero ▸ hleast.1
      exact String.toList_injective (edits_zero_iff.1 hedits)
    · rintro rfl
      exact Nat.le_zero.1 (hleast.2 (.done _))
  · exact le_antisymm (hleast.2 (isLeast_editDistance b a).1.symm)
      ((isLeast_editDistance b a).2 hleast.1.symm)
  · exact (isLeast_editDistance a c).2 (hleast.1.trans (isLeast_editDistance b c).1)

example : editDistance "kitten" "sitting" = 3 := by decide +kernel

end CrossSource.Text
