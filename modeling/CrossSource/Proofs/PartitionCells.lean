import CrossSource.Proofs.Partition
/-!
# Partitions in a row of cells

The parents of a partition are kept in a row of cells, one for each position, and a search or a
union reads and writes these cells. `findInCells` and `unionInCells` fail where a position has no
cell or a search takes more steps than there are cells. On a forest and positions of its own they
never fail, and what they come to is what `find` and `union` give (`Forest.findInCells_eq`,
`Forest.unionInCells_eq`), one after the other as well (`Forest.unionAll_spec`,
`Forest.apartInCells_eq`).
-/

namespace CrossSource.Partition

variable {p : Partition} {rank : Nat → Nat}

/-! ## Cells -/

/-- What the cell of a position holds, if there is one. -/
def cell? (p : Partition) (x : Nat) : Option Nat := p.parents[x]?

/-- The cell of a position overwritten, if there is one. -/
def setCell? (p : Partition) (x y : Nat) : Option Partition :=
  if x < p.size then some (p.setParent x y) else none

theorem cell?_eq {x : Nat} (hx : x < p.size) : p.cell? x = some (p.parent x) := by
  simp only [size] at hx
  simp [cell?, parent, hx]

theorem setCell?_eq {x : Nat} (hx : x < p.size) (y : Nat) :
    p.setCell? x y = some (p.setParent x y) := if_pos hx

/-! ## Searches -/

/-- The search for a root from a position on, in a number of rounds: each looks whether the position
is a root, and if it is not, points it to its grandparent and goes on from there. -/
def climbInCells : Nat → Partition → Nat → Option (Partition × Nat)
  | 0, _, _ => none
  | rounds + 1, p, x => do
    let up ← p.cell? x
    if up = x then
      return (p, x)
    let grand ← p.cell? up
    let p ← p.setCell? x grand
    let x ← p.cell? x
    climbInCells rounds p x

/-- The root of a position. One round more than there are cells is taken to be endless. -/
def findInCells (p : Partition) (x : Nat) : Option (Partition × Nat) :=
  climbInCells (p.size + 1) p x

theorem climbInCells_eq (steps : Nat) : ∀ {p : Partition} {x : Nat}, Ranked p rank → x < p.size →
    (p.higher rank x).card ≤ steps →
    climbInCells (steps + 1) p x = some (findWithin steps p x) := by
  induction steps with
  | zero =>
    intro p x h hx hs
    have hroot := h.parent_eq_of_card_higher hx (Nat.le_zero.1 hs)
    simp [climbInCells, findWithin, cell?_eq hx, hroot]
  | succ steps ih =>
    intro p x h hx hs
    by_cases hroot : p.parent x = x
    · simp [climbInCells, findWithin, cell?_eq hx, hroot]
    · have hup : p.parent x < p.size := h.below x hx
      have hgrand : p.parent (p.parent x) < (p.halve x).size := by
        rw [size_halve]
        exact h.below _ hup
      have hnow : (p.halve x).cell? x = some (p.parent (p.parent x)) := by
        rw [cell?_eq (by rwa [size_halve]), parent_halve hx, if_pos rfl]
      rw [climbInCells, cell?_eq hx]
      simp only [Option.bind_eq_bind, Option.bind_some, if_neg hroot, cell?_eq hup, setCell?_eq hx]
      rw [← halve, hnow, Option.bind_some, ih (h.halve hx) hgrand (h.card_higher_halve hx hroot hs),
        findWithin, if_neg hroot]
      rfl

/-- In a forest a search finds all its cells and comes to an end. -/
theorem Forest.findInCells_eq (h : Forest p) {x : Nat} (hx : x < p.size) :
    p.findInCells x = some (p.find x) := by
  obtain ⟨rank, hr⟩ := h
  exact climbInCells_eq p.size hr hx (card_higher_le p rank x)

/-! ## Unions -/

def unionInCells (p : Partition) (a b : Nat) : Option Partition := do
  let (p, ra) ← p.findInCells a
  let (p, rb) ← p.findInCells b
  if ra = rb then
    return p
  p.setCell? rb ra

theorem Forest.unionInCells_eq (h : Forest p) {a b : Nat} (ha : a < p.size) (hb : b < p.size) :
    p.unionInCells a b = some (p.union a b) := by
  obtain ⟨hf, hsize, -⟩ := h.find_spec ha
  have hb' : b < (p.find a).1.size := by rwa [hsize]
  obtain ⟨-, hsize', -⟩ := hf.find_spec hb'
  have hrb : ((p.find a).1.find b).2 < ((p.find a).1.find b).1.size := by
    rw [hsize']
    exact hf.root_lt hb'
  simp only [unionInCells, h.findInCells_eq ha, hf.findInCells_eq hb', Option.bind_eq_bind,
    Option.bind_some, setCell?_eq hrb, union]
  split <;> rfl

/-- Unions along the pairs of a list. -/
def unionAllInCells (p : Partition) (es : List (Nat × Nat)) : Option Partition :=
  es.foldlM (fun p e => p.unionInCells e.1 e.2) p

theorem Forest.unionAll_spec (es : List (Nat × Nat)) : ∀ {p : Partition}, Forest p →
    (∀ e ∈ es, e.1 < p.size ∧ e.2 < p.size) →
    Forest (p.unionAll es) ∧ (p.unionAll es).size = p.size ∧
      p.unionAllInCells es = some (p.unionAll es) := by
  induction es with
  | nil => exact fun h _ => ⟨h, rfl, rfl⟩
  | cons e es ih =>
    intro p h hes
    obtain ⟨ha, hb⟩ := hes e (by simp)
    obtain ⟨hf, hsize, -⟩ := h.union_spec ha hb
    obtain ⟨hforest, hsize', hcells⟩ := ih hf fun e' he' => by
      rw [hsize]
      exact hes e' (List.mem_cons_of_mem _ he')
    refine ⟨hforest, hsize'.trans hsize, ?_⟩
    rw [unionAllInCells, List.foldlM_cons, h.unionInCells_eq ha hb]
    exact hcells

/-! ## Members of other classes -/

/-- Those of some named positions that have another root, where each search starts from the cells
that the one before has left. -/
def apartInCells {α : Type} (root : Nat) : Partition → List (α × Nat) → Option (List α)
  | _, [] => some []
  | p, (a, x) :: rest => do
    let (p, r) ← p.findInCells x
    let others ← apartInCells root p rest
    return if r = root then others else a :: others

theorem Forest.apartInCells_eq {α : Type} (root : Nat) (as : List (α × Nat)) :
    ∀ {p : Partition}, Forest p → (∀ a ∈ as, a.2 < p.size) →
    apartInCells root p as = some ((as.filter fun a => p.root a.2 ≠ root).map Prod.fst) := by
  induction as with
  | nil => exact fun _ _ => rfl
  | cons a as ih =>
    intro p h has
    have hx : a.2 < p.size := has a (by simp)
    obtain ⟨hf, hsize, -⟩ := h.find_spec hx
    have hrest := ih hf fun a' ha' => by
      rw [hsize]
      exact has a' (List.mem_cons_of_mem _ ha')
    simp only [h.root_find hx] at hrest
    have hroot : (p.find a.2).2 = p.root a.2 := rfl
    simp only [apartInCells, h.findInCells_eq hx, Option.bind_eq_bind, Option.bind_some, hrest,
      hroot, Option.pure_def]
    by_cases heq : p.root a.2 = root
    · rw [if_pos heq, List.filter_cons_of_neg (by simpa using heq)]
    · rw [if_neg heq, List.filter_cons_of_pos (by simpa using heq), List.map_cons]

end CrossSource.Partition
