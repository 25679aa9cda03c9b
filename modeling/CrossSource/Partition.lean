/-!
# Partitions of positions

A partition of the positions below a size into classes, as a forest: each position points to
another one of its class, the root of a class to itself. Looking for a root shortens the way to it
by letting every position passed point to its grandparent.
-/

namespace CrossSource

structure Partition where
  parents : List Nat

namespace Partition

/-- Every position is a class of its own. -/
def discrete (size : Nat) : Partition := ⟨List.range size⟩

def size (p : Partition) : Nat := p.parents.length

def parent (p : Partition) (x : Nat) : Nat := p.parents.getD x x

def setParent (p : Partition) (x y : Nat) : Partition := ⟨p.parents.set x y⟩

/-- The root of a position, looked for in a number of steps, and the forest with a shorter way. -/
def findWithin : Nat → Partition → Nat → Partition × Nat
  | 0, p, x => (p, x)
  | steps + 1, p, x =>
    if p.parent x = x then (p, x)
    else
      let up := p.parent (p.parent x)
      findWithin steps (p.setParent x up) up

/-- The root of a position. No way to a root has more steps than there are positions. -/
def find (p : Partition) (x : Nat) : Partition × Nat := findWithin p.size p x

def root (p : Partition) (x : Nat) : Nat := (p.find x).2

/-- Unites the classes of two positions. -/
def union (p : Partition) (a b : Nat) : Partition :=
  let (p, ra) := p.find a
  let (p, rb) := p.find b
  if ra = rb then p else p.setParent rb ra

end Partition

end CrossSource
