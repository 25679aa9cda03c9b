import CrossSource.Document.Decoder
import CrossSource.Document.Yaml.Tree

/-!
# Reading a YAML text

`read` turns a text into a node: every alias is replaced by what it stands for. An alias may stand
for a tree that it is part of, so the depth of the node is bounded and so is the number of aliases
that are followed.
-/

namespace CrossSource.Document.Yaml

mutual
/-- The anchored trees of a tree with their places. -/
def Tree.anchoredTrees : Tree → List (Nat × Tree)
  | .scalar _ | .reference _ => []
  | .list _ items => anchoredItems items
  | .map _ members => anchoredMembers members
  | .anchored place t => (place, t) :: t.anchoredTrees

def anchoredItems : List Tree → List (Nat × Tree)
  | [] => []
  | t :: ts => t.anchoredTrees ++ anchoredItems ts

def anchoredMembers : List (Tree × Tree) → List (Nat × Tree)
  | [] => []
  | (k, v) :: ms => k.anchoredTrees ++ v.anchoredTrees ++ anchoredMembers ms
end

mutual
/-- The number of scalars, aliases, and beginnings and ends of lists and maps. -/
def Tree.size : Tree → Nat
  | .scalar _ | .reference _ => 1
  | .list _ items => sizeOfItems items + 2
  | .map _ members => sizeOfMembers members + 2
  | .anchored _ t => t.size

def sizeOfItems : List Tree → Nat
  | [] => 0
  | t :: ts => t.size + sizeOfItems ts

def sizeOfMembers : List (Tree × Tree) → Nat
  | [] => 0
  | (k, v) :: ms => k.size + v.size + sizeOfMembers ms
end

/-- What the numbers of aliases stand for. -/
structure References where
  places : List (Nat × Nat)
  trees : List (Nat × Tree)

namespace References

def find? (r : References) (number : Nat) : Option Tree := do
  r.trees.lookup (← r.places.lookup number)

/-- The text of a key. Only scalars are keys. -/
def keyText? (r : References) : Tree → Option String
  | .scalar s | .anchored _ (.scalar s) => some s.text
  | .reference n =>
    match r.find? n with
    | some (.scalar s) => some s.text
    | _ => none
  | _ => none

end References

/-- The greatest number of lists and maps within each other that are kept. -/
def depthLimit : Nat := 128

/-- How many aliases are followed for each part of a text. -/
def aliasLimit : Nat := 100

def label (own : Bool) (n : Node) : Node := if own then .labelled n else n

/-- The node of a tree inside `depth` lists and maps. The state is the number of aliases that may
still be followed. -/
def expand (r : References) : Nat → Nat → Tree → StateM Nat Node
  | 0, _, _ => return .broken .tooDeep
  | _ + 1, _, .scalar s => return .spelled s
  | fuel + 1, depth, .anchored _ t => expand r fuel depth t
  | fuel + 1, depth, .reference n => do
    match ← get, r.find? n with
    | left + 1, some t =>
      set left
      expand r fuel depth t
    | _, _ => return .broken .notYaml
  | fuel + 1, depth, .list own items => do
    if depth < depthLimit then
      let nodes ← items.mapM (expand r fuel (depth + 1))
      return label own (.seq nodes none)
    else return .seq [] (some .tooDeep)
  | fuel + 1, depth, .map own members => do
    if depth < depthLimit then
      let known := members.takeWhile fun m => (r.keyText? m.1).isSome
      let nodes ← known.mapM fun m => do
        return ((r.keyText? m.1).getD "", ← expand r fuel (depth + 1) m.2, none)
      return label own (.map nodes (if known.length < members.length then some .notYaml else none))
    else return .map [] (some .tooDeep)

/-- The node of a text that holds one document. -/
def read (text : String) : Option Node := do
  let (tree, places) ← Tree.ofTokens? (← Token.ofText? text)
  let node := expand ⟨places, tree.anchoredTrees⟩ (3 * (depthLimit + 1)) 0 tree
  return (node.run (aliasLimit * tree.size)).1

/-- Decodes a text that holds one document. -/
def decode {α : Type} (d : Decoder α) (text : String) : Except DecodeError α :=
  match read text with
  | some n => d .yaml n
  | none => .error (.text .notYaml)

end CrossSource.Document.Yaml
