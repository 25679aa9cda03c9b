import CrossSource.Document.Yaml.Token

/-!
# The tree of a YAML text

`Tree.ofTokens?` puts the tokens of a text together to the one document that the text has to hold.
Aliases are left as references to the numbers of their anchors.
-/

namespace CrossSource.Document.Yaml

/-- A document before its aliases are filled in. An anchored tree knows its place in the order in
which anchors are set. Lists and maps may have a tag of one's own. -/
inductive Tree where
  | scalar (s : Spelling)
  | list (own : Bool) (items : List Tree)
  | map (own : Bool) (members : List (Tree × Tree))
  | reference (number : Nat)
  | anchored (place : Nat) (tree : Tree)

namespace Tree

/-- What stands where nothing is written. -/
def empty : Tree := .scalar .empty

end Tree

/-- The anchors that are set so far. A name has the number of names that were known when it was set
last; a number stands for the last place that got it. -/
structure Anchors where
  numbers : List (String × Nat)
  places : List (Nat × Nat)
  count : Nat

namespace Anchors

def none : Anchors := ⟨[], [], 0⟩

/-- Sets an anchor at a new place. -/
def set (a : Anchors) (name : String) : Anchors :=
  let number := a.numbers.length
  let others := a.numbers.filter (·.1 ≠ name)
  ⟨(name, number) :: others, (number, a.count) :: a.places, a.count + 1⟩

end Anchors

/-- What remains to be put together, with what is known from the tokens before. -/
structure Assembly where
  tokens : List Token
  handles : List (String × String)
  anchors : Anchors

abbrev Grammar := StateT Assembly Option

namespace Grammar

def peek : Grammar (Option Token) := return (← get).tokens.head?

def drop : Grammar Unit := modify fun a => { a with tokens := a.tokens.drop 1 }

def peekIs (ts : List Token) : Grammar Bool := return (← peek).any (· ∈ ts)

/-- Passes over a token that has to be there. -/
def expect (t : Token) : Grammar Unit := do if ← peekIs [t] then drop else failure

/-- Passes over a token and tells whether it was there. -/
def accept (t : Token) : Grammar Bool := do
  if ← peekIs [t] then
    drop
    return true
  else return false

/-! ## Anchors and tags -/

/-- What stands before the content of a node. -/
structure Properties where
  place : Option Nat
  tag : Option String

/-- Sets an anchor if there is one and gives its place. -/
def anchor : Grammar (Option Nat) := do
  match ← peek with
  | some (.anchor name) =>
    drop
    let place := (← get).anchors.count
    modify fun a => { a with anchors := a.anchors.set name }
    return some place
  | _ => return none

/-- The whole text of a tag if there is one. Its handle has to be known. -/
def tag : Grammar (Option String) := do
  match ← peek with
  | some (.tag handle name) =>
    drop
    if handle = "" then return some name
    else match (← get).handles.lookup handle with
      | some shorthand => return some (shorthand ++ name)
      | none => failure
  | _ => return none

/-- An anchor and a tag in either order. -/
def properties : Grammar Properties := do
  match ← anchor with
  | some place => return ⟨some place, ← tag⟩
  | none =>
    match ← tag with
    | some t => return ⟨← anchor, some t⟩
    | none => return ⟨none, none⟩

def Properties.own (p : Properties) : Bool :=
  match p.tag.map Tag.ofText with
  | some (.own _) => true
  | _ => false

/-- A scalar with its properties. The tag that is a mark alone says nothing about it. -/
def Properties.scalar (p : Properties) (text : String) (style : Style) : Tree :=
  .scalar ⟨text, style, (p.tag.filter (· ≠ "!")).map Tag.ofText⟩

/-- Properties without content stand for a scalar without text. -/
def Properties.alone (p : Properties) : Grammar Tree :=
  if p.place.isSome || p.tag.isSome then return .scalar ⟨"", .plain, p.tag.map Tag.ofText⟩
  else failure

def Properties.wrap (p : Properties) (t : Tree) : Tree :=
  match p.place with
  | some n => .anchored n t
  | none => t

/-- The number of a known anchor. -/
def number (name : String) : Grammar Nat := do
  match (← get).anchors.numbers.lookup name with
  | some n => return n
  | none => failure

/-! ## Nodes -/

mutual
/-- A node. Inside a map the items of a list may stand at the column of the map. -/
def node : Nat → Bool → Bool → Grammar Tree
  | 0, _, _ => failure
  | fuel + 1, block, inMap => do
    match ← peek with
    | some (.reference name) =>
      drop
      return .reference (← number name)
    | _ =>
      let p ← properties
      return p.wrap (← content fuel block inMap p)

/-- What stands after the properties of a node. -/
def content : Nat → Bool → Bool → Properties → Grammar Tree
  | 0, _, _, _ => failure
  | fuel + 1, block, inMap, p => do
    match ← peek with
    | some (.scalar text style) =>
      drop
      return p.scalar text style
    | some .flowList =>
      drop
      return .list p.own (← flowItems fuel true)
    | some .flowMap =>
      drop
      return .map p.own (← flowMembers fuel true)
    | some .entry =>
      if inMap then return .list p.own (← indentlessItems fuel)
      else p.alone
    | some .blockList =>
      if block then
        drop
        return .list p.own (← blockItems fuel)
      else p.alone
    | some .blockMap =>
      if block then
        drop
        return .map p.own (← blockMembers fuel)
      else p.alone
    | _ => p.alone

/-- A node unless one of some tokens comes first. -/
def nodeUnless : Nat → List Token → Bool → Bool → Grammar Tree
  | 0, _, _, _ => failure
  | fuel + 1, ts, block, inMap => do if ← peekIs ts then return .empty else node fuel block inMap

def blockItems : Nat → Grammar (List Tree)
  | 0 => failure
  | fuel + 1 => do
    if ← accept .blockEnd then return []
    else
      expect .entry
      let item ← nodeUnless fuel [.entry, .blockEnd] true false
      return item :: (← blockItems fuel)

/-- Items at the column of the map around them, up to anything else. -/
def indentlessItems : Nat → Grammar (List Tree)
  | 0 => failure
  | fuel + 1 => do
    if ← accept .entry then
      let item ← nodeUnless fuel [.entry, .key, .value, .blockEnd] true false
      return item :: (← indentlessItems fuel)
    else return []

def blockMembers : Nat → Grammar (List (Tree × Tree))
  | 0 => failure
  | fuel + 1 => do
    if ← accept .blockEnd then return []
    else
      expect .key
      let key ← nodeUnless fuel [.key, .value, .blockEnd] true true
      let value ←
        if ← accept .value then nodeUnless fuel [.key, .value, .blockEnd] true true
        else pure .empty
      return (key, value) :: (← blockMembers fuel)

/-- Items between brackets. A key with a value may stand for a map of one member. -/
def flowItems : Nat → Bool → Grammar (List Tree)
  | 0, _ => failure
  | fuel + 1, first => do
    if ← accept .flowListEnd then return []
    else
      if !first then expect .comma
      if ← accept .flowListEnd then return []
      else if ← accept .key then
        if ← peekIs [.value, .comma, .flowListEnd] then failure
        else
          let key ← node fuel false false
          let value ← flowValue fuel [.comma, .flowListEnd]
          return .map false [(key, value)] :: (← flowItems fuel false)
      else
        let item ← node fuel false false
        return item :: (← flowItems fuel false)

/-- The value after a key between brackets. -/
def flowValue : Nat → List Token → Grammar Tree
  | 0, _ => failure
  | fuel + 1, ts => do
    if ← accept .value then nodeUnless fuel ts false false else return .empty

/-- Members between braces. A node without a value counts as a key. -/
def flowMembers : Nat → Bool → Grammar (List (Tree × Tree))
  | 0, _ => failure
  | fuel + 1, first => do
    if ← accept .flowMapEnd then return []
    else
      if !first then expect .comma
      if ← accept .flowMapEnd then return []
      else if ← accept .key then
        let key ← nodeUnless fuel [.value, .comma, .flowMapEnd] false false
        let value ← flowValue fuel [.comma, .flowMapEnd]
        return (key, value) :: (← flowMembers fuel false)
      else
        let key ← node fuel false false
        return (key, .empty) :: (← flowMembers fuel false)
end

/-! ## Documents -/

/-- The directives before a document, if there are any: one version, and each handle once. -/
def directives : Nat → Bool → Grammar Bool
  | 0, _ => failure
  | fuel + 1, versioned => do
    match ← peek with
    | some .version =>
      if versioned then failure
      else
        drop
        let _ ← directives fuel true
        return true
    | some (.handle name shorthand) =>
      if (← get).handles.any (·.1 = name) then failure
      else
        drop
        modify fun a => { a with handles := (name, shorthand) :: a.handles }
        let _ ← directives fuel versioned
        return true
    | _ => return false

/-- The handles that are known without a directive. -/
def standardHandles : List (String × String) := [("!", "!"), ("!!", "tag:yaml.org,2002:")]

/-- A document and nothing after it. Without directives it need not be marked. -/
def document (fuel : Nat) : Grammar Tree := do
  let directed ← directives fuel false
  modify fun a => { a with handles := a.handles ++ standardHandles }
  let marked ← accept .documentStart
  let tree ←
    if directed && !marked then failure
    else if (← peek).isNone || (marked && (← peek).any startsDocument) then pure .empty
    else node fuel true false
  if (← get).tokens.all (· = .documentEnd) then return tree else failure
where
  /-- Tokens before which a marked document is empty. -/
  startsDocument : Token → Bool
    | .version | .handle _ _ | .documentStart | .documentEnd => true
    | _ => false

end Grammar

namespace Tree

/-- The tree of a text with the places that the numbers of aliases stand for. -/
def ofTokens? (ts : List Token) : Option (Tree × List (Nat × Nat)) :=
  (Grammar.document (3 * ts.length + 3) ⟨ts, [], .none⟩).map fun r => (r.1, r.2.anchors.places)

end Tree

end CrossSource.Document.Yaml
