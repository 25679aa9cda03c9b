import CrossSource.Settings.Basic

/-!
# Environment files

A file of variables adds to an environment what is not in it yet. Each line gives one variable; a
value may be quoted, go over several lines between quotes, and mention variables that are known
already. Reading stops at the first line that makes no sense, and what came before it counts.
-/

namespace CrossSource.Environment

/-! ## Lines -/

/-- What the end of a piece of text is inside of. After a single blank a comment may begin. -/
inductive Inside where
  | nothing
  | blank
  | escape
  | quote (c : Char)
  | quotedEscape (c : Char)
deriving DecidableEq, Repr

namespace Inside

/-- Outside of quotes. -/
def plainStep (c : Char) : Inside :=
  if c = '\\' then escape
  else if c = '"' || c = '\'' then quote c
  else nothing

/-- The state after one more character; none where a comment begins. -/
def step (s : Inside) (c : Char) : Option Inside :=
  match s with
  | nothing => some (if Text.isBlank c && c ≠ '\n' && c ≠ '\r' then blank else plainStep c)
  | blank => if c = '#' then none else some (plainStep c)
  | escape => some nothing
  | quote q => some (if c = '\\' then quotedEscape q else if c = q then nothing else quote q)
  | quotedEscape q => some (quote q)

/-- The text up to a comment, and the state after all of it if there is no comment. -/
def walk : Inside → List Char → List Char × Option Inside
  | s, [] => ([], some s)
  | s, c :: cs =>
    match s.step c with
    | none => ([], none)
    | some s =>
      let (before, after) := walk s cs
      (c :: before, after)

end Inside

/-- The text cut after each line feed. -/
def cutLines : List Char → List Char → List (List Char)
  | [], [] => []
  | [], line => [line.reverse]
  | c :: cs, line =>
    if c = '\n' then (c :: line).reverse :: cutLines cs [] else cutLines cs (c :: line)

/-- The line without its break. -/
def dropBreak (line : List Char) : List Char :=
  match line.reverse with
  | '\n' :: '\r' :: cs => cs.reverse
  | '\n' :: cs => cs.reverse
  | _ => line

/-- Lines joined as long as a quote or an escape is open. The text may end inside of one; then the
last line is missing. -/
def joinLines : List Char → Inside → List (List Char) → List (Option (List Char))
  | _, s, [] => if s = .nothing then [] else [none]
  | before, s, line :: lines =>
    let whole := before ++ line
    if (whole.dropWhile Text.isBlank).head? = some '#' then some [] :: joinLines [] .nothing lines
    else match s.walk line with
      | (kept, none) => some (before ++ kept) :: joinLines [] .nothing lines
      | (_, some .nothing) => some (dropBreak whole) :: joinLines [] .nothing lines
      | (_, some s) => joinLines whole s lines

/-! ## Values -/

/-- Where in a value one is. `quoted` tells whether double quotes are open around it. -/
inductive Part where
  | text (quoted : Bool)
  | single
  | escape (quoted : Bool)
  | name (quoted : Bool) (cs : List Char)
  | braced (quoted : Bool) (cs : List Char)
  | ended

/-- Letters and digits. -/
def isWordChar (c : Char) : Bool := c.isAlphanum || Text.within Text.CaseTable.cased c.toNat

/-- The character that a backslash and a character stand for. -/
def escaped (c : Char) : Option Char :=
  if c ∈ ['\\', '\'', '"', '$', ' '] then some c else if c = 'n' then some '\n' else none

/-- Reads on in a value. `known` gives the value of a mentioned variable. -/
def readFrom (known : String → String) : Part → List Char → Option (List Char)
  | .text quoted, [] | .escape quoted, [] => if quoted then none else some []
  | .name quoted cs, [] => if quoted then none else some (known (String.ofList cs)).toList
  | .single, [] | .braced _ _, [] => none
  | .ended, [] => some []
  | .ended, c :: rest =>
    if c = ' ' || c = '\t' then readFrom known .ended rest
    else if c = '#' then some []
    else none
  | .escape quoted, c :: rest => do
    let c ← escaped c
    return c :: (← readFrom known (.text quoted) rest)
  | .single, c :: rest =>
    if c = '\'' then readFrom known (.text false) rest
    else (readFrom known .single rest).map (c :: ·)
  | .name quoted cs, c :: rest =>
    if isWordChar c then readFrom known (.name quoted (cs ++ [c])) rest
    else if c = '{' && cs.isEmpty then readFrom known (.braced quoted []) rest
    else
      let value := (known (String.ofList cs)).toList
      if c = '$' then (readFrom known (.name quoted []) rest).map (value ++ ·)
      else (readFrom known (.text quoted) rest).map (value ++ c :: ·)
  | .braced quoted cs, c :: rest =>
    if c = '}' then
      (readFrom known (.text quoted) rest).map ((known (String.ofList cs)).toList ++ ·)
    else readFrom known (.braced quoted (cs ++ [c])) rest
  | .text quoted, c :: rest =>
    if c = '$' then readFrom known (.name quoted []) rest
    else if c = '\\' then readFrom known (.escape quoted) rest
    else if c = '"' then readFrom known (.text (!quoted)) rest
    else if quoted then (readFrom known (.text quoted) rest).map (c :: ·)
    else if c = '\'' then readFrom known .single rest
    else if c = ' ' || c = '\t' then readFrom known .ended rest
    else (readFrom known (.text quoted) rest).map (c :: ·)

/-! ## Variables -/

def beginsName (c : Char) : Bool := c.isAlpha || c == '_'

def isNameChar (c : Char) : Bool := c.isAlphanum || c == '_' || c == '.'

/-- A name, and what comes after it and the blanks that follow. -/
def readName (cs : List Char) : Option (String × List Char) :=
  if cs.head?.any beginsName then
    let name := cs.takeWhile isNameChar
    some (String.ofList name, (cs.drop name.length).dropWhile Text.isBlank)
  else none

/-- What comes after an equals sign. -/
def afterEquals : List Char → Option (List Char)
  | '=' :: cs => some cs
  | _ => none

/-- The name at the front of a line, which the word `export` may precede, and the text of its
value. -/
def splitLine (cs : List Char) : Option (String × List Char) := do
  let (name, rest) ← readName cs
  let (name, rest) ←
    if name = "export" && (afterEquals rest).isNone then readName rest else some (name, rest)
  return (name, (← afterEquals rest).dropWhile Text.isBlank)

/-- An environment in the course of being added to, with the values that the file gave. -/
structure Loading where
  environment : Environment
  given : List (String × String)

/-- The value of a mentioned variable: the environment goes before the file. -/
def Loading.known (l : Loading) (name : String) : String :=
  ((l.environment.lookup name).or (l.given.lookup name)).getD ""

/-- A variable that is there already keeps its value. -/
def Loading.add (l : Loading) (name value : String) : Loading where
  environment :=
    if (l.environment.lookup name).isSome then l.environment
    else l.environment ++ [(name, value)]
  given := (name, value) :: l.given

/-- Adds the variable of a line. An empty line and a comment add none. -/
def Loading.line (l : Loading) (line : List Char) : Option Loading :=
  match Text.trimBy Text.isBlank line with
  | [] | '#' :: _ => some l
  | cs => do
    let (name, rest) ← splitLine cs
    if rest.isEmpty || rest.head? = some '#' then return l.add name ""
    else return l.add name (String.ofList (← readFrom l.known (.text false) rest))

/-- Adds the variables of lines up to the first that makes no sense. -/
def Loading.lines : Loading → List (Option (List Char)) → Loading
  | l, [] | l, none :: _ => l
  | l, some line :: rest =>
    match l.line line with
    | some l => l.lines rest
    | none => l

/-- The environment with what the text of a file adds to it. -/
def extend (env : Environment) (text : String) : Environment :=
  let cs :=
    match text.toList with
    | '\uFEFF' :: cs => cs
    | cs => cs
  ((Loading.mk env []).lines (joinLines [] .nothing (cutLines cs []))).environment

end CrossSource.Environment
