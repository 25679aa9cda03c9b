import CrossSource.Document.Yaml.Cursor

/-!
# Reading the scalars of a YAML text

Plain and quoted scalars may go over several lines, which are folded into one: a single line break
becomes a blank, of several all but the first are kept. Block scalars keep their lines, or fold
those that start without a blank.
-/

namespace CrossSource.Document.Yaml

/-! ## Folding -/

/-- The blanks and line breaks between two runs of a scalar, last first. Blanks count only before
the first line break. -/
structure Gap where
  blanks : List Char
  breaks : List Char
  broken : Bool

namespace Gap

def start : Gap := ⟨[], [], false⟩

/-- A gap after a line break that is escaped away. -/
def joined : Gap := ⟨[], [], true⟩

/-- What the gap leaves in the text. -/
def text (g : Gap) : List Char :=
  if g.broken then
    match g.breaks.reverse with
    | ['\n'] => [' ']
    | '\n' :: more => more
    | breaks => breaks
  else g.blanks.reverse

/-- What is left of a gap that starts with an escaped line break. -/
def joinedText (g : Gap) : List Char := g.breaks.reverse

end Gap

/-- Reads a gap to its end. After a line break no tab may stand left of the column `least`. -/
def gapFrom (least : Nat) : Nat → Gap → Cursor → Option (Gap × Cursor)
  | 0, _, _ => none
  | fuel + 1, g, c =>
    match c.rest with
    | [] => some (g, c)
    | ch :: _ =>
      if isBreak ch then gapFrom least fuel ⟨g.blanks, ch :: g.breaks, true⟩ c.nextLine
      else if !isBlank ch then some (g, c)
      else if !g.broken then gapFrom least fuel { g with blanks := ch :: g.blanks } (c.skip 1)
      else if ch = '\t' && c.column < least then none
      else gapFrom least fuel g (c.skip 1)

def readGap (least : Nat) (start : Gap) (c : Cursor) : Option (Gap × Cursor) :=
  gapFrom least (c.rest.length + 1) start c

/-! ## Plain scalars -/

/-- The characters up to a blank or to what ends a plain scalar. Between brackets a colon may not
touch a bracket, a comma or a question mark after it. -/
def plainRun (flow : Bool) : List Char → Option (List Char)
  | [] => some []
  | ch :: rest =>
    if isBlank ch || isBreak ch then some []
    else if flow && ch == ':' && (rest.head?.any (· ∈ [',', '?', '[', ']', '{', '}'])) then none
    else if ch == ':' && endsWord rest then some []
    else if flow && ch ∈ [',', '[', ']', '{', '}'] then some []
    else (plainRun flow rest).map (ch :: ·)

/-- A plain scalar with the place after it, and whether that is on a new line. -/
structure Plain where
  text : List Char
  after : Cursor
  broken : Bool

/-- Reads on in a plain scalar after a gap. Outside of brackets it ends left of the column
`least`. -/
def plainFrom (flow : Bool) (least : Nat) : Nat → List Char → Gap → Cursor → Option Plain
  | 0, _, _, _ => none
  | fuel + 1, done, gap, c =>
    if c.atDocumentMark || c.rest.head? = some '#' then some ⟨done, c, gap.broken⟩
    else do
      let run ← plainRun flow c.rest
      let c := c.skip run.length
      let (done, gap) := if run.isEmpty then (done, gap) else (done ++ gap.text ++ run, Gap.start)
      if endsWord c.rest && !c.rest.isEmpty then
        let (gap, c) ← readGap least gap c
        if !flow && c.column < least then some ⟨done, c, gap.broken⟩
        else plainFrom flow least fuel done gap c
      else some ⟨done, c, gap.broken⟩

def readPlain (flow : Bool) (least : Nat) (c : Cursor) : Option Plain :=
  plainFrom flow least (c.rest.length + 1) [] .start c

/-! ## Quoted scalars -/

/-- The character that a letter after a backslash stands for. -/
def escapeLetter : Char → Option Char
  | '0' => some '\x00'
  | 'a' => some '\x07'
  | 'b' => some '\x08'
  | 't' => some '\t'
  | '\t' => some '\t'
  | 'n' => some '\n'
  | 'v' => some '\x0b'
  | 'f' => some '\x0c'
  | 'r' => some '\r'
  | 'e' => some '\x1b'
  | ' ' => some ' '
  | '"' => some '"'
  | '/' => some '/'
  | '\\' => some '\\'
  | 'N' => some '\x85'
  | '_' => some '\xa0'
  | 'L' => some '\u2028'
  | 'P' => some '\u2029'
  | _ => none

/-- How many hexadecimal digits follow a letter after a backslash. -/
def escapeWidth : Char → Option Nat
  | 'x' => some 2
  | 'u' => some 4
  | 'U' => some 8
  | _ => none

def hexDigit (c : Char) : Option Nat :=
  if '0' ≤ c && c ≤ '9' then some (c.toNat - '0'.toNat)
  else if 'a' ≤ c && c ≤ 'f' then some (c.toNat - 'a'.toNat + 10)
  else if 'A' ≤ c && c ≤ 'F' then some (c.toNat - 'A'.toNat + 10)
  else none

/-- The character of a number in hexadecimal, unless there is none. -/
def hexChar (width : Nat) (cs : List Char) : Option Char := do
  let digits ← (cs.take width).mapM hexDigit
  let n := digits.foldl (fun n d => 16 * n + d) 0
  if digits.length = width && n.isValidChar then some (Char.ofNat n) else none

/-- The character that is escaped after a backslash, and the length of the escape with it. -/
def readEscape : List Char → Option (Char × Nat)
  | [] => none
  | c :: cs =>
    match escapeWidth c with
    | some width => (hexChar width cs).map (·, width + 2)
    | none => (escapeLetter c).map (·, 2)

/-- Reads on in a quoted scalar. `done` holds its characters so far, last first. -/
def quotedFrom (quote : Char) : Nat → List Char → Cursor → Option (List Char × Cursor)
  | 0, _, _ => none
  | fuel + 1, done, c =>
    if c.atDocumentMark then none
    else match c.rest with
      | [] => none
      | ch :: rest =>
        if isBlank ch || isBreak ch then do
          let (gap, c) ← readGap 0 .start c
          quotedFrom quote fuel (gap.text.reverse ++ done) c
        else if ch = quote then
          if quote = '\'' && rest.head? = some quote then
            quotedFrom quote fuel (quote :: done) (c.skip 2)
          else some (done.reverse, c.skip 1)
        else if ch = '\\' && quote = '"' then
          if rest.head?.any isBreak then do
            let (gap, c) ← readGap 0 .joined (c.skip 1).nextLine
            quotedFrom quote fuel (gap.joinedText.reverse ++ done) c
          else do
            let (escaped, length) ← readEscape rest
            quotedFrom quote fuel (escaped :: done) (c.skip length)
        else quotedFrom quote fuel (ch :: done) (c.skip 1)

/-- A quoted scalar from its opening quote on. -/
def readQuoted (quote : Char) (c : Cursor) : Option (List Char × Cursor) :=
  quotedFrom quote (c.rest.length + 1) [] (c.skip 1)

/-! ## Block scalars -/

/-- What becomes of the line breaks at the end of a block scalar. -/
inductive Chomping where
  | strip
  | clip
  | keep
deriving DecidableEq, Repr

def chompingOf : Char → Option Chomping
  | '-' => some .strip
  | '+' => some .keep
  | _ => none

/-- A digit other than zero, for the depth of a block scalar's lines. -/
def depthDigit (c : Char) : Option Nat :=
  if '1' ≤ c && c ≤ '9' then some (c.toNat - '0'.toNat) else none

/-- The marks after the sign of a block scalar, in either order, and what comes after them. -/
def readHeader (c : Cursor) : Chomping × Option Nat × Cursor :=
  match c.rest with
  | a :: b :: _ =>
    match chompingOf a, depthDigit a with
    | some m, _ =>
      match depthDigit b with
      | some d => (m, some d, c.skip 2)
      | none => (m, none, c.skip 1)
    | none, some d =>
      match chompingOf b with
      | some m => (m, some d, c.skip 2)
      | none => (.clip, some d, c.skip 1)
    | none, none => (.clip, none, c)
  | [a] =>
    match chompingOf a, depthDigit a with
    | some m, _ => (m, none, c.skip 1)
    | none, some d => (.clip, some d, c.skip 1)
    | none, none => (.clip, none, c)
  | [] => (.clip, none, c)

/-- Empty lines before a line with content. `breaks` holds their breaks, last first, and `widest`
the greatest column that blanks have reached. -/
structure EmptyLines where
  breaks : List Char
  widest : Nat
  after : Cursor

/-- Reads empty lines. Blanks are passed over up to the column `limit`, if it is known. A tab may
not stand left of it. -/
def emptyLinesFrom (limit : Option Nat) : Nat → List Char → Nat → Cursor → Option EmptyLines
  | 0, _, _, _ => none
  | fuel + 1, breaks, widest, c =>
    let blanks := (c.rest.takeWhile (· == ' ')).length
    let c := c.skip (match limit with
      | some n => min blanks (n - c.column)
      | none => blanks)
    let widest := max widest c.column
    match c.rest with
    | [] => some ⟨breaks, widest, c⟩
    | ch :: _ =>
      if ch = '\t' && limit.all (c.column < ·) then none
      else if isBreak ch then emptyLinesFrom limit fuel (ch :: breaks) widest c.nextLine
      else some ⟨breaks, widest, c⟩

def readEmptyLines (limit : Option Nat) (c : Cursor) : Option EmptyLines :=
  emptyLinesFrom limit (c.rest.length + 1) [] 0 c

/-- What a block scalar has read: the text so far, the break after its last line, whether that line
started with a blank, and the breaks of the empty lines after it, last first. -/
structure Block where
  text : List Char
  lastBreak : List Char
  indented : Bool
  breaks : List Char

namespace Block

/-- What stands between the last line and one that starts with a blank or not. -/
def joint (b : Block) (folded indented : Bool) : List Char :=
  if folded && b.lastBreak == ['\n'] && !b.indented && !indented then
    if b.breaks.isEmpty then [' '] else b.breaks.reverse
  else b.lastBreak ++ b.breaks.reverse

/-- The whole text, with the breaks at its end as they are wanted. -/
def finish (b : Block) : Chomping → List Char
  | .strip => b.text
  | .clip => b.text ++ b.lastBreak
  | .keep => b.text ++ b.lastBreak ++ b.breaks.reverse

end Block

/-- Reads the lines of a block scalar that start at the column `depth`. -/
def blockFrom (folded : Bool) (depth : Nat) : Nat → Block → Cursor → Option (Block × Cursor)
  | 0, _, _ => none
  | fuel + 1, b, c =>
    match c.rest with
    | [] => some (b, c)
    | ch :: _ =>
      if c.column ≠ depth then some (b, c)
      else do
        let indented := isBlank ch
        let line := c.rest.takeWhile fun ch => !isBreak ch
        let text := b.text ++ b.joint folded indented ++ line
        let c := c.skip line.length
        let (lastBreak, c) :=
          match c.rest with
          | [] => ([], c)
          | ch :: _ => ([ch], c.nextLine)
        let empty ← readEmptyLines (some depth) c
        blockFrom folded depth fuel ⟨text, lastBreak, indented, empty.breaks⟩ empty.after

/-- A block scalar from its sign on, inside a block at the column `indent`. Without a mark for it
the depth is found from the first lines. -/
def readBlock (folded : Bool) (indent : Int) (c : Cursor) : Option (List Char × Cursor) := do
  let (chomping, depth, c) := readHeader (c.skip 1)
  let c := (c.skipWhile isBlank).skipComment
  if !endsLine c.rest then none
  else
    let c := if c.rest.isEmpty then c else c.nextLine
    let limit := depth.map fun d => (max indent 0).toNat + d
    let empty ← readEmptyLines limit c
    let depth := limit.getD (max (max empty.widest (indent + 1).toNat) 1)
    let (block, c) ← blockFrom folded depth (c.rest.length + 1) ⟨[], [], false, empty.breaks⟩
      empty.after
    return (block.finish chomping, c)

end CrossSource.Document.Yaml
