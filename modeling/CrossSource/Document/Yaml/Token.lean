import CrossSource.Document.Yaml.Scalar
import CrossSource.Document.Yaml.Spelling

/-!
# Tokens of a YAML text

`Token.ofText?` cuts a text into tokens. Line and column decide much: a block collection opens where
a line goes further in than the block around it and closes where a line goes less far in, and a
colon makes a key of what stands before it on the same line. What a colon finds out about an earlier
token is noted beside that token (`Lexeme.opens`) and put in front of it in the end.
-/

namespace CrossSource.Document.Yaml

inductive Token where
  | version
  | handle (name shorthand : String)
  | documentStart
  | documentEnd
  | blockList
  | blockMap
  | blockEnd
  | flowList
  | flowListEnd
  | flowMap
  | flowMapEnd
  | entry
  | comma
  | key
  | value
  | reference (name : String)
  | anchor (name : String)
  | tag (handle name : String)
  | scalar (text : String) (style : Style)
deriving DecidableEq, Repr

/-- A token, and the tokens that stand before it because it begins a key. -/
structure Lexeme where
  opens : List Token
  token : Token

/-- A token that may turn out to begin a key: its number, its place, and whether it has to. -/
structure Candidate where
  number : Nat
  index : Nat
  line : Nat
  column : Nat
  required : Bool

/-- A text in the course of being cut into tokens. -/
structure Lexer where
  cursor : Cursor
  lexemes : Array Lexeme
  /-- The columns of the open block collections, innermost first. -/
  columns : List Nat
  /-- The token that may begin a key, if any, outside and inside each pair of open brackets,
  innermost first. -/
  candidate : Option Candidate
  outer : List (Option Candidate)
  /-- Whether a key may begin here. -/
  keyAllowed : Bool

namespace Lexer

def start (cs : List Char) : Lexer := ⟨.start cs, #[], [], none, [], true⟩

/-- Whether a bracket is open. -/
def flow (l : Lexer) : Bool := !l.outer.isEmpty

/-- The column of the innermost block collection, −1 outside of all. -/
def indent (l : Lexer) : Int :=
  match l.columns with
  | [] => -1
  | n :: _ => n

def emit (l : Lexer) (t : Token) : Lexer := { l with lexemes := l.lexemes.push ⟨[], t⟩ }

def skip (l : Lexer) (n : Nat) : Lexer := { l with cursor := l.cursor.skip n }

def allowKey (l : Lexer) (allowed : Bool) : Lexer := { l with keyAllowed := allowed }

/-! ## Blocks -/

/-- Closes the block collections that lie further in than a column. -/
def closeBlocks (column : Int) (l : Lexer) : Lexer :=
  if l.flow then l
  else
    let closed := l.columns.takeWhile fun (n : Nat) => column < n
    { l with
      columns := l.columns.drop closed.length
      lexemes := closed.foldl (fun ls _ => ls.push ⟨[], .blockEnd⟩) l.lexemes }

/-- Opens a block collection at a column if it lies further in than the innermost one. -/
def openBlock (column : Nat) (l : Lexer) : Option Lexer :=
  if l.flow then none
  else if l.indent < column then some { l with columns := column :: l.columns }
  else none

/-- Opens a block collection here, if need be. -/
def openHere (t : Token) (l : Lexer) : Lexer :=
  match l.openBlock l.cursor.column with
  | some l => l.emit t
  | none => l

/-! ## Keys -/

/-- The greatest number of characters between the beginning of a key and its colon. -/
def keyLimit : Nat := 1024

/-- Whether a key that begins at the candidate cannot end here. -/
def isStale (c : Cursor) (k : Candidate) : Bool := k.line < c.line || k.index + keyLimit < c.index

/-- Gives up a candidate, which fails if it has to be a key. -/
def giveUp (k : Option Candidate) : Option (Option Candidate) :=
  if k.any (·.required) then none else some none

def dropStale (l : Lexer) : Option Lexer := do
  let check (k : Option Candidate) := if k.any (isStale l.cursor) then giveUp k else some k
  return { l with candidate := ← check l.candidate, outer := ← l.outer.mapM check }

def dropCandidate (l : Lexer) : Option Lexer := do
  return { l with candidate := ← giveUp l.candidate }

/-- Notes that the next token may begin a key. In a block it has to where it stands at the column
of the block. -/
def saveCandidate (l : Lexer) : Option Lexer :=
  if !l.keyAllowed then some l
  else do
    let l ← l.dropCandidate
    let c := l.cursor
    let required := !l.flow && l.indent == c.column
    return { l with candidate := some ⟨l.lexemes.size, c.index, c.line, c.column, required⟩ }

/-! ## From one token to the next -/

/-- Passes over blanks, comments and line breaks. A tab may not stand where a key may begin. -/
def skipBlanks : Nat → Lexer → Lexer
  | 0, l => l
  | fuel + 1, l =>
    let c := l.cursor
    let c := if c.column = 0 && c.rest.head? = some '\uFEFF' then c.skip 1 else c
    let c := c.skipWhile fun ch => ch == ' ' || ((l.flow || !l.keyAllowed) && ch == '\t')
    let c := c.skipComment
    if endsLine c.rest && !c.rest.isEmpty then
      skipBlanks fuel { l with cursor := c.nextLine, keyAllowed := l.keyAllowed || !l.flow }
    else { l with cursor := c }

/-! ## Directives and marks of documents -/

/-- A number of at most nine digits. -/
def readVersionNumber (c : Cursor) : Option (Nat × Cursor) :=
  let digits := c.rest.takeWhile Number.isDigit
  if digits.isEmpty || 9 < digits.length then none
  else some (Number.ofDigits digits, c.skip digits.length)

/-- The only versions that are known are 1.1 and 1.2. -/
def readVersion (c : Cursor) : Option (Token × Cursor) := do
  let (major, c) ← readVersionNumber (c.skipWhile isBlank)
  if c.rest.head? ≠ some '.' then none
  else
    let (minor, c) ← readVersionNumber (c.skip 1)
    if major = 1 && (minor = 1 || minor = 2) then some (.version, c) else none

/-- The characters that may stand in a tag. Between angle brackets there are some more. -/
def isTagChar (verbatim : Bool) (c : Char) : Bool :=
  isNameChar c || c ∈ [';', '/', '?', ':', '@', '&', '=', '+', '$', '.', '!', '~', '*', '\'', '(',
    ')'] || (verbatim && c ∈ [',', '[', ']'])

/-- Octets in hexadecimal, each after a percent sign. -/
def readOctets : List Char → Option (List UInt8)
  | '%' :: a :: b :: rest => do
    let octet := UInt8.ofNat (16 * (← hexDigit a) + (← hexDigit b))
    return octet :: (← readOctets rest)
  | '%' :: _ => none
  | _ => some []

/-- The text of a tag: characters as they stand and characters in octets. -/
def tagTextFrom (verbatim : Bool) : Nat → List Char → Cursor → Option (List Char × Cursor)
  | 0, _, _ => none
  | fuel + 1, done, c =>
    match c.rest with
    | [] => some (done, c)
    | ch :: _ =>
      if ch = '%' then do
        let octets ← readOctets c.rest
        let s ← String.fromUTF8? ⟨octets.toArray⟩
        tagTextFrom verbatim fuel (done ++ s.toList) (c.skip (3 * octets.length))
      else
        let run := c.rest.takeWhile (isTagChar verbatim)
        if run.isEmpty then some (done, c)
        else tagTextFrom verbatim fuel (done ++ run) (c.skip run.length)

def readTagText (verbatim : Bool) (done : List Char) (c : Cursor) : Option (List Char × Cursor) :=
  tagTextFrom verbatim (c.rest.length + 1) done c

/-- A handle: an exclamation mark, a name and, if it ends so, another mark. -/
def readHandle (c : Cursor) : Option (List Char × Cursor) :=
  if c.rest.head? ≠ some '!' then none
  else
    let name := (c.rest.drop 1).takeWhile isNameChar
    let c := c.skip (name.length + 1)
    if c.rest.head? = some '!' then some ('!' :: name ++ ['!'], c.skip 1) else some ('!' :: name, c)

/-- Whether a handle is more than one mark and ends in one. -/
def isWholeHandle (handle : List Char) : Bool := 1 < handle.length && handle.getLast? == some '!'

/-- What a handle is short for. -/
def readShorthand (c : Cursor) : Option (Token × Cursor) := do
  let (handle, c) ← readHandle (c.skipWhile isBlank)
  if !(isWholeHandle handle || handle == ['!']) || !(c.rest.head?.any isBlank) then none
  else
    let (text, c) ← readTagText true [] (c.skipWhile isBlank)
    if text.isEmpty || !endsWord c.rest then none
    else some (.handle (String.ofList handle) (String.ofList text), c)

/-- A directive from its percent sign on, up to the end of the line. -/
def readDirective (c : Cursor) : Option (Token × Cursor) := do
  let name := (c.rest.drop 1).takeWhile isNameChar
  let c := c.skip (name.length + 1)
  let (token, c) ←
    if !endsWord c.rest then none
    else if name = "YAML".toList then readVersion c
    else if name = "TAG".toList then readShorthand c
    else none
  let c := (c.skipWhile isBlank).skipComment
  if endsLine c.rest then some (token, c) else none

/-- Closes all that is open before a directive or a mark of a document. -/
def closeAll (l : Lexer) : Option Lexer := do
  return (← (l.closeBlocks (-1)).dropCandidate).allowKey false

def directive (l : Lexer) : Option Lexer := do
  let l ← l.closeAll
  let (token, c) ← readDirective l.cursor
  return { l.emit token with cursor := c }

def documentMark (t : Token) (l : Lexer) : Option Lexer := do
  return ((← l.closeAll).emit t).skip 3

/-! ## Brackets, commas and signs -/

def openBracket (t : Token) (l : Lexer) : Option Lexer := do
  let l ← l.saveCandidate
  let l := { l with outer := l.candidate :: l.outer, candidate := none }
  return ((l.emit t).skip 1).allowKey true

def closeBracket (t : Token) (l : Lexer) : Option Lexer := do
  let l ← l.dropCandidate
  let l :=
    match l.outer with
    | [] => l
    | k :: ks => { l with candidate := k, outer := ks }
  return ((l.emit t).skip 1).allowKey false

def comma (l : Lexer) : Option Lexer := do
  return (((← l.dropCandidate).emit .comma).skip 1).allowKey true

/-- The dash before an item. In a block it stands only where a key may begin. -/
def dash (l : Lexer) : Option Lexer := do
  if !l.flow && !l.keyAllowed then none
  else
    let l ← (l.openHere .blockList).dropCandidate
    return ((l.emit .entry).skip 1).allowKey true

/-- The question mark before a key that may be anything. -/
def questionMark (l : Lexer) : Option Lexer := do
  if !l.flow && !l.keyAllowed then none
  else
    let l ← (l.openHere .blockMap).dropCandidate
    return ((l.emit .key).skip 1).allowKey (!l.flow)

/-- Marks the candidate as the beginning of a key. -/
def promote (k : Candidate) (l : Lexer) : Lexer :=
  let (l, opens) : Lexer × List Token :=
    match l.openBlock k.column with
    | some l => (l, [.blockMap, .key])
    | none => (l, [.key])
  { l with
    lexemes := l.lexemes.modify k.number fun lexeme => { lexeme with opens }
    candidate := none }

/-- The colon before a value. Without a candidate it belongs to a key after a question mark. -/
def colon (l : Lexer) : Option Lexer :=
  match l.candidate with
  | some k => some ((((l.promote k).emit .value).skip 1).allowKey false)
  | none =>
    if !l.flow && !l.keyAllowed then none
    else some ((((l.openHere .blockMap).emit .value).skip 1).allowKey (!l.flow))

/-! ## Anchors, tags and scalars -/

/-- The name of an anchor after its sign. -/
def readName (c : Cursor) : Option (String × Cursor) :=
  let name := (c.rest.drop 1).takeWhile isNameChar
  let c := c.skip (name.length + 1)
  let ends := endsWord c.rest ||
    c.rest.head?.any (· ∈ ['?', ':', ',', ']', '}', '%', '@', '\x60'])
  if name.isEmpty || !ends then none else some (String.ofList name, c)

def anchor (make : String → Token) (l : Lexer) : Option Lexer := do
  let l ← l.saveCandidate
  let (name, c) ← readName l.cursor
  return { (l.emit (make name)).allowKey false with cursor := c }

/-- A tag from its exclamation mark on: in angle brackets, after a handle, or by itself. The mark
alone has no handle. -/
def readTag (flow : Bool) (c : Cursor) : Option (Token × Cursor) := do
  let (token, c) ←
    if c.rest.take 2 = ['!', '<'] then do
      let (text, c) ← readTagText true [] (c.skip 2)
      if text.isEmpty || c.rest.head? ≠ some '>' then none
      else some (.tag "" (String.ofList text), c.skip 1)
    else do
      let (handle, c) ← readHandle c
      if isWholeHandle handle then do
        let (text, c) ← readTagText false [] c
        if text.isEmpty then none
        else some (Token.tag (String.ofList handle) (String.ofList text), c)
      else do
        let (text, c) ← readTagText false (handle.drop 1) c
        if text.isEmpty then some (.tag "" "!", c) else some (.tag "!" (String.ofList text), c)
  if endsWord c.rest || (flow && c.rest.head? = some ',') then some (token, c) else none

def tag (l : Lexer) : Option Lexer := do
  let l ← l.saveCandidate
  let (token, c) ← readTag l.flow l.cursor
  return { (l.emit token).allowKey false with cursor := c }

def blockScalar (folded : Bool) (l : Lexer) : Option Lexer := do
  let l ← l.dropCandidate
  let (text, c) ← readBlock folded l.indent l.cursor
  let style := if folded then Style.folded else .literal
  return { (l.emit (.scalar (String.ofList text) style)).allowKey true with cursor := c }

def quotedScalar (quote : Char) (l : Lexer) : Option Lexer := do
  let l ← l.saveCandidate
  let (text, c) ← readQuoted quote l.cursor
  return { (l.emit (.scalar (String.ofList text) .quoted)).allowKey false with cursor := c }

def plainScalar (l : Lexer) : Option Lexer := do
  let l ← l.saveCandidate
  let p ← readPlain l.flow (l.indent + 1).toNat l.cursor
  return { (l.emit (.scalar (String.ofList p.text) .plain)).allowKey p.broken with
    cursor := p.after }

/-! ## All tokens -/

/-- Characters that no plain scalar begins with, apart from a dash, a question mark or a colon
that touches what follows. -/
def indicators : List Char :=
  ['-', '?', ':', ',', '[', ']', '{', '}', '#', '&', '*', '!', '|', '>', '\'', '"', '%', '@',
    '\x60']

def beginsPlain (flow : Bool) (c : Char) (rest : List Char) : Bool :=
  !(isBlank c || c ∈ indicators) || (c == '-' && !rest.head?.any isBlank) ||
    (!flow && (c == '?' || c == ':') && !endsWord rest)

/-- Reads one token that begins with a character. -/
def token (l : Lexer) (ch : Char) (rest : List Char) : Option Lexer :=
  let c := l.cursor
  if c.column = 0 && ch = '%' then l.directive
  else if c.atMark '-' then l.documentMark .documentStart
  else if c.atMark '.' then l.documentMark .documentEnd
  else if ch = '[' then l.openBracket .flowList
  else if ch = '{' then l.openBracket .flowMap
  else if ch = ']' then l.closeBracket .flowListEnd
  else if ch = '}' then l.closeBracket .flowMapEnd
  else if ch = ',' then l.comma
  else if ch = '-' && endsWord rest then l.dash
  else if ch = '?' && (l.flow || endsWord rest) then l.questionMark
  else if ch = ':' && (l.flow || endsWord rest) then l.colon
  else if ch = '*' then l.anchor .reference
  else if ch = '&' then l.anchor .anchor
  else if ch = '!' then l.tag
  else if ch = '|' && !l.flow then l.blockScalar false
  else if ch = '>' && !l.flow then l.blockScalar true
  else if ch = '\'' || ch = '"' then l.quotedScalar ch
  else if beginsPlain l.flow ch rest then l.plainScalar
  else none

/-- Reads tokens to the end of the text. -/
def run : Nat → Lexer → Option Lexer
  | 0, _ => none
  | fuel + 1, l => do
    let l ← (skipBlanks (l.cursor.rest.length + 1) l).dropStale
    let l := l.closeBlocks l.cursor.column
    match l.cursor.rest with
    | [] => l.closeAll
    | ch :: rest => run fuel (← l.token ch rest)

end Lexer

namespace Token

/-- The tokens of a text, unless it cannot be cut into tokens. -/
def ofText? (s : String) : Option (List Token) := do
  let cs := s.toList
  if !cs.all isAllowed then none
  else
    let l ← Lexer.run (cs.length + 1) (.start (unifyBreaks cs))
    return l.lexemes.toList.flatMap fun lexeme => lexeme.opens ++ [lexeme.token]

end Token

end CrossSource.Document.Yaml
