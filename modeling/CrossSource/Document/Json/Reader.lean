import CrossSource.Document.Decoder
import CrossSource.Document.Json.Number

/-!
# Reading a JSON text

`read` turns a text into a node that holds the text's first fault where it stands. Alongside,
every part yields what comes after it for a reader who only passes over it: passing over is more
lenient with the range of numbers, with surrogates and with depth.
-/

namespace CrossSource.Document.Json

/-- The blanks of a JSON text. -/
def isSpace (c : Char) : Bool := c == ' ' || c == '\n' || c == '\t' || c == '\r'

def dropSpace (cs : List Char) : List Char := cs.dropWhile isSpace

/-! ## Strings -/

def hexValue (c : Char) : Option Nat :=
  if '0' ≤ c && c ≤ '9' then some (c.toNat - '0'.toNat)
  else if 'a' ≤ c && c ≤ 'f' then some (c.toNat - 'a'.toNat + 10)
  else if 'A' ≤ c && c ≤ 'F' then some (c.toNat - 'A'.toNat + 10)
  else none

/-- The number that four hexadecimal digits spell. A text of fewer than four bytes has ended. -/
def fourDigits (cs : List Char) : Except TextFault (Nat × List Char) :=
  let next := cs.take 4
  if next.foldl (fun n c => n + c.utf8Size) 0 < 4 then .error .endInString
  else match next.mapM hexValue with
    | some ds => .ok (ds.foldl (fun n d => 16 * n + d) 0, cs.drop 4)
    | none => .error .invalidEscape

def isHighSurrogate (n : Nat) : Bool := 0xd800 ≤ n && n ≤ 0xdbff

def isLowSurrogate (n : Nat) : Bool := 0xdc00 ≤ n && n ≤ 0xdfff

/-- The character of an escape whose first number is `n`, and the text after it. A character
beyond 16 bits is spelled by two numbers. -/
def escapedChar (n : Nat) (cs : List Char) : Except TextFault (Char × List Char) :=
  if isLowSurrogate n then .error .loneSurrogate
  else if isHighSurrogate n then
    match cs with
    | [] | ['\\'] => .error .endInString
    | '\\' :: 'u' :: cs => do
      let (m, cs) ← fourDigits cs
      if isLowSurrogate m then
        return (Char.ofNat (0x10000 + (n - 0xd800) * 0x400 + (m - 0xdc00)), cs)
      else throw .loneSurrogate
    | _ => .error .halfEscape
  else .ok (Char.ofNat n, cs)

/-- The character that a letter after a backslash stands for. -/
def escapeLetter : Char → Option Char
  | '"' => some '"'
  | '\\' => some '\\'
  | '/' => some '/'
  | 'b' => some '\x08'
  | 'f' => some '\x0c'
  | 'n' => some '\n'
  | 'r' => some '\r'
  | 't' => some '\t'
  | _ => none

/-- Reads on inside a string. `done` holds the characters so far, last first, or the fault that
someone who keeps the string has met. -/
def stringFrom : Nat → Except TextFault (List Char) → List Char → Front String
  | 0, _, _ => .fault .endInString
  | fuel + 1, done, cs =>
    let failed (f : TextFault) : Front String :=
      ⟨match done with
        | .ok _ => .error f
        | .error first => .error first, .error f⟩
    match cs with
    | [] => failed .endInString
    | '"' :: rest => ⟨done.map fun cs => String.ofList cs.reverse, .ok rest⟩
    | ['\\'] => failed .endInString
    | '\\' :: 'u' :: rest =>
      match fourDigits rest with
      | .error f => failed f
      | .ok (n, rest) =>
        match done, escapedChar n rest with
        | .ok cs, .ok (c, rest) => stringFrom fuel (.ok (c :: cs)) rest
        | .ok _, .error f => stringFrom fuel (.error f) rest
        | .error f, _ => stringFrom fuel (.error f) rest
    | '\\' :: c :: rest =>
      match escapeLetter c with
      | some c => stringFrom fuel (done.map (c :: ·)) rest
      | none => failed .invalidEscape
    | c :: rest =>
      if c.toNat < 0x20 then failed .controlCharacter
      else stringFrom fuel (done.map (c :: ·)) rest

/-- A string after its opening quote. -/
def readString (cs : List Char) : Front String := stringFrom (cs.length + 1) (.ok []) cs

/-! ## Words -/

/-- The rest of a word. -/
def readWord (s : Scalar) : List Char → List Char → Front Scalar
  | [], cs => ⟨.ok s, .ok cs⟩
  | _ :: _, [] => .fault .endInValue
  | w :: ws, c :: cs => if w = c then readWord s ws cs else .fault .expectedWord

/-! ## Values -/

/-- The greatest number of lists and objects within each other that are kept. -/
def depthLimit : Nat := 127

/-- A node with what comes after it. -/
structure Item where
  node : Node
  rest : Except TextFault (List Char)

namespace Item

def fault (f : TextFault) : Item := ⟨.broken f, .error f⟩

def ofScalar (front : Front Scalar) : Item :=
  ⟨match front.kept with
    | .ok s => .scalar s
    | .error f => .broken f, front.rest⟩

end Item

/-- Items or members up to the end or a fault, and what comes after them. -/
structure Run (α : Type) where
  parts : List α
  stop : Option TextFault
  rest : Except TextFault (List Char)

namespace Run

variable {α : Type}

/-- A fault that someone who passes over the part may see as another one. -/
def faults (kept passed : TextFault) : Run α := ⟨[], some kept, .error passed⟩

def fault (f : TextFault) : Run α := faults f f

def cons (a : α) (r : Run α) : Run α := { r with parts := a :: r.parts }

end Run

/-- Whatever value stands at the front of a text, as a message names it. -/
def foundItem (item : Item) : Option Found := item.node.found?.toOption

mutual
/-- The value at the front of a text, inside `depth` lists and objects. -/
def readItem : Nat → Nat → List Char → Item
  | 0, _, _ => .fault .endInValue
  | fuel + 1, depth, cs =>
    match dropSpace cs with
    | [] => .fault .endInValue
    | 'n' :: rest => .ofScalar (readWord .null ['u', 'l', 'l'] rest)
    | 't' :: rest => .ofScalar (readWord (.bool true) ['r', 'u', 'e'] rest)
    | 'f' :: rest => .ofScalar (readWord (.bool false) ['a', 'l', 's', 'e'] rest)
    | '"' :: rest =>
      let front := readString rest
      .ofScalar ⟨front.kept.map .str, front.rest⟩
    | '[' :: rest =>
      let run := readItems fuel (depth + 1) true rest
      if depth < depthLimit then ⟨.seq run.parts run.stop, run.rest⟩
      else ⟨.seq [] (some .tooDeep), run.rest⟩
    | '{' :: rest =>
      let run := readMembers fuel (depth + 1) true rest
      if depth < depthLimit then ⟨.map run.parts run.stop, run.rest⟩
      else ⟨.map [] (some .tooDeep), run.rest⟩
    | c :: rest =>
      if c = '-' || Number.isDigit c then .ofScalar (readNumber (c :: rest))
      else .fault .expectedValue

/-- The items of a list. -/
def readItems : Nat → Nat → Bool → List Char → Run Node
  | 0, _, _, _ => .fault .endInList
  | fuel + 1, depth, first, cs =>
    let item (cs : List Char) : Run Node :=
      let item := readItem fuel depth cs
      match item.rest with
      | .error f => ⟨[item.node], some f, .error f⟩
      | .ok rest => .cons item.node (readItems fuel depth false rest)
    match dropSpace cs with
    | [] => .fault .endInList
    | ']' :: rest => ⟨[], none, .ok rest⟩
    | c :: rest =>
      if first then item (c :: rest)
      else if c = ',' then
        match dropSpace rest with
        | [] => .fault .endInValue
        | ']' :: _ => .faults .trailingComma .expectedValue
        | rest => item rest
      else .fault .expectedListEnd

/-- The members of an object. -/
def readMembers : Nat → Nat → Bool → List Char → Run Member
  | 0, _, _, _ => .fault .endInObject
  | fuel + 1, depth, first, cs =>
    let member (cs : List Char) : Run Member :=
      let key := readString cs
      match key.rest with
      | .error f =>
        ⟨[], some (match key.kept with
          | .error f => f
          | .ok _ => f), .error f⟩
      | .ok rest =>
        let item : Item :=
          match dropSpace rest with
          | ':' :: rest => readItem fuel depth rest
          | [] => .fault .endInObject
          | _ => .fault .expectedColon
        let run : Run Member :=
          match item.rest with
          | .error f => .fault f
          | .ok rest => readMembers fuel depth false rest
        match key.kept with
        | .error f => ⟨[], some f, run.rest⟩
        | .ok k =>
          let passed := match item.rest with
            | .error f => some f
            | .ok _ => none
          run.cons (k, item.node, passed)
    let noKey (cs : List Char) : Run Member :=
      .fault (.keyNotString (foundItem (readItem fuel depth cs)))
    match dropSpace cs with
    | [] => .fault .endInObject
    | '}' :: rest => ⟨[], none, .ok rest⟩
    | c :: rest =>
      if first then
        if c = '"' then member rest else noKey (c :: rest)
      else if c = ',' then
        match dropSpace rest with
        | [] => .faults .endInValue .endInObject
        | '"' :: rest => member rest
        | '}' :: _ => .faults .trailingComma (.keyNotString none)
        | rest => noKey rest
      else .fault .expectedObjectEnd
end

/-- The value at the front of a whole text. -/
def readFront (cs : List Char) : Item := readItem (2 * cs.length + 2) 0 cs

/-- Decodes a text that holds one value and nothing else. -/
def decode {α : Type} (d : Decoder α) (text : String) : Except DecodeError α := do
  let item := readFront text.toList
  let a ← d .json item.node
  match item.rest with
  | .error f => throw (.text f)
  | .ok rest => if (dropSpace rest).isEmpty then return a else throw (.text .trailingCharacters)

end CrossSource.Document.Json
