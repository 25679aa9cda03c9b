import CrossSource.Number.Natural
import CrossSource.Number.Shortest

/-!
# Floating-point numbers in text

Numbers of moderate size are written positionally and always with a point, all others with a
signed exponent of at least two digits. `Layout` holds the decisions, `Layout.document` the ones
that documents and messages use.
-/

namespace CrossSource.Number

/-- How the digits of a number are laid out. The exponents are those of the leading digit. -/
structure Layout where
  leastPositional : Int
  greatestPositional : Int
  exponentWidth : Nat

namespace Layout

/-- Numbers from 0.00001 up to, not including, 10 ^ 16 are written positionally. -/
def document : Layout := ⟨-5, 15, 2⟩

def zeros (n : Int) : List Char := List.replicate n.toNat '0'

def positional (digits : List Char) (lead : Int) : List Char :=
  if lead < 0 then '0' :: '.' :: zeros (-lead - 1) ++ digits
  else
    let whole := (lead + 1).toNat
    if digits.length ≤ whole then digits ++ zeros (whole - digits.length) ++ ['.', '0']
    else digits.take whole ++ '.' :: digits.drop whole

def scientific (l : Layout) (digits : List Char) (lead : Int) : List Char :=
  let point := match digits.tail with
    | [] => []
    | rest => '.' :: rest
  let sign := if lead < 0 then '-' else '+'
  digits.take 1 ++ point ++ 'e' :: sign :: (padded l.exponentWidth lead.natAbs).toList

def render (l : Layout) (d : Decimal) : List Char :=
  let digits := Nat.toDigits 10 d.digits
  let lead := d.exponent + digits.length - 1
  if l.leastPositional ≤ lead && lead ≤ l.greatestPositional then positional digits lead
  else l.scientific digits lead

end Layout

/-- The text of a finite number. -/
def floatText (x : Float) : String :=
  let b := Binary.ofBits x.toBits
  let sign := if twoTo 63 ≤ x.toBits.toNat then ['-'] else []
  let body := if b.mantissa = 0 then ['0', '.', '0'] else Layout.document.render b.shortest
  String.ofList (sign ++ body)

end CrossSource.Number
