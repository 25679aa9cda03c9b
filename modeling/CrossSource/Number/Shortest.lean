import CrossSource.Number.Natural

/-!
# The shortest decimal that reads back

A binary floating-point number stands for all reals that round to it. `Binary.shortest` finds the
decimal with the fewest digits among them, of several the nearest to the number itself, by exact
arithmetic on naturals.
-/

namespace CrossSource.Number

/-- A positive number `mantissa * 2 ^ exponent`. Just below a power of two the neighbours are half
as far away as above it. -/
structure Binary where
  mantissa : Nat
  exponent : Int
  narrowBelow : Bool

/-- A number `digits * 10 ^ exponent`. -/
structure Decimal where
  digits : Nat
  exponent : Int

namespace Binary

/-- The absolute value of a finite number of 64 bits. -/
def ofBits (bits : UInt64) : Binary :=
  let field : Nat := bits.toNat / twoTo 52 % twoTo 11
  let fraction : Nat := bits.toNat % twoTo 52
  if field = 0 then ⟨fraction, -1074, false⟩
  else ⟨twoTo 52 + fraction, (field : Int) - 1075, fraction == 0 && field != 1⟩

/-- `d * 10 ^ e`, in units that make it comparable with `scaledBinary n e p`. -/
def scaledDecimal (d : Nat) (e p : Int) : Nat := d * tenTo e.toNat * twoTo (-p).toNat

/-- `n * 2 ^ p`, in units that make it comparable with `scaledDecimal d e p`. -/
def scaledBinary (n : Nat) (e p : Int) : Nat := n * twoTo p.toNat * tenTo (-e).toNat

/-- Whether a decimal rounds to the number: it lies between the midpoints to both neighbours, and
may be a midpoint itself if the mantissa is even. -/
def readsBack (b : Binary) (d : Decimal) : Bool :=
  let p := b.exponent - 2
  let x := scaledDecimal d.digits d.exponent p
  let low := scaledBinary (4 * b.mantissa - if b.narrowBelow then 1 else 2) d.exponent p
  let high := scaledBinary (4 * b.mantissa + 2) d.exponent p
  if b.mantissa % 2 = 0 then low ≤ x && x ≤ high else low < x && x < high

def below (b : Binary) (k : Int) : Bool :=
  scaledBinary b.mantissa k b.exponent < scaledDecimal 1 k b.exponent

/-- The least `k` with the number below `10 ^ k`. The estimate from the binary logarithm is at
most two too small. -/
def scale (b : Binary) : Int :=
  let k := ((Nat.log2 b.mantissa + b.exponent) * 30103) / 100000
  if b.below k then k else if b.below (k + 1) then k + 1 else k + 2

/-- The number in units of `10 ^ e`, rounded down. -/
def floorAt (b : Binary) (e : Int) : Nat :=
  scaledBinary b.mantissa e b.exponent / scaledDecimal 1 e b.exponent

/-- Of the two decimals of exponent `e` around the number, the one that reads back; if both do,
the nearer one; if they are equally near, the even one. -/
def neighbour (b : Binary) (e : Int) : Option Decimal :=
  let low := b.floorAt e
  match b.readsBack ⟨low, e⟩, b.readsBack ⟨low + 1, e⟩ with
  | false, false => none
  | true, false => some ⟨low, e⟩
  | false, true => some ⟨low + 1, e⟩
  | true, true =>
    let twice := scaledBinary (2 * b.mantissa) e b.exponent
    let middle := scaledDecimal (2 * low + 1) e b.exponent
    if twice < middle || (twice == middle && low % 2 == 0) then some ⟨low, e⟩
    else some ⟨low + 1, e⟩

/-- Zeros at the end of the digits go into the exponent. -/
def strip : Nat → Decimal → Decimal
  | 0, d => d
  | n + 1, d => if d.digits % 10 = 0 then strip n ⟨d.digits / 10, d.exponent + 1⟩ else d

/-- The shortest decimal that reads back. Seventeen digits always suffice; were they not to, the
exact value would be given. -/
def shortest (b : Binary) : Decimal :=
  let k := b.scale
  match (List.range 17).findSome? fun (n : Nat) => b.neighbour (k - (n + 1)) with
  | some d => strip 17 d
  | none => ⟨b.mantissa * twoTo b.exponent.toNat * Nat.pow 5 (-b.exponent).toNat, min b.exponent 0⟩

end Binary

end CrossSource.Number
