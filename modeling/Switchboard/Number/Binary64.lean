/-
**Binary floating point numbers of 64 bits.**

A finite number is a significand times a power of two. The significand has at most 53 bits, and all
of them are used unless the number is too small for that.

* `ofDecimal`: the number nearest to a decimal, and the even one of two that are equally near;
* `mul`, `div`: products and quotients, rounded in the same way;
* `roundedInt`: the nearest integer, and the one farther from zero of two that are equally near;
* `text`: the fewest digits that are read back as the same number, without an exponent.
-/

import Switchboard.Number.Word

namespace Switchboard

/-- A floating point number of 64 bits. -/
inductive Binary64 where
  | nan
  | infinite (negative : Bool)
  /-- The significand times two to the exponent. -/
  | finite (negative : Bool) (significand : Nat) (exponent : Int)
  deriving DecidableEq, Repr

namespace Binary64

/-- One more than the greatest significand. -/
def significandBound : Nat := wordCount 53

/-- The exponent of the smallest numbers. -/
def leastExponent : Int := -1074

/-- The exponent of the greatest numbers. -/
def greatestExponent : Int := 971

/-- A quotient as a natural number: the nearest, and the even one of two that are equally near. -/
def nearestEven (numerator denominator : Nat) : Nat :=
  let floor := numerator / denominator
  let twice := 2 * (numerator % denominator)
  if twice < denominator then floor
  else if denominator < twice then floor + 1
  else floor + floor % 2

/-- A fraction times two to an exponent, as a fraction. -/
def scaleByTwo (numerator denominator : Nat) (exponent : Int) : Nat × Nat :=
  if 0 ≤ exponent then (numerator * Nat.pow 2 exponent.toNat, denominator)
  else (numerator, denominator * Nat.pow 2 (-exponent).toNat)

/-- A fraction times ten to an exponent, as a fraction. -/
def scaleByTen (numerator denominator : Nat) (exponent : Int) : Nat × Nat :=
  if 0 ≤ exponent then (numerator * Nat.pow 10 exponent.toNat, denominator)
  else (numerator, denominator * Nat.pow 10 (-exponent).toNat)

/-- The exponent with which a positive fraction has a significand of 53 bits, or the least one. -/
def exponentFor (numerator denominator : Nat) : Int :=
  let guess : Int := (Nat.log2 numerator : Int) - Nat.log2 denominator - 52
  let (scaled, unit) := scaleByTwo numerator denominator (-guess)
  max leastExponent (if scaled < unit * wordCount 52 then guess - 1 else guess)

/-- The number nearest to a fraction. -/
def ofFraction (negative : Bool) (numerator denominator : Nat) : Binary64 :=
  if numerator = 0 then .finite negative 0 leastExponent
  else
    let exponent := exponentFor numerator denominator
    let (scaled, unit) := scaleByTwo numerator denominator (-exponent)
    let rounded := nearestEven scaled unit
    let (significand, exponent) :=
      if rounded = significandBound then (rounded / 2, exponent + 1) else (rounded, exponent)
    if greatestExponent < exponent then .infinite negative
    else .finite negative significand exponent

/-- How many decimal digits a number has; zero has one. -/
def digitCount (n : Nat) : Nat := (Nat.toDigits 10 n).length

/-- The number nearest to some digits times ten to an exponent. What is far beyond the greatest
number, or far below the smallest, is decided without the power of ten. -/
def ofDecimal (negative : Bool) (digits : Nat) (exponent : Int) : Binary64 :=
  let magnitude : Int := digitCount digits + exponent
  if digits = 0 || magnitude < -400 then .finite negative 0 leastExponent
  else if 400 < magnitude then .infinite negative
  else
    let (numerator, denominator) := scaleByTen digits 1 exponent
    ofFraction negative numerator denominator

/-- The number nearest to a natural number. -/
def ofNat (n : Nat) : Binary64 := ofFraction false n 1

/-- A number with the other sign. -/
def neg : Binary64 → Binary64
  | .nan => .nan
  | .infinite negative => .infinite !negative
  | .finite negative significand exponent => .finite (!negative) significand exponent

/-- The product of two numbers. -/
def mul : Binary64 → Binary64 → Binary64
  | .finite negative significand exponent, .finite other factor power =>
    let (numerator, denominator) := scaleByTwo (significand * factor) 1 (exponent + power)
    ofFraction (negative != other) numerator denominator
  | .infinite negative, .infinite other => .infinite (negative != other)
  | .infinite negative, .finite other factor _
  | .finite negative factor _, .infinite other =>
    if factor = 0 then .nan else .infinite (negative != other)
  | .nan, _ | _, .nan => .nan

/-- The quotient of two numbers. -/
def div : Binary64 → Binary64 → Binary64
  | .finite negative significand exponent, .finite other divisor power =>
    if divisor = 0 then
      if significand = 0 then .nan else .infinite (negative != other)
    else
      let (numerator, denominator) := scaleByTwo significand divisor (exponent - power)
      ofFraction (negative != other) numerator denominator
  | .infinite negative, .finite other _ _ => .infinite (negative != other)
  | .finite negative _ _, .infinite other => .finite (negative != other) 0 leastExponent
  | .infinite _, .infinite _ => .nan
  | .nan, _ | _, .nan => .nan

/-- The nearest integer, and the one farther from zero of two that are equally near. The values
without one have no integer. -/
def roundedInt? : Binary64 → Option Int
  | .nan | .infinite _ => none
  | .finite negative significand exponent =>
    let (numerator, denominator) := scaleByTwo significand 1 exponent
    let rounded := (2 * numerator + denominator) / (2 * denominator)
    some (if negative then -rounded else rounded)

/-- The nearest integer between two bounds: what lies beyond a bound becomes that bound, and what
is no number becomes zero. -/
def roundedBetween (least greatest : Int) (x : Binary64) : Int :=
  match x with
  | .nan => 0
  | .infinite negative => if negative then least else greatest
  | x => max least (min greatest ((roundedInt? x).getD 0))

/-! ### The shortest text -/

/-- Whether a fraction is read as the number with this significand and exponent: whether it lies
between the midpoints to the neighbours. A midpoint itself is read as the even neighbour. -/
def readsAs (numerator denominator significand : Nat) (exponent : Int) : Bool :=
  ofFraction false numerator denominator == .finite false significand exponent

/-- The least exponent of ten whose power is greater than a positive fraction. -/
def magnitudeOf (numerator denominator : Nat) : Int :=
  let guess : Int := (digitCount numerator : Int) - digitCount denominator
  let (scaled, unit) := scaleByTen numerator denominator (-guess)
  if unit ≤ scaled then guess + 1 else guess

/-- Some digits times ten to `place` that are read as the number, if there are any: those next to
the number, and the nearer of two. -/
def onGrid? (significand : Nat) (exponent place : Int) : Option Nat :=
  let (numerator, denominator) := scaleByTwo significand 1 exponent
  let (scaled, unit) := scaleByTen numerator denominator (-place)
  let below := scaled / unit
  let nearest := nearestEven scaled unit
  let reads (digits : Nat) : Bool :=
    let (top, bottom) := scaleByTen digits 1 place
    digits != 0 && readsAs top bottom significand exponent
  if reads nearest then some nearest
  else if reads below then some below
  else if reads (below + 1) then some (below + 1)
  else none

/-- The fewest digits that are read as the number, and the exponent of ten of the last one: tried
with one digit, then with two, and so on. Seventeen are always enough. -/
def shortestFrom (significand : Nat) (exponent magnitude : Int) (count : Nat) : Nat → Nat × Int
  | 0 =>
    ((onGrid? significand exponent (magnitude - count)).getD 0, magnitude - count)
  | more + 1 =>
    match onGrid? significand exponent (magnitude - count) with
    | some digits => (digits, magnitude - count)
    | none => shortestFrom significand exponent magnitude (count + 1) more

/-- The fewest digits that are read as a positive number, and the exponent of ten of the last. A
number just below a power of ten is read from ten units, which are one unit of the next place. -/
def shortest (significand : Nat) (exponent : Int) : Nat × Int :=
  let (numerator, denominator) := scaleByTwo significand 1 exponent
  match shortestFrom significand exponent (magnitudeOf numerator denominator) 1 16 with
  | (10, place) => (1, place + 1)
  | (digits, place) => (digits, place)

/-- Digits times ten to an exponent, written without an exponent. -/
def positional (digits : Nat) (exponent : Int) : String :=
  if 0 ≤ exponent then toString digits ++ String.ofList (List.replicate exponent.toNat '0')
  else
    let places := (-exponent).toNat
    let written := Nat.toDigits 10 digits
    let padded := List.replicate (places + 1 - written.length) '0' ++ written
    let whole := padded.length - places
    String.ofList (padded.take whole ++ '.' :: padded.drop whole)

/-- The text of a number. -/
def text : Binary64 → String
  | .nan => "NaN"
  | .infinite negative => if negative then "-inf" else "inf"
  | .finite negative significand exponent =>
    let sign := if negative then "-" else ""
    if significand = 0 then sign ++ "0"
    else
      let (digits, place) := shortest significand exponent
      sign ++ positional digits place

end Binary64

end Switchboard
