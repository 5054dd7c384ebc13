/-
**Punycode: labels in plain letters, digits and hyphens.**

The plain characters of a label come first. Behind the last hyphen stand numbers, each of which tells
how far it is from one insertion to the next: over places in the label, and over code points as soon
as the places have been used up.

A number has digits of base 36, the lowest first. A digit below a threshold is the last one; the
thresholds follow a bias, which goes along with the sizes of the numbers so far.

* `decode?`: the characters of a label.
-/

import Switchboard.Number.Word
import Switchboard.Text.Scan

namespace Switchboard.Url.Punycode

open Text

/-- The value of a digit. Letters come before digits. -/
def digit? (c : Char) : Option Nat :=
  if c.isAlpha then some (digitValue c - 10)
  else if c.isDigit then some (digitValue c + 26)
  else none

/-- The threshold of a digit, by its position. -/
def threshold (bias position : Nat) : Nat := max 1 (min 26 (position - bias))

/-- How often a distance is divided by 35 until it is small, and what is left of it. -/
def shrunk (distance rounds : Nat) : Nat × Nat :=
  if 455 < distance then shrunk (distance / 35) (rounds + 1) else (distance, rounds)
termination_by distance
decreasing_by exact Nat.div_lt_self (by omega) (by omega)

/-- The bias behind a distance, given how many characters there are by then. -/
def adapted (distance count : Nat) (isFirst : Bool) : Nat :=
  let damped := distance / (if isFirst then 700 else 2)
  let (left, rounds) := shrunk (damped + damped / count) 0
  36 * rounds + 36 * left / (left + 38)

/-- A label that is being decoded. -/
structure Decoding where
  chars : List Char
  codePoint : Nat
  /-- Where the next character goes, before the number at hand counts. -/
  place : Nat
  bias : Nat
  /-- The position of the next digit, the worth of a unit of it, and the digits so far. -/
  position : Nat
  weight : Nat
  sum : Nat

namespace Decoding

/-- A label of which only the plain characters are known. -/
def start (plain : List Char) : Decoding :=
  { chars := plain, codePoint := 128, place := 0, bias := 72, position := 36, weight := 1, sum := 0 }

/-- A label after the number at hand is complete. -/
def insert? (decoding : Decoding) : Option Decoding :=
  let count := decoding.chars.length + 1
  let reached := decoding.place + decoding.sum
  let codePoint := decoding.codePoint + reached / count
  let place := reached % count
  if codePoint.isValidChar then
    some
      { chars := decoding.chars.insertIdx place (Char.ofNat codePoint)
        codePoint, place := place + 1
        bias := adapted decoding.sum count (decoding.place == 0)
        position := 36, weight := 1, sum := 0 }
  else none

/-- A label after one more digit. -/
def add? (decoding : Decoding) (c : Char) : Option Decoding := do
  let digit ← digit? c
  let sum := decoding.sum + digit * decoding.weight
  let least := threshold decoding.bias decoding.position
  let longer := { decoding with sum }
  if digit < least then longer.insert?
  else
    let weight := decoding.weight * (36 - least)
    if weight < wordCount 32 then
      return { longer with weight, position := longer.position + 36 }
    else failure

end Decoding

/-- The plain characters of a label, and the digits of its numbers. -/
def split (code : List Char) : List Char × List Char :=
  let digits := (code.reverse.takeWhile (· != '-')).reverse
  let plain := code.take (code.length - digits.length - 1)
  if plain.isEmpty then ([], code) else (plain, digits)

/-- The characters of a label. -/
def decode? (code : List Char) : Option (List Char) := do
  let (plain, digits) := split code
  let decoding ← digits.foldlM Decoding.add? (Decoding.start plain)
  if decoding.position = 36 then return decoding.chars else failure

end Switchboard.Url.Punycode
