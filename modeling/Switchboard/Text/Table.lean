/-
**Tables of characters, as texts.**

A class of characters is the increasing list of the code points where membership changes: a character
belongs to it when an odd number of changes lie at or below it. A table has rows, each for a code
point or several ones. Both are written in hexadecimal digits, and every code point as its distance
from the one before.

* `inClass`: membership in a class;
* `atDistances`, `rowsAt`: classes and tables.
-/

import Switchboard.Text.Scan

namespace Switchboard.Text

/-- Membership of a code point in the class that changes at the given code points. -/
def inClass (changes : List Nat) (codePoint : Nat) : Bool :=
  changes.countP (· ≤ codePoint) % 2 == 1

/-- The numbers in hexadecimal digits in a text. -/
def hexNumbers (chars : List Char) : List Nat :=
  let words := chars.splitOnP fun c => c == ' ' || c == '\n'
  (words.filter (!·.isEmpty)).map (ofDigits 16)

/-- The sums of the first numbers, of which there are more and more, on top of a start. -/
def sumsFrom (start : Nat) : List Nat → List Nat
  | [] => []
  | distance :: rest => (start + distance) :: sumsFrom (start + distance) rest

/-- The code points at the given distances from one another. -/
def atDistances (text : String) : List Nat := sumsFrom 0 (hexNumbers text.toList)

/-- Rows with their code points, given how far each of these is from the one before. -/
def rowsFrom (start : Nat) : List (List Nat) → List (Nat × List Nat)
  | [] => []
  | [] :: rows => rowsFrom start rows
  | (distance :: fields) :: rows =>
    (start + distance, fields) :: rowsFrom (start + distance) rows

/-- The rows of a table, with commas between them. -/
def rowsAt (text : String) : List (Nat × List Nat) :=
  rowsFrom 0 ((text.toList.splitOn ',').map hexNumbers)

end Switchboard.Text
