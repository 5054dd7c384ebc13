/-
**The direction in which the labels of a name are written.**

A label runs in one direction from end to end. Where some label of a name runs to the left, all labels
have to be clear about their direction: they begin with a letter, and nothing in them runs in the other
direction.

* `direction`: the direction of a character;
* `isOneWay`: labels that are clear about theirs.
-/

import Switchboard.Text.Table

namespace Switchboard.Url

open Text

/-- The direction of a character, as far as labels are concerned. -/
inductive Direction where
  | rightward
  | leftward
  /-- A number that stands among characters that run to the left. -/
  | arabicNumber
  | europeanNumber
  /-- A mark, which goes with the character before. -/
  | mark
  /-- A sign between others, or a mark of currency or of separation. -/
  | neutral
  deriving DecidableEq, Repr

/-! ### Classes, among the characters that names may have -/

/-- Where letters that run to the left begin or end. -/
def leftwardChanges : List Nat := atDistances
  "5be 1 1 1 2 1 2 1 9 36 2 1 2 1 1 1 d 30 22 3 1 65 f 2 7 2 a 17 1 1e 1d 59 b 3a 9 2 4 3 1 18 4 1
   9 1 3 1 7 29 5 39 9 2a f2e8 11 2b0 18d 800 11f 1 e1 f 28 8 a5 6 4e 7 1e4 1c 29 6 f1 20 2b 2 23
   30 46 b 31 4 7a d800 d0 52 22 7 5a5"

/-- Where Arabic numbers begin or end. -/
def arabicNumberChanges : List Nat := atDistances
  "660 a 1 2 106c3 10 120 20"

/-- Where European numbers begin or end. -/
def europeanNumberChanges : List Nat := atDistances
  "30 a 6b6 a fbe7 1f"

/-- Where marks without a width begin or end. -/
def looseMarkChanges : List Nat := atDistances
  "300 71 112 8 106 2d 1 1 1 2 1 2 1 9 40 b 30 15 10 1 65 8 1 6 2 2 1 4 23 1 1e 1d 59 b 3a 9 9 1 18
   4 1 9 1 3 1 7 29 5 39 9 2a 39 37 1 1 1 4 8 4 1 3 f 2 2 1d 1 3a 1 4 6 6 1 14 4 18 5 39 2 3 1b 14
   2 3 1 b 2 39 1 4 8 4 3 12 4 14 8 3a 1 2 1 1 6 6 a b 4 1c 1 3d 1 c 3 30 1 3 1 37 1 1 3 5 12 a 4
   1b 1 3a 1 f 9 d 4 1a 2 39 2 4 5 7 1 14 4 1b 1 48 5 3 6 59 1 2 b 8 8 62 1 2 9 b 8 48 2 1b 1 1 1 1
   1 37 e 1 5 1 2 5 31 8 1 66 4 1 6 1 2 2 2 19 2 4 3 10 4 d 1 2 2 6 1 f 1 2bf 3 3b2 3 1d 2 1e e 12
   e 37 7 8 1 2 b 9 3 a5 2 22 1 76 3 4 2 9 1 6 7 d7 2 2 3 38 1 1 9 1 1 2 8 6 d 30 54 30 1 1 5 1 1 5
   1 28 9 c 2 20 4 2 2 1 3 38 1 1 2 3 1 1 3 3a 8 2 5 95 3 1 d 1 7 4 1 6 1 3 2 c6 41 2cf 34 beb 4 8c
   1 60 20 22a 4 6b 4 75d2 4 1 a 20 2 50 2 110 1 3 1 4 1 19 2 5 4 94 a 12 12 d 1 26 8 19 b 2e 3 30
   1 2 4 2 2 27 1 43 6 2 2 2 b 3 1 8 1 2f 1 33 1 1 3 2 2 5 2 1 1 2a 2 8 b e4 1 2 1 4 3 4f2e 94 26e
   25 3b8 83 60 1 95 a 681 f 28 8 a5 6 239 c 39 5 13d 2 4d 6 46 b 31 4 7b 1 36 f 29 1 2 2 a 3 31 4
   2 2 7 e 30 3 24 5 1 9 3d 1 c 2 34 9 a 4 2 1 5f 3 2 1 1 2 6 1 2 3f 5f 1 3 d 10 2 39 2 3 1 25 1a
   3b 7 c 1 1 1 1 1 e 1f 38 8 2 3 1 1 17 1 54 6 1 1 4 2 1 2 ee 6 4 2 1 2 1b 24 33 8 2 1 1 2 6a 1 1
   1 2 6 1 1 65 3 2 4 1 9 ff 9 1 2 100 2 1 1 4 1 90 8 4 1 20 6 2 2 28 6 2 4 8 9 1 6 2 3 2e d 1 2 c6
   1 1 3 1 1 c9 e 54 17 1 7 1 2 1 4b 31 15 1 9 40 3 2 1 1 1 15b 2 b 2 34 8 2 1 1 1 17 56 1490 1 6
   19 2cbe c 3 3 9c0 5 3b 7 418 1 3f 4 51 c 4cad 2 1261 50 217 3 11 8 2 7 1e 4 94 3 7bb 37 4 32 8 1
   e 1 16 465 100 100 30 7 177 12 2c 4 1fc 4 fe 2 f3 1 2 1 7 2 5 9 1d2 52 22 7"

/-- Where characters without a direction begin or end. -/
def neutralChanges : List Nat := atDistances
  "0 9 5 e 5 f a 27 1a 64 18 1 1c1 2 7 e 2 1c 1 11 75 2 7f 2 192 7 75 2 1 2 1 1 1 2 5a 1 73 1 a 1
   10c 4 1f8 2 7 1 f5 8 fa d 78 7 1c0 1 fa 4 452 10 60 1 29a 5 13b 1 14 20 130 6 98 22 60c c4 34 4a
   3c 1ac 45 1a 1 316 1 153 100 330 b5 7 d 7 100 205 3 19 f 1 6 4 2 4 5f 1 5a 1 c4 30 1bd0 40 5690
   40 13d 3 63 1 a 3 7f 23 65 1 9f 4 c 8 34 c 2ea 56 5003 25d 25 2e 28e 1 3e 4d 3 40 74f 1 219 7
   22e 1 161 2a 158 14 5fa 20 955 2a 4fe3 1 5c1d 300 2e9 59 3 7b 40 60 f9f 1d1 a20 260 1d 3 3d 39
   7a da0"

/-- The direction of a character. -/
def direction (c : Char) : Direction :=
  let n := c.toNat
  if inClass leftwardChanges n then .leftward
  else if inClass arabicNumberChanges n then .arabicNumber
  else if inClass europeanNumberChanges n then .europeanNumber
  else if inClass looseMarkChanges n then .mark
  else if inClass neutralChanges n then .neutral
  else .rightward

/-! ### Labels -/

/-- Whether a label runs to the left in some place. -/
def runsLeft (label : List Char) : Bool :=
  label.any fun c => direction c ∈ [.leftward, .arabicNumber]

/-- Whether a label runs in one direction. The last character that is no mark decides at the end. -/
def isOneWay (label : List Char) : Bool :=
  let directions := label.map direction
  let last := (directions.reverse.find? (· ≠ .mark)).getD .mark
  match directions.head? with
  | none => true
  | some .rightward =>
    directions.all (· ∉ [.leftward, .arabicNumber]) && last ∈ [.rightward, .europeanNumber]
  | some .leftward =>
    directions.all (· ≠ .rightward)
      && last ∈ [.leftward, .arabicNumber, .europeanNumber]
      && !(directions.contains .arabicNumber && directions.contains .europeanNumber)
  | some _ => false

end Switchboard.Url
