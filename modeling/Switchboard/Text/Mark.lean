/-
**Marks: characters that are combined with the one before.**

The class of a mark says where it goes: marks of different classes can change places without a
difference, and those of one class cannot. A character of class zero is no mark that could move.

* `isMark`: marks of any kind (`Mn Mc Me`);
* `combiningClass`: the class of a mark;
* `isVirama`: marks that take the vowel from a consonant.
-/

import Switchboard.Text.Table

namespace Switchboard.Text

/-- Where marks begin or end. -/
def markChanges : List Nat := atDistances
  "300 70 113 7 107 2d 1 1 1 2 1 2 1 1 48 b 30 15 10 1 65 7 2 6 2 2 1 4 23 1 1e 1b 5b b 3a 9 9 1 18
   4 1 9 1 3 1 5 2b 3 3b 9 2a 18 1 21 36 3 1 12 1 7 a 2 1d 3 38 1 1 7 2 2 2 3 9 1 a 2 1a 1 2 3 38 1
   1 5 4 2 2 3 3 1 1e 2 3 1 b 3 38 1 1 8 1 3 1 3 14 2 16 6 1 3 38 1 1 7 2 2 2 3 7 3 a 2 1e 1 3b 5 3
   3 1 4 9 1 28 5 37 1 1 7 1 3 1 4 7 2 b 2 1d 3 38 1 1 7 1 3 1 4 7 2 b 2 f 1 c 4 37 2 1 7 1 3 1 4 9
   1 a 2 1d 3 46 1 4 6 1 1 1 8 12 2 3d 1 2 7 c 8 62 1 2 9 b 7 49 2 1b 1 1 1 1 1 4 2 31 14 1 2 5 b 1
   24 9 1 64 14 17 4 4 3 1 3 2 7 3 4 d c 1 1 a 4 2bf 3 3b2 4 1c 3 1d 2 1e 2 40 20 9 1 2d 3 1 1 75 2
   22 1 76 c 4 c db 5 39 a 1 1d 2 1 30 2e 2 c 14 5 2f 11 26 9 c 3 1e d 38 e 30 14 98 3 1 15 4 1 6 1
   2 3 c6 40 2d0 21 bfe 3 8d 1 60 20 22a 6 69 2 75d4 4 1 a 20 2 50 2 110 1 3 1 4 1 17 5 4 1 53 2 32
   12 1a 12 d 1 26 8 19 d 2c 4 2f e 24 1 43 e c 1 8 2 2d 3 32 1 1 3 2 2 5 2 1 1 29 5 5 2 ec 8 1 2
   4f30 1 2e1 10 10 10 3cd 1 e2 1 95 5 686 3 1 2 5 4 28 3 4 1 a5 2 23d 4 41 5 13d 2 4d 6 46 b 31 4
   7a 3 35 f 29 1 2 2 a 4 2d b 7 1 3d 3 24 e 10 2 2c 1 c 3 30 e 8 4 1 2 5c c 6 1 2 1 9d c 15 4 37 2
   1 7 2 2 2 3 9 1 a 2 2 7 3 5 43 9 1 1 2 1 1 4 1 5 1 1 e 2 52 12 17 1 51 14 eb 7 2 9 1b 2 52 11 6a
   d 65 f 100 f f5 6 1 2 2 4 1 1 1 2 8d 7 2 7 3 1 1c a 28 7 1 4 8 1 9 b 2e 10 c6 8 c7 8 1 8 52 16 1
   e 7a 6 3 1 1 2 1 7 1 1 42 5 1 2 1 5 15b 4 9 2 1 1 30 7 3 5 17 1 14e5 1 6 f 2cc8 12 9c0 5 3b 7
   418 1 1 37 7 4 51 1 b 2 4cab 2 1261 2e 2 17 21e 5 3 6 8 8 2 7 1e 4 94 3 7bb 37 4 32 8 1 e 1 16 5
   1 f 550 7 1 11 2 7 1 2 1 5 64 1 a0 7 177 1 3d 4 1fc 4 fe 2 f3 1 2 1 7 2 5 1 1da 7 6d 7 c17b5 f0"

/-- Marks of any kind. -/
def isMark (c : Char) : Bool := inClass markChanges c.toNat

/-- A range of marks of one class: where it begins, how long it is, and the class. -/
structure MarkRange where
  first : Nat
  length : Nat
  markClass : Nat

/-- The ranges of marks of one class. -/
def markRanges : List MarkRange :=
  (rowsAt
    "300 15 e6, 15 1 e8, 1 4 dc, 4 1 e8, 1 1 d8, 1 5 dc, 5 2 ca, 2 4 dc, 4 2 ca, 2 b dc, b 5 1,
     5 4 dc, 4 8 e6, 8 1 f0, 1 1 e6, 1 3 dc, 3 3 e6, 3 2 dc, 3 3 e6, 3 4 dc, 4 1 e6, 1 1 e8,
     1 2 dc, 2 1 e6, 1 1 e9, 1 2 ea, 2 1 e9, 1 2 ea, 2 1 e9, 1 d e6, 120 5 e6, 10e 1 dc, 1 4 e6,
     4 1 dc, 1 3 e6, 3 1 de, 1 1 dc, 1 6 e6, 6 6 dc, 6 2 e6, 2 1 dc, 1 2 e6, 2 1 de, 1 1 e4,
     1 1 e6, 1 1 a, 1 1 b, 1 1 c, 1 1 d, 1 1 e, 1 1 f, 1 1 10, 1 1 11, 1 1 12, 1 2 13, 2 1 14,
     1 1 15, 1 1 16, 2 1 17, 2 1 18, 1 1 19, 2 1 e6, 1 1 dc, 2 1 12, 49 8 e6, 8 1 1e, 1 1 1f,
     1 1 20, 31 1 1b, 1 1 1c, 1 1 1d, 1 1 1e, 1 1 1f, 1 1 20, 1 1 21, 1 1 22, 1 2 e6, 2 2 dc,
     2 5 e6, 5 1 dc, 1 2 e6, 2 1 dc, 11 1 23, 66 7 e6, 9 4 e6, 4 1 dc, 1 1 e6, 3 2 e6, 3 1 dc,
     1 2 e6, 2 1 dc, 24 1 24, 1f 1 e6, 1 1 dc, 1 2 e6, 2 1 dc, 1 2 e6, 2 3 dc, 3 1 e6, 1 2 dc,
     2 1 e6, 1 1 dc, 1 3 e6, 3 1 dc, 1 1 e6, 1 1 dc, 1 1 e6, 1 1 dc, 1 1 e6, 1 1 dc, 1 2 e6,
     a2 7 e6, 7 1 dc, 1 1 e6, a 1 dc, 19 4 e6, 5 9 e6, a 3 e6, 4 5 e6, 30 3 dc, 3e 2 e6, 2 3 dc,
     3 4 e6, 2e 5 e6, 5 5 dc, 5 e e6, f 1 dc, 1 2 e6, 2 1 dc, 1 2 e6, 2 1 dc, 1 3 e6, 3 3 dc,
     3 1 1b, 1 1 1c, 1 1 1d, 1 3 e6, 3 1 dc, 1 2 e6, 2 2 dc, 2 5 e6, 41 1 7, 11 1 9, 4 1 e6,
     1 1 dc, 1 2 e6, 69 1 7, 11 1 9, 31 1 e6, 3e 1 7, 11 1 9, 6f 1 7, 11 1 9, 6f 1 7, 11 1 9,
     80 1 9, 6f 1 7, 11 1 9, 8 1 54, 1 1 5b, 66 1 7, 11 1 9, 6e 2 9, 12 1 9, 7d 1 9, 6e 2 67,
     2 1 9, e 4 6b, 70 2 76, 2 1 9, e 4 7a, 50 2 dc, 1d 1 dc, 2 1 dc, 2 1 d8, 38 1 81, 1 1 82,
     2 1 84, 6 4 82, 6 1 82, 2 2 e6, 2 1 9, 2 2 e6, 40 1 dc, 71 1 7, 2 2 9, 54 1 dc, 2d0 3 e6,
     3b7 2 9, 20 1 9, 9e 1 9, b 1 e6, cc 1 e4, 90 1 de, 1 1 e6, 1 1 dc, dc 1 e6, 1 1 dc, 48 1 9,
     15 8 e6, a 1 dc, 31 5 e6, 5 6 dc, 6 2 e6, 2 1 dc, 2 2 dc, 2 2 e6, 2 2 dc, 2 5 e6, 5 1 dc,
     1 12 e6, 12 1 dc, 3 6 e6, 6 1 dc, 1 4 e6, 4 1 ea, 49 1 7, 10 1 9, 27 1 e6, 1 1 dc, 1 7 e6,
     3d 2 9, 3c 1 7, c 2 9, 45 1 7, 99 3 e6, 4 1 1, 1 5 dc, 5 2 e6, 2 4 dc, 4 1 e6, 2 7 1, b 1 dc,
     7 1 e6, 4 2 e6, c8 2 e6, 2 1 dc, 1 7 e6, 7 1 dc, 1 2 e6, 2 1 ea, 1 1 d6, 1 1 dc, 1 1 ca,
     1 25 e6, 25 1 e8, 1 2 e4, 2 1 dc, 1 1 da, 1 1 e6, 1 1 e9, 1 1 dc, 1 1 e6, 1 1 dc, 2d1 2 e6,
     2 2 1, 2 4 e6, 4 3 1, 3 2 e6, 6 1 e6, 4 2 1, 2 1 e6, 1 1 dc, 1 1 e6, 1 2 1, 2 4 dc, 4 1 e6,
     bff 3 e6, 90 1 9, 61 20 e6, 24a 1 da, 1 1 e4, 1 1 e8, 1 1 de, 1 2 e0, 6b 2 8, 75d6 1 e6,
     5 a e6, 2a 2 e6, 52 2 e6, 116 1 9, 26 1 9, 98 1 9, 1c 12 e6, 4b 3 dc, 28 1 9, 60 1 7, d 1 9,
     f0 1 e6, 2 2 e6, 2 1 dc, 3 2 e6, 7 2 e6, 3 1 e6, 35 1 9, f7 1 9, 4f31 1 1a, 302 7 e6, 7 7 dc,
     7 2 e6, 3cf 1 dc, e3 1 dc, 96 5 e6, 697 1 dc, 2 1 e6, 29 1 e6, 1 1 1, 1 1 dc, 5 1 9, a6 1 e6,
     1 1 dc, 23e 4 e6, 45 5 e6, 142 2 e6, 4f 2 dc, 3 3 dc, 49 2 dc, 2 3 e6, 3 1 dc, 1 1 e6, 1 4 dc,
     35 1 e6, 1 1 dc, 1 1 e6, 1 1 dc, c1 1 9, 2a 1 9, f 1 9, 3a 1 9, 1 1 7, 46 3 e6, 33 2 9,
     40 1 7, 4d 1 9, a 1 7, 6b 1 9, 1 1 7, b3 1 7, 1 1 9, 51 2 7, 12 1 9, 19 7 e6, a 5 e6, 5e 3 9,
     74 1 9, 4 1 7, 18 1 e6, 64 1 9, 1 1 7, fc 1 9, 1 1 7, 7f 1 9, 77 1 9, 1 1 7, 74 1 9, 10e 1 9,
     1 1 7, 103 2 9, 6 1 7, 9d 1 9, 54 1 9, 13 1 9, 52 1 9, 1a6 1 9, 103 1 7, 2 2 9, 53 1 9,
     1aa 2 9, 41ee 1 9, 9c1 5 1, 40 7 e6, 4c0 2 6, 4cae 1 1, 14c7 2 d8, 2 3 1, 6 1 e2, 1 5 d8,
     d 8 dc, a 5 e6, 5 2 dc, 20 4 e6, 98 3 e6, dbe 7 e6, 8 11 e6, 13 7 e6, 8 2 e6, 3 5 e6, 69 1 e6,
     a1 7 e6, 17e 1 e6, 3e 4 e6, 200 2 e8, 2 1 dc, 1 1 e6, ff 1 e6, 1 1 dc, f4 1 e6, 3 1 e6,
     8 2 e6, 7 1 e6, 1db 7 dc, 74 6 e6, 6 1 7").filterMap fun row =>
    match row with
    | (first, [length, markClass]) => some { first, length, markClass }
    | _ => none

/-- The class of a mark, and zero for all other characters. -/
def combiningClass (c : Char) : Nat :=
  let isAt (range : MarkRange) : Bool :=
    range.first ≤ c.toNat && c.toNat < range.first + range.length
  ((markRanges.find? isAt).map MarkRange.markClass).getD 0

/-- Marks that take the vowel from a consonant. -/
def isVirama (c : Char) : Bool := combiningClass c == 9

end Switchboard.Text
