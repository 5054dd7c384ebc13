/-
**Words: numbers of a fixed count of bits.**

A word without a sign lies below `wordCount` of its bits. A word with a sign of 64 bits lies between
`leastInt64` and `greatestInt64`.
-/

namespace Switchboard

/-- How many words of some count of bits there are. -/
def wordCount (bits : Nat) : Nat := Nat.pow 2 bits

/-- The least number of 64 bits with a sign. -/
def leastInt64 : Int := -(wordCount 63 : Int)

/-- The greatest number of 64 bits with a sign. -/
def greatestInt64 : Int := (wordCount 63 : Int) - 1

/-- The greatest number of 64 bits without a sign. -/
def greatestWord64 : Int := (wordCount 64 : Int) - 1

/-- Whether a number fits into 64 bits with a sign. -/
def isInt64 (n : Int) : Bool := leastInt64 ≤ n && n ≤ greatestInt64

end Switchboard
