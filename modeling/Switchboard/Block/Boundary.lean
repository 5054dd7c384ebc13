/-
**Where a block ends.**

A block is closed by a blank line: a line feed followed at once by another line end, which is a
line feed alone or CR LF. Line ends before a block belong to no block.

* `blankLine?`: the size of the line end at the head of the bytes;
* `blockEnd?`: how many bytes the first block takes, its blank line included;
* `dropBlankLines`: the bytes less the line ends before the block.
-/

namespace Switchboard.Block

/-- The byte LF. -/
def lf : UInt8 := 10

/-- The byte CR. -/
def cr : UInt8 := 13

/-- The size of the line end at the head of the bytes. -/
def blankLine? : List UInt8 → Option Nat
  | [] => none
  | first :: rest =>
    if first = lf then some 1
    else if first = cr then
      match rest with
      | [] => none
      | second :: _ => if second = lf then some 2 else none
    else none

/-- The end of the first block, where `passed` bytes have been passed already. -/
def blockEndFrom (passed : Nat) : List UInt8 → Option Nat
  | [] => none
  | byte :: rest =>
    if byte = lf then
      match blankLine? rest with
      | some size => some (passed + 1 + size)
      | none => blockEndFrom (passed + 1) rest
    else blockEndFrom (passed + 1) rest

/-- How many bytes the first block takes, its blank line included. -/
def blockEnd? (bytes : List UInt8) : Option Nat :=
  blockEndFrom 0 bytes

/-- The bytes less the line ends at their head. -/
def dropBlankLines : List UInt8 → List UInt8
  | [] => []
  | first :: rest =>
    if first = lf then dropBlankLines rest
    else if first = cr then
      match rest with
      | [] => [first]
      | second :: more => if second = lf then dropBlankLines more else first :: second :: more
    else first :: rest

/-- The last `count` bytes, or all of them where there are fewer. -/
def lastBytes (count : Nat) (bytes : List UInt8) : List UInt8 :=
  bytes.drop (bytes.length - count)

/-! ### Sizes -/

theorem blockEndFrom_bounds {passed : Nat} {bytes : List UInt8} {size : Nat}
    (found : blockEndFrom passed bytes = some size) :
    passed + 2 ≤ size ∧ size ≤ passed + bytes.length := by
  induction bytes generalizing passed with
  | nil => simp [blockEndFrom] at found
  | cons byte rest ih =>
    have later (found : blockEndFrom (passed + 1) rest = some size) :
        passed + 2 ≤ size ∧ size ≤ passed + (byte :: rest).length := by
      have := ih found
      simp only [List.length_cons]
      omega
    simp only [blockEndFrom] at found
    split at found
    · split at found
      · next n blank =>
        have bound : 1 ≤ n ∧ n ≤ rest.length := by
          revert blank
          cases rest with
          | nil => simp [blankLine?]
          | cons first more =>
            simp only [blankLine?]
            split
            · rintro ⟨⟩
              simp
            · split
              · cases more with
                | nil => simp
                | cons second tail =>
                  simp only
                  split
                  · rintro ⟨⟩
                    simp
                  · simp
              · simp
        cases found
        simp only [List.length_cons]
        omega
      · exact later found
    · exact later found

/-- A block takes at least its blank line's two bytes, and no more bytes than there are. -/
theorem blockEnd?_bounds {bytes : List UInt8} {size : Nat} (found : blockEnd? bytes = some size) :
    2 ≤ size ∧ size ≤ bytes.length := by
  have := blockEndFrom_bounds found
  omega

/-- Dropping line ends adds nothing. -/
theorem length_dropBlankLines_le (bytes : List UInt8) :
    (dropBlankLines bytes).length ≤ bytes.length := by
  fun_induction dropBlankLines bytes <;> simp_all <;> omega

/-- The last bytes are at most as many as asked for. -/
theorem length_lastBytes (count : Nat) (bytes : List UInt8) :
    (lastBytes count bytes).length = min count bytes.length := by
  simp only [lastBytes, List.length_drop]
  omega

end Switchboard.Block
