/-
**Names whose ASCII capitals do not matter.**

Header keys, event names, action names and a few header values are the same name in any case.
Only the letters `A` to `Z` are folded: `É` and `é` are two names.

* `fold`: the spelling with ASCII capitals made small;
* `sameName`: equality of the folded spellings, which makes it an equivalence at once.
-/

namespace Switchboard.Text

/-- The spelling of a name with its ASCII capitals made small. -/
def fold (name : String) : String :=
  name.map Char.toLower

/-- Two spellings of one name: they differ at most in the case of ASCII letters. -/
def sameName (first second : String) : Bool :=
  fold first == fold second

/-- Sameness of names is equality of their folded spellings. -/
theorem sameName_iff {first second : String} :
    sameName first second = true ↔ fold first = fold second := by
  simp [sameName]

/-- A name is the same as itself. -/
@[simp]
theorem sameName_refl (name : String) : sameName name name = true := by
  simp [sameName]

/-- Sameness of names does not depend on their order. -/
theorem sameName_comm (first second : String) : sameName first second = sameName second first := by
  simp [sameName, Bool.beq_comm]

end Switchboard.Text
