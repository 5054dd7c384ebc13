/-
**White space, and texts without it at their ends.**

The class is Unicode's `White_Space` property: twenty-five characters. Trimming works on lists of
characters, where its laws are laws of `List.dropWhile`; `trim` lifts it to texts.

* `isBlank`: the property;
* `trimChars`: a list of characters less the blanks at both ends;
* `isBlankText`: a text that trimming empties.
-/

namespace Switchboard.Text

/-- Membership in Unicode's `White_Space` property. -/
def isBlank (c : Char) : Bool :=
  let n := c.toNat
  (0x09 ≤ n && n ≤ 0x0D) || n == 0x20 || n == 0x85 || n == 0xA0 || n == 0x1680 ||
    (0x2000 ≤ n && n ≤ 0x200A) || n == 0x2028 || n == 0x2029 || n == 0x202F || n == 0x205F ||
    n == 0x3000

/-- A list without the members at its end that have the property. -/
def dropTrailing {α : Type} (p : α → Bool) (members : List α) : List α :=
  (members.reverse.dropWhile p).reverse

/-- Characters without the blanks at both ends. -/
def trimChars (chars : List Char) : List Char :=
  dropTrailing isBlank (chars.dropWhile isBlank)

/-- A text without the blanks at both ends. -/
def trim (text : String) : String :=
  String.ofList (trimChars text.toList)

/-- Whether a text holds nothing but blanks. -/
def isBlankText (text : String) : Bool :=
  text.toList.all isBlank

/-- The text, unless it holds nothing but blanks. -/
def nonBlank? (text : String) : Option String :=
  if isBlankText text then none else some text

end Switchboard.Text
