/-
**YAML tags, anchors and directives.**

A tag names a kind of value: by a handle and a suffix, or between angle brackets as a whole. What a
handle stands for is said by a directive in front of the document. An anchor names a value, and an
alias is a value by that name.

* `tag`: a tag;
* `anchorName`: the name of an anchor or an alias;
* `directive`: a directive.
-/

import Switchboard.Text.Scan
import Switchboard.Yaml.Layout

namespace Switchboard.Yaml.Lex

open Text

/-! ### Characters of tags -/

/-- A character of an address. -/
def isAddressChar (c : Char) : Bool :=
  c.isAlphanum || c ∈ "-#;/?:@&=+$,_.!~*'()[]%".toList

/-- A character of a suffix. -/
def isTagChar (c : Char) : Bool := isAddressChar c && !isFlowMark c && c != '!'

/-- How many bytes a character has whose first byte is given. -/
def byteCount? (first : Nat) : Option Nat :=
  if first < 0x80 then some 1
  else if first / 0x20 = 6 then some 2
  else if first / 0x10 = 14 then some 3
  else if first / 0x08 = 30 then some 4
  else none

/-- A byte as a percent sign and two hexadecimal digits. -/
def escapedByte : Lex Nat := do
  match (← get).rest with
  | '%' :: high :: low :: _ =>
    refuse (!(isDigitIn 16 high && isDigitIn 16 low))
    skip 3
    return ofDigits 16 [high, low]
  | _ => failure

/-- The code point that some more bytes lead to. All their bits count. -/
def escapedRest (n : Nat) : (count : Nat) → Lex Nat
  | 0 => return n
  | count + 1 => do
    let byte ← escapedByte
    refuse (byte / 0x40 != 2)
    escapedRest (n * 0x100 + byte) count

/-- A character by its bytes. -/
def escapedChar : Lex Char := do
  let first ← escapedByte
  match byteCount? first with
  | some count =>
    let n ← escapedRest first (count - 1)
    if n.isValidChar then return Char.ofNat n else failure
  | none => failure

/-- One more character with a property, which may be given by its bytes. -/
def addressPart (p : Char → Bool) (chars : List Char) : Lex (List Char × Bool) := do
  match ← peek with
  | some c =>
    if !p c then return (chars, false)
    else if c == '%' then return ((← escapedChar) :: chars, true)
    else
      skip 1
      return (c :: chars, true)
  | none => return (chars, false)

/-- Characters with a property, which may be given by their bytes. -/
def address (p : Char → Bool) : Lex (List Char) := do
  return (← iterate (addressPart p) []).reverse

/-! ### Tags -/

/-- A handle: an exclamation mark, perhaps a word, and perhaps another exclamation mark, which a
directive asks for behind a word. -/
def handle (inDirective : Bool) : Lex (List Char) := do
  refuse ((← peek) != some '!')
  skip 1
  let word ← takeWhile isWordPart
  if (← peek) = some '!' then
    skip 1
    return '!' :: word ++ ['!']
  else
    refuse (inDirective && !word.isEmpty)
    return '!' :: word

/-- A tag between angle brackets. -/
def verbatimTag : Lex Token := do
  skip 2
  let suffix ← address isAddressChar
  refuse ((← peek) != some '>')
  skip 1
  return .tag "" (String.ofList suffix)

/-- A tag by its handle. A word without a second exclamation mark is no handle and belongs to the
suffix. The lone exclamation mark is a tag, too. -/
def shortTag : Lex Token := do
  let handle ← handle false
  let suffix ← address isTagChar
  let isWhole := 2 ≤ handle.length && handle.getLast? = some '!'
  if isWhole then
    refuse suffix.isEmpty
    return .tag (String.ofList handle) (String.ofList suffix)
  else
    let suffix := handle.tail ++ suffix
    return if suffix.isEmpty then .tag "" "!" else .tag "!" (String.ofList suffix)

/-- A tag. A gap or, between brackets, a mark follows it. -/
def tag : Lex Token := do
  let token ← if (← peekAt 1) = some '<' then verbatimTag else shortTag
  let lexer ← get
  let next := lexer.rest.head?
  refuse (!(isGapOrEnd next || (lexer.depth != 0 && next.any isFlowMark)))
  return token

/-! ### Anchors -/

/-- A character of the name of an anchor. -/
def isAnchorChar (c : Char) : Bool :=
  !isBreak c && !isWhite c && !isFlowMark c && c != '\ufeff'

/-- The name of an anchor or an alias, behind its mark. -/
def anchorName : Lex String := do
  skip 1
  let name ← takeWhile isAnchorChar
  refuse name.isEmpty
  return String.ofList name

/-! ### Directives -/

/-- A number of a version. -/
def versionNumber : Lex Unit := do
  let digits ← takeWhile Char.isDigit
  refuse (digits.isEmpty || 9 < digits.length)

/-- What follows the name of a directive that tells the version. -/
def versionDirective : Lex Token := do
  let _ ← skipWhiteWhile isWhite
  versionNumber
  refuse ((← peek) != some '.')
  skip 1
  versionNumber
  return .versionDirective

/-- What a handle stands for: a local tag or an address. -/
def handleMeaning : Lex (List Char) := do
  match ← peek with
  | some '!' =>
    skip 1
    return '!' :: (← address isAddressChar)
  | some c =>
    refuse (!isTagChar c)
    address isAddressChar
  | none => failure

/-- What follows the name of a directive about a handle. -/
def tagDirective : Lex Token := do
  let _ ← skipWhiteWhile isWhite
  let handle ← handle true
  let _ ← skipWhiteWhile isWhite
  let meaning ← handleMeaning
  refuse (!isGapOrEnd (← peek))
  return .tagDirective (String.ofList handle) (String.ofList meaning)

/-- A directive. One of another name says nothing about any handle. -/
def directive : Lex Token := do
  skip 1
  let name ← takeWhile isWordPart
  refuse (name.isEmpty || !isGapOrEnd (← peek))
  let token ←
    if name = ['Y', 'A', 'M', 'L'] then versionDirective
    else if name = ['T', 'A', 'G'] then tagDirective
    else do
      skipLine
      pure (Token.tagDirective "" "")
  let _ ← skipSpaces true
  refuse (!(← peek).any isBreak)
  skipBreak
  return token

end Switchboard.Yaml.Lex
