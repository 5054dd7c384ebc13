/-
**Scanning: reading a text from its front.**

A scanner takes characters off the front of what remains, or fails and leaves everything as it was.
Scanners are put together by sequence and by choice; the first choice that succeeds is taken. The
repetitions end because each round takes at least one character of what remains, so as many rounds
as there are characters are always enough.

* `take`, `expect`, `literal`, `span`: single characters, given texts, and runs;
* `many`, `separated`: repetitions;
* `whole?`: a scanner applied to all of a text.
-/

namespace Switchboard.Text

/-- A scanner that gives values of type `α`. -/
abbrev Scan (α : Type) := StateT (List Char) Option α

namespace Scan

/-- The next character, which stays where it is. -/
def peek? : Scan (Option Char) := do
  return (← get).head?

/-- The next character, if it has the property. -/
def take (p : Char → Bool) : Scan Char := do
  match ← get with
  | c :: rest =>
    if p c then
      set rest
      return c
    else failure
  | [] => failure

/-- The given character. -/
def expect (c : Char) : Scan Unit := do
  let _ ← take (· == c)

/-- The given text. -/
def literal (text : String) : Scan Unit := do
  let rest ← get
  if text.toList.isPrefixOf rest then set (rest.drop text.length) else failure

/-- All characters up to the first without the property. -/
def span (p : Char → Bool) : Scan (List Char) := do
  let rest ← get
  set (rest.dropWhile p)
  return rest.takeWhile p

/-- The same, and at least one. -/
def span1 (p : Char → Bool) : Scan (List Char) := do
  let first ← take p
  return first :: (← span p)

/-- The value of a scanner, or none where it fails. -/
def maybe {α : Type} (item : Scan α) : Scan (Option α) :=
  (some <$> item) <|> pure none

/-- The values of a scanner that is applied as often as it succeeds, but no more than `rounds`
times. -/
def manyUpTo {α : Type} (item : Scan α) : (rounds : Nat) → Scan (List α)
  | 0 => pure []
  | rounds + 1 => do
    match ← maybe item with
    | some value => return value :: (← manyUpTo item rounds)
    | none => return []

/-- The values of a scanner that is applied as often as it succeeds. -/
def many {α : Type} (item : Scan α) : Scan (List α) := do
  manyUpTo item (← get).length

/-- One value, and further ones that each follow a separator. -/
def separated {α : Type} (item : Scan α) (separator : Scan Unit) : Scan (List α) := do
  let first ← item
  return first :: (← many (do separator; item))

/-- A given number of characters with the property. -/
def exactly (p : Char → Bool) : (count : Nat) → Scan (List Char)
  | 0 => pure []
  | count + 1 => do
    let first ← take p
    return first :: (← exactly p count)

/-- Nothing remains. -/
def atEnd : Scan Unit := do
  if (← get).isEmpty then pure () else failure

/-- What a scanner reads in all of a text. -/
def whole? {α : Type} (item : Scan α) (text : List Char) : Option α :=
  (do let value ← item; atEnd; return value : Scan α).run' text

end Scan

/-- The value of a digit in a base of at most 36, in any case. -/
def digitValue (c : Char) : Nat :=
  if c.isDigit then c.toNat - '0'.toNat else c.toLower.toNat - 'a'.toNat + 10

/-- Whether a character is a digit in the given base. -/
def isDigitIn (base : Nat) (c : Char) : Bool :=
  (c.isDigit || c.isAlpha) && digitValue c < base

/-- The number that digits in a base spell. -/
def ofDigits (base : Nat) (digits : List Char) : Nat :=
  digits.foldl (fun n c => n * base + digitValue c) 0

end Switchboard.Text
