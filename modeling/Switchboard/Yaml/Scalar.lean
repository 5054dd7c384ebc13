/-
**YAML scalars: texts on one line or several.**

A scalar stands in quotes, or without any, or in a block of its own below the line on which it begins.
Where it goes on over several lines, one line break is a space, and further ones are as many line
breaks; blanks around them do not count. Only a block may keep its lines as they are.

* `Folded`: a scalar that is put together from lines;
* `quotedScalar`, `plainScalar`: scalars in the lines of other tokens;
* `blockScalar`: scalars in lines of their own.
-/

import Switchboard.Text.Scan
import Switchboard.Yaml.Layout

namespace Switchboard.Yaml.Lex

open Text

/-! ### Folding -/

/-- A scalar that is put together from lines: its characters, the latest in front; the blanks behind
them, which count only if something follows on the line; and the line breaks behind these. -/
structure Folded where
  chars : List Char
  blanks : List Char
  /-- The line has been broken. -/
  isBroken : Bool
  emptyLines : Nat

namespace Folded

/-- Nothing yet. -/
def empty : Folded := { chars := [], blanks := [], isBroken := false, emptyLines := 0 }

/-- The text of a scalar. -/
def text (folded : Folded) : String := String.ofList folded.chars.reverse

/-- A scalar with more characters. -/
def append (folded : Folded) (chars : List Char) : Folded :=
  { folded with chars := chars.reverse ++ folded.chars }

/-- A scalar with a blank that may count. -/
def addBlank (folded : Folded) (c : Char) : Folded := { folded with blanks := c :: folded.blanks }

/-- A scalar whose line has been broken for the first time. Blanks in front of that do not count. -/
def breakLine (folded : Folded) : Folded := { folded with blanks := [], isBroken := true }

/-- A scalar with a line more on which nothing stands. -/
def addEmptyLine (folded : Folded) : Folded := { folded with emptyLines := folded.emptyLines + 1 }

/-- A scalar that goes on behind line breaks: with a space for a single one. -/
def joinLines (folded : Folded) : Folded :=
  let joint :=
    if folded.isBroken && folded.emptyLines == 0 then [' ']
    else List.replicate folded.emptyLines '\n'
  { folded.append joint with isBroken := false, emptyLines := 0 }

/-- A scalar that goes on behind blanks. -/
def joinBlanks (folded : Folded) : Folded :=
  { folded with chars := folded.blanks ++ folded.chars, blanks := [] }

end Folded

/-! ### Scalars in quotes -/

/-- A character by its code point in hexadecimal digits. -/
def codePoint (digits : Nat) : Lex Char := do
  let taken := (← get).rest.take digits
  let n := ofDigits 16 taken
  if taken.length = digits ∧ taken.all (isDigitIn 16) = true ∧ n.isValidChar then
    skip digits
    return Char.ofNat n
  else failure

/-- What a backslash and the next characters stand for. -/
def escape : Lex Char := do
  let mark ← peekAt 1
  skip 2
  match mark with
  | some '0' => return '\x00'
  | some 'a' => return '\x07'
  | some 'b' => return '\x08'
  | some 't' | some '\t' => return '\t'
  | some 'n' => return '\n'
  | some 'v' => return '\x0b'
  | some 'f' => return '\x0c'
  | some 'r' => return '\r'
  | some 'e' => return '\x1b'
  | some ' ' => return ' '
  | some '"' => return '"'
  | some '/' => return '/'
  | some '\\' => return '\\'
  | some 'N' => return '\x85'
  | some '_' => return '\xa0'
  | some 'L' => return '\u2028'
  | some 'P' => return '\u2029'
  | some 'x' => codePoint 2
  | some 'u' => codePoint 4
  | some 'U' => codePoint 8
  | _ => failure

/-- One more character between quotes, up to a blank, a line break or the closing quote. The flag says
that a backslash has taken a line break away. -/
def quotedChar (quote : Char) (state : Folded × Bool) : Lex ((Folded × Bool) × Bool) := do
  let (folded, taken) := state
  match ← peek with
  | none => return ((folded, taken), false)
  | some c =>
    let next ← peekAt 1
    if isWhite c || isBreak c then return ((folded, taken), false)
    else if c == quote then
      if quote == '\'' && next == some quote then
        skip 2
        return ((folded.append [quote], taken), true)
      else return ((folded, taken), false)
    else if c == '\\' && quote == '"' then
      if next.any isBreak then
        skip 1
        skipBreak
        return ((folded, true), false)
      else return ((folded.append [← escape], taken), true)
    else
      skip 1
      return ((folded.append [c], taken), true)

/-- One more blank or line break between quotes. The flag says that the line has been broken. -/
def quotedBlank (state : Folded × Bool) : Lex ((Folded × Bool) × Bool) := do
  let (folded, broken) := state
  match ← peek with
  | some c =>
    if isWhite c then
      let lexer ← get
      refuse (broken && c == '\t' && lexer.column < lexer.indent)
      skipWhite
      return ((if broken then folded else folded.addBlank c, broken), true)
    else if isBreak c then
      skipBreak
      return ((if broken then folded.addEmptyLine else folded.breakLine, true), true)
    else return ((folded, broken), false)
  | none => return ((folded, broken), false)

/-- A word between quotes, and the blanks and line breaks behind it. -/
def quotedPart (quote : Char) (folded : Folded) : Lex (Folded × Bool) := do
  refuse (← atDocumentMark)
  let lexer ← get
  refuse (lexer.rest.isEmpty || lexer.column < lexer.indent)
  let (word, taken) ← iterate (quotedChar quote) (folded, false)
  if (← peek) = some quote then return (word, false)
  else
    let (spaced, broken) ← iterate quotedBlank (word, taken)
    return (if broken then spaced.joinLines else spaced.joinBlanks, true)

/-- A scalar in quotes. What follows it on its line is a mark between brackets, a comment, or the
colon behind a key. -/
def quotedScalar (quote : Char) : Lex Token := do
  let line := (← get).line
  skip 1
  let folded ← iterate (quotedPart quote) Folded.empty
  refuse ((← peek) != some quote)
  skip 1
  let _ ← skipSpaces true
  let lexer ← get
  let inBrackets := lexer.depth != 0
  let allowed :=
    match lexer.rest.head? with
    | none => true
    | some c =>
      isBreak c || (inBrackets && c ∈ [',', '\x7d', ']'])
        || (c == ':' && (inBrackets || line == lexer.line))
  refuse (!allowed)
  return .scalar false folded.text

/-! ### Scalars without quotes -/

/-- Whether a scalar without quotes may go on with what comes next: no colon in front of a gap, and
between brackets no mark. -/
def plainGoesOn (inBrackets : Bool) : List Char → Bool
  | [] => false
  | c :: rest =>
    let colonEnds := isGapOrEnd rest.head? || (inBrackets && rest.head?.any isFlowMark)
    !(isWhite c || isBreak c) && !(c == ':' && colonEnds) && !(inBrackets && isFlowMark c)

/-- One more character of a word of a scalar without quotes. -/
def plainChar (folded : Folded) : Lex (Folded × Bool) := do
  let lexer ← get
  match lexer.rest with
  | c :: _ =>
    if plainGoesOn (lexer.depth != 0) lexer.rest then
      skip 1
      return (folded.append [c], true)
    else return (folded, false)
  | [] => return (folded, false)

/-- One more blank or line break of a scalar without quotes. Tabs are no indentation, except on a line
with nothing else. -/
def plainBlank (least : Int) (folded : Folded) : Lex (Folded × Bool) := do
  let lexer ← get
  match lexer.rest with
  | c :: _ =>
    if isWhite c then
      if !lexer.isFresh then
        skipWhite
        return (folded.addBlank c, true)
      else if lexer.column < least && c == '\t' then
        let _ ← skipSpaces true
        refuse (!(← atLineEnd))
        return (folded, true)
      else
        skipWhite
        return (folded, true)
    else if isBreak c then
      skipBreak
      return (if lexer.isFresh then folded.addEmptyLine else folded.breakLine, true)
    else return (folded, false)
  | [] => return (folded, false)

/-- A word of a scalar without quotes, and the blanks and line breaks behind it. -/
def plainPart (least : Int) (folded : Folded) : Lex (Folded × Bool) := do
  let before ← get
  let inBrackets := before.depth != 0
  if (← atDocumentMark) || before.rest.head? == some '#' then return (folded, false)
  refuse (inBrackets && before.rest.head? == some '-' && before.rest[1]?.any isFlowMark)
  let joined :=
    if plainGoesOn inBrackets before.rest then
      if before.isFresh then folded.joinLines else folded.joinBlanks
    else folded
  let word ← iterate plainChar joined
  if !((← peek).any fun c => isWhite c || isBreak c) then return (word, false)
  let spaced ← iterate (plainBlank least) word
  let behind ← get
  return (spaced, inBrackets || least ≤ behind.column)

/-- A scalar without quotes. -/
def plainScalar : Lex Token := do
  closeGaps
  let lexer ← get
  let least := lexer.indent + 1
  refuse (lexer.depth != 0 && lexer.column < least)
  let folded ← iterate (plainPart least) Folded.empty
  refuse folded.chars.isEmpty
  if (← get).isFresh then allowKey true
  return .scalar true folded.text

/-! ### Scalars in blocks -/

/-- What becomes of the line breaks at the end of a block: none stay, one stays, or all. -/
inductive Chomping where
  | strip
  | clip
  | keep
  deriving DecidableEq, Repr

/-- What becomes of the line breaks at the end, as a mark says, if there is one. -/
def chompingMark : Lex (Option Chomping) := do
  match ← peek with
  | some '+' =>
    skip 1
    return some .keep
  | some '-' =>
    skip 1
    return some .strip
  | _ => return none

/-- How much further in than what is around it a block is, as a digit says, if there is one. -/
def indentMark : Lex (Option Nat) := do
  match ← peek with
  | some c =>
    if c.isDigit then
      refuse (c == '0')
      skip 1
      return some (digitValue c)
    else return none
  | none => return none

/-- What the first line of a block says about it. The two marks may stand in either order. -/
def blockHeader : Lex (Chomping × Option Nat) := do
  match ← chompingMark with
  | some chomping => return (chomping, ← indentMark)
  | none =>
    match ← indentMark with
    | some indent => return ((← chompingMark).getD .clip, some indent)
    | none => return (.clip, none)

/-- Passes one line with nothing but the indentation of a block, or the indentation of the next line;
counts these lines. -/
def emptyBlockLine (indent : Nat) (emptyLines : Nat) : Lex (Nat × Bool) := do
  let lexer ← get
  let spaces := (lexer.rest.takeWhile (· == ' ')).take (indent - lexer.column)
  skipWhites spaces.length
  if (← peek).any isBreak then
    skipBreak
    return (emptyLines + 1, true)
  else return (emptyLines, false)

/-- Passes one line with nothing but spaces, or the spaces in front of the next line; counts these
lines, and tells the greatest number of spaces. -/
def leadingBlockLine (state : Nat × Nat) : Lex ((Nat × Nat) × Bool) := do
  let (emptyLines, widest) := state
  let _ ← skipWhiteWhile fun c => c == ' '
  let reached := max widest (← get).column
  if (← peek).any isBreak then
    skipBreak
    return ((emptyLines + 1, reached), true)
  else return ((emptyLines, reached), false)

/-- The indentation of a block, and how many empty lines it begins with. -/
def blockIndent (increment : Option Nat) : Lex (Nat × Nat) := do
  let outer := (← get).indent
  match increment with
  | some increment =>
    let indent := (max outer 0).toNat + increment
    return (indent, ← iterate (emptyBlockLine indent) 0)
  | none =>
    let (emptyLines, widest) ← iterate leadingBlockLine (0, 0)
    let indent := max widest (outer + 1).toNat
    return (if 0 < outer then max indent 1 else indent, emptyLines)

/-- A block that is put together from lines. -/
structure BlockText where
  chars : List Char
  isBroken : Bool
  emptyLines : Nat
  /-- The last line began with a blank. -/
  wasIndented : Bool

/-- The line breaks behind a block. -/
def BlockText.breaks (block : BlockText) : List Char :=
  (if block.isBroken then ['\n'] else []) ++ List.replicate block.emptyLines '\n'

/-- One more line of a block, and the empty lines behind it. -/
def blockLine (literal : Bool) (indent : Nat) (block : BlockText) : Lex (BlockText × Bool) := do
  let lexer ← get
  if lexer.column ≠ indent || lexer.rest.isEmpty || (indent == 0 && (← atDocumentMark)) then
    return (block, false)
  else
    let isIndented := lexer.rest.head?.any isWhite
    let folds := !literal && block.isBroken && !block.wasIndented && !isIndented
    let joint :=
      if folds then if block.emptyLines = 0 then [' '] else List.replicate block.emptyLines '\n'
      else block.breaks
    let line ← takeWhile (!isBreak ·)
    let chars := line.reverse ++ (joint.reverse ++ block.chars)
    let read : BlockText := { chars, isBroken := false, emptyLines := 0, wasIndented := isIndented }
    if (← peek).isNone then return (read, false)
    else
      skipBreak
      let emptyLines ← iterate (emptyBlockLine indent) 0
      return ({ read with isBroken := true, emptyLines }, true)

/-- A scalar in a block of its own, in which lines are kept or folded. -/
def blockScalar (literal : Bool) : Lex Token := do
  let line := (← get).line
  skip 1
  closeGaps
  let (chomping, increment) ← blockHeader
  let _ ← skipSpaces true
  refuse (!(← atLineEnd))
  if (← peek).isSome then skipBreak
  refuse ((← peek) == some '\t')
  let (indent, emptyLines) ← blockIndent increment
  let lexer ← get
  if lexer.rest.isEmpty then
    let lines :=
      if chomping = .strip || lexer.line == line then 0
      else if chomping = .clip then 1
      else max emptyLines 1
    return .scalar false (String.ofList (List.replicate lines '\n'))
  else
    refuse (lexer.column < indent && lexer.indent < lexer.column)
    let start : BlockText := { chars := [], isBroken := false, emptyLines, wasIndented := false }
    let block ← iterate (blockLine literal indent) start
    let lexer ← get
    let clipped :=
      (if block.isBroken then ['\n'] else [])
        ++ (if lexer.rest.isEmpty && max indent 1 ≤ lexer.column then ['\n'] else [])
    let tail :=
      match chomping with
      | .strip => []
      | .clip => clipped
      | .keep => clipped ++ List.replicate block.emptyLines '\n'
    return .scalar false (String.ofList (block.chars.reverse ++ tail))

end Switchboard.Yaml.Lex
