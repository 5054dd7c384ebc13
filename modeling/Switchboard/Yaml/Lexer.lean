/-
**Reading a YAML document character by character.**

A lexer holds what is left of the text, the place in it, the tokens so far, and what decides about the
next ones: the blocks and brackets that are open, and the keys that tokens may turn out to be.

* `Lexer.ofText`: a lexer in front of a text, which ends at the first null character;
* `skip`, `skipWhite`, `skipBreak`, `skipSpaces`: moves;
* `repeatWhile`, `iterate`: repetitions of a move that reads at least one character;
* `push`, `insertAt`: new tokens.
-/

import Switchboard.Yaml.Token

namespace Switchboard.Yaml

/-- An indentation that is open: the one around it, and whether a block ends with it. If none does, it
is one column that a value has to be further in than its key. -/
structure Level where
  outer : Int
  closesBlock : Bool
  deriving DecidableEq, Repr

/-- A token that may turn out to be a key, and where it is. A key that is needed has to turn out to
be one. -/
structure KeyCandidate where
  possible : Bool
  needed : Bool
  token : Nat
  index : Nat
  line : Nat
  column : Nat
  deriving DecidableEq, Repr

/-- No token. -/
def KeyCandidate.absent : KeyCandidate :=
  { possible := false, needed := false, token := 0, index := 0, line := 0, column := 0 }

/-- A candidate that has turned out to be no key. -/
def KeyCandidate.dropped (candidate : KeyCandidate) : KeyCandidate :=
  { candidate with possible := false }

/-- A document that is being read. -/
structure Lexer where
  /-- How long the text is. -/
  size : Nat
  /-- What is left of the text. -/
  rest : List Char
  /-- How much of the text has been read. -/
  index : Nat
  line : Nat
  column : Nat
  /-- Nothing but white space has been read of the line. -/
  isFresh : Bool
  tokens : Array Token
  /-- The column of the last token, where that is an anchor or a tag. -/
  propertyColumn : Option Nat
  /-- The place at which a value may stand right behind its key. -/
  adjacentIndex : Nat
  keyAllowed : Bool
  /-- The latest candidate outside of brackets and in each open bracket, the innermost in front. -/
  candidates : List KeyCandidate
  indent : Int
  levels : List Level
  /-- How many brackets are open. -/
  depth : Nat
  /-- The mapping at hand has a bracket or a question mark of its own. -/
  mappingMarked : Bool
  /-- For each open sequence in brackets, whether an item of it is a single pair without brackets of its
  own, the innermost in front. -/
  pairs : List Bool

/-- A move of a lexer. -/
abbrev Lex (α : Type) := StateT Lexer Option α

/-- A lexer in front of a text. -/
def Lexer.ofText (text : List Char) : Lexer :=
  let rest := text.takeWhile (· != '\x00')
  { size := rest.length, rest, index := 0, line := 0, column := 0, isFresh := true, tokens := #[]
    propertyColumn := none, adjacentIndex := 0, keyAllowed := true, candidates := [.absent]
    indent := -1, levels := [], depth := 0, mappingMarked := false, pairs := [] }

/-- How many moves are enough, if each of them but the last reads a character. -/
def Lexer.rounds (lexer : Lexer) : Nat := lexer.size - lexer.index + 1

namespace Lex

/-! ### Looking ahead -/

/-- The character some places ahead. -/
def peekAt (places : Nat) : Lex (Option Char) := do return (← get).rest[places]?

/-- The next character. -/
def peek : Lex (Option Char) := peekAt 0

/-- Whether nothing is left of the line. -/
def atLineEnd : Lex Bool := do return isBreakOrEnd (← peek)

/-- Fails where a condition holds. -/
def refuse (condition : Bool) : Lex Unit := if condition then failure else pure ()

/-- Whether a mark between documents stands here: three given characters at the start of a line. -/
def atMark (c : Char) : Lex Bool := do
  let lexer ← get
  return lexer.column == 0 && [c, c, c].isPrefixOf lexer.rest && isGapOrEnd lexer.rest[3]?

/-- Whether a mark between documents stands here. -/
def atDocumentMark : Lex Bool := do return (← atMark '-') || (← atMark '.')

/-! ### Moves -/

/-- Passes some characters of a line. -/
def skip (count : Nat) : Lex Unit :=
  modify fun lexer =>
    { lexer with
      rest := lexer.rest.drop count, index := lexer.index + count
      column := lexer.column + count, isFresh := false }

/-- Passes white space of some characters. -/
def skipWhites (count : Nat) : Lex Unit :=
  modify fun lexer =>
    { lexer with
      rest := lexer.rest.drop count, index := lexer.index + count
      column := lexer.column + count }

/-- Passes white space of one character. -/
def skipWhite : Lex Unit := skipWhites 1

/-- Passes a line break of one or two characters. -/
def skipBreak : Lex Unit :=
  modify fun lexer =>
    let length := if ['\r', '\n'].isPrefixOf lexer.rest then 2 else 1
    { lexer with
      rest := lexer.rest.drop length, index := lexer.index + length
      line := lexer.line + 1, column := 0, isFresh := true }

/-- Takes the characters up to the first without a property. -/
def takeWhile (p : Char → Bool) : Lex (List Char) := do
  let taken := (← get).rest.takeWhile p
  if !taken.isEmpty then skip taken.length
  return taken

/-- Passes white space up to the first character without a property, and says which. -/
def skipWhiteWhile (p : Char → Bool) : Lex (List Char) := do
  let passed := (← get).rest.takeWhile p
  skipWhites passed.length
  return passed

/-- Passes what is left of the line. -/
def skipLine : Lex Unit := do
  let _ ← takeWhile (!isBreak ·)

/-- Passes spaces, perhaps tabs, and a comment, and says which white space there was. A comment has to
stand behind some. -/
def skipSpaces (tabs : Bool) : Lex (List Char) := do
  let passed ← skipWhiteWhile fun c => c == ' ' || (tabs && c == '\t')
  if (← peek) = some '#' then
    refuse passed.isEmpty
    skipLine
  return passed

/-! ### Repetition -/

/-- A move that is repeated while it says so, at most `rounds` times. -/
def repeatUpTo (move : Lex Bool) : (rounds : Nat) → Lex Unit
  | 0 => pure ()
  | rounds + 1 => do if ← move then repeatUpTo move rounds

/-- A move that is repeated while it says so. It has to read a character whenever it does. -/
def repeatWhile (move : Lex Bool) : Lex Unit := do
  repeatUpTo move (← get).rounds

/-- A value that is changed by a move while that says so, at most `rounds` times. -/
def iterateUpTo {α : Type} (move : α → Lex (α × Bool)) : (rounds : Nat) → α → Lex α
  | 0, value => pure value
  | rounds + 1, value => do
    let (changed, goesOn) ← move value
    if goesOn then iterateUpTo move rounds changed else return changed

/-- A value that is changed by a move while that says so. The move has to read a character whenever it
does. -/
def iterate {α : Type} (move : α → Lex (α × Bool)) (value : α) : Lex α := do
  iterateUpTo move (← get).rounds value

/-! ### Tokens -/

/-- Adds a token. -/
def push (token : Token) : Lex Unit :=
  modify fun lexer => { lexer with tokens := lexer.tokens.push token, propertyColumn := none }

/-- Adds a token in front of another one. -/
def insertAt (place : Nat) (token : Token) : Lex Unit :=
  modify fun lexer => { lexer with tokens := lexer.tokens.insertIdxIfInBounds place token }

end Lex

end Switchboard.Yaml
