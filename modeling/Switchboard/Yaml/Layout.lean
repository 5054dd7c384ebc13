/-
**The layout of a YAML document: blocks, brackets and keys.**

Blocks are open at growing indentations. A token that begins further in opens one, and all that are
further in than the next token are closed in front of it.

A token may turn out to be a key as long as a colon may follow it: on its line, within 1024 characters,
or anywhere in the same bracket. A token at the indentation of a mapping has to be one.

* `openBlock`, `closeBlocks`: blocks;
* `openGap`, `closeGaps`: the column by which a value is further in than its key;
* `offerKey`, `withdrawKey`, `expireKeys`: candidates for keys;
* `openBracket`, `closeBracket`: brackets.
-/

import Switchboard.Yaml.Lexer

namespace Switchboard.Yaml.Lex

/-! ### Blocks -/

/-- The indentation, the levels, and how many blocks have been closed, after all levels that are
further in than a column have been left. -/
def leaveLevels (column indent : Int) : List Level → Int × List Level × Nat
  | [] => (indent, [], 0)
  | level :: levels =>
    if column < indent then
      let (left, open_, closed) := leaveLevels column level.outer levels
      (left, open_, if level.closesBlock then closed + 1 else closed)
    else (indent, level :: levels, 0)

/-- Closes the blocks that are further in than a column. Between brackets there are none. -/
def closeBlocks (column : Int) : Lex Unit := do
  let lexer ← get
  if lexer.depth = 0 then
    let (indent, levels, closed) := leaveLevels column lexer.indent lexer.levels
    set { lexer with indent, levels }
    (List.replicate closed Token.blockEnd).forM push

/-- Whether the innermost level ends with a block. -/
def atBlockLevel : Lex Bool := do return (← get).levels.head?.any (·.closesBlock)

/-- Leaves the innermost level. -/
def leaveLevel : Lex Unit :=
  modify fun lexer =>
    match lexer.levels with
    | level :: levels => { lexer with indent := level.outer, levels }
    | [] => lexer

/-- Opens a block at a column, if that is further in than what is open: with a token at the end, or
in front of an earlier one. -/
def openBlock (column : Nat) (place : Option Nat) (token : Token) : Lex Unit := do
  if (← get).depth = 0 then
    if (← get).indent ≤ column && !(← atBlockLevel) then leaveLevel
    let lexer ← get
    if lexer.indent < column then
      set { lexer with
        indent := (column : Int), levels := { outer := lexer.indent, closesBlock := true } :: lexer.levels }
      match place with
      | some place => insertAt place token
      | none => push token

/-- Asks for one column more than the innermost block has. -/
def openGap : Lex Unit := do
  if (← get).depth = 0 && (← atBlockLevel) then
    modify fun lexer =>
      { lexer with
        indent := lexer.indent + 1
        levels := { outer := lexer.indent, closesBlock := false } :: lexer.levels }

/-- The indentation and the levels without those that end no block. -/
def leaveGaps (indent : Int) : List Level → Int × List Level
  | [] => (indent, [])
  | level :: levels =>
    if level.closesBlock then (indent, level :: levels) else leaveGaps level.outer levels

/-- Does not ask for a column more any longer. -/
def closeGaps : Lex Unit :=
  modify fun lexer =>
    let (indent, levels) := leaveGaps lexer.indent lexer.levels
    { lexer with indent, levels }

/-! ### Keys -/

/-- Says whether a key may stand here. -/
def allowKey (keyAllowed : Bool) : Lex Unit := modify fun lexer => { lexer with keyAllowed }

/-- The next token may turn out to be a key, if one may stand here. -/
def offerKey : Lex Unit := do
  let lexer ← get
  if lexer.keyAllowed then
    let needed := lexer.depth == 0 && lexer.indent == lexer.column && (← atBlockLevel)
    let candidate : KeyCandidate :=
      { possible := true, needed, token := lexer.tokens.size, index := lexer.index
        line := lexer.line, column := lexer.column }
    set { lexer with candidates := candidate :: lexer.candidates.tail }

/-- The latest candidate is no key. -/
def withdrawKey : Lex Unit := do
  let lexer ← get
  match lexer.candidates with
  | candidate :: others =>
    refuse (candidate.possible && candidate.needed)
    set { lexer with candidates := candidate.dropped :: others }
  | [] => pure ()

/-- Whether a candidate can no longer be a key. Between brackets it always can. -/
def isExpired (lexer : Lexer) (candidate : KeyCandidate) : Bool :=
  candidate.possible && lexer.depth == 0 &&
    (candidate.line < lexer.line || candidate.index + 1024 < lexer.index)

/-- Candidates that can no longer be keys are none. -/
def expireKeys : Lex Unit := do
  let lexer ← get
  refuse (lexer.candidates.any fun candidate => isExpired lexer candidate && candidate.needed)
  set { lexer with
    candidates := lexer.candidates.map fun candidate =>
      if isExpired lexer candidate then candidate.dropped else candidate }

/-- No candidate is a key, because the document ends. -/
def dropKeys : Lex Unit := do
  let lexer ← get
  refuse (lexer.candidates.any fun candidate => candidate.possible && candidate.needed)
  set { lexer with candidates := lexer.candidates.map KeyCandidate.dropped }

/-! ### Brackets -/

/-- How many brackets may be open. -/
def deepestBracket : Nat := 255

/-- One more bracket is open. -/
def openBracket : Lex Unit := do
  let lexer ← get
  refuse (lexer.depth == deepestBracket)
  set { lexer with depth := lexer.depth + 1, candidates := .absent :: lexer.candidates }

/-- One bracket less is open. -/
def closeBracket : Lex Unit :=
  modify fun lexer =>
    if lexer.depth = 0 then lexer
    else { lexer with depth := lexer.depth - 1, candidates := lexer.candidates.tail }

/-- The item at hand of a sequence in brackets ends, and with it the pair that it may be. -/
def closePair : Lex Unit := do
  let lexer ← get
  match lexer.pairs with
  | true :: others =>
    set { lexer with pairs := false :: others, mappingMarked := false }
    push .flowMappingEnd
  | _ => pure ()

/-! ### Between tokens -/

/-- Passes white space of any kind, or one comment, in front of the next token; says whether there may
be more. A tab is no indentation. -/
def skipGapPart : Lex Bool := do
  let lexer ← get
  match lexer.rest.head? with
  | some '\t' =>
    if !lexer.levels.isEmpty && lexer.isFresh && lexer.column < lexer.indent then
      let _ ← skipSpaces true
      refuse (!(← atLineEnd))
    else skipWhite
    return true
  | some ' ' =>
    skipWhite
    return true
  | some '#' =>
    skipLine
    return true
  | some c =>
    if isBreak c then
      skipBreak
      if lexer.depth = 0 then allowKey true
      return true
    else return false
  | none => return false

/-- Passes everything in front of the next token. -/
def skipGap : Lex Unit := repeatWhile skipGapPart

end Switchboard.Yaml.Lex
