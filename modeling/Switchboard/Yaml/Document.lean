/-
**From the text of a YAML document to its tokens.**

Each round passes the gap in front of the next token, closes the blocks that are further in than it,
and reads it. What a character means depends on the next one, and on whether brackets are open.

* `collectionStart`, `collectionEnd`, `flowEntry`: brackets and commas;
* `blockEntry`, `keyMark`, `valueMark`: the marks in front of items, keys and values;
* `nextToken`: one round;
* `tokensOf?`: the tokens of a text.
-/

import Switchboard.Yaml.Scalar
import Switchboard.Yaml.Tag

namespace Switchboard.Yaml

namespace Lex

/-! ### Brackets -/

/-- An opening bracket. It may turn out to begin a key. -/
def collectionStart (token : Token) : Lex Unit := do
  offerKey
  openGap
  openBracket
  allowKey true
  skip 1
  modify fun lexer =>
    if token = .flowMapping then { lexer with mappingMarked := true }
    else { lexer with pairs := false :: lexer.pairs }
  let _ ← skipSpaces true
  push token

/-- A closing bracket. Between brackets the colon of a key may stand right behind it. -/
def collectionEnd (token : Token) : Lex Unit := do
  withdrawKey
  closeBracket
  allowKey false
  if token = .flowSequenceEnd then
    closePair
    modify fun lexer => { lexer with pairs := lexer.pairs.tail }
  skip 1
  let _ ← skipSpaces true
  modify fun lexer =>
    if lexer.depth = 0 then lexer else { lexer with adjacentIndex := lexer.index }
  push token

/-- A comma. -/
def flowEntry : Lex Unit := do
  withdrawKey
  allowKey true
  closePair
  skip 1
  let _ ← skipSpaces true
  push .flowEntry

/-! ### Marks -/

/-- A dash in front of an item. It opens a block where it is further in than what is open. -/
def blockEntry : Lex Unit := do
  let lexer ← get
  refuse (lexer.depth != 0 || !lexer.keyAllowed)
  refuse (lexer.propertyColumn == some 0 && lexer.column == 0 && -1 < lexer.indent)
  skip 1
  openBlock lexer.column none .blockSequence
  let passed ← skipSpaces true
  refuse (passed.contains '\t' && (← peek) == some '-' && isGapOrEnd (← peekAt 1))
  let _ ← skipSpaces false
  if (← peek).any fun c => isBreak c || isFlowMark c then openGap
  withdrawKey
  allowKey true
  push .blockEntry

/-- Passes spaces, line breaks or a comment behind a question mark. The flag says whether there has been
more than comments. -/
def keyGapPart (found : Bool) : Lex (Bool × Bool) := do
  match ← peek with
  | some ' ' =>
    skipWhite
    return (true, true)
  | some '#' =>
    skipLine
    return (found, true)
  | some c =>
    if isBreak c then
      skipBreak
      if (← get).depth = 0 then allowKey true
      return (true, true)
    else return (found, false)
  | none => return (found, false)

/-- A question mark in front of a key. -/
def keyMark : Lex Unit := do
  let lexer ← get
  if lexer.depth = 0 then
    refuse (!lexer.keyAllowed)
    openBlock lexer.column none .blockMapping
  else modify fun lexer => { lexer with mappingMarked := true }
  withdrawKey
  allowKey (lexer.depth == 0)
  skip 1
  let found ← iterate keyGapPart false
  refuse (!found || (← peek) == some '\t')
  push .key

/-- The white space behind a colon. Tabs alone are none in front of a word or a dash. -/
def valueGap : Lex Unit := do
  if (← peek) = some '\t' then
    let passed ← skipSpaces true
    refuse (!passed.contains ' ' && (← peek).any isWordPart)

/-- A colon in front of a value. What the latest candidate says decides what its key is. -/
def valueMark : Lex Unit := do
  let lexer ← get
  let pair := !lexer.pairs.isEmpty && !lexer.mappingMarked
  if pair then set { lexer with pairs := true :: lexer.pairs.tail }
  skip 1
  valueGap
  let candidate := lexer.candidates.head?.getD .absent
  if candidate.possible then
    insertAt candidate.token .key
    if pair then
      refuse (candidate.line < lexer.line)
      insertAt candidate.token .flowMapping
    openBlock candidate.column (some candidate.token) .blockMapping
    openGap
    modify fun lexer =>
      { lexer with candidates := candidate.dropped :: lexer.candidates.tail }
    allowKey false
  else
    if pair then push .flowMapping
    if lexer.depth = 0 then
      refuse (!lexer.keyAllowed)
      openBlock lexer.column none .blockMapping
    openGap
    allowKey (lexer.depth == 0)
  push .value

/-! ### Other tokens -/

/-- A mark between documents. -/
def documentMark (token : Token) : Lex Unit := do
  closeBlocks (-1)
  withdrawKey
  allowKey false
  skip 3
  push token
  if token = .documentEnd then
    let _ ← skipSpaces true
    refuse (!(← atLineEnd))

/-- A token that may begin a key, behind which none may follow on the line. -/
def keyPart (token : Lex Token) : Lex Unit := do
  offerKey
  allowKey false
  push (← token)

/-- An anchor or a tag, whose column is kept in mind. -/
def property (token : Lex Token) : Lex Unit := do
  let column := (← get).column
  keyPart token
  modify fun lexer => { lexer with propertyColumn := some column }

/-- A scalar in a block. -/
def blockText (literal : Bool) : Lex Unit := do
  offerKey
  allowKey true
  push (← blockScalar literal)

/-- A scalar in quotes. Between brackets the colon of a key may stand right behind it. -/
def quotedText (quote : Char) : Lex Unit := do
  offerKey
  allowKey false
  let token ← quotedScalar quote
  skipGap
  modify fun lexer => { lexer with adjacentIndex := lexer.index }
  push token

/-- A directive. -/
def directiveLine : Lex Unit := do
  closeBlocks (-1)
  withdrawKey
  allowKey false
  push (← directive)

/-- The token that begins with a character. -/
def tokenFrom (c : Char) : Lex Unit := do
  let lexer ← get
  let next := lexer.rest[1]?
  let inBrackets := lexer.depth != 0
  let isAlone := isGapOrEnd next
  let isAdjacent := next.any isFlowMark || lexer.index == lexer.adjacentIndex
  match c with
  | '[' => collectionStart .flowSequence
  | '\x7b' => collectionStart .flowMapping
  | ']' => collectionEnd .flowSequenceEnd
  | '\x7d' => collectionEnd .flowMappingEnd
  | ',' => flowEntry
  | '-' => if isAlone then blockEntry else keyPart plainScalar
  | '?' => if isAlone then keyMark else keyPart plainScalar
  | ':' =>
    if isAlone || (inBrackets && isAdjacent) then valueMark else keyPart plainScalar
  | '*' => keyPart (Token.alias <$> anchorName)
  | '&' => property (Token.anchor <$> anchorName)
  | '!' => property tag
  | '|' => if inBrackets then keyPart plainScalar else blockText true
  | '>' => if inBrackets then keyPart plainScalar else blockText false
  | '\'' | '"' => quotedText c
  | '%' | '@' | '\x60' => failure
  | _ => keyPart plainScalar

/-- Reads the next token, and says whether there was one. -/
def nextToken : Lex Bool := do
  skipGap
  expireKeys
  closeBlocks (← get).column
  let lexer ← get
  match lexer.rest with
  | [] =>
    dropKeys
    closeBlocks (-1)
    return false
  | c :: _ =>
    refuse (lexer.column < lexer.indent)
    if lexer.column = 0 && c == '%' then directiveLine
    else if ← atMark '-' then documentMark .documentStart
    else if ← atMark '.' then documentMark .documentEnd
    else tokenFrom c
    return true

end Lex

/-- The tokens of a text. -/
def tokensOf? (text : String) : Option (List Token) := do
  let (_, lexer) ← (Lex.repeatWhile Lex.nextToken).run (Lexer.ofText text.toList)
  return lexer.tokens.toList

end Switchboard.Yaml
