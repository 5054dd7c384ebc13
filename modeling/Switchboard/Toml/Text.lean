/-
**Keys and strings of TOML.**

Strings stand between double quotes, with escapes, or between single quotes, as they are. Three
quotes make a string that may have several lines; a line end right behind them does not count.
-/

import Switchboard.Text.Scan

namespace Switchboard.Toml

open Text

/-- A space or a tab. -/
def isWhite (c : Char) : Bool := c == ' ' || c == '\t'

/-- White space within a line. -/
def white : Scan Unit := do
  let _ ← Scan.span isWhite

/-- A line end. -/
def newline : Scan Unit := Scan.literal "\n" <|> Scan.literal "\r\n"

/-- A character that may stand in a comment or between single quotes: no control character apart
from the tab. -/
def isPrintable (c : Char) : Bool := c == '\t' || (' ' ≤ c && c != '\x7f')

/-- A comment up to the end of its line. -/
def comment : Scan Unit := do
  Scan.expect '#'
  let _ ← Scan.span isPrintable

/-- White space, line ends and comments. -/
def gap : Scan Unit := do
  let _ ← Scan.many ((do let _ ← Scan.take isWhite) <|> newline <|> comment)

/-- A character that stands for itself between double quotes. -/
def isBasic (c : Char) : Bool := isPrintable c && c != '"' && c != '\\'

/-- A character that stands for itself between single quotes. -/
def isLiteral (c : Char) : Bool := isPrintable c && c != '\''

/-- The character with the code point that digits spell. -/
def codePoint (count : Nat) : Scan Char := do
  let n := ofDigits 16 (← Scan.exactly (isDigitIn 16) count)
  if n.isValidChar then return Char.ofNat n else failure

/-- What the character behind a backslash stands for. -/
def escaped : Scan Char := do
  match ← Scan.take fun _ => true with
  | 'b' => return '\x08'
  | 't' => return '\t'
  | 'n' => return '\n'
  | 'f' => return '\x0c'
  | 'r' => return '\r'
  | '"' => return '"'
  | '\\' => return '\\'
  | 'u' => codePoint 4
  | 'U' => codePoint 8
  | _ => failure

/-- An escape. -/
def escape : Scan Char := do
  Scan.expect '\\'
  escaped

/-- A string on one line, with escapes. -/
def basicString : Scan String := do
  Scan.expect '"'
  let chars ← Scan.many (Scan.take isBasic <|> escape)
  Scan.expect '"'
  return String.ofList chars

/-- A string on one line, as it is. -/
def literalString : Scan String := do
  Scan.expect '\''
  let chars ← Scan.span isLiteral
  Scan.expect '\''
  return String.ofList chars

/-- A line end inside a string, in either form. -/
def brokenLine : Scan (List Char) := do
  newline
  return ['\n']

/-- A backslash at the end of a line: it swallows all white space up to the next character. -/
def foldedLine : Scan (List Char) := do
  Scan.expect '\\'
  white
  newline
  let _ ← Scan.many ((do let _ ← Scan.take isWhite) <|> newline)
  return []

/-- One or two quotes that do not close the string. -/
def innerQuotes (quote : Char) : Scan (List Char) := do
  let rest ← get
  let quotes := rest.takeWhile (· == quote)
  if quotes.isEmpty then failure
  else if quotes.length < 3 then
    set (rest.drop quotes.length)
    return quotes
  else failure

/-- The quotes that close a string of several lines. Up to two in front of them belong to it. -/
def closingQuotes (quote : Char) : Scan (List Char) := do
  let rest ← get
  let quotes := rest.takeWhile (· == quote)
  if 3 ≤ quotes.length then
    let count := min quotes.length 5
    set (rest.drop count)
    return quotes.take (count - 3)
  else failure

/-- A string of several lines, made of pieces. -/
def longString (quote : Char) (piece : Scan (List Char)) : Scan String := do
  Scan.literal (String.ofList [quote, quote, quote])
  let _ ← Scan.maybe newline
  let pieces ← Scan.many (piece <|> brokenLine <|> innerQuotes quote)
  let last ← closingQuotes quote
  return String.ofList (pieces.flatten ++ last)

/-- A string of several lines, with escapes. -/
def longBasicString : Scan String :=
  longString '"' (Scan.span1 isBasic <|> foldedLine <|> (List.singleton <$> escape))

/-- A string of several lines, as it is. -/
def longLiteralString : Scan String :=
  longString '\'' (Scan.span1 isLiteral)

/-- A string. -/
def string : Scan String :=
  longBasicString <|> longLiteralString <|> basicString <|> literalString

/-- A character of a key without quotes. -/
def isBareKey (c : Char) : Bool := c.isAlphanum || c == '_' || c == '-'

/-- One part of a key. -/
def simpleKey : Scan String :=
  (String.ofList <$> Scan.span1 isBareKey) <|> basicString <|> literalString

/-- One more than the number of parts that a key may have. -/
def keyBound : Nat := 80

/-- A key: parts with dots between them, and white space around them. -/
def key : Scan (List String) := do
  let part : Scan String := do white; let name ← simpleKey; white; return name
  let parts ← Scan.separated part (Scan.expect '.')
  if parts.length < keyBound then return parts else failure

end Switchboard.Toml
