/-
**Quoted texts.**

A text between double quotes, written so that each of its characters can be told from the
outside: the quote and the backslash are escaped, five controls have a letter, and whatever does
not print by itself is written as its code point, `\u{…}` in hexadecimal.
-/

import Switchboard.Text.Printable

namespace Switchboard.Text

/-- The escape of a character by its code point. -/
def codePointEscape (c : Char) : String :=
  "\\u\x7b" ++ String.ofList (Nat.toDigits 16 c.toNat) ++ "\x7d"

/-- A character as it is written between quotes. -/
def quotedChar (c : Char) : String :=
  if c = '"' then "\\\""
  else if c = '\\' then "\\\\"
  else if c = '\n' then "\\n"
  else if c = '\r' then "\\r"
  else if c = '\t' then "\\t"
  else if c.toNat = 0 then "\\0"
  else if extendsGrapheme c || isUnprintable c then codePointEscape c
  else String.singleton c

/-- A text between double quotes. -/
def quoted (text : String) : String :=
  "\"" ++ String.join (text.toList.map quotedChar) ++ "\""

end Switchboard.Text
