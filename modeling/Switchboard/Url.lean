/-
**Addresses on the web: which texts are absolute URLs.**

A URL begins with a scheme. A few schemes are special: they need a host, whatever slashes stand in
front of it. Other schemes may have a host behind two slashes, or any text at all. A user and a
password may stand before the host, and a port behind it. Nothing after that can be wrong.

* `isUrl`: the rule;
* `isHost`: the hosts of special schemes: addresses in brackets, addresses in four numbers, names;
* `isOpaqueHost`: the hosts of all other schemes.
-/

import Switchboard.Text.Blank
import Switchboard.Text.Scan
import Switchboard.Text.Utf8
import Switchboard.Url.Domain

namespace Switchboard.Url

open Text

/-- The kinds of schemes. -/
inductive SchemeKind where
  | file
  | special
  | other
  deriving DecidableEq, Repr

/-- The kind of a scheme, given with small letters. -/
def kindOf (scheme : String) : SchemeKind :=
  if scheme = "file" then .file
  else if scheme ∈ ["http", "https", "ws", "wss", "ftp"] then .special
  else .other

/-- A character that may stand in a scheme. -/
def isSchemeChar (c : Char) : Bool :=
  c.isAlphanum || c == '+' || c == '-' || c == '.'

/-- A text at its colon, when a scheme stands in front of it. -/
def splitScheme? (chars : List Char) : Option (SchemeKind × List Char) :=
  let scheme := chars.takeWhile isSchemeChar
  match scheme, chars.dropWhile isSchemeChar with
  | first :: _, ':' :: rest =>
    if first.isAlpha then
      some (kindOf (String.ofList (scheme.map Char.toLower)), rest)
    else none
  | _, _ => none

/-- A character that ends the part of a URL with the host. -/
def endsAuthority (kind : SchemeKind) (c : Char) : Bool :=
  c == '/' || c == '?' || c == '#' || (kind != .other && c == '\\')

/-! ### Hosts -/

/-- The number of a part of an address: none if it is no number. -/
def numberOf? (part : List Char) : Option Nat :=
  let (base, digits) :=
    match part with
    | '0' :: 'x' :: rest | '0' :: 'X' :: rest => (16, rest)
    | '0' :: c :: rest => (8, c :: rest)
    | _ => (10, part)
  if part.isEmpty || !digits.all (isDigitIn base) then none else some (ofDigits base digits)

/-- The parts of a text between dots. -/
def dotted (chars : List Char) : List (List Char) := chars.splitOn '.'

/-- The parts of a name. One that is empty at the end does not count. -/
def labels (chars : List Char) : List (List Char) :=
  match (dotted chars).reverse with
  | [] :: first :: rest => (first :: rest).reverse
  | parts => parts.reverse

/-- Whether a name ends in a number, and so has to be an address. -/
def endsInNumber (chars : List Char) : Bool :=
  match (labels chars).getLast? with
  | none => false
  | some last => (!last.isEmpty && last.all Char.isDigit) || (numberOf? last).isSome

/-- Whether numbers make up an address: each fits into a byte, and the last into all that is
left. -/
def fitsAddress (numbers : List Nat) : Bool :=
  match numbers.reverse with
  | [] => false
  | last :: others =>
    others.all (· ≤ 255) && numbers.length ≤ 4 && last < Nat.pow 256 (5 - numbers.length)

/-- An address of at most four numbers. -/
def isAddress (chars : List Char) : Bool :=
  match (labels chars).mapM numberOf? with
  | some numbers => fitsAddress numbers
  | none => false

/-- A part of an address in four decimal numbers: no zero in front, and it fits into a byte. -/
def isByteText (part : List Char) : Bool :=
  match part with
  | [] => false
  | ['0'] => true
  | first :: _ =>
    first != '0' && part.all Char.isDigit && part.length ≤ 3 && ofDigits 10 part ≤ 255

/-- How many of the eight pieces of a long address the parts between colons are. The last part may
be an address in four decimal numbers, which makes two. -/
def piecesOf? : (parts : List (List Char)) → Option Nat
  | [] => some 0
  | [part] =>
    if part.contains '.' then
      let bytes := dotted part
      if bytes.length = 4 && bytes.all isByteText then some 2 else none
    else if !part.isEmpty && part.length ≤ 4 && part.all (isDigitIn 16) then some 1 else none
  | part :: rest =>
    if !part.isEmpty && part.length ≤ 4 && part.all (isDigitIn 16) then
      (piecesOf? rest).map (· + 1)
    else none

/-- The two sides of the first double colon. -/
def splitDoubleColon? : (chars : List Char) → Option (List Char × List Char)
  | ':' :: ':' :: rest => some ([], rest)
  | c :: rest => (splitDoubleColon? rest).map fun sides => (c :: sides.1, sides.2)
  | [] => none

/-- The parts of a side of a double colon. -/
def sideParts (side : List Char) : List (List Char) :=
  if side.isEmpty then [] else side.splitOn ':'

/-- A long address: eight pieces, or fewer with one double colon in place of the others. -/
def isLongAddress (chars : List Char) : Bool :=
  match splitDoubleColon? chars with
  | none => piecesOf? (chars.splitOn ':') == some 8
  | some (before, after) =>
    !before.contains '.' &&
      match piecesOf? (sideParts before), piecesOf? (sideParts after) with
      | some first, some last => first + last < 8
      | _, _ => false

/-- The host in brackets, when a text is one. -/
def bracketed? (chars : List Char) : Option (List Char) :=
  match chars with
  | '[' :: rest => if rest.getLast? = some ']' then some rest.dropLast else some []
  | _ => none

/-- A byte as the character with its number. -/
def asChar (byte : UInt8) : Char := Char.ofNat byte.toNat

/-- The byte that a percent sign and two digits spell. -/
def percentByte? (percent high low : UInt8) : Option UInt8 :=
  if percent == 0x25 && isDigitIn 16 (asChar high) && isDigitIn 16 (asChar low) then
    some (UInt8.ofNat (digitValue (asChar high) * 16 + digitValue (asChar low)))
  else none

/-- The bytes of a text in which a percent sign and two digits stand for a byte. -/
def percentDecoded : List UInt8 → List UInt8
  | percent :: high :: low :: rest =>
    match percentByte? percent high low with
    | some byte => byte :: percentDecoded rest
    | none => percent :: percentDecoded (high :: low :: rest)
  | rest => rest

/-- A character that no name may have. -/
def isForbidden (c : Char) : Bool :=
  c.toNat ≤ 0x20 || c == '\x7f' ||
    c ∈ ['#', '%', '/', ':', '<', '>', '?', '@', '[', '\\', ']', '^', '|']

/-- A host of a special scheme. -/
def isHost (chars : List Char) : Bool :=
  match bracketed? chars with
  | some inner => isLongAddress inner
  | none =>
    match domain? (Utf8.decodeLossy (percentDecoded (Utf8.encode chars))) with
    | some name => !name.isEmpty && !name.any isForbidden && (!endsInNumber name || isAddress name)
    | none => false

/-- A character that no host may have. -/
def isForbiddenAnywhere (c : Char) : Bool :=
  c ∈ ['\x00', ' ', '#', '/', ':', '<', '>', '?', '@', '[', '\\', ']', '^', '|']

/-- A host of another scheme. -/
def isOpaqueHost (chars : List Char) : Bool :=
  match bracketed? chars with
  | some inner => isLongAddress inner
  | none => !chars.any isForbiddenAnywhere

/-! ### What stands around the host -/

/-- A host and what stands behind it. A colon ends the host, but not in brackets. -/
def splitHost (kind : SchemeKind) : (inBrackets : Bool) → List Char → List Char × List Char
  | _, [] => ([], [])
  | inBrackets, c :: rest =>
    if (c == ':' && !inBrackets) || endsAuthority kind c then ([], c :: rest)
    else
      let inside := if c == '[' then true else if c == ']' then false else inBrackets
      let (host, behind) := splitHost kind inside rest
      (c :: host, behind)

/-- Whether what stands behind a host begins with a port, or with none. -/
def isPort : List Char → Bool
  | ':' :: rest =>
    let digits := rest.takeWhile Char.isDigit
    let ends := match rest.dropWhile Char.isDigit with
      | [] => true
      | c :: _ => c == '/' || c == '\\' || c == '?' || c == '#'
    ends && ofDigits 10 digits < 65536
  | _ => true

/-- The part in front of the last at sign, and the rest, which may begin with a host. -/
def splitUser? (authority : List Char) : Option (List Char × List Char) :=
  if authority.contains '@' then
    let host := (authority.reverse.takeWhile (· != '@')).reverse
    some (authority.take (authority.length - host.length - 1), host)
  else none

/-- Whether a text is a host with a port, when something other than a host has to stand in front of
an empty one. -/
def isHostAndPort (kind : SchemeKind) (hasUser : Bool) (chars : List Char) : Bool :=
  let (host, behind) := splitHost kind false chars
  let hostFits :=
    if host.isEmpty then kind == .other && !hasUser && behind.head? != some ':'
    else if kind == .other then isOpaqueHost host
    else isHost host
  hostFits && isPort behind

/-- Whether the text behind two slashes can be read. -/
def isAuthority (kind : SchemeKind) (chars : List Char) : Bool :=
  let authority := chars.takeWhile (!endsAuthority kind ·)
  let behind := chars.dropWhile (!endsAuthority kind ·)
  match splitUser? authority with
  | none => isHostAndPort kind false chars
  | some (user, host) =>
    if user.isEmpty && host.isEmpty && !behind.isEmpty then false
    else isHostAndPort kind (!user.isEmpty && user != [':']) (host ++ behind)

/-- A letter of a drive, with its colon. -/
def isDrive : List Char → Bool
  | [letter, mark] => letter.isAlpha && (mark == ':' || mark == '|')
  | _ => false

/-- Whether the text behind the scheme of a file can be read. -/
def isFilePath (chars : List Char) : Bool :=
  let isSlash (c : Char) : Bool := c == '/' || c == '\\'
  match chars with
  | first :: second :: rest =>
    if isSlash first && isSlash second then
      let host := rest.takeWhile (!endsAuthority .file ·)
      host.isEmpty || isDrive host || isHost host
    else true
  | _ => true

/-- Whether a text is an absolute URL. Control characters and spaces at its ends do not count, and
neither do tabs and line ends anywhere. -/
def isUrl (text : String) : Bool :=
  let isOuter (c : Char) : Bool := c.toNat ≤ 0x20
  let trimmed := dropTrailing isOuter (text.toList.dropWhile isOuter)
  match splitScheme? (trimmed.filter fun c => c != '\t' && c != '\n' && c != '\r') with
  | none => false
  | some (.file, rest) => isFilePath rest
  | some (.special, rest) =>
    isAuthority .special (rest.dropWhile fun c => c == '/' || c == '\\')
  | some (.other, rest) =>
    match rest with
    | '/' :: '/' :: authority => isAuthority .other authority
    | _ => true

end Switchboard.Url
