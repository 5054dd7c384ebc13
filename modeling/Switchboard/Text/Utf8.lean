/-
**UTF-8: bytes to characters, and where the bytes stop being text.**

One rule reads the character at the head of a byte sequence (`readChar`): it names the character,
or says how many bytes at the head no text begins with, or finds that the sequence ends inside a
character. Two readers are built on it, and both walk the bytes once.

* `decode`: all characters, or the place and size of the first fault;
* `decodeLossy`: all characters, with U+FFFD in place of each fault;
* `encode`: the bytes of a list of characters.
-/

namespace Switchboard.Text.Utf8

/-- What stands at the head of a byte sequence. -/
inductive Head where
  /-- A character of that many bytes. -/
  | char (c : Char) (size : Nat)
  /-- That many bytes with which no character begins. -/
  | invalid (size : Nat)
  /-- The beginning of a character, of which the rest is missing. -/
  | cut
  deriving DecidableEq, Repr

/-- A byte that continues a character. -/
def isTail (b : UInt8) : Bool :=
  0x80 ≤ b && b ≤ 0xBF

/-- The six bits that a continuing byte carries. -/
def tailBits (b : UInt8) : Nat :=
  b.toNat % 0x40

/-- The least and the greatest second byte after the first byte of a longer character. -/
def secondRange (first : UInt8) : UInt8 × UInt8 :=
  if first = 0xE0 then (0xA0, 0xBF)
  else if first = 0xED then (0x80, 0x9F)
  else if first = 0xF0 then (0x90, 0xBF)
  else if first = 0xF4 then (0x80, 0x8F)
  else (0x80, 0xBF)

/-- Whether `second` may follow `first` in a character of three or four bytes. -/
def mayFollow (first second : UInt8) : Bool :=
  (secondRange first).1 ≤ second && second ≤ (secondRange first).2

/-- The character, fault or cut at the head of the bytes `first :: rest`. -/
def readChar (first : UInt8) (rest : List UInt8) : Head :=
  if first < 0x80 then
    .char (Char.ofNat first.toNat) 1
  else if first < 0xC2 || 0xF4 < first then
    .invalid 1
  else
    match rest with
    | [] => .cut
    | second :: rest =>
      if first < 0xE0 then
        if isTail second then
          .char (Char.ofNat ((first.toNat - 0xC0) * 0x40 + tailBits second)) 2
        else
          .invalid 1
      else if !mayFollow first second then
        .invalid 1
      else
        match rest with
        | [] => .cut
        | third :: rest =>
          if !isTail third then
            .invalid 2
          else if first < 0xF0 then
            .char
              (Char.ofNat ((first.toNat - 0xE0) * 0x1000 + tailBits second * 0x40 + tailBits third))
              3
          else
            match rest with
            | [] => .cut
            | fourth :: _ =>
              if isTail fourth then
                .char
                  (Char.ofNat ((first.toNat - 0xF0) * 0x40000 + tailBits second * 0x1000
                    + tailBits third * 0x40 + tailBits fourth))
                  4
              else
                .invalid 3

/-- Why a byte sequence is not text. -/
inductive Fault where
  /-- At `index` stand `size` bytes with which no character begins. -/
  | invalid (size index : Nat)
  /-- The sequence ends inside the character that begins at `index`. -/
  | incomplete (index : Nat)
  deriving DecidableEq, Repr

/-- The wording of a fault. -/
def Fault.message : Fault → String
  | .invalid size index => s!"invalid utf-8 sequence of {size} bytes from index {index}"
  | .incomplete index => s!"incomplete utf-8 byte sequence from index {index}"

/-- Reads on at `index`, where `skip` more bytes belong to a character already read and `read`
holds the characters so far, last first. -/
def decodeFrom (index skip : Nat) (read : List Char) : List UInt8 → Except Fault (List Char)
  | [] => .ok read.reverse
  | byte :: rest =>
    match skip with
    | skip + 1 => decodeFrom (index + 1) skip read rest
    | 0 =>
      match readChar byte rest with
      | .char c size => decodeFrom (index + 1) (size - 1) (c :: read) rest
      | .invalid size => .error (.invalid size index)
      | .cut => .error (.incomplete index)

/-- The characters of a byte sequence, or its first fault. -/
def decode (bytes : List UInt8) : Except Fault (List Char) :=
  decodeFrom 0 0 [] bytes

/-- U+FFFD, which stands for bytes that are no text. -/
def replacement : Char := Char.ofNat 0xFFFD

/-- Reads on as `decodeFrom` does, and writes one `replacement` for each fault. -/
def decodeLossyFrom (skip : Nat) (read : List Char) : List UInt8 → List Char
  | [] => read.reverse
  | byte :: rest =>
    match skip with
    | skip + 1 => decodeLossyFrom skip read rest
    | 0 =>
      match readChar byte rest with
      | .char c size => decodeLossyFrom (size - 1) (c :: read) rest
      | .invalid size => decodeLossyFrom (size - 1) (replacement :: read) rest
      | .cut => (replacement :: read).reverse

/-- The characters of a byte sequence, with U+FFFD for each fault. -/
def decodeLossy (bytes : List UInt8) : List Char :=
  decodeLossyFrom 0 [] bytes

/-- The bytes of a list of characters. -/
def encode (chars : List Char) : List UInt8 :=
  chars.flatMap String.utf8EncodeChar

/-- The bytes of a text. -/
def bytesOf (text : String) : List UInt8 :=
  encode text.toList

end Switchboard.Text.Utf8
