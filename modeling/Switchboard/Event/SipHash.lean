/-
**SipHash: the digest that fingerprints are made with.**

SipHash keeps four words and mixes its input into them, eight bytes at a time: one round for every
word of the input and three at the end, under a key of zeros. The last word holds the bytes that are
left over and the length of the input.

Contents are hashed as bytes. A text stands for its bytes and 0xFF, which no text holds, so that
the next text cannot run into it; the pairs follow behind their number.
-/

import Switchboard.Event
import Switchboard.Text.Utf8

namespace Switchboard

open Text

namespace SipHash

/-- The four words into which the input is mixed. -/
structure Mixer where
  a : UInt64
  b : UInt64
  c : UInt64
  d : UInt64

/-- A word with its bits moved up, those that fall out coming in again at the bottom. -/
def rotate (word places : UInt64) : UInt64 :=
  word <<< places ||| word >>> (64 - places)

namespace Mixer

/-- The words before any input, under a key of zeros. -/
def start : Mixer :=
  { a := 0x736f6d6570736575
    b := 0x646f72616e646f6d
    c := 0x6c7967656e657261
    d := 0x7465646279746573 }

def round (mixer : Mixer) : Mixer :=
  let a := mixer.a + mixer.b
  let b := rotate mixer.b 13 ^^^ a
  let c := mixer.c + mixer.d
  let d := rotate mixer.d 16 ^^^ c
  let lower := c + b
  let upper := rotate a 32 + d
  { a := upper
    b := rotate b 17 ^^^ lower
    c := rotate lower 32
    d := rotate d 21 ^^^ upper }

/-- Mixes one word of the input in. -/
def absorb (mixer : Mixer) (word : UInt64) : Mixer :=
  let mixed := { mixer with d := mixer.d ^^^ word }.round
  { mixed with a := mixed.a ^^^ word }

/-- What the words come to behind the input. -/
def finish (mixer : Mixer) : UInt64 :=
  let mixed := { mixer with c := mixer.c ^^^ 0xff }.round.round.round
  mixed.a ^^^ mixed.b ^^^ mixed.c ^^^ mixed.d

end Mixer

/-- The word that bytes spell, the lowest byte first. -/
def wordOf : List UInt8 → UInt64
  | [] => 0
  | byte :: rest => byte.toUInt64 ||| wordOf rest <<< 8

/-- Mixes in what is left of an input, word by word. -/
def hashFrom (length : Nat) (mixer : Mixer) : List UInt8 → UInt64
  | b0 :: b1 :: b2 :: b3 :: b4 :: b5 :: b6 :: b7 :: rest =>
    hashFrom length (mixer.absorb (wordOf [b0, b1, b2, b3, b4, b5, b6, b7])) rest
  | rest => (mixer.absorb (wordOf rest ||| UInt64.ofNat length <<< 56)).finish

/-- The hash of an input. -/
def hash (bytes : List UInt8) : UInt64 :=
  hashFrom bytes.length .start bytes

example : hash (Utf8.bytesOf "0123456789abcdef") = 2108444454683020324 := by decide +kernel

/-- The eight bytes of a number, the lowest byte first. -/
def bytesOfNumber (number : Nat) : List UInt8 :=
  (List.range 8).map fun place => UInt8.ofNat (number >>> (8 * place))

/-- The bytes of a text, and the byte that ends it. -/
def bytesOfText (text : String) : List UInt8 :=
  Utf8.bytesOf text ++ [0xff]

/-- The input that contents are. -/
def bytesOf (contents : Contents) : List UInt8 :=
  bytesOfText contents.name ++ bytesOfNumber contents.pairs.length
    ++ contents.pairs.flatMap fun pair => bytesOfText pair.1 ++ bytesOfText pair.2

/-- The digest of contents is their hash. -/
scoped instance : Digest where
  of contents := hash (bytesOf contents)

end SipHash

end Switchboard
