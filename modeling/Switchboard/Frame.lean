/-
**Frames: what a stream from the switch is made of.**

A stream is the greeting line and then blocks. A block with an `Event` key is an event, and one with
a `Response` key is a response; loose lines are allowed only in a response that says `Follows`. A
block that fits neither is reported with its fault and does not end the stream.

* `Frame.ofBlock`: the frame that the content of a block spells;
* `Frame.ofBytes`: the same from the bytes of the block;
* `Malformation.message`: the wording of each fault.
-/

import Switchboard.Block
import Switchboard.Event
import Switchboard.Response
import Switchboard.Text.Quoted
import Switchboard.Text.Utf8

namespace Switchboard

open Text

/-- Why a block could not be understood. -/
inductive Malformation where
  | notText (fault : Utf8.Fault)
  | looseLineInEvent (line : String)
  | unnamedEvent
  | looseLineInResponse (line : String)
  | statuslessResponse
  | neither (lines : Nat)
  | tooLong (limit : Nat)
  | cutOff (pending : Nat)
  deriving DecidableEq, Repr

/-- The wording of a fault. -/
def Malformation.message : Malformation → String
  | notText fault => "invalid UTF-8 in block: " ++ fault.message
  | looseLineInEvent line => "line without ':' in event block: " ++ quoted line
  | unnamedEvent => "event block with empty Event name"
  | looseLineInResponse line => "line without ':' in response block: " ++ quoted line
  | statuslessResponse => "response block without Response key"
  | neither lines => s!"block carries neither Event nor Response ({lines} lines)"
  | tooLong limit => s!"block exceeds {limit} bytes, discarding"
  | cutOff pending => s!"connection closed inside a block ({pending} bytes pending)"

/-- One unit of the stream. -/
inductive Frame where
  /-- The greeting, with the version of the protocol. -/
  | banner (version : String)
  | response (response : Response)
  | event (event : Event)
  | malformed (fault : Malformation)
  deriving DecidableEq, Repr

namespace Frame

/-- The status of a response whose loose lines are the output of a command. -/
def followsStatus : String := "Follows"

/-- The frame that a block with an `Event` key spells. -/
def ofEventBlock (block : Block) : Frame :=
  match block.loose with
  | line :: _ => .malformed (.looseLineInEvent line)
  | [] =>
    match Event.ofHeaders? block.headers with
    | some report => .event report
    | none => .malformed .unnamedEvent

/-- The frame that a block spells whose first `Response` value is `value`. -/
def ofResponseBlock (block : Block) (value : String) : Frame :=
  match block.loose, sameName value followsStatus with
  | line :: _, false => .malformed (.looseLineInResponse line)
  | _, _ =>
    match Response.ofHeaders? block.headers block.loose with
    | some answer => .response answer
    | none => .malformed .statuslessResponse

/-- The frame that a block spells. An `Event` key counts more than a `Response` key. -/
def ofBlock (block : Block) : Frame :=
  if block.headers.contains Event.key then
    ofEventBlock block
  else
    match block.headers.get Response.key with
    | some value => ofResponseBlock block value
    | none => .malformed (.neither (block.headers.size + block.loose.length))

/-- The frame that the bytes of a block spell. -/
def ofBytes (bytes : List UInt8) : Frame :=
  match Utf8.decode bytes with
  | .error fault => .malformed (.notText fault)
  | .ok text => ofBlock (Block.ofChars text)

end Frame

end Switchboard
