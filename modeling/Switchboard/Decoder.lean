/-
**The decoder: a stream of bytes to frames.**

Bytes arrive in pieces (`feed`) and wait in a buffer until a whole frame stands at its head
(`next`). Three things can come first:

* the greeting, which is one line and may be missing;
* a block, which its blank line closes;
* a block that grows beyond the limit before it is closed. It is reported at once, and everything
  up to the next blank line is thrown away. Three bytes are kept meanwhile, because a blank line
  may be cut in two by the arrival of its bytes.

`drain` takes all frames that are ready. It ends because each frame shrinks `Decoder.fuel`: it
takes bytes out of the buffer or starts to discard. `finish` reports what the end of the stream
cuts off.
-/

import Switchboard.Block.Boundary
import Switchboard.Frame

namespace Switchboard

open Text Block

/-- A stream under way. -/
structure Decoder where
  /-- The first line may still be a greeting. -/
  bannerPending : Bool
  /-- The rest of a block that was too long is being thrown away. -/
  discarding : Bool
  /-- A block that is not closed may be as long as this. -/
  maxBlockSize : Nat
  /-- The bytes that have arrived and belong to no frame yet. -/
  buffer : List UInt8
  deriving DecidableEq, Repr

namespace Decoder

/-- The limit on a block unless another is given: 1 MiB. -/
def defaultMaxBlockSize : Nat := 1024 * 1024

/-- The start of a stream. -/
def new (greeting : Bool) (maxBlockSize : Nat) : Decoder :=
  { bannerPending := greeting, discarding := false, maxBlockSize, buffer := [] }

/-- More bytes have arrived. -/
def feed (decoder : Decoder) (bytes : List UInt8) : Decoder :=
  { decoder with buffer := decoder.buffer ++ bytes }

/-- The words that begin a greeting. -/
def greeting : String := "Asterisk Call Manager"

/-- The version that a line names behind the words of the greeting. -/
def bannerVersion? (line : List UInt8) : Option String :=
  let text := dropTrailing (· == '\r') (Utf8.decodeLossy line)
  if greeting.toList.isPrefixOf text then
    some (String.ofList
      (trimChars ((text.drop greeting.length).dropWhile (· == '/'))))
  else none

/-- A frame for the block that is closed, or too long, at the head of the buffer. -/
def nextBlock (decoder : Decoder) : Option Frame × Decoder :=
  match blockEnd? decoder.buffer with
  | some size =>
    (some (Frame.ofBytes (decoder.buffer.take size)),
      { decoder with buffer := decoder.buffer.drop size })
  | none =>
    if decoder.maxBlockSize < decoder.buffer.length then
      (some (.malformed (.tooLong decoder.maxBlockSize)),
        { decoder with discarding := true, buffer := lastBytes 3 decoder.buffer })
    else (none, decoder)

/-- A frame for the greeting, if the buffer begins with one, else for a block. -/
def nextAfterBlanks (decoder : Decoder) : Option Frame × Decoder :=
  if decoder.buffer.isEmpty then (none, decoder)
  else if decoder.bannerPending then
    match decoder.buffer.dropWhile (· != lf) with
    | [] => (none, decoder)
    | _ :: rest =>
      match bannerVersion? (decoder.buffer.takeWhile (· != lf)) with
      | some version =>
        (some (.banner version), { decoder with bannerPending := false, buffer := rest })
      | none => nextBlock { decoder with bannerPending := false }
  else nextBlock decoder

/-- A frame from a stream that is not being discarded. -/
def nextFrame (decoder : Decoder) : Option Frame × Decoder :=
  nextAfterBlanks { decoder with buffer := dropBlankLines decoder.buffer }

/-- The next frame, if all of its bytes are there, and the stream behind it. -/
def next (decoder : Decoder) : Option Frame × Decoder :=
  if decoder.discarding then
    match blockEnd? decoder.buffer with
    | some size =>
      nextFrame { decoder with discarding := false, buffer := decoder.buffer.drop size }
    | none => (none, { decoder with buffer := lastBytes 3 decoder.buffer })
  else nextFrame decoder

/-! ### Taking all frames -/

/-- What each frame takes from: two for each byte waiting, and one for the right to discard. -/
def fuel (decoder : Decoder) : Nat :=
  2 * decoder.buffer.length + if decoder.discarding then 0 else 1

theorem nextBlock_fuel {decoder later : Decoder} {frame : Frame}
    (step : decoder.nextBlock = (some frame, later)) (keeping : decoder.discarding = false) :
    later.fuel < decoder.fuel := by
  simp only [nextBlock] at step
  split at step
  · next size found =>
    obtain ⟨_, rfl⟩ := Prod.mk.inj step
    have := blockEnd?_bounds found
    simp only [fuel, List.length_drop]
    omega
  · split at step
    · obtain ⟨_, rfl⟩ := Prod.mk.inj step
      have := length_lastBytes 3 decoder.buffer
      simp only [fuel, keeping, this, if_true, Bool.false_eq_true, if_false]
      omega
    · simp at step

theorem nextAfterBlanks_fuel {decoder later : Decoder} {frame : Frame}
    (step : decoder.nextAfterBlanks = (some frame, later)) (keeping : decoder.discarding = false) :
    later.fuel < decoder.fuel := by
  simp only [nextAfterBlanks] at step
  split at step
  · simp at step
  · split at step
    · split at step
      · simp at step
      · next byte rest split =>
        split at step
        · obtain ⟨_, rfl⟩ := Prod.mk.inj step
          have := (List.dropWhile_suffix (· != lf) (l := decoder.buffer)).length_le
          rw [split] at this
          simp only [fuel, List.length_cons] at this ⊢
          omega
        · have shorter := nextBlock_fuel step keeping
          simpa only [fuel] using shorter
    · exact nextBlock_fuel step keeping

theorem nextFrame_fuel {decoder later : Decoder} {frame : Frame}
    (step : decoder.nextFrame = (some frame, later)) (keeping : decoder.discarding = false) :
    later.fuel < decoder.fuel := by
  have shorter := nextAfterBlanks_fuel step keeping
  have := length_dropBlankLines_le decoder.buffer
  simp only [fuel] at shorter ⊢
  omega

/-- Each frame takes bytes, or starts to discard. -/
theorem next_fuel {decoder later : Decoder} {frame : Frame}
    (step : decoder.next = (some frame, later)) : later.fuel < decoder.fuel := by
  simp only [next] at step
  split at step
  · next discarding =>
    split at step
    · next size found =>
      have shorter := nextFrame_fuel step rfl
      have := blockEnd?_bounds found
      simp only [fuel, List.length_drop, discarding] at shorter ⊢
      simp only [if_true, Bool.false_eq_true, if_false] at shorter ⊢
      omega
    · simp at step
  · next keeping => exact nextFrame_fuel step (by simpa using keeping)

/-- All frames that are ready, and the stream behind them. -/
def drain (decoder : Decoder) : List Frame × Decoder :=
  match _ready : decoder.next with
  | (none, later) => ([], later)
  | (some frame, later) =>
    let (frames, last) := later.drain
    (frame :: frames, last)
termination_by decoder.fuel
decreasing_by exact next_fuel _ready

/-! ### The end of the stream -/

/-- Bytes that may stand behind the last block: space, tab, line feed, form feed and carriage
return. -/
def isPadding (byte : UInt8) : Bool :=
  byte == 0x20 || byte == 0x09 || byte == 0x0A || byte == 0x0C || byte == 0x0D

/-- The next frame of a stream to which no byte will be added: when no frame is ready, what is left
over is reported unless it is padding, and is gone. -/
def nextAtEnd (decoder : Decoder) : Option Frame × Decoder :=
  match decoder.next with
  | (some frame, later) => (some frame, later)
  | (none, later) =>
    if later.buffer.all isPadding then (none, { later with buffer := [] })
    else
      (some (.malformed (.cutOff later.buffer.length)), { later with buffer := [] })

theorem nextBlock_none {decoder later : Decoder} (step : decoder.nextBlock = (none, later)) :
    later = decoder := by
  simp only [nextBlock] at step
  split at step
  · simp at step
  · split at step
    · simp at step
    · exact (Prod.mk.inj step).2.symm

theorem nextFrame_none {decoder later : Decoder} (step : decoder.nextFrame = (none, later)) :
    later.discarding = decoder.discarding ∧ later.buffer = dropBlankLines decoder.buffer := by
  simp only [nextFrame, nextAfterBlanks] at step
  split at step
  · obtain ⟨_, rfl⟩ := Prod.mk.inj step
    exact ⟨rfl, rfl⟩
  · split at step
    · split at step
      · obtain ⟨_, rfl⟩ := Prod.mk.inj step
        exact ⟨rfl, rfl⟩
      · split at step
        · simp at step
        · cases nextBlock_none step
          exact ⟨rfl, rfl⟩
    · cases nextBlock_none step
      exact ⟨rfl, rfl⟩

/-- Where no frame is ready, what is left takes no more than before. -/
theorem next_none_fuel {decoder later : Decoder} (step : decoder.next = (none, later)) :
    later.fuel ≤ decoder.fuel := by
  simp only [next] at step
  split at step
  · next discarding =>
    split at step
    · next size found =>
      obtain ⟨kept, rest⟩ := nextFrame_none step
      have := blockEnd?_bounds found
      have := length_dropBlankLines_le (decoder.buffer.drop size)
      simp only [fuel, kept, rest, discarding] at this ⊢
      simp only [List.length_drop, if_true, Bool.false_eq_true, if_false] at this ⊢
      omega
    · obtain ⟨_, rfl⟩ := Prod.mk.inj step
      have := length_lastBytes 3 decoder.buffer
      simp only [fuel, this]
      omega
  · obtain ⟨kept, rest⟩ := nextFrame_none step
    have := length_dropBlankLines_le decoder.buffer
    simp only [fuel, kept, rest]
    omega

/-- A frame at the end of the stream takes bytes, or starts to discard. -/
theorem nextAtEnd_fuel {decoder later : Decoder} {frame : Frame}
    (step : decoder.nextAtEnd = (some frame, later)) : later.fuel < decoder.fuel := by
  simp only [nextAtEnd] at step
  split at step
  · next first rest ready =>
    obtain ⟨_, rfl⟩ := Prod.mk.inj step
    exact next_fuel ready
  · next rest waiting =>
    have bound := next_none_fuel waiting
    split at step
    · simp at step
    · next waits =>
      obtain ⟨_, rfl⟩ := Prod.mk.inj step
      have nonempty : rest.buffer ≠ [] := by
        intro empty
        simp [empty] at waits
      have := List.length_pos_iff.2 nonempty
      simp only [fuel, List.length_nil] at bound ⊢
      omega

/-- All frames that the end of the stream leaves. -/
def finish (decoder : Decoder) : List Frame × Decoder :=
  match _ready : decoder.nextAtEnd with
  | (none, later) => ([], later)
  | (some frame, later) =>
    let (frames, last) := later.finish
    (frame :: frames, last)
termination_by decoder.fuel
decreasing_by exact nextAtEnd_fuel _ready

end Decoder

end Switchboard
