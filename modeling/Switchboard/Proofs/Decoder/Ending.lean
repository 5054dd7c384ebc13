/-
**Taking all frames, and the end of the stream.**

A frame takes bytes from the head of the buffer, or it takes none and the decoder begins to throw a
block away (`next_progress`), so that asking for frames comes to an end. A decoder that has said that
there is none says so again, and stays as it is (`next_of_next_none`). At the end of the stream one
frame more may come, and it only reports that bytes are left over which no blank line has closed.

* `Exhausts`: asking, in one way or the other, until there is no frame;
* `Frame.ReadFrom`: where a frame comes from, which for an event or a response is a closed block;
* `drained_then_cut_off`: all of it for a decoder in any state.
-/

import Switchboard.Proofs.Decoder.Backlog
import Switchboard.Proofs.Decoder.RoundTrip

namespace Switchboard

open Text Block

/-- Whether a frame is what a decoder can make of these bytes: a greeting, the report of a block that
is too long, or what a block spells that stands in them with its blank line. -/
inductive Frame.ReadFrom (limit : Nat) (bytes : List UInt8) : Frame → Prop
  | greeting (version : String) : ReadFrom limit bytes (.banner version)
  | tooLong : ReadFrom limit bytes (.malformed (.tooLong limit))
  | block {block : List UInt8} (inside : block <:+: bytes)
      (closed : blockEnd? block = some block.length) : ReadFrom limit bytes (.ofBytes block)

theorem Frame.ReadFrom.mono {limit : Nat} {bytes more : List UInt8} {frame : Frame}
    (read : frame.ReadFrom limit bytes) (within : bytes <:+: more) : frame.ReadFrom limit more := by
  cases read with
  | greeting version => exact .greeting version
  | tooLong => exact .tooLong
  | block inside closed => exact .block (inside.trans within) closed

namespace Decoder

variable {decoder later last : Decoder} {frame : Frame} {frames : List Frame}

/-! ### What a frame takes -/

theorem nextBlock_suffix (decoder : Decoder) : decoder.nextBlock.2.buffer <:+ decoder.buffer := by
  unfold nextBlock lastBytes
  split
  · exact List.drop_suffix _ _
  · split
    · exact List.drop_suffix _ _
    · exact List.suffix_rfl

theorem nextAfterBlanks_suffix (decoder : Decoder) :
    decoder.nextAfterBlanks.2.buffer <:+ decoder.buffer := by
  unfold nextAfterBlanks
  split
  · exact List.suffix_rfl
  split
  · split
    · exact List.suffix_rfl
    · next byte rest behind =>
      have line : byte :: rest <:+ decoder.buffer := behind ▸ List.dropWhile_suffix _
      split
      · exact (List.suffix_cons byte rest).trans line
      · exact nextBlock_suffix _
  · exact nextBlock_suffix _

theorem nextFrame_suffix (decoder : Decoder) : decoder.nextFrame.2.buffer <:+ decoder.buffer :=
  (nextAfterBlanks_suffix _).trans (dropBlankLines_suffix _)

/-- What is left is the end of what was there. -/
theorem next_suffix (decoder : Decoder) : decoder.next.2.buffer <:+ decoder.buffer := by
  unfold next
  split
  · split
    · exact (nextFrame_suffix _).trans (List.drop_suffix _ _)
    · exact List.drop_suffix _ _
  · exact nextFrame_suffix _

/-- A frame takes bytes, or it takes none and the decoder begins to discard. -/
theorem next_progress (ready : decoder.next = (some frame, later)) :
    later.buffer <:+ decoder.buffer ∧
      (later.buffer.length < decoder.buffer.length ∨
        decoder.discarding = false ∧ later.discarding = true) := by
  have left : later.buffer <:+ decoder.buffer := by
    have left := decoder.next_suffix
    rwa [ready] at left
  refine ⟨left, ?_⟩
  by_cases fewer : later.buffer.length < decoder.buffer.length
  · exact .inl fewer
  · -- with as many bytes as before, what was used is the right to discard
    have same : later.buffer.length = decoder.buffer.length :=
      Nat.le_antisymm left.length_le (Nat.le_of_not_lt fewer)
    have used := next_fuel ready
    unfold fuel at used
    rw [same, Nat.add_lt_add_iff_left] at used
    cases before : decoder.discarding with
    | true =>
      rw [before] at used
      exact absurd used (Nat.not_lt_zero _)
    | false =>
      refine .inr ⟨rfl, ?_⟩
      by_contra keeping
      rw [if_neg keeping, before] at used
      exact absurd used (Nat.lt_irrefl 1)

/-- There are no more frames than there is fuel. -/
theorem length_drain_le (decoder : Decoder) : decoder.drain.1.length ≤ decoder.fuel := by
  induction decoder using drain.induct with
  | case1 decoder later waits =>
    rw [drain_of_none waits]
    exact Nat.zero_le _
  | case2 decoder frame later ready _ _ _ ih =>
    rw [drain_of_some ready]
    exact Nat.lt_of_le_of_lt ih (next_fuel ready)

/-! ### Where a frame comes from -/

theorem nextBlock_readFrom (ready : decoder.nextBlock = (some frame, later)) :
    frame.ReadFrom decoder.maxBlockSize decoder.buffer := by
  unfold nextBlock at ready
  split at ready
  · next size found =>
    cases ready
    have size_le := (blockEnd?_bounds found).2
    have closed : blockEnd? (decoder.buffer.take size) = some (decoder.buffer.take size).length := by
      rw [blockEnd?_take found le_rfl, List.length_take_of_le size_le]
    exact .block (List.take_prefix _ _).isInfix closed
  · split at ready
    · cases ready
      exact .tooLong
    · cases ready

theorem nextFrame_readFrom (ready : decoder.nextFrame = (some frame, later)) :
    frame.ReadFrom decoder.maxBlockSize decoder.buffer := by
  have within := (dropBlankLines_suffix decoder.buffer).isInfix
  unfold nextFrame nextAfterBlanks at ready
  split at ready
  · cases ready
  split at ready
  · split at ready
    · cases ready
    · split at ready
      · cases ready
        exact .greeting _
      · exact (nextBlock_readFrom ready).mono within
  · exact (nextBlock_readFrom ready).mono within

theorem next_readFrom (ready : decoder.next = (some frame, later)) :
    frame.ReadFrom decoder.maxBlockSize decoder.buffer := by
  unfold next at ready
  split at ready
  · split at ready
    · exact (nextFrame_readFrom ready).mono (List.drop_suffix _ _).isInfix
    · cases ready
  · exact nextFrame_readFrom ready

/-- Every frame comes from the bytes that were there at the beginning. -/
theorem readFrom_of_mem_drain (member : frame ∈ decoder.drain.1) :
    frame.ReadFrom decoder.maxBlockSize decoder.buffer := by
  induction decoder using drain.induct with
  | case1 decoder later waits =>
    rw [drain_of_none waits] at member
    cases member
  | case2 decoder first later ready _ _ _ ih =>
    rw [drain_of_some ready] at member
    rcases List.mem_cons.mp member with rfl | member
    · exact next_readFrom ready
    · have limit := decoder.next_maxBlockSize
      rw [ready] at limit
      rw [← limit]
      exact (ih member).mono (next_progress ready).1.isInfix

/-! ### When there is no frame -/

theorem nextAfterBlanks_of_next_none (waits : decoder.nextAfterBlanks = (none, later)) :
    later.nextAfterBlanks = (none, later) := by
  by_cases empty : decoder.buffer = []
  · have same := nextAfterBlanks_of_nil decoder empty
    cases waits.symm.trans same
    exact same
  by_cases idle : decoder.bannerPending = true
  · by_cases ended : lf ∈ decoder.buffer
    · -- the first line is no greeting, and none is awaited behind it
      rw [nextAfterBlanks_of_ended decoder idle ended] at waits
      split at waits
      · cases waits
      · cases nextBlock_none waits
        rw [nextAfterBlanks_of_idle (decoder.leaving decoder.buffer) empty rfl]
        exact waits
    · have same := nextAfterBlanks_of_unended decoder idle ended
      cases waits.symm.trans same
      exact same
  · have same := nextAfterBlanks_of_idle decoder empty (Bool.eq_false_iff.mpr idle)
    rw [same] at waits
    cases nextBlock_none waits
    rw [same]
    exact waits

theorem next_of_next_none_of_keeping (keeping : decoder.discarding = false)
    (waits : decoder.next = (none, later)) : later.next = (none, later) := by
  have settled : decoder.nextFrame = (none, later) := by
    rw [← waits, next_eq decoder keeping]
    rfl
  obtain ⟨kept, buffer⟩ := nextFrame_none settled
  have same : later.settled = later := by
    unfold Decoder.settled
    rw [buffer, dropBlankLines_idem, ← buffer]
  rw [next_eq later (kept.trans keeping), same]
  rw [next_eq decoder keeping] at waits
  exact nextAfterBlanks_of_next_none waits

/-- Asked again, a decoder without a frame has none, and stays as it is. -/
theorem next_of_next_none (waits : decoder.next = (none, later)) : later.next = (none, later) := by
  cases discarding : decoder.discarding with
  | false => exact next_of_next_none_of_keeping discarding waits
  | true =>
    cases found : blockEnd? decoder.buffer with
    | some size =>
      rw [next_of_closed discarding found] at waits
      exact next_of_next_none_of_keeping rfl waits
    | none =>
      rw [next_of_open discarding found] at waits
      cases waits
      have still : blockEnd? (lastBytes 3 decoder.buffer) = none := by
        have whole := blockEnd?_lastBytes found (by decide : 2 ≤ 3) []
        rw [List.append_nil, List.append_nil, found] at whole
        exact Option.map_eq_none_iff.mp whole.symm
      have kept : lastBytes 3 (lastBytes 3 decoder.buffer) = lastBytes 3 decoder.buffer := by
        have kept := lastBytes_lastBytes_append 3 decoder.buffer []
        rwa [List.append_nil, List.append_nil] at kept
      have again := next_of_open
        (show { decoder with buffer := lastBytes 3 decoder.buffer }.discarding = true from discarding)
        still
      rwa [kept] at again

theorem next_drain (decoder : Decoder) : decoder.drain.2.next = (none, decoder.drain.2) := by
  induction decoder using drain.induct with
  | case1 decoder later waits =>
    rw [drain_of_none waits]
    exact next_of_next_none waits
  | case2 decoder frame later ready _ _ _ ih =>
    rw [drain_of_some ready]
    exact ih

/-! ### The end of the stream -/

/-- A decoder that has nothing left. -/
def emptied (decoder : Decoder) : Decoder :=
  { decoder with buffer := [] }

/-- The report on what is left over: there is none if it is nothing but padding. -/
def cutOff (decoder : Decoder) : List Frame :=
  if decoder.buffer.all isPadding then [] else [.malformed (.cutOff decoder.buffer.length)]

theorem next_emptied (decoder : Decoder) : decoder.emptied.next = (none, decoder.emptied) := by
  cases discarding : decoder.discarding with
  | false =>
    have nothing : decoder.emptied.settled.buffer = [] := rfl
    rw [next_eq decoder.emptied discarding, nextAfterBlanks_of_nil _ nothing]
    rfl
  | true => exact next_of_open discarding rfl

theorem nextAtEnd_emptied (decoder : Decoder) :
    decoder.emptied.nextAtEnd = (none, decoder.emptied) := by
  unfold nextAtEnd
  rw [next_emptied]
  rfl

theorem finish_emptied (decoder : Decoder) : decoder.emptied.finish = ([], decoder.emptied) :=
  finish_of_none decoder.nextAtEnd_emptied

theorem finish_of_next_none (waits : decoder.next = (none, later)) :
    decoder.finish = (later.cutOff, later.emptied) := by
  unfold cutOff
  split
  · next padded =>
    refine finish_of_none ?_
    unfold nextAtEnd
    rw [waits]
    exact if_pos padded
  · next left =>
    have reported : decoder.nextAtEnd =
        (some (.malformed (.cutOff later.buffer.length)), later.emptied) := by
      unfold nextAtEnd
      rw [waits]
      exact if_neg left
    rw [finish_of_some reported, finish_emptied]

/-- The end of the stream lets the frames come that are ready, and then the report on what is left
over. -/
theorem finish_eq (decoder : Decoder) :
    decoder.finish = (decoder.drain.1 ++ decoder.drain.2.cutOff, decoder.drain.2.emptied) := by
  induction decoder using drain.induct with
  | case1 decoder later waits =>
    rw [drain_of_none waits]
    exact finish_of_next_none waits
  | case2 decoder frame later ready _ _ _ ih =>
    have first : decoder.nextAtEnd = (some frame, later) := by
      unfold nextAtEnd
      rw [ready]
    rw [finish_of_some first, ih, drain_of_some ready]
    rfl

/-! ### Asking until there is no frame -/

/-- Whether asking a decoder in this way until it has no frame gives these frames and leads to this
decoder. -/
inductive Exhausts (ask : Decoder → Option Frame × Decoder) : Decoder → List Frame → Decoder → Prop
  | silent {decoder last : Decoder} (waits : ask decoder = (none, last)) :
      Exhausts ask decoder [] last
  | frame {decoder later last : Decoder} {frame : Frame} {frames : List Frame}
      (ready : ask decoder = (some frame, later)) (behind : Exhausts ask later frames last) :
      Exhausts ask decoder (frame :: frames) last

theorem exhausts_next_iff : Exhausts next decoder frames last ↔ decoder.drain = (frames, last) := by
  constructor
  · intro asked
    induction asked with
    | silent waits => exact drain_of_none waits
    | frame ready _ ih => rw [drain_of_some ready, ih]
  · intro all
    induction decoder using drain.induct generalizing frames with
    | case1 decoder later waits =>
      rw [drain_of_none waits] at all
      cases all
      exact .silent waits
    | case2 decoder frame later ready _ _ _ ih =>
      rw [drain_of_some ready] at all
      cases all
      exact .frame ready (ih rfl)

theorem exhausts_nextAtEnd_iff :
    Exhausts nextAtEnd decoder frames last ↔ decoder.finish = (frames, last) := by
  constructor
  · intro asked
    induction asked with
    | silent ends => exact finish_of_none ends
    | frame ready _ ih => rw [finish_of_some ready, ih]
  · intro all
    induction decoder using finish.induct generalizing frames with
    | case1 decoder later ends =>
      rw [finish_of_none ends] at all
      cases all
      exact .silent ends
    | case2 decoder frame later ready _ _ _ ih =>
      rw [finish_of_some ready] at all
      cases all
      exact .frame ready (ih rfl)

/-- **Frames come to an end, and so does the stream.** For a decoder in any state, with any bytes:

* each frame takes bytes from the head of the buffer, or the decoder begins to throw a block away;
* asking for frames ends, in one way, and after no more frames than there is fuel; every frame is a
  greeting, the report of a block that is too long, or what a closed block spells that stands in the
  buffer;
* a decoder that has said that there is no frame says so again, and stays as it is;
* asked at the end of the stream, it has one frame more, which reports how many bytes are left over,
  if one of them is no padding, and none if there is no such byte; nothing is left then. So it is,
  too, when the end of the stream comes while there are frames to take: these come first. -/
theorem drained_then_cut_off (decoder : Decoder) :
    let frames := decoder.drain.1
    let last := decoder.drain.2
    let report := [Frame.malformed (.cutOff last.buffer.length)]
    (∀ frame later, decoder.next = (some frame, later) →
      later.buffer <:+ decoder.buffer ∧
        (later.buffer.length < decoder.buffer.length ∨
          decoder.discarding = false ∧ later.discarding = true)) ∧
    ((∀ given rest, Exhausts next decoder given rest ↔ given = frames ∧ rest = last) ∧
      frames.length ≤ 2 * decoder.buffer.length + 1 ∧
      ∀ frame ∈ frames, frame.ReadFrom decoder.maxBlockSize decoder.buffer) ∧
    last.next = (none, last) ∧
    ∃ ending, (ending = report ∧ (∃ byte ∈ last.buffer, isPadding byte = false) ∨
        ending = [] ∧ ∀ byte ∈ last.buffer, isPadding byte = true) ∧
      (∀ given rest, Exhausts nextAtEnd last given rest ↔
        given = ending ∧ rest = { last with buffer := [] }) ∧
      ∀ given rest, Exhausts nextAtEnd decoder given rest ↔
        given = frames ++ ending ∧ rest = { last with buffer := [] } := by
  intro frames last report
  have fuel_le : decoder.fuel ≤ 2 * decoder.buffer.length + 1 := by
    unfold fuel
    split <;> omega
  refine ⟨fun frame later ready => next_progress ready,
    ⟨?drains, decoder.length_drain_le.trans fuel_le, fun frame => readFrom_of_mem_drain⟩,
    decoder.next_drain, last.cutOff, ?reports, ?ends, ?finishes⟩
  case drains =>
    intro given rest
    rw [exhausts_next_iff, Prod.ext_iff]
    exact and_congr eq_comm eq_comm
  case reports =>
    unfold cutOff
    split
    · next padded => exact .inr ⟨rfl, List.all_eq_true.mp padded⟩
    · next left =>
      obtain ⟨byte, member, solid⟩ := List.all_eq_false.mp (Bool.eq_false_iff.mpr left)
      exact .inl ⟨rfl, byte, member, Bool.eq_false_iff.mpr solid⟩
  case ends =>
    intro given rest
    rw [exhausts_nextAtEnd_iff, finish_of_next_none decoder.next_drain, Prod.ext_iff]
    exact and_congr eq_comm eq_comm
  case finishes =>
    intro given rest
    rw [exhausts_nextAtEnd_iff, finish_eq, Prod.ext_iff]
    exact and_congr eq_comm eq_comm

/-- Two bytes at a decoder that allows none: the report of the block takes no byte, and the two are
left over at the end of the stream. -/
theorem drained_then_cut_off_tiny :
    let decoder := (new false 0).feed [97, 98]
    let skipping := { decoder with discarding := true }
    decoder.next = (some (.malformed (.tooLong 0)), skipping) ∧
      (skipping.buffer.length < decoder.buffer.length ∨
        decoder.discarding = false ∧ skipping.discarding = true) ∧
      skipping.next = (none, skipping) ∧
      Exhausts nextAtEnd skipping [.malformed (.cutOff 2)] { skipping with buffer := [] } := by
  intro decoder skipping
  obtain ⟨progress, ⟨drains, -⟩, still, ending, reports, ends, -⟩ := drained_then_cut_off decoder
  have ready : decoder.next = (some (.malformed (.tooLong 0)), skipping) := by decide
  have waits : skipping.next = (none, skipping) := by decide
  obtain ⟨-, last⟩ := (drains _ _).mp (.frame ready (.silent waits))
  rw [← last] at still reports ends
  refine ⟨ready, (progress _ _ ready).2, still, (ends _ _).mpr ⟨?_, rfl⟩⟩
  rcases reports with ⟨reported, -⟩ | ⟨-, padded⟩
  · exact reported.symm
  · exact absurd (padded 97 (by decide)) (by decide)

end Decoder

end Switchboard
