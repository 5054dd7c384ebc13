/-
**Decoding undoes writing, and writing undoes decoding.**

A decoder takes from a stream of blocks, written one after the other, what their lines say
(`drain_stream`). For header lists, in whatever way each is written, these are their events and
responses; and an event or a response that has come from any bytes comes again from the one block
that `Frame.render` writes for it (`drain_render`).
-/

import Switchboard.Proofs.Block.Rendering
import Switchboard.Proofs.Decoder.Arrival

namespace Switchboard

open Text Block

/-! ### What a frame holds -/

namespace Frame

/-- The headers of an event or a response. -/
def headers? : Frame → Option Headers
  | .event report => some report.headers
  | .response answer => some answer.attributes
  | _ => none

/-- The loose lines of a response. -/
def output : Frame → List String
  | .response answer => answer.output
  | _ => []

/-- The bytes of one block with the headers and the loose lines of an event or a response. -/
def render (frame : Frame) : List UInt8 :=
  match frame.headers? with
  | some headers => Utf8.bytesOf (Block.render ⟨headers, frame.output⟩)
  | none => []

theorem block_of_event {block : Block} {headers : Headers}
    (holds : (ofEventBlock block).headers? = some headers) :
    block = ⟨headers, (ofEventBlock block).output⟩ := by
  obtain ⟨found, loose⟩ := block
  unfold ofEventBlock at holds ⊢
  cases loose with
  | cons line rest => cases holds
  | nil =>
    dsimp only at holds ⊢
    unfold Event.ofHeaders? at holds ⊢
    cases named : found.getNonBlank Event.key with
    | none =>
      rw [named] at holds
      cases holds
    | some name =>
      rw [named] at holds
      cases holds
      rfl

theorem block_of_response {block : Block} {value : String} {headers : Headers}
    (holds : (ofResponseBlock block value).headers? = some headers) :
    block = ⟨headers, (ofResponseBlock block value).output⟩ := by
  unfold ofResponseBlock Response.ofHeaders? at holds ⊢
  split at holds
  · cases holds
  · cases status : block.headers.get Response.key with
    | none =>
      rw [status] at holds
      cases holds
    | some value =>
      rw [status] at holds
      cases holds
      rfl

/-- The event or the response of a block holds all of it. -/
theorem block_of_headers? {block : Block} {headers : Headers}
    (holds : (ofBlock block).headers? = some headers) :
    block = ⟨headers, (ofBlock block).output⟩ := by
  unfold ofBlock at holds ⊢
  split at holds
  · next isEvent =>
    rw [if_pos isEvent]
    exact block_of_event holds
  · next noEvent =>
    rw [if_neg noEvent]
    split at holds
    · exact block_of_response holds
    · cases holds

/-- A header list that is classified is found again in its event or its response. -/
theorem headers?_ofBlock {headers : Headers} (classified : headers.Classified) :
    (ofBlock ⟨headers, []⟩).headers? = some headers := by
  unfold ofBlock
  rcases classified with ⟨name, found, filled⟩ | ⟨noEvent, answers⟩
  · have isEvent : headers.contains Event.key = true := by
      unfold Headers.contains
      rw [found]
      rfl
    have named : headers.getNonBlank Event.key = some name := by
      unfold Headers.getNonBlank nonBlank?
      rw [found, Option.bind_some, filled]
      rfl
    rw [if_pos isEvent]
    unfold ofEventBlock Event.ofHeaders?
    dsimp only
    rw [named]
    rfl
  · obtain ⟨value, found⟩ := Option.isSome_iff_exists.mp answers
    rw [if_neg (by simp [noEvent])]
    dsimp only
    rw [found]
    unfold ofResponseBlock Response.ofHeaders?
    dsimp only
    rw [found]
    rfl

theorem headers?_ofBytes {bytes : List UInt8} {headers : Headers}
    (holds : (ofBytes bytes).headers? = some headers) :
    ∃ block : Block, block.Legible ∧ ofBytes bytes = ofBlock block ∧
      block = ⟨headers, (ofBytes bytes).output⟩ := by
  unfold ofBytes at holds ⊢
  split at holds
  · cases holds
  · next text read =>
    exact ⟨Block.ofChars text, legible_ofChars text, rfl, block_of_headers? holds⟩

end Frame

namespace Decoder

variable {decoder later : Decoder} {frame : Frame} {limit : Nat}

/-! ### A stream of blocks -/

theorem dropBlankLines_gap (gap : List Ending) (rest : List UInt8) :
    dropBlankLines (gap.flatMap Ending.bytes ++ rest) = dropBlankLines rest := by
  induction gap with
  | nil => rfl
  | cons ending more ih =>
    rw [List.flatMap_cons, List.append_assoc, dropBlankLines_lineEnd ending.bytes_mem, ih]

/-- A block behind line ends is the next frame, whatever follows it. -/
theorem next_block (gap : List Ending) {bytes : List UInt8} (begins : blankLine? bytes = none)
    (ends : blockEnd? bytes = some bytes.length) (rest : List UInt8) :
    ((new false limit).feed (gap.flatMap Ending.bytes ++ (bytes ++ rest))).next =
      (some (Frame.ofBytes bytes), (new false limit).feed rest) := by
  have ended := lf_mem_of_blockEnd? ends
  have settled : ((new false limit).feed (gap.flatMap Ending.bytes ++ (bytes ++ rest))).settled =
      (new false limit).feed (bytes ++ rest) :=
    congrArg (new false limit).feed
      ((dropBlankLines_gap gap _).trans
        (dropBlankLines_of_none (blankLine?_append_of_mem ended begins)))
  have filled : bytes ++ rest ≠ [] := List.ne_nil_of_mem (List.mem_append_left rest ended)
  rw [next_eq _ rfl, settled, nextAfterBlanks_of_idle _ filled rfl,
    nextBlock_of_some _ (blockEnd?_append ends)]
  change (some (Frame.ofBytes ((bytes ++ rest).take bytes.length)),
    (new false limit).feed ((bytes ++ rest).drop bytes.length)) = _
  rw [List.take_left, List.drop_left]

theorem next_written (gap : List Ending) {lines : List (List Char)} (closing : Ending)
    (nonempty : lines ≠ []) (stand : ∀ line ∈ lines, Line.Stands line) (rest : List UInt8) :
    ((new false limit).feed
        (gap.flatMap Ending.bytes ++ (Utf8.encode (written lines closing) ++ rest))).next =
      (some (Frame.ofBlock (Block.ofLines (lines.map Line.ofChars))),
        (new false limit).feed rest) := by
  have begins : blankLine? (Utf8.encode (written lines closing) ++ []) = none :=
    blankLine?_written nonempty stand []
  have ends : blockEnd? (Utf8.encode (written lines closing) ++ []) =
      some (Utf8.encode (written lines closing)).length := blockEnd?_written nonempty stand []
  rw [List.append_nil] at begins ends
  rw [next_block gap begins ends, Block.ofBytes_written stand]

theorem drain_gap (gap : List Ending) :
    ((new false limit).feed (gap.flatMap Ending.bytes)).drain = ([], new false limit) := by
  have settled : ((new false limit).feed (gap.flatMap Ending.bytes)).settled = new false limit := by
    have dropped := dropBlankLines_gap gap []
    rw [List.append_nil] at dropped
    exact congrArg (new false limit).feed dropped
  refine drain_of_none ?_
  rw [next_eq _ rfl, settled]
  exact nextAfterBlanks_of_nil _ rfl

theorem drain_stream (blocks : List HeaderBlock) (gap : List Ending) :
    ((new false limit).feed (HeaderBlock.stream blocks gap)).drain =
      (blocks.map fun block => Frame.ofBlock ⟨block.headers, []⟩, new false limit) := by
  induction blocks with
  | nil => exact drain_gap gap
  | cons block rest ih =>
    have first : ((new false limit).feed (HeaderBlock.stream (block :: rest) gap)).next =
        (some (Frame.ofBlock ⟨block.headers, []⟩),
          (new false limit).feed (HeaderBlock.stream rest gap)) := by
      rw [HeaderBlock.stream_cons, block.bytes_eq, ← block.ofLines_raw]
      exact next_written block.gap block.closing block.lines_ne_nil block.lines_stand _
    rw [drain_of_some first, ih, List.map_cons]

theorem fits_stream {blocks : List HeaderBlock}
    (small : ∀ block ∈ blocks, block.bytes.length ≤ limit) (gap : List Ending) :
    Fits limit (HeaderBlock.stream blocks gap) := by
  induction blocks with
  | nil =>
    have dropped := dropBlankLines_gap gap []
    rw [List.append_nil] at dropped
    refine .unclosed ?_ ?_
    · exact congrArg blockEnd? dropped
    · exact (congrArg List.length dropped).trans_le (Nat.zero_le limit)
  | cons block rest ih =>
    obtain ⟨first, others⟩ := List.forall_mem_cons.mp small
    have begins : dropBlankLines (HeaderBlock.stream (block :: rest) gap) =
        block.bytes ++ HeaderBlock.stream rest gap := by
      rw [HeaderBlock.stream_cons, dropBlankLines_gap, block.bytes_eq]
      exact dropBlankLines_of_none (blankLine?_written block.lines_ne_nil block.lines_stand _)
    have ends : blockEnd? (block.bytes ++ HeaderBlock.stream rest gap) =
        some block.bytes.length := by
      rw [block.bytes_eq]
      exact blockEnd?_written block.lines_ne_nil block.lines_stand _
    rw [← begins] at ends
    refine .closed ends first ?_
    rw [begins, List.drop_left]
    exact ih others

/-! ### Frames from any bytes -/

theorem bytes_of_fromBlock {headers : Headers} (origin : frame.FromBlock)
    (holds : frame.headers? = some headers) : ∃ bytes, frame = .ofBytes bytes := by
  cases origin with
  | bytes bytes => exact ⟨bytes, rfl⟩
  | tooLong limit => cases holds

theorem bytes_of_next {headers : Headers} (ready : decoder.next = (some frame, later))
    (holds : frame.headers? = some headers) : ∃ bytes, frame = .ofBytes bytes := by
  rcases (next_origin ready).1 with block | ⟨-, greets⟩
  · exact bytes_of_fromBlock block holds
  · cases frame with
    | banner version => cases holds
    | _ => cases greets

theorem bytes_of_mem_drain {headers : Headers} (member : frame ∈ decoder.drain.1)
    (holds : frame.headers? = some headers) : ∃ bytes, frame = .ofBytes bytes := by
  induction decoder using drain.induct with
  | case1 decoder later waits =>
    rw [drain_of_none waits] at member
    cases member
  | case2 decoder first later ready _ _ _ ih =>
    rw [drain_of_some ready] at member
    rcases List.mem_cons.mp member with rfl | member
    · exact bytes_of_next ready holds
    · exact ih member

theorem bytes_of_nextAtEnd {headers : Headers} (ready : decoder.nextAtEnd = (some frame, later))
    (holds : frame.headers? = some headers) : ∃ bytes, frame = .ofBytes bytes := by
  unfold nextAtEnd at ready
  split at ready
  · next first rest ready' =>
    cases ready
    exact bytes_of_next ready' holds
  · split at ready
    · cases ready
    · cases ready
      cases holds

theorem finish_of_none (ends : decoder.nextAtEnd = (none, later)) :
    decoder.finish = ([], later) := by
  unfold finish
  split
  · next rest ends' =>
    rw [ends] at ends'
    cases ends'
    rfl
  · next frame rest ready =>
    rw [ends] at ready
    cases ready

theorem finish_of_some (ready : decoder.nextAtEnd = (some frame, later)) :
    decoder.finish = (frame :: later.finish.1, later.finish.2) := by
  rw [finish]
  split
  · next rest ends =>
    rw [ready] at ends
    cases ends
  · next frame rest ready' =>
    rw [ready] at ready'
    cases ready'
    rfl

theorem bytes_of_mem_finish {headers : Headers} (member : frame ∈ decoder.finish.1)
    (holds : frame.headers? = some headers) : ∃ bytes, frame = .ofBytes bytes := by
  induction decoder using finish.induct with
  | case1 decoder later ends =>
    rw [finish_of_none ends] at member
    cases member
  | case2 decoder first later ready _ _ _ ih =>
    rw [finish_of_some ready] at member
    rcases List.mem_cons.mp member with rfl | member
    · exact bytes_of_nextAtEnd ready holds
    · exact ih member

/-- An event or a response comes again from the block that is written for it. -/
theorem drain_render {bytes : List UInt8} {headers : Headers}
    (holds : (Frame.ofBytes bytes).headers? = some headers) :
    ((new false limit).feed (Frame.ofBytes bytes).render).drain =
      ([Frame.ofBytes bytes], new false limit) := by
  obtain ⟨block, legible, same, whole⟩ := Frame.headers?_ofBytes holds
  have written : (Frame.ofBytes bytes).render =
      Utf8.encode (Block.written block.rawLines .crLf) := by
    unfold Frame.render
    rw [holds]
    dsimp only
    rw [← whole, Utf8.bytesOf, Block.toList_render]
  have nonempty : block.rawLines ≠ [] := by
    -- A frame without headers is neither an event nor a response.
    intro empty
    have pairs : block.headers.pairs = [] :=
      List.map_eq_nil_iff.mp (List.append_eq_nil_iff.mp empty).1
    rw [same, show block = ⟨⟨[]⟩, block.loose⟩ from pairs ▸ rfl] at holds
    cases holds
  have first : ((new false limit).feed (Frame.ofBytes bytes).render).next =
      (some (Frame.ofBlock (Block.ofLines (block.rawLines.map Line.ofChars))),
        (new false limit).feed []) := by
    rw [written, ← List.append_nil (Utf8.encode _)]
    exact next_written [] .crLf nonempty legible.stand []
  rw [legible.ofLines_rawLines, ← same] at first
  rw [drain_of_some first]
  exact congrArg (fun rest : List Frame × Decoder => (Frame.ofBytes bytes :: rest.1, rest.2))
    (drain_gap [])

/-- Header lists, in whatever way they are written, are decoded to events and responses with these
headers, and however the stream is cut. An event or a response that has come from any bytes at any
time comes again from the one block that is written for it. -/
theorem decode_undoes_writing :
    (∀ (blocks : List HeaderBlock) (gap : List Ending) (limit : Nat),
      (((new false limit).feed (HeaderBlock.stream blocks gap)).drain.1.map Frame.headers? =
          blocks.map fun block => some block.headers) ∧
        ((new false limit).feed (HeaderBlock.stream blocks gap)).drain.2 = new false limit ∧
        ∀ pieces : List (List UInt8), pieces.flatten = HeaderBlock.stream blocks gap → 0 < limit →
          (∀ block ∈ blocks, block.bytes.length ≤ limit) →
          (new false limit).receive pieces =
            ((new false limit).feed (HeaderBlock.stream blocks gap)).drain) ∧
    ∀ (decoder : Decoder) (frame : Frame) (limit : Nat),
      frame ∈ decoder.drain.1 ∨ frame ∈ decoder.finish.1 → frame.headers?.isSome = true →
        ((new false limit).feed frame.render).drain = ([frame], new false limit) := by
  refine ⟨fun blocks gap limit => ⟨?_, ?_, ?_⟩, ?_⟩
  · rw [drain_stream, List.map_map]
    exact List.map_congr_left fun block _ => Frame.headers?_ofBlock block.classified
  · rw [drain_stream]
  · intro pieces whole roomy small
    have fits : Fits limit pieces.flatten := whole ▸ fits_stream small gap
    have calm : (new false limit).Calm pieces.flatten := ⟨rfl, roomy, behindGreeting_fits fits⟩
    rw [calm.receive_new, whole]
  · intro decoder frame limit member holds
    obtain ⟨headers, holds⟩ := Option.isSome_iff_exists.mp holds
    have origin : ∃ bytes, frame = .ofBytes bytes :=
      member.elim (bytes_of_mem_drain · holds) (bytes_of_mem_finish · holds)
    obtain ⟨bytes, rfl⟩ := origin
    exact drain_render holds

/-- A hang-up with blanks around its name and both line ends. -/
def hangupBlock : HeaderBlock where
  gap := [.crLf]
  lines := [
    { pair := ("Event", "Hangup")
      tidy := ⟨by decide, by decide, by decide, by decide, by decide, by decide⟩
      before := ⟨[' ', '\t'], List.all_eq_true.mp (by decide), by decide⟩
      after := ⟨['\r'], List.all_eq_true.mp (by decide), by decide⟩
      ending := .lf },
    { pair := ("Cause-txt", "a: b")
      tidy := ⟨by decide, by decide, by decide, by decide, by decide, by decide⟩
      before := ⟨[], List.forall_mem_nil _, by decide⟩
      after := ⟨[], List.forall_mem_nil _, by decide⟩
      ending := .crLf }]
  closing := .crLf
  classified := .inl ⟨"Hangup", if_pos (sameName_refl Event.key), by decide⟩

/-- The hang-up, cut in the name of the event and in the blank line; and the output of a command,
with a carriage return inside a line. -/
theorem decode_undoes_writing_hangup_follows :
    let pieces := [Utf8.bytesOf "\r\nEvent: \tHang", Utf8.bytesOf "up\r\nCause-txt:a: b\r\n\r",
      Utf8.bytesOf "\n\n"]
    let answer : Response :=
      { succeeded := true, status := "Follows", message := none, actionId := none
        attributes := ⟨[("Response", "Follows")]⟩, output := ["  a\rb"] }
    ((new false 64).receive pieces).1.map Frame.headers? =
        [some ⟨[("Event", "Hangup"), ("Cause-txt", "a: b")]⟩] ∧
      ((new false 64).feed (Frame.response answer).render).drain =
        ([.response answer], new false 64) := by
  intro pieces answer
  obtain ⟨written, read⟩ := decode_undoes_writing
  obtain ⟨headers, -, cuts⟩ := written [hangupBlock] [.lf] 64
  refine ⟨?_, ?_⟩
  · rw [cuts pieces (by decide +kernel) (by decide) (by decide +kernel)]
    exact headers
  · let source := (new false 64).feed (Utf8.bytesOf "Response:Follows\n  a\rb\r\r\n\n")
    have ready : source.next = (some (.response answer), new false 64) := by decide +kernel
    have member : .response answer ∈ source.drain.1 := by
      rw [drain_of_some ready]
      exact List.mem_cons_self
    exact read source (.response answer) 64 (.inl member) rfl

end Decoder

end Switchboard
