/-
**After a block that is too long.**

Of a block that is thrown away the decoder keeps the last three bytes. These tell the end of the
block as well as all of it would (`blockEnd?_lastBytes`): where the blank line is cut in pieces, its
first bytes are among them, and none that was not there can come about. So nothing comes out of the
decoder before that end, and behind it the stream is decoded as by a new decoder, piece by piece
(`skipping_receive`, `resynchronizes`).
-/

import Switchboard.Proofs.Decoder.Arrival

namespace Switchboard

namespace Block

variable {first second bytes more : List UInt8} {count size : Nat}

/-! ### The last bytes of an open block -/

/-- Once a block is open and two bytes of it are known, those before them do not matter. -/
theorem blockEnd?_append_of_unclosed (unclosed : blockEnd? (first ++ second) = none)
    (known : 2 ≤ second.length) (more : List UInt8) :
    blockEnd? (first ++ (second ++ more)) =
      (blockEnd? (second ++ more)).map (first.length + ·) := by
  induction first with
  | nil => simp
  | cons byte rest ih =>
    have settled : byte = lf → blankLine? (rest ++ second) = none := by
      rintro rfl
      by_contra blank
      obtain ⟨size, closes⟩ := Option.ne_none_iff_exists'.mp blank
      rw [List.cons_append, blockEnd?_lf closes] at unclosed
      cases unclosed
    have still : byte = lf → blankLine? (rest ++ (second ++ more)) = none := by
      intro isLf
      by_contra blank
      obtain ⟨size, closes⟩ := Option.ne_none_iff_exists'.mp blank
      have short := blankLine?_le_two closes
      rw [← List.append_assoc] at closes
      have early := blankLine?_of_append closes (by rw [List.length_append]; omega)
      rw [settled isLf] at early
      cases early
    rw [List.cons_append, blockEnd?_cons settled, Option.map_eq_none_iff] at unclosed
    rw [List.cons_append, blockEnd?_cons still, ih unclosed, Option.map_map]
    congr 1
    funext size
    simp only [Function.comp_apply, List.length_cons]
    omega

theorem lastBytes_of_le (short : bytes.length ≤ count) : lastBytes count bytes = bytes := by
  rw [lastBytes, Nat.sub_eq_zero_of_le short, List.drop_zero]

theorem take_append_lastBytes (count : Nat) (bytes : List UInt8) :
    bytes.take (bytes.length - count) ++ lastBytes count bytes = bytes :=
  List.take_append_drop _ bytes

theorem lastBytes_append (enough : count ≤ second.length) (first : List UInt8) :
    lastBytes count (first ++ second) = lastBytes count second := by
  unfold lastBytes
  rw [List.length_append, Nat.add_sub_assoc enough, ← List.drop_drop, List.drop_left]

/-- What is kept of what was kept is what is kept of all. -/
theorem lastBytes_lastBytes_append (count : Nat) (bytes more : List UInt8) :
    lastBytes count (lastBytes count bytes ++ more) = lastBytes count (bytes ++ more) := by
  by_cases short : bytes.length ≤ count
  · rw [lastBytes_of_le short]
  · have enough : count ≤ (lastBytes count bytes ++ more).length := by
      have kept := length_lastBytes count bytes
      rw [List.length_append]
      omega
    conv_rhs => rw [← take_append_lastBytes count bytes, List.append_assoc]
    exact (lastBytes_append enough _).symm

/-- The last bytes of an open block tell where it will end. -/
theorem blockEnd?_lastBytes (unclosed : blockEnd? bytes = none) (known : 2 ≤ count)
    (more : List UInt8) :
    blockEnd? (bytes ++ more) =
      (blockEnd? (lastBytes count bytes ++ more)).map (bytes.length - count + ·) := by
  by_cases short : bytes.length ≤ count
  · rw [lastBytes_of_le short, Nat.sub_eq_zero_of_le short]
    simp
  · have kept : 2 ≤ (lastBytes count bytes).length := by
      rw [length_lastBytes]
      omega
    have front : (bytes.take (bytes.length - count)).length = bytes.length - count := by
      rw [List.length_take]
      omega
    rw [← take_append_lastBytes count bytes] at unclosed
    have whole := blockEnd?_append_of_unclosed unclosed kept more
    rwa [← List.append_assoc, take_append_lastBytes, front] at whole

/-- An open block ends with bytes that have yet to come. -/
theorem lt_of_unclosed (unclosed : blockEnd? bytes = none)
    (found : blockEnd? (bytes ++ more) = some size) : bytes.length < size := by
  by_contra inside
  rw [blockEnd?_of_append found (Nat.le_of_not_lt inside)] at unclosed
  cases unclosed

theorem unclosed_of_append (unclosed : blockEnd? (first ++ second) = none) :
    blockEnd? first = none := by
  by_contra closed
  obtain ⟨size, found⟩ := Option.ne_none_iff_exists'.mp closed
  rw [blockEnd?_append found] at unclosed
  cases unclosed

/-! ### Pieces of a stream -/

/-- The pieces of a stream without its first `count` bytes. A piece of which nothing is left stays,
as an empty one. -/
def dropPieces : Nat → List (List UInt8) → List (List UInt8)
  | _, [] => []
  | count, piece :: rest => piece.drop count :: dropPieces (count - piece.length) rest

theorem dropPieces_zero (pieces : List (List UInt8)) : dropPieces 0 pieces = pieces := by
  induction pieces with
  | nil => rfl
  | cons piece rest ih => rw [dropPieces, List.drop_zero, Nat.zero_sub, ih]

theorem length_dropPieces (dropped : Nat) (pieces : List (List UInt8)) :
    (dropPieces dropped pieces).length = pieces.length := by
  induction pieces generalizing dropped with
  | nil => rfl
  | cons piece rest ih => rw [dropPieces, List.length_cons, List.length_cons, ih]

theorem flatten_dropPieces (count : Nat) (pieces : List (List UInt8)) :
    (dropPieces count pieces).flatten = pieces.flatten.drop count := by
  induction pieces generalizing count with
  | nil => exact List.drop_nil.symm
  | cons piece rest ih =>
    rw [dropPieces, List.flatten_cons, List.flatten_cons, ih, List.drop_append]

end Block

open Text Block

namespace Decoder

variable {decoder later : Decoder} {limit size : Nat} {block : List UInt8}

/-! ### The rest of the block -/

/-- Behind the end of the block, the decoder goes on as if nothing had been thrown away. -/
theorem next_of_closed (discarding : decoder.discarding = true)
    (found : blockEnd? decoder.buffer = some size) :
    decoder.next =
      { decoder with discarding := false, buffer := decoder.buffer.drop size }.next := by
  unfold next
  rw [if_pos discarding, found, if_neg Bool.false_ne_true]

theorem next_of_open (discarding : decoder.discarding = true)
    (unclosed : blockEnd? decoder.buffer = none) :
    decoder.next = (none, { decoder with buffer := lastBytes 3 decoder.buffer }) := by
  unfold next
  rw [if_pos discarding, unclosed]

/-- A decoder that is throwing away a block of which `block` has come. -/
def skipping (limit : Nat) (block : List UInt8) : Decoder :=
  { bannerPending := false, discarding := true, maxBlockSize := limit, buffer := lastBytes 3 block }

/-- As long as the block is open, it is thrown away. -/
theorem skipping_next_of_unclosed {more : List UInt8}
    (unclosed : blockEnd? (block ++ more) = none) :
    ((skipping limit block).feed more).next = (none, skipping limit (block ++ more)) := by
  have still : blockEnd? (lastBytes 3 block ++ more) = none := by
    rw [blockEnd?_lastBytes (unclosed_of_append unclosed) (by decide : 2 ≤ 3)] at unclosed
    exact Option.map_eq_none_iff.mp unclosed
  rw [next_of_open rfl still]
  unfold skipping feed
  rw [lastBytes_lastBytes_append]

theorem skipping_next (limit : Nat) (unclosed : blockEnd? block = none) :
    (skipping limit block).next = (none, skipping limit block) := by
  have waits : ((skipping limit block).feed []).next = (none, skipping limit (block ++ [])) :=
    skipping_next_of_unclosed (by rwa [List.append_nil])
  rwa [feed_nil, List.append_nil] at waits

/-- Behind the end of the block, the decoder is like a new one. -/
theorem skipping_next_of_closed {more : List UInt8} (unclosed : blockEnd? block = none)
    (found : blockEnd? (block ++ more) = some size) :
    ((skipping limit block).feed more).next =
      ((new false limit).feed (more.drop (size - block.length))).next := by
  have beyond := lt_of_unclosed unclosed found
  rw [blockEnd?_lastBytes unclosed (by decide : 2 ≤ 3)] at found
  obtain ⟨kept, ends, rfl⟩ := Option.map_eq_some_iff.mp found
  have length := length_lastBytes 3 block
  have behind : (lastBytes 3 block ++ more).drop kept =
      more.drop (block.length - 3 + kept - block.length) := by
    rw [List.drop_append, List.drop_eq_nil_of_le (by omega), List.nil_append]
    congr 1
    omega
  rw [next_of_closed rfl ends]
  unfold skipping feed new
  rw [behind, List.nil_append]

theorem drain_feed_nil (greeting : Bool) (limit : Nat) :
    ((new greeting limit).feed []).drain = ([], new greeting limit) :=
  drain_of_none (new_next greeting limit)

/-- A piece of which nothing comes leaves all to the pieces behind it. -/
theorem receive_of_silent {piece : List UInt8} (silent : (decoder.feed piece).drain = ([], later))
    (rest : List (List UInt8)) : decoder.receive (piece :: rest) = later.receive rest := by
  rw [receive_cons, silent]
  rfl

/-- Nothing comes out before the block ends; behind it, the pieces are decoded as by a new
decoder. -/
theorem skipping_receive (limit : Nat) (unclosed : blockEnd? block = none)
    (pieces : List (List UInt8)) :
    match blockEnd? (block ++ pieces.flatten) with
    | none => (skipping limit block).receive pieces =
        ([], skipping limit (block ++ pieces.flatten))
    | some size => (skipping limit block).receive pieces =
        (new false limit).receive (dropPieces (size - block.length) pieces) := by
  induction pieces generalizing block with
  | nil =>
    rw [List.flatten_nil, List.append_nil, unclosed]
    rfl
  | cons piece rest ih =>
    rw [List.flatten_cons, ← List.append_assoc]
    cases found : blockEnd? (block ++ piece) with
    | none =>
      -- The block goes on behind this piece: nothing comes out, and a new decoder is fed nothing.
      have later := ih found
      rw [receive_of_silent (drain_of_none (skipping_next_of_unclosed found))]
      cases ends : blockEnd? (block ++ piece ++ rest.flatten) with
      | none =>
        rw [ends] at later
        exact later
      | some size =>
        rw [ends] at later
        have beyond := lt_of_unclosed found ends
        rw [List.length_append] at beyond
        have nothing : piece.drop (size - block.length) = [] := List.drop_eq_nil_of_le (by omega)
        have same : size - block.length - piece.length = size - (block ++ piece).length := by
          rw [List.length_append, Nat.sub_sub]
        dsimp only at later ⊢
        rw [dropPieces, nothing, same, receive_of_silent (drain_feed_nil false limit), later]
    | some size =>
      have beyond := lt_of_unclosed unclosed found
      have inside := (blockEnd?_bounds found).2
      rw [List.length_append] at inside
      have behind : size - block.length - piece.length = 0 := by omega
      rw [blockEnd?_append found]
      dsimp only
      rw [receive_cons, drain_congr (skipping_next_of_closed unclosed found), dropPieces, behind,
        dropPieces_zero, receive_cons]

/-! ### The report -/

/-- What has come of the block at the head of the buffer: behind the end of a block that is being
thrown away, and without line ends before it. -/
def headBlock (decoder : Decoder) : List UInt8 :=
  if decoder.discarding then
    match blockEnd? decoder.buffer with
    | some size => dropBlankLines (decoder.buffer.drop size)
    | none => []
  else dropBlankLines decoder.buffer

theorem ofBytes_ne_tooLong (bytes : List UInt8) :
    Frame.ofBytes bytes ≠ .malformed (.tooLong limit) := by
  unfold Frame.ofBytes Frame.ofBlock Frame.ofEventBlock Frame.ofResponseBlock
  repeat' split
  all_goals rintro ⟨⟩

theorem nextBlock_tooLong
    (reports : decoder.nextBlock = (some (.malformed (.tooLong limit)), later)) :
    limit = decoder.maxBlockSize ∧ blockEnd? decoder.buffer = none ∧
      limit < decoder.buffer.length ∧
      later = { decoder with discarding := true, buffer := lastBytes 3 decoder.buffer } := by
  unfold nextBlock at reports
  split at reports
  · have block := Option.some.inj (Prod.mk.inj reports).1
    exact absurd block (ofBytes_ne_tooLong _)
  · next unclosed =>
    split at reports
    · next long =>
      cases reports
      exact ⟨rfl, unclosed, long, rfl⟩
    · cases reports

theorem next_tooLong_of_keeping (idle : decoder.bannerPending = false)
    (keeping : decoder.discarding = false)
    (reports : decoder.next = (some (.malformed (.tooLong limit)), later)) :
    limit = decoder.maxBlockSize ∧ blockEnd? (dropBlankLines decoder.buffer) = none ∧
      limit < (dropBlankLines decoder.buffer).length ∧
      later = skipping limit (dropBlankLines decoder.buffer) := by
  rw [next_eq decoder keeping] at reports
  by_cases empty : decoder.settled.buffer = []
  · rw [nextAfterBlanks_of_nil _ empty] at reports
    cases reports
  · rw [nextAfterBlanks_of_idle _ empty idle] at reports
    obtain ⟨rfl, unclosed, long, rfl⟩ := nextBlock_tooLong reports
    refine ⟨rfl, unclosed, long, ?_⟩
    unfold skipping settled
    rw [← idle]

/-- A block is reported when more of it has come than the limit allows, and is thrown away from
there on. -/
theorem next_tooLong (idle : decoder.bannerPending = false)
    (reports : decoder.next = (some (.malformed (.tooLong limit)), later)) :
    limit = decoder.maxBlockSize ∧ blockEnd? decoder.headBlock = none ∧
      limit < decoder.headBlock.length ∧ later = skipping limit decoder.headBlock := by
  unfold headBlock
  cases discarding : decoder.discarding with
  | false => exact next_tooLong_of_keeping idle discarding reports
  | true =>
    cases found : blockEnd? decoder.buffer with
    | none =>
      rw [next_of_open discarding found] at reports
      cases reports
    | some size =>
      rw [next_of_closed discarding found] at reports
      refine next_tooLong_of_keeping ?_ ?_ reports
      · exact idle
      · rfl

/-- A block that is too long is reported once. What comes out afterwards, in whatever pieces the
stream goes on, is what a new decoder takes from the bytes behind the end of that block, piece by
piece; before that end, nothing comes out. -/
theorem resynchronizes (idle : decoder.bannerPending = false)
    (reports : decoder.next = (some (.malformed (.tooLong limit)), later))
    (pieces : List (List UInt8)) :
    limit = decoder.maxBlockSize ∧
      decoder.drain = ([.malformed (.tooLong limit)], later) ∧
      match blockEnd? (decoder.headBlock ++ pieces.flatten) with
      | none => (later.receive pieces).1 = []
      | some size =>
        let behind := dropPieces (size - decoder.headBlock.length) pieces
        behind.flatten = (decoder.headBlock ++ pieces.flatten).drop size ∧
          later.receive pieces = (new false limit).receive behind := by
  obtain ⟨same, unclosed, -, rfl⟩ := next_tooLong idle reports
  refine ⟨same, ?_, ?_⟩
  · rw [drain_of_some reports, drain_of_none (skipping_next limit unclosed)]
  · have later := skipping_receive limit unclosed pieces
    cases found : blockEnd? (decoder.headBlock ++ pieces.flatten) with
    | none =>
      rw [found] at later
      exact congrArg Prod.fst later
    | some size =>
      rw [found] at later
      have beyond := lt_of_unclosed unclosed found
      refine ⟨?_, later⟩
      rw [flatten_dropPieces, List.drop_append, List.drop_eq_nil_of_le beyond.le, List.nil_append]

/-- The blank line comes in three pieces, of which the decoder has kept the first byte. -/
theorem resynchronizes_in_blank_line :
    let decoder := (new false 12).feed (Utf8.bytesOf "Event: AlarmClear\r\n")
    let later := skipping 12 (Utf8.bytesOf "Event: AlarmClear\r\n")
    let pieces := [Utf8.bytesOf "\r", Utf8.bytesOf "\nEvent: A\r", Utf8.bytesOf "\n\r\n"]
    decoder.next = (some (.malformed (.tooLong 12)), later) ∧
      later.receive pieces =
        (new false 12).receive [[], Utf8.bytesOf "Event: A\r", Utf8.bytesOf "\n\r\n"] := by
  intro decoder later pieces
  have idle : decoder.bannerPending = false := rfl
  have reports : decoder.next = (some (.malformed (.tooLong 12)), later) := by decide +kernel
  have ends : blockEnd? (decoder.headBlock ++ pieces.flatten) = some 21 := by decide +kernel
  have behind : dropPieces (21 - decoder.headBlock.length) pieces =
      [[], Utf8.bytesOf "Event: A\r", Utf8.bytesOf "\n\r\n"] := by decide +kernel
  clear_value decoder later pieces
  have resumed := (resynchronizes idle reports pieces).2.2
  rw [ends] at resumed
  dsimp only at resumed
  rw [behind] at resumed
  exact ⟨reports, resumed.2⟩

end Decoder

end Switchboard
