/-
**Which blocks are too long.**

Whether a block is too long is decided at the ends of reads: where a read ends inside a block, and
more of the block has come than the limit allows, it is reported and thrown away (`Overruns`). A
block inside which no read ends so late is decoded, whatever its length. `BlocksRead` and
`StreamRead` say what comes out of a stream of which reads end at given places. Every decoder keeps
to that, in whatever pieces the stream comes (`reads_stream`), one that awaits a greeting if no read
ends behind too much of the first line (`FirstLineFits`).
-/

import Switchboard.Proofs.Decoder.Backlog
import Switchboard.Proofs.Decoder.RoundTrip

namespace Switchboard

open Text Block

namespace Block

variable {limit count size : Nat} {stream rest : List UInt8} {pieces : List (List UInt8)}

/-! ### The ends of reads -/

/-- Whether a read ends behind the first `count` bytes of a stream in pieces. -/
def EndsAt (pieces : List (List UInt8)) (count : Nat) : Prop :=
  ∃ read left, pieces = read ++ left ∧ read.flatten.length = count

theorem endsAt_nil : EndsAt [] count ↔ count = 0 := by
  constructor
  · rintro ⟨read, left, split, rfl⟩
    rw [(List.append_eq_nil_iff.mp split.symm).1]
    rfl
  · rintro rfl
    exact ⟨[], [], rfl, rfl⟩

theorem endsAt_cons {piece : List UInt8} :
    EndsAt (piece :: pieces) count ↔
      count = 0 ∨ ∃ more, EndsAt pieces more ∧ count = piece.length + more := by
  constructor
  · rintro ⟨read, left, split, rfl⟩
    cases read with
    | nil => exact .inl rfl
    | cons first read =>
      obtain ⟨rfl, rfl⟩ := List.cons.inj split
      refine .inr ⟨_, ⟨read, left, rfl, rfl⟩, ?_⟩
      rw [List.flatten_cons, List.length_append]
  · rintro (rfl | ⟨_, ⟨read, left, rfl, rfl⟩, rfl⟩)
    · exact ⟨[], _, rfl, rfl⟩
    · refine ⟨piece :: read, left, rfl, ?_⟩
      rw [List.flatten_cons, List.length_append]

theorem endsAt_zero (pieces : List (List UInt8)) : EndsAt pieces 0 := ⟨[], pieces, rfl, rfl⟩

theorem endsAt_first (piece : List UInt8) (pieces : List (List UInt8)) :
    EndsAt (piece :: pieces) piece.length :=
  endsAt_cons.mpr (.inr ⟨0, endsAt_zero pieces, rfl⟩)

theorem endsAt_behind {piece : List UInt8} (behind : 0 < count) :
    EndsAt (piece :: pieces) (piece.length + count) ↔ EndsAt pieces count := by
  rw [endsAt_cons]
  constructor
  · rintro (none | ⟨more, ends, same⟩)
    · omega
    · rwa [Nat.add_left_cancel same]
  · exact fun ends => .inr ⟨count, ends, rfl⟩

/-- No read ends inside the first piece. -/
theorem endsAt_head {piece : List UInt8} (ends : EndsAt (piece :: pieces) count) :
    count = 0 ∨ piece.length ≤ count := by
  refine (endsAt_cons.mp ends).imp_right ?_
  rintro ⟨more, -, rfl⟩
  exact Nat.le_add_right _ more

/-- Where a piece is only what is left of a longer one, the reads end as many bytes earlier. -/
theorem endsAt_shorter {piece left : List UInt8} (shorter : left.length ≤ piece.length)
    (pieces : List (List UInt8)) (behind : 0 < count) :
    EndsAt (left :: pieces) count ↔
      EndsAt (piece :: pieces) (piece.length - left.length + count) := by
  rw [endsAt_cons, endsAt_cons]
  constructor
  · rintro (rfl | ⟨more, ends, rfl⟩)
    · omega
    · exact .inr ⟨more, ends, by omega⟩
  · rintro (none | ⟨more, ends, same⟩)
    · omega
    · exact .inr ⟨more, ends, by omega⟩

theorem endsAt_dropPieces (dropped : Nat) (behind : 0 < count) :
    EndsAt (dropPieces dropped pieces) count ↔ EndsAt pieces (dropped + count) := by
  induction pieces generalizing dropped with
  | nil =>
    rw [dropPieces, endsAt_nil, endsAt_nil]
    omega
  | cons piece rest ih =>
    rw [dropPieces]
    by_cases inside : dropped ≤ piece.length
    · have left : (piece.drop dropped).length = piece.length - dropped := List.length_drop
      have shorter : (piece.drop dropped).length ≤ piece.length := by omega
      rw [Nat.sub_eq_zero_of_le inside, dropPieces_zero, endsAt_shorter shorter rest behind, left,
        Nat.sub_sub_self inside]
    · obtain ⟨more, rfl⟩ := Nat.exists_eq_add_of_le (Nat.le_of_not_le inside)
      have gone : piece.drop (piece.length + more) = [] := List.drop_eq_nil_of_le (by omega)
      have empty := @endsAt_behind count (dropPieces more rest) [] behind
      rw [List.length_nil, Nat.zero_add] at empty
      rw [gone, Nat.add_sub_cancel_left, empty, ih, Nat.add_assoc, endsAt_behind (by omega)]

theorem endsAt_append (front : List (List UInt8)) (behind : 0 < count) :
    EndsAt (front ++ pieces) (front.flatten.length + count) ↔ EndsAt pieces count := by
  induction front with
  | nil => rw [List.flatten_nil, List.length_nil, Nat.zero_add, List.nil_append]
  | cons piece front ih =>
    rw [List.cons_append, List.flatten_cons, List.length_append, Nat.add_assoc,
      endsAt_behind (by omega), ih]

/-- Where pieces come in one, the reads behind them end as before. -/
theorem endsAt_joined (front : List (List UInt8)) (piece : List UInt8)
    (behind : front.flatten.length < count) :
    EndsAt ((front.flatten ++ piece) :: pieces) count ↔
      EndsAt (front ++ piece :: pieces) count := by
  obtain ⟨more, rfl⟩ := Nat.exists_eq_add_of_le behind.le
  have shorter : piece.length ≤ (front.flatten ++ piece).length := by
    rw [List.length_append]
    omega
  have joined := @endsAt_shorter more _ _ shorter pieces (by omega)
  rw [List.length_append, Nat.add_sub_cancel] at joined
  rw [← joined, endsAt_append front (by omega)]

/-! ### Blocks that are too long -/

/-- What has come of the first block of a stream with its first `count` bytes. -/
def arrived (stream : List UInt8) (count : Nat) : List UInt8 := dropBlankLines (stream.take count)

/-- Whether, with the first `count` bytes of a stream, the first block is still open, and more of it
has come than the limit allows. -/
structure Overruns (limit : Nat) (stream : List UInt8) (count : Nat) : Prop where
  unclosed : blockEnd? (arrived stream count) = none
  long : limit < (arrived stream count).length

theorem not_overruns_zero (limit : Nat) (stream : List UInt8) : ¬ Overruns limit stream 0 := by
  rintro ⟨-, long⟩
  exact Nat.not_lt_zero _ long

theorem arrived_append (first second : List UInt8) (count : Nat) :
    arrived (first ++ second) (first.length + count) =
      dropBlankLines (first ++ second.take count) := by
  unfold arrived
  rw [List.take_length_add_append]

theorem arrived_left (first second : List UInt8) :
    arrived (first ++ second) first.length = dropBlankLines first := by
  have whole := arrived_append first second 0
  rwa [List.take_zero, List.append_nil] at whole

/-- Behind its end, a block does not become too long. -/
theorem not_overruns_of_closed {piece : List UInt8}
    (closed : blockEnd? (dropBlankLines piece) = some size) (behind : piece.length ≤ count)
    (more : List UInt8) : ¬ Overruns limit (piece ++ more) count := by
  rintro ⟨unclosed, -⟩
  obtain ⟨passed, rfl⟩ := Nat.exists_eq_add_of_le behind
  rw [arrived_append, dropBlankLines_append_of_mem (lf_mem_of_blockEnd? closed),
    blockEnd?_append closed] at unclosed
  cases unclosed

/-- What comes behind the line ends before the first block. -/
theorem exists_arrived (stream : List UInt8) :
    ∃ gap, stream = gap ++ dropBlankLines stream ∧
      ∀ count, arrived stream (gap.length + count) = (dropBlankLines stream).take count := by
  obtain ⟨gap, split, skips⟩ := exists_gap stream
  refine ⟨gap, split, fun count => ?_⟩
  have settled := blankLine?_take (blankLine?_dropBlankLines stream) count
  unfold arrived
  conv_lhs => rw [split]
  rw [List.take_length_add_append, skips, dropBlankLines_of_none settled]

/-- As long as the first block is open, its end is yet to come. -/
theorem lt_behind_block (closed : blockEnd? (dropBlankLines stream) = some size)
    (unclosed : blockEnd? (arrived stream count) = none) :
    count < stream.length - ((dropBlankLines stream).drop size).length := by
  obtain ⟨gap, split, here⟩ := exists_arrived stream
  have inside := (blockEnd?_bounds closed).2
  have length := congrArg List.length split
  rw [List.length_append] at length
  rw [List.length_drop]
  by_contra late
  obtain ⟨passed, rfl⟩ : ∃ passed, count = gap.length + passed :=
    Nat.exists_eq_add_of_le (by omega)
  rw [here, blockEnd?_take closed (by omega)] at unclosed
  cases unclosed

/-- The same, where the block is told by what has come of it. -/
theorem Overruns.lt_behind (overruns : Overruns limit stream count)
    (closed : blockEnd? (arrived stream count ++ stream.drop count) = some size) :
    count < stream.length - ((arrived stream count ++ stream.drop count).drop size).length := by
  have beyond := lt_of_unclosed overruns.unclosed closed
  have inside := (blockEnd?_bounds closed).2
  rw [List.length_append, List.length_drop] at inside
  rw [List.length_drop, List.length_append, List.length_drop]
  omega

end Block

namespace Decoder

variable {limit count marker size : Nat} {stream rest : List UInt8} {pieces : List (List UInt8)}
  {ends ends' : Nat → Prop} {frames : List Frame}

/-! ### What comes out of a stream -/

/-- Where reads end in what is left of a stream. -/
def endsBehind (stream rest : List UInt8) (ends : Nat → Prop) : Nat → Prop :=
  fun count => ends (stream.length - rest.length + count)

/-- The first end of a read at which the first block is found to be too long. -/
structure FirstOverrun (limit : Nat) (ends : Nat → Prop) (stream : List UInt8) (count : Nat) :
    Prop where
  ended : ends count
  overruns : Overruns limit stream count
  first : ∀ other < count, ends other → ¬ Overruns limit stream other

/-- The frames that come out of a stream that awaits no greeting, where reads end as `ends` says:
a block that no read end finds too long is decoded; one that is found too long is reported where
that happens, and is gone up to its end. -/
inductive BlocksRead (limit : Nat) : (Nat → Prop) → List UInt8 → List Frame → Prop
  | waiting {ends : Nat → Prop} {stream : List UInt8}
      (unclosed : blockEnd? (dropBlankLines stream) = none)
      (short : ∀ count, ends count → ¬ Overruns limit stream count) :
      BlocksRead limit ends stream []
  | decoded {ends : Nat → Prop} {stream : List UInt8} {size : Nat} {frames : List Frame}
      (closed : blockEnd? (dropBlankLines stream) = some size)
      (short : ∀ count, ends count → ¬ Overruns limit stream count)
      (behind : BlocksRead limit (endsBehind stream ((dropBlankLines stream).drop size) ends)
        ((dropBlankLines stream).drop size) frames) :
      BlocksRead limit ends stream (.ofBytes ((dropBlankLines stream).take size) :: frames)
  -- A read may end inside CR LF, and the LF that comes with the next is then no line end before the
  -- block. So the end of the block is looked for behind what had come of it, not in the stream.
  | refused {ends : Nat → Prop} {stream : List UInt8} {count : Nat}
      (overrun : FirstOverrun limit ends stream count)
      (unclosed : blockEnd? (arrived stream count ++ stream.drop count) = none) :
      BlocksRead limit ends stream [.malformed (.tooLong limit)]
  | discarded {ends : Nat → Prop} {stream : List UInt8} {count size : Nat} {frames : List Frame}
      (overrun : FirstOverrun limit ends stream count)
      (closed : blockEnd? (arrived stream count ++ stream.drop count) = some size)
      (behind : BlocksRead limit
        (endsBehind stream ((arrived stream count ++ stream.drop count).drop size) ends)
        ((arrived stream count ++ stream.drop count).drop size) frames) :
      BlocksRead limit ends stream (.malformed (.tooLong limit) :: frames)

theorem endsBehind_congr (same : ∀ count, marker < count → (ends count ↔ ends' count))
    (far : marker < stream.length - rest.length) :
    endsBehind stream rest ends = endsBehind stream rest ends' := by
  funext count
  exact propext (same _ (Nat.lt_add_right count far))

/-- Where the first block is open, and not too long, it does not matter where reads end. -/
theorem BlocksRead.congr (read : BlocksRead limit ends stream frames)
    (unclosed : blockEnd? (arrived stream marker) = none)
    (short : ∀ count ≤ marker, ends count ∨ ends' count → ¬ Overruns limit stream count)
    (same : ∀ count, marker < count → (ends count ↔ ends' count)) :
    BlocksRead limit ends' stream frames := by
  have seen : ∀ count, ends' count → Overruns limit stream count → ends count := by
    intro count ends overruns
    by_cases late : marker < count
    · exact (same count late).mpr ends
    · exact absurd overruns (short count (Nat.le_of_not_lt late) (.inr ends))
  have overrun {count : Nat} (first : FirstOverrun limit ends stream count) :
      marker < count ∧ FirstOverrun limit ends' stream count := by
    have late : marker < count := by
      by_contra early
      exact short count (Nat.le_of_not_lt early) (.inl first.ended) first.overruns
    refine ⟨late, (same count late).mp first.ended, first.overruns, ?_⟩
    intro other before ends overruns
    exact first.first other before (seen other ends overruns) overruns
  cases read with
  | waiting unclosed short =>
    exact .waiting unclosed fun count ends overruns =>
      short count (seen count ends overruns) overruns
  | decoded closed short behind =>
    rw [endsBehind_congr same (lt_behind_block closed unclosed)] at behind
    refine .decoded closed (fun count ends overruns => ?_) behind
    exact short count (seen count ends overruns) overruns
  | refused first unclosed => exact .refused (overrun first).2 unclosed
  | discarded first closed behind =>
    obtain ⟨late, first'⟩ := overrun first
    rw [endsBehind_congr same (late.trans (first.overruns.lt_behind closed))] at behind
    exact .discarded first' closed behind

/-- The first bytes do not tell how a stream has been read before. -/
theorem BlocksRead.congr_zero (read : BlocksRead limit ends stream frames)
    (same : ∀ count, 0 < count → (ends count ↔ ends' count)) :
    BlocksRead limit ends' stream frames := by
  have nothing : blockEnd? (arrived stream 0) = none := rfl
  refine read.congr nothing (fun count first _ => ?_) same
  rw [Nat.le_zero.mp first]
  exact not_overruns_zero limit stream

/-! ### Reading blocks -/

theorem next_closed {piece : List UInt8} (limit : Nat)
    (closed : blockEnd? (dropBlankLines piece) = some size) :
    ((new false limit).feed piece).next =
      (some (.ofBytes ((dropBlankLines piece).take size)),
        (new false limit).feed ((dropBlankLines piece).drop size)) := by
  have idle : ((new false limit).feed piece).Ungreeted := nofun
  have ready := idle.next_feed closed rfl []
  rwa [feed_nil, feed_nil] at ready

theorem next_long {piece : List UInt8} (unclosed : blockEnd? (dropBlankLines piece) = none)
    (long : limit < (dropBlankLines piece).length) :
    ((new false limit).feed piece).next =
      (some (.malformed (.tooLong limit)), skipping limit (dropBlankLines piece)) := by
  have idle : ((new false limit).feed piece).Ungreeted := nofun
  have filled : dropBlankLines piece ≠ [] := List.ne_nil_of_length_pos (Nat.zero_lt_of_lt long)
  rw [idle.next rfl filled]
  exact nextBlock_of_long _ unclosed long

theorem next_short {piece : List UInt8} (unclosed : blockEnd? (dropBlankLines piece) = none)
    (short : (dropBlankLines piece).length ≤ limit) :
    ((new false limit).feed piece).next = (none, ((new false limit).feed piece).settled) := by
  rw [next_eq _ rfl]
  by_cases empty : dropBlankLines piece = []
  · exact nextAfterBlanks_of_nil _ empty
  · rw [nextAfterBlanks_of_idle _ empty rfl]
    exact nextBlock_of_none _ unclosed short

theorem receive_of_ready {decoder later : Decoder} {frame : Frame} {piece left : List UInt8}
    (ready : (decoder.feed piece).next = (some frame, later.feed left))
    (rest : List (List UInt8)) :
    (decoder.receive (piece :: rest)).1 = frame :: (later.receive (left :: rest)).1 := by
  rw [receive_cons, drain_of_some ready, receive_cons]
  rfl

/-- Behind a block that its first piece closes, the stream goes on with what is left of that
piece. -/
theorem BlocksRead.of_closed {piece : List UInt8} {rest : List (List UInt8)}
    (closed : blockEnd? (dropBlankLines piece) = some size)
    (behind : BlocksRead limit (EndsAt ((dropBlankLines piece).drop size :: rest))
      ((dropBlankLines piece).drop size ++ rest.flatten) frames) :
    BlocksRead limit (EndsAt (piece :: rest)) (piece ++ rest.flatten)
      (.ofBytes ((dropBlankLines piece).take size) :: frames) := by
  have inside := (blockEnd?_bounds closed).2
  have whole : dropBlankLines (piece ++ rest.flatten) = dropBlankLines piece ++ rest.flatten :=
    dropBlankLines_append_of_mem (lf_mem_of_blockEnd? closed)
  have taken : (dropBlankLines (piece ++ rest.flatten)).take size =
      (dropBlankLines piece).take size := by
    rw [whole, List.take_append_of_le_length inside]
  have left : (dropBlankLines (piece ++ rest.flatten)).drop size =
      (dropBlankLines piece).drop size ++ rest.flatten := by
    rw [whole, List.drop_append_of_le_length inside]
  rw [← taken]
  refine .decoded ?_ (fun count ends => ?_) ?_
  · rw [whole]
    exact blockEnd?_append closed
  · rcases endsAt_head ends with rfl | late
    · exact not_overruns_zero limit _
    · exact not_overruns_of_closed closed late _
  · have shorter : ((dropBlankLines piece).drop size).length ≤ piece.length :=
      (List.drop_sublist _ _).length_le.trans (length_dropBlankLines_le piece)
    rw [left]
    refine behind.congr_zero fun count first => ?_
    unfold endsBehind
    rw [endsAt_shorter shorter rest first, List.length_append, List.length_append,
      Nat.add_sub_add_right]

theorem firstOverrun_of_long {piece : List UInt8}
    (unclosed : blockEnd? (dropBlankLines piece) = none)
    (long : limit < (dropBlankLines piece).length) (rest : List (List UInt8)) :
    FirstOverrun limit (EndsAt (piece :: rest)) (piece ++ rest.flatten) piece.length where
  ended := endsAt_first piece rest
  overruns := by
    constructor <;> rwa [arrived_left]
  first := by
    intro other before ends
    rcases endsAt_head ends with rfl | late
    · exact not_overruns_zero limit _
    · omega

/-- Behind a block that its first piece makes too long, the stream goes on in what is left of the
other pieces. -/
theorem BlocksRead.of_discarded {piece : List UInt8} {rest : List (List UInt8)}
    (unclosed : blockEnd? (dropBlankLines piece) = none)
    (long : limit < (dropBlankLines piece).length)
    (closed : blockEnd? (dropBlankLines piece ++ rest.flatten) = some size)
    (behind : BlocksRead limit (EndsAt (dropPieces (size - (dropBlankLines piece).length) rest))
      (dropPieces (size - (dropBlankLines piece).length) rest).flatten frames) :
    BlocksRead limit (EndsAt (piece :: rest)) (piece ++ rest.flatten)
      (.malformed (.tooLong limit) :: frames) := by
  have beyond := lt_of_unclosed unclosed closed
  have inside := (blockEnd?_bounds closed).2
  have seen : arrived (piece ++ rest.flatten) piece.length ++
      (piece ++ rest.flatten).drop piece.length = dropBlankLines piece ++ rest.flatten := by
    rw [arrived_left, List.drop_left]
  have left : (dropBlankLines piece ++ rest.flatten).drop size =
      rest.flatten.drop (size - (dropBlankLines piece).length) := by
    rw [List.drop_append, List.drop_eq_nil_of_le beyond.le, List.nil_append]
  rw [flatten_dropPieces] at behind
  refine .discarded (firstOverrun_of_long unclosed long rest) (seen.symm ▸ closed) ?_
  rw [seen, left]
  refine behind.congr_zero fun count first => ?_
  have place : (piece ++ rest.flatten).length -
      (rest.flatten.drop (size - (dropBlankLines piece).length)).length + count =
        piece.length + (size - (dropBlankLines piece).length + count) := by
    rw [List.length_append] at inside ⊢
    rw [List.length_drop]
    omega
  unfold endsBehind
  rw [endsAt_dropPieces _ first, place, endsAt_behind (by omega)]

theorem not_overruns_of_short {piece : List UInt8} (short : (dropBlankLines piece).length ≤ limit)
    (early : count = 0 ∨ count = piece.length) (more : List UInt8) :
    ¬ Overruns limit (piece ++ more) count := by
  rcases early with rfl | rfl
  · exact not_overruns_zero limit _
  · rintro ⟨-, long⟩
    rw [arrived_left] at long
    omega

/-- Where the first piece neither closes the block nor makes it too long, it may as well come with
the second. -/
theorem BlocksRead.of_short {piece second : List UInt8} {rest : List (List UInt8)}
    (unclosed : blockEnd? (dropBlankLines piece) = none)
    (short : (dropBlankLines piece).length ≤ limit)
    (read : BlocksRead limit (EndsAt ((piece ++ second) :: rest))
      (piece ++ (second ++ rest.flatten)) frames) :
    BlocksRead limit (EndsAt (piece :: second :: rest)) (piece ++ (second ++ rest.flatten))
      frames := by
  have open' : blockEnd? (arrived (piece ++ (second ++ rest.flatten)) piece.length) = none := by
    rwa [arrived_left]
  refine read.congr open' (fun count early ends => ?_) fun count late => ?_
  · refine not_overruns_of_short short ?_ _
    rcases ends with ends | ends
    · have := endsAt_head ends
      rw [List.length_append] at this
      omega
    · have := endsAt_head ends
      omega
  · have joined := @endsAt_joined count rest [piece] second
    rw [List.flatten_singleton] at joined
    exact joined late

theorem receive_short {piece : List UInt8} (unclosed : blockEnd? (dropBlankLines piece) = none)
    (short : (dropBlankLines piece).length ≤ limit) (second : List UInt8)
    (rest : List (List UInt8)) :
    (new false limit).receive (piece :: second :: rest) =
      (new false limit).receive ((piece ++ second) :: rest) := by
  have same := @next_settled_feed ((new false limit).feed piece) rfl second
  rw [feed_feed] at same
  rw [receive_of_silent (drain_of_none (next_short unclosed short)), receive_cons, receive_cons,
    drain_congr same]

/-- Where all that has come neither closes the block nor makes it too long, nothing comes out. -/
theorem blocksRead_waiting {piece : List UInt8} (unclosed : blockEnd? (dropBlankLines piece) = none)
    (short : (dropBlankLines piece).length ≤ limit) :
    BlocksRead limit (EndsAt [piece]) piece ((new false limit).receive [piece]).1 := by
  rw [receive_of_silent (drain_of_none (next_short unclosed short))]
  refine .waiting unclosed fun count ends => ?_
  have here := @not_overruns_of_short limit count piece short ?_ []
  · rwa [List.append_nil] at here
  · refine (endsAt_cons.mp ends).imp_right ?_
    rintro ⟨more, nothing, rfl⟩
    rw [endsAt_nil.mp nothing, Nat.add_zero]

/-- A block that its first piece makes too long is reported; behind its end, the other pieces are
read as their own stream. -/
theorem blocksRead_long {piece : List UInt8} {rest : List (List UInt8)}
    (unclosed : blockEnd? (dropBlankLines piece) = none)
    (long : limit < (dropBlankLines piece).length)
    (behind : ∀ dropped, BlocksRead limit (EndsAt (dropPieces dropped rest))
      (dropPieces dropped rest).flatten ((new false limit).receive (dropPieces dropped rest)).1) :
    BlocksRead limit (EndsAt (piece :: rest)) (piece ++ rest.flatten)
      ((new false limit).receive (piece :: rest)).1 := by
  have later := skipping_receive limit unclosed rest
  have reported : ((new false limit).feed piece).drain =
      ([.malformed (.tooLong limit)], skipping limit (dropBlankLines piece)) := by
    rw [drain_of_some (next_long unclosed long), drain_of_none (skipping_next limit unclosed)]
  rw [receive_cons, reported]
  cases ends : blockEnd? (dropBlankLines piece ++ rest.flatten) with
  | none =>
    rw [ends] at later
    dsimp only at later ⊢
    rw [later]
    refine .refused (firstOverrun_of_long unclosed long rest) ?_
    rwa [arrived_left, List.drop_left]
  | some size =>
    rw [ends] at later
    dsimp only at later ⊢
    rw [later]
    exact .of_discarded unclosed long ends (behind _)

/-- What comes out of a stream that awaits no greeting, in whatever pieces it comes. -/
theorem blocksRead_receive (limit : Nat) (pieces : List (List UInt8)) :
    BlocksRead limit (EndsAt pieces) pieces.flatten ((new false limit).receive pieces).1 := by
  -- Each step reads bytes, or makes one piece of two.
  induction size : pieces.flatten.length + pieces.length using Nat.strong_induction_on
    generalizing pieces with
  | _ _ ih =>
    subst size
    cases pieces with
    | nil =>
      refine .waiting rfl fun count ends => ?_
      rw [endsAt_nil.mp ends]
      exact not_overruns_zero limit []
    | cons piece rest =>
      rw [List.flatten_cons] at ih ⊢
      cases closed : blockEnd? (dropBlankLines piece) with
      | some size =>
        have bounds := blockEnd?_bounds closed
        have settled := length_dropBlankLines_le piece
        have behind := ih _ ?_ ((dropBlankLines piece).drop size :: rest) rfl
        · rw [receive_of_ready (next_closed limit closed)]
          exact .of_closed closed behind
        · simp only [List.flatten_cons, List.length_append, List.length_drop, List.length_cons]
          omega
      | none =>
        by_cases short : (dropBlankLines piece).length ≤ limit
        · cases rest with
          | nil =>
            rw [List.flatten_nil, List.append_nil]
            exact blocksRead_waiting closed short
          | cons second rest =>
            have joined := ih _ ?_ ((piece ++ second) :: rest) rfl
            · rw [receive_short closed short]
              rw [List.flatten_cons, List.append_assoc] at joined
              exact .of_short closed short joined
            · simp only [List.flatten_cons, List.length_append, List.length_cons]
              omega
        · refine blocksRead_long closed (Nat.lt_of_not_le short) fun dropped => ih _ ?_ _ rfl
          rw [flatten_dropPieces, length_dropPieces]
          simp only [List.length_append, List.length_drop, List.length_cons]
          omega

/-! ### The greeting -/

/-- Whether a stream begins with a greeting. -/
def Greeted (stream : List UInt8) : Prop :=
  lf ∈ dropBlankLines stream ∧ bannerVersion? (firstLine (dropBlankLines stream)) ≠ none

/-- Whether no read ends inside the first line of a stream, where more of it has come than the limit
allows. -/
def FirstLineFits (limit : Nat) (ends : Nat → Prop) (stream : List UInt8) : Prop :=
  ∀ count, ends count → lf ∉ arrived stream count → (arrived stream count).length ≤ limit

/-- The frames that come out of a stream, where reads end as `ends` says: those of its blocks, behind
the greeting if one is awaited and there. -/
inductive StreamRead (limit : Nat) (ends : Nat → Prop) (stream : List UInt8) :
    Bool → List Frame → Prop
  | blocks {greeting : Bool} {frames : List Frame} (ungreeted : greeting = true → ¬ Greeted stream)
      (read : BlocksRead limit ends stream frames) : StreamRead limit ends stream greeting frames
  | greeting {version : String} {frames : List Frame} (ended : lf ∈ dropBlankLines stream)
      (named : bannerVersion? (firstLine (dropBlankLines stream)) = some version)
      (behind : BlocksRead limit (endsBehind stream (behindFirstLine (dropBlankLines stream)) ends)
        (behindFirstLine (dropBlankLines stream)) frames) :
      StreamRead limit ends stream true (.banner version :: frames)

theorem blockEnd?_of_not_mem {bytes : List UInt8} (unended : lf ∉ bytes) :
    blockEnd? bytes = none := by
  cases closed : blockEnd? bytes with
  | none => rfl
  | some size => exact absurd (lf_mem_of_blockEnd? closed) unended

/-- A first line that has not ended, and of which no read ends behind too much, is no block yet. -/
theorem blocksRead_unended (unended : lf ∉ dropBlankLines stream)
    (fits : FirstLineFits limit ends stream) : BlocksRead limit ends stream [] := by
  refine .waiting (blockEnd?_of_not_mem unended) fun count ended overruns => ?_
  rw [← List.take_append_drop count stream] at unended
  exact absurd overruns.long (Nat.not_lt.mpr (fits count ended (unended_of_append unended)))

/-- The pieces up to the first line feed may as well come in one, if no read ends behind too much of
the first line. -/
theorem blocksRead_first_line {front : List (List UInt8)} {piece : List UInt8}
    {rest : List (List UInt8)} (unended : lf ∉ dropBlankLines front.flatten)
    (filled : 0 < piece.length)
    (fits : FirstLineFits limit (EndsAt (front ++ piece :: rest))
      (front.flatten ++ piece ++ rest.flatten))
    (read : BlocksRead limit (EndsAt ((front.flatten ++ piece) :: rest))
      (front.flatten ++ piece ++ rest.flatten) frames) :
    BlocksRead limit (EndsAt (front ++ piece :: rest)) (front.flatten ++ piece ++ rest.flatten)
      frames := by
  have here : arrived (front.flatten ++ piece ++ rest.flatten) front.flatten.length =
      dropBlankLines front.flatten := by rw [List.append_assoc, arrived_left]
  have still (count : Nat) (early : count ≤ front.flatten.length) :
      lf ∉ arrived (front.flatten ++ piece ++ rest.flatten) count := by
    rw [← List.take_append_drop count front.flatten] at unended
    unfold arrived
    rw [List.append_assoc, List.take_append_of_le_length early]
    exact unended_of_append unended
  refine read.congr (here ▸ blockEnd?_of_not_mem unended) (fun count early ends => ?_)
    fun count late => endsAt_joined front piece late
  rcases ends with ends | ends
  · have first : count = 0 := by
      refine (endsAt_head ends).resolve_right fun late => ?_
      rw [List.length_append] at late
      omega
    rw [first]
    exact not_overruns_zero limit _
  · exact fun overruns =>
      absurd overruns.long (Nat.not_lt.mpr (fits count ends (still count early)))

/-- Behind the first line, the line feed has come. -/
theorem lf_mem_arrived (ended : lf ∈ dropBlankLines stream)
    (late : stream.length - (behindFirstLine (dropBlankLines stream)).length ≤ count) :
    lf ∈ arrived stream count := by
  obtain ⟨gap, split, here⟩ := exists_arrived stream
  obtain ⟨line, rest, parts, unended⟩ := List.eq_append_cons_of_mem ended
  have length := congrArg List.length split
  rw [parts, List.length_append, List.length_append, List.length_cons] at length
  rw [parts, (split_firstLine unended rest).2] at late
  obtain ⟨passed, rfl⟩ : ∃ passed, count = gap.length + (line.length + (passed + 1)) :=
    ⟨count - (gap.length + (line.length + 1)), by omega⟩
  rw [here, parts, List.take_length_add_append, List.take_succ_cons]
  exact List.mem_append_right _ List.mem_cons_self

theorem behindFirstLine_suffix (bytes : List UInt8) : behindFirstLine bytes <:+ bytes :=
  (List.tail_suffix _).trans (List.dropWhile_suffix _)

/-- A first line that is no greeting is read as if none had been awaited. -/
theorem receive_of_ungreeted {first : List UInt8} (ended : lf ∈ dropBlankLines first)
    (ungreeted : ((new true limit).feed first).Ungreeted) (rest : List (List UInt8)) :
    (new true limit).receive (first :: rest) = (new false limit).receive (first :: rest) := by
  have awaits := ungreeted.next_leaving_feed rfl ended []
  have settled := @next_settled_feed ((new false limit).feed first) rfl []
  rw [feed_nil, feed_nil] at awaits settled
  have same : ((new true limit).feed first).next = ((new false limit).feed first).next :=
    awaits.symm.trans settled
  rw [receive_cons, receive_cons, drain_congr same]

/-- The blocks behind a greeting, where the pieces up to the first line feed come in one. -/
theorem blocksRead_greeted {front : List (List UInt8)} {piece : List UInt8}
    {rest : List (List UInt8)} (unended : lf ∉ dropBlankLines front.flatten)
    (ended : lf ∈ dropBlankLines (front.flatten ++ piece)) :
    let stream := front.flatten ++ piece ++ rest.flatten
    let left := behindFirstLine (dropBlankLines (front.flatten ++ piece))
    behindFirstLine (dropBlankLines stream) = left ++ rest.flatten ∧
      BlocksRead limit (endsBehind stream (left ++ rest.flatten) (EndsAt (front ++ piece :: rest)))
        (left ++ rest.flatten) ((new false limit).receive (left :: rest)).1 := by
  intro stream left
  have whole : dropBlankLines stream = dropBlankLines (front.flatten ++ piece) ++ rest.flatten :=
    dropBlankLines_append_of_mem ended
  have behind : behindFirstLine (dropBlankLines stream) = left ++ rest.flatten := by
    rw [whole]
    exact (firstLine_append ended rest.flatten).2
  refine ⟨behind, ?_⟩
  have shorter : left.length ≤ (front.flatten ++ piece).length :=
    (behindFirstLine_suffix _).length_le.trans (length_dropBlankLines_le _)
  have place : stream.length - (left ++ rest.flatten).length =
      (front.flatten ++ piece).length - left.length := by
    have far : stream.length = (front.flatten ++ piece).length + rest.flatten.length :=
      List.length_append
    rw [far, @List.length_append _ left, Nat.add_sub_add_right]
  -- the first line feed stands in the last of the pieces that are joined
  have late : front.flatten.length < (front.flatten ++ piece).length - left.length := by
    by_contra early
    have seen := lf_mem_arrived ended (le_refl ((front.flatten ++ piece).length - left.length))
    unfold arrived at seen
    rw [List.take_append_of_le_length (Nat.le_of_not_lt early)] at seen
    rw [← List.take_append_drop ((front.flatten ++ piece).length - left.length) front.flatten]
      at unended
    exact unended_of_append unended seen
  have read := blocksRead_receive limit (left :: rest)
  rw [List.flatten_cons] at read
  refine read.congr_zero fun count first => ?_
  unfold endsBehind
  rw [place, endsAt_shorter shorter rest first]
  exact endsAt_joined front piece (by omega)

theorem streamRead_receive (greeting : Bool) (limit : Nat) (pieces : List (List UInt8))
    (inTime : greeting = true → FirstLineFits limit (EndsAt pieces) pieces.flatten) :
    StreamRead limit (EndsAt pieces) pieces.flatten greeting
      ((new greeting limit).receive pieces).1 := by
  cases greeting with
  | false => exact .blocks nofun (blocksRead_receive limit pieces)
  | true =>
    by_cases ended : lf ∈ dropBlankLines pieces.flatten
    · obtain ⟨front, piece, rest, rfl, unended, ended'⟩ :=
        @exists_first_line [] pieces (by decide) ended
      rw [List.nil_append] at unended ended'
      have stream : (front ++ piece :: rest).flatten = front.flatten ++ piece ++ rest.flatten := by
        rw [List.flatten_append, List.flatten_cons, List.append_assoc]
      rw [stream] at ended inTime ⊢
      rw [receive_first_line unended]
      have line : firstLine (dropBlankLines (front.flatten ++ piece ++ rest.flatten)) =
          firstLine (dropBlankLines (front.flatten ++ piece)) := by
        rw [dropBlankLines_append_of_mem ended']
        exact (firstLine_append ended' rest.flatten).1
      rcases @greets_or_ungreeted ((new true limit).feed (front.flatten ++ piece)) fun _ => ended'
        with ⟨version, greets⟩ | ungreeted
      · obtain ⟨behind, read⟩ := @blocksRead_greeted limit front piece rest unended ended'
        rw [← behind] at read
        have ready : ((new true limit).feed (front.flatten ++ piece)).next =
            (some (.banner version), (new false limit).feed
              (behindFirstLine (dropBlankLines (front.flatten ++ piece)))) := greets.next rfl
        rw [receive_of_ready ready rest]
        exact .greeting ended (line.symm ▸ greets.named) read
      · have unnamed : ¬ Greeted (front.flatten ++ piece ++ rest.flatten) := fun greeted =>
          greeted.2 (line.symm ▸ (ungreeted rfl).2)
        have filled : 0 < piece.length := by
          rw [List.length_pos_iff]
          rintro rfl
          rw [List.append_nil] at ended'
          exact unended ended'
        rw [receive_of_ungreeted ended' ungreeted rest]
        refine .blocks (fun _ => unnamed)
          (blocksRead_first_line unended filled (inTime rfl) ?_)
        exact blocksRead_receive limit ((front.flatten ++ piece) :: rest)
    · have unnamed : ¬ Greeted pieces.flatten := fun greeted => ended greeted.1
      rw [receive_awaiting limit ended]
      exact .blocks (fun _ => unnamed) (blocksRead_unended ended (inTime rfl))

/-! ### Events and responses -/

/-- Whether a frame is of a block of the stream inside which no read ends behind more bytes than the
limit allows. -/
def DecodedInTime (limit : Nat) (ends : Nat → Prop) (stream : List UInt8) (frame : Frame) : Prop :=
  ∃ before block behind, stream = before ++ block ++ behind ∧ frame = .ofBytes block ∧
    blockEnd? block = some block.length ∧
    ∀ count, ends count →
      count ≤ before.length + limit ∨ before.length + block.length ≤ count

/-- What is decoded in time behind the first bytes of a stream is decoded in time. -/
theorem DecodedInTime.of_behind {frame : Frame} (suffix : rest <:+ stream)
    (inTime : DecodedInTime limit (endsBehind stream rest ends) rest frame) :
    DecodedInTime limit ends stream frame := by
  obtain ⟨front, rfl⟩ := suffix
  obtain ⟨before, block, behind, rfl, spells, closed, short⟩ := inTime
  refine ⟨front ++ before, block, behind, ?_, spells, closed, fun count ended => ?_⟩
  · simp only [List.append_assoc]
  · rw [List.length_append]
    by_cases early : count < front.length
    · omega
    · obtain ⟨passed, rfl⟩ := Nat.exists_eq_add_of_le (Nat.le_of_not_lt early)
      have counted : endsBehind (front ++ (before ++ block ++ behind)) (before ++ block ++ behind)
          ends passed := by
        unfold endsBehind
        rwa [List.length_append, Nat.add_sub_cancel]
      have inside := short passed counted
      omega

/-- The first block of a stream is decoded in time if no read end finds it too long. -/
theorem decodedInTime_first (closed : blockEnd? (dropBlankLines stream) = some size)
    (short : ∀ count, ends count → ¬ Overruns limit stream count) :
    DecodedInTime limit ends stream (.ofBytes ((dropBlankLines stream).take size)) := by
  obtain ⟨gap, split, here⟩ := exists_arrived stream
  have inside := (blockEnd?_bounds closed).2
  have length : ((dropBlankLines stream).take size).length = size := List.length_take_of_le inside
  refine ⟨gap, _, (dropBlankLines stream).drop size, ?_, rfl, ?_, fun count ended => ?_⟩
  · rw [List.append_assoc, List.take_append_drop]
    exact split
  · rw [length]
    exact blockEnd?_take closed le_rfl
  · rw [length]
    by_contra late
    rw [not_or, Nat.not_le, Nat.not_le] at late
    obtain ⟨passed, rfl⟩ : ∃ passed, count = gap.length + passed :=
      Nat.exists_eq_add_of_le (by omega)
    refine short _ ended ⟨?_, ?_⟩
    · rw [here]
      exact blockEnd?_take_of_lt closed (by omega)
    · rw [here, List.length_take]
      omega

/-- Events and responses are of blocks that no read end finds too long. -/
theorem BlocksRead.decodedInTime (read : BlocksRead limit ends stream frames) :
    ∀ frame ∈ frames, frame.headers?.isSome = true → DecodedInTime limit ends stream frame := by
  induction read with
  | waiting unclosed short => nofun
  | decoded closed short behind ih =>
    rw [List.forall_mem_cons]
    refine ⟨fun _ => decodedInTime_first closed short, fun frame member holds => ?_⟩
    exact (ih frame member holds).of_behind
      ((List.drop_suffix _ _).trans (dropBlankLines_suffix _))
  | refused overrun unclosed =>
    rw [List.forall_mem_singleton]
    nofun
  | discarded overrun closed behind ih =>
    rw [List.forall_mem_cons]
    refine ⟨nofun, fun frame member holds => (ih frame member holds).of_behind ?_⟩
    have beyond := lt_of_unclosed overrun.overruns.unclosed closed
    rw [List.drop_append, List.drop_eq_nil_of_le beyond.le, List.nil_append]
    exact (List.drop_suffix _ _).trans (List.drop_suffix _ _)

theorem StreamRead.decodedInTime {greeting : Bool}
    (read : StreamRead limit ends stream greeting frames) :
    ∀ frame ∈ frames, frame.headers?.isSome = true → DecodedInTime limit ends stream frame := by
  cases read with
  | blocks _ read => exact read.decodedInTime
  | greeting ended named behind =>
    rw [List.forall_mem_cons]
    refine ⟨nofun, fun frame member holds => ?_⟩
    exact (behind.decodedInTime frame member holds).of_behind
      ((behindFirstLine_suffix _).trans (dropBlankLines_suffix stream))

/-- In whatever pieces a stream comes, what comes out is told by where reads end in it: a block is
reported as too long exactly where a read end finds it so, and then gives nothing else; every other
block is decoded. So an event or a response is of a block inside which no read ends behind more
bytes than the limit allows. Where a greeting is awaited, no read may end inside the first line
behind more of it than the limit allows. -/
theorem reads_stream (greeting : Bool) (limit : Nat) (pieces : List (List UInt8))
    (inTime : greeting = true → FirstLineFits limit (EndsAt pieces) pieces.flatten) :
    StreamRead limit (EndsAt pieces) pieces.flatten greeting
        ((new greeting limit).receive pieces).1 ∧
      ∀ frame ∈ ((new greeting limit).receive pieces).1, frame.headers?.isSome = true →
        DecodedInTime limit (EndsAt pieces) pieces.flatten frame := by
  have read := streamRead_receive greeting limit pieces inTime
  exact ⟨read, read.decodedInTime⟩

/-- An event that is decoded, though its block is too long, and one that is reported, because a read
ends inside its block. A greeting is awaited, and does not come. -/
theorem reads_stream_cut :
    let hangup := Utf8.bytesOf "Event: Hangup\r\n\r\n"
    let pieces := [hangup ++ Utf8.bytesOf "Event: Dial", Utf8.bytesOf "End\r\n\r\n"]
    FirstLineFits 8 (EndsAt pieces) pieces.flatten ∧
      ((new true 8).receive pieces).1 = [.ofBytes hangup, .malformed (.tooLong 8)] ∧
      (Frame.ofBytes hangup).headers?.isSome = true ∧
      DecodedInTime 8 (EndsAt pieces) pieces.flatten (.ofBytes hangup) := by
  intro hangup pieces
  have first : ((new true 8).feed (hangup ++ Utf8.bytesOf "Event: Dial")).next =
      (some (.ofBytes hangup), (new false 8).feed (Utf8.bytesOf "Event: Dial")) := by decide +kernel
  have second : ((new false 8).feed (Utf8.bytesOf "Event: Dial")).next =
      (some (.malformed (.tooLong 8)), skipping 8 (Utf8.bytesOf "Event: Dial")) := by decide +kernel
  have third : (skipping 8 (Utf8.bytesOf "Event: Dial")).next =
      (none, skipping 8 (Utf8.bytesOf "Event: Dial")) := by decide +kernel
  have last : ((skipping 8 (Utf8.bytesOf "Event: Dial")).feed (Utf8.bytesOf "End\r\n\r\n")).next =
      (none, new false 8) := by decide +kernel
  have holds : (Frame.ofBytes hangup).headers?.isSome = true := by decide +kernel
  have frames : ((new true 8).receive pieces).1 = [.ofBytes hangup, .malformed (.tooLong 8)] := by
    rw [receive_cons, drain_of_some first, drain_of_some second, drain_of_none third, receive_cons,
      drain_of_none last]
    rfl
  have ended : lf ∈ dropBlankLines (hangup ++ Utf8.bytesOf "Event: Dial") := by decide +kernel
  have fits : FirstLineFits 8 (EndsAt pieces) pieces.flatten := by
    intro count ends unended
    rcases endsAt_head ends with rfl | late
    · exact Nat.zero_le 8
    · -- the first read ends behind the first line feed
      obtain ⟨passed, rfl⟩ := Nat.exists_eq_add_of_le late
      rw [List.flatten_cons, arrived_append, dropBlankLines_append_of_mem ended] at unended
      exact absurd (List.mem_append_left _ ended) unended
  clear_value hangup pieces
  refine ⟨fits, frames, holds, (reads_stream true 8 pieces fun _ => fits).2 _ ?_ holds⟩
  rw [frames]
  exact List.mem_cons_self

/-- A decoder that allows blocks of eight bytes decodes an event of thirteen, which comes in one
read with the four of its blank line. -/
theorem reads_long_block :
    let block := Utf8.bytesOf "Event: Hangup\r\n\r\n"
    blockEnd? block = some block.length ∧ 8 < block.length - 4 ∧
      ((new false 8).receive [block]).1 = [.ofBytes block] ∧
      (Frame.ofBytes block).headers?.isSome = true := by
  intro block
  have ready : ((new false 8).feed block).next = (some (.ofBytes block), new false 8) := by
    decide +kernel
  refine ⟨by decide +kernel, by decide +kernel, ?_, by decide +kernel⟩
  rw [receive_cons, drain_of_some ready, drain_of_none (new_next false 8)]
  rfl

end Decoder

end Switchboard
