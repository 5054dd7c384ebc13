/-
**The frames do not depend on how the bytes arrive.**

Every frame is decided by the bytes at the head of the stream: more bytes do not change it
(`Calm.next_some`), and a decoder that waits has kept all that matters (`Calm.next_none`). So a
stream that arrives in pieces is decoded like the whole (`Calm.receive_eq_drain`), and like the same
stream in other pieces (`receive_independent_of_cuts`), as long as no block exceeds the limit
(`Fits`). The limit is the one thing that depends on the pieces: a block that is too long may be
reported before its end has come.
-/

import Mathlib.Data.List.TakeWhile
import Switchboard.Decoder
import Switchboard.Proofs.Block.Boundary

namespace Switchboard

namespace Block

/-! ### Streams without long blocks -/

/-- Whether no block of a stream, without the line ends before it, has more than `limit` bytes, nor
has what stands behind the last blank line. -/
inductive Fits (limit : Nat) : List UInt8 → Prop
  | closed {bytes : List UInt8} {size : Nat} (found : blockEnd? (dropBlankLines bytes) = some size)
      (small : size ≤ limit) (rest : Fits limit ((dropBlankLines bytes).drop size)) :
      Fits limit bytes
  | unclosed {bytes : List UInt8} (none : blockEnd? (dropBlankLines bytes) = none)
      (small : (dropBlankLines bytes).length ≤ limit) : Fits limit bytes

variable {limit : Nat} {bytes more : List UInt8}

theorem fits_dropBlankLines : Fits limit (dropBlankLines bytes) ↔ Fits limit bytes := by
  constructor
  · rintro (⟨found, small, rest⟩ | ⟨none, small⟩)
    · rw [dropBlankLines_idem] at found rest
      exact .closed found small rest
    · rw [dropBlankLines_idem] at none small
      exact .unclosed none small
  · rintro (⟨found, small, rest⟩ | ⟨none, small⟩)
    · rw [← dropBlankLines_idem] at found rest
      exact .closed found small rest
    · rw [← dropBlankLines_idem] at none small
      exact .unclosed none small

/-- What has come of a block that is not closed yet is no longer than the block may be. -/
theorem Fits.length_le (fits : Fits limit (bytes ++ more)) (roomy : 0 < limit)
    (settled : blankLine? bytes = none) (none : blockEnd? bytes = none) : bytes.length ≤ limit := by
  cases blank : blankLine? (bytes ++ more) with
  | some size =>
    -- The bytes are the first half of a line end, so there is one at most.
    have small := blankLine?_le_two blank
    by_contra long
    rw [blankLine?_of_append blank (by omega)] at settled
    cases settled
  | none =>
    have all : dropBlankLines (bytes ++ more) = bytes ++ more := dropBlankLines_of_none blank
    cases fits with
    | closed found small rest =>
      rw [all] at found
      by_contra long
      rw [blockEnd?_of_append found (by omega)] at none
      cases none
    | unclosed still small =>
      rw [all, List.length_append] at small
      omega

/-- Behind a block the stream fits as well. -/
theorem Fits.drop {size : Nat} (fits : Fits limit (bytes ++ more))
    (settled : blankLine? bytes = none) (found : blockEnd? bytes = some size) :
    Fits limit (bytes.drop size ++ more) := by
  have all : dropBlankLines (bytes ++ more) = bytes ++ more :=
    dropBlankLines_of_none (blankLine?_append_of_mem (lf_mem_of_blockEnd? found) settled)
  have ends : blockEnd? (bytes ++ more) = some size := blockEnd?_append found
  have inside := (blockEnd?_bounds found).2
  cases fits with
  | closed found' small rest =>
    rw [all, ends] at found'
    rw [← Option.some.inj found', all, List.drop_append_of_le_length inside] at rest
    exact rest
  | unclosed none small =>
    rw [all, ends] at none
    cases none

/-- The line that a stream begins with, unless it is empty, makes no block longer. -/
theorem Fits.behind_line {line : List UInt8} (fits : Fits limit (line ++ lf :: bytes))
    (settled : blankLine? (line ++ lf :: bytes) = none) (unended : lf ∉ line) :
    Fits limit bytes := by
  have all := dropBlankLines_of_none settled
  have ends := blockEnd?_append_of_not_mem unended (lf :: bytes)
  cases blank : blankLine? bytes with
  | some size =>
    obtain ⟨ending, isEnd, rest, rfl, rfl⟩ := lineEnd_of_blankLine? blank
    rw [blockEnd?_lf blank, Option.map_some] at ends
    have behind : (line ++ lf :: (ending ++ rest)).drop (line.length + (1 + ending.length)) =
        rest := by
      rw [← List.drop_drop, List.drop_left, Nat.add_comm 1, List.drop_succ_cons, List.drop_left]
    cases fits with
    | closed found small later =>
      rw [all, ends] at found
      rw [← Option.some.inj found, all, behind] at later
      rw [← fits_dropBlankLines, dropBlankLines_lineEnd isEnd, fits_dropBlankLines]
      exact later
    | unclosed none small =>
      rw [all, ends] at none
      cases none
  | none =>
    have kept := dropBlankLines_of_none blank
    rw [blockEnd?_cons fun _ => blank, Option.map_map] at ends
    cases fits with
    | closed found small later =>
      rw [all, ends] at found
      obtain ⟨size, found', rfl⟩ := Option.map_eq_some_iff.mp found
      have behind : (line ++ lf :: bytes).drop (line.length + (1 + size)) = bytes.drop size := by
        rw [← List.drop_drop, List.drop_left, Nat.add_comm 1, List.drop_succ_cons]
      refine .closed (kept.symm ▸ found') ?_ ?_
      · simp only [Function.comp_apply] at small
        omega
      · rw [kept, ← behind, ← all]
        exact later
    | unclosed none small =>
      rw [all, ends] at none
      refine .unclosed (kept.symm ▸ Option.map_eq_none_iff.mp none) ?_
      rw [all, List.length_append, List.length_cons] at small
      rw [kept]
      omega

end Block

open Text Block

/-- Whether a frame is a greeting. -/
def Frame.isBanner : Frame → Bool
  | .banner _ => true
  | _ => false

/-- Whether a frame is what a decoder makes of a block, or of one that is too long. -/
inductive Frame.FromBlock : Frame → Prop
  | bytes (bytes : List UInt8) : FromBlock (.ofBytes bytes)
  | tooLong (limit : Nat) : FromBlock (.malformed (.tooLong limit))

theorem Frame.FromBlock.isBanner_eq {frame : Frame} (block : frame.FromBlock) :
    frame.isBanner = false := by
  cases block with
  | bytes bytes =>
    unfold Frame.ofBytes Frame.ofBlock Frame.ofEventBlock Frame.ofResponseBlock
    repeat' split
    all_goals rfl
  | tooLong limit => rfl

namespace Decoder

/-! ### The first line -/

/-- The bytes up to the first line feed. -/
def firstLine (bytes : List UInt8) : List UInt8 :=
  bytes.takeWhile (· != lf)

/-- The bytes behind the first line feed. -/
def behindFirstLine (bytes : List UInt8) : List UInt8 :=
  (bytes.dropWhile (· != lf)).tail

theorem ne_lf_of_unended {line : List UInt8} (unended : lf ∉ line) :
    ∀ byte ∈ line, (byte != lf) = true := by
  intro byte member
  rw [bne_iff_ne]
  rintro rfl
  exact unended member

theorem split_firstLine {line : List UInt8} (unended : lf ∉ line) (rest : List UInt8) :
    firstLine (line ++ lf :: rest) = line ∧ behindFirstLine (line ++ lf :: rest) = rest := by
  have inside := ne_lf_of_unended unended
  unfold firstLine behindFirstLine
  rw [List.takeWhile_append_of_pos inside, List.dropWhile_append_of_pos inside]
  exact ⟨List.append_nil line, rfl⟩

theorem firstLine_append {bytes : List UInt8} (ended : lf ∈ bytes) (more : List UInt8) :
    firstLine (bytes ++ more) = firstLine bytes ∧
      behindFirstLine (bytes ++ more) = behindFirstLine bytes ++ more := by
  obtain ⟨line, rest, rfl, unended⟩ := List.eq_append_cons_of_mem ended
  rw [List.append_assoc, List.cons_append, (split_firstLine unended rest).1,
    (split_firstLine unended rest).2]
  exact split_firstLine unended (rest ++ more)

/-! ### What stands at the head of the buffer -/

variable {decoder later : Decoder} {frame : Frame} {more : List UInt8}

/-- The decoder behind its greeting or its first block, where `rest` is left. -/
def leaving (decoder : Decoder) (rest : List UInt8) : Decoder :=
  { decoder with bannerPending := false, buffer := rest }

theorem nextAfterBlanks_of_nil (decoder : Decoder) (empty : decoder.buffer = []) :
    decoder.nextAfterBlanks = (none, decoder) := by
  unfold nextAfterBlanks
  rw [if_pos (by rw [empty]; rfl)]

theorem nextAfterBlanks_of_idle (decoder : Decoder) (filled : decoder.buffer ≠ [])
    (idle : decoder.bannerPending = false) : decoder.nextAfterBlanks = decoder.nextBlock := by
  unfold nextAfterBlanks
  rw [if_neg (by simpa using filled), if_neg (by simp [idle])]

theorem nextAfterBlanks_of_unended (decoder : Decoder) (pending : decoder.bannerPending = true)
    (unended : lf ∉ decoder.buffer) : decoder.nextAfterBlanks = (none, decoder) := by
  by_cases empty : decoder.buffer = []
  · exact nextAfterBlanks_of_nil decoder empty
  · have nothing : decoder.buffer.dropWhile (· != lf) = [] :=
      List.dropWhile_eq_nil_iff.mpr (ne_lf_of_unended unended)
    unfold nextAfterBlanks
    rw [if_neg (by simpa using empty), if_pos pending, nothing]

theorem nextAfterBlanks_of_ended (decoder : Decoder) (pending : decoder.bannerPending = true)
    (ended : lf ∈ decoder.buffer) :
    decoder.nextAfterBlanks =
      match bannerVersion? (firstLine decoder.buffer) with
      | some version => (some (.banner version), decoder.leaving (behindFirstLine decoder.buffer))
      | none => (decoder.leaving decoder.buffer).nextBlock := by
  have filled : decoder.buffer ≠ [] := List.ne_nil_of_mem ended
  unfold nextAfterBlanks behindFirstLine
  rw [if_neg (by simpa using filled), if_pos pending]
  cases behind : decoder.buffer.dropWhile (· != lf) with
  | nil =>
    have never := List.dropWhile_eq_nil_iff.mp behind lf ended
    exact absurd never (by decide)
  | cons byte rest => rfl

theorem nextBlock_of_some (decoder : Decoder) {size : Nat}
    (found : blockEnd? decoder.buffer = some size) :
    decoder.nextBlock =
      (some (Frame.ofBytes (decoder.buffer.take size)),
        { decoder with buffer := decoder.buffer.drop size }) := by
  unfold nextBlock
  rw [found]

theorem nextBlock_of_none (decoder : Decoder) (unclosed : blockEnd? decoder.buffer = none)
    (small : decoder.buffer.length ≤ decoder.maxBlockSize) :
    decoder.nextBlock = (none, decoder) := by
  unfold nextBlock
  rw [unclosed]
  exact if_neg (Nat.not_lt.mpr small)

theorem nextBlock_of_long (decoder : Decoder) (unclosed : blockEnd? decoder.buffer = none)
    (long : decoder.maxBlockSize < decoder.buffer.length) :
    decoder.nextBlock =
      (some (.malformed (.tooLong decoder.maxBlockSize)),
        { decoder with discarding := true, buffer := lastBytes 3 decoder.buffer }) := by
  unfold nextBlock
  rw [unclosed]
  exact if_pos long

/-! ### More bytes -/

/-- The decoder without the line ends before the next frame. -/
def settled (decoder : Decoder) : Decoder :=
  { decoder with buffer := dropBlankLines decoder.buffer }

theorem next_eq (decoder : Decoder) (keeping : decoder.discarding = false) :
    decoder.next = decoder.settled.nextAfterBlanks := by
  unfold next
  rw [if_neg (by simp [keeping])]
  rfl

theorem settled_feed (decoder : Decoder) (more : List UInt8) :
    (decoder.feed more).settled = (decoder.settled.feed more).settled := by
  unfold settled feed
  simp only [dropBlankLines_append decoder.buffer more]

/-- Line ends before the next frame may be dropped before more bytes come. -/
theorem next_settled_feed (keeping : decoder.discarding = false) (more : List UInt8) :
    (decoder.settled.feed more).next = (decoder.feed more).next := by
  rw [next_eq (decoder.feed more) keeping, next_eq (decoder.settled.feed more) keeping,
    settled_feed decoder]

theorem settled_feed_of_mem (ended : lf ∈ decoder.settled.buffer) (more : List UInt8) :
    (decoder.feed more).settled = decoder.settled.feed more := by
  unfold settled feed
  simp only [dropBlankLines_append_of_mem ended]

theorem feed_nil (decoder : Decoder) : decoder.feed [] = decoder := by
  unfold feed
  rw [List.append_nil]

theorem feed_feed (decoder : Decoder) (first second : List UInt8) :
    (decoder.feed first).feed second = decoder.feed (first ++ second) := by
  unfold feed
  rw [List.append_assoc]

/-- Whether a greeting is awaited and stands at the head of the buffer. -/
structure Greets (decoder : Decoder) (version : String) : Prop where
  pending : decoder.bannerPending = true
  ended : lf ∈ decoder.settled.buffer
  named : bannerVersion? (firstLine decoder.settled.buffer) = some version

/-- Whether no greeting is awaited, or the first line has ended and is none. -/
def Ungreeted (decoder : Decoder) : Prop :=
  decoder.bannerPending = true →
    lf ∈ decoder.settled.buffer ∧ bannerVersion? (firstLine decoder.settled.buffer) = none

theorem greets_or_ungreeted (ended : decoder.bannerPending = true → lf ∈ decoder.settled.buffer) :
    (∃ version, decoder.Greets version) ∨ decoder.Ungreeted := by
  by_cases greets : ∃ version, decoder.Greets version
  · exact .inl greets
  · refine .inr fun pending => ⟨ended pending, ?_⟩
    by_contra named
    obtain ⟨version, named⟩ := Option.ne_none_iff_exists'.mp named
    exact greets ⟨version, pending, ended pending, named⟩

theorem Greets.feed {version : String} (greets : decoder.Greets version) (more : List UInt8) :
    (decoder.feed more).Greets version where
  pending := greets.pending
  ended := by
    rw [settled_feed_of_mem greets.ended]
    exact List.mem_append_left _ greets.ended
  named := by
    rw [settled_feed_of_mem greets.ended, ← greets.named]
    exact congrArg bannerVersion? (firstLine_append greets.ended more).1

theorem Ungreeted.feed (ungreeted : decoder.Ungreeted) (more : List UInt8) :
    (decoder.feed more).Ungreeted := by
  intro pending
  obtain ⟨ended, unnamed⟩ := ungreeted pending
  rw [settled_feed_of_mem ended]
  refine ⟨List.mem_append_left _ ended, ?_⟩
  rw [← unnamed]
  exact congrArg bannerVersion? (firstLine_append ended more).1

theorem Greets.next {version : String} (greets : decoder.Greets version)
    (keeping : decoder.discarding = false) :
    decoder.next =
      (some (.banner version), decoder.leaving (behindFirstLine decoder.settled.buffer)) := by
  rw [next_eq decoder keeping, nextAfterBlanks_of_ended decoder.settled greets.pending greets.ended,
    greets.named]
  rfl

/-- Without a greeting, a block is next. -/
theorem Ungreeted.next (ungreeted : decoder.Ungreeted) (keeping : decoder.discarding = false)
    (filled : decoder.settled.buffer ≠ []) :
    decoder.next = (decoder.leaving decoder.settled.buffer).nextBlock := by
  rw [next_eq decoder keeping]
  cases pending : decoder.bannerPending with
  | false =>
    have same : decoder.settled = decoder.leaving decoder.settled.buffer := by
      unfold settled leaving
      rw [pending]
    rw [nextAfterBlanks_of_idle decoder.settled filled pending, ← same]
  | true =>
    obtain ⟨ended, unnamed⟩ := ungreeted pending
    rw [nextAfterBlanks_of_ended decoder.settled pending ended, unnamed]
    rfl

/-- A greeting is the next frame, whatever follows. -/
theorem Greets.next_feed {version : String} (greets : decoder.Greets version)
    (keeping : decoder.discarding = false) (more : List UInt8) :
    (decoder.feed more).next =
      (some (.banner version),
        (decoder.leaving (behindFirstLine decoder.settled.buffer)).feed more) := by
  have behind := (firstLine_append greets.ended more).2
  rw [(greets.feed more).next keeping, settled_feed_of_mem greets.ended]
  exact congrArg (fun rest => (some (Frame.banner version), decoder.leaving rest)) behind

/-- A block that is closed is the next frame, whatever follows. -/
theorem Ungreeted.next_feed (ungreeted : decoder.Ungreeted) {size : Nat}
    (found : blockEnd? decoder.settled.buffer = some size) (keeping : decoder.discarding = false)
    (more : List UInt8) :
    (decoder.feed more).next =
      (some (Frame.ofBytes (decoder.settled.buffer.take size)),
        (decoder.leaving (decoder.settled.buffer.drop size)).feed more) := by
  have ended := lf_mem_of_blockEnd? found
  have inside := (blockEnd?_bounds found).2
  have same : (decoder.feed more).settled.buffer = decoder.settled.buffer ++ more :=
    congrArg buffer (settled_feed_of_mem ended more)
  have filled : (decoder.feed more).settled.buffer ≠ [] := by
    rw [same]
    exact List.ne_nil_of_mem (List.mem_append_left _ ended)
  rw [(ungreeted.feed more).next keeping filled, same]
  have ends : blockEnd? (decoder.settled.buffer ++ more) = some size := blockEnd?_append found
  rw [nextBlock_of_some _ ends]
  unfold Decoder.feed leaving
  dsimp only
  rw [List.take_append_of_le_length inside, List.drop_append_of_le_length inside]

/-! ### A decoder that throws nothing away -/

/-- The bytes that belong to blocks: what stands behind the greeting, where one is awaited and
stands first, else all. -/
def behindGreeting (decoder : Decoder) : List UInt8 :=
  let bytes := decoder.settled.buffer
  if decoder.bannerPending ∧ lf ∈ bytes ∧ (bannerVersion? (firstLine bytes)).isSome then
    behindFirstLine bytes
  else bytes

theorem Greets.behindGreeting_eq {version : String} (greets : decoder.Greets version) :
    decoder.behindGreeting = behindFirstLine decoder.settled.buffer :=
  if_pos ⟨greets.pending, greets.ended, by rw [greets.named]; rfl⟩

theorem Ungreeted.behindGreeting_eq (ungreeted : decoder.Ungreeted) :
    decoder.behindGreeting = decoder.settled.buffer := by
  refine if_neg ?_
  rintro ⟨pending, -, named⟩
  rw [(ungreeted pending).2] at named
  cases named

/-- Whether the decoder throws nothing away, and will not have to when the given bytes arrive. -/
structure Calm (decoder : Decoder) (more : List UInt8) : Prop where
  keeping : decoder.discarding = false
  roomy : 0 < decoder.maxBlockSize
  fits : Fits decoder.maxBlockSize (decoder.feed more).behindGreeting

theorem Calm.settled (calm : decoder.Calm more) : decoder.settled.Calm more where
  keeping := calm.keeping
  roomy := calm.roomy
  fits := by
    have fits := calm.fits
    unfold behindGreeting at fits ⊢
    rw [settled_feed decoder] at fits
    exact fits

/-- The decoder behind a greeting or a block is calm too. -/
theorem Calm.leaving {rest : List UInt8} (calm : decoder.Calm more)
    (fits : Fits decoder.maxBlockSize (rest ++ more)) : (decoder.leaving rest).Calm more where
  keeping := calm.keeping
  roomy := calm.roomy
  fits := fits_dropBlankLines.mpr fits

theorem Calm.fits_of_greets {version : String} (calm : decoder.Calm more)
    (greets : decoder.Greets version) :
    Fits decoder.maxBlockSize (behindFirstLine decoder.settled.buffer ++ more) := by
  have fits := calm.fits
  rw [(greets.feed more).behindGreeting_eq, settled_feed_of_mem greets.ended] at fits
  exact (firstLine_append greets.ended more).2 ▸ fits

theorem Calm.fits_of_ungreeted (calm : decoder.Calm more) (ungreeted : decoder.Ungreeted) :
    Fits decoder.maxBlockSize (decoder.settled.buffer ++ more) := by
  have fits := calm.fits
  rw [(ungreeted.feed more).behindGreeting_eq, settled_feed] at fits
  exact fits_dropBlankLines.mp fits

/-- A block that is not closed waits, and the greeting is not awaited any longer. -/
theorem Calm.next_of_unclosed (calm : decoder.Calm more) (ungreeted : decoder.Ungreeted)
    (filled : decoder.settled.buffer ≠ []) (unclosed : blockEnd? decoder.settled.buffer = none) :
    decoder.next = (none, decoder.leaving decoder.settled.buffer) := by
  have small := (calm.fits_of_ungreeted ungreeted).length_le calm.roomy
    (blankLine?_dropBlankLines decoder.buffer) unclosed
  rw [ungreeted.next calm.keeping filled]
  exact nextBlock_of_none _ unclosed small

/-- A line that is no greeting is found to be none, whatever follows. -/
theorem Ungreeted.next_leaving_feed (ungreeted : decoder.Ungreeted)
    (keeping : decoder.discarding = false) (ended : lf ∈ decoder.settled.buffer)
    (more : List UInt8) :
    ((decoder.leaving decoder.settled.buffer).feed more).next = (decoder.feed more).next := by
  have same := settled_feed_of_mem ended more
  have filled : (decoder.feed more).settled.buffer ≠ [] := by
    rw [same]
    exact List.ne_nil_of_mem (List.mem_append_left _ ended)
  have idle : ((decoder.leaving decoder.settled.buffer).feed more).Ungreeted := nofun
  have buffers : ((decoder.leaving decoder.settled.buffer).feed more).settled.buffer =
      (decoder.feed more).settled.buffer := by
    rw [settled_feed decoder]
    rfl
  rw [(ungreeted.feed more).next keeping filled, idle.next keeping (buffers ▸ filled), buffers]
  rfl

/-- What comes next at a calm decoder: a greeting, a block, or nothing for now. -/
theorem Calm.next_cases (calm : decoder.Calm more) :
    (∃ version, decoder.Greets version) ∨
      (decoder.Ungreeted ∧ ∃ size, blockEnd? decoder.settled.buffer = some size) ∨
      ∃ later, decoder.next = (none, later) ∧ later.Calm more ∧
        (later.feed more).next = (decoder.feed more).next := by
  by_cases empty : decoder.settled.buffer = []
  · refine .inr (.inr ⟨decoder.settled, ?_, calm.settled, next_settled_feed calm.keeping more⟩)
    rw [next_eq decoder calm.keeping, nextAfterBlanks_of_nil decoder.settled empty]
  by_cases unended : decoder.bannerPending = true ∧ lf ∉ decoder.settled.buffer
  · refine .inr (.inr ⟨decoder.settled, ?_, calm.settled, next_settled_feed calm.keeping more⟩)
    rw [next_eq decoder calm.keeping,
      nextAfterBlanks_of_unended decoder.settled unended.1 unended.2]
  rw [not_and, not_not] at unended
  refine (greets_or_ungreeted unended).imp_right fun ungreeted => ?_
  cases found : blockEnd? decoder.settled.buffer with
  | some size => exact .inl ⟨ungreeted, size, rfl⟩
  | none =>
    refine .inr ⟨_, calm.next_of_unclosed ungreeted empty found,
      calm.leaving (calm.fits_of_ungreeted ungreeted), ?_⟩
    cases pending : decoder.bannerPending with
    | false =>
      have same : decoder.leaving decoder.settled.buffer = decoder.settled := by
        unfold Decoder.settled Decoder.leaving
        rw [pending]
      rw [same]
      exact next_settled_feed calm.keeping more
    | true => exact ungreeted.next_leaving_feed calm.keeping (unended pending) more

/-- More bytes do not change the next frame. -/
theorem Calm.next_some (calm : decoder.Calm more) (ready : decoder.next = (some frame, later)) :
    (decoder.feed more).next = (some frame, later.feed more) ∧ later.Calm more := by
  rcases calm.next_cases with ⟨version, greets⟩ | ⟨ungreeted, size, found⟩ | ⟨_, waits, -⟩
  · have now := greets.next_feed calm.keeping []
    rw [feed_nil, feed_nil, ready] at now
    obtain ⟨named, behind⟩ := Prod.mk.inj now
    rw [named, behind]
    exact ⟨greets.next_feed calm.keeping more, calm.leaving (calm.fits_of_greets greets)⟩
  · have now := ungreeted.next_feed found calm.keeping []
    rw [feed_nil, feed_nil, ready] at now
    obtain ⟨block, behind⟩ := Prod.mk.inj now
    rw [block, behind]
    refine ⟨ungreeted.next_feed found calm.keeping more, calm.leaving ?_⟩
    exact (calm.fits_of_ungreeted ungreeted).drop (blankLine?_dropBlankLines decoder.buffer) found
  · rw [waits] at ready
    cases ready

/-- A decoder that waits has kept all that matters. -/
theorem Calm.next_none (calm : decoder.Calm more) (waits : decoder.next = (none, later)) :
    (later.feed more).next = (decoder.feed more).next ∧ later.Calm more := by
  rcases calm.next_cases with ⟨version, greets⟩ | ⟨ungreeted, size, found⟩ | ⟨_, ready, kept, same⟩
  · rw [greets.next calm.keeping] at waits
    cases waits
  · have now := ungreeted.next_feed found calm.keeping []
    rw [feed_nil, waits] at now
    cases now
  · rw [waits] at ready
    cases ready
    exact ⟨same, kept⟩

/-! ### Taking all frames -/

theorem drain_of_none (waits : decoder.next = (none, later)) : decoder.drain = ([], later) := by
  unfold drain
  split
  · next rest ready =>
    rw [waits] at ready
    cases ready
    rfl
  · next frame rest ready =>
    rw [waits] at ready
    cases ready

theorem drain_of_some (ready : decoder.next = (some frame, later)) :
    decoder.drain = (frame :: later.drain.1, later.drain.2) := by
  rw [drain]
  split
  · next rest waits =>
    rw [ready] at waits
    cases waits
  · next frame rest ready' =>
    rw [ready] at ready'
    cases ready'
    rfl

/-- What a decoder says depends on its next frame only. -/
theorem drain_congr {other : Decoder} (same : decoder.next = other.next) :
    decoder.drain = other.drain := by
  cases step : other.next with
  | mk ready last =>
    rw [step] at same
    cases ready with
    | none => rw [drain_of_none same, drain_of_none step]
    | some frame => rw [drain_of_some same, drain_of_some step]

/-- A stream in two pieces is decoded like the whole. -/
theorem Calm.drain_feed (calm : decoder.Calm more) :
    (decoder.feed more).drain =
        (decoder.drain.1 ++ (decoder.drain.2.feed more).drain.1,
          (decoder.drain.2.feed more).drain.2) ∧
      decoder.drain.2.Calm more := by
  induction decoder using drain.induct with
  | case1 decoder later waits =>
    obtain ⟨same, kept⟩ := calm.next_none waits
    rw [drain_of_none waits]
    exact ⟨drain_congr same.symm, kept⟩
  | case2 decoder frame later ready _ _ _ ih =>
    obtain ⟨step, kept⟩ := calm.next_some ready
    obtain ⟨rest, last⟩ := ih kept
    rw [drain_of_some ready, drain_of_some step, rest]
    exact ⟨rfl, last⟩

/-- The frames of a stream that arrives in pieces, each of which is decoded as far as it goes. -/
def receive (decoder : Decoder) : List (List UInt8) → List Frame × Decoder
  | [] => ([], decoder)
  | piece :: rest =>
    let (frames, later) := (decoder.feed piece).drain
    let (more, last) := later.receive rest
    (frames ++ more, last)

theorem receive_cons (decoder : Decoder) (piece : List UInt8) (rest : List (List UInt8)) :
    decoder.receive (piece :: rest) =
      ((decoder.feed piece).drain.1 ++ ((decoder.feed piece).drain.2.receive rest).1,
        ((decoder.feed piece).drain.2.receive rest).2) :=
  rfl

/-- However many pieces there are, the stream is decoded like the whole. -/
theorem Calm.receive_eq_drain {piece : List UInt8} {rest : List (List UInt8)}
    (calm : decoder.Calm (piece ++ rest.flatten)) :
    decoder.receive (piece :: rest) = (decoder.feed (piece ++ rest.flatten)).drain := by
  induction rest generalizing decoder piece with
  | nil =>
    rw [List.flatten_nil, List.append_nil, receive_cons, receive, List.append_nil]
  | cons next rest ih =>
    rw [List.flatten_cons] at calm ⊢
    have first : (decoder.feed piece).Calm (next ++ rest.flatten) :=
      ⟨calm.keeping, calm.roomy, by rw [feed_feed]; exact calm.fits⟩
    obtain ⟨whole, kept⟩ := first.drain_feed
    rw [receive_cons, ih kept, ← feed_feed decoder piece, whole]

/-! ### Where frames come from -/

theorem nextBlock_origin (ready : decoder.nextBlock = (some frame, later)) :
    frame.FromBlock ∧ later.bannerPending = decoder.bannerPending := by
  unfold nextBlock at ready
  split at ready
  · obtain ⟨block, rfl⟩ := Prod.mk.inj ready
    rw [← Option.some.inj block]
    exact ⟨.bytes _, rfl⟩
  · split at ready
    · obtain ⟨tooLong, rfl⟩ := Prod.mk.inj ready
      rw [← Option.some.inj tooLong]
      exact ⟨.tooLong _, rfl⟩
    · cases ready

theorem nextFrame_origin (ready : decoder.nextFrame = (some frame, later)) :
    (frame.FromBlock ∨ decoder.bannerPending = true ∧ frame.isBanner = true) ∧
      later.bannerPending = false := by
  unfold nextFrame nextAfterBlanks at ready
  split at ready
  · cases ready
  split at ready
  · next pending =>
    split at ready
    · cases ready
    · split at ready
      · obtain ⟨greeting, rfl⟩ := Prod.mk.inj ready
        rw [← Option.some.inj greeting]
        exact ⟨.inr ⟨pending, rfl⟩, rfl⟩
      · obtain ⟨block, idle⟩ := nextBlock_origin ready
        exact ⟨.inl block, idle⟩
  · next idle =>
    obtain ⟨block, same⟩ := nextBlock_origin ready
    exact ⟨.inl block, same.trans (by simpa using idle)⟩

/-- A frame is of a block, or is the greeting that was awaited; none is awaited any longer. -/
theorem next_origin (ready : decoder.next = (some frame, later)) :
    (frame.FromBlock ∨ decoder.bannerPending = true ∧ frame.isBanner = true) ∧
      later.bannerPending = false := by
  unfold next at ready
  split at ready
  · split at ready
    · have origin := nextFrame_origin ready
      exact origin
    · cases ready
  · exact nextFrame_origin ready

theorem drain_isBanner (idle : decoder.bannerPending = false) :
    ∀ frame ∈ decoder.drain.1, frame.isBanner = false := by
  induction decoder using drain.induct with
  | case1 decoder later waits =>
    rw [drain_of_none waits]
    nofun
  | case2 decoder frame later ready _ _ _ ih =>
    obtain ⟨first, last⟩ := next_origin ready
    rw [drain_of_some ready]
    refine List.forall_mem_cons.mpr ⟨?_, ih last⟩
    rcases first with block | ⟨pending, -⟩
    · exact block.isBanner_eq
    · rw [idle] at pending
      cases pending

theorem tail_drain_isBanner (decoder : Decoder) :
    ∀ frame ∈ decoder.drain.1.tail, frame.isBanner = false := by
  cases step : decoder.next with
  | mk ready later =>
    cases ready with
    | none =>
      rw [drain_of_none step]
      nofun
    | some frame =>
      rw [drain_of_some step]
      exact drain_isBanner (next_origin step).2

/-! ### The whole stream -/

theorem new_next (greeting : Bool) (limit : Nat) :
    (new greeting limit).next = (none, new greeting limit) :=
  rfl

theorem Calm.receive_new {greeting : Bool} {limit : Nat} {pieces : List (List UInt8)}
    (calm : (new greeting limit).Calm pieces.flatten) :
    (new greeting limit).receive pieces = ((new greeting limit).feed pieces.flatten).drain := by
  cases pieces with
  | nil =>
    rw [List.flatten_nil, feed_nil, drain_of_none (new_next greeting limit)]
    rfl
  | cons piece rest => exact calm.receive_eq_drain

/-- Where the greeting counts as part of the first block, less has to fit without it. -/
theorem behindGreeting_fits {greeting : Bool} {limit : Nat} {stream : List UInt8}
    (fits : Fits limit stream) : Fits limit ((new greeting limit).feed stream).behindGreeting := by
  have fits' := fits_dropBlankLines.mpr fits
  unfold Decoder.behindGreeting
  dsimp only
  split
  · next greets =>
    obtain ⟨line, rest, split, unended⟩ := List.eq_append_cons_of_mem greets.2.1
    rw [split, (split_firstLine unended rest).2]
    have settled := blankLine?_dropBlankLines stream
    change dropBlankLines stream = _ at split
    rw [split] at fits' settled
    exact fits'.behind_line settled unended
  · exact fits'

/-- However a stream is cut in pieces, a decoder takes the same frames from it, keeps the same bytes
and is left in the same state; a greeting is the first frame or none. What stands behind the
greeting must keep to the limit block by block; the greeting itself need not. -/
theorem receive_independent_of_cuts {greeting : Bool} {limit : Nat}
    {first second : List (List UInt8)} (roomy : 0 < limit)
    (fits : Fits limit ((new greeting limit).feed first.flatten).behindGreeting)
    (same : first.flatten = second.flatten) :
    (new greeting limit).receive first = (new greeting limit).receive second ∧
      ∀ frame ∈ ((new greeting limit).receive first).1.tail, frame.isBanner = false := by
  have calm : (new greeting limit).Calm first.flatten := ⟨rfl, roomy, fits⟩
  have whole := calm.receive_new
  refine ⟨?_, ?_⟩
  · rw [whole, same, Calm.receive_new (same ▸ calm)]
  · rw [whole]
    exact tail_drain_isBanner _

/-- A greeting and an event: whole, and cut in the greeting and in the line ends around both. -/
theorem receive_independent_of_cuts_in_lines :
    (new true 12).receive [Utf8.bytesOf "\r\nAsterisk Call Manager/5.0\r\nEvent: A\r\n\r\n"] =
      (new true 12).receive [Utf8.bytesOf "\r", Utf8.bytesOf "\nAsterisk Call Man", [],
        Utf8.bytesOf "ager/5.0\r\nEvent: A\r\n\r", Utf8.bytesOf "\n"] := by
  have fits : Fits 12 ((new true 12).feed
      [Utf8.bytesOf "\r\nAsterisk Call Manager/5.0\r\nEvent: A\r\n\r\n"].flatten).behindGreeting :=
    @Fits.closed 12 _ 12 (by decide +kernel) (by decide)
      (.unclosed (by decide +kernel) (by decide +kernel))
  exact (receive_independent_of_cuts (by decide) fits (by decide +kernel)).1

end Decoder

end Switchboard
