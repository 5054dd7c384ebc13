/-
**How many bytes wait.**

Where the limit counts, a decoder that waits holds no more bytes than the limit allows, or the three
that it keeps of a block it throws away (`next_none_counted`). It does not count while a greeting is
awaited: until the first line feed the decoder keeps all that comes (`receive_awaiting`), and it
counts from there on (`drain_counted`). These are the only bytes that go beyond the limit
(`backlog_exceeds_iff`).
-/

import Switchboard.Proofs.Decoder.Resync

namespace Switchboard

open Text Block

namespace Decoder

variable {decoder later : Decoder} {frame : Frame} {limit : Nat} {bytes : List UInt8}

/-! ### Before the first line feed -/

/-- Without a line feed there is no greeting yet, and nothing else is looked for. -/
theorem next_awaiting (limit : Nat) (unended : lf ∉ dropBlankLines bytes) :
    ((new true limit).feed bytes).next = (none, (new true limit).feed (dropBlankLines bytes)) := by
  rw [next_eq _ rfl]
  exact nextAfterBlanks_of_unended _ rfl unended

theorem unended_of_append {first second : List UInt8}
    (unended : lf ∉ dropBlankLines (first ++ second)) : lf ∉ dropBlankLines first := by
  intro ended
  rw [dropBlankLines_append_of_mem ended] at unended
  exact unended (List.mem_append_left _ ended)

theorem receive_feed_awaiting (limit : Nat) (pieces : List (List UInt8))
    (unended : lf ∉ dropBlankLines (bytes ++ pieces.flatten)) :
    ((new true limit).feed (dropBlankLines bytes)).receive pieces =
      ([], (new true limit).feed (dropBlankLines (bytes ++ pieces.flatten))) := by
  induction pieces generalizing bytes with
  | nil =>
    rw [List.flatten_nil, List.append_nil]
    rfl
  | cons piece rest ih =>
    rw [List.flatten_cons, ← List.append_assoc] at unended ⊢
    have here := unended_of_append unended
    rw [dropBlankLines_append] at here
    have waits := next_awaiting limit here
    rw [← dropBlankLines_append] at waits
    rw [receive_of_silent (by rw [feed_feed]; exact drain_of_none waits), ih unended]

/-- Until the first line feed, a decoder that awaits a greeting keeps all that comes but for the
line ends before it. -/
theorem receive_awaiting (limit : Nat) {pieces : List (List UInt8)}
    (unended : lf ∉ dropBlankLines pieces.flatten) :
    (new true limit).receive pieces =
      ([], (new true limit).feed (dropBlankLines pieces.flatten)) :=
  @receive_feed_awaiting [] limit pieces unended

theorem receive_append (decoder : Decoder) (first second : List (List UInt8)) :
    decoder.receive (first ++ second) =
      ((decoder.receive first).1 ++ ((decoder.receive first).2.receive second).1,
        ((decoder.receive first).2.receive second).2) := by
  induction first generalizing decoder with
  | nil => rfl
  | cons piece rest ih =>
    rw [List.cons_append, receive_cons, ih, receive_cons, List.append_assoc]

theorem exists_first_line (pieces : List (List UInt8)) (unended : lf ∉ dropBlankLines bytes)
    (ended : lf ∈ dropBlankLines (bytes ++ pieces.flatten)) :
    ∃ front piece rest, pieces = front ++ piece :: rest ∧
      lf ∉ dropBlankLines (bytes ++ front.flatten) ∧
      lf ∈ dropBlankLines (bytes ++ (front.flatten ++ piece)) := by
  induction pieces generalizing bytes with
  | nil =>
    rw [List.flatten_nil, List.append_nil] at ended
    exact absurd ended unended
  | cons piece rest ih =>
    by_cases here : lf ∈ dropBlankLines (bytes ++ piece)
    · refine ⟨[], piece, rest, rfl, ?_, here⟩
      rwa [List.flatten_nil, List.append_nil]
    · rw [List.flatten_cons, ← List.append_assoc] at ended
      obtain ⟨front, last, more, rfl, before, within⟩ := ih here ended
      refine ⟨piece :: front, last, more, rfl, ?_, ?_⟩
      · rwa [List.flatten_cons, ← List.append_assoc]
      · rwa [List.flatten_cons, List.append_assoc, ← List.append_assoc]

/-- The pieces up to the first line feed may as well come in one. -/
theorem receive_first_line {front : List (List UInt8)}
    (unended : lf ∉ dropBlankLines front.flatten) (piece : List UInt8)
    (rest : List (List UInt8)) :
    (new true limit).receive (front ++ piece :: rest) =
      (new true limit).receive ((front.flatten ++ piece) :: rest) := by
  have same : (((new true limit).feed (dropBlankLines front.flatten)).feed piece).next =
      ((new true limit).feed (front.flatten ++ piece)).next := by
    rw [← feed_feed]
    exact @next_settled_feed ((new true limit).feed front.flatten) rfl piece
  rw [receive_append, receive_awaiting limit unended, receive_cons, receive_cons, drain_congr same]
  rfl

/-! ### Where the limit counts -/

/-- Whether the limit counts: no greeting is awaited, or its line is there. -/
def Counted (decoder : Decoder) : Prop :=
  decoder.bannerPending = true → decoder.discarding = false ∧ lf ∈ decoder.settled.buffer

theorem nextBlock_none_le (waits : decoder.nextBlock = (none, later)) :
    later.buffer.length ≤ decoder.maxBlockSize := by
  unfold nextBlock at waits
  split at waits
  · cases waits
  · split at waits
    · cases waits
    · next short =>
      cases waits
      exact Nat.le_of_not_lt short

theorem next_none_of_keeping (counted : decoder.Counted) (keeping : decoder.discarding = false)
    (waits : decoder.next = (none, later)) :
    later.bannerPending = false ∧ later.buffer.length ≤ decoder.maxBlockSize := by
  by_cases empty : decoder.settled.buffer = []
  · rw [next_eq decoder keeping, nextAfterBlanks_of_nil _ empty] at waits
    cases waits
    refine ⟨?_, by rw [empty]; exact Nat.zero_le _⟩
    by_contra pending
    have ended := (counted (Bool.of_not_eq_false pending)).2
    rw [empty] at ended
    cases ended
  · rcases greets_or_ungreeted fun pending => (counted pending).2 with ⟨version, greets⟩ | ungreeted
    · rw [greets.next keeping] at waits
      cases waits
    · rw [ungreeted.next keeping empty] at waits
      have short := nextBlock_none_le waits
      rw [nextBlock_none waits] at short ⊢
      exact ⟨rfl, short⟩

/-- A decoder that waits has no more than the limit allows, or the end of what it throws away. -/
theorem next_none_counted (counted : decoder.Counted) (waits : decoder.next = (none, later)) :
    later.bannerPending = false ∧ later.buffer.length ≤ max decoder.maxBlockSize 3 := by
  cases discarding : decoder.discarding with
  | false =>
    obtain ⟨idle, short⟩ := next_none_of_keeping counted discarding waits
    exact ⟨idle, short.trans (le_max_left _ 3)⟩
  | true =>
    have idle : decoder.bannerPending = false := by
      by_contra pending
      have keeping := (counted (Bool.of_not_eq_false pending)).1
      rw [discarding] at keeping
      cases keeping
    cases found : blockEnd? decoder.buffer with
    | none =>
      rw [next_of_open discarding found] at waits
      cases waits
      refine ⟨idle, ?_⟩
      rw [length_lastBytes]
      exact (min_le_left 3 _).trans (le_max_right _ 3)
    | some size =>
      rw [next_of_closed discarding found] at waits
      have counted' : ({ decoder with
          discarding := false, buffer := decoder.buffer.drop size } : Decoder).Counted :=
        fun pending => absurd (idle.symm.trans pending) Bool.false_ne_true
      obtain ⟨idle', short⟩ := next_none_of_keeping counted' rfl waits
      exact ⟨idle', short.trans (le_max_left _ 3)⟩

theorem next_maxBlockSize (decoder : Decoder) :
    decoder.next.2.maxBlockSize = decoder.maxBlockSize := by
  unfold next nextFrame nextAfterBlanks nextBlock
  repeat' split
  all_goals rfl

theorem counted_of_idle (idle : decoder.bannerPending = false) : decoder.Counted := by
  intro pending
  rw [idle] at pending
  cases pending

/-- However much has come, no more than that is left when all frames are taken. -/
theorem drain_counted (counted : decoder.Counted) :
    decoder.drain.2.bannerPending = false ∧
      decoder.drain.2.maxBlockSize = decoder.maxBlockSize ∧
      decoder.drain.2.buffer.length ≤ max decoder.maxBlockSize 3 := by
  induction decoder using drain.induct with
  | case1 decoder later waits =>
    obtain ⟨idle, short⟩ := next_none_counted counted waits
    have same := next_maxBlockSize decoder
    rw [waits] at same
    rw [drain_of_none waits]
    exact ⟨idle, same, short⟩
  | case2 decoder frame later ready _ _ _ ih =>
    have same := next_maxBlockSize decoder
    rw [ready] at same
    rw [drain_of_some ready, ← same]
    exact ih (counted_of_idle (next_origin ready).2)

theorem receive_idle (pieces : List (List UInt8)) (idle : decoder.bannerPending = false)
    (limited : decoder.maxBlockSize = limit) (short : decoder.buffer.length ≤ max limit 3) :
    (decoder.receive pieces).2.buffer.length ≤ max limit 3 := by
  induction pieces generalizing decoder with
  | nil => exact short
  | cons piece rest ih =>
    have counted : (decoder.feed piece).Counted := counted_of_idle idle
    obtain ⟨idle', same, short'⟩ := drain_counted counted
    exact ih idle' (same.trans limited) (limited ▸ short')

theorem receive_counted {piece : List UInt8} (counted : (decoder.feed piece).Counted)
    (rest : List (List UInt8)) :
    (decoder.receive (piece :: rest)).2.buffer.length ≤ max decoder.maxBlockSize 3 := by
  obtain ⟨idle, same, short⟩ := drain_counted counted
  exact receive_idle rest idle same short

/-- When all frames are taken, more bytes wait than the limit allows, or than are kept of what is
thrown away, exactly when a greeting is awaited and so many have come without a line feed, not
counting line ends at their head. -/
theorem backlog_exceeds_iff (greeting : Bool) (limit : Nat) (pieces : List (List UInt8)) :
    max limit 3 < ((new greeting limit).receive pieces).2.buffer.length ↔
      greeting = true ∧ lf ∉ dropBlankLines pieces.flatten ∧
        max limit 3 < (dropBlankLines pieces.flatten).length := by
  cases greeting with
  | false =>
    have short : ((new false limit).receive pieces).2.buffer.length ≤ max limit 3 :=
      receive_idle pieces rfl rfl (Nat.zero_le _)
    exact iff_of_false (Nat.not_lt.mpr short) fun awaits => Bool.false_ne_true awaits.1
  | true =>
    by_cases ended : lf ∈ dropBlankLines pieces.flatten
    · obtain ⟨front, piece, rest, rfl, unended, ended'⟩ :=
        @exists_first_line [] pieces (by decide) ended
      have counted : ((new true limit).feed (front.flatten ++ piece)).Counted :=
        fun _ => ⟨rfl, ended'⟩
      have short : ((new true limit).receive ((front.flatten ++ piece) :: rest)).2.buffer.length ≤
          max limit 3 := receive_counted counted rest
      rw [receive_first_line unended]
      exact iff_of_false (Nat.not_lt.mpr short) fun awaits => awaits.2.1 ended
    · rw [receive_awaiting limit ended]
      exact ⟨fun long => ⟨rfl, ended, long⟩, fun awaits => awaits.2.2⟩

/-- Twelve bytes that are no line wait at a decoder that allows blocks of eight. -/
theorem backlog_exceeds_at_greeting :
    let bytes := List.replicate 12 (120 : UInt8)
    (new true 8).receive [bytes] = ([], (new true 8).feed bytes) ∧
      max 8 3 < ((new true 8).receive [bytes]).2.buffer.length := by
  intro bytes
  have kept : dropBlankLines [bytes].flatten = bytes := by decide
  have unended : lf ∉ dropBlankLines [bytes].flatten := by decide
  have awaits := receive_awaiting 8 unended
  rw [kept] at awaits
  rw [awaits]
  exact ⟨rfl, by decide⟩

end Decoder

end Switchboard
