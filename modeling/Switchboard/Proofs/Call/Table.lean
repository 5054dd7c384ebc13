/-
**The call table: which event moves a call from one status to another.**

`CallStatus.Moves` is the table. Whatever an event does to the record of a call, either the status
stays or it moves along the table, and then the change is told with the status before it
(`tells_react`). Conversely a move of the table is made, except that an attempt which fails after
another one was answered does not end the call (`status_take_of_moves`).

Every move leads to a higher rank and none begins at the end of a call, so along any events the rank
never falls (`rank_takeAll`) and the way in which a call ended stays (`status_takeAll_of_terminal`).
-/

import Mathlib.Data.List.Induction
import Switchboard.Proofs.Call.Record

namespace Switchboard

/-! ### The table -/

/-- The moves of a call, each with the event that makes it. -/
inductive CallStatus.Moves : CallEvent → CallStatus → CallStatus → Prop
  | dialBegin {dialString destId : Option String} :
      Moves (.dialBegin dialString destId) .new .dialing
  | bridgeNew {bridgeId peer : Option String} : Moves (.bridgeEnter bridgeId peer) .new .bridged
  | bridgeDialing {bridgeId peer : Option String} :
      Moves (.bridgeEnter bridgeId peer) .dialing .bridged
  | dialFailed {dialStatus : String} {destId : Option String}
      (failed : isFailedDial dialStatus = true) :
      Moves (.dialEnd (some dialStatus) destId) .dialing (.ended .failed)
  | hangup {cause : Option String} {status : CallStatus} (going : status.isTerminal = false) :
      Moves (.hangup cause) status (.ended .hungUp)

namespace CallStatus

variable {event : CallEvent} {before after : CallStatus}

theorem Moves.rank_lt (moves : Moves event before after) : before.rank < after.rank := by
  cases moves with
  | dialBegin => decide
  | bridgeNew => decide
  | bridgeDialing => decide
  | dialFailed failed => decide
  | hangup going => cases before <;> simp_all [isTerminal, rank]

/-- No move begins at the end of a call. -/
theorem Moves.going (moves : Moves event before after) : before.isTerminal = false := by
  cases moves with
  | hangup going => exact going
  | dialBegin | bridgeNew | bridgeDialing | dialFailed => rfl

end CallStatus

/-- A dial status that means failure does not mean an answer. -/
theorem not_isAnsweredDial {status : String} (failed : isFailedDial status = true) :
    isAnsweredDial status = false := by
  obtain ⟨word, member, same⟩ := List.any_eq_true.mp failed
  rw [Bool.eq_false_iff]
  intro answered
  have meet : Text.fold word = Text.fold "ANSWER" :=
    (Text.sameName_iff.mp same).symm.trans (Text.sameName_iff.mp answered)
  have apart : ∀ word ∈ failedDialStatuses, Text.fold word ≠ Text.fold "ANSWER" := by
    decide +kernel
  exact apart word member meet

theorem isFailedDial_empty : isFailedDial "" = false := by
  decide +kernel

namespace Session

/-! ### What an event does to the status -/

/-- Whether what an event makes of a record keeps the status, or moves it along the table and tells
of the move with the status before it. -/
def Tells (before : Session) (event : CallEvent) (outcome : Session × Option SessionChange) :
    Prop :=
  outcome.1.status = before.status ∨
    CallStatus.Moves event before.status outcome.1.status ∧
      ∃ summary, outcome.2 = some (.updated before.status summary)

theorem status_onNewChannel (session : Session)
    (channelState callerNumber callerName channel : Option String) :
    (session.onNewChannel channelState callerNumber callerName channel).1.status =
      session.status := by
  unfold onNewChannel
  cases callerNumber with
  | none => rfl
  | some number =>
    dsimp only
    split <;> rfl

theorem tells_onDialBegin (session : Session) (dialString destId : Option String) :
    session.Tells (.dialBegin dialString destId) (session.onDialBegin dialString destId) := by
  unfold Tells onDialBegin
  cases status : session.status with
  | new => exact .inr ⟨.dialBegin, _, rfl⟩
  | dialing => exact .inl rfl
  | bridged => exact .inl status
  | ended reason => exact .inl status

theorem tells_onDialEnd (session : Session) (dialStatus destId : Option String) :
    session.Tells (.dialEnd dialStatus destId) (session.onDialEnd dialStatus) := by
  unfold Tells onDialEnd
  cases status : session.status with
  | dialing =>
    dsimp only
    split
    · exact .inl rfl
    · split
      · next ends =>
        rw [Bool.and_eq_true, Bool.and_eq_true] at ends
        obtain ⟨⟨failed, -⟩, -⟩ := ends
        cases dialStatus with
        | none => exact absurd failed (Bool.eq_false_iff.mp isFailedDial_empty)
        | some given => exact .inr ⟨.dialFailed failed, _, rfl⟩
      · exact .inl rfl
  | new => exact .inl status
  | bridged => exact .inl status
  | ended reason => exact .inl status

theorem tells_onBridgeEnter (session : Session) (bridgeId peer : Option String) :
    session.Tells (.bridgeEnter bridgeId peer) (session.onBridgeEnter bridgeId peer) := by
  unfold Tells onBridgeEnter
  cases status : session.status with
  | new => exact .inr ⟨.bridgeNew, _, rfl⟩
  | dialing => exact .inr ⟨.bridgeDialing, _, rfl⟩
  | bridged => exact .inl rfl
  | ended reason => exact .inl status

theorem status_onBridgeLeave (session : Session) :
    session.onBridgeLeave.1.status = session.status := by
  unfold onBridgeLeave
  split <;> rfl

theorem tells_onHangup (session : Session) (cause : Option String) :
    session.Tells (.hangup cause) (session.onHangup cause) := by
  unfold Tells onHangup
  cases status : session.status with
  | ended reason => exact .inl rfl
  | new => exact .inr ⟨.hangup rfl, _, rfl⟩
  | dialing => exact .inr ⟨.hangup rfl, _, rfl⟩
  | bridged => exact .inr ⟨.hangup rfl, _, rfl⟩

theorem status_onRecording (session : Session) (path : String) :
    (session.onRecording path).1.status = session.status := by
  unfold onRecording
  split <;> rfl

/-- An event keeps the status, or moves it along the table and tells of it. -/
theorem tells_react (session : Session) (event : CallEvent) :
    session.Tells event (session.react event) := by
  cases event with
  | newChannel state number name channel =>
    exact .inl (session.status_onNewChannel state number name channel)
  | dialBegin dialString destId => exact session.tells_onDialBegin dialString destId
  | dialEnd dialStatus destId => exact session.tells_onDialEnd dialStatus destId
  | bridgeEnter bridgeId peer => exact session.tells_onBridgeEnter bridgeId peer
  | bridgeLeave bridgeId => exact .inl session.status_onBridgeLeave
  | hangup cause => exact session.tells_onHangup cause
  | recording path => exact .inl (session.status_onRecording path)
  | ignoredVariable => exact .inl rfl
  | other => exact .inl rfl

/-- The rank does not fall. -/
theorem rank_react (session : Session) (event : CallEvent) :
    session.status.rank ≤ (session.react event).1.status.rank := by
  rcases session.tells_react event with same | ⟨moves, -⟩
  · exact Nat.le_of_eq (congrArg CallStatus.rank same.symm)
  · exact Nat.le_of_lt moves.rank_lt

/-! ### Calls that were not connected yet -/

theorem wasBridged_eq_false_iff {session : Session} :
    session.wasBridged = false ↔
      session.bridgePeer = none ∧ session.bridgeId = none ∧ session.status ≠ .bridged := by
  unfold wasBridged
  rw [Bool.or_eq_false_iff, Bool.or_eq_false_iff, Option.isSome_eq_false_iff,
    Option.isNone_iff_eq_none, Option.isSome_eq_false_iff, Option.isNone_iff_eq_none,
    beq_eq_false_iff_ne, and_assoc]

/-- Only an event that leaves the call bridged says anything of a bridge. -/
theorem bridge_react (session : Session) (event : CallEvent) :
    (session.react event).1.status = .bridged ∨
      (session.react event).1.bridgePeer = session.bridgePeer ∧
        (session.react event).1.bridgeId = session.bridgeId := by
  cases event with
  | newChannel state number name channel =>
    refine .inr ?_
    simp only [react, onNewChannel]
    cases number with
    | none => exact ⟨rfl, rfl⟩
    | some number =>
      dsimp only
      split <;> exact ⟨rfl, rfl⟩
  | dialBegin dialString destId =>
    refine .inr ?_
    simp only [react, onDialBegin]
    split <;> exact ⟨rfl, rfl⟩
  | dialEnd dialStatus destId =>
    refine .inr ?_
    simp only [react, onDialEnd]
    split
    · split
      · exact ⟨rfl, rfl⟩
      · split <;> exact ⟨rfl, rfl⟩
    all_goals exact ⟨rfl, rfl⟩
  | bridgeEnter bridgeId peer =>
    simp only [react, onBridgeEnter]
    split
    · exact .inl rfl
    · exact .inl rfl
    · next status => exact .inl status
    · exact .inr ⟨rfl, rfl⟩
  | bridgeLeave bridgeId =>
    refine .inr ?_
    simp only [react, onBridgeLeave]
    split <;> exact ⟨rfl, rfl⟩
  | hangup cause =>
    refine .inr ?_
    simp only [react, onHangup]
    split <;> exact ⟨rfl, rfl⟩
  | recording path =>
    refine .inr ?_
    simp only [react, onRecording]
    split <;> exact ⟨rfl, rfl⟩
  | ignoredVariable => exact .inr ⟨rfl, rfl⟩
  | other => exact .inr ⟨rfl, rfl⟩

/-- Whether the record of a call that is not connected yet shows no trace of a bridge. -/
def Unbridged (session : Session) : Prop :=
  session.status.rank < CallStatus.bridged.rank → session.wasBridged = false

theorem unbridged_new (callId : String) (time : Timestamp) : (new callId time).Unbridged :=
  fun _ => rfl

theorem Unbridged.react {session : Session} (unbridged : session.Unbridged) (event : CallEvent) :
    (session.react event).1.Unbridged := by
  intro early
  have before : session.status.rank < CallStatus.bridged.rank :=
    Nat.lt_of_le_of_lt (session.rank_react event) early
  obtain ⟨noPeer, noId, -⟩ := wasBridged_eq_false_iff.mp (unbridged before)
  have apart : (session.react event).1.status ≠ .bridged := by
    intro bridged
    rw [bridged] at early
    exact Nat.lt_irrefl _ early
  rcases session.bridge_react event with bridged | ⟨samePeer, sameId⟩
  · exact absurd bridged apart
  · exact wasBridged_eq_false_iff.mpr ⟨samePeer.trans noPeer, sameId.trans noId, apart⟩

/-- A move of the table is made; an attempt that fails ends the call if none was answered. -/
theorem status_react_of_moves {session : Session} (unbridged : session.Unbridged)
    {event : CallEvent} {status : CallStatus} (moves : CallStatus.Moves event session.status status)
    (unanswered : status = .ended .failed → session.answered = false) :
    (session.react event).1.status = status := by
  obtain ⟨here, same⟩ : ∃ here, session.status = here := ⟨_, rfl⟩
  rw [same] at moves
  cases moves with
  | dialBegin => simp only [react, onDialBegin, same]
  | bridgeNew => simp only [react, onBridgeEnter, same]
  | bridgeDialing => simp only [react, onBridgeEnter, same]
  | @dialFailed dialStatus destId failed =>
    have apart : session.wasBridged = false := unbridged (by rw [same]; decide)
    have ends : (isFailedDial dialStatus && !session.answered &&
        !{ session with dialStatus := some dialStatus }.wasBridged) = true := by
      show (_ && !session.wasBridged) = true
      rw [failed, unanswered rfl, apart]
      rfl
    simp only [react, onDialEnd, Option.getD_some]
    split
    · rw [if_neg (Bool.eq_false_iff.mp (not_isAnsweredDial failed)), if_pos ends]
    all_goals
      next other =>
      rw [same] at other
      cases other
  | hangup going =>
    cases here with
    | ended reason => cases going
    | new => simp only [react, onHangup, same]
    | dialing => simp only [react, onHangup, same]
    | bridged => simp only [react, onHangup, same]

/-! ### Events one after the other -/

/-- One event as it reaches the record of its call. -/
structure Notice where
  event : CallEvent
  name : String
  time : Timestamp
  deriving DecidableEq, Repr

/-- The record with an event more. -/
def take (session : Session) (notice : Notice) : Session :=
  (session.apply notice.event notice.name notice.time).1

/-- The record with events more, one after the other. -/
def takeAll (session : Session) (notices : List Notice) : Session :=
  notices.foldl take session

theorem takeAll_append (session : Session) (first second : List Notice) :
    session.takeAll (first ++ second) = (session.takeAll first).takeAll second :=
  List.foldl_append

/-- An event keeps the status, or moves it along the table and tells of it. -/
theorem tells_apply (session : Session) (notice : Notice) :
    session.Tells notice.event (session.apply notice.event notice.name notice.time) :=
  (session.note notice.name notice.time).tells_react notice.event

theorem status_take (session : Session) (notice : Notice) :
    (session.take notice).status = session.status ∨
      CallStatus.Moves notice.event session.status (session.take notice).status :=
  (session.tells_apply notice).imp_right And.left

theorem unbridged_takeAll (callId : String) (time : Timestamp) (notices : List Notice) :
    ((new callId time).takeAll notices).Unbridged := by
  induction notices using List.reverseRecOn with
  | nil => exact unbridged_new callId time
  | append_singleton notices last ih =>
    rw [takeAll_append]
    have noted : (((new callId time).takeAll notices).note last.name last.time).Unbridged := ih
    exact noted.react last.event

/-- A move of the table is made; an attempt that fails ends the call if none was answered. -/
theorem status_take_of_moves {session : Session} (unbridged : session.Unbridged) {notice : Notice}
    {status : CallStatus} (moves : CallStatus.Moves notice.event session.status status)
    (unanswered : status = .ended .failed → session.answered = false) :
    (session.take notice).status = status := by
  have noted : (session.note notice.name notice.time).Unbridged := unbridged
  exact status_react_of_moves noted moves unanswered

theorem rank_takeAll (session : Session) (notices : List Notice) :
    session.status.rank ≤ (session.takeAll notices).status.rank := by
  induction notices generalizing session with
  | nil => exact Nat.le_refl _
  | cons notice rest ih =>
    exact Nat.le_trans ((session.note notice.name notice.time).rank_react notice.event) (ih _)

/-- A call that is over stays as it ended. -/
theorem status_takeAll_of_terminal {session : Session} (ended : session.status.isTerminal = true)
    (notices : List Notice) : (session.takeAll notices).status = session.status := by
  induction notices generalizing session with
  | nil => rfl
  | cons notice rest ih =>
    have same : (session.take notice).status = session.status := by
      rcases session.status_take notice with same | moves
      · exact same
      · rw [moves.going] at ended
        cases ended
    exact (ih (same ▸ ended)).trans same

end Session

end Switchboard
