/-
**What every event does to the record of a call, and what none does.**

`Session.Precedes` relates an earlier record of a call to a later one: the call is the same, the
history has only grown, and a conversation that has started stays so. Every event of the call leads
to such a record, with one entry more (`precedes_apply`, `history_apply`). So a snapshot tells how far
the record had come, and no later one equals it (`metadata_inj`).

What a record can tell of an event, and under which conditions, is listed in `Announces`, with one
line for each notification (`announces_react`).
-/

import Switchboard.Call.Session

namespace Switchboard.Session

/-! ### The kinds of events -/

/-- Whether the identity and the history of a call are kept, and the mark that its conversation has
started. -/
structure Keeps (before after : Session) : Prop where
  callId : after.callId = before.callId
  history : after.history = before.history
  started : before.conversationStarted = true → after.conversationStarted = true

theorem Keeps.refl (session : Session) : session.Keeps session :=
  ⟨rfl, rfl, id⟩

theorem keeps_onNewChannel (session : Session)
    (channelState callerNumber callerName channel : Option String) :
    session.Keeps (session.onNewChannel channelState callerNumber callerName channel).1 := by
  unfold onNewChannel
  cases callerNumber with
  | none => exact ⟨rfl, rfl, id⟩
  | some number =>
    dsimp only
    split
    · exact ⟨rfl, rfl, id⟩
    · exact ⟨rfl, rfl, fun _ => rfl⟩

theorem keeps_onDialBegin (session : Session) (dialString destId : Option String) :
    session.Keeps (session.onDialBegin dialString destId).1 := by
  unfold onDialBegin
  split
  · exact ⟨rfl, rfl, id⟩
  · exact ⟨rfl, rfl, id⟩
  · exact .refl session
  · exact .refl session

theorem keeps_onDialEnd (session : Session) (dialStatus : Option String) :
    session.Keeps (session.onDialEnd dialStatus).1 := by
  unfold onDialEnd
  split
  · dsimp only
    split
    · exact ⟨rfl, rfl, id⟩
    · split
      · exact ⟨rfl, rfl, id⟩
      · exact ⟨rfl, rfl, id⟩
  · exact .refl session
  · exact .refl session
  · exact .refl session

theorem keeps_onBridgeEnter (session : Session) (bridgeId peer : Option String) :
    session.Keeps (session.onBridgeEnter bridgeId peer).1 := by
  unfold onBridgeEnter
  split
  · exact ⟨rfl, rfl, id⟩
  · exact ⟨rfl, rfl, id⟩
  · exact ⟨rfl, rfl, id⟩
  · exact .refl session

theorem keeps_onBridgeLeave (session : Session) : session.Keeps session.onBridgeLeave.1 := by
  unfold onBridgeLeave
  split
  · exact ⟨rfl, rfl, id⟩
  · exact .refl session

theorem keeps_onHangup (session : Session) (cause : Option String) :
    session.Keeps (session.onHangup cause).1 := by
  unfold onHangup
  split <;> exact ⟨rfl, rfl, id⟩

theorem keeps_onRecording (session : Session) (path : String) :
    session.Keeps (session.onRecording path).1 := by
  unfold onRecording
  split
  · exact .refl session
  · exact ⟨rfl, rfl, id⟩

theorem keeps_react (session : Session) (event : CallEvent) :
    session.Keeps (session.react event).1 := by
  cases event with
  | newChannel state number name channel =>
    exact session.keeps_onNewChannel state number name channel
  | dialBegin dialString destId => exact session.keeps_onDialBegin dialString destId
  | dialEnd dialStatus destId => exact session.keeps_onDialEnd dialStatus
  | bridgeEnter bridgeId peer => exact session.keeps_onBridgeEnter bridgeId peer
  | bridgeLeave bridgeId => exact session.keeps_onBridgeLeave
  | hangup cause => exact session.keeps_onHangup cause
  | recording path => exact session.keeps_onRecording path
  | ignoredVariable => exact .refl session
  | other => exact .refl session

/-! ### What can be told -/

/-- What a record can tell of an event, with the conditions under which it does. -/
inductive Announces (session : Session) : CallEvent → SessionChange → Prop
  | started {state name channel : Option String} {number : String}
      (fresh : session.conversationStarted = false) (going : session.status.isTerminal = false)
      (rings : (CallEvent.newChannel state (some number) name channel).isRinging = true) :
      Announces session (.newChannel state (some number) name channel)
        (.conversationStarted number name state)
  | dialing {dialString destId : Option String}
      (early : session.status.rank < CallStatus.bridged.rank) :
      Announces session (.dialBegin dialString destId)
        (.updated session.status ("Call dialing to " ++ dialString.getD "unknown" ++ "..."))
  | attempted {dialStatus destId : Option String} (dialing : session.status = .dialing) :
      Announces session (.dialEnd dialStatus destId)
        (.updated session.status ("Call attempt ended. Status: " ++ dialStatus.getD ""))
  | connected {bridgeId peer : Option String}
      (early : session.status.rank < CallStatus.bridged.rank) :
      Announces session (.bridgeEnter bridgeId peer) (.updated session.status "Call connected.")
  | parted {bridgeId : Option String} (bridged : session.status = .bridged)
      (inside : session.bridgeLeft = false) :
      Announces session (.bridgeLeave bridgeId)
        (.updated session.status "Call disconnected from bridge.")
  | hungUp {cause : Option String} (going : session.status.isTerminal = false) :
      Announces session (.hangup cause)
        (.updated session.status ("Call hung up. Reason: " ++ cause.getD "unknown"))
  | recorded {path : String} (other : session.recordingPath ≠ some path) :
      Announces session (.recording path)
        (.updated session.status ("Call recording available: " ++ path))

theorem announces_react {session : Session} {event : CallEvent} {change : SessionChange}
    (told : (session.react event).2 = some change) : session.Announces event change := by
  cases event with
  | newChannel state number name channel =>
    simp only [react, onNewChannel] at told
    cases number with
    | none => cases told
    | some number =>
      dsimp only at told
      split at told
      · cases told
      · next starts =>
        cases told
        simp only [Bool.or_eq_true, not_or, Bool.not_eq_true, Bool.not_eq_true',
          Bool.not_eq_false] at starts
        exact .started starts.1.1 starts.1.2 starts.2
  | dialBegin dialString destId =>
    simp only [react, onDialBegin] at told
    split at told
    · next status =>
      cases told
      exact .dialing (by rw [status]; decide)
    · next status =>
      cases told
      exact .dialing (by rw [status]; decide)
    · cases told
    · cases told
  | dialEnd dialStatus destId =>
    simp only [react, onDialEnd] at told
    split at told
    · next status =>
      have change : some (SessionChange.updated session.status
          ("Call attempt ended. Status: " ++ dialStatus.getD "")) = some change := by
        rw [status, ← told]
        split
        · rfl
        · split <;> rfl
      cases change
      exact .attempted status
    all_goals cases told
  | bridgeEnter bridgeId peer =>
    simp only [react, onBridgeEnter] at told
    split at told
    · next status =>
      cases told
      exact .connected (by rw [status]; decide)
    · next status =>
      cases told
      exact .connected (by rw [status]; decide)
    · cases told
    · cases told
  | bridgeLeave bridgeId =>
    simp only [react, onBridgeLeave] at told
    split at told
    · next status inside =>
      cases told
      rw [← status]
      exact .parted status inside
    · cases told
  | hangup cause =>
    simp only [react, onHangup] at told
    split at told
    · cases told
    all_goals
      next status =>
      cases told
      exact .hungUp (by rw [status]; rfl)
  | recording path =>
    simp only [react, onRecording] at told
    split at told
    · cases told
    · next other =>
      cases told
      exact .recorded other
  | ignoredVariable => cases told
  | other => cases told

/-- An update tells the status before it. -/
theorem Announces.previous_eq {session : Session} {event : CallEvent} {previous : CallStatus}
    {summary : String} (told : session.Announces event (.updated previous summary)) :
    previous = session.status := by
  cases told <;> rfl

/-- A conversation starts where none had. -/
theorem started_of_react {session : Session} {event : CallEvent} {number : String}
    {name state : Option String}
    (change : (session.react event).2 = some (.conversationStarted number name state)) :
    session.conversationStarted = false ∧ (session.react event).1.conversationStarted = true := by
  cases announces_react change with
  | @started _ _ channel _ fresh going rings =>
    refine ⟨fresh, ?_⟩
    simp [react, onNewChannel, fresh, going, rings]

/-! ### Events of the call -/

/-- Whether one record may be a later state of another. -/
structure Precedes (before after : Session) : Prop where
  callId : after.callId = before.callId
  history : before.history <+: after.history
  started : before.conversationStarted = true → after.conversationStarted = true

theorem Precedes.refl (session : Session) : session.Precedes session :=
  ⟨rfl, List.prefix_rfl, id⟩

theorem Precedes.trans {first second third : Session} (left : first.Precedes second)
    (right : second.Precedes third) : first.Precedes third where
  callId := right.callId.trans left.callId
  history := left.history.trans right.history
  started := fun started => right.started (left.started started)

/-- Every event of a call enters its history. -/
theorem history_apply (session : Session) (event : CallEvent) (name : String) (time : Timestamp) :
    (session.apply event name time).1.history = session.history ++ [⟨name, time⟩] :=
  ((session.note name time).keeps_react event).history

theorem precedes_apply (session : Session) (event : CallEvent) (name : String) (time : Timestamp) :
    session.Precedes (session.apply event name time).1 := by
  have keeps := (session.note name time).keeps_react event
  refine ⟨keeps.callId, ?_, keeps.started⟩
  rw [history_apply]
  exact List.prefix_append _ _

/-- A snapshot names the call and tells how many events have entered the history. -/
theorem metadata_inj {first second : Session} (same : first.metadata = second.metadata) :
    first.callId = second.callId ∧ first.history.length = second.history.length := by
  unfold metadata at same
  simp only [Json.obj.injEq, List.cons.injEq, Prod.mk.injEq, Json.str.injEq, Json.int.injEq,
    Int.natCast_inj, true_and, and_true] at same
  exact ⟨same.1, same.2.2.2.2.2.2.2.2.2.2.2.2.2⟩

/-- No snapshot of a record equals one of a record with more events behind it. -/
theorem Precedes.metadata_ne {before after later : Session} (precedes : before.Precedes after)
    (grown : after.history.length < later.history.length) : later.metadata ≠ before.metadata := by
  intro same
  have := (metadata_inj same).2
  have := precedes.history.length_le
  omega

end Switchboard.Session
