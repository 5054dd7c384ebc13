/-
**What the record of a call remembers of a connection.**

A call that was connected is bridged, or it was hung up since (`EverBridged.outcome`). A call that
never was shows no trace of a bridge (`untouched_takeAll`), for only an event that leaves the call
bridged writes one (`traces_react`).

What stays behind a hangup is what the events that connected the call have told: the bridge or the
other party. So `wasBridged` tells whether the call was ever connected, unless the call is over and
neither was told (`wasBridged_iff`). Such a call is hung up without a trace, and `wasBridged` denies
that it was connected (`hangup_forgets_connection`).
-/

import Switchboard.Proofs.Call.Notification

namespace Switchboard.Session

/-! ### Events taken in one after the other -/

/-- An event of a run is taken in by the record of those before it. -/
theorem exists_heard_of_mem {session : Session} {notices : List Notice} {taken : Taken}
    (member : taken ∈ session.takings notices) :
    ∃ heard more, notices = heard ++ taken.notice :: more ∧
      taken.before = session.takeAll heard := by
  obtain ⟨earlier, later, split⟩ := List.append_of_mem member
  obtain ⟨heard, more, -, here, -, whole⟩ := takings_eq_append split
  exact ⟨heard, more, whole, here⟩

theorem exists_heard_after {session : Session} {notices : List Notice} {taken : Taken}
    (member : taken ∈ session.takings notices) :
    ∃ heard, heard <+: notices ∧ taken.after = session.takeAll heard := by
  obtain ⟨heard, more, rfl, here⟩ := exists_heard_of_mem member
  refine ⟨heard ++ [taken.notice], ⟨more, List.append_assoc _ _ _⟩, ?_⟩
  rw [takeAll_append, ← here]
  rfl

/-- A mark that each event keeps, and that some raise, is up in the end if it was before or one of
the events raises it. -/
theorem takeAll_iff_exists (mark : Session → Prop) (raises : Taken → Prop) (session : Session)
    (notices : List Notice)
    (each : ∀ taken ∈ session.takings notices,
      mark taken.after ↔ mark taken.before ∨ raises taken) :
    mark (session.takeAll notices) ↔
      mark session ∨ ∃ taken ∈ session.takings notices, raises taken := by
  induction notices generalizing session with
  | nil => simp [takings, takeAll]
  | cons notice rest ih =>
    obtain ⟨first, later⟩ := List.forall_mem_cons.mp each
    have here : mark (session.take notice) ↔ mark session ∨ raises ⟨session, notice⟩ := first
    have further := ih _ later
    show mark ((session.take notice).takeAll rest) ↔ _
    rw [further, here, takings]
    simp only [List.mem_cons, exists_eq_or_imp, or_assoc]

/-! ### What belongs to one kind of event -/

/-- What an event leaves to a record unless it is of the one kind that writes it: how the last dial
attempt ended, which bridge the call is in, and that its channel has left it. -/
structure Confined (before : Session) (event : CallEvent) (after : Session) : Prop where
  attempt : (∀ dialStatus destId, event ≠ .dialEnd dialStatus destId) →
    after.answered = before.answered ∧ after.dialStatus = before.dialStatus
  bridge : (∀ bridgeId peer, event ≠ .bridgeEnter bridgeId peer) →
    after.bridgeId = before.bridgeId ∧ after.bridgePeer = before.bridgePeer
  left : (∀ bridgeId peer, event ≠ .bridgeEnter bridgeId peer) →
    (∀ bridgeId, event ≠ .bridgeLeave bridgeId) → after.bridgeLeft = before.bridgeLeft

theorem Confined.refl (session : Session) (event : CallEvent) : session.Confined event session :=
  ⟨fun _ => ⟨rfl, rfl⟩, fun _ => ⟨rfl, rfl⟩, fun _ _ => rfl⟩

theorem confined_react (session : Session) (event : CallEvent) :
    session.Confined event (session.react event).1 := by
  cases event with
  | newChannel state number name channel =>
    simp only [react, onNewChannel]
    cases number with
    | none => exact ⟨fun _ => ⟨rfl, rfl⟩, fun _ => ⟨rfl, rfl⟩, fun _ _ => rfl⟩
    | some number =>
      dsimp only
      split <;> exact ⟨fun _ => ⟨rfl, rfl⟩, fun _ => ⟨rfl, rfl⟩, fun _ _ => rfl⟩
  | dialBegin dialString destId =>
    simp only [react, onDialBegin]
    split <;> exact ⟨fun _ => ⟨rfl, rfl⟩, fun _ => ⟨rfl, rfl⟩, fun _ _ => rfl⟩
  | dialEnd dialStatus destId =>
    refine ⟨fun others => absurd rfl (others dialStatus destId), fun _ => ?_, fun _ _ => ?_⟩
    all_goals
      simp only [react, onDialEnd]
      split
      · split
        · trivial
        · split <;> trivial
      all_goals trivial
  | bridgeEnter bridgeId peer =>
    refine ⟨fun _ => ?_, fun others => absurd rfl (others bridgeId peer),
      fun others _ => absurd rfl (others bridgeId peer)⟩
    simp only [react, onBridgeEnter]
    split <;> trivial
  | bridgeLeave bridgeId =>
    refine ⟨fun _ => ?_, fun _ => ?_, fun _ others => absurd rfl (others bridgeId)⟩
    all_goals
      simp only [react, onBridgeLeave]
      split <;> trivial
  | hangup cause =>
    simp only [react, onHangup]
    split <;> exact ⟨fun _ => ⟨rfl, rfl⟩, fun _ => ⟨rfl, rfl⟩, fun _ _ => rfl⟩
  | recording path =>
    simp only [react, onRecording]
    split <;> exact ⟨fun _ => ⟨rfl, rfl⟩, fun _ => ⟨rfl, rfl⟩, fun _ _ => rfl⟩
  | ignoredVariable => exact .refl session _
  | other => exact .refl session _

/-! ### Calls that never were connected -/

/-- Whether the call was connected after some of the events, from the first one on. -/
def EverBridged (session : Session) (notices : List Notice) : Prop :=
  ∃ heard, heard <+: notices ∧ (session.takeAll heard).status = .bridged

/-- Whether a record shows no trace of a bridge. -/
structure Untouched (session : Session) : Prop where
  bridgeId : session.bridgeId = none
  bridgePeer : session.bridgePeer = none
  inside : session.bridgeLeft = false

theorem untouched_new (callId : String) (time : Timestamp) : (new callId time).Untouched :=
  ⟨rfl, rfl, rfl⟩

theorem onBridgeEnter_of_terminal {session : Session} (ended : session.status.isTerminal = true)
    (bridgeId peer : Option String) : session.onBridgeEnter bridgeId peer = (session, none) := by
  unfold onBridgeEnter
  split
  · next status => rw [status] at ended; cases ended
  · next status => rw [status] at ended; cases ended
  · next status => rw [status] at ended; cases ended
  · rfl

theorem status_onBridgeEnter {session : Session} (going : session.status.isTerminal = false)
    (bridgeId peer : Option String) :
    (session.onBridgeEnter bridgeId peer).1.status = .bridged := by
  unfold onBridgeEnter
  split
  · rfl
  · rfl
  · next status => exact status
  · next status => rw [status] at going; cases going

/-- Only an event that leaves the call bridged writes a trace of it. -/
theorem traces_react (session : Session) (event : CallEvent) :
    (session.react event).1.status = .bridged ∨
      (session.Untouched → (session.react event).1.Untouched) := by
  have confined := session.confined_react event
  cases event with
  | bridgeEnter bridgeId peer =>
    cases ended : session.status.isTerminal with
    | false => exact .inl (status_onBridgeEnter ended bridgeId peer)
    | true =>
      refine .inr fun untouched => ?_
      show (session.onBridgeEnter bridgeId peer).1.Untouched
      rw [onBridgeEnter_of_terminal ended bridgeId peer]
      exact untouched
  | bridgeLeave bridgeId =>
    obtain ⟨sameId, samePeer⟩ := confined.bridge (by simp)
    simp only [react, onBridgeLeave] at sameId samePeer ⊢
    split
    · next status _ => exact .inl status
    · exact .inr id
  | _ =>
    refine .inr fun untouched => ?_
    obtain ⟨sameId, samePeer⟩ := confined.bridge (by simp)
    have sameLeft := confined.left (by simp) (by simp)
    exact ⟨sameId.trans untouched.bridgeId, samePeer.trans untouched.bridgePeer,
      sameLeft.trans untouched.inside⟩

/-- A call that never was connected shows no trace of a bridge. -/
theorem untouched_takeAll {session : Session} (untouched : session.Untouched)
    {notices : List Notice} (never : ¬ session.EverBridged notices) :
    (session.takeAll notices).Untouched := by
  refine takeAll_of_kept untouched ?_
  intro taken member before
  rcases taken.noted.traces_react taken.notice.event with bridged | kept
  · obtain ⟨heard, earlier, after⟩ := exists_heard_after member
    exact absurd ⟨heard, earlier, after ▸ bridged⟩ never
  · have noted : taken.noted.Untouched := ⟨before.bridgeId, before.bridgePeer, before.inside⟩
    exact kept noted

/-- A call that is connected, or was hung up, stays so or comes to be hung up. -/
theorem connected_take {session : Session} (notice : Notice)
    (connected : session.status = .bridged ∨ session.status = .ended .hungUp) :
    (session.take notice).status = .bridged ∨ (session.take notice).status = .ended .hungUp := by
  rcases session.status_take notice with same | moves
  · rwa [same]
  · generalize (session.take notice).status = later at moves ⊢
    generalize session.status = earlier at connected moves
    generalize notice.event = event at moves
    cases moves with
    | hangup going => exact .inr rfl
    | dialBegin | bridgeNew | bridgeDialing | dialFailed => simp at connected

/-- A call that was connected is bridged, or it was hung up since. -/
theorem EverBridged.outcome {session : Session} {notices : List Notice}
    (ever : session.EverBridged notices) :
    (session.takeAll notices).status = .bridged ∨
      (session.takeAll notices).status = .ended .hungUp := by
  obtain ⟨heard, ⟨more, rfl⟩, bridged⟩ := ever
  rw [takeAll_append]
  exact takeAll_of_kept
    (P := fun session => session.status = .bridged ∨ session.status = .ended .hungUp)
    (.inl bridged) fun taken _ => connected_take taken.notice

/-! ### What is told of a connection -/

/-- Whether the record names the bridge or the other party. -/
def namesBridge (session : Session) : Bool :=
  session.bridgePeer.isSome || session.bridgeId.isSome

theorem wasBridged_eq_true_iff {session : Session} :
    session.wasBridged = true ↔ session.namesBridge = true ∨ session.status = .bridged := by
  unfold wasBridged namesBridge
  rw [Bool.or_eq_true, beq_iff_eq]

/-- Whether a channel enters a bridge, at a call that goes on, and the bridge or the other party is
told. -/
def Taken.namesBridge (taken : Taken) : Bool :=
  match taken.notice.event with
  | .bridgeEnter bridgeId peer =>
    !taken.before.status.isTerminal && (peer.isSome || bridgeId.isSome)
  | _ => false

theorem Taken.bridged_of_namesBridge {taken : Taken} (names : taken.namesBridge = true) :
    taken.after.status = .bridged := by
  unfold namesBridge at names
  split at names
  · next bridgeId peer event =>
    rw [Bool.and_eq_true, Bool.not_eq_true'] at names
    have going : taken.noted.status.isTerminal = false := names.1
    rw [after_eq, event]
    exact status_onBridgeEnter going bridgeId peer
  · cases names

/-- A channel that enters a bridge adds what is told of it. -/
theorem namesBridge_onBridgeEnter {session : Session} (unbridged : session.Unbridged)
    (bridgeId peer : Option String) :
    (session.onBridgeEnter bridgeId peer).1.namesBridge =
      (session.namesBridge ||
        (!session.status.isTerminal && (peer.isSome || bridgeId.isSome))) := by
  cases early : decide (session.status.rank < CallStatus.bridged.rank) with
  | true =>
    -- The names are overwritten here, but there were none.
    obtain ⟨noPeer, noId, -⟩ := wasBridged_eq_false_iff.mp (unbridged (of_decide_eq_true early))
    unfold onBridgeEnter namesBridge
    rw [noPeer, noId]
    cases status : session.status with
    | new => rfl
    | dialing => rfl
    | bridged => simp [status, CallStatus.rank] at early
    | ended reason => simp [status, CallStatus.rank] at early
  | false =>
    unfold onBridgeEnter namesBridge
    cases status : session.status with
    | new => simp [status, CallStatus.rank] at early
    | dialing => simp [status, CallStatus.rank] at early
    | bridged =>
      cases session.bridgePeer <;> cases session.bridgeId <;> cases peer <;> cases bridgeId <;> rfl
    | ended reason => simp [CallStatus.isTerminal]

theorem Taken.namesBridge_after {taken : Taken} (unbridged : taken.before.Unbridged) :
    taken.after.namesBridge = true ↔
      taken.before.namesBridge = true ∨ taken.namesBridge = true := by
  by_cases enters : ∃ bridgeId peer, taken.notice.event = .bridgeEnter bridgeId peer
  · obtain ⟨bridgeId, peer, event⟩ := enters
    have noted : taken.noted.Unbridged := unbridged
    have told : taken.namesBridge =
        (!taken.before.status.isTerminal && (peer.isSome || bridgeId.isSome)) := by
      unfold namesBridge
      rw [event]
    rw [after_eq, event, told, ← Bool.or_eq_true]
    exact Bool.eq_iff_iff.mp (namesBridge_onBridgeEnter noted bridgeId peer)
  · have others : ∀ bridgeId peer, taken.notice.event ≠ .bridgeEnter bridgeId peer :=
      fun bridgeId peer event => enters ⟨bridgeId, peer, event⟩
    obtain ⟨sameId, samePeer⟩ := (taken.noted.confined_react taken.notice.event).bridge others
    have silent : taken.namesBridge = false := by
      unfold namesBridge
      split
      · next bridgeId peer event => exact absurd event (others bridgeId peer)
      · rfl
    rw [silent, after_eq]
    unfold Session.namesBridge
    rw [sameId, samePeer]
    simp [noted, note]

/-- The record names a bridge in the end if an event that connected the call has told it. -/
theorem namesBridge_takeAll (callId : String) (time : Timestamp) (notices : List Notice) :
    ((new callId time).takeAll notices).namesBridge = true ↔
      ∃ taken ∈ (new callId time).takings notices, taken.namesBridge = true := by
  have along := takeAll_iff_exists (fun session => session.namesBridge = true)
    (fun taken => taken.namesBridge = true) (new callId time) notices fun taken member => by
      obtain ⟨heard, -, -, before⟩ := exists_heard_of_mem member
      exact Taken.namesBridge_after (before ▸ unbridged_takeAll callId time heard)
  rw [along]
  exact or_iff_right (by simp [new, namesBridge])

/-! ### The theorem -/

/-- **What a record remembers of a connection.** `wasBridged` tells that the call was connected
after some of its events exactly if it was, and the call goes on or one of the events that connected
it has told the bridge or the other party. -/
theorem wasBridged_iff (callId : String) (time : Timestamp) (notices : List Notice) :
    let record := (new callId time).takeAll notices
    record.wasBridged = true ↔
      (new callId time).EverBridged notices ∧
        (record.status.isTerminal = false ∨
          ∃ taken ∈ (new callId time).takings notices, taken.namesBridge = true) := by
  intro record
  rw [wasBridged_eq_true_iff, namesBridge_takeAll]
  constructor
  · rintro (⟨taken, member, names⟩ | bridged)
    · obtain ⟨heard, earlier, after⟩ := exists_heard_after member
      exact ⟨⟨heard, earlier, after ▸ taken.bridged_of_namesBridge names⟩,
        .inr ⟨taken, member, names⟩⟩
    · exact ⟨⟨notices, List.prefix_rfl, bridged⟩, .inl (by rw [bridged]; rfl)⟩
  · rintro ⟨ever, going | named⟩
    · rcases ever.outcome with bridged | hungUp
      · exact .inr bridged
      · have ended : record.status.isTerminal = true := by rw [hungUp]; rfl
        rw [ended] at going
        cases going
    · exact .inl named

/-- A call that is connected without a name of the bridge or of the other party, and is hung up. -/
def anonymous : List Notice := [
  ⟨.bridgeEnter none none, "BridgeEnter", .epoch⟩,
  ⟨.hangup none, "Hangup", .epoch⟩]

/-- Hanging up forgets such a connection: the call was connected, and `wasBridged` denies it. -/
theorem hangup_forgets_connection :
    (new "1.1" .epoch).EverBridged anonymous ∧
      ((new "1.1" .epoch).takeAll anonymous).wasBridged = false ∧
      ¬ ∀ notices, (((new "1.1" .epoch).takeAll notices).wasBridged = true ↔
        (new "1.1" .epoch).EverBridged notices) := by
  have ever : (new "1.1" .epoch).EverBridged anonymous :=
    ⟨anonymous.take 1, List.take_prefix 1 anonymous, rfl⟩
  have denied : ((new "1.1" .epoch).takeAll anonymous).wasBridged = false := rfl
  refine ⟨ever, denied, fun always => ?_⟩
  have remembered := (always anonymous).mpr ever
  rw [denied] at remembered
  cases remembered

end Switchboard.Session
