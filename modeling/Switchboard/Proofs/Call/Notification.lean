/-
**What is told of a call, and in which order.**

The texts of the notifications begin differently, so a text tells the kind of its event and the
conditions under which it is told (`announces_of_reads`).

Two facts about runs carry the rest. A mark of the record that no event lowers is raised once at most
(`countP_raises`), and what no event takes away holds to the end (`takeAll_of_kept`). The marks are
that the conversation has started, that the call is connected or past that, and that it is over. What
is not taken away is that a call is not connected before it is told to be, that its channel has left
the bridge until one enters, and that the path of its recording is the one that was told last.

`notifications_disciplined` puts them together (`Discipline`).
-/

import Switchboard.Proofs.Call.Table

namespace Switchboard.Session

/-! ### The texts -/

/-- How a text begins, as far as is needed to tell notifications apart. -/
def opening (summary : String) : List Char :=
  summary.toList.take 8

theorem opening_append {front : String} (long : 8 ≤ front.toList.length) (rest : String) :
    opening (front ++ rest) = opening front := by
  unfold opening
  rw [String.toList_append, List.take_append_of_le_length long]

/-- The words that begin what is told of an event. -/
def words : CallEvent → String
  | .dialBegin _ _ => "Call dialing to "
  | .dialEnd _ _ => "Call attempt ended. Status: "
  | .bridgeEnter _ _ => "Call connected."
  | .bridgeLeave _ => "Call disconnected from bridge."
  | .hangup _ => "Call hung up. Reason: "
  | .recording _ => "Call recording available: "
  | .newChannel _ _ _ _ | .ignoredVariable | .other => ""

theorem opening_of_announces {session : Session} {event : CallEvent} {previous : CallStatus}
    {summary : String} (told : session.Announces event (.updated previous summary)) :
    opening summary = opening (words event) := by
  cases told with
  | dialing early =>
    rw [String.append_assoc]
    exact opening_append (by decide) _
  | attempted dialing => exact opening_append (by decide) _
  | connected early => rfl
  | parted bridged inside => rfl
  | hungUp going => exact opening_append (by decide) _
  | recorded other => exact opening_append (by decide) _

/-! ### Events one after the other -/

/-- An event that is taken into a record. -/
structure Taken where
  before : Session
  notice : Notice

namespace Taken

/-- The record with the event. -/
def after (taken : Taken) : Session :=
  taken.before.take taken.notice

/-- The record with the event in its history. -/
def noted (taken : Taken) : Session :=
  taken.before.note taken.notice.name taken.notice.time

/-- What is told of the event. -/
def change? (taken : Taken) : Option SessionChange :=
  (taken.before.apply taken.notice.event taken.notice.name taken.notice.time).2

/-- Whether this is the start of the conversation. -/
def starts (taken : Taken) : Bool :=
  match taken.change? with
  | some (.conversationStarted _ _ _) => true
  | _ => false

/-- Whether this is an update with a text. -/
def reads (taken : Taken) (summary : String) : Bool :=
  match taken.change? with
  | some (.updated _ told) => told = summary
  | _ => false

/-- Whether this is an update from a call that goes on to one that is over. -/
def ends (taken : Taken) : Bool :=
  match taken.change? with
  | some (.updated previous _) => !previous.isTerminal && taken.after.status.isTerminal
  | _ => false

/-- Whether the event raises a mark of the record. -/
def raises (mark : Session → Bool) (taken : Taken) : Bool :=
  !mark taken.before && mark taken.after

end Taken

/-- The events that are taken into a record one after the other, each with the record as it finds
it. -/
def takings (session : Session) : List Notice → List Taken
  | [] => []
  | notice :: rest => ⟨session, notice⟩ :: (session.take notice).takings rest

/-- Whatever the record has taken in before an event and behind it is taken in on its own. -/
theorem takings_eq_append {session : Session} {notices : List Notice} {earlier later : List Taken}
    {taken : Taken} (split : session.takings notices = earlier ++ taken :: later) :
    ∃ heard more, earlier = session.takings heard ∧ taken.before = session.takeAll heard ∧
      later = taken.after.takings more ∧ notices = heard ++ taken.notice :: more := by
  induction earlier generalizing session notices with
  | nil =>
    cases notices with
    | nil => cases split
    | cons notice rest =>
      obtain ⟨rfl, rfl⟩ := List.cons.inj split
      exact ⟨[], rest, rfl, rfl, rfl, rfl⟩
  | cons first earlier ih =>
    cases notices with
    | nil => cases split
    | cons notice rest =>
      obtain ⟨rfl, behind⟩ := List.cons.inj split
      obtain ⟨heard, more, rfl, here, there, rfl⟩ := ih behind
      exact ⟨notice :: heard, more, rfl, here, there, rfl⟩

/-- What holds and is kept by every event holds in the end. -/
theorem takeAll_of_kept {P : Session → Prop} {session : Session} {notices : List Notice}
    (begins : P session)
    (kept : ∀ taken ∈ session.takings notices, P taken.before → P taken.after) :
    P (session.takeAll notices) := by
  induction notices generalizing session with
  | nil => exact begins
  | cons notice rest ih =>
    obtain ⟨here, later⟩ := List.forall_mem_cons.mp kept
    exact ih (here begins) later

/-- What holds behind an event and is kept holds when a later one comes. -/
theorem before_of_kept {P : Session → Prop} {session : Session} {notices : List Notice}
    {earlier between later : List Taken} {first second : Taken}
    (split : session.takings notices = earlier ++ first :: (between ++ second :: later))
    (begins : P first.after) (kept : ∀ taken ∈ between, P taken.before → P taken.after) :
    P second.before := by
  obtain ⟨-, more, -, -, behind, -⟩ := takings_eq_append split
  obtain ⟨heard, -, rfl, here, -⟩ := takings_eq_append behind.symm
  rw [here]
  exact takeAll_of_kept begins kept

/-- A mark that no event lowers is raised once, if it is up in the end and was not before. -/
theorem countP_raises {mark : Session → Bool}
    (kept : ∀ session notice, mark session = true → mark (session.take notice) = true)
    (session : Session) (notices : List Notice) :
    (session.takings notices).countP (Taken.raises mark) + (mark session).toNat =
      (mark (session.takeAll notices)).toNat := by
  induction notices generalizing session with
  | nil => exact Nat.zero_add _
  | cons notice rest ih =>
    have further := ih (session.take notice)
    have stays := kept session notice
    have here : Taken.raises mark ⟨session, notice⟩ =
        (!mark session && mark (session.take notice)) := rfl
    show _ = (mark ((session.take notice).takeAll rest)).toNat
    rw [← further, takings, List.countP_cons, here]
    revert stays
    cases mark session <;> cases mark (session.take notice) <;> simp

/-- Whatever raises such a mark happens once at most. -/
theorem countP_le_one {mark : Session → Bool} {p : Taken → Bool}
    (kept : ∀ session notice, mark session = true → mark (session.take notice) = true)
    (raises : ∀ taken, p taken = true → taken.raises mark = true)
    (session : Session) (notices : List Notice) : (session.takings notices).countP p ≤ 1 := by
  have fewer := List.countP_mono_left (l := session.takings notices) fun taken _ => raises taken
  have once := countP_raises kept session notices
  have bound := Bool.toNat_le (mark (session.takeAll notices))
  omega

/-! ### What an event finds, and what it leaves -/

namespace Taken

variable {taken : Taken}

theorem after_eq (taken : Taken) : taken.after = (taken.noted.react taken.notice.event).1 :=
  rfl

theorem change?_eq (taken : Taken) : taken.change? = (taken.noted.react taken.notice.event).2 :=
  rfl

theorem announces {change : SessionChange} (told : taken.change? = some change) :
    taken.noted.Announces taken.notice.event change :=
  announces_react told

theorem reads_iff {summary : String} :
    taken.reads summary = true ↔
      taken.change? = some (.updated taken.before.status summary) := by
  unfold reads
  constructor
  · intro reads
    split at reads
    · next previous told change =>
      rw [change, ← of_decide_eq_true reads, (announces change).previous_eq]
      rfl
    · cases reads
  · intro told
    rw [told]
    exact decide_eq_true rfl

/-- The conversation starts where none had, at a call that goes on. -/
theorem raises_of_starts (starts : taken.starts = true) :
    taken.raises Session.conversationStarted = true := by
  unfold Taken.starts at starts
  split at starts
  · next number name state change =>
    obtain ⟨fresh, up⟩ := started_of_react change
    have before : taken.before.conversationStarted = false := fresh
    have after : taken.after.conversationStarted = true := up
    unfold raises
    rw [before, after]
    rfl
  · cases starts

/-- A text tells of an event whose text begins like it. -/
theorem announces_of_reads {summary : String} (reads : taken.reads summary = true) :
    opening summary = opening (words taken.notice.event) ∧
      ∃ change, taken.noted.Announces taken.notice.event change :=
  have told := announces (reads_iff.mp reads)
  ⟨opening_of_announces told, _, told⟩

theorem connected_of_reads (reads : taken.reads "Call connected." = true) :
    ∃ bridgeId peer, taken.notice.event = .bridgeEnter bridgeId peer ∧
      taken.before.status.rank < CallStatus.bridged.rank := by
  obtain ⟨begins, change, told⟩ := announces_of_reads reads
  generalize taken.notice.event = event at begins told
  cases told with
  | connected early => exact ⟨_, _, rfl, early⟩
  | _ => simp [words, opening] at begins

theorem parted_of_reads (reads : taken.reads "Call disconnected from bridge." = true) :
    ∃ bridgeId, taken.notice.event = .bridgeLeave bridgeId ∧
      taken.before.status = .bridged ∧ taken.before.bridgeLeft = false := by
  obtain ⟨begins, change, told⟩ := announces_of_reads reads
  generalize taken.notice.event = event at begins told
  cases told with
  | parted bridged inside => exact ⟨_, rfl, bridged, inside⟩
  | _ => simp [words, opening] at begins

theorem recorded_of_reads {path : String}
    (reads : taken.reads ("Call recording available: " ++ path) = true) :
    taken.notice.event = .recording path ∧ taken.before.recordingPath ≠ some path := by
  have told := announces (reads_iff.mp reads)
  have begins := opening_of_announces told
  rw [opening_append (by decide)] at begins
  generalize summary : "Call recording available: " ++ path = text at told
  generalize taken.notice.event = event at begins told
  cases told with
  | recorded other =>
    rw [String.append_right_inj] at summary
    subst summary
    exact ⟨rfl, other⟩
  | _ => simp [words, opening] at begins

end Taken

/-! ### What no event takes away -/

/-- What most events leave to a record: that its channel has left the bridge, and the path of its
recording. -/
structure Spares (before : Session) (event : CallEvent) (after : Session) : Prop where
  left : (∀ bridgeId peer, event ≠ .bridgeEnter bridgeId peer) →
    before.bridgeLeft = true → after.bridgeLeft = true
  path : (∀ path, event ≠ .recording path) → after.recordingPath = before.recordingPath

theorem Spares.refl (session : Session) (event : CallEvent) : session.Spares event session :=
  ⟨fun _ left => left, fun _ => rfl⟩

theorem spares_react (session : Session) (event : CallEvent) :
    session.Spares event (session.react event).1 := by
  cases event with
  | newChannel state number name channel =>
    simp only [react, onNewChannel]
    cases number with
    | none => exact ⟨fun _ left => left, fun _ => rfl⟩
    | some number =>
      dsimp only
      split <;> exact ⟨fun _ left => left, fun _ => rfl⟩
  | dialBegin dialString destId =>
    simp only [react, onDialBegin]
    split <;> exact ⟨fun _ left => left, fun _ => rfl⟩
  | dialEnd dialStatus destId =>
    simp only [react, onDialEnd]
    split
    · split
      · exact ⟨fun _ left => left, fun _ => rfl⟩
      · split <;> exact ⟨fun _ left => left, fun _ => rfl⟩
    all_goals exact .refl session _
  | bridgeEnter bridgeId peer =>
    refine ⟨fun others => absurd rfl (others bridgeId peer), fun _ => ?_⟩
    simp only [react, onBridgeEnter]
    split <;> rfl
  | bridgeLeave bridgeId =>
    simp only [react, onBridgeLeave]
    split
    · exact ⟨fun _ _ => rfl, fun _ => rfl⟩
    · exact .refl session _
  | hangup cause =>
    simp only [react, onHangup]
    split <;> exact ⟨fun _ left => left, fun _ => rfl⟩
  | recording path =>
    refine ⟨fun _ left => ?_, fun others => absurd rfl (others path)⟩
    simp only [react, onRecording]
    split <;> exact left
  | ignoredVariable => exact .refl session _
  | other => exact .refl session _

/-! ### What an event does that is told of -/

theorem recordingPath_onRecording (session : Session) (path : String) :
    (session.onRecording path).1.recordingPath = some path := by
  unfold onRecording
  split
  · next same => exact same
  · rfl

theorem onRecording_of_other {session : Session} {path : String}
    (other : session.recordingPath ≠ some path) :
    (session.onRecording path).2 =
      some (.updated session.status ("Call recording available: " ++ path)) := by
  unfold onRecording
  rw [if_neg other]

theorem bridgeLeft_onBridgeLeave {session : Session} (bridged : session.status = .bridged) :
    session.onBridgeLeave.1.bridgeLeft = true := by
  unfold onBridgeLeave
  cases inside : session.bridgeLeft <;> simp [bridged, inside]

/-- A channel that enters a bridge connects a call that was not connected yet, and this is told. -/
theorem onBridgeEnter_of_early {session : Session}
    (early : session.status.rank < CallStatus.bridged.rank) (bridgeId peer : Option String) :
    (session.onBridgeEnter bridgeId peer).1.status = .bridged ∧
      (session.onBridgeEnter bridgeId peer).2 =
        some (.updated session.status "Call connected.") := by
  unfold onBridgeEnter
  cases status : session.status with
  | new => exact ⟨rfl, rfl⟩
  | dialing => exact ⟨rfl, rfl⟩
  | bridged =>
    rw [status] at early
    exact absurd early (Nat.lt_irrefl _)
  | ended reason =>
    rw [status] at early
    simp [CallStatus.rank] at early

/-- Only a channel that enters a bridge moves a call to being bridged. -/
theorem enters_of_moves {event : CallEvent} {before after : CallStatus}
    (moves : CallStatus.Moves event before after) (bridged : after = .bridged) :
    ∃ bridgeId peer, event = .bridgeEnter bridgeId peer := by
  cases moves with
  | bridgeNew => exact ⟨_, _, rfl⟩
  | bridgeDialing => exact ⟨_, _, rfl⟩
  | _ => cases bridged

/-! ### Marks -/

/-- Whether the call is connected, or past that. -/
def isPastDialing (session : Session) : Bool :=
  CallStatus.bridged.rank ≤ session.status.rank

theorem isPastDialing_take (session : Session) (notice : Notice)
    (past : session.isPastDialing = true) : (session.take notice).isPastDialing = true := by
  have grows := (session.note notice.name notice.time).rank_react notice.event
  exact decide_eq_true (Nat.le_trans (of_decide_eq_true past) grows)

theorem isTerminal_take (session : Session) (notice : Notice)
    (ended : session.status.isTerminal = true) :
    (session.take notice).status.isTerminal = true := by
  have same : (session.take notice).status = session.status :=
    status_takeAll_of_terminal ended [notice]
  rwa [same]

theorem conversationStarted_take (session : Session) (notice : Notice)
    (started : session.conversationStarted = true) :
    (session.take notice).conversationStarted = true :=
  (session.precedes_apply notice.event notice.name notice.time).started started

/-! ### One event -/

namespace Taken

variable {taken : Taken}

/-- A call is told to be connected where it was not yet, and is it then. -/
theorem raises_of_connected (reads : taken.reads "Call connected." = true) :
    taken.raises isPastDialing = true := by
  obtain ⟨bridgeId, peer, event, early⟩ := connected_of_reads reads
  have noted : taken.noted.status.rank < CallStatus.bridged.rank := early
  have after : taken.after.status = .bridged := by
    rw [after_eq, event]
    exact (onBridgeEnter_of_early noted bridgeId peer).1
  unfold raises isPastDialing
  rw [after, decide_eq_false (Nat.not_le.mpr early)]
  rfl

/-- A call that comes to be bridged is told to be connected. -/
theorem reads_of_bridged (apart : taken.before.status ≠ .bridged)
    (bridged : taken.after.status = .bridged) : taken.reads "Call connected." = true := by
  have differ : taken.after.status ≠ taken.before.status := fun same => apart (same ▸ bridged)
  have moves := (taken.before.status_take taken.notice).resolve_left differ
  obtain ⟨bridgeId, peer, event⟩ := enters_of_moves moves bridged
  have early : taken.noted.status.rank < CallStatus.bridged.rank := by
    rw [← bridged]
    exact moves.rank_lt
  rw [reads_iff, change?_eq, event]
  exact (onBridgeEnter_of_early early bridgeId peer).2

/-- A channel that is told to have left the bridge is away. -/
theorem left_of_reads (reads : taken.reads "Call disconnected from bridge." = true) :
    taken.after.bridgeLeft = true := by
  obtain ⟨bridgeId, event, bridged, -⟩ := parted_of_reads reads
  rw [after_eq, event]
  exact bridgeLeft_onBridgeLeave bridged

theorem left_after (left : taken.before.bridgeLeft = true)
    (other : ∀ bridgeId peer, taken.notice.event ≠ .bridgeEnter bridgeId peer) :
    taken.after.bridgeLeft = true :=
  (spares_react _ taken.notice.event).left other left

theorem path_of_recording {path : String} (event : taken.notice.event = .recording path) :
    taken.after.recordingPath = some path := by
  rw [after_eq, event]
  exact recordingPath_onRecording _ path

/-- The path that was told last is kept until another one is told. -/
theorem path_after {path : String} (last : taken.before.recordingPath = some path)
    (quiet : ∀ other, other ≠ path →
      taken.reads ("Call recording available: " ++ other) = false) :
    taken.after.recordingPath = some path := by
  by_cases records : ∃ given, taken.notice.event = .recording given
  · obtain ⟨given, event⟩ := records
    rw [path_of_recording event]
    by_contra differ
    have other : given ≠ path := fun same => differ (congrArg some same)
    have untold : taken.before.recordingPath ≠ some given := by
      rw [last]
      exact fun same => other (Option.some.inj same).symm
    have told : taken.reads ("Call recording available: " ++ given) = true := by
      rw [reads_iff, change?_eq, event]
      exact onRecording_of_other untold
    rw [quiet given other] at told
    cases told
  · rw [← last]
    exact (spares_react _ taken.notice.event).path fun given event => records ⟨given, event⟩

/-- The update that ends a call is given where the call comes to be over. -/
theorem ends_eq_raises (taken : Taken) :
    taken.ends = taken.raises (·.status.isTerminal) := by
  have told := taken.before.tells_apply taken.notice
  unfold ends
  show _ = (!taken.before.status.isTerminal && taken.after.status.isTerminal)
  split
  · next previous summary change =>
    have is : previous = taken.before.status := (announces change).previous_eq
    rw [is]
  · next silent =>
    rcases told with same | ⟨-, summary, change⟩
    · have still : taken.after.status = taken.before.status := same
      rw [still, Bool.not_and_self]
    · exact absurd change (silent _ summary)

end Taken

/-! ### The theorem -/

/-- What can be relied on in what a record tells of events that it takes in one after the other. -/
structure Discipline (session : Session) (notices : List Notice) : Prop where
  /-- The conversation starts once at most. -/
  startsOnce : (session.takings notices).countP Taken.starts ≤ 1
  /-- It starts while the call goes on, from a new channel that rings and names the caller. -/
  starts : ∀ taken ∈ session.takings notices, ∀ number name state,
    taken.change? = some (.conversationStarted number name state) →
      taken.before.status.isTerminal = false ∧ taken.notice.event.isRinging = true ∧
        ∃ channel, taken.notice.event = .newChannel state (some number) name channel
  /-- The call is told to be connected once at most. -/
  connectedOnce : (session.takings notices).countP (·.reads "Call connected.") ≤ 1
  /-- Its channel is told to have left the bridge after that. -/
  connectedFirst : ∀ earlier taken later,
    session.takings notices = earlier ++ taken :: later →
    taken.reads "Call disconnected from bridge." = true →
      ∃ other ∈ earlier, other.reads "Call connected." = true
  /-- Between two times that this is told a channel has entered the bridge. -/
  enteredBetween : ∀ earlier first between second later,
    session.takings notices = earlier ++ first :: (between ++ second :: later) →
    first.reads "Call disconnected from bridge." = true →
    second.reads "Call disconnected from bridge." = true →
      ∃ other ∈ between, ∃ bridgeId peer, other.notice.event = .bridgeEnter bridgeId peer
  /-- One update leads from a call that goes on to one that is over, if it is over in the end. -/
  endsOnce : (session.takings notices).countP Taken.ends =
    if (session.takeAll notices).status.isTerminal then 1 else 0
  /-- Between two times that the same recording is told another one is. -/
  recordedBetween : ∀ earlier first between second later path,
    session.takings notices = earlier ++ first :: (between ++ second :: later) →
    first.reads ("Call recording available: " ++ path) = true →
    second.reads ("Call recording available: " ++ path) = true →
      ∃ other ∈ between, ∃ given, given ≠ path ∧
        other.reads ("Call recording available: " ++ given) = true

/-- **What is told of a call is in order**, whatever its record takes in. -/
theorem notifications_disciplined (callId : String) (time : Timestamp) (notices : List Notice) :
    (new callId time).Discipline notices where
  startsOnce := countP_le_one conversationStarted_take (fun _ => Taken.raises_of_starts) _ notices
  starts := by
    intro taken _ number name state change
    have told := Taken.announces change
    generalize taken.notice.event = event at told
    cases told with
    | started fresh going rings => exact ⟨going, rings, _, rfl⟩
  connectedOnce :=
    countP_le_one isPastDialing_take (fun _ => Taken.raises_of_connected) _ notices
  connectedFirst := by
    intro earlier taken later split reads
    obtain ⟨heard, -, rfl, here, -⟩ := takings_eq_append split
    obtain ⟨-, -, bridged, -⟩ := Taken.parted_of_reads reads
    -- Only an event that is told as a connection makes a call bridged, which this one was.
    by_contra silent
    have apart : ((new callId time).takeAll heard).status ≠ .bridged := by
      refine takeAll_of_kept (P := fun session => session.status ≠ .bridged) (by simp [new]) ?_
      intro other member apart connected
      exact silent ⟨other, member, Taken.reads_of_bridged apart connected⟩
    rw [here] at bridged
    exact apart bridged
  enteredBetween := by
    intro earlier first between second later split left again
    obtain ⟨-, -, -, inside⟩ := Taken.parted_of_reads again
    -- Otherwise the channel would still be away when it is told to leave again.
    by_contra nobody
    have away : second.before.bridgeLeft = true := by
      refine before_of_kept (P := fun session => session.bridgeLeft = true) split
        (Taken.left_of_reads left) ?_
      intro other member away
      refine Taken.left_after away ?_
      intro bridgeId peer event
      exact nobody ⟨other, member, bridgeId, peer, event⟩
    rw [inside] at away
    cases away
  endsOnce := by
    have once := countP_raises isTerminal_take (new callId time) notices
    have same : Taken.ends = Taken.raises (·.status.isTerminal) := funext Taken.ends_eq_raises
    have going : (new callId time).status.isTerminal = false := rfl
    rw [same]
    rw [going] at once
    refine once.trans ?_
    cases ((new callId time).takeAll notices).status.isTerminal <;> rfl
  recordedBetween := by
    intro earlier first between second later path split told again
    obtain ⟨event, -⟩ := Taken.recorded_of_reads told
    obtain ⟨-, untold⟩ := Taken.recorded_of_reads again
    by_contra nothing
    refine untold (before_of_kept (P := fun session => session.recordingPath = some path) split
      (Taken.path_of_recording event) ?_)
    intro other member last
    refine Taken.path_after last ?_
    intro given differ
    by_contra reads
    exact nothing ⟨other, member, given, differ, by simpa using reads⟩

/-- A call whose channel goes from one bridge to another. -/
def transferred : List Notice :=
  [⟨.bridgeEnter none none, "BridgeEnter", ⟨0⟩⟩, ⟨.bridgeLeave none, "BridgeLeave", ⟨1⟩⟩,
    ⟨.bridgeEnter none none, "BridgeEnter", ⟨2⟩⟩, ⟨.bridgeLeave none, "BridgeLeave", ⟨3⟩⟩]

/-- Leaving is told each time, and entering the second bridge is not. -/
example : ((new "1.1" ⟨0⟩).takings transferred).map
    (fun taken => (taken.reads "Call connected.", taken.reads "Call disconnected from bridge.")) =
      [(true, false), (false, true), (false, false), (false, true)] := by
  decide +kernel

end Switchboard.Session
