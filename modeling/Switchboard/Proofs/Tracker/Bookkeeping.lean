/-
**The books of a tracker.**

Which events enter the books is a rule that needs no tracker (`Enters`): it looks at what the event
names and says, and at the events that have entered before. A tracker accepts just these
(`accepted_eq_logged`), because it has a session of a call exactly where an event of the call has
entered (`isSome_session?_run`), and its window holds the fingerprints of those that entered last
(`contains_run`).

The session of a call is the record that the events of the call make which have entered
(`session?_run`). A record that is made of events keeps them in its history and takes its times and
its last event from there (`books_takeAll`). `sessions_kept` puts both together.
-/

import Mathlib.Data.List.DropRight
import Switchboard.Proofs.Call.Transparency
import Switchboard.Proofs.Tracker.Isolation
import Switchboard.Proofs.Tracker.Order

namespace Switchboard

namespace Session

/-! ### What a record keeps of its events -/

/-- What the history keeps of an event. -/
def Notice.entry (notice : Notice) : HistoryEntry :=
  ⟨notice.name, notice.time⟩

/-- Whether these are the entries of a record, and the record was begun at the first of them and
written at the last. -/
structure Books (session : Session) (entries : List HistoryEntry) : Prop where
  history : session.history = entries
  createdAt : entries.head?.map HistoryEntry.receivedAt = some session.createdAt
  updatedAt : entries.getLast?.map HistoryEntry.receivedAt = some session.updatedAt
  lastEventName : entries.getLast?.map HistoryEntry.eventName = session.lastEventName

/-- A record that was begun at an entry has one. -/
theorem Books.history_ne_nil {session : Session} {entries : List HistoryEntry}
    (books : session.Books entries) : session.history ≠ [] := by
  rw [books.history]
  rintro rfl
  cases books.createdAt

/-- What the kind of an event does leaves the times and the last event alone. -/
theorem stamps_react (session : Session) (event : CallEvent) :
    (session.react event).1.createdAt = session.createdAt ∧
      (session.react event).1.updatedAt = session.updatedAt ∧
      (session.react event).1.lastEventName = session.lastEventName := by
  cases aside : event.isAside with
  | false =>
    -- A record has its own margin, so this is the margin behind the event as well.
    have own : session.react event = (session.react event).map (·.withMarginOf session) id :=
      session.react_withMarginOf session aside
    rw [own]
    exact ⟨rfl, rfl, rfl⟩
  | true =>
    cases event with
    | recording path =>
      simp only [react, onRecording]
      split <;> exact ⟨rfl, rfl, rfl⟩
    | ignoredVariable => exact ⟨rfl, rfl, rfl⟩
    | other => exact ⟨rfl, rfl, rfl⟩
    | newChannel | dialBegin | dialEnd | bridgeEnter | bridgeLeave | hangup => cases aside

theorem stamps_take (session : Session) (notice : Notice) :
    (session.take notice).createdAt = session.createdAt ∧
      (session.take notice).updatedAt = notice.time ∧
      (session.take notice).lastEventName = some notice.name :=
  (session.note notice.name notice.time).stamps_react notice.event

theorem books_new (callId : String) (first : Notice) :
    ((new callId first.time).take first).Books [first.entry] := by
  obtain ⟨created, updated, named⟩ := (new callId first.time).stamps_take first
  exact ⟨history_apply _ _ _ _, congrArg some created.symm, congrArg some updated.symm, named.symm⟩

/-- An event more is the last entry. -/
theorem Books.take {session : Session} {entries : List HistoryEntry} (books : session.Books entries)
    (notice : Notice) : (session.take notice).Books (entries ++ [notice.entry]) := by
  obtain ⟨created, updated, named⟩ := session.stamps_take notice
  refine ⟨?_, ?_, ?_, ?_⟩
  · rw [Session.take, history_apply, books.history]
    rfl
  · have begun : entries ≠ [] := books.history ▸ books.history_ne_nil
    rw [created, List.head?_append_of_ne_nil _ begun]
    exact books.createdAt
  · rw [List.getLast?_concat, updated]
    rfl
  · rw [List.getLast?_concat, named]
    rfl

/-- A new record that takes in events, the first of them at the time at which it begins. -/
theorem books_takeAll (callId : String) (first : Notice) (rest : List Notice) :
    ((new callId first.time).takeAll (first :: rest)).Books ((first :: rest).map Notice.entry) := by
  induction rest using List.reverseRecOn with
  | nil => exact books_new callId first
  | append_singleton rest last ih =>
    rw [← List.cons_append, takeAll_append, List.map_append]
    exact ih.take last

end Session

namespace Tracker

open Session (Notice)

/-! ### The rule -/

/-- Whether an event enters the books, behind those that have entered: it names a call, it is not
about a variable of no interest, one of its call has entered before it if its kind is unknown, and
its fingerprint is not among the last that have entered, as many as are remembered. -/
structure Enters [Digest] (settings : TrackerSettings) (log : List Event) (event : Event) : Prop where
  names : event.uniqueId ≠ none
  matters : CallEvent.ofEvent event settings.recordingVariable ≠ .ignoredVariable
  follows : CallEvent.ofEvent event settings.recordingVariable = .other →
    ∃ earlier ∈ log, earlier.uniqueId = event.uniqueId
  fresh : event.fingerprint ∉ (log.map Event.fingerprint).rtake (max 1 settings.dedupWindow)

instance [Digest] (settings : TrackerSettings) (log : List Event) (event : Event) :
    Decidable (Enters settings log event) :=
  decidable_of_iff
    (event.uniqueId ≠ none ∧
      CallEvent.ofEvent event settings.recordingVariable ≠ .ignoredVariable ∧
      (CallEvent.ofEvent event settings.recordingVariable = .other →
        ∃ earlier ∈ log, earlier.uniqueId = event.uniqueId) ∧
      event.fingerprint ∉ (log.map Event.fingerprint).rtake (max 1 settings.dedupWindow))
    ⟨fun ⟨names, matters, follows, fresh⟩ => ⟨names, matters, follows, fresh⟩,
      fun ⟨names, matters, follows, fresh⟩ => ⟨names, matters, follows, fresh⟩⟩

/-- The events that enter the books, in the order in which they come. -/
def logged [Digest] (settings : TrackerSettings) (events : List Event) : List Event :=
  events.foldl (fun log event => if Enters settings log event then log ++ [event] else log) []

theorem logged_concat [Digest] (settings : TrackerSettings) (events : List Event) (last : Event) :
    logged settings (events ++ [last]) =
      logged settings events ++ if Enters settings (logged settings events) last then [last]
        else [] := by
  unfold logged
  rw [List.foldl_append, List.foldl_cons, List.foldl_nil]
  split
  · rfl
  · exact (List.append_nil _).symm

/-! ### The filters -/

/-- An event that matters opens a session unless it is of an unknown kind. -/
theorem opensSession_eq_false_iff {said : CallEvent} (matters : said ≠ .ignoredVariable) :
    said.opensSession = false ↔ said = .other := by
  cases said <;> simp_all [CallEvent.opensSession]

/-- An event is accepted if it passes each of the filters. -/
theorem isSome_accept?_iff [Digest] (tracker : Tracker) (event : Event) :
    (tracker.accept? event).isSome = true ↔
      ∃ callId, event.uniqueId = some callId ∧
        CallEvent.ofEvent event tracker.recordingVariable ≠ .ignoredVariable ∧
        (CallEvent.ofEvent event tracker.recordingVariable = .other →
          (tracker.session? callId).isSome = true) ∧
        tracker.window.contains event.fingerprint = false := by
  unfold accept?
  cases event.uniqueId with
  | none => simp
  | some callId =>
    simp only [Option.some.injEq, exists_eq_left']
    split
    · next ignored => simp [ignored]
    · next matters =>
      rw [← opensSession_eq_false_iff matters]
      split
      · next unknown =>
        rw [Bool.and_eq_true, Bool.not_eq_true', Option.isNone_iff_eq_none] at unknown
        simp [unknown.1, unknown.2]
      · next known =>
        have follows : (CallEvent.ofEvent event tracker.recordingVariable).opensSession = false →
            (tracker.session? callId).isSome = true := by
          intro closed
          rw [closed, Bool.not_false, Bool.and_true, Bool.not_eq_true, Option.isNone_eq_false_iff]
            at known
          exact known
        rw [Option.isSome_map, Window.isSome_insert?, Bool.not_eq_true']
        exact ⟨fun fresh => ⟨matters, follows, fresh⟩, fun ⟨_, _, fresh⟩ => fresh⟩

/-! ### The session of a call -/

/-- What the record of a call is told of an event. -/
def noticeOf (settings : TrackerSettings) (event : Event) : Notice :=
  ⟨CallEvent.ofEvent event settings.recordingVariable, event.name, event.receivedAt⟩

/-- The record of a call that these events of it make, one after the other. -/
def recordOf? (settings : TrackerSettings) (callId : String) : List Event → Option Session
  | [] => none
  | first :: rest =>
    some ((Session.new callId first.receivedAt).takeAll
      ((first :: rest).map (noticeOf settings)))

theorem recordOf?_concat (settings : TrackerSettings) (callId : String) (events : List Event)
    (last : Event) :
    recordOf? settings callId (events ++ [last]) =
      some (((recordOf? settings callId events).getD (Session.new callId last.receivedAt)).take
        (noticeOf settings last)) := by
  cases events with
  | nil => rfl
  | cons first rest =>
    unfold recordOf?
    rw [List.cons_append]
    dsimp only
    rw [← List.cons_append, List.map_append, Session.takeAll_append]
    rfl

theorem isSome_recordOf? (settings : TrackerSettings) (callId : String) (events : List Event) :
    (recordOf? settings callId events).isSome = true ↔ events ≠ [] := by
  cases events with
  | nil => simp [recordOf?]
  | cons first rest => simp [recordOf?]

theorem books_recordOf? {settings : TrackerSettings} {callId : String} {events : List Event}
    {session : Session} (made : recordOf? settings callId events = some session) :
    session.Books (events.map fun event => ⟨event.name, event.receivedAt⟩) := by
  cases events with
  | nil => cases made
  | cons first rest =>
    cases made
    have books := Session.books_takeAll callId (noticeOf settings first)
      (rest.map (noticeOf settings))
    rw [← List.map_cons, List.map_map] at books
    exact books

section Run

variable [Digest] {accountId inboxId : Int} {settings : TrackerSettings} {events : List Event}

/-- The session of a call is the record that the events of the call make which were accepted. -/
theorem session?_run (accountId inboxId : Int) (settings : TrackerSettings) (events : List Event)
    (callId : String) :
    let tracker := new accountId inboxId settings
    (tracker.after events).session? callId =
      recordOf? settings callId (eventsOf callId (tracker.accepted events)) := by
  intro tracker
  induction events using List.reverseRecOn with
  | nil => rfl
  | append_singleton events last ih =>
    rw [after_append, accepted_concat]
    show ((tracker.after events).apply last).1.session? callId = _
    cases passes : (tracker.after events).accept? last with
    | none =>
      rw [apply_of_refused passes, Option.isSome_none, if_neg Bool.false_ne_true, List.append_nil]
      exact ih
    | some passed =>
      have named := uniqueId_of_accept? passes
      rw [session?_apply passes, Option.isSome_some, if_pos rfl, eventsOf_concat, named]
      by_cases own : passed.callId = callId
      · have reads : passed.callEvent = CallEvent.ofEvent last settings.recordingVariable := by
          rw [callEvent_of_accept? passes, recordingVariable_after]
          rfl
        rw [if_pos own, if_pos (congrArg some own), recordOf?_concat, ← ih]
        unfold recordFor noticeOf
        rw [← reads, own]
        rfl
      · rw [if_neg own, if_neg fun same => own (Option.some.inj same), List.append_nil]
        exact ih

/-- There is a session of a call exactly if an event of the call was accepted. -/
theorem isSome_session?_run (accountId inboxId : Int) (settings : TrackerSettings)
    (events : List Event) (callId : String) :
    let tracker := new accountId inboxId settings
    ((tracker.after events).session? callId).isSome = true ↔
      ∃ earlier ∈ tracker.accepted events, earlier.uniqueId = some callId := by
  intro tracker
  rw [session?_run, isSome_recordOf?, eventsOf, Ne, List.filter_eq_nil_iff]
  simp [tracker]

/-- The window remembers those that were accepted last. -/
theorem contains_run (accountId inboxId : Int) (settings : TrackerSettings) (events : List Event)
    (print : Fingerprint) :
    let tracker := new accountId inboxId settings
    (tracker.after events).window.contains print = true ↔
      print ∈ ((tracker.accepted events).map Event.fingerprint).rtake
        (max 1 settings.dedupWindow) := by
  intro tracker
  obtain ⟨holds, capacity⟩ := window_run accountId inboxId settings events
  unfold Window.contains
  rw [List.contains_iff_mem, holds.recent_eq, capacity, Nat.max_comm]

/-- A tracker accepts an event exactly if it enters the books behind those that were accepted. -/
theorem isSome_accept?_run (accountId inboxId : Int) (settings : TrackerSettings)
    (events : List Event) (event : Event) :
    let tracker := new accountId inboxId settings
    ((tracker.after events).accept? event).isSome = true ↔
      Enters settings (tracker.accepted events) event := by
  intro tracker
  have reads : (tracker.after events).recordingVariable = settings.recordingVariable :=
    recordingVariable_after _ events
  rw [isSome_accept?_iff, reads]
  simp only [tracker, isSome_session?_run, ← Bool.not_eq_true, contains_run]
  constructor
  · rintro ⟨callId, named, matters, follows, fresh⟩
    exact ⟨by simp [named], matters, named ▸ follows, fresh⟩
  · rintro ⟨names, matters, follows, fresh⟩
    obtain ⟨callId, named⟩ := Option.ne_none_iff_exists'.mp names
    exact ⟨callId, named, matters, named ▸ follows, fresh⟩

/-- The events that are accepted are those that enter the books. -/
theorem accepted_eq_logged (accountId inboxId : Int) (settings : TrackerSettings)
    (events : List Event) :
    (new accountId inboxId settings).accepted events = logged settings events := by
  induction events using List.reverseRecOn with
  | nil => rfl
  | append_singleton events last ih =>
    rw [accepted_concat, logged_concat, ← ih]
    simp only [isSome_accept?_run]

end Run

/-! ### One session for each call -/

theorem mem_map_putSession (session : Session) (sessions : List Session) (callId : String) :
    callId ∈ (putSession session sessions).map Session.callId ↔
      callId = session.callId ∨ callId ∈ sessions.map Session.callId := by
  induction sessions with
  | nil => simp [putSession]
  | cons first rest ih =>
    unfold putSession
    split
    · next same => simp [same]
    · rw [List.map_cons, List.mem_cons, ih, List.map_cons, List.mem_cons]
      exact or_left_comm

theorem nodup_putSession {sessions : List Session} (session : Session)
    (single : (sessions.map Session.callId).Nodup) :
    ((putSession session sessions).map Session.callId).Nodup := by
  induction sessions with
  | nil => exact List.nodup_singleton _
  | cons first rest ih =>
    obtain ⟨absent, others⟩ := List.nodup_cons.mp single
    unfold putSession
    split
    · next same => exact List.nodup_cons.mpr ⟨same ▸ absent, others⟩
    · next differ =>
      refine List.nodup_cons.mpr ⟨?_, ih others⟩
      rw [mem_map_putSession]
      rintro (same | found)
      · exact differ same
      · exact absent found

/-- No two sessions are of one call. -/
theorem nodup_after [Digest] {tracker : Tracker}
    (single : (tracker.sessions.map Session.callId).Nodup) (events : List Event) :
    ((tracker.after events).sessions.map Session.callId).Nodup := by
  induction events generalizing tracker with
  | nil => exact single
  | cons event rest ih =>
    refine @ih (tracker.apply event).1 ?_
    cases passes : tracker.accept? event with
    | none => rwa [apply_of_refused passes]
    | some passed =>
      rw [apply_of_accepted passes]
      exact nodup_putSession _ single

/-- So a session is found under its own call. -/
theorem session?_of_mem {tracker : Tracker} (single : (tracker.sessions.map Session.callId).Nodup)
    {session : Session} (member : session ∈ tracker.sessions) :
    tracker.session? session.callId = some session := by
  have there : (tracker.session? session.callId).isSome = true :=
    List.find?_isSome.mpr ⟨session, member, decide_eq_true rfl⟩
  obtain ⟨found, here⟩ := Option.isSome_iff_exists.mp there
  have same : found = session :=
    List.inj_on_of_nodup_map single (List.mem_of_find?_eq_some here) member
      (callId_of_session? here)
  rw [here, same]

/-! ### The theorem -/

/-- Whether the books of a tracker are those of a log of events. -/
structure WellKept [Digest] (tracker : Tracker) (settings : TrackerSettings) (log : List Event) :
    Prop where
  /-- Every session is stored under its own call. -/
  stored : ∀ session ∈ tracker.sessions, tracker.session? session.callId = some session
  /-- The calls that have a session are those with events in the log. -/
  known : ∀ callId, (tracker.session? callId).isSome = true ↔
    ∃ event ∈ log, event.uniqueId = some callId
  /-- A session is one of its call, and it has taken down the events of the call, of which there is
  one at least. -/
  books : ∀ callId session, tracker.session? callId = some session →
    session.callId = callId ∧ session.history ≠ [] ∧
      session.Books ((log.filter (·.uniqueId = some callId)).map fun event =>
        ⟨event.name, event.receivedAt⟩)
  /-- It is never removed, whatever comes. -/
  stays : ∀ callId more, (tracker.session? callId).isSome = true →
    ((tracker.after more).session? callId).isSome = true
  /-- A job counts the entries of the session behind the event. -/
  counted : ∀ event job, (tracker.apply event).2 = some job →
    ∃ session, (tracker.apply event).1.session? job.callId = some session ∧
      Snapshot.eventCount? job.metadata = some (session.history.length : Int)
  /-- The events that enter next are those that are accepted. -/
  enters : ∀ event, (tracker.accept? event).isSome = true ↔ Enters settings log event
  /-- Any other event changes nothing: no session, and not the window. -/
  refused : ∀ event, ¬ Enters settings log event → tracker.apply event = (tracker, none)

/-- **The books of a tracker are well kept**, after any events. They are those of the events that
enter, each by the rule, behind those before it. -/
theorem sessions_kept [Digest] (accountId inboxId : Int) (settings : TrackerSettings)
    (events : List Event) :
    ((new accountId inboxId settings).after events).WellKept settings (logged settings events) := by
  have accepts := accepted_eq_logged accountId inboxId settings events
  have fresh : ((new accountId inboxId settings).sessions.map Session.callId).Nodup :=
    List.nodup_nil
  have single := nodup_after fresh events
  have enters (event : Event) :
      (((new accountId inboxId settings).after events).accept? event).isSome = true ↔
        Enters settings (logged settings events) event :=
    accepts ▸ isSome_accept?_run accountId inboxId settings events event
  refine ⟨fun session member => session?_of_mem single member, fun callId => ?known,
    fun callId session found => ⟨callId_of_session? found, ?some, ?books⟩,
    fun callId more there => ?stays, fun event job made => ?counted, enters,
    fun event outside => ?refused⟩
  case known =>
    rw [← accepts]
    exact isSome_session?_run accountId inboxId settings events callId
  case books =>
    rw [session?_run, accepts] at found
    exact books_recordOf? found
  case some =>
    rw [session?_run] at found
    exact (books_recordOf? found).history_ne_nil
  case stays =>
    obtain ⟨session, found⟩ := Option.isSome_iff_exists.mp there
    obtain ⟨notices, later⟩ := session?_after found more
    exact Option.isSome_iff_exists.mpr ⟨_, later⟩
  case counted =>
    obtain ⟨session, change, reports, rfl⟩ := reports_of_job made
    refine ⟨session, ?_, ?_⟩
    · rw [callId_jobFor]
      exact reports.session?
    · rw [metadata_jobFor, Snapshot.eventCount?_metadata]
  case refused =>
    exact apply_of_refused (Option.not_isSome_iff_eq_none.mp (mt (enters event).mp outside))

end Tracker

end Switchboard
