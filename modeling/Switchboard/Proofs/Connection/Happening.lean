/-
**What happens to a link, and what its connection notices.**

Beside the callers a frame arrives, the stream ends, the reader reports why, the handlers take an
event. Each of these is a step of the link (`Link.happen`); the connection's status changes only
when a reader reports (`Connection.happen_status`), and never to `ready`. A reader that has been cut
off may report as well; where there is none, nothing happens late (`Connection.straggle_of_nil`).

* `Link.Honest`: the correlator is closed exactly when the reader has ended, and for its reason;
* `Link.binds?`: the response that a step gives to the caller of a ticket;
* `Link.Over`, `Connection.exists_left`: the link that is left behind when the client ends it.
-/

import Switchboard.Connection
import Switchboard.Proofs.Exchange.Closing

namespace Switchboard

/-- The reason for which a reader has ended. -/
def Reader.reason? : Reader → Option DisconnectReason
  | reading => none
  | closing reason | stopped reason => some reason

/-- The reason that a reader has still to report. -/
def Reader.closingReason? : Reader → Option DisconnectReason
  | closing reason => some reason
  | reading | stopped _ => none

/-! ### Links -/

namespace Link

open Correlator (Course)

/-- One step of a link beside its callers; a step that cannot be taken changes nothing. -/
def happen (link : Link) (happening : Happening) : Link :=
  match happening, link.reader with
  | .heard frame, .reading => link.hear frame
  | .ended reason, .reading => link.release reason
  | .reported, .closing reason => link.stop reason
  | .taken, _ => { link with events := link.events.take }
  | .handled, _ => { link with events := link.events.finish }
  | _, _ => link

/-- What a step beside the callers can be: a frame or the end of the stream while the reader reads,
the report of a reader that has ended, or something that only the handlers notice. -/
theorem happen_cases (link : Link) (happening : Happening) :
    (∃ frame, happening = .heard frame ∧ link.reader = .reading ∧
      link.happen happening = link.hear frame) ∨
    (∃ reason, happening = .ended reason ∧ link.reader = .reading ∧
      link.happen happening = link.release reason) ∨
    (∃ reason, happening = .reported ∧ link.reader = .closing reason ∧
      link.happen happening = link.stop reason) ∨
    ∃ events, link.happen happening = { link with events } := by
  obtain ⟨correlator, reader, events, written⟩ := link
  cases happening with
  | heard frame =>
    cases reader with
    | reading => exact .inl ⟨frame, rfl, rfl, rfl⟩
    | _ => exact .inr (.inr (.inr ⟨events, rfl⟩))
  | ended reason =>
    cases reader with
    | reading => exact .inr (.inl ⟨reason, rfl, rfl, rfl⟩)
    | _ => exact .inr (.inr (.inr ⟨events, rfl⟩))
  | reported =>
    cases reader with
    | closing reason => exact .inr (.inr (.inl ⟨reason, rfl, rfl, rfl⟩))
    | _ => exact .inr (.inr (.inr ⟨events, rfl⟩))
  | taken => exact .inr (.inr (.inr ⟨events.take, rfl⟩))
  | handled => exact .inr (.inr (.inr ⟨events.finish, rfl⟩))
  | late place act => exact .inr (.inr (.inr ⟨events, rfl⟩))

theorem hear_correlator (link : Link) (frame : Frame) :
    (link.hear frame).correlator =
      match frame with
      | .response response => link.correlator.resolve response
      | _ => link.correlator := by
  cases frame <;> rfl

@[simp]
theorem hear_written (link : Link) (frame : Frame) : (link.hear frame).written = link.written := by
  cases frame <;> rfl

/-- Nothing is written beside the callers. -/
@[simp]
theorem happen_written (link : Link) (happening : Happening) :
    (link.happen happening).written = link.written := by
  rcases link.happen_cases happening with
    ⟨frame, -, -, now⟩ | ⟨reason, -, -, now⟩ | ⟨reason, -, -, now⟩ | ⟨events, now⟩ <;> rw [now]
  · exact hear_written link frame
  · rfl
  · rfl

theorem happen_course (link : Link) (happening : Happening) :
    ∃ given, Course link.correlator given (link.happen happening).correlator := by
  rcases link.happen_cases happening with
    ⟨frame, -, -, now⟩ | ⟨reason, -, -, now⟩ | ⟨reason, -, -, now⟩ | ⟨events, now⟩ <;> rw [now]
  · rw [hear_correlator]
    cases frame with
    | response response => exact ⟨_, Course.stay.resolve response⟩
    | _ => exact ⟨_, .stay⟩
  · exact ⟨_, Course.stay.close reason⟩
  · exact ⟨_, .stay⟩
  · exact ⟨_, .stay⟩

theorem happen_attended {link : Link} (attended : link.correlator.Attended)
    (happening : Happening) : (link.happen happening).correlator.Attended := by
  obtain ⟨given, course⟩ := link.happen_course happening
  exact course.attended attended

/-- Nobody gets in line beside the callers. -/
@[simp]
theorem length_happen (link : Link) (happening : Happening) :
    (link.happen happening).correlator.mailboxes.length = link.correlator.mailboxes.length := by
  rcases link.happen_cases happening with
    ⟨frame, -, -, now⟩ | ⟨reason, -, -, now⟩ | ⟨reason, -, -, now⟩ | ⟨events, now⟩ <;> rw [now]
  · rw [hear_correlator]
    cases frame with
    | response response => exact Correlator.length_resolve _ _
    | _ => rfl
  · exact Correlator.length_close _ _
  · rfl

/-! ### The reader and the correlator -/

/-- Whether the correlator is closed exactly when the reader has ended, and for its reason. -/
def Honest (link : Link) : Prop :=
  link.correlator.closed = link.reader.reason?

theorem honest_new (queueSize dropped : Nat) : (new queueSize dropped).Honest := rfl

theorem Honest.happen {link : Link} (honest : link.Honest) (happening : Happening) :
    (link.happen happening).Honest := by
  unfold Honest at honest ⊢
  rcases link.happen_cases happening with
    ⟨frame, -, reading, now⟩ | ⟨reason, -, reading, now⟩ | ⟨reason, -, closing, now⟩ |
    ⟨events, now⟩ <;> rw [now]
  · rw [hear_reader, ← honest, hear_correlator]
    cases frame with
    | response response => exact Correlator.resolve_closed _ _
    | _ => rfl
  · rw [reading] at honest
    show (link.correlator.close reason).closed = _
    rw [Correlator.close_closed, honest]
    rfl
  · rw [closing] at honest
    exact honest
  · exact honest

/-- Where the correlator is open the reader reads. -/
theorem Honest.reading {link : Link} (honest : link.Honest)
    (isOpen : link.correlator.closed = none) : link.reader = .reading := by
  unfold Honest at honest
  rw [isOpen] at honest
  cases reader : link.reader with
  | reading => rfl
  | _ =>
    rw [reader] at honest
    cases honest

/-! ### What a caller gets beside the callers -/

/-- The response that a step gives to the caller of a ticket. -/
def binds? (link : Link) (ticket : Nat) : Happening → Option Response
  | .heard (.response response) =>
    if link.correlator.mailbox ticket = .waiting ∧
        (link.happen (.heard (.response response))).correlator.mailbox ticket = .answered response
      then some response
    else none
  | _ => none

/-- A caller that is given a response has waited, and finds it in its mailbox. -/
theorem mailbox_of_bound {link : Link} {ticket : Nat} {happening : Happening} {response : Response}
    (bound : link.binds? ticket happening = some response) :
    link.correlator.mailbox ticket = .waiting ∧
      (link.happen happening).correlator.mailbox ticket = .answered response := by
  unfold binds? at bound
  split at bound
  · split at bound
    · next both =>
      cases bound
      exact both
    · cases bound
  · cases bound

/-- A caller that is given no response finds in its mailbox what was there, or the reason why the
stream has ended. -/
theorem mailbox_happen_of_unbound {link : Link} {ticket : Nat} {happening : Happening}
    (unbound : link.binds? ticket happening = none) :
    (link.happen happening).correlator.mailbox ticket = link.correlator.mailbox ticket ∨
      link.correlator.mailbox ticket = .waiting ∧
        ∃ reason, (link.happen happening).correlator.mailbox ticket = .released reason := by
  rcases link.happen_cases happening with
    ⟨frame, rfl, -, now⟩ | ⟨reason, -, -, now⟩ | ⟨reason, -, -, now⟩ | ⟨events, now⟩
  · cases frame with
    | response response =>
      left
      have box : (link.happen (.heard (.response response))).correlator.mailbox ticket =
          (link.correlator.resolve response).mailbox ticket := by rw [now, hear_correlator]
      have passed : ¬(link.correlator.recipient? response = some ticket ∧
          link.correlator.mailbox ticket = .waiting) := by
        intro both
        rw [Correlator.mailbox_resolve, if_pos both] at box
        simp only [binds?, both.2, box, and_self, if_true] at unbound
        cases unbound
      rw [box, Correlator.mailbox_resolve, if_neg passed]
    | _ =>
      rw [now]
      exact .inl rfl
  · rw [now]
    show (link.correlator.close reason).mailbox ticket = _ ∨ _ ∧ ∃ given,
      (link.correlator.close reason).mailbox ticket = .released given
    rw [Correlator.mailbox_close]
    split
    · next both => exact .inr ⟨both.2, reason, rfl⟩
    · exact .inl rfl
  · rw [now]
    exact .inl rfl
  · rw [now]
    exact .inl rfl

/-! ### The end of a link -/

/-- Whether a link is over: its correlator is closed, nobody is in line, and there is something to
take for everybody. -/
structure Over (link : Link) : Prop where
  closed : link.correlator.closed ≠ none
  empty : link.correlator.pendingCount = 0
  settled : ∀ pending, (link.correlator.arrived? pending).isSome = true

/-- A link is over once its client has closed it. -/
theorem over_of_close {link left : Link} (attended : link.correlator.Attended)
    (closes : left.correlator = link.correlator.close .clientRequested) : left.Over := by
  have closed : left.correlator.closed ≠ none := by
    rw [closes, Correlator.close_closed]
    cases link.correlator.closed <;> exact Option.some_ne_none _
  have attended' : left.correlator.Attended := closes ▸ attended.close .clientRequested
  exact ⟨closed, attended'.pendingCount_eq_zero closed, attended'.arrived_isSome closed⟩

end Link

/-! ### Connections -/

namespace Connection

variable {connection : Connection} {link : Link}

/-! ### Readers that have been cut off -/

@[simp]
theorem straggle_link (connection : Connection) (place : Nat) (act : LateAct) :
    (connection.straggle place act).link = connection.link := by
  unfold straggle
  split <;> rfl

@[simp]
theorem straggle_settings (connection : Connection) (place : Nat) (act : LateAct) :
    (connection.straggle place act).settings = connection.settings := by
  unfold straggle
  split <;> rfl

@[simp]
theorem straggle_past (connection : Connection) (place : Nat) (act : LateAct) :
    (connection.straggle place act).past = connection.past := by
  unfold straggle
  split <;> rfl

/-- Without readers that have been cut off nothing happens late. -/
theorem straggle_of_nil (none : connection.stragglers = []) (place : Nat) (act : LateAct) :
    connection.straggle place act = connection := by
  unfold straggle
  rw [none]
  rfl

theorem reportedStatus_cases (status : ConnectionStatus) (reason : DisconnectReason) :
    reportedStatus status reason = status ∨
      ∃ given, reportedStatus status reason = .failed given := by
  unfold reportedStatus
  split
  · exact .inl rfl
  · exact .inr ⟨reason, rfl⟩

/-- No report makes a connection ready. -/
theorem reports_unready {status : ConnectionStatus} (unready : status ≠ .ready)
    (reports : List DisconnectReason) : reports.foldl reportedStatus status ≠ .ready := by
  induction reports generalizing status with
  | nil => exact unready
  | cons reason rest ih =>
    refine ih ?_
    rcases reportedStatus_cases status reason with same | ⟨given, failed⟩
    · rwa [same]
    · rw [failed]
      exact ConnectionStatus.noConfusion

/-- What a reader that has been cut off reports, if this is what happens. -/
def lateReport? (connection : Connection) : Happening → Option DisconnectReason
  | .late place .reported => connection.stragglers[place]?.bind Reader.closingReason?
  | _ => none

/-- Without readers that have been cut off nothing is reported late. -/
theorem lateReport_of_nil (none : connection.stragglers = []) (happening : Happening) :
    connection.lateReport? happening = Option.none := by
  unfold lateReport?
  rw [none]
  cases happening with
  | late place act => cases act <;> rfl
  | _ => rfl

/-- What readers that have been cut off report along happenings, in order. -/
def lateReports (connection : Connection) : List Happening → List DisconnectReason
  | [] => []
  | first :: rest =>
    (connection.lateReport? first).toList ++ (connection.happen first).lateReports rest

/-- What is late leaves the status alone, unless it is a report. -/
theorem straggle_status (connection : Connection) (place : Nat) (act : LateAct) :
    (connection.straggle place act).status =
      (connection.lateReport? (.late place act)).toList.foldl reportedStatus connection.status := by
  unfold straggle lateReport?
  cases act <;> dsimp only <;> rcases connection.stragglers[place]? with _ | _ | _ | _ <;> rfl

/-! ### One step beside the callers -/

@[simp]
theorem happen_late (connection : Connection) (place : Nat) (act : LateAct) :
    connection.happen (.late place act) = connection.straggle place act := by
  unfold happen
  cases connection.link <;> rfl

/-- What happens beside the callers happens to the link. -/
theorem happen_link (there : connection.link = some link) (happening : Happening) :
    (connection.happen happening).link = some (link.happen happening) := by
  obtain ⟨correlator, reader, events, written⟩ := link
  cases happening with
  | late place act =>
    rw [happen_late, straggle_link, there]
    rfl
  | taken | handled =>
    unfold happen Link.happen
    rw [there]
  | heard _ | ended _ | reported =>
    unfold happen Link.happen
    rw [there]
    cases reader <;> first | rfl | exact there

/-- Without a link, there is nothing but what is late. -/
theorem happen_link_of_none (nothing : connection.link = none) (happening : Happening) :
    (connection.happen happening).link = none := by
  cases happening with
  | late place act => rw [happen_late, straggle_link, nothing]
  | _ =>
    unfold happen
    rwa [nothing]

@[simp]
theorem happen_settings (connection : Connection) (happening : Happening) :
    (connection.happen happening).settings = connection.settings := by
  unfold happen
  split
  · exact straggle_settings ..
  · rfl
  · split <;> rfl

@[simp]
theorem happen_past (connection : Connection) (happening : Happening) :
    (connection.happen happening).past = connection.past := by
  unfold happen
  split
  · exact straggle_past ..
  · rfl
  · split <;> rfl

/-- Nobody is cut off beside the client. -/
theorem happen_stragglers (none : connection.stragglers = []) (happening : Happening) :
    (connection.happen happening).stragglers = [] := by
  unfold happen
  split
  · rwa [straggle_of_nil none]
  · exact none
  · split <;> exact none

/-- The status changes when a reader reports, and at no other time. -/
theorem happen_status (there : connection.link = some link) (happening : Happening) :
    (connection.happen happening).status =
      match happening, link.reader with
      | .reported, .closing reason => reportedStatus connection.status reason
      | .late place act, _ => (connection.straggle place act).status
      | _, _ => connection.status := by
  obtain ⟨correlator, reader, events, written⟩ := link
  cases happening with
  | late place act => rw [happen_late]
  | taken | handled =>
    unfold happen
    rw [there]
  | heard _ | ended _ | reported =>
    unfold happen
    rw [there]
    cases reader <;> rfl

/-- Without a link, the status changes only by what is reported late. -/
theorem happen_status_of_none (nothing : connection.link = none) (happening : Happening) :
    (connection.happen happening).status =
      (connection.lateReport? happening).toList.foldl reportedStatus connection.status := by
  cases happening with
  | late place act =>
    rw [happen_late]
    exact connection.straggle_status place act
  | _ =>
    unfold happen
    rw [nothing]
    rfl

/-- Nothing beside the callers makes a connection ready. -/
theorem happen_unready (unready : connection.status ≠ .ready) (happening : Happening) :
    (connection.happen happening).status ≠ .ready := by
  cases there : connection.link with
  | none =>
    rw [happen_status_of_none there]
    exact reports_unready unready _
  | some link =>
    rw [happen_status there]
    split
    · exact reports_unready unready [_]
    · rw [straggle_status]
      exact reports_unready unready _
    · exact unready

/-! ### Many steps beside the callers -/

theorem happenAll_link_of_none (nothing : connection.link = none) (happenings : List Happening) :
    (connection.happenAll happenings).link = none := by
  induction happenings generalizing connection with
  | nil => exact nothing
  | cons first rest ih => exact ih (happen_link_of_none nothing first)

@[simp]
theorem happenAll_settings (connection : Connection) (happenings : List Happening) :
    (connection.happenAll happenings).settings = connection.settings := by
  induction happenings generalizing connection with
  | nil => rfl
  | cons first rest ih => exact (ih _).trans (happen_settings connection first)

@[simp]
theorem happenAll_past (connection : Connection) (happenings : List Happening) :
    (connection.happenAll happenings).past = connection.past := by
  induction happenings generalizing connection with
  | nil => rfl
  | cons first rest ih => exact (ih _).trans (happen_past connection first)

theorem happenAll_unready (unready : connection.status ≠ .ready) (happenings : List Happening) :
    (connection.happenAll happenings).status ≠ .ready := by
  induction happenings generalizing connection with
  | nil => exact unready
  | cons first rest ih => exact ih (happen_unready unready first)

/-- Without a link, the status is what it was, with what is reported late on top of it. -/
theorem happenAll_status_of_none (nothing : connection.link = none)
    (happenings : List Happening) :
    (connection.happenAll happenings).status =
      (connection.lateReports happenings).foldl reportedStatus connection.status := by
  induction happenings generalizing connection with
  | nil => rfl
  | cons first rest ih =>
    rw [lateReports, List.foldl_append, ← happen_status_of_none nothing]
    exact ih (happen_link_of_none nothing first)

theorem happenAll_append (connection : Connection) (first second : List Happening) :
    connection.happenAll (first ++ second) = (connection.happenAll first).happenAll second :=
  List.foldl_append

/-! ### The end of a link -/

/-- A reader that is gone has made its report, and everybody on its link is released. -/
theorem retire_eq (there : connection.link = some link) :
    connection.retire =
      { connection.happen .reported with
        link := none
        past := (link.happen .reported).retire :: connection.past
        dropped := (link.happen .reported).events.dropped } := by
  unfold retire
  dsimp only
  rw [happen_link there]

theorem cutOff_eq (there : connection.link = some link) :
    connection.cutOff =
      { connection with
        link := none
        past := link.abandon :: connection.past
        dropped := link.events.dropped
        stragglers := withStraggler connection.stragglers link.reader } := by
  unfold cutOff
  rw [there]

/-- To cut off a reader that has stopped makes no difference. -/
theorem cutOff_of_stopped (there : connection.link = some link) {reason : DisconnectReason}
    (stopped : link.reader = .stopped reason) : connection.cutOff = connection.retire := by
  obtain ⟨correlator, reader, events, written⟩ := link
  cases stopped
  have quiet : connection.happen .reported = connection := by
    unfold happen
    rw [there]
  rw [cutOff_eq there, retire_eq there, quiet]
  rfl

theorem teardown_of_none (nothing : connection.link = none) (ending : LinkEnding) :
    connection.teardown ending = connection := by
  unfold teardown
  rw [nothing]

/-- A reader that stops within the grace is waited for. -/
theorem teardown_of_prompt (there : connection.link = some link) {ending : LinkEnding}
    (prompt : ending.readerMs ≤ connection.settings.shutdownGraceMs) :
    connection.teardown ending = connection.retire.happenAll ending.late := by
  unfold teardown
  rw [there]
  dsimp only
  rw [if_pos prompt]

/-- One that takes longer is cut off. -/
theorem teardown_of_late (there : connection.link = some link) {ending : LinkEnding}
    (late : ¬ending.readerMs ≤ connection.settings.shutdownGraceMs) :
    connection.teardown ending = connection.cutOff.happenAll ending.late := by
  unfold teardown
  rw [there]
  dsimp only
  rw [if_neg late]

/-- What happens behind the end of a link is late. -/
theorem teardown_happen (there : connection.link = some link) (ending : LinkEnding)
    (happening : Happening) :
    (connection.teardown ending).happen happening =
      connection.teardown { ending with late := ending.late ++ [happening] } := by
  unfold teardown
  rw [there]
  exact (happenAll_append _ ending.late [happening]).symm

theorem teardown_link (connection : Connection) (ending : LinkEnding) :
    (connection.teardown ending).link = none := by
  cases there : connection.link with
  | none => rw [teardown_of_none there, there]
  | some link =>
    by_cases prompt : ending.readerMs ≤ connection.settings.shutdownGraceMs
    · rw [teardown_of_prompt there prompt, retire_eq there]
      exact happenAll_link_of_none rfl _
    · rw [teardown_of_late there prompt, cutOff_eq there]
      exact happenAll_link_of_none rfl _

@[simp]
theorem teardown_settings (connection : Connection) (ending : LinkEnding) :
    (connection.teardown ending).settings = connection.settings := by
  cases there : connection.link with
  | none => rw [teardown_of_none there]
  | some link =>
    by_cases prompt : ending.readerMs ≤ connection.settings.shutdownGraceMs
    · rw [teardown_of_prompt there prompt, happenAll_settings, retire_eq there]
      exact happen_settings connection .reported
    · rw [teardown_of_late there prompt, happenAll_settings, cutOff_eq there]

theorem teardown_unready (unready : connection.status ≠ .ready) (ending : LinkEnding) :
    (connection.teardown ending).status ≠ .ready := by
  cases there : connection.link with
  | none => rwa [teardown_of_none there]
  | some link =>
    by_cases prompt : ending.readerMs ≤ connection.settings.shutdownGraceMs
    · rw [teardown_of_prompt there prompt]
      refine happenAll_unready ?_ _
      rw [retire_eq there]
      exact happen_unready unready .reported
    · rw [teardown_of_late there prompt]
      refine happenAll_unready ?_ _
      rwa [cutOff_eq there]

/-- The link that is left behind is over, and nothing more has been written to it. -/
theorem exists_left (there : connection.link = some link) (attended : link.correlator.Attended)
    (ending : LinkEnding) :
    ∃ left : Link, (connection.teardown ending).past = left :: connection.past ∧
      left.written = link.written ∧ left.Over := by
  by_cases prompt : ending.readerMs ≤ connection.settings.shutdownGraceMs
  · refine ⟨(link.happen .reported).retire, ?_, link.happen_written .reported, ?_⟩
    · rw [teardown_of_prompt there prompt, happenAll_past, retire_eq there]
    · exact Link.over_of_close (Link.happen_attended attended .reported) rfl
  · refine ⟨link.abandon, ?_, rfl, Link.over_of_close attended rfl⟩
    rw [teardown_of_late there prompt, happenAll_past, cutOff_eq there]

/-! ### Where nobody is cut off -/

/-- Whether a connection has the settings that are given, and no reader of it has been cut off. -/
structure InTime (connection : Connection) (settings : ConnectionSettings) : Prop where
  settings_eq : connection.settings = settings
  nobody : connection.stragglers = []

namespace InTime

variable {settings : ConnectionSettings}

theorem happen (inTime : connection.InTime settings) (happening : Happening) :
    (connection.happen happening).InTime settings where
  settings_eq := (happen_settings _ _).trans inTime.settings_eq
  nobody := happen_stragglers inTime.nobody happening

theorem happenAll (inTime : connection.InTime settings) (happenings : List Happening) :
    (connection.happenAll happenings).InTime settings := by
  induction happenings generalizing connection with
  | nil => exact inTime
  | cons first rest ih => exact ih (inTime.happen first)

/-- Where no reader takes longer than the grace, none is cut off. -/
theorem teardown (inTime : connection.InTime settings) {ending : LinkEnding}
    (inGrace : ending.readerMs ≤ settings.shutdownGraceMs) :
    (connection.teardown ending).InTime settings := by
  cases there : connection.link with
  | none => rwa [teardown_of_none there]
  | some link =>
    rw [← inTime.settings_eq] at inGrace
    rw [teardown_of_prompt there inGrace]
    refine happenAll ?_ _
    rw [retire_eq there]
    obtain ⟨settings_eq, nobody⟩ := inTime.happen .reported
    exact ⟨settings_eq, nobody⟩

/-- Nothing is reported late. -/
theorem lateReports (inTime : connection.InTime settings) (happenings : List Happening) :
    connection.lateReports happenings = [] := by
  induction happenings generalizing connection with
  | nil => rfl
  | cons first rest ih =>
    rw [Connection.lateReports, lateReport_of_nil inTime.nobody, ih (inTime.happen first)]
    rfl

end InTime

end Connection

end Switchboard
