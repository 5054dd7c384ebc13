/-
**What an attempt to connect has done so far.**

An attempt keeps its one link until it is over. How far it has come tells what has been written to
that link, and which responses its two actions have been given (`Attempt.answers`); `Knows` says so
for every stage. What happens beside the attempt may end the link at any time, and the attempt
notices when it next asks. Once it is over, the status is what it has set or what the reader of its
link has reported since, unless another reader that was cut off comes in with its own report
(`Tells`). Where every reader stops within the grace, none does (`lateReports_of_inTime`).

* `Attempt.answers`: the responses that the two callers of an attempt are given along a schedule;
* `Attempt.lateReports`: what readers that have been cut off report along a schedule;
* `Attempt.Sound`: the three ways in which an attempt may stand, under way, ready, or failed with
  its link left behind; every step keeps it (`Sound.step`), and so does every run (`sound_run`).
-/

import Switchboard.Connection.Attempt
import Switchboard.Proofs.Action.Framing
import Switchboard.Proofs.Connection.Parting

namespace Switchboard

open Text

/-! ### Sending and waiting on a link -/

namespace Link

/-- What a send comes to: the action is on the stream and its caller in line; or there is an error,
and nothing has been written but what a failing write leaves. -/
theorem send_cases (link : Link) (action : Action) (fault : Option WriteFault) :
    (link.correlator.closed = none ∧ fault = none ∧
      link.send action fault =
        (.ok (link.correlator.pendingFor action),
          { link with
            correlator := link.correlator.enlist action.actionId
            written := link.written ++ action.block })) ∨
    ∃ error correlator part,
      link.send action fault =
        (.error error, { link with correlator, written := link.written ++ part }) ∧
      correlator.closed = link.correlator.closed ∧
      (part = [] ∨ ∃ given, fault = some given ∧ part = action.block.take given.sent ∧
        error = .stream given.text) := by
  have untouched : link = { link with written := link.written ++ [] } := by rw [List.append_nil]
  unfold send
  split
  · exact .inr ⟨_, link.correlator, [], congrArg _ untouched, rfl, .inl rfl⟩
  cases state : link.correlator.closed with
  | some reason =>
    rw [Correlator.register_closed state]
    exact .inr ⟨_, link.correlator, [], congrArg _ untouched, state, .inl rfl⟩
  | none =>
    rw [Correlator.register_open state]
    cases fault with
    | none => exact .inl ⟨rfl, rfl, rfl⟩
    | some given =>
      refine .inr ⟨_, _, _, rfl, ?_, .inr ⟨given, rfl, rfl, rfl⟩⟩
      rw [Correlator.cancel_closed, Correlator.enlist_closed, state]

end Link

/-- The response in a mailbox. -/
def Mailbox.response? : Mailbox → Option Response
  | answered response => some response
  | _ => none

namespace Correlator

/-- What a caller gets: the response in its mailbox, or an error. -/
theorem collect_cases (correlator : Correlator) (pending : Pending) (limitMs : Nat) :
    (∃ response, (correlator.mailbox pending.ticket).response? = some response ∧
      (correlator.collect pending limitMs).1 = .ok response) ∨
    (correlator.mailbox pending.ticket).response? = none ∧
      ∃ error, (correlator.collect pending limitMs).1 = .error error := by
  unfold collect arrived?
  cases correlator.mailbox pending.ticket with
  | answered response => exact .inl ⟨response, rfl, rfl⟩
  | _ => exact .inr ⟨rfl, _, rfl⟩

end Correlator

/-! ### A connection and its link -/

/-- Whether a connection has a link that was made on another one, and nothing is amiss. -/
structure Connection.Holds (connection origin : Connection) (link : Link) : Prop where
  there : connection.link = some link
  past : connection.past = origin.past
  settings : connection.settings = origin.settings
  attended : link.correlator.Attended
  honest : link.Honest

namespace Connection.Holds

variable {origin connection : Connection} {link : Link}

theorem happen (holds : Holds connection origin link) (happening : Happening) :
    Holds (connection.happen happening) origin (link.happen happening) where
  there := happen_link holds.there happening
  past := (happen_past _ _).trans holds.past
  settings := (happen_settings _ _).trans holds.settings
  attended := Link.happen_attended holds.attended happening
  honest := holds.honest.happen happening

/-- A status says nothing about the link. -/
theorem withStatus (holds : Holds connection origin link) (status : ConnectionStatus) :
    Holds { connection with status } origin link :=
  ⟨holds.there, holds.past, holds.settings, holds.attended, holds.honest⟩

/-- The link may go on as long as its reader stays, and its correlator with it. -/
theorem withLink (holds : Holds connection origin link) {next : Link}
    (attended : next.correlator.Attended) (closed : next.correlator.closed = link.correlator.closed)
    (reader : next.reader = link.reader) :
    Holds { connection with link := some next } origin next where
  there := rfl
  past := holds.past
  settings := holds.settings
  attended := attended
  honest := by
    unfold Link.Honest
    rw [closed, reader]
    exact holds.honest

end Connection.Holds

/-- A wait changes nothing but the mailboxes. -/
theorem Connection.await_frame (connection : Connection) (pending : Pending) (limitMs : Nat) :
    ∃ link past, (connection.await pending limitMs).2 = { connection with link, past } := by
  unfold Connection.await
  split
  · exact ⟨_, _, rfl⟩
  · split
    · exact ⟨_, _, rfl⟩
    · exact ⟨_, _, rfl⟩

theorem Connection.InTime.await {connection : Connection} {settings : ConnectionSettings}
    (inTime : connection.InTime settings) (pending : Pending) (limitMs : Nat) :
    (connection.await pending limitMs).2.InTime settings := by
  obtain ⟨link, past, frame⟩ := connection.await_frame pending limitMs
  rw [frame]
  exact ⟨inTime.settings_eq, inTime.nobody⟩

/-- Whether the reader that a move waits for, if any, stops within the grace. -/
def Move.InGrace (graceMs : Nat) : Move → Prop
  | .undo ending => ending.readerMs ≤ graceMs
  | _ => True

instance (graceMs : Nat) : (move : Move) → Decidable (move.InGrace graceMs)
  | .undo ending => inferInstanceAs (Decidable (ending.readerMs ≤ graceMs))
  | .goOn _ | .timeUp | .beside _ => .isTrue trivial

/-- The caller for whom an attempt waits. -/
def Stage.awaited? : Stage → Option Pending
  | loggingIn pending | probing pending => some pending
  | _ => none

namespace Attempt

/-! ### What the attempt leaves alone -/

theorem endWait_frame (attempt : Attempt) (pending : Pending) (next : Response → Stage) :
    ∃ link past, (attempt.endWait pending next).connection =
      { attempt.connection with link, past } :=
  Connection.await_frame _ _ _

theorem sendAndWait_frame (attempt : Attempt) (action : Action) (fault : Option WriteFault)
    (next : Pending → Stage) :
    ∃ link, (attempt.sendAndWait action fault next).connection =
      { attempt.connection with link } := by
  unfold Attempt.sendAndWait Connection.sendOn
  split
  · exact ⟨_, rfl⟩
  · split <;> next sent => exact ⟨_, congrArg Prod.snd sent.symm⟩

theorem promote_frame (attempt : Attempt) :
    ∃ status, attempt.promote.connection = { attempt.connection with status } := by
  unfold Attempt.promote
  split
  · exact ⟨_, rfl⟩
  · split <;> exact ⟨_, rfl⟩

section InTime

variable {attempt : Attempt} {settings : ConnectionSettings}

theorem inTime_endWait (inTime : attempt.connection.InTime settings) (pending : Pending)
    (next : Response → Stage) : (attempt.endWait pending next).connection.InTime settings :=
  inTime.await _ _

theorem inTime_sendAndWait (inTime : attempt.connection.InTime settings) (action : Action)
    (fault : Option WriteFault) (next : Pending → Stage) :
    (attempt.sendAndWait action fault next).connection.InTime settings := by
  obtain ⟨link, frame⟩ := attempt.sendAndWait_frame action fault next
  rw [frame]
  exact ⟨inTime.settings_eq, inTime.nobody⟩

theorem inTime_promote (inTime : attempt.connection.InTime settings) :
    attempt.promote.connection.InTime settings := by
  obtain ⟨status, frame⟩ := attempt.promote_frame
  rw [frame]
  exact ⟨inTime.settings_eq, inTime.nobody⟩

theorem inTime_fail (inTime : attempt.connection.InTime settings) (error : BridgeError)
    {ending : LinkEnding} (inGrace : ending.readerMs ≤ settings.shutdownGraceMs) :
    (attempt.fail error ending).connection.InTime settings := by
  obtain ⟨settings_eq, nobody⟩ := inTime.teardown inGrace
  exact ⟨settings_eq, nobody⟩

theorem inTime_goOn (inTime : attempt.connection.InTime settings) (fault : Option WriteFault) :
    (attempt.goOn fault).connection.InTime settings := by
  unfold Attempt.goOn
  split
  · exact ⟨inTime.settings_eq, inTime.nobody⟩
  · exact inTime_sendAndWait inTime _ _ _
  · split
    · exact inTime_endWait inTime _ _
    · exact inTime
  · exact inTime_sendAndWait inTime _ _ _
  · split
    · exact inTime_endWait inTime _ _
    · exact inTime
  · exact inTime_promote inTime
  · exact inTime_fail inTime _ (Nat.zero_le _)
  · exact inTime

theorem inTime_timeUp (inTime : attempt.connection.InTime settings) :
    attempt.timeUp.connection.InTime settings := by
  unfold Attempt.timeUp
  split
  · exact inTime_endWait inTime _ _
  · exact inTime_endWait inTime _ _
  · exact inTime

theorem inTime_undo (inTime : attempt.connection.InTime settings) {ending : LinkEnding}
    (inGrace : ending.readerMs ≤ settings.shutdownGraceMs) :
    (attempt.undo ending).connection.InTime settings := by
  unfold Attempt.undo
  split
  · exact inTime_fail inTime _ inGrace
  · exact inTime

/-- Where the reader that a move waits for stops within the grace, the move cuts nobody off. -/
theorem inTime_step (inTime : attempt.connection.InTime settings) {move : Move}
    (inGrace : move.InGrace settings.shutdownGraceMs) :
    (attempt.step move).connection.InTime settings := by
  cases move with
  | goOn fault => exact inTime_goOn inTime fault
  | timeUp => exact inTime_timeUp inTime
  | undo ending => exact inTime_undo inTime inGrace
  | beside happening => exact inTime.happen happening

theorem inTime_run (inTime : attempt.connection.InTime settings) {schedule : List Move}
    (inGrace : ∀ move ∈ schedule, move.InGrace settings.shutdownGraceMs) :
    (attempt.run schedule).connection.InTime settings := by
  induction schedule generalizing attempt with
  | nil => exact inTime
  | cons move rest ih =>
    rw [List.forall_mem_cons] at inGrace
    exact ih (inTime_step inTime inGrace.1) inGrace.2

end InTime

/-! ### The two callers and what they get -/

/-- The action that opens the session of a connection. -/
def loginOf (settings : ConnectionSettings) : Action :=
  Action.login settings.username settings.secret

/-- The caller of the login: the first in line. -/
def loginCaller : Pending := ⟨0, Action.loginName, none⟩

/-- The caller of the probe: the second in line. -/
def probeCaller : Pending := ⟨1, Action.ping.name, none⟩

theorem login_fields (settings : ConnectionSettings) :
    (loginOf settings).name = Action.loginName ∧ (loginOf settings).actionId = none := by
  have username : sameName "Username" Action.idKey = false := by decide +kernel
  have secret : sameName "Secret" Action.idKey = false := by decide +kernel
  have events : sameName "Events" Action.idKey = false := by decide +kernel
  unfold loginOf Action.login Action.param
  simp only [username, secret, events, Bool.false_eq_true, if_false]
  exact ⟨rfl, rfl⟩

/-- The response that a move gives to the caller for whom an attempt waits. -/
def answer? (attempt : Attempt) (move : Move) : Option (Pending × Response) :=
  match move, attempt.stage.awaited?, attempt.connection.link with
  | .beside happening, some pending, some link =>
    (link.binds? pending.ticket happening).map fun response => (pending, response)
  | _, _, _ => none

/-- The responses that the callers of an attempt are given along a schedule, in order. -/
def answers (attempt : Attempt) : List Move → List (Pending × Response)
  | [] => []
  | move :: rest => (attempt.answer? move).toList ++ (attempt.step move).answers rest

theorem run_concat (attempt : Attempt) (schedule : List Move) (last : Move) :
    attempt.run (schedule ++ [last]) = (attempt.run schedule).step last :=
  List.foldl_concat ..

theorem run_append (attempt : Attempt) (first second : List Move) :
    attempt.run (first ++ second) = (attempt.run first).run second :=
  List.foldl_append

theorem answers_append (attempt : Attempt) (first second : List Move) :
    attempt.answers (first ++ second) =
      attempt.answers first ++ (attempt.run first).answers second := by
  induction first generalizing attempt with
  | nil => rfl
  | cons move rest ih =>
    rw [List.cons_append, answers, answers, ih, List.append_assoc]
    rfl

/-- What is reported late along a move. -/
def lateReport? (attempt : Attempt) : Move → Option DisconnectReason
  | .beside happening => attempt.connection.lateReport? happening
  | _ => none

/-- What is reported late along a schedule, in order. -/
def lateReports (attempt : Attempt) : List Move → List DisconnectReason
  | [] => []
  | move :: rest => (attempt.lateReport? move).toList ++ (attempt.step move).lateReports rest

theorem lateReports_append (attempt : Attempt) (first second : List Move) :
    attempt.lateReports (first ++ second) =
      attempt.lateReports first ++ (attempt.run first).lateReports second := by
  induction first generalizing attempt with
  | nil => rfl
  | cons move rest ih =>
    rw [List.cons_append, lateReports, lateReports, ih, List.append_assoc]
    rfl

/-- Where every reader stops within the grace, nothing is reported late. -/
theorem lateReports_of_inTime {attempt : Attempt} {settings : ConnectionSettings}
    (inTime : attempt.connection.InTime settings) {schedule : List Move}
    (inGrace : ∀ move ∈ schedule, move.InGrace settings.shutdownGraceMs) :
    attempt.lateReports schedule = [] := by
  induction schedule generalizing attempt with
  | nil => rfl
  | cons move rest ih =>
    rw [List.forall_mem_cons] at inGrace
    have unreported : attempt.lateReport? move = none := by
      cases move with
      | beside happening => exact Connection.lateReport_of_nil inTime.nobody happening
      | _ => rfl
    rw [lateReports, unreported, ih (inTime_step inTime inGrace.1) inGrace.2]
    rfl

/-! ### What an attempt knows -/

/-- What the mailbox of a caller holds, as an answer to that caller. -/
def got (link : Link) (pending : Pending) : List (Pending × Response) :=
  let response? := (link.correlator.mailbox pending.ticket).response?
  (response?.map fun response => (pending, response)).toList

/-- Whether login and probe have been answered, in this order, and both with success. -/
def Accepted (answers : List (Pending × Response)) : Prop :=
  ∃ login probe : Response, login.succeeded = true ∧ probe.succeeded = true ∧
    answers = [(loginCaller, login), (probeCaller, probe)]

/-- Whether an error is the one that a rejection among the answers calls for. Behind a login that
was rejected nothing more has been written. -/
def Explains (settings : ConnectionSettings) (answers : List (Pending × Response))
    (written : List UInt8) (error : BridgeError) : Prop :=
  ∀ pending response, (pending, response) ∈ answers → response.succeeded = false →
    (pending = loginCaller ∧ error = .authFailed response.messageOrDefault ∧
      written = (loginOf settings).block) ∨
    (pending = probeCaller ∧ error = .authFailed (probeRejected response.messageOrDefault))

/-- What is written and answered when an attempt has come to a stage. -/
def Knows (settings : ConnectionSettings) (link : Link) (answers : List (Pending × Response)) :
    Stage → Prop
  | .opened | .authenticating =>
    link.correlator.mailboxes.length = 0 ∧ link.written = [] ∧ answers = []
  | .loggingIn pending =>
    pending = loginCaller ∧ link.correlator.mailboxes.length = 1 ∧
      link.written = (loginOf settings).block ∧ answers = got link pending
  | .loggedIn =>
    link.correlator.mailboxes.length = 1 ∧ link.written = (loginOf settings).block ∧
      ∃ login : Response, login.succeeded = true ∧ answers = [(loginCaller, login)]
  | .probing pending =>
    pending = probeCaller ∧ link.correlator.mailboxes.length = 2 ∧
      link.written = (loginOf settings).block ++ Action.ping.block ∧
      ∃ login : Response, login.succeeded = true ∧
        answers = (loginCaller, login) :: got link pending
  | .probed =>
    link.written = (loginOf settings).block ++ Action.ping.block ∧ Accepted answers
  | .failing error => Explains settings answers link.written error
  | .finished _ => False

/-- The status of a connection that was made ready, by how far the reader of its link has come. -/
def readyUntil : Reader → ConnectionStatus
  | .reading | .closing _ => .ready
  | .stopped reason => Connection.reportedStatus .ready reason

/-- Whether a status says what it ought to, with the latest of the late reports on top of it. -/
def Tells (late : List DisconnectReason) (status told : ConnectionStatus) : Prop :=
  ∃ since, since <:+ late ∧ status = since.foldl Connection.reportedStatus told

/-- The ways in which an attempt may stand that began on the connection `origin`, when these reasons
have been reported late and these responses been given. -/
inductive Sound (origin : Connection) (late : List DisconnectReason)
    (answers : List (Pending × Response)) : Attempt → Prop
  /-- It is under way, and the connection is not ready. -/
  | under {connection : Connection} {link : Link} {stage : Stage}
      (holds : connection.Holds origin link) (unready : connection.status ≠ .ready)
      (knows : Knows origin.settings link answers stage) : Sound origin late answers ⟨connection, stage⟩
  /-- It has made the connection ready, which lasts as long as the reader does. -/
  | ready {connection : Connection} {link : Link} (holds : connection.Holds origin link)
      (status : Tells late connection.status (readyUntil link.reader))
      (accepted : Accepted answers) :
      Sound origin late answers ⟨connection, .finished (.ok ())⟩
  /-- It has failed, and its link is left behind with everybody in it released. -/
  | failed {connection : Connection} {link : Link} {error : BridgeError}
      (gone : connection.link = none) (past : connection.past = link :: origin.past)
      (status : Tells late connection.status (.failed (.connectFailed error.message)))
      (isOver : link.Over) (explains : Explains origin.settings answers link.written error) :
      Sound origin late answers ⟨connection, .finished (.error error)⟩

variable {origin connection : Connection} {link : Link} {late : List DisconnectReason}
  {answers : List (Pending × Response)}

/-- Nobody has been rejected where both have been accepted. -/
theorem Accepted.succeeded (accepted : Accepted answers) {pending : Pending} {response : Response}
    (member : (pending, response) ∈ answers) : response.succeeded = true := by
  obtain ⟨login, probe, loginSucceeded, probeSucceeded, rfl⟩ := accepted
  rcases List.mem_cons.mp member with first | second
  · cases first
    exact loginSucceeded
  · cases List.mem_singleton.mp second
    exact probeSucceeded

theorem Accepted.explains (accepted : Accepted answers) (settings : ConnectionSettings)
    (written : List UInt8) (error : BridgeError) : Explains settings answers written error :=
  fun _ _ member rejected =>
    absurd ((accepted.succeeded member).symm.trans rejected) Bool.noConfusion

/-! ### What happens beside -/

/-- What a caller has got grows by the response that it is given. -/
theorem got_happen (link : Link) (pending : Pending) (happening : Happening) :
    got (link.happen happening) pending =
      got link pending ++
        ((link.binds? pending.ticket happening).map fun response => (pending, response)).toList := by
  unfold got
  cases bound : link.binds? pending.ticket happening with
  | some response =>
    obtain ⟨waited, answered⟩ := Link.mailbox_of_bound bound
    rw [waited, answered]
    rfl
  | none =>
    rcases Link.mailbox_happen_of_unbound bound with same | ⟨waited, reason, released⟩
    · rw [same]
      exact (List.append_nil _).symm
    · rw [waited, released]
      rfl

theorem Knows.happen {stage : Stage} (knows : Knows origin.settings link answers stage)
    (there : connection.link = some link) (happening : Happening) :
    Knows origin.settings (link.happen happening)
      (answers ++ (answer? ⟨connection, stage⟩ (.beside happening)).toList) stage := by
  unfold answer?
  rw [there]
  cases stage with
  | opened | authenticating | loggedIn | probed | failing error =>
    have none : (Option.none : Option (Pending × Response)).toList = [] := rfl
    simpa only [Knows, Stage.awaited?, Link.length_happen, Link.happen_written, none,
      List.append_nil] using knows
  | loggingIn pending =>
    obtain ⟨caller, length, written, answered⟩ := knows
    refine ⟨caller, (link.length_happen _).trans length, (link.happen_written _).trans written, ?_⟩
    rw [got_happen, answered]
    rfl
  | probing pending =>
    obtain ⟨caller, length, written, login, succeeded, answered⟩ := knows
    refine ⟨caller, (link.length_happen _).trans length, (link.happen_written _).trans written,
      login, succeeded, ?_⟩
    rw [got_happen, answered]
    rfl
  | finished outcome => cases knows

/-! ### What the status tells -/

/-- A status that says what it ought to. -/
theorem tells_self (late : List DisconnectReason) (told : ConnectionStatus) :
    Tells late told told :=
  ⟨[], List.nil_suffix, rfl⟩

theorem Tells.of_nil {status told : ConnectionStatus} (tells : Tells [] status told) :
    status = told := by
  obtain ⟨since, suffix, rfl⟩ := tells
  rw [List.suffix_nil.mp suffix]
  rfl

theorem Tells.ne_ready {status told : ConnectionStatus} (tells : Tells late status told)
    (unready : told ≠ .ready) : status ≠ .ready := by
  obtain ⟨since, -, rfl⟩ := tells
  exact Connection.reports_unready unready since

/-- More may be reported late. -/
theorem Tells.report {status told : ConnectionStatus} (tells : Tells late status told)
    (more : List DisconnectReason) :
    Tells (late ++ more) (more.foldl Connection.reportedStatus status) told := by
  obtain ⟨since, ⟨before, rfl⟩, rfl⟩ := tells
  exact ⟨since ++ more, ⟨before, (List.append_assoc ..).symm⟩, List.foldl_append.symm⟩

/-- A step beside the callers reports nothing but what is late, and leaves the reader of the link at
what the status says of it; or that reader reports. -/
theorem reader_cases (there : connection.link = some link) (happening : Happening) :
    ((connection.happen happening).status =
        (connection.lateReport? happening).toList.foldl Connection.reportedStatus
          connection.status ∧
      readyUntil (link.happen happening).reader = readyUntil link.reader) ∨
    ∃ reason, link.reader = .closing reason ∧ (link.happen happening).reader = .stopped reason ∧
      connection.lateReport? happening = none ∧
      (connection.happen happening).status =
        Connection.reportedStatus connection.status reason := by
  rw [Connection.happen_status there]
  obtain ⟨correlator, reader, events, written⟩ := link
  cases happening with
  | heard frame =>
    cases reader with
    | reading => exact .inl ⟨rfl, congrArg readyUntil (Link.hear_reader _ frame)⟩
    | _ => exact .inl ⟨rfl, rfl⟩
  | ended reason => cases reader <;> exact .inl ⟨rfl, rfl⟩
  | reported =>
    cases reader with
    | closing reason => exact .inr ⟨reason, rfl, rfl, rfl, rfl⟩
    | _ => exact .inl ⟨rfl, rfl⟩
  | taken | handled => exact .inl ⟨rfl, rfl⟩
  | late place act => exact .inl ⟨connection.straggle_status place act, rfl⟩

/-- The status of a connection that was made ready goes with the reader of its link. -/
theorem Tells.happen_readyUntil (tells : Tells late connection.status (readyUntil link.reader))
    (there : connection.link = some link) (happening : Happening) :
    Tells (late ++ (connection.lateReport? happening).toList) (connection.happen happening).status
      (readyUntil (link.happen happening).reader) := by
  rcases reader_cases there happening with
    ⟨status, still⟩ | ⟨reason, closing, stopped, unreported, status⟩
  · rw [status, still]
    exact tells.report _
  · rw [status, stopped, unreported, Option.toList_none, List.append_nil]
    rw [closing] at tells
    by_cases asked : reason = .clientRequested
    · -- an end that the client has asked for changes neither of the two
      have kept : Connection.reportedStatus connection.status reason = connection.status :=
        if_pos asked
      have ready : readyUntil (.stopped reason) = .ready := if_pos asked
      rwa [kept, ready]
    · have failed : Connection.reportedStatus connection.status reason = .failed reason :=
        if_neg asked
      have dead : readyUntil (.stopped reason) = .failed reason := if_neg asked
      rw [failed, dead]
      exact tells_self late _

theorem Sound.beside {attempt : Attempt} (sound : Sound origin late answers attempt)
    (happening : Happening) :
    Sound origin (late ++ (attempt.lateReport? (.beside happening)).toList)
      (answers ++ (attempt.answer? (.beside happening)).toList)
      (attempt.step (.beside happening)) := by
  cases sound with
  | under holds unready knows =>
    exact .under (holds.happen happening) (Connection.happen_unready unready happening)
      (knows.happen holds.there happening)
  | @ready connection link holds status accepted =>
    have nothing : answers ++
        (answer? ⟨connection, .finished (.ok ())⟩ (.beside happening)).toList = answers :=
      List.append_nil _
    rw [nothing]
    exact .ready (holds.happen happening) (status.happen_readyUntil holds.there happening) accepted
  | @failed connection link error gone past status isOver explains =>
    have nothing : answers ++
        (answer? ⟨connection, .finished (.error error)⟩ (.beside happening)).toList = answers :=
      List.append_nil _
    rw [nothing]
    exact .failed (Connection.happen_link_of_none gone happening)
      ((Connection.happen_past _ _).trans past) (Connection.happen_status_of_none gone happening ▸
        status.report _) isOver explains

/-! ### The steps of the attempt -/

section Steps

variable {stage : Stage}

/-- Behind a send the attempt waits for the response, or has failed. -/
theorem Sound.sendAndWait (holds : connection.Holds origin link)
    (unready : connection.status ≠ .ready) (action : Action) (fault : Option WriteFault)
    {next : Pending → Stage}
    (sent : Knows origin.settings
      { link with
        correlator := link.correlator.enlist action.actionId
        written := link.written ++ action.block }
      answers (next (link.correlator.pendingFor action)))
    (refused : ∀ written error, Explains origin.settings answers written error) :
    Sound origin late answers (Attempt.sendAndWait ⟨connection, stage⟩ action fault next) := by
  obtain ⟨given, course⟩ : ∃ given,
      Correlator.Course link.correlator given (link.send action fault).2.correlator :=
    ⟨[], link.course_send action fault⟩
  have attended := course.attended holds.attended
  unfold Attempt.sendAndWait Connection.sendOn
  rw [holds.there]
  dsimp only
  rcases link.send_cases action fault with
    ⟨isOpen, -, written⟩ | ⟨error, correlator, part, failed, closed, -⟩
  · rw [written] at attended ⊢
    refine .under (holds.withLink attended ?_ rfl) unready sent
    exact Correlator.enlist_closed _ _
  · rw [failed] at attended ⊢
    -- the caller may have been in line for a moment, and a part of the action been written
    exact .under (holds.withLink attended closed rfl) unready (refused _ error)

/-- Behind a wait the attempt goes on with the response, if there is one, or has failed. -/
theorem Sound.endWait (holds : connection.Holds origin link)
    (unready : connection.status ≠ .ready) (pending : Pending) {next : Response → Stage}
    (answered : ∀ response, (link.correlator.mailbox pending.ticket).response? = some response →
      Knows origin.settings (link.giveUp pending) answers (next response))
    (missed : (link.correlator.mailbox pending.ticket).response? = none →
      ∀ error, Explains origin.settings answers link.written error) :
    Sound origin late answers (Attempt.endWait ⟨connection, stage⟩ pending next) := by
  have later : ({ connection with link := some (link.giveUp pending) } : Connection).Holds origin
      (link.giveUp pending) := holds.withLink (holds.attended.abandon pending) rfl rfl
  unfold Attempt.endWait Connection.await
  rw [holds.there]
  dsimp only [Link.collect]
  rcases link.correlator.collect_cases pending connection.settings.readTimeoutMs with
    ⟨response, there, got⟩ | ⟨nothing, error, got⟩
  · rw [got]
    exact .under later unready (answered response there)
  · rw [got]
    exact .under later unready (missed nothing error)

theorem explains_nil (settings : ConnectionSettings) (written : List UInt8) (error : BridgeError) :
    Explains settings [] written error :=
  fun _ _ member => nomatch member

/-- A login that has succeeded explains whatever comes next. -/
theorem explains_login {login : Response} (succeeded : login.succeeded = true)
    (settings : ConnectionSettings) (written : List UInt8) (error : BridgeError) :
    Explains settings [(loginCaller, login)] written error := by
  intro pending response member rejected
  cases List.mem_singleton.mp member
  rw [succeeded] at rejected
  cases rejected

theorem got_of_some {pending : Pending} {response : Response}
    (there : (link.correlator.mailbox pending.ticket).response? = some response) :
    got link pending = [(pending, response)] := by
  unfold got
  rw [there]
  rfl

theorem got_of_none {pending : Pending}
    (nothing : (link.correlator.mailbox pending.ticket).response? = none) :
    got link pending = [] := by
  unfold got
  rw [nothing]
  rfl

/-- Whoever has just got in line has got nothing yet. -/
theorem got_enlist (keyed : link.correlator.Keyed) (action : Action) (written : List UInt8) :
    got { link with correlator := link.correlator.enlist action.actionId, written }
      (link.correlator.pendingFor action) = [] := by
  refine got_of_none ?_
  show (((link.correlator.enlist action.actionId).mailbox
    link.correlator.mailboxes.length).response?) = none
  rw [Correlator.mailbox_enlist keyed, if_pos rfl]
  rfl

/-- The attempt goes to log in. -/
theorem Sound.login (holds : connection.Holds origin link) (unready : connection.status ≠ .ready)
    (knows : Knows origin.settings link answers .authenticating) (fault : Option WriteFault) :
    Sound origin late answers
      (Attempt.sendAndWait ⟨connection, stage⟩ (loginOf connection.settings) fault .loggingIn) := by
  obtain ⟨length, written, rfl⟩ := knows
  have caller : link.correlator.pendingFor (loginOf connection.settings) = loginCaller := by
    obtain ⟨name, untagged⟩ := login_fields connection.settings
    unfold Correlator.pendingFor
    rw [length, name, untagged]
    rfl
  refine .sendAndWait holds unready _ fault ⟨caller, ?_, ?_, ?_⟩ (explains_nil _)
  · show (link.correlator.enlist _).mailboxes.length = 1
    rw [Correlator.length_enlist, length]
  · show link.written ++ _ = _
    rw [written, holds.settings, List.nil_append]
  · exact (got_enlist holds.attended.keyed _ _).symm

/-- The attempt goes to probe its link. -/
theorem Sound.probe (holds : connection.Holds origin link) (unready : connection.status ≠ .ready)
    (knows : Knows origin.settings link answers .loggedIn) (fault : Option WriteFault) :
    Sound origin late answers
      (Attempt.sendAndWait ⟨connection, stage⟩ Action.ping fault .probing) := by
  obtain ⟨length, written, login, succeeded, rfl⟩ := knows
  have caller : link.correlator.pendingFor Action.ping = probeCaller := by
    unfold Correlator.pendingFor
    rw [length]
    rfl
  refine .sendAndWait holds unready _ fault ⟨caller, ?_, ?_, login, succeeded, ?_⟩
    (explains_login succeeded _)
  · show (link.correlator.enlist _).mailboxes.length = 2
    rw [Correlator.length_enlist, length]
  · show link.written ++ _ = _
    rw [written]
  · rw [got_enlist holds.attended.keyed]

/-- A login that is answered is accepted, or the attempt fails with what the switch says. -/
theorem Sound.loggedIn (holds : connection.Holds origin link)
    (unready : connection.status ≠ .ready) {pending : Pending}
    (knows : Knows origin.settings link answers (.loggingIn pending)) :
    Sound origin late answers (Attempt.endWait ⟨connection, stage⟩ pending afterLogin) := by
  obtain ⟨rfl, length, written, rfl⟩ := knows
  refine .endWait holds unready loginCaller (fun response there => ?_) fun nothing error => ?_
  · rw [got_of_some there]
    unfold afterLogin
    split
    · next succeeded =>
      exact ⟨(Correlator.length_abandon _ _).trans length, written, response, succeeded, rfl⟩
    · intro other answer member rejected
      cases List.mem_singleton.mp member
      exact .inl ⟨rfl, rfl, written⟩
  · rw [got_of_none nothing]
    exact explains_nil _ _ error

/-- A probe that is answered is accepted, or the attempt fails with what the switch says. -/
theorem Sound.probed (holds : connection.Holds origin link)
    (unready : connection.status ≠ .ready) {pending : Pending}
    (knows : Knows origin.settings link answers (.probing pending)) :
    Sound origin late answers (Attempt.endWait ⟨connection, stage⟩ pending afterProbe) := by
  obtain ⟨rfl, length, written, login, accepted, rfl⟩ := knows
  refine .endWait holds unready probeCaller (fun response there => ?_) fun nothing error => ?_
  · rw [got_of_some there]
    unfold afterProbe
    split
    · next succeeded => exact ⟨written, login, response, accepted, succeeded, rfl⟩
    · intro other answer member rejected
      rcases List.mem_cons.mp member with first | second
      · cases first
        rw [accepted] at rejected
        cases rejected
      · cases List.mem_singleton.mp second
        exact .inr ⟨rfl, rfl⟩
  · rw [got_of_none nothing]
    exact explains_login accepted _ _ error

/-- The attempt makes the connection ready, or finds that its link is over. -/
theorem Sound.promote (holds : connection.Holds origin link)
    (unready : connection.status ≠ .ready)
    (knows : Knows origin.settings link answers .probed) :
    Sound origin late answers (Attempt.promote ⟨connection, stage⟩) := by
  obtain ⟨written, accepted⟩ := knows
  unfold Attempt.promote
  rw [holds.there]
  dsimp only
  split
  · next both =>
    refine .ready (holds.withStatus .ready) ?_ accepted
    rw [holds.honest.reading both.2]
    exact tells_self late _
  · exact .under holds unready (accepted.explains _ _ _)

/-- The attempt ends its link. -/
theorem Sound.fail (holds : connection.Holds origin link) {error : BridgeError}
    (explains : Explains origin.settings answers link.written error) (ending : LinkEnding) :
    Sound origin late answers (Attempt.fail ⟨connection, stage⟩ error ending) := by
  obtain ⟨left, past, written, isOver⟩ := Connection.exists_left holds.there holds.attended ending
  rw [← written] at explains
  exact .failed (connection.teardown_link ending) (past.trans (congrArg _ holds.past))
    (tells_self late _) isOver explains

end Steps

theorem Sound.goOn {attempt : Attempt} (sound : Sound origin late answers attempt)
    (fault : Option WriteFault) : Sound origin late answers (attempt.goOn fault) := by
  cases sound with
  | @under connection link stage holds unready knows =>
    cases stage with
    | opened =>
      exact .under (holds.withStatus .authenticating) ConnectionStatus.noConfusion knows
    | authenticating => exact .login holds unready knows fault
    | loggingIn pending =>
      unfold Attempt.goOn
      dsimp only
      split
      · exact .loggedIn holds unready knows
      · exact .under holds unready knows
    | loggedIn => exact .probe holds unready knows fault
    | probing pending =>
      unfold Attempt.goOn
      dsimp only
      split
      · exact .probed holds unready knows
      · exact .under holds unready knows
    | probed => exact .promote holds unready knows
    | failing error => exact .fail holds knows _
    | finished outcome => cases knows
  | ready holds status accepted => exact .ready holds status accepted
  | failed gone past status isOver explains => exact .failed gone past status isOver explains

theorem Sound.timeUp {attempt : Attempt} (sound : Sound origin late answers attempt) :
    Sound origin late answers attempt.timeUp := by
  cases sound with
  | @under connection link stage holds unready knows =>
    cases stage with
    | loggingIn pending => exact .loggedIn holds unready knows
    | probing pending => exact .probed holds unready knows
    | _ => exact .under holds unready knows
  | ready holds status accepted => exact .ready holds status accepted
  | failed gone past status isOver explains => exact .failed gone past status isOver explains

theorem Sound.undo {attempt : Attempt} (sound : Sound origin late answers attempt)
    (ending : LinkEnding) : Sound origin late answers (attempt.undo ending) := by
  cases sound with
  | @under connection link stage holds unready knows =>
    cases stage with
    | failing error => exact .fail holds knows ending
    | _ => exact .under holds unready knows
  | ready holds status accepted => exact .ready holds status accepted
  | failed gone past status isOver explains => exact .failed gone past status isOver explains

/-- A move that gives no response and reports nothing late adds nothing to what is known. -/
theorem Sound.of_silent {attempt after : Attempt} {move : Move}
    (sound : Sound origin late answers after) (unanswered : attempt.answer? move = none)
    (unreported : attempt.lateReport? move = none) :
    Sound origin (late ++ (attempt.lateReport? move).toList)
      (answers ++ (attempt.answer? move).toList) after := by
  rw [unanswered, unreported, Option.toList_none, Option.toList_none, List.append_nil,
    List.append_nil]
  exact sound

/-- Every step keeps what an attempt knows. -/
theorem Sound.step {attempt : Attempt} (sound : Sound origin late answers attempt) (move : Move) :
    Sound origin (late ++ (attempt.lateReport? move).toList)
      (answers ++ (attempt.answer? move).toList) (attempt.step move) := by
  cases move with
  | goOn fault => exact (sound.goOn fault).of_silent rfl rfl
  | timeUp => exact sound.timeUp.of_silent rfl rfl
  | undo ending => exact (sound.undo ending).of_silent rfl rfl
  | beside happening => exact sound.beside happening

theorem sound_start (unready : origin.status ≠ .ready) : Sound origin [] [] (start origin) :=
  .under ⟨rfl, rfl, rfl, Correlator.attended_new, Link.honest_new _ _⟩ unready ⟨rfl, rfl, rfl⟩

/-- Whatever happens, an attempt stands in one of the three ways. -/
theorem sound_run (unready : origin.status ≠ .ready) (schedule : List Move) :
    Sound origin ((start origin).lateReports schedule) ((start origin).answers schedule)
      ((start origin).run schedule) := by
  induction schedule using List.reverseRecOn with
  | nil => exact sound_start unready
  | append_singleton schedule last ih =>
    have answered : ((start origin).run schedule).answers [last] =
        (((start origin).run schedule).answer? last).toList := List.append_nil _
    have reported : ((start origin).run schedule).lateReports [last] =
        (((start origin).run schedule).lateReport? last).toList := List.append_nil _
    rw [run_concat, answers_append, answered, lateReports_append, reported]
    exact ih.step last

/-- An attempt that is not over is under way. -/
theorem Sound.under_way {attempt : Attempt} (sound : Sound origin late answers attempt)
    (unfinished : ∀ outcome, attempt.stage ≠ .finished outcome) :
    ∃ link, attempt.connection.Holds origin link ∧ attempt.connection.status ≠ .ready ∧
      Knows origin.settings link answers attempt.stage := by
  cases sound with
  | @under connection link stage holds unready knows => exact ⟨link, holds, unready, knows⟩
  | ready => exact absurd rfl (unfinished _)
  | failed => exact absurd rfl (unfinished _)

end Attempt

end Switchboard
