/-
**What connecting and disconnecting leave behind.**

Connecting has two outcomes. Either the attempt has made the connection ready, or there is an error:
then the status tells it, the connection has no link, and the link that was made, if any, is over
(`connect_ready_or_undone`). An error wins over what the reader of its link has reported, because the
attempt sets the status when it is done with that reader. Disconnecting always leaves a connection
without a link.

A reader that takes longer than the grace is cut off, and may still report why its stream ended. Where
that is late, its report is what the status tells, behind an attempt that has failed and behind a
disconnect alike (`late_report_wins`).

* `Attempt.conclude_eq_run`: an attempt that is left alone ends by steps of its own, so that what
  is known of every run is known of the end of an attempt;
* `Attempt.Outcome`: what connecting may come to on a stream that opens.
-/

import Switchboard.Proofs.Connection.Ready

namespace Switchboard

/-- How an attempt has ended, if it has. -/
def Stage.outcome? : Stage → Option (Except BridgeError Unit)
  | finished outcome => some outcome
  | _ => none

namespace Attempt

variable {origin : Connection}

/-! ### The end of an attempt -/

theorem conclude_of_finished {attempt : Attempt} {outcome : Except BridgeError Unit}
    (ended : attempt.stage = .finished outcome) :
    attempt.conclude = (outcome, attempt.connection) := by
  obtain ⟨connection, stage⟩ := attempt
  cases ended
  unfold conclude
  rfl

theorem conclude_of_under {attempt : Attempt}
    (under : ∀ outcome, attempt.stage ≠ .finished outcome) :
    attempt.conclude = attempt.press.conclude := by
  obtain ⟨connection, stage⟩ := attempt
  rw [conclude.eq_def]
  cases stage with
  | finished outcome => exact absurd rfl (under outcome)
  | _ => rfl

/-- An attempt that is left alone ends by steps of its own. -/
theorem conclude_eq_run (attempt : Attempt) :
    ∃ rest : List Move, (∀ happening, .beside happening ∉ rest) ∧
      (∀ graceMs, ∀ move ∈ rest, move.InGrace graceMs) ∧
      attempt.run rest =
        { connection := attempt.conclude.2, stage := .finished attempt.conclude.1 } := by
  by_cases under : ∀ outcome, attempt.stage ≠ .finished outcome
  · -- a press is two moves, and comes nearer to the end
    obtain ⟨rest, alone, undelayed, ended⟩ := conclude_eq_run attempt.press
    refine ⟨.goOn none :: .timeUp :: rest, ?_, ?_, ?_⟩
    · intro happening member
      simp only [List.mem_cons, reduceCtorEq, false_or] at member
      exact alone happening member
    · intro graceMs
      rw [List.forall_mem_cons, List.forall_mem_cons]
      exact ⟨trivial, trivial, undelayed graceMs⟩
    · rw [conclude_of_under under]
      exact ended
  · push Not at under
    obtain ⟨outcome, ended⟩ := under
    refine ⟨[], fun _ => List.not_mem_nil, fun _ _ => nofun, ?_⟩
    rw [conclude_of_finished ended, ← ended]
    rfl
termination_by attempt.remaining
decreasing_by
  refine press_remaining ?_
  unfold remaining
  cases stage : attempt.stage with
  | finished outcome => exact absurd stage (under outcome)
  | _ => exact Nat.noConfusion

/-- Nobody is answered, and nothing reported late, while nothing happens beside the attempt. -/
theorem silent_of_alone (attempt : Attempt) {rest : List Move}
    (alone : ∀ happening, .beside happening ∉ rest) :
    attempt.answers rest = [] ∧ attempt.lateReports rest = [] := by
  induction rest generalizing attempt with
  | nil => exact ⟨rfl, rfl⟩
  | cons move rest ih =>
    obtain ⟨unanswered, unreported⟩ := ih (attempt.step move) fun happening member =>
      alone happening (List.mem_cons_of_mem _ member)
    cases move with
    | beside happening => exact absurd List.mem_cons_self (alone happening)
    | _ =>
      rw [answers, lateReports, unanswered, unreported]
      exact ⟨rfl, rfl⟩

/-! ### The outcomes -/

/-- Where every reader stops within the grace, the end of an attempt cuts nobody off. -/
theorem inTime_conclude {attempt : Attempt} {settings : ConnectionSettings}
    (inTime : attempt.connection.InTime settings) : attempt.conclude.2.InTime settings := by
  obtain ⟨rest, -, undelayed, ended⟩ := conclude_eq_run attempt
  have left := inTime_run inTime (undelayed settings.shutdownGraceMs)
  rwa [ended] at left

/-- What connecting may come to: what comes out, and the connection that is left behind, when these
reasons have been reported late. -/
structure Outcome (origin : Connection) (late : List DisconnectReason) (reach : Reach)
    (schedule : List Move) (result : Except BridgeError Unit) (after : Connection) : Prop where
  /-- A success means that the attempt has made the connection ready, behind an accepted login and
  an accepted probe. From then on its status tells how far the reader has come. -/
  ready : result = .ok () →
    reach = .opened ∧
    (∃ rest before move later, (∀ happening, .beside happening ∉ rest) ∧
      schedule ++ rest = before ++ move :: later ∧
      ((start origin).run before).Promotes move) ∧
    Accepted ((start origin).answers schedule) ∧
    ∃ link, after.link = some link ∧ Tells late after.status (readyUntil link.reader)
  /-- An error is what the status tells. There is no link, and the one that was made is over. -/
  undone : ∀ error, result = .error error →
    Tells late after.status (.failed (.connectFailed error.message)) ∧ after.link = none ∧
    (reach = .opened → ∃ link, after.past = link :: origin.past ∧ link.Over) ∧
    (reach ≠ .opened → after.past = origin.past ∧
      after.status = .failed (.connectFailed error.message))
  /-- A rejection is told in the words of the switch, and a rejected login is the last thing that is
  written. -/
  rejected : reach = .opened → ∀ pending response,
    (pending, response) ∈ (start origin).answers schedule → response.succeeded = false →
    (pending = loginCaller ∧ result = .error (.authFailed response.messageOrDefault) ∧
      ∃ link, after.past = link :: origin.past ∧
        link.written = (loginOf origin.settings).block) ∨
    (pending = probeCaller ∧
      result = .error (.authFailed (probeRejected response.messageOrDefault)))

/-- On a stream that opens the attempt comes to such an outcome, whatever happens beside it. -/
theorem outcome_of_opened (unready : origin.status ≠ .ready) (schedule : List Move) :
    Outcome origin ((start origin).lateReports schedule) .opened schedule
      ((start origin).run schedule).conclude.1 ((start origin).run schedule).conclude.2 := by
  obtain ⟨rest, alone, -, ended⟩ := conclude_eq_run ((start origin).run schedule)
  generalize ((start origin).run schedule).conclude = concluded at ended ⊢
  obtain ⟨result, after⟩ := concluded
  -- the end of the attempt is more of the same run, in which nobody is answered any more
  have whole : (start origin).run (schedule ++ rest) =
      { connection := after, stage := .finished result } := by
    rw [run_append]
    exact ended
  have sound := sound_run unready (schedule ++ rest)
  obtain ⟨unanswered, unreported⟩ := silent_of_alone ((start origin).run schedule) alone
  rw [answers_append, lateReports_append, unanswered, unreported, List.append_nil,
    List.append_nil, whole] at sound
  cases sound with
  | under holds unready knows => cases knows
  | @ready connection link holds status accepted =>
    refine ⟨fun _ => ⟨rfl, ?_, accepted, link, holds.there, status⟩, nofun, ?_⟩
    · obtain ⟨before, move, later, split, promotes⟩ :=
        promoted_of_ok (congrArg Attempt.stage whole)
      exact ⟨rest, before, move, later, alone, split, promotes⟩
    · intro _ pending response member rejected
      exact absurd ((accepted.succeeded member).symm.trans rejected) Bool.noConfusion
  | @failed connection link error gone past status isOver explains =>
    refine ⟨nofun, ?_, ?_⟩
    · intro other same
      cases same
      exact ⟨status, gone, fun _ => ⟨link, past, isOver⟩, fun unopened => absurd rfl unopened⟩
    · intro _ pending response member rejected
      rcases explains pending response member rejected with
        ⟨caller, told, written⟩ | ⟨caller, told⟩
      · exact .inl ⟨caller, congrArg Except.error told, link, past, written⟩
      · exact .inr ⟨caller, congrArg Except.error told⟩

/-- A stream that does not open leaves nothing to undo. -/
theorem outcome_of_unopened {reach : Reach} {error : BridgeError} (gone : origin.link = none)
    (unopened : reach ≠ .opened) (late : List DisconnectReason) (schedule : List Move) :
    Outcome origin late reach schedule (.error error)
      { origin with status := .failed (.connectFailed error.message) } where
  ready := nofun
  undone other same := by
    cases same
    exact ⟨tells_self late _, gone, fun opened => absurd opened unopened, fun _ => ⟨rfl, rfl⟩⟩
  rejected opened := absurd opened unopened

end Attempt

namespace Connection

variable {connection : Connection}

open Attempt (Outcome Tells)

/-! ### Connecting -/

theorem connect_of_unready (unready : connection.status ≠ .ready) (ending : LinkEnding)
    (reach : Reach) (schedule : List Move) :
    connection.connect ending reach schedule =
      match reach.error? connection.settings with
      | some error =>
        (.error error,
          { connection.beginConnecting ending with
            status := .failed (.connectFailed error.message) })
      | none => ((Attempt.start (connection.beginConnecting ending)).run schedule).conclude := by
  unfold connect isReady
  rw [beq_eq_false_iff_ne.mpr unready]
  rfl

theorem outcome_connect (unready : connection.status ≠ .ready) (ending : LinkEnding)
    (reach : Reach) (schedule : List Move) :
    Outcome (connection.beginConnecting ending)
      ((Attempt.start (connection.beginConnecting ending)).lateReports schedule) reach schedule
      (connection.connect ending reach schedule).1
      (connection.connect ending reach schedule).2 := by
  rw [connect_of_unready unready]
  have gone : (connection.beginConnecting ending).link = none := connection.teardown_link ending
  cases reach with
  | opened => exact Attempt.outcome_of_opened ConnectionStatus.noConfusion schedule
  | refused fault => exact Attempt.outcome_of_unopened gone Reach.noConfusion _ schedule
  | timedOut => exact Attempt.outcome_of_unopened gone Reach.noConfusion _ schedule
  | broken fault => exact Attempt.outcome_of_unopened gone Reach.noConfusion _ schedule

theorem connect_inTime {ending : LinkEnding} {schedule : List Move}
    (unready : connection.status ≠ .ready)
    (inGrace : Attempt.InGrace connection ending schedule) (reach : Reach) :
    (connection.connect ending reach schedule).2.InTime connection.settings := by
  rw [connect_of_unready unready]
  cases reach with
  | opened => exact Attempt.inTime_conclude (Attempt.inTime_run inGrace.start inGrace.during)
  | refused _ | timedOut | broken _ =>
    obtain ⟨settings_eq, nobody⟩ := inGrace.beginConnecting
    exact ⟨settings_eq, nobody⟩

/-! ### Disconnecting -/

/-- A request cuts nobody off. -/
theorem InTime.requestOn {settings : ConnectionSettings} (inTime : connection.InTime settings)
    (link : Link) (action : Action) (fault : Option WriteFault) (meanwhile : List Happening)
    (limitMs : Nat) :
    (connection.requestOn link action fault meanwhile limitMs).2.InTime settings := by
  have sent : (connection.sendOn link action fault).2.InTime settings :=
    ⟨inTime.settings_eq, inTime.nobody⟩
  unfold Connection.requestOn
  generalize connection.sendOn link action fault = sending at sent
  obtain ⟨refusal | pending, after⟩ := sending
  · exact sent
  · exact (sent.happenAll meanwhile).await pending limitMs

section Disconnect

variable (connection) (logoffId : String) (fault : Option WriteFault) (meanwhile : List Happening)
  (ending : LinkEnding)

theorem disconnect_link : (connection.disconnect logoffId fault meanwhile ending).link = none := by
  unfold disconnect
  exact teardown_link _ ending

/-- Where every reader stops within the grace, a disconnect leaves none behind. -/
theorem disconnect_inTime {settings : ConnectionSettings} (inTime : connection.InTime settings)
    (inGrace : ending.readerMs ≤ settings.shutdownGraceMs) :
    (connection.disconnect logoffId fault meanwhile ending).InTime settings := by
  have left {loggedOff : Connection} (still : loggedOff.InTime settings) :
      ({ loggedOff.teardown ending with status := .disconnected } : Connection).InTime settings := by
    obtain ⟨settings_eq, nobody⟩ := still.teardown inGrace
    exact ⟨settings_eq, nobody⟩
  unfold disconnect
  dsimp only
  split
  · next link _ _ => exact left (inTime.requestOn ..)
  · exact left inTime

variable {connection}

/-- A connection that is disconnected already stays as it is. -/
theorem disconnect_eq_self (status : connection.status = .disconnected)
    (gone : connection.link = none) :
    connection.disconnect logoffId fault meanwhile ending = connection := by
  have quiet : connection.disconnect logoffId fault meanwhile ending =
      { connection.teardown ending with status := .disconnected } := by
    unfold disconnect
    rw [gone]
    cases connection.isReady <;> rfl
  rw [quiet, teardown_of_none gone, ← status]

end Disconnect

/-! ### The theorem -/

/-- **Connecting leaves nothing half open.** Whatever a connection that is not ready was before,
whatever comes of opening the stream, and in whatever order the steps of the attempt and those of
the reader and of the switch follow each other, connecting comes to one of the outcomes: the
connection has been made ready, or it is left without a link, with an error that its status tells.
Whatever a connection was before, disconnecting leaves it disconnected and without a link, and doing
so again changes nothing. Where there is no link, the status goes on telling what it tells, unless a
reader that has been cut off, now or before, reports late why its stream ended: then it tells that.
Where every reader stops within the grace, none is cut off.

The end of a link, which is one step of an attempt, may be taken step by step, with a reader beside
it that goes on or fails: an attempt then ends as along another schedule, and so does any other
end of a link. No reader is cut off before the grace is over, and none can make it last longer. -/
theorem connect_ready_or_undone (connection : Connection) :
    (connection.status ≠ .ready → ∀ (ending : LinkEnding) (reach : Reach) (schedule : List Move),
      let late := (Attempt.start (connection.beginConnecting ending)).lateReports schedule
      let after := (connection.connect ending reach schedule).2
      Outcome (connection.beginConnecting ending) late reach schedule
        (connection.connect ending reach schedule).1 after ∧
      (Attempt.InGrace connection ending schedule →
        late = [] ∧ ∀ later, after.lateReports later = [])) ∧
    (∀ later, connection.link = none → (connection.happenAll later).link = none ∧
      (connection.happenAll later).status =
        (connection.lateReports later).foldl reportedStatus connection.status) ∧
    (∀ (logoffId : String) (fault : Option WriteFault) (meanwhile : List Happening)
      (ending : LinkEnding),
      let after := connection.disconnect logoffId fault meanwhile ending
      after.status = .disconnected ∧ after.link = none ∧
      (∀ later : List Happening, (after.happenAll later).link = none ∧
        (after.happenAll later).status =
          (after.lateReports later).foldl reportedStatus .disconnected ∧
        (connection.stragglers = [] → ending.readerMs ≤ connection.settings.shutdownGraceMs →
          after.lateReports later = [])) ∧
      ∀ (againId : String) (againFault : Option WriteFault) (againMeanwhile : List Happening)
        (againEnding : LinkEnding),
        after.disconnect againId againFault againMeanwhile againEnding = after) ∧
    (connection.status ≠ .ready → ∀ ending schedule error link moves,
      let attempt := (Attempt.start (connection.beginConnecting ending)).run schedule
      let parting := (Parting.start attempt.connection link).run moves
      attempt.stage = .failing error → attempt.connection.link = some link →
      parting.point = .released →
        ∃ (seen : List Happening) (last : LinkEnding),
          (last.readerMs ≤ attempt.connection.settings.shutdownGraceMs ∨
            attempt.connection.settings.shutdownGraceMs ≤ parting.waited) ∧
          connection.connect ending .opened (schedule ++ (seen.map .beside ++ [.undo last])) =
            (.error error,
              { parting.connection with status := .failed (.connectFailed error.message) })) ∧
    ∀ link moves,
      let parting := (Parting.start connection link).run moves
      connection.link = some link →
        (parting.point = .released →
          ∃ (seen : List Happening) (ending : LinkEnding),
            seen ++ ending.late = moves.filterMap Parting.Move.happening? ∧
            parting.connection = (connection.happenAll seen).teardown ending ∧
            (ending.readerMs ≤ connection.settings.shutdownGraceMs ∨
              connection.settings.shutdownGraceMs ≤ parting.waited)) ∧
        (parting.run [.goOn, .passed parting.grace, .goOn, .goOn]).point = .released := by
  refine ⟨?connect, ?later, ?disconnect, ?failing, ?parting⟩
  case connect =>
    exact fun unready ending reach schedule =>
      ⟨outcome_connect unready ending reach schedule, fun inGrace =>
        ⟨inGrace.lateReports, (connect_inTime unready inGrace reach).lateReports⟩⟩
  case later =>
    exact fun later gone =>
      ⟨happenAll_link_of_none gone later, happenAll_status_of_none gone later⟩
  case disconnect =>
    intro logoffId fault meanwhile ending after
    have status : after.status = .disconnected := rfl
    have gone := connection.disconnect_link logoffId fault meanwhile ending
    refine ⟨status, gone, fun later => ⟨happenAll_link_of_none gone later, ?_, ?_⟩, ?_⟩
    · exact happenAll_status_of_none gone later
    · intro nobody inGrace
      exact (connection.disconnect_inTime logoffId fault meanwhile ending ⟨rfl, nobody⟩
        inGrace).lateReports later
    · exact fun againId againFault againMeanwhile againEnding =>
        disconnect_eq_self againId againFault againMeanwhile againEnding status gone
  case failing =>
    intro unready ending schedule error link moves attempt parting failing there released
    obtain ⟨seen, last, grace, ended⟩ := Attempt.fail_of_parting failing there released
    refine ⟨seen, last, grace, ?_⟩
    rw [connect_of_unready unready]
    show Attempt.conclude _ = _
    rw [Attempt.run_append, ended]
    exact Attempt.conclude_of_finished rfl
  case parting =>
    exact fun link moves there => ⟨Parting.released_run there, Parting.released_of_patience _⟩

/-- A switch that does not know the password. -/
def wrongPassword : List Move :=
  [.goOn none, .goOn none, .beside (.heard (.response (Response.error "Authentication failed")))]

/-- The attempt fails with the words of the switch. -/
theorem connect_ready_or_undone_wrongPassword :
    let connection := Connection.new (ConnectionSettings.new "pbx.local" 5038 "bridge" "secret")
    let error := BridgeError.authFailed "Authentication failed"
    let result := connection.connect .prompt .opened wrongPassword
    connection.status ≠ .ready ∧ result.1 = .error error ∧
    result.2.status = .failed (.connectFailed error.message) ∧ result.2.link = none := by
  intro connection error result
  have unready : connection.status ≠ .ready := ConnectionStatus.noConfusion
  have answered : (Attempt.loginCaller, Response.error "Authentication failed") ∈
      (Attempt.start (connection.beginConnecting .prompt)).answers wrongPassword := by
    decide +kernel
  have inGrace : Attempt.InGrace connection .prompt wrongPassword :=
    ⟨rfl, Nat.zero_le _, by decide⟩
  obtain ⟨outcome, timely⟩ :=
    (connect_ready_or_undone connection).1 unready .prompt .opened wrongPassword
  rcases outcome.rejected rfl _ _ answered rfl with ⟨-, told, -⟩ | ⟨caller, -⟩
  · obtain ⟨tells, gone, -⟩ := outcome.undone _ told
    rw [(timely inGrace).1] at tells
    exact ⟨unready, told, tells.of_nil, gone⟩
  · cases caller

/-- A connection that gives its readers no time to stop. -/
def impatient : Connection :=
  Connection.new
    { ConnectionSettings.new "pbx.local" 5038 "bridge" "secret" with shutdownGraceMs := 0 }

/-- A switch that rejects the login and hangs up. The reader has found that the stream ends, but not
yet reported it when the attempt is done with it. -/
def hungUp : List Move :=
  wrongPassword ++ [.goOn none, .beside (.ended .connectionClosed), .undo ⟨1, []⟩]

/-- A switch that accepts the login, but not the probe. -/
def noPermission : List Move :=
  [.goOn none, .goOn none, .beside (.heard (.response (Response.success "Welcome"))),
    .goOn none, .goOn none, .beside (.heard (.response (Response.error "No permission"))),
    .goOn none, .goOn none]

/-- Where the schedule sees the attempt to its end, that is where connecting ends. -/
theorem connect_of_finished (unready : connection.status ≠ .ready) {ending : LinkEnding}
    {schedule : List Move} {outcome : Except BridgeError Unit}
    (ended : ((Attempt.start (connection.beginConnecting ending)).run schedule).stage.outcome? =
      some outcome) :
    connection.connect ending .opened schedule =
      (outcome,
        ((Attempt.start (connection.beginConnecting ending)).run schedule).connection) := by
  rw [connect_of_unready unready]
  refine Attempt.conclude_of_finished ?_
  unfold Stage.outcome? at ended
  split at ended
  · next stage => rw [stage, Option.some.inj ended]
  · cases ended

/-- **A report that is late is what the status tells.** A reader that is cut off at its last step
reports after the attempt has set the status, and just so after a disconnect. A probe that is rejected
is told in more words than those of the switch. -/
theorem late_report_wins :
    let error := BridgeError.authFailed "Authentication failed"
    let rejected := impatient.connect .prompt .opened (hungUp ++ [.beside (.late 0 .reported)])
    let ready := (impatient.connect .prompt .opened (Attempt.welcome ++ [.goOn none])).2
    let gone := (ready.happen (.ended .connectionClosed)).disconnect "7" none [] ⟨1, []⟩
    rejected.1 = .error error ∧ rejected.2.status = .failed .connectionClosed ∧
      rejected.2.status ≠ .failed (.connectFailed error.message) ∧
    gone.status = .disconnected ∧
      (gone.happen (.late 0 .reported)).status = .failed .connectionClosed ∧
    (impatient.connect .prompt .opened noPermission).1 =
      .error (.authFailed "ping probe rejected: No permission") := by
  intro error rejected ready gone
  have unready : impatient.status ≠ .ready := ConnectionStatus.noConfusion
  have rejects : rejected = _ := @connect_of_finished _ unready .prompt
    (hungUp ++ [.beside (.late 0 .reported)]) (.error error) (by decide +kernel)
  have welcomes : ready = _ := congrArg Prod.snd <| @connect_of_finished _ unready .prompt
    (Attempt.welcome ++ [.goOn none]) (.ok ()) (by decide +kernel)
  have probed := @connect_of_finished _ unready .prompt noPermission
    (.error (.authFailed "ping probe rejected: No permission")) (by decide +kernel)
  have reported : rejected.2.status = .failed .connectionClosed := by
    rw [rejects]
    decide +kernel
  refine ⟨congrArg Prod.fst rejects, reported, ?_, rfl, ?_, congrArg Prod.fst probed⟩
  · rw [reported]
    nofun
  · unfold gone
    rw [welcomes]
    decide +kernel

end Connection

end Switchboard
