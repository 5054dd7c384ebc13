/-
**When a connection is ready.**

A connection becomes ready by one step only (`step_becomesReady`): the attempt's own, when login and
probe have been answered with success and the link's correlator is still open (`Promotes`). A reader
that ends afterwards says so in the status, and one that has ended before has closed the correlator.
So no connection is left ready behind a link that is dead (`dead_link_is_not_left_ready`). Readers
that are cut off may report late; but what they report does not make a connection ready either.
-/

import Switchboard.Proofs.Connection.Attempt

namespace Switchboard

namespace Attempt

variable {origin : Connection}

/-! ### The step that makes a connection ready -/

/-- Whether a move makes the connection of an attempt ready. -/
structure Promotes (attempt : Attempt) (move : Move) : Prop where
  own : ∃ fault, move = .goOn fault
  probed : attempt.stage = .probed
  authenticating : attempt.connection.status = .authenticating
  isOpen : ∃ link, attempt.connection.link = some link ∧ link.correlator.closed = none

/-- Whether an attempt has become ready between two moments, by its status or by its outcome. -/
def BecomesReady (before after : Attempt) : Prop :=
  (before.connection.status ≠ .ready ∧ after.connection.status = .ready) ∨
    (before.stage ≠ .finished (.ok ()) ∧ after.stage = .finished (.ok ()))

theorem not_becomesReady {before after : Attempt}
    (status : after.connection.status = before.connection.status ∨
      after.connection.status ≠ .ready)
    (stage : after.stage = before.stage ∨ after.stage ≠ .finished (.ok ())) :
    ¬BecomesReady before after := by
  rintro (⟨unready, ready⟩ | ⟨under, ended⟩)
  · exact status.elim (fun same => unready (same.symm.trans ready)) fun still => still ready
  · exact stage.elim (fun same => under (same.symm.trans ended)) fun still => still ended

theorem endWait_not_becomesReady (attempt : Attempt) (pending : Pending) {next : Response → Stage}
    (goes : ∀ response, next response ≠ .finished (.ok ())) :
    ¬BecomesReady attempt (attempt.endWait pending next) := by
  obtain ⟨link, past, frame⟩ := attempt.endWait_frame pending next
  refine not_becomesReady (.inl (by rw [frame])) (.inr ?_)
  have stage : (attempt.endWait pending next).stage = afterWait
      (attempt.connection.await pending attempt.connection.settings.readTimeoutMs).1 next := rfl
  rw [stage]
  rcases afterWait_cases
    (attempt.connection.await pending attempt.connection.settings.readTimeoutMs).1 next with
    ⟨response, goesOn⟩ | ⟨error, fails⟩
  · exact goesOn ▸ goes response
  · exact fails ▸ Stage.noConfusion

theorem sendAndWait_not_becomesReady (attempt : Attempt) (action : Action) (fault : Option WriteFault)
    {next : Pending → Stage} (goes : ∀ pending, next pending ≠ .finished (.ok ())) :
    ¬BecomesReady attempt (attempt.sendAndWait action fault next) := by
  obtain ⟨link, frame⟩ := attempt.sendAndWait_frame action fault next
  refine not_becomesReady (.inl (by rw [frame])) (.inr ?_)
  rcases attempt.sendAndWait_stage action fault next with ⟨pending, stage⟩ | ⟨error, stage⟩ <;>
    rw [stage]
  · exact goes pending
  · exact Stage.noConfusion

theorem afterLogin_ne (response : Response) : afterLogin response ≠ .finished (.ok ()) := by
  rcases afterLogin_cases response with stage | ⟨error, stage⟩ <;> rw [stage] <;>
    exact Stage.noConfusion

theorem afterProbe_ne (response : Response) : afterProbe response ≠ .finished (.ok ()) := by
  rcases afterProbe_cases response with stage | ⟨error, stage⟩ <;> rw [stage] <;>
    exact Stage.noConfusion

theorem timeUp_not_becomesReady (attempt : Attempt) : ¬BecomesReady attempt attempt.timeUp := by
  unfold Attempt.timeUp
  split
  · exact endWait_not_becomesReady attempt _ afterLogin_ne
  · exact endWait_not_becomesReady attempt _ afterProbe_ne
  · exact not_becomesReady (.inl rfl) (.inl rfl)

theorem undo_not_becomesReady (attempt : Attempt) (ending : LinkEnding) :
    ¬BecomesReady attempt (attempt.undo ending) := by
  unfold Attempt.undo
  split
  · exact not_becomesReady (.inr ConnectionStatus.noConfusion) (.inr nofun)
  · exact not_becomesReady (.inl rfl) (.inl rfl)

theorem goOn_becomesReady {attempt : Attempt} {fault : Option WriteFault}
    (becomes : BecomesReady attempt (attempt.goOn fault)) : attempt.Promotes (.goOn fault) := by
  unfold Attempt.goOn at becomes
  split at becomes
  · exact absurd becomes
      (not_becomesReady (.inr ConnectionStatus.noConfusion) (.inr Stage.noConfusion))
  · exact absurd becomes (sendAndWait_not_becomesReady attempt _ fault fun _ => Stage.noConfusion)
  · split at becomes
    · exact absurd becomes (endWait_not_becomesReady attempt _ afterLogin_ne)
    · exact absurd becomes (not_becomesReady (.inl rfl) (.inl rfl))
  · exact absurd becomes (sendAndWait_not_becomesReady attempt _ fault fun _ => Stage.noConfusion)
  · split at becomes
    · exact absurd becomes (endWait_not_becomesReady attempt _ afterProbe_ne)
    · exact absurd becomes (not_becomesReady (.inl rfl) (.inl rfl))
  · next stage =>
    unfold Attempt.promote at becomes
    split at becomes
    · exact absurd becomes (not_becomesReady (.inl rfl) (.inr Stage.noConfusion))
    · next link there =>
      split at becomes
      · next both => exact ⟨⟨fault, rfl⟩, stage, both.1, link, there, both.2⟩
      · exact absurd becomes (not_becomesReady (.inl rfl) (.inr Stage.noConfusion))
  · exact absurd becomes (not_becomesReady (.inr ConnectionStatus.noConfusion) (.inr nofun))
  · exact absurd becomes (not_becomesReady (.inl rfl) (.inl rfl))

/-- No other move makes a connection ready, or ends an attempt well. -/
theorem step_becomesReady {attempt : Attempt} {move : Move}
    (becomes : BecomesReady attempt (attempt.step move)) : attempt.Promotes move := by
  cases move with
  | goOn fault => exact goOn_becomesReady becomes
  | timeUp => exact absurd becomes (timeUp_not_becomesReady attempt)
  | undo ending => exact absurd becomes (undo_not_becomesReady attempt ending)
  | beside happening =>
    rcases becomes with ⟨unready, ready⟩ | ⟨under, ended⟩
    · exact absurd ready (Connection.happen_unready unready happening)
    · exact absurd ended under

/-- The move that makes the connection ready leaves the rest of it as it is. -/
theorem Promotes.step_eq {attempt : Attempt} {move : Move} (promotes : attempt.Promotes move) :
    attempt.step move =
      { connection := { attempt.connection with status := .ready }
        stage := .finished (.ok ()) } := by
  obtain ⟨⟨fault, rfl⟩, stage, authenticating, link, there, isOpen⟩ := promotes
  show attempt.goOn fault = _
  unfold Attempt.goOn Attempt.promote
  rw [stage]
  dsimp only
  rw [there]
  dsimp only
  rw [if_pos ⟨authenticating, isOpen⟩, ← there]

/-- An attempt that has ended well has made its connection ready at some moment. -/
theorem promoted_of_ok {schedule : List Move}
    (ended : ((start origin).run schedule).stage = .finished (.ok ())) :
    ∃ before move after, schedule = before ++ move :: after ∧
      ((start origin).run before).Promotes move := by
  induction schedule using List.reverseRecOn with
  | nil => cases ended
  | append_singleton schedule last ih =>
    rw [run_concat] at ended
    -- either the attempt had ended well before the last move, or that move has ended it
    by_cases already : ((start origin).run schedule).stage = .finished (.ok ())
    · obtain ⟨before, move, after, rfl, promotes⟩ := ih already
      exact ⟨before, move, after ++ [last], by simp, promotes⟩
    · exact ⟨schedule, last, [], rfl, step_becomesReady (.inr ⟨already, ended⟩)⟩

/-! ### What happens beside the end of an attempt -/

/-- What happens beside an attempt does not concern its stage. -/
theorem run_beside (attempt : Attempt) (happenings : List Happening) :
    attempt.run (happenings.map .beside) =
      { attempt with connection := attempt.connection.happenAll happenings } := by
  induction happenings generalizing attempt with
  | nil => rfl
  | cons first rest ih => exact ih _

/-- An attempt that has made its connection ready has ended well, whatever happens from then on. -/
theorem Promotes.stage_run {attempt : Attempt} {before : List Move} {move : Move}
    (promotes : (attempt.run before).Promotes move) (happenings : List Happening) :
    (attempt.run (before ++ move :: happenings.map .beside)).stage = .finished (.ok ()) := by
  have course : attempt.run (before ++ move :: happenings.map .beside) =
      ((attempt.run before).step move).run (happenings.map .beside) := run_append ..
  rw [course, run_beside, promotes.step_eq]

/-- However the steps of a parting and what happens beside it follow each other, an attempt that
fails ends as if it had ended its link at once. -/
theorem fail_of_parting {attempt : Attempt} {error : BridgeError} {link : Link}
    {moves : List Parting.Move} (failing : attempt.stage = .failing error)
    (there : attempt.connection.link = some link)
    (ended : ((Parting.start attempt.connection link).run moves).point = .released) :
    ∃ (seen : List Happening) (ending : LinkEnding),
      (ending.readerMs ≤ attempt.connection.settings.shutdownGraceMs ∨
        attempt.connection.settings.shutdownGraceMs ≤
          ((Parting.start attempt.connection link).run moves).waited) ∧
      attempt.run (seen.map .beside ++ [.undo ending]) =
        { connection :=
            { ((Parting.start attempt.connection link).run moves).connection with
              status := .failed (.connectFailed error.message) }
          stage := .finished (.error error) } := by
  obtain ⟨seen, ending, -, same, grace⟩ := Parting.released_run there ended
  refine ⟨seen, ending, grace, ?_⟩
  rw [run_append, run_beside, same]
  show Attempt.undo _ ending = _
  unfold Attempt.undo
  rw [failing]
  rfl

/-! ### The theorem -/

/-- The link of an attempt: the one at hand, or the one that was left behind last. -/
def ownLink? (attempt : Attempt) : Option Link :=
  attempt.connection.link.or attempt.connection.past.head?

/-- Whether no reader takes longer than the grace: none has been cut off before, and neither that of
the link of before nor that of the attempt is. -/
structure InGrace (connection : Connection) (ending : LinkEnding) (schedule : List Move) : Prop where
  nobody : connection.stragglers = []
  before : ending.readerMs ≤ connection.settings.shutdownGraceMs
  during : ∀ move ∈ schedule, move.InGrace connection.settings.shutdownGraceMs

section InGrace

variable {connection : Connection} {ending : LinkEnding} {schedule : List Move}

theorem InGrace.beginConnecting (inGrace : InGrace connection ending schedule) :
    (connection.beginConnecting ending).InTime connection.settings := by
  obtain ⟨settings_eq, nobody⟩ : (connection.teardown ending).InTime connection.settings :=
    Connection.InTime.teardown ⟨rfl, inGrace.nobody⟩ inGrace.before
  exact ⟨settings_eq, nobody⟩

theorem InGrace.start (inGrace : InGrace connection ending schedule) :
    (Attempt.start (connection.beginConnecting ending)).connection.InTime connection.settings := by
  obtain ⟨settings_eq, nobody⟩ := inGrace.beginConnecting
  exact ⟨settings_eq, nobody⟩

/-- Where no reader takes longer than the grace, nothing is reported late. -/
theorem InGrace.lateReports (inGrace : InGrace connection ending schedule) :
    (Attempt.start (connection.beginConnecting ending)).lateReports schedule = [] :=
  lateReports_of_inTime inGrace.start inGrace.during

end InGrace

/-- The status behind an attempt that is over, when its link has ended for a reason. -/
def told (reason : DisconnectReason) : Except BridgeError Unit → ConnectionStatus
  | .ok () => .failed reason
  | .error error => .failed (.connectFailed error.message)

theorem told_ne_ready (reason : DisconnectReason) (outcome : Except BridgeError Unit) :
    told reason outcome ≠ .ready := by
  cases outcome <;> exact ConnectionStatus.noConfusion

section Ended

variable {late : List DisconnectReason} {answers : List (Pending × Response)} {attempt : Attempt}

/-- Once an attempt is over and the reader of its link has reported, the status tells either. -/
theorem Sound.tells_told (sound : Sound origin late answers attempt)
    {outcome : Except BridgeError Unit} {link : Link} {reason : DisconnectReason}
    (ended : attempt.stage = .finished outcome) (own : attempt.ownLink? = some link)
    (stopped : link.reader = .stopped reason) (unasked : reason ≠ .clientRequested) :
    Tells late attempt.connection.status (told reason outcome) := by
  cases sound with
  | under holds unready knows =>
    cases ended
    cases knows
  | ready holds status accepted =>
    cases ended
    unfold ownLink? at own
    rw [holds.there] at own
    cases own
    have reported : readyUntil link.reader = told reason (.ok ()) := by
      rw [stopped]
      exact if_neg unasked
    rwa [reported] at status
  | failed gone past status =>
    cases ended
    exact status

theorem Sound.unready_of_error (sound : Sound origin late answers attempt) {error : BridgeError}
    (ended : attempt.stage = .finished (.error error)) : attempt.connection.status ≠ .ready := by
  cases sound with
  | under holds unready knows =>
    cases ended
    cases knows
  | ready => cases ended
  | failed gone past status => exact status.ne_ready ConnectionStatus.noConfusion

end Ended

/-- **A connection is not left ready behind a dead link.** Whatever the connection was before, and
in whatever order the steps of connecting and those of the reader and of the switch follow each
other:

* the status becomes `ready` only when the attempt promotes it, and it does become so then, on a
  link whose correlator is open and whose reader reads, after a success has been given to the login
  and then one to the probe on that link;
* once the attempt is over and its reader has released everybody and reported a reason that is not
  the client's, the status is not `ready`: it tells that reason, or why connecting failed, or what a
  reader that was cut off has reported late, which none has where every reader stops within the
  grace. An attempt that has failed is not ready even where the reader of its own link was cut off;
* the status does not become `ready` either while a link is ended step by step, the link of before
  or that of an attempt that fails, and where such a parting leaves the attempt is where a run of
  single steps leaves it, at which no reader is cut off before the grace is over. -/
theorem dead_link_is_not_left_ready (connection : Connection) (ending : LinkEnding)
    (schedule : List Move) :
    let origin := connection.beginConnecting ending
    let attempt := (start origin).run schedule
    (∀ move, attempt.connection.status ≠ .ready →
      ((attempt.step move).connection.status = .ready ↔ attempt.Promotes move)) ∧
    (∀ move, attempt.Promotes move →
      ∃ (link : Link) (login probe : Response),
        attempt.connection.link = some link ∧ (attempt.step move).connection.link = some link ∧
        link.correlator.closed = none ∧ link.reader = .reading ∧
        link.written = (loginOf connection.settings).block ++ Action.ping.block ∧
        login.succeeded = true ∧ probe.succeeded = true ∧
        (start origin).answers schedule = [(loginCaller, login), (probeCaller, probe)]) ∧
    (∀ outcome link reason, attempt.stage = .finished outcome → attempt.ownLink? = some link →
      link.reader = .stopped reason → reason ≠ .clientRequested →
        attempt.connection.status ≠ .ready ∧
          Tells ((start origin).lateReports schedule) attempt.connection.status
            (told reason outcome) ∧
          (InGrace connection ending schedule →
            attempt.connection.status = told reason outcome)) ∧
    (∀ error, attempt.stage = .finished (.error error) → attempt.connection.status ≠ .ready) ∧
    (∀ link moves, connection.link = some link → connection.status ≠ .ready →
      ((Parting.start connection link).run moves).connection.status ≠ .ready) ∧
    ∀ error link moves, attempt.stage = .failing error → attempt.connection.link = some link →
      let parting := (Parting.start attempt.connection link).run moves
      parting.connection.status ≠ .ready ∧
      (parting.point = .released →
        ∃ (seen : List Happening) (last : LinkEnding),
          (last.readerMs ≤ attempt.connection.settings.shutdownGraceMs ∨
            attempt.connection.settings.shutdownGraceMs ≤ parting.waited) ∧
          attempt.run (seen.map .beside ++ [.undo last]) =
            { connection :=
                { parting.connection with status := .failed (.connectFailed error.message) }
              stage := .finished (.error error) }) := by
  intro origin attempt
  have sound : Sound origin ((start origin).lateReports schedule)
      ((start origin).answers schedule) attempt := sound_run ConnectionStatus.noConfusion schedule
  refine ⟨?becomes, ?promoted, ?ended, ?failed, ?before, ?failing⟩
  case becomes =>
    intro move unready
    exact ⟨fun ready => step_becomesReady (.inl ⟨unready, ready⟩), fun promotes =>
      congrArg (Connection.status ·.connection) promotes.step_eq⟩
  case promoted =>
    intro move promotes
    obtain ⟨link, there, isOpen⟩ := promotes.isOpen
    obtain ⟨own, holds, -, knows⟩ :=
      sound.under_way fun outcome ended => Stage.noConfusion (promotes.probed.symm.trans ended)
    rw [promotes.probed] at knows
    obtain ⟨written, login, probe, loginSucceeded, probeSucceeded, answered⟩ := knows
    cases there.symm.trans holds.there
    refine ⟨link, login, probe, there, ?_, isOpen, holds.honest.reading isOpen, ?_,
      loginSucceeded, probeSucceeded, answered⟩
    · rw [promotes.step_eq]
      exact there
    · rw [written]
      exact congrArg (fun settings => (loginOf settings).block ++ _)
        (connection.teardown_settings ending)
  case ended =>
    intro outcome link reason ended own stopped unasked
    have tells := sound.tells_told ended own stopped unasked
    refine ⟨tells.ne_ready (told_ne_ready reason outcome), tells, fun inGrace => ?_⟩
    rw [inGrace.lateReports] at tells
    exact tells.of_nil
  case failed =>
    exact fun error ended => sound.unready_of_error ended
  case before => exact fun link moves there unready => Parting.unready_run there unready moves
  case failing =>
    intro error link moves failing there parting
    obtain ⟨-, -, unready, -⟩ :=
      sound.under_way fun outcome ended => Stage.noConfusion (failing.symm.trans ended)
    exact ⟨Parting.unready_run there unready moves, fail_of_parting failing there⟩

/-- A switch that accepts login and probe. -/
def welcome : List Move :=
  let accepted := Response.success "Authentication accepted"
  let pong := Response.success "Pong"
  [.goOn none, .goOn none, .beside (.heard (.response accepted)),
    .goOn none, .goOn none, .beside (.heard (.response pong)), .goOn none]

/-- A switch that hangs up when it has made the client welcome: the connection was ready, and is
not left so. -/
theorem dead_link_is_not_left_ready_hangup :
    let connection := Connection.new (ConnectionSettings.new "pbx.local" 5038 "bridge" "secret")
    let origin := connection.beginConnecting .prompt
    let welcomed := ((start origin).run welcome).step (.goOn none)
    let abandoned := (start origin).run (welcome ++
      .goOn none :: [.ended .connectionClosed, .reported].map .beside)
    welcomed.connection.status = .ready ∧
    abandoned.stage = .finished (.ok ()) ∧
    abandoned.connection.status = .failed .connectionClosed := by
  intro connection origin welcomed abandoned
  have unready : ((start origin).run welcome).connection.status ≠ .ready := by decide +kernel
  have ready : welcomed.connection.status = .ready := by decide +kernel
  have promotes :=
    ((dead_link_is_not_left_ready connection .prompt welcome).1 (.goOn none) unready).mp ready
  have ended : abandoned.stage = .finished (.ok ()) :=
    promotes.stage_run [.ended .connectionClosed, .reported]
  have dead : abandoned.ownLink?.map Link.reader = some (.stopped .connectionClosed) := by
    decide +kernel
  obtain ⟨link, own, stopped⟩ := Option.map_eq_some_iff.mp dead
  have told := (dead_link_is_not_left_ready connection .prompt _).2.2.1 _ link _ ended own stopped
    DisconnectReason.noConfusion
  have inGrace : InGrace connection .prompt (welcome ++
      .goOn none :: [.ended .connectionClosed, .reported].map .beside) :=
    ⟨rfl, Nat.zero_le _, by decide⟩
  exact ⟨ready, ended, told.2.2 inGrace⟩

end Attempt

end Switchboard
