/-
**Closing releases everybody, once.**

A correlator closes on its own at a desk, and at the end of a session. A session ends when its
reader stops, for whatever reason (`Reader.Ending`), and when the client ends it; either closes the
correlator, so that it may well be closed twice. The first close is the one that counts
(`close_releases_everybody`).
-/

import Switchboard.Proofs.Correlator.Attended
import Switchboard.Proofs.Correlator.Closing
import Switchboard.Proofs.Exchange.Run

namespace Switchboard

/-- What makes the reader of a link stop. -/
inductive Reader.Ending where
  /-- The stream is at its end. -/
  | endOfStream
  /-- The stream cannot be read, with what it says about that. -/
  | fault (text : String)
  /-- The client ends the session. -/
  | cancelled
  /-- The reader itself breaks down. -/
  | breakdown
  deriving DecidableEq, Repr

/-- The reason with which the reader releases all who wait. -/
def Reader.Ending.reason : Reader.Ending → DisconnectReason
  | endOfStream => .connectionClosed
  | fault text => .ioError text
  | cancelled => .clientRequested
  | breakdown => .ioError "reader task panicked"

/-! ### Links -/

namespace Link

open Correlator (Course)

/-- A caller who sends gets in line if it can, and leaves the line again if nothing was written. -/
theorem course_send (link : Link) (action : Action) (fault : Option WriteFault) :
    Course link.correlator [] (link.send action fault).2.correlator := by
  unfold send
  split
  · exact .stay
  cases state : link.correlator.closed with
  | some reason =>
    rw [Correlator.register_closed state]
    exact .stay
  | none =>
    rw [Correlator.register_open state]
    cases fault with
    | none => exact Course.stay.enlist state _
    | some text => exact (Course.stay.enlist state _).cancel _

/-- Nothing is written to a link whose callers have been released. -/
theorem send_closed {link : Link} {reason : DisconnectReason}
    (closed : link.correlator.closed = some reason) {action : Action}
    (framed : action.framingFault? = none) (fault : Option WriteFault) :
    link.send action fault = (.error (.disconnected reason), link) := by
  unfold send
  rw [framed]
  simp only
  rw [Correlator.register_closed closed]

/-- Whoever is released obtains the reason whenever it comes to take what is there. -/
theorem collect_of_released {link : Link} {pending : Pending} {reason : DisconnectReason}
    (released : link.correlator.mailbox pending.ticket = .released reason) (limitMs : Nat) :
    (link.collect pending limitMs).1 = .error (.disconnected reason) := by
  show (link.correlator.arrived? pending).getD _ = _
  unfold Correlator.arrived?
  rw [released]
  rfl

end Link

/-! ### Sessions -/

namespace Exchange

open Correlator (Course)

/-- The reason with which a move releases all who wait. -/
def Move.reason? : Move → Option DisconnectReason
  | .release reason => some reason
  | .retire => some .clientRequested
  | _ => none

theorem course_step (exchange : Exchange) (move : Move) :
    Course exchange.link.correlator move.reason?.toList (exchange.step move).link.correlator := by
  cases move with
  | send action fault =>
    have same :
        (exchange.step (.send action fault)).link = (exchange.link.send action fault).2 := by
      simp only [step, send]
      split <;> next sent => rw [sent]
    rw [same]
    exact exchange.link.course_send action fault
  | giveUp place =>
    simp only [step]
    split
    · exact Course.stay.abandon _
    · exact .stay
  | collect place limitMs =>
    simp only [step, collect]
    split
    · split
      · exact Course.stay.abandon _
      · exact .stay
    · exact .stay
  | hear =>
    simp only [step]
    split
    · next parcel later _ _ =>
      show Course _ [] (exchange.link.hear parcel.frame).correlator
      cases parcel.frame with
      | response response => exact Course.stay.resolve response
      | _ => exact .stay
    · exact .stay
  | release reason => exact Course.stay.close reason
  | retire => exact Course.stay.close .clientRequested
  | _ => exact .stay

/-- Whatever happens in a session, its correlator takes a course with the reasons that are given. -/
theorem course_run (exchange : Exchange) (moves : List Move) :
    Course exchange.link.correlator (moves.filterMap Move.reason?)
      (exchange.run moves).link.correlator := by
  induction moves generalizing exchange with
  | nil => exact .stay
  | cons move rest ih =>
    have course := (exchange.course_step move).trans (ih _)
    rw [List.filterMap_cons]
    cases given : move.reason? with
    | none =>
      rw [given] at course
      exact course
    | some reason =>
      rw [given] at course
      exact course

theorem attended_run (queueSize dropped : Nat) (moves : List Move) :
    ((start queueSize dropped).run moves).link.correlator.Attended :=
  (course_run _ moves).attended Correlator.attended_new

/-- The reason of a session that is closed is the first that was given. -/
theorem closed_run (queueSize dropped : Nat) (moves : List Move) :
    ((start queueSize dropped).run moves).link.correlator.closed =
      moves.findSome? Move.reason? := by
  rw [(course_run _ moves).closed, List.head?_filterMap]
  rfl

/-- Whoever waits when the reader stops is released, and has the reason to take as long as it is
there. -/
theorem released_run {exchange : Exchange} (attended : exchange.link.correlator.Attended)
    {ticket : Nat} (waiting : exchange.link.correlator.mailbox ticket = .waiting)
    (reason : DisconnectReason) (later : List Move)
    (held : ((exchange.step (.release reason)).run later).link.correlator.isHeld ticket = true) :
    ((exchange.step (.release reason)).run later).link.correlator.mailbox ticket =
      .released reason := by
  have stopped := (exchange.course_step (.release reason)).attended attended
  have closed : (exchange.step (.release reason)).link.correlator.closed ≠ none := by
    rw [(exchange.course_step (.release reason)).closed]
    cases exchange.link.correlator.closed <;> exact Option.some_ne_none _
  rcases (course_run _ later).mailbox stopped closed ticket with same | gone
  · exact same.trans (attended.released waiting reason)
  · unfold Correlator.isHeld at held
    rw [gone] at held
    cases held

/-! ### The theorem -/

/-- **Closing releases everybody, once.** From the first close of a correlator on, whatever follows:

* the line and the table are empty, the reason is that of the first close, and whoever wants to get
  in line is refused with it;
* a response and another close change nothing at all;
* whoever got in line before and had a response owed to it then, that is, was neither answered nor
  cancelled nor replaced, obtains exactly the first reason from a wait that had not run out.

So nobody waits for a session whose reader has stopped, in whatever way it stopped and whether or
not the client has ended the session before or ends it later. Whoever still waited when the reader
stopped obtains the reason whenever it comes to take what is there; nobody stands in line, nobody
has to wait any more, and nothing more is sent. -/
theorem close_releases_everybody (before after : List Desk.Move) (first : DisconnectReason)
    (opening : ∀ reason, Desk.Move.close reason ∉ before) :
    let desk := Desk.run (before ++ .close first :: after)
    (desk.correlator.inOrder = [] ∧ desk.correlator.byId = [] ∧
      desk.correlator.closed = some first ∧
      (∀ action, desk.correlator.register action = .error (.disconnected first)) ∧
      (∀ response, desk.correlator.resolve response = desk.correlator) ∧
      ∀ again, desk.correlator.close again = desk.correlator) ∧
    (∀ (handle : Handle) (enrolment : Enrolment),
      (Registry.run handle.kind before).enrolments[handle.place]? = some enrolment →
      enrolment.owed = true → enrolment.face.mailbox ≠ .abandoned →
      ∀ quiet limitMs later, after = quiet ++ .wait handle limitMs :: later →
        Desk.Move.drop handle ∉ quiet → (∀ limitMs, Desk.Move.wait handle limitMs ∉ quiet) →
        ∃ face, (desk.faces handle.kind)[handle.place]? = some face ∧
          face.outcome = some (.error (.disconnected first))) ∧
    ∀ (queueSize dropped : Nat) (moves later : List Move) (ending : Reader.Ending),
      let running := (start queueSize dropped).run moves
      let stopped := running.step (.release ending.reason)
      let reason := (moves.findSome? Move.reason?).getD ending.reason
      let correlator := (stopped.run later).link.correlator
      (∀ pending limitMs, running.link.correlator.isListening pending.ticket = true →
        correlator.isHeld pending.ticket = true →
        ((stopped.run later).link.collect pending limitMs).1 = .error (.disconnected reason)) ∧
      correlator.closed = some reason ∧ correlator.pendingCount = 0 ∧
      (∀ pending, (correlator.arrived? pending).isSome = true) ∧
      ∀ action fault, action.framingFault? = none →
        (stopped.run later).link.send action fault =
          (.error (.disconnected reason), (stopped.run later).link) := by
  intro desk
  refine ⟨?closed, ?caller, ?session⟩
  case closed =>
    have attended : desk.correlator.Attended :=
      (Desk.course_run _).attended Correlator.attended_new
    have quiet : before.findSome? Desk.Move.reason? = none := by
      rw [List.findSome?_eq_none_iff]
      intro move member
      cases move with
      | close reason => exact absurd member (opening reason)
      | _ => rfl
    have reason : desk.correlator.closed = some first := by
      rw [(Desk.course_run _).closed, List.head?_filterMap, List.findSome?_append, quiet]
      rfl
    have closed : desk.correlator.closed ≠ none := by
      rw [reason]
      exact Option.some_ne_none first
    exact ⟨(attended.empty closed).1, (attended.empty closed).2, reason,
      Correlator.register_closed reason, attended.resolve_eq_self closed,
      attended.close_eq_self reason⟩
  case caller =>
    rintro handle enrolment found owed listens quiet limitMs later rfl keeps passes
    exact Desk.outcome_run_close found owed listens keeps passes first limitMs later
  case session =>
    intro queueSize dropped moves later ending running stopped reason correlator
    have ready : running.link.correlator.Attended := attended_run queueSize dropped moves
    have whole : stopped.run later =
        (start queueSize dropped).run (moves ++ .release ending.reason :: later) :=
      (run_append _ moves (.release ending.reason :: later)).symm
    have attended : correlator.Attended := by
      show (stopped.run later).link.correlator.Attended
      rw [whole]
      exact attended_run _ _ _
    have closed : correlator.closed = some reason := by
      show (stopped.run later).link.correlator.closed = _
      rw [whole, closed_run, List.findSome?_append]
      cases given : moves.findSome? Move.reason? <;> simp only [reason, given] <;> rfl
    have shut : correlator.closed ≠ none := by
      rw [closed]
      exact Option.some_ne_none reason
    refine ⟨?_, closed, attended.pendingCount_eq_zero shut, attended.arrived_isSome shut, ?_⟩
    · intro pending limitMs listening held
      have waiting := Correlator.isListening_iff.mp listening
      -- whoever still waits has not been released before, so the reader's reason is the first
      have own : reason = ending.reason := by
        have isOpen : running.link.correlator.closed = none := by
          by_contra early
          exact ready.not_waiting early _ waiting
        show (moves.findSome? Move.reason?).getD ending.reason = _
        rw [← closed_run queueSize dropped, isOpen]
        rfl
      rw [own]
      exact Link.collect_of_released (released_run ready waiting ending.reason later held) limitMs
    · intro action fault framed
      exact Link.send_closed closed framed fault

/-- A caller of each kind. -/
def couple : List Desk.Move :=
  [.register Action.ping, .register (Action.ping.withActionId "a")]

/-- The client ends a session whose reader has stopped already. -/
def closedTwice : List Desk.Move :=
  [.close .clientRequested, .wait ⟨.tagged, 0⟩ 100]

theorem close_releases_everybody_twice :
    (∀ reason, Desk.Move.close reason ∉ couple) ∧
      ∃ face, ((Desk.run (couple ++ .close .connectionClosed :: closedTwice)).faces .tagged)[0]? =
          some face ∧
        face.outcome = some (.error (.disconnected .connectionClosed)) := by
  have opening : ∀ reason, Desk.Move.close reason ∉ couple := by simp [couple]
  obtain ⟨-, callers, -⟩ :=
    close_releases_everybody couple closedTwice .connectionClosed opening
  exact ⟨opening, callers ⟨.tagged, 0⟩ _ rfl rfl (by decide) [.close .clientRequested] 100 [] rfl
    (by simp) (by simp)⟩

end Exchange

end Switchboard
