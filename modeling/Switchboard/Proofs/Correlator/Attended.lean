/-
**Everybody who waits at a correlator can be reached, and nobody waits at a closed one.**

Three facts about a correlator are kept by everything that can be done to it (`Attended`): no
identifier stands twice in the table, whoever waits stands in the line or in the table, and both
are empty once it is closed. So the first close finds everybody who waits, and whatever comes after
it finds nobody: a response or another close leaves a closed correlator as it is.

* `Course`: what can become of a correlator, whoever uses it; it keeps the invariant
  (`Course.attended`) and the first reason (`Course.closed`);
* `Desk.course_run`: a run of a desk is such a course.
-/

import Mathlib.Data.List.Induction
import Switchboard.Proofs.Correlator.Desk
import Switchboard.Proofs.Correlator.Effects

namespace Switchboard

namespace Correlator

/-! ### The invariant -/

/-- Whether everybody who waits can be reached, and nobody is in line once it is closed. -/
structure Attended (correlator : Correlator) : Prop where
  keyed : correlator.Keyed
  reachable : ∀ ticket, correlator.mailbox ticket = .waiting →
    ticket ∈ correlator.inOrder ∨ ∃ id, correlator.ticketOf? id = some ticket
  empty : correlator.closed ≠ none → correlator.inOrder = [] ∧ correlator.byId = []

theorem attended_new : new.Attended where
  keyed := keyed_new
  reachable ticket waiting := by cases waiting
  empty closed := absurd rfl closed

section Attended

variable {correlator : Correlator}

/-- Whoever waits is among those whom a close goes through. -/
theorem Attended.listed (attended : correlator.Attended) {ticket : Nat}
    (waiting : correlator.mailbox ticket = .waiting) :
    ticket ∈ correlator.inOrder ∨ ticket ∈ correlator.byId.map Prod.snd := by
  rcases attended.reachable ticket waiting with member | ⟨id, found⟩
  · exact .inl member
  · exact .inr (List.mem_map.mpr ⟨_, mem_of_ticketOf? found, rfl⟩)

/-- Nobody waits at a correlator that is closed. -/
theorem Attended.not_waiting (attended : correlator.Attended) (closed : correlator.closed ≠ none)
    (ticket : Nat) : correlator.mailbox ticket ≠ .waiting := by
  intro waiting
  obtain ⟨line, table⟩ := attended.empty closed
  have listed := attended.listed waiting
  rw [line, table] at listed
  rcases listed with member | member <;> cases member

theorem Attended.not_stands (attended : correlator.Attended) (closed : correlator.closed ≠ none)
    (pending : Pending) : ¬correlator.Stands pending := by
  intro stands
  obtain ⟨line, table⟩ := attended.empty closed
  unfold Stands ticketOf? at stands
  rw [line, table] at stands
  split at stands <;> cases stands

theorem Attended.enlist (attended : correlator.Attended) (isOpen : correlator.closed = none)
    (tag : Option String) : (correlator.enlist tag).Attended where
  keyed := keyed_enlist attended.keyed tag
  reachable := by
    intro ticket waiting
    by_cases newest : ticket = correlator.mailboxes.length
    · cases tag with
      | none =>
        refine .inl ?_
        rw [inOrder_enlist, if_pos rfl, newest]
        exact List.mem_append_right _ List.mem_cons_self
      | some id =>
        refine .inr ⟨id, ?_⟩
        rw [ticketOf?_enlist, if_pos rfl, newest]
    · have earlier : ticket < correlator.mailboxes.length := by
        have handedOut : ticket < (correlator.enlist tag).mailboxes.length :=
          lt_of_mailbox_ne (by rw [waiting]; exact Mailbox.noConfusion)
        rw [length_enlist] at handedOut
        omega
      have before := waiting_of_enlist attended.keyed earlier waiting
      rcases attended.reachable ticket before with member | ⟨id, found⟩
      · refine .inl ?_
        rw [inOrder_enlist]
        split
        · exact List.mem_append_left _ member
        · exact member
      · refine .inr ⟨id, ticketOf?_enlist_of_waiting attended.keyed ?_ found before⟩
        rintro rfl
        rw [mailbox_enlist attended.keyed, if_neg newest, if_pos ⟨found, before⟩] at waiting
        cases waiting
  empty closed := absurd ((enlist_closed correlator tag).trans isOpen) closed

theorem Attended.cancel (attended : correlator.Attended) (pending : Pending) :
    (correlator.cancel pending).Attended := by
  by_cases stands : correlator.Stands pending
  case neg =>
    rw [cancel_of_not_stands stands]
    exact attended
  refine ⟨keyed_cancel attended.keyed pending, ?_, ?_⟩
  · intro ticket waiting
    rw [mailbox_cancel] at waiting
    split at waiting
    · cases waiting
    next stays =>
    have other : ticket ≠ pending.ticket := fun same => stays ⟨same, stands, waiting⟩
    rcases attended.reachable ticket waiting with member | ⟨id, found⟩
    · refine .inl ?_
      rw [inOrder_cancel]
      split
      · exact List.mem_filter.mpr ⟨member, decide_eq_true other⟩
      · exact member
    · refine .inr ⟨id, ?_⟩
      rw [ticketOf?_cancel, if_neg]
      · exact found
      · rintro ⟨-, own⟩
        exact other (Option.some.inj (found.symm.trans own))
  · intro closed
    rw [cancel_closed] at closed
    exact absurd stands (attended.not_stands closed pending)

theorem Attended.abandon (attended : correlator.Attended) (pending : Pending) :
    (correlator.abandon pending).Attended where
  keyed := attended.keyed
  reachable := by
    intro ticket waiting
    rw [mailbox_abandon] at waiting
    split at waiting
    · cases waiting
    · exact attended.reachable ticket waiting
  empty := attended.empty

theorem Attended.resolve (attended : correlator.Attended) (response : Response) :
    (correlator.resolve response).Attended := by
  refine ⟨keyed_resolve attended.keyed response, ?_, ?_⟩
  · intro ticket waiting
    rw [mailbox_resolve] at waiting
    split at waiting
    · cases waiting
    next passed =>
    have other : correlator.recipient? response ≠ some ticket := fun own => passed ⟨own, waiting⟩
    unfold recipient? at other
    rcases attended.reachable ticket waiting with member | ⟨id, found⟩
    · refine .inl ?_
      rw [inOrder_resolve]
      split
      · next untagged =>
        rw [untagged] at other
        cases line : correlator.inOrder with
        | nil =>
          rw [line] at member
          cases member
        | cons first later =>
          rw [line] at member other
          rcases List.mem_cons.mp member with rfl | behind
          · exact absurd rfl other
          · exact behind
      · exact member
    · refine .inr ⟨id, ?_⟩
      rw [ticketOf?_resolve, if_neg]
      · exact found
      · intro tagged
        rw [tagged] at other
        exact other found
  · intro closed
    rw [resolve_closed] at closed
    obtain ⟨line, table⟩ := attended.empty closed
    rw [inOrder_resolve, resolve_byId, line]
    refine ⟨ite_self _, ?_⟩
    split
    · unfold forget
      rw [table]
      rfl
    · exact table

theorem Attended.close (attended : correlator.Attended) (reason : DisconnectReason) :
    (correlator.close reason).Attended where
  keyed := keyed_close correlator reason
  reachable := by
    intro ticket waiting
    rw [mailbox_close] at waiting
    split at waiting
    · cases waiting
    next missed => exact absurd ⟨attended.listed waiting, waiting⟩ missed
  empty _ := ⟨close_inOrder correlator reason, close_byId correlator reason⟩

/-- Whoever waits when the correlator closes is released. -/
theorem Attended.released (attended : correlator.Attended) {ticket : Nat}
    (waiting : correlator.mailbox ticket = .waiting) (reason : DisconnectReason) :
    (correlator.close reason).mailbox ticket = .released reason := by
  rw [mailbox_close, if_pos ⟨attended.listed waiting, waiting⟩]

/-! ### After the first close -/

/-- A response finds nobody at a closed correlator. -/
theorem Attended.resolve_eq_self (attended : correlator.Attended)
    (closed : correlator.closed ≠ none) (response : Response) :
    correlator.resolve response = correlator := by
  obtain ⟨line, table⟩ := attended.empty closed
  refine resolve_of_nobody ?_
  unfold recipient? ticketOf?
  rw [line, table]
  split <;> rfl

/-- Another close finds nobody, and the first reason stays. -/
theorem Attended.close_eq_self (attended : correlator.Attended) {first : DisconnectReason}
    (closed : correlator.closed = some first) (again : DisconnectReason) :
    correlator.close again = correlator := by
  obtain ⟨line, table⟩ := attended.empty (by rw [closed]; exact Option.some_ne_none first)
  cases correlator with
  | mk inOrder byId mailboxes state =>
    cases line
    cases table
    cases closed
    rfl

theorem Attended.pendingCount_eq_zero (attended : correlator.Attended)
    (closed : correlator.closed ≠ none) : correlator.pendingCount = 0 := by
  obtain ⟨line, table⟩ := attended.empty closed
  unfold pendingCount
  rw [line, table]
  rfl

/-- There is something to take for everybody at a closed correlator. -/
theorem Attended.arrived_isSome (attended : correlator.Attended)
    (closed : correlator.closed ≠ none) (pending : Pending) :
    (correlator.arrived? pending).isSome = true := by
  have settled := attended.not_waiting closed pending.ticket
  unfold arrived?
  cases box : correlator.mailbox pending.ticket with
  | waiting => exact absurd box settled
  | _ => rfl

end Attended

/-! ### What can become of a correlator -/

/-- What can become of a correlator, with the reasons of its closes in order. -/
inductive Course (before : Correlator) : List DisconnectReason → Correlator → Prop
  | stay : Course before [] before
  | enlist {given : List DisconnectReason} {now : Correlator} (course : Course before given now)
      (isOpen : now.closed = none) (tag : Option String) : Course before given (now.enlist tag)
  | cancel {given : List DisconnectReason} {now : Correlator} (course : Course before given now)
      (pending : Pending) : Course before given (now.cancel pending)
  | abandon {given : List DisconnectReason} {now : Correlator} (course : Course before given now)
      (pending : Pending) : Course before given (now.abandon pending)
  | resolve {given : List DisconnectReason} {now : Correlator} (course : Course before given now)
      (response : Response) : Course before given (now.resolve response)
  | close {given : List DisconnectReason} {now : Correlator} (course : Course before given now)
      (reason : DisconnectReason) : Course before (given ++ [reason]) (now.close reason)

section Course

variable {before now later : Correlator} {given further : List DisconnectReason}

theorem Course.trans (course : Course before given now) (on : Course now further later) :
    Course before (given ++ further) later := by
  induction on with
  | stay =>
    rw [List.append_nil]
    exact course
  | enlist _ isOpen tag ih => exact ih.enlist isOpen tag
  | cancel _ pending ih => exact ih.cancel pending
  | abandon _ pending ih => exact ih.abandon pending
  | resolve _ response ih => exact ih.resolve response
  | close _ reason ih =>
    rw [← List.append_assoc]
    exact ih.close reason

theorem Course.attended (course : Course before given now) (attended : before.Attended) :
    now.Attended := by
  induction course with
  | stay => exact attended
  | enlist _ isOpen tag ih => exact ih.enlist isOpen tag
  | cancel _ pending ih => exact ih.cancel pending
  | abandon _ pending ih => exact ih.abandon pending
  | resolve _ response ih => exact ih.resolve response
  | close _ reason ih => exact ih.close reason

/-- The reason of a closed correlator is the first that was given. -/
theorem Course.closed (course : Course before given now) :
    now.closed = before.closed.or given.head? := by
  induction course with
  | stay => exact Option.or_none.symm
  | enlist _ _ tag ih => exact (enlist_closed _ tag).trans ih
  | cancel _ pending ih => exact (cancel_closed _ pending).trans ih
  | abandon _ _ ih => exact ih
  | resolve _ response ih => exact (resolve_closed _ response).trans ih
  | close _ reason ih => rw [close_closed, ih, Option.or_assoc, List.head?_append, List.head?_cons]

/-- What is there to take at a closed correlator stays, until its caller goes. -/
theorem Course.mailbox (course : Course before given now) (attended : before.Attended)
    (closed : before.closed ≠ none) (ticket : Nat) :
    now.mailbox ticket = before.mailbox ticket ∨ now.mailbox ticket = .abandoned := by
  have shut {given : List DisconnectReason} {now : Correlator} (course : Course before given now) :
      now.closed = before.closed := by
    obtain ⟨first, state⟩ := Option.ne_none_iff_exists'.mp closed
    rw [course.closed, state]
    rfl
  induction course with
  | stay => exact .inl rfl
  | enlist course isOpen tag ih => exact absurd ((shut course).symm.trans isOpen) closed
  | @cancel given now course pending ih =>
    have gone := (course.attended attended).not_stands (by rwa [shut course]) pending
    rwa [cancel_of_not_stands gone]
  | abandon course pending ih =>
    rw [mailbox_abandon]
    split
    · exact .inr rfl
    · exact ih
  | resolve course response ih =>
    rwa [(course.attended attended).resolve_eq_self (by rwa [shut course])]
  | close course reason ih =>
    obtain ⟨first, state⟩ := Option.ne_none_iff_exists'.mp closed
    rwa [(course.attended attended).close_eq_self ((shut course).trans state)]

end Course

end Correlator

/-! ### Runs of a desk -/

namespace Desk

open Correlator (Course)

/-- The reason that a close gives. -/
def Move.reason? : Move → Option DisconnectReason
  | .close reason => some reason
  | _ => none

theorem course_step (desk : Desk) (move : Move) :
    Course desk.correlator move.reason?.toList (desk.step move).correlator := by
  cases move with
  | register action =>
    simp only [step]
    cases state : desk.correlator.closed with
    | none =>
      rw [Correlator.register_open state]
      exact Course.stay.enlist state action.actionId
    | some reason =>
      rw [Correlator.register_closed state]
      exact .stay
  | cancel handle =>
    simp only [step]
    split
    · exact Course.stay.cancel _
    · exact .stay
  | drop handle =>
    simp only [step]
    split
    · exact Course.stay.abandon _
    · exact .stay
  | wait handle limitMs =>
    simp only [step]
    split
    · split
      · exact Course.stay.abandon _
      · exact .stay
    · exact .stay
  | resolve response => exact Course.stay.resolve response
  | close reason => exact Course.stay.close reason

/-- Whatever happens at a desk, its correlator takes a course with the reasons that are given. -/
theorem course_run (moves : List Move) :
    Course .new (moves.filterMap Move.reason?) (run moves).correlator := by
  induction moves using List.reverseRecOn with
  | nil => exact .stay
  | append_singleton moves last ih =>
    rw [run_concat, List.filterMap_append]
    have brings : [last].filterMap Move.reason? = last.reason?.toList := by
      cases last <;> rfl
    rw [brings]
    exact ih.trans (course_step _ last)

end Desk

end Switchboard
