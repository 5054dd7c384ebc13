/-
**The letters of an exchange and its correlator.**

A letter is an action on the wire with its caller. `Tidy` says what ties the letters to the
correlator while callers use each identifier once:

* the tickets of the letters rise, and no two letters have one identifier;
* whoever stands in the table is the caller of a letter under that identifier;
* whoever has an identifier and still waits stands in the table.

Each operation of the correlator keeps that. `Answers.actionId` says why an answer finds its caller
at all: a plain identifier comes back as it was sent.
-/

import Switchboard.Proofs.Correlator.Effects
import Switchboard.Proofs.Exchange.Run

namespace Switchboard

open Correlator

/-! ### The identifier that an answer carries -/

namespace Exchange

/-- A response that is read off a block carries the identifier that its block carries, unless that
is blank. -/
theorem actionId_of_ofHeaders? {response : Response}
    (formed : Response.ofHeaders? response.attributes response.output = some response) :
    response.actionId = (response.header Action.idKey).bind Text.nonBlank? := by
  unfold Response.ofHeaders? at formed
  obtain ⟨value, -, same⟩ := Option.map_eq_some_iff.mp formed
  rw [← same]
  rfl

/-- An answer carries the identifier of its action, where that is plain. -/
theorem Answers.actionId {pending : Pending} {response : Response}
    (answers : Answers pending (.response response))
    (plain : ∀ id, pending.actionId = some id → IsPlain id) :
    response.actionId = pending.actionId := by
  rw [actionId_of_ofHeaders? answers.1, answers.2]
  cases tag : pending.actionId with
  | none => rfl
  | some id =>
    obtain ⟨full, trimmed⟩ := plain id tag
    rw [Option.map_some, trimmed, Option.bind_some]
    unfold Text.nonBlank?
    rw [if_neg full]

/-! ### Letters and the correlator -/

/-- What ties the letters of an exchange to its correlator. -/
structure Tidy (correlator : Correlator) (sent : List Letter) : Prop where
  rising : sent.Pairwise fun earlier later => earlier.pending.ticket < later.pending.ticket
  bounded : ∀ letter ∈ sent, letter.pending.ticket < correlator.mailboxes.length
  apart : ∀ first ∈ sent, ∀ second ∈ sent, ∀ id,
    first.pending.actionId = some id → second.pending.actionId = some id → first = second
  plain : ∀ letter ∈ sent, ∀ id, letter.pending.actionId = some id → IsPlain id
  keyed : correlator.Keyed
  table : ∀ id ticket, correlator.ticketOf? id = some ticket →
    ∃ letter ∈ sent, letter.pending.ticket = ticket ∧ letter.pending.actionId = some id
  listed : ∀ letter ∈ sent, correlator.mailbox letter.pending.ticket = .waiting →
    ∀ id, letter.pending.actionId = some id →
      correlator.ticketOf? id = some letter.pending.ticket

namespace Tidy

variable {correlator : Correlator} {sent : List Letter}

theorem start : Tidy new [] where
  rising := .nil
  bounded := by simp
  apart := by simp
  plain := by simp
  keyed := keyed_new
  table _ _ found := nomatch found
  listed := by simp

/-- The letters at two places have two tickets. -/
theorem ticket_ne (tidy : Tidy correlator sent) {first second : Nat} {letter other : Letter}
    (here : sent[first]? = some letter) (there : sent[second]? = some other)
    (differ : first ≠ second) : letter.pending.ticket ≠ other.pending.ticket := by
  obtain ⟨firstInside, rfl⟩ := List.getElem?_eq_some_iff.mp here
  obtain ⟨secondInside, rfl⟩ := List.getElem?_eq_some_iff.mp there
  have rising := List.pairwise_iff_getElem.mp tidy.rising
  rcases Nat.lt_or_gt_of_ne differ with earlier | later
  · exact Nat.ne_of_lt (rising first second firstInside secondInside earlier)
  · exact Nat.ne_of_gt (rising second first secondInside firstInside later)

/-- The caller of an identifier is found under no other ticket. -/
theorem ticket_of_found (tidy : Tidy correlator sent) {letter : Letter} (member : letter ∈ sent)
    {id : String} (under : letter.pending.actionId = some id) {ticket : Nat}
    (found : correlator.ticketOf? id = some ticket) : ticket = letter.pending.ticket := by
  obtain ⟨other, otherMember, rfl, otherUnder⟩ := tidy.table id ticket found
  rw [tidy.apart other otherMember letter member id otherUnder under]

/-- A caller more, whose identifier is new, writes its action. -/
theorem enlist (tidy : Tidy correlator sent) {action : Action}
    (fresh : ∀ id, action.actionId = some id →
      IsPlain id ∧ ∀ letter ∈ sent, letter.pending.actionId ≠ some id) :
    Tidy (correlator.enlist action.actionId)
      (sent ++ [{ pending := correlator.pendingFor action, action }]) where
  rising := by
    rw [List.pairwise_append]
    refine ⟨tidy.rising, List.pairwise_singleton _ _, fun letter member last isLast => ?_⟩
    rw [List.mem_singleton.mp isLast]
    exact tidy.bounded letter member
  bounded := by
    rw [List.forall_mem_append, List.forall_mem_singleton, length_enlist]
    exact ⟨fun letter member => Nat.lt_succ_of_lt (tidy.bounded letter member), Nat.lt_succ_self _⟩
  apart := by
    simp only [List.forall_mem_append, List.forall_mem_singleton]
    refine ⟨fun first member => ⟨tidy.apart first member, fun id under new => ?_⟩,
      fun second member id new under => ?_, fun _ _ _ => trivial⟩
    · exact absurd under ((fresh id new).2 first member)
    · exact absurd under ((fresh id new).2 second member)
  plain := by
    rw [List.forall_mem_append, List.forall_mem_singleton]
    exact ⟨tidy.plain, fun id new => (fresh id new).1⟩
  keyed := keyed_enlist tidy.keyed _
  table := by
    intro id ticket found
    rcases found_of_enlist tidy.keyed found with ⟨under, rfl⟩ | before
    · exact ⟨_, List.mem_concat_self, rfl, under⟩
    · obtain ⟨letter, member, own, under⟩ := tidy.table id ticket before
      exact ⟨letter, List.mem_append_left _ member, own, under⟩
  listed := by
    rw [List.forall_mem_append, List.forall_mem_singleton]
    constructor
    · intro letter member waiting id under
      have before := waiting_of_enlist tidy.keyed (tidy.bounded letter member) waiting
      refine ticketOf?_enlist_of_waiting tidy.keyed (fun new => ?_)
        (tidy.listed letter member before id under) before
      exact (fresh id new).2 letter member under
    · intro _ id new
      rw [show action.actionId = some id from new, ticketOf?_enlist, if_pos rfl]
      rfl

/-- A caller whose write has failed leaves the line again. -/
theorem withdraw {letter : Letter} (tidy : Tidy correlator (sent ++ [letter])) :
    Tidy (correlator.cancel letter.pending) sent := by
  have earlier : ∀ other ∈ sent, other.pending.ticket ≠ letter.pending.ticket := by
    intro other member
    exact Nat.ne_of_lt
      ((List.pairwise_append.mp tidy.rising).2.2 other member letter List.mem_cons_self)
  exact {
    rising := (List.pairwise_append.mp tidy.rising).1
    bounded := by
      intro other member
      rw [length_cancel]
      exact tidy.bounded other (List.mem_append_left _ member)
    apart := fun first firstMember second secondMember =>
      tidy.apart first (List.mem_append_left _ firstMember) second
        (List.mem_append_left _ secondMember)
    plain := fun other member => tidy.plain other (List.mem_append_left _ member)
    keyed := keyed_cancel tidy.keyed _
    table := by
      intro id ticket found
      rw [ticketOf?_cancel] at found
      split at found
      · cases found
      · next stays =>
        obtain ⟨other, member, own, under⟩ := tidy.table id ticket found
        rcases List.mem_append.mp member with before | last
        · exact ⟨other, before, own, under⟩
        · rw [List.mem_singleton.mp last] at own under
          exact absurd ⟨under, own ▸ found⟩ stays
    listed := by
      intro other member waiting id under
      rw [mailbox_cancel, if_neg fun same => earlier other member same.1] at waiting
      have found := tidy.listed other (List.mem_append_left _ member) waiting id under
      rw [ticketOf?_cancel, found, if_neg]
      exact fun both => earlier other member (Option.some.inj both.2) }

/-- Mailboxes are filled and the table shrinks, but whoever still waits stays in it. -/
theorem shrink (tidy : Tidy correlator sent) {next : Correlator}
    (size : next.mailboxes.length = correlator.mailboxes.length) (keyed : next.Keyed)
    (table : ∀ id ticket, next.ticketOf? id = some ticket → correlator.ticketOf? id = some ticket)
    (listed : ∀ letter ∈ sent, next.mailbox letter.pending.ticket = .waiting →
      correlator.mailbox letter.pending.ticket = .waiting ∧
        ∀ id, letter.pending.actionId = some id →
          correlator.ticketOf? id = some letter.pending.ticket →
          next.ticketOf? id = some letter.pending.ticket) :
    Tidy next sent where
  rising := tidy.rising
  bounded := by
    rw [size]
    exact tidy.bounded
  apart := tidy.apart
  plain := tidy.plain
  keyed := keyed
  table id ticket found := tidy.table id ticket (table id ticket found)
  listed letter member waiting id under := by
    obtain ⟨before, stays⟩ := listed letter member waiting
    exact stays id under (tidy.listed letter member before id under)

theorem abandon (tidy : Tidy correlator sent) (pending : Pending) :
    Tidy (correlator.abandon pending) sent := by
  refine tidy.shrink (length_abandon _ _) tidy.keyed (fun _ _ found => found)
    fun letter member waiting => ?_
  rw [mailbox_abandon] at waiting
  split at waiting
  · cases waiting
  · exact ⟨waiting, fun _ _ found => found⟩

theorem resolve (tidy : Tidy correlator sent) (response : Response) :
    Tidy (correlator.resolve response) sent := by
  refine tidy.shrink (length_resolve _ _) (keyed_resolve tidy.keyed _) (fun id ticket found => ?_)
    fun letter member waiting => ?_
  · rw [ticketOf?_resolve] at found
    split at found
    · cases found
    · exact found
  · rw [mailbox_resolve] at waiting
    split at waiting
    · cases waiting
    · next missed =>
      refine ⟨waiting, fun id _ found => ?_⟩
      rw [ticketOf?_resolve, if_neg]
      · exact found
      · intro same
        refine missed ⟨?_, waiting⟩
        unfold recipient?
        rw [same]
        exact found

theorem close (tidy : Tidy correlator sent) (reason : DisconnectReason) :
    Tidy (correlator.close reason) sent := by
  have nobody : ∀ id, (correlator.close reason).ticketOf? id = none := by
    intro id
    unfold ticketOf?
    rw [close_byId]
    rfl
  refine tidy.shrink (length_close _ _) (keyed_close _ _) (fun id ticket found => ?_)
    fun letter member waiting => ?_
  · rw [nobody] at found
    cases found
  · rw [mailbox_close] at waiting
    split at waiting
    · cases waiting
    · next spared =>
      refine ⟨waiting, fun id _ found => absurd ⟨.inr ?_, waiting⟩ spared⟩
      exact List.mem_map_of_mem (mem_of_ticketOf? found)

end Tidy

end Exchange

end Switchboard
