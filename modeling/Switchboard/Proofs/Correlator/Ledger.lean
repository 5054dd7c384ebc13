/-
**The ledger of a desk: every caller beside its enrolment.**

A desk is run beside two registries, one for the callers with an identifier and one for those
without. The ledger pairs each caller with its enrolment, in the order of the tickets; `Agrees` says
what ties the three together:

* a caller sees what its enrolment says;
* the line holds the tickets of the callers without an identifier to whom a response is owed;
* the table holds everybody with an identifier who listens for something to come;
* of several enrolments under one identifier, something is owed to the last one at most.

There are three ways to change a ledger, and each keeps the agreement: the last thing comes for
some of the callers (`Agrees.settle`), a caller leaves (`Agrees.depart`), a caller gets in line
(`Agrees.enlist`).
-/

import Switchboard.Proofs.Correlator.Effects
import Switchboard.Proofs.Correlator.Registry

namespace Switchboard

open Correlator

/-! ### Lists whose members have keys of their own -/

section Lists

variable {α : Type} {β : Type} {κ : Type} [DecidableEq κ]
variable {key : α → κ} {members : List α} {member : α}

/-- Changing the value at a place is changing the value of the member with the key of that place. -/
theorem modify_eq_map (distinct : (members.map key).Nodup) {place : Nat}
    (found : members[place]? = some member) (value : α → β) (change : β → β) :
    (members.map value).modify place change =
      members.map fun other =>
        if key other = key member then change (value other) else value other := by
  induction members generalizing place with
  | nil => cases found
  | cons first rest ih =>
    obtain ⟨fresh, later⟩ := List.nodup_cons.mp distinct
    have differ : ∀ other ∈ rest, key other ≠ key first :=
      fun other inRest same => fresh (same ▸ List.mem_map_of_mem inRest)
    cases place with
    | zero =>
      cases Option.some.inj found
      rw [List.map_cons, List.modify_zero_cons, List.map_cons, if_pos rfl]
      congr 1
      exact List.map_congr_left fun other inRest => (if_neg (differ other inRest)).symm
    | succ place =>
      have inRest : member ∈ rest := List.mem_of_getElem? found
      rw [List.map_cons, List.modify_succ_cons, List.map_cons,
        if_neg (Ne.symm (differ member inRest)), ih later found]

/-- Changing the first value with a property is changing the value of the member with its key. -/
theorem updateFirst_eq_map (distinct : (members.map key).Nodup) {value : α → β} {p : β → Bool}
    {more : List α} (found : members.filter (fun other => p (value other)) = member :: more)
    (change : β → β) :
    updateFirst p change (members.map value) =
      members.map fun other =>
        if key other = key member then change (value other) else value other := by
  induction members with
  | nil => cases found
  | cons first rest ih =>
    obtain ⟨fresh, later⟩ := List.nodup_cons.mp distinct
    have differ : ∀ other ∈ rest, key other ≠ key first :=
      fun other inRest same => fresh (same ▸ List.mem_map_of_mem inRest)
    rw [List.map_cons, List.map_cons]
    unfold updateFirst
    by_cases has : p (value first) = true
    · rw [List.filter_cons, if_pos has] at found
      obtain ⟨rfl, -⟩ := List.cons.inj found
      rw [if_pos has, if_pos rfl]
      congr 1
      exact List.map_congr_left fun other inRest => (if_neg (differ other inRest)).symm
    · rw [List.filter_cons, if_neg has] at found
      have inRest : member ∈ rest :=
        (List.mem_filter.mp (found ▸ List.mem_cons_self)).1
      rw [if_neg has, if_neg (Ne.symm (differ member inRest)), ih later found]

/-- Without a member that has the property nothing changes. -/
theorem updateFirst_eq_self {p : α → Bool} (nobody : members.filter p = []) (change : α → α) :
    updateFirst p change members = members := by
  induction members with
  | nil => rfl
  | cons first rest ih =>
    by_cases has : p first = true
    · rw [List.filter_cons_of_pos has] at nobody
      cases nobody
    · rw [List.filter_cons_of_neg has] at nobody
      unfold updateFirst
      rw [if_neg has, ih nobody]

/-- Where a change leaves all but the last member with a property as they are, changing that one is
changing all that have the property. -/
theorem updateLast_eq_map {p : α → Bool} {change : α → α}
    (idle : members.Pairwise fun earlier later =>
      p earlier = true → p later = true → change earlier = earlier) :
    updateLast p change members =
      members.map fun other => if p other then change other else other := by
  induction members with
  | nil => rfl
  | cons first rest ih =>
    obtain ⟨before, later⟩ := List.pairwise_cons.mp idle
    unfold updateLast
    rw [List.map_cons]
    by_cases has : p first = true
    · by_cases again : rest.any p = true
      · obtain ⟨other, inRest, otherHas⟩ := List.any_eq_true.mp again
        rw [if_neg (by simp [again]), if_pos has, before other inRest has otherHas, ih later]
      · have last : ∀ other ∈ rest, ¬p other = true :=
          fun other inRest otherHas => again (List.any_eq_true.mpr ⟨other, inRest, otherHas⟩)
        rw [if_pos (by simp [has, again]), if_pos has]
        congr 1
        exact (List.map_id' rest).symm.trans
          (List.map_congr_left fun other inRest => (if_neg (last other inRest)).symm)
    · rw [if_neg (by simp [has]), if_neg has, ih later]

end Lists

/-! ### The ledger -/

namespace Ledger

/-- A caller and its enrolment. -/
structure Entry where
  caller : Caller
  enrolment : Enrolment

namespace Entry

def ticket (entry : Entry) : Nat :=
  entry.caller.pending.ticket

def actionId (entry : Entry) : Option String :=
  entry.caller.pending.actionId

def kind (entry : Entry) : Kind :=
  entry.caller.kind

/-- Whether the caller has a place in the line. -/
def inLine (entry : Entry) : Bool :=
  entry.kind = .untagged && entry.enrolment.owed

/-- The entry after the last thing has come for those who are chosen. -/
def settle (chosen : Entry → Bool) (content : Mailbox) (entry : Entry) : Entry :=
  { entry with
    enrolment :=
      if chosen entry then entry.enrolment.settleOwed content else entry.enrolment }

/-- The entry after the caller of a ticket has left, with what it got. -/
def depart (ticket : Nat) (outcome : Option (Except BridgeError Response)) (entry : Entry) : Entry :=
  if entry.ticket = ticket then
    { caller := { entry.caller with outcome := outcome }
      enrolment :=
        { entry.enrolment with
          face := { entry.enrolment.face with mailbox := .abandoned, outcome := outcome } } }
  else entry

/-- The entry of a caller that has just got in line. -/
def ofAction (ticket : Nat) (action : Action) : Entry :=
  { caller := { pending := ⟨ticket, action.name, action.actionId⟩, outcome := none }
    enrolment := Enrolment.ofAction action }

@[simp]
theorem depart_ticket (ticket : Nat) (outcome : Option (Except BridgeError Response))
    (entry : Entry) : (entry.depart ticket outcome).ticket = entry.ticket := by
  unfold depart
  split <;> rfl

@[simp]
theorem depart_actionId (ticket : Nat) (outcome : Option (Except BridgeError Response))
    (entry : Entry) : (entry.depart ticket outcome).actionId = entry.actionId := by
  unfold depart
  split <;> rfl

@[simp]
theorem depart_owed (ticket : Nat) (outcome : Option (Except BridgeError Response))
    (entry : Entry) : (entry.depart ticket outcome).enrolment.owed = entry.enrolment.owed := by
  unfold depart
  split <;> rfl

theorem settle_owed (chosen : Entry → Bool) (content : Mailbox) (entry : Entry) :
    (entry.settle chosen content).enrolment.owed = (entry.enrolment.owed && !chosen entry) := by
  unfold settle Enrolment.settleOwed Enrolment.settle
  cases chosen entry <;> cases owed : entry.enrolment.owed <;> simp [owed]

theorem kind_eq_untagged {entry : Entry} : entry.kind = .untagged ↔ entry.actionId = none := by
  show Kind.of entry.actionId = .untagged ↔ _
  cases entry.actionId <;> simp [Kind.of]

theorem inLine_iff {entry : Entry} :
    entry.inLine = true ↔ entry.actionId = none ∧ entry.enrolment.owed = true := by
  unfold inLine
  rw [Bool.and_eq_true_iff, decide_eq_true_iff, kind_eq_untagged]

theorem inLine_ofAction {ticket : Nat} {action : Action} :
    (ofAction ticket action).inLine = true ↔ action.actionId = none :=
  inLine_iff.trans (and_iff_left rfl)

theorem kind_eq_tagged {entry : Entry} {id : String} (under : entry.actionId = some id) :
    entry.kind = .tagged := by
  show Kind.of entry.actionId = .tagged
  rw [under]
  rfl

end Entry

/-- What ties a desk, two registries and a ledger together. -/
structure Agrees (desk : Desk) (registry : Kind → Registry) (ledger : List Entry) : Prop where
  callers : desk.callers = ledger.map Entry.caller
  enrolments : ∀ kind,
    (registry kind).enrolments = (ledger.filter (·.kind = kind)).map Entry.enrolment
  closed : ∀ kind, (registry kind).closed = desk.correlator.closed
  faces : ∀ entry ∈ ledger, entry.enrolment.face = desk.face entry.caller
  tickets : ledger.map Entry.ticket = List.range desk.correlator.mailboxes.length
  settled : ∀ entry ∈ ledger,
    entry.enrolment.owed = false → desk.correlator.mailbox entry.ticket ≠ .waiting
  line : desk.correlator.inOrder = (ledger.filter Entry.inLine).map Entry.ticket
  keyed : desk.correlator.Keyed
  table : ∀ id ticket, desk.correlator.ticketOf? id = some ticket →
    ∃ entry ∈ ledger, entry.ticket = ticket ∧ entry.actionId = some id
  listed : ∀ entry ∈ ledger, desk.correlator.mailbox entry.ticket = .waiting →
    ∀ id, entry.actionId = some id → desk.correlator.ticketOf? id = some entry.ticket
  latest : ledger.Pairwise fun earlier later =>
    ∀ id, earlier.actionId = some id → later.actionId = some id → earlier.enrolment.owed = false

namespace Agrees

variable {desk : Desk} {registry : Kind → Registry} {ledger : List Entry}

/-- The ticket tells whose entry it is. -/
theorem eq_of_ticket (agrees : Agrees desk registry ledger) {first second : Entry}
    (firstListed : first ∈ ledger) (secondListed : second ∈ ledger)
    (same : first.ticket = second.ticket) : first = second := by
  have distinct : (ledger.map Entry.ticket).Nodup := by
    rw [agrees.tickets]
    exact List.nodup_range
  exact List.inj_on_of_nodup_map distinct firstListed secondListed same

/-- The tickets of one kind are pairwise distinct. -/
theorem nodup_tickets (agrees : Agrees desk registry ledger) (kind : Kind) :
    ((ledger.filter (·.kind = kind)).map Entry.ticket).Nodup := by
  refine (List.filter_sublist.map Entry.ticket).nodup ?_
  rw [agrees.tickets]
  exact List.nodup_range

theorem nodup_line (agrees : Agrees desk registry ledger) : desk.correlator.inOrder.Nodup := by
  rw [agrees.line]
  refine (List.filter_sublist.map Entry.ticket).nodup ?_
  rw [agrees.tickets]
  exact List.nodup_range

/-- Somebody is in the line exactly when a response is owed to it, and it has no identifier. -/
theorem mem_line_iff (agrees : Agrees desk registry ledger) {entry : Entry}
    (listed : entry ∈ ledger) :
    entry.ticket ∈ desk.correlator.inOrder ↔ entry.inLine = true := by
  rw [agrees.line, List.mem_map]
  constructor
  · rintro ⟨other, kept, same⟩
    obtain ⟨otherListed, inLine⟩ := List.mem_filter.mp kept
    rwa [agrees.eq_of_ticket otherListed listed same] at inLine
  · exact fun inLine => ⟨entry, List.mem_filter.mpr ⟨listed, inLine⟩, rfl⟩

/-- The enrolments in the line are those without an identifier to which a response is owed. -/
theorem filter_inLine (ledger : List Entry) :
    (ledger.filter (·.kind = .untagged)).filter (fun entry => entry.enrolment.owed) =
      ledger.filter Entry.inLine := by
  rw [List.filter_filter]
  congr 1
  funext entry
  exact Bool.and_comm _ _

theorem isUnder_eq (agrees : Agrees desk registry ledger) {entry : Entry} (listed : entry ∈ ledger)
    (id : String) : entry.enrolment.isUnder id = decide (entry.actionId = some id) := by
  unfold Enrolment.isUnder
  rw [agrees.faces entry listed]
  rfl

/-- The enrolments of the other kind are not made under an identifier. -/
theorem not_isUnder (agrees : Agrees desk registry ledger) {kind : Kind} (other : kind ≠ .tagged)
    (id : String) : ∀ enrolment ∈ (registry kind).enrolments, enrolment.isUnder id = false := by
  rw [agrees.enrolments, List.forall_mem_map]
  intro entry kept
  obtain ⟨listed, own⟩ := List.mem_filter.mp kept
  rw [agrees.isUnder_eq listed, decide_eq_false_iff_not]
  exact fun under => other ((of_decide_eq_true own).symm.trans (Entry.kind_eq_tagged under))

/-- Of several enrolments under one identifier the earlier ones are settled. -/
theorem idle_under (agrees : Agrees desk registry ledger) (kind : Kind) (id : String)
    (content : Mailbox) :
    ((ledger.filter (·.kind = kind)).map Entry.enrolment).Pairwise fun earlier later =>
      earlier.isUnder id = true → later.isUnder id = true →
        earlier.settleOwed content = earlier := by
  rw [List.pairwise_map]
  refine (agrees.latest.filter _).imp_of_mem fun {earlier later} first second settled => ?_
  rw [agrees.isUnder_eq (List.mem_of_mem_filter first), decide_eq_true_iff,
    agrees.isUnder_eq (List.mem_of_mem_filter second), decide_eq_true_iff]
  intro firstUnder secondUnder
  unfold Enrolment.settleOwed
  rw [settled id firstUnder secondUnder]
  rfl

/-- The line without one of the tickets. -/
theorem line_without (agrees : Agrees desk registry ledger) (ticket : Nat) :
    desk.correlator.inOrder.filter (· ≠ ticket) =
      (ledger.filter fun entry => entry.inLine && !decide (entry.ticket = ticket)).map
        Entry.ticket := by
  rw [agrees.line, List.filter_map, List.filter_filter]
  congr 2
  funext entry
  rw [Bool.and_comm]
  simp

/-- Nobody in the line has an identifier. -/
theorem line_without_under (agrees : Agrees desk registry ledger) (id : String) :
    desk.correlator.inOrder =
      (ledger.filter fun entry => entry.inLine && !decide (entry.actionId = some id)).map
        Entry.ticket := by
  rw [agrees.line]
  congr 1
  refine List.filter_congr fun entry _ => ?_
  cases inLine : entry.inLine with
  | false => rfl
  | true =>
    rw [(Entry.inLine_iff.mp inLine).1]
    rfl

/-- Something is owed to whoever listens. -/
theorem owed_of_waiting (agrees : Agrees desk registry ledger) {entry : Entry}
    (listed : entry ∈ ledger) (waiting : desk.correlator.mailbox entry.ticket = .waiting) :
    entry.enrolment.owed = true := by
  by_contra settled
  exact agrees.settled entry listed (Bool.eq_false_iff.mpr settled) waiting

/-- Whoever listens stands in the line or in the table. -/
theorem stands_of_waiting (agrees : Agrees desk registry ledger) {entry : Entry}
    (listed : entry ∈ ledger) (waiting : desk.correlator.mailbox entry.ticket = .waiting) :
    desk.correlator.Stands entry.caller.pending := by
  unfold Stands
  cases under : entry.caller.pending.actionId with
  | some id => exact agrees.listed entry listed waiting id under
  | none =>
    have inLine : entry.inLine = true := by
      rw [Entry.inLine_iff]
      exact ⟨under, agrees.owed_of_waiting listed waiting⟩
    exact (agrees.mem_line_iff listed).mpr inLine

/-- The caller of a handle has an entry at that place among those of its kind. -/
theorem seat (agrees : Agrees desk registry ledger) {handle : Handle} {caller : Caller}
    (found : desk.caller? handle = some caller) :
    ∃ entry ∈ ledger, entry.caller = caller ∧ entry.kind = handle.kind ∧
      (ledger.filter (·.kind = handle.kind))[handle.place]? = some entry := by
  unfold Desk.caller? at found
  rw [agrees.callers, List.filter_map, List.getElem?_map] at found
  obtain ⟨entry, there, rfl⟩ := Option.map_eq_some_iff.mp found
  obtain ⟨listed, own⟩ := List.mem_filter.mp (List.mem_of_getElem? there)
  exact ⟨entry, listed, rfl, of_decide_eq_true own, there⟩

/-- The last thing comes for those who are chosen. -/
theorem settle (agrees : Agrees desk registry ledger) {next : Desk} {others : Kind → Registry}
    (chosen : Entry → Bool) (content : Mailbox) (last : content ≠ .waiting)
    (callers : next.callers = desk.callers)
    (size : next.correlator.mailboxes.length = desk.correlator.mailboxes.length)
    (mailboxes : ∀ entry ∈ ledger, next.correlator.mailbox entry.ticket =
      if chosen entry = true ∧ desk.correlator.mailbox entry.ticket = .waiting then content
      else desk.correlator.mailbox entry.ticket)
    (line : next.correlator.inOrder =
      (ledger.filter fun entry => entry.inLine && !chosen entry).map Entry.ticket)
    (keyed : next.correlator.Keyed)
    (table : ∀ id ticket, next.correlator.ticketOf? id = some ticket →
      desk.correlator.ticketOf? id = some ticket)
    (listed : ∀ entry ∈ ledger, chosen entry = false →
      desk.correlator.mailbox entry.ticket = .waiting → ∀ id, entry.actionId = some id →
        next.correlator.ticketOf? id = some entry.ticket)
    (enrolments : ∀ kind, (others kind).enrolments = (ledger.filter (·.kind = kind)).map fun entry =>
      if chosen entry then entry.enrolment.settleOwed content else entry.enrolment)
    (closed : ∀ kind, (others kind).closed = next.correlator.closed) :
    Agrees next others (ledger.map (Entry.settle chosen content)) where
  callers := by
    rw [callers, agrees.callers, List.map_map]
    rfl
  enrolments kind := by
    rw [enrolments, List.filter_map, List.map_map]
    rfl
  closed := closed
  faces := by
    rw [List.forall_mem_map]
    intro entry member
    have face := agrees.faces entry member
    have here := mailboxes entry member
    have mailbox : desk.correlator.mailbox entry.ticket = entry.enrolment.face.mailbox := by
      rw [face]
      rfl
    show (if chosen entry then entry.enrolment.settleOwed content else entry.enrolment).face =
      { desk.face entry.caller with mailbox := next.correlator.mailbox entry.ticket }
    rw [here, mailbox, ← face]
    by_cases picked : chosen entry = true
    · by_cases owed : entry.enrolment.owed = true
      · simp [Enrolment.settleOwed, Enrolment.settle, picked, owed]
      · have silent := agrees.settled entry member (Bool.eq_false_iff.mpr owed)
        rw [mailbox] at silent
        simp [Enrolment.settleOwed, owed, silent]
    · simp [picked]
  tickets := by
    rw [size, ← agrees.tickets, List.map_map]
    rfl
  settled := by
    rw [List.forall_mem_map]
    intro entry member
    rw [Entry.settle_owed]
    show _ → next.correlator.mailbox entry.ticket ≠ .waiting
    rw [mailboxes entry member, Bool.and_eq_false_iff, Bool.not_eq_false']
    intro nothing
    split
    · exact last
    · next silent =>
      intro waiting
      cases nothing with
      | inl settled => exact agrees.settled entry member settled waiting
      | inr picked => exact silent ⟨picked, waiting⟩
  line := by
    rw [line, List.filter_map, List.map_map]
    congr 2
    funext entry
    show _ = (entry.kind = .untagged && (entry.settle chosen content).enrolment.owed)
    rw [Entry.settle_owed, ← Bool.and_assoc]
    rfl
  keyed := keyed
  table id ticket found := by
    obtain ⟨entry, member, own, under⟩ := agrees.table id ticket (table id ticket found)
    exact ⟨entry.settle chosen content, List.mem_map_of_mem member, own, under⟩
  listed := by
    rw [List.forall_mem_map]
    intro entry member waiting id under
    have still : next.correlator.mailbox entry.ticket = .waiting := waiting
    rw [mailboxes entry member] at still
    split at still
    · exact absurd still last
    · next silent =>
      refine listed entry member ?_ still id under
      exact Bool.eq_false_iff.mpr fun picked => silent ⟨picked, still⟩
  latest := by
    rw [List.pairwise_map]
    refine agrees.latest.imp fun idle id first second => ?_
    rw [Entry.settle_owed, idle id first second]
    rfl

/-- A caller leaves, with what it got. -/
theorem depart (agrees : Agrees desk registry ledger) {next : Desk} {others : Kind → Registry}
    (pending : Pending) (outcome : Option (Except BridgeError Response))
    (correlator : next.correlator = desk.correlator.abandon pending)
    (callers : next.callers = (ledger.map (Entry.depart pending.ticket outcome)).map Entry.caller)
    (enrolments : ∀ kind, (others kind).enrolments =
      (ledger.filter (·.kind = kind)).map fun entry =>
        (entry.depart pending.ticket outcome).enrolment)
    (closed : ∀ kind, (others kind).closed = (registry kind).closed) :
    Agrees next others (ledger.map (Entry.depart pending.ticket outcome)) where
  callers := callers
  enrolments kind := by
    have kept : (fun entry : Entry => decide (entry.kind = kind)) ∘
        Entry.depart pending.ticket outcome = fun entry => decide (entry.kind = kind) := by
      funext entry
      show decide (Kind.of (entry.depart pending.ticket outcome).actionId = kind) = _
      rw [Entry.depart_actionId]
      rfl
    rw [enrolments, List.filter_map, List.map_map, kept]
    rfl
  closed kind := by
    rw [closed, agrees.closed, correlator]
    rfl
  faces := by
    rw [List.forall_mem_map]
    intro entry member
    have face := agrees.faces entry member
    unfold Desk.face
    show (entry.depart pending.ticket outcome).enrolment.face = Face.mk _ _
      (next.correlator.mailbox (entry.depart pending.ticket outcome).ticket) _
    rw [Entry.depart_ticket, correlator, mailbox_abandon]
    unfold Entry.depart
    split
    · rw [face]
      rfl
    · exact face
  tickets := by
    rw [correlator, length_abandon, ← agrees.tickets, List.map_map]
    exact List.map_congr_left fun entry _ => Entry.depart_ticket ..
  settled := by
    rw [List.forall_mem_map]
    intro entry member
    rw [Entry.depart_owed, Entry.depart_ticket, correlator, mailbox_abandon]
    intro nothing
    split
    · exact Mailbox.noConfusion
    · exact agrees.settled entry member nothing
  line := by
    have kept : Entry.inLine ∘ Entry.depart pending.ticket outcome = Entry.inLine := by
      funext entry
      show (decide (Kind.of (entry.depart pending.ticket outcome).actionId = .untagged) &&
        (entry.depart pending.ticket outcome).enrolment.owed) = _
      rw [Entry.depart_actionId, Entry.depart_owed]
      rfl
    rw [correlator, List.filter_map, List.map_map, kept]
    refine agrees.line.trans (List.map_congr_left fun entry _ => ?_)
    exact (Entry.depart_ticket ..).symm
  keyed := by
    rw [correlator]
    exact agrees.keyed
  table id ticket found := by
    rw [correlator] at found
    obtain ⟨entry, member, own, under⟩ := agrees.table id ticket found
    exact ⟨entry.depart pending.ticket outcome, List.mem_map_of_mem member,
      (Entry.depart_ticket ..).trans own, (Entry.depart_actionId ..).trans under⟩
  listed := by
    rw [List.forall_mem_map]
    intro entry member waiting id under
    rw [Entry.depart_ticket, correlator, mailbox_abandon] at waiting
    rw [Entry.depart_actionId] at under
    rw [Entry.depart_ticket, correlator]
    split at waiting
    · cases waiting
    · exact agrees.listed entry member waiting id under
  latest := by
    rw [List.pairwise_map]
    refine agrees.latest.imp fun idle id first second => ?_
    rw [Entry.depart_actionId] at first second
    rw [Entry.depart_owed]
    exact idle id first second

/-- What a move on one handle does to the registries. -/
theorem enrolments_change (agrees : Agrees desk registry ledger) {handle : Handle} {entry : Entry}
    (own : entry.kind = handle.kind)
    (there : (ledger.filter (·.kind = handle.kind))[handle.place]? = some entry)
    (change : Enrolment → Enrolment) (kind : Kind) :
    (if handle.kind = kind then (registry kind).change handle.place change
      else registry kind).enrolments =
      (ledger.filter (·.kind = kind)).map fun other =>
        if other.ticket = entry.ticket then change other.enrolment else other.enrolment := by
  by_cases same : handle.kind = kind
  · subst same
    rw [if_pos rfl]
    unfold Registry.change
    rw [agrees.enrolments]
    exact modify_eq_map (agrees.nodup_tickets _) there _ _
  · rw [if_neg same, agrees.enrolments]
    refine List.map_congr_left fun other member => ?_
    obtain ⟨listed, otherKind⟩ := List.mem_filter.mp member
    have entryListed := (List.mem_filter.mp (List.mem_of_getElem? there)).1
    rw [if_neg]
    intro ticket
    rw [agrees.eq_of_ticket listed entryListed ticket] at otherKind
    exact same (own.symm.trans (of_decide_eq_true otherKind))

/-- A move on the handle of nobody changes nothing. -/
theorem change_of_nobody (agrees : Agrees desk registry ledger) {handle : Handle}
    (nobody : desk.caller? handle = none) (change : Enrolment → Enrolment) (kind : Kind) :
    (if handle.kind = kind then (registry kind).change handle.place change else registry kind) =
      registry kind := by
  by_cases same : handle.kind = kind
  · subst same
    have beyond : (registry handle.kind).enrolments.length ≤ handle.place := by
      unfold Desk.caller? at nobody
      rw [agrees.callers, List.filter_map, List.getElem?_map, Option.map_eq_none_iff,
        List.getElem?_eq_none_iff] at nobody
      rw [agrees.enrolments, List.length_map]
      exact nobody
    rw [if_pos rfl]
    unfold Registry.change
    rw [List.modify_eq_self beyond]
  · rw [if_neg same]

/-- A caller gets in line, where nothing is owed to another one under its identifier. -/
theorem enlist (agrees : Agrees desk registry ledger) {next : Desk} {others : Kind → Registry}
    {action : Action}
    (callers : next.callers = desk.callers ++
      [(Entry.ofAction desk.correlator.mailboxes.length action).caller])
    (mailboxes : next.correlator.mailboxes = desk.correlator.mailboxes ++ [.waiting])
    (line : next.correlator.inOrder =
      if action.actionId = none then
        desk.correlator.inOrder ++ [desk.correlator.mailboxes.length]
      else desk.correlator.inOrder)
    (keyed : next.correlator.Keyed)
    (table : ∀ id, next.correlator.ticketOf? id =
      if action.actionId = some id then some desk.correlator.mailboxes.length
      else desk.correlator.ticketOf? id)
    (vacant : ∀ entry ∈ ledger, ∀ id, entry.actionId = some id → action.actionId = some id →
      entry.enrolment.owed = false)
    (enrolments : ∀ kind, (others kind).enrolments =
      if Kind.of action.actionId = kind then
        (registry kind).enrolments ++ [Enrolment.ofAction action]
      else (registry kind).enrolments)
    (closed : ∀ kind, (others kind).closed = next.correlator.closed) :
    Agrees next others (ledger ++ [Entry.ofAction desk.correlator.mailboxes.length action]) := by
  have earlier : ∀ entry ∈ ledger, entry.ticket < desk.correlator.mailboxes.length := by
    intro entry member
    rw [← List.mem_range, ← agrees.tickets]
    exact List.mem_map_of_mem member
  have mailbox := mailbox_concat desk.correlator mailboxes
  exact {
    callers := by
      rw [callers, agrees.callers, List.map_append]
      rfl
    enrolments := by
      intro kind
      rw [enrolments, agrees.enrolments, List.filter_append, List.map_append]
      by_cases own : Kind.of action.actionId = kind
      · rw [if_pos own, List.filter_cons_of_pos]
        · rfl
        · exact decide_eq_true own
      · rw [if_neg own, List.filter_cons_of_neg]
        · exact (List.append_nil _).symm
        · exact fun other => own (of_decide_eq_true other)
    closed := closed
    faces := by
      rw [List.forall_mem_append]
      constructor
      · intro entry member
        have here : next.correlator.mailbox entry.ticket = desk.correlator.mailbox entry.ticket := by
          rw [mailbox, if_neg (Nat.ne_of_lt (earlier entry member))]
        rw [agrees.faces entry member]
        exact congrArg (Face.mk _ _ · _) here.symm
      · rw [List.forall_mem_singleton]
        have here : next.correlator.mailbox desk.correlator.mailboxes.length = .waiting := by
          rw [mailbox, if_pos rfl]
        exact congrArg (Face.mk _ _ · _) here.symm
    tickets := by
      rw [mailboxes, List.map_append, agrees.tickets, List.length_append]
      exact List.range_succ.symm
    settled := by
      rw [List.forall_mem_append]
      constructor
      · intro entry member
        rw [mailbox, if_neg (Nat.ne_of_lt (earlier entry member))]
        exact agrees.settled entry member
      · rw [List.forall_mem_singleton]
        exact fun settled => Bool.noConfusion settled
    line := by
      rw [line, agrees.line, List.filter_append, List.map_append]
      by_cases untagged : action.actionId = none
      · rw [if_pos untagged, List.filter_cons_of_pos (Entry.inLine_ofAction.mpr untagged)]
        rfl
      · rw [if_neg untagged,
          List.filter_cons_of_neg fun inLine => untagged (Entry.inLine_ofAction.mp inLine)]
        exact (List.append_nil _).symm
    keyed := keyed
    table := by
      intro id ticket found
      rw [table] at found
      split at found
      · next under =>
        exact ⟨_, List.mem_concat_self, Option.some.inj found, under⟩
      · obtain ⟨entry, member, own, under⟩ := agrees.table id ticket found
        exact ⟨entry, List.mem_append_left _ member, own, under⟩
    listed := by
      rw [List.forall_mem_append]
      constructor
      · intro entry member waiting id under
        rw [mailbox, if_neg (Nat.ne_of_lt (earlier entry member))] at waiting
        rw [table, if_neg]
        · exact agrees.listed entry member waiting id under
        · exact fun again => agrees.settled entry member (vacant entry member id under again) waiting
      · rw [List.forall_mem_singleton]
        intro _ id under
        rw [table]
        exact if_pos under
    latest := by
      rw [List.pairwise_append]
      refine ⟨agrees.latest, List.pairwise_singleton _ _, fun entry member last isLast => ?_⟩
      rw [List.mem_singleton.mp isLast]
      exact vacant entry member }

theorem unchanged (agrees : Agrees desk registry ledger) {next : Desk} {others : Kind → Registry}
    (idle : next = desk) (passive : ∀ kind, others kind = registry kind) :
    Agrees next others ledger := by
  rw [idle, funext passive]
  exact agrees

end Agrees

end Ledger

end Switchboard
