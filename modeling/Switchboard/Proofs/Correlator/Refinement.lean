/-
**The correlator is two independent registries.**

Every move keeps the agreement between a desk, two registries and the ledger (`agrees_step`), so a
run keeps it (`agrees_run`). What callers see after a run is then a matter of the registries alone,
each of which passes over the moves of the other kind.

* `refines_two_registries`: what callers see, who gets a response, and what a run of one kind owes
  to the moves of the other kind, which is nothing.
-/

import Mathlib.Data.List.Induction
import Switchboard.Proofs.Correlator.Ledger

namespace Switchboard

open Correlator

namespace Ledger

variable {desk : Desk} {registry : Kind → Registry} {ledger : List Entry}

/-! ### One move -/

/-- What a caller takes is what its enrolment says. -/
theorem wait_of_held {entry : Entry} (face : entry.enrolment.face = desk.face entry.caller)
    (held : desk.correlator.isHeld entry.ticket = true) (limitMs : Nat) :
    entry.enrolment.wait limitMs =
      { entry.enrolment with
        face :=
          { entry.enrolment.face with
            mailbox := .abandoned
            outcome := some (desk.correlator.collect entry.caller.pending limitMs).1 } } := by
  have present : entry.enrolment.face.mailbox ≠ .abandoned := by
    rw [face]
    show desk.correlator.mailbox entry.ticket ≠ .abandoned
    simpa [isHeld] using held
  unfold Enrolment.wait
  rw [if_neg present, face]
  unfold collect arrived? Desk.face
  cases desk.correlator.mailbox entry.caller.pending.ticket <;> rfl

/-- Whoever is gone takes nothing. -/
theorem wait_of_gone {entry : Entry} (face : entry.enrolment.face = desk.face entry.caller)
    (gone : ¬desk.correlator.isHeld entry.ticket = true) (limitMs : Nat) :
    entry.enrolment.wait limitMs = entry.enrolment := by
  have absent : entry.enrolment.face.mailbox = .abandoned := by
    rw [face]
    show desk.correlator.mailbox entry.ticket = .abandoned
    simpa [isHeld] using gone
  unfold Enrolment.wait
  rw [if_pos absent]

namespace Agrees

theorem cancel (agrees : Agrees desk registry ledger) (handle : Handle) :
    ∃ later, Agrees (desk.step (.cancel handle))
      (fun kind => (registry kind).step kind (.cancel handle)) later := by
  simp only [Registry.step, Desk.Move.concerns, decide_eq_true_eq]
  cases found : desk.caller? handle with
  | none =>
    have idle : desk.step (.cancel handle) = desk := by
      simp only [Desk.step, found]
    exact ⟨ledger, agrees.unchanged idle (agrees.change_of_nobody found _)⟩
  | some caller =>
    obtain ⟨entry, listed, rfl, own, there⟩ := agrees.seat found
    have next : desk.step (.cancel handle) =
        { desk with correlator := desk.correlator.cancel entry.caller.pending } := by
      simp only [Desk.step, found]
    rw [next]
    refine ⟨_, agrees.settle (fun other => other.ticket = entry.ticket) .orphaned
      Mailbox.noConfusion rfl (length_cancel _ _) ?mailboxes ?line (keyed_cancel agrees.keyed _)
      ?table ?listed ?enrolments ?closed⟩
    case mailboxes =>
      intro other member
      rw [mailbox_cancel]
      refine if_congr ?_ rfl rfl
      rw [decide_eq_true_iff]
      constructor
      · rintro ⟨same, -, waiting⟩
        exact ⟨same, waiting⟩
      · rintro ⟨same, waiting⟩
        have stands := agrees.stands_of_waiting member waiting
        rw [agrees.eq_of_ticket member listed same] at stands
        exact ⟨same, stands, waiting⟩
    case line =>
      rw [inOrder_cancel, ← agrees.line_without]
      split
      · rfl
      · next tagged =>
        symm
        rw [List.filter_eq_self]
        intro ticket member
        refine decide_eq_true fun same => tagged ?_
        rw [same] at member
        exact (Entry.inLine_iff.mp ((agrees.mem_line_iff listed).mp member)).1
    case table =>
      intro id ticket later
      rw [ticketOf?_cancel] at later
      split at later
      · cases later
      · exact later
    case listed =>
      intro other member apart waiting id under
      have before := agrees.listed other member waiting id under
      rw [ticketOf?_cancel, if_neg, before]
      rintro ⟨-, same⟩
      rw [before] at same
      exact of_decide_eq_false apart (Option.some.inj same)
    case enrolments =>
      intro kind
      rw [agrees.enrolments_change own there]
      simp only [decide_eq_true_eq]
    case closed =>
      intro kind
      rw [cancel_closed, ← agrees.closed kind]
      split <;> rfl

theorem drop (agrees : Agrees desk registry ledger) (handle : Handle) :
    ∃ later, Agrees (desk.step (.drop handle))
      (fun kind => (registry kind).step kind (.drop handle)) later := by
  simp only [Registry.step, Desk.Move.concerns, decide_eq_true_eq]
  cases found : desk.caller? handle with
  | none =>
    have idle : desk.step (.drop handle) = desk := by
      simp only [Desk.step, found]
    exact ⟨ledger, agrees.unchanged idle (agrees.change_of_nobody found _)⟩
  | some caller =>
    obtain ⟨entry, listed, rfl, own, there⟩ := agrees.seat found
    have next : desk.step (.drop handle) =
        { desk with correlator := desk.correlator.abandon entry.caller.pending } := by
      simp only [Desk.step, found]
    rw [next]
    refine ⟨_, agrees.depart entry.caller.pending entry.caller.outcome
      rfl ?callers ?enrolments ?closed⟩
    case callers =>
      rw [List.map_map]
      refine agrees.callers.trans (List.map_congr_left fun other member => ?_)
      show other.caller = (other.depart entry.ticket entry.caller.outcome).caller
      unfold Entry.depart
      split
      · next same =>
        rw [agrees.eq_of_ticket member listed same]
      · rfl
    case enrolments =>
      intro kind
      rw [agrees.enrolments_change own there]
      refine List.map_congr_left fun other kept => ?_
      have member := (List.mem_filter.mp kept).1
      show _ = (other.depart entry.ticket entry.caller.outcome).enrolment
      unfold Entry.depart
      split
      · next same =>
        rw [agrees.eq_of_ticket member listed same]
        unfold Enrolment.leave
        rw [agrees.faces entry listed]
        rfl
      · rfl
    case closed =>
      intro kind
      split <;> rfl

theorem wait (agrees : Agrees desk registry ledger) (handle : Handle) (limitMs : Nat) :
    ∃ later, Agrees (desk.step (.wait handle limitMs))
      (fun kind => (registry kind).step kind (.wait handle limitMs)) later := by
  simp only [Registry.step, Desk.Move.concerns, decide_eq_true_eq]
  cases found : desk.caller? handle with
  | none =>
    have idle : desk.step (.wait handle limitMs) = desk := by
      simp only [Desk.step, found]
    exact ⟨ledger, agrees.unchanged idle (agrees.change_of_nobody found _)⟩
  | some caller =>
    obtain ⟨entry, listed, rfl, own, there⟩ := agrees.seat found
    by_cases held : desk.correlator.isHeld entry.caller.pending.ticket = true
    · have next : desk.step (.wait handle limitMs) =
          { correlator := desk.correlator.abandon entry.caller.pending
            callers := desk.record entry.caller.pending.ticket
              (desk.correlator.collect entry.caller.pending limitMs).1 } := by
        simp only [Desk.step, found, held, if_true]
        rfl
      rw [next]
      refine ⟨_, agrees.depart entry.caller.pending
        (some (desk.correlator.collect entry.caller.pending limitMs).1)
        rfl ?callers ?enrolments ?closed⟩
      case callers =>
        unfold Desk.record
        rw [agrees.callers, List.map_map, List.map_map]
        refine List.map_congr_left fun other _ => ?_
        show (if other.ticket = entry.ticket then _ else other.caller) =
          (other.depart entry.ticket _).caller
        unfold Entry.depart
        split <;> rfl
      case enrolments =>
        intro kind
        rw [agrees.enrolments_change own there]
        refine List.map_congr_left fun other kept => ?_
        have member := (List.mem_filter.mp kept).1
        show _ = (other.depart entry.ticket _).enrolment
        unfold Entry.depart
        split
        · next same =>
          rw [agrees.eq_of_ticket member listed same]
          exact wait_of_held (agrees.faces entry listed) held limitMs
        · rfl
      case closed =>
        intro kind
        split <;> rfl
    · have idle : desk.step (.wait handle limitMs) = desk := by
        simp only [Desk.step, found, held]
        rfl
      refine ⟨ledger, agrees.unchanged idle fun kind => Registry.ext ?enrolments ?closed⟩
      case enrolments =>
        rw [agrees.enrolments_change own there, agrees.enrolments]
        refine List.map_congr_left fun other kept => ?_
        have member := (List.mem_filter.mp kept).1
        split
        · next same =>
          rw [agrees.eq_of_ticket member listed same]
          exact wait_of_gone (agrees.faces entry listed) held limitMs
        · rfl
      case closed => split <;> rfl

theorem resolve_untagged (agrees : Agrees desk registry ledger) {response : Response}
    (untagged : response.actionId = none) :
    ∃ later, Agrees (desk.step (.resolve response))
      (fun kind => (registry kind).step kind (.resolve response)) later := by
  simp only [Registry.step, Desk.Move.concerns, decide_eq_true_eq]
  cases inLine : ledger.filter Entry.inLine with
  | nil =>
    have nobody : desk.correlator.recipient? response = none := by
      unfold recipient?
      rw [untagged, agrees.line, inLine]
      rfl
    have idle : desk.step (.resolve response) = desk := by
      simp only [Desk.step, resolve_of_nobody nobody]
    refine ⟨ledger, agrees.unchanged idle fun kind => ?_⟩
    split
    · next own =>
      rw [untagged] at own
      subst own
      unfold Registry.resolve
      rw [untagged]
      refine Registry.ext ?_ rfl
      show updateFirst _ _ (registry .untagged).enrolments = (registry .untagged).enrolments
      refine updateFirst_eq_self ?_ _
      rw [agrees.enrolments, List.filter_map, List.map_eq_nil_iff, ← inLine]
      exact filter_inLine ledger
    · rfl
  | cons entry more =>
    obtain ⟨listed, stands⟩ := List.mem_filter.mp (inLine ▸ List.mem_cons_self : entry ∈ _)
    obtain ⟨noId, owed⟩ := Entry.inLine_iff.mp stands
    -- The head of the line is the ticket of the first entry to which a response is owed.
    have own : desk.correlator.recipient? response = some entry.ticket := by
      unfold recipient?
      rw [untagged, agrees.line, inLine]
      rfl
    refine ⟨_, agrees.settle (fun other => other.ticket = entry.ticket)
      (.answered response) Mailbox.noConfusion rfl (length_resolve _ _) ?mailboxes ?line
      (keyed_resolve agrees.keyed _) ?table ?listed ?enrolments ?closed⟩
    case mailboxes =>
      intro other member
      show (desk.correlator.resolve response).mailbox other.ticket = _
      rw [mailbox_resolve]
      refine if_congr (and_congr_left fun _ => ?_) rfl rfl
      rw [own, decide_eq_true_iff]
      exact ⟨fun same => (Option.some.inj same).symm, fun same => congrArg some same.symm⟩
    case line =>
      show (desk.correlator.resolve response).inOrder = _
      rw [inOrder_resolve, untagged, if_pos rfl, ← agrees.line_without]
      have line : desk.correlator.inOrder = entry.ticket :: more.map Entry.ticket := by
        rw [agrees.line, inLine]
        rfl
      obtain ⟨first, -⟩ := List.nodup_cons.mp (line ▸ agrees.nodup_line)
      rw [line, List.filter_cons_of_neg (by simp), List.tail_cons]
      symm
      rw [List.filter_eq_self]
      exact fun ticket member => decide_eq_true fun same => first (same ▸ member)
    case table =>
      intro id ticket found
      change (desk.correlator.resolve response).ticketOf? id = some ticket at found
      rwa [ticketOf?_resolve, untagged, if_neg (by simp)] at found
    case listed =>
      intro other member apart waiting id under
      show (desk.correlator.resolve response).ticketOf? id = _
      rw [ticketOf?_resolve, untagged, if_neg (by simp)]
      exact agrees.listed other member waiting id under
    case enrolments =>
      intro kind
      rw [untagged]
      split
      · next same =>
        subst same
        unfold Registry.resolve
        rw [untagged]
        show updateFirst _ _ (registry .untagged).enrolments = _
        rw [agrees.enrolments, updateFirst_eq_map (agrees.nodup_tickets _)
          ((filter_inLine ledger).trans inLine)]
        refine List.map_congr_left fun other kept => ?_
        refine if_ctx_congr decide_eq_true_iff.symm (fun same => ?_) fun _ => rfl
        rw [agrees.eq_of_ticket (List.mem_of_mem_filter kept) listed (of_decide_eq_true same)]
        unfold Enrolment.settleOwed
        rw [if_pos owed]
      · next differ =>
        rw [agrees.enrolments]
        refine List.map_congr_left fun other kept => ?_
        obtain ⟨member, kind⟩ := List.mem_filter.mp kept
        rw [if_neg]
        intro same
        rw [agrees.eq_of_ticket member listed (of_decide_eq_true same)] at kind
        exact differ ((Entry.kind_eq_untagged.mpr noId).symm.trans (of_decide_eq_true kind))
    case closed =>
      intro kind
      show _ = (desk.correlator.resolve response).closed
      rw [resolve_closed, ← agrees.closed kind]
      split
      · rw [Registry.closed_resolve]
      · rfl

theorem resolve_tagged (agrees : Agrees desk registry ledger) {response : Response} {id : String}
    (tagged : response.actionId = some id) :
    ∃ later, Agrees (desk.step (.resolve response))
      (fun kind => (registry kind).step kind (.resolve response)) later := by
  simp only [Registry.step, Desk.Move.concerns, decide_eq_true_eq]
  refine ⟨_, agrees.settle (fun other => other.actionId = some id)
    (.answered response) Mailbox.noConfusion rfl (length_resolve _ _) ?mailboxes ?line
    (keyed_resolve agrees.keyed _) ?table ?listed ?enrolments ?closed⟩
  case mailboxes =>
    intro other member
    show (desk.correlator.resolve response).mailbox other.ticket = _
    rw [mailbox_resolve]
    refine if_congr (and_congr_left fun waiting => ?_) rfl rfl
    unfold recipient?
    rw [tagged, decide_eq_true_iff]
    constructor
    · intro found
      obtain ⟨owner, ownerListed, same, under⟩ := agrees.table id other.ticket found
      rwa [agrees.eq_of_ticket ownerListed member same] at under
    · exact agrees.listed other member waiting id
  case line =>
    show (desk.correlator.resolve response).inOrder = _
    rw [inOrder_resolve, tagged, if_neg (Option.some_ne_none id), agrees.line_without_under]
  case table =>
    intro other ticket found
    change (desk.correlator.resolve response).ticketOf? other = some ticket at found
    rw [ticketOf?_resolve] at found
    split at found
    · cases found
    · exact found
  case listed =>
    intro other member apart waiting id' under
    show (desk.correlator.resolve response).ticketOf? id' = _
    rw [ticketOf?_resolve, tagged, if_neg]
    · exact agrees.listed other member waiting id' under
    · exact fun same => of_decide_eq_false apart (under.trans same.symm)
  case enrolments =>
    intro kind
    rw [tagged]
    split
    · unfold Registry.resolve
      rw [tagged]
      show updateLast _ _ (registry kind).enrolments = _
      rw [agrees.enrolments, updateLast_eq_map (agrees.idle_under kind id _), List.map_map]
      refine List.map_congr_left fun other kept => ?_
      show (if other.enrolment.isUnder id = true then _ else _) = _
      rw [agrees.isUnder_eq (List.mem_of_mem_filter kept)]
    · next differ =>
      rw [agrees.enrolments]
      refine List.map_congr_left fun other kept => ?_
      rw [if_neg]
      intro under
      have own : other.kind = kind := of_decide_eq_true (List.mem_filter.mp kept).2
      exact differ ((Entry.kind_eq_tagged (of_decide_eq_true under)).symm.trans own)
  case closed =>
    intro kind
    show _ = (desk.correlator.resolve response).closed
    rw [resolve_closed, ← agrees.closed kind]
    split
    · rw [Registry.closed_resolve]
    · rfl

theorem close (agrees : Agrees desk registry ledger) (reason : DisconnectReason) :
    ∃ later, Agrees (desk.step (.close reason))
      (fun kind => (registry kind).step kind (.close reason)) later := by
  refine ⟨_, agrees.settle (fun _ => true) (.released reason) Mailbox.noConfusion rfl
    (length_close _ _) ?mailboxes ?line (keyed_close _ _) ?table ?listed ?enrolments ?closed⟩
  case mailboxes =>
    intro entry member
    show (desk.correlator.close reason).mailbox entry.ticket = _
    rw [mailbox_close]
    refine if_congr (and_congr_left fun waiting => iff_of_true ?_ rfl) rfl rfl
    have stands := agrees.stands_of_waiting member waiting
    unfold Stands at stands
    split at stands
    · exact .inr (List.mem_map_of_mem (mem_of_ticketOf? stands))
    · exact .inl stands
  case line =>
    show (desk.correlator.close reason).inOrder = _
    simp
  case table =>
    intro id ticket found
    have member := mem_of_ticketOf? found
    change (id, ticket) ∈ (desk.correlator.close reason).byId at member
    rw [close_byId] at member
    cases member
  case listed =>
    intro entry member spared
    cases spared
  case enrolments =>
    intro kind
    show (registry kind).enrolments.map _ = _
    rw [agrees.enrolments, List.map_map]
    rfl
  case closed =>
    intro kind
    show (registry kind).closed.or (some reason) = (desk.correlator.close reason).closed
    rw [close_closed, agrees.closed]

theorem register_late (agrees : Agrees desk registry ledger) {reason : DisconnectReason}
    (closed : desk.correlator.closed = some reason) (action : Action) :
    ∃ later, Agrees (desk.step (.register action))
      (fun kind => (registry kind).step kind (.register action)) later := by
  simp only [Registry.step, Desk.Move.concerns, decide_eq_true_eq]
  have idle : desk.step (.register action) = desk := by
    simp only [Desk.step, register_closed closed]
  refine ⟨ledger, agrees.unchanged idle fun kind => ?_⟩
  split
  · unfold Registry.register
    rw [agrees.closed, closed]
  · rfl

theorem register_untagged (agrees : Agrees desk registry ledger)
    (isOpen : desk.correlator.closed = none) {action : Action} (untagged : action.actionId = none) :
    ∃ later, Agrees (desk.step (.register action))
      (fun kind => (registry kind).step kind (.register action)) later := by
  simp only [Registry.step, Desk.Move.concerns, decide_eq_true_eq]
  have next : desk.step (.register action) =
      { correlator := desk.correlator.enlist none
        callers := desk.callers ++
          [(Entry.ofAction desk.correlator.mailboxes.length action).caller] } := by
    simp only [Desk.step, register_open isOpen, untagged]
    rfl
  rw [next]
  refine ⟨_, agrees.enlist rfl rfl ?line agrees.keyed ?table ?vacant ?enrolments ?closed⟩
  case line =>
    rw [if_pos untagged]
    rfl
  case table =>
    intro id
    rw [untagged]
    rfl
  case vacant =>
    intro entry _ id _ under
    rw [untagged] at under
    cases under
  case enrolments =>
    intro kind
    unfold Registry.register
    rw [agrees.closed, isOpen, untagged]
    split <;> rfl
  case closed =>
    intro kind
    split
    · rw [Registry.closed_register]
      exact agrees.closed kind
    · exact agrees.closed kind

/-- Room is made for an identifier. -/
theorem vacate (agrees : Agrees desk registry ledger) (id : String) :
    Agrees { desk with correlator := desk.correlator.vacate id }
      (fun kind =>
        { registry kind with
          enrolments := (registry kind).enrolments.map fun enrolment =>
            if enrolment.isUnder id then enrolment.settleOwed .orphaned else enrolment })
      (ledger.map (Entry.settle (fun entry => entry.actionId = some id) .orphaned)) := by
  refine agrees.settle (fun entry => entry.actionId = some id) .orphaned
    Mailbox.noConfusion rfl (length_vacate _ _) ?mailboxes ?line (keyed_vacate agrees.keyed _)
    ?table ?listed ?enrolments ?closed
  case mailboxes =>
    intro entry member
    rw [mailbox_vacate agrees.keyed]
    refine if_congr (and_congr_left fun waiting => ?_) rfl rfl
    rw [decide_eq_true_iff]
    constructor
    · intro found
      obtain ⟨owner, ownerListed, same, under⟩ := agrees.table id entry.ticket found
      rwa [agrees.eq_of_ticket ownerListed member same] at under
    · exact agrees.listed entry member waiting id
  case line =>
    rw [vacate_inOrder, agrees.line_without_under]
  case table =>
    intro other ticket found
    rw [ticketOf?_vacate agrees.keyed] at found
    split at found
    · cases found
    · exact (Option.filter_eq_some_iff.mp found).1
  case listed =>
    intro entry member apart waiting other under
    rw [ticketOf?_vacate agrees.keyed, if_neg, agrees.listed entry member waiting other under]
    · rw [Option.filter_some, if_pos]
      unfold isHeld
      rw [waiting]
      rfl
    · rintro rfl
      exact of_decide_eq_false apart under
  case enrolments =>
    intro kind
    show ((registry kind).enrolments.map _) = _
    rw [agrees.enrolments, List.map_map]
    refine List.map_congr_left fun entry kept => ?_
    show (if entry.enrolment.isUnder id = true then _ else _) = _
    rw [agrees.isUnder_eq (List.mem_of_mem_filter kept)]
  case closed =>
    intro kind
    rw [vacate_closed]
    exact agrees.closed kind

theorem register_tagged (agrees : Agrees desk registry ledger)
    (isOpen : desk.correlator.closed = none) {action : Action} {id : String}
    (tagged : action.actionId = some id) :
    ∃ later, Agrees (desk.step (.register action))
      (fun kind => (registry kind).step kind (.register action)) later := by
  simp only [Registry.step, Desk.Move.concerns, decide_eq_true_eq]
  have next : desk.step (.register action) =
      { correlator := desk.correlator.enlist (some id)
        callers := desk.callers ++
          [(Entry.ofAction desk.correlator.mailboxes.length action).caller] } := by
    simp only [Desk.step, register_open isOpen, tagged]
    rfl
  -- First whoever waits under the identifier is released, then there is room for the caller.
  have room := agrees.vacate id
  have size := length_vacate desk.correlator id
  rw [next, ← size]
  refine ⟨_, room.enlist rfl rfl ?line (keyed_enlist agrees.keyed _) ?table ?vacant ?enrolments
    ?closed⟩
  case line =>
    rw [tagged, if_neg (Option.some_ne_none id)]
    rfl
  case table =>
    intro other
    rw [ticketOf?_enlist, tagged, ← size]
    exact if_congr (by rw [Option.some_inj, eq_comm]) rfl rfl
  case vacant =>
    rw [List.forall_mem_map]
    intro entry _ other under same
    rw [tagged] at same
    rw [Entry.settle_owed, Bool.and_eq_false_iff, Bool.not_eq_false']
    exact .inr (decide_eq_true (under.trans same.symm))
  case enrolments =>
    intro kind
    unfold Registry.register
    rw [agrees.closed, isOpen, tagged]
    split
    · rfl
    · next differ =>
      refine (List.map_id' _).symm.trans (List.map_congr_left fun enrolment member => ?_)
      rw [agrees.not_isUnder (Ne.symm differ) id enrolment member]
      rfl
  case closed =>
    intro kind
    show _ = (desk.correlator.enlist (some id)).closed
    rw [enlist_closed]
    split
    · rw [Registry.closed_register]
      exact agrees.closed kind
    · exact agrees.closed kind

theorem register (agrees : Agrees desk registry ledger) (action : Action) :
    ∃ later, Agrees (desk.step (.register action))
      (fun kind => (registry kind).step kind (.register action)) later := by
  cases closed : desk.correlator.closed with
  | some reason => exact agrees.register_late closed action
  | none =>
    cases tag : action.actionId with
    | none => exact agrees.register_untagged closed tag
    | some id => exact agrees.register_tagged closed tag

/-- Every move keeps the agreement. -/
theorem step (agrees : Agrees desk registry ledger) (move : Desk.Move) :
    ∃ later, Agrees (desk.step move) (fun kind => (registry kind).step kind move) later := by
  cases move with
  | register action => exact agrees.register action
  | cancel handle => exact agrees.cancel handle
  | drop handle => exact agrees.drop handle
  | wait handle limitMs => exact agrees.wait handle limitMs
  | resolve response =>
    cases tag : response.actionId with
    | none => exact agrees.resolve_untagged tag
    | some id => exact agrees.resolve_tagged tag
  | close reason => exact agrees.close reason

/-! ### What the agreement says about what is seen -/

theorem faces_eq (agrees : Agrees desk registry ledger) (kind : Kind) :
    desk.faces kind = (registry kind).faces := by
  unfold Desk.faces Registry.faces
  rw [agrees.callers, agrees.enrolments, List.filter_map, List.map_map, List.map_map]
  exact List.map_congr_left fun entry kept =>
    (agrees.faces entry (List.mem_of_mem_filter kept)).symm

/-- The line is as long as there are enrolments to which a response is owed. -/
theorem length_line (agrees : Agrees desk registry ledger) :
    desk.correlator.inOrder.length = (registry .untagged).enrolments.countP Enrolment.owed := by
  rw [agrees.line, List.length_map, ← filter_inLine, agrees.enrolments, List.countP_map,
    List.countP_eq_length_filter]
  rfl

end Agrees

/-- There is an agreement at the start, where nobody has got in line. -/
theorem agrees_start : Agrees Desk.start (fun _ => Registry.start) [] where
  callers := rfl
  enrolments _ := rfl
  closed _ := rfl
  faces := by simp
  tickets := rfl
  settled := by simp
  line := rfl
  keyed := keyed_new
  table _ _ found := nomatch found
  listed := by simp
  latest := .nil

theorem agrees_run (moves : List Desk.Move) :
    ∃ ledger, Agrees (Desk.run moves) (fun kind => Registry.run kind moves) ledger := by
  induction moves using List.reverseRecOn with
  | nil => exact ⟨[], agrees_start⟩
  | append_singleton moves last ih =>
    obtain ⟨ledger, agrees⟩ := ih
    simp only [Desk.run_concat, Registry.run_concat]
    exact agrees.step last

end Ledger

/-! ### Runs -/

namespace Desk

/-- What callers see after a run is what the registry of their kind says. -/
theorem faces_run (moves : List Move) (kind : Kind) :
    (run moves).faces kind = (Registry.run kind moves).faces := by
  obtain ⟨ledger, agrees⟩ := Ledger.agrees_run moves
  exact agrees.faces_eq kind

theorem length_line_run (moves : List Move) :
    (run moves).correlator.inOrder.length =
      (Registry.run .untagged moves).enrolments.countP Enrolment.owed := by
  obtain ⟨ledger, agrees⟩ := Ledger.agrees_run moves
  exact agrees.length_line

/-- The moves that do not concern a kind do not matter to it. -/
theorem faces_erase (moves : List Move) (kind : Kind) :
    (run (moves.filter (·.concerns kind))).faces kind = (run moves).faces kind := by
  rw [faces_run, faces_run, Registry.run_erase]

/-- Callers of the other kind do not notice a move. -/
theorem faces_concat_of_not_concerns {kind : Kind} {last : Move}
    (other : last.concerns kind = false) (moves : List Move) :
    (run (moves ++ [last])).faces kind = (run moves).faces kind := by
  rw [faces_run, faces_run, Registry.run_concat, Registry.step_of_not_concerns other]

/-- With nobody in the line a response without an identifier is discarded. -/
theorem run_discard {moves : List Move} (nobody : (run moves).correlator.inOrder = [])
    {response : Response} (untagged : response.actionId = none) :
    run (moves ++ [.resolve response]) = run moves := by
  have unclaimed : (run moves).correlator.recipient? response = none := by
    unfold recipient?
    rw [untagged, nobody]
    rfl
  rw [run_concat]
  simp only [step, resolve_of_nobody unclaimed]

theorem line_run_resolve (moves : List Move) (response : Response) :
    (run (moves ++ [.resolve response])).correlator.inOrder =
      if response.actionId = none then (run moves).correlator.inOrder.tail
      else (run moves).correlator.inOrder := by
  rw [run_concat]
  exact inOrder_resolve _ _

/-- **The correlator refines two registries.** After every run, whatever the order of its moves:

* the callers of a kind see what the registry of that kind says, and the line is as long as there
  are enrolments without an identifier to which a response is owed;
* a response without an identifier settles the earliest of these, whether or not its caller
  listens, and only then takes one ticket off the line; with an empty line nothing changes at all;
* a response with an identifier settles the latest enrolment under it, if something is owed to that,
  and leaves the line and all callers without an identifier as they were;
* leaving out the moves of the other kind changes nothing that the callers of a kind see. -/
theorem refines_two_registries (moves : List Move) :
    (∀ kind, (run moves).faces kind = (Registry.run kind moves).faces) ∧
    (run moves).correlator.inOrder.length =
      (Registry.run .untagged moves).enrolments.countP Enrolment.owed ∧
    (∀ response : Response, response.actionId = none →
      (∀ before earliest after,
        (Registry.run .untagged moves).enrolments = before ++ earliest :: after →
        (∀ enrolment ∈ before, enrolment.owed = false) → earliest.owed = true →
        (Registry.run .untagged (moves ++ [.resolve response])).enrolments =
            before ++ earliest.settle (.answered response) :: after ∧
          (run (moves ++ [.resolve response])).faces .untagged =
            (before ++ earliest.settle (.answered response) :: after).map Enrolment.face ∧
          (run (moves ++ [.resolve response])).faces .tagged = (run moves).faces .tagged ∧
          (run (moves ++ [.resolve response])).correlator.inOrder =
            (run moves).correlator.inOrder.tail) ∧
      ((run moves).correlator.inOrder = [] → run (moves ++ [.resolve response]) = run moves)) ∧
    (∀ (response : Response) (id : String), response.actionId = some id →
      (run (moves ++ [.resolve response])).correlator.inOrder = (run moves).correlator.inOrder ∧
      (run (moves ++ [.resolve response])).faces .untagged = (run moves).faces .untagged ∧
      (∀ before latest after,
        (Registry.run .tagged moves).enrolments = before ++ latest :: after →
        latest.isUnder id = true → (∀ enrolment ∈ after, enrolment.isUnder id = false) →
        (Registry.run .tagged (moves ++ [.resolve response])).enrolments =
            before ++ latest.settleOwed (.answered response) :: after ∧
          (run (moves ++ [.resolve response])).faces .tagged =
            (before ++ latest.settleOwed (.answered response) :: after).map Enrolment.face) ∧
      ((∀ enrolment ∈ (Registry.run .tagged moves).enrolments, enrolment.isUnder id = false) →
        (run (moves ++ [.resolve response])).faces .tagged = (run moves).faces .tagged)) ∧
    (∀ kind, (run (moves.filter (·.concerns kind))).faces kind = (run moves).faces kind) := by
  refine ⟨faces_run moves, length_line_run moves, ?untagged, ?tagged, faces_erase moves⟩
  case untagged =>
    intro response untagged
    refine ⟨fun before earliest after enrolments settled owed => ?_,
      fun nobody => run_discard nobody untagged⟩
    have later : (Registry.run .untagged (moves ++ [.resolve response])).enrolments =
        before ++ earliest.settle (.answered response) :: after := by
      rw [Registry.run_concat, Registry.enrolments_step_untagged untagged, enrolments,
        updateFirst_append settled owed]
    refine ⟨later, ?_, faces_concat_of_not_concerns ?_ moves, ?_⟩
    · rw [faces_run, ← later]
      rfl
    · simp only [Move.concerns, untagged]
      rfl
    · rw [line_run_resolve, if_pos untagged]
  case tagged =>
    intro response id tagged
    refine ⟨?_, faces_concat_of_not_concerns ?_ moves, ?_, ?_⟩
    · rw [line_run_resolve, tagged, if_neg (Option.some_ne_none id)]
    · simp only [Move.concerns, tagged]
      rfl
    · intro before latest after enrolments under last
      have later : (Registry.run .tagged (moves ++ [.resolve response])).enrolments =
          before ++ latest.settleOwed (.answered response) :: after := by
        rw [Registry.run_concat, Registry.enrolments_step_tagged tagged, enrolments,
          updateLast_append under last]
      refine ⟨later, ?_⟩
      rw [faces_run, ← later]
      rfl
    · intro nobody
      rw [faces_run, faces_run]
      unfold Registry.faces
      rw [Registry.run_concat, Registry.enrolments_step_tagged tagged, updateLast_eq_self nobody]

/-- A bare `Success`, with an identifier or without one. -/
def success (actionId : Option String) : Response :=
  { succeeded := true
    status := "Success"
    message := none
    actionId := actionId
    attributes := Headers.empty
    output := [] }

/-- Three callers, of whom the first throws its handle away before its response comes. -/
def lateResponse : List Move :=
  [.register Action.ping, .register (Action.ping.withActionId "a"), .register Action.ping,
    .drop ⟨.untagged, 0⟩, .resolve (success none)]

theorem refines_two_registries_late_response :
    ((run (lateResponse ++ [.resolve (success none)])).faces .untagged).map Face.mailbox =
        [.abandoned, .answered (success none)] ∧
      ((run (lateResponse ++ [.resolve (success (some "a"))])).faces .tagged).map Face.mailbox =
        [.answered (success (some "a"))] := by
  obtain ⟨-, -, untagged, tagged, -⟩ := refines_two_registries lateResponse
  constructor
  · rw [((untagged (success none) rfl).1 [_] _ [] rfl (by simp [Enrolment.settle]) rfl).2.1]
    rfl
  · rw [((tagged (success (some "a")) "a" rfl).2.2.1 [] _ [] rfl (by decide) (by simp)).2]
    rfl

end Desk

end Switchboard
