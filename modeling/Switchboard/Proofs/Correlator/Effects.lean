/-
**What each operation of the correlator does, seen through its three views.**

A correlator is seen through `mailbox` (what a ticket has got), `inOrder` (the line) and `ticketOf?`
(who waits under an identifier). For every operation there is one equation for each view; later
proofs cite these equations and do not open the operations.

* `mailbox_deliver`, `mailbox_abandon`: one ticket changes, and no other;
* `register_open`, `mailbox_enlist`: everybody gets in line while the correlator is open;
* `recipient?` with `mailbox_resolve`: a response changes the mailbox of one ticket at most;
* `mailbox_close`: everybody in line who still listens is released;
* `Keyed`: no identifier stands twice in the table. Every operation keeps it.
-/

import Mathlib.Data.List.GetD
import Mathlib.Data.List.Nodup
import Switchboard.Correlator

namespace Switchboard.Correlator

/-! ### Listening and delivering -/

theorem isListening_iff {correlator : Correlator} {ticket : Nat} :
    correlator.isListening ticket = true ↔ correlator.mailbox ticket = .waiting := by
  unfold isListening
  exact beq_iff_eq

/-- A ticket that has not been handed out belongs to nobody. -/
theorem mailbox_of_length_le {correlator : Correlator} {ticket : Nat}
    (beyond : correlator.mailboxes.length ≤ ticket) : correlator.mailbox ticket = .abandoned := by
  unfold mailbox
  rw [List.getD_eq_default _ _ beyond]

/-- Whoever has not gone holds a ticket that was handed out. -/
theorem lt_of_mailbox_ne {correlator : Correlator} {ticket : Nat}
    (held : correlator.mailbox ticket ≠ .abandoned) : ticket < correlator.mailboxes.length := by
  by_contra beyond
  exact held (mailbox_of_length_le (Nat.le_of_not_lt beyond))

@[simp]
theorem deliver_inOrder (correlator : Correlator) (ticket : Nat) (content : Mailbox) :
    (correlator.deliver ticket content).inOrder = correlator.inOrder := by
  unfold deliver
  split <;> rfl

@[simp]
theorem deliver_byId (correlator : Correlator) (ticket : Nat) (content : Mailbox) :
    (correlator.deliver ticket content).byId = correlator.byId := by
  unfold deliver
  split <;> rfl

@[simp]
theorem deliver_closed (correlator : Correlator) (ticket : Nat) (content : Mailbox) :
    (correlator.deliver ticket content).closed = correlator.closed := by
  unfold deliver
  split <;> rfl

@[simp]
theorem length_deliver (correlator : Correlator) (ticket : Nat) (content : Mailbox) :
    (correlator.deliver ticket content).mailboxes.length = correlator.mailboxes.length := by
  unfold deliver
  split
  · exact List.length_set
  · rfl

/-- A delivery reaches one ticket, and only a caller who listens. -/
theorem mailbox_deliver (correlator : Correlator) (ticket other : Nat) (content : Mailbox) :
    (correlator.deliver ticket content).mailbox other =
      if other = ticket ∧ correlator.mailbox ticket = .waiting then content
      else correlator.mailbox other := by
  unfold deliver
  by_cases listens : correlator.isListening ticket = true
  · have waiting := isListening_iff.mp listens
    have handedOut : ticket < correlator.mailboxes.length :=
      lt_of_mailbox_ne (by rw [waiting]; exact Mailbox.noConfusion)
    rw [if_pos listens]
    by_cases same : other = ticket
    · subst same
      rw [if_pos ⟨rfl, waiting⟩]
      unfold mailbox
      simp [List.getD_eq_getElem?_getD, handedOut]
    · rw [if_neg fun both => same both.1]
      unfold mailbox
      simp [List.getD_eq_getElem?_getD, List.getElem?_set_ne (Ne.symm same)]
  · rw [if_neg listens, if_neg fun both => listens (isListening_iff.mpr both.2)]

/-- The caller who is gone has an abandoned mailbox, and no other caller notices. -/
theorem mailbox_abandon (correlator : Correlator) (pending : Pending) (other : Nat) :
    (correlator.abandon pending).mailbox other =
      if other = pending.ticket then .abandoned else correlator.mailbox other := by
  unfold abandon mailbox
  by_cases same : other = pending.ticket
  · subst same
    rw [if_pos rfl, List.getD_eq_getElem?_getD, List.getElem?_set_self']
    cases correlator.mailboxes[pending.ticket]? <;> rfl
  · rw [if_neg same, List.getD_eq_getElem?_getD, List.getElem?_set_ne (Ne.symm same),
      ← List.getD_eq_getElem?_getD]

@[simp]
theorem length_abandon (correlator : Correlator) (pending : Pending) :
    (correlator.abandon pending).mailboxes.length = correlator.mailboxes.length :=
  List.length_set

/-! ### The table of identifiers -/

/-- No identifier stands twice in the table. -/
def Keyed (correlator : Correlator) : Prop :=
  (correlator.byId.map Prod.fst).Nodup

theorem keyed_new : new.Keyed := List.nodup_nil

/-- Who waits under an identifier depends on the table alone. -/
theorem ticketOf?_congr {first second : Correlator} (same : first.byId = second.byId)
    (id : String) : first.ticketOf? id = second.ticketOf? id := by
  unfold ticketOf?
  rw [same]

theorem mem_of_ticketOf? {correlator : Correlator} {id : String} {ticket : Nat}
    (found : correlator.ticketOf? id = some ticket) : (id, ticket) ∈ correlator.byId := by
  unfold ticketOf? at found
  obtain ⟨entry, entryFound, rfl⟩ := Option.map_eq_some_iff.mp found
  have key : entry.1 = id := by simpa using List.find?_some entryFound
  rw [← key]
  exact List.mem_of_find?_eq_some entryFound

/-- What stands in the table is found, where no identifier stands twice. -/
theorem ticketOf?_eq_some_iff {correlator : Correlator} (keyed : correlator.Keyed) {id : String}
    {ticket : Nat} : correlator.ticketOf? id = some ticket ↔ (id, ticket) ∈ correlator.byId := by
  refine ⟨mem_of_ticketOf?, fun member => ?_⟩
  cases found : correlator.ticketOf? id with
  | none =>
    unfold ticketOf? at found
    rw [Option.map_eq_none_iff, List.find?_eq_none] at found
    exact absurd (found _ member) (by simp)
  | some other =>
    have same := List.inj_on_of_nodup_map keyed (mem_of_ticketOf? found) member rfl
    rw [(Prod.mk.inj same).2]

theorem keyed_filter {correlator : Correlator} (keyed : correlator.Keyed)
    (kept : String × Nat → Bool) :
    Keyed { correlator with byId := correlator.byId.filter kept } :=
  (List.filter_sublist.map Prod.fst).nodup keyed

/-- Leaving entries out of the table leaves out what would have been found. -/
theorem ticketOf?_filter {correlator : Correlator} (keyed : correlator.Keyed)
    (kept : Nat → Bool) (id : String) :
    ticketOf? { correlator with byId := correlator.byId.filter fun entry => kept entry.2 } id =
      (correlator.ticketOf? id).filter kept := by
  ext ticket
  rw [ticketOf?_eq_some_iff (keyed_filter keyed _), Option.filter_eq_some_iff,
    ticketOf?_eq_some_iff keyed, List.mem_filter]

/-- Nobody waits under an identifier that is forgotten; the others stay. -/
theorem ticketOf?_forget (correlator : Correlator) (id other : String) :
    (correlator.forget id).ticketOf? other =
      if other = id then none else correlator.ticketOf? other := by
  unfold forget ticketOf?
  by_cases same : other = id
  · subst same
    rw [if_pos rfl, Option.map_eq_none_iff, List.find?_eq_none]
    intro entry member
    simpa using (List.mem_filter.mp member).2
  · rw [if_neg same, List.find?_filter]
    congr 1
    refine congrArg (List.find? · correlator.byId) (funext fun entry => ?_)
    by_cases key : entry.1 = other
    · simp [key, same]
    · simp [key]

theorem keyed_forget {correlator : Correlator} (keyed : correlator.Keyed) (id : String) :
    (correlator.forget id).Keyed :=
  keyed_filter keyed _

/-- Where nobody waits under an identifier, forgetting it changes nothing. -/
theorem forget_eq_self {correlator : Correlator} {id : String}
    (nobody : correlator.ticketOf? id = none) : correlator.forget id = correlator := by
  unfold ticketOf? at nobody
  rw [Option.map_eq_none_iff, List.find?_eq_none] at nobody
  unfold forget
  rw [List.filter_eq_self.mpr]
  intro entry member
  simpa using nobody entry member

/-! ### Getting in line -/

/-- The caller's side of a registration that goes well. -/
def pendingFor (correlator : Correlator) (action : Action) : Pending :=
  ⟨correlator.mailboxes.length, action.name, action.actionId⟩

/-- The correlator without those in the table who do not listen. -/
def sweep (correlator : Correlator) : Correlator :=
  { correlator with byId := correlator.byId.filter fun entry => correlator.isHeld entry.2 }

/-- The correlator without those in the table who do not listen and whoever waits under `id`. -/
def vacate (correlator : Correlator) (id : String) : Correlator :=
  match correlator.sweep.ticketOf? id with
  | some replaced => (correlator.sweep.forget id).deliver replaced .orphaned
  | none => correlator.sweep

/-- The correlator with one more in line, under an identifier if there is one. -/
def enlist (correlator : Correlator) : Option String → Correlator
  | none =>
    { correlator with
      inOrder := correlator.inOrder ++ [correlator.mailboxes.length]
      mailboxes := correlator.mailboxes ++ [.waiting] }
  | some id =>
    { correlator.vacate id with
      byId := (correlator.vacate id).byId ++ [(id, correlator.mailboxes.length)]
      mailboxes := (correlator.vacate id).mailboxes ++ [.waiting] }

/-- Nobody gets in line once the correlator is closed. -/
theorem register_closed {correlator : Correlator} {reason : DisconnectReason}
    (closed : correlator.closed = some reason) (action : Action) :
    correlator.register action = .error (.disconnected reason) := by
  unfold register
  rw [closed]

/-- Everybody gets in line while the correlator is open. -/
theorem register_open {correlator : Correlator} (isOpen : correlator.closed = none)
    (action : Action) :
    correlator.register action =
      .ok (correlator.pendingFor action, correlator.enlist action.actionId) := by
  unfold register pendingFor enlist vacate sweep
  rw [isOpen]
  cases tag : action.actionId <;> rfl

theorem vacate_byId (correlator : Correlator) (id : String) :
    (correlator.vacate id).byId = (correlator.sweep.forget id).byId := by
  unfold vacate
  split
  · rw [deliver_byId]
  · next nobody => rw [forget_eq_self nobody]

@[simp]
theorem vacate_inOrder (correlator : Correlator) (id : String) :
    (correlator.vacate id).inOrder = correlator.inOrder := by
  unfold vacate
  split
  · rw [deliver_inOrder]
    rfl
  · rfl

@[simp]
theorem vacate_closed (correlator : Correlator) (id : String) :
    (correlator.vacate id).closed = correlator.closed := by
  unfold vacate
  split
  · rw [deliver_closed]
    rfl
  · rfl

@[simp]
theorem length_vacate (correlator : Correlator) (id : String) :
    (correlator.vacate id).mailboxes.length = correlator.mailboxes.length := by
  unfold vacate
  split
  · rw [length_deliver]
    rfl
  · rfl

/-- Whoever waits under `id` learns that nothing will come, if it listens. -/
theorem mailbox_vacate {correlator : Correlator} (keyed : correlator.Keyed) (id : String)
    (ticket : Nat) :
    (correlator.vacate id).mailbox ticket =
      if correlator.ticketOf? id = some ticket ∧ correlator.mailbox ticket = .waiting then .orphaned
      else correlator.mailbox ticket := by
  unfold vacate sweep
  rw [ticketOf?_filter keyed]
  cases found : correlator.ticketOf? id with
  | none => simp [mailbox]
  | some replaced =>
    by_cases held : correlator.isHeld replaced = true
    · rw [Option.filter_some, if_pos held]
      show (deliver _ replaced .orphaned).mailbox ticket = _
      rw [mailbox_deliver]
      show (if ticket = replaced ∧ correlator.mailbox replaced = .waiting then Mailbox.orphaned
        else correlator.mailbox ticket) = _
      by_cases same : ticket = replaced
      · subst same
        simp
      · rw [if_neg fun both => same both.1,
          if_neg fun both => same (Option.some.inj both.1).symm]
    · rw [Option.filter_some, if_neg held]
      have gone : correlator.mailbox replaced = .abandoned := by
        simpa [isHeld] using held
      show correlator.mailbox ticket = _
      rw [if_neg]
      rintro ⟨same, waiting⟩
      rw [Option.some.inj same, waiting] at gone
      cases gone

/-- Nobody waits under an identifier for which room is made. Under the others those are found who
were found before and listen. -/
theorem ticketOf?_vacate {correlator : Correlator} (keyed : correlator.Keyed) (id other : String) :
    (correlator.vacate id).ticketOf? other =
      if other = id then none else (correlator.ticketOf? other).filter correlator.isHeld := by
  rw [ticketOf?_congr (vacate_byId correlator id), ticketOf?_forget]
  exact congrArg _ (ticketOf?_filter keyed _ _)

theorem keyed_vacate {correlator : Correlator} (keyed : correlator.Keyed) (id : String) :
    (correlator.vacate id).Keyed := by
  unfold Keyed
  rw [vacate_byId]
  exact keyed_forget (keyed_filter keyed _) id

theorem mailbox_concat (before : Correlator) {after : Correlator}
    (more : after.mailboxes = before.mailboxes ++ [.waiting]) (ticket : Nat) :
    after.mailbox ticket =
      if ticket = before.mailboxes.length then .waiting else before.mailbox ticket := by
  unfold mailbox
  rw [more, List.getD_eq_getElem?_getD, List.getD_eq_getElem?_getD]
  rcases Nat.lt_trichotomy ticket before.mailboxes.length with earlier | same | beyond
  · rw [if_neg (Nat.ne_of_lt earlier), List.getElem?_append_left earlier]
  · rw [if_pos same, same, List.getElem?_concat_length]
    rfl
  · rw [if_neg (Nat.ne_of_gt beyond), List.getElem?_eq_none (by simp; omega),
      List.getElem?_eq_none (Nat.le_of_lt beyond)]

@[simp]
theorem enlist_closed (correlator : Correlator) (tag : Option String) :
    (correlator.enlist tag).closed = correlator.closed := by
  cases tag
  · rfl
  · exact vacate_closed _ _

@[simp]
theorem length_enlist (correlator : Correlator) (tag : Option String) :
    (correlator.enlist tag).mailboxes.length = correlator.mailboxes.length + 1 := by
  cases tag with
  | none => exact List.length_append
  | some id =>
    show ((correlator.vacate id).mailboxes ++ [Mailbox.waiting]).length = _
    rw [List.length_append, length_vacate]
    rfl

/-- Whoever gets in line waits. Whoever used the identifier before learns that nothing will come. -/
theorem mailbox_enlist {correlator : Correlator} (keyed : correlator.Keyed) (tag : Option String)
    (ticket : Nat) :
    (correlator.enlist tag).mailbox ticket =
      if ticket = correlator.mailboxes.length then .waiting
      else if tag.bind correlator.ticketOf? = some ticket ∧ correlator.mailbox ticket = .waiting then
        .orphaned
      else correlator.mailbox ticket := by
  cases tag with
  | none =>
    rw [mailbox_concat correlator rfl, Option.bind_none,
      if_neg (show ¬(none = some ticket ∧ _) by simp)]
  | some id =>
    rw [mailbox_concat (correlator.vacate id) rfl, length_vacate, mailbox_vacate keyed]
    rfl

/-- Whoever waits when somebody has got in line has waited before. -/
theorem waiting_of_enlist {correlator : Correlator} (keyed : correlator.Keyed)
    {tag : Option String} {ticket : Nat} (earlier : ticket < correlator.mailboxes.length)
    (waiting : (correlator.enlist tag).mailbox ticket = .waiting) :
    correlator.mailbox ticket = .waiting := by
  rw [mailbox_enlist keyed, if_neg (Nat.ne_of_lt earlier)] at waiting
  split at waiting
  · cases waiting
  · exact waiting

/-- Only those without an identifier stand in the line. -/
theorem inOrder_enlist (correlator : Correlator) (tag : Option String) :
    (correlator.enlist tag).inOrder =
      if tag = none then correlator.inOrder ++ [correlator.mailboxes.length]
      else correlator.inOrder := by
  cases tag with
  | none => rfl
  | some id =>
    rw [if_neg (Option.some_ne_none id)]
    exact vacate_inOrder _ _

/-- Whoever gets in line under an identifier is found there; under the others those are found who
are found when room has been made. -/
theorem ticketOf?_enlist (correlator : Correlator) (id other : String) :
    (correlator.enlist (some id)).ticketOf? other =
      if other = id then some correlator.mailboxes.length
      else (correlator.vacate id).ticketOf? other := by
  have appended : (correlator.enlist (some id)).ticketOf? other =
      ((correlator.vacate id).ticketOf? other).or
        (([(id, correlator.mailboxes.length)].find? (·.1 = other)).map Prod.snd) := by
    unfold ticketOf?
    show (((correlator.vacate id).byId ++ [(id, correlator.mailboxes.length)]).find? _).map _ = _
    rw [List.find?_append, Option.map_or]
  rw [appended]
  by_cases same : other = id
  · subst same
    rw [ticketOf?_congr (vacate_byId correlator other), ticketOf?_forget]
    simp
  · rw [if_neg same, List.find?_cons_of_neg (by simpa using Ne.symm same), List.find?_nil,
      Option.map_none, Option.or_none]

/-- Whoever is found was found before, or has just got in line. -/
theorem found_of_enlist {correlator : Correlator} (keyed : correlator.Keyed) {tag : Option String}
    {id : String} {ticket : Nat} (found : (correlator.enlist tag).ticketOf? id = some ticket) :
    tag = some id ∧ ticket = correlator.mailboxes.length ∨
      correlator.ticketOf? id = some ticket := by
  cases tag with
  | none => exact .inr found
  | some own =>
    rw [ticketOf?_enlist] at found
    split at found
    · next same => exact .inl ⟨congrArg some same.symm, (Option.some.inj found).symm⟩
    · next differ =>
      rw [ticketOf?_vacate keyed, if_neg differ] at found
      exact .inr (Option.filter_eq_some_iff.mp found).1

/-- Whoever listens under another identifier is still found when somebody has got in line. -/
theorem ticketOf?_enlist_of_waiting {correlator : Correlator} (keyed : correlator.Keyed)
    {tag : Option String} {id : String} (other : tag ≠ some id) {ticket : Nat}
    (found : correlator.ticketOf? id = some ticket)
    (waiting : correlator.mailbox ticket = .waiting) :
    (correlator.enlist tag).ticketOf? id = some ticket := by
  cases tag with
  | none => exact found
  | some own =>
    have differ : id ≠ own := fun same => other (congrArg some same.symm)
    rw [ticketOf?_enlist, if_neg differ, ticketOf?_vacate keyed, if_neg differ, found,
      Option.filter_some, if_pos]
    unfold isHeld
    rw [waiting]
    rfl

theorem keyed_enlist {correlator : Correlator} (keyed : correlator.Keyed) (tag : Option String) :
    (correlator.enlist tag).Keyed := by
  cases tag with
  | none => exact keyed
  | some id =>
    show (((correlator.vacate id).byId ++ [(id, correlator.mailboxes.length)]).map Prod.fst).Nodup
    rw [List.map_append, List.nodup_append]
    refine ⟨keyed_vacate keyed id, List.nodup_singleton _, ?_⟩
    rw [vacate_byId]
    intro key member last isLast same
    obtain ⟨entry, kept, rfl⟩ := List.mem_map.mp member
    unfold forget at kept
    have differ : entry.1 ≠ id := by simpa using (List.mem_filter.mp kept).2
    rw [List.map_singleton, List.mem_singleton] at isLast
    exact differ (same.trans isLast)

/-! ### Leaving the line -/

/-- Whether a registration still stands in the line or in the table. -/
def Stands (correlator : Correlator) (pending : Pending) : Prop :=
  match pending.actionId with
  | some id => correlator.ticketOf? id = some pending.ticket
  | none => pending.ticket ∈ correlator.inOrder

instance (correlator : Correlator) (pending : Pending) : Decidable (correlator.Stands pending) := by
  unfold Stands
  split <;> infer_instance

@[simp]
theorem cancel_closed (correlator : Correlator) (pending : Pending) :
    (correlator.cancel pending).closed = correlator.closed := by
  unfold cancel
  split <;> split <;> simp [forget]

@[simp]
theorem length_cancel (correlator : Correlator) (pending : Pending) :
    (correlator.cancel pending).mailboxes.length = correlator.mailboxes.length := by
  unfold cancel
  split <;> split <;> simp [forget]

/-- Whoever does not stand in line any more cannot leave it. -/
theorem cancel_of_not_stands {correlator : Correlator} {pending : Pending}
    (absent : ¬correlator.Stands pending) : correlator.cancel pending = correlator := by
  unfold Stands at absent
  unfold cancel
  cases tag : pending.actionId with
  | none =>
    simp only [tag] at absent ⊢
    rw [if_neg absent]
  | some id =>
    simp only [tag] at absent ⊢
    rw [if_neg absent]

theorem mailboxes_cancel {correlator : Correlator} {pending : Pending}
    (stands : correlator.Stands pending) :
    (correlator.cancel pending).mailboxes =
      (correlator.deliver pending.ticket .orphaned).mailboxes := by
  unfold Stands at stands
  unfold cancel
  cases tag : pending.actionId with
  | none =>
    simp only [tag] at stands ⊢
    rw [if_pos stands]
    unfold deliver isListening mailbox
    split <;> rfl
  | some id =>
    simp only [tag] at stands ⊢
    rw [if_pos stands]
    unfold deliver isListening mailbox forget
    split <;> rfl

/-- Whoever leaves the line learns that nothing will come, and no other caller notices. -/
theorem mailbox_cancel (correlator : Correlator) (pending : Pending) (ticket : Nat) :
    (correlator.cancel pending).mailbox ticket =
      if ticket = pending.ticket ∧ correlator.Stands pending ∧ correlator.mailbox ticket = .waiting
        then .orphaned
      else correlator.mailbox ticket := by
  by_cases stands : correlator.Stands pending
  · have view : (correlator.cancel pending).mailbox ticket =
        (correlator.deliver pending.ticket .orphaned).mailbox ticket := by
      unfold mailbox
      rw [mailboxes_cancel stands]
    rw [view, mailbox_deliver]
    by_cases own : ticket = pending.ticket
    · simp [own, stands]
    · rw [if_neg fun both => own both.1, if_neg fun all => own all.1]
  · rw [cancel_of_not_stands stands, if_neg fun all => stands all.2.1]

theorem inOrder_cancel (correlator : Correlator) (pending : Pending) :
    (correlator.cancel pending).inOrder =
      if pending.actionId = none then correlator.inOrder.filter (· ≠ pending.ticket)
      else correlator.inOrder := by
  unfold cancel
  cases tag : pending.actionId with
  | none =>
    simp only [if_true]
    split
    · rw [deliver_inOrder]
    · next absent =>
      symm
      rw [List.filter_eq_self]
      intro ticket member
      simp only [ne_eq, decide_not, Bool.not_eq_eq_eq_not, Bool.not_true, decide_eq_false_iff_not]
      exact fun same => absent (same ▸ member)
  | some id =>
    rw [if_neg (Option.some_ne_none id)]
    simp only
    split
    · rw [deliver_inOrder]
      rfl
    · rfl

theorem cancel_byId (correlator : Correlator) (pending : Pending) :
    (correlator.cancel pending).byId =
      match pending.actionId with
      | some id =>
        if correlator.ticketOf? id = some pending.ticket then (correlator.forget id).byId
        else correlator.byId
      | none => correlator.byId := by
  unfold cancel
  cases pending.actionId with
  | none =>
    simp only
    split
    · rw [deliver_byId]
    · rfl
  | some id =>
    simp only
    split
    · rw [deliver_byId]
    · rfl

/-- Who leaves is not found any more; the others are. -/
theorem ticketOf?_cancel (correlator : Correlator) (pending : Pending) (other : String) :
    (correlator.cancel pending).ticketOf? other =
      if pending.actionId = some other ∧ correlator.ticketOf? other = some pending.ticket then none
      else correlator.ticketOf? other := by
  have table := cancel_byId correlator pending
  cases tag : pending.actionId with
  | none =>
    rw [tag] at table
    rw [ticketOf?_congr table, if_neg (by simp)]
  | some id =>
    rw [tag] at table
    simp only at table
    by_cases inTable : correlator.ticketOf? id = some pending.ticket
    · rw [if_pos inTable] at table
      rw [ticketOf?_congr table, ticketOf?_forget]
      by_cases same : other = id
      · subst same
        simp [inTable]
      · rw [if_neg same, if_neg fun both => same (Option.some.inj both.1).symm]
    · rw [if_neg inTable] at table
      rw [ticketOf?_congr table, if_neg]
      rintro ⟨same, found⟩
      exact inTable (Option.some.inj same ▸ found)

theorem keyed_cancel {correlator : Correlator} (keyed : correlator.Keyed) (pending : Pending) :
    (correlator.cancel pending).Keyed := by
  unfold Keyed
  rw [cancel_byId]
  split
  · split
    · exact keyed_forget keyed _
    · exact keyed
  · exact keyed

/-! ### Responses -/

/-- The ticket that a response uses up. -/
def recipient? (correlator : Correlator) (response : Response) : Option Nat :=
  match response.actionId with
  | some id => correlator.ticketOf? id
  | none => correlator.inOrder.head?

@[simp]
theorem resolve_closed (correlator : Correlator) (response : Response) :
    (correlator.resolve response).closed = correlator.closed := by
  unfold resolve
  split <;> split <;> simp [forget]

@[simp]
theorem length_resolve (correlator : Correlator) (response : Response) :
    (correlator.resolve response).mailboxes.length = correlator.mailboxes.length := by
  unfold resolve
  split <;> split <;> simp [forget]

theorem resolve_of_nobody {correlator : Correlator} {response : Response}
    (nobody : correlator.recipient? response = none) : correlator.resolve response = correlator := by
  unfold recipient? at nobody
  unfold resolve
  cases tag : response.actionId with
  | none =>
    simp only [tag, List.head?_eq_none_iff] at nobody
    simp only [nobody]
  | some id =>
    simp only [tag] at nobody
    simp only [nobody]

theorem mailboxes_resolve {correlator : Correlator} {response : Response} {ticket : Nat}
    (own : correlator.recipient? response = some ticket) :
    (correlator.resolve response).mailboxes =
      (correlator.deliver ticket (.answered response)).mailboxes := by
  unfold recipient? at own
  unfold resolve
  cases tag : response.actionId with
  | none =>
    simp only [tag] at own
    obtain ⟨later, line⟩ := List.head?_eq_some_iff.mp own
    simp only [line]
    unfold deliver isListening mailbox
    split <;> rfl
  | some id =>
    simp only [tag] at own
    simp only [own]
    unfold deliver isListening mailbox forget
    split <;> rfl

/-- A response reaches the caller whose ticket it uses up, if that caller listens, and nobody
else. -/
theorem mailbox_resolve (correlator : Correlator) (response : Response) (ticket : Nat) :
    (correlator.resolve response).mailbox ticket =
      if correlator.recipient? response = some ticket ∧ correlator.mailbox ticket = .waiting then
        .answered response
      else correlator.mailbox ticket := by
  cases target : correlator.recipient? response with
  | none =>
    rw [resolve_of_nobody target, if_neg (by simp)]
  | some own =>
    have view : (correlator.resolve response).mailbox ticket =
        (correlator.deliver own (.answered response)).mailbox ticket := by
      unfold mailbox
      rw [mailboxes_resolve target]
    rw [view, mailbox_deliver]
    by_cases same : ticket = own
    · simp [same]
    · rw [if_neg fun both => same both.1,
        if_neg fun both => same (Option.some.inj both.1).symm]

theorem inOrder_resolve (correlator : Correlator) (response : Response) :
    (correlator.resolve response).inOrder =
      if response.actionId = none then correlator.inOrder.tail else correlator.inOrder := by
  unfold resolve
  cases tag : response.actionId with
  | none =>
    simp only [if_true]
    cases line : correlator.inOrder with
    | nil => exact line
    | cons head later =>
      simp only
      rw [deliver_inOrder]
      rfl
  | some id =>
    rw [if_neg (Option.some_ne_none id)]
    simp only
    split
    · rw [deliver_inOrder]
      rfl
    · rfl

theorem resolve_byId (correlator : Correlator) (response : Response) :
    (correlator.resolve response).byId =
      match response.actionId with
      | some id => (correlator.forget id).byId
      | none => correlator.byId := by
  unfold resolve
  cases response.actionId with
  | none =>
    simp only
    split
    · rw [deliver_byId]
    · rfl
  | some id =>
    simp only
    cases found : correlator.ticketOf? id with
    | none => rw [forget_eq_self found]
    | some own => rw [deliver_byId]

/-- A response with an identifier clears that identifier. -/
theorem ticketOf?_resolve (correlator : Correlator) (response : Response) (other : String) :
    (correlator.resolve response).ticketOf? other =
      if response.actionId = some other then none else correlator.ticketOf? other := by
  have table := resolve_byId correlator response
  cases tag : response.actionId with
  | none =>
    rw [tag] at table
    rw [ticketOf?_congr table, if_neg (by simp)]
  | some id =>
    rw [tag] at table
    rw [ticketOf?_congr table, ticketOf?_forget]
    by_cases same : other = id
    · rw [if_pos same, if_pos (by rw [same])]
    · rw [if_neg same, if_neg fun equal => same (Option.some.inj equal).symm]

theorem keyed_resolve {correlator : Correlator} (keyed : correlator.Keyed) (response : Response) :
    (correlator.resolve response).Keyed := by
  unfold Keyed
  rw [resolve_byId]
  split
  · exact keyed_forget keyed _
  · exact keyed

/-! ### Closing -/

/-- One content for many tickets reaches those among them who listen. -/
theorem mailbox_deliverAll (content : Mailbox) (silent : content ≠ .waiting) (tickets : List Nat)
    (correlator : Correlator) (ticket : Nat) :
    (tickets.foldl (fun later own => later.deliver own content) correlator).mailbox ticket =
      if ticket ∈ tickets ∧ correlator.mailbox ticket = .waiting then content
      else correlator.mailbox ticket := by
  induction tickets generalizing correlator with
  | nil => simp
  | cons own rest ih =>
    rw [List.foldl_cons, ih, mailbox_deliver]
    by_cases same : ticket = own
    · subst same
      by_cases waiting : correlator.mailbox ticket = .waiting
      · simp [waiting, silent]
      · simp [waiting]
    · simp [same]

theorem deliverAll_view (content : Mailbox) (tickets : List Nat) (correlator : Correlator) :
    let later := tickets.foldl (fun later own => later.deliver own content) correlator
    later.inOrder = correlator.inOrder ∧ later.byId = correlator.byId ∧
      later.closed = correlator.closed ∧ later.mailboxes.length = correlator.mailboxes.length := by
  induction tickets generalizing correlator with
  | nil => exact ⟨rfl, rfl, rfl, rfl⟩
  | cons own rest ih =>
    obtain ⟨line, table, reason, size⟩ := ih (correlator.deliver own content)
    exact ⟨line.trans (deliver_inOrder ..), table.trans (deliver_byId ..),
      reason.trans (deliver_closed ..), size.trans (length_deliver ..)⟩

@[simp]
theorem close_inOrder (correlator : Correlator) (reason : DisconnectReason) :
    (correlator.close reason).inOrder = [] :=
  (deliverAll_view _ _ _).1

@[simp]
theorem close_byId (correlator : Correlator) (reason : DisconnectReason) :
    (correlator.close reason).byId = [] :=
  (deliverAll_view _ _ _).2.1

/-- The first reason stays. -/
@[simp]
theorem close_closed (correlator : Correlator) (reason : DisconnectReason) :
    (correlator.close reason).closed = correlator.closed.or (some reason) :=
  (deliverAll_view _ _ _).2.2.1

@[simp]
theorem length_close (correlator : Correlator) (reason : DisconnectReason) :
    (correlator.close reason).mailboxes.length = correlator.mailboxes.length :=
  (deliverAll_view _ _ _).2.2.2

/-- Everybody in the line or in the table who listens is released. -/
theorem mailbox_close (correlator : Correlator) (reason : DisconnectReason) (ticket : Nat) :
    (correlator.close reason).mailbox ticket =
      if (ticket ∈ correlator.inOrder ∨ ticket ∈ correlator.byId.map Prod.snd) ∧
          correlator.mailbox ticket = .waiting then
        .released reason
      else correlator.mailbox ticket := by
  unfold close
  rw [mailbox_deliverAll _ (by simp)]
  simp only [List.mem_append]
  rfl

theorem keyed_close (correlator : Correlator) (reason : DisconnectReason) :
    (correlator.close reason).Keyed := by
  unfold Keyed
  rw [close_byId]
  exact List.nodup_nil

/-! ### What has been answered -/

section Answered

variable {correlator : Correlator} {ticket : Nat} {response : Response}

/-! Whoever does not wait any more is left alone. -/

theorem mailbox_enlist_of_settled (keyed : correlator.Keyed) {tag : Option String}
    (earlier : ticket < correlator.mailboxes.length)
    (settled : correlator.mailbox ticket ≠ .waiting) :
    (correlator.enlist tag).mailbox ticket = correlator.mailbox ticket := by
  rw [mailbox_enlist keyed, if_neg (Nat.ne_of_lt earlier), if_neg fun both => settled both.2]

theorem mailbox_cancel_of_settled {pending : Pending}
    (settled : correlator.mailbox ticket ≠ .waiting) :
    (correlator.cancel pending).mailbox ticket = correlator.mailbox ticket := by
  rw [mailbox_cancel, if_neg fun all => settled all.2.2]

theorem mailbox_resolve_of_settled (settled : correlator.mailbox ticket ≠ .waiting) :
    (correlator.resolve response).mailbox ticket = correlator.mailbox ticket := by
  rw [mailbox_resolve, if_neg fun both => settled both.2]

theorem mailbox_close_of_settled {reason : DisconnectReason}
    (settled : correlator.mailbox ticket ≠ .waiting) :
    (correlator.close reason).mailbox ticket = correlator.mailbox ticket := by
  rw [mailbox_close, if_neg fun both => settled both.2]

/-! Only a response fills a mailbox with a response. -/

theorem answered_of_abandon {pending : Pending}
    (answered : (correlator.abandon pending).mailbox ticket = .answered response) :
    correlator.mailbox ticket = .answered response := by
  rw [mailbox_abandon] at answered
  split at answered
  · cases answered
  · exact answered

theorem answered_of_enlist (keyed : correlator.Keyed) {tag : Option String}
    (answered : (correlator.enlist tag).mailbox ticket = .answered response) :
    correlator.mailbox ticket = .answered response := by
  rw [mailbox_enlist keyed] at answered
  split at answered
  · cases answered
  · split at answered
    · cases answered
    · exact answered

theorem answered_of_cancel {pending : Pending}
    (answered : (correlator.cancel pending).mailbox ticket = .answered response) :
    correlator.mailbox ticket = .answered response := by
  rw [mailbox_cancel] at answered
  split at answered
  · cases answered
  · exact answered

theorem answered_of_close {reason : DisconnectReason}
    (answered : (correlator.close reason).mailbox ticket = .answered response) :
    correlator.mailbox ticket = .answered response := by
  rw [mailbox_close] at answered
  split at answered
  · cases answered
  · exact answered

end Answered

/-! ### Collecting -/

/-- A caller gets a response exactly when its mailbox holds it. -/
theorem collect_eq_ok_iff {correlator : Correlator} {pending : Pending} {limitMs : Nat}
    {response : Response} :
    (correlator.collect pending limitMs).1 = .ok response ↔
      correlator.mailbox pending.ticket = .answered response := by
  unfold collect arrived?
  cases correlator.mailbox pending.ticket <;> simp

end Switchboard.Correlator
