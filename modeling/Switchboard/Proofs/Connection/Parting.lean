/-
**Ending a link, one step at a time.**

`Connection.teardown` ends a link at once. In truth the client takes four steps, and the reader and
the handlers go on beside them:

* the link is taken away from the callers;
* the reader is told to stop, and the client waits until it has, but no longer than the grace;
* the client is done with the reader: it has stopped, or it is cut off;
* the client releases everybody who is left.

`Parting` takes these steps one by one. However they and what happens beside them follow each other,
the outcome is that of ending the link at once: what happened before everybody was released has
happened before, and what a reader that was cut off did from then on is late (`released_run`). No
reader can make an ending last (`released_of_patience`).
-/

import Switchboard.Proofs.Connection.Happening

namespace Switchboard

/-- How far the client has come with ending a link. -/
inductive Parting.Point where
  /-- Callers do not find the link any more. -/
  | taken
  /-- The reader has been told to stop. -/
  | told
  /-- The client waits for the reader no more. -/
  | alone
  /-- Everybody has been released. -/
  | released
  deriving DecidableEq, Repr

/-- A link on its way out, and the connection that it is taken from. -/
structure Parting where
  connection : Connection
  link : Link
  point : Parting.Point
  /-- How long the client has waited for the reader. -/
  waited : Nat
  deriving Repr

namespace Parting

/-- What may happen while a link is ended, one thing at a time. -/
inductive Move where
  /-- The client goes on, unless it waits for the reader. -/
  | goOn
  /-- Time passes. -/
  | passed (ms : Nat)
  | beside (happening : Happening)
  deriving DecidableEq, Repr

/-- What happens beside the client, if it is that. -/
def Move.happening? : Move → Option Happening
  | beside happening => some happening
  | _ => none

/-- The link is taken from its connection. -/
def start (connection : Connection) (link : Link) : Parting :=
  { connection := { connection with link := none }, link, point := .taken, waited := 0 }

/-- The connection as if the link were still on it. -/
def view (parting : Parting) : Connection :=
  { parting.connection with link := some parting.link }

/-- How long a reader is waited for. -/
def grace (parting : Parting) : Nat := parting.connection.settings.shutdownGraceMs

/-- The client does not wait any more. -/
def leave (parting : Parting) : Parting :=
  match parting.link.reader with
  | .stopped _ => { parting with point := .alone }
  | _ => if parting.grace ≤ parting.waited then { parting with point := .alone } else parting

/-- Everybody who is left on the link is released. -/
def release (parting : Parting) : Parting :=
  let link := parting.link.abandon
  { parting with
    connection :=
      { parting.connection with
        past := link :: parting.connection.past
        dropped := link.events.dropped
        stragglers :=
          Connection.withStraggler parting.connection.stragglers parting.link.reader }
    link
    point := .released }

/-- The client's own next step. -/
def goOn (parting : Parting) : Parting :=
  match parting.point with
  | .taken => { parting with point := .told }
  | .told => parting.leave
  | .alone => parting.release
  | .released => parting

/-- Time that passes counts while the client waits. -/
def pass (parting : Parting) (ms : Nat) : Parting :=
  match parting.point with
  | .told => { parting with waited := parting.waited + ms }
  | _ => parting

/-- One step beside the client. When everybody has been released, the link is out of reach. -/
def happen (parting : Parting) (happening : Happening) : Parting :=
  match parting.point with
  | .taken | .told | .alone =>
    { parting with
      connection := { parting.view.happen happening with link := none }
      link := parting.link.happen happening }
  | .released => { parting with connection := parting.connection.happen happening }

def step (parting : Parting) : Move → Parting
  | .goOn => parting.goOn
  | .passed ms => parting.pass ms
  | .beside happening => parting.happen happening

/-- Steps along a schedule. -/
def run (parting : Parting) (moves : List Move) : Parting :=
  moves.foldl step parting

/-! ### What ending adds up to -/

variable {origin : Connection} {happened : List Happening} {parting : Parting}

/-- Whether the client is done with the reader: it has stopped, or has taken too long. -/
def Settled (origin : Connection) (parting : Parting) : Prop :=
  (∃ reason, parting.link.reader = .stopped reason) ∨
    origin.settings.shutdownGraceMs ≤ parting.waited

/-- What a parting owes to the connection on which it began: as long as somebody may be on the link,
all that happened; from then on, the end of the link behind what had happened until then. -/
def Follows (origin : Connection) (happened : List Happening) (parting : Parting) : Prop :=
  match parting.point with
  | .taken | .told | .alone =>
    (origin.happenAll happened).link = some parting.link ∧
      parting.connection = { origin.happenAll happened with link := none } ∧
      (parting.point = .alone → Settled origin parting)
  | .released =>
    ∃ seen ending link, seen ++ ending.late = happened ∧
      (origin.happenAll seen).link = some link ∧
      parting.connection = (origin.happenAll seen).teardown ending ∧
      (ending.readerMs ≤ origin.settings.shutdownGraceMs ∨
        origin.settings.shutdownGraceMs ≤ parting.waited)

/-- Everybody is released as at the end of the link, with a reader that has stopped or one that is
cut off. -/
theorem released_of_settled {seen : List Happening} {link : Link} {waited : Nat}
    (there : (origin.happenAll seen).link = some link)
    (settled : (∃ reason, link.reader = .stopped reason) ∨
      origin.settings.shutdownGraceMs ≤ waited) :
    ∃ readerMs, (origin.happenAll seen).cutOff =
        (origin.happenAll seen).teardown { readerMs, late := [] } ∧
      (readerMs ≤ origin.settings.shutdownGraceMs ∨ origin.settings.shutdownGraceMs ≤ waited) := by
  have settings := origin.happenAll_settings seen
  rcases settled with ⟨reason, stopped⟩ | late
  · refine ⟨0, ?_, .inl (Nat.zero_le _)⟩
    rw [Connection.cutOff_of_stopped there stopped]
    exact (@Connection.teardown_of_prompt _ _ there ⟨0, []⟩ (Nat.zero_le _)).symm
  · refine ⟨origin.settings.shutdownGraceMs + 1, ?_, .inr late⟩
    refine (@Connection.teardown_of_late _ _ there ⟨_, []⟩ ?_).symm
    rw [settings]
    exact Nat.not_succ_le_self _

theorem Follows.goOn (follows : Follows origin happened parting) :
    Follows origin happened parting.goOn := by
  obtain ⟨connection, link, point, waited⟩ := parting
  cases point with
  | taken => exact ⟨follows.1, follows.2.1, nofun⟩
  | told =>
    obtain ⟨there, rest, -⟩ := follows
    have grace : connection.settings.shutdownGraceMs = origin.settings.shutdownGraceMs := by
      change connection = _ at rest
      rw [rest]
      exact congrArg _ (origin.happenAll_settings happened)
    show Follows origin happened (Parting.leave ⟨connection, link, .told, waited⟩)
    unfold Parting.leave
    split
    · next reason stopped => exact ⟨there, rest, fun _ => .inl ⟨reason, stopped⟩⟩
    · split
      · next late => exact ⟨there, rest, fun _ => .inr (grace ▸ late)⟩
      · exact ⟨there, rest, nofun⟩
  | alone =>
    obtain ⟨there, rest, settled⟩ := follows
    change (origin.happenAll happened).link = some link at there
    change connection = _ at rest
    obtain ⟨readerMs, same, prompt⟩ := released_of_settled there (settled rfl)
    refine ⟨happened, { readerMs, late := [] }, link, List.append_nil _, there, ?_, prompt⟩
    rw [← same, Connection.cutOff_eq there]
    subst rest
    rfl
  | released => exact follows

theorem Follows.pass (follows : Follows origin happened parting) (ms : Nat) :
    Follows origin happened (parting.pass ms) := by
  obtain ⟨connection, link, point, waited⟩ := parting
  cases point with
  | told => exact ⟨follows.1, follows.2.1, nofun⟩
  | _ => exact follows

theorem stopped_happen {link : Link} {reason : DisconnectReason}
    (stopped : link.reader = .stopped reason) (happening : Happening) :
    (link.happen happening).reader = .stopped reason := by
  obtain ⟨correlator, reader, events, written⟩ := link
  cases stopped
  cases happening <;> rfl

theorem Follows.happen (follows : Follows origin happened parting) (happening : Happening) :
    Follows origin (happened ++ [happening]) (parting.happen happening) := by
  obtain ⟨connection, link, point, waited⟩ := parting
  cases point with
  | taken | told | alone =>
    obtain ⟨there, rest, settled⟩ := follows
    change connection = _ at rest
    have view : Parting.view ⟨connection, link, .taken, waited⟩ = origin.happenAll happened := by
      unfold Parting.view
      rw [rest, ← there]
    refine ⟨?_, ?_, fun alone => ?_⟩
    · rw [Connection.happenAll_append]
      exact Connection.happen_link there happening
    · rw [Connection.happenAll_append, ← view]
      rfl
    · exact (settled alone).imp_left fun ⟨reason, stopped⟩ =>
        ⟨reason, stopped_happen stopped happening⟩
  | released =>
    obtain ⟨seen, ending, part, split, there, rest, prompt⟩ := follows
    change connection = _ at rest
    subst rest
    refine ⟨seen, { ending with late := ending.late ++ [happening] }, part, ?_, there, ?_, prompt⟩
    · rw [← split, List.append_assoc]
    · exact Connection.teardown_happen there ending happening

theorem follows_run {link : Link} (there : origin.link = some link) (moves : List Move) :
    Follows origin (moves.filterMap Move.happening?) ((start origin link).run moves) := by
  induction moves using List.reverseRecOn with
  | nil => exact ⟨there, rfl, nofun⟩
  | append_singleton moves last ih =>
    have concat : (start origin link).run (moves ++ [last]) =
        ((start origin link).run moves).step last := List.foldl_concat ..
    rw [concat, List.filterMap_append]
    cases last with
    | goOn =>
      rw [List.filterMap_cons_none rfl, List.filterMap_nil, List.append_nil]
      exact ih.goOn
    | passed ms =>
      rw [List.filterMap_cons_none rfl, List.filterMap_nil, List.append_nil]
      exact ih.pass ms
    | beside happening => exact ih.happen happening

/-- Once everybody is released, all is as if the link had been ended at once, with what happened
until then before it and what has happened since behind it. A reader is cut off only when the grace
is over. -/
theorem released_run {link : Link} (there : origin.link = some link) {moves : List Move}
    (ended : ((start origin link).run moves).point = .released) :
    ∃ seen ending, seen ++ ending.late = moves.filterMap Move.happening? ∧
      ((start origin link).run moves).connection = (origin.happenAll seen).teardown ending ∧
      (ending.readerMs ≤ origin.settings.shutdownGraceMs ∨
        origin.settings.shutdownGraceMs ≤ ((start origin link).run moves).waited) := by
  have follows := follows_run there moves
  unfold Follows at follows
  rw [ended] at follows
  obtain ⟨seen, ending, -, split, -, rest⟩ := follows
  exact ⟨seen, ending, split, rest⟩

/-- A connection that is not ready does not become ready while a link of it is ended. -/
theorem unready_run {link : Link} (there : origin.link = some link)
    (unready : origin.status ≠ .ready) (moves : List Move) :
    ((start origin link).run moves).connection.status ≠ .ready := by
  have follows := follows_run there moves
  generalize (start origin link).run moves = parting at follows
  unfold Follows at follows
  have status (seen : List Happening) :
      ({ origin.happenAll seen with link := none } : Connection).status ≠ .ready :=
    Connection.happenAll_unready unready seen
  split at follows
  · exact follows.2.1 ▸ status _
  · exact follows.2.1 ▸ status _
  · exact follows.2.1 ▸ status _
  · obtain ⟨seen, ending, -, -, -, same, -⟩ := follows
    rw [same]
    exact Connection.teardown_unready (Connection.happenAll_unready unready seen) ending

/-- The client is done with the reader, or waits for it. -/
theorem leave_cases (parting : Parting) :
    parting.leave = { parting with point := .alone } ∨
      parting.leave = parting ∧ ¬parting.grace ≤ parting.waited := by
  unfold leave
  split
  · exact .inl rfl
  · by_cases late : parting.grace ≤ parting.waited
    · rw [if_pos late]
      exact .inl rfl
    · rw [if_neg late]
      exact .inr ⟨rfl, late⟩

/-- A parting comes to its end when the client goes on, once the grace has passed. -/
theorem released_of_patience (parting : Parting) :
    (parting.run [.goOn, .passed parting.grace, .goOn, .goOn]).point = .released := by
  obtain ⟨connection, link, point, waited⟩ := parting
  have patient (before : Nat) :
      (Parting.goOn (Parting.leave ⟨connection, link, .told,
        before + connection.settings.shutdownGraceMs⟩)).point = .released := by
    rcases leave_cases ⟨connection, link, .told, before + connection.settings.shutdownGraceMs⟩ with
      alone | ⟨-, early⟩
    · rw [alone]
      rfl
    · exact absurd (Nat.le_add_left _ before) early
  cases point with
  | taken => exact patient waited
  | told =>
    show (goOn (goOn (pass (leave ⟨connection, link, .told, waited⟩) _))).point = _
    rcases leave_cases ⟨connection, link, .told, waited⟩ with alone | ⟨waits, -⟩
    · rw [alone]
      rfl
    · rw [waits]
      exact patient waited
  | alone => rfl
  | released => rfl

end Parting

end Switchboard
