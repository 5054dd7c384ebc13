/-
**What a snapshot tells of a call.**

A snapshot is a JSON object, and whoever receives it reads the status of the call and the number of
its events out of it. `Snapshot.status?` and `Snapshot.eventCount?` are these readings; they give
back what the record held when the snapshot was taken.
-/

import Switchboard.Call.Session
import Switchboard.Job

namespace Switchboard

/-- The status that goes by a word. -/
def CallStatus.ofWord? (word : String) : Option CallStatus :=
  [.new, .dialing, .bridged, .ended .hungUp, .ended .failed].find? (·.word = word)

/-- No two statuses share a word. -/
theorem CallStatus.ofWord?_word (status : CallStatus) : ofWord? status.word = some status := by
  rcases status with _ | _ | _ | ⟨_ | _⟩ <;> decide +kernel

namespace Snapshot

/-- The status of the call in a snapshot. -/
def status? (snapshot : Json) : Option CallStatus :=
  ((snapshot.field? "call_status").bind Job.text?).bind CallStatus.ofWord?

/-- The number of events in a snapshot. -/
def eventCount? (snapshot : Json) : Option Int :=
  match snapshot.field? "event_count" with
  | some (.int count) => some count
  | _ => none

@[simp] theorem status?_metadata (session : Session) :
    status? session.metadata = some session.status := by
  have told : session.metadata.field? "call_status" = some (.str session.status.word) := by
    simp [Session.metadata, Json.field?, Json.find?]
  unfold status?
  rw [told]
  exact session.status.ofWord?_word

@[simp] theorem eventCount?_metadata (session : Session) :
    eventCount? session.metadata = some (session.history.length : Int) := by
  have told : session.metadata.field? "event_count" = some (.int session.history.length) := by
    simp [Session.metadata, Json.field?, Json.find?]
  unfold eventCount?
  rw [told]

end Snapshot

end Switchboard
