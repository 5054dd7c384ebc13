/-
**A repeat changes nothing while the window remembers the event.**

A stream of arrivals consists of originals and of copies, which are put in anywhere. A copy is timely
when fewer events than the window has room for have been accepted since the event of which it is a
copy was. Timely copies are answered with nothing, and everything else is as if they had not come:
`redelivery_idempotent`.
-/

import Switchboard.Event.SipHash
import Switchboard.Proofs.Event.Copy
import Switchboard.Proofs.Tracker.Memory

namespace Switchboard

/-- An event that arrives, for the first time or as a copy of one that was accepted. -/
structure Arrival where
  event : Event
  again : Bool
  deriving DecidableEq, Repr

namespace Tracker

/-- The events of a stream. -/
def arriving (stream : List Arrival) : List Event :=
  stream.map Arrival.event

/-- The events of a stream without the copies. -/
def originals (stream : List Arrival) : List Event :=
  arriving (stream.filter fun arrival => !arrival.again)

theorem arriving_concat (stream : List Arrival) (last : Arrival) :
    arriving (stream ++ [last]) = arriving stream ++ [last.event] :=
  List.map_append

theorem originals_concat (stream : List Arrival) (event : Event) :
    originals (stream ++ [⟨event, false⟩]) = originals stream ++ [event] := by
  unfold originals
  rw [List.filter_append]
  exact arriving_concat _ _

theorem originals_concat_again (stream : List Arrival) (copy : Event) :
    originals (stream ++ [⟨copy, true⟩]) = originals stream := by
  unfold originals
  rw [List.filter_append]
  exact congrArg arriving (List.append_nil _)

section Run

variable [Digest]

/-- Every arrival with what the tracker answers to it. -/
def answers (tracker : Tracker) (stream : List Arrival) : List (Arrival × Option Job) :=
  stream.zip (tracker.jobs (arriving stream))

/-- Whether every copy comes while fewer than so many events have been accepted since its original
was. -/
def Timely (tracker : Tracker) (room : Nat) (stream : List Arrival) : Prop :=
  ∀ before copy after, stream = before ++ ⟨copy, true⟩ :: after →
    ∃ earlier original since,
      tracker.accepted (arriving before) = earlier ++ original :: since ∧
        since.length < room ∧ original.IsCopy copy

theorem Timely.of_concat {tracker : Tracker} {room : Nat} {stream : List Arrival} {last : Arrival}
    (timely : tracker.Timely room (stream ++ [last])) : tracker.Timely room stream := by
  intro before copy after split
  refine timely before copy (after ++ [last]) ?_
  rw [split, List.append_assoc]
  rfl

theorem answers_concat (tracker : Tracker) (stream : List Arrival) (last : Arrival) :
    tracker.answers (stream ++ [last]) =
      tracker.answers stream ++ [(last, ((tracker.after (arriving stream)).apply last.event).2)] := by
  unfold answers
  rw [arriving_concat, jobs_concat, List.zip_append]
  · rfl
  · rw [length_jobs]
    exact (List.length_map _).symm

/-- A copy right behind its original is timely. -/
theorem timely_pair {tracker : Tracker} {room : Nat} (roomy : 0 < room) {original copy : Event}
    (accepted : tracker.accepted [original] = [original]) (copies : original.IsCopy copy) :
    tracker.Timely room [⟨original, false⟩, ⟨copy, true⟩] := by
  intro before again after split
  cases before with
  | nil => cases split
  | cons first rest =>
    obtain ⟨rfl, tail⟩ := List.cons.inj split
    cases rest with
    | nil =>
      cases tail
      exact ⟨[], original, [], accepted, roomy, copies⟩
    | cons second more =>
      obtain ⟨-, nothing⟩ := List.cons.inj tail
      simp at nothing

/-- A timely copy is not accepted. -/
theorem refused_of_timely {accountId inboxId : Int} {settings : TrackerSettings}
    {stream : List Arrival} {copy : Event}
    (timely : (new accountId inboxId settings).Timely (max settings.dedupWindow 1)
      (stream ++ [⟨copy, true⟩])) :
    ((new accountId inboxId settings).after (arriving stream)).accept? copy = none := by
  obtain ⟨earlier, original, since, accepted, young, copies⟩ := timely stream copy [] rfl
  refine refused_of_contains ?_
  rw [copies.fingerprint]
  exact remembers accepted young

/-- **Redelivery is idempotent inside the window.** However the copies of accepted events are put in
a stream, as long as each is timely: no copy has an answer, the originals have the answers that they
have without the copies, in the same order, and the tracker is the same in the end, its sessions and
its window included. -/
theorem redelivery_idempotent {accountId inboxId : Int} {settings : TrackerSettings}
    {stream : List Arrival}
    (timely : (new accountId inboxId settings).Timely (max 1 settings.dedupWindow) stream) :
    let tracker := new accountId inboxId settings
    (∀ answer ∈ tracker.answers stream, answer.1.again = true → answer.2 = none) ∧
    ((tracker.answers stream).filter fun answer => !answer.1.again).map Prod.snd =
      tracker.jobs (originals stream) ∧
    tracker.after (arriving stream) = tracker.after (originals stream) := by
  intro tracker
  rw [Nat.max_comm] at timely
  induction stream using List.reverseRecOn with
  | nil => exact ⟨by simp [answers, arriving], rfl, rfl⟩
  | append_singleton stream last ih =>
    obtain ⟨silent, others, same⟩ := ih timely.of_concat
    obtain ⟨event, again⟩ := last
    rw [answers_concat, arriving_concat, after_append, List.filter_append, List.map_append, others]
    -- Both runs have come to one tracker; an original moves them on together, a copy moves neither.
    cases again with
    | false =>
      rw [originals_concat, jobs_concat, after_append, same]
      refine ⟨fun answer member isAgain => ?_, rfl, rfl⟩
      rcases List.mem_append.mp member with before | new
      · exact silent answer before isAgain
      · rw [List.mem_singleton.mp new] at isAgain
        cases isAgain
    | true =>
      have refused := apply_of_refused (refused_of_timely timely)
      rw [originals_concat_again, refused]
      refine ⟨fun answer member isAgain => ?_, List.append_nil _, ?_⟩
      · rcases List.mem_append.mp member with before | new
        · exact silent answer before isAgain
        · rw [List.mem_singleton.mp new]
      · show ((tracker.after (arriving stream)).apply event).1 = _
        rw [refused]
        exact same

end Run

open scoped SipHash

/-- A channel that hangs up, and the same with other spelling, order and time. -/
def hangup : Event :=
  Event.new "Hangup" [("Uniqueid", "1.1"), ("Cause-txt", "Normal Clearing")]

def hangupAgain : Event :=
  { name := "Hangup"
    headers := ⟨[("UNIQUEID", "1.1"), ("cause-TXT", "Normal Clearing"), ("event", "Hangup")]⟩
    receivedAt := ⟨1⟩ }

/-- A window that remembers one event. -/
def narrow : TrackerSettings :=
  { TrackerSettings.default with dedupWindow := 0 }

/-- An event and a copy of it. -/
def repeated : List Arrival :=
  [⟨hangup, false⟩, ⟨hangupAgain, true⟩]

theorem foldedPairs_hangup : hangup.foldedPairs =
    [("event", "Hangup")] ++ [("uniqueid", "1.1"), ("cause-txt", "Normal Clearing")] := by
  decide +kernel

theorem foldedPairs_hangupAgain : hangupAgain.foldedPairs =
    [("uniqueid", "1.1"), ("cause-txt", "Normal Clearing")] ++ [("event", "Hangup")] := by
  decide +kernel

theorem isCopy_hangupAgain : hangup.IsCopy hangupAgain := by
  refine ⟨by decide +kernel, ?_⟩
  rw [foldedPairs_hangup, foldedPairs_hangupAgain]
  exact List.perm_append_comm

theorem redelivery_idempotent_hangup :
    (new 1 1 narrow).Timely (max 1 narrow.dedupWindow) repeated ∧
      ((new 1 1 narrow).after (originals repeated)).sessions.length = 1 ∧
      (new 1 1 narrow).after (arriving repeated) = (new 1 1 narrow).after (originals repeated) := by
  have accepted : (new 1 1 narrow).accepted [hangup] = [hangup] := by decide +kernel
  have timely : (new 1 1 narrow).Timely (max 1 narrow.dedupWindow) repeated :=
    timely_pair (Nat.lt_of_lt_of_le Nat.zero_lt_one (Nat.le_max_left _ _)) accepted
      isCopy_hangupAgain
  have result := redelivery_idempotent timely
  refine ⟨timely, ?_, result.2.2⟩
  decide +kernel

end Tracker

end Switchboard
