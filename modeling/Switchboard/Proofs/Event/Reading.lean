/-
**When a fingerprint tells what an event says.**

A look-up takes the first header under a key, while the fingerprint is made of the headers in order.
So two events of the same contents may be read in different ways, if one key stands in them with
several values. What a tracker reads of an event is a list of fields (`fields`), each a key and what
counts of its value: trimmed, not blank, in any case. A field reads alike in all events of the same
contents exactly when all values under its key count the same (`Field.told_iff`), and the events are
read alike exactly when all their fields are (`alike_iff`). So the fingerprint, collisions apart,
tells what an event says exactly when none of the fields that are read is ambiguous:
`told_by_fingerprint_iff`.
-/

import Switchboard.Call.Event
import Switchboard.Event.SipHash
import Switchboard.Proofs.Event.Copy
import Switchboard.Proofs.Text.Blank
import Switchboard.Proofs.Tracker.Memory
import Switchboard.Proofs.Tracker.Status

namespace Switchboard

open Text

/-! ### Values under a key -/

namespace Event

/-- The values under a key, in any case, in the order in which they stand. -/
def valuesUnder (event : Event) (key : String) : List String :=
  (event.headers.pairs.filter fun pair => sameName pair.1 key).map Prod.snd

theorem valuesUnder_eq (event : Event) (key : String) :
    event.valuesUnder key = (event.foldedUnder key).map Prod.snd := by
  rw [foldedUnder_eq, List.map_map]
  rfl

/-- A look-up finds the first value under its key. -/
theorem header_eq_head? (event : Event) (key : String) :
    event.header key = (event.valuesUnder key).head? := by
  rw [valuesUnder_eq, List.head?_map]
  exact event.get_eq_head? key

/-- Events of the same contents have the same values under a key, up to their order. -/
theorem perm_valuesUnder {first second : Event} (same : first.contents = second.contents)
    (key : String) : (first.valuesUnder key).Perm (second.valuesUnder key) := by
  rw [valuesUnder_eq, valuesUnder_eq]
  exact ((contents_eq_iff.mp same).2.filter _).map _

/-- Events of the same contents have the same keys. -/
theorem isSome_header {first second : Event} (same : first.contents = second.contents)
    (key : String) : (first.header key).isSome = (second.header key).isSome := by
  have long := (perm_valuesUnder same key).length_eq
  rw [header_eq_head?, header_eq_head?]
  revert long
  cases first.valuesUnder key <;> cases second.valuesUnder key <;> simp

/-- Every value under a key is the first one in some event of the same contents. -/
theorem exists_leading {event : Event} {key value : String}
    (member : value ∈ event.valuesUnder key) :
    ∃ other : Event, other.contents = event.contents ∧ other.header key = some value := by
  obtain ⟨pair, inPairs, rfl⟩ := List.mem_map.mp member
  obtain ⟨stands, under⟩ := List.mem_filter.mp inPairs
  let other : Event :=
    { event with headers := ⟨pair :: event.headers.pairs.erase pair⟩ }
  have perm : other.foldedPairs.Perm event.foldedPairs := (List.perm_cons_erase stands).symm.map _
  refine ⟨other, contents_eq_iff.mpr ⟨rfl, perm⟩, ?_⟩
  rw [header_eq_head?]
  show ((List.filter _ (pair :: _)).map Prod.snd).head? = _
  rw [List.filter_cons, if_pos under]
  rfl

theorem isNamed_congr {first second : Event} (same : fold first.name = fold second.name)
    (name : String) : first.isNamed name = second.isNamed name := by
  unfold isNamed sameName
  rw [same]

end Event

/-! ### Fields -/

/-- Something that is read of events: under which key it stands, and what counts of its value. -/
structure Field where
  key : String
  counts : String → Option String

namespace Field

/-- What a field is read to be. -/
def of (field : Field) (event : Event) : Option String :=
  (event.header field.key).bind field.counts

/-- Whether the key of a field stands in an event with two values that do not count the same. -/
def AmbiguousIn (field : Field) (event : Event) : Prop :=
  ∃ first ∈ event.valuesUnder field.key, ∃ second ∈ event.valuesUnder field.key,
    field.counts first ≠ field.counts second

/-- A field reads alike in all events of the same contents exactly when it is not ambiguous. -/
theorem told_iff (field : Field) (event : Event) :
    (∀ other : Event, other.contents = event.contents → field.of other = field.of event) ↔
      ¬field.AmbiguousIn event := by
  constructor
  · rintro told ⟨first, isFirst, second, isSecond, differ⟩
    obtain ⟨one, sameOne, leadsOne⟩ := Event.exists_leading isFirst
    obtain ⟨two, sameTwo, leadsTwo⟩ := Event.exists_leading isSecond
    have alike := (told one sameOne).trans (told two sameTwo).symm
    unfold of at alike
    rw [leadsOne, leadsTwo] at alike
    exact differ alike
  · intro plain other same
    have perm := Event.perm_valuesUnder same field.key
    unfold of
    rw [Event.header_eq_head?, Event.header_eq_head?]
    cases here : (event.valuesUnder field.key).head? with
    | none =>
      rw [List.head?_eq_none_iff.mp here, List.perm_nil] at perm
      rw [perm]
      rfl
    | some value =>
      cases there : (other.valuesUnder field.key).head? with
      | none =>
        rw [List.head?_eq_none_iff.mp there, List.nil_perm] at perm
        rw [perm] at here
        cases here
      | some found =>
        have inEvent := perm.mem_iff.mp (List.mem_of_mem_head? there)
        by_contra differ
        exact plain ⟨found, inEvent, value, List.mem_of_mem_head? here, differ⟩

/-- A text without the blanks at its ends, unless nothing is left. -/
def text (key : String) : Field :=
  ⟨key, trimmed?⟩

theorem of_text (key : String) (event : Event) :
    (text key).of event = (event.header key).bind trimmed? := by
  simp only [of, text]

/-- A name in any case, without the blanks at its ends. -/
def name (key : String) : Field :=
  ⟨key, fun value => some (fold (trim value))⟩

/-- An identifier, as it stands, unless it is blank. -/
def identifier (key : String) : Field :=
  ⟨key, nonBlank?⟩

end Field

/-! ### What a tracker reads -/

theorem trimmed?_of_nonBlank? (value : String) :
    (nonBlank? value).bind trimmed? = trimmed? value := by
  unfold nonBlank?
  split
  · next blank =>
    unfold trimmed? nonBlank?
    rw [if_pos (isBlankText_trim blank), Option.bind_none]
  · rw [Option.bind_some]

/-- What is found under a key and not blank says what is found under it, trimmed. -/
theorem Event.trimmed_getNonBlank (event : Event) (key : String) :
    (event.headers.getNonBlank key).bind trimmed? = (Field.text key).of event := by
  rw [Field.of_text]
  unfold Headers.getNonBlank Event.header
  cases event.headers.get key with
  | none => rfl
  | some value =>
    rw [Option.bind_some, Option.bind_some]
    exact trimmed?_of_nonBlank? value

namespace Event

/-- The fields that a tracker reads of an event: the call that it is about, and what an event of its
name tells. The name of a variable matters when the variable has a value. -/
def fields (event : Event) : List Field :=
  .identifier "Uniqueid" ::
    if event.isNamed "Newchannel" then
      [.text "ChannelStateDesc", .text "CallerIDNum", .text "CallerIDName", .text "Channel"]
    else if event.isNamed "DialBegin" then [.text "DialString", .text "DestUniqueid"]
    else if event.isNamed "DialEnd" then [.text "DialStatus", .text "DestUniqueid"]
    else if event.isNamed "BridgeEnter" then [.text "BridgeUniqueid", .text "ConnectedLineNum"]
    else if event.isNamed "BridgeLeave" then [.text "BridgeUniqueid"]
    else if event.isNamed "Hangup" then [.text "Cause-txt"]
    else if event.isNamed "VarSet" then
      .text "Value" :: if ((Field.text "Value").of event).isSome then [.name "Variable"] else []
    else []

/-- Whether a tracker cannot tell two events apart, whatever variable tells it the path of a
recording. -/
def Alike (first second : Event) : Prop :=
  first.uniqueId = second.uniqueId ∧
    ∀ recording, CallEvent.ofEvent first recording = CallEvent.ofEvent second recording

end Event

/-- What is said of a variable with a name and a value, or without one. -/
def CallEvent.ofVariable (value : Option String) (name recording : String) : CallEvent :=
  match value with
  | some path => if sameName name recording then .recording path else .ignoredVariable
  | none => .ignoredVariable

/-- What is said of variables tells their values, and the names of those that have one. -/
theorem CallEvent.ofVariable_alike_iff {value other : Option String} {name word : String} :
    (∀ recording, ofVariable value name recording = ofVariable other word recording) ↔
      value = other ∧ (other.isSome = true → fold name = fold word) := by
  unfold ofVariable
  constructor
  · intro alike
    cases value with
    | none =>
      cases other with
      | none => exact ⟨rfl, nofun⟩
      | some path =>
        have told := alike word
        simp at told
    | some path =>
      have told := alike name
      cases other with
      | none => simp at told
      | some found =>
        simp only [sameName_refl, if_true] at told
        split at told
        · next same =>
          cases told
          exact ⟨rfl, fun _ => (sameName_iff.mp same).symm⟩
        · cases told
  · rintro ⟨rfl, same⟩ recording
    cases value with
    | none => rfl
    | some path =>
      unfold sameName
      rw [same rfl]

theorem Field.of_name_eq_iff {first second : Event} (same : first.contents = second.contents)
    (key : String) : (Field.name key).of first = (Field.name key).of second ↔
      fold (trim ((first.header key).getD "")) = fold (trim ((second.header key).getD "")) := by
  have both := Event.isSome_header same key
  simp only [Field.of, Field.name]
  cases here : first.header key <;> cases there : second.header key <;> simp_all

/-- What an event says, in terms of the fields that are read. -/
theorem CallEvent.ofEvent_eq (event : Event) (recording : String) :
    ofEvent event recording =
      if event.isNamed "Newchannel" then
        .newChannel ((Field.text "ChannelStateDesc").of event) ((Field.text "CallerIDNum").of event)
          ((Field.text "CallerIDName").of event) ((Field.text "Channel").of event)
      else if event.isNamed "DialBegin" then
        .dialBegin ((Field.text "DialString").of event) ((Field.text "DestUniqueid").of event)
      else if event.isNamed "DialEnd" then
        .dialEnd ((Field.text "DialStatus").of event) ((Field.text "DestUniqueid").of event)
      else if event.isNamed "BridgeEnter" then
        .bridgeEnter ((Field.text "BridgeUniqueid").of event)
          ((Field.text "ConnectedLineNum").of event)
      else if event.isNamed "BridgeLeave" then
        .bridgeLeave ((Field.text "BridgeUniqueid").of event)
      else if event.isNamed "Hangup" then .hangup ((Field.text "Cause-txt").of event)
      else if event.isNamed "VarSet" then
        ofVariable ((Field.text "Value").of event) (trim ((event.header "Variable").getD "")) recording
      else .other := by
  unfold ofEvent Event.callerNumber Event.callerName Event.channel
  simp only [Event.trimmed_getNonBlank, ← Field.of_text]
  rfl

/-- Events of the same contents cannot be told apart exactly when the fields that are read are the
same. -/
theorem Event.alike_iff {first second : Event} (same : first.contents = second.contents) :
    first.Alike second ↔ ∀ field ∈ second.fields, field.of first = field.of second := by
  have named (name : String) := Event.isNamed_congr (Event.contents_eq_iff.mp same).1 name
  unfold Event.Alike Event.fields
  rw [List.forall_mem_cons]
  refine and_congr Iff.rfl ?_
  simp only [CallEvent.ofEvent_eq, named]
  -- One case for each name, in the order in which the names are tried.
  split
  · simp
  split
  · simp
  split
  · simp
  split
  · simp
  split
  · simp
  split
  · simp
  split
  · rw [CallEvent.ofVariable_alike_iff, List.forall_mem_cons, ← Field.of_name_eq_iff same]
    split <;> simp_all
  · simp

/-! ### The theorem -/

namespace Event

/-- **When a fingerprint tells what an event says.** No event of the same fingerprint is told apart
from this one, by the call that it is about or by what it says of it, exactly when none of the fields
that are read of it stands with two values that do not count the same. Events that collide with this
one are left out of account. -/
theorem told_by_fingerprint_iff [Digest] (event : Event) :
    (∀ other : Event, ¬Collide other event → other.fingerprint = event.fingerprint →
        other.Alike event) ↔
      ∀ field ∈ event.fields, ¬field.AmbiguousIn event := by
  constructor
  · intro told field read
    refine (field.told_iff event).mp fun other same => ?_
    have apart : ¬Collide other event := fun collide => collide.2 same
    exact (alike_iff same).mp (told other apart (congrArg Digest.of same)) field read
  · intro plain other apart same
    have alike := contents_of_fingerprint apart same
    exact (alike_iff alike).mpr fun field read =>
      (field.told_iff event).mpr (plain field read) other alike

open scoped SipHash

/-- A hangup that names two calls. -/
def hangupOf (first second : String) : Event :=
  Event.new "Hangup" [("Uniqueid", first), ("Uniqueid", second)]

/-- Two calls in the other order make the hangup of another call, of the same contents and so of the
same fingerprint, and a tracker that has taken in the one takes the other for a repeat. -/
theorem fingerprint_of_two_calls :
    let one := hangupOf "1.1" "2.2"
    let two := hangupOf "2.2" "1.1"
    let tracker := Tracker.new 1 7 TrackerSettings.default
    two.contents = one.contents ∧ two.fingerprint = one.fingerprint ∧
      one.uniqueId = some "1.1" ∧ two.uniqueId = some "2.2" ∧
      (tracker.after [two]).status "2.2" = .ended .hungUp ∧
      (tracker.after [one, two]).status "2.2" = .new := by
  intro one two tracker
  have same : two.contents = one.contents :=
    contents_eq_iff.mpr ⟨rfl, (List.Perm.swap _ _ _).cons _⟩
  refine ⟨same, congrArg Digest.of same, ?_, ?_, ?_, ?_⟩ <;> decide +kernel

end Event

end Switchboard
