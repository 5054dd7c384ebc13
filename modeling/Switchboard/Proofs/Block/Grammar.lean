/-
**The grammar of blocks.**

Each line of a text is blank, a header (`Line.Keyed`: a colon behind a key that is not blank) or
neither, and a block is an event, a response or malformed by its lines alone: `EventLines` and
`ResponseLines` say when, through the first line under the key `Event` or `Response` and through the
lines that are no headers (`Block.grammar`). Nothing of an event or a response is lost: each line
that is not blank is found in it, once and in its place.
-/

import Switchboard.Proofs.Decoder.RoundTrip

namespace Switchboard

open Text Block

/-! ### Lines -/

namespace Line

/-- Whether a line holds anything but blanks. -/
def Filled (raw : List Char) : Prop := ∃ c ∈ raw, isBlank c = false

/-- Whether a line has a colon behind a key that is not blank. -/
def Keyed (raw : List Char) : Prop :=
  ':' ∈ raw ∧ Filled (raw.takeWhile (· != ':'))

instance : DecidablePred Filled := fun raw => List.decidableBEx (isBlank · = false) raw

instance : DecidablePred Keyed := fun _ => inferInstanceAs (Decidable (_ ∧ _))

/-- What stands before the first colon, trimmed. -/
def key (raw : List Char) : String := String.ofList (trimChars (raw.takeWhile (· != ':')))

/-- What stands behind the first colon, trimmed. -/
def value (raw : List Char) : String := String.ofList (trimChars (raw.dropWhile (· != ':')).tail)

/-- A line without the carriage returns at its end. -/
def content (raw : List Char) : String := String.ofList (dropTrailing (· == '\r') raw)

variable {raw : List Char}

theorem Keyed.filled (keyed : Keyed raw) : Filled raw := by
  obtain ⟨-, c, inside, solid⟩ := keyed
  exact ⟨c, (List.takeWhile_prefix _).subset inside, solid⟩

theorem not_filled_iff : ¬ Filled raw ↔ ∀ c ∈ raw, isBlank c = true := by
  simp [Filled]

theorem trimChars_eq_nil_iff {chars : List Char} :
    trimChars chars = [] ↔ ∀ c ∈ chars, isBlank c = true := by
  obtain ⟨before, after, blankBefore, blankAfter, split⟩ := exists_blanks chars
  constructor
  · intro empty
    rw [empty, List.append_nil] at split
    rw [split]
    exact List.forall_mem_append.mpr ⟨blankBefore, blankAfter⟩
  · intro blank
    have nothing := @append_trimChars chars [] blank
    rwa [List.append_nil] at nothing

theorem at_colon {front : List Char} (colonFree : ':' ∉ front) (behind : List Char) :
    (front ++ ':' :: behind).takeWhile (· != ':') = front ∧
      (front ++ ':' :: behind).dropWhile (· != ':') = ':' :: behind := by
  have inside := ne_colon colonFree
  rw [List.takeWhile_append_of_pos inside, List.dropWhile_append_of_pos inside]
  exact ⟨List.append_nil front, rfl⟩

/-- A line with a colon, of which `behind` is left without the carriage returns at its end. -/
theorem ofChars_colon {front behind : List Char} (colonFree : ':' ∉ front)
    (left : dropTrailing (· == '\r') raw = front ++ ':' :: behind) :
    ofChars raw =
      if trimChars front = [] then .loose (content raw)
      else .header (String.ofList (trimChars front)) (String.ofList (trimChars behind)) := by
  obtain ⟨before, after⟩ := at_colon colonFree behind
  have filled : ¬ (front ++ ':' :: behind).all isBlank = true := by
    intro blank
    have colon := List.all_eq_true.mp blank ':' (List.mem_append_right _ List.mem_cons_self)
    exact absurd colon (by decide)
  unfold ofChars content
  rw [left]
  dsimp only
  rw [if_neg filled, before, after]
  simp only [List.isEmpty_iff]

theorem ofChars_no_colon (colonFree : ':' ∉ dropTrailing (· == '\r') raw) :
    ofChars raw =
      if (dropTrailing (· == '\r') raw).all isBlank = true then .blank
      else .loose (content raw) := by
  have nothing : (dropTrailing (· == '\r') raw).dropWhile (· != ':') = [] :=
    List.dropWhile_eq_nil_iff.mpr (ne_colon colonFree)
  unfold ofChars content
  dsimp only
  rw [nothing]

/-- What a line says, told from the line as it stands, carriage returns and all. -/
theorem ofChars_eq (raw : List Char) :
    ofChars raw =
      if Keyed raw then .header (key raw) (value raw)
      else if Filled raw then .loose (content raw)
      else .blank := by
  obtain ⟨returns, areCr, split⟩ := exists_trailing (· == '\r') raw
  have blank : ∀ c ∈ returns, isBlank c = true := fun c inside => isBlank_of_isCr (areCr c inside)
  by_cases colon : ':' ∈ dropTrailing (· == '\r') raw
  · obtain ⟨front, behind, left, colonFree⟩ := List.eq_append_cons_of_mem colon
    rw [left, List.append_assoc, List.cons_append] at split
    obtain ⟨before, after⟩ := at_colon colonFree (behind ++ returns)
    have here : ':' ∈ raw := split ▸ List.mem_append_right _ List.mem_cons_self
    have filled : Filled raw := ⟨':', here, by decide⟩
    have keyed : Keyed raw ↔ ¬ trimChars front = [] := by
      unfold Keyed
      rw [split, before, ← split, trimChars_eq_nil_iff, ← not_filled_iff, not_not]
      exact and_iff_right here
    have named : key raw = String.ofList (trimChars front) := by
      unfold key
      rw [split, before]
    have valued : value raw = String.ofList (trimChars behind) := by
      unfold value
      rw [split, after, List.tail_cons, trimChars_append blank]
    rw [ofChars_colon colonFree left, if_pos filled, named, valued]
    simp only [keyed, ite_not]
  · have colonFree : ':' ∉ raw := fun inside => colon (mem_dropTrailing inside rfl)
    have unkeyed : ¬ Keyed raw := fun keyed => colonFree keyed.1
    have filled : (dropTrailing (· == '\r') raw).all isBlank = true ↔ ¬ Filled raw := by
      rw [not_filled_iff, List.all_eq_true]
      conv_rhs => rw [split, List.forall_mem_append]
      exact (and_iff_left blank).symm
    rw [ofChars_no_colon colon, if_neg unkeyed]
    simp only [filled, ite_not]

/-- Whether a line is a header with this key, in any case. -/
def Under (name : String) (raw : List Char) : Prop := Keyed raw ∧ sameName (key raw) name = true

instance (name : String) : DecidablePred (Under name) :=
  fun _ => inferInstanceAs (Decidable (_ ∧ _))

/-- The value of the first header with this key. -/
def firstValue (name : String) (lines : List (List Char)) : Option String :=
  (lines.find? fun line => Under name line).map value

theorem splitLines_eq_splitOn (text : List Char) : splitLines text = text.splitOn '\n' := by
  by_cases ended : '\n' ∈ text
  · obtain ⟨line, rest, rfl, unended⟩ := List.eq_append_cons_of_mem ended
    rw [splitLines_append unended, List.splitOn_append_cons_self_of_not_mem unended,
      splitLines_eq_splitOn rest]
  · rw [splitLines_of_not_mem ended, List.splitOn_eq_singleton ended]
termination_by text.length
decreasing_by
  subst_vars
  rw [List.length_append, List.length_cons]
  omega

end Line

/-! ### The lines of a block -/

namespace Block

open Line

/-- The headers of a block, in order. -/
theorem pairs_ofLines (lines : List (List Char)) :
    (ofLines (lines.map Line.ofChars)).headers.pairs =
      (lines.filter fun line => Keyed line).map fun line => (key line, value line) := by
  unfold ofLines
  induction lines with
  | nil => rfl
  | cons line rest ih =>
    rw [List.map_cons, ofChars_eq line]
    by_cases keyed : Keyed line
    · rw [if_pos keyed, List.filter_cons_of_pos (by simpa using keyed), List.map_cons, ← ih]
      rfl
    · rw [if_neg keyed, List.filter_cons_of_neg (by simpa using keyed), ← ih]
      split <;> rfl

/-- The other lines of a block that are not blank, in order. -/
theorem loose_ofLines (lines : List (List Char)) :
    (ofLines (lines.map Line.ofChars)).loose =
      (lines.filter fun line => Filled line ∧ ¬ Keyed line).map content := by
  unfold ofLines
  induction lines with
  | nil => rfl
  | cons line rest ih =>
    rw [List.map_cons, ofChars_eq line]
    by_cases keyed : Keyed line
    · rw [if_pos keyed, List.filter_cons_of_neg (by simp [keyed]), ← ih]
      rfl
    · rw [if_neg keyed]
      by_cases filled : Filled line
      · rw [if_pos filled, List.filter_cons_of_pos (by simp [keyed, filled]), List.map_cons, ← ih]
        rfl
      · rw [if_neg filled, List.filter_cons_of_neg (by simp [filled]), ← ih]
        rfl

theorem loose_ofLines_eq_nil_iff {lines : List (List Char)} :
    (ofLines (lines.map Line.ofChars)).loose = [] ↔ ∀ line ∈ lines, Filled line → Keyed line := by
  rw [loose_ofLines, List.map_eq_nil_iff, List.filter_eq_nil_iff]
  simp

/-- Each line that is not blank is a header or is loose, and not both. -/
theorem length_ofLines (lines : List (List Char)) :
    (ofLines (lines.map Line.ofChars)).headers.size +
        (ofLines (lines.map Line.ofChars)).loose.length =
      (lines.filter fun line => Filled line).length := by
  unfold Headers.size
  rw [pairs_ofLines, loose_ofLines, List.length_map, List.length_map]
  induction lines with
  | nil => rfl
  | cons line rest ih =>
    by_cases keyed : Keyed line
    · simp only [List.filter_cons, keyed, keyed.filled, not_true_eq_false, and_false,
        decide_true, decide_false, if_true, if_false, Bool.false_eq_true, List.length_cons]
      omega
    · by_cases filled : Filled line
      · simp only [List.filter_cons, keyed, filled, not_false_eq_true, and_self, decide_true,
          decide_false, if_true, if_false, Bool.false_eq_true, List.length_cons]
        omega
      · simp only [List.filter_cons, keyed, filled, false_and, decide_false, if_false,
          Bool.false_eq_true]
        exact ih

theorem get_ofLines (name : String) (lines : List (List Char)) :
    (ofLines (lines.map Line.ofChars)).headers.get name = firstValue name lines := by
  unfold Headers.get firstValue
  rw [pairs_ofLines]
  induction lines with
  | nil => rfl
  | cons line rest ih =>
    by_cases keyed : Keyed line
    · rw [List.filter_cons_of_pos (by simpa using keyed), List.map_cons, Headers.find?, ih,
        List.find?_cons]
      cases same : sameName (key line) name <;> simp [Under, keyed, same]
    · rw [List.filter_cons_of_neg (by simpa using keyed), ih, List.find?_cons_of_neg]
      simp [Under, keyed]

theorem firstValue_eq_none_iff {name : String} {lines : List (List Char)} :
    firstValue name lines = none ↔ ∀ line ∈ lines, ¬ Under name line := by
  unfold firstValue
  rw [Option.map_eq_none_iff, List.find?_eq_none]
  simp

end Block

/-! ### What a block is -/

/-- Whether lines are those of an event: the first `Event` value is not blank, and each line that is
not blank is a header. -/
structure EventLines (lines : List (List Char)) : Prop where
  named : ∃ name, Line.firstValue Event.key lines = some name ∧ isBlankText name = false
  keyed : ∀ line ∈ lines, Line.Filled line → Line.Keyed line

/-- Whether lines are those of a response: there is no `Event` line but a `Response` line, and the
first says `Follows` or each line that is not blank is a header. -/
structure ResponseLines (lines : List (List Char)) : Prop where
  noEvent : ∀ line ∈ lines, ¬ Line.Under Event.key line
  answers : ∃ value, Line.firstValue Response.key lines = some value ∧
    (sameName value Frame.followsStatus = true ∨
      ∀ line ∈ lines, Line.Filled line → Line.Keyed line)

namespace Frame

variable {block : Block} {lines : List (List Char)}

theorem ofBlock_of_event {name : String} (found : block.headers.get Event.key = some name) :
    ofBlock block = ofEventBlock block := by
  unfold ofBlock Headers.contains
  rw [found]
  exact if_pos rfl

theorem ofBlock_of_noEvent (noEvent : block.headers.get Event.key = none) :
    ofBlock block =
      match block.headers.get Response.key with
      | some value => ofResponseBlock block value
      | none => .malformed (.neither (block.headers.size + block.loose.length)) := by
  unfold ofBlock Headers.contains
  rw [noEvent]
  exact if_neg Bool.false_ne_true

theorem ofEventBlock_cases {name : String} (found : block.headers.get Event.key = some name) :
    (isBlankText name = false ∧ block.loose = [] ∧ ∃ report, ofEventBlock block = .event report) ∨
      (¬ (isBlankText name = false ∧ block.loose = []) ∧
        ∃ fault, fault ≠ .statuslessResponse ∧ ofEventBlock block = .malformed fault) := by
  unfold ofEventBlock Event.ofHeaders? Headers.getNonBlank nonBlank?
  rw [found, Option.bind_some]
  cases loose : block.loose with
  | cons line rest =>
    refine .inr ⟨fun empty => ?_, .looseLineInEvent line, nofun, rfl⟩
    cases empty.2
  | nil =>
    cases blank : isBlankText name with
    | true =>
      refine .inr ⟨fun filled => ?_, .unnamedEvent, nofun, rfl⟩
      cases filled.1
    | false => exact .inl ⟨rfl, rfl, _, rfl⟩

theorem ofResponseBlock_cases {value : String}
    (found : block.headers.get Response.key = some value) :
    ((sameName value followsStatus = true ∨ block.loose = []) ∧
        ∃ answer, ofResponseBlock block value = .response answer) ∨
      (¬ (sameName value followsStatus = true ∨ block.loose = []) ∧
        ∃ fault, fault ≠ .statuslessResponse ∧ ofResponseBlock block value = .malformed fault) := by
  unfold ofResponseBlock Response.ofHeaders?
  rw [found]
  cases follows : sameName value followsStatus with
  | true =>
    refine .inl ⟨.inl rfl, ?_⟩
    cases block.loose <;> exact ⟨_, rfl⟩
  | false =>
    cases loose : block.loose with
    | nil => exact .inl ⟨.inr rfl, _, rfl⟩
    | cons line rest =>
      refine .inr ⟨fun either => ?_, .looseLineInResponse line, nofun, rfl⟩
      rcases either with follows | empty
      · cases follows
      · cases empty

/-- What the lines of a block make it, and that nothing else is possible. -/
theorem ofLines_cases (lines : List (List Char)) :
    (EventLines lines ∧
        ∃ report, ofBlock (Block.ofLines (lines.map Line.ofChars)) = .event report) ∨
      (ResponseLines lines ∧
        ∃ answer, ofBlock (Block.ofLines (lines.map Line.ofChars)) = .response answer) ∨
      (¬ EventLines lines ∧ ¬ ResponseLines lines ∧ ∃ fault, fault ≠ .statuslessResponse ∧
        ofBlock (Block.ofLines (lines.map Line.ofChars)) = .malformed fault) := by
  have events := get_ofLines Event.key lines
  have responses := get_ofLines Response.key lines
  have loose := @loose_ofLines_eq_nil_iff lines
  generalize Block.ofLines (lines.map Line.ofChars) = block at events responses loose ⊢
  cases named : Line.firstValue Event.key lines with
  | some name =>
    have noResponse : ¬ ResponseLines lines := by
      intro response
      rw [firstValue_eq_none_iff.mpr response.noEvent] at named
      cases named
    rw [named] at events
    rw [ofBlock_of_event events]
    rcases ofEventBlock_cases events with ⟨filled, empty, event⟩ | ⟨refused, fault⟩
    · exact .inl ⟨⟨⟨name, named, filled⟩, loose.mp empty⟩, event⟩
    · refine .inr (.inr ⟨fun event => refused ?_, noResponse, fault⟩)
      obtain ⟨⟨name', named', filled⟩, keyed⟩ := event
      rw [named] at named'
      cases named'
      exact ⟨filled, loose.mpr keyed⟩
  | none =>
    have noEvent : ¬ EventLines lines := by
      rintro ⟨⟨name, named', -⟩, -⟩
      rw [named] at named'
      cases named'
    rw [named] at events
    rw [ofBlock_of_noEvent events, responses]
    cases answers : Line.firstValue Response.key lines with
    | none =>
      refine .inr (.inr ⟨noEvent, ?_, .neither _, nofun, rfl⟩)
      rintro ⟨-, value, answers', -⟩
      rw [answers] at answers'
      cases answers'
    | some value =>
      rw [answers] at responses
      rcases ofResponseBlock_cases responses with ⟨accepted, response⟩ | ⟨refused, fault⟩
      · refine .inr (.inl ⟨⟨firstValue_eq_none_iff.mp named, value, answers, ?_⟩, response⟩)
        exact accepted.imp_right loose.mp
      · refine .inr (.inr ⟨noEvent, fun response => refused ?_, fault⟩)
        obtain ⟨-, value', answers', accepted⟩ := response
        rw [answers] at answers'
        cases answers'
        exact accepted.imp_right loose.mpr

theorem not_responseLines (event : EventLines lines) : ¬ ResponseLines lines := by
  intro response
  obtain ⟨name, named, -⟩ := event.named
  rw [firstValue_eq_none_iff.mpr response.noEvent] at named
  cases named

theorem ofBytes_encode (text : List Char) :
    ofBytes (Utf8.encode text) =
      ofBlock (Block.ofLines ((text.splitOn '\n').map Line.ofChars)) := by
  unfold ofBytes Block.ofChars
  rw [Utf8.decode_encode, ← Line.splitLines_eq_splitOn]

theorem ofBytes_of_not_text {bytes : List UInt8} (noText : ∀ text, bytes ≠ Utf8.encode text) :
    ∃ fault, ofBytes bytes = .malformed (.notText fault) := by
  unfold ofBytes
  cases decodes : Utf8.decode bytes with
  | error fault => exact ⟨fault, rfl⟩
  | ok text => exact absurd (Utf8.decode_eq_ok_iff.mp decodes) (noText text)

/-- What bytes spell: an event, a response, or a fault, which is never that a response has no
status. -/
theorem ofBytes_cases (bytes : List UInt8) :
    (∃ text, bytes = Utf8.encode text ∧ EventLines (text.splitOn '\n') ∧
        ∃ report, ofBytes bytes = .event report) ∨
      (∃ text, bytes = Utf8.encode text ∧ ResponseLines (text.splitOn '\n') ∧
        ∃ answer, ofBytes bytes = .response answer) ∨
      ((∀ text, bytes = Utf8.encode text →
          ¬ EventLines (text.splitOn '\n') ∧ ¬ ResponseLines (text.splitOn '\n')) ∧
        ∃ fault, fault ≠ .statuslessResponse ∧ ofBytes bytes = .malformed fault) := by
  by_cases isText : ∃ text, bytes = Utf8.encode text
  · obtain ⟨text, rfl⟩ := isText
    rw [ofBytes_encode]
    rcases ofLines_cases (text.splitOn '\n') with event | response | ⟨noEvent, noResponse, fault⟩
    · exact .inl ⟨text, rfl, event⟩
    · exact .inr (.inl ⟨text, rfl, response⟩)
    · refine .inr (.inr ⟨fun other same => ?_, fault⟩)
      rw [← Utf8.encode_injective same]
      exact ⟨noEvent, noResponse⟩
  · obtain ⟨fault, spells⟩ := ofBytes_of_not_text fun text same => isText ⟨text, same⟩
    exact .inr (.inr ⟨fun text same => absurd ⟨text, same⟩ isText, .notText fault, nofun, spells⟩)

section Classes

variable {bytes : List UInt8} {text : List Char}

theorem event_iff :
    (∃ report, ofBytes bytes = .event report) ↔
      ∃ text, bytes = Utf8.encode text ∧ EventLines (text.splitOn '\n') := by
  rcases ofBytes_cases bytes with
    ⟨text, same, event, spells⟩ | ⟨text, rfl, response, answer, spells⟩ |
      ⟨neither, fault, -, spells⟩
  · exact iff_of_true spells ⟨text, same, event⟩
  · refine iff_of_false ?_ ?_
    · simp [spells]
    · rintro ⟨other, same, event⟩
      rw [← Utf8.encode_injective same] at event
      exact not_responseLines event response
  · refine iff_of_false ?_ ?_
    · simp [spells]
    · rintro ⟨text, same, event⟩
      exact (neither text same).1 event

theorem response_iff :
    (∃ answer, ofBytes bytes = .response answer) ↔
      ∃ text, bytes = Utf8.encode text ∧ ResponseLines (text.splitOn '\n') := by
  rcases ofBytes_cases bytes with
    ⟨text, rfl, event, report, spells⟩ | ⟨text, same, response, spells⟩ |
      ⟨neither, fault, -, spells⟩
  · refine iff_of_false ?_ ?_
    · simp [spells]
    · rintro ⟨other, same, response⟩
      rw [← Utf8.encode_injective same] at response
      exact not_responseLines event response
  · exact iff_of_true spells ⟨text, same, response⟩
  · refine iff_of_false ?_ ?_
    · simp [spells]
    · rintro ⟨text, same, response⟩
      exact (neither text same).2 response

theorem malformed_iff :
    (∃ fault, ofBytes bytes = .malformed fault) ↔
      ∀ text, bytes = Utf8.encode text →
        ¬ EventLines (text.splitOn '\n') ∧ ¬ ResponseLines (text.splitOn '\n') := by
  rcases ofBytes_cases bytes with
    ⟨text, same, event, report, spells⟩ | ⟨text, same, response, answer, spells⟩ |
      ⟨neither, fault, -, spells⟩
  · exact iff_of_false (by simp [spells]) fun neither => (neither text same).1 event
  · exact iff_of_false (by simp [spells]) fun neither => (neither text same).2 response
  · exact iff_of_true ⟨fault, spells⟩ neither

theorem ne_statuslessResponse (bytes : List UInt8) :
    ofBytes bytes ≠ .malformed .statuslessResponse := by
  rcases ofBytes_cases bytes with
    ⟨-, -, -, report, spells⟩ | ⟨-, -, -, answer, spells⟩ | ⟨-, fault, other, spells⟩
  · simp [spells]
  · simp [spells]
  · simp [spells, other]

/-- An event or a response holds all that its lines say, each in its order. -/
theorem kept_of_headers? {headers : Headers}
    (holds : (ofBytes (Utf8.encode text)).headers? = some headers) :
    headers.pairs =
        ((text.splitOn '\n').filter fun line => Line.Keyed line).map
          (fun line => (Line.key line, Line.value line)) ∧
      (ofBytes (Utf8.encode text)).output =
        ((text.splitOn '\n').filter fun line => Line.Filled line ∧ ¬ Line.Keyed line).map
          Line.content ∧
      headers.size + (ofBytes (Utf8.encode text)).output.length =
        ((text.splitOn '\n').filter fun line => Line.Filled line).length := by
  have block : Block.ofLines ((text.splitOn '\n').map Line.ofChars) =
      ⟨headers, (ofBytes (Utf8.encode text)).output⟩ := by
    rw [ofBytes_encode] at holds ⊢
    exact block_of_headers? holds
  have pairs := pairs_ofLines (text.splitOn '\n')
  have loose := loose_ofLines (text.splitOn '\n')
  have length := length_ofLines (text.splitOn '\n')
  rw [block] at pairs loose length
  exact ⟨pairs, loose, length⟩

end Classes

/-- Whether the bytes of a block are an event, a response or malformed, in terms of the lines of
their text, and what the frame keeps of these: the headers in their order and, of a response, the
other lines in theirs, so that each line that is not blank is there once. A response without a
status is never reported. -/
theorem block_grammar (bytes : List UInt8) :
    ((∃ report, ofBytes bytes = .event report) ↔
        ∃ text, bytes = Utf8.encode text ∧ EventLines (text.splitOn '\n')) ∧
      ((∃ answer, ofBytes bytes = .response answer) ↔
        ∃ text, bytes = Utf8.encode text ∧ ResponseLines (text.splitOn '\n')) ∧
      ((∃ fault, ofBytes bytes = .malformed fault) ↔
        ∀ text, bytes = Utf8.encode text →
          ¬ EventLines (text.splitOn '\n') ∧ ¬ ResponseLines (text.splitOn '\n')) ∧
      ofBytes bytes ≠ .malformed .statuslessResponse ∧
      ∀ (text : List Char) (headers : Headers), bytes = Utf8.encode text →
        (ofBytes bytes).headers? = some headers →
          headers.pairs =
              ((text.splitOn '\n').filter fun line => Line.Keyed line).map
                (fun line => (Line.key line, Line.value line)) ∧
            (ofBytes bytes).output =
              ((text.splitOn '\n').filter fun line =>
                Line.Filled line ∧ ¬ Line.Keyed line).map Line.content ∧
            headers.size + (ofBytes bytes).output.length =
              ((text.splitOn '\n').filter fun line => Line.Filled line).length := by
  refine ⟨event_iff, response_iff, malformed_iff, ne_statuslessResponse bytes, ?_⟩
  rintro text headers rfl holds
  exact kept_of_headers? holds

/-- The output of a command between headers: one line of it has no colon, and one has nothing before
its colon. -/
def commandOutput : List Char :=
  "Response:Follows\r\n  up 3 days\r\r\n : no key\r\nKey : a:b \r\n\r\n".toList

theorem block_grammar_commandOutput :
    ResponseLines (commandOutput.splitOn '\n') ∧
      (ofBytes (Utf8.encode commandOutput)).headers? =
        some ⟨[("Response", "Follows"), ("Key", "a:b")]⟩ ∧
      (ofBytes (Utf8.encode commandOutput)).output = ["  up 3 days", " : no key"] := by
  obtain ⟨-, response, -, -, kept⟩ := block_grammar (Utf8.encode commandOutput)
  have spells : ofBytes (Utf8.encode commandOutput) = .response
      { succeeded := true, status := "Follows", message := none, actionId := none
        attributes := ⟨[("Response", "Follows"), ("Key", "a:b")]⟩
        output := ["  up 3 days", " : no key"] } := by decide +kernel
  have loose : ((commandOutput.splitOn '\n').filter fun line =>
      Line.Filled line ∧ ¬ Line.Keyed line).map Line.content = ["  up 3 days", " : no key"] := by
    decide +kernel
  have holds := congrArg headers? spells
  obtain ⟨other, same, lines⟩ := response.mp ⟨_, spells⟩
  rw [← Utf8.encode_injective same] at lines
  obtain ⟨-, output, -⟩ := kept commandOutput _ rfl holds
  exact ⟨lines, holds, output.trans loose⟩

end Frame

end Switchboard
