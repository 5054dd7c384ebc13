/-
**Rendering a template is one substitution, made from left to right.**

`substitute` goes through the bytes of a template: it looks for the placeholder that begins next, of
either form, takes over what stands in front of it, writes the destination, and goes on behind the
placeholder. Every place at which it takes the bytes apart is one between two characters, and what
it takes over are the segments of the template's cut (`exists_cut_substitute`). So it comes to the
text that rendering gives (`render_substitutes`).
-/

import Mathlib.Data.List.MinMax
import Switchboard.Config.Violation
import Switchboard.Proofs.Originate.Template
import Switchboard.Proofs.Text.Utf8

namespace Switchboard.Template

open Text

/-! ### The next placeholder -/

/-- Where a pattern begins for the first time. -/
def firstAt? (pattern bytes : List UInt8) : Option Nat :=
  bytes.tails.findIdx? pattern.isPrefixOf

/-- Where the next placeholder begins, and how many bytes it has. -/
def nearest? (bytes : List UInt8) : Option (Nat × Nat) :=
  (marks.filterMap fun mark =>
    (firstAt? (Utf8.bytesOf mark) bytes).map fun index =>
      (index, (Utf8.bytesOf mark).length)).argmin Prod.fst

section Search

variable {pattern bytes : List UInt8} {index size : Nat}

theorem firstAt?_eq_some_iff :
    firstAt? pattern bytes = some index ↔
      index ≤ bytes.length ∧ pattern <+: bytes.drop index ∧
        ∀ earlier < index, ¬ pattern <+: bytes.drop earlier := by
  unfold firstAt?
  rw [List.findIdx?_eq_some_iff_getElem]
  simp only [List.getElem_tails, List.isPrefixOf_iff_prefix, List.length_tails, Nat.lt_succ_iff,
    exists_prop]

theorem firstAt?_eq_none_iff :
    firstAt? pattern bytes = none ↔ ∀ index, ¬ pattern <+: bytes.drop index := by
  unfold firstAt?
  rw [List.findIdx?_eq_none_iff]
  simp only [List.mem_tails, ← Bool.not_eq_true, List.isPrefixOf_iff_prefix]
  exact ⟨fun none index => none _ (List.drop_suffix _ _), fun none tail behind =>
    List.suffix_iff_eq_drop.mp behind ▸ none _⟩

/-- No placeholder is found exactly when none begins anywhere. -/
theorem nearest?_eq_none_iff :
    nearest? bytes = none ↔
      ∀ mark ∈ marks, ∀ index, ¬ Utf8.bytesOf mark <+: bytes.drop index := by
  unfold nearest?
  rw [List.argmin_eq_none, List.filterMap_eq_nil_iff]
  simp only [Option.map_eq_none_iff, firstAt?_eq_none_iff]

/-- No placeholder begins in front of the one that is found. -/
theorem nearest?_first (found : nearest? bytes = some (index, size)) :
    ∃ mark ∈ marks, size = (Utf8.bytesOf mark).length ∧ Utf8.bytesOf mark <+: bytes.drop index ∧
      ∀ other ∈ marks, ∀ earlier < index, ¬ Utf8.bytesOf other <+: bytes.drop earlier := by
  obtain ⟨mark, form, is⟩ := List.mem_filterMap.mp (List.argmin_mem found)
  obtain ⟨first, here, same⟩ := Option.map_eq_some_iff.mp is
  cases same
  refine ⟨mark, form, rfl, (firstAt?_eq_some_iff.mp here).2.1, ?_⟩
  intro other form' earlier before begins
  cases there : firstAt? (Utf8.bytesOf other) bytes with
  | none => exact firstAt?_eq_none_iff.mp there _ begins
  | some first =>
    have notLater : first ≤ earlier := by
      by_contra later
      exact (firstAt?_eq_some_iff.mp there).2.2 _ (not_le.mp later) begins
    have candidate : (first, (Utf8.bytesOf other).length) ∈ marks.filterMap fun mark =>
        (firstAt? (Utf8.bytesOf mark) bytes).map fun index =>
          (index, (Utf8.bytesOf mark).length) :=
      List.mem_filterMap.mpr ⟨other, form', congrArg (Option.map _) there⟩
    have least : index ≤ first := List.le_of_mem_argmin candidate found
    omega

theorem mark_ascii {mark : String} (form : mark ∈ marks) : ∀ c ∈ mark.toList, c.toNat < 0x80 := by
  have small : (marks.all fun mark => mark.toList.all fun c => c.toNat < 0x80) = true := by decide
  simpa using List.all_eq_true.mp small mark form

theorem bytesOf_mark_ne_nil {mark : String} (form : mark ∈ marks) : Utf8.bytesOf mark ≠ [] :=
  fun empty => mark_ne_nil form (Utf8.encode_injective empty)

/-- Behind a placeholder less is left. -/
theorem length_drop_lt_of_nearest? (found : nearest? bytes = some (index, size)) :
    (bytes.drop (index + size)).length < bytes.length := by
  obtain ⟨mark, form, rfl, begins, -⟩ := nearest?_first found
  have filled := List.length_pos_of_ne_nil (bytesOf_mark_ne_nil form)
  have fits := begins.length_le
  rw [List.length_drop] at fits ⊢
  omega

end Search

/-! ### From placeholder to placeholder -/

/-- The rest of a template with a destination in place of each placeholder, behind what has been
rendered; nothing comes of it where a place is inside a character. -/
def substitute (destination rendered rest : List UInt8) : Option (List UInt8) :=
  match _found : nearest? rest with
  | none => some (rendered ++ rest)
  | some (index, size) =>
    if Utf8.isBoundary rest index && Utf8.isBoundary rest (index + size) then
      substitute destination (rendered ++ rest.take index ++ destination)
        (rest.drop (index + size))
    else none
termination_by rest.length
decreasing_by exact length_drop_lt_of_nearest? ‹_›

section Substitute

variable {destination rendered rest : List UInt8} {chars : List Char}

theorem substitute_of_none (nothing : nearest? rest = none) :
    substitute destination rendered rest = some (rendered ++ rest) := by
  rw [substitute]
  split
  · rfl
  · next found => exact absurd (nothing.symm.trans found) nofun

theorem substitute_of_some {index size : Nat} (found : nearest? rest = some (index, size))
    (starts : Utf8.isBoundary rest index = true)
    (ends : Utf8.isBoundary rest (index + size) = true) :
    substitute destination rendered rest =
      substitute destination (rendered ++ rest.take index ++ destination)
        (rest.drop (index + size)) := by
  rw [substitute]
  split
  · next nothing => exact absurd (nothing.symm.trans found) nofun
  · next same =>
    cases found.symm.trans same
    rw [starts, ends]
    rfl

/-- A placeholder in a text is one among its bytes. -/
theorem begins_at (front back : List Char) (mark : String) :
    Utf8.bytesOf mark <+:
      (Utf8.encode (front ++ (mark.toList ++ back))).drop (Utf8.encode front).length := by
  rw [Utf8.encode_append, Utf8.encode_append, List.drop_left]
  exact List.prefix_append _ _

theorem bare_of_nearest? (nothing : nearest? (Utf8.encode chars) = none) : Bare chars := by
  rintro mark form ⟨front, back, rfl⟩
  rw [List.append_assoc] at nothing
  exact nearest?_eq_none_iff.mp nothing mark form _ (begins_at front back mark)

/-- **The next placeholder among the bytes is the next one in the text**, and no other stands in
front of it. -/
theorem nearest?_splits {index size : Nat}
    (found : nearest? (Utf8.encode chars) = some (index, size)) :
    ∃ front mark back, chars = front ++ (mark.toList ++ back) ∧ Bare front ∧ mark ∈ marks ∧
      index = (Utf8.encode front).length ∧ size = (Utf8.encode mark.toList).length := by
  obtain ⟨mark, form, rfl, ⟨behind, begins⟩, first⟩ := nearest?_first found
  have bytes : Utf8.encode chars =
      (Utf8.encode chars).take index ++ (Utf8.encode mark.toList ++ behind) := by
    conv_lhs => rw [← List.take_append_drop index (Utf8.encode chars), ← begins]
    rfl
  obtain ⟨front, back, rfl, before, -⟩ :=
    Utf8.exists_split_at_text (mark_ascii form) (mark_ne_nil form) bytes
  have place : index = (Utf8.encode front).length := by
    have filled := List.length_pos_of_ne_nil (bytesOf_mark_ne_nil form)
    have fits := congrArg List.length begins
    rw [List.length_append, List.length_drop] at fits
    rw [before, List.length_take]
    omega
  refine ⟨front, mark, back, rfl, ?_, form, place, rfl⟩
  rintro other form' ⟨left, right, rfl⟩
  refine first other form' (Utf8.encode left).length ?_ ?_
  · have filled := List.length_pos_of_ne_nil (bytesOf_mark_ne_nil form')
    rw [place, Utf8.encode_append, Utf8.encode_append, List.length_append, List.length_append]
    unfold Utf8.bytesOf at filled
    omega
  · simp only [List.append_assoc]
    exact begins_at left _ other

/-- One step of the substitution takes over a segment and goes on behind its placeholder. -/
theorem substitute_step {index size : Nat} {mark : String} {front back : List Char}
    (found : nearest? (Utf8.encode (front ++ (mark.toList ++ back))) = some (index, size))
    (place : index = (Utf8.encode front).length)
    (length : size = (Utf8.encode mark.toList).length) :
    substitute destination rendered (Utf8.encode (front ++ (mark.toList ++ back))) =
      substitute destination (rendered ++ Utf8.encode front ++ destination) (Utf8.encode back) := by
  subst place length
  have behind : (Utf8.encode front).length + (Utf8.encode mark.toList).length =
      (Utf8.encode (front ++ mark.toList)).length := by
    rw [Utf8.encode_append, List.length_append]
  have starts := Utf8.isBoundary_encode front (mark.toList ++ back)
  have ends := Utf8.isBoundary_encode (front ++ mark.toList) back
  rw [← Utf8.encode_append] at starts ends
  rw [List.append_assoc, ← behind] at ends
  rw [substitute_of_some found starts ends, behind, Utf8.encode_append front, List.take_left,
    ← Utf8.encode_append, ← List.append_assoc, Utf8.encode_append (front ++ mark.toList),
    List.drop_left]

/-- **The substitution takes over the segments of a cut.** It ends, takes the bytes apart between
characters only, and comes to the text that is filled in. -/
theorem exists_cut_substitute (chars : List Char) :
    ∃ cut : Cut, cut.Cuts chars ∧ ∀ destination rendered,
      substitute (Utf8.encode destination) rendered (Utf8.encode chars) =
        some (rendered ++ Utf8.encode (cut.filled destination)) := by
  induction size : chars.length using Nat.strong_induction_on generalizing chars with
  | _ size ih =>
    subst size
    cases found : nearest? (Utf8.encode chars) with
    | none =>
      refine ⟨⟨chars, []⟩, Cut.cuts_of_bare (bare_of_nearest? found),
        fun destination rendered => ?_⟩
      rw [substitute_of_none found]
      simp [Cut.filled]
    | some place =>
      obtain ⟨front, mark, back, rfl, bare, form, index, length⟩ := nearest?_splits found
      have shorter : back.length < (front ++ (mark.toList ++ back)).length := by
        have := List.length_pos_of_ne_nil (mark_ne_nil form)
        rw [List.length_append, List.length_append]
        omega
      obtain ⟨⟨second, rest⟩, cuts, fills⟩ := ih _ shorter back rfl
      refine ⟨⟨front, (mark, second) :: rest⟩, Cut.cuts_cons.mpr ⟨bare, form, back, rfl, cuts⟩,
        fun destination rendered => ?_⟩
      rw [substitute_step found index length, fills]
      simp [Cut.filled, Utf8.encode_append]

end Substitute

/-! ### Rendering -/

theorem mem_wrongFields {violation : Config.Violation} {fault : Config.Fault}
    {fields : List (String × Bool)} :
    violation ∈ Config.wrongFields fault fields ↔
      violation.fault = fault ∧ (violation.path, true) ∈ fields := by
  unfold Config.wrongFields
  rw [List.mem_filterMap]
  constructor
  · rintro ⟨⟨path, wrong⟩, member, is⟩
    cases wrong
    · cases is
    · cases is
      exact ⟨rfl, member⟩
  · rintro ⟨rfl, member⟩
    exact ⟨_, member, rfl⟩

/-- The settings of a channel are found wrong for their template exactly when no placeholder stands
in it. -/
theorem mem_channelViolations_iff (channel : ChannelSettings) :
    ⟨"originate_channel_string", .noPlaceholder⟩ ∈ Config.channelViolations channel ↔
      Bare channel.originateTemplate.toList := by
  unfold Config.channelViolations
  simp only [List.mem_append, mem_wrongFields]
  simp [mentionsDestination_eq_false_iff]

/-- **Rendering a template is one substitution.** The template of a channel has one cut. It has no
placeholder exactly when the settings are found wrong for it, which is when rendering fails,
whatever the destination is. Any destination is put between the segments of that one cut, and the
substitution from left to right comes to the same text. -/
theorem render_substitutes (channel : ChannelSettings) :
    let template := channel.originateTemplate
    let rejected := ⟨"originate_channel_string", .noPlaceholder⟩ ∈ Config.channelViolations channel
    (∀ destination, (∃ error, render template destination = .error error) ↔ rejected) ∧
    ∃ cut : Cut, (∀ other : Cut, other.Cuts template.toList ↔ other = cut) ∧
      (cut.rest = [] ↔ rejected) ∧
      (∀ destination, render template destination =
        if cut.rest = [] then
          .error (.validation
            ("channel template '" ++ template ++ "' must contain " ++ placeholder))
        else .ok (String.ofList (cut.filled destination.toList))) ∧
      ∀ destination, substitute (Utf8.bytesOf destination) [] (Utf8.bytesOf template) =
        some (Utf8.encode (cut.filled destination.toList)) := by
  intro template rejected
  obtain ⟨cut, cuts, fills⟩ := exists_cut_substitute template.toList
  have marked : cut.rest = [] ↔ rejected :=
    cuts.rest_eq_nil_iff.trans (mem_channelViolations_iff channel).symm
  refine ⟨fun destination => ?_, cut, fun other => ?_, marked, cuts.render_eq,
    fun destination => fills destination.toList []⟩
  · rw [cuts.render_eq, ← marked]
    split_ifs with bare
    · exact iff_of_true ⟨_, rfl⟩ bare
    · exact iff_of_false nofun bare
  · refine ⟨fun cuts' => cuts'.unique cuts, ?_⟩
    rintro rfl
    exact cuts

-- A placeholder in the destination stays, and a brace before a placeholder is part of a segment.
example : render "\x7bSIP/\x7bdest\x7d/\x7bdestination_number\x7d" "1\x7bdest\x7d" =
    .ok "\x7bSIP/1\x7bdest\x7d/1\x7bdest\x7d" := by decide

end Switchboard.Template
