/-
**A template falls apart at its placeholders in one way.**

A `Cut` of a template is its segments, none of which has a placeholder in it, with a placeholder
between each two. Two placeholders never overlap (`eq_nil_of_begins`), so a template has one cut and
no other (`Cuts.unique`). The segments that rendering finds are those of the cut (`exists_cut`): a
destination is put between them, and not looked at again (`Cuts.render_eq`).
-/

import Mathlib.Data.List.Infix
import Switchboard.Originate.Template

namespace Switchboard.Template

/-! ### Placeholders -/

/-- The two forms of the placeholder. -/
def marks : List String := [placeholder, shortPlaceholder]

/-- Whether no placeholder stands in a text. -/
def Bare (text : List Char) : Prop := ∀ mark ∈ marks, ¬ mark.toList <:+: text

section Marks

variable {text front back : List Char} {mark other : String}

theorem occursIn_iff {pattern : List Char} : occursIn pattern text = true ↔ pattern <:+: text := by
  induction text with
  | nil =>
    rw [occursIn, List.isEmpty_iff, List.infix_nil]
  | cons c rest ih =>
    rw [occursIn, Bool.or_eq_true, ih, List.isPrefixOf_iff_prefix, List.infix_cons_iff]

/-- A template mentions the destination exactly when a placeholder stands in it. -/
theorem mentionsDestination_eq_false_iff (template : String) :
    mentionsDestination template = false ↔ Bare template.toList := by
  unfold mentionsDestination Bare marks
  rw [Bool.or_eq_false_iff, List.forall_mem_cons, List.forall_mem_singleton, ← occursIn_iff,
    ← occursIn_iff, Bool.not_eq_true, Bool.not_eq_true]

theorem Bare.of_infix (bare : Bare text) {part : List Char} (inside : part <:+: text) : Bare part :=
  fun mark form stands => bare mark form (stands.trans inside)

/-- A placeholder begins with a brace, and has no other of that kind. -/
theorem mark_eq (form : mark ∈ marks) :
    ∃ name, mark.toList = '\x7b' :: name ∧ '\x7b' ∉ name := by
  rcases List.mem_cons.mp form with rfl | short
  · exact ⟨_, rfl, by decide⟩
  · rw [List.mem_singleton.mp short]
    exact ⟨_, rfl, by decide⟩

theorem bare_nil : Bare [] := by
  unfold Bare
  decide

theorem mark_ne_nil (form : mark ∈ marks) : mark.toList ≠ [] := by
  obtain ⟨name, chars, -⟩ := mark_eq form
  rw [chars]
  exact List.cons_ne_nil _ _

/-- Neither form begins the other. -/
theorem mark_eq_of_begins (form : mark ∈ marks) (form' : other ∈ marks)
    (begins : mark.toList <+: other.toList) : mark = other := by
  have apart : ∀ mark ∈ marks, ∀ other ∈ marks, mark.toList <+: other.toList → mark = other := by
    decide
  exact apart mark form other form' begins

/-- At one place stands one form. -/
theorem mark_unique (form : mark ∈ marks) (form' : other ∈ marks) (first : mark.toList <+: text)
    (second : other.toList <+: text) : mark = other := by
  rcases List.prefix_or_prefix_of_prefix first second with begins | begins
  · exact mark_eq_of_begins form form' begins
  · exact (mark_eq_of_begins form' form begins).symm

/-- **Placeholders do not overlap.** Where a text without one stands in front of a placeholder, none
begins before that. -/
theorem eq_nil_of_begins (form : mark ∈ marks) (form' : other ∈ marks) (bare : Bare front)
    (begins : other.toList <+: front ++ (mark.toList ++ back)) : front = [] := by
  by_contra filled
  rcases List.prefix_or_prefix_of_prefix begins (List.prefix_append front _) with within | beyond
  · exact bare other form' within.isInfix
  · -- Then the placeholder goes on into the other one, whose brace it would have in its name.
    obtain ⟨tail, split⟩ := beyond
    rw [← split, List.prefix_append_right_inj] at begins
    obtain ⟨c, front, rfl⟩ := List.exists_cons_of_ne_nil filled
    obtain ⟨name, chars, braceFree⟩ := mark_eq form'
    rw [chars, List.cons_append] at split
    obtain ⟨rfl, inName⟩ := List.cons.inj split
    cases tail with
    | nil =>
      rw [List.append_nil] at inName
      subst inName
      exact bare other form' (chars ▸ List.infix_refl _)
    | cons c tail =>
      obtain ⟨own, chars', -⟩ := mark_eq form
      rw [chars', List.cons_append, List.cons_prefix_cons] at begins
      refine braceFree ?_
      rw [← inName, begins.1]
      exact List.mem_append_right _ List.mem_cons_self

/-- A text is cut at its first placeholder in one way. -/
theorem first_unique (form : mark ∈ marks) (form' : other ∈ marks) {front' back' : List Char}
    (bare : Bare front) (bare' : Bare front')
    (same : front ++ (mark.toList ++ back) = front' ++ (other.toList ++ back')) :
    front = front' ∧ mark = other ∧ back = back' := by
  have sameFront : front = front' := by
    rcases List.append_eq_append_iff.mp same with ⟨more, rfl, later⟩ | ⟨more, rfl, later⟩
    · have bareMore := bare'.of_infix (List.suffix_append front more).isInfix
      rw [eq_nil_of_begins form' form bareMore (later ▸ List.prefix_append _ _), List.append_nil]
    · have bareMore := bare.of_infix (List.suffix_append front' more).isInfix
      rw [eq_nil_of_begins form form' bareMore (later ▸ List.prefix_append _ _), List.append_nil]
  subst sameFront
  have sameRest := List.append_cancel_left same
  have sameMark : mark = other :=
    mark_unique form form' (sameRest ▸ List.prefix_append _ _) (List.prefix_append _ back')
  subst sameMark
  exact ⟨rfl, rfl, List.append_cancel_left sameRest⟩

theorem placeholderAt?_eq_none_iff :
    placeholderAt? text = none ↔ ∀ mark ∈ marks, ¬ mark.toList <+: text := by
  unfold placeholderAt? marks
  rw [List.forall_mem_cons, List.forall_mem_singleton, ← List.isPrefixOf_iff_prefix,
    ← List.isPrefixOf_iff_prefix]
  split <;> simp_all

theorem placeholderAt?_of_begins (form : mark ∈ marks) (begins : mark.toList <+: text) :
    placeholderAt? text = some mark.length := by
  have same {other : String} (form' : other ∈ marks)
      (begins' : other.toList.isPrefixOf text = true) : other = mark :=
    mark_unique form' form (List.isPrefixOf_iff_prefix.mp begins') begins
  unfold placeholderAt?
  split_ifs with long short
  · rw [same List.mem_cons_self long]
  · rw [same (List.mem_cons_of_mem _ List.mem_cons_self) short]
  · rcases List.mem_cons.mp form with rfl | isShort
    · exact absurd (List.isPrefixOf_iff_prefix.mpr begins) long
    · rw [List.mem_singleton.mp isShort] at begins
      exact absurd (List.isPrefixOf_iff_prefix.mpr begins) short

end Marks

/-! ### Cuts -/

/-- The segments of a template, each but the first behind the placeholder in front of it. -/
structure Cut where
  first : List Char
  rest : List (String × List Char)
  deriving DecidableEq, Repr

namespace Cut

/-- The texts between the placeholders. -/
def segments (cut : Cut) : List (List Char) :=
  cut.first :: cut.rest.map Prod.snd

/-- The template. -/
def text (cut : Cut) : List Char :=
  cut.first ++ cut.rest.flatMap fun part => part.1.toList ++ part.2

/-- The segments with a destination between each two. -/
def filled (cut : Cut) (destination : List Char) : List Char :=
  cut.first ++ cut.rest.flatMap fun part => destination ++ part.2

/-- Whether a template falls apart in this way. -/
structure Cuts (cut : Cut) (template : List Char) : Prop where
  whole : cut.text = template
  marked : ∀ part ∈ cut.rest, part.1 ∈ marks
  bare : ∀ segment ∈ cut.segments, Bare segment

variable {cut : Cut} {template : List Char} {mark : String}

theorem filled_eq (cut : Cut) (destination : List Char) :
    cut.filled destination = destination.intercalate cut.segments := by
  obtain ⟨first, rest⟩ := cut
  unfold filled segments
  dsimp only
  induction rest generalizing first with
  | nil => simp
  | cons part rest ih =>
    rw [List.map_cons, List.intercalate_cons_cons, ← ih, List.flatMap_cons, List.append_assoc,
      List.append_assoc]

theorem text_cons (first second : List Char) (mark : String) (rest : List (String × List Char)) :
    text ⟨first, (mark, second) :: rest⟩ = first ++ (mark.toList ++ text ⟨second, rest⟩) := by
  simp [text]

/-- A template without a placeholder is one segment. -/
theorem cuts_of_bare (bare : Bare template) : Cuts ⟨template, []⟩ template :=
  ⟨List.append_nil _, nofun, List.forall_mem_singleton.mpr bare⟩

/-- A template is cut at its first placeholder, and then what is behind that. -/
theorem cuts_cons {first second : List Char} {rest : List (String × List Char)} :
    Cuts ⟨first, (mark, second) :: rest⟩ template ↔
      Bare first ∧ mark ∈ marks ∧ ∃ behind, template = first ++ (mark.toList ++ behind) ∧
        Cuts ⟨second, rest⟩ behind := by
  constructor
  · intro cuts
    obtain ⟨form, marked⟩ := List.forall_mem_cons.mp cuts.marked
    obtain ⟨bare, others⟩ := List.forall_mem_cons.mp cuts.bare
    exact ⟨bare, form, _, cuts.whole.symm.trans (text_cons _ _ _ _), rfl, marked, others⟩
  · rintro ⟨bare, form, behind, rfl, cuts⟩
    refine ⟨?_, List.forall_mem_cons.mpr ⟨form, cuts.marked⟩,
      List.forall_mem_cons.mpr ⟨bare, cuts.bare⟩⟩
    rw [text_cons, cuts.whole]

/-- A character at which no placeholder begins is one more of the first segment. -/
theorem Cuts.cons {c : Char} {first : List Char} {parts : List (String × List Char)}
    (cuts : Cuts ⟨first, parts⟩ template)
    (none : ∀ mark ∈ marks, ¬ mark.toList <+: c :: template) :
    Cuts ⟨c :: first, parts⟩ (c :: template) where
  whole := congrArg (c :: ·) cuts.whole
  marked := cuts.marked
  bare := by
    obtain ⟨bare, others⟩ := List.forall_mem_cons.mp cuts.bare
    refine List.forall_mem_cons.mpr ⟨fun mark form inside => ?_, others⟩
    rcases List.infix_cons_iff.mp inside with here | later
    · have first : c :: first <+: c :: template :=
        ⟨_, congrArg (c :: ·) cuts.whole⟩
      exact none mark form (here.trans first)
    · exact bare mark form later

/-- A cut has no placeholder exactly when the template has none. -/
theorem Cuts.rest_eq_nil_iff (cuts : cut.Cuts template) : cut.rest = [] ↔ Bare template := by
  obtain ⟨first, rest⟩ := cut
  cases rest with
  | nil =>
    refine iff_of_true rfl ?_
    rw [← cuts.whole, text, List.flatMap_nil, List.append_nil]
    exact cuts.bare first List.mem_cons_self
  | cons part rest =>
    obtain ⟨-, form, behind, rfl, -⟩ := cuts_cons.mp cuts
    refine iff_of_false (List.cons_ne_nil _ _) fun bare => bare part.1 form ?_
    exact ⟨first, behind, List.append_assoc _ _ _⟩

/-- **A template has one cut.** The first segments of two cuts are equally long, because no
placeholder begins before the first of the other cut; so the first placeholders are the same. -/
theorem Cuts.unique {other : Cut} (cuts : cut.Cuts template) (cuts' : other.Cuts template) :
    cut = other := by
  obtain ⟨first, rest⟩ := cut
  induction rest generalizing first other template with
  | nil =>
    have none : other.rest = [] := cuts'.rest_eq_nil_iff.mpr (cuts.rest_eq_nil_iff.mp rfl)
    obtain ⟨first', rest'⟩ := other
    cases none
    have same := cuts.whole.trans cuts'.whole.symm
    simp only [text, List.flatMap_nil, List.append_nil] at same
    rw [same]
  | cons part rest ih =>
    obtain ⟨first', rest'⟩ := other
    cases rest' with
    | nil => exact absurd (cuts.rest_eq_nil_iff.mpr (cuts'.rest_eq_nil_iff.mp rfl)) nofun
    | cons part' rest' =>
      obtain ⟨mark, second⟩ := part
      obtain ⟨mark', second'⟩ := part'
      obtain ⟨bare, form, behind, split, cuts⟩ := cuts_cons.mp cuts
      obtain ⟨bare', form', behind', split', cuts'⟩ := cuts_cons.mp cuts'
      obtain ⟨rfl, rfl, rfl⟩ := first_unique form form' bare bare' (split.symm.trans split')
      cases ih cuts' second cuts
      rfl

/-! ### Rendering -/

theorem segmentsFrom_skip (segment skipped rest : List Char) :
    segmentsFrom skipped.length segment (skipped ++ rest) = segmentsFrom 0 segment rest := by
  induction skipped with
  | nil => rfl
  | cons c skipped ih => exact ih

/-- At a placeholder the present segment ends, and the next one begins behind it. -/
theorem segmentsFrom_mark (form : mark ∈ marks) (segment rest : List Char) :
    segmentsFrom 0 segment (mark.toList ++ rest) =
      segment.reverse :: segmentsFrom 0 [] rest := by
  have found := placeholderAt?_of_begins form (List.prefix_append mark.toList rest)
  rw [← String.length_toList] at found
  obtain ⟨name, chars, -⟩ := mark_eq form
  rw [chars, List.cons_append] at found ⊢
  rw [segmentsFrom, found]
  exact congrArg (segment.reverse :: ·) (segmentsFrom_skip [] name rest)

/-- A character at which no placeholder begins is one more of the present segment. -/
theorem segmentsFrom_of_none {c : Char} {rest : List Char}
    (none : placeholderAt? (c :: rest) = none) (segment : List Char) :
    segmentsFrom 0 segment (c :: rest) = segmentsFrom 0 (c :: segment) rest := by
  rw [segmentsFrom, none]

/-- **The segments that are found are those of a cut.** -/
theorem exists_cut (template : List Char) :
    ∃ cut, Cuts cut template ∧ ∀ segment,
      segmentsFrom 0 segment template =
        (segment.reverse ++ cut.first) :: cut.rest.map Prod.snd := by
  induction size : template.length using Nat.strong_induction_on generalizing template with
  | _ size ih =>
    subst size
    by_cases begins : ∃ mark ∈ marks, mark.toList <+: template
    · obtain ⟨mark, form, rest, rfl⟩ := begins
      have shorter : rest.length < (mark.toList ++ rest).length := by
        have := List.length_pos_of_ne_nil (mark_ne_nil form)
        rw [List.length_append]
        omega
      obtain ⟨cut, cuts, scans⟩ := ih _ shorter rest rfl
      refine ⟨⟨[], (mark, cut.first) :: cut.rest⟩, cuts_cons.mpr ⟨bare_nil, form, rest, rfl, cuts⟩,
        fun segment => ?_⟩
      rw [segmentsFrom_mark form, scans, List.append_nil]
      rfl
    · have none : placeholderAt? template = none :=
        placeholderAt?_eq_none_iff.mpr fun mark form here => begins ⟨mark, form, here⟩
      cases template with
      | nil =>
        exact ⟨⟨[], []⟩, cuts_of_bare bare_nil,
          fun segment => congrArg ([·]) (List.append_nil _).symm⟩
      | cons c rest =>
        obtain ⟨⟨first, parts⟩, cuts, scans⟩ := ih _ (Nat.lt_succ_self _) rest rfl
        refine ⟨⟨c :: first, parts⟩, ?_, fun segment => ?_⟩
        · exact cuts.cons fun mark form here => begins ⟨mark, form, here⟩
        · rw [segmentsFrom_of_none none, scans, List.reverse_cons, List.append_assoc]
          rfl

theorem Cuts.segments_eq (cuts : cut.Cuts template) :
    Template.segments template = cut.segments := by
  obtain ⟨found, cuts', scans⟩ := exists_cut template
  cases cuts.unique cuts'
  exact scans []

/-- A template is refused for the want of a placeholder, or a destination is put between its
segments. -/
theorem Cuts.render_eq {template : String} (cuts : cut.Cuts template.toList)
    (destination : String) :
    render template destination =
      if cut.rest = [] then
        .error (.validation ("channel template '" ++ template ++ "' must contain " ++ placeholder))
      else .ok (String.ofList (cut.filled destination.toList)) := by
  unfold render
  rw [cuts.segments_eq, ← cut.filled_eq]
  cases mentions : mentionsDestination template with
  | false =>
    have bare := (mentionsDestination_eq_false_iff template).mp mentions
    rw [if_neg Bool.false_ne_true, if_pos (cuts.rest_eq_nil_iff.mpr bare)]
  | true =>
    have marked : ¬ cut.rest = [] := by
      rw [cuts.rest_eq_nil_iff, ← mentionsDestination_eq_false_iff, mentions]
      exact nofun
    rw [if_pos rfl, if_neg marked]

end Cut

end Switchboard.Template
