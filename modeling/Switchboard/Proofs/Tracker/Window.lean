/-
**The window is the end of what was accepted.**

A window that is offered fingerprints one after the other, each of which it accepts or not, holds the
last of those that it has accepted, as many as it has room for (`Window.Holds`, `Window.holds_run`).
So whether it accepts one more can be told without a window (`Window.accepted_eq_fresh`).

A window may also keep a set of its fingerprints beside the queue of them, so that a repeat is found
without going through the queue (`IndexedWindow`). The queue and the set stay in step, and nobody can
tell the two kinds of window apart (`IndexedWindow.offer_ofWindow`,
`IndexedWindow.keeps_last_accepted`).
-/

import Mathlib.Data.Finset.Basic
import Mathlib.Data.List.DropRight
import Mathlib.Data.List.Induction
import Switchboard.Tracker.Window

namespace Switchboard

namespace Window

variable {window later : Window} {prints : List Fingerprint} {print : Fingerprint}

/-! ### One fingerprint -/

theorem insert?_of_contains (remembered : window.contains print = true) :
    window.insert? print = none :=
  if_pos remembered

theorem exists_insert? (unknown : window.contains print = false) :
    ∃ later, window.insert? print = some later :=
  ⟨_, if_neg (Bool.eq_false_iff.mp unknown)⟩

theorem isSome_insert? (window : Window) (print : Fingerprint) :
    (window.insert? print).isSome = !window.contains print := by
  unfold insert?
  split
  · next known => rw [known]; rfl
  · next fresh => rw [Bool.eq_false_iff.mpr fresh]; rfl

theorem capacity_of_insert? (inserted : window.insert? print = some later) :
    later.capacity = window.capacity := by
  unfold insert? at inserted
  split at inserted
  · cases inserted
  · cases Option.some.inj inserted
    rfl

/-- The fingerprint that was put in last is remembered, because there is room for one at least. -/
theorem contains_of_insert? (roomy : 0 < window.capacity)
    (inserted : window.insert? print = some later) : later.contains print = true := by
  unfold insert? at inserted
  split at inserted
  · cases inserted
  · cases Option.some.inj inserted
    unfold contains
    rw [List.contains_iff_mem]
    dsimp only
    split
    · next crowded =>
      -- something older is forgotten, since a single print would have found room
      cases recent : window.recent with
      | nil =>
        rw [recent, List.nil_append, List.length_singleton] at crowded
        omega
      | cons oldest rest => exact List.mem_append_right _ (List.mem_singleton_self _)
    · exact List.mem_append_right _ (List.mem_singleton_self _)

/-- Without a repeat, the queue has none either with one fingerprint more. -/
theorem nodup_of_insert? (distinct : window.recent.Nodup)
    (inserted : window.insert? print = some later) : later.recent.Nodup := by
  unfold insert? at inserted
  split at inserted
  · cases inserted
  · next unknown =>
    cases Option.some.inj inserted
    have fresh : print ∉ window.recent := fun known => unknown (List.contains_iff_mem.mpr known)
    have longer : (window.recent ++ [print]).Nodup := List.concat_eq_append ▸ distinct.concat fresh
    dsimp only
    split
    · exact longer.tail
    · exact longer

/-! ### The last of the fingerprints -/

/-- Whether the window holds the last of these fingerprints, as many as it has room for. -/
structure Holds (window : Window) (prints : List Fingerprint) : Prop where
  last : window.recent <:+ prints
  full : window.recent.length = min window.capacity prints.length
  roomy : 0 < window.capacity

theorem holds_new (capacity : Nat) : (new capacity).Holds [] where
  last := List.suffix_rfl
  full := (Nat.min_zero _).symm
  roomy := Nat.lt_of_lt_of_le Nat.zero_lt_one (Nat.le_max_right _ _)

/-- A fingerprint more is the last of them. -/
theorem Holds.insert {window later : Window} {prints : List Fingerprint} {print : Fingerprint}
    (holds : window.Holds prints) (inserted : window.insert? print = some later) :
    later.Holds (prints ++ [print]) ∧ later.capacity = window.capacity := by
  unfold insert? at inserted
  split at inserted
  · cases inserted
  · cases Option.some.inj inserted
    have full := holds.full
    have roomy := holds.roomy
    have whole : window.recent ++ [print] <:+ prints ++ [print] := by
      obtain ⟨older, same⟩ := holds.last
      exact ⟨older, by rw [← same, List.append_assoc]⟩
    refine ⟨⟨?_, ?_, roomy⟩, rfl⟩
    · show (if _ then _ else _) <:+ _
      split
      · exact (List.tail_suffix _).trans whole
      · exact whole
    · show (if window.capacity < (window.recent ++ [print]).length then
        (window.recent ++ [print]).tail else window.recent ++ [print]).length =
          min window.capacity (prints ++ [print]).length
      split
      · next crowded =>
        rw [List.length_append, List.length_singleton] at crowded
        rw [List.length_tail, List.length_append, List.length_append, List.length_singleton]
        omega
      · next spare =>
        rw [List.length_append, List.length_singleton] at spare
        rw [List.length_append, List.length_append, List.length_singleton]
        omega

/-- What is not too old is remembered. -/
theorem Holds.contains {window : Window} {earlier since : List Fingerprint} {print : Fingerprint}
    (holds : window.Holds (earlier ++ print :: since)) (young : since.length < window.capacity) :
    window.contains print = true := by
  have enough : (print :: since).length ≤ window.recent.length := by
    rw [holds.full, List.length_append, List.length_cons]
    omega
  have part : print :: since <:+ window.recent :=
    List.suffix_of_suffix_length_le (List.suffix_append _ _) holds.last enough
  unfold Window.contains
  rw [List.contains_iff_mem]
  exact part.subset List.mem_cons_self

/-- The window holds the last of the fingerprints. -/
theorem Holds.recent_eq (holds : window.Holds prints) :
    window.recent = prints.rtake window.capacity := by
  rw [List.suffix_iff_eq_drop.mp holds.last, holds.full, List.rtake]
  congr 1
  omega

/-! ### Runs of a window -/

/-- The window behind fingerprints that were offered to it. -/
def after (window : Window) (prints : List Fingerprint) : Window :=
  prints.foldl (fun now print => (now.insert? print).getD now) window

/-- The fingerprints that are accepted, in order. -/
def accepted (window : Window) : List Fingerprint → List Fingerprint
  | [] => []
  | print :: rest =>
    match window.insert? print with
    | some later => print :: later.accepted rest
    | none => window.accepted rest

theorem after_concat (window : Window) (prints : List Fingerprint) (last : Fingerprint) :
    window.after (prints ++ [last]) =
      ((window.after prints).insert? last).getD (window.after prints) :=
  List.foldl_append

theorem accepted_concat (window : Window) (prints : List Fingerprint) (last : Fingerprint) :
    window.accepted (prints ++ [last]) =
      window.accepted prints ++
        if ((window.after prints).insert? last).isSome then [last] else [] := by
  induction prints generalizing window with
  | nil =>
    show window.accepted [last] = if (window.insert? last).isSome then [last] else []
    unfold accepted
    cases window.insert? last <;> rfl
  | cons print rest ih =>
    have first : window.after (print :: rest) = ((window.insert? print).getD window).after rest :=
      rfl
    rw [List.cons_append, accepted, accepted, first]
    cases inserted : window.insert? print with
    | some later => exact congrArg (List.cons print) (ih later)
    | none => exact ih window

/-- A new window holds the last of the fingerprints that it has accepted, and none of them twice. -/
theorem holds_run (capacity : Nat) (prints : List Fingerprint) :
    ((new capacity).after prints).Holds ((new capacity).accepted prints) ∧
      ((new capacity).after prints).capacity = max capacity 1 ∧
      ((new capacity).after prints).recent.Nodup := by
  induction prints using List.reverseRecOn with
  | nil => exact ⟨holds_new capacity, rfl, List.nodup_nil⟩
  | append_singleton prints last ih =>
    obtain ⟨holds, room, distinct⟩ := ih
    rw [after_concat, accepted_concat]
    cases inserted : ((new capacity).after prints).insert? last with
    | none =>
      rw [Option.isSome_none, if_neg Bool.false_ne_true, List.append_nil]
      exact ⟨holds, room, distinct⟩
    | some later =>
      obtain ⟨more, same⟩ := holds.insert inserted
      exact ⟨more, same.trans room, nodup_of_insert? distinct inserted⟩

/-- Whether a window that was offered fingerprints accepts one more, told by those it has
accepted. -/
theorem isSome_insert?_run (capacity : Nat) (prints : List Fingerprint) (print : Fingerprint) :
    (((new capacity).after prints).insert? print).isSome = true ↔
      print ∉ ((new capacity).accepted prints).rtake (max capacity 1) := by
  obtain ⟨holds, room, -⟩ := holds_run capacity prints
  rw [isSome_insert?, Bool.not_eq_true', ← Bool.not_eq_true, contains, List.contains_iff_mem,
    holds.recent_eq, room]

/-- The fingerprints that are not among the last of those before them, where only those count. -/
def fresh (room : Nat) (prints : List Fingerprint) : List Fingerprint :=
  prints.foldl (fun log print => if print ∈ log.rtake room then log else log ++ [print]) []

/-- What a window accepts can be told without it. -/
theorem accepted_eq_fresh (capacity : Nat) (prints : List Fingerprint) :
    (new capacity).accepted prints = fresh (max capacity 1) prints := by
  induction prints using List.reverseRecOn with
  | nil => rfl
  | append_singleton prints last ih =>
    have accepts := isSome_insert?_run capacity prints last
    rw [accepted_concat, fresh, List.foldl_append, List.foldl_cons, List.foldl_nil, ← fresh, ← ih]
    split
    · next passes => rw [if_neg (accepts.mp passes)]
    · next refused =>
      rw [if_pos (not_not.mp (mt accepts.mpr refused)), List.append_nil]

end Window

/-! ### A window with an index -/

/-- A window that also keeps the set of its fingerprints. -/
structure IndexedWindow where
  capacity : Nat
  /-- The fingerprints, oldest first. -/
  order : List Fingerprint
  /-- The same, to find a repeat. -/
  seen : Finset Fingerprint

namespace IndexedWindow

/-- A window on nothing. It holds at least one fingerprint. -/
def new (capacity : Nat) : IndexedWindow :=
  { capacity := max capacity 1, order := [], seen := ∅ }

/-- Remembers a fingerprint, and says whether it is new. The oldest one leaves the queue and the set
when there are too many. -/
def offer (window : IndexedWindow) (print : Fingerprint) : Bool × IndexedWindow :=
  if print ∈ window.seen then (false, window)
  else
    let seen := insert print window.seen
    let order := window.order ++ [print]
    if window.capacity < order.length then
      match order with
      | [] => (true, { window with order, seen })
      | oldest :: rest => (true, { window with order := rest, seen := seen.erase oldest })
    else (true, { window with order, seen })

/-- The window behind fingerprints that were offered to it. -/
def after (window : IndexedWindow) (prints : List Fingerprint) : IndexedWindow :=
  prints.foldl (fun now print => (now.offer print).2) window

/-- The fingerprints that are found to be new, in order. -/
def accepted (window : IndexedWindow) : List Fingerprint → List Fingerprint
  | [] => []
  | print :: rest =>
    if (window.offer print).1 then print :: (window.offer print).2.accepted rest
    else (window.offer print).2.accepted rest

/-- A window with the set of what it holds. -/
def ofWindow (window : Window) : IndexedWindow :=
  { capacity := window.capacity, order := window.recent, seen := window.recent.toFinset }

variable {window : Window}

/-- **The queue and the set stay in step**, and the index makes no difference to what is accepted. -/
theorem offer_ofWindow (distinct : window.recent.Nodup) (print : Fingerprint) :
    (ofWindow window).offer print =
      ((window.insert? print).isSome, ofWindow ((window.insert? print).getD window)) := by
  unfold offer ofWindow Window.insert? Window.contains
  by_cases known : print ∈ window.recent
  · simp [known]
  · have more : insert print window.recent.toFinset = (window.recent ++ [print]).toFinset := by
      ext other
      rw [Finset.mem_insert, List.mem_toFinset, List.mem_toFinset, List.mem_append,
        List.mem_singleton]
      exact or_comm
    have longer : (window.recent ++ [print]).Nodup := List.concat_eq_append ▸ distinct.concat known
    simp only [List.mem_toFinset, known, if_false, List.contains_iff_mem, more]
    cases order : window.recent ++ [print] with
    | nil => simp
    | cons oldest rest =>
      rw [order] at longer
      have gone : oldest ∉ rest := (List.nodup_cons.mp longer).1
      split <;> simp [gone]

theorem run_ofWindow (distinct : window.recent.Nodup) (prints : List Fingerprint) :
    (ofWindow window).after prints = ofWindow (window.after prints) ∧
      (ofWindow window).accepted prints = window.accepted prints := by
  induction prints generalizing window with
  | nil => exact ⟨rfl, rfl⟩
  | cons print rest ih =>
    have step := offer_ofWindow distinct print
    rw [after, List.foldl_cons, ← after, accepted, step, Window.after, List.foldl_cons,
      ← Window.after, Window.accepted]
    cases inserted : window.insert? print with
    | some later =>
      obtain ⟨behind, others⟩ := ih (Window.nodup_of_insert? distinct inserted)
      exact ⟨behind, congrArg (List.cons print) others⟩
    | none => exact ih distinct

/-! ### The theorem -/

/-- **A window keeps the last fingerprints that it has accepted.** Whatever was offered to a new one,
with room for `capacity` fingerprints, or for one if this is zero:

* none stands twice in its queue, there are no more than it has room for, and its set holds those of
  the queue;
* the queue is the end of those that it has accepted, in order and as far as there is room; and
  these are the ones that were not among the last so many accepted before them;
* it finds a fingerprint to be a repeat exactly when it is among these last ones, and is then left
  as it is;
* without its set it is the window that trackers have, after the same, and the two agree on what to
  accept. -/
theorem keeps_last_accepted (capacity : Nat) (prints : List Fingerprint) :
    let room := max capacity 1
    let window := (new capacity).after prints
    let accepted := (new capacity).accepted prints
    (window.order.Nodup ∧ window.order.length ≤ room ∧
      ∀ print, print ∈ window.seen ↔ print ∈ window.order) ∧
    (window.order = accepted.rtake room ∧ window.order.length = min room accepted.length ∧
      accepted = Window.fresh room prints) ∧
    (∀ print, ((window.offer print).1 = false ↔ print ∈ accepted.rtake room) ∧
      (window.offer print = (false, window) ↔ print ∈ accepted.rtake room)) ∧
    window = ofWindow ((Window.new capacity).after prints) ∧
    ∀ print, (window.offer print).1 = (((Window.new capacity).after prints).insert? print).isSome := by
  intro room window accepted
  obtain ⟨holds, size, distinct⟩ := Window.holds_run capacity prints
  have whole : window = ofWindow ((Window.new capacity).after prints) ∧
      accepted = (Window.new capacity).accepted prints :=
    @run_ofWindow (Window.new capacity) List.nodup_nil prints
  obtain ⟨same, alike⟩ := whole
  have queue : window.order = accepted.rtake room := by
    rw [same, alike]
    exact holds.recent_eq.trans (congrArg _ size)
  have full : window.order.length = min room accepted.length := by
    rw [same, alike]
    exact holds.full.trans (congrArg (min · _) size)
  have answer (print : Fingerprint) := offer_ofWindow distinct print
  rw [← same] at answer
  have repeated (print : Fingerprint) :
      ((Window.new capacity).after prints).insert? print = none ↔ print ∈ accepted.rtake room := by
    rw [alike, ← not_iff_not, ← Window.isSome_insert?_run, Option.isSome_iff_ne_none]
  refine ⟨⟨?distinct, ?bound, ?indexed⟩, ⟨queue, full, ?rule⟩, ?repeats, same, ?answers⟩
  case distinct =>
    rw [same]
    exact distinct
  case bound => exact full.trans_le (Nat.min_le_left _ _)
  case indexed =>
    intro print
    rw [same]
    exact List.mem_toFinset
  case rule =>
    rw [alike]
    exact Window.accepted_eq_fresh capacity prints
  case repeats =>
    intro print
    rw [← repeated, answer]
    refine ⟨by simp, ?_⟩
    constructor
    · intro left
      simpa using congrArg Prod.fst left
    · intro unchanged
      rw [unchanged, same]
      rfl
  case answers => exact fun print => congrArg Prod.fst (answer print)

/-- With room for two, the first is forgotten at the third, although it has come once more before. -/
example : (new 2).accepted [1, 1, 2, 3, 1] = [1, 2, 3, 1] := by decide

end IndexedWindow

end Switchboard
