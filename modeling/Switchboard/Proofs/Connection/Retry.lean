/-
**When a loop of attempts ends, and what it has done by then.**

Whatever comes of its attempts, a loop makes one after the other and pauses once between two of
them. It ends with the first that is a success or a rejected login, or that is the last one allowed
(`ReconnectPolicy.EndsAt`), and with the outcome of this attempt: `retry_ends_first`.

The loop counts its failures in a word. A policy with a limit ends it long before the word is used
up. Without a limit the word may begin again at 0, and the pause is then that for no failure
(`pause_forgets_failures`).

* `stateBehind`, `outcomeOf`: the attempts without the loop, one after the other;
* `underWay`, `endedBy`: what the log says before the end and from then on;
* `attempt_of_goes_on`, `attempt_of_ends`: one step of the loop.
-/

import Mathlib
import Switchboard.Connection.Retry
import Switchboard.Proofs.Reconnect.Band

namespace Switchboard

/-- Whether a loop ends with the attempt of this number: it succeeds, its login is rejected, or the
policy allows no further one. -/
def ReconnectPolicy.EndsAt (policy : ReconnectPolicy) (number : Nat)
    (outcome : Except BridgeError Unit) : Prop :=
  outcome = .ok () ∨ (∃ text, outcome = .error (.authFailed text)) ∨
    policy.maxAttempts ≠ 0 ∧ number = policy.maxAttempts

/-- Attempts, each with the pause behind it, which is for as many failures as there have been. -/
def rounds (attempts : Nat) : List RetryAct :=
  (List.range' 1 attempts).flatMap fun n => [.attempt n, .pause n]

/-- The delays for as many failures as there have been at each pause. -/
def delays (policy : ReconnectPolicy) (draws : Nat → Nat) (pauses : Nat) : List Nat :=
  (List.range pauses).map fun n => policy.delay (n + 1) (draws n)

section Attempts

variable {σ : Type} (connect : Nat → σ → Except BridgeError Unit × σ) (state : σ)

/-- The state behind attempts that are made one after the other. -/
def stateBehind : Nat → σ
  | 0 => state
  | n + 1 => (connect (n + 1) (stateBehind n)).2

/-- What comes of an attempt when those before it have been made. -/
def outcomeOf (number : Nat) : Except BridgeError Unit :=
  (connect number (stateBehind connect state (number - 1))).1

/-- The log of a loop that has not ended: all attempts, each with the pause behind it. -/
def underWay (attempts : Nat) : RetryLog σ :=
  { outcome := none
    attempts
    acts := rounds attempts
    state := stateBehind connect state attempts }

/-- The log of a loop that an attempt has ended: the attempt is its last act, and what comes of it
is the outcome. -/
def endedBy (number : Nat) : RetryLog σ :=
  { outcome := some (outcomeOf connect state number)
    attempts := number
    acts := rounds (number - 1) ++ [.attempt number]
    state := stateBehind connect state number }

end Attempts

/-! ### The verdict on an attempt -/

section Verdict

variable {policy : ReconnectPolicy} {number : Nat} {outcome : Except BridgeError Unit}

theorem failureCount_of_lt (few : number < wordCount 32) : failureCount number = number :=
  Nat.mod_eq_of_lt few

/-- As long as no attempt is made that is not allowed, the last one allowed is the one that uses the
policy up. -/
theorem isExhausted_iff (few : number < wordCount 32)
    (allowed : policy.maxAttempts = 0 ∨ number ≤ policy.maxAttempts) :
    policy.isExhausted (failureCount number) = true ↔
      policy.maxAttempts ≠ 0 ∧ number = policy.maxAttempts := by
  unfold ReconnectPolicy.isExhausted
  rw [Bool.and_eq_true, bne_iff_ne, decide_eq_true_iff, failureCount_of_lt few]
  refine and_congr_right fun limited => ?_
  exact ⟨fun reached => le_antisymm (allowed.resolve_left limited) reached, fun same => same.ge⟩

theorem ofOutcome_of_ends (few : number < wordCount 32)
    (allowed : policy.maxAttempts = 0 ∨ number ≤ policy.maxAttempts)
    (ends : policy.EndsAt number outcome) :
    Verdict.ofOutcome policy (failureCount number) outcome = .stop outcome := by
  unfold Verdict.ofOutcome
  split
  · rfl
  · rfl
  · next error other =>
    obtain success | ⟨text, rejected⟩ | last := ends
    · cases success
    · cases rejected
      exact absurd rfl (other text)
    · rw [if_pos ((isExhausted_iff few allowed).mpr last)]

theorem ofOutcome_of_goes_on (few : number < wordCount 32)
    (allowed : policy.maxAttempts = 0 ∨ number ≤ policy.maxAttempts)
    (goes : ¬ policy.EndsAt number outcome) :
    Verdict.ofOutcome policy (failureCount number) outcome = .pause number := by
  unfold Verdict.ofOutcome
  split
  · exact absurd (.inl rfl) goes
  · next text => exact absurd (.inr (.inl ⟨text, rfl⟩)) goes
  · rw [if_neg fun exhausted => goes (.inr (.inr ((isExhausted_iff few allowed).mp exhausted))),
      failureCount_of_lt few]

/-- An attempt before which no other has ended the loop is allowed. -/
theorem allowed_of_going {outcomes : Nat → Except BridgeError Unit}
    (going : ∀ n, 1 ≤ n → n < number → ¬ policy.EndsAt n (outcomes n)) :
    policy.maxAttempts = 0 ∨ number ≤ policy.maxAttempts := by
  by_contra beyond
  rw [not_or, not_le] at beyond
  exact going _ (Nat.pos_of_ne_zero beyond.1) beyond.2 (.inr (.inr ⟨beyond.1, rfl⟩))

/-- The counter is not used up by attempts that are allowed: with a limit, there are not so many. -/
theorem few_of_allowed (limit : policy.maxAttempts < wordCount 32)
    (few : policy.maxAttempts = 0 → number < wordCount 32)
    (allowed : policy.maxAttempts = 0 ∨ number ≤ policy.maxAttempts) : number < wordCount 32 :=
  allowed.elim few fun within => within.trans_lt limit

end Verdict

/-! ### The loop -/

section Loop

variable {σ : Type} {policy : ReconnectPolicy} {connect : Nat → σ → Except BridgeError Unit × σ}
  {state : σ} {bound : Nat}

theorem rounds_succ (attempts : Nat) :
    rounds (attempts + 1) =
      rounds attempts ++ [.attempt (attempts + 1), .pause (attempts + 1)] := by
  unfold rounds
  rw [List.range'_1_concat, List.flatMap_append, List.flatMap_singleton, Nat.add_comm 1]

theorem retry_succ (policy : ReconnectPolicy) (connect : Nat → σ → Except BridgeError Unit × σ)
    (state : σ) (bound : Nat) :
    retry policy connect state (bound + 1) =
      (retry policy connect state bound).attempt policy connect := rfl

/-- An attempt that does not end the loop is followed by a pause. -/
theorem attempt_of_goes_on {number : Nat} (few : number + 1 < wordCount 32)
    (allowed : policy.maxAttempts = 0 ∨ number + 1 ≤ policy.maxAttempts)
    (goes : ¬ policy.EndsAt (number + 1) (outcomeOf connect state (number + 1))) :
    (underWay connect state number).attempt policy connect =
      underWay connect state (number + 1) := by
  have verdict : Verdict.ofOutcome policy (failureCount (number + 1))
      (connect (number + 1) (stateBehind connect state number)).1 = _ :=
    ofOutcome_of_goes_on few allowed goes
  unfold RetryLog.attempt underWay
  dsimp only
  rw [verdict, rounds_succ]
  rfl

/-- An attempt that ends the loop is its last act. -/
theorem attempt_of_ends {number : Nat} (few : number + 1 < wordCount 32)
    (allowed : policy.maxAttempts = 0 ∨ number + 1 ≤ policy.maxAttempts)
    (ends : policy.EndsAt (number + 1) (outcomeOf connect state (number + 1))) :
    (underWay connect state number).attempt policy connect =
      endedBy connect state (number + 1) := by
  have verdict : Verdict.ofOutcome policy (failureCount (number + 1))
      (connect (number + 1) (stateBehind connect state number)).1 = _ :=
    ofOutcome_of_ends few allowed ends
  unfold RetryLog.attempt underWay
  dsimp only
  rw [verdict]
  rfl

/-- A loop whose attempts do not end it has made them all. -/
theorem retry_of_going (limit : policy.maxAttempts < wordCount 32)
    (few : policy.maxAttempts = 0 → bound < wordCount 32)
    (going : ∀ n, 1 ≤ n → n ≤ bound → ¬ policy.EndsAt n (outcomeOf connect state n)) :
    retry policy connect state bound = underWay connect state bound := by
  induction bound with
  | zero => rfl
  | succ bound ih =>
    have before : ∀ n, 1 ≤ n → n < bound + 1 → ¬ policy.EndsAt n (outcomeOf connect state n) :=
      fun n first earlier => going n first earlier.le
    have allowed := allowed_of_going before
    rw [retry_succ, ih (fun unlimited => (Nat.lt_succ_self bound).trans (few unlimited))
      fun n first within => before n first (Nat.lt_succ_of_le within)]
    exact attempt_of_goes_on (few_of_allowed limit few allowed) allowed
      (going (bound + 1) (Nat.le_add_left 1 bound) le_rfl)

/-- The first attempt that ends a loop ends it. -/
theorem retry_of_ends (limit : policy.maxAttempts < wordCount 32) {before : Nat}
    (few : policy.maxAttempts = 0 → before + 1 < wordCount 32)
    (ends : policy.EndsAt (before + 1) (outcomeOf connect state (before + 1)))
    (going : ∀ n, 1 ≤ n → n < before + 1 → ¬ policy.EndsAt n (outcomeOf connect state n)) :
    retry policy connect state (before + 1) = endedBy connect state (before + 1) := by
  have underWay := retry_of_going limit
    (fun unlimited => (Nat.lt_succ_self before).trans (few unlimited))
    fun n first within => going n first (Nat.lt_succ_of_le within)
  have allowed := allowed_of_going going
  rw [retry_succ, underWay]
  exact attempt_of_ends (few_of_allowed limit few allowed) allowed ends

/-- A loop that has ended does nothing more. -/
theorem retry_of_ended {outcome : Except BridgeError Unit} {later : Nat}
    (ended : (retry policy connect state bound).outcome = some outcome) (order : bound ≤ later) :
    retry policy connect state later = retry policy connect state bound := by
  induction later, order using Nat.le_induction with
  | base => rfl
  | succ later _ ih =>
    rw [retry_succ, ih]
    unfold RetryLog.attempt
    rw [ended]

/-- The failures that rounds of attempts pause for. -/
theorem filterMap_rounds (attempts : Nat) :
    (rounds attempts).filterMap RetryAct.failures? = List.range' 1 attempts := by
  unfold rounds
  rw [List.filterMap_flatMap]
  exact List.flatMap_singleton' _

/-- Behind rounds, each pause is the delay for the failures so far. An attempt at the end adds
none. -/
theorem pauses_of_rounds {log : RetryLog σ} {count : Nat} {last : List RetryAct}
    (acts : log.acts = rounds count ++ last) (quiet : last.filterMap RetryAct.failures? = [])
    (draws : Nat → Nat) : log.pauses policy draws = delays policy draws count := by
  unfold RetryLog.pauses delays
  rw [acts, List.filterMap_append, quiet, List.append_nil, filterMap_rounds]
  refine List.ext_getElem ?_ fun n _ _ => ?_
  · rw [List.length_mapIdx, List.length_map, List.length_range', List.length_range]
  · rw [List.getElem_mapIdx, List.getElem_map, List.getElem_range', List.getElem_range,
      Nat.one_mul, Nat.add_comm 1]

/-- The pause behind one more attempt is the delay for the failures that were counted. -/
theorem pause_behind_rounds {log : RetryLog σ} {count number failures : Nat}
    (acts : log.acts = rounds count ++ [.attempt number, .pause failures]) (draws : Nat → Nat) :
    (log.pauses policy draws)[count]? = some (policy.delay failures (draws count)) := by
  unfold RetryLog.pauses
  rw [acts, List.filterMap_append, filterMap_rounds, List.getElem?_mapIdx,
    List.getElem?_append_right List.length_range'.le, List.length_range', Nat.sub_self]
  rfl

/-- **A loop ends with the first attempt that ends it, and with what comes of it.** Let attempts
come to whatever they do. As long as none has succeeded, had its login rejected or been the last one
that is allowed, the loop makes the attempts 1, 2, and so on, and pauses once behind each of them,
with a delay for as many failures as there have been. The first attempt that does one of these
things is its last act, no pause is behind it, its outcome is that of the loop, and nothing happens
any more. A policy without a limit allows any number of attempts, and this is so as long as their
number is a word of 32 bits. -/
theorem retry_ends_first (limit : policy.maxAttempts < wordCount 32)
    (few : policy.maxAttempts = 0 → bound < wordCount 32)
    (connect : Nat → σ → Except BridgeError Unit × σ) (state : σ) :
    let log := retry policy connect state bound
    let ends (n : Nat) := policy.EndsAt n (outcomeOf connect state n)
    ((∀ n, 1 ≤ n → n ≤ bound → ¬ ends n) →
      log = underWay connect state bound ∧
      ∀ draws, log.pauses policy draws = delays policy draws bound) ∧
    ∀ last, 1 ≤ last → last ≤ bound → ends last → (∀ n, 1 ≤ n → n < last → ¬ ends n) →
      log = endedBy connect state last ∧
      ∀ draws, log.pauses policy draws = delays policy draws (last - 1) := by
  intro log ends
  constructor
  · intro going
    have made : log = underWay connect state bound := retry_of_going limit few going
    have acts : log.acts = rounds bound ++ [] := by rw [made, List.append_nil, underWay]
    exact ⟨made, pauses_of_rounds acts rfl⟩
  · intro last first within ended going
    obtain ⟨before, rfl⟩ := Nat.exists_eq_add_of_le' first
    have made := retry_of_ends limit (fun unlimited => within.trans_lt (few unlimited)) ended going
    have still : log = endedBy connect state (before + 1) :=
      (retry_of_ended (congrArg RetryLog.outcome made) within).trans made
    have acts : log.acts = rounds before ++ [.attempt (before + 1)] := by
      rw [still, endedBy, Nat.add_sub_cancel]
    exact ⟨still, pauses_of_rounds acts rfl⟩

end Loop

/-- An attempt that finds no switch, whatever its number. -/
def refused (_ : Nat) (_ : Unit) : Except BridgeError Unit × Unit :=
  (.error (.connection "refused"), ())

theorem retry_ends_first_refused :
    retry (.new 100 1000 3) refused () 7 =
      { outcome := some (.error (.connection "refused")), attempts := 3,
        acts := [.attempt 1, .pause 1, .attempt 2, .pause 2, .attempt 3], state := () } ∧
    (retry (.new 100 1000 3) refused () 7).pauses (.new 100 1000 3) id = [50, 101] := by
  have going : ∀ n, 1 ≤ n → n < 3 →
      ¬ (ReconnectPolicy.new 100 1000 3).EndsAt n (outcomeOf refused () n) := by
    rintro n - early (success | ⟨_, rejected⟩ | ⟨-, last⟩)
    · cases success
    · cases rejected
    · exact early.ne last
  have limited : (ReconnectPolicy.new 100 1000 3).maxAttempts = 0 → 7 < wordCount 32 := by decide
  obtain ⟨ended, pauses⟩ :=
    (@retry_ends_first Unit (.new 100 1000 3) 7 (by decide) limited refused ()).2 3 (by decide)
      (by decide) (.inr (.inr ⟨by decide, rfl⟩)) going
  exact ⟨ended, (pauses id).trans (by decide)⟩

/-- Without a limit and without a switch the loop goes on for ever. When its counter begins again at
0, it pauses as behind no failure at all: for a tenth of a second at most, instead of half a minute
at least. -/
theorem pause_forgets_failures :
    let policy : ReconnectPolicy := .new 100 60000 0
    let failures := wordCount 32
    (∀ n, ¬ policy.EndsAt n (outcomeOf refused () n)) ∧
    (retry policy refused () failures).acts =
      rounds (failures - 1) ++ [.attempt failures, .pause 0] ∧
    (∀ draws, ((retry policy refused () failures).pauses policy draws)[failures - 1]? =
      some (policy.delay 0 (draws (failures - 1)))) ∧
    ∀ draw, policy.delay 0 draw ≤ 100 ∧ 30000 ≤ policy.delay failures draw := by
  intro policy failures
  have going (n : Nat) : ¬ policy.EndsAt n (outcomeOf refused () n) := by
    rintro (success | ⟨_, rejected⟩ | ⟨limited, -⟩)
    · cases success
    · cases rejected
    · exact limited rfl
  have acts : (retry policy refused () failures).acts =
      rounds (failures - 1) ++ [.attempt failures, .pause 0] := by
    obtain ⟨before, count⟩ : ∃ before, failures = before + 1 := ⟨failures - 1, by decide⟩
    have few : before < wordCount 32 := (Nat.lt_succ_self before).trans_eq count.symm
    have reached : retry policy refused () before = underWay refused () before :=
      retry_of_going (by decide) (fun _ => few) fun n _ _ => going n
    have forgotten : failureCount (before + 1) = 0 := count ▸ by decide
    rw [count, retry_succ, reached, Nat.add_sub_cancel]
    unfold RetryLog.attempt underWay refused
    dsimp only
    rw [forgotten]
    rfl
  refine ⟨going, acts, pause_behind_rounds acts, fun draw => ⟨?_, ?_⟩⟩
  · exact (policy.delay_le_base 0 draw).trans (by decide)
  · exact le_trans (by decide) (policy.half_base_le_delay failures draw)

end Switchboard
