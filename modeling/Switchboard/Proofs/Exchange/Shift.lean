/-
**What a malformed answer does to the answers behind it.**

The reader passes over a block that cannot be read, also where that block answers an action, and its
caller keeps its place at the head of the line. So every later answer to an action without an
identifier is given to somebody further ahead, by as many places as malformed answers have been read
(`recipients_shifted`). `misdelivery_iff` says exactly when a caller obtains the answer to another
one's action. Actions with an identifier are not concerned.
-/

import Mathlib.Control.Monad.Basic
import Switchboard.Proofs.Exchange.Pairing

namespace Switchboard

open Correlator

namespace Exchange

namespace Sound

variable {exchange : Exchange}

/-- An answer to an action without an identifier reaches nobody, or the caller who stands as many
places ahead of its owner as malformed answers have been read before. -/
theorem recipients_shifted (sound : Sound exchange) {place : Nat} {receipt : Receipt}
    (here : exchange.read[place]? = some receipt) (turn : receipt.parcel.takesTurn = true) :
    let before := exchange.read.take place
    (∃ owner, receipt.parcel.owner = some owner ∧
      exchange.line[taken before + spoiled before]? = some owner) ∧
    (receipt.recipients = [] ∨
      ∃ caller, exchange.line[taken before]? = some caller ∧
        receipt.recipients = [caller.ticket]) := by
  intro before
  unfold Parcel.takesTurn at turn
  cases tag : receipt.parcel.owner with
  | none =>
    rw [tag] at turn
    cases turn
  | some owner =>
    rw [tag] at turn
    have untagged : owner.actionId = none := by simpa using turn
    refine ⟨⟨owner, rfl, sound.line_of_receipt here tag untagged⟩, ?_⟩
    refine (sound.delivered place receipt here).imp_right ?_
    rintro ⟨-, caller, claims, reached⟩
    unfold claimant? at claims
    simp only [tag, untagged] at claims
    exact ⟨caller, claims, reached⟩

/-- An answer to an action with an identifier reaches its owner or nobody. -/
theorem recipients_of_tagged (sound : Sound exchange) {place : Nat} {receipt : Receipt}
    (here : exchange.read[place]? = some receipt) (tagged : receipt.parcel.takesTurn = false)
    {ticket : Nat} (reached : ticket ∈ receipt.recipients) :
    receipt.parcel.owner.map Pending.ticket = some ticket := by
  rcases sound.delivered place receipt here with nobody | ⟨-, caller, claims, one⟩
  · rw [nobody] at reached
    cases reached
  · unfold claimant? at claims
    unfold Parcel.takesTurn at tagged
    cases tag : receipt.parcel.owner with
    | none =>
      rw [tag] at claims
      cases claims
    | some owner =>
      simp only [tag] at claims tagged
      have isTagged : owner.actionId.isSome = true := by simpa using tagged
      rw [if_pos isTagged] at claims
      rw [one, List.mem_singleton] at reached
      rw [Option.map_some, reached, Option.some.inj claims]

/-- The callers in the line have tickets of their own. -/
theorem nodup_line (sound : Sound exchange) : (exchange.line.map Pending.ticket).Nodup := by
  have rising : ((exchange.sent.map Letter.pending).map Pending.ticket).Pairwise (· < ·) := by
    rw [List.map_map, List.pairwise_map]
    exact sound.tidy.rising
  exact (List.filter_sublist.map Pending.ticket).nodup (rising.imp Nat.ne_of_lt)

/-- A frame reaches somebody else than its owner exactly where it answers an action without an
identifier and a malformed answer has been read before. -/
theorem strays_iff (sound : Sound exchange) {place : Nat} {receipt : Receipt}
    (here : exchange.read[place]? = some receipt) {ticket : Nat}
    (reached : ticket ∈ receipt.recipients) :
    receipt.parcel.owner.map Pending.ticket ≠ some ticket ↔
      receipt.parcel.takesTurn = true ∧ 0 < spoiled (exchange.read.take place) := by
  constructor
  · intro strays
    constructor
    · by_contra tagged
      exact strays (sound.recipients_of_tagged here (Bool.eq_false_iff.mpr tagged) reached)
    · by_contra unspoiled
      rcases sound.recipients_of_unspoiled here (Nat.eq_zero_of_not_pos unspoiled) with
        nobody | ⟨pending, owner, one⟩
      · rw [nobody] at reached
        cases reached
      · rw [one, List.mem_singleton] at reached
        exact strays (by rw [owner, reached]; rfl)
  · rintro ⟨turn, shifted⟩ same
    obtain ⟨⟨owner, tag, own⟩, nobody | ⟨caller, ahead, one⟩⟩ := sound.recipients_shifted here turn
    · rw [nobody] at reached
      cases reached
    · rw [one, List.mem_singleton] at reached
      rw [tag, Option.map_some, Option.some_inj, reached] at same
      -- The owner and the caller ahead are at two places, so they have two tickets.
      have inside : taken (exchange.read.take place) < (exchange.line.map Pending.ticket).length := by
        rw [List.length_map]
        exact (List.getElem?_eq_some_iff.mp ahead).1
      have equal : (exchange.line.map Pending.ticket)[taken (exchange.read.take place)]? =
          (exchange.line.map Pending.ticket)[taken (exchange.read.take place) +
            spoiled (exchange.read.take place)]? := by
        rw [List.getElem?_map, List.getElem?_map, ahead, own, Option.map_some, Option.map_some,
          same]
      have unshifted := (List.getElem?_inj inside sound.nodup_line).mp equal
      omega

end Sound

/-! ### The exact condition -/

/-- Whether a caller has obtained what was read as the answer to another one's action, or as no
answer at all. -/
def Misdelivered (exchange : Exchange) : Prop :=
  ∃ receipt ∈ exchange.read, ∃ ticket ∈ receipt.recipients,
    (∃ response, (ticket, .ok response) ∈ exchange.outcomes) ∧
      receipt.parcel.owner.map Pending.ticket ≠ some ticket

/-- **When a malformed answer shifts the others.** Whatever the order of moves, as long as the
promises are kept:

* a caller that gets a response gets it from a frame that reached it;
* an answer to an action without an identifier is meant for the caller at a place in the line, and
  reaches nobody or the one who stands as many places ahead as malformed answers have been read;
* a caller obtains an answer that is not its own exactly when some answer to an action without an
  identifier reaches a caller who takes it, and a malformed one has been read before it. -/
theorem misdelivery_iff {queueSize dropped : Nat} {moves : List Move}
    (lawful : (start queueSize dropped).Lawful moves) :
    let last := (start queueSize dropped).run moves
    (∀ ticket response, (ticket, .ok response) ∈ last.outcomes →
      ∃ receipt ∈ last.read,
        ticket ∈ receipt.recipients ∧ receipt.parcel.frame = .response response) ∧
    (∀ (place : Nat) (receipt : Receipt), last.read[place]? = some receipt →
      receipt.parcel.takesTurn = true →
      let before := last.read.take place
      (∃ owner, receipt.parcel.owner = some owner ∧
        last.line[taken before + spoiled before]? = some owner) ∧
      (receipt.recipients = [] ∨
        ∃ caller, last.line[taken before]? = some caller ∧
          receipt.recipients = [caller.ticket])) ∧
    (last.Misdelivered ↔
      ∃ (place : Nat) (receipt : Receipt), last.read[place]? = some receipt ∧
        receipt.parcel.takesTurn = true ∧ 0 < spoiled (last.read.take place) ∧
        ∃ ticket ∈ receipt.recipients, ∃ response, (ticket, .ok response) ∈ last.outcomes) := by
  intro last
  have sound : Sound last := sound_run lawful
  refine ⟨fun ticket response got => sound.earned ticket response (.inr got),
    fun place receipt here turn => sound.recipients_shifted here turn, ?_⟩
  constructor
  · rintro ⟨receipt, member, ticket, reached, got, strays⟩
    obtain ⟨place, here⟩ := List.mem_iff_getElem?.mp member
    obtain ⟨turn, shifted⟩ := (sound.strays_iff here reached).mp strays
    exact ⟨place, receipt, here, turn, shifted, ticket, reached, got⟩
  · rintro ⟨place, receipt, here, turn, shifted, ticket, reached, got⟩
    exact ⟨receipt, List.mem_of_getElem? here, ticket, reached, got,
      (sound.strays_iff here reached).mpr ⟨turn, shifted⟩⟩

/-- Two callers of one action each. The block that answers the first action has a line without a
colon, and the first caller obtains the answer to the second action. -/
def afterSpoiled : List Move :=
  [.send Action.ping none, .send Action.ping none,
    .emit ⟨some ⟨0, "Ping", none⟩,
      Frame.ofBytes (Text.Utf8.bytesOf "Response: Success\r\nno colon here\r\n\r\n")⟩,
    .emit ⟨some ⟨1, "Ping", none⟩, .response (success none)⟩,
    .hear, .hear, .collect 0 5000, .collect 1 5000]

theorem misdelivery_iff_afterSpoiled :
    (start 8 0).Lawful afterSpoiled ∧ ((start 8 0).run afterSpoiled).Misdelivered := by
  have lawful : (start 8 0).Lawful afterSpoiled := by decide +kernel
  obtain ⟨-, -, exactly⟩ := misdelivery_iff lawful
  refine ⟨lawful, exactly.mpr ⟨1, ⟨⟨some ⟨1, "Ping", none⟩, .response (success none)⟩, [0]⟩, ?_, rfl,
    ?_, 0, by simp, success none, ?_⟩⟩
  · decide +kernel
  · decide +kernel
  · decide +kernel

theorem malformed_answer_shifts :
    ¬∀ moves, (start 8 0).Lawful moves → ¬((start 8 0).run moves).Misdelivered := by
  intro never
  refine never afterSpoiled (by decide +kernel) ?_
  refine ⟨⟨⟨some ⟨1, "Ping", none⟩, .response (success none)⟩, [0]⟩, ?_, 0, ?_, ⟨success none, ?_⟩, ?_⟩
  · decide +kernel
  · simp
  · decide +kernel
  · decide

end Exchange

end Switchboard
