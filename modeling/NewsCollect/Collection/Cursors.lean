/-
**Cursors.**

A cursor is a text that holds a position: the instant an item was published at, and its identity.
Whether a new cursor follows an old one is decided on the positions.

* `CursorPosition`: positions, in their order.
* `decodeCursor`, `decideCursor`.
* `decideCursor_eq_ok_iff`: a decision never goes back.
-/

import Mathlib.Data.Prod.Lex
import Mathlib.Data.String.Basic
import NewsCollect.Collection.Rows
import NewsCollect.Errors
import NewsCollect.Library.IsoFormat

namespace NewsCollect.Collection

open Calendar

/-- **A position**: an instant and an identity. -/
structure CursorPosition where
  publishedAt : Int
  providerItemId : String
deriving DecidableEq, Repr

/-- Positions are ordered by their instants, and then by their identities. -/
instance : LinearOrder CursorPosition :=
  LinearOrder.lift' (fun position => toLex (position.publishedAt, position.providerItemId)) (by
    rintro ⟨instant, identity⟩ ⟨instant', identity'⟩ same
    simpa using same)

/-- How a text is read as JSON, and how a value that is no text is written as one. -/
structure Reader where
  loads : String → Result Json
  str : Json → String

/-- `str(value)`. -/
def Reader.text (reader : Reader) : Json → String
  | .str text => text
  | value => reader.str value

/-- `datetime.fromisoformat(text.replace("Z", "+00:00"))`: the local time and its offset. -/
def publishedTime (text : String) : Result (Int × Option Int) :=
  match fromIsoFormat (replaceZ text.toList) with
  | some time => .ok time
  | none => raise .valueError "Invalid isoformat string"

section Decode

variable (reader : Reader)

/-- The time and the identity in a cursor. -/
def cursorParts (text : String) : Result ((Int × Option Int) × String) := do
  let value ← reader.loads text
  let published ← item value "published_at"
  let time ← publishedTime (reader.text published)
  let identity ← item value "provider_item_id"
  pure (time, reader.text identity)

/-- `decode_cursor`, of a value that is present. -/
def decodePosition (text : String) : Result CursorPosition :=
  match cursorParts reader text with
  | .error raised =>
      if raised.isAny [.keyError, .typeError, .valueError] then
        raise .cursorContractError "cursor_invalid"
      else .error raised
  | .ok ((here, some offset), identity) =>
      if identity = "" then raise .cursorContractError "cursor_invalid"
      else .ok ⟨here - offset, identity⟩
  | .ok ((_, none), _) => raise .cursorContractError "cursor_invalid"

/-- `decode_cursor`. -/
def decodeCursor : Option String → Result (Option CursorPosition)
  | none => .ok none
  | some text => do
      let position ← decodePosition reader text
      pure (some position)

inductive CursorAction where
  | unchanged
  | advance
  | noNewItems
deriving DecidableEq, Repr

/-- The strategies with a decision. -/
def CursorStrategy.decides : CursorStrategy → Bool
  | .strictIncremental | .snapshotWatermark | .compound => true
  | _ => false

/-- The strategies that accept the position they have. -/
def CursorStrategy.repeats : CursorStrategy → Bool
  | .snapshotWatermark | .compound => true
  | _ => false

/-- `decide_cursor`, on positions. -/
def decidePosition (strategy : CursorStrategy) (previous proposed : Option CursorPosition) :
    Result (CursorAction × Option CursorPosition) :=
  match proposed, previous with
  | none, _ => .ok (.unchanged, none)
  | some proposed, none => .ok (.advance, some proposed)
  | some proposed, some previous =>
      if previous < proposed then .ok (.advance, some proposed)
      else if proposed = previous ∧ strategy.repeats then .ok (.noNewItems, some proposed)
      else raise .cursorContractError "cursor_not_successor"

/-- `decide_cursor`. -/
def decideCursor (strategy : CursorStrategy) (current candidate : Option String) :
    Result (CursorAction × Option CursorPosition) := do
  require strategy.decides .cursorContractError "cursor_strategy_invalid"
  let previous ← decodeCursor reader current
  let proposed ← decodeCursor reader candidate
  decidePosition strategy previous proposed

/-- The position of a cursor, if it has one. -/
def position? (value : Option String) : Option CursorPosition :=
  (decodeCursor reader value).toOption.join

end Decode

/-! ### Decisions -/

variable {reader : Reader} {strategy : CursorStrategy} {current candidate : Option String}
  {action : CursorAction} {result : Option CursorPosition}

theorem position?_of_decodeCursor {value : Option String} {position : Option CursorPosition}
    (decoded : decodeCursor reader value = .ok position) : position? reader value = position := by
  simp [position?, decoded, Except.toOption]

/-- A decision, in terms of the two positions. -/
theorem decideCursor_eq_ok_iff :
    decideCursor reader strategy current candidate = .ok (action, result) ↔
      strategy.decides = true ∧ ∃ previous proposed, decodeCursor reader current = .ok previous ∧
        decodeCursor reader candidate = .ok proposed ∧
        decidePosition strategy previous proposed = .ok (action, result) := by
  simp only [decideCursor, bind_eq_ok, require_eq_ok, exists_const, exists_and_left]

/-- The candidate of a decision is the position of the new cursor. -/
theorem decidePosition_result {previous proposed : Option CursorPosition}
    (decided : decidePosition strategy previous proposed = .ok (action, result)) :
    result = proposed := by
  unfold decidePosition at decided
  split at decided
  · simp_all
  · simp_all
  · split at decided
    · simp_all
    · split at decided
      · simp_all
      · simp [raise] at decided

/-- **A decision never goes back**, unless there is no new cursor. -/
theorem decideCursor_forward (decided : decideCursor reader strategy current candidate =
      .ok (action, result)) (some : candidate ≠ none) :
    ∃ next, result = .some next ∧ position? reader candidate = .some next ∧
      ∀ before, position? reader current = .some before → before ≤ next := by
  obtain ⟨-, previous, proposed, read, readNew, chosen⟩ := decideCursor_eq_ok_iff.1 decided
  have same := decidePosition_result chosen
  rw [position?_of_decodeCursor read, position?_of_decodeCursor readNew]
  cases candidate with
  | none => exact absurd rfl some
  | some text =>
      obtain ⟨next, -, found⟩ := bind_eq_ok.1 readNew
      obtain rfl := pure_eq_ok.1 found
      refine ⟨next, same, rfl, ?_⟩
      rintro before rfl
      unfold decidePosition at chosen
      simp only at chosen
      split at chosen
      · next further => exact further.le
      · split at chosen
        · next repeated => exact repeated.1.ge
        · simp [raise] at chosen

end NewsCollect.Collection
