/-
**The continuation codec round trips, and binds what it encodes.**

* `decode_eq_ok_iff`: `decode_continuation`, condition by condition.
* `encode_eq_ok_iff`: encoding succeeds exactly on the states of the grammar.
* `decode_of_encode`: what was encoded is decoded.
* `bound_of_decode`: and under no other provider, operation, window, configuration or lineage.
-/

import NewsCollect.Proof.Grammar
import NewsCollect.Proof.Windows

namespace NewsCollect.Providers

section Codec

variable {digest : Object → String} {provider operation : String} {config : Object}
  {lineage : ContinuationLineage} {state : Object}

/-- What `decode_continuation` accepts, and what it returns. -/
theorem decode_eq_ok_iff {value result : Object} :
    decodeContinuation digest value provider operation config lineage = .ok result ↔
      value.sameKeys baseKeys = true ∧ (continuationOperations provider operation).isSome = true ∧
      (value.get "version").eq (.int 1) = true ∧ value.get "provider" = .str provider ∧
      value.get "operation" = .str operation ∧
      isConfigHash digest config (value.get "config_hash") = true ∧
      isWindow config (value.get "resolved_window") = true ∧
      isLineage lineage (value.get "lineage") = true ∧ value.get "state" = .obj result ∧
      Object.keySubset result ((continuationOperations provider operation).getD []) = true ∧
      (result = [] ∨ stateCheck operation config result = .ok ()) := by
  unfold decodeContinuation
  simp only [bind_eq_ok, require_eq_ok, exists_const, Bool.and_eq_true, Json.eq_str, and_assoc]
  refine and_congr_right fun _ => and_congr_right fun _ => and_congr_right fun _ =>
    and_congr_right fun _ => and_congr_right fun _ => and_congr_right fun _ =>
    and_congr_right fun _ => and_congr_right fun _ => ?_
  cases value.get "state" with
  | obj state =>
      simp only [bind_eq_ok, require_eq_ok, exists_const, Json.obj.injEq]
      by_cases empty : state = []
      · subst empty
        simp only [List.isEmpty_nil, if_true, pure_eq_ok]
        constructor
        · rintro ⟨inside, rfl⟩
          exact ⟨rfl, inside, .inl rfl⟩
        · rintro ⟨rfl, inside, -⟩
          exact ⟨inside, rfl⟩
      · have started : state.isEmpty = false := by simpa using empty
        simp only [started, Bool.false_eq_true, if_false, bind_eq_ok, pure_eq_ok]
        constructor
        · rintro ⟨inside, _, ok, rfl⟩
          exact ⟨rfl, inside, .inr ok⟩
        · rintro ⟨rfl, inside, ok⟩
          exact ⟨inside, (), ok.resolve_left empty, rfl⟩
  | _ => simp [raise]

/-! ### The parts of an encoded continuation -/

theorem wellFormed_mapping (lineage : ContinuationLineage) :
    (Json.obj lineage.mapping).wellFormed = true := by
  simp [Json.wellFormed, Json.wellFormedMembers, ContinuationLineage.mapping, List.lookup]

theorem isLineage_self (lineage : ContinuationLineage) :
    isLineage lineage (.obj lineage.mapping) = true := by
  have keys : Object.sameKeys lineage.mapping lineageKeys = true := rfl
  rw [isLineage, keys, Json.eq_refl _ (wellFormed_mapping lineage), Bool.and_true]

/-- The window of a resolved configuration is one of two strings. -/
theorem isWindow_self (resolved : Resolved provider operation config) :
    isWindow config (.obj (boundWindow config)) = true := by
  obtain ⟨start, stop, first, last⟩ := resolved.bounds
  have formed : (Json.obj (boundWindow config)).wellFormed = true := by
    simp [Json.wellFormed, Json.wellFormedMembers, boundWindow, first, last, List.lookup]
  have keys : Object.sameKeys (boundWindow config) ["start", "end"] = true := rfl
  rw [isWindow, keys, Json.eq_refl _ formed, Bool.and_true]

/-- Decoding what was encoded comes down to the checks on the state. -/
theorem decode_continuationOf (resolved : Resolved provider operation config)
    (hex : isHash (digest config).toList = true) {result : Object} :
    decodeContinuation digest (continuationOf digest provider operation config lineage state)
        provider operation config lineage = .ok result ↔
      result = state ∧
        Object.keySubset state ((continuationOperations provider operation).getD []) = true ∧
        (state = [] ∨ stateCheck operation config state = .ok ()) := by
  rw [decode_eq_ok_iff]
  have version : (continuationOf digest provider operation config lineage state).get "version" =
    .int 1 := rfl
  have held : (continuationOf digest provider operation config lineage state).get "state" =
    .obj state := rfl
  have hash : isConfigHash digest config (.str (digest config)) = true := by
    simp [isConfigHash, hex]
  constructor
  · rintro ⟨-, -, -, -, -, -, -, -, same, keys, ok⟩
    rw [held] at same
    obtain rfl := Json.obj.inj same
    exact ⟨rfl, keys, ok⟩
  · rintro ⟨rfl, keys, ok⟩
    refine ⟨rfl, resolved.known, ?_, rfl, rfl, hash, isWindow_self resolved,
      isLineage_self lineage, held, keys, ok⟩
    rw [version]
    rfl

theorem encode_eq_ok_iff (resolved : Resolved provider operation config)
    (hex : isHash (digest config).toList = true) (once : state.keys.Nodup) {value : Object} :
    encodeContinuation digest provider operation config lineage state = .ok value ↔
      value = continuationOf digest provider operation config lineage state ∧
        Grammar operation config state := by
  unfold encodeContinuation
  simp only [bind_eq_ok, require_eq_ok, exists_const, pure_eq_ok]
  rw [← stateCheck_iff resolved.known once]
  constructor
  · rintro ⟨-, result, decoded, rfl⟩
    exact ⟨rfl, ((decode_continuationOf resolved hex).1 decoded).2⟩
  · rintro ⟨rfl, ok⟩
    exact ⟨resolved.known, state, (decode_continuationOf resolved hex).2 ⟨rfl, ok⟩, rfl⟩

/-- **What was encoded is decoded.** -/
theorem decode_of_encode (resolved : Resolved provider operation config)
    (hex : isHash (digest config).toList = true) (once : state.keys.Nodup) {value : Object}
    (encoded : encodeContinuation digest provider operation config lineage state = .ok value) :
    decodeContinuation digest value provider operation config lineage = .ok state := by
  obtain ⟨rfl, grammar⟩ := (encode_eq_ok_iff resolved hex once).1 encoded
  exact (decode_continuationOf resolved hex).2 ⟨rfl, (stateCheck_iff resolved.known once).2 grammar⟩

/-! ### Rejection -/

theorem stateCheck_raises (operation : String) (config state : Object) :
    Raises .continuationContractError (stateCheck operation config state) := by
  have files (current : Json) (file : List Json) (value : Json) :
      Raises .continuationContractError (secFilesCheck config current file value) := by
    cases value with
    | arr files =>
        refine raises_bind raises_require fun _ => raises_bind raises_require fun _ => ?_
        cases config.get "cik" with
        | str cik => exact raises_require
        | _ => exact raises_raise
    | _ => exact raises_raise
  unfold stateCheck
  split
  · exact raises_require
  split
  · exact raises_require
  split
  · exact raises_require
  · exact raises_bind raises_require fun _ => raises_bind raises_require fun _ =>
      raises_bind (files _ _ _) fun _ => raises_bind (raises_onlyIf raises_require) fun _ =>
        raises_onlyIf raises_require

/-- What `decode_continuation` raises is its own exception. -/
theorem decode_raises (value : Object) :
    Raises .continuationContractError
      (decodeContinuation digest value provider operation config lineage) := by
  refine raises_bind raises_require fun _ => raises_bind raises_require fun _ =>
    raises_bind raises_require fun _ => raises_bind raises_require fun _ =>
    raises_bind raises_require fun _ => ?_
  cases value.get "state" with
  | obj state =>
      refine raises_bind raises_require fun _ => ?_
      split
      · exact raises_ok
      · exact raises_bind (stateCheck_raises _ _ _) fun _ => raises_ok
  | _ => exact raises_raise

/-! ### The binding -/

/-- Two lineages with equal mappings are equal. -/
theorem lineage_eq_of_eq {left right : ContinuationLineage}
    (same : (Json.obj left.mapping).eq (.obj right.mapping) = true) : left = right := by
  simp [ContinuationLineage.mapping, Json.eq, Json.eqMembers, List.lookup, Json.number,
    Json.sameNumber] at same
  obtain ⟨target, revision, key, config, contract, cursor, mode⟩ := same
  cases left
  cases right
  simp_all

/-- **Nothing decodes under another binding.** Whatever the configurations, equal hashes are what is
left of their being the same one. -/
theorem bound_of_decode {provider' operation' : String} {config' : Object}
    {lineage' : ContinuationLineage} {result : Object}
    (decoded : decodeContinuation digest
      (continuationOf digest provider operation config lineage state) provider' operation' config'
      lineage' = .ok result) :
    provider' = provider ∧ operation' = operation ∧ digest config = digest config' ∧
      (Json.obj (boundWindow config)).eq (.obj (boundWindow config')) = true ∧
      lineage = lineage' := by
  obtain ⟨-, -, -, named, operated, hash, window, bound, -⟩ := decode_eq_ok_iff.1 decoded
  have lineageHeld : (continuationOf digest provider operation config lineage state).get "lineage" =
    .obj lineage.mapping := rfl
  have windowHeld : (continuationOf digest provider operation config lineage state).get
    "resolved_window" = .obj (boundWindow config) := rfl
  have hashHeld : (continuationOf digest provider operation config lineage state).get
    "config_hash" = .str (digest config) := rfl
  rw [lineageHeld, isLineage, Bool.and_eq_true] at bound
  rw [windowHeld, isWindow, Bool.and_eq_true] at window
  rw [hashHeld, isConfigHash, Bool.and_eq_true, beq_iff_eq] at hash
  exact ⟨(Json.str.inj named).symm, (Json.str.inj operated).symm, hash.2, window.2,
    lineage_eq_of_eq bound.2⟩

end Codec

end NewsCollect.Providers
