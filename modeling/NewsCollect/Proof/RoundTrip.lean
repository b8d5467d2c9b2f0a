/-
**The continuation codec, and the adapters that feed it.**

* `continuation_codec`: encoding succeeds exactly on the grammar, decoding returns what was encoded
  and nothing else decodes it, and what the adapters leave to continue from is encodable.
-/

import NewsCollect.Proof.Codec
import NewsCollect.Proof.Progress

namespace NewsCollect.Providers

variable {digest : Object → String} {rules : RowRules} {provider operation : String}
  {raw config state : Object}

/-- **Round trip and binding.** The grammar is what can be encoded; what is encoded decodes to the
state, and under any other provider, operation, window, configuration or lineage it is rejected;
and a page with more after it leaves a state that can be encoded. -/
theorem continuation_codec (accepted : breadthConfig provider operation raw = .ok config)
    (fixed : config.get "window_mode" = .str "fixed_window") (once : state.keys.Nodup)
    (hex : ∀ config, isHash (digest config).toList = true)
    (hashed : ∀ text, (rules.sha256 text).length = 64) (lineage : ContinuationLineage) :
    ((∃ value, encodeContinuation digest provider operation config lineage state = .ok value) ↔
      Grammar operation config state) ∧
    (∀ value, encodeContinuation digest provider operation config lineage state = .ok value →
      decodeContinuation digest value provider operation config lineage = .ok state ∧
      ∀ (provider' operation' : String) (config' : Object) (lineage' : ContinuationLineage),
        (digest config = digest config' → (Json.obj config).eq (.obj config') = true) →
        provider ≠ provider' ∨ operation ≠ operation' ∨
          (Json.obj (boundWindow config)).eq (.obj (boundWindow config')) = false ∨
          (Json.obj config).eq (.obj config') = false ∨ lineage ≠ lineage' →
        ∃ message, decodeContinuation digest value provider' operation' config' lineage' =
          raise .continuationContractError message) ∧
    (Grammar operation config state → ∀ (body : Json) (limit : Nat) (rejected : List String)
      (page : Page), 1 ≤ limit → (referenceNames body).Nodup →
        ¬(provider = "marketaux" ∧ statePage state = 1000) →
        payloads rules provider operation body config limit (statePage state) (stateOffset state)
          state rejected = .ok page →
        page.more = true →
        ∃ value, encodeContinuation digest provider operation config lineage page.progress =
          .ok value) := by
  have resolved := Resolved.of_accepted accepted fixed
  refine ⟨?_, ?_, ?_⟩
  · constructor
    · rintro ⟨value, encoded⟩
      exact ((encode_eq_ok_iff resolved (hex config) once).1 encoded).2
    · intro grammar
      exact ⟨_, (encode_eq_ok_iff resolved (hex config) once).2 ⟨rfl, grammar⟩⟩
  · intro value encoded
    refine ⟨decode_of_encode resolved (hex config) once encoded, ?_⟩
    intro provider' operation' config' lineage' collisionFree different
    obtain ⟨rfl, -⟩ := (encode_eq_ok_iff resolved (hex config) once).1 encoded
    cases decoded : decodeContinuation digest
        (continuationOf digest provider operation config lineage state) provider' operation'
        config' lineage' with
    | error raised =>
        refine ⟨raised.message, ?_⟩
        rw [raise, ← decode_raises _ raised decoded]
    | ok result =>
        obtain ⟨sameProvider, sameOperation, sameHash, sameWindow, sameLineage⟩ :=
          bound_of_decode decoded
        rcases different with other | other | other | other | other
        · exact absurd sameProvider.symm other
        · exact absurd sameOperation.symm other
        · simp [sameWindow] at other
        · simp [collisionFree sameHash] at other
        · exact absurd sameLineage other
  · intro grammar body limit rejected page some distinctNames notLast ok more
    have next := progress_grammar hashed resolved once grammar some distinctNames notLast ok more
    exact ⟨_, (encode_eq_ok_iff resolved (hex config) (nodup_of_grammar next)).2 ⟨rfl, next⟩⟩

/-! ### A page of news -/

/-- A configuration of the news operation. -/
def oilNews : Object :=
  [("query", .str "oil"), ("window_mode", .str "fixed_window"), ("start", .str "2024-01-01"),
    ("end", .str "2024-01-08")]

/-- Its hash. -/
def oilDigest : String := "8dde2f2578e8b28eda725a85323e7c510468979d0df2c339dd664b56d4459f3c"

/-- The hash of no text. -/
def emptyDigest : String := "e3b0c44298fc1c149afbf4c8996fb92427ae41e4649b934ca495991b7852b855"

/-- A target of the news operation. -/
def oilLineage : ContinuationLineage :=
  ⟨"5f0c7d0e-9a39-4f0b-8f2a-0d8a5f1f7c11", 1, "news_all", 1, 2, 1, "scheduled"⟩

/-- The rules, as they act on `oilPage`. -/
def oilRules : RowRules where
  sanitizeItem _ := .ok (some [("provider_item_id", .str "a1"),
    ("published_at", .str "2024-01-02T00:00:00Z"),
    ("field_names", .arr [.str "published_at", .str "uuid"]), ("source_identity", .null),
    ("display_title", .null), ("display_url", .null)])
  canonicalUrl _ := .ok none
  sha256 _ := emptyDigest
  canonicalHash _ := .ok "8dde2f2578e8b28eda725a85323e7c510468979d0df2c339dd664b56d4459f3c"
  toFloat _ := none
  eiaSeries geography sector := .ok ("eia:" ++ geography ++ ":" ++ sector)
  rtoSeries region metric := .ok ("rto:" ++ region ++ ":" ++ metric)
  officialUrl _ _ _ := "https://www.sec.gov/"

/-- The second page of five rows, one a page. -/
def oilPage : Json :=
  .obj [("data", .arr [.obj [("uuid", .str "a1"),
    ("published_at", .str "2024-01-02T00:00:00Z")]]), ("meta", .obj [("found", .int 5)])]

theorem continuation_codec_oil :
    (∃ value, encodeContinuation (fun _ => oilDigest) "marketaux" "news_all" oilNews oilLineage
        [("page", .int 2)] = .ok value ∧
      decodeContinuation (fun _ => oilDigest) value "marketaux" "news_all" oilNews oilLineage =
        .ok [("page", .int 2)]) ∧
    ∃ page value, payloads oilRules "marketaux" "news_all" oilPage oilNews 1 2 0
        [("page", .int 2)] [] = .ok page ∧ page.more = true ∧
      encodeContinuation (fun _ => oilDigest) "marketaux" "news_all" oilNews oilLineage
        page.progress = .ok value := by
  have hex : isHash oilDigest.toList = true := by decide +kernel
  have long : emptyDigest.length = 64 := by decide +kernel
  have codec := @continuation_codec (fun _ => oilDigest) oilRules "marketaux" "news_all" oilNews
    oilNews [("page", .int 2)] rfl rfl (by decide) (fun _ => hex) (fun _ => long) oilLineage
  have grammar : Grammar "news_all" oilNews [("page", .int 2)] :=
    .page 2 rfl (by decide) (by decide)
  obtain ⟨value, encoded⟩ := codec.1.2 grammar
  obtain ⟨next, continued⟩ := codec.2.2 grammar oilPage 1 [] _ (by decide) (by decide) (by decide)
    rfl rfl
  exact ⟨⟨value, encoded, (codec.2.1 value encoded).1⟩, _, next, rfl, rfl, continued⟩

end NewsCollect.Providers
