/-
**The rules for rows.**

What the adapters take from the shared modules: identifiers without a marker, the sanitised item of
a news page, the canonical address of an item, and the validator of the payloads.

* `safeIdentifier`, `safeFieldNames`, `sanitizeItem`: the support of all adapters.
* `canonicalUrl`: an address without tracking and without secrets.
* `rowRules`: the rules of the bounded adapters.
-/

import NewsCollect.Providers.Breadth
import NewsCollect.SafeProjection.Contracts

namespace NewsCollect.Providers

open SafeProjection Text

/-- `safe_identifier`. -/
def safeIdentifier (maximum : Nat) : Json → Option String
  | .str raw =>
      let normalized := strip raw.toList
      if normalized.isEmpty || maximum < normalized.length || containsAny markers normalized then none
      else some (String.ofList normalized)
  | _ => none

/-- `text.upper()`, of the texts the registry lets through: they are in ASCII. -/
def upperText (text : String) : String := ((upper text.toList).map String.ofList).getD text

/-- `safe_field_names`. -/
def safeFieldNames (row : Object) : List Json :=
  ((row.keys.filter fun key => !hasMarker key).mergeSort fun left right => left ≤ right).map Json.str

/-- A marker with a value. -/
def hasSecretValue (text : List Char) : Bool := containsAny (markers.map (· ++ "=")) text

/-- `_safe_title`. -/
def safeTitle : Json → Option String
  | .str raw =>
      let normalized := collapse raw.toList
      if normalized.isEmpty || 2000 < normalized.length || hasSecretValue normalized then none
      else some (String.ofList normalized)
  | _ => none

/-- The source of an item: a name, or what a mapping has as one. -/
def sourceName : Json → Json
  | .obj source => orElse (Object.get source "name") (Object.get source "domain")
  | source => source

section Rules

variable (library : StandardLibrary)

/-- `_safe_public_url`. -/
def safePublicUrl : Json → Result (Option String)
  | .str value =>
      if 4000 < value.length || hasSecretValue value.toList then pure none
      else do
        let parsed ← library.urlsplit value
        pure (if (parsed.scheme == "http" || parsed.scheme == "https") && parsed.netloc ≠ "" &&
          parsed.username.isNone && parsed.password.isNone then some value else none)
  | _ => pure none

/-- `_sanitize_item`. -/
def sanitizeItem (row : Object) : Result (Option Object) :=
  match marketauxIdentity? (row.get "uuid"), row.get "published_at" with
  | some identity, .str published =>
      if published = "" ∨ hasMarker published = true then pure none
      else do
        let url ← safePublicUrl library (row.get "url")
        pure (some [("provider_item_id", .str identity), ("published_at", .str published),
          ("field_names", .arr (safeFieldNames row)),
          ("source_identity", textOrNull (safeTitle (sourceName (row.get "source")))),
          ("display_title", textOrNull (safeTitle (row.get "title"))),
          ("display_url", textOrNull url)])
  | _, _ => pure none

/-- A parameter that only tracks. -/
def isTracking (key : String) : Bool :=
  "utm_".toList.isPrefixOf (library.lower key).toList || library.lower key = "fbclid" ||
    library.lower key = "gclid"

/-- A parameter that may be a secret. -/
def isSecretParameter (key : String) : Bool :=
  containsAny ["token", "key", "auth", "secret", "password"] key.toList

/-- The parameters that are kept. -/
def keptParameters (parameters : List (String × String)) : Result (List (String × String)) :=
  parameters.foldlM (fun kept parameter =>
    if isTracking library parameter.1 then pure kept
    else if isSecretParameter parameter.1 then raise .valueError "breadth_item_untraceable"
    else pure (kept ++ [parameter])) []

/-- The host and the port, unless it is that of the scheme. -/
def hostAndPort (scheme host : String) : Option Nat → String
  | some port =>
      if (scheme = "http" ∧ port = 80) ∨ (scheme = "https" ∧ port = 443) then host
      else host ++ ":" ++ toString port
  | none => host

/-- A part that is there, and not empty. -/
def isGiven (part : Option String) : Bool := part.any (· ≠ "")

/-- `_canonical_url`. -/
def canonicalUrl : Json → Result (Option String)
  | .null => pure none
  | .str value => do
      require (!(2048 < value.length || hasSecret value)) .valueError "breadth_item_untraceable"
      let parsed ← library.urlsplit value
      let scheme := library.lower parsed.scheme
      require ((scheme = "http" || scheme = "https") && isGiven parsed.hostname &&
        !isGiven parsed.username && !isGiven parsed.password) .valueError "breadth_item_untraceable"
      let port ← parsed.port
      let parameters ← library.parseQsl parsed.query
      let kept ← keptParameters library parameters
      let query ← library.urlencode (kept.mergeSort keyLe)
      pure (some (library.urlunsplit scheme
        (hostAndPort scheme (library.lower (parsed.hostname.getD "")) port)
        (if parsed.path = "" then "/" else parsed.path) query ""))
  | _ => raise .valueError "breadth_item_untraceable"

/-- `str(value)`. -/
def strOf : Json → String
  | .str text => text
  | value => library.str value

/-- The address of a filing. The number of the filer has been checked with the configuration. -/
def officialUrl (cik accession : String) (document : Json) : String :=
  match secOfficialUrl cik accession (strOf library document) with
  | .ok url => url
  | .error _ => ""

/-- **The rules of the bounded adapters.** -/
def rowRules : RowRules where
  sanitizeItem := sanitizeItem library
  canonicalUrl := canonicalUrl library
  sha256 := library.sha256
  canonicalHash := canonicalProjectionHash library
  toFloat := library.toFloat
  eiaSeries geography sector := eiaSeriesIdentity (.str geography) (.str sector) (.str "price")
  rtoSeries := rtoSeriesIdentity
  officialUrl := officialUrl library

end Rules

end NewsCollect.Providers
