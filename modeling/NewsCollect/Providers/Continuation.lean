/-
**The continuation codec.**

A continuation is the resumable state of a bounded run, wrapped with everything it is bound to: the
provider and the operation, the hash of the resolved configuration, the window and the lineage of
the target. `decode_continuation` accepts one only under the same binding, and only with a state in
the grammar of its operation.

* `decodeContinuation`, `encodeContinuation`.
* `stateCheck`: the grammars, as the code checks them.
-/

import NewsCollect.Errors
import NewsCollect.Library.Json
import NewsCollect.Library.Text

namespace NewsCollect.Providers

open Text

/-- `[0-9a-f]{64}`. -/
def isHash (text : List Char) : Bool :=
  bounded (fun c => isDigit c || (97 ≤ c.toNat && c.toNat ≤ 102)) 64 64 text

/-- `CIK\d{10}-submissions-\d{3}\.json`. -/
def isFile (text : List Char) : Bool :=
  shaped ("CIK".toList.map (fun c => (· == c)) ++ List.replicate 10 isDecimal ++
    "-submissions-".toList.map (fun c => (· == c)) ++ List.replicate 3 isDecimal ++
    ".json".toList.map (fun c => (· == c))) text

/-- The keys of the state of each operation. -/
def continuationOperations (provider operation : String) : Option (List String) :=
  if (provider, operation) = ("marketaux", "news_all") then some ["page"]
  else if (provider, operation) = ("finnhub", "company_news") then some ["last_key"]
  else if (provider, operation) = ("eia", "electricity_retail_sales") then some ["offset"]
  else if (provider, operation) = ("eia", "electricity_rto_region_data") then some ["offset"]
  else if (provider, operation) = ("sec_edgar", "submissions_recent") then
    some ["file", "files", "last_key"]
  else none

def baseKeys : List String :=
  ["version", "provider", "operation", "config_hash", "resolved_window", "lineage", "state"]

def lineageKeys : List String :=
  ["target_id", "config_revision", "operation_key", "operation_config_version",
    "provider_contract_version", "cursor_version", "run_mode"]

/-- What a continuation is bound to, besides its configuration. -/
structure ContinuationLineage where
  targetId : String
  configRevision : Int
  operationKey : String
  operationConfigVersion : Int
  providerContractVersion : Int
  cursorVersion : Int
  runMode : String
deriving DecidableEq, Repr

/-- `ContinuationLineage.mapping`. -/
def ContinuationLineage.mapping (lineage : ContinuationLineage) : Object :=
  [("target_id", .str lineage.targetId),
    ("config_revision", .int lineage.configRevision),
    ("operation_key", .str lineage.operationKey),
    ("operation_config_version", .int lineage.operationConfigVersion),
    ("provider_contract_version", .int lineage.providerContractVersion),
    ("cursor_version", .int lineage.cursorVersion),
    ("run_mode", .str lineage.runMode)]

/-- The window of a configuration, missing bounds being `None`. -/
def boundWindow (config : Object) : Object :=
  [("start", config.get "start"), ("end", config.get "end")]

/-! ### The state of each operation -/

/-- A string of one to 255 characters. -/
def isKeyPart : Json → Bool
  | .str text => text ≠ "" && text.length ≤ 255
  | _ => false

/-- `_key`: a list of two such strings. -/
def isKey : Json → Bool
  | .arr [first, second] => isKeyPart first && isKeyPart second
  | _ => false

/-- An integer between two bounds, and no `bool`. -/
def isIntWithin (least most : Int) : Json → Bool
  | .int value => least ≤ value && value ≤ most
  | _ => false

/-- A file name of any filer. -/
def isFileName : Json → Bool
  | .str text => isFile text.toList
  | _ => false

/-- `item.startswith(f"CIK{cik}-submissions-")`. -/
def hasFilePrefix (cik : String) : Json → Bool
  | .str text => ("CIK" ++ cik ++ "-submissions-").toList.isPrefixOf text.toList
  | _ => false

/-- `len(set(files)) == len(files)`, of strings. -/
def distinct : List Json → Bool
  | [] => true
  | item :: items => !items.any item.eq && distinct items

/-- The checks on the history files still to read, given the one being read. -/
def secFilesCheck (config : Object) (current : Json) (file : List Json) : Json → Result Unit
  | .arr files => do
      require (files.length ≤ 5 && files.all isFileName) .continuationContractError
        "continuation_sec_invalid"
      require (distinct files && !files.any current.eq) .continuationContractError
        "continuation_sec_invalid"
      match config.get "cik" with
        | .str cik =>
            require ((file ++ files).all (hasFilePrefix cik)) .continuationContractError
              "continuation_sec_invalid"
        | _ => raise .continuationContractError "continuation_sec_invalid"
  | _ => raise .continuationContractError "continuation_sec_invalid"

/-- The value, unless it is `None`. -/
def present : Json → List Json
  | .null => []
  | value => [value]

/-- The checks on the state of the filings operation. -/
def secStateCheck (config state : Object) : Result Unit := do
  require (state.sameKeys ["file"] || state.sameKeys ["file", "files"] ||
    state.sameKeys ["file", "files", "last_key"]) .continuationContractError
    "continuation_sec_invalid"
  require ((present (state.get "file")).all isFileName) .continuationContractError
    "continuation_sec_invalid"
  secFilesCheck config (state.get "file") (present (state.get "file"))
    (state.getD "files" (.arr []))
  onlyIf (state.has "last_key") <|
    require (isKey (state.get "last_key")) .continuationContractError "continuation_key_invalid"
  onlyIf (present (state.get "file")).isEmpty <|
    require (state.sameKeys ["file", "files", "last_key"]) .continuationContractError
      "continuation_sec_invalid"

/-- The checks on a state that is not empty. -/
def stateCheck (operation : String) (config state : Object) : Result Unit :=
  if operation = "news_all" then
    require (state.sameKeys ["page"] && isIntWithin 2 1000 (state.get "page"))
      .continuationContractError "continuation_page_invalid"
  else if operation = "electricity_retail_sales" ∨ operation = "electricity_rto_region_data" then
    require (state.sameKeys ["offset"] && isIntWithin 1 10000000 (state.get "offset"))
      .continuationContractError "continuation_offset_invalid"
  else if operation = "company_news" then
    require (state.sameKeys ["last_key"] && isKey (state.get "last_key"))
      .continuationContractError "continuation_key_invalid"
  else secStateCheck config state

/-! ### The codec -/

section Codec

variable (digest : Object → String)

/-- The hash of the configuration, and a string of 64 hexadecimal digits. -/
def isConfigHash (config : Object) : Json → Bool
  | .str hash => isHash hash.toList && hash == digest config
  | _ => false

/-- The window of the configuration, with its two keys and no other. -/
def isWindow (config : Object) : Json → Bool
  | .obj window =>
      Object.sameKeys window ["start", "end"] && (Json.obj window).eq (.obj (boundWindow config))
  | _ => false

/-- The lineage, with its keys and no other. -/
def isLineage (lineage : ContinuationLineage) : Json → Bool
  | .obj bound => Object.sameKeys bound lineageKeys && (Json.obj bound).eq (.obj lineage.mapping)
  | _ => false

/-- `decode_continuation`. -/
def decodeContinuation (value : Object) (provider operation : String) (config : Object)
    (lineage : ContinuationLineage) : Result Object := do
  require (value.sameKeys baseKeys && (continuationOperations provider operation).isSome)
    .continuationContractError "continuation_shape_invalid"
  require ((value.get "version").eq (.int 1) && (value.get "provider").eq (.str provider) &&
    (value.get "operation").eq (.str operation)) .continuationContractError
    "continuation_identity_invalid"
  require (isConfigHash digest config (value.get "config_hash")) .continuationContractError
    "continuation_config_invalid"
  require (isWindow config (value.get "resolved_window")) .continuationContractError
    "continuation_window_invalid"
  require (isLineage lineage (value.get "lineage")) .continuationContractError
    "continuation_lineage_invalid"
  match value.get "state" with
    | .obj state => do
        require (Object.keySubset state ((continuationOperations provider operation).getD []))
          .continuationContractError "continuation_state_invalid"
        if state.isEmpty then pure state
        else do
          stateCheck operation config state
          pure state
    | _ => raise .continuationContractError "continuation_state_invalid"

/-- The continuation of a state. -/
def continuationOf (provider operation : String) (config : Object) (lineage : ContinuationLineage)
    (state : Object) : Object :=
  [("version", .int 1), ("provider", .str provider), ("operation", .str operation),
    ("config_hash", .str (digest config)), ("resolved_window", .obj (boundWindow config)),
    ("lineage", .obj lineage.mapping), ("state", .obj state)]

/-- `encode_continuation`. -/
def encodeContinuation (provider operation : String) (config : Object)
    (lineage : ContinuationLineage) (state : Object) : Result Object := do
  require (continuationOperations provider operation).isSome .continuationContractError
    "continuation_operation_unknown"
  let result := continuationOf digest provider operation config lineage state
  let _ ← decodeContinuation digest result provider operation config lineage
  pure result

end Codec

end NewsCollect.Providers
