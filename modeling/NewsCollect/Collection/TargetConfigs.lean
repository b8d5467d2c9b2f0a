/-
**The registry of operations.**

An operation is known by its provider, its key and two versions. Its contract bounds the budgets of
a target and validates the configuration.

* `OperationContract`, `buildOperationRegistry`: the contracts.
* `resolve`, `validate`: what a target is checked with.
-/

import NewsCollect.Collection.Rows
import NewsCollect.Providers.BreadthConfig

namespace NewsCollect.Collection

open Text Providers

inductive PaginationCapability where
  | none
  | boundedWindowV1
deriving DecidableEq, Repr

/-! ### Unsafe values -/

/-- `str.lower`, as far as it leads to a word of ASCII letters without a `k`. -/
def lower (c : Char) : Char := if isUpper c then Char.ofNat (c.toNat + 32) else c

/-- The words a secret is recognised by. -/
def secretWords : List String :=
  ["apikey", "api_key", "api-key", "apitoken", "api_token", "api-token", "authorization",
    "password", "secret", "token"]

def urlWords : List String := ["http://", "https://"]

/-- A key no configuration may have. -/
def isUnsafeKey (key : String) : Bool :=
  containsAny secretWords key.toList ||
    ["url", "endpoint", "class", "module", "import"].any fun word =>
      key.toList.map lower == word.toList

mutual

/-- `_reject_unsafe`: the value has no unsafe key and no unsafe text. -/
def isSafe : Json → Bool
  | .obj members => isSafeMembers members
  | .arr items => isSafeItems items
  | .str text => !(containsAny secretWords text.toList || containsAny urlWords text.toList)
  | _ => true

def isSafeItems : List Json → Bool
  | [] => true
  | item :: items => isSafe item && isSafeItems items

def isSafeMembers : List (String × Json) → Bool
  | [] => true
  | (key, child) :: rest => !isUnsafeKey key && isSafe child && isSafeMembers rest

end

/-- `_reject_unsafe`. -/
def rejectUnsafe (config : Object) : Result Unit :=
  require (isSafe (.obj config)) .targetConfigError "operation_config_unsafe"

/-! ### The validators of the first contract version -/

/-- `_keys`. -/
def keys (config : Object) (allowed : List String) : Result Unit := do
  require (config.keySubset allowed) .targetConfigError "operation_config_invalid"
  rejectUnsafe config

/-- A value that is absent, or passes the check. -/
def absentOr (check : Json → Bool) : Json → Bool
  | .null => true
  | value => check value

/-- A list of one to ten strings of one to twenty characters. -/
def isSymbolList : Json → Bool
  | .arr items => 1 ≤ items.length && items.length ≤ 10 &&
      items.all (isShaped fun text => 1 ≤ text.length && text.length ≤ 20)
  | _ => false

def marketauxConfig (config : Object) : Result Object := do
  keys config ["query", "language", "symbols"]
  require (isQuery (config.get "query")) .targetConfigError "operation_config_invalid"
  require (absentOr (isShaped isLanguage) (config.get "language")) .targetConfigError
    "operation_config_invalid"
  require (absentOr isSymbolList (config.get "symbols")) .targetConfigError
    "operation_config_invalid"
  pure config

/-- `[A-Z0-9.:-]{1,20}`. -/
def isQuoteSymbol (text : List Char) : Bool :=
  bounded (fun c => isUpper c || isDigit c || c == '.' || c == ':' || c == '-') 1 20 text

def finnhubConfig (config : Object) : Result Object := do
  keys config ["symbol"]
  require (isShaped isQuoteSymbol (config.get "symbol")) .targetConfigError
    "operation_config_invalid"
  pure config

def eiaConfig (config : Object) : Result Object := do
  keys config ["dataset"]
  require ((config.get "dataset").eq (.str "electricity")) .targetConfigError
    "operation_config_invalid"
  pure [("dataset", .str "electricity")]

/-- `[A-Z0-9.-]{1,12}`. -/
def isTicker (text : List Char) : Bool :=
  bounded (fun c => isUpper c || isDigit c || c == '.' || c == '-') 1 12 text

def secConfig (config : Object) : Result Object := do
  keys config ["ticker", "cik"]
  require (isShaped isTicker (config.get "ticker")) .targetConfigError "operation_config_invalid"
  require (isShaped (bounded isDigit 1 10) (config.get "cik")) .targetConfigError
    "operation_config_invalid"
  pure (config.set "cik" (paddedCik (config.get "cik")))

/-- `isinstance(pages, int) and 1 <= pages <= 20`. -/
def isPageCount : Json → Bool
  | .int value => 1 ≤ value && value ≤ 20
  | .bool value => value
  | _ => false

def fakeConfig (config : Object) : Result Object := do
  keys config ["behavior", "pages"]
  let behavior := config.getD "behavior" (.str "empty")
  let pages := config.getD "pages" (.int 1)
  hashed [behavior]
  require (["empty", "items", "timeout", "error"].any fun word => behavior.eq (.str word))
    .targetConfigError "operation_config_invalid"
  require (isPageCount pages) .targetConfigError "operation_config_invalid"
  pure [("behavior", behavior), ("pages", pages)]

/-! ### The registry -/

/-- **The contract of an operation.** -/
structure OperationContract where
  provider : String
  operationKey : String
  operationConfigVersion : Int
  providerContractVersion : Int
  cursorStrategy : CursorStrategy
  collectionMode : CollectionMode
  batchCeiling : Int
  legacyCursorType : Option String
  paginationCapability : PaginationCapability
  validator : Object → Result Object

abbrev OperationRegistry : Type := List OperationContract

/-- `OperationRegistry.resolve`. -/
def OperationRegistry.resolve (registry : OperationRegistry) (provider operation : String)
    (configVersion contractVersion : Int) : Result OperationContract :=
  match registry.find? fun contract => contract.provider = provider ∧
      contract.operationKey = operation ∧ contract.operationConfigVersion = configVersion ∧
      contract.providerContractVersion = contractVersion with
  | some contract => .ok contract
  | none => raise .targetConfigError "operation_contract_unknown"

/-- The most requests and pages of a run. -/
def OperationContract.pageCeiling (contract : OperationContract) : Int :=
  if contract.paginationCapability = .none then 1 else 20

/-- `OperationRegistry.validate`. -/
def OperationContract.validate (contract : OperationContract) (config : Object)
    (batchLimit maxRequests maxPages : Int) : Result Object := do
  require (1 ≤ batchLimit && batchLimit ≤ contract.batchCeiling && 1 ≤ maxRequests &&
    maxRequests ≤ contract.pageCeiling && 1 ≤ maxPages && maxPages ≤ contract.pageCeiling)
    .targetConfigError "operation_budget_invalid"
  rejectUnsafe config
  contract.validator config

/-- The contract of a bounded operation. -/
def boundedContract (provider operation : String) : OperationContract :=
  ⟨provider, operation, 2, 2, .compound, .incremental, 100, none, .boundedWindowV1,
    breadthConfig provider operation⟩

/-- `build_operation_registry`. -/
def buildOperationRegistry : OperationRegistry :=
  [boundedContract "marketaux" "news_all", boundedContract "finnhub" "company_news",
    boundedContract "eia" "electricity_retail_sales",
    boundedContract "eia" "electricity_rto_region_data",
    boundedContract "sec_edgar" "submissions_recent",
    ⟨"fake", "fake_sequence", 1, 1, .strictIncremental, .incremental, 20, some "fake_sequence",
      .none, fakeConfig⟩,
    ⟨"marketaux", "news_all", 1, 1, .compound, .incremental, 3, some "provider_cursor_v1", .none,
      marketauxConfig⟩,
    ⟨"finnhub", "quote", 1, 1, .compound, .incremental, 1, some "provider_cursor_v1", .none,
      finnhubConfig⟩,
    ⟨"eia", "electricity_retail_sales", 1, 1, .snapshotWatermark, .snapshot, 5,
      some "provider_cursor_v1", .none, eiaConfig⟩,
    ⟨"sec_edgar", "submissions_recent", 1, 1, .snapshotWatermark, .snapshot, 10,
      some "provider_cursor_v1", .none, secConfig⟩]

/-! ### The adapters -/

/-- The operations with a bounded adapter. -/
def boundedOperations : List (String × String) :=
  [("marketaux", "news_all"), ("finnhub", "company_news"), ("eia", "electricity_retail_sales"),
    ("eia", "electricity_rto_region_data"), ("sec_edgar", "submissions_recent")]

/-- The operations with an adapter of the first contract version. -/
def singlePageOperations : List (String × String) :=
  [("marketaux", "news_all"), ("finnhub", "quote"), ("eia", "electricity_retail_sales"),
    ("sec_edgar", "submissions_recent")]

/-- `UnifiedAdapterFactory.build`. -/
def buildAdapter (provider operation : String) (contractVersion : Int) : Result Unit :=
  if contractVersion = 2 ∧ (provider, operation) ∈ boundedOperations then .ok ()
  else if contractVersion = 1 ∧ (provider, operation) ∈ singlePageOperations then .ok ()
  else raise .lookupError "provider_operation_not_allowlisted"

end NewsCollect.Collection
