/-
**The configurations of the bounded operations.**

`breadth_config` accepts the configuration of one of five operations, with its window settings, and
normalises it: the number of a filer is padded with zeros and the budget of history files gets its
default. Nothing else of a configuration is changed.

* `breadthConfig`: acceptance and normalisation.
* `providerChecks`: the checks that do not read the window settings.
-/

import NewsCollect.Providers.Windows

namespace NewsCollect.Providers

open Text

def forms : List String := ["8-K", "10-Q", "10-K", "6-K"]

/-- The settings of each operation, its window settings apart. -/
def operationKeys (provider operation : String) : Option (List String) :=
  if (provider, operation) = ("marketaux", "news_all") then
    some ["query", "language", "symbols", "start", "end"]
  else if (provider, operation) = ("finnhub", "company_news") then some ["symbol", "start", "end"]
  else if (provider, operation) = ("eia", "electricity_retail_sales") then
    some ["geographies", "sectors", "frequency", "start", "end"]
  else if (provider, operation) = ("eia", "electricity_rto_region_data") then
    some ["regions", "types", "frequency", "start", "end"]
  else if (provider, operation) = ("sec_edgar", "submissions_recent") then
    some ["ticker", "cik", "forms", "start", "end", "max_history_files"]
  else none

def windowKeys : List String := "window_mode" :: rollingKeys

/-- `[A-Z][A-Z0-9.-]{0,19}`. -/
def isSymbol (text : List Char) : Bool :=
  headed isUpper (fun c => isUpper c || isDigit c || c == '.' || c == '-') 19 text

/-- `[a-z]{2}`. -/
def isLanguage (text : List Char) : Bool := shaped [isLower, isLower] text

/-- `[A-Za-z0-9-]{1,12}`. -/
def isFacet (text : List Char) : Bool :=
  bounded (fun c => isUpper c || isLower c || isDigit c || c == '-') 1 12 text

/-- `[A-Z0-9-]{1,12}`. -/
def isRegion (text : List Char) : Bool :=
  bounded (fun c => isUpper c || isDigit c || c == '-') 1 12 text

/-- `\d{1,10}`. -/
def isCik (text : List Char) : Bool := bounded isDecimal 1 10 text

/-- A string of this shape. -/
def isShaped (shape : List Char → Bool) : Json → Bool
  | .str text => shape text.toList
  | _ => false

/-- `set(values)` raises on a list or a mapping among the values. -/
def hashed (values : List Json) : Result Unit :=
  match values.find? fun value => value.arr?.isSome || value.obj?.isSome with
  | some (.arr _) => raise .typeError "unhashable type: 'list'"
  | some _ => raise .typeError "unhashable type: 'dict'"
  | none => .ok ()

/-- `isinstance(values, list) and values and not set(values) - allowed`. -/
def requireSubset (values : Json) (allowed : List String) (message : String) : Result Unit :=
  match values with
  | .arr [] => raise .valueError message
  | .arr items => do
      hashed items
      require (items.all fun item => allowed.any fun name => item.eq (.str name)) .valueError message
  | _ => raise .valueError message

/-- A list of between so many strings of this shape. -/
def requireList (values : Json) (least most : Nat) (shape : List Char → Bool) (message : String) :
    Result Unit :=
  match values with
  | .arr items =>
      require (least ≤ items.length && items.length ≤ most && items.all (isShaped shape))
        .valueError message
  | _ => raise .valueError message

/-- `isinstance(value, str) and 1 <= len(value) <= 200`. -/
def isQuery : Json → Bool
  | .str query => 1 ≤ query.length && query.length ≤ 200
  | _ => false

def isNull : Json → Bool
  | .null => true
  | _ => false

def marketauxChecks (config : Object) : Result Unit := do
  require (isQuery (config.get "query")) .valueError "breadth_query_invalid"
  -- the text of a value that is not a string is never two small letters
  require (isNull (config.get "language") || isShaped isLanguage (config.get "language"))
    .valueError "breadth_language_invalid"
  requireList (config.getD "symbols" (.arr [])) 0 10 isSymbol "breadth_symbols_invalid"

def retailChecks (config : Object) : Result Unit := do
  require ((config.get "frequency").eq (.str "monthly")) .valueError "breadth_frequency_invalid"
  requireList (config.get "geographies") 1 10 isFacet "breadth_facet_invalid"
  requireList (config.get "sectors") 1 10 isFacet "breadth_facet_invalid"

def rtoChecks (config : Object) : Result Unit := do
  require ((config.get "frequency").eq (.str "hourly")) .valueError "breadth_region_invalid"
  requireList (config.get "regions") 1 10 isRegion "breadth_region_invalid"
  requireSubset (config.get "types") ["D", "NG"] "breadth_metric_invalid"

/-- `isinstance(value, int) and not isinstance(value, bool) and 0 <= value <= 5`. -/
def isHistoryBudget : Json → Bool
  | .int value => 0 ≤ value && value ≤ 5
  | _ => false

def secChecks (config : Object) : Result Unit := do
  require (isShaped isCik (config.get "cik")) .valueError "breadth_cik_invalid"
  requireSubset (config.get "forms") forms "breadth_form_invalid"
  require (isHistoryBudget (config.getD "max_history_files" (.int 2))) .valueError
    "breadth_history_budget_invalid"

/-- The checks that do not read the window settings. -/
def providerChecks (provider operation : String) (config : Object) : Result Unit := do
  onlyIf (provider = "finnhub") <|
    require (isShaped isSymbol (config.get "symbol")) .valueError "breadth_symbol_invalid"
  onlyIf (provider = "sec_edgar") <|
    require (isShaped isSymbol (config.get "ticker")) .valueError "breadth_symbol_invalid"
  onlyIf (provider = "marketaux") <| marketauxChecks config
  onlyIf (provider = "eia" ∧ operation = "electricity_retail_sales") <| retailChecks config
  onlyIf (provider = "eia" ∧ operation = "electricity_rto_region_data") <| rtoChecks config
  onlyIf (provider = "sec_edgar") <| secChecks config

/-- `value.zfill(10)`. -/
def paddedCik : Json → Json
  | .str cik => .str (String.ofList (zfill 10 cik.toList))
  | value => value

/-- The normalisation of an accepted configuration. -/
def normalized (provider : String) (config : Object) : Object :=
  if provider = "sec_edgar" then
    (config.set "cik" (paddedCik (config.get "cik"))).set "max_history_files"
      (config.getD "max_history_files" (.int 2))
  else config

/-- `breadth_config`. -/
def breadthConfig (provider operation : String) (config : Object) : Result Object := do
  match operationKeys provider operation with
  | none => raise .valueError "breadth_operation_config_invalid"
  | some keys =>
      require (config.keySubset (keys ++ windowKeys)) .valueError
        "breadth_operation_config_invalid"
      validateWindow operation config
      providerChecks provider operation config
      pure (normalized provider config)

end NewsCollect.Providers
