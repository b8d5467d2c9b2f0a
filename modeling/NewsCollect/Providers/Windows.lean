/-
**Collection windows.**

A window configuration is either fixed, with a start and an end, or rolling, with a lookback, an
overlap and a lag from which `resolve_window` computes a fixed window once per run.

* `validateWindow`: which window settings an operation accepts.
* `resolveWindow`: the fixed window of a run started at an instant, after a watermark.
* `resolvedConfig`: the configuration with its window settings replaced by a fixed window.
-/

import NewsCollect.Errors
import NewsCollect.Library.IsoFormat
import NewsCollect.Library.Json

namespace NewsCollect.Providers

open Calendar Text

/-- The window settings a fixed window excludes. -/
def rollingKeys : List String :=
  ["lookback_seconds", "overlap_seconds", "ingestion_lag_seconds", "granularity",
    "lookback_months", "overlap_months", "ingestion_lag_months"]

def secondsKeys : List String := ["lookback_seconds", "overlap_seconds", "ingestion_lag_seconds"]

def monthsKeys : List String := ["lookback_months", "overlap_months", "ingestion_lag_months"]

/-- `\d{4}-(0[1-9]|1[0-2])-01`. -/
def isMonthText (text : List Char) : Bool :=
  shaped [isDecimal, isDecimal, isDecimal, isDecimal, (· == '-'), (· == '0'),
      fun c => 49 ≤ c.toNat && c.toNat < 58, (· == '-'), (· == '0'), (· == '1')] text ||
    shaped [isDecimal, isDecimal, isDecimal, isDecimal, (· == '-'), (· == '1'), oneOf "012",
      (· == '-'), (· == '0'), (· == '1')] text

/-- `\d{4}-\d{2}-\d{2}(T\d{2})?`. -/
def isBoundText (text : List Char) : Bool :=
  shaped [isDecimal, isDecimal, isDecimal, isDecimal, (· == '-'), isDecimal, isDecimal, (· == '-'),
      isDecimal, isDecimal] text ||
    shaped [isDecimal, isDecimal, isDecimal, isDecimal, (· == '-'), isDecimal, isDecimal,
      (· == '-'), isDecimal, isDecimal, (· == 'T'), isDecimal, isDecimal] text

/-- The longest window of an operation, in seconds. -/
def windowCeiling (operation : String) : Int :=
  (if operation = "electricity_retail_sales" then 366
    else if operation = "electricity_rto_region_data" then 7 else 31) * 86400

/-- One bound of a fixed window: its text, and the local time it denotes. -/
def windowBound (operation : String) (config : Object) (key : String) : Result Int :=
  match config.get key with
  | .str text =>
      if (operation = "electricity_retail_sales" ∧ !isMonthText text.toList) ∨
          !isBoundText text.toList then
        raise .valueError "breadth_window_invalid"
      else
        match fromIsoFormat text.toList with
        | some (bound, _) => .ok bound
        | none => raise .valueError "breadth_window_invalid"
  | _ => raise .valueError "breadth_window_invalid"

/-- The month of a local time, counted from the year 0. -/
def monthIndex (instant : Int) : Int :=
  ((dateOf instant).map fun date => (date.year * 12 + date.month : Int)).getD 0

/-- The fixed branch of `validate_window`. -/
def validateFixed (operation : String) (config : Object) : Result Unit := do
  require (!config.hasAny rollingKeys) .valueError "breadth_window_invalid"
  let start ← windowBound operation config "start"
  let stop ← windowBound operation config "end"
  if operation = "electricity_retail_sales" then
    require (0 ≤ monthIndex stop - monthIndex start && monthIndex stop - monthIndex start ≤ 11)
      .valueError "breadth_window_invalid"
  else
    require (0 < stop - start && stop - start ≤ windowCeiling operation * second)
      .valueError "breadth_window_invalid"

/-- The granularity an operation's rolling window must name. -/
def expectedGranularity (operation : String) : String :=
  if operation = "electricity_retail_sales" then "month"
  else if operation = "electricity_rto_region_data" then "hour" else "day"

/-- The shortest lookback of a granularity, in seconds. -/
def minimumLookback (granularity : String) : Int :=
  if granularity = "month" then 31 * 86400 else if granularity = "day" then 86400 else 3600

/-- The rolling branch of `validate_window`. -/
def validateRolling (operation : String) (config : Object) : Result Unit := do
  require (!(config.has "start" || config.has "end")) .valueError "breadth_window_invalid"
  if operation = "electricity_retail_sales" then
    require (!config.hasAny secondsKeys) .valueError "breadth_window_invalid"
    match (config.get "lookback_months").int?, (config.get "overlap_months").int?,
        (config.get "ingestion_lag_months").int? with
    | some lookback, some overlap, some lag =>
        require (1 ≤ lookback && lookback ≤ 12 && 0 ≤ overlap && overlap < lookback && 0 ≤ lag &&
          lag ≤ 12 && (config.get "granularity").eq (.str "month"))
          .valueError "breadth_window_invalid"
    | _, _, _ => raise .valueError "breadth_window_invalid"
  else
    require (!config.hasAny monthsKeys) .valueError "breadth_window_invalid"
    match (config.get "lookback_seconds").int?, (config.get "overlap_seconds").int?,
        (config.get "ingestion_lag_seconds").int? with
    | some lookback, some overlap, some lag =>
        require (minimumLookback (expectedGranularity operation) ≤ lookback &&
          lookback ≤ windowCeiling operation && 0 ≤ overlap && overlap < lookback && 0 ≤ lag &&
          lag ≤ windowCeiling operation) .valueError "breadth_window_invalid"
        require ((config.get "granularity").eq (.str (expectedGranularity operation)))
          .valueError "breadth_window_invalid"
    | _, _, _ => raise .valueError "breadth_window_invalid"

/-- `validate_window`. -/
def validateWindow (operation : String) (config : Object) : Result Unit :=
  if (config.get "window_mode").eq (.str "fixed_window") then validateFixed operation config
  else if (config.get "window_mode").eq (.str "rolling_window") then
    validateRolling operation config
  else raise .valueError "breadth_window_mode_required"

/-- The result of `datetime` arithmetic: it raises outside the years 1 to 9999. -/
def checked (instant : Int) : Result Int :=
  if inRange instant then .ok instant else raise .overflowError "date value out of range"

/-- `f"{value:04d}"`. -/
def format04 (value : Int) : List Char :=
  if value < 0 then '-' :: zfill 3 (toString value.natAbs).toList
  else zfill 4 (toString value.natAbs).toList

/-- `month_text`: the first day of a month counted from January of the year 0. -/
def monthText (value : Int) : List Char :=
  format04 (value / 12) ++ '-' :: two (value % 12 + 1).toNat ++ ['-', '0', '1']

/-- A window, as it is stored. -/
def window (start stop : List Char) : Object :=
  [("start", .str (String.ofList start)), ("end", .str (String.ofList stop))]

/-- The integer under a key that has been validated. -/
def intAt (config : Object) (key : String) : Int := ((config.get key).int?).getD 0

/-- The monthly branch of `resolve_window`. -/
def resolveMonths (config : Object) (now : Int) (watermark : Option Int) : Object :=
  -- monthly data is complete only through the month before `now`
  let endMonth := monthIndex now - 2 - intAt config "ingestion_lag_months"
  let startMonth := endMonth - intAt config "lookback_months" + 1
  let startMonth := match watermark with
    | some mark => max startMonth (min (monthIndex mark - 1 - intAt config "overlap_months") endMonth)
    | none => startMonth
  window (monthText startMonth) (monthText endMonth)

/-- The granularity a rolling window names. -/
def granularity (config : Object) : String := ((config.get "granularity").str?).getD ""

/-- The end of a rolling window of days or hours. -/
def windowEnd (config : Object) (now : Int) : Result Int := do
  let stop ← checked (now - intAt config "ingestion_lag_seconds" * second)
  pure (if granularity config = "day" then truncateDay (truncateHour stop) else truncateHour stop)

/-- The start of a rolling window of days or hours. -/
def windowStart (config : Object) (stop : Int) (watermark : Option Int) : Result Int := do
  let start ← checked (stop - intAt config "lookback_seconds" * second)
  let start ← match watermark with
    | some mark => do
        let marked ← checked (mark - intAt config "overlap_seconds" * second)
        let before ← checked (stop - hour)
        pure (max start (min marked before))
    | none => pure start
  pure (if granularity config = "day" then truncateDay (truncateHour start) else truncateHour start)

/-- `resolve_window`. -/
def resolveWindow (operation : String) (config : Object) (now : Int) (watermark : Option Int) :
    Result Object := do
  validateWindow operation config
  if (config.get "window_mode").eq (.str "fixed_window") then
    pure [("start", config.get "start"), ("end", config.get "end")]
  else if operation = "electricity_retail_sales" then
    pure (resolveMonths config now watermark)
  else do
    let stop ← windowEnd config now
    let start ← windowStart config stop watermark
    pure (if granularity config = "hour" then window (hourText start) (hourText stop)
      else window (dayText start) (dayText stop))

/-- `resolved_config`. -/
def resolvedConfig (config : Object) (window : Object) : Object :=
  ((config.without rollingKeys).set "window_mode" (.str "fixed_window")).update window

end NewsCollect.Providers
