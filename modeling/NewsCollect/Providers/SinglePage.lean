/-
**The adapters of the first contract version.**

Each of the four adapters sends one request and makes a page of the answer. Before it does, it
checks the configuration once more.

* `marketauxConfigError`, `quoteSymbol`, `filerOf`: what the configuration is checked for.
-/

import NewsCollect.Providers.Contracts
import NewsCollect.Providers.RowRules

namespace NewsCollect.Providers

open SafeProjection Text

/-! ### Configurations -/

/-- A number that is not a boolean and not known to be at most zero. -/
def isTimeout : Json → Bool
  | .int value => 0 < value
  | .float numerator _ => 0 < numerator
  | .special value => value == .nan || value == .infinity
  | _ => false

/-- A text that is there, without a marker. -/
def isPlainText : Json → Bool
  | .str text => text ≠ "" && !hasMarker text
  | _ => false

/-- One to ten texts that are there, without a marker. -/
def isPlainList : Json → Bool
  | .arr items => !items.isEmpty && items.length ≤ 10 && items.all isPlainText
  | _ => false

section Marketaux

variable (library : StandardLibrary)

/-- `_validate_request`, of the configuration. -/
def marketauxConfigError (config : Object) : Option String :=
  if !config.keySubset ["query", "language", "symbols", "timeout_seconds"] then
    some "provider_config_fields_invalid"
  else if config.any fun entry => hasMarker entry.1 || hasMarker (strOf library entry.2) then
    some "provider_config_unsafe"
  else if !isTimeout (config.getD "timeout_seconds" (.float 10 0)) then
    some "provider_timeout_invalid"
  else if !(config.get "language").eq .null && !isPlainText (config.get "language") then
    some "provider_language_invalid"
  else if !(config.get "symbols").eq .null && !isPlainList (config.get "symbols") then
    some "provider_symbols_invalid"
  else none

end Marketaux

/-- The symbol of a quote. -/
def quoteSymbol (config : Object) : Option String := safeIdentifier 20 (config.get "symbol")

/-- The ticker and the number of a filer. The number is asked to be digits; those the registry lets
through are in ASCII. -/
def filerOf (config : Object) : Option (String × String) :=
  match safeIdentifier 12 (config.get "ticker"), safeIdentifier 10 (config.get "cik") with
  | some ticker, some cik => if cik.toList.all isDecimal then some (ticker, cik) else none
  | _, _ => none

end NewsCollect.Providers
