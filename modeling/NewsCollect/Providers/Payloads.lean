/-
**The payloads of the adapters.**

What the adapters know of an item is laid out as the payload of its operation. Some of its values
come from the configuration of the target, the others from the row of the provider.
-/

import NewsCollect.Errors

namespace NewsCollect.Providers

/-- A text, or nothing. -/
def textOrNull (text : Option String) : Json := (text.map Json.str).getD .null

/-- The payload of a news item, which has been sanitised. -/
def marketauxPayload (config item : Object) : Object :=
  [("provider_item_id", item.get "provider_item_id"), ("published_at", item.get "published_at"),
    ("title", item.get "display_title"), ("canonical_url", item.get "display_url"),
    ("source_identity", item.get "source_identity"), ("query", config.get "query"),
    ("language", config.get "language"), ("symbols", config.get "symbols"),
    ("description_coverage", .str "blocked"), ("snippet_coverage", .str "blocked")]

/-- The numbers of a quote. -/
def quoteFields : List String := ["c", "d", "dp", "h", "l", "o", "pc"]

/-- The payload of a quote, with its seven numbers. -/
def quotePayload (symbol published : String) (seconds : Int) (body : Object) : Object :=
  [("provider_item_id", .str (symbol ++ ":" ++ toString seconds)),
    ("published_at", .str published), ("symbol", .str symbol), ("provider_timestamp", .int seconds)] ++
    (quoteFields.map fun key => (key, body.get key)) ++
    [("currency", .str "unknown"), ("exchange", .str "unknown")]

/-- The payload of an item of company news. -/
def companyNewsPayload (config row : Object) (url : Option String) (identity published : String) :
    Object :=
  [("provider_item_id", .str identity), ("published_at", .str published),
    ("title", row.get "headline"), ("canonical_url", textOrNull url),
    ("source_identity", row.get "source"), ("symbol", config.get "symbol"),
    ("category", row.get "category"), ("summary_coverage", .str "blocked")]

/-- The payload of a price. -/
def retailPayload (published : Option String) (series period geography sector : String)
    (value unit : Json) : Object :=
  [("provider_item_id", .str (period ++ ":" ++ geography ++ ":" ++ sector)),
    ("published_at", textOrNull published), ("period", .str period), ("dataset", .str "electricity"),
    ("series_identity", .str series), ("geography", .str geography), ("sector", .str sector),
    ("metric", .str "price"), ("value", value), ("unit", unit)]

/-- The payload of a value of an hour. -/
def rtoPayload (sha256 : String → String) (operation series period region metric : String)
    (value unit : Json) : Object :=
  [("provider_item_id", .str ("rto:" ++ sha256 (series ++ ":" ++ period))),
    ("published_at", .str (period ++ ":00:00+00:00")), ("period", .str period),
    ("dataset", .str operation), ("series_identity", .str series), ("region", .str region),
    ("metric", .str metric), ("value", value), ("unit", unit)]

/-- The payload of a filing. -/
def filingPayload (cik ticker : Json) (published : Option String) (accession date : String)
    (form document : Json) (url : String) : Object :=
  [("provider_item_id", .str accession), ("published_at", textOrNull published), ("cik", cik),
    ("ticker", ticker), ("accession_number", .str accession), ("filing_date", .str date),
    ("form", form), ("primary_document", document), ("official_url", .str url),
    ("official_source", .bool true)]

end NewsCollect.Providers
