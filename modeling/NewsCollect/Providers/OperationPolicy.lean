/-
**The policies of the operations.**

What becomes of the facts of an operation: the type, the kind and the source of its evidence, the
access it has, whether it has content, and the retention classes its raw items may have.
-/

import NewsCollect.Errors

namespace NewsCollect.Providers

structure FactualOperationPolicy where
  itemType : String
  evidenceKind : String
  sourceType : String
  access : String
  content : Option String
  retention : List String
deriving DecidableEq, Repr

/-- `POLICIES`. -/
def policies : List ((String × String) × FactualOperationPolicy) :=
  [(("marketaux", "news_all"), ⟨"marketaux_news", "news", "news", "link_only", some "article",
      ["link_only", "metadata_only"]⟩),
    (("finnhub", "quote"), ⟨"finnhub_quote", "market_data", "market_data", "licensed", none,
      ["metadata_only"]⟩),
    (("finnhub", "company_news"), ⟨"finnhub_company_news", "news", "news", "licensed",
      some "article", ["metadata_only", "link_only"]⟩),
    (("eia", "electricity_retail_sales"), ⟨"eia_energy_timeseries", "energy_official",
      "official_energy", "public_summary", none, ["metadata_only"]⟩),
    (("eia", "electricity_rto_region_data"), ⟨"eia_energy_timeseries", "energy_official",
      "official_energy", "public_summary", none, ["metadata_only"]⟩),
    (("sec_edgar", "submissions_recent"), ⟨"sec_filing", "disclosure", "disclosure", "link_only",
      some "official_release", ["link_only", "metadata_only"]⟩)]

/-- The contract versions an operation is read from. -/
def contractVersions (operation : String) : List Int :=
  if operation = "company_news" ∨ operation = "electricity_rto_region_data" then [2]
  else if operation = "quote" then [1]
  else [1, 2]

/-- `factual_operation_policy`. -/
def factualOperationPolicy (provider operation : String) (contractVersion : Option Int := none) :
    Result FactualOperationPolicy := do
  require (contractVersion.all (contractVersions operation).contains) .valueError
    "factual_operation_version_unsupported"
  match policies.lookup (provider, operation) with
    | some policy => pure policy
    | none => raise .valueError "factual_operation_unsupported"

end NewsCollect.Providers
