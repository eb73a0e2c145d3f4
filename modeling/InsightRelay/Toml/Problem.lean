import InsightRelay.Fault

/-! The ways in which reading a TOML document can fail. -/

namespace InsightRelay.Toml

/-- Why a text could not be read into a record. -/
inductive Problem
  /-- The text is no TOML document. -/
  | malformed
  /-- The document does not fit the record it is read into. -/
  | unfit (fault : Fault)
deriving DecidableEq, Repr

/-- The words for a problem. -/
def Problem.message : Problem → String
  | malformed => "the text is not a TOML document"
  | unfit fault => fault.message

end InsightRelay.Toml
