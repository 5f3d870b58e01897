/-
# Faults of documents

A document is read in one pass, and the first fault met is the outcome. There
are three sorts: the text is no JSON, the text ends too early, or it is JSON of
another shape than asked for. The last sort carries a remark where one helps.
-/

namespace NetTopology.Json

/-- What does not fit the asked shape. -/
inductive Detail where
  /-- A field that has no default is absent. -/
  | missingField (name : String)
  /-- A field is given twice. -/
  | duplicateField (name : String)
  /-- A text that should be one of several words is another one. -/
  | unknownVariant (given : String) (expected : List String)
  /-- A text that should be an IPv4 address is none. -/
  | badAddress
  deriving DecidableEq

/-- The text of a remark. -/
def Detail.message : Detail → String
  | missingField name => "missing field `" ++ name ++ "`"
  | duplicateField name => "duplicate field `" ++ name ++ "`"
  | unknownVariant given expected =>
    "unknown variant `" ++ given ++ "`, expected one of " ++
      ", ".intercalate (expected.map fun word => "`" ++ word ++ "`")
  | badAddress => "invalid IPv4 address syntax"

/-- Why a document cannot be read. -/
inductive Fault where
  /-- The text is no JSON. -/
  | malformed
  /-- The text ends too early. -/
  | truncated
  /-- The text is JSON of another shape. -/
  | misshapen (detail : Option Detail)
  deriving DecidableEq

end NetTopology.Json
