import FeatureFlags.Experiment.Basic

/-!
# Impressions

An `Impression` reports an evaluation: the name of the variant, the value that the caller got, the
experiment that was bound when the evaluation began, and the context in which the condition was
evaluated.
-/

namespace FeatureFlags

/-- The report of one evaluation. -/
structure Impression where
  name : String
  value : String
  experiment : Option Experiment
  context : Context
  deriving Inhabited

namespace Impression

/-- Whether the impression goes to analytics: it has an experiment that is not archived. -/
def isTracked (i : Impression) : Bool :=
  match i.experiment with
  | some e => !e.isArchived
  | none => false

def experimentJson : Option Experiment → Json
  | some e => e.toJson
  | none => .null

def toJson (i : Impression) : Json :=
  .object
    [("reportingValue", .object [("name", .text i.name), ("value", .text i.value)]),
     ("experiment", experimentJson i.experiment),
     ("context", i.context.toJson)]

end Impression

end FeatureFlags
