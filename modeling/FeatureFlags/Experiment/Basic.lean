import FeatureFlags.Json.Basic
import FeatureFlags.Text.Quoted

/-!
# Experiments

`ExperimentModel` is an experiment as a configuration delivers it, with its condition and the flags
that it controls. `Experiment` is the part that evaluations and impressions show. Flags and labels
are kept as ascending lists without repetition; `orderedNames` makes such a list from any other.
-/

namespace FeatureFlags

/-- What evaluations and reports show of an experiment. -/
structure Experiment where
  identifier : String
  name : String
  isArchived : Bool
  labels : List String
  deriving DecidableEq, Repr, Inhabited

/-- An experiment as a configuration delivers it. -/
structure ExperimentModel where
  id : String
  name : String
  condition : String
  isArchived : Bool
  flags : List String
  labels : List String
  deriving DecidableEq, Repr, Inhabited

/-- Puts a name into an ascending list without repetition. -/
def insertName (name : String) : List String → List String
  | [] => [name]
  | n :: rest =>
    if name < n then name :: n :: rest else if name = n then n :: rest else n :: insertName name rest

/-- The names of a list in ascending order, each once. -/
def orderedNames (names : List String) : List String := names.foldr insertName []

namespace ExperimentModel

def make (id name condition : String) (isArchived : Bool) (flags labels : List String) :
    ExperimentModel :=
  ⟨id, name, condition, isArchived, orderedNames flags, labels⟩

/-- The part that evaluations and reports show. -/
def experiment (m : ExperimentModel) : Experiment := ⟨m.id, m.name, m.isArchived, m.labels⟩

/-- A model as data, in the form in which configurations deliver it. -/
def toJson (m : ExperimentModel) : Json :=
  .object
    [("_id", .text m.id),
     ("name", .text m.name),
     ("deploymentConfiguration", .object [("condition", .text m.condition)]),
     ("archived", .boolean m.isArchived),
     ("featureFlags", .array (m.flags.map fun f => .object [("name", .text f)])),
     ("labels", .texts m.labels)]

end ExperimentModel

namespace Experiment

def toJson (e : Experiment) : Json :=
  .object
    [("identifier", .text e.identifier),
     ("name", .text e.name),
     ("isArchived", .boolean e.isArchived),
     ("labels", .texts e.labels)]

def shown (e : Experiment) : List Char :=
  "Experiment \x7b identifier: ".toList ++ Text.quoted e.identifier
    ++ ", name: ".toList ++ Text.quoted e.name
    ++ ", is_archived: ".toList ++ (Value.booleanText e.isArchived).toList
    ++ ", labels: ".toList ++ Text.bracketed (e.labels.map Text.quoted) ++ " \x7d".toList

end Experiment

end FeatureFlags
