import FeatureFlags.Experiment.Wire

/-!
# Configurations

`Configuration.read` reads a payload. Each element of the experiment list is first read as a JSON
value and then fitted to the shape of a model (`element`): one that does not fit is kept apart
(`misfits`) and does not affect the rest (`models`). A text that is not JSON, or whose top level has
another shape, is refused as a whole.
-/

namespace FeatureFlags

open Json

/-- The elements of a payload's list of experiments: models, and values that do not fit. -/
structure Configuration where
  experiments : List (Except Json ExperimentModel)

namespace Configuration

def schema : Schema := .record (.cons "experiments" (some (.array [])) (.list .any) .nil)

/-- An element of the list of experiments. -/
def element (v : Json) : Except Json ExperimentModel :=
  match ExperimentModel.ofJson? v with
  | some m => .ok m
  | none => .error v

def ofFields : Json → Configuration
  | .array [.array items] => ⟨items.map element⟩
  | _ => ⟨[]⟩

def read (s : String) : Except Fault Configuration := (readWhole (schema.read 0) s).map ofFields

/-- The models that fit, in their order. -/
def models (c : Configuration) : List ExperimentModel := c.experiments.filterMap (·.toOption)

/-- The values that are no models, in their order. -/
def misfits (c : Configuration) : List Json :=
  c.experiments.filterMap fun e =>
    match e with
    | .error v => some v
    | .ok _ => none

end Configuration

end FeatureFlags
