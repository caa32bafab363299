import FeatureFlags.Experiment.Basic
import FeatureFlags.Json.Schema
import FeatureFlags.Json.Printer

/-!
# Experiments as data

The JSON shape of an `ExperimentModel` (`schema`), and its two readers: `ExperimentModel.read` reads
a text directly and skips unknown members, and `ofJson?` fits a value that was read before. `render`
writes a model.
-/

namespace FeatureFlags

open Json

namespace ExperimentModel

/-- The record around a condition. -/
def conditionSchema : Schema := .record (.cons "condition" none .text .nil)

/-- The record around the name of a flag. -/
def flagSchema : Schema := .record (.cons "name" none .text .nil)

def schema : Schema :=
  .record <|
    .cons "_id" none .text <|
    .cons "name" none .text <|
    .cons "deploymentConfiguration" none conditionSchema <|
    .cons "archived" (some (.boolean false)) .boolean <|
    .cons "featureFlags" none (.list flagSchema) <|
    .cons "labels" (some (.array [])) (.list .text) .nil

def textOf? : Json → Option String
  | .text s => some s
  | _ => none

/-- The text of a record with one text. -/
def wrappedTextOf? : Json → Option String
  | .array [.text s] => some s
  | _ => none

def ofFields? : Json → Option ExperimentModel
  | .array [.text id, .text name, condition, .boolean isArchived, .array flags, .array labels] => do
    let condition ← wrappedTextOf? condition
    let flags ← flags.mapM wrappedTextOf?
    let labels ← labels.mapM textOf?
    some (make id name condition isArchived flags labels)
  | _ => none

/-- The model that a value stands for. -/
def ofJson? (v : Json) : Option ExperimentModel := (schema.fit? v).bind ofFields?

def reader : Reader ExperimentModel := fun ls => do
  let (v, rest) ← schema.read 0 ls
  match ofFields? v with
  | some m => .ok (m, rest)
  | none => .error .misfit

def read (s : String) : Except Fault ExperimentModel := readWhole reader s

def render (m : ExperimentModel) : String := m.toJson.render

end ExperimentModel

end FeatureFlags
