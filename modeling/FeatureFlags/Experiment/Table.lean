import FeatureFlags.Diagnostic

/-!
# Experiment tables

`ExperimentTable.ofModels` assigns each flag to the first model that lists it. A later model that
lists the flag too is shadowed there, which `shadowings` reports.
-/

namespace FeatureFlags

/-- Experiments, and for each flag listed by one of them the controlling one. -/
structure ExperimentTable where
  models : List ExperimentModel
  controllers : Dict ExperimentModel

namespace ExperimentTable

def empty : ExperimentTable := ⟨[], .empty⟩

instance : Inhabited ExperimentTable := ⟨empty⟩

/-- Which experiment controls which flag, and the shadowings reported so far. -/
structure Assignment where
  controllers : Dict ExperimentModel
  shadowings : List Diagnostic

/-- Assigns a flag to an experiment, unless it is assigned already. -/
def Assignment.addFlag (m : ExperimentModel) (a : Assignment) (flag : String) : Assignment :=
  match a.controllers.find? flag with
  | some other => { a with shadowings := a.shadowings ++ [.shadowedFlag flag m.name other.name] }
  | none => { a with controllers := a.controllers.insert flag m }

/-- Assigns to an experiment the flags that it lists. -/
def Assignment.addModel (a : Assignment) (m : ExperimentModel) : Assignment :=
  m.flags.foldl (Assignment.addFlag m) a

/-- Assigns flags to the experiments that list them, the first experiment first. -/
def assign (models : List ExperimentModel) : Assignment :=
  models.foldl Assignment.addModel ⟨.empty, []⟩

def ofModels (models : List ExperimentModel) : ExperimentTable := ⟨models, (assign models).controllers⟩

/-- The diagnostics for the table of a list of experiments. -/
def shadowings (models : List ExperimentModel) : List Diagnostic := (assign models).shadowings

def forFlag? (t : ExperimentTable) (flag : String) : Option ExperimentModel := t.controllers.find? flag

def size (t : ExperimentTable) : Nat := t.models.length

def isEmpty (t : ExperimentTable) : Bool := t.models.isEmpty

/-- What evaluations and reports show of the experiments, in their order. -/
def experiments (t : ExperimentTable) : List Experiment := t.models.map ExperimentModel.experiment

end ExperimentTable

end FeatureFlags
