import FeatureFlags.Experiment.Table

/-!
# Experiment registers

`ExperimentRegister` holds the table in force. `exchange` replaces it and returns the previous
table; `forFlag?` looks a flag up in a snapshot of the table, so a lookup sees one table and changes
nothing.
-/

namespace FeatureFlags

/-- The table in force, and the diagnostics reported so far. -/
structure ExperimentRegister where
  table : ExperimentTable
  diagnostics : List Diagnostic

namespace ExperimentRegister

def empty : ExperimentRegister := ⟨.empty, []⟩

instance : Inhabited ExperimentRegister := ⟨empty⟩

abbrev Run (α : Type) := StateM ExperimentRegister α

/-- Puts other experiments in force, and returns the previous table. -/
def exchange (models : List ExperimentModel) : Run ExperimentTable :=
  modifyGet fun r =>
    (r.table, ⟨.ofModels models, r.diagnostics ++ ExperimentTable.shadowings models⟩)

def snapshot : Run ExperimentTable := return (← get).table

def forFlag? (flag : String) : Run (Option ExperimentModel) := return (← snapshot).forFlag? flag

end ExperimentRegister

end FeatureFlags
