import FeatureFlags.Client.Basic
import FeatureFlags.Flag.Store

/-!
# Binding variants

The requests that add variants and change experiments: `Run.register` for a container,
`Run.setExperiments` for a list of models, and `Run.applyConfiguration` for a payload.

A variant is bound when it is added (`bindAdded`), to the experiment that the table in force assigns
to its name. When the table is replaced, `rebind` binds all variants of the client again, all to one
snapshot of the table.
-/

namespace FeatureFlags

namespace Application.Run

/-- Names a variant that has no name; reports if it has another one. -/
def giveName (h : Handle) (name : String) : Run Unit := do
  let v ← variant h
  match v.naming name with
  | some d => report d
  | none => modify (·.giveName h name)

/-- Binds a variant to a client and to the experiment that controls it in a table. -/
def bindVariant (c : ClientId) (t : ExperimentTable) (h : Handle) : Run Unit := do
  let v ← variant h
  report (.bindingFlag v.name (((t.forFlag? v.name).map (·.name)).getD ""))
  modify (·.bindVariant c t h)

/-- Binds a variant to a client and to the experiment in force. -/
def bindAdded (c : ClientId) (h : Handle) : Run Unit := do
  let s ← client c
  bindVariant c s.experiments h

/-- The `FlagStore` of a client: announcing a variant binds it. -/
def flagStore (c : ClientId) : FlagStore Run :=
  { find? := fun name => return (← get).findFlag? c name
    store := fun name h => modify (·.storeFlag c name h)
    giveName := giveName
    announce := bindAdded c
    report := report }

/-- Adds the variants of a container, unless its namespace was registered before. -/
def register (c : ClientId) (container : Container) : Run Response := do
  let s ← client c
  if s.namespaces.contains container.nameSpace then
    report (.duplicateNamespace container.nameSpace)
    pure (.refused (.duplicateNamespace container.nameSpace))
  else
    modifyClient c fun s => { s with namespaces := s.namespaces ++ [container.nameSpace] }
    container.entries.forM fun e => do
      let _ ← (flagStore c).add e.1 e.2
    pure .done

/-- Binds all variants of a client to the experiments in force. -/
def rebind (c : ClientId) : Run Unit := do
  let s ← client c
  s.flags.entries.forM fun e => bindVariant c s.experiments e.2
  report (.reboundFlags s.experiments.size s.flags.size)

def setExperiments (c : ClientId) (models : List ExperimentModel) : Run Unit := do
  (ExperimentTable.shadowings models).forM report
  modify (·.swapTable c (.ofModels models))
  rebind c

/-- Puts the experiments of a configuration in force. Those that do not fit are left out. -/
def applyConfiguration (c : ClientId) (payload : String) : Run Response := do
  match Configuration.read payload with
  | .error fault =>
    report .unreadableConfiguration
    pure (.refused (.invalidConfiguration fault))
  | .ok configuration =>
    configuration.misfits.forM fun v => report (.skippedExperiment v)
    setExperiments c configuration.models
    pure .done

end Application.Run

end FeatureFlags
