import FeatureFlags.Client.Binding
import FeatureFlags.Expression.Evaluation

/-!
# Evaluating variants

`Run.evaluate` computes the value of a variant: it reads the binding once, lays the given context
over the global one, evaluates the condition of the bound experiment (`decide`), and delivers one
impression with the value that the caller gets. `valueOf` and `isEnabled` look the variant up by
name first, and add it if it is missing; `isOn` evaluates a flag that the caller holds. An unbound
variant yields its default and delivers nothing.

Conditions and deliveries run user code, that is custom operators and impression handlers, which can
make requests in turn. All definitions here take the function that runs user code as an argument
(`Runner`).
-/

namespace FeatureFlags

/-- A function that runs user code. -/
abbrev Runner := Program → Application.Run Value

def CustomOperator.operator (run : Runner) (o : CustomOperator) : Operator Application.Run :=
  ⟨o.arity, fun args c => run (o.run args c)⟩

namespace Client

open Application

/-- The operators that every client has; `c` is the number of the client. -/
def standardOperators (s : Client) (c : ClientId) : OperatorTable Run :=
  .standard s.now Run.report fun name => return (← Run.client c).properties.find? name

/-- The operator of a name; a custom operator takes precedence. -/
def operator? (s : Client) (run : Runner) (c : ClientId) (name : String) : Option (Operator Run) :=
  match s.operators.find? name with
  | some o => some (o.operator run)
  | none => (s.standardOperators c).find? name

end Client

namespace Application.Run

/-- Operators are looked up when a call is reached. -/
def surroundings (run : Runner) (c : ClientId) : Surroundings Run :=
  { lookup := fun name => return (← client c).operator? run c name
    report := report }

def succeeds (run : Runner) (p : Program) : Run Bool :=
  tryCatch (do let _ ← run p; pure true) fun
    | .failed => pure false
    | .nestedTooDeeply => throw .nestedTooDeeply

def delivery (run : Runner) (c : ClientId) : Delivery Run Program :=
  { hub := return (← client c).hub
    perform := succeeds run
    emit := emit }

/-- The text of the value of an experiment's condition. -/
def decide (run : Runner) (c : ClientId) (m : Option ExperimentModel) (context : Context) :
    Run (Option String) :=
  match m with
  | none => pure none
  | some m => return (← (surroundings run c).evaluate m.condition context).render

/-- The outcome of a variant, with its own default or the given one. The binding is read once, before
anything else. -/
def evaluate (run : Runner) (h : Handle) (context : Option Context) (default : Option String) :
    Run Outcome := do
  let v ← variant h
  match v.binding with
  | none =>
    let o := v.outcome default none
    (v.reports o).forM report
    pure o
  | some b =>
    let merged := (← client b.client).globalContext.overlay? context
    let decided ← decide run b.client b.experiment merged
    let o := v.outcome default decided
    (v.reports o).forM report
    (delivery run b.client).deliver ⟨v.name, o.value, v.experiment, merged⟩
    pure o

/-- The value of the variant of a name, which is added if it is missing. -/
def valueOf (run : Runner) (c : ClientId) (name default : String) (v : Variant)
    (context : Option Context) : Run String := do
  let h ← (flagStore c).getOrAdd name (create v)
  return (← evaluate run h context (some default)).value

/-- Whether the flag of a name is on; it is added if it is missing. -/
def isEnabled (run : Runner) (c : ClientId) (name : String) (default : Bool)
    (context : Option Context) : Run Bool :=
  return (← valueOf run c name (Value.booleanText default) (.flag default) context) == "true"

/-- Whether a flag that the caller holds is on. -/
def isOn (run : Runner) (h : Handle) (context : Option Context) : Run Bool :=
  return (← evaluate run h context none).value == "true"

/-- Registers a custom operator, and reports if it replaces another operator. -/
def addOperator (c : ClientId) (name : String) (o : CustomOperator) : Run Unit := do
  let s ← client c
  modifyClient c fun s => { s with operators := s.operators.insert name o }
  if s.operators.contains name || (s.standardOperators c).contains name then
    report (.replacedOperator name)

end Application.Run

end FeatureFlags
