import FeatureFlags.Impression.Basic
import FeatureFlags.Expression.SyntaxError

/-!
# Diagnostics

`Diagnostic` lists what is reported to the log. Evaluation never fails, so a report is the only
trace of a malformed condition or a contradictory configuration. Each diagnostic has a severity, a
message and the data of the message.
-/

namespace FeatureFlags

/-- The result of evaluating a variant: the value, and whether it is the default because no experiment
decided otherwise. -/
structure Outcome where
  value : String
  isDefault : Bool
  deriving DecidableEq, Repr, Inhabited

def Outcome.toJson (o : Outcome) : Json :=
  .object [("value", .text o.value), ("isDefault", .boolean o.isDefault)]

/-- The log level of a diagnostic. -/
inductive Severity where
  | trace
  | debug
  | info
  | warn
  | error
  deriving DecidableEq, Repr, Inhabited

inductive Diagnostic where
  /-- A text is not an expression. -/
  | malformedExpression (expression : String) (error : SyntaxError)
  /-- An operator found fewer operands than it takes. -/
  | stackUnderflow (expression : String)
  /-- An expression calls an operator that is not registered. -/
  | unknownOperator (expression operator : String)
  /-- An expression left none or several values. -/
  | unbalancedStack (expression : String) (depth : Nat)
  /-- An operator replaced another one. -/
  | replacedOperator (operator : String)
  /-- A pattern is not a regular expression. -/
  | invalidPattern (pattern : String)
  /-- An experiment lists a flag that an earlier experiment controls. -/
  | shadowedFlag (flag experiment boundExperiment : String)
  /-- A variant replaced another one. -/
  | replacedFlag (flag : String)
  /-- A variant was added under a second name. -/
  | secondName (flag rejected : String)
  /-- A condition yielded a value that the variant does not list. -/
  | unlistedValue (flag value : String)
  /-- A variant was evaluated. -/
  | evaluatedVariant (flag : String) (outcome : Outcome)
  /-- An impression is about to be delivered. -/
  | deliveringImpression (impression : Impression)
  /-- A handler failed on an impression. -/
  | handlerFailed (flag : String)
  /-- A variant is being bound to the experiment that controls it; the empty name stands for none. -/
  | bindingFlag (flag experiment : String)
  /-- All variants were bound again. -/
  | reboundFlags (experiments flags : Nat)
  /-- A namespace was registered twice. -/
  | duplicateNamespace (name : String)
  /-- A payload is not a configuration. -/
  | unreadableConfiguration
  /-- A configuration holds an experiment that does not fit. -/
  | skippedExperiment (experiment : Json)
  deriving Inhabited

namespace Diagnostic

def severity : Diagnostic → Severity
  | malformedExpression .. | stackUnderflow .. | unknownOperator .. | unbalancedStack ..
  | invalidPattern .. | unlistedValue .. => .debug
  | evaluatedVariant .. | deliveringImpression .. | bindingFlag .. => .trace
  | reboundFlags .. => .info
  | replacedOperator .. | shadowedFlag .. | replacedFlag .. | secondName ..
  | unreadableConfiguration | skippedExperiment .. => .warn
  | handlerFailed .. | duplicateNamespace .. => .error

def message : Diagnostic → String
  | malformedExpression _ e => "failed to parse expression: " ++ e.message
  | stackUnderflow _ => "operand stack underflow"
  | unknownOperator .. => "unknown operator"
  | unbalancedStack .. => "expression left an unbalanced stack"
  | replacedOperator _ => "replaced existing operator"
  | invalidPattern _ => "invalid regular expression:"
  | shadowedFlag .. => "flag is referenced by more than one experiment, keeping the first one"
  | replacedFlag _ => "flag with the same name already exists, replacing it"
  | secondName .. => "variant already has a name, keeping the original one"
  | unlistedValue .. => "evaluated value is not one of the variant options"
  | evaluatedVariant .. => "evaluated a variant"
  | deliveringImpression _ => "invoking impression handlers"
  | handlerFailed _ => "impression handler panicked"
  | bindingFlag .. => "binding flag"
  | reboundFlags .. => "rebound flags to experiments"
  | duplicateNamespace _ => "namespace is already registered"
  | unreadableConfiguration => "failed to parse configuration: invalid configuration payload"
  | skippedExperiment _ => "skipping experiment that failed to parse"

/-- The data of a diagnostic, by name. -/
def fields : Diagnostic → List (String × Json)
  | malformedExpression s _ => [("expression", .text s)]
  | stackUnderflow s => [("expression", .text s)]
  | unknownOperator s o => [("expression", .text s), ("operator", .text o)]
  | unbalancedStack s n => [("expression", .text s), ("depth", .number (.natural n))]
  | replacedOperator o => [("operator", .text o)]
  | invalidPattern p => [("pattern", .text p)]
  | shadowedFlag f e b =>
    [("flag_name", .text f), ("experiment", .text e), ("bound_experiment", .text b)]
  | replacedFlag f => [("flag_name", .text f)]
  | secondName f r => [("flag_name", .text f), ("rejected_name", .text r)]
  | unlistedValue f v => [("flag_name", .text f), ("value", .text v)]
  | evaluatedVariant f o => [("flag_name", .text f), ("result", o.toJson)]
  | deliveringImpression i => [("impression", i.toJson)]
  | handlerFailed f => [("flag_name", .text f)]
  | bindingFlag f e => [("flag_name", .text f), ("experiment", .text e)]
  | reboundFlags e f =>
    [("experiments", .number (.natural e)), ("flags", .number (.natural f))]
  | duplicateNamespace n => [("namespace", .text n)]
  | unreadableConfiguration => []
  | skippedExperiment e => [("experiment", e)]

end Diagnostic

end FeatureFlags
