import FeatureFlags.Container
import FeatureFlags.CustomProperty
import FeatureFlags.Configuration
import FeatureFlags.Impression.Delivery
import FeatureFlags.Operator.Basic

/-!
# Requests

`Request` lists the calls of the client interface, and `Response` what they return. User code is
what is registered with a client and run by it: custom operators and impression handlers. A
`Program` is such code as a tree of its actions: it returns a value, fails, or makes a request and
continues with the response.
-/

namespace FeatureFlags

/-- Why a client refuses a request. -/
inductive ClientError where
  /-- A namespace was registered before. -/
  | duplicateNamespace (name : String)
  /-- A payload is not a configuration. -/
  | invalidConfiguration (fault : Json.Fault)
  deriving DecidableEq, Repr

def ClientError.message : ClientError → String
  | duplicateNamespace name =>
    String.ofList ("namespace ".toList ++ Text.quoted name ++ " is already registered".toList)
  | invalidConfiguration _ => "invalid configuration payload"

inductive Response where
  /-- The request was carried out. -/
  | done
  /-- The request was refused. -/
  | refused (e : ClientError)
  /-- Whether a flag is on. -/
  | decided (isOn : Bool)
  /-- The value of a variant. -/
  | text (s : String)
  /-- The value of a variant, and whether it is the default. -/
  | outcome (o : Outcome)
  deriving DecidableEq, Repr

namespace Response

def value : Response → Value
  | decided b => .boolean b
  | text s => .text s
  | outcome o => .text o.value
  | _ => .undefined

end Response

/-- A request; `ρ` is the type of user code. -/
inductive Request (ρ : Type) where
  /-- Registers the variants of a container. -/
  | register (c : Container)
  /-- Replaces the experiments in force. -/
  | setExperiments (models : List ExperimentModel)
  /-- Puts the experiments of a configuration in force. -/
  | applyConfiguration (payload : String)
  /-- Whether the flag of a name is on; it is made with the default if it is missing. -/
  | isEnabled (name : String) (default : Bool) (context : Option Context)
  /-- The value of the variant of a name; it is made with the default and the options if it is missing. -/
  | value (name default : String) (options : List String) (context : Option Context)
  /-- The value of a variant that the caller holds, bound to any client or to none. -/
  | evaluate (h : Handle) (context : Option Context)
  /-- Adds or replaces a custom property. -/
  | addProperty (p : CustomProperty)
  /-- Adds or replaces a custom operator. -/
  | addOperator (name : String) (arity : Arity) (run : List Value → Context → ρ)
  /-- Adds a handler of impressions. -/
  | addHandler (label : String) (react : Impression → ρ)
  /-- Opens or closes the gate of the analytics sink. -/
  | setGate (isOpen : Bool)

/-- What a custom operator or a handler does. -/
inductive Program where
  /-- Returns a value; that of a handler is ignored. -/
  | done (v : Value)
  /-- Fails. -/
  | fail
  /-- Makes a request to a client and continues with the response. -/
  | request (client : ClientId) (r : Request Program) (next : Response → Program)

instance : Inhabited Program := ⟨.fail⟩

end FeatureFlags
