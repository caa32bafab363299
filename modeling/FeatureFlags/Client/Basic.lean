import FeatureFlags.Client.Request
import FeatureFlags.Experiment.Table
import FeatureFlags.Operator.Extension

/-!
# Clients

`Client` is the state of one client: the table of experiments in force, its variants by name, its
custom operators and properties, its impression hub, its namespaces, and the global context.
`Application` is all clients and all variants, numbered, with the list of events observed so far.
Variants are kept outside clients because several clients can hold the same one.

`swapTable`, `storeFlag`, `giveName` and `bindVariant` each change one table or one variant.
Everything that a client does to its state is a sequence of such steps; the computations on an
application (`Run`) keep the changes made before an early end (`Stop`).
-/

namespace FeatureFlags

/-- An operator that is user code. -/
structure CustomOperator where
  arity : Arity
  run : List Value → Context → Program

/-- The state of a client. -/
structure Client where
  globalContext : Context
  now : Number
  operators : Dict CustomOperator
  properties : Dict CustomProperty
  experiments : ExperimentTable
  flags : Dict Handle
  hub : Hub Program
  namespaces : List String

/-- The arguments with which a client is made. -/
structure ClientConfig where
  context : Context
  now : Number
  handlers : List (Handler Program)
  sink : Option (Handler Program)
  gateIsOpen : Bool

namespace Client

def ofConfig (c : ClientConfig) : Client :=
  { globalContext := c.context
    now := c.now
    operators := .empty
    properties := .empty
    experiments := .empty
    flags := .empty
    hub := ⟨c.handlers, c.sink, c.gateIsOpen⟩
    namespaces := [] }

instance : Inhabited Client := ⟨ofConfig ⟨.empty, .ofNat 0, [], none, false⟩⟩

end Client

/-- Variants and clients by number, and the events observed so far. -/
structure Application where
  variants : List Variant
  clients : List Client
  events : List Event

/-- Why a computation ends early. -/
inductive Stop where
  /-- User code failed. -/
  | failed
  /-- User code is nested too deeply. -/
  | nestedTooDeeply
  deriving DecidableEq, Repr

namespace Application

def ofVariants (vs : List Variant) : Application := ⟨vs, [], []⟩

/-- A computation on an application. Changes made before an early end are kept. -/
abbrev Run (α : Type) := ExceptT Stop (StateM Application) α

/-- The client of a number; an empty one if there is none. -/
def client (a : Application) (c : ClientId) : Client := a.clients.getD c default

/-- The variant of a number; an empty one if there is none. -/
def variant (a : Application) (h : Handle) : Variant := a.variants.getD h default

def modifyClient (a : Application) (c : ClientId) (f : Client → Client) : Application :=
  { a with clients := a.clients.modify c f }

def modifyVariant (a : Application) (h : Handle) (f : Variant → Variant) : Application :=
  { a with variants := a.variants.modify h f }

/-- Replaces the table of experiments of a client. -/
def swapTable (a : Application) (c : ClientId) (t : ExperimentTable) : Application :=
  a.modifyClient c fun s => { s with experiments := t }

def storeFlag (a : Application) (c : ClientId) (name : String) (h : Handle) : Application :=
  a.modifyClient c fun s => { s with flags := s.flags.insert name h }

/-- Names a variant that has no name. -/
def giveName (a : Application) (h : Handle) (name : String) : Application :=
  a.modifyVariant h fun v => v.withName name

/-- Binds a variant to a client, and to the experiment that controls its name in a table. -/
def bindVariant (a : Application) (c : ClientId) (t : ExperimentTable) (h : Handle) : Application :=
  a.modifyVariant h fun v => { v with binding := some ⟨c, t.forFlag? v.name⟩ }

def addVariant (a : Application) (v : Variant) : Application := { a with variants := a.variants ++ [v] }

def addClient (a : Application) (c : ClientConfig) : Application :=
  { a with clients := a.clients ++ [.ofConfig c] }

def findFlag? (a : Application) (c : ClientId) (name : String) : Option Handle :=
  (a.client c).flags.find? name

namespace Run

def emit (e : Event) : Run Unit := modify fun a => { a with events := a.events ++ [e] }

def report (d : Diagnostic) : Run Unit := emit (.reported d)

def client (c : ClientId) : Run Client := return (← get).client c

def variant (h : Handle) : Run Variant := return (← get).variant h

def modifyClient (c : ClientId) (f : Client → Client) : Run Unit := modify (·.modifyClient c f)

def create (v : Variant) : Run Handle := modifyGet fun a => (a.variants.length, a.addVariant v)

end Run

end Application

end FeatureFlags
