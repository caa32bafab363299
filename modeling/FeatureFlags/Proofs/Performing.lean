import FeatureFlags.Proofs.Conduct

/-!
# What requests do

For each request, the application that it leads to. A request that evaluates no variant runs no user
code and always has a response: `Application.Performs` lists the cases of `register`,
`setExperiments`, `applyConfiguration`, `addProperty`, `addOperator`, `addHandler` and `setGate`,
and `performs` shows that these are all. A request that evaluates a variant (`Request.evaluates`)
begins by finding it, or by making and adding it (`Application.Begins`).

Properties of single requests are proved by cases on `Performs` and `Begins`. `Application.callAll`
carries out a list of requests.
-/

namespace FeatureFlags

namespace Client

def withProperty (s : Client) (p : CustomProperty) : Client :=
  { s with properties := s.properties.insert p.name p }

def withHandler (s : Client) (h : Handler Program) : Client :=
  { s with hub := { s.hub with handlers := s.hub.handlers ++ [h] } }

def withGate (s : Client) (isOpen : Bool) : Client := { s with hub := { s.hub with isOpen := isOpen } }

theorem Arranges.property (p : CustomProperty) : Arranges (·.withProperty p) :=
  ⟨fun _ => rfl, fun _ => rfl, fun _ => rfl⟩

theorem Arranges.handler (h : Handler Program) : Arranges (·.withHandler h) :=
  ⟨fun _ => rfl, fun _ => rfl, fun _ => rfl⟩

theorem Arranges.gate (isOpen : Bool) : Arranges (·.withGate isOpen) :=
  ⟨fun _ => rfl, fun _ => rfl, fun _ => rfl⟩

end Client

namespace Request

/-- Whether a request evaluates a variant. -/
def evaluates : Request Program → Bool
  | .isEnabled .. => true
  | .value .. => true
  | .evaluate .. => true
  | _ => false

/-- The name that a request asks for, and the variant to be made for it if there is none. -/
def flag? : Request Program → Option (String × Variant)
  | .isEnabled name default _ => some (name, .flag default)
  | .value name default options _ => some (name, .make default options)
  | _ => none

theorem fresh_of_flag? {r : Request Program} {name : String} {v : Variant}
    (hr : r.flag? = some (name, v)) : v.name? = none ∧ v.binding = none := by
  cases r with
  | isEnabled _ default _ =>
    cases hr
    exact ⟨rfl, rfl⟩
  | value _ default options _ =>
    cases hr
    exact ⟨rfl, rfl⟩
  | _ => cases hr

inductive Brings : Request Program → Program → Prop
  | operator (name : String) (arity : Arity) (run : List Value → Context → Program)
    (args : List Value) (x : Context) : Brings (.addOperator name arity run) (run args x)
  | handler (label : String) (react : Impression → Program) (i : Impression) :
    Brings (.addHandler label react) (react i)

/-- The existing variants that a request adds. -/
inductive Adds : Request Program → Handle → Prop
  | entry {r : Container} {e : String × Handle} (he : e ∈ r.entries) : Adds (.register r) e.2

end Request

namespace Application

/-! ## Requests that run no user code -/

/-- The response to a request that evaluates no variant, and the final application up to events. -/
inductive Performs (a : Application) (c : ClientId) :
    Request Program → Response → Application → Prop
  | refused {r : Container} (hr : r.nameSpace ∈ (a.client c).namespaces) :
    Performs a c (.register r) (.refused (.duplicateNamespace r.nameSpace)) a
  | registered {r : Container} (hr : r.nameSpace ∉ (a.client c).namespaces) :
    Performs a c (.register r) .done ((a.modifyClient c (·.claim r.nameSpace)).addAll c r.entries)
  | configured (models : List ExperimentModel) :
    Performs a c (.setExperiments models) .done (a.configure c (.ofModels models))
  | applied {payload : String} {k : Configuration} (hk : Configuration.read payload = .ok k) :
    Performs a c (.applyConfiguration payload) .done (a.configure c (.ofModels k.models))
  | unreadable {payload : String} {fault : Json.Fault}
    (hk : Configuration.read payload = .error fault) :
    Performs a c (.applyConfiguration payload) (.refused (.invalidConfiguration fault)) a
  | property (p : CustomProperty) :
    Performs a c (.addProperty p) .done (a.modifyClient c (·.withProperty p))
  | operator (name : String) (arity : Arity) (run : List Value → Context → Program) :
    Performs a c (.addOperator name arity run) .done
      (a.modifyClient c (·.withOperator name ⟨arity, run⟩))
  | handler (label : String) (react : Impression → Program) :
    Performs a c (.addHandler label react) .done (a.modifyClient c (·.withHandler ⟨label, react⟩))
  | gate (isOpen : Bool) :
    Performs a c (.setGate isOpen) .done (a.modifyClient c (·.withGate isOpen))

variable {a b : Application} {c : ClientId} {r : Request Program} {x : Response}

theorem addAll_tell (es : List Event) (entries : List (String × Handle)) :
    (a.tell es).addAll c entries = (a.addAll c entries).tell es := by
  induction entries generalizing a with
  | nil => rfl
  | cons e rest ih => exact @ih (a.add c e.1 e.2)

theorem configure_tell (es : List Event) (t : ExperimentTable) :
    (a.tell es).configure c t = (a.configure c t).tell es :=
  Run.bindAll_tell (a := a.swapTable c t)

/-- Every request that evaluates no variant has a response. -/
theorem performs (run : Runner) (a : Application) (c : ClientId) (hr : r.evaluates = false) :
    ∃ x b es, (Run.answer run c r).run a = (.ok x, b.tell es) ∧ a.Performs c r x b := by
  cases r with
  | isEnabled name default x => cases hr
  | value name default options x => cases hr
  | evaluate h x => cases hr
  | register r =>
    by_cases hn : r.nameSpace ∈ (a.client c).namespaces
    · exact ⟨_, a, _, Run.register_run_of_registered (List.contains_iff_mem.mpr hn), .refused hn⟩
    · have hf : (a.client c).namespaces.contains r.nameSpace = false := by
        rw [Bool.eq_false_iff, ne_eq, List.contains_iff_mem]
        exact hn
      obtain ⟨es, -, hr⟩ := Run.register_run hf
      rw [addAll_tell] at hr
      exact ⟨_, _, es, hr, .registered hn⟩
  | setExperiments models =>
    obtain ⟨es, -, hr⟩ := @Run.setExperiments_run a c models
    rw [configure_tell] at hr
    exact ⟨_, _, _, Run.run_bind_ok hr, .configured models⟩
  | applyConfiguration payload =>
    obtain ⟨es, -, hr⟩ := @Run.applyConfiguration_run a c payload
    cases hk : Configuration.read payload with
    | error fault =>
      rw [hk] at hr
      exact ⟨_, a, es, hr, .unreadable hk⟩
    | ok k =>
      rw [hk] at hr
      dsimp only at hr
      rw [configure_tell] at hr
      exact ⟨_, _, es, hr, .applied hk⟩
  | addProperty p =>
    refine ⟨_, _, [], ?_, .property p⟩
    rw [Run.tell_nil]
    rfl
  | addOperator name arity operation =>
    obtain ⟨es, hr⟩ := @Run.addOperator_run a c name ⟨arity, operation⟩
    exact ⟨_, _, es, Run.run_bind_ok hr, .operator name arity operation⟩
  | addHandler label react =>
    refine ⟨_, _, [], ?_, .handler label react⟩
    rw [Run.tell_nil]
    rfl
  | setGate isOpen =>
    refine ⟨_, _, [], ?_, .gate isOpen⟩
    rw [Run.tell_nil]
    rfl

/-! ## Requests for values -/

/-- The application, up to events, when a request has found its variant or made it. -/
inductive Begins (a : Application) (c : ClientId) : Request Program → Application → Prop
  | held (h : Handle) (x : Option Context) : Begins a c (.evaluate h x) a
  | found {r : Request Program} {name : String} {v : Variant} {h : Handle}
    (hr : r.flag? = some (name, v)) (hf : a.findFlag? c name = some h) : Begins a c r a
  | made {r : Request Program} {name : String} {v : Variant} (hr : r.flag? = some (name, v))
    (hf : a.findFlag? c name = none) : Begins a c r (a.make c name v)

theorem make_tell (es : List Event) (name : String) (v : Variant) :
    (a.tell es).make c name v = (a.make c name v).tell es := rfl

/-- A request for a name begins by finding its variant, or by making and adding it. -/
theorem begins_of_flag? {name : String} {v : Variant} (a : Application) (c : ClientId)
    (hr : r.flag? = some (name, v)) :
    ∃ b es, (((Run.flagStore c).getOrAdd name (Run.create v)).run a).2 = b.tell es ∧
      a.Begins c r b := by
  cases hf : a.findFlag? c name with
  | some h =>
    refine ⟨a, [], ?_, .found hr hf⟩
    rw [Run.getOrAdd_run_of_found hf, Run.tell_nil]
  | none =>
    obtain ⟨es, -, hg⟩ := @Run.getOrAdd_run a c name v hf
    refine ⟨_, es, ?_, .made hr hf⟩
    rw [hg, make_tell]

/-! ## Unchanged parts -/

theorem client_addAll_congr {β : Type} {d : ClientId} {entries : List (String × Handle)}
    (p : Client → β) (hp : ∀ s f, p { s with flags := f } = p s) :
    p ((a.addAll c entries).client d) = p (a.client d) := by
  induction entries generalizing a with
  | nil => rfl
  | cons e rest ih => exact ih.trans (client_add_congr p hp)

@[simp] theorem length_clients_addAll {entries : List (String × Handle)} :
    (a.addAll c entries).clients.length = a.clients.length := by
  induction entries generalizing a with
  | nil => rfl
  | cons e rest ih => exact ih.trans length_clients_add

theorem Performs.globalContext (h : a.Performs c r x b) (d : ClientId) :
    (b.client d).globalContext = (a.client d).globalContext := by
  have hclaim : ∀ r : Container,
      ((a.modifyClient c (·.claim r.nameSpace)).client d).globalContext =
        (a.client d).globalContext := fun r =>
    client_modifyClient_congr _ (Client.Arranges.claim r.nameSpace).globalContext
  cases h with
  | refused => rfl
  | registered =>
    exact (client_addAll_congr Client.globalContext fun _ _ => rfl).trans (hclaim _)
  | configured models => exact client_configure_congr Client.globalContext fun _ _ => rfl
  | applied => exact client_configure_congr Client.globalContext fun _ _ => rfl
  | unreadable => rfl
  | property p => exact client_modifyClient_congr _ (Client.Arranges.property p).globalContext
  | operator name arity run =>
    exact client_modifyClient_congr _ (Client.Arranges.operator name ⟨arity, run⟩).globalContext
  | handler label react =>
    exact client_modifyClient_congr _ (Client.Arranges.handler ⟨label, react⟩).globalContext
  | gate isOpen => exact client_modifyClient_congr _ (Client.Arranges.gate isOpen).globalContext

theorem Performs.length_clients (h : a.Performs c r x b) :
    b.clients.length = a.clients.length := by
  cases h with
  | refused => rfl
  | registered => rw [length_clients_addAll, length_clients_modifyClient]
  | configured models => exact length_clients_configure
  | applied => exact length_clients_configure
  | unreadable => rfl
  | property p => exact length_clients_modifyClient
  | operator name arity run => exact length_clients_modifyClient
  | handler label react => exact length_clients_modifyClient
  | gate isOpen => exact length_clients_modifyClient

theorem Begins.globalContext (h : a.Begins c r b) (d : ClientId) :
    (b.client d).globalContext = (a.client d).globalContext := by
  cases h with
  | held => rfl
  | found => rfl
  | made => exact client_make_congr Client.globalContext fun _ _ => rfl

theorem Begins.length_clients (h : a.Begins c r b) : b.clients.length = a.clients.length := by
  cases h with
  | held => rfl
  | found => rfl
  | made => exact length_clients_add

end Application

/-! ## Sequences of requests -/

/-- A request, the client to which it is made, and the limit on nesting of user code. -/
structure Call where
  limit : Nat
  client : ClientId
  request : Request Program

namespace Application

variable {a : Application}

def call (a : Application) (k : Call) : Except Stop Response × Application :=
  a.perform k.limit k.client k.request

/-- Carries out requests in sequence. A request that ends early leaves its changes. -/
def callAll (a : Application) (calls : List Call) : Application :=
  calls.foldl (fun a k => (a.call k).2) a

/-- Carries out requests to one client, each with its own limit. -/
def performAll (a : Application) (c : ClientId) (requests : List (Nat × Request Program)) :
    Application :=
  a.callAll (requests.map fun r => ⟨r.1, c, r.2⟩)

theorem callAll_snoc {calls : List Call} {k : Call} :
    a.callAll (calls ++ [k]) = ((a.callAll calls).call k).2 := by
  simp [callAll]

end Application

end FeatureFlags
