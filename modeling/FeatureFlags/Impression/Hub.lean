import FeatureFlags.Impression.Delivery

/-!
# Impression hubs

A hub by itself, without a client. Its handlers can fail, add handlers, set the gate, and deliver
further impressions: a nested delivery is completed before the handler goes on, and a handler added
during a delivery takes part only in later ones.

Handlers are trees of their actions (`Reaction`), which can depend on all earlier events. Since they
can deliver without end, `Hub.deliver` takes a limit on the nesting of deliveries.

The gate is a function of the scene: in `Hub.deliver` it is what it was last set to, in
`Hub.deliverBy` it is arbitrary.
-/

namespace FeatureFlags

/-- What a handler does with an impression. -/
inductive Reaction where
  /-- Succeeds. -/
  | done
  /-- Fails. -/
  | fail
  /-- Adds a handler. -/
  | addHandler (label : String) (react : Impression → Reaction) (next : Reaction)
  /-- Opens or closes the gate. -/
  | setGate (isOpen : Bool) (next : Reaction)
  /-- Continues depending on the events so far. -/
  | look (next : List Event → Reaction)
  /-- Delivers an impression. -/
  | deliver (i : Impression) (next : Reaction)

instance : Inhabited Reaction := ⟨.done⟩

namespace Hub

/-- A hub and the events observed so far. -/
structure Scene where
  hub : Hub Reaction
  events : List Event

/-- A computation on a hub; it fails if deliveries nest too deeply. -/
abbrev Run (α : Type) := StateT Scene Option α

def emit (e : Event) : Run Unit := modify fun s => { s with events := s.events ++ [e] }

def addHandler (h : Handler Reaction) : Run Unit :=
  modify fun s => { s with hub := { s.hub with handlers := s.hub.handlers ++ [h] } }

def setGate (isOpen : Bool) : Run Unit :=
  modify fun s => { s with hub := { s.hub with isOpen := isOpen } }

/-- Carries out a reaction, given how impressions are delivered, and returns whether it succeeded. -/
def perform (deliver : Impression → Run Unit) : Reaction → Run Bool
  | .done => pure true
  | .fail => pure false
  | .addHandler label react next => do
    addHandler ⟨label, react⟩
    perform deliver next
  | .setGate isOpen next => do
    setGate isOpen
    perform deliver next
  | .look next => do
    let s ← get
    perform deliver (next s.events)
  | .deliver i next => do
    deliver i
    perform deliver next

/-- The `Delivery` of a hub, given the gate and how nested impressions are delivered. -/
def delivery (gate : Scene → Bool) (deliver : Impression → Run Unit) : Delivery Run Reaction :=
  { hub := return { (← get).hub with isOpen := gate (← get) }
    perform := perform deliver
    emit := emit }

/-- Delivers an impression, with at most `limit` nested deliveries. -/
def deliverBy (gate : Scene → Bool) : (limit : Nat) → Impression → Run Unit
  | 0, _ => StateT.lift none
  | limit + 1, i => (delivery gate (deliverBy gate limit)).deliver i

/-- Delivers an impression, with the gate as it was last set. -/
def deliver : (limit : Nat) → Impression → Run Unit := deliverBy (·.hub.isOpen)

end Hub

end FeatureFlags
