import FeatureFlags.Diagnostic

/-!
# Delivering impressions

`Delivery.deliver` calls every handler that is present when the delivery begins, in the order in
which they were added. Then it calls the analytics sink, if the impression is tracked and the gate
is open (`analyse`). A handler that fails is reported, and the remaining ones are called.

`Delivery` holds what delivering needs, as clients and hubs differ in what a handler can do.
-/

namespace FeatureFlags

/-- A receiver of impressions; `react` is what it does with one. -/
structure Handler (ρ : Type) where
  label : String
  react : Impression → ρ

/-- The handlers, the analytics sink, and whether the gate of the sink is open. -/
structure Hub (ρ : Type) where
  handlers : List (Handler ρ)
  sink : Option (Handler ρ)
  isOpen : Bool

instance {ρ : Type} : Inhabited (Hub ρ) := ⟨⟨[], none, false⟩⟩

/-- An observable event. -/
inductive Event where
  /-- A handler or the sink was called. -/
  | handled (label : String) (i : Impression)
  /-- The gate was asked. -/
  | gateAsked (isOpen : Bool)
  /-- A diagnostic was reported. -/
  | reported (d : Diagnostic)
  deriving Inhabited

def Event.diagnostic? : Event → Option Diagnostic
  | reported d => some d
  | _ => none

/-- The operations that delivering needs. -/
structure Delivery (m : Type → Type) (ρ : Type) where
  /-- The current hub. -/
  hub : m (Hub ρ)
  /-- Runs a handler, and returns whether it succeeded. -/
  perform : ρ → m Bool
  /-- Emits an event. -/
  emit : Event → m Unit

namespace Delivery

variable {m : Type → Type} {ρ : Type} [Monad m]

def dispatch (d : Delivery m ρ) (i : Impression) (h : Handler ρ) : m Unit := do
  d.emit (.handled h.label i)
  let succeeded ← d.perform (h.react i)
  if !succeeded then d.emit (.reported (.handlerFailed i.name))

/-- Calls the sink, if there is one, the impression is tracked, and the gate is open. The gate is asked
only if its answer matters. -/
def analyse (d : Delivery m ρ) (i : Impression) : m Unit := do
  let hub ← d.hub
  match hub.sink with
  | none => pure ()
  | some sink =>
    if i.isTracked then
      d.emit (.gateAsked hub.isOpen)
      if hub.isOpen then d.dispatch i sink

def deliver (d : Delivery m ρ) (i : Impression) : m Unit := do
  d.emit (.reported (.deliveringImpression i))
  let hub ← d.hub
  hub.handlers.forM (d.dispatch i)
  d.analyse i

end Delivery

end FeatureFlags
