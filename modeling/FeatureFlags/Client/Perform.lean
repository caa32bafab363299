import FeatureFlags.Client.Evaluation

/-!
# Performing requests

`Run.answer` dispatches a request to the function that carries it out, and `Run.follow` runs user
code, which is a tree of requests. The two call each other through user code: `runProgram limit` is
the runner that allows `limit` levels of nesting, and stops with `Stop.nestedTooDeeply` below them.
A computation that stays within the limit does not depend on it.
-/

namespace FeatureFlags

namespace Application.Run

/-- Carries out a request, with user code run by `run`. -/
def answer (run : Runner) (c : ClientId) : Request Program → Run Response
  | .register container => register c container
  | .setExperiments models => do
    setExperiments c models
    pure .done
  | .applyConfiguration payload => applyConfiguration c payload
  | .isEnabled name default context => return .decided (← isEnabled run c name default context)
  | .value name default options context =>
    return .text (← valueOf run c name default (.make default options) context)
  | .evaluate h context => return .outcome (← evaluate run h context none)
  | .addProperty p => do
    modifyClient c fun s => { s with properties := s.properties.insert p.name p }
    pure .done
  | .addOperator name arity operation => do
    addOperator c name ⟨arity, operation⟩
    pure .done
  | .addHandler label react => do
    modifyClient c fun s =>
      { s with hub := { s.hub with handlers := s.hub.handlers ++ [⟨label, react⟩] } }
    pure .done
  | .setGate isOpen => do
    modifyClient c fun s => { s with hub := { s.hub with isOpen := isOpen } }
    pure .done

/-- Runs user code, with nested user code run by `run`. -/
def follow (run : Runner) : Program → Run Value
  | .done v => pure v
  | .fail => throw .failed
  | .request c r next => do
    let a ← answer run c r
    follow run (next a)

/-- Runs user code with at most `limit` levels of nesting. -/
def runProgram : (limit : Nat) → Runner
  | 0 => fun _ => throw .nestedTooDeeply
  | limit + 1 => follow (runProgram limit)

def perform (limit : Nat) (c : ClientId) (r : Request Program) : Run Response :=
  answer (runProgram limit) c r

end Application.Run

namespace Application

/-- Carries out a request; the result has the response, or why there is none, and the final application.
-/
def perform (a : Application) (limit : Nat) (c : ClientId) (r : Request Program) :
    Except Stop Response × Application :=
  (Run.perform limit c r).run a

end Application

end FeatureFlags
