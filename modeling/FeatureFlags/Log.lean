import FeatureFlags.Diagnostic

/-!
# Logs

Computations whose only effect is to report diagnostics in order (`Logged`).
-/

namespace FeatureFlags

/-- A computation that reports diagnostics. -/
abbrev Logged (α : Type) := StateM (List Diagnostic) α

namespace Logged

def report (d : Diagnostic) : Logged Unit := modify (· ++ [d])

/-- The result of a computation and what it reported. -/
def runLogged {α : Type} (x : Logged α) : α × List Diagnostic := StateT.run x []

end Logged

end FeatureFlags
