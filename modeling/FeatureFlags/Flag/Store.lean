import FeatureFlags.Variant

/-!
# Adding variants

The two ways to add a variant to a table of variants by name. `FlagStore.add` names it, stores it,
and announces it, in this order, so an observer that is told of a variant finds it stored; an entry
under the same name is replaced, which is reported. `FlagStore.getOrAdd` returns the entry of a
name, and makes and adds one if there is none. Entries are never removed.

Both are generic in what they need (`FlagStore`), as announcing differs: a client binds the variant,
and a `FlagRegister` calls its observers.
-/

namespace FeatureFlags

/-- The operations that adding a variant needs. -/
structure FlagStore (m : Type → Type) where
  /-- The variant of a name. -/
  find? : String → m (Option Handle)
  /-- Stores a variant under a name. -/
  store : String → Handle → m Unit
  /-- Names a variant that has no name. -/
  giveName : Handle → String → m Unit
  /-- Announces a stored variant. -/
  announce : Handle → m Unit
  /-- Reports a diagnostic. -/
  report : Diagnostic → m Unit

namespace FlagStore

variable {m : Type → Type} [Monad m]

/-- Adds a variant under a name, and returns the previous one. -/
def add (s : FlagStore m) (name : String) (h : Handle) : m (Option Handle) := do
  s.giveName h name
  let previous ← s.find? name
  s.store name h
  if previous.isSome then s.report (.replacedFlag name)
  s.announce h
  pure previous

/-- The variant of a name. If there is none, one is made and added. -/
def getOrAdd (s : FlagStore m) (name : String) (create : m Handle) : m Handle := do
  match ← s.find? name with
  | some h => pure h
  | none =>
    let h ← create
    s.giveName h name
    s.store name h
    s.announce h
    pure h

end FlagStore

end FeatureFlags
