import FeatureFlags.Variant

/-!
# Containers

A container is a list of variants under a namespace, registered together. `Container.fullName` puts
the namespace and a point before the name of an entry; with an empty namespace names stay as they
are.
-/

namespace FeatureFlags

/-- Variants with their full names under a namespace. -/
structure Container where
  nameSpace : String
  entries : List (String × Handle)
  deriving DecidableEq, Repr, Inhabited

namespace Container

def fullName (nameSpace name : String) : String :=
  if nameSpace.isEmpty then name else nameSpace ++ "." ++ name

def make (nameSpace : String) (entries : List (String × Handle)) : Container :=
  ⟨nameSpace, entries.map fun e => (fullName nameSpace e.1, e.2)⟩

def entryShown (name : String) (v : Variant) : List Char :=
  ['('] ++ Text.quoted name ++ ", ".toList ++ v.shown ++ [')']

def shown (c : Container) (variant : Handle → Variant) : List Char :=
  "Container \x7b namespace: ".toList ++ Text.quoted c.nameSpace ++ ", entries: ".toList
    ++ Text.bracketed (c.entries.map fun e => entryShown e.1 (variant e.2)) ++ " \x7d".toList

end Container

end FeatureFlags
