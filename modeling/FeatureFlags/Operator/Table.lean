import FeatureFlags.Operator.Builtin

/-!
# Operator tables

`OperatorTable` maps names to operators. Inserting an operator under a name in use replaces the
previous one.
-/

namespace FeatureFlags

/-- Operators by name. -/
structure OperatorTable (m : Type → Type) where
  operators : Dict (Operator m)

namespace OperatorTable

variable {m : Type → Type}

instance : Inhabited (OperatorTable m) := ⟨⟨.empty⟩⟩

def empty : OperatorTable m := ⟨.empty⟩

def find? (t : OperatorTable m) (name : String) : Option (Operator m) := t.operators.find? name

def contains (t : OperatorTable m) (name : String) : Bool := t.operators.contains name

/-- The table with one more operator, or with another one under a name in use. -/
def insert (t : OperatorTable m) (name : String) (o : Operator m) : OperatorTable m :=
  ⟨t.operators.insert name o⟩

/-- Registers several operators, from the left. -/
def insertAll (t : OperatorTable m) (os : List (String × Operator m)) : OperatorTable m :=
  ⟨t.operators.insertAll os⟩

def builtin [Monad m] (now : Number) : OperatorTable m := empty.insertAll (builtinOperators now)

end OperatorTable

end FeatureFlags
