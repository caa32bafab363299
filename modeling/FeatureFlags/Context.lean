import FeatureFlags.Dict
import FeatureFlags.Value

/-!
# Contexts

A `Context` maps attribute names to values; conditions are evaluated in one. `Context.get` yields
undefined for a missing attribute. In `base.overlay top` an entry of `top` replaces the entry of the
same name in `base`, even if its value is undefined (`lookup?_overlay`).
-/

namespace FeatureFlags

/-- Named attributes. -/
structure Context where
  attributes : Dict Value
  deriving Inhabited

namespace Context

def empty : Context := ⟨.empty⟩

/-- The entry under a name, if there is one. -/
def lookup? (c : Context) (name : String) : Option Value := c.attributes.find? name

/-- The value of a name; undefined if there is no entry. -/
def get (c : Context) (name : String) : Value := .ofOption (c.lookup? name)

def insert (c : Context) (name : String) (value : Value) : Context := ⟨c.attributes.insert name value⟩

/-- The context of a list of pairs; of two pairs with one name the later one counts. -/
def ofList (pairs : List (String × Value)) : Context := ⟨.ofList pairs⟩

def isEmpty (c : Context) : Bool := c.attributes.isEmpty

def overlay (base top : Context) : Context := ⟨base.attributes.insertAll top.attributes.entries⟩

/-- Lays an optional context over `base`. -/
def overlay? (base : Context) : Option Context → Context
  | none => base
  | some top => base.overlay top

/-- Whether two contexts have the same names with equal values. As NaN does not equal itself, a context
with NaN does not equal itself. -/
def equals (c d : Context) : Bool :=
  c.attributes.size == d.attributes.size &&
    c.attributes.entries.all fun e =>
      match d.lookup? e.1 with
      | some v => e.2.equals v
      | none => false

/-- An entry of `top` hides the entry of `base` with the same name. -/
theorem lookup?_overlay {base top : Context} {name : String} :
    (base.overlay top).lookup? name = (top.lookup? name).or (base.lookup? name) :=
  Dict.find?_insertAll top.attributes.nodup

end Context

end FeatureFlags
