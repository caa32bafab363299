import FeatureFlags.Json.Reader
import FeatureFlags.Text.Quoted

/-!
# Custom properties

A custom property is a named value of a fixed type that conditions can ask for. Its value is a
function of the context (`CustomProperty.generate`), which may be constant or yield nothing. The
carrier of the type (`PropertyType.Carrier`) ensures that the value has the declared type.
-/

namespace FeatureFlags

inductive PropertyType where
  | text
  | boolean
  | number
  deriving DecidableEq, Repr, Inhabited

namespace PropertyType

/-- The Lean type of the values of a property type. -/
def Carrier : PropertyType → Type
  | text => String
  | boolean => Bool
  | number => Number

/-- A value of the type as a value of the expression language. -/
def inject : (t : PropertyType) → t.Carrier → Value
  | text, s => .text s
  | boolean, b => .boolean b
  | number, x => .number x

/-- The value of the type that a value of the expression language is. -/
def project? : (t : PropertyType) → Value → Option t.Carrier
  | text, v => v.text?
  | boolean, v => v.boolean?
  | number, v => v.number?

def name : PropertyType → String
  | text => "string"
  | boolean => "boolean"
  | number => "number"

def ofName? (s : String) : Option PropertyType :=
  if s = "string" then some text
  else if s = "boolean" then some boolean
  else if s = "number" then some number
  else none

def shown : PropertyType → List Char
  | text => "String".toList
  | boolean => "Boolean".toList
  | number => "Number".toList

open Json

/-- The type of the name at the start of the lexemes. -/
def nameReader : Reader PropertyType
  | .text (some s) :: rest =>
    match ofName? s with
    | some t => .ok (t, rest)
    | none => .error .misfit
  | ls => .error (misfit ls)

/-- Reads a type: its name, or an object whose only member has that name and is null. -/
def reader : Reader PropertyType
  | .openBrace :: ls =>
    nested 0 (fun _ ls => do
      let (t, rest) ← nameReader ls
      match ← skipColon rest with
      | .null :: rest => .ok (t, ← skipCloseBrace rest)
      | rest => .error (misfit rest)) ls
  | .text (some s) :: rest => nameReader (.text (some s) :: rest)
  | .broken true f _ :: _ => .error f
  | ls => .error (unexpected ls)

def read (s : String) : Except Fault PropertyType := readWhole reader s

end PropertyType

/-- A named value of a type. -/
structure CustomProperty where
  name : String
  type : PropertyType
  generate : Context → Option type.Carrier

namespace CustomProperty

def constant (name : String) (type : PropertyType) (v : type.Carrier) : CustomProperty :=
  ⟨name, type, fun _ => some v⟩

/-- A property whose value is that of `key` in the context, if it has the type. -/
def fromContext (name : String) (type : PropertyType) (key : String) : CustomProperty :=
  ⟨name, type, fun c => type.project? (c.get key)⟩

def value (p : CustomProperty) (c : Context) : Value := .ofOption ((p.generate c).map p.type.inject)

def shown (p : CustomProperty) : List Char :=
  "CustomProperty \x7b name: ".toList ++ Text.quoted p.name ++ ", property_type: ".toList
    ++ p.type.shown ++ ", .. \x7d".toList

end CustomProperty

end FeatureFlags
