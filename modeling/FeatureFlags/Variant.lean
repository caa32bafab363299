import FeatureFlags.Diagnostic

/-!
# Variants

A `Variant` has a default and a list of options (`optionsOf`). It gets its name when it is first
added and keeps it (`withName`). A binding ties it to a client and to an experiment of this client,
which decides the value of the variant; an unbound variant, or one whose experiment does not decide,
has its default (`outcome`).

A flag is a variant with the options `false` and `true`. Variants are shared: all who hold the
number of a variant (`Handle`) see the same name and binding.
-/

namespace FeatureFlags

/-- The number of a variant. -/
abbrev Handle := Nat

/-- The number of a client. -/
abbrev ClientId := Nat

/-- The client to which a variant is bound, and the experiment that decides it. -/
structure Binding where
  client : ClientId
  experiment : Option ExperimentModel
  deriving DecidableEq, Repr, Inhabited

/-- A value with a default and options. -/
structure Variant where
  defaultValue : String
  options : List String
  name? : Option String
  binding : Option Binding
  deriving DecidableEq, Repr, Inhabited

namespace Variant

def addOption (options : List String) (o : String) : List String :=
  if options.contains o then options else options ++ [o]

/-- The options of a variant: the default first, then the given ones, each once. -/
def optionsOf (default : String) (options : List String) : List String :=
  options.foldl addOption [default]

def make (default : String) (options : List String) : Variant :=
  ⟨default, optionsOf default options, none, none⟩

def flag (default : Bool) : Variant := make (Value.booleanText default) ["false", "true"]

/-- The name of a variant; empty if it has none. -/
def name (v : Variant) : String := v.name?.getD ""

def experiment (v : Variant) : Option Experiment :=
  (v.binding.bind Binding.experiment).map ExperimentModel.experiment

/-- Names a variant that has no name. -/
def withName (v : Variant) (name : String) : Variant := { v with name? := v.name?.or (some name) }

/-- The diagnostic for adding a variant under a name other than its own. -/
def naming (v : Variant) (name : String) : Option Diagnostic :=
  match v.name? with
  | some n => if n = name then none else some (.secondName n name)
  | none => none

/-- The outcome of an evaluation that yielded a text or did not decide; `override` replaces the default.
-/
def outcome (v : Variant) (override decided : Option String) : Outcome :=
  match decided with
  | some s => ⟨s, false⟩
  | none => ⟨override.getD v.defaultValue, true⟩

def reports (v : Variant) (o : Outcome) : List Diagnostic :=
  (if o.isDefault || v.options.contains o.value then [] else [.unlistedValue v.name o.value])
    ++ [.evaluatedVariant v.name o]

def experimentShown : Option Experiment → List Char
  | some e => "Some(".toList ++ e.shown ++ [')']
  | none => "None".toList

def shown (v : Variant) : List Char :=
  "Variant \x7b name: ".toList ++ Text.quoted v.name
    ++ ", default_value: ".toList ++ Text.quoted v.defaultValue
    ++ ", options: ".toList ++ Text.bracketed (v.options.map Text.quoted)
    ++ ", experiment: ".toList ++ experimentShown v.experiment ++ " \x7d".toList

def shownAsFlag (v : Variant) : List Char := "Flag(".toList ++ v.shown ++ [')']

end Variant

end FeatureFlags
