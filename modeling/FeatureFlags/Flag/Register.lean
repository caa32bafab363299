import FeatureFlags.Flag.Store

/-!
# Flag registers

`FlagRegister` holds variants by name and calls its observers whenever one is added. An observer can
look at the register, and add variants and observers itself: variants that it adds are announced to
the observers present at that moment, and an observer added during an announcement hears only of
later ones.

Observers are trees of their actions (`Observation`), as is what is done from outside. Since they
can add variants without end, `FlagRegister.run` takes a limit on the nesting of announcements.
-/

namespace FeatureFlags

/-- A call of an observer: the variant announced, and whether the register held this variant under its
name; none if it held no variant there. -/
structure Sighting where
  observer : String
  variant : Handle
  name : String
  isStored : Option Bool
  deriving DecidableEq, Repr, Inhabited

/-- The observable state of a register: variants by number and by name, and the calls of observers so
far. -/
structure FlagView where
  variants : List Variant
  flags : Dict Handle
  sightings : List Sighting

namespace FlagView

def variant (r : FlagView) (h : Handle) : Variant := r.variants.getD h (.make "" [])

def find? (r : FlagView) (name : String) : Option Handle := r.flags.find? name

end FlagView

/-- How the variant for an unknown name is obtained. -/
inductive Creation where
  /-- A variant that the caller holds. -/
  | held (h : Handle)
  /-- A new variant with a default and options. -/
  | made (default : String) (options : List String)
  deriving DecidableEq, Repr, Inhabited

/-- A sequence of actions on a register. -/
inductive Observation where
  /-- No further action. -/
  | done
  /-- Continues depending on the observable state. -/
  | look (next : FlagView → Observation)
  /-- Adds a variant under a name, and continues with the previous one. -/
  | add (name : String) (h : Handle) (next : Option Handle → Observation)
  /-- Asks for the variant of a name; if there is none, one is created and added. -/
  | getOrAdd (name : String) (creation : Creation) (next : Handle → Observation)
  /-- Adds an observer, with its actions for each variant that is announced. -/
  | observe (label : String) (react : Handle → Observation) (next : Observation)

instance : Inhabited Observation := ⟨.done⟩

/-- An observer is called whenever a variant is added. -/
structure Observer where
  label : String
  react : Handle → Observation

/-- Variants by number and by name, observers, and the events so far. -/
structure FlagRegister extends FlagView where
  observers : List Observer
  diagnostics : List Diagnostic

namespace FlagRegister

instance : Inhabited FlagRegister := ⟨⟨⟨[], .empty, []⟩, [], []⟩⟩

/-- A register without entries beside the given variants. -/
def ofVariants (vs : List Variant) : FlagRegister := ⟨⟨vs, .empty, []⟩, [], []⟩

/-- A computation on a register; it fails if announcements nest too deeply. -/
abbrev Run (α : Type) := StateT FlagRegister Option α

def report (d : Diagnostic) : Run Unit :=
  modify fun r => { r with diagnostics := r.diagnostics ++ [d] }

def create (v : Variant) : Run Handle :=
  modifyGet fun r => (r.variants.length, { r with variants := r.variants ++ [v] })

/-- Names a variant that has no name. -/
def giveName (h : Handle) (name : String) : Run Unit := do
  let v := (← get).variant h
  match v.naming name with
  | some d => report d
  | none => modify fun r => { r with variants := r.variants.set h (v.withName name) }

def store (name : String) (h : Handle) : Run Unit :=
  modify fun r => { r with flags := r.flags.insert name h }

def observe (o : Observer) : Run Unit := modify fun r => { r with observers := r.observers ++ [o] }

/-- Records the call of an observer. -/
def witness (o : Observer) (h : Handle) : Run Unit :=
  modify fun r =>
    let name := (r.variant h).name
    { r with sightings := r.sightings ++ [⟨o.label, h, name, (r.find? name).map (· == h)⟩] }

/-- The `FlagStore` of a register, given how a variant is announced. -/
def flagStore (announce : Handle → Run Unit) : FlagStore Run :=
  { find? := fun name => return (← get).find? name
    store := store
    giveName := giveName
    announce := announce
    report := report }

/-- The variant of a creation. -/
def createBy : Creation → Run Handle
  | .held h => pure h
  | .made default options => create (.make default options)

/-- Carries out actions, given how a variant is announced. -/
def perform (announce : Handle → Run Unit) : Observation → Run Unit
  | .done => pure ()
  | .look next => do
    perform announce (next (← get).toFlagView)
  | .add name h next => do
    let previous ← (flagStore announce).add name h
    perform announce (next previous)
  | .getOrAdd name creation next => do
    let h ← (flagStore announce).getOrAdd name (createBy creation)
    perform announce (next h)
  | .observe label react next => do
    observe ⟨label, react⟩
    perform announce next

/-- Calls an observer, given how variants are announced that it adds. -/
def call (announce : Handle → Run Unit) (h : Handle) (o : Observer) : Run Unit := do
  witness o h
  perform announce (o.react h)

/-- Calls all observers present, with at most `limit` nested announcements. -/
def announce : (limit : Nat) → Handle → Run Unit
  | 0, _ => StateT.lift none
  | limit + 1, h => do
    let observers := (← get).observers
    observers.forM (call (announce limit) h)

/-- Adds a variant under a name, and returns the previous one. -/
def add (limit : Nat) (name : String) (h : Handle) : Run (Option Handle) :=
  (flagStore (announce limit)).add name h

/-- The variant of a name. If there is none, one is made and added. -/
def getOrAdd (limit : Nat) (name : String) (make : Run Handle) : Run Handle :=
  (flagStore (announce limit)).getOrAdd name make

/-- Carries out actions, with at most `limit` nested announcements. -/
def run (limit : Nat) (p : Observation) : Run Unit := perform (announce limit) p

/-- The outcome of a variant of a register, which is its default, as nothing is bound there. -/
def evaluate (h : Handle) : Run Outcome := do
  let v := (← get).variant h
  let o := v.outcome none none
  (v.reports o).forM report
  pure o

end FlagRegister

end FeatureFlags
