import FeatureFlags.Regex.Language

/-!
# Automata

`Language.automaton` builds an automaton for a language. `accepts` reads a text once, from the left,
with the set of all states that can be reached; states that read nothing are followed at the same
place.
-/

namespace FeatureFlags.Regex

open Unicode (CharSet)

/-- A state and where it leads. -/
inductive State where
  /-- Reads a character of a set. -/
  | read (s : CharSet) (next : Nat)
  /-- Leads on where a condition holds. -/
  | test (k : Condition) (next : Nat)
  /-- Leads on in several ways. -/
  | fork (next : List Nat)
  /-- A match has been found. -/
  | accept
  deriving Repr, Inhabited

/-- Numbered states and the first of them. -/
structure Automaton where
  states : Array State
  start : Nat
  deriving Repr, Inhabited

def State.outDegree : State → Nat
  | read .. => 1
  | test .. => 1
  | fork next => next.length
  | accept => 0

/-- Adds a state and yields its number. -/
def addState (s : State) (states : Array State) : Nat × Array State := (states.size, states.push s)

/-- Adds a loop around what `body` adds: it may be passed any number of times before `next`. -/
def addLoop (body : Nat → Array State → Nat × Array State) (next : Nat) (states : Array State) :
    Nat × Array State :=
  let (self, states) := addState (.fork [next]) states
  let (start, states) := body self states
  (self, states.setIfInBounds self (.fork [start, next]))

/-- Adds what `body` adds, or nothing, before `next` or before what has been added to it. -/
def addOptional (body : Nat → Array State → Nat × Array State) (next : Nat)
    (added : Nat × Array State) : Nat × Array State :=
  let (start, states) := body added.1 added.2
  addState (.fork [start, next]) states

/-- Adds states that read a text. -/
def addText (text : List Char) (next : Nat) (states : Array State) : Nat × Array State :=
  text.foldr (fun c added => addState (.read (.singleton c) added.1) added.2) (next, states)

mutual
/-- Whether no text belongs to the language, whatever its conditions say. -/
def Language.isVoid : Language → Bool
  | .set members _ => members.isEmpty
  | .group inner => inner.isVoid
  | .repeated min _ _ inner => 0 < min && inner.isVoid
  | .sequence parts => Language.anyVoid parts
  | .choice branches => Language.allVoid branches
  | _ => false

def Language.anyVoid : List Language → Bool
  | [] => false
  | l :: rest => l.isVoid || Language.anyVoid rest

def Language.allVoid : List Language → Bool
  | [] => true
  | l :: rest => l.isVoid && Language.allVoid rest
end

mutual
/-- Adds the states of a language that lead to `next`, and yields the first of them. What has no texts is passed
at once or not at all, however often it is repeated. -/
def Language.addTo : Language → Nat → Array State → Nat × Array State
  | .empty, next, states => (next, states)
  | .literal text, next, states => addText text next states
  | .set members _, next, states => addState (.read members next) states
  | .condition k, next, states => addState (.test k next) states
  | .group inner, next, states => inner.addTo next states
  | .repeated min max _ inner, next, states =>
    if inner.isVoid then (if min = 0 then (next, states) else addState (.fork []) states)
    else
      let body := fun next states => inner.addTo next states
      let optional :=
        match max with
        | none => addLoop body next states
        | some max => Nat.repeat (addOptional body next) (max - min) (next, states)
      Nat.repeat (fun added => body added.1 added.2) min optional
  | .sequence parts, next, states => Language.addSequence parts next states
  | .choice branches, next, states =>
    let (starts, states) := Language.addBranches branches next states
    addState (.fork starts) states

/-- Adds the states of several languages that stand one after the other. -/
def Language.addSequence : List Language → Nat → Array State → Nat × Array State
  | [], next, states => (next, states)
  | l :: rest, next, states =>
    let (next, states) := Language.addSequence rest next states
    l.addTo next states

/-- Adds the states of several languages that all lead to `next`. -/
def Language.addBranches : List Language → Nat → Array State → List Nat × Array State
  | [], _, states => ([], states)
  | l :: rest, next, states =>
    let (start, states) := l.addTo next states
    let (starts, states) := Language.addBranches rest next states
    (start :: starts, states)
end

def Language.automaton (l : Language) : Automaton :=
  let (accept, states) := addState .accept #[]
  let (start, states) := l.addTo accept states
  ⟨states, start⟩

/-- What is reached at one place: the states that read, whether a match was found, and for each state the
last place at which it was reached, counted from 1. -/
structure Reached where
  found : Bool
  readers : List (CharSet × Nat)
  marks : Array Nat
  deriving Inhabited

namespace Automaton

/-- Follows states that read nothing. The first argument bounds the number of steps: every state is
left once at most, and where it leads then is looked at once more. -/
def follow (a : Automaton) (p : Between) (mark : Nat) :
    Nat → List Nat → List (CharSet × Nat) → Array Nat → Reached
  | 0, _, readers, marks => ⟨false, readers, marks⟩
  | _, [], readers, marks => ⟨false, readers, marks⟩
  | fuel + 1, q :: rest, readers, marks =>
    if marks.getD q 0 = mark then follow a p mark fuel rest readers marks
    else
      let marks := marks.setIfInBounds q mark
      match a.states.getD q (.fork []) with
      | .accept => ⟨true, [], marks⟩
      | .read s next => follow a p mark fuel rest ((s, next) :: readers) marks
      | .test k next =>
        follow a p mark fuel (if k.holds p then next :: rest else rest) readers marks
      | .fork next => follow a p mark fuel (next ++ rest) readers marks

/-- Reads a text: a match may begin at every place. -/
def runFrom (a : Automaton) (steps : Nat) :
    List Char → Option Char → Nat → List Nat → Array Nat → Bool
  | cs, before, mark, pending, marks =>
    let reached := a.follow ⟨before, cs.head?⟩ mark (pending.length + 1 + steps)
      (pending ++ [a.start]) [] marks
    if reached.found then true
    else
      match cs with
      | [] => false
      | c :: rest =>
        let next := reached.readers.filterMap fun r => if r.1.contains c then some r.2 else none
        a.runFrom steps rest (some c) (mark + 1) next reached.marks

/-- Whether some part of a text matches. -/
def accepts (a : Automaton) (text : List Char) : Bool :=
  let steps := a.states.foldl (fun n s => n + s.outDegree) 0
  a.runFrom steps text none 1 [] (Array.replicate a.states.size 0)

end Automaton

end FeatureFlags.Regex
