import FeatureFlags.Json.Lexeme

/-!
# Reading JSON

A `Reader` consumes lexemes from the left and stops at the first fault. `readValue` reads a value,
which needs the values of its numerals and texts and has a limit on nesting (`nestingLimit`);
`skipValue` skips one, which needs neither.

`readItems` and `readMembers` are shared by all readers: they read the items of a list and the
members of an object, given a reader for one item or member.
-/

namespace FeatureFlags.Json

/-- A reader of something of type `α`: it yields that and the lexemes after it. -/
abbrev Reader (α : Type) := List Lexeme → Except Fault (α × List Lexeme)

/-- One more than the number of lists and objects that can be open at once. -/
def nestingLimit : Nat := 128

/-- The reader of what is inside a list or an object, where `depth` others are open around it. -/
def nested {α : Type} (depth : Nat) (inside : Nat → Reader α) : Reader α := fun ls =>
  if nestingLimit ≤ depth + 1 then .error .malformed else inside (depth + 1) ls

/-! ## Lists and objects -/

/-- The fault where something else had to follow. -/
def unexpected : List Lexeme → Fault
  | [] => .endsEarly
  | _ => .malformed

/-- The items of a list up to its closing bracket, which is taken; the bracket that opens it has been taken.
An item takes at least one lexeme, so that the first argument, the number of lexemes, bounds the
number of items. -/
def readItems {α : Type} (item : Reader α) : Nat → Bool → Reader (List α)
  | _, _, .closeBracket :: rest => .ok ([], rest)
  | _, _, [] => .error .endsEarly
  | 0, _, _ => .error .malformed
  | fuel + 1, true, ls => do
    let (x, rest) ← item ls
    let (xs, rest) ← readItems item fuel false rest
    .ok (x :: xs, rest)
  | fuel + 1, false, .comma :: ls =>
    match ls with
    | .closeBracket :: _ => .error .malformed
    | ls => do
      let (x, rest) ← item ls
      let (xs, rest) ← readItems item fuel false rest
      .ok (x :: xs, rest)
  | _, false, _ => .error .malformed

def readName : Reader String
  | .text (some s) :: rest => .ok (s, rest)
  | .broken true f _ :: _ => .error f
  | ls => .error (unexpected ls)

def skipColon : List Lexeme → Except Fault (List Lexeme)
  | .colon :: rest => .ok rest
  | ls => .error (unexpected ls)

/-- Goes through the members of an object up to its closing brace, which is left; the brace that opens
it has been taken. `name` reads the name of a member, and `member` reads the rest of it, from
the colon on, and changes what has been gathered. -/
def readMembers {κ σ : Type} (name : Reader κ) (member : σ → κ → Reader σ) :
    Nat → Bool → σ → Reader σ
  | _, _, s, .closeBrace :: rest => .ok (s, .closeBrace :: rest)
  | _, _, _, [] => .error .endsEarly
  | 0, _, _, _ => .error .malformed
  | fuel + 1, true, s, ls => do
    let (k, rest) ← name ls
    let (s, rest) ← member s k rest
    readMembers name member fuel false s rest
  | fuel + 1, false, s, .comma :: ls => do
    let (k, rest) ← name ls
    let (s, rest) ← member s k rest
    readMembers name member fuel false s rest
  | _, false, _, _ => .error .malformed

def skipCloseBrace : List Lexeme → Except Fault (List Lexeme)
  | .closeBrace :: rest => .ok rest
  | ls => .error (unexpected ls)

/-! ## Skipping -/

/-- The place within a value that is being skipped. -/
inductive SkipPlace where
  /-- Before a value; directly after the opening bracket the list can end. -/
  | value (mayClose : Bool)
  /-- Before a name; directly after the opening brace the object can end. -/
  | name (mayClose : Bool)
  /-- Before a colon. -/
  | colon
  /-- After a complete value. -/
  | behind
  deriving DecidableEq, Repr

/-- Skips the rest of a value: only its form is checked. The kinds of the lists and objects that are open are
listed, the innermost first, an object being true; when none is left the value is complete. -/
def skipFrom : SkipPlace → List Bool → List Lexeme → Except Fault (List Lexeme)
  | .behind, [], ls => .ok ls
  | _, _, [] => .error .endsEarly
  | .value mayClose, stack, l :: ls =>
    match l, stack with
    | .null, _ => skipFrom .behind stack ls
    | .boolean _, _ => skipFrom .behind stack ls
    | .number _, _ => skipFrom .behind stack ls
    | .text _, _ => skipFrom .behind stack ls
    | .openBracket, _ => skipFrom (.value true) (false :: stack) ls
    | .openBrace, _ => skipFrom (.name true) (true :: stack) ls
    | .closeBracket, false :: outer =>
      if mayClose then skipFrom .behind outer ls else .error .malformed
    | .broken _ _ f, _ => .error f
    | _, _ => .error .malformed
  | .name mayClose, stack, l :: ls =>
    match l, stack with
    | .text _, _ => skipFrom .colon stack ls
    | .broken true _ f, _ => .error f
    | .closeBrace, true :: outer =>
      if mayClose then skipFrom .behind outer ls else .error .malformed
    | _, _ => .error .malformed
  | .colon, stack, l :: ls =>
    match l with
    | .colon => skipFrom (.value false) stack ls
    | _ => .error .malformed
  | .behind, isObject :: outer, l :: ls =>
    match l, isObject with
    | .comma, true => skipFrom (.name false) (true :: outer) ls
    | .comma, false => skipFrom (.value false) (false :: outer) ls
    | .closeBrace, true => skipFrom .behind outer ls
    | .closeBracket, false => skipFrom .behind outer ls
    | _, _ => .error .malformed

def skipValue (ls : List Lexeme) : Except Fault (List Lexeme) := skipFrom (.value false) [] ls

/-! ## Values -/

/-- Reads a value inside `depth` lists and objects. The first argument bounds the nesting. -/
def readValueUpTo : Nat → Nat → Reader Json
  | 0, _, _ => .error .malformed
  | _ + 1, _, [] => .error .endsEarly
  | fuel + 1, depth, l :: ls =>
    match l with
    | .null => .ok (.null, ls)
    | .boolean b => .ok (.boolean b, ls)
    | .number (some n) => .ok (.number n, ls)
    | .text (some s) => .ok (.text s, ls)
    | .openBracket =>
      nested depth (fun depth ls => do
        let (items, rest) ← readItems (readValueUpTo fuel depth) ls.length true ls
        .ok (.array items, rest)) ls
    | .openBrace =>
      nested depth (fun depth ls => do
        let member (ms : List (String × Json)) (k : String) : Reader (List (String × Json)) :=
          fun ls => do
            let (v, rest) ← readValueUpTo fuel depth (← skipColon ls)
            .ok ((k, v) :: ms, rest)
        let (members, rest) ← readMembers readName member ls.length true [] ls
        .ok (.object members.reverse, ← skipCloseBrace rest)) ls
    | .broken _ f _ => .error f
    | _ => .error .malformed

/-- Reads a value inside `depth` lists and objects. -/
def readValue (depth : Nat) : Reader Json := readValueUpTo (nestingLimit + 1) depth

/-- The fault of a value that has another shape than what is asked for. A scalar is read first, a list or an
object is not looked into. -/
def misfit : List Lexeme → Fault
  | [] => .endsEarly
  | .null :: _ => .misfit
  | .boolean _ :: _ => .misfit
  | .number (some _) :: _ => .misfit
  | .text (some _) :: _ => .misfit
  | .openBracket :: _ => .misfit
  | .openBrace :: _ => .misfit
  | .broken _ f _ :: _ => f
  | _ => .malformed

/-- What a whole text holds: nothing may follow. -/
def readWhole {α : Type} (r : Reader α) (s : String) : Except Fault α := do
  let (x, rest) ← r (lexemes s)
  if rest.isEmpty then .ok x else .error .malformed

end FeatureFlags.Json
