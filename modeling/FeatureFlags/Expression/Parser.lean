import FeatureFlags.Expression.Call
import FeatureFlags.Expression.Scanner

/-!
# Parsing expressions

The grammar of expressions is

    expression ::= literal | name | name ( ) | name ( expression , … , expression )

with at most `maxDepth` nested calls. `Expr.parse` goes through the tokens once. Its state
(`Reading`) is the stack of open calls (`Frame`, the innermost first) and the place within the
innermost one; a token that cannot follow there is an error at its position.
-/

namespace FeatureFlags

/-- The greatest number of nested calls. -/
def maxDepth : Nat := 64

/-- An open call, with the arguments parsed so far, the latest first. -/
structure Frame where
  name : String
  arguments : List Expr
  deriving Inhabited

/-- The state of the parser. -/
inductive Reading where
  /-- Before an expression; after an opening parenthesis the closing one can follow too. -/
  | operand (mayClose : Bool) (frames : List Frame)
  /-- After a name, whose arguments can follow. -/
  | named (name : String) (frames : List Frame)
  /-- After a complete expression. -/
  | complete (e : Expr) (frames : List Frame)
  deriving Inhabited

namespace Reading

def start : Reading := operand false []

/-- A token after a complete expression. -/
def afterExpression (e : Expr) (frames : List Frame) (t : Located) : Except SyntaxError Reading :=
  match frames with
  | [] => .error (.trailingInput t.position)
  | f :: outer =>
    match t.token with
    | .comma => .ok (operand false (⟨f.name, e :: f.arguments⟩ :: outer))
    | .closeParen => .ok (complete (.call f.name (e :: f.arguments).reverse) outer)
    | _ => .error (.unexpectedToken t.token t.position)

/-- A token where an expression has to follow. -/
def atOperand (mayClose : Bool) (frames : List Frame) (t : Located) : Except SyntaxError Reading :=
  match t.token.literal?, t.token, frames with
  | some v, _, _ => .ok (complete (.literal v) frames)
  | none, .name n, _ =>
    if maxDepth ≤ frames.length then .error (.nestedTooDeeply t.position) else .ok (named n frames)
  | none, .closeParen, f :: outer =>
    if mayClose then .ok (complete (.call f.name []) outer)
    else .error (.unexpectedToken t.token t.position)
  | none, _, _ => .error (.unexpectedToken t.token t.position)

def step (r : Reading) (t : Located) : Except SyntaxError Reading :=
  match r with
  | operand mayClose frames => atOperand mayClose frames t
  | named n frames =>
    if t.token = .openParen then .ok (operand true (⟨n, []⟩ :: frames))
    else afterExpression (.call n []) frames t
  | complete e frames => afterExpression e frames t

def run (r : Reading) (ts : List Located) : Except SyntaxError Reading := ts.foldlM step r

/-- The expression that has been parsed if the text, of `size` bytes, ends here. -/
def finish (size : Nat) : Reading → Except SyntaxError Expr
  | named n [] => .ok (.call n [])
  | complete e [] => .ok e
  | _ => .error (.unexpectedEnd size)

end Reading

/-- The expression of a list of tokens, which come from a text of `size` bytes. -/
def Expr.ofTokens (size : Nat) (ts : List Located) : Except SyntaxError Expr :=
  (Reading.start.run ts).bind (Reading.finish size)

/-- Parses a text. A lexical error anywhere takes precedence over a syntax error. -/
def Expr.parse (s : String) : Except SyntaxError Expr :=
  (tokenize s).bind (Expr.ofTokens (Text.byteLength s.toList))

end FeatureFlags
