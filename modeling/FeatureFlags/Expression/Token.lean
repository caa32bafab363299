import FeatureFlags.Value
import FeatureFlags.Text.Bytes

/-!
# Tokens

The tokens of the expression language: literals, operator names, and the punctuation of calls. The
position of a token is the number of bytes before it in the UTF-8 encoding of the text.
-/

namespace FeatureFlags

/-- A word of the expression language. -/
inductive Token where
  | text (s : String)
  | number (x : Number)
  | boolean (b : Bool)
  | undefined
  | name (s : String)
  | openParen
  | closeParen
  | comma
  deriving DecidableEq, Repr, Inhabited

/-- A token with its position. -/
structure Located where
  token : Token
  position : Nat
  deriving DecidableEq, Repr, Inhabited

namespace Token

def literal? : Token → Option Value
  | text s => some (.text s)
  | number x => some (.number x)
  | boolean b => some (.boolean b)
  | undefined => some .undefined
  | _ => none

/-- The token of a word: three words are literals, all others are names. -/
def ofWord (w : String) : Token :=
  if w = "true" then boolean true
  else if w = "false" then boolean false
  else if w = "undefined" then undefined
  else name w

end Token

end FeatureFlags
