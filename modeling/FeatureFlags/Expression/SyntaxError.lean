import FeatureFlags.Expression.Token
import FeatureFlags.Text.Quoted

/-!
# Syntax errors

The errors of scanning and parsing (`SyntaxError`), each with the position at which it was found,
and their messages.
-/

namespace FeatureFlags

/-- A reason for which a text is no expression. -/
inductive SyntaxError where
  /-- A character that begins no token. -/
  | unexpectedCharacter (c : Char) (position : Nat)
  /-- A text literal without its closing quote; the position is that of the opening one. -/
  | unterminatedText (position : Nat)
  /-- A number literal without digits. -/
  | invalidNumber (literal : String) (position : Nat)
  /-- A token that cannot follow the tokens before it. -/
  | unexpectedToken (token : Token) (position : Nat)
  /-- The text ended before the expression was complete. -/
  | unexpectedEnd (position : Nat)
  /-- A token after a complete expression. -/
  | trailingInput (position : Nat)
  /-- A call nested too deeply. -/
  | nestedTooDeeply (position : Nat)
  deriving DecidableEq, Repr, Inhabited

namespace Token

def shown : Token → List Char
  | text s => "String(".toList ++ Text.quoted s ++ [')']
  | number x => "Number(".toList ++ x.exactText ++ [')']
  | boolean b => "Boolean(".toList ++ (Value.booleanText b).toList ++ [')']
  | undefined => "Undefined".toList
  | name s => "Identifier(".toList ++ Text.quoted s ++ [')']
  | openParen => "LeftParen".toList
  | closeParen => "RightParen".toList
  | comma => "Comma".toList

end Token

namespace SyntaxError

/-- The position at which the error was found. -/
def position : SyntaxError → Nat
  | unexpectedCharacter _ p => p
  | unterminatedText p => p
  | invalidNumber _ p => p
  | unexpectedToken _ p => p
  | unexpectedEnd p => p
  | trailingInput p => p
  | nestedTooDeeply p => p

/-- What is wrong, without the position. -/
def complaint : SyntaxError → List Char
  | unexpectedCharacter c _ => "unexpected character ".toList ++ Text.quotedChar c ++ " at ".toList
  | unterminatedText _ => "unterminated string starting at ".toList
  | invalidNumber literal _ => "invalid number ".toList ++ Text.quoted literal ++ " at ".toList
  | unexpectedToken token _ => "unexpected token ".toList ++ token.shown ++ " at ".toList
  | unexpectedEnd _ => "unexpected end of expression at ".toList
  | trailingInput _ => "unexpected trailing input at ".toList
  | nestedTooDeeply _ => "calls nested too deeply at ".toList

def message (e : SyntaxError) : String :=
  String.ofList (e.complaint ++ Decimal.digitsOf e.position)

end SyntaxError

end FeatureFlags
