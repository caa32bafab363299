import FeatureFlags.Unicode.Recent

/-!
# Quoted text

How characters and strings are shown in messages (`Text.quoted`): between quotes, with an escape for
the backslash, for the quote in use, for control characters, and for every character that is
invisible or would combine with the one before it.
-/

namespace FeatureFlags.Text

/-- The digits of a natural number in base 16, in small letters. -/
def hexDigits (n : Nat) : List Char := Nat.toDigits 16 n

/-- A character by its code point, as in `\u` followed by `301` in braces. -/
def codePointEscape (c : Char) : List Char :=
  ['\\', 'u', '\x7b'] ++ hexDigits c.toNat ++ ['\x7d']

/-- Whether a character is shown as it is: it can be seen and does not join the one before it. -/
def isShown (c : Char) : Bool :=
  if c.toNat < 127 then ' ' ≤ c
  else !Unicode.joining.contains c && !Unicode.invisible.contains c

/-- A character as it stands between two of the given quotes. -/
def escape (quote c : Char) : List Char :=
  if c = '\x00' then ['\\', '0']
  else if c = '\t' then ['\\', 't']
  else if c = '\r' then ['\\', 'r']
  else if c = '\n' then ['\\', 'n']
  else if c = '\\' ∨ c = quote then ['\\', c]
  else if isShown c then [c]
  else codePointEscape c

def quotedChar (c : Char) : List Char := ['\''] ++ escape '\'' c ++ ['\'']

def quoted (s : String) : List Char := ['"'] ++ s.toList.flatMap (escape '"') ++ ['"']

/-- The items between brackets, with a comma and a blank between two of them. -/
def bracketed (items : List (List Char)) : List Char :=
  ['['] ++ [',', ' '].intercalate items ++ [']']

end FeatureFlags.Text
