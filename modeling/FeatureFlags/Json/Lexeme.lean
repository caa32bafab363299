import FeatureFlags.Json.Numeral
import FeatureFlags.Text.Bytes

/-!
# Lexemes of JSON

`Json.lexemes` cuts a text into lexemes before its structure is looked at. A complete lexeme can
have no value: a numeral out of range, or a text with half of a surrogate pair. That is an error
only where the value is read, not where it is skipped. Where the text ends or goes wrong inside a
lexeme, the list ends with `broken`, which records the fault of reading and whether skipping fails
too.
-/

namespace FeatureFlags.Json

/-- What may be wrong with a text. -/
inductive Fault where
  /-- The text is not JSON, or has a value beyond the limits. -/
  | malformed
  /-- The text ends too early. -/
  | endsEarly
  /-- The text has another shape than required. -/
  | misfit
  deriving DecidableEq, Repr, Inhabited

inductive Lexeme where
  | openBrace
  | closeBrace
  | openBracket
  | closeBracket
  | colon
  | comma
  | null
  | boolean (b : Bool)
  /-- A numeral, with its value unless it is out of range. -/
  | number (value : Option Numeral)
  /-- A text, with its value unless it has an unpaired surrogate. -/
  | text (value : Option String)
  /-- The text goes wrong here. -/
  | broken (isText : Bool) (reading skipping : Fault)
  deriving DecidableEq, Repr, Inhabited

/-- The characters that may stand between lexemes. -/
def isSpace (c : Char) : Bool := c == ' ' || c == '\n' || c == '\t' || c == '\r'

def decimalDigit? (c : Char) : Option Nat :=
  if '0' ≤ c ∧ c ≤ '9' then some (c.toNat - '0'.toNat) else none

def hexDigit? (c : Char) : Option Nat :=
  if '0' ≤ c ∧ c ≤ '9' then some (c.toNat - '0'.toNat)
  else if 'a' ≤ c ∧ c ≤ 'f' then some (c.toNat - 'a'.toNat + 10)
  else if 'A' ≤ c ∧ c ≤ 'F' then some (c.toNat - 'A'.toNat + 10)
  else none

/-- The digits at the start of a text, and what follows them. -/
def takeDigits : List Char → List Nat × List Char
  | [] => ([], [])
  | c :: rest =>
    match decimalDigit? c with
    | some d =>
      let (ds, rest') := takeDigits rest
      (d :: ds, rest')
    | none => ([], c :: rest)

/-- The fault of a text in which a digit is missing: it may just have ended. -/
def missingDigit : List Char → Fault
  | [] => .endsEarly
  | _ => .malformed

/-! ## Numerals -/

/-- The sign, digits and rest of an exponent whose letter has been taken. -/
def takeExponent (cs : List Char) : Except Fault ((Bool × List Nat) × List Char) :=
  let (negative, cs) := match cs with
    | '+' :: rest => (false, rest)
    | '-' :: rest => (true, rest)
    | rest => (false, rest)
  match takeDigits cs with
  | ([], rest) => .error (missingDigit rest)
  | (ds, rest) => .ok ((negative, ds), rest)

def takeOptionalExponent : List Char → Except Fault (Option (Bool × List Nat) × List Char)
  | 'e' :: rest => (takeExponent rest).map fun p => (some p.1, p.2)
  | 'E' :: rest => (takeExponent rest).map fun p => (some p.1, p.2)
  | rest => .ok (none, rest)

def takeOptionalFraction : List Char → Except Fault (Option (List Nat) × List Char)
  | '.' :: rest =>
    match takeDigits rest with
    | ([], rest') => .error (missingDigit rest')
    | (ds, rest') => .ok (some ds, rest')
  | rest => .ok (none, rest)

/-- The integer part of a numeral. -/
def takeWhole (cs : List Char) : Except Fault (List Nat × List Char) :=
  match takeDigits cs with
  | ([], rest) => .error (missingDigit rest)
  | (0 :: _ :: _, _) => .error .malformed
  | (ds, rest) => .ok (ds, rest)

/-- A numeral whose sign has been taken. -/
def takeNumeral (negative : Bool) (cs : List Char) : Except Fault (NumeralParts × List Char) := do
  let (whole, rest) ← takeWhole cs
  let (fraction, rest) ← takeOptionalFraction rest
  let (exponent, rest) ← takeOptionalExponent rest
  .ok (⟨negative, whole, fraction.getD [], (exponent.map (·.1)).getD false,
    (exponent.map (·.2)).getD [], fraction.isNone && exponent.isNone⟩, rest)

/-! ## Texts -/

/-- A piece of a text: a character, or a unit of 16 bits written as an escape. -/
inductive Piece where
  | char (c : Char)
  | unit (n : Nat)
  deriving DecidableEq, Repr, Inhabited

/-- The character that a short escape stands for. -/
def shortEscape? : Char → Option Char
  | '"' => some '"'
  | '\\' => some '\\'
  | '/' => some '/'
  | 'b' => some '\x08'
  | 'f' => some '\x0c'
  | 'n' => some '\n'
  | 'r' => some '\r'
  | 't' => some '\t'
  | _ => none

/-- The number of bytes that a text begins with, counted up to four. -/
def bytesUpToFour (cs : List Char) : Nat := min 4 (Text.byteLength (cs.take 4))

/-- The fault of an escape that lacks digits: four more bytes have to be there. -/
def badUnit (cs : List Char) : Fault := if bytesUpToFour cs < 4 then .endsEarly else .malformed

/-- The pieces of a text whose opening quote has been taken, and either what follows its closing quote or the
fault at which it breaks off. -/
def takePieces : List Char → List Piece × Except Fault (List Char)
  | [] => ([], .error .endsEarly)
  | '"' :: rest => ([], .ok rest)
  | ['\\'] => ([], .error .endsEarly)
  | '\\' :: 'u' :: rest =>
    match rest with
    | a :: b :: c :: d :: rest' =>
      match hexDigit? a, hexDigit? b, hexDigit? c, hexDigit? d with
      | some a, some b, some c, some d =>
        let (pieces, ending) := takePieces rest'
        (.unit (((a * 16 + b) * 16 + c) * 16 + d) :: pieces, ending)
      | _, _, _, _ => ([], .error .malformed)
    | rest => ([], .error (badUnit rest))
  | '\\' :: c :: rest =>
    match shortEscape? c with
    | some c =>
      let (pieces, ending) := takePieces rest
      (.char c :: pieces, ending)
    | none => ([], .error .malformed)
  | c :: rest =>
    if c < ' ' then ([], .error .malformed)
    else
      let (pieces, ending) := takePieces rest
      (.char c :: pieces, ending)

def isHighSurrogate (n : Nat) : Bool := 0xD800 ≤ n && n ≤ 0xDBFF

def isLowSurrogate (n : Nat) : Bool := 0xDC00 ≤ n && n ≤ 0xDFFF

def pairChar (high low : Nat) : Char :=
  Char.ofNat (0x10000 + (high - 0xD800) * 0x400 + (low - 0xDC00))

/-- The characters of pieces. Half of a pair at the end of a text that breaks off is the fault of the
ending, since the other half could have followed. -/
def joinPieces (ending : Option Fault) : List Piece → Except Fault (List Char)
  | [] => match ending with
    | some f => .error f
    | none => .ok []
  | .char c :: rest => (joinPieces ending rest).map (c :: ·)
  | .unit n :: rest =>
    if isLowSurrogate n then .error .malformed
    else if isHighSurrogate n then
      match rest with
      | .unit n' :: rest' =>
        if isLowSurrogate n' then (joinPieces ending rest').map (pairChar n n' :: ·)
        else .error .malformed
      | [] => .error (ending.getD .malformed)
      | _ => .error .malformed
    else (joinPieces ending rest).map (Char.ofNat n :: ·)

/-- The fault that a reader meets in a text that breaks off. -/
def readingFault (ending : Fault) (pieces : List Piece) : Fault :=
  match joinPieces (some ending) pieces with
  | .error f => f
  | .ok _ => ending

/-! ## The list of lexemes -/

/-- The rest of a text after the expected letters. -/
def takeLetters : List Char → List Char → Except Fault (List Char)
  | [], cs => .ok cs
  | _ :: _, [] => .error .endsEarly
  | e :: es, c :: cs => if e = c then takeLetters es cs else .error .malformed

/-- A lexeme of letters whose first letter has been taken. -/
def takeWord (l : Lexeme) (letters cs : List Char) : Lexeme × Option (List Char) :=
  match takeLetters letters cs with
  | .ok rest => (l, some rest)
  | .error f => (.broken false f f, none)

/-- A numeral, given by the sign and what follows it. -/
def takeNumber (negative : Bool) (cs : List Char) : Lexeme × Option (List Char) :=
  match takeNumeral negative cs with
  | .ok (parts, rest) => (.number parts.value?, some rest)
  | .error f => (.broken false f .malformed, none)

/-- The lexeme at the start of a text, given by its first character and the rest, and what follows the
lexeme if the text goes on. -/
def takeLexeme (c : Char) (rest : List Char) : Lexeme × Option (List Char) :=
  match c with
  | '\x7b' => (.openBrace, some rest)
  | '\x7d' => (.closeBrace, some rest)
  | '[' => (.openBracket, some rest)
  | ']' => (.closeBracket, some rest)
  | ':' => (.colon, some rest)
  | ',' => (.comma, some rest)
  | 'n' => takeWord .null ['u', 'l', 'l'] rest
  | 't' => takeWord (.boolean true) ['r', 'u', 'e'] rest
  | 'f' => takeWord (.boolean false) ['a', 'l', 's', 'e'] rest
  | '"' =>
    match takePieces rest with
    | (pieces, .ok rest') =>
      (.text ((joinPieces none pieces).toOption.map String.ofList), some rest')
    | (pieces, .error f) => (.broken true (readingFault f pieces) f, none)
  | '-' => takeNumber true rest
  | c =>
    if (decimalDigit? c).isSome then takeNumber false (c :: rest)
    else (.broken false .malformed .malformed, none)

/-- The lexemes of a text. The first argument bounds their number. -/
def lexemesUpTo : Nat → List Char → List Lexeme
  | 0, _ => []
  | fuel + 1, cs =>
    match cs.dropWhile isSpace with
    | [] => []
    | c :: rest =>
      match takeLexeme c rest with
      | (l, some rest') => l :: lexemesUpTo fuel rest'
      | (l, none) => [l]

/-- The lexemes of a text: at most as many as it has characters. -/
def lexemes (s : String) : List Lexeme := lexemesUpTo s.toList.length s.toList

end FeatureFlags.Json
