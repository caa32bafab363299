/-!
# Versions

`Version.parse?` reads three numbers, optionally followed by the identifiers of a pre-release and by
those of a build:

    version    ::= number . number . number [ - identifiers ] [ + identifiers ]
    identifiers ::= identifier . … . identifier

A number fits in 64 bits and has no leading zero; nor does a pre-release identifier that consists of
digits. Identifiers are made of letters, digits and hyphens and are not empty.
-/

namespace FeatureFlags

structure Version where
  major : Nat
  minor : Nat
  patch : Nat
  preRelease : List (List Char)
  build : List (List Char)
  deriving DecidableEq, Repr, Inhabited

namespace Version

def isDecimal (c : Char) : Bool := '0' ≤ c && c ≤ '9'

def isIdentifierChar (c : Char) : Bool :=
  isDecimal c || ('A' ≤ c && c ≤ 'Z') || ('a' ≤ c && c ≤ 'z') || c == '-'

def isNumeric (identifier : List Char) : Bool := identifier.all isDecimal

def decimalValue (ds : List Char) : Nat := ds.foldl (fun n c => 10 * n + (c.toNat - '0'.toNat)) 0

/-- Whether digits begin with a zero although there are more of them. -/
def hasLeadingZero (ds : List Char) : Bool :=
  match ds with
  | '0' :: _ :: _ => true
  | _ => false

/-- The number at the start of a text, and what follows it. -/
def takeNumber? (cs : List Char) : Option (Nat × List Char) :=
  let ds := cs.takeWhile isDecimal
  if ds.isEmpty || hasLeadingZero ds || 0x10000000000000000 ≤ decimalValue ds then none
  else some (decimalValue ds, cs.dropWhile isDecimal)

/-- The same text without the given character at its start. -/
def skip? (c : Char) : List Char → Option (List Char)
  | [] => none
  | d :: rest => if d = c then some rest else none

def splitDots : List Char → List (List Char)
  | [] => [[]]
  | c :: rest =>
    match splitDots rest with
    | [] => [[c]]
    | part :: parts => if c = '.' then [] :: part :: parts else (c :: part) :: parts

/-- Whether a list of identifiers may stand for a pre-release. -/
def isPreRelease (ids : List (List Char)) : Bool :=
  ids.all fun i => !i.isEmpty && !(isNumeric i && hasLeadingZero i)

/-- Whether a list of identifiers may stand for a build. -/
def isBuild (ids : List (List Char)) : Bool := ids.all fun i => !i.isEmpty

/-- The identifiers that follow a mark, if the mark stands at the start of the text, and what follows
them. -/
def takeIdentifiers? (mark : Char) (accepts : List (List Char) → Bool) (cs : List Char) :
    Option (List (List Char) × List Char) :=
  match skip? mark cs with
  | none => some ([], cs)
  | some rest =>
    let ids := splitDots (rest.takeWhile fun c => isIdentifierChar c || c == '.')
    if accepts ids then some (ids, rest.dropWhile fun c => isIdentifierChar c || c == '.') else none

def parse? (s : String) : Option Version := do
  let (major, rest) ← takeNumber? s.toList
  let (minor, rest) ← takeNumber? (← skip? '.' rest)
  let (patch, rest) ← takeNumber? (← skip? '.' rest)
  let (preRelease, rest) ← takeIdentifiers? '-' isPreRelease rest
  let (build, rest) ← takeIdentifiers? '+' isBuild rest
  if rest.isEmpty then some ⟨major, minor, patch, preRelease, build⟩ else none

end Version

end FeatureFlags
