import FeatureFlags.Version.Basic

/-!
# The order of versions

`compareVersion` compares the three numbers, then the pre-releases, then the builds. A version
without pre-release comes after all that have one; a version without build comes before all that
have one. Identifiers are compared one by one, and a list that is a prefix of another comes first.
Identifiers of digits come before the other ones and are compared as numbers, in a build with fewer
leading zeros first; other identifiers are compared character by character.
-/

namespace FeatureFlags.Version

def compareText : List Char → List Char → Ordering
  | [], [] => .eq
  | [], _ :: _ => .lt
  | _ :: _, [] => .gt
  | c :: cs, d :: ds => (compare c.toNat d.toNat).then (compareText cs ds)

def compareIdentifier (a b : List Char) : Ordering :=
  match isNumeric a, isNumeric b with
  | true, true =>
    (compare (decimalValue a) (decimalValue b)).then (compare a.length b.length)
  | true, false => .lt
  | false, true => .gt
  | false, false => compareText a b

def compareIdentifiers : List (List Char) → List (List Char) → Ordering
  | [], [] => .eq
  | [], _ :: _ => .lt
  | _ :: _, [] => .gt
  | a :: as, b :: bs => (compareIdentifier a b).then (compareIdentifiers as bs)

/-- The order of pre-releases: none comes last. -/
def comparePreRelease (a b : List (List Char)) : Ordering :=
  match a, b with
  | [], [] => .eq
  | [], _ :: _ => .gt
  | _ :: _, [] => .lt
  | _, _ => compareIdentifiers a b

def compareVersion (v w : Version) : Ordering :=
  (compare v.major w.major).then <| (compare v.minor w.minor).then <|
    (compare v.patch w.patch).then <| (comparePreRelease v.preRelease w.preRelease).then <|
      compareIdentifiers v.build w.build

end FeatureFlags.Version
