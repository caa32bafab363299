/-!
# Base 64

`Base64.decode?` reads groups of four letters as three bytes. The last group must be padded with
`=`, and its unused bits must be zero, so every byte string has exactly one encoding.
-/

namespace FeatureFlags.Base64

/-- The six bits that a letter stands for. -/
def letterValue? (c : Char) : Option Nat :=
  if 'A' ≤ c ∧ c ≤ 'Z' then some (c.toNat - 'A'.toNat)
  else if 'a' ≤ c ∧ c ≤ 'z' then some (c.toNat - 'a'.toNat + 26)
  else if '0' ≤ c ∧ c ≤ '9' then some (c.toNat - '0'.toNat + 52)
  else if c = '+' then some 62
  else if c = '/' then some 63
  else none

def byte (n : Nat) : UInt8 := UInt8.ofNat n

/-- The bytes of a group that is not the last one. -/
def fullGroup? (a b c d : Char) : Option (List UInt8) := do
  let a ← letterValue? a
  let b ← letterValue? b
  let c ← letterValue? c
  let d ← letterValue? d
  some [byte (a * 4 + b / 16), byte (b % 16 * 16 + c / 4), byte (c % 4 * 64 + d)]

/-- The bytes of the last group. -/
def lastGroup? (a b c d : Char) : Option (List UInt8) := do
  if d ≠ '=' then fullGroup? a b c d
  else
    let a ← letterValue? a
    let b ← letterValue? b
    if c = '=' then
      if b % 16 = 0 then some [byte (a * 4 + b / 16)] else none
    else
      let c ← letterValue? c
      if c % 4 = 0 then some [byte (a * 4 + b / 16), byte (b % 16 * 16 + c / 4)] else none

/-- The bytes that letters stand for; nothing if they are not in the one form of any. -/
def decode? : List Char → Option (List UInt8)
  | [] => some []
  | [a, b, c, d] => lastGroup? a b c d
  | a :: b :: c :: d :: rest => do
    let bytes ← fullGroup? a b c d
    let more ← decode? rest
    some (bytes ++ more)
  | _ => none

def decodeText? (s : String) : Option String :=
  (decode? s.toList).bind fun bytes => String.fromUTF8? ⟨bytes.toArray⟩

end FeatureFlags.Base64
