import FeatureFlags.Json.Reader

/-!
# Values and contexts as data

`Value.read` reads a whole JSON value and then converts it, so a list or an object is a misfit only
after it has been read. `Context.read` reads an object of such values; of two members with one name
the later one counts.
-/

namespace FeatureFlags

open Json

/-- Reads a value of the expression language inside `depth` lists and objects. -/
def Value.reader (depth : Nat) : Reader Value := fun ls => do
  let (v, rest) ← readValue depth ls
  match Value.ofJson? v with
  | some v => .ok (v, rest)
  | none => .error .misfit

def Value.read (s : String) : Except Fault Value := readWhole (Value.reader 0) s

def Context.reader : Reader Context
  | .openBrace :: ls =>
    nested 0 (fun depth ls => do
      let member (c : Context) (name : String) : Reader Context := fun ls => do
        let (v, rest) ← Value.reader depth (← skipColon ls)
        .ok (c.insert name v, rest)
      let (c, rest) ← readMembers readName member ls.length true .empty ls
      .ok (c, ← skipCloseBrace rest)) ls
  | ls => .error (misfit ls)

def Context.read (s : String) : Except Fault Context := readWhole Context.reader s

end FeatureFlags
