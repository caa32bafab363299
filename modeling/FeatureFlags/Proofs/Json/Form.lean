import FeatureFlags.Proofs.Json.Writing
import FeatureFlags.Json.Reader

/-!
# The syntax of JSON

A `Form` is a JSON value as its lexemes show it, with numerals and texts that may lack a value.
`Form.yield` lists its lexemes; `Form.value` has null wherever there is no value, as no schema asks
for null.

Skipping a value passes the yield of a form, and every yield is passed (`skipValue_eq_ok`): what is
skipped is exactly what is well formed.
-/

namespace FeatureFlags.Json

/-- A JSON value as its lexemes show it. -/
inductive Form where
  | null
  | boolean (b : Bool)
  | number (value : Option Numeral)
  | text (value : Option String)
  | array (items : List Form)
  | object (members : List (Option String × Form))
  deriving Repr, Inhabited

namespace Form

/-- The lexemes before an item or a member: a comma, unless it is the first. -/
def separator : Bool → List Lexeme
  | true => []
  | false => [.comma]

mutual
/-- The lexemes of a value. -/
def yield : Form → List Lexeme
  | null => [.null]
  | boolean b => [.boolean b]
  | number value => [.number value]
  | text value => [.text value]
  | array items => .openBracket :: (yieldItems true items ++ [.closeBracket])
  | object members => .openBrace :: (yieldMembers true members ++ [.closeBrace])

def yieldItems : Bool → List Form → List Lexeme
  | _, [] => []
  | isFirst, f :: rest => separator isFirst ++ (f.yield ++ yieldItems false rest)

def yieldMembers : Bool → List (Option String × Form) → List Lexeme
  | _, [] => []
  | isFirst, (name, f) :: rest =>
    separator isFirst ++ (.text name :: .colon :: (f.yield ++ yieldMembers false rest))
end

mutual
/-- The value of a form, with null wherever there is none. -/
def value : Form → Json
  | null => .null
  | boolean b => .boolean b
  | number value => (value.map .number).getD .null
  | text value => (value.map .text).getD .null
  | array items => .array (values items)
  | object members => ((memberValues members).map .object).getD .null

def values : List Form → List Json
  | [] => []
  | f :: rest => f.value :: values rest

/-- The values of members, if all their names have values. -/
def memberValues : List (Option String × Form) → Option (List (String × Json))
  | [] => some []
  | (some name, f) :: rest => (memberValues rest).map ((name, f.value) :: ·)
  | (none, _) :: _ => none
end

/-- Induction on forms: the parts of a list or an object have the property. -/
@[elab_as_elim, induction_eliminator]
theorem induction {P : Form → Prop} (null : P .null) (boolean : ∀ b, P (.boolean b))
    (number : ∀ v, P (.number v)) (text : ∀ v, P (.text v))
    (array : ∀ items, (∀ f ∈ items, P f) → P (.array items))
    (object : ∀ members, (∀ m ∈ members, P m.2) → P (.object members)) (f : Form) : P f :=
  @Form.rec P (fun fs => ∀ f ∈ fs, P f) (fun ms => ∀ m ∈ ms, P m.2) (fun m => P m.2)
    null boolean number text array object (List.forall_mem_nil _)
    (fun _ _ h hs => List.forall_mem_cons.mpr ⟨h, hs⟩) (List.forall_mem_nil _)
    (fun _ _ h hs => List.forall_mem_cons.mpr ⟨h, hs⟩) (fun _ _ h => h) f

theorem values_eq (fs : List Form) : values fs = fs.map value := by
  induction fs with
  | nil => rfl
  | cons f rest ih => rw [values, ih, List.map_cons]

theorem yield_head (f : Form) :
    ∃ l ks, f.yield = l :: ks ∧ l ≠ .closeBracket ∧ l ≠ .closeBrace := by
  cases f with
  | _ => exact ⟨_, _, rfl, nofun, nofun⟩

theorem length_le_yieldItems (isFirst : Bool) (fs : List Form) :
    fs.length ≤ (yieldItems isFirst fs).length := by
  induction fs generalizing isFirst with
  | nil => exact Nat.zero_le _
  | cons f rest ih =>
    obtain ⟨l, ks, hf, -⟩ := f.yield_head
    have := ih false
    rw [yieldItems, hf]
    simp only [List.length_append, List.length_cons]
    omega

theorem length_le_yieldMembers (isFirst : Bool) (ms : List (Option String × Form)) :
    ms.length ≤ (yieldMembers isFirst ms).length := by
  induction ms generalizing isFirst with
  | nil => exact Nat.zero_le _
  | cons m rest ih =>
    have := ih false
    rw [yieldMembers]
    simp only [List.length_append, List.length_cons]
    omega

theorem isBroken_of_mem_yield (f : Form) : ∀ l ∈ f.yield, l.isBroken = false := by
  have hseparator : ∀ isFirst, ∀ l ∈ separator isFirst, l.isBroken = false := by
    rintro (_ | _) l hl
    · rw [List.mem_singleton.mp hl]
      rfl
    · cases hl
  induction f with
  | array items ih =>
    have hitems : ∀ isFirst, ∀ l ∈ yieldItems isFirst items, l.isBroken = false := by
      induction items with
      | nil => exact fun _ => List.forall_mem_nil _
      | cons f rest ihrest =>
        intro isFirst
        rw [yieldItems, List.forall_mem_append, List.forall_mem_append]
        exact ⟨hseparator isFirst, ih f List.mem_cons_self,
          ihrest (fun g hg => ih g (List.mem_cons_of_mem _ hg)) false⟩
    rw [yield, List.forall_mem_cons, List.forall_mem_append, List.forall_mem_singleton]
    exact ⟨rfl, hitems true, rfl⟩
  | object members ih =>
    have hmembers : ∀ isFirst, ∀ l ∈ yieldMembers isFirst members, l.isBroken = false := by
      induction members with
      | nil => exact fun _ => List.forall_mem_nil _
      | cons m rest ihrest =>
        intro isFirst
        rw [yieldMembers, List.forall_mem_append, List.forall_mem_cons, List.forall_mem_cons,
          List.forall_mem_append]
        exact ⟨hseparator isFirst, rfl, rfl, ih m List.mem_cons_self,
          ihrest (fun n hn => ih n (List.mem_cons_of_mem _ hn)) false⟩
    rw [yield, List.forall_mem_cons, List.forall_mem_append, List.forall_mem_singleton]
    exact ⟨rfl, hmembers true, rfl⟩
  | _ => exact List.forall_mem_singleton.mpr rfl

end Form

/-! ## Skipping -/

open Form

theorem skipFrom_yieldItems {items : List Form}
    (h : ∀ f ∈ items, ∀ mayClose stack rest,
      skipFrom (.value mayClose) stack (f.yield ++ rest) = skipFrom .behind stack rest)
    (stack : List Bool) (rest : List Lexeme) :
    skipFrom .behind (false :: stack) (yieldItems false items ++ .closeBracket :: rest) =
      skipFrom .behind stack rest := by
  induction items with
  | nil => rfl
  | cons f items ih =>
    have hf := h f List.mem_cons_self false (false :: stack)
      (yieldItems false items ++ .closeBracket :: rest)
    have hrest := ih fun g hg => h g (List.mem_cons_of_mem _ hg)
    rw [yieldItems, List.append_assoc, List.append_assoc]
    exact hf.trans hrest

theorem skipFrom_yieldMembers {members : List (Option String × Form)}
    (h : ∀ m ∈ members, ∀ mayClose stack rest,
      skipFrom (.value mayClose) stack (m.2.yield ++ rest) = skipFrom .behind stack rest)
    (stack : List Bool) (rest : List Lexeme) :
    skipFrom .behind (true :: stack) (yieldMembers false members ++ .closeBrace :: rest) =
      skipFrom .behind stack rest := by
  induction members with
  | nil => rfl
  | cons m members ih =>
    have hm := h m List.mem_cons_self false (true :: stack)
      (yieldMembers false members ++ .closeBrace :: rest)
    have hrest := ih fun g hg => h g (List.mem_cons_of_mem _ hg)
    rw [yieldMembers, List.append_assoc, List.cons_append, List.cons_append, List.append_assoc]
    exact hm.trans hrest

/-- A value of any form is skipped as a whole, and nothing after it. -/
theorem skipFrom_yield (f : Form) (mayClose : Bool) (stack : List Bool) (rest : List Lexeme) :
    skipFrom (.value mayClose) stack (f.yield ++ rest) = skipFrom .behind stack rest := by
  induction f generalizing mayClose stack rest with
  | null => rfl
  | boolean => rfl
  | number => rfl
  | text => rfl
  | array items ih =>
    show skipFrom (.value true) (false :: stack) (yieldItems true items ++ [.closeBracket] ++ rest) = _
    rw [List.append_assoc]
    cases items with
    | nil => rfl
    | cons f items =>
      have hf := ih f List.mem_cons_self true (false :: stack)
        (yieldItems false items ++ .closeBracket :: rest)
      have hrest := skipFrom_yieldItems (fun g hg => ih g (List.mem_cons_of_mem _ hg)) stack rest
      rw [yieldItems, List.append_assoc, List.append_assoc]
      exact hf.trans hrest
  | object members ih =>
    show skipFrom (.name true) (true :: stack) (yieldMembers true members ++ [.closeBrace] ++ rest) = _
    rw [List.append_assoc]
    cases members with
    | nil => rfl
    | cons m members =>
      have hm := ih m List.mem_cons_self false (true :: stack)
        (yieldMembers false members ++ .closeBrace :: rest)
      have hrest := skipFrom_yieldMembers (fun g hg => ih g (List.mem_cons_of_mem _ hg)) stack rest
      rw [yieldMembers, List.append_assoc, List.cons_append, List.cons_append, List.append_assoc]
      exact hm.trans hrest

/-- The lexemes that are skipped from a place within a value to its end. -/
structure Skipped (ls : List Lexeme) : Prop where
  /-- Before a value there is one, or a bracket closes the list. -/
  value : ∀ {mayClose stack r}, skipFrom (.value mayClose) stack ls = .ok r →
    (∃ (f : Form) (rest : List Lexeme), ls = f.yield ++ rest ∧ skipFrom .behind stack rest = .ok r) ∨
      ∃ outer rest, stack = false :: outer ∧ ls = .closeBracket :: rest ∧ mayClose = true ∧
        skipFrom .behind outer rest = .ok r
  /-- After an item there are further items. -/
  items : ∀ {stack r}, skipFrom .behind (false :: stack) ls = .ok r → ∃ fs rest,
    ls = yieldItems false fs ++ .closeBracket :: rest ∧ skipFrom .behind stack rest = .ok r
  /-- After a member there are further members. -/
  members : ∀ {stack r}, skipFrom .behind (true :: stack) ls = .ok r → ∃ ms rest,
    ls = yieldMembers false ms ++ .closeBrace :: rest ∧ skipFrom .behind stack rest = .ok r
  /-- Before a member there is one. -/
  member : ∀ {mayClose stack r}, skipFrom (.name mayClose) stack ls = .ok r →
    (∃ name f rest, ls = .text name :: .colon :: (Form.yield f ++ rest) ∧
      skipFrom .behind stack rest = .ok r) ∨
      ∃ outer rest, stack = true :: outer ∧ ls = .closeBrace :: rest ∧ mayClose = true ∧
        skipFrom .behind outer rest = .ok r

theorem length_behind_lt (l : Lexeme) (ks rest : List Lexeme) :
    rest.length < (l :: (ks ++ rest)).length := by
  rw [List.length_cons, List.length_append]
  omega

section Skipped

variable {ls : List Lexeme} {mayClose : Bool} {stack : List Bool} {r : List Lexeme}

theorem skipped_member (ih : ∀ ks, ks.length < ls.length → Skipped ks)
    (h : skipFrom (.name mayClose) stack ls = .ok r) :
    (∃ name f rest, ls = .text name :: .colon :: (Form.yield f ++ rest) ∧
      skipFrom .behind stack rest = .ok r) ∨
      ∃ outer rest, stack = true :: outer ∧ ls = .closeBrace :: rest ∧ mayClose = true ∧
        skipFrom .behind outer rest = .ok r := by
  rcases ls with _ | ⟨l, ls⟩
  · cases h
  cases l with
  | text name =>
    rcases ls with _ | ⟨l, ls⟩
    · cases h
    cases l with
    | colon =>
      have hlt := length_behind_lt (.text name) [.colon] ls
      obtain ⟨f, rest, rfl, hr⟩ | ⟨_, _, _, _, hfalse, _⟩ := (ih ls hlt).value h
      · exact .inl ⟨name, f, rest, rfl, hr⟩
      · cases hfalse
    | _ => cases h
  | closeBrace =>
    rcases stack with _ | ⟨_ | _, outer⟩
    · cases h
    · cases h
    · cases mayClose with
      | false => cases h
      | true => exact .inr ⟨outer, ls, rfl, rfl, rfl, h⟩
  | broken isText => cases isText <;> cases h
  | _ => cases h

theorem skipped_items (ih : ∀ ks, ks.length < ls.length → Skipped ks)
    (h : skipFrom .behind (false :: stack) ls = .ok r) : ∃ fs rest,
      ls = yieldItems false fs ++ .closeBracket :: rest ∧ skipFrom .behind stack rest = .ok r := by
  rcases ls with _ | ⟨l, ls⟩
  · cases h
  cases l with
  | closeBracket => exact ⟨[], ls, rfl, h⟩
  | comma =>
    obtain ⟨f, rest, rfl, hr'⟩ | ⟨_, _, _, _, hfalse, _⟩ := (ih ls (by simp)).value h
    · obtain ⟨fs, rest, rfl, hr⟩ := (ih rest (length_behind_lt _ f.yield rest)).items hr'
      refine ⟨f :: fs, rest, ?_, hr⟩
      rw [yieldItems, List.append_assoc, List.append_assoc]
      rfl
    · cases hfalse
  | _ => cases h

theorem skipped_members (ih : ∀ ks, ks.length < ls.length → Skipped ks)
    (h : skipFrom .behind (true :: stack) ls = .ok r) : ∃ ms rest,
      ls = yieldMembers false ms ++ .closeBrace :: rest ∧ skipFrom .behind stack rest = .ok r := by
  rcases ls with _ | ⟨l, ls⟩
  · cases h
  cases l with
  | closeBrace => exact ⟨[], ls, rfl, h⟩
  | comma =>
    obtain ⟨name, f, rest, rfl, hr'⟩ | ⟨_, _, _, _, hfalse, _⟩ := (ih ls (by simp)).member h
    · have hlt := length_behind_lt .comma (.text name :: .colon :: f.yield) rest
      obtain ⟨ms, rest, rfl, hr⟩ := (ih rest hlt).members hr'
      refine ⟨(name, f) :: ms, rest, ?_, hr⟩
      rw [yieldMembers]
      simp [separator]
    · cases hfalse
  | _ => cases h

theorem skipped_value (ih : ∀ ks, ks.length < ls.length → Skipped ks)
    (h : skipFrom (.value mayClose) stack ls = .ok r) :
    (∃ (f : Form) (rest : List Lexeme), ls = f.yield ++ rest ∧ skipFrom .behind stack rest = .ok r) ∨
      ∃ outer rest, stack = false :: outer ∧ ls = .closeBracket :: rest ∧ mayClose = true ∧
        skipFrom .behind outer rest = .ok r := by
  rcases ls with _ | ⟨l, ls⟩
  · cases h
  cases l with
  | null => exact .inl ⟨.null, ls, rfl, h⟩
  | boolean b => exact .inl ⟨.boolean b, ls, rfl, h⟩
  | number value => exact .inl ⟨.number value, ls, rfl, h⟩
  | text value => exact .inl ⟨.text value, ls, rfl, h⟩
  | openBracket =>
    obtain ⟨f, rest, rfl, hr'⟩ | ⟨_, rest, ⟨⟩, rfl, -, hr⟩ := (ih ls (by simp)).value h
    · obtain ⟨fs, rest, rfl, hr⟩ := (ih rest (length_behind_lt _ f.yield rest)).items hr'
      refine .inl ⟨.array (f :: fs), rest, ?_, hr⟩
      rw [yield, yieldItems]
      simp [separator]
    · exact .inl ⟨.array [], rest, rfl, hr⟩
  | openBrace =>
    obtain ⟨name, f, rest, rfl, hr'⟩ | ⟨_, rest, ⟨⟩, rfl, -, hr⟩ := (ih ls (by simp)).member h
    · have hlt := length_behind_lt .openBrace (.text name :: .colon :: f.yield) rest
      obtain ⟨ms, rest, rfl, hr⟩ := (ih rest hlt).members hr'
      refine .inl ⟨.object ((name, f) :: ms), rest, ?_, hr⟩
      rw [yield, yieldMembers]
      simp [separator]
    · exact .inl ⟨.object [], rest, rfl, hr⟩
  | closeBracket =>
    rcases stack with _ | ⟨_ | _, outer⟩
    · cases h
    · cases mayClose with
      | false => cases h
      | true => exact .inr ⟨outer, ls, rfl, rfl, rfl, h⟩
    · cases h
  | _ => cases h

theorem skipped (ls : List Lexeme) : Skipped ls := by
  induction hn : ls.length using Nat.strongRecOn generalizing ls with
  | ind n ih =>
    have ih' : ∀ ks, ks.length < ls.length → Skipped ks := fun ks hk => ih _ (hn ▸ hk) ks rfl
    exact ⟨skipped_value ih', skipped_items ih', skipped_members ih', skipped_member ih'⟩

end Skipped

theorem skipFrom_behind_nil (ls : List Lexeme) : skipFrom .behind [] ls = .ok ls := by
  cases ls <;> rfl

/-- What is skipped is the yield of a form, and every yield is skipped. -/
theorem skipValue_eq_ok {ls rest : List Lexeme} :
    skipValue ls = .ok rest ↔ ∃ f : Form, ls = f.yield ++ rest := by
  constructor
  · intro h
    obtain ⟨f, r, rfl, hr⟩ | ⟨_, _, ⟨⟩, _⟩ := (skipped ls).value h
    rw [skipFrom_behind_nil] at hr
    cases hr
    exact ⟨f, rfl⟩
  · rintro ⟨f, rfl⟩
    exact (skipFrom_yield f false [] rest).trans (skipFrom_behind_nil rest)

end FeatureFlags.Json
