import Mathlib.Data.List.Forall2
import FeatureFlags.Proofs.Json.Form

/-!
# Reading values

`readItems` and `readMembers` read what stands between items and between members, with any reader
for one of them. So reading the items of a form comes to reading each of them (`readItems_yield`),
and items are read from yields of forms only (`eq_of_readItems`); the same for members.

Every value has a form (`Json.form`). `readValue` yields a value if and only if the lexemes begin
with the yield of its form and the nesting is within the limit (`readValue_eq_ok`).
-/

namespace FeatureFlags.Json

open Form

/-! ## Readers at a place -/

/-- A reader yields a value and stops at the given place, or it fails if there is no value. -/
def Meets {α : Type} (x : Except Fault (α × List Lexeme)) (v : Option α) (rest : List Lexeme) : Prop :=
  match v with
  | some w => x = .ok (w, rest)
  | none => ∃ f, x = .error f

theorem Meets.bind {α β : Type} {x : Except Fault (α × List Lexeme)} {v : Option α}
    {rest : List Lexeme} (hx : Meets x v rest) {k : α × List Lexeme → Except Fault (β × List Lexeme)}
    {w : α → Option β} {rest' : List Lexeme} (hk : ∀ a, v = some a → Meets (k (a, rest)) (w a) rest') :
    Meets (x >>= k) (v.bind w) rest' := by
  cases v with
  | none =>
    obtain ⟨f, rfl⟩ := hx
    exact ⟨f, rfl⟩
  | some a =>
    cases hx
    exact hk a rfl

theorem Meets.eq_ok {α : Type} {x : Except Fault (α × List Lexeme)} {w : α} {rest : List Lexeme}
    (h : Meets x (some w) rest) : x = .ok (w, rest) := h

theorem Meets.error {α : Type} (f : Fault) (rest : List Lexeme) :
    Meets (.error f : Except Fault (α × List Lexeme)) none rest := ⟨f, rfl⟩

theorem readItems_cons {α : Type} (item : Reader α) (fuel : Nat) (isFirst : Bool) {l : Lexeme}
    (hl : l ≠ .closeBracket) (ls : List Lexeme) :
    readItems item (fuel + 1) isFirst (separator isFirst ++ l :: ls) = (do
      let (x, rest) ← item (l :: ls)
      let (xs, rest) ← readItems item fuel false rest
      .ok (x :: xs, rest)) := by
  cases isFirst with
  | true => cases l <;> first | rfl | exact absurd rfl hl
  | false => cases l <;> first | rfl | exact absurd rfl hl

/-- Reading items comes to reading each of them. -/
theorem readItems_yield {α : Type} {item : Reader α} {fit : Form → Option α} {fs : List Form}
    (h : ∀ f ∈ fs, ∀ rest, Meets (item (f.yield ++ rest)) (fit f) rest) {fuel : Nat}
    (hf : fs.length ≤ fuel) (isFirst : Bool) (rest : List Lexeme) :
    Meets (readItems item fuel isFirst (yieldItems isFirst fs ++ .closeBracket :: rest))
      (fs.mapM fit) rest := by
  induction fs generalizing fuel isFirst with
  | nil => cases fuel <;> rfl
  | cons f fs ih =>
    obtain ⟨fuel, rfl⟩ := Nat.exists_eq_succ_of_ne_zero (by simp at hf; omega : fuel ≠ 0)
    obtain ⟨l, ks, hks, hl, -⟩ := f.yield_head
    have hitem := h f List.mem_cons_self (yieldItems false fs ++ .closeBracket :: rest)
    have hrest := ih (fun g hg => h g (List.mem_cons_of_mem _ hg)) (Nat.le_of_succ_le_succ hf) false
    rw [yieldItems, List.append_assoc, List.append_assoc]
    rw [hks] at hitem ⊢
    rw [List.cons_append, readItems_cons item fuel isFirst hl, List.mapM_cons]
    exact hitem.bind fun a _ => hrest.bind fun as _ => rfl

/-- The result of combining members in order, each given by its name and its form. -/
def gather {σ : Type} (step : σ → String → Form → Option σ) (s : σ)
    (ms : List (Option String × Form)) : Option σ :=
  ms.foldlM (fun s m => m.1.bind fun name => step s name m.2) s

theorem readMembers_yield {σ : Type} {member : σ → String → Reader σ}
    {step : σ → String → Form → Option σ} {ms : List (Option String × Form)}
    (h : ∀ name f, (some name, f) ∈ ms → ∀ s rest,
      Meets (member s name (.colon :: (f.yield ++ rest))) (step s name f) rest) {fuel : Nat}
    (hf : ms.length ≤ fuel) (isFirst : Bool) (s : σ) (rest : List Lexeme) :
    Meets (readMembers readName member fuel isFirst s
      (yieldMembers isFirst ms ++ .closeBrace :: rest)) (gather step s ms) (.closeBrace :: rest) := by
  induction ms generalizing fuel isFirst s with
  | nil => cases fuel <;> rfl
  | cons m ms ih =>
    obtain ⟨name, f⟩ := m
    obtain ⟨fuel, rfl⟩ := Nat.exists_eq_succ_of_ne_zero (by simp at hf; omega : fuel ≠ 0)
    have hrest := ih (fun n g hg => h n g (List.mem_cons_of_mem _ hg)) (Nat.le_of_succ_le_succ hf)
      false
    have hread : readMembers readName member (fuel + 1) isFirst s
        (yieldMembers isFirst ((name, f) :: ms) ++ .closeBrace :: rest) = (do
          let (k, rest) ← readName (.text name :: .colon ::
            (f.yield ++ (yieldMembers false ms ++ .closeBrace :: rest)))
          let (s, rest) ← member s k rest
          readMembers readName member fuel false s rest) := by
      rw [yieldMembers, List.append_assoc, List.cons_append, List.cons_append, List.append_assoc]
      cases isFirst <;> rfl
    rw [hread]
    cases name with
    | none => exact .error _ _
    | some name => exact (h name f List.mem_cons_self s _).bind fun s' _ => hrest s'

theorem bind_eq_ok {ε α β : Type} {x : Except ε α} {k : α → Except ε β} {b : β} :
    x >>= k = .ok b ↔ ∃ a, x = .ok a ∧ k a = .ok b := by
  cases x with
  | error e => exact ⟨nofun, fun ⟨_, h, _⟩ => by cases h⟩
  | ok a => exact ⟨fun h => ⟨a, rfl, h⟩, fun ⟨_, h, hk⟩ => by cases h; exact hk⟩

section Items

variable {α : Type} {item : Reader α} {P : α → Form → Prop}
  (h : ∀ ls x rest, item ls = .ok (x, rest) → ∃ f : Form, ls = f.yield ++ rest ∧ P x f)
include h

theorem eq_of_readItems_more {more : Reader (List α)} {ls rest : List Lexeme} {xs : List α}
    (hmore : ∀ ls xs, more ls = .ok (xs, rest) →
      ∃ fs, ls = yieldItems false fs ++ .closeBracket :: rest ∧ List.Forall₂ P xs fs)
    (isFirst : Bool)
    (hr : (do
      let (x, rest) ← item ls
      let (xs, rest) ← more rest
      .ok (x :: xs, rest)) = Except.ok (ε := Fault) (xs, rest)) :
    ∃ fs, separator isFirst ++ ls = yieldItems isFirst fs ++ .closeBracket :: rest ∧
      List.Forall₂ P xs fs := by
  obtain ⟨⟨x, ls₁⟩, hx, hr⟩ := bind_eq_ok.mp hr
  obtain ⟨⟨xs, ls₂⟩, hxs, hr⟩ := bind_eq_ok.mp hr
  cases hr
  obtain ⟨f, rfl, hp⟩ := h _ _ _ hx
  obtain ⟨fs, rfl, hps⟩ := hmore _ _ hxs
  refine ⟨f :: fs, ?_, .cons hp hps⟩
  rw [yieldItems, List.append_assoc, List.append_assoc]

theorem eq_of_readItems {fuel : Nat} {isFirst : Bool} {ls rest : List Lexeme} {xs : List α}
    (hr : readItems item fuel isFirst ls = .ok (xs, rest)) :
    ∃ fs, ls = yieldItems isFirst fs ++ .closeBracket :: rest ∧ List.Forall₂ P xs fs := by
  fun_induction readItems item fuel isFirst ls generalizing xs with
  | case1 =>
    cases hr
    exact ⟨[], rfl, .nil⟩
  | case2 => cases hr
  | case3 => cases hr
  | case4 fuel ls _ _ ih => exact eq_of_readItems_more h (fun ls xs => @ih ls xs) true hr
  | case5 => cases hr
  | case6 fuel ls _ ih => exact eq_of_readItems_more h (fun ls xs => @ih ls xs) false hr
  | case7 => cases hr

end Items

theorem eq_of_readName {ls rest : List Lexeme} {name : String}
    (h : readName ls = .ok (name, rest)) : ls = .text (some name) :: rest := by
  unfold readName at h
  split at h
  · cases h
    rfl
  · cases h
  · cases h

theorem eq_of_skipColon {ls rest : List Lexeme} (h : skipColon ls = .ok rest) :
    ls = .colon :: rest := by
  unfold skipColon at h
  split at h
  · cases h
    rfl
  · cases h

section Members

variable {σ : Type} {member : σ → String → Reader σ} {Q : List (Option String × Form) → σ → Prop}
  (h : ∀ ms s name ls s' rest, Q ms s → member s name ls = .ok (s', rest) →
    ∃ f : Form, ls = .colon :: (f.yield ++ rest) ∧ Q (ms ++ [(some name, f)]) s')
include h

theorem eq_of_readMembers_more {more : σ → Reader σ} {ls rest : List Lexeme} {s s' : σ}
    (before : List (Option String × Form)) (hs : Q before s)
    (hmore : ∀ s₁ ls before, Q before s₁ → more s₁ ls = .ok (s', rest) → ∃ ms rest',
      rest = .closeBrace :: rest' ∧ ls = yieldMembers false ms ++ .closeBrace :: rest' ∧
        Q (before ++ ms) s')
    (isFirst : Bool)
    (hr : (do
      let (name, rest) ← readName ls
      let (s, rest) ← member s name rest
      more s rest) = .ok (s', rest)) :
    ∃ ms rest', rest = .closeBrace :: rest' ∧
      separator isFirst ++ ls = yieldMembers isFirst ms ++ .closeBrace :: rest' ∧
        Q (before ++ ms) s' := by
  obtain ⟨⟨name, ls₁⟩, hname, hr'⟩ := bind_eq_ok.mp hr
  obtain ⟨⟨s₁, ls₂⟩, hm, hr''⟩ := bind_eq_ok.mp hr'
  obtain ⟨f, rfl, hq⟩ := h _ _ _ _ _ _ hs hm
  obtain ⟨ms, rest', rfl, rfl, hq⟩ := hmore _ _ _ hq hr''
  refine ⟨(some name, f) :: ms, rest', rfl, ?_, by simpa using hq⟩
  rw [eq_of_readName hname, yieldMembers]
  simp

/-- If a member is read from the lexemes of a form only, so is a list of members. `Q` is what is known
of the members read and the result so far. -/
theorem eq_of_readMembers {fuel : Nat} {isFirst : Bool} {ls rest : List Lexeme} {s s' : σ}
    (before : List (Option String × Form)) (hs : Q before s)
    (hr : readMembers readName member fuel isFirst s ls = .ok (s', rest)) :
    ∃ ms rest', rest = .closeBrace :: rest' ∧
      ls = yieldMembers isFirst ms ++ .closeBrace :: rest' ∧ Q (before ++ ms) s' := by
  fun_induction readMembers readName member fuel isFirst s ls generalizing before with
  | case1 _ _ s rest =>
    cases hr
    exact ⟨[], rest, rfl, rfl, (List.append_nil before).symm ▸ hs⟩
  | case2 => cases hr
  | case3 => cases hr
  | case4 fuel s ls _ _ ih =>
    exact eq_of_readMembers_more h before hs ih true hr
  | case5 fuel s ls ih =>
    exact eq_of_readMembers_more h before hs ih false hr
  | case6 => cases hr

end Members

theorem nested_of_lt {α : Type} {depth : Nat} (h : depth + 1 < nestingLimit)
    (inside : Nat → Reader α) (ls : List Lexeme) : nested depth inside ls = inside (depth + 1) ls :=
  if_neg (Nat.not_le_of_lt h)

theorem nested_eq_ok {α : Type} {depth : Nat} {inside : Nat → Reader α} {ls : List Lexeme}
    {r : α × List Lexeme} (h : nested depth inside ls = .ok r) :
    depth + 1 < nestingLimit ∧ inside (depth + 1) ls = .ok r := by
  unfold nested at h
  split at h
  · cases h
  · exact ⟨by omega, h⟩

/-! ## Reading -/

/-- Induction on values: the parts of a list or an object have the property. -/
@[elab_as_elim, induction_eliminator]
theorem induction {P : Json → Prop} (null : P .null) (boolean : ∀ b, P (.boolean b))
    (number : ∀ n, P (.number n)) (text : ∀ s, P (.text s))
    (array : ∀ items, (∀ v ∈ items, P v) → P (.array items))
    (object : ∀ members, (∀ m ∈ members, P m.2) → P (.object members)) (v : Json) : P v :=
  @Json.rec P (fun vs => ∀ v ∈ vs, P v) (fun ms => ∀ m ∈ ms, P m.2) (fun m => P m.2)
    null boolean number text array object (List.forall_mem_nil _)
    (fun _ _ h hs => List.forall_mem_cons.mpr ⟨h, hs⟩) (List.forall_mem_nil _)
    (fun _ _ h hs => List.forall_mem_cons.mpr ⟨h, hs⟩) (fun _ _ h => h) v

mutual
def form : Json → Form
  | null => .null
  | boolean b => .boolean b
  | number n => .number (some n)
  | text s => .text (some s)
  | array items => .array (formItems items)
  | object members => .object (formMembers members)

def formItems : List Json → List Form
  | [] => []
  | v :: rest => v.form :: formItems rest

def formMembers : List (String × Json) → List (Option String × Form)
  | [] => []
  | (name, v) :: rest => (some name, v.form) :: formMembers rest
end

mutual
/-- The nesting of lists and objects. -/
def depth : Json → Nat
  | null => 0
  | boolean _ => 0
  | number _ => 0
  | text _ => 0
  | array items => depthItems items + 1
  | object members => depthMembers members + 1

def depthItems : List Json → Nat
  | [] => 0
  | v :: rest => max v.depth (depthItems rest)

/-- The greatest depth of the values of members. -/
def depthMembers : List (String × Json) → Nat
  | [] => 0
  | (_, v) :: rest => max v.depth (depthMembers rest)
end

theorem formItems_eq (vs : List Json) : formItems vs = vs.map form := by
  induction vs with
  | nil => rfl
  | cons v rest ih => rw [formItems, ih, List.map_cons]

theorem formMembers_eq (ms : List (String × Json)) :
    formMembers ms = ms.map fun m => (some m.1, m.2.form) := by
  induction ms with
  | nil => rfl
  | cons m rest ih => rw [formMembers, ih, List.map_cons]

theorem depthItems_le_iff {vs : List Json} {k : Nat} : depthItems vs ≤ k ↔ ∀ v ∈ vs, v.depth ≤ k := by
  induction vs with
  | nil => simp [depthItems]
  | cons v rest ih =>
    rw [depthItems, Nat.max_le, ih]
    simp

theorem depthMembers_le_iff {ms : List (String × Json)} {k : Nat} :
    depthMembers ms ≤ k ↔ ∀ m ∈ ms, m.2.depth ≤ k := by
  induction ms with
  | nil => simp [depthMembers]
  | cons m rest ih =>
    rw [depthMembers, Nat.max_le, ih]
    simp

theorem memberValues_form {ms : List (String × Json)} (h : ∀ m ∈ ms, m.2.form.value = m.2) :
    memberValues (formMembers ms) = some ms := by
  induction ms with
  | nil => rfl
  | cons m rest ih =>
    rw [formMembers, memberValues, ih fun n hn => h n (List.mem_cons_of_mem _ hn),
      h m List.mem_cons_self]
    rfl

theorem value_form (v : Json) : v.form.value = v := by
  induction v with
  | null => rfl
  | boolean => rfl
  | number => rfl
  | text => rfl
  | array items ih =>
    rw [form, Form.value, values_eq, formItems_eq, List.map_map]
    exact congrArg array ((List.map_congr_left ih).trans (List.map_id items))
  | object members ih =>
    rw [form, Form.value, memberValues_form ih]
    rfl

theorem gather_formMembers (ms s : List (String × Json)) :
    gather (fun s name f => some ((name, f.value) :: s)) s (formMembers ms) =
      some (ms.reverse ++ s) := by
  induction ms generalizing s with
  | nil => rfl
  | cons m rest ih =>
    have hstep : gather (fun s name f => some ((name, f.value) :: s)) s (formMembers (m :: rest)) =
        gather (fun s name f => some ((name, f.value) :: s)) ((m.1, m.2.form.value) :: s)
          (formMembers rest) := rfl
    rw [hstep, value_form, ih, List.reverse_cons, List.append_assoc]
    rfl

theorem readValueUpTo_openBracket (fuel depth : Nat) (ls : List Lexeme) :
    readValueUpTo (fuel + 1) depth (.openBracket :: ls) = nested depth (fun depth ls => do
      let (items, rest) ← readItems (readValueUpTo fuel depth) ls.length true ls
      .ok (.array items, rest)) ls := rfl

/-- Reads the value of a member, and adds the member to those before it. -/
def readMember (value : Reader Json) (ms : List (String × Json)) (name : String) :
    Reader (List (String × Json)) := fun ls => do
  let (v, rest) ← value (← skipColon ls)
  .ok ((name, v) :: ms, rest)

theorem readValueUpTo_openBrace (fuel depth : Nat) (ls : List Lexeme) :
    readValueUpTo (fuel + 1) depth (.openBrace :: ls) = nested depth (fun depth ls => do
      let (members, rest) ← readMembers readName (readMember (readValueUpTo fuel depth)) ls.length
        true [] ls
      .ok (.object members.reverse, ← skipCloseBrace rest)) ls := rfl

theorem readValueUpTo_form (v : Json) {fuel depth : Nat} (hf : v.depth < fuel)
    (hd : depth + v.depth < nestingLimit) (rest : List Lexeme) :
    readValueUpTo fuel depth (v.form.yield ++ rest) = .ok (v, rest) := by
  obtain ⟨fuel, rfl⟩ := Nat.exists_eq_succ_of_ne_zero (Nat.ne_zero_of_lt hf)
  induction v generalizing fuel depth rest with
  | null => rfl
  | boolean => rfl
  | number => rfl
  | text => rfl
  | array items ih =>
    rw [Json.depth] at hf hd
    have hitems : ∀ f ∈ formItems items, ∀ rest,
        Meets (readValueUpTo fuel (depth + 1) (f.yield ++ rest)) (some f.value) rest := by
      rw [formItems_eq]
      intro f hf' rest
      obtain ⟨v, hv, rfl⟩ := List.mem_map.mp hf'
      have := depthItems_le_iff.mp (Nat.le_refl _) v hv
      obtain ⟨fuel, rfl⟩ := Nat.exists_eq_succ_of_ne_zero (by omega : fuel ≠ 0)
      rw [value_form]
      exact ih v hv (by omega) rest fuel (by omega)
    have hvalues : (formItems items).mapM (fun f => some f.value) = some items := by
      have hmap : (formItems items).map value = items := by
        rw [← values_eq]
        exact array.inj (value_form (.array items))
      exact (List.mapM_pure (m := Option)).trans (congrArg some hmap)
    have hread := readItems_yield hitems (Nat.le_trans (length_le_yieldItems true (formItems items))
      (List.sublist_append_left _ (.closeBracket :: rest)).length_le) true rest
    rw [hvalues] at hread
    rw [form, yield, List.cons_append, List.append_assoc, List.singleton_append, Nat.succ_eq_add_one,
      readValueUpTo_openBracket, nested_of_lt (by omega), hread.eq_ok]
    rfl
  | object members ih =>
    rw [Json.depth] at hf hd
    have hmembers : ∀ name f, (some name, f) ∈ formMembers members → ∀ s rest,
        Meets (readMember (readValueUpTo fuel (depth + 1)) s name (.colon :: (f.yield ++ rest)))
          (some ((name, f.value) :: s)) rest := by
      rw [formMembers_eq]
      intro name f hm s rest
      obtain ⟨⟨_, v⟩, hv, ⟨⟩⟩ := List.mem_map.mp hm
      have := depthMembers_le_iff.mp (Nat.le_refl _) _ hv
      obtain ⟨fuel, rfl⟩ := Nat.exists_eq_succ_of_ne_zero (by omega : fuel ≠ 0)
      rw [value_form]
      show (readValueUpTo _ _ _ >>= _) = _
      rw [ih _ hv (by omega) rest fuel (by omega)]
      rfl
    have hread := readMembers_yield hmembers (Nat.le_trans
      (length_le_yieldMembers true (formMembers members))
      (List.sublist_append_left _ (.closeBrace :: rest)).length_le) true [] rest
    rw [gather_formMembers, List.append_nil] at hread
    rw [form, yield, List.cons_append, List.append_assoc, List.singleton_append, Nat.succ_eq_add_one,
      readValueUpTo_openBrace, nested_of_lt (by omega), hread.eq_ok]
    show Except.ok (object members.reverse.reverse, rest) = _
    rw [List.reverse_reverse]

theorem eq_formItems_of_forall₂ {vs : List Json} {fs : List Form} {k : Nat}
    (h : List.Forall₂ (fun v f => f = v.form ∧ v.depth ≤ k) vs fs) :
    fs = formItems vs ∧ depthItems vs ≤ k := by
  induction h with
  | nil => exact ⟨rfl, Nat.zero_le _⟩
  | cons h _ ih =>
    rw [formItems, depthItems, Nat.max_le, h.1, ih.1]
    exact ⟨rfl, h.2, ih.2⟩

theorem eq_of_readMember {value : Reader Json} {k : Nat}
    (h : ∀ ls v rest, value ls = .ok (v, rest) → ls = v.form.yield ++ rest ∧ v.depth ≤ k)
    {fs : List (Option String × Form)} {s s' : List (String × Json)} {name : String}
    {ls rest : List Lexeme} (hs : fs = formMembers s.reverse ∧ depthMembers s.reverse ≤ k)
    (hr : readMember value s name ls = .ok (s', rest)) :
    ∃ f : Form, ls = .colon :: (f.yield ++ rest) ∧
      fs ++ [(some name, f)] = formMembers s'.reverse ∧ depthMembers s'.reverse ≤ k := by
  obtain ⟨ls', hcolon, hr⟩ := bind_eq_ok.mp hr
  obtain ⟨⟨v, ls''⟩, hread, hr⟩ := bind_eq_ok.mp hr
  cases hr
  obtain ⟨rfl, hv⟩ := h _ _ _ hread
  obtain ⟨rfl, hdepth⟩ := hs
  rw [depthMembers_le_iff] at hdepth
  refine ⟨v.form, eq_of_skipColon hcolon, ?_, ?_⟩
  · rw [List.reverse_cons, formMembers_eq, formMembers_eq, List.map_append]
    rfl
  · rw [List.reverse_cons, depthMembers_le_iff, List.forall_mem_append]
    exact ⟨hdepth, List.forall_mem_singleton.mpr hv⟩

theorem eq_yield_of_readValueUpTo {fuel depth : Nat} (hd : depth < nestingLimit)
    {ls rest : List Lexeme} {v : Json} (h : readValueUpTo fuel depth ls = .ok (v, rest)) :
    ls = v.form.yield ++ rest ∧ depth + v.depth < nestingLimit := by
  induction fuel generalizing depth ls rest v with
  | zero => cases h
  | succ fuel ih =>
    have hinside : depth + 1 < nestingLimit → ∀ ls v rest,
        readValueUpTo fuel (depth + 1) ls = .ok (v, rest) →
        ls = v.form.yield ++ rest ∧ v.depth ≤ nestingLimit - 1 - (depth + 1) := by
      intro hlt ls v rest h
      obtain ⟨hls, hv⟩ := ih hlt h
      exact ⟨hls, by omega⟩
    rcases ls with _ | ⟨l, ls⟩
    · cases h
    cases l with
    | null =>
      cases h
      exact ⟨rfl, hd⟩
    | boolean b =>
      cases h
      exact ⟨rfl, hd⟩
    | number value =>
      cases value with
      | none => cases h
      | some n =>
        cases h
        exact ⟨rfl, hd⟩
    | text value =>
      cases value with
      | none => cases h
      | some s =>
        cases h
        exact ⟨rfl, hd⟩
    | openBracket =>
      rw [readValueUpTo_openBracket] at h
      obtain ⟨hlt, h⟩ := nested_eq_ok h
      obtain ⟨⟨vs, ls'⟩, hvs, h⟩ := bind_eq_ok.mp h
      cases h
      obtain ⟨fs, rfl, hps⟩ := eq_of_readItems
        (P := fun v f => f = v.form ∧ v.depth ≤ nestingLimit - 1 - (depth + 1))
        (fun _ v _ h => ⟨v.form, (hinside hlt _ _ _ h).1, rfl, (hinside hlt _ _ _ h).2⟩) hvs
      obtain ⟨rfl, hdepth⟩ := eq_formItems_of_forall₂ hps
      rw [form, yield, Json.depth, List.cons_append, List.append_assoc]
      exact ⟨rfl, by omega⟩
    | openBrace =>
      rw [readValueUpTo_openBrace] at h
      obtain ⟨hlt, h⟩ := nested_eq_ok h
      obtain ⟨⟨ms, ls'⟩, hms, h⟩ := bind_eq_ok.mp h
      obtain ⟨ls'', hclose, h⟩ := bind_eq_ok.mp h
      cases h
      obtain ⟨fs, rest', rfl, rfl, rfl, hdepth⟩ := eq_of_readMembers
        (Q := fun fs ms => fs = formMembers ms.reverse ∧
          depthMembers ms.reverse ≤ nestingLimit - 1 - (depth + 1))
        (fun _ _ _ _ _ _ hs h => eq_of_readMember (hinside hlt) hs h) [] ⟨rfl, Nat.zero_le _⟩ hms
      cases hclose
      rw [form, yield, Json.depth, List.cons_append, List.append_assoc]
      exact ⟨rfl, by omega⟩
    | closeBrace => cases h
    | closeBracket => cases h
    | colon => cases h
    | comma => cases h
    | broken => cases h

/-- A value is read if and only if the lexemes begin with the yield of its form and it is not too deep.
-/
theorem readValue_eq_ok {depth : Nat} (hd : depth < nestingLimit) {ls rest : List Lexeme} {v : Json} :
    readValue depth ls = .ok (v, rest) ↔
      ls = v.form.yield ++ rest ∧ depth + v.depth < nestingLimit := by
  constructor
  · exact eq_yield_of_readValueUpTo hd
  · rintro ⟨rfl, hv⟩
    exact readValueUpTo_form v (by omega) hv rest

end FeatureFlags.Json
