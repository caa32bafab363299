import Mathlib.Data.List.Basic
import FeatureFlags.Proofs.Operators

/-!
# Truth of many operands

`conjunction` and `disjunction` go through their operands from the left; an operand without a truth
value (a text or a number) ends this with undefined, but an operand that decides does not end it.
Both combine truth values in a way that one of them, false or true, decides (`DecidesBy`). So the
result can be stated without an order (`combine_eq_undefined_iff`, `combine_of_truths`).

The laws follow: the result depends only on which operands occur (`combine_congr`), each operation
is the other one on negated operands (`negation_combine`), and an operand that is a call of the same
operation can be replaced by its operands if each of these has a truth value (`combine_nested`). The
main result is `logic_ignores_order`.
-/

namespace FeatureFlags

namespace Value

/-- Whether a value is a text or a number, which have no truth value. -/
def IsTruthless (v : Value) : Prop := (∃ s, v = text s) ∨ ∃ x, v = number x

def isTrue : Value → Bool
  | boolean b => b
  | _ => false

theorem isTrue_iff {v : Value} : v.isTrue = true ↔ v = boolean true := by
  cases v <;> simp [isTrue]

theorem isTrue_eq_false_iff {v : Value} : v.isTrue = false ↔ v ≠ boolean true := by
  rw [ne_eq, ← isTrue_iff, Bool.not_eq_true]

@[simp] theorem not_isTruthless_boolean (b : Bool) : ¬(boolean b).IsTruthless := by
  rintro (⟨s, h⟩ | ⟨x, h⟩) <;> cases h

@[simp] theorem not_isTruthless_undefined : ¬undefined.IsTruthless := by
  rintro (⟨s, h⟩ | ⟨x, h⟩) <;> cases h

end Value

namespace Operation

variable {v : Value} {vs ws : List Value} {op op' : Bool → Bool → Bool} {d result : Bool}

/-! ## Single operands -/

theorem truth?_of_isTruthless (h : v.IsTruthless) : truth? v = none := by
  rcases h with ⟨s, rfl⟩ | ⟨x, rfl⟩ <;> rfl

theorem truth?_of_not_isTruthless (h : ¬v.IsTruthless) : truth? v = some v.isTrue := by
  cases v with
  | boolean b => rfl
  | undefined => rfl
  | text s => exact absurd (.inl ⟨s, rfl⟩) h
  | number x => exact absurd (.inr ⟨x, rfl⟩) h

theorem negation_of_not_isTruthless (h : ¬v.IsTruthless) : negation v = .boolean !v.isTrue := by
  rw [negation, truth?_of_not_isTruthless h]
  rfl

/-! ## Lists of operands -/

/-- Whether an operation on truth values yields one of them if an operand has it, and the other one
otherwise. -/
def DecidesBy (op : Bool → Bool → Bool) (d : Bool) : Prop := ∀ a b, op a b = d ↔ a = d ∨ b = d

theorem and_decidesBy : DecidesBy (· && ·) false := by
  unfold DecidesBy
  decide

theorem or_decidesBy : DecidesBy (· || ·) true := by
  unfold DecidesBy
  decide

/-- An operand without truth value makes the result undefined, wherever it occurs. -/
theorem combine_of_isTruthless (h : ∃ v ∈ vs, v.IsTruthless) : combine op result vs = .undefined := by
  obtain ⟨w, hw, ht⟩ := h
  induction vs generalizing result with
  | nil => cases hw
  | cons v rest ih =>
    by_cases hv : v.IsTruthless
    · rw [combine, truth?_of_isTruthless hv]
    · rw [combine, truth?_of_not_isTruthless hv]
      rcases List.mem_cons.mp hw with rfl | hw
      · exact absurd ht hv
      · exact ih hw

/-- If all operands have truth values, the result is the deciding one if an operand has it. -/
theorem exists_combine_of_truths (result : Bool) (hop : DecidesBy op d)
    (h : ∀ v ∈ vs, ¬v.IsTruthless) :
    ∃ b, combine op result vs = .boolean b ∧ (b = d ↔ result = d ∨ ∃ v ∈ vs, v.isTrue = d) := by
  induction vs generalizing result with
  | nil => exact ⟨result, rfl, by simp⟩
  | cons v rest ih =>
    rw [List.forall_mem_cons] at h
    rw [combine, truth?_of_not_isTruthless h.1]
    obtain ⟨b, hb, hd⟩ := ih (op result v.isTrue) h.2
    refine ⟨b, hb, ?_⟩
    rw [hd, hop, List.exists_mem_cons_iff, or_assoc]

theorem combine_of_truths (hop : DecidesBy op d) (h : ∀ v ∈ vs, ¬v.IsTruthless) :
    combine op (!d) vs = .boolean (if ∃ v ∈ vs, v.isTrue = d then d else !d) := by
  obtain ⟨b, hb, hd⟩ := exists_combine_of_truths (!d) hop h
  have hd' : b = d ↔ ∃ v ∈ vs, v.isTrue = d := by simpa using hd
  rw [hb]
  split
  · rename_i he
    rw [hd'.mpr he]
  · rename_i he
    rw [Bool.eq_not.mpr fun hbd => he (hd'.mp hbd)]

theorem combine_eq_undefined_iff (hop : DecidesBy op d) :
    combine op (!d) vs = .undefined ↔ ∃ v ∈ vs, v.IsTruthless := by
  constructor
  · intro h
    by_contra hno
    rw [combine_of_truths hop fun v hv ht => hno ⟨v, hv, ht⟩] at h
    cases h
  · exact combine_of_isTruthless

/-! ## Laws -/

theorem combine_congr (hop : DecidesBy op d) (h : ∀ v, v ∈ vs ↔ v ∈ ws) :
    combine op (!d) vs = combine op (!d) ws := by
  by_cases ht : ∃ v ∈ vs, v.IsTruthless
  · have ht' : ∃ v ∈ ws, v.IsTruthless := by simpa only [h] using ht
    rw [combine_of_isTruthless ht, combine_of_isTruthless ht']
  · have hvs : ∀ v ∈ vs, ¬v.IsTruthless := fun v hv hno => ht ⟨v, hv, hno⟩
    have hws : ∀ v ∈ ws, ¬v.IsTruthless := fun v hv => hvs v ((h v).mpr hv)
    rw [combine_of_truths hop hvs, combine_of_truths hop hws]
    simp only [h]

/-- Negating the result of one operation is the other operation on negated operands. -/
theorem negation_combine (hop : DecidesBy op d) (hop' : DecidesBy op' !d)
    (h : ∀ v ∈ vs, ¬v.IsTruthless) :
    negation (combine op (!d) vs) = combine op' d (vs.map negation) := by
  have hopposites : ∀ v ∈ vs, negation v = .boolean !v.isTrue := fun v hv =>
    negation_of_not_isTruthless (h v hv)
  have hmap : vs.map negation = vs.map fun v => .boolean !v.isTrue := List.map_congr_left hopposites
  have htruths : ∀ w ∈ vs.map fun v => Value.boolean !v.isTrue, ¬w.IsTruthless := by
    intro w hw
    obtain ⟨v, -, rfl⟩ := List.mem_map.mp hw
    exact Value.not_isTruthless_boolean _
  have hcombine := combine_of_truths hop' htruths
  have hmeets : (∃ w ∈ vs.map fun v => Value.boolean !v.isTrue, w.isTrue = !d) ↔
      ∃ v ∈ vs, v.isTrue = d := by
    simp [Value.isTrue]
  rw [Bool.not_not] at hcombine
  rw [hmap, hcombine, combine_of_truths hop h, negation_of_not_isTruthless (Value.not_isTruthless_boolean _),
    Value.isTrue]
  simp only [hmeets]
  split
  · rfl
  · rw [Bool.not_not]

/-- An operand that is a call of the same operation can be replaced by its operands, unless it is
undefined and the whole is not. -/
theorem combine_nested (hop : DecidesBy op d) :
    combine op (!d) [v, combine op (!d) vs] = combine op (!d) (v :: vs) ↔
      v.IsTruthless ∨ ∀ w ∈ vs, ¬w.IsTruthless := by
  by_cases hv : v.IsTruthless
  · rw [combine_of_isTruthless ⟨v, List.mem_cons_self, hv⟩,
      combine_of_isTruthless ⟨v, List.mem_cons_self, hv⟩]
    exact ⟨fun _ => .inl hv, fun _ => rfl⟩
  by_cases ht : ∃ w ∈ vs, w.IsTruthless
  · -- the inner operation counts as false, while the outer one would be undefined
    obtain ⟨w, hw, hno⟩ := ht
    have hinner : combine op (!d) vs = .undefined := combine_of_isTruthless ⟨w, hw, hno⟩
    have houter : ∀ u ∈ [v, .undefined], ¬u.IsTruthless := by
      simp [hv]
    have hmem : ∃ u ∈ v :: vs, u.IsTruthless := ⟨w, List.mem_cons_of_mem v hw, hno⟩
    rw [hinner, combine_of_isTruthless hmem, combine_of_truths hop houter]
    constructor
    · intro h
      cases h
    · rintro (h | h)
      · exact absurd h hv
      · exact absurd hno (h w hw)
  · have hvs : ∀ w ∈ vs, ¬w.IsTruthless := fun w hw hno => ht ⟨w, hw, hno⟩
    have hall : ∀ w ∈ v :: vs, ¬w.IsTruthless := List.forall_mem_cons.mpr ⟨hv, hvs⟩
    obtain ⟨b, hb, hd⟩ := exists_combine_of_truths (!d) hop hvs
    have hpair : ∀ w ∈ [v, .boolean b], ¬w.IsTruthless := by
      simp [hv]
    have hmeets : (∃ w ∈ [v, .boolean b], w.isTrue = d) ↔ ∃ w ∈ v :: vs, w.isTrue = d := by
      have hinner : b = d ↔ ∃ w ∈ vs, w.isTrue = d := by simpa using hd
      rw [List.exists_mem_cons_iff (a := v) (l := vs), ← hinner]
      simp [Value.isTrue]
    rw [hb, combine_of_truths hop hpair, combine_of_truths hop hall]
    simp only [hmeets]
    exact ⟨fun _ => .inr hvs, fun _ => trivial⟩

theorem conjunction_of_truths (h : ∀ v ∈ vs, ¬v.IsTruthless) :
    conjunction vs = .boolean (decide (∀ v ∈ vs, v = .boolean true)) := by
  have hcombine : conjunction vs = .boolean (if ∃ v ∈ vs, v.isTrue = false then false else true) :=
    combine_of_truths and_decidesBy h
  rw [hcombine]
  by_cases hall : ∀ v ∈ vs, v = .boolean true
  · have hnone : ¬∃ v ∈ vs, v.isTrue = false := by
      rintro ⟨v, hv, hf⟩
      exact Value.isTrue_eq_false_iff.mp hf (hall v hv)
    rw [if_neg hnone, decide_eq_true hall]
  · have hsome : ∃ v ∈ vs, v.isTrue = false := by
      simpa only [Value.isTrue_eq_false_iff, not_forall, exists_prop] using hall
    rw [if_pos hsome, decide_eq_false hall]

theorem disjunction_of_truths (h : ∀ v ∈ vs, ¬v.IsTruthless) :
    disjunction vs = .boolean (decide (∃ v ∈ vs, v = .boolean true)) := by
  have hcombine : disjunction vs = .boolean (if ∃ v ∈ vs, v.isTrue = true then true else false) :=
    combine_of_truths or_decidesBy h
  rw [hcombine]
  simp only [Value.isTrue_iff]
  split
  · rename_i hsome
    rw [decide_eq_true hsome]
  · rename_i hnone
    rw [decide_eq_false hnone]

end Operation

/-! ## Calls -/

section Calls

open Operation

variable {now : Number} {x : Context} {v : Value} {vs ws : List Value}

theorem builtinValue_and :
    builtinValue now "and" vs x = if 2 ≤ vs.length then conjunction vs else .undefined := by
  have hand : (builtinOperations now).lookup "and" = some (.atLeast 2, conjunction) := rfl
  rw [builtinValue_eq, hand]
  simp [Arity.accepts]

theorem builtinValue_or :
    builtinValue now "or" vs x = if 2 ≤ vs.length then disjunction vs else .undefined := by
  have hor : (builtinOperations now).lookup "or" = some (.atLeast 2, disjunction) := rfl
  rw [builtinValue_eq, hor]
  simp [Arity.accepts]

theorem exists_builtinValue_combine {name : String} (hn : name ∈ ["and", "or"]) :
    ∃ op d, DecidesBy op d ∧ ∀ vs, builtinValue now name vs x =
      if 2 ≤ vs.length then combine op (!d) vs else .undefined := by
  simp only [List.mem_cons, List.not_mem_nil, or_false] at hn
  rcases hn with rfl | rfl
  · exact ⟨_, _, and_decidesBy, fun _ => builtinValue_and⟩
  · exact ⟨_, _, or_decidesBy, fun _ => builtinValue_or⟩

theorem builtinValue_not : builtinValue now "not" [v] x = negation v := by
  rw [builtinValue_eq]
  rfl

end Calls

open Operation in
/-- With at least two operands, `and` and `or` are undefined if some operand is a text or a number,
wherever it occurs. Otherwise they say whether all operands, or some, are true. So neither the order of
operands nor their repetition matters. If all operands have truth values, `not` of one operation is the
other one on negated operands. A call of one of them as an operand of the same operation can be replaced
by its operands if and only if none of these is a text or a number, or the operand beside the call is
one. -/
theorem logic_ignores_order (now : Number) (x : Context) :
    let value := fun name vs => builtinValue now name vs x
    let truthless := fun v : Value => (∃ s, v = .text s) ∨ ∃ n, v = .number n
    (∀ vs, 2 ≤ vs.length →
      (value "and" vs = .undefined ↔ ∃ v ∈ vs, truthless v) ∧
      (value "or" vs = .undefined ↔ ∃ v ∈ vs, truthless v) ∧
      ((∀ v ∈ vs, ¬truthless v) →
        value "and" vs = .boolean (decide (∀ v ∈ vs, v = .boolean true)) ∧
        value "or" vs = .boolean (decide (∃ v ∈ vs, v = .boolean true)))) ∧
    (∀ name ∈ ["and", "or"], ∀ vs ws, vs.Perm ws → value name vs = value name ws) ∧
    (∀ name ∈ ["and", "or"], ∀ vs ws, 2 ≤ vs.length → 2 ≤ ws.length → (∀ v, v ∈ vs ↔ v ∈ ws) →
      value name vs = value name ws) ∧
    (∀ vs, 2 ≤ vs.length → (∀ v ∈ vs, ¬truthless v) →
      value "not" [value "and" vs] = value "or" (vs.map fun v => value "not" [v]) ∧
      value "not" [value "or" vs] = value "and" (vs.map fun v => value "not" [v])) ∧
    ∀ name ∈ ["and", "or"], ∀ v vs, 2 ≤ vs.length →
      (value name [v, value name vs] = value name (v :: vs) ↔
        truthless v ∨ ∀ w ∈ vs, ¬truthless w) := by
  intro value truthless
  simp only [value, truthless]
  refine ⟨?_, ?_, ?_, ?_, ?_⟩
  · intro vs h
    rw [builtinValue_and, builtinValue_or, if_pos h, if_pos h]
    exact ⟨combine_eq_undefined_iff and_decidesBy, combine_eq_undefined_iff or_decidesBy,
      fun ht => ⟨conjunction_of_truths ht, disjunction_of_truths ht⟩⟩
  · intro name hn vs ws hp
    obtain ⟨op, d, hop, hvalue⟩ := @exists_builtinValue_combine now x name hn
    rw [hvalue, hvalue, hp.length_eq, combine_congr hop fun _ => hp.mem_iff]
  · intro name hn vs ws hvs hws h
    obtain ⟨op, d, hop, hvalue⟩ := @exists_builtinValue_combine now x name hn
    rw [hvalue, hvalue, if_pos hvs, if_pos hws, combine_congr hop h]
  · intro vs h ht
    have hmap : 2 ≤ (vs.map negation).length := by
      rw [List.length_map]
      exact h
    simp only [builtinValue_not]
    rw [builtinValue_and, builtinValue_and, builtinValue_or, builtinValue_or, if_pos h, if_pos h,
      if_pos hmap, if_pos hmap]
    exact ⟨negation_combine and_decidesBy or_decidesBy ht, negation_combine or_decidesBy and_decidesBy ht⟩
  · intro name hn v vs h
    obtain ⟨op, d, hop, hvalue⟩ := @exists_builtinValue_combine now x name hn
    have hcons : 2 ≤ (v :: vs).length := Nat.le_succ_of_le h
    rw [hvalue vs, hvalue (v :: vs), if_pos h, if_pos hcons, hvalue]
    exact combine_nested hop

/-- A text after an operand that is false, and a repeated operand. -/
theorem logic_ignores_order_text :
    let value := fun name vs => builtinValue ⟨0⟩ name vs .empty
    value "and" [.boolean false, .text "a"] = .undefined ∧
      value "or" [.boolean true, .undefined, .boolean true] = value "or" [.undefined, .boolean true] ∧
      value "not" [value "and" [.undefined, .boolean true]] =
        value "or" [value "not" [.undefined], value "not" [.boolean true]] ∧
      value "and" [.boolean false, value "and" [.boolean true, .text "a"]] ≠
        value "and" [.boolean false, .boolean true, .text "a"] := by
  intro value
  obtain ⟨hvalue, -, hrepeated, hopposites, hnested⟩ := logic_ignores_order ⟨0⟩ .empty
  refine ⟨(hvalue [.boolean false, .text "a"] (by decide)).1.mpr ⟨_, by decide, .inl ⟨"a", rfl⟩⟩,
    hrepeated "or" (by decide) _ _ (by decide) (by decide) (by simp [or_comm]),
    (hopposites [.undefined, .boolean true] (by decide) (by simp)).1, fun he => ?_⟩
  rcases (hnested "and" (by decide) (.boolean false) [.boolean true, .text "a"] (by decide)).mp he with h | h
  · exact Value.not_isTruthless_boolean false h
  · exact h (.text "a") (by decide) (.inl ⟨"a", rfl⟩)

end FeatureFlags
