import FeatureFlags.Proofs.Wire
import FeatureFlags.Configuration

/-!
# Payloads

`Configuration.read` reads each experiment as a JSON value and then fits it to a model, so an
element that is not a model does not affect the others: the result is that of each element by itself
(`Configuration.read_of_values`).

But all values have to be read. An element that `ExperimentModel.read` accepts by itself can
contain, in a member that is ignored, well-formed data without a value, such as a numeral out of
range; in a payload it makes the whole payload unreadable (`Configuration.read_holding`).
-/

namespace FeatureFlags

open Json

namespace Configuration

/-! ## The list of experiments -/

theorem models_map_element (vs : List Json) :
    models ⟨vs.map element⟩ = vs.filterMap ExperimentModel.ofJson? := by
  rw [models, List.filterMap_map]
  refine congrArg (List.filterMap · vs) (funext fun v => ?_)
  show (element v).toOption = _
  rw [element]
  cases ExperimentModel.ofJson? v <;> rfl

/-- Reading a payload comes to reading its list of experiments, whatever other members it has. -/
theorem toOption_read {items : List Form} {f : Form} {payload : String}
    (hf : f.IsRecord ["experiments"] [("experiments", .array items)])
    (hp : Writes f.yield payload.toList) {vs : Option (List Json)}
    (h : ∀ rest, Meets (readList readValue 1 ((Form.array items).yield ++ rest)) (vs.map .array) rest) :
    (read payload).toOption = vs.map fun vs => ⟨vs.map element⟩ := by
  -- a list of experiments is described by what fits its elements
  have hfit : fitRecord [("experiments", some (.array []))] [("experiments", fun _ => vs.map .array)]
      f.value = vs.map fun vs => .array [.array vs] := by
    rw [hf.fitRecord_eq _ rfl]
    cases vs <;> rfl
  obtain ⟨others, ms, hothers, hperm, rfl⟩ := hf
  have hagree : FieldsAgree 1 [("experiments", readList readValue)]
      [("experiments", fun _ => vs.map .array)] (ms.map fun m => (some m.1, m.2)) := by
    refine .cons ⟨rfl, fun g hg => ?_⟩ .nil
    obtain ⟨⟨name, g'⟩, hm, hname⟩ := List.mem_map.mp hg
    cases hname
    rcases List.mem_append.mp (hperm.mem_iff.mp hm) with hm | hm
    · cases List.mem_singleton.mp hm
      exact h
    · exact absurd (List.mem_singleton.mpr rfl) (hothers _ hm)
  have hread := @readRecord_yield_object [("experiments", some (.array []))] _ _ _ 0 (by decide)
    hagree []
  rw [hfit, List.append_nil, ← (writes_iff_lexemes.mp hp).1] at hread
  show ((readWhole (schema.read 0) payload).map ofFields).toOption = _
  rw [readWhole]
  cases vs with
  | none =>
    obtain ⟨e, he⟩ := hread
    rw [show schema.read 0 (lexemes payload) = _ from he]
    rfl
  | some vs =>
    rw [show schema.read 0 (lexemes payload) = _ from hread.eq_ok]
    rfl

theorem read_of_values {vs : List Json} (hv : ∀ v ∈ vs, v.depth + 2 < nestingLimit) {f : Form}
    (hf : f.IsRecord ["experiments"] [("experiments", .array (vs.map Json.form))]) {payload : String}
    (hp : Writes f.yield payload.toList) : read payload = .ok ⟨vs.map element⟩ := by
  have hitems : ∀ g ∈ vs.map Json.form, AgreesOn (readValue 2) some g := by
    intro g hg rest
    obtain ⟨v, hmem, rfl⟩ := List.mem_map.mp hg
    rw [value_form]
    have := hv v hmem
    exact (readValue_eq_ok (by decide)).mpr ⟨rfl, by omega⟩
  have hvalues : (Form.values (vs.map Json.form)).mapM some = some vs := by
    rw [← formItems_eq]
    exact (List.mapM_pure (m := Option)).trans
      (congrArg some ((List.map_id _).trans (array.inj (value_form (.array vs)))))
  have hlist := readList_yield (by decide : 1 + 1 < nestingLimit) hitems
  rw [hvalues] at hlist
  have hoption := toOption_read hf hp hlist
  cases hread : read payload with
  | error e =>
    rw [hread] at hoption
    cases hoption
  | ok k =>
    rw [hread] at hoption
    cases hoption
    rfl

/-! ## One experiment -/

/-- The payload with the text of one experiment. -/
def holding (t : String) : String := "\x7b\"experiments\":[" ++ t ++ "]\x7d"

theorem writes_holding {f : Form} {t : String} (h : Writes f.yield t.toList) :
    Writes (Form.object [(some "experiments", .array [f])]).yield (holding t).toList := by
  have hbehind : Writes [.closeBracket, .closeBrace] "]\x7d".toList :=
    writes_iff_lexemes.mpr ⟨by decide +kernel, by decide⟩
  have hlist := Writes.lexeme .openBracket (h.append hbehind (by rintro _ ⟨⟩; rfl)) rfl
  have hmember := Writes.lexeme (written_printText "experiments") (.lexeme .colon hlist rfl) rfl
  have hbefore : "\x7b\"experiments\":[".toList =
      ['\x7b'] ++ (printText "experiments" ++ ([':'] ++ ['['])) := by decide +kernel
  have happend : ∀ x y : String, (x ++ t ++ y).toList = x.toList ++ (t.toList ++ y.toList) := by
    intro x y
    rw [String.toList_append, String.toList_append, List.append_assoc]
  have htext : (holding t).toList = ['\x7b'] ++ (printText "experiments" ++
      ([':'] ++ (['['] ++ (t.toList ++ "]\x7d".toList)))) := by
    refine (happend _ _).trans ?_
    rw [hbefore, List.append_assoc, List.append_assoc, List.append_assoc]
  have hyield : (Form.object [(some "experiments", .array [f])]).yield = .openBrace ::
      .text (some "experiments") :: .colon :: .openBracket ::
        (f.yield ++ [.closeBracket, .closeBrace]) := by
    simp [Form.yield, Form.yieldMembers, Form.yieldItems, Form.separator]
  rw [htext, hyield]
  exact .lexeme .openBrace hmember rfl

/-- Of the yield of a form a value is read if and only if it is the form of a value within the limit. -/
theorem readValue_yield {depth : Nat} (hd : depth < nestingLimit) (f : Form) :
    (∃ v : Json, f.yield = v.form.yield ∧ depth + v.depth < nestingLimit) ∨
      ∀ rest, Meets (readValue depth (f.yield ++ rest)) none rest := by
  by_cases h : ∃ v : Json, f.yield = v.form.yield ∧ depth + v.depth < nestingLimit
  · exact .inl h
  · refine .inr fun rest => ?_
    cases hread : readValue depth (f.yield ++ rest) with
    | error e => exact ⟨e, rfl⟩
    | ok p =>
      obtain ⟨v, rest'⟩ := p
      obtain ⟨hyield, hv⟩ := (readValue_eq_ok hd).mp hread
      -- a value ends where skipping it ends, so the two forms have the same lexemes
      have hskip : skipValue (f.yield ++ rest) = .ok rest' := hyield ▸ skipValue_eq_ok.mpr ⟨v.form, rfl⟩
      cases (skipValue_eq_ok.mpr ⟨f, rfl⟩).symm.trans hskip
      exact absurd ⟨v, List.append_cancel_right hyield, hv⟩ h

theorem read_holding_of_value {v : Json} (hv : v.depth + 2 < nestingLimit) {t : String}
    (ht : Writes v.form.yield t.toList) {m : ExperimentModel} (h : ExperimentModel.read t = .ok m) :
    read (holding t) = .ok ⟨[.ok m]⟩ := by
  have hm : ExperimentModel.ofJson? v = some m := by
    rw [← value_form v, ← ExperimentModel.read_of_writes ht, h]
    rfl
  have hread := read_of_values (List.forall_mem_singleton.mpr hv)
    ⟨[], [("experiments", .array [v.form])], List.forall_mem_nil _, .refl _, rfl⟩ (writes_holding ht)
  rw [hread, List.map_singleton, element, hm]

theorem read_holding_of_not_value {f : Form} (hf : ∀ rest, Meets (readValue 2 (f.yield ++ rest)) none rest)
    {t : String} (ht : Writes f.yield t.toList) : ∃ e, read (holding t) = .error e := by
  have hlist := @readList_yield readValue (fun _ => none) 1 (by decide) [f]
    (List.forall_mem_singleton.mpr hf)
  have hoption := @toOption_read _ _ _
    ⟨[], [("experiments", .array [f])], List.forall_mem_nil _, .refl _, rfl⟩ (writes_holding ht) none
    hlist
  cases hread : read (holding t) with
  | error e => exact ⟨e, rfl⟩
  | ok k =>
    rw [hread] at hoption
    cases hoption

/-- An experiment that is read by itself is accepted in a payload if and only if it is written for a
value, so that all its numerals and texts have values, and is not too deep. Otherwise the whole payload
is refused: the experiment is not just left out. -/
theorem read_holding {t : String} {m : ExperimentModel} (h : ExperimentModel.read t = .ok m) :
    (read (holding t) = .ok ⟨[.ok m]⟩ ↔
      ∃ v : Json, Writes v.form.yield t.toList ∧ v.depth + 2 < nestingLimit) ∧
    (read (holding t) = .ok ⟨[.ok m]⟩ ∨ ∃ e, read (holding t) = .error e) := by
  obtain ⟨f, hf, -⟩ := ExperimentModel.read_eq_ok.mp h
  obtain ⟨v, hyield, hv⟩ | hnone := readValue_yield (by decide : 2 < nestingLimit) f
  · rw [hyield] at hf
    have hread := read_holding_of_value (by omega) hf h
    exact ⟨iff_of_true hread ⟨v, hf, by omega⟩, .inl hread⟩
  · obtain ⟨e, he⟩ := read_holding_of_not_value hnone hf
    refine ⟨⟨fun hread => ?_, fun ⟨v, hw, hv⟩ => read_holding_of_value hv hw h⟩, .inr ⟨e, he⟩⟩
    rw [he] at hread
    cases hread

/-- The text of an experiment with one unknown member. -/
def noted (note : String) : String :=
  "\x7b\"_id\":\"1\",\"name\":\"e\",\"deploymentConfiguration\":\x7b\"condition\":\"true\"\x7d," ++
    "\"featureFlags\":[\x7b\"name\":\"f\"\x7d],\"note\":" ++ note ++ "\x7d"

/-- A list in an unknown member, with a value, is harmless. -/
theorem read_holding_noted :
    read (holding (noted "[null, 7]")) = .ok ⟨[.ok ⟨"1", "e", "true", false, ["f"], []⟩]⟩ := by
  have hread : ExperimentModel.read (noted "[null, 7]") = .ok ⟨"1", "e", "true", false, ["f"], []⟩ := by
    decide +kernel
  let v : Json := .object [("_id", .text "1"), ("name", .text "e"),
    ("deploymentConfiguration", .object [("condition", .text "true")]),
    ("featureFlags", .array [.object [("name", .text "f")]]),
    ("note", .array [.null, .number (.natural 7)])]
  have hwrites : Writes v.form.yield (noted "[null, 7]").toList :=
    writes_iff_lexemes.mpr ⟨by decide +kernel, Form.isBroken_of_mem_yield _⟩
  exact (read_holding hread).1.mpr ⟨v, hwrites, by decide⟩

/-- A numeral out of range in an unknown member: the experiment is read by itself, but its payload is
unreadable. -/
theorem read_holding_overflow :
    ExperimentModel.read (noted "1e999") = .ok ⟨"1", "e", "true", false, ["f"], []⟩ ∧
      (read (holding (noted "1e999"))).map models = .error .malformed := by
  decide +kernel

end Configuration

end FeatureFlags
