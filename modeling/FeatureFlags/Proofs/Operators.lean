import FeatureFlags.Operator.Extension

/-!
# Calls of built-in operators

For each operation, the kind of value that it yields for any arguments: a comparison yields a
boolean (`Operation.numeric_decides` and the like), a logical operation a boolean or undefined, an
operation on texts a text or undefined.

`builtinValue` is a call of a built-in operator as a function of its arguments, without the monad of
other operators. It is what the operator yields in any table of built-in operators (`call_builtin`),
and it is the operation that is listed under the name (`builtinValue_eq`).
-/

namespace FeatureFlags

/-! ## Results of operations -/

namespace Operation

theorem undefinedness_decides (v : Value) : ∃ b, undefinedness v = .boolean b := ⟨_, rfl⟩

theorem equality_decides (v w : Value) : ∃ b, equality v w = .boolean b := ⟨_, rfl⟩

theorem inequality_decides (v w : Value) : ∃ b, inequality v w = .boolean b := ⟨_, rfl⟩

theorem numeric_decides (holds : Number → Number → Bool) (v w : Value) :
    ∃ b, numeric holds v w = .boolean b := by
  unfold numeric
  split <;> exact ⟨_, rfl⟩

theorem versions_decides (holds : Ordering → Bool) (v w : Value) :
    ∃ b, versions holds v w = .boolean b := by
  unfold versions
  split <;> exact ⟨_, rfl⟩

theorem belowPercentage_decides (digest : String → List UInt8) (p s : Value) :
    ∃ b, belowPercentage digest p s = .boolean b := by
  unfold belowPercentage
  split <;> exact ⟨_, rfl⟩

theorem withinPercentages_decides (digest : String → List UInt8) (l h s : Value) :
    ∃ b, withinPercentages digest l h s = .boolean b := by
  unfold withinPercentages
  split <;> exact ⟨_, rfl⟩

theorem combine_logical (op : Bool → Bool → Bool) (result : Bool) (vs : List Value) :
    (∃ b, combine op result vs = .boolean b) ∨ combine op result vs = .undefined := by
  induction vs generalizing result with
  | nil => exact .inl ⟨result, rfl⟩
  | cons v rest ih =>
    unfold combine
    split
    · exact ih _
    · exact .inr rfl

theorem negation_logical (v : Value) : (∃ b, negation v = .boolean b) ∨ negation v = .undefined := by
  unfold negation
  cases truth? v with
  | some b => exact .inl ⟨!b, rfl⟩
  | none => exact .inr rfl

theorem choice_branch (v w u : Value) : choice v w u = w ∨ choice v w u = u ∨ choice v w u = .undefined := by
  unfold choice
  split
  · exact .inl rfl
  · exact .inr (.inl rfl)
  · exact .inr (.inr rfl)

theorem digest_textual (v : Value) : (∃ s, digest v = .text s) ∨ digest v = .undefined := by
  unfold digest
  split
  · exact .inl ⟨_, rfl⟩
  · exact .inr rfl

theorem concatenation_textual (v w : Value) :
    (∃ s, concatenation v w = .text s) ∨ concatenation v w = .undefined := by
  unfold concatenation
  split
  · exact .inl ⟨_, rfl⟩
  · exact .inr rfl

theorem decoding_textual (v : Value) : (∃ s, decoding v = .text s) ∨ decoding v = .undefined := by
  unfold decoding
  split
  · rename_i s
    cases Base64.decodeText? s with
    | some t => exact .inl ⟨t, rfl⟩
    | none => exact .inr rfl
  · exact .inr rfl

end Operation

/-! ## Calls by name -/

/-- The value of a call of a built-in operator; undefined for an unknown name. -/
def builtinValue (now : Number) (name : String) (args : List Value) (c : Context) : Value :=
  match (OperatorTable.builtin now : OperatorTable Id).find? name with
  | some o => o.call args c
  | none => .undefined

theorem lookup_map_snd {α β : Type} {f : α → β} {l : List (String × α)} {name : String} :
    (l.map fun e => (e.1, f e.2)).lookup name = (l.lookup name).map f := by
  induction l with
  | nil => rfl
  | cons e rest ih =>
    obtain ⟨n, v⟩ := e
    rw [List.map_cons, Dict.lookup_cons_ite, Dict.lookup_cons_ite, ih]
    split <;> rfl

theorem names_builtinOperations (now : Number) : (builtinOperations now).map Prod.fst =
    ["isUndefined", "now", "and", "or", "not", "ifThen", "eq", "ne", "lt", "lte", "gt", "gte", "numeq",
      "numne", "semverEq", "semverNe", "semverLt", "semverLte", "semverGt", "semverGte", "md5", "concat",
      "b64d", "isInPercentage", "isInPercentageRange"] := rfl

theorem nodup_builtinOperations (now : Number) : ((builtinOperations now).map Prod.fst).Nodup := by
  rw [names_builtinOperations]
  decide

namespace OperatorTable

variable {m : Type → Type} [Monad m] {now : Number} {name : String}

theorem find?_builtin : (builtin now : OperatorTable m).find? name =
    ((builtinOperations now).lookup name).map fun o => .ofFunction o.1 o.2 := by
  have hfst : (builtinOperators now : List (String × Operator m)).map Prod.fst =
      (builtinOperations now).map Prod.fst := by
    rw [builtinOperators, List.map_map]
    rfl
  have hnodup : ((builtinOperators now : List (String × Operator m)).map Prod.fst).Nodup :=
    hfst ▸ nodup_builtinOperations now
  calc (builtin now : OperatorTable m).find? name
      = ((builtinOperators now).lookup name).or none := Dict.find?_insertAll hnodup
    _ = (builtinOperators now).lookup name := Option.or_none
    _ = _ := lookup_map_snd (f := fun o : Arity × (List Value → Value) => Operator.ofFunction o.1 o.2)

/-- The standard operators are `match`, `property`, and the built-in ones. -/
theorem find?_standard {report : Diagnostic → m Unit} {property? : String → m (Option CustomProperty)} :
    (standard now report property?).find? name =
      if name = "property" then some (.customProperty property?)
      else if name = "match" then some (.matching report)
      else (builtin now : OperatorTable m).find? name := by
  show Dict.find? (Dict.insert (Dict.insert _ _ _) _ _) _ = _
  rw [Dict.find?_insert, Dict.find?_insert]
  rfl

end OperatorTable

/-- A call of a built-in operator depends only on the arity and the operation of its name. -/
theorem builtinValue_eq (now : Number) (name : String) (args : List Value) (c : Context) :
    builtinValue now name args c = match (builtinOperations now).lookup name with
      | some (arity, f) => if arity.accepts args.length then f args else .undefined
      | none => .undefined := by
  rw [builtinValue, OperatorTable.find?_builtin]
  cases (builtinOperations now).lookup name <;> rfl

theorem call_builtin {m : Type → Type} [Monad m] {now : Number} {name : String} {o : Operator m}
    (ho : (OperatorTable.builtin now).find? name = some o) (args : List Value) (c : Context) :
    o.call args c = pure (builtinValue now name args c) := by
  rw [OperatorTable.find?_builtin, Option.map_eq_some_iff] at ho
  obtain ⟨⟨arity, f⟩, hf, rfl⟩ := ho
  rw [builtinValue_eq, hf]
  show (if arity.accepts args.length then pure (f args) else pure .undefined) = pure (ite _ _ _)
  split <;> rfl

end FeatureFlags
