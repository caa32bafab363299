import Mathlib.Data.Vector.Defs
import FeatureFlags.Proofs.Grammar
import FeatureFlags.Proofs.Meaning
import FeatureFlags.Proofs.Operators

/-!
# What the value of an expression depends on

An expression runs only operators whose names occur in its text as names (`namesIn`). Words that are
literals, and names inside quoted texts, run nothing, as a tree has no names but those of its tokens
(`Yields.mem_names`).

So `Evaluator.evaluate` depends only on what calls of these names do in its context
(`Evaluator.evaluate_congr`), and registering other operators does not change it
(`register_evaluate`). If all names are built-in operators other than `now`, it yields a value that
the text alone determines (`evaluate_timeless`). The main result is `evaluate_depends_on_names`.
-/

namespace FeatureFlags

def Token.name? : Token → Option String
  | name s => some s
  | _ => none

/-- The names in a text, in order; none if the text has no tokens. -/
def namesIn (expression : String) : List String :=
  match tokenize expression with
  | .ok ts => ts.filterMap fun t => t.token.name?
  | .error _ => []

namespace Expr

mutual
def names : Expr → List String
  | literal _ => []
  | call name arguments => name :: namesAll arguments

def namesAll : List Expr → List String
  | [] => []
  | e :: rest => names e ++ namesAll rest
end

/-! ## Names of trees and texts -/

mutual
theorem Yields.mem_names : ∀ {e : Expr} {ts : List Token} {n : String}, Yields e ts → n ∈ e.names →
    .name n ∈ ts
  | _, _, _, .literal _, hn => nomatch hn
  | _, _, _, .name _, hn => by
    rw [List.mem_singleton.mp hn]
    exact List.mem_cons_self
  | _, _, _, .empty _, hn => by
    rw [List.mem_singleton.mp hn]
    exact List.mem_cons_self
  | _, _, _, .call h, hn => by
    rcases List.mem_cons.mp hn with rfl | hn
    · exact List.mem_cons_self
    · have hmem := h.mem_names hn
      simp [hmem]

theorem YieldsAll.mem_names : ∀ {es : List Expr} {ts : List Token} {n : String}, YieldsAll es ts →
    n ∈ namesAll es → .name n ∈ ts
  | _, _, _, .one h, hn => by
    rw [namesAll, namesAll, List.append_nil] at hn
    exact h.mem_names hn
  | _, _, _, .cons h hr, hn => by
    rcases List.mem_append.mp hn with hn | hn
    · exact List.mem_append_left _ (h.mem_names hn)
    · exact List.mem_append_right _ (List.mem_cons_of_mem _ (hr.mem_names hn))
end

/-- The names called in the tree of a text occur in the text. -/
theorem mem_namesIn_of_parse {expression n : String} {tree : Expr} (h : parse expression = .ok tree)
    (hn : n ∈ tree.names) : n ∈ namesIn expression := by
  rw [parse] at h
  rw [namesIn]
  cases ht : tokenize expression with
  | error e =>
    rw [ht] at h
    cases h
  | ok ts =>
    rw [ht] at h
    obtain ⟨hyields, -⟩ := Reading.yields_of_ofTokens h
    obtain ⟨t, hmem, htoken⟩ := List.mem_map.mp (hyields.mem_names hn)
    exact List.mem_filterMap.mpr ⟨t, hmem, by rw [htoken]; rfl⟩

/-! ## Trees with equal calls -/

section Evaluate

variable {m : Type → Type} [Monad m]

mutual
/-- Two ways to apply operators that agree on the names of a tree give it the same value. -/
theorem evaluate_congr {f g : String → List Value → m Value} : ∀ (e : Expr),
    (∀ n ∈ e.names, f n = g n) → e.evaluate f = e.evaluate g
  | .literal _, _ => rfl
  | .call n arguments, h => by
    obtain ⟨hn, harguments⟩ := List.forall_mem_cons.mp h
    rw [evaluate, evaluate, evaluateAll_congr arguments harguments, hn]

theorem evaluateAll_congr {f g : String → List Value → m Value} : ∀ (es : List Expr),
    (∀ n ∈ namesAll es, f n = g n) → evaluateAll f es = evaluateAll g es
  | [], _ => rfl
  | e :: rest, h => by
    obtain ⟨he, hrest⟩ := List.forall_mem_append.mp h
    rw [evaluateAll, evaluateAll, evaluateAll_congr rest hrest, evaluate_congr e he]
end

variable [LawfulMonad m]

mutual
theorem evaluate_pure {f : String → List Value → Value} : ∀ (e : Expr),
    e.evaluate (fun n vs => (pure (f n vs) : m Value)) = pure (Id.run (e.evaluate fun n vs => pure (f n vs)))
  | .literal _ => rfl
  | .call n arguments => by
    rw [evaluate, evaluate, evaluateAll_pure arguments, pure_bind]
    rfl

theorem evaluateAll_pure {f : String → List Value → Value} : ∀ (es : List Expr),
    evaluateAll (fun n vs => (pure (f n vs) : m Value)) es =
      pure (Id.run (evaluateAll (fun n vs => pure (f n vs)) es))
  | [] => rfl
  | e :: rest => by
    rw [evaluateAll, evaluateAll, evaluateAll_pure rest, pure_bind, evaluate_pure e, pure_bind]
    rfl
end

end Evaluate

end Expr

/-! ## Evaluations -/

/-- A call in a context, if there is an operator of the name. -/
def OperatorTable.call? {m : Type → Type} [Monad m] (t : OperatorTable m) (c : Context) (name : String)
    (args : List Value) : Option (m Value) := (t.find? name).map fun o => o.call args c

theorem OperatorTable.find?_insert {m : Type → Type} {t : OperatorTable m} {name n : String} {o : Operator m} :
    (t.insert name o).find? n = if n = name then some o else t.find? n := Dict.find?_insert

/-- The diagnostic for a malformed text, reported before any operator runs. -/
def Surroundings.complain {m : Type → Type} [Monad m] (s : Surroundings m) (expression : String) : m Unit :=
  match Expr.parse expression with
  | .error e => s.report (.malformedExpression expression e)
  | .ok _ => pure ()

namespace Surroundings

variable {m : Type → Type} [Monad m] [LawfulMonad m] {expression : String} {c d : Context}

/-- An evaluation depends only on calls of the names in the text. -/
theorem evaluate_congr {s t : Surroundings m} (hr : s.report = t.report)
    (h : ∀ n ∈ namesIn expression, s.apply expression c n = t.apply expression d n) :
    s.evaluate expression c = t.evaluate expression d := by
  rw [evaluate_eq, evaluate_eq, hr]
  cases hp : Expr.parse expression with
  | error e => rfl
  | ok tree => exact tree.evaluate_congr fun n hn => h n (Expr.mem_namesIn_of_parse hp hn)

theorem evaluate_eq_pure {s : Surroundings m} {f : String → List Value → Value}
    (h : ∀ n ∈ namesIn expression, s.apply expression c n = fun args => pure (f n args)) :
    s.evaluate expression c = s.complain expression >>= fun _ => pure
      (match Expr.parse expression with
        | .error _ => .undefined
        | .ok tree => Id.run (tree.evaluate fun n vs => pure (f n vs))) := by
  rw [evaluate_eq, complain]
  cases hp : Expr.parse expression with
  | error e => rfl
  | ok tree =>
    rw [pure_bind, ← tree.evaluate_pure]
    exact tree.evaluate_congr fun n hn => h n (Expr.mem_namesIn_of_parse hp hn)

end Surroundings

/-- The names of the built-in operators whose values do not depend on the time. -/
def timelessNames : List String := ((builtinOperations (.ofNat 0)).map Prod.fst).erase "now"

/-- The value of a text all of whose names are such operators. -/
def timelessValue (expression : String) : Value :=
  match Expr.parse expression with
  | .error _ => .undefined
  | .ok tree => Id.run (tree.evaluate fun name args => pure (builtinValue (.ofNat 0) name args .empty))

theorem lookup_builtinOperations {name : String} (h : name ∈ timelessNames) (now now' : Number) :
    (builtinOperations now).lookup name = (builtinOperations now').lookup name := by
  have hne : name ≠ "now" := by
    rintro rfl
    revert h
    decide
  simp only [builtinOperations, Dict.lookup_cons_ite, hne, if_false]

namespace Evaluator

variable {m : Type → Type} [Monad m] [LawfulMonad m] {e e' : Evaluator m} {report : Diagnostic → m Unit}
  {expression name : String} {c d : Context}

theorem apply_congr (h : ∀ args, e.operators.call? c name args = e'.operators.call? d name args) :
    (e.surroundings report).apply expression c name = (e'.surroundings report).apply expression d name := by
  funext args
  have happly : ∀ (e : Evaluator m) (c : Context), (e.surroundings report).apply expression c name args =
      (e.operators.call? c name args).getD
        (report (.unknownOperator expression name) >>= fun _ => pure .undefined) := by
    intro e c
    have hl : (e.surroundings report).lookup name = pure (e.operators.find? name) := rfl
    rw [Surroundings.apply, hl, pure_bind, OperatorTable.call?]
    cases e.operators.find? name <;> rfl
  rw [happly, happly, h]

theorem apply_builtin {now : Number} {o : Operator m}
    (hf : e.operators.find? name = (OperatorTable.builtin now).find? name)
    (ho : (OperatorTable.builtin now).find? name = some o) :
    (e.surroundings report).apply expression c name = fun args => pure (builtinValue now name args c) := by
  funext args
  have hl : (e.surroundings report).lookup name = pure (some o) := by
    rw [← ho, ← hf]
    rfl
  rw [Surroundings.apply, hl, pure_bind]
  exact call_builtin ho args c

theorem apply_timeless (hn : name ∈ timelessNames)
    (hf : ∃ now, e.operators.find? name = (OperatorTable.builtin now).find? name) :
    (e.surroundings report).apply expression c name =
      fun args => pure (builtinValue (.ofNat 0) name args .empty) := by
  obtain ⟨now, hf⟩ := hf
  obtain ⟨o, ho⟩ : ∃ o, (OperatorTable.builtin now : OperatorTable m).find? name = some o := by
    have hmem : name ∈ (builtinOperations now).map Prod.fst := by
      rw [names_builtinOperations now, ← names_builtinOperations (.ofNat 0)]
      exact List.mem_of_mem_erase hn
    obtain ⟨⟨n, o⟩, ho, rfl⟩ := List.mem_map.mp hmem
    have hlookup := (Dict.lookup_eq_some_iff (nodup_builtinOperations now)).mpr ho
    exact ⟨_, by rw [OperatorTable.find?_builtin, hlookup]; rfl⟩
  rw [apply_builtin hf ho]
  funext args
  rw [builtinValue_eq, builtinValue_eq, lookup_builtinOperations hn now (.ofNat 0)]

/-- An evaluation is the same in two tables and two contexts that agree on calls of the names in the
text. -/
theorem evaluate_congr
    (h : ∀ name ∈ namesIn expression, ∀ args, e.operators.call? c name args = e'.operators.call? d name args) :
    e.evaluate report expression c = e'.evaluate report expression d :=
  Surroundings.evaluate_congr rfl fun name hn => apply_congr (h name hn)

/-- Registering an operator under a name that is not in the text does not change its evaluation. -/
theorem register_evaluate {o : Operator m} (hn : name ∉ namesIn expression) :
    (e.register report name o >>= fun e' => e'.evaluate report expression c) =
      e.register report name o >>= fun _ => e.evaluate report expression c := by
  have hsame : { e with operators := e.operators.insert name o }.evaluate report expression c =
      e.evaluate report expression c := by
    refine evaluate_congr fun n hmem args => ?_
    have hne : n ≠ name := fun h => hn (h ▸ hmem)
    rw [OperatorTable.call?, OperatorTable.call?, OperatorTable.find?_insert, if_neg hne]
  unfold register
  split <;> simp only [bind_assoc, pure_bind, hsame]

/-- A text whose names are built-in operators other than `now` has one value. -/
theorem evaluate_timeless (hn : ∀ name ∈ namesIn expression, name ∈ timelessNames)
    (hf : ∀ name ∈ namesIn expression, ∃ now,
      e.operators.find? name = (OperatorTable.builtin now).find? name) :
    e.evaluate report expression c =
      (e.surroundings report).complain expression >>= fun _ => pure (timelessValue expression) := by
  exact Surroundings.evaluate_eq_pure fun name hmem => apply_timeless (hn name hmem) (hf name hmem)

end Evaluator

/-- The value of a text depends only on calls of the names in it. It is the same in two tables and two
contexts that agree on these calls, and is not changed by registering an operator under another name,
new or in use. If all names are built-in operators other than `now`, the text has one value, for all
other operators, in all contexts, and however often it is evaluated. -/
theorem evaluate_depends_on_names (expression : String) :
    (∀ (m : Type → Type) [Monad m] [LawfulMonad m] (e e' : Evaluator m) (report : Diagnostic → m Unit)
      (c c' : Context),
      (∀ name ∈ namesIn expression, ∀ args,
        e.operators.call? c name args = e'.operators.call? c' name args) →
      e.evaluate report expression c = e'.evaluate report expression c') ∧
    (∀ (m : Type → Type) [Monad m] [LawfulMonad m] (e : Evaluator m) (report : Diagnostic → m Unit)
      (c : Context) (name : String) (o : Operator m), name ∉ namesIn expression →
      (e.register report name o >>= fun e' => e'.evaluate report expression c) =
        e.register report name o >>= fun _ => e.evaluate report expression c) ∧
    ((∀ name ∈ namesIn expression, name ∈ timelessNames) →
      ∃ v, ∀ (m : Type → Type) [Monad m] [LawfulMonad m] (e : Evaluator m) (report : Diagnostic → m Unit),
        (∀ name ∈ namesIn expression, ∃ now,
          e.operators.find? name = (OperatorTable.builtin now).find? name) →
        ∀ cs : List Context, cs.mapM (e.evaluate report expression) =
          cs.forM (fun _ => (e.surroundings report).complain expression) >>= fun _ =>
            pure (cs.map fun _ => v)) := by
  refine ⟨?_, ?_, fun hn => ⟨timelessValue expression, ?_⟩⟩
  · intro m _ _ e e' report c c' h
    exact Evaluator.evaluate_congr h
  · intro m _ _ e report c name o hname
    exact Evaluator.register_evaluate hname
  · intro m _ _ e report hf cs
    induction cs with
    | nil => simp
    | cons c cs ih =>
      rw [List.mapM_cons, Evaluator.evaluate_timeless hn hf, ih]
      simp

/-- A name inside quotes does not count: replacing `now` by a counter makes no difference, nor does the
context. -/
theorem evaluate_depends_on_names_quoted :
    let expression := "ne(\"now\", true)"
    let counter : Operator (StateM Nat) := ⟨.exactly 0, fun _ _ => do
      set ((← get) + 1)
      pure (.boolean true)⟩
    let e : Evaluator (StateM Nat) := ⟨.builtin (.ofNat 0), .empty⟩
    let e' : Evaluator (StateM Nat) := ⟨(OperatorTable.builtin (.ofNat 1)).insert "now" counter, .empty⟩
    let silent : Diagnostic → StateM Nat Unit := fun _ => pure ()
    let c := Context.empty.insert "now" (.boolean true)
    namesIn expression = ["ne"] ∧
      e.evaluate silent expression .empty = e'.evaluate silent expression c ∧
      (e.register silent "now" counter >>= fun e' => e'.evaluate silent expression c) =
        (e.register silent "now" counter >>= fun _ => e.evaluate silent expression c) ∧
      ∃ v, [Context.empty, c].mapM (e'.evaluate silent expression) =
        [Context.empty, c].forM (fun _ => (e'.surroundings silent).complain expression) >>= fun _ =>
          pure [v, v] := by
  have ht : tokenize "ne(\"now\", true)" =
    .ok [⟨.name "ne", 0⟩, ⟨.openParen, 2⟩, ⟨.text "now", 3⟩, ⟨.comma, 8⟩,
      ⟨.boolean true, 10⟩, ⟨.closeParen, 14⟩] := by decide +kernel
  intro expression counter e e' silent c
  have hn : namesIn expression = ["ne"] := by
    rw [namesIn, show tokenize expression = _ from ht]
    rfl
  have hnow : "now" ∉ namesIn expression := by
    rw [hn]
    decide
  have hsame : ∀ name ∈ namesIn expression, ∀ args,
      e.operators.call? .empty name args = e'.operators.call? c name args := by
    rw [hn, List.forall_mem_singleton]
    intro args
    have hfind : e.operators.find? "ne" = e'.operators.find? "ne" := by
      show (OperatorTable.builtin _).find? "ne" = ((OperatorTable.builtin _).insert "now" counter).find? "ne"
      rw [OperatorTable.find?_insert, if_neg (by decide), OperatorTable.find?_builtin, OperatorTable.find?_builtin,
        lookup_builtinOperations (by decide) (.ofNat 0) (.ofNat 1)]
    -- the operation is a function of the arguments
    rw [OperatorTable.call?, OperatorTable.call?, hfind]
    show Option.map _ ((OperatorTable.insert _ "now" counter).find? "ne") = Option.map _ _
    rw [OperatorTable.find?_insert, if_neg (by decide), OperatorTable.find?_builtin, Option.map_map, Option.map_map]
    rfl
  have htimeless : ∀ name ∈ namesIn expression, name ∈ timelessNames := by
    rw [hn]
    decide
  have hbuiltin : ∀ name ∈ namesIn expression, ∃ now,
      e'.operators.find? name = (OperatorTable.builtin now).find? name := by
    rw [hn, List.forall_mem_singleton]
    exact ⟨.ofNat 1, rfl⟩
  obtain ⟨hagree, hregister, hvalue⟩ := evaluate_depends_on_names expression
  obtain ⟨v, hv⟩ := hvalue htimeless
  exact ⟨hn, hagree _ e e' silent .empty c hsame, hregister _ e silent c "now" counter hnow,
    v, hv _ e' silent hbuiltin [.empty, c]⟩

end FeatureFlags
