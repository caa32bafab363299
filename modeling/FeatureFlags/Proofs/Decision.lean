import FeatureFlags.Proofs.Meaning
import FeatureFlags.Proofs.Report
import Mathlib.Data.List.Basic

/-!
# Kinds of values of standard operators

`deciding`, `logical` and `textual` list the operators that always yield a boolean, those that yield
a boolean or undefined, and those that yield a text or undefined.

An expression whose outermost call is one of these runs that operator last, on whatever values its
arguments have. So its value has the operator's kind even for unsuitable arguments
(`Evaluator.standard_call`), and a variant whose condition is a call of a deciding operator never
has its default (`Application.value_of_deciding`).
-/

namespace FeatureFlags

/-- The operators that always yield a boolean. -/
def deciding : List String :=
  ["isUndefined", "eq", "ne", "lt", "lte", "gt", "gte", "numeq", "numne", "semverEq", "semverNe", "semverLt",
    "semverLte", "semverGt", "semverGte", "isInPercentage", "isInPercentageRange", "match"]

/-- The operators that combine truth values. -/
def logical : List String := ["and", "or", "not"]

/-- The operators from texts to texts. -/
def textual : List String := ["md5", "concat", "b64d"]

/-! ## Operators by name -/

section Operations

open Operation

variable (now : Number) {name : String}

theorem builtin_decides (hn : name ∈ deciding) (hm : name ≠ "match") :
    ∃ arity f, (builtinOperations now).lookup name = some (arity, f) ∧ ∀ vs, ∃ b, f vs = .boolean b := by
  simp only [deciding, List.mem_cons, List.not_mem_nil, or_false] at hn
  rcases hn with rfl | rfl | rfl | rfl | rfl | rfl | rfl | rfl | rfl | rfl | rfl | rfl | rfl | rfl |
    rfl | rfl | rfl | rfl
  · exact ⟨_, _, rfl, fun _ => undefinedness_decides _⟩
  · exact ⟨_, _, rfl, fun _ => equality_decides _ _⟩
  · exact ⟨_, _, rfl, fun _ => inequality_decides _ _⟩
  iterate 6 exact ⟨_, _, rfl, fun _ => numeric_decides _ _ _⟩
  iterate 6 exact ⟨_, _, rfl, fun _ => versions_decides _ _ _⟩
  · exact ⟨_, _, rfl, fun _ => belowPercentage_decides _ _ _⟩
  · exact ⟨_, _, rfl, fun _ => withinPercentages_decides _ _ _ _⟩
  · exact absurd rfl hm

theorem builtin_logical (hn : name ∈ logical) :
    ∃ arity f, (builtinOperations now).lookup name = some (arity, f) ∧
      ∀ vs, (∃ b, f vs = .boolean b) ∨ f vs = .undefined := by
  simp only [logical, List.mem_cons, List.not_mem_nil, or_false] at hn
  rcases hn with rfl | rfl | rfl
  · exact ⟨_, _, rfl, fun vs => combine_logical _ _ vs⟩
  · exact ⟨_, _, rfl, fun vs => combine_logical _ _ vs⟩
  · exact ⟨_, _, rfl, fun _ => negation_logical _⟩

theorem builtin_textual (hn : name ∈ textual) :
    ∃ arity f, (builtinOperations now).lookup name = some (arity, f) ∧
      ∀ vs, (∃ s, f vs = .text s) ∨ f vs = .undefined := by
  simp only [textual, List.mem_cons, List.not_mem_nil, or_false] at hn
  rcases hn with rfl | rfl | rfl
  · exact ⟨_, _, rfl, fun _ => digest_textual _⟩
  · exact ⟨_, _, rfl, fun _ => concatenation_textual _ _⟩
  · exact ⟨_, _, rfl, fun _ => decoding_textual _⟩

end Operations

def standardNames : List String := deciding ++ logical ++ textual ++ ["ifThen", "now", "property"]

def standardArity? (name : String) : Option Arity :=
  ((OperatorTable.standard (.ofNat 0) (fun _ => ()) (fun _ => none) : OperatorTable Id).find? name).map
    Operator.arity

namespace OperatorTable

variable {m : Type → Type} [Monad m] {now : Number} {report : Diagnostic → m Unit}
  {property? : String → m (Option CustomProperty)} {name : String} {o : Operator m}

theorem arity_standard_congr {m' : Type → Type} [Monad m'] (now' : Number)
    (report' : Diagnostic → m' Unit) (property?' : String → m' (Option CustomProperty)) :
    ((standard now report property?).find? name).map Operator.arity =
      ((standard now' report' property?').find? name).map Operator.arity := by
  have harities : ((builtinOperations now).lookup name).map Prod.fst =
      ((builtinOperations now').lookup name).map Prod.fst :=
    calc ((builtinOperations now).lookup name).map Prod.fst
        = ((builtinOperations now).map fun e => (e.1, e.2.1)).lookup name := lookup_map_snd.symm
      _ = ((builtinOperations now').map fun e => (e.1, e.2.1)).lookup name := rfl
      _ = ((builtinOperations now').lookup name).map Prod.fst := lookup_map_snd
  rw [find?_standard, find?_standard]
  split
  · rfl
  split
  · rfl
  · rw [find?_builtin, find?_builtin, Option.map_map, Option.map_map]
    exact harities

theorem arity_standard : ((standard now report property?).find? name).map Operator.arity =
    standardArity? name :=
  arity_standard_congr _ _ _

theorem exists_standard {arity : Arity} (ha : standardArity? name = some arity) :
    ∃ o, (standard now report property?).find? name = some o ∧ o.arity = arity := by
  rw [← @arity_standard m _ now report property?, Option.map_eq_some_iff] at ha
  exact ha

theorem isSome_find?_standard :
    ((standard now report property?).find? name).isSome = true ↔ name ∈ standardNames := by
  have hnames : name ∈ "property" :: "match" :: (builtinOperations now).map Prod.fst ↔
      name ∈ standardNames := by
    rw [names_builtinOperations]
    constructor
    · exact (by decide : ∀ n ∈ _, n ∈ standardNames) name
    · exact (by decide : ∀ n ∈ standardNames, n ∈ _) name
  have hbuiltin : ((builtinOperations now).lookup name).isSome = true ↔
      name ∈ (builtinOperations now).map Prod.fst := by
    have hlookup : ∀ e, (builtinOperations now).lookup name = some e ↔
        (name, e) ∈ builtinOperations now :=
      fun _ => Dict.lookup_eq_some_iff (nodup_builtinOperations now)
    simp [Option.isSome_iff_exists, hlookup]
  rw [← hnames, List.mem_cons, List.mem_cons, ← hbuiltin, find?_standard]
  split
  · simp [*]
  split
  · simp [*]
  · simp [*, find?_builtin]

theorem run_standard {arity : Arity} {f : List Value → Value}
    (hf : (builtinOperations now).lookup name = some (arity, f))
    (ho : (standard now report property?).find? name = some o) (vs : List Value) (c : Context) :
    o.run vs c = pure (f vs) := by
  have hproperty : name ≠ "property" := by
    rintro rfl
    cases hf
  have hmatch : name ≠ "match" := by
    rintro rfl
    cases hf
  rw [find?_standard, if_neg hproperty, if_neg hmatch, find?_builtin, hf] at ho
  cases ho
  rfl

variable [LawfulMonad m]

theorem run_matching (vs : List Value) (c : Context) :
    ∃ x : m Bool, (Operator.matching report).run vs c = Value.boolean <$> x := by
  unfold Operator.matching
  dsimp only
  split
  · rename_i flags pattern text
    split
    · rename_i b _
      exact ⟨pure b, (map_pure _ _).symm⟩
    · exact ⟨do report (.invalidPattern (Regex.withFlags flags pattern)); pure false, by simp⟩
  · exact ⟨pure false, (map_pure _ _).symm⟩

/-- In any monad, a deciding operator yields only booleans. -/
theorem run_deciding (hn : name ∈ deciding) (ho : (standard now report property?).find? name = some o)
    (vs : List Value) (c : Context) : ∃ x : m Bool, o.run vs c = Value.boolean <$> x := by
  by_cases hm : name = "match"
  · subst hm
    rw [find?_standard] at ho
    cases ho
    exact run_matching vs c
  · obtain ⟨arity, f, hf, hdecides⟩ := builtin_decides now hn hm
    obtain ⟨b, hb⟩ := hdecides vs
    exact ⟨pure b, by rw [run_standard hf ho, hb, map_pure]⟩

end OperatorTable

/-! ## Kinds of values -/

/-- Whether a value is of the kind that an operator yields; `vs` are the values of its arguments. -/
structure Suits (name : String) (vs : List Value) (v : Value) : Prop where
  decided : name ∈ deciding → ∃ b, v = .boolean b
  logical : name ∈ logical → (∃ b, v = .boolean b) ∨ v = .undefined
  textual : name ∈ textual → (∃ s, v = .text s) ∨ v = .undefined
  choice : name = "ifThen" →
    ∃ condition w u, vs = [condition, w, u] ∧ (v = w ∨ v = u ∨ v = .undefined)

/-- With an accepted number of arguments a standard operator yields a value of its kind. -/
theorem OperatorTable.suits_run {σ : Type} {now : Number} {report : Diagnostic → StateM σ Unit}
    {property? : String → StateM σ (Option CustomProperty)} {name : String} {o : Operator (StateM σ)}
    (ho : (standard now report property?).find? name = some o) {vs : List Value}
    (hcount : o.arity.accepts vs.length = true) (c : Context) (s : σ) :
    Suits name vs ((o.run vs c).run s).1 := by
  constructor
  case decided =>
    intro hn
    obtain ⟨x, hx⟩ := run_deciding hn ho vs c
    rw [hx]
    exact ⟨(x.run s).1, rfl⟩
  case logical =>
    intro hn
    obtain ⟨arity, f, hf, hlogical⟩ := builtin_logical now hn
    rw [run_standard hf ho]
    exact hlogical vs
  case textual =>
    intro hn
    obtain ⟨arity, f, hf, htextual⟩ := builtin_textual now hn
    rw [run_standard hf ho]
    exact htextual vs
  case choice =>
    rintro rfl
    have hf : (builtinOperations now).lookup "ifThen" = some (ternary Operation.choice) := rfl
    have ha : o.arity = .exactly 3 := by
      rw [find?_standard, if_neg (by decide), if_neg (by decide), find?_builtin, hf] at ho
      cases ho
      rfl
    rw [ha] at hcount
    obtain ⟨v, w, u, rfl⟩ := List.length_eq_three.mp (beq_iff_eq.mp hcount)
    rw [run_standard hf ho]
    exact ⟨v, w, u, rfl, Operation.choice_branch v w u⟩

/-! ## Expressions -/

namespace Evaluator

variable {σ : Type} {e : Evaluator (StateM σ)} {report : Diagnostic → StateM σ Unit} {expression : String}
  {c : Context} {name : String} {args : List Expr}

/-- A call of a registered operator evaluates its arguments and then runs the operator, if it accepts
their number. -/
theorem evaluate_call {o : Operator (StateM σ)} (hp : Expr.parse expression = .ok (.call name args))
    (ho : e.operators.find? name = some o) (s : σ) :
    ((e.evaluate report expression c).run s).1 =
      if o.arity.accepts args.length then
        ((o.run (Expr.denoteAll e.operators report expression c args s).1 c).run
          (Expr.denoteAll e.operators report expression c args s).2.1).1
      else .undefined := by
  have he : e.evaluate report expression c =
      (Expr.call name args).evaluate ((e.surroundings report).apply expression c) := by
    rw [evaluate, Surroundings.evaluate_eq, hp]
  rw [he, e.evaluate_run report expression c, Expr.denote]
  simp only [ho]
  split <;> rfl

/-- A call of a standard operator is undefined if the number of arguments is not accepted. Otherwise it
has the kind of the operator, whatever the arguments are. -/
theorem standard_call {now : Number} {report' : Diagnostic → StateM σ Unit}
    {property? : String → StateM σ (Option CustomProperty)} {arity : Arity}
    (hp : Expr.parse expression = .ok (.call name args)) (ha : standardArity? name = some arity)
    (ho : e.operators.find? name = (OperatorTable.standard now report' property?).find? name) (s : σ) :
    if arity.accepts args.length then
      Suits name (Expr.denoteAll e.operators report expression c args s).1
        ((e.evaluate report expression c).run s).1
    else ((e.evaluate report expression c).run s).1 = .undefined := by
  obtain ⟨o, ho', rfl⟩ :=
    @OperatorTable.exists_standard (StateM σ) _ now report' property? name arity ha
  rw [evaluate_call hp (ho.trans ho')]
  split
  · rename_i hcount
    rw [← Expr.length_denoteAll e.operators report expression c args s] at hcount
    exact OperatorTable.suits_run ho' hcount c _
  · rfl

end Evaluator

/-! ## Conditions of variants -/

namespace Application

/-- Whether a call in a condition reaches the standard operator of its name: after its arguments have
been evaluated, no custom operator of this name is registered. -/
def ReachesStandard (run : Runner) (c : ClientId) (condition : String) (x : Context) (name : String)
    (args : List Expr) (a : Application) : Prop :=
  ∀ vs b, (Expr.evaluateAll ((Run.surroundings run c).apply condition x) args).run a = (.ok vs, b) →
    (b.client c).operators.find? name = none

variable {run : Runner} {a b d : Application} {c : ClientId} {condition name : String} {x : Context}
  {args : List Expr} {arity : Arity}

theorem length_of_evaluateAll {apply : String → List Value → Run Value} {vs : List Value}
    (hr : (Expr.evaluateAll apply args).run a = (.ok vs, b)) : vs.length = args.length := by
  have hcongr := Expr.evaluateAll_bind_congr apply args
    (fun vs => (pure (vs.length == args.length) : Run Bool)) (fun _ => pure true)
    (by intro vs hvs; rw [hvs, beq_self_eq_true])
  have hrun := congrArg (fun y : Run Bool => (y.run a).1) hcongr
  simp only [Run.run_bind_ok hr] at hrun
  have hbeq : (vs.length == args.length) = true := Except.ok.inj hrun
  exact beq_iff_eq.mp hbeq

theorem boolean_of_map {y : Run Bool} {v : Value}
    (hr : (Value.boolean <$> y).run a = (.ok v, d)) : ∃ t, v = .boolean t := by
  rw [← bind_pure_comp] at hr
  rcases hy : y.run a with ⟨stop | t, b⟩
  · rw [Run.run_bind_error hy] at hr
    cases hr
  · rw [Run.run_bind_ok hy] at hr
    cases hr
    exact ⟨t, rfl⟩

/-- A condition whose outermost call reaches a deciding operator yields a boolean. -/
theorem evaluate_decides (hp : Expr.parse condition = .ok (.call name args)) (hn : name ∈ deciding)
    (ha : standardArity? name = some arity) (hcount : arity.accepts args.length = true)
    (hstandard : ReachesStandard run c condition x name args a) {v : Value}
    (hr : ((Run.surroundings run c).evaluate condition x).run a = (.ok v, d)) :
    ∃ t, v = .boolean t := by
  rw [Surroundings.evaluate_eq, hp] at hr
  simp only [Expr.evaluate] at hr
  rcases hargs : (Expr.evaluateAll ((Run.surroundings run c).apply condition x) args).run a with
    ⟨stop | vs, b⟩
  · rw [Run.run_bind_error hargs] at hr
    cases hr
  obtain ⟨o, ho, rfl⟩ := @OperatorTable.exists_standard Run _ (b.client c).now Run.report
    (fun name => return (← Run.client c).properties.find? name) name arity ha
  have hlookup : ((Run.surroundings run c).lookup name).run b = (.ok (some o), b) := by
    have hfound : (b.client c).operator? run c name = some o := by
      rw [Client.operator?, hstandard vs b hargs]
      exact ho
    rw [← hfound]
    rfl
  rw [Run.run_bind_ok hargs, Surroundings.apply, Run.run_bind_ok hlookup] at hr
  obtain ⟨y, hy⟩ := OperatorTable.run_deciding hn ho vs x
  have hcall : o.call vs x = Value.boolean <$> y := by
    rw [Operator.call, length_of_evaluateAll hargs, if_pos hcount, hy]
  refine boolean_of_map (y := y) (a := b) (d := d) ?_
  rw [← hcall]
  exact hr

theorem outcome_of_decided {h : Handle} {k : Binding} {z : Option Context} {default : Option String}
    {o : Outcome} (hb : (a.variant h).binding = some k)
    (hr : (Run.evaluate run h z default).run a = (.ok o, d)) :
    ∃ s e, (Run.decide run k.client k.experiment
        ((a.client k.client).globalContext.overlay? z)).run a = (.ok s, e) ∧
      o = (a.variant h).outcome default s := by
  rw [evaluate_run_of_bound hb] at hr
  rcases hs : (Run.decide run k.client k.experiment
    ((a.client k.client).globalContext.overlay? z)).run a with ⟨stop | s, e⟩
  · rw [Run.run_bind_error hs] at hr
    cases hr
  refine ⟨s, e, rfl, ?_⟩
  rw [Run.run_bind_ok hs, Run.run_bind_ok (Run.forM_report_run (f := fun r => r))] at hr
  rcases hd : ((Run.delivery run k.client).deliver _).run _ with ⟨stop | u, f⟩
  · rw [Run.run_bind_error hd] at hr
    cases hr
  rw [Run.run_bind_ok hd] at hr
  cases hr
  rfl

section Variants

variable {h : Handle} {k : ClientId} {m : ExperimentModel} {z : Option Context} {default : Option String}

theorem value_of_deciding (hb : (a.variant h).binding = some ⟨k, some m⟩)
    (hp : Expr.parse m.condition = .ok (.call name args)) (hn : name ∈ deciding)
    (ha : standardArity? name = some arity) (hcount : arity.accepts args.length = true)
    (hstandard : ReachesStandard run k m.condition ((a.client k).globalContext.overlay? z) name args a)
    {o : Outcome} (hr : (Run.evaluate run h z default).run a = (.ok o, d)) :
    o.isDefault = false ∧ ∃ t, o.value = Value.booleanText t := by
  obtain ⟨s, e, hs, rfl⟩ := outcome_of_decided hb hr
  unfold Run.decide at hs
  rcases hv : ((Run.surroundings run k).evaluate m.condition
    ((a.client k).globalContext.overlay? z)).run a with ⟨stop | v, f⟩
  · rw [Run.run_bind_error hv] at hs
    cases hs
  obtain ⟨t, rfl⟩ := evaluate_decides hp hn ha hcount hstandard hv
  rw [Run.run_bind_ok hv] at hs
  cases hs
  exact ⟨rfl, t, rfl⟩

end Variants

end Application

/-- An expression whose outermost call is of a standard operator is undefined if the number of arguments
is not accepted. Otherwise its value has the kind of the operator, whatever the arguments are: a
boolean, a text, one of two operands, or undefined where the operator allows it; a comparison yields a
boolean in any case. So a variant whose condition is a comparison does not have its default, unless user
code stops the evaluation. -/
theorem standard_calls_suit :
    (∀ name, (∃ arity, standardArity? name = some arity) ↔ name ∈ standardNames) ∧
    (∀ (σ : Type) (e : Evaluator (StateM σ)) (report report' : Diagnostic → StateM σ Unit) (now : Number)
      (property? : String → StateM σ (Option CustomProperty)) (expression name : String) (args : List Expr)
      (arity : Arity) (c : Context) (s : σ),
      Expr.parse expression = .ok (.call name args) → standardArity? name = some arity →
      e.operators.find? name = (OperatorTable.standard now report' property?).find? name →
      if arity.accepts args.length then
        Suits name (Expr.denoteAll e.operators report expression c args s).1
          ((e.evaluate report expression c).run s).1
      else ((e.evaluate report expression c).run s).1 = .undefined) ∧
    (∀ (run : Runner) (a : Application) (h : Handle) (k : ClientId) (m : ExperimentModel)
      (x : Option Context) (default : Option String) (name : String) (args : List Expr) (arity : Arity),
      (a.variant h).binding = some ⟨k, some m⟩ → Expr.parse m.condition = .ok (.call name args) →
      name ∈ deciding → standardArity? name = some arity → arity.accepts args.length = true →
      Application.ReachesStandard run k m.condition ((a.client k).globalContext.overlay? x) name args a →
      (∀ o d, (Application.Run.evaluate run h x default).run a = (.ok o, d) →
        o.isDefault = false ∧ ∃ t, o.value = Value.booleanText t) ∧
      (∀ e d, (Application.Run.evaluate run h x default).run a = (.error e, d) →
        ∃ acts p, Application.Conduct (Application.comes run) a acts d ∧
          acts.getLast? = some (.code p (.error e)))) := by
  refine ⟨?_, ?_, ?_⟩
  · intro name
    rw [← Option.isSome_iff_exists, standardArity?, Option.isSome_map]
    exact OperatorTable.isSome_find?_standard
  · intro σ e report report' now property? expression name args arity c s hp ha ho
    exact Evaluator.standard_call hp ha ho s
  · intro run a h k m x default name args arity hb hp hn ha hcount hstandard
    refine ⟨?_, ?_⟩
    · intro o d hr
      exact Application.value_of_deciding hb hp hn ha hcount hstandard hr
    · intro e d hr
      have hx : Application.Conducts True run (Application.Run.evaluate run h x default) fun _ => True :=
        .evaluate trivial
      exact hx.code_of_stopped hr

/-- A comparison of undefined with a text that is not a version, evaluated by itself and as the
condition of a flag. -/
theorem standard_calls_suit_no_versions :
    let condition := "semverNe(undefined, \"one\")"
    let e : Evaluator (StateM Unit) :=
      ⟨.standard ⟨0⟩ (fun _ => pure ()) fun _ => pure none, .empty⟩
    let v : Variant := (Variant.flag true).withName "f"
    let b : Binding := ⟨0, some ⟨"", "", condition, false, ["f"], []⟩⟩
    let a := (Application.ofVariants [{ v with binding := some b }]).addClient ⟨.empty, ⟨0⟩, [], none, false⟩
    (∃ t, ((e.evaluate (fun _ => pure ()) condition .empty).run ()).1 = .boolean t) ∧
      ∀ o d, (Application.Run.evaluate (Application.Run.runProgram 1) 0 none none).run a = (.ok o, d) →
        o.isDefault = false := by
  intro condition e v b a
  let args : List Expr := [.literal .undefined, .literal (.text "one")]
  have ht : tokenize condition = .ok [⟨.name "semverNe", 0⟩, ⟨.openParen, 8⟩, ⟨.undefined, 9⟩, ⟨.comma, 18⟩,
      ⟨.text "one", 20⟩, ⟨.closeParen, 25⟩] := by
    decide +kernel
  have hp : Expr.parse condition = .ok (.call "semverNe" args) := by
    rw [Expr.parse, ht]
    rfl
  have hn : "semverNe" ∈ deciding := by decide
  have ha : standardArity? "semverNe" = some (.exactly 2) := by
    rw [← @OperatorTable.arity_standard Id _ ⟨0⟩ (fun _ => ()) (fun _ => none)]
    rfl
  refine ⟨?_, ?_⟩
  · exact (standard_calls_suit.2.1 Unit e (fun _ => pure ()) (fun _ => pure ()) ⟨0⟩ (fun _ => pure none)
      condition "semverNe" args (.exactly 2) .empty () hp ha rfl).decided hn
  · intro o d hr
    have hstandard : Application.ReachesStandard (Application.Run.runProgram 1) 0 condition
        ((a.client 0).globalContext.overlay? none) "semverNe" args a := by
      intro vs b hargs
      cases hargs
      rfl
    exact ((standard_calls_suit.2.2 (Application.Run.runProgram 1) a 0 0 _ none none "semverNe" args
      (.exactly 2) rfl hp hn ha rfl hstandard).1 o d hr).1

end FeatureFlags
