import FeatureFlags.Expression.Evaluator

/-!
# The meaning of expressions

`Expr.denote` gives the meaning of a tree: a literal is its value, and a call evaluates each
argument once, the last one first, and then runs its operator. Operators are functions of their
arguments, the context and a state, so an expression yields a value, a state, and the list of
operator runs.

`Surroundings.evaluate` runs flattened nodes on a stack instead. `run_flatten` relates the two: the
nodes of a tree, on any stack and before any further nodes, push the value of the tree and leave the
stack below as it was. To compare operator runs as well as values, `Surroundings.recorded` records
each of them.
-/

namespace FeatureFlags

/-- A run of an operator, with its arguments in the order of the call. -/
structure OperatorRun where
  operator : String
  arguments : List Value
  deriving DecidableEq, Repr

/-! ## The direct meaning of a tree -/

namespace Expr

variable {σ : Type} (t : OperatorTable (StateM σ)) (report : Diagnostic → StateM σ Unit)
  (expression : String) (c : Context)

mutual
/-- The value of a tree from a state, the final state, and the operator runs. -/
def denote : Expr → σ → Value × σ × List OperatorRun
  | literal v, s => (v, s, [])
  | call name arguments, s =>
    let (values, s₁, runs) := denoteAll arguments s
    match t.find? name with
    | none =>
      let (_, s₂) := (report (.unknownOperator expression name)).run s₁
      (.undefined, s₂, runs)
    | some o =>
      if o.arity.accepts arguments.length then
        let (v, s₂) := (o.run values c).run s₁
        (v, s₂, runs ++ [⟨name, values⟩])
      else (.undefined, s₁, runs)

/-- The values of trees in order; the last tree is evaluated first. -/
def denoteAll : List Expr → σ → List Value × σ × List OperatorRun
  | [], s => ([], s, [])
  | e :: rest, s =>
    let (values, s₁, runs) := denoteAll rest s
    let (v, s₂, more) := denote e s₁
    (v :: values, s₂, runs ++ more)
end

theorem length_denoteAll (es : List Expr) (s : σ) :
    (denoteAll t report expression c es s).1.length = es.length := by
  induction es with
  | nil => rfl
  | cons e rest ih => simp [denoteAll, ih]

end Expr

/-! ## Nodes on a stack -/

namespace Expr

variable {m : Type → Type} [Monad m] [LawfulMonad m]

theorem evaluateAll_bind_congr {β : Type} (apply : String → List Value → m Value) (es : List Expr) :
    ∀ (f g : List Value → m β), (∀ vs, vs.length = es.length → f vs = g vs) →
    evaluateAll apply es >>= f = evaluateAll apply es >>= g := by
  induction es with
  | nil =>
    intro f g h
    simp only [evaluateAll, pure_bind]
    exact h [] rfl
  | cons e rest ih =>
    intro f g h
    simp only [evaluateAll, bind_assoc, pure_bind]
    refine ih _ _ ?_
    intro vs hvs
    congr 1
    funext v
    exact h (v :: vs) (by simp [hvs])

end Expr

namespace Surroundings

variable {m : Type → Type} [Monad m] (s : Surroundings m) (expression : String) (c : Context)

theorem run_operator (name : String) (vs below : List Value) (rest : List Node) :
    s.run expression c (.operator name vs.length :: rest) ⟨vs ++ below⟩ = (do
      let v ← s.apply expression c name vs
      s.run expression c rest ⟨v :: below⟩) := by
  have ht : Stack.take? ⟨vs ++ below⟩ vs.length = some (vs, ⟨below⟩) := by
    simp [Stack.take?, Stack.size]
  simp only [run, ht, Stack.push]

variable [LawfulMonad m]

mutual
/-- The nodes of a tree push its value, for any stack and any further nodes. -/
theorem run_flatten : ∀ (e : Expr) (rest : List Node) (stack : List Value),
    s.run expression c (e.flatten ++ rest) ⟨stack⟩ = (do
      let v ← e.evaluate (s.apply expression c)
      s.run expression c rest ⟨v :: stack⟩)
  | .literal v, rest, stack => by
    simp [Expr.flatten, Expr.evaluate, run, Stack.push]
  | .call name arguments, rest, stack => by
    simp only [Expr.flatten, Expr.evaluate, List.append_assoc, List.singleton_append, bind_assoc]
    rw [run_flattenAll arguments]
    -- the operator node counts arguments, and finds as many values on the stack
    refine Expr.evaluateAll_bind_congr _ _ _ _ ?_
    intro vs hvs
    rw [← hvs, run_operator]

theorem run_flattenAll : ∀ (es : List Expr) (rest : List Node) (stack : List Value),
    s.run expression c (Expr.flattenAll es ++ rest) ⟨stack⟩ = (do
      let vs ← Expr.evaluateAll (s.apply expression c) es
      s.run expression c rest ⟨vs ++ stack⟩)
  | [], rest, stack => by simp [Expr.flattenAll, Expr.evaluateAll]
  | e :: es, rest, stack => by
    simp only [Expr.flattenAll, Expr.evaluateAll, List.append_assoc, bind_assoc, pure_bind]
    -- the last argument comes first, and is below the others
    rw [run_flattenAll es]
    congr 1
    funext vs
    rw [run_flatten e]
    rfl
end

/-- The evaluator computes the value of the tree of a text; the stack always ends with one value. -/
theorem evaluate_eq : s.evaluate expression c = (match Expr.parse expression with
    | .error e => do
      s.report (.malformedExpression expression e)
      pure .undefined
    | .ok tree => tree.evaluate (s.apply expression c)) := by
  unfold evaluate Node.parse
  cases Expr.parse expression with
  | error e => rfl
  | ok tree =>
    have h := s.run_flatten expression c tree [] []
    simp only [List.append_nil] at h
    simp only [Except.map, Stack.empty, h, bind_assoc]
    simp [run, conclude, Stack.result?]

end Surroundings

/-! ## Recording operator runs -/

theorem stateM_run_bind {σ α β : Type} (x : StateM σ α) (f : α → StateM σ β) (s : σ) :
    (x >>= f).run s = (f (x.run s).1).run (x.run s).2 := rfl

/-- A computation on a state and a list of operator runs. -/
abbrev Recorded (σ : Type) := StateM (σ × List OperatorRun)

namespace Recorded

variable {σ α : Type}

/-- A computation on the state alone. -/
def lift (x : StateM σ α) : Recorded σ α := fun p =>
  let (v, s) := x.run p.1
  (v, (s, p.2))

def note (r : OperatorRun) : Recorded σ Unit := fun p => ((), (p.1, p.2 ++ [r]))

end Recorded

/-- The operator of a name, which also records its runs. -/
def Operator.recorded {σ : Type} (o : Operator (StateM σ)) (name : String) : Operator (Recorded σ) :=
  ⟨o.arity, fun args c => do
    Recorded.note ⟨name, args⟩
    Recorded.lift (o.run args c)⟩

/-- The same operators, which also record their runs. -/
def Surroundings.recorded {σ : Type} (s : Surroundings (StateM σ)) : Surroundings (Recorded σ) :=
  { lookup := fun name => return (← Recorded.lift (s.lookup name)).map fun o => o.recorded name
    report := fun d => Recorded.lift (s.report d) }

namespace Evaluator

variable {σ : Type} (e : Evaluator (StateM σ)) (report : Diagnostic → StateM σ Unit)
  (expression : String) (c : Context)

theorem apply_run (name : String) (args : List Value) (s : σ) :
    ((e.surroundings report).apply expression c name args).run s =
      (match e.operators.find? name with
      | none => (.undefined, ((report (.unknownOperator expression name)).run s).2)
      | some o => if o.arity.accepts args.length then (o.run args c).run s else (.undefined, s)) := by
  have hl : (e.surroundings report).lookup name = pure (e.operators.find? name) := rfl
  unfold Surroundings.apply
  rw [hl, pure_bind]
  cases e.operators.find? name with
  | none => rfl
  | some o =>
    by_cases ha : o.arity.accepts args.length
    · simp only [Operator.call, ha, if_true]
    · simp only [Operator.call, ha]
      rfl

theorem recorded_apply_run (name : String) (args : List Value) (s : σ) (runs : List OperatorRun) :
    ((e.surroundings report).recorded.apply expression c name args).run (s, runs) =
      (match e.operators.find? name with
      | none => (.undefined, ((report (.unknownOperator expression name)).run s).2, runs)
      | some o =>
        if o.arity.accepts args.length then
          (((o.run args c).run s).1, ((o.run args c).run s).2, runs ++ [⟨name, args⟩])
        else (.undefined, s, runs)) := by
  have hl : (e.surroundings report).recorded.lookup name =
      pure ((e.operators.find? name).map fun o => o.recorded name) := rfl
  unfold Surroundings.apply
  rw [hl, pure_bind]
  cases e.operators.find? name with
  | none => rfl
  | some o =>
    by_cases ha : o.arity.accepts args.length
    · simp only [Option.map_some, Operator.call, Operator.recorded, ha, if_true]
      rfl
    · simp only [Option.map_some, Operator.call, Operator.recorded, ha]
      rfl

mutual
/-- Evaluating a tree in the monad of the operators yields its denotation. -/
theorem evaluate_run : ∀ (tree : Expr) (s : σ),
    (tree.evaluate ((e.surroundings report).apply expression c)).run s =
      ((tree.denote e.operators report expression c s).1,
        (tree.denote e.operators report expression c s).2.1)
  | .literal v, s => rfl
  | .call name arguments, s => by
    have hn := Expr.length_denoteAll e.operators report expression c arguments s
    simp only [Expr.evaluate, stateM_run_bind, evaluateAll_run arguments s, apply_run, hn, Expr.denote]
    cases e.operators.find? name with
    | none => rfl
    | some o => by_cases ha : o.arity.accepts arguments.length <;> simp only [ha] <;> rfl

theorem evaluateAll_run : ∀ (es : List Expr) (s : σ),
    (Expr.evaluateAll ((e.surroundings report).apply expression c) es).run s =
      ((Expr.denoteAll e.operators report expression c es s).1,
        (Expr.denoteAll e.operators report expression c es s).2.1)
  | [], s => rfl
  | x :: rest, s => by
    simp only [Expr.evaluateAll, stateM_run_bind, evaluateAll_run rest s, evaluate_run x, Expr.denoteAll]
    rfl
end

mutual
/-- Evaluating a tree with recording operators appends the runs of its denotation, in order. -/
theorem recorded_evaluate_run : ∀ (tree : Expr) (s : σ) (runs : List OperatorRun),
    (tree.evaluate ((e.surroundings report).recorded.apply expression c)).run (s, runs) =
      ((tree.denote e.operators report expression c s).1,
        (tree.denote e.operators report expression c s).2.1,
        runs ++ (tree.denote e.operators report expression c s).2.2)
  | .literal v, s, runs => by
    simp only [Expr.denote, List.append_nil]
    rfl
  | .call name arguments, s, runs => by
    have hn := Expr.length_denoteAll e.operators report expression c arguments s
    simp only [Expr.evaluate, stateM_run_bind, recorded_evaluateAll_run arguments s, recorded_apply_run,
      hn, Expr.denote]
    cases e.operators.find? name with
    | none => rfl
    | some o =>
      by_cases ha : o.arity.accepts arguments.length
      · simp only [ha, if_true, List.append_assoc]
        rfl
      · simp only [ha]
        rfl

theorem recorded_evaluateAll_run : ∀ (es : List Expr) (s : σ) (runs : List OperatorRun),
    (Expr.evaluateAll ((e.surroundings report).recorded.apply expression c) es).run (s, runs) =
      ((Expr.denoteAll e.operators report expression c es s).1,
        (Expr.denoteAll e.operators report expression c es s).2.1,
        runs ++ (Expr.denoteAll e.operators report expression c es s).2.2)
  | [], s, runs => by
    simp only [Expr.denoteAll, List.append_nil]
    rfl
  | x :: rest, s, runs => by
    simp only [Expr.evaluateAll, stateM_run_bind, recorded_evaluateAll_run rest s,
      recorded_evaluate_run x, Expr.denoteAll, ← List.append_assoc]
    rfl
end

/-- The evaluator yields the value that the tree of a text denotes and runs the operators that it
denotes, in the same order; for a text that is refused it yields undefined and runs no operator. -/
theorem evaluate_eq_denote (s : σ) :
    (match Expr.parse expression with
    | .error err =>
      let s' := ((report (.malformedExpression expression err)).run s).2
      Node.parse expression = .error err ∧
        (e.evaluate report expression c).run s = (.undefined, s') ∧
        ((e.surroundings report).recorded.evaluate expression c).run (s, []) = (.undefined, s', [])
    | .ok tree =>
      let (v, s', runs) := tree.denote e.operators report expression c s
      Node.parse expression = .ok tree.flatten ∧
        (e.evaluate report expression c).run s = (v, s') ∧
        ((e.surroundings report).recorded.evaluate expression c).run (s, []) = (v, s', runs)) := by
  have hp : Node.parse expression = (Expr.parse expression).map Expr.flatten := rfl
  have hv := (e.surroundings report).evaluate_eq expression c
  have hr := (e.surroundings report).recorded.evaluate_eq expression c
  simp only [evaluate, hv, hr, hp]
  cases Expr.parse expression with
  | error err => exact ⟨rfl, rfl, rfl⟩
  | ok tree =>
    refine ⟨rfl, ?_, ?_⟩
    · exact e.evaluate_run report expression c tree s
    · exact e.recorded_evaluate_run report expression c tree s []

end Evaluator

end FeatureFlags
