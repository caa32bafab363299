import Mathlib.Data.Vector.Defs
import FeatureFlags.Proofs.Grammar
import FeatureFlags.Proofs.Meaning

/-!
# Nodes as a code of trees

`Node.height` runs through nodes with a counter: an operand adds one, and an operator subtracts the
number of its arguments and adds one. The counter is the size of the evaluator's stack, whatever the
operators are (`Surroundings.leaves_height`), so nodes that take it from zero to one leave one
value.

These are the nodes of trees, each of one tree only: running them on a stack of trees gives the tree
back (`Node.tree?_eq_some_iff`). The main result is `parse_uniquely_decodable`.
-/

namespace FeatureFlags

namespace Node

/-- The height of the stack after some nodes, given the height before; none if an operator lacks
operands. -/
def height : List Node → Nat → Option Nat
  | [], h => some h
  | .operand _ :: rest, h => height rest (h + 1)
  | .operator _ arity :: rest, h => if arity ≤ h then height rest (h - arity + 1) else none

/-- The stack of trees after some nodes, the top one first. -/
def trees : List Node → List Expr → Option (List Expr)
  | [], es => some es
  | .operand v :: rest, es => trees rest (.literal v :: es)
  | .operator name arity :: rest, es =>
    if arity ≤ es.length then trees rest (.call name (es.take arity) :: es.drop arity) else none

/-- The tree of some nodes, if running them leaves just one. -/
def tree? (nodes : List Node) : Option Expr :=
  match trees nodes [] with
  | some [e] => some e
  | _ => none

/-! ## Counting -/

theorem height_append (before after : List Node) (h : Nat) :
    height (before ++ after) h = (height before h).bind (height after) := by
  induction before generalizing h with
  | nil => rfl
  | cons n rest ih =>
    cases n with
    | operand v => simp only [List.cons_append, height, ih]
    | operator name arity =>
      simp only [List.cons_append, height]
      split
      · rw [ih]
      · rfl

theorem length_trees (nodes : List Node) (es : List Expr) :
    (trees nodes es).map List.length = height nodes es.length := by
  induction nodes generalizing es with
  | nil => rfl
  | cons n rest ih =>
    cases n with
    | operand v => simp only [trees, height, ih, List.length_cons]
    | operator name arity =>
      simp only [trees, height]
      split
      · simp only [ih, List.length_cons, List.length_drop]
      · rfl

/-! ## Decoding -/

mutual
/-- The nodes of a tree leave it on the stack. -/
theorem trees_flatten : ∀ (e : Expr) (rest : List Node) (es : List Expr),
    trees (e.flatten ++ rest) es = trees rest (e :: es)
  | .literal v, rest, es => by simp [Expr.flatten, trees]
  | .call name arguments, rest, es => by
    rw [Expr.flatten, List.append_assoc, trees_flattenAll]
    simp [trees]

theorem trees_flattenAll : ∀ (fs : List Expr) (rest : List Node) (es : List Expr),
    trees (Expr.flattenAll fs ++ rest) es = trees rest (fs ++ es)
  | [], rest, es => rfl
  | f :: fs, rest, es => by
    rw [Expr.flattenAll, List.append_assoc, trees_flattenAll, trees_flatten, List.cons_append]
end

theorem trees_of_flatten (e : Expr) : trees e.flatten [] = some [e] := by
  have ht := trees_flatten e [] []
  rwa [List.append_nil] at ht

/-- The trees on the stack flatten to the nodes run so far. -/
theorem flattenAll_of_trees {nodes : List Node} {es fs : List Expr} (h : trees nodes es = some fs) :
    Expr.flattenAll fs = Expr.flattenAll es ++ nodes := by
  induction nodes generalizing es with
  | nil =>
    cases h
    rw [List.append_nil]
  | cons n rest ih =>
    cases n with
    | operand v =>
      rw [ih h, Expr.flattenAll, Expr.flatten, List.append_assoc, List.singleton_append]
    | operator name arity =>
      rw [trees] at h
      split at h
      · rename_i ha
        -- the arguments are on top of the trees of the earlier nodes
        have hsplit : Expr.flattenAll es =
            Expr.flattenAll (es.drop arity) ++ Expr.flattenAll (es.take arity) := by
          simp only [Expr.flattenAll_eq]
          rw [← List.flatMap_append, ← List.reverse_append, List.take_append_drop]
        rw [ih h, Expr.flattenAll, Expr.flatten, List.length_take_of_le ha, hsplit]
        simp only [List.append_assoc, List.singleton_append]
      · cases h

theorem tree?_eq_some_iff {nodes : List Node} {e : Expr} :
    tree? nodes = some e ↔ nodes = e.flatten := by
  constructor
  · intro h
    unfold tree? at h
    split at h
    · rename_i e' he
      cases h
      have hnodes := flattenAll_of_trees he
      simpa [Expr.flattenAll] using hnodes.symm
    · cases h
  · rintro rfl
    rw [tree?, trees_of_flatten]

/-- The counter takes exactly the nodes of trees from zero to one. -/
theorem height_eq_one_iff {nodes : List Node} :
    height nodes 0 = some 1 ↔ ∃ e, tree? nodes = some e := by
  have hlength := length_trees nodes []
  constructor
  · intro h
    rw [List.length_nil, h, Option.map_eq_some_iff] at hlength
    obtain ⟨es, hes, hone⟩ := hlength
    obtain ⟨e, rfl⟩ := List.length_eq_one_iff.mp hone
    exact ⟨e, by rw [tree?, hes]⟩
  · rintro ⟨e, he⟩
    rw [tree?_eq_some_iff.mp he, trees_of_flatten] at hlength
    rw [tree?_eq_some_iff.mp he]
    exact hlength.symm

end Node

/-! ## The stack of the evaluator -/

namespace Surroundings

variable {m : Type → Type} [Monad m] (s : Surroundings m) (expression : String) (c : Context)

/-- Nodes after which the stack has a fixed height, whatever the operators do. -/
def Leaves (nodes : List Node) (stack : Stack) (h : Nat) : Prop :=
  ∃ values : m (List.Vector Value h), s.run expression c nodes stack = do
    let vs ← values
    pure (some ⟨vs.toList⟩)

variable [LawfulMonad m]

/-- The stack is as high as the counter says. -/
theorem leaves_height {nodes : List Node} {h h' : Nat} (hh : Node.height nodes h = some h')
    (vs : List.Vector Value h) : s.Leaves expression c nodes ⟨vs.toList⟩ h' := by
  induction nodes generalizing h with
  | nil =>
    cases hh
    refine ⟨pure vs, ?_⟩
    simp [run]
  | cons n rest ih =>
    cases n with
    | operand v => exact ih hh (vs.cons v)
    | operator name arity =>
      rw [Node.height] at hh
      split at hh
      · rename_i ha
        have hlength : (vs.toList.drop arity).length = h - arity := by
          rw [List.length_drop, List.Vector.toList_length]
        -- the value of the operator, whatever it is, is on what is left below its arguments
        have hrest := fun v => ih hh (List.Vector.cons v ⟨vs.toList.drop arity, hlength⟩)
        choose values hvalues using hrest
        refine ⟨s.apply expression c name (vs.toList.take arity) >>= values, ?_⟩
        have ht : Stack.take? ⟨vs.toList⟩ arity =
            some (vs.toList.take arity, ⟨vs.toList.drop arity⟩) := by
          simp [Stack.take?, Stack.size, ha]
        simp only [run, ht, Stack.push, bind_assoc]
        congr 1
        funext v
        exact hvalues v
      · cases hh

/-- The nodes of a tree leave one value, so a continuation only matters for such a stack. -/
theorem run_flatten_bind (e : Expr) {ends ends' : Option Stack → m Value}
    (h : ∀ v, ends (some ⟨[v]⟩) = ends' (some ⟨[v]⟩)) :
    s.run expression c e.flatten .empty >>= ends = s.run expression c e.flatten .empty >>= ends' := by
  have hrun := s.run_flatten expression c e [] []
  rw [List.append_nil] at hrun
  simp only [Stack.empty, hrun, run, bind_assoc, pure_bind, h]

end Surroundings

/-! ## The nodes of a text -/

theorem Node.parse_eq_ok_iff {text : String} {nodes : List Node} :
    Node.parse text = .ok nodes ↔ ∃ e, Expr.parse text = .ok e ∧ nodes = e.flatten := by
  rw [Node.parse]
  cases Expr.parse text with
  | error err => simp [Except.map]
  | ok e => simp [Except.map, eq_comm]

/-- The counter runs through the nodes of a text from zero to one, and is never below the number of
arguments of an operator. The evaluator's stack has the height of the counter at every place, whatever
the operators do, so its handling of missing operands and of a final stack without exactly one value is
never reached. The nodes are those of exactly one tree: every text with these nodes has this tree, and
decoding returns it. Conversely, nodes are decoded to a tree if and only if the counter takes them from
zero to one. -/
theorem parse_uniquely_decodable {text : String} {nodes : List Node}
    (h : Node.parse text = .ok nodes) :
    (Node.height nodes 0 = some 1 ∧ ∀ before after, nodes = before ++ after →
      ∃ n, Node.height before 0 = some n ∧
        (∀ name arity rest, after = .operator name arity :: rest → arity ≤ n) ∧
        ∀ (m : Type → Type) [Monad m] [LawfulMonad m] (s : Surroundings m) (c : Context),
          s.Leaves text c before .empty n) ∧
    (∀ (m : Type → Type) [Monad m] [LawfulMonad m] (s : Surroundings m) (c : Context)
      (ends : Option Stack → m Value), (∀ v, ends (some ⟨[v]⟩) = pure v) →
        s.evaluate text c = s.run text c nodes .empty >>= ends) ∧
    (∀ text', Node.parse text' = .ok nodes → Expr.parse text' = Expr.parse text) ∧
    (∀ e, Expr.parse text = .ok e ↔ Node.tree? nodes = some e) ∧
    ∀ ks, (Node.height ks 0 = some 1 ↔ ∃ e, Node.tree? ks = some e) ∧
      ∀ e, Node.tree? ks = some e ↔ ks = e.flatten := by
  obtain ⟨e, he, rfl⟩ := Node.parse_eq_ok_iff.mp h
  have htree : Node.tree? e.flatten = some e := Node.tree?_eq_some_iff.mpr rfl
  have hone : Node.height e.flatten 0 = some 1 := Node.height_eq_one_iff.mpr ⟨e, htree⟩
  refine ⟨⟨hone, ?_⟩, ?_, ?_, ?_, fun ks => ⟨Node.height_eq_one_iff, fun e => Node.tree?_eq_some_iff⟩⟩
  · intro before after hsplit
    rw [hsplit, Node.height_append, Option.bind_eq_some_iff] at hone
    obtain ⟨n, hbefore, hafter⟩ := hone
    refine ⟨n, hbefore, ?_, fun m _ _ s c => s.leaves_height text c hbefore .nil⟩
    rintro name arity rest rfl
    rw [Node.height] at hafter
    split at hafter
    · assumption
    · cases hafter
  · intro m _ _ s c ends hends
    have hevaluate : s.evaluate text c = s.run text c e.flatten .empty >>= s.conclude text := by
      rw [Surroundings.evaluate, h]
    rw [hevaluate]
    exact s.run_flatten_bind text c e fun v => (hends v).symm
  · intro text' h'
    obtain ⟨e', he', heq⟩ := Node.parse_eq_ok_iff.mp h'
    have htree' := Node.tree?_eq_some_iff.mpr heq
    rw [htree, Option.some.injEq] at htree'
    rw [he, he', htree']
  · intro e'
    rw [he, htree, Except.ok.injEq, Option.some.injEq]

/-- A call without arguments inside a call of two; the second argument comes first. -/
theorem parse_uniquely_decodable_nested :
    Node.tree? [.operand (.boolean true), .operator "g" 0, .operator "f" 2] =
      some (.call "f" [.call "g" [], .literal (.boolean true)]) := by
  have h : Node.parse "f(g(), true)" =
      .ok [.operand (.boolean true), .operator "g" 0, .operator "f" 2] := by decide +kernel
  have ht : tokenize "f(g(), true)" = .ok [⟨.name "f", 0⟩, ⟨.openParen, 1⟩, ⟨.name "g", 2⟩,
      ⟨.openParen, 3⟩, ⟨.closeParen, 4⟩, ⟨.comma, 5⟩, ⟨.boolean true, 7⟩, ⟨.closeParen, 11⟩] := by
    decide +kernel
  have he : Expr.parse "f(g(), true)" =
      .ok (.call "f" [.call "g" [], .literal (.boolean true)]) := by
    rw [Expr.parse, ht]
    rfl
  exact ((parse_uniquely_decodable h).2.2.2.1 _).mp he

end FeatureFlags
