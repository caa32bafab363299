import FeatureFlags.Proofs.Likeness
import FeatureFlags.Proofs.Meaning
import FeatureFlags.Proofs.Report
import Mathlib.Data.List.Basic
import Mathlib.Data.Vector.Defs

/-!
# One context over another

`Context.overlay` is associative and idempotent, and the empty context is neutral on both sides.
These are equations of contexts, including the order of entries: a context is determined by its
names, in order, and its lookups (`Context.eq_of_names`).

An evaluation in a given context is compared with one without a context, on a client with the given
context laid over its global one (`Application.under`). The condition sees the same context in both.
They differ if an operator asks the client for values, since the client then uses its global context
alone (`asked_within_operator`). If no operator asks, nothing up to the impression depends on the
global context (`Heedless`), so impression and value are the same (`overlaid_context_is_global`).
-/

namespace FeatureFlags

namespace Dict

variable {α : Type} {d e : Dict α} {l : List (String × α)} {name : String} {value : α}

/-- The names in a dictionary, in the order of first insertion. -/
def names (d : Dict α) : List String := d.entries.map Prod.fst

/-- Entries without repeated names are determined by their names, in order, and their lookups. -/
theorem entries_eq {k l : List (String × α)} (hk : (k.map Prod.fst).Nodup)
    (hn : k.map Prod.fst = l.map Prod.fst) (hv : ∀ name, k.lookup name = l.lookup name) : k = l := by
  induction k generalizing l with
  | nil => exact (List.map_eq_nil_iff.mp hn.symm).symm
  | cons p k ih =>
    cases l with
    | nil => cases hn
    | cons q l =>
      obtain ⟨n, v⟩ := p
      obtain ⟨m, w⟩ := q
      obtain ⟨rfl, hrest⟩ : n = m ∧ k.map Prod.fst = l.map Prod.fst := List.cons_eq_cons.mp hn
      obtain ⟨hnew, hk⟩ := List.nodup_cons.mp hk
      have hvw : v = w := by
        have h := hv n
        simpa [lookup_cons_ite] using h
      have hkl : k = l := by
        refine ih hk hrest fun name => ?_
        by_cases hname : name = n
        · subst hname
          -- the name does not come again in either list
          have hnone : ∀ r : List (String × α), name ∉ r.map Prod.fst → r.lookup name = none := by
            intro r hr
            rw [List.lookup_eq_none_iff]
            intro p hp
            have hne : name ≠ p.1 := fun h => hr (h ▸ List.mem_map_of_mem hp)
            simpa using hne
          rw [hnone k hnew, hnone l (hrest ▸ hnew)]
        · have h := hv name
          rwa [lookup_cons_ite, lookup_cons_ite, if_neg hname, if_neg hname] at h
      rw [hvw, hkl]

theorem eq_of_names (hn : d.names = e.names) (hv : ∀ name, d.find? name = e.find? name) : d = e := by
  obtain ⟨k, hk⟩ := d
  obtain ⟨l, hl⟩ := e
  obtain rfl : k = l := entries_eq hk hn hv
  rfl

theorem names_insert : (d.insert name value).names = if name ∈ d.names then d.names else d.names ++ [name] := by
  have h : ∀ l : List (String × α), (putEntry name value l).map Prod.fst =
      if name ∈ l.map Prod.fst then l.map Prod.fst else l.map Prod.fst ++ [name] := by
    intro l
    induction l with
    | nil => rfl
    | cons p l ih =>
      obtain ⟨n, v⟩ := p
      by_cases hn : n = name
      · simp [putEntry, hn]
      · have hne : ¬ name = n := fun h => hn h.symm
        rw [putEntry, if_neg hn, List.map_cons, ih, List.map_cons]
        by_cases hmem : name ∈ l.map Prod.fst
        · rw [if_pos hmem, if_pos (List.mem_cons_of_mem _ hmem)]
        · rw [if_neg hmem, if_neg (by simp only [List.mem_cons, hne, hmem, or_self, not_false_iff]),
            List.cons_append]
  exact h d.entries

/-- New names are appended, in order. -/
theorem names_insertAll (hl : (l.map Prod.fst).Nodup) :
    (d.insertAll l).names = d.names ++ (l.map Prod.fst).filter fun name => decide (name ∉ d.names) := by
  induction l generalizing d with
  | nil => exact (List.append_nil _).symm
  | cons p l ih =>
    obtain ⟨n, v⟩ := p
    obtain ⟨hnew, hl⟩ := List.nodup_cons.mp hl
    have hstep : (d.insertAll ((n, v) :: l)).names = ((d.insert n v).insertAll l).names := rfl
    rw [hstep, ih hl, names_insert, List.map_cons, List.filter_cons]
    by_cases hn : n ∈ d.names
    · simp [hn]
    · simp only [hn, if_false, not_false_eq_true, decide_true, if_true, List.append_assoc, List.singleton_append]
      -- the new name itself is not among the rest
      have hrest : ((l.map Prod.fst).filter fun name => decide (name ∉ d.names ++ [n])) =
          (l.map Prod.fst).filter fun name => decide (name ∉ d.names) := by
        refine List.filter_congr fun m hm => ?_
        have hmn : m ≠ n := fun h => hnew (h ▸ hm)
        simp [hmn]
      rw [hrest]

end Dict

namespace Context

variable {g a b : Context}

theorem eq_of_names (hn : a.attributes.names = b.attributes.names)
    (hv : ∀ name, a.lookup? name = b.lookup? name) : a = b := by
  obtain ⟨d⟩ := a
  obtain ⟨e⟩ := b
  obtain rfl : d = e := Dict.eq_of_names hn hv
  rfl

theorem names_overlay : (g.overlay a).attributes.names =
    g.attributes.names ++ a.attributes.names.filter fun name => decide (name ∉ g.attributes.names) :=
  Dict.names_insertAll a.attributes.nodup

theorem overlay_assoc : (g.overlay a).overlay b = g.overlay (a.overlay b) := by
  refine eq_of_names ?_ fun name => ?_
  · simp only [names_overlay, List.append_assoc, List.filter_append, List.filter_filter]
    congr 2
    refine List.filter_congr fun m _ => ?_
    by_cases hg : m ∈ g.attributes.names <;> simp [hg]
  · simp only [lookup?_overlay, Option.or_assoc]

@[simp] theorem overlay_empty : g.overlay .empty = g := rfl

@[simp] theorem empty_overlay : Context.empty.overlay g = g := by
  refine eq_of_names ?_ fun name => ?_
  · rw [names_overlay]
    simp [empty, Dict.names, Dict.empty]
  · rw [lookup?_overlay]
    exact Option.or_none

@[simp] theorem overlay_self : a.overlay a = a := by
  refine eq_of_names ?_ fun name => ?_
  · rw [names_overlay]
    simp
  · rw [lookup?_overlay]
    exact Option.or_self

theorem overlay_overlay_self : (g.overlay a).overlay a = g.overlay a := by
  rw [overlay_assoc, overlay_self]

end Context

/-! ## Other global contexts -/

/-- Whether a request asks for the value of a variant. -/
def Request.asks : Request Program → Bool
  | isEnabled .. => true
  | value .. => true
  | evaluate .. => true
  | _ => false

/-- User code that asks for no values, as do the operators that it registers. -/
inductive Program.AsksNothing : Program → Prop
  | done (v : Value) : AsksNothing (.done v)
  | fail : AsksNothing .fail
  | request {c : ClientId} {r : Request Program} {next : Response → Program} (hr : r.asks = false)
    (hoperator : ∀ name arity run, r = .addOperator name arity run → ∀ args x, AsksNothing (run args x))
    (hnext : ∀ x, AsksNothing (next x)) : AsksNothing (.request c r next)

namespace Application

/-- The application with another global context of a client. -/
def under (a : Application) (c : ClientId) (g : Context) : Application :=
  a.modifyClient c fun s => { s with globalContext := g }

/-- Whether the operators of all clients ask for no values. -/
def OperatorsAskNothing (a : Application) : Prop :=
  ∀ d name o, (a.client d).operators.find? name = some o → ∀ args x, (o.run args x).AsksNothing

/-- A computation that does not depend on the global context of a client, and delivers nothing, if
operators ask for no values. -/
def Heedless {α : Type} (c : ClientId) (g : Context) (x : Run α) : Prop :=
  ∀ a, a.OperatorsAskNothing → x.run (a.under c g) = ((x.run a).1, (x.run a).2.under c g) ∧
    (x.run a).2.OperatorsAskNothing ∧ ∃ es, Run.Quiet es ∧ (x.run a).2.events = a.events ++ es

section Under

variable {a : Application} {c d : ClientId} {g : Context}

theorem client_under : ∃ x, (a.under c g).client d = { a.client d with globalContext := x } := by
  by_cases hd : d = c
  · subst hd
    by_cases hc : d < a.clients.length
    · exact ⟨g, client_modifyClient_self hc⟩
    · exact ⟨(a.client d).globalContext, client_modifyClient_of_le (Nat.le_of_not_lt hc)⟩
  · exact ⟨(a.client d).globalContext, client_modifyClient_ne hd⟩

theorem client_under_congr {β : Type} (p : Client → β) (hp : ∀ s x, p { s with globalContext := x } = p s) :
    p ((a.under c g).client d) = p (a.client d) := client_modifyClient_congr p fun s => hp s g

theorem variant_under {h : Handle} : (a.under c g).variant h = a.variant h := rfl

theorem tell_under {es : List Event} : (a.under c g).tell es = (a.tell es).under c g := rfl

theorem modifyClient_under {f : Client → Client}
    (hf : ∀ s x, f { s with globalContext := x } = { f s with globalContext := x }) :
    (a.under c g).modifyClient d f = (a.modifyClient d f).under c g := by
  have hclients : (a.clients.modify c fun s => { s with globalContext := g }).modify d f =
      (a.clients.modify d f).modify c fun s => { s with globalContext := g } := by
    refine List.ext_getElem? fun i => ?_
    simp only [List.getElem?_modify]
    split
    · split
      · cases a.clients[i]? with
        | none => rfl
        | some s => exact congrArg some (hf s g)
      · cases a.clients[i]? <;> rfl
    · cases a.clients[i]? <;> rfl
  unfold under modifyClient
  rw [hclients]

theorem OperatorsAskNothing.modifyClient {f : Client → Client} (hf : ∀ s, (f s).operators = s.operators)
    (ha : a.OperatorsAskNothing) : (a.modifyClient d f).OperatorsAskNothing := by
  intro e name o ho
  rw [client_modifyClient_congr (·.operators) hf] at ho
  exact ha e name o ho

end Under

namespace Heedless

variable {α β : Type} {c d : ClientId} {g : Context} {h : Handle} {name : String}

theorem pure' (v : α) : Heedless c g (pure v : Run α) :=
  fun _ ha => ⟨rfl, ha, [], .nil, (List.append_nil _).symm⟩

theorem throw' (e : Stop) : Heedless c g (throw e : Run α) :=
  fun _ ha => ⟨rfl, ha, [], .nil, (List.append_nil _).symm⟩

theorem bind' {x : Run α} {f : α → Run β} (hx : Heedless c g x) (hf : ∀ v, Heedless c g (f v)) :
    Heedless c g (x >>= f) := by
  intro a ha
  obtain ⟨hrun, hb, es, hes, he⟩ := hx a ha
  rcases hr : x.run a with ⟨e | v, b⟩
  · rw [hr] at hrun hb he
    rw [Run.run_bind_error hr, Run.run_bind_error hrun]
    exact ⟨rfl, hb, es, hes, he⟩
  · rw [hr] at hrun hb he
    rw [Run.run_bind_ok hr, Run.run_bind_ok hrun]
    obtain ⟨hrun', hd, fs, hfs, hf'⟩ := hf v b hb
    exact ⟨hrun', hd, es ++ fs, hes.append hfs, by rw [hf', he, List.append_assoc]⟩

theorem ite' {p : Prop} [Decidable p] {x y : Run α} (hx : Heedless c g x) (hy : Heedless c g y) :
    Heedless c g (if p then x else y) := by
  split
  · exact hx
  · exact hy

theorem forM' {l : List α} {f : α → Run Unit} (hf : ∀ v ∈ l, Heedless c g (f v)) :
    Heedless c g (l.forM f) := by
  induction l with
  | nil => exact pure' ()
  | cons v rest ih =>
    exact bind' (hf v List.mem_cons_self) fun _ => ih fun w hw => hf w (List.mem_cons_of_mem _ hw)

theorem report {e : Diagnostic} (he : (Event.reported e).isDelivery = false) :
    Heedless c g (Run.report e) :=
  fun _ ha => ⟨rfl, ha, [.reported e], .cons he .nil, rfl⟩

theorem read {p : Application → α} (hp : ∀ a, p (a.under c g) = p a) :
    Heedless c g (do return p (← get) : Run α) := by
  intro a ha
  refine ⟨?_, ha, [], .nil, (List.append_nil _).symm⟩
  show (Except.ok (p (a.under c g)), a.under c g) = (Except.ok (p a), a.under c g)
  rw [hp]

theorem client_bind {k : Client → Run α} (hk : ∀ s x, k { s with globalContext := x } = k s)
    (h : ∀ s : Client, (∀ name o, s.operators.find? name = some o → ∀ args x, (o.run args x).AsksNothing) →
      Heedless c g (k s)) : Heedless c g (Run.client d >>= k) := by
  intro a ha
  have hr : ∀ a : Application, (Run.client d).run a = (.ok (a.client d), a) := fun _ => rfl
  obtain ⟨x, hx⟩ := @client_under a c d g
  rw [Run.run_bind_ok (hr a), Run.run_bind_ok (hr _), hx, hk]
  exact h (a.client d) (ha d) a ha

theorem change {f : Application → Application} (hf : ∀ a, f (a.under c g) = (f a).under c g)
    (ho : ∀ a, a.OperatorsAskNothing → (f a).OperatorsAskNothing) (he : ∀ a, (f a).events = a.events) :
    Heedless c g (modify f : Run Unit) := by
  intro a ha
  refine ⟨?_, ho a ha, [], .nil, ?_⟩
  · show (Except.ok (), f (a.under c g)) = (Except.ok (), (f a).under c g)
    rw [hf]
  · rw [List.append_nil]
    exact he a

theorem modifyClient {f : Client → Client}
    (hf : ∀ s x, f { s with globalContext := x } = { f s with globalContext := x })
    (ho : ∀ s, (f s).operators = s.operators) : Heedless c g (Run.modifyClient d f) :=
  change (fun _ => modifyClient_under hf) (fun _ ha => ha.modifyClient ho) fun _ => rfl

/-! ### Variants and experiments -/

theorem giveName : Heedless c g (Run.giveName h name) := by
  refine bind' (read fun _ => rfl) fun v => ?_
  split
  · exact report (by
      rename_i e he
      obtain ⟨n, -, rfl⟩ := Variant.named_of_naming he
      rfl)
  · exact change (fun _ => rfl) (fun _ ha => ha) fun _ => rfl

theorem bindVariant {t : ExperimentTable} : Heedless c g (Run.bindVariant d t h) := by
  refine bind' (read fun _ => rfl) fun v => bind' (report rfl) fun _ => ?_
  exact change (fun _ => rfl) (fun _ ha => ha) fun _ => rfl

theorem add : Heedless c g ((Run.flagStore d).add name h) := by
  refine bind' giveName fun _ => bind' (read fun a => ?_) fun previous => ?_
  · exact client_under_congr (·.flags.find? name) fun _ _ => rfl
  refine bind' (modifyClient (fun _ _ => rfl) fun _ => rfl) fun _ => ?_
  have hannounce : Heedless c g (Run.bindAdded d h) := client_bind (fun _ _ => rfl) fun _ _ => bindVariant
  split
  · exact bind' (report rfl) fun _ => bind' hannounce fun _ => pure' _
  · exact bind' hannounce fun _ => pure' _

theorem register {r : Container} : Heedless c g (Run.register d r) := by
  refine client_bind (fun _ _ => rfl) fun s _ => ite' ?_ ?_
  · exact bind' (report rfl) fun _ => pure' _
  · refine bind' (modifyClient (fun _ _ => rfl) fun _ => rfl) fun _ => ?_
    exact bind' (forM' fun e _ => bind' add fun _ => pure' _) fun _ => pure' _

theorem setExperiments {models : List ExperimentModel} : Heedless c g (Run.setExperiments d models) := by
  have hrebind : Heedless c g (Run.rebind d) := by
    refine client_bind (fun _ _ => rfl) fun s _ => ?_
    exact bind' (forM' fun e _ => bindVariant) fun _ => report rfl
  refine bind' (forM' fun e he => report ?_) fun _ => ?_
  · exact Run.quiet_shadowings _ (List.mem_map_of_mem he)
  · exact bind' (modifyClient (fun _ _ => rfl) fun _ => rfl) fun _ => hrebind

theorem applyConfiguration {payload : String} : Heedless c g (Run.applyConfiguration d payload) := by
  unfold Run.applyConfiguration
  split
  · exact bind' (report rfl) fun _ => pure' _
  · exact bind' (forM' fun _ _ => report rfl) fun _ => bind' setExperiments fun _ => pure' _

theorem addOperator {o : CustomOperator} (ho : ∀ args x, (o.run args x).AsksNothing) :
    Heedless c g (Run.addOperator d name o) := by
  refine client_bind (fun _ _ => rfl) fun s _ => bind' ?_ fun _ => ite' (report rfl) (pure' _)
  refine change (fun _ => modifyClient_under fun _ _ => rfl) (fun a ha => ?_) fun _ => rfl
  intro e n p hp
  let f : Client → Client := fun s => { s with operators := s.operators.insert name o }
  have hi : ((a.modifyClient d f).client e).operators.find? n = some p := hp
  by_cases he : e = d
  · subst he
    by_cases hd : e < a.clients.length
    · rw [client_modifyClient_self hd, Dict.find?_insert] at hi
      split at hi
      · cases hi
        exact ho
      · exact ha e n p hi
    · rw [client_modifyClient_of_le (Nat.le_of_not_lt hd)] at hi
      exact ha e n p hi
  · rw [client_modifyClient_ne he] at hi
    exact ha e n p hi

/-! ### User code -/

theorem answer {run : Runner} {r : Request Program} (hr : r.asks = false)
    (ho : ∀ name arity operation, r = .addOperator name arity operation →
      ∀ args x, (operation args x).AsksNothing) : Heedless c g (Run.answer run d r) := by
  cases r with
  | register r => exact register
  | setExperiments models => exact bind' setExperiments fun _ => pure' _
  | applyConfiguration payload => exact applyConfiguration
  | isEnabled name default x => cases hr
  | value name default options x => cases hr
  | evaluate h x => cases hr
  | addProperty p => exact bind' (modifyClient (fun _ _ => rfl) fun _ => rfl) fun _ => pure' _
  | addOperator name arity operation =>
    exact bind' (addOperator (ho name arity operation rfl)) fun _ => pure' _
  | addHandler label react => exact bind' (modifyClient (fun _ _ => rfl) fun _ => rfl) fun _ => pure' _
  | setGate isOpen => exact bind' (modifyClient (fun _ _ => rfl) fun _ => rfl) fun _ => pure' _

/-- User code that asks for no values runs no other user code, so the limit on nesting does not matter.
-/
theorem runProgram {p : Program} (hp : p.AsksNothing) :
    ∀ limit, Heedless c g (Run.runProgram limit p)
  | 0 => throw' _
  | limit + 1 => by
    show Heedless c g (Run.follow (Run.runProgram limit) p)
    induction hp with
    | done v => exact pure' v
    | fail => exact throw' _
    | request hr ho _ _ ih => exact bind' (answer hr ho) fun x => ih x

/-! ### Conditions -/

theorem standardOperator {s : Client} {name : String} {o : Operator Run}
    (ho : (s.standardOperators d).find? name = some o) (args : List Value) (x : Context) :
    Heedless c g (o.run args x) := by
  rcases Conducts.standardOperator_cases ho with rfl | rfl | ⟨arity, f, rfl⟩
  · unfold Operator.customProperty
    dsimp only
    split
    · refine bind' (client_bind (fun _ _ => rfl) fun s _ => pure' _) fun p => ?_
      cases p <;> exact pure' _
    · exact pure' _
  · unfold Operator.matching
    dsimp only
    split
    · split
      · exact pure' _
      · exact bind' (report rfl) fun _ => pure' _
    · exact pure' _
  · exact pure' _

theorem operator? {s : Client} {limit : Nat} {o : Operator Run}
    (hs : ∀ name o, s.operators.find? name = some o → ∀ args x, (o.run args x).AsksNothing)
    (ho : s.operator? (Run.runProgram limit) d name = some o) (args : List Value) (x : Context) :
    Heedless c g (o.run args x) := by
  unfold Client.operator? at ho
  split at ho
  · rename_i o' ho'
    cases ho
    exact runProgram (hs name o' ho' args x) limit
  · exact standardOperator ho args x

theorem apply {limit : Nat} {expression : String} {x : Context} {args : List Value} :
    Heedless c g ((Run.surroundings (Run.runProgram limit) d).apply expression x name args) := by
  have hlookup : (Run.surroundings (Run.runProgram limit) d).lookup name =
      Run.client d >>= fun s => pure (s.operator? (Run.runProgram limit) d name) := rfl
  unfold Surroundings.apply
  rw [hlookup, bind_assoc]
  refine client_bind (fun _ _ => rfl) fun s hs => ?_
  rw [pure_bind]
  cases ho : s.operator? (Run.runProgram limit) d name with
  | none => exact bind' (report rfl) fun _ => pure' _
  | some o => exact ite' (operator? hs ho args x) (pure' _)

mutual
theorem evaluate {f : String → List Value → Run Value} (hf : ∀ name vs, Heedless c g (f name vs)) :
    ∀ tree : Expr, Heedless c g (tree.evaluate f)
  | .literal v => pure' v
  | .call name arguments => bind' (evaluateAll hf arguments) fun vs => hf name vs

theorem evaluateAll {f : String → List Value → Run Value} (hf : ∀ name vs, Heedless c g (f name vs)) :
    ∀ trees : List Expr, Heedless c g (Expr.evaluateAll f trees)
  | [] => pure' []
  | e :: rest => bind' (evaluateAll hf rest) fun vs => bind' (evaluate hf e) fun v => pure' (v :: vs)
end

theorem decide {limit : Nat} {m : Option ExperimentModel} {x : Context} :
    Heedless c g (Run.decide (Run.runProgram limit) d m x) := by
  cases m with
  | none => exact pure' _
  | some m =>
    refine bind' ?_ fun v => pure' _
    rw [Surroundings.evaluate_eq]
    split
    · exact bind' (report rfl) fun _ => pure' _
    · exact evaluate (fun _ _ => apply) _

end Heedless
/-! ## Evaluations -/

/-- A delivery continues after a handler has failed; only user code that nests too deeply ends it. -/
def Lasting {α : Type} (x : Run α) : Prop := ∀ a, (x.run a).1 ≠ .error .failed

namespace Lasting

variable {α β : Type} {c : ClientId} {i : Impression}

theorem pure' (v : α) : Lasting (pure v : Run α) := fun _ h => nomatch h

theorem bind' {x : Run α} {f : α → Run β} (hx : Lasting x) (hf : ∀ v, Lasting (f v)) :
    Lasting (x >>= f) := by
  intro a h
  rcases hr : x.run a with ⟨e | v, b⟩
  · rw [Run.run_bind_error hr] at h
    cases h
    exact hx a (by rw [hr])
  · rw [Run.run_bind_ok hr] at h
    exact hf v b h

theorem ite' {p : Prop} [Decidable p] {x y : Run α} (hx : Lasting x) (hy : Lasting y) :
    Lasting (if p then x else y) := by
  split
  · exact hx
  · exact hy

theorem emit (e : Event) : Lasting (Run.emit e) := fun _ h => nomatch h

theorem succeeds (run : Runner) (p : Program) : Lasting (Run.succeeds run p) := by
  intro a h
  unfold Run.succeeds at h
  rw [Run.run_tryCatch] at h
  rcases hr : (run p).run a with ⟨e | v, b⟩
  · rw [Run.run_bind_error hr] at h
    cases e <;> cases h
  · rw [Run.run_bind_ok hr] at h
    cases h

theorem dispatch (run : Runner) (h : Handler Program) : Lasting ((Run.delivery run c).dispatch i h) :=
  bind' (emit _) fun _ => bind' (succeeds run _) fun _ => ite' (emit _) (pure' _)

theorem spread (run : Runner) : Lasting ((Run.delivery run c).spread i) := by
  have hhub : Lasting (Run.delivery run c).hub := fun _ h => nomatch h
  have hall : ∀ hs : List (Handler Program), Lasting (hs.forM ((Run.delivery run c).dispatch i)) := by
    intro hs
    induction hs with
    | nil => exact pure' ()
    | cons h rest ih => exact bind' (dispatch run h) fun _ => ih
  refine bind' hhub fun hub => bind' (hall _) fun _ => bind' hhub fun hub => ?_
  split
  · exact pure' _
  · exact ite' (bind' (emit _) fun _ => ite' (dispatch run _) (pure' _)) (pure' _)

end Lasting

section Evaluation

variable {a : Application} {h : Handle} {k : Binding} {limit : Nat}

/-- The events after a delivery, and how it ends. -/
theorem spread_run {run : Runner} {c : ClientId} {i : Impression} {o : Outcome} {d : Application} :
    let r := ((Run.delivery run c).spread i >>= fun _ => (pure o : Run Outcome)).run d
    r.1 = .ok o ∨ r.1 = .error .nestedTooDeeply := by
  intro r
  have hlast := Lasting.spread (c := c) (i := i) run d
  rcases hr : ((Run.delivery run c).spread i).run d with ⟨e | u, b⟩
  · have he : r = (.error e, b) := Run.run_bind_error hr
    rw [hr] at hlast
    cases e with
    | failed => exact absurd rfl hlast
    | nestedTooDeeply => exact .inr (congrArg Prod.fst he)
  · exact .inl (congrArg Prod.fst (Run.run_bind_ok hr))

theorem events_spread {c : ClientId} {i : Impression} {o : Outcome} {d : Application} : d.events <+:
    (((Run.delivery (Run.runProgram limit) c).spread i >>= fun _ => (pure o : Run Outcome)).run d).2.events := by
  have hspread : Alike .unseen ((Run.delivery (Run.runProgram limit) c).spread i)
      ((Run.delivery (Run.runProgram limit) c).spread i) fun _ _ => True :=
    .spread fun p _ => .unseen_runProgram limit p
  rw [Run.run_bind_pure_snd]
  exact hspread.events_prefix ⟨rfl, rfl⟩

section Parts

variable {run : Runner} {y : Option Context} {z : Context} {b : Application} (default : Option String)
  (hb : (a.variant h).binding = some k)
  (hz : (a.client k.client).globalContext.overlay? y = z)
include hb hz

theorem evaluate_run_of_stopped {e : Stop} (hs : (Run.decide run k.client k.experiment z).run a = (.error e, b)) :
    (Run.evaluate run h y default).run a = (.error e, b) := by
  rw [evaluate_run_of_bound hb, hz, Run.run_bind_error hs]

theorem evaluate_run_of_decided {s : Option String}
    (hs : (Run.decide run k.client k.experiment z).run a = (.ok s, b)) :
    let o := (a.variant h).outcome default s
    let i : Impression := ⟨(a.variant h).name, o.value, (a.variant h).experiment, z⟩
    (Run.evaluate run h y default).run a =
      ((Run.delivery run k.client).spread i >>= fun _ => (pure o : Run Outcome)).run
        (b.tell (((a.variant h).reports o).map .reported ++ [.reported (.deliveringImpression i)])) := by
  intro o i
  rw [evaluate_run_of_bound hb, hz, Run.run_bind_ok hs, Run.run_bind_ok (Run.forM_report_run (f := fun r => r)),
    Delivery.deliver_eq, bind_assoc, ← Run.tell_tell]
  rfl

end Parts

/-- An evaluation in a given context and one on a client with this context laid over its global one:
either the condition ends both early, or both deliver the same impression, for the same outcome, in
applications that differ in the global context only. -/
theorem evaluate_under (x : Context) (default : Option String) (limit : Nat) (ha : a.OperatorsAskNothing)
    (hb : (a.variant h).binding = some k) (hc : k.client < a.clients.length) :
    let merged := (a.client k.client).globalContext.overlay x
    let impression (o : Outcome) : Impression := ⟨(a.variant h).name, o.value, (a.variant h).experiment, merged⟩
    let delivered (o : Outcome) : Run Outcome :=
      (Run.delivery (Run.runProgram limit) k.client).spread (impression o) >>= fun _ => pure o
    let given := (Run.evaluate (Run.runProgram limit) h (some x) default).run a
    let global := (Run.evaluate (Run.runProgram limit) h none default).run (a.under k.client merged)
    (∃ e b, given = (.error e, b) ∧ global = (.error e, b.under k.client merged)) ∨
      ∃ o es d, Run.Quiet es ∧ d.events = a.events ++ es ++ [.reported (.deliveringImpression (impression o))] ∧
        given = (delivered o).run d ∧ global = (delivered o).run (d.under k.client merged) := by
  intro merged impression delivered given global
  let u := a.under k.client merged
  have hbu : (u.variant h).binding = some k := hb
  have hmerged : (u.client k.client).globalContext.overlay? none = merged := by
    have hu : u.client k.client = { a.client k.client with globalContext := merged } :=
      client_modifyClient_self hc
    rw [hu]
    rfl
  have hdecide : Heedless k.client merged (Run.decide (Run.runProgram limit) k.client k.experiment merged) :=
    .decide
  obtain ⟨hsame, -, es, hes, hevents⟩ := hdecide a ha
  rcases hr : (Run.decide (Run.runProgram limit) k.client k.experiment merged).run a with ⟨e | s, b⟩
  · rw [hr] at hsame
    exact .inl ⟨e, b, evaluate_run_of_stopped default hb rfl hr,
      evaluate_run_of_stopped default hbu hmerged hsame⟩
  · rw [hr] at hsame hevents
    let o := (a.variant h).outcome default s
    let reports := ((a.variant h).reports o).map Event.reported
    have hreports : Run.Quiet reports := .reported isDelivery_reports
    let d := b.tell (reports ++ [.reported (.deliveringImpression (impression o))])
    have hgiven : given = (delivered o).run d := evaluate_run_of_decided (y := some x) default hb rfl hr
    have hglobal : global = (delivered o).run (d.under k.client merged) := by
      have hdecided : (Run.decide (Run.runProgram limit) k.client k.experiment merged).run u =
          (.ok s, b.under k.client merged) := hsame
      have h := evaluate_run_of_decided default hbu hmerged hdecided
      simp only [u, variant_under, tell_under] at h
      exact h
    refine .inr ⟨o, es ++ reports, d, hes.append hreports, ?_, hgiven, hglobal⟩
    show b.events ++ _ = _
    rw [hevents]
    simp only [List.append_assoc]

end Evaluation

/-- The laws of laying contexts over one another, and their consequence for evaluations. If operators
ask for no values themselves, a bound variant has the same value in a context `x` and without a context
on a client with `x` laid over its global context. The same impression is delivered, everything before
it is the same, and the deliveries begin in applications that differ in this global context only. There
is no value if the condition ends early, which then happens on both sides, or if a handler nests too
deeply. -/
theorem overlaid_context_is_global :
    (∀ g a b : Context,
      (∀ name, (g.overlay? (some a)).lookup? name = (a.lookup? name).or (g.lookup? name)) ∧
      (g.overlay? (some a)).overlay? (some b) = g.overlay? (some (a.overlay? (some b))) ∧
      g.overlay? (some .empty) = g ∧ Context.empty.overlay? (some g) = g ∧ g.overlay? none = g ∧
      (g.overlay? (some a)).overlay? (some a) = g.overlay? (some a)) ∧
    ∀ (a : Application) (h : Handle) (k : Binding) (x : Context) (default : Option String) (limit : Nat),
      a.OperatorsAskNothing → (a.variant h).binding = some k → k.client < a.clients.length →
      let merged := (a.client k.client).globalContext.overlay? (some x)
      let impression (o : Outcome) : Impression := ⟨(a.variant h).name, o.value, (a.variant h).experiment, merged⟩
      let delivered (o : Outcome) : Run Outcome :=
        (Run.delivery (Run.runProgram limit) k.client).spread (impression o) >>= fun _ => pure o
      let given := (Run.evaluate (Run.runProgram limit) h (some x) default).run a
      let global := (Run.evaluate (Run.runProgram limit) h none default).run (a.under k.client merged)
      (∃ e b, given = (.error e, b) ∧ global = (.error e, b.under k.client merged)) ∨
        ∃ o es d, Run.Quiet es ∧
          d.events = a.events ++ es ++ [.reported (.deliveringImpression (impression o))] ∧
          given = (delivered o).run d ∧ global = (delivered o).run (d.under k.client merged) ∧
          ∀ r ∈ [given, global], (r.1 = .ok o ∨ r.1 = .error .nestedTooDeeply) ∧ d.events <+: r.2.events := by
  refine ⟨fun g a b => ?_, ?_⟩
  · exact ⟨fun _ => Context.lookup?_overlay, Context.overlay_assoc, Context.overlay_empty, Context.empty_overlay,
      rfl, Context.overlay_overlay_self⟩
  · intro a h k x default limit ha hb hc merged impression delivered given global
    rcases evaluate_under x default limit ha hb hc with
      hstop | ⟨o, es, d, hes, hd, hgiven, hglobal⟩
    · exact .inl hstop
    · refine .inr ⟨o, es, d, hes, hd, hgiven, hglobal, ?_⟩
      have hrun : ∀ f : Application, f.events = d.events → ∀ r, r = (delivered o).run f →
          (r.1 = .ok o ∨ r.1 = .error .nestedTooDeeply) ∧ d.events <+: r.2.events := by
        rintro f hf r rfl
        exact ⟨spread_run, hf ▸ events_spread⟩
      simp only [List.forall_mem_cons, List.not_mem_nil, false_implies, implies_true, and_true]
      exact ⟨hrun d rfl given hgiven, hrun (d.under k.client merged) rfl global hglobal⟩

/-- A client with an operator that reads the context, and a flag whose condition is a call of it. -/
def reading : Application :=
  let read : CustomOperator := ⟨.exactly 1, fun args c => .done
    (match args with
      | [.text name] => c.get name
      | _ => .undefined)⟩
  let m := ExperimentModel.make "1" "e" "read(\"k\")" false ["f"] []
  ((ofVariants [{ Variant.flag false with name? := some "f", binding := some ⟨0, some m⟩ }]).addClient
    ⟨.empty, .ofNat 0, [], none, false⟩).modifyClient 0 fun s => { s with operators := .ofList [("read", read)] }

def readContext : Context := Context.empty.insert "k" (.boolean true)

def readGiven : Except Stop Outcome × Application :=
  (Run.evaluate (Run.runProgram 1) 0 (some readContext) none).run reading

/-- The flag is asked for without a context, on a client with that global context. -/
def readGlobal : Except Stop Outcome × Application :=
  (Run.evaluate (Run.runProgram 1) 0 none none).run
    (reading.under 0 ((reading.client 0).globalContext.overlay? (some readContext)))

/-- The operator reads the given context from the global one. -/
theorem overlaid_context_is_global_read :
    readGiven.1 = .ok ⟨"true", false⟩ ∧ readGlobal.1 = .ok ⟨"true", false⟩ ∧
      ∃ es, ∀ r ∈ [readGiven, readGlobal], reading.events ++ es ++ [.reported (.deliveringImpression
        ⟨(reading.variant 0).name, "true", (reading.variant 0).experiment,
          (reading.client 0).globalContext.overlay? (some readContext)⟩)] <+: r.2.events := by
  have hread : reading.OperatorsAskNothing := by
    intro d name o ho
    cases d with
    | zero =>
      have hname : (Dict.insert _ "read" _).find? name = some o := ho
      rw [Dict.find?_insert] at hname
      split at hname
      · cases hname
        exact fun args c => .done _
      · cases hname
    | succ d => cases ho
  have hgiven : readGiven.1 = .ok ⟨"true", false⟩ := by decide +kernel
  have hglobal : readGlobal.1 = .ok ⟨"true", false⟩ := by decide +kernel
  refine ⟨hgiven, hglobal, ?_⟩
  rcases overlaid_context_is_global.2 reading 0 ⟨0, _⟩ readContext none 1 hread rfl (by decide) with
    ⟨e, b, hstop, -⟩ | ⟨o, es, d, -, hd, -, -, hboth⟩
  · -- the condition was not stopped
    rw [show readGiven = (.error e, b) from hstop] at hgiven
    cases hgiven
  · have ho : readGiven.1 = .ok o ∨ readGiven.1 = .error .nestedTooDeeply :=
      (hboth readGiven List.mem_cons_self).1
    rw [hgiven] at ho
    obtain rfl : ⟨"true", false⟩ = o := by simpa using ho
    refine ⟨es, fun r hr => ?_⟩
    have hseen := (hboth r hr).2
    rw [hd] at hseen
    exact hseen

/-- An operator that asks the client for a flag gets its value in the global context. So a context given
for an evaluation, which this operator does not see, differs from a global one. -/
theorem asked_within_operator :
    let requests : List (Nat × Request Program) :=
      [(1, .register (.make "" [("f", 0), ("inner", 1)])),
        (1, .addOperator "ctx" (.exactly 1) fun args c => .done
          (match args with
            | [.text name] => c.get name
            | _ => .undefined)),
        (1, .addOperator "ask" (.exactly 0) fun _ _ =>
          .request 0 (.isEnabled "inner" false none) fun r => .done r.value),
        (1, .setExperiments [.make "1" "outer" "ask()" false ["f"] [],
          .make "2" "inner" "ctx(\"k\")" false ["inner"] []])]
    let a := ((ofVariants [.flag false, .flag false]).addClient ⟨.empty, .ofNat 0, [], none, false⟩).performAll 0
      requests
    let x := Context.empty.insert "k" (.boolean true)
    (a.variant 0).binding.map Binding.client = some 0 ∧
      ((Run.evaluate (Run.runProgram 2) 0 (some x) none).run a).1 = .ok ⟨"false", false⟩ ∧
      ((Run.evaluate (Run.runProgram 2) 0 none none).run
        (a.under 0 ((a.client 0).globalContext.overlay? (some x)))).1 = .ok ⟨"true", false⟩ := by
  decide +kernel

end Application

end FeatureFlags
