import FeatureFlags.Client.Perform
import FeatureFlags.Proofs.Change
import FeatureFlags.Proofs.Operators

/-!
# What a computation does

The conduct of a computation is the list of its acts in order (`Conduct`): events that it emits,
changes of clients and variants, and runs of user code. What user code does while it runs is not an
act of the computation, so both can be told apart at any nesting of evaluations.

`Conducts` says which acts a computation can have and how it can end, from any application; it is
closed under sequencing, conditionals and loops. For instance a condition is evaluated without a
delivery (`Conducts.decide`), handlers are called without one (`Conducts.spread`), and an evaluation
ends early only if user code does (`Conducts.evaluate`).
-/

namespace FeatureFlags

/-- A change of the names and bindings of variants. -/
inductive Change where
  /-- A variant was added to a client under a name. It is new if it was made for this. -/
  | added (c : ClientId) (name : String) (h : Handle) (isNew : Bool)
  /-- Experiments were put in force, and all variants of the client were bound to them. -/
  | configured (c : ClientId) (models : List ExperimentModel)
  deriving DecidableEq, Repr

/-- Whether a change adds only new variants and those that its client may be given. -/
def Change.Within (may : ClientId → Handle → Prop) : Change → Prop
  | added c _ h isNew => isNew = false → may c h
  | configured .. => True

instance {may : ClientId → Handle → Prop} [∀ c h, Decidable (may c h)] :
    (k : Change) → Decidable (k.Within may)
  | .added c _ h isNew => inferInstanceAs (Decidable (isNew = false → may c h))
  | .configured .. => .isTrue trivial

/-- Whether a change adds a variant made for it. -/
def Change.isNew : Change → Bool
  | added _ _ _ isNew => isNew
  | configured .. => false

theorem Change.Within.mono {may may' : ClientId → Handle → Prop} {k : Change} (hk : k.Within may)
    (h : ∀ c g, may c g → may' c g) : k.Within may' := by
  cases k with
  | added c name g isNew => exact fun hn => h c g (hk hn)
  | configured c models => trivial

inductive Act where
  /-- An event is emitted. -/
  | event (e : Event)
  /-- A client is changed in a way that concerns neither variants nor experiments. -/
  | arranged (c : ClientId)
  /-- Names and bindings are changed. -/
  | changed (k : Change)
  /-- User code is run, with the given result. -/
  | code (p : Program) (r : Except Stop Value)

/-- What a change of a client keeps that concerns neither variants nor experiments. -/
structure Client.Arranges (f : Client → Client) : Prop where
  flags : ∀ s, (f s).flags = s.flags
  experiments : ∀ s, (f s).experiments = s.experiments
  globalContext : ∀ s, (f s).globalContext = s.globalContext

theorem Client.Arranges.operator (name : String) (o : CustomOperator) :
    Arranges fun s => { s with operators := s.operators.insert name o } :=
  ⟨fun _ => rfl, fun _ => rfl, fun _ => rfl⟩

/-- A client with one more operator, which can replace another one. -/
def Client.withOperator (s : Client) (name : String) (o : CustomOperator) : Client :=
  { s with operators := s.operators.insert name o }

theorem Application.Run.addOperator_run {a : Application} {c : ClientId} {name : String}
    {o : CustomOperator} : ∃ es, (addOperator c name o).run a =
      (.ok (), (a.modifyClient c (·.withOperator name o)).tell es) := by
  have hs : (client c).run a = (.ok (a.client c), a) := rfl
  have hm : (modifyClient c fun s => { s with operators := s.operators.insert name o }).run a =
    (.ok (), a.modifyClient c (·.withOperator name o)) := rfl
  unfold addOperator
  rw [run_bind_ok hs, run_bind_ok hm]
  split
  · exact ⟨_, rfl⟩
  · exact ⟨[], by rw [tell_nil]; rfl⟩

theorem Client.Arranges.claim (nameSpace : String) : Arranges (·.claim nameSpace) :=
  ⟨fun _ => rfl, fun _ => rfl, fun _ => rfl⟩

/-- The addition with which a request for a name begins, if there is no variant of the name. -/
def Application.firstAdded (a : Application) (c : ClientId) (name : String) : List Change :=
  match a.findFlag? c name with
  | some _ => []
  | none => [.added c name a.variants.length true]

namespace Application

/-- The possible results of running user code. -/
abbrev Ran := Program → Application → Except Stop Value × Application → Prop

/-- The effect of an act on an application. -/
inductive Step (ran : Ran) : Application → Act → Application → Prop
  | event (a : Application) (e : Event) : Step ran a (.event e) (a.tell [e])
  | arranged (a : Application) (c : ClientId) {f : Client → Client} (hf : Client.Arranges f) :
    Step ran a (.arranged c) (a.modifyClient c f)
  | added (a : Application) (c : ClientId) (name : String) (h : Handle) :
    Step ran a (.changed (.added c name h false)) (a.add c name h)
  | made (a : Application) (c : ClientId) (name : String) {v : Variant} (hn : v.name? = none)
    (hb : v.binding = none) :
    Step ran a (.changed (.added c name a.variants.length true)) (a.make c name v)
  | configured (a : Application) (c : ClientId) (models : List ExperimentModel) :
    Step ran a (.changed (.configured c models)) (a.configure c (.ofModels models))
  | code {a b : Application} {p : Program} {r : Except Stop Value} (h : ran p a (r, b)) :
    Step ran a (.code p r) b

/-- Several acts in sequence. -/
inductive Conduct (ran : Ran) : Application → List Act → Application → Prop
  | nil (a : Application) : Conduct ran a [] a
  | cons {a b d : Application} {t : Act} {acts : List Act} (hs : Step ran a t b)
    (h : Conduct ran b acts d) : Conduct ran a (t :: acts) d

namespace Conduct

variable {ran : Ran} {a b d : Application} {s t : List Act}

theorem append (h : Conduct ran a s b) (h' : Conduct ran b t d) : Conduct ran a (s ++ t) d := by
  induction h with
  | nil => exact h'
  | cons hs _ ih => exact .cons hs (ih h')

theorem one {x : Act} (h : Step ran a x b) : Conduct ran a [x] b := .cons h (.nil b)

theorem tell (a : Application) (es : List Event) : Conduct ran a (es.map .event) (a.tell es) := by
  induction es generalizing a with
  | nil =>
    rw [Run.tell_nil]
    exact .nil a
  | cons e rest ih =>
    have h := ih (a.tell [e])
    rw [Run.tell_tell] at h
    exact .cons (.event a e) h

end Conduct

end Application

/-! ## Acts of computations -/

/-- The acts of a computation, which is one that delivers impressions or one that does not. -/
def Act.Allowed (delivers : Prop) : Act → Prop
  | .event e => e.isDelivery = true → delivers
  | _ => True

namespace Delivery

variable {m : Type → Type} {ρ : Type} [Monad m]

/-- The part of a delivery after its first event. -/
def spread (d : Delivery m ρ) (i : Impression) : m Unit := do
  let hub ← d.hub
  hub.handlers.forM (d.dispatch i)
  d.analyse i

theorem deliver_eq (d : Delivery m ρ) (i : Impression) :
    d.deliver i = d.emit (.reported (.deliveringImpression i)) >>= fun _ => d.spread i := rfl

end Delivery

namespace Application

/-- How a computation ends: with a result of a kind, or early, and then its last act is user code that
ended early. -/
def Ends {α : Type} (R : α → Prop) (acts : List Act) : Except Stop α → Prop
  | .ok v => R v
  | .error e => ∃ p, acts.getLast? = some (.code p (.error e))

/-- The results of a given runner. -/
def comes (run : Runner) : Ran := fun p a o => (run p).run a = o

/-- From any application, the acts of a computation are allowed, and its result, if there is one, is of
a kind. -/
def Conducts {α : Type} (delivers : Prop) (run : Runner) (x : Run α) (R : α → Prop) : Prop :=
  ∀ a, ∃ acts, Conduct (comes run) a acts (x.run a).2 ∧ (∀ t ∈ acts, t.Allowed delivers) ∧
    Ends R acts (x.run a).1

theorem isDelivery_reports {v : Variant} {o : Outcome} :
    ∀ d ∈ v.reports o, (Event.reported d).isDelivery = false := by
  intro d hd
  rcases List.mem_append.mp hd with hd | hd
  · split at hd
    · cases hd
    · rw [List.mem_singleton.mp hd]
      rfl
  · rw [List.mem_singleton.mp hd]
    rfl

theorem within_firstAdded {may : ClientId → Handle → Prop} {a : Application} {c : ClientId}
    {name : String} : ∀ k ∈ a.firstAdded c name, k.Within may := by
  unfold firstAdded
  split
  · exact List.forall_mem_nil _
  · intro k hk
    rw [List.mem_singleton.mp hk]
    exact fun hn => nomatch hn

/-- A variant asked for by name is found, or made and added. -/
theorem getOrAdd_conduct (ran : Ran) {v : Variant} (a : Application) (c : ClientId) (name : String)
    (hn : v.name? = none) (hb : v.binding = none) :
    ∃ h b es, ((Run.flagStore c).getOrAdd name (Run.create v)).run a = (.ok h, b) ∧ Run.Quiet es ∧
      Conduct ran a (es.map .event ++ (a.firstAdded c name).map .changed) b ∧
      (a.findFlag? c name = some h ∨ a.firstAdded c name = [.added c name h true]) := by
  unfold firstAdded
  cases hf : a.findFlag? c name with
  | some h => exact ⟨h, a, [], Run.getOrAdd_run_of_found hf, .nil, .nil a, .inl rfl⟩
  | none =>
    obtain ⟨es, hes, hr⟩ := @Run.getOrAdd_run a c name v hf
    have hc : Conduct ran a _ _ := (Conduct.tell a es).append (.one (.made _ c name hn hb))
    exact ⟨_, _, es, hr, hes.quiet, hc, .inr rfl⟩

theorem allowed_quiet {delivers : Prop} {es : List Event} (hes : Run.Quiet es) :
    ∀ t ∈ es.map Act.event, t.Allowed delivers := by
  intro t ht
  obtain ⟨e, he, rfl⟩ := List.mem_map.mp ht
  intro hd
  rw [hes e he] at hd
  cases hd

theorem allowed_changed {delivers : Prop} {ks : List Change} :
    ∀ t ∈ ks.map Act.changed, t.Allowed delivers :=
  List.forall_mem_map.mpr fun _ _ => trivial

namespace Conducts

variable {α β : Type} {delivers : Prop} {run : Runner} {R : α → Prop} {S : β → Prop} {c : ClientId}
  {x : Context}

theorem of_run {x : Run α} {v : Application → α} (hx : ∀ a, x.run a = (.ok (v a), a))
    (hv : ∀ a, R (v a)) : Conducts delivers run x R := by
  intro a
  rw [hx a]
  exact ⟨[], .nil a, List.forall_mem_nil _, hv a⟩

theorem pure' {v : α} (hv : R v) : Conducts delivers run (pure v) R :=
  of_run (v := fun _ => v) (fun _ => rfl) fun _ => hv

theorem bind' {x : Run α} {f : α → Run β} (hx : Conducts delivers run x R)
    (hf : ∀ v, R v → Conducts delivers run (f v) S) : Conducts delivers run (x >>= f) S := by
  intro a
  obtain ⟨s, hs, hqs, he⟩ := hx a
  rcases hr : x.run a with ⟨r, b⟩
  rw [hr] at hs he
  cases r with
  | ok v =>
    obtain ⟨t, ht, hqt, he'⟩ := hf v he b
    rw [Run.run_bind_ok hr]
    refine ⟨s ++ t, hs.append ht, List.forall_mem_append.mpr ⟨hqs, hqt⟩, ?_⟩
    -- what ended the second computation is still the last act of both
    cases hr' : ((f v).run b).1 with
    | ok w =>
      rw [hr'] at he'
      exact he'
    | error e =>
      rw [hr'] at he'
      obtain ⟨p, hp⟩ := he'
      exact ⟨p, by rw [List.getLast?_append, hp]; rfl⟩
  | error e =>
    rw [Run.run_bind_error hr]
    exact ⟨s, hs, hqs, he⟩

/-- A computation that ends early was stopped by its last act, user code. -/
theorem code_of_stopped {x : Run α} {a b : Application} {e : Stop} (hx : Conducts delivers run x R)
    (hr : x.run a = (.error e, b)) :
    ∃ acts p, Conduct (comes run) a acts b ∧ acts.getLast? = some (.code p (.error e)) := by
  obtain ⟨acts, hacts, -, he⟩ := hx a
  rw [hr] at hacts he
  obtain ⟨p, hp⟩ := he
  exact ⟨acts, p, hacts, hp⟩

theorem ite' {p : Prop} [Decidable p] {x y : Run α} (hx : p → Conducts delivers run x R)
    (hy : ¬p → Conducts delivers run y R) : Conducts delivers run (if p then x else y) R := by
  split
  · exact hx ‹_›
  · exact hy ‹_›

theorem forM' {l : List α} {f : α → Run Unit}
    (hf : ∀ x, Conducts delivers run (f x) fun _ => True) :
    Conducts delivers run (l.forM f) fun _ => True := by
  induction l with
  | nil => exact pure' trivial
  | cons x rest ih =>
    have hr : Conducts delivers run (rest.forM f) fun _ => True := ih
    exact bind' (hf x) fun _ _ => hr

theorem emit {e : Event} (he : e.isDelivery = true → delivers) :
    Conducts delivers run (Run.emit e) fun _ => True := by
  intro a
  exact ⟨[.event e], .one (.event a e), List.forall_mem_singleton.mpr he, trivial⟩

theorem report {d : Diagnostic} (hd : (Event.reported d).isDelivery = false) :
    Conducts delivers run (Run.report d) fun _ => True :=
  emit fun h => by rw [hd] at h; cases h

theorem client : Conducts delivers run (Run.client c) fun _ => True :=
  of_run (v := fun a => a.client c) (fun _ => rfl) fun _ => trivial

theorem reports {v : Variant} {o : Outcome} :
    Conducts delivers run ((v.reports o).forM Run.report) fun _ => True := by
  intro a
  rw [Run.forM_report_run (f := fun d => d)]
  exact ⟨_, .tell a _, allowed_quiet (.reported isDelivery_reports), trivial⟩

theorem getOrAdd {name : String} {v : Variant} (hn : v.name? = none) (hb : v.binding = none) :
    Conducts delivers run ((Run.flagStore c).getOrAdd name (Run.create v)) fun _ => True := by
  intro a
  obtain ⟨h, b, es, hr, hes, hg, -⟩ := getOrAdd_conduct (comes run) a c name hn hb
  rw [hr]
  exact ⟨_, hg, List.forall_mem_append.mpr ⟨allowed_quiet hes, allowed_changed⟩, trivial⟩

/-! ### Standard operators -/

theorem builtin {now : Number} {name : String} {o : Operator Run}
    (ho : (OperatorTable.builtin now : OperatorTable Run).find? name = some o) :
    ∃ arity f, o = .ofFunction arity f := by
  rw [OperatorTable.find?_builtin, Option.map_eq_some_iff] at ho
  obtain ⟨⟨arity, f⟩, -, rfl⟩ := ho
  exact ⟨arity, f, rfl⟩

theorem find?_standardOperators {s : Client} {name : String} :
    (s.standardOperators c).find? name =
      if name = "property" then
        some (.customProperty fun name => return (← Run.client c).properties.find? name)
      else if name = "match" then some (.matching Run.report)
      else (OperatorTable.builtin s.now).find? name := OperatorTable.find?_standard

/-- A standard operator is the one for custom properties, the one that matches, or a function of its
arguments. -/
theorem standardOperator_cases {s : Client} {name : String} {o : Operator Run}
    (ho : (s.standardOperators c).find? name = some o) :
    o = .customProperty (fun name => return (← Run.client c).properties.find? name) ∨
      o = .matching Run.report ∨ ∃ arity f, o = .ofFunction arity f := by
  rw [find?_standardOperators] at ho
  split at ho
  · exact .inl (Option.some.inj ho).symm
  · split at ho
    · exact .inr (.inl (Option.some.inj ho).symm)
    · exact .inr (.inr (builtin ho))

theorem standardOperator {s : Client} {name : String} {o : Operator Run}
    (ho : (s.standardOperators c).find? name = some o) (args : List Value) :
    Conducts delivers run (o.run args x) fun _ => True := by
  rcases standardOperator_cases ho with rfl | rfl | ⟨arity, f, rfl⟩
  · unfold Operator.customProperty
    dsimp only
    split
    · refine bind' (bind' client fun s _ => pure' (R := fun _ => True) trivial) fun p _ => ?_
      cases p <;> exact pure' trivial
    · exact pure' trivial
  · unfold Operator.matching
    dsimp only
    split
    · split
      · exact pure' trivial
      · exact bind' (report rfl) fun _ _ => pure' trivial
    · exact pure' trivial
  · exact pure' trivial

/-! ### User code -/

theorem code {p : Program} : Conducts delivers run (run p) fun _ => True := by
  intro a
  refine ⟨[.code p ((run p).run a).1], .one (.code rfl), List.forall_mem_singleton.mpr trivial, ?_⟩
  cases ((run p).run a).1 with
  | ok v => trivial
  | error e => exact ⟨p, rfl⟩

/-- A failure of user code is caught; nesting that is too deep is not. -/
theorem succeeds {p : Program} : Conducts delivers run (Run.succeeds run p) fun _ => True := by
  intro a
  rcases hp : (run p).run a with ⟨r, b⟩
  have hcode : Conduct (comes run) a [.code p r] b := .one (.code hp)
  have hall : ∀ t ∈ [Act.code p r], t.Allowed delivers := List.forall_mem_singleton.mpr trivial
  unfold Run.succeeds
  cases r with
  | ok v =>
    have hx : (run p >>= fun _ => (pure true : Run Bool)).run a = (.ok true, b) := by
      rw [Run.run_bind_ok hp]
      rfl
    rw [Run.run_tryCatch, hx]
    exact ⟨_, hcode, hall, trivial⟩
  | error e =>
    -- only nesting that is too deep ends the computation
    have hx : (run p >>= fun _ => (pure true : Run Bool)).run a = (.error e, b) :=
      Run.run_bind_error hp
    rw [Run.run_tryCatch, hx]
    cases e with
    | failed => exact ⟨_, hcode, hall, trivial⟩
    | nestedTooDeeply => exact ⟨_, hcode, hall, p, rfl⟩

/-! ### Conditions -/

theorem lookup {name : String} : Conducts delivers run ((Run.surroundings run c).lookup name)
    fun o => ∀ o', o = some o' → ∀ args x, Conducts delivers run (o'.run args x) fun _ => True := by
  refine bind' client fun s _ => pure' fun o ho args x => ?_
  unfold Client.operator? at ho
  split at ho
  · cases ho
    exact code
  · exact standardOperator ho args

theorem apply {expression name : String} {args : List Value} :
    Conducts delivers run ((Run.surroundings run c).apply expression x name args) fun _ => True := by
  refine bind' lookup fun o ho => ?_
  cases o with
  | none => exact bind' (report rfl) fun _ _ => pure' trivial
  | some o => exact ite' (fun _ => ho o rfl args x) fun _ => pure' trivial

theorem run_nodes {expression : String} {nodes : List Node} {stack : Stack} :
    Conducts delivers run ((Run.surroundings run c).run expression x nodes stack) fun _ => True := by
  induction nodes generalizing stack with
  | nil => exact pure' trivial
  | cons n rest ih =>
    cases n with
    | operand v => exact ih
    | operator name arity =>
      unfold Surroundings.run
      split
      · exact pure' trivial
      · exact bind' apply fun _ _ => ih

theorem conclude {expression : String} {stack : Option Stack} :
    Conducts delivers run ((Run.surroundings run c).conclude expression stack) fun _ => True := by
  unfold Surroundings.conclude
  split
  · exact bind' (report rfl) fun _ _ => pure' trivial
  · split
    · exact pure' trivial
    · exact bind' (report rfl) fun _ _ => pure' trivial

theorem evaluate_condition {expression : String} :
    Conducts delivers run ((Run.surroundings run c).evaluate expression x) fun _ => True := by
  unfold Surroundings.evaluate
  split
  · exact bind' (report rfl) fun _ _ => pure' trivial
  · exact bind' run_nodes fun _ _ => conclude

theorem decide {m : Option ExperimentModel} :
    Conducts delivers run (Run.decide run c m x) fun _ => True := by
  cases m with
  | none => exact pure' trivial
  | some m => exact bind' evaluate_condition fun _ _ => pure' trivial

/-! ### Deliveries -/

theorem dispatch {i : Impression} {h : Handler Program} :
    Conducts delivers run ((Run.delivery run c).dispatch i h) fun _ => True := by
  refine bind' (emit fun he => nomatch he) fun _ _ => bind' succeeds fun b _ => ?_
  exact ite' (fun _ => report rfl) fun _ => pure' trivial

theorem hub : Conducts delivers run (Run.delivery run c).hub fun _ => True :=
  bind' client fun _ _ => pure' trivial

theorem analyse {i : Impression} :
    Conducts delivers run ((Run.delivery run c).analyse i) fun _ => True := by
  refine bind' hub fun hub _ => ?_
  cases hub.sink with
  | none => exact pure' trivial
  | some sink =>
    refine ite' (fun _ => ?_) fun _ => pure' trivial
    refine bind' (emit fun he => nomatch he) fun _ _ => ?_
    exact ite' (fun _ => dispatch) fun _ => pure' trivial

/-- After its first event a delivery begins no other one by itself. -/
theorem spread {i : Impression} :
    Conducts delivers run ((Run.delivery run c).spread i) fun _ => True :=
  bind' hub fun _ _ => bind' (forM' fun _ => dispatch) fun _ _ => analyse

/-! ### Requests for values -/

section Requests

variable (hd : delivers)
include hd

theorem evaluate {h : Handle} {x : Option Context} {default : Option String} :
    Conducts delivers run (Run.evaluate run h x default) fun _ => True := by
  have hv : Conducts delivers run (Run.variant h) fun _ => True :=
    of_run (v := fun a => a.variant h) (fun _ => rfl) fun _ => trivial
  refine bind' hv fun v _ => ?_
  split
  · exact bind' reports fun _ _ => pure' trivial
  · refine bind' client fun s _ => bind' decide fun decided _ => bind' reports fun _ _ => ?_
    exact bind' (bind' (emit fun _ => hd) fun _ _ => spread) fun _ _ => pure' trivial

theorem valueOf {name default : String} {v : Variant} {x : Option Context} (hn : v.name? = none)
    (hb : v.binding = none) : Conducts delivers run (Run.valueOf run c name default v x) fun _ => True :=
  bind' (getOrAdd hn hb) fun _ _ => bind' (evaluate hd) fun _ _ => pure' trivial

end Requests

end Conducts

end Application

end FeatureFlags
