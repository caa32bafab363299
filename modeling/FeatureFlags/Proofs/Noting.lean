import FeatureFlags.Proofs.Performing
import Mathlib.Data.List.Induction

/-!
# Runs that are written down

The responses and the final application do not show which requests user code made during a run, nor
what the operators in conditions yielded. So a run is repeated on an application and a list of notes
(`Application.Noted`). There is a note for each request when a client begins it (`Note.asked`) and
when it is answered (`Note.answered`), and one for each operator that a condition runs (`Note.ran`).

`Noted.lift` embeds the computations that run no user code. The remaining definitions repeat those
of `Run.evaluate`, `Run.answer`, `Run.follow` and `Run.runProgram`, and do the same (`Retells`):
notes are only added, and the application and the responses do not depend on them (`callAll_noted`).
`Upheld` lists what has to be shown for an invariant of application and notes: one case for each
kind of note.
-/

namespace FeatureFlags

/-- A note on a run. -/
inductive Note where
  /-- A client begins to carry out a request, made from outside or by user code. -/
  | asked (c : ClientId) (r : Request Program)
  /-- A client answers a request. -/
  | answered (c : ClientId) (r : Request Program) (x : Response)
  /-- A condition, which is evaluated for a client with a context laid over that of the client, has run
  an operator. -/
  | ran (c : ClientId) (x : Option Context) (name : String) (args : List Value) (v : Value)

namespace Application

/-- A computation on an application and a list of notes. -/
abbrev Noted (α : Type) := ExceptT Stop (StateM (Application × List Note)) α

/-- A function that runs user code and takes notes. -/
abbrev NotedRunner := Program → Noted Value

namespace Noted

/-- A computation on the application alone. -/
def lift {α : Type} (x : Run α) : Noted α :=
  ExceptT.mk fun s => ((x.run s.1).1, (x.run s.1).2, s.2)

def note (n : Note) : Noted Unit := modify fun s => (s.1, s.2 ++ [n])

/-! ## Conditions -/

/-- An operator that is run by a condition for a client with a context, with a note of the run. -/
def noting (c : ClientId) (x : Option Context) (name : String) (o : Operator Noted) : Operator Noted :=
  ⟨o.arity, fun args merged => do
    let v ← o.run args merged
    note (.ran c x name args v)
    pure v⟩

/-- The operator of a name; a custom operator takes precedence. -/
def operator? (run : NotedRunner) (s : Client) (c : ClientId) (name : String) :
    Option (Operator Noted) :=
  match s.operators.find? name with
  | some o => some ⟨o.arity, fun args merged => run (o.run args merged)⟩
  | none => ((s.standardOperators c).find? name).map fun o =>
      ⟨o.arity, fun args merged => lift (o.run args merged)⟩

def surroundings (run : NotedRunner) (c : ClientId) (x : Option Context) : Surroundings Noted :=
  { lookup := fun name =>
      return (operator? run (← lift (Run.client c)) c name).map (noting c x name)
    report := fun d => lift (Run.report d) }

def decide (run : NotedRunner) (c : ClientId) (x : Option Context) (m : Option ExperimentModel)
    (merged : Context) : Noted (Option String) :=
  match m with
  | none => pure none
  | some m => return (← (surroundings run c x).evaluate m.condition merged).render

/-! ## Evaluations -/

def succeeds (run : NotedRunner) (p : Program) : Noted Bool :=
  tryCatch (do let _ ← run p; pure true) fun
    | .failed => pure false
    | .nestedTooDeeply => throw .nestedTooDeeply

def delivery (run : NotedRunner) (c : ClientId) : Delivery Noted Program :=
  { hub := return (← lift (Run.client c)).hub
    perform := succeeds run
    emit := fun e => lift (Run.emit e) }

def evaluate (run : NotedRunner) (h : Handle) (x : Option Context) (default : Option String) :
    Noted Outcome := do
  let v ← lift (Run.variant h)
  match v.binding with
  | none =>
    let o := v.outcome default none
    lift ((v.reports o).forM Run.report)
    pure o
  | some b =>
    let merged := (← lift (Run.client b.client)).globalContext.overlay? x
    let decided ← decide run b.client x b.experiment merged
    let o := v.outcome default decided
    lift ((v.reports o).forM Run.report)
    (delivery run b.client).deliver ⟨v.name, o.value, v.experiment, merged⟩
    pure o

/-- The value of the variant of a name, which is added if it is missing. -/
def valueOf (run : NotedRunner) (c : ClientId) (name default : String) (v : Variant)
    (x : Option Context) : Noted String := do
  let h ← lift ((Run.flagStore c).getOrAdd name (Run.create v))
  return (← evaluate run h x (some default)).value

def isEnabled (run : NotedRunner) (c : ClientId) (name : String) (default : Bool)
    (x : Option Context) : Noted Bool :=
  return (← valueOf run c name (Value.booleanText default) (.flag default) x) == "true"

/-! ## Requests -/

def carryOut (run : NotedRunner) (c : ClientId) : Request Program → Noted Response
  | .isEnabled name default x => return .decided (← isEnabled run c name default x)
  | .value name default options x =>
    return .text (← valueOf run c name default (.make default options) x)
  | .evaluate h x => return .outcome (← evaluate run h x none)
  -- no other request runs user code
  | r => lift (Run.answer (fun _ => throw .failed) c r)

/-- Carries out a request, with notes when it begins and when it is answered. -/
def answer (run : NotedRunner) (c : ClientId) (r : Request Program) : Noted Response := do
  note (.asked c r)
  let x ← carryOut run c r
  note (.answered c r x)
  pure x

/-- Runs user code, with nested user code run by `run`. -/
def follow (run : NotedRunner) : Program → Noted Value
  | .done v => pure v
  | .fail => throw .failed
  | .request c r next => do
    let a ← answer run c r
    follow run (next a)

/-- Runs user code with at most `limit` levels of nesting. -/
def runProgram : (limit : Nat) → NotedRunner
  | 0 => fun _ => throw .nestedTooDeeply
  | limit + 1 => follow (runProgram limit)

def call (k : Call) : Noted Response := answer (runProgram k.limit) k.client k.request

/-- Carries out requests in sequence. -/
def callAll (s : Application × List Note) (calls : List Call) : Application × List Note :=
  calls.foldl (fun s k => ((call k).run s).2) s

end Noted

namespace Noted

theorem carryOut_of_not_evaluates {run : NotedRunner} {run' : Runner} {c : ClientId}
    {r : Request Program} (hr : r.evaluates = false) :
    carryOut run c r = lift (Run.answer run' c r) := by
  cases r <;> first | rfl | cases hr

theorem callAll_append {s : Application × List Note} {calls more : List Call} :
    callAll s (calls ++ more) = callAll (callAll s calls) more := List.foldl_append

end Noted

/-- The notes of a run of requests in sequence. -/
def notes (a : Application) (calls : List Call) : List Note := (Noted.callAll (a, []) calls).2

/-! ## Taking notes changes nothing -/

/-- From an application, a computation does what another one does and appends notes, after which a
property holds. -/
def RetellsFrom {α : Type} (I : Application → List Note → Prop) (a : Application) (T : List Note)
    (x : Noted α) (y : Run α) : Prop :=
  ∃ N, x.run (a, T) = ((y.run a).1, (y.run a).2, T ++ N) ∧ I (y.run a).2 (T ++ N)

/-- The same from wherever the property holds. -/
def Retells {α : Type} (I : Application → List Note → Prop) (x : Noted α) (y : Run α) : Prop :=
  ∀ a T, I a T → RetellsFrom I a T x y

namespace Retells

variable {α β : Type} {I : Application → List Note → Prop} {a : Application} {T : List Note}

theorem of_still {x : Noted α} {y : Run α} {r : Except Stop α} (hx : ∀ s, x.run s = (r, s))
    (hy : ∀ a, y.run a = (r, a)) : Retells I x y := by
  intro a T hI
  rw [RetellsFrom, hx, hy]
  exact ⟨[], by rw [List.append_nil], by rwa [List.append_nil]⟩

theorem pure' {v : α} : Retells I (pure v) (pure v) := of_still (fun _ => rfl) fun _ => rfl

theorem throw' {e : Stop} : Retells I (throw e : Noted α) (throw e) :=
  of_still (fun _ => rfl) fun _ => rfl

theorem bind_from {x : Noted α} {y : Run α} {f : α → Noted β} {g : α → Run β}
    (hx : RetellsFrom I a T x y) (hf : ∀ v, Retells I (f v) (g v)) :
    RetellsFrom I a T (x >>= f) (y >>= g) := by
  obtain ⟨N, hr, hk⟩ := hx
  rcases hy : y.run a with ⟨e | v, b⟩
  · rw [hy] at hr hk
    rw [RetellsFrom, Run.run_bind_error hr, Run.run_bind_error hy]
    exact ⟨N, rfl, hk⟩
  · rw [hy] at hr hk
    obtain ⟨N', hr', hk'⟩ := hf v b (T ++ N) hk
    rw [RetellsFrom, Run.run_bind_ok hr, Run.run_bind_ok hy, hr']
    exact ⟨N ++ N', by rw [List.append_assoc], by rwa [← List.append_assoc]⟩

theorem bind' {x : Noted α} {y : Run α} {f : α → Noted β} {g : α → Run β} (hx : Retells I x y)
    (hf : ∀ v, Retells I (f v) (g v)) : Retells I (x >>= f) (y >>= g) :=
  fun a T h => bind_from (hx a T h) hf

theorem ite' {p : Prop} [Decidable p] {x x' : Noted α} {y y' : Run α} (hx : p → Retells I x y)
    (hy : ¬p → Retells I x' y') : Retells I (if p then x else x') (if p then y else y') := by
  split
  · exact hx ‹_›
  · exact hy ‹_›

theorem forM' {l : List α} {f : α → Noted Unit} {g : α → Run Unit}
    (h : ∀ v ∈ l, Retells I (f v) (g v)) : Retells I (l.forM f) (l.forM g) := by
  induction l with
  | nil => exact pure'
  | cons v rest ih =>
    have hr : Retells I (rest.forM f) (rest.forM g) := ih fun w hw => h w (List.mem_cons_of_mem _ hw)
    exact bind' (h v List.mem_cons_self) fun _ => hr

theorem lift_from {y : Run α} (hy : I (y.run a).2 T) : RetellsFrom I a T (Noted.lift y) y :=
  ⟨[], by rw [List.append_nil]; rfl, by rwa [List.append_nil]⟩

theorem note_first {x : Noted α} {y : Run α} {n : Note} (hx : RetellsFrom I a (T ++ [n]) x y) :
    RetellsFrom I a T (Noted.note n >>= fun _ => x) y := by
  obtain ⟨N, hr, hk⟩ := hx
  have hn : (Noted.note n).run (a, T) = (.ok (), a, T ++ [n]) := rfl
  rw [List.append_assoc, List.singleton_append] at hr hk
  rw [RetellsFrom, Run.run_bind_ok hn, hr]
  exact ⟨n :: N, rfl, hk⟩

/-- A result is noted, if there is one. -/
theorem note_result {x : Noted α} {y : Run α} (n : α → Note) (hx : RetellsFrom I a T x y)
    (hn : ∀ N v b, x.run (a, T) = (.ok v, b, T ++ N) → y.run a = (.ok v, b) → I b (T ++ N) →
      I b (T ++ N ++ [n v])) :
    RetellsFrom I a T (x >>= fun v => Noted.note (n v) >>= fun _ => pure v) y := by
  obtain ⟨N, hr, hk⟩ := hx
  unfold RetellsFrom
  rcases hy : y.run a with ⟨e | v, b⟩
  · rw [hy] at hr hk
    rw [Run.run_bind_error hr]
    exact ⟨N, rfl, hk⟩
  · rw [hy] at hr hk
    have hw : (Noted.note (n v) >>= fun _ => (pure v : Noted α)).run (b, T ++ N) =
      (.ok v, b, T ++ N ++ [n v]) := rfl
    rw [Run.run_bind_ok hr, hw]
    exact ⟨N ++ [n v], by rw [List.append_assoc],
      by rw [← List.append_assoc]; exact hn N v b hr hy hk⟩

theorem operator_call (o : Operator Noted) (o' : Operator Run) {args : List Value} {x : Context}
    (h : I a T) (ha : o.arity = o'.arity)
    (ho : o'.arity.accepts args.length = true → RetellsFrom I a T (o.run args x) (o'.run args x)) :
    RetellsFrom I a T (o.call args x) (o'.call args x) := by
  unfold Operator.call
  rw [ha]
  split
  · exact ho ‹_›
  · exact pure' a T h

theorem succeeds {run : NotedRunner} {run' : Runner} {p : Program} (hp : Retells I (run p) (run' p)) :
    Retells I (Noted.succeeds run p) (Run.succeeds run' p) := by
  intro a T hI
  obtain ⟨N, hr, hk⟩ := bind' (f := fun _ => pure true) (g := fun _ => pure true) hp
    (fun _ => pure') a T hI
  unfold RetellsFrom Noted.succeeds Run.succeeds
  rw [Run.run_tryCatch, Run.run_tryCatch]
  rcases hy : (run' p >>= fun _ => (pure true : Run Bool)).run a with ⟨e | v, b⟩
  · rw [hy] at hr hk
    rw [hr]
    cases e <;> exact ⟨N, rfl, hk⟩
  · rw [hy] at hr hk
    rw [hr]
    exact ⟨N, rfl, hk⟩

end Retells

end Application

/-- The value of a custom property in a context; `find?` looks it up. -/
def CustomProperty.answer (find? : String → Option CustomProperty) (args : List Value) (x : Context) :
    Value :=
  match args with
  | [.text name] => .ofOption ((find? name).map (·.value x))
  | _ => .undefined

namespace Application

/-! ## Standard operators -/

theorem Run.customProperty_run {a : Application} {c : ClientId} {args : List Value} {x : Context} :
    ((Operator.customProperty fun name =>
        return (← Run.client c).properties.find? name).run args x).run a =
      (.ok (CustomProperty.answer (a.client c).properties.find? args x), a) := by
  unfold Operator.customProperty
  dsimp only
  split
  · rename_i name
    have hf : (Run.client c >>= fun s => pure (s.properties.find? name)).run a =
      (.ok ((a.client c).properties.find? name), a) := rfl
    rw [Run.run_bind_ok hf, CustomProperty.answer]
    cases (a.client c).properties.find? name <;> rfl
  · rename_i hargs
    rw [CustomProperty.answer]
    · rfl
    · exact hargs

/-- The standard operators emit reports at most. -/
theorem run_standardOperator_snd {a : Application} {s : Client} {c : ClientId} {name : String}
    {o : Operator Run} (ho : (s.standardOperators c).find? name = some o) (args : List Value)
    (x : Context) : ∃ es, ((o.run args x).run a).2 = a.tell es := by
  have hstill : ∃ es, a = a.tell es := ⟨[], Run.tell_nil.symm⟩
  rcases Conducts.standardOperator_cases ho with rfl | rfl | ⟨arity, f, rfl⟩
  · rw [Run.customProperty_run]
    exact hstill
  · unfold Operator.matching
    dsimp only
    split
    · split
      · exact hstill
      · exact ⟨_, rfl⟩
    · exact hstill
  · exact hstill

/-! ## Invariants -/

/-- An invariant of the application and the notes, for every run from the application `s`. -/
structure Upheld (s : Application) (I : Application → List Note → Prop) : Prop where
  tell : ∀ {a T}, I a T → ∀ es, I (a.tell es) T
  /-- A request that runs no user code is carried out at once. -/
  performed : ∀ {a b T c r x}, I a T → a.Performs c r x b → I b (T ++ [.asked c r] ++ [.answered c r x])
  begun : ∀ {a b T c r}, I a T → a.Begins c r b → I b (T ++ [.asked c r])
  ended : ∀ {a T c r x}, I a T → r.evaluates = true → I a (T ++ [.answered c r x])
  /-- A custom operator has been run, during which further notes were taken. -/
  custom : ∀ {a b T N c name o}, I a T → (a.client c).operators.find? name = some o →
    I b (T ++ N) → ∀ x args v, I b (T ++ N ++ [.ran c x name args v])
  /-- A standard operator has been run in the context of the evaluation. -/
  standard : ∀ {a b T c x name o args v}, I a T → (a.client c).operators.find? name = none →
    ((a.client c).standardOperators c).find? name = some o → o.arity.accepts args.length = true →
    (o.run args ((s.client c).globalContext.overlay? x)).run a = (.ok v, b) → I b T →
    I b (T ++ [.ran c x name args v])

/-- The invariant, and the global contexts of all clients, which never change. -/
structure Kept (s : Application) (I : Application → List Note → Prop) (a : Application)
    (T : List Note) : Prop where
  globalContext : ∀ c, (a.client c).globalContext = (s.client c).globalContext
  kept : I a T

namespace Retells

variable {α β : Type} {s a : Application} {I : Application → List Note → Prop} {T : List Note}
  {run : NotedRunner} {run' : Runner} {c : ClientId} {x : Option Context}

section Taken

variable (hI : Upheld s I)
include hI

theorem kept_tell (h : Kept s I a T) (es : List Event) : Kept s I (a.tell es) T :=
  ⟨h.globalContext, hI.tell h.kept es⟩

theorem emit {e : Event} : Retells (Kept s I) (Noted.lift (Run.emit e)) (Run.emit e) :=
  fun _ _ h => lift_from (kept_tell hI h [e])

theorem reports {ds : List Diagnostic} :
    Retells (Kept s I) (Noted.lift (ds.forM Run.report)) (ds.forM Run.report) := by
  intro a T h
  refine lift_from ?_
  rw [Run.forM_report_run (f := fun d => d)]
  exact kept_tell hI h _

omit hI in
/-- The continuation can assume the global context that the client always has. -/
theorem bind_client {f : Client → Noted β} {k : Client → Run β}
    (hf : ∀ t, t.globalContext = (s.client c).globalContext → Retells (Kept s I) (f t) (k t)) :
    Retells (Kept s I) (Noted.lift (Run.client c) >>= f) (Run.client c >>= k) := by
  intro a T h
  have hx : (Noted.lift (Run.client c)).run (a, T) = (.ok (a.client c), a, T) := rfl
  have hy : (Run.client c).run a = (.ok (a.client c), a) := rfl
  rw [RetellsFrom, Run.run_bind_ok hx, Run.run_bind_ok hy]
  exact hf _ (h.globalContext c) a T h

theorem conclude {expression : String} {stack : Option Stack} :
    Retells (Kept s I) ((Noted.surroundings run c x).conclude expression stack)
      ((Run.surroundings run' c).conclude expression stack) := by
  unfold Surroundings.conclude
  split
  · exact bind' (emit hI) fun _ => pure'
  · split
    · exact pure'
    · exact bind' (emit hI) fun _ => pure'

theorem getOrAdd {r : Request Program} {name : String} {v : Variant} (h : Kept s I a T)
    (hr : r.flag? = some (name, v)) :
    RetellsFrom (Kept s I) a (T ++ [.asked c r])
      (Noted.lift ((Run.flagStore c).getOrAdd name (Run.create v)))
      ((Run.flagStore c).getOrAdd name (Run.create v)) := by
  obtain ⟨b, es, hb, hbegins⟩ := begins_of_flag? a c hr
  refine lift_from ?_
  rw [hb]
  refine kept_tell hI ⟨fun d => ?_, hI.begun h.kept hbegins⟩ es
  exact (hbegins.globalContext d).trans (h.globalContext d)

end Taken

/-! ### Conditions -/

section Code

variable (hI : Upheld s I) (hrun : ∀ p, Retells (Kept s I) (run p) (run' p))
include hI hrun

/-- The result of an operator that accepts its arguments is noted. -/
theorem apply {expression name : String} {args : List Value} :
    let merged := (s.client c).globalContext.overlay? x
    Retells (Kept s I) ((Noted.surroundings run c x).apply expression merged name args)
      ((Run.surroundings run' c).apply expression merged name args) := by
  intro merged a T h
  have hx : ((Noted.surroundings run c x).lookup name).run (a, T) =
    (.ok ((Noted.operator? run (a.client c) c name).map (Noted.noting c x name)), a, T) := rfl
  have hy : ((Run.surroundings run' c).lookup name).run a =
    (.ok ((a.client c).operator? run' c name), a) := rfl
  unfold RetellsFrom Surroundings.apply
  rw [Run.run_bind_ok hx, Run.run_bind_ok hy, Noted.operator?, Client.operator?]
  cases ho : (a.client c).operators.find? name with
  | some o =>
    refine operator_call (Noted.noting c x name _) (o.operator run') h rfl fun _ => ?_
    refine note_result _ (hrun (o.run args merged) a T h) fun N v b _ _ hb => ?_
    exact ⟨hb.globalContext, hI.custom h.kept ho hb.kept x args v⟩
  | none =>
    cases hs : ((a.client c).standardOperators c).find? name with
    | none => exact bind' (emit hI) (fun _ => pure') a T h
    | some o =>
      refine operator_call (Noted.noting c x name _) o h rfl fun ha => ?_
      obtain ⟨es, he⟩ := run_standardOperator_snd (a := a) hs args merged
      have hb : Kept s I ((o.run args merged).run a).2 T := he ▸ kept_tell hI h es
      refine note_result (.ran c x name args) (lift_from hb) fun N v b hr hy hk => ?_
      -- no further notes were taken meanwhile
      have hN : T = T ++ N := congrArg (fun p => p.2.2) hr
      obtain rfl : N = [] := List.self_eq_append_right.mp hN
      rw [List.append_nil] at hk ⊢
      exact ⟨hk.globalContext, hI.standard h.kept ho hs ha hy hk.kept⟩

theorem run_nodes {expression : String} {nodes : List Node} {stack : Stack} :
    let merged := (s.client c).globalContext.overlay? x
    Retells (Kept s I) ((Noted.surroundings run c x).run expression merged nodes stack)
      ((Run.surroundings run' c).run expression merged nodes stack) := by
  intro merged
  induction nodes generalizing stack with
  | nil => exact pure'
  | cons n rest ih =>
    cases n with
    | operand v => exact ih
    | operator name arity =>
      unfold Surroundings.run
      split
      · exact pure'
      · exact bind' (apply hI hrun) fun _ => ih

theorem evaluate_condition {expression : String} :
    let merged := (s.client c).globalContext.overlay? x
    Retells (Kept s I) ((Noted.surroundings run c x).evaluate expression merged)
      ((Run.surroundings run' c).evaluate expression merged) := by
  unfold Surroundings.evaluate
  split
  · exact bind' (emit hI) fun _ => pure'
  · exact bind' (run_nodes hI hrun) fun _ => conclude hI

theorem decide {m : Option ExperimentModel} :
    let merged := (s.client c).globalContext.overlay? x
    Retells (Kept s I) (Noted.decide run c x m merged) (Run.decide run' c m merged) := by
  cases m with
  | none => exact pure'
  | some m => exact bind' (evaluate_condition hI hrun) fun _ => pure'

/-! ### Deliveries -/

theorem dispatch {i : Impression} {h : Handler Program} :
    Retells (Kept s I) ((Noted.delivery run c).dispatch i h) ((Run.delivery run' c).dispatch i h) := by
  refine bind' (emit hI) fun _ => bind' (succeeds (hrun _)) fun _ => ?_
  exact ite' (fun _ => emit hI) fun _ => pure'

omit hI hrun in
theorem hub : Retells (Kept s I) (Noted.delivery run c).hub (Run.delivery run' c).hub :=
  bind_client fun _ _ => pure'

theorem analyse {i : Impression} :
    Retells (Kept s I) ((Noted.delivery run c).analyse i) ((Run.delivery run' c).analyse i) := by
  refine bind' hub fun hub => ?_
  cases hub.sink with
  | none => exact pure'
  | some sink =>
    refine ite' (fun _ => bind' (emit hI) fun _ => ?_) fun _ => pure'
    exact ite' (fun _ => dispatch hI hrun) fun _ => pure'

theorem deliver {i : Impression} :
    Retells (Kept s I) ((Noted.delivery run c).deliver i) ((Run.delivery run' c).deliver i) :=
  bind' (emit hI) fun _ => bind' hub fun _ =>
    bind' (forM' fun _ _ => dispatch hI hrun) fun _ => analyse hI hrun

/-! ### Evaluations -/

theorem evaluate {h : Handle} {default : Option String} :
    Retells (Kept s I) (Noted.evaluate run h x default) (Run.evaluate run' h x default) := by
  refine bind' (fun _ _ hk => lift_from hk) fun v => ?_
  cases v.binding with
  | none => exact bind' (reports hI) fun _ => pure'
  | some b =>
    refine bind_client fun t ht => ?_
    rw [ht]
    exact bind' (decide hI hrun) fun _ => bind' (reports hI) fun _ =>
      bind' (deliver hI hrun) fun _ => pure'

/-! ### Requests -/

theorem carryOut {r : Request Program} (h : Kept s I a T) (hr : r.evaluates = true) :
    RetellsFrom (Kept s I) a (T ++ [.asked c r]) (Noted.carryOut run c r) (Run.answer run' c r) := by
  have named : ∀ {name default v x}, r.flag? = some (name, v) →
      RetellsFrom (Kept s I) a (T ++ [.asked c r]) (Noted.valueOf run c name default v x)
        (Run.valueOf run' c name default v x) := fun hf =>
    bind_from (getOrAdd hI h hf) fun _ => bind' (evaluate hI hrun) fun _ => pure'
  cases r with
  | isEnabled name default x => exact bind_from (bind_from (named rfl) fun _ => pure') fun _ => pure'
  | value name default options x => exact bind_from (named rfl) fun _ => pure'
  | evaluate g x =>
    have hbegun : Kept s I a (T ++ [.asked c (.evaluate g x)]) :=
      ⟨h.globalContext, hI.begun h.kept (.held g x)⟩
    exact bind_from (evaluate hI hrun a _ hbegun) fun _ => pure'
  | _ => cases hr

theorem answer {r : Request Program} :
    Retells (Kept s I) (Noted.answer run c r) (Run.answer run' c r) := by
  intro a T h
  refine note_first ?_
  cases hr : r.evaluates with
  | true =>
    refine note_result (.answered c r) (carryOut hI hrun h hr) fun N x b _ _ hk => ?_
    exact ⟨hk.globalContext, hI.ended hk.kept hr⟩
  | false =>
    obtain ⟨x, b, es, hx, hb⟩ := performs run' a c hr
    have hlift : (Noted.carryOut run c r).run (a, T ++ [.asked c r]) =
        (.ok x, b.tell es, T ++ [.asked c r]) := by
      rw [Noted.carryOut_of_not_evaluates hr]
      show (((Run.answer run' c r).run a).1, ((Run.answer run' c r).run a).2, T ++ [.asked c r]) = _
      rw [hx]
    have hb' : Kept s I b (T ++ [.asked c r] ++ [.answered c r x]) :=
      ⟨fun d => (hb.globalContext d).trans (h.globalContext d), hI.performed h.kept hb⟩
    rw [RetellsFrom, Run.run_bind_ok hlift, hx]
    exact ⟨[.answered c r x], rfl, kept_tell hI hb' es⟩

theorem follow (p : Program) :
    Retells (Kept s I) (Noted.follow run p) (Run.follow run' p) := by
  match p with
  | .done v => exact pure'
  | .fail => exact throw'
  | .request c r next => exact bind' (answer hI hrun) fun x => follow (next x)

end Code

theorem runProgram (hI : Upheld s I) (limit : Nat) (p : Program) :
    Retells (Kept s I) (Noted.runProgram limit p) (Run.runProgram limit p) := by
  induction limit generalizing p with
  | zero => exact throw'
  | succ limit ih => exact follow hI ih p

theorem call (hI : Upheld s I) (k : Call) :
    Retells (Kept s I) (Noted.call k) (Run.perform k.limit k.client k.request) :=
  answer hI (runProgram hI k.limit)

theorem callAll (hI : Upheld s I) (h : Kept s I a T) (calls : List Call) :
    ∃ N, Noted.callAll (a, T) calls = (a.callAll calls, T ++ N) ∧
      Kept s I (a.callAll calls) (T ++ N) := by
  induction calls using List.reverseRecOn with
  | nil => exact ⟨[], by rw [List.append_nil]; rfl, by rwa [List.append_nil]⟩
  | append_singleton calls k ih =>
    obtain ⟨N, hr, hk⟩ := ih
    obtain ⟨N', hr', hk'⟩ := call hI k _ _ hk
    rw [Noted.callAll_append, hr, callAll_snoc]
    refine ⟨N ++ N', ?_, by rwa [← List.append_assoc]⟩
    show ((Noted.call k).run (a.callAll calls, T ++ N)).2 = _
    rw [hr', List.append_assoc]
    rfl

end Retells

variable {a : Application}

theorem upheld_true (a : Application) : Upheld a fun _ _ => True :=
  ⟨fun _ _ => trivial, fun _ _ => trivial, fun _ _ => trivial, fun _ _ => trivial,
    fun _ _ _ _ _ _ => trivial, fun _ _ _ _ _ _ => trivial⟩

/-- An invariant holds after requests in sequence. -/
theorem Upheld.notes {I : Application → List Note → Prop} (hI : Upheld a I) (h : I a [])
    (calls : List Call) : I (a.callAll calls) (a.notes calls) := by
  obtain ⟨N, hr, hk⟩ := Retells.callAll hI ⟨fun _ => rfl, h⟩ calls
  rw [Application.notes, hr]
  exact hk.kept

/-- Taking notes changes nothing: the application is the same after the requests, and so is the response
to a further one. -/
theorem callAll_noted (a : Application) (calls : List Call) :
    (Noted.callAll (a, []) calls).1 = a.callAll calls ∧
      ∀ k, ((Noted.call k).run (Noted.callAll (a, []) calls)).1 = ((a.callAll calls).call k).1 := by
  obtain ⟨N, hr, hk⟩ := Retells.callAll (T := []) (upheld_true a) ⟨fun _ => rfl, trivial⟩ calls
  refine ⟨by rw [hr], fun k => ?_⟩
  obtain ⟨N', hr', -⟩ := Retells.call (upheld_true a) k _ _ hk
  rw [hr]
  exact congrArg Prod.fst hr'

theorem notes_append (calls more : List Call) : ∃ N, a.notes (calls ++ more) = a.notes calls ++ N := by
  obtain ⟨N, hr, hk⟩ := Retells.callAll (T := []) (upheld_true a) ⟨fun _ => rfl, trivial⟩ calls
  obtain ⟨N', hr', -⟩ := Retells.callAll (upheld_true a) hk more
  refine ⟨N', ?_⟩
  rw [notes, notes, Noted.callAll_append, hr, hr']

end Application

end FeatureFlags
