import FeatureFlags.Proofs.Performing

/-!
# Calls that overlap

Concurrent calls to one client. A call holds a lock only while it reads or writes one table or one
variant, so it is a list of such critical sections (`Section`), and the sections of different
callers interleave in any order (`Traffic.Path`). The agenda of a caller is what it has still to do,
and includes the snapshots it has read.

A call for a value is followed up to the section in which it reads its variant, which decides what
it does afterwards. Calls that user code makes count as calls of further callers.

A call without interference does what `Run.answer` does (`perform_alone`). No section waits for
another one, so from every state all calls can end (`exists_idle`).
-/

namespace FeatureFlags

/-- The arguments of an evaluation: a default, unless that of the variant is used, and a context. -/
structure Question where
  default : Option String
  context : Option Context

/-- A part of a call that no other caller interrupts. -/
inductive Section where
  /-- Reports a diagnostic. -/
  | report (d : Diagnostic)
  /-- Changes the client in a way that concerns neither variants nor experiments, and reports it. -/
  | arrange (f : Client → Client) (hf : Client.Arranges f) (told : Client → Option Diagnostic)
  /-- Replaces the table. -/
  | swap (t : ExperimentTable)
  /-- Takes a snapshot of the table in force, to bind all variants to it. -/
  | refresh
  /-- Takes a snapshot of the variants by name, to bind them to a table. -/
  | list (t : ExperimentTable)
  /-- Reads the name of a variant that is to be bound to a table. -/
  | bind (t : ExperimentTable) (h : Handle)
  /-- Writes the binding of a variant. -/
  | write (t : ExperimentTable) (h : Handle)
  /-- Claims the namespace of a container, to add its variants. -/
  | claim (r : Container)
  /-- Gives a variant a name, unless it has one, to store it. -/
  | name (name : String) (h : Handle)
  /-- Stores a variant under a name, to bind it. -/
  | store (name : String) (h : Handle)
  /-- Takes a snapshot of the table in force, to bind a variant to it. -/
  | announce (h : Handle)
  /-- Looks up the variant of a name, and makes and stores one if there is none. -/
  | fetch (name : String) (v : Variant) (q : Question)
  /-- Takes a snapshot of a variant, to evaluate it. `isNew` tells whether the call has made it. -/
  | look (h : Handle) (isNew : Bool) (q : Question)

namespace Application

/-- The application after a variant was made and stored under a name, before it is bound. -/
def makeUnbound (a : Application) (c : ClientId) (name : String) (v : Variant) : Application :=
  ((a.addVariant v).giveName a.variants.length name).storeFlag c name a.variants.length

variable {a : Application} {c : ClientId} {name : String} {v : Variant} {h : Handle}

theorem length_variants_makeUnbound :
    (a.makeUnbound c name v).variants.length = a.variants.length + 1 := by
  show ((a.addVariant v).giveName a.variants.length name).variants.length = _
  rw [giveName, length_variants_modifyVariant, length_variants_addVariant]

theorem variant_makeUnbound_self :
    (a.makeUnbound c name v).variant a.variants.length = v.withName name := by
  show ((a.addVariant v).giveName a.variants.length name).variant a.variants.length = _
  rw [giveName, variant_modifyVariant_self lt_length_addVariant, variant_addVariant_self]

theorem variant_makeUnbound_ne (hh : h ≠ a.variants.length) :
    (a.makeUnbound c name v).variant h = a.variant h := by
  show ((a.addVariant v).giveName a.variants.length name).variant h = _
  rw [giveName, variant_modifyVariant_ne hh, variant_addVariant_ne hh]

end Application

/-- The effect of a section of a caller of client `c`, and the sections that follow from it. -/
inductive Section.Does (c : ClientId) (a : Application) :
    Section → Application → List Section → Prop
  | report (d : Diagnostic) : Does c a (.report d) (a.tell [.reported d]) []
  | arrange {f : Client → Client} (hf : Client.Arranges f) (told : Client → Option Diagnostic) :
    Does c a (.arrange f hf told) (a.modifyClient c f)
      ((told (a.client c)).toList.map .report)
  | swap (t : ExperimentTable) : Does c a (.swap t) (a.swapTable c t) [.refresh]
  | refresh : Does c a .refresh a [.list (a.client c).experiments]
  /-- The variants are bound in any order. -/
  | list (t : ExperimentTable) {hs : List Handle}
    (hp : hs.Perm ((a.client c).flags.entries.map Prod.snd)) :
    Does c a (.list t) a
      (hs.map (.bind t) ++ [.report (.reboundFlags t.size (a.client c).flags.size)])
  | bind (t : ExperimentTable) (h : Handle) :
    Does c a (.bind t h) a
      [.report (.bindingFlag (a.variant h).name
        (((t.forFlag? (a.variant h).name).map (·.name)).getD "")), .write t h]
  | write (t : ExperimentTable) (h : Handle) : Does c a (.write t h) (a.bindVariant c t h) []
  | claim {r : Container} (hr : (a.client c).namespaces.contains r.nameSpace = false) :
    Does c a (.claim r) (a.modifyClient c (·.claim r.nameSpace))
      (r.entries.map fun e => .name e.1 e.2)
  | refuse {r : Container} (hr : (a.client c).namespaces.contains r.nameSpace = true) :
    Does c a (.claim r) a [.report (.duplicateNamespace r.nameSpace)]
  | name (name : String) (h : Handle) :
    Does c a (.name name h) (a.giveName h name)
      (((a.variant h).naming name).toList.map .report ++ [.store name h])
  | store (name : String) (h : Handle) :
    Does c a (.store name h) (a.storeFlag c name h)
      ((if (a.findFlag? c name).isSome then [.report (.replacedFlag name)] else [])
        ++ [.announce h])
  | announce (h : Handle) : Does c a (.announce h) a [.bind (a.client c).experiments h]
  | found {name : String} (v : Variant) (q : Question) {h : Handle}
    (hf : a.findFlag? c name = some h) : Does c a (.fetch name v q) a [.look h false q]
  /-- The variant is made and stored under one lock, and bound after it has been released. -/
  | made {name : String} (v : Variant) (q : Question) (hf : a.findFlag? c name = none) :
    Does c a (.fetch name v q) (a.makeUnbound c name v)
      [.announce a.variants.length, .look a.variants.length true q]
  | look (h : Handle) (isNew : Bool) (q : Question) : Does c a (.look h isNew q) a []

namespace Section.Does

variable {c : ClientId} {a b : Application} {next : List Section} {t : ExperimentTable} {h : Handle}
  {name : String} {v : Variant} {isNew : Bool} {q : Question}

theorem of_swap (hx : (Section.swap t).Does c a b next) : b = a.swapTable c t ∧ next = [.refresh] := by
  cases hx
  exact ⟨rfl, rfl⟩

theorem of_write (hx : (Section.write t h).Does c a b next) : b = a.bindVariant c t h ∧ next = [] := by
  cases hx
  exact ⟨rfl, rfl⟩

theorem of_look (hx : (Section.look h isNew q).Does c a b next) : b = a ∧ next = [] := by
  cases hx
  exact ⟨rfl, rfl⟩

theorem of_fetch_of_found (hx : (Section.fetch name v q).Does c a b next)
    (hf : a.findFlag? c name = some h) : b = a ∧ next = [.look h false q] := by
  cases hx with
  | found v q hf' =>
    cases hf.symm.trans hf'
    exact ⟨rfl, rfl⟩
  | made v q hf' => cases hf.symm.trans hf'

theorem of_fetch_of_missing (hx : (Section.fetch name v q).Does c a b next)
    (hf : a.findFlag? c name = none) : b = a.makeUnbound c name v ∧
      next = [.announce a.variants.length, .look a.variants.length true q] := by
  cases hx with
  | found v q hf' => cases hf.symm.trans hf'
  | made v q hf' => exact ⟨rfl, rfl⟩

end Section.Does

/-- The sections that put experiments in force; those that follow from the last one bind all variants.
-/
def Section.configuring (models : List ExperimentModel) : List Section :=
  (ExperimentTable.shadowings models).map .report ++ [.swap (.ofModels models)]

/-- The first sections of a request to client `c`. -/
def Request.agenda (c : ClientId) : Request Program → List Section
  | .register r => [.claim r]
  | .setExperiments models => Section.configuring models
  | .applyConfiguration payload =>
    match Configuration.read payload with
    | .error _ => [.report .unreadableConfiguration]
    | .ok k => (k.misfits.map fun v => .report (.skippedExperiment v)) ++
        Section.configuring k.models
  | .isEnabled name default x =>
    [.fetch name (.flag default) ⟨some (Value.booleanText default), x⟩]
  | .value name default options x => [.fetch name (.make default options) ⟨some default, x⟩]
  | .evaluate h x => [.look h false ⟨none, x⟩]
  | .addProperty p =>
    [.arrange (fun s => { s with properties := s.properties.insert p.name p })
      ⟨fun _ => rfl, fun _ => rfl, fun _ => rfl⟩ fun _ => none]
  | .addOperator name arity operation =>
    [.arrange (fun s => { s with operators := s.operators.insert name ⟨arity, operation⟩ })
      (.operator name ⟨arity, operation⟩) fun s =>
        if s.operators.contains name || (s.standardOperators c).contains name then
          some (.replacedOperator name) else none]
  | .addHandler label react =>
    [.arrange (fun s => { s with hub := { s.hub with handlers := s.hub.handlers ++ [⟨label, react⟩] } })
      ⟨fun _ => rfl, fun _ => rfl, fun _ => rfl⟩ fun _ => none]
  | .setGate isOpen =>
    [.arrange (fun s => { s with hub := { s.hub with isOpen := isOpen } })
      ⟨fun _ => rfl, fun _ => rfl, fun _ => rfl⟩ fun _ => none]

/-- The response to a request for a value, given the outcome of the variant. -/
def Request.answer : Request Program → Outcome → Response
  | .isEnabled .., o => .decided (o.value == "true")
  | .value .., o => .text o.value
  | _, o => .outcome o

/-- The rest of a request for a value after its variant was found: the evaluation and the response. -/
def Request.finish (r : Request Program) (limit : Nat) (h : Handle) (q : Question) :
    Application.Run Response := do
  return r.answer (← Application.Run.evaluate (Application.Run.runProgram limit) h q.context q.default)

/-- A request for a value by name, with the variant made if there is none and the arguments of the
evaluation. -/
inductive Request.Asks : Request Program → String → Variant → Question → Prop
  | isEnabled (name : String) (default : Bool) (x : Option Context) :
    Asks (.isEnabled name default x) name (.flag default) ⟨some (Value.booleanText default), x⟩
  | value (name default : String) (options : List String) (x : Option Context) :
    Asks (.value name default options x) name (.make default options) ⟨some default, x⟩

namespace Request.Asks

open Application

variable {r : Request Program} {name : String} {v : Variant} {q : Question}

theorem agenda (h : r.Asks name v q) (c : ClientId) : r.agenda c = [.fetch name v q] := by
  cases h <;> rfl

theorem fresh (h : r.Asks name v q) : v.name? = none ∧ v.binding = none := by
  cases h <;> exact ⟨rfl, rfl⟩

theorem default (h : r.Asks name v q) : ∃ default, q.default = some default := by
  cases h <;> exact ⟨_, rfl⟩

theorem perform_eq (h : r.Asks name v q) (limit : Nat) (c : ClientId) :
    Run.perform limit c r = ((Run.flagStore c).getOrAdd name (Run.create v) >>= fun g =>
      r.finish limit g q) := by
  unfold Request.finish
  cases h with
  | isEnabled name default x =>
    simp only [Run.perform, Run.answer, Run.isEnabled, Run.valueOf, bind_assoc, pure_bind,
      Request.answer]
  | value name default options x =>
    simp only [Run.perform, Run.answer, Run.valueOf, bind_assoc, pure_bind, Request.answer]

end Request.Asks

/-- An application, and the agenda of each caller of a client. -/
structure Traffic where
  app : Application
  agendas : List (List Section)

namespace Traffic

/-- One caller for each request, none of which has begun. -/
def ofRequests (a : Application) (c : ClientId) (requests : List (Request Program)) : Traffic :=
  ⟨a, requests.map (Request.agenda c)⟩

def IsIdle (s : Traffic) : Prop := ∀ agenda ∈ s.agendas, agenda = []

/-- Caller `i` does the first section of its agenda. -/
inductive Step (c : ClientId) : Traffic → Nat × Section → Traffic → Prop
  | mk {a b : Application} {agendas : List (List Section)} {i : Nat} {x : Section}
    {rest next : List Section} (hi : agendas[i]? = some (x :: rest)) (hx : x.Does c a b next) :
    Step c ⟨a, agendas⟩ (i, x) ⟨b, agendas.set i (next ++ rest)⟩

/-- The sections done by callers, in order. -/
abbrev Log := List (Nat × Section)

/-- Callers do sections, in any order. -/
inductive Path (c : ClientId) : Traffic → Log → Traffic → Prop
  | nil (s : Traffic) : Path c s [] s
  | snoc {s t u : Traffic} {k : Log} {l : Nat × Section} (h : Path c s k t) (hs : Step c t l u) :
    Path c s (k ++ [l]) u

variable {c : ClientId} {s t u : Traffic} {k j : Log} {l : Nat × Section}

theorem Path.append (h : Path c s k t) (h' : Path c t j u) : Path c s (k ++ j) u := by
  induction h' with
  | nil =>
    rw [List.append_nil]
    exact h
  | snoc _ hs ih =>
    rw [← List.append_assoc]
    exact ih.snoc hs

theorem Path.cons (hs : Step c s l t) (h : Path c t k u) : Path c s (l :: k) u :=
  ((Path.nil s).snoc hs).append h

/-- A path can be cut at every step. -/
theorem Path.cut (h : Path c s (k ++ l :: j) u) :
    ∃ w w', Path c s k w ∧ Step c w l w' ∧ Path c w' j u := by
  generalize hk : k ++ l :: j = whole at h
  induction h generalizing j with
  | nil => simp at hk
  | snoc h hs ih =>
    rcases List.eq_nil_or_concat j with rfl | ⟨m, last, rfl⟩
    · obtain ⟨rfl, hl⟩ := List.append_inj' hk rfl
      cases hl
      exact ⟨_, _, h, hs, .nil _⟩
    · rw [List.concat_eq_append, ← List.cons_append, ← List.append_assoc] at hk
      obtain ⟨hinit, hl⟩ := List.append_inj' hk rfl
      cases hl
      obtain ⟨w, w', hw, hstep, hw'⟩ := ih hinit
      exact ⟨w, w', hw, hstep, List.concat_eq_append ▸ hw'.snoc hs⟩

/-- Whether a section is on the agenda of a caller. -/
def Pending (s : Traffic) (i : Nat) (x : Section) : Prop :=
  ∃ agenda, s.agendas[i]? = some agenda ∧ x ∈ agenda

/-- A step, by pending sections: caller `i` does one and gets new ones. -/
structure Moves (c : ClientId) (s : Traffic) (i : Nat) (x : Section) (next : List Section)
    (t : Traffic) : Prop where
  does : x.Does c s.app t.app next
  pending : s.Pending i x
  of_pending : ∀ j y, t.Pending j y → s.Pending j y ∨ j = i ∧ y ∈ next
  kept : ∀ j y, s.Pending j y → j = i ∧ y = x ∨ t.Pending j y
  new : ∀ y ∈ next, t.Pending i y

variable {i : Nat} {x : Section}

theorem Step.agenda (hs : Step c s (i, x) t) : ∃ rest next, s.agendas[i]? = some (x :: rest) ∧
    t.agendas = s.agendas.set i (next ++ rest) ∧ Moves c s i x next t := by
  cases hs with
  | @mk a b agendas i x rest next hi hx =>
    have hlt := (List.getElem?_eq_some_iff.mp hi).1
    have hself : (agendas.set i (next ++ rest))[i]? = some (next ++ rest) := List.getElem?_set_self hlt
    refine ⟨rest, next, hi, rfl, hx, ⟨_, hi, List.mem_cons_self⟩, ?_, ?_, ?_⟩
    · rintro j y ⟨agenda, hj, hy⟩
      by_cases hji : j = i
      · subst hji
        have he : next ++ rest = agenda := Option.some.inj (hself.symm.trans hj)
        rw [← he] at hy
        exact (List.mem_append.mp hy).symm.imp (fun hy => ⟨_, hi, List.mem_cons_of_mem _ hy⟩) (⟨rfl, ·⟩)
      · have hj' : agendas[j]? = some agenda := by rwa [← List.getElem?_set_ne (Ne.symm hji)]
        exact .inl ⟨agenda, hj', hy⟩
    · rintro j y ⟨agenda, hj, hy⟩
      by_cases hji : j = i
      · subst hji
        have he : x :: rest = agenda := Option.some.inj (hi.symm.trans hj)
        rw [← he] at hy
        rcases List.mem_cons.mp hy with rfl | hy
        · exact .inl ⟨rfl, rfl⟩
        · exact .inr ⟨_, hself, List.mem_append_right _ hy⟩
      · exact .inr ⟨agenda, by rwa [← List.getElem?_set_ne (Ne.symm hji)] at hj, hy⟩
    · exact fun y hy => ⟨_, hself, List.mem_append_left _ hy⟩

theorem Step.moves (hs : Step c s (i, x) t) : ∃ next, Moves c s i x next t := by
  obtain ⟨rest, next, -, -, hm⟩ := hs.agenda
  exact ⟨next, hm⟩

theorem IsIdle.not_pending (hs : s.IsIdle) : ¬s.Pending i x := by
  rintro ⟨agenda, hi, hx⟩
  rw [hs agenda (List.mem_of_getElem? hi)] at hx
  cases hx

/-- A caller without interference does its agenda, with the sections that follow. -/
inductive Alone (c : ClientId) : Application → List Section → List Section → Application → Prop
  | nil (a : Application) : Alone c a [] [] a
  | cons {a b d : Application} {x : Section} {next rest done : List Section}
    (hx : x.Does c a b next) (h : Alone c b (next ++ rest) done d) :
    Alone c a (x :: rest) (x :: done) d

namespace Alone

variable {a b d : Application} {agenda agenda' done done' : List Section}

theorem append (h : Alone c a agenda done b) (h' : Alone c b agenda' done' d) :
    Alone c a (agenda ++ agenda') (done ++ done') d := by
  induction h with
  | nil => exact h'
  | cons hx _ ih =>
    have hrest := ih h'
    rw [List.append_assoc] at hrest
    exact .cons hx hrest

/-- A caller without interference is a special case of a path, with any other callers. -/
theorem path (h : Alone c a agenda done b) {agendas : List (List Section)} {i : Nat}
    (hi : agendas[i]? = some agenda) :
    Path c ⟨a, agendas⟩ (done.map (i, ·)) ⟨b, agendas.set i []⟩ := by
  induction h generalizing agendas with
  | nil a =>
    have hset : agendas.set i [] = agendas := by
      obtain ⟨hlt, he⟩ := List.getElem?_eq_some_iff.mp hi
      rw [← he, List.set_getElem_self]
    rw [hset]
    exact .nil _
  | @cons a b d x next rest done hx _ ih =>
    have hlt := (List.getElem?_eq_some_iff.mp hi).1
    have hrest := @ih (agendas.set i (next ++ rest)) (List.getElem?_set_self hlt)
    rw [List.set_set] at hrest
    exact .cons (.mk hi hx) hrest

end Alone

end Traffic

/-! ## Calls without interference -/

namespace Application

open Traffic

namespace Run

variable {α β : Type} {c : ClientId} {a : Application}

/-- From any application, a computation does an agenda without interference. -/
def Sections (c : ClientId) (x : Run α) (agenda : List Section) : Prop :=
  ∀ a, ∃ v done b, x.run a = (.ok v, b) ∧ Alone c a agenda done b

namespace Sections

variable {x : Run α} {f : α → Run β} {p : Section} {agenda agenda' : List Section}

theorem pure' (v : α) : Sections c (pure v : Run α) [] := fun a => ⟨v, [], a, rfl, .nil a⟩

theorem bind' (hx : Sections c x agenda) (hf : ∀ v, Sections c (f v) agenda') :
    Sections c (x >>= f) (agenda ++ agenda') := by
  intro a
  obtain ⟨v, done, b, hr, h⟩ := hx a
  obtain ⟨w, done', d, hr', h'⟩ := hf v b
  exact ⟨w, done ++ done', d, by rw [run_bind_ok hr, hr'], h.append h'⟩

theorem head (y : Application → Run α) {b : Application → Application}
    {next : Application → List Section} (hp : ∀ a, p.Does c a (b a) (next a))
    (hr : ∀ a, x.run a = (y a).run (b a)) (hy : ∀ a, Sections c (y a) (next a)) :
    Sections c x [p] := by
  intro a
  obtain ⟨v, done, d, hd, h⟩ := hy a (b a)
  refine ⟨v, p :: done, d, (hr a).trans hd, .cons (hp a) ?_⟩
  rw [List.append_nil]
  exact h

theorem single {b : Application → Application} {v : Application → α}
    (hp : ∀ a, p.Does c a (b a) []) (hr : ∀ a, x.run a = (.ok (v a), b a)) : Sections c x [p] :=
  head (fun a => pure (v a)) hp hr fun a => pure' (v a)

theorem map' (hx : Sections c x agenda) (g : α → β) :
    Sections c (x >>= fun v => pure (g v)) agenda := by
  have h := bind' hx fun v => pure' (c := c) (g v)
  rwa [List.append_nil] at h

theorem forM' {γ : Type} {l : List γ} {f : γ → Run Unit} {g : γ → Section}
    (hf : ∀ e ∈ l, Sections c (f e) [g e]) : Sections c (l.forM f) (l.map g) := by
  induction l with
  | nil => exact pure' ()
  | cons e rest ih =>
    obtain ⟨he, hrest⟩ := List.forall_mem_cons.mp hf
    exact bind' he fun _ => ih hrest

theorem report (d : Diagnostic) : Sections c (Run.report d) [.report d] :=
  single (fun _ => .report d) fun _ => rfl

theorem bindVariant (t : ExperimentTable) (h : Handle) :
    Sections c (Run.bindVariant c t h) [.bind t h] :=
  head (fun _ => Run.report _ >>= fun _ => modify (·.bindVariant c t h)) (fun _ => .bind t h)
    (fun _ => rfl) fun _ => bind' (report _) fun _ => single (fun _ => .write t h) fun _ => rfl

theorem announce (h : Handle) : Sections c ((flagStore c).announce h) [.announce h] :=
  head (fun a => Run.bindVariant c (a.client c).experiments h) (fun _ => .announce h)
    (fun _ => rfl) fun _ => bindVariant _ h

theorem rebind : Sections c (Run.rebind c) [.refresh] := by
  -- the agendas after the snapshot of the table was taken, and after both were
  let listed (t : ExperimentTable) (s : Client) : Run Unit := do
    s.flags.entries.forM fun e => Run.bindVariant c t e.2
    Run.report (.reboundFlags t.size s.flags.size)
  let refreshed (t : ExperimentTable) : Run Unit := Run.client c >>= listed t
  have hclient : ∀ a, (Run.client c).run a = (.ok (a.client c), a) := fun _ => rfl
  have hlisted : ∀ t, Sections c (refreshed t) [.list t] := fun t => by
    refine head (fun b => listed t (b.client c)) (fun _ => .list t (.refl _))
      (fun b => run_bind_ok (hclient b)) fun b => ?_
    rw [List.map_map]
    exact bind' (forM' fun e _ => bindVariant t e.2) fun _ => report _
  refine head (fun a => refreshed (a.client c).experiments) (fun _ => .refresh) (fun a => ?_)
    fun a => hlisted (a.client c).experiments
  have hrefreshed := run_bind_ok (f := listed (a.client c).experiments) (hclient a)
  rw [Run.rebind, run_bind_ok (hclient a)]
  exact hrefreshed.symm

theorem setExperiments (models : List ExperimentModel) :
    Sections c (Run.setExperiments c models) (Section.configuring models) := by
  refine bind' (forM' fun d _ => report d) fun _ => ?_
  exact head (fun _ => Run.rebind c) (fun _ => .swap _) (fun _ => rfl) fun _ => rebind

theorem applyConfiguration (payload : String) : Sections c (Run.applyConfiguration c payload)
    ((Request.applyConfiguration payload).agenda c) := by
  unfold Run.applyConfiguration
  simp only [Request.agenda]
  cases Configuration.read payload with
  | error fault => exact map' (report _) _
  | ok k => exact bind' (forM' fun v _ => report _) fun _ => map' (setExperiments k.models) _

theorem add (name : String) (h : Handle) :
    Sections c ((flagStore c).add name h) [.name name h] := by
  -- the agendas after the variant was stored, and after it was named
  let stored (previous : Option Handle) : Run (Option Handle) := do
    if previous.isSome then (flagStore c).report (.replacedFlag name)
    (flagStore c).announce h
    pure previous
  let named : Run (Option Handle) := do
    let previous ← (flagStore c).find? name
    (flagStore c).store name h
    stored previous
  have hstored : ∀ previous, Sections c (stored previous)
      ((if previous.isSome then [.report (.replacedFlag name)] else []) ++ [.announce h]) := by
    intro previous
    cases previous with
    | none => exact map' (announce h) _
    | some g => exact bind' (report _) fun _ => map' (announce h) _
  have hnamed : Sections c named [.store name h] :=
    head (fun b => stored (b.findFlag? c name)) (fun _ => .store name h) (fun _ => rfl)
      fun b => hstored (b.findFlag? c name)
  refine head (fun a => ((a.variant h).naming name).toList.forM Run.report >>= fun _ => named)
    (fun _ => .name name h) (fun a => ?_) fun a => bind' (forM' fun d _ => report d) fun _ => hnamed
  have hadd : ((flagStore c).add name h).run a = (Run.giveName h name >>= fun _ => named).run a := rfl
  rw [hadd, run_bind_ok giveName_run_eq, run_bind_ok (forM_report_run (f := fun d => d))]
  rfl

theorem register (r : Container) : Sections c (Run.register c r) [.claim r] := by
  intro a
  have hclient : (Run.client c).run a = (.ok (a.client c), a) := rfl
  cases hr : (a.client c).namespaces.contains r.nameSpace with
  | true =>
    exact ⟨_, _, _, register_run_of_registered hr,
      .cons (.refuse hr) (.cons (.report _) (.nil _))⟩
  | false =>
    let b := a.modifyClient c (·.claim r.nameSpace)
    have hclaim : (Run.modifyClient c (·.claim r.nameSpace)).run a = (.ok (), b) := rfl
    have hadd := map' (forM' (l := r.entries) fun e _ => map' (add (c := c) e.1 e.2) fun _ => ())
      fun _ => Response.done
    obtain ⟨v, done, d, hd, h⟩ := hadd b
    refine ⟨v, _ :: done, d, ?_, .cons (.claim hr) (by rwa [List.append_nil])⟩
    rw [Run.register, run_bind_ok hclient, if_neg (Bool.eq_false_iff.mp hr), ← hd]
    exact run_bind_ok hclaim

theorem arrange {f : Client → Client} (hf : Client.Arranges f) :
    Sections c (Run.modifyClient c f) [.arrange f hf fun _ => none] :=
  single (fun _ => .arrange hf _) fun _ => rfl

theorem addOperator (name : String) (o : CustomOperator) : Sections c (Run.addOperator c name o)
    [.arrange (fun s => { s with operators := s.operators.insert name o }) (.operator name o) fun s =>
      if s.operators.contains name || (s.standardOperators c).contains name then
        some (.replacedOperator name) else none] := by
  let told (s : Client) : Run Unit :=
    if s.operators.contains name || (s.standardOperators c).contains name then
      Run.report (.replacedOperator name) else pure ()
  refine head (fun a => told (a.client c)) (fun _ => .arrange _ _) (fun a => ?_) fun a => ?_
  · have hclient : (Run.client c).run a = (.ok (a.client c), a) := rfl
    rw [Run.addOperator, run_bind_ok hclient]
    rfl
  · show Sections c (ite _ _ _) _
    split
    · exact report _
    · exact pure' ()

end Sections

/-- A variant asked for by name is found, or made and added, and then looked at. -/
theorem getOrAdd_alone (a : Application) (c : ClientId) (name : String) {v : Variant}
    (hn : v.name? = none) (q : Question) :
    ∃ h isNew done b, ((flagStore c).getOrAdd name (create v)).run a = (.ok h, b) ∧
      Alone c a [.fetch name v q] (done ++ [.look h isNew q]) b := by
  cases hf : a.findFlag? c name with
  | some h =>
    exact ⟨h, false, [_], a, getOrAdd_run_of_found hf,
      .cons (.found v q hf) (.cons (.look h false q) (.nil a))⟩
  | none =>
    let h := a.variants.length
    let b := (a.addVariant v).giveName h name
    have hfind : ((flagStore c).find? name).run a = (.ok none, a) := by
      rw [← hf]
      rfl
    have hcreate : (create v).run a = (.ok h, a.addVariant v) := rfl
    have hname : ((flagStore c).giveName h name).run (a.addVariant v) = (.ok (), b) := by
      have hv : (a.addVariant v).variant h = v := variant_addVariant_self
      have hr := @giveName_run_eq (a.addVariant v) h name
      rw [hv, Variant.naming, hn, Option.toList_none, List.map_nil, tell_nil] at hr
      exact hr
    have hstore : ((flagStore c).store name h).run b = (.ok (), b.storeFlag c name h) := rfl
    obtain ⟨u, done, d, hd, hdone⟩ := Sections.announce (c := c) h (b.storeFlag c name h)
    have hlook : Alone c d [.look h true q] [.look h true q] d := .cons (.look h true q) (.nil d)
    refine ⟨h, true, _ :: done, d, ?_, .cons (.made v q hf) (hdone.append hlook)⟩
    unfold FlagStore.getOrAdd
    rw [run_bind_ok hfind]
    show ((create v) >>= fun h => (flagStore c).giveName h name >>= fun _ =>
      (flagStore c).store name h >>= fun _ => (flagStore c).announce h >>= fun _ => pure h).run a = _
    rw [run_bind_ok hcreate, run_bind_ok hname, run_bind_ok hstore, run_bind_ok hd]
    rfl

end Run

/-- The end of a request whose sections have led to `b`: it has its response, or it evaluates the
variant that it looked at last. -/
def Concludes (a : Application) (limit : Nat) (c : ClientId) (r : Request Program)
    (done : List Section) (b : Application) : Prop :=
  (∃ x, a.perform limit c r = (.ok x, b)) ∨
    ∃ h isNew q, done.getLast? = some (.look h isNew q) ∧
      a.perform limit c r = (r.finish limit h q).run b

section Requests

variable {a : Application} {limit : Nat} {c : ClientId} {r : Request Program}

theorem concludes_of_sections (h : Run.Sections c (Run.perform limit c r) (r.agenda c)) :
    ∃ done b, Alone c a (r.agenda c) done b ∧ a.Concludes limit c r done b := by
  obtain ⟨v, done, b, hv, hdone⟩ := h a
  exact ⟨done, b, hdone, .inl ⟨v, hv⟩⟩

theorem concludes_of_asks {name : String} {v : Variant} {q : Question} (hr : r.Asks name v q) :
    ∃ done b, Alone c a (r.agenda c) done b ∧ a.Concludes limit c r done b := by
  obtain ⟨g, isNew, done, b, hget, hdone⟩ := Run.getOrAdd_alone a c name hr.fresh.1 q
  rw [hr.agenda]
  refine ⟨_, b, hdone, .inr ⟨g, isNew, q, by simp, ?_⟩⟩
  rw [perform, hr.perform_eq, Run.run_bind_ok hget]

/-- A request without interference does the sections of its agenda in order. -/
theorem perform_alone (a : Application) (limit : Nat) (c : ClientId) (r : Request Program) :
    ∃ done b, Alone c a (r.agenda c) done b ∧ a.Concludes limit c r done b := by
  cases r with
  | register r => exact concludes_of_sections (.register r)
  | setExperiments models => exact concludes_of_sections (.map' (.setExperiments models) _)
  | applyConfiguration payload => exact concludes_of_sections (.applyConfiguration payload)
  | isEnabled name default x => exact concludes_of_asks (.isEnabled name default x)
  | value name default options x => exact concludes_of_asks (.value name default options x)
  | evaluate h x =>
    exact ⟨_, a, .cons (.look h false ⟨none, x⟩) (.nil a), .inr ⟨h, false, _, rfl, rfl⟩⟩
  | addProperty p => exact concludes_of_sections (.map' (.arrange _) _)
  | addOperator name arity operation =>
    exact concludes_of_sections (.map' (.addOperator name ⟨arity, operation⟩) _)
  | addHandler label react => exact concludes_of_sections (.map' (.arrange _) _)
  | setGate isOpen => exact concludes_of_sections (.map' (.arrange _) _)

end Requests

end Application

/-! ## Calls can end -/

namespace Traffic

variable {c : ClientId}

/-- A section can be done in every state, with those that follow from it. -/
def Finishes (c : ClientId) (x : Section) : Prop := ∀ a, ∃ done b, Alone c a [x] done b

theorem Alone.exists_of_finishes {agenda : List Section} (h : ∀ x ∈ agenda, Finishes c x)
    (a : Application) : ∃ done b, Alone c a agenda done b := by
  induction agenda generalizing a with
  | nil => exact ⟨[], a, .nil a⟩
  | cons x rest ih =>
    obtain ⟨hx, hrest⟩ := List.forall_mem_cons.mp h
    obtain ⟨done, b, hdone⟩ := hx a
    obtain ⟨done', d, hdone'⟩ := ih hrest b
    exact ⟨done ++ done', d, hdone.append hdone'⟩

theorem Finishes.of_next {x : Section}
    (h : ∀ a, ∃ b next, x.Does c a b next ∧ ∀ y ∈ next, Finishes c y) : Finishes c x := by
  intro a
  obtain ⟨b, next, hx, hnext⟩ := h a
  obtain ⟨done, d, hdone⟩ := Alone.exists_of_finishes hnext b
  exact ⟨x :: done, d, .cons hx (by rwa [List.append_nil])⟩

theorem finishes_report (d : Diagnostic) : Finishes c (.report d) :=
  .of_next fun _ => ⟨_, _, .report d, List.forall_mem_nil _⟩

theorem finishes_reports (ds : List Diagnostic) : ∀ x ∈ ds.map Section.report, Finishes c x :=
  List.forall_mem_map.mpr fun d _ => finishes_report d

theorem finishes_bind (t : ExperimentTable) (h : Handle) : Finishes c (.bind t h) := by
  have hwrite : Finishes c (.write t h) := .of_next fun _ => ⟨_, _, .write t h, List.forall_mem_nil _⟩
  exact .of_next fun _ => ⟨_, _, .bind t h,
    List.forall_mem_cons.mpr ⟨finishes_report _, List.forall_mem_singleton.mpr hwrite⟩⟩

theorem finishes_announce (h : Handle) : Finishes c (.announce h) :=
  .of_next fun _ => ⟨_, _, .announce h, List.forall_mem_singleton.mpr (finishes_bind _ h)⟩

/-- Every section can be done: no caller ever waits for another one. -/
theorem finishes (x : Section) : Finishes c x := by
  have hlook : ∀ h isNew q, Finishes c (.look h isNew q) := fun h isNew q =>
    .of_next fun _ => ⟨_, _, .look h isNew q, List.forall_mem_nil _⟩
  have hlist : ∀ t, Finishes c (.list t) := by
    refine fun t => .of_next fun a => ⟨_, _, .list t (.refl _), ?_⟩
    refine List.forall_mem_append.mpr ⟨?_, List.forall_mem_singleton.mpr (finishes_report _)⟩
    exact List.forall_mem_map.mpr fun h _ => finishes_bind t h
  have hrefresh : Finishes c .refresh :=
    .of_next fun _ => ⟨_, _, .refresh, List.forall_mem_singleton.mpr (hlist _)⟩
  have hstore : ∀ name h, Finishes c (.store name h) := by
    refine fun name h => .of_next fun a => ⟨_, _, .store name h, ?_⟩
    refine List.forall_mem_append.mpr ⟨?_, List.forall_mem_singleton.mpr (finishes_announce h)⟩
    split
    · exact List.forall_mem_singleton.mpr (finishes_report _)
    · exact List.forall_mem_nil _
  have hname : ∀ name h, Finishes c (.name name h) := by
    refine fun name h => .of_next fun a => ⟨_, _, .name name h, ?_⟩
    exact List.forall_mem_append.mpr
      ⟨finishes_reports _, List.forall_mem_singleton.mpr (hstore name h)⟩
  cases x with
  | report d => exact finishes_report d
  | arrange f hf told => exact .of_next fun _ => ⟨_, _, .arrange hf told, finishes_reports _⟩
  | swap t => exact .of_next fun _ => ⟨_, _, .swap t, List.forall_mem_singleton.mpr hrefresh⟩
  | refresh => exact hrefresh
  | list t => exact hlist t
  | bind t h => exact finishes_bind t h
  | write t h => exact .of_next fun _ => ⟨_, _, .write t h, List.forall_mem_nil _⟩
  | claim r =>
    refine .of_next fun a => ?_
    cases hr : (a.client c).namespaces.contains r.nameSpace with
    | true => exact ⟨_, _, .refuse hr, List.forall_mem_singleton.mpr (finishes_report _)⟩
    | false => exact ⟨_, _, .claim hr, List.forall_mem_map.mpr fun e _ => hname e.1 e.2⟩
  | name n h => exact hname n h
  | store n h => exact hstore n h
  | announce h => exact finishes_announce h
  | fetch n v q =>
    refine .of_next fun a => ?_
    cases hf : a.findFlag? c n with
    | some h => exact ⟨_, _, .found v q hf, List.forall_mem_singleton.mpr (hlook h false q)⟩
    | none =>
      exact ⟨_, _, .made v q hf, List.forall_mem_cons.mpr
        ⟨finishes_announce _, List.forall_mem_singleton.mpr (hlook _ true q)⟩⟩
  | look h isNew q => exact hlook h isNew q

/-- From every state all calls can end. -/
theorem exists_idle (c : ClientId) (s : Traffic) : ∃ k t, Path c s k t ∧ t.IsIdle := by
  -- one caller after the other does its agenda
  have hfirst : ∀ n, n ≤ s.agendas.length → ∃ k t, Path c s k t ∧
      t.agendas.length = s.agendas.length ∧ ∀ i, i < n → t.agendas[i]? = some [] := by
    intro n hn
    induction n with
    | zero => exact ⟨[], s, .nil s, rfl, fun i hi => absurd hi (Nat.not_lt_zero i)⟩
    | succ n ih =>
      obtain ⟨k, t, hp, hlength, hends⟩ := ih (Nat.le_of_succ_le hn)
      have hlt : n < t.agendas.length := by omega
      obtain ⟨done, b, hdone⟩ := Alone.exists_of_finishes (fun x _ => finishes (c := c) x) t.app
      have hpath := hdone.path (List.getElem?_eq_getElem hlt)
      refine ⟨_, _, hp.append hpath, by rw [List.length_set, hlength], fun i hi => ?_⟩
      by_cases hin : i = n
      · subst hin
        exact List.getElem?_set_self hlt
      · rw [List.getElem?_set_ne (Ne.symm hin)]
        exact hends i (by omega)
  obtain ⟨k, t, hp, hlength, hends⟩ := hfirst s.agendas.length (Nat.le_refl _)
  refine ⟨k, t, hp, fun agenda hm => ?_⟩
  obtain ⟨i, hi⟩ := List.mem_iff_getElem?.mp hm
  have hlt : i < s.agendas.length := hlength ▸ (List.getElem?_eq_some_iff.mp hi).1
  exact Option.some.inj (hi.symm.trans (hends i hlt))

end Traffic

end FeatureFlags
