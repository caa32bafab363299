import FeatureFlags.Client.Binding

/-!
# Changes of names and bindings

The effect of a client on variants is made of three changes: a variant is added under a name
(`Application.add`), a variant is made and added (`make`), and other experiments are put in force
(`configure`). Each comes with a lemma for everything that can be read afterwards.

The computations `FlagStore.add`, `FlagStore.getOrAdd`, `Run.register`, `Run.setExperiments` and
`Run.applyConfiguration` make exactly these changes, and emit no deliveries (`add_run`,
`getOrAdd_run`, `register_run`, `setExperiments_run`, `applyConfiguration_run`).
-/

namespace FeatureFlags

/-- A client with one more namespace. -/
def Client.claim (s : Client) (nameSpace : String) : Client :=
  { s with namespaces := s.namespaces ++ [nameSpace] }

/-- Whether an event begins a delivery. -/
def Event.isDelivery : Event → Bool
  | reported (.deliveringImpression _) => true
  | _ => false

/-- Whether an event is about names and bindings of variants. -/
def Event.isBookkeeping : Event → Bool
  | reported (.secondName ..) => true
  | reported (.replacedFlag _) => true
  | reported (.bindingFlag ..) => true
  | reported (.reboundFlags ..) => true
  | _ => false

theorem Variant.named_of_naming {v : Variant} {name : String} {d : Diagnostic}
    (h : v.naming name = some d) : ∃ n, v.name? = some n ∧ d = .secondName n name := by
  unfold Variant.naming at h
  split at h
  · split at h
    · cases h
    · cases h
      exact ⟨_, ‹_›, rfl⟩
  · cases h

namespace Application

def tell (a : Application) (es : List Event) : Application := { a with events := a.events ++ es }

/-- Binds variants to a client and to the experiments that a table assigns to their names. -/
def bindAll (a : Application) (c : ClientId) (t : ExperimentTable) (hs : List Handle) :
    Application :=
  hs.foldl (fun a h => a.bindVariant c t h) a

/-- Adds a variant to a client under a name: it is named, stored, and bound to the table in force.
-/
def add (a : Application) (c : ClientId) (name : String) (h : Handle) : Application :=
  ((a.giveName h name).storeFlag c name h).bindVariant c (a.client c).experiments h

/-- Adds several variants to a client, from the left. -/
def addAll (a : Application) (c : ClientId) (entries : List (String × Handle)) : Application :=
  entries.foldl (fun a e => a.add c e.1 e.2) a

/-- Makes a variant, and adds it to a client under a name. -/
def make (a : Application) (c : ClientId) (name : String) (v : Variant) : Application :=
  (a.addVariant v).add c name a.variants.length

/-- Puts other experiments in force, and binds all variants of a client to them. -/
def configure (a : Application) (c : ClientId) (t : ExperimentTable) : Application :=
  let b := a.swapTable c t
  b.bindAll c (b.client c).experiments ((b.client c).flags.entries.map Prod.snd)

/-! ## Reading after a change -/

section Reading

variable {a : Application} {c d : ClientId} {h g : Handle} {name : String} {t : ExperimentTable}
  {v : Variant}

theorem client_modifyClient_self {f : Client → Client} (hc : c < a.clients.length) :
    (a.modifyClient c f).client c = f (a.client c) := by
  simp [client, modifyClient, List.getD_eq_getElem?_getD, hc]

theorem client_modifyClient_ne {f : Client → Client} (hd : d ≠ c) :
    (a.modifyClient c f).client d = a.client d := by
  simp [client, modifyClient, List.getD_eq_getElem?_getD, Ne.symm hd]

theorem variant_modifyVariant_self {f : Variant → Variant} (hh : h < a.variants.length) :
    (a.modifyVariant h f).variant h = f (a.variant h) := by
  simp [variant, modifyVariant, List.getD_eq_getElem?_getD, hh]

theorem variant_modifyVariant_ne {f : Variant → Variant} (hg : g ≠ h) :
    (a.modifyVariant h f).variant g = a.variant g := by
  simp [variant, modifyVariant, List.getD_eq_getElem?_getD, Ne.symm hg]

theorem client_modifyClient_of_le {f : Client → Client} (hc : a.clients.length ≤ d) :
    (a.modifyClient c f).client d = a.client d := by
  simp [client, modifyClient, List.getD_eq_getElem?_getD, hc]

/-- What a change keeps of one client, it keeps of all. -/
theorem client_modifyClient_congr {β : Type} {f : Client → Client} (p : Client → β)
    (hf : ∀ s, p (f s) = p s) : p ((a.modifyClient c f).client d) = p (a.client d) := by
  by_cases hd : d = c
  · subst hd
    by_cases hc : d < a.clients.length
    · rw [client_modifyClient_self hc, hf]
    · rw [client_modifyClient_of_le (Nat.le_of_not_lt hc)]
  · rw [client_modifyClient_ne hd]

@[simp] theorem length_clients_modifyClient {f : Client → Client} :
    (a.modifyClient c f).clients.length = a.clients.length := List.length_modify ..

@[simp] theorem length_variants_modifyVariant {f : Variant → Variant} :
    (a.modifyVariant h f).variants.length = a.variants.length := List.length_modify ..

theorem client_congr {b : Application} (hb : b.clients = a.clients) (d : ClientId) :
    b.client d = a.client d := congrArg (·.getD d default) hb

theorem variant_congr {b : Application} (hb : b.variants = a.variants) (g : Handle) :
    b.variant g = a.variant g := congrArg (·.getD g default) hb

theorem variant_of_le (hh : a.variants.length ≤ h) : a.variant h = default := by
  simp [variant, List.getD_eq_getElem?_getD, hh]

theorem length_variants_addVariant : (a.addVariant v).variants.length = a.variants.length + 1 := by
  rw [addVariant, List.length_append, List.length_singleton]

theorem lt_length_addVariant : a.variants.length < (a.addVariant v).variants.length := by
  rw [length_variants_addVariant]
  exact Nat.lt_succ_self _

theorem variant_addVariant_self : (a.addVariant v).variant a.variants.length = v := by
  simp [variant, addVariant]

theorem variant_addVariant_ne (hg : g ≠ a.variants.length) :
    (a.addVariant v).variant g = a.variant g := by
  by_cases hlt : g < a.variants.length
  · simp [variant, addVariant, List.getD_eq_getElem?_getD, List.getElem?_append, hlt]
  · have hle : (a.addVariant v).variants.length ≤ g := by
      rw [length_variants_addVariant]
      exact Nat.lt_of_le_of_ne (Nat.le_of_not_lt hlt) (Ne.symm hg)
    rw [variant_of_le hle, variant_of_le (Nat.le_of_not_lt hlt)]

@[simp] theorem length_variants_bindAll {hs : List Handle} :
    (a.bindAll c t hs).variants.length = a.variants.length := by
  induction hs generalizing a with
  | nil => rfl
  | cons h rest ih =>
    show ((a.bindVariant c t h).bindAll c t rest).variants.length = _
    rw [ih]
    exact length_variants_modifyVariant

@[simp] theorem clients_bindAll {hs : List Handle} : (a.bindAll c t hs).clients = a.clients := by
  induction hs generalizing a with
  | nil => rfl
  | cons h rest ih => exact ih

theorem client_bindAll {hs : List Handle} : (a.bindAll c t hs).client d = a.client d := by
  simp [client]

theorem variant_bindAll_of_not_mem {hs : List Handle} (hg : g ∉ hs) :
    (a.bindAll c t hs).variant g = a.variant g := by
  induction hs generalizing a with
  | nil => rfl
  | cons h rest ih =>
    rw [List.mem_cons, not_or] at hg
    show ((a.bindVariant c t h).bindAll c t rest).variant g = _
    rw [ih hg.2]
    exact variant_modifyVariant_ne hg.1

theorem variant_bindAll_of_mem {hs : List Handle} (hg : g ∈ hs) (hlt : g < a.variants.length) :
    (a.bindAll c t hs).variant g =
      { a.variant g with binding := some ⟨c, t.forFlag? (a.variant g).name⟩ } := by
  induction hs generalizing a with
  | nil => cases hg
  | cons h rest ih =>
    have hlt' : g < (a.bindVariant c t h).variants.length := by
      rw [bindVariant, length_variants_modifyVariant]
      exact hlt
    show ((a.bindVariant c t h).bindAll c t rest).variant g = _
    -- a variant that occurs again is bound to the same experiment again
    by_cases hgh : g = h
    · subst hgh
      have hself : (a.bindVariant c t g).variant g =
          { a.variant g with binding := some ⟨c, t.forFlag? (a.variant g).name⟩ } :=
        variant_modifyVariant_self hlt
      by_cases hr : g ∈ rest
      · rw [ih hr hlt', hself]
        rfl
      · rw [variant_bindAll_of_not_mem hr, hself]
    · have hr : g ∈ rest := (List.mem_cons.mp hg).resolve_left hgh
      have hne : (a.bindVariant c t h).variant g = a.variant g := variant_modifyVariant_ne hgh
      rw [ih hr hlt', hne]

theorem name?_bindAll {hs : List Handle} :
    ((a.bindAll c t hs).variant g).name? = (a.variant g).name? := by
  by_cases hlt : g < a.variants.length
  · by_cases hg : g ∈ hs
    · rw [variant_bindAll_of_mem hg hlt]
    · rw [variant_bindAll_of_not_mem hg]
  · have hle := Nat.le_of_not_lt hlt
    rw [variant_of_le hle, variant_of_le (by rw [length_variants_bindAll]; exact hle)]

theorem variant_add_self (hh : h < a.variants.length) :
    (a.add c name h).variant h = { (a.variant h).withName name with
      binding := some ⟨c, (a.client c).experiments.forFlag? ((a.variant h).withName name).name⟩ } := by
  have hn : ((a.giveName h name).storeFlag c name h).variant h = (a.variant h).withName name :=
    variant_modifyVariant_self hh
  have hlt : h < ((a.giveName h name).storeFlag c name h).variants.length := by
    simpa [storeFlag, giveName, modifyClient] using hh
  rw [add, bindVariant, variant_modifyVariant_self hlt, hn]

theorem variant_add_ne (hg : g ≠ h) : (a.add c name h).variant g = a.variant g := by
  rw [add, bindVariant, variant_modifyVariant_ne hg]
  exact variant_modifyVariant_ne hg

@[simp] theorem length_variants_add : (a.add c name h).variants.length = a.variants.length := by
  simp [add, bindVariant, storeFlag, giveName, modifyClient]

@[simp] theorem length_clients_add : (a.add c name h).clients.length = a.clients.length := by
  simp [add, bindVariant, storeFlag, giveName, modifyVariant, modifyClient]

theorem client_add_self (hc : c < a.clients.length) :
    (a.add c name h).client c = { a.client c with flags := (a.client c).flags.insert name h } :=
  client_modifyClient_self (a := a.giveName h name) hc

theorem client_add_ne (hd : d ≠ c) : (a.add c name h).client d = a.client d :=
  client_modifyClient_ne (a := a.giveName h name) hd

theorem client_add_congr {β : Type} (p : Client → β) (hp : ∀ s f, p { s with flags := f } = p s) :
    p ((a.add c name h).client d) = p (a.client d) :=
  client_modifyClient_congr (a := a.giveName h name) p fun s => hp s _

theorem findFlag?_add (hc : c < a.clients.length) (m : String) :
    (a.add c name h).findFlag? c m = if m = name then some h else a.findFlag? c m := by
  rw [findFlag?, client_add_self hc]
  exact Dict.find?_insert

theorem length_variants_make : (a.make c name v).variants.length = a.variants.length + 1 := by
  rw [make, length_variants_add, length_variants_addVariant]

theorem variant_make_self : (a.make c name v).variant a.variants.length =
    { v.withName name with
      binding := some ⟨c, (a.client c).experiments.forFlag? (v.withName name).name⟩ } := by
  rw [make, variant_add_self lt_length_addVariant, variant_addVariant_self]
  rfl

theorem variant_make_fresh (hv : v.name? = none) :
    ((a.make c name v).variant a.variants.length).name? = some name ∧
      ((a.make c name v).variant a.variants.length).binding =
        some ⟨c, (a.client c).experiments.forFlag? name⟩ := by
  have hname : (v.withName name).name? = some name := by rw [Variant.withName, hv]; rfl
  rw [variant_make_self]
  refine ⟨hname, ?_⟩
  rw [Variant.name, hname]
  rfl

theorem variant_make_ne (hg : g ≠ a.variants.length) :
    (a.make c name v).variant g = a.variant g := by
  rw [make, variant_add_ne hg, variant_addVariant_ne hg]

theorem client_make_congr {β : Type} (p : Client → β) (hp : ∀ s f, p { s with flags := f } = p s) :
    p ((a.make c name v).client d) = p (a.client d) :=
  client_add_congr (a := a.addVariant v) p hp

theorem findFlag?_make (hc : c < a.clients.length) (m : String) : (a.make c name v).findFlag? c m =
    if m = name then some a.variants.length else a.findFlag? c m :=
  findFlag?_add (a := a.addVariant v) hc m

@[simp] theorem events_bindAll {hs : List Handle} : (a.bindAll c t hs).events = a.events := by
  induction hs generalizing a with
  | nil => rfl
  | cons h rest ih => exact ih

@[simp] theorem events_addAll {entries : List (String × Handle)} :
    (a.addAll c entries).events = a.events := by
  induction entries generalizing a with
  | nil => rfl
  | cons e rest ih => exact ih

theorem clients_configure : (a.configure c t).clients = (a.swapTable c t).clients := clients_bindAll

theorem client_configure : (a.configure c t).client d = (a.swapTable c t).client d := client_bindAll

@[simp] theorem length_variants_configure : (a.configure c t).variants.length = a.variants.length :=
  length_variants_bindAll

@[simp] theorem length_clients_configure : (a.configure c t).clients.length = a.clients.length := by
  rw [clients_configure]
  exact length_clients_modifyClient

theorem name?_configure : ((a.configure c t).variant g).name? = (a.variant g).name? := name?_bindAll

theorem client_configure_self (hc : c < a.clients.length) :
    (a.configure c t).client c = { a.client c with experiments := t } := by
  rw [client_configure]
  exact client_modifyClient_self hc

theorem client_configure_ne (hd : d ≠ c) : (a.configure c t).client d = a.client d := by
  rw [client_configure]
  exact client_modifyClient_ne hd

theorem client_configure_congr {β : Type} (p : Client → β)
    (hp : ∀ s t, p { s with experiments := t } = p s) :
    p ((a.configure c t).client d) = p (a.client d) := by
  rw [client_configure]
  exact client_modifyClient_congr p fun s => hp s _

theorem mem_handles_iff {s : Dict Handle} :
    h ∈ s.entries.map Prod.snd ↔ ∃ name, s.find? name = some h := by
  rw [List.mem_map]
  constructor
  · rintro ⟨⟨n, g⟩, he, rfl⟩
    exact ⟨n, Dict.mem_entries_iff.mp he⟩
  · rintro ⟨n, hn⟩
    exact ⟨(n, h), Dict.mem_entries_iff.mpr hn, rfl⟩

theorem flags_swapTable : ((a.swapTable c t).client d).flags = (a.client d).flags :=
  client_modifyClient_congr Client.flags fun _ => rfl

/-- A stored variant of the client is bound to the new experiments. -/
theorem variant_configure_of_stored (hc : c < a.clients.length)
    (hn : (a.client c).flags.find? name = some h) (hh : h < a.variants.length) :
    (a.configure c t).variant h =
      { a.variant h with binding := some ⟨c, t.forFlag? (a.variant h).name⟩ } := by
  have ht : ((a.swapTable c t).client c).experiments = t := by
    rw [swapTable, client_modifyClient_self hc]
  have hm : h ∈ ((a.swapTable c t).client c).flags.entries.map Prod.snd := by
    rw [flags_swapTable]
    exact mem_handles_iff.mpr ⟨name, hn⟩
  have hb := @variant_bindAll_of_mem (a.swapTable c t) c h ((a.swapTable c t).client c).experiments
    _ hm hh
  rw [ht] at hb
  rw [configure, ht]
  exact hb

/-- A variant that is not stored keeps its binding. -/
theorem variant_configure_of_not_stored (hn : ∀ name, (a.client c).flags.find? name ≠ some h) :
    (a.configure c t).variant h = a.variant h := by
  have hm : h ∉ ((a.swapTable c t).client c).flags.entries.map Prod.snd := by
    rw [flags_swapTable, mem_handles_iff]
    rintro ⟨n, h'⟩
    exact hn n h'
  exact variant_bindAll_of_not_mem hm

end Reading

/-! ## The computations that change names and bindings -/

namespace Run

variable {α β : Type} {a b : Application} {c : ClientId} {h : Handle} {name : String}

section State

-- nothing here depends on what the state is
variable {σ : Type} {s t : σ}

theorem run_bind_ok {x : ExceptT Stop (StateM σ) α} {f : α → ExceptT Stop (StateM σ) β} {v : α}
    (hx : x.run s = (.ok v, t)) : (x >>= f).run s = (f v).run t := by
  show (x.run >>= ExceptT.bindCont f) s = _
  show (match x.run s with | (r, s) => ExceptT.bindCont f r s) = _
  rw [hx]
  rfl

theorem run_bind_error {x : ExceptT Stop (StateM σ) α} {f : α → ExceptT Stop (StateM σ) β} {e : Stop}
    (hx : x.run s = (.error e, t)) : (x >>= f).run s = (.error e, t) := by
  show (x.run >>= ExceptT.bindCont f) s = _
  show (match x.run s with | (r, s) => ExceptT.bindCont f r s) = _
  rw [hx]
  rfl

theorem run_tryCatch {x : ExceptT Stop (StateM σ) α} {f : Stop → ExceptT Stop (StateM σ) α} :
    (tryCatch x f).run s =
      match x.run s with
      | (.ok v, t) => (.ok v, t)
      | (.error e, t) => (f e).run t := by
  rcases hx : x.run s with ⟨r, t⟩
  have hx' : x s = (r, t) := hx
  simp only [tryCatch, tryCatchThe, MonadExceptOf.tryCatch, ExceptT.tryCatch, ExceptT.run_mk, bind,
    StateT.bind, hx']
  cases r <;> rfl

end State

theorem run_bind_pure_snd {x : Run α} {f : α → β} :
    ((x >>= fun v => pure (f v)).run a).2 = (x.run a).2 := by
  rcases hx : x.run a with ⟨e | v, b⟩
  · rw [run_bind_error hx]
  · rw [run_bind_ok hx]
    rfl

/-- No delivery is among the events. -/
def Quiet (es : List Event) : Prop := ∀ e ∈ es, e.isDelivery = false

theorem Quiet.nil : Quiet [] := by
  intro e h
  cases h

theorem Quiet.cons {e : Event} {es : List Event} (he : e.isDelivery = false) (hs : Quiet es) :
    Quiet (e :: es) := by
  intro x h
  rcases List.mem_cons.mp h with rfl | h
  · exact he
  · exact hs x h

theorem Quiet.append {es fs : List Event} (he : Quiet es) (hf : Quiet fs) : Quiet (es ++ fs) := by
  intro e h
  exact (List.mem_append.mp h).elim (he e) (hf e)

theorem Quiet.reported {l : List α} {f : α → Diagnostic}
    (hf : ∀ x ∈ l, (Event.reported (f x)).isDelivery = false) :
    Quiet (l.map fun x => .reported (f x)) := by
  intro e h
  obtain ⟨x, hx, rfl⟩ := List.mem_map.mp h
  exact hf x hx

/-- All events are about names and bindings. -/
def Bookkeeping (es : List Event) : Prop := ∀ e ∈ es, e.isBookkeeping = true

theorem Bookkeeping.append {es fs : List Event} (he : Bookkeeping es) (hf : Bookkeeping fs) :
    Bookkeeping (es ++ fs) := List.forall_mem_append.mpr ⟨he, hf⟩

theorem Bookkeeping.quiet {es : List Event} (h : Bookkeeping es) : Quiet es := by
  intro e he
  have hb := h e he
  unfold Event.isBookkeeping at hb
  split at hb <;> first | rfl | cases hb

theorem tell_tell {es fs : List Event} : (a.tell es).tell fs = a.tell (es ++ fs) := by
  simp [tell, List.append_assoc]

theorem tell_nil : a.tell [] = a := by
  simp [tell]

theorem report_run {d : Diagnostic} : (report d).run a = (.ok (), a.tell [.reported d]) := rfl

theorem forM_report_run {l : List α} {f : α → Diagnostic} :
    (l.forM fun x => report (f x)).run a = (.ok (), a.tell (l.map fun x => .reported (f x))) := by
  induction l generalizing a with
  | nil => rw [List.map_nil, tell_nil]; rfl
  | cons x rest ih =>
    show (report (f x) >>= fun _ => rest.forM fun x => report (f x)).run a = _
    rw [run_bind_ok report_run, ih, tell_tell]
    rfl

theorem giveName_of_named {n : String} (hn : (a.variant h).name? = some n) :
    a.giveName h name = a := by
  have hl : a.variants.modify h (fun v => v.withName name) = a.variants := by
    apply List.ext_getElem?
    intro i
    rw [List.getElem?_modify]
    cases hv : a.variants[i]? with
    | none => rfl
    | some v =>
      show some (if h = i then v.withName name else v) = some v
      split
      · rename_i hi
        subst hi
        have hw : a.variant h = v := by
          rw [Application.variant, List.getD_eq_getElem?_getD, hv]
          rfl
        rw [hw] at hn
        show some { v with name? := v.name?.or (some name) } = some v
        rw [hn, Option.some_or, ← hn]
      · rfl
  rw [Application.giveName, modifyVariant, hl]

/-- A variant is named if it has no name; a different name is reported. -/
theorem giveName_run_eq : (giveName h name).run a = (.ok (),
    (a.tell (((a.variant h).naming name).toList.map .reported)).giveName h name) := by
  have hr : (variant h).run a = (.ok (a.variant h), a) := rfl
  rw [giveName, run_bind_ok hr]
  -- a second name is only reported, and naming again changes nothing
  cases hv : (a.variant h).naming name with
  | none =>
    rw [Option.toList_none, List.map_nil, tell_nil]
    rfl
  | some d =>
    obtain ⟨n, hn, rfl⟩ := Variant.named_of_naming hv
    rw [@giveName_of_named (a.tell _) h name n hn]
    rfl

theorem giveName_run :
    ∃ es, Bookkeeping es ∧ (giveName h name).run a = (.ok (), (a.tell es).giveName h name) := by
  refine ⟨_, ?_, giveName_run_eq⟩
  intro e he
  obtain ⟨d, hd, rfl⟩ := List.mem_map.mp he
  obtain ⟨n, -, rfl⟩ := Variant.named_of_naming (Option.mem_toList.mp hd)
  rfl

theorem bindVariant_run {t : ExperimentTable} :
    ∃ es, Bookkeeping es ∧ (bindVariant c t h).run a = (.ok (), (a.tell es).bindVariant c t h) :=
  let controlling := ((t.forFlag? (a.variant h).name).map (·.name)).getD ""
  ⟨[.reported (.bindingFlag (a.variant h).name controlling)], List.forall_mem_singleton.mpr rfl, rfl⟩

theorem forM_bindVariant_run {t : ExperimentTable} {entries : List (String × Handle)} :
    ∃ es, Bookkeeping es ∧ (entries.forM fun e => bindVariant c t e.2).run a =
      (.ok (), (a.tell es).bindAll c t (entries.map Prod.snd)) := by
  induction entries generalizing a with
  | nil => exact ⟨[], List.forall_mem_nil _, by rw [tell_nil]; rfl⟩
  | cons e rest ih =>
    obtain ⟨es, hes, hr⟩ := @bindVariant_run a c e.2 t
    obtain ⟨fs, hfs, hrest⟩ := @ih ((a.tell es).bindVariant c t e.2)
    refine ⟨es ++ fs, hes.append hfs, ?_⟩
    show (bindVariant c t e.2 >>= fun _ => rest.forM fun e => bindVariant c t e.2).run a = _
    rw [run_bind_ok hr, hrest, ← tell_tell]
    rfl

theorem bindAdded_run : ∃ es, Bookkeeping es ∧ (bindAdded c h).run a =
    (.ok (), (a.tell es).bindVariant c (a.client c).experiments h) := by
  have hc : (client c).run a = (.ok (a.client c), a) := rfl
  unfold bindAdded
  rw [run_bind_ok hc]
  exact bindVariant_run

/-- After a variant was stored it remains to bind it. -/
theorem announce_run {r : β} :
    ∃ es, Bookkeeping es ∧ ((flagStore c).announce h >>= fun _ => (pure r : Run β)).run
      ((a.giveName h name).storeFlag c name h) = (.ok r, (a.tell es).add c name h) := by
  obtain ⟨es, hes, hb⟩ := @bindAdded_run ((a.giveName h name).storeFlag c name h) c h
  -- storing the variant has not changed the table that it is bound to
  have ht : (((a.giveName h name).storeFlag c name h).client c).experiments =
      (a.client c).experiments := client_modifyClient_congr Client.experiments fun _ => rfl
  rw [ht] at hb
  refine ⟨es, hes, ?_⟩
  rw [show (flagStore c).announce h = bindAdded c h from rfl, run_bind_ok hb]
  rfl

theorem add_run : ∃ es, Bookkeeping es ∧ ((flagStore c).add name h).run a =
    (.ok (a.findFlag? c name), (a.tell es).add c name h) := by
  obtain ⟨es, hes, hn⟩ := @giveName_run a h name
  have hf : ((flagStore c).find? name).run ((a.tell es).giveName h name) =
      (.ok (a.findFlag? c name), (a.tell es).giveName h name) := rfl
  have hs : ((flagStore c).store name h).run ((a.tell es).giveName h name) =
      (.ok (), ((a.tell es).giveName h name).storeFlag c name h) := rfl
  have hn' : ((flagStore c).giveName h name).run a = (.ok (), (a.tell es).giveName h name) := hn
  unfold FlagStore.add
  rw [run_bind_ok hn', run_bind_ok hf, run_bind_ok hs]
  cases a.findFlag? c name with
  | none =>
    obtain ⟨fs, hfs, ha⟩ := @announce_run _ (a.tell es) c h name none
    exact ⟨es ++ fs, hes.append hfs, by rw [← tell_tell]; exact ha⟩
  | some g =>
    let replaced : Event := .reported (.replacedFlag name)
    obtain ⟨fs, hfs, ha⟩ := @announce_run _ ((a.tell es).tell [replaced]) c h name (some g)
    refine ⟨es ++ ([replaced] ++ fs), hes.append (List.forall_mem_cons.mpr ⟨rfl, hfs⟩), ?_⟩
    rw [← tell_tell, ← tell_tell]
    exact ha

/-- A missing variant is made and added in one step. -/
theorem getOrAdd_run {v : Variant} (hn : a.findFlag? c name = none) : ∃ es, Bookkeeping es ∧
    ((flagStore c).getOrAdd name (create v)).run a =
      (.ok a.variants.length, (a.tell es).make c name v) := by
  let h := a.variants.length
  obtain ⟨es, hes, hg⟩ := @giveName_run (a.addVariant v) h name
  have hf : ((flagStore c).find? name).run a = (.ok none, a) := by
    rw [← hn]
    rfl
  have hc : (create v).run a = (.ok h, a.addVariant v) := rfl
  let b := ((a.tell es).addVariant v).giveName h name
  have hg' : ((flagStore c).giveName h name).run (a.addVariant v) = (.ok (), b) := hg
  have hs : ((flagStore c).store name h).run b = (.ok (), b.storeFlag c name h) := rfl
  obtain ⟨fs, hfs, ha⟩ := @announce_run _ ((a.tell es).addVariant v) c h name h
  refine ⟨es ++ fs, hes.append hfs, ?_⟩
  unfold FlagStore.getOrAdd
  rw [run_bind_ok hf]
  show ((create v) >>= fun h => (flagStore c).giveName h name >>= fun _ =>
    (flagStore c).store name h >>= fun _ => (flagStore c).announce h >>= fun _ => pure h).run a = _
  rw [run_bind_ok hc, run_bind_ok hg', run_bind_ok hs, ha, ← tell_tell]
  rfl

theorem getOrAdd_run_of_found {create : Run Handle} (hn : a.findFlag? c name = some h) :
    ((flagStore c).getOrAdd name create).run a = (.ok h, a) := by
  have hf : ((flagStore c).find? name).run a = (.ok (some h), a) := by
    rw [← hn]
    rfl
  unfold FlagStore.getOrAdd
  rw [run_bind_ok hf]
  rfl

theorem forM_add_run {entries : List (String × Handle)} : ∃ es, Bookkeeping es ∧
    (entries.forM fun e => do let _ ← (flagStore c).add e.1 e.2).run a =
      (.ok (), (a.tell es).addAll c entries) := by
  induction entries generalizing a with
  | nil => exact ⟨[], List.forall_mem_nil _, by rw [tell_nil]; rfl⟩
  | cons e rest ih =>
    obtain ⟨es, hes, hr⟩ := @add_run a c e.2 e.1
    obtain ⟨fs, hfs, hrest⟩ := @ih ((a.tell es).add c e.1 e.2)
    refine ⟨es ++ fs, hes.append hfs, ?_⟩
    have he : (do let _ ← (flagStore c).add e.1 e.2 : Run Unit).run a =
        (.ok (), (a.tell es).add c e.1 e.2) := by
      rw [run_bind_ok hr]
      rfl
    show ((do let _ ← (flagStore c).add e.1 e.2) >>= fun _ =>
      rest.forM fun e => do let _ ← (flagStore c).add e.1 e.2).run a = _
    rw [run_bind_ok he, hrest, ← tell_tell]
    rfl

theorem register_run_of_registered {r : Container}
    (hn : (a.client c).namespaces.contains r.nameSpace = true) :
    (register c r).run a = (.ok (.refused (.duplicateNamespace r.nameSpace)),
      a.tell [.reported (.duplicateNamespace r.nameSpace)]) := by
  have hc : (client c).run a = (.ok (a.client c), a) := rfl
  unfold register
  rw [run_bind_ok hc, if_pos hn]
  rfl

/-- A container with a new namespace is registered by adding its variants in order. -/
theorem register_run {r : Container} (hn : (a.client c).namespaces.contains r.nameSpace = false) :
    ∃ es, Bookkeeping es ∧ (register c r).run a =
      (.ok .done, ((a.modifyClient c (·.claim r.nameSpace)).tell es).addAll c r.entries) := by
  have hc : (client c).run a = (.ok (a.client c), a) := rfl
  let b := a.modifyClient c (·.claim r.nameSpace)
  have hm : (modifyClient c (·.claim r.nameSpace)).run a = (.ok (), b) := rfl
  obtain ⟨es, hes, hf⟩ := @forM_add_run b c r.entries
  refine ⟨es, hes, ?_⟩
  unfold register
  rw [run_bind_ok hc, if_neg (Bool.eq_false_iff.mp hn)]
  show (modifyClient c (·.claim r.nameSpace) >>= fun _ =>
    (r.entries.forM fun e => do let _ ← (flagStore c).add e.1 e.2) >>= fun _ =>
      (pure Response.done : Run Response)).run a = _
  rw [run_bind_ok hm, run_bind_ok hf]
  rfl

theorem bindAll_tell {t : ExperimentTable} {hs : List Handle} {es : List Event} :
    (a.tell es).bindAll c t hs = (a.bindAll c t hs).tell es := by
  induction hs generalizing a with
  | nil => rfl
  | cons h rest ih => exact @ih (a.bindVariant c t h)

theorem rebind_run : ∃ es, Bookkeeping es ∧ (rebind c).run a = (.ok (),
    (a.tell es).bindAll c (a.client c).experiments ((a.client c).flags.entries.map Prod.snd)) := by
  let s := a.client c
  obtain ⟨es, hes, hb⟩ := @forM_bindVariant_run a c s.experiments s.flags.entries
  let last : Event := .reported (.reboundFlags s.experiments.size s.flags.size)
  have hc : (client c).run a = (.ok s, a) := rfl
  refine ⟨es ++ [last], hes.append (List.forall_mem_singleton.mpr rfl), ?_⟩
  unfold rebind
  rw [run_bind_ok hc, run_bind_ok hb, ← tell_tell, bindAll_tell, bindAll_tell, bindAll_tell]
  rfl

section Shadowings

open ExperimentTable

theorem quiet_addFlags {m : ExperimentModel} {flags : List String} {s : Assignment}
    (hs : Quiet (s.shadowings.map .reported)) :
    Quiet ((flags.foldl (Assignment.addFlag m) s).shadowings.map .reported) := by
  induction flags generalizing s with
  | nil => exact hs
  | cons f rest ih =>
    apply ih
    unfold Assignment.addFlag
    split
    · rw [List.map_append]
      exact hs.append (.cons rfl .nil)
    · exact hs

theorem quiet_addModels {models : List ExperimentModel} {s : Assignment}
    (hs : Quiet (s.shadowings.map .reported)) :
    Quiet ((models.foldl Assignment.addModel s).shadowings.map .reported) := by
  induction models generalizing s with
  | nil => exact hs
  | cons m rest ih => exact ih (quiet_addFlags hs)

theorem quiet_shadowings {models : List ExperimentModel} :
    Quiet ((shadowings models).map .reported) := quiet_addModels .nil

end Shadowings

/-- Other experiments are put in force in one step, after reports of shadowed flags. -/
theorem setExperiments_run {models : List ExperimentModel} : ∃ es, Bookkeeping es ∧
    (setExperiments c models).run a = (.ok (),
      (a.tell ((ExperimentTable.shadowings models).map .reported ++ es)).configure c
        (.ofModels models)) := by
  let told := (ExperimentTable.shadowings models).map fun d => Event.reported d
  let b := (a.tell told).swapTable c (.ofModels models)
  have hs : (modify (·.swapTable c (.ofModels models)) : Run Unit).run (a.tell told) =
      (.ok (), b) := rfl
  obtain ⟨es, hes, hb⟩ := @rebind_run b c
  refine ⟨es, hes, ?_⟩
  unfold setExperiments
  rw [run_bind_ok (f := fun _ => _) forM_report_run, run_bind_ok hs, hb, ← tell_tell]
  rfl

/-- A readable configuration is put in force; any other payload is refused. -/
theorem applyConfiguration_run {payload : String} :
    ∃ es, Quiet es ∧ (applyConfiguration c payload).run a =
    match Configuration.read payload with
    | .ok k => (.ok .done, (a.tell es).configure c (.ofModels k.models))
    | .error fault => (.ok (.refused (.invalidConfiguration fault)), a.tell es) := by
  unfold applyConfiguration
  cases Configuration.read payload with
  | error fault => exact ⟨[.reported .unreadableConfiguration], .cons rfl .nil, rfl⟩
  | ok k =>
    let told := k.misfits.map fun v => Event.reported (.skippedExperiment v)
    have hq : Quiet told := .reported fun v _ => rfl
    obtain ⟨es, hes, hr⟩ := @setExperiments_run (a.tell told) c k.models
    refine ⟨told ++ ((ExperimentTable.shadowings k.models).map .reported ++ es),
      hq.append (quiet_shadowings.append hes.quiet), ?_⟩
    show ((k.misfits.forM fun v => report (.skippedExperiment v)) >>= fun _ =>
      setExperiments c k.models >>= fun _ => pure Response.done).run a = _
    rw [run_bind_ok forM_report_run, run_bind_ok hr, tell_tell]
    rfl

end Run

end Application

end FeatureFlags
