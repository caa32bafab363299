import FeatureFlags.Proofs.Asking

/-!
# Lookups that overlap an addition

A call for an unknown name stores the new variant under one lock, and binds it after that lock was
released. In between another call can find the variant, unbound.

Concurrent calls for values by name are compared with asking for the same names one after the other,
in the order in which they were looked up (`askAll`). `Asking` is the invariant: at every moment
clients are the same, and so are variants, except those that some caller has made and has still to
bind. So each call evaluates the variant that it would evaluate in that order, unless another caller
has made it and not bound it yet. If user code makes no requests, a call that sees a bound variant
also answers as in that order (`Turn.answersAlike`). The main result is `asked_unless_half_added`.
-/

namespace FeatureFlags

open Application

/-- Whether a section belongs to binding a variant that its caller has made. -/
def Section.Prepares (t : ExperimentTable) (h : Handle) : Section → Prop
  | .report _ => True
  | .announce g => g = h
  | .bind t' g | .write t' g => t' = t ∧ g = h
  | _ => False

namespace Section

variable {c : ClientId} {a b : Application} {x : Section} {next : List Section} {h g : Handle}
  {t : ExperimentTable}

theorem Prepares.eq (hx : x.Prepares t h) (hg : x.Covers t g) : g = h := by
  cases x with
  | announce e => exact Eq.trans (Eq.symm hg) hx
  | bind t' e => exact hg.2.symm.trans hx.2
  | write t' e => exact hg.2.symm.trans hx.2
  | report d => exact hg.elim
  | _ => exact hx.elim

/-- A section of preparing a variant is followed by sections of the same kind, and changes nothing
unless it is the write that binds the variant. -/
theorem Does.prepares (hx : x.Does c a b next) (ht : (a.client c).experiments = t)
    (hp : x.Prepares t h) :
    (∀ y ∈ next, y.Prepares t h) ∧ b.clients = a.clients ∧
      (b.variants = a.variants ∧ (x.Covers t h → ∃ y ∈ next, y.Covers t h) ∨
        x = .write t h ∧ b.variants = (a.bindVariant c t h).variants) := by
  cases hx with
  | report d => exact ⟨List.forall_mem_nil _, rfl, .inl ⟨rfl, fun hc => hc.elim⟩⟩
  | announce e =>
    have he : e = h := hp
    subst he ht
    have hbind : (Section.bind (a.client c).experiments e).Prepares (a.client c).experiments e :=
      ⟨rfl, rfl⟩
    exact ⟨List.forall_mem_singleton.mpr hbind, rfl,
      .inl ⟨rfl, fun _ => ⟨_, List.mem_cons_self, hbind⟩⟩⟩
  | bind t' e =>
    obtain ⟨rfl, rfl⟩ := hp
    have hwrite : (Section.write t' e).Prepares t' e := ⟨rfl, rfl⟩
    exact ⟨List.forall_mem_cons.mpr ⟨trivial, List.forall_mem_singleton.mpr hwrite⟩, rfl,
      .inl ⟨rfl, fun _ => ⟨_, List.mem_cons_of_mem _ List.mem_cons_self, hwrite⟩⟩⟩
  | write t' e =>
    obtain ⟨rfl, rfl⟩ := hp
    exact ⟨List.forall_mem_nil _, rfl, .inr ⟨rfl, rfl⟩⟩
  | _ => exact hp.elim

end Section

namespace Traffic

/-- The names that were looked up, in order, with the variants to be made for them. -/
def Log.asked (k : Log) : List (String × Variant) :=
  k.filterMap fun l =>
    match l.2 with
    | .fetch name v _ => some (name, v)
    | _ => none

/-- The requests of the callers that have looked their variants up, in order, each with a limit on
nesting. -/
def Log.calls (k : Log) (requests : List (Request Program)) (limit : Nat) :
    List (Nat × Request Program) :=
  k.filterMap fun l =>
    match l.2 with
    | .fetch .. => requests[l.1]?.map (limit, ·)
    | _ => none

def Log.looks (k : Log) (i : Nat) : List Section :=
  k.filterMap fun l =>
    match l.2 with
    | .look .. => if l.1 = i then some l.2 else none
    | _ => none

/-- The progress of a call for a value; `b` is the application after all names looked up so far have
been asked for in sequence. -/
inductive Stage (c : ClientId) (t : ExperimentTable) (b : Application) (k : Log) (i : Nat)
    (name : String) (v : Variant) (q : Question) : List Section → Prop
  /-- The call has not begun. -/
  | asking (hl : k.looks i = []) : Stage c t b k i name v q [.fetch name v q]
  /-- The call has found its variant, or made it and is binding it. -/
  | looking {h : Handle} {isNew : Bool} {l : List Section} (hk : (i, .fetch name v q) ∈ k)
    (hf : b.findFlag? c name = some h) (hpre : ∀ x ∈ l, isNew = true ∧ x.Prepares t h)
    (hl : k.looks i = []) : Stage c t b k i name v q (l ++ [.look h isNew q])
  /-- The call has looked at its variant. -/
  | ended {h : Handle} {isNew : Bool} (hl : k.looks i = [.look h isNew q]) :
    Stage c t b k i name v q []

/-- The next section of a call, and the sections after it. -/
inductive Stage.Next (t : ExperimentTable) (b : Application) (c : ClientId) (k : Log) (i : Nat)
    (name : String) (v : Variant) (q : Question) : Section → List Section → Prop
  | fetch : Next t b c k i name v q (.fetch name v q) []
  | look {h : Handle} {isNew : Bool} (hk : (i, .fetch name v q) ∈ k)
    (hf : b.findFlag? c name = some h) : Next t b c k i name v q (.look h isNew q) []
  | prepare {h : Handle} {x : Section} {l : List Section} (hk : (i, .fetch name v q) ∈ k)
    (hf : b.findFlag? c name = some h) (hx : x.Prepares t h) (hl : ∀ y ∈ l, y.Prepares t h) :
    Next t b c k i name v q x (l ++ [.look h true q])

/-- The state of concurrent calls for values by name; `b` is the application after all names looked up
so far have been asked for in sequence, and `t` is the table in force. -/
structure Asking (c : ClientId) (t : ExperimentTable) (requests : List (Request Program))
    (b : Application) (k : Log) (s : Traffic) : Prop where
  upToDate : b.UpToDate c
  client : c < b.clients.length
  experiments : (b.client c).experiments = t
  clients : s.app.clients = b.clients
  size : s.app.variants.length = b.variants.length
  /-- A variant is the same as in sequence, unless the caller that has made it has still to bind it. -/
  variant : ∀ h, s.app.variant h = b.variant h ∨
    s.app.variant h = { b.variant h with binding := none } ∧
      ∃ i x, s.Pending i x ∧ x.Covers t h
  /-- No two callers have made the same variant. -/
  maker : ∀ h i j q p, s.Pending i (.look h true q) → s.Pending j (.look h true p) → i = j
  callers : s.agendas.length = requests.length
  stage : ∀ i agenda, s.agendas[i]? = some agenda → ∃ r name v q, requests[i]? = some r ∧
    r.Asks name v q ∧ Stage c t b k i name v q agenda

variable {c : ClientId} {t : ExperimentTable} {a b d : Application} {k k' : Log} {i j : Nat}
  {name : String} {v : Variant} {q : Question} {x : Section} {agenda rest : List Section}
  {h : Handle} {isNew : Bool}

theorem Log.asked_append : Log.asked (k ++ k') = k.asked ++ k'.asked := List.filterMap_append ..

theorem Log.looks_append : Log.looks (k ++ k') i = k.looks i ++ k'.looks i := List.filterMap_append ..

theorem Log.looks_other (hj : j ≠ i) : Log.looks (k ++ [(i, x)]) j = k.looks j := by
  have hnone : Log.looks [(i, x)] j = [] := by
    cases x <;> simp [Log.looks, Ne.symm hj]
  rw [Log.looks_append, hnone, List.append_nil]

namespace Stage

theorem mono (hst : Stage c t b k i name v q agenda) (hk : ∀ l ∈ k, l ∈ k')
    (hl : k'.looks i = k.looks i)
    (hb : ∀ n g, b.findFlag? c n = some g → d.findFlag? c n = some g) :
    Stage c t d k' i name v q agenda := by
  cases hst with
  | asking hl' => exact .asking (hl.trans hl')
  | looking hk' hf hpre hl' => exact .looking (hk _ hk') (hb _ _ hf) hpre (hl.trans hl')
  | ended hl' => exact .ended (hl.trans hl')

theorem next (hst : Stage c t b k i name v q (x :: rest)) :
    k.looks i = [] ∧ Next t b c k i name v q x rest := by
  generalize hagenda : x :: rest = agenda at hst
  cases hst with
  | asking hl =>
    cases hagenda
    exact ⟨hl, .fetch⟩
  | @looking h isNew l hk hf hpre hl =>
    refine ⟨hl, ?_⟩
    cases l with
    | nil =>
      cases hagenda
      exact .look hk hf
    | cons y l =>
      cases hagenda
      obtain ⟨⟨rfl, hx⟩, hrest⟩ := List.forall_mem_cons.mp hpre
      exact .prepare hk hf hx fun z hz => (hrest z hz).2
  | ended hl => cases hagenda

theorem ended_of_nil (hst : Stage c t b k i name v q []) :
    ∃ h isNew q, k.looks i = [.look h isNew q] := by
  generalize hagenda : [] = agenda at hst
  cases hst with
  | asking => cases hagenda
  | looking => simp at hagenda
  | ended hl => exact ⟨_, _, _, hl⟩

theorem look_of_covers (hst : Stage c t b k i name v q agenda) (hx : x ∈ agenda)
    (hh : x.Covers t h) : .look h true q ∈ agenda := by
  cases hst with
  | asking =>
    cases List.mem_singleton.mp hx
    exact hh.elim
  | looking hk hf hpre hl =>
    rcases List.mem_append.mp hx with hx | hx
    · obtain ⟨rfl, hp⟩ := hpre x hx
      rw [hp.eq hh]
      exact List.mem_append_right _ List.mem_cons_self
    · cases List.mem_singleton.mp hx
      exact hh.elim
  | ended => cases hx

theorem found_of_look {p : Question} (hst : Stage c t b k i name v q agenda)
    (hx : .look h isNew p ∈ agenda) : b.findFlag? c name = some h := by
  cases hst with
  | asking => cases List.mem_singleton.mp hx
  | looking hk hf hpre hl =>
    rcases List.mem_append.mp hx with hx | hx
    · exact (hpre _ hx).2.elim
    · cases List.mem_singleton.mp hx
      exact hf
  | ended => cases hx

end Stage

namespace Asking

variable {requests : List (Request Program)} {s u : Traffic} {next : List Section} {g : Handle}

theorem client_eq (hs : Asking c t requests b k s) (d : ClientId) : s.app.client d = b.client d :=
  client_congr hs.clients d

theorem findFlag?_eq (hs : Asking c t requests b k s) (name : String) :
    s.app.findFlag? c name = b.findFlag? c name := congrArg (·.flags.find? name) (hs.client_eq c)

theorem look_of_covers (hs : Asking c t requests b k s) (hx : s.Pending i x) (hh : x.Covers t h) :
    ∃ q, s.Pending i (.look h true q) := by
  obtain ⟨agenda, hi, hx⟩ := hx
  obtain ⟨_, _, _, q, _, _, hst⟩ := hs.stage i agenda hi
  exact ⟨q, agenda, hi, hst.look_of_covers hx hh⟩

theorem found_of_look (hs : Asking c t requests b k s) (hx : s.Pending i (.look h isNew q)) :
    ∃ name, b.findFlag? c name = some h := by
  obtain ⟨agenda, hi, hx⟩ := hx
  obtain ⟨_, name, _, _, _, _, hst⟩ := hs.stage i agenda hi
  exact ⟨name, hst.found_of_look hx⟩

theorem stages (hs : Asking c t requests b k s) (hu : u.agendas = s.agendas.set i agenda)
    (hi : s.agendas[i]? = some (x :: rest))
    (hd : ∀ n g, b.findFlag? c n = some g → d.findFlag? c n = some g)
    (hown : ∀ name v q, Stage c t b k i name v q (x :: rest) →
      Stage c t d (k ++ [(i, x)]) i name v q agenda) :
    ∀ j agenda, u.agendas[j]? = some agenda → ∃ r name v q, requests[j]? = some r ∧
      r.Asks name v q ∧ Stage c t d (k ++ [(i, x)]) j name v q agenda := by
  intro j agenda' hj
  rw [hu] at hj
  by_cases hji : j = i
  · subst hji
    have hlt := (List.getElem?_eq_some_iff.mp hi).1
    rw [List.getElem?_set_self hlt] at hj
    cases hj
    obtain ⟨r, name, v, q, hr, hask, hst⟩ := hs.stage j _ hi
    exact ⟨r, name, v, q, hr, hask, hown name v q hst⟩
  · rw [List.getElem?_set_ne (Ne.symm hji)] at hj
    obtain ⟨r, name, v, q, hr, hask, hst⟩ := hs.stage j agenda' hj
    exact ⟨r, name, v, q, hr, hask,
      hst.mono (fun _ hl => List.mem_append_left _ hl) (Log.looks_other hji) hd⟩

theorem advance (hs : Asking c t requests b k s) (hm : Moves c s i x next u)
    (hclients : u.app.clients = s.app.clients)
    (hsize : u.app.variants.length = s.app.variants.length)
    (hvariant : ∀ g, u.app.variant g = b.variant g ∨
      u.app.variant g = s.app.variant g ∧ (x.Covers t g → ∃ y ∈ next, y.Covers t g))
    (hlook : ∀ g p, .look g true p ∉ next) (hcallers : u.agendas.length = s.agendas.length)
    (hstage : ∀ j agenda, u.agendas[j]? = some agenda → ∃ r name v q, requests[j]? = some r ∧
      r.Asks name v q ∧ Stage c t b (k ++ [(i, x)]) j name v q agenda) :
    Asking c t requests b (k ++ [(i, x)]) u := by
  constructor
  case upToDate => exact hs.upToDate
  case client => exact hs.client
  case experiments => exact hs.experiments
  case clients => exact hclients.trans hs.clients
  case size => exact hsize.trans hs.size
  case variant =>
    intro g
    rcases hvariant g with hg | ⟨hg, hnext⟩
    · exact .inl hg
    rw [hg]
    rcases hs.variant g with hb | ⟨hb, j, y, hy, hcover⟩
    · exact .inl hb
    refine .inr ⟨hb, ?_⟩
    rcases hm.kept j y hy with ⟨rfl, rfl⟩ | hy
    · obtain ⟨z, hz, hcover⟩ := hnext hcover
      exact ⟨j, z, hm.new z hz, hcover⟩
    · exact ⟨j, y, hy, hcover⟩
  case maker =>
    have hold : ∀ j g p, u.Pending j (.look g true p) → s.Pending j (.look g true p) := by
      intro j g p hp
      rcases hm.of_pending j _ hp with hp | ⟨-, hp⟩
      · exact hp
      · exact absurd hp (hlook g p)
    exact fun g j j' q p hq hp => hs.maker g j j' q p (hold j g q hq) (hold j' g p hp)
  case callers => exact hcallers.trans hs.callers
  case stage => exact hstage

theorem look (hs : Asking c t requests b k s) (h : Step c s (i, .look g isNew q) u) :
    Asking c t requests b (k ++ [(i, .look g isNew q)]) u := by
  obtain ⟨rest, next, hi, hu, hm⟩ := h.agenda
  obtain ⟨happ, rfl⟩ := hm.does.of_look
  refine hs.advance hm (by rw [happ]) (by rw [happ]) (fun e => .inr ⟨by rw [happ], fun hc => hc.elim⟩)
    (fun _ _ => List.not_mem_nil) (by rw [hu, List.length_set]) ?_
  refine hs.stages hu hi (fun _ _ hf => hf) fun name v p hst => ?_
  obtain ⟨hl, hnext⟩ := hst.next
  cases hnext with
  | look hk hf =>
    have hlooks : Log.looks [(i, .look g isNew q)] i = [.look g isNew q] := by simp [Log.looks]
    exact .ended (by rw [Log.looks_append, hl, hlooks]; rfl)
  | prepare _ _ hx => exact hx.elim

/-- The write binds the variant to what it would be bound to in sequence. -/
theorem variant_bindVariant (hs : Asking c t requests b k s) (hf : b.findFlag? c name = some h) :
    (s.app.bindVariant c t h).variant h = b.variant h := by
  have hb : b.BoundTo c t h := by
    have hbound := hs.upToDate.bound name h hf
    rwa [hs.experiments] at hbound
  have hlt : h < s.app.variants.length := by
    rw [hs.size]
    exact (hs.upToDate.named name h hf).lt
  -- bound or not, the variant is what it would be but for its binding
  have hv : { s.app.variant h with binding := none } = { b.variant h with binding := none } := by
    rcases hs.variant h with hv | ⟨hv, -⟩ <;> rw [hv]
  have hn : (s.app.variant h).name = (b.variant h).name := by
    have hname := congrArg Variant.name hv
    exact hname
  calc (s.app.bindVariant c t h).variant h
      = { s.app.variant h with binding := some ⟨c, t.forFlag? (s.app.variant h).name⟩ } :=
        variant_modifyVariant_self hlt
    _ = { s.app.variant h with binding := (b.variant h).binding } := by rw [hn, hb]
    _ = b.variant h := congrArg (fun w : Variant => { w with binding := (b.variant h).binding }) hv

theorem prepare (hs : Asking c t requests b k s) (h : Step c s (i, x) u) (hx : x.Prepares t g)
    (hf : b.findFlag? c name = some g) : Asking c t requests b (k ++ [(i, x)]) u := by
  obtain ⟨rest, next, hi, hu, hm⟩ := h.agenda
  have ht : (s.app.client c).experiments = t := by rw [hs.client_eq, hs.experiments]
  obtain ⟨hnext, hclients, hvariants⟩ := hm.does.prepares ht hx
  refine hs.advance hm hclients ?size ?variant ?look (by rw [hu, List.length_set]) ?stage
  case size =>
    rcases hvariants with ⟨hv, -⟩ | ⟨-, hv⟩
    · rw [hv]
    · rw [hv]
      exact length_variants_modifyVariant
  case variant =>
    intro e
    rcases hvariants with ⟨hv, hcovers⟩ | ⟨rfl, hv⟩
    · refine .inr ⟨variant_congr hv e, fun hc => ?_⟩
      obtain rfl := hx.eq hc
      exact hcovers hc
    · by_cases he : e = g
      · subst he
        exact .inl ((variant_congr hv e).trans (hs.variant_bindVariant hf))
      · refine .inr ⟨(variant_congr hv e).trans (variant_modifyVariant_ne he), fun hc => ?_⟩
        exact absurd (hx.eq hc) he
  case look => exact fun e p he => hnext _ he
  case stage =>
    refine hs.stages hu hi (fun _ _ hf => hf) fun name v q hst => ?_
    obtain ⟨hl, hsection⟩ := hst.next
    cases hsection with
    | fetch => exact hx.elim
    | look => exact hx.elim
    | prepare hk hf' hx' hlater =>
      have hnext' := (hm.does.prepares ht hx').1
      rw [← List.append_assoc]
      refine .looking (List.mem_append_left _ hk) hf' (fun y hy => ⟨rfl, ?_⟩) ?_
      · rcases List.mem_append.mp hy with hy | hy
        · exact hnext' y hy
        · exact hlater y hy
      · have hlooks : Log.looks [(i, x)] i = [] := by
          cases x with
          | look => exact hx.elim
          | _ => rfl
        rw [Log.looks_append, hl, hlooks, List.nil_append]

theorem found (hs : Asking c t requests b k s) (h : Step c s (i, .fetch name v q) u)
    (hf : b.findFlag? c name = some g) : Asking c t requests b (k ++ [(i, .fetch name v q)]) u := by
  obtain ⟨rest, next, hi, hu, hm⟩ := h.agenda
  obtain ⟨happ, rfl⟩ := hm.does.of_fetch_of_found ((hs.findFlag?_eq name).trans hf)
  refine hs.advance hm (by rw [happ]) (by rw [happ])
    (fun e => .inr ⟨by rw [happ], fun hc => hc.elim⟩) (by simp) (by rw [hu, List.length_set]) ?_
  refine hs.stages hu hi (fun _ _ hf => hf) fun name v p hst => ?_
  obtain ⟨hl, hnext⟩ := hst.next
  cases hnext with
  | fetch =>
    exact .looking (l := []) (by simp) hf (List.forall_mem_nil _) (by rw [Log.looks_append, hl]; rfl)
  | prepare _ _ hx => exact hx.elim

theorem made (hs : Asking c t requests b k s) (h : Step c s (i, .fetch name v q) u)
    (hv : v.name? = none) (hbinding : v.binding = none) (hf : b.findFlag? c name = none) :
    Asking c t requests (b.ask c name v) (k ++ [(i, .fetch name v q)]) u := by
  obtain ⟨rest, next, hi, hu, hm⟩ := h.agenda
  have hext : Extends c b (b.ask c name v) := .ask hs.client name v
  obtain ⟨es, hes⟩ := ask_of_missing (v := v) hf
  let n := s.app.variants.length
  have hlength : (b.tell es).variants.length = n := hs.size.symm
  have hnew : ∀ g m, b.findFlag? c m = some g → g ≠ n := by
    intro g m hg
    have hlt := (hs.upToDate.named m g hg).lt
    rw [← hs.size] at hlt
    exact Nat.ne_of_lt hlt
  obtain ⟨happ, rfl⟩ := hm.does.of_fetch_of_missing ((hs.findFlag?_eq name).trans hf)
  constructor
  case upToDate => exact hs.upToDate.ask hs.client hv
  case client => exact hext.length_clients ▸ hs.client
  case experiments => rw [hext.experiments, hs.experiments]
  case clients =>
    rw [happ, hes]
    show s.app.clients.modify c (fun s => { s with flags := s.flags.insert name n }) = _
    rw [hs.clients, ← hlength]
    rfl
  case size =>
    rw [happ, hes, length_variants_make, length_variants_makeUnbound, hs.size]
    rfl
  case variant =>
    intro g
    by_cases hg : g = n
    · have hself : u.app.variant n = v.withName name := by
        rw [happ]
        exact variant_makeUnbound_self
      have hmade := @variant_make_self (b.tell es) c name v
      rw [hlength] at hmade
      refine .inr ⟨?_, i, .announce n, hm.new _ List.mem_cons_self, hg.symm⟩
      rw [hg, hself, hes, hmade]
      show v.withName name = { v.withName name with binding := none }
      rw [← hbinding]
      rfl
    · have hold : u.app.variant g = s.app.variant g := by
        rw [happ]
        exact variant_makeUnbound_ne hg
      have hold' : (b.ask c name v).variant g = b.variant g := by
        have hg' : g ≠ (b.tell es).variants.length := hlength ▸ hg
        rw [hes, variant_make_ne hg']
        rfl
      rw [hold, hold']
      refine (hs.variant g).imp_right fun ⟨hb, j, y, hy, hc⟩ => ⟨hb, j, y, ?_, hc⟩
      rcases hm.kept j y hy with ⟨-, rfl⟩ | hy
      · exact hc.elim
      · exact hy
  case maker =>
    have hcases : ∀ j g p, u.Pending j (.look g true p) →
        s.Pending j (.look g true p) ∧ g ≠ n ∨ j = i ∧ g = n := by
      intro j g p hp
      rcases hm.of_pending j _ hp with hp | ⟨rfl, hp⟩
      · obtain ⟨m, hg⟩ := hs.found_of_look hp
        exact .inl ⟨hp, hnew g m hg⟩
      · have he : g = n ∧ p = q := by simpa using hp
        exact .inr ⟨rfl, he.1⟩
    intro g j j' p p' hp hp'
    rcases hcases j g p hp with ⟨hp, hg⟩ | ⟨rfl, hg⟩
    · rcases hcases j' g p' hp' with ⟨hp', -⟩ | ⟨-, hg'⟩
      · exact hs.maker g j j' p p' hp hp'
      · exact absurd hg' hg
    · rcases hcases j' g p' hp' with ⟨-, hg'⟩ | ⟨rfl, -⟩
      · exact absurd hg hg'
      · rfl
  case callers => rw [hu, List.length_set, hs.callers]
  case stage =>
    refine hs.stages hu hi hext.found fun name' v' p hst => ?_
    obtain ⟨hl, hnext⟩ := hst.next
    cases hnext with
    | fetch =>
      have hfound : (b.ask c name v).findFlag? c name = some n := by
        rw [hes, findFlag?_make (a := b.tell es) hs.client, if_pos rfl, hlength]
      exact .looking (l := [.announce n]) (by simp) hfound
        (List.forall_mem_singleton.mpr ⟨rfl, rfl⟩) (by rw [Log.looks_append, hl]; rfl)
    | prepare _ _ hx => exact hx.elim

/-- A step of any caller preserves the invariant. -/
theorem step (hs : Asking c t requests b k s) (h : Step c s (i, x) u) :
    Asking c t requests (b.askAll c (Log.asked [(i, x)])) (k ++ [(i, x)]) u := by
  obtain ⟨rest, next, hi, -, -⟩ := h.agenda
  obtain ⟨r, name, v, q, -, hask, hst⟩ := hs.stage i _ hi
  cases hst.next.2 with
  | fetch =>
    show Asking c t requests (b.ask c name v) _ u
    cases hf : b.findFlag? c name with
    | some g =>
      rw [ask_of_found hf]
      exact hs.found h hf
    | none => exact hs.made h hask.fresh.1 hask.fresh.2 hf
  | look => exact hs.look h
  | prepare _ hf hx =>
    have hasked : Log.asked [(i, x)] = [] := by
      cases x with
      | fetch => exact hx.elim
      | _ => rfl
    rw [hasked]
    exact hs.prepare h hx hf

/-- A caller that has still to bind a variant has not reached its own lookup of the binding: if a caller
is about to look at the variant, it is a different one, which has found it. -/
theorem other_of_covers (hs : Asking c t requests b k s) (hi : s.agendas[i]? = some [.look h isNew q])
    (hj : s.Pending j x) (hx : x.Covers t h) : j ≠ i ∧ isNew = false := by
  have hne : j ≠ i := by
    rintro rfl
    obtain ⟨agenda, hj, hm⟩ := hj
    cases hi.symm.trans hj
    cases List.mem_singleton.mp hm
    exact hx.elim
  refine ⟨hne, ?_⟩
  cases isNew with
  | false => rfl
  | true =>
    obtain ⟨p, hp⟩ := hs.look_of_covers hj hx
    exact absurd (hs.maker h j i p q hp ⟨_, hi, List.mem_cons_self⟩) hne

/-- When all calls have ended, no variant has still to be bound. -/
theorem unseen_of_idle (hs : Asking c t requests b k s) (hidle : s.IsIdle) :
    Likeness.unseen.rel s.app b := by
  refine ⟨List.ext_getElem hs.size fun h hh hh' => ?_, hs.clients⟩
  have hv : s.app.variant h = b.variant h := by
    rcases hs.variant h with hv | ⟨-, j, x, hj, -⟩
    · exact hv
    · exact absurd hj hidle.not_pending
  simpa [Application.variant, List.getD_eq_getElem?_getD, hh, hh'] using hv

theorem ofRequests (ha : a.UpToDate c) (hc : c < a.clients.length)
    (hr : ∀ r ∈ requests, ∃ name v q, r.Asks name v q) :
    Asking c (a.client c).experiments requests a [] (.ofRequests a c requests) := by
  have hagenda : ∀ (i : Nat) agenda, (Traffic.ofRequests a c requests).agendas[i]? = some agenda →
      ∃ r : Request Program, requests[i]? = some r ∧
        ∃ name v q, r.Asks name v q ∧ agenda = [Section.fetch name v q] := by
    intro i agenda hi
    have hmap : (requests.map (Request.agenda c))[i]? = some agenda := hi
    rw [List.getElem?_map, Option.map_eq_some_iff] at hmap
    obtain ⟨r, hri, rfl⟩ := hmap
    obtain ⟨name, v, q, hask⟩ := hr r (List.mem_of_getElem? hri)
    exact ⟨r, hri, name, v, q, hask, hask.agenda c⟩
  refine ⟨ha, hc, rfl, rfl, rfl, fun _ => .inl rfl, ?_, List.length_map .., ?_⟩
  · rintro g i j q p ⟨agenda, hi, hx⟩ -
    obtain ⟨_, -, _, _, _, -, rfl⟩ := hagenda i agenda hi
    cases List.mem_singleton.mp hx
  · intro i agenda hi
    obtain ⟨r, hri, name, v, q, hask, rfl⟩ := hagenda i agenda hi
    exact ⟨r, name, v, q, hri, hask, .asking rfl⟩

end Asking

theorem Path.asking {requests : List (Request Program)} {s u : Traffic} (h : Path c s k u)
    (hs : Asking c t requests b [] s) : Asking c t requests (b.askAll c k.asked) k u := by
  induction h with
  | nil => exact hs
  | @snoc u w k l hp hstep ih =>
    obtain ⟨i, x⟩ := l
    rw [Log.asked_append, askAll_append]
    exact ih.step hstep

/-- The turn of a call, if the calls are made in sequence in the order of their lookups: `earlier` is
the log before it, and `after` the application when its variant has been found, or made and added. -/
structure Turn (a : Application) (c : ClientId) (requests : List (Request Program)) (k earlier : Log)
    (i : Nat) (r : Request Program) (h : Handle) (q : Question) (after : Application) : Prop where
  place : ∃ name v later, r.Asks name v q ∧ k = earlier ++ (i, .fetch name v q) :: later ∧
    after = (a.askAll c earlier.asked).ask c name v ∧ after.findFlag? c name = some h
  /-- The rest of the request is the evaluation of its variant. -/
  performed : ∀ limit,
    (a.askAll c earlier.asked).perform limit c r = (r.finish limit h q).run after

section Calls

variable {a : Application} {c : ClientId} {requests : List (Request Program)} {k : Log} {s : Traffic}
  (hc : c < a.clients.length) (ha : a.UpToDate c)
  (hr : ∀ r ∈ requests, ∃ name v q, r.Asks name v q)
  (hp : Path c (.ofRequests a c requests) k s)
include hc ha hr hp

theorem asks_of_fetch {i : Nat} {name : String} {v : Variant} {q : Question}
    (hk : (i, .fetch name v q) ∈ k) : ∃ r, requests[i]? = some r ∧ r.Asks name v q := by
  obtain ⟨k₀, k₁, rfl⟩ := List.append_of_mem hk
  obtain ⟨w, w', hw, hstep, -⟩ := hp.cut
  obtain ⟨rest, next, hi, -, -⟩ := hstep.agenda
  obtain ⟨r, name', v', q', hri, hask, hst⟩ := (hw.asking (.ofRequests ha hc hr)).stage i _ hi
  cases hst.next.2 with
  | fetch => exact ⟨r, hri, hask⟩
  | prepare _ _ hx => exact hx.elim

theorem calls_ask (limit : Nat) :
    List.Forall₂ (fun r n => ∃ q, r.2.Asks n.1 n.2 q) (k.calls requests limit) k.asked := by
  have hall : ∀ j : Log, (∀ l ∈ j, l ∈ k) →
      List.Forall₂ (fun r n => ∃ q, r.2.Asks n.1 n.2 q) (j.calls requests limit) j.asked := by
    intro j hj
    induction j with
    | nil => exact .nil
    | cons l rest ih =>
      obtain ⟨hl, hrest⟩ := List.forall_mem_cons.mp hj
      have hrest' := ih hrest
      obtain ⟨i, x⟩ := l
      cases x with
      | fetch name v q =>
        obtain ⟨r, hri, hask⟩ := asks_of_fetch hc ha hr hp hl
        have hcalls : Log.calls ((i, .fetch name v q) :: rest) requests limit =
            (limit, r) :: Log.calls rest requests limit := by
          simp [Log.calls, hri]
        rw [hcalls]
        exact .cons ⟨q, hask⟩ hrest'
      | _ => exact hrest'
  exact hall k fun _ hl => hl

/-- A call that has looked its variant up had a turn, and the name has had the same variant since. -/
theorem exists_turn {i : Nat} {r : Request Program} {name : String} {v : Variant} {q : Question}
    {h : Handle} (hask : r.Asks name v q) (hk : (i, .fetch name v q) ∈ k)
    (hf : (a.askAll c k.asked).findFlag? c name = some h) :
    ∃ earlier after, Turn a c requests k earlier i r h q after ∧ after.Named h ∧
      Extends c after (a.askAll c k.asked) := by
  obtain ⟨k₀, k₁, rfl⟩ := List.append_of_mem hk
  let before := a.askAll c (Log.asked k₀)
  let after := before.ask c name v
  obtain ⟨w, w', hw, hstep, -⟩ := hp.cut
  have hbefore : Asking c (a.client c).experiments requests before k₀ w :=
    hw.asking (.ofRequests ha hc hr)
  have hafter : Asking c (a.client c).experiments requests after _ w' := hbefore.step hstep
  have hwhole : a.askAll c (Log.asked (k₀ ++ (i, .fetch name v q) :: k₁)) =
      after.askAll c (Log.asked k₁) := by
    rw [Log.asked_append, askAll_append]
    rfl
  have hext : Extends c after (after.askAll c (Log.asked k₁)) := .askAll hafter.client _
  obtain ⟨g, hg⟩ := exists_find?_ask hbefore.client name v
  have hgh : g = h := by
    rw [hwhole, hext.found name g hg] at hf
    exact Option.some.inj hf
  subst hgh
  exact ⟨k₀, after, ⟨⟨name, v, k₁, hask, rfl, rfl, hg⟩, perform_asks hbefore.client hask hg⟩,
    hafter.upToDate.named name g hg, hwhole ▸ hext⟩

section Order

variable (hin : a.Holds fun p => p.isInert = true)
include hin

/-- If user code makes no requests, calls made in sequence leave only the variants that they ask for. -/
theorem performAll_calls (limit : Nat) :
    Likeness.unseen.rel (a.performAll c (k.calls requests limit)) (a.askAll c k.asked) :=
  performAll_asks ⟨rfl, rfl⟩ hin hc (calls_ask hc ha hr hp limit)

/-- The same for the calls with earlier turns; and a call that looks at a bound variant has the response
that it has after them. -/
theorem Turn.answersAlike {i : Nat} {earlier : Log} {r : Request Program} {h : Handle} {q : Question}
    {after : Application} (hturn : Turn a c requests k earlier i r h q after) (limit : Nat) :
    let order := a.performAll c (earlier.calls requests limit)
    Likeness.unseen.rel order (a.askAll c earlier.asked) ∧
      (s.app.SeesBound c after h q → s.app.AnswersAlike order limit c r h q) := by
  intro order
  obtain ⟨⟨name, v, later, hask, rfl, rfl, hf⟩, -⟩ := hturn
  obtain ⟨w, w', hw, -, -⟩ := hp.cut
  have hbefore : Likeness.unseen.rel order (a.askAll c earlier.asked) :=
    performAll_calls hc ha hr hw hin limit
  refine ⟨hbefore, fun hsees => ?_⟩
  have hask' : Likeness.unseen.rel (order.ask c name v) ((a.askAll c earlier.asked).ask c name v) :=
    ask_congr hbefore name v
  have hclient : c < order.clients.length := by
    have hext : Extends c a (a.askAll c earlier.asked) := .askAll hc _
    rw [hbefore.2, hext.length_clients]
    exact hc
  have hfound : (order.ask c name v).findFlag? c name = some h := by
    rw [findFlag?, client_congr hask'.2]
    exact hf
  have hclients := (hp.asking (.ofRequests ha hc hr)).clients
  have hs : s.app.Holds fun p => p.isInert = true := fun d => by
    rw [client_congr hclients]
    exact (Extends.askAll hc _).holds hin d
  exact (hsees.congr hask').answersAlike hs hclient hask hfound limit

end Order

end Calls

/-- Concurrent calls for values by name, with sections in any order. When a call looks at its variant,
it sees the variant of its turn, bound to the client and to the experiment that the table in force
assigns to it, and its evaluation is reported once. The only exception is a call that has found a
variant that another caller has made and has still to bind: this variant is not bound. If user code
makes no requests, a call that sees a bound variant has the response that it has when the calls are made
in sequence. When all calls have ended, each has looked at its variant once, and the application is that
of the sequence. From every state all calls can end, and a call without interference does what its
request does. -/
theorem asked_unless_half_added {a : Application} {c : ClientId} {requests : List (Request Program)}
    {k : Log} {s : Traffic} (hc : c < a.clients.length) (ha : a.UpToDate c)
    (hr : ∀ r ∈ requests, ∃ name v q, r.Asks name v q)
    (hp : Path c (.ofRequests a c requests) k s) :
    (∀ i h isNew q u, Step c s (i, .look h isNew q) u →
      ∃ r earlier after, requests[i]? = some r ∧ Turn a c requests k earlier i r h q after ∧
        (s.app.SeesBound c after h q ∨
          isNew = false ∧ s.app.SeesUnbound after h q ∧
            ∃ j x, j ≠ i ∧ s.Pending j x ∧ x.Covers (s.app.client c).experiments h) ∧
        ((a.Holds fun p => p.isInert = true) → ∀ limit,
          let order := a.performAll c (earlier.calls requests limit)
          Likeness.unseen.rel order (a.askAll c earlier.asked) ∧
            (s.app.SeesBound c after h q → s.app.AnswersAlike order limit c r h q))) ∧
    (s.IsIdle → (∀ i, i < requests.length → ∃ h isNew q, k.looks i = [.look h isNew q]) ∧
      Likeness.unseen.rel s.app (a.askAll c k.asked) ∧
      ((a.Holds fun p => p.isInert = true) → ∀ limit,
        Likeness.unseen.rel s.app (a.performAll c (k.calls requests limit)))) ∧
    (∃ k' u, Path c s k' u ∧ u.IsIdle) ∧
    (∀ r ∈ requests, ∀ b limit, ∃ done d, Alone c b (r.agenda c) done d ∧
      b.Concludes limit c r done d) := by
  have hs : Asking c (a.client c).experiments requests (a.askAll c k.asked) k s :=
    hp.asking (.ofRequests ha hc hr)
  refine ⟨fun i h isNew q u hstep => ?look, fun hidle => ⟨fun i hi => ?once, ?rest, ?order⟩,
    exists_idle c s, fun r _ b limit => perform_alone b limit c r⟩
  case look =>
    obtain ⟨rest, next, hi, -, -⟩ := hstep.agenda
    obtain ⟨r, name, v, p, hri, hask, hst⟩ := hs.stage i _ hi
    cases hst.next.2 with
    | prepare _ _ hx => exact hx.elim
    | look hk hf =>
      obtain ⟨earlier, after, hturn, hnamed, hext⟩ := exists_turn hc ha hr hp hask hk hf
      refine ⟨r, earlier, after, hri, hturn, ?_, fun hin => hturn.answersAlike hc ha hr hp hin⟩
      have hafter := hext.variant h hnamed
      rcases hs.variant h with hv | ⟨hv, j, x, hj, hx⟩
      · refine .inl (.of_variant (hv.trans hafter) (fun d => ?_) ?_)
        · rw [hs.client_eq, hext.clients]
        · have hb := hs.upToDate.bound name h hf
          rw [hs.client_eq]
          exact hb.congr hv
      · obtain ⟨hne, hold⟩ := hs.other_of_covers hi hj hx
        obtain ⟨default, hq⟩ := hask.default
        have ht : (s.app.client c).experiments = (a.client c).experiments := by
          rw [hs.client_eq, hs.experiments]
        refine .inr ⟨hold, .of_variant ?_ hq, j, x, hne, hj, ht ▸ hx⟩
        rw [hv, hafter]
  case once =>
    rw [← hs.callers] at hi
    obtain ⟨r, name, v, q, -, -, hst⟩ := hs.stage i _ (List.getElem?_eq_getElem hi)
    rw [hidle _ (List.getElem_mem hi)] at hst
    exact hst.ended_of_nil
  case rest => exact hs.unseen_of_idle hidle
  case order =>
    intro hin limit
    have horder := performAll_calls hc ha hr hp hin limit
    have hend := hs.unseen_of_idle hidle
    exact ⟨hend.1.trans horder.1.symm, hend.2.trans horder.2.symm⟩

/-- Two callers ask for the same new flag. The second one finds the flag that the first one has made,
and looks at it before it is bound. -/
theorem half_added_path :
    let e : ExperimentModel := .make "1" "e" "true" false ["f"] []
    let a := (((ofVariants []).addClient ⟨.empty, .ofNat 0, [], none, false⟩).perform 0 0
      (.setExperiments [e])).2
    let r : Request Program := .isEnabled "f" false none
    ∃ k s u, Path 0 (.ofRequests a 0 [r, r]) k s ∧ Step 0 s (1, .look 0 false ⟨some "false", none⟩) u ∧
      (s.app.client 0).experiments.forFlag? "f" = some e ∧ (s.app.variant 0).name = "f" ∧
      (s.app.variant 0).binding = none := by
  intro e a r
  have h := Path.nil (c := 0) (.ofRequests a 0 [r, r])
  have h := h.snoc (.mk (i := 0) rfl (.made _ _ rfl))
  have h := h.snoc (.mk (i := 1) rfl (.found (h := 0) _ _ rfl))
  exact ⟨_, _, _, h, .mk (i := 1) rfl (.look 0 false ⟨some "false", none⟩), rfl, rfl, rfl⟩

/-- The second caller asks after the first one has bound the flag. -/
theorem added_path :
    let e : ExperimentModel := .make "1" "e" "true" false ["f"] []
    let a := (((ofVariants []).addClient ⟨.empty, .ofNat 0, [], none, false⟩).perform 0 0
      (.setExperiments [e])).2
    let r : Request Program := .isEnabled "f" false none
    ∃ k s u, Path 0 (.ofRequests a 0 [r, r]) k s ∧ Step 0 s (1, .look 0 false ⟨some "false", none⟩) u ∧
      (s.app.variant 0).binding = some ⟨0, some e⟩ ∧
      ((r.finish 1 0 ⟨some "false", none⟩).run s.app).1.toOption = some (.decided true) := by
  intro e a r
  have h := Path.nil (c := 0) (.ofRequests a 0 [r, r])
  have h := h.snoc (.mk (i := 0) rfl (.made _ _ rfl))
  have h := h.snoc (.mk (i := 0) rfl (.announce 0))
  have h := h.snoc (.mk (i := 0) rfl (.bind _ 0))
  have h := h.snoc (.mk (i := 0) rfl (.report _))
  have h := h.snoc (.mk (i := 0) rfl (.write _ 0))
  have h := h.snoc (.mk (i := 1) rfl (.found (h := 0) _ _ rfl))
  exact ⟨_, _, _, h, .mk (i := 1) rfl (.look 0 false ⟨some "false", none⟩), rfl, by decide +kernel⟩

/-- A call in between sees an unbound variant. A later call has the response that it has when the calls
are made in sequence. -/
theorem asked_unless_half_added_twice :
    let e : ExperimentModel := .make "1" "e" "true" false ["f"] []
    let a := (((ofVariants []).addClient ⟨.empty, .ofNat 0, [], none, false⟩).perform 0 0
      (.setExperiments [e])).2
    let r : Request Program := .isEnabled "f" false none
    let q : Question := ⟨some "false", none⟩
    (∃ k s earlier after, Path 0 (.ofRequests a 0 [r, r]) k s ∧
      Turn a 0 [r, r] k earlier 1 r 0 q after ∧ s.app.SeesUnbound after 0 q) ∧
    ∃ k s earlier after, Path 0 (.ofRequests a 0 [r, r]) k s ∧
      Turn a 0 [r, r] k earlier 1 r 0 q after ∧
      s.app.AnswersAlike (a.performAll 0 (earlier.calls [r, r] 1)) 1 0 r 0 q ∧
      ((r.finish 1 0 q).run s.app).1.toOption = some (.decided true) := by
  intro e a r q
  let start := (ofVariants []).addClient ⟨.empty, .ofNat 0, [], none, false⟩
  have hc : 0 < a.clients.length := Nat.one_pos
  have hfresh : start.Fresh :=
    ⟨fun v hv => absurd hv List.not_mem_nil, fun s hs => ⟨_, List.mem_singleton.mp hs⟩⟩
  have ha : a.UpToDate 0 := by
    have hL : start.history [⟨0, 0, .setExperiments [e]⟩] = [.configured 0 [e]] := by decide +kernel
    have hup := @upToDate_callAll start 0 [⟨0, 0, .setExperiments [e]⟩] hfresh Nat.one_pos
    rw [hL] at hup
    exact hup (by decide) (by decide)
  have hr : ∀ x ∈ [r, r], ∃ name v q, x.Asks name v q := by
    intro x hx
    obtain rfl : x = r := by simpa using hx
    exact ⟨_, _, _, .isEnabled "f" false none⟩
  have hin : a.Holds fun p => p.isInert = true := fun d => by
    cases d <;> exact .of_inert rfl rfl rfl
  constructor
  · obtain ⟨k, s, u, hp, hstep, -, -, hb⟩ := half_added_path
    obtain ⟨r', earlier, after, hr', hturn, hsees, -⟩ :=
      (asked_unless_half_added hc ha hr hp).1 1 0 false q u hstep
    cases hr'
    refine ⟨k, s, earlier, after, hp, hturn, ?_⟩
    rcases hsees with hsees | ⟨-, hsees, -⟩
    · cases hb.symm.trans hsees.bound
    · exact hsees
  · obtain ⟨k, s, u, hp, hstep, hb, hanswer⟩ := added_path
    obtain ⟨r', earlier, after, hr', hturn, hsees, halike⟩ :=
      (asked_unless_half_added hc ha hr hp).1 1 0 false q u hstep
    cases hr'
    refine ⟨k, s, earlier, after, hp, hturn, (halike hin 1).2 ?_, hanswer⟩
    rcases hsees with hsees | ⟨-, hsees, -⟩
    · exact hsees
    · have hunbound := congrArg Variant.binding hsees.variant
      rw [hb] at hunbound
      cases hunbound

/-- A call can evaluate a variant that is not bound as the table in force says: if the variant is half
added, and if it has been registered with another client. -/
theorem flag_seen_half_added :
    let e : ExperimentModel := .make "1" "e" "true" false ["f"] []
    let p : ClientConfig := ⟨.empty, .ofNat 0, [], none, false⟩
    let r : Request Program := .isEnabled "f" false none
    let a := (((ofVariants []).addClient p).perform 0 0 (.setExperiments [e])).2
    let b := ((ofVariants [.flag false]).addClient p).addClient p
    let registered := (b.perform 0 0 (.register (.make "" [("f", 0)]))).2
    let configured := (registered.perform 0 0 (.setExperiments [e])).2
    let shared := (configured.perform 0 1 (.register (.make "" [("f", 0)]))).2
    ((∃ k s u, Path 0 (.ofRequests a 0 [r, r]) k s ∧
        Step 0 s (1, .look 0 false ⟨some "false", none⟩) u ∧
        (s.app.client 0).experiments.forFlag? "f" = some e ∧
        (Run.evaluate (Run.runProgram 1) 0 none (some "false")).run s.app =
          (.ok ⟨"false", true⟩, s.app.tell [.reported (.evaluatedVariant "f" ⟨"false", true⟩)])) ∧
      (a.perform 1 0 r).1.toOption = some (.decided true) ∧
      ((a.perform 1 0 r).2.perform 1 0 r).1.toOption = some (.decided true)) ∧
    (shared.client 0).experiments.forFlag? "f" = some e ∧
      (configured.perform 1 0 r).1.toOption = some (.decided true) ∧
      (shared.perform 1 0 r).1.toOption = some (.decided false) := by
  refine ⟨⟨?_, by decide +kernel, by decide +kernel⟩, rfl, by decide +kernel, by decide +kernel⟩
  obtain ⟨k, s, u, hp, hstep, he, hn, hb⟩ := half_added_path
  refine ⟨k, s, u, hp, hstep, he, ?_⟩
  rw [evaluate_run_of_unbound hb, hn]
  rfl

end Traffic

end FeatureFlags
