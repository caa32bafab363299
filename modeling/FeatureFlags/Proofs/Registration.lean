import FeatureFlags.Proofs.Binding

/-!
# Registering containers

`Run.register` adds the entries of a container in order; names and variants can occur in it more
than once. Under a name the last variant of that name is stored, while the name of a variant is its
first one, and its binding is what controls that name (`findFlag?_addAll_of_last`,
`name?_addAll_of_first`, `binding_addAll`).

A container is refused if its namespace was registered before, also by user code. The registrations
of a run are the `register` requests answered with success (`Note.registrations`), and the
namespaces of a client are exactly theirs (`Claimed`). The main result is
`containers_registered_once`.
-/

namespace FeatureFlags

namespace Application

/-! ## Adding the entries -/

section Entries

variable {a : Application} {c d : ClientId} {h : Handle} {name : String}
  {entries before after : List (String × Handle)}

theorem addAll_append :
    a.addAll c (before ++ after) = (a.addAll c before).addAll c after := List.foldl_append

@[simp] theorem length_variants_addAll :
    (a.addAll c entries).variants.length = a.variants.length := by
  induction entries generalizing a with
  | nil => rfl
  | cons e rest ih => exact ih.trans length_variants_add

theorem client_addAll_ne (hd : d ≠ c) : (a.addAll c entries).client d = a.client d := by
  induction entries generalizing a with
  | nil => rfl
  | cons e rest ih => exact ih.trans (client_add_ne hd)

theorem findFlag?_addAll_of_not_mem (hc : c < a.clients.length)
    (hn : ∀ e ∈ entries, e.1 ≠ name) :
    (a.addAll c entries).findFlag? c name = a.findFlag? c name := by
  induction entries generalizing a with
  | nil => rfl
  | cons e rest ih =>
    rw [List.forall_mem_cons] at hn
    have hlt : c < (a.add c e.1 e.2).clients.length := by
      rw [length_clients_add]
      exact hc
    refine (ih hlt hn.2).trans ?_
    rw [findFlag?_add hc, if_neg (Ne.symm hn.1)]

/-- The last variant of a name is stored under it. -/
theorem findFlag?_addAll_of_last (hc : c < a.clients.length) (hn : ∀ e ∈ after, e.1 ≠ name) :
    (a.addAll c (before ++ (name, h) :: after)).findFlag? c name = some h := by
  let b := a.addAll c before
  have hb : c < b.clients.length := by
    rw [length_clients_addAll]
    exact hc
  have hlt : c < (b.add c name h).clients.length := by
    rw [length_clients_add]
    exact hb
  rw [addAll_append]
  show ((b.add c name h).addAll c after).findFlag? c name = some h
  rw [findFlag?_addAll_of_not_mem hlt hn, findFlag?_add hb, if_pos rfl]

theorem variant_addAll_of_not_mem (hh : ∀ e ∈ entries, e.2 ≠ h) :
    (a.addAll c entries).variant h = a.variant h := by
  induction entries generalizing a with
  | nil => rfl
  | cons e rest ih =>
    rw [List.forall_mem_cons] at hh
    exact (ih hh.2).trans (variant_add_ne (Ne.symm hh.1))

/-- A variant without name is named by its first entry. -/
theorem name?_addAll_of_first (hh : h < a.variants.length) (hn : (a.variant h).name? = none)
    (hb : ∀ e ∈ before, e.2 ≠ h) :
    ((a.addAll c (before ++ (name, h) :: after)).variant h).name? = some name := by
  let b := a.addAll c before
  have hlt : h < b.variants.length := by
    rw [length_variants_addAll]
    exact hh
  have hnamed : ((b.add c name h).variant h).name? = some name := by
    rw [variant_add_self hlt, variant_addAll_of_not_mem hb]
    show (a.variant h).name?.or (some name) = some name
    rw [hn, Option.none_or]
  rw [addAll_append]
  exact (Path.addAll (b.add c name h) c after).name_kept hnamed

/-- A variant of the list is bound to what controls its name, whatever it was bound to. -/
theorem binding_addAll (hh : h < a.variants.length) (hm : ∃ e ∈ entries, e.2 = h) :
    ((a.addAll c entries).variant h).binding =
      some ⟨c, (a.client c).experiments.forFlag? ((a.addAll c entries).variant h).name⟩ := by
  -- from the end, as the last entry of the variant is the one that binds it
  induction entries using List.reverseRecOn with
  | nil =>
    obtain ⟨e, he, -⟩ := hm
    cases he
  | append_singleton rest e ih =>
    let b := a.addAll c rest
    rw [addAll_append]
    show ((b.add c e.1 e.2).variant h).binding =
      some ⟨c, (a.client c).experiments.forFlag? ((b.add c e.1 e.2).variant h).name⟩
    by_cases he : h = e.2
    · subst he
      have hlt : e.2 < b.variants.length := by
        rw [length_variants_addAll]
        exact hh
      have ht : (b.client c).experiments = (a.client c).experiments :=
        client_addAll_congr Client.experiments fun _ _ => rfl
      rw [variant_add_self hlt, ht]
      rfl
    · rw [variant_add_ne he]
      obtain ⟨e', hm, rfl⟩ := hm
      refine ih ⟨e', (List.mem_append.mp hm).resolve_right fun hm => he ?_, rfl⟩
      rw [List.mem_singleton.mp hm]

end Entries

/-! ## The effect of a registration -/

open Container (fullName)

/-- The application after the entries of a container were registered under a namespace. -/
structure Registered (a : Application) (c : ClientId) (nameSpace : String)
    (entries : List (String × Handle)) (b : Application) : Prop where
  /-- Under a full name the variant of the last entry with this name is stored. -/
  stored : ∀ before name h after, entries = before ++ (name, h) :: after →
    (∀ e ∈ after, fullName nameSpace e.1 ≠ fullName nameSpace name) →
    b.findFlag? c (fullName nameSpace name) = some h
  /-- Other names are unchanged. -/
  untouched : ∀ name, (∀ e ∈ entries, fullName nameSpace e.1 ≠ name) →
    b.findFlag? c name = a.findFlag? c name
  /-- A variant without name gets the full name of its first entry. -/
  named : ∀ before name h after, entries = before ++ (name, h) :: after →
    (∀ e ∈ before, e.2 ≠ h) → h < a.variants.length → (a.variant h).name? = none →
    (b.variant h).name? = some (fullName nameSpace name)
  /-- A variant with a name keeps it. -/
  kept : ∀ h n, (a.variant h).name? = some n → (b.variant h).name? = some n
  /-- A variant of the container is bound to the client, and to what controls its name. -/
  bound : ∀ e ∈ entries, e.2 < a.variants.length → (b.variant e.2).binding =
    some ⟨c, (a.client c).experiments.forFlag? (b.variant e.2).name⟩
  /-- Other variants are unchanged. -/
  variants : ∀ h, (∀ e ∈ entries, e.2 ≠ h) → b.variant h = a.variant h
  /-- Other clients are unchanged. -/
  clients : ∀ d, d ≠ c → b.client d = a.client d
  /-- The client has the namespace. -/
  namespaces : (b.client c).namespaces = (a.client c).namespaces ++ [nameSpace]

section Register

variable {a b : Application} {c : ClientId} {nameSpace : String} {entries : List (String × Handle)}

theorem entries_make_append {nameSpace name : String} {h : Handle}
    {before after : List (String × Handle)} :
    (Container.make nameSpace (before ++ (name, h) :: after)).entries =
      (Container.make nameSpace before).entries ++
        (fullName nameSpace name, h) :: (Container.make nameSpace after).entries := by
  simp [Container.make]

theorem forall_mem_entries_make {P : String × Handle → Prop} :
    (∀ e ∈ (Container.make nameSpace entries).entries, P e) ↔
      ∀ e ∈ entries, P (fullName nameSpace e.1, e.2) := List.forall_mem_map

/-- A request to register a container that is answered with success registers it. -/
theorem Performs.registered_of_done (hc : c < a.clients.length)
    (h : a.Performs c (.register (.make nameSpace entries)) .done b) :
    Registered a c nameSpace entries b := by
  cases h
  let s := a.modifyClient c (·.claim nameSpace)
  have hlt : c < s.clients.length := Nat.lt_of_lt_of_eq hc length_clients_modifyClient.symm
  have hself : s.client c = (a.client c).claim nameSpace := client_modifyClient_self hc
  -- only the namespaces of the client were changed before the entries are added
  have hflags : ∀ name, s.findFlag? c name = a.findFlag? c name := fun name => by
    rw [findFlag?, hself]
    rfl
  have ht : (s.client c).experiments = (a.client c).experiments := by
    rw [hself]
    rfl
  constructor
  case stored =>
    rintro before name h after rfl hafter
    rw [entries_make_append]
    exact findFlag?_addAll_of_last hlt (forall_mem_entries_make.mpr hafter)
  case untouched =>
    intro name hn
    rw [← hflags]
    exact findFlag?_addAll_of_not_mem hlt (forall_mem_entries_make.mpr hn)
  case named =>
    rintro before name h after rfl hbefore hh hn
    rw [entries_make_append]
    exact name?_addAll_of_first (a := s) hh hn (forall_mem_entries_make.mpr hbefore)
  case kept =>
    intro h n hn
    exact (Path.addAll s c (Container.make nameSpace entries).entries).name_kept hn
  case bound =>
    intro e he hh
    have hm : (fullName nameSpace e.1, e.2) ∈ (Container.make nameSpace entries).entries :=
      List.mem_map_of_mem (f := fun e => (fullName nameSpace e.1, e.2)) he
    rw [← ht]
    exact binding_addAll (a := s) hh ⟨_, hm, rfl⟩
  case variants =>
    intro h hh
    exact variant_addAll_of_not_mem (a := s) (forall_mem_entries_make.mpr hh)
  case clients =>
    intro d hd
    exact (client_addAll_ne hd).trans (client_modifyClient_ne hd)
  case namespaces =>
    refine (client_addAll_congr Client.namespaces fun _ _ => rfl).trans ?_
    exact congrArg Client.namespaces hself

end Register

end Application

/-! ## Registrations in the course of a run -/

/-- The namespaces registered with clients: those of the containers whose registration was answered with
success. -/
def Note.registrations (T : List Note) : List (ClientId × String) :=
  T.filterMap fun
    | .answered c (.register r) .done => some (c, r.nameSpace)
    | _ => none

namespace Application

open Note (registrations)

/-- The namespaces of each client are those registered with it during a run, and requests to register
were answered accordingly. -/
structure Claimed (s a : Application) (T : List Note) : Prop where
  length : a.clients.length = s.clients.length
  namespaces : ∀ c, c < s.clients.length → ∀ nameSpace,
    nameSpace ∈ (a.client c).namespaces ↔ (c, nameSpace) ∈ registrations T
  answers : ∀ before c r x, c < s.clients.length → before ++ [.answered c (.register r) x] <+: T →
    x = if (c, r.nameSpace) ∈ registrations before then .refused (.duplicateNamespace r.nameSpace)
      else .done

namespace Claimed

variable {s a b : Application} {T : List Note} {c d : ClientId} {r : Container}

theorem start (hs : ∀ t ∈ s.clients, t.namespaces = []) : Claimed s s [] where
  length := rfl
  namespaces c hc nameSpace := by
    have hnone : (s.client c).namespaces = [] := by
      rw [client, List.getD_eq_getElem?_getD, List.getElem?_eq_getElem hc]
      exact hs _ (List.getElem_mem hc)
    rw [hnone, registrations, List.filterMap_nil, iff_false_intro List.not_mem_nil,
      iff_false_intro List.not_mem_nil]
  answers before c r x _ hp :=
    absurd (List.prefix_nil.mp hp) (List.append_ne_nil_of_right_ne_nil _ (List.cons_ne_nil _ _))

theorem snoc {n : Note} (h : Claimed s a T) (hl : b.clients.length = a.clients.length)
    (hb : ∀ c, (b.client c).namespaces = (a.client c).namespaces)
    (hn : ∀ c r x, n ≠ .answered c (.register r) x) : Claimed s b (T ++ [n]) where
  length := hl.trans h.length
  namespaces c hc nameSpace := by
    have hnone : registrations [n] = [] := by
      unfold registrations
      rw [List.filterMap_eq_nil_iff, List.forall_mem_singleton]
      split
      · exact absurd rfl (hn _ _ _)
      · rfl
    have hsame : registrations (T ++ [n]) = registrations T := by
      have happend : registrations (T ++ [n]) = registrations T ++ registrations [n] :=
        List.filterMap_append
      rw [happend, hnone, List.append_nil]
    rw [hb, hsame]
    exact h.namespaces c hc nameSpace
  answers before c r x hc hp := by
    rcases List.prefix_concat_iff.mp hp with he | hp
    · obtain ⟨-, he⟩ := List.append_inj' he rfl
      exact absurd (List.singleton_inj.mp he).symm (hn c r x)
    · exact h.answers before c r x hc hp

theorem refused (h : Claimed s a T) (hr : r.nameSpace ∈ (a.client c).namespaces) :
    Claimed s a (T ++ [.answered c (.register r) (.refused (.duplicateNamespace r.nameSpace))]) where
  length := h.length
  namespaces d hd nameSpace := by
    rw [h.namespaces d hd]
    simp [registrations]
  answers before d r' x hd hp := by
    rcases List.prefix_concat_iff.mp hp with he | hp
    · obtain ⟨rfl, hn⟩ := List.append_inj' he rfl
      cases hn
      rw [if_pos ((h.namespaces c hd _).mp hr)]
    · exact h.answers before d r' x hd hp

theorem other {q : Request Program} {x : Response} (h : Claimed s a T)
    (hq : ∀ r, q ≠ .register r) (hl : b.clients.length = a.clients.length)
    (hb : ∀ d, (b.client d).namespaces = (a.client d).namespaces) :
    Claimed s b (T ++ [.asked c q] ++ [.answered c q x]) := by
  have hasked : Claimed s a (T ++ [.asked c q]) :=
    h.snoc rfl (fun _ => rfl) fun _ _ _ he => nomatch he
  refine hasked.snoc hl hb fun d r y he => ?_
  cases he
  exact hq r rfl

theorem mem_namespaces_registered {nameSpace : String} (hd : d < a.clients.length) :
    nameSpace ∈ (((a.modifyClient c (·.claim r.nameSpace)).addAll c r.entries).client d).namespaces ↔
      nameSpace ∈ (a.client d).namespaces ∨ (d, nameSpace) = (c, r.nameSpace) := by
  rw [client_addAll_congr Client.namespaces fun _ _ => rfl, Prod.mk.injEq]
  by_cases hdc : d = c
  · subst hdc
    rw [client_modifyClient_self hd, Client.claim, List.mem_append, List.mem_singleton,
      eq_self_iff_true, true_and]
  · rw [client_modifyClient_ne hdc, iff_false_intro hdc, false_and, or_false]

theorem registered (h : Claimed s a T) (hr : r.nameSpace ∉ (a.client c).namespaces) :
    Claimed s ((a.modifyClient c (·.claim r.nameSpace)).addAll c r.entries)
      (T ++ [.answered c (.register r) .done]) where
  length := by rw [length_clients_addAll, length_clients_modifyClient, h.length]
  namespaces d hd nameSpace := by
    have happend : registrations (T ++ [.answered c (.register r) .done]) =
        registrations T ++ [(c, r.nameSpace)] := by simp [registrations]
    rw [mem_namespaces_registered (h.length.symm ▸ hd), h.namespaces d hd, happend, List.mem_append,
      List.mem_singleton]
  answers before d r' x hd hp := by
    rcases List.prefix_concat_iff.mp hp with he | hp
    · obtain ⟨rfl, hn⟩ := List.append_inj' he rfl
      cases hn
      rw [if_neg fun hm => hr ((h.namespaces c hd _).mpr hm)]
    · exact h.answers before d r' x hd hp

end Claimed

theorem upheld_claimed (s : Application) : Upheld s (Claimed s) where
  tell h es := ⟨h.length, h.namespaces, h.answers⟩
  performed {a b T c r x} h hb := by
    have hlength := hb.length_clients
    have hasked : Claimed s a (T ++ [.asked c r]) :=
      h.snoc rfl (fun _ => rfl) fun _ _ _ he => nomatch he
    cases hb with
    | refused hr => exact hasked.refused hr
    | registered hr => exact hasked.registered hr
    | configured models =>
      exact h.other (fun _ he => nomatch he) hlength
        fun _ => client_configure_congr Client.namespaces fun _ _ => rfl
    | applied hk =>
      exact h.other (fun _ he => nomatch he) hlength
        fun _ => client_configure_congr Client.namespaces fun _ _ => rfl
    | unreadable => exact h.other (fun _ he => nomatch he) hlength fun _ => rfl
    | _ =>
      exact h.other (fun _ he => nomatch he) hlength
        fun _ => client_modifyClient_congr Client.namespaces fun _ => rfl
  begun h hb := by
    cases hb with
    | held => exact h.snoc rfl (fun _ => rfl) fun _ _ _ he => nomatch he
    | found => exact h.snoc rfl (fun _ => rfl) fun _ _ _ he => nomatch he
    | made =>
      exact h.snoc length_clients_add
        (fun _ => client_make_congr Client.namespaces fun _ _ => rfl) fun _ _ _ he => nomatch he
  ended {a T c r x} h hr := by
    refine h.snoc rfl (fun _ => rfl) fun _ _ _ he => ?_
    cases he
    cases hr
  custom _ _ h _ _ _ := h.snoc rfl (fun _ => rfl) fun _ _ _ he => nomatch he
  standard _ _ _ _ _ h := h.snoc rfl (fun _ => rfl) fun _ _ _ he => nomatch he

/-- For any sequence of requests, with any user code: a container is refused if and only if its
namespace was registered with the client before, and then nothing changes; otherwise it is registered.
The requests of user code were answered by the same rule. The run with notes, from which the
registrations are read, is the run itself. -/
theorem containers_registered_once {a : Application} {c : ClientId}
    (ha : ∀ s ∈ a.clients, s.namespaces = []) (hc : c < a.clients.length) (calls : List Call)
    (limit : Nat) (nameSpace : String) (entries : List (String × Handle)) :
    let b := a.callAll calls
    let o := b.call ⟨limit, c, .register (.make nameSpace entries)⟩
    let K := registrations (a.notes calls)
    (o.1 = .ok (.refused (.duplicateNamespace nameSpace)) ↔ (c, nameSpace) ∈ K) ∧
      ((c, nameSpace) ∈ K → o.2.variants = b.variants ∧ o.2.clients = b.clients) ∧
      ((c, nameSpace) ∉ K → o.1 = .ok .done ∧ Registered b c nameSpace entries o.2) ∧
      (∀ before d r x, d < a.clients.length →
        before ++ [.answered d (.register r) x] <+: a.notes calls →
        x = if (d, r.nameSpace) ∈ registrations before then
          .refused (.duplicateNamespace r.nameSpace) else .done) ∧
      (Noted.callAll (a, []) calls).1 = b := by
  intro b o K
  have hb : Claimed a b (a.notes calls) := (upheld_claimed a).notes (.start ha) calls
  have hlt : c < b.clients.length := Nat.lt_of_lt_of_eq hc hb.length.symm
  have hiff : nameSpace ∈ (b.client c).namespaces ↔ (c, nameSpace) ∈ K :=
    hb.namespaces c hc nameSpace
  have hanswers := hb.answers
  have hnoted := (callAll_noted a calls).1
  obtain ⟨x, d, es, ho, hd⟩ :=
    performs (r := .register (.make nameSpace entries)) (Run.runProgram limit) b c rfl
  rw [← hiff, show o = (.ok x, d.tell es) from ho]
  cases hd with
  | refused hm =>
    exact ⟨iff_of_true rfl hm, fun _ => ⟨rfl, rfl⟩, fun hn => absurd hm hn, hanswers, hnoted⟩
  | registered hm =>
    have hr := (Performs.registered hm).registered_of_done hlt
    refine ⟨iff_of_false nofun hm, fun hm' => absurd hm' hm, fun _ => ⟨rfl, ?_⟩, hanswers, hnoted⟩
    exact ⟨hr.stored, hr.untouched, hr.named, hr.kept, hr.bound, hr.variants, hr.clients,
      hr.namespaces⟩

/-- A container is registered, and another one by an operator while a condition is evaluated. -/
def claiming : List Call :=
  [⟨2, 0, .register (.make "ns" [("a", 0)])⟩,
    ⟨2, 0, .addOperator "claim" (.exactly 0) fun _ _ =>
      .request 0 (.register (.make "inner" [("b", 1)])) fun _ => .done .undefined⟩,
    ⟨2, 0, .setExperiments [.make "1" "e" "claim()" false ["ns.a"] []]⟩,
    ⟨2, 0, .evaluate 0 none⟩]

/-- The namespace registered by the operator is taken; no other one is. -/
theorem containers_registered_once_nested :
    registrations (paired.notes claiming) = [(0, "ns"), (0, "inner")] ∧
      ((paired.callAll claiming).call ⟨2, 0, .register (.make "inner" [("x", 1)])⟩).1 =
        .ok (.refused (.duplicateNamespace "inner")) ∧
      Registered (paired.callAll claiming) 0 "outer" [("x", 0), ("y", 0), ("x", 1)]
        ((paired.callAll claiming).call
          ⟨2, 0, .register (.make "outer" [("x", 0), ("y", 0), ("x", 1)])⟩).2 := by
  have hfree : ∀ s ∈ paired.clients, s.namespaces = [] := by
    intro s hs
    rw [List.mem_singleton.mp hs]
    rfl
  have hc : 0 < paired.clients.length := Nat.zero_lt_one
  have hregistered : registrations (paired.notes claiming) = [(0, "ns"), (0, "inner")] := by
    decide +kernel
  obtain ⟨hinner, -⟩ := containers_registered_once hfree hc claiming 2 "inner" [("x", 1)]
  obtain ⟨-, -, houter, -⟩ :=
    containers_registered_once hfree hc claiming 2 "outer" [("x", 0), ("y", 0), ("x", 1)]
  rw [hregistered] at hinner houter
  exact ⟨hregistered, hinner.mpr (by decide), (houter (by decide)).2⟩

end Application

end FeatureFlags
