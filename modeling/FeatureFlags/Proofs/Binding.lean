import FeatureFlags.Proofs.History
import FeatureFlags.Proofs.Noting

/-!
# Names and bindings follow the requests

The requests that clients carry out determine a history (`History.ofNotes`): `register` adds the
variants of a container, `setExperiments` and `applyConfiguration` put experiments in force, and a
question for an unknown name adds a new variant. The requests are those written down during the run,
including those made by user code, in the order in which they were made (`Application.history`).

A variant of a client that shares no variants is bound to the experiment that the client's table
assigned to its name when the client last stored the variant under some key: the table in force, if
it is still stored, and the table of that time, if it was displaced (`Settled`). Every change
preserves this (`Settled.step`), both binding an added variant and binding all variants again. The
main result is `bindings_follow_history`.
-/

namespace FeatureFlags

namespace History

/-- The longest beginning of a history after which a client has a variant stored. -/
structure LastStored (L : History) (c : ClientId) (h : Handle) (before : History) : Prop where
  isPrefix : before <+: L
  stored : Stored before c h
  longest : ∀ between, between <+: L → Stored between c h → between.length ≤ before.length

variable {L before : History} {c d : ClientId} {h g : Handle} {k : Change} {name : String}
  {isNew : Bool}

theorem LastStored.of_stored (hs : Stored L c h) : LastStored L c h L :=
  ⟨List.prefix_rfl, hs, fun _ hb _ => hb.length_le⟩

theorem LastStored.eq_of_stored (hl : LastStored L c h before) (hs : Stored L c h) : before = L :=
  hl.isPrefix.eq_of_length_le (hl.longest L List.prefix_rfl hs)

/-- A change after which a variant is not stored does not lengthen this beginning. -/
theorem LastStored.snoc (hl : LastStored L c h before) (hs : ¬Stored (L ++ [k]) c h) :
    LastStored (L ++ [k]) c h before := by
  refine ⟨hl.isPrefix.trans (List.prefix_append L [k]), hl.stored, ?_⟩
  intro between hb hbs
  rcases List.prefix_concat_iff.mp hb with rfl | hb
  · exact absurd hbs hs
  · exact hl.longest between hb hbs

theorem stored_configured {models : List ExperimentModel} :
    Stored (L ++ [.configured d models]) c h ↔ Stored L c h := by
  rw [Stored, Stored, flags_configured]

theorem stored_added_self : Stored (L ++ [.added c name h isNew]) c h :=
  ⟨name, by rw [flags_added, if_pos rfl, Dict.find?_insert, if_pos rfl]⟩

theorem stored_of_added_ne (hg : g ≠ h) (hs : Stored (L ++ [.added d name h isNew]) c g) :
    Stored L c g := by
  obtain ⟨n, hn⟩ := hs
  rw [flags_added] at hn
  split at hn
  · rw [Dict.find?_insert] at hn
    split at hn
    · exact absurd (Option.some.inj hn).symm hg
    · exact ⟨n, hn⟩
  · exact ⟨n, hn⟩

end History

/-! ## The history of the requests of a run -/

/-- The changes made by a request with the given response. -/
def Request.changes (c : ClientId) : Request Program → Response → List Change
  | .register r, .done => r.entries.map fun e => .added c e.1 e.2 false
  | .setExperiments models, .done => [.configured c models]
  | .applyConfiguration payload, .done =>
    match Configuration.read payload with
    | .ok k => [.configured c k.models]
    | .error _ => []
  | _, _ => []

namespace History

/-- The addition with which a request for a name begins, if the client has no variant of the name. The
history began with the application `s`; a number without client has no variants. -/
def asked (s : Application) (L : History) (c : ClientId) (name : String) : List Change :=
  if c < s.clients.length ∧ ((flags L c).find? name).isSome then []
  else [.added c name (s.variants.length + L.made) true]

/-- The changes recorded by a note, after a history. -/
def noted (s : Application) (L : History) : Note → List Change
  | .asked c r =>
    match r.flag? with
    | some f => L.asked s c f.1
    | none => []
  | .answered c r x => r.changes c x
  | .ran .. => []

/-- The history recorded by the notes of a run that began with an application. -/
def ofNotes (s : Application) (T : List Note) : History := T.foldl (fun L n => L ++ L.noted s n) []

theorem ofNotes_snoc {s : Application} {T : List Note} {n : Note} :
    ofNotes s (T ++ [n]) = ofNotes s T ++ (ofNotes s T).noted s n := by
  simp [ofNotes]

theorem ofNotes_append {s : Application} {T N : List Note} :
    ∃ K, ofNotes s (T ++ N) = ofNotes s T ++ K := by
  induction N using List.reverseRecOn with
  | nil => exact ⟨[], by rw [List.append_nil, List.append_nil]⟩
  | append_singleton N n ih =>
    obtain ⟨K, hK⟩ := ih
    rw [← List.append_assoc, ofNotes_snoc, hK, List.append_assoc]
    exact ⟨_, rfl⟩

theorem noted_asked {s : Application} {L : History} {c : ClientId} {r : Request Program}
    {name : String} {v : Variant} (hr : r.flag? = some (name, v)) :
    L.noted s (.asked c r) = L.asked s c name := by
  simp [noted, hr]

end History

namespace Application

open History

/-- A request that evaluates no variant makes the changes that its response records. -/
theorem Performs.changes {a b : Application} {c : ClientId} {r : Request Program} {x : Response}
    (h : a.Performs c r x b) : Path a (r.changes c x) b := by
  cases h with
  | refused => exact .nil a
  | registered => exact (Path.arrange (.claim _)).append (.addAll _ c _)
  | configured models => exact .one (.configured a c models)
  | @applied payload k hk =>
    have hc : (Request.applyConfiguration payload).changes c .done = [.configured c k.models] := by
      simp [Request.changes, hk]
    rw [hc]
    exact .one (.configured a c k.models)
  | unreadable => exact .nil a
  | property p => exact .arrange (.property p)
  | operator name arity run => exact .arrange (.operator name ⟨arity, run⟩)
  | handler label react => exact .arrange (.handler ⟨label, react⟩)
  | gate isOpen => exact .arrange (.gate isOpen)

theorem Performs.flag? {a b : Application} {c : ClientId} {r : Request Program} {x : Response}
    (h : a.Performs c r x b) : r.flag? = none := by
  cases h <;> rfl

/-- A request for a name begins with the addition that the history has. -/
theorem Begins.changes {s a b : Application} {L : History} {c : ClientId} {r : Request Program}
    (h : a.Begins c r b) (hp : Path s L a) (ha : Recounts L a) :
    Path a (L.noted s (.asked c r)) b := by
  cases h with
  | held => exact .nil a
  | @found _ name v h hr hf =>
    have hc : c < a.clients.length := Recounts.lt_of_find? hf
    have hfound : ((History.flags L c).find? name).isSome := by
      rw [← ha.flags c hc, show (a.client c).flags.find? name = some h from hf]
      rfl
    rw [noted_asked hr, asked, if_pos ⟨hp.length_clients ▸ hc, hfound⟩]
    exact .nil a
  | @made _ name v hr hf =>
    have hnone : ¬(c < s.clients.length ∧ ((History.flags L c).find? name).isSome) := by
      rintro ⟨hc, hfound⟩
      rw [← ha.flags c (hp.length_clients.symm ▸ hc),
        show (a.client c).flags.find? name = none from hf] at hfound
      cases hfound
    rw [noted_asked hr, asked, if_neg hnone, ← hp.length_variants]
    obtain ⟨hn, hb⟩ := Request.fresh_of_flag? hr
    exact .one (.made a c name hn hb)

/-- The notes of a run record a path to its application, if all variants in registered containers exist.
-/
theorem upheld_path {s : Application} (hs : s.Fresh) : Upheld s fun a T =>
    Existing s.variants.length (ofNotes s T) → Path s (ofNotes s T) a where
  tell h es hL := by
    have hp := (h hL).append (.tell _ es)
    rwa [List.append_nil] at hp
  performed {a b T c r x} h hb hL := by
    have hasked : (ofNotes s T).noted s (.asked c r) = [] := by simp [noted, hb.flag?]
    rw [ofNotes_snoc, ofNotes_snoc, hasked, List.append_nil] at hL ⊢
    exact (h hL.of_append).append hb.changes
  begun h hb hL := by
    rw [ofNotes_snoc] at hL ⊢
    have hp := h hL.of_append
    exact hp.append (hb.changes hp (hp.recounts hs hL.of_append))
  ended {a T c r x} h hr hL := by
    have hanswered : (ofNotes s T).noted s (.answered c r x) = [] := by
      cases r <;> first | rfl | cases hr
    rw [ofNotes_snoc, hanswered, List.append_nil] at hL ⊢
    exact h hL
  custom _ _ h _ _ _ hL := by
    rw [ofNotes_snoc] at hL ⊢
    show Path s (_ ++ []) _
    rw [List.append_nil]
    exact h hL.of_append
  standard _ _ _ _ _ h hL := by
    rw [ofNotes_snoc] at hL ⊢
    show Path s (_ ++ []) _
    rw [List.append_nil]
    exact h hL.of_append

/-! ## Bindings -/

/-- A variant that was added to a client is bound to the experiment that the client's table assigned to
its name when the client last had the variant stored. -/
def Settled (L : History) (c : ClientId) (a : Application) : Prop :=
  ∀ h, Added L c h → ∃ before, LastStored L c h before ∧
    (a.variant h).binding = some ⟨c, (table before c).forFlag? (a.variant h).name⟩

namespace Settled

variable {L : History} {a b : Application} {c d : ClientId} {h : Handle} {name : String}

theorem nil : Settled [] c a := by
  rintro h ⟨_, _, hm⟩
  cases hm

theorem congr (hs : Settled L c a) (hv : ∀ h, Added L c h → b.variant h = a.variant h) :
    Settled L c b := by
  intro h hh
  rw [hv h hh]
  exact hs h hh

theorem bindings_snoc {k : Change} (hs : Settled L c a) (hh : Added L c h)
    (hn : ¬Stored (L ++ [k]) c h) (hv : b.variant h = a.variant h) :
    ∃ before, LastStored (L ++ [k]) c h before ∧
      (b.variant h).binding = some ⟨c, (table before c).forFlag? (b.variant h).name⟩ := by
  obtain ⟨before, hl, hb⟩ := hs h hh
  rw [hv]
  exact ⟨before, hl.snoc hn, hb⟩

theorem binding_of_stored (hs : Settled L c a) (hh : Stored L c h) :
    (a.variant h).binding = some ⟨c, (table L c).forFlag? (a.variant h).name⟩ := by
  obtain ⟨before, hl, hb⟩ := hs h hh.added
  rw [hl.eq_of_stored hh] at hb
  exact hb

theorem add {isNew : Bool} (ha : Recounts L a) (hs : Settled L c a) (hc : c < a.clients.length)
    (hh : h < a.variants.length) (hL : Unshared (L ++ [.added d name h isNew]) c) :
    Settled (L ++ [.added d name h isNew]) c (a.add d name h) := by
  intro g hg
  by_cases hgh : g = h
  · -- as the client shares no variants, the addition was one to it
    subst hgh
    obtain rfl : d = c := hL.eq hg added_self
    refine ⟨_, .of_stored stored_added_self, ?_⟩
    rw [variant_add_self hh, table_added, ha.experiments d hc]
    rfl
  · have hg : Added L c g := by
      rcases added_snoc.mp hg with hg | ⟨_, _, hk⟩
      · exact hg
      · cases hk
        exact absurd rfl hgh
    -- the addition may have displaced it
    by_cases hst : Stored (L ++ [.added d name h isNew]) c g
    · refine ⟨_, .of_stored hst, ?_⟩
      rw [variant_add_ne hgh, table_added]
      exact hs.binding_of_stored (stored_of_added_ne hgh hst)
    · exact hs.bindings_snoc hg hst (variant_add_ne hgh)

theorem configure {models : List ExperimentModel} (ha : Recounts L a) (hs : Settled L c a)
    (hc : c < a.clients.length) (hL : Unshared L c) :
    Settled (L ++ [.configured d models]) c (a.configure d (.ofModels models)) := by
  intro g hg
  rw [added_configured] at hg
  -- stored variants are bound anew, if they are those of the client; all others are left alone
  have hother : ∀ m, (a.client d).flags.find? m = some g → d = c := fun m hm =>
    hL.eq hg (ha.added_of_find? hm)
  by_cases hst : Stored L c g
  · refine ⟨_, .of_stored (stored_configured.mpr hst), ?_⟩
    rw [table_configured]
    by_cases hdc : d = c
    · subst hdc
      obtain ⟨m, hm⟩ := hst
      rw [← ha.flags d hc] at hm
      rw [variant_configure_of_stored hc hm (ha.exists_of_added d g hg), if_pos rfl]
      rfl
    · rw [variant_configure_of_not_stored fun m hm => hdc (hother m hm), if_neg hdc]
      exact hs.binding_of_stored hst
  · have hout : ∀ m, (a.client d).flags.find? m ≠ some g := by
      intro m hm
      obtain rfl := hother m hm
      rw [ha.flags d hc] at hm
      exact hst ⟨m, hm⟩
    exact hs.bindings_snoc hg (fun h' => hst (stored_configured.mp h'))
      (variant_configure_of_not_stored hout)

/-- Every act preserves this, if it adds existing variants only. -/
theorem step {t : Act} (ha : Recounts L a) (hs : Settled L c a) (hc : c < a.clients.length)
    (ht : Step (fun _ _ _ => False) a t b)
    (hw : ∀ k ∈ t.changes, k.Within fun _ h => h < a.variants.length)
    (hL : Unshared (L ++ t.changes) c) : Settled (L ++ t.changes) c b := by
  cases ht with
  | event e =>
    show Settled (L ++ []) c _
    rw [List.append_nil]
    exact hs.congr fun _ _ => rfl
  | arranged d hf =>
    show Settled (L ++ []) c _
    rw [List.append_nil]
    exact hs.congr fun _ _ => rfl
  | added d name h => exact hs.add ha hc (hw (.added d name h false) List.mem_cons_self rfl) hL
  | @made d name v hn hb =>
    have hold : ∀ g, Added L c g → g ≠ a.variants.length := fun g hg he =>
      Nat.lt_irrefl _ (he ▸ ha.exists_of_added c g hg)
    have hs' : Settled L c (a.addVariant v) :=
      hs.congr fun g hg => variant_addVariant_ne (hold g hg)
    exact hs'.add (ha.addVariant hn hb) hc lt_length_addVariant hL
  | configured d models => exact hs.configure ha hc hL.of_append
  | code h => exact h.elim

end Settled

theorem Path.settled {a b : Application} {L : History} {c : ClientId} (h : Path a L b) (ha : a.Fresh)
    (hc : c < a.clients.length) (hL : Existing a.variants.length L) (hu : Unshared L c) :
    Settled L c b := by
  induction h with
  | nil => exact .nil
  | snoc hp hs ih =>
    exact (ih hL.of_append hu.of_append).step (hp.recounts ha hL.of_append)
      (hp.length_clients.symm ▸ hc) hs (hp.within_of_existing hL) hu

open History in
/-- What a history determines of the names and bindings of the variants of a client. -/
structure Follows (L : History) (c : ClientId) (a : Application) : Prop where
  /-- A variant has the first name under which it was added, and none before that. -/
  names : ∀ h, (a.variant h).name? = firstName? L h
  /-- The experiments in force are those of the last configuration. -/
  experiments : (a.client c).experiments = table L c
  /-- The client has under each name the variant that was last added under it. -/
  flags : (a.client c).flags = History.flags L c
  /-- A variant that is stored under any key is bound to the client, and to the experiment that the
  last configuration assigns to its name; the key does not matter. -/
  stored : ∀ key h, (a.client c).flags.find? key = some h →
    (a.variant h).binding = some ⟨c, (table L c).forFlag? (a.variant h).name⟩
  /-- A variant that was displaced keeps the binding that it had when it was last stored. -/
  displaced : ∀ h, Added L c h → (∀ key, (a.client c).flags.find? key ≠ some h) →
    ∃ before k after, L = before ++ k :: after ∧ Stored before c h ∧
    (∀ rest, rest <+: after → ¬Stored (before ++ k :: rest) c h) ∧
    (a.variant h).binding = some ⟨c, (table before c).forFlag? (a.variant h).name⟩
  /-- A variant that was never added is not bound. -/
  unbound : ∀ h, (∀ d, ¬Added L d h) → (a.variant h).binding = none

/-- Names and bindings of a client that shares no variants, from the invariants. -/
theorem Settled.follows {a : Application} {c : ClientId} {L : History} (hs : Settled L c a)
    (ha : Recounts L a) (hc : c < a.clients.length) : Follows L c a := by
  refine ⟨ha.names, ha.experiments c hc, ha.flags c hc, ?_, ?_, ha.unbound⟩
  · intro key h hk
    rw [ha.flags c hc] at hk
    exact hs.binding_of_stored ⟨key, hk⟩
  · intro h hh hout
    have hn : ¬History.Stored L c h := by
      rintro ⟨key, hk⟩
      rw [← ha.flags c hc] at hk
      exact hout key hk
    obtain ⟨before, hl, hb⟩ := hs h hh
    obtain ⟨rest, hrest⟩ := hl.isPrefix
    cases rest with
    | nil =>
      rw [List.append_nil] at hrest
      exact absurd (hrest ▸ hl.stored) hn
    | cons k after =>
      refine ⟨before, k, after, hrest.symm, hl.stored, ?_, hb⟩
      -- there is no longer beginning after which the variant was stored
      intro rest hp hst
      have hlong : before ++ k :: rest <+: L := by
        rw [← hrest]
        exact (List.prefix_append_right_inj before).mpr (List.cons_prefix_cons.mpr ⟨rfl, hp⟩)
      have hle := hl.longest _ hlong hst
      rw [List.length_append, List.length_cons] at hle
      omega

/-- The history of requests made in sequence, and of those made by user code meanwhile. -/
def history (a : Application) (calls : List Call) : History := .ofNotes a (a.notes calls)

section Calls

variable {a : Application} {calls : List Call}

theorem history_append (calls more : List Call) :
    ∃ K, a.history (calls ++ more) = a.history calls ++ K := by
  obtain ⟨N, hN⟩ := notes_append (a := a) calls more
  rw [history, history, hN]
  exact ofNotes_append

/-- Requests made in sequence lead along the path of their history. -/
theorem path_history (ha : a.Fresh) (hL : Existing a.variants.length (a.history calls)) :
    Path a (a.history calls) (a.callAll calls) :=
  (upheld_path ha).notes (fun _ => .nil a) calls hL

theorem follows_history {c : ClientId} (ha : a.Fresh) (hc : c < a.clients.length)
    (hL : Existing a.variants.length (a.history calls)) (hu : (a.history calls).Unshared c) :
    Follows (a.history calls) c (a.callAll calls) := by
  have hp := path_history ha hL
  exact (hp.settled ha hc hL hu).follows (hp.recounts ha hL) (hp.length_clients.symm ▸ hc)

/-- For any sequence of requests, with any user code: the names and bindings of the variants of a client
that shares no variants are those determined by the history of the requests, provided that registered
containers hold existing variants only. A name is never changed later. The run with notes, from which
the history is read, is the run itself. -/
theorem bindings_follow_history {c : ClientId} (ha : a.Fresh) (hc : c < a.clients.length)
    (calls : List Call) (hL : Existing a.variants.length (a.history calls))
    (hu : (a.history calls).Unshared c) :
    Follows (a.history calls) c (a.callAll calls) ∧
    (∀ more, Existing a.variants.length (a.history (calls ++ more)) → ∀ h n,
      ((a.callAll calls).variant h).name? = some n →
      ((a.callAll (calls ++ more)).variant h).name? = some n) ∧
    (Noted.callAll (a, []) calls).1 = a.callAll calls := by
  have hfollows := follows_history ha hc hL hu
  refine ⟨hfollows, fun more hmore h n hn => ?_, (callAll_noted a calls).1⟩
  obtain ⟨K, hK⟩ := history_append (a := a) calls more
  rw [hfollows.names] at hn
  rw [((path_history ha hmore).recounts ha hmore).names, hK, firstName?, List.findSome?_append,
    show List.findSome? (nameFrom? h) (a.history calls) = some n from hn]
  rfl

end Calls

def paired : Application :=
  (ofVariants [.flag false, .flag true]).addClient ⟨.empty, .ofNat 0, [], none, false⟩

/-- A variant is stored under two names, and another one replaces it under the first. A flag made by a
request is registered under a second name. An operator puts other experiments in force while a condition
is evaluated. -/
def clearing : List Call :=
  [⟨2, 0, .register (.make "ns" [("a", 0), ("b", 0), ("a", 1)])⟩,
    ⟨2, 0, .addOperator "clear" (.exactly 0) fun _ _ =>
      .request 0 (.setExperiments []) fun _ => .done .undefined⟩,
    ⟨2, 0, .setExperiments [.make "1" "e" "clear()" false ["ns.a"] []]⟩,
    ⟨2, 0, .isEnabled "c" false none⟩,
    ⟨2, 0, .register (.make "" [("d", 2)])⟩,
    ⟨2, 0, .evaluate 0 none⟩]

/-- The experiments put in force by the operator are the last ones. -/
theorem bindings_follow_history_displaced :
    let L : History := [.added 0 "ns.a" 0 false, .added 0 "ns.b" 0 false, .added 0 "ns.a" 1 false,
      .configured 0 [.make "1" "e" "clear()" false ["ns.a"] []], .added 0 "c" 2 true,
      .added 0 "d" 2 false, .configured 0 []]
    paired.history clearing = L ∧ Follows L 0 (paired.callAll clearing) := by
  intro L
  have hfresh : paired.Fresh := by
    refine ⟨fun v hv => ?_, fun s hs => ?_⟩
    · rcases List.mem_cons.mp hv with rfl | hv
      · exact ⟨rfl, rfl⟩
      · rw [List.mem_singleton.mp hv]
        exact ⟨rfl, rfl⟩
    · exact ⟨_, List.mem_singleton.mp hs⟩
  have hL : paired.history clearing = L := by decide +kernel
  have hexisting : Existing paired.variants.length (paired.history clearing) := by
    rw [hL]
    decide
  have hunshared : (paired.history clearing).Unshared 0 := by
    rw [hL]
    decide
  have hc : 0 < paired.clients.length := Nat.one_pos
  obtain ⟨hfollows, -, -⟩ := bindings_follow_history hfresh hc clearing hexisting hunshared
  rw [hL] at hfollows
  exact ⟨hL, hfollows⟩

end Application

end FeatureFlags
