import FeatureFlags.Proofs.Conduct
import Mathlib.Data.List.Induction

/-!
# Histories of names and bindings

A `History` lists additions of variants and configurations in order. It determines the experiments
in force, the variants by name, and the first name of each variant (`History.table`, `flags`,
`firstName?`). `Path` leads from one application to another along a history; a conduct of a
computation, user code included, is such a path (`Conduct.path_of_changes`).

Along every path names, tables and experiments are those of the history (`Recounts`,
`Path.recounts`).
-/

namespace FeatureFlags

/-- The changes of names and bindings made by an act itself. -/
def Act.changes : Act → List Change
  | changed k => [k]
  | _ => []

/-- Additions and configurations in order. -/
abbrev History := List Change

namespace History

/-- The experiments in force for a client: those of its last configuration. -/
def table (L : History) (c : ClientId) : ExperimentTable :=
  L.foldl (fun t k =>
    match k with
    | .configured d models => if d = c then .ofModels models else t
    | .added .. => t) .empty

/-- The variants of a client by name: under each name the one added last. -/
def flags (L : History) (c : ClientId) : Dict Handle :=
  L.foldl (fun s k =>
    match k with
    | .added d name h _ => if d = c then s.insert name h else s
    | .configured .. => s) .empty

/-- The name that a change gives to a variant without name. -/
def nameFrom? (h : Handle) : Change → Option String
  | .added _ name g _ => if g = h then some name else none
  | .configured .. => none

/-- The first name under which a variant was added. -/
def firstName? (L : History) (h : Handle) : Option String := L.findSome? (nameFrom? h)

def Added (L : History) (c : ClientId) (h : Handle) : Prop :=
  ∃ name isNew, Change.added c name h isNew ∈ L

/-- Whether a client has a variant under some name. -/
def Stored (L : History) (c : ClientId) (h : Handle) : Prop :=
  ∃ name, (flags L c).find? name = some h

/-- The number of variants made in a history. -/
def made (L : History) : Nat := L.countP Change.isNew

/-- Whether every added variant exists when it is added, given `n` variants at the beginning. -/
def Existing (n : Nat) (L : History) : Prop :=
  ∀ before k, before ++ [k] <+: L → k.Within fun _ h => h < n + made before

/-- The additions of variants to clients. -/
def additions (L : History) : List (ClientId × Handle) :=
  L.filterMap fun
    | .added c _ h _ => some (c, h)
    | .configured .. => none

/-- Whether no variant added to a client is added to another one. -/
def Unshared (L : History) (c : ClientId) : Prop :=
  ∀ p ∈ L.additions, ∀ q ∈ L.additions, p.1 = c → p.2 = q.2 → q.1 = c

theorem existing_iff_getElem {n : Nat} {L : History} : Existing n L ↔
    ∀ i (hi : i < L.length), (L[i]).Within fun _ h => h < n + made (L.take i) := by
  constructor
  · intro hL i hi
    refine hL (L.take i) L[i] ?_
    rw [List.take_append_getElem hi]
    exact List.take_prefix _ L
  · rintro hL before k ⟨after, rfl⟩
    have hk := hL before.length (by simp)
    simpa using hk

instance {n : Nat} {L : History} : Decidable (Existing n L) :=
  decidable_of_iff' _ existing_iff_getElem

instance {L : History} {c : ClientId} : Decidable (L.Unshared c) :=
  inferInstanceAs (Decidable (∀ p ∈ L.additions, ∀ q ∈ L.additions, p.1 = c → p.2 = q.2 → q.1 = c))

section Snoc

variable {L K : History} {c d : ClientId} {h g : Handle} {name : String} {isNew : Bool}
  {models : List ExperimentModel} {k : Change}

theorem table_added : table (L ++ [.added d name h isNew]) c = table L c := by
  simp [table]

theorem table_configured :
    table (L ++ [.configured d models]) c = if d = c then .ofModels models else table L c := by
  simp [table]

theorem flags_added :
    flags (L ++ [.added d name h isNew]) c =
      if d = c then (flags L c).insert name h else flags L c := by
  simp [flags]

theorem flags_configured : flags (L ++ [.configured d models]) c = flags L c := by
  simp [flags]

theorem firstName?_added_self :
    firstName? (L ++ [.added d name h isNew]) h = (firstName? L h).or (some name) := by
  simp [firstName?, nameFrom?]

theorem firstName?_added_ne (hg : g ≠ h) :
    firstName? (L ++ [.added d name h isNew]) g = firstName? L g := by
  simp [firstName?, nameFrom?, Ne.symm hg]

theorem firstName?_configured : firstName? (L ++ [.configured d models]) h = firstName? L h := by
  simp [firstName?, nameFrom?]

theorem added_snoc :
    Added (L ++ [k]) c h ↔ Added L c h ∨ ∃ name isNew, k = .added c name h isNew := by
  constructor
  · rintro ⟨name, isNew, hm⟩
    rcases List.mem_append.mp hm with hm | hm
    · exact .inl ⟨name, isNew, hm⟩
    · exact .inr ⟨name, isNew, (List.mem_singleton.mp hm).symm⟩
  · rintro (⟨name, isNew, hm⟩ | ⟨name, isNew, rfl⟩)
    · exact ⟨name, isNew, List.mem_append_left _ hm⟩
    · exact ⟨name, isNew, List.mem_append_right _ (List.mem_singleton.mpr rfl)⟩

theorem added_self : Added (L ++ [.added c name h isNew]) c h :=
  added_snoc.mpr (.inr ⟨name, isNew, rfl⟩)

theorem added_configured : Added (L ++ [.configured d models]) c h ↔ Added L c h := by
  rw [added_snoc, or_iff_left]
  rintro ⟨_, _, hk⟩
  cases hk

theorem mem_additions_iff : (c, h) ∈ L.additions ↔ Added L c h := by
  rw [additions, List.mem_filterMap]
  constructor
  · rintro ⟨k, hk, he⟩
    cases k with
    | added d name g isNew =>
      cases he
      exact ⟨name, isNew, hk⟩
    | configured d models => cases he
  · rintro ⟨name, isNew, hk⟩
    exact ⟨_, hk, rfl⟩

theorem Unshared.eq (hL : L.Unshared c) (hc : Added L c h) (hd : Added L d h) : d = c :=
  hL (c, h) (mem_additions_iff.mpr hc) (d, h) (mem_additions_iff.mpr hd) rfl rfl

theorem Unshared.of_append (hL : (L ++ K).Unshared c) : L.Unshared c := by
  have hadditions : (L ++ K).additions = L.additions ++ K.additions := List.filterMap_append
  rw [Unshared, hadditions] at hL
  exact fun p hp q hq => hL p (List.mem_append_left _ hp) q (List.mem_append_left _ hq)

theorem made_append : (L ++ K).made = L.made + K.made := List.countP_append

theorem Existing.of_append {n : Nat} (hL : Existing n (L ++ K)) : Existing n L :=
  fun before k hp => hL before k (hp.trans (List.prefix_append L K))

/-- A history can be continued by additions of new variants, and of those present at the beginning. -/
theorem Existing.append {n : Nat} (hL : Existing n L) (hK : ∀ k ∈ K, k.Within fun _ h => h < n) :
    Existing n (L ++ K) := by
  induction K using List.reverseRecOn with
  | nil => rwa [List.append_nil]
  | append_singleton K k ih =>
    rw [List.forall_mem_append, List.forall_mem_singleton] at hK
    intro before k' hp
    rw [← List.append_assoc] at hp
    rcases List.prefix_concat_iff.mp hp with he | hp
    · obtain ⟨-, hk⟩ := List.append_inj' he rfl
      rw [List.singleton_inj.mp hk]
      exact hK.2.mono fun _ _ hh => Nat.lt_add_right _ hh
    · exact ih hK.1 before k' hp

theorem Added.append (ha : Added L c h) : Added (L ++ K) c h := by
  obtain ⟨name, isNew, hm⟩ := ha
  exact ⟨name, isNew, List.mem_append_left _ hm⟩

/-- A variant that is stored was added. -/
theorem Stored.added (hs : Stored L c h) : Added L c h := by
  -- on the history from its end, where the last addition decides
  induction L using List.reverseRecOn with
  | nil =>
    obtain ⟨name, hn⟩ := hs
    cases hn
  | append_singleton L k ih =>
    obtain ⟨name, hn⟩ := hs
    cases k with
    | configured d models =>
      rw [flags_configured] at hn
      exact (ih ⟨name, hn⟩).append
    | added d n g isNew =>
      rw [flags_added] at hn
      split at hn
      · rename_i hd
        subst hd
        rw [Dict.find?_insert] at hn
        split at hn
        · cases hn
          exact added_self
        · exact (ih ⟨name, hn⟩).append
      · exact (ih ⟨name, hn⟩).append

theorem Added.firstName? (ha : Added L c h) : ∃ n, firstName? L h = some n := by
  obtain ⟨name, isNew, hm⟩ := ha
  cases hf : History.firstName? L h with
  | some n => exact ⟨n, rfl⟩
  | none =>
    have := List.findSome?_eq_none_iff.mp hf _ hm
    simp [nameFrom?] at this

end Snoc

end History

namespace Application

/-! ## Paths -/

/-- Acts from one application to another, of which the history lists the changes of names and bindings.
-/
inductive Path : Application → History → Application → Prop
  | nil (a : Application) : Path a [] a
  | snoc {a b d : Application} {L : History} {t : Act} (h : Path a L b)
    (hs : Step (fun _ _ _ => False) b t d) : Path a (L ++ t.changes) d

theorem Path.append {a b d : Application} {L K : History} (h : Path a L b) (h' : Path b K d) :
    Path a (L ++ K) d := by
  induction h' with
  | nil =>
    rw [List.append_nil]
    exact h
  | snoc _ hs ih =>
    rw [← List.append_assoc]
    exact ih.snoc hs

theorem Path.one {a b : Application} {t : Act} (hs : Step (fun _ _ _ => False) a t b) :
    Path a t.changes b :=
  (Path.nil a).snoc hs

/-- A step is one of the computation itself, or a run of user code. -/
theorem Step.own_or_code {ran : Ran} {a b : Application} {t : Act} (h : Step ran a t b) :
    Step (fun _ _ _ => False) a t b ∨ ∃ p r, t = .code p r ∧ ran p a (r, b) := by
  cases h with
  | event e => exact .inl (.event a e)
  | arranged c hf => exact .inl (.arranged a c hf)
  | added c name h => exact .inl (.added a c name h)
  | made c name hn hb => exact .inl (.made a c name hn hb)
  | configured c models => exact .inl (.configured a c models)
  | code h => exact .inr ⟨_, _, rfl, h⟩

theorem flatMap_changes_event {es : List Event} : (es.map Act.event).flatMap Act.changes = [] := by
  rw [List.flatMap_eq_nil_iff]
  intro t ht
  obtain ⟨e, -, rfl⟩ := List.mem_map.mp ht
  rfl

theorem flatMap_changes_changed {L : History} : (L.map Act.changed).flatMap Act.changes = L := by
  induction L with
  | nil => rfl
  | cons k rest ih =>
    rw [List.map_cons, List.flatMap_cons, ih]
    rfl

/-- The acts of a computation without user code are a path along its changes. -/
theorem Conduct.path_of_changes {ran : Ran} {a b : Application} {acts : List Act}
    (h : Conduct ran a acts b) (hc : ∀ p r, .code p r ∉ acts) :
    Path a (acts.flatMap Act.changes) b := by
  induction h with
  | nil a => exact .nil a
  | cons hs _ ih =>
    have hrest := ih fun p r hm => hc p r (List.mem_cons_of_mem _ hm)
    rcases hs.own_or_code with ho | ⟨p, r, rfl, -⟩
    · exact (Path.one ho).append hrest
    · exact absurd List.mem_cons_self (hc p r)

section Paths

variable {a : Application} {c : ClientId}

theorem Path.tell (a : Application) (es : List Event) : Path a [] (a.tell es) := by
  have ht : Conduct (fun _ _ _ => False) a (es.map .event) (a.tell es) := .tell a es
  have h := ht.path_of_changes (by simp)
  rwa [flatMap_changes_event] at h

theorem Path.arrange {f : Client → Client} (hf : Client.Arranges f) :
    Path a [] (a.modifyClient c f) :=
  .one (.arranged a c hf)

theorem Path.addAll (a : Application) (c : ClientId) (entries : List (String × Handle)) :
    Path a (entries.map fun e => .added c e.1 e.2 false) (a.addAll c entries) := by
  induction entries generalizing a with
  | nil => exact .nil a
  | cons e rest ih => exact (Path.one (.added a c e.1 e.2)).append (ih (a.add c e.1 e.2))

end Paths

/-! ## The application after a history -/

/-- An application with new clients, and variants without names and bindings. -/
structure Fresh (a : Application) : Prop where
  variants : ∀ v ∈ a.variants, v.name? = none ∧ v.binding = none
  clients : ∀ s ∈ a.clients, ∃ k, s = Client.ofConfig k

open History in
/-- An application has the names, variants and experiments of a history. -/
structure Recounts (L : History) (a : Application) : Prop where
  exists_of_added : ∀ c h, Added L c h → h < a.variants.length
  names : ∀ h, (a.variant h).name? = firstName? L h
  experiments : ∀ c, c < a.clients.length → (a.client c).experiments = table L c
  flags : ∀ c, c < a.clients.length → (a.client c).flags = History.flags L c
  bound : ∀ c h, Added L c h → ∃ b, (a.variant h).binding = some b ∧ Added L b.client h
  unbound : ∀ h, (∀ c, ¬Added L c h) → (a.variant h).binding = none

namespace Recounts

open History

variable {L : History} {a b : Application} {c : ClientId} {h : Handle} {name : String} {v : Variant}

theorem of_fresh (ha : a.Fresh) : Recounts [] a := by
  have hv : ∀ h, (a.variant h).name? = none ∧ (a.variant h).binding = none := by
    intro h
    by_cases hh : h < a.variants.length
    · have he : a.variant h = a.variants[h] := by simp [variant, List.getD_eq_getElem?_getD, hh]
      rw [he]
      exact ha.variants _ (List.getElem_mem hh)
    · rw [variant_of_le (Nat.le_of_not_lt hh)]
      exact ⟨rfl, rfl⟩
  have hs : ∀ c, c < a.clients.length → ∃ k, a.client c = Client.ofConfig k := by
    intro c hc
    have he : a.client c = a.clients[c] := by simp [client, List.getD_eq_getElem?_getD, hc]
    rw [he]
    exact ha.clients _ (List.getElem_mem hc)
  constructor
  case exists_of_added =>
    rintro c h ⟨_, _, hm⟩
    cases hm
  case names => exact fun h => (hv h).1
  case experiments =>
    intro c hc
    obtain ⟨k, hk⟩ := hs c hc
    rw [hk]
    rfl
  case flags =>
    intro c hc
    obtain ⟨k, hk⟩ := hs c hc
    rw [hk]
    rfl
  case bound =>
    rintro c h ⟨_, _, hm⟩
    cases hm
  case unbound => exact fun h _ => (hv h).2

theorem congr (ha : Recounts L a) (hv : b.variants = a.variants)
    (hl : b.clients.length = a.clients.length)
    (he : ∀ c, (b.client c).experiments = (a.client c).experiments)
    (hf : ∀ c, (b.client c).flags = (a.client c).flags) : Recounts L b := by
  have hv' : ∀ h, b.variant h = a.variant h := fun h => by rw [variant, variant, hv]
  constructor
  case exists_of_added =>
    rw [hv]
    exact ha.exists_of_added
  case names =>
    intro h
    rw [hv']
    exact ha.names h
  case experiments =>
    intro c hc
    rw [he]
    exact ha.experiments c (hl ▸ hc)
  case flags =>
    intro c hc
    rw [hf]
    exact ha.flags c (hl ▸ hc)
  case bound =>
    intro c h hh
    rw [hv']
    exact ha.bound c h hh
  case unbound =>
    intro h hh
    rw [hv']
    exact ha.unbound h hh

theorem firstName?_of_le (ha : Recounts L a) (hh : a.variants.length ≤ h) :
    firstName? L h = none := by
  rw [← ha.names h, variant_of_le hh]
  rfl

theorem addVariant (ha : Recounts L a) (hn : v.name? = none) (hb : v.binding = none) :
    Recounts L (a.addVariant v) := by
  have hl : (a.addVariant v).variants.length = a.variants.length + 1 := length_variants_addVariant
  have hout : ∀ c, ¬Added L c a.variants.length := fun c hc =>
    Nat.lt_irrefl _ (ha.exists_of_added c _ hc)
  constructor
  case exists_of_added =>
    intro c h hh
    rw [hl]
    exact Nat.lt_succ_of_lt (ha.exists_of_added c h hh)
  case experiments => exact ha.experiments
  case flags => exact ha.flags
  case names =>
    intro h
    by_cases hh : h = a.variants.length
    · subst hh
      rw [variant_addVariant_self, ha.firstName?_of_le (Nat.le_refl _)]
      exact hn
    · rw [variant_addVariant_ne hh]
      exact ha.names h
  case bound =>
    intro c h hh
    -- the new variant was not added yet
    have hne : h ≠ a.variants.length := fun he => hout c (he ▸ hh)
    rw [variant_addVariant_ne hne]
    exact ha.bound c h hh
  case unbound =>
    intro h hh
    by_cases he : h = a.variants.length
    · subst he
      rw [variant_addVariant_self]
      exact hb
    · rw [variant_addVariant_ne he]
      exact ha.unbound h hh

theorem add {isNew : Bool} (ha : Recounts L a) (hh : h < a.variants.length) :
    Recounts (L ++ [.added c name h isNew]) (a.add c name h) := by
  constructor
  case exists_of_added =>
    intro d g hg
    rw [length_variants_add]
    rcases added_snoc.mp hg with hg | ⟨_, _, hk⟩
    · exact ha.exists_of_added d g hg
    · cases hk
      exact hh
  case names =>
    intro g
    by_cases hg : g = h
    · subst hg
      rw [variant_add_self hh, firstName?_added_self, ← ha.names g]
      rfl
    · rw [variant_add_ne hg, firstName?_added_ne hg]
      exact ha.names g
  case experiments =>
    intro d hd
    rw [length_clients_add] at hd
    rw [client_add_congr Client.experiments fun _ _ => rfl, table_added]
    exact ha.experiments d hd
  case flags =>
    intro d hd
    rw [length_clients_add] at hd
    rw [flags_added]
    by_cases hdc : c = d
    · subst hdc
      rw [client_add_self hd, if_pos rfl, ← ha.flags c hd]
    · rw [client_add_ne (Ne.symm hdc), if_neg hdc]
      exact ha.flags d hd
  case bound =>
    intro d g hg
    by_cases hgh : g = h
    · subst hgh
      rw [variant_add_self hh]
      exact ⟨_, rfl, added_self⟩
    · rw [variant_add_ne hgh]
      rcases added_snoc.mp hg with hg | ⟨_, _, hk⟩
      · obtain ⟨b, hb, hbg⟩ := ha.bound d g hg
        exact ⟨b, hb, hbg.append⟩
      · cases hk
        exact absurd rfl hgh
  case unbound =>
    intro g hg
    have hgh : g ≠ h := by
      rintro rfl
      exact hg c added_self
    rw [variant_add_ne hgh]
    exact ha.unbound g fun d hd => hg d hd.append

theorem lt_of_find? (hf : (a.client c).flags.find? name = some h) : c < a.clients.length := by
  by_contra hc
  have hd : a.client c = default := by
    simp [client, List.getD_eq_getElem?_getD, Nat.le_of_not_lt hc]
  rw [hd] at hf
  cases hf

theorem added_of_find? (ha : Recounts L a) (hf : (a.client c).flags.find? name = some h) :
    Added L c h := by
  rw [ha.flags c (lt_of_find? hf)] at hf
  exact Stored.added ⟨name, hf⟩

/-- Putting other experiments in force removes no binding. -/
theorem binding_configure (ha : Recounts L a) (t : ExperimentTable) (g : Handle) :
    ((a.configure c t).variant g).binding = (a.variant g).binding ∨
      Added L c g ∧ ∃ m, ((a.configure c t).variant g).binding = some ⟨c, m⟩ := by
  by_cases hs : ∃ name, (a.client c).flags.find? name = some g
  · obtain ⟨name, hn⟩ := hs
    have hg := ha.added_of_find? hn
    rw [variant_configure_of_stored (lt_of_find? hn) hn (ha.exists_of_added c g hg)]
    exact .inr ⟨hg, _, rfl⟩
  · rw [variant_configure_of_not_stored fun name hn => hs ⟨name, hn⟩]
    exact .inl rfl

theorem configure {models : List ExperimentModel} (ha : Recounts L a) :
    Recounts (L ++ [.configured c models]) (a.configure c (.ofModels models)) := by
  constructor
  case exists_of_added =>
    intro d g hg
    rw [length_variants_configure]
    exact ha.exists_of_added d g (added_configured.mp hg)
  case names =>
    intro g
    rw [name?_configure, firstName?_configured]
    exact ha.names g
  case experiments =>
    intro d hd
    rw [length_clients_configure] at hd
    rw [table_configured]
    by_cases hdc : c = d
    · subst hdc
      rw [client_configure_self hd, if_pos rfl]
    · rw [client_configure_ne (Ne.symm hdc), if_neg hdc]
      exact ha.experiments d hd
  case flags =>
    intro d hd
    rw [length_clients_configure] at hd
    rw [client_configure_congr Client.flags fun _ _ => rfl, flags_configured]
    exact ha.flags d hd
  case bound =>
    intro d g hg
    rcases ha.binding_configure (c := c) _ g with he | ⟨hc, m, hm⟩
    · rw [he]
      obtain ⟨b, hb, hbg⟩ := ha.bound d g (added_configured.mp hg)
      exact ⟨b, hb, hbg.append⟩
    · exact ⟨_, hm, hc.append⟩
  case unbound =>
    intro g hg
    have hg' : ∀ d, ¬Added L d g := fun d hd => hg d hd.append
    rcases ha.binding_configure (c := c) _ g with he | ⟨hc, -⟩
    · rw [he]
      exact ha.unbound g hg'
    · exact absurd hc (hg' c)

/-- Every act preserves this, if it adds existing variants only. -/
theorem step {t : Act} (ha : Recounts L a) (hs : Step (fun _ _ _ => False) a t b)
    (ht : ∀ k ∈ t.changes, k.Within fun _ h => h < a.variants.length) :
    Recounts (L ++ t.changes) b := by
  cases hs with
  | event e =>
    show Recounts (L ++ []) _
    rw [List.append_nil]
    exact ha.congr rfl rfl (fun _ => rfl) fun _ => rfl
  | arranged c hf =>
    show Recounts (L ++ []) _
    rw [List.append_nil]
    exact ha.congr rfl length_clients_modifyClient
      (fun _ => client_modifyClient_congr _ hf.experiments)
      fun _ => client_modifyClient_congr _ hf.flags
  | added c name h => exact ha.add (ht (.added c name h false) List.mem_cons_self rfl)
  | made c name hn hb => exact (ha.addVariant hn hb).add lt_length_addVariant
  | configured c models => exact ha.configure
  | code h => exact h.elim

end Recounts

theorem Step.length_variants {a b : Application} {t : Act} (h : Step (fun _ _ _ => False) a t b) :
    b.variants.length = a.variants.length + History.made t.changes := by
  cases h with
  | event e => rfl
  | arranged c hf => rfl
  | added c name h => exact length_variants_add
  | made c name hn hb => exact length_variants_make
  | configured c models => exact length_variants_configure
  | code h => exact h.elim

theorem Path.length_variants {a b : Application} {L : History} (h : Path a L b) :
    b.variants.length = a.variants.length + L.made := by
  induction h with
  | nil => rfl
  | snoc _ hs ih => rw [hs.length_variants, ih, History.made_append, Nat.add_assoc]

theorem Path.within_of_existing {a b : Application} {L : History} {t : Act} (h : Path a L b)
    (hL : History.Existing a.variants.length (L ++ t.changes)) :
    ∀ k ∈ t.changes, k.Within fun _ h => h < b.variants.length := by
  intro k hk
  rw [h.length_variants]
  cases t with
  | changed k' =>
    rw [List.mem_singleton.mp hk]
    exact hL L k' List.prefix_rfl
  | _ => cases hk

/-- Along every path the application has what its history says. -/
theorem Path.recounts {a b : Application} {L : History} (h : Path a L b) (ha : a.Fresh)
    (hL : History.Existing a.variants.length L) : Recounts L b := by
  induction h with
  | nil => exact .of_fresh ha
  | snoc hp hs ih => exact (ih hL.of_append).step hs (hp.within_of_existing hL)

theorem Path.length_clients {a b : Application} {L : History} (h : Path a L b) :
    b.clients.length = a.clients.length := by
  induction h with
  | nil => rfl
  | snoc _ hs ih =>
    rw [← ih]
    cases hs with
    | event e => rfl
    | arranged c hf => exact length_clients_modifyClient
    | added c name h => exact length_clients_add
    | made c name hn hb => exact length_clients_add
    | configured c models => exact length_clients_configure
    | code h => exact h.elim

theorem Path.globalContext {a b : Application} {L : History} (h : Path a L b) (c : ClientId) :
    (b.client c).globalContext = (a.client c).globalContext := by
  induction h with
  | nil => rfl
  | snoc _ hs ih =>
    rw [← ih]
    cases hs with
    | event e => rfl
    | arranged d hf => exact client_modifyClient_congr _ hf.globalContext
    | added d name h => exact client_add_congr Client.globalContext fun _ _ => rfl
    | made d name hn hb => exact client_add_congr Client.globalContext fun _ _ => rfl
    | configured d models => exact client_configure_congr Client.globalContext fun _ _ => rfl
    | code h => exact h.elim

theorem Path.name_kept {a b : Application} {L : History} {h : Handle} {n : String} (hp : Path a L b)
    (hn : (a.variant h).name? = some n) : (b.variant h).name? = some n := by
  induction hp with
  | nil => exact hn
  | @snoc b _ _ _ _ hs ih =>
    -- what has a name exists, so it is not the variant that is made
    have hlt : h < b.variants.length := by
      by_contra hle
      rw [variant_of_le (Nat.le_of_not_lt hle)] at ih
      cases ih
    cases hs with
    | event e => exact ih
    | arranged d hf => exact ih
    | added d name g =>
      by_cases hg : h = g
      · subst hg
        rw [variant_add_self hlt]
        show (b.variant h).name?.or _ = _
        rw [ih, Option.some_or]
      · rw [variant_add_ne hg]
        exact ih
    | made d name _ _ =>
      have hne : h ≠ b.variants.length := Nat.ne_of_lt hlt
      rw [make, variant_add_ne hne, variant_addVariant_ne hne]
      exact ih
    | configured d models =>
      rw [name?_configure]
      exact ih
    | code h => exact h.elim

end Application

end FeatureFlags
