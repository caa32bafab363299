import FeatureFlags.Proofs.Json.Shape
import FeatureFlags.Proofs.Json.Printing
import FeatureFlags.Experiment.Wire

/-!
# How experiments are written

`ExperimentModel.Describes` relates a model to the JSON values that stand for it: members in any
order and among others, flags in any order and repeated, members with their default missing. Every
text of such a value is read as this model, so reading and rendering yields its normal form
(`ExperimentModel.read_normalizes`).
-/

namespace FeatureFlags

open Json

/-! ## Names in order -/

theorem mem_insertName {n name : String} {names : List String} :
    n ∈ insertName name names ↔ n = name ∨ n ∈ names := by
  induction names with
  | nil => simp [insertName]
  | cons m rest ih =>
    unfold insertName
    split
    · exact List.mem_cons
    · split
      · rename_i h
        subst h
        simp
      · rw [List.mem_cons, ih, List.mem_cons]
        exact or_left_comm

theorem insertName_ascending {name : String} {names : List String}
    (h : names.Pairwise (· < ·)) : (insertName name names).Pairwise (· < ·) := by
  induction names with
  | nil => exact List.pairwise_singleton _ _
  | cons m rest ih =>
    obtain ⟨hm, hrest⟩ := List.pairwise_cons.mp h
    unfold insertName
    split
    · rename_i hlt
      refine List.pairwise_cons.mpr ⟨List.forall_mem_cons.mpr ⟨hlt, fun n hn => ?_⟩, h⟩
      exact String.lt_trans hlt (hm n hn)
    · rename_i hge
      split
      · exact h
      · rename_i hne
        refine List.pairwise_cons.mpr ⟨fun n hn => ?_, ih hrest⟩
        rcases mem_insertName.mp hn with rfl | hn
        · exact Classical.byContradiction fun hle =>
            hne (String.le_antisymm (String.not_lt.mp hle) (String.not_lt.mp hge))
        · exact hm n hn

theorem mem_orderedNames {n : String} {names : List String} :
    n ∈ orderedNames names ↔ n ∈ names := by
  induction names with
  | nil => rfl
  | cons m rest ih =>
    show n ∈ insertName m (orderedNames rest) ↔ _
    rw [mem_insertName, ih, List.mem_cons]

theorem orderedNames_ascending (names : List String) : (orderedNames names).Pairwise (· < ·) := by
  induction names with
  | nil => exact .nil
  | cons m rest ih => exact insertName_ascending ih

theorem orderedNames_eq {names flags : List String} (h : ∀ n, n ∈ names ↔ n ∈ flags)
    (hflags : flags.Pairwise (· < ·)) : orderedNames names = flags := by
  have hne : ∀ {a b : String}, a < b → a ≠ b := by
    rintro a _ hab rfl
    exact String.lt_irrefl a hab
  have hnodup : ∀ {ns : List String}, ns.Pairwise (· < ·) → ns.Nodup := fun hns => hns.imp hne
  have hnames := orderedNames_ascending names
  have hperm := (List.perm_ext_iff_of_nodup (hnodup hnames) (hnodup hflags)).mpr fun n =>
    mem_orderedNames.trans (h n)
  exact hperm.eq_of_pairwise (fun a b _ _ hab hba => absurd hba (String.lt_asymm hab)) hnames hflags

/-! ## Records among other members -/

namespace Json.Form

/-- Whether a form is an object of the given members, in any order and among others whose names are not
the given ones. -/
def IsRecord (names : List String) (fields : List (String × Form)) (f : Form) : Prop :=
  ∃ others members : List (String × Form), (∀ m ∈ others, m.1 ∉ names) ∧
    members.Perm (fields ++ others) ∧ f = .object (members.map fun m => (some m.1, m.2))

theorem memberValues_named (ms : List (String × Form)) :
    memberValues (ms.map fun m => (some m.1, m.2)) = some (ms.map fun m => (m.1, m.2.value)) := by
  induction ms with
  | nil => rfl
  | cons m rest ih =>
    rw [List.map_cons, memberValues, ih]
    rfl

theorem IsRecord.fitRecord_eq {names : List String} {fields : List (String × Form)} {f : Form}
    (h : IsRecord names fields f) (defaults : List (String × Option Json))
    {fits : List (String × (Json → Option Json))} (hn : fits.map (·.1) = names) :
    fitRecord defaults fits f.value =
      (fitMembers fits (defaults.map fun _ => none) (fields.map fun m => (m.1, m.2.value))).bind
        fun found => (fillIn defaults found).bind fun vs => some (.array vs) := by
  obtain ⟨others, members, hothers, hperm, rfl⟩ := h
  have hvalues := hperm.map fun m : String × Form => (m.1, m.2.value)
  rw [List.map_append] at hvalues
  have hunknown : ∀ m ∈ others.map fun m => (m.1, m.2.value), m.1 ∉ fits.map (·.1) := by
    intro m hm
    obtain ⟨o, ho, rfl⟩ := List.mem_map.mp hm
    exact hn ▸ hothers o ho
  rw [Form.value, memberValues_named]
  show (fitMembers fits _ (members.map _)).bind _ = _
  rw [fitMembers_perm hvalues, fitMembers_append]
  simp only [fitMembers_of_unknown hunknown, Option.bind_fun_some]
  rfl

end Json.Form

namespace ExperimentModel

open Form

theorem fit?_wrapped {n s : String} {f : Form} (h : IsRecord [n] [(n, .text (some s))] f) :
    (Schema.record (.cons n none .text .nil)).fit? f.value = some (.array [.text s]) := by
  show fitRecord [(n, none)] [(n, Schema.text.fit?)] f.value = _
  rw [h.fitRecord_eq _ rfl]
  simp [fitMembers, Form.value, Schema.fit?, fillIn]

/-- Whether a form describes a model. The names of its flags can be in any order, and repeated. -/
inductive Describes (m : ExperimentModel) : Form → Prop
  | record {f condition : Form} {names : List String} {flags : List Form}
    {archived labels : List (String × Form)}
    (hc : condition.IsRecord ["condition"] [("condition", .text (some m.condition))])
    (hn : ∀ n, n ∈ names ↔ n ∈ m.flags)
    (hf : List.Forall₂ (fun n g => g.IsRecord ["name"] [("name", .text (some n))]) names flags)
    (ha : archived = [("archived", .boolean m.isArchived)] ∨ m.isArchived = false ∧ archived = [])
    (hl : labels = [("labels", .array (m.labels.map fun s => .text (some s)))] ∨
      m.labels = [] ∧ labels = [])
    (h : f.IsRecord ["_id", "name", "deploymentConfiguration", "archived", "featureFlags", "labels"]
      ([("_id", .text (some m.id)), ("name", .text (some m.name)),
        ("deploymentConfiguration", condition), ("featureFlags", .array flags)] ++
          (archived ++ labels))) : Describes m f

theorem fit?_flags {names : List String} {flags : List Form}
    (h : List.Forall₂ (fun n g => g.IsRecord ["name"] [("name", .text (some n))]) names flags) :
    (Schema.list flagSchema).fit? (Form.array flags).value =
      some (.array (names.map fun n => .array [.text n])) := by
  have hitems : (values flags).mapM flagSchema.fit? = some (names.map fun n => .array [.text n]) := by
    induction h with
    | nil => rfl
    | cons h _ ih =>
      rw [values, List.mapM_cons, ih]
      rw [show flagSchema.fit? _ = _ from fit?_wrapped h]
      rfl
  show ((values flags).mapM flagSchema.fit?).map Json.array = _
  rw [hitems]
  rfl

theorem fit?_labels (labels : List String) :
    (Schema.list .text).fit? (Form.array (labels.map fun s => .text (some s))).value =
      some (.array (labels.map .text)) := by
  have hitems : (values (labels.map fun s => .text (some s))).mapM Schema.text.fit? =
      some (labels.map .text) := by
    rw [values_eq, List.map_map, List.mapM_map]
    exact List.mapM_pure
  show (List.mapM Schema.text.fit? _).map Json.array = _
  rw [hitems]
  rfl

theorem mapM_wrappedTextOf? (names : List String) :
    (names.map fun n => Json.array [.text n]).mapM wrappedTextOf? = some names := by
  rw [List.mapM_map]
  exact (List.mapM_pure (m := Option)).trans (congrArg some (List.map_id names))

theorem mapM_textOf? (labels : List String) :
    (labels.map Json.text).mapM textOf? = some labels := by
  rw [List.mapM_map]
  exact (List.mapM_pure (m := Option)).trans (congrArg some (List.map_id labels))

/-- The value of a form that describes a model is fitted to this model. -/
theorem ofJson?_of_describes {m : ExperimentModel} (hm : m.flags.Pairwise (· < ·)) {f : Form}
    (h : m.Describes f) : ofJson? f.value = some m := by
  cases h with
  | @record condition names flags archived labels hc hn hf ha hl h =>
    have hcondition : conditionSchema.fit? condition.value = some (.array [.text m.condition]) :=
      fit?_wrapped hc
    have hflags := fit?_flags hf
    have hlabels := fit?_labels m.labels
    have htext : ∀ s, Schema.text.fit? (Form.text (some s)).value = some (.text s) := fun _ => rfl
    have hboolean : Schema.boolean.fit? (Form.boolean m.isArchived).value =
        some (.boolean m.isArchived) := rfl
    have hfit : schema.fit? f.value = some (.array [.text m.id, .text m.name,
        .array [.text m.condition], .boolean m.isArchived,
        .array (names.map fun n => .array [.text n]), .array (m.labels.map .text)]) := by
      rw [schema, Schema.fit?, h.fitRecord_eq _ rfl, List.map_append]
      simp only [List.map_cons, List.map_nil, List.cons_append, List.nil_append]
      rw [fitMembers_cons_of_find rfl rfl (htext m.id) rfl,
        fitMembers_cons_of_find rfl rfl (htext m.name) rfl,
        fitMembers_cons_of_find rfl rfl hcondition rfl, fitMembers_cons_of_find rfl rfl hflags rfl]
      -- an optional member is either there or filled in
      rcases ha with rfl | ⟨ha, rfl⟩
      · simp only [List.map_cons, List.cons_append, List.nil_append]
        rw [fitMembers_cons_of_find rfl rfl hboolean rfl]
        rcases hl with rfl | ⟨hl, rfl⟩
        · simp only [List.map_cons, List.map_nil]
          rw [fitMembers_cons_of_find rfl rfl hlabels rfl]
          rfl
        · rw [hl]
          rfl
      · rw [ha]
        rcases hl with rfl | ⟨hl, rfl⟩
        · simp only [List.map_cons, List.map_nil, List.nil_append]
          rw [fitMembers_cons_of_find rfl rfl hlabels rfl]
          rfl
        · rw [hl]
          rfl
    rw [ofJson?, hfit]
    simp only [Option.bind_some, ofFields?, wrappedTextOf?, mapM_wrappedTextOf?, mapM_textOf?]
    show some (make m.id m.name m.condition m.isArchived names m.labels) = some m
    rw [make, orderedNames_eq hn hm]

/-! ## Reading and rendering -/

/-- Reading a text that is written for a form is fitting the value of the form. -/
theorem read_of_writes {f : Form} {t : String} (h : Writes f.yield t.toList) :
    (read t).toOption = ofJson? f.value := by
  have hread := schema.read_yield rfl (by decide : 0 + schema.depth < nestingLimit) f []
  rw [List.append_nil, ← (writes_iff_lexemes.mp h).1] at hread
  rw [read, readWhole, reader, ofJson?]
  cases hfit : schema.fit? f.value with
  | none =>
    rw [hfit] at hread
    obtain ⟨e, he⟩ := hread
    rw [he]
    rfl
  | some v =>
    rw [hfit] at hread
    rw [hread.eq_ok]
    simp only [bind, Except.bind, Option.bind_some]
    cases ofFields? v <;> rfl

/-- A model is read from a text if and only if the text is written for a form whose value fits the
model. -/
theorem read_eq_ok {t : String} {m : ExperimentModel} :
    read t = .ok m ↔ ∃ f : Form, Writes f.yield t.toList ∧ ofJson? f.value = some m := by
  constructor
  · intro h
    obtain ⟨⟨m', rest⟩, hm', hend⟩ := bind_eq_ok.mp h
    obtain ⟨⟨v, rest'⟩, hv, hfields⟩ := bind_eq_ok.mp hm'
    obtain ⟨f, hls, hfit⟩ := (Schema.read_eq_ok rfl (by decide)).mp hv
    have hrest : rest' = [] := by
      cases hm'' : ofFields? v with
      | none =>
        simp only [hm''] at hfields
        cases hfields
      | some m'' =>
        simp only [hm''] at hfields
        cases hfields
        cases rest with
        | nil => rfl
        | cons l ls => cases hend
    rw [hrest, List.append_nil] at hls
    have hwrites : Writes f.yield t.toList :=
      writes_iff_lexemes.mpr ⟨hls, f.isBroken_of_mem_yield⟩
    have hoption := read_of_writes hwrites
    rw [h] at hoption
    exact ⟨f, hwrites, hoption.symm⟩
  · rintro ⟨f, hwrites, hm⟩
    have hoption := read_of_writes hwrites
    rw [hm] at hoption
    cases hread : read t with
    | error e =>
      rw [hread] at hoption
      cases hoption
    | ok m' =>
      rw [hread] at hoption
      cases hoption
      rfl

theorem isPlain_toJson (m : ExperimentModel) : m.toJson.isPlain = true := by
  simp [toJson, isPlain, arePlainMembers, texts, arePlain_iff]

theorem writes_render (m : ExperimentModel) : Writes m.toJson.form.yield m.render.toList := by
  have htext : m.render.toList = m.toJson.print := String.toList_ofList
  rw [htext]
  exact writes_print m.isPlain_toJson

/-- The form of a model as data describes the model. -/
theorem describes_toJson (m : ExperimentModel) : m.Describes m.toJson.form := by
  have hone : ∀ (n s : String),
      IsRecord [n] [(n, .text (some s))] (Json.object [(n, .text s)]).form := fun n s =>
    ⟨[], [(n, .text (some s))], List.forall_mem_nil _, .refl _, rfl⟩
  have hflags : List.Forall₂ (fun n g => g.IsRecord ["name"] [("name", .text (some n))]) m.flags
      (formItems (m.flags.map fun n => .object [("name", .text n)])) := by
    rw [formItems_eq, List.map_map, List.forall₂_map_right_iff, List.forall₂_same]
    exact fun n _ => hone "name" n
  have hlabels : formItems (m.labels.map .text) = m.labels.map fun s => .text (some s) := by
    rw [formItems_eq, List.map_map]
    rfl
  have hform : m.toJson.form = .object ([("_id", .text (some m.id)), ("name", .text (some m.name)),
      ("deploymentConfiguration", (Json.object [("condition", .text m.condition)]).form),
      ("archived", .boolean m.isArchived),
      ("featureFlags", .array (formItems (m.flags.map fun n => .object [("name", .text n)]))),
      ("labels", .array (m.labels.map fun s => .text (some s)))].map fun p => (some p.1, p.2)) := by
    rw [← hlabels]
    rfl
  -- only the flags are at another place than in the list of required members
  exact .record (hone _ _) (fun _ => Iff.rfl) hflags (.inl rfl) (.inl rfl)
    ⟨[], _, List.forall_mem_nil _, .cons _ (.cons _ (.cons _ (.swap _ _ _))), hform⟩

/-- Every text that describes a model is read as this model, including the rendered one. So rendering
what was read gives one text for all of them, which is read as the same model. -/
theorem read_normalizes {m : ExperimentModel} (hm : m.flags.Pairwise (· < ·)) :
    read m.render = .ok m ∧ ∀ (f : Form) (t : String), m.Describes f → Writes f.yield t.toList →
      read t = .ok m ∧ (read t).map render = .ok m.render ∧ ((read t).map render).bind read = .ok m := by
  have hread : ∀ (f : Form) (t : String), m.Describes f → Writes f.yield t.toList → read t = .ok m :=
    fun f t hf ht => read_eq_ok.mpr ⟨f, ht, ofJson?_of_describes hm hf⟩
  have hrender : read m.render = .ok m := hread _ _ m.describes_toJson m.writes_render
  refine ⟨hrender, fun f t hf ht => ?_⟩
  simp only [hread f t hf ht, Except.map, Except.bind, hrender, and_self]

/-- Members in reverse order, a repeated flag, a text with escapes, and in unknown members a numeral out
of range and half of a surrogate pair. -/
theorem read_normalizes_reversed :
    read ("\x7b \"note\": [\"\\ud800\", \x7b\x7d], \"featureFlags\": [\x7b\"x\": -1e999, \"name\": \"g\"\x7d, " ++
      "\x7b\"name\": \"f\"\x7d, \x7b\"name\": \"g\"\x7d], \"deploymentConfiguration\": " ++
      "\x7b\"condition\": \"true\"\x7d,\n \"name\": \"a \\u0022b\\\"\", \"_id\": \"7\" \x7d") =
      .ok ⟨"7", "a \"b\"", "true", false, ["f", "g"], []⟩ := by
  have hcondition : IsRecord ["condition"] [("condition", .text (some "true"))]
      (.object [(some "condition", .text (some "true"))]) :=
    ⟨[], _, List.forall_mem_nil _, .refl _, rfl⟩
  have hname : ∀ n, IsRecord ["name"] [("name", .text (some n))]
      (.object [(some "name", .text (some n))]) :=
    fun n => ⟨[], _, List.forall_mem_nil _, .refl _, rfl⟩
  have hnumeral : IsRecord ["name"] [("name", .text (some "g"))]
      (.object [(some "x", .number none), (some "name", .text (some "g"))]) :=
    ⟨[("x", .number none)], _, by decide, .swap _ _ _, rfl⟩
  have hnames : ∀ n, n ∈ ["g", "f", "g"] ↔ n ∈ ["f", "g"] := by simp
  have hdescribes : Describes ⟨"7", "a \"b\"", "true", false, ["f", "g"], []⟩ _ :=
    .record hcondition hnames (.cons hnumeral (.cons (hname "f") (.cons (hname "g") .nil)))
      (.inr ⟨rfl, rfl⟩) (.inr ⟨rfl, rfl⟩)
      ⟨[("note", .array [.text none, .object []])], _, by decide, List.reverse_perm _, rfl⟩
  exact ((read_normalizes (by decide)).2 _ _ hdescribes
    (writes_iff_lexemes.mpr ⟨by decide +kernel, Form.isBroken_of_mem_yield _⟩)).1

end ExperimentModel

end FeatureFlags
