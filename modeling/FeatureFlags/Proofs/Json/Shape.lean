import FeatureFlags.Proofs.Json.Reading
import FeatureFlags.Json.Schema

/-!
# Reading and fitting agree

`Schema.read` reads lexemes and `Schema.fit?` fits a value. For a schema without open values both
give the same result: reading the yield of a form is fitting its value, and only yields are read
(`Schema.read_eq_ok`). Unknown members need no value, so this covers more forms than those of
values.

Fitting a record depends neither on the order of its members (`fitMembers_perm`) nor on unknown
members (`fitMembers_of_unknown`).
-/

namespace FeatureFlags.Json

open Form

mutual
/-- Whether a schema has no open value. -/
def Schema.isDefinite : Schema → Bool
  | .any => false
  | .text => true
  | .boolean => true
  | .list item => item.isDefinite
  | .record fields => fields.isDefinite

/-- Whether the schemas of fields have no open value. -/
def Fields.isDefinite : Fields → Bool
  | .nil => true
  | .cons _ _ shape rest => shape.isDefinite && rest.isDefinite
end

mutual
/-- The nesting of lists and objects of a schema. -/
def Schema.depth : Schema → Nat
  | .any => 0
  | .text => 0
  | .boolean => 0
  | .list item => item.depth + 1
  | .record fields => fields.depth + 1

/-- The greatest depth of the shapes of fields. -/
def Fields.depth : Fields → Nat
  | .nil => 0
  | .cons _ _ shape rest => max shape.depth rest.depth
end

/-- A reader yields what fits the value of a form, and fails if nothing does. -/
def AgreesOn (r : Reader Json) (fit : Json → Option Json) (f : Form) : Prop :=
  ∀ rest, Meets (r (f.yield ++ rest)) (fit f.value) rest

/-! ## Lists -/

theorem mapM_values {β : Type} (fit : Json → Option β) (fs : List Form) :
    (values fs).mapM fit = fs.mapM fun f => fit f.value := by
  rw [values_eq, List.mapM_map]
  rfl

theorem readList_yield {item : Nat → Reader Json} {fit : Json → Option Json} {depth : Nat}
    (hd : depth + 1 < nestingLimit) {items : List Form}
    (h : ∀ f ∈ items, AgreesOn (item (depth + 1)) fit f) (rest : List Lexeme) :
    Meets (readList item depth ((Form.array items).yield ++ rest))
      (((values items).mapM fit).map .array) rest := by
  have hread : Meets (readItems (item (depth + 1)) _ true (yieldItems true items ++ _)) _ rest :=
    readItems_yield h (Nat.le_trans (length_le_yieldItems true items)
      (List.sublist_append_left _ (.closeBracket :: rest)).length_le) true rest
  rw [← mapM_values] at hread
  rw [yield, List.cons_append, List.append_assoc, List.singleton_append, readList, nested_of_lt hd,
    Option.map_eq_bind]
  exact hread.bind fun vs _ => rfl

/-! ## Objects -/

/-- Adds the value of a field to those found, if there is one and none was found before. -/
def Found.put (found : Found) (i : Nat) (v : Option Json) : Option Found :=
  if (found.getD i none).isSome then none else v.map fun w => found.set i (some w)

/-- The effect of a member on the fields found. -/
def fitMember (fits : List (String × (Json → Option Json))) (found : Found) (name : String)
    (v : Json) : Option Found :=
  match fits.findIdx? (·.1 == name) with
  | none => some found
  | some i => found.put i ((fits[i]?).bind (·.2 v))

theorem fitMembers_cons (fits : List (String × (Json → Option Json))) (found : Found) (name : String)
    (v : Json) (rest : List (String × Json)) :
    fitMembers fits found ((name, v) :: rest) =
      (fitMember fits found name v).bind fun found => fitMembers fits found rest := by
  rw [fitMembers, fitMember]
  cases fits.findIdx? (·.1 == name) with
  | none => rfl
  | some i =>
    by_cases hf : (found.getD i none).isSome = true
    · simp only [Found.put, if_pos hf, Option.bind_none]
    · simp only [Found.put, if_neg hf]
      cases (fits[i]?).bind fun g => g.2 v <;> rfl

theorem fitMembers_cons_of_find {fits : List (String × (Json → Option Json))} {found : Found}
    {name : String} {v w : Json} {i : Nat} {fit : Json → Option Json}
    (hi : fits.findIdx? (·.1 == name) = some i) (hfit : fits[i]? = some (name, fit))
    (hv : fit v = some w) (hf : found.getD i none = none) (rest : List (String × Json)) :
    fitMembers fits found ((name, v) :: rest) = fitMembers fits (found.set i (some w)) rest := by
  rw [fitMembers_cons]
  simp only [fitMember, hi, hfit, Found.put, hf, Option.bind_some, hv]
  rfl

/-- Combining members comes to fitting their values. -/
theorem gather_fitMember (fits : List (String × (Json → Option Json)))
    (ms : List (Option String × Form)) (found : Found) :
    gather (fun found name f => fitMember fits found name f.value) found ms =
      (memberValues ms).bind (fitMembers fits found) := by
  induction ms generalizing found with
  | nil => rfl
  | cons m rest ih =>
    obtain ⟨_ | name, f⟩ := m
    · rfl
    · have hstep : gather (fun found name f => fitMember fits found name f.value) found
          ((some name, f) :: rest) = (fitMember fits found name f.value).bind fun found =>
            gather (fun found name f => fitMember fits found name f.value) found rest := rfl
      rw [hstep, memberValues]
      simp only [ih]
      cases memberValues rest with
      | none => exact Option.bind_fun_none _
      | some vs => exact (fitMembers_cons fits found name f.value vs).symm

/-- Readers of fields that agree with fitting the fields, for all members with their names. -/
def FieldsAgree (depth : Nat) (readers : FieldReaders) (fits : List (String × (Json → Option Json)))
    (ms : List (Option String × Form)) : Prop :=
  List.Forall₂ (fun r g => r.1 = g.1 ∧ ∀ f, (some r.1, f) ∈ ms → AgreesOn (r.2 depth) g.2 f)
    readers fits

theorem FieldsAgree.find {depth : Nat} {readers : FieldReaders}
    {fits : List (String × (Json → Option Json))} {ms : List (Option String × Form)}
    (h : FieldsAgree depth readers fits ms) (name : String) (i : Nat) :
    findField name i readers = none ∧ fits.findIdx? (·.1 == name) = none ∨
      ∃ (j : Nat) (r : Nat → Reader Json) (g : String × (Json → Option Json)),
        findField name i readers = some (i + j, r) ∧ fits.findIdx? (·.1 == name) = some j ∧
        fits[j]? = some g ∧ ∀ f, (some name, f) ∈ ms → AgreesOn (r depth) g.2 f := by
  induction h generalizing i with
  | nil => exact .inl ⟨rfl, rfl⟩
  | @cons r g readers fits h _ ih =>
    obtain ⟨n, r⟩ := r
    obtain ⟨n', g⟩ := g
    obtain ⟨hname, hr⟩ := h
    change n = n' at hname
    subst hname
    by_cases hn : n = name
    · subst hn
      have hfits : ((n, g) :: fits).findIdx? (·.1 == n) = some 0 :=
        List.findIdx?_cons.trans (if_pos (beq_self_eq_true n))
      have hreaders : findField n i ((n, r) :: readers) = some (i + 0, r) := if_pos rfl
      exact .inr ⟨0, r, (n, g), hreaders, hfits, rfl, hr⟩
    · have hfind : findField name i ((n, r) :: readers) = findField name (i + 1) readers := by
        rw [findField, if_neg hn]
      rw [hfind, List.findIdx?_cons]
      simp only [beq_eq_false_iff_ne.mpr hn]
      obtain ⟨hnone, hnone'⟩ | ⟨j, r', g', hsome, hsome', hg, hr'⟩ := ih (i + 1)
      · exact .inl ⟨hnone, by simp [hnone']⟩
      · refine .inr ⟨j + 1, r', g', ?_, by simp [hsome'], hg, hr'⟩
        rw [hsome, Nat.add_assoc, Nat.add_comm 1 j]

theorem readField_yield {depth : Nat} {readers : FieldReaders}
    {fits : List (String × (Json → Option Json))} {ms : List (Option String × Form)}
    (h : FieldsAgree depth readers fits ms) {name : String} {f : Form} (hm : (some name, f) ∈ ms)
    (found : Found) (rest : List Lexeme) :
    Meets (readField readers depth found name (.colon :: (f.yield ++ rest)))
      (fitMember fits found name f.value) rest := by
  rw [readField, fitMember]
  obtain ⟨hnone, hnone'⟩ | ⟨j, r, g, hsome, hsome', hg, hr⟩ := h.find name 0
  · rw [hnone, hnone']
    show (do
      let rest ← skipValue (f.yield ++ rest)
      _) = _
    rw [skipValue_eq_ok.mpr ⟨f, rfl⟩]
    rfl
  · rw [hsome, hsome']
    simp only [Nat.zero_add, hg, Option.bind_some, Found.put]
    split
    · exact .error _ _
    · rw [Option.map_eq_bind]
      exact (hr f hm rest).bind fun w _ => rfl

theorem readRecord_yield_object {defaults : List (String × Option Json)} {readers : FieldReaders}
    {fits : List (String × (Json → Option Json))} {ms : List (Option String × Form)} {depth : Nat}
    (hd : depth + 1 < nestingLimit) (h : FieldsAgree (depth + 1) readers fits ms) :
    AgreesOn (readRecord defaults readers depth) (fitRecord defaults fits) (.object ms) := by
  intro rest
  have hread := readMembers_yield (fun _ _ hm found rest => readField_yield h hm found rest)
    (Nat.le_trans (length_le_yieldMembers true ms)
      (List.sublist_append_left _ (.closeBrace :: rest)).length_le) true (defaults.map fun _ => none)
    rest
  rw [gather_fitMember] at hread
  have hfit : fitRecord defaults fits (Form.object ms).value =
      ((memberValues ms).bind (fitMembers fits (defaults.map fun _ => none))).bind fun found =>
        (fillIn defaults found).bind fun vs => some (.array vs) := by
    rw [Form.value]
    cases memberValues ms <;> rfl
  rw [hfit, yield, List.cons_append, List.append_assoc, List.singleton_append, readRecord,
    nested_of_lt hd]
  refine hread.bind fun found _ => ?_
  cases hfill : fillIn defaults found with
  | none => simp only [hfill]; exact .error _ _
  | some vs => simp only [hfill]; rfl

/-! ## Lists for records -/

/-- Reads the fields of a record from a list. -/
def readFields (depth : Nat) (isFirst : Bool) (fields : List (Option Json × (Nat → Reader Json))) :
    Reader (List Json) := fun ls => do
  let (vs, rest) ← readFieldItems depth isFirst fields ls
  .ok (vs, ← skipCloseBracket rest)

/-- The defaults of fields and their readers. -/
def Fields.items (fields : Fields) : List (Option Json × (Nat → Reader Json)) :=
  (fields.defaults.zip fields.readers).map fun p => (p.1.2, p.2.2)

theorem readFieldItems_cons (depth : Nat) (isFirst : Bool) (missing : Option Json)
    (r : Nat → Reader Json) (fields : List (Option Json × (Nat → Reader Json))) {l : Lexeme}
    (hl : l ≠ .closeBracket) (ls : List Lexeme) :
    readFieldItems depth isFirst ((missing, r) :: fields) (separator isFirst ++ l :: ls) = (do
      let (v, rest) ← r depth (l :: ls)
      let (vs, rest) ← readFieldItems depth false fields rest
      .ok (v :: vs, rest)) := by
  cases isFirst with
  | true => cases l <;> first | rfl | exact absurd rfl hl
  | false => cases l <;> first | rfl | exact absurd rfl hl

theorem readFields_cons (depth : Nat) (isFirst : Bool) (missing : Option Json)
    (r : Nat → Reader Json) (fields : List (Option Json × (Nat → Reader Json))) {l : Lexeme}
    (hl : l ≠ .closeBracket) (ls : List Lexeme) :
    readFields depth isFirst ((missing, r) :: fields) (separator isFirst ++ l :: ls) = (do
      let (v, rest) ← r depth (l :: ls)
      let (vs, rest) ← readFields depth false fields rest
      .ok (v :: vs, rest)) := by
  simp only [readFields, readFieldItems_cons depth isFirst missing r fields hl, bind_assoc]
  rfl

theorem readFields_closeBracket (depth : Nat) (isFirst : Bool) (missing : Option Json)
    (r : Nat → Reader Json) (fields : List (Option Json × (Nat → Reader Json))) {rest : List Lexeme}
    {vs : Option (List Json)}
    (h : Meets (readFields depth isFirst fields (.closeBracket :: rest)) vs rest) :
    Meets (readFields depth isFirst ((missing, r) :: fields) (.closeBracket :: rest))
      (missing.bind fun v => vs.map (v :: ·)) rest := by
  cases missing with
  | none => exact .error _ _
  | some v =>
    have hread : readFields depth isFirst ((some v, r) :: fields) (.closeBracket :: rest) = (do
        let (vs, rest) ← readFields depth isFirst fields (.closeBracket :: rest)
        .ok (v :: vs, rest)) := by
      have hitems : readFieldItems depth isFirst ((some v, r) :: fields) (.closeBracket :: rest) = (do
          let (vs, rest) ← readFieldItems depth isFirst fields (.closeBracket :: rest)
          .ok (v :: vs, rest)) := by cases isFirst <;> rfl
      simp only [readFields, hitems, bind_assoc]
      rfl
    rw [hread, Option.bind_some, Option.map_eq_bind]
    exact h.bind fun vs _ => rfl

/-- Reading fields from a list comes to fitting its items. -/
theorem readFields_yield (fields : Fields) {depth : Nat}
    (h : List.Forall₂ (fun r g => r.1 = g.1 ∧ ∀ f, AgreesOn (r.2 depth) g.2 f) fields.readers
      fields.fits) (isFirst : Bool) (items : List Form) (rest : List Lexeme) :
    Meets (readFields depth isFirst fields.items (yieldItems isFirst items ++ .closeBracket :: rest))
      ((fitItems fields.fits (values items)).bind (fillIn fields.defaults)) rest := by
  match fields, h with
  | .nil, _ =>
    cases items with
    | nil => rfl
    | cons f items =>
      obtain ⟨l, ks, hks, hl, -⟩ := f.yield_head
      rw [yieldItems, hks]
      cases isFirst with
      | true => cases l <;> first | exact .error _ _ | exact absurd rfl hl
      | false => exact .error _ _
  | .cons name missing shape fields, .cons hshape h =>
    cases items with
    | nil =>
      have hrest := readFields_yield fields h isFirst [] rest
      have hfit : (fitItems (Fields.cons name missing shape fields).fits (values [])).bind
          (fillIn (Fields.cons name missing shape fields).defaults) =
            missing.bind fun v =>
              ((fitItems fields.fits (values [])).bind (fillIn fields.defaults)).map (v :: ·) := by
        simp only [Fields.fits, Fields.defaults, values, fitItems]
        cases fitItems fields.fits [] with
        | none => exact (Option.bind_fun_none _).symm
        | some found =>
          show (missing.bind fun v => (fillIn fields.defaults found).bind fun vs => some (v :: vs)) = _
          simp only [Option.map_eq_bind]
          rfl
      rw [hfit]
      exact readFields_closeBracket depth isFirst missing shape.read fields.items hrest
    | cons f items =>
      obtain ⟨l, ks, hks, hl, -⟩ := f.yield_head
      have hitem := hshape.2 f (yieldItems false items ++ .closeBracket :: rest)
      have hrest := readFields_yield fields h false items rest
      rw [yieldItems, List.append_assoc, List.append_assoc]
      rw [hks] at hitem ⊢
      show Meets (readFields depth isFirst ((missing, shape.read) :: fields.items) _) _ _
      rw [List.cons_append, readFields_cons depth isFirst missing _ _ hl]
      have hfit : (fitItems (Fields.cons name missing shape fields).fits (values (f :: items))).bind
          (fillIn (Fields.cons name missing shape fields).defaults) =
            (shape.fit? f.value).bind fun v =>
              ((fitItems fields.fits (values items)).bind (fillIn fields.defaults)).bind fun vs =>
                some (v :: vs) := by
        show ((shape.fit? f.value).bind fun w => (fitItems fields.fits (values items)).bind
          fun found => some (some w :: found)).bind _ = _
        simp only [Option.bind_assoc]
        rfl
      rw [hfit]
      exact hitem.bind fun v _ => hrest.bind fun vs _ => rfl

theorem readRecord_yield_array (fields : Fields) {depth : Nat} (hd : depth + 1 < nestingLimit)
    (h : List.Forall₂ (fun r g => r.1 = g.1 ∧ ∀ f, AgreesOn (r.2 (depth + 1)) g.2 f) fields.readers
      fields.fits) (items : List Form) :
    AgreesOn (readRecord fields.defaults fields.readers depth)
      (fitRecord fields.defaults fields.fits) (.array items) := by
  intro rest
  have hread := readFields_yield fields h true items rest
  have hrecord : readRecord fields.defaults fields.readers depth ((Form.array items).yield ++ rest) =
      (do
        let (vs, rest) ← readFields (depth + 1) true fields.items
          (yieldItems true items ++ .closeBracket :: rest)
        .ok (.array vs, rest)) := by
    rw [yield, List.cons_append, List.append_assoc, List.singleton_append, readRecord,
      nested_of_lt hd]
    simp only [readFields, bind_assoc]
    rfl
  have hfit : fitRecord fields.defaults fields.fits (Form.array items).value =
      ((fitItems fields.fits (values items)).bind (fillIn fields.defaults)).bind fun vs =>
        some (.array vs) := by
    rw [Option.bind_assoc]
    rfl
  rw [hrecord, hfit]
  exact hread.bind fun vs _ => rfl

/-! ## Only yields are read -/

/-- A reader that passes only yields of forms. -/
def PassesForms {α : Type} (r : Reader α) : Prop :=
  ∀ ls x rest, r ls = .ok (x, rest) → ∃ f : Form, ls = f.yield ++ rest

theorem passesForms_readList {item : Nat → Reader Json} {depth : Nat}
    (h : PassesForms (item (depth + 1))) : PassesForms (readList item depth) := by
  intro ls v rest hr
  unfold readList at hr
  split at hr
  · obtain ⟨-, hr⟩ := nested_eq_ok hr
    obtain ⟨⟨vs, ls'⟩, hvs, hr⟩ := bind_eq_ok.mp hr
    cases hr
    obtain ⟨items, rfl, -⟩ := eq_of_readItems (P := fun _ _ => True)
      (fun ls x rest hx => (h ls x rest hx).imp fun _ hf => ⟨hf, trivial⟩) hvs
    refine ⟨.array items, ?_⟩
    rw [yield, List.cons_append, List.append_assoc]
    rfl
  · cases hr

theorem findField_mem {name : String} {i j : Nat} {readers : FieldReaders} {r : Nat → Reader Json}
    (h : findField name i readers = some (j, r)) : (name, r) ∈ readers := by
  induction readers generalizing i with
  | nil => cases h
  | cons p rest ih =>
    unfold findField at h
    split at h
    · rename_i hn
      cases h
      subst hn
      exact List.mem_cons_self
    · exact List.mem_cons_of_mem _ (ih h)

theorem eq_of_readField {readers : FieldReaders} {depth : Nat}
    (h : ∀ p ∈ readers, PassesForms (p.2 depth)) {found found' : Found} {name : String}
    {ls rest : List Lexeme} (hr : readField readers depth found name ls = .ok (found', rest)) :
    ∃ f : Form, ls = .colon :: (f.yield ++ rest) := by
  unfold readField at hr
  split at hr
  · obtain ⟨ls₁, hcolon, hr⟩ := bind_eq_ok.mp hr
    obtain ⟨ls₂, hskip, hr⟩ := bind_eq_ok.mp hr
    cases hr
    obtain ⟨f, rfl⟩ := skipValue_eq_ok.mp hskip
    exact ⟨f, eq_of_skipColon hcolon⟩
  · rename_i hfind
    split at hr
    · cases hr
    · obtain ⟨ls₁, hcolon, hr⟩ := bind_eq_ok.mp hr
      obtain ⟨⟨v, ls₂⟩, hv, hr⟩ := bind_eq_ok.mp hr
      cases hr
      obtain ⟨f, rfl⟩ := h _ (findField_mem hfind) _ _ _ hv
      exact ⟨f, eq_of_skipColon hcolon⟩

theorem eq_of_skipCloseBracket {ls rest : List Lexeme} (h : skipCloseBracket ls = .ok rest) :
    ls = .closeBracket :: rest := by
  unfold skipCloseBracket at h
  split at h
  · cases h
    rfl
  · cases h

theorem eq_of_readFieldItems {fields : List (Option Json × (Nat → Reader Json))} {depth : Nat}
    (h : ∀ p ∈ fields, PassesForms (p.2 depth)) {isFirst : Bool} {ls ls' rest : List Lexeme}
    {vs : List Json} (hr : readFieldItems depth isFirst fields ls = .ok (vs, ls'))
    (hclose : ls' = .closeBracket :: rest) :
    ∃ items, ls = yieldItems isFirst items ++ .closeBracket :: rest := by
  induction fields generalizing isFirst ls vs with
  | nil =>
    cases hr
    exact ⟨[], hclose⟩
  | cons p fields ih =>
    obtain ⟨missing, r⟩ := p
    have hrest := fun p hp => h p (List.mem_cons_of_mem _ hp)
    have hmore : ∀ {ks}, (do
        let (v, rest) ← r depth ks
        let (vs, rest) ← readFieldItems depth false fields rest
        .ok (v :: vs, rest)) = Except.ok (ε := Fault) (vs, ls') → ∀ isFirst,
          ∃ items, separator isFirst ++ ks = yieldItems isFirst items ++ .closeBracket :: rest := by
      intro ks hr isFirst
      obtain ⟨⟨v, ls₁⟩, hv, hr⟩ := bind_eq_ok.mp hr
      obtain ⟨⟨vs', ls₂⟩, hvs, hr⟩ := bind_eq_ok.mp hr
      cases hr
      obtain ⟨f, rfl⟩ := h _ List.mem_cons_self _ _ _ hv
      obtain ⟨items, rfl⟩ := ih hrest hvs
      refine ⟨f :: items, ?_⟩
      rw [yieldItems, List.append_assoc, List.append_assoc]
    unfold readFieldItems at hr
    split at hr
    · cases missing with
      | none => cases hr
      | some v =>
        obtain ⟨⟨vs', ls₁⟩, hvs, hr⟩ := bind_eq_ok.mp hr
        cases hr
        exact ih hrest hvs
    · cases hr
    · exact hmore hr true
    · split at hr
      · cases hr
      · exact hmore hr false
    · cases hr

theorem passesForms_readRecord {defaults : List (String × Option Json)} {readers : FieldReaders}
    {depth : Nat} (h : ∀ p ∈ readers, PassesForms (p.2 (depth + 1))) :
    PassesForms (readRecord defaults readers depth) := by
  intro ls v rest hr
  unfold readRecord at hr
  split at hr
  · obtain ⟨-, hr⟩ := nested_eq_ok hr
    obtain ⟨⟨found, ls'⟩, hms, hend⟩ := bind_eq_ok.mp hr
    obtain ⟨ms, rest', rfl, rfl, -⟩ := eq_of_readMembers (Q := fun _ _ => True)
      (fun _ _ _ _ _ _ _ hm => (eq_of_readField h hm).imp fun _ hf => ⟨hf, trivial⟩) [] trivial hms
    cases hfill : fillIn defaults found with
    | none =>
      simp only [hfill] at hend
      cases hend
    | some vs =>
      simp only [hfill] at hend
      cases hend
      refine ⟨.object ms, ?_⟩
      rw [yield, List.cons_append, List.append_assoc]
      rfl
  · obtain ⟨-, hr⟩ := nested_eq_ok hr
    obtain ⟨⟨vs, ls'⟩, hvs, hr⟩ := bind_eq_ok.mp hr
    obtain ⟨ls'', hclose, hr⟩ := bind_eq_ok.mp hr
    cases hr
    have hfields : ∀ p ∈ (defaults.zip readers).map fun p => (p.1.2, p.2.2),
        PassesForms (p.2 (depth + 1)) := by
      intro p hp
      obtain ⟨q, hq, rfl⟩ := List.mem_map.mp hp
      exact h _ (List.of_mem_zip hq).2
    obtain ⟨items, rfl⟩ := eq_of_readFieldItems hfields hvs (eq_of_skipCloseBracket hclose)
    refine ⟨.array items, ?_⟩
    rw [yield, List.cons_append, List.append_assoc]
    rfl
  · cases hr

mutual
theorem Schema.passesForms (s : Schema) (hs : s.isDefinite = true) (depth : Nat) :
    PassesForms (s.read depth) := by
  match s with
  | .any => cases hs
  | .text =>
    intro ls v rest hr
    unfold Schema.read at hr
    split at hr
    · cases hr
      exact ⟨.text (some _), rfl⟩
    · cases hr
  | .boolean =>
    intro ls v rest hr
    unfold Schema.read at hr
    split at hr
    · cases hr
      exact ⟨.boolean _, rfl⟩
    · cases hr
  | .list item => exact passesForms_readList (item.passesForms hs (depth + 1))
  | .record fields => exact passesForms_readRecord (fields.passesForms hs (depth + 1))

theorem Fields.passesForms (fields : Fields) (hs : fields.isDefinite = true) (depth : Nat) :
    ∀ p ∈ fields.readers, PassesForms (p.2 depth) := by
  match fields with
  | .nil => exact List.forall_mem_nil _
  | .cons name missing shape rest =>
    obtain ⟨hshape, hrest⟩ := Bool.and_eq_true_iff.mp hs
    exact List.forall_mem_cons.mpr ⟨shape.passesForms hshape depth, rest.passesForms hrest depth⟩
end

/-! ## Shapes -/

mutual
theorem Schema.read_yield (s : Schema) (hs : s.isDefinite = true) {depth : Nat}
    (hd : depth + s.depth < nestingLimit) (f : Form) : AgreesOn (s.read depth) s.fit? f := by
  intro rest
  match s with
  | .any => cases hs
  | .text =>
    cases f with
    | text value => cases value <;> first | rfl | exact .error _ _
    | number value => cases value <;> exact .error _ _
    | object members =>
      rw [Form.value]
      cases memberValues members <;> exact .error _ _
    | _ => exact .error _ _
  | .boolean =>
    cases f with
    | boolean b => rfl
    | text value => cases value <;> exact .error _ _
    | number value => cases value <;> exact .error _ _
    | object members =>
      rw [Form.value]
      cases memberValues members <;> exact .error _ _
    | _ => exact .error _ _
  | .list item =>
    rw [Schema.depth] at hd
    cases f with
    | array items =>
      exact readList_yield (by omega) (fun f _ => item.read_yield hs (by omega) f) rest
    | text value => cases value <;> exact .error _ _
    | number value => cases value <;> exact .error _ _
    | object members =>
      rw [Form.value]
      cases memberValues members <;> exact .error _ _
    | _ => exact .error _ _
  | .record fields =>
    rw [Schema.depth] at hd
    have h := fields.readers_yield hs (show depth + 1 + fields.depth < nestingLimit by omega)
    cases f with
    | array items => exact readRecord_yield_array fields (by omega) h items rest
    | object ms =>
      exact readRecord_yield_object (by omega) (h.imp fun _ _ h => ⟨h.1, fun f _ => h.2 f⟩) rest
    | text value => cases value <;> exact .error _ _
    | number value => cases value <;> exact .error _ _
    | _ => exact .error _ _

theorem Fields.readers_yield (fields : Fields) (hs : fields.isDefinite = true) {depth : Nat}
    (hd : depth + fields.depth < nestingLimit) :
    List.Forall₂ (fun r g => r.1 = g.1 ∧ ∀ f, AgreesOn (r.2 depth) g.2 f) fields.readers
      fields.fits := by
  match fields with
  | .nil => exact .nil
  | .cons name missing shape rest =>
    rw [Fields.depth] at hd
    obtain ⟨hshape, hrest⟩ := Bool.and_eq_true_iff.mp hs
    exact .cons ⟨rfl, fun f => shape.read_yield hshape (by omega) f⟩
      (rest.readers_yield hrest (by omega))
end

/-- A value of a definite schema is read if and only if the lexemes begin with the yield of a form whose
value fits. -/
theorem Schema.read_eq_ok {s : Schema} (hs : s.isDefinite = true) {depth : Nat}
    (hd : depth + s.depth < nestingLimit) {ls rest : List Lexeme} {v : Json} :
    s.read depth ls = .ok (v, rest) ↔ ∃ f : Form, ls = f.yield ++ rest ∧ s.fit? f.value = some v := by
  constructor
  · intro h
    obtain ⟨f, rfl⟩ := s.passesForms hs depth _ _ _ h
    refine ⟨f, rfl, ?_⟩
    have hf := s.read_yield hs hd f rest
    cases hfit : s.fit? f.value with
    | none =>
      rw [hfit] at hf
      obtain ⟨e, he⟩ := hf
      rw [h] at he
      cases he
    | some w =>
      rw [hfit] at hf
      have hw := hf.eq_ok.symm.trans h
      cases hw
      rfl
  · rintro ⟨f, rfl, hfit⟩
    have hf := s.read_yield hs hd f rest
    rw [hfit] at hf
    exact hf

/-! ## The order of members -/

namespace Found

variable {found : Found} {i j : Nat}

theorem put_of_isSome (h : (found.getD i none).isSome = true) (v : Option Json) :
    found.put i v = none := if_pos h

theorem put_of_none (h : ¬(found.getD i none).isSome = true) (v : Json) :
    found.put i (some v) = some (found.set i (some v)) := if_neg h

theorem getD_set_of_ne (h : i ≠ j) (v : Option Json) :
    (found.set i v).getD j none = found.getD j none := by
  simp [h]

theorem put_put_self (h : ¬(found.getD i none).isSome = true) (v w : Json) :
    ((found.put i (some v)).bind fun found => found.put i (some w)) =
      if i < found.length then none else some found := by
  rw [put_of_none h, Option.bind_some]
  split
  · rename_i hi
    exact put_of_isSome (by simp [hi]) _
  · rename_i hi
    rw [List.set_eq_of_length_le (Nat.le_of_not_lt hi), put_of_none h,
      List.set_eq_of_length_le (Nat.le_of_not_lt hi)]

/-- Two values can be added in any order. -/
theorem put_comm (found : Found) (i j : Nat) (v w : Option Json) :
    ((found.put i v).bind fun found => found.put j w) =
      (found.put j w).bind fun found => found.put i v := by
  cases v with
  | none => simp [put]
  | some v =>
    cases w with
    | none => simp [put]
    | some w =>
      by_cases hi : (found.getD i none).isSome = true
      · by_cases hj : (found.getD j none).isSome = true
        · rw [put_of_isSome hi, put_of_isSome hj]
          rfl
        · have hij : j ≠ i := fun he => hj (he ▸ hi)
          rw [put_of_isSome hi, put_of_none hj, Option.bind_some, put_of_isSome]
          · rfl
          · rwa [getD_set_of_ne hij]
      · by_cases hj : (found.getD j none).isSome = true
        · have hij : i ≠ j := fun he => hi (he ▸ hj)
          rw [put_of_isSome hj, put_of_none hi, Option.bind_some, put_of_isSome]
          · rfl
          · rwa [getD_set_of_ne hij]
        · by_cases hij : i = j
          · subst hij
            rw [put_put_self hi, put_put_self hi]
          · rw [put_of_none hi, put_of_none hj, Option.bind_some, Option.bind_some, put_of_none,
              put_of_none, List.set_comm _ _ hij]
            · rwa [getD_set_of_ne (Ne.symm hij)]
            · rwa [getD_set_of_ne hij]

end Found

theorem fitMember_comm (fits : List (String × (Json → Option Json))) (found : Found) (m n : String)
    (v w : Json) :
    ((fitMember fits found m v).bind fun found => fitMember fits found n w) =
      (fitMember fits found n w).bind fun found => fitMember fits found m v := by
  simp only [fitMember]
  cases fits.findIdx? (·.1 == m) with
  | none => exact (Option.bind_fun_some _).symm
  | some i =>
    cases fits.findIdx? (·.1 == n) with
    | none => exact Option.bind_fun_some _
    | some j => exact found.put_comm i j _ _

/-- Fitting members does not depend on their order. -/
theorem fitMembers_perm {fits : List (String × (Json → Option Json))}
    {ms ns : List (String × Json)} (h : ms.Perm ns) (found : Found) :
    fitMembers fits found ms = fitMembers fits found ns := by
  induction h generalizing found with
  | nil => rfl
  | cons m _ ih =>
    rw [fitMembers_cons, fitMembers_cons]
    simp only [ih]
  | swap m n ms =>
    have htwo : ∀ a b : String × Json, fitMembers fits found (a :: b :: ms) =
        ((fitMember fits found a.1 a.2).bind fun found => fitMember fits found b.1 b.2).bind
          fun found => fitMembers fits found ms := by
      rintro ⟨a, v⟩ ⟨b, w⟩
      simp only [fitMembers_cons, Option.bind_assoc]
    rw [htwo, htwo, fitMember_comm]
  | trans _ _ ih₁ ih₂ => rw [ih₁, ih₂]

theorem fitMembers_append (fits : List (String × (Json → Option Json))) (ms ns : List (String × Json))
    (found : Found) : fitMembers fits found (ms ++ ns) =
      (fitMembers fits found ms).bind fun found => fitMembers fits found ns := by
  induction ms generalizing found with
  | nil => rfl
  | cons m ms ih =>
    rw [List.cons_append, fitMembers_cons, fitMembers_cons, Option.bind_assoc]
    simp only [ih]

theorem fitMembers_of_unknown {fits : List (String × (Json → Option Json))}
    {ms : List (String × Json)} (h : ∀ m ∈ ms, m.1 ∉ fits.map (·.1)) (found : Found) :
    fitMembers fits found ms = some found := by
  induction ms with
  | nil => rfl
  | cons m ms ih =>
    have hm : fits.findIdx? (·.1 == m.1) = none := by
      rw [List.findIdx?_eq_none_iff]
      intro g hg
      have hne : g.1 ≠ m.1 := fun he => h m List.mem_cons_self (he ▸ List.mem_map_of_mem hg)
      exact beq_eq_false_iff_ne.mpr hne
    rw [fitMembers_cons, fitMember, hm]
    exact ih fun n hn => h n (List.mem_cons_of_mem _ hn)

end FeatureFlags.Json
