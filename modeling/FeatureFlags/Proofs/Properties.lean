import FeatureFlags.Proofs.Noting

/-!
# Custom properties in the course of a run

Conditions ask for custom properties at any time: before they are added, after they were replaced,
and inside user code that adds some itself. The notes of a run (`Application.notes`) list in one
order the properties that were added to a client and the operators that conditions ran. So each time
that a condition asks for a property, its value is determined by the notes before: the last property
of this name, in the context of the condition (`properties_last_added`).
-/

namespace FeatureFlags

/-- The custom operators and properties of a client. -/
def Client.extensions (s : Client) : Dict CustomProperty × Dict CustomOperator :=
  (s.properties, s.operators)

namespace Note

/-- The custom operators added to clients. -/
def registered (T : List Note) : List (ClientId × String) :=
  T.filterMap fun
    | .answered c (.addOperator name _ _) _ => some (c, name)
    | _ => none

/-- The properties of a name added to a client, the latest one last. -/
def added (T : List Note) (c : ClientId) (name : String) : List CustomProperty :=
  T.filterMap fun
    | .answered d (.addProperty p) _ => if d = c ∧ p.name = name then some p else none
    | _ => none

/-- An operator run: for which client and context, with which arguments and result. -/
def yielded? : Note → Option (ClientId × String × List Value × Value)
  | .ran c _ name args v => some (c, name, args, v)
  | _ => none

theorem exists_ran {n : Note} {c : ClientId} {name : String} {args : List Value} {v : Value}
    (h : n.yielded? = some (c, name, args, v)) : ∃ x, n = .ran c x name args v := by
  cases n with
  | ran c x name args v =>
    cases h
    exact ⟨x, rfl⟩
  | asked c r => cases h
  | answered c r x => cases h

section Append

variable {T N : List Note} {c d : ClientId} {name : String} {p : CustomProperty}

theorem registered_append : registered (T ++ N) = registered T ++ registered N :=
  List.filterMap_append

theorem added_append : added (T ++ N) c name = added T c name ++ added N c name :=
  List.filterMap_append

theorem getLast?_added_property {x : Response} :
    (added (T ++ [.answered d (.addProperty p) x]) c name).getLast? =
      if d = c ∧ p.name = name then some p else (added T c name).getLast? := by
  rw [added_append]
  unfold added
  split
  · rename_i h
    simp [h]
  · rename_i h
    simp [h]

end Append

end Note

open Note (registered added)

/-! ## The value of a custom property -/

/-- The value of a custom property in a context, given the properties added so far under each name. -/
inductive PropertyYields (added : String → List CustomProperty) (x : Context) :
    List Value → Value → Prop
  /-- The last property of the name counts, and its value has the type that it was given. -/
  | generated {name : String} {earlier : List CustomProperty} {p : CustomProperty}
    {w : p.type.Carrier} (hp : added name = earlier ++ [p]) (hw : p.generate x = some w) :
    PropertyYields added x [.text name] (p.type.inject w)
  | valueless {name : String} {earlier : List CustomProperty} {p : CustomProperty}
    (hp : added name = earlier ++ [p]) (hw : p.generate x = none) :
    PropertyYields added x [.text name] .undefined
  | missing {name : String} (hn : added name = []) : PropertyYields added x [.text name] .undefined
  | noText {args : List Value} (hargs : ∀ name, args ≠ [.text name]) :
    PropertyYields added x args .undefined

/-- The value is that of the last property added under the name. -/
theorem propertyYields_iff {added : String → List CustomProperty} {x : Context} {args : List Value}
    {v : Value} : PropertyYields added x args v ↔
      v = CustomProperty.answer (fun name => (added name).getLast?) args x := by
  constructor
  · intro h
    cases h with
    | generated hp hw => simp [CustomProperty.answer, CustomProperty.value, Value.ofOption, hp, hw]
    | valueless hp hw => simp [CustomProperty.answer, CustomProperty.value, Value.ofOption, hp, hw]
    | missing hn => simp [CustomProperty.answer, Value.ofOption, hn]
    | noText hargs =>
      rw [CustomProperty.answer]
      exact hargs
  · rintro rfl
    by_cases hargs : ∃ name, args = [.text name]
    · obtain ⟨name, rfl⟩ := hargs
      cases hp : (added name).getLast? with
      | none =>
        have hn : added name = [] := List.getLast?_eq_none_iff.mp hp
        simpa [CustomProperty.answer, Value.ofOption, hp] using PropertyYields.missing hn
      | some p =>
        obtain ⟨earlier, he⟩ := List.getLast?_eq_some_iff.mp hp
        rw [CustomProperty.answer, hp, Option.map_some, CustomProperty.value]
        cases hw : p.generate x with
        | none => exact .valueless he hw
        | some w => exact .generated he hw
    · have hnot : ∀ name, args ≠ [.text name] := fun name h => hargs ⟨name, h⟩
      rw [CustomProperty.answer]
      · exact .noText hnot
      · exact hnot

theorem PropertyYields.unique {added added' : String → List CustomProperty} {x : Context}
    {args : List Value} {v v' : Value} (h : PropertyYields added x args v)
    (h' : PropertyYields added' x args v')
    (hadded : ∀ name, args = [.text name] → added name = added' name) : v = v' := by
  rw [propertyYields_iff.mp h, propertyYields_iff.mp h']
  unfold CustomProperty.answer
  split
  · rename_i name
    show _ = Value.ofOption (((added' name).getLast?).map (·.value x))
    rw [← hadded name rfl]
  · rfl

namespace Application

/-! ## The properties of clients -/

/-- In a noted run a condition asks a client for a custom property by the standard operator, as no
custom operator has replaced it. The context is that of the evaluation, laid over that of the client. -/
structure AskedForProperty (a : Application) (T before : List Note) (c : ClientId) (x : Context)
    (args : List Value) (v : Value) : Prop where
  isClient : c < a.clients.length
  notReplaced : (c, "property") ∉ registered before
  noted : ∃ y, x = (a.client c).globalContext.overlay? y ∧
    before ++ [.ran c y "property" args v] <+: T

/-- A condition has asked before, or the last note is that it asked. -/
theorem AskedForProperty.of_snoc {a : Application} {T before : List Note} {n : Note} {c : ClientId}
    {x : Context} {args : List Value} {v : Value}
    (h : a.AskedForProperty (T ++ [n]) before c x args v) :
    a.AskedForProperty T before c x args v ∨ before = T ∧ (c, "property") ∉ registered T ∧
      c < a.clients.length ∧
      ∃ y, n = .ran c y "property" args v ∧ x = (a.client c).globalContext.overlay? y := by
  obtain ⟨hc, hn, y, hx, hp⟩ := h
  rcases List.prefix_concat_iff.mp hp with he | hp
  · obtain ⟨rfl, hr⟩ := List.append_inj' he rfl
    exact .inr ⟨rfl, hn, hc, y, (List.singleton_inj.mp hr).symm, hx⟩
  · exact .inl ⟨hc, hn, y, hx, hp⟩

/-- The custom properties of all clients are those added last, and all conditions so far have got their
values. -/
structure Lawful (a b : Application) (T : List Note) : Prop where
  length : b.clients.length = a.clients.length
  properties : ∀ c, c < a.clients.length → ∀ name,
    (b.client c).properties.find? name = (added T c name).getLast?
  operators : ∀ c name o, (b.client c).operators.find? name = some o → (c, name) ∈ registered T
  asked : ∀ before c x args v, a.AskedForProperty T before c x args v →
    PropertyYields (added before c) x args v

theorem exists_ofConfig {a : Application} (ha : ∀ s ∈ a.clients, ∃ k, s = .ofConfig k)
    (c : ClientId) : ∃ k, a.client c = .ofConfig k := by
  by_cases hc : c < a.clients.length
  · rw [client, List.getD_eq_getElem?_getD, List.getElem?_eq_getElem hc]
    exact ha _ (List.getElem_mem hc)
  · rw [client, List.getD_eq_getElem?_getD, List.getElem?_eq_none (Nat.le_of_not_lt hc)]
    exact ⟨_, rfl⟩

namespace Lawful

variable {a b d : Application} {T : List Note} {n : Note} {c : ClientId}

theorem start (ha : ∀ s ∈ a.clients, ∃ k, s = .ofConfig k) : Lawful a a [] where
  length := rfl
  properties c _ name := by
    obtain ⟨k, hk⟩ := exists_ofConfig ha c
    rw [hk]
    rfl
  operators c name o ho := by
    obtain ⟨k, hk⟩ := exists_ofConfig ha c
    rw [hk] at ho
    cases ho
  asked before c x args v h := by
    obtain ⟨y, -, hp⟩ := h.noted
    exact absurd (List.prefix_nil.mp hp) (List.append_ne_nil_of_right_ne_nil _ (List.cons_ne_nil _ _))

theorem asked_snoc (h : Lawful a b T) (hn : ∀ c y args v, n ≠ .ran c y "property" args v) :
    ∀ before c x args v, a.AskedForProperty (T ++ [n]) before c x args v →
      PropertyYields (added before c) x args v := by
  intro before c x args v ha
  rcases ha.of_snoc with ha | ⟨-, -, -, y, he, -⟩
  · exact h.asked before c x args v ha
  · exact absurd he (hn c y args v)

theorem still (h : Lawful a b T) (hl : d.clients.length = b.clients.length)
    (he : ∀ c, (d.client c).extensions = (b.client c).extensions) (hr : registered [n] = [])
    (hp : ∀ c name, added [n] c name = [])
    (ha : ∀ before c x args v, a.AskedForProperty (T ++ [n]) before c x args v →
      PropertyYields (added before c) x args v) : Lawful a d (T ++ [n]) where
  length := hl.trans h.length
  properties c hc name := by
    have hsame : (d.client c).properties = (b.client c).properties := congrArg Prod.fst (he c)
    rw [hsame, Note.added_append, hp, List.append_nil]
    exact h.properties c hc name
  operators c name o ho := by
    have hsame : (d.client c).operators = (b.client c).operators := congrArg Prod.snd (he c)
    rw [hsame] at ho
    rw [Note.registered_append, hr, List.append_nil]
    exact h.operators c name o ho
  asked := ha

theorem begun {r : Request Program} (h : Lawful a b T) (hl : d.clients.length = b.clients.length)
    (he : ∀ c, (d.client c).extensions = (b.client c).extensions) :
    Lawful a d (T ++ [.asked c r]) :=
  h.still hl he rfl (fun _ _ => rfl) (h.asked_snoc fun _ _ _ _ hn => nomatch hn)

theorem answered {r : Request Program} {x : Response} (h : Lawful a b T)
    (hl : d.clients.length = b.clients.length)
    (he : ∀ c, (d.client c).extensions = (b.client c).extensions)
    (hr : registered [.answered c r x] = []) (hp : ∀ e name, added [.answered c r x] e name = []) :
    Lawful a d (T ++ [.answered c r x]) :=
  h.still hl he hr hp (h.asked_snoc fun _ _ _ _ hn => nomatch hn)

theorem property {x : Response} (h : Lawful a b T) (c : ClientId) (p : CustomProperty) :
    Lawful a (b.modifyClient c (·.withProperty p)) (T ++ [.answered c (.addProperty p) x]) where
  length := length_clients_modifyClient.trans h.length
  properties e he name := by
    rw [Note.getLast?_added_property]
    by_cases hec : e = c
    · subst hec
      have hlt : e < b.clients.length := Nat.lt_of_lt_of_eq he h.length.symm
      rw [client_modifyClient_self hlt]
      show ((b.client e).properties.insert p.name p).find? name = _
      rw [Dict.find?_insert, h.properties e he]
      simp only [true_and, eq_comm]
    · rw [client_modifyClient_ne hec, if_neg fun h => hec h.1.symm]
      exact h.properties e he name
  operators e name o ho := by
    have hm : ((b.modifyClient c (·.withProperty p)).client e).operators = (b.client e).operators :=
      client_modifyClient_congr Client.operators fun _ => rfl
    rw [hm] at ho
    rw [Note.registered_append]
    exact List.mem_append_left _ (h.operators e name o ho)
  asked := h.asked_snoc fun _ _ _ _ hn => nomatch hn

theorem operator {x : Response} (h : Lawful a b T) (c : ClientId) (m : String) (o : CustomOperator) :
    Lawful a (b.modifyClient c (·.withOperator m o))
      (T ++ [.answered c (.addOperator m o.arity o.run) x]) where
  length := length_clients_modifyClient.trans h.length
  properties e he name := by
    have hm : ((b.modifyClient c (·.withOperator m o)).client e).properties =
        (b.client e).properties :=
      client_modifyClient_congr Client.properties fun _ => rfl
    rw [hm, Note.added_append]
    exact (List.append_nil (added T e name)).symm ▸ h.properties e he name
  operators e name o' ho := by
    rw [Note.registered_append]
    by_cases hec : e = c
    · subst hec
      by_cases hn : name = m
      · subst hn
        exact List.mem_append_right _ (List.mem_singleton.mpr rfl)
      · refine List.mem_append_left _ (h.operators e name o' ?_)
        by_cases hlt : e < b.clients.length
        · rw [client_modifyClient_self hlt] at ho
          have hi : ((b.client e).operators.insert m o).find? name = some o' := ho
          rwa [Dict.find?_insert, if_neg hn] at hi
        · rwa [client_modifyClient_of_le (Nat.le_of_not_lt hlt)] at ho
    · rw [client_modifyClient_ne hec] at ho
      exact List.mem_append_left _ (h.operators e name o' ho)
  asked := h.asked_snoc fun _ _ _ _ hn => nomatch hn

theorem performed {r : Request Program} {x : Response} (h : Lawful a b T) (hd : b.Performs c r x d) :
    Lawful a d (T ++ [.answered c r x]) := by
  have hlength := hd.length_clients
  cases hd with
  | property p => exact h.property c p
  | operator name arity run => exact h.operator c name ⟨arity, run⟩
  | refused => exact h.answered hlength (fun _ => rfl) rfl fun _ _ => rfl
  | unreadable => exact h.answered hlength (fun _ => rfl) rfl fun _ _ => rfl
  | registered =>
    refine h.answered hlength (fun e => ?_) rfl fun _ _ => rfl
    refine (client_addAll_congr Client.extensions fun _ _ => rfl).trans ?_
    exact client_modifyClient_congr Client.extensions fun _ => rfl
  | configured | applied =>
    refine h.answered hlength (fun e => ?_) rfl fun _ _ => rfl
    exact client_configure_congr Client.extensions fun _ _ => rfl
  | handler | gate =>
    refine h.answered hlength (fun e => ?_) rfl fun _ _ => rfl
    exact client_modifyClient_congr Client.extensions fun _ => rfl

/-- The note of an operator run preserves the invariant, if the operator for custom properties yields
the right value. -/
theorem ran (h : Lawful a b T) {x : Option Context} {name : String} {args : List Value} {v : Value}
    (hv : name = "property" → c < a.clients.length → (c, "property") ∉ registered T →
      PropertyYields (added T c) ((a.client c).globalContext.overlay? x) args v) :
    Lawful a b (T ++ [.ran c x name args v]) := by
  refine h.still rfl (fun _ => rfl) rfl (fun _ _ => rfl) fun before e y args' w ha => ?_
  rcases ha.of_snoc with ha | ⟨rfl, hr, hc, y, hn, rfl⟩
  · exact h.asked before e y args' w ha
  · cases hn
    exact hv rfl hc hr

end Lawful

theorem upheld_lawful (a : Application) : Upheld a (Lawful a) where
  tell h _ := ⟨h.length, h.properties, h.operators, h.asked⟩
  performed h hb := (h.begun rfl fun _ => rfl).performed hb
  begun h hb := by
    refine h.begun hb.length_clients fun e => ?_
    cases hb with
    | held => rfl
    | found => rfl
    | made => exact client_make_congr Client.extensions fun _ _ => rfl
  ended {_ T c r x} h hr := by
    have hnone : registered [.answered c r x] = [] ∧
        ∀ e name, added [.answered c r x] e name = [] := by
      cases r <;> first | exact ⟨rfl, fun _ _ => rfl⟩ | cases hr
    exact h.answered rfl (fun _ => rfl) hnone.1 hnone.2
  custom := by
    rintro b d T N c name o hb ho hd x args v
    refine hd.ran fun hn _ hr => absurd ?_ hr
    subst hn
    rw [Note.registered_append]
    exact List.mem_append_left _ (hb.operators c "property" o ho)
  standard := by
    rintro b d T c x name o args v hb - ho - hr hd
    refine hd.ran fun hn hc _ => ?_
    rw [Conducts.find?_standardOperators, if_pos hn] at ho
    cases ho
    rw [Run.customProperty_run] at hr
    cases hr
    rw [propertyYields_iff, funext (hb.properties c hc)]

/-- If the invariant holds, a condition that asks for a property gets the right value. -/
theorem Lawful.apply_property {a b : Application} {T : List Note} (h : Lawful a b T) {c : ClientId}
    (hc : c < a.clients.length) (hr : (c, "property") ∉ registered T) (run : Runner)
    (expression : String) (y : Option Context) (args : List Value) :
    ∃ v, PropertyYields (added T c) ((a.client c).globalContext.overlay? y) args v ∧
      ((Run.surroundings run c).apply expression ((a.client c).globalContext.overlay? y) "property"
        args).run b = (.ok v, b) := by
  let x := (a.client c).globalContext.overlay? y
  let find? : String → Run (Option CustomProperty) := fun name =>
    return (← Run.client c).properties.find? name
  have ho : (b.client c).operators.find? "property" = none := by
    cases ho : (b.client c).operators.find? "property" with
    | none => rfl
    | some o => exact absurd (h.operators c "property" o ho) hr
  have hl : ((Run.surroundings run c).lookup "property").run b =
      (.ok (some (.customProperty find?)), b) := by
    show (Except.ok ((b.client c).operator? run c "property"), b) = _
    rw [Client.operator?, ho]
    dsimp only
    rw [Conducts.find?_standardOperators, if_pos rfl]
  refine ⟨_, propertyYields_iff.mpr rfl, ?_⟩
  rw [Surroundings.apply, Run.run_bind_ok hl]
  show ((Operator.customProperty find?).call args x).run b = _
  rw [← funext (h.properties c hc)]
  unfold Operator.call
  split
  · exact Run.customProperty_run
  · -- with more arguments than one, or with none, nothing is asked for
    rename_i hn
    rw [CustomProperty.answer]
    · rfl
    · rintro name rfl
      exact hn rfl

/-- For any sequence of requests, with any user code: whenever a condition asks for a custom property,
it gets the value, in the merged context, of the last property added to the client under the name; it
gets undefined if there is none, if that has no value, or if the name is not a text. Properties added
under other names have no influence, in any two runs. -/
theorem properties_last_added {a : Application} (ha : ∀ s ∈ a.clients, ∃ k, s = .ofConfig k)
    (calls : List Call) :
    (∀ before c x args v, a.AskedForProperty (a.notes calls) before c x args v →
      PropertyYields (added before c) x args v) ∧
    (∀ c, c < a.clients.length → (c, "property") ∉ registered (a.notes calls) →
      ∀ run expression y args,
        let x := (a.client c).globalContext.overlay? y
        ∃ v, PropertyYields (added (a.notes calls) c) x args v ∧
          ((Run.surroundings run c).apply expression x "property" args).run (a.callAll calls) =
            (.ok v, a.callAll calls)) ∧
    (∀ b : Application, (∀ s ∈ b.clients, ∃ k, s = .ofConfig k) →
      ∀ calls' before before' c c' x args v v',
      a.AskedForProperty (a.notes calls) before c x args v →
      b.AskedForProperty (b.notes calls') before' c' x args v' →
      (∀ name, args = [.text name] → added before c name = added before' c' name) → v = v') ∧
    (Noted.callAll (a, []) calls).1 = a.callAll calls ∧
    (∀ k, ((Noted.call k).run (Noted.callAll (a, []) calls)).1 = ((a.callAll calls).call k).1) := by
  have hlawful : ∀ a : Application, (∀ s ∈ a.clients, ∃ k, s = .ofConfig k) → ∀ calls,
      Lawful a (a.callAll calls) (a.notes calls) := fun a ha calls =>
    (upheld_lawful a).notes (.start ha) calls
  have hl := hlawful a ha calls
  refine ⟨hl.asked, fun c hc hr => hl.apply_property hc hr, ?_, callAll_noted a calls⟩
  intro b hb calls' before before' c c' x args v v' hv hv'
  have hy := hl.asked before c x args v hv
  have hy' := (hlawful b hb calls').asked before' c' x args v' hv'
  exact hy.unique hy'

/-- A client with one variant, and a context with a plan. -/
def subscribed : Application :=
  (ofVariants [.flag false]).addClient ⟨.ofList [("plan", .text "free")], .ofNat 0, [], none, false⟩

/-- A property is added, and while a condition is evaluated an operator replaces it. -/
def promoting : List Call :=
  [⟨2, 0, .addProperty (.constant "tier" .text "silver")⟩,
    ⟨2, 0, .addOperator "promote" (.exactly 0) fun _ _ =>
      .request 0 (.addProperty (.fromContext "tier" .text "plan")) fun _ => .done .undefined⟩,
    ⟨2, 0, .register (.make "" [("f", 0)])⟩,
    ⟨2, 0, .setExperiments [.make "1" "e" "eq(property(\"tier\"), promote())" false ["f"] []]⟩,
    ⟨2, 0, .evaluate 0 (some (.ofList [("plan", .text "gold")]))⟩]

/-- The condition gets the value that the second property takes from the context of the evaluation. -/
theorem properties_last_added_midway : ∃ before x,
    subscribed.AskedForProperty (subscribed.notes promoting) before 0 x [.text "tier"]
      (.text "gold") ∧
    (added before 0 "tier").length = 2 ∧
    PropertyYields (added before 0) x [.text "tier"] (.text "gold") := by
  let T := subscribed.notes promoting
  have hmade : ∀ s ∈ subscribed.clients, ∃ k, s = .ofConfig k := by
    intro s hs
    rw [List.mem_singleton.mp hs]
    exact ⟨_, rfl⟩
  have hran : (T[12]?).bind Note.yielded? =
      some (0, "property", [.text "tier"], .text "gold") := by decide +kernel
  obtain ⟨n, hn, hy⟩ := Option.bind_eq_some_iff.mp hran
  obtain ⟨y, rfl⟩ := Note.exists_ran hy
  have hp : T.take 12 ++ [.ran 0 y "property" [.text "tier"] (.text "gold")] <+: T := by
    have ht : T.take 13 = T.take 12 ++ [.ran 0 y "property" [.text "tier"] (.text "gold")] := by
      rw [List.take_add_one, hn]
      rfl
    rw [← ht]
    exact List.take_prefix 13 T
  have hr : (0, "property") ∉ registered (T.take 12) := by decide +kernel
  have hasked : subscribed.AskedForProperty T (T.take 12) 0 _ _ _ :=
    ⟨Nat.zero_lt_one, hr, y, rfl, hp⟩
  exact ⟨T.take 12, _, hasked, by decide +kernel,
    (properties_last_added hmade promoting).1 _ _ _ _ _ hasked⟩

end Application

end FeatureFlags
