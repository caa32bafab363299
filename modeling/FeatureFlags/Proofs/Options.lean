import Mathlib.Data.List.Induction
import Mathlib.Data.List.Nodup
import FeatureFlags.Variant

/-!
# The options of a variant

`Variant.optionsOf` takes the default and then each given text that has not been taken before. The
invariant is `Gathered`: the options are the texts passed so far, each once, in the order of their
first occurrences. It holds for the default alone and is preserved by each step
(`Gathered.addOption`), so it holds at the end (`gathered_optionsOf`).

Texts that occur already change nothing (`foldl_addOption_of_mem`), and new distinct texts are
appended (`foldl_addOption_of_nodup`). So repetitions, and the default wherever it is given, do not
change the options, nor does passing the options again. The main result is
`Variant.options_in_order`.
-/

namespace FeatureFlags

namespace Variant

/-- Options that are the texts passed so far, each once, in the order of first occurrences. -/
structure Gathered (met options : List String) : Prop where
  mem : ∀ o, o ∈ options ↔ o ∈ met
  nodup : options.Nodup
  order : ∀ o ∈ met, ∀ p ∈ met, options.idxOf o < options.idxOf p ↔ met.idxOf o < met.idxOf p

section Walk

variable {met options texts : List String} {o default : String}

theorem addOption_of_mem (h : o ∈ options) : addOption options o = options := by
  rw [addOption, if_pos (List.contains_iff_mem.mpr h)]

theorem addOption_of_not_mem (h : o ∉ options) : addOption options o = options ++ [o] := by
  rw [addOption, if_neg fun hc => h (List.contains_iff_mem.mp hc)]

theorem Gathered.addOption (h : Gathered met options) (o : String) :
    Gathered (met ++ [o]) (addOption options o) := by
  by_cases ho : o ∈ options
  · have hm : o ∈ met := (h.mem o).mp ho
    have hmem : ∀ p, p ∈ met ++ [o] ↔ p ∈ met := by
      intro p
      rw [List.mem_append, List.mem_singleton]
      constructor
      · rintro (hp | rfl)
        · exact hp
        · exact hm
      · exact .inl
    rw [addOption_of_mem ho]
    refine ⟨fun p => (h.mem p).trans (hmem p).symm, h.nodup, ?_⟩
    intro p hp q hq
    rw [hmem] at hp hq
    rw [List.idxOf_append_of_mem hp, List.idxOf_append_of_mem hq]
    exact h.order p hp q hq
  · have hm : o ∉ met := fun hm => ho ((h.mem o).mpr hm)
    rw [addOption_of_not_mem ho]
    refine ⟨?_, ?_, ?_⟩
    · intro p
      rw [List.mem_append, List.mem_append, h.mem]
    · refine List.nodup_append.mpr ⟨h.nodup, List.nodup_singleton o, ?_⟩
      intro p hp q hq
      rw [List.mem_singleton.mp hq]
      exact fun he => ho (he ▸ hp)
    · -- the new text is last on both sides, and the others have kept their places
      intro p hp q hq
      rw [List.mem_append, List.mem_singleton] at hp hq
      have hlast : ∀ r ∈ met, options.idxOf r < options.length ∧ met.idxOf r < met.length := fun r hr =>
        ⟨List.idxOf_lt_length_of_mem ((h.mem r).mpr hr), List.idxOf_lt_length_of_mem hr⟩
      have hold : ∀ r ∈ met, (options ++ [o]).idxOf r = options.idxOf r ∧
          (met ++ [o]).idxOf r = met.idxOf r := fun r hr =>
        ⟨List.idxOf_append_of_mem ((h.mem r).mpr hr), List.idxOf_append_of_mem hr⟩
      have hnew : (options ++ [o]).idxOf o = options.length ∧ (met ++ [o]).idxOf o = met.length := by
        rw [List.idxOf_append_of_notMem ho, List.idxOf_append_of_notMem hm, List.idxOf_cons_self]
        exact ⟨rfl, rfl⟩
      rcases hp with hp | rfl
      · rcases hq with hq | rfl
        · rw [(hold p hp).1, (hold p hp).2, (hold q hq).1, (hold q hq).2]
          exact h.order p hp q hq
        · rw [(hold p hp).1, (hold p hp).2, hnew.1, hnew.2]
          exact ⟨fun _ => (hlast p hp).2, fun _ => (hlast p hp).1⟩
      · rcases hq with hq | rfl
        · rw [(hold q hq).1, (hold q hq).2, hnew.1, hnew.2]
          have := hlast q hq
          omega
        · rw [hnew.1, hnew.2]
          omega

/-- The options of a variant are gathered from the default and the given texts. -/
theorem gathered_optionsOf (default : String) (texts : List String) :
    Gathered (default :: texts) (optionsOf default texts) := by
  -- from the end: the last text given is the last one met
  induction texts using List.reverseRecOn with
  | nil => exact ⟨fun _ => Iff.rfl, List.nodup_singleton default, fun _ _ _ _ => Iff.rfl⟩
  | append_singleton rest o ih =>
    have hstep : optionsOf default (rest ++ [o]) = Variant.addOption (optionsOf default rest) o :=
      List.foldl_append
    rw [hstep]
    exact ih.addOption o

theorem prefix_foldl_addOption : options <+: texts.foldl Variant.addOption options := by
  induction texts generalizing options with
  | nil => exact List.prefix_rfl
  | cons o rest ih =>
    have hstep : options <+: Variant.addOption options o := by
      by_cases ho : o ∈ options
      · exact ⟨[], by rw [addOption_of_mem ho, List.append_nil]⟩
      · exact ⟨[o], by rw [addOption_of_not_mem ho]⟩
    exact hstep.trans ih

/-- Texts that occur already change nothing. -/
theorem foldl_addOption_of_mem (h : ∀ o ∈ texts, o ∈ options) :
    texts.foldl Variant.addOption options = options := by
  induction texts with
  | nil => rfl
  | cons o rest ih =>
    rw [List.forall_mem_cons] at h
    rw [List.foldl_cons, addOption_of_mem h.1]
    exact ih h.2

theorem foldl_addOption_of_nodup (h : (options ++ texts).Nodup) :
    texts.foldl Variant.addOption options = options ++ texts := by
  induction texts generalizing options with
  | nil => exact (List.append_nil options).symm
  | cons o rest ih =>
    have ho : o ∉ options := fun ho =>
      (List.nodup_append.mp h).2.2 o ho o List.mem_cons_self rfl
    have happend : options ++ o :: rest = options ++ [o] ++ rest := (List.append_cons options o rest)
    rw [happend] at h ⊢
    rw [List.foldl_cons, addOption_of_not_mem ho]
    exact ih h

theorem optionsOf_eq_cons (default : String) (texts : List String) :
    ∃ others, optionsOf default texts = default :: others := by
  have hprefix : [default] <+: optionsOf default texts := prefix_foldl_addOption
  obtain ⟨others, h⟩ := hprefix
  exact ⟨others, h.symm⟩

theorem optionsOf_optionsOf (default : String) (texts : List String) :
    optionsOf default (optionsOf default texts) = optionsOf default texts := by
  obtain ⟨others, hothers⟩ := optionsOf_eq_cons default texts
  have hnodup := (gathered_optionsOf default texts).nodup
  rw [hothers] at hnodup ⊢
  have hfirst : Variant.addOption [default] default = [default] :=
    addOption_of_mem (List.mem_singleton.mpr rfl)
  rw [optionsOf, List.foldl_cons, hfirst]
  show others.foldl Variant.addOption [default] = [default] ++ others
  exact foldl_addOption_of_nodup hnodup

theorem optionsOf_again {before again after : List String} (h : ∀ o ∈ again, o = default ∨ o ∈ before) :
    optionsOf default (before ++ again ++ after) = optionsOf default (before ++ after) := by
  have hknown : ∀ o ∈ again, o ∈ optionsOf default before := fun o ho =>
    ((gathered_optionsOf default before).mem o).mpr (List.mem_cons.mpr (h o ho))
  have hagain : optionsOf default (before ++ again) = optionsOf default before := by
    rw [optionsOf, List.foldl_append]
    exact foldl_addOption_of_mem hknown
  rw [optionsOf, List.foldl_append]
  show after.foldl Variant.addOption (optionsOf default (before ++ again)) = _
  rw [hagain, optionsOf, optionsOf, List.foldl_append]

end Walk

/-- The options of a new variant begin with its default. They are the default and the given texts, each
once, and those other than the default are in the order in which they were first given. Passing the
options themselves as texts, repeating texts, or giving the default anywhere among them does not change
the variant. -/
theorem options_in_order (default : String) (texts : List String) :
    let options := (make default texts).options
    options.head? = some default ∧ options.Nodup ∧
    (∀ o, o ∈ options ↔ o = default ∨ o ∈ texts) ∧
    (∀ o ∈ texts, ∀ p ∈ texts, o ≠ default → p ≠ default →
      (options.idxOf o < options.idxOf p ↔ texts.idxOf o < texts.idxOf p)) ∧
    make default options = make default texts ∧
    (∀ before again after, texts = before ++ after → (∀ o ∈ again, o = default ∨ o ∈ before) →
      make default (before ++ again ++ after) = make default texts) ∧
    ∀ before after, texts = before ++ after →
      make default (before ++ default :: after) = make default texts := by
  intro options
  have hgathered : Gathered (default :: texts) options := gathered_optionsOf default texts
  have hmake : ∀ {given}, optionsOf default given = optionsOf default texts →
      make default given = make default texts := fun h => by rw [make, h, make]
  have hagain : ∀ before again after, texts = before ++ after → (∀ o ∈ again, o = default ∨ o ∈ before) →
      make default (before ++ again ++ after) = make default texts := by
    rintro before again after rfl h
    exact hmake (optionsOf_again h)
  refine ⟨?_, hgathered.nodup, ?_, ?_, hmake (optionsOf_optionsOf default texts), hagain, ?_⟩
  · obtain ⟨others, hothers⟩ := optionsOf_eq_cons default texts
    show (optionsOf default texts).head? = some default
    rw [hothers, List.head?_cons]
  · intro o
    rw [hgathered.mem, List.mem_cons]
  · intro o ho p hp hod hpd
    -- after the default all indices are one greater
    have hplace : ∀ q, q ≠ default → (default :: texts).idxOf q = texts.idxOf q + 1 := fun q hq =>
      List.idxOf_cons_ne texts (Ne.symm hq)
    rw [hgathered.order o (List.mem_cons_of_mem default ho) p (List.mem_cons_of_mem default hp),
      hplace o hod, hplace p hpd, Nat.add_lt_add_iff_right]
  · intro before after h
    have hsingle := hagain before [default] after h fun o ho => .inl (List.mem_singleton.mp ho)
    rw [List.append_assoc] at hsingle
    exact hsingle

/-- The default is given in the middle and at the end, and two texts are given twice. -/
theorem options_in_order_repeated :
    let options := (make "b" ["c", "b", "a"]).options
    options.idxOf "c" < options.idxOf "a" ∧
      make "b" (["c", "b"] ++ ["b", "c"] ++ ["a"]) = make "b" ["c", "b", "a"] ∧
      make "b" (["c", "b", "a"] ++ "b" :: []) = make "b" ["c", "b", "a"] := by
  obtain ⟨-, -, -, horder, -, hagain, hdefault⟩ := options_in_order "b" ["c", "b", "a"]
  refine ⟨?_, hagain ["c", "b"] ["b", "c"] ["a"] rfl (by decide), hdefault ["c", "b", "a"] [] rfl⟩
  exact (horder "c" (by decide) "a" (by decide) (by decide) (by decide)).mpr (by decide)

end Variant

end FeatureFlags
