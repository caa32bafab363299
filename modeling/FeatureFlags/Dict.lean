/-!
# Dictionaries

`Dict` maps names to values and keeps its entries in the order of first insertion; that no name
occurs twice is part of the type. `find?_insert` describes lookup after insertion, and
`mem_entries_iff` says that the entries are exactly what `find?` returns.
-/

namespace FeatureFlags

/-- The entries after `value` was put under `name`: an entry of that name is overwritten in its place, and a
new name comes last. -/
def putEntry {α : Type} (name : String) (value : α) : List (String × α) → List (String × α)
  | [] => [(name, value)]
  | (n, v) :: rest => if n = name then (name, value) :: rest else (n, v) :: putEntry name value rest

theorem mem_map_fst_putEntry {α : Type} {name m : String} {value : α} {l : List (String × α)} :
    m ∈ (putEntry name value l).map Prod.fst ↔ m = name ∨ m ∈ l.map Prod.fst := by
  induction l with
  | nil => simp [putEntry]
  | cons e rest ih =>
    obtain ⟨n, v⟩ := e
    by_cases h : n = name
    · simp [putEntry, h]
    · simp only [putEntry, h, if_false, List.map_cons, List.mem_cons, ih]
      grind

theorem nodup_putEntry {α : Type} {name : String} {value : α} {l : List (String × α)}
    (h : (l.map Prod.fst).Nodup) : ((putEntry name value l).map Prod.fst).Nodup := by
  induction l with
  | nil => simp [putEntry]
  | cons e rest ih =>
    obtain ⟨n, v⟩ := e
    simp only [List.map_cons, List.nodup_cons] at h
    by_cases hn : n = name
    · simp only [putEntry, hn, if_true, List.map_cons, List.nodup_cons]
      exact ⟨hn ▸ h.1, h.2⟩
    · simp only [putEntry, hn, if_false, List.map_cons, List.nodup_cons]
      exact ⟨fun hm => (mem_map_fst_putEntry.1 hm).elim hn h.1, ih h.2⟩

/-- A finite map from names to values. -/
structure Dict (α : Type) where
  entries : List (String × α)
  nodup : (entries.map Prod.fst).Nodup

namespace Dict

variable {α : Type}

def empty : Dict α := ⟨[], .nil⟩

instance : Inhabited (Dict α) := ⟨empty⟩

def find? (d : Dict α) (name : String) : Option α := d.entries.lookup name

def contains (d : Dict α) (name : String) : Bool := (d.find? name).isSome

def insert (d : Dict α) (name : String) (value : α) : Dict α :=
  ⟨putEntry name value d.entries, nodup_putEntry d.nodup⟩

def size (d : Dict α) : Nat := d.entries.length

def isEmpty (d : Dict α) : Bool := d.entries.isEmpty

/-- Inserts all pairs from the left: of two pairs with one name the later one counts. -/
def insertAll (d : Dict α) (pairs : List (String × α)) : Dict α :=
  pairs.foldl (fun d p => d.insert p.1 p.2) d

/-- The dictionary of a list of pairs. -/
def ofList (pairs : List (String × α)) : Dict α := empty.insertAll pairs

theorem lookup_cons_ite {n m : String} {v : α} {l : List (String × α)} :
    ((n, v) :: l).lookup m = if m = n then some v else l.lookup m := by
  by_cases h : m = n
  · simp [h]
  · have : (m == n) = false := by simpa using h
    simp [List.lookup_cons, this, h]

theorem lookup_putEntry {name m : String} {value : α} {l : List (String × α)} :
    (putEntry name value l).lookup m = if m = name then some value else l.lookup m := by
  induction l with
  | nil => simp [putEntry, lookup_cons_ite]
  | cons e rest ih =>
    obtain ⟨n, v⟩ := e
    by_cases hn : n = name
    · subst hn
      by_cases hm : m = n <;> simp [putEntry, lookup_cons_ite, hm]
    · by_cases hm : m = n
      · subst hm
        simp [putEntry, hn]
      · simp [putEntry, lookup_cons_ite, hn, hm, ih]

/-- Lookup after insertion: the new value under its name, the old one under all other names. -/
theorem find?_insert {d : Dict α} {name m : String} {value : α} :
    (d.insert name value).find? m = if m = name then some value else d.find? m :=
  lookup_putEntry

@[simp] theorem find?_empty {m : String} : (empty : Dict α).find? m = none := rfl

theorem lookup_eq_some_iff {l : List (String × α)} (h : (l.map Prod.fst).Nodup) {m : String} {v : α} :
    l.lookup m = some v ↔ (m, v) ∈ l := by
  induction l with
  | nil => simp
  | cons e rest ih =>
    obtain ⟨n, w⟩ := e
    simp only [List.map_cons, List.nodup_cons] at h
    by_cases hm : m = n
    · subst hm
      have : ∀ u, (m, u) ∉ rest := fun u hu => h.1 (List.mem_map.2 ⟨_, hu, rfl⟩)
      simp [this, eq_comm]
    · simp [lookup_cons_ite, hm, ih h.2]

theorem find?_insertAll {d : Dict α} {l : List (String × α)} (h : (l.map Prod.fst).Nodup) {m : String} :
    (d.insertAll l).find? m = (l.lookup m).or (d.find? m) := by
  induction l generalizing d with
  | nil => rfl
  | cons e rest ih =>
    obtain ⟨n, v⟩ := e
    simp only [List.map_cons, List.nodup_cons] at h
    have : (d.insertAll ((n, v) :: rest)).find? m = ((d.insert n v).insertAll rest).find? m := rfl
    rw [this, ih h.2, find?_insert, lookup_cons_ite]
    by_cases hm : m = n
    · subst hm
      have : rest.lookup m = none := by
        cases hl : rest.lookup m with
        | none => rfl
        | some u => exact absurd (List.mem_map.2 ⟨_, (lookup_eq_some_iff h.2).1 hl, rfl⟩) h.1
      simp [this]
    · simp [hm]

theorem mem_entries_iff {d : Dict α} {m : String} {v : α} :
    (m, v) ∈ d.entries ↔ d.find? m = some v :=
  (lookup_eq_some_iff d.nodup).symm

end Dict

end FeatureFlags
