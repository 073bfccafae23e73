set_option autoImplicit false

/-!
# Ordered maps

Maps from names to values that remember the order in which the names were first written.  Writing
a name again replaces its value and keeps its place.  The invariant that no name occurs twice is
part of the type.

`ofList_entries` is the fact the readers and writers of this library rest on: writing the entries
of a map one after the other gives back the map, order included.
-/

namespace ParseLens

/-! ## Writing one entry -/

section Entries

variable {α : Type}

/-- Write `value` under `name`: in its old place when the name is there, else at the end. -/
def insertEntry (name : String) (value : α) : List (String × α) → List (String × α)
  | [] => [(name, value)]
  | entry :: rest =>
    if entry.1 = name then (name, value) :: rest else entry :: insertEntry name value rest

theorem map_fst_insertEntry (name : String) (value : α) (l : List (String × α)) :
    (insertEntry name value l).map Prod.fst =
      if name ∈ l.map Prod.fst then l.map Prod.fst else l.map Prod.fst ++ [name] := by
  induction l with
  | nil => simp [insertEntry]
  | cons entry rest ih =>
    by_cases h : entry.1 = name
    · simp [insertEntry, h]
    · have h' : ¬ name = entry.1 := fun e => h e.symm
      simp only [insertEntry, h, if_false, List.map_cons, ih, List.mem_cons, h', false_or]
      split <;> simp

theorem insertEntry_of_not_mem {name : String} {l : List (String × α)}
    (h : name ∉ l.map Prod.fst) (value : α) : insertEntry name value l = l ++ [(name, value)] := by
  induction l with
  | nil => rfl
  | cons entry rest ih =>
    simp only [List.map_cons, List.mem_cons, not_or] at h
    have h' : ¬ entry.1 = name := fun e => h.1 e.symm
    simp [insertEntry, h', ih h.2]

theorem nodup_insertEntry {l : List (String × α)} (h : (l.map Prod.fst).Nodup) (name : String)
    (value : α) : ((insertEntry name value l).map Prod.fst).Nodup := by
  rw [map_fst_insertEntry]
  split
  · exact h
  · rename_i hn
    exact List.nodup_append.2 ⟨h, by simp, fun a ha b hb => by
      simp only [List.mem_singleton] at hb
      subst hb
      exact fun e => hn (e ▸ ha)⟩

theorem mem_of_mem_insertEntry {name : String} {value : α} {l : List (String × α)}
    {e : String × α} (h : e ∈ insertEntry name value l) : e = (name, value) ∨ e ∈ l := by
  induction l with
  | nil => exact .inl (List.mem_singleton.1 h)
  | cons entry rest ih =>
    rw [insertEntry] at h
    split at h
    · rcases List.mem_cons.1 h with h | h
      · exact .inl h
      · exact .inr (List.mem_cons_of_mem _ h)
    · rcases List.mem_cons.1 h with rfl | h
      · exact .inr List.mem_cons_self
      · exact (ih h).imp_right (List.mem_cons_of_mem _)

end Entries

/-! ## The type -/

/-- A map from names to values, in the order in which the names were first written. -/
structure OrderedMap (α : Type) where
  /-- The names with their values, in order. -/
  entries : List (String × α)
  /-- No name occurs twice. -/
  nodup : (entries.map Prod.fst).Nodup
  deriving DecidableEq, Repr

namespace OrderedMap

variable {α : Type}

/-- The map without entries. -/
def empty : OrderedMap α := ⟨[], List.nodup_nil⟩

instance : Inhabited (OrderedMap α) := ⟨empty⟩

/-- Write one entry. -/
def insert (m : OrderedMap α) (name : String) (value : α) : OrderedMap α :=
  ⟨insertEntry name value m.entries, nodup_insertEntry m.nodup name value⟩

/-- Write entries one after the other, starting from a map. -/
def insertAll (m : OrderedMap α) (l : List (String × α)) : OrderedMap α :=
  l.foldl (fun m entry => m.insert entry.1 entry.2) m

/-- Write entries one after the other: a name keeps its first place and its last value. -/
def ofList (l : List (String × α)) : OrderedMap α := insertAll empty l

/-- The names, in order. -/
def names (m : OrderedMap α) : List String := m.entries.map Prod.fst

/-- The values, in the order of their names. -/
def values (m : OrderedMap α) : List α := m.entries.map Prod.snd

/-- Whether a name has a value. -/
def contains (m : OrderedMap α) (name : String) : Bool := m.names.contains name

theorem entries_injective {m m' : OrderedMap α} (h : m.entries = m'.entries) : m = m' := by
  cases m; cases m'; cases h; rfl

@[simp] theorem entries_empty : (empty : OrderedMap α).entries = [] := rfl

theorem entries_insert_of_not_mem {m : OrderedMap α} {name : String} (h : name ∉ m.names)
    (value : α) : (m.insert name value).entries = m.entries ++ [(name, value)] :=
  insertEntry_of_not_mem h value

@[simp] theorem contains_iff {m : OrderedMap α} {name : String} :
    m.contains name = true ↔ name ∈ m.names := by
  simp [contains]

/-- Entries whose names are new and distinct are simply appended. -/
theorem entries_insertAll (l : List (String × α)) (m : OrderedMap α)
    (h : ((m.entries ++ l).map Prod.fst).Nodup) : (m.insertAll l).entries = m.entries ++ l := by
  induction l generalizing m with
  | nil => simp [insertAll]
  | cons entry l ih =>
    have hn : entry.1 ∉ m.names := by
      intro hm
      rw [List.map_append, List.nodup_append] at h
      exact h.2.2 _ hm _ (by simp) rfl
    have hi := entries_insert_of_not_mem hn entry.2
    show ((m.insert entry.1 entry.2).insertAll l).entries = _
    rw [ih _ (by rw [hi]; simpa using h), hi]
    simp

/-- Writing the entries of a map one after the other gives back the map. -/
theorem ofList_entries (m : OrderedMap α) : ofList m.entries = m :=
  entries_injective (by
    rw [ofList, entries_insertAll _ _ (by simpa using m.nodup)]
    rfl)

theorem mem_of_mem_insertAll {l : List (String × α)} {m : OrderedMap α} {e : String × α}
    (h : e ∈ (m.insertAll l).entries) : e ∈ m.entries ∨ e ∈ l := by
  induction l generalizing m with
  | nil => exact .inl h
  | cons entry l ih =>
    rcases ih (m := m.insert entry.1 entry.2) h with h | h
    · rcases mem_of_mem_insertEntry h with rfl | h
      · exact .inr List.mem_cons_self
      · exact .inl h
    · exact .inr (List.mem_cons_of_mem _ h)

/-- Every entry of a map was written. -/
theorem mem_of_mem_ofList {l : List (String × α)} {e : String × α} (h : e ∈ (ofList l).entries) :
    e ∈ l := by
  rcases mem_of_mem_insertAll h with h | h
  · exact absurd h List.not_mem_nil
  · exact h

/-- Change the values, and keep the names in their places. -/
def mapValues {β : Type} (f : α → β) (m : OrderedMap α) : OrderedMap β :=
  ⟨m.entries.map fun entry => (entry.1, f entry.2), by
    have hnames : (m.entries.map fun entry => (entry.1, f entry.2)).map Prod.fst =
        m.entries.map Prod.fst := by
      rw [List.map_map]
      rfl
    rw [hnames]
    exact m.nodup⟩

@[simp] theorem entries_mapValues {β : Type} (f : α → β) (m : OrderedMap α) :
    (m.mapValues f).entries = m.entries.map fun entry => (entry.1, f entry.2) := rfl

end OrderedMap

end ParseLens
