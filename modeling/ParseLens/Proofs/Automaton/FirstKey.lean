import Mathlib.Data.List.Infix
import ParseLens.Automaton.Table

set_option autoImplicit false

/-!
# Automaton: the first key of a cell wins

Several keys may name one cell, for a number can be written in several ways.  The table has the
entry of the first of them; the others are skipped, and so are the keys that name no cell.

Keys are taken in one after the other, so every fact here is about the keys taken in so far:
`Table.fold_induction` is the induction over them, and `Table.add_cases` says what taking in one
key can do.  `Table.Reflects` is the invariant from which `Table.ofEntries_firstKey` is read off.
-/

namespace ParseLens

/-! ## Symbols -/

namespace Vocabulary

/-- A symbol stands for its name alone. -/
@[simp] theorem classify_inj {v : Vocabulary} {name name' : String} :
    v.classify name = v.classify name' ↔ name = name' := by
  constructor
  · intro h
    exact congrArg Symbol.name h
  · intro h
    rw [h]

end Vocabulary

/-! ## Keys -/

namespace TableKey

/-- The first entry whose key names the given cell. -/
def first? (cell : StateId × String) (entries : List (String × Entry)) : Option (String × Entry) :=
  entries.find? fun e => decide (split e.1 = .ok cell)

/-- Why a key is skipped that comes behind the given ones, if it is skipped. -/
def flawAfter (earlier : List String) (key : String) : Option Flaw :=
  match split key with
  | .error flaw => some flaw
  | .ok cell => if ∃ k ∈ earlier, split k = .ok cell then some .duplicate else none

/-- The keys that are skipped, each with the reason; a key is judged together with the keys before
it. -/
def skipped (keys : List String) : List (String × Flaw) :=
  (keys.zip keys.inits).filterMap fun p => (flawAfter p.2 p.1).map fun flaw => (p.1, flaw)

/-- Splitting a key knows nothing of other keys. -/
theorem split_ne_duplicate (key : String) : split key ≠ .error .duplicate := by
  unfold split
  split
  · simp
  · split
    · simp
    · split <;> simp

theorem first?_append_singleton (cell : StateId × String) (entries : List (String × Entry))
    (key : String) (entry : Entry) :
    first? cell (entries ++ [(key, entry)]) =
      (first? cell entries).or (if split key = .ok cell then some (key, entry) else none) := by
  rw [first?, List.find?_append]
  congr 1
  by_cases h : split key = .ok cell <;> simp [h]

/-- A key for the cell came before if and only if there is a first one. -/
theorem isSome_first?_iff {cell : StateId × String} {entries : List (String × Entry)} :
    (first? cell entries).isSome = true ↔ ∃ k ∈ entries.map Prod.fst, split k = .ok cell := by
  simp [first?, List.find?_isSome]

theorem flawAfter_of_error {key : String} {flaw : Flaw} (hsplit : split key = .error flaw)
    (earlier : List String) : flawAfter earlier key = some flaw := by
  rw [flawAfter, hsplit]

theorem flawAfter_of_ok {key : String} {cell : StateId × String} (hsplit : split key = .ok cell)
    (entries : List (String × Entry)) : flawAfter (entries.map Prod.fst) key =
      if (first? cell entries).isSome = true then some .duplicate else none := by
  rw [flawAfter, hsplit]
  simp only [isSome_first?_iff]

/-- The last list of initial parts is the list itself. -/
theorem inits_eq_append_self (keys : List String) :
    ∃ parts, keys.inits = parts ++ [keys] ∧ parts.length = keys.length := by
  rcases List.eq_nil_or_concat' keys with rfl | ⟨keys, key, rfl⟩
  · exact ⟨[], rfl, rfl⟩
  · exact ⟨keys.inits, by simp [List.inits_append], by simp⟩

/-- One more key is judged by the keys before it, and changes nothing for them. -/
theorem skipped_append_singleton (keys : List String) (key : String) :
    skipped (keys ++ [key]) =
      skipped keys ++ ((flawAfter keys key).map fun flaw => (key, flaw)).toList := by
  obtain ⟨parts, hparts, hlength⟩ := inits_eq_append_self keys
  have hinits : (keys ++ [key]).inits = parts ++ [keys, keys ++ [key]] := by
    simp [List.inits_append, hparts]
  have hnew : (keys ++ [key]).zip (keys ++ [key]).inits = keys.zip parts ++ [(key, keys)] := by
    rw [hinits, List.zip_append hlength.symm]
    simp
  have hold : keys.zip keys.inits = keys.zip parts := by
    calc keys.zip keys.inits
      _ = (keys ++ []).zip (parts ++ [keys]) := by rw [hparts, List.append_nil]
      _ = keys.zip parts ++ [].zip [keys] := List.zip_append hlength.symm
      _ = keys.zip parts := by simp
  rw [skipped, skipped, hnew, hold, List.filterMap_append]
  cases hflaw : flawAfter keys key with
  | none => simp [hflaw]
  | some flaw => simp [hflaw]

end TableKey

/-! ## Taking in one key -/

namespace Table

variable {v : Vocabulary} {t : Table}

@[simp] theorem lookup_skip (t : Table) (key : String) (flaw : TableKey.Flaw) (n : StateId)
    (s : Symbol) : (t.skip key flaw).lookup n s = t.lookup n s := rfl

theorem lookup_fill (t : Table) (state : StateId) (symbol : Symbol) (entry : Entry) (n : StateId)
    (s : Symbol) : (t.fill state symbol entry).lookup n s =
      (t.lookup n s).or (if n = state ∧ s = symbol then some entry else none) := by
  rw [lookup, fill, List.lookup_append, List.lookup_cons]
  by_cases h : n = state ∧ s = symbol
  · simp [lookup, h]
  · have hne : ((n, s) == (state, symbol)) = false := by simpa using h
    simp [lookup, h, hne]

/-- A key is skipped because it names no cell, it is skipped because its cell has an entry, or it
fills its cell. -/
theorem add_cases (v : Vocabulary) (t : Table) (key : String) (entry : Entry) :
    (∃ flaw, TableKey.split key = .error flaw ∧ t.add v key entry = t.skip key flaw) ∨
    (∃ n name, TableKey.split key = .ok (n, name) ∧ (t.lookup n (v.classify name)).isSome = true ∧
      t.add v key entry = t.skip key .duplicate) ∨
    (∃ n name, TableKey.split key = .ok (n, name) ∧ t.lookup n (v.classify name) = none ∧
      t.add v key entry = t.fill n (v.classify name) entry) := by
  cases hsplit : TableKey.split key with
  | error flaw => exact .inl ⟨flaw, rfl, by simp [add, hsplit]⟩
  | ok cell =>
    obtain ⟨n, name⟩ := cell
    cases hlookup : t.lookup n (v.classify name) with
    | none => exact .inr (.inr ⟨n, name, rfl, hlookup, by simp [add, hsplit, hlookup]⟩)
    | some e => exact .inr (.inl ⟨n, name, rfl, by simp [hlookup], by simp [add, hsplit, hlookup]⟩)

/-- What holds of the table without cells, and goes on to hold with every key that is taken in,
holds of the table of all keys. -/
theorem fold_induction {P : List (String × Entry) → Table → Prop} (hempty : P [] empty)
    (hadd : ∀ done t key entry, P done t → P (done ++ [(key, entry)]) (t.add v key entry))
    (entries : List (String × Entry)) :
    P entries (entries.foldl (fun t e => t.add v e.1 e.2) empty) := by
  induction entries using List.reverseRecOn with
  | nil => exact hempty
  | append_singleton done e ih =>
    rw [List.foldl_append]
    exact hadd done _ e.1 e.2 ih

/-! ## The invariant -/

/-- The table `t` is what the entries `done` make of an empty table. -/
structure Reflects (v : Vocabulary) (done : List (String × Entry)) (t : Table) : Prop where
  /-- A cell has the first entry for it. -/
  found : ∀ n name,
    t.lookup n (v.classify name) = (TableKey.first? (n, name) done).map Prod.snd
  /-- The cells are those of classified symbols. -/
  classified : ∀ c ∈ t.cells, v.classify c.1.2.name = c.1.2
  /-- No cell is there twice. -/
  nodup : (t.cells.map Prod.fst).Nodup
  /-- What was skipped is what had to be skipped. -/
  skipped : t.skipped = TableKey.skipped (done.map Prod.fst)
  /-- Every key filled a cell or was skipped. -/
  counted : t.cells.length + t.skipped.length = done.length

theorem reflects_empty (v : Vocabulary) : Reflects v [] empty where
  found _ _ := rfl
  classified _ h := absurd h List.not_mem_nil
  nodup := List.nodup_nil
  skipped := rfl
  counted := rfl

theorem not_mem_cells_of_lookup_eq_none {n : StateId} {s : Symbol} (h : t.lookup n s = none) :
    (n, s) ∉ t.cells.map Prod.fst := by
  intro hmem
  obtain ⟨c, hc, hcell⟩ := List.mem_map.1 hmem
  have hne := List.lookup_eq_none_iff.1 h c hc
  simp [hcell] at hne

section Steps

variable {done : List (String × Entry)} {key : String}

/-- A key that names no cell is skipped. -/
theorem Reflects.skip_of_error (h : Reflects v done t) {flaw : TableKey.Flaw}
    (hsplit : TableKey.split key = .error flaw) (entry : Entry) :
    Reflects v (done ++ [(key, entry)]) (t.skip key flaw) where
  found n name := by
    rw [lookup_skip, h.found, TableKey.first?_append_singleton, hsplit]
    simp
  classified := h.classified
  nodup := h.nodup
  skipped := by
    rw [List.map_append, List.map_singleton, TableKey.skipped_append_singleton,
      TableKey.flawAfter_of_error hsplit, ← h.skipped]
    rfl
  counted := by
    have := h.counted
    simp only [skip, List.length_append, List.length_singleton]
    omega

/-- A key whose cell has an entry is skipped. -/
theorem Reflects.skip_of_isSome (h : Reflects v done t) {n : StateId} {name : String}
    (hsplit : TableKey.split key = .ok (n, name))
    (hfilled : (t.lookup n (v.classify name)).isSome = true) (entry : Entry) :
    Reflects v (done ++ [(key, entry)]) (t.skip key .duplicate) where
  found n' name' := by
    rw [lookup_skip, h.found, TableKey.first?_append_singleton, hsplit]
    by_cases hcell : (n, name) = (n', name')
    · -- the cell has a first key already, and one more at the end does not change which
      obtain ⟨rfl, rfl⟩ := Prod.mk.inj hcell
      rw [h.found, Option.isSome_map] at hfilled
      rw [Option.or_of_isSome hfilled]
    · simp [hcell]
  classified := h.classified
  nodup := h.nodup
  skipped := by
    rw [h.found, Option.isSome_map] at hfilled
    rw [List.map_append, List.map_singleton, TableKey.skipped_append_singleton,
      TableKey.flawAfter_of_ok hsplit, if_pos hfilled, ← h.skipped]
    rfl
  counted := by
    have := h.counted
    simp only [skip, List.length_append, List.length_singleton]
    omega

/-- A key whose cell has no entry fills it. -/
theorem Reflects.fill (h : Reflects v done t) {n : StateId} {name : String}
    (hsplit : TableKey.split key = .ok (n, name))
    (hfree : t.lookup n (v.classify name) = none) (entry : Entry) :
    Reflects v (done ++ [(key, entry)]) (t.fill n (v.classify name) entry) where
  found n' name' := by
    rw [lookup_fill, h.found, TableKey.first?_append_singleton, hsplit, Option.map_or]
    by_cases hcell : n' = n ∧ name' = name
    · simp [hcell]
    · have hcell' : ¬ (n, name) = (n', name') := by
        intro hsame
        obtain ⟨hn, hname⟩ := Prod.mk.inj hsame
        exact hcell ⟨hn.symm, hname.symm⟩
      simp [hcell, hcell']
  classified c hc := by
    rcases List.mem_append.1 hc with hold | hnew
    · exact h.classified c hold
    · rw [List.mem_singleton.1 hnew]
      rfl
  nodup := by
    have hnew := not_mem_cells_of_lookup_eq_none hfree
    simp only [Table.fill, List.map_append, List.map_singleton]
    refine List.nodup_append.2 ⟨h.nodup, by simp, ?_⟩
    intro a ha b hb hab
    rw [hab, List.mem_singleton.1 hb] at ha
    exact hnew ha
  skipped := by
    rw [h.found, Option.map_eq_none_iff] at hfree
    rw [List.map_append, List.map_singleton, TableKey.skipped_append_singleton,
      TableKey.flawAfter_of_ok hsplit, hfree]
    simpa [Table.fill] using h.skipped
  counted := by
    have := h.counted
    simp only [Table.fill, List.length_append, List.length_singleton]
    omega

end Steps

/-- Taking in one more key. -/
theorem Reflects.add {done : List (String × Entry)} (h : Reflects v done t) (key : String)
    (entry : Entry) : Reflects v (done ++ [(key, entry)]) (t.add v key entry) := by
  rcases add_cases v t key entry with ⟨flaw, hsplit, hadd⟩ | ⟨n, name, hsplit, hfilled, hadd⟩ |
    ⟨n, name, hsplit, hfree, hadd⟩
  · rw [hadd]
    exact h.skip_of_error hsplit entry
  · rw [hadd]
    exact h.skip_of_isSome hsplit hfilled entry
  · rw [hadd]
    exact h.fill hsplit hfree entry

theorem reflects_fold (v : Vocabulary) (entries : List (String × Entry)) :
    Reflects v entries (entries.foldl (fun t e => t.add v e.1 e.2) empty) :=
  fold_induction (reflects_empty v) (fun _ _ key entry h => h.add key entry) entries

/-! ## The table of a map -/

/-- Marking the end of the input adds a column and no cell. -/
theorem reflects_ofEntries (raw : OrderedMap Entry) (v : Vocabulary) :
    Reflects v raw.entries (ofEntries raw v) := by
  have h := reflects_fold v raw.entries
  exact ⟨h.found, h.classified, h.nodup, h.skipped, h.counted⟩

/-- A cell with an entry is that of a classified symbol. -/
theorem Reflects.classify_of_lookup {done : List (String × Entry)} (h : Reflects v done t)
    {n : StateId} {s : Symbol} {e : Entry} (hlookup : t.lookup n s = some e) :
    v.classify s.name = s := by
  by_contra hne
  have hnone : t.lookup n s = none := by
    refine List.lookup_eq_none_iff.2 ?_
    intro c hc
    rw [bne_iff_ne]
    intro hcell
    have hclassified := h.classified c hc
    rw [← hcell] at hclassified
    exact hne hclassified
  simp [hnone] at hlookup

/-- A cell has an entry if and only if its symbol is the classified one and some key names it, and
then it is the entry of the first such key. -/
theorem Reflects.lookup_eq_some_iff {done : List (String × Entry)} (h : Reflects v done t)
    {n : StateId} {s : Symbol} {e : Entry} : t.lookup n s = some e ↔
      v.classify s.name = s ∧ ∃ key, TableKey.first? (n, s.name) done = some (key, e) := by
  constructor
  · intro hlookup
    have hs := h.classify_of_lookup hlookup
    have hfound := h.found n s.name
    rw [hs, hlookup] at hfound
    obtain ⟨⟨key, e'⟩, hfirst, rfl⟩ := Option.map_eq_some_iff.1 hfound.symm
    exact ⟨hs, key, hfirst⟩
  · rintro ⟨hs, key, hfirst⟩
    have hfound := h.found n s.name
    rw [hs, hfirst] at hfound
    exact hfound

/-- A cell of the table has the entry of the first key that names it, and no other cell has an
entry.  The keys that are skipped are those that name no cell and those whose cell an earlier key
named, in their order and each with its reason, and the two reasons are never confused; every other
key has a cell of its own. -/
theorem ofEntries_firstKey (raw : OrderedMap Entry) (v : Vocabulary) :
    (∀ n s e, (ofEntries raw v).lookup n s = some e ↔
      v.classify s.name = s ∧ ∃ key, TableKey.first? (n, s.name) raw.entries = some (key, e)) ∧
    (ofEntries raw v).skipped = TableKey.skipped raw.names ∧
    (∀ key, TableKey.split key ≠ .error .duplicate) ∧
    TableKey.Flaw.duplicate.reason = "duplicates an earlier cell" ∧
    ((ofEntries raw v).cells.map Prod.fst).Nodup ∧
    (ofEntries raw v).cells.length + (ofEntries raw v).skipped.length = raw.entries.length := by
  have h := reflects_ofEntries raw v
  exact ⟨fun n s e => h.lookup_eq_some_iff, h.skipped, TableKey.split_ne_duplicate, rfl, h.nodup,
    h.counted⟩

/-- A number of a state is the same with zeros or a sign in front of it. -/
example : TableKey.skipped ["0_a", "a", "00_a", "x_a", "+0_a", "0_", "0_a_"] =
    [("a", .noSeparator), ("00_a", .duplicate), ("x_a", .noState), ("+0_a", .duplicate),
      ("0_", .noSymbol)] := by decide +kernel

end Table

end ParseLens
