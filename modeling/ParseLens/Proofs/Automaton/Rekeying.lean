import ParseLens.Automaton.Grid
import ParseLens.Proofs.Automaton.Coverage
import ParseLens.Proofs.Automaton.KeySpelling

set_option autoImplicit false

/-!
# Automaton: the keys of a table in their normal form

A cell may be named in several ways, but there is one key that names it with its number in plain
decimal.  Writing each entry of a table under that key gives a map from which the same table comes
back, without a key that is skipped: nothing of a table depends on how its keys were written, nor on
the keys that were skipped.

The argument runs over the keys twice at the same time, once as they came and once rewritten.  A
key that is skipped in the first run is absent from the second; a key that fills its cell fills it
in both.  So the two tables differ in what they note as skipped and nowhere else
(`Table.mirrored_fold`).

* `TableKey.split_ofCell` says that a key in normal form names its cell.
* `Table.ofEntries_rekeyed` is the equation between the two tables.
* `Table.ofEntries_canonicalKeys` is the main statement.
-/

namespace ParseLens

/-! ## Keys in normal form -/

namespace TableKey

/-- The key of a cell with the number of its state in plain decimal. -/
def ofCell (cell : StateId × String) : String := toString cell.1.toNat ++ "_" ++ cell.2

theorem cut_ofCell (cell : StateId × String) :
    cut (ofCell cell).toList = some (Nat.toDigits 10 cell.1.toNat, cell.2.toList) := by
  have hdigits : '_' ∉ Nat.toDigits 10 cell.1.toNat := Text.not_mem_toDigits (by decide) _
  have hchars : (ofCell cell).toList = Nat.toDigits 10 cell.1.toNat ++ '_' :: cell.2.toList := by
    simp [ofCell]
  rw [hchars, cut_append hdigits]

/-- The key of a cell in normal form names this cell. -/
theorem split_ofCell {n : StateId} {name : String} (hname : name ≠ "") :
    split (ofCell (n, name)) = .ok (n, name) :=
  split_decimal n hname

/-- Different cells have different keys. -/
theorem ofCell_injective : Function.Injective ofCell := by
  intro cell cell' h
  have hcut : some (Nat.toDigits 10 cell.1.toNat, cell.2.toList) =
      some (Nat.toDigits 10 cell'.1.toNat, cell'.2.toList) := by
    rw [← cut_ofCell, ← cut_ofCell, h]
  obtain ⟨hdigits, hname⟩ := Prod.mk.inj (Option.some.inj hcut)
  have hstate : some cell.1 = some cell'.1 := by
    rw [← Text.word?_toDigits, ← Text.word?_toDigits, hdigits]
  exact Prod.ext (Option.some.inj hstate) (String.toList_injective hname)

/-- A cell that a key names has a name that is not empty. -/
theorem name_ne_empty_of_split {key : String} {n : StateId} {name : String}
    (h : split key = .ok (n, name)) : name ≠ "" := by
  obtain ⟨_, _, _, _, hname⟩ := split_eq_ok_iff.1 h
  exact hname

/-! ## The entries that fill a cell -/

theorem split_of_first? {cell : StateId × String} {entries : List (String × Entry)}
    {e : String × Entry} (h : first? cell entries = some e) : split e.1 = .ok cell := by
  unfold first? at h
  simpa using List.find?_some h

/-- The cell that an entry is the first to name, with what it holds. -/
def fills? (entries : List (String × Entry)) (e : String × Entry) :
    Option ((StateId × String) × Entry) :=
  match split e.1 with
  | .error _ => none
  | .ok cell => if first? cell entries = some e then some (cell, e.2) else none

/-- The cells that are named, each with the entry of the first key that names it, in the order of
these keys. -/
def filled (entries : List (String × Entry)) : List ((StateId × String) × Entry) :=
  entries.filterMap (fills? entries)

/-- The entries that fill a cell, under the keys of their cells in normal form. -/
def rekeyed (entries : List (String × Entry)) : List (String × Entry) :=
  (filled entries).map fun c => (ofCell c.1, c.2)

/-- A cell is filled with the entry of the first key that names it. -/
theorem mem_filled {entries : List (String × Entry)} {cell : StateId × String} {entry : Entry} :
    (cell, entry) ∈ filled entries ↔ ∃ key, first? cell entries = some (key, entry) := by
  rw [filled, List.mem_filterMap]
  constructor
  · rintro ⟨⟨key, entry'⟩, -, hfills⟩
    unfold fills? at hfills
    split at hfills
    · simp at hfills
    · split at hfills
      · rename_i hfirst
        obtain ⟨rfl, rfl⟩ := Prod.mk.inj (Option.some.inj hfills)
        exact ⟨key, hfirst⟩
      · simp at hfills
  · rintro ⟨key, hfirst⟩
    have hsplit : split key = .ok cell := split_of_first? hfirst
    exact ⟨(key, entry), List.mem_of_find?_eq_some hfirst, by simp [fills?, hsplit, hfirst]⟩

/-- Only a cell that has a name is filled. -/
theorem name_ne_empty_of_mem_filled {entries : List (String × Entry)}
    {c : (StateId × String) × Entry} (h : c ∈ filled entries) : c.1.2 ≠ "" := by
  obtain ⟨key, hfirst⟩ := mem_filled.1 h
  exact name_ne_empty_of_split (split_of_first? hfirst)

/-- Among keys in normal form, the first that names a cell is its own key. -/
theorem lookup_ofCell {cells : List ((StateId × String) × Entry)} (h : ∀ c ∈ cells, c.1.2 ≠ "")
    (cell : StateId × String) :
    (cells.map fun c => (ofCell c.1, c.2)).lookup (ofCell cell) =
      (first? cell (cells.map fun c => (ofCell c.1, c.2))).map Prod.snd := by
  induction cells with
  | nil => rfl
  | cons c cells ih =>
    have hsplit : split (ofCell c.1) = .ok c.1 := split_ofCell (h c List.mem_cons_self)
    have hrest := ih fun d hd => h d (List.mem_cons_of_mem c hd)
    by_cases hc : c.1 = cell
    · subst hc
      simp [first?, hsplit]
    · have hkey : (ofCell cell == ofCell c.1) = false :=
        beq_eq_false_iff_ne.2 fun e => hc (ofCell_injective e).symm
      rw [List.map_cons, List.lookup_cons, hkey, hrest]
      simp [first?, hsplit, hc]

section Append

variable {done : List (String × Entry)} {key : String} {cell : StateId × String}

/-- One more entry does not change which cells the entries before it fill. -/
theorem filled_append_singleton (done : List (String × Entry)) (key : String) (entry : Entry) :
    filled (done ++ [(key, entry)]) =
      filled done ++ (fills? (done ++ [(key, entry)]) (key, entry)).toList := by
  have hdone : done.filterMap (fills? (done ++ [(key, entry)])) = filled done := by
    refine List.filterMap_congr fun d hd => ?_
    unfold fills?
    cases hsplit : split d.1 with
    | error flaw => rfl
    | ok cell =>
      have hfirst : (first? cell done).isSome = true :=
        isSome_first?_iff.2 ⟨d.1, List.mem_map_of_mem hd, hsplit⟩
      have hsame : first? cell (done ++ [(key, entry)]) = first? cell done := by
        rw [first?_append_singleton, Option.or_of_isSome hfirst]
      simp only [hsame]
  rw [filled, List.filterMap_append, hdone]
  cases h : fills? (done ++ [(key, entry)]) (key, entry) <;> simp [h]

theorem filled_append_of_error {flaw : Flaw} (hsplit : split key = .error flaw) (entry : Entry) :
    filled (done ++ [(key, entry)]) = filled done := by
  simp [filled_append_singleton, fills?, hsplit]

/-- A key for a cell that was named before fills none. -/
theorem filled_append_of_isSome (hnew : key ∉ done.map Prod.fst) (hsplit : split key = .ok cell)
    (hfirst : (first? cell done).isSome = true) (entry : Entry) :
    filled (done ++ [(key, entry)]) = filled done := by
  obtain ⟨e, he⟩ := Option.isSome_iff_exists.1 hfirst
  have hother : e ≠ (key, entry) := by
    intro h
    have hmem : e ∈ done := List.mem_of_find?_eq_some he
    exact hnew (List.mem_map.2 ⟨e, hmem, by rw [h]⟩)
  simp [filled_append_singleton, fills?, hsplit, first?_append_singleton, he, hother]

theorem filled_append_of_none (hsplit : split key = .ok cell) (hfirst : first? cell done = none)
    (entry : Entry) : filled (done ++ [(key, entry)]) = filled done ++ [(cell, entry)] := by
  simp [filled_append_singleton, fills?, hsplit, first?_append_singleton, hfirst]

end Append

end TableKey

/-! ## Two runs over the keys -/

namespace Table

variable {v : Vocabulary} {t : Table} {done : List (String × Entry)} {key : String} {n : StateId}
  {name : String}

/-- The key of a cell in normal form fills the cell, if it has no entry. -/
theorem add_ofCell (hname : name ≠ "") (hfree : t.lookup n (v.classify name) = none)
    (entry : Entry) :
    t.add v (TableKey.ofCell (n, name)) entry = t.fill n (v.classify name) entry := by
  simp [add, TableKey.split_ofCell hname, hfree]

/-- The table `t` of the entries `done` is also that of the entries under the keys in normal form,
but for the keys it skips. -/
structure Mirrored (v : Vocabulary) (done : List (String × Entry)) (t : Table) : Prop where
  /-- The cells are those that the entries fill. -/
  cells : t.cells = (TableKey.filled done).map fun c => ((c.1.1, v.classify c.1.2), c.2)
  /-- The second run ends in the same table. -/
  rebuilt : (TableKey.rekeyed done).foldl (fun t e => t.add v e.1 e.2) empty =
    { t with skipped := [] }

theorem mirrored_empty (v : Vocabulary) : Mirrored v [] empty := ⟨rfl, rfl⟩

/-- A key that fills no cell is absent from the second run. -/
theorem Mirrored.skip (h : Mirrored v done t) {entry : Entry}
    (hfilled : TableKey.filled (done ++ [(key, entry)]) = TableKey.filled done)
    (flaw : TableKey.Flaw) : Mirrored v (done ++ [(key, entry)]) (t.skip key flaw) where
  cells := by rw [hfilled]; exact h.cells
  rebuilt := by rw [TableKey.rekeyed, hfilled]; exact h.rebuilt

/-- A key that fills its cell fills it in both runs. -/
theorem Mirrored.fill (h : Mirrored v done t) {entry : Entry} (hname : name ≠ "")
    (hfree : t.lookup n (v.classify name) = none)
    (hfilled : TableKey.filled (done ++ [(key, entry)]) =
      TableKey.filled done ++ [((n, name), entry)]) :
    Mirrored v (done ++ [(key, entry)]) (t.fill n (v.classify name) entry) where
  cells := by
    rw [hfilled, List.map_append, ← h.cells]
    rfl
  rebuilt := by
    have hrekeyed : TableKey.rekeyed (done ++ [(key, entry)]) =
        TableKey.rekeyed done ++ [(TableKey.ofCell (n, name), entry)] := by
      rw [TableKey.rekeyed, hfilled, List.map_append]
      rfl
    -- what was skipped has no part in filling a cell
    have hfree' : Table.lookup { t with skipped := [] } n (v.classify name) = none := hfree
    rw [hrekeyed, List.foldl_append, h.rebuilt, List.foldl_cons, List.foldl_nil,
      add_ofCell hname hfree']
    rfl

/-- Taking in one more key, which none of the keys before it is. -/
theorem Mirrored.add (h : Mirrored v done t) (hreflects : Reflects v done t)
    (hnew : key ∉ done.map Prod.fst) (entry : Entry) :
    Mirrored v (done ++ [(key, entry)]) (t.add v key entry) := by
  rcases add_cases v t key entry with ⟨flaw, hsplit, hadd⟩ | ⟨n, name, hsplit, hfull, hadd⟩ |
    ⟨n, name, hsplit, hfree, hadd⟩
  · rw [hadd]
    exact h.skip (TableKey.filled_append_of_error hsplit entry) flaw
  · rw [hreflects.found, Option.isSome_map] at hfull
    rw [hadd]
    exact h.skip (TableKey.filled_append_of_isSome hnew hsplit hfull entry) .duplicate
  · have hfirst := hfree
    rw [hreflects.found, Option.map_eq_none_iff] at hfirst
    rw [hadd]
    exact h.fill (TableKey.name_ne_empty_of_split hsplit) hfree
      (TableKey.filled_append_of_none hsplit hfirst entry)

theorem mirrored_fold (v : Vocabulary) (entries : List (String × Entry))
    (hnodup : (entries.map Prod.fst).Nodup) :
    Mirrored v entries (entries.foldl (fun t e => t.add v e.1 e.2) empty) := by
  refine (fold_induction (v := v) (P := fun done t => (done.map Prod.fst).Nodup →
    Reflects v done t ∧ Mirrored v done t) ?_ ?_ entries hnodup).2
  · exact fun _ => ⟨reflects_empty v, mirrored_empty v⟩
  · intro done t key entry ih hnodup
    rw [List.map_append, List.nodup_append] at hnodup
    obtain ⟨hdone, -, hapart⟩ := hnodup
    obtain ⟨hreflects, hmirrored⟩ := ih hdone
    have hnew : key ∉ done.map Prod.fst :=
      fun hmem => hapart key hmem key (List.mem_singleton.2 rfl) rfl
    exact ⟨hreflects.add key entry, hmirrored.add hreflects hnew entry⟩

end Table

/-! ## The table of the keys in normal form -/

namespace Table

variable (raw : OrderedMap Entry) (v : Vocabulary)

theorem cells_ofEntries : (ofEntries raw v).cells =
    (TableKey.filled raw.entries).map fun c => ((c.1.1, v.classify c.1.2), c.2) :=
  (mirrored_fold v raw.entries raw.nodup).cells

/-- No cell is filled twice. -/
theorem nodup_filled : ((TableKey.filled raw.entries).map Prod.fst).Nodup := by
  refine List.Nodup.of_map (fun cell => (cell.1, Vocabulary.unknown.classify cell.2)) ?_
  have hcells := (reflects_ofEntries raw .unknown).nodup
  rw [cells_ofEntries, List.map_map] at hcells
  rw [List.map_map]
  exact hcells

/-- No key in normal form is written twice. -/
theorem nodup_rekeyed : ((TableKey.rekeyed raw.entries).map Prod.fst).Nodup := by
  have hkeys : (TableKey.rekeyed raw.entries).map Prod.fst =
      ((TableKey.filled raw.entries).map Prod.fst).map TableKey.ofCell := by
    rw [TableKey.rekeyed, List.map_map, List.map_map]
    rfl
  rw [hkeys]
  exact (nodup_filled raw).map TableKey.ofCell_injective

/-- A map that has no name twice holds what it is made of. -/
theorem entries_rekeyed :
    (OrderedMap.ofList (TableKey.rekeyed raw.entries)).entries = TableKey.rekeyed raw.entries :=
  OrderedMap.entries_insertAll _ .empty (nodup_rekeyed raw)

/-- The entries of a table under the keys in normal form make the same table, and no key is
skipped. -/
theorem ofEntries_rekeyed :
    ofEntries (.ofList (TableKey.rekeyed raw.entries)) v =
      { ofEntries raw v with skipped := [] } := by
  rw [ofEntries, entries_rekeyed, (mirrored_fold v raw.entries raw.nodup).rebuilt]
  rfl

/-- A cell of the table is found in the map under its key in normal form. -/
theorem lookup_eq_lookup_rekeyed (n : StateId) {s : Symbol} (hs : v.classify s.name = s) :
    (ofEntries raw v).lookup n s =
      (TableKey.rekeyed raw.entries).lookup (TableKey.ofCell (n, s.name)) := by
  have hfound := (reflects_ofEntries (.ofList (TableKey.rekeyed raw.entries)) v).found n s.name
  rw [entries_rekeyed, ofEntries_rekeyed, hs] at hfound
  rw [TableKey.rekeyed, TableKey.lookup_ofCell fun c => TableKey.name_ne_empty_of_mem_filled]
  exact hfound

/-- A table keeps what its keys say of its cells and nothing of how they say it.  The entries that
became its cells are those of the first keys for them; written under the keys in normal form, in the
same order, they make a map that has no key twice.  The table of this map has the same states,
terminals, non-terminals and cells and so the same text, and skips no key.  The map has an entry
under the key of a cell exactly when the cell has that entry. -/
theorem ofEntries_canonicalKeys (raw : OrderedMap Entry) (v : Vocabulary) :
    let t := ofEntries raw v
    let canon : OrderedMap Entry := .ofList (TableKey.rekeyed raw.entries)
    let u := ofEntries canon v
    t.cells = (TableKey.filled raw.entries).map (fun c => ((c.1.1, v.classify c.1.2), c.2)) ∧
    canon.entries = (TableKey.filled raw.entries).map
      (fun c => (toString c.1.1.toNat ++ "_" ++ c.1.2, c.2)) ∧
    ((TableKey.rekeyed raw.entries).map Prod.fst).Nodup ∧
    (u.states = t.states ∧ u.terminals = t.terminals ∧ u.nonTerminals = t.nonTerminals ∧
      u.cells = t.cells ∧ u.text = t.text ∧ u.skipped = []) ∧
    ∀ n, ∀ s ∈ t.terminals ++ t.nonTerminals,
      t.lookup n s = canon.entries.lookup (toString n.toNat ++ "_" ++ s.name) := by
  intro t canon u
  have hcanon : canon.entries = TableKey.rekeyed raw.entries := entries_rekeyed raw
  have hu : u = { t with skipped := [] } := ofEntries_rekeyed raw v
  refine ⟨cells_ofEntries raw v, hcanon, nodup_rekeyed raw, ?_, ?_⟩
  · rw [hu]
    exact ⟨rfl, rfl, rfl, rfl, rfl, rfl⟩
  · intro n s hs
    rw [hcanon]
    exact lookup_eq_lookup_rekeyed raw v n (mem_columns_ofEntries.1 hs).1

/-- Keys that are skipped stand between the others, one number has a sign and zeros, and one name
looks like a key. -/
theorem ofEntries_canonicalKeys_of_disorder :
    let raw : OrderedMap Entry := .ofList [("x_a", ⟨.shift, "1"⟩), ("+010_1_A", ⟨.goto, "2"⟩),
      ("2_b", ⟨.shift, "3"⟩), ("10_1_A", ⟨.goto, "4"⟩), ("b", ⟨.accept, ""⟩)]
    let t := ofEntries raw .unknown
    let canon : OrderedMap Entry := .ofList (TableKey.rekeyed raw.entries)
    t.skipped = [("x_a", .noState), ("10_1_A", .duplicate), ("b", .noSeparator)] ∧
    canon.entries = [("10_1_A", ⟨.goto, "2"⟩), ("2_b", ⟨.shift, "3"⟩)] ∧
    (Symbol.nonTerminal "1_A" ∈ t.terminals ++ t.nonTerminals ∧
      t.lookup 10 (.nonTerminal "1_A") =
        canon.entries.lookup (toString (10 : StateId).toNat ++ "_" ++ "1_A")) := by
  intro raw t canon
  have hcolumn : Symbol.nonTerminal "1_A" ∈ t.terminals ++ t.nonTerminals := by decide +kernel
  obtain ⟨-, -, -, -, hlookup⟩ := ofEntries_canonicalKeys raw .unknown
  exact ⟨by decide +kernel, by decide +kernel, hcolumn, hlookup 10 _ hcolumn⟩

end Table

end ParseLens
