import Mathlib.Data.List.ProdSigma
import ParseLens.Proofs.Automaton.Axes

set_option autoImplicit false

/-!
# Automaton: the grid shows every cell

A table is read in two ways: by a symbol, whose kind is part of what is looked for, and by a bare
name, for which the columns are searched first.  Both find the same, since a name has one column at
most and a cell is that of a classified symbol.

The grid of all rows and columns holds every cell once.  That no cell is out of sight is
`Table.mem_axes_of_lookup`; that none is there twice is because rows and columns are distinct.

* `Table.lookupName_ofEntries` compares the two ways to read a table.
* `Table.cells_perm_grid` compares the cells with the places of the grid that have an entry.
* `Table.ofEntries_covered` is the main statement.
-/

namespace ParseLens

/-- An element of a list without repetition has one place in it. -/
theorem existsUnique_getElem? {α : Type} {l : List α} (hnodup : l.Nodup) {a : α} (ha : a ∈ l) :
    ∃! i : Nat, l[i]? = some a := by
  obtain ⟨i, hi⟩ := List.getElem?_of_mem ha
  have hlt : i < l.length := (List.getElem?_eq_some_iff.1 hi).1
  refine ⟨i, hi, ?_⟩
  intro j hj
  exact ((List.getElem?_inj hlt hnodup).1 (hi.trans hj.symm)).symm

namespace Table

/-- The places of the grid, row by row. -/
def grid (t : Table) : List (StateId × Symbol) := t.states.product t.columns

/-! ## Cells and axes -/

section Axes

variable {raw : OrderedMap Entry} {v : Vocabulary} {n : StateId} {s : Symbol}

theorem mem_cells_of_lookup {t : Table} {e : Entry} (h : t.lookup n s = some e) :
    ((n, s), e) ∈ t.cells := by
  obtain ⟨before, after, hcells, -⟩ := List.lookup_eq_some_iff.1 h
  rw [hcells]
  exact List.mem_append_right before List.mem_cons_self

theorem mem_cells_iff {t : Table} :
    (n, s) ∈ t.cells.map Prod.fst ↔ (t.lookup n s).isSome = true := by
  constructor
  · intro hmem
    by_contra hnone
    exact not_mem_cells_of_lookup_eq_none (Option.not_isSome_iff_eq_none.1 hnone) hmem
  · intro hsome
    obtain ⟨e, he⟩ := Option.isSome_iff_exists.1 hsome
    exact List.mem_map_of_mem (mem_cells_of_lookup he)

/-- What is stored for a cell is what is found there, as no cell is stored twice. -/
theorem lookup_of_mem_cells {t : Table} (hnodup : (t.cells.map Prod.fst).Nodup) {e : Entry}
    (h : ((n, s), e) ∈ t.cells) : t.lookup n s = some e := by
  obtain ⟨e', he'⟩ := Option.isSome_iff_exists.1 (mem_cells_iff.1 (List.mem_map_of_mem h))
  have hsame := List.inj_on_of_nodup_map hnodup h (mem_cells_of_lookup he') rfl
  rw [he']
  exact congrArg (fun c => some c.2) hsame.symm

/-- A cell with an entry has a row and a column. -/
theorem mem_axes_of_lookup (hsome : ((ofEntries raw v).lookup n s).isSome = true) :
    n ∈ (ofEntries raw v).states ∧ s ∈ (ofEntries raw v).columns := by
  obtain ⟨e, he⟩ := Option.isSome_iff_exists.1 hsome
  obtain ⟨hs, key, hfirst⟩ := (reflects_ofEntries raw v).lookup_eq_some_iff.1 he
  have hnamed : (n, s.name) ∈ TableKey.named raw.names :=
    TableKey.mem_named.2 (TableKey.isSome_first?_iff.1 (by rw [hfirst]; rfl))
  exact ⟨(mem_states_ofEntries raw v).2 ⟨s.name, hnamed⟩,
    mem_columns_ofEntries.2 ⟨hs, .inr (List.mem_map_of_mem hnamed)⟩⟩

theorem nodup_states_ofEntries : (ofEntries raw v).states.Nodup :=
  (framed_fold v raw.entries).ascending.imp fun h => UInt64.ne_of_lt h

theorem nodup_grid_ofEntries : (ofEntries raw v).grid.Nodup :=
  nodup_states_ofEntries.product nodup_columns_ofEntries

/-- The cells are the places of the grid that have an entry. -/
theorem cells_perm_grid (raw : OrderedMap Entry) (v : Vocabulary) :
    ((ofEntries raw v).cells.map Prod.fst).Perm
      ((ofEntries raw v).grid.filter fun c => ((ofEntries raw v).lookup c.1 c.2).isSome) := by
  refine (List.perm_ext_iff_of_nodup (reflects_ofEntries raw v).nodup
    (nodup_grid_ofEntries.filter _)).2 ?_
  rintro ⟨n, s⟩
  rw [mem_cells_iff, List.mem_filter]
  constructor
  · intro hsome
    exact ⟨List.mem_product.2 (mem_axes_of_lookup hsome), hsome⟩
  · exact And.right

/-! ## Names -/

/-- The column with a name is that of the classified symbol, if it has one. -/
theorem symbol?_ofEntries (raw : OrderedMap Entry) (v : Vocabulary) (name : String) :
    (ofEntries raw v).symbol? name =
      if v.classify name ∈ (ofEntries raw v).columns then some (v.classify name) else none := by
  cases hfind : (ofEntries raw v).symbol? name with
  | none =>
    have hall := List.find?_eq_none.1 hfind
    rw [if_neg fun hmem => hall _ hmem (decide_eq_true rfl)]
  | some s =>
    have hmem : s ∈ (ofEntries raw v).columns := List.mem_of_find?_eq_some hfind
    have hname : s.name = name := by
      unfold symbol? at hfind
      simpa using List.find?_some hfind
    have hs : v.classify name = s := by
      rw [← hname]
      exact (mem_columns_ofEntries.1 hmem).1
    rw [hs, if_pos hmem]

/-- Looking for a name is looking for the symbol that the vocabulary makes of it. -/
theorem lookupName_ofEntries (raw : OrderedMap Entry) (v : Vocabulary) (n : StateId)
    (name : String) :
    (ofEntries raw v).lookupName n name = (ofEntries raw v).lookup n (v.classify name) := by
  rw [lookupName, symbol?_ofEntries]
  by_cases hmem : v.classify name ∈ (ofEntries raw v).columns
  · rw [if_pos hmem]
  · rw [if_neg hmem]
    -- a name without a column has no cell either
    have hnone : ¬ ((ofEntries raw v).lookup n (v.classify name)).isSome = true :=
      fun hsome => hmem (mem_axes_of_lookup hsome).2
    exact (Option.not_isSome_iff_eq_none.1 hnone).symm

/-- A cell with an entry has one place: a row and a column. -/
theorem existsUnique_place (hsome : ((ofEntries raw v).lookup n s).isSome = true) :
    ∃! p : Nat × Nat, (ofEntries raw v).states[p.1]? = some n ∧
      (ofEntries raw v).columns[p.2]? = some s := by
  obtain ⟨hn, hs⟩ := mem_axes_of_lookup hsome
  obtain ⟨i, hi, hiUnique⟩ := existsUnique_getElem? nodup_states_ofEntries hn
  obtain ⟨j, hj, hjUnique⟩ := existsUnique_getElem? nodup_columns_ofEntries hs
  refine ⟨(i, j), ⟨hi, hj⟩, ?_⟩
  rintro ⟨i', j'⟩ ⟨hi', hj'⟩
  rw [hiUnique i' hi', hjUnique j' hj']

end Axes

/-! ## Rows -/

/-- A row has a text for each column. -/
theorem row_eq (t : Table) (n : StateId) : t.row n =
    t.columns.map fun s => ((t.lookup n s).map Entry.text).getD "-" := by
  refine List.map_congr_left fun s _ => ?_
  rw [cellText]
  cases t.lookup n s <;> rfl

/-- In the table of a map, looking for a name is looking for the symbol that the vocabulary makes of
it, whether the table has seen that name and state or not.  Every cell that is stored is found, and
has exactly one place in the grid, so the grid has as many places with an entry as there are cells.
A row shows in each column the entry of its cell, or that there is none. -/
theorem ofEntries_covered (raw : OrderedMap Entry) (v : Vocabulary) :
    let t := ofEntries raw v
    let columns := t.terminals ++ t.nonTerminals
    (∀ n name, t.lookupName n name = t.lookup n (v.classify name)) ∧
    (∀ n s e, ((n, s), e) ∈ t.cells → t.lookup n s = some e ∧
      ∃! p : Nat × Nat, t.states[p.1]? = some n ∧ columns[p.2]? = some s) ∧
    ((t.states.product columns).filter fun c => (t.lookup c.1 c.2).isSome).length =
      t.cells.length ∧
    ∀ n, t.row n = columns.map fun s => ((t.lookup n s).map Entry.text).getD "-" := by
  intro t columns
  refine ⟨lookupName_ofEntries raw v, ?_, ?_, t.row_eq⟩
  · intro n s e hcell
    have hlookup := lookup_of_mem_cells (reflects_ofEntries raw v).nodup hcell
    exact ⟨hlookup, existsUnique_place (mem_cells_iff.1 (List.mem_map_of_mem hcell))⟩
  · have hlength : (t.cells.map Prod.fst).length = t.cells.length := List.length_map Prod.fst
    rw [← hlength]
    exact (cells_perm_grid raw v).length_eq.symm

/-- A number with a zero in front of it is found under the number itself. -/
theorem ofEntries_covered_of_zero_in_front :
    let e : Entry := ⟨.goto, "4"⟩
    let raw : OrderedMap Entry := .ofList [("07_A", e), ("7_a_b", e), ("7_A", e)]
    let t := ofEntries raw .unknown
    ((7, Symbol.nonTerminal "A"), e) ∈ t.cells ∧ t.lookup 7 (.nonTerminal "A") = some e ∧
      ∃! p : Nat × Nat, t.states[p.1]? = some 7 ∧
        (t.terminals ++ t.nonTerminals)[p.2]? = some (.nonTerminal "A") := by
  intro e raw t
  have hcell : ((7, Symbol.nonTerminal "A"), e) ∈ t.cells := by decide +kernel
  obtain ⟨-, hfound, -⟩ := ofEntries_covered raw .unknown
  exact ⟨hcell, hfound 7 _ e hcell⟩

end Table

end ParseLens
