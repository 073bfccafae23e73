import Mathlib.Data.List.Nodup
import ParseLens.Proofs.Automaton.FirstKey

set_option autoImplicit false

/-!
# Automaton: the axes of a table

A table has a row for each state and a column for each symbol that some key names, and no other row
or column but that of the end marker.  Rows ascend; columns stand in the order in which the keys
first name them, the terminals apart from the others.  No name has two columns, since the kind of
a symbol depends on its name alone, and the end marker is a terminal in every vocabulary.

A key that is skipped because its cell has an entry adds no row and no column.  It need not be
treated apart in the statements, because its state and its symbol were named by the key before it.

* `Table.Framed` is the invariant over the keys taken in so far.
* `Table.ofEntries_axes` is the main statement.
-/

namespace ParseLens

/-! ## Lists without repetition -/

section Lists

variable {α : Type} [BEq α] [LawfulBEq α]

/-- One more element stays at the end, unless it is there already. -/
theorem eraseDups_append_singleton (l : List α) (a : α) :
    (l ++ [a]).eraseDups = if l.contains a then l.eraseDups else l.eraseDups ++ [a] := by
  rw [List.eraseDups_append]
  by_cases h : l.contains a = true
  · have hnone : [a].removeAll l = [] := by simp [List.removeAll, List.contains_iff_mem.1 h]
    simp [hnone, List.contains_iff_mem.1 h]
  · have hmem : a ∉ l := fun hmem => h (List.contains_iff_mem.2 hmem)
    have hself : [a].removeAll l = [a] := by simp [List.removeAll, hmem]
    simp [hself, hmem, List.eraseDups_cons]

theorem nodup_eraseDups (l : List α) : l.eraseDups.Nodup := by
  induction l using List.reverseRecOn with
  | nil => simp
  | append_singleton l a ih =>
    rw [eraseDups_append_singleton]
    split
    · exact ih
    · rename_i h
      refine List.nodup_append.2 ⟨ih, by simp, ?_⟩
      intro b hb c hc hbc
      rw [hbc, List.mem_singleton.1 hc, List.mem_eraseDups] at hb
      exact h (List.contains_iff_mem.2 hb)

end Lists

/-- Putting a number into an ascending list leaves it ascending. -/
theorem ascending_insertState {l : List StateId} (h : l.Pairwise (· < ·)) (n : StateId) :
    (insertState n l).Pairwise (· < ·) := by
  induction l with
  | nil => simp [insertState]
  | cons m l ih =>
    obtain ⟨hm, hl⟩ := List.pairwise_cons.1 h
    unfold insertState
    split
    · rename_i hlt
      refine List.pairwise_cons.2 ⟨?_, h⟩
      intro k hk
      rcases List.mem_cons.1 hk with rfl | hk
      · exact hlt
      · exact UInt64.lt_trans hlt (hm k hk)
    · split
      · exact h
      · rename_i hlt hne
        refine List.pairwise_cons.2 ⟨?_, ih hl⟩
        intro k hk
        rcases mem_insertState.1 hk with rfl | hk
        · exact UInt64.lt_of_le_of_ne (UInt64.not_lt.1 hlt) fun e => hne e.symm
        · exact hm k hk

/-- Adding a symbol to the first occurrences in a list gives those in the longer list. -/
theorem addSymbol_eraseDups (s : Symbol) (l : List Symbol) :
    addSymbol s l.eraseDups = (l ++ [s]).eraseDups := by
  rw [eraseDups_append_singleton]
  by_cases h : s ∈ l <;> simp [addSymbol, h]

theorem eraseDups_filter_append_singleton (p : Symbol → Bool) (l : List Symbol) (s : Symbol) :
    ((l ++ [s]).filter p).eraseDups =
      if p s then addSymbol s (l.filter p).eraseDups else (l.filter p).eraseDups := by
  rw [List.filter_append, addSymbol_eraseDups]
  cases hp : p s <;> simp [hp]

theorem eraseDups_filter_append_of_mem (p : Symbol → Bool) {l : List Symbol} {s : Symbol}
    (h : s ∈ l) : ((l ++ [s]).filter p).eraseDups = (l.filter p).eraseDups := by
  rw [eraseDups_filter_append_singleton]
  split
  · rename_i hp
    have hmem : s ∈ (l.filter p).eraseDups := List.mem_eraseDups.2 (List.mem_filter.2 ⟨h, hp⟩)
    rw [addSymbol, if_pos hmem]
  · rfl

/-! ## Named cells -/

/-- The cells that keys name, in the order of the keys. -/
def TableKey.named (keys : List String) : List (StateId × String) :=
  keys.filterMap fun key => (split key).toOption

namespace TableKey

theorem mem_named {keys : List String} {cell : StateId × String} :
    cell ∈ named keys ↔ ∃ key ∈ keys, split key = .ok cell := by
  simp only [named, List.mem_filterMap]
  refine exists_congr fun key => and_congr_right fun _ => ?_
  cases split key <;> simp [Except.toOption]

variable {key : String}

theorem named_append_of_error {flaw : Flaw} (h : split key = .error flaw)
    (done : List (String × Entry)) (entry : Entry) :
    named ((done ++ [(key, entry)]).map Prod.fst) = named (done.map Prod.fst) := by
  simp [named, h, Except.toOption]

theorem named_append_of_ok {cell : StateId × String} (h : split key = .ok cell)
    (done : List (String × Entry)) (entry : Entry) :
    named ((done ++ [(key, entry)]).map Prod.fst) = named (done.map Prod.fst) ++ [cell] := by
  simp [named, h, Except.toOption]

end TableKey

namespace Vocabulary

/-- The symbols of some cells, in the order of the cells. -/
def symbolsOf (v : Vocabulary) (cells : List (StateId × String)) : List Symbol :=
  cells.map fun cell => v.classify cell.2

@[simp] theorem symbolsOf_append (v : Vocabulary) (cells : List (StateId × String))
    (cell : StateId × String) :
    v.symbolsOf (cells ++ [cell]) = v.symbolsOf cells ++ [v.classify cell.2] := by
  simp [symbolsOf]

end Vocabulary

/-! ## The invariant -/

namespace Table

variable {v : Vocabulary} {t : Table} {done : List (String × Entry)} {key : String}

/-- The rows and columns of `t` are those that the keys of `done` name. -/
structure Framed (v : Vocabulary) (done : List (String × Entry)) (t : Table) : Prop where
  ascending : t.states.Pairwise (· < ·)
  states : ∀ n, n ∈ t.states ↔ ∃ name, (n, name) ∈ TableKey.named (done.map Prod.fst)
  /-- Terminals stand in the order in which they are first named. -/
  terminals : t.terminals =
    ((v.symbolsOf (TableKey.named (done.map Prod.fst))).filter Symbol.isTerminal).eraseDups
  /-- So do the other symbols. -/
  nonTerminals : t.nonTerminals =
    ((v.symbolsOf (TableKey.named (done.map Prod.fst))).filter fun s => !s.isTerminal).eraseDups

theorem framed_empty (v : Vocabulary) : Framed v [] empty where
  ascending := List.Pairwise.nil
  states n := by simp [empty, TableKey.named]
  terminals := rfl
  nonTerminals := rfl

/-- A key that names no cell adds nothing. -/
theorem Framed.skip_of_error (h : Framed v done t) {flaw : TableKey.Flaw}
    (hsplit : TableKey.split key = .error flaw) (entry : Entry) :
    Framed v (done ++ [(key, entry)]) (t.skip key flaw) := by
  have hnamed := TableKey.named_append_of_error hsplit done entry
  exact ⟨h.ascending, by rw [hnamed]; exact h.states, by rw [hnamed]; exact h.terminals,
    by rw [hnamed]; exact h.nonTerminals⟩

/-- A key for a cell that was named before adds nothing either. -/
theorem Framed.skip_of_named (h : Framed v done t) {cell : StateId × String}
    (hsplit : TableKey.split key = .ok cell)
    (hbefore : cell ∈ TableKey.named (done.map Prod.fst)) (entry : Entry) :
    Framed v (done ++ [(key, entry)]) (t.skip key .duplicate) := by
  have hnamed := TableKey.named_append_of_ok hsplit done entry
  have hsymbol : v.classify cell.2 ∈ v.symbolsOf (TableKey.named (done.map Prod.fst)) :=
    List.mem_map_of_mem hbefore
  refine ⟨h.ascending, ?_, ?_, ?_⟩
  · intro n
    rw [hnamed, skip, h.states]
    refine exists_congr fun name => ?_
    rw [List.mem_append, List.mem_singleton]
    exact ⟨.inl, fun hmem => hmem.elim id fun e => e ▸ hbefore⟩
  · rw [hnamed, Vocabulary.symbolsOf_append, eraseDups_filter_append_of_mem _ hsymbol]
    exact h.terminals
  · rw [hnamed, Vocabulary.symbolsOf_append, eraseDups_filter_append_of_mem _ hsymbol]
    exact h.nonTerminals

/-- A key that fills its cell adds its state and its symbol. -/
theorem Framed.fill (h : Framed v done t) {n : StateId} {name : String}
    (hsplit : TableKey.split key = .ok (n, name)) (entry : Entry) :
    Framed v (done ++ [(key, entry)]) (t.fill n (v.classify name) entry) := by
  have hnamed := TableKey.named_append_of_ok hsplit done entry
  refine ⟨ascending_insertState h.ascending n, ?_, ?_, ?_⟩
  · intro m
    simp only [hnamed, Table.fill, mem_insertState, h.states, List.mem_append,
      List.mem_singleton, Prod.mk.injEq, exists_or, exists_and_left, exists_eq, and_true]
    exact or_comm
  · rw [hnamed, Vocabulary.symbolsOf_append, eraseDups_filter_append_singleton, ← h.terminals]
    rfl
  · rw [hnamed, Vocabulary.symbolsOf_append, eraseDups_filter_append_singleton, ← h.nonTerminals]
    simp only [Table.fill]
    cases (v.classify name).isTerminal <;> rfl

/-- Taking in one more key. -/
theorem Framed.add (h : Framed v done t) (hreflects : Reflects v done t) (key : String)
    (entry : Entry) : Framed v (done ++ [(key, entry)]) (t.add v key entry) := by
  rcases add_cases v t key entry with ⟨flaw, hsplit, hadd⟩ | ⟨n, name, hsplit, hfilled, hadd⟩ |
    ⟨n, name, hsplit, -, hadd⟩
  · rw [hadd]
    exact h.skip_of_error hsplit entry
  · -- the cell has an entry, so a key before this one named it
    rw [hreflects.found, Option.isSome_map, TableKey.isSome_first?_iff] at hfilled
    rw [hadd]
    exact h.skip_of_named hsplit (TableKey.mem_named.2 hfilled) entry
  · rw [hadd]
    exact h.fill hsplit entry

theorem framed_fold (v : Vocabulary) (entries : List (String × Entry)) :
    Framed v entries (entries.foldl (fun t e => t.add v e.1 e.2) empty) := by
  have h := fold_induction (P := fun done t => Reflects v done t ∧ Framed v done t)
    ⟨reflects_empty v, framed_empty v⟩
    (fun _ _ key entry h => ⟨h.1.add key entry, h.2.add h.1 key entry⟩) entries
  exact h.2

end Table

/-! ## The axes of the table of a map -/

namespace Vocabulary

variable {v : Vocabulary} {s : Symbol}

theorem mem_symbolsOf {cells : List (StateId × String)} :
    s ∈ v.symbolsOf cells ↔ v.classify s.name = s ∧ s.name ∈ cells.map Prod.snd := by
  constructor
  · intro hs
    obtain ⟨cell, hcell, rfl⟩ := List.mem_map.1 hs
    exact ⟨rfl, List.mem_map_of_mem hcell⟩
  · rintro ⟨hs, hname⟩
    obtain ⟨cell, hcell, hcellName⟩ := List.mem_map.1 hname
    exact List.mem_map.2 ⟨cell, hcell, by rw [hcellName, hs]⟩

/-- The end marker is a terminal in every vocabulary. -/
theorem classify_endMarker (v : Vocabulary) : v.classify endMarker = .terminal endMarker := by
  simp [classify, Symbol.terminal]

end Vocabulary

namespace Table

variable (raw : OrderedMap Entry) (v : Vocabulary)

theorem mem_states_ofEntries {n : StateId} : n ∈ (ofEntries raw v).states ↔
    ∃ name, (n, name) ∈ TableKey.named raw.names :=
  (framed_fold v raw.entries).states n

theorem terminals_ofEntries : (ofEntries raw v).terminals =
    ((v.symbolsOf (TableKey.named raw.names)).filter Symbol.isTerminal ++
      [Symbol.terminal endMarker]).eraseDups := by
  have hfold := (framed_fold v raw.entries).terminals
  rw [← addSymbol_eraseDups]
  exact congrArg (addSymbol (.terminal endMarker)) hfold

/-- The end marker stands last, unless some key names it. -/
theorem terminals_ofEntries_eq_append : (ofEntries raw v).terminals =
    ((v.symbolsOf (TableKey.named raw.names)).filter Symbol.isTerminal).eraseDups ++
      if endMarker ∈ (TableKey.named raw.names).map Prod.snd then []
      else [.terminal endMarker] := by
  have hmarker : Symbol.terminal endMarker ∈
      (v.symbolsOf (TableKey.named raw.names)).filter Symbol.isTerminal ↔
        endMarker ∈ (TableKey.named raw.names).map Prod.snd := by
    rw [List.mem_filter, Vocabulary.mem_symbolsOf]
    simp [v.classify_endMarker, Symbol.terminal, Symbol.isTerminal]
  rw [terminals_ofEntries, eraseDups_append_singleton]
  simp only [List.contains_iff_mem, hmarker]
  split <;> simp

theorem nonTerminals_ofEntries : (ofEntries raw v).nonTerminals =
    ((v.symbolsOf (TableKey.named raw.names)).filter fun s => !s.isTerminal).eraseDups :=
  (framed_fold v raw.entries).nonTerminals

variable {raw v} {s : Symbol}

theorem mem_terminals_ofEntries : s ∈ (ofEntries raw v).terminals ↔
    v.classify s.name = s ∧ s.kind = .terminal ∧
      (s.name = endMarker ∨ s.name ∈ (TableKey.named raw.names).map Prod.snd) := by
  rw [terminals_ofEntries, List.mem_eraseDups, List.mem_append, List.mem_filter,
    Vocabulary.mem_symbolsOf, Symbol.isTerminal, decide_eq_true_iff, List.mem_singleton]
  constructor
  · rintro (⟨⟨hs, hname⟩, hkind⟩ | rfl)
    · exact ⟨hs, hkind, .inr hname⟩
    · exact ⟨v.classify_endMarker, rfl, .inl rfl⟩
  · rintro ⟨hs, hkind, hmarker | hname⟩
    · exact .inr (by rw [← hs, hmarker, v.classify_endMarker])
    · exact .inl ⟨⟨hs, hname⟩, hkind⟩

theorem mem_nonTerminals_ofEntries : s ∈ (ofEntries raw v).nonTerminals ↔
    v.classify s.name = s ∧ s.kind = .nonTerminal ∧
      s.name ∈ (TableKey.named raw.names).map Prod.snd := by
  have hkind : (!s.isTerminal) = true ↔ s.kind = .nonTerminal := by
    cases h : s.kind <;> simp [Symbol.isTerminal, h]
  rw [nonTerminals_ofEntries, List.mem_eraseDups, List.mem_filter, Vocabulary.mem_symbolsOf, hkind]
  exact and_assoc.trans (and_congr_right fun _ => and_comm)

/-- The columns are those of the symbols that some key names, and that of the end marker. -/
theorem mem_columns_ofEntries : s ∈ (ofEntries raw v).columns ↔
    v.classify s.name = s ∧
      (s.name = endMarker ∨ s.name ∈ (TableKey.named raw.names).map Prod.snd) := by
  rw [columns, List.mem_append, mem_terminals_ofEntries, mem_nonTerminals_ofEntries]
  constructor
  · rintro (⟨hs, -, hname⟩ | ⟨hs, -, hname⟩)
    · exact ⟨hs, hname⟩
    · exact ⟨hs, .inr hname⟩
  · rintro ⟨hs, hname⟩
    cases hkind : s.kind with
    | terminal => exact .inl ⟨hs, rfl, hname⟩
    | nonTerminal =>
      have hother : s.name ≠ endMarker := by
        intro hmarker
        rw [← hs, hmarker, v.classify_endMarker] at hkind
        simp [Symbol.terminal] at hkind
      exact .inr ⟨hs, rfl, hname.resolve_left hother⟩

theorem nodup_terminals_ofEntries : (ofEntries raw v).terminals.Nodup := by
  rw [terminals_ofEntries]
  exact nodup_eraseDups _

theorem nodup_nonTerminals_ofEntries : (ofEntries raw v).nonTerminals.Nodup := by
  rw [nonTerminals_ofEntries]
  exact nodup_eraseDups _

theorem nodup_columns_ofEntries : (ofEntries raw v).columns.Nodup := by
  refine List.nodup_append.2 ⟨nodup_terminals_ofEntries, nodup_nonTerminals_ofEntries, ?_⟩
  rintro s hs u hu rfl
  have hterminal := (mem_terminals_ofEntries.1 hs).2.1
  have hnonTerminal := (mem_nonTerminals_ofEntries.1 hu).2.1
  simp [hterminal] at hnonTerminal

/-- No name has two columns, of one kind or of both. -/
theorem nodup_names_columns_ofEntries :
    ((ofEntries raw v).columns.map Symbol.name).Nodup := by
  refine List.Nodup.map_on ?_ nodup_columns_ofEntries
  intro s hs u hu hname
  rw [← (mem_columns_ofEntries.1 hs).1, ← (mem_columns_ofEntries.1 hu).1, hname]

theorem mem_names_columns_ofEntries {name : String} :
    name ∈ (ofEntries raw v).columns.map Symbol.name ↔
      name = endMarker ∨ name ∈ (TableKey.named raw.names).map Prod.snd := by
  constructor
  · intro hname
    obtain ⟨s, hs, rfl⟩ := List.mem_map.1 hname
    exact (mem_columns_ofEntries.1 hs).2
  · intro hname
    exact List.mem_map.2 ⟨v.classify name, mem_columns_ofEntries.2 ⟨rfl, hname⟩, rfl⟩

/-- The states ascend and are those that some key names.  No symbol has two columns and no name two
kinds; every column stands among those of its own kind.  The end marker has exactly one column, a
terminal.  The names of the columns are those that some key names, and the end marker; the columns
of a kind stand in the order in which the keys first name them, and the end marker behind the other
terminals if no key names it. -/
theorem ofEntries_axes (raw : OrderedMap Entry) (v : Vocabulary) :
    let t := ofEntries raw v
    let cells := TableKey.named raw.names
    (t.states.Pairwise (· < ·) ∧
      ∀ n, n ∈ t.states ↔ ∃ key ∈ raw.names, ∃ name, TableKey.split key = .ok (n, name)) ∧
    (t.terminals.Nodup ∧ ∀ s ∈ t.terminals, s.kind = .terminal) ∧
    (t.nonTerminals.Nodup ∧ ∀ s ∈ t.nonTerminals, s.kind = .nonTerminal) ∧
    (∀ name ∈ t.terminals.map Symbol.name, name ∉ t.nonTerminals.map Symbol.name) ∧
    ((t.terminals.map Symbol.name).count endMarker = 1 ∧
      endMarker ∉ t.nonTerminals.map Symbol.name) ∧
    (∀ name, name ∈ (t.terminals ++ t.nonTerminals).map Symbol.name ↔
      name = endMarker ∨ ∃ key ∈ raw.names, ∃ n, TableKey.split key = .ok (n, name)) ∧
    t.terminals = ((cells.map fun c => v.classify c.2).filter Symbol.isTerminal).eraseDups ++
      (if endMarker ∈ cells.map Prod.snd then [] else [.terminal endMarker]) ∧
    t.nonTerminals =
      ((cells.map fun c => v.classify c.2).filter fun s => !s.isTerminal).eraseDups := by
  intro t cells
  have hnames : ((t.terminals.map Symbol.name) ++ (t.nonTerminals.map Symbol.name)).Nodup := by
    rw [← List.map_append]
    exact nodup_names_columns_ofEntries
  obtain ⟨hterminals, -, hdisjoint⟩ := List.nodup_append.1 hnames
  have hmarker : Symbol.terminal endMarker ∈ t.terminals :=
    endMarker_mem_terminals_close _
  have hmarkerName : endMarker ∈ t.terminals.map Symbol.name :=
    List.mem_map.2 ⟨_, hmarker, rfl⟩
  refine ⟨⟨(framed_fold v raw.entries).ascending, ?_⟩, ⟨nodup_terminals_ofEntries, ?_⟩,
    ⟨nodup_nonTerminals_ofEntries, ?_⟩, ?_, ⟨?_, ?_⟩, ?_, terminals_ofEntries_eq_append raw v,
    nonTerminals_ofEntries raw v⟩
  · intro n
    rw [mem_states_ofEntries]
    simp only [TableKey.mem_named]
    exact ⟨fun ⟨name, key, hkey, h⟩ => ⟨key, hkey, name, h⟩,
      fun ⟨key, hkey, name, h⟩ => ⟨name, key, hkey, h⟩⟩
  · exact fun s hs => (mem_terminals_ofEntries.1 hs).2.1
  · exact fun s hs => (mem_nonTerminals_ofEntries.1 hs).2.1
  · exact fun name hname hother => hdisjoint name hname name hother rfl
  · exact List.count_eq_one_of_mem hterminals hmarkerName
  · exact fun hother => hdisjoint endMarker hmarkerName endMarker hother rfl
  · intro name
    refine mem_names_columns_ofEntries.trans (or_congr_right ?_)
    simp only [List.mem_map, TableKey.mem_named, Prod.exists]
    constructor
    · rintro ⟨n, _, ⟨key, hkey, h⟩, rfl⟩
      exact ⟨key, hkey, n, h⟩
    · rintro ⟨key, hkey, n, h⟩
      exact ⟨n, name, ⟨key, hkey, h⟩, rfl⟩

/-- The grammar defines the end marker, and still the end marker is a terminal and stands last; a
number with a zero in front of it adds no row. -/
theorem ofEntries_axes_of_marker_defined :
    let e : Entry := ⟨.shift, "1"⟩
    let raw : OrderedMap Entry := .ofList [("10_A", e), ("bogus", e), ("2_b", e), ("010_A", e)]
    let v := Vocabulary.ofGrammar ⟨.ofList [("$", ["b"]), ("A", ["b $"])], "A"⟩
    let t := ofEntries raw v
    t.states = [2, 10] ∧ t.terminals = [.terminal "b", .terminal endMarker] ∧
    (Symbol.terminal endMarker ∈ t.terminals ∧ (Symbol.terminal endMarker).kind = .terminal) ∧
    (Symbol.nonTerminal "A" ∈ t.nonTerminals ∧ (Symbol.nonTerminal "A").kind = .nonTerminal) ∧
    "b" ∈ t.terminals.map Symbol.name ∧ "b" ∉ t.nonTerminals.map Symbol.name := by
  intro e raw v t
  have hstates : t.states = [2, 10] := by decide +kernel
  have hterminals : t.terminals = [.terminal "b", .terminal endMarker] := by decide +kernel
  have hmarker : Symbol.terminal endMarker ∈ t.terminals := by simp [hterminals]
  have hA : Symbol.nonTerminal "A" ∈ t.nonTerminals := by decide +kernel
  have hb : "b" ∈ t.terminals.map Symbol.name := by simp [hterminals, Symbol.terminal]
  obtain ⟨-, ⟨-, hkind⟩, ⟨-, hkind'⟩, hapart, -⟩ := ofEntries_axes raw v
  exact ⟨hstates, hterminals, ⟨hmarker, hkind _ hmarker⟩, ⟨hA, hkind' _ hA⟩, hb, hapart "b" hb⟩

end Table

end ParseLens
