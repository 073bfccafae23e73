import Mathlib.Data.List.Perm.Basic
import ParseLens.Grammar.Vocabulary
import ParseLens.Proofs.Text.Words

set_option autoImplicit false

/-!
# Grammar: what decides the kind of a name

The marker of the end is a terminal.  Any other name that a grammar defines is a non-terminal, also
if it occurs in alternatives; any other name that occurs in them is a terminal; and only a name that
the grammar says nothing of is judged by its letters.  So of a grammar two things count, which names
it defines and which occur in its alternatives, and neither depends on how the grammar is laid out.

* `Grammar.Mentions` and `Grammar.Rearranged` say what a grammar shows and what is a matter of
  layout, without cutting texts into words.
* `Vocabulary.kindOf_eq_nonTerminal_iff` is the rule, and `Vocabulary.kindOf_congr` says that nothing
  else counts.
* `Vocabulary.kindOf_ofGrammar` is the main statement.
-/

namespace ParseLens

/-! ## Lists in another order -/

section UpToOrder

variable {α : Type} {r : α → α → Prop} {l l' : List α}

/-- The elements of two lists correspond to each other, in whatever order they stand. -/
def UpToOrder (r : α → α → Prop) (l l' : List α) : Prop :=
  ∃ m, l.Perm m ∧ List.Forall₂ r m l'

theorem exists_of_mem_forall₂ {m : List α} (h : List.Forall₂ r m l') :
    ∀ a ∈ m, ∃ b ∈ l', r a b := by
  induction h with
  | nil => simp
  | cons hr _ ih =>
    refine List.forall_mem_cons.2 ⟨⟨_, List.mem_cons_self, hr⟩, fun a ha => ?_⟩
    obtain ⟨b, hb, hab⟩ := ih a ha
    exact ⟨b, List.mem_cons_of_mem _ hb, hab⟩

theorem UpToOrder.exists_of_mem (h : UpToOrder r l l') {a : α} (ha : a ∈ l) : ∃ b ∈ l', r a b := by
  obtain ⟨m, hperm, hforall⟩ := h
  exact exists_of_mem_forall₂ hforall a (hperm.mem_iff.1 ha)

theorem UpToOrder.symm (hr : ∀ a b, r a b → r b a) (h : UpToOrder r l l') : UpToOrder r l' l := by
  obtain ⟨m, hperm, hforall⟩ := h
  obtain ⟨k, hforall', hperm'⟩ := List.perm_comp_forall₂ hperm hforall
  exact ⟨k, hperm'.symm, .flip (hforall'.imp hr)⟩

end UpToOrder

/-! ## What a grammar shows -/

namespace Text

/-- Two texts that show the same words. -/
def SameWords (s t : String) : Prop := ∃ ws, Spaced ws s.toList ∧ Spaced ws t.toList

theorem sameWords_iff {s t : String} : SameWords s t ↔ wordsOf s.toList = wordsOf t.toList := by
  constructor
  · rintro ⟨ws, hs, ht⟩
    exact hs.wordsOf_eq.trans ht.wordsOf_eq.symm
  · intro h
    exact ⟨_, spaced_wordsOf s.toList, wordsOf_eq_iff_spaced.1 h.symm⟩

theorem SameWords.symm {s t : String} (h : SameWords s t) : SameWords t s :=
  sameWords_iff.2 (sameWords_iff.1 h).symm

theorem mem_words_iff {name text : String} :
    name ∈ words text ↔ ∃ ws, Spaced ws text.toList ∧ name.toList ∈ ws := by
  constructor
  · intro h
    exact ⟨_, spaced_words text, List.mem_map_of_mem h⟩
  · rintro ⟨ws, hspaced, hmem⟩
    rw [words, hspaced.wordsOf_eq]
    exact List.mem_map.2 ⟨_, hmem, String.ofList_toList⟩

end Text

namespace Grammar

/-- Whether one of the alternatives shows the given name. -/
def Mentions (g : Grammar) (name : String) : Prop :=
  ∃ body ∈ g.bodies, ∃ ws, Text.Spaced ws body.toList ∧ name.toList ∈ ws

/-- A grammar with the same productions in whatever order, each with the same alternatives in
whatever order and with whatever white space between the symbols; the start symbol is free. -/
def Rearranged (g g' : Grammar) : Prop :=
  UpToOrder (fun e e' => e.1 = e'.1 ∧ UpToOrder Text.SameWords e.2 e'.2)
    g.productions.entries g'.productions.entries

variable {g g' : Grammar} {name : String}

theorem Rearranged.symm (h : g.Rearranged g') : g'.Rearranged g := by
  refine UpToOrder.symm ?_ h
  rintro e e' ⟨hname, hbodies⟩
  exact ⟨hname.symm, hbodies.symm fun _ _ => Text.SameWords.symm⟩

theorem Rearranged.mem_names (h : g.Rearranged g') (hname : name ∈ g.productions.names) :
    name ∈ g'.productions.names := by
  obtain ⟨e, he, rfl⟩ := List.mem_map.1 hname
  obtain ⟨e', he', hsame, -⟩ := h.exists_of_mem he
  rw [hsame]
  exact List.mem_map_of_mem he'

theorem Rearranged.mentions (h : g.Rearranged g') (hname : g.Mentions name) :
    g'.Mentions name := by
  obtain ⟨body, hbody, ws, hspaced, hmem⟩ := hname
  obtain ⟨alternatives, halternatives, hbody⟩ := mem_bodies.1 hbody
  obtain ⟨e, he, rfl⟩ := List.mem_map.1 halternatives
  obtain ⟨e', he', -, hbodies⟩ := h.exists_of_mem he
  obtain ⟨body', hbody', ws', hspaced', hspaced''⟩ := hbodies.exists_of_mem hbody
  -- a text shows its words and no others
  have hws : ws = ws' := hspaced.wordsOf_eq.symm.trans hspaced'.wordsOf_eq
  rw [hws] at hmem
  exact ⟨body', mem_bodies.2 ⟨e'.2, List.mem_map_of_mem he', hbody'⟩, ws', hspaced'', hmem⟩

end Grammar

/-! ## Kinds -/

theorem SymbolKind.eq_of_nonTerminal_iff {k k' : SymbolKind}
    (h : k = .nonTerminal ↔ k' = .nonTerminal) : k = k' := by
  cases k <;> cases k' <;> simp at h ⊢

namespace Vocabulary

open Grammar (Rearranged)

variable {g g' : Grammar} {name : String}

theorem mem_terminals_iff :
    name ∈ (ofGrammar g).terminals ↔ g.Mentions name ∧ name ∉ g.productions.names := by
  simp only [mem_terminals_ofGrammar, Text.mem_words_iff]
  rfl

/-- The rule for the kind of a name. -/
theorem kindOf_eq_nonTerminal_iff : (ofGrammar g).kindOf name = .nonTerminal ↔
    name ≠ endMarker ∧ (name ∈ g.productions.names ∨
      (¬ g.Mentions name ∧ looksLikeNonTerminal name = true)) := by
  have hdefined : name ∈ (ofGrammar g).nonTerminals ↔ name ∈ g.productions.names := Iff.rfl
  -- the condition becomes one that no function decides
  classical
  simp only [kindOf, mem_terminals_iff, hdefined]
  by_cases hend : name = endMarker
  · simp [hend]
  · by_cases hname : name ∈ g.productions.names
    · simp [hend, hname]
    · by_cases hmentions : g.Mentions name <;> simp [hend, hname, hmentions]

/-- Kinds depend on the names that are defined and on those that occur, and on nothing else. -/
theorem kindOf_congr (hnames : name ∈ g.productions.names ↔ name ∈ g'.productions.names)
    (hmentions : g.Mentions name ↔ g'.Mentions name) :
    (ofGrammar g).kindOf name = (ofGrammar g').kindOf name := by
  refine SymbolKind.eq_of_nonTerminal_iff ?_
  rw [kindOf_eq_nonTerminal_iff, kindOf_eq_nonTerminal_iff, hnames, hmentions]

theorem kindOf_of_rearranged (h : g.Rearranged g') (name : String) :
    (ofGrammar g).kindOf name = (ofGrammar g').kindOf name :=
  kindOf_congr ⟨h.mem_names, h.symm.mem_names⟩ ⟨h.mentions, h.symm.mentions⟩

/-- For every grammar, checked or not, and every name: the name is that of a non-terminal exactly if
it is not the marker of the end and either the grammar defines it, or none of the alternatives shows
it and its letters, of which there is at least one, are all capitals.  So the letters of a name that
the grammar mentions count for nothing, and only whether the name is defined does.  Kinds do not
depend on the order of the productions, on that of alternatives, nor on the white space in them. -/
theorem kindOf_ofGrammar (g : Grammar) (name : String) :
    ((ofGrammar g).kindOf name = .nonTerminal ↔ name ≠ "$" ∧ (name ∈ g.productions.names ∨
      (¬ g.Mentions name ∧ looksLikeNonTerminal name = true))) ∧
    (looksLikeNonTerminal name = true ↔ (∃ c ∈ name.toList, Text.isAlphabetic c = true) ∧
      ∀ c ∈ name.toList, Text.isAlphabetic c = true → Text.isUppercase c = true) ∧
    (name ≠ "$" → name ∈ g.productions.names ∨ g.Mentions name →
      ((ofGrammar g).kindOf name = .nonTerminal ↔ name ∈ g.productions.names)) ∧
    ∀ g' : Grammar, g.Rearranged g' → (ofGrammar g').kindOf name = (ofGrammar g).kindOf name := by
  refine ⟨kindOf_eq_nonTerminal_iff, looksLikeNonTerminal_iff, ?_, ?_⟩
  · intro hend hknown
    rw [kindOf_eq_nonTerminal_iff]
    constructor
    · rintro ⟨-, hname | ⟨hunmentioned, -⟩⟩
      · exact hname
      · exact hknown.resolve_right hunmentioned
    · intro hname
      exact ⟨hend, .inl hname⟩
  · intro g' h
    exact (kindOf_of_rearranged h name).symm

/-- Names against the custom, `expr` and `PLUS`, in a grammar whose productions and alternatives are
then put into another order, with other white space. -/
theorem kindOf_ofGrammar_of_custom_broken :
    let g : Grammar :=
      ⟨.ofList [("expr", ["expr PLUS term", "term"]), ("term", ["ID"])], "expr"⟩
    let g' : Grammar :=
      ⟨.ofList [("term", ["\u3000ID\t"]), ("expr", ["term ", "expr  PLUS\nterm"])], "term"⟩
    ("expr" ≠ "$" ∧ "expr" ∈ g.productions.names ∧ (ofGrammar g).kindOf "expr" = .nonTerminal) ∧
    ("PLUS" ≠ "$" ∧ g.Mentions "PLUS" ∧ (ofGrammar g).kindOf "PLUS" ≠ .nonTerminal) ∧
    (g.Rearranged g' ∧ (ofGrammar g').kindOf "PLUS" = (ofGrammar g).kindOf "PLUS") := by
  intro g g'
  have hdefined : "expr" ∈ g.productions.names := by decide +kernel
  have hundefined : "PLUS" ∉ g.productions.names := by decide +kernel
  have hmentions : g.Mentions "PLUS" :=
    (mem_terminals_iff.1 (by decide +kernel : "PLUS" ∈ (ofGrammar g).terminals)).1
  have hrearranged : g.Rearranged g' := by
    refine ⟨[("term", ["ID"]), ("expr", ["expr PLUS term", "term"])], .swap _ _ _, ?_⟩
    refine .cons ⟨rfl, ["ID"], .refl _, ?_⟩ (.cons ⟨rfl, ["term", "expr PLUS term"], ?_, ?_⟩ .nil)
    · exact .cons (Text.sameWords_iff.2 (by decide +kernel)) .nil
    · exact .swap _ _ _
    · exact .cons (Text.sameWords_iff.2 (by decide +kernel))
        (.cons (Text.sameWords_iff.2 (by decide +kernel)) .nil)
  obtain ⟨-, -, hexpr, -⟩ := kindOf_ofGrammar g "expr"
  obtain ⟨-, -, hplus, hlayout⟩ := kindOf_ofGrammar g "PLUS"
  refine ⟨⟨by decide, hdefined, ?_⟩, ⟨by decide, hmentions, ?_⟩, hrearranged, hlayout g' hrearranged⟩
  · exact (hexpr (by decide) (.inl hdefined)).2 hdefined
  · exact fun h => hundefined ((hplus (by decide) (.inr hmentions)).1 h)

end Vocabulary

end ParseLens
