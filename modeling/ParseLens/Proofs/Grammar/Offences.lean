import ParseLens.Automaton.Item
import ParseLens.Grammar.Vocabulary
import ParseLens.Problem
import ParseLens.Proofs.Grammar.Canonical
import ParseLens.Proofs.Text.Quoting
import ParseLens.Text.Numeral

set_option autoImplicit false

/-!
# Grammar: the first offence

The check of a grammar trims names and alternatives to see whether they are blank.  Those who use the
grammar cut alternatives into words.  The two agree on every text, so of an accepted grammar every
alternative has a symbol, and of a grammar that is refused one can say which offence is reported
without trimming anything.

* `Grammar.Offends` is the first offence of one production, and `Grammar.FirstOffence` that of a
  grammar: the start symbol, then the productions in their order.
* `Grammar.flaw?_eq_some_iff` says that the check reports this one.
* `Grammar.FirstOffence.message_inj` says that its text tells which one it is.
* `Grammar.check_reports_first_offence` is the main statement.
-/

namespace ParseLens.Grammar

open Text (isBlank words)

/-- A production without offence: its name shows a character, and every alternative a word. -/
structure Sound (production : String × List String) : Prop where
  name : ∃ c ∈ production.1.toList, isBlank c = false
  bodies : ∀ body ∈ production.2, words body ≠ []

/-- What is reported of a production: its name, if that is blank, else the first of its alternatives
that has no word. -/
inductive Offends : String × List String → Flaw → Prop
  | blankName {name : String} {bodies : List String} :
    Text.AllBlank name.toList → Offends (name, bodies) .blankName
  | blankBody {name body : String} {bodies : List String} {index : Nat} :
    (∃ c ∈ name.toList, isBlank c = false) → bodies[index]? = some body → words body = [] →
    (∀ i < index, ∀ b, bodies[i]? = some b → words b ≠ []) →
    Offends (name, bodies) (.blankBody index name)

/-- What is reported of a grammar: the start symbol, if it has no production, else what is reported
of the first production that is not sound. -/
inductive FirstOffence (g : Grammar) : Flaw → Prop
  | start : g.start ∉ g.productions.names → FirstOffence g (.undefinedStart g.start)
  | production {front back : List (String × List String)} {e : String × List String} {flaw : Flaw} :
    g.start ∈ g.productions.names → g.productions.entries = front ++ e :: back →
    (∀ e' ∈ front, Sound e') → Offends e flaw → FirstOffence g flaw

/-! ## One production -/

section Production

variable {name : String} {bodies : List String} {flaw : Flaw}

theorem findIdx?_isBlankText_eq_none_iff :
    bodies.findIdx? Text.isBlankText = none ↔ ∀ body ∈ bodies, words body ≠ [] := by
  simp only [List.findIdx?_eq_none_iff, ← Bool.not_eq_true, Text.isBlankText_iff, ne_eq]

/-- The alternative that is found is the first one without a word. -/
theorem findIdx?_isBlankText_eq_some_iff {index : Nat} :
    bodies.findIdx? Text.isBlankText = some index ↔
      ∃ body, bodies[index]? = some body ∧ words body = [] ∧
        ∀ i < index, ∀ b, bodies[i]? = some b → words b ≠ [] := by
  rw [List.findIdx?_eq_some_iff_getElem]
  simp only [Text.isBlankText_iff]
  constructor
  · rintro ⟨hlt, hblank, hfront⟩
    refine ⟨_, List.getElem?_eq_getElem hlt, hblank, ?_⟩
    intro i hi b hb
    obtain ⟨hib, rfl⟩ := List.getElem?_eq_some_iff.1 hb
    exact hfront i hi
  · rintro ⟨body, hbody, hblank, hfront⟩
    obtain ⟨hlt, rfl⟩ := List.getElem?_eq_some_iff.1 hbody
    exact ⟨hlt, hblank, fun i hi => hfront i hi _ (List.getElem?_eq_getElem (hi.trans hlt))⟩

theorem productionFlaw?_eq_none_iff : productionFlaw? name bodies = none ↔ Sound (name, bodies) := by
  unfold productionFlaw?
  split
  · rename_i hblank
    refine iff_of_false (by simp) fun hsound => ?_
    rw [Text.isBlankText_eq_false_iff.2 hsound.name] at hblank
    exact Bool.false_ne_true hblank
  · rename_i hname
    have hshown := Text.isBlankText_eq_false_iff.1 (Bool.not_eq_true _ ▸ hname)
    rw [Option.map_eq_none_iff, findIdx?_isBlankText_eq_none_iff]
    exact ⟨fun h => ⟨hshown, h⟩, fun h => h.bodies⟩

theorem productionFlaw?_eq_some_iff :
    productionFlaw? name bodies = some flaw ↔ Offends (name, bodies) flaw := by
  unfold productionFlaw?
  constructor
  · intro h
    split at h
    · rename_i hblank
      obtain rfl := Option.some.inj h
      exact .blankName (Text.isBlankText_iff_allBlank.1 hblank)
    · rename_i hname
      obtain ⟨index, hindex, rfl⟩ := Option.map_eq_some_iff.1 h
      obtain ⟨body, hbody, hblank, hfront⟩ := findIdx?_isBlankText_eq_some_iff.1 hindex
      have hname : Text.isBlankText name = false := by simpa using hname
      exact .blankBody (Text.isBlankText_eq_false_iff.1 hname) hbody hblank hfront
  · intro h
    cases h with
    | blankName hblank => rw [if_pos (Text.isBlankText_iff_allBlank.2 hblank)]
    | blankBody hname hbody hblank hfront =>
      have hindex := findIdx?_isBlankText_eq_some_iff.2 ⟨_, hbody, hblank, hfront⟩
      rw [if_neg (by simp [Text.isBlankText_eq_false_iff.2 hname]), hindex, Option.map_some]

end Production

/-! ## The grammar -/

variable {g : Grammar} {flaw : Flaw}

theorem flaw?_eq_none_iff : g.flaw? = none ↔
    g.start ∈ g.productions.names ∧ ∀ e ∈ g.productions.entries, Sound e := by
  unfold flaw?
  split
  · rename_i hstart
    rw [List.findSome?_eq_none_iff]
    simp only [productionFlaw?_eq_none_iff, OrderedMap.contains_iff.1 hstart, true_and]
  · rename_i hstart
    simp [OrderedMap.contains_iff.not.1 hstart]

/-- What the check reports is the first offence, and it reports every first offence. -/
theorem flaw?_eq_some_iff : g.flaw? = some flaw ↔ g.FirstOffence flaw := by
  unfold flaw?
  constructor
  · intro h
    split at h
    · rename_i hstart
      obtain ⟨front, e, back, hentries, he, hfront⟩ := List.findSome?_eq_some_iff.1 h
      have hsound : ∀ e' ∈ front, Sound e' := fun e' he' =>
        productionFlaw?_eq_none_iff.1 (hfront e' he')
      exact .production (OrderedMap.contains_iff.1 hstart) hentries hsound
        (productionFlaw?_eq_some_iff.1 he)
    · rename_i hstart
      obtain rfl := Option.some.inj h
      exact .start (OrderedMap.contains_iff.not.1 hstart)
  · intro h
    cases h with
    | start hstart => rw [if_neg (OrderedMap.contains_iff.not.2 hstart)]
    | production hstart hentries hfront he =>
      rw [if_pos (OrderedMap.contains_iff.2 hstart), List.findSome?_eq_some_iff]
      exact ⟨_, _, _, hentries, productionFlaw?_eq_some_iff.2 he, fun e' he' =>
        productionFlaw?_eq_none_iff.2 (hfront e' he')⟩

/-! ## Texts of errors -/

/-- The place of a blank alternative can be told from the text of the error. -/
theorem Flaw.message_blankBody_inj {index index' : Nat} {name name' : String}
    (h : (Flaw.blankBody index name).message = (Flaw.blankBody index' name').message) :
    index = index' ∧ name = name' := by
  have hchars : Nat.toDigits 10 index ++ ' ' :: 'o' :: 'f' :: ' ' :: (Text.quoted name).toList =
      Nat.toDigits 10 index' ++ ' ' :: 'o' :: 'f' :: ' ' :: (Text.quoted name').toList := by
    simp only [message, String.append_left_inj] at h
    simpa using congrArg String.toList h
  -- the index ends at the first blank
  have hblank (n : Nat) : ' ' ∉ Nat.toDigits 10 n := Text.not_mem_toDigits (by decide) n
  obtain ⟨hdigits, hrest⟩ := (Text.append_cons_inj_of_first (hblank _) (hblank _)).1 hchars
  constructor
  · have hnumeral := congrArg Text.natural? hdigits
    simpa only [Text.natural?_toDigits, Option.some.injEq] using hnumeral
  · have hquoted : Text.quoted name = Text.quoted name' := String.toList_inj.1 (by simpa using hrest)
    exact Text.quoted_inj.1 hquoted

theorem FirstOffence.ne_unreadable (h : g.FirstOffence flaw) (reason : String) :
    flaw ≠ .unreadable reason := by
  cases h with
  | start => simp
  | production _ _ _ he => cases he <;> simp

/-- The text of an error tells the offence, in whatever grammar it is. -/
theorem FirstOffence.message_inj {g' : Grammar} {flaw' : Flaw} (hg : g.FirstOffence flaw)
    (hg' : g'.FirstOffence flaw') (h : flaw.message = flaw'.message) : flaw = flaw' := by
  -- offences of different kinds have texts that start differently
  have hfirst : flaw.message.toList.head? = flaw'.message.toList.head? := by rw [h]
  cases flaw with
  | unreadable reason => exact absurd rfl (hg.ne_unreadable reason)
  | undefinedStart start =>
    cases flaw' with
    | unreadable reason => exact absurd rfl (hg'.ne_unreadable reason)
    | undefinedStart start' => simpa [Flaw.message, Text.quoted_inj] using h
    | blankName => simp [Flaw.message] at hfirst
    | blankBody => simp [Flaw.message] at hfirst
  | blankName =>
    cases flaw' with
    | unreadable reason => exact absurd rfl (hg'.ne_unreadable reason)
    | undefinedStart => simp [Flaw.message] at hfirst
    | blankName => rfl
    | blankBody => simp [Flaw.message] at hfirst
  | blankBody index name =>
    cases flaw' with
    | unreadable reason => exact absurd rfl (hg'.ne_unreadable reason)
    | undefinedStart => simp [Flaw.message] at hfirst
    | blankName => simp [Flaw.message] at hfirst
    | blankBody index' name' =>
      obtain ⟨rfl, rfl⟩ := Flaw.message_blankBody_inj h
      rfl

/-! ## What is accepted -/

/-- Productions are sound when the names and the alternatives of the grammar are. -/
theorem forall_sound_iff : (∀ e ∈ g.productions.entries, Sound e) ↔
    (∀ name ∈ g.productions.names, ∃ c ∈ name.toList, isBlank c = false) ∧
      ∀ body ∈ g.bodies, words body ≠ [] := by
  constructor
  · intro h
    refine ⟨fun name hname => ?_, fun body hbody => ?_⟩
    · obtain ⟨e, he, rfl⟩ := List.mem_map.1 hname
      exact (h e he).name
    · obtain ⟨bodies, hbodies, hbody⟩ := mem_bodies.1 hbody
      obtain ⟨e, he, rfl⟩ := List.mem_map.1 hbodies
      exact (h e he).bodies body hbody
  · rintro ⟨hnames, hbodies⟩ e he
    refine ⟨hnames _ (List.mem_map_of_mem he), fun body hbody => ?_⟩
    exact hbodies body (mem_bodies.2 ⟨_, List.mem_map_of_mem he, hbody⟩)

/-- A word of an alternative is a name that the vocabulary of the grammar knows. -/
theorem mem_vocabulary_of_mem_words {body name : String} (hbody : body ∈ g.bodies)
    (hname : name ∈ words body) :
    name ∈ (Vocabulary.ofGrammar g).nonTerminals ∨ name ∈ (Vocabulary.ofGrammar g).terminals := by
  by_cases hdefined : name ∈ g.productions.names
  · exact .inl hdefined
  · exact .inr (Vocabulary.mem_terminals_ofGrammar.2 ⟨⟨body, hbody, hname⟩, hdefined⟩)

/-- A grammar is accepted exactly if its start symbol is defined, every name that it defines has a
character that is no white space, and every alternative has a word.  A grammar that is refused is
refused for its first offence: the start symbol comes first, then the productions in their order, of
each its name before its alternatives, and of these the one with the least index.  The text of the
error names it: the start symbol, or the non-terminal and the index of the alternative, counted from
zero; only a blank name is not repeated.  No two offences have the same text, in one grammar or in
two.

So of a grammar that was read and accepted every alternative has a symbol: a word that the vocabulary
of the grammar knows, and that an item with this alternative shows. -/
theorem check_reports_first_offence (g : Grammar) :
    (g.check = .ok () ↔ g.start ∈ g.productions.names ∧
      (∀ name ∈ g.productions.names, ∃ c ∈ name.toList, isBlank c = false) ∧
      ∀ body ∈ g.bodies, words body ≠ []) ∧
    (∀ flaw, g.check = .error flaw ↔ g.FirstOffence flaw) ∧
    -- the text of the error
    (∀ start, (Flaw.undefinedStart start).message =
      "start symbol " ++ Text.quoted start ++ " has no productions") ∧
    Flaw.blankName.message = "empty non-terminal name" ∧
    (∀ index name, (Flaw.blankBody index name).message =
      "production #" ++ toString index ++ " of " ++ Text.quoted name ++ " is empty") ∧
    (∀ flaw, (Problem.grammar flaw).message = "Invalid grammar: " ++ flaw.message) ∧
    (∀ (g' : Grammar) (flaw flaw' : Flaw), g.FirstOffence flaw → g'.FirstOffence flaw' →
      flaw.message = flaw'.message → flaw = flaw') ∧
    -- accepted grammars
    ∀ text, validate text = .ok g → ∀ body ∈ g.bodies,
      (∃ name ∈ words body, name ∈ (Vocabulary.ofGrammar g).nonTerminals ∨
        name ∈ (Vocabulary.ofGrammar g).terminals) ∧
      ∀ item : Item, item.production = body → item.symbols = words body ∧ item.symbols ≠ [] := by
  refine ⟨?_, fun flaw => check_eq_error_iff.trans flaw?_eq_some_iff, fun _ => rfl, rfl,
    fun _ _ => rfl, fun _ => rfl, fun g' flaw flaw' hg hg' => hg.message_inj hg', ?_⟩
  · rw [check_eq_ok_iff, flaw?_eq_none_iff, forall_sound_iff]
  · intro text hvalidate body hbody
    have hsound := (flaw?_eq_none_iff.1 (validate_eq_ok_iff.1 hvalidate).2).2
    have hwords : words body ≠ [] := (forall_sound_iff.1 hsound).2 body hbody
    obtain ⟨name, hname⟩ := List.exists_mem_of_ne_nil _ hwords
    refine ⟨⟨name, hname, mem_vocabulary_of_mem_words hbody hname⟩, ?_⟩
    rintro item rfl
    exact ⟨rfl, hwords⟩

/-- A grammar with a blank name behind a blank alternative that has another in front of it, and a
grammar that is accepted although one alternative starts with a space that is no break. -/
theorem check_reports_first_offence_of_several :
    let faulty : Grammar :=
      ⟨.ofList [("S", ["a", "\u3000\t", ""]), ("\u0085", ["b"])], "S"⟩
    let spaced : Grammar := ⟨.ofList [("S", ["\u00a0x"])], "S"⟩
    let text := "\x7b\"productions\":\x7b\"S\":[\"\u00a0x\"]\x7d,\"start_symbol\":\"S\"\x7d"
    (faulty.check = .error (.blankBody 1 "S") ∧ faulty.FirstOffence (.blankBody 1 "S") ∧
      (Flaw.blankBody 1 "S").message = "production #1 of \"S\" is empty") ∧
    (validate text = .ok spaced ∧ spaced.bodies = ["\u00a0x"] ∧
      ∃ name ∈ words "\u00a0x", name ∈ (Vocabulary.ofGrammar spaced).nonTerminals ∨
        name ∈ (Vocabulary.ofGrammar spaced).terminals) := by
  intro faulty spaced text
  have hfaulty : faulty.check = .error (.blankBody 1 "S") := by decide +kernel
  have hvalidate : validate text = .ok spaced := by decide +kernel
  have hbodies : spaced.bodies = ["\u00a0x"] := by decide +kernel
  obtain ⟨-, hoffence, -, -, hmessage, -⟩ := check_reports_first_offence faulty
  obtain ⟨-, -, -, -, -, -, -, haccepted⟩ := check_reports_first_offence spaced
  refine ⟨⟨hfaulty, (hoffence _).1 hfaulty, (hmessage 1 "S").trans (by decide)⟩, hvalidate,
    hbodies, ?_⟩
  exact (haccepted text hvalidate "\u00a0x" (by simp [hbodies])).1

end ParseLens.Grammar
