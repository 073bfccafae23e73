import Mathlib.Data.List.Forall2
import ParseLens.Json.Decoder
import ParseLens.Proofs.Json.Punctuation

set_option autoImplicit false

/-!
# JSON: written values read back

`ReadsBack k d v a` says that the decoder `d` reads the written form of the value `v` as `a`, with
any spacing and at any depth, provided that `k` more brackets may open.  Decoders are put together
from parts, and so are the proofs about them: each decoder has one lemma, which asks the same of
its parts.

* `ReadsBack.decode_print` is about whole documents.
* `Value.readsBack_object` and its likes are about the tree of a value.
-/

namespace ParseLens.Json

/-! ## What stands around a value -/

/-- A text that a value may stand in front of: one in which no word or number goes on. -/
def Bounded : List Char → Prop
  | [] => True
  | c :: _ => isBlank c = true ∨ c = ',' ∨ c = ']' ∨ c = '}'

theorem bounded_blanks_append {ws : List Char} (hws : Blanks ws) {t : List Char} (ht : Bounded t) :
    Bounded (ws ++ t) := by
  cases ws with
  | nil => exact ht
  | cons c ws => exact .inl (hws c (by simp))

/-- The written form of a value is seen by its first character: it is no white space, and it closes
no array. -/
def Value.Starts (v : Value) : Prop :=
  ∀ (sp : Spacing) (depth : Nat), ∃ c t, v.print sp depth = c :: t ∧ isBlank c = false ∧ c ≠ ']'

/-- The decoder `d` reads the written form of `v` as `a` when `k` brackets may open. -/
structure ReadsBack {α : Type} (k : Nat) (d : Decoder α) (v : Value) (a : α) : Prop where
  starts : v.Starts
  run : ∀ (sp : Spacing) (depth room : Nat) (ws rest : List Char), k ≤ room → Blanks ws →
    Bounded rest → (d room).run (ws ++ v.print sp depth ++ rest) = .ok (a, rest)

/-! ## Written brackets -/

namespace Value

/-- An array is its elements between brackets, with white space in front of the last one. -/
theorem print_array (sp : Spacing) (depth : Nat) (vs : List Value) :
    ∃ ws, Blanks ws ∧ (array vs).print sp depth =
      '[' :: printElements sp (depth + 1) true vs ++ ws ++ [']'] := by
  cases vs with
  | nil => exact ⟨[], blanks_nil, by simp [print, printElements]⟩
  | cons v vs => exact ⟨sp.lineBreak depth, sp.blanks_lineBreak depth, by simp [print]⟩

/-- An object is its members between brackets, with white space in front of the last one. -/
theorem print_object (sp : Spacing) (depth : Nat) (ms : List (String × Value)) :
    ∃ ws, Blanks ws ∧ (object ms).print sp depth =
      '{' :: printMembers sp (depth + 1) true ms ++ ws ++ ['}'] := by
  cases ms with
  | nil => exact ⟨[], blanks_nil, by simp [print, printMembers]⟩
  | cons m ms => exact ⟨sp.lineBreak depth, sp.blanks_lineBreak depth, by simp [print]⟩

theorem printElements_cons (sp : Spacing) (depth : Nat) (first : Bool) (v : Value)
    (vs : List Value) : printElements sp depth first (v :: vs) =
      separator first ++ sp.lineBreak depth ++ v.print sp depth ++
        printElements sp depth false vs := by
  rw [printElements, separator]

theorem printMembers_cons (sp : Spacing) (depth : Nat) (first : Bool) (name : String) (v : Value)
    (ms : List (String × Value)) : printMembers sp depth first ((name, v) :: ms) =
      separator first ++ sp.lineBreak depth ++ literal name ++ ':' :: sp.afterColon ++
        v.print sp depth ++ printMembers sp depth false ms := by
  rw [printMembers, separator]

theorem starts_string (s : String) : (string s).Starts := fun _ _ =>
  ⟨'"', s.toList.flatMap escapeChar ++ ['"'], by simp [print, literal], rfl, by decide⟩

theorem starts_array (vs : List Value) : (array vs).Starts := fun sp depth => by
  obtain ⟨ws, -, h⟩ := print_array sp depth vs
  exact ⟨'[', _, by rw [h]; rfl, rfl, by decide⟩

theorem starts_object (ms : List (String × Value)) : (object ms).Starts := fun sp depth => by
  obtain ⟨ws, -, h⟩ := print_object sp depth ms
  exact ⟨'{', _, by rw [h]; rfl, rfl, by decide⟩

/-- Behind an element stands a comma or what stands behind them all. -/
theorem bounded_printElements (sp : Spacing) (depth : Nat) (vs : List Value) {rest : List Char}
    (hrest : Bounded rest) : Bounded (printElements sp depth false vs ++ rest) := by
  cases vs with
  | nil => simpa [printElements] using hrest
  | cons v vs => simp [printElements_cons, separator, Bounded]

/-- Behind a member stands a comma or what stands behind them all. -/
theorem bounded_printMembers (sp : Spacing) (depth : Nat) (ms : List (String × Value))
    {rest : List Char} (hrest : Bounded rest) :
    Bounded (printMembers sp depth false ms ++ rest) := by
  cases ms with
  | nil => simpa [printMembers] using hrest
  | cons m ms =>
    obtain ⟨name, v⟩ := m
    simp [printMembers_cons, separator, Bounded]

end Value

/-! ## Elements -/

section Elements

variable {α : Type} {k : Nat} {d : Decoder α}

/-- In front of a written element the reader finds the element. -/
theorem nextElement_print {v : Value} (hv : v.Starts) (first : Bool) (sp : Spacing) (depth : Nat)
    (after : List Char) :
    nextElement first (separator first ++ sp.lineBreak depth ++ v.print sp depth ++ after) =
      .ok (some (v.print sp depth ++ after)) := by
  obtain ⟨c, u, hu, hc, hclose⟩ := hv sp depth
  have hnext := nextElement_separator first (sp.blanks_lineBreak depth) hc hclose (u ++ after)
  simpa [hu] using hnext

/-- Written elements are read one by one, up to the closing bracket. -/
theorem readElements_printElements {vs : List Value} {as : List α}
    (h : List.Forall₂ (ReadsBack k d) vs as) (sp : Spacing) (depth : Nat) {room : Nat}
    (hroom : k ≤ room) {rest t : List Char} (hbounded : Bounded rest)
    (hrest : skipBlank rest = ']' :: t) (first : Bool) :
    readElements (d room) first (Value.printElements sp depth first vs ++ rest) =
      .ok (as, rest) := by
  induction h generalizing first with
  | nil => exact readElements_of_close hrest
  | @cons v a vs as hv _ ih =>
    have hnext : nextElement first (Value.printElements sp depth first (v :: vs) ++ rest) =
        .ok (some (v.print sp depth ++ (Value.printElements sp depth false vs ++ rest))) := by
      rw [Value.printElements_cons, List.append_assoc]
      exact nextElement_print hv.starts first sp depth _
    have hrun := hv.run sp depth room [] _ hroom blanks_nil
      (Value.bounded_printElements sp depth vs hbounded)
    exact readElements_cons hnext hrun (ih false)

/-- Written elements are read together with the bracket that closes them. -/
theorem elements_printElements {vs : List Value} {as : List α}
    (h : List.Forall₂ (ReadsBack k d) vs as) (sp : Spacing) (depth : Nat) {room : Nat}
    (hroom : k ≤ room) {ws : List Char} (hws : Blanks ws) (rest : List Char) :
    (d room).elements.run (Value.printElements sp depth true vs ++ (ws ++ ']' :: rest)) =
      .ok (as, rest) := by
  have hclose : skipBlank (ws ++ ']' :: rest) = ']' :: rest := skipBlank_blanks_append hws rfl rest
  have hbounded : Bounded (ws ++ ']' :: rest) := bounded_blanks_append hws (by simp [Bounded])
  have hread := readElements_printElements h sp depth hroom hbounded hclose true
  simp only [Reader.elements, hread, closeList_of_close hclose]

end Elements

/-! ## Members -/

/-- A written name is read together with the colon behind it. -/
theorem readName_literal (name : String) (rest : List Char) :
    ∃ t, literal name ++ ':' :: rest = '"' :: t ∧ readName t = .ok (name, rest) := by
  obtain ⟨t, ht, hread⟩ := readString_literal name (':' :: rest)
  exact ⟨t, ht, by simp [readName, hread, readColon_colon]⟩

section Members

variable {α : Type} {k : Nat} {d : Decoder α}

/-- The member `m` reads back as the entry `p`. -/
def ReadsMember (k : Nat) (d : Decoder α) (m : String × Value) (p : String × α) : Prop :=
  m.1 = p.1 ∧ ReadsBack k d m.2 p.2

/-- Written members are read one by one, up to the closing bracket. -/
theorem readMembers_printMembers {ms : List (String × Value)} {ps : List (String × α)}
    (h : List.Forall₂ (ReadsMember k d) ms ps) (sp : Spacing) (depth : Nat) {room : Nat}
    (hroom : k ≤ room) {rest t : List Char} (hbounded : Bounded rest)
    (hrest : skipBlank rest = '}' :: t) (first : Bool) :
    readMembers (d room) first (Value.printMembers sp depth first ms ++ rest) = .ok (ps, rest) := by
  induction h generalizing first with
  | nil => exact readMembers_of_close hrest
  | @cons m p ms ps hm _ ih =>
    obtain ⟨name, v⟩ := m
    obtain ⟨name', a⟩ := p
    obtain ⟨rfl, hv⟩ : name = name' ∧ ReadsBack k d v a := hm
    let after := Value.printMembers sp depth false ms ++ rest
    obtain ⟨u, hu, hname⟩ := readName_literal name (sp.afterColon ++ v.print sp depth ++ after)
    have hnext : nextMember first (Value.printMembers sp depth first ((name, v) :: ms) ++ rest) =
        .ok (some u) := by
      have := nextMember_separator first (sp.blanks_lineBreak depth) u
      rw [← hu] at this
      simpa [Value.printMembers_cons, after] using this
    have hrun := hv.run sp depth room sp.afterColon after hroom sp.blanks_afterColon
      (Value.bounded_printMembers sp depth ms hbounded)
    exact readMembers_cons hnext hname hrun (ih false)

/-- Written members are read together with the bracket that closes them. -/
theorem members_printMembers {ms : List (String × Value)} {ps : List (String × α)}
    (h : List.Forall₂ (ReadsMember k d) ms ps) (sp : Spacing) (depth : Nat) {room : Nat}
    (hroom : k ≤ room) {ws : List Char} (hws : Blanks ws) (rest : List Char) :
    (d room).members.run (Value.printMembers sp depth true ms ++ (ws ++ '}' :: rest)) =
      .ok (ps, rest) := by
  have hclose : skipBlank (ws ++ '}' :: rest) = '}' :: rest := skipBlank_blanks_append hws rfl rest
  have hbounded : Bounded (ws ++ '}' :: rest) := bounded_blanks_append hws (by simp [Bounded])
  have hread := readMembers_printMembers h sp depth hroom hbounded hclose true
  simp only [Reader.members, hread, closeObject_of_close hclose]

end Members

/-! ## Heads -/

theorem skipBlank_print_string {ws : List Char} (hws : Blanks ws) (s : String) (rest : List Char) :
    skipBlank (ws ++ literal s ++ rest) = literal s ++ rest := by
  obtain ⟨t, ht, -⟩ := readString_literal s rest
  rw [List.append_assoc, ht]
  exact skipBlank_blanks_append hws rfl t

/-- A reader that looks at the head of a value sees the head of a written string. -/
theorem Reader.run_ofHead_string {α : Type} {pick : Head → Except Cause α} {s : String} {a : α}
    (h : pick (.string s) = .ok a) {ws : List Char} (hws : Blanks ws) (rest : List Char) :
    (Reader.ofHead pick).run (ws ++ literal s ++ rest) = .ok (a, rest) := by
  simp only [Reader.ofHead, skipBlank_print_string hws, readHead_literal, h]

/-- A reader of brackets reads what stands in a written array by its first reader. -/
theorem Reader.run_ofBrackets_list {α : Type} {expected : String} {body : Reader α}
    {object : Option (Reader α)} {ws : List Char} (hws : Blanks ws) (t : List Char) :
    (Reader.ofBrackets expected (some body) object).run (ws ++ '[' :: t) = body.run t := by
  simp only [Reader.ofBrackets, skipBlank_blanks_append hws (show isBlank '[' = false from rfl),
    readHead]

/-- A reader of brackets reads what stands in a written object by its second reader. -/
theorem Reader.run_ofBrackets_object {α : Type} {expected : String} {body : Reader α}
    {list : Option (Reader α)} {ws : List Char} (hws : Blanks ws) (t : List Char) :
    (Reader.ofBrackets expected list (some body)).run (ws ++ '{' :: t) = body.run t := by
  simp only [Reader.ofBrackets, skipBlank_blanks_append hws (show isBlank '{' = false from rfl),
    readHead]

/-! ## Decoders -/

namespace ReadsBack

variable {α β : Type} {k : Nat} {d : Decoder α} {v : Value} {a : α}

/-- More brackets may open. -/
theorem mono (h : ReadsBack k d v a) {n : Nat} (hkn : k ≤ n) : ReadsBack n d v a := by
  refine ⟨h.starts, ?_⟩
  intro sp depth room ws rest hroom
  exact h.run sp depth room ws rest (Nat.le_trans hkn hroom)

/-- Values with one written form are read as the same. -/
theorem inj (h : ReadsBack k d v a) {w : Value} {b : α} (h' : ReadsBack k d w b)
    {sp : Spacing} {depth : Nat} (heq : v.print sp depth = w.print sp depth) : a = b := by
  have hrun := h.run sp depth k [] [] (Nat.le_refl k) blanks_nil trivial
  rw [heq, h'.run sp depth k [] [] (Nat.le_refl k) blanks_nil trivial] at hrun
  exact (Prod.mk.inj (Except.ok.inj hrun)).1.symm

theorem map (h : ReadsBack k d v a) (f : α → β) : ReadsBack k (d.map f) v (f a) := by
  refine ⟨h.starts, ?_⟩
  intro sp depth room ws rest hroom hws hrest
  exact Reader.run_map_of_ok (h.run sp depth room ws rest hroom hws hrest)

theorem mapOrRefuse (h : ReadsBack k d v a) {f : α → Except Cause β} {b : β} (hf : f a = .ok b) :
    ReadsBack k (fun room => (d room).mapOrRefuse f) v b := by
  refine ⟨h.starts, ?_⟩
  intro sp depth room ws rest hroom hws hrest
  exact Reader.run_mapOrRefuse_of_ok (h.run sp depth room ws rest hroom hws hrest) hf

/-- What reads the elements of an array and the bracket behind them reads the array. -/
theorem of_array {vs : List Value}
    (h : ∀ (sp : Spacing) (depth room : Nat) (ws ws' rest : List Char), k ≤ room → Blanks ws →
      Blanks ws' → (d (room + 1)).run
        (ws ++ '[' :: (Value.printElements sp depth true vs ++ (ws' ++ ']' :: rest))) =
          .ok (a, rest)) :
    ReadsBack (k + 1) d (.array vs) a := by
  refine ⟨Value.starts_array vs, ?_⟩
  intro sp depth room ws rest hroom hws _
  obtain ⟨n, rfl⟩ : ∃ n, room = n + 1 := ⟨room - 1, by omega⟩
  obtain ⟨ws', hws', hprint⟩ := Value.print_array sp depth vs
  have hread := h sp (depth + 1) n ws ws' rest (Nat.le_of_succ_le_succ hroom) hws hws'
  rw [hprint]
  simpa using hread

/-- What reads the members of an object and the bracket behind them reads the object. -/
theorem of_object {ms : List (String × Value)}
    (h : ∀ (sp : Spacing) (depth room : Nat) (ws ws' rest : List Char), k ≤ room → Blanks ws →
      Blanks ws' → (d (room + 1)).run
        (ws ++ '{' :: (Value.printMembers sp depth true ms ++ (ws' ++ '}' :: rest))) =
          .ok (a, rest)) :
    ReadsBack (k + 1) d (.object ms) a := by
  refine ⟨Value.starts_object ms, ?_⟩
  intro sp depth room ws rest hroom hws _
  obtain ⟨n, rfl⟩ : ∃ n, room = n + 1 := ⟨room - 1, by omega⟩
  obtain ⟨ws', hws', hprint⟩ := Value.print_object sp depth ms
  have hread := h sp (depth + 1) n ws ws' rest (Nat.le_of_succ_le_succ hroom) hws hws'
  rw [hprint]
  simpa using hread

theorem text (s : String) : ReadsBack 0 .text (.string s) s := by
  refine ⟨Value.starts_string s, ?_⟩
  intro sp depth room ws rest _ hws _
  rw [Value.print, Decoder.text]
  exact Reader.run_ofHead_string (by rfl) hws rest

theorem list {vs : List Value} {as : List α} (h : List.Forall₂ (ReadsBack k d) vs as) :
    ReadsBack (k + 1) (.list d) (.array vs) as := by
  refine of_array ?_
  intro sp depth room ws ws' rest hroom hws hws'
  rw [Decoder.list, Reader.run_ofBrackets_list hws, Decoder.inside_succ]
  exact elements_printElements h sp depth hroom hws' rest

/-- A list is read element by element. -/
theorem list_map {γ : Type} {write : γ → Value} {read : γ → α}
    (h : ∀ c, ReadsBack k d (write c) (read c)) (cs : List γ) :
    ReadsBack (k + 1) (.list d) (.array (cs.map write)) (cs.map read) :=
  list (List.forall₂_map_left_iff.2
    (List.forall₂_map_right_iff.2 (List.forall₂_same.2 fun c _ => h c)))

/-- A list whose elements are read as they are is read as it is. -/
theorem list_self {write : α → Value} (h : ∀ a, ReadsBack k d (write a) a) (as : List α) :
    ReadsBack (k + 1) (.list d) (.array (as.map write)) as :=
  list (List.forall₂_map_left_iff.2 (List.forall₂_same.2 fun a _ => h a))

theorem pair {e : Decoder β} {w : Value} {b : β} (hv : ReadsBack k d v a) (hw : ReadsBack k e w b) :
    ReadsBack (k + 1) (.pair d e) (.array [v, w]) (a, b) := by
  refine of_array ?_
  intro sp depth room ws ws' rest hroom hws hws'
  have hclose : skipBlank (ws' ++ ']' :: rest) = ']' :: rest :=
    skipBlank_blanks_append hws' rfl rest
  have hbounded : Bounded (ws' ++ ']' :: rest) := bounded_blanks_append hws' (by simp [Bounded])
  have hnext : nextElement true (Value.printElements sp depth true [v, w] ++ (ws' ++ ']' :: rest)) =
      .ok (some (v.print sp depth ++
        (Value.printElements sp depth false [w] ++ (ws' ++ ']' :: rest)))) := by
    rw [Value.printElements_cons, List.append_assoc]
    exact nextElement_print hv.starts true sp depth _
  have hfirst := hv.run sp depth room [] _ hroom blanks_nil
    (Value.bounded_printElements sp depth [w] hbounded)
  have hnext' : nextElement false (Value.printElements sp depth false [w] ++ (ws' ++ ']' :: rest)) =
      .ok (some (w.print sp depth ++ (ws' ++ ']' :: rest))) := by
    rw [Value.printElements_cons, Value.printElements, List.append_nil]
    exact nextElement_print hw.starts false sp depth _
  have hsecond := hw.run sp depth room [] _ hroom blanks_nil hbounded
  rw [List.nil_append] at hfirst hsecond
  rw [Decoder.pair, Reader.run_ofBrackets_list hws, Decoder.inside_succ]
  simp only [Decoder.readPair, hnext, hfirst, hnext', hsecond, closeList_of_close hclose]

theorem orderedMap {ms : List (String × Value)} {m : OrderedMap α}
    (h : List.Forall₂ (ReadsMember k d) ms m.entries) :
    ReadsBack (k + 1) (.orderedMap d) (.object ms) m := by
  refine of_object ?_
  intro sp depth room ws ws' rest hroom hws hws'
  have hread := members_printMembers h sp depth hroom hws' rest
  rw [Decoder.orderedMap, Reader.run_ofBrackets_object hws, Decoder.inside_succ,
    Reader.run_map_of_ok hread, OrderedMap.ofList_entries]

/-- A document that was written is read, whatever white space stands behind it. -/
theorem decode_print_append (h : ReadsBack k d v a) (hk : k ≤ maxDepth) (sp : Spacing)
    {ws : List Char} (hws : Blanks ws) :
    d.decode (String.ofList (v.print sp 0 ++ ws)) = .ok a := by
  have hbounded : Bounded ws := by
    rw [← List.append_nil ws]
    exact bounded_blanks_append hws trivial
  have hrun : (d maxDepth).run (v.print sp 0 ++ ws) = .ok (a, ws) := by
    simpa using h.run sp 0 maxDepth [] ws hk blanks_nil hbounded
  have hend : skipBlank ws = [] := by simpa using skipBlank_append hws []
  refine Decoder.decode_of_document ?_
  rw [String.toList_ofList, Decoder.document, hrun]
  simp only [hend]

/-- A document that was written is read. -/
theorem decode_print (h : ReadsBack k d v a) (hk : k ≤ maxDepth) (sp : Spacing) :
    d.decode (String.ofList (v.print sp 0)) = .ok a := by
  simpa using h.decode_print_append hk sp blanks_nil

theorem decode_compact (h : ReadsBack k d v a) (hk : k ≤ maxDepth) :
    d.decode v.compact = .ok a := h.decode_print hk .compact

end ReadsBack

/-! ## Trees -/

namespace Value

variable {list : Reader (List Value)} {object : Reader (List (String × Value))} {ws : List Char}

theorem decoder_succ (room : Nat) :
    decoder (room + 1) = readerWith (decoder room).elements (decoder room).members := rfl

theorem run_readerWith_string (hws : Blanks ws) (s : String) (rest : List Char) :
    (readerWith list object).run (ws ++ literal s ++ rest) = .ok (.string s, rest) := by
  simp only [readerWith, skipBlank_print_string hws, readHead_literal]

theorem run_readerWith_array (hws : Blanks ws) (t : List Char) :
    (readerWith list object).run (ws ++ '[' :: t) = (list.map Value.array).run t := by
  simp only [readerWith, skipBlank_blanks_append hws (show isBlank '[' = false from rfl), readHead]

theorem run_readerWith_object (hws : Blanks ws) (t : List Char) :
    (readerWith list object).run (ws ++ '{' :: t) = (object.map Value.object).run t := by
  simp only [readerWith, skipBlank_blanks_append hws (show isBlank '{' = false from rfl), readHead]

theorem readsBack_string (s : String) : ReadsBack 0 decoder (.string s) (.string s) := by
  refine ⟨starts_string s, ?_⟩
  intro sp depth room ws rest _ hws _
  rw [print]
  cases room with
  | zero => exact run_readerWith_string hws s rest
  | succ room => exact run_readerWith_string hws s rest

theorem readsBack_array {k : Nat} {vs : List Value} (h : ∀ v ∈ vs, ReadsBack k decoder v v) :
    ReadsBack (k + 1) decoder (.array vs) (.array vs) := by
  refine .of_array ?_
  intro sp depth room ws ws' rest hroom hws hws'
  have hread := elements_printElements (List.forall₂_same.2 h) sp depth hroom hws' rest
  rw [decoder_succ, run_readerWith_array hws]
  exact Reader.run_map_of_ok hread

theorem readsBack_object {k : Nat} {ms : List (String × Value)}
    (h : ∀ m ∈ ms, ReadsBack k decoder m.2 m.2) :
    ReadsBack (k + 1) decoder (.object ms) (.object ms) := by
  have hsame : List.Forall₂ (ReadsMember k decoder) ms ms :=
    List.forall₂_same.2 fun m hm => ⟨rfl, h m hm⟩
  refine .of_object ?_
  intro sp depth room ws ws' rest hroom hws hws'
  have hread := members_printMembers hsame sp depth hroom hws' rest
  rw [decoder_succ, run_readerWith_object hws]
  exact Reader.run_map_of_ok hread

end Value

end ParseLens.Json
