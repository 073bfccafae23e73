import ParseLens.Proofs.Automaton.Layout

set_option autoImplicit false

/-!
# Automaton: the headings over a table

The first line of the text of a table has a heading for each of its three parts.  The column of states
is never narrower than its heading.  The ACTION columns together may be: their heading then takes more
room than they do, and it pushes what follows it to the right of where it belongs.  This is the
only way to miss, so the headings stand over their parts if and only if those columns are wide enough.

* `standsAt_bar_iff` finds all bars on a line, so that a bar can be said to be missing.
* `Table.headings_over_parts_iff` is the main statement.
-/

namespace ParseLens

open Text (EndsBlank StandsAt)

/-- Two bars stand on a line whose parts have none. -/
theorem standsAt_bar_iff {state actions gotos : String} (hstate : '|' ∉ state.toList)
    (hactions : '|' ∉ actions.toList) (hgotos : '|' ∉ gotos.toList) {p : Nat} :
    StandsAt (barred state actions gotos) p "|" ↔
      p = state.length + 1 ∨ p = state.length + 3 + actions.length + 1 := by
  have hfront : '|' ∉ (state ++ " ").toList := by simp [hstate]
  have hmiddle : '|' ∉ (" " ++ actions ++ " ").toList := by simp [hactions]
  have hbehind : '|' ∉ (" " ++ gotos).toList := by simp [hgotos]
  have hparts : barred state actions gotos =
      (state ++ " ") ++ (String.singleton '|' ++
        ((" " ++ actions ++ " ") ++ (String.singleton '|' ++ (" " ++ gotos)))) := by
    simp [barred, ← String.toList_inj]
  have hbar : "|" = String.singleton '|' := by decide
  rw [hparts, hbar, Text.standsAt_append_singleton_iff hfront]
  simp only [Text.standsAt_append_singleton_iff hmiddle,
    Text.not_standsAt_of_not_mem hbehind, and_false, exists_false, or_false, String.length_append]
  have hblank : " ".length = 1 := by decide
  rw [hblank]
  refine or_congr_right ⟨?_, fun h => ⟨_, ?_, rfl⟩⟩
  · rintro ⟨q, rfl, rfl⟩
    omega
  · omega

namespace Table

theorem length_pad_state (t : Table) : (pad t.stateWidth "State").length = t.stateWidth :=
  length_pad_of_le (least_le_widest _ _)

theorem length_pad_action (t : Table) : (pad t.actionWidth "ACTION").length = max 6 t.actionWidth :=
  length_pad _ _

/-- What stands in front of the last heading. -/
theorem heading_eq_append (t : Table) : t.heading =
    (pad t.stateWidth "State" ++ " | " ++ pad t.actionWidth "ACTION" ++ " | ") ++ "GOTO" := by
  rw [heading_eq]
  simp only [barred, String.append_assoc]

theorem not_endsBlank_heading (t : Table) : ¬ EndsBlank t.heading := by
  rw [heading_eq_append]
  exact Text.not_endsBlank_append _ (by decide) (by decide)

/-- The bars on the line with the headings. -/
theorem standsAt_bar_heading_iff (t : Table) {p : Nat} : StandsAt t.heading p "|" ↔
    p = t.stateWidth + 1 ∨ p = t.stateWidth + 3 + max 6 t.actionWidth + 1 := by
  have hblank : '|' ≠ ' ' := by decide
  rw [heading_eq, standsAt_bar_iff (not_mem_pad hblank (by decide))
    (not_mem_pad hblank (by decide)) (by decide), length_pad_state, length_pad_action]

theorem standsAt_goto_heading (t : Table) :
    StandsAt t.heading (t.stateWidth + 3 + max 6 t.actionWidth + 3) "GOTO" := by
  have hword : StandsAt "GOTO" 0 "GOTO" := by decide
  have hplace := standsAt_gotos hword (pad t.stateWidth "State") (pad t.actionWidth "ACTION")
  rwa [length_pad_state, length_pad_action, ← heading_eq] at hplace

/-- The last heading stands behind the second bar, and nowhere else: no other letter of the line is
a G. -/
theorem standsAt_goto_heading_iff (t : Table) {p : Nat} : StandsAt t.heading p "GOTO" ↔
    p = t.stateWidth + 3 + max 6 t.actionWidth + 3 := by
  refine ⟨fun h => ?_, fun h => h ▸ t.standsAt_goto_heading⟩
  have hblank : 'G' ≠ ' ' := by decide
  have hstate : 'G' ∉ (pad t.stateWidth "State").toList := not_mem_pad hblank (by decide)
  have hactions : 'G' ∉ (pad t.actionWidth "ACTION").toList := not_mem_pad hblank (by decide)
  have hfront : 'G' ∉ (pad t.stateWidth "State" ++ " | " ++ pad t.actionWidth "ACTION" ++
      " | ").toList := by
    simp [hstate, hactions]
  have hword : "GOTO" = String.singleton 'G' ++ "OTO" := by decide
  rw [hword] at h
  have hletter := h.of_append
  rw [heading_eq_append, hword, Text.standsAt_append_singleton_iff hfront] at hletter
  rcases hletter with rfl | ⟨q, -, hq⟩
  · simp only [String.length_append, length_pad_state, length_pad_action]
    rfl
  · exact absurd hq (Text.not_standsAt_of_not_mem (by decide) q)

/-- **Where the headings stand.**  Below the line with the headings, the bars stand at the same two
places on every line.  The first bar of the headings stands over one of them.  The second one
stands over the other, and `GOTO` over the first GOTO column, if and only if the ACTION columns
together are at least as wide as the word `ACTION`, which padding does not make shorter. -/
theorem headings_over_parts_iff (raw : OrderedMap Entry) (v : Vocabulary)
    (h : (ofEntries raw v).OneLined) :
    let t := ofEntries raw v
    let firstBar := t.stateWidth + 1
    let secondBar := t.stateWidth + 3 + t.actionWidth + 1
    ∃ head rest, Text.lines t.text = head :: rest ∧
      (StandsAt head 0 "State" ∧ StandsAt head (t.stateWidth + 3) "ACTION") ∧
      (∀ p, StandsAt head p "|" ↔
        p = firstBar ∨ p = t.stateWidth + 3 + max 6 t.actionWidth + 1) ∧
      (∀ p, StandsAt head p "GOTO" ↔ p = t.stateWidth + 3 + max 6 t.actionWidth + 3) ∧
      (∀ l ∈ rest, StandsAt l firstBar "|" ∧ StandsAt l secondBar "|") ∧
      (StandsAt head secondBar "|" ↔ 6 ≤ t.actionWidth) ∧
      (StandsAt head (t.columnStart t.terminals.length) "GOTO" ↔ 6 ≤ t.actionWidth) := by
  intro t firstBar secondBar
  have hne : t.terminals ≠ [] := terminals_ne_nil raw v
  have hhead : Text.trimEnd t.heading = t.heading := Text.trimEnd_eq_self t.not_endsBlank_heading
  have hlines : Text.lines t.text =
      t.heading :: (t.line "" Symbol.name ::
        t.states.map fun n => t.line (toString n.toNat) (t.cellText n)).map Text.trimEnd := by
    rw [OneLined.lines_text h, Table.lines, List.map_cons, hhead]
  refine ⟨_, _, hlines, ⟨?_, ?_⟩, fun p => t.standsAt_bar_heading_iff,
    fun p => t.standsAt_goto_heading_iff, ?_, ?_, ?_⟩
  · rw [heading_eq]
    exact StandsAt.append_right (.self "State" _) _
  · have hword : StandsAt (pad t.actionWidth "ACTION") 0 "ACTION" := .self "ACTION" _
    have hplace := standsAt_actions hword (pad t.stateWidth "State") "GOTO"
    rwa [t.length_pad_state, ← heading_eq] at hplace
  · intro l hl
    obtain ⟨l, hline, rfl⟩ := List.mem_map.1 hl
    rcases List.mem_cons.1 hline with rfl | hrow
    · exact ⟨(aligned_names hne).firstBar, (aligned_names hne).secondBar⟩
    · obtain ⟨n, hn, rfl⟩ := List.mem_map.1 hrow
      exact ⟨(aligned_row hne hn).firstBar, (aligned_row hne hn).secondBar⟩
  · rw [standsAt_bar_heading_iff]
    omega
  · have hstart : t.columnStart t.terminals.length = t.stateWidth + 3 + t.actionWidth + 3 :=
      columnStart_add hne 0
    rw [standsAt_goto_heading_iff, hstart]
    omega

/-- With a cell that says `shift 3` the ACTION columns are wide enough. -/
theorem headings_over_parts_iff_of_shift :
    let raw : OrderedMap Entry := .ofList [("0_a", ⟨.shift, "3"⟩), ("0_S", ⟨.goto, "1"⟩)]
    let t := ofEntries raw .unknown
    t.OneLined ∧ 6 ≤ t.actionWidth ∧ ∃ head rest, Text.lines t.text = head :: rest ∧
      StandsAt head (t.columnStart t.terminals.length) "GOTO" := by
  intro raw t
  have hone : t.OneLined := by decide +kernel
  have hwide : 6 ≤ t.actionWidth := by decide +kernel
  obtain ⟨head, rest, hlines, -, -, -, -, -, hgoto⟩ := headings_over_parts_iff raw .unknown hone
  exact ⟨hone, hwide, head, rest, hlines, hgoto.2 hwide⟩

/-- Beside a table whose ACTION part is the column of the end marker alone, without an entry, the
headings of the second and third part stand too far to the right. -/
theorem headings_beside_narrow_columns :
    let raw : OrderedMap Entry := .ofList [("0_A", ⟨.goto, "1"⟩)]
    let t := ofEntries raw .unknown
    t.OneLined ∧
    Text.lines t.text = ["State | ACTION | GOTO", "      | $ | A", "0     | - | goto 1"] ∧
    (StandsAt "State | ACTION | GOTO" 15 "|" ∧ ¬ StandsAt "State | ACTION | GOTO" 10 "|" ∧
      StandsAt "      | $ | A" 10 "|" ∧ StandsAt "0     | - | goto 1" 10 "|") ∧
    StandsAt "State | ACTION | GOTO" 17 "GOTO" ∧ StandsAt "      | $ | A" 12 "A" ∧
    t.columnStart t.terminals.length = 12 := by
  decide +kernel

end Table

end ParseLens
