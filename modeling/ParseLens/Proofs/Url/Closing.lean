import ParseLens.Proofs.Url.Segments

set_option autoImplicit false

/-!
# Url: closing a path

A relative path takes the place of the last segment of the address it is resolved against.  So that
none is lost, the path is closed first: a slash is put behind its text, unless it ends in one, and
the text is read as a path again.  For the schemes of the web that only adds an empty segment, since
what was read before is settled (`closePath_eq_withPathText`).
-/

namespace ParseLens.Url

variable {l : List String} {u : Url}

/-- The segments of a path that ends in a slash. -/
def closed (l : List String) : List String := if l.getLast? = some "" then l else l ++ [""]

theorem closed_append_nil (l : List String) : closed (l ++ [""]) = l ++ [""] := by
  simp [closed]

theorem closed_append_singleton (l : List String) {seg : String} (h : seg ≠ "") :
    closed (l ++ [seg]) = l ++ [seg] ++ [""] := by
  simp [closed, h]

/-- Either the path was closed, or an empty segment closes it. -/
theorem closed_eq_or (l : List String) : ∃ front,
    closed l = front ++ [""] ∧ (l = front ++ [""] ∨ l = front) := by
  obtain rfl | ⟨front, seg, rfl⟩ := l.eq_nil_or_concat
  · exact ⟨[], rfl, .inr rfl⟩
  · rw [List.concat_eq_append]
    by_cases hseg : seg = ""
    · exact ⟨front, by rw [hseg, closed_append_nil], .inl (by rw [hseg])⟩
    · exact ⟨front ++ [seg], closed_append_singleton front hseg, .inr rfl⟩

theorem AllSettled.closed (h : AllSettled l) : AllSettled (closed l) := by
  unfold Url.closed
  split
  · exact h
  · exact h.append_singleton settled_nil

/-! ## Texts of paths -/

theorem text_segments_append (l m : List String) :
    (Path.segments (l ++ m)).text = (Path.segments l).text ++ (Path.segments m).text := by
  rw [← String.toList_inj]
  simp [toList_text_segments]

/-- The text of a path ends in a slash where the last segment is empty. -/
theorem getLast?_text_segments (h : AllSettled l) (hne : l ≠ []) :
    (Path.segments l).text.toList.getLast? = some '/' ↔ l.getLast? = some "" := by
  obtain rfl | ⟨front, seg, rfl⟩ := l.eq_nil_or_concat
  · exact absurd rfl hne
  rw [List.concat_eq_append] at *
  have hwhole := (h seg (by simp)).whole
  have hlast : (Path.segments (front ++ [seg])).text.toList.getLast? =
      some (seg.toList.getLast?.getD '/') := by
    rw [text_segments_append, String.toList_append, toList_text_segments [seg]]
    obtain hseg | ⟨s, c, hseg⟩ := seg.toList.eq_nil_or_concat
    · simp [hseg]
    · simp [hseg, List.getLast?_cons]
  rw [hlast]
  constructor
  · intro hslash
    cases hc : seg.toList.getLast? with
    | none => simpa using hc
    | some c =>
      rw [hc, Option.getD_some] at hslash
      have hslash' := hwhole c (List.mem_of_getLast? hc)
      rw [Option.some.inj hslash] at hslash'
      exact absurd hslash' (by decide)
  · intro hseg
    obtain rfl : seg = "" := by simpa using hseg
    rfl

/-- Closing a path puts a slash behind its text, unless it ends in one. -/
theorem text_closed (h : AllSettled l) (hne : l ≠ []) :
    (Path.segments (closed l)).text =
      if (Path.segments l).text.toList.getLast? = some '/' then (Path.segments l).text
      else (Path.segments l).text ++ "/" := by
  simp only [getLast?_text_segments h hne]
  unfold closed
  split
  · rfl
  · rw [text_segments_append]
    rfl

/-! ## Closing and joining -/

theorem closePath_of_segments (hfile : u.scheme ≠ "file") (hpath : u.path = .segments l) :
    u.closePath = { u with path := .segments (closed l) } := by
  simp only [closePath, hpath, if_neg hfile, closed]
  split
  · rw [← hpath]
  · rfl

/-- The address with another path, which is read from its text. -/
def withPathText (u : Url) (text : String) : Url :=
  { u with path := .segments (parsePath (pathStyle u.scheme) text.toList) }

/-- Closing a path is to read it again with a slash behind it. -/
theorem closePath_eq_withPathText (hs : pathStyle u.scheme = .special) (hpath : u.path = .segments l)
    (h : AllSettled l) (hne : l ≠ []) :
    u.closePath = if u.path.text.toList.getLast? = some '/' then u
      else u.withPathText (u.path.text ++ "/") := by
  have hfile : u.scheme ≠ "file" := by
    intro hfile
    rw [hfile] at hs
    exact absurd hs (by decide)
  rw [closePath_of_segments hfile hpath, hpath]
  split
  · rename_i hslash
    rw [closed, if_pos ((getLast?_text_segments h hne).1 hslash), ← hpath]
  · rename_i hslash
    have htext : (Path.segments (closed l)).text = (Path.segments l).text ++ "/" := by
      rw [text_closed h hne, if_neg hslash]
    have hclosed : closed l ≠ [] := by
      obtain ⟨front, hfront, -⟩ := closed_eq_or l
      simp [hfront]
    rw [withPathText, hs, ← htext, parsePath_text h.closed hclosed]

/-- What is resolved against a closed path stands behind it. -/
theorem join_of_closed (hs : pathStyle u.scheme = .special) {front : List String}
    (hpath : u.path = .segments (front ++ [""])) (reference : String)
    (href : AllSettled ((splitSegments .special reference.toList).map String.ofList)) :
    u.join reference = .ok ⟨u.scheme, u.authority,
      .segments (front ++ (splitSegments .special reference.toList).map String.ofList), none,
      none⟩ := by
  have hparts := addSegments_of_settled href front
  simp only [List.map_map, Function.comp_def, String.toList_ofList, List.map_id'] at hparts
  unfold join
  rw [hpath]
  simp only [hs, List.dropLast_concat, hparts]

end ParseLens.Url
