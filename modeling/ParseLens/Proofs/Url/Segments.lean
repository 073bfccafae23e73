import ParseLens.Url.Parse

set_option autoImplicit false

/-!
# Url: reading a path again

The segments of an address were read from a text in which characters may have been escaped, dots too,
and from which tabs and line breaks were dropped.  What is kept of a segment has none of this left:
it is `Settled`, so that reading it again keeps it as it is.

* `exists_dot_of_escape` says that escaping makes no dots, and `settled_keep` that what is kept is
  settled.
* `parsePath_text` says that a path of settled segments is read again as it is.
-/

namespace ParseLens.Url

variable {set : Char → Bool} {c : Char} {s t u : List Char}

/-! ## Escapes -/

theorem escape_cons_of_not_mem (h : set c = false) (s : List Char) :
    escape set (c :: s) = c :: escape set s := by
  simp [escape, h]

/-- The escape of a character starts with that of the first byte of its UTF-8 form. -/
theorem escape_cons_of_mem (h : set c = true) (s : List Char) : ∃ (b : UInt8) (t : List Char),
    (b.toNat = c.toNat ∨ 0x80 ≤ b.toNat) ∧ escape set (c :: s) = escapeByte b ++ t := by
  have hbytes : ∃ b bs, String.utf8EncodeChar c = b :: bs ∧
      (b.toNat = c.toNat ∨ 0x80 ≤ b.toNat) := by
    unfold String.utf8EncodeChar
    dsimp only
    split
    · refine ⟨_, _, rfl, .inl ?_⟩
      rw [UInt8.toNat_ofNat']
      exact Nat.mod_eq_of_lt (by omega)
    · split
      · refine ⟨_, _, rfl, .inr ?_⟩
        rw [UInt8.toNat_ofNat']
        omega
      · split
        · refine ⟨_, _, rfl, .inr ?_⟩
          rw [UInt8.toNat_ofNat']
          omega
        · refine ⟨_, _, rfl, .inr ?_⟩
          rw [UInt8.toNat_ofNat']
          omega
  obtain ⟨b, bs, hbs, hb⟩ := hbytes
  refine ⟨b, bs.flatMap escapeByte ++ escape set s, hb, ?_⟩
  simp [escape, h, hbs]

/-- The characters of an escape. -/
def escapeChars : List Char :=
  ['%', '0', '1', '2', '3', '4', '5', '6', '7', '8', '9', 'A', 'B', 'C', 'D', 'E', 'F']

theorem mem_escapeChars_of_mem_escapeByte {b : UInt8} (h : c ∈ escapeByte b) : c ∈ escapeChars := by
  have hdigit : ∀ n < 16, upperHexDigit n ∈ escapeChars := by decide
  have hb : b.toNat < 256 := b.toNat_lt
  simp only [escapeByte, List.mem_cons, List.not_mem_nil, or_false] at h
  rcases h with rfl | rfl | rfl
  · decide
  · exact hdigit _ (by omega)
  · exact hdigit _ (by omega)

/-- A character of an escaped text is one that needed no escape, or belongs to an escape. -/
theorem mem_escape (h : c ∈ escape set s) : c ∈ s ∧ set c = false ∨ c ∈ escapeChars := by
  obtain ⟨d, hd, hc⟩ := List.mem_flatMap.1 h
  split at hc
  · obtain ⟨b, -, hb⟩ := List.mem_flatMap.1 hc
    exact .inr (mem_escapeChars_of_mem_escapeByte hb)
  · rename_i hset
    obtain rfl := List.mem_singleton.1 hc
    exact .inl ⟨hd, by simpa using hset⟩

/-- Where an escaped text starts with another character than the percent sign, the text does. -/
theorem exists_of_escape_eq_cons (h : escape set s = c :: t) (hc : c ≠ '%') :
    ∃ s', s = c :: s' ∧ t = escape set s' := by
  cases s with
  | nil => simp [escape] at h
  | cons d s =>
    cases hset : set d with
    | true =>
      obtain ⟨b, u, -, hescape⟩ := escape_cons_of_mem hset s
      rw [hescape] at h
      exact absurd (List.cons.inj h).1.symm hc
    | false =>
      rw [escape_cons_of_not_mem hset] at h
      obtain ⟨rfl, rfl⟩ := List.cons.inj h
      exact ⟨s, rfl, rfl⟩

/-! ## Dots -/

/-- The first text starts with a dot, escaped or not; the second is what follows. -/
inductive Dot : List Char → List Char → Prop where
  | plain (s : List Char) : Dot ('.' :: s) s
  | lower (s : List Char) : Dot ('%' :: '2' :: 'e' :: s) s
  | upper (s : List Char) : Dot ('%' :: '2' :: 'E' :: s) s

theorem revealDots_eq_dot_cons_iff : revealDots s = '.' :: u ↔ ∃ t, Dot s t ∧ u = revealDots t := by
  constructor
  · intro h
    unfold revealDots at h
    split at h
    · exact ⟨_, .lower _, (List.cons.inj h).2.symm⟩
    · exact ⟨_, .upper _, (List.cons.inj h).2.symm⟩
    · obtain ⟨rfl, rfl⟩ := List.cons.inj h
      exact ⟨_, .plain _, rfl⟩
    · simp at h
  · rintro ⟨t, hdot, rfl⟩
    cases hdot with
    | plain => simp [revealDots]
    | lower => simp [revealDots]
    | upper => simp [revealDots]

theorem revealDots_eq_nil_iff : revealDots s = [] ↔ s = [] := by
  unfold revealDots
  split <;> simp

theorem isSingleDot_iff : isSingleDot s = true ↔ Dot s [] := by
  rw [isSingleDot, beq_iff_eq, revealDots_eq_dot_cons_iff]
  constructor
  · rintro ⟨t, hdot, ht⟩
    rwa [revealDots_eq_nil_iff.1 ht.symm] at hdot
  · intro hdot
    exact ⟨[], hdot, by simp [revealDots]⟩

theorem isDoubleDot_iff : isDoubleDot s = true ↔ ∃ t, Dot s t ∧ Dot t [] := by
  rw [isDoubleDot, beq_iff_eq, revealDots_eq_dot_cons_iff]
  refine exists_congr fun t => and_congr_right fun _ => ?_
  rw [← isSingleDot_iff, isSingleDot, beq_iff_eq, eq_comm]

theorem escape_eq_nil_iff : escape set s = [] ↔ s = [] := by
  constructor
  · intro h
    cases s with
    | nil => rfl
    | cons c s =>
      cases hset : set c with
      | true =>
        obtain ⟨b, t, -, hescape⟩ := escape_cons_of_mem hset s
        simp [hescape, escapeByte] at h
      | false => simp [escape_cons_of_not_mem hset] at h
  · rintro rfl
    rfl

/-- Escaping makes no dots: those of an escaped text were there before. -/
theorem exists_dot_of_escape (h : Dot (escape inPathSet s) u) :
    ∃ t, Dot s t ∧ u = escape inPathSet t := by
  have hcode {x : Char} (hx : x = 'e' ∨ x = 'E')
      (h : escape inPathSet s = '%' :: '2' :: x :: u) :
      ∃ t, s = '%' :: '2' :: x :: t ∧ u = escape inPathSet t := by
    cases s with
    | nil => simp [escape] at h
    | cons c s =>
      cases hset : inPathSet c with
      | true =>
        -- the escape of a full stop, but a full stop is not escaped
        obtain ⟨b, t, hb, hescape⟩ := escape_cons_of_mem hset s
        rw [hescape] at h
        simp only [escapeByte, List.cons_append, List.nil_append, List.cons.injEq, true_and] at h
        obtain ⟨htwo, hx', -⟩ := h
        have hlt : b.toNat < 256 := b.toNat_lt
        have hhigh : b.toNat / 16 = 2 := by
          have hdigit : ∀ n < 16, upperHexDigit n = '2' → n = 2 := by decide
          exact hdigit _ (by omega) htwo
        have hlow : b.toNat % 16 = 14 := by
          have hdigit : ∀ n < 16, upperHexDigit n = 'e' ∨ upperHexDigit n = 'E' → n = 14 := by
            decide
          exact hdigit _ (by omega) (hx' ▸ hx)
        have hstop : c.toNat = '.'.toNat := by
          have hvalue : '.'.toNat = 46 := rfl
          omega
        rw [Char.toNat_inj.1 hstop] at hset
        exact absurd hset (by decide)
      | false =>
        rw [escape_cons_of_not_mem hset] at h
        obtain ⟨rfl, htwo⟩ := List.cons.inj h
        obtain ⟨s, rfl, hrest⟩ := exists_of_escape_eq_cons htwo (by decide)
        have hne : x ≠ '%' := by rcases hx with rfl | rfl <;> decide
        obtain ⟨s, rfl, rfl⟩ := exists_of_escape_eq_cons hrest.symm hne
        exact ⟨s, rfl, rfl⟩
  generalize hs : escape inPathSet s = text at h
  cases h with
  | plain =>
    obtain ⟨t, rfl, rfl⟩ := exists_of_escape_eq_cons hs (by decide)
    exact ⟨t, .plain t, rfl⟩
  | lower =>
    obtain ⟨t, rfl, rfl⟩ := hcode (.inl rfl) hs
    exact ⟨t, .lower t, rfl⟩
  | upper =>
    obtain ⟨t, rfl, rfl⟩ := hcode (.inr rfl) hs
    exact ⟨t, .upper t, rfl⟩

theorem isSingleDot_of_escape (h : isSingleDot (escape inPathSet s) = true) :
    isSingleDot s = true := by
  obtain ⟨t, hdot, ht⟩ := exists_dot_of_escape (isSingleDot_iff.1 h)
  rw [escape_eq_nil_iff.1 ht.symm] at hdot
  exact isSingleDot_iff.2 hdot

theorem isDoubleDot_of_escape (h : isDoubleDot (escape inPathSet s) = true) :
    isDoubleDot s = true := by
  obtain ⟨t, hfirst, hsecond⟩ := isDoubleDot_iff.1 h
  obtain ⟨t, hdot, rfl⟩ := exists_dot_of_escape hfirst
  have hsingle := isSingleDot_of_escape (isSingleDot_iff.2 hsecond)
  exact isDoubleDot_iff.2 ⟨t, hdot, isSingleDot_iff.1 hsingle⟩

/-! ## Settled segments -/

/-- A segment that is kept as it is when it is read: it needs no escape, it does not end within, and
it does not stand for another segment. -/
structure Settled (s : List Char) : Prop where
  plain : ∀ c ∈ s, inPathSet c = false
  whole : ∀ c ∈ s, PathStyle.special.separates c = false
  single : isSingleDot s = false
  double : isDoubleDot s = false

theorem isLayout_iff : isLayout c = true ↔ c = '\t' ∨ c = '\n' ∨ c = '\r' := by
  simp [isLayout, or_assoc]

theorem not_isLayout_of_plain (h : inPathSet c = false) : isLayout c = false := by
  rw [Bool.eq_false_iff, ne_eq, isLayout_iff]
  rintro (rfl | rfl | rfl) <;> exact absurd h (by decide)

theorem Settled.visible_eq (h : Settled s) : visible s = s :=
  visible_eq_self fun c hc => not_isLayout_of_plain (h.plain c hc)

theorem Settled.keep_eq (h : Settled s) : keep s = String.ofList s := by
  rw [keep, escape_eq_self h.plain]

theorem settled_iff : Settled s ↔
    (s.all fun c => !inPathSet c && !PathStyle.special.separates c) = true ∧
      isSingleDot s = false ∧ isDoubleDot s = false := by
  simp only [List.all_eq_true, Bool.and_eq_true, Bool.not_eq_true']
  constructor
  · intro h
    exact ⟨fun c hc => ⟨h.plain c hc, h.whole c hc⟩, h.single, h.double⟩
  · rintro ⟨hchars, hsingle, hdouble⟩
    exact ⟨fun c hc => (hchars c hc).1, fun c hc => (hchars c hc).2, hsingle, hdouble⟩

instance : DecidablePred Settled := fun _ => decidable_of_iff _ settled_iff.symm

theorem settled_nil : Settled [] := by decide

/-- What is kept of a segment that is no dots is settled. -/
theorem settled_keep (hwhole : ∀ c ∈ s, PathStyle.special.separates c = false)
    (hsingle : isSingleDot s = false) (hdouble : isDoubleDot s = false) :
    Settled (keep s).toList := by
  have hchars : Settled escapeChars := by decide
  rw [keep, String.toList_ofList]
  refine ⟨fun c hc => ?_, fun c hc => ?_, ?_, ?_⟩
  · obtain ⟨-, hset⟩ | hc := mem_escape hc
    · exact hset
    · exact hchars.plain c hc
  · obtain ⟨hmem, -⟩ | hc := mem_escape hc
    · exact hwhole c hmem
    · exact hchars.whole c hc
  · exact Bool.eq_false_iff.2 fun h => by simp [isSingleDot_of_escape h] at hsingle
  · exact Bool.eq_false_iff.2 fun h => by simp [isDoubleDot_of_escape h] at hdouble

/-! ## Parts between separators -/

section Split

variable {style : PathStyle} {part : List Char} {parts : List (List Char)}

theorem splitSegments_ne_nil (style : PathStyle) (s : List Char) : splitSegments style s ≠ [] := by
  cases s with
  | nil => simp [splitSegments]
  | cons c s =>
    rw [splitSegments]
    split
    · simp
    · split <;> simp

theorem splitSegments_cons_of_separates (h : style.separates c = true) (s : List Char) :
    splitSegments style (c :: s) = [] :: splitSegments style s := by
  obtain ⟨part, parts, hparts⟩ := List.exists_cons_of_ne_nil (splitSegments_ne_nil style s)
  simp [splitSegments, hparts, h]

theorem splitSegments_cons_of_not_separates (h : style.separates c = false)
    (hs : splitSegments style s = part :: parts) :
    splitSegments style (c :: s) = (c :: part) :: parts := by
  simp [splitSegments, hs, h]

/-- What stands in front of the first separator belongs to the first part. -/
theorem splitSegments_append (h : ∀ c ∈ s, style.separates c = false)
    (ht : splitSegments style t = part :: parts) :
    splitSegments style (s ++ t) = (s ++ part) :: parts := by
  induction s with
  | nil => exact ht
  | cons c s ih =>
    obtain ⟨hc, hs⟩ := List.forall_mem_cons.1 h
    exact splitSegments_cons_of_not_separates hc (ih hs)

/-- No part holds a separator. -/
theorem not_separates_of_mem_splitSegments (h : part ∈ splitSegments style s) (hc : c ∈ part) :
    style.separates c = false := by
  induction s generalizing part with
  | nil =>
    obtain rfl : part = [] := by simpa [splitSegments] using h
    simp at hc
  | cons d s ih =>
    obtain ⟨first, parts, hparts⟩ := List.exists_cons_of_ne_nil (splitSegments_ne_nil style s)
    cases hd : style.separates d with
    | true =>
      rw [splitSegments_cons_of_separates hd] at h
      obtain rfl | h := List.mem_cons.1 h
      · simp at hc
      · exact ih h hc
    | false =>
      rw [splitSegments_cons_of_not_separates hd hparts] at h
      obtain rfl | h := List.mem_cons.1 h
      · obtain rfl | hc := List.mem_cons.1 hc
        · exact hd
        · exact ih (hparts ▸ List.mem_cons_self) hc
      · exact ih (hparts ▸ List.mem_cons_of_mem first h) hc

/-- Parts behind slashes are told apart again. -/
theorem splitSegments_flatMap (hpart : ∀ c ∈ part, style.separates c = false)
    (hparts : ∀ p ∈ parts, ∀ c ∈ p, style.separates c = false) :
    splitSegments style (part ++ parts.flatMap ('/' :: ·)) = part :: parts := by
  induction parts generalizing part with
  | nil =>
    have hsplit := splitSegments_append (t := []) hpart rfl
    simpa using hsplit
  | cons next parts ih =>
    obtain ⟨hnext, hparts⟩ := List.forall_mem_cons.1 hparts
    have hslash : style.separates '/' = true := by cases style <;> decide
    have hrest : splitSegments style ('/' :: (next ++ parts.flatMap ('/' :: ·))) =
        [] :: next :: parts := by
      rw [splitSegments_cons_of_separates hslash, ih hnext hparts]
    have hsplit := splitSegments_append hpart hrest
    simpa using hsplit

end Split

/-! ## Paths -/

section Paths

variable {l : List String} {parts : List (List Char)}

/-- All segments of a path are settled. -/
def AllSettled (l : List String) : Prop := ∀ s ∈ l, Settled s.toList

instance : DecidablePred AllSettled := fun l =>
  inferInstanceAs (Decidable (∀ s ∈ l, Settled s.toList))

theorem AllSettled.append_singleton (h : AllSettled l) {seg : String} (hseg : Settled seg.toList) :
    AllSettled (l ++ [seg]) := by
  intro s hs
  obtain hs | hs := List.mem_append.1 hs
  · exact h s hs
  · rw [List.mem_singleton.1 hs]
    exact hseg

theorem AllSettled.takeBack (h : AllSettled l) : AllSettled (takeBack l) := by
  rcases takeBack_eq_or l with heq | heq
  · rwa [heq]
  · rw [heq]
    exact fun s hs => h s ((List.dropLast_sublist l).subset hs)

theorem addSegment_of_double {style : PathStyle} (h : isDoubleDot (visible s) = true)
    (l : List String) (last : Bool) :
    addSegment style l s last = if last then takeBack l ++ [""] else takeBack l := by
  rw [addSegment, if_pos h]

theorem addSegment_of_single {style : PathStyle} (hdouble : isDoubleDot (visible s) = false)
    (h : isSingleDot (visible s) = true) (l : List String) (last : Bool) :
    addSegment style l s last = if last then l ++ [""] else l := by
  rw [addSegment, if_neg (by simp [hdouble]), if_pos h]

/-- A scheme of the web keeps a segment that is no dots. -/
theorem addSegment_of_plain (hdouble : isDoubleDot (visible s) = false)
    (hsingle : isSingleDot (visible s) = false) (l : List String) (last : Bool) :
    addSegment .special l s last = l ++ [keep (visible s)] := by
  rw [addSegment, if_neg (by simp [hdouble]), if_neg (by simp [hsingle]), if_neg (by simp)]

theorem AllSettled.addSegment (h : AllSettled l)
    (hs : ∀ c ∈ s, PathStyle.special.separates c = false) (last : Bool) :
    AllSettled (addSegment .special l s last) := by
  have hclosed {l : List String} (h : AllSettled l) :
      AllSettled (if last then l ++ [""] else l) := by
    split
    · exact h.append_singleton settled_nil
    · exact h
  cases hdouble : isDoubleDot (visible s) with
  | true =>
    rw [addSegment_of_double hdouble]
    exact hclosed h.takeBack
  | false =>
    cases hsingle : isSingleDot (visible s) with
    | true =>
      rw [addSegment_of_single hdouble hsingle]
      exact hclosed h
    | false =>
      have hvisible : ∀ c ∈ visible s, PathStyle.special.separates c = false :=
        fun c hc => hs c (List.mem_filter.1 hc).1
      rw [addSegment_of_plain hdouble hsingle]
      exact h.append_singleton (settled_keep hvisible hsingle hdouble)

theorem AllSettled.addSegments (h : AllSettled l)
    (hparts : ∀ p ∈ parts, ∀ c ∈ p, PathStyle.special.separates c = false) :
    AllSettled (addSegments .special l parts) := by
  induction parts generalizing l with
  | nil => exact h
  | cons p parts ih =>
    obtain ⟨hp, hparts⟩ := List.forall_mem_cons.1 hparts
    exact ih (h.addSegment hp _) hparts

/-- Behind its last segment a path is not empty. -/
theorem addSegments_ne_nil (l : List String) (hparts : parts ≠ []) :
    addSegments .special l parts ≠ [] := by
  induction parts generalizing l with
  | nil => exact absurd rfl hparts
  | cons p parts ih =>
    rw [Url.addSegments]
    cases parts with
    | nil =>
      rw [Url.addSegments]
      cases hdouble : isDoubleDot (visible p) with
      | true => simp [addSegment_of_double hdouble]
      | false =>
        cases hsingle : isSingleDot (visible p) with
        | true => simp [addSegment_of_single hdouble hsingle]
        | false => simp [addSegment_of_plain hdouble hsingle]
    | cons q parts => exact ih _ (List.cons_ne_nil q parts)

theorem allSettled_parsePath (s : List Char) : AllSettled (parsePath .special s) := by
  have hnil : AllSettled [] := by simp [AllSettled]
  rw [parsePath, if_neg (by simp)]
  exact hnil.addSegments fun p hp c hc => not_separates_of_mem_splitSegments hp hc

theorem parsePath_ne_nil (s : List Char) : parsePath .special s ≠ [] := by
  rw [parsePath, if_neg (by simp)]
  exact addSegments_ne_nil [] (splitSegments_ne_nil _ _)

/-- Settled segments are added as they are. -/
theorem addSegments_of_settled (h : AllSettled l) (front : List String) :
    addSegments .special front (l.map String.toList) = front ++ l := by
  induction l generalizing front with
  | nil => simp [addSegments]
  | cons s l ih =>
    have hs : Settled s.toList := h s List.mem_cons_self
    have hl : AllSettled l := fun t ht => h t (List.mem_cons_of_mem s ht)
    have hdouble : isDoubleDot (visible s.toList) = false := by rw [hs.visible_eq, hs.double]
    have hsingle : isSingleDot (visible s.toList) = false := by rw [hs.visible_eq, hs.single]
    rw [List.map_cons, addSegments, addSegment_of_plain hdouble hsingle, hs.visible_eq, hs.keep_eq,
      String.ofList_toList, ih hl, List.append_assoc, List.singleton_append]

theorem toList_text_segments (l : List String) :
    (Path.segments l).text.toList = (l.map String.toList).flatMap ('/' :: ·) := by
  simp [Path.text, List.flatMap_map]

/-- The text of a path is read again as the path. -/
theorem parsePath_text (h : AllSettled l) (hne : l ≠ []) :
    parsePath .special (Path.segments l).text.toList = l := by
  obtain ⟨s, l, rfl⟩ := List.exists_cons_of_ne_nil hne
  have hwhole : ∀ t ∈ s :: l, ∀ c ∈ t.toList, PathStyle.special.separates c = false :=
    fun t ht => (h t ht).whole
  obtain ⟨hs, hl⟩ := List.forall_mem_cons.1 hwhole
  have hcut : cutSeparator? .special (Path.segments (s :: l)).text.toList =
      some (s.toList ++ (l.map String.toList).flatMap ('/' :: ·)) := by
    rw [toList_text_segments]
    rfl
  have hsplit : splitSegments .special (s.toList ++ (l.map String.toList).flatMap ('/' :: ·)) =
      (s :: l).map String.toList :=
    splitSegments_flatMap hs (List.forall_mem_map.2 hl)
  rw [parsePath, if_neg (by simp), hcut, Option.getD_some, hsplit, addSegments_of_settled h]
  rfl

end Paths

end ParseLens.Url
