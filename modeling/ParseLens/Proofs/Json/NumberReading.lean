import ParseLens.Json.Tree
import ParseLens.Proofs.Json.HeadForm

set_option autoImplicit false

/-!
# JSON: numbers are read alike wherever they stand

A number has no end of its own.  What is read of it may depend on what follows, but only on whether
the number goes on there: in front of white space, a comma or a closing bracket a number is read as
it is at the end of a text.

* `readNumber_append` says so of the reader of numbers.
* `Value.run_decoder_number` says the same of a number that is read where any value may stand, and
  its likes say it of the other values without parts.
-/

namespace ParseLens.Json

variable {s rest more ds : List Char} {negative : Bool} {n : Number}

/-- A character that neither text starts with does not come first when they are put together. -/
theorem append_ne_cons {c : Char} (hs : ∀ u, s ≠ c :: u) (hmore : ∀ u, more ≠ c :: u)
    (u : List Char) : s ++ more ≠ c :: u := by
  cases s with
  | nil => exact hmore u
  | cons d s =>
    intro heq
    exact hs s (by rw [(List.cons.inj heq).1])

/-! ## Digits -/

theorem DigitsEnd.append (h : DigitsEnd s) (h' : DigitsEnd more) : DigitsEnd (s ++ more) := by
  cases s with
  | nil => exact h'
  | cons c s =>
    rintro d t heq
    obtain ⟨rfl, -⟩ := List.cons.inj heq
    exact h c s rfl

theorem digitsEnd_spanDigits (s : List Char) : DigitsEnd (spanDigits s).2 := by
  rintro c t heq
  have hhead := List.head?_dropWhile_not Char.isDigit s
  rw [show s.dropWhile Char.isDigit = c :: t from heq] at hhead
  simpa using hhead

theorem spanDigits_append_right (s : List Char) (hend : DigitsEnd more) :
    spanDigits (s ++ more) = ((spanDigits s).1, (spanDigits s).2 ++ more) := by
  have hs : s ++ more = (spanDigits s).1 ++ ((spanDigits s).2 ++ more) := by
    rw [← List.append_assoc, spanDigits, List.takeWhile_append_dropWhile]
  rw [hs]
  exact spanDigits_append (fun c hc => List.mem_takeWhile_imp hc)
    ((digitsEnd_spanDigits s).append hend)

theorem readWhole_append (h : readWhole s = .ok (ds, rest)) (hend : DigitsEnd more) :
    readWhole (s ++ more) = .ok (ds, rest ++ more) := by
  unfold readWhole at h
  split at h
  · simp at h
  · split at h
    · rename_i c t
      split at h
      · simp at h
      · rename_i hc
        obtain ⟨rfl, rfl⟩ := Prod.mk.inj (Except.ok.inj h)
        simp [readWhole, hc]
    · obtain ⟨rfl, rfl⟩ := Prod.mk.inj (Except.ok.inj h)
      cases more with
      | nil => rfl
      | cons c t => simp [readWhole, hend c t rfl]
  · rename_i c t hzero
    split at h
    · rename_i hc
      obtain ⟨rfl, rfl⟩ := Prod.mk.inj (Except.ok.inj h)
      rw [List.cons_append, readWhole]
      · rw [if_pos hc, ← List.cons_append, spanDigits_append_right _ hend]
        rfl
      · exact hzero
    · simp at h

theorem readFraction_eq_ok_iff :
    readFraction s = .ok (ds, rest) ↔ spanDigits s = (ds, rest) ∧ ds ≠ [] := by
  unfold readFraction
  obtain ⟨digits, t, hspan⟩ : ∃ digits t, spanDigits s = (digits, t) := ⟨_, _, rfl⟩
  rw [hspan]
  cases digits with
  | nil =>
    refine iff_of_false ?_ ?_
    · cases t <;> simp
    · rintro ⟨heq, hne⟩
      exact hne (Prod.mk.inj heq).1.symm
  | cons d digits =>
    simp only [Except.ok.injEq, Prod.mk.injEq]
    refine ⟨fun h => ⟨h, ?_⟩, fun h => h.1⟩
    rw [← h.1]
    exact List.cons_ne_nil d digits

theorem readFraction_append (h : readFraction s = .ok (ds, rest)) (hend : DigitsEnd more) :
    readFraction (s ++ more) = .ok (ds, rest ++ more) := by
  obtain ⟨hspan, hne⟩ := readFraction_eq_ok_iff.1 h
  refine readFraction_eq_ok_iff.2 ⟨?_, hne⟩
  rw [spanDigits_append_right s hend, hspan]

/-! ## Powers of ten -/

theorem splitSign_append {c : Char} {t : List Char} (h : splitSign s = (negative, c :: t))
    (more : List Char) : splitSign (s ++ more) = (negative, c :: (t ++ more)) := by
  unfold splitSign at h
  split at h
  · obtain ⟨rfl, rfl⟩ := Prod.mk.inj h
    rfl
  · obtain ⟨rfl, rfl⟩ := Prod.mk.inj h
    rfl
  · rename_i hplus hminus
    obtain ⟨rfl, rfl⟩ := Prod.mk.inj h
    rw [List.cons_append, splitSign]
    · exact fun u heq => hplus t (by rw [(List.cons.inj heq).1])
    · exact fun u heq => hminus t (by rw [(List.cons.inj heq).1])

theorem readExponent_append {x : Bool × List Char} (h : readExponent s = .ok (x, rest))
    (hend : DigitsEnd more) : readExponent (s ++ more) = .ok (x, rest ++ more) := by
  unfold readExponent at h
  split at h
  · simp at h
  · rename_i negative c t hsign
    split at h
    · rename_i hc
      obtain ⟨rfl, rfl⟩ := Prod.mk.inj (Except.ok.inj h)
      have hspan := spanDigits_append_right (c :: t) hend
      rw [List.cons_append] at hspan
      simp only [readExponent, splitSign_append hsign, hc, if_true, hspan]
    · simp at h

theorem realOf_append {significand : Nat} {exponent : Int}
    (h : realOf negative significand exponent s = .ok (n, rest)) (more : List Char) :
    realOf negative significand exponent (s ++ more) = .ok (n, rest ++ more) := by
  unfold realOf at h ⊢
  split at h
  · obtain ⟨rfl, rfl⟩ := Prod.mk.inj (Except.ok.inj h)
    rfl
  · simp at h

theorem finishReal_append {significand : Nat} {exponent : Int}
    (h : finishReal negative significand exponent s = .ok (n, rest)) (hend : NumberEnds more) :
    finishReal negative significand exponent (s ++ more) = .ok (n, rest ++ more) := by
  cases s with
  | nil =>
    have hreal := realOf_append h more
    cases more with
    | nil => exact hreal
    | cons c t =>
      obtain ⟨-, -, he, hE⟩ := hend c t rfl
      simpa [finishReal, he, hE] using hreal
  | cons c t =>
    rw [List.cons_append]
    unfold finishReal at h ⊢
    simp only at h ⊢
    split at h
    · rename_i hc
      rw [if_pos hc]
      split at h
      · simp at h
      · rename_i down digits u hexponent
        rw [readExponent_append hexponent hend.digitsEnd]
        simp only
        split at h
        · exact realOf_append h more
        · split at h
          · simp at h
          · rename_i hlarge
            obtain ⟨rfl, rfl⟩ := Prod.mk.inj (Except.ok.inj h)
            rw [if_neg hlarge]
    · rename_i hc
      rw [if_neg hc, ← List.cons_append]
      exact realOf_append h more

/-! ## Numbers -/

theorem readUnsigned_append (h : readUnsigned negative s = .ok (n, rest)) (hend : NumberEnds more) :
    readUnsigned negative (s ++ more) = .ok (n, rest ++ more) := by
  unfold readUnsigned at h ⊢
  split at h
  · simp at h
  · rename_i whole t hwhole
    rw [readWhole_append hwhole hend.digitsEnd]
    simp only at h ⊢
    split at h
    · split at h
      · simp at h
      · rename_i digits u hfraction
        simp only [List.cons_append, readFraction_append hfraction hend.digitsEnd]
        exact finishReal_append h hend
    · exact finishReal_append h hend
    · exact finishReal_append h hend
    · rename_i hpoint he hE
      -- what follows adds no point and no power of ten
      split
      · rename_i heq
        exact (append_ne_cons hpoint (fun u hu => (hend _ u hu).2.1 rfl) _ heq).elim
      · rename_i heq
        exact (append_ne_cons he (fun u hu => (hend _ u hu).2.2.1 rfl) _ heq).elim
      · rename_i heq
        exact (append_ne_cons hE (fun u hu => (hend _ u hu).2.2.2 rfl) _ heq).elim
      · split at h
        · rename_i hdropped
          rw [if_pos hdropped]
          exact finishReal_append h hend
        · rename_i hdropped
          rw [if_neg hdropped]
          split at h
          · rename_i hnegative
            obtain ⟨rfl, rfl⟩ := Prod.mk.inj (Except.ok.inj h)
            rw [if_pos hnegative]
          · rename_i hnegative
            rw [if_neg hnegative]
            split at h
            · rename_i hrange
              obtain ⟨rfl, rfl⟩ := Prod.mk.inj (Except.ok.inj h)
              rw [if_pos hrange]
            · rename_i hrange
              obtain ⟨rfl, rfl⟩ := Prod.mk.inj (Except.ok.inj h)
              rw [if_neg hrange]

/-- What follows a number does not matter if the number does not go on there. -/
theorem readNumber_append (h : readNumber s = .ok (n, rest)) (hend : NumberEnds more) :
    readNumber (s ++ more) = .ok (n, rest ++ more) := by
  unfold readNumber at h
  split at h
  · exact readUnsigned_append h hend
  · rename_i hminus
    have hread := readUnsigned_append h hend
    cases s with
    | nil => simp [readUnsigned, readWhole] at h
    | cons c s =>
      rw [List.cons_append, readNumber]
      · exact hread
      · exact fun u heq => hminus s (by rw [(List.cons.inj heq).1])

/-- A number that is read starts with a minus sign or a digit. -/
theorem exists_eq_cons_of_readNumber (h : readNumber s = .ok (n, rest)) :
    ∃ c t, s = c :: t ∧ (c = '-' ∨ c.isDigit = true) := by
  unfold readNumber at h
  split at h
  · exact ⟨_, _, rfl, .inl rfl⟩
  · unfold readUnsigned at h
    split at h
    · simp at h
    · rename_i hwhole
      unfold readWhole at hwhole
      split at hwhole
      · simp at hwhole
      · exact ⟨_, _, rfl, .inr (by decide)⟩
      · split at hwhole
        · rename_i hc
          exact ⟨_, _, rfl, .inr hc⟩
        · simp at hwhole

/-! ## Values -/

namespace Value

theorem exists_decoder_eq (room : Nat) :
    ∃ list object, decoder room = readerWith list object := by
  cases room with
  | zero => exact ⟨_, _, rfl⟩
  | succ room => exact ⟨_, _, rfl⟩

/-- A number is read where any value may stand. -/
theorem run_decoder_number {v : List Char} (room : Nat) (h : readNumber v = .ok (n, []))
    (hs : Gap s (v ++ rest)) (hrest : Bounded rest) :
    (decoder room).run s = .ok (.number n, rest) := by
  obtain ⟨c, t, rfl, hc⟩ := exists_eq_cons_of_readNumber h
  have hskip : skipBlank s = c :: (t ++ rest) := hs.skipBlank_cons (not_isBlank_of_number hc).1
  have hhead : readHead (c :: (t ++ rest)) = .ok (.number n, rest) :=
    readHead_of_number hc (readNumber_append h hrest.numberEnds)
  obtain ⟨list, object, hdecoder⟩ := exists_decoder_eq room
  simp only [hdecoder, readerWith, hskip, hhead]

theorem run_decoder_null (room : Nat) (hs : Gap s (['n', 'u', 'l', 'l'] ++ rest)) :
    (decoder room).run s = .ok (.null, rest) := by
  obtain ⟨list, object, hdecoder⟩ := exists_decoder_eq room
  simp only [hdecoder, readerWith, readHead_of_null hs]

theorem run_decoder_string {v : List Char} {text : String} (room : Nat) (h : IsText v text)
    (hs : Gap s (v ++ rest)) : (decoder room).run s = .ok (.string text, rest) := by
  obtain ⟨list, object, hdecoder⟩ := exists_decoder_eq room
  simp only [hdecoder, readerWith, readHead_of_isText h hs]

end Value

end ParseLens.Json
