import ParseLens.Json.Record
import ParseLens.Proofs.Json.ReadBack

set_option autoImplicit false

/-!
# JSON: written records read back

A record that was written as an object is read member by member.  `RecordType.Fills` says what a
list of members makes of a record whose fields are filled one after the other;
`RecordType.readsBack` says that this is what the reader of the record does.
-/

namespace ParseLens.Json.RecordType

variable {α : Type} {r : RecordType α} {k : Nat}

/-- The members are fields of the record that have not been seen, and reading them one after the
other turns the record `a`, with the fields `seen`, into the record `b`, with the fields `seen'`. -/
inductive Fills (r : RecordType α) (k : Nat) :
    List String → α → List (String × Value) → List String → α → Prop
  | done (seen : List String) (a : α) : Fills r k seen a [] seen a
  | member {seen seen' : List String} {a b : α} {name : String} {v : Value}
      {ms : List (String × Value)} {f : Field α} {set : α → α} :
      r.fields.find? (fun f => f.name == name) = some f → name ∉ seen →
      ReadsBack k f.decoder v set → Fills r k (name :: seen) (set a) ms seen' b →
      Fills r k seen a ((name, v) :: ms) seen' b

/-- The member of a field that has to be there fills the field. -/
theorem Fills.field {β : Type} {d : Decoder β} {set : α → β → α} {seen seen' : List String}
    {a c : α} {b : β} {name : String} {v : Value} {ms : List (String × Value)}
    (hfield : r.fields.find? (fun f => f.name == name) = some (field name d set))
    (hseen : name ∉ seen) (hv : ReadsBack k d v b)
    (hrest : Fills r k (name :: seen) (set a b) ms seen' c) :
    Fills r k seen a ((name, v) :: ms) seen' c :=
  .member hfield hseen (hv.map fun b a => set a b) hrest

/-- So does the member of a field that may be absent. -/
theorem Fills.blankField {β : Type} {d : Decoder β} {set : α → β → α} {seen seen' : List String}
    {a c : α} {b : β} {name : String} {v : Value} {ms : List (String × Value)}
    (hfield : r.fields.find? (fun f => f.name == name) = some (blankField name d set))
    (hseen : name ∉ seen) (hv : ReadsBack k d v b)
    (hrest : Fills r k (name :: seen) (set a b) ms seen' c) :
    Fills r k seen a ((name, v) :: ms) seen' c :=
  .member hfield hseen (hv.map fun b a => set a b) hrest

/-! ## Members -/

section Steps

variable {room : Nat} {seen : List String} {a : α} {first : Bool} {s t u v rest : List Char}

theorem readMembers_of_close (h : skipBlank s = '}' :: t) :
    r.readMembers room seen a first s = .ok ((seen, a), s) := by
  rw [readMembers]
  split
  · rename_i hn
    rw [nextMember_of_close h] at hn
    simp at hn
  · rfl
  · rename_i hn
    rw [nextMember_of_close h] at hn
    simp at hn

/-- Reading the member of a field that has not been seen goes on with the field filled. -/
theorem readMembers_member {name : String} {f : Field α} {set : α → α}
    (hfield : r.fields.find? (fun f => f.name == name) = some f) (hseen : name ∉ seen)
    (hn : nextMember first s = .ok (some t)) (hs : readString t = .ok (name.toList, u))
    (hc : readColon u = .ok v) (hr : (f.decoder room).run v = .ok (set, rest)) :
    r.readMembers room seen a first s = r.readMembers room (name :: seen) (set a) false rest := by
  have hseen' : seen.contains name = false := by simpa using hseen
  rw [readMembers]
  split
  · rename_i hn'
    simp [hn] at hn'
  · rename_i hn'
    simp [hn] at hn'
  · rename_i hn'
    obtain rfl : t = _ := by simpa [hn] using hn'
    split
    · rename_i hs'
      simp [hs] at hs'
    · rename_i hs'
      simp only [hs, Except.ok.injEq, Prod.mk.injEq] at hs'
      obtain ⟨rfl, rfl⟩ := hs'
      simp only [String.ofList_toList, hfield, hseen']
      rw [if_neg Bool.false_ne_true]
      split
      · rename_i hc'
        simp [hc] at hc'
      · rename_i hc'
        obtain rfl : v = _ := by simpa [hc] using hc'
        split
        · rename_i hr'
          simp [hr] at hr'
        · rename_i hr'
          simp only [hr, Except.ok.injEq, Prod.mk.injEq] at hr'
          rw [← hr'.1, ← hr'.2]

end Steps

/-- Written members are read one by one, up to the closing bracket. -/
theorem readMembers_printMembers {seen seen' : List String} {a b : α}
    {ms : List (String × Value)} (h : Fills r k seen a ms seen' b) (sp : Spacing) (depth : Nat)
    {room : Nat} (hroom : k ≤ room) {rest t : List Char} (hbounded : Bounded rest)
    (hrest : skipBlank rest = '}' :: t) (first : Bool) :
    r.readMembers room seen a first (Value.printMembers sp depth first ms ++ rest) =
      .ok ((seen', b), rest) := by
  induction h generalizing first with
  | done seen a => exact readMembers_of_close hrest
  | @member seen seen' a b name v ms f set hfield hseen hv _ ih =>
    let after := Value.printMembers sp depth false ms ++ rest
    obtain ⟨u, hu, hname⟩ :=
      readString_literal name (':' :: (sp.afterColon ++ v.print sp depth ++ after))
    have hnext : nextMember first (Value.printMembers sp depth first ((name, v) :: ms) ++ rest) =
        .ok (some u) := by
      have := nextMember_separator first (sp.blanks_lineBreak depth) u
      rw [← hu] at this
      simpa [Value.printMembers_cons, after] using this
    have hrun := hv.run sp depth room sp.afterColon after hroom sp.blanks_afterColon
      (Value.bounded_printMembers sp depth ms hbounded)
    rw [readMembers_member hfield hseen hnext hname (readColon_colon _) hrun]
    exact ih false

/-! ## Records -/

/-- A record in the form of an object is read when its members fill it and none is missing. -/
theorem readsBack {seen : List String} {a : α} {ms : List (String × Value)}
    (h : Fills r k [] r.blank ms seen a) (hmissing : r.missing seen = none) :
    ReadsBack (k + 1) r.decoder (.object ms) a := by
  refine .of_object ?_
  intro sp depth room ws ws' rest hroom hws hws'
  have hclose : skipBlank (ws' ++ '}' :: rest) = '}' :: rest :=
    skipBlank_blanks_append hws' rfl rest
  have hbounded : Bounded (ws' ++ '}' :: rest) := bounded_blanks_append hws' (by simp [Bounded])
  have hread := readMembers_printMembers h sp depth hroom hbounded hclose true
  rw [decoder, Reader.run_ofBrackets_object hws, Decoder.inside_succ]
  simp only [ofMembers, hread, hmissing, closeObject_of_close hclose]

end ParseLens.Json.RecordType
