import ParseLens.Proofs.Json.Contents
import ParseLens.Proofs.Json.RecordForm

set_option autoImplicit false

/-!
# JSON: records in any text

Whoever sends a record may order its members as he likes, put white space between all parts, spell
the names with escapes and add members of his own; or he may send an array of the fields.
`RecordType.Takes` and `RecordType.TakesInOrder` say what a record becomes by what stands between
the brackets, and `Given` says the same of one field.

* `RecordType.run_decoder_iff` says what exactly the reader of a record reads.
* `RecordType.Takes.given` and `RecordType.exists_takes` are about its fields, one by one.
-/

namespace ParseLens.Json

variable {first : Bool} {s t u v rest : List Char} {ms : List (String × List Char)}
  {vs : List (List Char)}

theorem Field.name_of_find? {α : Type} {fs : List (Field α)} {f : Field α} {name : String}
    (h : fs.find? (fun f => f.name == name) = some f) : f.name = name := by
  simpa using List.find?_some h

namespace RecordType

variable {α : Type} {r : RecordType α} {room : Nat} {D : Field α → List Char → (α → α) → Prop}
  {seen seen' : List String} {a b : α}

/-! ## What a record becomes -/

/-- `D f v set` says that the field `f` takes the text `v` for a value and changes the record by
`set`: the reader of the field reads such texts. -/
structure Admits (r : RecordType α) (room : Nat) (D : Field α → List Char → (α → α) → Prop) :
    Prop where
  complete : ∀ f ∈ r.fields, ∀ v set, D f v set → ∀ s rest, Gap s (v ++ rest) → Bounded rest →
    (f.decoder room).run s = .ok (set, rest)

/-- The same, where the reader of the field reads exactly these texts. -/
structure Describes (r : RecordType α) (room : Nat) (D : Field α → List Char → (α → α) → Prop) :
    Prop extends Admits r room D where
  sound : ∀ f ∈ r.fields, ∀ s set rest, (f.decoder room).run s = .ok (set, rest) →
    ∃ v, Gap s (v ++ rest) ∧ D f v set
  form : ∀ f v set, D f v set → ∀ rest, Form .value (v ++ rest) rest

/-- The members turn the record `a`, with the fields `seen`, into the record `b`, with the fields
`seen'`.  A field is not there twice; members with other names change nothing. -/
inductive Takes (r : RecordType α) (D : Field α → List Char → (α → α) → Prop) :
    List String → α → List (String × List Char) → List String → α → Prop where
  | done (seen : List String) (a : α) : Takes r D seen a [] seen a
  | field {seen seen' : List String} {a b : α} {name : String} {v : List Char}
      {ms : List (String × List Char)} {f : Field α} {set : α → α}
      (hfield : r.fields.find? (fun f => f.name == name) = some f) (hseen : name ∉ seen)
      (hv : D f v set) (h : Takes r D (name :: seen) (set a) ms seen' b) :
      Takes r D seen a ((name, v) :: ms) seen' b
  | other {seen seen' : List String} {a b : α} {name : String} {v : List Char}
      {ms : List (String × List Char)}
      (hfield : r.fields.find? (fun f => f.name == name) = none)
      (h : Takes r D seen a ms seen' b) : Takes r D seen a ((name, v) :: ms) seen' b

/-- The elements fill the given fields of the record `a` in order, which gives `b`. -/
inductive TakesInOrder (D : Field α → List Char → (α → α) → Prop) :
    List (Field α) → α → List (List Char) → α → Prop where
  | done (a : α) : TakesInOrder D [] a [] a
  | absent {f : Field α} {fs : List (Field α)} {a b : α} (hf : f.absence = .blank)
      (h : TakesInOrder D fs a [] b) : TakesInOrder D (f :: fs) a [] b
  | field {f : Field α} {fs : List (Field α)} {a b : α} {v : List Char} {vs : List (List Char)}
      {set : α → α} (hv : D f v set) (h : TakesInOrder D fs (set a) vs b) :
      TakesInOrder D (f :: fs) a (v :: vs) b

/-- A field that has to be in an array takes its first element. -/
theorem TakesInOrder.exists_of_cons {f : Field α} {fs : List (Field α)}
    (h : TakesInOrder D (f :: fs) a vs b) (hf : f.absence ≠ .blank) :
    ∃ v vs' set, vs = v :: vs' ∧ D f v set ∧ TakesInOrder D fs (set a) vs' b := by
  cases h with
  | absent habsent => exact absurd habsent hf
  | field hv h => exact ⟨_, _, _, rfl, hv, h⟩

/-! ## Records in the form of objects -/

/-- Reading a member that is no field goes on with the same record. -/
theorem readMembers_other {name : String}
    (hfield : r.fields.find? (fun f => f.name == name) = none)
    (hn : nextMember first s = .ok (some t)) (hs : readString t = .ok (name.toList, u))
    (hc : readColon u = .ok v) (hp : Reader.pass.run v = .ok ((), rest)) :
    r.readMembers room seen a first s = r.readMembers room seen a false rest := by
  rw [readMembers]
  split
  · rename_i hn'
    simp [hn] at hn'
  · rename_i hn'
    simp [hn] at hn'
  · rename_i hn'
    obtain rfl : t = _ := by simpa [hn] using hn'
    split
    · rename_i hs'
      simp [hs] at hs'
    · rename_i hs'
      simp only [hs, Except.ok.injEq, Prod.mk.injEq] at hs'
      obtain ⟨rfl, rfl⟩ := hs'
      simp only [String.ofList_toList, hfield]
      split
      · rename_i hc'
        simp [hc] at hc'
      · rename_i hc'
        obtain rfl : v = _ := by simpa [hc] using hc'
        split
        · rename_i hp'
          simp [hp] at hp'
        · rename_i hp'
          simp only [hp, Except.ok.injEq, Prod.mk.injEq] at hp'
          rw [← hp'.2]

/-- Members that a record takes are read, up to the closing bracket. -/
theorem readMembers_of_takes (hD : r.Admits room D) (hms : Members first s ms rest)
    (h : Takes r D seen a ms seen' b) :
    ∃ t, r.readMembers room seen a first s = .ok ((seen', b), t) ∧ Gap t ('}' :: rest) := by
  induction hms generalizing seen a with
  | @close first s rest hs =>
    cases h
    exact ⟨s, readMembers_of_close (hs.skipBlank_cons (by decide)), hs⟩
  | @member first s literal t c v u rest name ms hs hname hcolon hv hvalue hms ih =>
    have hbounded : Bounded u := hms.form.bounded (.inr rfl)
    have hn := nextMember_eq_some_iff.2 hs
    have hread := readString_eq_ok_iff.2 hname
    have hc := readColon_eq_ok_iff.2 hcolon
    cases h with
    | field hfield hseen hset h =>
      have hr := hD.complete _ (List.mem_of_find?_eq_some hfield) _ _ hset c u hv hbounded
      rw [readMembers_member hfield hseen hn hread hc hr]
      exact ih h
    | other hfield h =>
      rw [readMembers_other hfield hn hread hc (run_pass_of_form hvalue hv hbounded)]
      exact ih h

/-- Whatever members are read, the record takes them. -/
theorem takes_of_readMembers (hD : r.Describes room D)
    (h : r.readMembers room seen a first s = .ok ((seen', b), t)) :
    ∃ rest ms, Gap t ('}' :: rest) ∧ Members first s ms rest ∧ Takes r D seen a ms seen' b := by
  fun_induction readMembers r room seen a first s with
  | case1 => simp at h
  | case2 seen a first s hn =>
    simp only [Except.ok.injEq, Prod.mk.injEq] at h
    obtain ⟨⟨rfl, rfl⟩, rfl⟩ := h
    obtain ⟨rest, hs⟩ := nextMember_eq_none hn
    exact ⟨rest, [], hs, .close hs, .done _ _⟩
  | case3 => simp at h
  | case4 => simp at h
  | case5 => simp at h
  | case6 seen a first s literal hn cs w hname name hfield c hc x u hp ih =>
    obtain ⟨rest, ms, hrest, hms, htakes⟩ := ih h
    obtain ⟨t', hgap, hform⟩ := form_of_run_pass hp
    obtain ⟨v, rfl⟩ := hform.suffix
    have hspells : Spells literal name.toList w := by
      rw [String.toList_ofList]
      exact readString_eq_ok_iff.1 hname
    exact ⟨rest, (name, v) :: ms, hrest, .member (nextMember_eq_some_iff.1 hn) hspells
      (readColon_eq_ok_iff.1 hc) hgap hform hms, .other hfield htakes⟩
  | case7 => simp at h
  | case8 => simp at h
  | case9 => simp at h
  | case10 seen a first s literal hn cs w hname name f hfield hseen c hc set u hr ih =>
    obtain ⟨rest, ms, hrest, hms, htakes⟩ := ih h
    obtain ⟨v, hgap, hset⟩ := hD.sound f (List.mem_of_find?_eq_some hfield) c set u hr
    have hspells : Spells literal name.toList w := by
      rw [String.toList_ofList]
      exact readString_eq_ok_iff.1 hname
    have hnew : name ∉ seen := by simpa using hseen
    exact ⟨rest, (name, v) :: ms, hrest, .member (nextMember_eq_some_iff.1 hn) hspells
      (readColon_eq_ok_iff.1 hc) hgap (hD.form f v set hset u) hms,
      .field hfield hnew hset htakes⟩

/-- An object is read whose members a record takes, if they are enough. -/
theorem run_ofMembers_of_takes (hD : r.Admits room D) (hms : Members true s ms rest)
    (h : Takes r D [] r.blank ms seen' b) (hmissing : r.missing seen' = none) :
    (r.ofMembers room).run s = .ok (b, rest) := by
  obtain ⟨t, hread, hrest⟩ := readMembers_of_takes hD hms h
  simp only [ofMembers, hread, hmissing, closeObject_eq_ok_iff.2 hrest]

theorem run_ofMembers_iff (hD : r.Describes room D) : (r.ofMembers room).run s = .ok (b, rest) ↔
    ∃ ms seen', Members true s ms rest ∧ Takes r D [] r.blank ms seen' b ∧
      r.missing seen' = none := by
  refine ⟨fun h => ?_, ?_⟩
  · simp only [ofMembers] at h
    split at h
    · simp at h
    · rename_i seen' a t hread
      split at h
      · simp at h
      · rename_i hmissing
        split at h
        · simp at h
        · rename_i hclose
          simp only [Except.ok.injEq, Prod.mk.injEq] at h
          obtain ⟨rfl, rfl⟩ := h
          obtain ⟨rest', ms, hrest, hms, htakes⟩ := takes_of_readMembers hD hread
          obtain ⟨-, rfl⟩ :=
            hrest.unique_cons (closeObject_eq_ok_iff.1 hclose) (by decide) (by decide)
          exact ⟨ms, seen', hms, htakes, hmissing⟩
  · rintro ⟨ms, seen', hms, htakes, hmissing⟩
    exact run_ofMembers_of_takes hD.toAdmits hms htakes hmissing

end RecordType

namespace RecordType

variable {α : Type} {r : RecordType α} {room : Nat} {D : Field α → List Char → (α → α) → Prop}
  {a b : α} {fs : List (Field α)} {index : Nat} {seen : List String}

theorem readInOrder_of_close (hs : Gap s (']' :: rest)) (h : TakesInOrder D fs a [] b) :
    r.readInOrder room fs index a first s = .ok (b, s) := by
  induction fs generalizing a index with
  | nil =>
    cases h
    rfl
  | cons f fs ih =>
    cases h with
    | absent hf h =>
      simp only [readInOrder, nextElement_of_close (hs.skipBlank_cons (by decide)), hf, if_true]
      exact ih h

/-- Elements that fill a record are read, up to the closing bracket. -/
theorem readInOrder_of_takes (hD : r.Describes room D) (hfs : ∀ f ∈ fs, f ∈ r.fields)
    (hvs : Elements first s vs rest) (h : TakesInOrder D fs a vs b) :
    ∃ t, r.readInOrder room fs index a first s = .ok (b, t) ∧ Gap t (']' :: rest) := by
  induction hvs generalizing fs a index with
  | @close first s rest hs => exact ⟨s, readInOrder_of_close hs h, hs⟩
  | @element first s v u rest vs hs hvalue hvs ih =>
    have hbounded : Bounded u := hvs.form.bounded (.inl rfl)
    cases h with
    | @field f fs _ _ _ _ set hset h =>
      obtain ⟨hf, hfs⟩ := List.forall_mem_cons.1 hfs
      have hn := nextElement_eq_some_iff.2 ⟨hs, hvalue.exists_eq_cons⟩
      have hr := hD.complete f hf _ _ hset _ u (.refl _) hbounded
      simp only [readInOrder, hn, hr]
      exact ih hfs h

/-- Whatever elements are read, they fill the record. -/
theorem takes_of_readInOrder (hD : r.Describes room D) (hfs : ∀ f ∈ fs, f ∈ r.fields)
    (h : r.readInOrder room fs index a first s = .ok (b, t)) (hrest : Gap t (']' :: rest)) :
    ∃ vs, Elements first s vs rest ∧ TakesInOrder D fs a vs b := by
  induction fs generalizing a index first s with
  | nil =>
    simp only [readInOrder, Except.ok.injEq, Prod.mk.injEq] at h
    obtain ⟨rfl, rfl⟩ := h
    exact ⟨[], .close hrest, .done a⟩
  | cons f fs ih =>
    obtain ⟨hf, hfs⟩ := List.forall_mem_cons.1 hfs
    unfold readInOrder at h
    split at h
    · simp at h
    · rename_i hn
      split at h
      · rename_i habsent
        obtain ⟨vs, hvs, htakes⟩ := ih hfs h
        obtain ⟨t', hclose⟩ := nextElement_eq_none hn
        cases hvs with
        | close hs => exact ⟨[], .close hs, .absent habsent htakes⟩
        | element hs hvalue _ =>
          obtain ⟨c, u, hc, hblank, hne⟩ := hvalue.exists_eq_cons
          rw [hc] at hs
          exact (hs.not_close hclose hblank (by decide) hne (by decide)).elim
      · simp at h
    · rename_i w hn
      split at h
      · simp at h
      · rename_i set u hr
        obtain ⟨vs, hvs, htakes⟩ := ih hfs h
        obtain ⟨v, hgap, hset⟩ := hD.sound f hf _ _ _ hr
        obtain ⟨hbegins, -⟩ := nextElement_eq_some_iff.1 hn
        exact ⟨v :: vs, .element (hbegins.trans hgap) (hD.form f v set hset u) hvs,
          .field hset htakes⟩

theorem run_ofList_iff (hD : r.Describes room D) : (r.ofList room).run s = .ok (b, rest) ↔
    ∃ vs, Elements true s vs rest ∧ TakesInOrder D r.fields r.blank vs b := by
  refine ⟨fun h => ?_, ?_⟩
  · simp only [ofList] at h
    split at h
    · simp at h
    · rename_i a t hread
      split at h
      · simp at h
      · rename_i hclose
        simp only [Except.ok.injEq, Prod.mk.injEq] at h
        obtain ⟨rfl, rfl⟩ := h
        exact takes_of_readInOrder hD (fun f hf => hf) hread (closeList_eq_ok_iff.1 hclose)
  · rintro ⟨vs, hvs, htakes⟩
    have hall : ∀ f ∈ r.fields, f ∈ r.fields := fun f hf => hf
    obtain ⟨t, hread, hrest⟩ : ∃ t, r.readInOrder room r.fields 0 r.blank true s = .ok (b, t) ∧
        Gap t (']' :: rest) := readInOrder_of_takes hD hall hvs htakes
    simp only [ofList, hread, closeList_eq_ok_iff.2 hrest]

/-! ## Records -/

theorem run_decoder_of_takes (hD : r.Admits room D) (hs : Gap s ('{' :: t))
    (hms : Members true t ms rest) (h : Takes r D [] r.blank ms seen b)
    (hmissing : r.missing seen = none) : (r.decoder (room + 1)).run s = .ok (b, rest) := by
  simp only [decoder, Reader.ofBrackets, hs.skipBlank_cons (by decide), readHead,
    Decoder.inside_succ]
  exact run_ofMembers_of_takes hD hms h hmissing

/-- A record is read from an object or from an array of what it takes, and from nothing else. -/
theorem run_decoder_iff (hD : r.Describes room D) :
    (r.decoder (room + 1)).run s = .ok (b, rest) ↔
      (∃ t ms seen, Gap s ('{' :: t) ∧ Members true t ms rest ∧ Takes r D [] r.blank ms seen b ∧
        r.missing seen = none) ∨
      ∃ t vs, Gap s ('[' :: t) ∧ Elements true t vs rest ∧
        TakesInOrder D r.fields r.blank vs b := by
  refine ⟨fun h => ?_, ?_⟩
  · simp only [decoder, Reader.ofBrackets, Decoder.inside_succ] at h
    split at h
    · simp at h
    · rename_i t hhead
      have hs : skipBlank s = '[' :: t := headForm_of_readHead hhead
      obtain ⟨vs, hvs, htakes⟩ := (run_ofList_iff hD).1 h
      exact .inr ⟨t, vs, .of_skipBlank hs, hvs, htakes⟩
    · rename_i t hhead
      have hs : skipBlank s = '{' :: t := headForm_of_readHead hhead
      obtain ⟨ms, seen, hms, htakes, hmissing⟩ := (run_ofMembers_iff hD).1 h
      exact .inl ⟨t, ms, seen, .of_skipBlank hs, hms, htakes, hmissing⟩
    · simp at h
  · rintro (⟨t, ms, seen, hs, hms, htakes, hmissing⟩ | ⟨t, vs, hs, hvs, htakes⟩)
    · exact run_decoder_of_takes hD.toAdmits hs hms htakes hmissing
    · simp only [decoder, Reader.ofBrackets, hs.skipBlank_cons (by decide), readHead,
        Decoder.inside_succ]
      exact (run_ofList_iff hD).2 ⟨vs, hvs, htakes⟩

end RecordType

/-! ## Fields among members -/

section Given

variable {β γ : Type} {V : List Char → β → Prop} {W : List Char → γ → Prop} {name : String}
  {default x : β}

/-- The members give the field of this name the value `x`: there is one member with the name, whose
text means `x` by `V`, or there is none and `x` is the default. -/
inductive Given (V : List Char → β → Prop) (name : String) (default : β) :
    List (String × List Char) → β → Prop where
  | absent : Given V name default [] default
  | other {other : String} {v : List Char} {ms : List (String × List Char)} {x : β}
      (hne : other ≠ name) (h : Given V name default ms x) :
      Given V name default ((other, v) :: ms) x
  | here {v : List Char} {ms : List (String × List Char)} {x : β} (hv : V v x)
      (hlast : name ∉ ms.map Prod.fst) : Given V name default ((name, v) :: ms) x

theorem Given.of_not_mem (h : name ∉ ms.map Prod.fst) : Given V name default ms default := by
  induction ms with
  | nil => exact .absent
  | cons m ms ih =>
    rw [List.map_cons, List.mem_cons, not_or] at h
    exact .other (Ne.symm h.1) (ih h.2)

/-- Members give one value at most, since a text means one at most. -/
theorem Given.unique (hV : ∀ v x y, V v x → V v y → x = y) {y : β}
    (h : Given V name default ms x) (h' : Given V name default ms y) : x = y := by
  induction h with
  | absent =>
    cases h'
    rfl
  | other hne _ ih =>
    cases h' with
    | other _ h' => exact ih h'
    | here => exact absurd rfl hne
  | here hv =>
    cases h' with
    | other hne => exact absurd rfl hne
    | here hv' => exact hV _ _ _ hv hv'

theorem Given.exists_of_imp (hVW : ∀ v x, V v x → ∃ y, W v y) (default' : γ)
    (h : Given V name default ms x) : ∃ y, Given W name default' ms y := by
  induction h with
  | absent => exact ⟨default', .absent⟩
  | other hne _ ih =>
    obtain ⟨y, hy⟩ := ih
    exact ⟨y, .other hne hy⟩
  | here hv hlast =>
    obtain ⟨y, hy⟩ := hVW _ _ hv
    exact ⟨y, .here hy hlast⟩

/-- A member with the name has a text with a meaning. -/
theorem Given.exists_of_mem {v : List Char} (h : Given V name default ms x)
    (hmem : (name, v) ∈ ms) : V v x := by
  induction h with
  | absent => simp at hmem
  | other hne _ ih =>
    obtain heq | hmem := List.mem_cons.1 hmem
    · exact absurd (Prod.mk.inj heq).1.symm hne
    · exact ih hmem
  | here hv hlast =>
    obtain heq | hmem := List.mem_cons.1 hmem
    · rwa [(Prod.mk.inj heq).2]
    · exact absurd (List.mem_map_of_mem hmem) hlast

/-- There are no two members with the name. -/
theorem Given.count_le_one (h : Given V name default ms x) : (ms.map Prod.fst).count name ≤ 1 := by
  induction h with
  | absent => simp
  | other hne _ ih => simpa [List.count_cons, hne] using ih
  | here _ hlast => simp [List.count_eq_zero_of_not_mem hlast]

end Given

namespace RecordType

variable {α β : Type} {r : RecordType α} {D : Field α → List Char → (α → α) → Prop}
  {seen seen' : List String} {a b : α} {name : String} {V : List Char → β → Prop} {get : α → β}

/-- The field `name` is a field of the record whose value is given by `get`: it changes by what is
read for it, and nothing else changes it. -/
structure IsField (r : RecordType α) (D : Field α → List Char → (α → α) → Prop) (name : String)
    (V : List Char → β → Prop) (get : α → β) : Prop where
  known : ∃ f, r.fields.find? (fun f => f.name == name) = some f
  sets : ∀ f v set, r.fields.find? (fun f => f.name == name) = some f → D f v set →
    ∃ x, V v x ∧ ∀ a, get (set a) = x
  keeps : ∀ other f v set, other ≠ name → r.fields.find? (fun f => f.name == other) = some f →
    D f v set → ∀ a, get (set a) = get a

/-- What a record has in a field is what the members give it. -/
theorem Takes.given (h : Takes r D seen a ms seen' b) (hf : IsField r D name V get) :
    (name ∈ seen → name ∉ ms.map Prod.fst ∧ get b = get a) ∧
      (name ∉ seen → Given V name (get a) ms (get b)) := by
  induction h with
  | done seen a => exact ⟨fun _ => ⟨by simp, rfl⟩, fun _ => .absent⟩
  | @field seen seen' a b other v ms f set hfield hseen hv _ ih =>
    by_cases hname : other = name
    · subst hname
      refine ⟨fun hin => absurd hin hseen, fun _ => ?_⟩
      obtain ⟨x, hx, hset⟩ := hf.sets f v set hfield hv
      obtain ⟨hlast, hget⟩ := ih.1 List.mem_cons_self
      rw [hget, hset]
      exact .here hx hlast
    · have hkept := hf.keeps other f v set hname hfield hv a
      rw [hkept] at ih
      refine ⟨fun hin => ?_, fun hnot => ?_⟩
      · obtain ⟨hlast, hget⟩ := ih.1 (List.mem_cons_of_mem other hin)
        exact ⟨List.not_mem_cons_of_ne_of_not_mem (Ne.symm hname) hlast, hget⟩
      · have hnot' := List.not_mem_cons_of_ne_of_not_mem (Ne.symm hname) hnot
        exact .other hname (ih.2 hnot')
  | @other seen seen' a b other v ms hfield _ ih =>
    have hname : other ≠ name := by
      rintro rfl
      obtain ⟨f, hknown⟩ := hf.known
      simp [hfield] at hknown
    refine ⟨fun hin => ?_, fun hnot => .other hname (ih.2 hnot)⟩
    obtain ⟨hlast, hget⟩ := ih.1 hin
    exact ⟨List.not_mem_cons_of_ne_of_not_mem (Ne.symm hname) hlast, hget⟩

/-- Members that give every field something are taken. -/
theorem exists_takes (hseen : ∀ name ∈ seen, name ∉ ms.map Prod.fst)
    (hgiven : ∀ f ∈ r.fields, ∃ set, Given (D f) f.name id ms set) :
    ∃ seen' b, Takes r D seen a ms seen' b := by
  induction ms generalizing seen a with
  | nil => exact ⟨seen, a, .done seen a⟩
  | cons m ms ih =>
    obtain ⟨name, v⟩ := m
    have hseen' : ∀ other ∈ seen, other ∉ ms.map Prod.fst := by
      intro other hother hmem
      exact hseen other hother (List.mem_cons_of_mem name hmem)
    have hrest : ∀ f ∈ r.fields, ∃ set, Given (D f) f.name id ms set := by
      intro f hf
      obtain ⟨set, hset⟩ := hgiven f hf
      generalize f.name = other at hset ⊢
      cases hset with
      | other _ h => exact ⟨set, h⟩
      | here _ hlast => exact ⟨id, .of_not_mem hlast⟩
    cases hfield : r.fields.find? (fun f => f.name == name) with
    | none =>
      obtain ⟨seen', b, h⟩ := ih hseen' hrest
      exact ⟨seen', b, .other hfield h⟩
    | some f =>
      obtain ⟨set, hset⟩ := hgiven f (List.mem_of_find?_eq_some hfield)
      rw [Field.name_of_find? hfield] at hset
      cases hset with
      | other hne _ => exact absurd rfl hne
      | here hv hlast =>
        have hnew : name ∉ seen := fun hin => hseen name hin (by simp)
        have hseen'' : ∀ other ∈ name :: seen, other ∉ ms.map Prod.fst := by
          intro other hother
          obtain rfl | hother := List.mem_cons.1 hother
          · exact hlast
          · exact hseen' other hother
        obtain ⟨seen', b, h⟩ := ih hseen'' hrest
        exact ⟨seen', b, .field hfield hnew hv h⟩

end RecordType

/-! ## Documents -/

theorem gap_nil_iff : Gap s [] ↔ skipBlank s = [] :=
  ⟨fun h => h.skipBlank_eq, fun h => .of_skipBlank h⟩

/-- A document is one value, with nothing but white space behind it. -/
theorem Decoder.decode_eq_ok_iff {α : Type} {d : Decoder α} {text : String} {a : α} :
    d.decode text = .ok a ↔
      ∃ rest, (d maxDepth).run text.toList = .ok (a, rest) ∧ Gap rest [] := by
  simp only [decode, document, gap_nil_iff]
  cases (d maxDepth).run text.toList with
  | error e => simp
  | ok x =>
    obtain ⟨b, rest⟩ := x
    cases hrest : skipBlank rest with
    | nil => simp [hrest]
    | cons c t => simp [hrest]

/-- The decoder reads this text as `b`, wherever it stands in front of a comma or bracket. -/
def Decoder.Reads {β : Type} (d : Decoder β) (room : Nat) (v : List Char) (b : β) : Prop :=
  ∀ s rest, Gap s (v ++ rest) → Bounded rest → (d room).run s = .ok (b, rest)

/-- The written form of a value is read. -/
theorem Decoder.reads_of_readsBack {β : Type} {d : Decoder β} {room k : Nat} {v : Value} {b : β}
    (h : ReadsBack k d v b) (hk : k ≤ room) (sp : Spacing) (depth : Nat) :
    d.Reads room (v.print sp depth) b := by
  rintro s rest ⟨ws, hws, rfl⟩ hrest
  rw [← List.append_assoc]
  exact h.run sp depth room ws rest hk hws hrest

/-- The reader of the field reads this text, wherever it stands in front of a comma or bracket, and
changes the record by `set`. -/
def Field.Reads {α : Type} (room : Nat) (f : Field α) (v : List Char) (set : α → α) : Prop :=
  f.decoder.Reads room v set

/-- A document is read as a record if it is an object of members that the record takes. -/
theorem RecordType.decode_of_takes {α : Type} {r : RecordType α} {text : String} {seen : List String}
    {b : α} (h : IsObject text.toList ms)
    (htakes : Takes r (Field.Reads (maxDepth - 1)) [] r.blank ms seen b)
    (hmissing : r.missing seen = none) : r.decoder.decode text = .ok b := by
  have hD : r.Admits (maxDepth - 1) (Field.Reads (maxDepth - 1)) := ⟨fun _ _ _ _ hread => hread⟩
  obtain ⟨s, rest, hs, hms, hrest⟩ := h
  exact Decoder.decode_eq_ok_iff.2 ⟨rest, run_decoder_of_takes hD hs hms htakes hmissing, hrest⟩

end ParseLens.Json
