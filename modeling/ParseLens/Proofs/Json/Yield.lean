import ParseLens.Json.Record

set_option autoImplicit false

/-!
# JSON: what holds of everything that is read

`Decoder.Yields d P` says that whatever the decoder `d` reads, from whatever text, has the property
`P`.  It is the other side of reading back: there the text is known and something is said of the
value, here nothing is known of the text.  As there, each decoder has one lemma, which asks the
same of its parts.

* `Reader.Yields.elements` and `Reader.Yields.members` carry a property through a whole list.
* `RecordType.yields` carries one through the fields of a record, in whatever form and order the
  text has them.
-/

namespace ParseLens.Json

/-! ## Readers -/

namespace Reader

variable {α β : Type}

/-- Whatever the reader reads has the property. -/
def Yields (r : Reader α) (P : α → Prop) : Prop :=
  ∀ ⦃s rest : List Char⦄ ⦃a : α⦄, r.run s = .ok (a, rest) → P a

theorem yields_refuse (cause : Cause) (P : α → Prop) : (refuse cause).Yields P := by
  intro s rest a h
  simp [refuse] at h

theorem Yields.map {r : Reader α} {P : α → Prop} {Q : β → Prop} {f : α → β} (h : r.Yields P)
    (hf : ∀ a, P a → Q (f a)) : (r.map f).Yields Q := by
  intro s rest b hrun
  simp only [Reader.map] at hrun
  split at hrun
  · simp at hrun
  · rename_i a rest' hread
    simp only [Except.ok.injEq, Prod.mk.injEq] at hrun
    rw [← hrun.1]
    exact hf a (h hread)

theorem yields_ofBrackets {expected : String} {list object : Option (Reader α)} {P : α → Prop}
    (hlist : ∀ body, list = some body → body.Yields P)
    (hobject : ∀ body, object = some body → body.Yields P) :
    (ofBrackets expected list object).Yields P := by
  intro s rest a hrun
  simp only [ofBrackets] at hrun
  split at hrun
  · simp at hrun
  · split at hrun
    · exact hlist _ rfl hrun
    · simp at hrun
  · split at hrun
    · exact hobject _ rfl hrun
    · simp at hrun
  · simp at hrun

theorem Yields.readElements {r : Reader α} {P : α → Prop} (h : r.Yields P) {first : Bool}
    {s rest : List Char} {as : List α} (hread : readElements r first s = .ok (as, rest)) :
    ∀ a ∈ as, P a := by
  fun_induction Json.readElements r first s generalizing as rest with
  | case1 => simp at hread
  | case2 =>
    obtain ⟨rfl, -⟩ : [] = as ∧ _ := by simpa using hread
    simp
  | case3 => simp at hread
  | case4 => simp at hread
  | case5 first s t hn a r' hr as' rest' hrest ih =>
    obtain ⟨rfl, -⟩ : a :: as' = as ∧ _ := by simpa using hread
    intro b hb
    rcases List.mem_cons.1 hb with rfl | hb
    · exact h hr
    · exact ih hrest b hb

theorem Yields.readMembers {r : Reader α} {P : α → Prop} (h : r.Yields P) {first : Bool}
    {s rest : List Char} {ms : List (String × α)}
    (hread : readMembers r first s = .ok (ms, rest)) : ∀ m ∈ ms, P m.2 := by
  fun_induction Json.readMembers r first s generalizing ms rest with
  | case1 => simp at hread
  | case2 =>
    obtain ⟨rfl, -⟩ : [] = ms ∧ _ := by simpa using hread
    simp
  | case3 => simp at hread
  | case4 => simp at hread
  | case5 => simp at hread
  | case6 first s t hn name t' hs a r' hr ms' rest' hrest ih =>
    obtain ⟨rfl, -⟩ : (name, a) :: ms' = ms ∧ _ := by simpa using hread
    intro m hm
    rcases List.mem_cons.1 hm with rfl | hm
    · exact h hr
    · exact ih hrest m hm

theorem Yields.elements {r : Reader α} {P : α → Prop} (h : r.Yields P) :
    r.elements.Yields fun as => ∀ a ∈ as, P a := by
  intro s rest as hrun
  simp only [Reader.elements] at hrun
  split at hrun
  · simp at hrun
  · rename_i hread
    split at hrun
    · simp at hrun
    · obtain ⟨rfl, -⟩ : _ = as ∧ _ := by simpa using hrun
      exact h.readElements hread

theorem Yields.members {r : Reader α} {P : α → Prop} (h : r.Yields P) :
    r.members.Yields fun ms => ∀ m ∈ ms, P m.2 := by
  intro s rest ms hrun
  simp only [Reader.members] at hrun
  split at hrun
  · simp at hrun
  · rename_i hread
    split at hrun
    · simp at hrun
    · obtain ⟨rfl, -⟩ : _ = ms ∧ _ := by simpa using hrun
      exact h.readMembers hread

end Reader

/-! ## Decoders -/

namespace Decoder

variable {α β : Type}

/-- Whatever the decoder reads has the property. -/
def Yields (d : Decoder α) (P : α → Prop) : Prop := ∀ room, (d room).Yields P

theorem Yields.map {d : Decoder α} {P : α → Prop} {Q : β → Prop} {f : α → β} (h : Yields d P)
    (hf : ∀ a, P a → Q (f a)) : Yields (d.map f) Q := by
  intro room
  exact (h room).map hf

theorem yields_true (d : Decoder α) : Yields d fun _ => True := by
  intro room s rest a _
  trivial

theorem Yields.inside {body : Decoder α} {P : α → Prop} (h : Yields body P) :
    Yields (inside body) P := by
  intro room
  cases room with
  | zero => exact Reader.yields_refuse .tooDeep P
  | succ room => exact h room

theorem Yields.list {d : Decoder α} {P : α → Prop} (h : Yields d P) :
    Yields (list d) fun as => ∀ a ∈ as, P a := by
  intro room
  have helements : Yields (fun room => (d room).elements) fun as => ∀ a ∈ as, P a :=
    fun room => (h room).elements
  refine Reader.yields_ofBrackets ?_ (by simp)
  intro body hbody
  obtain rfl := Option.some.inj hbody
  exact helements.inside room

theorem Yields.orderedMap {d : Decoder α} {P : α → Prop} (h : Yields d P) :
    Yields (orderedMap d) fun m => ∀ e ∈ m.entries, P e.2 := by
  intro room
  have hmembers : Yields (fun room => (d room).members.map OrderedMap.ofList)
      fun m => ∀ e ∈ m.entries, P e.2 := by
    intro room
    refine (h room).members.map ?_
    intro ms hms e he
    exact hms e (OrderedMap.mem_of_mem_ofList he)
  refine Reader.yields_ofBrackets (by simp) ?_
  intro body hbody
  obtain rfl := Option.some.inj hbody
  exact hmembers.inside room

/-- What holds of everything that is read holds of a document that is decoded. -/
theorem Yields.of_decode {d : Decoder α} {P : α → Prop} (h : Yields d P) {text : String} {a : α}
    (hdecode : d.decode text = .ok a) : P a := by
  rw [decode] at hdecode
  split at hdecode
  · rename_i b hdocument
    obtain rfl : b = a := by simpa using hdecode
    rw [document] at hdocument
    split at hdocument
    · simp at hdocument
    · rename_i hrun
      split at hdocument
      · obtain rfl : _ = b := by simpa using hdocument
        exact h _ hrun
      · simp at hdocument
  · simp at hdecode

end Decoder

/-! ## Records -/

namespace RecordType

variable {α : Type} {r : RecordType α} {P : α → Prop}

/-- Whatever is read for a field of the record leaves the property as it is. -/
def Preserves (r : RecordType α) (P : α → Prop) : Prop :=
  ∀ f ∈ r.fields, Decoder.Yields f.decoder fun set => ∀ a, P a → P (set a)

theorem Preserves.readInOrder (h : r.Preserves P) {room : Nat} {fs : List (Field α)}
    (hfs : ∀ f ∈ fs, f ∈ r.fields) {index : Nat} {a b : α} {first : Bool} {s rest : List Char}
    (ha : P a) (hread : r.readInOrder room fs index a first s = .ok (b, rest)) : P b := by
  induction fs generalizing index a first s with
  | nil =>
    obtain ⟨rfl, -⟩ : a = b ∧ _ := by simpa [RecordType.readInOrder] using hread
    exact ha
  | cons f fs ih =>
    have hrest : ∀ g ∈ fs, g ∈ r.fields := fun g hg => hfs g (List.mem_cons_of_mem f hg)
    rw [RecordType.readInOrder] at hread
    split at hread
    · simp at hread
    · split at hread
      · exact ih hrest ha hread
      · simp at hread
    · split at hread
      · simp at hread
      · rename_i hset
        exact ih hrest (h f (hfs f List.mem_cons_self) room hset a ha) hread

theorem Preserves.readMembers (h : r.Preserves P) {room : Nat} {seen : List String} {a : α}
    {first : Bool} {s rest : List Char} {x : List String × α} (ha : P a)
    (hread : r.readMembers room seen a first s = .ok (x, rest)) : P x.2 := by
  fun_induction RecordType.readMembers r room seen a first s with
  | case1 => simp at hread
  | case2 seen a first s hn =>
    obtain ⟨rfl, -⟩ : (seen, a) = x ∧ _ := by simpa using hread
    exact ha
  | case3 => simp at hread
  | case4 => simp at hread
  | case5 => simp at hread
  | case6 =>
    rename_i ih
    exact ih ha hread
  | case7 => simp at hread
  | case8 => simp at hread
  | case9 => simp at hread
  | case10 =>
    rename_i hfind _ _ _ _ _ hset ih
    exact ih (h _ (List.mem_of_find?_eq_some hfind) room hset _ ha) hread

/-- What holds of the blank record and is left as it is by every field holds of every record that
is read. -/
theorem yields (hblank : P r.blank) (h : r.Preserves P) : Decoder.Yields r.decoder P := by
  intro room
  have hlist : Decoder.Yields r.ofList P := by
    intro room s rest a hrun
    simp only [ofList] at hrun
    split at hrun
    · simp at hrun
    · rename_i hread
      split at hrun
      · simp at hrun
      · obtain ⟨rfl, -⟩ : _ = a ∧ _ := by simpa using hrun
        exact h.readInOrder (fun _ hf => hf) hblank hread
  have hobject : Decoder.Yields r.ofMembers P := by
    intro room s rest a hrun
    simp only [ofMembers] at hrun
    split at hrun
    · simp at hrun
    · rename_i hread
      split at hrun
      · simp at hrun
      · split at hrun
        · simp at hrun
        · obtain ⟨rfl, -⟩ : _ = a ∧ _ := by simpa using hrun
          exact h.readMembers hblank hread
  refine Reader.yields_ofBrackets ?_ ?_
  · intro body hbody
    obtain rfl := Option.some.inj hbody
    exact hlist.inside room
  · intro body hbody
    obtain rfl := Option.some.inj hbody
    exact hobject.inside room

end RecordType

end ParseLens.Json
