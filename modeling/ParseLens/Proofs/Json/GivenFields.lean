import ParseLens.Proofs.Json.NumberReading
import ParseLens.Proofs.Json.RecordText

set_option autoImplicit false

/-!
# JSON: records by what their members give

A record has in each of its fields what the members give this field, whatever their order is and
whatever else is among them, if the texts of their values are read alike wherever they stand.

* `RecordType.isField` is about one field, and `RecordType.Takes.get_eq` about the record.
-/

namespace ParseLens.Json

variable {α β : Type} {room : Nat} {v : List Char}

/-! ## Texts that are read alike everywhere -/

namespace Decoder

variable {d : Decoder β} {b : β}

theorem Reads.run_self (h : d.Reads room v b) : (d room).run v = .ok (b, []) :=
  h v [] (by rw [List.append_nil]; exact .refl v) trivial

theorem Reads.map (h : d.Reads room v b) (f : β → α) : (d.map f).Reads room v (f b) :=
  fun s rest hs hrest => Reader.run_map_of_ok (h s rest hs hrest)

/-- What spells a string is read as that string. -/
theorem reads_text {text : String} (room : Nat) (h : IsText v text) :
    Decoder.text.Reads room v text := by
  intro s rest hs _
  simp only [Decoder.text, Reader.ofHead, readHead_of_isText h hs]

end Decoder

/-! ## One field of a record -/

namespace RecordType

variable {r : RecordType α} {name : String} {absence : Absence} {d : Decoder β}
  {set : α → β → α} {get : α → β}

/-- Reading the field leaves alone what is seen by `get`. -/
def Keeps (room : Nat) (get : α → β) (f : Field α) : Prop :=
  ∀ v change, f.Reads room v change → ∀ a, get (change a) = get a

theorem exists_of_reads {change : α → α}
    (h : Field.Reads room ⟨name, absence, d.map fun b a => set a b⟩ v change) :
    ∃ b, (d room).run v = .ok (b, []) ∧ change = fun a => set a b :=
  Reader.exists_of_run_map (Decoder.Reads.run_self h)

theorem keeps {γ : Type} {d : Decoder γ} {set : α → γ → α}
    (h : ∀ a c, get (set a c) = get a) :
    Keeps room get ⟨name, absence, d.map fun c a => set a c⟩ := by
  intro v change hreads a
  obtain ⟨c, -, rfl⟩ := exists_of_reads hreads
  exact h a c

/-- A field has in it what was read for it, if no other field touches it. -/
theorem isField
    (hfield : r.fields.find? (fun f => f.name == name) =
      some ⟨name, absence, d.map fun b a => set a b⟩)
    (hget : ∀ a b, get (set a b) = b)
    (hkeeps : ∀ f ∈ r.fields, f.name ≠ name → Keeps room get f) :
    IsField r (Field.Reads room) name (fun v b => (d room).run v = .ok (b, [])) get where
  known := ⟨_, hfield⟩
  sets f v change hf hreads := by
    obtain rfl := Option.some.inj (hfield.symm.trans hf)
    obtain ⟨b, hrun, rfl⟩ := exists_of_reads hreads
    exact ⟨b, hrun, fun a => hget a b⟩
  keeps other f v change hne hf hreads := by
    have hname : f.name = other := Field.name_of_find? hf
    exact hkeeps f (List.mem_of_find?_eq_some hf) (hname ▸ hne) v change hreads

end RecordType

/-! ## Records -/

section Given

variable {V : List Char → α → Prop} {W : List Char → β → Prop} {f : α → β} {name : String}
  {default x : α} {ms : List (String × List Char)}

/-- What a text means may be said in other words. -/
theorem Given.map (h : Given V name default ms x) (hVW : ∀ v x, V v x → W v (f x)) :
    Given W name (f default) ms (f x) := by
  induction h with
  | absent => exact .absent
  | other hne _ ih => exact .other hne ih
  | here hv hlast => exact .here (hVW _ _ hv) hlast

/-- A value that is given can be read for a field. -/
theorem Given.exists_reads {d : Decoder β} {default x : β}
    (h : Given (d.Reads room) name default ms x) (absence : Absence) (set : α → β → α) :
    ∃ change, Given (Field.Reads room ⟨name, absence, d.map fun b a => set a b⟩) name id ms
      change :=
  h.exists_of_imp (fun _ _ hx => ⟨_, hx.map _⟩) id

end Given

namespace RecordType

variable {r : RecordType α} {D : Field α → List Char → (α → α) → Prop} {name : String}
  {d : Decoder β} {get : α → β} {seen seen' : List String} {a b : α}
  {ms : List (String × List Char)} {default x : β}

/-- A field that is among the members has been seen. -/
theorem Takes.mem_seen (h : Takes r D seen a ms seen' b)
    (hknown : ∃ f, r.fields.find? (fun f => f.name == name) = some f)
    (hname : name ∈ seen ∨ name ∈ ms.map Prod.fst) : name ∈ seen' := by
  induction h with
  | done => simpa using hname
  | field _ _ _ _ ih =>
    refine ih ?_
    simpa [or_assoc, or_left_comm, eq_comm] using hname
  | @other _ _ _ _ other _ _ hfield _ ih =>
    refine ih (hname.imp_right fun hmem => ?_)
    obtain rfl | hmem := List.mem_cons.1 hmem
    · obtain ⟨f, hf⟩ := hknown
      simp [hfield] at hf
    · exact hmem

/-- The record has in a field what the members give the field. -/
theorem Takes.get_eq (h : Takes r (Field.Reads room) [] r.blank ms seen' b)
    (hf : IsField r (Field.Reads room) name (fun v x => (d room).run v = .ok (x, [])) get)
    (hgiven : Given (d.Reads room) name default ms x)
    (hdefault : name ∈ ms.map Prod.fst ∨ get r.blank = default) : get b = x := by
  have hread : Given (fun v x => (d room).run v = .ok (x, [])) name default ms x :=
    hgiven.map (f := id) fun v x hx => hx.run_self
  have htaken := (h.given hf).2 (by simp)
  have hunique (v : List Char) (x y : β) (hx : (d room).run v = .ok (x, []))
      (hy : (d room).run v = .ok (y, [])) : x = y := by
    rw [hx] at hy
    exact (Prod.mk.inj (Except.ok.inj hy)).1
  obtain hthere | hblank := hdefault
  · obtain ⟨⟨_, v⟩, hmem, rfl⟩ := List.mem_map.1 hthere
    exact hunique v _ _ (htaken.exists_of_mem hmem) (hread.exists_of_mem hmem)
  · rw [hblank] at htaken
    exact htaken.unique hunique hread

end RecordType

end ParseLens.Json
