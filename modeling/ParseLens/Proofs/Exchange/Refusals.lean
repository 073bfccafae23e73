import ParseLens.Proofs.Json.RecordText
import ParseLens.Viewer.Sample

set_option autoImplicit false

/-!
# Exchange: refusals explain themselves

The body of a refusal is written by whoever refuses, and there is no agreement on how.  The
explanation stands under one of two names, which may be in any order, spelled with escapes, and
surrounded by members of all kinds; or it is missing, and sometimes the body is no JSON at all.

`Refusal.IsGiven` says which refusal a text gives.

* `Refusal.decode_eq_ok_iff` says that exactly this refusal is read.
* `Reply.shows_explanation` says what is shown of a refusal, whatever its body is.
-/

namespace ParseLens

open Json

namespace Refusal

variable {text v : List Char} {r : Refusal} {f : Json.Field Refusal} {name : String}
  {set : Refusal → Refusal}

/-! ## The two fields -/

/-- The field takes the text for a value, and changes a refusal in this way. -/
inductive Sets (f : Json.Field Refusal) (v : List Char) : (Refusal → Refusal) → Prop where
  | detail {x : Option String} (hname : f.name = "detail") (hx : IsOptionalText v x) :
      Sets f v fun r => { r with detail := x }
  | error {x : Option String} (hname : f.name = "error") (hx : IsOptionalText v x) :
      Sets f v fun r => { r with error := x }

theorem Sets.exists_isOptionalText (h : Sets f v set) : ∃ x, IsOptionalText v x := by
  cases h with
  | detail _ hx => exact ⟨_, hx⟩
  | error _ hx => exact ⟨_, hx⟩

theorem mem_fields (h : f ∈ recordType.fields) :
    f = optionalField "detail" .optionalText (fun r detail => { r with detail }) ∨
      f = optionalField "error" .optionalText (fun r error => { r with error }) := by
  simpa [recordType] using h

theorem describes (room : Nat) : recordType.Describes room Sets where
  complete f hf v set h s rest hs _ := by
    cases h with
    | detail hname hx =>
      have hrun := (run_optionalText_iff room).2 ⟨v, hs, hx⟩
      obtain rfl | rfl := mem_fields hf
      · exact Reader.run_map_of_ok hrun
      · exact absurd hname (by decide)
    | error hname hx =>
      have hrun := (run_optionalText_iff room).2 ⟨v, hs, hx⟩
      obtain rfl | rfl := mem_fields hf
      · exact absurd hname (by decide)
      · exact Reader.run_map_of_ok hrun
  sound f hf s set rest h := by
    obtain rfl | rfl := mem_fields hf
    · obtain ⟨x, hrun, rfl⟩ := Reader.exists_of_run_map h
      obtain ⟨v, hgap, hx⟩ := (run_optionalText_iff room).1 hrun
      exact ⟨v, hgap, .detail rfl hx⟩
    · obtain ⟨x, hrun, rfl⟩ := Reader.exists_of_run_map h
      obtain ⟨v, hgap, hx⟩ := (run_optionalText_iff room).1 hrun
      exact ⟨v, hgap, .error rfl hx⟩
  form f v set h rest := by
    obtain ⟨x, hx⟩ := h.exists_isOptionalText
    exact hx.form rest

theorem isField_detail : recordType.IsField Sets "detail" IsOptionalText detail where
  known := ⟨_, rfl⟩
  sets f v set hfield h := by
    cases h with
    | detail _ hx => exact ⟨_, hx, fun _ => rfl⟩
    | error hname _ => exact absurd ((Field.name_of_find? hfield).symm.trans hname) (by decide)
  keeps other f v set hne hfield h r := by
    cases h with
    | detail hname _ => exact absurd ((Field.name_of_find? hfield).symm.trans hname) hne
    | error _ _ => rfl

theorem isField_error : recordType.IsField Sets "error" IsOptionalText error where
  known := ⟨_, rfl⟩
  sets f v set hfield h := by
    cases h with
    | detail hname _ => exact absurd ((Field.name_of_find? hfield).symm.trans hname) (by decide)
    | error _ hx => exact ⟨_, hx, fun _ => rfl⟩
  keeps other f v set hne hfield h r := by
    cases h with
    | detail _ _ => rfl
    | error hname _ => exact absurd ((Field.name_of_find? hfield).symm.trans hname) hne

/-- No field has to be there. -/
theorem missing_eq_none (seen : List String) : recordType.missing seen = none := rfl

theorem exists_sets (hf : f ∈ recordType.fields) {x : Option String} (hx : IsOptionalText v x) :
    ∃ set, Sets f v set := by
  obtain rfl | rfl := mem_fields hf
  · exact ⟨_, .detail rfl hx⟩
  · exact ⟨_, .error rfl hx⟩

/-! ## What is read -/

/-- The text gives this refusal: as an object in which each field is absent, `null` or a string, or
as an array of both fields. -/
inductive IsGiven (text : List Char) (r : Refusal) : Prop where
  | object {ms : List (String × List Char)} (h : IsObject text ms)
      (hdetail : Given IsOptionalText "detail" none ms r.detail)
      (herror : Given IsOptionalText "error" none ms r.error) : IsGiven text r
  | array {v w : List Char} (h : IsArray text [v, w]) (hdetail : IsOptionalText v r.detail)
      (herror : IsOptionalText w r.error) : IsGiven text r

theorem takesInOrder_iff {vs : List (List Char)} :
    RecordType.TakesInOrder Sets recordType.fields recordType.blank vs r ↔
      ∃ v w, vs = [v, w] ∧ IsOptionalText v r.detail ∧ IsOptionalText w r.error := by
  refine ⟨fun h => ?_, ?_⟩
  · obtain ⟨v, vs, set, rfl, hv, h⟩ := h.exists_of_cons (by decide)
    obtain ⟨w, vs, set', rfl, hw, h⟩ := h.exists_of_cons (by decide)
    cases h
    cases hv with
    | error hname _ => exact absurd hname (by decide)
    | detail _ hx =>
      cases hw with
      | detail hname _ => exact absurd hname (by decide)
      | error _ hy => exact ⟨v, w, rfl, hx, hy⟩
  · rintro ⟨v, w, rfl, hv, hw⟩
    exact .field (.detail rfl hv) (.field (.error rfl hw) (.done _))

/-- An object whose members give both fields a value is taken as the refusal with these values. -/
theorem exists_takes_iff {ms : List (String × List Char)} :
    (∃ seen, RecordType.Takes recordType Sets [] recordType.blank ms seen r) ↔
      Given IsOptionalText "detail" none ms r.detail ∧
        Given IsOptionalText "error" none ms r.error := by
  refine ⟨?_, ?_⟩
  · rintro ⟨seen, htakes⟩
    exact ⟨(htakes.given isField_detail).2 (by simp), (htakes.given isField_error).2 (by simp)⟩
  · rintro ⟨hdetail, herror⟩
    have hgiven : ∀ f ∈ recordType.fields, ∃ set, Given (Sets f) f.name id ms set := by
      intro f hf
      have hsets (v : List Char) (x : Option String) (hx : IsOptionalText v x) :
          ∃ set, Sets f v set := exists_sets hf hx
      obtain rfl | rfl := mem_fields hf
      · exact hdetail.exists_of_imp hsets id
      · exact herror.exists_of_imp hsets id
    have hnone : ∀ name ∈ ([] : List String), name ∉ ms.map Prod.fst := by simp
    obtain ⟨seen, r', htakes⟩ : ∃ seen r', RecordType.Takes recordType Sets [] recordType.blank ms
        seen r' := RecordType.exists_takes hnone hgiven
    have hunique (v : List Char) (x y : Option String) (hx : IsOptionalText v x)
        (hy : IsOptionalText v y) : x = y := hx.unique hy
    have hdetail' := hdetail.unique hunique ((htakes.given isField_detail).2 (by simp))
    have herror' := herror.unique hunique ((htakes.given isField_error).2 (by simp))
    obtain rfl : r = r' := by
      obtain ⟨d, e⟩ := r
      obtain ⟨d', e'⟩ := r'
      simp only at hdetail' herror'
      rw [hdetail', herror']
    exact ⟨seen, htakes⟩

/-- A refusal is read from the texts that give it, and from no others. -/
theorem decode_eq_ok_iff {body : String} :
    recordType.decoder.decode body = .ok r ↔ IsGiven body.toList r := by
  rw [Decoder.decode_eq_ok_iff]
  refine ⟨?_, fun h => ?_⟩
  · rintro ⟨rest, hrun, hrest⟩
    obtain ⟨s, ms, seen, hs, hms, htakes, -⟩ | ⟨s, vs, hs, hvs, htakes⟩ :=
      (RecordType.run_decoder_iff (describes (maxDepth - 1))).1 hrun
    · obtain ⟨hdetail, herror⟩ := exists_takes_iff.1 ⟨seen, htakes⟩
      exact .object ⟨s, rest, hs, hms, hrest⟩ hdetail herror
    · obtain ⟨v, w, rfl, hv, hw⟩ := takesInOrder_iff.1 htakes
      exact .array ⟨s, rest, hs, hvs, hrest⟩ hv hw
  · cases h with
    | @object ms h hdetail herror =>
      obtain ⟨s, rest, hs, hms, hrest⟩ := h
      obtain ⟨seen, htakes⟩ := exists_takes_iff.2 ⟨hdetail, herror⟩
      exact ⟨rest, (RecordType.run_decoder_iff (describes (maxDepth - 1))).2
        (.inl ⟨s, ms, seen, hs, hms, htakes, missing_eq_none seen⟩), hrest⟩
    | @array v w h hv hw =>
      obtain ⟨s, rest, hs, hvs, hrest⟩ := h
      exact ⟨rest, (RecordType.run_decoder_iff (describes (maxDepth - 1))).2
        (.inr ⟨s, [v, w], hs, hvs, takesInOrder_iff.2 ⟨v, w, rfl, hv, hw⟩⟩), hrest⟩

/-! ## Texts that explain nothing -/

/-- Why a text gives no refusal. -/
inductive Unusable (text : List Char) : Prop where
  /-- It is no JSON. -/
  | malformed (h : ¬ IsJson text)
  /-- More text stands behind its first value. -/
  | trailing {s rest : List Char} (hs : Gap text s) (hvalue : Form .value s rest)
      (hrest : ¬ Gap rest [])
  /-- A field is neither `null` nor a string. -/
  | kind {ms : List (String × List Char)} {name : String} {v : List Char} (h : IsObject text ms)
      (hname : name = "detail" ∨ name = "error") (hmem : (name, v) ∈ ms)
      (hv : ∀ x, ¬ IsOptionalText v x)
  /-- A field is there twice. -/
  | repeated {ms : List (String × List Char)} {name : String} (h : IsObject text ms)
      (hname : name = "detail" ∨ name = "error") (hcount : 2 ≤ (ms.map Prod.fst).count name)

theorem IsGiven.isJson (h : IsGiven text r) : IsJson text := by
  cases h with
  | object h => exact h.isJson
  | array h => exact h.isJson

/-- The members of an object that gives a refusal give both of its fields a value. -/
theorem IsGiven.exists_given {ms : List (String × List Char)} (h : IsGiven text r)
    (hms : IsObject text ms) (hname : name = "detail" ∨ name = "error") :
    ∃ x, Given IsOptionalText name none ms x := by
  cases h with
  | object h hdetail herror =>
    obtain rfl := hms.unique h
    rcases hname with rfl | rfl
    · exact ⟨_, hdetail⟩
    · exact ⟨_, herror⟩
  | array h => exact absurd h hms.not_isArray

theorem Unusable.not_isGiven (h : Unusable text) : ¬ IsGiven text r := by
  intro hgiven
  cases h with
  | malformed h => exact h hgiven.isJson
  | trailing hs hvalue hrest =>
    cases hgiven with
    | object h => exact hrest (h.gap_behind hs hvalue)
    | array h => exact hrest (h.gap_behind hs hvalue)
  | kind h hname hmem hv =>
    obtain ⟨x, hx⟩ := hgiven.exists_given h hname
    exact hv x (hx.exists_of_mem hmem)
  | repeated h hname hcount =>
    obtain ⟨x, hx⟩ := hgiven.exists_given h hname
    exact absurd hx.count_le_one (by omega)

/-! ## Explanations -/

theorem explanation_of_isGiven {body : String} (h : IsGiven body.toList r) :
    explanation body = (r.detail.or r.error).getD standIn := by
  simp only [explanation, decode_eq_ok_iff.2 h, message]

theorem explanation_of_ne_ok {body : String} (h : ∀ r, recordType.decoder.decode body ≠ .ok r) :
    explanation body = standIn := by
  simp only [explanation]
  split
  · rename_i r hdecode
    exact absurd hdecode (h r)
  · rfl

end Refusal

/-- What is written for an explanation is an object with that explanation. -/
theorem Sample.isGiven_errorReply (status : UInt16) (detail : String) :
    Refusal.IsGiven (errorReply status detail).body.toList ⟨some detail, none⟩ := by
  have hbody : (errorReply status detail).body.toList =
      '{' :: (literal "detail" ++ ':' :: (literal detail ++ ['}'])) := by
    simp [errorReply, Value.compact, Value.print, Value.printMembers, Spacing.compact]
  obtain ⟨s, hs, hname⟩ := spells_literal "detail" (':' :: (literal detail ++ ['}']))
  have hobject : IsObject (errorReply status detail).body.toList
      [("detail", literal detail)] := by
    refine ⟨'"' :: s, [], by rw [hbody, hs]; exact .refl _, ?_, .refl _⟩
    exact .member (.refl _) hname (.refl _) (.refl _) ((isText_literal detail).form _)
      (.close (.refl _))
  exact .object hobject (.here (.text (isText_literal detail)) (by simp))
    (.other (by decide) .absent)

namespace Reply

/-- Whatever the body of a refusal is, the user sees an explanation: the one in the body where there
is one, just as it was given, and otherwise the general one. -/
theorem shows_explanation {status : UInt16} (hstatus : ¬ (200 ≤ status ∧ status ≤ 299)) :
    -- what is written for an explanation
    (∀ detail, (Sample.errorReply status detail).response = .error (.refused status detail) ∧
      (Problem.refused status detail).message = detail) ∧
    -- objects, whoever wrote them
    (∀ (body : String) (ms : List (String × List Char)) (detail error : Option String),
      IsObject body.toList ms → Given IsOptionalText "detail" none ms detail →
      Given IsOptionalText "error" none ms error →
      (Reply.mk status body).response =
        .error (.refused status ((detail.or error).getD "Failed to parse input"))) ∧
    -- all that cannot be read
    (∀ body, (∀ r, Refusal.recordType.decoder.decode body ≠ .ok r) →
      (Reply.mk status body).response = .error (.refused status "Failed to parse input")) ∧
    (∀ body, Refusal.Unusable body.toList →
      ∀ r, Refusal.recordType.decoder.decode body ≠ .ok r) ∧
    ∀ body message, (Reply.mk status body).response ≠ .error (.response message) := by
  have hrefused (body : String) : (Reply.mk status body).response =
      .error (.refused status (Refusal.explanation body)) := by
    refine response_of_not_isSuccess (Bool.eq_false_iff.2 fun hsuccess => hstatus ?_)
    simp only [isSuccess, Bool.and_eq_true, decide_eq_true_eq] at hsuccess
    refine ⟨hsuccess.1, ?_⟩
    have hlt := UInt16.lt_iff_toNat_lt.1 hsuccess.2
    exact UInt16.le_iff_toNat_le.2 (Nat.le_of_lt_succ hlt)
  refine ⟨fun detail => ⟨?_, rfl⟩, fun body ms detail error hms hdetail herror => ?_,
    fun body h => ?_, fun body h r hr => h.not_isGiven (Refusal.decode_eq_ok_iff.1 hr),
    fun body message h => ?_⟩
  · have hshown : Refusal.explanation (Sample.errorReply status detail).body = detail :=
      Refusal.explanation_of_isGiven (Sample.isGiven_errorReply status detail)
    have hreply := hrefused (Sample.errorReply status detail).body
    rw [hshown] at hreply
    exact hreply
  · have hgiven : Refusal.IsGiven body.toList ⟨detail, error⟩ := .object hms hdetail herror
    rw [hrefused, Refusal.explanation_of_isGiven hgiven, Refusal.standIn]
  · rw [hrefused, Refusal.explanation_of_ne_ok h, Refusal.standIn]
  · simp [hrefused] at h

/-- The name of a field may be spelled with an escape; a number explains nothing. -/
theorem shows_explanation_of_escaped_name :
    ¬ ((200 : UInt16) ≤ 503 ∧ (503 : UInt16) ≤ 299) ∧
      (Reply.mk 503 "\x7b\"\\u0065rror\":\"gone\",\"id\":[7]\x7d").response =
        .error (.refused 503 "gone") ∧
      (Reply.mk 503 "\x7b\"detail\":404\x7d").response =
        .error (.refused 503 "Failed to parse input") := by
  have hstatus : ¬ ((200 : UInt16) ≤ 503 ∧ (503 : UInt16) ≤ 299) := by decide
  obtain ⟨-, hobject, hfallback, hunusable, -⟩ := shows_explanation hstatus
  have hplain (name rest : List Char)
      (hname : ∀ c ∈ name, c ≠ '"' ∧ c ≠ '\\' ∧ ¬ c.toNat < 0x20) :
      Spells (name ++ '"' :: rest) name rest := by
    have hclose := (Spells.close rest).plain_append hname
    rwa [List.append_nil] at hclose
  refine ⟨hstatus, ?_, ?_⟩
  · have hgone : IsText "\"gone\"".toList "gone" :=
      ⟨_, rfl, hplain "gone".toList [] (by simp)⟩
    have hseven : Form .value ['[', '7', ']', '}'] ['}'] := .array (.element (.refl _)
      (.number ⟨.inl rfl, .digits (by decide) (.one (by decide)), .none _, .none _⟩)
      (.closeArray (.refl _)))
    have hid : Members false ",\"id\":[7]\x7d".toList [("id", "[7]".toList)] [] :=
      .member ⟨_, .refl _, .refl _⟩ (hplain "id".toList _ (by simp)) (.refl _) (.refl _) hseven
        (.close (.refl _))
    have hname : Spells "\\u0065rror\":\"gone\",\"id\":[7]\x7d".toList "error".toList
        ":\"gone\",\"id\":[7]\x7d".toList := by
      have hhex : hexValue? '0' '0' '6' '5' = some 0x65 := by decide
      exact .code hhex (by decide) (by decide) (hplain "rror".toList _ (by simp))
    have hms : IsObject "\x7b\"\\u0065rror\":\"gone\",\"id\":[7]\x7d".toList
        [("error", "\"gone\"".toList), ("id", "[7]".toList)] :=
      ⟨_, [], .refl _, .member (.refl _) hname (.refl _) (.refl _) (hgone.form _) hid, .refl _⟩
    exact hobject _ _ none (some "gone") hms (.other (by decide) (.other (by decide) .absent))
      (.here (.text hgone) (by decide))
  · have hnumber : Form .value ['4', '0', '4', '}'] ['}'] :=
      .number ⟨.inl rfl, .digits (by decide) (.more (by decide) (.more (by decide)
        (.one (by decide)))), .none _, .none _⟩
    have hms : IsObject "\x7b\"detail\":404\x7d".toList [("detail", "404".toList)] :=
      ⟨_, [], .refl _, .member (.refl _) (hplain "detail".toList _ (by simp)) (.refl _)
        (.refl _) hnumber (.close (.refl _)), .refl _⟩
    refine hfallback _ (hunusable _ (.kind hms (.inl rfl) List.mem_cons_self fun x hx => ?_))
    cases hx with
    | text h =>
      obtain ⟨t, heq, -⟩ := h
      simp at heq

end Reply

end ParseLens
