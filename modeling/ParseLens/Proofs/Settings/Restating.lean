import ParseLens.Settings.Endpoint
import ParseLens.Proofs.Json.RecordText

set_option autoImplicit false

/-!
# Settings: the same settings in other words

Settings that were written are read again as they are, if they have an address.  So they are when
whoever edits the text leaves out what is as by default, states the rest in another order, or adds
members that the viewer does not know.

`Restated` says which members are left after such edits, and `States` what all of them have in
common; that is enough for the reader, which starts from the default and takes member by member.
-/

namespace ParseLens

open Json

/-- The name of a layout is read as the layout. -/
theorem RequestShape.readsBack (shape : RequestShape) :
    ReadsBack 0 RequestShape.decoder (.string shape.name) shape := by
  refine ⟨Value.starts_string shape.name, ?_⟩
  intro sp depth room ws rest _ hws _
  obtain ⟨t, ht, -⟩ := spells_literal shape.name rest
  have hname : nameReader.run ('"' :: t) = .ok (shape, rest) := by
    rw [← ht, nameReader]
    exact Reader.run_mapOrRefuse_of_ok (Reader.run_ofHead_string (by rfl) blanks_nil rest)
      (ofName_name shape)
  simp only [RequestShape.decoder, Value.print, skipBlank_print_string hws, ht, hname]

namespace Settings

variable {s a : Settings} {ms ms' : List (String × List Char)} {name : String} {v : List Char}
  {room : Nat} {seen : List String}

/-! ## Members of settings -/

/-- The names of the settings. -/
def names : List String := recordType.fields.map Field.name

/-- The members of written settings, with the texts of their values. -/
def members (s : Settings) : List (String × List Char) :=
  match s.toJson with
  | .object ms => ms.map fun m => (m.1, m.2.print .compact 0)
  | _ => []

theorem toList_text (s : Settings) : s.text.toList = objectText s.members := by
  simp [text, toJson, Value.compact, Value.print, Value.printMembers, objectText, members,
    membersText, separator, Spacing.compact]

theorem map_fst_members (s : Settings) : s.members.map Prod.fst = names := rfl

/-- The members one by one: each is named for a setting, and its value is written for it. -/
theorem members_cases (h : (name, v) ∈ s.members) :
    (name = "endpoint" ∧ v = (Value.string s.endpoint).print .compact 0) ∨
    (name = "timeout_ms" ∧ v = (Value.number (.int s.timeoutMs.toNat)).print .compact 0) ∨
    (name = "request_shape" ∧ v = (Value.string s.requestShape.name).print .compact 0) ∨
    (name = "stderr_log_level" ∧ v = (Value.number (.int s.stderrLevel.toNat)).print .compact 0) ∨
    (name = "buffer_log_level" ∧ v = (Value.number (.int s.bufferLevel.toNat)).print .compact 0) := by
  simpa [members, toJson] using h

theorem form_of_mem_members (h : (name, v) ∈ s.members) : Form .value v [] := by
  have htext (t : String) : Form .value ((Value.string t).print .compact 0) [] := by
    simpa [Value.print] using (isText_literal t).form []
  have hnumber (n : Int) : Form .value ((Value.number (.int n)).print .compact 0) [] := by
    rw [Value.print]
    exact .number (isNumber_text n)
  rcases members_cases h with ⟨-, rfl⟩ | ⟨-, rfl⟩ | ⟨-, rfl⟩ | ⟨-, rfl⟩ | ⟨-, rfl⟩
  · exact htext _
  · exact hnumber _
  · exact htext _
  · exact hnumber _
  · exact hnumber _

/-- No two settings are written alike. -/
theorem eq_of_members (h : ∀ m ∈ s.members, m ∈ a.members) : s = a := by
  obtain ⟨hendpoint, htimeoutMs, hrequestShape, hstderrLevel, hbufferLevel⟩ :
      (Value.string s.endpoint).print .compact 0 = (Value.string a.endpoint).print .compact 0 ∧
      (Value.number (.int s.timeoutMs.toNat)).print .compact 0 =
        (Value.number (.int a.timeoutMs.toNat)).print .compact 0 ∧
      (Value.string s.requestShape.name).print .compact 0 =
        (Value.string a.requestShape.name).print .compact 0 ∧
      (Value.number (.int s.stderrLevel.toNat)).print .compact 0 =
        (Value.number (.int a.stderrLevel.toNat)).print .compact 0 ∧
      (Value.number (.int s.bufferLevel.toNat)).print .compact 0 =
        (Value.number (.int a.bufferLevel.toNat)).print .compact 0 := by
    simpa [members, toJson] using h
  cases s
  cases a
  congr
  · exact (ReadsBack.text _).inj (.text _) hendpoint
  · exact (ReadsBack.word64 "u64" _).inj (.word64 "u64" _) htimeoutMs
  · exact (RequestShape.readsBack _).inj (RequestShape.readsBack _) hrequestShape
  · exact (ReadsBack.word32 _).inj (.word32 _) hstderrLevel
  · exact (ReadsBack.word32 _).inj (.word32 _) hbufferLevel

/-! ## Reading a member -/

/-- The settings `a` with the member `name` of the settings `s`. -/
def adopt (s : Settings) (name : String) (a : Settings) : Settings where
  endpoint := if name = "endpoint" then s.endpoint else a.endpoint
  timeoutMs := if name = "timeout_ms" then s.timeoutMs else a.timeoutMs
  requestShape := if name = "request_shape" then s.requestShape else a.requestShape
  stderrLevel := if name = "stderr_log_level" then s.stderrLevel else a.stderrLevel
  bufferLevel := if name = "buffer_log_level" then s.bufferLevel else a.bufferLevel

/-- To adopt a member changes no other one. -/
theorem mem_members_adopt (h : (name, v) ∈ s.members) {other : String}
    (hother : other = name ∨ (name, v) ∈ a.members) : (name, v) ∈ (s.adopt other a).members := by
  rcases members_cases h with ⟨rfl, rfl⟩ | ⟨rfl, rfl⟩ | ⟨rfl, rfl⟩ | ⟨rfl, rfl⟩ | ⟨rfl, rfl⟩
  all_goals
    rcases hother with rfl | h
    · simp [members, toJson, adopt]
    · simp only [members, toJson, adopt, List.map_cons, List.map_nil, List.mem_cons, Prod.mk.injEq,
        String.reduceEq, true_and, false_and, or_false, false_or, List.not_mem_nil] at h ⊢
      split
      · rfl
      · exact h

/-- The reader adopts a member. -/
theorem exists_reads (h : (name, v) ∈ s.members) (room : Nat) :
    ∃ f, recordType.fields.find? (fun f => f.name == name) = some f ∧
      f.Reads room v (s.adopt name) := by
  have hreads {β : Type} {d : Decoder β} {set : Settings → β → Settings} {value : Value} {b : β}
      (hread : ReadsBack 0 d value b) (name : String) :
      (blankField name d set).Reads room (value.print .compact 0) fun a => set a b :=
    Decoder.reads_of_readsBack (hread.map fun b a => set a b) (Nat.zero_le room) .compact 0
  rcases members_cases h with ⟨rfl, rfl⟩ | ⟨rfl, rfl⟩ | ⟨rfl, rfl⟩ | ⟨rfl, rfl⟩ | ⟨rfl, rfl⟩
  · exact ⟨_, rfl, hreads (.text s.endpoint) _⟩
  · exact ⟨_, rfl, hreads (.word64 "u64" s.timeoutMs) _⟩
  · exact ⟨_, rfl, hreads (RequestShape.readsBack s.requestShape) _⟩
  · exact ⟨_, rfl, hreads (.word32 s.stderrLevel) _⟩
  · exact ⟨_, rfl, hreads (.word32 s.bufferLevel) _⟩

/-! ## Edits -/

/-- The members that are left of written settings when members that are as by default are left out,
members are put in another order, and members with unknown names are added. -/
inductive Restated (s : Settings) : List (String × List Char) → Prop where
  | written : Restated s s.members
  | leaveOut {ms : List (String × List Char)} (h : Restated s ms) (m : String × List Char)
      (hdefault : m ∈ default.members) : Restated s (ms.erase m)
  | reorder {ms ms' : List (String × List Char)} (h : Restated s ms) (hperm : ms.Perm ms') :
      Restated s ms'
  | add {name : String} {v : List Char} {ms : List (String × List Char)} (h : Restated s ms)
      (hname : name ∉ names) (hv : Form .value v []) : Restated s ((name, v) :: ms)

/-- The members state these settings: what they say about a setting is what is written of it, they
say it once, and what they do not say is as by default. -/
structure States (s : Settings) (ms : List (String × List Char)) : Prop where
  formed : ∀ m ∈ ms, Form .value m.2 []
  known : ∀ m ∈ ms, m.1 ∈ names → m ∈ s.members
  once : ((ms.map Prod.fst).filter (· ∈ names)).Nodup
  complete : ∀ m ∈ s.members, m ∈ ms ∨ m ∈ default.members

theorem states_members (s : Settings) : States s s.members where
  formed _ h := form_of_mem_members h
  known _ h _ := h
  once := by
    rw [map_fst_members]
    decide
  complete _ h := .inl h

theorem States.leaveOut (h : States s ms) {m : String × List Char}
    (hdefault : m ∈ default.members) : States s (ms.erase m) where
  formed m' hm' := h.formed m' (List.mem_of_mem_erase hm')
  known m' hm' := h.known m' (List.mem_of_mem_erase hm')
  once := h.once.sublist ((List.erase_sublist.map Prod.fst).filter _)
  complete m' hm' := by
    obtain hmem | hmem := h.complete m' hm'
    · by_cases heq : m' = m
      · exact .inr (heq ▸ hdefault)
      · exact .inl ((List.mem_erase_of_ne heq).2 hmem)
    · exact .inr hmem

theorem States.perm (h : States s ms) (hperm : ms.Perm ms') : States s ms' where
  formed m hm := h.formed m (hperm.mem_iff.2 hm)
  known m hm := h.known m (hperm.mem_iff.2 hm)
  once := ((hperm.map Prod.fst).filter _).nodup_iff.1 h.once
  complete m hm := (h.complete m hm).imp_left hperm.mem_iff.1

theorem States.add (h : States s ms) (hname : name ∉ names) (hv : Form .value v []) :
    States s ((name, v) :: ms) where
  formed := List.forall_mem_cons.2 ⟨hv, h.formed⟩
  known := List.forall_mem_cons.2 ⟨fun hin => absurd hin hname, h.known⟩
  once := by
    rw [List.map_cons, List.filter_cons_of_neg (by simpa using hname)]
    exact h.once
  complete m hm := (h.complete m hm).imp_left (List.mem_cons_of_mem _)

/-- Whatever the edits are, the members still state the settings. -/
theorem Restated.states (h : Restated s ms) : States s ms := by
  induction h with
  | written => exact states_members s
  | leaveOut _ m hdefault ih => exact ih.leaveOut hdefault
  | reorder _ hperm ih => exact ih.perm hperm
  | add _ hname hv ih => exact ih.add hname hv

/-! ## Reading restated settings -/

/-- Members are taken one by one: each setting is as it should be, or is still to come. -/
theorem exists_takes (hknown : ∀ m ∈ ms, m.1 ∈ names → m ∈ s.members)
    (honce : ((ms.map Prod.fst).filter (· ∈ names)).Nodup)
    (hseen : ∀ name ∈ seen, name ∉ ms.map Prod.fst)
    (hcomplete : ∀ m ∈ s.members, m ∈ ms ∨ m ∈ a.members) :
    ∃ seen', recordType.Takes (Field.Reads room) seen a ms seen' s := by
  induction ms generalizing seen a with
  | nil =>
    have hmembers : ∀ m ∈ s.members, m ∈ a.members := by simpa using hcomplete
    rw [eq_of_members hmembers]
    exact ⟨seen, .done seen a⟩
  | cons m ms ih =>
    obtain ⟨name, v⟩ := m
    obtain ⟨hhere, hknown⟩ := List.forall_mem_cons.1 hknown
    have hseen' : ∀ other ∈ seen, other ∉ ms.map Prod.fst := by
      intro other hother hmem
      exact hseen other hother (List.mem_cons_of_mem name hmem)
    by_cases hname : name ∈ names
    · have hmember : (name, v) ∈ s.members := hhere hname
      obtain ⟨f, hfield, hreads⟩ := exists_reads hmember room
      rw [List.map_cons, List.filter_cons_of_pos (by simpa using hname), List.nodup_cons] at honce
      obtain ⟨hnot, honce⟩ := honce
      have hlast : name ∉ ms.map Prod.fst := by
        intro hmem
        exact hnot (List.mem_filter.2 ⟨hmem, by simpa using hname⟩)
      have hnew : name ∉ seen := by
        intro hmem
        exact hseen name hmem List.mem_cons_self
      have hcomplete' : ∀ m ∈ s.members, m ∈ ms ∨ m ∈ (s.adopt name a).members := by
        rintro ⟨other, w⟩ hm
        obtain hmem | hmem := hcomplete _ hm
        · obtain heq | hmem := List.mem_cons.1 hmem
          · exact .inr (mem_members_adopt hm (.inl (Prod.mk.inj heq).1.symm))
          · exact .inl hmem
        · exact .inr (mem_members_adopt hm (.inr hmem))
      obtain ⟨seen', htakes⟩ :=
        ih hknown honce (List.forall_mem_cons.2 ⟨hlast, hseen'⟩) hcomplete'
      exact ⟨seen', .field hfield hnew hreads htakes⟩
    · have hfield : recordType.fields.find? (fun f => f.name == name) = none := by
        rw [List.find?_eq_none]
        intro f hf heq
        exact hname (List.mem_map.2 ⟨f, hf, by simpa using heq⟩)
      rw [List.map_cons, List.filter_cons_of_neg (by simpa using hname)] at honce
      have hcomplete' : ∀ m ∈ s.members, m ∈ ms ∨ m ∈ a.members := by
        intro m hm
        refine (hcomplete m hm).imp_left fun hmem => ?_
        obtain rfl | hmem := List.mem_cons.1 hmem
        · exact absurd (map_fst_members s ▸ List.mem_map_of_mem hm) hname
        · exact hmem
      obtain ⟨seen', htakes⟩ := ih hknown honce hseen' hcomplete'
      exact ⟨seen', .other hfield htakes⟩

/-- A text that states settings is read as these settings. -/
theorem States.decode_eq (h : States s ms) {text : String} (htext : IsObject text.toList ms) :
    decode text = .ok s := by
  have hnone : ∀ name ∈ ([] : List String), name ∉ ms.map Prod.fst := by simp
  obtain ⟨seen, htakes⟩ : ∃ seen,
      recordType.Takes (Field.Reads (maxDepth - 1)) [] default ms seen s :=
    exists_takes h.known h.once hnone h.complete
  exact RecordType.decode_of_takes htext htakes rfl

theorem ofText_of_decode {text : String} (h : decode text = .ok s) :
    ofText text = match s.parseUrl with
      | .error flaw => .error flaw
      | .ok _ => .ok s := by
  cases haddress : s.parseUrl with
  | error flaw => simp only [ofText, h, haddress]
  | ok u => simp only [ofText, h, haddress]

/-- Written settings are read as they are exactly if requests have an address, and are refused for
the flaw of the address otherwise.  Whoever leaves out of their text what is as by default, puts it
in another order or adds members with unknown names has an object, and any text of that object is
read like the text that was written.

Whether requests have an address is for `Url.parse` to say.  It refuses international names, which
would have to be encoded in ASCII, and does not check labels that are encoded already (`xn--`). -/
theorem restated_read_alike (s : Settings) :
    (ofText s.text = .ok s ↔ ∃ u, s.parseUrl = .ok u) ∧
    (∀ flaw, s.parseUrl = .error flaw → ofText s.text = .error flaw) ∧
    IsObject s.text.toList s.members ∧
    ∀ ms, Restated s ms → (∃ text : String, IsObject text.toList ms) ∧
      ∀ text : String, IsObject text.toList ms → ofText text = ofText s.text := by
  have hwritten : IsObject s.text.toList s.members := by
    rw [toList_text]
    exact isObject_objectText (states_members s).formed
  have hdecode : decode s.text = .ok s := (states_members s).decode_eq hwritten
  refine ⟨?_, ?_, hwritten, fun ms hms => ⟨?_, ?_⟩⟩
  · rw [ofText_eq_ok_iff, and_iff_right hdecode]
  · intro flaw hflaw
    rw [ofText_of_decode hdecode, hflaw]
  · refine ⟨String.ofList (objectText ms), ?_⟩
    rw [String.toList_ofList]
    exact isObject_objectText hms.states.formed
  · intro text htext
    rw [ofText_of_decode (hms.states.decode_eq htext), ofText_of_decode hdecode]

/-- Settings that change the time and the layout. -/
def hurried : Settings := { default with timeoutMs := 500, requestShape := .flat }

/-- Their text, as somebody edited it: it has a note with half a surrogate, and says nothing about the
address and the levels. -/
def hurriedText : String :=
  "\x7b\"note\":[\"\\ud800\"],\"request_shape\":\"flat\",\"timeout_ms\":500\x7d"

theorem hurried_read_alike : ofText hurriedText = .ok hurried := by
  let note := ['[', '"', '\\', 'u', 'd', '8', '0', '0', '"', ']']
  let edited := [("note", note), ("request_shape", literal "flat"), ("timeout_ms", ['5', '0', '0'])]
  have hnote : Form .value note [] :=
    .array (.element (.refl _) (.string (.code rfl (.close _))) (.closeArray (.refl _)))
  have hrestated : Restated hurried edited := by
    refine .add (.reorder (.leaveOut (.leaveOut (.leaveOut .written
      ("endpoint", literal default.endpoint) ?_) ("stderr_log_level", ['1']) ?_)
      ("buffer_log_level", ['0']) ?_) ?_) ?_ hnote
    all_goals decide +kernel
  have htext : hurriedText.toList = objectText edited := by decide
  have hobject : IsObject hurriedText.toList edited := by
    rw [htext]
    exact isObject_objectText hrestated.states.formed
  have haddress : hurried.parseUrl = .ok ⟨"http",
      some ⟨"", "", .ipv4 0x7F000001, some 8001⟩, .segments ["api", "parse"], none, none⟩ := by
    decide +kernel
  obtain ⟨hwritten, -, -, halike⟩ := restated_read_alike hurried
  rw [(halike edited hrestated).2 hurriedText hobject]
  exact hwritten.2 ⟨_, haddress⟩

end Settings

end ParseLens
