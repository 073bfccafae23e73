import Mathlib.Data.List.Induction
import ParseLens.Proofs.Grammar.Canonical

set_option autoImplicit false

/-!
# Viewer: the form over time

A form is used by a sequence of edits: its text and its input are replaced, the text is applied, and
requests are made of it.  The problem of a check that failed stands until a check succeeds, and
while it stands requests are refused without a look at the text.  So what a form says depends on
its past, of which the form keeps only the last problem and the last accepted grammar.  An `Editing`
is a form together with the texts that were checked.

* `Editing.edit_cases` says what one edit can do.
* `Editing.Tracks` says what the form remembers of its checks, and is preserved by every edit.
* `Editing.form_follows_checks` is the main statement about runs.
* `Editor.judgesText_iff` says when the answer to a request is about the text that is there, and
  `Editing.judgesText_unless_replaced` which edits can spoil that.
-/

namespace ParseLens

/-! ## One form -/

namespace Editor

variable {e : Editor} {g : Grammar} {p : Problem}

/-- A form is refused and only takes note of it, or it makes a request of the grammar that its text
stands for. -/
theorem request_cases (e : Editor) :
    (∃ p, e.request = (.error p, { e with error := some p })) ∨
    ∃ g : Grammar, g.check = .ok () ∧
      e.request = (.ok ⟨g, e.input⟩, ⟨g.canonicalText, some g, e.input, none⟩) := by
  cases herror : e.error with
  | some p =>
    refine .inl ⟨p, ?_⟩
    rw [request_of_error herror, ← herror]
  | none =>
    rw [request_of_none herror]
    cases hvalidate : Grammar.validate e.text with
    | error p =>
      rw [applyText_of_error hvalidate]
      exact .inl ⟨p, rfl⟩
    | ok g =>
      rw [applyText_of_ok hvalidate]
      exact .inr ⟨g, Grammar.check_of_validate hvalidate, rfl⟩

/-- A check that fails only leaves its problem behind. -/
theorem applyText_of_fst_error (h : e.applyText.1 = .error p) :
    e.applyText.2 = { e with error := some p } := by
  cases hvalidate : Grammar.validate e.text with
  | ok g =>
    rw [applyText_of_ok hvalidate] at h
    simp at h
  | error q =>
    rw [applyText_of_error hvalidate] at h ⊢
    rw [Except.error.inj h]

theorem request_of_fst_error (h : e.request.1 = .error p) :
    e.request.2 = { e with error := some p } := by
  obtain ⟨q, hrequest⟩ | ⟨g, -, hrequest⟩ := e.request_cases
  · rw [hrequest] at h ⊢
    rw [Except.error.inj h]
  · rw [hrequest] at h
    simp at h

/-- A request is made when no problem stands and the text is accepted. -/
theorem request_eq_ok_iff {r : ParseRequest} :
    e.request.1 = .ok r ↔
      e.error = none ∧ ∃ g, Grammar.validate e.text = .ok g ∧ r = ⟨g, e.input⟩ := by
  cases herror : e.error with
  | some p => simp [request_of_error herror]
  | none =>
    rw [request_of_none herror]
    cases hvalidate : Grammar.validate e.text with
    | ok g => simp [applyText_of_ok hvalidate, Except.map, eq_comm]
    | error p => simp [applyText_of_error hvalidate, Except.map]

/-- The form that an accepted text leaves behind is accepted again, and does not change by it. -/
theorem accepted_again (hcheck : g.check = .ok ()) (input : String) :
    (ofGrammar g input).applyText = (.ok g, ofGrammar g input) ∧
      (ofGrammar g input).request = (.ok ⟨g, input⟩, ofGrammar g input) := by
  have happly : (ofGrammar g input).applyText = (.ok g, ofGrammar g input) :=
    applyText_of_ok (Grammar.validate_canonicalText_of_ok hcheck)
  refine ⟨happly, ?_⟩
  rw [request_of_none rfl, happly]
  rfl

/-- What a request leaves behind is accepted again, and does not change by it. -/
theorem again_of_request {r : ParseRequest} (h : e.request.1 = .ok r) :
    e.request.2 = ofGrammar r.grammar e.input ∧
      e.request.2.request = (.ok r, e.request.2) ∧
      e.request.2.applyText = (.ok r.grammar, e.request.2) := by
  obtain ⟨p, hrequest⟩ | ⟨g, hcheck, hrequest⟩ := e.request_cases
  · rw [hrequest] at h
    simp at h
  · rw [hrequest] at h
    obtain rfl := Except.ok.inj h
    obtain ⟨happly, hagain⟩ := accepted_again hcheck e.input
    rw [hrequest]
    exact ⟨rfl, hagain, happly⟩

/-- The answer to a request is about the text that is in the form now. -/
def JudgesText (e : Editor) : Prop :=
  ((∃ r, e.request.1 = .ok r) ↔ ∃ g, Grammar.validate e.text = .ok g) ∧
    ∀ p, e.request.1 = .error p → Grammar.validate e.text = .error p

/-- A request judges the text unless the problem of another text stands. -/
theorem judgesText_iff :
    e.JudgesText ↔ ∀ p, e.error = some p → Grammar.validate e.text = .error p := by
  cases herror : e.error with
  | some p =>
    have hrequest : e.request.1 = .error p := by rw [request_of_error herror]
    constructor
    · rintro ⟨-, hjudged⟩ q hq
      obtain rfl := Option.some.inj hq
      exact hjudged p hrequest
    · intro h
      have hvalidate := h p rfl
      simp [JudgesText, hrequest, hvalidate]
  | none =>
    simp only [JudgesText, request_of_none herror, reduceCtorEq, false_imp_iff, implies_true,
      iff_true]
    cases hvalidate : Grammar.validate e.text with
    | ok g => simp [applyText_of_ok hvalidate, Except.map]
    | error p => simp [applyText_of_error hvalidate, Except.map]

end Editor

/-! ## Edits -/

/-- Something that is done to a form. -/
inductive Edit where
  /-- Replace the text. -/
  | setText (text : String)
  /-- Replace the input. -/
  | setInput (input : String)
  /-- Check the text. -/
  | apply
  /-- Make a request. -/
  | request
  /-- Go on with a copy of the form. -/
  | copy
  deriving DecidableEq, Repr, Inhabited

/-- A form with the history of its checks. -/
structure Editing where
  form : Editor
  /-- The texts that were checked, in order. -/
  checked : List String
  /-- Whether the text was replaced since the last check. -/
  replaced : Bool
  deriving DecidableEq, Repr

namespace Editing

/-- The form that editing starts with, of which nothing was checked. -/
def start : Editing := ⟨.initial, [], false⟩

/-- Do something.  Applying the text checks it, and so does a request while no problem stands. -/
def edit (s : Editing) : Edit → Editing
  | .setText text => { s with form := s.form.setText text, replaced := true }
  | .setInput input => { s with form := s.form.setInput input }
  | .apply => ⟨s.form.applyText.2, s.checked ++ [s.form.text], false⟩
  | .request =>
    match s.form.error with
    | none => ⟨s.form.request.2, s.checked ++ [s.form.text], false⟩
    | some _ => { s with form := s.form.request.2 }
  | .copy => s

/-- Do one thing after the other. -/
def run (s : Editing) (edits : List Edit) : Editing := edits.foldl edit s

theorem run_append (s : Editing) (edits edits' : List Edit) :
    s.run (edits ++ edits') = (s.run edits).run edits' := by
  simp only [run, List.foldl_append]

/-- An edit checks the text, or replaces it, or changes nothing but the input. -/
theorem edit_cases (s : Editing) (x : Edit) :
    s.edit x = ⟨s.form.applyText.2, s.checked ++ [s.form.text], false⟩ ∨
    (∃ text, s.edit x = { s with form := s.form.setText text, replaced := true }) ∨
    ∃ input, s.edit x = { s with form := s.form.setInput input } := by
  cases x with
  | setText text => exact .inr (.inl ⟨text, rfl⟩)
  | setInput input => exact .inr (.inr ⟨input, rfl⟩)
  | apply => exact .inl rfl
  | request =>
    cases herror : s.form.error with
    | none => exact .inl (by simp only [edit, herror, Editor.request_of_none herror])
    | some p =>
      refine .inr (.inr ⟨s.form.input, ?_⟩)
      simp only [edit, herror, Editor.request_of_error herror]
      rfl
  | copy => exact .inr (.inr ⟨s.form.input, rfl⟩)

/-- What holds at the start and is preserved by every edit holds after every run. -/
theorem run_invariant {P : Editing → Prop} (hedit : ∀ s x, P s → P (s.edit x)) {s : Editing}
    (hs : P s) (edits : List Edit) : P (s.run edits) := by
  induction edits generalizing s with
  | nil => exact hs
  | cons x edits ih => exact ih (hedit s x hs)

/-- Whatever was there before, an accepted text that is applied fills in the form. -/
theorem form_run_apply (s : Editing) {text : String} {g : Grammar}
    (h : Grammar.validate text = .ok g) (input : String) :
    (s.run [.setText text, .apply, .setInput input]).form = .ofGrammar g input := by
  have happly : (s.form.setText text).applyText = (.ok g, .ofGrammar g s.form.input) :=
    Editor.applyText_of_ok h
  simp only [run, List.foldl_cons, List.foldl_nil, edit, happly]
  rfl

/-! ## What the form remembers -/

/-- The grammar of the last text that was accepted, or the one that editing starts with. -/
def lastAccepted (checked : List String) : Grammar :=
  (checked.filterMap fun text => (Grammar.validate text).toOption).getLastD .initial

theorem lastAccepted_append_of_ok {text : String} {g : Grammar}
    (h : Grammar.validate text = .ok g) (checked : List String) :
    lastAccepted (checked ++ [text]) = g := by
  simp [lastAccepted, h, Except.toOption]

theorem lastAccepted_append_of_error {text : String} {p : Problem}
    (h : Grammar.validate text = .error p) (checked : List String) :
    lastAccepted (checked ++ [text]) = lastAccepted checked := by
  simp [lastAccepted, h, Except.toOption]

theorem check_initial : Grammar.initial.check = .ok () := by decide +kernel

/-- Whatever was checked, the last accepted grammar passes the check. -/
theorem check_lastAccepted (checked : List String) : (lastAccepted checked).check = .ok () := by
  induction checked using List.reverseRecOn with
  | nil => exact check_initial
  | append_singleton checked text ih =>
    cases hvalidate : Grammar.validate text with
    | ok g =>
      rw [lastAccepted_append_of_ok hvalidate]
      exact Grammar.check_of_validate hvalidate
    | error p =>
      rw [lastAccepted_append_of_error hvalidate]
      exact ih

/-- The form has the last accepted grammar, and the problem of the last check if that failed; its
text is then the one that was checked, unless it was replaced since. -/
structure Tracks (s : Editing) : Prop where
  grammar : s.form.grammar = some (lastAccepted s.checked)
  error : ∀ p, s.form.error = some p ↔
    ∃ text, s.checked.getLast? = some text ∧ Grammar.validate text = .error p
  text : ∀ p, s.form.error = some p → s.replaced = false →
    s.checked.getLast? = some s.form.text

theorem tracks_start : start.Tracks where
  grammar := rfl
  error p := by simp [start, Editor.initial, Editor.ofGrammar]
  text p h := by simp [start, Editor.initial, Editor.ofGrammar] at h

/-- Checking the text brings the form up to date, whether the text is accepted or not. -/
theorem Tracks.check {s : Editing} (h : s.Tracks) :
    Tracks ⟨s.form.applyText.2, s.checked ++ [s.form.text], false⟩ := by
  cases hvalidate : Grammar.validate s.form.text with
  | ok g =>
    rw [Editor.applyText_of_ok hvalidate]
    refine ⟨?_, ?_, ?_⟩
    · rw [lastAccepted_append_of_ok hvalidate]
    · simp [hvalidate]
    · simp
  | error q =>
    rw [Editor.applyText_of_error hvalidate]
    refine ⟨?_, ?_, ?_⟩
    · rw [lastAccepted_append_of_error hvalidate]
      exact h.grammar
    · simp [hvalidate]
    · simp

theorem Tracks.edit {s : Editing} (h : s.Tracks) (x : Edit) : (s.edit x).Tracks := by
  obtain hx | ⟨text, hx⟩ | ⟨input, hx⟩ := s.edit_cases x
  · rw [hx]
    exact h.check
  · rw [hx]
    exact ⟨h.grammar, h.error, fun _ _ hreplaced => by simp at hreplaced⟩
  · rw [hx]
    exact ⟨h.grammar, h.error, h.text⟩

theorem tracks_run (edits : List Edit) : (start.run edits).Tracks :=
  run_invariant (fun _ x h => h.edit x) tracks_start edits

/-- After every run the form has the grammar of the last text that was accepted, or else the one that
editing starts with, and that grammar passes the check.  A problem stands, and nothing can be
sent, exactly when the last check failed, and it is the problem of that check.  A check or a
request that fails changes nothing but the problem.  A request is made exactly when no problem
stands and the text is accepted; the text is then canonical, and requesting or applying it again
gives the same grammar and changes nothing. -/
theorem form_follows_checks (edits : List Edit) :
    let s := start.run edits
    let e := s.form
    (e.grammar = some (lastAccepted s.checked) ∧ (lastAccepted s.checked).check = .ok ()) ∧
    (∀ p, e.error = some p ↔
      ∃ text, s.checked.getLast? = some text ∧ Grammar.validate text = .error p) ∧
    (e.canSubmit = false ↔ ∃ p, e.error = some p) ∧
    (∀ p, e.applyText.1 = .error p → e.applyText.2 = { e with error := some p }) ∧
    (∀ p, e.request.1 = .error p → e.request.2 = { e with error := some p }) ∧
    (∀ r, e.request.1 = .ok r ↔
      e.error = none ∧ ∃ g, Grammar.validate e.text = .ok g ∧ r = ⟨g, e.input⟩) ∧
    ∀ r, e.request.1 = .ok r →
      let e' := e.request.2
      e' = ⟨r.grammar.canonicalText, some r.grammar, e.input, none⟩ ∧
        e'.request = (.ok r, e') ∧ e'.applyText = (.ok r.grammar, e') := by
  intro s e
  have h : s.Tracks := tracks_run edits
  refine ⟨⟨h.grammar, check_lastAccepted s.checked⟩, h.error, Editor.canSubmit_eq_false_iff, ?_, ?_,
    ?_, ?_⟩
  · intro p hp
    exact Editor.applyText_of_fst_error hp
  · intro p hp
    exact Editor.request_of_fst_error hp
  · intro r
    exact Editor.request_eq_ok_iff
  · intro r hr
    exact Editor.again_of_request hr

/-- An empty text is applied and refused, and so is a request of it.  The initial grammar is put in
its place and applied, and then it is requested with another input. -/
theorem form_follows_checks_of_refused_text :
    let p : Problem := .grammar (.unreadable "EOF while parsing a value at line 1 column 0")
    let refusal : List Edit := [.setText "", .apply]
    let mending : List Edit := [.setText Grammar.initial.canonicalText, .apply, .setInput "b"]
    let refused := (start.run refusal).form
    let mended := (start.run (refusal ++ mending)).form
    (refused.canSubmit = false ∧ refused.error = some p ∧ Grammar.validate "" = .error p) ∧
    (refused.applyText.1 = .error p ∧ refused.applyText.2 = { refused with error := some p }) ∧
    (refused.request.1 = .error p ∧ refused.request.2 = { refused with error := some p }) ∧
    mended.request.1 = .ok ⟨.initial, "b"⟩ ∧
      mended.request.2.request = (.ok ⟨.initial, "b"⟩, mended.request.2) := by
  intro p refusal mending refused mended
  obtain ⟨-, herror, hblocked, happly, hrequest, -, -⟩ := form_follows_checks refusal
  obtain ⟨-, -, -, -, -, hok, hagain⟩ := form_follows_checks (refusal ++ mending)
  have hempty : Grammar.validate "" = .error p := by decide +kernel
  have hrefused : refused.error = some p := (herror p).2 ⟨"", rfl, hempty⟩
  have happlied : refused.applyText.1 = .error p := by decide +kernel
  have hrequested : refused.request.1 = .error p := by rw [Editor.request_of_error hrefused]
  have hvalidate := Grammar.validate_canonicalText_of_ok check_initial
  have hform : (start.run (refusal ++ mending)).form = .ofGrammar .initial "b" := by
    simp only [mending, run_append]
    exact form_run_apply (start.run refusal) hvalidate "b"
  have hmended : mended.request.1 = .ok ⟨.initial, "b"⟩ := by
    refine (hok _).2 ?_
    rw [hform]
    exact ⟨rfl, .initial, hvalidate, rfl⟩
  refine ⟨⟨hblocked.2 ⟨p, hrefused⟩, hrefused, hempty⟩, ⟨happlied, happly p happlied⟩, ?_, hmended,
    (hagain _ hmended).2.1⟩
  exact ⟨hrequested, hrequest p hrequested⟩

/-! ## Which text a request is about -/

/-- A problem that stands is that of the text, unless the text was replaced since the check. -/
theorem Tracks.judgesText {s : Editing} (h : s.Tracks)
    (hkept : s.form.error = none ∨ s.replaced = false) : s.form.JudgesText := by
  refine Editor.judgesText_iff.2 ?_
  intro p hp
  obtain hnone | hkept := hkept
  · rw [hnone] at hp
    simp at hp
  · obtain ⟨text, hlast, hvalidate⟩ := (h.error p).1 hp
    rw [h.text p hp hkept] at hlast
    rw [Option.some.inj hlast]
    exact hvalidate

/-- A text that was refused is replaced by one that would be accepted.  A request of the form is
refused, with the problem of the text that is there no more. -/
theorem request_refuses_mended_text :
    let e := (start.run [.setText "", .apply, .setText Grammar.initial.canonicalText]).form
    Grammar.validate e.text = .ok .initial ∧
      e.request.1 = .error
        (.grammar (.unreadable "EOF while parsing a value at line 1 column 0")) ∧
      ¬ ((∃ r, e.request.1 = .ok r) ↔ ∃ g, Grammar.validate e.text = .ok g) ∧
      ¬ ∀ p, e.request.1 = .error p → Grammar.validate e.text = .error p := by
  intro e
  have hvalidate : Grammar.validate e.text = .ok .initial :=
    Grammar.validate_canonicalText_of_ok check_initial
  have hrequest : e.request.1 = .error
      (.grammar (.unreadable "EOF while parsing a value at line 1 column 0")) := by
    decide +kernel
  refine ⟨hvalidate, hrequest, ?_, ?_⟩
  · intro hiff
    obtain ⟨r, hr⟩ := hiff.2 ⟨_, hvalidate⟩
    rw [hrequest] at hr
    simp at hr
  · intro hjudged
    have herror := hjudged _ hrequest
    rw [hvalidate] at herror
    simp at herror

/-- After every run a request is about the text that is in the form now, unless the text was
replaced while a problem stood: it is made exactly when the text is accepted, and refused only for
the problem of the text.  While a problem stands a request changes nothing and is refused for this
problem, which is that of the text that was checked last, whatever the text is now; so the answer is
about the text that is there exactly when that text has the same problem.  A request that is made is
always of the text that is there. -/
theorem judgesText_unless_replaced (edits : List Edit) :
    let s := start.run edits
    let e := s.form
    (e.error = none ∨ s.replaced = false →
      ((∃ r, e.request.1 = .ok r) ↔ ∃ g, Grammar.validate e.text = .ok g) ∧
        ∀ p, e.request.1 = .error p → Grammar.validate e.text = .error p) ∧
    (∀ p, e.error = some p → e.request = (.error p, e) ∧
      (∃ text, s.checked.getLast? = some text ∧ Grammar.validate text = .error p) ∧
      (e.JudgesText ↔ Grammar.validate e.text = .error p)) ∧
    ∀ r, e.request.1 = .ok r → Grammar.validate e.text = .ok r.grammar := by
  intro s e
  have h : s.Tracks := tracks_run edits
  refine ⟨h.judgesText, ?_, ?_⟩
  · intro p hp
    refine ⟨Editor.request_of_error hp, (h.error p).1 hp, ?_⟩
    rw [Editor.judgesText_iff, hp]
    simp
  · intro r hr
    obtain ⟨-, g, hvalidate, rfl⟩ := Editor.request_eq_ok_iff.1 hr
    exact hvalidate

/-- A text that was refused is left as it is, and then replaced. -/
theorem judgesText_unless_replaced_of_refused_text :
    let p : Problem := .grammar (.unreadable "EOF while parsing a value at line 1 column 0")
    let kept := start.run [.setText "", .request, .setInput "b"]
    let replaced := start.run [.setText "", .request, .setText Grammar.initial.canonicalText]
    (kept.replaced = false ∧ kept.form.request.1 = .error p ∧
      Grammar.validate kept.form.text = .error p) ∧
    (replaced.form.error = some p ∧ replaced.form.request = (.error p, replaced.form)) ∧
    start.form.request.1 = .ok ⟨.initial, "a a b"⟩ ∧
      Grammar.validate start.form.text = .ok .initial := by
  intro p kept replaced
  have hkept : kept.form.request.1 = .error p := by decide +kernel
  have hreplaced : replaced.form.error = some p := by decide +kernel
  have hform : start.form = .ofGrammar .initial "a a b" := rfl
  have hstart : start.form.request.1 = .ok ⟨.initial, "a a b"⟩ := by
    rw [hform, (Editor.accepted_again check_initial "a a b").2]
  have hfalse : kept.replaced = false := by decide +kernel
  refine ⟨⟨hfalse, hkept, ?_⟩, ⟨hreplaced, ?_⟩, hstart, ?_⟩
  · exact ((judgesText_unless_replaced [.setText "", .request, .setInput "b"]).1
      (.inr hfalse)).2 p hkept
  · exact ((judgesText_unless_replaced
      [.setText "", .request, .setText Grammar.initial.canonicalText]).2.1 p hreplaced).1
  · exact (judgesText_unless_replaced []).2.2 _ hstart

end Editing

end ParseLens
