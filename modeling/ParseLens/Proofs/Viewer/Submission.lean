import ParseLens.Proofs.Exchange.Delivery
import ParseLens.Proofs.Viewer.Banner
import ParseLens.Proofs.Viewer.Editing
import ParseLens.Viewer.Sample

set_option autoImplicit false

/-!
# Viewer: submissions

A submission makes a request of what stands in a form, sends it and settles it at once.  It is a
move like any other as far as the viewer is concerned: its ticket is issued and handed in before
anything else can happen (`Session.handIn_begin_eq_play`), so what holds after every run of moves
holds after every run with submissions in it (`Session.exists_play_eq_run`).

The forms and the backends of a run are not followed from one submission to the next: each
submission has a form and a backend in a state of its own, whatever they are.  Every way in which
forms are edited and backends answer is among these.

* `ViewState.submit_recorded` says that a submission does not see whether what it posts is kept.
* `Session.submit_posts_once` is the main statement: a submission is blocked and changes nothing,
  or it posts a checked grammar once and is settled for good, however many older tickets are out.
-/

namespace ParseLens

variable {σ : Type}

/-! ## One submission -/

/-- What becomes of a request that nothing later stands in the way of. -/
def Completion.ofOutcome : Except Problem Response → Completion
  | .ok _ => .applied
  | .error p => .failed p

theorem Completion.ofOutcome_ne_stale (outcome : Except Problem Response) :
    ofOutcome outcome ≠ .stale := by
  cases outcome <;> simp [ofOutcome]

theorem Completion.ofOutcome_ne_blocked (outcome : Except Problem Response) (p : Problem) :
    ofOutcome outcome ≠ .blocked p := by
  cases outcome <;> simp [ofOutcome]

namespace ViewState

variable {v : ViewState} {e e' : Editor} {r : ParseRequest}

/-- A ticket later than both numbers of the viewer is never dropped. -/
theorem complete_of_latest {t : Ticket} (happlied : v.applied < some t.seq)
    (hsettled : v.settled < some t.seq) (outcome : Except Problem Response) (took : String) :
    (v.complete t outcome took).1 = .ofOutcome outcome := by
  obtain ⟨seq, _, hthreshold, hle, _⟩ | ⟨r, rfl, _, h⟩ | ⟨p, rfl, _, h⟩ :=
    v.complete_cases t outcome took
  · have hlt : seq < t.seq := by
      cases outcome with
      | ok r => exact lt_some_iff.1 happlied seq hthreshold
      | error p => exact lt_some_iff.1 hsettled seq hthreshold
    omega
  · rw [h]
    rfl
  · rw [h]
    rfl

theorem submit_of_error {p : Problem} (h : e.request = (.error p, e')) (c : Client)
    (backend : Backend σ) (b : σ) (took : String) :
    v.submit c backend e b took = ⟨.blocked p, v, e', b⟩ := by
  simp only [submit, h]

theorem submit_of_ok (h : e.request = (.ok r, e')) (c : Client) (backend : Backend σ) (b : σ)
    (took : String) : v.submit c backend e b took =
      ⟨((v.beginRequest r).2.complete (v.beginRequest r).1 (c.send backend r b).1 took).1,
        ((v.beginRequest r).2.complete (v.beginRequest r).1 (c.send backend r b).1 took).2,
        e', (c.send backend r b).2⟩ := by
  simp only [submit, h]

/-- Keeping what is posted changes nothing else. -/
theorem submit_recorded (v : ViewState) (c : Client) (backend : Backend σ) (e : Editor) (b : σ)
    (posts : List Post) (took : String) :
    (v.submit c backend.recorded e (b, posts) took).completion =
        (v.submit c backend e b took).completion ∧
      (v.submit c backend.recorded e (b, posts) took).viewer =
        (v.submit c backend e b took).viewer ∧
      (v.submit c backend.recorded e (b, posts) took).editor =
        (v.submit c backend e b took).editor ∧
      (v.submit c backend.recorded e (b, posts) took).backend.1 =
        (v.submit c backend e b took).backend := by
  obtain ⟨p, h⟩ | ⟨g, _, h⟩ := e.request_cases
  · rw [submit_of_error h, submit_of_error h]
    exact ⟨rfl, rfl, rfl, rfl⟩
  · rw [submit_of_ok h, submit_of_ok h, Client.send_recorded]
    exact ⟨rfl, rfl, rfl, rfl⟩

/-- A submission whose request is the latest is settled by what comes back for it. -/
theorem completion_submit_of_ok (h : e.request = (.ok r, e')) (happlied : v.applied ≤ some v.begun)
    (hsettled : v.settled ≤ some v.begun) (c : Client) (backend : Backend σ) (b : σ)
    (took : String) :
    (v.submit c backend e b took).completion = .ofOutcome (c.send backend r b).1 := by
  have hlatest {a : Option Nat} (ha : a ≤ some v.begun) : a < some (v.beginRequest r).1.seq := by
    refine lt_some_iff.2 ?_
    intro m hm
    obtain ⟨n, hn, hmn⟩ := le_option_iff.1 ha m hm
    rw [← Option.some.inj hn] at hmn
    exact Nat.lt_succ_of_le hmn
  rw [submit_of_ok h]
  exact complete_of_latest (v := (v.beginRequest r).2) (hlatest happlied) (hlatest hsettled) _ took

end ViewState

/-! ## Runs with submissions -/

/-- Something that is done to a viewer. -/
inductive Act (σ : Type) where
  /-- Make a move. -/
  | move (m : Move)
  /-- Submit a form to a backend in the given state. -/
  | submit (c : Client) (backend : Backend σ) (e : Editor) (b : σ) (took : String)

namespace Session

/-- Submit a form.  A request that is sent leaves a ticket that is issued and handed in. -/
def submit (s : Session) (c : Client) (backend : Backend σ) (e : Editor) (b : σ) (took : String) :
    Session :=
  let submission := s.viewer.submit c backend e b took
  match e.request.1 with
  | .error _ => ⟨submission.viewer, s.issued, s.settlements⟩
  | .ok r =>
    let ticket := (s.viewer.beginRequest r).1
    ⟨submission.viewer, s.issued ++ [⟨r, ticket⟩],
      s.settlements ++ [⟨ticket, (c.send backend r b).1, submission.completion⟩]⟩

/-- Do something. -/
def act (s : Session) : Act σ → Session
  | .move m => s.move m
  | .submit c backend e b took => s.submit c backend e b took

/-- Do one thing after the other. -/
def run (s : Session) (acts : List (Act σ)) : Session := acts.foldl act s

theorem play_append (s : Session) (moves moves' : List Move) :
    s.play (moves ++ moves') = (s.play moves).play moves' := List.foldl_append

theorem submit_of_error {s : Session} {e e' : Editor} {p : Problem}
    (h : e.request = (.error p, e')) (c : Client) (backend : Backend σ) (b : σ) (took : String) :
    s.submit c backend e b took = s := by
  simp only [submit, ViewState.submit_of_error h, h]

/-- A submission that is sent is a request whose ticket is handed in at once. -/
theorem submit_of_ok {s : Session} {e e' : Editor} {r : ParseRequest}
    (h : e.request = (.ok r, e')) (c : Client) (backend : Backend σ) (b : σ) (took : String) :
    s.submit c backend e b took =
      (s.begin r).handIn (s.viewer.beginRequest r).1 (c.send backend r b).1 took := by
  simp only [submit, ViewState.submit_of_ok h, h]
  rfl

theorem handIn_begin_eq_play (s : Session) (r : ParseRequest) (outcome : Except Problem Response)
    (took : String) : (s.begin r).handIn (s.viewer.beginRequest r).1 outcome took =
      s.play [.request r, .settle s.issued.length outcome took] := by
  have hissue : (s.begin r).issued[s.issued.length]? = some ⟨r, (s.viewer.beginRequest r).1⟩ := by
    simp [Session.begin]
  simp only [play, List.foldl_cons, List.foldl_nil, move, hissue]

/-- A submission does nothing that moves cannot do. -/
theorem exists_play_eq_act (s : Session) (a : Act σ) : ∃ moves, s.act a = s.play moves := by
  cases a with
  | move m => exact ⟨[m], rfl⟩
  | submit c backend e b took =>
    obtain ⟨p, h⟩ | ⟨g, _, h⟩ := e.request_cases
    · exact ⟨[], submit_of_error h c backend b took⟩
    · have hsubmit := submit_of_ok h (s := s) c backend b took
      rw [handIn_begin_eq_play] at hsubmit
      exact ⟨_, hsubmit⟩

/-- Whatever a run with submissions leads to, a run of moves leads to. -/
theorem exists_play_eq_run (s : Session) (acts : List (Act σ)) :
    ∃ moves, s.run acts = s.play moves := by
  induction acts generalizing s with
  | nil => exact ⟨[], rfl⟩
  | cons a acts ih =>
    obtain ⟨moves, hact⟩ := s.exists_play_eq_act a
    obtain ⟨moves', hrun⟩ := ih (s.act a)
    refine ⟨moves ++ moves', ?_⟩
    rw [play_append, ← hact]
    exact hrun

/-- Neither number of the viewer is ahead of the requests that have begun. -/
theorem marks_le_begun_run (log : Log) (acts : List (Act σ)) :
    ((start log).run acts).viewer.applied ≤ some ((start log).run acts).viewer.begun ∧
      ((start log).run acts).viewer.settled ≤ some ((start log).run acts).viewer.begun := by
  obtain ⟨moves, hrun⟩ := (start log).exists_play_eq_run acts
  rw [hrun]
  obtain ⟨happlied, hsettled⟩ := (current_play log moves).marks_le (numbered_play log moves)
  exact ⟨le_option_trans happlied hsettled, hsettled⟩

/-- After every run, with whatever form, client and backend, a submission does one of two things, and
to keep what is posted changes nothing about it.  Either it is blocked: nothing is posted, the
viewer is the same, and the form only takes note of the problem.  Or it posts once, to the address
of the client, a body that is read as a request with the input of the form and a checked grammar,
which the form has from then on; then it is applied if an answer comes back and has failed
otherwise.  It is never dropped, and it is blocked exactly if the form makes no request, with the
problem that stands in the way. -/
theorem submit_posts_once {τ : Type} (log : Log) (acts : List (Act τ)) (c : Client)
    (backend : Backend σ) (e : Editor) (b : σ) (posts : List Post) (took : String) :
    let v := ((start log).run acts).viewer
    let plain := v.submit c backend e b took
    let recorded := v.submit c backend.recorded e (b, posts) took
    (recorded.completion = plain.completion ∧ recorded.viewer = plain.viewer ∧
      recorded.editor = plain.editor ∧ recorded.backend.1 = plain.backend) ∧
    ((∃ p, recorded.completion = .blocked p ∧ recorded.backend = (b, posts) ∧
        recorded.viewer = v ∧ recorded.editor = { e with error := some p }) ∨
      ∃ r : ParseRequest, e.request.1 = .ok r ∧
        recorded.backend = ((c.send backend r b).2, posts ++ [c.post r]) ∧
        (c.post r).url = c.url ∧ ParseRequest.decoder.decode (c.post r).body = .ok r ∧
        r.input = e.input ∧ r.grammar.check = .ok () ∧
        recorded.editor.grammar = some r.grammar ∧
        recorded.completion = .ofOutcome (c.send backend r b).1) ∧
    (∀ p, recorded.completion = .blocked p ↔ e.request.1 = .error p) ∧
    recorded.completion ≠ .stale ∧
    ∀ settings : Settings, Client.ofSettings settings = .ok c →
      settings.parseUrl = .ok c.url := by
  intro v plain recorded
  obtain ⟨happlied, hsettled⟩ := marks_le_begun_run log acts
  refine ⟨v.submit_recorded c backend e b posts took, ?_⟩
  obtain ⟨p, h⟩ | ⟨g, hcheck, h⟩ := e.request_cases
  · have hsubmit : recorded = ⟨.blocked p, v, { e with error := some p }, (b, posts)⟩ :=
      ViewState.submit_of_error h c backend.recorded (b, posts) took
    refine ⟨.inl ?_, fun p' => ?_, ?_, fun settings => Client.parseUrl_of_ofSettings⟩
    · rw [hsubmit]
      exact ⟨p, rfl, rfl, rfl, rfl⟩
    · simp [hsubmit, h]
    · simp [hsubmit]
  · have hsubmit := ViewState.submit_of_ok (v := v) h c backend.recorded (b, posts) took
    have hcompletion : recorded.completion = .ofOutcome (c.send backend ⟨g, e.input⟩ b).1 :=
      ViewState.completion_submit_of_ok h happlied hsettled c backend.recorded (b, posts) took
    have hbackend : recorded.backend = _ := congrArg ViewState.Submission.backend hsubmit
    have hgrammar : recorded.editor.grammar = some g :=
      congrArg (fun x => x.editor.grammar) hsubmit
    have hread := ParseRequest.decode_request_body ⟨g, e.input⟩ c.shape
    refine ⟨.inr ?_, fun p => ?_, ?_, fun settings => Client.parseUrl_of_ofSettings⟩
    · exact ⟨⟨g, e.input⟩, by rw [h], hbackend, rfl, hread, rfl, hcheck, hgrammar, hcompletion⟩
    · rw [hcompletion, h]
      simp [Completion.ofOutcome_ne_blocked]
    · rw [hcompletion]
      exact Completion.ofOutcome_ne_stale _

/-- The initial form is submitted with the default settings while the first of two requests is out
and the second has failed.  Its grammar and its input are posted, and the answer is shown. -/
theorem submit_posts_once_of_ticket_out :
    let r : ParseRequest := ⟨.initial, "a a b"⟩
    let acts : List (Act Script) := [.move (.request r), .move (.request r),
      .move (.settle 1 (.error (.transport (.broken "reset"))) "")]
    let c : Client := ⟨⟨"http", some ⟨"", "", .ipv4 2130706433, some 8001⟩,
      .segments ["api", "parse"], none, none⟩, 30000, .nested⟩
    let script : Script := ⟨[⟨.ok (Sample.okReply ⟨[], .empty, []⟩), 1000000⟩], []⟩
    let v := ((start .quiet).run acts).viewer
    let recorded := v.submit c Script.backend.recorded .initial (script, []) "1ms"
    Client.ofSettings .default = .ok c ∧ Settings.default.parseUrl = .ok c.url ∧
      Editor.initial.request.1 = .ok r ∧ recorded.backend.2 = [c.post r] ∧
      recorded.completion = .applied ∧ recorded.completion ≠ .stale := by
  intro r acts c script v recorded
  have hc : Client.ofSettings .default = .ok c := by decide +kernel
  have hrequest : Editor.initial.request.1 = .ok r := by decide +kernel
  have hanswer : (c.send Script.backend r script).1 = .ok ⟨[], .empty, []⟩ := by decide +kernel
  obtain ⟨-, hends, hblocked, hstale, hurl⟩ :=
    submit_posts_once .quiet acts c Script.backend .initial script [] "1ms"
  refine ⟨hc, hurl .default hc, hrequest, ?_⟩
  obtain ⟨p, hcompletion, -⟩ | ⟨r', hr', hbackend, -, -, -, -, -, hcompletion⟩ := hends
  · have herror := (hblocked p).1 hcompletion
    simp [hrequest] at herror
  · obtain rfl : r = r' := Except.ok.inj (hrequest.symm.trans hr')
    refine ⟨?_, ?_, hstale⟩
    · rw [show recorded.backend = _ from hbackend, List.nil_append]
    · rw [show recorded.completion = _ from hcompletion, hanswer]
      rfl

end Session

end ParseLens
