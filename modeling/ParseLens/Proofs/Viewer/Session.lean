import Mathlib.Data.List.Basic
import ParseLens.Viewer.State

set_option autoImplicit false

/-!
# Viewer: sessions

A viewer is used by a sequence of moves: requests begin, tickets are handed in with what became of
their requests, and in between one looks around.  Tickets come back in any order, some never, some
more than once.  A session is the viewer together with the history of its requests, which the
viewer itself does not keep: every ticket that was issued, and every ticket that was handed in.

Every list of moves is a run.  A ticket that has not been issued cannot be handed in, so a move
that asks for it does nothing.

* `Session.move_cases` says what one move can do.
* `Session.play_invariant` carries what every move preserves over a whole run.
* `ViewState.complete_cases` says what settling a request can do.
-/

namespace ParseLens

/-! ## Moves -/

/-- Something that is done to a viewer. -/
inductive Move where
  /-- Begin a request. -/
  | request (r : ParseRequest)
  /-- Hand in the ticket of the request that began after `index` others; `took` is the time that
  the log gives. -/
  | settle (index : Nat) (outcome : Except Problem Response) (took : String)
  /-- Select a view. -/
  | selectTab (tab : Tab)
  /-- Select a step. -/
  | selectStep (index : Nat)
  /-- Go to the next step. -/
  | stepForward
  /-- Go to the step before. -/
  | stepBack
  /-- Go on with a copy of the viewer. -/
  | copy
  deriving Repr, Inhabited

/-- A ticket that was issued, with the request it was issued for. -/
structure Issue where
  request : ParseRequest
  ticket : Ticket
  deriving DecidableEq, Repr, Inhabited

/-- A ticket that was handed in. -/
structure Settlement where
  ticket : Ticket
  /-- What it was handed in with. -/
  outcome : Except Problem Response
  /-- What the viewer made of it. -/
  completion : Completion
  deriving DecidableEq, Repr

/-- A viewer with the history of its requests. -/
structure Session where
  viewer : ViewState
  /-- The tickets in the order in which they were issued. -/
  issued : List Issue
  /-- The tickets in the order in which they were handed in. -/
  settlements : List Settlement
  deriving DecidableEq, Repr

namespace Session

/-- A session with a new viewer. -/
def start (log : Log) : Session := ⟨.new log, [], []⟩

/-- Begin a request, and keep its ticket. -/
def begin (s : Session) (r : ParseRequest) : Session :=
  ⟨(s.viewer.beginRequest r).2, s.issued ++ [⟨r, (s.viewer.beginRequest r).1⟩], s.settlements⟩

/-- Hand in a ticket. -/
def handIn (s : Session) (t : Ticket) (outcome : Except Problem Response) (took : String) :
    Session :=
  let (completion, viewer) := s.viewer.complete t outcome took
  ⟨viewer, s.issued, s.settlements ++ [⟨t, outcome, completion⟩]⟩

/-- Make a move. -/
def move (s : Session) : Move → Session
  | .request r => s.begin r
  | .settle index outcome took =>
    match s.issued[index]? with
    | none => s
    | some issue => s.handIn issue.ticket outcome took
  | .selectTab tab => { s with viewer := s.viewer.selectTab tab }
  | .selectStep index => { s with viewer := s.viewer.selectStep index }
  | .stepForward => { s with viewer := s.viewer.stepForward }
  | .stepBack => { s with viewer := s.viewer.stepBack }
  | .copy => { s with viewer := s.viewer.copy }

/-- Make moves one after the other. -/
def play (s : Session) (moves : List Move) : Session := moves.foldl move s

/-- What holds at the start and is preserved by every move holds after every run. -/
theorem play_invariant {P : Session → Prop} (hmove : ∀ s m, P s → P (s.move m)) {s : Session}
    (hs : P s) (moves : List Move) : P (s.play moves) := by
  induction moves generalizing s with
  | nil => exact hs
  | cons m moves ih => exact ih (hmove s m hs)

/-- A move begins a request, or hands in a ticket that was issued, or leaves alone everything but
the selected view, the selected step and the log. -/
theorem move_cases (s : Session) (m : Move) :
    (∃ r, m = .request r ∧ s.move m = s.begin r) ∨
    (∃ issue ∈ s.issued, ∃ index outcome took,
      m = .settle index outcome took ∧ s.move m = s.handIn issue.ticket outcome took) ∨
    ∃ tab replay log, s.move m = { s with viewer := { s.viewer with tab, replay, log } } := by
  cases m with
  | request r => exact .inl ⟨r, rfl, rfl⟩
  | settle index outcome took =>
    cases hissue : s.issued[index]? with
    | none =>
      refine .inr (.inr ⟨s.viewer.tab, s.viewer.replay, s.viewer.log, ?_⟩)
      simp [move, hissue]
    | some issue =>
      refine .inr (.inl ⟨issue, List.mem_of_getElem? hissue, index, outcome, took, rfl, ?_⟩)
      simp [move, hissue]
  | selectTab tab => exact .inr (.inr ⟨tab, _, _, rfl⟩)
  | selectStep index => exact .inr (.inr ⟨_, s.viewer.replay.select index, _, rfl⟩)
  | stepForward => exact .inr (.inr ⟨_, s.viewer.replay.forward, _, rfl⟩)
  | stepBack => exact .inr (.inr ⟨_, s.viewer.replay.back, _, rfl⟩)
  | copy => exact .inr (.inr ⟨_, _, s.viewer.log.copy, rfl⟩)

end Session

/-! ## Settling one request -/

/-- A completion is dropped because of a later or the same request, or it is shown because no such
request stands in its way. -/
theorem ViewState.complete_cases (v : ViewState) (t : Ticket) (outcome : Except Problem Response)
    (took : String) :
    (∃ seq log, v.threshold outcome = some seq ∧ t.seq ≤ seq ∧
      v.complete t outcome took = (.stale, { v with log })) ∨
    (∃ r, outcome = .ok r ∧ (∀ seq, v.applied = some seq → seq < t.seq) ∧
      v.complete t outcome took = (.applied, v.showAnswer t r took)) ∨
    ∃ p, outcome = .error p ∧ (∀ seq, v.settled = some seq → seq < t.seq) ∧
      v.complete t outcome took = (.failed p, v.showFailure t p) := by
  cases hstale : v.isStale t outcome with
  | true =>
    obtain ⟨seq, hthreshold, hle⟩ := isStale_iff.1 hstale
    exact .inl ⟨seq, _, hthreshold, hle, by simp only [complete, hstale, if_true]; rfl⟩
  | false =>
    have hlater : ∀ seq, v.threshold outcome = some seq → seq < t.seq := by
      intro seq hseq
      by_contra hle
      have : v.isStale t outcome = true := isStale_iff.2 ⟨seq, hseq, Nat.le_of_not_lt hle⟩
      simp [hstale] at this
    cases outcome with
    | ok r => exact .inr (.inl ⟨r, rfl, hlater, by simp [complete, hstale]⟩)
    | error p => exact .inr (.inr ⟨p, rfl, hlater, by simp [complete, hstale]⟩)

/-- Settling a request gives out no number. -/
@[simp] theorem ViewState.begun_complete (v : ViewState) (t : Ticket)
    (outcome : Except Problem Response) (took : String) :
    (v.complete t outcome took).2.begun = v.begun := by
  obtain ⟨_, _, _, _, h⟩ | ⟨_, _, _, h⟩ | ⟨_, _, _, h⟩ := v.complete_cases t outcome took <;>
    rw [h] <;> rfl

/-! ## Numbers of tickets -/

namespace Session

@[simp] theorem viewer_handIn (s : Session) (t : Ticket) (outcome : Except Problem Response)
    (took : String) : (s.handIn t outcome took).viewer = (s.viewer.complete t outcome took).2 := rfl

@[simp] theorem issued_handIn (s : Session) (t : Ticket) (outcome : Except Problem Response)
    (took : String) : (s.handIn t outcome took).issued = s.issued := rfl

@[simp] theorem settlements_handIn (s : Session) (t : Ticket) (outcome : Except Problem Response)
    (took : String) : (s.handIn t outcome took).settlements =
      s.settlements ++ [⟨t, outcome, (s.viewer.complete t outcome took).1⟩] := rfl

/-- Tickets are numbered from one in the order of their requests, each has the vocabulary of its
own grammar, and only issued ones are handed in. -/
structure Numbered (s : Session) : Prop where
  begun : s.viewer.begun = s.issued.length
  issued : ∀ (index : Nat) (issue : Issue), s.issued[index]? = some issue →
    issue.ticket = ⟨index + 1, .ofGrammar issue.request.grammar⟩
  own : ∀ x ∈ s.settlements, ∃ issue ∈ s.issued, issue.ticket = x.ticket

theorem numbered_start (log : Log) : (start log).Numbered := by
  constructor <;> simp [start, ViewState.new]

theorem Numbered.begin {s : Session} (h : s.Numbered) (r : ParseRequest) :
    (s.begin r).Numbered where
  begun := by simp [Session.begin, ViewState.beginRequest, h.begun]
  issued index issue hissue := by
    rcases Nat.lt_trichotomy index s.issued.length with hlt | heq | hgt
    · have hold : s.issued[index]? = some issue := by
        simpa [Session.begin, List.getElem?_append_left hlt] using hissue
      exact h.issued index issue hold
    · subst heq
      have hlast : (⟨r, (s.viewer.beginRequest r).1⟩ : Issue) = issue := by
        simpa [Session.begin] using hissue
      rw [← hlast, ← h.begun]
      rfl
    · have hnone : (s.begin r).issued[index]? = none := by
        simp only [Session.begin, List.getElem?_eq_none_iff, List.length_append,
          List.length_singleton]
        omega
      rw [hnone] at hissue
      simp at hissue
  own x hx := by
    obtain ⟨issue, hmem, heq⟩ := h.own x hx
    exact ⟨issue, List.mem_append_left _ hmem, heq⟩

theorem Numbered.handIn {s : Session} (h : s.Numbered) {issue : Issue} (hissue : issue ∈ s.issued)
    (outcome : Except Problem Response) (took : String) :
    (s.handIn issue.ticket outcome took).Numbered where
  begun := by simpa using h.begun
  issued := h.issued
  own x hx := by
    rcases List.mem_append.1 hx with hx | hx
    · exact h.own x hx
    · rw [List.mem_singleton.1 hx]
      exact ⟨issue, hissue, rfl⟩

theorem Numbered.move {s : Session} (h : s.Numbered) (m : Move) : (s.move m).Numbered := by
  obtain ⟨r, -, hm⟩ | ⟨issue, hissue, _, outcome, took, -, hm⟩ | ⟨_, _, _, hm⟩ := s.move_cases m
  · rw [hm]
    exact h.begin r
  · rw [hm]
    exact h.handIn hissue outcome took
  · rw [hm]
    exact ⟨h.begun, h.issued, h.own⟩

theorem numbered_play (log : Log) (moves : List Move) : ((start log).play moves).Numbered :=
  play_invariant (fun _ m h => h.move m) (numbered_start log) moves

/-- No two requests have the same number. -/
theorem Numbered.issue_eq_of_seq_eq {s : Session} (h : s.Numbered) {x y : Issue}
    (hx : x ∈ s.issued) (hy : y ∈ s.issued) (heq : x.ticket.seq = y.ticket.seq) : x = y := by
  obtain ⟨i, hi⟩ := List.getElem?_of_mem hx
  obtain ⟨j, hj⟩ := List.getElem?_of_mem hy
  rw [h.issued i x hi, h.issued j y hj] at heq
  have hij : i = j := Nat.succ.inj heq
  rw [hij, hj] at hi
  exact (Option.some.inj hi).symm

/-- No ticket that was handed in is numbered beyond the requests that began. -/
theorem Numbered.seq_le_begun {s : Session} (h : s.Numbered) {x : Settlement}
    (hx : x ∈ s.settlements) : x.ticket.seq ≤ s.viewer.begun := by
  obtain ⟨issue, hissue, hticket⟩ := h.own x hx
  obtain ⟨index, hindex⟩ := List.getElem?_of_mem hissue
  have hlt : index < s.issued.length := (List.getElem?_eq_some_iff.1 hindex).1
  rw [← hticket, h.issued index issue hindex, h.begun]
  exact hlt

end Session

end ParseLens
