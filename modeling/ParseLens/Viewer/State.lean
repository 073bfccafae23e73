import ParseLens.Exchange.Client
import ParseLens.Viewer.Editor
import ParseLens.Viewer.Log
import ParseLens.Viewer.Result

set_option autoImplicit false

/-!
# Viewer: the state of the viewer

What is on screen: a result, the selected view, the selected step, and the last problem.

Requests are numbered in the order in which they begin, and may be completed in any order, or not
at all.  An answer is dropped when the answer to the same or a later request is already shown; a
failure is dropped when the same or a later request has been settled in either way.  So what is on
screen never falls back behind a later request.
-/

namespace ParseLens

/-- The tag of a request under way. -/
structure Ticket where
  /-- Its number; later requests have larger ones.  It has no bound: counters of 64 bits agree with it
  as long as fewer than `2 ^ 64` requests have begun. -/
  seq : Nat
  /-- The vocabulary of its grammar, for the symbols of its answer. -/
  vocabulary : Vocabulary
  deriving DecidableEq, Repr, Inhabited

/-- What became of a request. -/
inductive Completion where
  /-- Its answer is on screen. -/
  | applied
  /-- It failed; the result before it is still on screen. -/
  | failed (cause : Problem)
  /-- It came too late and was dropped. -/
  | stale
  /-- The grammar cannot be used; nothing was sent. -/
  | blocked (cause : Problem)
  deriving DecidableEq, Repr, Inhabited

/-- The state of the viewer. -/
structure ViewState where
  /-- The result on screen. -/
  result : Option ResultView
  /-- The selected view. -/
  tab : Tab
  /-- The recorded parse, with the selected step. -/
  replay : Replay
  /-- The last problem. -/
  error : Option Problem
  /-- How many requests have begun.  The count has no bound: a counter of 64 bits agrees with it below
  `2 ^ 64`, and so do the two numbers that follow. -/
  begun : Nat
  /-- The number of the request whose answer is on screen. -/
  applied : Option Nat
  /-- The largest number of a request that was settled. -/
  settled : Option Nat
  /-- The log. -/
  log : Log
  deriving DecidableEq, Repr, Inhabited

namespace ViewState

/-- A viewer with nothing on screen. -/
def new (log : Log) : ViewState := ⟨none, .sets, .ofSteps [], none, 0, none, none, log⟩

/-- A viewer with nothing on screen, configured. -/
def ofSettings (s : Settings) : ViewState := new (.new s.bufferLevel s.stderrLevel)

/-- A copy of the viewer, whose log starts anew. -/
def copy (v : ViewState) : ViewState := { v with log := v.log.copy }

/-! ## Looking around -/

/-- Select a view. -/
def selectTab (v : ViewState) (tab : Tab) : ViewState := { v with tab }

/-- Select a step. -/
def selectStep (v : ViewState) (index : Nat) : ViewState :=
  { v with replay := v.replay.select index }

/-- Go to the next step. -/
def stepForward (v : ViewState) : ViewState := { v with replay := v.replay.forward }

/-- Go to the step before. -/
def stepBack (v : ViewState) : ViewState := { v with replay := v.replay.back }

/-! ## Requests -/

/-- Number a request before it is sent. -/
def beginRequest (v : ViewState) (r : ParseRequest) : Ticket × ViewState :=
  (⟨v.begun + 1, .ofGrammar r.grammar⟩, { v with begun := v.begun + 1 })

/-- The number of the request that an outcome must not be older than: that of the result on screen
for an answer, that of the last settled request for a failure. -/
def threshold (v : ViewState) : Except Problem Response → Option Nat
  | .ok _ => v.applied
  | .error _ => v.settled

/-- Whether an outcome for a ticket comes too late. -/
def isStale (v : ViewState) (t : Ticket) (outcome : Except Problem Response) : Bool :=
  match v.threshold outcome with
  | none => false
  | some seq => t.seq ≤ seq

/-- The larger of two numbers, the first of which may be missing. -/
def maxSeq : Option Nat → Nat → Nat
  | none, n => n
  | some m, n => max m n

/-- Show an answer; `took` is the time since the request began, as a text. -/
def showAnswer (v : ViewState) (t : Ticket) (r : Response) (took : String) : ViewState :=
  let view := ResultView.ofResponse r t.vocabulary
  let log := view.problems.foldl Log.report v.log
  { v with
    applied := some t.seq
    settled := some (maxSeq v.settled t.seq)
    replay := view.replay
    result := some view
    error := none
    log := log.noteInfo ("request #" ++ toString t.seq ++ " done in " ++ took ++ ": " ++
      toString view.sets.length ++ " states, " ++ toString view.table.cells.length ++
      " table entries, " ++ toString view.response.steps.length ++ " steps") }

/-- Show a failure next to the result that is on screen. -/
def showFailure (v : ViewState) (t : Ticket) (p : Problem) : ViewState :=
  { v with
    settled := some (maxSeq v.settled t.seq)
    error := some p
    log := v.log.noteWarning ("request #" ++ toString t.seq ++ " failed: " ++ p.message) }

/-- Settle a request. -/
def complete (v : ViewState) (t : Ticket) (outcome : Except Problem Response) (took : String) :
    Completion × ViewState :=
  if v.isStale t outcome then
    (.stale, { v with
      log := v.log.noteInfo ("dropping stale response for request #" ++ toString t.seq) })
  else
    match outcome with
    | .ok r => (.applied, v.showAnswer t r took)
    | .error p => (.failed p, v.showFailure t p)

/-- What changes when a request is made, sent and settled in one go. -/
structure Submission (σ : Type) where
  /-- What became of it. -/
  completion : Completion
  /-- The viewer. -/
  viewer : ViewState
  /-- The form it was made in. -/
  editor : Editor
  /-- The backend. -/
  backend : σ

/-- Make a request, send it and settle it. -/
def submit {σ : Type} (v : ViewState) (c : Client) (backend : Backend σ) (e : Editor) (s : σ)
    (took : String) : Submission σ :=
  match e.request with
  | (.error p, e) => ⟨.blocked p, v, e, s⟩
  | (.ok r, e) =>
    let (ticket, v) := v.beginRequest r
    let (outcome, s) := c.send backend r s
    let (completion, v) := v.complete ticket outcome took
    ⟨completion, v, e, s⟩

/-! ## The screen -/

/-- The last problem, and the selected view of the result. -/
def text (v : ViewState) : String :=
  (match v.error with
    | some p => "Error: " ++ p.message ++ "\n"
    | none => "") ++
    match v.result with
    | some r => v.tab.banner ++ r.text v.tab v.replay
    | none => ""

/-! ## Small facts -/

theorem isStale_iff {v : ViewState} {t : Ticket} {outcome : Except Problem Response} :
    v.isStale t outcome = true ↔ ∃ seq, v.threshold outcome = some seq ∧ t.seq ≤ seq := by
  unfold isStale
  split <;> simp_all

@[simp] theorem applied_showAnswer (v : ViewState) (t : Ticket) (r : Response) (took : String) :
    (v.showAnswer t r took).applied = some t.seq := rfl

@[simp] theorem applied_showFailure (v : ViewState) (t : Ticket) (p : Problem) :
    (v.showFailure t p).applied = v.applied := rfl

end ViewState

end ParseLens
