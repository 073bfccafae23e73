import Mathlib.Algebra.GroupWithZero.Nat
import ParseLens.Proofs.Automaton.FirstKey
import ParseLens.Proofs.Automaton.ItemText
import ParseLens.Proofs.Viewer.Messages
import ParseLens.Proofs.Viewer.Submission

set_option autoImplicit false

/-!
# Viewer: every fault is warned of once

A viewer warns of two things: of a request that failed, and of what it had to move or to skip to show
an answer, that is of every item with its dot outside the production and of every key that got no
cell.  What is dropped, what is blocked and looking around give no warning, so the warnings of a run
can be told from the tickets that were handed in and from what became of them.

Here a ticket is any ticket, also that of another viewer, and the viewer that a run starts with is
any viewer with a log that was made and used in any way.

* `Log.Gains` says what a log gets by some warnings and any information.
* `ViewState.log_use` says what each thing that is done to a viewer does to its log.
* `ViewState.warnings_of_faults` is the main statement.
-/

namespace ParseLens

/-! ## Faults -/

/-- The line of a warning. -/
def warningLine (s : String) : String := "Warning: " ++ s ++ "\n"

theorem ItemSet.issues_view (s : ItemSet) :
    s.view.issues = (s.items.filter Item.isStray).map Item.strayDot := by
  rw [← List.filterMap_eq_map, List.filterMap_filter]
  simp only [view, StateView.issues, List.filterMap_map]
  exact congrArg (List.filterMap · s.items) (funext Item.issue?_eq)

namespace Response

/-- The items whose dot lies outside the production. -/
def strayItems (r : Response) : List Item := (r.sets.flatMap ItemSet.items).filter Item.isStray

/-- How many keys of the table got no cell. -/
def lostKeys (r : Response) (v : Vocabulary) : Nat :=
  r.table.entries.length - (Table.ofEntries r.table v).cells.length

/-- The warnings that come with an answer: of its items, then of the keys of its table. -/
def warnings (r : Response) : List String :=
  (r.strayItems.map fun i => warningLine (Problem.dot i.strayDot).message) ++
    (TableKey.skipped r.table.names).map fun s => warningLine (Problem.key s.1 s.2).message

/-- What is wrong with an answer: with its items, then with the keys of its table. -/
def problems (r : Response) : List Problem :=
  (r.strayItems.map fun i => .dot i.strayDot) ++
    (TableKey.skipped r.table.names).map fun s => .key s.1 s.2

/-- What is moved or skipped when an answer is prepared does not depend on the kinds of symbols. -/
theorem problems_ofResponse (r : Response) (v : Vocabulary) :
    (ResultView.ofResponse r v).problems = r.problems := by
  have hissues : (r.sets.map ItemSet.view).flatMap StateView.issues =
      r.strayItems.map Item.strayDot := by
    rw [strayItems, List.filter_flatMap, List.map_flatMap, List.flatMap_map]
    exact congrArg (List.flatMap · r.sets) (funext ItemSet.issues_view)
  have hskipped := (Table.reflects_ofEntries r.table v).skipped
  simp only [problems, ResultView.problems, ResultView.ofResponse, hissues, hskipped, List.map_map]
  rfl

/-- It is what calls for a warning. -/
theorem map_problems_ofResponse (r : Response) (v : Vocabulary) :
    ((ResultView.ofResponse r v).problems.map fun p => warningLine p.message) = r.warnings := by
  rw [problems_ofResponse, problems, List.map_append, List.map_map, List.map_map]
  rfl

theorem length_warnings (r : Response) (v : Vocabulary) :
    r.warnings.length = r.strayItems.length + r.lostKeys v := by
  have h := Table.reflects_ofEntries r.table v
  have hcounted := h.counted
  have hskipped : (TableKey.skipped r.table.names).length =
      (Table.ofEntries r.table v).skipped.length := congrArg List.length h.skipped.symm
  simp only [warnings, lostKeys, List.length_append, List.length_map]
  omega

end Response

/-! ## What a log gets -/

namespace Log

variable {l l' l'' : Log} {lines lines' : List String}

/-- A log that was made and used in any way. -/
def Reachable (l : Log) : Prop :=
  ∃ bufferLevel stderrLevel acts, l = (new bufferLevel stderrLevel).play acts

theorem Reachable.coherent (h : l.Reachable) : l.Coherent := by
  obtain ⟨bufferLevel, stderrLevel, acts, rfl⟩ := h
  exact (coherent_new bufferLevel stderrLevel).play acts

/-- The log `l` becomes `l'` by warnings with the given lines, and by any information.  A buffer that
takes information is left out: what it holds is not told by the warnings. -/
structure Gains (l l' : Log) (lines : List String) : Prop where
  levels : l'.levels = l.levels
  coherent : l'.Coherent
  warnings : l'.warnings =
    l.warnings + if 1 ≤ max l.bufferLevel l.stderrLevel then lines.length else 0
  buffer : l.bufferLevel ≤ 1 →
    l'.buffer = l.buffer ++ if 1 ≤ l.bufferLevel then String.join lines else ""

theorem Gains.refl (h : l.Coherent) : Gains l l [] where
  levels := rfl
  coherent := h
  warnings := by simp
  buffer _ := by simp

theorem Gains.trans (h : Gains l l' lines) (h' : Gains l' l'' lines') :
    Gains l l'' (lines ++ lines') := by
  obtain ⟨hbuffer, hstderr⟩ := Levels.mk.inj h.levels
  refine ⟨h'.levels.trans h.levels, h'.coherent, ?_, ?_⟩
  · rw [h'.warnings, h.warnings, hbuffer, hstderr, List.length_append]
    split <;> omega
  · intro hle
    rw [h'.buffer (hbuffer ▸ hle), h.buffer hle, hbuffer, String.join_append]
    split <;> simp [String.append_assoc]

theorem gains_warn (h : l.Coherent) (s : String) : Gains l (l.warn s) [warningLine s] where
  levels := l.levels_warn s
  coherent := h.warn s
  warnings := h.warnings_warn s
  buffer _ := by
    rw [h.buffer_warn]
    simp [warningLine]

/-- Warnings that are put together only if they go anywhere are those that are written. -/
theorem noteWarning_eq_warn (l : Log) (s : String) : l.noteWarning s = l.warn s := by
  unfold noteWarning warn
  split <;> rfl

theorem noteInfo_eq_info (l : Log) (s : String) : l.noteInfo s = l.info s := by
  unfold noteInfo info
  rw [writeAt_writeAt]
  rfl

/-- Information is no warning. -/
theorem gains_noteInfo (h : l.Coherent) (s : String) : Gains l (l.noteInfo s) [] := by
  rw [noteInfo_eq_info]
  refine ⟨l.levels_info s, h.info s, by simp, ?_⟩
  intro hle
  have hno : ¬ 2 ≤ l.bufferLevel :=
    fun h2 => absurd (UInt32.le_trans h2 hle) (by decide)
  simp [h.buffer_info, hno]

theorem gains_foldl_report (h : l.Coherent) (problems : List Problem) :
    Gains l (problems.foldl report l) (problems.map fun p => warningLine p.message) := by
  induction problems generalizing l with
  | nil => exact .refl h
  | cons p problems ih =>
    have hp : Gains l (l.report p) [warningLine p.message] := gains_warn h p.message
    exact hp.trans (ih hp.coherent)

end Log

/-! ## Settled tickets -/

namespace Settlement

/-- Whether the ticket came back with a failure that is shown. -/
def isFailed (x : Settlement) : Bool :=
  match x.completion with
  | .failed _ => true
  | _ => false

/-- The answer that is shown, if there is one. -/
def answer? (x : Settlement) : Option Answer :=
  match x.completion with
  | .applied => answerOf x.handed
  | _ => none

/-- The warnings that come with it. -/
def warnings (x : Settlement) : List String :=
  match x.completion, x.outcome with
  | .failed p, _ =>
    [warningLine ("request #" ++ toString x.ticket.seq ++ " failed: " ++ p.message)]
  | .applied, .ok r => r.warnings
  | _, _ => []

end Settlement

/-- How many faults an answer has. -/
def Answer.faults (a : Answer) : Nat :=
  a.response.strayItems.length + a.response.lostKeys a.ticket.vocabulary

namespace Settlement

/-- A failure gives one warning, an answer one for each of its faults. -/
theorem length_warnings (x : Settlement) : x.warnings.length =
    (if x.isFailed then 1 else 0) + (x.answer?.map Answer.faults).getD 0 := by
  obtain ⟨t, outcome, completion⟩ := x
  cases completion with
  | failed p => rfl
  | stale => rfl
  | blocked p => rfl
  | applied =>
    cases outcome with
    | error p => rfl
    | ok r =>
      rw [warnings, r.length_warnings t.vocabulary]
      exact (Nat.zero_add _).symm

theorem length_flatMap_warnings (xs : List Settlement) :
    (xs.flatMap warnings).length =
      xs.countP isFailed + ((xs.filterMap answer?).map Answer.faults).sum := by
  induction xs with
  | nil => rfl
  | cons x xs ih =>
    rw [List.flatMap_cons, List.length_append, ih, x.length_warnings, List.countP_cons,
      List.filterMap_cons]
    cases x.answer? with
    | none =>
      simp only [Option.map_none, Option.getD_none]
      omega
    | some a =>
      simp only [Option.map_some, Option.getD_some, List.map_cons, List.sum_cons]
      omega

end Settlement

/-! ## What is done to a viewer -/

/-- Something that is done to a viewer or to its log. -/
inductive Usage (σ : Type) where
  /-- Begin a request. -/
  | begin (r : ParseRequest)
  /-- Hand in a ticket. -/
  | complete (t : Ticket) (outcome : Except Problem Response) (took : String)
  /-- Submit a form to a backend in the given state. -/
  | submit (c : Client) (backend : Backend σ) (e : Editor) (b : σ) (took : String)
  /-- Select a view. -/
  | selectTab (tab : Tab)
  /-- Select a step. -/
  | selectStep (index : Nat)
  /-- Go to the next step. -/
  | stepForward
  /-- Go to the step before. -/
  | stepBack
  /-- Read what is on screen. -/
  | render
  /-- Take what the buffer of the log holds. -/
  | takeLog
  /-- Go on with a copy of the viewer. -/
  | copy

/-- What is told of something that was done to a viewer. -/
inductive Event where
  /-- A ticket was handed in, by itself or by a submission. -/
  | settled (x : Settlement)
  /-- A submission was blocked. -/
  | blocked (cause : Problem)
  /-- A request began, or one looked around. -/
  | looked
  /-- The buffer was emptied. -/
  | took
  /-- The log started anew. -/
  | copied
  deriving DecidableEq, Repr

namespace Event

/-- The ticket that was handed in, if one was. -/
def settlement? : Event → Option Settlement
  | .settled x => some x
  | _ => none

/-- The warnings that come with it. -/
def warnings : Event → List String
  | .settled x => x.warnings
  | _ => []

/-- Whether the log starts anew. -/
def isCopy (e : Event) : Bool := e = .copied

/-- Whether the buffer is emptied. -/
def empties (e : Event) : Bool := e = .took ∨ e = .copied

/-- Whether nothing was handed in but what was dropped, and the log was left alone. -/
def isQuiet : Event → Bool
  | .settled x => x.completion = .stale
  | .blocked _ | .looked => true
  | .took | .copied => false

variable {e : Event}

theorem warnings_of_empties (h : e.empties = true) : e.warnings = [] := by
  cases e with
  | settled x => simp [empties] at h
  | blocked cause => rfl
  | looked => rfl
  | took => rfl
  | copied => rfl

theorem not_isQuiet_of_empties (h : e.empties = true) : e.isQuiet = false := by
  cases e <;> simp_all [empties, isQuiet]

/-- What is dropped comes without a warning. -/
theorem warnings_of_isQuiet (h : e.isQuiet = true) : e.warnings = [] := by
  cases e with
  | settled x =>
    rw [isQuiet, decide_eq_true_iff] at h
    simp only [warnings, Settlement.warnings, h]
  | blocked cause => rfl
  | looked => rfl
  | took => rfl
  | copied => rfl

/-- A log that starts anew has an empty buffer. -/
theorem isCopy_of_not_empties (h : e.empties = false) : e.isCopy = false := by
  cases e <;> simp_all [empties, isCopy]

end Event

/-- The tickets that were handed in after the last event of the given kind. -/
def settledSince (stop : Event → Bool) (past : List Event) : List Settlement :=
  (past.rtakeWhile fun e => !stop e).filterMap Event.settlement?

/-- The warnings that came with them. -/
def warningsSince (stop : Event → Bool) (past : List Event) : List String :=
  (settledSince stop past).flatMap Settlement.warnings

theorem warningsSince_append_singleton (stop : Event → Bool) (past : List Event) (e : Event) :
    warningsSince stop (past ++ [e]) =
      if stop e then [] else warningsSince stop past ++ e.warnings := by
  rw [warningsSince, settledSince, List.rtakeWhile_concat]
  cases hstop : stop e with
  | true => rfl
  | false => cases e <;>
      simp [warningsSince, settledSince, List.filterMap_append, Event.settlement?, Event.warnings]

namespace ViewState

variable {σ : Type}

/-- Do something to a viewer. -/
def use (v : ViewState) : Usage σ → ViewState
  | .begin r => (v.beginRequest r).2
  | .complete t outcome took => (v.complete t outcome took).2
  | .submit c backend e b took => (v.submit c backend e b took).viewer
  | .selectTab tab => v.selectTab tab
  | .selectStep index => v.selectStep index
  | .stepForward => v.stepForward
  | .stepBack => v.stepBack
  | .render => v
  | .takeLog => { v with log := v.log.clear }
  | .copy => v.copy

/-- What is told of it. -/
def event (v : ViewState) : Usage σ → Event
  | .complete t outcome took => .settled ⟨t, outcome, (v.complete t outcome took).1⟩
  | .submit c backend e b took =>
    match e.request.1 with
    | .error p => .blocked p
    | .ok r => .settled ⟨(v.beginRequest r).1, (c.send backend r b).1,
        (v.submit c backend e b took).completion⟩
  | .takeLog => .took
  | .copy => .copied
  | _ => .looked

/-- Do one thing after the other. -/
def after (v : ViewState) (usages : List (Usage σ)) : ViewState := usages.foldl use v

/-- What is told of one thing after the other. -/
def past (v : ViewState) (usages : List (Usage σ)) : List Event := chronicle use event v usages

/-! ## What the log of a viewer gets -/

variable {v : ViewState}

/-- What settling a request says of it. -/
theorem gains_complete (h : v.log.Coherent) (t : Ticket) (outcome : Except Problem Response)
    (took : String) : v.log.Gains (v.complete t outcome took).2.log
      (⟨t, outcome, (v.complete t outcome took).1⟩ : Settlement).warnings := by
  cases hstale : v.isStale t outcome with
  | true =>
    simp only [complete, hstale, if_true]
    exact Log.gains_noteInfo h _
  | false =>
    cases outcome with
    | ok r =>
      simp only [complete, hstale]
      -- the line that ends the report is information, and adds no warning to those before it
      have hproblems := Log.gains_foldl_report h (ResultView.ofResponse r t.vocabulary).problems
      rw [r.map_problems_ofResponse] at hproblems
      have hinfo (s : String) := hproblems.trans (Log.gains_noteInfo hproblems.coherent s)
      simp only [List.append_nil] at hinfo
      exact hinfo _
    | error p =>
      simp only [complete, hstale]
      have hwarn := Log.gains_warn h ("request #" ++ toString t.seq ++ " failed: " ++ p.message)
      rw [← Log.noteWarning_eq_warn] at hwarn
      exact hwarn

/-- The buffer of the log is emptied, alone or because the log starts anew, or the log gets the
warnings that come with what was done. -/
theorem log_use (h : v.log.Coherent) (u : Usage σ) :
    ((v.event u).empties = true ∧
      (v.use u).log = if (v.event u).isCopy then v.log.copy else v.log.clear) ∨
    ((v.event u).empties = false ∧ v.log.Gains (v.use u).log (v.event u).warnings) := by
  cases u with
  | takeLog => exact .inl ⟨rfl, rfl⟩
  | copy => exact .inl ⟨rfl, rfl⟩
  | complete t outcome took => exact .inr ⟨rfl, gains_complete h t outcome took⟩
  | submit c backend e b took =>
    obtain ⟨p, hrequest⟩ | ⟨g, _, hrequest⟩ := e.request_cases
    · simp only [event, use, submit_of_error hrequest, hrequest]
      exact .inr ⟨rfl, .refl h⟩
    · have hbegin : (v.beginRequest ⟨g, e.input⟩).2.log.Coherent := h
      simp only [event, use, submit_of_ok hrequest, hrequest]
      exact .inr ⟨rfl, gains_complete hbegin _ _ took⟩
  | begin r => exact .inr ⟨rfl, .refl h⟩
  | selectTab tab => exact .inr ⟨rfl, .refl h⟩
  | selectStep index => exact .inr ⟨rfl, .refl h⟩
  | stepForward => exact .inr ⟨rfl, .refl h⟩
  | stepBack => exact .inr ⟨rfl, .refl h⟩
  | render => exact .inr ⟨rfl, .refl h⟩

/-! ## A whole run -/

/-- The log of `v` is what the log of `start` becomes by the events of `past`. -/
structure Accounted (start : ViewState) (past : List Event) (v : ViewState) : Prop where
  levels : v.log.levels = start.log.levels
  coherent : v.log.Coherent
  warnings : v.log.warnings =
    (if past.any Event.isCopy then 0 else start.log.warnings) +
      if 1 ≤ max start.log.bufferLevel start.log.stderrLevel then
        (warningsSince Event.isCopy past).length
      else 0
  buffer : start.log.bufferLevel ≤ 1 → v.log.buffer =
    (if past.any Event.empties then "" else start.log.buffer) ++
      if 1 ≤ start.log.bufferLevel then String.join (warningsSince Event.empties past) else ""

namespace Accounted

variable {start : ViewState} {past : List Event}

theorem refl (h : v.log.Coherent) : Accounted v [] v where
  levels := rfl
  coherent := h
  warnings := by simp [warningsSince, settledSince]
  buffer _ := by simp [warningsSince, settledSince]

/-- Emptying the buffer leaves the count, unless the log starts anew. -/
theorem empty (h : Accounted start past v) {v' : ViewState} {e : Event}
    (hempties : e.empties = true)
    (hlog : v'.log = if e.isCopy then v.log.copy else v.log.clear) :
    Accounted start (past ++ [e]) v' where
  levels := by
    rw [hlog]
    split <;> exact h.levels
  coherent := by
    rw [hlog]
    split <;> exact h.coherent.of_eq rfl rfl
  warnings := by
    rw [hlog, warningsSince_append_singleton, List.any_append, Event.warnings_of_empties hempties,
      List.append_nil]
    cases hcopy : e.isCopy with
    | true => simp [hcopy, Log.copy]
    | false =>
      have hkept : v.log.clear.warnings = v.log.warnings := rfl
      simp [hcopy, hkept, h.warnings]
  buffer _ := by
    have hnone : v'.log.buffer = "" := by
      rw [hlog]
      split <;> rfl
    rw [hnone, warningsSince_append_singleton, List.any_append]
    simp [hempties]

/-- Whatever else is done adds its warnings. -/
theorem gain (h : Accounted start past v) {v' : ViewState} {e : Event}
    (hempties : e.empties = false) (hgains : v.log.Gains v'.log e.warnings) :
    Accounted start (past ++ [e]) v' := by
  have hcopy : e.isCopy = false := Event.isCopy_of_not_empties hempties
  obtain ⟨hbuffer, hstderr⟩ := Levels.mk.inj h.levels
  refine ⟨hgains.levels.trans h.levels, hgains.coherent, ?_, ?_⟩
  · rw [hgains.warnings, h.warnings, warningsSince_append_singleton, List.any_append, hbuffer,
      hstderr]
    simp only [hcopy, List.any_cons, List.any_nil, Bool.or_false, Bool.false_eq_true, if_false,
      List.length_append, Nat.add_assoc, Nat.add_left_cancel_iff]
    split <;> rfl
  · intro hle
    rw [hgains.buffer (hbuffer ▸ hle), h.buffer hle, warningsSince_append_singleton,
      List.any_append, hbuffer]
    simp only [hempties, List.any_cons, List.any_nil, Bool.or_false, Bool.false_eq_true, if_false,
      String.join_append, String.append_assoc]
    by_cases hwarned : 1 ≤ start.log.bufferLevel
    · simp only [if_pos hwarned]
    · simp only [if_neg hwarned, String.append_empty]

theorem use (h : Accounted start past v) (u : Usage σ) :
    Accounted start (past ++ [v.event u]) (v.use u) := by
  obtain ⟨hempties, hlog⟩ | ⟨hempties, hgains⟩ := log_use h.coherent u
  · exact h.empty hempties hlog
  · exact h.gain hempties hgains

end Accounted

theorem accounted_after (h : v.log.Coherent) (usages : List (Usage σ)) :
    Accounted v (v.past usages) (v.after usages) := by
  induction usages using List.reverseRecOn with
  | nil => exact .refl h
  | append_singleton usages u ih =>
    have hpast : v.past (usages ++ [u]) = v.past usages ++ [(v.after usages).event u] :=
      chronicle_append_singleton use event v usages u
    have hafter : v.after (usages ++ [u]) = (v.after usages).use u := by simp [after]
    rw [hpast, hafter]
    exact ih.use u

/-- What is dropped, what is blocked and looking around give no warning. -/
theorem warnings_use_of_isQuiet (h : v.log.Coherent) {u : Usage σ}
    (hquiet : (v.event u).isQuiet = true) : (v.use u).log.warnings = v.log.warnings := by
  obtain ⟨hempties, -⟩ | ⟨-, hgains⟩ := log_use h u
  · rw [Event.not_isQuiet_of_empties hempties] at hquiet
    exact absurd hquiet Bool.false_ne_true
  · rw [hgains.warnings, Event.warnings_of_isQuiet hquiet]
    simp

/-- Let the levels of a log stay as they are and let warnings go somewhere.  Then its count since it
last started anew is the number of failures that were shown, and of the items with a stray dot and
the keys without a cell in the answers that were shown.  If the buffer takes warnings and no
information, it holds the lines of these warnings since it was last emptied, for each answer those
of its items first.  If both levels are zero, nothing is counted and nothing is held.  What is
dropped, what is blocked and looking around give no warning. -/
theorem warnings_of_faults (v : ViewState) (hlog : v.log.Reachable) (usages : List (Usage σ)) :
    let v' := v.after usages
    let past := v.past usages
    let count := if past.any Event.isCopy then 0 else v.log.warnings
    let counted := settledSince Event.isCopy past
    let buffer := if past.any Event.empties then "" else v.log.buffer
    let buffered := settledSince Event.empties past
    v'.log.levels = v.log.levels ∧
    (1 ≤ max v.log.bufferLevel v.log.stderrLevel → v'.log.warnings =
      count + (counted.countP Settlement.isFailed +
        ((counted.filterMap Settlement.answer?).map Answer.faults).sum)) ∧
    (v.log.bufferLevel = 1 →
      v'.log.buffer = buffer ++ String.join (buffered.flatMap Settlement.warnings)) ∧
    (v.log.levels = ⟨0, 0⟩ → v'.log.warnings = count ∧ v'.log.buffer = buffer) ∧
    ∀ u : Usage σ, (v'.event u).isQuiet = true → (v'.use u).log.warnings = v'.log.warnings := by
  intro v' past count counted buffer buffered
  have h : Accounted v past v' := accounted_after hlog.coherent usages
  refine ⟨h.levels, ?_, ?_, ?_, fun u => warnings_use_of_isQuiet h.coherent⟩
  · intro hon
    rw [h.warnings, if_pos hon, warningsSince, Settlement.length_flatMap_warnings]
  · intro hone
    have hbuffer := h.buffer (by rw [hone]; decide)
    rw [hone, if_pos (UInt32.le_refl 1)] at hbuffer
    exact hbuffer
  · intro hzero
    obtain ⟨hbuffer, hstderr⟩ := Levels.mk.inj hzero
    have hoff : ¬ (1 : UInt32) ≤ max 0 0 := by decide
    have hoff' : ¬ (1 : UInt32) ≤ 0 := by decide
    refine ⟨?_, ?_⟩
    · rw [h.warnings, hbuffer, hstderr, if_neg hoff, Nat.add_zero]
    · rw [h.buffer (by rw [hbuffer]; decide), hbuffer, if_neg hoff', String.append_empty]

/-- An answer with a stray dot and a bad key is shown, an older failure is dropped, the buffer is
taken, and a newer failure is shown: three warnings, of which the buffer holds the last. -/
theorem warnings_of_faults_of_bad_cell :
    let answer : Response := ⟨[⟨1, [⟨"A", "a A", 4, "$"⟩, ⟨"A", "b", 1, "a"⟩]⟩],
      .ofList [("0_a", ⟨.shift, "3"⟩), ("garbage", ⟨.shift, "1"⟩)], []⟩
    let lost : Problem := .transport (.broken "reset")
    let usages : List (Usage Script) := [.complete ⟨2, .unknown⟩ (.ok answer) "1ms",
      .complete ⟨1, .unknown⟩ (.error lost) "", .takeLog, .render,
      .complete ⟨3, .unknown⟩ (.error lost) ""]
    let v := ViewState.new (.new 1 0)
    let v' := v.after usages
    v.log.Reachable ∧ 1 ≤ max v.log.bufferLevel v.log.stderrLevel ∧ v.log.bufferLevel = 1 ∧
      v'.log.warnings = 3 ∧ v'.log.buffer = "Warning: request #3 failed: Request failed: reset\n" ∧
      (v'.use (σ := Script) .stepBack).log.warnings = 3 := by
  intro answer lost usages v v'
  have hlog : v.log.Reachable := ⟨1, 0, [], rfl⟩
  have hon : 1 ≤ max v.log.bufferLevel v.log.stderrLevel := by decide
  obtain ⟨-, hcount, hbuffer, -, hquiet⟩ := warnings_of_faults v hlog usages
  have hthree : v'.log.warnings = 3 := (hcount hon).trans (by decide +kernel)
  have hlast := (hbuffer rfl).trans
    (by decide +kernel : _ = "Warning: request #3 failed: Request failed: reset\n")
  exact ⟨hlog, hon, rfl, hthree, hlast, (hquiet .stepBack rfl).trans hthree⟩

end ViewState

end ParseLens
