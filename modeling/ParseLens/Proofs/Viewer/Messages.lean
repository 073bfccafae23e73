import Mathlib.Data.List.DropRight
import ParseLens.Viewer.Log

set_option autoImplicit false

/-!
# Viewer: what a log holds

The levels of a log may be set at any time, its buffer may be taken, and one may go on with a copy.
What the buffer holds is still told by the history alone: the messages since the buffer was last
emptied, each as far as the level of the buffer let it through when it was issued.

The first gate of a message compares with the larger level, which the log keeps.  As long as it is
kept up to date (`Log.Coherent`), the gate lets through whatever the buffer is to get, and a warning
counts exactly if it goes to the buffer or to the standard error stream.

* `Log.buffer_act` and `Log.warnings_act` say what doing anything to a log means for it.
* `Log.buffer_of_history` is the main statement.
-/

namespace ParseLens

/-! ## Histories -/

section Chronicle

variable {σ α β : Type}

/-- What is noted of each of some acts that are done one after the other. -/
def chronicle (step : σ → α → σ) (note : σ → α → β) : σ → List α → List β
  | _, [] => []
  | s, a :: acts => note s a :: chronicle step note (step s a) acts

theorem chronicle_append_singleton (step : σ → α → σ) (note : σ → α → β) (s : σ) (acts : List α)
    (a : α) : chronicle step note s (acts ++ [a]) =
      chronicle step note s acts ++ [note (acts.foldl step s) a] := by
  induction acts generalizing s with
  | nil => rfl
  | cons b acts ih => simp [chronicle, ih]

end Chronicle

/-- Something that is done to a log. -/
inductive LogAct where
  /-- Write a warning. -/
  | warn (s : String)
  /-- Warn of a problem. -/
  | report (p : Problem)
  /-- Write a line of information. -/
  | info (s : String)
  /-- Write a text as part of some information. -/
  | write (s : String)
  | setBufferLevel (level : UInt32)
  | setStderrLevel (level : UInt32)
  /-- Take what the buffer holds. -/
  | take
  /-- Go on with a copy of the log. -/
  | copy
  deriving DecidableEq, Repr, Inhabited

/-- The levels of a log. -/
structure Levels where
  buffer : UInt32
  stderr : UInt32
  deriving DecidableEq, Repr, Inhabited

/-- The levels that are in force after an act. -/
def Levels.after (l : Levels) : LogAct → Levels
  | .setBufferLevel level => { l with buffer := level }
  | .setStderrLevel level => { l with stderr := level }
  | _ => l

/-- An act with the levels in force when it is done. -/
structure Issued where
  levels : Levels
  act : LogAct
  deriving DecidableEq, Repr, Inhabited

/-- Acts that are done one after the other, each with the levels in force. -/
def Levels.history (l : Levels) (acts : List LogAct) : List Issued :=
  chronicle after Issued.mk l acts

namespace Issued

/-- What the buffer gets. -/
def text (i : Issued) : String :=
  match i.act with
  | .warn s => if 1 ≤ i.levels.buffer then "Warning: " ++ s ++ "\n" else ""
  | .report p => if 1 ≤ i.levels.buffer then "Warning: " ++ p.message ++ "\n" else ""
  | .info s => if 2 ≤ i.levels.buffer then s ++ "\n" else ""
  | .write s => if 2 ≤ i.levels.buffer then s else ""
  | _ => ""

/-- Whether it is a warning that goes anywhere. -/
def isCounted (i : Issued) : Bool :=
  match i.act with
  | .warn _ | .report _ => 1 ≤ max i.levels.buffer i.levels.stderr
  | _ => false

/-- Whether the log starts anew. -/
def isCopy (i : Issued) : Bool := i.act = .copy

/-- Whether the buffer is emptied. -/
def empties (i : Issued) : Bool := i.act = .take ∨ i.act = .copy

end Issued

/-- What is issued after the buffer was last emptied. -/
def sinceEmptied (history : List Issued) : List Issued := history.rtakeWhile fun i => !i.empties

/-- What is issued after the log last started anew. -/
def sinceCopied (history : List Issued) : List Issued := history.rtakeWhile fun i => !i.isCopy

namespace Log

/-- Do something to a log. -/
def act (l : Log) : LogAct → Log
  | .warn s => l.warn s
  | .report p => l.report p
  | .info s => l.info s
  | .write s => l.write s
  | .setBufferLevel level => l.setBufferLevel level
  | .setStderrLevel level => l.setStderrLevel level
  | .take => l.clear
  | .copy => l.copy

/-- Do one thing after the other. -/
def play (l : Log) (acts : List LogAct) : Log := acts.foldl act l

/-- The levels of a log. -/
def levels (l : Log) : Levels := ⟨l.bufferLevel, l.stderrLevel⟩

/-- The level that is kept is the larger one. -/
def Coherent (l : Log) : Prop := l.effectiveLevel = max l.bufferLevel l.stderrLevel

/-! ## The gates -/

variable {l : Log}

theorem max_eq_ite (a b : UInt32) : max a b = if a ≤ b then b else a := rfl

theorem max_levels_comm (a b : UInt32) : max a b = max b a := by
  rw [max_eq_ite, max_eq_ite]
  rcases UInt32.le_total a b with hab | hba
  · by_cases hba : b ≤ a
    · rw [UInt32.le_antisymm hab hba]
    · rw [if_pos hab, if_neg hba]
  · by_cases hab : a ≤ b
    · rw [UInt32.le_antisymm hab hba]
    · rw [if_neg hab, if_pos hba]

theorem le_max_iff {a b c : UInt32} : a ≤ max b c ↔ a ≤ b ∨ a ≤ c := by
  rw [max_eq_ite]
  split
  · rename_i hbc
    exact ⟨.inr, fun h => h.elim (fun hb => UInt32.le_trans hb hbc) id⟩
  · rename_i hbc
    have hcb : c ≤ b := UInt32.le_of_lt (UInt32.not_le.1 hbc)
    exact ⟨.inl, fun h => h.elim id fun hc => UInt32.le_trans hc hcb⟩

/-- The first gate lets through what one of the two others lets through, and nothing else. -/
theorem Coherent.enabled_iff (h : l.Coherent) {level : UInt32} :
    l.enabled level = true ↔ level ≤ l.bufferLevel ∨ level ≤ l.stderrLevel := by
  rw [enabled, decide_eq_true_iff, h, le_max_iff]

theorem Coherent.not_le_of_not_enabled (h : l.Coherent) {level : UInt32}
    (hgate : ¬ l.enabled level = true) : ¬ level ≤ l.bufferLevel :=
  fun hle => hgate (h.enabled_iff.2 (.inl hle))

theorem buffer_writeAt (l : Log) (level : UInt32) (s : String) :
    (l.writeAt level s).buffer = l.buffer ++ if level ≤ l.bufferLevel then s else "" := by
  simp only [writeAt]
  split <;> simp

/-! ## One message -/

/-- A warning is written as a whole, as far as the level of the buffer goes. -/
theorem Coherent.buffer_warn (h : l.Coherent) (s : String) : (l.warn s).buffer =
    l.buffer ++ if 1 ≤ l.bufferLevel then "Warning: " ++ s ++ "\n" else "" := by
  by_cases hgate : l.enabled warningLevel = true
  · rw [warn, if_pos hgate, writeAt_writeAt, writeAt_writeAt, buffer_writeAt]
    rfl
  · have hbuffer : ¬ 1 ≤ l.bufferLevel := h.not_le_of_not_enabled hgate
    rw [warn, if_neg hgate, if_neg hbuffer, String.append_empty]

/-- A warning counts once. -/
theorem Coherent.warnings_warn (h : l.Coherent) (s : String) : (l.warn s).warnings =
    l.warnings + if 1 ≤ max l.bufferLevel l.stderrLevel then 1 else 0 := by
  have hiff : l.enabled warningLevel = true ↔ 1 ≤ max l.bufferLevel l.stderrLevel := by
    rw [enabled, decide_eq_true_iff, h]
    rfl
  by_cases hgate : l.enabled warningLevel = true
  · rw [warn, if_pos hgate, if_pos (hiff.1 hgate)]
    rfl
  · rw [warn, if_neg hgate, if_neg fun hle => hgate (hiff.2 hle)]
    rfl

theorem Coherent.buffer_info (h : l.Coherent) (s : String) : (l.info s).buffer =
    l.buffer ++ if 2 ≤ l.bufferLevel then s ++ "\n" else "" := by
  by_cases hgate : l.enabled infoLevel = true
  · rw [info, if_pos hgate, writeAt_writeAt, buffer_writeAt]
    rfl
  · have hbuffer : ¬ 2 ≤ l.bufferLevel := h.not_le_of_not_enabled hgate
    rw [info, if_neg hgate, if_neg hbuffer, String.append_empty]

@[simp] theorem warnings_info (l : Log) (s : String) : (l.info s).warnings = l.warnings := by
  unfold info
  split <;> rfl

@[simp] theorem levels_warn (l : Log) (s : String) : (l.warn s).levels = l.levels := by
  unfold warn
  split <;> rfl

@[simp] theorem levels_info (l : Log) (s : String) : (l.info s).levels = l.levels := by
  unfold info
  split <;> rfl

theorem Coherent.of_eq {l' : Log} (h : l.Coherent) (hlevels : l'.levels = l.levels)
    (heffective : l'.effectiveLevel = l.effectiveLevel) : l'.Coherent := by
  obtain ⟨hbuffer, hstderr⟩ := Levels.mk.inj hlevels
  rw [Coherent, heffective, hbuffer, hstderr]
  exact h

theorem Coherent.warn (h : l.Coherent) (s : String) : (l.warn s).Coherent := by
  refine h.of_eq (levels_warn l s) ?_
  unfold Log.warn
  split <;> rfl

theorem Coherent.info (h : l.Coherent) (s : String) : (l.info s).Coherent := by
  refine h.of_eq (levels_info l s) ?_
  unfold Log.info
  split <;> rfl

/-! ## One act -/

theorem coherent_new (bufferLevel stderrLevel : UInt32) : (new bufferLevel stderrLevel).Coherent :=
  rfl

/-- Both setters bring the larger level up to date, and nothing else touches a level. -/
theorem Coherent.act (h : l.Coherent) (a : LogAct) : (l.act a).Coherent := by
  cases a with
  | warn s => exact h.warn s
  | report p => exact h.warn p.message
  | info s => exact h.info s
  | write s => exact h.of_eq rfl rfl
  | setBufferLevel level => exact max_levels_comm l.stderrLevel level
  | setStderrLevel level => exact max_levels_comm level l.bufferLevel
  | take => exact h.of_eq rfl rfl
  | copy => exact h.of_eq rfl rfl

theorem levels_act (l : Log) (a : LogAct) : (l.act a).levels = l.levels.after a := by
  cases a with
  | warn s => exact l.levels_warn s
  | report p => exact l.levels_warn p.message
  | info s => exact l.levels_info s
  | write s => rfl
  | setBufferLevel level => rfl
  | setStderrLevel level => rfl
  | take => rfl
  | copy => rfl

theorem Coherent.buffer_act (h : l.Coherent) (a : LogAct) : (l.act a).buffer =
    if (⟨l.levels, a⟩ : Issued).empties then "" else l.buffer ++ (⟨l.levels, a⟩ : Issued).text := by
  cases a with
  | warn s => exact h.buffer_warn s
  | report p => exact h.buffer_warn p.message
  | info s => exact h.buffer_info s
  | write s => exact l.buffer_writeAt infoLevel s
  | setBufferLevel level => exact String.append_empty.symm
  | setStderrLevel level => exact String.append_empty.symm
  | take => rfl
  | copy => rfl

theorem Coherent.warnings_act (h : l.Coherent) (a : LogAct) : (l.act a).warnings =
    if (⟨l.levels, a⟩ : Issued).isCopy then 0
    else l.warnings + if (⟨l.levels, a⟩ : Issued).isCounted then 1 else 0 := by
  have hwarn (s : String) : (l.warn s).warnings =
      l.warnings + if decide (1 ≤ max l.bufferLevel l.stderrLevel) = true then 1 else 0 := by
    simp only [decide_eq_true_iff, h.warnings_warn]
  cases a with
  | warn s => exact hwarn s
  | report p => exact hwarn p.message
  | info s => exact l.warnings_info s
  | write s => rfl
  | setBufferLevel level => rfl
  | setStderrLevel level => rfl
  | take => rfl
  | copy => rfl

/-! ## A whole history -/

theorem play_append_singleton (l : Log) (acts : List LogAct) (a : LogAct) :
    l.play (acts ++ [a]) = (l.play acts).act a := by
  simp [play]

theorem Coherent.play (h : l.Coherent) (acts : List LogAct) : (l.play acts).Coherent := by
  induction acts generalizing l with
  | nil => exact h
  | cons a acts ih => exact ih (h.act a)

/-- The levels are those that were set last. -/
theorem levels_play (l : Log) (acts : List LogAct) :
    (l.play acts).levels = acts.foldl Levels.after l.levels := by
  induction acts generalizing l with
  | nil => rfl
  | cons a acts ih =>
    rw [List.foldl_cons, ← levels_act]
    exact ih (l.act a)

theorem history_append_singleton (l : Log) (acts : List LogAct) (a : LogAct) :
    l.levels.history (acts ++ [a]) = l.levels.history acts ++ [⟨(l.play acts).levels, a⟩] := by
  rw [Levels.history, chronicle_append_singleton, ← levels_play]
  rfl

/-- Of a log that starts empty, the buffer holds what was let through since it was last emptied. -/
theorem Coherent.buffer_play (h : l.Coherent) (hempty : l.buffer = "") (acts : List LogAct) :
    (l.play acts).buffer =
      String.join ((sinceEmptied (l.levels.history acts)).map Issued.text) := by
  induction acts using List.reverseRecOn with
  | nil => exact hempty
  | append_singleton acts a ih =>
    rw [play_append_singleton, (h.play acts).buffer_act, history_append_singleton, sinceEmptied,
      List.rtakeWhile_concat, ih]
    cases hempties : (⟨(l.play acts).levels, a⟩ : Issued).empties with
    | true => rfl
    | false => simp [sinceEmptied, String.join_append]

theorem Coherent.warnings_play (h : l.Coherent) (hnone : l.warnings = 0) (acts : List LogAct) :
    (l.play acts).warnings =
      (sinceCopied (l.levels.history acts)).countP Issued.isCounted := by
  induction acts using List.reverseRecOn with
  | nil => exact hnone
  | append_singleton acts a ih =>
    rw [play_append_singleton, (h.play acts).warnings_act, history_append_singleton, sinceCopied,
      List.rtakeWhile_concat, ih]
    cases hcopy : (⟨(l.play acts).levels, a⟩ : Issued).isCopy with
    | true => rfl
    | false => simp [sinceCopied, List.countP_append, List.countP_singleton]

/-- After every history of a log that starts empty, its levels are those that were set last and the
level it keeps is the larger of them.  The buffer holds the messages since it was last emptied, each
as far as the level of the buffer let it through when it was issued.  The warnings that are counted
are those since the log last started anew that went anywhere.  The first gate lets through exactly
what the buffer or the standard error stream is to get, and taking the buffer leaves the count. -/
theorem buffer_of_history (bufferLevel stderrLevel : UInt32) (acts : List LogAct) :
    let l := (new bufferLevel stderrLevel).play acts
    let history := Levels.history ⟨bufferLevel, stderrLevel⟩ acts
    (quiet = new 0 0 ∧ default = new 0 1) ∧
    l.levels = acts.foldl Levels.after ⟨bufferLevel, stderrLevel⟩ ∧
    l.effectiveLevel = max l.bufferLevel l.stderrLevel ∧
    l.buffer = String.join ((sinceEmptied history).map Issued.text) ∧
    l.warnings = (sinceCopied history).countP Issued.isCounted ∧
    (∀ level, l.enabled level = true ↔ level ≤ l.bufferLevel ∨ level ≤ l.stderrLevel) ∧
    l.clear.warnings = l.warnings := by
  intro l history
  have hstart : (new bufferLevel stderrLevel).Coherent := coherent_new bufferLevel stderrLevel
  have h : l.Coherent := hstart.play acts
  exact ⟨⟨rfl, rfl⟩, levels_play _ acts, h, hstart.buffer_play rfl acts,
    hstart.warnings_play rfl acts, fun _ => h.enabled_iff, rfl⟩

end Log

end ParseLens
