import ParseLens.CommandLine.Run

set_option autoImplicit false

/-!
# Command line: processes

A command says what it has printed when it is over, so nothing can be asked about the moment of a
failure.  A process writes piece by piece, and what it has written before a failure stays written.

A process is `Atomic` if it has printed nothing when it fails.  What prints nothing at all may stand
in front of such a process (`Silent.bind_atomic`), and what cannot fail is one (`Sure.atomic`).
-/

namespace ParseLens.CommandLine

/-- What was written to the two streams. -/
structure Streams where
  /-- What was printed. -/
  stdout : String
  /-- What was written to the error stream. -/
  stderr : String
  deriving DecidableEq, Repr, Inhabited

/-- A command that is carried out piece by piece.  What it has written stays written when it
fails. -/
abbrev Process : Type → Type := ExceptT Failure (StateM Streams)

namespace Process

variable {α β : Type}

/-- Carry a process out. -/
def exec (p : Process α) (w : Streams) : Except Failure α × Streams := p.run.run w

/-- Go on with a result, or fail. -/
def take (r : Except Failure α) : Process α := ExceptT.mk (pure r)

/-- Print a text. -/
def print (s : String) : Process Unit := modify fun w => { w with stdout := w.stdout ++ s }

/-- Write a text to the error stream. -/
def complain (s : String) : Process Unit := modify fun w => { w with stderr := w.stderr ++ s }

/-- How a program ends that carries the process out and reports a failure. -/
def ending (p : Process Unit) : Output :=
  match p.exec ⟨"", ""⟩ with
  | (.ok _, w) => ⟨0, w.stdout, w.stderr⟩
  | (.error f, w) => ⟨1, w.stdout, w.stderr ++ f.report⟩

variable {p : Process α} {f : α → Process β} {w : Streams}

@[simp] theorem exec_pure (a : α) (w : Streams) : (pure a : Process α).exec w = (.ok a, w) := rfl

@[simp] theorem exec_take (r : Except Failure α) (w : Streams) : (take r).exec w = (r, w) := rfl

@[simp] theorem exec_print (s : String) (w : Streams) :
    (print s).exec w = (.ok (), { w with stdout := w.stdout ++ s }) := rfl

@[simp] theorem exec_complain (s : String) (w : Streams) :
    (complain s).exec w = (.ok (), { w with stderr := w.stderr ++ s }) := rfl

theorem exec_bind (p : Process α) (f : α → Process β) (w : Streams) : (p >>= f).exec w =
    match p.exec w with
    | (.ok a, w) => (f a).exec w
    | (.error e, w) => (.error e, w) := by
  change (ExceptT.bindCont f (p.exec w).1).run (p.exec w).2 = _
  obtain ⟨_ | _, _⟩ := p.exec w <;> rfl

theorem join_replicate_empty (n : Nat) : String.join (List.replicate n "") = "" := by
  induction n with
  | zero => rfl
  | succ n ih => simpa [List.replicate_succ] using ih

/-- Pieces that are written one after the other. -/
theorem exec_forM {f : α → Process Unit} {out err : α → String}
    (hf : ∀ a w, (f a).exec w = (.ok (), ⟨w.stdout ++ out a, w.stderr ++ err a⟩)) (as : List α)
    (w : Streams) : (forM as f).exec w =
      (.ok (), ⟨w.stdout ++ String.join (as.map out), w.stderr ++ String.join (as.map err)⟩) := by
  induction as generalizing w with
  | nil => simp
  | cons a as ih =>
    rw [List.forM_cons, exec_bind, hf]
    simp [ih, String.append_assoc]

/-- What fails at once leaves the report of that. -/
theorem ending_take_bind (r : Except Failure α) (f : α → Process Unit) :
    (take r >>= f).ending = match r with
      | .ok a => (f a).ending
      | .error e => .failure e "" := by
  cases r <;> simp [ending, exec_bind, Output.failure]

/-! ## Silent and atomic processes -/

/-- The process prints nothing, whether it fails or not. -/
def Silent (p : Process α) : Prop := ∀ w, (p.exec w).2.stdout = w.stdout

/-- The process does not fail. -/
def Sure (p : Process α) : Prop := ∀ w, ∃ a w', p.exec w = (.ok a, w')

/-- The process has printed nothing when it fails. -/
def Atomic (p : Process α) : Prop := ∀ w e w', p.exec w = (.error e, w') → w'.stdout = w.stdout

theorem silent_pure (a : α) : (pure a : Process α).Silent := fun _ => rfl

theorem silent_take (r : Except Failure α) : (take r).Silent := fun _ => rfl

theorem silent_complain (s : String) : (complain s).Silent := fun _ => rfl

theorem Silent.bind (hp : p.Silent) (hf : ∀ a, (f a).Silent) : (p >>= f).Silent := by
  intro w
  have hw := hp w
  rw [exec_bind]
  generalize p.exec w = reached at hw ⊢
  obtain ⟨e | a, w'⟩ := reached
  · exact hw
  · exact (hf a w').trans hw

theorem Silent.forM {f : α → Process Unit} (hf : ∀ a, (f a).Silent) (as : List α) :
    (forM as f).Silent := by
  induction as with
  | nil => exact silent_pure ()
  | cons a as ih => exact (hf a).bind fun _ => ih

theorem sure_print (s : String) : (print s).Sure := fun _ => ⟨_, _, rfl⟩

theorem Sure.bind (hp : p.Sure) (hf : ∀ a, (f a).Sure) : (p >>= f).Sure := by
  intro w
  obtain ⟨a, w', h⟩ := hp w
  rw [exec_bind, h]
  exact hf a w'

theorem Sure.forM {f : α → Process Unit} (hf : ∀ a, (f a).Sure) (as : List α) :
    (forM as f).Sure := by
  induction as with
  | nil => exact fun w => ⟨(), w, rfl⟩
  | cons a as ih => exact (hf a).bind fun _ => ih

/-- What does not fail may print. -/
theorem Sure.atomic (hp : p.Sure) : p.Atomic := by
  intro w e w' hfailed
  obtain ⟨a, w₁, h⟩ := hp w
  simp [h] at hfailed

theorem Atomic.stdout_of_code {p : Process Unit} (hp : p.Atomic) (h : p.ending.code = 1) :
    p.ending.stdout = "" := by
  have hstart := hp ⟨"", ""⟩
  unfold ending at h ⊢
  generalize p.exec ⟨"", ""⟩ = reached at hstart h ⊢
  obtain ⟨e | a, w⟩ := reached
  · exact hstart e w rfl
  · have hcode : (0 : UInt32) = 1 := h
    exact absurd hcode (by decide)

/-- What may fail has to come before what prints. -/
theorem Silent.bind_atomic (hp : p.Silent) (hf : ∀ a, (f a).Atomic) : (p >>= f).Atomic := by
  intro w e w' hfailed
  have hw := hp w
  rw [exec_bind] at hfailed
  generalize p.exec w = reached at hw hfailed
  obtain ⟨e' | a, w₁⟩ := reached
  · rw [← (Prod.mk.inj hfailed).2]
    exact hw
  · exact (hf a w₁ e w' hfailed).trans hw

end Process

end ParseLens.CommandLine
