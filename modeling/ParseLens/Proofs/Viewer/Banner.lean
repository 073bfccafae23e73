import ParseLens.Proofs.Viewer.Newest

set_option autoImplicit false

/-!
# Viewer: the problem on screen

A problem is on screen exactly as long as the last ticket that was not dropped came back with it.
Unlike the result, the problem depends on the order in which tickets come back: a failure and a
later answer to an earlier request leave no problem, the other way round they leave one.

What keeps the two from contradicting each other is a gap between the two numbers of the viewer:
while a problem is on screen its request is the last one that was settled, and is later than the
one whose result is shown.  The converse does not hold, since an answer to an earlier request
takes the problem away and leaves the gap.

* `Session.Explained` is the invariant, `Session.Explained.handIn` its step.
* `ViewState.marks_le_complete` says that neither number ever goes back.
-/

namespace ParseLens

/-! ## Numbers that may be missing -/

theorem le_option_iff {a b : Option Nat} :
    a ≤ b ↔ ∀ m, a = some m → ∃ n, b = some n ∧ m ≤ n := by
  cases a with
  | none => simp
  | some m => cases b <;> simp

theorem lt_some_iff {a : Option Nat} {n : Nat} : a < some n ↔ ∀ m, a = some m → m < n := by
  cases a with
  | none => simp
  | some m => simp

theorem le_option_refl (a : Option Nat) : a ≤ a :=
  le_option_iff.2 fun m hm => ⟨m, hm, Nat.le_refl m⟩

theorem le_option_trans {a b c : Option Nat} (hab : a ≤ b) (hbc : b ≤ c) : a ≤ c := by
  refine le_option_iff.2 ?_
  intro m hm
  obtain ⟨n, hn, hmn⟩ := le_option_iff.1 hab m hm
  obtain ⟨k, hk, hnk⟩ := le_option_iff.1 hbc n hn
  exact ⟨k, hk, Nat.le_trans hmn hnk⟩

namespace ViewState

theorem le_maxSeq (a : Option Nat) (n : Nat) : a ≤ some (maxSeq a n) := by
  cases a with
  | none => simp
  | some m => exact Nat.le_max_left m n

/-- A number that is larger than the largest becomes the largest. -/
theorem maxSeq_of_lt {a : Option Nat} {n : Nat} (h : ∀ m, a = some m → m < n) : maxSeq a n = n := by
  cases a with
  | none => rfl
  | some m => exact Nat.max_eq_right (Nat.le_of_lt (h m rfl))

/-! ## One step -/

/-- Settling a request takes neither number back. -/
theorem marks_le_complete (v : ViewState) (t : Ticket) (outcome : Except Problem Response)
    (took : String) :
    v.applied ≤ (v.complete t outcome took).2.applied ∧
      v.settled ≤ (v.complete t outcome took).2.settled := by
  obtain ⟨_, _, _, _, h⟩ | ⟨r, _, hlt, h⟩ | ⟨p, _, _, h⟩ := v.complete_cases t outcome took
  · rw [h]
    exact ⟨le_option_refl _, le_option_refl _⟩
  · rw [h]
    refine ⟨le_option_iff.2 ?_, le_maxSeq v.settled t.seq⟩
    intro m hm
    exact ⟨t.seq, rfl, Nat.le_of_lt (hlt m hm)⟩
  · rw [h]
    exact ⟨le_option_refl _, le_maxSeq v.settled t.seq⟩

end ViewState

namespace Session

/-- No move takes either number back. -/
theorem marks_le_move (s : Session) (m : Move) :
    s.viewer.applied ≤ (s.move m).viewer.applied ∧
      s.viewer.settled ≤ (s.move m).viewer.settled := by
  obtain ⟨r, -, hm⟩ | ⟨issue, -, _, outcome, took, -, hm⟩ | ⟨_, _, _, hm⟩ := s.move_cases m
  · rw [hm]
    exact ⟨le_option_refl _, le_option_refl _⟩
  · rw [hm]
    exact s.viewer.marks_le_complete issue.ticket outcome took
  · rw [hm]
    exact ⟨le_option_refl _, le_option_refl _⟩

/-- Nor does any run. -/
theorem marks_le_play (s : Session) (moves : List Move) :
    s.viewer.applied ≤ (s.play moves).viewer.applied ∧
      s.viewer.settled ≤ (s.play moves).viewer.settled := by
  refine play_invariant (P := fun s' => s.viewer.applied ≤ s'.viewer.applied ∧
    s.viewer.settled ≤ s'.viewer.settled) ?_ ⟨le_option_refl _, le_option_refl _⟩ moves
  intro s' m ⟨happlied, hsettled⟩
  obtain ⟨happlied', hsettled'⟩ := s'.marks_le_move m
  exact ⟨le_option_trans happlied happlied', le_option_trans hsettled hsettled'⟩

/-! ## The last ticket that was not dropped -/

/-- The last ticket that was handed in and not dropped. -/
def lastShown? (s : Session) : Option Settlement :=
  (s.settlements.filter fun x => x.completion ≠ .stale).getLast?

theorem mem_of_lastShown? {s : Session} {x : Settlement} (h : s.lastShown? = some x) :
    x ∈ s.settlements :=
  (List.mem_filter.1 (List.mem_of_getLast? h)).1

section HandIn

variable {s : Session} {t : Ticket} {outcome : Except Problem Response} {took : String}

theorem lastShown?_handIn_of_stale (h : (s.viewer.complete t outcome took).1 = .stale) :
    (s.handIn t outcome took).lastShown? = s.lastShown? := by
  simp [lastShown?, h]

theorem lastShown?_handIn_of_ne_stale (h : (s.viewer.complete t outcome took).1 ≠ .stale) :
    (s.handIn t outcome took).lastShown? =
      some ⟨t, outcome, (s.viewer.complete t outcome took).1⟩ := by
  simp [lastShown?, h]

end HandIn

/-! ## The invariant -/

/-- The problem on screen is that of the last ticket that was not dropped, and then the ticket is
the last one that was settled and is later than the one whose result is shown. -/
structure Explained (s : Session) : Prop where
  error : ∀ p, s.viewer.error = some p ↔ ∃ x, s.lastShown? = some x ∧ x.completion = .failed p
  gap : ∀ x p, s.lastShown? = some x → x.completion = .failed p →
    s.viewer.settled = some x.ticket.seq ∧ s.viewer.applied < some x.ticket.seq

theorem explained_start (log : Log) : (start log).Explained := by
  constructor <;> simp [start, ViewState.new, lastShown?]

namespace Explained

variable {s : Session}

/-- Beginning a request, looking around and copying change none of it. -/
theorem of_viewer_eq (h : s.Explained) {v : ViewState} {issued : List Issue}
    (herror : v.error = s.viewer.error) (happlied : v.applied = s.viewer.applied)
    (hsettled : v.settled = s.viewer.settled) : Explained ⟨v, issued, s.settlements⟩ :=
  ⟨by rw [herror]; exact h.error, by rw [happlied, hsettled]; exact h.gap⟩

/-- A ticket that is dropped changes none of it either. -/
theorem handIn_stale (h : s.Explained) {t : Ticket} {outcome : Except Problem Response}
    {took : String} {log : Log}
    (hc : s.viewer.complete t outcome took = (.stale, { s.viewer with log })) :
    (s.handIn t outcome took).Explained := by
  have hlast : (s.handIn t outcome took).lastShown? = s.lastShown? :=
    lastShown?_handIn_of_stale (by rw [hc])
  refine ⟨?_, ?_⟩
  · rw [hlast, viewer_handIn, hc]
    exact h.error
  · rw [hlast, viewer_handIn, hc]
    exact h.gap

/-- An answer that is shown takes the problem away. -/
theorem handIn_applied {t : Ticket} {r : Response} {took : String}
    (hc : s.viewer.complete t (.ok r) took = (.applied, s.viewer.showAnswer t r took)) :
    (s.handIn t (.ok r) took).Explained := by
  have hlast : (s.handIn t (.ok r) took).lastShown? = some ⟨t, .ok r, .applied⟩ := by
    rw [lastShown?_handIn_of_ne_stale (by simp [hc]), hc]
  refine ⟨?_, ?_⟩
  · intro p
    rw [hlast, viewer_handIn, hc]
    simp [ViewState.showAnswer]
  · intro x p hx hp
    rw [hlast] at hx
    obtain rfl := Option.some.inj hx
    simp at hp

/-- A failure that is shown is later than all requests that were settled, and so also than the one
whose result is shown. -/
theorem handIn_failed (hcurrent : s.Current) {t : Ticket} {p : Problem} {took : String}
    (hlt : ∀ seq, s.viewer.settled = some seq → seq < t.seq)
    (hc : s.viewer.complete t (.error p) took = (.failed p, s.viewer.showFailure t p)) :
    (s.handIn t (.error p) took).Explained := by
  have hlast : (s.handIn t (.error p) took).lastShown? = some ⟨t, .error p, .failed p⟩ := by
    rw [lastShown?_handIn_of_ne_stale (by simp [hc]), hc]
  refine ⟨?_, ?_⟩
  · intro q
    rw [hlast, viewer_handIn, hc]
    simp [ViewState.showFailure]
  · intro x q hx _
    rw [hlast] at hx
    obtain rfl := Option.some.inj hx
    rw [viewer_handIn, hc]
    refine ⟨congrArg some (ViewState.maxSeq_of_lt hlt), lt_some_iff.2 ?_⟩
    intro m hm
    obtain ⟨n, hn, hmn⟩ := hcurrent.applied_le hm
    exact Nat.lt_of_le_of_lt hmn (hlt n hn)

theorem handIn (h : s.Explained) (hcurrent : s.Current) (t : Ticket)
    (outcome : Except Problem Response) (took : String) :
    (s.handIn t outcome took).Explained := by
  obtain ⟨_, _, _, _, hc⟩ | ⟨r, rfl, _, hc⟩ | ⟨p, rfl, hlt, hc⟩ :=
    s.viewer.complete_cases t outcome took
  · exact h.handIn_stale hc
  · exact handIn_applied hc
  · exact handIn_failed hcurrent hlt hc

theorem move (h : s.Explained) (hcurrent : s.Current) (m : Move) : (s.move m).Explained := by
  obtain ⟨r, -, hm⟩ | ⟨issue, -, _, outcome, took, -, hm⟩ | ⟨_, _, _, hm⟩ := s.move_cases m
  · rw [hm]
    exact h.of_viewer_eq rfl rfl rfl
  · rw [hm]
    exact h.handIn hcurrent issue.ticket outcome took
  · rw [hm]
    exact h.of_viewer_eq rfl rfl rfl

end Explained

theorem explained_play (log : Log) (moves : List Move) : ((start log).play moves).Explained := by
  have h := play_invariant (P := fun s => s.Current ∧ s.Explained)
    (fun s m hs => ⟨hs.1.move m, hs.2.move hs.1 m⟩) ⟨current_start log, explained_start log⟩ moves
  exact h.2

/-! ## The order of the numbers -/

/-- The request on screen is settled, and whatever is settled has begun. -/
theorem Current.marks_le {s : Session} (h : s.Current) (hn : s.Numbered) :
    s.viewer.applied ≤ s.viewer.settled ∧ s.viewer.settled ≤ some s.viewer.begun := by
  refine ⟨le_option_iff.2 fun m hm => h.applied_le hm, le_option_iff.2 ?_⟩
  intro m hm
  rw [h.settled] at hm
  obtain ⟨x, hx, rfl⟩ := List.mem_map.1 (List.max?_mem hm)
  exact ⟨s.viewer.begun, rfl, hn.seq_le_begun hx⟩

/-- A result has a number, and a number has a result. -/
theorem Current.isSome_applied {s : Session} (h : s.Current) :
    s.viewer.applied.isSome = s.viewer.result.isSome := by
  rcases h.result with ⟨hnil, hnone⟩ | ⟨a, ha, hview⟩
  · rw [h.applied, hnil, hnone]
    rfl
  · rw [h.applied, ha.max?_eq, hview]
    rfl

/-- After every run a problem is on screen exactly if the last ticket that was not dropped came back
with it.  The ticket is then the last one that was settled, no ticket that ever came back is later,
and the result on screen belongs to an earlier one.  The numbers of the result, of the last settled
ticket and of the last request are in this order, the first two never go back, and the first is
there exactly if there is a result. -/
theorem error_of_latest_failure (log : Log) (moves : List Move) :
    let s := (start log).play moves
    (∀ p, s.viewer.error = some p ↔ ∃ x, s.lastShown? = some x ∧ x.completion = .failed p) ∧
    (∀ p, s.viewer.error = some p → ∃ x ∈ s.settlements,
      s.lastShown? = some x ∧ x.completion = .failed p ∧
      s.viewer.settled = some x.ticket.seq ∧ s.viewer.applied < some x.ticket.seq ∧
      ∀ y ∈ s.settlements, y.ticket.seq ≤ x.ticket.seq) ∧
    (s.viewer.applied ≤ s.viewer.settled ∧ s.viewer.settled ≤ some s.viewer.begun) ∧
    s.viewer.applied.isSome = s.viewer.result.isSome ∧
    ∀ more : List Move,
      s.viewer.applied ≤ (s.play more).viewer.applied ∧
      s.viewer.settled ≤ (s.play more).viewer.settled := by
  intro s
  have hnumbered : s.Numbered := numbered_play log moves
  have hcurrent : s.Current := current_play log moves
  have hexplained : s.Explained := explained_play log moves
  refine ⟨hexplained.error, ?_, hcurrent.marks_le hnumbered, hcurrent.isSome_applied,
    s.marks_le_play⟩
  intro p hp
  obtain ⟨x, hx, hxp⟩ := (hexplained.error p).1 hp
  obtain ⟨hsettled, happlied⟩ := hexplained.gap x p hx hxp
  refine ⟨x, mem_of_lastShown? hx, hx, hxp, hsettled, happlied, ?_⟩
  intro y hy
  have hmax := hcurrent.settled.symm.trans hsettled
  exact (List.max?_eq_some_iff.1 hmax).2 _ (List.mem_map_of_mem hy)

/-- The second of three requests is answered and the third fails.  The first comes back twice, as a
failure before that and as an answer after it, and is dropped each time. -/
theorem error_of_latest_failure_of_three :
    let r : ParseRequest := ⟨.initial, "a a b"⟩
    let answer : Response := ⟨[], .empty, []⟩
    let lost : Problem := .transport (.broken "reset")
    let s := (start .quiet).play [.request r, .request r, .request r,
      .settle 1 (.ok answer) "1ms", .settle 0 (.error lost) "", .settle 2 (.error lost) "",
      .settle 0 (.ok answer) "9ms"]
    s.viewer.error = some lost ∧
    ∃ x ∈ s.settlements, s.lastShown? = some x ∧ x.completion = .failed lost ∧
      s.viewer.settled = some x.ticket.seq ∧ s.viewer.applied < some x.ticket.seq ∧
      ∀ y ∈ s.settlements, y.ticket.seq ≤ x.ticket.seq := by
  intro r answer lost s
  have herror : s.viewer.error = some lost := rfl
  exact ⟨herror, (error_of_latest_failure .quiet _).2.1 lost herror⟩

end Session

end ParseLens
