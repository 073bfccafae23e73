import Mathlib.Data.List.Nodup
import ParseLens.Proofs.Viewer.Session

set_option autoImplicit false

/-!
# Viewer: the newest answer is on screen

Whatever the order in which requests come back, the result on screen is that of the newest request
which was answered, and of its answers the first.  The two numbers that the viewer keeps are the
largest number that was answered and the largest number that was settled.

The numbers are compared differently for answers and for failures: an answer may come after a
failure with a larger number and is still shown.  The invariant `Session.Current` is strong enough
for both, because an answered request is also a settled one (`Session.Current.applied_le`), so
what is dropped for the sake of an answer would not have raised the second number either.

* `displays_newest_answer` is the main statement, for every run, and for every two runs in which the
  same tickets come back in different orders.
-/

namespace ParseLens

/-! ## The largest number -/

/-- One more number makes the largest number what settling a request makes it. -/
theorem max?_append_singleton (l : List Nat) (n : Nat) :
    (l ++ [n]).max? = some (ViewState.maxSeq l.max? n) := by
  cases h : l.max? with
  | none =>
    rw [List.max?_eq_none_iff.1 h]
    rfl
  | some m =>
    obtain ⟨hmem, hle⟩ := List.max?_eq_some_iff.1 h
    refine List.max?_eq_some_iff.2 ⟨?_, ?_⟩
    · rcases Nat.le_total m n with hmn | hmn
      · simp [ViewState.maxSeq, Nat.max_eq_right hmn]
      · simp [ViewState.maxSeq, Nat.max_eq_left hmn, hmem]
    · intro k hk
      rcases List.mem_append.1 hk with hk | hk
      · exact Nat.le_trans (hle k hk) (Nat.le_max_left m n)
      · rw [List.mem_singleton.1 hk]
        exact Nat.le_max_right m n

/-- A number that is not larger than the largest leaves it as it is. -/
theorem max?_append_of_le {l : List Nat} {m n : Nat} (h : l.max? = some m) (hle : n ≤ m) :
    (l ++ [n]).max? = some m := by
  rw [max?_append_singleton, h]
  exact congrArg some (Nat.max_eq_left hle)

/-- A number that is larger than all others becomes the largest. -/
theorem max?_append_of_lt {l : List Nat} {n : Nat} (h : ∀ m, l.max? = some m → m < n) :
    (l ++ [n]).max? = some n := by
  rw [max?_append_singleton]
  cases hl : l.max? with
  | none => rfl
  | some m => exact congrArg some (Nat.max_eq_right (Nat.le_of_lt (h m hl)))

/-- A number in a list is at most the largest one. -/
theorem exists_max?_of_mem {l : List Nat} {n : Nat} (h : n ∈ l) :
    ∃ m, l.max? = some m ∧ n ≤ m := by
  obtain ⟨m, hm⟩ := Option.isSome_iff_exists.1 (List.isSome_max?_of_mem h)
  exact ⟨m, hm, (List.max?_eq_some_iff.1 hm).2 n h⟩

theorem max?_eq_of_perm {l l' : List Nat} (h : l.Perm l') : l.max? = l'.max? := by
  refine Option.ext ?_
  intro m
  simp only [List.max?_eq_some_iff, h.mem_iff]

/-! ## Answers -/

/-- An answer that came back with its ticket. -/
structure Answer where
  ticket : Ticket
  response : Response
  deriving DecidableEq, Repr, Inhabited

namespace Answer

/-- The number of the request that was answered. -/
def seq (a : Answer) : Nat := a.ticket.seq

/-- What is shown of the answer. -/
def view (a : Answer) : ResultView := .ofResponse a.response a.ticket.vocabulary

/-- Nothing in the list answers a later request, and nothing before `a` the same one. -/
def IsNewest (a : Answer) (answers : List Answer) : Prop :=
  ∃ before after, answers = before ++ a :: after ∧
    (∀ b ∈ before, b.seq < a.seq) ∧ ∀ b ∈ after, b.seq ≤ a.seq

theorem IsNewest.mem {a : Answer} {answers : List Answer} (h : a.IsNewest answers) :
    a ∈ answers := by
  obtain ⟨before, after, rfl, -, -⟩ := h
  simp

theorem IsNewest.seq_le {a b : Answer} {answers : List Answer} (h : a.IsNewest answers)
    (hb : b ∈ answers) : b.seq ≤ a.seq := by
  obtain ⟨before, after, rfl, hbefore, hafter⟩ := h
  rcases List.mem_append.1 hb with hb | hb
  · exact Nat.le_of_lt (hbefore b hb)
  · rcases List.mem_cons.1 hb with rfl | hb
    · exact Nat.le_refl _
    · exact hafter b hb

theorem IsNewest.max?_eq {a : Answer} {answers : List Answer} (h : a.IsNewest answers) :
    (answers.map seq).max? = some a.seq := by
  refine List.max?_eq_some_iff.2 ⟨List.mem_map_of_mem h.mem, ?_⟩
  intro n hn
  obtain ⟨b, hb, rfl⟩ := List.mem_map.1 hn
  exact h.seq_le hb

/-- An answer to no later request changes nothing. -/
theorem IsNewest.append {a b : Answer} {answers : List Answer} (h : a.IsNewest answers)
    (hb : b.seq ≤ a.seq) : a.IsNewest (answers ++ [b]) := by
  obtain ⟨before, after, rfl, hbefore, hafter⟩ := h
  refine ⟨before, after ++ [b], by simp, hbefore, ?_⟩
  intro c hc
  rcases List.mem_append.1 hc with hc | hc
  · exact hafter c hc
  · rw [List.mem_singleton.1 hc]
    exact hb

/-- An answer to a request later than all others is the newest. -/
theorem isNewest_append_self {a : Answer} {answers : List Answer}
    (h : ∀ b ∈ answers, b.seq < a.seq) : a.IsNewest (answers ++ [a]) :=
  ⟨answers, [], rfl, h, by simp⟩

end Answer

/-- What a ticket was handed in with. -/
def Settlement.handed (x : Settlement) : Ticket × Except Problem Response := (x.ticket, x.outcome)

/-- The answer that was handed in, if it is one. -/
def answerOf : Ticket × Except Problem Response → Option Answer
  | (t, .ok r) => some ⟨t, r⟩
  | (_, .error _) => none

namespace Session

/-- The answers in the order in which they came back, those that were dropped included. -/
def answers (s : Session) : List Answer := (s.settlements.map Settlement.handed).filterMap answerOf

@[simp] theorem answers_handIn_ok (s : Session) (t : Ticket) (r : Response) (took : String) :
    (s.handIn t (.ok r) took).answers = s.answers ++ [⟨t, r⟩] := by
  simp [answers, Settlement.handed, answerOf]

@[simp] theorem answers_handIn_error (s : Session) (t : Ticket) (p : Problem) (took : String) :
    (s.handIn t (.error p) took).answers = s.answers := by
  simp [answers, Settlement.handed, answerOf]

/-- Whatever was answered was settled. -/
theorem exists_settlement_of_mem_answers {s : Session} {a : Answer} (h : a ∈ s.answers) :
    ∃ x ∈ s.settlements, x.handed = (a.ticket, .ok a.response) := by
  obtain ⟨p, hp, hpa⟩ := List.mem_filterMap.1 h
  obtain ⟨x, hx, rfl⟩ := List.mem_map.1 hp
  refine ⟨x, hx, ?_⟩
  rcases x with ⟨t, outcome | r, c⟩
  · simp [Settlement.handed, answerOf] at hpa
  · simp only [Settlement.handed, answerOf, Option.some.injEq] at hpa
    simp [Settlement.handed, ← hpa]

/-! ## The invariant -/

/-- The numbers are the largest ones, and the newest answer is on screen. -/
structure Current (s : Session) : Prop where
  applied : s.viewer.applied = (s.answers.map Answer.seq).max?
  settled : s.viewer.settled = (s.settlements.map fun x => x.ticket.seq).max?
  result : (s.answers = [] ∧ s.viewer.result = none) ∨
    ∃ a : Answer, a.IsNewest s.answers ∧ s.viewer.result = some a.view

theorem current_start (log : Log) : (start log).Current :=
  ⟨rfl, rfl, .inl ⟨rfl, rfl⟩⟩

namespace Current

variable {s : Session}

/-- Beginning a request, looking around and copying change none of it. -/
theorem of_viewer_eq (h : s.Current) {v : ViewState} {issued : List Issue}
    (happlied : v.applied = s.viewer.applied) (hsettled : v.settled = s.viewer.settled)
    (hresult : v.result = s.viewer.result) : Current ⟨v, issued, s.settlements⟩ :=
  ⟨happlied.trans h.applied, hsettled.trans h.settled, by rw [hresult]; exact h.result⟩

/-- The request on screen is settled, and no later one than the last that is. -/
theorem applied_le (h : s.Current) {m : Nat} (hm : s.viewer.applied = some m) :
    ∃ n, s.viewer.settled = some n ∧ m ≤ n := by
  rw [h.applied] at hm
  obtain ⟨a, ha, rfl⟩ := List.mem_map.1 (List.max?_mem hm)
  obtain ⟨x, hx, hxa⟩ := exists_settlement_of_mem_answers ha
  have hseq : a.seq = x.ticket.seq := congrArg (fun p => p.1.seq) hxa.symm
  obtain ⟨n, hn, hle⟩ := exists_max?_of_mem
    (List.mem_map.2 ⟨x, hx, hseq.symm⟩ : a.seq ∈ s.settlements.map fun x => x.ticket.seq)
  exact ⟨n, h.settled.trans hn, hle⟩

/-- All answers are earlier than a ticket that is later than the request on screen. -/
theorem seq_lt_of_applied_lt (h : s.Current) {n : Nat}
    (hlt : ∀ seq, s.viewer.applied = some seq → seq < n) {a : Answer} (ha : a ∈ s.answers) :
    a.seq < n := by
  obtain ⟨m, hm, hle⟩ := exists_max?_of_mem (List.mem_map_of_mem (f := Answer.seq) ha)
  exact Nat.lt_of_le_of_lt hle (hlt m (h.applied.trans hm))

/-- An answer that is dropped has a number that is not larger than either of the two. -/
theorem handIn_stale_ok (h : s.Current) {t : Ticket} {r : Response} {took : String} {seq : Nat}
    {log : Log} (hseq : s.viewer.applied = some seq) (hle : t.seq ≤ seq)
    (hc : s.viewer.complete t (.ok r) took = (.stale, { s.viewer with log })) :
    (s.handIn t (.ok r) took).Current := by
  -- the request on screen is settled, so the dropped one does not raise the second number either
  obtain ⟨n, hn, hseqn⟩ := h.applied_le hseq
  have hmax := h.applied.symm.trans hseq
  refine ⟨?_, ?_, ?_⟩
  · rw [viewer_handIn, hc, answers_handIn_ok, List.map_append]
    exact hseq.trans (max?_append_of_le hmax hle).symm
  · rw [viewer_handIn, hc, settlements_handIn, List.map_append]
    exact hn.trans
      (max?_append_of_le (h.settled.symm.trans hn) (Nat.le_trans hle hseqn)).symm
  · rw [viewer_handIn, hc, answers_handIn_ok]
    rcases h.result with ⟨hnil, -⟩ | ⟨a, ha, hview⟩
    · simp [hnil] at hmax
    · have haseq : a.seq = seq := Option.some.inj (ha.max?_eq.symm.trans hmax)
      exact .inr ⟨a, ha.append (haseq ▸ hle), hview⟩

/-- A failure that is dropped has a number that is not larger than the last settled one. -/
theorem handIn_stale_error (h : s.Current) {t : Ticket} {p : Problem} {took : String} {seq : Nat}
    {log : Log} (hseq : s.viewer.settled = some seq) (hle : t.seq ≤ seq)
    (hc : s.viewer.complete t (.error p) took = (.stale, { s.viewer with log })) :
    (s.handIn t (.error p) took).Current := by
  refine ⟨?_, ?_, ?_⟩
  · rw [viewer_handIn, hc, answers_handIn_error]
    exact h.applied
  · rw [viewer_handIn, hc, settlements_handIn, List.map_append]
    exact hseq.trans (max?_append_of_le (h.settled.symm.trans hseq) hle).symm
  · rw [viewer_handIn, hc, answers_handIn_error]
    exact h.result

/-- An answer that is shown answers a later request than all before it. -/
theorem handIn_applied (h : s.Current) {t : Ticket} {r : Response} {took : String}
    (hlt : ∀ seq, s.viewer.applied = some seq → seq < t.seq)
    (hc : s.viewer.complete t (.ok r) took = (.applied, s.viewer.showAnswer t r took)) :
    (s.handIn t (.ok r) took).Current := by
  refine ⟨?_, ?_, ?_⟩
  · rw [viewer_handIn, hc, answers_handIn_ok, List.map_append]
    exact (max?_append_of_lt fun m hm => hlt m (h.applied.trans hm)).symm
  · rw [viewer_handIn, hc, settlements_handIn, List.map_append]
    refine Eq.trans ?_ (max?_append_singleton _ _).symm
    rw [← h.settled]
    rfl
  · rw [viewer_handIn, hc, answers_handIn_ok]
    exact .inr ⟨⟨t, r⟩, Answer.isNewest_append_self fun b hb => h.seq_lt_of_applied_lt hlt hb, rfl⟩

/-- A failure that is shown leaves the result where it is. -/
theorem handIn_failed (h : s.Current) {t : Ticket} {p : Problem} {took : String}
    (hc : s.viewer.complete t (.error p) took = (.failed p, s.viewer.showFailure t p)) :
    (s.handIn t (.error p) took).Current := by
  refine ⟨?_, ?_, ?_⟩
  · rw [viewer_handIn, hc, answers_handIn_error]
    exact h.applied
  · rw [viewer_handIn, hc, settlements_handIn, List.map_append]
    refine Eq.trans ?_ (max?_append_singleton _ _).symm
    rw [← h.settled]
    rfl
  · rw [viewer_handIn, hc, answers_handIn_error]
    exact h.result

theorem handIn (h : s.Current) (t : Ticket) (outcome : Except Problem Response) (took : String) :
    (s.handIn t outcome took).Current := by
  obtain ⟨seq, log, hthreshold, hle, hc⟩ | ⟨r, rfl, hlt, hc⟩ | ⟨p, rfl, -, hc⟩ :=
    s.viewer.complete_cases t outcome took
  · cases outcome with
    | ok r => exact h.handIn_stale_ok hthreshold hle hc
    | error p => exact h.handIn_stale_error hthreshold hle hc
  · exact h.handIn_applied hlt hc
  · exact h.handIn_failed hc

theorem move (h : s.Current) (m : Move) : (s.move m).Current := by
  obtain ⟨r, -, hm⟩ | ⟨issue, -, _, outcome, took, -, hm⟩ | ⟨_, _, _, hm⟩ := s.move_cases m
  · rw [hm]
    exact h.of_viewer_eq rfl rfl rfl
  · rw [hm]
    exact h.handIn issue.ticket outcome took
  · rw [hm]
    exact h.of_viewer_eq rfl rfl rfl

end Current

theorem current_play (log : Log) (moves : List Move) : ((start log).play moves).Current :=
  play_invariant (fun _ m h => h.move m) (current_start log) moves

/-! ## Different orders -/

/-- Tickets that are handed in once only determine their answers. -/
theorem answer_eq_of_seq_eq {s : Session} (h : s.Numbered)
    (honce : (s.settlements.map Settlement.ticket).Nodup) {a b : Answer} (ha : a ∈ s.answers)
    (hb : b ∈ s.answers) (heq : a.seq = b.seq) : a = b := by
  obtain ⟨x, hx, hxa⟩ := exists_settlement_of_mem_answers ha
  obtain ⟨y, hy, hyb⟩ := exists_settlement_of_mem_answers hb
  obtain ⟨i, hi, hix⟩ := h.own x hx
  obtain ⟨j, hj, hjy⟩ := h.own y hy
  have hax : x.ticket = a.ticket := congrArg Prod.fst hxa
  have hby : y.ticket = b.ticket := congrArg Prod.fst hyb
  -- one number, hence one request, one ticket and, as it came back once, one outcome
  have hij : i = j := h.issue_eq_of_seq_eq hi hj (by
    rw [hix, hjy, hax, hby]
    exact heq)
  have hxy : x = y := List.inj_on_of_nodup_map honce hx hy (by rw [← hix, ← hjy, hij])
  rw [hxy, hyb] at hxa
  simp only [Prod.mk.injEq, Except.ok.injEq] at hxa
  cases a; cases b
  simp_all

/-- The newest answer does not depend on the order, when no ticket comes back twice. -/
theorem isNewest_unique_of_perm {s : Session} (h : s.Numbered)
    (honce : (s.settlements.map Settlement.ticket).Nodup) {answers : List Answer}
    (hperm : s.answers.Perm answers) {a b : Answer} (ha : a.IsNewest s.answers)
    (hb : b.IsNewest answers) : a = b := by
  have hmax : (s.answers.map Answer.seq).max? = (answers.map Answer.seq).max? :=
    max?_eq_of_perm (hperm.map Answer.seq)
  have hseq : a.seq = b.seq := by
    rw [ha.max?_eq, hb.max?_eq] at hmax
    exact Option.some.inj hmax
  exact answer_eq_of_seq_eq h honce ha.mem (hperm.mem_iff.2 hb.mem) hseq

/-- Two orders of the same tickets lead to the same screen. -/
theorem result_eq_of_perm {s s' : Session} (hn : s.Numbered) (h : s.Current) (h' : s'.Current)
    (honce : (s.settlements.map Settlement.ticket).Nodup)
    (hperm : (s.settlements.map Settlement.handed).Perm (s'.settlements.map Settlement.handed)) :
    s'.viewer.result = s.viewer.result := by
  have hanswers : s.answers.Perm s'.answers := hperm.filterMap answerOf
  rcases h.result with ⟨hnil, hnone⟩ | ⟨a, ha, hview⟩
  · rcases h'.result with ⟨-, hnone'⟩ | ⟨b, hb, -⟩
    · rw [hnone, hnone']
    · have := hanswers.mem_iff.2 hb.mem
      simp [hnil] at this
  · rcases h'.result with ⟨hnil', -⟩ | ⟨b, hb, hview'⟩
    · have := hanswers.mem_iff.1 ha.mem
      simp [hnil'] at this
    · rw [hview, hview', isNewest_unique_of_perm hn honce hanswers ha hb]

/-- After every run the two numbers are the largest that was answered and the largest that was
settled, and on screen is the first answer to the newest request that was answered, read with the
symbols of the grammar of that request.  Two runs in which the same tickets come back, each once
and in whatever orders, end with the same screen and the same numbers. -/
theorem displays_newest_answer (log : Log) (moves : List Move) :
    let s := (start log).play moves
    s.viewer.applied = (s.answers.map Answer.seq).max? ∧
    s.viewer.settled = (s.settlements.map fun x => x.ticket.seq).max? ∧
    ((s.answers = [] ∧ s.viewer.result = none) ∨
      ∃ a : Answer, a.IsNewest s.answers ∧ ∃ issue ∈ s.issued, issue.ticket = a.ticket ∧
        s.viewer.result = some (.ofResponse a.response (.ofGrammar issue.request.grammar))) ∧
    ∀ (log' : Log) (moves' : List Move),
      let s' := (start log').play moves'
      (s.settlements.map Settlement.handed).Perm (s'.settlements.map Settlement.handed) →
      (s.settlements.map Settlement.ticket).Nodup →
      s'.viewer.result = s.viewer.result ∧ s'.viewer.applied = s.viewer.applied ∧
        s'.viewer.settled = s.viewer.settled := by
  intro s
  have hn : s.Numbered := numbered_play log moves
  have h : s.Current := current_play log moves
  refine ⟨h.applied, h.settled, ?_, ?_⟩
  · rcases h.result with hnone | ⟨a, ha, hview⟩
    · exact .inl hnone
    · obtain ⟨x, hx, hxa⟩ := exists_settlement_of_mem_answers ha.mem
      obtain ⟨issue, hissue, hticket⟩ := hn.own x hx
      obtain ⟨index, hindex⟩ := List.getElem?_of_mem hissue
      have hax : issue.ticket = a.ticket := hticket.trans (congrArg Prod.fst hxa)
      refine .inr ⟨a, ha, issue, hissue, hax, ?_⟩
      rw [hview, Answer.view, ← hax, hn.issued index issue hindex]
  · intro log' moves' s' hperm honce
    have h' : s'.Current := current_play log' moves'
    have hanswers : s.answers.Perm s'.answers := hperm.filterMap answerOf
    refine ⟨result_eq_of_perm hn h h' honce hperm, ?_, ?_⟩
    · rw [h'.applied, h.applied, max?_eq_of_perm (hanswers.map Answer.seq)]
    · have hseqs := hperm.map fun p => p.1.seq
      rw [List.map_map, List.map_map] at hseqs
      rw [h'.settled, h.settled]
      exact (max?_eq_of_perm hseqs).symm

/-- Three requests of which the second is answered first, the third fails and the first is answered
last, and the same three in the order in which they began. -/
theorem displays_newest_answer_of_three :
    let r : ParseRequest := ⟨.initial, "a a b"⟩
    let older : Response := ⟨[], .empty, []⟩
    let newer : Response := ⟨[⟨0, []⟩], .empty, []⟩
    let lost : Problem := .transport (.broken "reset")
    let s := (start .quiet).play [.request r, .request r, .request r,
      .settle 1 (.ok newer) "1ms", .settle 2 (.error lost) "", .copy, .settle 0 (.ok older) "9ms"]
    let s' := (start .quiet).play [.request r, .settle 0 (.ok older) "9ms", .request r,
      .request r, .settle 1 (.ok newer) "1ms", .selectTab .table, .settle 2 (.error lost) ""]
    (s.settlements.map Settlement.handed).Perm (s'.settlements.map Settlement.handed) ∧
    (s.settlements.map Settlement.ticket).Nodup ∧
    (s.viewer.applied = some 2 ∧ s.viewer.settled = some 3) ∧
    s'.viewer.result = s.viewer.result ∧ s'.viewer.applied = s.viewer.applied ∧
      s'.viewer.settled = s.viewer.settled := by
  intro r older newer lost s s'
  have hperm : (s.settlements.map Settlement.handed).Perm
      (s'.settlements.map Settlement.handed) := by decide
  have honce : (s.settlements.map Settlement.ticket).Nodup := by decide
  exact ⟨hperm, honce, ⟨rfl, rfl⟩, (displays_newest_answer .quiet _).2.2.2 .quiet _ hperm honce⟩

end Session

end ParseLens
