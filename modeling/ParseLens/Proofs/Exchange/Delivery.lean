import ParseLens.Exchange.Client
import ParseLens.Proofs.Exchange.Layouts

set_option autoImplicit false

/-!
# Exchange: what becomes of a request

A client posts once, as its settings say, and what comes back goes through stages: a backend that
fails, a delay beyond the limit, a status of failure, a body that is no answer.  The first stage that
fails decides, and what would fail later is not looked at.

A script answers a row of calls.  Each call takes the next delivery off the script and leaves its
post behind, so what a row of calls does is read off from one call by induction
(`Call.getElem?_outcomes_script`, `Call.state_script`).

* `Backend.recorded` is a backend that keeps what is posted; nothing else changes by that.
* `Client.receive_eq_broken_iff` and the facts behind it are about the stages, one each.
* `Client.first_failure_decides` is the main statement.
-/

namespace ParseLens

variable {σ : Type}

/-! ## Posts -/

/-- A backend that also keeps what was posted, in order. -/
def Backend.recorded (backend : Backend σ) : Backend (σ × List Post) := fun post s =>
  ((backend post s.1).1, (backend post s.1).2, s.2 ++ [post])

/-- A client posts once, and does not see whether that is kept. -/
theorem Client.send_recorded (c : Client) (backend : Backend σ) (r : ParseRequest) (b : σ)
    (posts : List Post) : c.send backend.recorded r (b, posts) =
      ((c.send backend r b).1, (c.send backend r b).2, posts ++ [c.post r]) := rfl

theorem Client.ofSettings_eq_ok_iff {settings : Settings} {c : Client} :
    ofSettings settings = .ok c ↔
      settings.parseUrl = .ok c.url ∧ c.timeoutMs = settings.timeoutMs ∧
        c.shape = settings.requestShape := by
  unfold ofSettings
  cases settings.parseUrl with
  | error flaw => simp
  | ok url =>
    simp only [Except.ok.injEq]
    constructor
    · rintro rfl
      exact ⟨rfl, rfl, rfl⟩
    · rintro ⟨rfl, htimeout, hshape⟩
      rw [← htimeout, ← hshape]

/-- Requests go where the settings say. -/
theorem Client.parseUrl_of_ofSettings {settings : Settings} {c : Client}
    (h : ofSettings settings = .ok c) : settings.parseUrl = .ok c.url :=
  (ofSettings_eq_ok_iff.1 h).1

/-! ## The stages -/

namespace Reply

theorem isSuccess_iff {r : Reply} :
    r.isSuccess = true ↔ 200 ≤ r.status.toNat ∧ r.status.toNat ≤ 299 := by
  simp only [isSuccess, Bool.and_eq_true, decide_eq_true_eq, UInt16.le_iff_toNat_le,
    UInt16.lt_iff_toNat_lt]
  exact and_congr_right fun _ => Nat.lt_succ_iff

/-- What is read in a reply says nothing of how it came. -/
theorem response_ne_transport (r : Reply) (fault : TransportFault) :
    r.response ≠ .error (.transport fault) := by
  unfold response
  split
  · split <;> simp
  · simp

theorem response_eq_refused_iff {r : Reply} :
    (∃ detail, r.response = .error (.refused r.status detail)) ↔ r.isSuccess = false := by
  constructor
  · rintro ⟨detail, h⟩
    by_contra hsuccess
    rw [response, if_pos (by simpa using hsuccess)] at h
    split at h <;> simp at h
  · intro h
    exact ⟨_, response_of_not_isSuccess h⟩

theorem response_eq_malformed_iff {r : Reply} (h : r.isSuccess = true) {message : String} :
    r.response = .error (.response message) ↔ Response.decode r.body = .error message := by
  rw [response, if_pos h]
  cases Response.decode r.body <;> simp

theorem response_eq_ok_iff {r : Reply} (h : r.isSuccess = true) {response : Response} :
    r.response = .ok response ↔ Response.decode r.body = .ok response := by
  rw [Reply.response, if_pos h]
  cases Response.decode r.body <;> simp

end Reply

namespace Client

variable {c : Client} {d : Delivery} {reply : Reply}

theorem receive_of_late (h : d.outcome = .ok reply)
    (hlate : c.timeoutMs.toNat * 1000000 < d.elapsed) :
    c.receive d = .error (.transport (.late c.timeoutMs)) := by
  simp only [receive, h, if_pos hlate]

/-- A reply that came in time is read. -/
theorem receive_of_in_time (h : d.outcome = .ok reply)
    (htime : d.elapsed ≤ c.timeoutMs.toNat * 1000000) : c.receive d = reply.response := by
  simp only [receive, h, if_neg (Nat.not_lt.2 htime)]

theorem receive_eq_broken_iff {reason : String} :
    c.receive d = .error (.transport (.broken reason)) ↔ d.outcome = .error reason := by
  cases h : d.outcome with
  | error reason' => simp [receive, h]
  | ok reply =>
    simp only [reduceCtorEq, iff_false]
    rcases Nat.lt_or_ge (c.timeoutMs.toNat * 1000000) d.elapsed with hlate | htime
    · simp [receive_of_late h hlate]
    · rw [receive_of_in_time h htime]
      exact reply.response_ne_transport _

theorem receive_eq_late_iff (h : d.outcome = .ok reply) :
    c.receive d = .error (.transport (.late c.timeoutMs)) ↔
      c.timeoutMs.toNat * 1000000 < d.elapsed := by
  refine ⟨fun hlate => Nat.lt_of_not_le fun htime => ?_, receive_of_late h⟩
  rw [receive_of_in_time h htime] at hlate
  exact reply.response_ne_transport _ hlate

end Client

/-! ## Rows of calls -/

/-- A request, and the client that sends it. -/
structure Call where
  client : Client
  request : ParseRequest

namespace Call

/-- What a call posts. -/
def post (call : Call) : Post := call.client.post call.request

/-- Make calls one after the other; what comes of each, and the state of the backend behind the
last. -/
def run (backend : Backend σ) : List Call → σ → List (Except Problem Response) × σ
  | [], s => ([], s)
  | call :: calls, s =>
    let (outcome, s) := call.client.send backend call.request s
    let (outcomes, s) := run backend calls s
    (outcome :: outcomes, s)

theorem length_run (backend : Backend σ) (calls : List Call) (s : σ) :
    (run backend calls s).1.length = calls.length := by
  induction calls generalizing s with
  | nil => rfl
  | cons call calls ih => simp [run, ih]

/-- One call takes the next delivery and leaves its post behind. -/
theorem run_script_cons (call : Call) (calls : List Call) (s : Script) :
    run Script.backend (call :: calls) s =
      (call.client.receive (s.deliveries.headD Script.exhausted) ::
        (run Script.backend calls ⟨s.deliveries.tail, s.posts ++ [call.post]⟩).1,
        (run Script.backend calls ⟨s.deliveries.tail, s.posts ++ [call.post]⟩).2) := rfl

/-- Each call is answered by the delivery in its place, and by a failure where there is none. -/
theorem getElem?_outcomes_script (calls : List Call) (s : Script) (i : Nat) :
    (run Script.backend calls s).1[i]? =
      calls[i]?.map fun call => call.client.receive (s.deliveries[i]?.getD Script.exhausted) := by
  induction calls generalizing s i with
  | nil => rfl
  | cons call calls ih =>
    rw [run_script_cons]
    cases i with
    | zero => cases s.deliveries <;> rfl
    | succ i => simp [ih]

/-- What is left is the script behind the calls, and a post of each call in order. -/
theorem state_script (calls : List Call) (s : Script) :
    (run Script.backend calls s).2 =
      ⟨s.deliveries.drop calls.length, s.posts ++ calls.map post⟩ := by
  induction calls generalizing s with
  | nil => simp [run]
  | cons call calls ih =>
    rw [run_script_cons]
    simp [ih, List.drop_tail]

/-- What was posted is read as the requests. -/
theorem map_decode_post (calls : List Call) :
    (calls.map post).map (fun p => ParseRequest.decoder.decode p.body) =
      calls.map fun call => .ok call.request := by
  rw [List.map_map]
  exact List.map_congr_left fun call _ => call.request.decode_request_body call.client.shape

end Call

/-! ## All clients -/

namespace Client

/-- A client that settings describe posts a request once, to the address, in the layout and with the
limit of the settings, and what it makes of the delivery is decided by the first stage that fails.
The failure of a backend is reported as it is, however long it took; else a delivery beyond the limit
is late, whatever it holds; else a status of failure is a refusal, also with an answer in the body;
else a body that is no answer is malformed; and else the answer is given.  In a row of calls on a
script each is answered by the delivery in its place, by a failure behind the end of the script, and
the bodies that are kept are the requests in their order. -/
theorem first_failure_decides {settings : Settings} {c : Client}
    (hc : ofSettings settings = .ok c) :
    let limit := settings.timeoutMs.toNat
    (∀ (backend : Backend σ) (r : ParseRequest) (b : σ) (posts : List Post),
      let post := c.post r
      c.send backend.recorded r (b, posts) =
        (c.receive (backend post b).1, (backend post b).2, posts ++ [post]) ∧
      settings.parseUrl = .ok post.url ∧ post.timeoutMs = settings.timeoutMs ∧
      post.body = r.body settings.requestShape) ∧
    (∀ d : Delivery,
      (∀ reason, c.receive d = .error (.transport (.broken reason)) ↔
        d.outcome = .error reason) ∧
      ∀ reply, d.outcome = .ok reply →
        (c.receive d = .error (.transport (.late settings.timeoutMs)) ↔
          limit * 1000000 < d.elapsed) ∧
        (d.elapsed ≤ limit * 1000000 →
          ((∃ detail, c.receive d = .error (.refused reply.status detail)) ↔
            ¬ (200 ≤ reply.status.toNat ∧ reply.status.toNat ≤ 299)) ∧
          (200 ≤ reply.status.toNat ∧ reply.status.toNat ≤ 299 →
            (∀ message, c.receive d = .error (.response message) ↔
              Response.decode reply.body = .error message) ∧
            ∀ response, c.receive d = .ok response ↔
              Response.decode reply.body = .ok response))) ∧
    ((∀ reason, (TransportFault.broken reason).message = reason) ∧
      (TransportFault.late settings.timeoutMs).message =
        "no answer within " ++ toString limit ++ "ms") ∧
    ∀ (calls : List Call) (deliveries : List Delivery),
      let ran := Call.run Script.backend calls ⟨deliveries, []⟩
      ran.1.length = calls.length ∧
      (∀ (i : Nat) (call : Call), calls[i]? = some call →
        (∀ d, deliveries[i]? = some d → ran.1[i]? = some (call.client.receive d)) ∧
        (deliveries[i]? = none →
          ran.1[i]? = some (.error (.transport (.broken "no scripted reply left"))))) ∧
      ran.2.posts = calls.map Call.post ∧
      ran.2.posts.map (fun post => ParseRequest.decoder.decode post.body) =
        calls.map fun call => .ok call.request := by
  obtain ⟨hurl, htimeout, hshape⟩ := ofSettings_eq_ok_iff.1 hc
  intro limit
  have hlimit : limit = c.timeoutMs.toNat := by rw [htimeout]
  refine ⟨?_, ?_, ⟨fun _ => rfl, rfl⟩, ?_⟩
  · intro backend r b posts post
    refine ⟨c.send_recorded backend r b posts, hurl, htimeout, ?_⟩
    rw [← hshape]
    rfl
  · intro d
    refine ⟨fun reason => receive_eq_broken_iff, fun reply h => ?_⟩
    rw [hlimit, ← htimeout]
    refine ⟨receive_eq_late_iff h, fun htime => ?_⟩
    rw [receive_of_in_time h htime]
    refine ⟨?_, fun hstatus => ?_⟩
    · rw [Reply.response_eq_refused_iff, ← Reply.isSuccess_iff, Bool.not_eq_true]
    · have hsuccess := Reply.isSuccess_iff.2 hstatus
      exact ⟨fun _ => Reply.response_eq_malformed_iff hsuccess,
        fun _ => Reply.response_eq_ok_iff hsuccess⟩
  · intro calls deliveries ran
    have hposts : ran.2.posts = calls.map Call.post := by simp [ran, Call.state_script]
    refine ⟨Call.length_run _ _ _, fun i call hcall => ?_, hposts, ?_⟩
    · have hanswer := Call.getElem?_outcomes_script calls ⟨deliveries, []⟩ i
      rw [hcall] at hanswer
      refine ⟨fun d hd => ?_, fun hnone => ?_⟩
      · simpa [hd] using hanswer
      · rw [hnone] at hanswer
        exact hanswer
    · rw [hposts]
      exact Call.map_decode_post calls

/-- An answer that comes with a status of failure: a nanosecond late, just in time, and as the only
delivery for two calls. -/
theorem first_failure_decides_of_refused_answer :
    let c : Client := ⟨⟨"http", some ⟨"", "", .ipv4 2130706433, some 8001⟩,
      .segments ["api", "parse"], none, none⟩, 30000, .nested⟩
    let reply : Reply := ⟨500, (⟨[], .empty, []⟩ : Response).text⟩
    let late : Delivery := ⟨.ok reply, 30000000001⟩
    let inTime : Delivery := ⟨.ok reply, 30000000000⟩
    let call : Call := ⟨c, ⟨.initial, "a a b"⟩⟩
    ofSettings .default = .ok c ∧
    c.receive late = .error (.transport (.late 30000)) ∧
    (∃ detail, c.receive inTime = .error (.refused 500 detail)) ∧
    (Call.run Script.backend [call, call] ⟨[inTime], []⟩).1[1]? =
      some (.error (.transport (.broken "no scripted reply left"))) := by
  intro c reply late inTime call
  have hc : ofSettings .default = .ok c := by decide +kernel
  obtain ⟨-, hstages, -, hscript⟩ := first_failure_decides (σ := Unit) hc
  obtain ⟨-, hlate⟩ := hstages late
  obtain ⟨-, htime⟩ := hstages inTime
  obtain ⟨-, hcalls, -⟩ := hscript [call, call] [inTime]
  have hstatus : ¬ (200 ≤ reply.status.toNat ∧ reply.status.toNat ≤ 299) := by decide
  refine ⟨hc, (hlate reply rfl).1.2 (by decide), ?_, (hcalls 1 call rfl).2 rfl⟩
  exact ((htime reply rfl).2 (by decide)).1.2 hstatus

end Client

end ParseLens
