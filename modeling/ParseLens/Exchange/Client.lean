import ParseLens.Exchange.Reply
import ParseLens.Settings.Endpoint

set_option autoImplicit false

/-!
# Exchange: the client

A client sends requests as it is configured, once each, and turns what comes back into an answer or
a problem.  What carries a request is a backend: a function of the post and of a state of its own.
It also says how long the delivery took, so that time is an input here like any other.

A script is a backend that answers from a list and remembers what was posted.
-/

namespace ParseLens

/-- What is handed to a backend. -/
structure Post where
  /-- Where it goes. -/
  url : Url
  /-- The body. -/
  body : String
  /-- How long an answer may take, in milliseconds. -/
  timeoutMs : UInt64
  deriving DecidableEq, Repr, Inhabited

/-- What a backend hands back. -/
structure Delivery where
  /-- A reply, or the reason that there is none. -/
  outcome : Except String Reply
  /-- How long it took, in nanoseconds. -/
  elapsed : Nat
  deriving Repr, Inhabited

/-- Something that carries posts; `σ` is its own state. -/
abbrev Backend (σ : Type) : Type := Post → σ → Delivery × σ

/-- How requests are sent. -/
structure Client where
  /-- Where they go. -/
  url : Url
  /-- How long an answer may take, in milliseconds. -/
  timeoutMs : UInt64
  /-- Their layout. -/
  shape : RequestShape
  deriving DecidableEq, Repr, Inhabited

namespace Client

/-- The client that some settings describe. -/
def ofSettings (s : Settings) : Except Settings.Flaw Client :=
  match s.parseUrl with
  | .error flaw => .error flaw
  | .ok url => .ok ⟨url, s.timeoutMs, s.requestShape⟩

/-- What is posted for a request. -/
def post (c : Client) (r : ParseRequest) : Post := ⟨c.url, r.body c.shape, c.timeoutMs⟩

/-- What a delivery means: a failure of the backend is reported as it is, a reply that took too long
does not count, and any other reply is read. -/
def receive (c : Client) (d : Delivery) : Except Problem Response :=
  match d.outcome with
  | .error reason => .error (.transport (.broken reason))
  | .ok reply =>
    if c.timeoutMs.toNat * 1000000 < d.elapsed then .error (.transport (.late c.timeoutMs))
    else reply.response

/-- Send a request and wait for its answer. -/
def send {σ : Type} (c : Client) (backend : Backend σ) (r : ParseRequest) (s : σ) :
    Except Problem Response × σ :=
  let (delivery, s) := backend (c.post r) s
  (c.receive delivery, s)

end Client

/-- A list of deliveries still to come, and the posts so far. -/
structure Script where
  /-- What will be handed back. -/
  deliveries : List Delivery
  /-- What has been posted, in order. -/
  posts : List Post
  deriving Repr, Inhabited

namespace Script

/-- The failure of a script that has come to its end. -/
def exhausted : Delivery := ⟨.error "no scripted reply left", 0⟩

/-- The backend that follows a script. -/
def backend : Backend Script := fun post s =>
  (s.deliveries.headD exhausted, ⟨s.deliveries.tail, s.posts ++ [post]⟩)

@[simp] theorem posts_backend (post : Post) (s : Script) :
    (backend post s).2.posts = s.posts ++ [post] := rfl

end Script

end ParseLens
