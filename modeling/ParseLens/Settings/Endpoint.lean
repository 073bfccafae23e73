import ParseLens.Settings.Basic
import ParseLens.Url.Parse

set_option autoImplicit false

/-!
# Settings: the address of requests

Requests go to `api/parse` below the configured base address, whether or not that ends in a slash.
Settings are accepted only if that makes an address.
-/

namespace ParseLens

namespace Settings

/-- Where requests go, below the base address. -/
def parsePath : String := "api/parse"

/-- Why settings are refused. -/
inductive Flaw where
  /-- The text does not state settings; the message says why. -/
  | unreadable (message : String)
  /-- The base address is none. -/
  | badEndpoint (endpoint : String) (fault : Url.Fault)
  /-- Nothing can stand below the base address. -/
  | badBase (fault : Url.Fault)
  deriving DecidableEq, Repr, Inhabited

/-- What the settings were refused for, from the outside to the cause. -/
def Flaw.chain : Flaw → List String
  | .unreadable message => ["invalid viewer config", message]
  | .badEndpoint endpoint fault => ["invalid endpoint " ++ Text.quoted endpoint, fault.message]
  | .badBase fault => [fault.message]

/-- The address that requests go to. -/
def parseUrl (s : Settings) : Except Flaw Url :=
  match Url.parse s.endpoint with
  | .error fault => .error (.badEndpoint s.endpoint fault)
  | .ok base =>
    match base.closePath.join parsePath with
    | .error fault => .error (.badBase fault)
    | .ok u => .ok u

/-- Read settings, and check their address. -/
def ofText (text : String) : Except Flaw Settings :=
  match decode text with
  | .error message => .error (.unreadable message)
  | .ok s =>
    match s.parseUrl with
    | .error flaw => .error flaw
    | .ok _ => .ok s

theorem ofText_eq_ok_iff {text : String} {s : Settings} :
    ofText text = .ok s ↔ decode text = .ok s ∧ ∃ u, s.parseUrl = .ok u := by
  unfold ofText
  split
  · rename_i h
    simp [h]
  · rename_i s' h
    rw [h]
    split
    · rename_i flaw hf
      simp only [reduceCtorEq, Except.ok.injEq, false_iff, not_and, not_exists]
      rintro rfl u hu
      rw [hf] at hu
      simp at hu
    · rename_i u hu
      simp only [Except.ok.injEq]
      exact ⟨fun e => ⟨e, u, e ▸ hu⟩, fun e => e.1⟩

end Settings

end ParseLens
