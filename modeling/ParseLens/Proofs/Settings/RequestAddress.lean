import ParseLens.Settings.Endpoint
import ParseLens.Proofs.Url.Slash

set_option autoImplicit false

/-!
# Settings: where requests go

Requests go to `api/parse` below the base address: whatever its path is, and whether or not it ends in
a slash, nothing of it is lost.  A slash that is written behind the base address is the one that would
have been added.

Of the host nothing is used but that it stays the same.  Which hosts there are is for `Url.parse` to
say, and it knows no international names.
-/

namespace ParseLens.Settings

open Url (AllSettled Path closed pathStyle)

variable {s t : Settings} {base : Url} {l front : List String}

theorem pathStyle_of_web {scheme : String} (h : scheme = "http" ∨ scheme = "https") :
    pathStyle scheme = .special ∧ scheme ≠ "file" := by
  rcases h with rfl | rfl <;> decide

/-- An address of the web has segments, and they are settled. -/
theorem exists_segments_of_parse (hbase : Url.parse s.endpoint = .ok base)
    (hs : pathStyle base.scheme = .special) :
    ∃ l, base.path = .segments l ∧ AllSettled l ∧ l ≠ [] := by
  obtain ⟨rest, a, behind, -, -, hu⟩ := Url.exists_of_parse hbase hs
  refine ⟨_, congrArg Url.path hu, ?_, ?_⟩
  · rw [hs]
    exact Url.allSettled_parsePath _
  · rw [hs]
    exact Url.parsePath_ne_nil _

/-- Where the path of the base address is closed, `api/parse` takes the place of the empty segment at
its end. -/
theorem parseUrl_of_closed (hbase : Url.parse s.endpoint = .ok base)
    (hscheme : base.scheme = "http" ∨ base.scheme = "https") (hpath : base.path = .segments l)
    (hclosed : closed l = front ++ [""]) :
    s.parseUrl = .ok ⟨base.scheme, base.authority, .segments (front ++ ["api", "parse"]), none,
      none⟩ := by
  obtain ⟨hs, hfile⟩ := pathStyle_of_web hscheme
  have hsplit : (Url.splitSegments .special parsePath.toList).map String.ofList =
      ["api", "parse"] := by decide
  have hsettled : AllSettled ["api", "parse"] := by decide
  have hjoin := Url.join_of_closed (u := { base with path := .segments (front ++ [""]) }) hs rfl
    Settings.parsePath (hsplit ▸ hsettled)
  rw [hsplit] at hjoin
  simp only [parseUrl, hbase, Url.closePath_of_segments hfile hpath, hclosed, hjoin]

/-- The address of requests, as a text: a slash stands between the path of the base address and
`api/parse`, which is added where there was none. -/
theorem text_of_closed (hpath : base.path = .segments l) (hsettled : AllSettled l) (hne : l ≠ [])
    (hclosed : closed l = front ++ [""]) :
    (Path.segments (front ++ ["api", "parse"])).text = base.path.text ++
      if base.path.text.toList.getLast? = some '/' then "api/parse" else "/api/parse" := by
  have hslash : (Path.segments front).text ++ "/" =
      if (Path.segments l).text.toList.getLast? = some '/' then (Path.segments l).text
      else (Path.segments l).text ++ "/" := by
    rw [← Url.text_closed hsettled hne, hclosed, Url.text_segments_append]
    rfl
  calc (Path.segments (front ++ ["api", "parse"])).text
      = (Path.segments front).text ++ "/" ++ "api/parse" := by
        rw [Url.text_segments_append, String.append_assoc]
        rfl
    _ = _ := by
      rw [hslash, hpath]
      split
      · rfl
      · rw [String.append_assoc]
        rfl

/-- With a slash behind it, a base address that ends visibly makes the same address of requests. -/
theorem parseUrl_of_slash {c : Char} (hbase : Url.parse s.endpoint = .ok base)
    (hscheme : base.scheme = "http" ∨ base.scheme = "https")
    (hendpoint : t.endpoint = s.endpoint ++ "/")
    (hmarks : ∀ d ∈ s.endpoint.toList, Url.startsTail d = false)
    (hlast : s.endpoint.toList.getLast? = some c)
    (hc : Url.PathStyle.special.separates c = false) (hvisible : 0x20 < c.toNat) :
    t.parseUrl = s.parseUrl := by
  obtain ⟨hs, -⟩ := pathStyle_of_web hscheme
  obtain ⟨a, behind, hu, hslash, hlayout, hbehind⟩ :=
    Url.exists_of_parse_append_slash hbase hs hmarks hlast hvisible
  rw [← hendpoint] at hslash
  have hpath : base.path = .segments (Url.parsePath .special behind) := congrArg Url.path hu
  have hauthority : base.authority = some a := congrArg Url.authority hu
  have hend : ∀ d, behind.getLast? = some d → Url.PathStyle.special.separates d = false := by
    intro d hd
    rw [hbehind d hd]
    exact hc
  obtain ⟨front, hclosed, -⟩ := Url.closed_eq_or (Url.parsePath .special behind)
  have hclosed' := (Url.closed_parsePath_append_slash hlayout hend).trans hclosed
  rw [parseUrl_of_closed hbase hscheme hpath hclosed, parseUrl_of_closed hslash hscheme rfl hclosed',
    hauthority]

/-- Requests to an address of the web go to `api/parse` below its path, with its scheme, credentials,
host and port, and without its query and fragment.  The slash that closes the path is put behind its
text, which is read again without another change; all segments in front of it are kept.  Where the
base address ends in a visible character, it may as well be written with the slash.

The addresses are those that `Url.parse` reads.  It refuses international names, which would have to
be encoded in ASCII, and does not check labels that are encoded already (`xn--`). -/
theorem parseUrl_below_endpoint (hbase : Url.parse s.endpoint = .ok base)
    (hscheme : base.scheme = "http" ∨ base.scheme = "https") :
    (∃ u, s.parseUrl = .ok u ∧ u.scheme = base.scheme ∧ u.authority = base.authority ∧
      u.query = none ∧ u.fragment = none ∧
      u.path.text = base.path.text ++
        (if base.path.text.toList.getLast? = some '/' then "api/parse" else "/api/parse") ∧
      ∃ front, (base.path = .segments (front ++ [""]) ∨ base.path = .segments front) ∧
        u.path = .segments (front ++ ["api", "parse"])) ∧
    base.closePath = (if base.path.text.toList.getLast? = some '/' then base
      else base.withPathText (base.path.text ++ "/")) ∧
    ∀ (t : Settings) (c : Char), t.endpoint = s.endpoint ++ "/" →
      (∀ d ∈ s.endpoint.toList, d ≠ '?' ∧ d ≠ '#') → s.endpoint.toList.getLast? = some c →
      c ≠ '/' → c ≠ '\\' → 0x20 < c.toNat → t.parseUrl = s.parseUrl := by
  obtain ⟨hs, -⟩ := pathStyle_of_web hscheme
  obtain ⟨l, hpath, hsettled, hne⟩ := exists_segments_of_parse hbase hs
  obtain ⟨front, hclosed, hfront⟩ := Url.closed_eq_or l
  refine ⟨⟨_, parseUrl_of_closed hbase hscheme hpath hclosed, rfl, rfl, rfl, rfl, ?_, front, ?_, rfl⟩,
    Url.closePath_eq_withPathText hs hpath hsettled hne, ?_⟩
  · exact text_of_closed hpath hsettled hne hclosed
  · rw [hpath]
    exact hfront.imp (congrArg Path.segments) (congrArg Path.segments)
  · intro t c hendpoint hmarks hlast hslash hbackslash hvisible
    have hmarks' : ∀ d ∈ s.endpoint.toList, Url.startsTail d = false := by
      intro d hd
      simpa [Url.startsTail] using hmarks d hd
    have hc : Url.PathStyle.special.separates c = false := by
      simp [Url.PathStyle.separates, hslash, hbackslash]
    exact parseUrl_of_slash hbase hscheme hendpoint hmarks' hlast hc hvisible

/-- A base address with credentials, a port, a host in capitals, a backslash, dots and characters to
escape. -/
def remoteSettings : Settings :=
  { default with endpoint := " HTTPS://us:p@ss@Example.ORG:8443\\a\\%2E./b c/./d\u00e9" }

theorem parseUrl_below_remote :
    (∃ u, remoteSettings.parseUrl = .ok u ∧ u.scheme = "https" ∧
      u.authority = some ⟨"us", "p%40ss", .name "example.org", some 8443⟩ ∧
      u.path.text = "/b%20c/d%C3%A9/api/parse") ∧
    ∀ t : Settings, t.endpoint = remoteSettings.endpoint ++ "/" →
      t.parseUrl = remoteSettings.parseUrl := by
  have hbase : Url.parse remoteSettings.endpoint = .ok ⟨"https",
      some ⟨"us", "p%40ss", .name "example.org", some 8443⟩, .segments ["b%20c", "d%C3%A9"], none,
      none⟩ := by decide +kernel
  obtain ⟨⟨u, hu, hscheme, hauthority, -, -, htext, -⟩, -, hslash⟩ :=
    parseUrl_below_endpoint hbase (.inr rfl)
  have hmarks : ∀ d ∈ remoteSettings.endpoint.toList, d ≠ '?' ∧ d ≠ '#' := by
    have hall : (remoteSettings.endpoint.toList.all fun d => d != '?' && d != '#') = true := by
      decide +kernel
    simpa using hall
  refine ⟨⟨u, hu, hscheme, hauthority, htext.trans (by decide +kernel)⟩, fun t ht => ?_⟩
  exact hslash t 'é' ht hmarks (by decide +kernel) (by decide) (by decide) (by decide)

end ParseLens.Settings
