import Mathlib.Data.List.TakeDrop
import Mathlib.Data.List.TakeWhile
import ParseLens.Proofs.Url.Closing

set_option autoImplicit false

/-!
# Url: a slash at the end

An address of the web may be written with a slash behind it.  The slash ends whatever the address ends
in: it belongs to no host, port or segment, so all that changes is that the path is closed, and
`closePath` would have done that anyway.
-/

namespace ParseLens.Url

variable {s t rest behind : List Char} {u : Url} {scheme : String} {a : Authority}

/-! ## How an address is read -/

theorem scheme_parseFile (h : parseFile s = .ok u) : u.scheme = "file" := by
  have hlocal (s : List Char) : (localFile s).scheme = "file" := rfl
  unfold parseFile at h
  split at h
  · obtain rfl := Except.ok.inj h
    rfl
  · split at h
    · obtain rfl := Except.ok.inj h
      rfl
    · simp only [bind, Except.bind] at h
      split at h
      · obtain rfl := Except.ok.inj h
        rfl
      · split at h
        · obtain rfl := Except.ok.inj h
          rfl
        · split at h
          · simp at h
          · split at h
            · obtain rfl := Except.ok.inj h
              rfl
            · obtain rfl := Except.ok.inj h
              rfl

theorem scheme_parseOther (h : parseOther scheme s = .ok u) : u.scheme = scheme := by
  unfold parseOther at h
  split at h
  · simp only [bind, Except.bind] at h
    split at h
    · simp at h
    · obtain rfl := Except.ok.inj h
      rfl
  · obtain rfl := Except.ok.inj h
    rfl
  · obtain rfl := Except.ok.inj h
    rfl

/-- An address of the web has an authority behind its scheme, and a path behind that. -/
theorem exists_of_parse {text : String} (h : parse text = .ok u)
    (hs : pathStyle u.scheme = .special) : ∃ rest a behind,
      cutScheme (trimEnds text.toList) = some (u.scheme, rest) ∧
      parseAuthority u.scheme ((visible rest).dropWhile PathStyle.special.separates) =
        .ok (a, behind) ∧
      u = withPath u.scheme (some a) behind := by
  unfold parse at h
  split at h
  · simp at h
  · rename_i scheme rest hcut
    split at h
    · rw [scheme_parseFile h] at hs
      exact absurd hs (by decide)
    · simp only [bind, Except.bind] at h
      split at h
      · simp at h
      · rename_i x hauthority
        obtain rfl := Except.ok.inj h
        exact ⟨rest, x.1, x.2, hcut, hauthority, rfl⟩
    · rename_i hstyle
      rw [scheme_parseOther h] at hs
      simp [hstyle] at hs

theorem parse_of_special {text : String} (hcut : cutScheme (trimEnds text.toList) = some (scheme, rest))
    (hs : pathStyle scheme = .special)
    (h : parseAuthority scheme ((visible rest).dropWhile PathStyle.special.separates) =
      .ok (a, behind)) : parse text = .ok (withPath scheme (some a) behind) := by
  simp only [parse, hcut, hs, h, bind, Except.bind]
  rfl

/-- How the authority of an address of the web is read: credentials, a host, and a port behind a
colon. -/
inductive ReadsAuthority (scheme : String) (s : List Char) : Authority → List Char → Prop where
  | plain {username password : String} {t hostText rest : List Char} {host : Host}
      (huser : parseUserinfo .special s = .ok (username, password, t))
      (hcut : cutHost .special false t = (hostText, rest)) (hne : hostText ≠ [])
      (hhost : parseSpecialHost hostText = .ok host) (hrest : ∀ u, rest ≠ ':' :: u) :
      ReadsAuthority scheme s ⟨username, password, host, none⟩ rest
  | port {username password : String} {t hostText digits rest : List Char} {host : Host}
      {port : Option Nat} (huser : parseUserinfo .special s = .ok (username, password, t))
      (hcut : cutHost .special false t = (hostText, ':' :: digits)) (hne : hostText ≠ [])
      (hhost : parseSpecialHost hostText = .ok host)
      (hport : parsePort (defaultPort scheme) digits = .ok (port, rest)) :
      ReadsAuthority scheme s ⟨username, password, host, port⟩ rest

/-- The authority with the given credentials and host, and the port that stands behind the host. -/
def withPort (scheme username password : String) (host : Host) :
    List Char → Except Fault (Authority × List Char)
  | ':' :: digits =>
    match parsePort (defaultPort scheme) digits with
    | .error e => .error e
    | .ok (port, rest) => .ok (⟨username, password, host, port⟩, rest)
  | rest => .ok (⟨username, password, host, none⟩, rest)

/-- Behind the host of an address of the web, only a port is left to be read. -/
theorem parseAuthority_of_host {username password : String} {hostText : List Char} {host : Host}
    (hs : pathStyle scheme = .special)
    (huser : parseUserinfo .special s = .ok (username, password, t))
    (hcut : cutHost .special false t = (hostText, rest)) (hne : hostText ≠ [])
    (hhost : parseSpecialHost hostText = .ok host) :
    parseAuthority scheme s = withPort scheme username password host rest := by
  simp only [parseAuthority, hs, huser, hcut, hne, hhost, bind, Except.bind, pure, Except.pure,
    and_false, false_and, if_true, if_false]
  split
  · rw [withPort]
    cases parsePort (defaultPort scheme) _ <;> rfl
  · rename_i hrest
    rw [withPort]
    exact hrest

/-- Where an address of the web has no host, it is refused. -/
theorem exists_host_of_parseAuthority (hs : pathStyle scheme = .special)
    (h : parseAuthority scheme s = .ok (a, behind)) :
    ∃ username password t hostText rest host,
      parseUserinfo .special s = .ok (username, password, t) ∧
      cutHost .special false t = (hostText, rest) ∧ hostText ≠ [] ∧
      parseSpecialHost hostText = .ok host := by
  simp only [parseAuthority, hs, bind, Except.bind] at h
  split at h
  · simp at h
  · rename_i x huser
    obtain ⟨username, password, t⟩ := x
    rcases hcut : cutHost .special false t with ⟨hostText, rest⟩
    by_cases hne : hostText = []
    · simp [hcut, hne, throw, throwThe, MonadExceptOf.throw] at h
    · cases hhost : parseSpecialHost hostText with
      | error e => simp [hcut, hne, hhost] at h
      | ok host => exact ⟨username, password, t, hostText, rest, host, huser, hcut, hne, hhost⟩

theorem parseAuthority_eq_ok_iff (hs : pathStyle scheme = .special) :
    parseAuthority scheme s = .ok (a, behind) ↔ ReadsAuthority scheme s a behind := by
  constructor
  · intro h
    obtain ⟨username, password, t, hostText, rest, host, huser, hcut, hne, hhost⟩ :=
      exists_host_of_parseAuthority hs h
    rw [parseAuthority_of_host hs huser hcut hne hhost, withPort.eq_def] at h
    split at h
    · split at h
      · simp at h
      · rename_i hport
        obtain ⟨rfl, rfl⟩ := Prod.mk.inj (Except.ok.inj h)
        exact .port huser hcut hne hhost hport
    · rename_i hrest
      obtain ⟨rfl, rfl⟩ := Prod.mk.inj (Except.ok.inj h)
      exact .plain huser hcut hne hhost hrest
  · intro h
    cases h with
    | plain huser hcut hne hhost hrest =>
      rw [parseAuthority_of_host hs huser hcut hne hhost, withPort]
      exact hrest
    | port huser hcut hne hhost hport =>
      rw [parseAuthority_of_host hs huser hcut hne hhost, withPort, hport]

/-! ## A slash behind an authority -/

theorem spanUntil_eq (stop : Char → Bool) (s : List Char) :
    spanUntil stop s = (s.takeWhile (!stop ·), s.dropWhile (!stop ·)) := by
  rw [spanUntil, List.span_eq_takeWhile_dropWhile]

/-- A slash at the end stays behind what is found, or is what is found. -/
theorem spanUntil_append_slash {stop : Char → Bool}
    (h : stop '/' = true ∨ (spanUntil stop s).2 ≠ []) :
    spanUntil stop (s ++ ['/']) = ((spanUntil stop s).1, (spanUntil stop s).2 ++ ['/']) := by
  induction s with
  | nil =>
    have hslash : stop '/' = true := h.resolve_right (by simp [spanUntil_eq])
    simp [spanUntil_eq, hslash]
  | cons c s ih =>
    simp only [spanUntil_eq, Prod.mk.injEq] at ih h
    cases hc : stop c with
    | true => simp [spanUntil_eq, hc]
    | false =>
      obtain ⟨hfront, hrest⟩ := ih (by simpa [hc] using h)
      simp [spanUntil_eq, hc, hfront, hrest]

theorem cutHost_append_slash (style : PathStyle) (bracketed : Bool) (s : List Char) :
    cutHost style bracketed (s ++ ['/']) =
      ((cutHost style bracketed s).1, (cutHost style bracketed s).2 ++ ['/']) := by
  have hslash : style.separates '/' = true := by cases style <;> decide
  induction s generalizing bracketed with
  | nil => simp [cutHost, hslash]
  | cons c s ih =>
    rw [List.cons_append, cutHost, cutHost]
    split
    · rfl
    · simp [ih]

theorem parseUserinfo_append_slash {style : PathStyle} {username password : String}
    (h : parseUserinfo style s = .ok (username, password, t)) (ht : t ≠ []) :
    parseUserinfo style (s ++ ['/']) = .ok (username, password, t ++ ['/']) := by
  have hstop : (style.separates '/' || startsTail '/') = true := by cases style <;> decide
  have hspan := @spanUntil_append_slash s (fun c => style.separates c || startsTail c) (.inl hstop)
  unfold parseUserinfo at h ⊢
  rw [hspan]
  rcases hs : spanUntil (fun c => style.separates c || startsTail c) s with ⟨authority, rest⟩
  rw [hs] at h
  dsimp only at h ⊢
  split at h
  · obtain ⟨rfl, rfl, rfl⟩ : "" = username ∧ "" = password ∧ s = t := by simpa using h
    rfl
  · split at h
    · obtain ⟨-, -, rfl⟩ : "" = username ∧ "" = password ∧ [] = t := by simpa using h
      exact absurd rfl ht
    · simp at h
  · rename_i credentials host hneither hcut
    simp only [Except.ok.injEq, Prod.mk.injEq] at h
    obtain ⟨rfl, rfl, rfl⟩ := h
    rw [List.append_assoc]

theorem parsePort_append_slash {default port : Option Nat}
    (h : parsePort default s = .ok (port, rest)) :
    parsePort default (s ++ ['/']) = .ok (port, rest ++ ['/']) := by
  have hspan : (s ++ ['/']).span Char.isDigit =
      ((s.span Char.isDigit).1, (s.span Char.isDigit).2 ++ ['/']) := by
    have hstop := @spanUntil_append_slash s (fun c => !c.isDigit) (.inl (by decide))
    simpa [spanUntil] using hstop
  unfold parsePort at h ⊢
  rw [hspan]
  rcases hs : s.span Char.isDigit with ⟨digits, t⟩
  rw [hs] at h
  dsimp only at h ⊢
  split at h
  · simp at h
  · rename_i hfits
    rw [if_neg hfits]
    split at h
    · obtain ⟨rfl, rfl⟩ := Prod.mk.inj (Except.ok.inj h)
      simp
    · split at h
      · rename_i c u hc
        obtain ⟨rfl, rfl⟩ := Prod.mk.inj (Except.ok.inj h)
        simp [hc]
      · simp at h

theorem eq_append_of_cutLast {sep : Char} {x y : List Char} (h : cutLast sep s = some (x, y)) :
    s = x ++ sep :: y := by
  unfold cutLast at h
  split at h
  · simp at h
  · rename_i back c front hspan
    rw [List.span_eq_takeWhile_dropWhile] at hspan
    obtain ⟨hback, hfront⟩ := Prod.mk.inj hspan
    obtain ⟨rfl, rfl⟩ := Prod.mk.inj (Option.some.inj h)
    have hc : c = sep := by
      have hhead := List.head?_dropWhile_not (· != sep) s.reverse
      simpa [hfront] using hhead
    have hreverse : s.reverse = back ++ sep :: front := by
      rw [← List.takeWhile_append_dropWhile (p := (· != sep)) (l := s.reverse), hback, hfront, hc]
    simpa using congrArg List.reverse hreverse

theorem suffix_of_parseUserinfo {style : PathStyle} {username password : String}
    (h : parseUserinfo style s = .ok (username, password, t)) : t <:+ s := by
  have happend : s = (spanUntil (fun c => style.separates c || startsTail c) s).1 ++
      (spanUntil (fun c => style.separates c || startsTail c) s).2 := by
    rw [spanUntil_eq, List.takeWhile_append_dropWhile]
  unfold parseUserinfo at h
  rcases hs : spanUntil (fun c => style.separates c || startsTail c) s with ⟨authority, rest⟩
  rw [hs] at h happend
  dsimp only at h happend
  split at h
  · obtain ⟨-, -, rfl⟩ : "" = username ∧ "" = password ∧ s = t := by simpa using h
    exact List.suffix_refl s
  · split at h
    · obtain ⟨-, -, rfl⟩ : "" = username ∧ "" = password ∧ [] = t := by simpa using h
      exact List.nil_suffix
    · simp at h
  · rename_i credentials host hneither hcut
    simp only [Except.ok.injEq, Prod.mk.injEq] at h
    obtain ⟨-, -, rfl⟩ := h
    rw [happend, eq_append_of_cutLast hcut, List.append_assoc]
    exact (List.suffix_cons '@' (host ++ rest)).trans (List.suffix_append credentials _)

theorem suffix_cutHost (style : PathStyle) (bracketed : Bool) (s : List Char) :
    (cutHost style bracketed s).2 <:+ s := by
  induction s generalizing bracketed with
  | nil => exact List.suffix_refl []
  | cons c s ih =>
    rw [cutHost]
    split
    · exact List.suffix_refl _
    · exact (ih _).trans (List.suffix_cons c s)

theorem suffix_of_parsePort {default port : Option Nat}
    (h : parsePort default s = .ok (port, rest)) : rest <:+ s := by
  simp only [parsePort, List.span_eq_takeWhile_dropWhile] at h
  split at h
  · simp at h
  · split at h
    · obtain ⟨-, rfl⟩ := Prod.mk.inj (Except.ok.inj h)
      exact List.nil_suffix
    · split at h
      · obtain ⟨-, rfl⟩ := Prod.mk.inj (Except.ok.inj h)
        exact List.dropWhile_suffix _
      · simp at h

theorem ReadsAuthority.suffix (h : ReadsAuthority scheme s a behind) : behind <:+ s := by
  have hhost {t hostText rest : List Char} (hcut : cutHost .special false t = (hostText, rest)) :
      rest <:+ t := by
    have hsuffix := suffix_cutHost .special false t
    rwa [hcut] at hsuffix
  cases h with
  | plain huser hcut _ _ _ => exact (hhost hcut).trans (suffix_of_parseUserinfo huser)
  | port huser hcut _ _ hport =>
    exact (suffix_of_parsePort hport).trans ((List.suffix_cons ':' _).trans
      ((hhost hcut).trans (suffix_of_parseUserinfo huser)))

/-- A slash behind an authority is no part of it. -/
theorem ReadsAuthority.append_slash (h : ReadsAuthority scheme s a behind) :
    ReadsAuthority scheme (s ++ ['/']) a (behind ++ ['/']) := by
  have hne {t hostText rest : List Char} (hcut : cutHost .special false t = (hostText, rest))
      (hne : hostText ≠ []) : t ≠ [] := by
    rintro rfl
    simp [cutHost, hne.symm] at hcut
  cases h with
  | @plain _ _ t hostText _ _ huser hcut hhostText hhost hrest =>
    have hcut' : cutHost .special false (t ++ ['/']) = (hostText, behind ++ ['/']) := by
      rw [cutHost_append_slash, hcut]
    refine .plain (parseUserinfo_append_slash huser (hne hcut hhostText)) hcut' hhostText hhost ?_
    intro u hu
    cases behind with
    | nil => simp at hu
    | cons c behind =>
      obtain ⟨rfl, -⟩ := List.cons.inj hu
      exact hrest behind rfl
  | @port _ _ t hostText digits _ _ _ huser hcut hhostText hhost hport =>
    have hcut' : cutHost .special false (t ++ ['/']) = (hostText, ':' :: (digits ++ ['/'])) := by
      rw [cutHost_append_slash, hcut]
      rfl
    exact .port (parseUserinfo_append_slash huser (hne hcut hhostText)) hcut' hhostText hhost
      (parsePort_append_slash hport)

/-! ## A slash behind a path -/

section Paths

variable {style : PathStyle} {c : Char} {l : List String} {parts : List (List Char)}

theorem splitSegments_append_slash (style : PathStyle) (s : List Char) :
    splitSegments style (s ++ ['/']) = splitSegments style s ++ [[]] := by
  have hslash : style.separates '/' = true := by cases style <;> decide
  induction s with
  | nil => simp [splitSegments, hslash]
  | cons c s ih =>
    obtain ⟨part, parts, hparts⟩ := List.exists_cons_of_ne_nil (splitSegments_ne_nil style s)
    rw [List.cons_append]
    cases hc : style.separates c with
    | true => rw [splitSegments_cons_of_separates hc, splitSegments_cons_of_separates hc, ih]; rfl
    | false =>
      rw [splitSegments_cons_of_not_separates hc hparts]
      rw [hparts] at ih
      exact splitSegments_cons_of_not_separates hc ih

/-- The last part ends in the last character. -/
theorem exists_splitSegments_append_singleton (hc : style.separates c = false) (s : List Char) :
    ∃ front part, splitSegments style (s ++ [c]) = front ++ [part ++ [c]] := by
  induction s with
  | nil => exact ⟨[], [], by simp [splitSegments, hc]⟩
  | cons d s ih =>
    obtain ⟨front, part, hsplit⟩ := ih
    rw [List.cons_append]
    cases hd : style.separates d with
    | true => exact ⟨[] :: front, part, by rw [splitSegments_cons_of_separates hd, hsplit]; rfl⟩
    | false =>
      cases front with
      | nil =>
        exact ⟨[], d :: part, splitSegments_cons_of_not_separates hd hsplit⟩
      | cons first front =>
        exact ⟨(d :: first) :: front, part, splitSegments_cons_of_not_separates hd hsplit⟩

/-- Segments that others follow are added one by one. -/
theorem addSegments_append (l : List String) {last : List (List Char)} (h : last ≠ []) :
    addSegments style l (parts ++ last) =
      addSegments style (parts.foldl (fun l p => addSegment style l p false) l) last := by
  induction parts generalizing l with
  | nil => rfl
  | cons p parts ih =>
    have hmore : (parts ++ last).isEmpty = false := by simp [h]
    rw [List.cons_append, addSegments, hmore, ih, List.foldl_cons]

/-- An empty segment at the end closes the path. -/
theorem closed_addSegments_nil (l : List String) {part : List Char} (hpart : visible part ≠ []) :
    closed (addSegments .special l [part, []]) = closed (addSegments .special l [part]) := by
  have hnil (l : List String) : addSegment .special l [] true = l ++ [""] :=
    addSegment_of_plain (s := []) (by decide) (by decide) l true
  have hkeep : keep (visible part) ≠ "" := fun h => hpart (by simpa [keep, escape_eq_nil_iff] using h)
  simp only [addSegments, List.isEmpty_cons, List.isEmpty_nil, hnil]
  cases hdouble : isDoubleDot (visible part) with
  | true => simp [addSegment_of_double hdouble]
  | false =>
    cases hsingle : isSingleDot (visible part) with
    | true => simp [addSegment_of_single hdouble hsingle]
    | false =>
      rw [addSegment_of_plain hdouble hsingle, addSegment_of_plain hdouble hsingle,
        closed_append_nil, closed_append_singleton l hkeep]

/-- What the segments are read from is what stands behind a separator at the front. -/
theorem cutSeparator?_cons (hc : isLayout c = false) (s : List Char) :
    (cutSeparator? style (c :: s)).getD (c :: s) = if style.separates c then s else c :: s := by
  simp only [cutSeparator?, List.dropWhile_cons_of_neg (by simp [hc] : ¬isLayout c = true)]
  split <;> rfl

/-- A slash behind a path closes it, if the path does not end in a separator or hold layout. -/
theorem closed_parsePath_append_slash (hlayout : ∀ c ∈ s, isLayout c = false)
    (hlast : ∀ c, s.getLast? = some c → PathStyle.special.separates c = false) :
    closed (parsePath .special (s ++ ['/'])) = closed (parsePath .special s) := by
  obtain rfl | ⟨front, c, rfl⟩ := s.eq_nil_or_concat
  · decide
  rw [List.concat_eq_append] at *
  have hc : PathStyle.special.separates c = false := hlast c (by simp)
  have hcLayout : isLayout c = false := hlayout c (by simp)
  obtain ⟨t, ht, htSlash⟩ : ∃ t,
      (cutSeparator? .special (front ++ [c])).getD (front ++ [c]) = t ++ [c] ∧
      (cutSeparator? .special (front ++ [c] ++ ['/'])).getD (front ++ [c] ++ ['/']) =
        t ++ [c] ++ ['/'] := by
    cases front with
    | nil =>
      refine ⟨[], ?_, ?_⟩
      · exact (cutSeparator?_cons hcLayout []).trans (by simp [hc])
      · exact (cutSeparator?_cons hcLayout ['/']).trans (by simp [hc])
    | cons d front =>
      have hd : isLayout d = false := hlayout d (by simp)
      simp only [List.cons_append, cutSeparator?_cons hd]
      split
      · exact ⟨front, rfl, rfl⟩
      · exact ⟨d :: front, rfl, rfl⟩
  obtain ⟨parts, part, hsplit⟩ := exists_splitSegments_append_singleton hc t
  have hpart : visible (part ++ [c]) ≠ [] := by simp [visible, hcLayout]
  rw [parsePath, parsePath, if_neg (by simp), if_neg (by simp), ht, htSlash,
    splitSegments_append_slash, hsplit, List.append_assoc,
    addSegments_append [] (by simp), addSegments_append [] (by simp)]
  exact closed_addSegments_nil _ hpart

end Paths

/-! ## A slash behind an address -/

section Addresses

variable {c : Char} {text : String}

theorem dropWhile_append_singleton {p : Char → Bool} (hc : p c = false) (s : List Char) :
    (s ++ [c]).dropWhile p = s.dropWhile p ++ [c] := by
  induction s with
  | nil => simp [hc]
  | cons d s ih =>
    cases hd : p d with
    | true => simpa [hd] using ih
    | false => simp [hd]

/-- The last character stays if it is no blank and no control character. -/
theorem trimEnds_append_singleton (hc : 0x20 < c.toNat) (s : List Char) :
    trimEnds (s ++ [c]) = s.dropWhile (fun c => decide (c.toNat ≤ 0x20)) ++ [c] := by
  have houter : decide (c.toNat ≤ 0x20) = false := by simpa using hc
  simp only [trimEnds, dropWhile_append_singleton (p := fun c => decide (c.toNat ≤ 0x20)) houter]
  simp [hc]

theorem cutScheme_append_slash (h : cutScheme s = some (scheme, rest)) :
    cutScheme (s ++ ['/']) = some (scheme, rest ++ ['/']) := by
  unfold cutScheme at h ⊢
  rcases hspan : spanUntil (· == ':') s with ⟨front, back⟩
  rw [hspan] at h
  cases back with
  | nil => simp at h
  | cons c back =>
    rw [spanUntil_append_slash (.inr (by simp [hspan])), hspan]
    dsimp only [List.cons_append] at h ⊢
    split at h
    · rename_i hname
      obtain ⟨rfl, rfl⟩ := Prod.mk.inj (Option.some.inj h)
      rw [if_pos hname]
    · simp at h

theorem suffix_of_cutScheme (h : cutScheme s = some (scheme, rest)) : rest <:+ s := by
  unfold cutScheme at h
  rw [spanUntil_eq] at h
  split at h
  · simp at h
  · rename_i front c back hspan
    dsimp only at h
    split at h
    · obtain ⟨-, rfl⟩ := Prod.mk.inj (Option.some.inj h)
      have hsuffix := List.dropWhile_suffix (l := s) fun c => !(c == ':')
      rw [(Prod.mk.inj hspan).2] at hsuffix
      exact (List.suffix_cons c back).trans hsuffix
    · simp at h

theorem ReadsAuthority.ne_nil (h : ReadsAuthority scheme s a behind) : s ≠ [] := by
  have hnil {username password : String} {t hostText rest : List Char} {style : PathStyle}
      (huser : parseUserinfo style [] = .ok (username, password, t))
      (hcut : cutHost .special false t = (hostText, rest)) : hostText = [] := by
    rw [List.suffix_nil.1 (suffix_of_parseUserinfo huser)] at hcut
    exact (Prod.mk.inj hcut).1.symm
  rintro rfl
  cases h with
  | plain huser hcut hne _ _ => exact hne (hnil huser hcut)
  | port huser hcut hne _ _ => exact hne (hnil huser hcut)

/-- Without a mark of one, there is no query and no fragment. -/
theorem withPath_of_no_mark (h : ∀ c ∈ s, startsTail c = false) (scheme : String) (a : Authority) :
    withPath scheme (some a) s =
      ⟨scheme, some a, .segments (parsePath (pathStyle scheme) s), none, none⟩ := by
  have hspan : spanUntil startsTail s = (s, []) := by
    rw [spanUntil_eq, List.takeWhile_eq_self_iff.2 fun c hc => by simp [h c hc],
      List.dropWhile_eq_nil_iff.2 fun c hc => by simp [h c hc]]
  rw [withPath, hspan]
  rfl

/-- A slash behind an address is read behind what stands behind its authority. -/
theorem parse_append_slash (hcut : cutScheme (trimEnds text.toList) = some (scheme, rest))
    (hs : pathStyle scheme = .special)
    (hreads : ReadsAuthority scheme ((visible rest).dropWhile PathStyle.special.separates) a behind)
    (htrim : trimEnds (text ++ "/").toList = trimEnds text.toList ++ ['/']) :
    parse (text ++ "/") = .ok (withPath scheme (some a) (behind ++ ['/'])) := by
  have hcut' : cutScheme (trimEnds (text ++ "/").toList) = some (scheme, rest ++ ['/']) := by
    rw [htrim]
    exact cutScheme_append_slash hcut
  have hdrop : (visible (rest ++ ['/'])).dropWhile PathStyle.special.separates =
      (visible rest).dropWhile PathStyle.special.separates ++ ['/'] := by
    have hne := hreads.ne_nil
    rw [visible, List.filter_append, ← visible, List.dropWhile_append, if_neg (by simpa using hne)]
    rfl
  have hauthority := (parseAuthority_eq_ok_iff hs).2 hreads.append_slash
  rw [← hdrop] at hauthority
  exact parse_of_special hcut' hs hauthority

/-- What is read of an address of the web that ends in a visible character, and of the same with a
slash behind it: a slash is added to the text of the path. -/
theorem exists_of_parse_append_slash (h : parse text = .ok u) (hs : pathStyle u.scheme = .special)
    (hmarks : ∀ d ∈ text.toList, startsTail d = false) (hlast : text.toList.getLast? = some c)
    (hc : 0x20 < c.toNat) : ∃ a behind,
      u = ⟨u.scheme, some a, .segments (parsePath .special behind), none, none⟩ ∧
      parse (text ++ "/") =
        .ok ⟨u.scheme, some a, .segments (parsePath .special (behind ++ ['/'])), none, none⟩ ∧
      (∀ d ∈ behind, isLayout d = false) ∧ (∀ d, behind.getLast? = some d → d = c) := by
  obtain ⟨front, htext⟩ : ∃ front, text.toList = front ++ [c] := List.getLast?_eq_some_iff.1 hlast
  have hcLayout : isLayout c = false := by
    rw [Bool.eq_false_iff, ne_eq, isLayout_iff]
    rintro (rfl | rfl | rfl) <;> exact absurd hc (by decide)
  obtain ⟨kept, hkept, htrim, htrimSlash⟩ : ∃ kept, kept <:+ front ∧
      trimEnds text.toList = kept ++ [c] ∧ trimEnds (text ++ "/").toList = kept ++ [c] ++ ['/'] := by
    refine ⟨front.dropWhile (fun c => decide (c.toNat ≤ 0x20)), List.dropWhile_suffix _, ?_, ?_⟩
    · rw [htext, trimEnds_append_singleton hc]
    · rw [String.toList_append, htext]
      exact (trimEnds_append_singleton (by decide) _).trans
        (congrArg (· ++ ['/']) (dropWhile_append_singleton (by simpa using hc) front))
  obtain ⟨rest, a, behind, hcut, hauthority, hu⟩ := exists_of_parse h hs
  have hreads := (parseAuthority_eq_ok_iff hs).1 hauthority
  -- what stands behind the authority is the end of the text, without its layout
  have hbehind : behind <:+ visible kept ++ [c] := by
    have hvisible : visible rest <:+ visible (kept ++ [c]) :=
      (suffix_of_cutScheme (htrim ▸ hcut)).filter _
    have happend : visible (kept ++ [c]) = visible kept ++ [c] := by simp [visible, hcLayout]
    rw [happend] at hvisible
    exact hreads.suffix.trans ((List.dropWhile_suffix _).trans hvisible)
  have hmem {d : Char} (hd : d ∈ behind) : isLayout d = false ∧ startsTail d = false := by
    obtain hd | hd := List.mem_append.1 (hbehind.subset hd)
    · obtain ⟨hd, hlayout⟩ := List.mem_filter.1 hd
      refine ⟨by simpa using hlayout, hmarks d ?_⟩
      rw [htext]
      exact List.mem_append_left _ (hkept.subset hd)
    · obtain rfl := List.mem_singleton.1 hd
      exact ⟨hcLayout, hmarks d (htext ▸ by simp)⟩
  have hmarks' : ∀ d ∈ behind ++ ['/'], startsTail d = false := by
    intro d hd
    obtain hd | hd := List.mem_append.1 hd
    · exact (hmem hd).2
    · obtain rfl := List.mem_singleton.1 hd
      decide
  refine ⟨a, behind, ?_, ?_, fun d hd => (hmem hd).1, fun d hd => ?_⟩
  · rw [withPath_of_no_mark (fun d hd => (hmem hd).2), hs] at hu
    exact hu
  · rw [parse_append_slash hcut hs hreads (htrimSlash.trans (htrim ▸ rfl)),
      withPath_of_no_mark hmarks', hs]
  · obtain ⟨front, hfront⟩ := hbehind
    have hend : (front ++ behind).getLast? = some c := by rw [hfront]; simp
    rw [List.getLast?_append, hd] at hend
    exact Option.some.inj hend

end Addresses

end ParseLens.Url
