import ParseLens.Json.Reader

set_option autoImplicit false

/-!
# JSON: reading numbers

A number is read in two steps.  The first collects its digits: a significand that fits 64 bits, and
a power of ten.  Digits that the significand has no room for are dropped; those in front of the
point then count in the power of ten.  The second step turns an integer that was collected whole
and fits 64 bits with its sign into that integer, and everything else into a floating point
number, by one rounded multiplication or division with a power of ten.

`-0` has a sign to keep and is a floating point number.
-/

namespace ParseLens.Json

open Decimal (Magnitude)

/-! ## Collecting digits -/

/-- Append decimal digits to a significand as long as it stays below `2 ^ 64`; the second part of
the answer counts the digits that were left out. -/
def appendDigits (significand : Nat) : List Char → Nat × Nat
  | [] => (significand, 0)
  | c :: cs =>
    let next := significand * 10 + (c.toNat - '0'.toNat)
    if next < UInt64.size then appendDigits next cs else (significand, cs.length + 1)

/-- The value of the digits of an exponent, or, where it exceeds 31 bits, the digits behind the
first one that makes it so. -/
def exponentValue (value : Nat) : List Char → Except (List Char) Nat
  | [] => .ok value
  | c :: cs =>
    let next := value * 10 + (c.toNat - '0'.toNat)
    if next < Nat.pow 2 31 then exponentValue next cs else .error cs

/-! ## Powers of ten -/

/-- Multiply by a power of ten, or divide by one, rounding once; powers beyond `10 ^ 308` are
divided off in several steps.  None where the result is beyond the largest finite magnitude. -/
def scale? (x : Magnitude) (exponent : Int) : Option Magnitude :=
  if _h : exponent.natAbs ≤ 308 then
    let power := Magnitude.ofNat (Nat.pow 10 exponent.natAbs)
    if 0 ≤ exponent then x.mul? power else some (x.div power)
  else if x.significand = 0 then some x
  else if 0 ≤ exponent then none
  else scale? (x.div (Magnitude.ofNat (Nat.pow 10 308))) (exponent + 308)
termination_by exponent.natAbs
decreasing_by omega

/-- The floating point number with the given sign, significand and power of ten. -/
def realOf (negative : Bool) (significand : Nat) (exponent : Int) (rest : List Char) :
    Outcome Number :=
  match scale? (Magnitude.ofNat significand) exponent with
  | some x => .ok (.real negative x, rest)
  | none => .error ⟨.numberOutOfRange, rest, 0⟩

/-! ## The parts of a number -/

/-- Split off the digits at the front. -/
def spanDigits (s : List Char) : List Char × List Char :=
  (s.takeWhile Char.isDigit, s.dropWhile Char.isDigit)

/-- Read the digits in front of the point: a single zero, or digits that start with another
one. -/
def readWhole : List Char → Outcome (List Char)
  | [] => .error ⟨.endInValue, [], 0⟩
  | '0' :: rest =>
    match rest with
    | c :: _ => if c.isDigit then .error ⟨.invalidNumber, rest, 1⟩ else .ok (['0'], rest)
    | [] => .ok (['0'], [])
  | c :: rest =>
    if c.isDigit then .ok (spanDigits (c :: rest))
    else .error ⟨.invalidNumber, c :: rest, 1⟩

/-- Read the digits behind the point, which has been read. -/
def readFraction (s : List Char) : Outcome (List Char) :=
  match spanDigits s with
  | ([], []) => .error ⟨.endInValue, [], 0⟩
  | ([], rest) => .error ⟨.invalidNumber, rest, 1⟩
  | (digits, rest) => .ok (digits, rest)

/-- Split off a sign at the front, and say whether it is a minus. -/
def splitSign : List Char → Bool × List Char
  | '+' :: s => (false, s)
  | '-' :: s => (true, s)
  | s => (false, s)

/-- Read the sign and the digits of an exponent whose letter has been read; the first part of the
answer says whether it is negative. -/
def readExponent (s : List Char) : Outcome (Bool × List Char) :=
  match splitSign s with
  | (_, []) => .error ⟨.endInValue, [], 0⟩
  | (negative, c :: t) =>
    if c.isDigit then .ok ((negative, (spanDigits (c :: t)).1), (spanDigits (c :: t)).2)
    else .error ⟨.invalidNumber, c :: t, 1⟩

/-! ## Numbers -/

/-- Finish a number that has a point or an exponent, or whose digits are too many: `exponent` is
the power of ten so far, and `s` the text behind the digits. -/
def finishReal (negative : Bool) (significand : Nat) (exponent : Int) (s : List Char) :
    Outcome Number :=
  match s with
  | c :: t =>
    if c = 'e' ∨ c = 'E' then
      match readExponent t with
      | .error e => .error e
      | .ok ((down, digits), rest) =>
        match exponentValue 0 digits with
        | .ok n => realOf negative significand (if down then exponent - n else exponent + n) rest
        | .error left =>
          if significand ≠ 0 ∧ down = false then .error ⟨.numberOutOfRange, left ++ rest, 0⟩
          else .ok (.real negative .zero, rest)
    else realOf negative significand exponent s
  | [] => realOf negative significand exponent []

/-- Read a number whose sign has been read. -/
def readUnsigned (negative : Bool) (s : List Char) : Outcome Number :=
  match readWhole s with
  | .error e => .error e
  | .ok (whole, rest) =>
    let (significand, dropped) := appendDigits 0 whole
    match rest with
    | '.' :: t =>
      match readFraction t with
      | .error e => .error e
      | .ok (digits, rest) =>
        let (significand, left) := appendDigits significand digits
        finishReal negative significand ((dropped : Int) - (digits.length - left : Nat)) rest
    | 'e' :: _ | 'E' :: _ => finishReal negative significand dropped rest
    | _ =>
      if dropped ≠ 0 then finishReal negative significand dropped rest
      else if negative = false then .ok (.int significand, rest)
      else if 0 < significand ∧ significand ≤ Nat.pow 2 63 then .ok (.int (-significand), rest)
      else .ok (.real true (Magnitude.ofNat significand), rest)

/-- Read a number. -/
def readNumber : List Char → Outcome Number
  | '-' :: s => readUnsigned true s
  | s => readUnsigned false s

/-! ## Numbers take at least one character -/

theorem length_spanDigits_snd_le (s : List Char) : (spanDigits s).2.length ≤ s.length :=
  (List.dropWhile_sublist _).length_le

theorem length_splitSign_snd_le (s : List Char) : (splitSign s).2.length ≤ s.length := by
  unfold splitSign
  split <;> simp

theorem spanDigits_cons_shorter {c : Char} (h : c.isDigit = true) (s : List Char) :
    (spanDigits (c :: s)).2.length < (c :: s).length := by
  have := length_spanDigits_snd_le s
  simp only [spanDigits, List.dropWhile_cons, h, if_true, List.length_cons] at *
  omega

theorem readWhole_shorter {s ds rest : List Char} (h : readWhole s = .ok (ds, rest)) :
    rest.length < s.length := by
  unfold readWhole at h
  split at h
  · simp at h
  · split at h
    · split at h
      · simp at h
      · simp only [Except.ok.injEq, Prod.mk.injEq] at h
        simp [← h.2]
    · simp only [Except.ok.injEq, Prod.mk.injEq] at h
      simp [← h.2]
  · split at h
    · rename_i hd
      simp only [Except.ok.injEq] at h
      have := spanDigits_cons_shorter hd
      rw [← (Prod.mk.inj h).2]
      exact this _
    · simp at h

theorem readFraction_le {s ds rest : List Char} (h : readFraction s = .ok (ds, rest)) :
    rest.length ≤ s.length := by
  unfold readFraction at h
  have hl := length_spanDigits_snd_le s
  split at h
  · simp at h
  · simp at h
  · rename_i hs
    simp only [Except.ok.injEq, Prod.mk.injEq] at h
    rw [hs] at hl
    rw [← h.2]
    exact hl

theorem readExponent_le {s rest : List Char} {x : Bool × List Char}
    (h : readExponent s = .ok (x, rest)) : rest.length ≤ s.length := by
  have hs := length_splitSign_snd_le s
  unfold readExponent at h
  split at h
  · simp at h
  · rename_i he
    rw [he] at hs
    split at h
    · rename_i hd
      simp only [Except.ok.injEq, Prod.mk.injEq] at h
      rw [← h.2]
      exact Nat.le_trans (Nat.le_of_lt (spanDigits_cons_shorter hd _)) hs
    · simp at h

theorem realOf_le {negative : Bool} {n : Nat} {e : Int} {s rest : List Char} {x : Number}
    (h : realOf negative n e s = .ok (x, rest)) : rest.length ≤ s.length := by
  unfold realOf at h
  split at h
  · simp only [Except.ok.injEq, Prod.mk.injEq] at h
    simp [h.2]
  · simp at h

theorem finishReal_le {negative : Bool} {n : Nat} {e : Int} {s rest : List Char} {x : Number}
    (h : finishReal negative n e s = .ok (x, rest)) : rest.length ≤ s.length := by
  unfold finishReal at h
  split at h
  · split at h
    · split at h
      · simp at h
      · rename_i hx
        have hl := readExponent_le hx
        split at h
        · have := realOf_le h
          simp only [List.length_cons]
          omega
        · split at h
          · simp at h
          · simp only [Except.ok.injEq, Prod.mk.injEq] at h
            rw [← h.2]
            simp only [List.length_cons]
            omega
    · exact realOf_le h
  · exact realOf_le h

theorem readUnsigned_shorter {negative : Bool} {s rest : List Char} {x : Number}
    (h : readUnsigned negative s = .ok (x, rest)) : rest.length < s.length := by
  unfold readUnsigned at h
  split at h
  · simp at h
  · rename_i whole r hw
    have hs := readWhole_shorter hw
    refine Nat.lt_of_le_of_lt ?_ hs
    simp only at h
    split at h
    · split at h
      · simp at h
      · rename_i hf
        have h1 := readFraction_le hf
        have h2 := finishReal_le h
        simp only [List.length_cons]
        omega
    · exact finishReal_le h
    · exact finishReal_le h
    · split at h
      · exact finishReal_le h
      · split at h
        · simp only [Except.ok.injEq, Prod.mk.injEq] at h
          simp [h.2]
        · split at h
          all_goals
            simp only [Except.ok.injEq, Prod.mk.injEq] at h
            simp [h.2]

theorem readNumber_shorter {s rest : List Char} {x : Number} (h : readNumber s = .ok (x, rest)) :
    rest.length < s.length := by
  unfold readNumber at h
  split at h
  · exact Nat.lt_succ_of_lt (readUnsigned_shorter h)
  · exact readUnsigned_shorter h

/-! ## Numbers that are passed over

Where a number is not wanted only its form is checked, and a number that is not finished is
invalid also at the end of the text. -/

/-- Pass over an exponent whose letter has been read. -/
def passExponent (s : List Char) : Except Fault (List Char) :=
  match (splitSign s).2 with
  | [] => .error ⟨.invalidNumber, [], 0⟩
  | c :: t =>
    if c.isDigit then .ok (spanDigits (c :: t)).2 else .error ⟨.invalidNumber, c :: t, 1⟩

/-- Pass over what follows the digits in front of the point. -/
def passFraction : List Char → Except Fault (List Char)
  | '.' :: s =>
    match spanDigits s with
    | ([], rest) => .error ⟨.invalidNumber, rest, 1⟩
    | (_, 'e' :: rest) => passExponent rest
    | (_, 'E' :: rest) => passExponent rest
    | (_, rest) => .ok rest
  | 'e' :: s => passExponent s
  | 'E' :: s => passExponent s
  | s => .ok s

/-- Pass over a number whose sign has been passed over. -/
def passUnsigned : List Char → Except Fault (List Char)
  | [] => .error ⟨.invalidNumber, [], 0⟩
  | '0' :: rest =>
    match rest with
    | c :: _ => if c.isDigit then .error ⟨.invalidNumber, rest, 1⟩ else passFraction rest
    | [] => .ok []
  | c :: rest =>
    if c.isDigit then passFraction (spanDigits (c :: rest)).2
    else .error ⟨.invalidNumber, c :: rest, 1⟩

/-- Pass over a number. -/
def passNumber : List Char → Except Fault (List Char)
  | '-' :: s => passUnsigned s
  | s => passUnsigned s

theorem passExponent_le {s rest : List Char} (h : passExponent s = .ok rest) :
    rest.length ≤ s.length := by
  have hs := length_splitSign_snd_le s
  unfold passExponent at h
  split at h
  · simp at h
  · rename_i he
    rw [he] at hs
    split at h
    · rename_i hd
      simp only [Except.ok.injEq] at h
      rw [← h]
      exact Nat.le_trans (Nat.le_of_lt (spanDigits_cons_shorter hd _)) hs
    · simp at h

theorem passFraction_le {s rest : List Char} (h : passFraction s = .ok rest) :
    rest.length ≤ s.length := by
  unfold passFraction at h
  split at h
  · rename_i t
    have hl := length_spanDigits_snd_le t
    split at h
    · simp at h
    · rename_i hs
      have := passExponent_le h
      rw [hs] at hl
      simp only [List.length_cons] at *
      omega
    · rename_i hs
      have := passExponent_le h
      rw [hs] at hl
      simp only [List.length_cons] at *
      omega
    · rename_i hs
      rw [hs] at hl
      simp only [Except.ok.injEq] at h
      rw [← h]
      exact Nat.le_succ_of_le hl
  · exact Nat.le_succ_of_le (passExponent_le h)
  · exact Nat.le_succ_of_le (passExponent_le h)
  · simp only [Except.ok.injEq] at h
    simp [h]

theorem passUnsigned_shorter {s rest : List Char} (h : passUnsigned s = .ok rest) :
    rest.length < s.length := by
  unfold passUnsigned at h
  split at h
  · simp at h
  · split at h
    · split at h
      · simp at h
      · exact Nat.lt_succ_of_le (passFraction_le h)
    · simp only [Except.ok.injEq] at h
      simp [← h]
  · split at h
    · rename_i hd
      exact Nat.lt_of_le_of_lt (passFraction_le h) (spanDigits_cons_shorter hd _)
    · simp at h

theorem passNumber_shorter {s rest : List Char} (h : passNumber s = .ok rest) :
    rest.length < s.length := by
  unfold passNumber at h
  split at h
  · exact Nat.lt_succ_of_lt (passUnsigned_shorter h)
  · exact passUnsigned_shorter h

end ParseLens.Json
