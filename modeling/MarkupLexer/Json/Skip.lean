import MarkupLexer.Json.Strings

/-!
# Skipping a JSON value

What follows a value that is not needed. It must be a value all the same, nested to any depth.
-/

namespace MarkupLexer.Json

def skipDigits (s : List Char) : List Char := s.dropWhile Char.isDigit

theorem length_skipDigits_le (s : List Char) : (skipDigits s).length ≤ s.length :=
  (List.dropWhile_sublist Char.isDigit).length_le

/-- One digit at least. -/
def skipNumeral : List Char → Option (List Char)
  | c :: r => if c.isDigit then some (skipDigits r) else none
  | [] => none

theorem length_skipNumeral {s r : List Char} (h : skipNumeral s = some r) :
    r.length < s.length := by
  cases s with
  | nil => simp [skipNumeral] at h
  | cons c t =>
    have := length_skipDigits_le t
    simp only [skipNumeral, Option.ite_none_right_eq_some, Option.some.injEq] at h
    simp only [List.length_cons, ← h.2]
    omega

/-- The exponent of a number, if there is one. -/
def skipExponent : List Char → Option (List Char)
  | c :: r =>
    if c = 'e' ∨ c = 'E' then
      match r with
      | '+' :: t | '-' :: t => skipNumeral t
      | t => skipNumeral t
    else some (c :: r)
  | [] => some []

theorem length_skipExponent_le {s r : List Char} (h : skipExponent s = some r) :
    r.length ≤ s.length := by
  unfold skipExponent at h
  grind [→ length_skipNumeral]

/-- The fraction and the exponent of a number, if there are any. -/
def skipFraction : List Char → Option (List Char)
  | '.' :: r => (skipNumeral r).bind skipExponent
  | s => skipExponent s

theorem length_skipFraction_le {s r : List Char} (h : skipFraction s = some r) :
    r.length ≤ s.length := by
  unfold skipFraction at h
  grind [Option.bind_eq_some_iff, → length_skipNumeral, → length_skipExponent_le]

/-- A number without a sign; a zero in front stands alone. -/
def skipNumber : List Char → Option (List Char)
  | '0' :: r => if r.head?.any Char.isDigit then none else skipFraction r
  | s => (skipNumeral s).bind skipFraction

/-- A value other than an array or an object. -/
def skipScalar : List Char → Option (List Char)
  | '"' :: r => skipText r
  | 'n' :: 'u' :: 'l' :: 'l' :: r => some r
  | 't' :: 'r' :: 'u' :: 'e' :: r => some r
  | 'f' :: 'a' :: 'l' :: 's' :: 'e' :: r => some r
  | '-' :: r => skipNumber r
  | s => skipNumber s

theorem length_skipNumber {s r : List Char} (h : skipNumber s = some r) : r.length < s.length := by
  unfold skipNumber at h
  grind [Option.bind_eq_some_iff, → length_skipNumeral, → length_skipFraction_le]

theorem length_skipScalar {s r : List Char} (h : skipScalar s = some r) : r.length < s.length := by
  unfold skipScalar at h
  grind [→ length_skipNumber, → length_skipText]

/-- A key of an object and the colon after it. -/
def skipKey (s : List Char) : Option (List Char) :=
  match skipBlanks s with
  | '"' :: r => (skipText r).bind (readSign ':')
  | _ => none

theorem length_readSign {c : Char} {s r : List Char} (h : readSign c s = some r) :
    r.length < s.length := by
  have := length_skipBlanks_le s
  unfold readSign at h
  grind

theorem length_skipKey {s r : List Char} (h : skipKey s = some r) : r.length < s.length := by
  have := length_skipBlanks_le s
  unfold skipKey at h
  grind [Option.bind_eq_some_iff, → length_skipText, → length_readSign]

/-- What is open around a value. -/
inductive Bracket where
  | array
  | object
  deriving DecidableEq, Repr

def Bracket.close : Bracket → Char
  | array => ']'
  | object => '\x7d'

mutual

/-- What follows a value and the rest of the brackets `around` it, the innermost first. -/
def skipValueIn (around : List Bracket) (s : List Char) : Option (List Char) :=
  match _ : skipBlanks s with
  | '[' :: r =>
    match _ : readSign ']' r with
    | some rest => skipRestOf around rest
    | none => skipValueIn (.array :: around) r
  | '\x7b' :: r =>
    match _ : readSign '\x7d' r with
    | some rest => skipRestOf around rest
    | none =>
      match _ : skipKey r with
      | some rest => skipValueIn (.object :: around) rest
      | none => none
  | r =>
    match _ : skipScalar r with
    | some rest => skipRestOf around rest
    | none => none
termination_by s.length
decreasing_by all_goals
  have := length_skipBlanks_le s
  grind [→ length_readSign, → length_skipKey, → length_skipScalar]

/-- What follows the brackets around a value that has been skipped. -/
def skipRestOf (around : List Bracket) (s : List Char) : Option (List Char) :=
  match around with
  | [] => some s
  | bracket :: outer =>
    match _ : skipBlanks s with
    | ',' :: r =>
      match bracket with
      | .array => skipValueIn around r
      | .object =>
        match _ : skipKey r with
        | some rest => skipValueIn around rest
        | none => none
    | c :: r => if c = bracket.close then skipRestOf outer r else none
    | [] => none
termination_by s.length
decreasing_by all_goals
  have := length_skipBlanks_le s
  grind [→ length_readSign, → length_skipKey, → length_skipScalar]

end

/-- What follows a value. -/
def skipValue (s : List Char) : Option (List Char) := skipValueIn [] s

end MarkupLexer.Json
