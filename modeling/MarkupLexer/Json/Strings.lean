/-!
# JSON strings

Writing a text as a JSON string and reading it back. Reading is strict: no control characters as
they are, no unknown escapes, and the number of a surrogate only in a pair.
-/

namespace MarkupLexer.Json

/-- How a character is written in a string. -/
def escape (c : Char) : List Char :=
  if c = '"' then ['\\', '"']
  else if c = '\\' then ['\\', '\\']
  else if c = '\x08' then ['\\', 'b']
  else if c = '\x0c' then ['\\', 'f']
  else if c = '\n' then ['\\', 'n']
  else if c = '\r' then ['\\', 'r']
  else if c = '\t' then ['\\', 't']
  else if c.toNat < 0x20 then
    ['\\', 'u', '0', '0', Nat.digitChar (c.toNat / 16), Nat.digitChar (c.toNat % 16)]
  else [c]

/-- A text as a JSON string. -/
def encode (s : String) : String := String.ofList ('"' :: (s.toList.flatMap escape ++ ['"']))

/-- The character of an escape by one letter or sign. -/
def shortEscape? : Char → Option Char
  | '"' => some '"'
  | '\\' => some '\\'
  | '/' => some '/'
  | 'b' => some '\x08'
  | 'f' => some '\x0c'
  | 'n' => some '\n'
  | 'r' => some '\r'
  | 't' => some '\t'
  | _ => none

def hexDigit? (c : Char) : Option Nat :=
  if c.isDigit then some (c.toNat - '0'.toNat)
  else if 'a' ≤ c ∧ c ≤ 'f' then some (c.toNat - 'a'.toNat + 10)
  else if 'A' ≤ c ∧ c ≤ 'F' then some (c.toNat - 'A'.toNat + 10)
  else none

/-- The number of four hexadecimal digits. -/
def hexNumber? (a b c d : Char) : Option Nat := do
  return ((← hexDigit? a) * 16 + (← hexDigit? b)) * 256 + (← hexDigit? c) * 16 + (← hexDigit? d)

def isHighSurrogate (n : Nat) : Bool := 0xD800 ≤ n && n < 0xDC00

def isLowSurrogate (n : Nat) : Bool := 0xDC00 ≤ n && n < 0xE000

/-- The character of a pair of surrogates. -/
def pairedChar (high low : Nat) : Char :=
  Char.ofNat (0x10000 + (high - 0xD800) * 0x400 + (low - 0xDC00))

/-- One more character in front of what was read. -/
def withChar (c : Char) (read : Option (List Char × List Char)) : Option (List Char × List Char) :=
  read.map fun (text, rest) => (c :: text, rest)

/-- The text up to the closing quote, and what follows the quote. -/
def readText : List Char → Option (List Char × List Char)
  | [] => none
  | '"' :: r => some ([], r)
  | '\\' :: 'u' :: a :: b :: c :: d :: r =>
    match hexNumber? a b c d with
    | none => none
    | some n =>
      if isLowSurrogate n then none
      else if isHighSurrogate n then
        match r with
        | '\\' :: 'u' :: a :: b :: c :: d :: r =>
          match hexNumber? a b c d with
          | none => none
          | some low =>
            if isLowSurrogate low then withChar (pairedChar n low) (readText r) else none
        | _ => none
      else withChar (Char.ofNat n) (readText r)
  | '\\' :: e :: r =>
    match shortEscape? e with
    | none => none
    | some c => withChar c (readText r)
  | c :: r => if c.toNat < 0x20 then none else withChar c (readText r)

/-- What follows the closing quote of a text whose characters are not needed. The numbers of
    surrogates need not be in pairs here. -/
def skipText : List Char → Option (List Char)
  | [] => none
  | '"' :: r => some r
  | '\\' :: 'u' :: a :: b :: c :: d :: r =>
    match hexNumber? a b c d with
    | none => none
    | some _ => skipText r
  | '\\' :: e :: r =>
    match shortEscape? e with
    | none => none
    | some _ => skipText r
  | c :: r => if c.toNat < 0x20 then none else skipText r

theorem length_skipText {s r : List Char} (h : skipText s = some r) : r.length < s.length := by
  fun_induction skipText s <;> simp_all <;> omega

/-! ### Blanks and commas -/

def isBlank (c : Char) : Bool := c == ' ' || c == '\n' || c == '\t' || c == '\r'

def skipBlanks (s : List Char) : List Char := s.dropWhile isBlank

theorem length_skipBlanks_le (s : List Char) : (skipBlanks s).length ≤ s.length :=
  (List.dropWhile_sublist isBlank).length_le

/-- A string, after blanks. -/
def readString (s : List Char) : Option (String × List Char) :=
  match skipBlanks s with
  | '"' :: r => (readText r).map fun (text, rest) => (String.ofList text, rest)
  | _ => none

/-- What follows the character `c`, after blanks. -/
def readSign (c : Char) (s : List Char) : Option (List Char) :=
  match skipBlanks s with
  | d :: r => if d = c then some r else none
  | [] => none

/-- One or more items between commas, and what follows `close` after them. -/
def readItems {α : Type} (item : List Char → Option (α × List Char)) (close : Char)
    (s : List Char) : Option (List α × List Char) :=
  match item s with
  | none => none
  | some (a, r) =>
    if r.length < s.length then
      match _ : skipBlanks r with
      | ',' :: rest => (readItems item close rest).map fun (as, rest) => (a :: as, rest)
      | c :: rest => if c = close then some ([a], rest) else none
      | [] => none
    else none
termination_by s.length
decreasing_by
  have := length_skipBlanks_le r
  simp_all
  omega

/-- Items between commas, and what follows `close` after them. -/
def readSeparated {α : Type} (item : List Char → Option (α × List Char)) (close : Char)
    (s : List Char) : Option (List α × List Char) :=
  match readSign close s with
  | some r => some ([], r)
  | none => readItems item close s

end MarkupLexer.Json
