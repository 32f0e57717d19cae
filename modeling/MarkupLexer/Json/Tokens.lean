import MarkupLexer.Json.Skip
import MarkupLexer.Token

/-!
# Token lists as JSON

A token list is written as an array of objects, indented by two spaces, with the kind and the value
of each token; spans are left out. Reading takes any layout and any order of keys, leaves unknown
keys out, and knows two more forms: an array of kind and value for a token, and an object with the
kind as its only key for a kind.
-/

namespace MarkupLexer.Json

/-! ### Writing -/

def tokenObject (t : Token) : String :=
  "  \x7b\n    \"type\": " ++ encode t.kind.name ++ ",\n    \"value\": " ++ encode t.value ++
    "\n  \x7d"

/-- A token list as JSON. -/
def ofTokens (tokens : List Token) : String :=
  if tokens.isEmpty then "[]"
  else "[\n" ++ String.intercalate ",\n" (tokens.map tokenObject) ++ "\n]"

/-! ### Reading -/

/-- What follows `null`, after blanks. -/
def readNull (s : List Char) : Option (List Char) :=
  match skipBlanks s with
  | 'n' :: 'u' :: 'l' :: 'l' :: r => some r
  | _ => none

/-- A kind: its name, or an object with its name as the only key and nothing for a value. -/
def readKind (s : List Char) : Option (Kind × List Char) :=
  match readSign '\x7b' s with
  | none => do
    let (name, r) ← readString s
    return (← Kind.ofName? name, r)
  | some r => do
    let (name, r) ← readString r
    let kind ← Kind.ofName? name
    let r ← readSign ':' r
    let r ← readNull r
    return (kind, ← readSign '\x7d' r)

/-- A member of the object of a token. -/
inductive Field where
  | kind (kind : Kind)
  | value (value : String)
  | unknown
  deriving DecidableEq, Repr

def Field.kind? : Field → Option Kind
  | kind k => some k
  | _ => none

def Field.value? : Field → Option String
  | value v => some v
  | _ => none

def readField (s : List Char) : Option (Field × List Char) := do
  let (key, r) ← readString s
  let r ← readSign ':' r
  if key = "type" then
    let (kind, r) ← readKind r
    return (.kind kind, r)
  else if key = "value" then
    let (value, r) ← readString r
    return (.value value, r)
  else
    return (.unknown, ← skipValue r)

/-- The token of an object's members: there must be one kind and one value. -/
def tokenOf? (fields : List Field) : Option Token :=
  match fields.filterMap Field.kind?, fields.filterMap Field.value? with
  | [kind], [value] => some { kind, value }
  | _, _ => none

def readToken (s : List Char) : Option (Token × List Char) :=
  match readSign '\x7b' s with
  | some r => do
    let (fields, r) ← readSeparated readField '\x7d' r
    return (← tokenOf? fields, r)
  | none => do
    let r ← readSign '[' s
    let (kind, r) ← readKind r
    let r ← readSign ',' r
    let (value, r) ← readString r
    return ({ kind, value }, ← readSign ']' r)

/-- The token list that a text is, with nothing but blanks around it. Every span is empty. -/
def readTokens? (s : String) : Option (List Token) := do
  let r ← readSign '[' s.toList
  let (tokens, r) ← readSeparated readToken ']' r
  if (skipBlanks r).isEmpty then some tokens else none

example :
    readTokens? "[\x7b\"a\": [1, \"\\ud800\"], \"value\": \"\\u003c\", \"type\": \"TagOpen\"\x7d]" =
      some [⟨.tagOpen, "<", {}⟩] := by
  decide +kernel

end MarkupLexer.Json
