/-!
# Kinds of token

The eight kinds, their names, what surrounds their values in markup, and the reading of a name:
exact, or equal to a kind's name up to the case of ASCII letters. No two names are equal up to case,
so the order in which the kinds are searched is immaterial.
-/

namespace MarkupLexer

/-- What a token is a piece of. -/
inductive Kind where
  /-- The character `<`. -/
  | tagOpen
  /-- The character `>`. -/
  | tagClose
  /-- The character `/`. -/
  | slash
  /-- The name of a tag. -/
  | identifier
  | attributeName
  /-- An attribute value between double quotes. -/
  | attributeStringValue
  /-- An attribute value between braces. -/
  | attributeExpressionValue
  /-- A run of characters between two tags. -/
  | text
  deriving DecidableEq, Repr

namespace Kind

/-- Every kind, in the order in which they are listed. -/
def all : List Kind :=
  [tagOpen, tagClose, slash, identifier, attributeName, attributeStringValue,
    attributeExpressionValue, text]

def name : Kind → String
  | tagOpen => "TagOpen"
  | tagClose => "TagClose"
  | slash => "Slash"
  | identifier => "Identifier"
  | attributeName => "AttributeName"
  | attributeStringValue => "AttributeStringValue"
  | attributeExpressionValue => "AttributeExpressionValue"
  | text => "Text"

/-- The kind of exactly that name. -/
def ofName? (s : String) : Option Kind := all.find? (·.name == s)

theorem ofName?_name (k : Kind) : ofName? k.name = some k := by
  cases k <;> decide

/-- Whether a value of the kind is collected character by character. The value of any other kind is
    one character. -/
def isAccumulated : Kind → Bool
  | tagOpen | tagClose | slash => false
  | identifier | attributeName | attributeStringValue | attributeExpressionValue | text => true

/-- What stands in markup before a value of the kind. -/
def opening : Kind → String
  | tagOpen | tagClose | slash | identifier | text => ""
  | attributeName => " "
  | attributeStringValue => "\""
  | attributeExpressionValue => "\x7b"

/-- What stands in markup after a value of the kind. -/
def closing : Kind → String
  | tagOpen | tagClose | slash | identifier | text => ""
  | attributeName => "="
  | attributeStringValue => "\""
  | attributeExpressionValue => "\x7d"

/-- Equality up to the case of ASCII letters; all other characters must be the same. -/
def sameUpToCase (s t : String) : Bool :=
  s.toList.map Char.toLower == t.toList.map Char.toLower

/-- The kind of that name among `kinds`: the first with exactly that name, otherwise the first whose
    name is the same up to case. -/
def lookup (kinds : List Kind) (s : String) : Option Kind :=
  (kinds.find? (·.name == s)).or (kinds.find? (sameUpToCase ·.name s))

/-- A text that names no kind. -/
structure Unknown where
  name : String
  deriving DecidableEq, Repr

def Unknown.message (u : Unknown) : String :=
  "unknown token kind `" ++ u.name ++ "`"

/-- The kind that a text names. -/
def parse (s : String) : Except Unknown Kind :=
  match lookup all s with
  | some k => .ok k
  | none => .error ⟨s⟩

end Kind
end MarkupLexer
