import MarkupLexer.Token

/-!
# Documents

The language as data. A document is a list of segments, each of them a tag and the text after it;
`markup` writes a document down and `contents` lists its tokens apart from their places. Which
documents the language has is said without the automaton: `Document.WellFormed`.
-/

namespace MarkupLexer

/-- The characters of names and attribute values. -/
def NameChar (c : Char) : Prop := ('a' ≤ c ∧ c ≤ 'z') ∨ ('0' ≤ c ∧ c ≤ '9')

instance (c : Char) : Decidable (NameChar c) := inferInstanceAs (Decidable (_ ∨ _))

/-- A name, or an attribute value that is not empty. -/
def IsName (s : String) : Prop := s ≠ "" ∧ ∀ c ∈ s.toList, NameChar c

instance (s : String) : Decidable (IsName s) := inferInstanceAs (Decidable (_ ∧ _))

/-! ### Attributes -/

/-- What an attribute value stands between. -/
inductive Enclosure where
  | quotes
  | braces
  deriving DecidableEq, Repr

/-- The kind of the values in an enclosure. -/
def Enclosure.kind : Enclosure → Kind
  | quotes => .attributeStringValue
  | braces => .attributeExpressionValue

/-- A value in its enclosure. -/
def Enclosure.around (value : String) : Enclosure → String
  | quotes => "\"" ++ value ++ "\""
  | braces => "\x7b" ++ value ++ "\x7d"

structure Attribute where
  name : String
  enclosure : Enclosure
  value : String
  deriving DecidableEq, Repr

namespace Attribute

structure WellFormed (a : Attribute) : Prop where
  name : IsName a.name
  value : ∀ c ∈ a.value.toList, NameChar c

def markup (a : Attribute) : String := " " ++ a.name ++ "=" ++ a.enclosure.around a.value

def contents (a : Attribute) : List (Kind × String) :=
  [(.attributeName, a.name), (a.enclosure.kind, a.value)]

end Attribute

/-! ### Segments -/

/-- A tag and the text after it. -/
structure Segment where
  /-- The number of slashes before the name. -/
  slashes : Nat := 0
  name : String
  attributes : List Attribute := []
  /-- The text up to the next tag or the end. -/
  text : String := ""
  deriving DecidableEq, Repr

namespace Segment

structure WellFormed (s : Segment) : Prop where
  name : IsName s.name
  attributes : ∀ a ∈ s.attributes, a.WellFormed
  text : '<' ∉ s.text.toList

def markup (s : Segment) : String :=
  "<" ++ String.ofList (List.replicate s.slashes '/') ++ s.name ++
    String.join (s.attributes.map (·.markup)) ++ ">" ++ s.text

/-- A text is a token unless it is empty. -/
def contents (s : Segment) : List (Kind × String) :=
  (.tagOpen, "<") :: (List.replicate s.slashes (.slash, "/") ++ (.identifier, s.name) ::
    (s.attributes.flatMap (·.contents) ++ (.tagClose, ">") ::
      if s.text = "" then [] else [(.text, s.text)]))

end Segment

/-! ### Documents -/

abbrev Document := List Segment

namespace Document

structure WellFormed (d : Document) : Prop where
  nonempty : d ≠ []
  segments : ∀ s ∈ d, s.WellFormed

def markup (d : Document) : String := String.join (d.map (·.markup))

def contents (d : Document) : List (Kind × String) := d.flatMap (·.contents)

/-- Whether text stands after the last tag. -/
def endsInText (d : Document) : Bool := d.getLast?.any (·.text ≠ "")

end Document

example :
    Document.markup [{ name := "a", attributes := [⟨"b", .quotes, "c"⟩], text := "d" },
      { slashes := 1, name := "a" }] = "<a b=\"c\">d</a>" := by
  decide

end MarkupLexer
