import MarkupLexer.Document
import MarkupLexer.State

/-!
# Remainders

What an input that stops in a state has after its last complete token: the part of a token that is
not complete, with the separator or delimiter before it.
-/

namespace MarkupLexer

/-- The shape of what stands after the last complete token in a state. -/
def State.Remainder (r : List Char) : State → Prop
  | start | afterOpen | awaitingAttributeValue | afterAttributeValue | afterTagClose => r = []
  | inIdentifier => r ≠ [] ∧ ∀ c ∈ r, NameChar c
  | awaitingAttribute => r = [' ']
  | inAttributeName => ∃ name, r = ' ' :: name ∧ name ≠ [] ∧ ∀ c ∈ name, NameChar c
  | inStringValue => ∃ value, r = '"' :: value ∧ ∀ c ∈ value, NameChar c
  | inExpressionValue => ∃ value, r = '\x7b' :: value ∧ ∀ c ∈ value, NameChar c
  | inText => r ≠ [] ∧ '<' ∉ r

end MarkupLexer
