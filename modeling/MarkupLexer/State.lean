/-!
# States

Where in a construct the lexer is between two characters.
-/

namespace MarkupLexer

inductive State where
  | start
  | afterOpen
  | inIdentifier
  | awaitingAttribute
  | inAttributeName
  | awaitingAttributeValue
  | inStringValue
  | inExpressionValue
  | afterAttributeValue
  | afterTagClose
  | inText
  deriving DecidableEq, Repr

namespace State

/-- Every state, in the order in which they are listed. -/
def all : List State :=
  [start, afterOpen, inIdentifier, awaitingAttribute, inAttributeName, awaitingAttributeValue,
    inStringValue, inExpressionValue, afterAttributeValue, afterTagClose, inText]

def name : State → String
  | start => "Start"
  | afterOpen => "AfterOpen"
  | inIdentifier => "InIdentifier"
  | awaitingAttribute => "AwaitingAttribute"
  | inAttributeName => "InAttributeName"
  | awaitingAttributeValue => "AwaitingAttributeValue"
  | inStringValue => "InStringValue"
  | inExpressionValue => "InExpressionValue"
  | afterAttributeValue => "AfterAttributeValue"
  | afterTagClose => "AfterTagClose"
  | inText => "InText"

/-- What the lexer is doing in a state, to follow the word "while". -/
def describe : State → String
  | start => "waiting for the first `<`"
  | afterOpen => "expecting a tag name after `<`"
  | inIdentifier => "reading a tag name"
  | awaitingAttribute => "expecting an attribute name"
  | inAttributeName => "reading an attribute name"
  | awaitingAttributeValue => "expecting an attribute value after `=`"
  | inStringValue => "inside a quoted attribute value"
  | inExpressionValue => "inside a `\x7b...\x7d` attribute value"
  | afterAttributeValue => "expecting a space or `>` after an attribute value"
  | afterTagClose => "after `>`"
  | inText => "reading text"

end State
end MarkupLexer
