import MarkupLexer.Kind
import MarkupLexer.Fault

/-!
# The automaton

What one character does in one state, and what the end of the input does. Both are plain functions:
the whole lexer is a way of running them.
-/

namespace MarkupLexer

/-- What becomes of a character that is read. -/
inductive Action where
  /-- It separates, and is in no token. -/
  | skip
  /-- It is a token by itself. -/
  | emit (kind : Kind)
  /-- It is the first character of a value of that kind. -/
  | begin (kind : Kind)
  /-- It stands before a value of that kind and is not part of it. -/
  | openAfter (kind : Kind)
  /-- It is the next character of the value that is being collected. -/
  | extend
  /-- It ends the value that is being collected and is in no token. -/
  | flush
  /-- It ends the value that is being collected and is a token by itself. -/
  | flushThen (kind : Kind)
  deriving DecidableEq, Repr

def Action.describe : Action → String
  | skip => "Skip"
  | emit k => "Emit(" ++ k.name ++ ")"
  | begin k => "Begin(" ++ k.name ++ ")"
  | openAfter k => "Open(" ++ k.name ++ ")"
  | extend => "Extend"
  | flush => "Flush"
  | flushThen k => "FlushThen(" ++ k.name ++ ")"

/-- The number of tokens that an action completes, given that there is a value wherever it ends
    one. -/
def Action.completes : Action → Nat
  | skip | begin _ | openAfter _ | extend => 0
  | emit _ | flush => 1
  | flushThen _ => 2

/-- What becomes of the value that is being collected when the input ends. -/
inductive EndAction where
  /-- There is none. -/
  | done
  /-- It is the last token. -/
  | flush
  deriving DecidableEq, Repr

/-- Whether text that no tag follows is a token or a fault. -/
inductive TrailingText where
  | accept
  | reject
  deriving DecidableEq, Repr

/-- Names and attribute values are of lower-case ASCII letters and digits. -/
def isNameChar (c : Char) : Bool := c.isLower || c.isDigit

/-- One character in one state: the next state and what becomes of the character. -/
def step (s : State) (c : Char) : Except Fault (State × Action) :=
  match s with
  | .start =>
    if c = '<' then .ok (.afterOpen, .emit .tagOpen) else .error (.invalidStart (some c))
  | .afterOpen =>
    if c = '/' then .ok (.afterOpen, .emit .slash)
    else if isNameChar c then .ok (.inIdentifier, .begin .identifier)
    else .error (.invalidTagStart c)
  | .inIdentifier =>
    if c = ' ' then .ok (.awaitingAttribute, .flush)
    else if c = '>' then .ok (.afterTagClose, .flushThen .tagClose)
    else if isNameChar c then .ok (.inIdentifier, .extend)
    else .error (.invalidIdentifierChar c)
  | .awaitingAttribute =>
    if isNameChar c then .ok (.inAttributeName, .begin .attributeName)
    else .error (.invalidAttributeStart c)
  | .inAttributeName =>
    if c = '=' then .ok (.awaitingAttributeValue, .flush)
    else if isNameChar c then .ok (.inAttributeName, .extend)
    else .error (.invalidAttributeNameChar c)
  | .awaitingAttributeValue =>
    if c = '"' then .ok (.inStringValue, .openAfter .attributeStringValue)
    else if c = '\x7b' then .ok (.inExpressionValue, .openAfter .attributeExpressionValue)
    else .error (.invalidAttributeValueStart c)
  | .inStringValue =>
    if c = '"' then .ok (.afterAttributeValue, .flush)
    else if isNameChar c then .ok (.inStringValue, .extend)
    else .error (.invalidStringValueChar c)
  | .inExpressionValue =>
    if c = '\x7d' then .ok (.afterAttributeValue, .flush)
    else if isNameChar c then .ok (.inExpressionValue, .extend)
    else .error (.invalidExpressionValueChar c)
  | .afterAttributeValue =>
    if c = ' ' then .ok (.awaitingAttribute, .skip)
    else if c = '>' then .ok (.afterTagClose, .emit .tagClose)
    else .error (.invalidAfterAttributeValue c)
  | .afterTagClose =>
    if c = '<' then .ok (.afterOpen, .emit .tagOpen) else .ok (.inText, .begin .text)
  | .inText =>
    if c = '<' then .ok (.afterOpen, .flushThen .tagOpen) else .ok (.inText, .extend)

/-- The end of the input in one state. -/
def finish (trailing : TrailingText) (s : State) : Except Fault EndAction :=
  match s with
  | .start => .error (.invalidStart none)
  | .afterTagClose => .ok .done
  | .inText =>
    match trailing with
    | .accept => .ok .flush
    | .reject => .error (.truncatedInput .inText)
  | s => .error (.truncatedInput s)

/-- The state after a run of characters, when every one of them is allowed. -/
def stateAfter? : State → List Char → Option State
  | s, [] => some s
  | s, c :: cs =>
    match step s c with
    | .ok (next, _) => stateAfter? next cs
    | .error _ => none

/-- The number of tokens that a run of characters completes, up to the first fault. -/
def completed : State → List Char → Nat
  | _, [] => 0
  | s, c :: cs =>
    match step s c with
    | .ok (next, action) => action.completes + completed next cs
    | .error _ => 0

/-- The steps that a run of characters takes, up to and with the first fault. -/
def trace : State → List Char → List (Except Fault (State × Action))
  | _, [] => []
  | s, c :: cs =>
    match step s c with
    | .ok (next, action) => .ok (next, action) :: trace next cs
    | .error fault => [.error fault]

end MarkupLexer
