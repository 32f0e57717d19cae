import MarkupLexer.State
import MarkupLexer.Text.Quoted

/-!
# Faults

Why an input is refused. A fault is a character that the state does not allow, or the end of the
input in a state that does not allow it; an error is a fault with its place. The wording of all of
them is here.
-/

namespace MarkupLexer

inductive Fault where
  /-- The input does not begin with `<`; without a character, it is empty. -/
  | invalidStart (found : Option Char)
  | invalidTagStart (found : Char)
  | invalidIdentifierChar (found : Char)
  | invalidAttributeStart (found : Char)
  | invalidAttributeNameChar (found : Char)
  | invalidAttributeValueStart (found : Char)
  | invalidStringValueChar (found : Char)
  | invalidExpressionValueChar (found : Char)
  | invalidAfterAttributeValue (found : Char)
  /-- The input ends in a state in which it may not. -/
  | truncatedInput (state : State)
  deriving DecidableEq, Repr

namespace Fault

def name : Fault → String
  | invalidStart _ => "InvalidStart"
  | invalidTagStart _ => "InvalidTagStart"
  | invalidIdentifierChar _ => "InvalidIdentifierChar"
  | invalidAttributeStart _ => "InvalidAttributeStart"
  | invalidAttributeNameChar _ => "InvalidAttributeNameChar"
  | invalidAttributeValueStart _ => "InvalidAttributeValueStart"
  | invalidStringValueChar _ => "InvalidStringValueChar"
  | invalidExpressionValueChar _ => "InvalidExpressionValueChar"
  | invalidAfterAttributeValue _ => "InvalidAfterAttributeValue"
  | truncatedInput _ => "TruncatedInput"

/-- The character that is at fault; none at the end of the input. -/
def found : Fault → Option Char
  | invalidStart found => found
  | invalidTagStart found | invalidIdentifierChar found | invalidAttributeStart found
  | invalidAttributeNameChar found | invalidAttributeValueStart found
  | invalidStringValueChar found | invalidExpressionValueChar found
  | invalidAfterAttributeValue found => some found
  | truncatedInput _ => none

/-- The state that the input is in where the fault shows. -/
def state : Fault → State
  | invalidStart _ => .start
  | invalidTagStart _ => .afterOpen
  | invalidIdentifierChar _ => .inIdentifier
  | invalidAttributeStart _ => .awaitingAttribute
  | invalidAttributeNameChar _ => .inAttributeName
  | invalidAttributeValueStart _ => .awaitingAttributeValue
  | invalidStringValueChar _ => .inStringValue
  | invalidExpressionValueChar _ => .inExpressionValue
  | invalidAfterAttributeValue _ => .afterAttributeValue
  | truncatedInput s => s

def message : Fault → String
  | invalidStart (some c) => "invalid start: expected `<`, found " ++ Text.quotedChar c
  | invalidStart none => "invalid start: expected `<`, found end of input"
  | invalidTagStart c => "invalid tag start: unexpected " ++ Text.quotedChar c
  | invalidIdentifierChar c => "invalid character " ++ Text.quotedChar c ++ " in tag name"
  | invalidAttributeStart c => "invalid attribute start: unexpected " ++ Text.quotedChar c
  | invalidAttributeNameChar c =>
    "invalid character " ++ Text.quotedChar c ++ " in attribute name"
  | invalidAttributeValueStart c =>
    "invalid attribute value start: unexpected " ++ Text.quotedChar c
  | invalidStringValueChar c => "invalid character " ++ Text.quotedChar c ++ " in string value"
  | invalidExpressionValueChar c =>
    "invalid character " ++ Text.quotedChar c ++ " in expression value"
  | invalidAfterAttributeValue c =>
    "unexpected " ++ Text.quotedChar c ++ " after attribute value"
  | truncatedInput s => "truncated input in state " ++ s.name

/-- Advice on a slash where a tag cannot close itself. -/
def selfClosingTip : String :=
  "self-closing tags are not supported, write `<name></name>`"

/-- Advice on how to mend the input, where there is any. -/
def tip : Fault → Option String
  | invalidStart none => some "input is empty, expected a tag like `<div>`"
  | invalidStart (some _) => some "input must begin with `<`"
  | invalidTagStart _ => some "a tag name or `/` must directly follow `<`"
  | invalidIdentifierChar '/' | invalidAttributeStart '/' | invalidAfterAttributeValue '/' =>
    some selfClosingTip
  | invalidIdentifierChar _ | invalidAttributeNameChar _ =>
    some "names may only contain ASCII letters and digits"
  | invalidAttributeStart ' ' => some "attributes are separated by exactly one space"
  | invalidAttributeStart _ => none
  | invalidAttributeValueStart _ => some "attribute values start with `\"` or `\x7b`"
  | invalidStringValueChar _ => some "string values may only contain ASCII letters and digits"
  | invalidExpressionValueChar _ =>
    some ("expression values may only contain ASCII letters and digits, " ++
      "nesting is not supported")
  | invalidAfterAttributeValue _ => some "expected a space or `>` after an attribute value"
  | truncatedInput s => some ("input ended while " ++ s.describe)

end Fault

/-- A fault and the offset at which it shows. -/
structure LexError where
  fault : Fault
  offset : Nat
  deriving DecidableEq, Repr

namespace LexError

def message (e : LexError) : String :=
  e.fault.message ++ " at offset " ++ toString e.offset

/-- The error moved `n` bytes to the right. -/
def shift (n : Nat) (e : LexError) : LexError := { e with offset := e.offset + n }

end LexError
end MarkupLexer
