import MarkupLexer.Command.Environment
import MarkupLexer.Json.Tokens
import MarkupLexer.Lexer
import MarkupLexer.Render
import MarkupLexer.Report

/-!
# Running a command

What a command line prints and how it ends. The exit code is 0 for an input without an error, 1 for
one with an error or one that cannot be read, 2 for a command line that is refused, and 101 for an
error too far to the right to be reported.
-/

namespace MarkupLexer.Command

/-- How a command ends. -/
structure Outcome where
  exitCode : Nat
  stdout : String := ""
  stderr : String := ""
  deriving DecidableEq, Repr

/-- The tokens of the given kinds; all of them if no kind is given. -/
def select (only : List Kind) (tokens : List Token) : List Token :=
  if only.isEmpty then tokens else tokens.filter (·.isOneOf only)

/-- A token list in a format. -/
def Format.print : Format → List Token → String
  | table, tokens => toTable tokens
  | json, tokens => Json.ofTokens tokens ++ "\n"
  | listing, tokens => toListing tokens

namespace Request

/-- The tokens that are printed, in their format. -/
def print (r : Request) (tokens : List Token) : String := r.format.print (select r.only tokens)

/-- How a command ends that has printed `stdout` before the error of its input. It breaks off where
    a row of the report is missing; what the system says of that is not part of the outcome. -/
def stop (r : Request) (source stdout : String) (e : LexError) : Outcome where
  exitCode := if (e.report? source r.input.origin).isSome then 1 else 101
  stdout
  stderr := e.print source r.input.origin

/-- How a command ends whose input is `source`. -/
def outcome (r : Request) (source : String) : Outcome :=
  match r.mode with
  | .verdict =>
    match tokenize source r.trailing with
    | .ok _ => ⟨0, "valid\n", ""⟩
    | .error e => r.stop source "invalid\n" e
  | .all =>
    match tokenize source r.trailing with
    | .ok tokens => ⟨0, r.print tokens, ""⟩
    | .error e => r.stop source "" e
  | .untilError =>
    match tokenizePartial source r.trailing with
    | (tokens, none) => ⟨0, r.print tokens, ""⟩
    | (tokens, some e) => r.stop source (r.print tokens) e

/-- How a command ends that reads its input first. -/
def run (r : Request) (env : Environment) : Outcome :=
  match env.markup r.input with
  | .ok source => r.outcome source
  | .error e => ⟨1, "", "Error: failed to read input: " ++ e.message ++ "\n"⟩

end Request

/-- How the command line of the given words ends. -/
def run (words : List String) (env : Environment) : Outcome :=
  match parse words with
  | .error _ => ⟨2, "", env.usage words⟩
  | .ok none => ⟨0, env.usage words, ""⟩
  | .ok (some request) => request.run env

end MarkupLexer.Command
