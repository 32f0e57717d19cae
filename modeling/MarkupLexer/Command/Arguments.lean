import MarkupLexer.Kind
import MarkupLexer.Automaton

/-!
# Arguments

What the words of a command line ask for. Options and the markup come in any order; a value is the
next word or is attached to its option; after a lone double dash every word is markup. Every option
but `--only` is given once at most, and there is one markup at most.
-/

namespace MarkupLexer.Command

/-- How tokens are printed. -/
inductive Format where
  | table
  | json
  | listing
  deriving DecidableEq, Repr

def Format.ofName? : String → Option Format
  | "table" => some .table
  | "json" => some .json
  | "listing" => some .listing
  | _ => none

/-- Where the markup comes from. -/
inductive Input where
  | argument (markup : String)
  | file (path : String)
  | standardInput
  deriving DecidableEq, Repr

/-- The name of an input in reports. -/
def Input.origin : Input → String
  | argument _ => "<argument>"
  | file path => path
  | standardInput => "<stdin>"

/-- What is printed. -/
inductive Mode where
  /-- The tokens of an input without an error. -/
  | all
  /-- The tokens up to an error. -/
  | untilError
  /-- Whether there is an error. -/
  | verdict
  deriving DecidableEq, Repr

/-- What is to be done. -/
structure Request where
  input : Input
  format : Format
  trailing : TrailingText
  mode : Mode
  /-- The kinds that are printed; all of them if the list is empty. -/
  only : List Kind
  deriving DecidableEq, Repr

inductive Flag where
  | file
  | format
  | strict
  | check
  | untilError
  | only
  | help
  deriving DecidableEq, Repr

namespace Flag

def name : Flag → String
  | file => "file"
  | format => "format"
  | strict => "strict"
  | check => "check"
  | untilError => "partial"
  | only => "only"
  | help => "help"

def ofName? (s : String) : Option Flag :=
  [file, format, strict, check, untilError, only, help].find? (·.name == s)

def takesValue : Flag → Bool
  | file | format | only => true
  | strict | check | untilError | help => false

end Flag

/-- Why the words of a command line are refused. -/
inductive UsageError where
  | unknownOption (word : String)
  | missingValue (flag : Flag)
  | badValue (flag : Flag) (value : String)
  /-- A value is attached to an option that takes none. -/
  | unneededValue (flag : Flag) (value : String)
  | repeated (flag : Flag)
  /-- There is a second markup. -/
  | extraWord (word : String)
  /-- Both are given, and one excludes the other. -/
  | conflict (one other : String)
  deriving DecidableEq, Repr

/-! ### Words -/

/-- What a word is before a lone double dash. -/
inductive Word where
  /-- A lone double dash. -/
  | separator
  | option (flag : Flag) (attached : Option String)
  | unknownOption
  /-- Markup, or the value of the option before it. -/
  | plain
  deriving DecidableEq, Repr

/-- What a word of these characters is. Names are not abbreviated, a value follows a name after an
    equals sign and a letter directly or after an equals sign. A lone dash is a plain word. -/
def Word.ofChars : List Char → Word
  | ['-', '-'] => .separator
  | '-' :: '-' :: cs =>
    match Flag.ofName? (String.ofList (cs.takeWhile (· ≠ '='))) with
    | none => .unknownOption
    | some flag =>
      .option flag <|
        match cs.dropWhile (· ≠ '=') with
        | [] => none
        | _ :: value => some (String.ofList value)
  | ['-'] => .plain
  | '-' :: 'f' :: cs =>
    .option .file <|
      match cs with
      | [] => none
      | '=' :: value => some (String.ofList value)
      | value => some (String.ofList value)
  | '-' :: 'h' :: _ => .option .help none
  | '-' :: _ => .unknownOption
  | _ => .plain

def Word.ofString (s : String) : Word := .ofChars s.toList

/-! ### Reading the words -/

/-- What the words read so far say. -/
structure Draft where
  markup : Option String := none
  file : Option String := none
  format : Option Format := none
  strict : Bool := false
  check : Bool := false
  untilError : Bool := false
  only : List Kind := []
  deriving DecidableEq, Repr

namespace Draft

def addMarkup (d : Draft) (word : String) : Except UsageError Draft :=
  if d.markup.isSome then .error (.extraWord word) else .ok { d with markup := some word }

/-- A flag that takes no value. -/
def setFlag (d : Draft) (flag : Flag) : Except UsageError Draft :=
  match flag with
  | .strict => if d.strict then .error (.repeated flag) else .ok { d with strict := true }
  | .check => if d.check then .error (.repeated flag) else .ok { d with check := true }
  | .untilError =>
    if d.untilError then .error (.repeated flag) else .ok { d with untilError := true }
  | .file | .format | .only | .help => .ok d

/-- A flag with its value. -/
def setValue (d : Draft) (flag : Flag) (value : String) : Except UsageError Draft :=
  match flag with
  | .file =>
    if value = "" then .error (.badValue flag value)
    else if d.file.isSome then .error (.repeated flag)
    else .ok { d with file := some value }
  | .format =>
    match Format.ofName? value with
    | none => .error (.badValue flag value)
    | some format =>
      if d.format.isSome then .error (.repeated flag) else .ok { d with format := some format }
  | .only =>
    match Kind.parse value with
    | .error _ => .error (.badValue flag value)
    | .ok kind => .ok { d with only := d.only ++ [kind] }
  | .strict | .check | .untilError | .help => .error (.unneededValue flag value)

/-- The words after a lone double dash. -/
def addAll (d : Draft) : List String → Except UsageError Draft
  | [] => .ok d
  | word :: words => do (← d.addMarkup word).addAll words

/-- The words of a command line, none when help is asked for. The first word that is refused
    decides. -/
def read (d : Draft) : List String → Except UsageError (Option Draft)
  | [] => .ok (some d)
  | word :: words =>
    match Word.ofString word with
    | .separator => some <$> d.addAll words
    | .unknownOption => .error (.unknownOption word)
    | .plain => do (← d.addMarkup word).read words
    | .option flag (some value) => do (← d.setValue flag value).read words
    | .option flag none =>
      if flag = .help then .ok none
      else if flag.takesValue then
        match words with
        | [] => .error (.missingValue flag)
        | value :: words =>
          if Word.ofString value = .plain then do (← d.setValue flag value).read words
          else .error (.missingValue flag)
      else do (← d.setFlag flag).read words

/-- The request of all the words, unless two of them exclude each other. -/
def request (d : Draft) : Except UsageError Request := do
  let input ← match d.file, d.markup with
    | some _, some _ => .error (.conflict "--file" "the markup")
    | some path, none => .ok (.file path)
    | none, some markup => .ok (.argument markup)
    | none, none => .ok .standardInput
  let mode ← match d.check, d.untilError with
    | true, true => .error (.conflict "--partial" "--check")
    | true, false => .ok .verdict
    | false, true => .ok .untilError
    | false, false => .ok .all
  return {
    input, mode
    format := d.format.getD .table
    trailing := if d.strict then .reject else .accept
    only := d.only }

end Draft

/-- The request of a command line, none when help is asked for. -/
def parse (words : List String) : Except UsageError (Option Request) := do
  match ← ({} : Draft).read words with
  | none => return none
  | some draft => return some (← draft.request)

end MarkupLexer.Command
