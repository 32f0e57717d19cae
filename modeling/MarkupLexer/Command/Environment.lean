import MarkupLexer.Command.Arguments

/-!
# Reading the input

The markup of a request, from the command line, a file or the standard input, and the ways in which
a file or the standard input cannot be read. A `Folder` is a directory in memory to read files from.
The texts about the usage of a command come from outside too, with the words that ask for them.
-/

namespace MarkupLexer.Command

/-- Why an input cannot be read. -/
inductive ReadError where
  | noSuchFile
  | noPermission
  | notADirectory
  | isADirectory
  | notText
  | other (description : String)
  deriving DecidableEq, Repr

def ReadError.message : ReadError → String
  | noSuchFile => "No such file or directory (os error 2)"
  | noPermission => "Permission denied (os error 13)"
  | notADirectory => "Not a directory (os error 20)"
  | isADirectory => "Is a directory (os error 21)"
  | notText => "stream did not contain valid UTF-8"
  | other description => description

/-- What a command can read, and what is said of its usage. -/
structure Environment where
  standardInput : Except ReadError ByteArray := .ok .empty
  file : String → Except ReadError ByteArray := fun _ => .error .noSuchFile
  /-- What is printed for words that ask for help, or that are refused. -/
  usage : List String → String := fun _ => ""

/-- The text of bytes in UTF-8. -/
def decode (bytes : ByteArray) : Except ReadError String :=
  match String.fromUTF8? bytes with
  | some text => .ok text
  | none => .error .notText

/-- The markup that an input stands for. -/
def Environment.markup (env : Environment) : Input → Except ReadError String
  | .argument markup => .ok markup
  | .file path => env.file path >>= decode
  | .standardInput => env.standardInput >>= decode

/-! ### Folders -/

/-- Files by name. A name with slashes is that of a file in a folder within. -/
structure Folder where
  files : List (String × ByteArray)

/-- The steps of a path from the folder, and whether it must end in a directory. -/
def pathSteps (path : String) : List String × Bool :=
  let parts := path.splitOn "/"
  (parts.filter fun part => part ≠ "" && part ≠ ".",
    parts.getLast?.any fun part => part = "" || part = "." || part = "..")

/-- The content of the file at a path. Only the folder and what is within it can be reached, and the
    directories above it. -/
def Folder.read (folder : Folder) (path : String) : Except ReadError ByteArray :=
  let (steps, directory) := pathSteps path
  let files := folder.files.map fun (name, content) => ((pathSteps name).1, content)
  if steps.all (· = "..") then .error .isADirectory
  else if path.startsWith "/" then .error .noSuchFile
  else
    match files.find? (·.1 = steps) with
    | some (_, content) => if directory then .error .notADirectory else .ok content
    | none =>
      if files.any fun file => steps.isPrefixOf file.1 then .error .isADirectory
      else if files.any fun file => file.1.isPrefixOf steps then .error .notADirectory
      else .error .noSuchFile

end MarkupLexer.Command
