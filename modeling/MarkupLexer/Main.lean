import MarkupLexer.Command.Run

/-!
# The program

Reads what the command line asks for, prints what `Command.run` says, and ends with its exit code.
Of its usage it prints nothing.
-/

namespace MarkupLexer.Command

/-- The bytes that an action reads, or the way in which it fails. Codes are the negatives of the
    system's; 20 is its code for a file where a directory is needed. -/
def attempt (action : IO ByteArray) : IO (Except ReadError ByteArray) := do
  try
    return .ok (← action)
  catch
    | .noFileOrDirectory .. => return .error .noSuchFile
    | .permissionDenied .. => return .error .noPermission
    | .inappropriateType _ code _ =>
      return .error (if 0 - code = 20 then .notADirectory else .isADirectory)
    | e => return .error (.other (toString e))

/-- What the request can read: its own input, and nothing else. -/
def Request.environment (r : Request) : IO Environment := do
  match r.input with
  | .argument _ => return {}
  | .file path =>
    let content ← attempt (IO.FS.readBinFile path)
    return { file := fun _ => content }
  | .standardInput =>
    return { standardInput := ← attempt do (← IO.getStdin).readBinToEnd }

end MarkupLexer.Command

open MarkupLexer.Command in
def main (words : List String) : IO UInt32 := do
  let env ← match parse words with
    | .ok (some request) => request.environment
    | _ => pure {}
  let outcome := run words env
  IO.print outcome.stdout
  IO.eprint outcome.stderr
  return outcome.exitCode.toUInt32
