import DotPath.Command
import DotPath.Json.Reader

/-!
The command line program.  It reads the file that the arguments name, runs the command on what it
read, and prints the outcome.
-/

set_option autoImplicit false
set_option relaxedAutoImplicit false

namespace DotPath

def causeText : IO.Error → String
  | .noFileOrDirectory _ code details => describe code details
  | .permissionDenied _ code details => describe code details
  | .inappropriateType _ code details => describe code details
  | other => toString other
where
  describe (code : UInt32) (details : String) : String :=
    details ++ " (os error " ++ Text.decimal code.toNat ++ ")"

/-- Why a text is no document, as far as its tokens tell. -/
def syntaxCause (text : String) : String :=
  match Json.Token.ofText? text.toList with
  | none => "unknown token"
  | some _ => "token out of place"

def readNamedFile (line : List String) : IO (Except String String) := do
  match (Command.parse? line).bind Command.Arguments.file with
  | none => pure (.error "")
  | some file =>
      try
        pure (.ok (← IO.FS.readFile file))
      catch cause =>
        pure (.error (causeText cause))

end DotPath

def main (line : List String) : IO UInt32 := do
  let content ← DotPath.readNamedFile line
  let reader := DotPath.Json.read DotPath.syntaxCause
  let outcome := DotPath.Command.run (fun _ => content) reader line
  for reported in outcome.report do
    IO.eprintln reported
  IO.print outcome.output
  pure outcome.code.toUInt32
