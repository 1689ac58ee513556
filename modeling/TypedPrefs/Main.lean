import TypedPrefs.Command

/-!
# The program

Runs the command that the arguments name on the files of the system. The readers of this library
stand for the parsers, and the layout of `Code.Layout` for the formatter.
-/

open TypedPrefs

/-- The wording of a failure of the system. -/
def systemMessage (e : IO.Error) : String :=
  let numbered (details : String) (number : UInt32) : String :=
    details ++ " (os error " ++ toString number ++ ")"
  match e with
  | .noFileOrDirectory _ number details => numbered details number
  | .inappropriateType _ number details => numbered details number
  | .permissionDenied _ number details => numbered details number
  | .invalidArgument _ number details => numbered details number
  | .resourceExhausted _ number details => numbered details number
  | other => toString other

/-- The result of an action, or why it failed. -/
def attempt {α : Type} (action : IO α) : IO (Except String α) := do
  try
    return .ok (← action)
  catch e =>
    return .error (systemMessage e)

/-- The files of the system. -/
def systemFiles : FileAccess IO where
  read path := attempt (IO.FS.readFile path)
  write path content := attempt (IO.FS.writeFile path content)

/-- Runs the program and gives its exit code. -/
def main (arguments : List String) : IO UInt32 := do
  match Command.ofArguments? arguments with
  | none =>
    (← IO.getStderr).putStr Command.usage
    return 2
  | some command =>
    let _ : Parsers := .plain
    let _ : Code.Formatter := .onLines
    let outcome ← command.run systemFiles
    (← IO.getStdout).putStr outcome.stdout
    (← IO.getStderr).putStr outcome.stderr
    return UInt32.ofNat outcome.exitCode
