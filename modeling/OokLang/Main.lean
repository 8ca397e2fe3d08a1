import OokLang.Command.Session

namespace OokLang.Command

/-- More steps than a run can take in a lifetime. -/
def stepLimit : Nat := 1 <<< 62

/-- The reason behind an error of the system, whose number comes with either sign. -/
def Unreadable.ofError (e : IO.Error) : Unreadable :=
  match e with
  | .noFileOrDirectory .. => .missing
  | .inappropriateType _ number _ =>
    if min number (-number) = 20 then .notDirectory else .directory
  | .invalidArgument _ number _ =>
    if min number (-number) = 36 then .nameTooLong else .other e.toString
  | e => .other e.toString

/-- The bytes of a file. -/
def readFile (path : String) : IO (Except Unreadable ByteArray) := do
  try
    return .ok (← IO.FS.readBinFile path)
  catch e =>
    return .error (.ofError e)

/-- Whether labels are coloured: on a terminal, unless a variable of the environment says more. -/
def isColoured : IO Bool := do
  if let some force ← IO.getEnv "CLICOLOR_FORCE" then
    if force ≠ "0" then
      return true
  if (← IO.getEnv "NO_COLOR").isSome then
    return false
  return (← IO.getEnv "CLICOLOR") ≠ some "0" && (← (← IO.getStdout).isTty)

/-- Shows a transcript while it is worked out. The time of a stage is counted from `start`. -/
def play (s : Session) (filter : Filter) (start : Nat) : Transcript → IO UInt32
  | .ended exit => return exit
  | .unended => do
    IO.eprintln (s.errorLine "the run takes too many steps")
    return 1
  | .log line rest => do
    if filter line then
      IO.eprintln (line.text (durationText ((← IO.monoNanosNow) - start)))
    play s filter start rest
  | .note text rest => do
    IO.eprintln text
    play s filter start rest
  | .output bytes rest => do
    let stdout ← IO.getStdout
    try
      stdout.write ⟨bytes⟩
      stdout.flush
    catch _ =>
      IO.eprintln (s.errorLine (Error.run (.output .brokenPipe)).message)
      return 1
    play s filter start rest
  | .stage rest => do
    let now ← IO.monoNanosNow
    play s filter now (rest ())

/-- Answers a command line. -/
def answer (arguments : List String) : IO UInt32 := do
  match Request.ofArguments arguments with
  | .version =>
    IO.println versionText
    return 0
  | .help =>
    IO.println helpText
    return 0
  | .misuse =>
    IO.eprintln helpText
    return 2
  | .run options =>
    let session : Session := { options, coloured := ← isColoured, fuel := stepLimit }
    let filter := Filter.choose (← IO.getEnv "RUST_LOG") options.verbose
    play session filter (← IO.monoNanosNow) (session.transcript (← readFile options.file))

end OokLang.Command

def main (arguments : List String) : IO UInt32 :=
  OokLang.Command.answer arguments
