import OokLang.Command.Log

namespace OokLang.Command

/-- What a session shows and writes, in order. What a stage leads to is worked out when it is asked
    for, so that whoever shows the transcript can tell how long that takes. -/
inductive Transcript where
  /-- The session is over. -/
  | ended (exit : UInt32)
  /-- A run was not over when its steps were used up. -/
  | unended
  /-- A line of the log. -/
  | log (line : LogLine) (rest : Transcript)
  /-- A text on standard error, which ends its line. -/
  | note (text : String) (rest : Transcript)
  /-- Bytes on standard output. -/
  | output (bytes : Array UInt8) (rest : Transcript)
  /-- A stage begins. -/
  | stage (rest : Unit → Transcript)

/-- All that a session has shown and written once it is over. -/
structure Report where
  exit : UInt32
  /-- The bytes on standard output. -/
  output : List UInt8 := []
  /-- The texts on standard error, each of which ends its line. -/
  notes : List String := []
  deriving DecidableEq, Repr

/-- Shows the lines of the log that the filter lets pass, each with the same text for its time. -/
def Transcript.report (filter : Filter) (time : String) : Transcript → Option Report
  | ended exit => some { exit }
  | unended => none
  | log line rest =>
    (rest.report filter time).map fun r =>
      if filter line then { r with notes := line.text time :: r.notes } else r
  | note text rest => (rest.report filter time).map fun r => { r with notes := text :: r.notes }
  | output bytes rest =>
    (rest.report filter time).map fun r => { r with output := bytes.toList ++ r.output }
  | stage rest => (rest ()).report filter time

end OokLang.Command
