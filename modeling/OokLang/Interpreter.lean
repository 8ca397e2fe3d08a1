import OokLang.Error
import OokLang.Program.Reader
import OokLang.Program.Run
import OokLang.Source.Reader

namespace OokLang

/-- The program that a source text spells. -/
def readProgram (text : String) : Except Error Program :=
  match Source.markers text with
  | .error e => .error (.source e)
  | .ok markers =>
    match Program.ofMarkers markers with
    | .error e => .error (.program e)
    | .ok program => .ok program

/-- Runs a source text on a fresh tape for at most `fuel` steps, and flushes the sink at the end.
    Nothing is written or flushed if the text spells no program. -/
def interpret {ω : Type} [Writer ω] (fuel : Nat) (text : String) (sink : ω) :
    Option (Option Error × ω) :=
  match readProgram text with
  | .error e => some (some e, sink)
  | .ok program =>
    match program.run fuel { sink } with
    | none => none
    | some outcome =>
      let outcome := outcome.finish
      some (outcome.fault.map .run, outcome.machine.sink)

end OokLang
