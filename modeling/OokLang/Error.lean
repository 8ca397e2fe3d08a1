import OokLang.Fault
import OokLang.Program.Error
import OokLang.Source.Error

namespace OokLang

/-- Why a source text was not run to its end. -/
inductive Error where
  /-- It is no sequence of tokens. -/
  | source (e : Source.Error)
  /-- Its markers are no program. -/
  | program (e : Program.Error)
  /-- Its run was cut short. -/
  | run (f : Fault)
  deriving DecidableEq, Repr

/-- The wording of an error. -/
def Error.message : Error → String
  | source e => e.message
  | program e => e.message
  | run f => f.message

end OokLang
