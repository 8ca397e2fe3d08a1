import OokLang.Instruction
import OokLang.Writer

namespace OokLang

/-- What can stop a run. -/
inductive Fault where
  /-- A move, from the given cell and by the given number of cells, would pass the first cell. -/
  | pointerUnderflow (pointer distance : Nat)
  /-- Something asks for input. -/
  | unsupportedInput
  /-- The mark of a loop stands where an instruction should. -/
  | undefinedInstruction (i : Instruction)
  /-- Output cannot be written or flushed. -/
  | output (cause : WriteFault)
  deriving DecidableEq, Repr

/-- The wording of a fault. -/
def Fault.message : Fault → String
  | pointerUnderflow pointer distance =>
    s!"Data pointer ({pointer}) can't move {distance} cell(s) left of the start of the tape"
  | unsupportedInput => "Reading input isn't supported"
  | undefinedInstruction i => s!"Instruction `{i.tokens}` can't be executed on its own"
  | output _ => "Failed to write output"

end OokLang
