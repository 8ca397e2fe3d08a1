import OokLang.Marker

namespace OokLang

/-- The eight pairs of markers that have a meaning. -/
inductive Instruction where
  /-- Move to the cell on the right. -/
  | moveRight
  /-- Move to the cell on the left. -/
  | moveLeft
  /-- Add one to the cell. -/
  | increment
  /-- Take one from the cell. -/
  | decrement
  /-- Read a byte into the cell. No machine here has anything to read from. -/
  | input
  /-- Write the cell as a byte. -/
  | output
  /-- Open a loop, whose body runs as long as the cell is not zero. -/
  | loopStart
  /-- Close the innermost open loop. -/
  | loopEnd
  deriving DecidableEq, Repr

namespace Instruction

/-- The two markers of an instruction. -/
def markers : Instruction → Marker × Marker
  | moveRight => (.dot, .question)
  | moveLeft => (.question, .dot)
  | increment => (.dot, .dot)
  | decrement => (.bang, .bang)
  | input => (.dot, .bang)
  | output => (.bang, .dot)
  | loopStart => (.bang, .question)
  | loopEnd => (.question, .bang)

/-- The instruction of two markers. Two question marks are the one pair without a meaning. -/
def ofMarkers? : Marker → Marker → Option Instruction
  | .dot, .question => some moveRight
  | .question, .dot => some moveLeft
  | .dot, .dot => some increment
  | .bang, .bang => some decrement
  | .dot, .bang => some input
  | .bang, .dot => some output
  | .bang, .question => some loopStart
  | .question, .bang => some loopEnd
  | .question, .question => none

/-- The name of an instruction in the text of trees and of code. -/
def name : Instruction → String
  | moveRight => "IncrementPointer"
  | moveLeft => "DecrementPointer"
  | increment => "IncrementValue"
  | decrement => "DecrementValue"
  | input => "Input"
  | output => "Output"
  | loopStart => "LoopStart"
  | loopEnd => "LoopEnd"

/-- The two tokens of an instruction, such as `Ook. Ook?`. -/
def tokens (i : Instruction) : String :=
  i.markers.1.token ++ " " ++ i.markers.2.token

end Instruction

end OokLang
