import OokLang.Instruction

namespace OokLang

/-- An operation of flat code. -/
inductive Op where
  /-- Moves the pointer, to the left by a negative number. -/
  | shift (distance : Int)
  /-- Adds to the cell, modulo 256. -/
  | add (amount : UInt8)
  /-- Subtracts from the cell, modulo 256. -/
  | sub (amount : UInt8)
  /-- Writes the cell so many times. -/
  | write (count : Nat)
  /-- Reads a byte into the cell. -/
  | read
  /-- The mark of a loop that belongs to none. -/
  | undefined (i : Instruction)
  /-- Goes so many operations forward if the cell is zero. -/
  | skipIfZero (distance : Nat)
  /-- Goes so many operations back if the cell is not zero. -/
  | backUnlessZero (distance : Nat)
  deriving DecidableEq, Repr

/-- Flat code, in which loops are jumps. -/
abbrev Code := Array Op

/-- The operation of a single instruction. -/
def Instruction.op : Instruction → Op
  | moveRight => .shift 1
  | moveLeft => .shift (-1)
  | increment => .add 1
  | decrement => .sub 1
  | output => .write 1
  | input => .read
  | loopStart => .undefined .loopStart
  | loopEnd => .undefined .loopEnd

/-- One operation that does the work of two, one after the other. Moves in opposite directions stay
    apart, since the first of them may pass the first cell. -/
def Op.merge? : Op → Op → Option Op
  | shift a, shift b => if a.sign = b.sign then some (shift (a + b)) else none
  | add a, add b => some (add (a + b))
  | sub a, sub b => some (sub (a + b))
  | write a, write b => some (write (a + b))
  | _, _ => none

end OokLang
