import OokLang.Code.Basic
import OokLang.Program.Basic

namespace OokLang

/-- Adds an operation to code, into the last operation if that is asked for and the two merge. -/
def Code.emit (fold : Bool) (code : Code) (op : Op) : Code :=
  match fold, code.back? with
  | true, some last =>
    match last.merge? op with
    | some merged => code.pop.push merged
    | none => code.push op
  | _, _ => code.push op

/-- Ends a loop that begins at the given place. The jump there gets its distance only now, as far as
    past the jump that is added, which goes back to the first operation of the body. -/
def Code.endLoop (code : Code) (start : Nat) : Code :=
  let distance := code.size - start - 1
  (code.setIfInBounds start (.skipIfZero (distance + 2))).push (.backUnlessZero distance)

namespace Program

/-- Adds a program to code. With `fold` an instruction goes into the operation before it where the
    two merge. A loop begins with a jump without a distance yet, which also keeps its body from
    going into what comes before the loop. -/
def lowerAfter (fold : Bool) (code : Code) : Program → Code
  | nil => code
  | instr i rest => rest.lowerAfter fold (code.emit fold i.op)
  | loop body rest =>
    let start := code.size
    let inside := body.lowerAfter fold (code.push (.skipIfZero 0))
    rest.lowerAfter fold (inside.endLoop start)

/-- The code of a program. -/
def lower (fold : Bool) (p : Program) : Code :=
  p.lowerAfter fold #[]

end Program

end OokLang
