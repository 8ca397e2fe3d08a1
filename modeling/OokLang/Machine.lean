import OokLang.Fault
import OokLang.Tape

namespace OokLang

/-- What programs run on: a tape to work on and a sink to write to, which is a writer of any kind.
    -/
structure Machine (ω : Type) where
  tape : Tape := .blank
  sink : ω
  deriving DecidableEq, Repr

/-- The machine after some work, and the fault that cut the work short, if there was one. -/
structure Outcome (ω : Type) where
  fault : Option Fault
  machine : Machine ω
  deriving DecidableEq, Repr

variable {ω : Type}

namespace Machine

/-- Work that went well. -/
def done (m : Machine ω) : Outcome ω :=
  { fault := none, machine := m }

/-- Work that a fault cut short. -/
def failed (m : Machine ω) (fault : Fault) : Outcome ω :=
  { fault := some fault, machine := m }

/-- Whether the cell at the pointer is zero. -/
def isZero (m : Machine ω) : Bool :=
  m.tape.current == 0

/-- Moves the pointer, to the right by a positive number of cells and to the left by a negative one.
    A move that would pass the first cell does not begin. -/
def shift (m : Machine ω) (distance : Int) : Outcome ω :=
  match m.tape.shift? distance with
  | some tape => { m with tape }.done
  | none => m.failed (.pointerUnderflow m.tape.pointer distance.natAbs)

/-- Adds to the cell, modulo 256. -/
def add (m : Machine ω) (amount : UInt8) : Machine ω :=
  { m with tape := m.tape.modify (· + amount) }

/-- Subtracts from the cell, modulo 256. -/
def sub (m : Machine ω) (amount : UInt8) : Machine ω :=
  { m with tape := m.tape.modify (· - amount) }

/-- Writes the cell so many times, byte by byte. What arrived before a failure has arrived. -/
def write [Writer ω] (m : Machine ω) (count : Nat) : Outcome ω :=
  let (cause, sink) := Writer.putMany count m.tape.current m.sink
  { fault := cause.map .output, machine := { m with sink } }

/-- Flushes the sink. -/
def flush [Writer ω] (m : Machine ω) : Outcome ω :=
  let (cause, sink) := Writer.flush m.sink
  { fault := cause.map .output, machine := { m with sink } }

/-- Takes a fresh tape. The sink stays. -/
def reset (m : Machine ω) : Machine ω :=
  { m with tape := .blank }

/-- Carries out an instruction. The marks of a loop are none that can be carried out. -/
def perform [Writer ω] (m : Machine ω) : Instruction → Outcome ω
  | .moveRight => m.shift 1
  | .moveLeft => m.shift (-1)
  | .increment => (m.add 1).done
  | .decrement => (m.sub 1).done
  | .output => m.write 1
  | .input => m.failed .unsupportedInput
  | .loopStart => m.failed (.undefinedInstruction .loopStart)
  | .loopEnd => m.failed (.undefinedInstruction .loopEnd)

end Machine

/-- Flushes the sink after some work, whether it went well or not. A fault of the work comes before
    one of the flush. -/
def Outcome.finish [Writer ω] (o : Outcome ω) : Outcome ω :=
  let flushed := o.machine.flush
  { flushed with fault := o.fault <|> flushed.fault }

end OokLang
