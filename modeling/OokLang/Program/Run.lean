import OokLang.Execution
import OokLang.Program.Basic

namespace OokLang.Program

variable {ω : Type}

/-- A program in the middle of a run: what is left of the innermost block, what comes after each of
    the blocks around it, and the machine. -/
structure State (ω : Type) where
  todo : Program
  pending : List Program
  machine : Machine ω
  deriving DecidableEq, Repr

/-- A step carries out an instruction, tests a loop, or leaves a block that is done. The loop that
    a body belongs to comes after the body, so that it is tested again wherever that leaves the
    pointer. A fault ends the run. -/
def State.step [Writer ω] : State ω → Progress ω (State ω)
  | ⟨nil, [], machine⟩ => .stopped machine.done
  | ⟨nil, after :: pending, machine⟩ => .going ⟨after, pending, machine⟩
  | ⟨instr i rest, pending, machine⟩ => (machine.perform i).andGo (⟨rest, pending, ·⟩)
  | ⟨loop body rest, pending, machine⟩ =>
    if machine.isZero then .going ⟨rest, pending, machine⟩
    else .going ⟨body, loop body rest :: pending, machine⟩

namespace State

variable [Writer ω] {pending : List Program} {m : Machine ω}

@[simp] theorem step_nil_cons (after : Program) :
    step ⟨nil, after :: pending, m⟩ = .going ⟨after, pending, m⟩ := rfl

theorem step_instr (i : Instruction) (rest : Program) :
    step ⟨instr i rest, pending, m⟩ = (m.perform i).andGo (⟨rest, pending, ·⟩) := rfl

theorem step_loop (body rest : Program) :
    step ⟨loop body rest, pending, m⟩ =
      .going (if m.isZero then ⟨rest, pending, m⟩ else ⟨body, loop body rest :: pending, m⟩) := by
  rw [step]
  cases m.isZero <;> rfl

end State

/-- Runs a program for at most `fuel` steps. -/
def run [Writer ω] (fuel : Nat) (p : Program) (m : Machine ω) : Option (Outcome ω) :=
  runFor State.step fuel { todo := p, pending := [], machine := m }

end OokLang.Program
