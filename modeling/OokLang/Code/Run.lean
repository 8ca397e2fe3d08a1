import OokLang.Code.Basic
import OokLang.Execution

namespace OokLang

variable {ω : Type}

/-- What an operation does to the machine. A jump does nothing to it. -/
def Op.effect [Writer ω] : Op → Machine ω → Outcome ω
  | shift distance, m => m.shift distance
  | add amount, m => (m.add amount).done
  | sub amount, m => (m.sub amount).done
  | write count, m => m.write count
  | read, m => m.failed .unsupportedInput
  | undefined i, m => m.failed (.undefinedInstruction i)
  | skipIfZero _, m => m.done
  | backUnlessZero _, m => m.done

/-- Whether an operation may go on at another place than the next one. -/
def Op.isJump : Op → Bool
  | skipIfZero _ | backUnlessZero _ => true
  | _ => false

namespace Code

/-- Code in the middle of a run: the number of the operation that comes next, and the machine. -/
structure State (ω : Type) where
  counter : Nat
  machine : Machine ω
  deriving DecidableEq, Repr

/-- A step carries out an operation. Jumps count from the jump itself, and a jump back does not pass
    the first operation. The run ends well where there is no operation, and a fault ends it too. -/
def State.step [Writer ω] (code : Code) : State ω → Progress ω (State ω)
  | ⟨counter, machine⟩ =>
    match code[counter]? with
    | none => .stopped machine.done
    | some (.skipIfZero distance) =>
      .going ⟨if machine.isZero then counter + distance else counter + 1, machine⟩
    | some (.backUnlessZero distance) =>
      .going ⟨if machine.isZero then counter + 1 else counter - distance, machine⟩
    | some op => (op.effect machine).andGo (⟨counter + 1, ·⟩)

namespace State

variable [Writer ω] {code : Code} {counter distance : Nat} {m : Machine ω}

theorem step_of_none (hop : code[counter]? = none) :
    step code ⟨counter, m⟩ = .stopped m.done := by
  simp [step, hop]

theorem step_skipIfZero (hop : code[counter]? = some (.skipIfZero distance)) :
    step code ⟨counter, m⟩ = .going ⟨if m.isZero then counter + distance else counter + 1, m⟩ := by
  simp [step, hop]

theorem step_backUnlessZero (hop : code[counter]? = some (.backUnlessZero distance)) :
    step code ⟨counter, m⟩ = .going ⟨if m.isZero then counter + 1 else counter - distance, m⟩ := by
  simp [step, hop]

theorem step_of_not_isJump {op : Op} (hop : code[counter]? = some op) (hjump : op.isJump = false) :
    step code ⟨counter, m⟩ = (op.effect m).andGo (⟨counter + 1, ·⟩) := by
  cases op <;> simp_all [step, Op.isJump]

end State

/-- Runs code from its start for at most `fuel` steps. -/
def run [Writer ω] (fuel : Nat) (code : Code) (m : Machine ω) : Option (Outcome ω) :=
  runFor (State.step code) fuel { counter := 0, machine := m }

end Code

end OokLang
