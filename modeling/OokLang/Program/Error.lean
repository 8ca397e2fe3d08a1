namespace OokLang.Program

/-- Why a list of markers is no program. Instructions are numbered from one. -/
inductive Error where
  /-- The markers do not come in pairs. -/
  | oddCount (count : Nat)
  /-- An instruction is the pair without a meaning. -/
  | meaningless (number : Nat)
  /-- An instruction reads input. -/
  | readsInput (number : Nat)
  /-- An instruction closes a loop, and none is open. -/
  | unmatchedEnd (number : Nat)
  /-- The markers end inside of the loop that an instruction opens. -/
  | unmatchedStart (number : Nat)
  /-- An instruction opens a loop, and as many as may be nested are open. -/
  | tooDeep (number limit : Nat)
  deriving DecidableEq, Repr

/-- The wording of an error. -/
def Error.message : Error → String
  | oddCount count => s!"Odd number of tokens ({count}), instructions are made of token pairs"
  | meaningless number => s!"Instruction {number} is `Ook? Ook?` which has no meaning"
  | readsInput number => s!"Instruction {number} reads input which isn't supported"
  | unmatchedEnd number => s!"Instruction {number} closes a loop that was never opened"
  | unmatchedStart number => s!"Loop opened at instruction {number} is never closed"
  | tooDeep number limit =>
    s!"Loop opened at instruction {number} nests deeper than {limit} levels"

end OokLang.Program
