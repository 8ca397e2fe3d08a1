import OokLang.Code.Run
import OokLang.Program.Run

namespace OokLang

variable {ω : Type}

/-- The operation that does the work of an instruction so many times over. -/
def Instruction.times (n : Nat) : Instruction → Op
  | moveRight => .shift n
  | moveLeft => .shift (-n)
  | increment => .add (UInt8.ofNat n)
  | decrement => .sub (UInt8.ofNat n)
  | output => .write n
  | input => .read
  | loopStart => .undefined .loopStart
  | loopEnd => .undefined .loopEnd

/-- An instruction so many times, and what follows. -/
def Program.repeated (i : Instruction) : Nat → Program → Program
  | 0, rest => rest
  | n + 1, rest => .instr i (repeated i n rest)

/-- Carries out an instruction so many times, up to the first fault. -/
def Machine.performMany [Writer ω] (i : Instruction) : Nat → Machine ω → Outcome ω
  | 0, m => m.done
  | n + 1, m =>
    match m.perform i with
    | ⟨none, m'⟩ => performMany i n m'
    | ⟨some fault, m'⟩ => m'.failed fault

@[simp] theorem Instruction.times_one (i : Instruction) : i.times 1 = i.op := by
  cases i <;> rfl

@[simp] theorem Instruction.isJump_times (i : Instruction) (n : Nat) :
    (i.times n).isJump = false := by
  cases i <;> rfl

theorem Instruction.effect_op [Writer ω] (i : Instruction) (m : Machine ω) :
    i.op.effect m = m.perform i := by
  cases i <;> rfl

@[simp] theorem Program.repeated_append (i : Instruction) (n : Nat) (rest q : Program) :
    repeated i n rest ++ q = repeated i n (rest ++ q) := by
  induction n with
  | zero => rfl
  | succ n ih => rw [repeated, repeated, instr_append, ih]

theorem Program.repeated_instr (i : Instruction) (n : Nat) (rest : Program) :
    repeated i n (.instr i rest) = repeated i (n + 1) rest := by
  induction n with
  | zero => rfl
  | succ n ih => rw [repeated, ih]; rfl

/-- Whether copies of an instruction fold into one operation. -/
def Instruction.folds : Instruction → Bool
  | moveRight | moveLeft | increment | decrement | output => true
  | input | loopStart | loopEnd => false

/-- An operation that stands for some copies of an instruction merges with no other instruction, and
    with a further copy into the operation that stands for all of them. -/
theorem Instruction.times_merge? (i j : Instruction) (n : Nat) :
    (i.times (n + 1)).merge? j.op =
      if j = i ∧ i.folds = true then some (i.times (n + 2)) else none := by
  cases i <;> cases j <;> simp [times, op, Op.merge?, folds]
  case moveRight.moveRight => omega
  case moveLeft.moveLeft => omega
  case increment.increment => exact UInt8.add_assoc _ 1 1
  case decrement.decrement => exact UInt8.add_assoc _ 1 1

/-- How a run may end where one operation does the work of several instructions. Any other end is
    the same, but a move past the first cell is only noticed by the operation as a whole, which then
    does not begin, while the instructions go on to the first cell and fail there. -/
inductive Outcome.FoldsTo : Outcome ω → Outcome ω → Prop where
  | same {o : Outcome ω}
      (hfault : ∀ pointer distance, o.fault ≠ some (.pointerUnderflow pointer distance)) :
      FoldsTo o o
  | underflow {m m' : Machine ω} {distance : Nat} (hsink : m'.sink = m.sink)
      (hcells : m'.tape.cells = m.tape.cells) (hpointer : m.tape.pointer = 0)
      (hdistance : m'.tape.pointer < distance) :
      FoldsTo (m.failed (.pointerUnderflow 0 1))
        (m'.failed (.pointerUnderflow m'.tape.pointer distance))

theorem Outcome.FoldsTo.done (m : Machine ω) : m.done.FoldsTo m.done :=
  .same (fun _ _ => nofun)

namespace Machine

theorem shift_neg_natCast (m : Machine ω) (n : Nat) :
    m.shift (-n) =
      match m.tape.back? n with
      | some tape => { m with tape }.done
      | none => m.failed (.pointerUnderflow m.tape.pointer n) := by
  unfold shift
  rw [Tape.shift?_neg_natCast]
  cases m.tape.back? n with
  | none => simp
  | some tape => rfl

variable [Writer ω]

@[simp] theorem performMany_one (i : Instruction) (m : Machine ω) :
    m.performMany i 1 = m.perform i := by
  rw [performMany]
  cases m.perform i with
  | mk fault m' => cases fault <;> rfl

theorem performMany_moveRight (n : Nat) (m : Machine ω) :
    m.performMany .moveRight n = m.shift n := by
  induction n generalizing m with
  | zero => rfl
  | succ n ih => exact ih { m with tape := m.tape.moveRight }

theorem perform_moveLeft (m : Machine ω) :
    m.perform .moveLeft =
      match m.tape.moveLeft? with
      | some tape => { m with tape }.done
      | none => m.failed (.pointerUnderflow m.tape.pointer 1) := by
  unfold perform shift
  rw [Tape.shift?_neg_one]
  rfl

theorem performMany_moveLeft_of_back? {n : Nat} {m : Machine ω} {tape : Tape}
    (hback : m.tape.back? n = some tape) :
    m.performMany .moveLeft n = { m with tape }.done := by
  induction n generalizing m with
  | zero =>
    cases hback
    rfl
  | succ n ih =>
    rw [performMany, perform_moveLeft]
    rw [Tape.back?] at hback
    cases hmove : m.tape.moveLeft? with
    | none => simp [hmove] at hback
    | some next =>
      simp only [hmove] at hback
      exact ih (m := { m with tape := next }) hback

/-- Steps to the left that are more than the cells on that side go to the first cell, where the next
    of them fails. -/
theorem performMany_moveLeft_stuck {n : Nat} {m : Machine ω} (hlt : m.tape.pointer < n) :
    ∃ m' : Machine ω, m.performMany .moveLeft n = m'.failed (.pointerUnderflow 0 1) ∧
      m'.sink = m.sink ∧ m'.tape.cells = m.tape.cells ∧ m'.tape.pointer = 0 := by
  induction n generalizing m with
  | zero => omega
  | succ n ih =>
    rw [performMany, perform_moveLeft]
    cases hmove : m.tape.moveLeft? with
    | none =>
      have hpointer : m.tape.pointer = 0 := Tape.moveLeft?_eq_none_iff.mp hmove
      exact ⟨m, by simp [failed, hpointer], rfl, rfl, hpointer⟩
    | some next =>
      have hnext := Tape.pointer_moveLeft? hmove
      have hnextlt : next.pointer < n := by omega
      obtain ⟨m', hrun, hsink, hcells, hpointer⟩ := ih (m := { m with tape := next }) hnextlt
      exact ⟨m', hrun, hsink, hcells.trans (Tape.cells_moveLeft? hmove), hpointer⟩

theorem performMany_moveLeft (n : Nat) (m : Machine ω) :
    (m.performMany .moveLeft n).FoldsTo (m.shift (-n)) := by
  rw [shift_neg_natCast]
  cases hback : m.tape.back? n with
  | some tape =>
    rw [performMany_moveLeft_of_back? hback]
    exact .done _
  | none =>
    have hlt : m.tape.pointer < n := Tape.back?_eq_none_iff.mp hback
    obtain ⟨m', hrun, hsink, hcells, hpointer⟩ := performMany_moveLeft_stuck hlt
    rw [hrun]
    exact .underflow hsink.symm hcells.symm hpointer hlt

theorem performMany_increment (n : Nat) (m : Machine ω) :
    m.performMany .increment n = (m.add (UInt8.ofNat n)).done := by
  induction n generalizing m with
  | zero => simp [performMany, add, Tape.modify]
  | succ n ih =>
    have hcell : m.tape.current + 1 + UInt8.ofNat n = m.tape.current + UInt8.ofNat (n + 1) := by
      rw [UInt8.ofNat_add]
      grind
    rw [performMany]
    simp [perform, done, ih, add, Tape.modify, hcell]

theorem performMany_decrement (n : Nat) (m : Machine ω) :
    m.performMany .decrement n = (m.sub (UInt8.ofNat n)).done := by
  induction n generalizing m with
  | zero => simp [performMany, sub, Tape.modify]
  | succ n ih =>
    have hcell : m.tape.current - 1 - UInt8.ofNat n = m.tape.current - UInt8.ofNat (n + 1) := by
      rw [UInt8.ofNat_add]
      grind
    rw [performMany]
    simp [perform, done, ih, sub, Tape.modify, hcell]

theorem performMany_output (n : Nat) (m : Machine ω) :
    m.performMany .output n = m.write n := by
  induction n generalizing m with
  | zero => rfl
  | succ n ih =>
    rw [performMany, perform]
    unfold write
    rw [Nat.add_comm n 1, Writer.putMany_add]
    cases hput : Writer.putMany 1 m.tape.current m.sink with
    | mk fault sink =>
      cases fault with
      | none => exact ih { m with sink }
      | some fault => rfl

theorem write_fault_ne_underflow (m : Machine ω) (count pointer distance : Nat) :
    (m.write count).fault ≠ some (.pointerUnderflow pointer distance) := by
  simp [write]

/-- An operation does the work of the instructions that it stands for, but for a move past the first
    cell. -/
theorem performMany_foldsTo (i : Instruction) (n : Nat) (m : Machine ω) :
    (m.performMany i (n + 1)).FoldsTo ((i.times (n + 1)).effect m) := by
  cases i with
  | moveRight =>
    rw [performMany_moveRight]
    exact .done _
  | moveLeft => exact performMany_moveLeft (n + 1) m
  | increment =>
    rw [performMany_increment]
    exact .done _
  | decrement =>
    rw [performMany_decrement]
    exact .done _
  | output =>
    rw [performMany_output]
    exact .same (m.write_fault_ne_underflow (n + 1))
  | input => exact .same (fun _ _ => nofun)
  | loopStart => exact .same (fun _ _ => nofun)
  | loopEnd => exact .same (fun _ _ => nofun)

end Machine

end OokLang
