import OokLang.Instruction

namespace OokLang

/-- A program is a sequence of instructions and loops, and so is the body of a loop. A program that
    was read has no marks of loops among its instructions, but one made by hand may. -/
inductive Program where
  /-- The end of the sequence. -/
  | nil
  /-- An instruction, and what follows it. -/
  | instr (first : Instruction) (rest : Program)
  /-- A loop, and what follows it. -/
  | loop (body rest : Program)
  deriving DecidableEq, Repr

namespace Program

/-- The number of instructions and loops in a sequence, those inside of its loops left out. -/
def length : Program → Nat
  | nil => 0
  | instr _ rest => rest.length + 1
  | loop _ rest => rest.length + 1

/-- How many loops are nested in one another at most. -/
def nesting : Program → Nat
  | nil => 0
  | instr _ rest => rest.nesting
  | loop body rest => max (body.nesting + 1) rest.nesting

/-- The sequence one instruction after the other, each loop between its two marks. -/
def instructions : Program → List Instruction
  | nil => []
  | instr i rest => i :: rest.instructions
  | loop body rest => .loopStart :: (body.instructions ++ .loopEnd :: rest.instructions)

/-- The markers that a program is written with. -/
def markers (p : Program) : List Marker :=
  p.instructions.flatMap fun i => [i.markers.1, i.markers.2]

/-- One sequence after the other. -/
def append : Program → Program → Program
  | nil, q => q
  | instr i rest, q => instr i (rest.append q)
  | loop body rest, q => loop body (rest.append q)

instance : Append Program := ⟨append⟩

/-- A sequence backwards, in front of another. The bodies of its loops stay as they are. -/
def reverseOnto : Program → Program → Program
  | nil, q => q
  | instr i rest, q => rest.reverseOnto (instr i q)
  | loop body rest, q => rest.reverseOnto (loop body q)

/-- A sequence backwards. The bodies of its loops stay as they are. -/
def reverse (p : Program) : Program :=
  p.reverseOnto nil

@[simp] theorem nil_append (q : Program) : nil ++ q = q := rfl

@[simp] theorem instr_append (i : Instruction) (rest q : Program) :
    instr i rest ++ q = instr i (rest ++ q) := rfl

@[simp] theorem loop_append (body rest q : Program) :
    loop body rest ++ q = loop body (rest ++ q) := rfl

@[simp] theorem append_nil (p : Program) : p ++ nil = p := by
  induction p with
  | nil => rfl
  | instr i rest ih => rw [instr_append, ih]
  | loop body rest _ ih => rw [loop_append, ih]

theorem append_assoc (p q r : Program) : p ++ q ++ r = p ++ (q ++ r) := by
  induction p with
  | nil => rfl
  | instr i rest ih => rw [instr_append, instr_append, instr_append, ih]
  | loop body rest _ ih => rw [loop_append, loop_append, loop_append, ih]

/-- Only the front of a reversed sequence is turned around. -/
theorem reverseOnto_eq_append (p q : Program) : p.reverseOnto q = p.reverse ++ q := by
  unfold reverse
  induction p generalizing q with
  | nil => rfl
  | instr i rest ih => rw [reverseOnto, reverseOnto, ih, ih (instr i nil), append_assoc]; rfl
  | loop body rest _ ih => rw [reverseOnto, reverseOnto, ih, ih (loop body nil), append_assoc]; rfl

/-- Turning around a sequence that was turned around gives it back. -/
theorem reverseOnto_reverseOnto (p q r : Program) :
    (p.reverseOnto q).reverseOnto r = q.reverseOnto (p ++ r) := by
  induction p generalizing q with
  | nil => rfl
  | instr i rest ih => exact ih (instr i q)
  | loop body rest _ ih => exact ih (loop body q)

@[simp] theorem reverse_reverse (p : Program) : p.reverse.reverse = p := by
  unfold reverse
  rw [reverseOnto_reverseOnto, append_nil]
  rfl

theorem reverse_instr (i : Instruction) (rest : Program) :
    (instr i rest).reverse = rest.reverse ++ instr i nil :=
  reverseOnto_eq_append rest (instr i nil)

theorem reverse_loop (body rest : Program) :
    (loop body rest).reverse = rest.reverse ++ loop body nil :=
  reverseOnto_eq_append rest (loop body nil)

@[simp] theorem markers_nil : nil.markers = [] := rfl

@[simp] theorem markers_instr (i : Instruction) (rest : Program) :
    (instr i rest).markers = i.markers.1 :: i.markers.2 :: rest.markers := rfl

@[simp] theorem markers_loop (body rest : Program) :
    (loop body rest).markers =
      .bang :: .question :: (body.markers ++ .question :: .bang :: rest.markers) := by
  simp [markers, instructions, Instruction.markers]

theorem markers_length (p : Program) : p.markers.length = 2 * p.instructions.length := by
  unfold markers
  induction p.instructions with
  | nil => rfl
  | cons i rest ih =>
    rw [List.flatMap_cons, List.length_append, ih]
    simp only [List.length_cons, List.length_nil]
    omega

end Program

end OokLang
