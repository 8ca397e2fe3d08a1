import Mathlib.Data.List.GetD
import Mathlib.Logic.Function.Basic
import OokLang.Code.Run

namespace OokLang

variable {ω : Type}

/-- A machine whose tape has a first cell and no last one. All cells of a blank tape are zero. It
    keeps the largest number that the pointer has had since the tape was blank. -/
structure Endless (ω : Type) where
  pointer : Nat := 0
  cell : Nat → UInt8 := fun _ => 0
  reach : Nat := 0
  sink : ω

namespace Endless

def current (e : Endless ω) : UInt8 :=
  e.cell e.pointer

def isZero (e : Endless ω) : Bool :=
  e.current == 0

def goTo (e : Endless ω) (place : Nat) : Endless ω :=
  { e with pointer := place, reach := max e.reach place }

/-- Moves the pointer, but not past the first cell. -/
def shift (e : Endless ω) (distance : Int) : Option Fault × Endless ω :=
  if e.pointer + distance < 0 then (some (.pointerUnderflow e.pointer distance.natAbs), e)
  else (none, e.goTo (e.pointer + distance).toNat)

/-- Changes the cell at the pointer, and no other. -/
def modify (e : Endless ω) (f : UInt8 → UInt8) : Endless ω :=
  { e with cell := Function.update e.cell e.pointer (f e.current) }

def reset (e : Endless ω) : Endless ω :=
  { sink := e.sink }

variable [Writer ω]

def write (e : Endless ω) (count : Nat) : Option Fault × Endless ω :=
  let (cause, sink) := Writer.putMany count e.current e.sink
  (cause.map .output, { e with sink })

def flush (e : Endless ω) : Option Fault × Endless ω :=
  let (cause, sink) := Writer.flush e.sink
  (cause.map .output, { e with sink })

/-- Flushes after some work. A fault of the work comes before one of the flush. -/
def finish (e : Endless ω) (result : Option Fault) : Option Fault × Endless ω :=
  (result <|> e.flush.1, e.flush.2)

/-- Carries out an operation. A jump does nothing to the machine. -/
def effect (e : Endless ω) : Op → Option Fault × Endless ω
  | .shift distance => e.shift distance
  | .add amount => (none, e.modify (· + amount))
  | .sub amount => (none, e.modify (· - amount))
  | .write count => e.write count
  | .read => (some .unsupportedInput, e)
  | .undefined i => (some (.undefinedInstruction i), e)
  | .skipIfZero _ | .backUnlessZero _ => (none, e)

end Endless

namespace Tape

theorem length_cells (t : Tape) : t.cells.length = t.pointer + 1 + t.right.length := by
  simp only [cells, pointer, List.length_append, List.length_reverse, List.length_cons]
  omega

theorem getD_cells_pointer (t : Tape) : t.cells.getD t.pointer 0 = t.current := by
  simp [cells, pointer]

/-- A zero more at the end is not seen. -/
theorem getD_append_zero (cells : List UInt8) (index : Nat) :
    (cells ++ [0]).getD index 0 = cells.getD index 0 := by
  by_cases hlt : index < cells.length
  · rw [List.getD_append _ _ _ _ hlt]
  · have hle : cells.length ≤ index := Nat.le_of_not_lt hlt
    rw [List.getD_append_right _ _ _ _ hle, List.getD_eq_default _ _ hle]
    cases index - cells.length <;> rfl

theorem getD_cells_moveRight (t : Tape) (index : Nat) :
    t.moveRight.cells.getD index 0 = t.cells.getD index 0 := by
  obtain ⟨left, current, right⟩ := t
  cases right with
  | nil =>
    have hcells : (moveRight ⟨left, current, []⟩).cells = cells ⟨left, current, []⟩ ++ [0] := by
      simp [moveRight, cells]
    rw [hcells, getD_append_zero]
  | cons cell right => simp [moveRight, cells]

/-- A step to the right adds a cell exactly if it passes the last one. -/
theorem length_cells_moveRight (t : Tape) :
    t.moveRight.cells.length = max t.cells.length (t.pointer + 2) := by
  rw [length_cells, length_cells, pointer_moveRight]
  obtain ⟨left, current, right⟩ := t
  cases right with
  | nil => simp [moveRight]
  | cons cell right =>
    simp only [moveRight, List.length_cons]
    omega

theorem getD_cells_forward (n : Nat) (t : Tape) (index : Nat) :
    (t.forward n).cells.getD index 0 = t.cells.getD index 0 := by
  induction n generalizing t with
  | zero => rfl
  | succ n ih => rw [forward, ih, getD_cells_moveRight]

theorem length_cells_forward (n : Nat) (t : Tape) :
    (t.forward n).cells.length = max t.cells.length (t.pointer + n + 1) := by
  induction n generalizing t with
  | zero =>
    have hlt := t.pointer_lt_length
    rw [forward]
    omega
  | succ n ih =>
    rw [forward, ih, length_cells_moveRight, pointer_moveRight]
    omega

/-- Moves to the left leave the cells as they are. -/
theorem cells_back? {n : Nat} {t t' : Tape} (hback : t.back? n = some t') :
    t'.cells = t.cells ∧ t.pointer = t'.pointer + n := by
  induction n generalizing t with
  | zero =>
    cases hback
    exact ⟨rfl, rfl⟩
  | succ n ih =>
    rw [back?] at hback
    cases hmove : t.moveLeft? with
    | none => simp [hmove] at hback
    | some next =>
      simp only [hmove] at hback
      obtain ⟨hcells, hpointer⟩ := ih hback
      have hnext := pointer_moveLeft? hmove
      exact ⟨hcells.trans (cells_moveLeft? hmove), by omega⟩

theorem cells_modify (t : Tape) (f : UInt8 → UInt8) :
    (t.modify f).cells = t.cells.set t.pointer (f t.current) := by
  simp [modify, cells, pointer]

end Tape

/-- The endless machine that a machine stands for: its cells, and zeros after them. -/
def Machine.endless (m : Machine ω) : Endless ω where
  pointer := m.tape.pointer
  cell index := m.tape.cells.getD index 0
  reach := m.tape.cells.length - 1
  sink := m.sink

def Outcome.endless (o : Outcome ω) : Option Fault × Endless ω :=
  (o.fault, o.machine.endless)

/-- A machine and an endless machine have the same cells, with the pointer at the same one. Those
    that the machine does not store yet are zero, and it stores no cell that the pointer has not
    come to or passed. -/
structure Machine.Matches (m : Machine ω) (e : Endless ω) : Prop where
  pointer_eq : m.tape.pointer = e.pointer
  stored : ∀ index (h : index < m.tape.cells.length), m.tape.cells[index] = e.cell index
  beyond : ∀ index, m.tape.cells.length ≤ index → e.cell index = 0
  inside : m.tape.pointer < m.tape.cells.length
  length_eq : m.tape.cells.length = 1 + e.reach
  sink_eq : m.sink = e.sink

namespace Machine

/-- There is just one endless machine that a machine matches. -/
theorem matches_iff {m : Machine ω} {e : Endless ω} : m.Matches e ↔ m.endless = e := by
  have hlt := m.tape.pointer_lt_length
  constructor
  · intro h
    have hcell : m.endless.cell = e.cell := by
      funext index
      by_cases hindex : index < m.tape.cells.length
      · rw [← h.stored index hindex]
        exact List.getD_eq_getElem _ _ hindex
      · have hle : m.tape.cells.length ≤ index := Nat.le_of_not_lt hindex
        rw [h.beyond index hle]
        exact List.getD_eq_default _ _ hle
    have hreach : m.endless.reach = e.reach := by
      have hlength := h.length_eq
      change m.tape.cells.length - 1 = e.reach
      omega
    obtain ⟨pointer, cell, reach, sink⟩ := e
    obtain rfl : m.endless.cell = cell := hcell
    obtain rfl : m.endless.reach = reach := hreach
    obtain rfl : m.tape.pointer = pointer := h.pointer_eq
    obtain rfl : m.sink = sink := h.sink_eq
    rfl
  · rintro rfl
    refine ⟨rfl, ?_, ?_, hlt, ?_, rfl⟩
    · intro index hindex
      exact (List.getD_eq_getElem _ _ hindex).symm
    · intro index hle
      exact List.getD_eq_default _ _ hle
    · change m.tape.cells.length = 1 + (m.tape.cells.length - 1)
      omega

theorem endless_fresh (sink : ω) : endless { sink } = { sink } := by
  have hcell : (fun index => Tape.blank.cells.getD index 0) = fun _ => 0 := by
    funext index
    cases index <;> rfl
  change Endless.mk 0 (fun index => Tape.blank.cells.getD index 0) 0 sink = { sink }
  rw [hcell]

@[simp] theorem current_endless (m : Machine ω) : m.endless.current = m.tape.current :=
  m.tape.getD_cells_pointer

@[simp] theorem isZero_endless (m : Machine ω) : m.endless.isZero = m.isZero := by
  rw [Endless.isZero, current_endless]
  rfl

theorem endless_modify (m : Machine ω) (f : UInt8 → UInt8) :
    endless { m with tape := m.tape.modify f } = m.endless.modify f := by
  have hcell : (fun index => (m.tape.modify f).cells.getD index 0) =
      Function.update m.endless.cell m.tape.pointer (f m.tape.current) := by
    funext index
    have hlt := m.tape.pointer_lt_length
    rw [Tape.cells_modify]
    by_cases hindex : index = m.tape.pointer
    · subst hindex
      simp [List.getD_eq_getElem?_getD, hlt]
    · rw [Function.update_of_ne hindex]
      simp [List.getD_eq_getElem?_getD, endless, Ne.symm hindex]
  have hlength : (m.tape.modify f).cells.length = m.tape.cells.length := by
    rw [Tape.cells_modify, List.length_set]
  unfold Endless.modify
  rw [current_endless]
  simp only [endless, hcell, hlength, Tape.pointer_modify]

/-- A move goes to the same cell, or fails in the same way, and adds just the cells up to the
    pointer. -/
theorem endless_shift (m : Machine ω) (distance : Int) :
    (m.shift distance).endless = m.endless.shift distance := by
  have hlt := m.tape.pointer_lt_length
  have hpointer : m.endless.pointer = m.tape.pointer := rfl
  cases distance with
  | ofNat n =>
    -- Only here can the tape grow, and it does so up to the new place of the pointer.
    have hstays : ¬(m.tape.pointer : Int) + Int.ofNat n < 0 := by
      simp only [Int.ofNat_eq_natCast]
      omega
    have hplace : ((m.tape.pointer : Int) + Int.ofNat n).toNat = m.tape.pointer + n := rfl
    have hcell : (fun index => (m.tape.forward n).cells.getD index 0) = m.endless.cell :=
      funext (m.tape.getD_cells_forward n)
    have hreach : (m.tape.forward n).cells.length - 1 =
        max (m.tape.cells.length - 1) (m.tape.pointer + n) := by
      rw [Tape.length_cells_forward]
      omega
    rw [Endless.shift, hpointer, if_neg hstays, hplace]
    simp only [shift, Tape.shift?, Outcome.endless, done, endless, Endless.goTo, hcell, hreach,
      Tape.pointer_forward]
  | negSucc n =>
    rw [Endless.shift, hpointer]
    cases hback : m.tape.back? (n + 1) with
    | none =>
      have hpast := Tape.back?_eq_none_iff.mp hback
      have hfails : (m.tape.pointer : Int) + Int.negSucc n < 0 := by omega
      rw [if_pos hfails]
      simp only [shift, Tape.shift?, hback]
      rfl
    | some tape =>
      obtain ⟨hcells, hplace⟩ := Tape.cells_back? hback
      have hstays : ¬(m.tape.pointer : Int) + Int.negSucc n < 0 := by omega
      have htarget : ((m.tape.pointer : Int) + Int.negSucc n).toNat = tape.pointer := by omega
      have hreach : m.tape.cells.length - 1 = max (m.tape.cells.length - 1) tape.pointer := by
        omega
      rw [if_neg hstays, htarget]
      simp only [shift, Tape.shift?, hback, Outcome.endless, done, endless, Endless.goTo, hcells,
        ← hreach]

/-- A move that fails would go to the left by more cells than there are. It changes nothing. -/
theorem shift_of_fault {m : Machine ω} {distance : Int} (hfault : (m.shift distance).fault ≠ none) :
    ∃ k : Nat, distance = -k ∧ m.tape.pointer < k ∧
      m.shift distance = m.failed (.pointerUnderflow m.tape.pointer k) := by
  cases hshift : m.tape.shift? distance with
  | some tape =>
    rw [shift, hshift] at hfault
    exact absurd rfl hfault
  | none =>
    have hpast := Tape.shift?_eq_none_iff.mp hshift
    refine ⟨distance.natAbs, by omega, by omega, ?_⟩
    rw [shift, hshift]

theorem endless_reset (m : Machine ω) : m.reset.endless = m.endless.reset :=
  endless_fresh m.sink

variable [Writer ω]

theorem endless_write (m : Machine ω) (count : Nat) :
    (m.write count).endless = m.endless.write count := by
  rw [Endless.write, current_endless]
  rfl

theorem endless_flush (m : Machine ω) : m.flush.endless = m.endless.flush := rfl

theorem endless_finish (m : Machine ω) (result : Option Fault) :
    (Outcome.finish ⟨result, m⟩).endless = m.endless.finish result := rfl

/-- Every operation does the same to both machines. -/
theorem endless_effect (m : Machine ω) (op : Op) :
    (op.effect m).endless = m.endless.effect op := by
  cases op with
  | shift distance => exact m.endless_shift distance
  | add amount => exact congrArg (none, ·) (m.endless_modify (· + amount))
  | sub amount => exact congrArg (none, ·) (m.endless_modify (· - amount))
  | write count => exact m.endless_write count
  | read => rfl
  | undefined i => rfl
  | skipIfZero distance => rfl
  | backUnlessZero distance => rfl

end Machine

end OokLang
