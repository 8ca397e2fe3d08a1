namespace OokLang

/-- A tape of bytes that has a first cell and grows to the right, with a pointer to one of its
    cells: the cells to the left of the pointer, of which the nearest comes first, the cell at the
    pointer, and the cells to the right. -/
structure Tape where
  left : List UInt8
  current : UInt8
  right : List UInt8
  deriving DecidableEq, Repr

namespace Tape

/-- A single zero. -/
def blank : Tape :=
  { left := [], current := 0, right := [] }

/-- The number of the cell at the pointer, counted from zero. -/
def pointer (t : Tape) : Nat :=
  t.left.length

/-- All cells from the first to the last. -/
def cells (t : Tape) : List UInt8 :=
  t.left.reverse ++ t.current :: t.right

/-- One cell to the right. A cell that is new is zero. -/
def moveRight (t : Tape) : Tape :=
  match t.right with
  | [] => { left := t.current :: t.left, current := 0, right := [] }
  | cell :: right => { left := t.current :: t.left, current := cell, right }

/-- One cell to the left, if there is one. -/
def moveLeft? (t : Tape) : Option Tape :=
  match t.left with
  | [] => none
  | cell :: left => some { left, current := cell, right := t.current :: t.right }

/-- So many cells to the right. -/
def forward : Nat → Tape → Tape
  | 0, t => t
  | n + 1, t => forward n t.moveRight

/-- So many cells to the left, if there are as many. -/
def back? : Nat → Tape → Option Tape
  | 0, t => some t
  | n + 1, t =>
    match t.moveLeft? with
    | none => none
    | some t' => back? n t'

/-- To the right by a positive number of cells, or to the left by a negative one, if there are as
    many. -/
def shift? (t : Tape) (distance : Int) : Option Tape :=
  match distance with
  | .ofNat n => some (forward n t)
  | .negSucc n => back? (n + 1) t

/-- Changes the cell at the pointer. -/
def modify (t : Tape) (f : UInt8 → UInt8) : Tape :=
  { t with current := f t.current }

@[simp] theorem pointer_blank : blank.pointer = 0 := rfl

@[simp] theorem cells_blank : blank.cells = [0] := rfl

@[simp] theorem pointer_modify (t : Tape) (f : UInt8 → UInt8) :
    (t.modify f).pointer = t.pointer := rfl

/-- The pointer is at a cell of the tape. -/
theorem pointer_lt_length (t : Tape) : t.pointer < t.cells.length := by
  simp [pointer, cells]

/-- Any cells with a pointer to one of them are a tape. -/
theorem exists_cells_pointer {cells : List UInt8} {pointer : Nat} (hlt : pointer < cells.length) :
    ∃ t : Tape, t.cells = cells ∧ t.pointer = pointer := by
  refine ⟨⟨(cells.take pointer).reverse, cells[pointer], cells.drop (pointer + 1)⟩, ?_, ?_⟩
  · simp [Tape.cells]
  · simp [Tape.pointer]
    omega

/-- A tape is no more than its cells and the pointer to one of them. -/
theorem eq_of_cells_of_pointer {t t' : Tape} (hcells : t.cells = t'.cells)
    (hpointer : t.pointer = t'.pointer) : t = t' := by
  obtain ⟨left, current, right⟩ := t
  obtain ⟨left', current', right'⟩ := t'
  have hlength : left.reverse.length = left'.reverse.length := by simpa [pointer] using hpointer
  obtain ⟨hleft, hright⟩ := List.append_inj hcells hlength
  simp_all

@[simp] theorem pointer_moveRight (t : Tape) : t.moveRight.pointer = t.pointer + 1 := by
  unfold moveRight
  split <;> rfl

@[simp] theorem pointer_forward (n : Nat) (t : Tape) : (t.forward n).pointer = t.pointer + n := by
  induction n generalizing t with
  | zero => rfl
  | succ n ih =>
    rw [forward, ih, pointer_moveRight]
    omega

@[simp] theorem shift?_natCast (n : Nat) (t : Tape) : t.shift? n = some (t.forward n) := rfl

@[simp] theorem shift?_neg_natCast (n : Nat) (t : Tape) : t.shift? (-n) = t.back? n := by
  cases n with
  | zero => rfl
  | succ n => rfl

theorem shift?_neg_one (t : Tape) : t.shift? (-1) = t.moveLeft? := by
  change t.back? 1 = t.moveLeft?
  cases hmove : t.moveLeft? <;> simp [back?, hmove]

/-- A move to the left leaves the cells as they are. -/
theorem cells_moveLeft? {t t' : Tape} (hmove : t.moveLeft? = some t') : t'.cells = t.cells := by
  obtain ⟨left, current, right⟩ := t
  cases left with
  | nil => cases hmove
  | cons cell left =>
    cases hmove
    simp [cells]

theorem pointer_moveLeft? {t t' : Tape} (hmove : t.moveLeft? = some t') :
    t.pointer = t'.pointer + 1 := by
  obtain ⟨left, current, right⟩ := t
  cases left with
  | nil => cases hmove
  | cons cell left =>
    cases hmove
    rfl

theorem moveLeft?_eq_none_iff {t : Tape} : t.moveLeft? = none ↔ t.pointer = 0 := by
  obtain ⟨left, current, right⟩ := t
  cases left <;> simp [moveLeft?, pointer]

/-- A move to the left needs as many cells as it passes. -/
theorem back?_eq_none_iff {n : Nat} {t : Tape} : t.back? n = none ↔ t.pointer < n := by
  induction n generalizing t with
  | zero => simp [back?]
  | succ n ih =>
    obtain ⟨left, current, right⟩ := t
    cases left with
    | nil => simp [back?, moveLeft?, pointer]
    | cons cell left => simp [back?, moveLeft?, ih, pointer]

/-- A move fails exactly if it would pass the first cell. -/
theorem shift?_eq_none_iff {t : Tape} {distance : Int} :
    t.shift? distance = none ↔ t.pointer + distance < 0 := by
  cases distance with
  | ofNat n =>
    simp only [shift?, reduceCtorEq, Int.ofNat_eq_natCast, false_iff]
    omega
  | negSucc n =>
    simp only [shift?, back?_eq_none_iff]
    omega

end Tape

end OokLang
