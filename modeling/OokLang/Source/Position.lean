namespace OokLang.Source

/-- A place in a text: its line and column, both counted from one, and the number of characters
    before it. -/
structure Position where
  line : Nat := 1
  column : Nat := 1
  offset : Nat := 0
  deriving DecidableEq, Repr

namespace Position

/-- The place of the first character. -/
def start : Position := {}

/-- The place after a character. Only a line feed starts a new line. -/
def advance (p : Position) (c : Char) : Position :=
  if c = '\n' then { line := p.line + 1, column := 1, offset := p.offset + 1 }
  else { line := p.line, column := p.column + 1, offset := p.offset + 1 }

/-- The place after a piece of text. -/
def advanceAll (p : Position) (text : List Char) : Position :=
  text.foldl advance p

@[simp] theorem advance_offset (p : Position) (c : Char) :
    (p.advance c).offset = p.offset + 1 := by
  unfold advance
  split <;> rfl

@[simp] theorem advanceAll_nil (p : Position) : p.advanceAll [] = p := rfl

@[simp] theorem advanceAll_cons (p : Position) (c : Char) (text : List Char) :
    p.advanceAll (c :: text) = (p.advance c).advanceAll text := rfl

/-- Two pieces are passed one after the other. -/
theorem advanceAll_append (p : Position) (first second : List Char) :
    p.advanceAll (first ++ second) = (p.advanceAll first).advanceAll second :=
  List.foldl_append

theorem advanceAll_offset (p : Position) (text : List Char) :
    (p.advanceAll text).offset = p.offset + text.length := by
  induction text generalizing p with
  | nil => rfl
  | cons c text ih =>
    rw [advanceAll_cons, ih, advance_offset, List.length_cons]
    omega

end Position

end OokLang.Source
