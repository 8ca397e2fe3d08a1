import OokLang.Code.Lowering
import OokLang.Code.Run

namespace OokLang

/-- Nothing merges with a jump, neither before it nor after it. -/
theorem Op.merge?_of_isJump {jump : Op} (hjump : jump.isJump = true) (op : Op) :
    op.merge? jump = none ∧ jump.merge? op = none := by
  cases jump <;> cases op <;> first | exact ⟨rfl, rfl⟩ | cases hjump

namespace Code

/-- Code with nothing at its end that a further operation may go into: it is empty, or nothing
    merges with its last operation. -/
def Closed (code : Code) : Prop :=
  ∀ last ∈ code.back?, ∀ op, last.merge? op = none

/-- Code is closed where the body of a loop begins, since a jump stands there. -/
theorem closed_push {jump : Op} (hjump : jump.isJump = true) (code : Code) :
    Closed (code.push jump) := by
  intro last hlast op
  obtain rfl : jump = last := by simpa using hlast
  exact (Op.merge?_of_isJump hjump op).2

/-- No operation goes into closed code. -/
theorem Closed.emit_eq_push {code : Code} (h : code.Closed) (fold : Bool) (op : Op) :
    code.emit fold op = code.push op := by
  cases fold with
  | false => rfl
  | true =>
    cases hlast : code.back? with
    | none => simp [emit, hlast]
    | some last => simp [emit, hlast, h last hlast op]

/-- Code that closed code stands in front of takes an operation as it does on its own. -/
theorem Closed.emit_append {front : Code} (h : front.Closed) (fold : Bool) (code : Code) (op : Op) :
    Code.emit fold (front ++ code) op = front ++ code.emit fold op := by
  cases hlast : code.back? with
  | none =>
    obtain rfl := Array.back?_eq_none_iff.mp hlast
    rw [Array.append_empty, h.emit_eq_push, Array.push_eq_append]
    cases fold <;> rfl
  | some last =>
    obtain ⟨code, rfl⟩ := Array.back?_eq_some_iff.mp hlast
    rw [Array.append_push]
    cases fold with
    | false => simp [emit]
    | true => cases hmerge : last.merge? op <;> simp [emit, hmerge]

/-- A loop around a body. The jump at its start goes past its end, and the one at its end goes to
    the first operation of the body. -/
def loop (body : Code) : Code :=
  let start : Code := #[.skipIfZero (body.size + 2)]
  start ++ body.push (.backUnlessZero body.size)

/-- A loop ends in the same way behind any other code. -/
theorem endLoop_append (front code : Code) (start : Nat) :
    Code.endLoop (front ++ code) (front.size + start) = front ++ code.endLoop start := by
  have hdistance : (front ++ code).size - (front.size + start) - 1 = code.size - start - 1 := by
    rw [Array.size_append]
    omega
  rw [endLoop, endLoop, hdistance, Array.setIfInBounds_append_right (Nat.le_add_right _ _),
    Nat.add_sub_cancel_left, Array.push_append]

/-- The distances of both jumps fit the body that stands behind the first of them. -/
theorem endLoop_start (distance : Nat) (body : Code) :
    Code.endLoop (#[.skipIfZero distance] ++ body) 0 = loop body := by
  have hdistance : (#[Op.skipIfZero distance] ++ body).size - 0 - 1 = body.size := by simp
  rw [endLoop, hdistance, Array.setIfInBounds_append_left Nat.one_pos, ← Array.append_push]
  rfl

end Code

namespace Program

variable {fold : Bool}

/-- Behind closed code a program becomes the same operations as on its own, and the closed code
    stays as it is. -/
theorem lowerAfter_append {front : Code} (h : front.Closed) (p : Program) (code : Code) :
    p.lowerAfter fold (front ++ code) = front ++ p.lowerAfter fold code := by
  -- Bodies are added to the same code, so the induction is for any code behind the closed one.
  induction p generalizing code with
  | nil => rfl
  | instr i rest ih => rw [lowerAfter, lowerAfter, h.emit_append, ih]
  | loop body rest ihbody ihrest =>
    rw [lowerAfter, lowerAfter, ← Array.append_push, ihbody, Array.size_append,
      Code.endLoop_append, ihrest]

/-- A loop that is added to code is its body's own code between two jumps that fit the length. -/
theorem lowerAfter_loop (body rest : Program) (code : Code) :
    (loop body rest).lowerAfter fold code =
      rest.lowerAfter fold (code ++ Code.loop (body.lower fold)) := by
  let start : Code := #[.skipIfZero 0]
  have hclosed : Code.Closed (code ++ start) := by
    rw [← Array.push_eq_append]
    exact Code.closed_push rfl code
  have hbody : body.lowerAfter fold (code.push (.skipIfZero 0)) =
      code ++ (start ++ body.lower fold) := by
    rw [lower, ← Array.append_assoc, ← lowerAfter_append hclosed, Array.append_empty,
      Array.push_eq_append]
  have hend := Code.endLoop_append code (start ++ body.lower fold) 0
  rw [Nat.add_zero, Code.endLoop_start] at hend
  rw [lowerAfter, hbody, hend]

end Program

end OokLang
