import OokLang.Proofs.Lowering.Blocks
import OokLang.Proofs.Lowering.Repeats

namespace OokLang

namespace Program

/-- The operations that may do the work of a program, in order. An operation does the work of
    several copies of an instruction in a row only if copies are to be folded and the instruction
    allows it. A loop stands between two jumps that fit the length of its body. -/
inductive LowersTo (fold : Bool) : Program → List Op → Prop where
  | nil : LowersTo fold .nil []
  | repeated {i : Instruction} {n : Nat} {rest : Program} {ops : List Op}
      (hfold : n = 0 ∨ fold = true ∧ i.folds = true) (hrest : LowersTo fold rest ops) :
      LowersTo fold (.repeated i (n + 1) rest) (i.times (n + 1) :: ops)
  | loop {body rest : Program} {inner ops : List Op} (hbody : LowersTo fold body inner)
      (hrest : LowersTo fold rest ops) :
      LowersTo fold (.loop body rest)
        (.skipIfZero (inner.length + 2) :: (inner ++ .backUnlessZero inner.length :: ops))

namespace LowersTo

variable {fold : Bool} {p q : Program} {ops ops' : List Op}

theorem append (hp : p.LowersTo fold ops) (hq : q.LowersTo fold ops') :
    (p ++ q).LowersTo fold (ops ++ ops') := by
  induction hp with
  | nil => exact hq
  | repeated hfold _ ih =>
    rw [repeated_append, List.cons_append]
    exact .repeated hfold ih
  | loop hbody _ _ ih =>
    rw [loop_append, List.cons_append, List.append_assoc, List.cons_append]
    exact .loop hbody ih

theorem instr (i : Instruction) : (Program.instr i .nil).LowersTo fold [i.op] := by
  rw [← Instruction.times_one]
  exact .repeated (.inl rfl) .nil

theorem eq_nil (h : p.LowersTo fold []) : p = .nil := by
  cases h
  rfl

/-- An instruction that merges with the last operation goes into it. Only copies of one instruction
    merge, so no jump is the last operation then. -/
theorem merge {last merged : Op} {i : Instruction} (h : p.LowersTo true ops)
    (hlast : ops.getLast? = some last) (hmerge : last.merge? i.op = some merged) :
    (p ++ .instr i .nil).LowersTo true (ops.dropLast ++ [merged]) := by
  induction h with
  | nil => cases hlast
  | @repeated j n rest all hfold hrest ih =>
    rw [repeated_append]
    cases all with
    | nil =>
      obtain rfl : j.times (n + 1) = last := by simpa using hlast
      obtain rfl := hrest.eq_nil
      rw [Instruction.times_merge?] at hmerge
      split at hmerge
      · rename_i hsame
        obtain ⟨rfl, hfolds⟩ := hsame
        cases hmerge
        rw [nil_append, repeated_instr]
        exact .repeated (.inr ⟨rfl, hfolds⟩) .nil
      · cases hmerge
    | cons op all =>
      rw [List.dropLast_cons_cons]
      exact .repeated hfold (ih (by simpa using hlast))
  | @loop body rest inner all hbody hrest _ ih =>
    rw [← List.cons_append, List.getLast?_append] at hlast
    rw [← List.cons_append, List.dropLast_append_cons, loop_append]
    cases all with
    | nil =>
      obtain rfl : .backUnlessZero inner.length = last := by simpa using hlast
      cases hmerge
    | cons op all =>
      have hrest := ih (by simpa using hlast)
      simpa using LowersTo.loop hbody hrest

/-- An operation that is added to code adds its instruction to the program. -/
theorem emit {code : Code} (h : p.LowersTo fold code.toList) (i : Instruction) :
    (p ++ .instr i .nil).LowersTo fold (code.emit fold i.op).toList := by
  have hpush : (p ++ .instr i .nil).LowersTo fold (code.push i.op).toList := by
    rw [Array.toList_push]
    exact h.append (.instr i)
  unfold Code.emit
  split
  · rename_i last hback
    split
    · rename_i merged hmerge
      rw [Array.toList_push, Array.toList_pop]
      refine h.merge ?_ hmerge
      simpa using hback
    · exact hpush
  · exact hpush

/-- A loop that is added to code adds its operations. -/
theorem emitLoop {code body : Code} (h : p.LowersTo fold code.toList)
    (hbody : q.LowersTo fold body.toList) :
    (p ++ .loop q .nil).LowersTo fold (code ++ Code.loop body).toList := by
  have hloop : (Program.loop q .nil).LowersTo fold (Code.loop body).toList := by
    simpa [Code.loop] using LowersTo.loop hbody .nil
  rw [Array.toList_append]
  exact h.append hloop

end LowersTo

theorem lowersTo_lowerAfter {fold : Bool} {q : Program} {code : Code} (p : Program)
    (h : q.LowersTo fold code.toList) :
    (q ++ p).LowersTo fold (p.lowerAfter fold code).toList := by
  induction p generalizing q code with
  | nil => rwa [append_nil]
  | instr i rest ih =>
    have hrest := ih (h.emit i)
    rwa [append_assoc] at hrest
  | loop body rest ihbody ihrest =>
    have hbody : body.LowersTo fold (body.lower fold).toList := ihbody .nil
    have hrest := ihrest (h.emitLoop hbody)
    rwa [append_assoc, ← lowerAfter_loop] at hrest

/-- The code of a program does its work. -/
theorem lowersTo_lower (fold : Bool) (p : Program) : p.LowersTo fold (p.lower fold).toList :=
  lowersTo_lowerAfter p .nil

end Program

end OokLang
