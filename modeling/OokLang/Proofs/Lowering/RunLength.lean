import Mathlib.Data.List.Chain
import OokLang.Proofs.Lowering.Blocks
import OokLang.Proofs.Lowering.Repeats

namespace OokLang

namespace Program

/-- How many copies of an instruction a sequence begins with. -/
def leading (i : Instruction) : Program → Nat
  | instr j rest => if j = i then rest.leading i + 1 else 0
  | nil | loop _ _ => 0

/-- What follows the copies of an instruction that a sequence begins with. -/
def dropLeading (i : Instruction) : Program → Program
  | instr j rest => if j = i then rest.dropLeading i else instr j rest
  | p => p

theorem sizeOf_dropLeading_le (i : Instruction) (p : Program) :
    sizeOf (p.dropLeading i) ≤ sizeOf p := by
  induction p with
  | nil => exact Nat.le_refl _
  | loop body rest => exact Nat.le_refl _
  | instr j rest ih =>
    rw [dropLeading]
    split
    · have hsize : sizeOf (instr j rest) = 1 + sizeOf j + sizeOf rest := rfl
      omega
    · exact Nat.le_refl _

/-- The run-length form of a program. In each sequence the longest runs of one instruction become
    one operation each, if the instruction allows it. Any other instruction becomes an operation of
    its own, and a loop becomes the form of its body between two jumps that fit its length. -/
def runLength : Program → List Op
  | nil => []
  | instr i rest =>
    if i.folds then i.times (rest.leading i + 1) :: (rest.dropLeading i).runLength
    else i.op :: rest.runLength
  | loop body rest =>
    .skipIfZero (body.runLength.length + 2) ::
      (body.runLength ++ .backUnlessZero body.runLength.length :: rest.runLength)
termination_by p => p
decreasing_by
  · have hle := sizeOf_dropLeading_le i rest
    have hsize : sizeOf (instr i rest) = 1 + sizeOf i + sizeOf rest := rfl
    omega
  all_goals decreasing_tactic

/-- The copies at the start of a sequence and what follows them are all of it. -/
theorem repeated_leading (i : Instruction) (p : Program) :
    repeated i (p.leading i) (p.dropLeading i) = p := by
  induction p with
  | nil => rfl
  | loop body rest => rfl
  | instr j rest ih =>
    rw [leading, dropLeading]
    split
    · rename_i hsame
      rw [repeated, ih, hsame]
    · rfl

/-- No further copy follows. -/
theorem ne_of_dropLeading {i j : Instruction} {p rest : Program}
    (hdrop : p.dropLeading i = instr j rest) : j ≠ i := by
  induction p with
  | nil => cases hdrop
  | loop body rest => cases hdrop
  | instr first next ih =>
    rw [dropLeading] at hdrop
    split at hdrop
    · exact ih hdrop
    · cases hdrop
      assumption

end Program

/-- An operation does not merge with the first instruction of what follows. -/
def Op.StaysApart (op : Op) (p : Program) : Prop :=
  ∀ i rest, p = .instr i rest → op.merge? i.op = none

namespace Op

/-- The operation of a longest run stays apart from what follows the run. -/
theorem staysApart_dropLeading (i : Instruction) (n : Nat) (p : Program) :
    (i.times (n + 1)).StaysApart (p.dropLeading i) := by
  intro j rest hdrop
  have hne := Program.ne_of_dropLeading hdrop
  rw [Instruction.times_merge?, if_neg (fun h => hne h.1)]

theorem staysApart_of_not_folds {i : Instruction} (hfolds : ¬i.folds = true) (p : Program) :
    i.op.StaysApart p := by
  intro j rest _
  rw [← Instruction.times_one, Instruction.times_merge?, if_neg (fun h => hfolds h.2)]

theorem staysApart_of_isJump {jump : Op} (hjump : jump.isJump = true) (p : Program) :
    jump.StaysApart p := by
  intro i rest _
  exact (merge?_of_isJump hjump i.op).2

/-- It does not depend on the number of copies whether an operation merges with them. -/
theorem merge?_times_eq_none_iff (op : Op) (i : Instruction) (n : Nat) :
    op.merge? (i.times (n + 1)) = none ↔ op.merge? i.op = none := by
  have hright : ((n + 1 : Nat) : Int).sign = (1 : Int).sign :=
    Int.sign_eq_one_of_pos (by omega)
  have hleft : (-((n + 1 : Nat) : Int)).sign = (-1 : Int).sign :=
    Int.sign_eq_neg_one_of_neg (by omega)
  cases op with
  | shift distance =>
    cases i with
    | moveRight =>
      rw [Instruction.times, Instruction.op, merge?, merge?, hright]
      split <;> simp
    | moveLeft =>
      rw [Instruction.times, Instruction.op, merge?, merge?, hleft]
      split <;> simp
    | increment | decrement | input | output | loopStart | loopEnd => exact Iff.rfl
  | add | sub | write => cases i <;> simp [Instruction.times, Instruction.op, merge?]
  | read | undefined | skipIfZero | backUnlessZero => cases i <;> exact Iff.rfl

/-- An operation that stays apart from a program does not merge with its first operation either. -/
theorem StaysApart.merge?_eq_none {op : Op} {p : Program} (hapart : op.StaysApart p) :
    ∀ first ∈ p.runLength.head?, op.merge? first = none := by
  intro first hfirst
  cases p with
  | nil => simp [Program.runLength] at hfirst
  | instr i rest =>
    have hmerge := hapart i rest rfl
    rw [Program.runLength] at hfirst
    split at hfirst
    · obtain rfl : i.times (rest.leading i + 1) = first := by simpa using hfirst
      exact (op.merge?_times_eq_none_iff i _).mpr hmerge
    · obtain rfl : i.op = first := by simpa using hfirst
      exact hmerge
  | loop body rest =>
    obtain rfl : .skipIfZero (body.runLength.length + 2) = first := by
      simpa [Program.runLength] using hfirst
    exact (merge?_of_isJump rfl op).1

end Op

namespace Code

theorem emit_of_merge? {last op merged : Op} (hmerge : last.merge? op = some merged)
    (code : Code) : Code.emit true (code.push last) op = code.push merged := by
  simp [emit, hmerge]

/-- Code whose last operation stays apart from a program, or that is empty. -/
def StaysApart (code : Code) (p : Program) : Prop :=
  ∀ last ∈ code.back?, last.StaysApart p

theorem StaysApart.empty (p : Program) : StaysApart #[] p := by
  intro last hlast
  simp at hlast

theorem StaysApart.push {last : Op} {p : Program} (hapart : last.StaysApart p) (code : Code) :
    StaysApart (code.push last) p := by
  intro op hop
  obtain rfl : last = op := by simpa using hop
  exact hapart

/-- An instruction becomes an operation of its own behind code that stays apart from it. -/
theorem StaysApart.emit {code : Code} {i : Instruction} {rest : Program}
    (hapart : code.StaysApart (.instr i rest)) : code.emit true i.op = code.push i.op := by
  cases hlast : code.back? with
  | none => simp [Code.emit, hlast]
  | some last => simp [Code.emit, hlast, hapart last hlast i rest rfl]

end Code

namespace Program

/-- Further copies of an instruction go into the operation that stands for some already. -/
theorem lowerAfter_repeated {i : Instruction} (hfolds : i.folds = true) (code : Code) (n k : Nat)
    (rest : Program) :
    (repeated i k rest).lowerAfter true (code.push (i.times (n + 1))) =
      rest.lowerAfter true (code.push (i.times (n + k + 1))) := by
  induction k generalizing n with
  | zero => rfl
  | succ k ih =>
    have hmerge : (i.times (n + 1)).merge? i.op = some (i.times (n + 2)) := by
      rw [Instruction.times_merge?, if_pos ⟨rfl, hfolds⟩]
    have hcount : n + 1 + k + 1 = n + (k + 1) + 1 := by omega
    rw [repeated, lowerAfter, Code.emit_of_merge? hmerge, ih, hcount]

/-- Behind code that it stays apart from, a program becomes its run-length form. -/
theorem toList_lowerAfter (p : Program) (code : Code) (hapart : code.StaysApart p) :
    (p.lowerAfter true code).toList = code.toList ++ p.runLength := by
  -- By induction on the runs, for any code, since the bodies of loops begin with none.
  fun_induction runLength p generalizing code with
  | case1 => simp [lowerAfter]
  | case2 i rest hfolds ih =>
    have hlower : (instr i rest).lowerAfter true code =
        (rest.dropLeading i).lowerAfter true (code.push (i.times (rest.leading i + 1))) := by
      calc (instr i rest).lowerAfter true code
          = rest.lowerAfter true (code.push (i.times 1)) := by
            rw [lowerAfter, hapart.emit, Instruction.times_one]
        _ = (repeated i (rest.leading i) (rest.dropLeading i)).lowerAfter true
              (code.push (i.times (0 + 1))) := by rw [repeated_leading]
        _ = _ := by rw [lowerAfter_repeated hfolds, Nat.zero_add]
    have hnext := Op.staysApart_dropLeading i (rest.leading i) rest
    rw [hlower, ih _ (.push hnext code), Array.toList_push, List.append_assoc]
    rfl
  | case3 i rest hfolds ih =>
    have hnext := Op.staysApart_of_not_folds hfolds rest
    rw [lowerAfter, hapart.emit, ih _ (.push hnext code), Array.toList_push, List.append_assoc]
    rfl
  | case4 body rest ihbody ihrest =>
    have hbody : (body.lower true).toList = body.runLength := ihbody #[] (.empty body)
    have hsize : (body.lower true).size = body.runLength.length := by
      rw [← hbody, Array.length_toList]
    have hapart' : Code.StaysApart (code ++ Code.loop (body.lower true)) rest := by
      rw [Code.loop, ← Array.push_append, ← Array.push_append]
      exact .push (Op.staysApart_of_isJump rfl rest) _
    rw [lowerAfter_loop, ihrest _ hapart']
    simp [Code.loop, hbody, hsize]

theorem isChain_runLength (p : Program) :
    p.runLength.IsChain fun op next => op.merge? next = none := by
  fun_induction runLength p with
  | case1 => exact .nil
  | case2 i rest hfolds ih =>
    have hnext := Op.staysApart_dropLeading i (rest.leading i) rest
    exact List.isChain_cons.mpr ⟨hnext.merge?_eq_none, ih⟩
  | case3 i rest hfolds ih =>
    have hnext := Op.staysApart_of_not_folds hfolds rest
    exact List.isChain_cons.mpr ⟨hnext.merge?_eq_none, ih⟩
  | case4 body rest ihbody ihrest =>
    refine List.isChain_cons.mpr ⟨fun next _ => (Op.merge?_of_isJump rfl next).2, ?_⟩
    refine ihbody.append (List.isChain_cons.mpr ⟨?_, ihrest⟩) ?_
    · exact fun next _ => (Op.merge?_of_isJump rfl next).2
    · rintro op - next hnext
      obtain rfl : .backUnlessZero body.runLength.length = next := by simpa using hnext
      exact (Op.merge?_of_isJump rfl op).1

/-- Folded code is the run-length form of its program, sequence by sequence. No two neighbours in it
    could be merged any further. -/
theorem lower_fold_eq_runLength (p : Program) :
    (p.lower true).toList = p.runLength ∧
      (p.lower true).toList.IsChain fun op next => op.merge? next = none := by
  have hlower : (p.lower true).toList = p.runLength := p.toList_lowerAfter #[] (.empty p)
  rw [hlower]
  exact ⟨rfl, p.isChain_runLength⟩

example : runLength (.instr .increment (.instr .increment (.loop (.instr .increment
    (.instr .moveLeft .nil)) (.instr .moveLeft .nil)))) =
    [.add 2, .skipIfZero 4, .add 1, .shift (-1), .backUnlessZero 2, .shift (-1)] := by cbv

end Program

end OokLang
