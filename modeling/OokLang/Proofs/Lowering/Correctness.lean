import OokLang.Proofs.Lowering.Layout
import OokLang.Proofs.Simulation
import OokLang.Sink

namespace OokLang

variable {ω : Type}

namespace Code

/-- Operations stand in code from a place on. -/
def Holds (code : Code) (a : Nat) (ops : List Op) : Prop :=
  ops <+: code.toList.drop a

namespace Holds

variable {code : Code} {a : Nat} {op : Op} {ops ops' : List Op}

theorem head (h : code.Holds a (op :: ops)) : code[a]? = some op := by
  obtain ⟨rest, hrest⟩ := h
  have hhead := congrArg List.head? hrest
  simpa using hhead.symm

theorem append_left (h : code.Holds a (ops ++ ops')) : code.Holds a ops :=
  (List.prefix_append ops ops').trans h

theorem append_right (h : code.Holds a (ops ++ ops')) : code.Holds (a + ops.length) ops' := by
  obtain ⟨rest, hrest⟩ := h
  refine ⟨rest, ?_⟩
  rw [← List.drop_drop, ← hrest, List.append_assoc, List.drop_left]

theorem tail (h : code.Holds a (op :: ops)) : code.Holds (a + 1) ops :=
  (show code.Holds a ([op] ++ ops) from h).append_right

end Holds

/-- The operations from one place of code to another do the work of a program. -/
def Spells (fold : Bool) (code : Code) (a : Nat) (p : Program) (b : Nat) : Prop :=
  ∃ ops, p.LowersTo fold ops ∧ code.Holds a ops ∧ b = a + ops.length

/-- At a place of code the work goes on with what is pending after a block: the jump back to the
    body of the innermost loop, then what follows that loop, up to the end of the code. -/
inductive Resumes (fold : Bool) (code : Code) : List Program → Nat → Prop where
  | nil {b : Nat} (hend : code[b]? = none) : Resumes fold code [] b
  | cons {body rest : Program} {pending : List Program} {a d c : Nat}
      (hback : code[a + d]? = some (.backUnlessZero d)) (hbody : code.Spells fold a body (a + d))
      (hrest : code.Spells fold (a + d + 1) rest c) (hpending : Resumes fold code pending c) :
      Resumes fold code (.loop body rest :: pending) (a + d)

/-- A run of code has come to where a run of the program is. -/
inductive Tracks (fold : Bool) (code : Code) : Program.State ω → State ω → Prop where
  | intro {todo : Program} {pending : List Program} {m : Machine ω} {a b : Nat}
      (htodo : code.Spells fold a todo b) (hpending : Resumes fold code pending b) :
      Tracks fold code ⟨todo, pending, m⟩ ⟨a, m⟩

/-- After the test of a loop, wherever in the code it is made. -/
theorem Tracks.test {fold : Bool} {code : Code} {body rest : Program} {pending : List Program}
    {a d c : Nat} (hback : code[a + d]? = some (.backUnlessZero d))
    (hbody : code.Spells fold a body (a + d)) (hrest : code.Spells fold (a + d + 1) rest c)
    (hpending : Resumes fold code pending c) (m : Machine ω) :
    Tracks fold code
      (if m.isZero then ⟨rest, pending, m⟩ else ⟨body, .loop body rest :: pending, m⟩)
      ⟨if m.isZero then a + d + 1 else a, m⟩ := by
  cases m.isZero with
  | true => exact .intro hrest hpending
  | false => exact .intro hbody (.cons hback hbody hrest hpending)

/-- At its start code is where its program is. -/
theorem Tracks.start (fold : Bool) (p : Program) (m : Machine ω) :
    Tracks fold (p.lower fold) ⟨p, [], m⟩ ⟨0, m⟩ := by
  have hspells : (p.lower fold).Spells fold 0 p (p.lower fold).size :=
    ⟨_, p.lowersTo_lower fold, List.prefix_rfl, by simp⟩
  exact .intro hspells (.nil (by simp))

end Code

/-- How the outcome of code compares with that of its program: exactly, or up to what folding
    changes. -/
def Outcome.Agrees : Bool → Outcome ω → Outcome ω → Prop
  | false, o, o' => o = o'
  | true, o, o' => o.FoldsTo o'

theorem Outcome.Agrees.done (fold : Bool) (m : Machine ω) : m.done.Agrees fold m.done := by
  cases fold with
  | false => rfl
  | true => exact Outcome.FoldsTo.done m

/-- Outcomes that agree are the same if there is no fault, and have a fault both or none. -/
theorem Outcome.Agrees.cases {fold : Bool} {o o' : Outcome ω} (h : o.Agrees fold o') :
    (∃ m : Machine ω, o = m.done ∧ o' = m.done) ∨ o.fault ≠ none ∧ o'.fault ≠ none := by
  have same (o : Outcome ω) :
      (∃ m : Machine ω, o = m.done ∧ o = m.done) ∨ o.fault ≠ none ∧ o.fault ≠ none := by
    obtain ⟨fault, m⟩ := o
    cases fault with
    | none => exact .inl ⟨m, rfl, rfl⟩
    | some fault => exact .inr ⟨nofun, nofun⟩
  cases fold with
  | false =>
    cases h
    exact same o
  | true =>
    cases h with
    | same => exact same o
    | underflow => exact .inr ⟨nofun, nofun⟩

section Runs

variable [Writer ω]

theorem Machine.performMany_agrees {fold : Bool} {i : Instruction} {n : Nat}
    (hfold : n = 0 ∨ fold = true ∧ i.folds = true) (m : Machine ω) :
    (m.performMany i (n + 1)).Agrees fold ((i.times (n + 1)).effect m) := by
  cases fold with
  | true => exact m.performMany_foldsTo i n
  | false =>
    obtain rfl : n = 0 := by simpa using hfold
    rw [Nat.zero_add, Instruction.times_one, Instruction.effect_op]
    exact performMany_one i m

/-- Copies of an instruction that go well lead to what follows them. -/
theorem Program.State.leads_repeated {i : Instruction} {n : Nat} {rest : Program}
    {pending : List Program} {m m' : Machine ω} (hmany : m.performMany i n = m'.done) :
    Leads State.step n ⟨.repeated i n rest, pending, m⟩ ⟨rest, pending, m'⟩ := by
  induction n generalizing m with
  | zero =>
    cases hmany
    exact .refl _
  | succ n ih =>
    rw [Machine.performMany] at hmany
    cases hperform : m.perform i with
    | mk fault next =>
      cases fault with
      | none =>
        rw [hperform] at hmany
        have hstep : step ⟨.repeated i (n + 1) rest, pending, m⟩ =
            .going ⟨.repeated i n rest, pending, next⟩ := by
          rw [repeated, step_instr, hperform]
          rfl
        exact .cons hstep (ih hmany)
      | some fault =>
        rw [hperform] at hmany
        cases hmany

/-- A fault of one of the copies ends the run. -/
theorem Program.State.runFor_repeated {i : Instruction} {n : Nat} {rest : Program}
    {pending : List Program} {m : Machine ω} (hmany : (m.performMany i n).fault ≠ none) :
    runFor State.step n ⟨.repeated i n rest, pending, m⟩ = some (m.performMany i n) := by
  induction n generalizing m with
  | zero => exact absurd rfl hmany
  | succ n ih =>
    rw [Machine.performMany] at hmany ⊢
    cases hperform : m.perform i with
    | mk fault next =>
      cases fault with
      | none =>
        rw [hperform] at hmany
        rw [runFor, repeated, step_instr, hperform]
        exact ih hmany
      | some fault =>
        rw [runFor, repeated, step_instr, hperform]
        rfl

/-- A run of code that has come to where the run of its program is does so again and again. Each
    time it makes one step, by which it tests a loop or does the work of some instructions. -/
theorem Code.Tracks.together (fold : Bool) (code : Code) :
    Together Program.State.step (State.step code) (Tracks (ω := ω) fold code)
      (Outcome.Agrees fold) := by
  intro s t htracks
  obtain @⟨todo, pending, m, a, b, ⟨ops, hlowers, hholds, hb⟩, hpending⟩ := htracks
  cases hlowers with
  | nil =>
    -- The block is done, and the code is at its end or at the jump that tests the loop around.
    obtain rfl : b = a := hb
    cases hpending with
    | nil hend =>
      refine .stopped (n := 1) (k := 1) rfl ?_ (.done fold m)
      rw [runFor, State.step_of_none hend]
    | @cons body rest pending a d c hback hbody hrest hpending =>
      have hcode := State.step_backUnlessZero (m := m) hback
      rw [Nat.add_sub_cancel] at hcode
      exact .going (.cons rfl (.one (Program.State.step_loop body rest))) (.one hcode)
        (.test hback hbody hrest hpending m)
  | @repeated i n rest ops hfold hrest =>
    have hop := State.step_of_not_isJump (m := m) hholds.head (i.isJump_times (n + 1))
    have hrest : code.Spells fold (a + 1) rest b :=
      ⟨ops, hrest, hholds.tail, by rw [hb, List.length_cons]; omega⟩
    -- If the copies go well their operation does the same, so that both go on. The operation may
    -- fail before the copies do, but not without them.
    have hagrees := m.performMany_agrees hfold
    rcases hagrees.cases with ⟨m', hmany, heffect⟩ | ⟨hmany, heffect⟩
    · rw [heffect] at hop
      exact .going (Program.State.leads_repeated hmany) (.one hop) (.intro hrest hpending)
    · refine .stopped (k := 1) (Program.State.runFor_repeated hmany) ?_ hagrees
      rw [runFor, hop, Outcome.andGo_of_fault _ heffect]
  | @loop body rest inner ops hbody hrest =>
    -- Both test the loop. Where its body is to run, the jump back behind it is left pending.
    have hskip := State.step_skipIfZero (m := m) hholds.head
    have hback := hholds.tail.append_right.head
    have hbody : code.Spells fold (a + 1) body (a + 1 + inner.length) :=
      ⟨inner, hbody, hholds.tail.append_left, rfl⟩
    have hrest : code.Spells fold (a + 1 + inner.length + 1) rest b := by
      refine ⟨ops, hrest, hholds.tail.append_right.tail, ?_⟩
      simp only [List.length_cons, List.length_append] at hb
      omega
    have hplace : a + (inner.length + 2) = a + 1 + inner.length + 1 := by omega
    rw [hplace] at hskip
    exact .going (.one (Program.State.step_loop body rest)) (.one hskip)
      (.test hback hbody hrest hpending m)

/-- Lowering keeps what a program does. A program halts exactly if its code does, and then with the
    same fault or none, the same tape and pointer, and the same sink, on which nothing is assumed.
    -/
theorem Program.run_lower_iff (p : Program) (m : Machine ω) (o : Outcome ω) :
    (∃ fuel, p.run fuel m = some o) ↔ ∃ fuel, (p.lower false).run fuel m = some o := by
  have htogether := Code.Tracks.together (ω := ω) false (p.lower false)
  have hstart := Code.Tracks.start false p m
  constructor
  · rintro ⟨fuel, hrun⟩
    obtain ⟨fuel', o', hrun', rfl⟩ := htogether.ends hstart hrun
    exact ⟨fuel', hrun'⟩
  · rintro ⟨fuel, hrun⟩
    obtain ⟨fuel', o', hrun', rfl⟩ := htogether.symm.ends hstart hrun
    exact ⟨fuel', hrun'⟩

/-- Folding keeps what a program does, but for where a move past the first cell is noticed. A
    program still halts exactly if its code does. -/
theorem Program.run_lower_fold (p : Program) (m : Machine ω) :
    ((∃ fuel o, p.run fuel m = some o) ↔ ∃ fuel o, (p.lower true).run fuel m = some o) ∧
      ∀ fuel fuel' o o', p.run fuel m = some o → (p.lower true).run fuel' m = some o' →
        o.FoldsTo o' := by
  have htogether := Code.Tracks.together (ω := ω) true (p.lower true)
  have hstart := Code.Tracks.start true p m
  refine ⟨htogether.ends_iff hstart, ?_⟩
  intro fuel fuel' o o' hrun hrun'
  exact htogether.outcomes hstart hrun hrun'

/-- Two steps to the left from the second cell: the second step fails at the first cell, and the
    folded move where it starts. -/
theorem Program.run_lower_fold_underflow :
    let p : Program := .instr .moveLeft (.instr .moveLeft .nil)
    let m : Machine Sink := { tape := { left := [7], current := 0, right := [] }, sink := {} }
    let m' : Machine Sink := { tape := { left := [], current := 7, right := [0] }, sink := {} }
    p.run 2 m = some (m'.failed (.pointerUnderflow 0 1)) ∧
      (p.lower true).run 1 m = some (m.failed (.pointerUnderflow 1 2)) ∧
      (m'.failed (.pointerUnderflow 0 1)).FoldsTo (m.failed (.pointerUnderflow 1 2)) := by
  intro p m m'
  have hrun : p.run 2 m = some (m'.failed (.pointerUnderflow 0 1)) := rfl
  have hcode : (p.lower true).run 1 m = some (m.failed (.pointerUnderflow 1 2)) := rfl
  exact ⟨hrun, hcode, (run_lower_fold p m).2 2 1 _ _ hrun hcode⟩

end Runs

end OokLang
