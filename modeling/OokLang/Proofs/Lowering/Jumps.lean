import OokLang.Proofs.Lowering.Layout
import OokLang.Proofs.Simulation

namespace OokLang

variable {ω : Type}

namespace Op

/-- A loop takes up so many operations from an index on: the jump past all of them, its body, and
    the jump back to the first operation of the body. -/
def LoopAt (ops : List Op) (index size : Nat) : Prop :=
  ∃ before body after,
    ops = before ++ .skipIfZero (body.length + 2) ::
      (body ++ .backUnlessZero body.length :: after) ∧
    index = before.length ∧ size = body.length + 2

/-- An operation at an index is no jump or belongs to a loop, whose size is the distance that the
    jump at its start goes and two more than the one at its end goes. -/
def Paired (ops : List Op) (index : Nat) : Op → Prop
  | skipIfZero distance => LoopAt ops index distance
  | backUnlessZero distance =>
    ∃ first, index = first + distance + 1 ∧ LoopAt ops first (distance + 2)
  | _ => True

variable {ops : List Op} {index size : Nat} {op : Op}

theorem LoopAt.spec (h : LoopAt ops index size) :
    2 ≤ size ∧ index + size ≤ ops.length ∧ ops[index]? = some (.skipIfZero size) ∧
      ops[index + size - 1]? = some (.backUnlessZero (size - 2)) := by
  obtain ⟨before, body, after, rfl, rfl, rfl⟩ := h
  have hlast : before.length + (body.length + 2) - 1 = before.length + (body.length + 1) := by omega
  refine ⟨by omega, ?_, ?_, ?_⟩
  · simp only [List.length_append, List.length_cons]
    omega
  · simp
  · rw [hlast, List.getElem?_append_right (by omega), Nat.add_sub_cancel_left,
      List.getElem?_cons_succ, List.getElem?_append_right (Nat.le_refl _)]
    simp

/-- A loop stays one among more operations. -/
theorem LoopAt.among (h : LoopAt ops index size) (front rest : List Op) :
    LoopAt (front ++ (ops ++ rest)) (front.length + index) size := by
  obtain ⟨before, body, after, rfl, rfl, rfl⟩ := h
  exact ⟨front ++ before, body, after ++ rest, by simp, by simp, rfl⟩

theorem Paired.among (h : op.Paired ops index) (front rest : List Op) :
    op.Paired (front ++ (ops ++ rest)) (front.length + index) := by
  cases op with
  | skipIfZero distance => exact LoopAt.among h front rest
  | backUnlessZero distance =>
    obtain ⟨first, rfl, hloop⟩ := h
    exact ⟨front.length + first, by omega, hloop.among front rest⟩
  | shift | add | sub | write | read | undefined => trivial

theorem paired_of_not_isJump (hjump : op.isJump = false) : op.Paired ops index := by
  cases op with
  | skipIfZero | backUnlessZero => cases hjump
  | shift | add | sub | write | read | undefined => trivial

/-- An operation of a loop and of what follows it is one of the jumps, or in the body, or behind the
    loop. -/
theorem getElem?_loop_cases {first last : Op} {body rest : List Op}
    (hop : (first :: (body ++ last :: rest))[index]? = some op) :
    (index = 0 ∧ first = op) ∨ (∃ inside, index = 1 + inside ∧ body[inside]? = some op) ∨
      (index = body.length + 1 ∧ last = op) ∨
        ∃ behind, index = body.length + 2 + behind ∧ rest[behind]? = some op := by
  cases index with
  | zero => exact .inl ⟨rfl, Option.some.inj hop⟩
  | succ index =>
    rw [List.getElem?_cons_succ] at hop
    rcases Nat.lt_or_ge index body.length with hlt | hge
    · rw [List.getElem?_append_left hlt] at hop
      exact .inr (.inl ⟨index, Nat.add_comm index 1, hop⟩)
    · obtain ⟨behind, rfl⟩ := Nat.exists_eq_add_of_le hge
      rw [List.getElem?_append_right hge, Nat.add_sub_cancel_left] at hop
      cases behind with
      | zero => exact .inr (.inr (.inl ⟨rfl, Option.some.inj hop⟩))
      | succ behind => exact .inr (.inr (.inr ⟨behind, by omega, hop⟩))

end Op

namespace Program.LowersTo

variable {fold : Bool} {p : Program} {ops : List Op}

/-- Each jump in the code of a program is at the start or the end of a loop. -/
theorem paired (h : p.LowersTo fold ops) {index : Nat} {op : Op} (hop : ops[index]? = some op) :
    op.Paired ops index := by
  induction h generalizing index with
  | nil => cases hop
  | @repeated i n rest ops _ _ ih =>
    cases index with
    | zero =>
      obtain rfl : i.times (n + 1) = op := Option.some.inj hop
      exact Op.paired_of_not_isJump (i.isJump_times (n + 1))
    | succ index =>
      have hrest := (ih hop).among [i.times (n + 1)] []
      simpa [Nat.add_comm 1 index] using hrest
  | @loop body rest inner ops _ _ ihbody ihrest =>
    rcases Op.getElem?_loop_cases hop with
      ⟨rfl, rfl⟩ | ⟨inside, rfl, hinside⟩ | ⟨rfl, rfl⟩ | ⟨behind, rfl, hbehind⟩
    · exact ⟨[], inner, ops, rfl, rfl, rfl⟩
    · exact (ihbody hinside).among [.skipIfZero (inner.length + 2)]
        (.backUnlessZero inner.length :: ops)
    · exact ⟨0, by omega, [], inner, ops, rfl, rfl, rfl⟩
    · have hrest := (ihrest hbehind).among
        (.skipIfZero (inner.length + 2) :: (inner ++ [.backUnlessZero inner.length])) []
      simpa using hrest

/-- Of two loops one is inside of the other's body, or they are apart. -/
theorem nested (h : p.LowersTo fold ops) {first first' size size' : Nat}
    (hloop : ops[first]? = some (.skipIfZero size))
    (hloop' : ops[first']? = some (.skipIfZero size')) :
    first = first' ∨ first + size ≤ first' ∨ first' + size' ≤ first ∨
      (first < first' ∧ first' + size' < first + size) ∨
        (first' < first ∧ first + size < first' + size') := by
  induction h generalizing first first' with
  | nil => cases hloop
  | @repeated i n rest ops _ _ ih =>
    have hjump := i.isJump_times (n + 1)
    cases first with
    | zero =>
      rw [Option.some.inj hloop] at hjump
      cases hjump
    | succ first =>
      cases first' with
      | zero =>
        rw [Option.some.inj hloop'] at hjump
        cases hjump
      | succ first' =>
        have hrest := ih hloop hloop'
        omega
  | @loop body rest inner ops hbody _ ihbody ihrest =>
    -- Each of the two is the loop itself, or in its body, or behind it.
    have place {first size : Nat}
        (hloop : (.skipIfZero (inner.length + 2) ::
          (inner ++ .backUnlessZero inner.length :: ops))[first]? = some (.skipIfZero size)) :
        (first = 0 ∧ size = inner.length + 2) ∨
          (∃ inside, first = 1 + inside ∧ inner[inside]? = some (.skipIfZero size) ∧
            inside + size ≤ inner.length) ∨
            ∃ behind, first = inner.length + 2 + behind ∧
              ops[behind]? = some (.skipIfZero size) := by
      rcases Op.getElem?_loop_cases hloop with
        ⟨hfirst, hsize⟩ | ⟨inside, hfirst, hinside⟩ | ⟨_, hsize⟩ | hbehind
      · cases hsize
        exact .inl ⟨hfirst, rfl⟩
      · exact .inr (.inl ⟨inside, hfirst, hinside, (hbody.paired hinside).spec.2.1⟩)
      · cases hsize
      · exact .inr (.inr hbehind)
    rcases place hloop with ⟨_, _⟩ | ⟨inside, _, hinside, _⟩ | ⟨behind, _, hbehind⟩ <;>
      rcases place hloop' with ⟨_, _⟩ | ⟨inside', _, hinside', _⟩ | ⟨behind', _, hbehind'⟩
    case inr.inl.inr.inl =>
      have hapart := ihbody hinside hinside'
      omega
    case inr.inr.inr.inr =>
      have hapart := ihrest hbehind hbehind'
      omega
    all_goals omega

end Program.LowersTo

namespace Code.State

variable [Writer ω] {code : Code}

/-- A step stays in code whose jumps forward do. -/
theorem counter_le_size_of_step
    (hskip : ∀ index distance, code[index]? = some (.skipIfZero distance) →
      index + distance ≤ code.size)
    {s s' : State ω} (hstep : step code s = .going s') : s'.counter ≤ code.size := by
  obtain ⟨counter, m⟩ := s
  cases hop : code[counter]? with
  | none =>
    rw [step_of_none hop] at hstep
    cases hstep
  | some op =>
    have hlt : counter < code.size := (Array.getElem?_eq_some_iff.mp hop).1
    cases op with
    | skipIfZero distance =>
      have hle := hskip counter distance hop
      rw [step_skipIfZero hop] at hstep
      cases hstep
      dsimp only
      split <;> omega
    | backUnlessZero distance =>
      rw [step_backUnlessZero hop] at hstep
      cases hstep
      dsimp only
      split <;> omega
    | shift | add | sub | write | read | undefined =>
      rw [step_of_not_isJump hop rfl] at hstep
      rw [Outcome.andGo_eq_going hstep]
      exact hlt

/-- A run ends well only where there is no operation any more. -/
theorem getElem?_eq_none_of_stopped {s : State ω} {o : Outcome ω}
    (hstep : step code s = .stopped o) (hfault : o.fault = none) :
    code[s.counter]? = none ∧ o = s.machine.done := by
  obtain ⟨counter, m⟩ := s
  cases hop : code[counter]? with
  | none =>
    rw [step_of_none hop] at hstep
    exact ⟨rfl, (Progress.stopped.inj hstep).symm⟩
  | some op =>
    cases op with
    | skipIfZero distance =>
      rw [step_skipIfZero hop] at hstep
      cases hstep
    | backUnlessZero distance =>
      rw [step_backUnlessZero hop] at hstep
      cases hstep
    | shift | add | sub | write | read | undefined =>
      rw [step_of_not_isJump hop rfl] at hstep
      exact absurd hfault (Outcome.andGo_eq_stopped hstep)

end Code.State

namespace Program

section Lower

variable {p : Program} {fold : Bool} {index distance : Nat}

theorem back_of_skip (hskip : (p.lower fold)[index]? = some (.skipIfZero distance)) :
    2 ≤ distance ∧ index + distance ≤ (p.lower fold).size ∧
      (p.lower fold)[index + distance - 1]? = some (.backUnlessZero (distance - 2)) := by
  rw [← Array.getElem?_toList] at hskip ⊢
  obtain ⟨htwo, hle, _, hback⟩ := ((p.lowersTo_lower fold).paired hskip).spec
  exact ⟨htwo, hle, hback⟩

theorem skip_of_back (hback : (p.lower fold)[index]? = some (.backUnlessZero distance)) :
    distance + 1 ≤ index ∧
      (p.lower fold)[index - distance - 1]? = some (.skipIfZero (distance + 2)) := by
  rw [← Array.getElem?_toList] at hback ⊢
  obtain ⟨first, rfl, hloop⟩ := (p.lowersTo_lower fold).paired hback
  have hfirst : first + distance + 1 - distance - 1 = first := by omega
  rw [hfirst]
  exact ⟨by omega, hloop.spec.2.2.1⟩

end Lower

/-- The jumps in the code of a program come in pairs. A jump forward goes just past the jump back of
    its pair, and that one goes to the operation after the first. Two pairs are apart, or one is
    inside of the other. So a run never leaves the code, no jump back would pass its first
    operation, and a run that ends well has come exactly to its end. -/
theorem lower_jumps (p : Program) (fold : Bool) :
    let code := p.lower fold
    (∀ index distance : Nat, code[index]? = some (.skipIfZero distance) →
      2 ≤ distance ∧ index + distance ≤ code.size ∧
        code[index + distance - 1]? = some (.backUnlessZero (distance - 2))) ∧
    (∀ index distance : Nat, code[index]? = some (.backUnlessZero distance) →
      distance + 1 ≤ index ∧ code[index - distance - 1]? = some (.skipIfZero (distance + 2))) ∧
    (∀ first size first' size' : Nat, code[first]? = some (.skipIfZero size) →
      code[first']? = some (.skipIfZero size') →
      first = first' ∨ first + size ≤ first' ∨ first' + size' ≤ first ∨
        (first < first' ∧ first' + size' < first + size) ∨
          (first' < first ∧ first + size < first' + size')) ∧
    ∀ {ω : Type} [Writer ω] (m : Machine ω),
      (∀ steps s, Leads (Code.State.step code) steps ⟨0, m⟩ s →
        s.counter ≤ code.size ∧
          ∀ distance, code[s.counter]? = some (.backUnlessZero distance) → distance ≤ s.counter) ∧
      ∀ fuel o, code.run fuel m = some o → o.fault = none →
        ∃ steps, Leads (Code.State.step code) steps ⟨0, m⟩ ⟨code.size, o.machine⟩ := by
  intro code
  refine ⟨fun _ _ => back_of_skip, fun _ _ => skip_of_back, ?_, ?_⟩
  · intro first size first' size' hloop hloop'
    rw [← Array.getElem?_toList] at hloop hloop'
    exact (p.lowersTo_lower fold).nested hloop hloop'
  · intro ω _ m
    have hstays {steps : Nat} {s : Code.State ω}
        (hleads : Leads (Code.State.step code) steps ⟨0, m⟩ s) : s.counter ≤ code.size :=
      hleads.keeps (fun hstep _ => Code.State.counter_le_size_of_step
        (fun _ _ hskip => (back_of_skip hskip).2.1) hstep) (Nat.zero_le _)
    refine ⟨?_, ?_⟩
    · intro steps s hleads
      refine ⟨hstays hleads, ?_⟩
      intro distance hback
      exact Nat.le_of_succ_le (skip_of_back hback).1
    · intro fuel o hrun hfault
      obtain ⟨steps, ⟨counter, m'⟩, hleads, hstopped⟩ := exists_leads_of_runFor hrun
      obtain ⟨hnone, rfl⟩ := Code.State.getElem?_eq_none_of_stopped hstopped hfault
      have hend : code.size ≤ counter := Array.getElem?_eq_none_iff.mp hnone
      obtain rfl : counter = code.size := Nat.le_antisymm (hstays hleads) hend
      exact ⟨steps, hleads⟩

end Program

end OokLang
