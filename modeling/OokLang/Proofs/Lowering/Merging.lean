import OokLang.Proofs.Endless.Basic
import OokLang.Proofs.Lowering.Repeats
import OokLang.Sink

namespace OokLang

variable {ω : Type}

/-- Goes on with other work, unless there was a fault. -/
def Outcome.andThen (o : Outcome ω) (next : Machine ω → Outcome ω) : Outcome ω :=
  match o.fault with
  | none => next o.machine
  | some _ => o

@[simp] theorem Outcome.andThen_done (m : Machine ω) (next : Machine ω → Outcome ω) :
    m.done.andThen next = next m := rfl

/-- Distances of the same sign go both to the left, or none of them does. -/
theorem neg_or_nonneg_of_sign_eq {first second : Int} (hsign : first.sign = second.sign) :
    (first < 0 ∧ second < 0) ∨ (0 ≤ first ∧ 0 ≤ second) := by
  by_cases hfirst : first < 0
  · have hsecond : second.sign = -1 := by rw [← hsign, Int.sign_eq_neg_one_of_neg hfirst]
    exact .inl ⟨hfirst, Int.neg_of_sign_eq_neg_one hsecond⟩
  · have hnonneg : 0 ≤ first := Int.not_lt.mp hfirst
    rw [← Int.sign_nonneg_iff, hsign, Int.sign_nonneg_iff] at hnonneg
    exact .inr ⟨Int.not_lt.mp hfirst, hnonneg⟩

/-- How the outcome of two operations compares with that of one that does the work of both, starting
    on the given machine. It is the same but for a move past the first cell, which the one operation
    notices as a whole of the given size and does not begin, while the first of the two may have
    moved the pointer. -/
inductive Outcome.MergesTo (m : Machine ω) (size : Nat) : Outcome ω → Outcome ω → Prop where
  | same {o : Outcome ω}
      (hfault : ∀ pointer distance, o.fault ≠ some (.pointerUnderflow pointer distance)) :
      MergesTo m size o o
  | underflow {m' : Machine ω} {distance : Nat} (hsink : m'.sink = m.sink)
      (hcells : m'.tape.cells = m.tape.cells) :
      MergesTo m size (m'.failed (.pointerUnderflow m'.tape.pointer distance))
        (m.failed (.pointerUnderflow m.tape.pointer size))

theorem Outcome.MergesTo.done (m : Machine ω) (size : Nat) (m' : Machine ω) :
    MergesTo m size m'.done m'.done :=
  .same (fun _ _ => nofun)

namespace Tape

theorem forward_add (n k : Nat) (t : Tape) : t.forward (n + k) = (t.forward n).forward k := by
  induction n generalizing t with
  | zero => rw [Nat.zero_add, forward]
  | succ n ih => rw [Nat.add_right_comm, forward, ih, forward]

theorem back?_add (n k : Nat) (t : Tape) : t.back? (n + k) = (t.back? n).bind (back? k) := by
  induction n generalizing t with
  | zero => rw [Nat.zero_add, back?, Option.bind_some]
  | succ n ih =>
    rw [Nat.add_right_comm, back?, back?]
    cases t.moveLeft? with
    | none => rfl
    | some next => exact ih next

end Tape

namespace Machine

theorem shift_natCast (m : Machine ω) (n : Nat) :
    m.shift n = { m with tape := m.tape.forward n }.done := by
  rw [shift, Tape.shift?_natCast]

/-- Two moves to the right are one move. -/
theorem shift_natCast_add (m : Machine ω) (n k : Nat) :
    m.shift (n + k : Nat) = (m.shift n).andThen (·.shift k) := by
  rw [shift_natCast, shift_natCast, Outcome.andThen_done, shift_natCast, Tape.forward_add]

/-- Two moves to the left are one move, of which no part is done if the tape ends before. -/
theorem shift_neg_natCast_mergesTo (m : Machine ω) (n k : Nat) :
    ((m.shift (-n)).andThen (·.shift (-k))).MergesTo m (n + k) (m.shift (-(n + k : Nat))) := by
  rw [shift_neg_natCast, shift_neg_natCast, Tape.back?_add]
  cases hfirst : m.tape.back? n with
  | none => exact .underflow rfl rfl
  | some next =>
    have hcells : next.cells = m.tape.cells := (Tape.cells_back? hfirst).1
    simp only [Option.bind_some, Outcome.andThen_done, shift_neg_natCast]
    cases next.back? k with
    | none => exact .underflow rfl hcells
    | some last => exact .done m (n + k) _

/-- Moves in the same direction do their work as one. -/
theorem shift_mergesTo (m : Machine ω) {first second : Int} (hsign : first.sign = second.sign) :
    ((m.shift first).andThen (·.shift second)).MergesTo m (first.natAbs + second.natAbs)
      (m.shift (first + second)) := by
  obtain ⟨hfirst, hsecond⟩ | ⟨hfirst, hsecond⟩ := neg_or_nonneg_of_sign_eq hsign
  · obtain ⟨n, rfl⟩ := Int.exists_eq_neg_ofNat (Int.le_of_lt hfirst)
    obtain ⟨k, rfl⟩ := Int.exists_eq_neg_ofNat (Int.le_of_lt hsecond)
    have hmerged : -(n : Int) + -(k : Int) = -(n + k : Nat) := by omega
    rw [hmerged, Int.natAbs_neg, Int.natAbs_neg]
    exact m.shift_neg_natCast_mergesTo n k
  · obtain ⟨n, rfl⟩ := Int.eq_ofNat_of_zero_le hfirst
    obtain ⟨k, rfl⟩ := Int.eq_ofNat_of_zero_le hsecond
    rw [← Int.natCast_add, shift_natCast_add, shift_natCast, Outcome.andThen_done, shift_natCast]
    exact .done m _ _

theorem add_add (m : Machine ω) (first second : UInt8) :
    (m.add first).add second = m.add (first + second) := by
  simp [add, Tape.modify, UInt8.add_assoc]

theorem sub_sub (m : Machine ω) (first second : UInt8) :
    (m.sub first).sub second = m.sub (first + second) := by
  have hcell : m.tape.current - first - second = m.tape.current - (first + second) := by grind
  simp [sub, Tape.modify, hcell]

/-- Writing on starts where writing went well. -/
theorem write_add [Writer ω] (m : Machine ω) (n k : Nat) :
    m.write (n + k) = (m.write n).andThen (·.write k) := by
  unfold write
  rw [Writer.putMany_add]
  cases Writer.putMany n m.tape.current m.sink with
  | mk cause sink => cases cause <;> rfl

end Machine

/-- Code of two operations that are no jumps carries out one after the other. -/
theorem Code.run_pair [Writer ω] {a b : Op} (ha : a.isJump = false) (hb : b.isJump = false)
    (m : Machine ω) : run 3 #[a, b] m = some ((a.effect m).andThen b.effect) := by
  have hfirst (m : Machine ω) :
      State.step #[a, b] ⟨0, m⟩ = (a.effect m).andGo (⟨1, ·⟩) := State.step_of_not_isJump rfl ha
  have hsecond (m : Machine ω) :
      State.step #[a, b] ⟨1, m⟩ = (b.effect m).andGo (⟨2, ·⟩) := State.step_of_not_isJump rfl hb
  have hend (m : Machine ω) : State.step #[a, b] ⟨2, m⟩ = .stopped m.done := rfl
  rw [run, runFor, hfirst]
  cases a.effect m with
  | mk fault m' =>
    cases fault with
    | some fault => rfl
    | none =>
      simp only [Outcome.andGo, Outcome.andThen, runFor, hsecond]
      cases b.effect m' with
      | mk fault m'' =>
        cases fault with
        | some fault => rfl
        | none => simp only [hend, Machine.done]

theorem Code.run_singleton [Writer ω] {a : Op} (ha : a.isJump = false) (m : Machine ω) :
    run 2 #[a] m = some (a.effect m) := by
  have hfirst (m : Machine ω) :
      State.step #[a] ⟨0, m⟩ = (a.effect m).andGo (⟨1, ·⟩) := State.step_of_not_isJump rfl ha
  have hend (m : Machine ω) : State.step #[a] ⟨1, m⟩ = .stopped m.done := rfl
  rw [run, runFor, hfirst]
  cases a.effect m with
  | mk fault m' =>
    cases fault with
    | some fault => rfl
    | none => simp only [Outcome.andGo, runFor, hend, Machine.done]

namespace Op

/-- How far an operation moves the pointer. -/
def size : Op → Nat
  | shift distance => distance.natAbs
  | _ => 0

variable {a b c : Op}

/-- Two operations merge if they are moves in the same direction, additions, subtractions or
    writes. -/
theorem merge?_cases (hmerge : a.merge? b = some c) :
    (∃ first second : Int, first.sign = second.sign ∧
      a = shift first ∧ b = shift second ∧ c = shift (first + second)) ∨
    (∃ first second, a = add first ∧ b = add second ∧ c = add (first + second)) ∨
    (∃ first second, a = sub first ∧ b = sub second ∧ c = sub (first + second)) ∨
    ∃ first second, a = write first ∧ b = write second ∧ c = write (first + second) := by
  unfold merge? at hmerge
  split at hmerge
  · split at hmerge
    · rename_i hsign
      cases hmerge
      exact .inl ⟨_, _, hsign, rfl, rfl, rfl⟩
    · cases hmerge
  · cases hmerge
    exact .inr (.inl ⟨_, _, rfl, rfl, rfl⟩)
  · cases hmerge
    exact .inr (.inr (.inl ⟨_, _, rfl, rfl, rfl⟩))
  · cases hmerge
    exact .inr (.inr (.inr ⟨_, _, rfl, rfl, rfl⟩))
  · cases hmerge

theorem isJump_of_merge? (hmerge : a.merge? b = some c) :
    a.isJump = false ∧ b.isJump = false ∧ c.isJump = false := by
  obtain ⟨_, _, _, rfl, rfl, rfl⟩ | ⟨_, _, rfl, rfl, rfl⟩ | ⟨_, _, rfl, rfl, rfl⟩ |
    ⟨_, _, rfl, rfl, rfl⟩ := merge?_cases hmerge
  all_goals exact ⟨rfl, rfl, rfl⟩

/-- A merged move goes as far as both moves together. -/
theorem size_of_merge? (hmerge : a.merge? b = some c) : c.size = a.size + b.size := by
  obtain ⟨first, second, hsign, rfl, rfl, rfl⟩ | ⟨_, _, rfl, rfl, rfl⟩ | ⟨_, _, rfl, rfl, rfl⟩ |
    ⟨_, _, rfl, rfl, rfl⟩ := merge?_cases hmerge
  · have hsigns := neg_or_nonneg_of_sign_eq hsign
    simp only [size]
    omega
  all_goals rfl

/-- Operations that merge do their work as one. -/
theorem effect_mergesTo [Writer ω] (hmerge : a.merge? b = some c) (m : Machine ω) :
    ((a.effect m).andThen b.effect).MergesTo m (a.size + b.size) (c.effect m) := by
  obtain ⟨first, second, hsign, rfl, rfl, rfl⟩ | ⟨first, second, rfl, rfl, rfl⟩ |
    ⟨first, second, rfl, rfl, rfl⟩ | ⟨first, second, rfl, rfl, rfl⟩ := merge?_cases hmerge
  · exact m.shift_mergesTo hsign
  · rw [effect, Outcome.andThen_done, effect, effect, Machine.add_add]
    exact .done m _ _
  · rw [effect, Outcome.andThen_done, effect, effect, Machine.sub_sub]
    exact .done m _ _
  · change ((m.write first).andThen (·.write second)).MergesTo m _ (m.write (first + second))
    rw [← Machine.write_add]
    exact .same (m.write_fault_ne_underflow (first + second))

/-- Merging is sound on every machine, whatever the operations and the sink. Code of one operation
    that two merge into ends as code of the two does: with the same cells and the same sink, with
    the same fault or none, and with the pointer at the same cell. Only where a move passes the
    first cell does the merged one not begin, and reports where it started and how far both would go. -/
theorem run_of_merge? [Writer ω] (hmerge : a.merge? b = some c) (m : Machine ω) :
    ∃ apart merged : Outcome ω,
      Code.run 3 #[a, b] m = some apart ∧ Code.run 2 #[c] m = some merged ∧
      apart = (a.effect m).andThen b.effect ∧ merged = c.effect m ∧
      merged.machine.tape.cells = apart.machine.tape.cells ∧
      merged.machine.sink = apart.machine.sink ∧
      ((∀ pointer distance, apart.fault ≠ some (.pointerUnderflow pointer distance)) →
        merged = apart) ∧
      ∀ pointer distance, apart.fault = some (.pointerUnderflow pointer distance) →
        merged = m.failed (.pointerUnderflow m.tape.pointer c.size) ∧ c.size = a.size + b.size := by
  obtain ⟨ha, hb, hc⟩ := isJump_of_merge? hmerge
  have hsize := size_of_merge? hmerge
  have hmerges := effect_mergesTo hmerge m
  rw [← hsize] at hmerges
  refine ⟨_, _, Code.run_pair ha hb m, Code.run_singleton hc m, rfl, rfl, ?_⟩
  generalize (a.effect m).andThen b.effect = apart at hmerges
  generalize c.effect m = merged at hmerges
  cases hmerges with
  | same hfault =>
    refine ⟨rfl, rfl, fun _ => rfl, ?_⟩
    intro pointer distance hunderflow
    exact absurd hunderflow (hfault pointer distance)
  | @underflow m' distance hsink hcells =>
    refine ⟨hcells.symm, hsink.symm, ?_, fun _ _ _ => ⟨rfl, hsize⟩⟩
    intro hfault
    exact absurd rfl (hfault m'.tape.pointer distance)

/-- Moves by one and by two cells to the left from the third cell, of which the first goes well, and
    five writes where there is room for four. -/
theorem run_of_merge?_cut_short :
    let m : Machine Sink :=
      { tape := { left := [8, 7], current := 9, right := [] }, sink := { room := some 4 } }
    let m' : Machine Sink := { m with tape := { left := [7], current := 8, right := [9] } }
    let full : Machine Sink :=
      { m with sink := { room := some 0, received := #[9, 9, 9, 9] } }
    (shift (-1)).merge? (shift (-2)) = some (shift (-3)) ∧
    (∃ apart merged : Outcome Sink,
      Code.run 3 #[shift (-1), shift (-2)] m = some apart ∧
      Code.run 2 #[shift (-3)] m = some merged ∧
      apart = m'.failed (.pointerUnderflow 1 2) ∧ merged = m.failed (.pointerUnderflow 2 3) ∧
      merged.machine.tape.cells = apart.machine.tape.cells) ∧
    (write 2).merge? (write 3) = some (write 5) ∧
    ∃ apart merged : Outcome Sink,
      Code.run 3 #[write 2, write 3] m = some apart ∧ Code.run 2 #[write 5] m = some merged ∧
      apart = full.failed (.output .brokenPipe) ∧ merged = apart := by
  intro m m' full
  have hmoves : (shift (-1)).merge? (shift (-2)) = some (shift (-3)) := rfl
  have hwrites : (write 2).merge? (write 3) = some (write 5) := rfl
  refine ⟨hmoves, ?_, hwrites, ?_⟩
  · obtain ⟨apart, merged, hapart, hmerged, rfl, _, hcells, _, _, hunderflow⟩ :=
      run_of_merge? hmoves m
    have hsteps : ((shift (-1)).effect m).andThen (shift (-2)).effect =
        m'.failed (.pointerUnderflow 1 2) := rfl
    rw [hsteps] at hapart hcells hunderflow
    exact ⟨_, merged, hapart, hmerged, rfl, (hunderflow 1 2 rfl).1, hcells⟩
  · obtain ⟨apart, merged, hapart, hmerged, rfl, _, _, _, hsame, _⟩ := run_of_merge? hwrites m
    have hsteps : ((write 2).effect m).andThen (write 3).effect =
        full.failed (.output .brokenPipe) := rfl
    rw [hsteps] at hapart hsame
    exact ⟨_, merged, hapart, hmerged, rfl, hsame nofun⟩

end Op

end OokLang
