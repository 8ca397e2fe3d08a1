import OokLang.Proofs.Lowering.Correctness
import OokLang.Proofs.Lowering.Unfolded
import OokLang.Proofs.Output.Engines

namespace OokLang

variable {ω σ κ : Type}

/-- How often a run comes to a state of some kind within so many steps. The state that it starts
    from does not count. -/
def arrivals (step : σ → Progress ω σ) (there : σ → Bool) : Nat → σ → Nat
  | 0, _ => 0
  | fuel + 1, state =>
    match step state with
    | .going state' => (there state').toNat + arrivals step there fuel state'
    | .stopped _ => 0

section Arrivals

variable {step : σ → Progress ω σ} {there : σ → Bool} {s s' : σ}

theorem arrivals_of_going (hstep : step s = .going s') (fuel : Nat) :
    arrivals step there (fuel + 1) s = (there s').toNat + arrivals step there fuel s' := by
  rw [arrivals, hstep]

theorem Leads.arrivals_add {n : Nat} (h : Leads step n s s') (fuel : Nat) :
    arrivals step there (n + fuel) s =
      arrivals step there n s + arrivals step there fuel s' := by
  induction h with
  | refl s => rw [Nat.zero_add, arrivals, Nat.zero_add]
  | cons hstep _ ih =>
    rw [Nat.add_right_comm, arrivals_of_going hstep, arrivals_of_going hstep, ih, Nat.add_assoc]

/-- A run that has ended comes to no other state, however many more steps are allowed. -/
theorem arrivals_eq_of_runFor {fuel fuel' : Nat} {o o' : Outcome ω}
    (hrun : runFor step fuel s = some o) (hrun' : runFor step fuel' s = some o') :
    arrivals step there fuel s = arrivals step there fuel' s := by
  induction fuel generalizing fuel' s with
  | zero => cases hrun
  | succ fuel ih =>
    cases fuel' with
    | zero => cases hrun'
    | succ fuel' =>
      rw [runFor] at hrun hrun'
      cases hstep : step s with
      | going next =>
        rw [hstep] at hrun hrun'
        rw [arrivals_of_going hstep, arrivals_of_going hstep, ih hrun hrun']
      | stopped o => rw [arrivals, arrivals, hstep]

end Arrivals

/-- From one place to another a run carries out operations one after the other, whatever is in the
    cell, and does not come to a certain third place on the way. -/
inductive Straight (turn : Bool → κ → Turn κ) (avoided : κ) : κ → List Op → κ → Prop where
  | nil (k : κ) : Straight turn avoided k [] k
  | cons {k next last : κ} {op : Op} {ops : List Op}
      (hturn : ∀ zero, turn zero k = .carryOut op next) (hnext : next ≠ avoided)
      (hrest : Straight turn avoided next ops last) : Straight turn avoided k (op :: ops) last

/-- At a place a run goes into a loop or leaves it behind, as its cell is not zero or is. -/
def TestsLoop (turn : Bool → κ → Turn κ) (inside behind k : κ) : Prop :=
  ∀ zero, turn zero k = .goOn (if zero then behind else inside)

/-- The places of a run around a loop with a straight body: it is tested first where it begins, and
    then right after its body, or once more where it begins. -/
structure GoesAround (turn : Bool → κ → Turn κ) (ops : List Op) (start inside behind : κ) :
    Prop where
  tests : TestsLoop turn inside behind start
  around : ∃ last, Straight turn inside inside ops last ∧
    (TestsLoop turn inside behind last ∨ ∀ zero, turn zero last = .goOn start)
  stops : ∀ zero, turn zero behind = .stop
  start_ne : start ≠ inside
  behind_ne : behind ≠ inside

/-- A test of states tells whether a run is at a certain place. -/
def Spots (there : σ → Bool) (state : κ → Machine ω → σ) (place : κ) : Prop :=
  ∀ k m, there (state k m) = true ↔ k = place

theorem Spots.eq_false {there : σ → Bool} {state : κ → Machine ω → σ} {place k : κ}
    (h : Spots there state place) (hne : k ≠ place) (m : Machine ω) :
    there (state k m) = false := by
  rw [← Bool.not_eq_true, h]
  exact hne

section GoesAround

variable [Writer ω]

/-- The machine after some operations, each of which goes well. -/
def Machine.after (ops : List Op) (m : Machine ω) : Machine ω :=
  ops.foldl (fun m op => (op.effect m).machine) m

/-- Each of some operations goes well after those before it. -/
def Op.GoWell : List Op → Machine ω → Prop
  | [], _ => True
  | op :: ops, m => (op.effect m).fault = none ∧ GoWell ops (op.effect m).machine

variable {turn : Bool → κ → Turn κ} {step : σ → Progress ω σ} {machine : σ → Machine ω}
  {state : κ → Machine ω → σ} {there : σ → Bool} {start inside behind k last : κ} {ops : List Op}
  {m : Machine ω}

theorem Straight.leads (h : TakesTurns turn step machine state)
    (hthere : Spots there state inside)
    (hstraight : Straight turn inside k ops last) (hwell : Op.GoWell ops m) :
    Leads step ops.length (state k m) (state last (m.after ops)) ∧
      arrivals step there ops.length (state k m) = 0 := by
  induction hstraight generalizing m with
  | nil k => exact ⟨.refl _, rfl⟩
  | @cons k next last op ops hturn hnext _ ih =>
    obtain ⟨hfault, hwell⟩ := hwell
    obtain ⟨hleads, hnone⟩ := ih hwell
    have hstep : step (state k m) = .going (state next (op.effect m).machine) := by
      rw [h.step_eq, hturn, Turn.take, Outcome.andGo, hfault]
    refine ⟨.cons hstep hleads, ?_⟩
    rw [List.length_cons, arrivals_of_going hstep, hthere.eq_false hnext, hnone]
    rfl

theorem TakesTurns.step_test (h : TakesTurns turn step machine state)
    (htest : TestsLoop turn inside behind k) (m : Machine ω) :
    step (state k m) = .going (state (if m.isZero then behind else inside) m) := by
  rw [h.step_eq, htest, Turn.take]

/-- A test that finds the cell zero ends the run, and the body is not begun again. -/
theorem GoesAround.leave (hloop : GoesAround turn ops start inside behind)
    (h : TakesTurns turn step machine state)
    (hthere : Spots there state inside)
    (htest : TestsLoop turn inside behind k) (hzero : m.isZero = true) :
    runFor step 2 (state k m) = some m.done ∧ arrivals step there 2 (state k m) = 0 := by
  have hstep := h.step_test htest m
  have hstop : step (state behind m) = .stopped m.done := by rw [h.step_eq, hloop.stops, Turn.take]
  rw [hzero, if_pos rfl] at hstep
  refine ⟨?_, ?_⟩
  · simp only [runFor, hstep, hstop]
  · rw [arrivals_of_going hstep, hthere.eq_false hloop.behind_ne, arrivals, hstop]
    rfl

/-- A test that finds the cell not zero is followed by one round of the body and the next test. -/
theorem GoesAround.enter (hloop : GoesAround turn ops start inside behind)
    (h : TakesTurns turn step machine state)
    (hthere : Spots there state inside)
    (htest : TestsLoop turn inside behind k) (hzero : m.isZero = false)
    (hwell : Op.GoWell ops m) :
    ∃ n k', TestsLoop turn inside behind k' ∧
      Leads step (n + 1) (state k m) (state k' (m.after ops)) ∧
      arrivals step there (n + 1) (state k m) = 1 := by
  obtain ⟨last, hbody, hlast⟩ := hloop.around
  obtain ⟨hleads, hnone⟩ := hbody.leads h hthere hwell
  have hstep := h.step_test htest m
  rw [hzero, if_neg Bool.false_ne_true] at hstep
  have hcount : arrivals step there (ops.length + 1) (state k m) = 1 := by
    rw [arrivals_of_going hstep, (hthere inside m).mpr rfl, hnone]
    rfl
  rcases hlast with htest' | hback
  · exact ⟨ops.length, last, htest', .cons hstep hleads, hcount⟩
  · have hagain : step (state last (m.after ops)) = .going (state start (m.after ops)) := by
      rw [h.step_eq, hback, Turn.take]
    have hround : Leads step (ops.length + 1) (state k m) (state last (m.after ops)) :=
      .cons hstep hleads
    refine ⟨ops.length + 1, start, hloop.tests, hround.trans (.one hagain), ?_⟩
    rw [hround.arrivals_add, hcount, arrivals_of_going hagain, hthere.eq_false hloop.start_ne]
    rfl

/-- A loop ends after as many rounds as it takes until the cell is zero. -/
theorem GoesAround.ends (hloop : GoesAround turn ops start inside behind)
    (h : TakesTurns turn step machine state)
    (hthere : Spots there state inside) {rounds : Nat}
    (htest : TestsLoop turn inside behind k)
    (hbefore : ∀ j < rounds, ((Machine.after ops)^[j] m).isZero = false ∧
      Op.GoWell ops ((Machine.after ops)^[j] m))
    (hzero : ((Machine.after ops)^[rounds] m).isZero = true) :
    ∃ fuel, runFor step fuel (state k m) = some ((Machine.after ops)^[rounds] m).done ∧
      arrivals step there fuel (state k m) = rounds := by
  induction rounds generalizing k m with
  | zero => exact ⟨2, hloop.leave h hthere htest hzero⟩
  | succ rounds ih =>
    have hfirst : m.isZero = false ∧ Op.GoWell ops m := hbefore 0 (Nat.zero_lt_succ rounds)
    obtain ⟨hnonzero, hwell⟩ := hfirst
    obtain ⟨n, k', htest', hleads, hone⟩ := hloop.enter h hthere htest hnonzero hwell
    obtain ⟨fuel, hrun, hcount⟩ :=
      ih htest' (fun j hj => hbefore (j + 1) (Nat.succ_lt_succ hj)) hzero
    refine ⟨n + 1 + fuel, ?_, ?_⟩
    · rw [hleads.runFor_add, hrun]
      rfl
    · rw [hleads.arrivals_add, hone, hcount, Nat.add_comm]

/-- A loop never ends if the cell is not zero after any number of rounds. -/
theorem GoesAround.never_ends (hloop : GoesAround turn ops start inside behind)
    (h : TakesTurns turn step machine state)
    (hthere : Spots there state inside)
    (htest : TestsLoop turn inside behind k)
    (hrounds : ∀ j, ((Machine.after ops)^[j] m).isZero = false ∧
      Op.GoWell ops ((Machine.after ops)^[j] m)) (fuel : Nat) :
    runFor step fuel (state k m) = none := by
  -- Each round takes at least one of the steps that are left.
  induction fuel using Nat.strongRecOn generalizing k m with
  | ind fuel ih =>
    have hfirst : m.isZero = false ∧ Op.GoWell ops m := hrounds 0
    obtain ⟨hnonzero, hwell⟩ := hfirst
    obtain ⟨n, k', htest', hleads, _⟩ := hloop.enter h hthere htest hnonzero hwell
    cases hrun : runFor step fuel (state k m) with
    | none => rfl
    | some o =>
      obtain ⟨rest, hfuel, hrest⟩ := hleads.runFor_rest hrun
      have hnone := ih rest (by omega) htest' fun j => hrounds (j + 1)
      rw [hnone] at hrest
      cases hrest

end GoesAround

namespace Program

theorem nesting_repeated (i : Instruction) (n : Nat) (rest : Program) :
    (repeated i n rest).nesting = rest.nesting := by
  induction n with
  | zero => rfl
  | succ n ih => exact ih

/-- A program without loops has no jumps in its code. -/
theorem LowersTo.isJump_eq_false {fold : Bool} {p : Program} {ops : List Op}
    (h : p.LowersTo fold ops) (hflat : p.nesting = 0) : ∀ op ∈ ops, op.isJump = false := by
  induction h with
  | nil => nofun
  | @repeated i n rest ops _ _ ih =>
    rw [nesting_repeated] at hflat
    intro op hmem
    rcases List.mem_cons.mp hmem with rfl | hmem
    · exact i.isJump_times (n + 1)
    · exact ih hflat op hmem
  | loop =>
    rw [nesting] at hflat
    omega

/-- A block without loops is left once its instructions are carried out. What is left of it only
    gets shorter. -/
theorem straight {p body : Program} {pending : List Program} (hflat : p.nesting = 0)
    (hshort : p.length ≤ body.length) :
    Straight turn (body, pending) (p, pending) p.unfolded (.nil, pending) := by
  induction p with
  | nil => exact .nil _
  | instr i rest ih =>
    have hlt : rest.length < body.length := hshort
    have hnext : (rest, pending) ≠ (body, pending) := by
      intro heq
      obtain rfl := congrArg Prod.fst heq
      exact Nat.lt_irrefl _ hlt
    exact .cons (fun _ => rfl) hnext (ih hflat (Nat.le_of_lt hlt))
  | loop inner rest =>
    rw [nesting] at hflat
    omega

theorem goesAround {body : Program} (hflat : body.nesting = 0) :
    GoesAround turn body.unfolded (.loop body .nil, []) (body, [.loop body .nil]) (.nil, []) where
  tests zero := by cases zero <;> rfl
  around := ⟨_, straight hflat (Nat.le_refl _), .inr fun _ => rfl⟩
  stops _ := rfl
  start_ne heq := nomatch congrArg Prod.snd heq
  behind_ne heq := nomatch congrArg Prod.snd heq

/-- A run has come to the start of the body of a loop that stands on its own. -/
def State.startsBody (body : Program) (s : State ω) : Bool :=
  s.todo == body && s.pending == [.loop body .nil]

theorem State.spots_startsBody (body : Program) :
    Spots (State.startsBody (ω := ω) body) (fun k m => ⟨k.1, k.2, m⟩)
      (body, [.loop body .nil]) := by
  intro k m
  simp [startsBody, Prod.ext_iff]

theorem lower_loop (fold : Bool) (body : Program) :
    (loop body .nil).lower fold = Code.loop (body.lower fold) := by
  rw [lower, lowerAfter_loop, Array.empty_append]
  rfl

end Program

namespace Code

theorem turn_of_not_isJump {code : Code} {counter : Nat} {op : Op} (hop : code[counter]? = some op)
    (hjump : op.isJump = false) (zero : Bool) :
    code.turn zero counter = .carryOut op (counter + 1) := by
  cases op <;> simp_all [turn, Op.isJump]

theorem Holds.straight {code : Code} {a b : Nat} {ops : List Op} (h : code.Holds a ops)
    (hflat : ∀ op ∈ ops, op.isJump = false) (hle : b ≤ a) :
    Straight code.turn b a ops (a + ops.length) := by
  induction ops generalizing a with
  | nil => exact .nil a
  | cons op ops ih =>
    have hrest := ih h.tail (fun op' hmem => hflat op' (List.mem_cons_of_mem op hmem)) (by omega)
    have hlast : a + (op :: ops).length = a + 1 + ops.length := by
      rw [List.length_cons]
      omega
    rw [hlast]
    exact .cons (turn_of_not_isJump h.head (hflat op List.mem_cons_self)) (by omega) hrest

theorem testsLoop_skipIfZero {code : Code} {counter distance : Nat}
    (hop : code[counter]? = some (.skipIfZero distance)) :
    TestsLoop code.turn (counter + 1) (counter + distance) counter := by
  intro zero
  simp only [turn, hop]

theorem testsLoop_backUnlessZero {code : Code} {start distance : Nat}
    (hop : code[start + distance]? = some (.backUnlessZero distance)) :
    TestsLoop code.turn start (start + distance + 1) (start + distance) := by
  intro zero
  simp only [turn, hop, Nat.add_sub_cancel]

theorem goesAround {body : Code} (hflat : ∀ op ∈ body.toList, op.isJump = false) :
    GoesAround (Code.loop body).turn body.toList 0 1 (1 + body.size + 1) := by
  have hholds : (Code.loop body).Holds 0
      (.skipIfZero (body.size + 2) :: (body.toList ++ [.backUnlessZero body.size])) :=
    ⟨[], by simp [Code.loop]⟩
  have hskip := testsLoop_skipIfZero hholds.head
  have hback := testsLoop_backUnlessZero hholds.tail.append_right.head
  have hplace : 0 + (body.size + 2) = 1 + body.size + 1 := by omega
  rw [hplace] at hskip
  have hbody := hholds.tail.append_left.straight hflat (Nat.le_refl 1)
  refine ⟨hskip, ⟨_, hbody, .inl hback⟩, ?_, ?_, ?_⟩
  · intro zero
    have hend : (Code.loop body)[1 + body.size + 1]? = none := by
      simp [Code.loop, Nat.add_comm, Nat.add_left_comm]
    rw [turn, hend]
  · exact Nat.zero_ne_one
  · omega

/-- A run has come to the start of the body of a loop that stands on its own. -/
def State.startsBody (s : State ω) : Bool :=
  s.counter == 1

theorem State.spots_startsBody : Spots (State.startsBody (ω := ω)) State.mk 1 :=
  fun _ _ => beq_iff_eq

end Code

namespace Engine

/-- Whether an engine folds operations. -/
def folds : Engine → Bool
  | walk => false
  | code fold => fold

variable [Writer ω]

/-- A loop on its own ends in some way after its body was begun so many times. -/
def EndsAfter (body : Program) (rounds : Nat) (m : Machine ω) (o : Outcome ω) : Engine → Prop
  | walk =>
    ∃ fuel, runFor Program.State.step fuel ⟨.loop body .nil, [], m⟩ = some o ∧
      arrivals Program.State.step (Program.State.startsBody body) fuel ⟨.loop body .nil, [], m⟩ =
        rounds
  | code fold =>
    let step := Code.State.step ((Program.loop body .nil).lower fold)
    ∃ fuel, runFor step fuel ⟨0, m⟩ = some o ∧
      arrivals step Code.State.startsBody fuel ⟨0, m⟩ = rounds

variable {engine : Engine} {body p : Program} {ops : List Op} {m : Machine ω}

theorem EndsAfter.runs {rounds : Nat} {o : Outcome ω} (h : engine.EndsAfter body rounds m o) :
    engine.Runs (.loop body .nil) m (.ended o.fault) o.machine := by
  cases engine with
  | walk =>
    obtain ⟨fuel, hrun, _⟩ := h
    exact ⟨fuel, hrun⟩
  | code fold =>
    obtain ⟨fuel, hrun, _⟩ := h
    exact ⟨fuel, hrun⟩

/-- The rounds of a run that ends are so many and no others. -/
theorem EndsAfter.rounds_eq {rounds rounds' : Nat} {o o' : Outcome ω}
    (h : engine.EndsAfter body rounds m o) (h' : engine.EndsAfter body rounds' m o') :
    rounds = rounds' := by
  cases engine with
  | walk =>
    obtain ⟨_, hrun, rfl⟩ := h
    obtain ⟨_, hrun', rfl⟩ := h'
    exact arrivals_eq_of_runFor hrun hrun'
  | code fold =>
    obtain ⟨_, hrun, rfl⟩ := h
    obtain ⟨_, hrun', rfl⟩ := h'
    exact arrivals_eq_of_runFor hrun hrun'

/-- A run ends in one way only. -/
theorem ended_unique {fault fault' : Option Fault} {last last' : Machine ω}
    (hruns : engine.Runs p m (.ended fault) last) (hruns' : engine.Runs p m (.ended fault') last') :
    fault = fault' ∧ last = last' := by
  have houtcome : (⟨fault, last⟩ : Outcome ω) = ⟨fault', last'⟩ := by
    cases engine with
    | walk => exact runFor_unique hruns.choose_spec hruns'.choose_spec
    | code fold => exact runFor_unique hruns.choose_spec hruns'.choose_spec
  cases houtcome
  exact ⟨rfl, rfl⟩

/-- On any engine a loop ends after as many rounds of its operations as it takes until the cell is
    zero. -/
theorem endsAfter_of_isZero (hflat : body.nesting = 0)
    (hops : (body.lower engine.folds).toList = ops) {rounds : Nat}
    (hbefore : ∀ j < rounds, ((Machine.after ops)^[j] m).isZero = false ∧
      Op.GoWell ops ((Machine.after ops)^[j] m))
    (hzero : ((Machine.after ops)^[rounds] m).isZero = true) :
    engine.EndsAfter body rounds m ((Machine.after ops)^[rounds] m).done := by
  subst hops
  cases engine with
  | walk =>
    rw [folds, Program.toList_lower_false] at hbefore hzero ⊢
    have hloop := Program.goesAround hflat
    have hthere := Program.State.spots_startsBody (ω := ω) body
    exact hloop.ends Program.takesTurns hthere hloop.tests hbefore hzero
  | code fold =>
    have hloop := Code.goesAround ((body.lowersTo_lower fold).isJump_eq_false hflat)
    rw [EndsAfter, Program.lower_loop]
    exact hloop.ends (Code.takesTurns _) Code.State.spots_startsBody hloop.tests hbefore hzero

/-- On no engine does a loop end if the cell is not zero after any number of rounds. -/
theorem not_ended_of_isZero (hflat : body.nesting = 0)
    (hops : (body.lower engine.folds).toList = ops)
    (hrounds : ∀ j, ((Machine.after ops)^[j] m).isZero = false ∧
      Op.GoWell ops ((Machine.after ops)^[j] m))
    (fault : Option Fault) (last : Machine ω) :
    ¬engine.Runs (.loop body .nil) m (.ended fault) last := by
  subst hops
  cases engine with
  | walk =>
    rw [folds, Program.toList_lower_false] at hrounds
    have hloop := Program.goesAround hflat
    rintro ⟨fuel, hrun⟩
    have hthere := Program.State.spots_startsBody (ω := ω) body
    have hnone := hloop.never_ends Program.takesTurns hthere hloop.tests hrounds fuel
    cases hnone.symm.trans hrun
  | code fold =>
    have hloop := Code.goesAround ((body.lowersTo_lower fold).isJump_eq_false hflat)
    rw [Runs, Program.lower_loop]
    rintro ⟨fuel, hrun⟩
    have hnone := hloop.never_ends (Code.takesTurns _) Code.State.spots_startsBody hloop.tests
      hrounds fuel
    cases hnone.symm.trans hrun

end Engine

end OokLang
