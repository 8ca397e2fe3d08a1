import OokLang.Proofs.Endless.Basic
import OokLang.Proofs.Lowering.Repeats
import OokLang.Proofs.Simulation

namespace OokLang

variable {ω σ κ : Type}

/-- What a run does next from a place in its program or code. -/
inductive Turn (κ : Type) where
  /-- It is over. -/
  | stop
  /-- It goes on at another place, and leaves the machine alone. -/
  | goOn (next : κ)
  /-- It carries out an operation and, unless that fails, goes on at another place. -/
  | carryOut (op : Op) (next : κ)

/-- The next turn of a program: what is left of the innermost block, and what comes after each of
    the blocks around it. All that matters of the machine is whether its cell is zero. -/
def Program.turn (zero : Bool) : Program × List Program → Turn (Program × List Program)
  | (nil, []) => .stop
  | (nil, after :: pending) => .goOn (after, pending)
  | (instr i rest, pending) => .carryOut i.op (rest, pending)
  | (loop body rest, pending) =>
    .goOn (if zero then (rest, pending) else (body, loop body rest :: pending))

/-- The next turn of code at an operation with the given number. -/
def Code.turn (code : Code) (zero : Bool) (counter : Nat) : Turn Nat :=
  match code[counter]? with
  | none => .stop
  | some (.skipIfZero distance) => .goOn (if zero then counter + distance else counter + 1)
  | some (.backUnlessZero distance) => .goOn (if zero then counter + 1 else counter - distance)
  | some op => .carryOut op (counter + 1)

/-- How far something has got: to its end, with a fault or none, or through so many steps. -/
inductive Reply where
  | ended (fault : Option Fault)
  | going (steps : Nat)
  deriving DecidableEq, Repr

/-- The same with one step more in front. -/
def Reply.later : Reply → Reply
  | ended fault => ended fault
  | going steps => going (steps + 1)

/-- A run on an endless machine, from a place in its program or code, as far as it has got. -/
inductive Endless.Runs [Writer ω] (turn : Bool → κ → Turn κ) :
    κ → Endless ω → Reply → Endless ω → Prop where
  | pause (k : κ) (e : Endless ω) : Runs turn k e (.going 0) e
  | stop {k : κ} {e : Endless ω} (hturn : turn e.isZero k = .stop) : Runs turn k e (.ended none) e
  | goOn {k next : κ} {e e' : Endless ω} {reply : Reply} (hturn : turn e.isZero k = .goOn next)
      (hrest : Runs turn next e reply e') : Runs turn k e reply.later e'
  | carryOut {k next : κ} {op : Op} {e e' e'' : Endless ω} {reply : Reply}
      (hturn : turn e.isZero k = .carryOut op next) (hop : e.effect op = (none, e'))
      (hrest : Runs turn next e' reply e'') : Runs turn k e reply.later e''
  | fault {k next : κ} {op : Op} {e e' : Endless ω} {fault : Fault}
      (hturn : turn e.isZero k = .carryOut op next) (hop : e.effect op = (some fault, e')) :
      Runs turn k e (.ended (some fault)) e'

/-- A run has got so far from a state, and the machine is what it is then. -/
def RunsTo (step : σ → Progress ω σ) (machine : σ → Machine ω) (s : σ) :
    Reply → Machine ω → Prop
  | .ended fault, m => ∃ fuel, runFor step fuel s = some ⟨fault, m⟩
  | .going steps, m => ∃ s', Leads step steps s s' ∧ machine s' = m

theorem RunsTo.later {step : σ → Progress ω σ} {machine : σ → Machine ω} {s s' : σ}
    {reply : Reply} {m : Machine ω} (hstep : step s = .going s')
    (h : RunsTo step machine s' reply m) : RunsTo step machine s reply.later m := by
  cases reply with
  | ended fault =>
    obtain ⟨fuel, hrun⟩ := h
    refine ⟨fuel + 1, ?_⟩
    rw [runFor, hstep]
    exact hrun
  | going steps =>
    obtain ⟨s'', hleads, hmachine⟩ := h
    exact ⟨s'', .cons hstep hleads, hmachine⟩

variable [Writer ω]

/-- What a turn does to a machine. A place and a machine together make a state of the run. -/
def Turn.take (state : κ → Machine ω → σ) (m : Machine ω) : Turn κ → Progress ω σ
  | stop => .stopped m.done
  | goOn next => .going (state next m)
  | carryOut op next => (op.effect m).andGo (state next)

/-- The steps of a kind of run are its turns. -/
structure TakesTurns (turn : Bool → κ → Turn κ) (step : σ → Progress ω σ)
    (machine : σ → Machine ω) (state : κ → Machine ω → σ) : Prop where
  step_eq : ∀ k m, step (state k m) = (turn m.isZero k).take state m
  machine_eq : ∀ k m, machine (state k m) = m

theorem Program.takesTurns :
    TakesTurns (ω := ω) turn State.step State.machine fun k m => ⟨k.1, k.2, m⟩ where
  step_eq := by
    rintro ⟨todo, pending⟩ m
    cases todo with
    | nil => cases pending <;> rfl
    | instr i rest =>
      rw [State.step_instr, ← Instruction.effect_op]
      rfl
    | loop body rest =>
      rw [State.step_loop]
      cases hzero : m.isZero <;> rfl
  machine_eq _ _ := rfl

theorem Code.takesTurns (code : Code) :
    TakesTurns (ω := ω) code.turn (State.step code) State.machine State.mk where
  step_eq := by
    intro counter m
    cases hop : code[counter]? with
    | none =>
      rw [State.step_of_none hop, turn, hop]
      rfl
    | some op =>
      cases op with
      | skipIfZero distance =>
        rw [State.step_skipIfZero hop, turn, hop]
        rfl
      | backUnlessZero distance =>
        rw [State.step_backUnlessZero hop, turn, hop]
        rfl
      | shift | add | sub | write | read | undefined =>
        rw [State.step_of_not_isJump hop rfl, turn, hop]
        rfl
  machine_eq _ _ := rfl

/-- All that a step from a place can do. -/
inductive StepsBy (turn : Bool → κ → Turn κ) (step : σ → Progress ω σ)
    (state : κ → Machine ω → σ) (k : κ) (m : Machine ω) : Prop where
  | stop (hturn : turn m.isZero k = .stop) (hstep : step (state k m) = .stopped m.done)
  | goOn {next : κ} (hturn : turn m.isZero k = .goOn next)
      (hstep : step (state k m) = .going (state next m))
  | carryOut {op : Op} {next : κ} {m' : Machine ω} (hturn : turn m.isZero k = .carryOut op next)
      (hop : op.effect m = m'.done) (hstep : step (state k m) = .going (state next m'))
  | fault {op : Op} {next : κ} {m' : Machine ω} {fault : Fault}
      (hturn : turn m.isZero k = .carryOut op next) (hop : op.effect m = m'.failed fault)
      (hstep : step (state k m) = .stopped (m'.failed fault))

namespace TakesTurns

variable {turn : Bool → κ → Turn κ} {step : σ → Progress ω σ} {machine : σ → Machine ω}
  {state : κ → Machine ω → σ}

theorem stepsBy (h : TakesTurns turn step machine state) (k : κ) (m : Machine ω) :
    StepsBy turn step state k m := by
  have hstep := h.step_eq k m
  cases hturn : turn m.isZero k with
  | stop =>
    rw [hturn] at hstep
    exact .stop hturn hstep
  | goOn next =>
    rw [hturn] at hstep
    exact .goOn hturn hstep
  | carryOut op next =>
    rw [hturn, Turn.take] at hstep
    cases hop : op.effect m with
    | mk fault m' =>
      rw [hop] at hstep
      cases fault with
      | none => exact .carryOut hturn hop hstep
      | some fault => exact .fault hturn hop hstep

theorem step_eq_endless (h : TakesTurns turn step machine state) (k : κ) (m : Machine ω) :
    step (state k m) = (turn m.endless.isZero k).take state m := by
  rw [Machine.isZero_endless]
  exact h.step_eq k m

/-- An operation that the endless machine carries out is carried out by a step. -/
theorem step_of_carryOut (h : TakesTurns turn step machine state) {k next : κ} {op : Op}
    {m : Machine ω} {fault : Option Fault} {e : Endless ω}
    (hturn : turn m.endless.isZero k = .carryOut op next) (hop : m.endless.effect op = (fault, e)) :
    ∃ m', m'.endless = e ∧ step (state k m) = Outcome.andGo ⟨fault, m'⟩ (state next) := by
  obtain ⟨hfault, he⟩ := Prod.mk.inj ((m.endless_effect op).trans hop)
  refine ⟨(op.effect m).machine, he, ?_⟩
  rw [h.step_eq_endless, hturn, Turn.take, ← hfault]

/-- A step goes on or ends the run, and so does the turn of the endless machine. -/
theorem step_cases (h : TakesTurns turn step machine state) (k : κ) (m : Machine ω) :
    (∃ next m', step (state k m) = .going (state next m') ∧ ∀ reply e,
      m'.endless.Runs turn next reply e → m.endless.Runs turn k reply.later e) ∨
    ∃ o, step (state k m) = .stopped o ∧
      m.endless.Runs turn k (.ended o.fault) o.machine.endless := by
  have hstep := h.step_eq_endless k m
  cases hturn : turn m.endless.isZero k with
  | stop =>
    rw [hturn] at hstep
    exact .inr ⟨m.done, hstep, .stop hturn⟩
  | goOn next =>
    rw [hturn] at hstep
    exact .inl ⟨next, m, hstep, fun _ _ hrest => .goOn hturn hrest⟩
  | carryOut op next =>
    cases hop : m.endless.effect op with
    | mk fault e =>
      obtain ⟨m', rfl, hstep⟩ := h.step_of_carryOut hturn hop
      cases fault with
      | none => exact .inl ⟨next, m', hstep, fun _ _ hrest => .carryOut hturn hop hrest⟩
      | some fault => exact .inr ⟨⟨some fault, m'⟩, hstep, .fault hturn hop⟩

/-- As far as a run has got, it has got on the endless machine. -/
theorem runs_of_runsTo (h : TakesTurns turn step machine state) {k : κ} {m m' : Machine ω}
    {reply : Reply} (hruns : RunsTo step machine (state k m) reply m') :
    m.endless.Runs turn k reply m'.endless := by
  cases reply with
  | ended fault =>
    obtain ⟨fuel, hrun⟩ := hruns
    induction fuel generalizing k m with
    | zero => cases hrun
    | succ fuel ih =>
      rw [runFor] at hrun
      obtain ⟨next, m'', hstep, hlater⟩ | ⟨o, hstep, hends⟩ := h.step_cases k m
      · rw [hstep] at hrun
        exact hlater _ _ (ih hrun)
      · rw [hstep] at hrun
        cases hrun
        exact hends
  | going steps =>
    obtain ⟨s, hleads, rfl⟩ := hruns
    induction steps generalizing k m with
    | zero =>
      cases hleads
      rw [h.machine_eq]
      exact .pause k _
    | succ steps ih =>
      cases hleads with
      | cons hgoing hrest =>
        obtain ⟨next, m'', hstep, hlater⟩ | ⟨o, hstep, _⟩ := h.step_cases k m
        · rw [hstep] at hgoing
          cases hgoing
          exact hlater _ _ (ih hrest)
        · rw [hstep] at hgoing
          cases hgoing

/-- The other way round, a run has got as far as it has on the endless machine. -/
theorem runsTo_of_runs (h : TakesTurns turn step machine state) {k : κ} {m : Machine ω}
    {e e' : Endless ω} {reply : Reply} (hruns : e.Runs turn k reply e') (he : m.endless = e) :
    ∃ m', RunsTo step machine (state k m) reply m' ∧ m'.endless = e' := by
  -- By induction on the turns, for any machine that stands for the endless one of that turn.
  induction hruns generalizing m with
  | pause k e => exact ⟨m, ⟨_, .refl _, h.machine_eq k m⟩, he⟩
  | stop hturn =>
    subst he
    refine ⟨m, ⟨1, ?_⟩, rfl⟩
    rw [runFor, h.step_eq_endless, hturn]
    rfl
  | goOn hturn _ ih =>
    subst he
    obtain ⟨m', hrest, hm'⟩ := ih rfl
    refine ⟨m', hrest.later ?_, hm'⟩
    rw [h.step_eq_endless, hturn]
    rfl
  | carryOut hturn hop _ ih =>
    subst he
    obtain ⟨m', he, hstep⟩ := h.step_of_carryOut hturn hop
    obtain ⟨m'', hrest, hm''⟩ := ih he
    exact ⟨m'', hrest.later hstep, hm''⟩
  | fault hturn hop =>
    subst he
    obtain ⟨m', he, hstep⟩ := h.step_of_carryOut hturn hop
    refine ⟨m', ⟨1, ?_⟩, he⟩
    rw [runFor, hstep]
    rfl

end TakesTurns

end OokLang
