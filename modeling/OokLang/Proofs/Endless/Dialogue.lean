import OokLang.Code.Lowering
import OokLang.Proofs.Endless.Runs
import OokLang.Sink

namespace OokLang

variable {ω μ : Type}

/-- What can be asked of a machine. -/
inductive Demand where
  /-- An operation, such as a move, an addition, a subtraction or a write. -/
  | operate (op : Op)
  | reset
  | flush
  /-- A flush after some work that ended with a fault or none. -/
  | finish (result : Option Fault)
  /-- A run of a program. -/
  | walk (p : Program)
  /-- A run of the code of a program. -/
  | execute (fold : Bool) (p : Program)

/-- A log of demands, each with its reply, that leads from one machine to another. A fault does not
    end it, and a run may be broken off. -/
inductive Dialogue (Answers : μ → Demand → Reply → μ → Prop) :
    μ → List (Demand × Reply) → μ → Prop where
  | nil (m : μ) : Dialogue Answers m [] m
  | cons {m m' m'' : μ} {demand : Demand} {reply : Reply} {log : List (Demand × Reply)}
      (hfirst : Answers m demand reply m') (hrest : Dialogue Answers m' log m'') :
      Dialogue Answers m ((demand, reply) :: log) m''

section Answers

variable [Writer ω]

/-- What a machine replies to a demand, and what it is then. -/
inductive Machine.Answers (m : Machine ω) : Demand → Reply → Machine ω → Prop where
  | operate (op : Op) : m.Answers (.operate op) (.ended (op.effect m).fault) (op.effect m).machine
  | reset : m.Answers .reset (.ended none) m.reset
  | flush : m.Answers .flush (.ended m.flush.fault) m.flush.machine
  | finish (result : Option Fault) :
      m.Answers (.finish result) (.ended (Outcome.finish ⟨result, m⟩).fault)
        (Outcome.finish ⟨result, m⟩).machine
  | walk {p : Program} {fuel : Nat} {o : Outcome ω} (hrun : p.run fuel m = some o) :
      m.Answers (.walk p) (.ended o.fault) o.machine
  | walking {p : Program} {steps : Nat} {s : Program.State ω}
      (hleads : Leads Program.State.step steps ⟨p, [], m⟩ s) :
      m.Answers (.walk p) (.going steps) s.machine
  | execute {fold : Bool} {p : Program} {fuel : Nat} {o : Outcome ω}
      (hrun : (p.lower fold).run fuel m = some o) :
      m.Answers (.execute fold p) (.ended o.fault) o.machine
  | executing {fold : Bool} {p : Program} {steps : Nat} {s : Code.State ω}
      (hleads : Leads (Code.State.step (p.lower fold)) steps ⟨0, m⟩ s) :
      m.Answers (.execute fold p) (.going steps) s.machine

/-- What an endless machine replies to a demand, and what it is then. -/
inductive Endless.Answers (e : Endless ω) : Demand → Reply → Endless ω → Prop where
  | operate (op : Op) : e.Answers (.operate op) (.ended (e.effect op).1) (e.effect op).2
  | reset : e.Answers .reset (.ended none) e.reset
  | flush : e.Answers .flush (.ended e.flush.1) e.flush.2
  | finish (result : Option Fault) :
      e.Answers (.finish result) (.ended (e.finish result).1) (e.finish result).2
  | walk {p : Program} {reply : Reply} {e' : Endless ω}
      (hruns : e.Runs Program.turn (p, []) reply e') : e.Answers (.walk p) reply e'
  | execute {fold : Bool} {p : Program} {reply : Reply} {e' : Endless ω}
      (hruns : e.Runs (p.lower fold).turn 0 reply e') : e.Answers (.execute fold p) reply e'

/-- A machine replies as the endless machine does that it stands for, and then stands for what that
    one is. -/
theorem Machine.Answers.endless {m m' : Machine ω} {demand : Demand} {reply : Reply}
    (h : m.Answers demand reply m') : m.endless.Answers demand reply m'.endless := by
  cases h with
  | operate op =>
    have heffect := m.endless_effect op
    have hanswer := Endless.Answers.operate (e := m.endless) op
    rw [← heffect] at hanswer
    exact hanswer
  | reset =>
    rw [m.endless_reset]
    exact .reset
  | flush => exact .flush
  | finish result => exact .finish result
  | walk hrun => exact .walk (Program.takesTurns.runs_of_runsTo (k := (_, [])) ⟨_, hrun⟩)
  | walking hleads =>
    exact .walk (Program.takesTurns.runs_of_runsTo (k := (_, [])) ⟨_, hleads, rfl⟩)
  | execute hrun => exact .execute ((Code.takesTurns _).runs_of_runsTo ⟨_, hrun⟩)
  | executing hleads => exact .execute ((Code.takesTurns _).runs_of_runsTo ⟨_, hleads, rfl⟩)

/-- The other way round, what an endless machine replies every machine does that stands for it. -/
theorem Endless.Answers.machine {m : Machine ω} {e : Endless ω} {demand : Demand} {reply : Reply}
    (h : m.endless.Answers demand reply e) :
    ∃ m', m.Answers demand reply m' ∧ m'.endless = e := by
  cases h with
  | operate op =>
    refine ⟨(op.effect m).machine, ?_, congrArg Prod.snd (m.endless_effect op)⟩
    rw [← m.endless_effect op]
    exact .operate op
  | reset => exact ⟨m.reset, .reset, m.endless_reset⟩
  | flush => exact ⟨m.flush.machine, .flush, congrArg Prod.snd m.endless_flush⟩
  | finish result =>
    exact ⟨_, .finish result, congrArg Prod.snd (m.endless_finish result)⟩
  | walk hruns =>
    obtain ⟨m', hruns, hm'⟩ := Program.takesTurns.runsTo_of_runs hruns rfl
    refine ⟨m', ?_, hm'⟩
    cases reply with
    | ended fault =>
      obtain ⟨fuel, hrun⟩ := hruns
      exact .walk hrun
    | going steps =>
      obtain ⟨s, hleads, rfl⟩ := hruns
      exact .walking hleads
  | execute hruns =>
    obtain ⟨m', hruns, hm'⟩ := (Code.takesTurns _).runsTo_of_runs hruns rfl
    refine ⟨m', ?_, hm'⟩
    cases reply with
    | ended fault =>
      obtain ⟨fuel, hrun⟩ := hruns
      exact .execute hrun
    | going steps =>
      obtain ⟨s, hleads, rfl⟩ := hruns
      exact .executing hleads

/-- What a machine replies all the way the endless machine replies too that it stands for. -/
theorem Dialogue.endless {m m' : Machine ω} {log : List (Demand × Reply)}
    (h : Dialogue Machine.Answers m log m') :
    Dialogue Endless.Answers m.endless log m'.endless := by
  induction h with
  | nil m => exact .nil m.endless
  | cons hfirst _ ih => exact .cons hfirst.endless ih

theorem Dialogue.machine {m : Machine ω} {e e' : Endless ω} {log : List (Demand × Reply)}
    (h : Dialogue Endless.Answers e log e') (he : m.endless = e) :
    ∃ m', Dialogue Machine.Answers m log m' ∧ m'.endless = e' := by
  induction h generalizing m with
  | nil e => exact ⟨m, .nil m, he⟩
  | cons hfirst _ ih =>
    subst he
    obtain ⟨m', hanswers, hm'⟩ := hfirst.machine
    obtain ⟨m'', hrest, hm''⟩ := ih hm'
    exact ⟨m'', .cons hanswers hrest, hm''⟩

/-- A machine is an endless machine that stores its cells up to the farthest one that the pointer
    has been at. From a fresh tape, and from there after any demands, whether they went well or not,
    both give the same replies and match again. A move that fails tells where the pointer is and how
    far it was to go, and changes nothing. -/
theorem Dialogue.matches_endless (sink : ω) :
    Machine.Matches { sink } { sink } ∧
      (∀ (m : Machine ω) (e : Endless ω) (log : List (Demand × Reply)), m.Matches e →
        (∀ m', Dialogue Machine.Answers m log m' →
          ∃ e', Dialogue Endless.Answers e log e' ∧ m'.Matches e') ∧
        ∀ e', Dialogue Endless.Answers e log e' →
          ∃ m', Dialogue Machine.Answers m log m' ∧ m'.Matches e') ∧
      ∀ (m : Machine ω) (distance : Int), (m.shift distance).fault ≠ none →
        ∃ k : Nat, distance = -k ∧ m.tape.pointer < k ∧
          m.shift distance = m.failed (.pointerUnderflow m.tape.pointer k) := by
  refine ⟨Machine.matches_iff.mpr (Machine.endless_fresh sink), ?_, ?_⟩
  · intro m e log hmatches
    have he := Machine.matches_iff.mp hmatches
    constructor
    · intro m' hdialogue
      refine ⟨m'.endless, ?_, Machine.matches_iff.mpr rfl⟩
      rw [← he]
      exact hdialogue.endless
    · intro e' hdialogue
      obtain ⟨m', hdialogue', hm'⟩ := hdialogue.machine he
      exact ⟨m', hdialogue', Machine.matches_iff.mpr hm'⟩
  · intro m distance hfault
    exact Machine.shift_of_fault hfault

/-- Two cells to the right, three to the left, which fails, an addition, two bytes of which one is
    refused, the beginning of a run, a run that counts the cell down and then asks for input, and a
    fresh tape. -/
theorem Dialogue.matches_endless_underflow :
    let p : Program := .loop (.instr .decrement .nil) (.instr .moveRight (.instr .input .nil))
    let log : List (Demand × Reply) := [
      (.operate (.shift 2), .ended none),
      (.operate (.shift (-3)), .ended (some (.pointerUnderflow 2 3))),
      (.operate (.add 1), .ended none),
      (.operate (.write 2), .ended (some (.output .brokenPipe))),
      (.walk p, .going 1),
      (.execute true p, .ended (some .unsupportedInput)),
      (.reset, .ended none)]
    let m : Machine Sink := { sink := { room := some 1 } }
    let m' : Machine Sink := { sink := { room := some 0, received := #[1] } }
    let moved : Machine Sink := { m with tape := { left := [0, 0], current := 0, right := [] } }
    m.Matches { sink := m.sink } ∧ Dialogue Machine.Answers m log m' ∧
      (∃ e, Dialogue Endless.Answers { sink := m.sink } log e ∧ m'.Matches e ∧
        ∃ m'', Dialogue Machine.Answers m log m'' ∧ m''.Matches e) ∧
      (moved.shift (-3)).fault ≠ none ∧
      ∃ k : Nat, (-3 : Int) = -k ∧ moved.tape.pointer < k ∧
        moved.shift (-3) = moved.failed (.pointerUnderflow moved.tape.pointer k) := by
  intro p log m m' moved
  obtain ⟨hfresh, hdialogues, hfails⟩ := matches_endless m.sink
  let added : Machine Sink := { m' with tape := { left := [0, 0], current := 1, right := [] } }
  let counted : Machine Sink := { m' with tape := { left := [0, 0, 0], current := 0, right := [] } }
  have hrun : (p.lower true).run 5 added = some (counted.failed .unsupportedInput) := by decide
  have hdialogue : Dialogue Machine.Answers m log m' := by
    refine .cons (.operate (.shift 2)) ?_
    refine .cons (.operate (.shift (-3))) ?_
    refine .cons (.operate (.add 1)) ?_
    refine .cons (.operate (.write 2)) ?_
    refine .cons (.walking (.one rfl)) ?_
    refine .cons (.execute hrun) ?_
    exact .cons .reset (.nil m')
  obtain ⟨e, hdialogue', hmatches⟩ := (hdialogues _ _ log hfresh).1 m' hdialogue
  have hback := (hdialogues _ _ log hfresh).2 e hdialogue'
  have hfault : (moved.shift (-3)).fault ≠ none := by decide
  exact ⟨hfresh, hdialogue, ⟨e, hdialogue', hmatches, hback⟩, hfault, hfails _ _ hfault⟩

end Answers

end OokLang
