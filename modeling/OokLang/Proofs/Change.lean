import OokLang.Proofs.Output.Engines

namespace OokLang

variable {ω ω' σ σ' κ : Type}

/-- The same outcome of a machine that is changed in some way. -/
def Outcome.map (f : Machine ω → Machine ω') (o : Outcome ω) : Outcome ω' :=
  { fault := o.fault, machine := f o.machine }

variable [Writer ω] [Writer ω']

/-- A change of machines that makes no difference to operations: whether it comes before one or
    after it, the machine ends up the same and fails alike, unless the fault is an excused one. -/
structure Harmless (f : Machine ω → Machine ω') (Excused : Fault → Prop) : Prop where
  isZero_eq : ∀ m, (f m).isZero = m.isZero
  effect_eq : ∀ (op : Op) (m : Machine ω),
    (∃ fault, (op.effect m).fault = some fault ∧ Excused fault) ∨
      op.effect (f m) = (op.effect m).map f

namespace TakesTurns

variable {turn : Bool → κ → Turn κ} {step : σ → Progress ω σ} {machine : σ → Machine ω}
  {state : κ → Machine ω → σ} {step' : σ' → Progress ω' σ'} {machine' : σ' → Machine ω'}
  {state' : κ → Machine ω' → σ'} {f : Machine ω → Machine ω'} {Excused : Fault → Prop}

/-- It makes no difference to a run either, however many steps that is allowed. -/
theorem runFor_map (h : TakesTurns turn step machine state)
    (h' : TakesTurns turn step' machine' state') (hf : Harmless f Excused) (fuel : Nat) (k : κ)
    (m : Machine ω) :
    (∃ o fault, runFor step fuel (state k m) = some o ∧ o.fault = some fault ∧ Excused fault) ∨
      runFor step' fuel (state' k (f m)) = (runFor step fuel (state k m)).map (Outcome.map f) := by
  induction fuel generalizing k m with
  | zero => exact .inr rfl
  | succ fuel ih =>
    rw [runFor, runFor, h.step_eq, h'.step_eq, hf.isZero_eq]
    cases turn m.isZero k with
    | stop => exact .inr rfl
    | goOn next => exact ih next m
    | carryOut op next =>
      obtain ⟨fault, hfault, hexcused⟩ | heffect := hf.effect_eq op m
      · have hfails : (op.effect m).fault ≠ none := by
          rw [hfault]
          exact Option.some_ne_none fault
        refine .inl ⟨op.effect m, fault, ?_, hfault, hexcused⟩
        rw [Turn.take, Outcome.andGo_of_fault _ hfails]
      · rw [Turn.take, Turn.take, heffect]
        cases hoperation : op.effect m with
        | mk fault m' =>
          cases fault with
          | none => exact ih next m'
          | some fault => exact .inr rfl

theorem ends_map (h : TakesTurns turn step machine state)
    (h' : TakesTurns turn step' machine' state') (hf : Harmless f Excused) {k : κ}
    {m last : Machine ω} {fault : Option Fault}
    (hruns : RunsTo step machine (state k m) (.ended fault) last) :
    (∃ fault', fault = some fault' ∧ Excused fault') ∨
      RunsTo step' machine' (state' k (f m)) (.ended fault) (f last) := by
  obtain ⟨fuel, hrun⟩ := hruns
  obtain ⟨o, fault', hrun', hfault, hexcused⟩ | hmap := h.runFor_map h' hf fuel k m
  · obtain rfl := runFor_unique hrun hrun'
    exact .inl ⟨fault', hfault, hexcused⟩
  · rw [hrun] at hmap
    exact .inr ⟨fuel, hmap⟩

end TakesTurns

/-- Whatever the engine, a program ends alike on a machine that was changed before. -/
theorem Engine.ends_map {f : Machine ω → Machine ω'} {Excused : Fault → Prop}
    (hf : Harmless f Excused) {engine : Engine} {p : Program} {m last : Machine ω}
    {fault : Option Fault} (hruns : engine.Runs p m (.ended fault) last) :
    (∃ fault', fault = some fault' ∧ Excused fault') ∨
      engine.Runs p (f m) (.ended fault) (f last) := by
  cases engine with
  | walk => exact Program.takesTurns.ends_map Program.takesTurns hf (k := (p, [])) hruns
  | code fold =>
    exact (Code.takesTurns (p.lower fold)).ends_map (Code.takesTurns (p.lower fold)) hf (k := 0)
      hruns

end OokLang
