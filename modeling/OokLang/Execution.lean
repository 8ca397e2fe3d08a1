import OokLang.Machine

namespace OokLang

/-- What a single step leads to: a state to go on from, or the end of the run. -/
inductive Progress (ω σ : Type) where
  | going (state : σ)
  | stopped (o : Outcome ω)

variable {ω σ : Type}

/-- Goes on from a state where the work went well. -/
@[inline]
def Outcome.andGo (o : Outcome ω) (next : Machine ω → σ) : Progress ω σ :=
  match o.fault with
  | none => .going (next o.machine)
  | some _ => .stopped o

@[simp] theorem Outcome.andGo_done (m : Machine ω) (next : Machine ω → σ) :
    m.done.andGo next = .going (next m) := rfl

theorem Outcome.andGo_of_fault {o : Outcome ω} (next : Machine ω → σ) (hfault : o.fault ≠ none) :
    o.andGo next = .stopped o := by
  unfold andGo
  split
  · contradiction
  · rfl

theorem Outcome.andGo_eq_going {o : Outcome ω} {next : Machine ω → σ} {state : σ}
    (hgoing : o.andGo next = .going state) : state = next o.machine := by
  unfold andGo at hgoing
  split at hgoing
  · exact (Progress.going.inj hgoing).symm
  · cases hgoing

theorem Outcome.andGo_eq_stopped {o o' : Outcome ω} {next : Machine ω → σ}
    (hstopped : o.andGo next = .stopped o') : o'.fault ≠ none := by
  unfold andGo at hstopped
  split at hstopped
  · cases hstopped
  · rename_i fault hfault
    obtain rfl := Progress.stopped.inj hstopped
    rw [hfault]
    exact Option.some_ne_none fault

/-- Takes at most so many steps. Without an outcome the run has not ended yet. -/
@[specialize]
def runFor (step : σ → Progress ω σ) : Nat → σ → Option (Outcome ω)
  | 0, _ => none
  | fuel + 1, state =>
    match step state with
    | .going state' => runFor step fuel state'
    | .stopped o => some o

/-- A run that has ended keeps its outcome, however many more steps are allowed. -/
theorem runFor_mono {step : σ → Progress ω σ} {fuel fuel' : Nat} {state : σ} {o : Outcome ω}
    (hrun : runFor step fuel state = some o) (hle : fuel ≤ fuel') :
    runFor step fuel' state = some o := by
  induction fuel generalizing fuel' state with
  | zero => cases hrun
  | succ fuel ih =>
    obtain ⟨fuel', rfl⟩ : ∃ n, fuel' = n + 1 := ⟨fuel' - 1, by omega⟩
    unfold runFor at hrun ⊢
    split at hrun
    · exact ih hrun (by omega)
    · exact hrun

end OokLang
