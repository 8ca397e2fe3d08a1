import OokLang.Execution

namespace OokLang

variable {ω σ τ : Type}

/-- A run has one outcome, whatever number of steps it was allowed. -/
theorem runFor_unique {step : σ → Progress ω σ} {fuel fuel' : Nat} {s : σ} {o o' : Outcome ω}
    (hrun : runFor step fuel s = some o) (hrun' : runFor step fuel' s = some o') : o = o' := by
  have h := runFor_mono hrun (Nat.le_max_left fuel fuel')
  have h' := runFor_mono hrun' (Nat.le_max_right fuel fuel')
  rw [h] at h'
  exact Option.some.inj h'

/-- So many steps lead from one state to another, and none of them ends the run. -/
inductive Leads (step : σ → Progress ω σ) : Nat → σ → σ → Prop where
  | refl (s : σ) : Leads step 0 s s
  | cons {n : Nat} {s s' s'' : σ} (hstep : step s = .going s') (hrest : Leads step n s' s'') :
      Leads step (n + 1) s s''

namespace Leads

variable {step : σ → Progress ω σ} {n : Nat} {s s' : σ}

theorem one (hstep : step s = .going s') : Leads step 1 s s' :=
  .cons hstep (.refl s')

theorem trans {k : Nat} {s'' : σ} (h : Leads step n s s') (h' : Leads step k s' s'') :
    Leads step (n + k) s s'' := by
  induction h with
  | refl s => rwa [Nat.zero_add]
  | cons hstep _ ih =>
    rw [Nat.add_right_comm]
    exact .cons hstep (ih h')

/-- The steps to a state are the first steps of a run. -/
theorem runFor_add (h : Leads step n s s') (fuel : Nat) :
    runFor step (n + fuel) s = runFor step fuel s' := by
  induction h with
  | refl s => rw [Nat.zero_add]
  | cons hstep _ ih =>
    rw [Nat.add_right_comm, runFor, hstep]
    exact ih

/-- As long as steps lead on, a run has not ended. -/
theorem runFor_eq_none (h : Leads step n s s') : runFor step n s = none := by
  have hrun := h.runFor_add 0
  rwa [Nat.add_zero] at hrun

/-- A run that ends has passed through every state that it leads to. -/
theorem runFor_rest {fuel : Nat} {o : Outcome ω} (h : Leads step n s s')
    (hrun : runFor step fuel s = some o) :
    ∃ rest, fuel = n + rest ∧ runFor step rest s' = some o := by
  induction h generalizing fuel with
  | refl s => exact ⟨fuel, (Nat.zero_add fuel).symm, hrun⟩
  | cons hstep _ ih =>
    cases fuel with
    | zero => cases hrun
    | succ fuel =>
      rw [runFor, hstep] at hrun
      obtain ⟨rest, hfuel, hrest⟩ := ih hrun
      exact ⟨rest, by omega, hrest⟩

/-- Steps one after the other keep what one step keeps. -/
theorem keeps (h : Leads step n s s') {Keeps : σ → Prop}
    (hstep : ∀ {s s'}, step s = .going s' → Keeps s → Keeps s') (hs : Keeps s) : Keeps s' := by
  induction h with
  | refl s => exact hs
  | cons hgoing _ ih => exact ih (hstep hgoing hs)

end Leads

/-- A run that ends has been led to the state that its last step ends it from. -/
theorem exists_leads_of_runFor {step : σ → Progress ω σ} {fuel : Nat} {s : σ} {o : Outcome ω}
    (hrun : runFor step fuel s = some o) :
    ∃ n s', Leads step n s s' ∧ step s' = .stopped o := by
  induction fuel generalizing s with
  | zero => cases hrun
  | succ fuel ih =>
    rw [runFor] at hrun
    cases hstep : step s with
    | going next =>
      rw [hstep] at hrun
      obtain ⟨n, s', hleads, hstopped⟩ := ih hrun
      exact ⟨n + 1, s', .cons hstep hleads, hstopped⟩
    | stopped o' =>
      rw [hstep] at hrun
      obtain rfl := Option.some.inj hrun
      exact ⟨0, s, .refl s, hstep⟩

/-- Within so many steps a run has ended, or all of them have led on. -/
theorem runFor_or_leads (step : σ → Progress ω σ) (fuel : Nat) (s : σ) :
    (∃ o, runFor step fuel s = some o) ∨ ∃ s', Leads step fuel s s' := by
  induction fuel generalizing s with
  | zero => exact .inr ⟨s, .refl s⟩
  | succ fuel ih =>
    rw [runFor]
    cases hstep : step s with
    | stopped o => exact .inl ⟨o, rfl⟩
    | going next =>
      obtain ⟨o, hrun⟩ | ⟨s', hleads⟩ := ih next
      · exact .inl ⟨o, hrun⟩
      · exact .inr ⟨s', .cons hstep hleads⟩

/-- From two states either both runs go on, by at least one step each, to states that are related
    again, or both end, with outcomes that are related. -/
inductive Meet (step : σ → Progress ω σ) (step' : τ → Progress ω τ) (R : σ → τ → Prop)
    (Q : Outcome ω → Outcome ω → Prop) (s : σ) (t : τ) : Prop where
  | going {n k : Nat} {s' : σ} {t' : τ} (hs : Leads step (n + 1) s s')
      (ht : Leads step' (k + 1) t t') (hrel : R s' t')
  | stopped {n k : Nat} {o o' : Outcome ω} (hs : runFor step n s = some o)
      (ht : runFor step' k t = some o') (hout : Q o o')

/-- Two kinds of run stay together if from related states they always meet again. -/
def Together (step : σ → Progress ω σ) (step' : τ → Progress ω τ) (R : σ → τ → Prop)
    (Q : Outcome ω → Outcome ω → Prop) : Prop :=
  ∀ s t, R s t → Meet step step' R Q s t

namespace Together

variable {step : σ → Progress ω σ} {step' : τ → Progress ω τ} {R : σ → τ → Prop}
  {Q : Outcome ω → Outcome ω → Prop} {s : σ} {t : τ}

/-- Staying together does not depend on which run comes first. -/
theorem symm (h : Together step step' R Q) :
    Together step' step (fun t s => R s t) (fun o' o => Q o o') := by
  intro t s hrel
  cases h s t hrel with
  | going hs ht hrel => exact .going ht hs hrel
  | stopped hs ht hout => exact .stopped ht hs hout

/-- If the first run ends, so does the second, since each time they meet the first one has fewer
    steps left. -/
theorem ends (h : Together step step' R Q) (hrel : R s t) {fuel : Nat} {o : Outcome ω}
    (hrun : runFor step fuel s = some o) :
    ∃ fuel' o', runFor step' fuel' t = some o' ∧ Q o o' := by
  induction fuel using Nat.strongRecOn generalizing s t with
  | ind fuel ih =>
    cases h s t hrel with
    | going hs ht hrel =>
      obtain ⟨rest, hfuel, hrest⟩ := hs.runFor_rest hrun
      obtain ⟨fuel', o', hrun', hout⟩ := ih rest (by omega) hrel hrest
      exact ⟨_, o', (ht.runFor_add fuel').trans hrun', hout⟩
    | stopped hs ht hout =>
      obtain rfl := runFor_unique hrun hs
      exact ⟨_, _, ht, hout⟩

/-- Either both runs end or none does. -/
theorem ends_iff (h : Together step step' R Q) (hrel : R s t) :
    (∃ fuel o, runFor step fuel s = some o) ↔ ∃ fuel o, runFor step' fuel t = some o := by
  constructor
  · rintro ⟨fuel, o, hrun⟩
    obtain ⟨fuel', o', hrun', _⟩ := h.ends hrel hrun
    exact ⟨fuel', o', hrun'⟩
  · rintro ⟨fuel, o, hrun⟩
    obtain ⟨fuel', o', hrun', _⟩ := h.symm.ends hrel hrun
    exact ⟨fuel', o', hrun'⟩

/-- Where both runs end, their outcomes are related. -/
theorem outcomes (h : Together step step' R Q) (hrel : R s t) {fuel fuel' : Nat}
    {o o' : Outcome ω} (hrun : runFor step fuel s = some o)
    (hrun' : runFor step' fuel' t = some o') : Q o o' := by
  obtain ⟨_, o'', hrun'', hout⟩ := h.ends hrel hrun
  obtain rfl := runFor_unique hrun' hrun''
  exact hout

end Together

end OokLang
