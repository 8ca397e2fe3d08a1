import OokLang.Proofs.Lowering.Jumps

namespace OokLang

variable {ω σ τ : Type}

/-- So many steps lead from one state to another, and each of them starts from a state of the given
    kind. -/
inductive LeadsWithin (step : σ → Progress ω σ) (Inside : σ → Prop) : Nat → σ → σ → Prop where
  | refl (s : σ) : LeadsWithin step Inside 0 s s
  | cons {n : Nat} {s s' s'' : σ} (hinside : Inside s) (hstep : step s = .going s')
      (hrest : LeadsWithin step Inside n s' s'') : LeadsWithin step Inside (n + 1) s s''

/-- The same progress, with the state to go on from seen in another way. -/
def Progress.map (f : σ → τ) : Progress ω σ → Progress ω τ
  | going s => going (f s)
  | stopped o => stopped o

theorem Progress.map_eq_going {f : σ → τ} {progress : Progress ω σ} {t : τ}
    (hmap : progress.map f = .going t) : ∃ s, progress = .going s ∧ f s = t := by
  cases progress with
  | going s => exact ⟨s, rfl, Progress.going.inj hmap⟩
  | stopped o => cases hmap

theorem Progress.map_eq_stopped {f : σ → τ} {progress : Progress ω σ} {o : Outcome ω}
    (hmap : progress.map f = .stopped o) : progress = .stopped o := by
  cases progress with
  | going s => cases hmap
  | stopped o' => rw [Progress.stopped.inj hmap]

theorem Outcome.andGo_map (o : Outcome ω) (next : Machine ω → σ) (f : σ → τ) :
    (o.andGo next).map f = o.andGo (fun m => f (next m)) := by
  obtain ⟨fault, m⟩ := o
  cases fault <;> rfl

namespace Code

/-- The same state of code that has so many more operations in front. -/
def State.behind (front : Nat) (s : State ω) : State ω :=
  { s with counter := front + s.counter }

/-- Whether the operation that comes next is one of those from one place up to another. -/
def State.Between (first last : Nat) (s : State ω) : Prop :=
  first ≤ s.counter ∧ s.counter < last

theorem State.between_behind {front size : Nat} {s : State ω} :
    (s.behind front).Between front (front + size) ↔ s.counter < size := by
  unfold Between behind
  dsimp only
  omega

section Runs

variable [Writer ω]

/-- From the first of some operations on a run fails at one of them, and carries out no other ones
    before. -/
def FailsInside (code : Code) (first last : Nat) (m : Machine ω) (o : Outcome ω) : Prop :=
  ∃ steps s, LeadsWithin (State.step code) (State.Between first last) steps ⟨first, m⟩ s ∧
    s.Between first last ∧ State.step code s = .stopped o ∧ o.fault ≠ none

/-- From the first of some operations on a run comes to the place behind them, and carries out no
    other ones before. -/
def RunsThrough (code : Code) (first last : Nat) (m m' : Machine ω) : Prop :=
  ∃ steps, LeadsWithin (State.step code) (State.Between first last) steps ⟨first, m⟩ ⟨last, m'⟩

/-- From the first of some operations on a run goes on for ever, and carries out no other ones. -/
def StaysInside (code : Code) (first last : Nat) (m : Machine ω) : Prop :=
  ∀ steps, ∃ s, LeadsWithin (State.step code) (State.Between first last) steps ⟨first, m⟩ s ∧
    s.Between first last

variable {code : Code} (front rest : Code)

theorem getElem?_among {index : Nat} (hlt : index < code.size) :
    (front ++ code ++ rest)[front.size + index]? = code[index]? := by
  have hinside : front.size + index < (front ++ code).size := by
    rw [Array.size_append]
    omega
  rw [Array.getElem?_append_left hinside, Array.getElem?_append_right (Nat.le_add_right _ _),
    Nat.add_sub_cancel_left]

/-- Behind its last operation code can only end well. -/
theorem State.counter_lt_size {s : State ω} (hstep : step code s ≠ .stopped s.machine.done) :
    s.counter < code.size := by
  apply Nat.lt_of_not_le
  intro hle
  exact hstep (step_of_none (Array.getElem?_eq_none hle))

/-- Among other operations a step does the same as without them. Jumps count from the jump itself,
    and this holds of jumps back that do not pass the first operation. -/
theorem State.step_among {s : State ω} (hlt : s.counter < code.size)
    (hback : ∀ distance, code[s.counter]? = some (.backUnlessZero distance) →
      distance ≤ s.counter) :
    step (front ++ code ++ rest) (s.behind front.size) = (step code s).map (behind front.size) := by
  obtain ⟨counter, m⟩ := s
  change counter < code.size at hlt
  obtain ⟨op, hop⟩ : ∃ op, code[counter]? = some op := ⟨_, Array.getElem?_eq_getElem hlt⟩
  have hamong := (getElem?_among front rest hlt).trans hop
  rw [behind]
  cases op with
  | skipIfZero distance =>
    rw [step_skipIfZero hop, step_skipIfZero hamong]
    cases m.isZero <;> simp [Progress.map, behind, Nat.add_assoc]
  | backUnlessZero distance =>
    have hplace : front.size + counter - distance = front.size + (counter - distance) :=
      Nat.add_sub_assoc (hback distance hop) front.size
    rw [step_backUnlessZero hop, step_backUnlessZero hamong, hplace]
    cases m.isZero <;> rfl
  | shift | add | sub | write | read | undefined =>
    rw [step_of_not_isJump hop rfl, step_of_not_isJump hamong rfl, Outcome.andGo_map]
    rfl

section Among

variable {front rest} {steps : Nat} {s : State ω}
  (hback : ∀ index distance : Nat,
    code[index]? = some (.backUnlessZero distance) → distance ≤ index)

include hback

/-- Steps of code are steps of the same code among other operations, and none of those is carried
    out. -/
theorem State.leadsWithin_among {s' : State ω} (hleads : Leads (step code) steps s s') :
    LeadsWithin (step (front ++ code ++ rest)) (Between front.size (front.size + code.size)) steps
      (s.behind front.size) (s'.behind front.size) := by
  induction hleads with
  | refl s => exact .refl _
  | @cons n s s' s'' hstep hrest ih =>
    have hlt : s.counter < code.size := counter_lt_size (by rw [hstep]; nofun)
    have hamong := step_among front rest hlt (hback s.counter)
    rw [hstep] at hamong
    exact .cons (between_behind.mpr hlt) hamong ih

/-- Code among other operations makes no other steps as long as none of those is carried out. -/
theorem State.exists_leads_of_leadsWithin {t : State ω}
    (hleads : LeadsWithin (step (front ++ code ++ rest))
      (Between front.size (front.size + code.size)) steps (s.behind front.size) t) :
    ∃ s', Leads (step code) steps s s' ∧ s'.behind front.size = t := by
  generalize hstart : s.behind front.size = start at hleads
  induction hleads generalizing s with
  | refl start => exact ⟨s, .refl s, hstart⟩
  | cons hinside hstep _ ih =>
    subst hstart
    have hlt := between_behind.mp hinside
    rw [step_among front rest hlt (hback s.counter)] at hstep
    obtain ⟨next, hnext, hbehind⟩ := Progress.map_eq_going hstep
    obtain ⟨s', hrest, rfl⟩ := ih hbehind
    exact ⟨s', .cons hnext hrest, rfl⟩

variable {m : Machine ω}

/-- Code fails on its own as it does among other operations. -/
theorem failsInside_among_iff (o : Outcome ω) :
    (front ++ code ++ rest).FailsInside front.size (front.size + code.size) m o ↔
      o.fault ≠ none ∧ ∃ fuel, code.run fuel m = some o := by
  constructor
  · rintro ⟨steps, t, hleads, hinside, hstopped, hfault⟩
    obtain ⟨s, hleads', rfl⟩ := State.exists_leads_of_leadsWithin (s := ⟨0, m⟩) hback hleads
    have hlt := State.between_behind.mp hinside
    rw [State.step_among front rest hlt (hback s.counter)] at hstopped
    refine ⟨hfault, steps + 1, ?_⟩
    rw [run, hleads'.runFor_add, runFor, Progress.map_eq_stopped hstopped]
  · rintro ⟨hfault, fuel, hrun⟩
    obtain ⟨steps, s, hleads, hstopped⟩ := exists_leads_of_runFor hrun
    have hlt : s.counter < code.size := by
      apply State.counter_lt_size
      intro hdone
      rw [hstopped] at hdone
      exact hfault (congrArg Outcome.fault (Progress.stopped.inj hdone))
    have hamong := State.step_among front rest hlt (hback s.counter)
    rw [hstopped] at hamong
    exact ⟨steps, _, State.leadsWithin_among hback hleads, State.between_behind.mpr hlt, hamong,
      hfault⟩

/-- Code that ends well on its own is passed through among other operations, as long as its jumps
    forward do not go past its end. -/
theorem runsThrough_among_iff
    (hskip : ∀ index distance : Nat, code[index]? = some (.skipIfZero distance) →
      index + distance ≤ code.size) (m' : Machine ω) :
    (front ++ code ++ rest).RunsThrough front.size (front.size + code.size) m m' ↔
      ∃ fuel, code.run fuel m = some m'.done := by
  constructor
  · rintro ⟨steps, hleads⟩
    obtain ⟨⟨counter, last⟩, hleads', hbehind⟩ :=
      State.exists_leads_of_leadsWithin (s := ⟨0, m⟩) hback hleads
    obtain ⟨hcounter, rfl⟩ := State.mk.inj hbehind
    obtain rfl : counter = code.size := Nat.add_left_cancel hcounter
    refine ⟨steps + 1, ?_⟩
    have hend : code[code.size]? = none := Array.getElem?_eq_none (Nat.le_refl _)
    rw [run, hleads'.runFor_add, runFor, State.step_of_none hend]
  · rintro ⟨fuel, hrun⟩
    obtain ⟨steps, ⟨counter, last⟩, hleads, hstopped⟩ := exists_leads_of_runFor hrun
    obtain ⟨hnone, hdone⟩ := State.getElem?_eq_none_of_stopped hstopped rfl
    obtain rfl : m' = last := congrArg Outcome.machine hdone
    have hle : counter ≤ code.size :=
      hleads.keeps (fun hstep _ => State.counter_le_size_of_step hskip hstep) (Nat.zero_le _)
    obtain rfl : counter = code.size := Nat.le_antisymm hle (Array.getElem?_eq_none_iff.mp hnone)
    exact ⟨steps, State.leadsWithin_among hback hleads⟩

/-- Code that does not end on its own does not do so among other operations either. -/
theorem staysInside_among_iff :
    (front ++ code ++ rest).StaysInside front.size (front.size + code.size) m ↔
      ∀ fuel, code.run fuel m = none := by
  constructor
  · intro hstays fuel
    obtain ⟨t, hleads, _⟩ := hstays fuel
    obtain ⟨s, hleads', _⟩ := State.exists_leads_of_leadsWithin (s := ⟨0, m⟩) hback hleads
    exact hleads'.runFor_eq_none
  · intro hnone steps
    obtain ⟨o, hrun⟩ | ⟨s, hleads⟩ := runFor_or_leads (State.step code) steps ⟨0, m⟩
    · have hends := hnone steps
      rw [run, hrun] at hends
      cases hends
    · refine ⟨_, State.leadsWithin_among hback hleads, State.between_behind.mpr ?_⟩
      apply State.counter_lt_size
      intro hstopped
      have hends := hnone (steps + 1)
      rw [run, hleads.runFor_add, runFor, hstopped] at hends
      cases hends

end Among

end Runs

end Code

/-- The code of a program does not depend on where it stands or among which other operations. A run
    from its first operation on carries out no other ones until it fails as the code does on its
    own, or is just behind the code with the machine that the code ends with on its own. It comes to
    neither exactly if the code does not end on its own, and then it stays inside for ever. -/
theorem Program.run_lower_among [Writer ω] (p : Program) (fold : Bool) (front rest : Code)
    (m : Machine ω) :
    let code := p.lower fold
    let whole := front ++ code ++ rest
    let last := front.size + code.size
    (∀ o : Outcome ω, whole.FailsInside front.size last m o ↔
      o.fault ≠ none ∧ ∃ fuel, code.run fuel m = some o) ∧
    (∀ m', whole.RunsThrough front.size last m m' ↔ ∃ fuel, code.run fuel m = some m'.done) ∧
    (((∀ o, ¬whole.FailsInside front.size last m o) ∧
        ∀ m', ¬whole.RunsThrough front.size last m m') ↔ ∀ fuel, code.run fuel m = none) ∧
    (whole.StaysInside front.size last m ↔ ∀ fuel, code.run fuel m = none) := by
  intro code whole last
  have hback : ∀ index distance : Nat, code[index]? = some (.backUnlessZero distance) →
      distance ≤ index :=
    fun _ _ hop => Nat.le_of_succ_le (skip_of_back hop).1
  have hskip : ∀ index distance : Nat, code[index]? = some (.skipIfZero distance) →
      index + distance ≤ code.size :=
    fun _ _ hop => (back_of_skip hop).2.1
  have hfails (o : Outcome ω) : whole.FailsInside front.size last m o ↔
      o.fault ≠ none ∧ ∃ fuel, code.run fuel m = some o :=
    Code.failsInside_among_iff hback o
  have hpasses (m' : Machine ω) : whole.RunsThrough front.size last m m' ↔
      ∃ fuel, code.run fuel m = some m'.done :=
    Code.runsThrough_among_iff hback hskip m'
  refine ⟨hfails, hpasses, ?_, Code.staysInside_among_iff hback⟩
  constructor
  · rintro ⟨hnever, hnowhere⟩ fuel
    cases hrun : code.run fuel m with
    | none => rfl
    | some o =>
      obtain ⟨fault, m'⟩ := o
      cases fault with
      | none => exact absurd ((hpasses m').mpr ⟨fuel, hrun⟩) (hnowhere m')
      | some fault =>
        exact absurd ((hfails _).mpr ⟨Option.some_ne_none fault, fuel, hrun⟩) (hnever _)
  · intro hnone
    refine ⟨?_, ?_⟩
    · intro o hfailed
      obtain ⟨_, fuel, hrun⟩ := (hfails o).mp hfailed
      rw [hnone] at hrun
      cases hrun
    · intro m' hpassed
      obtain ⟨fuel, hrun⟩ := (hpasses m').mp hpassed
      rw [hnone] at hrun
      cases hrun

end OokLang
