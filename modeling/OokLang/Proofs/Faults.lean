import OokLang.Proofs.Lowering.Layout
import OokLang.Proofs.Output.Engines
import OokLang.Proofs.Reading.Spelling

namespace OokLang

variable {ω σ κ : Type}

/-- Whether an operation may stand in the code of a program that was read. -/
def Op.IsPlain (op : Op) : Prop :=
  op ≠ .read ∧ ∀ i, op ≠ .undefined i

/-- Something holds of the next place if there is one, and something of the operation on the way. -/
def Turn.Keeps (Inv : κ → Prop) (Allowed : Op → Prop) : Turn κ → Prop
  | stop => True
  | goOn next => Inv next
  | carryOut op next => Allowed op ∧ Inv next

/-- A run whose turns keep to some operations fails only as one of these operations does. -/
theorem TakesTurns.exists_effect_of_fault [Writer ω] {turn : Bool → κ → Turn κ}
    {step : σ → Progress ω σ} {machine : σ → Machine ω} {state : κ → Machine ω → σ}
    (h : TakesTurns turn step machine state) {Inv : κ → Prop} {Allowed : Op → Prop}
    (hkeeps : ∀ zero k, Inv k → (turn zero k).Keeps Inv Allowed) {k : κ} {m last : Machine ω}
    {fault : Fault} (hk : Inv k)
    (hruns : RunsTo step machine (state k m) (.ended (some fault)) last) :
    ∃ (op : Op) (m' : Machine ω), Allowed op ∧ (op.effect m').fault = some fault := by
  obtain ⟨fuel, hrun⟩ := hruns
  induction fuel generalizing k m with
  | zero => cases hrun
  | succ fuel ih =>
    have hturn := hkeeps m.isZero k hk
    rw [runFor] at hrun
    cases h.stepsBy k m with
    | stop _ hstep =>
      rw [hstep] at hrun
      cases hrun
    | goOn hnext hstep =>
      rw [hnext] at hturn
      rw [hstep] at hrun
      exact ih hturn hrun
    | carryOut hnext _ hstep =>
      rw [hnext] at hturn
      rw [hstep] at hrun
      exact ih hturn.2 hrun
    | fault hnext hop hstep =>
      rw [hnext] at hturn
      rw [hstep] at hrun
      cases hrun
      exact ⟨_, m, hturn.1, congrArg Outcome.fault hop⟩

/-- The only faults of plain operations are moves past the first cell and failures of the sink. -/
theorem Op.IsPlain.fault_cases [Writer ω] {op : Op} (hplain : op.IsPlain) {m : Machine ω}
    {fault : Fault} (hfault : (op.effect m).fault = some fault) :
    (∃ pointer distance, fault = .pointerUnderflow pointer distance) ∨
      ∃ cause, fault = .output cause := by
  cases op with
  | shift distance =>
    rw [effect, Machine.shift] at hfault
    split at hfault
    · cases hfault
    · cases hfault
      exact .inl ⟨_, _, rfl⟩
  | write count =>
    obtain ⟨cause, _, rfl⟩ := Option.map_eq_some_iff.mp hfault
    exact .inr ⟨cause, rfl⟩
  | read => exact absurd rfl hplain.1
  | undefined i => exact absurd rfl (hplain.2 i)
  | add | sub | skipIfZero | backUnlessZero => cases hfault

theorem Instruction.IsPlain.times {i : Instruction} (hplain : i.IsPlain) (n : Nat) :
    (i.times n).IsPlain := by
  obtain ⟨hinput, hstart, hend⟩ := hplain
  cases i <;> first | contradiction | exact ⟨nofun, nofun⟩

namespace Program

theorem isPlain_repeated {i : Instruction} {n : Nat} {rest : Program}
    (hplain : (repeated i (n + 1) rest).IsPlain) : i.IsPlain ∧ rest.IsPlain := by
  induction n with
  | zero => exact hplain
  | succ n ih => exact ⟨hplain.1, (ih hplain.2).2⟩

/-- Each operation of a plain program's code is plain, whatever is folded. -/
theorem LowersTo.isPlain {fold : Bool} {p : Program} {ops : List Op} (h : p.LowersTo fold ops)
    (hplain : p.IsPlain) : ∀ op ∈ ops, op.IsPlain := by
  induction h with
  | nil => nofun
  | @repeated i n rest ops _ _ ih =>
    obtain ⟨hi, hrest⟩ := isPlain_repeated hplain
    exact List.forall_mem_cons.mpr ⟨hi.times (n + 1), ih hrest⟩
  | loop _ _ ihbody ihrest =>
    refine List.forall_mem_cons.mpr ⟨⟨nofun, nofun⟩, List.forall_mem_append.mpr ⟨?_, ?_⟩⟩
    · exact ihbody hplain.1
    · exact List.forall_mem_cons.mpr ⟨⟨nofun, nofun⟩, ihrest hplain.2⟩

theorem lower_isPlain {p : Program} (hplain : p.IsPlain) (fold : Bool) :
    ∀ op ∈ p.lower fold, op.IsPlain := by
  intro op hop
  exact (p.lowersTo_lower fold).isPlain hplain op (Array.mem_toList_iff.mpr hop)

/-- Whether a program in the middle of a run is plain, with all that comes after the block. -/
def PlaceIsPlain (k : Program × List Program) : Prop :=
  k.1.IsPlain ∧ ∀ p ∈ k.2, p.IsPlain

theorem turn_keeps (zero : Bool) (k : Program × List Program) (hplain : PlaceIsPlain k) :
    (turn zero k).Keeps PlaceIsPlain Op.IsPlain := by
  obtain ⟨todo, pending⟩ := k
  obtain ⟨htodo, hpending⟩ := hplain
  cases todo with
  | nil =>
    cases pending with
    | nil => trivial
    | cons after pending => exact List.forall_mem_cons.mp hpending
  | instr i rest =>
    have hop : i.op.IsPlain := by
      rw [← Instruction.times_one]
      exact htodo.1.times 1
    exact ⟨hop, htodo.2, hpending⟩
  | loop body rest =>
    cases zero with
    | true => exact ⟨htodo.2, hpending⟩
    | false => exact ⟨htodo.1, List.forall_mem_cons.mpr ⟨htodo, hpending⟩⟩

end Program

/-- Code keeps to its own operations. -/
theorem Code.turn_keeps (code : Code) (zero : Bool) (counter : Nat) :
    (code.turn zero counter).Keeps (fun _ => True) (· ∈ code) := by
  unfold Code.turn
  cases hop : code[counter]? with
  | none => trivial
  | some op =>
    have hmem := Array.mem_of_getElem? hop
    cases op with
    | skipIfZero | backUnlessZero => trivial
    | shift | add | sub | write | read | undefined => exact ⟨hmem, trivial⟩

/-- A fault of code is one of an operation in it. -/
theorem Code.exists_effect_of_fault [Writer ω] {code : Code} {m last : Machine ω} {fault : Fault}
    (hruns : RunsTo (State.step code) State.machine ⟨0, m⟩ (.ended (some fault)) last) :
    ∃ op ∈ code, ∃ m' : Machine ω, (op.effect m').fault = some fault := by
  obtain ⟨op, m', hop, hfault⟩ := (takesTurns code).exists_effect_of_fault
    (fun zero counter _ => turn_keeps code zero counter) (k := 0) trivial hruns
  exact ⟨op, hop, m', hfault⟩

/-- A plain program only carries out plain operations, whatever the engine. -/
theorem Engine.exists_effect_of_fault [Writer ω] {engine : Engine} {p : Program}
    (hplain : p.IsPlain) {m last : Machine ω} {fault : Fault}
    (hruns : engine.Runs p m (.ended (some fault)) last) :
    ∃ (op : Op) (m' : Machine ω), op.IsPlain ∧ (op.effect m').fault = some fault := by
  cases engine with
  | walk =>
    exact Program.takesTurns.exists_effect_of_fault Program.turn_keeps (k := (p, []))
      ⟨hplain, nofun⟩ hruns
  | code fold =>
    obtain ⟨op, hop, m', hfault⟩ := Code.exists_effect_of_fault hruns
    exact ⟨op, m', p.lower_isPlain hplain fold op hop, hfault⟩

/-- A program that was read never asks for input and never meets the mark of a loop, wherever it
    starts and wherever its output goes. No such operation is in its code, and all that can stop it
    is a move past the first cell or the sink. -/
theorem Program.faults_of_ofMarkers {markers : List Marker} {limit : Nat} {p : Program}
    (hread : ofMarkers markers limit = .ok p) :
    (∀ fold, ∀ op ∈ p.lower fold, op ≠ .read ∧ ∀ i, op ≠ .undefined i) ∧
      ∀ {ω : Type} [Writer ω] (engine : Engine) (m last : Machine ω) (fault : Fault),
        engine.Runs p m (.ended (some fault)) last →
        (∃ pointer distance, fault = .pointerUnderflow pointer distance) ∨
          ∃ cause, fault = .output cause := by
  obtain ⟨hplain, -, -⟩ := spells_of_ofMarkers hread
  refine ⟨lower_isPlain hplain, ?_⟩
  intro ω _ engine m last fault hruns
  obtain ⟨op, m', hop, hfault⟩ := Engine.exists_effect_of_fault hplain hruns
  exact hop.fault_cases hfault

/-- A loop that writes and moves to the left, until it comes to the first cell or the sink is
    full. -/
theorem Program.faults_of_ofMarkers_loop :
    let markers : List Marker :=
      [.bang, .question, .bang, .dot, .question, .dot, .question, .bang]
    let p : Program := .loop (.instr .output (.instr .moveLeft .nil)) .nil
    let m : Machine Sink := { tape := { left := [1], current := 1, right := [] }, sink := {} }
    let last : Machine Sink :=
      { tape := { left := [], current := 1, right := [1] }, sink := { received := #[1, 1] } }
    let full : Machine Sink := { m with sink := { room := some 0 } }
    let underflow : Fault := .pointerUnderflow 0 1
    let refused : Fault := .output .brokenPipe
    ofMarkers markers 1 = .ok p ∧ (∀ op ∈ p.lower true, op ≠ .read ∧ ∀ i, op ≠ .undefined i) ∧
      (Engine.code true).Runs p m (.ended (some underflow)) last ∧
      ((∃ pointer distance, underflow = .pointerUnderflow pointer distance) ∨
        ∃ cause, underflow = .output cause) ∧
      Engine.walk.Runs p full (.ended (some refused)) full ∧
      ((∃ pointer distance, refused = .pointerUnderflow pointer distance) ∨
        ∃ cause, refused = .output cause) := by
  intro markers p m last full underflow refused
  have hplain : p.IsPlain := ⟨⟨⟨nofun, nofun, nofun⟩, ⟨nofun, nofun, nofun⟩, trivial⟩, trivial⟩
  have hread : ofMarkers markers 1 = .ok p := ofMarkers_markers hplain (Nat.le_refl 1)
  have hruns : (Engine.code true).Runs p m (.ended (some underflow)) last := ⟨6, by rfl⟩
  have hruns' : Engine.walk.Runs p full (.ended (some refused)) full := ⟨2, by rfl⟩
  obtain ⟨hcode, hfaults⟩ := faults_of_ofMarkers hread
  exact ⟨hread, hcode true, hruns, hfaults _ _ _ _ hruns, hruns', hfaults _ _ _ _ hruns'⟩

end OokLang
