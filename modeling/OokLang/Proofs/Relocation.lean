import OokLang.Proofs.Change

namespace OokLang

variable {ω : Type}

/-- Whether a fault is a move past the first cell. -/
def Fault.IsUnderflow (fault : Fault) : Prop :=
  ∃ pointer distance, fault = .pointerUnderflow pointer distance

namespace Tape

/-- The same tape with more cells in front of its first one. -/
def prepend (extra : List UInt8) (t : Tape) : Tape :=
  { t with left := t.left ++ extra.reverse }

variable (extra : List UInt8)

@[simp] theorem cells_prepend (t : Tape) : (t.prepend extra).cells = extra ++ t.cells := by
  simp [prepend, cells]

@[simp] theorem pointer_prepend (t : Tape) :
    (t.prepend extra).pointer = t.pointer + extra.length := by
  simp [prepend, pointer]

/-- A new cell at the right end is new with more cells on the left as well. -/
theorem moveRight_prepend (t : Tape) : (t.prepend extra).moveRight = t.moveRight.prepend extra := by
  obtain ⟨left, current, right⟩ := t
  cases right <;> rfl

theorem forward_prepend (n : Nat) (t : Tape) :
    (t.prepend extra).forward n = (t.forward n).prepend extra := by
  induction n generalizing t with
  | zero => rfl
  | succ n ih => rw [forward, moveRight_prepend, ih, forward]

theorem moveLeft?_prepend {t t' : Tape} (hmove : t.moveLeft? = some t') :
    (t.prepend extra).moveLeft? = some (t'.prepend extra) := by
  obtain ⟨left, current, right⟩ := t
  cases left with
  | nil => cases hmove
  | cons cell left =>
    cases hmove
    rfl

theorem back?_prepend {n : Nat} {t t' : Tape} (hback : t.back? n = some t') :
    (t.prepend extra).back? n = some (t'.prepend extra) := by
  induction n generalizing t with
  | zero =>
    cases hback
    rfl
  | succ n ih =>
    rw [back?] at hback
    cases hmove : t.moveLeft? with
    | none => simp [hmove] at hback
    | some next =>
      simp only [hmove] at hback
      rw [back?, moveLeft?_prepend extra hmove]
      exact ih hback

/-- A move that does not pass the first cell is the same move with more cells in front of it. -/
theorem shift?_prepend {t t' : Tape} {distance : Int} (hshift : t.shift? distance = some t') :
    (t.prepend extra).shift? distance = some (t'.prepend extra) := by
  cases distance with
  | ofNat n =>
    cases hshift
    rw [shift?, forward_prepend]
  | negSucc n => exact back?_prepend extra hshift

end Tape

namespace Machine

/-- The same machine with more cells in front of the first one of its tape. -/
def prepend (extra : List UInt8) (m : Machine ω) : Machine ω :=
  { m with tape := m.tape.prepend extra }

/-- A machine that has the same cells behind some others. -/
theorem eq_prepend {extra : List UInt8} {m m' : Machine ω}
    (hcells : m'.tape.cells = extra ++ m.tape.cells)
    (hpointer : m'.tape.pointer = m.tape.pointer + extra.length) (hsink : m'.sink = m.sink) :
    m' = m.prepend extra := by
  have htape : m'.tape = m.tape.prepend extra :=
    Tape.eq_of_cells_of_pointer (by rw [hcells, Tape.cells_prepend])
      (by rw [hpointer, Tape.pointer_prepend])
  obtain ⟨tape, sink⟩ := m'
  obtain rfl : tape = m.tape.prepend extra := htape
  obtain rfl : sink = m.sink := hsink
  rfl

variable [Writer ω]

/-- Operations only see the cell at the pointer and those that they pass, so that more cells in
    front are not noticed but where a move would pass the first cell. -/
theorem harmless_prepend (extra : List UInt8) :
    Harmless (prepend (ω := ω) extra) Fault.IsUnderflow where
  isZero_eq _ := rfl
  effect_eq := by
    intro op m
    cases op with
    | shift distance =>
      cases hshift : m.tape.shift? distance with
      | none =>
        refine .inl ⟨_, ?_, m.tape.pointer, distance.natAbs, rfl⟩
        rw [Op.effect, shift, hshift]
        rfl
      | some tape =>
        have hmoved : (m.prepend extra).tape.shift? distance = some (tape.prepend extra) :=
          Tape.shift?_prepend extra hshift
        refine .inr ?_
        rw [Op.effect, Op.effect, shift, shift, hshift, hmoved]
        rfl
    | add | sub | write | read | undefined | skipIfZero | backUnlessZero => exact .inr rfl

end Machine

/-- A program may be run anywhere on a longer tape. If it ends without a move past the first cell,
    it also does with any cells in front of that one, with the same fault or none and the same sink,
    and these cells are as they were. -/
theorem Engine.runs_relocated [Writer ω] (engine : Engine) (p : Program) (extra : List UInt8)
    {m m' last : Machine ω} {fault : Option Fault}
    (hcells : m'.tape.cells = extra ++ m.tape.cells)
    (hpointer : m'.tape.pointer = m.tape.pointer + extra.length) (hsink : m'.sink = m.sink)
    (hruns : engine.Runs p m (.ended fault) last)
    (hfault : ∀ pointer distance, fault ≠ some (.pointerUnderflow pointer distance)) :
    ∃ last', engine.Runs p m' (.ended fault) last' ∧
      last'.tape.cells = extra ++ last.tape.cells ∧
      last'.tape.pointer = last.tape.pointer + extra.length ∧ last'.sink = last.sink := by
  obtain rfl := Machine.eq_prepend hcells hpointer hsink
  obtain ⟨fault', rfl, pointer, distance, rfl⟩ | hruns' :=
    Engine.ends_map (Machine.harmless_prepend extra) hruns
  · exact absurd rfl (hfault pointer distance)
  · exact ⟨last.prepend extra, hruns', last.tape.cells_prepend extra,
      last.tape.pointer_prepend extra, rfl⟩

/-- A program that moves two units to the next cell, writes that cell and then asks for input. -/
theorem Engine.runs_relocated_input :
    let p : Program := .loop (.instr .decrement (.instr .moveRight (.instr .increment
      (.instr .moveLeft .nil)))) (.instr .moveRight (.instr .output (.instr .input .nil)))
    let m : Machine Sink := { tape := { left := [], current := 2, right := [] }, sink := {} }
    let last : Machine Sink :=
      { tape := { left := [0], current := 2, right := [] }, sink := { received := #[2] } }
    let m' : Machine Sink := { tape := { left := [8, 7], current := 2, right := [] }, sink := {} }
    m'.tape.cells = [7, 8] ++ m.tape.cells ∧ m'.tape.pointer = m.tape.pointer + 2 ∧
      m'.sink = m.sink ∧ (code true).Runs p m (.ended (some .unsupportedInput)) last ∧
      (∀ pointer distance, some Fault.unsupportedInput ≠ some (.pointerUnderflow pointer distance)) ∧
      ∃ last', (code true).Runs p m' (.ended (some .unsupportedInput)) last' ∧
        last'.tape.cells = [7, 8] ++ last.tape.cells ∧
        last'.tape.pointer = last.tape.pointer + 2 ∧ last'.sink = last.sink := by
  intro p m last m'
  have hruns : (code true).Runs p m (.ended (some .unsupportedInput)) last := ⟨14, by decide⟩
  have hfault : ∀ pointer distance,
      some Fault.unsupportedInput ≠ some (.pointerUnderflow pointer distance) := nofun
  have hcells : m'.tape.cells = [7, 8] ++ m.tape.cells := rfl
  have hpointer : m'.tape.pointer = m.tape.pointer + 2 := rfl
  have hsink : m'.sink = m.sink := rfl
  exact ⟨hcells, hpointer, hsink, hruns, hfault,
    (code true).runs_relocated p [7, 8] hcells hpointer hsink hruns hfault⟩

end OokLang
