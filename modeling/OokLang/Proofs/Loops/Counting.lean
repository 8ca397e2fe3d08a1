import Mathlib.Algebra.Ring.Int.Parity
import Mathlib.Data.Int.GCD
import Mathlib.Data.Nat.Prime.Basic
import Mathlib.Tactic.LinearCombination
import OokLang.Proofs.Loops.Rounds

namespace OokLang

variable {ω : Type}

theorem ofInt_natCast (n : Nat) : UInt8.ofInt n = UInt8.ofNat n := by
  rw [UInt8.ofInt, ← UInt8.ofNat_mod_size (x := n)]
  congr 1

/-- A number is zero as a byte exactly if it is a multiple of 256. -/
theorem ofInt_eq_zero_iff (x : Int) : UInt8.ofInt x = 0 ↔ (256 : Int) ∣ x := by
  rw [UInt8.ofInt, UInt8.ofNat_eq_iff_mod_eq_toNat]
  simp only [UInt8.toNat_zero]
  omega

/-- Steps of one size come to a multiple of 256 at some time exactly if the greatest common divisor
    of the size and 256 divides the number that they start from. -/
theorem exists_dvd_add_mul_iff (v : Nat) (d : Int) :
    (∃ k : Nat, (256 : Int) ∣ v + k * d) ↔ Int.gcd d 256 ∣ v := by
  rw [Int.gcd_dvd_iff]
  constructor
  · rintro ⟨k, c, hc⟩
    exact ⟨-k, c, by linear_combination hc⟩
  · rintro ⟨x, y, hv⟩
    -- Taking x steps back comes to a multiple. As many forward do as -x leaves modulo 256.
    refine ⟨(-x % 256).toNat, y - -x / 256 * d, ?_⟩
    have hk : ((-x % 256).toNat : Int) = -x - 256 * (-x / 256) := by omega
    rw [hk]
    linear_combination hv

theorem gcd_eq_one_of_odd {d : Int} (hodd : d % 2 = 1) : Int.gcd d 256 = 1 := by
  have hcoprime : d.natAbs.Coprime 2 := by
    rw [Nat.coprime_two_right, Int.natAbs_odd]
    exact Int.odd_iff.mpr hodd
  exact hcoprime.pow_right 8

/-- Whether an instruction does no more than count or write. -/
def Instruction.counts : Instruction → Bool
  | increment | decrement | output => true
  | moveRight | moveLeft | input | loopStart | loopEnd => false

namespace Program

/-- Whether a program does no more than count and write, and has no loops. -/
def onlyCounts : Program → Bool
  | nil => true
  | instr i rest => i.counts && rest.onlyCounts
  | loop _ _ => false

/-- The increments of a program less its decrements, modulo 256. -/
def netChange (p : Program) : Int :=
  (p.instructions.count .increment - p.instructions.count .decrement : Int) % 256

theorem nesting_of_onlyCounts {p : Program} (h : p.onlyCounts = true) : p.nesting = 0 := by
  induction p with
  | nil => rfl
  | instr i rest ih => exact ih (Bool.and_eq_true_iff.mp h).2
  | loop body rest => cases h

theorem onlyCounts_repeated {i : Instruction} {n : Nat} {rest : Program}
    (h : (repeated i (n + 1) rest).onlyCounts = true) :
    i.counts = true ∧ rest.onlyCounts = true := by
  induction n with
  | zero => exact Bool.and_eq_true_iff.mp h
  | succ n ih => exact ih (Bool.and_eq_true_iff.mp h).2

theorem instructions_repeated (i : Instruction) (n : Nat) (rest : Program) :
    (repeated i n rest).instructions = List.replicate n i ++ rest.instructions := by
  induction n with
  | zero => rfl
  | succ n ih => rw [repeated, instructions, ih, List.replicate_succ, List.cons_append]

/-- The increments of a program less its decrements, as a byte. -/
def total (p : Program) : UInt8 :=
  UInt8.ofNat (p.instructions.count .increment) - UInt8.ofNat (p.instructions.count .decrement)

theorem ofInt_netChange (p : Program) : UInt8.ofInt p.netChange = p.total := by
  have hmod (x : Int) : UInt8.ofInt (x % 256) = UInt8.ofInt x := by simp [UInt8.ofInt]
  rw [netChange, total, hmod, Int.sub_eq_add_neg, UInt8.ofInt_add, UInt8.ofInt_neg, ofInt_natCast,
    ofInt_natCast, ← UInt8.sub_eq_add_neg]

theorem total_increments (n : Nat) (rest : Program) :
    (repeated .increment n rest).total = UInt8.ofNat n + rest.total := by
  simp [total, instructions_repeated, List.count_replicate, UInt8.ofNat_add, UInt8.sub_eq_add_neg,
    UInt8.add_assoc]

theorem total_decrements (n : Nat) (rest : Program) :
    (repeated .decrement n rest).total = -UInt8.ofNat n + rest.total := by
  simp only [total, instructions_repeated, List.count_append, List.count_replicate_self,
    UInt8.ofNat_add]
  simp [List.count_replicate]
  grind

theorem total_outputs (n : Nat) (rest : Program) :
    (repeated .output n rest).total = rest.total := by
  simp [total, instructions_repeated, List.count_replicate]

end Program

/-- Operations that only count and write, with what they add to the cell altogether. -/
inductive Op.AddUp : List Op → UInt8 → Prop where
  | nil : AddUp [] 0
  | add {ops : List Op} {total : UInt8} (amount : UInt8) (hrest : AddUp ops total) :
      AddUp (.add amount :: ops) (amount + total)
  | sub {ops : List Op} {total : UInt8} (amount : UInt8) (hrest : AddUp ops total) :
      AddUp (.sub amount :: ops) (-amount + total)
  | write {ops : List Op} {total : UInt8} (count : Nat) (hrest : AddUp ops total) :
      AddUp (.write count :: ops) total

/-- However its instructions are folded, a body adds the same to the cell. -/
theorem Program.LowersTo.addUp {fold : Bool} {p : Program} {ops : List Op}
    (h : p.LowersTo fold ops) (hcounts : p.onlyCounts = true) : Op.AddUp ops p.total := by
  induction h with
  | nil => exact .nil
  | @repeated i n rest ops _ _ ih =>
    obtain ⟨hi, hrest⟩ := onlyCounts_repeated hcounts
    have hops := ih hrest
    cases i with
    | increment =>
      rw [total_increments]
      exact hops.add (UInt8.ofNat (n + 1))
    | decrement =>
      rw [total_decrements]
      exact hops.sub (UInt8.ofNat (n + 1))
    | output =>
      rw [total_outputs]
      exact hops.write (n + 1)
    | _ => cases hi
  | loop => cases hcounts

namespace Writer

variable [Writer ω]

/-- A sink takes any bytes, whatever they are and however many. -/
def Unlimited (s : ω) : Prop :=
  ∀ bytes, (putAll bytes s).1 = none

theorem Unlimited.putAll {s : ω} (h : Unlimited s) (bytes : List UInt8) :
    Unlimited (putAll bytes s).2 := by
  intro more
  have hboth := h (bytes ++ more)
  have hfirst := h bytes
  rw [putAll_append] at hboth
  cases hput : Writer.putAll bytes s with
  | mk cause s' =>
    rw [hput] at hboth hfirst
    obtain rfl : cause = none := hfirst
    exact hboth

end Writer

theorem Sink.unlimited {s : Sink} (hroom : s.room = none) : Writer.Unlimited s := by
  intro bytes
  rw [putAll_of_unlimited hroom]

variable [Writer ω]

/-- One machine comes from another by an addition to the cell. Its sink takes any bytes. -/
structure Machine.AddsTo (m : Machine ω) (total : UInt8) (m' : Machine ω) : Prop where
  tape_eq : m'.tape = m.tape.modify (· + total)
  unlimited : Writer.Unlimited m'.sink

namespace Machine.AddsTo

variable {m m' m'' : Machine ω} {total total' : UInt8}

theorem refl (hsink : Writer.Unlimited m.sink) : m.AddsTo 0 m where
  tape_eq := by simp [Tape.modify]
  unlimited := hsink

theorem trans (h : m.AddsTo total m') (h' : m'.AddsTo total' m'') :
    m.AddsTo (total + total') m'' where
  tape_eq := by simp [h'.tape_eq, h.tape_eq, Tape.modify, UInt8.add_assoc]
  unlimited := h'.unlimited

theorem isZero_iff (h : m.AddsTo total m') :
    m'.isZero = true ↔ m.tape.current + total = 0 := by
  simp [isZero, h.tape_eq, Tape.modify]

theorem write (hsink : Writer.Unlimited m.sink) (count : Nat) :
    (m.write count).fault = none ∧ m.AddsTo 0 (m.write count).machine := by
  have hput := hsink (List.replicate count m.tape.current)
  rw [Machine.write, Writer.putMany_eq_putAll]
  refine ⟨?_, ?_, hsink.putAll _⟩
  · simp [hput]
  · simp [Tape.modify]

end Machine.AddsTo

/-- Operations that only count and write go well, and the machine ends up with their total. -/
theorem Op.AddUp.after {ops : List Op} {total : UInt8} (h : Op.AddUp ops total) {m : Machine ω}
    (hsink : Writer.Unlimited m.sink) : Op.GoWell ops m ∧ m.AddsTo total (m.after ops) := by
  induction h generalizing m with
  | nil => exact ⟨trivial, .refl hsink⟩
  | add amount _ ih =>
    have hone : m.AddsTo amount (m.add amount) := ⟨rfl, hsink⟩
    obtain ⟨hwell, hrest⟩ := ih hone.unlimited
    exact ⟨⟨rfl, hwell⟩, hone.trans hrest⟩
  | sub amount _ ih =>
    have hone : m.AddsTo (-amount) (m.sub amount) :=
      ⟨by simp [Machine.sub, Tape.modify, UInt8.sub_eq_add_neg], hsink⟩
    obtain ⟨hwell, hrest⟩ := ih hone.unlimited
    exact ⟨⟨rfl, hwell⟩, hone.trans hrest⟩
  | write count _ ih =>
    obtain ⟨hfault, hone⟩ := Machine.AddsTo.write hsink count
    obtain ⟨hwell, hrest⟩ := ih hone.unlimited
    have hboth := hone.trans hrest
    rw [UInt8.zero_add] at hboth
    exact ⟨⟨hfault, hwell⟩, hboth⟩

/-- Each round adds the same total. -/
theorem Op.AddUp.rounds {ops : List Op} {total : UInt8} (h : Op.AddUp ops total) {m : Machine ω}
    (hsink : Writer.Unlimited m.sink) (k : Nat) :
    m.AddsTo (UInt8.ofNat k * total) ((Machine.after ops)^[k] m) := by
  induction k generalizing m with
  | zero =>
    have hnone : UInt8.ofNat 0 * total = 0 := UInt8.zero_mul
    rw [hnone]
    exact .refl hsink
  | succ k ih =>
    have hone := (h.after hsink).2
    have htotal : UInt8.ofNat (k + 1) * total = total + UInt8.ofNat k * total := by
      rw [UInt8.ofNat_add]
      grind
    rw [htotal, Function.iterate_succ_apply]
    exact hone.trans (ih hone.unlimited)

/-- The cell is zero after so many rounds exactly if by then the additions have come to a multiple
    of 256. -/
theorem Op.AddUp.isZero_rounds_iff {ops : List Op} {p : Program} (h : Op.AddUp ops p.total)
    {m : Machine ω} (hsink : Writer.Unlimited m.sink) (k : Nat) :
    ((Machine.after ops)^[k] m).isZero = true ↔
      (256 : Int) ∣ m.tape.current.toNat + k * p.netChange := by
  rw [(h.rounds hsink k).isZero_iff, ← ofInt_eq_zero_iff, UInt8.ofInt_add, UInt8.ofInt_mul,
    ofInt_natCast, ofInt_natCast, UInt8.ofNat_toNat, p.ofInt_netChange]

/-- All rounds go well. -/
theorem Op.AddUp.goWell_rounds {ops : List Op} {total : UInt8} (h : Op.AddUp ops total)
    {m : Machine ω} (hsink : Writer.Unlimited m.sink) (k : Nat) :
    Op.GoWell ops ((Machine.after ops)^[k] m) :=
  (h.after (h.rounds hsink k).unlimited).1

namespace Engine

variable {body : Program} {m : Machine ω}

theorem endsAfter_of_dvd (engine : Engine) (hbody : body.onlyCounts = true)
    (hsink : Writer.Unlimited m.sink) {rounds : Nat}
    (hzero : (256 : Int) ∣ m.tape.current.toNat + rounds * body.netChange)
    (hbefore : ∀ j < rounds, ¬(256 : Int) ∣ m.tape.current.toNat + j * body.netChange) :
    ∃ last : Machine ω, last.tape = { m.tape with current := 0 } ∧
      engine.EndsAfter body rounds m last.done := by
  have hops := (body.lowersTo_lower engine.folds).addUp hbody
  have hends := (hops.isZero_rounds_iff hsink rounds).mpr hzero
  have hadds := hops.rounds hsink rounds
  refine ⟨_, ?_, endsAfter_of_isZero (Program.nesting_of_onlyCounts hbody) rfl ?_ hends⟩
  · rw [hadds.tape_eq, Tape.modify, hadds.isZero_iff.mp hends]
  · intro j hj
    rw [← Bool.not_eq_true, hops.isZero_rounds_iff hsink j]
    exact ⟨hbefore j hj, hops.goWell_rounds hsink j⟩

theorem not_ended_of_not_dvd (engine : Engine) (hbody : body.onlyCounts = true)
    (hsink : Writer.Unlimited m.sink)
    (hnever : ∀ k : Nat, ¬(256 : Int) ∣ m.tape.current.toNat + k * body.netChange)
    (fault : Option Fault) (last : Machine ω) :
    ¬engine.Runs (.loop body .nil) m (.ended fault) last := by
  have hops := (body.lowersTo_lower engine.folds).addUp hbody
  refine not_ended_of_isZero (Program.nesting_of_onlyCounts hbody) rfl ?_ fault last
  intro k
  rw [← Bool.not_eq_true, hops.isZero_rounds_iff hsink k]
  exact ⟨hnever k, hops.goWell_rounds hsink k⟩

/-- When counting loops stop. A loop on its own whose body only counts and writes ends on an engine
    exactly if the greatest common divisor of its net change and 256 divides the cell, as it does if
    the net change is odd. It ends well then, with the cell zero and the tape as it was otherwise,
    and its body has run as often as it takes until the cell is zero for the first time. -/
theorem counting_loop (engine : Engine) (hbody : body.onlyCounts = true)
    (hsink : Writer.Unlimited m.sink) :
    let p := Program.loop body .nil
    let d := body.netChange
    let v := m.tape.current.toNat
    ((∃ fault last, engine.Runs p m (.ended fault) last) ↔ Int.gcd d 256 ∣ v) ∧
      (∀ fault last, engine.Runs p m (.ended fault) last →
        fault = none ∧ last.tape = { m.tape with current := 0 } ∧
          ∃ rounds : Nat, (256 : Int) ∣ v + rounds * d ∧
            (∀ j < rounds, ¬(256 : Int) ∣ v + j * d) ∧
            ∀ k, engine.EndsAfter body k m last.done ↔ k = rounds) ∧
      (d % 2 = 1 → ∃ last, engine.Runs p m (.ended none) last) := by
  intro p d v
  have hends (h : Int.gcd d 256 ∣ v) :
      ∃ rounds : Nat, (256 : Int) ∣ v + rounds * d ∧ (∀ j < rounds, ¬(256 : Int) ∣ v + j * d) ∧
        ∃ last : Machine ω, last.tape = { m.tape with current := 0 } ∧
          engine.EndsAfter body rounds m last.done := by
    have hexists := (exists_dvd_add_mul_iff v d).mpr h
    have hzero := Nat.find_spec hexists
    have hbefore (j : Nat) (hj : j < Nat.find hexists) := Nat.find_min hexists hj
    exact ⟨_, hzero, hbefore, engine.endsAfter_of_dvd hbody hsink hzero hbefore⟩
  have hdvd {fault : Option Fault} {last : Machine ω}
      (hruns : engine.Runs p m (.ended fault) last) : Int.gcd d 256 ∣ v := by
    rw [← exists_dvd_add_mul_iff]
    by_contra hnever
    exact engine.not_ended_of_not_dvd hbody hsink (not_exists.mp hnever) fault last hruns
  refine ⟨⟨?_, ?_⟩, ?_, ?_⟩
  · rintro ⟨fault, last, hruns⟩
    exact hdvd hruns
  · intro h
    obtain ⟨_, _, _, last, _, hafter⟩ := hends h
    exact ⟨none, last, hafter.runs⟩
  · intro fault last hruns
    obtain ⟨rounds, hzero, hbefore, last', htape, hafter⟩ := hends (hdvd hruns)
    obtain ⟨rfl, rfl⟩ := ended_unique hruns hafter.runs
    refine ⟨rfl, htape, rounds, hzero, hbefore, ?_⟩
    intro k
    constructor
    · intro hafter'
      exact hafter'.rounds_eq hafter
    · rintro rfl
      exact hafter
  · intro hodd
    have hone : Int.gcd d 256 ∣ v := by
      rw [gcd_eq_one_of_odd hodd]
      exact Nat.one_dvd v
    obtain ⟨_, _, _, last, _, hafter⟩ := hends hone
    exact ⟨last, hafter.runs⟩

/-- From three, a loop that takes away one is left after three rounds, and one that takes away two
    goes past zero and never ends. -/
theorem counting_loop_from_three :
    let m : Machine Sink := { tape := { left := [7], current := 3, right := [9] }, sink := {} }
    let one : Program := .instr .decrement .nil
    let two : Program := .instr .decrement (.instr .output (.instr .decrement .nil))
    one.onlyCounts = true ∧ two.onlyCounts = true ∧ Writer.Unlimited m.sink ∧
      (∃ last : Machine Sink, (code true).EndsAfter one 3 m last.done ∧
        last.tape = { left := [7], current := 0, right := [9] }) ∧
      ∀ fault last, ¬walk.Runs (.loop two .nil) m (.ended fault) last := by
  intro m one two
  have hone : one.onlyCounts = true := rfl
  have htwo : two.onlyCounts = true := rfl
  have hsink : Writer.Unlimited m.sink := Sink.unlimited rfl
  obtain ⟨_, hends, hodd⟩ := counting_loop (code true) hone hsink
  obtain ⟨hiff, _⟩ := counting_loop walk htwo hsink
  refine ⟨hone, htwo, hsink, ?_, ?_⟩
  · obtain ⟨last, hruns⟩ := hodd (by decide)
    obtain ⟨_, htape, rounds, hzero, hbefore, hrounds⟩ := hends _ _ hruns
    have hthree : (256 : Int) ∣ m.tape.current.toNat + (3 : Nat) * one.netChange := by decide
    have hle : rounds ≤ 3 := Nat.le_of_not_lt fun hlt => hbefore 3 hlt hthree
    obtain rfl : rounds = 3 := by
      have hchange : one.netChange = 255 := by decide
      have hcell : m.tape.current.toNat = 3 := rfl
      rw [hchange, hcell] at hzero
      omega
    exact ⟨last, (hrounds 3).mpr rfl, htape⟩
  · intro fault last hruns
    exact absurd (hiff.mp ⟨fault, last, hruns⟩) (by decide)

end Engine

end OokLang
