namespace OokLang

/-- The ways in which writing fails. -/
inductive WriteFault where
  /-- The other end refuses the bytes. -/
  | brokenPipe
  /-- A write came back without having written anything. -/
  | writeZero
  /-- Any other way, which goes by its name. -/
  | other (name : String)
  deriving DecidableEq, Repr

/-- Something that takes bytes one at a time. It may refuse a byte, and it may fail to flush. Either
    way it may change, and what it does next may depend on all that was done to it before. -/
class Writer (ω : Type) where
  /-- Writes a byte. -/
  put : ω → UInt8 → Option WriteFault × ω
  /-- Sees to it that the bytes so far have arrived. -/
  flush : ω → Option WriteFault × ω

namespace Writer

variable {ω : Type} [Writer ω]

/-- Writes a byte so many times, up to the first failure. -/
@[specialize]
def putMany : Nat → UInt8 → ω → Option WriteFault × ω
  | 0, _, s => (none, s)
  | n + 1, byte, s =>
    match put s byte with
    | (none, s') => putMany n byte s'
    | (some fault, s') => (some fault, s')

/-- Writing on starts where writing went well, and does not start where it failed. -/
theorem putMany_add (n k : Nat) (byte : UInt8) (s : ω) :
    putMany (n + k) byte s =
      match putMany n byte s with
      | (none, s') => putMany k byte s'
      | (some fault, s') => (some fault, s') := by
  induction n generalizing s with
  | zero => simp [putMany]
  | succ n ih =>
    rw [Nat.add_right_comm, putMany, putMany]
    cases put s byte with
    | mk fault s' =>
      cases fault with
      | none => exact ih s'
      | some fault => rfl

end Writer

end OokLang
