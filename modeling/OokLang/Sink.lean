import OokLang.Writer

namespace OokLang

/-- How a full sink answers a write. -/
inductive Refusal where
  /-- With an error. -/
  | error
  /-- By taking none of the bytes. -/
  | empty
  deriving DecidableEq, Repr

/-- What a writer makes of the answer. -/
def Refusal.fault : Refusal → WriteFault
  | error => .brokenPipe
  | empty => .writeZero

/-- Where output goes: how many more bytes there is room for, how a full sink refuses one and
    whether it fails to flush, the bytes that have arrived, and how often it was flushed. -/
structure Sink where
  /-- Without a number there is room for any output. -/
  room : Option Nat := none
  refusal : Refusal := .error
  flushFails : Bool := false
  received : Array UInt8 := #[]
  flushes : Nat := 0
  deriving DecidableEq, Repr

namespace Sink

/-- Writes a byte. A full sink stays as it is. -/
def put (s : Sink) (byte : UInt8) : Option WriteFault × Sink :=
  match s.room with
  | none => (none, { s with received := s.received.push byte })
  | some 0 => (some s.refusal.fault, s)
  | some (room + 1) => (none, { s with room := some room, received := s.received.push byte })

/-- Flushes, which counts even if it fails. -/
def flush (s : Sink) : Option WriteFault × Sink :=
  (if s.flushFails then some .brokenPipe else none, { s with flushes := s.flushes + 1 })

instance : Writer Sink := ⟨put, flush⟩

/-- The same sink, as if nothing had arrived yet. -/
def emptied (s : Sink) : Sink :=
  { s with received := #[] }

@[simp] theorem writer_put (s : Sink) (byte : UInt8) : Writer.put s byte = s.put byte := rfl

@[simp] theorem writer_flush (s : Sink) : Writer.flush s = s.flush := rfl

/-- A byte either arrives behind the others, or is refused and leaves nothing. -/
theorem put_received (s : Sink) (byte : UInt8) :
    (s.put byte).2.received.toList =
      s.received.toList ++ if (s.put byte).1 = none then [byte] else [] := by
  unfold put
  split <;> simp

end Sink

end OokLang
