import OokLang.Code.Run
import OokLang.Sink

namespace OokLang

variable {ω : Type}

namespace Writer

variable [Writer ω]

/-- Writes bytes one after the other, up to the first failure. -/
def putAll : List UInt8 → ω → Option WriteFault × ω
  | [], s => (none, s)
  | byte :: bytes, s =>
    match put s byte with
    | (none, s') => putAll bytes s'
    | (some fault, s') => (some fault, s')

theorem putAll_append (first second : List UInt8) (s : ω) :
    putAll (first ++ second) s =
      match putAll first s with
      | (none, s') => putAll second s'
      | (some fault, s') => (some fault, s') := by
  induction first generalizing s with
  | nil => rfl
  | cons byte first ih =>
    rw [List.cons_append, putAll, putAll]
    cases put s byte with
    | mk fault s' =>
      cases fault with
      | none => exact ih s'
      | some fault => rfl

theorem putMany_eq_putAll (count : Nat) (byte : UInt8) (s : ω) :
    putMany count byte s = putAll (List.replicate count byte) s := by
  induction count generalizing s with
  | zero => rfl
  | succ count ih =>
    rw [putMany, List.replicate_succ, putAll]
    cases put s byte with
    | mk fault s' =>
      cases fault with
      | none => exact ih s'
      | some fault => rfl

/-- A sink takes any bytes as long as there are at most so many of them, and refuses the next one,
    whatever it is. -/
def Fills (s : ω) (room : Nat) (cause : WriteFault) : Prop :=
  ∀ bytes, (putAll bytes s).1 = if bytes.length ≤ room then none else some cause

namespace Fills

variable {s s' : ω} {room : Nat} {cause : WriteFault} {bytes : List UInt8}

theorem length_le (hfills : Fills s room cause) (hput : (putAll bytes s).1 = none) :
    bytes.length ≤ room := by
  rw [hfills bytes] at hput
  split at hput
  · assumption
  · cases hput

/-- The byte that is refused is the first one that there is no room for. -/
theorem refused (hfills : Fills s room cause) {fault : WriteFault}
    (hput : putAll bytes s = (some fault, s')) :
    fault = cause ∧ ∃ (hlt : room < bytes.length) (full : ω),
      putAll (bytes.take room) s = (none, full) ∧ put full bytes[room] = (some cause, s') := by
  have hbytes := hfills bytes
  rw [hput] at hbytes
  split at hbytes
  · cases hbytes
  · rename_i hle
    have hlt : room < bytes.length := Nat.lt_of_not_le hle
    obtain rfl : fault = cause := Option.some.inj hbytes
    refine ⟨rfl, hlt, (putAll (bytes.take room) s).2, ?_⟩
    have htaken : (putAll (bytes.take room) s).1 = none := by
      rw [hfills, if_pos (List.length_take_le room bytes)]
    have hrefused : (putAll (bytes.take (room + 1)) s).1 = some fault := by
      rw [hfills, List.length_take, Nat.min_eq_left hlt, if_neg (Nat.not_succ_le_self room)]
    rw [← List.take_append_drop (room + 1) bytes, putAll_append] at hput
    cases htake : putAll (bytes.take room) s with
    | mk answer full =>
      rw [htake] at htaken
      obtain rfl : answer = none := htaken
      rw [List.take_succ_eq_append_getElem hlt, putAll_append, htake] at hput hrefused
      simp only [putAll] at hput hrefused
      cases hbyte : put full bytes[room] with
      | mk answer last =>
        rw [hbyte] at hput hrefused
        cases answer with
        | none => cases hrefused
        | some answer => exact ⟨rfl, hput⟩

end Fills

end Writer

namespace Sink

/-- The sink once some more bytes have arrived. -/
def receive (s : Sink) (bytes : List UInt8) : Sink :=
  { s with received := s.received ++ bytes.toArray }

@[simp] theorem receive_nil (s : Sink) : s.receive [] = s := by
  simp [receive]

theorem receive_append (s : Sink) (first second : List UInt8) :
    s.receive (first ++ second) = (s.receive first).receive second := by
  simp [receive]

theorem receive_cons (s : Sink) (byte : UInt8) (bytes : List UInt8) :
    s.receive (byte :: bytes) = { s with received := s.received.push byte }.receive bytes := by
  simp [receive]

/-- With room for any output all bytes arrive. -/
theorem putAll_of_unlimited {s : Sink} (hroom : s.room = none) (bytes : List UInt8) :
    Writer.putAll bytes s = (none, s.receive bytes) := by
  induction bytes generalizing s with
  | nil => simp [Writer.putAll, receive]
  | cons byte bytes ih =>
    have hput : s.put byte = (none, { s with received := s.received.push byte }) := by
      simp [put, hroom]
    rw [Writer.putAll, writer_put, hput, receive_cons]
    exact ih hroom

/-- With room for so many bytes only those arrive. -/
theorem putAll_of_limited {s : Sink} {room : Nat} (hroom : s.room = some room)
    (bytes : List UInt8) :
    Writer.putAll bytes s =
      (if bytes.length ≤ room then none else some s.refusal.fault,
        { s with room := some (room - bytes.length) }.receive (bytes.take room)) := by
  induction bytes generalizing s room with
  | nil => simp [Writer.putAll, receive, ← hroom]
  | cons byte bytes ih =>
    cases room with
    | zero =>
      have hput : s.put byte = (some s.refusal.fault, s) := by simp [put, hroom]
      rw [Writer.putAll, writer_put, hput]
      simp [receive, ← hroom]
    | succ room =>
      have hput : s.put byte =
          (none, { s with room := some room, received := s.received.push byte }) := by
        simp [put, hroom]
      have hrest := ih (s := { s with room := some room, received := s.received.push byte }) rfl
      rw [Writer.putAll, writer_put, hput, List.take_succ_cons, receive_cons]
      simpa using hrest

/-- A sink that has room for so many bytes fills up after them. -/
theorem fills {s : Sink} {room : Nat} (hroom : s.room = some room) :
    Writer.Fills s room s.refusal.fault := by
  intro bytes
  rw [putAll_of_limited hroom]

end Sink

/-- All that has arrived. -/
def Machine.written (m : Machine Sink) : List UInt8 :=
  m.sink.received.toList

theorem Machine.written_receive (m : Machine Sink) (tape : Tape) (bytes : List UInt8) :
    written { tape, sink := m.sink.receive bytes } = m.written ++ bytes := by
  simp [written, Sink.receive]

/-- Wherever its output goes, an operation does the same to the tape and fails in the same way,
    unless the sink refuses a byte that it writes. Then the tape stays as it is. -/
theorem Op.effect_sinks [Writer ω] (op : Op) {m : Machine Sink} (hroom : m.sink.room = none)
    (s : ω) :
    (∃ fault tape, op.effect m = ⟨some fault, tape, m.sink⟩ ∧
      op.effect ⟨m.tape, s⟩ = ⟨some fault, tape, s⟩) ∨
    ∃ tape bytes, op.effect m = ⟨none, tape, m.sink.receive bytes⟩ ∧
      op.effect ⟨m.tape, s⟩ =
        match Writer.putAll bytes s with
        | (none, s') => ⟨none, tape, s'⟩
        | (some cause, s') => ⟨some (.output cause), m.tape, s'⟩ := by
  cases op with
  | shift distance =>
    cases hshift : m.tape.shift? distance with
    | none =>
      refine .inl ⟨.pointerUnderflow m.tape.pointer distance.natAbs, m.tape, ?_, ?_⟩
      · simp [effect, Machine.shift, hshift, Machine.failed]
      · simp [effect, Machine.shift, hshift, Machine.failed]
    | some tape =>
      refine .inr ⟨tape, [], ?_, ?_⟩
      · simp [effect, Machine.shift, hshift, Machine.done]
      · simp [effect, Machine.shift, hshift, Machine.done, Writer.putAll]
  | add amount =>
    refine .inr ⟨m.tape.modify (· + amount), [], ?_, rfl⟩
    rw [Sink.receive_nil]
    rfl
  | sub amount =>
    refine .inr ⟨m.tape.modify (· - amount), [], ?_, rfl⟩
    rw [Sink.receive_nil]
    rfl
  | write count =>
    refine .inr ⟨m.tape, List.replicate count m.tape.current, ?_, ?_⟩
    · rw [effect, Machine.write, Writer.putMany_eq_putAll, Sink.putAll_of_unlimited hroom]
      rfl
    · rw [effect, Machine.write, Writer.putMany_eq_putAll]
      cases Writer.putAll (List.replicate count m.tape.current) s with
      | mk cause s' => cases cause <;> rfl
  | read => exact .inl ⟨.unsupportedInput, m.tape, rfl, rfl⟩
  | undefined i => exact .inl ⟨.undefinedInstruction i, m.tape, rfl, rfl⟩
  | skipIfZero distance =>
    refine .inr ⟨m.tape, [], ?_, rfl⟩
    rw [Sink.receive_nil]
    rfl
  | backUnlessZero distance =>
    refine .inr ⟨m.tape, [], ?_, rfl⟩
    rw [Sink.receive_nil]
    rfl

end OokLang
