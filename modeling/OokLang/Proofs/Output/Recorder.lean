import OokLang.Proofs.Change

namespace OokLang

variable {ω : Type}

/-- What a writer is asked, with the fault that it answers or none. -/
inductive Request where
  | put (byte : UInt8) (fault : Option WriteFault)
  | flush (fault : Option WriteFault)
  deriving DecidableEq, Repr

/-- The byte that arrives by a request, if one does. -/
def Request.arrived? : Request → Option UInt8
  | put byte none => some byte
  | put _ (some _) | flush _ => none

/-- Whether a request is a flush, be it one that fails. -/
def Request.isFlush : Request → Bool
  | put _ _ => false
  | flush _ => true

/-- The requests by which bytes are taken. -/
def Request.taking (bytes : List UInt8) : List Request :=
  bytes.map (put · none)

/-- A writer, with all that it was asked since the record began. -/
structure Recorder (ω : Type) where
  writer : ω
  requests : List Request := []
  deriving DecidableEq, Repr

namespace Recorder

section Requests

variable [Writer ω]

/-- Hands a byte on to the writer. -/
def put (r : Recorder ω) (byte : UInt8) : Option WriteFault × Recorder ω :=
  let (fault, writer) := Writer.put r.writer byte
  (fault, { writer, requests := r.requests ++ [.put byte fault] })

/-- Flushes the writer. -/
def flush (r : Recorder ω) : Option WriteFault × Recorder ω :=
  let (fault, writer) := Writer.flush r.writer
  (fault, { writer, requests := r.requests ++ [.flush fault] })

instance : Writer (Recorder ω) := ⟨put, flush⟩

variable {r r' : Recorder ω} {byte : UInt8} {bytes : List UInt8}

theorem requests_put {fault : Option WriteFault} (hput : Writer.put r byte = (fault, r')) :
    r'.requests = r.requests ++ [.put byte fault] := by
  cases hput
  rfl

/-- Bytes that are all taken are asked for one after the other. -/
theorem requests_of_taken (hput : Writer.putAll bytes r = (none, r')) :
    r'.requests = r.requests ++ Request.taking bytes := by
  induction bytes generalizing r with
  | nil =>
    cases hput
    exact (List.append_nil _).symm
  | cons byte bytes ih =>
    rw [Writer.putAll] at hput
    cases hbyte : Writer.put r byte with
    | mk fault next =>
      rw [hbyte] at hput
      cases fault with
      | none =>
        rw [ih hput, requests_put hbyte, List.append_assoc]
        rfl
      | some fault => cases hput

/-- Where a byte is refused, it is the last one that is asked for. -/
theorem requests_of_refused {cause : WriteFault}
    (hput : Writer.putAll bytes r = (some cause, r')) :
    ∃ taken byte, taken ++ [byte] <+: bytes ∧
      r'.requests = r.requests ++ (Request.taking taken ++ [.put byte (some cause)]) := by
  induction bytes generalizing r with
  | nil => cases hput
  | cons byte bytes ih =>
    rw [Writer.putAll] at hput
    cases hbyte : Writer.put r byte with
    | mk fault next =>
      rw [hbyte] at hput
      cases fault with
      | none =>
        obtain ⟨taken, last, hbytes, hrequests⟩ := ih hput
        refine ⟨byte :: taken, last, List.cons_prefix_cons.mpr ⟨rfl, hbytes⟩, ?_⟩
        rw [hrequests, requests_put hbyte, List.append_assoc]
        rfl
      | some fault =>
        cases hput
        exact ⟨[], byte, List.cons_prefix_cons.mpr ⟨rfl, List.nil_prefix⟩, requests_put hbyte⟩

/-- The writer does the same without a record. -/
theorem putMany_writer (count : Nat) (byte : UInt8) (r : Recorder ω) :
    Writer.putMany count byte r.writer =
      ((Writer.putMany count byte r).1, (Writer.putMany count byte r).2.writer) := by
  induction count generalizing r with
  | zero => rfl
  | succ count ih =>
    have hput : Writer.put r.writer byte = ((Writer.put r byte).1, (Writer.put r byte).2.writer) :=
      rfl
    rw [Writer.putMany, Writer.putMany, hput]
    cases Writer.put r byte with
    | mk fault r' =>
      cases fault with
      | none => exact ih r'
      | some fault => rfl

end Requests

/-- A record tells what has become of a sink: the bytes that have arrived since, and how often it
    was flushed. -/
structure Tells (r : Recorder Sink) (s : Sink) : Prop where
  received_eq :
    r.writer.received.toList = s.received.toList ++ r.requests.filterMap Request.arrived?
  flushes_eq : r.writer.flushes = s.flushes + r.requests.countP Request.isFlush

theorem Tells.start (s : Sink) : Tells { writer := s } s :=
  ⟨(List.append_nil _).symm, rfl⟩

theorem Tells.put {r : Recorder Sink} {s : Sink} (h : r.Tells s) (byte : UInt8) :
    (r.put byte).2.Tells s := by
  have hreceived := r.writer.put_received byte
  have hflushes : (r.writer.put byte).2.flushes = r.writer.flushes := by
    unfold Sink.put
    split <;> rfl
  have hrequests : (r.put byte).2.requests = r.requests ++ [.put byte (r.writer.put byte).1] :=
    requests_put rfl
  constructor
  · change (r.writer.put byte).2.received.toList = _
    rw [hreceived, h.received_eq, hrequests, List.filterMap_append, List.append_assoc]
    cases (r.writer.put byte).1 <;> rfl
  · change (r.writer.put byte).2.flushes = _
    rw [hflushes, h.flushes_eq, hrequests, List.countP_append]
    rfl

theorem Tells.putAll {r : Recorder Sink} {s : Sink} (h : r.Tells s) (bytes : List UInt8) :
    (Writer.putAll bytes r).2.Tells s := by
  induction bytes generalizing r with
  | nil => exact h
  | cons byte bytes ih =>
    have hput : (Writer.put r byte).2.Tells s := h.put byte
    rw [Writer.putAll]
    cases hbyte : Writer.put r byte with
    | mk fault next =>
      rw [hbyte] at hput
      cases fault with
      | none => exact ih hput
      | some fault => exact hput

theorem Tells.flush {r : Recorder Sink} {s : Sink} (h : r.Tells s) : r.flush.2.Tells s := by
  constructor
  · change r.writer.received.toList = s.received.toList ++ (r.requests ++ [_]).filterMap _
    rw [h.received_eq, List.filterMap_append]
    simp [Request.arrived?]
  · change r.writer.flushes + 1 = s.flushes + (r.requests ++ [_]).countP _
    rw [h.flushes_eq, List.countP_append, Nat.add_assoc]
    rfl

end Recorder

namespace Machine

/-- The same machine without a record of what its sink is asked. -/
def unrecorded (m : Machine (Recorder ω)) : Machine ω :=
  { tape := m.tape, sink := m.sink.writer }

theorem harmless_unrecorded [Writer ω] :
    Harmless (unrecorded (ω := ω)) fun _ => False where
  isZero_eq _ := rfl
  effect_eq := by
    intro op m
    refine .inr ?_
    cases op with
    | shift distance =>
      have htape : m.unrecorded.tape = m.tape := rfl
      rw [Op.effect, Op.effect, shift, shift, htape]
      cases m.tape.shift? distance <;> rfl
    | write count =>
      have hput : Writer.putMany count m.unrecorded.tape.current m.unrecorded.sink = _ :=
        Recorder.putMany_writer count m.tape.current m.sink
      rw [Op.effect, Op.effect, write, write, hput]
      rfl
    | add | sub | read | undefined | skipIfZero | backUnlessZero => rfl

end Machine

end OokLang
