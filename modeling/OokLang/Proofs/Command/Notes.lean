import OokLang.Proofs.Command.Result
import OokLang.Proofs.Command.TreeText
import OokLang.Proofs.Faults
import OokLang.Proofs.Loops.Rounds
import OokLang.Proofs.Reading.FirstError

namespace OokLang

namespace Source

end Source

/-- Code that ends does so with the same fault or none if its output goes to another sink that takes
    all. -/
theorem Code.run_of_unlimited {code : Code} {fuel : Nat} {tape : Tape} {o : Outcome Sink}
    {s : Sink} (s' : Sink) (hroom : s.room = none) (hempty : s.received = #[])
    (hroom' : s'.room = none) (hrun : code.run fuel { tape, sink := s } = some o) :
    ∃ fuel' m, code.run fuel' { tape, sink := s' } = some ⟨o.fault, m⟩ := by
  have hruns : RunsTo (State.step code) State.machine ⟨0, { tape, sink := s }⟩ (.ended o.fault)
      o.machine := ⟨fuel, hrun⟩
  have hput : Writer.putAll (Machine.written { tape, sink := s }) s' = (none, s') := by
    rw [Machine.written, hempty]
    rfl
  obtain ⟨last, _, fuel', hrun'⟩ | ⟨_, _, _, ⟨_, _, _, _, _, _, _, _, hrefused⟩, _⟩ :=
    (takesTurns code).runs_into (takesTurns code) (k := 0) hroom hput hruns
  · exact ⟨fuel', _, hrun'⟩
  · rw [Sink.putAll_of_unlimited hroom'] at hrefused
    cases hrefused

namespace Engine

/-- How a run on a blank tape ends, if it is asked for: with the given fault or none. A run that is
    not asked for has no fault. -/
def EndsIf (engine : Engine) (p : Program) (asked : Prop) [Decidable asked]
    (fault : Option Fault) : Prop :=
  if asked then ∃ m, engine.Runs p Command.Session.fresh (.ended fault) m else fault = none

variable {engine : Engine} {p : Program} {asked : Prop} [Decidable asked]
  {fault fault' : Option Fault}

@[simp] theorem endsIf_true :
    engine.EndsIf p True fault ↔ ∃ m, engine.Runs p Command.Session.fresh (.ended fault) m :=
  Iff.rfl

@[simp] theorem endsIf_false : engine.EndsIf p False fault ↔ fault = none := Iff.rfl

theorem EndsIf.unique (h : engine.EndsIf p asked fault) (h' : engine.EndsIf p asked fault') :
    fault = fault' := by
  rw [EndsIf] at h h'
  split at h
  · rename_i hasked
    rw [if_pos hasked] at h'
    exact (ended_unique h.choose_spec h'.choose_spec).1
  · rename_i hasked
    rw [if_neg hasked] at h'
    exact h.trans h'.symm

end Engine

namespace Command

/-- The exit code of a session and its texts on standard error. -/
def Transcript.told (t : Transcript) (filter : Filter) (time : String) :
    Option (UInt32 × List String) :=
  (t.report filter time).map fun r => (r.exit, r.notes)

section Told

variable {filter : Filter} {time : String}

@[simp] theorem Transcript.told_ended (exit : UInt32) :
    (ended exit).told filter time = some (exit, []) := rfl

@[simp] theorem Transcript.told_unended : unended.told filter time = none := rfl

@[simp] theorem Transcript.told_output (bytes : Array UInt8) (rest : Transcript) :
    (output bytes rest).told filter time = rest.told filter time := by
  simp [told, report, Function.comp_def]

end Told

namespace Options

/-- The tokens of a text, if they are asked for and the text is made of tokens. -/
def tokensShown (o : Options) (text : String) : List String :=
  match Source.markers text with
  | .ok markers => if o.wants .tokens then [Marker.tokens markers] else []
  | .error _ => []

/-- The program of a text, if it is asked for and there is one. -/
def treeShown (o : Options) (text : String) : List String :=
  match readProgram text with
  | .ok p => if o.wants .tree then [p.indented] else []
  | .error _ => []

/-- The code of the program of a text, if it is asked for, there is a program, and the walk had no
    fault. -/
def codeShown (o : Options) (text : String) (walked : Option Fault) : List String :=
  match readProgram text with
  | .ok p => if o.wants .code ∧ walked = none then [(p.lower o.folds).text] else []
  | .error _ => []

/-- How the runs for a text end. After a walk with a fault the code is not run. -/
def Ends (o : Options) (text : String) (walked executed : Option Fault) : Prop :=
  match readProgram text with
  | .ok p =>
    Engine.walk.EndsIf p o.runsTree walked ∧
      (Engine.code o.folds).EndsIf p (o.wants .runCode ∧ walked = none) executed
  | .error _ => walked = none ∧ executed = none

section Ends

variable {o o' : Options} {text : String} {walked walked' executed executed' : Option Fault}

/-- The runs of a text end in one way only. -/
theorem Ends.unique (h : o.Ends text walked executed) (h' : o.Ends text walked' executed') :
    walked = walked' ∧ executed = executed' := by
  cases hread : readProgram text with
  | error e =>
    simp only [Ends, hread] at h h'
    exact ⟨h.1.trans h'.1.symm, h.2.trans h'.2.symm⟩
  | ok p =>
    simp only [Ends, hread] at h h'
    obtain rfl := h.1.unique h'.1
    exact ⟨rfl, h.2.unique h'.2⟩

end Ends

end Options

/-- The error of the first stage that fails. -/
def firstError (text : String) (walked executed : Option Fault) : Option Error :=
  match readProgram text with
  | .ok _ => (walked <|> executed).map .run
  | .error e => some e

namespace Session

variable (s : Session) {filter : Filter} {time : String}

/-- The exit code of a session that fails so or not at all, and the line that tells of the error. -/
def verdict (e : Option Error) : UInt32 × List String :=
  (if e = none then 0 else 1, e.toList.map fun e => s.errorLine e.message)

@[simp] theorem told_fail (e : Error) :
    (s.fail e.message).told filter time = some (s.verdict (some e)) := rfl

section Ended

variable {s} {text : String} {p : Program} {sink : Sink} {walked executed : Option Fault}

end Ended

/-- The texts of a session on standard error if its runs end so. -/
def notes (text : String) (walked executed : Option Fault) : List String :=
  s.options.tokensShown text ++ s.options.treeShown text ++ s.options.codeShown text walked ++
    (firstError text walked executed).toList.map fun e => s.errorLine e.message

section Reported

variable {s} {s' : Session} {bytes : ByteArray} {text : String} {walked executed : Option Fault}

end Reported

/-- What a session for a text comes to on standard error and by its exit code, given enough steps,
    if nothing asks for more than warnings. -/
def Tells (s : Session) (text : String) (notes : List String) (exit : UInt32) : Prop :=
  ∃ fuel r, (transcript { s with fuel } (.ok text.toUTF8)).report (.choose none false) "" = some r ∧
    r.notes = notes ∧ r.exit = exit

end Session

end Command

end OokLang
