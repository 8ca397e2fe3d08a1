import OokLang.Code.Lowering
import OokLang.Proofs.Endless.Runs
import OokLang.Proofs.Output.Bytes

namespace OokLang

variable {ω σ σ' κ : Type}

/-- What holds where a run pauses and where it stops, and before a step if it holds after it, holds
    for all of the run as far as it has got. -/
@[elab_as_elim]
theorem RunsTo.induct {step : σ → Progress ω σ} {machine : σ → Machine ω}
    {motive : (s : σ) → (reply : Reply) → (m : Machine ω) → RunsTo step machine s reply m → Prop}
    (pause : ∀ s, motive s (.going 0) (machine s) ⟨s, .refl s, rfl⟩)
    (later : ∀ s s' reply m (hstep : step s = .going s') (hrest : RunsTo step machine s' reply m),
      motive s' reply m hrest → motive s reply.later m (hrest.later hstep))
    (stop : ∀ s o (hstep : step s = .stopped o),
      motive s (.ended o.fault) o.machine ⟨1, by rw [runFor, hstep]⟩)
    {s : σ} {reply : Reply} {m : Machine ω} (hruns : RunsTo step machine s reply m) :
    motive s reply m hruns := by
  cases reply with
  | ended fault =>
    obtain ⟨fuel, hrun⟩ := hruns
    induction fuel generalizing s with
    | zero => cases hrun
    | succ fuel ih =>
      cases hstep : step s with
      | going s' =>
        have hrest : runFor step fuel s' = some ⟨fault, m⟩ := by rwa [runFor, hstep] at hrun
        exact later s s' (.ended fault) m hstep ⟨fuel, hrest⟩ (ih hrest)
      | stopped o =>
        obtain rfl : o = ⟨fault, m⟩ := by
          rw [runFor, hstep] at hrun
          exact Option.some.inj hrun
        exact stop s _ hstep
  | going steps =>
    obtain ⟨s', hleads, rfl⟩ := hruns
    induction steps generalizing s with
    | zero =>
      cases hleads
      exact pause _
    | succ steps ih =>
      cases hleads with
      | cons hstep hrest => exact later s _ (.going steps) _ hstep ⟨s', hrest, rfl⟩ (ih hrest)

/-- The moment at which a sink refuses a byte of a run. Up to some step the sink has taken all that
    was written, but it does not take all that the step writes. -/
def RefusedAt [Writer ω] (runs : Reply → Machine Sink → Prop) (written : List UInt8) (s s' : ω)
    (cause : WriteFault) (tape : Tape) : Prop :=
  ∃ steps before after, runs (.going steps) before ∧ runs (.going (steps + 1)) after ∧
    before.tape = tape ∧ after.written <+: written ∧
    (Writer.putAll before.written s).1 = none ∧
    Writer.putAll after.written s = (some cause, s')

namespace TakesTurns

variable [Writer ω] {turn : Bool → κ → Turn κ} {step : σ → Progress Sink σ}
  {machine : σ → Machine Sink} {state : κ → Machine Sink → σ} {step' : σ' → Progress ω σ'}
  {machine' : σ' → Machine ω} {state' : κ → Machine ω → σ'}

/-- A step leads to the same place and the same tape wherever the output goes, unless a byte is
    refused. -/
theorem step_sinks (h : TakesTurns turn step machine state)
    (h' : TakesTurns turn step' machine' state') (k : κ) {m : Machine Sink}
    (hroom : m.sink.room = none) (s : ω) :
    (∃ fault tape, step (state k m) = .stopped ⟨fault, tape, m.sink⟩ ∧
      step' (state' k ⟨m.tape, s⟩) = .stopped ⟨fault, tape, s⟩) ∨
    ∃ next tape bytes, step (state k m) = .going (state next ⟨tape, m.sink.receive bytes⟩) ∧
      step' (state' k ⟨m.tape, s⟩) =
        match Writer.putAll bytes s with
        | (none, s') => .going (state' next ⟨tape, s'⟩)
        | (some cause, s') => .stopped ⟨some (.output cause), m.tape, s'⟩ := by
  have hzero : (⟨m.tape, s⟩ : Machine ω).isZero = m.isZero := rfl
  rw [h.step_eq, h'.step_eq, hzero]
  cases turn m.isZero k with
  | stop => exact .inl ⟨none, m.tape, rfl, rfl⟩
  | goOn next =>
    refine .inr ⟨next, m.tape, [], ?_, rfl⟩
    simp [Turn.take, Sink.receive]
  | carryOut op next =>
    obtain ⟨fault, tape, heffect, heffect'⟩ | ⟨tape, bytes, heffect, heffect'⟩ :=
      op.effect_sinks hroom s
    · refine .inl ⟨some fault, tape, ?_, ?_⟩
      · rw [Turn.take, heffect]
        rfl
      · rw [Turn.take, heffect']
        rfl
    · refine .inr ⟨next, tape, bytes, ?_, ?_⟩
      · rw [Turn.take, heffect]
        rfl
      · rw [Turn.take, heffect']
        cases Writer.putAll bytes s with
        | mk cause s' => cases cause <;> rfl

/-- What has arrived stays, and nothing else about a sink changes. -/
theorem exists_receive (h : TakesTurns turn step machine state) {k : κ} {m m' : Machine Sink}
    {reply : Reply} (hroom : m.sink.room = none)
    (hruns : RunsTo step machine (state k m) reply m') :
    ∃ bytes, m'.sink = m.sink.receive bytes := by
  generalize hs : state k m = s at hruns
  induction hruns using RunsTo.induct generalizing k m with
  | pause s =>
    rw [← hs, h.machine_eq]
    exact ⟨[], m.sink.receive_nil.symm⟩
  | later s s' reply m' hstep _ ih =>
    subst hs
    obtain ⟨fault, tape, hstopped, _⟩ | ⟨next, tape, bytes, hgoing, _⟩ :=
      h.step_sinks h k hroom m.sink
    · rw [hstopped] at hstep
      cases hstep
    · rw [hgoing] at hstep
      cases hstep
      obtain ⟨more, hmore⟩ := ih (m := ⟨tape, m.sink.receive bytes⟩) hroom rfl
      exact ⟨bytes ++ more, by rw [hmore, Sink.receive_append]⟩
  | stop s o hstep =>
    subst hs
    obtain ⟨fault, tape, hstopped, _⟩ | ⟨next, tape, bytes, hgoing, _⟩ :=
      h.step_sinks h k hroom m.sink
    · rw [hstopped] at hstep
      cases hstep
      exact ⟨[], m.sink.receive_nil.symm⟩
    · rw [hgoing] at hstep
      cases hstep

/-- The output of a run may go to any sink instead. As long as the sink takes it the run does the
    same, and where a byte is refused it ends. -/
theorem runs_into (h : TakesTurns turn step machine state)
    (h' : TakesTurns turn step' machine' state') {k : κ} {m m' : Machine Sink} {s s' : ω}
    {reply : Reply} (hroom : m.sink.room = none) (hput : Writer.putAll m.written s = (none, s'))
    (hruns : RunsTo step machine (state k m) reply m') :
    (∃ last, Writer.putAll m'.written s = (none, last) ∧
      RunsTo step' machine' (state' k ⟨m.tape, s'⟩) reply ⟨m'.tape, last⟩) ∨
    ∃ cause last tape,
      RefusedAt (RunsTo step machine (state k m)) m'.written s last cause tape ∧
      RunsTo step' machine' (state' k ⟨m.tape, s'⟩) (.ended (some (.output cause)))
        ⟨tape, last⟩ := by
  generalize hs : state k m = start at hruns
  induction hruns using RunsTo.induct generalizing k m s' with
  | pause start =>
    rw [← hs, h.machine_eq]
    exact .inl ⟨s', hput, _, .refl _, h'.machine_eq k _⟩
  | later start start' reply m' hstep hrest ih =>
    subst hs
    obtain ⟨fault, tape, hstopped, _⟩ | ⟨next, tape, bytes, hgoing, hstep'⟩ :=
      h.step_sinks h' k hroom s'
    · rw [hstopped] at hstep
      cases hstep
    · rw [hgoing] at hstep
      cases hstep
      have hwritten := m.written_receive tape bytes
      have hbytes : Writer.putAll (m.written ++ bytes) s = Writer.putAll bytes s' := by
        rw [Writer.putAll_append, hput]
      rw [← hwritten] at hbytes
      cases hanswer : Writer.putAll bytes s' with
      | mk answer s'' =>
        rw [hanswer] at hbytes hstep'
        cases answer with
        | none =>
          obtain ⟨last, hlast, hruns'⟩ | ⟨cause, last, tape, hrefused, hruns'⟩ :=
            ih (m := ⟨tape, m.sink.receive bytes⟩) hroom hbytes rfl
          · exact .inl ⟨last, hlast, hruns'.later hstep'⟩
          · refine .inr ⟨cause, last, tape, ?_, hruns'.later hstep'⟩
            obtain ⟨steps, before, after, hbefore, hafter, hrefused⟩ := hrefused
            exact ⟨steps + 1, before, after, hbefore.later hgoing, hafter.later hgoing, hrefused⟩
        | some cause =>
          -- This is the step that writes the refused byte, and the run has just come to it.
          refine .inr ⟨cause, s'', m.tape, ?_, 1, by rw [runFor, hstep']⟩
          refine ⟨0, m, _, ⟨_, .refl _, h.machine_eq k m⟩, ⟨_, .one hgoing, h.machine_eq _ _⟩, rfl,
            ?_, by rw [hput], hbytes⟩
          obtain ⟨more, hmore⟩ := h.exists_receive (m := ⟨tape, m.sink.receive bytes⟩) hroom hrest
          exact ⟨more, by simp [Machine.written, hmore, Sink.receive]⟩
  | stop start o hstep =>
    subst hs
    obtain ⟨fault, tape, hstopped, hstopped'⟩ | ⟨next, tape, bytes, hgoing, _⟩ :=
      h.step_sinks h' k hroom s'
    · rw [hstopped] at hstep
      cases hstep
      exact .inl ⟨s', hput, 1, by rw [runFor, hstopped']⟩
    · rw [hgoing] at hstep
      cases hstep

end TakesTurns

/-- The ways to run a program: as it is, or as code, in which operations may be folded. -/
inductive Engine where
  | walk
  | code (fold : Bool)
  deriving DecidableEq, Repr

namespace Engine

/-- How far a run of a program has got, and the machine then. -/
def Runs [Writer ω] : Engine → Program → Machine ω → Reply → Machine ω → Prop
  | walk, p, m => RunsTo Program.State.step Program.State.machine ⟨p, [], m⟩
  | code fold, p, m => RunsTo (Code.State.step (p.lower fold)) Code.State.machine ⟨0, m⟩

variable [Writer ω]

theorem exists_receive {engine : Engine} {p : Program} {m m' : Machine Sink} {reply : Reply}
    (hroom : m.sink.room = none) (hruns : engine.Runs p m reply m') :
    ∃ bytes, m'.sink = m.sink.receive bytes := by
  cases engine with
  | walk => exact Program.takesTurns.exists_receive (k := (p, [])) hroom hruns
  | code fold => exact (Code.takesTurns (p.lower fold)).exists_receive (k := 0) hroom hruns

/-- The output of a program may go to any sink instead of one that takes all. -/
theorem runs_into (engine : Engine) (p : Program) (tape : Tape) (s : ω) {reply : Reply}
    {m : Machine Sink} (hruns : engine.Runs p { tape, sink := {} } reply m) :
    (∃ last, Writer.putAll m.written s = (none, last) ∧
      engine.Runs p { tape, sink := s } reply { tape := m.tape, sink := last }) ∨
    ∃ cause last tape',
      RefusedAt (engine.Runs p { tape, sink := {} }) m.written s last cause tape' ∧
      engine.Runs p { tape, sink := s } (.ended (some (.output cause)))
        { tape := tape', sink := last } := by
  cases engine with
  | walk =>
    exact Program.takesTurns.runs_into Program.takesTurns (k := (p, []))
      (m := { tape, sink := {} }) rfl rfl hruns
  | code fold =>
    exact (Code.takesTurns (p.lower fold)).runs_into (Code.takesTurns (p.lower fold)) (k := 0)
      (m := { tape, sink := {} }) rfl rfl hruns

/-- A sink that fills up only cuts off the output. A run that does not write more than there is
    room for ends as it would with room for any output. A run that at some time has written more,
    whatever comes of it, ends at the first byte that there is no room for. Its tape is as it was
    before the step that writes this byte, and the bytes before it have been taken. The sinks of
    this library fill up in this way, and keep the bytes that they take. -/
theorem runs_of_fills (engine : Engine) (p : Program) (tape : Tape) :
    (∀ {ω : Type} [Writer ω] (s : ω) (room : Nat) (cause : WriteFault),
      Writer.Fills s room cause →
      (∀ fault m, engine.Runs p { tape, sink := ({} : Sink) } (.ended fault) m →
        m.written.length ≤ room →
        ∃ s', Writer.putAll m.written s = (none, s') ∧
          engine.Runs p { tape, sink := s } (.ended fault) { tape := m.tape, sink := s' }) ∧
      ∀ reply m, engine.Runs p { tape, sink := ({} : Sink) } reply m →
        ∀ hlt : room < m.written.length,
        ∃ steps before after,
          engine.Runs p { tape, sink := ({} : Sink) } (.going steps) before ∧
          engine.Runs p { tape, sink := ({} : Sink) } (.going (steps + 1)) after ∧
          before.written.length ≤ room ∧ room < after.written.length ∧
          ∃ full s', Writer.putAll (m.written.take room) s = (none, full) ∧
            Writer.put full m.written[room] = (some cause, s') ∧
            engine.Runs p { tape, sink := s } (.ended (some (.output cause)))
              { tape := before.tape, sink := s' }) ∧
    ∀ (s : Sink) (room : Nat), s.room = some room →
      Writer.Fills s room (if s.refusal = .empty then .writeZero else .brokenPipe) ∧
        ∀ bytes, (Writer.putAll bytes s).2.received.toList =
          s.received.toList ++ bytes.take room := by
  refine ⟨?_, ?_⟩
  · intro ω _ s room cause hfills
    refine ⟨?_, ?_⟩
    · intro fault m hruns hle
      rcases engine.runs_into p tape s hruns with
        ⟨s', hput, hruns'⟩ | ⟨cause', s', tape', hrefused, _⟩
      · exact ⟨s', hput, hruns'⟩
      · obtain ⟨_, _, after, _, _, _, hgrows, _, hput⟩ := hrefused
        obtain ⟨_, hlt, _⟩ := hfills.refused hput
        have hlength := hgrows.length_le
        omega
    · intro reply m hruns hlt
      rcases engine.runs_into p tape s hruns with
        ⟨s', hput, _⟩ | ⟨cause', s', tape', hrefused, hruns'⟩
      · have hle : m.written.length ≤ room := hfills.length_le (by rw [hput])
        omega
      · obtain ⟨steps, before, after, hbefore, hafter, rfl, ⟨more, hmore⟩, hnone, hput⟩ := hrefused
        obtain ⟨rfl, hroom, full, htake, hbyte⟩ := hfills.refused hput
        refine ⟨steps, before, after, hbefore, hafter, hfills.length_le hnone, hroom, full, s', ?_,
          ?_, hruns'⟩
        · rw [← hmore, List.take_append_of_le_length (Nat.le_of_lt hroom)]
          exact htake
        · rw [← hbyte]
          congr 1
          simp only [← hmore]
          exact List.getElem_append_left hroom
  · intro s room hroom
    have hfault : s.refusal.fault = if s.refusal = .empty then .writeZero else .brokenPipe := by
      cases s.refusal <;> rfl
    rw [← hfault]
    refine ⟨Sink.fills hroom, ?_⟩
    intro bytes
    rw [Sink.putAll_of_limited hroom]
    simp [Sink.receive]

/-- Two bytes, of which a sink takes one, in a run that never ends, and a run that writes one byte
    and then moves past the first cell. -/
theorem runs_of_fills_endless :
    let start : Machine Sink := { sink := {} }
    let s : Sink := { room := some 1, refusal := .empty }
    let tape : Tape := { left := [], current := 1, right := [] }
    let p : Program := .instr .increment (.instr .output (.instr .output (.loop .nil .nil)))
    let m : Machine Sink := { tape, sink := { received := #[1, 1] } }
    let p' : Program := .instr .increment (.instr .output (.instr .moveLeft .nil))
    let m' : Machine Sink := { tape, sink := { received := #[1] } }
    Writer.Fills s 1 .writeZero ∧
      (code true).Runs p start (.going 2) m ∧ (∃ _ : 1 < m.written.length,
        ∃ steps before after, (code true).Runs p start (.going steps) before ∧
          (code true).Runs p start (.going (steps + 1)) after ∧
          before.written.length ≤ 1 ∧ 1 < after.written.length ∧
          ∃ full s', Writer.putAll (m.written.take 1) s = (none, full) ∧
            Writer.put full m.written[1] = (some .writeZero, s') ∧
            (code true).Runs p { sink := s } (.ended (some (.output .writeZero)))
              { tape := before.tape, sink := s' }) ∧
      walk.Runs p' start (.ended (some (.pointerUnderflow 0 1))) m' ∧ m'.written.length ≤ 1 ∧
      ∃ s', Writer.putAll m'.written s = (none, s') ∧
        walk.Runs p' { sink := s } (.ended (some (.pointerUnderflow 0 1)))
          { tape, sink := s' } := by
  intro start s tape p m p' m'
  have hfills : Writer.Fills s 1 .writeZero := ((code true).runs_of_fills p tape).2 s 1 rfl |>.1
  have hruns : (code true).Runs p start (.going 2) m :=
    ⟨⟨2, m⟩, .cons rfl (.cons rfl (.refl _)), rfl⟩
  have hruns' : walk.Runs p' start (.ended (some (.pointerUnderflow 0 1))) m' := ⟨3, rfl⟩
  have hlt : 1 < m.written.length := by decide
  have hle : m'.written.length ≤ 1 := by decide
  refine ⟨hfills, hruns, ⟨hlt, ?_⟩, hruns', hle, ?_⟩
  · exact (((code true).runs_of_fills p .blank).1 s 1 .writeZero hfills).2 _ m hruns hlt
  · exact ((walk.runs_of_fills p' .blank).1 s 1 .writeZero hfills).1 _ m' hruns' hle

end Engine

end OokLang
