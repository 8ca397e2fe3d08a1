import OokLang.Command.Session
import OokLang.Proofs.Lowering.Correctness
import OokLang.Proofs.Output.Engines
import OokLang.Proofs.Reading.Spelling

namespace OokLang

/-- The exit code of a session whose last run ends so. -/
def Outcome.exitCode {ω : Type} (o : Outcome ω) : UInt32 :=
  if o.fault = none then 0 else 1

/-- What a session comes to whose program ends so: its exit code and all that it writes. A session
    that does both runs writes the same twice, unless there is a fault in the first. -/
def Outcome.result (o : Outcome Sink) (both : Bool) : UInt32 × List UInt8 :=
  match o.fault with
  | none => (0, if both then o.machine.written ++ o.machine.written else o.machine.written)
  | some _ => (1, o.machine.written)

section Runs

theorem Outcome.Agrees.sink_eq {ω : Type} {fold : Bool} {o o' : Outcome ω}
    (h : o.Agrees fold o') : o'.machine.sink = o.machine.sink := by
  cases fold with
  | false =>
    cases h
    rfl
  | true =>
    cases h with
    | same => rfl
    | underflow hsink => exact hsink

theorem Outcome.Agrees.exitCode_eq {ω : Type} {fold : Bool} {o o' : Outcome ω}
    (h : o.Agrees fold o') : o'.exitCode = o.exitCode := by
  obtain ⟨m, rfl, rfl⟩ | ⟨hfault, hfault'⟩ := h.cases
  · rfl
  · rw [exitCode, exitCode, if_neg hfault, if_neg hfault']

/-- A program that ends also ends where its output goes to another sink that takes all. -/
theorem Program.run_of_unlimited {p : Program} {fuel : Nat} {tape : Tape} {o : Outcome Sink}
    {s : Sink} (hroom : s.room = none) (hrun : p.run fuel { tape, sink := {} } = some o) :
    ∃ fuel', p.run fuel' { tape, sink := s } =
      some ⟨o.fault, { tape := o.machine.tape, sink := s.receive o.machine.written }⟩ := by
  have hruns : Engine.walk.Runs p { tape, sink := {} } (.ended o.fault) o.machine := ⟨fuel, hrun⟩
  obtain ⟨last, hput, hruns'⟩ | ⟨_, _, _, ⟨_, _, after, _, _, _, _, _, hput⟩, _⟩ :=
    Engine.walk.runs_into p tape s hruns
  · rw [Sink.putAll_of_unlimited hroom] at hput
    cases hput
    exact hruns'
  · rw [Sink.putAll_of_unlimited hroom] at hput
    cases hput

/-- Wherever its output goes, as long as all of it is taken, the code of a program ends if the
    program does. It writes the same, and has a fault if the program has one. -/
theorem Program.lower_run_agrees {p : Program} {fuel : Nat} {tape : Tape} {o : Outcome Sink}
    {s : Sink} (fold : Bool) (hroom : s.room = none) (hempty : s.received = #[])
    (hrun : p.run fuel { tape, sink := {} } = some o) :
    (∃ fuel' o', (p.lower fold).run fuel' { tape, sink := s } = some o') ∧
      ∀ fuel' o', (p.lower fold).run fuel' { tape, sink := s } = some o' →
        o'.exitCode = o.exitCode ∧ o'.machine.written = o.machine.written := by
  have htogether := Code.Tracks.together (ω := Sink) fold (p.lower fold)
  have hstart := Code.Tracks.start fold p { tape, sink := s }
  obtain ⟨fuel', hrun'⟩ := run_of_unlimited hroom hrun
  refine ⟨?_, ?_⟩
  · obtain ⟨fuel'', o', hcode, _⟩ := htogether.ends hstart hrun'
    exact ⟨fuel'', o', hcode⟩
  · intro fuel'' o' hcode
    have hagrees := htogether.outcomes hstart hrun' hcode
    refine ⟨hagrees.exitCode_eq, ?_⟩
    rw [Machine.written, hagrees.sink_eq]
    simp [Sink.receive, hempty]

/-- No run changes whether its sink can be flushed. -/
theorem Code.flushFails_of_run {code : Code} {fuel : Nat} {m : Machine Sink} {o : Outcome Sink}
    (hroom : m.sink.room = none) (hrun : code.run fuel m = some o) :
    o.machine.sink.flushFails = m.sink.flushFails := by
  have hruns : RunsTo (State.step code) State.machine ⟨0, m⟩ (.ended o.fault) o.machine :=
    ⟨fuel, hrun⟩
  obtain ⟨bytes, hsink⟩ := (Code.takesTurns code).exists_receive (k := 0) hroom hruns
  rw [hsink]
  rfl

/-- A flush that goes well leaves the fault of the work as it is. -/
theorem Outcome.finish_fault {o : Outcome Sink} (hflush : o.machine.sink.flushFails = false) :
    o.finish.fault = o.fault := by
  have hflushed : o.machine.flush.fault = none := by
    have hsink : o.machine.sink.flush.1 = none := by simp [Sink.flush, hflush]
    simp [Machine.flush, hsink]
  rw [finish, hflushed]
  cases o.fault <;> rfl

end Runs

namespace Command

/-- The bytes of a text are a file with this text. -/
theorem fromUTF8?_toUTF8 (text : String) : String.fromUTF8? text.toUTF8 = some text :=
  dif_pos text.isValidUTF8

/-- The exit code of a session and all that it writes on standard output. -/
def Transcript.result : Transcript → Option (UInt32 × List UInt8)
  | ended exit => some (exit, [])
  | unended => none
  | log _ rest => rest.result
  | note _ rest => rest.result
  | output bytes rest => rest.result.map fun (exit, written) => (exit, bytes.toList ++ written)
  | stage rest => (rest ()).result

/-- Neither of them depends on which lines of the log are shown, or on the time. -/
theorem Transcript.report_result (t : Transcript) (filter : Filter) (time : String) :
    (t.report filter time).map (fun r => (r.exit, r.output)) = t.result := by
  induction t with
  | ended exit => rfl
  | unended => rfl
  | log line rest ih =>
    rw [result, ← ih, report, Option.map_map]
    congr 1
    funext r
    simp only [Function.comp_apply]
    split <;> rfl
  | note text rest ih =>
    rw [result, ← ih, report, Option.map_map]
    rfl
  | output bytes rest ih =>
    rw [result, ← ih, report, Option.map_map, Option.map_map]
    rfl
  | stage rest ih => exact ih ()

/-- Whether a session does both runs. -/
def Options.runsBoth (o : Options) : Bool :=
  o.wants .runTree && o.wants .runCode

namespace Session

variable (s : Session)

@[simp] theorem result_detail (origin message : String) (rest : Transcript) :
    (detail origin message rest).result = rest.result := rfl

@[simp] theorem result_finished (stage : String) (rest : Transcript) :
    (finished stage rest).result = rest.result := rfl

@[simp] theorem result_fail (message : String) : (s.fail message).result = some (1, []) := rfl

@[simp] theorem result_showFor (task : Task) (text : String) (rest : Transcript) :
    (s.showFor task text rest).result = rest.result := by
  unfold showFor
  split <;> rfl

/-- What comes of a run is written out, and a fault ends the session. -/
theorem result_settle (name origin : String) (next : Machine Sink → Transcript)
    {o : Outcome Sink} (hflush : o.machine.sink.flushFails = false) :
    (s.settle name origin (some o) next).result =
      if o.fault = none then
        (next o.finish.machine).result.map fun (exit, written) =>
          (exit, o.machine.written ++ written)
      else some (1, o.machine.written) := by
  have hfinished := Outcome.finish_fault hflush
  have hwritten : o.finish.machine.sink.received.toList = o.machine.written := rfl
  cases hfault : o.fault with
  | none => simp [settle, hfinished, hfault, Transcript.result, hwritten]
  | some fault => simp [settle, hfinished, hfault, Transcript.result, hwritten]

/-- What the code of a program comes to in a session, if the session gets as far. -/
def codeResult (p : Program) (sink : Sink) : Option (UInt32 × List UInt8) :=
  if s.options.wants .runCode then
    ((p.lower s.options.folds).run s.fuel { sink }).map fun o => (o.exitCode, o.machine.written)
  else some (0, [])

theorem result_afterWalk (p : Program) {m : Machine Sink} (hroom : m.sink.room = none)
    (hflush : m.sink.flushFails = false) :
    (s.afterWalk p m).result = s.codeResult p m.sink.emptied := by
  unfold codeResult
  by_cases hcode : s.options.wants .runCode = true
  · rw [if_pos hcode, afterWalk, if_pos (by simp [Options.needsCode, hcode]), lowering,
      Transcript.result]
    simp only [result_detail, result_finished, result_showFor, if_pos hcode]
    rw [executing, Transcript.result]
    change (s.settle _ _ (Code.run s.fuel _ { sink := m.sink.emptied }) _).result = _
    cases hrun : (p.lower s.options.folds).run s.fuel { sink := m.sink.emptied } with
    | none => rfl
    | some o =>
      have hends := Code.flushFails_of_run (m := { sink := m.sink.emptied }) hroom hrun
      rw [result_settle _ _ _ _ (hends.trans hflush)]
      by_cases hfault : o.fault = none
      · simp [hfault, Outcome.exitCode, Transcript.result]
      · simp [hfault, Outcome.exitCode]
  · rw [if_neg hcode, afterWalk]
    split
    · rw [lowering, Transcript.result]
      simp [hcode, Transcript.result]
    · rfl

/-- The walk leaves a sink that takes all and can be flushed, and that was flushed once. -/
theorem sink_of_walk {p : Program} {fuel : Nat} {o : Outcome Sink}
    (hrun : p.run fuel fresh = some o) :
    o.machine.sink.flushFails = false ∧
      ∃ bytes, o.finish.machine.sink = { fresh.sink.receive bytes with flushes := 1 } := by
  have hruns : Engine.walk.Runs p fresh (.ended o.fault) o.machine := ⟨fuel, hrun⟩
  obtain ⟨bytes, hsink⟩ := Engine.exists_receive (m := fresh) rfl hruns
  refine ⟨by rw [hsink]; rfl, bytes, ?_⟩
  change (o.machine.sink.flush).2 = _
  rw [hsink]
  rfl

/-- The first run may be left out, and so may the second. -/
theorem result_walking (p : Program) :
    (s.walking p).result =
      if s.options.runsTree then
        (p.run s.fuel fresh).bind fun o =>
          if o.fault = none then
            (s.codeResult p { flushes := 1 }).map fun (exit, written) =>
              (exit, o.machine.written ++ written)
          else some (1, o.machine.written)
      else s.codeResult p {} := by
  rw [walking]
  split
  · rw [Transcript.result]
    cases hrun : p.run s.fuel fresh with
    | none => rfl
    | some o =>
      obtain ⟨hflush, bytes, hfinished⟩ := sink_of_walk hrun
      rw [result_settle _ _ _ _ hflush, result_afterWalk]
      · rw [hfinished]
        rfl
      · rw [hfinished]
        rfl
      · rw [hfinished]
        rfl
  · exact s.result_afterWalk p rfl rfl

/-- A session for a text that can be read comes to what the walk of its program comes to. -/
theorem result_transcript {bytes : ByteArray} {text : String}
    (htext : String.fromUTF8? bytes = some text) :
    (s.transcript (.ok bytes)).result =
      match readProgram text with
      | .error _ => some (1, [])
      | .ok p => (s.walking p).result := by
  rw [transcript]
  simp only [htext, Transcript.result]
  rw [lexing, Transcript.result, readProgram, Source.markers]
  cases hread : (Source.Reader.ofString text).collect with
  | mk read reader =>
    cases read with
    | error e => rfl
    | ok markers =>
      simp only [result_detail, result_finished, result_showFor]
      rw [parsing, Transcript.result]
      cases Program.ofMarkers markers with
      | error e => rfl
      | ok p => simp

section Ended

variable {s} {p : Program} {fuel : Nat} {o : Outcome Sink} {sink : Sink}

/-- What the code comes to if the program ends. -/
theorem eq_of_codeResult (hrun : p.run fuel fresh = some o) (hroom : sink.room = none)
    (hempty : sink.received = #[]) {x : UInt32 × List UInt8}
    (hresult : s.codeResult p sink = some x) :
    x = if s.options.wants .runCode then (o.exitCode, o.machine.written) else (0, []) := by
  obtain ⟨_, hagrees⟩ := Program.lower_run_agrees s.options.folds hroom hempty hrun
  rw [codeResult] at hresult
  split at hresult
  · rename_i hcode
    obtain ⟨o', hrun', rfl⟩ := Option.map_eq_some_iff.mp hresult
    obtain ⟨hexit, hwritten⟩ := hagrees s.fuel o' hrun'
    rw [if_pos hcode, hexit, hwritten]
  · rename_i hcode
    rw [if_neg hcode]
    exact (Option.some.inj hresult).symm

/-- A program that ends does so in both runs, given enough steps. -/
theorem exists_codeResult (s : Session) (hrun : p.run fuel fresh = some o) (sink : Sink)
    (hroom : sink.room = none) (hempty : sink.received = #[]) :
    ∃ enough, ∀ fuel' ≥ enough, ∃ x, codeResult { s with fuel := fuel' } p sink = some x := by
  obtain ⟨⟨enough, o', hrun'⟩, _⟩ := Program.lower_run_agrees s.options.folds hroom hempty hrun
  refine ⟨enough, ?_⟩
  intro fuel' hle
  have hmore : (p.lower s.options.folds).run fuel' { sink } = some o' := runFor_mono hrun' hle
  rw [codeResult]
  split
  · exact ⟨_, by rw [hmore]; rfl⟩
  · exact ⟨_, rfl⟩

/-- The two runs together, if there is a first one. -/
theorem result_both (htree : s.options.runsTree = true) (hrun : p.run s.fuel fresh = some o)
    {x : UInt32 × List UInt8} (hcode : s.codeResult p { flushes := 1 } = some x) :
    (s.walking p).result = some (o.result s.options.runsBoth) := by
  have hx := eq_of_codeResult hrun rfl rfl hcode
  rw [result_walking, if_pos htree, hrun, Option.bind_some, hcode]
  cases hfault : o.fault with
  | some fault => simp [Outcome.result, hfault]
  | none =>
    rw [if_pos rfl, hx]
    simp only [Options.runsTree, Bool.or_eq_true, Bool.not_eq_true'] at htree
    cases hwants : s.options.wants .runCode <;>
      simp_all [Outcome.result, Outcome.exitCode, Options.runsBoth]

/-- The run of the code alone. -/
theorem result_code (htree : ¬s.options.runsTree = true) (hrun : p.run fuel fresh = some o)
    {x : UInt32 × List UInt8} (hcode : s.codeResult p {} = some x) :
    (s.walking p).result = some (o.result s.options.runsBoth) := by
  have hx := eq_of_codeResult hrun rfl rfl hcode
  rw [result_walking, if_neg htree, hcode, hx]
  simp only [Options.runsTree, Bool.or_eq_true, Bool.not_eq_true', not_or,
    Bool.not_eq_false] at htree
  cases hfault : o.fault <;>
    simp [Outcome.result, Outcome.exitCode, Options.runsBoth, htree, hfault]

end Ended

/-- A session that ends has a program that ends, and comes to what this program comes to. -/
theorem exists_run_of_result {p : Program} {x : UInt32 × List UInt8}
    (hresult : (s.walking p).result = some x) :
    ∃ fuel o, p.run fuel fresh = some o ∧ x = o.result s.options.runsBoth := by
  have hparts := hresult
  rw [result_walking] at hparts
  split at hparts
  · rename_i htree
    obtain ⟨o, hrun, hrest⟩ := Option.bind_eq_some_iff.mp hparts
    refine ⟨s.fuel, o, hrun, ?_⟩
    cases hfault : o.fault with
    | some fault =>
      rw [if_neg (by rw [hfault]; nofun)] at hrest
      rw [← Option.some.inj hrest, Outcome.result, hfault]
    | none =>
      rw [if_pos hfault] at hrest
      obtain ⟨y, hcode, _⟩ := Option.map_eq_some_iff.mp hrest
      rw [result_both htree hrun hcode] at hresult
      exact (Option.some.inj hresult).symm
  · rename_i htree
    have hcode : s.options.wants .runCode = true := by
      simp only [Options.runsTree, Bool.or_eq_true, Bool.not_eq_true', not_or,
        Bool.not_eq_false] at htree
      exact htree.2
    have hrun := hparts
    rw [codeResult, if_pos hcode] at hrun
    obtain ⟨o', hrun', _⟩ := Option.map_eq_some_iff.mp hrun
    have htogether := Code.Tracks.together (ω := Sink) s.options.folds (p.lower s.options.folds)
    obtain ⟨fuel, o, hwalk, _⟩ :=
      htogether.symm.ends (Code.Tracks.start s.options.folds p fresh) hrun'
    refine ⟨fuel, o, hwalk, ?_⟩
    rw [result_code htree hwalk hparts] at hresult
    exact (Option.some.inj hresult).symm

/-- A session whose program ends does so too, given enough steps. -/
theorem exists_result_of_run {p : Program} {fuel : Nat} {o : Outcome Sink}
    (hrun : p.run fuel fresh = some o) :
    ∃ enough, ∀ fuel' ≥ enough,
      (walking { s with fuel := fuel' } p).result = some (o.result s.options.runsBoth) := by
  obtain ⟨first, hfirst⟩ := s.exists_codeResult hrun {} rfl rfl
  obtain ⟨second, hsecond⟩ := s.exists_codeResult hrun { flushes := 1 } rfl rfl
  refine ⟨max fuel (max first second), ?_⟩
  intro fuel' hle
  by_cases htree : s.options.runsTree = true
  · obtain ⟨x, hcode⟩ := hsecond fuel' (by omega)
    have hmore : p.run fuel' fresh = some o := runFor_mono hrun (by omega)
    exact result_both (s := { s with fuel := fuel' }) htree hmore hcode
  · obtain ⟨x, hcode⟩ := hfirst fuel' (by omega)
    exact result_code (s := { s with fuel := fuel' }) htree hrun hcode

/-- The exit code and the bytes on standard output depend on the text alone, and on whether both
    runs are asked for. Without a program nothing is written and the session fails. With one, a
    session ends exactly if the program does, given enough steps, and then it comes to what the walk
    of the program on a fresh tape comes to. Neither the order and number of the tasks, nor what is
    shown, nor the optimizations, nor the log, nor colours make a difference. -/
theorem report_of_program {bytes : ByteArray} {text : String}
    (htext : String.fromUTF8? bytes = some text) :
    (∀ e, readProgram text = .error e → ∀ (s : Session) filter time,
      ∃ r, (s.transcript (.ok bytes)).report filter time = some r ∧ r.exit = 1 ∧ r.output = []) ∧
    (∀ p, readProgram text = .ok p → ∀ (s : Session) filter time,
      (∀ r, (s.transcript (.ok bytes)).report filter time = some r →
        ∃ fuel o, p.run fuel fresh = some o ∧
          (r.exit, r.output) = o.result s.options.runsBoth) ∧
      ∀ fuel o, p.run fuel fresh = some o → ∃ enough, ∀ fuel' ≥ enough, ∃ r,
        (transcript { s with fuel := fuel' } (.ok bytes)).report filter time = some r ∧
          (r.exit, r.output) = o.result s.options.runsBoth) ∧
    ∀ (s s' : Session) filter filter' time time' r r',
      s.options.runsBoth = s'.options.runsBoth →
      (s.transcript (.ok bytes)).report filter time = some r →
      (s'.transcript (.ok bytes)).report filter' time' = some r' →
      r.exit = r'.exit ∧ r.output = r'.output := by
  have hresult (s : Session) {filter : Filter} {time : String} {r : Report}
      (hreport : (s.transcript (.ok bytes)).report filter time = some r) :
      (s.transcript (.ok bytes)).result = some (r.exit, r.output) := by
    rw [← Transcript.report_result _ filter time, hreport]
    rfl
  have hreport (s : Session) (filter : Filter) (time : String) {x : UInt32 × List UInt8}
      (hresult : (s.transcript (.ok bytes)).result = some x) :
      ∃ r, (s.transcript (.ok bytes)).report filter time = some r ∧ (r.exit, r.output) = x := by
    rw [← Transcript.report_result _ filter time] at hresult
    exact Option.map_eq_some_iff.mp hresult
  refine ⟨?_, ?_, ?_⟩
  · intro e hread s filter time
    have hends : (s.transcript (.ok bytes)).result = some (1, []) := by
      rw [s.result_transcript htext, hread]
    obtain ⟨r, hr, hx⟩ := hreport s filter time hends
    exact ⟨r, hr, congrArg Prod.fst hx, congrArg Prod.snd hx⟩
  · intro p hread s filter time
    refine ⟨?_, ?_⟩
    · intro r hr
      have hends := hresult s hr
      rw [s.result_transcript htext, hread] at hends
      exact s.exists_run_of_result hends
    · intro fuel o hrun
      obtain ⟨enough, henough⟩ := s.exists_result_of_run hrun
      refine ⟨enough, ?_⟩
      intro fuel' hle
      apply hreport
      rw [result_transcript _ htext, hread]
      exact henough fuel' hle
  · intro s s' filter filter' time time' r r' hsame hr hr'
    have hends := hresult s hr
    have hends' := hresult s' hr'
    rw [result_transcript _ htext] at hends hends'
    have hboth : (r.exit, r.output) = (r'.exit, r'.output) := by
      cases hread : readProgram text with
      | error e =>
        rw [hread] at hends hends'
        exact Option.some.inj (hends.symm.trans hends')
      | ok p =>
        rw [hread] at hends hends'
        obtain ⟨fuel, o, hrun, hx⟩ := s.exists_run_of_result hends
        obtain ⟨fuel', o', hrun', hx'⟩ := s'.exists_run_of_result hends'
        obtain rfl := runFor_unique hrun hrun'
        rw [hx, hx', hsame]
    exact ⟨congrArg Prod.fst hboth, congrArg Prod.snd hboth⟩

/-- A text whose program writes a byte, in two sessions that do both runs, and a text that is cut
    off. -/
theorem report_of_program_twice :
    let text := "Ook. Ook. Ook! Ook."
    let p : Program := .instr .increment (.instr .output .nil)
    let o : Outcome Sink :=
      Machine.done
        { tape := { left := [], current := 1, right := [] }, sink := { received := #[1] } }
    let options : Options := { file := "a", tasks := [.runCode, .tokens, .runTree] }
    let s : Session := { options, fuel := 0 }
    let tasks : List Task := [.runTree, .runCode, .runTree]
    let s' : Session :=
      { options := { file := "b", tasks, allOptimizations := true }, coloured := true, fuel := 0 }
    String.fromUTF8? text.toUTF8 = some text ∧ readProgram text = .ok p ∧
      p.run 3 fresh = some o ∧ s.options.runsBoth = s'.options.runsBoth ∧
      (∃ fuel r r',
        (transcript { s with fuel } (.ok text.toUTF8)).report .off "" = some r ∧
        (transcript { s' with fuel } (.ok text.toUTF8)).report (fun _ => true) "1ms" = some r' ∧
        (r.exit, r.output) = (0, [1, 1]) ∧ r.exit = r'.exit ∧ r.output = r'.output) ∧
      String.fromUTF8? "Ook".toUTF8 = some "Ook" ∧
      readProgram "Ook" = .error (.source (.unexpected 'O' .start)) ∧
      ∃ r, (s.transcript (.ok "Ook".toUTF8)).report .off "" = some r ∧ r.exit = 1 ∧
        r.output = [] := by
  intro text p o options s tasks s'
  have htext : String.fromUTF8? text.toUTF8 = some text := fromUTF8?_toUTF8 text
  let blank : Source.Item := .gap (.blank ' ' rfl)
  have hspelled : text.toList = Source.Item.spell
      [.token .dot, blank, .token .dot, blank, .token .bang, blank, .token .dot] := by decide
  have hplain : p.IsPlain := ⟨⟨nofun, nofun, nofun⟩, ⟨nofun, nofun, nofun⟩, trivial⟩
  have hread : readProgram text = .ok p :=
    readProgram_of_markers (Source.markers_eq_ok_of_spell hspelled) hplain (Nat.zero_le _)
  have hrun : p.run 3 fresh = some o := rfl
  have hsame : s.options.runsBoth = s'.options.runsBoth := rfl
  have hcut : String.fromUTF8? "Ook".toUTF8 = some "Ook" := fromUTF8?_toUTF8 "Ook"
  have hstray : Source.Stray ['O', 'o', 'k'] [] 'O' := .cutOff (by decide) (List.cons_ne_nil _ _)
  have hletters : "Ook".toList = Source.Item.spell [] ++ ['O', 'o', 'k'] := by decide
  have hmarkers : Source.markers "Ook" = .error (.unexpected 'O' .start) :=
    (Source.markers_eq_error_of_spell hletters).2 [] 'O' hstray
  have hwrong : readProgram "Ook" = .error (.source (.unexpected 'O' .start)) := by
    rw [readProgram, hmarkers]
  obtain ⟨_, hprogram, htwo⟩ := report_of_program htext
  refine ⟨htext, hread, hrun, hsame, ?_, hcut, hwrong, ?_⟩
  · obtain ⟨enough, henough⟩ := (hprogram p hread s .off "").2 3 o hrun
    obtain ⟨enough', henough'⟩ := (hprogram p hread s' (fun _ => true) "1ms").2 3 o hrun
    let fuel := max enough enough'
    obtain ⟨r, hr, hx⟩ := henough fuel (Nat.le_max_left _ _)
    obtain ⟨r', hr', _⟩ := henough' fuel (Nat.le_max_right _ _)
    have hequal := htwo { s with fuel } { s' with fuel } _ _ _ _ r r' hsame hr hr'
    exact ⟨fuel, r, r', hr, hr', hx, hequal⟩
  · exact (report_of_program hcut).1 _ hwrong s .off ""

end Session

end Command

end OokLang
