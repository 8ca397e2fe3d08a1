import OokLang.Interpreter
import OokLang.Proofs.Output.Recorder
import OokLang.Proofs.Reading.Spelling

namespace OokLang

variable {ω : Type} [Writer ω]

/-- What a run of a program on a blank tape asks of its sink, if it ends so: to take the bytes that
    the program writes where all of them are taken, one after the other, up to the end of the
    program or the first of them that is refused. A run does not ask for a flush. -/
inductive Program.Asks (p : Program) : Option Fault → List Request → Prop where
  | all {fault : Option Fault} {m : Machine Sink}
      (hruns : Engine.walk.Runs p { sink := {} } (.ended fault) m) :
      p.Asks fault (Request.taking m.written)
  | refused {reply : Reply} {m : Machine Sink} {taken : List UInt8} {byte : UInt8}
      {cause : WriteFault} (hruns : Engine.walk.Runs p { sink := {} } reply m)
      (hbytes : taken ++ [byte] <+: m.written) :
      p.Asks (some (.output cause)) (Request.taking taken ++ [.put byte (some cause)])

namespace Program

/-- A run that ends does so as where all bytes are taken, or at a byte that is refused. -/
theorem run_into {p : Program} {fuel : Nat} {s : ω} {o : Outcome ω}
    (hrun : p.run fuel { sink := s } = some o) :
    ∃ reply m, Engine.walk.Runs p { sink := ({} : Sink) } reply m ∧
      ((reply = .ended o.fault ∧ Writer.putAll m.written s = (none, o.machine.sink)) ∨
        ∃ cause, o.fault = some (.output cause) ∧
          Writer.putAll m.written s = (some cause, o.machine.sink)) := by
  -- Where all bytes are taken, the run may be longer, but it is enough to look at as many steps.
  obtain ⟨reply, m, hruns, hreply⟩ : ∃ reply m, Engine.walk.Runs p { sink := ({} : Sink) } reply m ∧
      (reply = .going fuel ∨ ∃ fault, reply = .ended fault) := by
    obtain ⟨o', hrun'⟩ | ⟨state, hleads⟩ :=
      runFor_or_leads State.step fuel ⟨p, [], { sink := ({} : Sink) }⟩
    · exact ⟨.ended o'.fault, o'.machine, ⟨fuel, hrun'⟩, .inr ⟨_, rfl⟩⟩
    · exact ⟨.going fuel, state.machine, ⟨state, hleads, rfl⟩, .inl rfl⟩
  obtain ⟨last, hput, hruns'⟩ | ⟨cause, last, tape, hrefused, _, hends⟩ :=
    Engine.walk.runs_into p .blank s hruns
  · obtain rfl | ⟨fault, rfl⟩ := hreply
    · obtain ⟨_, hleads, _⟩ := hruns'
      cases hleads.runFor_eq_none.symm.trans hrun
    · obtain ⟨_, hends⟩ := hruns'
      obtain rfl := runFor_unique hrun hends
      exact ⟨_, m, hruns, .inl ⟨rfl, hput⟩⟩
  · obtain rfl := runFor_unique hrun hends
    obtain ⟨steps, _, after, _, hafter, _, _, _, hput⟩ := hrefused
    exact ⟨_, after, hafter, .inr ⟨cause, rfl, hput⟩⟩

/-- What is asked of a sink while a program runs. -/
theorem asks_of_run {p : Program} {fuel : Nat} {s : ω} {o : Outcome (Recorder ω)}
    (hrun : p.run fuel { sink := { writer := s } } = some o) :
    p.Asks o.fault o.machine.sink.requests := by
  obtain ⟨reply, m, hruns, ⟨rfl, hput⟩ | ⟨cause, hfault, hput⟩⟩ := run_into hrun
  · rw [Recorder.requests_of_taken hput]
    exact .all hruns
  · obtain ⟨taken, byte, hbytes, hrequests⟩ := Recorder.requests_of_refused hput
    rw [hfault, hrequests]
    exact .refused hruns hbytes

/-- A program runs alike whether its sink is recorded or not. -/
theorem run_recorded (p : Program) (fuel : Nat) (s : ω) :
    p.run fuel { sink := s } =
      (p.run fuel { sink := ({ writer := s } : Recorder ω) }).map
        (Outcome.map Machine.unrecorded) := by
  obtain ⟨_, _, _, _, hnever⟩ | hmap :=
    takesTurns.runFor_map takesTurns Machine.harmless_unrecorded fuel (p, [])
      { sink := ({ writer := s } : Recorder ω) }
  · exact hnever.elim
  · exact hmap

theorem tells_of_run {p : Program} {fuel : Nat} {s : Sink} {o : Outcome (Recorder Sink)}
    (hrun : p.run fuel { sink := { writer := s } } = some o) : o.machine.sink.Tells s := by
  obtain ⟨_, m, _, hput⟩ := run_into hrun
  have hsink : (Writer.putAll m.written { writer := s }).2 = o.machine.sink := by
    obtain ⟨_, hput⟩ | ⟨_, _, hput⟩ := hput <;> rw [hput]
  rw [← hsink]
  exact (Recorder.Tells.start s).putAll m.written

end Program

section Interpret

variable {text : String} {ms : List Marker} {p : Program}

theorem interpret_of_source_error {e : Source.Error} (hmarkers : Source.markers text = .error e)
    (fuel : Nat) (s : ω) : interpret fuel text s = some (some (.source e), s) := by
  rw [interpret, readProgram, hmarkers]

theorem interpret_of_program_error {e : Program.Error} (hmarkers : Source.markers text = .ok ms)
    (hprogram : Program.ofMarkers ms = .error e) (fuel : Nat) (s : ω) :
    interpret fuel text s = some (some (.program e), s) := by
  rw [interpret, readProgram, hmarkers]
  simp only [hprogram]

theorem interpret_of_program (hmarkers : Source.markers text = .ok ms)
    (hprogram : Program.ofMarkers ms = .ok p) (fuel : Nat) (s : ω) :
    interpret fuel text s =
      (p.run fuel { sink := s }).map fun o => (o.finish.fault.map .run, o.finish.machine.sink) := by
  rw [interpret, readProgram, hmarkers]
  simp only [hprogram]
  cases p.run fuel { sink := s } <;> rfl

/-- It makes no difference whether the sink is recorded. -/
theorem interpret_recorded (text : String) (fuel : Nat) (s : ω) :
    interpret fuel text s =
      (interpret fuel text ({ writer := s } : Recorder ω)).map fun (e, r) => (e, r.writer) := by
  cases hmarkers : Source.markers text with
  | error e =>
    rw [interpret_of_source_error hmarkers, interpret_of_source_error hmarkers]
    rfl
  | ok ms =>
    cases hprogram : Program.ofMarkers ms with
    | error e =>
      rw [interpret_of_program_error hmarkers hprogram,
        interpret_of_program_error hmarkers hprogram]
      rfl
    | ok p =>
      rw [interpret_of_program hmarkers hprogram, interpret_of_program hmarkers hprogram,
        p.run_recorded, Option.map_map, Option.map_map]
      rfl

/-- The requests of a run are followed by a single flush. -/
theorem interpret_of_run (hmarkers : Source.markers text = .ok ms)
    (hprogram : Program.ofMarkers ms = .ok p) {fuel : Nat} {s : ω} {o : Outcome ω}
    (hrun : p.run fuel { sink := s } = some o) :
    ∃ requests cause s', p.Asks o.fault requests ∧ Writer.flush o.machine.sink = (cause, s') ∧
      interpret fuel text ({ writer := s } : Recorder ω) =
        some ((o.fault <|> cause.map Fault.output).map Error.run,
          { writer := s', requests := requests ++ [.flush cause] }) := by
  rw [p.run_recorded] at hrun
  obtain ⟨o', hrun', rfl⟩ := Option.map_eq_some_iff.mp hrun
  refine ⟨o'.machine.sink.requests, _, _, Program.asks_of_run hrun', rfl, ?_⟩
  rw [interpret_of_program hmarkers hprogram, hrun']
  rfl

end Interpret

/-- Nothing is asked of the sink unless the text spells a program, and then the sink is flushed
    once, as the last thing that is asked of it, whether the run went well or not. Before that it is
    asked to take the bytes that the program writes from a blank tape. An error of the text comes
    before one of its markers, and a fault of the run before one of the flush. All this can be told
    from a record of the sink, which makes no difference otherwise. -/
theorem interpret_flushes_once (text : String) :
    (∀ {ω : Type} [Writer ω] (s : ω) (fuel : Nat),
      let recorder : Recorder ω := { writer := s }
      interpret fuel text s =
          ((interpret fuel text recorder).map fun (e, r) => (e, r.writer)) ∧
        (∀ e, Source.markers text = .error e →
          interpret fuel text recorder = some (some (.source e), recorder)) ∧
        (∀ ms e, Source.markers text = .ok ms → Program.ofMarkers ms = .error e →
          interpret fuel text recorder = some (some (.program e), recorder)) ∧
        ∀ ms p, Source.markers text = .ok ms → Program.ofMarkers ms = .ok p →
          (p.run fuel { sink := s } = none → interpret fuel text recorder = none) ∧
            ∀ o, p.run fuel { sink := s } = some o →
              ∃ requests cause s', p.Asks o.fault requests ∧
                Writer.flush o.machine.sink = (cause, s') ∧
                interpret fuel text recorder =
                  some ((o.fault <|> cause.map Fault.output).map Error.run,
                    { writer := s', requests := requests ++ [.flush cause] })) ∧
    ∀ (s : Sink) (fuel : Nat) (e : Option Error) (r : Recorder Sink),
      interpret fuel text ({ writer := s } : Recorder Sink) = some (e, r) → r.Tells s := by
  refine ⟨?_, ?_⟩
  · intro ω _ s fuel recorder
    refine ⟨interpret_recorded text fuel s, ?_, ?_, ?_⟩
    · intro e hmarkers
      exact interpret_of_source_error hmarkers fuel recorder
    · intro ms e hmarkers hprogram
      exact interpret_of_program_error hmarkers hprogram fuel recorder
    · intro ms p hmarkers hprogram
      refine ⟨?_, fun o hrun => interpret_of_run hmarkers hprogram hrun⟩
      intro hrun
      rw [p.run_recorded, Option.map_eq_none_iff] at hrun
      rw [interpret_of_program hmarkers hprogram, hrun]
      rfl
  · intro s fuel e r hends
    cases hmarkers : Source.markers text with
    | error e' =>
      rw [interpret_of_source_error hmarkers] at hends
      cases hends
      exact .start s
    | ok ms =>
      cases hprogram : Program.ofMarkers ms with
      | error e' =>
        rw [interpret_of_program_error hmarkers hprogram] at hends
        cases hends
        exact .start s
      | ok p =>
        rw [interpret_of_program hmarkers hprogram] at hends
        obtain ⟨o, hrun, hfinish⟩ := Option.map_eq_some_iff.mp hends
        cases hfinish
        exact (Program.tells_of_run hrun).flush

/-- A text that is cut off, one whose markers do not come in pairs, and one whose program writes a
    byte and then moves past the first cell, with a sink that cannot be flushed. -/
theorem interpret_flushes_once_underflow :
    let text := "Ook. Ook. Ook! Ook. Ook? Ook."
    let ms : List Marker := [.dot, .dot, .bang, .dot, .question, .dot]
    let p : Program := .instr .increment (.instr .output (.instr .moveLeft .nil))
    let s : Sink := { room := some 1, flushFails := true }
    let recorder : Recorder Sink := { writer := s }
    let o : Outcome Sink :=
      Machine.failed
        { tape := { left := [], current := 1, right := [] },
          sink := { s with room := some 0, received := #[1] } }
        (.pointerUnderflow 0 1)
    Source.markers "Ook" = .error (.unexpected 'O' .start) ∧
      interpret 0 "Ook" recorder = some (some (.source (.unexpected 'O' .start)), recorder) ∧
      Source.markers "Ook." = .ok [.dot] ∧ Program.ofMarkers [.dot] = .error (.oddCount 1) ∧
      interpret 0 "Ook." recorder = some (some (.program (.oddCount 1)), recorder) ∧
      Source.markers text = .ok ms ∧ Program.ofMarkers ms = .ok p ∧
      p.run 2 { sink := s } = none ∧ interpret 2 text recorder = none ∧
      p.run 3 { sink := s } = some o ∧
      ∃ requests cause s', p.Asks o.fault requests ∧ Writer.flush o.machine.sink = (cause, s') ∧
        interpret 3 text recorder =
          some ((o.fault <|> cause.map Fault.output).map Error.run,
            { writer := s', requests := requests ++ [.flush cause] }) ∧
        Recorder.Tells { writer := s', requests := requests ++ [.flush cause] } s := by
  intro text ms p s recorder o
  let blank : Source.Item := .gap (.blank ' ' rfl)
  have hletters : "Ook".toList = Source.Item.spell [] ++ ['O', 'o', 'k'] := by decide
  have hstray : Source.Stray ['O', 'o', 'k'] [] 'O' := .cutOff (by decide) (List.cons_ne_nil _ _)
  have hcut : Source.markers "Ook" = .error (.unexpected 'O' .start) :=
    (Source.markers_eq_error_of_spell hletters).2 [] 'O' hstray
  have hsingle : "Ook.".toList = Source.Item.spell [.token .dot] := by decide
  have hodd : Source.markers "Ook." = .ok [.dot] := Source.markers_eq_ok_of_spell hsingle
  have hcount : Program.ofMarkers [.dot] = .error (.oddCount 1) := Program.ofMarkers_of_odd _ rfl
  have hspelled : text.toList = Source.Item.spell
      [.token .dot, blank, .token .dot, blank, .token .bang, blank, .token .dot, blank,
        .token .question, blank, .token .dot] := by decide
  have hplain : p.IsPlain :=
    ⟨⟨nofun, nofun, nofun⟩, ⟨nofun, nofun, nofun⟩, ⟨nofun, nofun, nofun⟩, trivial⟩
  have hmarkers : Source.markers text = .ok ms := Source.markers_eq_ok_of_spell hspelled
  have hprogram : Program.ofMarkers ms = .ok p := Program.ofMarkers_markers hplain (Nat.zero_le _)
  have hgoing : p.run 2 { sink := s } = none := by decide
  have hrun : p.run 3 { sink := s } = some o := by decide
  obtain ⟨-, hsource, -, -⟩ := (interpret_flushes_once "Ook").1 s 0
  obtain ⟨-, -, hpairs, -⟩ := (interpret_flushes_once "Ook.").1 s 0
  obtain ⟨hends, htells⟩ := interpret_flushes_once text
  obtain ⟨-, -, -, hshort⟩ := hends s 2
  obtain ⟨-, -, -, hlong⟩ := hends s 3
  obtain ⟨requests, cause, s', hasks, hflush, hinterpret⟩ := (hlong ms p hmarkers hprogram).2 o hrun
  exact ⟨hcut, hsource _ hcut, hodd, hcount, hpairs _ _ hodd hcount, hmarkers, hprogram, hgoing,
    (hshort ms p hmarkers hprogram).1 hgoing, hrun, requests, cause, s', hasks, hflush, hinterpret,
    htells s 3 _ _ hinterpret⟩

end OokLang
