import OokLang.Code.Lowering
import OokLang.Code.Printer
import OokLang.Code.Run
import OokLang.Command.Options
import OokLang.Command.Transcript
import OokLang.Interpreter
import OokLang.Program.Printer
import OokLang.Sink

namespace OokLang.Command

/-- Why a file cannot be read. -/
inductive Unreadable where
  | missing
  | directory
  /-- The path goes on after a file. -/
  | notDirectory
  | nameTooLong
  /-- Its bytes are no text. -/
  | notText
  | other (reason : String)
  deriving DecidableEq, Repr

/-- The wording of the reason. -/
def Unreadable.message : Unreadable → String
  | missing => "No such file or directory (os error 2)"
  | directory => "Is a directory (os error 21)"
  | notDirectory => "Not a directory (os error 20)"
  | nameTooLong => "File name too long (os error 36)"
  | notText => "stream did not contain valid UTF-8"
  | other reason => reason

/-- A session: what the command line asks for, whether the word before an error is coloured, and how
    many steps a run may take. -/
structure Session where
  options : Options
  coloured : Bool := false
  fuel : Nat

namespace Session

/-- The line that tells of an error. -/
def errorLine (s : Session) (message : String) : String :=
  (if s.coloured then "\x1b[31mError\x1b[0m" else "Error") ++ ": " ++ message

/-- An error ends the session. -/
def fail (s : Session) (message : String) : Transcript :=
  .note (s.errorLine message) (.ended 1)

/-- A detail of a stage. -/
def detail (origin message : String) (rest : Transcript) : Transcript :=
  .log { level := .debug, origin, message } rest

/-- A stage is over. -/
def finished (stage : String) (rest : Transcript) : Transcript :=
  .log { message := "Finished " ++ stage, timed := true } rest

/-- Shows a text if a task asks for it. -/
def showFor (s : Session) (task : Task) (text : String) (rest : Transcript) : Transcript :=
  if s.options.wants task then .note text rest else rest

/-- What comes of a run. Its output is flushed, and a fault is told only then. -/
def settle (s : Session) (name origin : String) (run : Option (Outcome Sink))
    (next : Machine Sink → Transcript) : Transcript :=
  match run with
  | none => .unended
  | some outcome =>
    let flushed := outcome.finish
    let rest : Transcript :=
      .output flushed.machine.sink.received <|
        match flushed.fault with
        | some fault => s.fail (Error.run fault).message
        | none => finished name (next flushed.machine)
    match outcome.fault with
    | some _ => rest
    | none => detail origin s!"{name} finished tape={outcome.machine.tape.cells.length}" rest

/-- The last stage runs code. -/
def executing (s : Session) (code : Code) (m : Machine Sink) : Transcript :=
  .stage fun _ =>
    s.settle "bytecode-interpreter" "ook::interpreter::bytecode_interpreter" (code.run s.fuel m)
      fun _ => .ended 0

/-- A stage turns the program into code. -/
def lowering (s : Session) (program : Program) (m : Machine Sink) : Transcript :=
  .stage fun _ =>
    let code := program.lower s.options.folds
    detail "ook::bytecode::bytecode"
        s!"lowered to bytecode len={code.size} fold={s.options.folds}" <|
      finished s!"bytecode conversion with length {code.size}" <|
      s.showFor .code code.text <|
      if s.options.wants .runCode then s.executing code m else .ended 0

/-- Goes on to the code if the session needs it. The machine has a fresh tape, and its sink holds
    nothing that was written already. -/
def afterWalk (s : Session) (program : Program) (m : Machine Sink) : Transcript :=
  if s.options.needsCode then s.lowering program { m.reset with sink := m.sink.emptied }
  else .ended 0

/-- A blank tape, and room for any output. -/
def fresh : Machine Sink :=
  { sink := {} }

/-- A stage runs the program as it is. -/
def walking (s : Session) (program : Program) : Transcript :=
  if s.options.runsTree then
    .stage fun _ =>
      s.settle "ast-interpreter" "ook::interpreter::ast_interpreter" (program.run s.fuel fresh)
        (s.afterWalk program)
  else s.afterWalk program fresh

/-- A stage turns markers into a program. -/
def parsing (s : Session) (markers : List Marker) : Transcript :=
  .stage fun _ =>
    match Program.ofMarkers markers with
    | .error e => s.fail (Error.program e).message
    | .ok program =>
      detail "ook::parser::parser"
          s!"parsed program instructions={markers.length / 2} top_level={program.length}" <|
        finished "parsing" <|
        s.showFor .tree program.indented <|
        s.walking program

/-- The first stage turns a text into markers. -/
def lexing (s : Session) (text : String) : Transcript :=
  .stage fun _ =>
    match (Source.Reader.ofString text).collect with
    | (.error e, _) => s.fail (Error.source e).message
    | (.ok markers, reader) =>
      detail "ook::lexer::lexer"
          s!"lexed source markers={markers.length} lines={reader.position.line}" <|
        finished "lexing" <|
        s.showFor .tokens (Marker.tokens markers) <|
        s.parsing markers

/-- What a session comes to, given the bytes of its file. -/
def transcript (s : Session) (bytes : Except Unreadable ByteArray) : Transcript :=
  let refuse (reason : Unreadable) :=
    s.fail s!"can't read {s.options.file}: {reason.message}"
  match bytes with
  | .error reason => refuse reason
  | .ok bytes =>
    match String.fromUTF8? bytes with
    | none => refuse .notText
    | some text => .log { message := "Running " ++ s.options.file } (s.lexing text)

end Session

end OokLang.Command
