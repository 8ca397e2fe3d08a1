namespace OokLang.Command

/-- What a session can be asked to show or to do. -/
inductive Task where
  /-- Show the tokens. -/
  | tokens
  /-- Show the program. -/
  | tree
  /-- Show the code. -/
  | code
  /-- Run the program as it is. -/
  | runTree
  /-- Run the code. -/
  | runCode
  deriving DecidableEq, Repr

/-- The task of a name on the command line. -/
def Task.ofName? : String → Option Task
  | "tokens" => some tokens
  | "ast" => some tree
  | "bytecode" => some code
  | "ast-interpreter" => some runTree
  | "bytecode-interpreter" => some runCode
  | _ => none

/-- Ways to improve code. -/
inductive Optimization where
  /-- Fold runs of the same operation into one. -/
  | constantFolding
  deriving DecidableEq, Repr

/-- The optimization of a name on the command line. -/
def Optimization.ofName? : String → Option Optimization
  | "constant-folding" => some constantFolding
  | _ => none

/-- What the command line asks of a session. -/
structure Options where
  file : String
  tasks : List Task := []
  optimizations : List Optimization := []
  allOptimizations : Bool := false
  verbose : Bool := false
  deriving DecidableEq, Repr

namespace Options

/-- Whether a task was given, at any place and any number of times. -/
def wants (o : Options) (task : Task) : Bool :=
  o.tasks.contains task

/-- A program is run as it is if that is asked for, or if no other run is. -/
def runsTree (o : Options) : Bool :=
  o.wants .runTree || !o.wants .runCode

/-- Code is needed to show it and to run it. -/
def needsCode (o : Options) : Bool :=
  o.wants .code || o.wants .runCode

/-- Whether runs of the same operation are folded into one. -/
def folds (o : Options) : Bool :=
  o.allOptimizations || o.optimizations.contains .constantFolding

end Options

/-- What a command line comes to. -/
inductive Request where
  | run (options : Options)
  | version
  | help
  | misuse
  deriving DecidableEq, Repr

/-- The answer to a request for the version. -/
def versionText : String := "ook 0.1.0"

/-- The answer to a request for help. -/
def helpText : String :=
  "Ook! interpreter\n\n" ++
  "Usage: ook [OPTIONS] <FILE> [TASKS]...\n\n" ++
  "Tasks:\n" ++
  "  tokens                Show the tokens\n" ++
  "  ast                   Show the program\n" ++
  "  bytecode              Show the code\n" ++
  "  ast-interpreter       Run the program as it is\n" ++
  "  bytecode-interpreter  Run the code\n\n" ++
  "Options:\n" ++
  "  -o, --optimizations <OPTIMIZATION>  constant-folding folds runs of the same operation\n" ++
  "  -a, --all-optimizations             Use all optimizations\n" ++
  "  -v, --verbose                       Log each stage\n" ++
  "  -h, --help                          Show this help\n" ++
  "  -V, --version                       Show the version"

/-- How the next argument is read. -/
inductive Expected where
  /-- As an option or a word. -/
  | anything
  /-- As the value of the option before it. -/
  | optimization
  /-- As a word, even with a dash in front. -/
  | words
  deriving DecidableEq, Repr

/-- The options that the arguments so far have given. -/
structure Draft where
  expected : Expected := .anything
  file : Option String := none
  options : Options := { file := "" }
  deriving DecidableEq, Repr

namespace Draft

/-- Takes an optimization, which may be given any number of times. -/
def optimize (d : Draft) (name : String) : Except Request Draft :=
  match Optimization.ofName? name with
  | none => .error .misuse
  | some optimization =>
    let optimizations := d.options.optimizations ++ [optimization]
    .ok { d with expected := .anything, options := { d.options with optimizations } }

/-- Asks for all optimizations, which may be done once. -/
def optimizeAll (d : Draft) : Except Request Draft :=
  if d.options.allOptimizations then .error .misuse
  else .ok { d with options := { d.options with allOptimizations := true } }

/-- Asks for a log of each stage, which may be done once. -/
def beVerbose (d : Draft) : Except Request Draft :=
  if d.options.verbose then .error .misuse
  else .ok { d with options := { d.options with verbose := true } }

/-- Takes the letters after a dash. The value of an option is what follows its letter, after an
    equals sign or not, or else the next argument. -/
def letters (d : Draft) : List Char → Except Request Draft
  | [] => .ok d
  | 'a' :: rest =>
    match d.optimizeAll with
    | .ok d' => d'.letters rest
    | .error request => .error request
  | 'v' :: rest =>
    match d.beVerbose with
    | .ok d' => d'.letters rest
    | .error request => .error request
  | 'o' :: [] => .ok { d with expected := .optimization }
  | 'o' :: '=' :: value => d.optimize (String.ofList value)
  | 'o' :: value => d.optimize (String.ofList value)
  | 'h' :: _ => .error .help
  | 'V' :: _ => .error .version
  | _ => .error .misuse

/-- Takes the name after two dashes, with the value after an equals sign if there is one. -/
def longName (d : Draft) (name : String) (value : Option String) : Except Request Draft :=
  match name, value with
  | "optimizations", some value => d.optimize value
  | "optimizations", none => .ok { d with expected := .optimization }
  | "all-optimizations", none => d.optimizeAll
  | "verbose", none => d.beVerbose
  | "help", none => .error .help
  | "version", none => .error .version
  | _, _ => .error .misuse

/-- Takes a word. The first one is the file, and the others are tasks. -/
def word (d : Draft) (text : String) : Except Request Draft :=
  match d.file with
  | none => .ok { d with file := some text }
  | some _ =>
    match Task.ofName? text with
    | none => .error .misuse
    | some task => .ok { d with options := { d.options with tasks := d.options.tasks ++ [task] } }

/-- Takes an argument. Two dashes alone make words of all that follow, and a single dash is a
    word. -/
def argument (d : Draft) (text : String) : Except Request Draft :=
  match d.expected with
  | .optimization => d.optimize text
  | .words => d.word text
  | .anything =>
    match text.toList with
    | ['-', '-'] => .ok { d with expected := .words }
    | '-' :: '-' :: name =>
      let value := (name.dropWhile (· ≠ '=')).tail?
      d.longName (String.ofList (name.takeWhile (· ≠ '='))) (value.map String.ofList)
    | '-' :: letter :: rest => d.letters (letter :: rest)
    | _ => d.word text

/-- What is asked for once there are no more arguments. A file has to be given, and an option has
    to have its value. -/
def request (d : Draft) : Request :=
  match d.file, d.expected with
  | some file, .anything | some file, .words => .run { d.options with file }
  | _, _ => .misuse

end Draft

/-- Reads a command line, from left to right. Where it cannot be read, or asks for the version or
    for help, the rest of it does not matter. -/
def Request.ofArguments (arguments : List String) : Request :=
  match arguments.foldlM Draft.argument {} with
  | .ok draft => draft.request
  | .error request => request

end OokLang.Command
