namespace OokLang.Command

/-- How much a line of the log matters, from the most to the least. -/
inductive Level where
  | error
  | warn
  | info
  | debug
  | trace
  deriving DecidableEq, Repr

namespace Level

/-- Levels that matter more come first. -/
def rank : Level → Nat
  | error => 0
  | warn => 1
  | info => 2
  | debug => 3
  | trace => 4

/-- The name of a level at the start of a line, with five characters. -/
def label : Level → String
  | error => "ERROR"
  | warn => " WARN"
  | info => " INFO"
  | debug => "DEBUG"
  | trace => "TRACE"

/-- The level that a setting gives by its name, in letters of either case, or by its number. It may
    also ask for no level at all. -/
def ofSetting? (text : String) : Option (Option Level) :=
  match text.toLower with
  | "off" | "0" => some none
  | "error" | "1" => some (some error)
  | "warn" | "2" => some (some warn)
  | "info" | "3" => some (some info)
  | "debug" | "4" => some (some debug)
  | "trace" | "5" => some (some trace)
  | _ => none

end Level

/-- A line of the log. A line about a stage ends in the time that the stage took. -/
structure LogLine where
  level : Level := .info
  origin : String := "ook"
  message : String
  timed : Bool := false
  deriving DecidableEq, Repr

/-- Which lines of the log are shown. -/
abbrev Filter := LogLine → Bool

/-- A part of a setting, about the lines whose origin begins in the given way. -/
structure Directive where
  origin : String := ""
  /-- The least level that is shown. Without one, no line is. -/
  least : Option Level
  deriving DecidableEq, Repr

namespace Directive

/-- The directive of a text: a level, or the beginning of an origin, or both with an equals sign
    between them. Without a level all lines are shown. -/
def ofText? (text : String) : Option Directive :=
  match Level.ofSetting? text with
  | some least => some { least }
  | none =>
    let origin := String.ofList (text.toList.takeWhile (· ≠ '='))
    let level := (text.toList.dropWhile (· ≠ '=')).drop 1
    if origin = "" then none
    else if level = [] then some { origin, least := some .trace }
    else (Level.ofSetting? (String.ofList level)).map fun least => { origin, least }

/-- Whether a directive is about a line. -/
def concerns (d : Directive) (line : LogLine) : Bool :=
  line.origin.startsWith d.origin

/-- Whether a line that a directive is about is shown. -/
def shows (d : Directive) (line : LogLine) : Bool :=
  d.least.any fun least => line.level.rank ≤ least.rank

end Directive

namespace Filter

/-- No line is shown. -/
def off : Filter := fun _ => false

/-- Of the directives that are about a line the one decides that says the most about its origin, and
    of several such ones the last. -/
def ofDirectives (directives : List Directive) : Filter := fun line =>
  let better (best : Option Directive) (d : Directive) : Option Directive :=
    if best.any fun b => d.origin.length < b.origin.length then best else some d
  ((directives.filter (·.concerns line)).foldl better none).any (·.shows line)

/-- The filter of a setting, which is made of directives with commas between them. With none only
    errors are shown. -/
def ofSetting? (setting : String) : Option Filter :=
  let texts := (setting.splitOn ",").filter (· ≠ "")
  if texts = [] then some (ofDirectives [{ least := some .error }])
  else (texts.mapM Directive.ofText?).map ofDirectives

/-- A setting that can be read decides. Otherwise the program's warnings are shown, or all of its
    lines down to the details if the command line asks for them. -/
def choose (setting : Option String) (verbose : Bool) : Filter :=
  match setting.bind ofSetting? with
  | some filter => filter
  | none => ofDirectives [{ origin := "ook", least := some (if verbose then .debug else .warn) }]

end Filter

/-- A line as it is shown, given the text of the time. -/
def LogLine.text (l : LogLine) (time : String) : String :=
  l.level.label ++ " " ++ l.origin ++ ": " ++ l.message ++ if l.timed then " in " ++ time else ""

/-- The text of a time, in the unit that fits it and with two decimals. -/
def durationText (nanoseconds : Nat) : String :=
  let (unit, size) :=
    if nanoseconds < 1000 then ("ns", 1)
    else if nanoseconds < 1000000 then ("µs", 1000)
    else if nanoseconds < 1000000000 then ("ms", 1000000)
    else ("s", 1000000000)
  let hundredths := (nanoseconds * 100 + size / 2) / size
  let decimals := hundredths % 100
  s!"{hundredths / 100}." ++ (if decimals < 10 then "0" else "") ++ s!"{decimals}{unit}"

end OokLang.Command
