import OokLang.Program.Basic

namespace OokLang.Program

/-- The text of each instruction and loop of a sequence, in one line. -/
def items : Program → List String
  | nil => []
  | instr i rest => ("Simple(" ++ i.name ++ ")") :: rest.items
  | loop body rest =>
    ("Loop(BasicBlock \x7b instructions: [" ++ ", ".intercalate body.items ++ "] \x7d)") ::
      rest.items

/-- The text of a program in one line. -/
def compact (p : Program) : String :=
  "BasicBlock \x7b instructions: [" ++ ", ".intercalate p.items ++ "] \x7d"

/-- A line that is indented by four blanks for each level. -/
def lineAt (level : Nat) (text : String) : String :=
  String.ofList (List.replicate (4 * level) ' ') ++ text

/-- The field of a block around the lines of its sequence. An empty sequence has no lines. -/
def fieldLines (level : Nat) : List String → List String
  | [] => [lineAt level "instructions: [],"]
  | lines => lineAt level "instructions: [" :: (lines ++ [lineAt level "],"])

/-- The lines of a sequence whose instructions and loops stand at the given level. -/
def itemLines (level : Nat) : Program → List String
  | nil => []
  | instr i rest =>
    lineAt level "Simple(" :: lineAt (level + 1) (i.name ++ ",") :: lineAt level ")," ::
      rest.itemLines level
  | loop body rest =>
    lineAt level "Loop(" :: lineAt (level + 1) "BasicBlock \x7b" ::
      (fieldLines (level + 2) (body.itemLines (level + 3)) ++
        lineAt (level + 1) "\x7d," :: lineAt level ")," :: rest.itemLines level)

/-- The text of a program in indented lines, with a comma after each part. -/
def indented (p : Program) : String :=
  "\n".intercalate ("BasicBlock \x7b" :: (fieldLines 1 (p.itemLines 2) ++ ["\x7d"]))

end OokLang.Program
