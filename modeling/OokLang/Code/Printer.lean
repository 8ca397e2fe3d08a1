import OokLang.Code.Basic

namespace OokLang

/-- The text of an operation. -/
def Op.text : Op → String
  | shift distance => s!"Shift({distance})"
  | add amount => s!"DerefAdd({amount.toNat})"
  | sub amount => s!"DerefSub({amount.toNat})"
  | write count => s!"Write({count})"
  | read => "Read"
  | undefined i => s!"Undefined({i.name})"
  | skipIfZero distance => s!"JumpForwardsIfZero({distance})"
  | backUnlessZero distance => s!"JumpBackwardsIfNonZero({distance})"

/-- The text of code, in one line. -/
def Code.text (code : Code) : String :=
  "[" ++ ", ".intercalate (code.toList.map Op.text) ++ "]"

end OokLang
