import OokLang.Text.Graphic

namespace OokLang.Text

/-- The number of a code point in lower-case hexadecimal, without leading zeros. -/
def hexadecimal (n : Nat) : String :=
  String.ofList (Nat.toDigits 16 n)

/-- What stands for a character between single quotes. The quote and the backslash are escaped,
    four controls have a letter of their own, and any other character that would not show is
    written by its number. -/
def escaped (c : Char) : String :=
  match c with
  | '\x00' => "\\0"
  | '\t' => "\\t"
  | '\n' => "\\n"
  | '\r' => "\\r"
  | '\'' => "\\'"
  | '\\' => "\\\\"
  | c => if isGraphic c then c.toString else "\\u\x7b" ++ hexadecimal c.toNat ++ "\x7d"

/-- A character between single quotes, as messages show it. -/
def quoted (c : Char) : String :=
  "'" ++ escaped c ++ "'"

end OokLang.Text
