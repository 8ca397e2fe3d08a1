import OokLang.Source.Position
import OokLang.Text.Quoted

namespace OokLang.Source

/-- Why a text is no sequence of tokens, blanks and comments. -/
inductive Error where
  /-- A comment, opened at the given place, runs to the end of the text. -/
  | unclosedComment (opened : Position)
  /-- A character cannot stand at the given place. The first letter of a token that the end of the
      text cuts off counts as such a character. -/
  | unexpected (found : Char) (place : Position)
  deriving DecidableEq, Repr

/-- The wording of an error. Characters are numbered from one. -/
def Error.message : Error → String
  | unclosedComment opened =>
    s!"Comment opened at {opened.line}:{opened.column} is never closed"
  | unexpected found place =>
    s!"Invalid token: unexpected {Text.quoted found} at position {place.offset + 1} " ++
      s!"({place.line}:{place.column})"

end OokLang.Source
