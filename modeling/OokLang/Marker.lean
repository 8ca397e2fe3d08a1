namespace OokLang

/-- A marker is the sign that ends a token, and the only information the token carries. -/
inductive Marker where
  | bang
  | question
  | dot
  deriving DecidableEq, Repr

namespace Marker

/-- The letters that open every token. -/
def stem : String := "Ook"

/-- The sign that a marker is written with. -/
def glyph : Marker → Char
  | bang => '!'
  | question => '?'
  | dot => '.'

/-- The marker of a sign. -/
def ofGlyph? : Char → Option Marker
  | '!' => some bang
  | '?' => some question
  | '.' => some dot
  | _ => none

/-- The whole token of a marker, such as `Ook!`. -/
def token (m : Marker) : String :=
  stem ++ m.glyph.toString

/-- The tokens of a list of markers, one blank between neighbours. -/
def tokens (markers : List Marker) : String :=
  " ".intercalate (markers.map token)

/-- The letters of a token, which end in its marker. -/
theorem token_toList (m : Marker) : m.token.toList = ['O', 'o', 'k', m.glyph] := by
  cases m <;> decide

@[simp] theorem ofGlyph?_glyph (m : Marker) : ofGlyph? m.glyph = some m := by
  cases m <;> rfl

/-- Each marker has one sign, and no other character is read as it. -/
theorem ofGlyph?_eq_some_iff {c : Char} {m : Marker} : ofGlyph? c = some m ↔ c = m.glyph := by
  constructor
  · intro h
    unfold ofGlyph? at h
    split at h <;> cases h <;> rfl
  · rintro rfl
    exact ofGlyph?_glyph m

end Marker

end OokLang
