import OokLang.Marker
import OokLang.Source.Error

namespace OokLang.Source

/-- A text that is being read: what is left of it, and the place where that begins. -/
structure Reader where
  position : Position
  rest : List Char
  deriving DecidableEq, Repr

namespace Reader

/-- A reader at the start of a text. -/
def ofString (text : String) : Reader :=
  { position := .start, rest := text.toList }

/-- What the reader is in the middle of, with the place where that began. -/
inductive Mode where
  /-- Between tokens. -/
  | gap
  /-- After a slash, which only a star may follow. -/
  | slash (place : Position)
  /-- Inside a comment. The flag is set right after a star that may close it. -/
  | comment (opened : Position) (star : Bool)
  /-- Inside a token, with the letters that are still to come before its marker. -/
  | token (start : Position) (letters : List Char)

/-- Reads on to the next marker. At the end of the text there is none. An error has consumed the
    text up to and including the character that it blames, but a slash without its star is blamed
    before the next character is consumed, and a comment or a token that is cut off has consumed
    all of the text. -/
def scan : Mode → Position → List Char → Except Error (Option Marker) × Reader
  | .gap, p, [] => (.ok none, ⟨p, []⟩)
  | .gap, p, c :: rest =>
    if Text.isBlank c then scan .gap (p.advance c) rest
    else if c = '/' then scan (.slash p) (p.advance c) rest
    else if c = 'O' then scan (.token p ['o', 'k']) (p.advance c) rest
    else (.error (.unexpected c p), ⟨p.advance c, rest⟩)
  | .slash place, p, [] => (.error (.unexpected '/' place), ⟨p, []⟩)
  | .slash place, p, c :: rest =>
    if c = '*' then scan (.comment place false) (p.advance c) rest
    else (.error (.unexpected '/' place), ⟨p, c :: rest⟩)
  | .comment opened _, p, [] => (.error (.unclosedComment opened), ⟨p, []⟩)
  | .comment opened star, p, c :: rest =>
    if star && c = '/' then scan .gap (p.advance c) rest
    else scan (.comment opened (c = '*')) (p.advance c) rest
  | .token start _, p, [] => (.error (.unexpected 'O' start), ⟨p, []⟩)
  | .token start (letter :: letters), p, c :: rest =>
    if c = letter then scan (.token start letters) (p.advance c) rest
    else (.error (.unexpected c p), ⟨p.advance c, rest⟩)
  | .token _ [], p, c :: rest =>
    match Marker.ofGlyph? c with
    | some marker => (.ok (some marker), ⟨p.advance c, rest⟩)
    | none => (.error (.unexpected c p), ⟨p.advance c, rest⟩)

section Scan

variable (place p : Position) (c : Char) (rest : List Char)

theorem scan_gap_cons :
    scan .gap p (c :: rest) =
      if Text.isBlank c then scan .gap (p.advance c) rest
      else if c = '/' then scan (.slash p) (p.advance c) rest
      else if c = 'O' then scan (.token p ['o', 'k']) (p.advance c) rest
      else (.error (.unexpected c p), ⟨p.advance c, rest⟩) := rfl

theorem scan_slash_cons :
    scan (.slash place) p (c :: rest) =
      if c = '*' then scan (.comment place false) (p.advance c) rest
      else (.error (.unexpected '/' place), ⟨p, c :: rest⟩) := rfl

theorem scan_comment_cons (star : Bool) :
    scan (.comment place star) p (c :: rest) =
      if star && c = '/' then scan .gap (p.advance c) rest
      else scan (.comment place (c = '*')) (p.advance c) rest := rfl

theorem scan_token_cons (letter : Char) (letters : List Char) :
    scan (.token place (letter :: letters)) p (c :: rest) =
      if c = letter then scan (.token place letters) (p.advance c) rest
      else (.error (.unexpected c p), ⟨p.advance c, rest⟩) := rfl

theorem scan_glyph_cons :
    scan (.token place []) p (c :: rest) =
      match Marker.ofGlyph? c with
      | some marker => (.ok (some marker), ⟨p.advance c, rest⟩)
      | none => (.error (.unexpected c p), ⟨p.advance c, rest⟩) := rfl

end Scan

/-- Reads the next marker, if there is one. After an error the reader can go on from where it
    stopped. -/
def next (r : Reader) : Except Error (Option Marker) × Reader :=
  scan .gap r.position r.rest

/-- A marker is never read from nothing. -/
theorem scan_rest_length_lt {mode : Mode} {p : Position} {text : List Char} {marker : Marker}
    (hmarker : (scan mode p text).1 = .ok (some marker)) :
    (scan mode p text).2.rest.length < text.length := by
  fun_induction scan mode p text <;> grind

/-- Reading a marker leaves less of the text. -/
theorem next_rest_length_lt {r : Reader} {marker : Marker}
    (hmarker : r.next.1 = .ok (some marker)) : r.next.2.rest.length < r.rest.length :=
  scan_rest_length_lt hmarker

/-- Reads markers to the end of the text, after the given ones, of which the last comes first. The
    first error ends the reading. -/
def collectAfter (done : List Marker) (r : Reader) : Except Error (List Marker) × Reader :=
  match _hnext : r.next with
  | (.ok (some marker), r') => collectAfter (marker :: done) r'
  | (.ok none, r') => (.ok done.reverse, r')
  | (.error e, r') => (.error e, r')
termination_by r.rest.length
decreasing_by
  have hlt : r.next.2.rest.length < r.rest.length := next_rest_length_lt (by rw [_hnext])
  rwa [_hnext] at hlt

/-- Reads all the markers that are left. An error loses those read before it in the same call. -/
def collect (r : Reader) : Except Error (List Marker) × Reader :=
  collectAfter [] r

end Reader

/-- The markers of a text. -/
def markers (text : String) : Except Error (List Marker) :=
  (Reader.ofString text).collect.1

end OokLang.Source
