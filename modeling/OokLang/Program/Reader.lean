import OokLang.Program.Basic
import OokLang.Program.Error

namespace OokLang.Program

/-- Loops may be nested this deep if nothing else is asked for. -/
def defaultLimit : Nat := 1024

/-- A list of markers that is being read: what is left of it, how many pairs were read before, the
    numbers of the loops that are open, of which the innermost comes first, and how many may be
    open at once. -/
structure Reader where
  rest : List Marker
  read : Nat := 0
  openLoops : List Nat := []
  limit : Nat := defaultLimit
  deriving DecidableEq, Repr

namespace Reader

/-- The number of markers in the whole list. -/
def count (r : Reader) : Nat :=
  2 * r.read + r.rest.length

/-- What comes next in a block, with the reader after it. -/
inductive Piece where
  /-- An instruction that belongs to the block. -/
  | simple (i : Instruction) (after : Reader)
  /-- The opening mark of a loop, which is now open. -/
  | opening (after : Reader)
  /-- The end of the block. -/
  | ending (after : Reader)
  /-- An error. -/
  | fault (e : Error) (after : Reader)

/-- The reader of what follows a piece. -/
def Piece.after : Piece → Reader
  | simple _ r | opening r | ending r | fault _ r => r

/-- Reads the next pair of markers. An open loop ends the block with its closing mark, and the
    markers end it if no loop is open. A last marker without a partner is left alone. -/
def piece (r : Reader) : Piece :=
  match r.rest with
  | first :: second :: rest =>
    let number := r.read + 1
    let r' : Reader := { r with rest, read := number }
    match Instruction.ofMarkers? first second with
    | none => .fault (.meaningless number) r'
    | some .input => .fault (.readsInput number) r'
    | some .loopStart =>
      if r.openLoops.length < r.limit then
        .opening { r' with openLoops := number :: r.openLoops }
      else .fault (.tooDeep number r.limit) r'
    | some .loopEnd =>
      match r.openLoops with
      | [] => .fault (.unmatchedEnd number) r'
      | _ :: outer => .ending { r' with openLoops := outer }
    | some i => .simple i r'
  | _ =>
    match r.openLoops with
    | [] => .ending r
    | number :: _ => .fault (.unmatchedStart number) r

theorem piece_after_rest_length_le (r : Reader) : r.piece.after.rest.length ≤ r.rest.length := by
  unfold piece
  grind [Piece.after]

theorem rest_length_lt_of_simple {r r' : Reader} {i : Instruction}
    (hpiece : r.piece = .simple i r') : r'.rest.length < r.rest.length := by
  unfold piece at hpiece
  grind

theorem rest_length_lt_of_opening {r r' : Reader} (hpiece : r.piece = .opening r') :
    r'.rest.length < r.rest.length := by
  unfold piece at hpiece
  grind

/-- Reads to the end of a block, whose instructions so far are given backwards. An error leaves the
    loops open that it came up in, so that a later call goes on inside of them. -/
def blockAfter (done : Program) (r : Reader) :
    { out : Except Error Program × Reader // out.2.rest.length ≤ r.rest.length } :=
  match hpiece : r.piece with
  | .simple i r' =>
    have hlt := rest_length_lt_of_simple hpiece
    let out := blockAfter (.instr i done) r'
    ⟨out.1, by omega⟩
  | .opening r' =>
    have hlt := rest_length_lt_of_opening hpiece
    match blockAfter .nil r' with
    | ⟨(.ok body, r''), hbody⟩ =>
      have hbody : r''.rest.length ≤ r'.rest.length := hbody
      let out := blockAfter (.loop body done) r''
      ⟨out.1, by omega⟩
    | ⟨(.error e, r''), hbody⟩ => ⟨(.error e, r''), by omega⟩
  | .ending r' => ⟨(.ok done.reverse, r'), by grind [piece_after_rest_length_le, Piece.after]⟩
  | .fault e r' => ⟨(.error e, r'), by grind [piece_after_rest_length_le, Piece.after]⟩
termination_by r.rest.length

/-- Reads to the end of the block that the reader is in. -/
def block (r : Reader) : Except Error Program × Reader :=
  (r.blockAfter .nil).1

/-- How a block goes on is settled by its next piece. -/
theorem blockAfter_eq (done : Program) (r : Reader) :
    (r.blockAfter done).1 =
      match r.piece with
      | .simple i r' => (r'.blockAfter (.instr i done)).1
      | .opening r' =>
        match r'.block with
        | (.ok body, r'') => (r''.blockAfter (.loop body done)).1
        | (.error e, r'') => (.error e, r'')
      | .ending r' => (.ok done.reverse, r')
      | .fault e r' => (.error e, r') := by
  rw [blockAfter]
  split <;> rename_i hpiece <;> simp only [hpiece]
  unfold block
  split <;> rename_i hblock <;> simp only [hblock]

/-- Reads a whole program. The markers have to come in pairs; if they do not, none is read. -/
def program (r : Reader) : Except Error Program × Reader :=
  if r.count % 2 = 1 then (.error (.oddCount r.count), r) else r.block

end Reader

/-- The program that a list of markers spells, with at most `limit` loops nested in one another. -/
def ofMarkers (markers : List Marker) (limit : Nat := defaultLimit) : Except Error Program :=
  (Reader.program { rest := markers, limit }).1

theorem ofMarkers_of_odd {markers : List Marker} (limit : Nat) (hodd : markers.length % 2 = 1) :
    ofMarkers markers limit = .error (.oddCount markers.length) := by
  simp [ofMarkers, Reader.program, Reader.count, hodd]

theorem ofMarkers_of_even {markers : List Marker} (limit : Nat) (heven : markers.length % 2 = 0) :
    ofMarkers markers limit = (Reader.block { rest := markers, limit }).1 := by
  simp [ofMarkers, Reader.program, Reader.count, heven]

end OokLang.Program
