import OokLang.Proofs.Reading.RoundTrip

namespace OokLang.Program

namespace Reader

/-- What can be asked of a reader: the block that it is in, or a whole program. -/
inductive Call where
  | block
  | program
  deriving DecidableEq, Repr

/-- A reader's reply to a call, and the reader after it, which goes on from where the call left
    off. -/
def answer (r : Reader) : Call → Except Error Program × Reader
  | .block => r.block
  | .program => r.program

end Reader

/-- A machine that reads a list of markers in pairs. Between calls it has an index into the list and
    a stack with the numbers of the loops that are open, the innermost on top. -/
structure StackMachine where
  cursor : Nat := 0
  openLoops : List Nat := []
  deriving DecidableEq, Repr

namespace StackMachine

/-- Goes over the markers from the cursor on, once and from left to right. The block that a pair
    would join is at hand. The blocks around it that were begun by the same call are on a stack. The
    mark that closes a loop ends the call if there are none. -/
def scan (limit : Nat) :
    List Marker → StackMachine → Program → List Program → Except Error Program × StackMachine
  | first :: second :: rest, s, block, around =>
    let s' := { s with cursor := s.cursor + 2 }
    let number := s'.cursor / 2
    match Instruction.ofMarkers? first second with
    | none => (.error (.meaningless number), s')
    | some .input => (.error (.readsInput number), s')
    | some .loopStart =>
      if limit ≤ s.openLoops.length then (.error (.tooDeep number limit), s')
      else scan limit rest { s' with openLoops := number :: s.openLoops } .nil (block :: around)
    | some .loopEnd =>
      match s.openLoops, around with
      | [], _ => (.error (.unmatchedEnd number), s')
      | _ :: outer, [] => (.ok block, { s' with openLoops := outer })
      | _ :: outer, before :: around =>
        scan limit rest { s' with openLoops := outer } (before ++ .loop block .nil) around
    | some i => scan limit rest s' (block ++ .instr i .nil) around
  | _, s, block, _ =>
    match s.openLoops with
    | [] => (.ok block, s)
    | number :: _ => (.error (.unmatchedStart number), s)

/-- A machine's reply to a call, and the machine after it. -/
def answer (markers : List Marker) (limit : Nat) (s : StackMachine) :
    Reader.Call → Except Error Program × StackMachine
  | .block => scan limit (markers.drop s.cursor) s .nil []
  | .program =>
    if markers.length % 2 = 1 then (.error (.oddCount markers.length), s)
    else scan limit (markers.drop s.cursor) s .nil []

end StackMachine

namespace Reader

/-- What a stack machine keeps of a reader. -/
def toStack (r : Reader) : StackMachine :=
  { cursor := 2 * r.read, openLoops := r.openLoops }

section Scan

open StackMachine

variable {r r' : Reader} {p : Program} {e : Error} {i : Instruction}

theorem pair_number (read : Nat) : (2 * read + 2) / 2 = read + 1 := by omega

theorem Shows.scan_simple (h : r.Shows (.simple i r')) (block : Program) (around : List Program) :
    scan r.limit r.rest r.toStack block around =
      scan r'.limit r'.rest r'.toStack (block ++ .instr i .nil) around := by
  cases h with
  | simple i hplain =>
    obtain ⟨hinput, hstart, hend⟩ := hplain
    cases i <;> first | rfl | contradiction

theorem Shows.scan_opening (h : r.Shows (.opening r')) (block : Program) (around : List Program) :
    scan r.limit r.rest r.toStack block around =
      scan r'.limit r'.rest r'.toStack .nil (block :: around) := by
  cases h with
  | @opening rest read limit openLoops hlt =>
    change (if limit ≤ openLoops.length then _ else
      scan limit rest ⟨2 * read + 2, (2 * read + 2) / 2 :: openLoops⟩ .nil (block :: around)) = _
    rw [if_neg (Nat.not_le.mpr hlt), pair_number]
    rfl

theorem Shows.scan_ending (h : r.Shows (.ending r')) (block : Program) :
    scan r.limit r.rest r.toStack block [] = (.ok block, r'.toStack) := by
  cases h with
  | ending => rfl
  | @finish rest read limit hrest =>
    match rest with
    | [] => rfl
    | [_] => rfl

theorem Shows.scan_closing (h : r.Shows (.ending r')) (hopen : r.openLoops ≠ [])
    (block before : Program) (around : List Program) :
    scan r.limit r.rest r.toStack block (before :: around) =
      scan r'.limit r'.rest r'.toStack (before ++ .loop block .nil) around := by
  cases h with
  | ending => rfl
  | finish => contradiction

/-- The machine numbers pairs by the cursor after them. -/
theorem fault_toStack (error : Nat → Error) (read : Nat) (openLoops : List Nat) :
    ((.error (error ((2 * read + 2) / 2)), ⟨2 * read + 2, openLoops⟩) :
      Except Error Program × StackMachine) =
        (.error (error (read + 1)), ⟨2 * (read + 1), openLoops⟩) := by
  rw [pair_number, Nat.mul_succ]

theorem Shows.scan_fault (h : r.Shows (.fault e r')) (block : Program) (around : List Program) :
    scan r.limit r.rest r.toStack block around = (.error e, r'.toStack) := by
  cases h with
  | meaningless => exact fault_toStack .meaningless _ _
  | readsInput => exact fault_toStack .readsInput _ _
  | @tooDeep rest read limit openLoops hle =>
    exact (if_pos hle).trans (fault_toStack (.tooDeep · limit) _ _)
  | unmatchedEnd =>
    cases around with
    | nil => exact fault_toStack .unmatchedEnd _ _
    | cons => exact fault_toStack .unmatchedEnd _ _
  | @unmatchedStart rest read number limit outer hrest =>
    match rest with
    | [] => rfl
    | [_] => rfl

/-- Inside of a loop that was just opened, some loop is open. -/
theorem Shows.openLoops_ne_nil {inside last : Reader} (h : r.Shows (.opening inside))
    (hreads : inside.Reads p last) : last.openLoops ≠ [] := by
  obtain ⟨_, _, _, _, rfl⟩ := hreads.markers
  cases h with
  | opening => exact List.cons_ne_nil _ _

/-- What is read joins the block at hand. -/
theorem Reads.scan_eq (h : r.Reads p r') (block : Program) (around : List Program) :
    scan r.limit r.rest r.toStack block around =
      scan r'.limit r'.rest r'.toStack (block ++ p) around := by
  induction h generalizing block around with
  | nil => rw [append_nil]
  | instr hsimple _ ih =>
    rw [hsimple.scan_simple, ih, append_assoc]
    rfl
  | @loop r inside last after r' body rest hopening hbody hending _ ihbody ihrest =>
    have hopen := hopening.openLoops_ne_nil hbody
    rw [hopening.scan_opening, ihbody, hending.scan_closing hopen, ihrest, append_assoc]
    rfl

/-- An error ends the call at once, however many blocks are unfinished. -/
theorem Stops.scan_eq (h : r.Stops e r') (block : Program) (around : List Program) :
    scan r.limit r.rest r.toStack block around = (.error e, r'.toStack) := by
  induction h generalizing block around with
  | here hfault => exact hfault.scan_fault block around
  | instr hsimple _ ih => rw [hsimple.scan_simple, ih]
  | inside hopening _ ih => rw [hopening.scan_opening, ih]
  | @loop r inside last after r' body e hopening hbody hending _ ih =>
    have hopen := hopening.openLoops_ne_nil hbody
    rw [hopening.scan_opening, hbody.scan_eq, hending.scan_closing hopen, ih]

theorem scan_toStack (r : Reader) :
    scan r.limit r.rest r.toStack .nil [] = (r.block.1, r.block.2.toStack) := by
  rcases r.block_cases with ⟨p, last, r', hreads, hending, hblock⟩ | ⟨e, r', hstops, hblock⟩
  · rw [hreads.scan_eq, nil_append, hending.scan_ending, hblock]
  · rw [hstops.scan_eq, hblock]

end Scan

end Reader

end OokLang.Program
