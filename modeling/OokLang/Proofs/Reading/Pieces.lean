import OokLang.Program.Reader

namespace OokLang

/-- Whether an instruction may stand in a program that was read: it asks for no input, and it is not
    the mark of a loop. -/
def Instruction.IsPlain (i : Instruction) : Prop :=
  i ≠ .input ∧ i ≠ .loopStart ∧ i ≠ .loopEnd

namespace Program.Reader

/-- What a reader may come upon: a pair of markers, or fewer than two of them. -/
inductive Shows : Reader → Piece → Prop where
  | simple (i : Instruction) {rest : List Marker} {read limit : Nat} {openLoops : List Nat}
      (hplain : i.IsPlain) :
      Shows ⟨i.markers.1 :: i.markers.2 :: rest, read, openLoops, limit⟩
        (.simple i ⟨rest, read + 1, openLoops, limit⟩)
  | opening {rest : List Marker} {read limit : Nat} {openLoops : List Nat}
      (hlt : openLoops.length < limit) :
      Shows ⟨.bang :: .question :: rest, read, openLoops, limit⟩
        (.opening ⟨rest, read + 1, (read + 1) :: openLoops, limit⟩)
  | ending {rest : List Marker} {read number limit : Nat} {outer : List Nat} :
      Shows ⟨.question :: .bang :: rest, read, number :: outer, limit⟩
        (.ending ⟨rest, read + 1, outer, limit⟩)
  | finish {rest : List Marker} {read limit : Nat} (hrest : rest.length < 2) :
      Shows ⟨rest, read, [], limit⟩ (.ending ⟨rest, read, [], limit⟩)
  | meaningless {rest : List Marker} {read limit : Nat} {openLoops : List Nat} :
      Shows ⟨.question :: .question :: rest, read, openLoops, limit⟩
        (.fault (.meaningless (read + 1)) ⟨rest, read + 1, openLoops, limit⟩)
  | readsInput {rest : List Marker} {read limit : Nat} {openLoops : List Nat} :
      Shows ⟨.dot :: .bang :: rest, read, openLoops, limit⟩
        (.fault (.readsInput (read + 1)) ⟨rest, read + 1, openLoops, limit⟩)
  | tooDeep {rest : List Marker} {read limit : Nat} {openLoops : List Nat}
      (hle : limit ≤ openLoops.length) :
      Shows ⟨.bang :: .question :: rest, read, openLoops, limit⟩
        (.fault (.tooDeep (read + 1) limit) ⟨rest, read + 1, openLoops, limit⟩)
  | unmatchedEnd {rest : List Marker} {read limit : Nat} :
      Shows ⟨.question :: .bang :: rest, read, [], limit⟩
        (.fault (.unmatchedEnd (read + 1)) ⟨rest, read + 1, [], limit⟩)
  | unmatchedStart {rest : List Marker} {read number limit : Nat} {outer : List Nat}
      (hrest : rest.length < 2) :
      Shows ⟨rest, read, number :: outer, limit⟩
        (.fault (.unmatchedStart number) ⟨rest, read, number :: outer, limit⟩)

/-- Fewer than two markers end the block or leave a loop open. -/
theorem shows_piece_of_short {rest : List Marker} (read limit : Nat) (openLoops : List Nat)
    (hrest : rest.length < 2) :
    Shows ⟨rest, read, openLoops, limit⟩ (piece ⟨rest, read, openLoops, limit⟩) := by
  match rest, openLoops with
  | [], [] => exact .finish hrest
  | [], _ :: _ => exact .unmatchedStart hrest
  | [_], [] => exact .finish hrest
  | [_], _ :: _ => exact .unmatchedStart hrest

/-- The next piece is one of those that a reader may come upon. -/
theorem shows_piece (r : Reader) : r.Shows r.piece := by
  obtain ⟨rest, read, openLoops, limit⟩ := r
  match rest with
  | [] => exact shows_piece_of_short read limit openLoops (by simp)
  | [_] => exact shows_piece_of_short read limit openLoops (by simp)
  | .dot :: .question :: rest => exact .simple .moveRight ⟨nofun, nofun, nofun⟩
  | .question :: .dot :: rest => exact .simple .moveLeft ⟨nofun, nofun, nofun⟩
  | .dot :: .dot :: rest => exact .simple .increment ⟨nofun, nofun, nofun⟩
  | .bang :: .bang :: rest => exact .simple .decrement ⟨nofun, nofun, nofun⟩
  | .bang :: .dot :: rest => exact .simple .output ⟨nofun, nofun, nofun⟩
  | .dot :: .bang :: rest => exact .readsInput
  | .question :: .question :: rest => exact .meaningless
  | .bang :: .question :: rest =>
    by_cases hlt : openLoops.length < limit
    · have hpiece : piece ⟨.bang :: .question :: rest, read, openLoops, limit⟩ =
          .opening ⟨rest, read + 1, (read + 1) :: openLoops, limit⟩ := if_pos hlt
      rw [hpiece]
      exact .opening hlt
    · have hpiece : piece ⟨.bang :: .question :: rest, read, openLoops, limit⟩ =
          .fault (.tooDeep (read + 1) limit) ⟨rest, read + 1, openLoops, limit⟩ := if_neg hlt
      rw [hpiece]
      exact .tooDeep (by omega)
  | .question :: .bang :: rest =>
    cases openLoops with
    | nil => exact .unmatchedEnd
    | cons number outer => exact .ending

/-- A reader comes upon one piece only. -/
theorem Shows.piece_eq {r : Reader} {piece : Piece} (h : r.Shows piece) : r.piece = piece := by
  cases h with
  | simple i hplain =>
    obtain ⟨hinput, hstart, hend⟩ := hplain
    cases i <;> first | rfl | contradiction
  | opening hlt => exact if_pos hlt
  | ending => rfl
  | @finish rest read limit hrest =>
    match rest with
    | [] => rfl
    | [_] => rfl
  | meaningless => rfl
  | readsInput => rfl
  | tooDeep hle => exact if_neg (by simpa using hle)
  | unmatchedEnd => rfl
  | @unmatchedStart rest read number limit outer hrest =>
    match rest with
    | [] => rfl
    | [_] => rfl

/-- Reading instructions and whole loops, from one reader to the next. -/
inductive Reads : Reader → Program → Reader → Prop where
  | nil (r : Reader) : Reads r .nil r
  | instr {r r' r'' : Reader} {i : Instruction} {rest : Program}
      (hsimple : r.Shows (.simple i r')) (hrest : Reads r' rest r'') : Reads r (.instr i rest) r''
  | loop {r inside last after r' : Reader} {body rest : Program}
      (hopening : r.Shows (.opening inside)) (hbody : Reads inside body last)
      (hending : last.Shows (.ending after)) (hrest : Reads after rest r') :
      Reads r (.loop body rest) r'

/-- Reading up to an error, which may come up inside of loops. -/
inductive Stops : Reader → Error → Reader → Prop where
  | here {r r' : Reader} {e : Error} (hfault : r.Shows (.fault e r')) : Stops r e r'
  | instr {r r' r'' : Reader} {i : Instruction} {e : Error} (hsimple : r.Shows (.simple i r'))
      (hrest : Stops r' e r'') : Stops r e r''
  | inside {r inside r' : Reader} {e : Error} (hopening : r.Shows (.opening inside))
      (hbody : Stops inside e r') : Stops r e r'
  | loop {r inside last after r' : Reader} {body : Program} {e : Error}
      (hopening : r.Shows (.opening inside)) (hbody : Reads inside body last)
      (hending : last.Shows (.ending after)) (hrest : Stops after e r') : Stops r e r'

/-- What is read joins the block, of which the part that is done is kept backwards. -/
theorem Reads.blockAfter_eq {r r' : Reader} {p : Program} (h : r.Reads p r') (done : Program) :
    (r.blockAfter done).1 = (r'.blockAfter (p.reverseOnto done)).1 := by
  induction h generalizing done with
  | nil r => rfl
  | instr hsimple _ ih =>
    rw [Reader.blockAfter_eq, hsimple.piece_eq]
    exact ih (.instr _ done)
  | @loop r inside last after r' body rest hopening _ hending _ ihbody ihrest =>
    have hblock : inside.block = (.ok body, after) := by
      rw [block, ihbody, Reader.blockAfter_eq, hending.piece_eq]
      exact congrArg (fun p => (Except.ok p, after)) body.reverse_reverse
    rw [Reader.blockAfter_eq, hopening.piece_eq]
    simp only [hblock]
    exact ihrest (.loop body done)

/-- A block is read to its end, or up to an error. -/
theorem blockAfter_cases (done : Program) (r : Reader) :
    (∃ p last r', r.Reads p last ∧ last.Shows (.ending r') ∧
      (r.blockAfter done).1 = (.ok (done.reverse ++ p), r')) ∨
    ∃ e r', r.Stops e r' ∧ (r.blockAfter done).1 = (.error e, r') := by
  have hshows := r.shows_piece
  rw [blockAfter_eq]
  cases hpiece : r.piece with
  | simple i r' =>
    rw [hpiece] at hshows
    have hlt := rest_length_lt_of_simple hpiece
    rcases blockAfter_cases (.instr i done) r' with
      ⟨p, last, r'', hreads, hending, hblock⟩ | ⟨e, r'', hstops, hblock⟩
    · rw [reverse_instr, append_assoc] at hblock
      exact .inl ⟨.instr i p, last, r'', .instr hshows hreads, hending, hblock⟩
    · exact .inr ⟨e, r'', .instr hshows hstops, hblock⟩
  | opening inside =>
    rw [hpiece] at hshows
    have hlt := rest_length_lt_of_opening hpiece
    have hle := (inside.blockAfter .nil).2
    rcases blockAfter_cases .nil inside with
      ⟨body, last, after, hbody, hending, hblock⟩ | ⟨e, r', hstops, hblock⟩
    · rw [hblock] at hle
      have hlt : after.rest.length < r.rest.length := Nat.lt_of_le_of_lt hle hlt
      simp only [block, hblock]
      rcases blockAfter_cases (.loop body done) after with
        ⟨p, last', r', hreads, hending', hrest⟩ | ⟨e, r', hstops, hrest⟩
      · rw [reverse_loop, append_assoc] at hrest
        exact .inl ⟨.loop body p, last', r', .loop hshows hbody hending hreads, hending', hrest⟩
      · exact .inr ⟨e, r', .loop hshows hbody hending hstops, hrest⟩
    · simp only [block, hblock]
      exact .inr ⟨e, r', .inside hshows hstops, rfl⟩
  | ending r' =>
    rw [hpiece] at hshows
    exact .inl ⟨.nil, r, r', .nil r, hshows, by rw [append_nil]⟩
  | fault e r' =>
    rw [hpiece] at hshows
    exact .inr ⟨e, r', .here hshows, rfl⟩
termination_by r.rest.length

theorem block_cases (r : Reader) :
    (∃ p last r', r.Reads p last ∧ last.Shows (.ending r') ∧ r.block = (.ok p, r')) ∨
      ∃ e r', r.Stops e r' ∧ r.block = (.error e, r') :=
  blockAfter_cases .nil r

/-- A block is what is read up to its end. -/
theorem block_eq_ok_iff {r r' : Reader} {p : Program} :
    r.block = (.ok p, r') ↔ ∃ last, r.Reads p last ∧ last.Shows (.ending r') := by
  constructor
  · intro hblock
    rcases r.block_cases with ⟨q, last, r'', hreads, hending, hresult⟩ | ⟨e, r'', _, hresult⟩
    · rw [hblock] at hresult
      cases hresult
      exact ⟨last, hreads, hending⟩
    · rw [hblock] at hresult
      cases hresult
  · rintro ⟨last, hreads, hending⟩
    rw [block, hreads.blockAfter_eq, Reader.blockAfter_eq, hending.piece_eq]
    exact congrArg (fun p => (Except.ok p, r')) p.reverse_reverse

end Program.Reader

end OokLang
