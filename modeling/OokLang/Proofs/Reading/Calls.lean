import OokLang.Proofs.Calls
import OokLang.Proofs.Reading.StackMachine

namespace OokLang.Program

/-- The pair of markers with the given number opens a loop. Pairs are numbered from one. -/
def OpensLoop (markers : List Marker) (number : Nat) : Prop :=
  ∃ before rest, markers = before ++ .bang :: .question :: rest ∧ before.length + 2 = 2 * number

/-- The number of the pair that an error blames. The other errors are about the markers as a
    whole, or about their end. -/
def Error.pair? : Error → Option Nat
  | meaningless number | readsInput number | unmatchedEnd number | tooDeep number _ => some number
  | oddCount _ | unmatchedStart _ => none

namespace Reader

section Keeps

variable {r r' : Reader} {p : Program} {e : Error} {Keeps : Reader → Prop}
  (hshows : ∀ {r piece}, r.Shows piece → Keeps r → Keeps piece.after)

include hshows

theorem Reads.keeps (h : r.Reads p r') (hr : Keeps r) : Keeps r' := by
  induction h with
  | nil => exact hr
  | instr hsimple _ ih => exact ih (hshows hsimple hr)
  | loop hopening _ hending _ ihbody ihrest =>
    exact ihrest (hshows hending (ihbody (hshows hopening hr)))

theorem Stops.keeps (h : r.Stops e r') (hr : Keeps r) : Keeps r' := by
  induction h with
  | here hfault => exact hshows hfault hr
  | instr hsimple _ ih => exact ih (hshows hsimple hr)
  | inside hopening _ ih => exact ih (hshows hopening hr)
  | loop hopening hbody hending _ ih =>
    exact ih (hshows hending (hbody.keeps hshows (hshows hopening hr)))

/-- What every piece keeps, every call keeps. -/
theorem answer_keeps (call : Call) (hr : Keeps r) : Keeps (r.answer call).2 := by
  have hblock : Keeps r.block.2 := by
    rcases r.block_cases with ⟨p, last, r', hreads, hending, hresult⟩ | ⟨e, r', hstops, hresult⟩
    · rw [hresult]
      exact hshows hending (hreads.keeps hshows hr)
    · rw [hresult]
      exact hstops.keeps hshows hr
  cases call with
  | block => exact hblock
  | program =>
    rw [answer, program]
    split
    · exact hr
    · exact hblock

end Keeps

/-- No piece moves a reader back. -/
theorem Shows.read_le {r : Reader} {piece : Piece} (h : r.Shows piece) :
    r.read ≤ piece.after.read := by
  cases h with
  | finish | unmatchedStart => exact Nat.le_refl _
  | _ => exact Nat.le_succ _

theorem read_le_answer (r : Reader) (call : Call) : r.read ≤ (r.answer call).2.read :=
  answer_keeps (fun h hle => Nat.le_trans hle h.read_le) call (Nat.le_refl _)

/-- A reader has passed the front of some markers in pairs, and the loops that it is in were opened
    by some of these. Their numbers decrease from the innermost on. -/
structure Consistent (markers : List Marker) (limit : Nat) (r : Reader) : Prop where
  limit_eq : r.limit = limit
  passed : ∃ before, markers = before ++ r.rest ∧ before.length = 2 * r.read
  decreasing : r.openLoops.Pairwise (· > ·)
  opened : ∀ number ∈ r.openLoops, number ≤ r.read ∧ OpensLoop markers number
  room : r.openLoops.length ≤ limit

section Consistent

variable {markers rest : List Marker} {limit limit' read : Nat} {first second : Marker}
  {openLoops openLoops' : List Nat} {r : Reader}

theorem consistent_start (markers : List Marker) (limit : Nat) :
    Consistent markers limit { rest := markers, limit } where
  limit_eq := rfl
  passed := ⟨[], rfl, rfl⟩
  decreasing := .nil
  opened := nofun
  room := Nat.zero_le limit

theorem Consistent.pass
    (h : Consistent markers limit ⟨first :: second :: rest, read, openLoops, limit'⟩)
    (hloops : openLoops' <:+ openLoops) :
    Consistent markers limit ⟨rest, read + 1, openLoops', limit'⟩ where
  limit_eq := h.limit_eq
  passed := by
    obtain ⟨before, hmarkers, hlength⟩ := h.passed
    refine ⟨before ++ [first, second], ?_, ?_⟩
    · rw [hmarkers, List.append_assoc]
      rfl
    · rw [List.length_append, hlength]
      rfl
  decreasing := h.decreasing.sublist hloops.sublist
  opened := by
    intro number hnumber
    obtain ⟨hle, hopens⟩ := h.opened number (hloops.subset hnumber)
    exact ⟨Nat.le_succ_of_le hle, hopens⟩
  room := Nat.le_trans hloops.length_le h.room

theorem Consistent.push
    (h : Consistent markers limit ⟨.bang :: .question :: rest, read, openLoops, limit'⟩)
    (hlt : openLoops.length < limit') :
    Consistent markers limit ⟨rest, read + 1, (read + 1) :: openLoops, limit'⟩ := by
  have hpass : Consistent markers limit ⟨rest, read + 1, openLoops, limit'⟩ :=
    h.pass (List.suffix_refl openLoops)
  refine ⟨h.limit_eq, hpass.passed, ?_, ?_, ?_⟩
  · refine List.pairwise_cons.mpr ⟨fun number hnumber => ?_, h.decreasing⟩
    exact Nat.lt_succ_of_le (h.opened number hnumber).1
  · refine List.forall_mem_cons.mpr ⟨⟨Nat.le_refl _, ?_⟩, hpass.opened⟩
    obtain ⟨before, hmarkers, hlength⟩ := h.passed
    refine ⟨before, rest, hmarkers, ?_⟩
    rw [hlength]
    rfl
  · obtain rfl : limit' = limit := h.limit_eq
    exact hlt

/-- Each piece keeps a reader consistent. -/
theorem Consistent.after {piece : Piece} (hshows : r.Shows piece) (h : Consistent markers limit r) :
    Consistent markers limit piece.after := by
  cases hshows with
  | simple | meaningless | readsInput | tooDeep | unmatchedEnd =>
    exact h.pass (List.suffix_refl _)
  | opening hlt => exact h.push hlt
  | ending => exact h.pass (List.suffix_cons _ _)
  | finish | unmatchedStart => exact h

theorem consistent_afterCalls (markers : List Marker) (limit : Nat) (calls : List Call) :
    Consistent markers limit (afterCalls answer { rest := markers, limit } calls) :=
  afterCalls_keeps (fun _ call h => answer_keeps Consistent.after call h)
    (consistent_start markers limit) calls

theorem Consistent.drop_eq (h : Consistent markers limit r) :
    markers.drop (2 * r.read) = r.rest := by
  obtain ⟨before, rfl, hlength⟩ := h.passed
  exact List.drop_left' hlength

theorem Consistent.count_eq (h : Consistent markers limit r) : r.count = markers.length := by
  obtain ⟨before, rfl, hlength⟩ := h.passed
  rw [count, List.length_append, hlength]

/-- Every call has the reply of a stack machine in the same state. -/
theorem Consistent.answer_toStack (h : Consistent markers limit r) (call : Call) :
    StackMachine.answer markers limit r.toStack call =
      ((r.answer call).1, (r.answer call).2.toStack) := by
  have hscan := r.scan_toStack
  rw [h.limit_eq, ← h.drop_eq] at hscan
  cases call with
  | block => exact hscan
  | program =>
    rw [StackMachine.answer, answer, program, h.count_eq]
    split
    · rfl
    · exact hscan

/-- All calls have the replies that a stack machine has, and leave the reader in its state. -/
theorem replies_toStack (markers : List Marker) (limit : Nat) (calls : List Call) :
    replies answer { rest := markers, limit } calls =
        replies (StackMachine.answer markers limit) {} calls ∧
      (afterCalls answer { rest := markers, limit } calls).toStack =
        afterCalls (StackMachine.answer markers limit) {} calls := by
  have hcall (r : Reader) (s : StackMachine) (call : Call)
      (h : Consistent markers limit r ∧ r.toStack = s) :
      (r.answer call).1 = (StackMachine.answer markers limit s call).1 ∧
        Consistent markers limit (r.answer call).2 ∧
          (r.answer call).2.toStack = (StackMachine.answer markers limit s call).2 := by
    obtain ⟨hconsistent, rfl⟩ := h
    rw [hconsistent.answer_toStack]
    exact ⟨rfl, answer_keeps Consistent.after call hconsistent, rfl⟩
  obtain ⟨hreplies, _, hstack⟩ := replies_eq hcall ⟨consistent_start markers limit, rfl⟩ calls
  exact ⟨hreplies, hstack⟩

end Consistent

section Result

variable {r r' : Reader} {p : Program} {e : Error}

theorem Stops.read_eq (h : r.Stops e r') {number : Nat} (hnumber : e.pair? = some number) :
    r'.read = number := by
  induction h with
  | here hfault =>
    cases hfault with
    | unmatchedStart => cases hnumber
    | _ => exact Option.some.inj hnumber
  | instr _ _ ih | inside _ _ ih | loop _ _ _ _ ih => exact ih hnumber

theorem Stops.ne_oddCount (h : r.Stops e r') (count : Nat) : e ≠ .oddCount count := by
  induction h with
  | here hfault => cases hfault <;> exact Error.noConfusion
  | instr _ _ ih | inside _ _ ih | loop _ _ _ _ ih => exact ih

/-- A call fails where reading stops, or before anything is read. -/
theorem stops_of_answer {call : Call} (herror : r.answer call = (.error e, r')) :
    r.Stops e r' ∨
      call = .program ∧ r.count % 2 = 1 ∧ e = .oddCount r.count ∧ r' = r := by
  have hblock (herror : r.block = (.error e, r')) : r.Stops e r' := by
    rcases r.block_cases with ⟨p, last, r'', _, _, hresult⟩ | ⟨e', r'', hstops, hresult⟩
    · cases hresult.symm.trans herror
    · cases hresult.symm.trans herror
      exact hstops
  cases call with
  | block => exact .inl (hblock herror)
  | program =>
    rw [answer, program] at herror
    split at herror
    · rename_i hodd
      cases herror
      exact .inr ⟨rfl, hodd, rfl, rfl⟩
    · exact .inl (hblock herror)

/-- An error that blames a pair comes up right after it. -/
theorem read_of_answer_error {call : Call} (herror : r.answer call = (.error e, r')) {number : Nat}
    (hnumber : e.pair? = some number) : r'.read = number := by
  rcases stops_of_answer herror with hstops | ⟨_, _, rfl, _⟩
  · exact hstops.read_eq hnumber
  · cases hnumber

/-- What a reader passes that reads a block: its markers, and then either the mark that closes the
    loop it is in or, if it is in none, no more pair. -/
inductive Passes (r : Reader) (p : Program) : Reader → Prop where
  | closing {number : Nat} {outer : List Nat} {rest : List Marker}
      (hopen : r.openLoops = number :: outer)
      (hrest : r.rest = p.markers ++ .question :: .bang :: rest) :
      Passes r p ⟨rest, r.read + p.instructions.length + 1, outer, r.limit⟩
  | finish {rest : List Marker} (hopen : r.openLoops = []) (hrest : r.rest = p.markers ++ rest)
      (hshort : rest.length < 2) :
      Passes r p ⟨rest, r.read + p.instructions.length, [], r.limit⟩

/-- A call for a block succeeds exactly if such a block comes next. -/
theorem block_eq_ok_iff_passes (hroom : r.openLoops.length ≤ r.limit) :
    r.block = (.ok p, r') ↔
      p.IsPlain ∧ p.nesting + r.openLoops.length ≤ r.limit ∧ r.Passes p r' := by
  obtain ⟨text, read, openLoops, limit⟩ := r
  rw [block_eq_ok_iff]
  constructor
  · rintro ⟨last, hreads, hending⟩
    obtain ⟨hplain, hnesting, rest, hrest, rfl⟩ := hreads.markers
    change p.nesting ≤ limit - openLoops.length at hnesting
    change openLoops.length ≤ limit at hroom
    refine ⟨hplain, ?_, ?_⟩
    · change p.nesting + openLoops.length ≤ limit
      omega
    · cases hending with
      | ending => exact .closing rfl hrest
      | finish hshort => exact .finish rfl hrest hshort
  · rintro ⟨hplain, hnesting, hpasses⟩
    have hdeep : p.nesting ≤ limit - openLoops.length := Nat.le_sub_of_add_le hnesting
    cases hpasses with
    | closing hopen hrest =>
      subst hopen hrest
      exact ⟨_, reads_markers p read limit _ _ hplain hdeep, .ending⟩
    | finish hopen hrest hshort =>
      subst hopen hrest
      exact ⟨_, reads_markers p read limit _ _ hplain hdeep, .finish hshort⟩

theorem Consistent.answer_eq_ok_iff {markers : List Marker} {limit : Nat}
    (h : Consistent markers limit r) (call : Call) :
    r.answer call = (.ok p, r') ↔
      (call = .program → markers.length % 2 = 0) ∧
        p.IsPlain ∧ p.nesting + r.openLoops.length ≤ limit ∧ r.Passes p r' := by
  obtain rfl := h.limit_eq
  rw [← block_eq_ok_iff_passes h.room]
  cases call with
  | block =>
    refine ⟨fun hblock => ⟨fun hprogram => ?_, hblock⟩, fun hblock => hblock.2⟩
    cases hprogram
  | program =>
    rw [answer, program, h.count_eq]
    rcases Nat.mod_two_eq_zero_or_one markers.length with heven | hodd
    · rw [if_neg (by omega)]
      exact ⟨fun hblock => ⟨fun _ => heven, hblock⟩, fun hblock => hblock.2⟩
    · rw [if_pos hodd]
      constructor
      · intro herror
        cases herror
      · intro hblock
        have heven := hblock.1 rfl
        omega

theorem Consistent.answer_eq_oddCount_iff {markers : List Marker} {limit : Nat}
    (h : Consistent markers limit r) (call : Call) (count : Nat) :
    r.answer call = (.error (.oddCount count), r') ↔
      call = .program ∧ markers.length % 2 = 1 ∧ count = markers.length ∧ r' = r := by
  rw [← h.count_eq]
  constructor
  · intro herror
    rcases stops_of_answer herror with hstops | ⟨hcall, hodd, hcount, hsame⟩
    · exact absurd rfl (hstops.ne_oddCount count)
    · exact ⟨hcall, hodd, Error.oddCount.inj hcount, hsame⟩
  · rintro ⟨rfl, hodd, rfl, rfl⟩
    exact if_pos hodd

/-- A reader replies to calls as a stack machine does that goes over the markers once, whatever went
    wrong before. It stays consistent and never goes back. An error about a pair leaves it right
    after that pair, and one about the number of markers leaves it as it is. A call is answered with
    a block exactly if the markers of such a block come next, and after them the mark that closes
    the innermost open loop, even if an earlier call left it open, or the end if no loop is open. -/
theorem calls_eq_stackMachine (markers : List Marker) (limit : Nat) (calls : List Call) :
    let start : Reader := { rest := markers, limit }
    let r := afterCalls answer start calls
    (replies answer start calls = replies (StackMachine.answer markers limit) {} calls ∧
      r.toStack = afterCalls (StackMachine.answer markers limit) {} calls) ∧
    Consistent markers limit r ∧
    ∀ call, r.read ≤ (r.answer call).2.read ∧
      (∀ e number r', r.answer call = (.error e, r') → e.pair? = some number → r'.read = number) ∧
      (∀ count r', r.answer call = (.error (.oddCount count), r') ↔
        call = .program ∧ markers.length % 2 = 1 ∧ count = markers.length ∧ r' = r) ∧
      ∀ p r', r.answer call = (.ok p, r') ↔
        (call = .program → markers.length % 2 = 0) ∧
          p.IsPlain ∧ p.nesting + r.openLoops.length ≤ limit ∧ r.Passes p r' := by
  intro start r
  have hconsistent : Consistent markers limit r := consistent_afterCalls markers limit calls
  refine ⟨replies_toStack markers limit calls, hconsistent, fun call => ?_⟩
  refine ⟨r.read_le_answer call, ?_, ?_, ?_⟩
  · intro e number r' herror hnumber
    exact read_of_answer_error herror hnumber
  · intro count r'
    exact hconsistent.answer_eq_oddCount_iff call count
  · intro p r'
    exact hconsistent.answer_eq_ok_iff call

end Result

/-- After an error a call goes on inside of the loop that the error came up in. -/
example :
    let markers : List Marker :=
      [.bang, .question, .question, .question, .dot, .dot, .question, .bang]
    replies answer { rest := markers } [.block, .block, .program] =
      [.error (.meaningless 2), .ok (.instr .increment .nil), .ok .nil] := by
  cbv

end Reader

end OokLang.Program
