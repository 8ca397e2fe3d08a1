import OokLang.Proofs.Calls
import OokLang.Proofs.Source.Grammar

namespace OokLang.Source

/-- A text is made of items up to a token that its end cuts off. -/
def CutOff (text : List Char) : Prop :=
  ∃ items letters, text = Item.spell items ++ letters ∧ letters <+: Marker.stem.toList ∧
    letters ≠ []

namespace Reader

/-- What can be asked of a reader: the next marker, or all that are left. -/
inductive Call where
  | next
  | collect
  deriving DecidableEq, Repr

inductive Reply where
  | marker (m : Marker)
  /-- There is no marker any more. -/
  | nothing
  | markers (ms : List Marker)
  | error (e : Error)
  deriving DecidableEq, Repr

/-- A reader's reply to a call, and the reader after it, which goes on from where the call left
    off. -/
def answer (r : Reader) : Call → Reply × Reader
  | .next =>
    match r.next with
    | (.ok (some m), r') => (.marker m, r')
    | (.ok none, r') => (.nothing, r')
    | (.error e, r') => (.error e, r')
  | .collect =>
    match r.collect with
    | (.ok ms, r') => (.markers ms, r')
    | (.error e, r') => (.error e, r')

/-- The reply to a call that finds nothing any more. -/
def Call.emptyReply : Call → Reply
  | next => .nothing
  | collect => .markers []

section Answer

variable {r r' : Reader} {m : Marker} {ms : List Marker} {e : Error}

theorem answer_next_snd (r : Reader) : (r.answer .next).2 = r.next.2 := by
  rw [answer]
  split <;> rename_i hnext <;> rw [hnext]

theorem answer_collect_snd (r : Reader) : (r.answer .collect).2 = r.collect.2 := by
  rw [answer]
  split <;> rename_i hcollect <;> rw [hcollect]

theorem answer_next_marker (hnext : r.next = (.ok (some m), r')) :
    r.answer .next = (.marker m, r') := by
  rw [answer, hnext]

theorem answer_next_nothing (hnext : r.next = (.ok none, r')) :
    r.answer .next = (.nothing, r') := by
  rw [answer, hnext]

theorem answer_next_error (hnext : r.next = (.error e, r')) :
    r.answer .next = (.error e, r') := by
  rw [answer, hnext]

theorem answer_collect_markers (hcollect : r.collect = (.ok ms, r')) :
    r.answer .collect = (.markers ms, r') := by
  rw [answer, hcollect]

theorem answer_collect_error (hcollect : r.collect = (.error e, r')) :
    r.answer .collect = (.error e, r') := by
  rw [answer, hcollect]

end Answer

/-- A reader has passed a piece of text and counted each of its characters. -/
def Passes (r : Reader) (passed : List Char) (r' : Reader) : Prop :=
  r.rest = passed ++ r'.rest ∧ r'.position = r.position.advanceAll passed

theorem Passes.refl (r : Reader) : r.Passes [] r := ⟨rfl, rfl⟩

theorem Passes.one (p : Position) (c : Char) (rest : List Char) :
    Passes ⟨p, c :: rest⟩ [c] ⟨p.advance c, rest⟩ := ⟨rfl, rfl⟩

theorem Passes.trans {r r' r'' : Reader} {first second : List Char} (h : r.Passes first r')
    (h' : r'.Passes second r'') : r.Passes (first ++ second) r'' := by
  obtain ⟨hrest, hposition⟩ := h
  obtain ⟨hrest', hposition'⟩ := h'
  refine ⟨?_, ?_⟩
  · rw [hrest, hrest', List.append_assoc]
  · rw [hposition', hposition, Position.advanceAll_append]

/-- Whatever a reader is in the middle of, it counts all that it passes. -/
theorem exists_passes_scan (mode : Mode) (p : Position) (text : List Char) :
    ∃ passed, Passes ⟨p, text⟩ passed (scan mode p text).2 := by
  fun_induction scan mode p text
  -- The text ends, or a slash has no star: nothing more is passed.
  case case1 | case6 | case8 | case9 | case12 => exact ⟨[], .refl _⟩
  -- A character is passed, and the reader goes on.
  case case2 ih | case3 ih | case4 ih | case7 ih | case10 ih | case11 ih | case13 ih =>
    obtain ⟨passed, hpassed⟩ := ih
    exact ⟨_, (Passes.one _ _ _).trans hpassed⟩
  -- A character is passed, and it is the last one.
  case case5 | case14 | case15 | case16 => exact ⟨_, .one _ _ _⟩

theorem exists_passes_collectAfter (done : List Marker) (r : Reader) :
    ∃ passed, r.Passes passed (r.collectAfter done).2 := by
  have hfirst (r : Reader) : ∃ passed, r.Passes passed r.next.2 := exists_passes_scan _ _ _
  fun_induction collectAfter done r
  case case1 r m r' hnext ih =>
    obtain ⟨first, hfirst⟩ := hfirst r
    obtain ⟨second, hsecond⟩ := ih
    rw [hnext] at hfirst
    exact ⟨_, hfirst.trans hsecond⟩
  case case2 r r' hnext | case3 r e r' hnext =>
    obtain ⟨passed, hpassed⟩ := hfirst r
    rw [hnext] at hpassed
    exact ⟨passed, hpassed⟩

theorem exists_passes (r : Reader) (call : Call) :
    ∃ passed, r.Passes passed (r.answer call).2 := by
  cases call with
  | next =>
    rw [answer_next_snd]
    exact exists_passes_scan _ _ _
  | collect =>
    rw [answer_collect_snd]
    exact exists_passes_collectAfter _ _

/-- No call moves a reader back. -/
theorem offset_le_answer (r : Reader) (call : Call) :
    r.position.offset ≤ (r.answer call).2.position.offset := by
  obtain ⟨passed, _, hposition⟩ := r.exists_passes call
  rw [hposition, Position.advanceAll_offset]
  omega

/-- A reader's place is that after the part of a text which it has left behind. -/
def KeepsPlace (text : String) (r : Reader) : Prop :=
  ∃ before, text.toList = before ++ r.rest ∧ r.position = .after before

section KeepsPlace

variable {text : String} {r : Reader}

theorem KeepsPlace.answer (h : r.KeepsPlace text) (call : Call) :
    (r.answer call).2.KeepsPlace text := by
  obtain ⟨before, htext, hposition⟩ := h
  obtain ⟨passed, hrest', hposition'⟩ := r.exists_passes call
  refine ⟨before ++ passed, ?_, ?_⟩
  · rw [htext, hrest', List.append_assoc]
  · rw [hposition', hposition, Position.advanceAll_after]

theorem keepsPlace_afterCalls (text : String) (calls : List Call) :
    (afterCalls Reader.answer (ofString text) calls).KeepsPlace text :=
  afterCalls_keeps (fun _ call h => h.answer call) ⟨[], rfl, rfl⟩ calls

theorem KeepsPlace.offset_add (h : r.KeepsPlace text) :
    r.position.offset + r.rest.length = text.length := by
  obtain ⟨before, htext, hposition⟩ := h
  rw [← String.length_toList, htext, List.length_append, hposition]
  rfl

end KeepsPlace

/-- Either a marker is read from some items, or they are all passed. -/
theorem next_items (items : List Item) (p : Position) (rest : List Char) :
    (∃ m r', next ⟨p, Item.spell items ++ rest⟩ = (.ok (some m), r') ∧
      p.offset + 4 ≤ r'.position.offset) ∨
    next ⟨p, Item.spell items ++ rest⟩ = next ⟨p.advanceAll (Item.spell items), rest⟩ := by
  induction items generalizing p with
  | nil => exact .inr rfl
  | cons i items ih =>
    rw [Item.spell_cons, List.append_assoc, Position.advanceAll_append]
    cases i with
    | token m =>
      refine .inl ⟨m, _, scan_token m p _, ?_⟩
      rw [Position.advanceAll_offset, Marker.token_toList]
      exact Nat.le_refl _
    | gap g =>
      have hgap : next ⟨p, (Item.gap g).text ++ (Item.spell items ++ rest)⟩ =
          next ⟨p.advanceAll (Item.gap g).text, Item.spell items ++ rest⟩ := scan_gap g p _
      rw [hgap]
      refine (ih _).imp_left ?_
      rintro ⟨m, r', hnext, hoffset⟩
      refine ⟨m, r', hnext, ?_⟩
      rw [Position.advanceAll_offset] at hoffset
      omega

/-- A call that fails has got to the end of the items, and has found there what is wrong. -/
theorem eq_of_answer_items {items : List Item} {p : Position} {rest : List Char} {e e' : Error}
    {r' r'' : Reader} {call : Call}
    (herror : answer ⟨p, Item.spell items ++ rest⟩ call = (.error e, r'))
    (hend : next ⟨p.advanceAll (Item.spell items), rest⟩ = (.error e', r'')) :
    e' = e ∧ r'' = r' := by
  cases call with
  | next =>
    rcases next_items items p rest with ⟨m, r'', hnext, _⟩ | hnext
    · cases (answer_next_marker hnext).symm.trans herror
    · cases (answer_next_error (hnext.trans hend)).symm.trans herror
      exact ⟨rfl, rfl⟩
  | collect =>
    have hcollect : collect ⟨p, Item.spell items ++ rest⟩ = (.error e', r'') := by
      rw [collect, collectAfter_items, collectAfter_eq, hend]
    cases (answer_collect_error hcollect).symm.trans herror
    exact ⟨rfl, rfl⟩

/-- No call fails where a text is made of items up to its end. -/
theorem answer_items_ne_error (items : List Item) (p : Position) (call : Call) (e : Error) :
    (answer ⟨p, Item.spell items ++ []⟩ call).1 ≠ .error e := by
  cases call with
  | next =>
    rcases next_items items p [] with ⟨m, r', hnext, _⟩ | hnext
    · rw [answer_next_marker hnext]
      exact Reply.noConfusion
    · rw [answer_next_nothing hnext]
      exact Reply.noConfusion
  | collect =>
    have hcollect : collect ⟨p, Item.spell items ++ []⟩ = (.ok _, _) :=
      (collectAfter_items items [] p []).trans (collectAfter_nil _ _)
    rw [answer_collect_markers hcollect]
    exact Reply.noConfusion

/-- How far a call has got that fails: past all of the text, if a comment is open or a token is cut
    off, and else past the character that it blames, but no further. As messages number characters
    from one, the offset is then the number in the message. -/
def Fails (r : Reader) : Error → Reader → Prop
  | .unclosedComment _, r' => r'.rest = []
  | .unexpected _ place, r' =>
    (CutOff r.rest → r'.rest = []) ∧ (¬CutOff r.rest → r'.position.offset = place.offset + 1)

theorem answer_error {r r' : Reader} {call : Call} {e : Error}
    (herror : r.answer call = (.error e, r')) :
    r.position.offset < r'.position.offset ∧ r.Fails e r' := by
  obtain ⟨p, text⟩ := r
  have hpast {before passed : List Char} (hpassed : passed ≠ []) :
      p.offset < ((p.advanceAll before).advanceAll passed).offset := by
    have hlength := List.length_pos_iff.mpr hpassed
    rw [Position.advanceAll_offset, Position.advanceAll_offset]
    omega
  by_cases hcut : CutOff text
  · have hparts := hcut
    obtain ⟨items, letters, rfl, hletters, hbegun⟩ := hparts
    obtain ⟨rfl, rfl⟩ := eq_of_answer_items herror (next_of_cutOff hletters hbegun _)
    exact ⟨hpast hbegun, fun _ => rfl, fun hwhole => absurd hcut hwhole⟩
  · obtain ⟨items, rest, rfl, hrest⟩ := exists_items text
    rcases hrest with rfl | hunclosed | ⟨letters, found, hstray⟩
    · exact absurd (congrArg Prod.fst herror) (answer_items_ne_error items p call e)
    · obtain ⟨rfl, rfl⟩ := eq_of_answer_items herror (next_of_unclosed hunclosed _)
      obtain ⟨body, rfl, _⟩ := hunclosed
      exact ⟨hpast (List.cons_ne_nil _ _), rfl⟩
    · cases hstray with
      | character hletters hc =>
        obtain ⟨rfl, rfl⟩ := eq_of_answer_items herror (next_of_not_mayFollow hletters hc _)
        refine ⟨hpast (List.concat_ne_nil _ _), fun hcut' => absurd hcut' hcut, fun _ => ?_⟩
        rw [Position.advanceAll_append]
        exact Position.advance_offset _ _
      | slash hslash =>
        obtain ⟨rfl, rfl⟩ := eq_of_answer_items herror (next_of_slash hslash _)
        refine ⟨hpast (List.cons_ne_nil '/' []), fun hcut' => absurd hcut' hcut, fun _ => ?_⟩
        exact Position.advance_offset _ _
      | cutOff hletters hbegun => exact absurd ⟨items, rest, rfl, hletters, hbegun⟩ hcut

/-- A marker takes at least the four characters of its token. Only at the end of the text there is
    none. -/
theorem next_of_ok {r r' : Reader} {found : Option Marker} (hnext : r.next = (.ok found, r')) :
    (∃ m, found = some m ∧ r.position.offset + 4 ≤ r'.position.offset) ∨
      found = none ∧ r'.rest = [] := by
  obtain ⟨p, text⟩ := r
  obtain ⟨items, rest, rfl, hrest⟩ := exists_items text
  rcases next_items items p rest with ⟨m, r'', hmarker, hoffset⟩ | hend
  · cases hmarker.symm.trans hnext
    exact .inl ⟨m, rfl, hoffset⟩
  · rw [hend] at hnext
    rcases hrest with rfl | hunclosed | ⟨letters, c, hstray⟩
    · cases hnext
      exact .inr ⟨rfl, rfl⟩
    · cases (next_of_unclosed hunclosed _).symm.trans hnext
    · cases (next_of_stray hstray _).symm.trans (congrArg Prod.fst hnext)

theorem collectAfter_of_ok {done : List Marker} {r r' : Reader} {ms : List Marker}
    (hcollect : r.collectAfter done = (.ok ms, r')) : r'.rest = [] := by
  fun_induction collectAfter done r
  case case1 ih => exact ih hcollect
  case case2 r r'' hnext =>
    rcases next_of_ok hnext with ⟨m, hfound, _⟩ | ⟨_, hrest⟩
    · cases hfound
    · cases hcollect
      exact hrest
  case case3 => cases hcollect

/-- At the end of the text every call finds nothing and leaves the reader as it is. -/
theorem answer_of_rest_nil {r : Reader} (hrest : r.rest = []) (call : Call) :
    r.answer call = (call.emptyReply, r) := by
  obtain ⟨p, text⟩ := r
  subst hrest
  cases call with
  | next => rfl
  | collect => exact answer_collect_markers (collectAfter_nil [] p)

theorem replies_of_rest_nil {r : Reader} (hrest : r.rest = []) (calls : List Call) :
    replies answer r calls = calls.map Call.emptyReply := by
  induction calls with
  | nil => rfl
  | cons call calls ih => rw [replies, answer_of_rest_nil hrest, ih, List.map_cons]

/-- How far a call gets a reader that gives the reply. -/
def Advances (r r' : Reader) : Reply → Prop
  | .marker _ => r.position.offset + 4 ≤ r'.position.offset
  | .nothing | .markers _ => r'.rest = []
  | .error e => r.position.offset < r'.position.offset ∧ r.Fails e r'

theorem advances_answer (r : Reader) (call : Call) :
    r.Advances (r.answer call).2 (r.answer call).1 := by
  cases call with
  | next =>
    rcases hnext : r.next with ⟨e | found, r'⟩
    · rw [answer_next_error hnext]
      exact answer_error (answer_next_error hnext)
    · rcases next_of_ok hnext with ⟨m, rfl, hoffset⟩ | ⟨rfl, hrest⟩
      · rw [answer_next_marker hnext]
        exact hoffset
      · rw [answer_next_nothing hnext]
        exact hrest
  | collect =>
    rcases hcollect : r.collect with ⟨e | ms, r'⟩
    · rw [answer_collect_error hcollect]
      exact answer_error (answer_collect_error hcollect)
    · rw [answer_collect_markers hcollect]
      exact collectAfter_of_ok hcollect

/-- What a call passes is no longer left. -/
theorem offset_add_answer (r : Reader) (call : Call) :
    (r.answer call).2.position.offset + (r.answer call).2.rest.length =
      r.position.offset + r.rest.length := by
  obtain ⟨passed, hrest, hposition⟩ := r.exists_passes call
  rw [hposition, Position.advanceAll_offset, hrest, List.length_append, Nat.add_assoc]

/-- Each request for the next marker leaves less of the text, as long as there is something to be
    found. -/
theorem rest_length_answer_next_lt {r : Reader} (hfound : (r.answer .next).1 ≠ .nothing) :
    (r.answer .next).2.rest.length < r.rest.length := by
  have hleft := r.offset_add_answer .next
  have hadvances := r.advances_answer .next
  have honward : r.position.offset < (r.answer .next).2.position.offset := by
    rcases hnext : r.next with ⟨e | _ | m, r'⟩
    · rw [answer_next_error hnext] at hadvances ⊢
      exact hadvances.1
    · exact absurd (congrArg Prod.fst (answer_next_nothing hnext)) hfound
    · rw [answer_next_marker hnext] at hadvances ⊢
      exact Nat.lt_of_lt_of_le (Nat.lt_add_of_pos_right (by decide)) hadvances
  omega

/-- Among more requests for the next marker than there are characters left, one finds nothing. -/
theorem exists_nothing {r : Reader} {calls : List Call}
    (hcalls : r.rest.length < calls.count .next) :
    ∃ before after, calls = before ++ .next :: after ∧
      ((afterCalls answer r before).answer .next).1 = .nothing := by
  induction calls generalizing r with
  | nil => cases hcalls
  | cons call calls ih =>
    by_cases hhere : call = .next ∧ (r.answer .next).1 = .nothing
    · obtain ⟨rfl, hnothing⟩ := hhere
      exact ⟨[], calls, rfl, hnothing⟩
    · have hless : (r.answer call).2.rest.length < calls.count .next := by
        cases call with
        | next =>
          have hlt := rest_length_answer_next_lt (fun hnothing => hhere ⟨rfl, hnothing⟩)
          rw [List.count_cons_self] at hcalls
          omega
        | collect =>
          have hcount : (Call.collect :: calls).count .next = calls.count .next := rfl
          have hleft := r.offset_add_answer .collect
          have hoffset := r.offset_le_answer .collect
          omega
      obtain ⟨before, after, rfl, hnothing⟩ := ih hless
      exact ⟨call :: before, after, rfl, hnothing⟩

/-- A reader keeps its place whatever is asked of it, and goes on after errors. It never goes back.
    Once the next marker has been asked for more often than the text has characters, all of the text
    has been passed, and there is nothing to be found from then on. -/
theorem calls_keep_place (text : String) (calls : List Call) :
    let r := afterCalls answer (ofString text) calls
    r.KeepsPlace text ∧ (r.rest = [] ↔ r.position.offset = text.length) ∧
    (∀ call, r.position.offset ≤ (r.answer call).2.position.offset ∧
      r.Advances (r.answer call).2 (r.answer call).1) ∧
    ((r.answer .next).1 = .nothing → ∀ later,
      replies answer (r.answer .next).2 later = later.map Call.emptyReply) ∧
    (text.length < calls.count .next → ∃ before after, calls = before ++ .next :: after ∧
      ((afterCalls answer (ofString text) before).answer .next).1 = .nothing) := by
  intro r
  have hplace : r.KeepsPlace text := keepsPlace_afterCalls text calls
  refine ⟨hplace, ?_, fun call => ⟨r.offset_le_answer call, r.advances_answer call⟩, ?_, ?_⟩
  · have hlength := hplace.offset_add
    rw [← List.length_eq_zero_iff]
    omega
  · intro hnothing
    have hadvances := r.advances_answer .next
    rw [hnothing] at hadvances
    exact replies_of_rest_nil hadvances
  · intro hcalls
    apply exists_nothing
    rwa [ofString, String.length_toList]

/-- An error in between leaves the rest of the text to be read. -/
example : replies answer (ofString "O k!\n/Ook.Oo") [.next, .next, .next, .next, .collect, .next] =
    [.error (.unexpected ' ' ⟨1, 2, 1⟩), .error (.unexpected 'k' ⟨1, 3, 2⟩),
      .error (.unexpected '!' ⟨1, 4, 3⟩), .error (.unexpected '/' ⟨2, 1, 5⟩),
      .error (.unexpected 'O' ⟨2, 6, 10⟩), .nothing] := by cbv

end Reader

end OokLang.Source
