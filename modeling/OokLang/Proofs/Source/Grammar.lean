import Mathlib.Data.List.DropRight
import OokLang.Proofs.Source.Leading

namespace OokLang.Source

namespace Position

/-- The place after a text from its start: how many line feeds are in it, and how many characters
    come after the last of them. -/
def after (before : List Char) : Position where
  line := 1 + before.count '\n'
  column := 1 + (before.rtakeWhile (· ≠ '\n')).length
  offset := before.length

theorem after_concat (before : List Char) (c : Char) :
    after (before ++ [c]) = (after before).advance c := by
  by_cases hfeed : c = '\n'
  · have hline : (before ++ [c]).count '\n' = before.count '\n' + 1 := by simp [hfeed]
    have hcolumn : (before ++ [c]).rtakeWhile (· ≠ '\n') = [] := by simp [hfeed]
    rw [advance, if_pos hfeed, after, hline, hcolumn, List.length_append]
    rfl
  · have hline : (before ++ [c]).count '\n' = before.count '\n' := by simp [hfeed]
    have hcolumn : (before ++ [c]).rtakeWhile (· ≠ '\n') =
        before.rtakeWhile (· ≠ '\n') ++ [c] := by simp [hfeed]
    rw [advance, if_neg hfeed, after, hline, hcolumn, List.length_append, List.length_append]
    rfl

theorem advanceAll_start (before : List Char) : start.advanceAll before = after before := by
  induction before using List.reverseRecOn with
  | nil => rfl
  | append_singleton before c ih =>
    rw [advanceAll_append, ih, after_concat]
    rfl

theorem advanceAll_after (before text : List Char) :
    (after before).advanceAll text = after (before ++ text) := by
  rw [← advanceAll_start, ← advanceAll_append, advanceAll_start]

end Position

/-- The message numbers characters from one, as it does lines and columns. -/
theorem message_unexpected_after (found : Char) (before : List Char) :
    let place := Position.after before
    (Error.unexpected found place).message =
      s!"Invalid token: unexpected {Text.quoted found} at position {1 + before.length} " ++
        s!"({place.line}:{place.column})" := by
  rw [Nat.add_comm 1 before.length]
  rfl

/-- Reading begins with the items at the start of a text. -/
theorem markers_of_spell {text : String} {items : List Item} {rest : List Char}
    (htext : text.toList = Item.spell items ++ rest) :
    markers text =
      (Reader.collectAfter (Item.markers items).reverse ⟨.after (Item.spell items), rest⟩).1 := by
  rw [markers, Reader.collect, Reader.ofString, htext, Reader.collectAfter_items,
    Position.advanceAll_start, List.append_nil]

/-- A text that is made of items alone is read as their markers. -/
theorem markers_eq_ok_of_spell {text : String} {items : List Item}
    (htext : text.toList = Item.spell items) : markers text = .ok (Item.markers items) := by
  have hrest : text.toList = Item.spell items ++ [] := by rw [htext, List.append_nil]
  rw [markers_of_spell hrest, Reader.collectAfter_nil, List.reverse_reverse]

/-- Where an item is open or cannot begin reading fails. -/
theorem markers_eq_error_of_spell {text : String} {items : List Item} {rest : List Char}
    (htext : text.toList = Item.spell items ++ rest) :
    (Unclosed rest →
      markers text = .error (.unclosedComment (.after (Item.spell items)))) ∧
    ∀ letters found, Stray rest letters found →
      markers text = .error (.unexpected found (.after (Item.spell items ++ letters))) := by
  rw [markers_of_spell htext]
  constructor
  · intro hunclosed
    have hnext := Reader.next_of_unclosed hunclosed (.after (Item.spell items))
    exact Reader.collectAfter_of_error (congrArg Prod.fst hnext) _
  · intro letters found hstray
    have hnext := Reader.next_of_stray hstray (.after (Item.spell items))
    rw [Position.advanceAll_after] at hnext
    exact Reader.collectAfter_of_error hnext _

/-- What is read as markers is made of items alone. -/
theorem exists_items_of_markers_eq_ok {text : String} {ms : List Marker}
    (hread : markers text = .ok ms) :
    ∃ items, text.toList = Item.spell items ∧ ms = Item.markers items := by
  obtain ⟨items, rest, htext, hrest⟩ := exists_items text.toList
  obtain ⟨hunclosed, hstray⟩ := markers_eq_error_of_spell htext
  rcases hrest with rfl | hrest | ⟨letters, found, hrest⟩
  · rw [List.append_nil] at htext
    rw [markers_eq_ok_of_spell htext] at hread
    exact ⟨items, htext, (Except.ok.inj hread).symm⟩
  · rw [hunclosed hrest] at hread
    cases hread
  · rw [hstray letters found hrest] at hread
    cases hread

/-- A text is read as markers exactly if it is made of blanks, comments and tokens, one right after
    the other, and the markers are those of the tokens. It is so made in one way only. -/
theorem markers_eq_ok_iff (text : String) (ms : List Marker) :
    (markers text = .ok ms ↔
      ∃ items, text.toList = Item.spell items ∧ ms = Item.markers items) ∧
    Function.Injective Item.spell := by
  refine ⟨⟨exists_items_of_markers_eq_ok, ?_⟩, Item.spell_injective⟩
  rintro ⟨items, htext, rfl⟩
  exact markers_eq_ok_of_spell htext

/-- Reading fails exactly where, after a part of the text that can be read, a comment is open up to
    the end or a character is stray. It blames the opener or the character at its own place, of
    which the message numbers the characters from one. -/
theorem markers_eq_error_iff (text : String) (e : Error) :
    (markers text = .error e ↔
      ∃ read rest, text.toList = read ++ rest ∧ (∃ ms, markers (String.ofList read) = .ok ms) ∧
        ((Unclosed rest ∧ e = .unclosedComment (.after read)) ∨
          ∃ letters found, Stray rest letters found ∧
            e = .unexpected found (.after (read ++ letters)))) ∧
    ∀ (found : Char) (before : List Char), let place := Position.after before
      (Error.unexpected found place).message =
        s!"Invalid token: unexpected {Text.quoted found} at position {1 + before.length} " ++
          s!"({place.line}:{place.column})" := by
  refine ⟨⟨?_, ?_⟩, message_unexpected_after⟩
  · intro herror
    obtain ⟨items, rest, htext, hrest⟩ := exists_items text.toList
    obtain ⟨hunclosed, hstray⟩ := markers_eq_error_of_spell htext
    have hread : markers (String.ofList (Item.spell items)) = .ok (Item.markers items) :=
      markers_eq_ok_of_spell String.toList_ofList
    refine ⟨Item.spell items, rest, htext, ⟨_, hread⟩, ?_⟩
    rcases hrest with rfl | hrest | ⟨letters, found, hrest⟩
    · rw [List.append_nil] at htext
      rw [markers_eq_ok_of_spell htext] at herror
      cases herror
    · rw [hunclosed hrest] at herror
      exact .inl ⟨hrest, (Except.error.inj herror).symm⟩
    · rw [hstray letters found hrest] at herror
      exact .inr ⟨letters, found, hrest, (Except.error.inj herror).symm⟩
  · rintro ⟨read, rest, htext, ⟨ms, hread⟩, hwrong⟩
    obtain ⟨items, hitems, _⟩ := exists_items_of_markers_eq_ok hread
    rw [String.toList_ofList] at hitems
    subst hitems
    obtain ⟨hunclosed, hstray⟩ := markers_eq_error_of_spell htext
    rcases hwrong with ⟨hrest, rfl⟩ | ⟨letters, found, hrest, rfl⟩
    · exact hunclosed hrest
    · exact hstray letters found hrest

example : markers "Ook.\n Oak" = .error (.unexpected 'a' ⟨2, 3, 7⟩) := by cbv

end OokLang.Source
