import OokLang.Proofs.Source.Grammar

namespace OokLang.Source

namespace Position

/-- A place in a text once another text stands in front. On the first line the columns go on from
    the last line of that text, and on all others they stay as they are. -/
def behind (front : List Char) (p : Position) : Position where
  line := p.line + front.count '\n'
  column := if p.line = 1 then p.column + (front.rtakeWhile (· ≠ '\n')).length else p.column
  offset := p.offset + front.length

/-- Lines are counted from one, so that the line after a line feed is never the first. -/
theorem advance_behind {p : Position} (hline : p.line ≠ 0) (front : List Char) (c : Char) :
    (p.behind front).advance c = (p.advance c).behind front := by
  by_cases hfeed : c = '\n'
  · have hnext : p.line + 1 ≠ 1 := by omega
    simp only [advance, behind, if_pos hfeed, if_neg hnext, mk.injEq, true_and]
    omega
  · simp only [advance, behind, if_neg hfeed, mk.injEq, true_and]
    split <;> omega

theorem after_append (front text : List Char) :
    after (front ++ text) = (after text).behind front := by
  induction text using List.reverseRecOn with
  | nil =>
    rw [List.append_nil]
    simp [after, behind]
  | append_singleton text c ih =>
    have hline : (after text).line ≠ 0 := by
      change 1 + text.count '\n' ≠ 0
      omega
    rw [← List.append_assoc, after_concat, ih, advance_behind hline, ← after_concat]

end Position

/-- An error in a text once another text stands in front: the same one, with its place moved. -/
def Error.behind (front : List Char) : Error → Error
  | unclosedComment opened => unclosedComment (opened.behind front)
  | unexpected found place => unexpected found (place.behind front)

theorem Item.spell_append (items items' : List Item) :
    spell (items ++ items') = spell items ++ spell items' :=
  List.flatMap_append

theorem Item.markers_append (items items' : List Item) :
    markers (items ++ items') = markers items ++ markers items' :=
  List.filterMap_append

/-- A text behind one that can be read is read as if it stood alone. Its markers come after the
    others. If it cannot be read the error is the same, at the place where it then is. -/
theorem markers_append_of_ok {front : String} {ms : List Marker} (hread : markers front = .ok ms)
    (text : String) :
    markers (front ++ text) =
      match markers text with
      | .ok ms' => .ok (ms ++ ms')
      | .error e => .error (e.behind front.toList) := by
  obtain ⟨items, hfront, rfl⟩ := exists_items_of_markers_eq_ok hread
  obtain ⟨items', rest, htext, hrest⟩ := exists_items text.toList
  have hboth : (front ++ text).toList = Item.spell (items ++ items') ++ rest := by
    rw [String.toList_append, hfront, htext, Item.spell_append, List.append_assoc]
  obtain ⟨hunclosed, hstray⟩ := markers_eq_error_of_spell htext
  obtain ⟨hunclosed', hstray'⟩ := markers_eq_error_of_spell hboth
  rcases hrest with rfl | hrest | ⟨letters, found, hrest⟩
  · rw [List.append_nil] at htext hboth
    rw [markers_eq_ok_of_spell htext, markers_eq_ok_of_spell hboth, Item.markers_append]
  · rw [hunclosed hrest, hunclosed' hrest, Item.spell_append, Position.after_append, hfront]
    rfl
  · rw [hstray letters found hrest, hstray' letters found hrest, Item.spell_append,
      List.append_assoc, Position.after_append, hfront]
    rfl

/-- Behind a token and a comment that ends on a second line: two tokens, an open comment on their
    first line, and a wrong letter on the line after. -/
theorem markers_append_of_ok_comment :
    let front := "Ook! /*\n*/"
    markers front = .ok [.bang] ∧
      markers (front ++ "Ook.Ook?") = .ok ([.bang] ++ [.dot, .question]) ∧
      markers (front ++ " /*") = .error (.unclosedComment ⟨1 + 1, 2 + 2, 1 + 10⟩) ∧
      markers (front ++ "\nOak") = .error (.unexpected 'a' ⟨2 + 1, 2, 2 + 10⟩) := by
  intro front
  have hfront : front.toList = ['O', 'o', 'k', '!', ' ', '/', '*', '\n', '*', '/'] := by decide
  have hread : markers front = .ok [.bang] := by
    rw [markers, Reader.ofString, hfront]
    cbv
  have hok : markers "Ook.Ook?" = .ok [.dot, .question] := by
    have htext : "Ook.Ook?".toList = ['O', 'o', 'k', '.', 'O', 'o', 'k', '?'] := by decide
    rw [markers, Reader.ofString, htext]
    cbv
  have hopen : markers " /*" = .error (.unclosedComment ⟨1, 2, 1⟩) := by
    have htext : " /*".toList = [' ', '/', '*'] := by decide
    rw [markers, Reader.ofString, htext]
    cbv
  have hletter : markers "\nOak" = .error (.unexpected 'a' ⟨2, 2, 2⟩) := by
    have htext : "\nOak".toList = ['\n', 'O', 'a', 'k'] := by decide
    rw [markers, Reader.ofString, htext]
    cbv
  refine ⟨hread, ?_, ?_, ?_⟩
  · rw [markers_append_of_ok hread, hok]
  · rw [markers_append_of_ok hread, hopen]
    decide
  · rw [markers_append_of_ok hread, hletter]
    decide

end OokLang.Source
