import OokLang.Interpreter
import OokLang.Proofs.Reading.RoundTrip
import OokLang.Proofs.Source.Grammar

namespace OokLang

namespace Source

/-- Any number of blanks and comments. -/
abbrev Filler := List Gap

def Filler.text (filler : Filler) : List Char :=
  filler.flatMap Gap.text

/-- The text of some tokens, with a filler before the first of them and one after each. -/
def spelled : List Marker → (Nat → Filler) → List Char
  | [], fillers => (fillers 0).text
  | m :: ms, fillers =>
    (fillers 0).text ++ m.token.toList ++ spelled ms fun index => fillers (index + 1)

theorem Item.spell_gaps_append (filler : Filler) (items : List Item) :
    spell (filler.map gap ++ items) = filler.text ++ spell items := by
  induction filler with
  | nil => rfl
  | cons g filler ih =>
    rw [List.map_cons, List.cons_append, spell_cons, ih, ← List.append_assoc]
    rfl

theorem Item.markers_gaps_append (filler : Filler) (items : List Item) :
    markers (filler.map gap ++ items) = markers items := by
  induction filler with
  | nil => rfl
  | cons g filler ih => rw [List.map_cons, List.cons_append, markers_gap, ih]

/-- Tokens with fillers around them are items. -/
theorem exists_items_of_spelled (ms : List Marker) (fillers : Nat → Filler) :
    ∃ items, spelled ms fillers = Item.spell items ∧ Item.markers items = ms := by
  induction ms generalizing fillers with
  | nil =>
    refine ⟨(fillers 0).map .gap ++ [], ?_, ?_⟩
    · rw [Item.spell_gaps_append, Item.spell_nil, List.append_nil]
      rfl
    · rw [Item.markers_gaps_append]
      rfl
  | cons m ms ih =>
    obtain ⟨items, hspell, hmarkers⟩ := ih fun index => fillers (index + 1)
    refine ⟨(fillers 0).map .gap ++ .token m :: items, ?_, ?_⟩
    · rw [spelled, hspell, Item.spell_gaps_append, Item.spell_cons, List.append_assoc]
      rfl
    · rw [Item.markers_gaps_append, Item.markers_token, hmarkers]

/-- Items are tokens with fillers around them. -/
theorem exists_fillers (items : List Item) :
    ∃ fillers, Item.spell items = spelled (Item.markers items) fillers := by
  induction items with
  | nil => exact ⟨fun _ => [], rfl⟩
  | cons i items ih =>
    obtain ⟨fillers, hspell⟩ := ih
    cases i with
    | gap g =>
      -- The gap joins the filler before the first token.
      refine ⟨fun index => if index = 0 then g :: fillers 0 else fillers index, ?_⟩
      rw [Item.spell_cons, Item.markers_gap, hspell]
      cases Item.markers items with
      | nil => rfl
      | cons m ms => simp [spelled, Filler.text, Item.text]
    | token m =>
      refine ⟨fun index => if index = 0 then [] else fillers (index - 1), ?_⟩
      rw [Item.spell_cons, Item.markers_token, hspell]
      simp [spelled, Filler.text, Item.text]

/-- The fillers make no difference to the markers. -/
theorem markers_spelled (ms : List Marker) (fillers : Nat → Filler) :
    markers (String.ofList (spelled ms fillers)) = .ok ms := by
  obtain ⟨items, hspell, hmarkers⟩ := exists_items_of_spelled ms fillers
  have htext : (String.ofList (spelled ms fillers)).toList = Item.spell items := by
    rw [String.toList_ofList, hspell]
  rw [markers_eq_ok_of_spell htext, hmarkers]

theorem exists_fillers_of_markers_eq_ok {text : String} {ms : List Marker}
    (hread : markers text = .ok ms) : ∃ fillers, text.toList = spelled ms fillers := by
  obtain ⟨items, htext, rfl⟩ := exists_items_of_markers_eq_ok hread
  obtain ⟨fillers, hspell⟩ := exists_fillers items
  exact ⟨fillers, htext.trans hspell⟩

end Source

open Source

theorem readProgram_eq_ok_iff_markers {text : String} {p : Program} :
    readProgram text = .ok p ↔
      ∃ ms, Source.markers text = .ok ms ∧ Program.ofMarkers ms = .ok p := by
  unfold readProgram
  cases Source.markers text with
  | error e => simp
  | ok ms =>
    simp only [Except.ok.injEq, exists_eq_left']
    cases Program.ofMarkers ms with
    | error e => simp
    | ok q => simp

/-- A text with the markers of a program is read as this program. -/
theorem readProgram_of_markers {text : String} {p : Program}
    (hmarkers : Source.markers text = .ok p.markers) (hplain : p.IsPlain)
    (hnesting : p.nesting ≤ 1024) : readProgram text = .ok p :=
  readProgram_eq_ok_iff_markers.mpr
    ⟨p.markers, hmarkers, Program.ofMarkers_markers hplain hnesting⟩

/-- A source text is read as a program exactly if the program is plain, nests at most 1024 loops in
    one another, and the text is made of the tokens of its instructions with any fillers around
    each of them. So texts that only differ in their fillers are read alike. -/
theorem readProgram_eq_ok_iff (text : String) (p : Program) :
    (readProgram text = .ok p ↔
      p.IsPlain ∧ p.nesting ≤ 1024 ∧ ∃ fillers, text.toList = spelled p.markers fillers) ∧
    ∀ (ms : List Marker) (fillers fillers' : Nat → Filler),
      readProgram (String.ofList (spelled ms fillers)) =
        readProgram (String.ofList (spelled ms fillers')) := by
  refine ⟨⟨?_, ?_⟩, ?_⟩
  · intro hread
    obtain ⟨ms, hmarkers, hprogram⟩ := readProgram_eq_ok_iff_markers.mp hread
    obtain ⟨hplain, hnesting, rfl⟩ := Program.spells_of_ofMarkers hprogram
    exact ⟨hplain, hnesting, exists_fillers_of_markers_eq_ok hmarkers⟩
  · rintro ⟨hplain, hnesting, fillers, htext⟩
    have hmarkers := markers_spelled p.markers fillers
    rw [← htext, String.ofList_toList] at hmarkers
    exact readProgram_of_markers hmarkers hplain hnesting
  · intro ms fillers fillers'
    unfold readProgram
    rw [markers_spelled, markers_spelled]

end OokLang
