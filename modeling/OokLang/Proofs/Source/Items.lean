import Mathlib.Data.List.Infix
import OokLang.Marker
import OokLang.Text.Blank

namespace OokLang.Source

/-- A star with a slash right after it occurs in a text. -/
def HasCloser (text : List Char) : Prop :=
  ['*', '/'] <:+: text

theorem hasCloser_cons {c : Char} {text : List Char} :
    HasCloser (c :: text) ↔ (c = '*' ∧ text.head? = some '/') ∨ HasCloser text := by
  unfold HasCloser
  rw [List.infix_cons_iff, List.cons_prefix_cons]
  have hhead : ['/'] <+: text ↔ text.head? = some '/' := by
    cases text with
    | nil => simp
    | cons d text => simp [List.cons_prefix_cons, eq_comm]
  rw [hhead, eq_comm]

/-- A text with a closer can be cut at the first one. -/
theorem HasCloser.exists_first {text : List Char} (h : HasCloser text) :
    ∃ body rest, text = body ++ '*' :: '/' :: rest ∧ ¬HasCloser (body ++ ['*']) := by
  induction text with
  | nil => cases List.infix_nil.mp h
  | cons c text ih =>
    by_cases hhere : c = '*' ∧ text.head? = some '/'
    · obtain ⟨rfl, hhead⟩ := hhere
      obtain ⟨rest, rfl⟩ := List.head?_eq_some_iff.mp hhead
      exact ⟨[], rest, rfl, by unfold HasCloser; decide⟩
    · obtain ⟨body, rest, rfl, hbody⟩ := ih ((hasCloser_cons.mp h).resolve_left hhere)
      refine ⟨c :: body, rest, rfl, ?_⟩
      rw [List.cons_append, hasCloser_cons]
      rintro (⟨hstar, hhead⟩ | hinside)
      · apply hhere
        refine ⟨hstar, ?_⟩
        cases body with
        | nil => cases hhead
        | cons d body => exact hhead
      · exact hbody hinside

/-- No text that ends in a star goes past the first closer. -/
theorem eq_nil_of_closer_eq_append {body more rest rest' : List Char}
    (hmore : ¬HasCloser (body ++ more ++ ['*']))
    (htext : '*' :: '/' :: rest = more ++ '*' :: '/' :: rest') : more = [] := by
  -- One character more would have the slash for a star, and two or more have the whole closer.
  match more with
  | [] => rfl
  | [c] =>
    have hslash := (List.cons.inj (List.cons.inj htext).2).1
    exact absurd hslash (by decide)
  | c :: d :: more =>
    obtain ⟨rfl, hslash⟩ := List.cons.inj htext
    obtain ⟨rfl, _⟩ := List.cons.inj hslash
    refine absurd ⟨body, more ++ ['*'], ?_⟩ hmore
    simp

/-- There is only one first closer. -/
theorem comment_body_unique {body body' rest rest' : List Char}
    (hbody : ¬HasCloser (body ++ ['*'])) (hbody' : ¬HasCloser (body' ++ ['*']))
    (htext : body ++ '*' :: '/' :: rest = body' ++ '*' :: '/' :: rest') :
    body = body' ∧ rest = rest' := by
  have hsame : body = body' := by
    rcases List.append_eq_append_iff.mp htext with ⟨more, rfl, hrest⟩ | ⟨more, rfl, hrest⟩
    · rw [eq_nil_of_closer_eq_append hbody' hrest, List.append_nil]
    · rw [eq_nil_of_closer_eq_append hbody hrest, List.append_nil]
  subst hsame
  have hrest := List.append_cancel_left htext
  exact ⟨rfl, (List.cons.inj (List.cons.inj hrest).2).2⟩

/-- What may stand between tokens: a blank, or a comment. A comment goes from its opener to the
    first closer after that. So the star of the opener is not that of the closer, and comments are
    not nested. -/
inductive Gap where
  | blank (c : Char) (hblank : Text.isBlank c = true)
  | comment (body : List Char) (hbody : ¬HasCloser (body ++ ['*']))

namespace Gap

def text : Gap → List Char
  | blank c _ => [c]
  | comment body _ => '/' :: '*' :: (body ++ ['*', '/'])

theorem text_ne_nil (g : Gap) : g.text ≠ [] := by
  cases g <;> exact List.cons_ne_nil _ _

theorem head?_text_append (g : Gap) (rest : List Char) : (g.text ++ rest).head? ≠ some 'O' := by
  cases g with
  | blank c hblank =>
    intro hhead
    obtain rfl : c = 'O' := Option.some.inj hhead
    exact absurd hblank (by decide)
  | comment body hbody =>
    intro hhead
    exact absurd (Option.some.inj hhead) (by decide)

/-- What a text begins with tells where the gap ends. -/
theorem text_append_inj {g g' : Gap} {rest rest' : List Char}
    (htext : g.text ++ rest = g'.text ++ rest') : g = g' ∧ rest = rest' := by
  have hslash : ¬Text.isBlank '/' = true := by decide
  cases g with
  | blank c hblank =>
    cases g' with
    | blank c' hblank' =>
      obtain ⟨rfl, hrest⟩ := List.cons.inj htext
      exact ⟨rfl, hrest⟩
    | comment body' hbody' =>
      obtain ⟨rfl, _⟩ := List.cons.inj htext
      exact absurd hblank hslash
  | comment body hbody =>
    cases g' with
    | blank c' hblank' =>
      obtain ⟨rfl, _⟩ := List.cons.inj htext
      exact absurd hblank' hslash
    | comment body' hbody' =>
      have hbodies : body ++ '*' :: '/' :: rest = body' ++ '*' :: '/' :: rest' := by
        simpa [text] using htext
      obtain ⟨rfl, hrest⟩ := comment_body_unique hbody hbody' hbodies
      exact ⟨rfl, hrest⟩

end Gap

/-- A piece of a source text. -/
inductive Item where
  | gap (g : Gap)
  | token (m : Marker)

namespace Item

def text : Item → List Char
  | gap g => g.text
  | token m => m.token.toList

def marker? : Item → Option Marker
  | gap _ => none
  | token m => some m

/-- The text of items, with nothing between them. -/
def spell (items : List Item) : List Char :=
  items.flatMap text

/-- The markers of the tokens among items. -/
def markers (items : List Item) : List Marker :=
  items.filterMap marker?

@[simp] theorem spell_nil : spell [] = [] := rfl

@[simp] theorem spell_cons (i : Item) (items : List Item) :
    spell (i :: items) = i.text ++ spell items := rfl

@[simp] theorem markers_nil : markers [] = [] := rfl

@[simp] theorem markers_gap (g : Gap) (items : List Item) :
    markers (gap g :: items) = markers items := rfl

@[simp] theorem markers_token (m : Marker) (items : List Item) :
    markers (token m :: items) = m :: markers items := rfl

theorem text_ne_nil (i : Item) : i.text ≠ [] := by
  cases i with
  | gap g => exact g.text_ne_nil
  | token m =>
    rw [text, Marker.token_toList]
    exact List.cons_ne_nil _ _

theorem head?_token_append (m : Marker) (rest : List Char) :
    ((token m).text ++ rest).head? = some 'O' := by
  rw [text, Marker.token_toList]
  rfl

/-- What a text begins with tells where the item ends. -/
theorem text_append_inj {i i' : Item} {rest rest' : List Char}
    (htext : i.text ++ rest = i'.text ++ rest') : i = i' ∧ rest = rest' := by
  cases i with
  | gap g =>
    cases i' with
    | gap g' =>
      obtain ⟨rfl, hrest⟩ := Gap.text_append_inj htext
      exact ⟨rfl, hrest⟩
    | token m' =>
      have hhead := head?_token_append m' rest'
      rw [← htext] at hhead
      exact absurd hhead (g.head?_text_append rest)
  | token m =>
    cases i' with
    | gap g' =>
      have hhead := head?_token_append m rest
      rw [htext] at hhead
      exact absurd hhead (g'.head?_text_append rest')
    | token m' =>
      simp only [text, Marker.token_toList, List.cons_append, List.nil_append, List.cons.injEq,
        true_and] at htext
      obtain ⟨hglyph, hrest⟩ := htext
      have hsome : some m = some m' := by
        rw [← Marker.ofGlyph?_glyph m, hglyph, Marker.ofGlyph?_glyph]
      exact ⟨congrArg token (Option.some.inj hsome), hrest⟩

/-- No text is made of items in two ways. -/
theorem spell_injective : Function.Injective spell := by
  intro items items' htext
  induction items generalizing items' with
  | nil =>
    cases items' with
    | nil => rfl
    | cons i' items' =>
      have hnil := List.append_eq_nil_iff.mp htext.symm
      exact absurd hnil.1 i'.text_ne_nil
  | cons i items ih =>
    cases items' with
    | nil =>
      have hnil := List.append_eq_nil_iff.mp htext
      exact absurd hnil.1 i.text_ne_nil
    | cons i' items' =>
      obtain ⟨rfl, hrest⟩ := text_append_inj htext
      rw [ih hrest]

end Item

end OokLang.Source
