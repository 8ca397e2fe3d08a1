import OokLang.Proofs.Source.Scanning

namespace OokLang.Source

/-- A comment is opened at the start of a text and never closed. -/
def Unclosed (text : List Char) : Prop :=
  ∃ body, text = '/' :: '*' :: body ∧ ¬HasCloser body

/-- Whether a character may come where a token has got as far as some letters, or none. -/
def MayFollow (letters : List Char) (c : Char) : Prop :=
  (∃ m : Marker, letters ++ [c] <+: m.token.toList) ∨
    letters = [] ∧ (Text.isBlank c = true ∨ c = '/')

/-- A text begins with neither an item nor an open comment. The character to blame comes after some
    letters of a token, or is a slash without its star, or is the first letter of a token that the
    text ends in. -/
inductive Stray : List Char → List Char → Char → Prop where
  | character {letters rest : List Char} {c : Char} (hletters : letters <+: Marker.stem.toList)
      (hc : ¬MayFollow letters c) : Stray (letters ++ c :: rest) letters c
  | slash {rest : List Char} (hrest : rest.head? ≠ some '*') : Stray ('/' :: rest) [] '/'
  | cutOff {letters : List Char} (hletters : letters <+: Marker.stem.toList)
      (hbegun : letters ≠ []) : Stray letters [] 'O'

theorem stem_toList : Marker.stem.toList = ['O', 'o', 'k'] := by decide

theorem prefix_stem_iff {letters : List Char} :
    letters <+: Marker.stem.toList ↔
      letters = [] ∨ letters = ['O'] ∨ letters = ['O', 'o'] ∨ letters = ['O', 'o', 'k'] := by
  rw [stem_toList]
  constructor
  · intro h
    simpa using (List.mem_inits _ _).mpr h
  · rintro (rfl | rfl | rfl | rfl) <;> decide

instance : Nonempty Marker := ⟨.bang⟩

section MayFollow

variable {c : Char}

theorem mayFollow_nil : MayFollow [] c ↔ c = 'O' ∨ Text.isBlank c = true ∨ c = '/' := by
  simp [MayFollow, Marker.token_toList, List.cons_prefix_cons]

theorem mayFollow_one : MayFollow ['O'] c ↔ c = 'o' := by
  simp [MayFollow, Marker.token_toList, List.cons_prefix_cons]

theorem mayFollow_two : MayFollow ['O', 'o'] c ↔ c = 'k' := by
  simp [MayFollow, Marker.token_toList, List.cons_prefix_cons]

theorem mayFollow_three : MayFollow ['O', 'o', 'k'] c ↔ ∃ m : Marker, c = m.glyph := by
  simp [MayFollow, Marker.token_toList, List.cons_prefix_cons]

end MayFollow

/-- After the first letter of a token the token goes on to its end, or something is wrong. -/
theorem leading_letter (text : List Char) :
    (∃ (m : Marker) (rest : List Char), 'O' :: text = m.token.toList ++ rest) ∨
      ∃ letters found, Stray ('O' :: text) letters found := by
  have hone : ['O'] <+: Marker.stem.toList := by decide
  have htwo : ['O', 'o'] <+: Marker.stem.toList := by decide
  have hthree : ['O', 'o', 'k'] <+: Marker.stem.toList := by decide
  match text with
  | [] => exact .inr ⟨[], 'O', .cutOff hone (List.cons_ne_nil _ _)⟩
  | c :: text =>
    by_cases hc : MayFollow ['O'] c
    · obtain rfl := mayFollow_one.mp hc
      match text with
      | [] => exact .inr ⟨[], 'O', .cutOff htwo (List.cons_ne_nil _ _)⟩
      | c :: text =>
        by_cases hc : MayFollow ['O', 'o'] c
        · obtain rfl := mayFollow_two.mp hc
          match text with
          | [] => exact .inr ⟨[], 'O', .cutOff hthree (List.cons_ne_nil _ _)⟩
          | c :: rest =>
            by_cases hc : MayFollow ['O', 'o', 'k'] c
            · obtain ⟨m, rfl⟩ := mayFollow_three.mp hc
              exact .inl ⟨m, rest, by rw [Marker.token_toList]; rfl⟩
            · exact .inr ⟨['O', 'o', 'k'], c, .character hthree hc⟩
        · exact .inr ⟨['O', 'o'], c, .character htwo hc⟩
    · exact .inr ⟨['O'], c, .character hone hc⟩

/-- A text begins with an item, or there is something wrong with its beginning. -/
theorem leading (text : List Char) :
    text = [] ∨ (∃ (i : Item) (rest : List Char), text = i.text ++ rest) ∨ Unclosed text ∨
      ∃ letters found, Stray text letters found := by
  cases text with
  | nil => exact .inl rfl
  | cons c text =>
    right
    by_cases hc : MayFollow [] c
    · rcases mayFollow_nil.mp hc with rfl | hblank | rfl
      · rcases leading_letter text with ⟨m, rest, htoken⟩ | hstray
        · exact .inl ⟨.token m, rest, htoken⟩
        · exact .inr (.inr hstray)
      · exact .inl ⟨.gap (.blank c hblank), text, rfl⟩
      · by_cases hstar : text.head? = some '*'
        · obtain ⟨text, rfl⟩ := List.head?_eq_some_iff.mp hstar
          by_cases hcloser : HasCloser text
          · obtain ⟨body, rest, rfl, hbody⟩ := hcloser.exists_first
            exact .inl ⟨.gap (.comment body hbody), rest, by simp [Item.text, Gap.text]⟩
          · exact .inr (.inl ⟨text, rfl, hcloser⟩)
        · exact .inr (.inr ⟨[], '/', .slash hstar⟩)
    · exact .inr (.inr ⟨[], c, .character List.nil_prefix hc⟩)

/-- Every text is made of items up to its end or to the first place where something is wrong. -/
theorem exists_items (text : List Char) :
    ∃ items rest, text = Item.spell items ++ rest ∧
      (rest = [] ∨ Unclosed rest ∨ ∃ letters found, Stray rest letters found) := by
  -- By induction on the length, since an item takes any number of characters.
  induction hlength : text.length using Nat.strongRecOn generalizing text with
  | ind length ih =>
    rcases leading text with hnil | ⟨i, rest, rfl⟩ | hwrong
    · exact ⟨[], text, rfl, .inl hnil⟩
    · have hpos := List.length_pos_iff.mpr i.text_ne_nil
      rw [List.length_append] at hlength
      obtain ⟨items, rest', rfl, hrest⟩ := ih rest.length (by omega) rest rfl
      exact ⟨i :: items, rest', by simp, hrest⟩
    · exact ⟨[], text, rfl, .inr hwrong⟩

namespace Reader

/-- An open comment takes all of the text. -/
theorem next_of_unclosed {text : List Char} (h : Unclosed text) (p : Position) :
    next ⟨p, text⟩ = (.error (.unclosedComment p), ⟨p.advanceAll text, []⟩) := by
  obtain ⟨body, rfl, hbody⟩ := h
  rw [next, scan_opener, scan_comment_unclosed hbody]
  rfl

/-- A character that may not follow is blamed where it stands, and it is the last one to be
    passed. -/
theorem next_of_not_mayFollow {letters rest : List Char} {c : Char}
    (hletters : letters <+: Marker.stem.toList) (hc : ¬MayFollow letters c) (p : Position) :
    next ⟨p, letters ++ c :: rest⟩ =
      (.error (.unexpected c (p.advanceAll letters)), ⟨p.advanceAll (letters ++ [c]), rest⟩) := by
  rw [next]
  rcases prefix_stem_iff.mp hletters with rfl | rfl | rfl | rfl
  · rw [mayFollow_nil, not_or, not_or] at hc
    rw [List.nil_append, scan_gap_cons, if_neg hc.2.1, if_neg hc.2.2, if_neg hc.1]
    rfl
  · rw [mayFollow_one] at hc
    rw [List.singleton_append, scan_letter, scan_token_cons, if_neg hc]
    rfl
  · rw [mayFollow_two] at hc
    rw [List.cons_append, List.singleton_append, scan_letter, scan_token_cons, if_pos rfl,
      scan_token_cons, if_neg hc]
    rfl
  · rw [mayFollow_three] at hc
    have hglyph : Marker.ofGlyph? c = none := by
      cases hmarker : Marker.ofGlyph? c with
      | none => rfl
      | some m => exact absurd ⟨m, Marker.ofGlyph?_eq_some_iff.mp hmarker⟩ hc
    rw [List.cons_append, List.cons_append, List.singleton_append, scan_letter, scan_token_cons,
      if_pos rfl, scan_token_cons, if_pos rfl, scan_glyph_cons, hglyph]
    rfl

/-- A token that is cut off takes what is left of the text. -/
theorem next_of_cutOff {letters : List Char} (hletters : letters <+: Marker.stem.toList)
    (hbegun : letters ≠ []) (p : Position) :
    next ⟨p, letters⟩ = (.error (.unexpected 'O' p), ⟨p.advanceAll letters, []⟩) := by
  rw [next]
  rcases prefix_stem_iff.mp hletters with rfl | rfl | rfl | rfl
  · contradiction
  · rw [scan_letter]
    rfl
  · rw [scan_letter, scan_token_cons, if_pos rfl]
    rfl
  · rw [scan_letter, scan_token_cons, if_pos rfl, scan_token_cons, if_pos rfl]
    rfl

/-- After a slash the character that is no star is left alone. -/
theorem next_of_slash {rest : List Char} (hrest : rest.head? ≠ some '*') (p : Position) :
    next ⟨p, '/' :: rest⟩ = (.error (.unexpected '/' p), ⟨p.advance '/', rest⟩) := by
  rw [next, scan_slash]
  cases rest with
  | nil => rfl
  | cons c rest =>
    have hc : c ≠ '*' := by
      intro hstar
      exact hrest (congrArg some hstar)
    rw [scan_slash_cons, if_neg hc]

/-- Where a text goes wrong outside of comments reading stops, and the right character is blamed at
    its own place. -/
theorem next_of_stray {text letters : List Char} {found : Char} (h : Stray text letters found)
    (p : Position) : (next ⟨p, text⟩).1 = .error (.unexpected found (p.advanceAll letters)) := by
  cases h with
  | character hletters hc => rw [next_of_not_mayFollow hletters hc]
  | slash hrest => rw [next_of_slash hrest, Position.advanceAll_nil]
  | cutOff hletters hbegun => rw [next_of_cutOff hletters hbegun, Position.advanceAll_nil]

end Reader

end OokLang.Source
