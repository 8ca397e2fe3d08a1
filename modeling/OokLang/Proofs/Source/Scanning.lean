import OokLang.Proofs.Source.Items
import OokLang.Source.Reader

namespace OokLang.Source

namespace Reader

theorem scan_blank {c : Char} (hblank : Text.isBlank c = true) (p : Position) (rest : List Char) :
    scan .gap p (c :: rest) = scan .gap (p.advance c) rest := by
  rw [scan_gap_cons, if_pos hblank]

theorem scan_slash (p : Position) (rest : List Char) :
    scan .gap p ('/' :: rest) = scan (.slash p) (p.advance '/') rest := by
  rw [scan_gap_cons, if_neg (by decide), if_pos rfl]

theorem scan_letter (p : Position) (rest : List Char) :
    scan .gap p ('O' :: rest) = scan (.token p ['o', 'k']) (p.advance 'O') rest := by
  rw [scan_gap_cons, if_neg (by decide), if_neg (by decide), if_pos rfl]

theorem scan_opener (p : Position) (rest : List Char) :
    scan .gap p ('/' :: '*' :: rest) = scan (.comment p false) (p.advanceAll ['/', '*']) rest := by
  rw [scan_slash, scan_slash_cons, if_pos rfl]
  rfl

/-- Inside of a comment all is passed up to a closer. If a star comes right before the text, no
    slash may come first. -/
theorem scan_comment_body {body : List Char} {star : Bool} (hbody : ¬HasCloser body)
    (hstar : star = true → body.head? ≠ some '/') (opened p : Position) (rest : List Char) :
    scan (.comment opened star) p (body ++ rest) =
      scan (.comment opened (body.foldl (fun _ c => c = '*') star)) (p.advanceAll body) rest := by
  induction body generalizing star p with
  | nil => rfl
  | cons c body ih =>
    rw [hasCloser_cons, not_or, not_and] at hbody
    have hgoesOn : ¬(star && c = '/') = true := by
      intro hcloses
      rw [Bool.and_eq_true, decide_eq_true_eq] at hcloses
      exact hstar hcloses.1 (congrArg some hcloses.2)
    have hnext : decide (c = '*') = true → body.head? ≠ some '/' := by
      intro hset
      exact hbody.1 (of_decide_eq_true hset)
    rw [List.cons_append, scan_comment_cons, if_neg hgoesOn, ih hbody.2 hnext]
    rfl

/-- A comment is passed up to its first closer. -/
theorem scan_comment {body : List Char} (hbody : ¬HasCloser (body ++ ['*'])) (opened p : Position)
    (rest : List Char) :
    scan (.comment opened false) p (body ++ '*' :: '/' :: rest) =
      scan .gap (p.advanceAll (body ++ ['*', '/'])) rest := by
  -- The star of the closer counts as the end of the body, so that only the slash is left.
  have htext : body ++ '*' :: '/' :: rest = (body ++ ['*']) ++ '/' :: rest := by simp
  have hset : (body ++ ['*']).foldl (fun _ c => decide (c = '*')) false = true := by
    rw [List.foldl_append]
    rfl
  have hplace : p.advanceAll (body ++ ['*', '/']) = (p.advanceAll (body ++ ['*'])).advance '/' := by
    rw [Position.advanceAll_append, Position.advanceAll_append]
    rfl
  rw [htext, scan_comment_body hbody (fun hfalse => absurd hfalse Bool.false_ne_true), hset,
    hplace, scan_comment_cons, if_pos (by decide)]

/-- Without a closer a comment takes all of the text. -/
theorem scan_comment_unclosed {body : List Char} (hbody : ¬HasCloser body) (opened p : Position) :
    scan (.comment opened false) p body =
      (.error (.unclosedComment opened), ⟨p.advanceAll body, []⟩) := by
  have hscan := scan_comment_body hbody (fun hfalse => absurd hfalse Bool.false_ne_true) opened p []
  rw [List.append_nil] at hscan
  rw [hscan]
  rfl

theorem scan_gap (g : Gap) (p : Position) (rest : List Char) :
    scan .gap p (g.text ++ rest) = scan .gap (p.advanceAll g.text) rest := by
  cases g with
  | blank c hblank => exact scan_blank hblank p rest
  | comment body hbody =>
    have htext : (Gap.comment body hbody).text ++ rest =
        '/' :: '*' :: (body ++ '*' :: '/' :: rest) := by simp [Gap.text]
    rw [htext, scan_opener, scan_comment hbody, ← Position.advanceAll_append]
    rfl

theorem scan_token (m : Marker) (p : Position) (rest : List Char) :
    scan .gap p (m.token.toList ++ rest) =
      (.ok (some m), ⟨p.advanceAll m.token.toList, rest⟩) := by
  rw [Marker.token_toList]
  simp only [List.cons_append, List.nil_append]
  rw [scan_letter, scan_token_cons, if_pos rfl, scan_token_cons, if_pos rfl, scan_glyph_cons,
    Marker.ofGlyph?_glyph]
  rfl

/-- How reading goes on is settled by what comes next. -/
theorem collectAfter_eq (done : List Marker) (r : Reader) :
    r.collectAfter done =
      match r.next with
      | (.ok (some marker), r') => r'.collectAfter (marker :: done)
      | (.ok none, r') => (.ok done.reverse, r')
      | (.error e, r') => (.error e, r') := by
  rw [collectAfter]
  split <;> rename_i hnext <;> simp only [hnext]

theorem collectAfter_nil (done : List Marker) (p : Position) :
    collectAfter done ⟨p, []⟩ = (.ok done.reverse, ⟨p, []⟩) := by
  rw [collectAfter_eq]
  rfl

theorem collectAfter_of_error {r : Reader} {e : Error} (hnext : r.next.1 = .error e)
    (done : List Marker) : (r.collectAfter done).1 = .error e := by
  rw [collectAfter_eq]
  split <;> rename_i hresult <;> rw [hresult] at hnext
  · cases hnext
  · cases hnext
  · cases hnext
    rfl

theorem collectAfter_gap (g : Gap) (done : List Marker) (p : Position) (rest : List Char) :
    collectAfter done ⟨p, g.text ++ rest⟩ = collectAfter done ⟨p.advanceAll g.text, rest⟩ := by
  rw [collectAfter_eq, collectAfter_eq done ⟨p.advanceAll g.text, rest⟩, next, next, scan_gap]

theorem collectAfter_token (m : Marker) (done : List Marker) (p : Position) (rest : List Char) :
    collectAfter done ⟨p, m.token.toList ++ rest⟩ =
      collectAfter (m :: done) ⟨p.advanceAll m.token.toList, rest⟩ := by
  rw [collectAfter_eq, next, scan_token]

/-- Items are passed, and the markers among them are read. -/
theorem collectAfter_items (items : List Item) (done : List Marker) (p : Position)
    (rest : List Char) :
    collectAfter done ⟨p, Item.spell items ++ rest⟩ =
      collectAfter ((Item.markers items).reverse ++ done)
        ⟨p.advanceAll (Item.spell items), rest⟩ := by
  induction items generalizing done p with
  | nil => rfl
  | cons i items ih =>
    rw [Item.spell_cons, List.append_assoc, Position.advanceAll_append]
    cases i with
    | gap g => rw [Item.text, collectAfter_gap, ih, Item.markers_gap]
    | token m =>
      rw [Item.text, collectAfter_token, ih, Item.markers_token, List.reverse_cons,
        List.append_assoc, List.singleton_append]

end Reader

end OokLang.Source
