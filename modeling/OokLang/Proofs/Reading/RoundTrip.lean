import OokLang.Proofs.Reading.Pieces

namespace OokLang.Program

/-- Whether a program may have been read: none of its instructions, inside of its loops or not, asks
    for input or is the mark of a loop. -/
def IsPlain : Program → Prop
  | nil => True
  | instr i rest => i.IsPlain ∧ rest.IsPlain
  | loop body rest => body.IsPlain ∧ rest.IsPlain

namespace Reader

/-- What is read is a plain program that nests no deeper than the loops that may still be opened,
    and its markers are what the reader has passed. -/
theorem Reads.markers {r r' : Reader} {p : Program} (h : r.Reads p r') :
    p.IsPlain ∧ p.nesting ≤ r.limit - r.openLoops.length ∧
      ∃ rest, r.rest = p.markers ++ rest ∧
        r' = { r with rest, read := r.read + p.instructions.length } := by
  induction h with
  | nil r => exact ⟨trivial, Nat.zero_le _, r.rest, rfl, rfl⟩
  | @instr r r' r'' i rest hsimple _ ih =>
    obtain ⟨hrest, hnesting, after, hmarkers, hreader⟩ := ih
    cases hsimple with
    | simple i hplain =>
      refine ⟨⟨hplain, hrest⟩, hnesting, after, ?_, ?_⟩
      · rw [markers_instr, List.cons_append, List.cons_append, ← hmarkers]
      · rw [hreader, instructions, List.length_cons]
        simp only [Reader.mk.injEq, true_and, and_true]
        omega
  | @loop r inside last after r' body rest hopening _ hending _ ihbody ihrest =>
    obtain ⟨hbody, hdeep, inner, hinner, rfl⟩ := ihbody
    obtain ⟨hrest, hnesting, outer, houter, rfl⟩ := ihrest
    cases hopening with
    | @opening start read limit openLoops hlt =>
      cases hending with
      | @ending tail =>
        have hroom : body.nesting + 1 ≤ limit - openLoops.length := by
          change body.nesting ≤ limit - (openLoops.length + 1) at hdeep
          omega
        refine ⟨⟨hbody, hrest⟩, Nat.max_le.mpr ⟨hroom, hnesting⟩, outer, ?_, ?_⟩
        · change start = _ at hinner
          change tail = rest.markers ++ outer at houter
          change Marker.bang :: Marker.question :: start = _
          rw [hinner, houter, markers_loop]
          simp
        · simp only [instructions, List.length_cons, List.length_append, Reader.mk.injEq, true_and,
            and_true]
          omega

/-- Conversely the markers of such a program are read as it, whatever follows them. -/
theorem reads_markers (p : Program) (read limit : Nat) (openLoops : List Nat)
    (rest : List Marker) (hplain : p.IsPlain) (hnesting : p.nesting ≤ limit - openLoops.length) :
    Reads ⟨p.markers ++ rest, read, openLoops, limit⟩ p
      ⟨rest, read + p.instructions.length, openLoops, limit⟩ := by
  induction p generalizing read openLoops rest with
  | nil => exact .nil _
  | instr i next ih =>
    have hnext := ih (read + 1) openLoops rest hplain.2 hnesting
    rw [instructions, List.length_cons, Nat.add_comm next.instructions.length, ← Nat.add_assoc]
    exact .instr (.simple i hplain.1) hnext
  | loop body next ihbody ihnext =>
    have hmax := Nat.max_le.mp hnesting
    have hlt : openLoops.length < limit := by omega
    have hroom : body.nesting ≤ limit - ((read + 1) :: openLoops).length := by
      rw [List.length_cons]
      omega
    have hbody := ihbody (read + 1) ((read + 1) :: openLoops)
      (.question :: .bang :: (next.markers ++ rest)) hplain.1 hroom
    have hnext := ihnext (read + 1 + body.instructions.length + 1) openLoops rest hplain.2 hmax.2
    have hread : read + (loop body next).instructions.length =
        read + 1 + body.instructions.length + 1 + next.instructions.length := by
      simp only [instructions, List.length_cons, List.length_append]
      omega
    have hmarkers : (loop body next).markers ++ rest =
        .bang :: .question :: (body.markers ++ .question :: .bang :: (next.markers ++ rest)) := by
      simp
    rw [hread, hmarkers]
    exact .loop (.opening hlt) hbody .ending hnext

/-- With no loop open a block goes on to the end of the markers, but for a last one without a
    partner. -/
theorem block_eq_ok_of_openLoops_nil {markers : List Marker} {read limit : Nat}
    {p : Program} :
    (block ⟨markers, read, [], limit⟩).1 = .ok p ↔
      p.IsPlain ∧ p.nesting ≤ limit ∧ ∃ rest, rest.length < 2 ∧ markers = p.markers ++ rest := by
  constructor
  · intro hread
    rcases block_cases ⟨markers, read, [], limit⟩ with
      ⟨q, last, r', hreads, hending, hblock⟩ | ⟨e, r', _, hblock⟩
    · rw [hblock] at hread
      obtain rfl : q = p := Except.ok.inj hread
      obtain ⟨hplain, hnesting, rest, hmarkers, rfl⟩ := hreads.markers
      cases hending with
      | finish hshort => exact ⟨hplain, hnesting, rest, hshort, hmarkers⟩
    · rw [hblock] at hread
      cases hread
  · rintro ⟨hplain, hnesting, rest, hshort, rfl⟩
    have hreads := reads_markers p read limit [] rest hplain hnesting
    rw [block_eq_ok_iff.mpr ⟨_, hreads, .finish hshort⟩]

end Reader

theorem even_length_markers (p : Program) : p.markers.length % 2 = 0 := by
  rw [markers_length]
  omega

/-- A list of markers that is read as a program spells it. -/
theorem spells_of_ofMarkers {markers : List Marker} {limit : Nat} {p : Program}
    (hread : ofMarkers markers limit = .ok p) :
    p.IsPlain ∧ p.nesting ≤ limit ∧ markers = p.markers := by
  rcases Nat.mod_two_eq_zero_or_one markers.length with heven | hodd
  · rw [ofMarkers_of_even limit heven] at hread
    obtain ⟨hplain, hnesting, rest, hshort, hmarkers⟩ :=
      Reader.block_eq_ok_of_openLoops_nil.mp hread
    have hlength := p.even_length_markers
    rw [hmarkers, List.length_append] at heven
    obtain rfl : rest = [] := List.length_eq_zero_iff.mp (by omega)
    exact ⟨hplain, hnesting, by rw [hmarkers, List.append_nil]⟩
  · rw [ofMarkers_of_odd limit hodd] at hread
    cases hread

theorem ofMarkers_markers {p : Program} {limit : Nat} (hplain : p.IsPlain)
    (hnesting : p.nesting ≤ limit) : ofMarkers p.markers limit = .ok p := by
  rw [ofMarkers_of_even limit p.even_length_markers, Reader.block_eq_ok_of_openLoops_nil]
  exact ⟨hplain, hnesting, [], Nat.zero_lt_two, (List.append_nil _).symm⟩

/-- A list of markers is read as a program exactly if it spells a plain program that nests no deeper
    than allowed. -/
theorem ofMarkers_eq_ok_iff (markers : List Marker) (limit : Nat) (p : Program) :
    ofMarkers markers limit = .ok p ↔
      p.IsPlain ∧ p.nesting ≤ limit ∧ markers = p.markers := by
  refine ⟨spells_of_ofMarkers, ?_⟩
  rintro ⟨hplain, hnesting, rfl⟩
  exact ofMarkers_markers hplain hnesting

end OokLang.Program
