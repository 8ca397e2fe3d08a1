import OokLang.Proofs.Reading.RoundTrip

namespace OokLang.Program

namespace Scan

/-- The pairs that markers form from the left. A last marker without a partner is in none. -/
def pairs : List Marker → List (Marker × Marker)
  | first :: second :: rest => (first, second) :: pairs rest
  | _ => []

theorem pairs_of_short {markers : List Marker} (hshort : markers.length < 2) :
    pairs markers = [] := by
  match markers with
  | [] => rfl
  | [_] => rfl

/-- The loops that are open after a pair, given its number and the loops that are open before it.
    The innermost comes first. -/
def openAfter (number : Nat) (openLoops : List Nat) : Marker × Marker → List Nat
  | (.bang, .question) => number :: openLoops
  | (.question, .bang) => openLoops.tail
  | _ => openLoops

/-- The loops that are open after some pairs, which are numbered from one. -/
def stillOpen (ps : List (Marker × Marker)) : List Nat :=
  ps.zipIdx.foldl (fun loops (pair, index) => openAfter (index + 1) loops pair) []

theorem stillOpen_take_succ {ps : List (Marker × Marker)} {index : Nat} {pair : Marker × Marker}
    (hpair : ps[index]? = some pair) :
    stillOpen (ps.take (index + 1)) = openAfter (index + 1) (stillOpen (ps.take index)) pair := by
  have hlt := (List.getElem?_eq_some_iff.mp hpair).1
  have hlength : (ps.take index).length = index := List.length_take_of_le (Nat.le_of_lt hlt)
  unfold stillOpen
  rw [List.take_add_one, hpair, List.zipIdx_append, List.foldl_append, hlength]
  simp

/-- What is wrong with a pair, given its number and the loops that are open before it. -/
def offence (limit number : Nat) (openLoops : List Nat) : Marker × Marker → Option Error
  | (.question, .question) => some (.meaningless number)
  | (.dot, .bang) => some (.readsInput number)
  | (.question, .bang) => if openLoops = [] then some (.unmatchedEnd number) else none
  | (.bang, .question) =>
    if openLoops.length = limit then some (.tooDeep number limit) else none
  | _ => none

/-- As long as no pair offends, no more loops are open than are allowed to be. -/
theorem openAfter_length_le {limit number : Nat} {openLoops : List Nat} {pair : Marker × Marker}
    (hroom : openLoops.length ≤ limit) (hnone : offence limit number openLoops pair = none) :
    (openAfter number openLoops pair).length ≤ limit := by
  unfold openAfter
  split
  · have hlimit : openLoops.length ≠ limit := by
      intro hfull
      simp [offence, hfull] at hnone
    rw [List.length_cons]
    omega
  · rw [List.length_tail]
    omega
  · exact hroom

/-- What is wrong with the pair at an index, given the pairs before it. -/
def offenceAt (limit : Nat) (ps : List (Marker × Marker)) (index : Nat) : Option Error :=
  ps[index]?.bind (offence limit (index + 1) (stillOpen (ps.take index)))

theorem offenceAt_of_getElem? {limit index : Nat} {ps : List (Marker × Marker)}
    {pair : Marker × Marker} (hpair : ps[index]? = some pair) :
    offenceAt limit ps index = offence limit (index + 1) (stillOpen (ps.take index)) pair := by
  rw [offenceAt, hpair, Option.bind_some]

theorem offenceAt_of_length_le {limit index : Nat} {ps : List (Marker × Marker)}
    (hle : ps.length ≤ index) : offenceAt limit ps index = none := by
  rw [offenceAt, List.getElem?_eq_none hle, Option.bind_none]

/-- The error of a scan from the left: that of the first pair that offends or, if none does, of the
    innermost loop that is open at the end. -/
def FirstError (limit : Nat) (ps : List (Marker × Marker)) (e : Error) : Prop :=
  (∃ index, offenceAt limit ps index = some e ∧ ∀ j < index, offenceAt limit ps j = none) ∨
    ((∀ index, offenceAt limit ps index = none) ∧
      ∃ number outer, stillOpen ps = number :: outer ∧ e = .unmatchedStart number)

theorem FirstError.unique {limit : Nat} {ps : List (Marker × Marker)} {e e' : Error}
    (h : FirstError limit ps e) (h' : FirstError limit ps e') : e = e' := by
  rcases h with ⟨i, hi, hbefore⟩ | ⟨hnone, number, outer, hopen, rfl⟩
  · rcases h' with ⟨j, hj, hbefore'⟩ | ⟨hnone, _⟩
    · rcases Nat.lt_trichotomy i j with hlt | rfl | hlt
      · rw [hbefore' i hlt] at hi
        cases hi
      · rw [hi] at hj
        exact Option.some.inj hj
      · rw [hbefore j hlt] at hj
        cases hj
    · rw [hnone i] at hi
      cases hi
  · rcases h' with ⟨j, hj, _⟩ | ⟨_, number', outer', hopen', rfl⟩
    · rw [hnone j] at hj
      cases hj
    · rw [hopen] at hopen'
      rw [(List.cons.inj hopen').1]

end Scan

open Scan

namespace Reader

/-- A reader is part of the way through a list of pairs, and none that it has passed offends. -/
structure Reached (limit : Nat) (ps : List (Marker × Marker)) (r : Reader) : Prop where
  limit_eq : r.limit = limit
  pairs_eq : pairs r.rest = ps.drop r.read
  openLoops_eq : r.openLoops = stillOpen (ps.take r.read)
  room : r.openLoops.length ≤ limit
  harmless : ∀ j < r.read, offenceAt limit ps j = none

theorem reached_start (limit : Nat) (markers : List Marker) :
    Reached limit (pairs markers) { rest := markers, limit } where
  limit_eq := rfl
  pairs_eq := rfl
  openLoops_eq := rfl
  room := Nat.zero_le limit
  harmless := nofun

section Pair

variable {limit read limit' : Nat} {ps : List (Marker × Marker)} {first second : Marker}
  {rest : List Marker} {opened : List Nat}

/-- The pair that the reader comes upon is the one at the index that it has reached. -/
theorem Reached.getElem?_eq
    (h : Reached limit ps ⟨first :: second :: rest, read, opened, limit'⟩) :
    ps[read]? = some (first, second) := by
  have hpairs : (first, second) :: pairs rest = ps.drop read := h.pairs_eq
  have hfirst : (ps.drop read)[0]? = ps[read]? := by rw [List.getElem?_drop, Nat.add_zero]
  rw [← hfirst, ← hpairs]
  rfl

theorem Reached.offenceAt_eq
    (h : Reached limit ps ⟨first :: second :: rest, read, opened, limit'⟩) :
    offenceAt limit ps read = offence limit (read + 1) opened (first, second) := by
  rw [offenceAt_of_getElem? h.getElem?_eq, ← h.openLoops_eq]

/-- A pair that does not offend may be passed. -/
theorem Reached.pass
    (h : Reached limit ps ⟨first :: second :: rest, read, opened, limit'⟩)
    (hnone : offence limit (read + 1) opened (first, second) = none) :
    Reached limit ps ⟨rest, read + 1, openAfter (read + 1) opened (first, second), limit'⟩ where
  limit_eq := h.limit_eq
  pairs_eq := by
    have hpairs : (first, second) :: pairs rest = ps.drop read := h.pairs_eq
    change pairs rest = ps.drop (read + 1)
    rw [← List.tail_drop, ← hpairs, List.tail_cons]
  openLoops_eq := by
    have hopen : opened = stillOpen (ps.take read) := h.openLoops_eq
    change openAfter (read + 1) opened (first, second) = stillOpen (ps.take (read + 1))
    rw [stillOpen_take_succ h.getElem?_eq, ← hopen]
  room := openAfter_length_le h.room hnone
  harmless := by
    intro j hj
    rcases Nat.lt_succ_iff_lt_or_eq.mp hj with hlt | rfl
    · exact h.harmless j hlt
    · rw [h.offenceAt_eq, hnone]

/-- A pair that offends is the first one that does. -/
theorem Reached.firstError {e : Error}
    (h : Reached limit ps ⟨first :: second :: rest, read, opened, limit'⟩)
    (hoffence : offence limit (read + 1) opened (first, second) = some e) :
    FirstError limit ps e :=
  .inl ⟨read, h.offenceAt_eq.trans hoffence, h.harmless⟩

end Pair

/-- Where fewer than two markers are left, every pair has been passed. -/
theorem Reached.finished {limit : Nat} {ps : List (Marker × Marker)} {r : Reader}
    (h : Reached limit ps r) (hshort : r.rest.length < 2) :
    stillOpen ps = r.openLoops ∧ ∀ index, offenceAt limit ps index = none := by
  have hdrop : ps.drop r.read = [] := by rw [← h.pairs_eq, pairs_of_short hshort]
  have hle : ps.length ≤ r.read := List.drop_eq_nil_iff.mp hdrop
  refine ⟨?_, fun index => ?_⟩
  · rw [h.openLoops_eq, List.take_of_length_le hle]
  · by_cases hlt : index < r.read
    · exact h.harmless index hlt
    · exact offenceAt_of_length_le (by omega)

theorem Reached.after_simple {limit : Nat} {ps : List (Marker × Marker)} {r r' : Reader}
    {i : Instruction} (h : Reached limit ps r) (hshows : r.Shows (.simple i r')) :
    Reached limit ps r' := by
  cases hshows with
  | simple i hplain =>
    obtain ⟨hinput, hstart, hend⟩ := hplain
    cases i with
    | moveRight | moveLeft | increment | decrement | output => exact h.pass rfl
    | input => contradiction
    | loopStart => contradiction
    | loopEnd => contradiction

theorem Reached.after_opening {limit : Nat} {ps : List (Marker × Marker)} {r r' : Reader}
    (h : Reached limit ps r) (hshows : r.Shows (.opening r')) : Reached limit ps r' := by
  cases hshows with
  | @opening rest read limit' openLoops hlt =>
    obtain rfl : limit' = limit := h.limit_eq
    exact h.pass (if_neg (Nat.ne_of_lt hlt))

theorem Reached.after_ending {limit : Nat} {ps : List (Marker × Marker)} {r r' : Reader}
    (h : Reached limit ps r) (hshows : r.Shows (.ending r')) : Reached limit ps r' := by
  cases hshows with
  | @ending rest read number limit' outer =>
    have hnone : offence limit (read + 1) (number :: outer) (.question, .bang) = none := by
      simp [offence]
    exact h.pass hnone
  | finish => exact h

theorem Reached.fault {limit : Nat} {ps : List (Marker × Marker)} {r r' : Reader} {e : Error}
    (h : Reached limit ps r) (hshows : r.Shows (.fault e r')) : FirstError limit ps e := by
  cases hshows with
  | meaningless => exact h.firstError rfl
  | readsInput => exact h.firstError rfl
  | @tooDeep rest read limit' openLoops hle =>
    obtain rfl : limit' = limit := h.limit_eq
    exact h.firstError (if_pos (Nat.le_antisymm h.room hle))
  | @unmatchedEnd rest read limit' =>
    have hoffence : offence limit (read + 1) [] (.question, .bang) =
        some (.unmatchedEnd (read + 1)) := by simp [offence]
    exact h.firstError hoffence
  | unmatchedStart hshort =>
    obtain ⟨hopen, hnone⟩ := h.finished hshort
    exact .inr ⟨hnone, _, _, hopen, rfl⟩

/-- Reading passes no pair that offends. -/
theorem Reached.reads {limit : Nat} {ps : List (Marker × Marker)} {r r' : Reader} {p : Program}
    (h : Reached limit ps r) (hreads : r.Reads p r') : Reached limit ps r' := by
  induction hreads with
  | nil => exact h
  | instr hsimple _ ih => exact ih (h.after_simple hsimple)
  | loop hopening _ hending _ ihbody ihrest =>
    exact ihrest ((ihbody (h.after_opening hopening)).after_ending hending)

/-- Reading stops at the first error, however deep inside of loops it comes up. -/
theorem Reached.stops {limit : Nat} {ps : List (Marker × Marker)} {r r' : Reader} {e : Error}
    (h : Reached limit ps r) (hstops : r.Stops e r') : FirstError limit ps e := by
  induction hstops with
  | here hfault => exact h.fault hfault
  | instr hsimple _ ih => exact ih (h.after_simple hsimple)
  | inside hopening _ ih => exact ih (h.after_opening hopening)
  | loop hopening hbody hending _ ih =>
    exact ih (((h.after_opening hopening).reads hbody).after_ending hending)

/-- A block that ends with no loop open leaves no error behind. -/
theorem Reached.no_firstError {limit : Nat} {ps : List (Marker × Marker)} {r : Reader} {e : Error}
    (h : Reached limit ps r) (hshort : r.rest.length < 2) (hopen : r.openLoops = []) :
    ¬FirstError limit ps e := by
  obtain ⟨hloops, hnone⟩ := h.finished hshort
  rintro (⟨index, hindex, _⟩ | ⟨_, number, outer, hcons, _⟩)
  · rw [hnone index] at hindex
    cases hindex
  · rw [hloops, hopen] at hcons
    cases hcons

end Reader

/-- Markers that come in pairs are refused exactly for the first error among them. -/
theorem ofMarkers_error_of_even {markers : List Marker} (limit : Nat) (e : Error)
    (heven : markers.length % 2 = 0) :
    ofMarkers markers limit = .error e ↔ FirstError limit (pairs markers) e := by
  have hstart := Reader.reached_start limit markers
  rw [ofMarkers_of_even limit heven]
  rcases Reader.block_cases { rest := markers, limit } with
    ⟨p, last, r', hreads, hending, hblock⟩ | ⟨e', r', hstops, hblock⟩
  · rw [hblock]
    have hlast := hstart.reads hreads
    obtain ⟨_, _, rest, _, rfl⟩ := hreads.markers
    cases hending with
    | finish hshort =>
      constructor
      · nofun
      · intro herror
        exact absurd herror (hlast.no_firstError hshort rfl)
  · have hfirst := hstart.stops hstops
    rw [hblock]
    constructor
    · intro herror
      cases herror
      exact hfirst
    · intro herror
      rw [hfirst.unique herror]

/-- Reading fails for an odd number of markers, and else for the first error of a scan from the
    left. It fails for nothing else. -/
theorem ofMarkers_eq_error_iff (markers : List Marker) (limit : Nat) (e : Error) :
    ofMarkers markers limit = .error e ↔
      (markers.length % 2 = 1 ∧ e = .oddCount markers.length) ∨
        (markers.length % 2 = 0 ∧ FirstError limit (pairs markers) e) := by
  rcases Nat.mod_two_eq_zero_or_one markers.length with heven | hodd
  · simp [ofMarkers_error_of_even limit e heven, heven]
  · simp [ofMarkers_of_odd limit hodd, hodd, eq_comm]

end OokLang.Program
