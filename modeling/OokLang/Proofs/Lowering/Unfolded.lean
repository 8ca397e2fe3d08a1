import OokLang.Proofs.Lowering.Jumps
import OokLang.Proofs.Reading.FirstError
import OokLang.Proofs.Reading.Spelling

namespace OokLang

theorem Instruction.op_injective : Function.Injective op := by
  intro i j h
  cases i <;> cases j <;> first | rfl | cases h

theorem Instruction.op_ne_skipIfZero (i : Instruction) (distance : Nat) :
    i.op ≠ .skipIfZero distance := by
  cases i <;> nofun

theorem Code.emit_false (code : Code) (op : Op) : Code.emit false code op = code.push op := rfl

namespace Program

/-- The operations of a program if nothing is folded: one for each instruction, and two for each
    loop around those of its body. -/
def unfolded : Program → List Op
  | nil => []
  | instr i rest => i.op :: rest.unfolded
  | loop body rest =>
    .skipIfZero (body.unfolded.length + 2) ::
      (body.unfolded ++ .backUnlessZero body.unfolded.length :: rest.unfolded)

theorem toList_lowerAfter_false (p : Program) (code : Code) :
    (p.lowerAfter false code).toList = code.toList ++ p.unfolded := by
  induction p generalizing code with
  | nil => rw [lowerAfter, unfolded, List.append_nil]
  | instr i rest ih =>
    rw [lowerAfter, ih, Code.emit_false, Array.toList_push, List.append_assoc]
    rfl
  | loop body rest ihbody ihrest =>
    have hbody : (body.lower false).toList = body.unfolded := ihbody #[]
    have hsize : (body.lower false).size = body.unfolded.length := by
      rw [← hbody, Array.length_toList]
    rw [lowerAfter_loop, ihrest]
    simp [Code.loop, unfolded, hbody, hsize]

theorem toList_lower_false (p : Program) : (p.lower false).toList = p.unfolded :=
  p.toList_lowerAfter_false #[]

/-- The distance of the jump at the start of a loop tells where its body ends. -/
theorem unfolded_injective : Function.Injective unfolded := by
  intro p q h
  induction p generalizing q with
  | nil => cases q <;> first | rfl | cases h
  | instr i rest ih =>
    cases q with
    | nil => cases h
    | instr j rest' =>
      obtain ⟨hop, hrest⟩ := List.cons.inj h
      rw [Instruction.op_injective hop, ih hrest]
    | loop body rest' => exact absurd (List.cons.inj h).1 (i.op_ne_skipIfZero _)
  | loop body rest ihbody ihrest =>
    cases q with
    | nil => cases h
    | instr j rest' => exact absurd (List.cons.inj h).1.symm (j.op_ne_skipIfZero _)
    | loop body' rest' =>
      obtain ⟨hskip, hafter⟩ := List.cons.inj h
      have hlength : body.unfolded.length = body'.unfolded.length :=
        Nat.add_right_cancel (Op.skipIfZero.inj hskip)
      obtain ⟨hbody, hback⟩ := List.append_inj hafter hlength
      rw [ihbody hbody, ihrest (List.cons.inj hback).2]

theorem length_unfolded (p : Program) : p.unfolded.length = p.instructions.length := by
  induction p with
  | nil => rfl
  | instr i rest ih => rw [unfolded, instructions, List.length_cons, List.length_cons, ih]
  | loop body rest ihbody ihrest =>
    simp only [unfolded, instructions, List.length_cons, List.length_append, ihbody, ihrest]

namespace Scan

/-- The operation that a pair of markers stands for whatever the other pairs are. -/
def simpleOp? : Marker × Marker → Option Op
  | (.dot, .question) => some (.shift 1)
  | (.question, .dot) => some (.shift (-1))
  | (.dot, .dot) => some (.add 1)
  | (.bang, .bang) => some (.sub 1)
  | (.bang, .dot) => some (.write 1)
  | _ => none

/-- One pair opens a loop that another one closes: it opened the innermost of the loops that are
    open there. Pairs have indices from zero on, and loops the numbers of their pairs from one. -/
structure Matches (ps : List (Marker × Marker)) (first last : Nat) : Prop where
  lt : first < last
  opens : ps[first]? = some (.bang, .question)
  closes : ps[last]? = some (.question, .bang)
  innermost : (stillOpen (ps.take last)).head? = some (first + 1)

/-- The operation that the pair at an index stands for among the others. -/
inductive StandsFor (ps : List (Marker × Marker)) : Nat → Op → Prop where
  | simple {index : Nat} {pair : Marker × Marker} {op : Op} (hpair : ps[index]? = some pair)
      (hop : simpleOp? pair = some op) : StandsFor ps index op
  | opening {first last : Nat} (hmatches : Matches ps first last) :
      StandsFor ps first (.skipIfZero (last - first + 1))
  | closing {first last : Nat} (hmatches : Matches ps first last) :
      StandsFor ps last (.backUnlessZero (last - first - 1))

theorem stillOpen_concat (before : List (Marker × Marker)) (pair : Marker × Marker) :
    stillOpen (before ++ [pair]) = openAfter (before.length + 1) (stillOpen before) pair := by
  unfold stillOpen
  rw [List.zipIdx_append, List.foldl_append]
  simp

theorem openAfter_markers {i : Instruction} (hplain : i.IsPlain) (number : Nat)
    (openLoops : List Nat) : openAfter number openLoops i.markers = openLoops := by
  obtain ⟨_, hstart, hend⟩ := hplain
  cases i <;> first | rfl | contradiction

theorem simpleOp?_markers {i : Instruction} (hplain : i.IsPlain) :
    simpleOp? i.markers = some i.op := by
  obtain ⟨hinput, hstart, hend⟩ := hplain
  cases i <;> first | rfl | contradiction

theorem pairs_flatMap_markers (is : List Instruction) :
    pairs (is.flatMap fun i => [i.markers.1, i.markers.2]) = is.map Instruction.markers := by
  induction is with
  | nil => rfl
  | cons i is ih =>
    rw [List.map_cons, ← ih]
    rfl

end Scan

open Scan

/-- The pairs of markers that a program is written with. -/
def markerPairs (p : Program) : List (Marker × Marker) :=
  p.instructions.map Instruction.markers

theorem pairs_markers (p : Program) : pairs p.markers = p.markerPairs :=
  pairs_flatMap_markers p.instructions

theorem length_markerPairs (p : Program) : p.markerPairs.length = p.unfolded.length := by
  rw [markerPairs, List.length_map, length_unfolded]

@[simp] theorem markerPairs_nil : nil.markerPairs = [] := rfl

@[simp] theorem markerPairs_instr (i : Instruction) (rest : Program) :
    (instr i rest).markerPairs = i.markers :: rest.markerPairs := rfl

@[simp] theorem markerPairs_loop (body rest : Program) :
    (loop body rest).markerPairs =
      (.bang, .question) :: (body.markerPairs ++ (.question, .bang) :: rest.markerPairs) := by
  simp [markerPairs, instructions, Instruction.markers]

/-- After a plain program the same loops are open as before it. -/
theorem stillOpen_append_markerPairs {p : Program} (hplain : p.IsPlain)
    (before : List (Marker × Marker)) :
    stillOpen (before ++ p.markerPairs) = stillOpen before := by
  induction p generalizing before with
  | nil => rw [markerPairs_nil, List.append_nil]
  | instr i rest ih =>
    rw [markerPairs_instr, List.append_cons, ih hplain.2, stillOpen_concat,
      openAfter_markers hplain.1]
  | loop body rest ihbody ihrest =>
    rw [markerPairs_loop, List.append_cons, ← List.append_assoc, List.append_cons,
      ihrest hplain.2, stillOpen_concat, ihbody hplain.1, stillOpen_concat]
    rfl

/-- The two pairs of a loop match, wherever the loop stands. -/
theorem matches_loop {body : Program} (hplain : body.IsPlain)
    (before after : List (Marker × Marker)) :
    Matches (before ++ (.bang, .question) :: (body.markerPairs ++ (.question, .bang) :: after))
      before.length (before.length + 1 + body.unfolded.length) := by
  have hinside :
      before ++ (.bang, .question) :: (body.markerPairs ++ (.question, .bang) :: after) =
        (before ++ [(.bang, .question)] ++ body.markerPairs) ++ (.question, .bang) :: after := by
    simp
  have hlast : before.length + 1 + body.unfolded.length =
      (before ++ [(Marker.bang, Marker.question)] ++ body.markerPairs).length := by
    simp [length_markerPairs, Nat.add_assoc, Nat.add_comm 1]
  refine ⟨by omega, by simp, ?_, ?_⟩
  · rw [hinside, hlast]
    simp
  · rw [hinside, hlast, List.take_left, stillOpen_append_markerPairs hplain, stillOpen_concat]
    rfl

/-- Each operation of a plain program, wherever that stands, is the one that its pair stands for. -/
theorem standsFor_of_unfolded {p : Program} (hplain : p.IsPlain)
    (before after : List (Marker × Marker)) {index : Nat} {op : Op}
    (hop : p.unfolded[index]? = some op) :
    StandsFor (before ++ (p.markerPairs ++ after)) (before.length + index) op := by
  induction p generalizing before after index with
  | nil => cases hop
  | instr i rest ih =>
    cases index with
    | zero =>
      obtain rfl : i.op = op := Option.some.inj hop
      refine .simple ?_ (simpleOp?_markers hplain.1)
      simp [markerPairs_instr]
    | succ index =>
      have hrest := ih hplain.2 (before ++ [i.markers]) after hop
      simpa [markerPairs_instr, Nat.add_assoc, Nat.add_comm 1 index] using hrest
  | loop body rest ihbody ihrest =>
    have hmatches := matches_loop hplain.1 before (rest.markerPairs ++ after)
    have hlength := body.length_markerPairs
    rw [markerPairs_loop, List.cons_append, List.append_assoc, List.cons_append]
    rcases Op.getElem?_loop_cases hop with
      ⟨rfl, rfl⟩ | ⟨inside, rfl, hinside⟩ | ⟨rfl, rfl⟩ | ⟨behind, rfl, hbehind⟩
    · have hdistance : before.length + 1 + body.unfolded.length - before.length + 1 =
          body.unfolded.length + 2 := by omega
      have hopening := StandsFor.opening hmatches
      rwa [hdistance] at hopening
    · have hbody := ihbody hplain.1 (before ++ [(.bang, .question)])
        ((.question, .bang) :: (rest.markerPairs ++ after)) hinside
      simpa [Nat.add_assoc] using hbody
    · have hdistance : before.length + 1 + body.unfolded.length - before.length - 1 =
          body.unfolded.length := by omega
      have hclosing := StandsFor.closing hmatches
      rwa [hdistance, Nat.add_assoc, Nat.add_comm 1] at hclosing
    · have hrest := ihrest hplain.2
        (before ++ (.bang, .question) :: (body.markerPairs ++ [(.question, .bang)])) after hbehind
      simpa [hlength, Nat.add_assoc] using hrest

section Lower

variable {p : Program} {index first last : Nat} {pair : Marker × Marker} {op : Op}

theorem standsFor_of_lower (hplain : p.IsPlain) (hop : (p.lower false)[index]? = some op) :
    StandsFor p.markerPairs index op := by
  rw [← Array.getElem?_toList, toList_lower_false] at hop
  have hstands := standsFor_of_unfolded hplain [] [] hop
  simpa using hstands

theorem exists_lower_of_pair (hpair : p.markerPairs[index]? = some pair) :
    ∃ op, (p.lower false)[index]? = some op := by
  have hlt := (List.getElem?_eq_some_iff.mp hpair).1
  rw [length_markerPairs, ← toList_lower_false, Array.length_toList] at hlt
  exact ⟨_, Array.getElem?_eq_getElem hlt⟩

theorem lower_of_simple (hplain : p.IsPlain) (hpair : p.markerPairs[index]? = some pair)
    (hsimple : simpleOp? pair = some op) : (p.lower false)[index]? = some op := by
  obtain ⟨op', hop⟩ := exists_lower_of_pair hpair
  cases standsFor_of_lower hplain hop with
  | simple hpair' hsimple' =>
    obtain rfl := Option.some.inj (hpair.symm.trans hpair')
    obtain rfl := Option.some.inj (hsimple.symm.trans hsimple')
    exact hop
  | opening hmatches =>
    obtain rfl := Option.some.inj (hpair.symm.trans hmatches.opens)
    cases hsimple
  | closing hmatches =>
    obtain rfl := Option.some.inj (hpair.symm.trans hmatches.closes)
    cases hsimple

theorem lower_of_closing (hplain : p.IsPlain) (hmatches : Matches p.markerPairs first last) :
    (p.lower false)[last]? = some (.backUnlessZero (last - first - 1)) := by
  obtain ⟨op, hop⟩ := exists_lower_of_pair hmatches.closes
  cases standsFor_of_lower hplain hop with
  | simple hpair hsimple =>
    obtain rfl := Option.some.inj (hpair.symm.trans hmatches.closes)
    cases hsimple
  | opening hmatches' => cases hmatches'.opens.symm.trans hmatches.closes
  | @closing first' _ hmatches' =>
    have hfirst := Option.some.inj (hmatches'.innermost.symm.trans hmatches.innermost)
    obtain rfl : first' = first := Nat.succ.inj hfirst
    exact hop

/-- The jump back to a loop finds its start, so that no other pair can close it. -/
theorem lower_of_opening (hplain : p.IsPlain) (hmatches : Matches p.markerPairs first last) :
    (p.lower false)[first]? = some (.skipIfZero (last - first + 1)) := by
  have hlt := hmatches.lt
  have hfirst : last - (last - first - 1) - 1 = first := by omega
  have hdistance : last - first - 1 + 2 = last - first + 1 := by omega
  have hskip := (skip_of_back (lower_of_closing hplain hmatches)).2
  rwa [hfirst, hdistance] at hskip

theorem getElem?_lower_false_iff (hplain : p.IsPlain) (index : Nat) (op : Op) :
    (p.lower false)[index]? = some op ↔ StandsFor p.markerPairs index op := by
  constructor
  · exact standsFor_of_lower hplain
  · intro hstands
    cases hstands with
    | simple hpair hsimple => exact lower_of_simple hplain hpair hsimple
    | opening hmatches => exact lower_of_opening hplain hmatches
    | closing hmatches => exact lower_of_closing hplain hmatches

end Lower

/-- Code in which nothing is folded has one operation for each pair of markers, and it is the one
    that the pair stands for: a move, a change of the cell or a write by one, or for the two marks
    of a loop the jumps that go as far as the marks are apart. No two programs have the same code,
    whether they were read or made by hand. -/
theorem lower_false_of_ofMarkers :
    (∀ {markers : List Marker} {limit : Nat} {p : Program}, ofMarkers markers limit = .ok p →
      markers.length = 2 * (p.lower false).size ∧
      (pairs markers).length = (p.lower false).size ∧
      ∀ (index : Nat) (op : Op),
        (p.lower false)[index]? = some op ↔ StandsFor (pairs markers) index op) ∧
    Function.Injective (lower false) := by
  refine ⟨?_, ?_⟩
  · intro markers limit p hread
    obtain ⟨hplain, -, rfl⟩ := spells_of_ofMarkers hread
    have hsize : p.instructions.length = (p.lower false).size := by
      rw [← Array.length_toList, toList_lower_false, length_unfolded]
    refine ⟨?_, ?_, ?_⟩
    · rw [markers_length, hsize]
    · rw [pairs_markers, markerPairs, List.length_map, hsize]
    · rw [pairs_markers]
      exact getElem?_lower_false_iff hplain
  · intro p q h
    apply unfolded_injective
    rw [← toList_lower_false, ← toList_lower_false, h]

/-- A loop around a move to the right, with the four operations that its marks and its body stand
    for. -/
theorem lower_false_of_ofMarkers_loop :
    let markers : List Marker :=
      [.bang, .question, .dot, .question, .question, .bang, .bang, .dot]
    let p : Program := .loop (.instr .moveRight .nil) (.instr .output .nil)
    ofMarkers markers 1 = .ok p ∧
      p.lower false = #[.skipIfZero 3, .shift 1, .backUnlessZero 1, .write 1] ∧
      markers.length = 2 * (p.lower false).size ∧
      (pairs markers).length = (p.lower false).size ∧
      ∀ (index : Nat) (op : Op),
        (p.lower false)[index]? = some op ↔ StandsFor (pairs markers) index op := by
  intro markers p
  have hplain : p.IsPlain := ⟨⟨⟨nofun, nofun, nofun⟩, trivial⟩, ⟨nofun, nofun, nofun⟩, trivial⟩
  have hread : ofMarkers markers 1 = .ok p := ofMarkers_markers hplain (Nat.le_refl 1)
  exact ⟨hread, rfl, lower_false_of_ofMarkers.1 hread⟩

end Program

end OokLang
