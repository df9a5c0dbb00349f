import Mathlib.Data.List.Flatten
import KeyNaming.Pattern.Basic
import KeyNaming.Proofs.Diagnostic.Span

/-!
Which part of a pattern an offset of its expression belongs to.

The expression is a caret, a piece for each part in order, and a dollar sign. So
the pieces lie side by side from the second character to the last but one, and
each offset there is covered by one of them: an empty piece covers none. Pieces
grow with what is escaped in them and with the values that are known beforehand,
and the later ones move.
-/

namespace KeyNaming

/-! ## Texts side by side -/

/-- The offset at which the piece at an index starts, the first one starting at
zero. -/
def pieceStart (pieces : List Text) (i : Nat) : Nat := (pieces.take i).flatten.length

theorem pieceStart_cons_succ (piece : Text) (rest : List Text) (i : Nat) :
    pieceStart (piece :: rest) (i + 1) = piece.length + pieceStart rest i := by
  rw [pieceStart, List.take_succ_cons, List.flatten_cons, List.length_append]
  rfl

theorem pieceStart_mono (pieces : List Text) {i j : Nat} (h : i ≤ j) :
    pieceStart pieces i ≤ pieceStart pieces j :=
  (List.take_sublist_take_left h).flatten.length_le

/-- A piece ends where the next one starts. -/
theorem slice_pieceStart {pieces : List Text} {i : Nat} {piece : Text}
    (h : pieces[i]? = some piece) (before behind : Text) :
    Text.slice (before ++ (pieces.flatten ++ behind)) (before.length + pieceStart pieces i)
      (before.length + pieceStart pieces (i + 1)) = piece := by
  obtain ⟨hlt, rfl⟩ := List.getElem?_eq_some_iff.mp h
  have hflatten : pieces.flatten =
      (pieces.take i).flatten ++ (pieces[i] ++ (pieces.drop (i + 1)).flatten) := by
    rw [← List.flatten_cons, ← List.drop_eq_getElem_cons hlt, ← List.flatten_append,
      List.take_append_drop]
  have hend : pieceStart pieces (i + 1) = pieceStart pieces i + pieces[i].length := by
    rw [pieceStart, List.take_succ_eq_append_getElem hlt, List.flatten_append, List.length_append,
      List.flatten_singleton]
    rfl
  have hslice := Text.slice_append (before ++ (pieces.take i).flatten) pieces[i]
    ((pieces.drop (i + 1)).flatten ++ behind)
  rw [List.length_append, Nat.add_assoc] at hslice
  rw [hend, hflatten, pieceStart]
  simpa only [List.append_assoc] using hslice

/-- Whether the piece at an index covers a position, the first one starting at an
offset. -/
def CoversAt (offset : Nat) (pieces : List Text) (i : Nat) (position : Int) : Prop :=
  (offset + pieceStart pieces i : Nat) ≤ position ∧
    position < (offset + pieceStart pieces (i + 1) : Nat)

section

variable {offset : Nat} {piece : Text} {rest : List Text} {position : Int}

theorem coversAt_zero : CoversAt offset (piece :: rest) 0 position ↔
    offset ≤ position ∧ position < (offset + piece.length : Nat) := by
  rw [CoversAt, pieceStart_cons_succ]
  rfl

theorem coversAt_succ {i : Nat} : CoversAt offset (piece :: rest) (i + 1) position ↔
    CoversAt (offset + piece.length) rest i position := by
  rw [CoversAt, CoversAt, pieceStart_cons_succ, pieceStart_cons_succ, Nat.add_assoc, Nat.add_assoc]

end

section

variable {offset : Nat} {pieces : List Text} {position : Int}

/-- The search stops at the piece that covers the position. -/
theorem pieceAt_eq_some_iff {i : Nat} :
    pieceAt position offset pieces = some i ↔ CoversAt offset pieces i position := by
  induction pieces generalizing offset i with
  | nil =>
      simp only [pieceAt, CoversAt, pieceStart, List.take_nil, reduceCtorEq, false_iff]
      omega
  | cons piece rest ih =>
      rw [pieceAt]
      cases i with
      | zero =>
          rw [coversAt_zero]
          split
          · next hcovers => simpa using hcovers
          · next hcovers => simpa using hcovers
      | succ i =>
          rw [coversAt_succ]
          split
          · next hcovers =>
            have hlt : position < (offset + piece.length : Nat) := by
              simpa using (Bool.and_eq_true_iff.mp hcovers).2
            refine iff_of_false (by simp) fun hlater => ?_
            have hle := hlater.1
            omega
          · simp [ih]

/-- Some piece covers a position just if it lies in what the pieces make up. -/
theorem isSome_pieceAt_iff : (pieceAt position offset pieces).isSome = true ↔
    offset ≤ position ∧ position < (offset + pieces.flatten.length : Nat) := by
  induction pieces generalizing offset with
  | nil =>
      simp only [pieceAt, List.flatten_nil, List.length_nil, Option.isSome_none,
        Bool.false_eq_true, false_iff]
      omega
  | cons piece rest ih =>
      rw [pieceAt, List.flatten_cons, List.length_append]
      split
      · next hcovers =>
        simp only [Bool.and_eq_true, decide_eq_true_eq] at hcovers
        refine iff_of_true rfl ?_
        omega
      · next hcovers =>
        simp only [Bool.and_eq_true, decide_eq_true_eq, not_and] at hcovers
        rw [Option.isSome_map, ih]
        omega

theorem lt_length_of_pieceAt {i : Nat} (h : pieceAt position offset pieces = some i) :
    i < pieces.length := by
  obtain ⟨hstart, hend⟩ := pieceAt_eq_some_iff.mp h
  refine Nat.lt_of_not_le fun hle => ?_
  rw [pieceStart, List.take_of_length_le hle] at hstart
  rw [pieceStart, List.take_of_length_le (Nat.le_succ_of_le hle)] at hend
  omega

/-- Of two positions the later one is covered by no earlier piece. -/
theorem le_of_coversAt {i j : Nat} {later : Int} (hi : CoversAt offset pieces i position)
    (hj : CoversAt offset pieces j later) (h : position ≤ later) : i ≤ j := by
  refine Nat.le_of_not_lt fun hlt => ?_
  have hle := pieceStart_mono pieces hlt
  have hstart := hi.1
  have hend := hj.2
  rw [Nat.succ_eq_add_one] at hle
  omega

end

/-! ## Patterns -/

namespace Pattern

variable (p : Pattern) (known : Prefilled)

/-- The pieces of the expression of a pattern, one for each part. -/
def pieces : List Text := p.parts.map (Part.piece known .all)

theorem source_eq :
    p.source known .all = "^" ++ ((p.pieces known).flatten ++ Text.ofString "$") := by
  rw [source, regexSource, List.flatMap_def, List.append_assoc]
  rfl

/-- Without its first and last character the expression is the pieces of the parts, one
after the other. An offset belongs to a part just if it stands between these
characters, and then to the part whose piece covers it; and a later offset belongs to
no earlier part. -/
theorem partAt_covers :
    (p.source known .all).head? = some ('^' : CodePoint) ∧
      (p.source known .all).getLast? = some ('$' : CodePoint) ∧
      (p.source known .all).tail.dropLast = p.parts.flatMap (Part.piece known .all) ∧
      (∀ i part, p.parts[i]? = some part →
        (p.source known .all).slice (1 + pieceStart (p.pieces known) i)
          (1 + pieceStart (p.pieces known) (i + 1)) = part.piece known .all) ∧
      (∀ position : Int, (∃ i part, partAt p.parts known position = some i ∧
          p.parts[i]? = some part) ↔
        1 ≤ position ∧ position < (p.source known .all).length - 1) ∧
      (∀ position i, partAt p.parts known position = some i ↔
        CoversAt 1 (p.pieces known) i position) ∧
      ∀ position later i j, position ≤ later → partAt p.parts known position = some i →
        partAt p.parts known later = some j → i ≤ j := by
  have hcovers (position : Int) (i : Nat) : partAt p.parts known position = some i ↔
      CoversAt 1 (p.pieces known) i position := pieceAt_eq_some_iff
  refine ⟨rfl, ?_, ?_, ?_, ?_, hcovers, ?_⟩
  · rw [source_eq, ← List.append_assoc]
    exact List.getLast?_concat
  · rw [source_eq, List.flatMap_def]
    exact List.dropLast_concat
  · intro i part hpart
    rw [source_eq]
    refine slice_pieceStart ?_ "^" _
    rw [pieces, List.getElem?_map, hpart, Option.map_some]
  · intro position
    have hlength : (p.source known .all).length = 1 + (p.pieces known).flatten.length + 1 := by
      rw [source_eq, List.length_append, List.length_append, ← Nat.add_assoc]
      rfl
    have hsome : (∃ i part, partAt p.parts known position = some i ∧ p.parts[i]? = some part) ↔
        (partAt p.parts known position).isSome = true := by
      rw [Option.isSome_iff_exists]
      refine exists_congr fun i => ⟨fun ⟨_, hi, _⟩ => hi, fun hi => ?_⟩
      have hlt := lt_length_of_pieceAt hi
      rw [List.length_map] at hlt
      exact ⟨p.parts[i], hi, List.getElem?_eq_getElem hlt⟩
    rw [hsome, partAt, isSome_pieceAt_iff, hlength, pieces]
    omega
  · intro position later i j hle hi hj
    exact le_of_coversAt ((hcovers position i).mp hi) ((hcovers later j).mp hj) hle

end Pattern

end KeyNaming
