import KeyNaming.Proofs.Pattern.Compilation
import KeyNaming.Proofs.Pattern.Layout
import KeyNaming.Proofs.Pattern.Positions
import KeyNaming.Proofs.Template.Collision
import KeyNaming.Proofs.Template.Faults

/-!
What in a template is at fault where it is no pattern.

A template that is read may still have an identifier twice, or its regular
expressions may not go together. The first is told by a part and the second by
the place in the expression of the whole that stands for a part, or for none;
parts have their places in the template. So all diagnostics of templates point
at what is at fault.
-/

namespace KeyNaming

namespace Template

/-- The fault that an error is, if it is one. -/
def Error.fault? : Error → Option Fault
  | .fault f => some f
  | _ => none

theorem Error.exists_fault_of_any {e : Error} {property : Fault → Bool}
    (h : e.fault?.any property = true) : ∃ f, e = .fault f ∧ property f = true := by
  cases e with
  | fault f => exact ⟨f, rfl, h⟩
  | regex e => cases h
  | occurrenceTooLong digits => cases h

/-- The problem of a fault, told by the numbers it was found at. -/
def Fault.finding (t : Text) : Fault → Finding
  | .unexpectedBracket offset bracket => .unexpectedBracket t offset [bracket]
  | .unterminatedPart start closer => .unterminatedPart t start [closer]
  | .missingIdentifier start expected => .missingIdentifier t start expected
  | .unknownEscape offset => .unknownEscape t offset
  | .trailingEscape => .trailingEscape t
  | .unterminatedRegex start => .unterminatedRegex t start
  | .invalidRegex span reason => .invalidRegex t span.start span.stop reason
  | .duplicateIdentifier span identifier =>
    .duplicateIdentifier t span.start span.stop identifier

/-- Numbers that lie in the template are taken for a span. -/
theorem Fault.diagnostic_finding {f : Fault} {t : Text} {span : Span}
    (hspan : (f.diagnostic t).span = some span) (hlt : span.start < span.stop)
    (hle : span.stop ≤ t.length) : (f.finding t).diagnostic = .ok (f.diagnostic t) := by
  cases f with
  | unexpectedBracket offset bracket =>
      exact congrArg (Except.map _) (Span.ofInts_ofLength offset 1)
  | unterminatedPart start closer =>
      obtain rfl := Option.some.inj hspan
      exact congrArg (Except.map _) (Span.ofInts_toEnd (Span.le_of_toEnd hlt))
  | missingIdentifier start expected =>
      obtain rfl := Option.some.inj hspan
      have hstop : min ((expected : Int) + 1) (t.length : Int) =
          ((Nat.min (expected + 1) t.length : Nat) : Int) := by
        change _ = ((min (expected + 1) t.length : Nat) : Int)
        omega
      have hofInts := Span.ofInts_toEnd (Span.le_of_toEnd hlt)
      rw [← hstop] at hofInts
      exact congrArg (Except.map _) hofInts
  | unknownEscape offset => exact congrArg (Except.map _) (Span.ofInts_ofLength offset 2)
  | trailingEscape =>
      obtain rfl := Option.some.inj hspan
      have hsome : t.length - 1 + 1 ≤ t.length := hle
      have hofInts := Span.ofInts_ofLength (t.length - 1) 1
      have hstart : ((t.length - 1 : Nat) : Int) = (t.length : Int) - 1 := by omega
      have hstop : (t.length : Int) - 1 + ((1 : Nat) : Int) = (t.length : Int) := by omega
      rw [hstart, hstop] at hofInts
      exact congrArg (Except.map _) hofInts
  | unterminatedRegex start =>
      obtain rfl := Option.some.inj hspan
      exact congrArg (Except.map _) (Span.ofInts_toEnd (Span.le_of_toEnd hlt))
  | invalidRegex span reason =>
      exact congrArg (Except.map _) (Span.ofInts_natCast span.start_le_stop)
  | duplicateIdentifier span identifier =>
      exact congrArg (Except.map _) (Span.ofInts_natCast span.start_le_stop)

end Template

/-! ## Parts -/

namespace Template

section

variable {r : Registry} {template : Text} {drafts : List Draft}

theorem flatMap_written_of_read (hread : Template.read r template = .ok drafts) :
    (assign drafts).flatMap PartOf.written = template := by
  obtain ⟨d, hd, hwritten, -, -⟩ := Pattern.exists_derivation_of_read hread
  rw [List.flatMap_def, hwritten, ← List.flatMap_def, hd.written]

theorem covers_part (hread : Template.read r template = .ok drafts) {i : Nat} {part : Part}
    (hpart : (assign drafts)[i]? = some part) :
    (Span.ofLength (startOf (assign drafts) i) part.written.length).Covers template
      part.written := by
  obtain ⟨d, hd, hwritten, -, -⟩ := Pattern.exists_derivation_of_read hread
  have hnonempty : part.written ≠ [] := by
    obtain ⟨a, -, ha⟩ := List.mem_map.mp
      (hwritten ▸ List.mem_map_of_mem (List.mem_of_getElem? hpart))
    exact ha ▸ a.written_ne_nil
  rw [← flatMap_written_of_read hread]
  exact Span.covers_ofLength (flatMap_written_eq hpart) hnonempty

theorem isFound_duplicateIdentifier (hread : Template.read r template = .ok drafts) {f : Fault}
    (h : checkIdentifiers [] 0 (assign drafts) = .error f) : f.IsFound r template := by
  obtain ⟨j, d, hd, rfl, hseen | ⟨i, c, hlt, hc, hsame⟩⟩ := exists_repeated_of_error h
  · cases hseen
  · rw [Nat.zero_add]
    exact ⟨_, _, rfl, covers_part hread hd, .repeatedPart drafts i j c d hread hlt hc hd hsame rfl⟩

/-- The expression of an empty template is read. -/
theorem ne_nil_of_isRejected {parts : List Part} {index : Option Nat}
    (h : IsRejected r template parts index) : template ≠ [] := by
  rintro rfl
  obtain ⟨⟨drafts, hread, rfl⟩, cause, position, hrejected, -⟩ := h
  obtain rfl := Except.ok.inj hread
  have hempty : (Regex.compile (regexSource (assign []) [] .all)).toOption.isSome = true := by
    decide +kernel
  rw [hrejected] at hempty
  cases hempty

/-- The span of a part covers its regular expression if it writes one, else all
of it. -/
theorem exists_covers_partSpan (hread : Template.read r template = .ok drafts) {i : Nat}
    {part : Part} (hpart : (assign drafts)[i]? = some part)
    (h : IsRejected r template (assign drafts) (some i)) :
    ∃ piece, (partSpan (assign drafts) i).Covers template piece ∧
      Offends r template (partSpan (assign drafts) i) .invalidRegex piece := by
  have hcovers := covers_part hread hpart
  rw [partSpan, hpart]
  cases part with
  | literal written text =>
      exact ⟨_, hcovers, .part _ i _ h hpart (fun c hc => nomatch hc) rfl⟩
  | capture c =>
      cases hspan : c.regexSpan with
      | none =>
          simp only [hspan, Option.getD_none]
          refine ⟨_, hcovers, .part _ i _ h hpart (fun d hd => ?_) rfl⟩
          rw [← PartOf.capture.inj hd, hspan]
      | some span =>
          simp only [hspan, Option.getD_some]
          obtain ⟨-, -, -, -, hspanned⟩ := Pattern.exists_derivation_of_read hread
          obtain ⟨-, -, between, hbetween, hsource⟩ :=
            exists_covers_of_areSpanned hspanned hpart hspan
          rw [flatMap_written_of_read hread] at hbetween
          exact ⟨_, hbetween, .regexOfPart _ i c between h hpart hspan hsource⟩

theorem isFound_invalidRegex (hread : Template.read r template = .ok drafts)
    {cause : Regex.Cause} {position : Option Nat} (reason : Text)
    (hrejected : Regex.compile (regexSource (assign drafts) [] .all) =
      .error (.rejected cause position)) :
    (Fault.invalidRegex (rejectedSpan template (assign drafts) position) reason).IsFound r
      template := by
  have h (index : Option Nat)
      (hindex : (position.bind fun p => partAt (assign drafts) [] (p : Int)) = index) :
      IsRejected r template (assign drafts) index :=
    ⟨⟨drafts, hread, rfl⟩, cause, position, hrejected, hindex⟩
  rw [rejectedSpan]
  split
  · next i hi =>
    obtain ⟨p, -, hp⟩ := Option.bind_eq_some_iff.mp hi
    have hlt : i < (assign drafts).length := by simpa using lt_length_of_pieceAt hp
    obtain ⟨piece, hcovers, hoffends⟩ :=
      exists_covers_partSpan hread (List.getElem?_eq_getElem hlt) (h _ hi)
    exact ⟨_, piece, rfl, hcovers, hoffends⟩
  -- no piece of the expression covers the place, so all of the template is told
  · next hnone =>
    have hrejected := h none hnone
    refine ⟨_, template, rfl, ?_, .whole _ hrejected⟩
    exact ⟨ne_nil_of_isRejected hrejected, [], [], (List.append_nil template).symm, rfl, rfl⟩

end

end Template

namespace Pattern

open Template

/-- What refuses a template stands in it. -/
theorem compile_found (r : Registry) (template : Text) :
    Outcome (Error.IsFound r template) (fun _ => True) (Pattern.compile r template) := by
  cases hread : Template.read r template with
  | error e =>
      rw [compile_error_of_read hread]
      exact (read_found r template).error hread
  | ok drafts =>
      rw [Pattern.compile, hread]
      have hcheck : Outcome (Error.IsFound r template) (fun _ => True)
          (orFault (checkIdentifiers [] 0 (assign drafts))) := by
        cases hcheck : checkIdentifiers [] 0 (assign drafts) with
        | ok _ => trivial
        | error f => exact isFound_duplicateIdentifier hread hcheck
      refine hcheck.bind fun _ _ => ?_
      dsimp only
      split
      · trivial
      · next cause position hrejected => exact isFound_invalidRegex hread _ hrejected
      · trivial

/-- Where compiling ends with a fault, its diagnostic is about the template, and its
span lies in the template and is not empty. The excerpt is what the fault is about: a
bracket, an escape, a part without a name, a part or a regular expression that is not
closed or that is rejected, the whole template if it is rejected in no part, or a part
whose identifier stands twice. The numbers that the fault was found at make up the
span. -/
theorem fault_pointsInto {r : Registry} {template : Text} {f : Fault}
    (h : Pattern.compile r template = .error (.fault f)) :
    ∃ span piece, (f.diagnostic template).PointsInto template span ∧ span.start < span.stop ∧
      (f.diagnostic template).excerpt = some piece ∧
      Offends r template span (f.diagnostic template).code piece ∧
      (f.finding template).diagnostic = .ok (f.diagnostic template) := by
  obtain ⟨span, piece, hspan, hcovers, hoffends⟩ := (compile_found r template).error h
  have hinto : (f.diagnostic template).PointsInto template span :=
    ⟨f.source_diagnostic template, hspan, hcovers.stop_le_length⟩
  exact ⟨span, piece, hinto, hcovers.start_lt_stop, hinto.excerpt_of_covers hcovers, hoffends,
    Fault.diagnostic_finding hspan hcovers.start_lt_stop hcovers.stop_le_length⟩

/-- A template with a regular expression that is good by itself, but not behind
another part. -/
def lateFlagsTemplate : Text := "\x7bCulture.\x7d[Key<(?i)ok>]"

theorem fault_pointsInto_lateFlagsTemplate :
    ∃ f span, Pattern.compile defaultRegistry lateFlagsTemplate = .error (.fault f) ∧
      (f.diagnostic lateFlagsTemplate).PointsInto lateFlagsTemplate span ∧
      (f.diagnostic lateFlagsTemplate).excerpt = some ("<(?i)ok>" : Text) ∧
      Offends defaultRegistry lateFlagsTemplate span .invalidRegex "<(?i)ok>" := by
  obtain ⟨e, hcompile, hproperty⟩ := exists_error_of_any
    (Pattern.compile defaultRegistry lateFlagsTemplate)
    (fun e => e.fault?.any fun (f : Fault) =>
      decide ((f.diagnostic lateFlagsTemplate).excerpt = some ("<(?i)ok>" : Text) ∧
        (f.diagnostic lateFlagsTemplate).code = .invalidRegex)) (by decide +kernel)
  obtain ⟨f, rfl, hproperty⟩ := Error.exists_fault_of_any hproperty
  obtain ⟨hexcerpt, hcode⟩ := of_decide_eq_true hproperty
  obtain ⟨span, piece, hinto, -, hpiece, hoffends, -⟩ := fault_pointsInto hcompile
  obtain rfl := Option.some.inj (hpiece.symm.trans hexcerpt)
  rw [hcode] at hoffends
  exact ⟨f, span, hcompile, hinto, hexcerpt, hoffends⟩

end Pattern

end KeyNaming
