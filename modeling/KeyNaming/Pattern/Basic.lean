import KeyNaming.Pattern.Assignment

/-!
Patterns: the parts of a template, and the regular expression of the names
that the pattern can read.

The expression has one piece per part. A piece is the literal text, or a group
for the value between its separators, optional unless the part is required. A
value that is known beforehand takes the place of its group.
-/

namespace KeyNaming

/-- A template that was read. -/
structure Pattern where
  template : Text
  parts : List Part
  /-- The registry that the template was read with. -/
  registry : Registry
  /-- The expression of names, no value being known beforehand. -/
  regex : Regex

/-- Values known beforehand, by identifier. -/
abbrev Prefilled := List (Text × Option Text)

/-- Which texts are escaped in an expression. With less than all of them it is
text to fill in further. -/
structure Escaping where
  literal : Bool
  leading : Bool
  trailing : Bool
  identifier : Bool

namespace Escaping

def all : Escaping := ⟨true, true, true, true⟩

/-- The choice that the four lowest binary digits of a number make. -/
def ofBits (n : Int) : Escaping :=
  let bits := (n % 16).toNat
  ⟨bits.testBit 0, bits.testBit 1, bits.testBit 2, bits.testBit 3⟩

def apply (escapes : Bool) (t : Text) : Text :=
  if escapes then Regex.escape t else t

end Escaping

/-- A source without a leading `^` and without a `$` at its end that no
backslash precedes. -/
def stripAnchors (source : Text) : Text :=
  let source := if source.head? == some (CodePoint.ofChar '^') then source.tail else source
  match source.reverse with
  | [] => source
  | [c] => if c == '$' then [] else source
  | c :: d :: _ => if c == '$' && d != '\\' then source.dropLast else source

/-- The captures among parts, in order. -/
def captureParts {O : Type} (parts : List (PartOf O)) : List (Capture O) :=
  parts.filterMap PartOf.capture?

/-- A part with its number among all parts, and its number among those that
capture if it is one of them. -/
structure NumberedPart where
  part : Part
  index : Nat
  captureIndex : Option Nat

/-- A capture with its number. -/
def NumberedPart.capture? (n : NumberedPart) : Option (Capture Occurrence × Nat) :=
  n.captureIndex.bind fun k => n.part.capture?.map fun c => (c, k)

/-- Counts off parts. One number goes up with every part, the other with those
that capture. -/
def numberFrom (index captureIndex : Nat) : List Part → List NumberedPart
  | [] => []
  | .literal written text :: rest =>
    ⟨.literal written text, index, none⟩ :: numberFrom (index + 1) captureIndex rest
  | .capture c :: rest =>
    ⟨.capture c, index, some captureIndex⟩ :: numberFrom (index + 1) (captureIndex + 1) rest

/-- A value that is known beforehand. -/
def Prefilled.value? (known : Prefilled) (identifier : Text) : Option Text :=
  (known.lookup identifier).join

/-- The piece of the expression that a part stands for. -/
def Part.piece (known : Prefilled) (escaping : Escaping) : Part → Text
  | .literal _ text => Escaping.apply escaping.literal text
  | .capture c =>
    let leading := Escaping.apply escaping.leading c.leading
    let trailing := Escaping.apply escaping.trailing c.trailing
    match known.value? c.identifier with
    | some value => leading ++ Escaping.apply escaping.identifier value ++ trailing
    | none =>
      "(?:" ++ leading ++ "(?P<" ++ Escaping.apply escaping.identifier c.identifier ++ ">" ++
        stripAnchors c.regex.source ++ ")" ++ trailing ++ ")" ++
        if c.required then [] else Text.ofString "?"

/-- The source of the expression of some parts. -/
def regexSource (parts : List Part) (known : Prefilled) (escaping : Escaping) : Text :=
  "^" ++ parts.flatMap (Part.piece known escaping) ++ "$"

/-- The index of the piece that covers a place, the first piece starting at an
offset. -/
def pieceAt (position : Int) (offset : Nat) : List Text → Option Nat
  | [] => none
  | piece :: rest =>
    if (offset : Int) ≤ position && position < (offset + piece.length : Nat) then some 0
    else (pieceAt position (offset + piece.length) rest).map (· + 1)

/-- The index of the part whose piece covers an offset of the expression. The
anchors belong to no part. -/
def partAt (parts : List Part) (known : Prefilled) (position : Int) : Option Nat :=
  pieceAt position 1 (parts.map (Part.piece known .all))

/-- The part of the template that a part was read from: its regular expression
if it has one, else all of it. -/
def partSpan (parts : List Part) (index : Nat) : Span :=
  let start := ((parts.take index).flatMap PartOf.written).length
  match parts[index]? with
  | some (.capture c) => c.regexSpan.getD (.ofLength start c.written.length)
  | some (.literal written _) => .ofLength start written.length
  | none => .ofLength start 0

/-- What in the template is at fault if its expression is rejected. -/
def rejectedSpan (template : Text) (parts : List Part) (position : Option Nat) : Span :=
  match position.bind fun p => partAt parts [] (p : Int) with
  | some index => partSpan parts index
  | none => .ofLength 0 template.length

namespace Pattern

/-- Reads a pattern from a template. -/
def compile (r : Registry) (template : Text) (exhausts : Text → Bool := fun _ => false) :
    Except Template.Error Pattern := do
  let drafts ← Template.read r template exhausts
  let parts := Template.assign drafts
  Template.orFault (Template.checkIdentifiers [] 0 parts)
  let source := regexSource parts [] .all
  match Regex.compile source {} exhausts with
  | .ok regex => pure { template, parts, registry := r, regex }
  | .error (.rejected cause position) =>
    .error (.fault (.invalidRegex (rejectedSpan template parts position)
      ((Regex.Error.rejected cause position).message source)))
  | .error e => .error (.regex e)

/-- The parts of a pattern, counted off from zero. -/
def numbered (p : Pattern) : List NumberedPart := numberFrom 0 0 p.parts

/-- Whether two patterns are the same, which their templates decide. -/
def same (p q : Pattern) : Bool := p.template == q.template

/-- The parts that capture, in order. -/
def captures (p : Pattern) : List (Capture Occurrence) := captureParts p.parts

def identifiers (p : Pattern) : List Text := p.captures.map Capture.identifier

/-- The identifiers of the parts that capture, with the indices of the parts. -/
def partIndices (p : Pattern) : List (Text × Nat) :=
  p.parts.zipIdx.filterMap fun (part, i) => part.capture?.map fun c => (c.identifier, i)

/-- The position among the captures of the part at an index, if that one
captures. -/
def capturePosition? (p : Pattern) (index : Nat) : Option Nat :=
  match p.parts[index]? with
  | some (.capture _) => some (captureParts (p.parts.take index)).length
  | _ => none

/-- The position among the captures of the one with an identifier. -/
def captureIndex? (p : Pattern) (identifier : Text) : Option Nat :=
  p.identifiers.findIdx? (· == identifier)

def parameterNames (p : Pattern) : List Text := (p.captures.map Capture.parameter).eraseDups

/-- The captures of a parameter with their positions, sorted by occurrence. -/
def capturesOf (p : Pattern) (parameter : Text) : List (Capture Occurrence × Nat) :=
  (p.captures.zipIdx.filter fun entry => entry.1.parameter == parameter).mergeSort
    fun a b => a.1.occurrence.index ≤ b.1.occurrence.index

def source (p : Pattern) (known : Prefilled) (escaping : Escaping) : Text :=
  regexSource p.parts known escaping

/-- The expression with some values known beforehand. Groups go with them, so
references by number may fail. -/
def regexWith (p : Pattern) (known : Prefilled) (exhausts : Text → Bool := fun _ => false) :
    Except Regex.Error Regex :=
  Regex.compile (p.source known .all) {} exhausts

end Pattern

end KeyNaming
