import KeyNaming.Key.Decomposition
import KeyNaming.Pattern.Name

/-!
Matches: the values that a pattern captures from a key or from a name.

Both kinds of match end by sharing values: a part bound to the last occurrence
that is left without a value takes the one of the only numbered part of its
parameter that has one. Such a copy is remembered, so that one value does not
become two segments of a key.
-/

namespace KeyNaming

/-- What a part captured, and whether it was copied from another part. -/
structure Slot where
  value : Option Text := none
  copied : Bool := false
deriving DecidableEq

/-- The values that a pattern captured, one for each capture. -/
structure Match where
  pattern : Pattern
  slots : List Slot

/-- The parameter that stands for all section-like ones. -/
def anySection : Text := "anysection"

/-- The parameters that are section-like. -/
def sectionParameters : List Text :=
  ["type", "section", "location", "resource", "assembly"]

/-- Whether a segment of a lower-cased name is a candidate for a parameter. -/
def servesParameter (parameter name : Text) : Bool :=
  name == parameter || (parameter == anySection && sectionParameters.contains name)

/-- The values of the segments that are candidates for a parameter. The
segments come from the tail, the values from the root. -/
def candidates (segments : List Segment) (parameter : Text) : List Text :=
  segments.reverse.filterMap fun s =>
    if servesParameter parameter s.name.lower then s.value else none

/-- The value at an occurrence. -/
def Occurrence.select (values : List Text) : Occurrence → Option Text
  | .pinned n => values[n]?
  | .last => values.getLast?

/-- The value that a part takes from segments. -/
def Capture.fromSegments (c : Capture Occurrence) (segments : List Segment) : Option Text :=
  c.occurrence.select ((candidates segments c.parameter).filter c.accepts)

namespace Match

def blank (p : Pattern) : Match := ⟨p, p.captures.map fun _ => {}⟩

/-- A match with given values in the order of the captures; captures beyond
them have none. More values than captures are no match. -/
def ofValues? (p : Pattern) (values : List (Option Text)) : Option Match :=
  if p.captures.length < values.length then none
  else
    let given : List Slot := values.map fun value => { value }
    let absent : List Slot := (p.captures.drop values.length).map fun _ => {}
    some ⟨p, given ++ absent⟩

/-- The captures with what they captured. -/
def entries (m : Match) : List (Capture Occurrence × Slot) := m.pattern.captures.zip m.slots

def values (m : Match) : List (Option Text) := m.slots.map Slot.value

/-- Whether every required part has a value. -/
def success (m : Match) : Bool :=
  m.entries.all fun (c, slot) => !c.required || slot.value.isSome

def get? (m : Match) (identifier : Text) : Option (Option Text) :=
  (m.pattern.captureIndex? identifier).bind fun i => m.values[i]?

/-- The value at a position, which counts from the end if it is negative. -/
def valueAt? (m : Match) (position : Int) : Option (Option Text) :=
  elementAt? m.values position

def items (m : Match) : List (Text × Option Text) := m.pattern.identifiers.zip m.values

/-- The values of the numbered parts of a parameter that have one. -/
def numberedValues (m : Match) (parameter : Text) : List Text :=
  m.entries.filterMap fun (c, slot) =>
    if c.parameter == parameter && !c.occurrence.isLast then slot.value else none

/-- What a part has captured after values are shared. -/
def sharedSlot (m : Match) (c : Capture Occurrence) (slot : Slot) : Slot :=
  if c.occurrence.isLast && slot.value.isNone then
    match m.numberedValues c.parameter with
    | [value] => ⟨some value, true⟩
    | _ => slot
  else slot

/-- Gives each part that is bound to the last occurrence and has no value the
one of the only numbered part of its parameter that has one. -/
def share (m : Match) : Match :=
  { m with slots := m.entries.map fun (c, slot) => m.sharedSlot c slot }

/-- The name of the parameter that a captured value is reported under. -/
def reportedName (parameter : Text) : Text :=
  if parameter == anySection then "section" else parameter

/-- The captured parameters in order, copies left out. -/
def parameters (m : Match) : List (Text × Text) :=
  m.entries.filterMap fun (c, slot) =>
    if slot.copied then none
    else slot.value.map fun value => (reportedName c.parameter, value)

/-- The captured parameters as a key, added to a chain. -/
def toKey (m : Match) (r : Registry) (root : Chain) : Chain :=
  root.appendPairs r (m.parameters.map fun (name, value) => (some name, some value))

/-- The name that the captured values build, empty if they build none. -/
def name (m : Match) : Text := (m.pattern.build m.values).getD []

end Match

namespace Pattern

/-- Captures values from the segments of a key. A value known beforehand is
taken first. -/
def matchSegments (p : Pattern) (segments : List Segment) (known : Prefilled) : Match :=
  Match.share ⟨p, p.captures.map fun c =>
    { value := (known.value? c.identifier).or (c.fromSegments segments) }⟩

def matchKey {K : Type} (p : Pattern) (d : Decomposition K) (key : K) (known : Prefilled) : Match :=
  p.matchSegments (d.segments key) known

/-- A captured text, unless it is empty: a part that captured nothing was not
there. -/
def nonEmpty : Option Text → Option Text
  | some [] => none
  | value => value

/-- The values that an expression of the pattern captured. -/
def captured (p : Pattern) (known : Prefilled) (regex : Regex) (found : Regex.Progress) : Match :=
  Match.share ⟨p, p.captures.map fun c =>
    { value := (known.value? c.identifier).or
        (nonEmpty (regex.namedGroup? found c.identifier)) }⟩

/-- Captures values with an expression of the pattern. A name that does not
match leaves every part without a value. -/
def matchWith (p : Pattern) (known : Prefilled) (regex : Regex) (name : Text) : Match :=
  match regex.fullMatch? name with
  | none => .blank p
  | some found => p.captured known regex found

/-- Captures values from a name. Where values known beforehand make the
expression of the pattern invalid, every part is left without a value. -/
def matchText (p : Pattern) (name : Text) (known : Prefilled)
    (exhausts : Text → Bool := fun _ => false) : Except Regex.Error Match :=
  if known.any fun entry => entry.2.isSome then
    match p.regexWith known exhausts with
    | .ok regex => .ok (p.matchWith known regex name)
    | .error (.rejected _ _) => .ok (.blank p)
    | .error e => .error e
  else .ok (p.matchWith known p.regex name)

/-- The name of a key, if every required part has a value. -/
def nameOfKey {K : Type} (p : Pattern) (d : Decomposition K) (key : K) : Option Text :=
  p.build (p.matchKey d key []).values

/-- The key that a name is read as, added to a chain. -/
def parse? (p : Pattern) (name : Text) (root : Chain) (r : Registry) : Option Chain :=
  let found := p.matchWith [] p.regex name
  if found.success then some (found.toKey r root) else none

end Pattern

end KeyNaming
