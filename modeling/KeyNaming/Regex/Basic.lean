import KeyNaming.Regex.Matcher
import KeyNaming.Regex.Reader

/-!
Regular expressions: reading them from text, and matching texts with them.
-/

namespace KeyNaming

/-- What is read from the source of a regular expression. -/
structure Regex.Form where
  node : Regex.Node
  flags : Regex.Flags
  /-- How many groups capture. -/
  groupCount : Nat
  /-- The numbers of the groups with names. -/
  groupNames : List (Text × Nat)

namespace Regex

/-- Reads a source, under flags that are given beside it. -/
def read (source : Text) (given : Flags := {}) : Except Error Form := do
  let st ← readText source given
  let node := Node.seq st.top.content
  node.check st.flags
  pure {
    node, flags := st.flags
    groupCount := st.groups.widths.length
    groupNames := st.groups.names }

end Regex

/-- A regular expression: a source, the flags that are given beside it, and what
is read from both. -/
structure Regex extends Regex.Form where
  source : Text
  given : Regex.Flags := {}
  read_source : Regex.read source given = .ok toForm

namespace Regex

/-- Reads an expression. How deep its parts may be nested depends on how much of the
stack is taken already, so which sources need more than is left is told from outside. -/
def compile (source : Text) (given : Flags := {})
    (exhausts : Text → Bool := fun _ => false) : Except Error Regex :=
  if exhausts source then .error .tooDeep
  else
    match h : read source given with
    | .ok form => .ok { form with source, given, read_source := h }
    | .error e => .error e

/-- The match of an expression from the start of a text to its end. -/
def fullMatch? (r : Regex) (t : Text) : Option Progress :=
  r.node.run r.flags (fun p => if p.position.after.isEmpty then some p else none)
    (Progress.start t)

/-- The match of an expression from a position on, to wherever it ends. -/
def matchAt? (r : Regex) (p : Position) : Option Progress :=
  r.node.run r.flags some { position := p }

/-- Whether an expression matches the whole of a text. -/
def matches? (r : Regex) (t : Text) : Bool :=
  (r.fullMatch? t).isSome

def namedGroup? (r : Regex) (p : Progress) (name : Text) : Option Text :=
  (r.groupNames.lookup name).bind p.group?

def groups (r : Regex) (p : Progress) : List (Option Text) :=
  (List.range r.groupCount).map fun i => p.group? (i + 1)

end Regex

def Regex.Error.message (source : Text) : Regex.Error → Text
  | .rejected cause (some position) => Regex.positionedMessage source cause position
  | .rejected cause none => cause.message
  | .countTooLarge => "the repetition number is too large"
  | .numberTooLarge => "the number of a code point is too large"
  | .numeralTooLong digits =>
    "Exceeds the limit (" ++ Text.ofNat Text.decimalDigitLimit ++
      " digits) for integer string conversion: value has " ++ Text.ofNat digits ++
      " digits; use sys.set_int_max_str_digits() to increase the limit"
  | .flagsClash => "ASCII and UNICODE flags are incompatible"
  | .tooDeep => "maximum recursion depth exceeded"

end KeyNaming
