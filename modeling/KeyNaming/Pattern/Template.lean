import KeyNaming.Diagnostic.Message
import KeyNaming.Key.Registry
import KeyNaming.Pattern.Part

/-!
Reading templates.

A template is a sequence of literals and parts. A literal is a run of
characters and escapes without brackets. A part stands between braces, or
between square brackets if it is required, and consists of separator text, an
identifier, optionally a regular expression between angle brackets, and
separator text again. Each reader takes what it reads off the front of a text
and returns the rest; offsets are told from how much of the template is left.
-/

namespace KeyNaming

namespace Template

/-- Why a text is no template. -/
inductive Fault where
  | unexpectedBracket (offset : Nat) (bracket : CodePoint)
  | unterminatedPart (start : Nat) (closer : CodePoint)
  | missingIdentifier (start expected : Nat)
  | unknownEscape (offset : Nat)
  | trailingEscape
  | unterminatedRegex (start : Nat)
  | invalidRegex (span : Span) (reason : Text)
  | duplicateIdentifier (span : Span) (identifier : Text)

def Fault.diagnostic (template : Text) : Fault → Diagnostic
  | .unexpectedBracket offset bracket =>
    .unexpectedBracket template (.ofLength offset 1) [bracket]
  | .unterminatedPart start closer =>
    .unterminatedPart template (.toEnd start template.length) [closer]
  | .missingIdentifier start expected =>
    .missingIdentifier template (.toEnd start (Nat.min (expected + 1) template.length))
  | .unknownEscape offset => .unknownEscape template (.ofLength offset 2)
  | .trailingEscape => .trailingEscape template (.ofLength (template.length - 1) 1)
  | .unterminatedRegex start => .unterminatedRegex template (.toEnd start template.length)
  | .invalidRegex span reason => .invalidRegex template span reason
  | .duplicateIdentifier span identifier => .duplicateIdentifier template span identifier

/-- What stops the reading of a template. -/
inductive Error where
  | fault (f : Fault)
  /-- A regular expression is stopped by something else than a fault. -/
  | regex (e : Regex.Error)
  /-- An occurrence has more digits than a number may have. -/
  | occurrenceTooLong (digits : Nat)

/-- What opens a part, and what closes it. -/
def closerOf? (c : CodePoint) : Option CodePoint :=
  if c == '\x7b' then some '\x7d' else if c == '[' then some ']' else none

/-- The brackets that delimit parts. -/
def isBracket (c : CodePoint) : Bool :=
  c == '\x7b' || c == '\x7d' || c == '[' || c == ']'

/-- The brackets that delimit regular expressions. -/
def isAngle (c : CodePoint) : Bool :=
  c == '<' || c == '>'

/-- What a backslash may stand before. -/
def isEscapable (c : CodePoint) : Bool :=
  (Text.ofString "\\*+?|\x7b\x7d[]()<>^$.#").contains c || c.isBlank

variable (total : Nat)

/-- The offset of the rest of a template of some length. -/
def offsetOf (rest : Text) : Nat := total - rest.length

/-- Reads literal text up to a part or the end. -/
def readLiteral : Text → Except Fault (Text × Text)
  | [] => .ok ([], [])
  | c :: rest =>
    if (closerOf? c).isSome then .ok ([], c :: rest)
    else if isBracket c then .error (.unexpectedBracket (offsetOf total (c :: rest)) c)
    else if c == '\\' then
      match rest with
      | [] => .error .trailingEscape
      | d :: rest' =>
        if isEscapable d then
          (readLiteral rest').map fun (text, left) => (d :: text, left)
        else .error (.unknownEscape (offsetOf total (c :: rest)))
    else (readLiteral rest).map fun (text, left) => (c :: text, left)

/-- Reads separator text up to the closer of its part or the end, or before an
identifier up to a letter of ASCII. -/
def readSeparator (closer : CodePoint) (stopsAtLetter : Bool) : Text → Except Fault (Text × Text)
  | [] => .ok ([], [])
  | c :: rest =>
    if c == closer || (stopsAtLetter && c.isAsciiLetter) then .ok ([], c :: rest)
    else if isBracket c || isAngle c then
      .error (.unexpectedBracket (offsetOf total (c :: rest)) c)
    else if c == '\\' then
      match rest with
      | [] => .error .trailingEscape
      | d :: rest' =>
        if isEscapable d then
          (readSeparator closer stopsAtLetter rest').map fun (text, left) => (d :: text, left)
        else .error (.unknownEscape (offsetOf total (c :: rest)))
    else
      (readSeparator closer stopsAtLetter rest).map fun (text, left) => (c :: text, left)

/-- Reads the source of a regular expression up to its closing bracket, which
is dropped. The opening bracket stands at a given offset. Escaped angle
brackets stand for themselves, other escapes are left to the expression. -/
def readRegexSource (start : Nat) : Text → Except Fault (Text × Text)
  | [] => .error (.unterminatedRegex start)
  | c :: rest =>
    if c == '>' then .ok ([], rest)
    else if c == '<' then .error (.unexpectedBracket (offsetOf total (c :: rest)) c)
    else if c == '\\' then
      match rest with
      | [] => .error (.unterminatedRegex start)
      | d :: rest' =>
        (readRegexSource start rest').map fun (text, left) =>
          (if isAngle d then d :: text else c :: d :: text, left)
    else (readRegexSource start rest).map fun (text, left) => (c :: text, left)

/-- What the end of an identifier says about the occurrence. -/
inductive Suffix where
  | none
  | last
  | number (digits : Text)
deriving DecidableEq

/-- Splits an identifier into the name of a parameter and a suffix: after the
last underscore, digits only or the letter `n`. -/
def splitIdentifier (identifier : Text) : Text × Suffix :=
  let backwards := identifier.reverse
  let digits := (backwards.takeWhile CodePoint.isAsciiDigit).reverse
  match backwards, backwards.dropWhile CodePoint.isAsciiDigit with
  | n :: u :: name, d :: name' =>
    if n == 'n' && u == '_' then (name.reverse, .last)
    else if d == '_' && !digits.isEmpty then (name'.reverse, .number digits)
    else (identifier, .none)
  | _, _ => (identifier, .none)

def Suffix.occurrence? : Suffix → Except Error (Option Occurrence)
  | .none => .ok .none
  | .last => .ok (some .last)
  | .number digits =>
    if Text.decimalDigitLimit < digits.length then .error (.occurrenceTooLong digits.length)
    else .ok (some (.ofIndex (Text.valueOf 10 digits)))

/-- Reads the regular expression of a part after its identifier, if there is
one, with its span. -/
def readRegex (t : Text) (exhausts : Text → Bool := fun _ => false) :
    Except Error (Option (Regex × Span) × Text) :=
  match t with
  | [] => .ok (none, [])
  | c :: rest =>
    if c != '<' then .ok (none, t)
    else
      let start := offsetOf total t
      match readRegexSource total start rest with
      | .error f => .error (.fault f)
      | .ok (source, left) =>
        let span := Span.ofLength start (t.length - left.length)
        match Regex.compile source {} exhausts with
        | .ok regex => .ok (some (regex, span), left)
        | .error (.rejected cause position) =>
          .error (.fault (.invalidRegex span
            ((Regex.Error.rejected cause position).message source)))
        | .error e => .error (.regex e)

/-- The values of a part that writes no regular expression. -/
def defaultRegex (r : Registry) (parameter : Text) : Regex :=
  (r.pattern? (some parameter)).getD anyValue

def orFault {α : Type} : Except Fault α → Except Error α
  | .ok a => .ok a
  | .error f => .error (.fault f)

/-- Reads a part. The text begins with the bracket that opens it. -/
def readPart (r : Registry) (t : Text) (closer : CodePoint)
    (exhausts : Text → Bool := fun _ => false) : Except Error (Draft × Text) := do
  let start := offsetOf total t
  let (leading, rest) ← orFault (readSeparator total closer true t.tail)
  if rest.isEmpty then return ← .error (.fault (.unterminatedPart start closer))
  if !rest.head?.any CodePoint.isAsciiLetter then
    return ← .error (.fault (.missingIdentifier start (offsetOf total rest)))
  let identifier := rest.takeWhile CodePoint.isAsciiWord
  let rest := rest.dropWhile CodePoint.isAsciiWord
  let (name, suffix) := splitIdentifier identifier
  let occurrence ← suffix.occurrence?
  let (inline, rest) ← readRegex total rest exhausts
  let (trailing, rest) ← orFault (readSeparator total closer false rest)
  match rest with
  | [] => .error (.fault (.unterminatedPart start closer))
  | _ :: rest =>
    let parameter := name.lower
    pure (.capture {
      written := t.take (t.length - rest.length)
      identifier, parameter, leading, trailing, occurrence
      required := closer == ']'
      regex := (inline.map Prod.fst).getD (defaultRegex r parameter)
      regexSpan := inline.map Prod.snd }, rest)

/-- Reads all that is left of a template. Each step takes a character at
least, so as many steps as there are characters are enough. -/
def readDrafts (r : Registry) (fuel : Nat) (t : Text)
    (exhausts : Text → Bool := fun _ => false) : Except Error (List Draft) :=
  match fuel, t with
  | 0, _ => .ok []
  | _ + 1, [] => .ok []
  | fuel + 1, c :: rest =>
    match closerOf? c with
    | some closer => do
      let (part, left) ← readPart total r (c :: rest) closer exhausts
      let parts ← readDrafts r fuel left exhausts
      pure (part :: parts)
    | none => do
      let (text, left) ← orFault (readLiteral total (c :: rest))
      let parts ← readDrafts r fuel left exhausts
      pure (.literal ((c :: rest).take ((c :: rest).length - left.length)) text :: parts)

end Template

/-- Reads a template. Which regular expressions need more of the stack than is left is
told from outside. -/
def Template.read (r : Registry) (template : Text) (exhausts : Text → Bool := fun _ => false) :
    Except Template.Error (List Draft) :=
  Template.readDrafts template.length r template.length template exhausts

end KeyNaming
