import KeyNaming.Culture
import KeyNaming.Diagnostic.Report
import KeyNaming.Key.Comparer
import KeyNaming.Key.Written
import KeyNaming.Pattern.Match
import KeyNaming.Text.Cursor

/-!
Everything that can go wrong when keys, patterns and comparers are used
together, with the wording of each.
-/

namespace KeyNaming

/-- Why something cannot be done. -/
inductive Failure where
  /-- A text is no template. -/
  | template (template : Text) (e : Template.Error)
  /-- A name does not match a pattern. -/
  | noMatch (name template : Text)
  /-- A text is no written key. -/
  | key (text : Text) (e : Written.Error)
  /-- A culture is not known. -/
  | culture (d : Diagnostic)
  /-- A text is no regular expression. -/
  | regex (source : Text) (e : Regex.Error)
  /-- Two numbers are no span. -/
  | span (e : SpanError)
  /-- There is nothing to see at a place. -/
  | cursor (e : CursorError)
  /-- A node without a name is classified. -/
  | classifiedWithoutName
  /-- What stands behind a node is no chain but a value of another kind. -/
  | notAChain (kind : Text)
  /-- A word is none of the words for something. -/
  | unknownWord (word domain : Text)
  /-- An occurrence has more digits than a number may have. -/
  | occurrenceTooLong (digits : Nat)
  /-- Nothing has a name or an identifier. -/
  | unknownName
  /-- There is no value at a position. -/
  | noSuchPosition
  /-- A key with a surrogate has no hash. -/
  | noHash
  /-- There is no key to work on. -/
  | missingKey

namespace Failure

/-- The diagnostic that a failure is reported by, if it is reported by one. -/
def diagnostic? : Failure → Option Diagnostic
  | .template source (.fault f) => some (f.diagnostic source)
  | .noMatch name source => some (.noMatch name source)
  | .key text e => e.diagnostic? text
  | .culture d => some d
  | _ => none

/-- The wording of a count or an occurrence with too many digits. -/
def tooManyDigits (digits : Nat) : Text := (Regex.Error.numeralTooLong digits).message []

def message (f : Failure) : Text :=
  match f.diagnostic? with
  | some d => d.format
  | none =>
    match f with
    | .template _ (.regex e) => e.message []
    | .template _ (.occurrenceTooLong digits) => tooManyDigits digits
    | .regex source e => e.message source
    | .span e => e.message
    | .cursor (.atEnd offset) => "Unexpected EOF at position " ++ Text.ofInt offset
    | .classifiedWithoutName => "A node without parameter name must be UNCLASSIFIED"
    | .notAChain kind => "previous must be a KeyChain or None, got " ++ kind
    | .unknownWord word domain => word.quoted ++ " is not a valid " ++ domain
    | .occurrenceTooLong digits => tooManyDigits digits
    | _ => []

end Failure

def Classification.ofWord (t : Text) : Except Failure Classification :=
  match Classification.ofText? t with
  | some c => .ok c
  | none => .error (.unknownWord t "Classification")

def ReportStyle.ofWord (t : Text) : Except Failure ReportStyle :=
  match ReportStyle.ofText? t with
  | some style => .ok style
  | none => .error (.unknownWord t "OutputFormat")

def Pattern.ofTemplate (r : Registry) (template : Text)
    (exhausts : Text → Bool := fun _ => false) : Except Failure Pattern :=
  (Pattern.compile r template exhausts).mapError (.template template)

def Pattern.parse (p : Pattern) (name : Text) (root : Chain) (r : Registry) :
    Except Failure Chain :=
  match p.parse? name root r with
  | some c => .ok c
  | none => .error (.noMatch name p.template)

/-- A chain with one more node. Without a classification the registry decides,
and a node without a name must not be classified otherwise. -/
def Chain.appendNode (c : Chain) (r : Registry) (name value : Option Text)
    (classification : Option Classification) : Except Failure Chain :=
  match ChainNode.make? name value (classification.getD (r.classify name)) with
  | some n => .ok (c.push n)
  | none => .error .classifiedWithoutName

end KeyNaming
