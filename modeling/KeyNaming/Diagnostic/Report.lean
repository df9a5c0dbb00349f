import KeyNaming.Diagnostic.Basic
import KeyNaming.Text.Quoted

/-!
Reports of diagnostics: several lines with carets under the span, one line
with the code, or one JSON object.

Control characters in a message, a source or a hint are written as escapes, so
no text can forge a line of a report.
-/

namespace KeyNaming

inductive ReportStyle where
  /-- Several lines, with carets under the span. -/
  | rust
  /-- The code and the message. -/
  | simple
  /-- One JSON object. -/
  | json
deriving DecidableEq

def ReportStyle.text : ReportStyle → Text
  | .rust => "rust"
  | .simple => "simple"
  | .json => "json"

def ReportStyle.ofText? (t : Text) : Option ReportStyle :=
  [ReportStyle.rust, .simple, .json].find? fun style => style.text == t

namespace Report

/-- A control character as an escape, any other one as it is. -/
def visiblePoint (c : CodePoint) : Text :=
  if c.isControl then Text.ofString "\\x" ++ Text.ofHex id 2 c.value else [c]

def visible (t : Text) : Text := t.flatMap visiblePoint

/-- The word for a severity, in its color where color is wanted. -/
def severity (color : Bool) (s : Diagnostic.Severity) : Text :=
  if color then
    let sequence : Text := match s with
      | .error => "1;31"
      | .warning => "1;33"
    Text.ofString "\x1b[" ++ sequence ++ "m" ++ s.text ++ "\x1b[0m"
  else s.text

/-- The lines that show a span: its column, and under the source its carets. -/
def spanLines (span : Span) (source : Option Text) : List Text :=
  ("  --> column " ++ Text.ofNat span.column) ::
    match source with
    | none => []
    | some source =>
      ["    | " ++ visible source,
        "    | " ++ List.replicate span.start (CodePoint.ofChar ' ') ++
          List.replicate (Nat.max (span.stop - span.start) 1) (CodePoint.ofChar '^')]

def hintLines : Option Text → List Text
  | none | some [] => []
  | some hint => ["  = help: " ++ visible hint]

/-- The lines of a report with carets. -/
def lines (color : Bool) (d : Diagnostic) : List Text :=
  (severity color d.severity ++ "[" ++ d.code.name ++ "]: " ++ visible d.message) ::
    (match d.span with
    | none => []
    | some span => spanLines span d.source) ++ hintLines d.hint

def oneLine (d : Diagnostic) : Text :=
  d.code.name ++ ": " ++ visible d.message

/-- A member of a JSON object. -/
def jsonMember (name : String) (value : Text) : Text :=
  (Text.ofString name).json ++ ": " ++ value

def jsonMembers (d : Diagnostic) : List Text :=
  [jsonMember "code" d.code.name.json,
    jsonMember "code_value" (Text.ofNat d.code.number),
    jsonMember "message" d.message.json,
    jsonMember "severity" d.severity.text.json] ++
  (match d.span with
  | none => []
  | some span =>
    [jsonMember "start" (Text.ofNat span.start), jsonMember "end" (Text.ofNat span.stop)]) ++
  (match d.source with
  | none => []
  | some source => [jsonMember "source" source.json]) ++
  (match d.hint with
  | none | some [] => []
  | some hint => [jsonMember "hint" hint.json])

def jsonObject (d : Diagnostic) : Text :=
  Text.bracketed '\x7b' '\x7d' (jsonMembers d)

end Report

def Diagnostic.report (style : ReportStyle) (color : Bool) (d : Diagnostic) : Text :=
  match style with
  | .rust => Text.join "\n" (Report.lines color d)
  | .simple => Report.oneLine d
  | .json => Report.jsonObject d

/-- The report that an error shows. -/
def Diagnostic.format (d : Diagnostic) : Text := d.report .rust false

/-- The reports of several diagnostics with an empty line between each two. -/
def Diagnostic.reportAll (style : ReportStyle) (color : Bool) (ds : List Diagnostic) : Text :=
  Text.join "\n\n" (ds.map (Diagnostic.report style color))

end KeyNaming
