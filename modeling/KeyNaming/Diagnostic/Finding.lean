import KeyNaming.Diagnostic.Message

/-!
Problems told by plain numbers.

A finding says what is wrong and at which offsets. The offsets come from
outside, so they need not make up a span; if they do not, there is no
diagnostic.
-/

namespace KeyNaming

/-- A problem and the numbers that it was found at. -/
inductive Finding where
  | unexpectedBracket (template : Text) (offset : Int) (bracket : Text)
  | unterminatedPart (template : Text) (start : Int) (closer : Text)
  | missingIdentifier (template : Text) (start expected : Int)
  | unknownEscape (template : Text) (offset : Int)
  | trailingEscape (template : Text)
  | unterminatedRegex (template : Text) (start : Int)
  | invalidRegex (template : Text) (start stop : Int) (reason : Text)
  | duplicateIdentifier (template : Text) (start stop : Int) (identifier : Text)
  | noMatch (name template : Text)
  | malformedKey (key : Text) (offset : Int)
  | invalidKeyEscape (key : Text) (offset : Int)
  | unknownCulture (culture reason : Text)

namespace Finding

/-- The diagnostic of a finding. A problem that ends before it starts, or
starts before the text, has none. -/
def diagnostic : Finding → Except SpanError Diagnostic
  | unexpectedBracket template offset bracket => do
    pure (.unexpectedBracket template (← Span.ofInts offset (offset + 1)) bracket)
  | unterminatedPart template start closer => do
    pure (.unterminatedPart template (← Span.ofInts start template.length) closer)
  | missingIdentifier template start expected => do
    pure (.missingIdentifier template
      (← Span.ofInts start (min (expected + 1) template.length)))
  | unknownEscape template offset => do
    pure (.unknownEscape template (← Span.ofInts offset (offset + 2)))
  | trailingEscape template => do
    pure (.trailingEscape template
      (← Span.ofInts ((template.length : Int) - 1) template.length))
  | unterminatedRegex template start => do
    pure (.unterminatedRegex template (← Span.ofInts start template.length))
  | invalidRegex template start stop reason => do
    pure (.invalidRegex template (← Span.ofInts start stop) reason)
  | duplicateIdentifier template start stop identifier => do
    pure (.duplicateIdentifier template (← Span.ofInts start stop) identifier)
  | noMatch name template => .ok (.noMatch name template)
  | malformedKey key offset => do
    pure (.malformedKey key (← Span.ofInts offset key.length))
  | invalidKeyEscape key offset => do
    pure (.invalidKeyEscape key (← Span.ofInts offset (min (offset + 2) key.length)))
  | unknownCulture culture reason => .ok (.unknownCulture culture reason)

end Finding

end KeyNaming
