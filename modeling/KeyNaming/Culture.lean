import KeyNaming.Diagnostic.Message
import KeyNaming.Key.Chain

/-!
Cultures of keys. Any common spelling of a culture is brought to one form, so
that keys built from different spellings are equivalent.

Which locales there are and how an identifier is read is not decided here. A parser of
locale identifiers is given, which returns a locale or says why there is none.
-/

namespace KeyNaming

/-- The parts of a locale that a culture is written with. -/
structure Locale where
  language : Text
  script : Option Text := none
  territory : Option Text := none
  variant : Option Text := none

/-- The parts of a locale that are there, in order. -/
def Locale.subtags (l : Locale) : List Text :=
  ([some l.language, l.script, l.territory, l.variant].filterMap id).filter (!·.isEmpty)

/-- What reads the identifiers of locales, or words why it cannot. -/
abbrev LocaleParser := Text → Except Text Locale

namespace Culture

/-- A culture with underscores for hyphens, the form of locale identifiers. -/
def withUnderscores (culture : Text) : Text :=
  culture.map fun (c : CodePoint) => if c == '-' then CodePoint.ofChar '_' else c

/-- The canonical form of a culture. The empty culture is the invariant one and
stays as it is. -/
def normalize (parse : LocaleParser) (culture : Text) : Except Diagnostic Text :=
  if culture.isEmpty then .ok culture
  else
    match parse (withUnderscores culture) with
    | .ok found => .ok (Text.join "-" found.subtags)
    | .error reason => .error (.unknownCulture culture reason)

end Culture

/-- Adds a culture segment with the canonical form of a culture. -/
def Chain.appendCulture (r : Registry) (parse : LocaleParser) (c : Chain) (culture : Text) :
    Except Diagnostic Chain := do
  let normalized ← Culture.normalize parse culture
  pure (c.push (.ofPair r (some "culture", some normalized)))

end KeyNaming
