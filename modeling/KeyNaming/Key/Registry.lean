import KeyNaming.Entries
import KeyNaming.Key.Classification
import KeyNaming.Regex.Basic

/-!
The registry of well-known parameters: how segments of a parameter are
compared, where the parameter sorts, and which values a pattern captures for
it. Names are looked up without regard to case.

The comparer and the patterns consult the same registry, so that both agree on
what a parameter means.
-/

namespace KeyNaming

/-- What is known of one parameter. -/
structure ParameterInfo where
  name : Text
  classification : Classification
  /-- Smaller weights sort further left. -/
  order : Int := 0
  /-- The values that a pattern captures; none where any value will do. -/
  pattern : Option Regex := none

/-- Known parameters by lower-cased name, and the classification of all other
names. -/
structure Registry where
  entries : Entries Text ParameterInfo := []
  fallback : Classification := .canonical

namespace Registry

def info? (r : Registry) (name : Text) : Option ParameterInfo :=
  Entries.get? (· == ·) name.lower r.entries

/-- The registry of some parameters. Of those whose names differ only by case the
last one is kept, in the place of the first. -/
def ofInfos (infos : List ParameterInfo) (fallback : Classification) : Registry where
  entries := infos.foldl (fun entries info => Entries.put (· == ·) info.name.lower info entries) []
  fallback

/-- A registry with one more parameter, made anew from those of the old one. -/
def withInfo (r : Registry) (info : ParameterInfo) : Registry :=
  ofInfos (Entries.values r.entries ++ [info]) r.fallback

def names (r : Registry) : List Text := Entries.keys r.entries

def contains (r : Registry) (name : Text) : Bool := (r.info? name).isSome

/-- How segments of a name are compared. Nodes without a name never are. -/
def classify (r : Registry) : Option Text → Classification
  | none => .unclassified
  | some name => ((r.info? name).map ParameterInfo.classification).getD r.fallback

/-- The values that a pattern captures for a name, where they are limited. -/
def pattern? (r : Registry) : Option Text → Option Regex
  | none | some [] => none
  | some name => (r.info? name).bind ParameterInfo.pattern

/-- The weight of a name, zero for unknown ones. -/
def sortOrder (r : Registry) (name : Text) : Int :=
  ((r.info? name).map ParameterInfo.order).getD 0

end Registry

/-- The regular expression with a source that is known to be one under given flags. -/
def regexOf (source : Text) (given : Regex.Flags := {}) : Option Regex :=
  (Regex.compile source given).toOption

/-- Cultures are a language, and optionally a script or territory. -/
def culturePatternSource : Text :=
  "^[a-z]\x7b2,5\x7d(-[A-Za-z]\x7b2,7\x7d)?$"

/-- Type names hold no colon and start with no digit. -/
def typePatternSource : Text :=
  "[^:0-9][^:]*"

/-- The parameters that are always known: the parts of a key, the arguments of
a plural, and formatting hints that are no part of the identity of a key. -/
def defaultInfos : List ParameterInfo :=
  [{ name := "culture", classification := .nonCanonical, order := -6000,
     pattern := regexOf culturePatternSource },
   { name := "location", classification := .canonical, order := -4000 },
   { name := "assembly", classification := .nonCanonical, order := -2000 },
   { name := "resource", classification := .canonical, order := 0 },
   { name := "section", classification := .canonical, order := 2000 },
   { name := "type", classification := .canonical, order := 2000,
     pattern := regexOf typePatternSource },
   { name := "key", classification := .canonical, order := 6000 },
   { name := "n", classification := .nonCanonical, order := 8000 },
   { name := "root", classification := .unclassified, order := -300000 },
   { name := "stringformat", classification := .unclassified, order := -200000 },
   { name := "pluralrules", classification := .unclassified, order := -22000 },
   { name := "stringformatfunctions", classification := .unclassified, order := -21000 }] ++
  (List.range 19).map fun i =>
    { name := "n" ++ Text.ofNat (i + 1), classification := .nonCanonical,
      order := 8000 + 100 * ((i : Int) + 1) }

/-- The registry that is used where no other is given. -/
def defaultRegistry : Registry := Registry.ofInfos defaultInfos .canonical

end KeyNaming
