import KeyNaming.Text.Basic

/-!
Syntax trees of regular expressions.

A tree holds what the source says; how a flag changes the meaning of a part is
decided where the part is matched. Sequences and alternatives are binary, so
that each recursion on a tree has one equation per form.
-/

namespace KeyNaming.Regex

/-- Settings that a regular expression turns on and off in its own text. -/
structure Flags where
  ignoreCase : Bool := false
  multiLine : Bool := false
  dotAll : Bool := false
  verbose : Bool := false
  /-- Classes and case mappings know ASCII only. -/
  ascii : Bool := false
  /-- Classes and case mappings know all of Unicode, said explicitly. -/
  unicode : Bool := false
  /-- No part may be repeated. -/
  template : Bool := false
deriving DecidableEq

namespace Flags

def isNone (f : Flags) : Bool := f == {}

def meets (f g : Flags) : Bool :=
  (f.ignoreCase && g.ignoreCase) || (f.multiLine && g.multiLine) ||
    (f.dotAll && g.dotAll) || (f.verbose && g.verbose) || (f.ascii && g.ascii) ||
    (f.unicode && g.unicode) || (f.template && g.template)

def union (f g : Flags) : Flags where
  ignoreCase := f.ignoreCase || g.ignoreCase
  multiLine := f.multiLine || g.multiLine
  dotAll := f.dotAll || g.dotAll
  verbose := f.verbose || g.verbose
  ascii := f.ascii || g.ascii
  unicode := f.unicode || g.unicode
  template := f.template || g.template

/-- The flags inside a group that adds some and removes others. The choice
between ASCII and Unicode is replaced where the group makes it. -/
def within (f added removed : Flags) : Flags where
  ignoreCase := (f.ignoreCase || added.ignoreCase) && !removed.ignoreCase
  multiLine := (f.multiLine || added.multiLine) && !removed.multiLine
  dotAll := (f.dotAll || added.dotAll) && !removed.dotAll
  verbose := (f.verbose || added.verbose) && !removed.verbose
  ascii := if added.ascii || added.unicode then added.ascii else f.ascii
  unicode := if added.ascii || added.unicode then added.unicode else f.unicode
  template := f.template || added.template

end Flags

/-- A class of characters that a backslash and a letter name. -/
inductive ClassName where
  | digit
  | blank
  | word
deriving DecidableEq

/-- A member of a set of characters. -/
inductive Member where
  | single (c : CodePoint)
  | range (first last : CodePoint)
  | named (name : ClassName) (negated : Bool)
deriving DecidableEq

/-- A condition on a position that takes no character. -/
inductive Anchor where
  | lineStart
  | lineEnd
  | textStart
  | textEnd
  | boundary
  | nonBoundary
deriving DecidableEq

/-- A part without parts of its own. -/
inductive Atom where
  | literal (c : CodePoint)
  | notLiteral (c : CodePoint)
  | any
  | set (negated : Bool) (members : List Member)
  | anchor (a : Anchor)
  | reference (group : Nat)
deriving DecidableEq

/-- The fewest and the most characters that a part takes; no most where there
is no limit. -/
structure Width where
  min : Nat
  max : Option Nat
deriving DecidableEq

/-- Which number of repetitions is tried first, and whether others are. -/
inductive Greed where
  | greedy
  | lazy
  | possessive
deriving DecidableEq

/-- Where a lookaround looks; behind, by a width found when it was read. -/
inductive Direction where
  | ahead
  | behind (width : Width)
deriving DecidableEq

/-- A regular expression. -/
inductive Node where
  | empty
  | atom (a : Atom)
  | cat (first second : Node)
  | alt (first second : Node)
  | group (index : Nat) (body : Node)
  | scoped (added removed : Flags) (body : Node)
  | repeated (greed : Greed) (min : Nat) (max : Option Nat) (body : Node)
  | look (direction : Direction) (negated : Bool) (body : Node)
  | atomic (body : Node)
  | conditional (group : Nat) (present absent : Node)

namespace Width

def add (v w : Width) : Width where
  min := v.min + w.min
  max := v.max.bind fun m => w.max.map (m + ·)

def either (v w : Width) : Width where
  min := Nat.min v.min w.min
  max := v.max.bind fun m => w.max.map (Nat.max m)

def times (w : Width) (min : Nat) (max : Option Nat) : Width where
  min := w.min * min
  max :=
    match w.max, max with
    | some 0, _ => some 0
    | _, some 0 => some 0
    | some m, some n => some (m * n)
    | _, _ => none

end Width

namespace Node

/-- Parts one after the other. -/
def seq : List Node → Node
  | [] => .empty
  | node :: nodes => .cat node (seq nodes)

/-- A choice of parts, the first ones preferred. -/
def choice : List Node → Node
  | [] => .empty
  | [node] => node
  | node :: nodes => .alt node (choice nodes)

/-- The width of a part, given those of the groups that are complete. -/
def width (groupWidth : Nat → Width) : Node → Width
  | .empty => ⟨0, some 0⟩
  | .atom (.anchor _) => ⟨0, some 0⟩
  | .atom (.reference i) => groupWidth i
  | .atom _ => ⟨1, some 1⟩
  | .cat p q => (p.width groupWidth).add (q.width groupWidth)
  | .alt p q => (p.width groupWidth).either (q.width groupWidth)
  | .group _ p => p.width groupWidth
  | .scoped _ _ p => p.width groupWidth
  | .repeated _ min max p => (p.width groupWidth).times min max
  | .look _ _ _ => ⟨0, some 0⟩
  | .atomic p => p.width groupWidth
  | .conditional _ p q => (p.width groupWidth).either (q.width groupWidth)

end Node

end KeyNaming.Regex
