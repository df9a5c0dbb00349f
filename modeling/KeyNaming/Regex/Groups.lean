import KeyNaming.Regex.Source

/-!
The groups of a regular expression while it is read: which are complete, how
they are called, and which may be referred to.

Groups are numbered from one in the order of their opening parentheses, and a
group may be referred to only once it is complete.
-/

namespace KeyNaming.Regex

/-- What is known of the groups so far. -/
structure Groups where
  /-- The widths of the groups in order, none while a group is open. -/
  widths : List (Option Width) := []
  names : List (Text × Nat) := []
  /-- Inside a lookbehind, the first number that was free before it. -/
  lookBehindLimit : Option Nat := none
  /-- Groups that a condition names by number, each with the offset of its
  first mention. -/
  mentioned : List (Nat × Nat) := []

namespace Groups

def next (g : Groups) : Nat := g.widths.length + 1

/-- The width of a complete group. -/
def width? (g : Groups) (i : Nat) : Option Width :=
  if i = 0 then none else (g.widths[i - 1]?).join

/-- The width of a group that a reference was allowed for. -/
def width (g : Groups) (i : Nat) : Width :=
  (g.width? i).getD ⟨0, none⟩

def openGroup (g : Groups) : Groups :=
  { g with widths := g.widths ++ [none] }

/-- Opens a group with a name that no earlier group has. -/
def openNamed (g : Groups) (name : Text) (s : Source) : Except Error Groups :=
  match g.names.lookup name with
  | some previous => s.fault (.groupRedefinition name g.next previous) (name.length + 1)
  | none => .ok { g.openGroup with names := g.names ++ [(name, g.next)] }

def close (g : Groups) (i : Nat) (w : Width) : Groups :=
  { g with widths := g.widths.set (i - 1) (some w) }

/-- Inside a lookbehind only groups that were complete before it may be
referred to. -/
def checkLookBehind (g : Groups) (i : Nat) (s : Source) : Except Error Unit :=
  match g.lookBehindLimit with
  | none => .ok ()
  | some limit =>
    if (g.width? i).isNone then s.fault .openGroupReference 0
    else if limit ≤ i then s.fault .lookBehindGroupReference 0
    else .ok ()

/-- Notes that a condition names a group by number. -/
def mention (g : Groups) (i position : Nat) : Groups :=
  if (g.mentioned.lookup i).isSome then g
  else { g with mentioned := g.mentioned ++ [(i, position)] }

/-- Every group that a condition names by number has to exist in the end. -/
def checkMentioned (g : Groups) : Except Error Unit :=
  match g.mentioned.find? fun entry => g.next ≤ entry.1 with
  | some (i, position) => Source.faultAt (.invalidGroupReference i) position
  | none => .ok ()

end Groups

end KeyNaming.Regex
