import KeyNaming.Regex.Escape

/-!
Sets of characters between square brackets.

A closing bracket as the first member stands for itself, and so does a dash
before the closing bracket. A set of one character is that character.
-/

namespace KeyNaming.Regex

/-- The member that a token starts inside a set. -/
def readMember (t : Token) (s : Source) : Except Error (Member × Source) :=
  match t with
  | .plain c => .ok (.single c, s)
  | .escaped c => readSetEscape c s

/-- The members between two ends of a range, if both ends are characters in
order. -/
def rangeOf? : Member → Member → Option Member
  | .single first, .single last => if last.value < first.value then none else some (.range first last)
  | _, _ => none

/-- Reads members up to the closing bracket. The set began at a given offset. -/
def readMembers (start : Nat) (members : List Member) :
    Nat → Source → Except Error (List Member × Source)
  | 0, _ => Source.faultAt .unterminatedSet start
  | fuel + 1, s => do
    let (token?, s) ← s.take
    let some token := token? | Source.faultAt .unterminatedSet start
    if token.isPlain ']' && !members.isEmpty then return (members, s)
    let (member, s) ← readMember token s
    let (dash, s) ← s.accept '-'
    if !dash then return ← readMembers start (members ++ [member]) fuel s
    let (last?, s) ← s.take
    let some last := last? | Source.faultAt .unterminatedSet start
    if last.isPlain ']' then return (members ++ [member, .single '-'], s)
    let (lastMember, s) ← readMember last s
    match rangeOf? member lastMember with
    | some range => readMembers start (members ++ [range]) fuel s
    | none =>
      s.fault (.badRange token.text last.text) (token.text.length + 1 + last.text.length)

/-- A set in its plainest form. -/
def setOf (negated : Bool) (members : List Member) : Atom :=
  match members.eraseDups, negated with
  | [.single c], false => .literal c
  | [.single c], true => .notLiteral c
  | distinct, _ => .set negated distinct

/-- Reads a set after its opening bracket, which stands at a given offset. -/
def readSet (start : Nat) (s : Source) : Except Error (Atom × Source) := do
  let (negated, s) ← s.accept '^'
  let (members, s) ← readMembers start [] (s.tokens.length + 1) s
  pure (setOf negated members, s)

end KeyNaming.Regex
