import KeyNaming.Regex.Character

/-!
Matching by backtracking.

A part is run on a position with a continuation, which says whether the rest
of the expression matches from where the part ends. Alternatives and numbers
of repetitions are tried in order, and the first way to satisfy the
continuation wins. What the groups captured travels with the position, so
going back undoes captures as well.
-/

namespace KeyNaming.Regex

/-- A position in a text: what stands before it, the closest character first,
and what stands after it. -/
structure Position where
  before : Text
  after : Text

/-- The position and the captures at one point of a match. The latest mark of
a group comes first. -/
structure Progress where
  position : Position
  opened : List (Nat × Position) := []
  closed : List (Nat × Position) := []

namespace Position

def offset (p : Position) : Nat := p.before.length

def textUpTo (p q : Position) : Text :=
  p.after.take (p.after.length - q.after.length)

def back? (p : Position) (n : Nat) : Option Position :=
  if p.before.length < n then none
  else some ⟨p.before.drop n, (p.before.take n).reverse ++ p.after⟩

/-- Whether words end or begin at a position. Nowhere in an empty text is there
a boundary, nor a place without one. -/
def isBoundary (f : Flags) (p : Position) : Bool :=
  let isWord (c : CodePoint) := ClassName.word.contains f.ascii c
  p.before.head?.any isWord != p.after.head?.any isWord

/-- Whether an anchor holds at a position. -/
def holds (f : Flags) (p : Position) : Anchor → Bool
  | .textStart => p.before.isEmpty
  | .textEnd => p.after.isEmpty
  | .lineStart =>
    p.before.isEmpty || (f.multiLine && p.before.head? == some (CodePoint.ofChar '\n'))
  | .lineEnd =>
    p.after.isEmpty || p.after == [CodePoint.ofChar '\n'] ||
      (f.multiLine && p.after.head? == some (CodePoint.ofChar '\n'))
  | .boundary => !(p.before.isEmpty && p.after.isEmpty) && p.isBoundary f
  | .nonBoundary => !(p.before.isEmpty && p.after.isEmpty) && !p.isBoundary f

end Position

namespace Progress

def start (t : Text) : Progress := { position := ⟨[], t⟩ }

/-- Whether a character comes next that a condition accepts, and the progress
after it. -/
def step (accepts : CodePoint → Bool) (p : Progress) : Option Progress :=
  match p.position.after with
  | [] => none
  | c :: rest =>
    if accepts c then some { p with position := ⟨c :: p.position.before, rest⟩ } else none

def openGroup (i : Nat) (p : Progress) : Progress :=
  { p with opened := (i, p.position) :: p.opened }

def closeGroup (i : Nat) (p : Progress) : Progress :=
  { p with closed := (i, p.position) :: p.closed }

/-- What a group captured last, if it took part. -/
def group? (p : Progress) (i : Nat) : Option Text :=
  match p.opened.lookup i, p.closed.lookup i with
  | some first, some last =>
    if first.after.length < last.after.length then none else some (first.textUpTo last)
  | _, _ => none

/-- Takes the characters of a text. -/
def takeText (f : Flags) : Text → Progress → Option Progress
  | [], p => some p
  | c :: rest, p => (p.step (isSame f c)).bind (takeText f rest)

end Progress

/-- Takes a part that has no parts of its own. -/
def Atom.step (f : Flags) (p : Progress) : Atom → Option Progress
  | .literal c => p.step (isLiteral f c)
  | .notLiteral c => p.step fun d => !isLiteral f c d
  | .any => p.step fun c => f.dotAll || c != '\n'
  | .set negated members => p.step fun c => setContains f members c != negated
  | .anchor a => if p.position.holds f a then some p else none
  | .reference i => (p.group? i).bind fun t => p.takeText f t

/-- What the rest of an expression makes of a position. -/
abbrev Continuation := Progress → Option Progress

/-- A part as a function of the rest of the expression. -/
abbrev Matching := Continuation → Continuation

/-- Whether one more repetition is allowed after a number of them. -/
def isBelow (count : Nat) : Option Nat → Bool
  | none => true
  | some max => count < max

/-- Repeats a part as often as possible first. Beyond the least number, a
repetition is not started where the one before it started, so that one that
takes no character is not repeated for ever. Such a repetition moves on by a
character, hence the fuel that `repetitionFuel` computes is enough. -/
def repeatGreedily (body : Matching) (min : Nat) (max : Option Nat) (k : Continuation) :
    Nat → Nat → Option Nat → Continuation
  | 0, _, _, p => k p
  | fuel + 1, count, last, p =>
    if count < min then body (repeatGreedily body min max k fuel (count + 1) last) p
    else if isBelow count max && last != some p.position.after.length then
      match body (repeatGreedily body min max k fuel (count + 1)
          (some p.position.after.length)) p with
      | some result => some result
      | none => k p
    else k p

/-- Repeats a part as seldom as possible first, with the rule of
`repeatGreedily` against repetitions that take no character. -/
def repeatLazily (body : Matching) (min : Nat) (max : Option Nat) (k : Continuation) :
    Nat → Nat → Option Nat → Continuation
  | 0, _, _, p => k p
  | fuel + 1, count, last, p =>
    if count < min then body (repeatLazily body min max k fuel (count + 1) last) p
    else
      match k p with
      | some result => some result
      | none =>
        if isBelow count max && last != some p.position.after.length then
          body (repeatLazily body min max k fuel (count + 1)
            (some p.position.after.length)) p
        else none

/-- Repeats a part as often as possible and never less often, with the rule of
`repeatGreedily` against repetitions that take no character. -/
def repeatPossessively (once : Continuation) (min : Nat) (max : Option Nat) :
    Nat → Nat → Option Nat → Continuation
  | 0, _, _, p => some p
  | fuel + 1, count, last, p =>
    if count < min then
      (once p).bind (repeatPossessively once min max fuel (count + 1) last)
    else if isBelow count max && last != some p.position.after.length then
      match once p with
      | some q =>
        repeatPossessively once min max fuel (count + 1) (some p.position.after.length) q
      | none => some p
    else some p

/-- The least number of repetitions, one for each character left, one that
takes none, and one to spare. -/
def repetitionFuel (min : Nat) (p : Progress) : Nat :=
  min + p.position.after.length + 2

/-- Runs a part and then the rest of the expression. -/
def Node.run : Node → Flags → Matching
  | .empty, _, k, p => k p
  | .atom a, f, k, p => (a.step f p).bind k
  | .cat first second, f, k, p => first.run f (second.run f k) p
  | .alt first second, f, k, p =>
    match first.run f k p with
    | some result => some result
    | none => second.run f k p
  | .group i body, f, k, p => body.run f (fun q => k (q.closeGroup i)) (p.openGroup i)
  | .scoped added removed body, f, k, p => body.run (f.within added removed) k p
  | .repeated .greedy min max body, f, k, p =>
    repeatGreedily (fun k' => body.run f k') min max k (repetitionFuel min p) 0 none p
  | .repeated .lazy min max body, f, k, p =>
    repeatLazily (fun k' => body.run f k') min max k (repetitionFuel min p) 0 none p
  | .repeated .possessive min max body, f, k, p =>
    (repeatPossessively (body.run f some) min max (repetitionFuel min p) 0 none p).bind k
  | .look direction negated body, f, k, p =>
    let from? :=
      match direction with
      | .ahead => some p.position
      | .behind width => p.position.back? width.min
    let found := from?.bind fun position => body.run f some { p with position }
    match found, negated with
    | some q, false => k { q with position := p.position }
    | none, true => k p
    | _, _ => none
  | .atomic body, f, k, p => (body.run f some p).bind k
  | .conditional i present absent, f, k, p =>
    if (p.group? i).isSome then present.run f k p else absent.run f k p

end KeyNaming.Regex
