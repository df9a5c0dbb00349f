import KeyNaming.Regex.Basic

/-!
Cursors: a text with an offset into it.

A negative offset counts from the end of the text. An offset behind the end is
allowed; there is nothing to see there.
-/

namespace KeyNaming

namespace Text

def clampOffset (t : Text) (offset : Int) : Nat :=
  if 0 ≤ offset then Nat.min offset.toNat t.length else (offset + t.length).toNat

/-- The slice between two offsets, which are brought into the text. -/
def sliceBetween (t : Text) (start stop : Int) : Text :=
  t.slice (t.clampOffset start) (t.clampOffset stop)

end Text

/-- A place in a text. -/
structure Cursor where
  source : Text
  offset : Int

/-- Why there is nothing to see at a place. -/
inductive CursorError where
  /-- The place lies at the end or behind it. -/
  | atEnd (offset : Int)
  /-- The place lies before the start. -/
  | beforeStart
deriving DecidableEq

namespace Cursor

def isAtEnd (c : Cursor) : Bool := (c.source.length : Int) ≤ c.offset

def current (c : Cursor) : Except CursorError CodePoint :=
  if c.isAtEnd then .error (.atEnd c.offset)
  else
    match elementAt? c.source c.offset with
    | some d => .ok d
    | none => .error .beforeStart

/-- The character at a distance from the cursor, if the place is not behind
the end. -/
def peek (c : Cursor) (distance : Int) : Except CursorError (Option CodePoint) :=
  if (c.source.length : Int) ≤ c.offset + distance then .ok none
  else
    match elementAt? c.source (c.offset + distance) with
    | some d => .ok (some d)
    | none => .error .beforeStart

/-- The cursor moved by a distance, though not behind the end. -/
def advance (c : Cursor) (distance : Int) : Cursor :=
  { c with offset := min (c.offset + distance) c.source.length }

/-- The text from the cursor to an offset. -/
def sliceTo (c : Cursor) (stop : Int) : Text := c.source.sliceBetween c.offset stop

/-- The position that the cursor is at, brought into the text. Unlike for
slices, what lies before the start counts as the start. -/
def position (c : Cursor) : Regex.Position :=
  let n := Nat.min c.offset.toNat c.source.length
  ⟨(c.source.take n).reverse, c.source.drop n⟩

/-- Where an expression matches at the cursor: the offsets of the start and the
end, and the text between. -/
def match? (c : Cursor) (r : Regex) : Option (Nat × Nat × Text) :=
  let start := c.position
  (r.matchAt? start).map fun found =>
    (start.offset, found.position.offset, start.textUpTo found.position)

end Cursor

end KeyNaming
