import KeyNaming.Diagnostic.Message
import KeyNaming.Key.Chain
import KeyNaming.Text.Numeral

/-!
The written form of keys: the names and values of a key from its root on, with
a colon between each two.

A backslash, a colon and control characters inside a name or a value are
escaped. Reading goes in two steps: escapes are decoded into marks, each with
the length of its source, and the marks are split at the colons that were not
escaped.
-/

namespace KeyNaming

namespace Written

/-- The characters with an escape of one letter, and their letters. -/
def letterEscapes : List (CodePoint × CodePoint) :=
  [('\\', '\\'), (':', ':'), ('\x00', '0'), ('\x07', 'a'), ('\x08', 'b'), ('\t', 't'),
    ('\x0c', 'f'), ('\n', 'n'), ('\r', 'r')]

/-- The written form of one character of a name or value. -/
def escapePoint (c : CodePoint) : Text :=
  match letterEscapes.lookup c with
  | some letter => ['\\', letter]
  | none =>
    if c.isControl then Text.ofString "\\x" ++ Text.ofHex Char.toUpper 2 c.value else [c]

def escape (t : Text) : Text := t.flatMap escapePoint

/-- The written form of a segment. A value that is missing is written as an
empty one. -/
def ofSegment (s : Segment) : Text :=
  escape s.name ++ (':' : CodePoint) :: escape (s.value.getD [])

inductive Error where
  /-- The names and values do not pair up, or a name is empty, at an offset. -/
  | malformed (offset : Nat)
  /-- A backslash at an offset starts no escape. -/
  | invalidEscape (offset : Nat)
  /-- An escape gives a number that does not fit its field. -/
  | numberTooLarge
deriving DecidableEq

def Error.diagnostic? (key : Text) : Error → Option Diagnostic
  | .malformed offset => some (.malformedKey key (.toEnd offset key.length))
  | .invalidEscape offset =>
    some (.invalidKeyEscape key (.toEnd offset (Nat.min (offset + 2) key.length)))
  | .numberTooLarge => none

/-- A step of a written key: a colon between names and values, or a character
that was written with so many. -/
inductive Mark where
  | separator
  | point (c : CodePoint) (length : Nat)
deriving DecidableEq

def Mark.length : Mark → Nat
  | .separator => 1
  | .point _ length => length

/-- The number of digits that the letter of an escape asks for. -/
def digitCount? (letter : CodePoint) : Option Nat :=
  if letter == 'x' then some 2
  else if letter == 'u' then some 4
  else if letter == 'U' then some 8
  else none

/-- What an escape stands for. -/
inductive Escape where
  /-- A character, and how many characters follow the backslash. -/
  | point (c : CodePoint) (length : Nat)
  | invalid
  | numberTooLarge

def Escape.ofNumber (n : Int) (length : Nat) : Escape :=
  if n < 0 then .invalid
  else
    match CodePoint.ofNat? n.toNat with
    | some c => .point c length
    | none => if 0x80000000 ≤ n then .numberTooLarge else .invalid

/-- Decodes what follows a backslash. -/
def Escape.decode : Text → Escape
  | [] => .invalid
  | letter :: rest =>
    match letterEscapes.find? fun entry => entry.2 == letter with
    | some (c, _) => .point c 1
    | none =>
      match digitCount? letter with
      | none => .invalid
      | some count =>
        let digits := rest.take count
        if digits.length != count then .invalid
        else
          match Text.int? 16 digits with
          | none => .invalid
          | some n => .ofNumber n (count + 1)

/-- The marks of a written key from an offset on. `skip` characters of an
escape were decoded already. -/
def marksFrom (offset : Nat) : Nat → Text → Except Error (List Mark)
  | _, [] => .ok []
  | skip + 1, _ :: rest => marksFrom (offset + 1) skip rest
  | 0, c :: rest =>
    if c == ':' then (marksFrom (offset + 1) 0 rest).map (.separator :: ·)
    else if c == '\\' then
      match Escape.decode rest with
      | .invalid => .error (.invalidEscape offset)
      | .numberTooLarge => .error .numberTooLarge
      | .point d length =>
        (marksFrom (offset + 1) length rest).map (.point d (length + 1) :: ·)
    else (marksFrom (offset + 1) 0 rest).map (.point c 1 :: ·)

/-- A name or value, and the offset where its written form starts. -/
structure Token where
  start : Nat
  text : Text
deriving DecidableEq

/-- The names and values that marks from an offset on stand for. There is
always one more than there are colons. -/
def tokensFrom (offset : Nat) : List Mark → Token × List Token
  | [] => (⟨offset, []⟩, [])
  | .separator :: rest =>
    let (token, tokens) := tokensFrom (offset + 1) rest
    (⟨offset, []⟩, token :: tokens)
  | .point c length :: rest =>
    let (token, tokens) := tokensFrom (offset + length) rest
    (⟨offset, c :: token.text⟩, tokens)

/-- The names and values of a text, the first one apart. -/
def tokens (t : Text) : Except Error (Token × List Token) :=
  (marksFrom 0 0 t).map (tokensFrom 0)

/-- The name or value that a text without bare colons writes. -/
def unescape (t : Text) : Except Error Text := do
  let (first, rest) ← tokens t
  match rest with
  | [] => pure first.text
  | second :: _ => .error (.malformed (second.start - 1))

/-- Pairs names with values. Without a partner the last one is at fault; else
the first empty name is. -/
def pairUp : List Token → Except Error (List (Text × Text))
  | [] => .ok []
  | [last] => .error (.malformed last.start)
  | name :: value :: rest =>
    match pairUp rest with
    | .error e => .error e
    | .ok pairs => .ok ((name.text, value.text) :: pairs)

def pairs (t : Text) : Except Error (List (Text × Text)) := do
  let (first, rest) ← tokens t
  let all := first :: rest
  let pairs ← pairUp all
  match (all.zipIdx.find? fun (token, i) => i % 2 == 0 && token.text.isEmpty) with
  | some (token, _) => .error (.malformed token.start)
  | none => pure pairs

end Written

/-- The written form of a key. -/
def Chain.format (c : Chain) : Text :=
  Text.join ":" (c.segmentsFromRoot.map Written.ofSegment)

/-- Adds the segments of a written key to a chain. The empty text has none. -/
def Chain.read (r : Registry) (root : Chain) (t : Text) : Except Written.Error Chain :=
  if t.isEmpty then .ok root
  else do
    let pairs ← Written.pairs t
    pure (root.appendPairs r (pairs.map fun (name, value) => (some name, some value)))

end KeyNaming
