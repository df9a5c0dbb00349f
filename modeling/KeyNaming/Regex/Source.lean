import KeyNaming.Regex.Error
import KeyNaming.Text.Class

/-!
The source of a regular expression as tokens: single characters, and a
backslash with the character after it.

The offset of the next token is kept beside the tokens, so every fault found
while reading has its position. A backslash that ends the source is a fault as
soon as it becomes the next token.
-/

namespace KeyNaming.Regex

/-- What reading takes at once. -/
inductive Token where
  | plain (c : CodePoint)
  | escaped (c : CodePoint)
deriving DecidableEq

namespace Token

def text : Token → Text
  | .plain c => [c]
  | .escaped c => ['\\', c]

/-- Whether a token is a given character without a backslash. -/
def isPlain (t : Token) (c : Char) : Bool :=
  t == .plain c

/-- The tokens of a source, and whether a backslash is left over at its end. -/
def ofText : Text → List Token × Bool
  | [] => ([], false)
  | c :: rest =>
    if c == '\\' then
      match rest with
      | [] => ([], true)
      | d :: rest' =>
        let (tokens, dangling) := ofText rest'
        (.escaped d :: tokens, dangling)
    else
      let (tokens, dangling) := ofText rest
      (.plain c :: tokens, dangling)

end Token

/-- What is left to read of a source. -/
structure Source where
  /-- The offset of the next token. -/
  position : Nat
  tokens : List Token
  /-- A lone backslash stands after the last token. -/
  dangling : Bool

namespace Source

/-- A source, unless its next token is a lone backslash. -/
def checked (s : Source) : Except Error Source :=
  if s.tokens.isEmpty && s.dangling then .error (.rejected .escapeAtEnd (some s.position))
  else .ok s

def ofText (t : Text) : Except Error Source :=
  let (tokens, dangling) := Token.ofText t
  checked ⟨0, tokens, dangling⟩

def next? (s : Source) : Option Token :=
  s.tokens.head?

def nextIs (s : Source) (c : Char) : Bool :=
  s.next?.any (·.isPlain c)

/-- A fault at a distance before the next token. -/
def fault {α : Type} (s : Source) (cause : Cause) (back : Nat) : Except Error α :=
  .error (.rejected cause (some (s.position - back)))

def faultAt {α : Type} (cause : Cause) (position : Nat) : Except Error α :=
  .error (.rejected cause (some position))

/-- The source after its next token. -/
def advance (s : Source) : Except Error Source :=
  match s.tokens with
  | [] => .ok s
  | t :: rest => checked ⟨s.position + t.text.length, rest, s.dangling⟩

def take (s : Source) : Except Error (Option Token × Source) := do
  let rest ← s.advance
  pure (s.next?, rest)

def accept (s : Source) (c : Char) : Except Error (Bool × Source) :=
  if s.nextIs c then do
    let rest ← s.advance
    pure (true, rest)
  else .ok (false, s)

/-- Takes plain characters of a class, at most so many. -/
def takeWhile (accepts : CodePoint → Bool) : Nat → Source → Except Error (Text × Source)
  | 0, s => .ok ([], s)
  | n + 1, s =>
    match s.tokens with
    | .plain c :: _ =>
      if accepts c then do
        let rest ← s.advance
        let (text, rest) ← takeWhile accepts n rest
        pure (c :: text, rest)
      else .ok ([], s)
    | _ => .ok ([], s)

/-- Takes tokens up to a closing character and drops that. -/
def takeUntil (closer : Char) (kind : Text) (taken : Text) :
    Nat → Source → Except Error (Text × Source)
  | 0, s => s.fault (.missingName kind) 0
  | fuel + 1, s => do
    let (token?, rest) ← s.take
    match token? with
    | none =>
      if taken.isEmpty then rest.fault (.missingName kind) 0
      else rest.fault (.unterminatedName closer) taken.length
    | some token =>
      if token.isPlain closer then
        if taken.isEmpty then rest.fault (.missingName kind) 1
        else pure (taken, rest)
      else takeUntil closer kind (taken ++ token.text) fuel rest

/-- The name that ends with a closing character. -/
def name (s : Source) (closer : Char) (kind : Text) : Except Error (Text × Source) :=
  takeUntil closer kind [] (s.tokens.length + 1) s

/-- The name of a group, which has to be an identifier. -/
def groupName (s : Source) (closer : Char) : Except Error (Text × Source) := do
  let (name, rest) ← s.name closer "group name"
  if name.isIdentifier then pure (name, rest)
  else rest.fault (.badGroupName name) (name.length + 1)

/-- Skips tokens up to a closing character, which is skipped too. Without one
the rest is skipped and `none` returned. -/
def skipPast (closer : Char) : Nat → Source → Except Error (Option Source)
  | 0, _ => .ok none
  | fuel + 1, s => do
    let (token?, rest) ← s.take
    match token? with
    | none => pure none
    | some token => if token.isPlain closer then pure (some rest) else skipPast closer fuel rest

end Source

end KeyNaming.Regex
