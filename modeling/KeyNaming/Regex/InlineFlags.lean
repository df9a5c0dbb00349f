import KeyNaming.Regex.Source

/-!
Flags in the text of a regular expression: for the whole of it, or added and
removed for one group.
-/

namespace KeyNaming.Regex

/-- The flag of a letter. The letter of byte patterns counts here and is
refused where it is added. -/
def flag? (t : Token) : Option Flags :=
  match t with
  | .escaped _ => none
  | .plain c =>
    if c == 'i' then some { ignoreCase := true }
    else if c == 'L' then some {}
    else if c == 'm' then some { multiLine := true }
    else if c == 's' then some { dotAll := true }
    else if c == 'x' then some { verbose := true }
    else if c == 'a' then some { ascii := true }
    else if c == 't' then some { template := true }
    else if c == 'u' then some { unicode := true }
    else none

def Token.isLetter : Token → Bool
  | .plain c => c.isAlphabetic
  | .escaped _ => false

/-- What an opening of flags asks for. -/
inductive FlagChange where
  | forWhole (added : Flags)
  | forGroup (added removed : Flags)

/-- Reads the letters of added flags from a letter that was taken, and the
token that ends them. -/
def readAdded (added : Flags) (letter : Token) (flag : Flags) :
    Nat → Source → Except Error (Flags × Token × Source)
  | 0, s => s.fault .missingFlagsEnd 0
  | fuel + 1, s => do
    if letter.isPlain 'L' then return ← s.fault .byteFlag 0
    let added := added.union flag
    if added.ascii && added.unicode then return ← s.fault .incompatibleFlags 0
    let (token?, s) ← s.take
    let some token := token? | s.fault .missingFlagsEnd 0
    if token.isPlain ')' || token.isPlain '-' || token.isPlain ':' then
      return (added, token, s)
    match flag? token with
    | some flag => readAdded added token flag fuel s
    | none =>
      s.fault (if token.isLetter then .unknownFlag else .missingFlagsEnd) token.text.length

/-- Reads the letters of removed flags from a letter that was taken, and the
colon that ends them. -/
def readRemoved (removed : Flags) (letter : Token) (flag : Flags) :
    Nat → Source → Except Error (Flags × Source)
  | 0, s => s.fault .missingColon 0
  | fuel + 1, s => do
    if letter.isPlain 'L' || flag.ascii || flag.unicode then
      return ← s.fault .fixedFlagTurnedOff 0
    let removed := removed.union flag
    let (token?, s) ← s.take
    let some token := token? | s.fault .missingColon 0
    if token.isPlain ':' then return (removed, s)
    match flag? token with
    | some flag => readRemoved removed token flag fuel s
    | none =>
      s.fault (if token.isLetter then .unknownFlag else .missingColon) token.text.length

/-- Reads removed flags after the minus sign. -/
def readRemovals (s : Source) : Except Error (Flags × Source) := do
  let (token?, s) ← s.take
  let some token := token? | s.fault .missingFlag 0
  match flag? token with
  | some flag => readRemoved {} token flag (s.tokens.length + 1) s
  | none => s.fault (if token.isLetter then .unknownFlag else .missingFlag) token.text.length

/-- Checks the flags of one group, whose colon was just taken. -/
def groupFlags (added removed : Flags) (s : Source) : Except Error (FlagChange × Source) := do
  if removed.template then return ← s.fault .globalFlagTurnedOff 1
  if added.meets removed then return ← s.fault .flagTurnedOnAndOff 1
  pure (.forGroup added removed, s)

/-- Reads flags from their first token, a letter or a minus sign, that was
taken. -/
def readFlags (first : Token) (s : Source) : Except Error (FlagChange × Source) := do
  match flag? first with
  | some flag =>
    let (added, ender, s) ← readAdded {} first flag (s.tokens.length + 1) s
    if ender.isPlain ')' then return (.forWhole added, s)
    if added.template then return ← s.fault .globalFlagTurnedOn 1
    if ender.isPlain ':' then return ← groupFlags added {} s
    let (removed, s) ← readRemovals s
    groupFlags added removed s
  | none =>
    let (removed, s) ← readRemovals s
    groupFlags {} removed s

end KeyNaming.Regex
