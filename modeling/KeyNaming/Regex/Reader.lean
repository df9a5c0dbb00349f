import KeyNaming.Regex.Alternatives
import KeyNaming.Regex.InlineFlags
import KeyNaming.Regex.Set

/-!
Reading a regular expression.

The reader goes through the tokens once and keeps a frame for each group that
is open: the finished alternatives and the parts of the one being read. A
quantifier takes the last part of the innermost frame, a closing parenthesis
makes its frame a part of the frame around it.
-/

namespace KeyNaming.Regex

/-- A part of the alternative being read. A group that neither captures nor
sets flags stays apart until its frame is closed, so that a quantifier takes
it as a whole. -/
inductive Item where
  | node (node : Node)
  | bare (nodes : List Node)

def Item.nodes : Item → List Node
  | .node part => [part]
  | .bare parts => parts

/-- What an open parenthesis stands for. -/
inductive Opener where
  | whole
  | capture (index : Nat)
  | plain
  | scoped (added removed : Flags)
  | atomic
  | ahead (negated : Bool)
  /-- The limit on references that held before it is kept. -/
  | behind (negated : Bool) (limit : Option Nat)
  | conditional (group : Nat)

/-- An open group. -/
structure Frame where
  opener : Opener
  /-- The offset of its opening parenthesis. -/
  start : Nat
  /-- Whether blanks and comments are skipped. -/
  verbose : Bool
  /-- The finished alternatives, the last one first. -/
  finished : List (List Node) := []
  /-- The parts of the alternative being read, the last one first. -/
  items : List Item := []

namespace Frame

def current (f : Frame) : List Node :=
  f.items.reverse.flatMap Item.nodes

def content (f : Frame) : List Node :=
  joinAlternatives (f.finished.reverse ++ [f.current])

def push (f : Frame) (item : Item) : Frame :=
  { f with items := item :: f.items }

def endAlternative (f : Frame) : Frame :=
  { f with finished := f.current :: f.finished, items := [] }

/-- Whether nothing was read yet. -/
def isFresh (f : Frame) : Bool :=
  f.finished.isEmpty && f.items.isEmpty

end Frame

/-- The state of reading: the innermost frame and those around it. -/
structure State where
  top : Frame
  outer : List Frame := []
  groups : Groups := {}
  flags : Flags := {}

namespace State

/-- Nothing read yet, under the flags that are given beside the source. -/
def initial (given : Flags := {}) : State where
  top := { opener := .whole, start := 0, verbose := given.verbose }
  flags := given

def push (st : State) (item : Item) : State :=
  { st with top := st.top.push item }

def openFrame (st : State) (opener : Opener) (start : Nat) (verbose : Bool) : State :=
  { st with top := { opener, start, verbose }, outer := st.top :: st.outer }

/-- The item that a closed frame becomes, and the groups after it. -/
def close (frame : Frame) (groups : Groups) : Item × Groups :=
  let nodes := frame.content
  let body := Node.seq nodes
  match frame.opener with
  | .whole | .plain => (.bare nodes, groups)
  | .capture i => (.node (.group i body), groups.close i (body.width groups.width))
  | .scoped added removed => (.node (.scoped added removed body), groups)
  | .atomic => (.node (.atomic body), groups)
  | .ahead negated => (.node (.look .ahead negated body), groups)
  | .behind negated limit =>
    (.node (.look (.behind (body.width groups.width)) negated body),
      { groups with lookBehindLimit := limit })
  | .conditional i =>
    match frame.finished with
    | [] => (.node (.conditional i (Node.seq frame.current) .empty), groups)
    | present :: _ =>
      (.node (.conditional i (Node.seq present) (Node.seq frame.current)), groups)

end State

/-- Repetition counts have to be below this one. -/
def countLimit : Nat := 0xFFFFFFFF

/-- Group numbers in conditions have to be below this one. -/
def groupLimit : Nat := 0x3FFFFFFF

def countOf (digits : Text) : Except Error Nat :=
  if Text.decimalDigitLimit < digits.length then .error (.numeralTooLong digits.length)
  else
    let n := Text.valueOf 10 digits
    if countLimit ≤ n then .error .countTooLarge else .ok n

/-- Reads counts between braces after the opening one, if there are counts. -/
def readCounts? (s : Source) : Except Error (Option (Nat × Option Nat × Source)) := do
  if s.nextIs '\x7d' then return none
  let start := s.position
  let (low, s) ← s.takeWhile CodePoint.isAsciiDigit s.tokens.length
  let (comma, s) ← s.accept ','
  let (high, s) ←
    if comma then s.takeWhile CodePoint.isAsciiDigit s.tokens.length else pure (low, s)
  let (found, s) ← s.accept '\x7d'
  if !found then return none
  let min ← if low.isEmpty then pure 0 else countOf low
  if high.isEmpty then return some (min, none, s)
  let max ← countOf high
  if max < min then Source.faultAt .minimumAboveMaximum start
  else pure (some (min, some max, s))

/-- Repeats the last part. The quantifier began at a given offset. -/
def readRepetition (start min : Nat) (max : Option Nat) (st : State) (s : Source) :
    Except Error (State × Source) := do
  match st.top.items with
  | [] => Source.faultAt .nothingToRepeat start
  | .node (.atom (.anchor _)) :: _ => Source.faultAt .nothingToRepeat start
  | .node (.repeated ..) :: _ => Source.faultAt .multipleRepeat start
  | item :: items =>
    let (lazily, s) ← s.accept '?'
    let (possessively, s) ← if lazily then pure (false, s) else s.accept '+'
    let greed : Greed :=
      if lazily then .lazy else if possessively then .possessive else .greedy
    let node := Node.repeated greed min max (Node.seq item.nodes)
    pure ({ st with top := { st.top with items := .node node :: items } }, s)

/-- Reads a group with a name, or a reference to one, after `?P`. -/
def readNamedGroup (start : Nat) (st : State) (s : Source) : Except Error (State × Source) := do
  let (opened, s) ← s.accept '<'
  if opened then
    let (name, s) ← s.groupName '>'
    let index := st.groups.next
    let groups ← st.groups.openNamed name s
    return ({ st with groups }.openFrame (.capture index) start st.top.verbose, s)
  let (refers, s) ← s.accept '='
  if refers then
    let (name, s) ← s.groupName ')'
    let some i := st.groups.names.lookup name | s.fault (.unknownGroupName name) (name.length + 1)
    if (st.groups.width? i).isNone then
      return ← s.fault .openGroupReference (name.length + 1)
    st.groups.checkLookBehind i s
    return (st.push (.node (.atom (.reference i))), s)
  let (token?, s) ← s.take
  let some token := token? | s.fault .unexpectedEnd 0
  s.fault (.unknownExtension ("?P" ++ token.text)) (token.text.length + 2)

/-- The group that a condition names, by an identifier or by a number. -/
def conditionGroup (name : Text) (groups : Groups) (s : Source) : Except Error (Nat × Groups) :=
  if name.isIdentifier then
    match groups.names.lookup name with
    | some i => .ok (i, groups)
    | none => s.fault (.unknownGroupName name) (name.length + 1)
  else
    match Text.int? 10 name with
    | some (.ofNat i) =>
      if i = 0 then s.fault .badGroupNumber (name.length + 1)
      else if groupLimit ≤ i then s.fault (.invalidGroupReference i) (name.length + 1)
      else .ok (i, groups.mention i (s.position - name.length - 1))
    | _ => s.fault (.badGroupName name) (name.length + 1)

/-- Reads the condition of a conditional group after its parenthesis. -/
def readCondition (start : Nat) (st : State) (s : Source) : Except Error (State × Source) := do
  let (name, s) ← s.name ')' "group name"
  let (i, groups) ← conditionGroup name st.groups s
  groups.checkLookBehind i s
  pure ({ st with groups }.openFrame (.conditional i) start st.top.verbose, s)

def openLookBehind (start : Nat) (negated : Bool) (st : State) : State :=
  let limit := st.groups.lookBehindLimit
  let groups := { st.groups with lookBehindLimit := some (limit.getD st.groups.next) }
  { st with groups }.openFrame (.behind negated limit) start st.top.verbose

/-- Reads what follows an opening parenthesis and a question mark. -/
def readExtension (start : Nat) (st : State) (s : Source) : Except Error (State × Source) := do
  let verbose := st.top.verbose
  let (token?, s) ← s.take
  let some token := token? | s.fault .unexpectedEnd 0
  if token.isPlain 'P' then readNamedGroup start st s
  else if token.isPlain ':' then pure (st.openFrame .plain start verbose, s)
  else if token.isPlain '#' then
    match ← s.skipPast ')' (s.tokens.length + 1) with
    | some s => pure (st, s)
    | none => Source.faultAt .unterminatedComment start
  else if token.isPlain '=' then pure (st.openFrame (.ahead false) start verbose, s)
  else if token.isPlain '!' then pure (st.openFrame (.ahead true) start verbose, s)
  else if token.isPlain '<' then
    let (kind?, s) ← s.take
    let some kind := kind? | s.fault .unexpectedEnd 0
    if kind.isPlain '=' then pure (openLookBehind start false st, s)
    else if kind.isPlain '!' then pure (openLookBehind start true st, s)
    else s.fault (.unknownExtension ("?<" ++ kind.text)) (kind.text.length + 2)
  else if token.isPlain '(' then readCondition start st s
  else if token.isPlain '>' then pure (st.openFrame .atomic start verbose, s)
  else if (flag? token).isSome || token.isPlain '-' then
    match ← readFlags token s with
    | (.forWhole added, s) =>
      if !st.outer.isEmpty || !st.top.isFresh then Source.faultAt .lateGlobalFlags start
      else
        let flags := st.flags.union added
        pure ({ st with flags, top := { st.top with verbose := flags.verbose } }, s)
    | (.forGroup added removed, s) =>
      pure (st.openFrame (.scoped added removed) start
        ((verbose || added.verbose) && !removed.verbose), s)
  else s.fault (.unknownExtension ("?" ++ token.text)) (token.text.length + 1)

/-- Reads a group after its opening parenthesis, which stands at a given
offset. -/
def readGroup (start : Nat) (st : State) (s : Source) : Except Error (State × Source) := do
  let (extended, s) ← s.accept '?'
  if extended then readExtension start st s
  else
    let index := st.groups.next
    pure ({ st with groups := st.groups.openGroup }.openFrame (.capture index) start
      st.top.verbose, s)

/-- The blanks that are skipped where blanks are skipped. -/
def isSkippedBlank (t : Token) : Bool :=
  match t with
  | .plain c => c.value == 0x20 || (0x09 ≤ c.value && c.value ≤ 0x0D)
  | .escaped _ => false

/-- Reads a character that is neither a bar nor a closing parenthesis. It
stands at a given offset and was taken. -/
def readCharacter (start : Nat) (c : CodePoint) (st : State) (s : Source) :
    Except Error (State × Source) := do
  let push (a : Atom) (s : Source) : Except Error (State × Source) :=
    .ok (st.push (.node (.atom a)), s)
  if c == '[' then
    let (a, s) ← readSet start s
    push a s
  else if c == '?' then readRepetition start 0 (some 1) st s
  else if c == '*' then readRepetition start 0 none st s
  else if c == '+' then readRepetition start 1 none st s
  else if c == '\x7b' then
    match ← readCounts? s with
    | some (min, max, s) => readRepetition start min max st s
    | none => push (.literal c) s
  else if c == '.' then push .any s
  else if c == '(' then readGroup start st s
  else if c == '^' then push (.anchor .lineStart) s
  else if c == '$' then push (.anchor .lineEnd) s
  else push (.literal c) s

/-- ASCII and Unicode may not both be asked for. -/
def checkFlags (flags : Flags) : Except Error Unit :=
  if flags.ascii && flags.unicode then .error .flagsClash else .ok ()

def readBar (st : State) (s : Source) : Except Error (State × Source) := do
  match st.top.opener, st.top.finished with
  | .conditional _, _ :: _ => s.fault .thirdConditionalBranch 0
  | _, _ =>
    let s ← s.advance
    pure ({ st with top := st.top.endAlternative }, s)

def readClosing (st : State) (s : Source) : Except Error (State × Source) := do
  match st.outer with
  | [] =>
    checkFlags st.flags
    s.fault .unbalancedParenthesis 0
  | parent :: outer =>
    let s ← s.advance
    let (item, groups) := State.close st.top st.groups
    pure ({ st with top := parent.push item, outer, groups }, s)

/-- Reads what a token starts. -/
def readToken (t : Token) (st : State) (s : Source) : Except Error (State × Source) := do
  if t.isPlain '|' then readBar st s
  else if t.isPlain ')' then readClosing st s
  else
    let start := s.position
    let s ← s.advance
    if st.top.verbose && isSkippedBlank t then pure (st, s)
    else if st.top.verbose && t.isPlain '#' then
      match ← s.skipPast '\n' (s.tokens.length + 1) with
      | some s => pure (st, s)
      | none => pure (st, { s with tokens := [] })
    else
      match t with
      | .escaped c =>
        let (a, s) ← readEscape c st.groups s
        pure (st.push (.node (.atom a)), s)
      | .plain c => readCharacter start c st s

/-- Reads all that is left of a source. Each token that starts a part is taken
with it, so as many steps as there are tokens are enough. -/
def readAll : Nat → State → Source → Except Error State
  | 0, st, _ => .ok st
  | fuel + 1, st, s =>
    match s.next? with
    | none => .ok st
    | some t => do
      let (st, s) ← readToken t st s
      readAll fuel st s

/-- Checks what can be told only of the whole: the widths of lookbehinds, and
repetitions where the flags forbid them. -/
def Node.check (flags : Flags) : Node → Except Error Unit
  | .empty => .ok ()
  | .atom _ => .ok ()
  | .cat p q => do
    p.check flags
    q.check flags
  | .alt p q => do
    p.check flags
    q.check flags
  | .group _ p => p.check flags
  | .scoped _ _ p => p.check flags
  | .repeated greed _ _ p =>
    if flags.template then .error (.rejected (.repetitionInTemplate greed) none)
    else p.check flags
  | .look .ahead _ p => p.check flags
  | .look (.behind width) _ p =>
    if 0x100000000 ≤ width.min then .error (.rejected .looksTooFarBehind none)
    else if width.max == some width.min then p.check flags
    else .error (.rejected .variableLookBehind none)
  | .atomic p => p.check flags
  | .conditional _ p q => do
    p.check flags
    q.check flags

/-- The state after reading the whole of a text under given flags. -/
def readText (t : Text) (given : Flags := {}) : Except Error State := do
  let s ← Source.ofText t
  let st ← readAll s.tokens.length (State.initial given) s
  if !st.outer.isEmpty then return ← Source.faultAt .unterminatedGroup st.top.start
  checkFlags st.flags
  st.groups.checkMentioned
  pure st

end KeyNaming.Regex
