import KeyNaming.Proofs.Pattern.Assembly
import KeyNaming.Proofs.Pattern.RoundTrip

/-!
The expressions of the default registry in groups.

None of them has a name or a reference, so each is read in every group as it is
alone, whatever was read before. The reader is followed through their tokens
from a state in which nothing but the open group is known.
-/

namespace KeyNaming

open Regex (Flags Frame Groups Item Node Reads Source State Token)

/-- A step of the reader that a character starts, given what the character is
read as. -/
theorem Regex.reads_plain {c : CodePoint} (hbar : c ≠ CodePoint.ofChar '|')
    (hclosing : c ≠ CodePoint.ofChar ')') {st st' : State} (hverbose : st.top.verbose = false)
    {position position' : Nat} {tokens tokens' : List Token}
    (h : readCharacter position c st (.ahead (position + 1) tokens) =
      .ok (st', .ahead position' tokens')) :
    Reads st (.ahead position (.plain c :: tokens)) st' (.ahead position' tokens') := by
  apply Reads.single rfl
  rw [readToken_plain _ _ hbar hclosing hverbose]
  exact h

/-- A state of reading in which some items stand in a group that was opened. -/
def Regex.State.inGroup (index start : Nat) (items : List Item) (outer : List Frame)
    (groups : Groups) (flags : Flags) : State :=
  ⟨{ opener := .capture index, start, verbose := false, items }, outer, groups, flags⟩

/-- It is enough to follow the tokens of an expression from where a group was
opened. -/
theorem Regex.isReadAs_of_tokens {r : Regex} {body : Node} {tokens : List Token}
    (htokens : (Token.ofText (stripAnchors r.source)).1 = tokens)
    (h : ∀ index start position outer groups flags rest, ∃ mid position',
      Reads (.inGroup index start [] outer groups flags)
        (.ahead position (tokens ++ .plain ')' :: rest)) mid
        (.ahead position' (.plain ')' :: rest)) ∧
      (State.inGroup index start [] outer groups flags).Fills mid body) : r.IsReadAs body := by
  intro st index start position rest htop
  obtain ⟨top, outer, groups, flags⟩ := st
  obtain rfl : top = { opener := .capture index, start, verbose := false } := htop
  rw [htokens]
  exact h index start position outer groups flags rest

def anyTokens : List Token := [.plain '.', .plain '*', .plain '?']

def anyBody : Node := Node.seq [.repeated .lazy 0 none (Node.seq [.atom .any])]

theorem isReadAs_anyBody {r : Regex} (hr : r.source = anyValueSource) : r.IsReadAs anyBody := by
  have htokens : (Token.ofText (stripAnchors r.source)).1 = anyTokens := by
    rw [hr]
    decide +kernel
  apply Regex.isReadAs_of_tokens htokens
  intro index start position outer groups flags rest
  let reading (items : List Item) : State := .inGroup index start items outer groups flags
  let left (n : Nat) : Source := .ahead (position + n) ((anyTokens ++ .plain ')' :: rest).drop n)
  have hany : Reads (reading []) (left 0) (reading [.node (.atom .any)]) (left 1) :=
    Regex.reads_plain (by decide) (by decide) rfl rfl
  have hrepeated : Reads (reading [.node (.atom .any)]) (left 1)
      (reading [.node (.repeated .lazy 0 none (Node.seq [.atom .any]))]) (left 3) :=
    Regex.reads_plain (by decide) (by decide) rfl rfl
  exact ⟨_, _, hany.trans hrepeated, rfl, rfl, rfl, rfl, rfl, rfl⟩

def typeTokens : List Token :=
  [.plain '[', .plain '^', .plain ':', .plain '0', .plain '-', .plain '9', .plain ']',
    .plain '[', .plain '^', .plain ':', .plain ']', .plain '*']

/-- What type names start with. -/
def typeStart : Node := .atom (.set true [.single ':', .range '0' '9'])

def typeBody : Node :=
  Node.seq [typeStart, .repeated .greedy 0 none (Node.seq [.atom (.notLiteral ':')])]

theorem isReadAs_typeBody {r : Regex} (hr : r.source = typePatternSource) :
    r.IsReadAs typeBody := by
  have htokens : (Token.ofText (stripAnchors r.source)).1 = typeTokens := by
    rw [hr]
    decide +kernel
  apply Regex.isReadAs_of_tokens htokens
  intro index start position outer groups flags rest
  let reading (items : List Item) : State := .inGroup index start items outer groups flags
  let left (n : Nat) : Source := .ahead (position + n) ((typeTokens ++ .plain ')' :: rest).drop n)
  have hstart : Reads (reading []) (left 0) (reading [.node typeStart]) (left 7) :=
    Regex.reads_plain (by decide) (by decide) rfl rfl
  have hset : Reads (reading [.node typeStart]) (left 7)
      (reading [.node (.atom (.notLiteral ':')), .node typeStart]) (left 11) :=
    Regex.reads_plain (by decide) (by decide) rfl rfl
  have hrepeated : Reads (reading [.node (.atom (.notLiteral ':')), .node typeStart]) (left 11)
      (reading [.node (.repeated .greedy 0 none (Node.seq [.atom (.notLiteral ':')])),
        .node typeStart]) (left 12) :=
    Regex.reads_plain (by decide) (by decide) rfl rfl
  exact ⟨_, _, hstart.trans (hset.trans hrepeated), rfl, rfl, rfl, rfl, rfl, rfl⟩

def cultureTokens : List Token :=
  [.plain '[', .plain 'a', .plain '-', .plain 'z', .plain ']', .plain '\x7b', .plain '2',
    .plain ',', .plain '5', .plain '\x7d', .plain '(', .plain '-', .plain '[', .plain 'A',
    .plain '-', .plain 'Z', .plain 'a', .plain '-', .plain 'z', .plain ']', .plain '\x7b',
    .plain '2', .plain ',', .plain '7', .plain '\x7d', .plain ')', .plain '?']

def smallLetter : Node := .atom (.set false [.range 'a' 'z'])

def anyLetter : Node := .atom (.set false [.range 'A' 'Z', .range 'a' 'z'])

def language : Node := .repeated .greedy 2 (some 5) (Node.seq [smallLetter])

def dash : Node := .atom (.literal '-')

/-- A script or territory after its dash. -/
def territory : List Node := [dash, .repeated .greedy 2 (some 7) (Node.seq [anyLetter])]

def cultureBody : Node :=
  Node.seq [language, .repeated .greedy 0 (some 1) (Node.seq [.group 0 (Node.seq territory)])]

theorem isReadAs_cultureBody {r : Regex} (hr : r.source = culturePatternSource) :
    r.IsReadAs cultureBody := by
  have htokens : (Token.ofText (stripAnchors r.source)).1 = cultureTokens := by
    rw [hr]
    decide +kernel
  apply Regex.isReadAs_of_tokens htokens
  intro index start position outer groups flags rest
  let left (n : Nat) : Source :=
    .ahead (position + n) ((cultureTokens ++ .plain ')' :: rest).drop n)
  let reading (items : List Item) (groups : Groups) : State :=
    .inGroup index start items outer groups flags
  -- the group for a script or territory, and the groups behind it
  let inside (items : List Item) : State := .inGroup groups.next (position + 10) items
    ((reading [.node language] groups).top :: outer) groups.openGroup flags
  let complete : State := inside (territory.reverse.map .node)
  let behind : Groups := (State.close complete.top groups.openGroup).2
  let optional : Node := .group groups.next (Node.seq territory)
  have hset : Reads (reading [] groups) (left 0) (reading [.node smallLetter] groups) (left 5) :=
    Regex.reads_plain (by decide) (by decide) rfl rfl
  have hlanguage : Reads (reading [.node smallLetter] groups) (left 5)
      (reading [.node language] groups) (left 10) :=
    Regex.reads_plain (by decide) (by decide) rfl rfl
  have hopen : Reads (reading [.node language] groups) (left 10) (inside []) (left 11) :=
    Regex.reads_plain (by decide) (by decide) rfl rfl
  have hdash : Reads (inside []) (left 11) (inside [.node dash]) (left 12) :=
    Regex.reads_plain (by decide) (by decide) rfl rfl
  have hletter : Reads (inside [.node dash]) (left 12) (inside [.node anyLetter, .node dash])
      (left 20) :=
    Regex.reads_plain (by decide) (by decide) rfl rfl
  have hterritory : Reads (inside [.node anyLetter, .node dash]) (left 20) complete (left 25) :=
    Regex.reads_plain (by decide) (by decide) rfl rfl
  have hclosing : Reads complete (left 25) (reading [.node optional, .node language] behind)
      (left 26) :=
    Regex.reads_closing (position + 25) (left 26).tokens (show complete.outer = _ from rfl)
  have hoptional : Reads (reading [.node optional, .node language] behind) (left 26)
      (reading [.node (.repeated .greedy 0 (some 1) (Node.seq [optional])), .node language] behind)
      (left 27) :=
    Regex.reads_plain (by decide) (by decide) rfl rfl
  have hreads := hset.trans <| hlanguage.trans <| hopen.trans <| hdash.trans <| hletter.trans <|
    hterritory.trans <| hclosing.trans hoptional
  exact ⟨_, _, hreads, rfl, rfl, rfl, rfl, rfl, rfl⟩

/-- The expression of a part that writes none is read alike in every group. -/
theorem exists_isReadAs_defaultRegex (parameter : Text) :
    ∃ body : Node, body.isRegular = true ∧
      (Template.defaultRegex defaultRegistry parameter).IsReadAs body := by
  have hentries : (Entries.values defaultRegistry.entries).all
      (fun info => info.pattern.all fun regex =>
        regex.source == culturePatternSource || regex.source == typePatternSource) = true := by
    decide +kernel
  rcases Template.defaultRegex_cases defaultRegistry parameter with hany | ⟨info, hinfo, hregex⟩
  · rw [hany]
    exact ⟨anyBody, rfl, isReadAs_anyBody rfl⟩
  · have hall := List.all_eq_true.mp hentries info hinfo
    rw [hregex, Option.all_some, Bool.or_eq_true] at hall
    rcases hall with hculture | htype
    · exact ⟨cultureBody, rfl, isReadAs_cultureBody (eq_of_beq hculture)⟩
    · exact ⟨typeBody, rfl, isReadAs_typeBody (eq_of_beq htype)⟩

end KeyNaming
