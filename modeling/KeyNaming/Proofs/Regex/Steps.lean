import KeyNaming.Proofs.Regex.Runs

/-!
What the tokens that patterns are written with are read as.

An expression of a pattern is made of escaped text, of groups around it and of
groups with names. Each of them is read in the same way whatever follows.
-/

namespace KeyNaming

theorem Text.isIdentifier_of_word {t : Text} (hstarts : t.head?.any CodePoint.isAsciiLetter = true)
    (hword : t.all CodePoint.isAsciiWord = true) : t.isIdentifier = true := by
  have hascii (c : CodePoint) (hc : c.isAsciiWord = true) : c.isAscii = true := by
    simp only [CodePoint.isAsciiWord, CodePoint.isAsciiLetter, CodePoint.isAsciiDigit,
      CodePoint.isAscii, Bool.or_eq_true, Bool.and_eq_true, decide_eq_true_eq, beq_iff_eq] at hc ⊢
    omega
  cases t with
  | nil => cases hstarts
  | cons c rest =>
      rw [List.all_cons, Bool.and_eq_true_iff] at hword
      have hletter : c.isAsciiLetter = true := hstarts
      rw [isIdentifier, CodePoint.isNameStart, if_pos (hascii c hword.1), hletter, Bool.true_or,
        Bool.true_and, List.all_eq_true]
      intro d hd
      have hd' := List.all_eq_true.mp hword.2 d hd
      rw [CodePoint.isNameContinue, if_pos (hascii d hd')]
      exact hd'

end KeyNaming

namespace KeyNaming.Regex

/-! ## Tokens of texts -/

theorem ofText_backslash (d : CodePoint) (rest : Text) :
    Token.ofText (CodePoint.ofChar '\\' :: d :: rest) =
      (.escaped d :: (Token.ofText rest).1, (Token.ofText rest).2) :=
  rfl

theorem ofText_cons {c : CodePoint} (hc : c ≠ CodePoint.ofChar '\\') (rest : Text) :
    Token.ofText (c :: rest) = (.plain c :: (Token.ofText rest).1, (Token.ofText rest).2) := by
  rw [Token.ofText.eq_def]
  simp [hc]

/-- A text that ends with another character than a backslash has no lone
backslash at its end. -/
theorem not_dangling_concat (t : Text) {c : CodePoint} (hc : c ≠ CodePoint.ofChar '\\') :
    (Token.ofText (t ++ [c])).2 = false := by
  induction t using Token.ofText.induct with
  | case1 => rw [List.nil_append, ofText_cons hc]; rfl
  | case2 d hd =>
      obtain rfl : d = CodePoint.ofChar '\\' := by simpa using hd
      rfl
  | case3 d hd e rest _ _ _ ih =>
      obtain rfl : d = CodePoint.ofChar '\\' := by simpa using hd
      exact ih
  | case4 d rest hd _ _ _ ih =>
      have hne : d ≠ CodePoint.ofChar '\\' := by simpa using hd
      rw [List.cons_append, ofText_cons hne]
      exact ih

theorem ofText_append {s : Text} (hs : (Token.ofText s).2 = false) (t : Text) :
    Token.ofText (s ++ t) = ((Token.ofText s).1 ++ (Token.ofText t).1, (Token.ofText t).2) := by
  induction s using Token.ofText.induct with
  | case1 => rfl
  | case2 c hc =>
      obtain rfl : c = CodePoint.ofChar '\\' := by simpa using hc
      cases hs
  | case3 c hc d rest _ _ _ ih =>
      obtain rfl : c = CodePoint.ofChar '\\' := by simpa using hc
      rw [ofText_backslash] at hs
      rw [List.cons_append, List.cons_append, ofText_backslash, ofText_backslash, ih hs]
      rfl
  | case4 c rest hc _ _ _ ih =>
      have hne : c ≠ CodePoint.ofChar '\\' := by simpa using hc
      rw [ofText_cons hne] at hs
      rw [List.cons_append, ofText_cons hne, ofText_cons hne, ih hs]
      rfl

/-- The token that a character is escaped to. -/
def escapeToken (c : CodePoint) : Token :=
  if isSpecial c then .escaped c else .plain c

theorem ofText_escape (t : Text) : Token.ofText (escape t) = (t.map escapeToken, false) := by
  induction t with
  | nil => rfl
  | cons c rest ih =>
      have hescape : escape (c :: rest) =
          (if isSpecial c then [CodePoint.ofChar '\\', c] else [c]) ++ escape rest :=
        rfl
      rw [hescape, List.map_cons, escapeToken]
      by_cases hc : isSpecial c = true
      · rw [if_pos hc, if_pos hc, List.cons_append, List.cons_append, List.nil_append,
          ofText_backslash, ih]
      · have hplain : c ≠ CodePoint.ofChar '\\' := by
          rintro rfl
          exact hc rfl
        rw [if_neg hc, if_neg hc, List.cons_append, List.nil_append, ofText_cons hplain, ih]

theorem escape_of_word {t : Text} (h : t.all CodePoint.isAsciiWord = true) : escape t = t := by
  induction t with
  | nil => rfl
  | cons c rest ih =>
      rw [List.all_cons, Bool.and_eq_true_iff] at h
      have hc : isSpecial c = false := by
        have hspecial : ∀ d ∈ Text.ofString "()[]\x7b\x7d?*+-|^$\\.&~# \t\n\r\x0b\x0c",
            d.isAsciiWord = false := by
          decide
        cases hcase : isSpecial c with
        | false => rfl
        | true =>
            have hmem := hspecial c (by simpa [isSpecial] using hcase)
            rw [h.1] at hmem
            cases hmem
      have hescape : escape (c :: rest) =
          (if isSpecial c then [CodePoint.ofChar '\\', c] else [c]) ++ escape rest :=
        rfl
      rw [hescape, hc, ih h.2]
      rfl

theorem ofText_of_word {t : Text} (h : t.all CodePoint.isAsciiWord = true) :
    Token.ofText t = (t.map .plain, false) := by
  rw [← escape_of_word h, ofText_escape, escape_of_word h]
  congr 1
  apply List.map_congr_left
  intro c hc
  have hescape := escape_of_word (t := [c]) (by simpa using List.all_eq_true.mp h c hc)
  rw [escapeToken]
  split
  · next hspecial => simp [escape, hspecial] at hescape
  · rfl

/-! ## Steps -/

section

variable (position : Nat) (tokens : List Token)

theorem Source.advance_ahead (t : Token) :
    (Source.ahead position (t :: tokens)).advance =
      .ok (.ahead (position + t.text.length) tokens) := by
  simp [advance, checked, ahead]

theorem Source.take_ahead (t : Token) :
    (Source.ahead position (t :: tokens)).take =
      .ok (some t, .ahead (position + t.text.length) tokens) := by
  rw [take, advance_ahead]
  rfl

theorem Source.accept_ahead (c : Char) :
    (Source.ahead position (.plain c :: tokens)).accept c =
      .ok (true, .ahead (position + 1) tokens) := by
  have hnext : (Source.ahead position (.plain c :: tokens)).nextIs c = true := by
    simp [nextIs, next?, ahead, Token.isPlain]
  rw [accept, if_pos hnext, advance_ahead]
  rfl

theorem readToken_plain {c : CodePoint} (hbar : c ≠ CodePoint.ofChar '|')
    (hclosing : c ≠ CodePoint.ofChar ')') {st : State} (hverbose : st.top.verbose = false) :
    readToken (.plain c) st (.ahead position (.plain c :: tokens)) =
      readCharacter position c st (.ahead (position + 1) tokens) := by
  have hbar' : (Token.plain c).isPlain '|' = false := by simpa [Token.isPlain] using hbar
  have hclosing' : (Token.plain c).isPlain ')' = false := by simpa [Token.isPlain] using hclosing
  rw [readToken, hbar', hclosing', Source.advance_ahead, hverbose]
  rfl

end

def State.add (st : State) (items : List Item) : State :=
  { st with top := { st.top with items := items.reverse ++ st.top.items } }

theorem State.add_add (st : State) (items others : List Item) :
    (st.add items).add others = st.add (items ++ others) := by
  simp [State.add]

/-- The parts that stand for the characters of a text. -/
def literals (t : Text) : List Node := t.map fun c => .atom (.literal c)

theorem readEscape_of_isSpecial {c : CodePoint} (hc : isSpecial c = true) (g : Groups)
    (s : Source) :
    readEscape c g s = .ok (.literal c, s) := by
  have hspecial : ∀ d ∈ Text.ofString "()[]\x7b\x7d?*+-|^$\\.&~# \t\n\r\x0b\x0c",
      anchorEscape? d = none ∧ classEscape? d = none ∧
        (controlEscape? d).getD d = d ∧ hexWidth? d = none ∧ (d == 'N') = false ∧
          d.isAsciiDigit = false ∧ d.isAsciiLetter = false := by
    decide
  obtain ⟨hanchor, hclass, hcontrol, hwidth, hname, hdigit, hletter⟩ :=
    hspecial c (by simpa [isSpecial] using hc)
  rw [readEscape, hanchor, hclass, hwidth, hname, hdigit, hletter]
  cases hescape : controlEscape? c with
  | none => rfl
  | some d =>
      rw [hescape] at hcontrol
      obtain rfl : d = c := hcontrol
      rfl

theorem reads_escapeToken (c : CodePoint) {st : State} (hverbose : st.top.verbose = false)
    (position : Nat) (tokens : List Token) :
    ∃ position', Reads st (.ahead position (escapeToken c :: tokens))
      (st.add [.node (.atom (.literal c))]) (.ahead position' tokens) := by
  by_cases hc : isSpecial c = true
  · refine ⟨position + 2, Reads.single rfl ?_⟩
    rw [escapeToken, if_pos hc]
    have hbar : (Token.escaped c).isPlain '|' = false := rfl
    have hclosing : (Token.escaped c).isPlain ')' = false := rfl
    simp only [readToken, hbar, hclosing, Source.advance_ahead, hverbose, bind, Except.bind,
      readEscape_of_isSpecial hc]
    rfl
  · refine ⟨position + 1, Reads.single rfl ?_⟩
    have hne (d : Char) (hd : isSpecial d = true) : c ≠ CodePoint.ofChar d := by
      rintro rfl
      exact hc hd
    have hne' (d : Char) (hd : isSpecial d = true) : (c == CodePoint.ofChar d) = false :=
      beq_eq_false_iff_ne.mpr (hne d hd)
    rw [escapeToken, if_neg hc, readToken_plain _ _ (hne '|' rfl) (hne ')' rfl) hverbose]
    simp only [readCharacter, hne' '[' rfl, hne' '?' rfl, hne' '*' rfl, hne' '+' rfl,
      hne' '\x7b' rfl, hne' '.' rfl, hne' '(' rfl, hne' '^' rfl, hne' '$' rfl]
    rfl

/-- Escaped text is read as its characters. -/
theorem reads_escaped (t : Text) (st : State) (hverbose : st.top.verbose = false)
    (position : Nat) (tokens : List Token) :
    ∃ position', Reads st (.ahead position (t.map escapeToken ++ tokens))
      (st.add ((literals t).map .node)) (.ahead position' tokens) := by
  induction t generalizing st position with
  | nil => exact ⟨position, .done _ _⟩
  | cons c rest ih =>
      obtain ⟨middle, hfirst⟩ :=
        reads_escapeToken c hverbose position (rest.map escapeToken ++ tokens)
      obtain ⟨position', hrest⟩ := ih (st.add [.node (.atom (.literal c))]) hverbose middle
      rw [State.add_add] at hrest
      exact ⟨position', hfirst.trans hrest⟩

/-- A name is taken up to the character that closes it. -/
theorem takeUntil_ahead {closer : Char} (kind : Text) {name : Text}
    (hname : ∀ c ∈ name, c ≠ CodePoint.ofChar closer) (taken : Text) (hne : taken ++ name ≠ [])
    (position : Nat) (tokens : List Token) (n : Nat) (hn : name.length < n) :
    ∃ position', (Source.ahead position (name.map .plain ++ .plain closer :: tokens)).takeUntil
      closer kind taken n = .ok (taken ++ name, .ahead position' tokens) := by
  induction name generalizing taken position n with
  | nil =>
      cases n with
      | zero => simp at hn
      | succ n =>
          refine ⟨position + 1, ?_⟩
          have htaken : taken.isEmpty = false := by simpa using hne
          rw [Source.takeUntil, List.map_nil, List.nil_append, Source.take_ahead]
          simp [bind, Except.bind, pure, Except.pure, Token.isPlain, Token.text, htaken]
  | cons c rest ih =>
      cases n with
      | zero => simp at hn
      | succ n =>
          obtain ⟨position', hrest⟩ := ih (fun d hd => hname d (List.mem_cons_of_mem c hd))
            (taken ++ [c]) (by simp) (position + 1) n (by simpa using hn)
          refine ⟨position', ?_⟩
          have hplain : (Token.plain c).isPlain closer = false := by
            simpa [Token.isPlain] using hname c List.mem_cons_self
          rw [Source.takeUntil, List.map_cons, List.cons_append, Source.take_ahead]
          simp only [bind, Except.bind, hplain, Bool.false_eq_true, if_false]
          rw [List.append_assoc] at hrest
          exact hrest

/-- Whether what comes next does not change how something is repeated. -/
def IsSettled (tokens : List Token) : Prop :=
  tokens.head? ≠ some (.plain '?') ∧ tokens.head? ≠ some (.plain '+')

theorem isSettled_escaped (t : Text) {tokens : List Token} (h : IsSettled tokens) :
    IsSettled (t.map escapeToken ++ tokens) := by
  cases t with
  | nil => exact h
  | cons c rest =>
      have hne (d : Char) (hd : isSpecial d = true) : escapeToken c ≠ .plain d := by
        intro heq
        rw [escapeToken] at heq
        split at heq
        · cases heq
        · next hspecial =>
          obtain rfl := Token.plain.inj heq
          exact hspecial hd
      exact ⟨fun h => hne '?' rfl (Option.some.inj h), fun h => hne '+' rfl (Option.some.inj h)⟩

/-- The tokens that open a group that does not capture. -/
def openTokens : List Token := [.plain '(', .plain '?', .plain ':']

/-- The tokens that open a group with a name. -/
def openNamedTokens (name : Text) : List Token :=
  [.plain '(', .plain '?', .plain 'P', .plain '<'] ++ (name.map .plain ++ [.plain '>'])

theorem reads_closing {st : State} (position : Nat) (tokens : List Token) {parent : Frame}
    {outer : List Frame} (houter : st.outer = parent :: outer) :
    Reads st (.ahead position (.plain ')' :: tokens))
      { st with
        top := parent.push (State.close st.top st.groups).1, outer,
        groups := (State.close st.top st.groups).2 } (.ahead (position + 1) tokens) := by
  apply Reads.single rfl
  have hbar : (Token.plain ')').isPlain '|' = false := rfl
  have hclosing : (Token.plain ')').isPlain ')' = true := rfl
  rw [readToken, hbar, hclosing, readClosing, houter]
  simp only [Bool.false_eq_true, if_false, if_true, bind, Except.bind, Source.advance_ahead]
  rfl

section

variable {st : State} (hverbose : st.top.verbose = false) (position : Nat) (tokens : List Token)
include hverbose

theorem reads_caret : Reads st (.ahead position (.plain '^' :: tokens))
    (st.push (.node (.atom (.anchor .lineStart)))) (.ahead (position + 1) tokens) := by
  apply Reads.single rfl
  rw [readToken_plain position tokens (by decide) (by decide) hverbose]
  rfl

theorem reads_dollar : Reads st (.ahead position (.plain '$' :: tokens))
    (st.push (.node (.atom (.anchor .lineEnd)))) (.ahead (position + 1) tokens) := by
  apply Reads.single rfl
  rw [readToken_plain position tokens (by decide) (by decide) hverbose]
  rfl

theorem reads_open :
    ∃ position', Reads st (.ahead position (openTokens ++ tokens))
      (st.openFrame .plain position false) (.ahead position' tokens) := by
  refine ⟨position + 3, Reads.single rfl ?_⟩
  have hgroup : readToken (.plain '(') st (.ahead position (openTokens ++ tokens)) =
      readGroup position st (.ahead (position + 1) (.plain '?' :: .plain ':' :: tokens)) :=
    readToken_plain position _ (by decide) (by decide) hverbose
  rw [hgroup, readGroup, Source.accept_ahead]
  simp only [bind, Except.bind, if_true, readExtension, Source.take_ahead]
  rw [hverbose]
  rfl

/-- A group with a name is opened if no group before it has the name. -/
theorem readToken_openNamed {name : Text}
    (hstarts : name.head?.any CodePoint.isAsciiLetter = true)
    (hword : name.all CodePoint.isAsciiWord = true) :
    ∃ position', readToken (.plain '(') st (.ahead position (openNamedTokens name ++ tokens)) =
      match st.groups.openNamed name (.ahead position' tokens) with
      | .ok groups => .ok ({ st with groups }.openFrame (.capture st.groups.next) position false,
          .ahead position' tokens)
      | .error e => .error e := by
  have hcloser : ∀ c ∈ name, c ≠ CodePoint.ofChar '>' := by
    rintro c hc rfl
    have hcase := List.all_eq_true.mp hword _ hc
    cases hcase
  have hne : [] ++ name ≠ [] := by
    rintro rfl
    cases hstarts
  have hlength : name.length <
      (Source.ahead (position + 4)
        (name.map .plain ++ .plain '>' :: tokens)).tokens.length + 1 := by
    simp only [Source.ahead, List.length_append, List.length_map]
    omega
  obtain ⟨position', htake⟩ := takeUntil_ahead "group name" hcloser [] hne (position + 4) tokens _
    hlength
  refine ⟨position', ?_⟩
  have hgroup : readToken (.plain '(') st (.ahead position (openNamedTokens name ++ tokens)) =
      readGroup position st (.ahead (position + 1)
        (.plain '?' :: .plain 'P' :: .plain '<' :: (name.map .plain ++ .plain '>' :: tokens))) := by
    have htokens : openNamedTokens name ++ tokens = .plain '(' ::
        (.plain '?' :: .plain 'P' :: .plain '<' :: (name.map .plain ++ .plain '>' :: tokens)) := by
      simp [openNamedTokens]
    rw [htokens]
    exact readToken_plain position _ (by decide) (by decide) hverbose
  have hname : (Source.ahead (position + 4) (name.map .plain ++ .plain '>' :: tokens)).groupName
      '>' = .ok (name, .ahead position' tokens) := by
    rw [Source.groupName, Source.name, htake]
    simp [bind, Except.bind, pure, Except.pure, Text.isIdentifier_of_word hstarts hword]
  have hP : (Token.plain 'P').isPlain 'P' = true := rfl
  rw [hgroup, readGroup, Source.accept_ahead]
  simp only [bind, Except.bind, if_true, readExtension, Source.take_ahead, hP, readNamedGroup]
  rw [Source.accept_ahead]
  simp only [Token.text, List.length_singleton, if_true, Nat.add_assoc, Nat.reduceAdd, hname]
  cases st.groups.openNamed name (.ahead position' tokens) with
  | error e => rfl
  | ok groups => rw [hverbose]; rfl

theorem reads_openNamed {name : Text} (hstarts : name.head?.any CodePoint.isAsciiLetter = true)
    (hword : name.all CodePoint.isAsciiWord = true) (hname : st.groups.names.lookup name = none) :
    ∃ position', Reads st (.ahead position (openNamedTokens name ++ tokens))
      ({ st with groups := st.groups.named name }.openFrame (.capture st.groups.next) position
        false)
      (.ahead position' tokens) := by
  obtain ⟨position', hread⟩ := readToken_openNamed hverbose position tokens hstarts hword
  refine ⟨position', Reads.single rfl ?_⟩
  rw [hread, Groups.openNamed, hname]
  rfl

/-- Where a group with a name is read, no group before it has the name. -/
theorem lookup_eq_none_of_reads {name : Text}
    (hstarts : name.head?.any CodePoint.isAsciiLetter = true)
    (hword : name.all CodePoint.isAsciiWord = true) {st' : State} {s' : Source}
    (h : Reads st (.ahead position (openNamedTokens name ++ tokens)) st' s')
    (hnil : s'.tokens = []) :
    st.groups.names.lookup name = none := by
  obtain ⟨position', hread⟩ := readToken_openNamed hverbose position tokens hstarts hword
  cases h with
  | done => cases hnil
  | token hnext hok _ =>
      obtain rfl := Option.some.inj hnext
      have hread' := hread.symm.trans hok
      cases hlookup : st.groups.names.lookup name with
      | none => rfl
      | some previous =>
          simp only [Groups.openNamed, hlookup, Source.fault] at hread'
          cases hread'

/-- The last group is made optional, if what comes next does not change how it
is repeated. -/
theorem reads_optional {nodes : List Node} {items : List Item}
    (hitems : st.top.items = .bare nodes :: items) (hsettled : IsSettled tokens) :
    Reads st (.ahead position (.plain '?' :: tokens))
      { st with top := { st.top with
        items := .node (.repeated .greedy 0 (some 1) (Node.seq nodes)) :: items } }
      (.ahead (position + 1) tokens) := by
  apply Reads.single rfl
  have haccept (c : Char) (hc : tokens.head? ≠ some (.plain c)) :
      (Source.ahead (position + 1) tokens).accept c =
        .ok (false, .ahead (position + 1) tokens) := by
    have hnext : (Source.ahead (position + 1) tokens).nextIs c = false := by
      cases tokens with
      | nil => rfl
      | cons t rest =>
          have hne : t ≠ .plain c := fun h => hc (by rw [h]; rfl)
          simpa [Source.nextIs, Source.next?, Source.ahead, Token.isPlain] using hne
    rw [Source.accept, hnext]
    rfl
  rw [readToken_plain position tokens (by decide) (by decide) hverbose]
  have hcharacter : readCharacter position '?' st (.ahead (position + 1) tokens) =
      readRepetition position 0 (some 1) st (.ahead (position + 1) tokens) := rfl
  rw [hcharacter, readRepetition, hitems]
  simp only [bind, Except.bind, haccept '?' hsettled.1, haccept '+' hsettled.2, Bool.false_eq_true,
    if_false]
  rfl

end

end KeyNaming.Regex
