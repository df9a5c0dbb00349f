import KeyNaming.Key.Written
import KeyNaming.Proofs.Key.Significant
import KeyNaming.Proofs.Text.Control
import KeyNaming.Proofs.Text.Lines

/-!
Reading the written form of keys.

What is escaped is decoded one character at a time, each to the mark of that
character, and a colon that separates is never inside of an escaped text. So
the texts that were joined come back as tokens, each with the offset at which
its escaped form starts, and a key comes back with its names and values.
-/

namespace KeyNaming

namespace Written

/-- The mark of a character that was written in escaped form. -/
def pointMark (c : CodePoint) : Mark := .point c (escapePoint c).length

theorem marksFrom_skip (offset : Nat) (skipped rest : Text) :
    marksFrom offset skipped.length (skipped ++ rest) =
      marksFrom (offset + skipped.length) 0 rest := by
  induction skipped generalizing offset with
  | nil => rfl
  | cons c skipped ih =>
      rw [List.length_cons, List.cons_append, marksFrom, ih]
      congr 1
      omega

theorem marksFrom_of_decode {c : CodePoint} {follows rest : Text}
    (h : Escape.decode (follows ++ rest) = .point c follows.length) (offset : Nat) :
    marksFrom offset 0 (('\\' : CodePoint) :: follows ++ rest) =
      (marksFrom (offset + (follows.length + 1)) 0 rest).map
        (.point c (follows.length + 1) :: ·) := by
  have hbackslash : (CodePoint.ofChar '\\' == CodePoint.ofChar ':') = false := by decide
  rw [List.cons_append, marksFrom, hbackslash, h]
  simp only [Bool.false_eq_true, if_false, beq_self_eq_true, if_true]
  rw [marksFrom_skip, Nat.add_right_comm, Nat.add_assoc]

/-- No letter stands for two characters. -/
theorem find?_letterEscapes {c letter : CodePoint} (h : letterEscapes.lookup c = some letter) :
    letterEscapes.find? (fun entry => entry.2 == letter) = some (c, letter) := by
  have hall : ∀ entry ∈ letterEscapes,
      letterEscapes.find? (fun other => other.2 == entry.2) = some entry := by decide
  obtain ⟨before, after, heq, _⟩ := List.lookup_eq_some_iff.mp h
  exact hall (c, letter) (by rw [heq]; simp)

/-- Two digits of base sixteen are enough for a control character, and they are
read back as its number. -/
theorem int?_ofHex_of_isControl {c : CodePoint} (h : c.isControl = true) :
    (Text.ofHex Char.toUpper 2 c.value).length = 2 ∧
      Text.int? 16 (Text.ofHex Char.toUpper 2 c.value) = some (c.value : Int) := by
  exact CodePoint.forall_isControl (P := fun c => (Text.ofHex Char.toUpper 2 c.value).length = 2 ∧
    Text.int? 16 (Text.ofHex Char.toUpper 2 c.value) = some (c.value : Int))
    (by decide +kernel) (by decide +kernel) h

theorem decode_hexEscape {digits : Text} {c : CodePoint} (hlength : digits.length = 2)
    (hnumber : Text.int? 16 digits = some (c.value : Int)) (rest : Text) :
    Escape.decode (('x' : CodePoint) :: digits ++ rest) = .point c (digits.length + 1) := by
  have hletter : letterEscapes.find? (fun entry => entry.2 == CodePoint.ofChar 'x') = none := by
    decide
  have hcount : digitCount? (CodePoint.ofChar 'x') = some 2 := by decide
  have htake : (digits ++ rest).take 2 = digits := by
    rw [← hlength, List.take_left]
  rw [List.cons_append, Escape.decode, hletter, hcount]
  simp only [htake, hlength, hnumber, Escape.ofNumber, CodePoint.ofNat?]
  have hvalue := c.value_lt
  simp [hvalue, Int.not_lt.mpr (Int.natCast_nonneg c.value)]

/-- A character is decoded from its escaped form, whatever follows. -/
theorem marksFrom_escapePoint (c : CodePoint) (offset : Nat) (rest : Text) :
    marksFrom offset 0 (escapePoint c ++ rest) =
      (marksFrom (offset + (escapePoint c).length) 0 rest).map (pointMark c :: ·) := by
  rw [pointMark, escapePoint]
  cases hletter : letterEscapes.lookup c with
  | some letter =>
      have hdecode : Escape.decode ([letter] ++ rest) = .point c [letter].length := by
        rw [List.singleton_append, Escape.decode, find?_letterEscapes hletter]
        rfl
      exact marksFrom_of_decode hdecode offset
  | none =>
      by_cases hcontrol : c.isControl = true
      · obtain ⟨hlength, hnumber⟩ := int?_ofHex_of_isControl hcontrol
        have hdecode := decode_hexEscape hlength hnumber rest
        simp only [hcontrol, if_true]
        exact marksFrom_of_decode hdecode offset
      · have hplain : c ≠ CodePoint.ofChar ':' ∧ c ≠ CodePoint.ofChar '\\' := by
          constructor
          · rintro rfl
            cases hletter
          · rintro rfl
            cases hletter
        simp [hcontrol, marksFrom, hplain.1, hplain.2]

theorem escape_cons (c : CodePoint) (t : Text) : escape (c :: t) = escapePoint c ++ escape t := rfl

theorem marksFrom_escape (t : Text) (offset : Nat) (rest : Text) :
    marksFrom offset 0 (escape t ++ rest) =
      (marksFrom (offset + (escape t).length) 0 rest).map (t.map pointMark ++ ·) := by
  induction t generalizing offset with
  | nil =>
      cases h : marksFrom offset 0 rest <;> simp [escape, h, Except.map]
  | cons c t ih =>
      rw [escape_cons, List.append_assoc, marksFrom_escapePoint, ih, List.length_append,
        ← Nat.add_assoc]
      cases h : marksFrom (offset + (escapePoint c).length + (escape t).length) 0 rest <;>
        simp [Except.map]

theorem marksFrom_separator (offset : Nat) (rest : Text) :
    marksFrom offset 0 ((':' : CodePoint) :: rest) =
      (marksFrom (offset + 1) 0 rest).map (.separator :: ·) := by
  rw [marksFrom, if_pos (by decide)]

theorem tokensFrom_points (t : Text) (offset : Nat) (marks : List Mark) :
    tokensFrom offset (t.map pointMark ++ marks) =
      (⟨offset, t ++ (tokensFrom (offset + (escape t).length) marks).1.text⟩,
        (tokensFrom (offset + (escape t).length) marks).2) := by
  induction t generalizing offset with
  | nil =>
      cases marks with
      | nil => rfl
      | cons mark marks => cases mark <;> rfl
  | cons c t ih =>
      rw [List.map_cons, List.cons_append, pointMark, tokensFrom, ih, escape_cons,
        List.length_append, ← Nat.add_assoc]
      rfl

/-- The tokens of texts whose escaped forms are joined, the first one being
written at an offset. -/
def placedFrom (offset : Nat) : List Text → List Token
  | [] => []
  | t :: rest => ⟨offset, t⟩ :: placedFrom (offset + (escape t).length + 1) rest

theorem join_escape_singleton (t : Text) : Text.join ":" ([t].map escape) = escape t :=
  List.intercalate_singleton

theorem join_escape_cons (first second : Text) (rest : List Text) :
    Text.join ":" ((first :: second :: rest).map escape) =
      escape first ++ (':' : CodePoint) :: Text.join ":" ((second :: rest).map escape) :=
  Text.join_cons_cons ":" _ _ _

theorem exists_marks_join (first : Text) (rest : List Text) (offset : Nat) :
    ∃ marks, marksFrom offset 0 (Text.join ":" ((first :: rest).map escape)) = .ok marks ∧
      tokensFrom offset marks =
        (⟨offset, first⟩, placedFrom (offset + (escape first).length + 1) rest) := by
  induction rest generalizing first offset with
  | nil =>
      refine ⟨first.map pointMark ++ [], ?_, ?_⟩
      · rw [join_escape_singleton, ← List.append_nil (escape first), marksFrom_escape]
        rfl
      · rw [tokensFrom_points]
        simp [tokensFrom, placedFrom]
  | cons second rest ih =>
      obtain ⟨marks, hmarks, htokens⟩ := ih second (offset + (escape first).length + 1)
      refine ⟨first.map pointMark ++ .separator :: marks, ?_, ?_⟩
      · rw [join_escape_cons, marksFrom_escape, marksFrom_separator, hmarks]
        rfl
      · rw [tokensFrom_points, tokensFrom, htokens]
        simp [placedFrom]

/-- Texts whose escaped forms were joined with colons are the tokens of what
was joined. -/
theorem tokens_join_escape (first : Text) (rest : List Text) :
    tokens (Text.join ":" ((first :: rest).map escape)) =
      .ok (⟨0, first⟩, placedFrom ((escape first).length + 1) rest) := by
  obtain ⟨marks, hmarks, htokens⟩ := exists_marks_join first rest 0
  rw [Nat.zero_add] at htokens
  rw [tokens, hmarks, ← htokens]
  rfl

/-! ## Names and values -/

/-- Names and values in the order in which they are written. -/
def texts (pairs : List (Text × Text)) : List Text :=
  pairs.flatMap fun pair => [pair.1, pair.2]

theorem texts_cons (pair : Text × Text) (rest : List (Text × Text)) :
    texts (pair :: rest) = pair.1 :: pair.2 :: texts rest := rfl

theorem pairUp_placedFrom (offset : Nat) (pairs : List (Text × Text)) :
    pairUp (placedFrom offset (texts pairs)) = .ok pairs := by
  induction pairs generalizing offset with
  | nil => rfl
  | cons pair rest ih =>
      rw [texts_cons, placedFrom, placedFrom, pairUp, ih]

/-- Only a name may not be empty, and names stand at the even places. -/
theorem find?_emptyName (offset place : Nat) (hplace : place % 2 = 0)
    (pairs : List (Text × Text)) (hnames : ∀ pair ∈ pairs, pair.1 ≠ []) :
    ((placedFrom offset (texts pairs)).zipIdx place).find?
      (fun (token, i) => i % 2 == 0 && token.text.isEmpty) = none := by
  induction pairs generalizing offset place with
  | nil => rfl
  | cons pair rest ih =>
      have hname := hnames pair List.mem_cons_self
      have hrest := ih (offset + (escape pair.1).length + 1 + (escape pair.2).length + 1)
        (place + 1 + 1) (by omega) fun other hother => hnames other (List.mem_cons_of_mem _ hother)
      have hodd : (place + 1) % 2 = 1 := by omega
      rw [texts_cons, placedFrom, placedFrom, List.zipIdx_cons, List.zipIdx_cons,
        List.find?_cons_of_neg, List.find?_cons_of_neg, hrest]
      · simp [hodd]
      · simp [hname]

theorem pairs_join_escape (first : Text × Text) (rest : List (Text × Text))
    (hnames : ∀ pair ∈ first :: rest, pair.1 ≠ []) :
    pairs (Text.join ":" ((texts (first :: rest)).map escape)) = .ok (first :: rest) := by
  have hall : (⟨0, first.1⟩ : Token) ::
      placedFrom ((escape first.1).length + 1) (first.2 :: texts rest) =
        placedFrom 0 (texts (first :: rest)) := by
    rw [texts_cons, placedFrom.eq_2 0, Nat.zero_add]
  have hpairs := pairUp_placedFrom 0 (first :: rest)
  have hempty := find?_emptyName 0 0 rfl (first :: rest) hnames
  rw [texts_cons, pairs, tokens_join_escape]
  simp only [bind, Except.bind, hall, hpairs, hempty]
  rfl

theorem join_ofSegments (pairs : List (Text × Text)) :
    Text.join ":" (pairs.map fun pair => escape pair.1 ++ (':' : CodePoint) :: escape pair.2) =
      Text.join ":" ((texts pairs).map escape) := by
  induction pairs with
  | nil => rfl
  | cons pair rest ih =>
      cases rest with
      | nil => simp [Text.join, texts, Text.ofString]
      | cons next rest =>
          simp only [List.map_cons] at ih
          simp only [texts_cons, List.map_cons, Text.join_cons_cons, ih]
          simp [Text.ofString]

end Written

namespace Chain

/-- The names and values of a key as they are written. -/
def writtenPairs (c : Chain) : List (Text × Text) :=
  c.segmentsFromRoot.map fun s => (s.name, s.value.getD [])

theorem format_eq (c : Chain) :
    c.format = Text.join ":" ((Written.texts c.writtenPairs).map Written.escape) := by
  rw [← Written.join_ofSegments, writtenPairs, List.map_map]
  rfl

theorem read_format (r : Registry) (c : Chain) (hnames : ∀ s ∈ c.segments, s.name ≠ []) :
    read r .root c.format = .ok (Chain.root.appendPairs r
      (c.writtenPairs.map fun (name, value) => (some name, some value))) := by
  have hpairs : ∀ pair ∈ c.writtenPairs, pair.1 ≠ [] := by
    intro pair hpair
    obtain ⟨s, hs, rfl⟩ := List.mem_map.mp hpair
    exact hnames s (List.mem_reverse.mp hs)
  rw [format_eq]
  generalize c.writtenPairs = pairs at hpairs
  cases pairs with
  | nil => rfl
  | cons first rest =>
      have hread := Written.pairs_join_escape first rest hpairs
      have hne : (Text.join ":" ((Written.texts (first :: rest)).map Written.escape)).isEmpty =
          false := by
        cases hempty : Text.join ":" ((Written.texts (first :: rest)).map Written.escape) with
        | cons c t => rfl
        | nil =>
            rw [hempty] at hread
            cases hread
      rw [read, hne, hread]
      rfl

/-- A key is read back from its written form with all names and values, and as an
equivalent key if the registry that reads it classified the key. -/
theorem exists_read_format (r : Registry) (key : Chain)
    (hkey : ∀ s ∈ key.segments, s.name ≠ [] ∧ s.value.isSome = true) :
    ∃ parsed, read r .root key.format = .ok parsed ∧ parsed.parameters = key.parameters ∧
      (∀ s ∈ parsed.segments, s.classification = r.classify (some s.name)) ∧
      ((∀ s ∈ key.segments, s.classification = r.classify (some s.name)) →
        ∀ c : Comparer, c.equal .ofChains (some parsed) (some key) = true) := by
  have hsegments : (Chain.root.appendPairs r
      (key.writtenPairs.map fun (name, value) => (some name, some value))).segments =
        key.segments.map fun s => ⟨s.name, s.value, r.classify (some s.name)⟩ := by
    have hroot : Chain.root.segments = [] := rfl
    rw [segments_appendPairs, hroot, List.append_nil, writtenPairs, segmentsFromRoot,
      List.map_reverse, List.map_reverse, List.reverse_reverse, List.map_map]
    apply List.map_congr_left
    intro s hs
    obtain ⟨value, hvalue⟩ := Option.isSome_iff_exists.mp (hkey s hs).2
    simp [hvalue]
  refine ⟨_, read_format r key fun s hs => (hkey s hs).1, ?_, ?_, ?_⟩
  · rw [parameters, parameters, segmentsFromRoot, segmentsFromRoot, hsegments, ← List.map_reverse,
      List.map_map]
    rfl
  · rw [hsegments]
    intro s hs
    obtain ⟨t, _, rfl⟩ := List.mem_map.mp hs
    rfl
  · intro hclassified c
    have hsame : key.segments.map (fun s => ⟨s.name, s.value, r.classify (some s.name)⟩) =
        key.segments := by
      conv_rhs => rw [← List.map_id key.segments]
      apply List.map_congr_left
      intro s hs
      rw [← hclassified s hs]
      rfl
    rw [Comparer.equal]
    change c.segmentsEqual (Chain.segments _) key.segments = true
    rw [hsegments, hsame, Comparer.segmentsEqual_iff]
    exact ⟨fun _ => rfl, rfl⟩

/-- A key with a structural node at its head and another one inside, a control
character, separators and an empty value. -/
def unplainKey : Chain :=
  Chain.root.appendPairs defaultRegistry [(some "Culture", some "e:n\\"), (none, none),
    (some "k\\:\n\x1f", some []), (some "key", some "\x7f \\x41"), (some "type", some []),
    (none, some "x")]

theorem exists_read_format_unplain :
    (∀ s ∈ unplainKey.segments, s.name ≠ [] ∧ s.value.isSome = true) ∧
      (∀ s ∈ unplainKey.segments,
        s.classification = defaultRegistry.classify (some s.name)) ∧
      ∃ parsed, read defaultRegistry .root unplainKey.format = .ok parsed ∧
        parsed.parameters = unplainKey.parameters ∧
        ({} : Comparer).equal .ofChains (some parsed) (some unplainKey) = true := by
  have hkey : ∀ s ∈ unplainKey.segments, s.name ≠ [] ∧ s.value.isSome = true := by
    decide +kernel
  have hclassified : ∀ s ∈ unplainKey.segments,
      s.classification = defaultRegistry.classify (some s.name) := by
    decide +kernel
  obtain ⟨parsed, hread, hparameters, _, hequal⟩ :=
    exists_read_format defaultRegistry unplainKey hkey
  exact ⟨hkey, hclassified, parsed, hread, hparameters, hequal hclassified {}⟩

end Chain

end KeyNaming
