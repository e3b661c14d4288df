import DarkMed.Yaml.Scalars

/-!
# Scanning Lines

The scanner on the two parts of a `key: value` line: a word as a key, and a plain or
single-quoted scalar as its value.  The statements are about positions in the text:
`AtToken` is the state before the first token of a line, `AtValue` the state behind a
`:`.
-/

namespace DarkMed.Yaml

/-! ## Scalars -/

inductive Scalar where
  | plain (text : List Char)
  | quoted (text : List Char)

def Scalar.text : Scalar → List Char
  | .plain text => text
  | .quoted text => '\'' :: (doubled text ++ ['\''])

/-- What the scanner makes of a scalar. -/
def Scalar.value : Scalar → Option (List Char)
  | .plain text => some text
  | .quoted text => quotedValue text

/-! ## Words -/

/-- A text that the scanner takes as a plain scalar wherever it stands. -/
structure Word (t : List Char) : Prop where
  head : ∃ c t', t = c :: t' ∧ c.isAlphanum = true
  chars : ∀ c ∈ t, c.isAlphanum = true ∨ c = '-'
  short : t.length ≤ 1024

/-- What the scanner needs of a scalar to find its end. -/
def Scalar.Delimited : Scalar → Prop
  | .plain text => Word text
  | .quoted text => '\r' ∉ text

/-- The end of the stream, or the first character of a word. -/
def StartsWord (cs : List Char) : Prop :=
  ∀ c ∈ cs.head?, c.isAlphanum = true

/-- A word in front of anything starts a word there. -/
theorem Word.startsWord {t : List Char} (h : Word t) (rest : List Char) :
    StartsWord (t ++ rest) := by
  obtain ⟨c, t', rfl, hc⟩ := h.head
  simpa [StartsWord] using hc

section Characters

variable {c : Char}

/-- The characters with a meaning for the scanner are not alphanumeric. -/
theorem ne_of_isAlphanum {d : Char} (h : c.isAlphanum = true) (hd : d.isAlphanum = false) :
    c ≠ d := by
  rintro rfl
  exact absurd h (by simp [hd])

/-- A letter or a digit is neither blank nor the end of a line. -/
theorem blankOrBreak_of_isAlphanum (h : c.isAlphanum = true) : blankOrBreak c = false := by
  have hne : ∀ d, d.isAlphanum = false → (c == d) = false := fun d hd =>
    beq_eq_false_iff_ne.mpr (ne_of_isAlphanum h hd)
  simp [blankOrBreak, isBlank, isBreak, hne ' ' rfl, hne '\t' rfl, hne '\r' rfl, hne '\n' rfl,
    hne '\u0085' rfl, hne '\u2028' rfl, hne '\u2029' rfl]

/-- It starts a plain scalar. -/
theorem startsPlainScalar_of_isAlphanum (h : c.isAlphanum = true) (rest : List Char) :
    startsPlainScalar c rest = true := by
  -- no indicator is a letter or a digit
  have hindicator : "-?:,[]\x7b\x7d#&*!|>'\"%@\x60".toList.contains c = false := by
    have hall : "-?:,[]\x7b\x7d#&*!|>'\"%@\x60".toList.all (!·.isAlphanum) = true := by decide
    rw [← Bool.not_eq_true, List.contains_iff_mem]
    intro hmem
    have hc := List.all_eq_true.mp hall c hmem
    simp [h] at hc
  rw [startsPlainScalar, blankOrBreak_of_isAlphanum h, hindicator]
  rfl

/-- No character of a word ends a plain scalar. -/
theorem word_char (h : c.isAlphanum = true ∨ c = '-') :
    blankOrBreak c = false ∧ c ≠ ':' := by
  rcases h with h | rfl
  · exact ⟨blankOrBreak_of_isAlphanum h, ne_of_isAlphanum h rfl⟩
  · decide

end Characters

/-! ## Plain scalars -/

/-- A mark some characters further on the line. -/
def Mark.advance (mark : Mark) (n : Nat) : Mark :=
  { mark with index := mark.index + n, column := mark.column + n }

/-- A line that begins with a letter or a digit is no document indicator. -/
theorem documentIndicator_of_isAlphanum {c : Char} (h : c.isAlphanum = true) (rest : List Char) :
    documentIndicator (c :: rest) = false := by
  simp [documentIndicator, ne_of_isAlphanum h (d := '-') rfl, ne_of_isAlphanum h (d := '.') rfl]

/-- A word is scanned as a part of the scalar. -/
theorem scanPlainScalar_append {indent : Int} {t : List Char}
    (ht : ∀ c ∈ t, c.isAlphanum = true ∨ c = '-') {mark : Mark} {string rest : List Char}
    (hindicator : mark.column = 0 → documentIndicator (t ++ rest) = false) :
    scanPlainScalar indent mark string {} (t ++ rest) =
      scanPlainScalar indent (mark.advance t.length) (string ++ t) {} rest := by
  induction t generalizing mark string with
  | nil => simp [Mark.advance]
  | cons c t ih =>
    -- no character of a word is blank or a `:`, so none of them ends the scalar
    obtain ⟨hblank, hcolon⟩ := word_char (ht c List.mem_cons_self)
    have hgo : (mark.column == 0 && documentIndicator (c :: (t ++ rest))) = false := by
      simpa using hindicator
    have hrest := @ih (fun d hd => ht d (List.mem_cons_of_mem _ hd)) mark.skip (string ++ [c])
      (by simp [Mark.skip])
    have hmark : mark.skip.advance t.length = mark.advance (c :: t).length := by
      simp [Mark.advance, Mark.skip]
      omega
    rw [List.cons_append, scanPlainScalar, if_neg (by simp [hblank])]
    rw [if_neg (by simp [hgo, hcolon, Blanks.isEmpty])]
    rw [hmark, List.append_assoc, List.singleton_append] at hrest
    simpa [Blanks.join] using hrest

/-- A word before a `:` is a key. -/
theorem scanPlainScalar_key {indent : Int} {t rest : List Char} (ht : Word t)
    (hrest : blankz rest = true) (mark : Mark) :
    scanPlainScalar indent mark [] {} (t ++ ':' :: rest) =
      some (t, false, mark.advance t.length, ':' :: rest) := by
  obtain ⟨c, t', rfl, hc⟩ := ht.head
  rw [scanPlainScalar_append ht.chars fun _ => documentIndicator_of_isAlphanum hc _]
  simp [scanPlainScalar, blankOrBreak, isBlank, isBreak, hrest]

/-- The spaces at the start of a line end nothing before the character behind them. -/
theorem scanPlainScalar_spaces {indent : Int} {column : Nat} {mark : Mark} {string rest : List Char}
    {blanks : Blanks} (hblanks : blanks.leadingBlanks = true) (hrest : StartsWord rest)
    (hindent : ((mark.column + column : Nat) : Int) < indent) :
    scanPlainScalar indent mark string blanks (List.replicate column ' ' ++ rest) =
      some (string, true, mark.advance column, rest) := by
  induction column generalizing mark with
  -- the word is not indented deeply enough, so the scalar has ended
  | zero =>
    cases rest with
    | nil => simp [scanPlainScalar, hblanks, Mark.advance]
    | cons c rest =>
      have hblank := blankOrBreak_of_isAlphanum (hrest c rfl)
      have hcolumn : (mark.column : Int) < indent := by simpa using hindent
      simp [scanPlainScalar, hblank, Blanks.isEmpty, hblanks, hcolumn, Mark.advance]
  | succ column ih =>
    have hmark : mark.skip.advance column = mark.advance (column + 1) := by
      simp [Mark.advance, Mark.skip]
      omega
    have hskip : mark.skipBlank ' ' (List.replicate column ' ' ++ rest) = mark.skip := rfl
    have hconsume : blanks.consume ' ' = blanks := by simp [Blanks.consume, isBlank, hblanks]
    have hih := @ih mark.skip (by simp only [Mark.skip]; omega)
    rw [hmark] at hih
    rw [List.replicate_succ, List.cons_append, scanPlainScalar, if_pos (by decide),
      if_neg (by simp), hskip, if_neg (by simp [crlf]), hconsume]
    exact hih

/-- A word at the end of its line is a value, and the scan goes on to the next word. -/
theorem scanPlainScalar_line {indent : Int} {t rest : List Char} {column : Nat} {mark : Mark}
    (ht : Word t) (hmark : mark.column ≠ 0) (hrest : StartsWord rest)
    (hindent : (column : Int) < indent) :
    ∃ m, m.column = column ∧
      scanPlainScalar indent mark [] {} (t ++ '\n' :: (List.replicate column ' ' ++ rest)) =
        some (t, true, m, rest) := by
  have hspaces := @scanPlainScalar_spaces indent column (mark.advance t.length).skipLine t rest
    { leadingBlanks := true, leadingBreak := ['\n'] } rfl hrest
    (by simpa [Mark.skipLine] using hindent)
  refine ⟨_, by simp [Mark.advance, Mark.skipLine], Eq.trans ?_ hspaces⟩
  rw [scanPlainScalar_append ht.chars fun h => absurd h hmark, List.nil_append, scanPlainScalar,
    if_pos (by decide), if_neg (by simp)]
  rfl

/-! ## Between tokens -/

/-- A word is the next token where it stands. -/
theorem skipToNextToken_word {simpleKeyAllowed : Bool} {mark : Mark} {rest : List Char}
    (hrest : StartsWord rest) :
    skipToNextToken simpleKeyAllowed false mark rest = (simpleKeyAllowed, mark, rest) := by
  cases rest with
  | nil => rfl
  | cons c rest =>
    have hc := hrest c rfl
    have hbreak : isBreak c = false := (Bool.or_eq_false_iff.mp (blankOrBreak_of_isAlphanum hc)).2
    have hne : ∀ d, d.isAlphanum = false → (c == d) = false := fun d hd =>
      beq_eq_false_iff_ne.mpr (ne_of_isAlphanum hc hd)
    simp [skipToNextToken, hbreak, hne ' ' rfl, hne '\t' rfl, hne '#' rfl, hne '\uFEFF' (by decide)]

/-- Spaces in front of a word are passed over. -/
theorem skipToNextToken_spaces {simpleKeyAllowed : Bool} {column : Nat} {mark : Mark}
    {rest : List Char} (hrest : StartsWord rest) :
    skipToNextToken simpleKeyAllowed false mark (List.replicate column ' ' ++ rest) =
      (simpleKeyAllowed, mark.advance column, rest) := by
  induction column generalizing mark with
  | zero => simpa [Mark.advance] using skipToNextToken_word hrest
  | succ column ih =>
    have hmark : mark.skip.advance column = mark.advance (column + 1) := by
      simp [Mark.advance, Mark.skip]
      omega
    rw [List.replicate_succ, List.cons_append, skipToNextToken, if_neg (by decide),
      if_neg (by decide), if_pos (by simp), ih, hmark]

/-- The end of a line, and the spaces of the next one. -/
theorem skipToNextToken_line {simpleKeyAllowed : Bool} {column : Nat} {mark : Mark}
    {rest : List Char} (hrest : StartsWord rest) :
    ∃ m, m.column = column ∧
      skipToNextToken simpleKeyAllowed false mark ('\n' :: (List.replicate column ' ' ++ rest)) =
        (true, m, rest) := by
  refine ⟨mark.skipLine.advance column, by simp [Mark.advance, Mark.skipLine], ?_⟩
  rw [skipToNextToken, if_pos (by decide)]
  have hskip : mark.skipBlank '\n' (List.replicate column ' ' ++ rest) = mark.skipLine := rfl
  rw [hskip]
  simpa [crlf] using skipToNextToken_spaces hrest

/-! ## Keys -/

namespace Scanner

/-- Before a token that starts a line: nothing is left to skip but blanks and line breaks. -/
structure AtToken (s : Scanner) (column : Nat) (rest : List Char) (tokens : List Token)
    (indent : Int) (indents : List Int) : Prop where
  next : ∃ m, m.column = column ∧
    skipToNextToken s.simpleKeyAllowed false s.mark s.buffer = (true, m, rest)
  produced : s.streamStartProduced = true
  noKey : s.simpleKey.possible = false
  tokens : s.tokens = tokens
  indent : s.indent = indent
  indents : s.indents = indents

/-- Behind the `:` of a key. -/
structure AtValue (s : Scanner) (rest : List Char) (tokens : List Token) (indent : Int)
    (indents : List Int) : Prop where
  buffer : s.buffer = rest
  column : indent < s.mark.column
  keyAllowed : s.simpleKeyAllowed = false
  produced : s.streamStartProduced = true
  noKey : s.simpleKey.possible = false
  tokens : s.tokens = tokens
  indent : s.indent = indent
  indents : s.indents = indents

section Keys

variable {s : Scanner} {column : Nat} {rest key : List Char} {tokens tokens' : List Token}
  {indent indent' : Int} {indents indents' : List Int}

/-- No block ends at a column that is deep enough. -/
theorem unroll_of_le (h : indent ≤ column) :
    unroll column indent indents tokens = (indent, indents, tokens) := by
  cases indents with
  | nil => rfl
  | cons below indents => rw [unroll, if_neg (by omega)]

/-- What `fetchNextToken` has done before it looks at the token: a key that is still possible is
    on the same line, and not too far away. -/
theorem fetchNextToken_eq {simpleKeyAllowed : Bool} {m : Mark}
    (hproduced : s.streamStartProduced = true)
    (hskip : skipToNextToken s.simpleKeyAllowed false s.mark s.buffer = (simpleKeyAllowed, m, rest))
    (hfresh : s.simpleKey.possible = true →
      s.simpleKey.mark.line = m.line ∧ m.index ≤ s.simpleKey.mark.index + 1024)
    (hunroll : unroll m.column s.indent s.indents s.tokens = (indent', indents', tokens')) :
    s.fetchNextToken =
      fetchToken { s with
        buffer := rest, mark := m, simpleKeyAllowed := simpleKeyAllowed, indent := indent',
        indents := indents', tokens := tokens' } := by
  -- the possible key is on this line and near enough
  have hstale : (s.simpleKey.possible && (s.simpleKey.mark.line < m.line ||
      s.simpleKey.mark.index + 1024 < m.index)) = false := by
    cases hpossible : s.simpleKey.possible with
    | false => rfl
    | true =>
      obtain ⟨hline, hindex⟩ := hfresh hpossible
      simp only [Bool.true_and, Bool.or_eq_false_iff, decide_eq_false_iff_not]
      omega
  simp only [fetchNextToken, hproduced, scanToNextToken, hskip, staleSimpleKeys, hstale]
  simp [unrollIndent, hunroll]

/-- A word is fetched as a plain scalar. -/
theorem fetchToken_word {c : Char} (hc : c.isAlphanum = true) (hbuffer : s.buffer = c :: rest) :
    s.fetchToken = s.fetchPlainScalar := by
  have hne : ∀ d, d.isAlphanum = false → c ≠ d := fun d hd => ne_of_isAlphanum hc hd
  simp [fetchToken, hbuffer, documentIndicator_of_isAlphanum hc, hne '-' rfl, hne '?' rfl,
    hne ':' rfl, hne '\'' rfl, startsPlainScalar_of_isAlphanum hc]

/-- A `:` before a blank is fetched as a value. -/
theorem fetchToken_colon (hrest : blankz rest = true) (hbuffer : s.buffer = ':' :: rest) :
    s.fetchToken = s.fetchValue rest := by
  simp [fetchToken, hbuffer, documentIndicator, hrest]

/-- A quote is fetched as a flow scalar. -/
theorem fetchToken_quote (hbuffer : s.buffer = '\'' :: rest) :
    s.fetchToken = s.fetchFlowScalar rest := by
  simp [fetchToken, hbuffer, documentIndicator]

/-- What is inserted at the length of the first part goes between the two. -/
theorem insertIdx_length_append {α : Type} (l l' : List α) (a : α) :
    (l ++ l').insertIdx l.length a = l ++ a :: l' := by
  induction l with
  | nil => rfl
  | cons b l ih => simpa using ih

/-- A `:` behind a scalar that is a possible key. -/
theorem fetchNextToken_colon (hbuffer : s.buffer = ':' :: rest) (hrest : blankz rest = true)
    (hproduced : s.streamStartProduced = true) (hpossible : s.simpleKey.possible = true)
    (htokens : s.tokens = tokens' ++ [.scalar key])
    (hnumber : s.simpleKey.tokenNumber = tokens'.length)
    (hmark : s.mark = s.simpleKey.mark.advance key.length) (hshort : key.length ≤ 1024)
    (hindent : s.indent ≤ s.simpleKey.mark.column) :
    ∃ t, s.fetchNextToken = some t ∧ t.AtValue rest
      (tokens' ++ (if s.indent < s.simpleKey.mark.column then [.blockMappingStart] else []) ++
        [.key, .scalar key, .value])
      s.simpleKey.mark.column
      (if s.indent < s.simpleKey.mark.column then s.indent :: s.indents else s.indents) := by
  have hskip : skipToNextToken s.simpleKeyAllowed false s.mark s.buffer =
      (s.simpleKeyAllowed, s.mark, ':' :: rest) := by
    simp [hbuffer, skipToNextToken, isBreak]
  -- the key stands within the current block or opens one
  have hkept : unroll s.mark.column s.indent s.indents s.tokens = (s.indent, s.indents, s.tokens) :=
    unroll_of_le (by rw [hmark]; simp [Mark.advance]; omega)
  rw [fetchNextToken_eq hproduced hskip (by simp [hmark, Mark.advance, hshort]) hkept,
    fetchToken_colon hrest rfl]
  -- the key token, and the start of a block if one opens, go in before the scalar
  refine ⟨{ s with
    buffer := rest, mark := s.mark.skip, simpleKeyAllowed := false,
    indent := s.simpleKey.mark.column,
    indents := if s.indent < s.simpleKey.mark.column then s.indent :: s.indents else s.indents,
    tokens := tokens' ++ (if s.indent < s.simpleKey.mark.column then [.blockMappingStart] else []) ++
      [.key, .scalar key, .value],
    simpleKey := { s.simpleKey with possible := false } }, ?_, ?_⟩
  · by_cases hopen : s.indent < s.simpleKey.mark.column
    · simp [fetchValue, hpossible, rollIndent, hopen, htokens, hnumber, insertIdx_length_append]
    · have hsame : s.indent = s.simpleKey.mark.column := by omega
      simp [fetchValue, hpossible, rollIndent, hsame, htokens, hnumber, insertIdx_length_append]
  · refine ⟨rfl, ?_, rfl, hproduced, rfl, rfl, rfl, rfl⟩
    simp only [hmark, Mark.advance, Mark.skip]
    omega

/-- A key opens a block when it stands to the right of the open ones. -/
theorem fetchNextToken_key (hkey : Word key) (hrest : blankz rest = true)
    (h : s.AtToken column (key ++ ':' :: rest) tokens indent indents)
    (hunroll : unroll column indent indents tokens = (indent', indents', tokens'))
    (hindent : indent' ≤ column) :
    ∃ s₁ s₂, s.fetchNextToken = some s₁ ∧ s₁.fetchNextToken = some s₂ ∧
      s₁.tokens = tokens' ++ [.scalar key] ∧
      s₂.AtValue rest
        (tokens' ++ (if indent' < column then [.blockMappingStart] else []) ++
          [.key, .scalar key, .value])
        column (if indent' < column then indent' :: indents' else indents') := by
  obtain ⟨m, rfl, hskip⟩ := h.next
  obtain ⟨c, key', rfl, hc⟩ := hkey.head
  have hscan := @scanPlainScalar_key (indent' + 1) _ _ hkey hrest m
  have hshort := hkey.short
  -- the scalar is a possible key, with its place in the queue and its mark
  have hfirst : s.fetchNextToken = some { s with
      buffer := ':' :: rest, mark := m.advance (c :: key').length, simpleKeyAllowed := false,
      indent := indent', indents := indents', tokens := tokens' ++ [.scalar (c :: key')],
      simpleKey :=
        { possible := true, required := indent' == m.column, tokenNumber := tokens'.length,
          mark := m } } := by
    rw [fetchNextToken_eq h.produced hskip (by simp [h.noKey])
      (by rw [h.indent, h.indents, h.tokens, hunroll]), fetchToken_word hc rfl]
    rw [List.cons_append] at hscan ⊢
    simp [fetchPlainScalar, saveSimpleKey, removeSimpleKey, h.noKey, hscan]
  obtain ⟨s₂, hsecond, hvalue⟩ := fetchNextToken_colon (s := { s with
      buffer := ':' :: rest, mark := m.advance (c :: key').length, simpleKeyAllowed := false,
      indent := indent', indents := indents', tokens := tokens' ++ [.scalar (c :: key')],
      simpleKey :=
        { possible := true, required := indent' == m.column, tokenNumber := tokens'.length,
          mark := m } }) rfl hrest h.produced rfl rfl rfl (by simp [Mark.advance]) hshort
    hindent
  exact ⟨_, s₂, hfirst, hsecond, rfl, hvalue⟩

/-! ## Values -/

/-- A value on the line of its key, to the first word of another line that is not indented
    deeper. -/
theorem fetchNextToken_value {value : Scalar} (hvalue : value.Delimited) (hrest : StartsWord rest)
    (hindent : (column : Int) ≤ indent)
    (h : s.AtValue (' ' :: (value.text ++ '\n' :: (List.replicate column ' ' ++ rest))) tokens indent
      indents) :
    match value.value with
    | none => s.fetchNextToken = none
    | some v => ∃ t, s.fetchNextToken = some t ∧
        t.AtToken column rest (tokens ++ [.scalar v]) indent indents := by
  -- behind a key, no block ends
  have hkept : unroll s.mark.skip.column s.indent s.indents s.tokens =
      (indent, indents, tokens) := by
    rw [h.indent, h.indents, h.tokens]
    exact unroll_of_le (by have := h.column; simp only [Mark.skip]; omega)
  cases value with
  | plain text =>
    obtain ⟨c, text', rfl, hc⟩ := Word.head hvalue
    obtain ⟨m, hm, hscan⟩ :=
      @scanPlainScalar_line (indent + 1) _ rest column s.mark.skip hvalue (Nat.succ_ne_zero _) hrest
        (by omega)
    have hskip : skipToNextToken s.simpleKeyAllowed false s.mark s.buffer =
        (false, s.mark.skip, c :: text' ++ '\n' :: (List.replicate column ' ' ++ rest)) := by
      rw [h.buffer, h.keyAllowed]
      exact @skipToNextToken_spaces false 1 _ _ (Word.startsWord hvalue _)
    rw [List.cons_append] at hskip hscan
    refine ⟨{ s with
      buffer := rest, mark := m, simpleKeyAllowed := true, indent, indents,
      tokens := tokens ++ [.scalar (c :: text')] }, ?_, ?_⟩
    · rw [fetchNextToken_eq h.produced hskip (by simp [h.noKey]) hkept, fetchToken_word hc rfl]
      simp [fetchPlainScalar, saveSimpleKey, hscan]
    · exact ⟨⟨m, hm, skipToNextToken_word hrest⟩, h.produced, h.noKey, rfl, rfl, rfl⟩
  | quoted text =>
    have hskip : skipToNextToken s.simpleKeyAllowed false s.mark s.buffer =
        (false, s.mark.skip, '\'' :: (doubled text ++ '\'' :: '\n' ::
          (List.replicate column ' ' ++ rest))) := by
      rw [h.buffer, h.keyAllowed]
      simp [skipToNextToken, isBreak, Scalar.text]
    have hfetch : s.fetchNextToken = fetchFlowScalar { s with
        buffer := '\'' :: (doubled text ++ '\'' :: '\n' :: (List.replicate column ' ' ++ rest)),
        mark := s.mark.skip, simpleKeyAllowed := false, indent, indents, tokens }
        (doubled text ++ '\'' :: '\n' :: (List.replicate column ' ' ++ rest)) := by
      rw [fetchNextToken_eq h.produced hskip (by simp [h.noKey]) hkept, fetchToken_quote rfl]
    have hscan := @scanFlowScalar_doubled s.mark.skip.skip [] [] text
      ('\n' :: (List.replicate column ' ' ++ rest)) hvalue (by simp)
    have hcolumn : (s.mark.skip.skip.column == 0) = false := rfl
    have hpending : pending [] = {} := rfl
    rw [hcolumn, hpending] at hscan
    cases hquoted : quotedValue text with
    | none =>
      rw [← quotedValue, hquoted] at hscan
      simp only [Scalar.value, hquoted]
      simp [hfetch, fetchFlowScalar, saveSimpleKey, hscan]
    | some v =>
      rw [← quotedValue, hquoted] at hscan
      obtain ⟨m, -, hscan⟩ := hscan
      obtain ⟨m', hm', hline⟩ := @skipToNextToken_line false column m rest hrest
      simp only [Scalar.value, hquoted]
      refine ⟨{ s with
        buffer := '\n' :: (List.replicate column ' ' ++ rest), mark := m, simpleKeyAllowed := false,
        indent, indents, tokens := tokens ++ [.scalar v] }, ?_, ?_⟩
      · simp [hfetch, fetchFlowScalar, saveSimpleKey, hscan]
      · exact ⟨⟨m', hm', hline⟩, h.produced, h.noKey, rfl, rfl, rfl⟩

end Keys

end Scanner

end DarkMed.Yaml
