import DarkMed.Yaml.Reader

/-!
# The Scanner

`scanner.c` of the vendored libyaml, for block mappings of plain and single-quoted
scalars.  The buffer holds the decoded characters that are left, and its end is the
NUL that the reader puts behind the last one.

Left out, as errors: directives, document markers, flow collections, block
sequences, complex keys, anchors, tags, aliases, block scalars and double-quoted
scalars.  The flow level is therefore 0, and the stack of simple keys has one entry.
Tokens are not taken from the queue before the end of the stream, so a token's number
is its place in the queue.
-/

namespace DarkMed.Yaml

/-! ## Characters -/

def isBlank (c : Char) : Bool :=
  c == ' ' || c == '\t'

/-- CR, LF, NEL, LS and PS. -/
def isBreak (c : Char) : Bool :=
  c == '\r' || c == '\n' || c == '\u0085' || c == '\u2028' || c == '\u2029'

def blankOrBreak (c : Char) : Bool :=
  isBlank c || isBreak c

/-- `IS_BLANKZ` of the first character. -/
def blankz : List Char → Bool
  | [] => true
  | c :: _ => blankOrBreak c

/-- A document indicator, which has a meaning in the first column. -/
def documentIndicator (cs : List Char) : Bool :=
  (cs.take 3 == ['-', '-', '-'] || cs.take 3 == ['.', '.', '.']) && blankz (cs.drop 3)

/-- The CR of a CR LF, which is one line break. -/
def crlf (c : Char) (rest : List Char) : Bool :=
  c == '\r' && rest.head? == some '\n'

/-- What `READ_LINE` copies of a line break. -/
def readLine (c : Char) : Char :=
  if c == '\u2028' || c == '\u2029' then c else '\n'

structure Mark where
  index : Nat := 0
  line : Nat := 0
  column : Nat := 0

/-- `SKIP` -/
def Mark.skip (mark : Mark) : Mark :=
  { mark with index := mark.index + 1, column := mark.column + 1 }

/-- `SKIP_LINE` -/
def Mark.skipLine (mark : Mark) : Mark :=
  { index := mark.index + 1, line := mark.line + 1, column := 0 }

/-- The mark behind a blank or a line break.  The CR of a CR LF counts as a character, and its
    LF ends the line. -/
def Mark.skipBlank (mark : Mark) (c : Char) (rest : List Char) : Mark :=
  if isBreak c && !crlf c rest then mark.skipLine else mark.skip

/-! ## Blanks -/

/-- The whitespaces and line breaks that a scalar is in the middle of. -/
structure Blanks where
  leadingBlanks : Bool := false
  leadingBreak : List Char := []
  trailingBreaks : List Char := []
  whitespaces : List Char := []
  deriving DecidableEq

namespace Blanks

/-- Consume a blank or a line break. -/
def consume (blanks : Blanks) (c : Char) : Blanks :=
  if isBlank c then
    if blanks.leadingBlanks then blanks
    else { blanks with whitespaces := blanks.whitespaces ++ [c] }
  else if blanks.leadingBlanks then
    { blanks with trailingBreaks := blanks.trailingBreaks ++ [readLine c] }
  else { blanks with whitespaces := [], leadingBreak := [readLine c], leadingBlanks := true }

/-- Join the whitespaces or fold the line breaks. -/
def join (blanks : Blanks) : List Char :=
  if blanks.leadingBlanks then
    if blanks.leadingBreak.head? == some '\n' then
      if blanks.trailingBreaks.isEmpty then [' '] else blanks.trailingBreaks
    else blanks.leadingBreak ++ blanks.trailingBreaks
  else blanks.whitespaces

/-- Nothing is pending. -/
def isEmpty (blanks : Blanks) : Bool :=
  !blanks.leadingBlanks && blanks.whitespaces.isEmpty

end Blanks

/-! ## Scalars -/

/-- The rest of a single-quoted scalar behind its opening quote: its value, and where it ends.
    The loop of `yaml_parser_scan_flow_scalar`, a character at a time. -/
def scanFlowScalar (mark : Mark) (string : List Char) (blanks : Blanks) :
    List Char → Option (List Char × Mark × List Char)
  -- unexpected end of stream
  | [] => none
  | c :: rest =>
    if blankOrBreak c then
      scanFlowScalar (mark.skipBlank c rest) string
        (if crlf c rest then blanks else blanks.consume c) rest
    -- unexpected document indicator
    else if mark.column == 0 && documentIndicator (c :: rest) then none
    else if c == '\'' then
      match rest with
      | '\'' :: rest => scanFlowScalar mark.skip.skip (string ++ blanks.join ++ ['\'']) {} rest
      | rest => some (string ++ blanks.join, mark.skip, rest)
    else scanFlowScalar mark.skip (string ++ blanks.join ++ [c]) {} rest

/-- A plain scalar: its value, whether a line break follows it, and where it ends.  The loop of
    `yaml_parser_scan_plain_scalar`, a character at a time. -/
def scanPlainScalar (indent : Int) (mark : Mark) (string : List Char) (blanks : Blanks) :
    List Char → Option (List Char × Bool × Mark × List Char)
  | [] => some (string, blanks.leadingBlanks, mark, [])
  | c :: rest =>
    if blankOrBreak c then
      -- a tab character that violates indentation
      if blanks.leadingBlanks && mark.column < indent && c == '\t' then none
      else
        scanPlainScalar indent (mark.skipBlank c rest) string
          (if crlf c rest then blanks else blanks.consume c) rest
    else if (!blanks.isEmpty && (mark.column < indent || c == '#')) ||
        (mark.column == 0 && documentIndicator (c :: rest)) || (c == ':' && blankz rest) then
      some (string, blanks.leadingBlanks, mark, c :: rest)
    else scanPlainScalar indent mark.skip (string ++ blanks.join ++ [c]) {} rest

/-! ## Between tokens -/

/-- The loop of `yaml_parser_scan_to_next_token`, a character at a time: blanks, comments and
    line breaks, behind which a simple key may start. -/
def skipToNextToken (simpleKeyAllowed inComment : Bool) (mark : Mark) :
    List Char → Bool × Mark × List Char
  | [] => (simpleKeyAllowed, mark, [])
  | c :: rest =>
    if isBreak c then
      skipToNextToken (simpleKeyAllowed || !crlf c rest) (inComment && crlf c rest)
        (mark.skipBlank c rest) rest
    else if inComment then skipToNextToken simpleKeyAllowed true mark.skip rest
    -- the byte order mark may start a line, and a tab may not stand before a simple key
    else if (c == '\uFEFF' && mark.column == 0) || c == ' ' || (c == '\t' && !simpleKeyAllowed) then
      skipToNextToken simpleKeyAllowed false mark.skip rest
    else if c == '#' then skipToNextToken simpleKeyAllowed true mark.skip rest
    else (simpleKeyAllowed, mark, c :: rest)

/-- The characters that a plain scalar may not start with; the first three may start one before
    a character that is not blank. -/
def startsPlainScalar (c : Char) (rest : List Char) : Bool :=
  !(blankOrBreak c || "-?:,[]\x7b\x7d#&*!|>'\"%@\x60".toList.contains c) ||
    (c == '-' && !(rest.head?.any isBlank)) || ((c == '?' || c == ':') && !blankz rest)

/-! ## Tokens -/

inductive Token where
  | streamStart
  | streamEnd
  | blockMappingStart
  | blockEnd
  | key
  | value
  | scalar (value : List Char)
  deriving DecidableEq

structure SimpleKey where
  possible : Bool := false
  required : Bool := false
  tokenNumber : Nat := 0
  mark : Mark := {}

/-- `yaml_parser_t`, as far as the scanner goes. -/
structure Scanner where
  buffer : List Char
  mark : Mark := {}
  streamStartProduced : Bool := false
  tokens : List Token := []
  indent : Int := 0
  indents : List Int := []
  simpleKeyAllowed : Bool := false
  simpleKey : SimpleKey := {}

namespace Scanner

def staleSimpleKeys (s : Scanner) : Option Scanner :=
  if s.simpleKey.possible && (s.simpleKey.mark.line < s.mark.line ||
      s.simpleKey.mark.index + 1024 < s.mark.index) then
    if s.simpleKey.required then none
    else some { s with simpleKey := { s.simpleKey with possible := false } }
  else some s

def removeSimpleKey (s : Scanner) : Option Scanner :=
  if s.simpleKey.possible && s.simpleKey.required then none
  else some { s with simpleKey := { s.simpleKey with possible := false } }

def saveSimpleKey (s : Scanner) : Option Scanner := do
  if s.simpleKeyAllowed then
    let s ← s.removeSimpleKey
    return { s with
      simpleKey :=
        { possible := true, required := s.indent == s.mark.column, tokenNumber := s.tokens.length,
          mark := s.mark } }
  else return s

/-- Open a block at a column, with its start token at a place in the queue. -/
def rollIndent (s : Scanner) (column : Int) (number : Nat) (token : Token) : Scanner :=
  if s.indent < column then
    { s with
      indents := s.indent :: s.indents
      indent := column
      tokens := s.tokens.insertIdx number token }
  else s

/-- The loop of `yaml_parser_unroll_indent`; the indentation below the stack is -1. -/
def unroll (column : Int) : Int → List Int → List Token → Int × List Int × List Token
  | indent, [], tokens => (indent, [], tokens)
  | indent, below :: indents, tokens =>
    if column < indent then unroll column below indents (tokens ++ [.blockEnd])
    else (indent, below :: indents, tokens)

def unrollIndent (s : Scanner) (column : Int) : Scanner :=
  let (indent, indents, tokens) := unroll column s.indent s.indents s.tokens
  { s with indent, indents, tokens }

def fetchStreamStart (s : Scanner) : Scanner :=
  { s with
    indent := -1
    simpleKey := {}
    simpleKeyAllowed := true
    streamStartProduced := true
    tokens := s.tokens ++ [.streamStart] }

def fetchStreamEnd (s : Scanner) : Option Scanner := do
  let mark := if s.mark.column == 0 then s.mark else { s.mark with line := s.mark.line + 1, column := 0 }
  let s ← ({ s with mark }.unrollIndent (-1)).removeSimpleKey
  return { s with simpleKeyAllowed := false, tokens := s.tokens ++ [.streamEnd] }

/-- `yaml_parser_fetch_value` at the rest of the buffer behind the `:`. -/
def fetchValue (s : Scanner) (rest : List Char) : Option Scanner := do
  let s ←
    if s.simpleKey.possible then
      let number := s.simpleKey.tokenNumber
      let s := { s with tokens := s.tokens.insertIdx number .key }
      let s := s.rollIndent s.simpleKey.mark.column number .blockMappingStart
      pure { s with
        simpleKey := { s.simpleKey with possible := false }, simpleKeyAllowed := false }
    -- mapping values are not allowed in this context
    else if !s.simpleKeyAllowed then none
    else
      let s := s.rollIndent s.mark.column s.tokens.length .blockMappingStart
      pure { s with simpleKeyAllowed := true }
  return { s with buffer := rest, mark := s.mark.skip, tokens := s.tokens ++ [.value] }

/-- `yaml_parser_fetch_flow_scalar` at the rest of the buffer behind the opening quote. -/
def fetchFlowScalar (s : Scanner) (rest : List Char) : Option Scanner := do
  let s ← s.saveSimpleKey
  let (value, mark, rest) ← scanFlowScalar s.mark.skip [] {} rest
  return { s with
    buffer := rest, mark, simpleKeyAllowed := false, tokens := s.tokens ++ [.scalar value] }

def fetchPlainScalar (s : Scanner) : Option Scanner := do
  let s ← s.saveSimpleKey
  let (value, leadingBlanks, mark, rest) ←
    scanPlainScalar (s.indent + 1) s.mark [] {} s.buffer
  return { s with
    buffer := rest, mark, simpleKeyAllowed := leadingBlanks, tokens := s.tokens ++ [.scalar value] }

def scanToNextToken (s : Scanner) : Scanner :=
  let (simpleKeyAllowed, mark, buffer) := skipToNextToken s.simpleKeyAllowed false s.mark s.buffer
  { s with simpleKeyAllowed, mark, buffer }

/-- The choice of `yaml_parser_fetch_next_token` at the first character of a token. -/
def fetchToken (s : Scanner) : Option Scanner :=
  match s.buffer with
  | [] => s.fetchStreamEnd
  | c :: rest =>
    if s.mark.column == 0 && documentIndicator (c :: rest) then none
    -- block entries and complex keys
    else if (c == '-' || c == '?') && blankz rest then none
    else if c == ':' && blankz rest then s.fetchValue rest
    else if c == '\'' then s.fetchFlowScalar rest
    else if startsPlainScalar c rest then s.fetchPlainScalar
    -- the tokens that are left out, and characters that cannot start any token
    else none

/-- `yaml_parser_fetch_next_token` -/
def fetchNextToken (s : Scanner) : Option Scanner :=
  if !s.streamStartProduced then some s.fetchStreamStart
  else do
    let s ← s.scanToNextToken.staleSimpleKeys
    (s.unrollIndent s.mark.column).fetchToken

/-- Fetch tokens to the end of the stream. -/
def fetchTokens : Nat → Scanner → Option (List Token)
  | 0, _ => none
  | fuel + 1, s =>
    if s.tokens.getLast? == some .streamEnd then some s.tokens
    else s.fetchNextToken.bind (fetchTokens fuel)

end Scanner

/-- The tokens of a stream.  Every token between the first and the last has a character. -/
def scan (buffer : List Char) : Option (List Token) :=
  Scanner.fetchTokens (buffer.length + 3) { buffer }

example : scan "a:\n  b: 'x  y'\n".toList = some [.streamStart, .blockMappingStart, .key,
    .scalar ['a'], .value, .blockMappingStart, .key, .scalar ['b'], .value,
    .scalar "x  y".toList, .blockEnd, .blockEnd, .streamEnd] := by
  decide +kernel

end DarkMed.Yaml
