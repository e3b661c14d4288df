import DarkMed.Yaml.Blocks

/-!
# The Parser and the Loader

`parser.c` and `loader.c` of the vendored libyaml, for the tokens of the scanner:
the parser turns tokens into events, the loader composes a document of them.

A document's nodes are a tree here.  The loader enters a node into its parent when it
starts it, and the node's own pairs when they come; without aliases that is the same
as entering the finished node when it ends.
-/

namespace DarkMed.Yaml

open DarkMed.Lib

/-! ## Parser -/

inductive ParserState where
  | streamStart
  | implicitDocumentStart
  | documentStart
  | documentEnd
  | blockNode
  | blockMappingFirstKey
  | blockMappingKey
  | blockMappingValue
  | finished

inductive Event where
  | streamStart
  | streamEnd
  | documentStart
  | documentEnd
  | scalar (value : List Char)
  | mappingStart
  | mappingEnd

/-- `yaml_parser_t`, as far as the parser goes. -/
structure Parser where
  tokens : List Token
  state : ParserState := .streamStart
  states : List ParserState := []

namespace Parser

def parseStreamStart (p : Parser) : Option (Event × Parser) :=
  match p.tokens with
  | .streamStart :: tokens =>
    some (.streamStart, { p with tokens, state := .implicitDocumentStart })
  | _ => none

/-- `yaml_parser_parse_document_start`; an explicit document has tokens that are left out. -/
def parseDocumentStart (p : Parser) (implicit : Bool) : Option (Event × Parser) :=
  match p.tokens with
  | [] => none
  | .streamEnd :: tokens => some (.streamEnd, { p with tokens, state := .finished })
  | _ =>
    -- did not find expected <document start>, where a document came before
    if implicit then
      some (.documentStart, { p with states := .documentEnd :: p.states, state := .blockNode })
    else none

def parseDocumentEnd (p : Parser) : Option (Event × Parser) :=
  match p.tokens with
  | [] => none
  | _ => some (.documentEnd, { p with state := .documentStart })

/-- `parser->state = POP(parser, parser->states)` with an event. -/
def pop (p : Parser) (event : Event) : Option (Event × Parser) :=
  match p.states with
  | [] => none
  | state :: states => some (event, { p with state, states })

/-- `yaml_parser_parse_node` -/
def parseNode (p : Parser) : Option (Event × Parser) :=
  match p.tokens with
  | .scalar value :: tokens => { p with tokens }.pop (.scalar value)
  | .blockMappingStart :: _ => some (.mappingStart, { p with state := .blockMappingFirstKey })
  -- did not find expected node content
  | _ => none

/-- A node of a mapping, which is an empty scalar when the next part of the mapping follows. -/
def parseMappingNode (p : Parser) (next : ParserState) : Option (Event × Parser) :=
  match p.tokens with
  | [] => none
  | .key :: _ | .value :: _ | .blockEnd :: _ => some (.scalar [], { p with state := next })
  | _ => { p with states := next :: p.states }.parseNode

def parseBlockMappingKey (p : Parser) (first : Bool) : Option (Event × Parser) :=
  match if first then p.tokens.tail else p.tokens with
  | .key :: tokens => { p with tokens }.parseMappingNode .blockMappingValue
  | .blockEnd :: tokens => { p with tokens }.pop .mappingEnd
  -- did not find expected key
  | _ => none

def parseBlockMappingValue (p : Parser) : Option (Event × Parser) :=
  match p.tokens with
  | [] => none
  | .value :: tokens => { p with tokens }.parseMappingNode .blockMappingKey
  | _ => some (.scalar [], { p with state := .blockMappingKey })

/-- `yaml_parser_state_machine` -/
def parse (p : Parser) : Option (Event × Parser) :=
  match p.state with
  | .streamStart => p.parseStreamStart
  | .implicitDocumentStart => p.parseDocumentStart true
  | .documentStart => p.parseDocumentStart false
  | .documentEnd => p.parseDocumentEnd
  | .blockNode => p.parseNode
  | .blockMappingFirstKey => p.parseBlockMappingKey true
  | .blockMappingKey => p.parseBlockMappingKey false
  | .blockMappingValue => p.parseBlockMappingValue
  | .finished => none

end Parser

/-! ## Loader -/

inductive Node where
  | scalar (value : List Char)
  | mapping (pairs : List (Node × Option Node))

/-- A mapping's pairs; the value of the last one may still be missing. -/
abbrev Pairs := List (Node × Option Node)

/-- The document that is composed: its root, and the mappings that are open, the innermost
    first. -/
structure Loader where
  root : Option Node := none
  ctx : List Pairs := []

/-- The mapping case of `yaml_parser_load_node_add`. -/
def Pairs.add (pairs : Pairs) (node : Node) : Pairs :=
  match pairs.getLast? with
  | some (key, none) => pairs.dropLast ++ [(key, some node)]
  | _ => pairs ++ [(node, none)]

namespace Loader

/-- `yaml_parser_load_node_add`; without an open mapping the node is the root. -/
def nodeAdd (l : Loader) (node : Node) : Loader :=
  match l.ctx with
  | [] => { l with root := l.root.or (some node) }
  | pairs :: ctx => { l with ctx := pairs.add node :: ctx }

def loadMappingEnd (l : Loader) : Option Loader :=
  match l.ctx with
  | [] => none
  | pairs :: ctx => some ({ l with ctx }.nodeAdd (.mapping pairs))

/-- `yaml_parser_load_nodes` -/
def loadNodes : Nat → Parser → Loader → Option Loader
  | 0, _, _ => none
  | fuel + 1, p, l => do
    let (event, p) ← p.parse
    match event with
    | .scalar value => loadNodes fuel p (l.nodeAdd (.scalar value))
    | .mappingStart => loadNodes fuel p { l with ctx := [] :: l.ctx }
    | .mappingEnd => loadNodes fuel p (← l.loadMappingEnd)
    | .documentEnd => return l
    | _ => none

end Loader

/-- `yaml_parser_load`: the root of the first document, which an empty stream does not have.  A
    token gives two events at most. -/
def load (tokens : List Token) : Option (Option Node) := do
  let (_, p) ← Parser.parse { tokens }
  let (event, p) ← p.parse
  match event with
  | .streamEnd => return none
  | _ => return (← Loader.loadNodes (2 * tokens.length + 2) p {}).root

/-! ## Documents of blocks -/

/-- A mapping of scalars. -/
def entriesNode (kvs : List (List Char × List Char)) : Node :=
  .mapping (kvs.map fun kv => (.scalar kv.1, some (.scalar kv.2)))

/-- A mapping of mappings of scalars. -/
def blocksNode (c : List (List Char × List (List Char × List Char))) : Node :=
  .mapping (c.map fun b => (.scalar b.1, some (entriesNode b.2)))

/-- The parser before a key of a block mapping.  The token that starts the mapping is still there
    before its first key. -/
def Parser.atKey (first : Bool) (tokens : List Token) (states : List ParserState) : Parser :=
  if first then { tokens := .blockMappingStart :: tokens, state := .blockMappingFirstKey, states }
  else { tokens, state := .blockMappingKey, states }

section Parsing

variable {first : Bool} {key value : List Char} {tokens : List Token} {state : ParserState}
  {states : List ParserState}

/-- A key of a block mapping. -/
theorem parse_key :
    (Parser.atKey first (.key :: .scalar key :: tokens) states).parse =
      some (.scalar key, { tokens, state := .blockMappingValue, states }) := by
  cases first <;> rfl

/-- The end of a block mapping, behind which the parser is where it was. -/
theorem parse_blockEnd :
    (Parser.atKey first (.blockEnd :: tokens) (state :: states)).parse =
      some (.mappingEnd, { tokens, state, states }) := by
  cases first <;> rfl

/-- A scalar behind a key. -/
theorem parse_value :
    Parser.parse
      { tokens := .value :: .scalar value :: tokens, state := .blockMappingValue, states } =
      some (.scalar value, Parser.atKey false tokens states) :=
  rfl

/-- A block mapping behind a key. -/
theorem parse_value_mapping :
    Parser.parse
      { tokens := .value :: .blockMappingStart :: tokens, state := .blockMappingValue, states } =
      some (.mappingStart, Parser.atKey true tokens (.blockMappingKey :: states)) :=
  rfl

end Parsing

section Loading

variable {n : Nat} {first : Bool} {tokens : List Token} {states : List ParserState}
  {root : Option Node} {pairs : Pairs} {ctx : List Pairs}

/-- A node behind pairs that all have their values is a key. -/
theorem Pairs.add_key (hpairs : ∀ p ∈ pairs, p.2.isSome) (key : Node) :
    pairs.add key = pairs ++ [(key, none)] := by
  unfold Pairs.add
  split
  · next k hlast => exact absurd (hpairs _ (List.mem_of_getLast? hlast)) (by simp)
  · rfl

/-- A value is added to the last key, which has none yet. -/
theorem Pairs.add_value (key value : Node) :
    Pairs.add (pairs ++ [(key, none)]) value = pairs ++ [(key, some value)] := by
  simp [Pairs.add]

/-- An entry becomes one pair of the current mapping. -/
theorem loadNodes_entry (hpairs : ∀ p ∈ pairs, p.2.isSome) (kv : List Char × List Char) :
    Loader.loadNodes (n + 2) (Parser.atKey first (entryTokens kv ++ tokens) states)
        { root, ctx := pairs :: ctx } =
      Loader.loadNodes n (Parser.atKey false tokens states)
        { root, ctx := (pairs ++ [(.scalar kv.1, some (.scalar kv.2))]) :: ctx } := by
  simp only [entryTokens, List.cons_append, List.nil_append, Loader.loadNodes, parse_key,
    parse_value,
    Option.bind_eq_bind, Option.bind_some, Loader.nodeAdd, Pairs.add_key hpairs, Pairs.add_value]

/-- The entries of a mapping become its pairs. -/
theorem loadNodes_entries (kvs : List (List Char × List Char)) (hpairs : ∀ p ∈ pairs, p.2.isSome) :
    Loader.loadNodes (n + 2 * kvs.length)
        (Parser.atKey first (kvs.flatMap entryTokens ++ tokens) states)
        { root, ctx := pairs :: ctx } =
      Loader.loadNodes n (Parser.atKey (first && kvs.isEmpty) tokens states)
        { root, ctx := (pairs ++ kvs.map fun kv => (.scalar kv.1, some (.scalar kv.2))) :: ctx } := by
  induction kvs generalizing first pairs with
  | nil => simp
  | cons kv kvs ih =>
    have hfuel : n + 2 * (kv :: kvs).length = n + 2 * kvs.length + 2 := by
      rw [List.length_cons]
      omega
    -- behind an entry every pair has its value again
    rw [hfuel, List.flatMap_cons, List.append_assoc, loadNodes_entry hpairs,
      ih (List.forall_mem_append.mpr ⟨hpairs, by simp⟩)]
    simp

/-- A block becomes one pair of the mapping it stands in. -/
theorem loadNodes_block (b : List Char × List (List Char × List Char))
    (hpairs : ∀ p ∈ pairs, p.2.isSome) :
    Loader.loadNodes (n + 2 * b.2.length + 3)
        (Parser.atKey first (openBlockTokens b ++ .blockEnd :: tokens) states)
        { root, ctx := pairs :: ctx } =
      Loader.loadNodes n (Parser.atKey false tokens states)
        { root, ctx := (pairs ++ [(.scalar b.1, some (entriesNode b.2))]) :: ctx } := by
  -- two events open the block, two come for each entry, and one ends it
  have hfuel : n + 2 * b.2.length + 3 = (n + 1 + 2 * b.2.length) + 2 := by omega
  rw [hfuel]
  simp only [openBlockTokens, List.cons_append, List.nil_append, Loader.loadNodes, parse_key,
    parse_value_mapping, Option.bind_eq_bind, Option.bind_some, Loader.nodeAdd, Pairs.add_key hpairs]
  rw [loadNodes_entries _ (by simp)]
  simp only [Loader.loadNodes, parse_blockEnd, Option.bind_eq_bind, Option.bind_some,
    Loader.loadMappingEnd, Loader.nodeAdd, Pairs.add_value, List.nil_append]
  rfl

/-- Each block becomes one pair, whose value is a mapping. -/
theorem loadNodes_blocks (c : List (List Char × List (List Char × List Char)))
    (hpairs : ∀ p ∈ pairs, p.2.isSome) :
    Loader.loadNodes (n + (c.map fun b => 2 * b.2.length + 3).sum)
        (Parser.atKey first ((c.flatMap fun b => openBlockTokens b ++ [.blockEnd]) ++ tokens) states)
        { root, ctx := pairs :: ctx } =
      Loader.loadNodes n (Parser.atKey (first && c.isEmpty) tokens states)
        { root, ctx := (pairs ++ c.map fun b => (.scalar b.1, some (entriesNode b.2))) :: ctx } := by
  induction c generalizing first pairs with
  | nil => simp
  | cons b c ih =>
    -- two events for each entry, and three for the block
    have hfuel : n + ((b :: c).map fun b => 2 * b.2.length + 3).sum =
        n + (c.map fun b => 2 * b.2.length + 3).sum + 2 * b.2.length + 3 := by
      rw [List.map_cons, List.sum_cons]
      omega
    rw [hfuel, List.flatMap_cons, List.append_assoc, List.append_assoc, List.singleton_append,
      loadNodes_block b hpairs, ih (List.forall_mem_append.mpr ⟨hpairs, by simp⟩)]
    simp

/-- The mapping ends, and the document with it. -/
theorem loadNodes_end :
    Loader.loadNodes (n + 2) (Parser.atKey first [.blockEnd, .streamEnd] [.documentEnd])
        { root := none, ctx := [pairs] } =
      some { root := some (.mapping pairs), ctx := [] } := by
  rw [Loader.loadNodes, parse_blockEnd]
  rfl

end Loading

/-- A block has two tokens for each of its events. -/
theorem events_le (c : List (List Char × List (List Char × List Char))) :
    (c.map fun b => 2 * b.2.length + 3).sum ≤
      (c.flatMap fun b => openBlockTokens b ++ [.blockEnd]).length := by
  have hentries : ∀ kvs : List (List Char × List Char),
      2 * kvs.length ≤ (kvs.flatMap entryTokens).length := by
    intro kvs
    induction kvs with
    | nil => exact Nat.le_refl _
    | cons kv kvs ih =>
      simp only [List.flatMap_cons, entryTokens, List.length_append, List.length_cons,
        List.length_nil]
      omega
  induction c with
  | nil => exact Nat.le_refl _
  | cons b c ih =>
    have hb := hentries b.2
    simp only [List.map_cons, List.sum_cons, List.flatMap_cons, openBlockTokens, List.length_append,
      List.length_cons, List.length_nil] at ih ⊢
    omega

/-- **The tokens of a stream of blocks are loaded** as a mapping of mappings. -/
theorem load_streamTokens (c : List (List Char × List (List Char × List Char))) :
    load (streamTokens c) = some (some (blocksNode c)) := by
  -- the fuel of `load` is enough for every event of the blocks, and for the two at the end
  have hle := events_le c
  obtain ⟨n, hfuel⟩ : ∃ n, 2 * (streamTokens c).length + 2 =
      n + 2 + (c.map fun b => 2 * b.2.length + 3).sum + 1 := by
    refine ⟨2 * (streamTokens c).length - (c.map fun b => 2 * b.2.length + 3).sum - 1, ?_⟩
    simp only [streamTokens, List.length_append, List.length_cons]
    omega
  have hstart : load (streamTokens c) =
      (Loader.loadNodes (2 * (streamTokens c).length + 2)
        { tokens := (streamTokens c).tail, state := .blockNode, states := [.documentEnd] } {}).bind
          fun l => some l.root :=
    rfl
  -- the stream and the document begin, and the mapping is opened
  have hmapping : Loader.loadNodes (2 * (streamTokens c).length + 2)
      { tokens := (streamTokens c).tail, state := .blockNode, states := [.documentEnd] } {} =
        Loader.loadNodes (n + 2 + (c.map fun b => 2 * b.2.length + 3).sum)
          (Parser.atKey true ((c.flatMap fun b => openBlockTokens b ++ [.blockEnd]) ++
            [.blockEnd, .streamEnd]) [.documentEnd])
          { root := none, ctx := [[]] } := by
    rw [hfuel]
    rfl
  rw [hstart, hmapping, loadNodes_blocks c (by simp), loadNodes_end]
  rfl

/-! ## Files of blocks -/

/-- Reader, scanner, parser and loader: the root of the document that a file holds. -/
def loadInput (input : List UInt8) : Option (Option Node) := do
  let buffer ← read input
  let tokens ← scan buffer
  load tokens

/-- The characters that only the values of single-quoted scalars bring into a stream. -/
def Scalar.Allowed : Scalar → Prop
  | .plain _ => True
  | .quoted text => ∀ c ∈ text, allowed c.toNat = true

/-- Letters and digits lie between `0` and `z`. -/
theorem range_of_isAlphanum {c : Char} (h : c.isAlphanum = true) :
    0x30 ≤ c.toNat ∧ c.toNat ≤ 0x7A := by
  have hbounds : ∀ low high : UInt32, 0x30 ≤ low.toNat → high.toNat ≤ 0x7A →
      low ≤ c.val → c.val ≤ high → 0x30 ≤ c.toNat ∧ c.toNat ≤ 0x7A := by
    intro low high hlow hhigh hfrom hto
    have hfrom := UInt32.le_iff_toNat_le.mp hfrom
    have hto := UInt32.le_iff_toNat_le.mp hto
    show 0x30 ≤ c.val.toNat ∧ c.val.toNat ≤ 0x7A
    omega
  -- capitals, small letters and digits
  rcases Bool.or_eq_true_iff.mp h with halpha | hdigit
  · rcases Bool.or_eq_true_iff.mp halpha with hupper | hlower
    · obtain ⟨hfrom, hto⟩ := of_decide_eq_true hupper
      exact hbounds 'A'.val 'Z'.val (by decide) (by decide) hfrom hto
    · obtain ⟨hfrom, hto⟩ := Bool.and_eq_true_iff.mp hlower
      exact hbounds 'a'.val 'z'.val (by decide) (by decide) (of_decide_eq_true hfrom)
        (of_decide_eq_true hto)
  · obtain ⟨hfrom, hto⟩ := Bool.and_eq_true_iff.mp hdigit
    exact hbounds '0'.val '9'.val (by decide) (by decide) (of_decide_eq_true hfrom)
      (of_decide_eq_true hto)

/-- The reader lets every character of a word through. -/
theorem Word.allowed {t : List Char} (h : Word t) : ∀ c ∈ t, Yaml.allowed c.toNat = true := by
  intro c hc
  rcases h.chars c hc with halphanum | rfl
  · obtain ⟨hlow, hhigh⟩ := range_of_isAlphanum halphanum
    have hprintable : 0x20 ≤ c.toNat ∧ c.toNat ≤ 0x7E := by omega
    simp [Yaml.allowed, hprintable]
  · rfl

/-- Doubling the quotes adds no other characters. -/
theorem allowed_doubled {cs : List Char} :
    (∀ c ∈ doubled cs, allowed c.toNat = true) ↔ ∀ c ∈ cs, allowed c.toNat = true := by
  have hmem : ∀ c, c ∈ doubled cs ↔ c ∈ cs := by
    intro c
    simp only [doubled, List.mem_flatMap]
    constructor
    · rintro ⟨d, hd, hc⟩
      split at hc
      · next hquote =>
        have hsame : c = d := by simpa [eq_of_beq hquote] using hc
        rwa [hsame]
      · rwa [List.mem_singleton.mp hc]
    · intro hc
      refine ⟨c, hc, ?_⟩
      split
      · next hquote => simp [eq_of_beq hquote]
      · exact List.mem_singleton_self c
  simp only [hmem]

/-- A scalar's text may stand in a stream when its value may. -/
theorem allowed_scalar {value : Scalar} (h : value.Delimited) :
    (∀ c ∈ value.text, allowed c.toNat = true) ↔ value.Allowed := by
  cases value with
  | plain text => exact iff_of_true (Word.allowed h) trivial
  | quoted text =>
    simp only [Scalar.text, Scalar.Allowed, List.mem_cons, List.mem_append, List.not_mem_nil,
      or_false, or_imp, forall_and, forall_eq, allowed_doubled]
    exact ⟨fun h => h.2.1, fun h => ⟨rfl, h, rfl⟩⟩

/-- A line is let through exactly if its value is. -/
theorem allowed_line {e : Entry} (hkey : Word e.key) (hvalue : e.value.Delimited) :
    (∀ c ∈ e.line, allowed c.toNat = true) ↔ e.value.Allowed := by
  rw [← allowed_scalar hvalue]
  simp only [Entry.line, List.mem_append, List.mem_cons, List.not_mem_nil, or_false, or_imp,
    forall_and, forall_eq]
  exact ⟨fun h => h.2.2.2.1, fun h => ⟨hkey.allowed, rfl, rfl, h, rfl⟩⟩

/-- **A stream of blocks may be read** when the texts of its single-quoted scalars may. -/
theorem allowed_blocksText {bs : List Block} (hbs : ∀ b ∈ bs, b.Delimited) :
    (∀ c ∈ blocksText bs, allowed c.toNat = true) ↔
      ∀ b ∈ bs, ∀ e ∈ b.entries, e.value.Allowed := by
  simp only [blocksText, List.mem_flatMap, forall_exists_index, and_imp]
  constructor
  · intro h b hb e he
    refine (allowed_line ((hbs b hb).keys e he) ((hbs b hb).values e he)).mp fun c hc => ?_
    refine h c b hb ?_
    simp only [Block.text, entriesText, List.mem_append, List.mem_cons, List.mem_flatMap]
    exact .inr (.inr (.inr ⟨e, he, .inr (.inr hc)⟩))
  · intro h c b hb hc
    simp only [Block.text, entriesText, List.mem_append, List.mem_cons, List.mem_flatMap] at hc
    rcases hc with hc | rfl | rfl | ⟨e, he, rfl | rfl | hc⟩
    · exact (hbs b hb).key.allowed c hc
    · rfl
    · rfl
    · rfl
    · rfl
    · exact (allowed_line ((hbs b hb).keys e he) ((hbs b hb).values e he)).mpr (h b hb e he) c hc

/-- A stream that starts with a word has no byte order mark. -/
theorem read_utf8 {cs : List Char} (h : StartsWord cs) :
    read (utf8 cs) = updateBuffer (utf8 cs) := by
  cases cs with
  | nil => rfl
  | cons c cs =>
    obtain ⟨-, hhigh⟩ := range_of_isAlphanum (h c rfl)
    have hoctets : String.utf8EncodeChar c = [c.toNat.toUInt8] := by
      have htoNat : c.val.toNat = c.toNat := rfl
      unfold String.utf8EncodeChar
      rw [htoNat, if_pos (by omega)]
    have hoctet : c.toNat.toUInt8.toNat < 0x80 := by
      simp
      omega
    rw [utf8_cons, hoctets]
    generalize c.toNat.toUInt8 = octet at hoctet
    generalize utf8 cs = raw
    rw [List.singleton_append]
    -- every byte order mark starts with an octet beyond ASCII
    unfold read
    split
    · next hmark =>
      cases hmark
      exact absurd hoctet (by decide)
    · next hmark =>
      cases hmark
      exact absurd hoctet (by decide)
    · next hmark =>
      cases hmark
      exact absurd hoctet (by decide)
    · rfl

/-- **A file of blocks is loaded** as the mapping of their contents, unless a character is not
    allowed or a value stops the scanner. -/
theorem loadInput_blocksText {bs : List Block} (hne : bs ≠ []) (hbs : ∀ b ∈ bs, b.Delimited)
    (hallowed : ∀ b ∈ bs, ∀ e ∈ b.entries, e.value.Allowed) :
    loadInput (utf8 (blocksText bs)) = (bs.mapM Block.contents).map (some ∘ blocksNode) := by
  have hbuffer : read (utf8 (blocksText bs)) = some (blocksText bs) := by
    rw [read_utf8 (startsWord_blocksText hbs), updateBuffer_utf8,
      if_pos (List.all_eq_true.mpr ((allowed_blocksText hbs).mpr hallowed))]
  have hload : loadInput (utf8 (blocksText bs)) = (scan (blocksText bs)).bind load := by
    rw [loadInput, hbuffer]
    rfl
  rw [hload, scan_blocksText hne hbs]
  cases bs.mapM Block.contents with
  | none => rfl
  | some c => exact load_streamTokens c

/-- What is loaded has only characters that are allowed. -/
theorem allowed_of_loadInput {bs : List Block} (hbs : ∀ b ∈ bs, b.Delimited)
    {root : Option Node} (h : loadInput (utf8 (blocksText bs)) = some root) :
    ∀ b ∈ bs, ∀ e ∈ b.entries, e.value.Allowed := by
  -- the reader gives up the whole input at a character that is not allowed
  refine (allowed_blocksText hbs).mp ?_
  by_contra hrefused
  have hread : read (utf8 (blocksText bs)) = none := by
    rw [read_utf8 (startsWord_blocksText hbs), updateBuffer_utf8,
      if_neg (fun hall => hrefused (List.all_eq_true.mp hall))]
  rw [loadInput, hread] at h
  cases h

end DarkMed.Yaml
