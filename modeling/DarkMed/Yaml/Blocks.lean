import DarkMed.Yaml.Lines

/-!
# Scanning Blocks

The scanner on a stream of blocks, each of them a key and indented entries.  The main
result gives the tokens of a whole stream, or that a value stops the scanner.
-/

namespace DarkMed.Yaml

/-! ## Blocks -/

structure Entry where
  key : List Char
  value : Scalar

def Entry.line (e : Entry) : List Char :=
  e.key ++ ':' :: ' ' :: (e.value.text ++ ['\n'])

structure Block where
  key : List Char
  entries : List Entry

/-- The entries, each on an indented line. -/
def entriesText (es : List Entry) : List Char :=
  es.flatMap fun e => ' ' :: ' ' :: e.line

def Block.text (b : Block) : List Char :=
  b.key ++ ':' :: '\n' :: entriesText b.entries

def blocksText (bs : List Block) : List Char :=
  bs.flatMap Block.text

structure Block.Delimited (b : Block) : Prop where
  key : Word b.key
  nonempty : b.entries ≠ []
  keys : ∀ e ∈ b.entries, Word e.key
  values : ∀ e ∈ b.entries, e.value.Delimited

/-! ## Contents -/

/-- An entry's key and value. -/
def Entry.contents (e : Entry) : Option (List Char × List Char) :=
  e.value.value.map fun v => (e.key, v)

def Block.contents (b : Block) : Option (List Char × List (List Char × List Char)) :=
  (b.entries.mapM Entry.contents).map fun kvs => (b.key, kvs)

def entryTokens (kv : List Char × List Char) : List Token :=
  [.key, .scalar kv.1, .value, .scalar kv.2]

/-- The tokens of a block up to its last entry; its end comes with the next line. -/
def openBlockTokens (b : List Char × List (List Char × List Char)) : List Token :=
  [.key, .scalar b.1, .value, .blockMappingStart] ++ b.2.flatMap entryTokens

def streamTokens (c : List (List Char × List (List Char × List Char))) : List Token :=
  .streamStart :: .blockMappingStart ::
    ((c.flatMap fun b => openBlockTokens b ++ [.blockEnd]) ++ [.blockEnd, .streamEnd])

/-! ## Runs -/

/-- How often a token is fetched for a block. -/
def Block.fetches (b : Block) : Nat :=
  3 * b.entries.length + 2

/-- The indentation of the line behind an entry, when these entries are left of its block. -/
def entriesColumn (es : List Entry) : Nat :=
  if es.isEmpty then 0 else 2

/-- The text of entries without the indentation of the first. -/
def entriesRest : List Entry → List Char
  | [] => []
  | e :: es => e.line ++ entriesText es

theorem entriesText_eq (es : List Entry) :
    entriesText es = List.replicate (entriesColumn es) ' ' ++ entriesRest es := by
  cases es with
  | nil => rfl
  | cons e es => simp [entriesText, entriesColumn, entriesRest, List.replicate]

theorem startsWord_entriesRest {es : List Entry} (hkeys : ∀ e ∈ es, Word e.key) {tail : List Char}
    (htail : StartsWord tail) : StartsWord (entriesRest es ++ tail) := by
  cases es with
  | nil => exact htail
  | cons e es =>
    rw [entriesRest, Entry.line, List.append_assoc, List.append_assoc]
    exact (hkeys e List.mem_cons_self).startsWord _

theorem startsWord_blocksText {bs : List Block} (hbs : ∀ b ∈ bs, b.Delimited) :
    StartsWord (blocksText bs) := by
  cases bs with
  | nil => exact fun c hc => absurd hc (by simp [blocksText])
  | cons b bs =>
    rw [blocksText, List.flatMap_cons, Block.text, List.append_assoc]
    exact (hbs b List.mem_cons_self).key.startsWord _

theorem streamEnd_not_mem_openBlockTokens (b : List Char × List (List Char × List Char)) :
    .streamEnd ∉ openBlockTokens b := by
  simp [openBlockTokens, entryTokens]

namespace Scanner

section Runs

variable {s : Scanner} {n : Nat} {tail : List Char} {tokens : List Token} {indent : Int}
  {indents : List Int}

theorem fetchTokens_succ (h : .streamEnd ∉ s.tokens) :
    fetchTokens (n + 1) s = s.fetchNextToken.bind (fetchTokens n) := by
  have hlast : s.tokens.getLast? ≠ some .streamEnd := fun hlast =>
    h (List.mem_of_getLast? hlast)
  rw [fetchTokens, if_neg (by simpa using hlast)]

/-- Where an entry may stand: first in its block, or behind another entry. -/
inductive InBlock : Int → List Int → List Token → Prop where
  | first : InBlock 0 [-1] [.blockMappingStart]
  | next : InBlock 2 [0, -1] []

/-- **An entry is scanned** in three tokens, up to the next word. -/
theorem fetchTokens_entry {e : Entry} {es : List Entry} {opening : List Token}
    (hkey : Word e.key) (hvalue : e.value.Delimited) (hkeys : ∀ e ∈ es, Word e.key)
    (htail : StartsWord tail) (hblock : InBlock indent indents opening)
    (hopen : .streamEnd ∉ tokens)
    (h : s.AtToken 2 (entriesRest (e :: es) ++ tail) tokens indent indents) :
    match e.contents with
    | none => fetchTokens (n + 3) s = none
    | some kv => ∃ t, fetchTokens (n + 3) s = fetchTokens n t ∧
        t.AtToken (entriesColumn es) (entriesRest es ++ tail)
          (tokens ++ opening ++ entryTokens kv) 2 [0, -1] := by
  have htext : entriesRest (e :: es) ++ tail = e.key ++ ':' :: (' ' :: (e.value.text ++
      '\n' :: (List.replicate (entriesColumn es) ' ' ++ (entriesRest es ++ tail)))) := by
    rw [entriesRest, entriesText_eq]
    simp [Entry.line]
  rw [htext] at h
  have hunroll : unroll (2 : Nat) indent indents tokens = (indent, indents, tokens) :=
    unroll_of_le (by cases hblock <;> decide)
  obtain ⟨s₁, s₂, hfirst, hsecond, htokens, hatValue⟩ :=
    fetchNextToken_key hkey (by rfl) h hunroll (by cases hblock <;> decide)
  -- the key has opened the block, if the entry is its first
  have hatValue : s₂.AtValue (' ' :: (e.value.text ++
      '\n' :: (List.replicate (entriesColumn es) ' ' ++ (entriesRest es ++ tail))))
      (tokens ++ opening ++ [.key, .scalar e.key, .value]) 2 [0, -1] := by
    cases hblock <;> simpa using hatValue
  have hopening : .streamEnd ∉ opening := by cases hblock <;> decide
  have hcolumn : (entriesColumn es : Int) ≤ 2 := by
    unfold entriesColumn
    split <;> decide
  have hthird := fetchNextToken_value hvalue (startsWord_entriesRest hkeys htail) hcolumn hatValue
  have hrun : fetchTokens (n + 3) s = s₂.fetchNextToken.bind (fetchTokens n) := by
    rw [fetchTokens_succ (by rwa [h.tokens]), hfirst, Option.bind_some,
      fetchTokens_succ (by simp [htokens, hopen]), hsecond, Option.bind_some,
      fetchTokens_succ (by simp [hatValue.tokens, hopen, hopening])]
  cases hv : e.value.value with
  | none =>
    rw [hv] at hthird
    simp [Entry.contents, hv, hrun, hthird]
  | some v =>
    rw [hv] at hthird
    obtain ⟨t, hfetch, hatToken⟩ := hthird
    simp only [Entry.contents, hv, Option.map_some]
    refine ⟨t, by rw [hrun, hfetch, Option.bind_some], ?_⟩
    simpa [entryTokens] using hatToken

/-- The entries behind the first one. -/
theorem fetchTokens_entries {es : List Entry} (hkeys : ∀ e ∈ es, Word e.key)
    (hvalues : ∀ e ∈ es, e.value.Delimited) (htail : StartsWord tail)
    (hopen : .streamEnd ∉ tokens)
    (h : s.AtToken (entriesColumn es) (entriesRest es ++ tail) tokens 2 [0, -1]) :
    match es.mapM Entry.contents with
    | none => fetchTokens (n + 3 * es.length) s = none
    | some kvs => ∃ t, fetchTokens (n + 3 * es.length) s = fetchTokens n t ∧
        t.AtToken 0 tail (tokens ++ kvs.flatMap entryTokens) 2 [0, -1] := by
  induction es generalizing s tokens with
  | nil => exact ⟨s, rfl, by simpa [entriesColumn, entriesRest] using h⟩
  | cons e es ih =>
    have hkeys' : ∀ e ∈ es, Word e.key := fun d hd => hkeys d (List.mem_cons_of_mem _ hd)
    have hfuel : n + 3 * (e :: es).length = (n + 3 * es.length) + 3 := by
      rw [List.length_cons]
      omega
    have hentry := @fetchTokens_entry s (n + 3 * es.length) tail tokens 2 [0, -1] e es []
      (hkeys e List.mem_cons_self) (hvalues e List.mem_cons_self) hkeys' htail .next hopen h
    rw [hfuel, List.mapM_cons]
    cases hkv : e.contents with
    | none => simpa [hkv] using hentry
    | some kv =>
      rw [hkv] at hentry
      obtain ⟨t, hrun, hatToken⟩ := hentry
      have hih := ih hkeys' (fun d hd => hvalues d (List.mem_cons_of_mem _ hd))
        (by simp [hopen, entryTokens]) hatToken
      cases hkvs : es.mapM Entry.contents with
      | none => simpa [hkv, hkvs, hrun] using hih
      | some kvs =>
        rw [hkvs] at hih
        obtain ⟨u, hrun', hatToken'⟩ := hih
        refine ⟨u, by rw [hrun, hrun'], ?_⟩
        simpa [List.flatMap_cons] using hatToken'

/-- A value on the next lines is a block of its own. -/
theorem AtValue.atToken {column : Nat} {rest : List Char} (hrest : StartsWord rest)
    (h : s.AtValue ('\n' :: (List.replicate column ' ' ++ rest)) tokens indent indents) :
    s.AtToken column rest tokens indent indents := by
  obtain ⟨m, hm, hline⟩ := @skipToNextToken_line s.simpleKeyAllowed column s.mark rest hrest
  refine ⟨⟨m, hm, ?_⟩, h.produced, h.noKey, h.tokens, h.indent, h.indents⟩
  rw [h.buffer, hline]

/-- Where a block may stand: first in its stream, or behind another block. -/
inductive InStream : Int → List Int → List Token → Prop where
  | first : InStream (-1) [] [.blockMappingStart]
  | next : InStream 2 [0, -1] [.blockEnd]

/-- **A block is scanned** up to the next word. -/
theorem fetchTokens_block {b : Block} {opening : List Token} (hb : b.Delimited)
    (htail : StartsWord tail) (hstream : InStream indent indents opening)
    (hopen : .streamEnd ∉ tokens)
    (h : s.AtToken 0 (b.text ++ tail) tokens indent indents) :
    match b.contents with
    | none => fetchTokens (n + b.fetches) s = none
    | some c => ∃ t, fetchTokens (n + b.fetches) s = fetchTokens n t ∧
        t.AtToken 0 tail (tokens ++ opening ++ openBlockTokens c) 2 [0, -1] := by
  have htext : b.text ++ tail = b.key ++ ':' ::
      ('\n' :: (List.replicate (entriesColumn b.entries) ' ' ++
        (entriesRest b.entries ++ tail))) := by
    rw [Block.text, entriesText_eq]
    simp
  rw [htext] at h
  obtain ⟨e, es, hentries⟩ := List.exists_cons_of_ne_nil hb.nonempty
  have hkeys := hb.keys
  have hvalues := hb.values
  rw [hentries] at h hkeys hvalues
  -- behind another block, the first column ends that block
  obtain ⟨indent', indents', tokens', hunroll, hindent, hopened, hopening⟩ :
      ∃ indent' indents' tokens',
        unroll (0 : Nat) indent indents tokens = (indent', indents', tokens') ∧
        indent' ≤ 0 ∧ (if indent' < 0 then indent' :: indents' else indents') = [-1] ∧
        tokens' ++ (if indent' < 0 then [.blockMappingStart] else []) = tokens ++ opening := by
    cases hstream with
    | first => exact ⟨-1, [], tokens, rfl, by decide, rfl, rfl⟩
    | next => exact ⟨0, [-1], tokens ++ [.blockEnd], rfl, by decide, rfl, by simp⟩
  obtain ⟨s₁, s₂, hfirst, hsecond, htokens, hatValue⟩ :=
    fetchNextToken_key hb.key (by rfl) h hunroll (by exact_mod_cast hindent)
  have htokens' : .streamEnd ∉ tokens' := by
    have hkept : .streamEnd ∉ tokens ++ opening := by
      cases hstream <;> simp [hopen]
    rw [← hopening] at hkept
    exact fun hmem => hkept (List.mem_append_left _ hmem)
  -- the first entry opens the block of the key's value
  have hatToken : s₂.AtToken 2 (entriesRest (e :: es) ++ tail)
      (tokens ++ opening ++ [.key, .scalar b.key, .value]) 0 [-1] := by
    rw [← hopened, ← hopening]
    exact AtValue.atToken (startsWord_entriesRest hkeys htail) hatValue
  have hkeys' : ∀ e ∈ es, Word e.key := fun d hd => hkeys d (List.mem_cons_of_mem _ hd)
  have hvalues' : ∀ e ∈ es, e.value.Delimited := fun d hd => hvalues d (List.mem_cons_of_mem _ hd)
  have hopen' : .streamEnd ∉ tokens ++ opening ++ [.key, .scalar b.key, .value] := by
    cases hstream <;> simp [hopen]
  have hrun : fetchTokens (n + b.fetches) s = fetchTokens (n + 3 * es.length + 3) s₂ := by
    have hfuel : n + b.fetches = n + 3 * es.length + 3 + 1 + 1 := by
      rw [Block.fetches, hentries, List.length_cons]
      omega
    rw [hfuel, fetchTokens_succ (by rwa [h.tokens]), hfirst, Option.bind_some,
      fetchTokens_succ (by simp [htokens, htokens']), hsecond, Option.bind_some]
  have hentry := @fetchTokens_entry s₂ (n + 3 * es.length) tail _ 0 [-1] e es [.blockMappingStart]
    (hkeys e List.mem_cons_self) (hvalues e List.mem_cons_self) hkeys' htail .first hopen' hatToken
  simp only [Block.contents, hentries, List.mapM_cons, hrun]
  cases hkv : e.contents with
  | none => simpa [hkv] using hentry
  | some kv =>
    rw [hkv] at hentry
    obtain ⟨t, hrun', hatToken'⟩ := hentry
    have hrest := @fetchTokens_entries t n tail _ es hkeys' hvalues' htail
      (by cases hstream <;> simp [hopen, entryTokens]) hatToken'
    cases hkvs : es.mapM Entry.contents with
    | none => simpa [hkv, hkvs, hrun'] using hrest
    | some kvs =>
      rw [hkvs] at hrest
      obtain ⟨u, hrun'', hatToken''⟩ := hrest
      refine ⟨u, by rw [hrun', hrun''], ?_⟩
      simpa [openBlockTokens] using hatToken''

/-- **Blocks behind the first one.** The end of the last block is still to come. -/
theorem fetchTokens_blocks {bs : List Block} (hbs : ∀ b ∈ bs, b.Delimited)
    (hopen : .streamEnd ∉ tokens) (h : s.AtToken 0 (blocksText bs) tokens 2 [0, -1]) :
    match bs.mapM Block.contents with
    | none => fetchTokens (n + (bs.map Block.fetches).sum) s = none
    | some c => ∃ t closed, fetchTokens (n + (bs.map Block.fetches).sum) s = fetchTokens n t ∧
        t.AtToken 0 [] closed 2 [0, -1] ∧ .streamEnd ∉ closed ∧
        closed ++ [.blockEnd] =
          tokens ++ [.blockEnd] ++ c.flatMap fun b => openBlockTokens b ++ [.blockEnd] := by
  induction bs generalizing s tokens with
  | nil => exact ⟨s, tokens, rfl, h, hopen, by simp⟩
  | cons b bs ih =>
    have hbs' : ∀ b ∈ bs, b.Delimited := fun d hd => hbs d (List.mem_cons_of_mem _ hd)
    have hfuel : n + ((b :: bs).map Block.fetches).sum =
        n + (bs.map Block.fetches).sum + b.fetches := by
      rw [List.map_cons, List.sum_cons]
      omega
    have hblock := @fetchTokens_block s (n + (bs.map Block.fetches).sum) (blocksText bs) tokens 2
      [0, -1] b [.blockEnd] (hbs b List.mem_cons_self) (startsWord_blocksText hbs') .next hopen h
    rw [hfuel, List.mapM_cons]
    cases hc : b.contents with
    | none => simpa [hc] using hblock
    | some c =>
      rw [hc] at hblock
      obtain ⟨t, hrun, hatToken⟩ := hblock
      have hih := ih hbs' (by simp [hopen, streamEnd_not_mem_openBlockTokens]) hatToken
      cases hcs : bs.mapM Block.contents with
      | none => simpa [hc, hcs, hrun] using hih
      | some cs =>
        rw [hcs] at hih
        obtain ⟨u, closed, hrun', hend, hclosed, htokens⟩ := hih
        refine ⟨u, closed, by rw [hrun, hrun'], hend, hclosed, ?_⟩
        simpa [List.flatMap_cons] using htokens

/-- Behind the last block, its end and the stream's are left. -/
theorem fetchTokens_end (hopen : .streamEnd ∉ tokens) (h : s.AtToken 0 [] tokens 2 [0, -1]) :
    fetchTokens (n + 2) s = some (tokens ++ [.blockEnd, .blockEnd, .streamEnd]) := by
  obtain ⟨m, hm, hskip⟩ := h.next
  have hunroll : unroll m.column s.indent s.indents s.tokens =
      (0, [-1], tokens ++ [.blockEnd]) := by
    rw [hm, h.indent, h.indents, h.tokens]
    rfl
  -- the first column ends the last block, and the end of the stream the mapping
  rw [fetchTokens_succ (by rwa [h.tokens]),
    fetchNextToken_eq h.produced hskip (by simp [h.noKey]) hunroll]
  simp [fetchToken, fetchStreamEnd, unrollIndent, unroll, removeSimpleKey, h.noKey, hm, fetchTokens]

end Runs

end Scanner

/-! ## Streams -/

/-- Every fetch for a block is paid with a character of it. -/
theorem Block.fetches_le (b : Block) : b.fetches ≤ b.text.length := by
  have hentries : ∀ es : List Entry, 3 * es.length ≤ (entriesText es).length := by
    intro es
    induction es with
    | nil => exact Nat.le_refl _
    | cons e es ih =>
      simp only [entriesText, List.flatMap_cons, Entry.line, List.length_append, List.length_cons]
        at ih ⊢
      omega
  have hb := hentries b.entries
  simp only [Block.fetches, Block.text, List.length_append, List.length_cons]
  omega

theorem fetches_le (bs : List Block) :
    (bs.map Block.fetches).sum ≤ (blocksText bs).length := by
  induction bs with
  | nil => exact Nat.le_refl _
  | cons b bs ih =>
    have hb := b.fetches_le
    simp only [blocksText, List.flatMap_cons, List.length_append, List.map_cons, List.sum_cons]
      at ih ⊢
    omega

/-- **A stream of blocks is scanned** to the tokens of its contents, unless a value stops the
    scanner. -/
theorem scan_blocksText {bs : List Block} (hne : bs ≠ []) (hbs : ∀ b ∈ bs, b.Delimited) :
    scan (blocksText bs) = (bs.mapM Block.contents).map streamTokens := by
  obtain ⟨b, bs, rfl⟩ := List.exists_cons_of_ne_nil hne
  have hbs' : ∀ b ∈ bs, b.Delimited := fun d hd => hbs d (List.mem_cons_of_mem _ hd)
  -- the fuel of `scan` pays for every fetch of the blocks
  obtain ⟨n, hfuel⟩ : ∃ n, (blocksText (b :: bs)).length + 3 =
      n + 2 + (bs.map Block.fetches).sum + b.fetches + 1 := by
    have hle := fetches_le (b :: bs)
    rw [List.map_cons, List.sum_cons] at hle
    exact ⟨(blocksText (b :: bs)).length - ((bs.map Block.fetches).sum + b.fetches), by omega⟩
  have hstart : Scanner.AtToken (Scanner.fetchStreamStart { buffer := blocksText (b :: bs) }) 0
      (b.text ++ blocksText bs) [.streamStart] (-1) [] :=
    ⟨⟨{}, rfl, skipToNextToken_word (startsWord_blocksText hbs)⟩, rfl, rfl, rfl, rfl, rfl⟩
  have hfirst := @Scanner.fetchTokens_block _ (n + 2 + (bs.map Block.fetches).sum) (blocksText bs)
    _ _ _ b _ (hbs b List.mem_cons_self) (startsWord_blocksText hbs') .first (by simp) hstart
  have hrun : scan (blocksText (b :: bs)) =
      Scanner.fetchTokens (n + 2 + (bs.map Block.fetches).sum + b.fetches)
        (Scanner.fetchStreamStart { buffer := blocksText (b :: bs) }) := by
    rw [scan, hfuel, Scanner.fetchTokens_succ (by simp)]
    rfl
  rw [hrun, List.mapM_cons]
  cases hc : b.contents with
  | none => simpa [hc] using hfirst
  | some c =>
    rw [hc] at hfirst
    obtain ⟨t, hrun', hatToken⟩ := hfirst
    have hrest := @Scanner.fetchTokens_blocks t (n + 2) _ bs hbs'
      (by simp [streamEnd_not_mem_openBlockTokens]) hatToken
    rw [hrun']
    cases hcs : bs.mapM Block.contents with
    | none => simpa [hcs] using hrest
    | some cs =>
      rw [hcs] at hrest
      obtain ⟨u, closed, hrun'', hend, hclosed, htokens⟩ := hrest
      -- one end is the last block's, the other one the whole mapping's
      have hlast : closed ++ [.blockEnd, .blockEnd, .streamEnd] =
          (closed ++ [.blockEnd]) ++ [.blockEnd, .streamEnd] := by simp
      rw [hrun'', Scanner.fetchTokens_end hclosed hend, hlast, htokens]
      simp [streamTokens, List.flatMap_cons]

end DarkMed.Yaml
