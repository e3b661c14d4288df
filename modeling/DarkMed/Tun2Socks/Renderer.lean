import DarkMed.Lib.Unicode
import DarkMed.Yaml.Blocks

/-!
# The tun2socks Renderer

`Tun2SocksConfigRenderer.render` of `Tun2SocksConfigWriter.kt`, and the blocks of scalars that
its text is made of.  The renderer doubles the quotes of the strings that it splices into
single-quoted scalars, and rejects line feeds, carriage returns and NUL in them.
-/

namespace DarkMed.Tun2Socks

open DarkMed.Lib

/-! ## Configuration -/

/-- `data class Tun2SocksConfig`, with its default arguments. -/
structure Tun2SocksConfig where
  socksAddress : JString := ascii "127.0.0.1"
  socksPort : Int := 9050
  socksUsername : Option JString := none
  socksPassword : Option JString := none
  mtu : Int := 1500
  ipv4Address : JString := ascii "198.18.0.1"
  ipv6Address : JString := ascii "fc00::1"
  udpMode : JString := ascii "tcp"

/-! ## Renderer -/

def safeScalar (value : JString) : Bool :=
  !value.contains 0x0A && !value.contains 0x0D && !value.contains 0x00

/-- `value.replace("'", "''")` -/
def escape (value : JString) : JString :=
  value.flatMap fun c => if c = 0x27 then [0x27, 0x27] else [c]

def appendLine (value : JString) : JString :=
  value ++ ascii "\n"

/-- `config.socksUsername?.let { … }`; a user name comes with a password, as `render` checks
    before. -/
def buildCredentials (config : Tun2SocksConfig) : JString :=
  match config.socksUsername with
  | some it =>
    appendLine (ascii "  username: '" ++ escape it ++ ascii "'") ++
    appendLine (ascii "  password: '" ++ escape (config.socksPassword.getD []) ++ ascii "'")
  | none => []

/-- The text that `buildString` builds. -/
def build (config : Tun2SocksConfig) : JString :=
  appendLine (ascii "tunnel:") ++
  appendLine (ascii "  name: tun0") ++
  appendLine (ascii "  mtu: " ++ decimal config.mtu) ++
  appendLine (ascii "  multi-queue: false") ++
  appendLine (ascii "  ipv4: '" ++ escape config.ipv4Address ++ ascii "'") ++
  appendLine (ascii "  ipv6: '" ++ escape config.ipv6Address ++ ascii "'") ++
  appendLine (ascii "  icmp: 'off'") ++
  appendLine (ascii "socks5:") ++
  appendLine (ascii "  address: '" ++ escape config.socksAddress ++ ascii "'") ++
  appendLine (ascii "  port: " ++ decimal config.socksPort) ++
  -- the only string spliced in without `escape`; `render` allows it two values
  appendLine (ascii "  udp: '" ++ config.udpMode ++ ascii "'") ++
  buildCredentials config ++
  appendLine (ascii "misc:") ++
  appendLine (ascii "  log-level: warn")

/-- `Tun2SocksConfigRenderer.render` -/
def render (config : Tun2SocksConfig) : Except String JString := do
  require (config.socksAddress.isNotBlank && safeScalar config.socksAddress)
    "SOCKS address is invalid"
  require (1 ≤ config.socksPort && config.socksPort ≤ 65535) "SOCKS port is invalid"
  require (576 ≤ config.mtu && config.mtu ≤ 9000) "MTU is invalid"
  require (config.ipv4Address.isNotBlank && safeScalar config.ipv4Address)
    "IPv4 address is invalid"
  require (config.ipv6Address.isNotBlank && safeScalar config.ipv6Address)
    "IPv6 address is invalid"
  require (config.udpMode == ascii "tcp" || config.udpMode == ascii "udp") "UDP mode is invalid"
  require (config.socksUsername.isNone == config.socksPassword.isNone)
    "SOCKS credentials must be provided together"
  require (config.socksUsername.all safeScalar) "SOCKS username is invalid"
  require (config.socksPassword.all safeScalar) "SOCKS password is invalid"
  return build config

/-- What `render` has checked. -/
structure Accepted (config : Tun2SocksConfig) : Prop where
  socksAddress : safeScalar config.socksAddress = true
  socksPort : 1 ≤ config.socksPort ∧ config.socksPort ≤ 65535
  mtu : 576 ≤ config.mtu ∧ config.mtu ≤ 9000
  ipv4Address : safeScalar config.ipv4Address = true
  ipv6Address : safeScalar config.ipv6Address = true
  udpMode : config.udpMode = ascii "tcp" ∨ config.udpMode = ascii "udp"
  together : config.socksUsername.isNone = config.socksPassword.isNone
  socksUsername : ∀ it ∈ config.socksUsername, safeScalar it = true
  socksPassword : ∀ it ∈ config.socksPassword, safeScalar it = true

/-- Only an accepted configuration is rendered, and its text is that of `build`. -/
theorem render_eq_ok {config : Tun2SocksConfig} {text : JString} (h : render config = .ok text) :
    Accepted config ∧ text = build config := by
  unfold render at h
  obtain ⟨haddress, h⟩ := require_bind_eq_ok h
  obtain ⟨hport, h⟩ := require_bind_eq_ok h
  obtain ⟨hmtu, h⟩ := require_bind_eq_ok h
  obtain ⟨hipv4, h⟩ := require_bind_eq_ok h
  obtain ⟨hipv6, h⟩ := require_bind_eq_ok h
  obtain ⟨hudp, h⟩ := require_bind_eq_ok h
  obtain ⟨htogether, h⟩ := require_bind_eq_ok h
  obtain ⟨husername, h⟩ := require_bind_eq_ok h
  obtain ⟨hpassword, h⟩ := require_bind_eq_ok h
  cases h
  simp only [Bool.and_eq_true, Bool.or_eq_true, beq_iff_eq, decide_eq_true_eq,
    Option.all_eq_true] at haddress hport hmtu hipv4 hipv6 hudp htogether husername hpassword
  exact ⟨⟨haddress.2, hport, hmtu, hipv4.2, hipv6.2, hudp, htogether, husername, hpassword⟩, rfl⟩

/-! ## Written texts -/

/-- The text is ASCII. -/
def isAscii (s : String) : Bool :=
  s.toList.all fun c => c.toNat < 0x80

theorem written_cons {c : Char} (hc : c.toNat < 0x80) (t : JString) :
    JString.written (c.toNat.toUInt16 :: t) = c :: t.written := by
  have hsmall : c.toNat.toUInt16.toNat = c.toNat := by
    simp
    omega
  have hbelow : c.toNat.toUInt16 < 0xD800 := by
    rw [UInt16.lt_iff_toNat_lt, hsmall]
    exact lt_trans hc (by decide)
  have hhigh : isHighSurrogate c.toNat.toUInt16 = false := by
    simp [isHighSurrogate, UInt16.not_le.mpr hbelow]
  have hlow : isLowSurrogate c.toNat.toUInt16 = false := by
    have hbelow' : c.toNat.toUInt16 < 0xDC00 := UInt16.lt_trans hbelow (by decide)
    simp [isLowSurrogate, UInt16.not_le.mpr hbelow']
  rw [JString.written, JString.chars_cons hhigh hlow, hsmall, Char.ofNat_toNat]
  rfl

theorem written_map_append {cs : List Char} (hcs : ∀ c ∈ cs, c.toNat < 0x80) (t : JString) :
    JString.written ((cs.map fun c => c.toNat.toUInt16) ++ t) = cs ++ t.written := by
  induction cs with
  | nil => rfl
  | cons c cs ih =>
    rw [List.map_cons, List.cons_append, written_cons (hcs c List.mem_cons_self),
      ih fun d hd => hcs d (List.mem_cons_of_mem c hd)]
    rfl

/-- A literal of the renderer is written as it stands, whatever follows. -/
theorem written_ascii_append {s : String} (hs : isAscii s = true) (t : JString) :
    JString.written (ascii s ++ t) = s.toList ++ t.written := by
  refine written_map_append (fun c hc => ?_) t
  simpa using List.all_eq_true.mp hs c hc

/-- A number is written in decimal digits. -/
theorem written_digits_append (n : Nat) (t : JString) :
    JString.written (digits n ++ t) = Nat.toDigits 10 n ++ t.written := by
  refine written_map_append (fun c hc => ?_) t
  have hdigit : c.isDigit = true := Nat.isDigit_of_mem_toDigits (by decide) (by decide) hc
  have hrange : 48 ≤ c.toNat ∧ c.toNat ≤ 57 := by
    simpa [Char.isDigit, UInt32.le_iff_toNat_le] using hdigit
  omega

/-! ## Doubled quotes -/

theorem escape_cons (c : UInt16) (value : JString) :
    escape (c :: value) = (if c = 0x27 then [0x27, 0x27] else [c]) ++ escape value :=
  List.flatMap_cons

/-- An escaped string starts with the code unit that the string starts with. -/
theorem exists_escape_cons (c : UInt16) (value : JString) :
    ∃ tail, escape (c :: value) = c :: tail := by
  rw [escape_cons]
  split
  · next hquote => exact ⟨_, by rw [hquote]; rfl⟩
  · exact ⟨_, rfl⟩

theorem toNat_of_ofNat_eq {n : Nat} {c : Char} (hc : c.toNat ≠ 0) (h : Char.ofNat n = c) :
    n = c.toNat := by
  by_cases hvalid : n.isValidChar
  · have hchar : Char.ofNat n = Char.ofNatAux n hvalid := dif_pos hvalid
    exact congrArg Char.toNat (hchar.symm.trans h)
  · have hzero : (Char.ofNat n).toNat = 0 := congrArg Char.toNat (dif_neg hvalid)
    rw [h] at hzero
    exact absurd hzero hc

/-- Only its own code unit is written as a character, but for the question mark. -/
theorem unitChar_eq {u : UInt16} {c : Char} (hc : c.toNat ≠ 0) (hmark : c ≠ '?')
    (h : (unitChar u).getD '?' = c) : u = c.toNat.toUInt16 := by
  unfold unitChar at h
  split at h
  · exact absurd h.symm hmark
  · rw [← toNat_of_ofNat_eq hc h]
    simp

/-- A surrogate pair never writes a character of the first plane. -/
theorem supplementary_ne {c : Char} (hc : c.toNat ≠ 0) (hlow : c.toNat < 0x10000)
    (high low : UInt16) : supplementary high low ≠ c := by
  intro h
  have hnat := toNat_of_ofNat_eq hc h
  omega

/-- An ASCII character of the text is one of the string, but for the question mark. -/
theorem mem_of_mem_written {c : Char} (hc : c.toNat ≠ 0) (hlow : c.toNat < 0x10000)
    (hmark : c ≠ '?') {value : JString} (h : c ∈ value.written) : c.toNat.toUInt16 ∈ value := by
  obtain ⟨o, ho, heq⟩ := List.mem_map.mp h
  clear h
  induction value using JString.chars.induct with
  | case1 => cases ho
  | case2 u =>
    rw [List.mem_singleton.mp ho] at heq
    exact List.mem_singleton.mpr (unitChar_eq hc hmark heq).symm
  | case3 u l s hpair ih =>
    rw [JString.chars, if_pos (by simpa using hpair)] at ho
    rcases List.mem_cons.mp ho with hpaired | ho
    · -- a pair is written as a character beyond the first plane
      rw [hpaired, Option.getD_some] at heq
      exact absurd heq (supplementary_ne hc hlow u l)
    · exact List.mem_cons_of_mem u (List.mem_cons_of_mem l (ih ho))
  | case4 u l s hpair ih =>
    rw [JString.chars, if_neg (by simpa using hpair)] at ho
    rcases List.mem_cons.mp ho with rfl | ho
    · rw [unitChar_eq hc hmark heq]
      exact List.mem_cons_self
    · exact List.mem_cons_of_mem u (ih ho)

theorem escape_cons_of_ne {c : UInt16} (hc : c ≠ 0x27) (value : JString) :
    escape (c :: value) = c :: escape value := by
  rw [escape_cons, if_neg hc]
  rfl

theorem doubled_cons_of_ne {c : Char} (hc : c ≠ '\'') (cs : List Char) :
    Yaml.doubled (c :: cs) = c :: Yaml.doubled cs := by
  rw [Yaml.doubled_cons, if_neg (by simpa using hc)]
  rfl

/-- A code unit that is half of no pair is written by itself. -/
theorem written_cons_of_not_pair {u : UInt16} {s : JString}
    (h : ∀ l ∈ s.head?, (isHighSurrogate u && isLowSurrogate l) = false) :
    JString.written (u :: s) = (unitChar u).getD '?' :: s.written := by
  cases s with
  | nil => rfl
  | cons l s =>
    have hpair := h l rfl
    simp [JString.written, JString.chars, hpair]

/-- The quote that `escape` doubles is half of no pair. -/
theorem quote_not_surrogate :
    isHighSurrogate 0x27 = false ∧ isLowSurrogate 0x27 = false := by
  decide

/-- Doubling the quotes of the string doubles those of the text. -/
theorem written_escape (value : JString) :
    (escape value).written = Yaml.doubled value.written := by
  -- by the characters that are written: a quote is half of no surrogate pair, so that doubling it
  -- leaves all pairs as they are
  induction value using JString.chars.induct with
  | case1 => rfl
  | case2 u =>
    by_cases hquote : u = 0x27
    · subst hquote
      decide
    · have hchar : (unitChar u).getD '?' ≠ '\'' := fun h =>
        hquote (unitChar_eq (by decide) (by decide) h)
      have hsingle : JString.written [u] = [(unitChar u).getD '?'] := rfl
      rw [escape_cons_of_ne hquote, hsingle, doubled_cons_of_ne hchar]
      exact hsingle
  | case3 u l s hpair ih =>
    -- neither half of a pair is doubled
    simp only [Bool.and_eq_true] at hpair
    have hhigh : u ≠ 0x27 := by
      rintro rfl
      exact Bool.noConfusion (quote_not_surrogate.1.symm.trans hpair.1)
    have hlow : l ≠ 0x27 := by
      rintro rfl
      exact Bool.noConfusion (quote_not_surrogate.2.symm.trans hpair.2)
    rw [escape_cons_of_ne hhigh, escape_cons_of_ne hlow]
    have hwritten : ∀ t : JString,
        JString.written (u :: l :: t) = supplementary u l :: t.written := by
      intro t
      have hchars : JString.chars (u :: l :: t) = some (supplementary u l) :: t.chars := by
        rw [JString.chars, if_pos (by simpa using hpair)]
      rw [JString.written, hchars, List.map_cons, Option.getD_some, JString.written]
    rw [hwritten, hwritten, doubled_cons_of_ne (supplementary_ne (by decide) (by decide) u l), ih]
  | case4 u l s hpair ih =>
    have hsingle : ∀ t : JString, JString.written (u :: l :: t) =
        (unitChar u).getD '?' :: JString.written (l :: t) := by
      intro t
      refine written_cons_of_not_pair ?_
      rintro _ ⟨⟩
      simpa using hpair
    -- what follows still starts with `l`, doubled or not
    obtain ⟨tail, htail⟩ := exists_escape_cons l s
    by_cases hquote : u = 0x27
    · subst hquote
      have hquotes : JString.written (0x27 :: 0x27 :: escape (l :: s)) =
          '\'' :: '\'' :: (escape (l :: s)).written := by
        have hquote : (unitChar 0x27).getD '?' = '\'' := by decide
        rw [written_cons_of_not_pair (by simp [quote_not_surrogate]),
          written_cons_of_not_pair (by simp [quote_not_surrogate]), hquote]
      rw [escape_cons, if_pos rfl, hsingle, Yaml.doubled_cons, ← ih]
      exact hquotes
    · have hchar : (unitChar u).getD '?' ≠ '\'' := fun h =>
        hquote (unitChar_eq (by decide) (by decide) h)
      rw [escape_cons_of_ne hquote, hsingle, doubled_cons_of_ne hchar, ← ih, htail, hsingle]

/-! ## Blocks of the text -/

/-- An entry with a string of the configuration, on whose scalar the quotes are doubled. -/
def quotedEntry (key : String) (value : JString) : Yaml.Entry :=
  ⟨key.toList, .quoted value.written⟩

def plainEntry (key : String) (value : List Char) : Yaml.Entry :=
  ⟨key.toList, .plain value⟩

/-- The two entries of the credentials. -/
def credentials (config : Tun2SocksConfig) : List Yaml.Entry :=
  match config.socksUsername with
  | some it =>
    [quotedEntry "username" it, quotedEntry "password" (config.socksPassword.getD [])]
  | none => []

def blocks (config : Tun2SocksConfig) : List Yaml.Block :=
  [⟨"tunnel".toList,
      [plainEntry "name" "tun0".toList,
        plainEntry "mtu" (Nat.toDigits 10 config.mtu.toNat),
        plainEntry "multi-queue" "false".toList,
        quotedEntry "ipv4" config.ipv4Address,
        quotedEntry "ipv6" config.ipv6Address,
        quotedEntry "icmp" (ascii "off")]⟩,
    ⟨"socks5".toList,
      [quotedEntry "address" config.socksAddress,
        plainEntry "port" (Nat.toDigits 10 config.socksPort.toNat),
        quotedEntry "udp" config.udpMode] ++ credentials config⟩,
    ⟨"misc".toList, [plainEntry "log-level" "warn".toList]⟩]

/-- A string between its quotes. -/
theorem written_escape_append (value t : JString) :
    JString.written (escape value ++ (ascii "'" ++ t)) =
      Yaml.doubled value.written ++ '\'' :: t.written := by
  have hhead : ∀ u ∈ (ascii "'" ++ t).head?, isLowSurrogate u = false := by
    rintro _ ⟨⟩
    exact quote_not_surrogate.2
  rw [JString.written_append hhead, written_escape, written_ascii_append (by decide)]
  rfl

theorem decimal_of_pos {n : Int} (h : 1 ≤ n) : decimal n = digits n.toNat := by
  obtain ⟨m, rfl⟩ := Int.eq_ofNat_of_zero_le (by omega : 0 ≤ n)
  rfl

/-- The credentials are two more entries of the section `socks5`, or none. -/
theorem written_buildCredentials (config : Tun2SocksConfig) (t : JString) :
    JString.written (buildCredentials config ++ t) =
      Yaml.entriesText (credentials config) ++ t.written := by
  unfold buildCredentials credentials
  -- the renderer looks at the name only
  cases config.socksUsername with
  | none => rfl
  | some it =>
    simp (disch := decide) only [appendLine, List.append_assoc, written_ascii_append,
      written_escape_append]
    simp [Yaml.entriesText, Yaml.Entry.line, quotedEntry, Yaml.Scalar.text]

/-- The mode is one of two texts, neither of them with a quote. -/
theorem exists_udpMode {config : Tun2SocksConfig} (h : Accepted config) :
    ∃ mode, isAscii mode = true ∧ config.udpMode = ascii mode ∧
      Yaml.doubled config.udpMode.written = mode.toList := by
  rcases h.udpMode with hmode | hmode
  · exact ⟨"tcp", by decide, hmode, by rw [hmode]; decide⟩
  · exact ⟨"udp", by decide, hmode, by rw [hmode]; decide⟩

/-- **The rendered text is the text of the blocks.** -/
theorem written_build {config : Tun2SocksConfig} (h : Accepted config) :
    (build config).written = Yaml.blocksText (blocks config) := by
  have hmtu : decimal config.mtu = digits config.mtu.toNat :=
    decimal_of_pos (le_trans (by decide) h.mtu.1)
  have hport := decimal_of_pos h.socksPort.1
  obtain ⟨mode, hascii, hmode, hdoubled⟩ := exists_udpMode h
  have hoff : Yaml.doubled (JString.written (ascii "off")) = "off".toList := by decide
  have hend : JString.written [] = [] := rfl
  have hmodeText := written_ascii_append hascii
  unfold build
  -- every rewrite below takes the text that follows as its second operand
  rw [← List.append_nil (_ ++ appendLine (ascii "  log-level: warn"))]
  simp (disch := decide) only [appendLine, List.append_assoc, written_ascii_append,
    written_escape_append, written_buildCredentials, written_digits_append, hmtu, hport, hmode,
    hmodeText, hend]
  rw [hmode] at hdoubled
  simp [blocks, Yaml.blocksText, Yaml.Block.text, Yaml.entriesText, Yaml.Entry.line, quotedEntry,
    plainEntry, Yaml.Scalar.text, hmode, hdoubled, hoff]

end DarkMed.Tun2Socks
