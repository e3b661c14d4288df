import DarkMed.Tun2Socks.Config
import DarkMed.Tun2Socks.Renderer

/-!
# Renderer and Tunnel

What the tunnel loads from a rendered configuration.  Every string of the configuration goes
through UTF-8, libyaml's reader, a single-quoted scalar and a buffer of fixed size, and each of
these can change or refuse it.
-/

namespace DarkMed.Tun2Socks

open DarkMed.Lib DarkMed.Yaml

/-! ## Agreement -/

/-- The C string is the string. -/
def Holds (value : JString) (loaded : CString) : Prop :=
  value.Paired ∧ loaded = utf8 value.written

/-- The C string is the string, or neither is there. -/
def HoldsOptional (value : Option JString) (loaded : Option CString) : Prop :=
  match value, loaded with
  | some value, some loaded => Holds value loaded
  | none, none => True
  | _, _ => False

/-- The tunnel has the configured values. -/
structure Agrees (config : Tun2SocksConfig) (loaded : HevConfig) : Prop where
  addr : Holds config.socksAddress loaded.srv.addr
  port : (loaded.srv.port : Int) = config.socksPort
  udp : loaded.srv.udpInUdp = true ↔ config.udpMode = ascii "udp"
  user : HoldsOptional config.socksUsername loaded.srv.user
  pass : HoldsOptional config.socksPassword loaded.srv.pass
  mtu : (loaded.tunMtu : Int) = config.mtu
  ipv4 : Holds config.ipv4Address loaded.tunIpv4Address
  ipv6 : Holds config.ipv6Address loaded.tunIpv6Address

/-- A string comes through its single-quoted scalar and a buffer for `limit` bytes. -/
structure ComesThrough (value : JString) (limit : Nat) : Prop where
  paired : value.Paired
  allowed : ∀ c ∈ value.written, allowed c.toNat = true
  intact : Intact value.written
  fits : (utf8 value.written).length ≤ limit

/-- The strings of a configuration, with the limits of their buffers. -/
def strings (config : Tun2SocksConfig) : List (JString × Nat) :=
  [(config.ipv4Address, 15), (config.ipv6Address, 63), (config.socksAddress, 255)] ++
    (config.socksUsername.toList ++ config.socksPassword.toList).map (·, 255)

/-! ## Scalars of the rendered text -/

/-- What `safeScalar` accepts is written on one line. -/
theorem notMem_written_of_safeScalar {value : JString} (h : safeScalar value = true) :
    '\n' ∉ value.written ∧ '\r' ∉ value.written := by
  simp only [safeScalar, JString.contains, Bool.and_eq_true, Bool.not_eq_true',
    List.elem_eq_contains, List.contains_eq_mem, decide_eq_false_iff_not] at h
  exact ⟨fun hmem => h.1.1 (mem_of_mem_written (by decide) (by decide) (by decide) hmem),
    fun hmem => h.1.2 (mem_of_mem_written (by decide) (by decide) (by decide) hmem)⟩

/-- A word, as it can be checked. -/
def isWord (t : List Char) : Bool :=
  t.head?.any Char.isAlphanum && t.all (fun c => c.isAlphanum || c == '-') && t.length ≤ 1024

/-- The computed test for a word is sound. -/
theorem word_of_isWord {t : List Char} (h : isWord t = true) : Word t := by
  simp only [isWord, Bool.and_eq_true, decide_eq_true_eq] at h
  obtain ⟨⟨hhead, hall⟩, hshort⟩ := h
  refine ⟨?_, fun c hc => ?_, hshort⟩
  · obtain ⟨c, hc, halphanum⟩ := (Option.any_eq_true _ _).mp hhead
    obtain ⟨t', rfl⟩ := List.head?_eq_some_iff.mp hc
    exact ⟨c, t', rfl, halphanum⟩
  · simpa using List.all_eq_true.mp hall c hc

/-- A port or an MTU is written as a plain word. -/
theorem word_toDigits {n : Nat} (h : n ≤ 65535) : Word (Nat.toDigits 10 n) := by
  have halphanum : ∀ c ∈ Nat.toDigits 10 n, c.isAlphanum = true := fun c hc => by
    have hdigit : c.isDigit = true := Nat.isDigit_of_mem_toDigits (by decide) (by decide) hc
    simp [Char.isAlphanum, hdigit]
  obtain ⟨c, t', hcons⟩ := List.exists_cons_of_ne_nil (@Nat.toDigits_ne_nil n 10)
  refine ⟨⟨c, t', hcons, halphanum c (hcons ▸ List.mem_cons_self)⟩,
    fun c hc => .inl (halphanum c hc), ?_⟩
  have hlength : (Nat.toDigits 10 n).length ≤ 5 :=
    (Nat.length_toDigits_le_iff (by decide) (by decide)).mpr (by omega)
  omega

/-- The password beside a user name. -/
theorem Accepted.password {config : Tun2SocksConfig} (h : Accepted config) {user : JString}
    (huser : config.socksUsername = some user) :
    ∃ pass, config.socksPassword = some pass := by
  have htogether := h.together
  rw [huser] at htogether
  exact Option.isSome_iff_exists.mp (by simpa using htogether)

theorem delimited_plainEntry {key : String} {value : List Char} (hkey : isWord key.toList = true)
    (hvalue : Word value) :
    Word (plainEntry key value).key ∧ (plainEntry key value).value.Delimited :=
  ⟨word_of_isWord hkey, hvalue⟩

theorem delimited_quotedEntry {key : String} {value : JString} (hkey : isWord key.toList = true)
    (hvalue : safeScalar value = true) :
    Word (quotedEntry key value).key ∧ (quotedEntry key value).value.Delimited :=
  ⟨word_of_isWord hkey, (notMem_written_of_safeScalar hvalue).2⟩

theorem delimited_credentials {config : Tun2SocksConfig} (h : Accepted config) :
    ∀ e ∈ credentials config, Word e.key ∧ e.value.Delimited := by
  unfold credentials
  cases huser : config.socksUsername with
  | none => exact List.forall_mem_nil _
  | some user =>
    obtain ⟨pass, hpass⟩ := h.password huser
    refine List.forall_mem_cons.mpr ⟨?_, List.forall_mem_singleton.mpr ?_⟩
    · exact delimited_quotedEntry (by decide) (h.socksUsername user huser)
    · rw [hpass]
      exact delimited_quotedEntry (by decide) (h.socksPassword pass hpass)

/-- In an accepted configuration the keys are words and every value stays on its line. -/
theorem delimited_blocks {config : Tun2SocksConfig} (h : Accepted config) :
    ∀ b ∈ blocks config, b.Delimited := by
  have hblock : ∀ {key : String} {entries : List Entry}, isWord key.toList = true → entries ≠ [] →
      (∀ e ∈ entries, Word e.key ∧ e.value.Delimited) → Block.Delimited ⟨key.toList, entries⟩ :=
    fun hkey hne hentries => ⟨word_of_isWord hkey, hne, fun e he => (hentries e he).1,
      fun e he => (hentries e he).2⟩
  have hmtu : config.mtu.toNat ≤ 65535 := by
    have := h.mtu.2
    omega
  have hport : config.socksPort.toNat ≤ 65535 := by
    have := h.socksPort.2
    omega
  have hudp : safeScalar config.udpMode = true := by
    rcases h.udpMode with hmode | hmode <;> rw [hmode] <;> decide
  simp only [blocks, List.forall_mem_cons]
  -- the sections tunnel, socks5 and misc, entry by entry
  refine ⟨hblock (by decide) (List.cons_ne_nil _ _) ?_, hblock (by decide) (by simp) ?_,
    hblock (by decide) (List.cons_ne_nil _ _) ?_, List.forall_mem_nil _⟩
  · simp only [List.forall_mem_cons]
    exact ⟨delimited_plainEntry (by decide) (word_of_isWord (by decide)),
      delimited_plainEntry (by decide) (word_toDigits hmtu),
      delimited_plainEntry (by decide) (word_of_isWord (by decide)),
      delimited_quotedEntry (by decide) h.ipv4Address,
      delimited_quotedEntry (by decide) h.ipv6Address,
      delimited_quotedEntry (by decide) (by decide), List.forall_mem_nil _⟩
  · simp only [List.forall_mem_append, List.forall_mem_cons]
    exact ⟨⟨delimited_quotedEntry (by decide) h.socksAddress,
      delimited_plainEntry (by decide) (word_toDigits hport),
      delimited_quotedEntry (by decide) hudp, List.forall_mem_nil _⟩, delimited_credentials h⟩
  · simp only [List.forall_mem_cons]
    exact ⟨delimited_plainEntry (by decide) (word_of_isWord (by decide)), List.forall_mem_nil _⟩

/-! ## Contents of the rendered text -/

def tunnelPairs (config : Tun2SocksConfig) (ipv4 ipv6 : List Char) :
    List (List Char × List Char) :=
  [("name".toList, "tun0".toList),
    ("mtu".toList, Nat.toDigits 10 config.mtu.toNat),
    ("multi-queue".toList, "false".toList),
    ("ipv4".toList, ipv4),
    ("ipv6".toList, ipv6),
    ("icmp".toList, "off".toList)]

def credentialPairs : Option (List Char × List Char) → List (List Char × List Char)
  | some (user, pass) => [("username".toList, user), ("password".toList, pass)]
  | none => []

def serverPairs (config : Tun2SocksConfig) (addr : List Char)
    (creds : Option (List Char × List Char)) : List (List Char × List Char) :=
  [("address".toList, addr),
    ("port".toList, Nat.toDigits 10 config.socksPort.toNat),
    ("udp".toList, config.udpMode.written)] ++ credentialPairs creds

/-- What the document holds when the scanner makes these values of the strings. -/
def contents (config : Tun2SocksConfig) (ipv4 ipv6 addr : List Char)
    (creds : Option (List Char × List Char)) :
    List (List Char × List (List Char × List Char)) :=
  [("tunnel".toList, tunnelPairs config ipv4 ipv6),
    ("socks5".toList, serverPairs config addr creds),
    ("misc".toList, [("log-level".toList, "warn".toList)])]

/-- What the scanner makes of the credentials. -/
def credentialValues (config : Tun2SocksConfig) : Option (Option (List Char × List Char)) :=
  match config.socksUsername with
  | some it =>
    (quotedValue it.written).bind fun user =>
      (quotedValue (config.socksPassword.getD []).written).map fun pass => some (user, pass)
  | none => some none

theorem contents_credentials (config : Tun2SocksConfig) :
    (credentials config).mapM Entry.contents = (credentialValues config).map credentialPairs := by
  unfold credentials credentialValues
  cases config.socksUsername with
  | none => rfl
  | some it =>
    simp only [List.mapM_cons, List.mapM_nil, Entry.contents, quotedEntry, Scalar.value]
    cases quotedValue it.written with
    | none => rfl
    | some user =>
      cases quotedValue (config.socksPassword.getD []).written with
      | none => rfl
      | some pass => rfl

/-- What the reader gets from the blocks, once the quoted texts are read back. -/
theorem contents_blocks {config : Tun2SocksConfig} (h : Accepted config) :
    (blocks config).mapM Block.contents =
      (quotedValue config.ipv4Address.written).bind fun ipv4 =>
      (quotedValue config.ipv6Address.written).bind fun ipv6 =>
      (quotedValue config.socksAddress.written).bind fun addr =>
      (credentialValues config).map fun creds => contents config ipv4 ipv6 addr creds := by
  have hoff : quotedValue (JString.written (ascii "off")) = some "off".toList := by decide
  have hudp : quotedValue config.udpMode.written = some config.udpMode.written := by
    rcases h.udpMode with hmode | hmode <;> rw [hmode] <;> decide
  simp only [blocks, List.mapM_cons, List.mapM_nil, List.mapM_append, Block.contents,
    contents_credentials, Entry.contents, plainEntry, quotedEntry, Scalar.value, hoff, hudp]
  -- one string after another, in the order of the text
  cases quotedValue config.ipv4Address.written with
  | none => rfl
  | some ipv4 =>
    cases quotedValue config.ipv6Address.written with
    | none => rfl
    | some ipv6 =>
      cases quotedValue config.socksAddress.written with
      | none => rfl
      | some addr =>
        cases credentialValues config with
        | none => rfl
        | some creds => rfl

/-! ## What the tunnel loads -/

/-- The section `tunnel`, with these values of the strings. -/
def tunnelLoaded (config : Tun2SocksConfig) (ipv4 ipv6 : List Char) : HevConfig where
  tunName := strncpy "tun0".toList 63
  tunMtu := config.mtu.toNat
  tunIpv4Address := strncpy ipv4 15
  tunIpv6Address := strncpy ipv6 63

/-- The section `socks5`. -/
def serverLoaded (config : Tun2SocksConfig) (addr : List Char)
    (creds : Option (List Char × List Char)) : HevConfigServer where
  user := creds.map (strncpy ·.1 255)
  pass := creds.map (strncpy ·.2 255)
  udpInUdp := config.udpMode = ascii "udp"
  port := config.socksPort.toNat
  addr := strncpy addr 255

/-- The engine's section `tunnel`, read from the pairs the renderer wrote. -/
theorem parseTunnel_pairs {config : Tun2SocksConfig} (h : Accepted config)
    (ipv4 ipv6 : List Char) :
    HevConfig.parseTunnel {} (some (entriesNode (tunnelPairs config ipv4 ipv6))) =
      some (tunnelLoaded config ipv4 ipv6) := by
  have hmtu : strtoul (Nat.toDigits 10 config.mtu.toNat) 10 % 2 ^ 32 = config.mtu.toNat := by
    have hrange := h.mtu
    rw [strtoul_toDigits (by rw [ulongMax]; omega), Nat.mod_eq_of_lt (by omega)]
  -- `strtoul` reads back the digits, and an MTU fits in 32 bits
  rw [entriesNode, HevConfig.parseTunnel, HevConfig.tunnelPairs_map]
  -- the other keys are literals, so the fold over the pairs computes
  calc _ = some { tunnelLoaded config ipv4 ipv6 with
        tunMtu := strtoul (Nat.toDigits 10 config.mtu.toNat) 10 % 2 ^ 32 } := rfl
    _ = some (tunnelLoaded config ipv4 ipv6) := by rw [hmtu]; rfl

/-- The engine's section `socks5`, given the value of each key it looks up. -/
theorem socks5Values_eq {value : String → Option (List Char)} {port addr udp : List Char}
    {user pass : Option (List Char)} (hport : value "port" = some port)
    (haddr : value "address" = some addr) (hudp : value "udp" = some udp)
    (huser : value "username" = user) (hpass : value "password" = pass)
    (htogether : user.isSome = pass.isSome)
    (hrest : ∀ key ∈ ["pipeline", "udp-address", "mark", "tcp-fastopen"], value key = none) :
    HevConfig.socks5Values {} value = some
      { addr := strncpy addr 255
        port := strtoul port 10 % 2 ^ 16
        udpInUdp := strcaseeq udp "udp".toList
        user := user.map (strncpy · 255)
        pass := pass.map (strncpy · 255) } := by
  simp only [List.forall_mem_cons] at hrest
  obtain ⟨hpipeline, hudpAddr, hmark, hfastopen, -⟩ := hrest
  simp [HevConfig.socks5Values, hport, haddr, hudp, huser, hpass, htogether, hpipeline, hudpAddr,
    hmark, hfastopen]

/-- The section `socks5` with no credentials, or with both. -/
theorem parseSocks5_pairs {config : Tun2SocksConfig} (h : Accepted config) {c : HevConfig}
    (hc : c.srv = {}) (addr : List Char) (creds : Option (List Char × List Char)) :
    c.parseSocks5 (some (entriesNode (serverPairs config addr creds))) =
      some { c with srv := serverLoaded config addr creds } := by
  have hport : strtoul (Nat.toDigits 10 config.socksPort.toNat) 10 % 2 ^ 16 =
      config.socksPort.toNat := by
    have hrange := h.socksPort
    rw [strtoul_toDigits (by rw [ulongMax]; omega), Nat.mod_eq_of_lt (by omega)]
  have hudp : strcaseeq config.udpMode.written "udp".toList =
      decide (config.udpMode = ascii "udp") := by
    rcases h.udpMode with hmode | hmode <;> rw [hmode] <;> decide
  have hvalues : HevConfig.socks5Values {} (HevConfig.lastValue (serverPairs config addr creds)) =
      some (serverLoaded config addr creds) := by
    -- the keys that the renderer does not write keep their defaults
    have hrest : ∀ key ∈ ["pipeline", "udp-address", "mark", "tcp-fastopen"],
        HevConfig.lastValue (serverPairs config addr creds) key = none := by
      simp only [List.forall_mem_cons]
      cases creds with
      | none => exact ⟨rfl, rfl, rfl, rfl, nofun⟩
      | some creds => exact ⟨rfl, rfl, rfl, rfl, nofun⟩
    have haddr : HevConfig.lastValue (serverPairs config addr creds) "address" = some addr := by
      cases creds <;> rfl
    have hportText : HevConfig.lastValue (serverPairs config addr creds) "port" =
        some (Nat.toDigits 10 config.socksPort.toNat) := by
      cases creds <;> rfl
    have hudpText : HevConfig.lastValue (serverPairs config addr creds) "udp" =
        some config.udpMode.written := by
      cases creds <;> rfl
    have huser : HevConfig.lastValue (serverPairs config addr creds) "username" =
        creds.map (·.1) := by
      cases creds <;> rfl
    have hpass : HevConfig.lastValue (serverPairs config addr creds) "password" =
        creds.map (·.2) := by
      cases creds <;> rfl
    rw [socks5Values_eq hportText haddr hudpText huser hpass (by simp) hrest, hport, hudp]
    simp [serverLoaded, Function.comp_def]
  rw [entriesNode, HevConfig.parseSocks5, scalarPairs_map, hc, hvalues]
  rfl

/-- The whole configuration. -/
def allLoaded (config : Tun2SocksConfig) (ipv4 ipv6 addr : List Char)
    (creds : Option (List Char × List Char)) : HevConfig :=
  { tunnelLoaded config ipv4 ipv6 with srv := serverLoaded config addr creds }

/-- The whole document, section by section, in the order the renderer writes them. -/
theorem parseDoc_contents {config : Tun2SocksConfig} (h : Accepted config)
    (ipv4 ipv6 addr : List Char) (creds : Option (List Char × List Char)) :
    HevConfig.parseDoc {} (some (blocksNode (contents config ipv4 ipv6 addr creds))) =
      some (allLoaded config ipv4 ipv6 addr creds) := by
  have htunnel : ∀ c value, HevConfig.parseSection c "tunnel".toList value = c.parseTunnel value :=
    fun _ _ => rfl
  have hsocks5 : ∀ c value, HevConfig.parseSection c "socks5".toList value = c.parseSocks5 value :=
    fun _ _ => rfl
  have hmisc : ∀ c value, HevConfig.parseSection c "misc".toList value = c.parseOther value :=
    fun _ _ => rfl
  rw [blocksNode, HevConfig.parseDoc, HevConfig.docPairs_map, contents, List.foldlM_cons, htunnel,
    parseTunnel_pairs h, Option.bind_eq_bind, Option.bind_some, List.foldlM_cons, hsocks5,
    parseSocks5_pairs h rfl, Option.bind_eq_bind, Option.bind_some, List.foldlM_cons, hmisc]
  rfl

/-- The strings may stand in a YAML stream exactly when the values of the text may. -/
theorem allowed_blocks_iff {config : Tun2SocksConfig} (h : Accepted config) :
    (∀ b ∈ blocks config, ∀ e ∈ b.entries, e.value.Allowed) ↔
      ∀ p ∈ strings config, ∀ c ∈ p.1.written, allowed c.toNat = true := by
  have hoff : ∀ c ∈ JString.written (ascii "off"), allowed c.toNat = true :=
    List.all_eq_true.mp (by decide)
  have hudp : ∀ c ∈ config.udpMode.written, allowed c.toNat = true := by
    refine List.all_eq_true.mp ?_
    rcases h.udpMode with hmode | hmode <;> rw [hmode] <;> decide
  have hcredentials : (∀ e ∈ credentials config, e.value.Allowed) ↔
      ∀ value ∈ config.socksUsername.toList ++ config.socksPassword.toList,
        ∀ c ∈ value.written, allowed c.toNat = true := by
    unfold credentials
    cases huser : config.socksUsername with
    | none =>
      have htogether := h.together
      rw [huser] at htogether
      have hpass : config.socksPassword = none := by simpa using htogether.symm
      simp [hpass]
    | some user =>
      obtain ⟨pass, hpass⟩ := h.password huser
      simp [hpass, quotedEntry, Scalar.Allowed]
  have hplain : ∀ text, Scalar.Allowed (.plain text) := fun _ => trivial
  have hquoted : ∀ text, Scalar.Allowed (.quoted text) ↔ ∀ c ∈ text, allowed c.toNat = true :=
    fun _ => Iff.rfl
  simp only [blocks, strings, plainEntry, quotedEntry, List.forall_mem_cons, List.forall_mem_append,
    List.forall_mem_map, hplain, hquoted, hcredentials]
  constructor
  · rintro ⟨⟨-, -, -, hipv4, hipv6, -⟩, ⟨⟨haddr, -⟩, hcreds⟩, -⟩
    exact ⟨⟨hipv4, hipv6, haddr, List.forall_mem_nil _⟩, hcreds⟩
  · rintro ⟨⟨hipv4, hipv6, haddr, -⟩, hcreds⟩
    exact ⟨⟨trivial, trivial, trivial, hipv4, hipv6, hoff, List.forall_mem_nil _⟩,
      ⟨⟨haddr, trivial, hudp, List.forall_mem_nil _⟩, hcreds⟩,
      ⟨trivial, List.forall_mem_nil _⟩, List.forall_mem_nil _⟩

/-- One string: it comes through exactly when the buffer holds it in the end. -/
theorem comesThrough_iff {value : JString} {limit : Nat} (hsafe : safeScalar value = true)
    (hallowed : ∀ c ∈ value.written, allowed c.toNat = true) :
    ComesThrough value limit ↔
      ∃ v, quotedValue value.written = some v ∧ Holds value (strncpy v limit) := by
  obtain ⟨hlf, hcr⟩ := notMem_written_of_safeScalar hsafe
  constructor
  · intro h
    refine ⟨value.written, (quotedValue_eq_some_iff hlf hcr).mpr h.intact, h.paired, ?_⟩
    exact List.take_of_length_le h.fits
  · rintro ⟨v, hv, hpaired, htake⟩
    -- neither the scanner nor the buffer makes a text longer
    have hsame : v = value.written := eq_of_take_utf8 htake (utf8_quotedValue_le hv)
    refine ⟨hpaired, hallowed, (quotedValue_eq_some_iff hlf hcr).mp (hsame ▸ hv), ?_⟩
    rw [← htake]
    exact (List.length_take_le limit _)

/-- The credentials come through exactly when the engine holds what was given to the renderer. -/
theorem comesThrough_credentials {config : Tun2SocksConfig} (h : Accepted config)
    (hallowed : ∀ value ∈ config.socksUsername.toList ++ config.socksPassword.toList,
      ∀ c ∈ value.written, allowed c.toNat = true) :
    (∀ value ∈ config.socksUsername.toList ++ config.socksPassword.toList,
        ComesThrough value 255) ↔
      ∃ creds, credentialValues config = some creds ∧
        HoldsOptional config.socksUsername (creds.map (strncpy ·.1 255)) ∧
        HoldsOptional config.socksPassword (creds.map (strncpy ·.2 255)) := by
  -- without credentials there is nothing to compare on either side
  unfold credentialValues
  cases huser : config.socksUsername with
  | none =>
    have htogether := h.together
    rw [huser] at htogether
    have hpass : config.socksPassword = none := by simpa using htogether.symm
    rw [hpass]
    exact iff_of_true (List.forall_mem_nil _) ⟨none, rfl, trivial, trivial⟩
  | some user =>
    obtain ⟨pass, hpass⟩ := h.password huser
    rw [huser, hpass] at hallowed
    simp only [Option.toList_some, List.forall_mem_append, List.forall_mem_singleton] at hallowed
    simp only [hpass, Option.toList_some, List.forall_mem_append, List.forall_mem_singleton,
      comesThrough_iff (h.socksUsername user huser) hallowed.1,
      comesThrough_iff (h.socksPassword pass hpass) hallowed.2, Option.getD_some]
    constructor
    · rintro ⟨⟨u, hu, huHolds⟩, p, hp, hpHolds⟩
      exact ⟨some (u, p), by rw [hu, hp]; rfl, huHolds, hpHolds⟩
    · rintro ⟨creds, hcreds, huHolds, hpHolds⟩
      obtain ⟨u, hu, hcreds⟩ := Option.bind_eq_some_iff.mp hcreds
      obtain ⟨p, hp, rfl⟩ := Option.map_eq_some_iff.mp hcreds
      exact ⟨⟨u, hu, huHolds⟩, p, hp, hpHolds⟩

/-- The file of a rendered configuration is loaded when the scanner makes something of each of its
    strings. -/
theorem initFromFile_build {config : Tun2SocksConfig} (h : Accepted config)
    (hallowed : ∀ p ∈ strings config, ∀ c ∈ p.1.written, allowed c.toNat = true) :
    initFromFile (utf8 (build config).written) =
      (quotedValue config.ipv4Address.written).bind fun ipv4 =>
      (quotedValue config.ipv6Address.written).bind fun ipv6 =>
      (quotedValue config.socksAddress.written).bind fun addr =>
      (credentialValues config).map fun creds => allLoaded config ipv4 ipv6 addr creds := by
  have hne : blocks config ≠ [] := List.cons_ne_nil _ _
  have hload := loadInput_blocksText hne (delimited_blocks h) ((allowed_blocks_iff h).mpr hallowed)
  have hinit : initFromFile (utf8 (build config).written) =
      (loadInput (utf8 (blocksText (blocks config)))).bind (HevConfig.parseDoc {}) := by
    rw [written_build h]
    rfl
  rw [hinit, hload, contents_blocks h]
  cases quotedValue config.ipv4Address.written with
  | none => rfl
  | some ipv4 =>
    cases quotedValue config.ipv6Address.written with
    | none => rfl
    | some ipv6 =>
      cases quotedValue config.socksAddress.written with
      | none => rfl
      | some addr =>
        cases credentialValues config with
        | none => rfl
        | some creds =>
          simp only [Option.bind_some, Option.map_some]
          exact parseDoc_contents h ipv4 ipv6 addr creds

/-- The fields of the loaded configuration that hold no string agree anyway. -/
theorem agrees_allLoaded_iff {config : Tun2SocksConfig} (h : Accepted config)
    {ipv4 ipv6 addr : List Char} {creds : Option (List Char × List Char)} :
    Agrees config (allLoaded config ipv4 ipv6 addr creds) ↔
      (Holds config.ipv4Address (strncpy ipv4 15) ∧ Holds config.ipv6Address (strncpy ipv6 63) ∧
        Holds config.socksAddress (strncpy addr 255)) ∧
      HoldsOptional config.socksUsername (creds.map (strncpy ·.1 255)) ∧
      HoldsOptional config.socksPassword (creds.map (strncpy ·.2 255)) := by
  constructor
  · intro hagrees
    exact ⟨⟨hagrees.ipv4, hagrees.ipv6, hagrees.addr⟩, hagrees.user, hagrees.pass⟩
  · rintro ⟨⟨hipv4, hipv6, haddr⟩, huser, hpass⟩
    refine ⟨haddr, ?_, decide_eq_true_iff, huser, hpass, ?_, hipv4, hipv6⟩
    · exact Int.toNat_of_nonneg (le_trans (by decide) h.socksPort.1)
    · exact Int.toNat_of_nonneg (le_trans (by decide) h.mtu.1)

/-- Where the tunnel has the configured values, every string came through. -/
theorem comesThrough_of_agrees {config : Tun2SocksConfig} (h : Accepted config)
    {loaded : HevConfig} (hloaded : initFromFile (utf8 (build config).written) = some loaded)
    (hagrees : Agrees config loaded) : ∀ p ∈ strings config, ComesThrough p.1 p.2 := by
  -- a file that loads at all went through the reader, which refuses every other character
  have hallowed : ∀ p ∈ strings config, ∀ c ∈ p.1.written, allowed c.toNat = true := by
    have hload := hloaded
    rw [written_build h] at hload
    obtain ⟨root, hroot, -⟩ := Option.bind_eq_some_iff.mp hload
    exact (allowed_blocks_iff h).mp (allowed_of_loadInput (delimited_blocks h) hroot)
  rw [initFromFile_build h hallowed] at hloaded
  obtain ⟨ipv4, hipv4, hloaded⟩ := Option.bind_eq_some_iff.mp hloaded
  obtain ⟨ipv6, hipv6, hloaded⟩ := Option.bind_eq_some_iff.mp hloaded
  obtain ⟨addr, haddr, hloaded⟩ := Option.bind_eq_some_iff.mp hloaded
  obtain ⟨creds, hcreds, rfl⟩ := Option.map_eq_some_iff.mp hloaded
  obtain ⟨⟨hipv4Holds, hipv6Holds, haddrHolds⟩, huser, hpass⟩ :=
    (agrees_allLoaded_iff h).mp hagrees
  simp only [strings, List.forall_mem_append, List.forall_mem_map, List.forall_mem_cons]
    at hallowed ⊢
  obtain ⟨⟨hallowed4, hallowed6, hallowedAddr, -⟩, hallowedCreds⟩ := hallowed
  refine ⟨⟨(comesThrough_iff h.ipv4Address hallowed4).mpr ⟨ipv4, hipv4, hipv4Holds⟩,
    (comesThrough_iff h.ipv6Address hallowed6).mpr ⟨ipv6, hipv6, hipv6Holds⟩,
    (comesThrough_iff h.socksAddress hallowedAddr).mpr ⟨addr, haddr, haddrHolds⟩,
    List.forall_mem_nil _⟩, ?_⟩
  rw [← List.forall_mem_append] at hallowedCreds ⊢
  exact (comesThrough_credentials h hallowedCreds).mpr ⟨creds, hcreds, huser, hpass⟩

/-- Where every string comes through, the tunnel has the configured values. -/
theorem exists_agrees_of_comesThrough {config : Tun2SocksConfig} (h : Accepted config)
    (hthrough : ∀ p ∈ strings config, ComesThrough p.1 p.2) :
    ∃ loaded, initFromFile (utf8 (build config).written) = some loaded ∧ Agrees config loaded := by
  have hallowed : ∀ p ∈ strings config, ∀ c ∈ p.1.written, allowed c.toNat = true :=
    fun p hp => (hthrough p hp).allowed
  rw [initFromFile_build h hallowed]
  simp only [strings, List.forall_mem_append, List.forall_mem_map, List.forall_mem_cons]
    at hallowed hthrough
  obtain ⟨⟨hallowed4, hallowed6, hallowedAddr, -⟩, hallowedCreds⟩ := hallowed
  obtain ⟨⟨hthrough4, hthrough6, hthroughAddr, -⟩, hthroughCreds⟩ := hthrough
  rw [← List.forall_mem_append] at hallowedCreds hthroughCreds
  obtain ⟨ipv4, hipv4, hipv4Holds⟩ := (comesThrough_iff h.ipv4Address hallowed4).mp hthrough4
  obtain ⟨ipv6, hipv6, hipv6Holds⟩ := (comesThrough_iff h.ipv6Address hallowed6).mp hthrough6
  obtain ⟨addr, haddr, haddrHolds⟩ :=
    (comesThrough_iff h.socksAddress hallowedAddr).mp hthroughAddr
  obtain ⟨creds, hcreds, huser, hpass⟩ :=
    (comesThrough_credentials h hallowedCreds).mp hthroughCreds
  refine ⟨allLoaded config ipv4 ipv6 addr creds, ?_, (agrees_allLoaded_iff h).mpr
    ⟨⟨hipv4Holds, hipv6Holds, haddrHolds⟩, huser, hpass⟩⟩
  rw [hipv4, hipv6, haddr, hcreds]
  rfl

/-- **Renderer and tunnel agree exactly on** configurations whose strings come through: paired
    surrogates, characters that YAML allows, texts that a single-quoted scalar holds, and lengths
    that fit the tunnel's buffers. -/
theorem agreement_iff {config : Tun2SocksConfig} {text : JString}
    (hrender : render config = .ok text) :
    (∃ loaded, initFromFile (utf8 text.written) = some loaded ∧ Agrees config loaded) ↔
      ∀ p ∈ strings config, ComesThrough p.1 p.2 := by
  obtain ⟨h, rfl⟩ := render_eq_ok hrender
  exact ⟨fun ⟨_, hloaded, hagrees⟩ => comesThrough_of_agrees h hloaded hagrees,
    exists_agrees_of_comesThrough h⟩

/-- A string that can be checked to come through. -/
theorem comesThrough_of_decide {value : JString} {limit : Nat}
    (h : (decide value.Paired && value.written.all (fun c => allowed c.toNat && c != '\u0085') &&
      decide (value.written.IsChain Apart) && indicatorFree value.written &&
      decide ((utf8 value.written).length ≤ limit)) = true) : ComesThrough value limit := by
  simp only [Bool.and_eq_true, decide_eq_true_eq, List.all_eq_true, bne_iff_ne] at h
  obtain ⟨⟨⟨⟨hpaired, hchars⟩, hapart⟩, hindicators⟩, hfits⟩ := h
  refine ⟨hpaired, fun c hc => (hchars c hc).1, ⟨fun hnel => ?_, hapart, hindicators⟩, hfits⟩
  exact (hchars _ hnel).2 rfl

/-- A password with a quote. -/
def quotedPassword : Tun2SocksConfig :=
  { socksUsername := some (ascii "user"), socksPassword := some (ascii "it's") }

theorem agreement_iff_quotedPassword :
    ∃ text loaded, render quotedPassword = .ok text ∧
      initFromFile (utf8 text.written) = some loaded ∧ Agrees quotedPassword loaded := by
  have hthrough : ∀ p ∈ strings quotedPassword, ComesThrough p.1 p.2 := by
    simp only [strings, quotedPassword, Option.toList_some, List.forall_mem_append,
      List.forall_mem_map, List.forall_mem_cons]
    exact ⟨⟨comesThrough_of_decide (by decide), comesThrough_of_decide (by decide),
        comesThrough_of_decide (by decide), List.forall_mem_nil _⟩,
      ⟨comesThrough_of_decide (by decide), List.forall_mem_nil _⟩,
      comesThrough_of_decide (by decide), List.forall_mem_nil _⟩
  obtain ⟨loaded, hloaded, hagrees⟩ :=
    (agreement_iff (show render quotedPassword = .ok (build quotedPassword) from rfl)).mpr hthrough
  exact ⟨_, loaded, rfl, hloaded, hagrees⟩

/-- A password with a next-line character, which a quoted scalar folds to a blank. -/
def foldedPassword : Tun2SocksConfig :=
  { socksUsername := some (ascii "user"), socksPassword := some [0x61, 0x85, 0x62] }

theorem foldedPassword_disagrees :
    ¬ ∀ config text, render config = .ok text →
      ∃ loaded, initFromFile (utf8 text.written) = some loaded ∧ Agrees config loaded := by
  intro h
  have hrender : render foldedPassword = .ok (build foldedPassword) := rfl
  obtain ⟨loaded, hloaded, hagrees⟩ := h _ _ hrender
  have hthrough := comesThrough_of_agrees (render_eq_ok hrender).1 hloaded hagrees
    ([0x61, 0x85, 0x62], 255) (by decide)
  exact hthrough.intact.nel (by decide)

end DarkMed.Tun2Socks
