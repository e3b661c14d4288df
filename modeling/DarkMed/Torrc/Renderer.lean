import DarkMed.Torrc.Grammar

/-!
# The torrc Renderer

`TorConfigRenderer.render` of `TorConfigWriter.kt`, and what Tor's reader makes of
its text.  The renderer rejects line breaks in the data directory, the bridge
lines and the path of the transport plugin, and splices them into their lines as
they are.
-/

namespace DarkMed.Torrc

open DarkMed.Lib

/-! ## Configuration -/

/-- `data class TorTransportPlugin`; its `init` block rejects every other type. -/
structure TorTransportPlugin where
  type : JString
  path : JString
  supported : type = ascii "obfs4" ∨ type = ascii "snowflake"

/-- `data class TorLocalConfig`, with its default arguments. -/
structure TorLocalConfig where
  socksPorts : List Int := [9050, 9052]
  controlPort : Int := 9051
  bridges : List JString := []
  transportPlugin : Option TorTransportPlugin := none

/-! ## Renderer -/

def torSocksPortMin : Int := 1024
def torSocksPortMax : Int := 65535

/-- `port in TOR_SOCKS_PORT_MIN..TOR_SOCKS_PORT_MAX` -/
def validPort (port : Int) : Bool :=
  torSocksPortMin ≤ port && port ≤ torSocksPortMax

/-- `s.isNotBlank() && !s.contains('\n') && !s.contains('\r')` -/
def singleLine (s : JString) : Bool :=
  s.isNotBlank && !s.contains newline && !s.contains 0x0D

/-- The lines that `buildList` collects. -/
def lines (config : TorLocalConfig) (dataDirectory : JString) : List JString :=
  [ascii "ClientOnly 1", ascii "AvoidDiskWrites 1", ascii "SafeLogging 1"] ++
    (config.socksPorts.map fun it => ascii "SocksPort " ++ decimal it ++ ascii " IsolateSOCKSAuth") ++
    [ascii "ControlPort " ++ decimal config.controlPort, ascii "CookieAuthentication 1",
      ascii "DataDirectory " ++ dataDirectory] ++
    (if config.bridges.isEmpty then []
      else ascii "UseBridges 1" :: config.bridges.map fun it => ascii "Bridge " ++ it) ++
    config.transportPlugin.toList.map fun it =>
      ascii "ClientTransportPlugin " ++ it.type ++ ascii " exec " ++ it.path

/-- `TorConfigRenderer.render` -/
def render (config : TorLocalConfig) (dataDirectory : JString) : Except String JString := do
  require (!config.socksPorts.isEmpty) "At least one SOCKS port is required"
  require (config.socksPorts.all validPort) "SOCKS port is invalid"
  require (config.socksPorts.eraseDups.length == config.socksPorts.length)
    "SOCKS ports must be unique"
  require (validPort config.controlPort) "Control port is invalid"
  require (!config.socksPorts.elem config.controlPort)
    "Control port must differ from SOCKS ports"
  require (singleLine dataDirectory) "Data directory is invalid"
  require (config.bridges.all singleLine) "Bridge line is invalid"
  require (config.transportPlugin.all fun it => singleLine it.path) "Transport path is invalid"
  return [newline].intercalate (lines config dataDirectory) ++ [newline]

/-! ## The intended options -/

/-- What the configuration asks of Tor. -/
def intendedOptions (config : TorLocalConfig) (dataDirectory : JString) : List Directive :=
  [(ascii "ClientOnly", ascii "1"), (ascii "AvoidDiskWrites", ascii "1"),
    (ascii "SafeLogging", ascii "1")] ++
    (config.socksPorts.map fun it => (ascii "SocksPort", decimal it ++ ascii " IsolateSOCKSAuth")) ++
    [(ascii "ControlPort", decimal config.controlPort), (ascii "CookieAuthentication", ascii "1"),
      (ascii "DataDirectory", dataDirectory)] ++
    (if config.bridges.isEmpty then []
      else (ascii "UseBridges", ascii "1") :: config.bridges.map fun it => (ascii "Bridge", it)) ++
    config.transportPlugin.toList.map fun it =>
      (ascii "ClientTransportPlugin", it.type ++ ascii " exec " ++ it.path)

/-- The values that the configuration's own texts are part of. -/
def splicedValues (config : TorLocalConfig) (dataDirectory : JString) : List JString :=
  dataDirectory :: config.bridges ++
    config.transportPlugin.toList.map fun it => it.type ++ ascii " exec " ++ it.path

/-! ## Rendered texts -/

/-- What `render` has checked. -/
structure Accepted (config : TorLocalConfig) (dataDirectory : JString) : Prop where
  socksPorts : ∀ port ∈ config.socksPorts, validPort port = true
  controlPort : validPort config.controlPort = true
  dataDirectory : singleLine dataDirectory = true
  bridges : ∀ bridge ∈ config.bridges, singleLine bridge = true
  transportPath : ∀ plugin ∈ config.transportPlugin, singleLine plugin.path = true

/-- The lines that are rendered are those of the options. -/
theorem lines_eq (config : TorLocalConfig) (dataDirectory : JString) :
    lines config dataDirectory = (intendedOptions config dataDirectory).map line := by
  -- the lines are literals of a keyword, a space and a value, split at the space
  have hspace : ascii " " = [space] := by decide
  have hkey : ∀ key : String, ascii (key ++ " ") = ascii key ++ [space] := fun key => by
    rw [ascii_append, hspace]
  have hfixed : ∀ key value : String,
      ascii (key ++ " " ++ value) = ascii key ++ space :: ascii value := fun key value => by
    rw [ascii_append, hkey, List.append_assoc, List.singleton_append]
  have hsocks := hkey "SocksPort"
  have hcontrol := hkey "ControlPort"
  have hdata := hkey "DataDirectory"
  have hbridge := hkey "Bridge"
  have hplugin := hkey "ClientTransportPlugin"
  have h1 := hfixed "ClientOnly" "1"
  have h2 := hfixed "AvoidDiskWrites" "1"
  have h3 := hfixed "SafeLogging" "1"
  have h4 := hfixed "CookieAuthentication" "1"
  have h5 := hfixed "UseBridges" "1"
  simp only [String.reduceAppend] at hsocks hcontrol hdata hbridge hplugin h1 h2 h3 h4 h5
  cases hempty : config.bridges.isEmpty <;>
    simp [lines, intendedOptions, line, hempty, hsocks, hcontrol, hdata, hbridge, hplugin, h1, h2,
      h3, h4, h5, Function.comp_def]

/-- `joinToString("\n") + "\n"` ends every line. -/
theorem joinToString_newline {ls : List JString} (hne : ls ≠ []) :
    [newline].intercalate ls ++ [newline] = ls.flatMap (· ++ [newline]) := by
  induction ls with
  | nil => exact absurd rfl hne
  | cons l ls ih =>
    cases ls with
    | nil => simp
    | cons next ls =>
      rw [List.intercalate_cons_cons, List.append_assoc, List.append_assoc,
        ih (List.cons_ne_nil _ _), ← List.append_assoc]
      rfl

/-- What is rendered has passed the checks, and is the text of the options. -/
theorem render_eq_ok {config : TorLocalConfig} {dataDirectory text : JString}
    (h : render config dataDirectory = .ok text) :
    Accepted config dataDirectory ∧
      text = renderOptions (intendedOptions config dataDirectory) := by
  unfold render at h
  obtain ⟨-, h⟩ := require_bind_eq_ok h
  obtain ⟨hports, h⟩ := require_bind_eq_ok h
  obtain ⟨-, h⟩ := require_bind_eq_ok h
  obtain ⟨hcontrol, h⟩ := require_bind_eq_ok h
  obtain ⟨-, h⟩ := require_bind_eq_ok h
  -- the checks one after the other, of which some need not be named
  obtain ⟨hdata, h⟩ := require_bind_eq_ok h
  obtain ⟨hbridges, h⟩ := require_bind_eq_ok h
  obtain ⟨hpath, h⟩ := require_bind_eq_ok h
  refine ⟨⟨List.all_eq_true.mp hports, hcontrol, hdata, List.all_eq_true.mp hbridges,
    fun plugin hplugin => ?_⟩, ?_⟩
  · rw [Option.mem_def.mp hplugin] at hpath
    exact hpath
  · cases h
    have hne : lines config dataDirectory ≠ [] := by simp [lines]
    rw [joinToString_newline hne, lines_eq, renderOptions, List.flatMap_map]

/-- Where `render` accepts, its text is known. -/
theorem render_of_isOk {config : TorLocalConfig} {dataDirectory : JString}
    (h : (render config dataDirectory).isOk = true) :
    render config dataDirectory = .ok (renderOptions (intendedOptions config dataDirectory)) := by
  cases hrender : render config dataDirectory with
  | error e =>
    rw [hrender] at h
    cases h
  | ok text => rw [(render_eq_ok hrender).2]

/-- A property of every intended option, option by option. -/
theorem forall_intendedOptions {P : Directive → Prop} {config : TorLocalConfig}
    {dataDirectory : JString} :
    (∀ o ∈ intendedOptions config dataDirectory, P o) ↔
      (P (ascii "ClientOnly", ascii "1") ∧ P (ascii "AvoidDiskWrites", ascii "1") ∧
        P (ascii "SafeLogging", ascii "1")) ∧
      (∀ port ∈ config.socksPorts,
        P (ascii "SocksPort", decimal port ++ ascii " IsolateSOCKSAuth")) ∧
      (P (ascii "ControlPort", decimal config.controlPort) ∧
        P (ascii "CookieAuthentication", ascii "1") ∧ P (ascii "DataDirectory", dataDirectory)) ∧
      (config.bridges ≠ [] → P (ascii "UseBridges", ascii "1")) ∧
      (∀ bridge ∈ config.bridges, P (ascii "Bridge", bridge)) ∧
      ∀ plugin ∈ config.transportPlugin,
        P (ascii "ClientTransportPlugin", plugin.type ++ ascii " exec " ++ plugin.path) := by
  simp only [intendedOptions, List.forall_mem_append, List.forall_mem_cons, List.forall_mem_map,
    List.not_mem_nil, false_implies, implies_true, and_true, Option.mem_toList, and_assoc]
  cases hbridges : config.bridges with
  | nil => simp
  | cons bridge bridges => simp [and_assoc]

/-- All keywords that are written are keywords to the reader. -/
theorem keyword_of_mem_intendedOptions (config : TorLocalConfig) (dataDirectory : JString) :
    ∀ o ∈ intendedOptions config dataDirectory, Keyword o.1 := by
  have hall : (["ClientOnly", "AvoidDiskWrites", "SafeLogging", "SocksPort", "ControlPort",
      "CookieAuthentication", "DataDirectory", "UseBridges", "Bridge",
      "ClientTransportPlugin"].map ascii).all isKeyword = true := by decide +kernel
  have hfixed := fun key hkey => keyword_of_isKeyword (List.all_eq_true.mp hall key hkey)
  simp only [List.map_cons, List.map_nil, List.forall_mem_cons] at hfixed
  obtain ⟨h1, h2, h3, h4, h5, h6, h7, h8, h9, h10, -⟩ := hfixed
  exact forall_intendedOptions.mpr ⟨⟨h1, h2, h3⟩, fun _ _ => h4, ⟨h5, h6, h7⟩, fun _ => h8,
    fun _ _ => h9, fun _ _ => h10⟩

/-! ## Values that the renderer writes itself -/

/-- A value without a character that the reader treats specially, and without blanks at its
    ends. -/
structure PlainValue (v : JString) : Prop where
  plain : ∀ c ∈ v, c ≠ 0 ∧ c ≠ newline ∧ c ≠ hash ∧ c ≠ backslash
  head : ∀ c ∈ v.head?, c ≠ space ∧ c ≠ 0x09
  last : ∀ c ∈ v.getLast?, c ≠ space ∧ c ≠ 0x09

/-- Without `#` no comment opens, inside quotes or outside. -/
theorem opensComment_of_notMem {inQuotes : Bool} {v : JString} (h : hash ∉ v) :
    opensComment inQuotes v = false := by
  induction v generalizing inQuotes with
  | nil => rfl
  | cons c v ih =>
    have hc : c ≠ hash := fun heq => h (heq ▸ List.mem_cons_self)
    have hrest : ∀ inQuotes, opensComment inQuotes v = false := fun _ =>
      ih fun hmem => h (List.mem_cons_of_mem _ hmem)
    simp [opensComment, hc, hrest]

/-- A plain value reads back, whatever is done with blanks. -/
theorem readsBack_of_plainValue {trim : JString → JString} (ht : TrimsEnds trim) {v : JString}
    (h : PlainValue v) : ReadsBack trim v where
  nul := fun hmem => (h.plain _ hmem).1 rfl
  continuation := fun hlast => (h.plain _ (List.mem_of_getLast? hlast)).2.2.2 rfl
  comment := opensComment_of_notMem fun hmem => (h.plain _ hmem).2.2.1 rfl
  trim := ht.keeps v h.head h.last

/-- `1` is plain. -/
theorem plainValue_one : PlainValue (ascii "1") := by
  constructor <;> simp [ascii, newline, hash, backslash, space]

/-- A port is not negative, so it is written with digits only. -/
theorem decimal_of_validPort {port : Int} (h : validPort port = true) :
    decimal port = digits port.toNat := by
  have hpos : 0 ≤ port := by
    have hmin : torSocksPortMin ≤ port := of_decide_eq_true (Bool.and_eq_true_iff.mp h).1
    exact (by decide : 0 ≤ torSocksPortMin).trans hmin
  obtain ⟨n, rfl⟩ := Int.eq_ofNat_of_zero_le hpos
  rfl

/-- A digit is no character that the reader treats in a way of its own. -/
theorem plain_of_isDigit {c : UInt16} (h : isDigit c = true) :
    (c ≠ 0 ∧ c ≠ newline ∧ c ≠ hash ∧ c ≠ backslash) ∧ c ≠ space ∧ c ≠ 0x09 := by
  refine ⟨⟨?_, ?_, ?_, ?_⟩, ?_, ?_⟩ <;> rintro rfl <;> exact absurd h (by decide)

/-- A port is plain. -/
theorem plainValue_port {port : Int} (h : validPort port = true) : PlainValue (decimal port) := by
  rw [decimal_of_validPort h]
  have hdigit : ∀ c ∈ digits port.toNat, isDigit c = true := fun c hc => isDigit_of_mem_digits hc
  exact ⟨fun c hc => (plain_of_isDigit (hdigit c hc)).1,
    fun c hc => (plain_of_isDigit (hdigit c (List.mem_of_mem_head? hc))).2,
    fun c hc => (plain_of_isDigit (hdigit c (List.mem_of_getLast? hc))).2⟩

/-- So is a port with its flag. -/
theorem plainValue_socksPort {port : Int} (h : validPort port = true) :
    PlainValue (decimal port ++ ascii " IsolateSOCKSAuth") := by
  have hport := plainValue_port h
  have hne : decimal port ≠ [] := by
    rw [decimal_of_validPort h]
    exact digits_ne_nil _
  have hflag : (ascii " IsolateSOCKSAuth").all
      (fun c => c != 0 && c != newline && c != hash && c != backslash) = true := by decide
  -- the value ends with the flag, and begins with the port
  have hlast : (ascii " IsolateSOCKSAuth").getLast? = some 0x68 := by decide
  refine ⟨fun c hc => ?_, fun c hc => ?_, fun c hc => ?_⟩
  · rcases List.mem_append.mp hc with hc | hc
    · exact hport.plain c hc
    · simpa [and_assoc] using List.all_eq_true.mp hflag c hc
  · rw [List.head?_append_of_ne_nil _ hne] at hc
    exact hport.head c hc
  · rw [List.getLast?_append_of_ne_nil _ (by decide), hlast, Option.mem_some_iff] at hc
    subst hc
    decide

/-! ## Values without newlines -/

/-- What is checked to be a single line has no newline. -/
theorem newline_notMem_of_singleLine {s : JString} (h : singleLine s = true) : newline ∉ s := by
  simp only [singleLine, Bool.and_eq_true, Bool.not_eq_true', JString.contains] at h
  simpa using h.1.2

/-- **No accepted value breaks its line.** -/
theorem newline_notMem_of_mem_intendedOptions {config : TorLocalConfig} {dataDirectory : JString}
    (h : Accepted config dataDirectory) :
    ∀ o ∈ intendedOptions config dataDirectory, newline ∉ o.2 := by
  have hplain : ∀ {v : JString}, PlainValue v → newline ∉ v :=
    fun hv hmem => (hv.plain _ hmem).2.1 rfl
  have hone := hplain plainValue_one
  refine forall_intendedOptions.mpr ⟨⟨hone, hone, hone⟩,
    fun port hport => hplain (plainValue_socksPort (h.socksPorts port hport)),
    ⟨hplain (plainValue_port h.controlPort), hone, newline_notMem_of_singleLine h.dataDirectory⟩,
    fun _ => hone, fun bridge hbridge => newline_notMem_of_singleLine (h.bridges bridge hbridge),
    fun plugin hplugin => ?_⟩
  -- the type of a plugin is one of two names
  have htype : newline ∉ plugin.type := by
    rcases plugin.supported with htype | htype <;> rw [htype] <;> decide
  have hpath := newline_notMem_of_singleLine (h.transportPath plugin hplugin)
  simp only [List.mem_append, not_or]
  exact ⟨⟨htype, by decide⟩, hpath⟩

/-! ## Main result -/

/-- **Tor reads back the intended options exactly when** every text that is spliced in reads back:
    it has no NUL, no backslash at its end and no `#` outside quotes, and the reader finds no
    blanks to take away at its ends. -/
theorem render_reads_back_iff {trim : JString → JString} (ht : TrimsEnds trim)
    {config : TorLocalConfig} {dataDirectory text : JString}
    (h : render config dataDirectory = .ok text) :
    readTorrc trim text = intendedOptions config dataDirectory ↔
      ∀ v ∈ splicedValues config dataDirectory, ReadsBack trim v := by
  obtain ⟨haccepted, rfl⟩ := render_eq_ok h
  -- of the options, only those with a spliced text can fail to read back
  rw [readTorrc_renderOptions_iff ht (keyword_of_mem_intendedOptions config dataDirectory)
    (newline_notMem_of_mem_intendedOptions haccepted), forall_intendedOptions]
  have hplain : ∀ {v : JString}, PlainValue v → ReadsBack trim v := readsBack_of_plainValue ht
  have hone := hplain plainValue_one
  simp only [splicedValues, List.cons_append, List.forall_mem_cons, List.forall_mem_append,
    List.forall_mem_map, Option.mem_toList]
  constructor
  · rintro ⟨-, -, ⟨-, -, hdata⟩, -, hbridges, hplugin⟩
    exact ⟨hdata, hbridges, hplugin⟩
  · rintro ⟨hdata, hbridges, hplugin⟩
    exact ⟨⟨hone, hone, hone⟩,
      fun port hport => hplain (plainValue_socksPort (haccepted.socksPorts port hport)),
      ⟨hplain (plainValue_port haccepted.controlPort), hone, hdata⟩, fun _ => hone, hbridges,
      hplugin⟩

/-- A bridge and its transport plugin, as the application configures them. -/
def obfs4Config (bridge : JString) : TorLocalConfig :=
  { socksPorts := [9050]
    bridges := [bridge]
    transportPlugin := some ⟨ascii "obfs4", ascii "/files/obfs4proxy", .inl rfl⟩ }

def obfs4Bridge : JString :=
  ascii "obfs4 192.0.2.1:443 CERT=fixture iat-mode=0"

theorem render_reads_back_iff_obfs4 :
    readTorrc stripBlanks (renderOptions (intendedOptions (obfs4Config obfs4Bridge)
        (ascii "/files/tor-data"))) =
      intendedOptions (obfs4Config obfs4Bridge) (ascii "/files/tor-data") ↔
    ∀ v ∈ splicedValues (obfs4Config obfs4Bridge) (ascii "/files/tor-data"),
      ReadsBack stripBlanks v :=
  render_reads_back_iff trimsEnds_stripBlanks (render_of_isOk (by decide +kernel))

/-- A bridge line that ends in a backslash swallows the line of the transport plugin. -/
theorem backslash_swallows_plugin :
    ¬ ∀ (config : TorLocalConfig) (dataDirectory text : JString),
      render config dataDirectory = .ok text →
      readTorrc stripBlanks text = intendedOptions config dataDirectory := by
  intro h
  have hread := h (obfs4Config (obfs4Bridge ++ [backslash])) (ascii "/files/tor-data")
    (renderOptions (intendedOptions (obfs4Config (obfs4Bridge ++ [backslash]))
      (ascii "/files/tor-data"))) (render_of_isOk (by decide +kernel))
  exact absurd hread (by decide +kernel)

end DarkMed.Torrc
