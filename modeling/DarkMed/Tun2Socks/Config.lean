import DarkMed.Lib.Unicode
import DarkMed.Yaml.Loader
import Mathlib.Data.List.TakeWhile

/-!
# The Tunnel's Configuration

`hev-config.c` of the tunnel: what it takes from the document that libyaml loads.  Strings are
copied into buffers of fixed size, and cut off there.
-/

namespace DarkMed.Tun2Socks

open DarkMed.Lib DarkMed.Yaml

/-! ## C's standard library -/

/-- A C string, without its final NUL. -/
abbrev CString := List UInt8

/-- What `strncpy(dst, src, n)` leaves in a buffer of zeros with more than `n` bytes. -/
def strncpy (src : List Char) (n : Nat) : CString :=
  (utf8 src).take n

/-- `strcasecmp(a, b) == 0` -/
def strcaseeq (a b : List Char) : Bool :=
  a.map Char.toLower == b.map Char.toLower

def isspace (c : Char) : Bool :=
  c == ' ' || ('\t' ≤ c && c ≤ '\r')

/-- The value of a digit in bases up to 16. -/
def digitValue (c : Char) : Nat :=
  if c.isDigit then c.toNat - '0'.toNat
  else if 'a' ≤ c && c ≤ 'f' then c.toNat - 'a'.toNat + 10
  else if 'A' ≤ c && c ≤ 'F' then c.toNat - 'A'.toNat + 10
  else 16

/-- The number at the start of a text. -/
def digitsValue (base : Nat) (cs : List Char) : Nat :=
  (cs.takeWhile fun c => digitValue c < base).foldl (fun n c => base * n + digitValue c) 0

/-- The base of a number whose base is not given, and its digits. -/
def detectBase : List Char → Nat × List Char
  | '0' :: x :: c :: cs =>
    if (x == 'x' || x == 'X') && digitValue c < 16 then (16, c :: cs) else (8, '0' :: x :: c :: cs)
  | '0' :: cs => (8, '0' :: cs)
  | cs => (10, cs)

def ulongMax : Nat := 2 ^ 64 - 1

/-- `strtoul(value, NULL, base)` for the bases 0 and 10. -/
def strtoul (value : List Char) (base : Nat) : Nat :=
  let number (cs : List Char) : Nat :=
    if base = 0 then
      let (base, cs) := detectBase cs
      digitsValue base cs
    else digitsValue base cs
  match value.dropWhile isspace with
  | '-' :: cs =>
    -- a negative number wraps around, an overflow does not
    let n := number cs
    if ulongMax < n then ulongMax else (ulongMax + 1 - n) % (ulongMax + 1)
  | '+' :: cs => min (number cs) ulongMax
  | cs => min (number cs) ulongMax

/-! ## Configuration -/

/-- `HevConfigServer`; a missing user or password is a null pointer. -/
structure HevConfigServer where
  user : Option CString := none
  pass : Option CString := none
  mark : Nat := 0
  udpInUdp : Bool := false
  port : Nat := 0
  pipeline : Bool := false
  fastopen : Bool := false
  udpAddr : CString := []
  addr : CString := []
  deriving DecidableEq, Repr

/-- The static variables, as `hev_config_reset` leaves them.  Those that only the sections
    `mapdns` and `misc` set are left out. -/
structure HevConfig where
  tunName : CString := []
  tunMtu : Nat := 8500
  multiQueue : Bool := false
  icmp : Bool := false
  tunIpv4Address : CString := []
  tunIpv6Address : CString := []
  tunPostUpScript : CString := []
  tunPreDownScript : CString := []
  srv : HevConfigServer := {}
  deriving DecidableEq, Repr

/-! ## Sections -/

/-- The scalars that a loop over a mapping visits: it passes over a pair without a value, and
    ends at a key or a value that is no scalar. -/
def scalarPairs : Pairs → List (List Char × List Char)
  | (.scalar key, some (.scalar value)) :: pairs => (key, value) :: scalarPairs pairs
  | (_, none) :: pairs => scalarPairs pairs
  | _ => []

namespace HevConfig

/-- `hev_config_parse_tunnel_ipv4` and `hev_config_parse_tunnel_ipv6`: the address. -/
def parseTunnelAddress (limit : Nat) (address : CString) (pairs : Pairs) : CString :=
  (scalarPairs pairs).foldl
    (fun address (key, value) =>
      if key = "address".toList then strncpy value limit else address)
    address

/-- A scalar in the section `tunnel`. -/
def tunnelScalar (c : HevConfig) (key value : List Char) : HevConfig :=
  if key = "name".toList then { c with tunName := strncpy value 63 }
  else if key = "mtu".toList then { c with tunMtu := strtoul value 10 % 2 ^ 32 }
  else if key = "multi-queue".toList then { c with multiQueue := !strcaseeq value "false".toList }
  else if key = "ipv4".toList then { c with tunIpv4Address := strncpy value 15 }
  else if key = "ipv6".toList then { c with tunIpv6Address := strncpy value 63 }
  else if key = "icmp".toList then { c with icmp := strcaseeq value "reply".toList }
  else if key = "post-up-script".toList then { c with tunPostUpScript := strncpy value 1023 }
  else if key = "pre-down-script".toList then { c with tunPreDownScript := strncpy value 1023 }
  else c

/-- The loop of `hev_config_parse_tunnel`. -/
def tunnelPairs (c : HevConfig) : Pairs → HevConfig
  | [] => c
  -- a pair without a value is passed over, while a key that is no scalar ends the loop
  | (_, none) :: pairs => c.tunnelPairs pairs
  | (.mapping _, some _) :: _ => c
  | (.scalar key, some (.scalar value)) :: pairs => (c.tunnelScalar key value).tunnelPairs pairs
  | (.scalar key, some (.mapping address)) :: pairs =>
    if key = "ipv4".toList then
      { c with tunIpv4Address := parseTunnelAddress 15 c.tunIpv4Address address }.tunnelPairs pairs
    else if key = "ipv6".toList then
      { c with tunIpv6Address := parseTunnelAddress 63 c.tunIpv6Address address }.tunnelPairs pairs
    else c.tunnelPairs pairs

/-- `hev_config_parse_tunnel` -/
def parseTunnel (c : HevConfig) : Option Node → Option HevConfig
  | some (.mapping pairs) => some (c.tunnelPairs pairs)
  | _ => none

/-- The last value of a key, as the loop of `hev_config_parse_socks5` keeps it. -/
def lastValue (pairs : List (List Char × List Char)) (key : String) : Option (List Char) :=
  (pairs.reverse.find? fun pair => pair.1 = key.toList).map (·.2)

/-- `hev_config_parse_socks5` behind its loop. -/
def socks5Values (srv : HevConfigServer) (value : String → Option (List Char)) :
    Option HevConfigServer := do
  -- "Can't found socks5.port!" and "Can't found socks5.address!"
  let port ← value "port"
  let addr ← value "address"
  let user := value "username"
  let pass := value "password"
  if user.isSome != pass.isSome then none
  else
    return { srv with
      addr := strncpy addr 255
      port := strtoul port 10 % 2 ^ 16
      pipeline := srv.pipeline || (value "pipeline").any (strcaseeq · "true".toList)
      udpInUdp := srv.udpInUdp || (value "udp").any (strcaseeq · "udp".toList)
      udpAddr := (value "udp-address").elim srv.udpAddr (strncpy · 255)
      user := (user.map (strncpy · 255)).or srv.user
      pass := (pass.map (strncpy · 255)).or srv.pass
      mark := (value "mark").elim srv.mark (strtoul · 0 % 2 ^ 32)
      fastopen := (value "tcp-fastopen").elim srv.fastopen (strcaseeq · "true".toList) }

/-- `hev_config_parse_socks5` -/
def parseSocks5 (c : HevConfig) : Option Node → Option HevConfig
  | some (.mapping pairs) => do
    let srv ← socks5Values c.srv (lastValue (scalarPairs pairs))
    return { c with srv }
  | _ => none

/-- What `hev_config_parse_mapdns` and `hev_config_parse_misc` return. -/
def parseOther (c : HevConfig) : Option Node → Option HevConfig
  | some (.mapping _) => some c
  | _ => none

/-- A pair of the loop of `hev_config_parse_doc`. -/
def parseSection (c : HevConfig) (key : List Char) (value : Option Node) : Option HevConfig :=
  if key = "tunnel".toList then c.parseTunnel value
  else if key = "socks5".toList then c.parseSocks5 value
  else if key = "mapdns".toList then c.parseOther value
  else if key = "misc".toList then c.parseOther value
  else some c

/-- The loop of `hev_config_parse_doc`. -/
def docPairs (c : HevConfig) : Pairs → Option HevConfig
  | [] => some c
  | (_, none) :: pairs => c.docPairs pairs
  | (.mapping _, some _) :: _ => some c
  | (.scalar key, some value) :: pairs => do
    (← c.parseSection key (some value)).docPairs pairs

/-- `hev_config_parse_doc` -/
def parseDoc (c : HevConfig) : Option Node → Option HevConfig
  | some (.mapping pairs) => c.docPairs pairs
  | _ => none

end HevConfig

/-- `hev_config_init_from_file`, on the bytes of the file. -/
def initFromFile (input : List UInt8) : Option HevConfig := do
  HevConfig.parseDoc {} (← loadInput input)

/-! ## Blocks -/

/-- A mapping of scalars to scalars is read as the pairs it holds. -/
theorem scalarPairs_map (kvs : List (List Char × List Char)) :
    scalarPairs (kvs.map fun kv => (.scalar kv.1, some (.scalar kv.2))) = kvs := by
  induction kvs with
  | nil => rfl
  | cons kv kvs ih => rw [List.map_cons, scalarPairs, ih]

namespace HevConfig

theorem tunnelPairs_map (c : HevConfig) (kvs : List (List Char × List Char)) :
    c.tunnelPairs (kvs.map fun kv => (.scalar kv.1, some (.scalar kv.2))) =
      kvs.foldl (fun c kv => c.tunnelScalar kv.1 kv.2) c := by
  induction kvs generalizing c with
  | nil => rfl
  | cons kv kvs ih => rw [List.map_cons, tunnelPairs, ih, List.foldl_cons]

/-- The document of blocks is read section by section. -/
theorem docPairs_map (c : HevConfig) (bs : List (List Char × List (List Char × List Char))) :
    c.docPairs (bs.map fun b => (.scalar b.1, some (entriesNode b.2))) =
      bs.foldlM (fun c b => c.parseSection b.1 (some (entriesNode b.2))) c := by
  induction bs generalizing c with
  | nil => rfl
  | cons b bs ih =>
    rw [List.map_cons, docPairs, List.foldlM_cons]
    cases c.parseSection b.1 (some (entriesNode b.2)) with
    | none => rfl
    | some c => exact ih c

end HevConfig

/-! ## Numbers -/

theorem digitValue_of_isDigit {c : Char} (h : c.isDigit = true) :
    digitValue c = c.toNat - 48 ∧ digitValue c < 10 := by
  have hrange : 48 ≤ c.toNat ∧ c.toNat ≤ 57 := by
    simpa [Char.isDigit, UInt32.le_iff_toNat_le] using h
  have hvalue : digitValue c = c.toNat - 48 := if_pos h
  exact ⟨hvalue, by omega⟩

/-- **Decimal numbers are read back.** -/
theorem strtoul_toDigits {n : Nat} (h : n ≤ ulongMax) : strtoul (Nat.toDigits 10 n) 10 = n := by
  have hdigits : ∀ c ∈ Nat.toDigits 10 n, c.isDigit = true := fun c hc =>
    Nat.isDigit_of_mem_toDigits (by decide) (by decide) hc
  have hvalue : digitsValue 10 (Nat.toDigits 10 n) = n := by
    have hall : (Nat.toDigits 10 n).takeWhile (fun c => digitValue c < 10) = Nat.toDigits 10 n :=
      List.takeWhile_eq_self_iff.mpr fun c hc => by
        simpa using (digitValue_of_isDigit (hdigits c hc)).2
    rw [digitsValue, hall]
    calc (Nat.toDigits 10 n).foldl (fun n c => 10 * n + digitValue c) 0
        = (Nat.toDigits 10 n).foldl (fun n c => 10 * n + (c.toNat - '0'.toNat)) 0 :=
          List.foldl_ext _ _ _ fun n c hc => by rw [(digitValue_of_isDigit (hdigits c hc)).1]; rfl
      _ = n := by rw [← Nat.ofDigitChars_eq_foldl, Nat.ofDigitChars_ten_toDigits]
  -- the first digit is no blank and no sign, so nothing is skipped before it
  obtain ⟨c, cs, hcons⟩ := List.exists_cons_of_ne_nil (@Nat.toDigits_ne_nil n 10)
  have hc : c.isDigit = true := hdigits c (hcons ▸ List.mem_cons_self)
  have hrange : 48 ≤ c.toNat ∧ c.toNat ≤ 57 := by
    simpa [Char.isDigit, UInt32.le_iff_toNat_le] using hc
  have hspace : isspace c = false := by
    have hblank : c ≠ ' ' := by
      rintro rfl
      cases hc
    have hcontrol : ¬ c ≤ '\r' := fun hle => absurd (show c.toNat ≤ 13 from hle) (by omega)
    simp [isspace, hblank, hcontrol]
  have htrimmed : (Nat.toDigits 10 n).dropWhile isspace = Nat.toDigits 10 n := by
    rw [hcons, List.dropWhile_cons_of_neg (by simp [hspace])]
  have hsign : c ≠ '-' ∧ c ≠ '+' := by
    constructor <;>
    · rintro rfl
      cases hc
  unfold strtoul
  simp only [htrimmed, if_neg (by decide : ¬ (10 : Nat) = 0)]
  split
  · next hminus => exact absurd (hcons.symm.trans hminus) (by simp [hsign.1])
  · next hplus => exact absurd (hcons.symm.trans hplus) (by simp [hsign.2])
  · rw [hvalue, Nat.min_eq_left h]

end DarkMed.Tun2Socks
