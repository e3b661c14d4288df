import DarkMed.Lib.Wire
import Mathlib.Data.Vector.Defs

/-!
# The Messages of SOCKS5

`hev-socks5-proto.h` and what `hev-socks5-misc.c` does with addresses.
-/

namespace DarkMed.Socks

/-! ## Constants -/

def version5 : UInt8 := 5

def authVersion1 : UInt8 := 1

/-- `HevSocks5AuthMethod`. -/
def authMethodNone : UInt8 := 0
def authMethodUser : UInt8 := 2
def authMethodDeny : UInt8 := 255

/-- `HevSocks5ReqCmd`. -/
def reqCmdConnect : UInt8 := 1
def reqCmdUdpAsc : UInt8 := 3
def reqCmdFwdUdp : UInt8 := 5

/-- `HevSocks5ResRep`. -/
def resRepSucc : UInt8 := 0
def resRepFail : UInt8 := 1
def resRepHost : UInt8 := 4
def resRepImpl : UInt8 := 7
def resRepAddr : UInt8 := 8

/-- `HevSocks5AddrType`. -/
def addrTypeIpv4 : UInt8 := 1
def addrTypeIpv6 : UInt8 := 4
def addrTypeName : UInt8 := 3

inductive HevSocks5Type where
  | none
  | tcp
  | udpInTcp
  | udpInUdp
  deriving DecidableEq, Repr

/-! ## Addresses -/

/-- A port, in network order. -/
abbrev Port := List.Vector UInt8 2

/-- What `domain.len` can be the length of. -/
abbrev Domain := { name : List UInt8 // name.length < 256 }

inductive HevSocks5Addr where
  | ipv4 (addr : List.Vector UInt8 4) (port : Port)
  | ipv6 (addr : List.Vector UInt8 16) (port : Port)
  | name (addr : Domain) (port : Port)
  deriving DecidableEq

/-- `struct sockaddr_in6`, up to its family. -/
structure SockaddrIn6 where
  port : Port
  addr : List.Vector UInt8 16
  deriving DecidableEq

namespace HevSocks5Addr

/-- How the address lies in memory and goes over the wire. -/
def bytes : HevSocks5Addr → List UInt8
  | .ipv4 addr port => addrTypeIpv4 :: addr.toList ++ port.toList
  | .ipv6 addr port => addrTypeIpv6 :: addr.toList ++ port.toList
  | .name addr port => addrTypeName :: UInt8.ofNat addr.1.length :: addr.1 ++ port.toList

/-- `hev_socks5_addr_len`. -/
def addrLen : HevSocks5Addr → Nat
  | .ipv4 _ _ => 7
  | .ipv6 _ _ => 19
  | .name addr _ => 4 + addr.1.length

/-- The address that lies in memory. -/
def ofBytes : List UInt8 → Option HevSocks5Addr
  | [] => none
  | atype :: rest =>
    if atype = addrTypeIpv4 then
      if h : rest.length = 6 then
        some (.ipv4 ⟨rest.take 4, by simp [h]⟩ ⟨rest.drop 4, by simp [h]⟩)
      else none
    else if atype = addrTypeIpv6 then
      if h : rest.length = 18 then
        some (.ipv6 ⟨rest.take 16, by simp [h]⟩ ⟨rest.drop 16, by simp [h]⟩)
      else none
    else if atype = addrTypeName then
      match rest with
      | [] => none
      | len :: rest =>
        if h : rest.length = len.toNat + 2 then
          some (.name ⟨rest.take len.toNat, by simp [h, UInt8.toNat_lt len]⟩
            ⟨rest.drop len.toNat, by simp [h]⟩)
        else none
    else none

/-- The length the engine computes from the type of an address is that of its bytes. -/
theorem length_bytes (addr : HevSocks5Addr) : addr.bytes.length = addr.addrLen := by
  cases addr with
  | ipv4 addr port => simp [bytes, addrLen]
  | ipv6 addr port => simp [bytes, addrLen]
  | name addr port =>
    simp [bytes, addrLen]
    omega

theorem vector_take {n : Nat} (v : List.Vector UInt8 n) (l : List UInt8)
    (h : ((v.toList ++ l).take n).length = n) :
    (⟨(v.toList ++ l).take n, h⟩ : List.Vector UInt8 n) = v :=
  Subtype.ext (List.take_left' v.toList_length)

theorem vector_drop {n m : Nat} {l : List UInt8} (hl : l.length = m) (v : List.Vector UInt8 n)
    (h : ((l ++ v.toList).drop m).length = n) :
    (⟨(l ++ v.toList).drop m, h⟩ : List.Vector UInt8 n) = v :=
  Subtype.ext (List.drop_left' hl)

/-- An address is read back from its bytes. -/
@[simp] theorem ofBytes_bytes (addr : HevSocks5Addr) : ofBytes addr.bytes = some addr := by
  cases addr with
  | ipv4 addr port =>
    show dite ((addr.toList ++ port.toList).length = 6) _ _ = _
    rw [dif_pos (by simp)]
    exact congrArg₂ (fun a p => some (ipv4 a p)) (vector_take _ _ _)
      (vector_drop addr.toList_length _ _)
  | ipv6 addr port =>
    show dite ((addr.toList ++ port.toList).length = 18) _ _ = _
    rw [dif_pos (by simp)]
    exact congrArg₂ (fun a p => some (ipv6 a p)) (vector_take _ _ _)
      (vector_drop addr.toList_length _ _)
  | name addr port =>
    have hlen : (UInt8.ofNat addr.1.length).toNat = addr.1.length := by
      simpa using addr.2
    show dite ((addr.1 ++ port.toList).length = (UInt8.ofNat addr.1.length).toNat + 2) _ _ = _
    rw [dif_pos (by simp [hlen])]
    exact congrArg₂ (fun a p => some (name a p)) (Subtype.ext (List.take_left' hlen.symm))
      (vector_drop hlen.symm _ _)

/-- What is read as an address has these bytes and no others. -/
theorem bytes_ofBytes {l : List UInt8} {addr : HevSocks5Addr} (h : ofBytes l = some addr) :
    addr.bytes = l := by
  unfold ofBytes at h
  split at h
  · cases h
  · next atype rest =>
    split_ifs at h with h4 h6 h16 h18 h3
    · obtain rfl := Option.some.inj h
      show addrTypeIpv4 :: (rest.take 4 ++ rest.drop 4) = atype :: rest
      rw [List.take_append_drop, h4]
    · obtain rfl := Option.some.inj h
      show addrTypeIpv6 :: (rest.take 16 ++ rest.drop 16) = atype :: rest
      rw [List.take_append_drop, h16]
    · split at h
      · cases h
      · next len rest =>
        split_ifs at h with hlen
        obtain rfl := Option.some.inj h
        show addrTypeName :: UInt8.ofNat (rest.take len.toNat).length ::
          (rest.take len.toNat ++ rest.drop len.toNat) = atype :: len :: rest
        rw [List.take_append_drop, List.length_take_of_le (by omega), UInt8.ofNat_toNat, h3]

end HevSocks5Addr

/-- `IN6_IS_ADDR_V4MAPPED`. -/
def mappedPrefix : List UInt8 := [0, 0, 0, 0, 0, 0, 0, 0, 0, 0, 255, 255]

/-- `hev_socks5_addr_from_sockaddr6`. -/
def addrFromSockaddr6 (saddr : SockaddrIn6) : HevSocks5Addr :=
  if saddr.addr.toList.take 12 = mappedPrefix then
    .ipv4 ⟨saddr.addr.toList.drop 12, by simp⟩ saddr.port
  else .ipv6 saddr.addr saddr.port

/-- `hev_socks5_addr_into_sockaddr6`; what `hev_socks5_name_into_sockaddr6` finds for a name is
    `resolve`'s. -/
def addrIntoSockaddr6 (resolve : List UInt8 → Option (List.Vector UInt8 16)) :
    HevSocks5Addr → Option SockaddrIn6
  | .ipv4 addr port => some ⟨port, ⟨mappedPrefix ++ addr.toList, by simp [mappedPrefix]⟩⟩
  | .ipv6 addr port => some ⟨port, addr⟩
  | .name addr port => (resolve addr.1).map fun a => ⟨port, a⟩

/-- An address goes through a reply and comes back. -/
theorem addrIntoSockaddr6_addrFromSockaddr6
    (resolve : List UInt8 → Option (List.Vector UInt8 16)) (saddr : SockaddrIn6) :
    addrIntoSockaddr6 resolve (addrFromSockaddr6 saddr) = some saddr := by
  unfold addrFromSockaddr6
  split_ifs with hmapped
  · have haddr : (⟨mappedPrefix ++ saddr.addr.toList.drop 12, by simp [mappedPrefix]⟩ :
        List.Vector UInt8 16) = saddr.addr := by
      apply List.Vector.eq
      show mappedPrefix ++ saddr.addr.toList.drop 12 = saddr.addr.toList
      rw [← hmapped, List.take_append_drop]
    exact congrArg (fun addr => some (SockaddrIn6.mk saddr.port addr)) haddr
  · rfl

end DarkMed.Socks
