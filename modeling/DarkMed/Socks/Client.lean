import DarkMed.Socks.Proto

/-!
# The Client's Handshake

`hev-socks5-client.c`, with the upstream addresses of `hev-socks5-client-tcp.c` and
`hev-socks5-client-udp.c`.  A function that returns 0 or -1 says here whether it returns 0.

`hev_task_io_socket_send` and `hev_task_io_socket_recv` with `MSG_WAITALL` are a `write` and a
`read`: callers take a write to have failed when its count is not positive, and a read when its
count is not the one that they asked for.
-/

namespace DarkMed.Socks

open DarkMed.Lib.Wire

structure HevSocks5Client where
  type : HevSocks5Type
  user : Option (List UInt8)
  pass : Option (List UInt8)
  /-- What `get_upstream_addr` gives. -/
  upstreamAddr : HevSocks5Addr
  /-- Whether a socket for UDP can be bound and connected to an address. -/
  associate : SockaddrIn6 → Bool

namespace HevSocks5Client

/-! ## What the client writes -/

/-- `auth.methods[0]`. -/
def method (self : HevSocks5Client) : UInt8 :=
  if self.user.isNone ∨ self.pass.isNone then authMethodNone else authMethodUser

def authMethods (self : HevSocks5Client) : List UInt8 := [version5, 1, self.method]

/-- `hev_socks5_client_write_auth_methods`. -/
def writeAuthMethods (self : HevSocks5Client) : Proc Bool := do
  let res ← Proc.write self.authMethods
  return 0 < res

/-- A text with its length, of which there are eight bits. -/
def pascal (s : List UInt8) : List UInt8 :=
  UInt8.ofNat s.length :: s.take (UInt8.ofNat s.length).toNat

/-- The I/O vector of `hev_socks5_client_write_auth_creds`. -/
def authCreds (user pass : List UInt8) : List UInt8 := authVersion1 :: pascal user ++ pascal pass

/-- `hev_socks5_client_write_auth_creds`. -/
def writeAuthCreds (self : HevSocks5Client) : Proc Bool :=
  match self.user, self.pass with
  | some user, some pass => do
    let res ← Proc.write (authCreds user pass)
    return 0 < res
  | _, _ => .done true

def reqCmd : HevSocks5Type → Option UInt8
  | .tcp => some reqCmdConnect
  | .udpInTcp => some reqCmdFwdUdp
  | .udpInUdp => some reqCmdUdpAsc
  | .none => none

/-- The I/O vector of `hev_socks5_client_write_request`. -/
def request (cmd : UInt8) (addr : HevSocks5Addr) : List UInt8 := [version5, cmd, 0] ++ addr.bytes

/-- `hev_socks5_client_write_request`. -/
def writeRequest (self : HevSocks5Client) : Proc Bool :=
  match reqCmd self.type with
  | none => .done false
  | some cmd => do
    let res ← Proc.write (request cmd self.upstreamAddr)
    return 0 < res

/-! ## What the client reads -/

/-- `hev_socks5_client_read_auth_method`, which returns the method. -/
def readAuthMethod : Proc (Option UInt8) := do
  let auth ← Proc.read 2
  match auth with
  | [ver, method] => return if ver ≠ version5 then none else some method
  | _ => return none

/-- `hev_socks5_client_read_auth_creds`. -/
def readAuthCreds : Proc Bool := do
  let res ← Proc.read 2
  match res with
  | [ver, rep] => return ver = authVersion1 ∧ rep = resRepSucc
  | _ => return false

/-- `set_upstream_addr` of the client's class. -/
def setUpstreamAddr (self : HevSocks5Client) (addr : HevSocks5Addr) : Bool :=
  if self.type ≠ .udpInUdp then true
  else
    -- `read_response` lets no name through
    match addrIntoSockaddr6 (fun _ => none) addr with
    | none => false
    | some saddr => self.associate saddr

/-- The second half of `hev_socks5_client_read_response`. -/
def readAddr (self : HevSocks5Client) (atype : UInt8) (addrlen : Nat) : Proc Bool := do
  let rest ← Proc.read addrlen
  if rest.length ≠ addrlen then return false
  else
    match HevSocks5Addr.ofBytes (atype :: rest) with
    | none => return false
    | some addr => return self.setUpstreamAddr addr

/-- `hev_socks5_client_read_response`. -/
def readResponse (self : HevSocks5Client) : Proc Bool := do
  let res ← Proc.read 4
  match res with
  | [ver, rep, _, atype] =>
    if ver ≠ version5 then .done false
    else if rep ≠ resRepSucc then .done false
    else if atype = addrTypeIpv4 then self.readAddr atype 6
    else if atype = addrTypeIpv6 then self.readAddr atype 18
    else .done false
  | _ => .done false

/-! ## The handshake -/

/-- The credentials, in `hev_socks5_client_handshake_standard`, after the method `res`. -/
def standardAuth (self : HevSocks5Client) (res : Option UInt8) : Proc Bool :=
  if res = some authMethodUser then self.writeAuthCreds.andThen readAuthCreds
  else .done (res = some authMethodNone)

/-- `hev_socks5_client_handshake_standard`. -/
def handshakeStandard (self : HevSocks5Client) : Proc Bool :=
  self.writeAuthMethods.andThen do
    let res ← readAuthMethod
    (self.standardAuth res).andThen (self.writeRequest.andThen self.readResponse)

/-- The same in `hev_socks5_client_handshake_pipeline`, which has sent the credentials. -/
def pipelineAuth (res : Option UInt8) : Proc Bool :=
  if res = some authMethodUser then readAuthCreds else .done (res = some authMethodNone)

/-- `hev_socks5_client_handshake_pipeline`. -/
def handshakePipeline (self : HevSocks5Client) : Proc Bool :=
  self.writeAuthMethods.andThen <| self.writeAuthCreds.andThen <| self.writeRequest.andThen do
    let res ← readAuthMethod
    (pipelineAuth res).andThen self.readResponse

/-- `hev_socks5_client_handshake`, up to its timeouts. -/
def handshake (self : HevSocks5Client) (pipeline : Bool) : Proc Bool :=
  if pipeline then self.handshakePipeline else self.handshakeStandard

end HevSocks5Client

/-- A client with a user name and a password. -/
def someClient : HevSocks5Client where
  type := .tcp
  user := some [117]
  pass := some [112]
  upstreamAddr := .ipv4 ⟨[192, 0, 2, 1], rfl⟩ ⟨[1, 187], rfl⟩
  associate _ := false

end DarkMed.Socks
