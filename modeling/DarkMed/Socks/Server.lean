import DarkMed.Socks.Proto

/-!
# The Server's Handshake

`hev-socks5-server.c`, with the users of `hev-socks5-authenticator.c`.  `none` is a return of -1.
-/

namespace DarkMed.Socks

open DarkMed.Lib.Wire

structure HevSocks5User where
  name : List UInt8
  pass : List UInt8
  deriving DecidableEq

/-- `hev_socks5_user_checker`. -/
def HevSocks5User.check (self : HevSocks5User) (pass : List UInt8) : Bool := self.pass = pass

/-- The tree of an authenticator, in any order: no two users have one name. -/
abbrev HevSocks5Authenticator := List HevSocks5User

/-- `hev_socks5_authenticator_get`. -/
def HevSocks5Authenticator.get (self : HevSocks5Authenticator) (name : List UInt8) :
    Option HevSocks5User :=
  self.find? fun user => user.name = name

structure HevSocks5Server where
  auth : Option HevSocks5Authenticator
  /-- What `hev_socks5_name_into_sockaddr6` finds. -/
  resolve : List UInt8 → Option (List.Vector UInt8 16)
  /-- Whether `hev_socks5_server_connect` comes through. -/
  connect : SockaddrIn6 → Bool
  /-- Whether `hev_socks5_server_bind` comes through, and the address then. -/
  bind : SockaddrIn6 → Bool × SockaddrIn6
  /-- The same without an address. -/
  socket : Bool

/-- What a server serves after the handshake. -/
structure Service where
  type : HevSocks5Type
  user : Option HevSocks5User
  addr : SockaddrIn6

namespace HevSocks5Server

/-! ## Authentication -/

/-- The method that the server asks for. -/
def method (self : HevSocks5Server) : UInt8 :=
  if self.auth.isSome then authMethodUser else authMethodNone

/-- `hev_socks5_server_read_auth_method`. -/
def readAuthMethod (self : HevSocks5Server) : Proc (Option UInt8) := do
  let auth ← Proc.read 2
  match auth with
  | [ver, methodLen] =>
    if ver ≠ version5 then return none
    else do
      let methods ← Proc.read methodLen.toNat
      if methods.length ≠ methodLen.toNat then return none
      else return if self.method ∈ methods then some self.method else none
  | _ => return none

/-- `hev_socks5_server_write_auth_method`; -1 becomes `authMethodDeny`. -/
def writeAuthMethod (method : Option UInt8) : Proc Bool := do
  let res ← Proc.write [version5, method.getD authMethodDeny]
  return 0 < res

/-- `hev_socks5_server_read_auth_user`, with the users `auth`. -/
def readAuthUser (auth : HevSocks5Authenticator) : Proc (Option HevSocks5User) := do
  let head ← Proc.read 2
  match head with
  | [ver, nlen] =>
    if ver ≠ 1 then return none
    else if nlen = 0 then return none
    else do
      let name ← Proc.read (nlen.toNat + 1)
      if name.length ≠ nlen.toNat + 1 then return none
      else
        if name.getD nlen.toNat 0 = 0 then return none
        else do
          let pass ← Proc.read (name.getD nlen.toNat 0).toNat
          if pass.length ≠ (name.getD nlen.toNat 0).toNat then return none
          else return (auth.get (name.take nlen.toNat)).filter fun user => user.check pass
  | _ => return none

/-- `hev_socks5_server_write_auth_user`; the byte is that of 0 or -1. -/
def writeAuthUser (ok : Bool) : Proc Bool := do
  let res ← Proc.write [1, if ok then 0 else 255]
  return 0 < res

/-- The case `HEV_SOCKS5_AUTH_METHOD_USER` of `hev_socks5_server_auth`. -/
def authUser (auth : HevSocks5Authenticator) : Proc (Option (Option HevSocks5User)) := do
  let user ← readAuthUser auth
  let sent ← writeAuthUser user.isSome
  return if sent = false then none else user.map some

/-- `hev_socks5_server_auth`: the user, if there has to be one. -/
def authenticate (self : HevSocks5Server) : Proc (Option (Option HevSocks5User)) := do
  let method ← self.readAuthMethod
  let sent ← writeAuthMethod method
  if sent = false then return none
  else
    match method with
    | none => return none
    | some _ =>
      match self.auth with
      | none => return some none
      | some auth => authUser auth

/-! ## The request -/

/-- What `hev_socks5_server_read_request` leaves behind when it returns 0. -/
inductive Request where
  | refused (rep : UInt8) (addr : SockaddrIn6)
  | accepted (cmd : UInt8) (addr : SockaddrIn6)

/-- An address that has not been written to. -/
def zeroAddr : SockaddrIn6 := ⟨⟨[0, 0], rfl⟩, ⟨List.replicate 16 0, rfl⟩⟩

/-- What `hev_socks5_addr_into_sockaddr6` leaves behind when it fails: a port. -/
def failedAddr : HevSocks5Addr → SockaddrIn6
  | .name _ port => { zeroAddr with port }
  | _ => zeroAddr

/-- How much of the address is missing behind its first byte. -/
def addrlen (atype first : UInt8) : Option Nat :=
  if atype = addrTypeIpv4 then some 5
  else if atype = addrTypeIpv6 then some 17
  else if atype = addrTypeName then some (2 + first.toNat)
  else none

/-- `hev_socks5_server_read_request`. -/
def readRequest (self : HevSocks5Server) : Proc (Option Request) := do
  let req ← Proc.read 5
  match req with
  | [ver, cmd, _, atype, first] =>
    if ver ≠ version5 then return some (.refused resRepFail zeroAddr)
    else
      match addrlen atype first with
      | none => return some (.refused resRepAddr zeroAddr)
      | some len => do
        let rest ← Proc.read len
        if rest.length ≠ len then return some (.refused resRepAddr zeroAddr)
        else
          match HevSocks5Addr.ofBytes (atype :: first :: rest) with
          | none => return some (.refused resRepAddr zeroAddr)
          | some addr =>
            match addrIntoSockaddr6 self.resolve addr with
            | none => return some (.refused resRepAddr (failedAddr addr))
            | some saddr => return some (.accepted cmd saddr)
  | _ => return none

/-- The middle of `hev_socks5_server_handshake`. -/
def serve (self : HevSocks5Server) : Request → UInt8 × HevSocks5Type × SockaddrIn6
  | .refused rep addr => (rep, .none, addr)
  | .accepted cmd addr =>
    if cmd = reqCmdConnect then
      (if self.connect addr then resRepSucc else resRepHost, .tcp, addr)
    else if cmd = reqCmdUdpAsc then
      (if (self.bind addr).1 then resRepSucc else resRepFail, .udpInUdp, (self.bind addr).2)
    else if cmd = reqCmdFwdUdp then
      (if self.socket then resRepSucc else resRepFail, .udpInTcp, addr)
    else (resRepImpl, .none, addr)

def response (rep : UInt8) (addr : SockaddrIn6) : List UInt8 :=
  [version5, rep, 0] ++ (addrFromSockaddr6 addr).bytes

/-- `hev_socks5_server_write_response`. -/
def writeResponse (rep : UInt8) (addr : SockaddrIn6) : Proc Bool := do
  let res ← Proc.write (response rep addr)
  return 0 < res

/-- The end of `hev_socks5_server_handshake`. -/
def reply (user : Option HevSocks5User) (served : UInt8 × HevSocks5Type × SockaddrIn6) :
    Proc (Option Service) := do
  let sent ← writeResponse served.1 served.2.2
  return if sent = false ∨ served.1 ≠ resRepSucc then none
    else some ⟨served.2.1, user, served.2.2⟩

/-- `hev_socks5_server_handshake` behind the authentication. -/
def handle (self : HevSocks5Server) (user : Option HevSocks5User) : Proc (Option Service) := do
  let req ← self.readRequest
  match req with
  | none => return none
  | some req => reply user (self.serve req)

/-- `hev_socks5_server_handshake`, up to its timeouts. -/
def handshake (self : HevSocks5Server) : Proc (Option Service) := do
  let auth ← self.authenticate
  match auth with
  | none => return none
  | some user => self.handle user

end HevSocks5Server

/-- A server with one user. -/
def someServer : HevSocks5Server where
  auth := some [⟨[117], [112]⟩]
  resolve _ := none
  connect _ := true
  bind addr := (true, addr)
  socket := true

/-- A session of that user. -/
def someService : Service where
  type := .tcp
  user := some ⟨[117], [112]⟩
  addr := ⟨.cons 1 (.cons 187 .nil), ⟨mappedPrefix ++ [192, 0, 2, 1], rfl⟩⟩

end DarkMed.Socks
