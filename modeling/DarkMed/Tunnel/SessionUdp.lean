import DarkMed.Lib.Framing
import DarkMed.Lib.Transition
import DarkMed.Socks.Proto

/-!
# Datagrams over a Stream

A UDP association in a TCP connection: `hev-socks5-udp.c` with the messages of
`HEV_SOCKS5_TYPE_UDP_IN_TCP`, `hev-socks5-session-udp.c` at the end of the tunnel, and the splicer
of `hev-socks5-udp.c` at the end of the server.

`UdpForward` is the way of a datagram from the application to where it is sent.  The two ends are
tasks of their own, and lwIP's callback may come wherever the session's task yields; every answer
of the system is an argument of the step.
-/

namespace DarkMed.Tunnel

open DarkMed.Lib.Framing DarkMed.Lib.Transition DarkMed.Socks

/-- `UDP_BUF_SIZE` -/
def udpBufSize : Nat := 1500

/-- `UDP_POOL_SIZE` -/
def udpPoolSize : Nat := 512

/-! ## Messages -/

/-- `HevSocks5UDPMsg`: the bytes at `addr`, and those at `buf`. -/
structure HevSocks5UDPMsg where
  addr : List UInt8
  buf : List UInt8
  deriving DecidableEq, Repr

/-- `hev_socks5_addr_len`, of what lies in memory; 0 stands for -1. -/
def addrLenAt : List UInt8 → Nat
  | atype :: rest =>
    if atype = addrTypeIpv4 then 7
    else if atype = addrTypeIpv6 then 19
    else if atype = addrTypeName then 4 + (rest.headD 0).toNat
    else 0
  | [] => 0

/-- The address that lies in front of `mem`. -/
def addrAt (mem : List UInt8) : Option HevSocks5Addr :=
  HevSocks5Addr.ofBytes (mem.take (addrLenAt mem))

namespace HevSocks5UDPMsg

/-- The three parts of the I/O vector of `hev_socks5_udp_sendmmsg_tcp`; `datlen` has 16 bits, in
    network order, and `hdrlen` has 8. -/
def frame (msg : HevSocks5UDPMsg) : List UInt8 :=
  [UInt8.ofNat (msg.buf.length / 256), UInt8.ofNat msg.buf.length,
    UInt8.ofNat (3 + msg.addr.length)] ++ msg.addr ++ msg.buf

/-- One turn of the loop of `hev_socks5_udp_recvmmsg_tcp`: a header of five bytes, its checks, and
    then the rest of the address and the data, in one call. -/
def judge (got : List UInt8) : Verdict HevSocks5UDPMsg :=
  match got with
  | hi :: lo :: hdrlen :: atype :: len :: rest =>
    if hdrlen.toNat < 5 then .bad
    else if 256 * hi.toNat + lo.toNat > udpBufSize - (hdrlen.toNat - 3) then .bad
    else if rest.length < hdrlen.toNat - 5 + (256 * hi.toNat + lo.toNat) then
      .more (hdrlen.toNat - 5 + (256 * hi.toNat + lo.toNat) - rest.length)
    else
      .whole ⟨atype :: len :: rest.take (hdrlen.toNat - 5), rest.drop (hdrlen.toNat - 5)⟩
  | _ => .more (5 - got.length)

def format : Format HevSocks5UDPMsg := ⟨frame, judge⟩

end HevSocks5UDPMsg

/-! ## From the application to the server -/

/-- `HevSocks5UDPFrame`, with the chain of its pbufs. -/
structure HevSocks5UDPFrame where
  addr : HevSocks5Addr
  data : List (List UInt8)
  deriving DecidableEq

/-- What `hev_socks5_session_udp_fwd_f` makes of a frame: of the chain, the first pbuf. -/
def HevSocks5UDPFrame.msg (frame : HevSocks5UDPFrame) : HevSocks5UDPMsg :=
  ⟨frame.addr.bytes, frame.data.headD []⟩

/-- Where `hev_socks5_session_udp_fwd_f` is. -/
inductive Sender where
  | idle
  /-- In `sendmsg`, with `n` messages, of which `out` bytes are out. -/
  | sending (n out : Nat)
  /-- It has returned -1. -/
  | failed
  deriving DecidableEq, Repr

/-- A datagram, and where it goes or comes from. -/
abbrev Datagram := SockaddrIn6 × List UInt8

/-- Where `hev_socks5_udp_fwd_f` of the server is. -/
inductive Receiver where
  | recvmmsg
  | sendmmsg (dvec : List Datagram)
  /-- It has returned -1. -/
  | failed
  /-- It uses an element of `svec` that `hev_socks5_udp_recvmmsg` has not filled. -/
  | undefined
  deriving DecidableEq

structure UdpForward where
  /-- `frame_list` of the session. -/
  frames : List HevSocks5UDPFrame := []
  sender : Sender := .idle
  link : Link HevSocks5UDPMsg := {}
  /-- The server has seen the end of the stream. -/
  ended : Bool := false
  /-- What the server has filled of `svec`. -/
  svec : List HevSocks5UDPMsg := []
  receiver : Receiver := .recvmmsg
  /-- What the session has taken from lwIP. -/
  accepted : List HevSocks5UDPFrame := []
  /-- What the server has sent. -/
  handed : List Datagram := []

/-- `!svec[i].len || !svec[i].addr`, and `hev_socks5_addr_into_sockaddr6`. -/
def HevSocks5UDPMsg.datagram (resolve : List UInt8 → Option (List.Vector UInt8 16))
    (msg : HevSocks5UDPMsg) : Option Datagram :=
  if msg.buf = [] then none
  else
    (addrAt (msg.addr ++ msg.buf)).bind fun addr =>
      (addrIntoSockaddr6 resolve addr).map fun saddr => (saddr, msg.buf)

inductive UdpAction where
  /-- `malloc` says whether there is memory. -/
  | udpRecvHandler (addr : HevSocks5Addr) (p : List (List UInt8)) (malloc : Bool)
  | fwdF
  /-- The socket takes `n` bytes. -/
  | sendmsg (n : Nat)
  | sent
  /-- `sendmsg` fails, or times out. -/
  | sendFailed
  /-- The server gets `n` bytes; `again` says whether `errno` is `EAGAIN` then, from whatever call of
      its thread failed last. -/
  | recv (n : Nat) (again : Bool)
  | recvAgain
  /-- The stream is closed, or else a wait inside a frame has timed out; `res` is what comes of the
      header then, and `again` is as above. -/
  | recvEnd (closed : Bool) (res : Int) (again : Bool)
  /-- `bind` says whether the binder comes through, `c` how many datagrams are sent. -/
  | sendmmsg (bind : Bool) (c : Nat)

namespace UdpForward

/-! ### The session -/

/-- `udp_recv_handler`; the length of a pbuf has 16 bits. -/
def udpRecvHandler (self : UdpForward) (addr : HevSocks5Addr) (p : List (List UInt8))
    (malloc : Bool) : Option UdpForward :=
  if ∀ q ∈ p, q.length < 65536 then
    if self.frames.length > udpPoolSize then some self
    else if malloc = false then some self
    else some { self with
      frames := self.frames ++ [⟨addr, p⟩]
      accepted := self.accepted ++ [⟨addr, p⟩] }
  else none

/-- `hev_socks5_session_udp_fwd_f`, up to `sendmsg`. -/
def fwdF (num : Nat) (self : UdpForward) : UdpForward :=
  if self.frames = [] then self
  else
    { self with
      sender := .sending (min self.frames.length num) 0
      link := self.link.send HevSocks5UDPMsg.format
        ((self.frames.take (min self.frames.length num)).map HevSocks5UDPFrame.msg) }

/-- The loop of `hev_task_io_socket_sendmsg`. -/
def sendmsg (self : UdpForward) (k : Nat) : Option UdpForward :=
  match self.sender with
  | .sending n out =>
    if 0 < k ∧ k ≤ self.link.unsent.length then
      some { self with sender := .sending n (out + k), link := self.link.give k }
    else none
  | _ => none

/-- `hev_socks5_session_udp_fwd_f` behind `sendmsg`. -/
def sent (self : UdpForward) : Option UdpForward :=
  match self.sender with
  | .sending n out =>
    if self.link.unsent = [] ∧ 0 < out then
      some { self with frames := self.frames.drop n, sender := .idle }
    else none
  | _ => none

/-- A call that has some bytes out counts as if all of them were. -/
def sendFailed (self : UdpForward) : Option UdpForward :=
  match self.sender with
  | .sending n out =>
    if out = 0 then some { self with sender := .failed }
    else if self.link.unsent = [] then none
    else some { self with
      frames := self.frames.drop n
      sender := .idle
      link := { self.link with unsent := [] } }
  | _ => none

/-! ### The server -/

section Server

variable (resolve : List UInt8 → Option (List.Vector UInt8 16))

/-- `hev_socks5_udp_fwd_f` behind `hev_socks5_udp_recvmmsg`, up to `sendmmsg`. -/
def received (self : UdpForward) (svec : List HevSocks5UDPMsg) : UdpForward :=
  match svec.mapM (HevSocks5UDPMsg.datagram resolve) with
  | some dvec => { self with svec := [], receiver := .sendmmsg dvec }
  | none => { self with svec := [], receiver := .failed }

/-- The loop of `hev_socks5_udp_recvmmsg_tcp` goes on to the next message, if there is one. -/
def filled (num : Nat) (self : UdpForward) : UdpForward :=
  if self.svec.length < num then self else self.received resolve self.svec

/-- `hev_socks5_udp_fwd_f` behind a -1 of `hev_socks5_udp_recvmmsg_tcp`. -/
def minusOne (again : Bool) (self : UdpForward) : UdpForward :=
  -- with `EAGAIN` it returns 0, and is called again
  if again then { self with link := { self.link with got := [] }, svec := [] }
  else { self with receiver := .failed }

/-- `hev_socks5_udp_recvmmsg_tcp` behind a call that has read something.  A header that is refused
    is a -1 that sets no `errno`: where an older `EAGAIN` is left, the splicer goes on, and what is
    behind the header is taken for the next one. -/
def arrived (num : Nat) (again : Bool) (self : UdpForward) : UdpForward :=
  match HevSocks5UDPMsg.judge self.link.got with
  | .more _ => self
  | .bad => self.minusOne again
  | .whole msg =>
    filled resolve num { self with link := self.link.accept msg, svec := self.svec ++ [msg] }

/-- A call in `hev_socks5_udp_recvmmsg_tcp` that returns `k` bytes. -/
def recv (num : Nat) (self : UdpForward) (k : Nat) (again : Bool) : Option UdpForward :=
  match HevSocks5UDPMsg.judge self.link.got with
  | .more n =>
    if 0 < k ∧ k ≤ n ∧ k ≤ self.link.wire.length then
      some (arrived resolve num again { self with link := self.link.take k })
    else none
  | _ => none

/-- A header is read without waiting. -/
def recvAgain (self : UdpForward) : Option UdpForward :=
  if self.link.got = [] then
    some (if self.svec = [] then self else self.received resolve self.svec)
  else none

/-- What has been read of a frame is not read again, even if the stream goes on. -/
def gaveUp (closed : Bool) (self : UdpForward) : UdpForward :=
  if closed then { self with ended := true }
  else { self with link := { self.link with got := [] } }

/-- `hev_socks5_udp_recvmmsg_tcp` behind a call that reads no more.  Inside a frame, what it returns
    is a number of bytes. -/
def recvEnd (self : UdpForward) (closed : Bool) (res : Int) (again : Bool) : Option UdpForward :=
  if self.ended ∨ self.link.got = [] then
    if closed = false then none
    else some (if self.svec = [] then { self.gaveUp closed with receiver := .failed }
      else received resolve (self.gaveUp closed) self.svec)
  else if self.link.got.length < 5 then
    if self.svec ≠ [] then some (received resolve (self.gaveUp closed) self.svec)
    else if self.link.got.length - 2 ≤ res ∧ res ≤ self.link.got.length then
      -- a sum of -1 is that of one byte and a wait
      some { self.gaveUp closed with
        receiver :=
          if 0 < res then .undefined else if res = -1 ∧ again then .recvmmsg else .failed }
    else none
  else if self.link.got.length = 5 then
    some { self.gaveUp closed with receiver := .failed }
  else if self.svec.length < self.link.got.length - 5 then
    some { self.gaveUp closed with receiver := .undefined }
  else
    some (received resolve (self.gaveUp closed) (self.svec.take (self.link.got.length - 5)))

/-- The end of `hev_socks5_udp_fwd_f`. -/
def sendmmsg (self : UdpForward) (bind : Bool) (c : Nat) : Option UdpForward :=
  match self.receiver with
  | .sendmmsg dvec =>
    if c ≤ dvec.length then
      some (if bind = false ∨ c = 0 then { self with receiver := .failed }
        else { self with handed := self.handed ++ dvec.take c, receiver := .recvmmsg })
    else none
  | _ => none

/-- One step; `num` is the number of messages that an end takes at once. -/
def step (num : Nat) (self : UdpForward) : UdpAction → Option UdpForward
  | .udpRecvHandler addr p malloc => self.udpRecvHandler addr p malloc
  | .fwdF => if self.sender = .idle then some (self.fwdF num) else none
  | .sendmsg n => self.sendmsg n
  | .sent => self.sent
  | .sendFailed => self.sendFailed
  | .recv n again =>
    if self.receiver = .recvmmsg ∧ self.ended = false then self.recv resolve num n again else none
  | .recvAgain =>
    if self.receiver = .recvmmsg ∧ self.ended = false then self.recvAgain resolve else none
  | .recvEnd closed res again =>
    if self.receiver = .recvmmsg then self.recvEnd resolve closed res again else none
  | .sendmmsg bind c => self.sendmmsg bind c

end Server

/-- The application sends two datagrams to a port 53. -/
def exchange : List UdpAction :=
  [.udpRecvHandler (.ipv4 (.cons 192 (.cons 0 (.cons 2 (.cons 1 .nil)))) (.cons 0 (.cons 53 .nil)))
      [[7, 8]] true,
    .udpRecvHandler (.ipv4 (.cons 192 (.cons 0 (.cons 2 (.cons 1 .nil)))) (.cons 0 (.cons 53 .nil)))
      [[9], [10]] true,
    .fwdF, .sendmsg 14, .recv 5 true, .recv 4 true, .sendmsg 9, .sent, .recv 3 true, .recv 5 true,
    .recv 6 true, .sendmmsg true 2]

end UdpForward

end DarkMed.Tunnel
