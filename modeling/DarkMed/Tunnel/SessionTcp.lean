import DarkMed.Lib.Transition
import DarkMed.Tunnel.RingBuffer

/-!
# A TCP Session

`hev-socks5-session-tcp.c`: a connection that an application makes into the tunnel ends in lwIP;
the session forwards what the application sends to the socket of the SOCKS server, and what the
server sends back to the application.

Tasks are cooperative: the session's task gives way to lwIP's tasks where it takes the mutex and
where it yields, so each half of `tcp_splice_f` and of `tcp_splice_b` is one step here, and lwIP's
callbacks may come between any two of them.  Every answer of the system (`writev`, `readv`, what
`tcp_write` and `tcp_output` return, a timeout) is an argument of the step.

What is sent to the application is not copied: lwIP refers to the bytes in the ring buffer until
they are acknowledged.
-/

namespace DarkMed.Tunnel

open DarkMed.Lib.Ring DarkMed.Lib.Transition

/-- `TCP_WND` of `lwipopts.h`. -/
def tcpWnd : Nat := 8 * 8191

/-- `TCP_SND_BUF` of `lwipopts.h`. -/
def tcpSndBuf : Nat := 8 * 8191

/-- What `hev-config.c` makes of `tcp-buffer-size`. -/
def tcpBufferSize (configured : Nat) : Nat :=
  if configured > tcpSndBuf then tcpSndBuf else configured

/-! ## lwIP's part -/

/-- lwIP's end of the connection. -/
structure TcpPcb where
  rcvWnd : Nat := tcpWnd
  sndBuf : Nat := tcpSndBuf
  /-- The segments on `unsent` and `unacked`: where their bytes lie. -/
  queued : List Nat := []
  finSent : Bool := false

namespace TcpPcb

/-- `tcp_write(pcb, ptr, len, 0)`, whose length has 16 bits: no error, and what is queued.
    `taken` says that the state of the connection and the memory admit it. -/
def tcpWrite (pcb : TcpPcb) (taken : Bool) (v : Iovec) : Bool × TcpPcb :=
  let len := v.len % 2 ^ 16
  if taken = false then (false, pcb)
  else if len = 0 then (true, pcb)
  else if len > pcb.sndBuf then (false, pcb)
  else (true, { pcb with
    sndBuf := pcb.sndBuf - len
    queued := pcb.queued ++ Iovec.addresses ⟨v.base, len⟩ })

/-- The calls of `tcp_write` in `tcp_splice_b`, for up to two stretches. -/
def tcpWrites (pcb : TcpPcb) : List Iovec → List Bool → Bool × TcpPcb
  | v :: iov, taken :: answers =>
    let first := pcb.tcpWrite taken v
    let rest := first.2.tcpWrites iov answers
    (first.1 && rest.1, rest.2)
  | _, _ => (true, pcb)

/-- `tcp_recved`. -/
def tcpRecved (pcb : TcpPcb) (len : Nat) : TcpPcb :=
  { pcb with rcvWnd := if pcb.rcvWnd + len > tcpWnd then tcpWnd else pcb.rcvWnd + len }

end TcpPcb

/-- `pbuf_free_header`: frees `size` bytes from the front of a chain. -/
def pbufFreeHeader : List (List UInt8) → Nat → List (List UInt8)
  | [], _ => []
  | p :: ps, size =>
    if size = 0 then p :: ps
    else if p.length ≤ size then pbufFreeHeader ps (size - p.length)
    else p.drop size :: ps

/-! ## The session -/

/-- Where the session's task is. -/
inductive Pc where
  /-- Connecting, or in the handshake. -/
  | starting
  /-- At the top of the loop. -/
  | spliceF
  /-- `writev` has taken `s` bytes; the mutex is next. -/
  | recved (s : Nat)
  | spliceB
  /-- `readv` is done; the mutex is next. -/
  | push (res : Int32)
  | yield
  /-- In the loop that waits for the last acknowledgements. -/
  | drain
  | done
  deriving DecidableEq, Repr

structure HevSocks5SessionTCP where
  /-- The chain of pbufs that have been received; it is `NULL` where it is empty. -/
  queue : List (List UInt8) := []
  pcb : Option TcpPcb := some {}
  buffer : HevRingBuffer
  pcbEof : Bool := false
  resF : Int32 := 1
  resB : Int32 := 1
  pc : Pc := .starting
  /-- `shutdown(fd, SHUT_WR)` has been called. -/
  shutWr : Bool := false
  /-- `readv` has said that nothing more will come. -/
  ended : Bool := false
  /-- A wait of the task has timed out, or the session has been terminated. -/
  timedOut : Bool := false
  /-- What the application has sent. -/
  received : List UInt8 := []
  /-- What has been written to the socket. -/
  written : List UInt8 := []
  /-- What has been read from the socket. -/
  upstream : List UInt8 := []
  /-- What lwIP has been given for the application. -/
  handed : List UInt8 := []
  /-- How much of it the application has acknowledged. -/
  acked : Nat := 0

/-- What a call of `writev` or `readv` comes back with. -/
inductive IoResult (α : Type) where
  | ok (a : α)
  /-- `EAGAIN`. -/
  | again
  /-- 0, or another error. -/
  | failed
  deriving DecidableEq, Repr

inductive Action where
  | tcpRecvHandler (p : Option (List (List UInt8)))
  | tcpSentHandler (len : Nat)
  | tcpErrHandler
  /-- The handshake is done; the stack holds `data`. -/
  | splice (data : Nat → UInt8)
  | tcpSpliceF (writev : IoResult Nat)
  | recved
  | tcpSpliceB (readv : IoResult (List UInt8))
  | push (first second output : Bool)
  | yield (timedOut : Bool)
  | drain (timedOut : Bool)

namespace HevSocks5SessionTCP

/-! ### Callbacks of lwIP -/

/-- `tcp_recv_handler`.  lwIP delivers what fits the window, and nothing after the end. -/
def tcpRecvHandler (self : HevSocks5SessionTCP) (p : Option (List (List UInt8))) :
    Option HevSocks5SessionTCP :=
  match self.pcb, p with
  | none, _ => none
  | some pcb, some p =>
    if self.pcbEof = false ∧ p.flatten.length ≤ pcb.rcvWnd then
      some { self with
        pcb := some { pcb with rcvWnd := pcb.rcvWnd - p.flatten.length }
        queue := self.queue ++ p
        received := self.received ++ p.flatten }
    else none
  | some _, none =>
    if self.pcbEof = false then some { self with pcbEof := true } else none

/-- `tcp_sent_handler`.  What is acknowledged has been queued. -/
def tcpSentHandler (self : HevSocks5SessionTCP) (len : Nat) : Option HevSocks5SessionTCP :=
  match self.pcb with
  | none => none
  | some pcb =>
    if 0 < len ∧ len ≤ pcb.queued.length then
      some { self with
        pcb := some { pcb with sndBuf := pcb.sndBuf + len, queued := pcb.queued.drop len }
        buffer := self.buffer.readRelease len
        acked := self.acked + len }
    else none

def tcpErrHandler (self : HevSocks5SessionTCP) : Option HevSocks5SessionTCP :=
  match self.pcb with
  | none => none
  | some _ => some { self with pcb := none }

/-! ### The session's task -/

/-- What the I/O vector of `tcp_splice_f` speaks of: the first 64 pbufs. -/
def iov (self : HevSocks5SessionTCP) : List UInt8 := (self.queue.take 64).flatten

/-- `tcp_splice_f`, up to the mutex. -/
def tcpSpliceF (self : HevSocks5SessionTCP) (writev : IoResult Nat) :
    Option HevSocks5SessionTCP :=
  if self.resF < 0 then some { self with pc := .spliceB }
  else if self.queue = [] then
    if self.pcbEof then some { self with resF := -1, shutWr := true, pc := .spliceB }
    else some { self with resF := 0, pc := .spliceB }
  else
    match writev with
    | .ok s =>
      if 0 < s ∧ s ≤ self.iov.length then
        some { self with written := self.written ++ self.iov.take s, pc := .recved s }
      else none
    | .again => some { self with resF := 0, pc := .spliceB }
    | .failed => some { self with resF := -1, pc := .spliceB }

/-- The rest of `tcp_splice_f`; both calls have a length of 16 bits. -/
def recved (self : HevSocks5SessionTCP) (s : Nat) : HevSocks5SessionTCP :=
  { self with
    queue := pbufFreeHeader self.queue (s % 2 ^ 16)
    pcb := self.pcb.map fun pcb => pcb.tcpRecved (s % 2 ^ 16)
    resF := 1
    pc := .spliceB }

/-- `tcp_splice_b`, up to the mutex. -/
def tcpSpliceB (self : HevSocks5SessionTCP) (readv : IoResult (List UInt8)) :
    Option HevSocks5SessionTCP :=
  if self.resB < 0 then some { self with pc := .yield }
  else if self.buffer.writing = [] then some { self with pc := .push 0 }
  else
    match readv with
    | .ok bytes =>
      if 0 < bytes.length ∧ bytes.length ≤ (addresses self.buffer.writing).length then
        some { self with
          buffer := (self.buffer.fill bytes).writeFinish bytes.length
          upstream := self.upstream ++ bytes
          pc := .push 1 }
      else none
    | .again => some { self with pc := .push 0 }
    | .failed => some { self with ended := true, pc := .push (-1) }

/-- The rest of `tcp_splice_b`. -/
def push (self : HevSocks5SessionTCP) (res : Int32) (first second output : Bool) :
    HevSocks5SessionTCP :=
  match self.pcb with
  | none => { self with resB := -1, pc := .yield }
  | some pcb =>
    let iov := self.buffer.reading
    if iov = [] then
      { self with
        pcb := some (if res < 0 then { pcb with finSent := true } else pcb)
        resB := res
        pc := .yield }
    else
      let writes := pcb.tcpWrites iov [first, second]
      let new := writes.2.queued.drop pcb.queued.length
      { self with
        pcb := some writes.2
        buffer := self.buffer.readFinish (iov.map Iovec.len).sum
        handed := self.handed ++ new.map self.buffer.data
        resB := if (writes.1 && output) = true then 1 else -1
        pc := .yield }

/-- The end of the loop's body: only a wait can time out. -/
def yield (self : HevSocks5SessionTCP) (timedOut : Bool) : HevSocks5SessionTCP :=
  if self.resF > 0 ∨ self.resB > 0 then { self with pc := .spliceF }
  else if self.resF &&& self.resB = 0 then
    if timedOut then { self with timedOut := true, pc := .drain } else { self with pc := .spliceF }
  else { self with pc := .drain }

/-- The loop behind the first one. -/
def drain (self : HevSocks5SessionTCP) (timedOut : Bool) : HevSocks5SessionTCP :=
  if self.pcb.isNone ∨ self.buffer.getUseSize = 0 then { self with pc := .done }
  else if timedOut then { self with timedOut := true, pc := .done }
  else self

/-- `hev_socks5_session_tcp_splice`, up to its loop. -/
def splice (self : HevSocks5SessionTCP) (maxSize : Nat) (data : Nat → UInt8) :
    HevSocks5SessionTCP :=
  if self.pcb.isNone then { self with pc := .done }
  else { self with buffer := .alloca maxSize data, pc := .spliceF }

/-- One step of the session, with a ring buffer of `maxSize` bytes. -/
def step (maxSize : Nat) (self : HevSocks5SessionTCP) : Action → Option HevSocks5SessionTCP
  | .tcpRecvHandler p => if self.pc = .done then none else self.tcpRecvHandler p
  | .tcpSentHandler len => if self.pc = .done then none else self.tcpSentHandler len
  | .tcpErrHandler => if self.pc = .done then none else self.tcpErrHandler
  | .splice data => if self.pc = .starting then some (self.splice maxSize data) else none
  | .tcpSpliceF writev => if self.pc = .spliceF then self.tcpSpliceF writev else none
  | .recved =>
    match self.pc with
    | .recved s => some (self.recved s)
    | _ => none
  | .tcpSpliceB readv => if self.pc = .spliceB then self.tcpSpliceB readv else none
  | .push first second output =>
    match self.pc with
    | .push res => some (self.push res first second output)
    | _ => none
  | .yield timedOut => if self.pc = .yield then some (self.yield timedOut) else none
  | .drain timedOut => if self.pc = .drain then some (self.drain timedOut) else none

/-- A session as `hev_socks5_session_tcp_new` makes it. -/
def new : HevSocks5SessionTCP :=
  { buffer := .alloca 0 fun _ => 0 }

/-- The application sends two bytes and closes; the server answers with five and closes. -/
def exchange : List Action :=
  [.splice fun _ => 0, .tcpRecvHandler (some [[1], [2]]), .tcpSpliceF (.ok 2), .recved,
    .tcpSpliceB (.ok [3, 4, 5]), .push true true true, .yield false, .tcpSentHandler 2,
    .tcpRecvHandler none, .tcpSpliceF .again, .tcpSpliceB (.ok [6, 7]), .push true true true,
    .yield false, .tcpSpliceF .again, .tcpSpliceB .failed, .push true true true, .yield false,
    .tcpSentHandler 3, .drain false]

end HevSocks5SessionTCP

end DarkMed.Tunnel
