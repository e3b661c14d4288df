import DarkMed.Tunnel.SessionUdp

/-!
# Every Datagram Once, in Order

What a UDP association in a TCP connection makes of datagrams: the server sends what the session
has taken from the application, none of it twice, in order, and as it was; and if nothing fails,
all of it.
-/

namespace DarkMed.Tunnel

open DarkMed.Lib.Framing DarkMed.Lib.Transition DarkMed.Socks

/-! ## Frames -/

namespace HevSocks5UDPMsg

/-- The length of the address fits into its byte, that of the data into its two. -/
structure Framable (msg : HevSocks5UDPMsg) : Prop where
  addr_ge : 2 ≤ msg.addr.length
  addr_le : msg.addr.length ≤ 252
  buf_lt : msg.buf.length < 65536

/-- Without the five bytes of a header nothing is known of a frame. -/
theorem judge_short {got : List UInt8} (h : got.length < 5) : judge got = .more (5 - got.length) := by
  unfold judge
  split
  · simp at h
    omega
  · rfl

/-- Behind the header the length of the frame is known, or the frame is refused. -/
theorem judge_long (hi lo hdrlen atype len : UInt8) (rest : List UInt8) :
    judge (hi :: lo :: hdrlen :: atype :: len :: rest) =
      if hdrlen.toNat < 5 then .bad
      else if 256 * hi.toNat + lo.toNat > udpBufSize - (hdrlen.toNat - 3) then .bad
      else if rest.length < hdrlen.toNat - 5 + (256 * hi.toNat + lo.toNat) then
        .more (hdrlen.toNat - 5 + (256 * hi.toNat + lo.toNat) - rest.length)
      else
        .whole ⟨atype :: len :: rest.take (hdrlen.toNat - 5), rest.drop (hdrlen.toNat - 5)⟩ := rfl

/-- What is read behind the header of a frame. -/
theorem judge_header (msg : HevSocks5UDPMsg) (h : msg.Framable) {a b : UInt8}
    {addr : List UInt8} (haddr : msg.addr = a :: b :: addr) (rest : List UInt8) :
    judge (UInt8.ofNat (msg.buf.length / 256) :: UInt8.ofNat msg.buf.length ::
        UInt8.ofNat (3 + msg.addr.length) :: a :: b :: rest) =
      if msg.buf.length > udpBufSize - msg.addr.length then .bad
      else if rest.length < addr.length + msg.buf.length then
        .more (addr.length + msg.buf.length - rest.length)
      else .whole ⟨a :: b :: rest.take addr.length, rest.drop addr.length⟩ := by
  have hle := h.addr_le
  have hbuf := h.buf_lt
  have hhdr : (UInt8.ofNat (3 + msg.addr.length)).toNat = 3 + msg.addr.length := by
    simp only [UInt8.toNat_ofNat']
    exact Nat.mod_eq_of_lt (by omega)
  -- the two bytes of the length, put together again
  have hdat : 256 * (UInt8.ofNat (msg.buf.length / 256)).toNat +
      (UInt8.ofNat msg.buf.length).toNat = msg.buf.length := by
    simp only [UInt8.toNat_ofNat']
    omega
  have hlen : msg.addr.length = addr.length + 2 := by rw [haddr]; rfl
  have hfive : ¬ (3 + msg.addr.length < 5) := by omega
  have hthree : 3 + msg.addr.length - 3 = msg.addr.length := by omega
  have hrest : 3 + msg.addr.length - 5 = addr.length := by omega
  rw [judge_long, hdat, hhdr, if_neg hfive, hthree, hrest]

/-- The five bytes of a header, of which the last two belong to the address already. -/
theorem frame_eq {msg : HevSocks5UDPMsg} {a b : UInt8} {addr : List UInt8}
    (haddr : msg.addr = a :: b :: addr) :
    msg.frame = UInt8.ofNat (msg.buf.length / 256) :: UInt8.ofNat msg.buf.length ::
      UInt8.ofNat (3 + msg.addr.length) :: a :: b :: (addr ++ msg.buf) := by
  unfold frame
  rw [haddr]
  rfl

/-- An address has the two bytes that are read with the header. -/
theorem Framable.exists_addr {msg : HevSocks5UDPMsg} (h : msg.Framable) :
    ∃ a b addr, msg.addr = a :: b :: addr := by
  cases haddr : msg.addr with
  | nil =>
    have := h.addr_ge
    rw [haddr] at this
    exact absurd this (by simp)
  | cons a rest =>
    cases rest with
    | nil =>
      have := h.addr_ge
      rw [haddr] at this
      exact absurd this (by simp)
    | cons b addr => exact ⟨a, b, addr, rfl⟩

/-- **A frame is read within its bounds**, or refused. -/
theorem Framable.within {msg : HevSocks5UDPMsg} (h : msg.Framable) : format.Within msg := by
  intro p q hpq
  obtain ⟨a, b, addr, haddr⟩ := h.exists_addr
  change msg.frame = p ++ q at hpq
  have hlen : msg.frame.length = 5 + (addr.length + msg.buf.length) := by
    rw [frame_eq haddr]
    simp
    omega
  have hsum : p.length + q.length = 5 + (addr.length + msg.buf.length) := by
    rw [← hlen, hpq, List.length_append]
  by_cases hp : p.length < 5
  · exact .inl ⟨_, judge_short hp, by omega, by omega⟩
  · -- the header is complete
    rw [frame_eq haddr] at hpq
    obtain ⟨rest, hrest, hbody⟩ : ∃ rest, p = UInt8.ofNat (msg.buf.length / 256) ::
        UInt8.ofNat msg.buf.length :: UInt8.ofNat (3 + msg.addr.length) :: a :: b :: rest ∧
        addr ++ msg.buf = rest ++ q := by
      -- the five bytes of the header are known
      rcases p with _ | ⟨p₁, _ | ⟨p₂, _ | ⟨p₃, _ | ⟨p₄, _ | ⟨p₅, rest⟩⟩⟩⟩⟩
      all_goals simp at hp
      simp only [List.cons_append, List.cons.injEq] at hpq
      obtain ⟨rfl, rfl, rfl, rfl, rfl, hbody⟩ := hpq
      exact ⟨rest, rfl, hbody⟩
    subst hrest
    have hjudge := judge_header msg h haddr rest
    have hlenp : rest.length + q.length = addr.length + msg.buf.length := by
      have := congrArg List.length hbody
      simp only [List.length_append] at this
      omega
    -- a frame too large for the buffer is refused, at the header
    by_cases hbig : msg.buf.length > udpBufSize - msg.addr.length
    · rw [if_pos hbig] at hjudge
      exact .inr (.inl hjudge)
    · rw [if_neg hbig] at hjudge
      by_cases hmore : rest.length < addr.length + msg.buf.length
      · rw [if_pos hmore] at hjudge
        exact .inl ⟨_, hjudge, by omega, by omega⟩
      · -- all of it has been read
        have hq : q = [] := List.eq_nil_of_length_eq_zero (by omega)
        rw [if_neg hmore] at hjudge
        rw [hq, List.append_nil] at hbody
        refine .inr (.inr ⟨?_, hq⟩)
        have hmsg : msg = ⟨msg.addr, msg.buf⟩ := rfl
        rw [← hbody, List.take_left, List.drop_left, ← haddr] at hjudge
        rw [hbody] at hjudge
        exact hjudge

/-- A frame that fits the buffer is accepted. -/
theorem Framable.accepts {msg : HevSocks5UDPMsg} (h : msg.Framable)
    (hfits : msg.buf.length ≤ udpBufSize - msg.addr.length) : format.Accepts msg := by
  intro p hpre hbad
  obtain ⟨a, b, addr, haddr⟩ := h.exists_addr
  by_cases hp : p.length < 5
  · -- a header that is not complete is not refused
    cases (judge_short hp).symm.trans hbad
  · obtain ⟨q, hpq⟩ := hpre
    change p ++ q = msg.frame at hpq
    rw [frame_eq haddr] at hpq
    rcases p with _ | ⟨p₁, _ | ⟨p₂, _ | ⟨p₃, _ | ⟨p₄, _ | ⟨p₅, rest⟩⟩⟩⟩⟩
    all_goals simp at hp
    simp only [List.cons_append, List.cons.injEq] at hpq
    obtain ⟨rfl, rfl, rfl, rfl, rfl, -⟩ := hpq
    have hjudge := judge_header msg h haddr rest
    rw [if_neg (by omega)] at hjudge
    rw [show format.judge _ = judge _ from rfl, hjudge] at hbad
    split at hbad <;> cases hbad

end HevSocks5UDPMsg

/-! ## Addresses -/

/-- The length that the server finds in an address is its own. -/
theorem addrLenAt_bytes (addr : HevSocks5Addr) (l : List UInt8) :
    addrLenAt (addr.bytes ++ l) = addr.addrLen := by
  cases addr with
  | ipv4 addr port => rfl
  | ipv6 addr port => rfl
  -- the length byte of a name is its length, which fits
  | name addr port =>
    have hlen : (UInt8.ofNat addr.1.length).toNat = addr.1.length := by
      simpa using addr.2
    show 4 + (UInt8.ofNat addr.1.length).toNat = 4 + addr.1.length
    rw [hlen]

/-- An address in front of anything is found there. -/
theorem addrAt_bytes (addr : HevSocks5Addr) (l : List UInt8) :
    addrAt (addr.bytes ++ l) = some addr := by
  unfold addrAt
  rw [addrLenAt_bytes, List.take_left' (HevSocks5Addr.length_bytes addr),
    HevSocks5Addr.ofBytes_bytes]

section Resolve

variable {resolve : List UInt8 → Option (List.Vector UInt8 16)}

/-- The datagram that a frame of the session stands for. -/
def HevSocks5UDPFrame.datagram (resolve : List UInt8 → Option (List.Vector UInt8 16))
    (frame : HevSocks5UDPFrame) : Option Datagram :=
  if frame.data.headD [] = [] then none
  else (addrIntoSockaddr6 resolve frame.addr).map fun saddr => (saddr, frame.data.headD [])

/-- A message stands for the datagram of its frame. -/
theorem datagram_msg (frame : HevSocks5UDPFrame) :
    frame.msg.datagram resolve = frame.datagram resolve := by
  unfold HevSocks5UDPMsg.datagram HevSocks5UDPFrame.datagram HevSocks5UDPFrame.msg
  rw [addrAt_bytes]
  rfl

/-- So do all of them, in order. -/
theorem filterMap_datagram (frames : List HevSocks5UDPFrame) :
    (frames.map HevSocks5UDPFrame.msg).filterMap (HevSocks5UDPMsg.datagram resolve) =
      frames.filterMap (HevSocks5UDPFrame.datagram resolve) := by
  rw [List.filterMap_map]
  exact List.filterMap_congr fun frame _ => datagram_msg frame

/-- What `udp_recv_handler` takes fits into a frame. -/
theorem framable_msg {frame : HevSocks5UDPFrame} (haddr : frame.addr.addrLen ≤ 252)
    (hdata : (frame.data.headD []).length < 65536) : frame.msg.Framable := by
  refine ⟨?_, ?_, hdata⟩
  · show 2 ≤ frame.addr.bytes.length
    rw [HevSocks5Addr.length_bytes]
    cases frame.addr with
    | ipv4 addr port => simp [HevSocks5Addr.addrLen]
    | ipv6 addr port => simp [HevSocks5Addr.addrLen]
    | name addr port =>
      simp [HevSocks5Addr.addrLen]
      omega
  · show frame.addr.bytes.length ≤ 252
    rw [HevSocks5Addr.length_bytes]
    exact haddr

/-- A batch of which every message is one gives what each of them gives. -/
theorem filterMap_of_mapM {α β : Type} {f : α → Option β} {l : List α} {l' : List β}
    (h : l.mapM f = some l') : l.filterMap f = l' := by
  induction l generalizing l' with
  | nil =>
    simp at h
    subst h
    rfl
  | cons a l ih =>
    simp only [List.mapM_cons, Option.bind_eq_bind, Option.pure_def, Option.bind_eq_some_iff,
      Option.some.injEq] at h
    obtain ⟨b, hb, rest, hrest, rfl⟩ := h
    rw [List.filterMap_cons, hb, ih hrest]

end Resolve

/-! ## The session's side -/

def Sender.taken : Sender → Nat
  | .sending n _ => n
  | _ => 0

/-- How much of its write is out. -/
def Sender.out : Sender → Nat
  | .sending _ out => out
  | _ => 0

def Receiver.pending : Receiver → List Datagram
  | .sendmmsg dvec => dvec
  | _ => []

namespace UdpForward

/-- What has been written, with what is waiting behind it, is what the session has accepted. -/
structure Writing (s : UdpForward) : Prop where
  order : s.link.InOrder HevSocks5UDPMsg.format
  framable : ∀ frame ∈ s.accepted, frame.msg.Framable
  taken : ∃ rest, s.link.sent ++ rest = s.accepted.map HevSocks5UDPFrame.msg ∧
    (s.sender ≠ .failed → rest = (s.frames.drop s.sender.taken).map HevSocks5UDPFrame.msg)
  count : s.sender.taken ≤ s.frames.length
  pool : s.frames.length ≤ udpPoolSize + 1

/-- What has been sent is read within its bounds. -/
theorem Writing.within {s : UdpForward} (h : s.Writing) :
    ∀ msg ∈ s.link.sent, HevSocks5UDPMsg.format.Within msg := by
  obtain ⟨rest, hrest, -⟩ := h.taken
  intro msg hmsg
  have hmem : msg ∈ s.accepted.map HevSocks5UDPFrame.msg := by
    rw [← hrest]
    exact List.mem_append_left rest hmsg
  obtain ⟨frame, hframe, rfl⟩ := List.mem_map.mp hmem
  exact (h.framable frame hframe).within

/-- A session begins with nothing written. -/
theorem writing_new : ({} : UdpForward).Writing :=
  ⟨Link.inOrder_empty, by simp, ⟨[], rfl, fun _ => rfl⟩, Nat.le_refl 0, Nat.zero_le _⟩

/-- What the server does changes nothing of it, as long as the stream stays in order. -/
theorem Writing.of_same {s t : UdpForward} (h : s.Writing)
    (horder : t.link.InOrder HevSocks5UDPMsg.format) (hsent : t.link.sent = s.link.sent)
    (hframes : t.frames = s.frames) (hsender : t.sender = s.sender)
    (haccepted : t.accepted = s.accepted) : t.Writing := by
  refine ⟨horder, ?_, ?_, ?_, ?_⟩
  · rw [haccepted]
    exact h.framable
  · rw [hsent, hframes, hsender, haccepted]
    exact h.taken
  · rw [hframes, hsender]
    exact h.count
  · rw [hframes]
    exact h.pool

/-- A datagram from the application waits behind all others, or is dropped. -/
theorem Writing.udpRecvHandler {s t : UdpForward} (h : s.Writing) {addr : HevSocks5Addr}
    {p : List (List UInt8)} {malloc : Bool} (haddr : addr.addrLen ≤ 252)
    (ht : s.udpRecvHandler addr p malloc = some t) : t.Writing := by
  unfold UdpForward.udpRecvHandler at ht
  split_ifs at ht with hlen hpool hmalloc
  · exact Option.some.inj ht ▸ h
  · exact Option.some.inj ht ▸ h
  · obtain rfl := Option.some.inj ht
    have hdata : (p.headD []).length < 65536 := by
      cases p with
      | nil => simp
      | cons q p => exact hlen q (List.mem_cons_self ..)
    -- what is not written yet gets longer by the new datagram
    obtain ⟨rest, hrest, hwaiting⟩ := h.taken
    refine ⟨h.order, ?_, ⟨rest ++ [HevSocks5UDPFrame.msg ⟨addr, p⟩], ?_, ?_⟩, ?_, ?_⟩
    · intro frame hframe
      obtain hframe | hframe := List.mem_append.mp hframe
      · exact h.framable frame hframe
      · rw [List.mem_singleton.mp hframe]
        exact framable_msg haddr hdata
    · show s.link.sent ++ (rest ++ _) = (s.accepted ++ [_]).map HevSocks5UDPFrame.msg
      rw [← List.append_assoc, hrest, List.map_append]
      rfl
    · intro hsender
      show rest ++ _ = ((s.frames ++ [_]).drop s.sender.taken).map HevSocks5UDPFrame.msg
      rw [hwaiting hsender, List.drop_append_of_le_length h.count, List.map_append]
      rfl
    · exact h.count.trans (by simp)
    · show (s.frames ++ [_]).length ≤ udpPoolSize + 1
      rw [List.length_append, List.length_singleton]
      omega

/-- A batch is what has waited longest, and stays in `frame_list` until it is out. -/
theorem Writing.fwdF {s : UdpForward} (h : s.Writing) (hidle : s.sender = .idle) (num : Nat) :
    (s.fwdF num).Writing := by
  unfold UdpForward.fwdF
  split_ifs with hframes
  · exact h
  · obtain ⟨rest, hrest, hwaiting⟩ := h.taken
    -- where no write is under way, all that waits is in `frame_list`
    have hall : rest = s.frames.map HevSocks5UDPFrame.msg := by
      have := hwaiting (by rw [hidle]; decide)
      rwa [hidle] at this
    refine ⟨h.order.send _, h.framable,
      ⟨(s.frames.drop (min s.frames.length num)).map HevSocks5UDPFrame.msg, ?_, fun _ => rfl⟩,
      Nat.min_le_left _ _, h.pool⟩
    show s.link.sent ++ (s.frames.take _).map _ ++ (s.frames.drop _).map _ = _
    rw [List.append_assoc, ← List.map_append, List.take_append_drop, ← hall, hrest]

/-- The socket takes some more of the batch. -/
theorem Writing.sendmsg {s t : UdpForward} (h : s.Writing) {k : Nat}
    (ht : s.sendmsg k = some t) : t.Writing := by
  unfold UdpForward.sendmsg at ht
  split at ht
  · next n out hsender =>
    split_ifs at ht with hk
    obtain rfl := Option.some.inj ht
    obtain ⟨rest, hrest, hwaiting⟩ := h.taken
    have hcount := h.count
    rw [hsender] at hwaiting hcount
    exact ⟨h.order.give k, h.framable, ⟨rest, hrest, fun _ => hwaiting (by simp)⟩, hcount, h.pool⟩
  · cases ht

/-- A batch that is out leaves `frame_list`. -/
theorem Writing.sent {s t : UdpForward} (h : s.Writing) (ht : s.sent = some t) : t.Writing := by
  unfold UdpForward.sent at ht
  split at ht
  · next n out hsender =>
    split_ifs at ht with hout
    obtain rfl := Option.some.inj ht
    obtain ⟨rest, hrest, hwaiting⟩ := h.taken
    rw [hsender] at hwaiting
    refine ⟨h.order, h.framable, ⟨rest, hrest, fun _ => hwaiting (by simp)⟩, Nat.zero_le _, ?_⟩
    show (s.frames.drop n).length ≤ udpPoolSize + 1
    rw [List.length_drop]
    exact (Nat.sub_le _ _).trans h.pool
  · cases ht

/-- A write that fails with nothing out. -/
theorem Writing.sendFailed {s t : UdpForward} (h : s.Writing)
    (huncut : s.sender.out = 0)
    (ht : s.sendFailed = some t) : t.Writing := by
  unfold UdpForward.sendFailed at ht
  split at ht
  · next n out hsender =>
    have hout : out = 0 := by rwa [hsender] at huncut
    rw [if_pos hout] at ht
    obtain rfl := Option.some.inj ht
    obtain ⟨rest, hrest, -⟩ := h.taken
    -- with no byte out the stream ends between two frames
    exact ⟨h.order, h.framable, ⟨rest, hrest, fun hne => absurd rfl hne⟩, Nat.zero_le _, h.pool⟩
  · cases ht

/-! ## The server's side -/

section Server

variable {resolve : List UInt8 → Option (List.Vector UInt8 16)} {num : Nat} {s t : UdpForward}

/-- What the server has sent, and is about to send, is of the messages that it has read before
    those in `svec`. -/
def Reading (resolve : List UInt8 → Option (List.Vector UInt8 16)) (s : UdpForward) : Prop :=
  ∃ past, s.link.read = past ++ s.svec ∧
    (s.handed ++ s.receiver.pending).Sublist (past.filterMap (HevSocks5UDPMsg.datagram resolve))

/-- The server's part of a state. -/
theorem exists_received (resolve : List UInt8 → Option (List.Vector UInt8 16)) (s : UdpForward)
    (svec : List HevSocks5UDPMsg) :
    ∃ receiver : Receiver, received resolve s svec = { s with svec := [], receiver := receiver } ∧
      receiver.pending.Sublist (svec.filterMap (HevSocks5UDPMsg.datagram resolve)) ∧
      receiver ≠ .undefined := by
  unfold received
  split
  · next dvec hdvec =>
    exact ⟨_, rfl, (filterMap_of_mapM hdvec) ▸ List.Sublist.refl _, by simp⟩
  · exact ⟨_, rfl, List.nil_sublist _, by simp⟩

/-- What the server does with a batch is not the session's. -/
theorem Writing.received (h : s.Writing) (svec : List HevSocks5UDPMsg) :
    (received resolve s svec).Writing := by
  obtain ⟨receiver, heq, -⟩ := exists_received resolve s svec
  rw [heq]
  exact h.of_same h.order rfl rfl rfl rfl

/-- A batch is sent from the front, or is given up; in both cases its messages are done with. -/
theorem Reading.received (h : s.Reading resolve) (hpending : s.receiver.pending = [])
    {svec : List HevSocks5UDPMsg} (hsvec : svec.Sublist s.svec) :
    (UdpForward.received resolve s svec).Reading resolve := by
  obtain ⟨receiver, heq, hdvec, -⟩ := exists_received resolve s svec
  obtain ⟨past, hread, hsub⟩ := h
  rw [hpending, List.append_nil] at hsub
  rw [heq]
  refine ⟨past ++ s.svec, ?_, ?_⟩
  · show s.link.read = past ++ s.svec ++ []
    rw [hread, List.append_nil]
  · rw [List.filterMap_append]
    exact hsub.append (hdvec.trans (hsvec.filterMap _))

/-- The same for a batch that is full. -/
theorem Writing.filled (h : s.Writing) : (filled resolve num s).Writing := by
  unfold UdpForward.filled
  split_ifs
  · exact h
  · exact h.received _

/-- A batch that is full is done with, too. -/
theorem Reading.filled (h : s.Reading resolve) (hpending : s.receiver.pending = []) :
    (UdpForward.filled resolve num s).Reading resolve := by
  unfold UdpForward.filled
  split_ifs
  · exact h
  · exact h.received hpending (List.Sublist.refl _)

/-- Something has been read of a message that is whole. -/
theorem got_ne_nil_of_whole {msg : HevSocks5UDPMsg} {got : List UInt8}
    (h : HevSocks5UDPMsg.judge got = .whole msg) : got ≠ [] := by
  rintro rfl
  cases h

/-- The header that `k` bytes more complete is refused. -/
def Refused (s : UdpForward) (k : Nat) : Prop :=
  HevSocks5UDPMsg.judge (s.link.take k).got = .bad

instance (s : UdpForward) (k : Nat) : Decidable (s.Refused k) :=
  inferInstanceAs (Decidable (HevSocks5UDPMsg.judge (s.link.take k).got = .bad))

/-- The receiver that a refused header ends leaves the stream as it is. -/
theorem Writing.recv (h : s.Writing) {k : Nat} {again : Bool} (hok : again = true → ¬ s.Refused k)
    (ht : recv resolve num s k again = some t) : t.Writing := by
  unfold UdpForward.recv at ht
  split at ht
  · next n hjudge =>
    split_ifs at ht with hk
    obtain rfl := Option.some.inj ht
    -- the bytes are of the frame that is being read
    have htake := h.order.take h.within hjudge hk.2.1 hk.1 hk.2.2
    have hnext : ({ s with link := s.link.take k } : UdpForward).Writing :=
      h.of_same htake rfl rfl rfl rfl
    unfold arrived
    split
    · exact hnext
    · next hbad =>
      cases again with
      -- here the server would read on inside the frame
      | true => exact absurd hbad (hok rfl)
      | false => exact hnext.of_same htake rfl rfl rfl rfl
    · next msg hwhole =>
      have haccept := htake.accept hnext.within (got_ne_nil_of_whole hwhole) hwhole
      have hmsg : ({ s with
          link := (s.link.take k).accept msg
          svec := s.svec ++ [msg] } : UdpForward).Writing :=
        h.of_same haccept rfl rfl rfl rfl
      exact hmsg.filled
  · cases ht

/-- A message that is read comes behind all others in `svec`. -/
theorem Reading.recv (h : s.Reading resolve) (hpending : s.receiver.pending = []) {k : Nat}
    {again : Bool} (ht : UdpForward.recv resolve num s k again = some t) : t.Reading resolve := by
  unfold UdpForward.recv at ht
  split at ht
  · split_ifs at ht
    obtain rfl := Option.some.inj ht
    obtain ⟨past, hread, hsub⟩ := h
    rw [hpending] at hsub
    unfold arrived
    split
    · exact ⟨past, hread, hpending.symm ▸ hsub⟩
    · cases again with
      | true =>
        -- what is in `svec` has been read, and is never sent
        refine ⟨past ++ s.svec, ?_, ?_⟩
        · show s.link.read = past ++ s.svec ++ []
          rw [hread, List.append_nil]
        · show (s.handed ++ s.receiver.pending).Sublist _
          rw [hpending, List.filterMap_append]
          exact hsub.trans (List.sublist_append_left _ _)
      | false => exact ⟨past, hread, hsub⟩
    · next msg hwhole =>
      -- a message that is whole
      refine Reading.filled ⟨past, ?_, hpending.symm ▸ hsub⟩ hpending
      show s.link.read ++ [msg] = past ++ (s.svec ++ [msg])
      rw [hread, List.append_assoc]
  · cases ht

/-- Where no more is read, there is a batch, or none. -/
theorem recvEnd_cases {closed : Bool} {res : Int} {again : Bool}
    (ht : recvEnd resolve s closed res again = some t) :
    (∃ receiver : Receiver, receiver.pending = [] ∧
        (receiver = .undefined → s.link.got ≠ []) ∧
        t = { s.gaveUp closed with receiver := receiver }) ∨
      ∃ svec, svec.Sublist s.svec ∧ t = UdpForward.received resolve (s.gaveUp closed) svec := by
  unfold UdpForward.recvEnd at ht
  split_ifs at ht with hstart
  · exact .inl ⟨.failed, rfl, by simp, (Option.some.inj ht).symm⟩
  · exact .inr ⟨_, List.Sublist.refl _, (Option.some.inj ht).symm⟩
  · exact .inr ⟨_, List.Sublist.refl _, (Option.some.inj ht).symm⟩
  · exact .inl ⟨.undefined, rfl, fun _ => (not_or.mp hstart).2, (Option.some.inj ht).symm⟩
  · exact .inl ⟨.recvmmsg, rfl, by simp, (Option.some.inj ht).symm⟩
  · exact .inl ⟨.failed, rfl, by simp, (Option.some.inj ht).symm⟩
  · exact .inl ⟨.failed, rfl, by simp, (Option.some.inj ht).symm⟩
  · exact .inl ⟨.undefined, rfl, fun _ => (not_or.mp hstart).2, (Option.some.inj ht).symm⟩
  · exact .inr ⟨_, List.take_sublist _ _, (Option.some.inj ht).symm⟩

/-- At the end of the stream nothing is read beyond it. -/
theorem Writing.recvEnd (h : s.Writing) {res : Int} {again : Bool}
    (ht : UdpForward.recvEnd resolve s true res again = some t) : t.Writing := by
  have hover : (s.gaveUp true).Writing := h.of_same h.order rfl rfl rfl rfl
  obtain ⟨receiver, -, -, rfl⟩ | ⟨svec, -, rfl⟩ := recvEnd_cases ht
  · exact hover.of_same hover.order rfl rfl rfl rfl
  · exact hover.received svec

/-- Giving up what has been read of a frame leaves the messages alone. -/
theorem Reading.gaveUp (h : s.Reading resolve) (closed : Bool) :
    (s.gaveUp closed).Reading resolve ∧ (s.gaveUp closed).receiver = s.receiver ∧
      (s.gaveUp closed).svec = s.svec := by
  cases closed with
  | true => exact ⟨h, rfl, rfl⟩
  | false => exact ⟨h, rfl, rfl⟩

/-- At the end of the stream a batch is done with, or dropped. -/
theorem Reading.recvEnd (h : s.Reading resolve) (hpending : s.receiver.pending = [])
    {closed : Bool} {res : Int} {again : Bool}
    (ht : UdpForward.recvEnd resolve s closed res again = some t) : t.Reading resolve := by
  obtain ⟨hover, hreceiver, hbatch⟩ := h.gaveUp closed
  rw [← hreceiver] at hpending
  obtain ⟨receiver, hnone, -, rfl⟩ | ⟨svec, hsvec, rfl⟩ := recvEnd_cases ht
  · -- the batch is dropped: its messages stay unsent
    obtain ⟨past, hread, hsub⟩ := hover
    rw [hpending] at hsub
    exact ⟨past, hread, hnone.symm ▸ hsub⟩
  · exact hover.received hpending (hbatch.symm ▸ hsvec)

/-- What is sent is the front of the batch, and the rest of it is not sent again. -/
theorem Reading.sendmmsg (h : s.Reading resolve) {bind : Bool} {c : Nat}
    (ht : s.sendmmsg bind c = some t) : t.Reading resolve := by
  unfold UdpForward.sendmmsg at ht
  split at ht
  · next dvec hreceiver =>
    obtain ⟨past, hread, hsub⟩ := h
    rw [hreceiver] at hsub
    split_ifs at ht
    · obtain rfl := Option.some.inj ht
      refine ⟨past, hread, ?_⟩
      -- nothing has been sent
      exact (List.Sublist.append_left (List.nil_sublist _) _).trans hsub
    · obtain rfl := Option.some.inj ht
      refine ⟨past, hread, ?_⟩
      show (s.handed ++ dvec.take c ++ []).Sublist _
      rw [List.append_nil]
      exact (List.Sublist.append_left (List.take_sublist _ _) _).trans hsub
  · cases ht

/-- The addresses of datagrams fit into a header, no write is cut short, no read of a frame times
    out, and no header is refused where `EAGAIN` is left. -/
def Uncut (s : UdpForward) : UdpAction → Prop
  | .udpRecvHandler addr _ _ => addr.addrLen ≤ 252
  | .sendFailed => s.sender.out = 0
  | .recv n again => again = true → ¬ s.Refused n
  | .recvEnd closed _ _ => closed = true
  | _ => True

instance (s : UdpForward) : (a : UdpAction) → Decidable (s.Uncut a)
  | .udpRecvHandler addr _ _ => inferInstanceAs (Decidable (addr.addrLen ≤ 252))
  | .sendFailed => inferInstanceAs (Decidable (s.sender.out = 0))
  | .recv n again => inferInstanceAs (Decidable (again = true → ¬ s.Refused n))
  | .recvEnd closed _ _ => inferInstanceAs (Decidable (closed = true))
  | .fwdF | .sendmsg _ | .sent | .recvAgain | .sendmmsg _ _ =>
    inferInstanceAs (Decidable True)

/-- **One uncut step** keeps what is known of the session's side. -/
theorem Writing.step (h : s.Writing) {a : UdpAction} (hok : s.Uncut a)
    (ht : step resolve num s a = some t) : t.Writing := by
  cases a with
  | udpRecvHandler addr p malloc => exact h.udpRecvHandler hok ht
  | fwdF =>
    simp only [UdpForward.step] at ht
    split_ifs at ht with hidle
    exact Option.some.inj ht ▸ h.fwdF hidle num
  | sendmsg n => exact h.sendmsg ht
  | sent => exact h.sent ht
  | sendFailed => exact h.sendFailed hok ht
  | recv n again =>
    simp only [UdpForward.step] at ht
    split_ifs at ht
    exact h.recv hok ht
  | recvAgain =>
    simp only [UdpForward.step, UdpForward.recvAgain] at ht
    split_ifs at ht
    · exact Option.some.inj ht ▸ h
    · exact Option.some.inj ht ▸ h.received _
  | recvEnd closed res again =>
    simp only [UdpForward.step] at ht
    split_ifs at ht
    obtain rfl : closed = true := hok
    exact h.recvEnd ht
  | sendmmsg bind c =>
    simp only [UdpForward.step, UdpForward.sendmmsg] at ht
    split at ht
    · split_ifs at ht
      · exact Option.some.inj ht ▸ h.of_same h.order rfl rfl rfl rfl
      · exact Option.some.inj ht ▸ h.of_same h.order rfl rfl rfl rfl
    · cases ht

/-- The server's part of the state is the same. -/
structure SameServer (s t : UdpForward) : Prop where
  read : t.link.read = s.link.read
  got : t.link.got = s.link.got
  ended : t.ended = s.ended
  svec : t.svec = s.svec
  receiver : t.receiver = s.receiver
  handed : t.handed = s.handed

def OfSession : UdpAction → Prop
  | .udpRecvHandler _ _ _ | .fwdF | .sendmsg _ | .sent | .sendFailed => True
  | _ => False

/-- **What the session does leaves the server as it is.** -/
theorem sameServer_of_step {a : UdpAction} (ht : UdpForward.step resolve num s a = some t)
    (ha : OfSession a) : SameServer s t := by
  cases a with
  | udpRecvHandler addr p malloc =>
    simp only [UdpForward.step, UdpForward.udpRecvHandler] at ht
    split_ifs at ht <;> obtain rfl := Option.some.inj ht <;> exact ⟨rfl, rfl, rfl, rfl, rfl, rfl⟩
  | fwdF =>
    simp only [UdpForward.step, UdpForward.fwdF] at ht
    split_ifs at ht <;> obtain rfl := Option.some.inj ht <;> exact ⟨rfl, rfl, rfl, rfl, rfl, rfl⟩
  | sendmsg n =>
    simp only [UdpForward.step, UdpForward.sendmsg] at ht
    split at ht
    · split_ifs at ht
      obtain rfl := Option.some.inj ht
      exact ⟨rfl, rfl, rfl, rfl, rfl, rfl⟩
    · cases ht
  | sent =>
    simp only [UdpForward.step, UdpForward.sent] at ht
    split at ht
    · split_ifs at ht
      obtain rfl := Option.some.inj ht
      exact ⟨rfl, rfl, rfl, rfl, rfl, rfl⟩
    · cases ht
  | sendFailed =>
    simp only [UdpForward.step, UdpForward.sendFailed] at ht
    split at ht
    · split_ifs at ht <;> obtain rfl := Option.some.inj ht <;> exact ⟨rfl, rfl, rfl, rfl, rfl, rfl⟩
    · cases ht
  | recv n again => exact absurd ha id
  | recvAgain => exact absurd ha id
  | recvEnd closed res again => exact absurd ha id
  | sendmmsg bind c => exact absurd ha id

/-- What the session does is not the server's. -/
theorem Reading.of_same (h : s.Reading resolve) (hst : SameServer s t) : t.Reading resolve := by
  obtain ⟨past, hread, hsub⟩ := h
  refine ⟨past, ?_, ?_⟩
  · rw [hst.read, hst.svec]
    exact hread
  · rw [hst.handed, hst.receiver]
    exact hsub

/-- **One step** keeps what is known of the server's side, uncut or not. -/
theorem Reading.step (h : s.Reading resolve) {a : UdpAction}
    (ht : UdpForward.step resolve num s a = some t) : t.Reading resolve := by
  cases a with
  | udpRecvHandler addr p malloc => exact h.of_same (sameServer_of_step ht trivial)
  | fwdF => exact h.of_same (sameServer_of_step ht trivial)
  | sendmsg n => exact h.of_same (sameServer_of_step ht trivial)
  | sent => exact h.of_same (sameServer_of_step ht trivial)
  | sendFailed => exact h.of_same (sameServer_of_step ht trivial)
  | recv n again =>
    simp only [UdpForward.step] at ht
    split_ifs at ht with hready
    exact h.recv (by rw [hready.1]; rfl) ht
  | recvAgain =>
    simp only [UdpForward.step, UdpForward.recvAgain] at ht
    split_ifs at ht with hready
    · exact Option.some.inj ht ▸ h
    · exact Option.some.inj ht ▸ h.received (by rw [hready.1]; rfl) (List.Sublist.refl _)
  | recvEnd closed res again =>
    simp only [UdpForward.step] at ht
    split_ifs at ht with hready
    exact h.recvEnd (by rw [hready]; rfl) ht
  | sendmmsg bind c => exact h.sendmmsg ht

/-- The server uses what it has not filled only where the stream has broken off inside a frame. -/
def BrokenOff (s : UdpForward) : Prop :=
  s.receiver = .undefined → s.ended = true ∧ s.link.got ≠ []

/-- With a batch at hand the server has filled what it uses. -/
theorem brokenOff_received (svec : List HevSocks5UDPMsg) :
    (UdpForward.received resolve s svec).BrokenOff := by
  obtain ⟨receiver, heq, -, hne⟩ := exists_received resolve s svec
  rw [heq]
  exact fun hundefined => absurd hundefined hne

/-- So it has where the batch is full. -/
theorem BrokenOff.filled (h : s.BrokenOff) : (UdpForward.filled resolve num s).BrokenOff := by
  unfold UdpForward.filled
  split_ifs
  · exact h
  · exact brokenOff_received _

/-- What the session does leaves the server's use of `svec` as it is. -/
theorem BrokenOff.of_same (h : s.BrokenOff) (hst : SameServer s t) : t.BrokenOff := by
  unfold BrokenOff
  rw [hst.receiver, hst.ended, hst.got]
  exact h

/-- **One uncut step** reaches what is not filled only at the end of the stream. -/
theorem BrokenOff.step (h : s.BrokenOff) {a : UdpAction} (hok : s.Uncut a)
    (ht : UdpForward.step resolve num s a = some t) : t.BrokenOff := by
  cases a with
  | udpRecvHandler addr p malloc => exact h.of_same (sameServer_of_step ht trivial)
  | fwdF => exact h.of_same (sameServer_of_step ht trivial)
  | sendmsg n => exact h.of_same (sameServer_of_step ht trivial)
  | sent => exact h.of_same (sameServer_of_step ht trivial)
  | sendFailed => exact h.of_same (sameServer_of_step ht trivial)
  | recv n again =>
    simp only [UdpForward.step, UdpForward.recv] at ht
    split_ifs at ht with hready
    -- where the server goes on reading, it uses nothing
    have hnot : ∀ u : UdpForward, u.receiver = s.receiver → u.BrokenOff := fun u hu hundefined => by
      rw [hu, hready.1] at hundefined
      cases hundefined
    split at ht
    · split_ifs at ht
      obtain rfl := Option.some.inj ht
      unfold arrived
      split
      · exact hnot _ rfl
      · cases again with
        | true => exact hnot _ rfl
        | false =>
          intro hundefined
          cases hundefined
      · next msg _ =>
        exact (hnot { s with
          link := (s.link.take n).accept msg
          svec := s.svec ++ [msg] } rfl).filled
    · cases ht
  | recvAgain =>
    simp only [UdpForward.step, UdpForward.recvAgain] at ht
    split_ifs at ht
    · exact Option.some.inj ht ▸ h
    · exact Option.some.inj ht ▸ brokenOff_received _
  | recvEnd closed res again =>
    simp only [UdpForward.step] at ht
    split_ifs at ht
    obtain rfl : closed = true := hok
    obtain ⟨receiver, -, hgot, rfl⟩ | ⟨svec, -, rfl⟩ := recvEnd_cases ht
    · exact fun hundefined => ⟨rfl, hgot hundefined⟩
    · exact brokenOff_received svec
  | sendmmsg bind c =>
    simp only [UdpForward.step, UdpForward.sendmmsg] at ht
    split at ht
    · split_ifs at ht
      all_goals
        obtain rfl := Option.some.inj ht
        intro hundefined
        cases hundefined
    · cases ht

/-- A datagram that is one byte too long for the buffer of the server, with a datagram in it. -/
def refused : List UdpAction :=
  [.udpRecvHandler (.ipv4 (.cons 192 (.cons 0 (.cons 1 (.cons 10 .nil)))) (.cons 1 (.cons 198 .nil)))
      [[51, 100, 7, 0, 53, 66] ++ List.replicate 1488 0] true,
    .fwdF, .sendmsg 1504, .recv 5 true, .recv 5 true, .recv 6 true, .sendmmsg true 1]

/-- Behind a refused header the server reads the rest of its address and the data as the next
    header: what it sends then, to where, is up to the datagram that it has refused. -/
theorem not_in_order_of_refused :
    ¬ ∀ (as : List UdpAction) (s : UdpForward),
      run (UdpForward.step (fun _ => none) 1) {} as = some s →
        s.handed.Sublist (s.accepted.filterMap (HevSocks5UDPFrame.datagram fun _ => none)) := by
  intro h
  have hrun : (run (UdpForward.step (fun _ => none) 1) {} refused).map (fun s =>
      decide (s.handed.Sublist
        (s.accepted.filterMap (HevSocks5UDPFrame.datagram fun _ => none)))) = some false := by
    decide +kernel
  obtain ⟨s, hs, hnot⟩ := Option.map_eq_some_iff.mp hrun
  exact of_decide_eq_false hnot (h refused s hs)

end Server

end UdpForward

end DarkMed.Tunnel
