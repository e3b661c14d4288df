import DarkMed.Tunnel.Datagrams

/-!
# Every Datagram Arrives

A UDP association in which no call fails, and whose datagrams fit: it never ends, it can always
come to rest, and wherever it does, all that the session has taken has been sent.
-/

namespace DarkMed.Tunnel

open DarkMed.Lib.Framing DarkMed.Lib.Transition DarkMed.Socks

section Resolve

variable {resolve : List UInt8 → Option (List.Vector UInt8 16)}

/-- The datagram fits into a buffer, and can be sent. -/
structure HevSocks5UDPFrame.Deliverable (resolve : List UInt8 → Option (List.Vector UInt8 16))
    (frame : HevSocks5UDPFrame) : Prop where
  addr_le : frame.addr.addrLen ≤ 252
  fits : (frame.data.headD []).length ≤ udpBufSize - frame.addr.addrLen
  sent : (frame.datagram resolve).isSome

instance (resolve : List UInt8 → Option (List.Vector UInt8 16)) (frame : HevSocks5UDPFrame) :
    Decidable (frame.Deliverable resolve) :=
  decidable_of_iff (frame.addr.addrLen ≤ 252 ∧
      (frame.data.headD []).length ≤ udpBufSize - frame.addr.addrLen ∧
      (frame.datagram resolve).isSome)
    ⟨fun h => ⟨h.1, h.2.1, h.2.2⟩, fun h => ⟨h.addr_le, h.fits, h.sent⟩⟩

/-- A datagram that can be delivered fits the server's buffer. -/
theorem HevSocks5UDPFrame.Deliverable.accepts {frame : HevSocks5UDPFrame}
    (h : frame.Deliverable resolve) : HevSocks5UDPMsg.format.Accepts frame.msg := by
  have hfits := h.fits
  have hframable : frame.msg.Framable := by
    refine framable_msg h.addr_le ?_
    unfold udpBufSize at hfits
    omega
  refine hframable.accepts ?_
  show (frame.data.headD []).length ≤ udpBufSize - frame.addr.bytes.length
  rwa [HevSocks5Addr.length_bytes]

end Resolve

/-- A batch of which every message is a datagram is sent as a whole. -/
theorem mapM_of_forall_isSome {α β : Type} {f : α → Option β} {l : List α}
    (h : ∀ a ∈ l, (f a).isSome) : l.mapM f = some (l.filterMap f) := by
  induction l with
  | nil => rfl
  | cons a l ih =>
    obtain ⟨b, hb⟩ := Option.isSome_iff_exists.mp (h a (List.mem_cons_self ..))
    have hrest := ih fun x hx => h x (List.mem_cons_of_mem a hx)
    simp [List.mapM_cons, hb, hrest]

/-- Where each has a result, none is left out. -/
theorem map_some_filterMap {α β : Type} {f : α → Option β} {l : List α}
    (h : ∀ a ∈ l, (f a).isSome) : (l.filterMap f).map some = l.map f := by
  induction l with
  | nil => rfl
  | cons a l ih =>
    obtain ⟨b, hb⟩ := Option.isSome_iff_exists.mp (h a (List.mem_cons_self ..))
    have hrest := ih fun x hx => h x (List.mem_cons_of_mem a hx)
    rw [List.filterMap_cons, hb, List.map_cons, hrest, List.map_cons, hb]

namespace UdpForward

variable {resolve : List UInt8 → Option (List.Vector UInt8 16)} {num : Nat} {s t : UdpForward}

/-- No call fails, and what the application sends can be delivered. -/
def Undisturbed (resolve : List UInt8 → Option (List.Vector UInt8 16)) (s : UdpForward) :
    UdpAction → Prop
  | .udpRecvHandler addr p _ => HevSocks5UDPFrame.Deliverable resolve ⟨addr, p⟩
  | .sendFailed | .recvEnd _ _ _ => False
  | .sendmmsg bind c => bind = true ∧ c = s.receiver.pending.length
  | _ => True

instance (resolve : List UInt8 → Option (List.Vector UInt8 16)) (s : UdpForward) :
    (a : UdpAction) → Decidable (s.Undisturbed resolve a)
  | .udpRecvHandler addr p _ =>
    inferInstanceAs (Decidable (HevSocks5UDPFrame.Deliverable resolve ⟨addr, p⟩))
  | .sendFailed | .recvEnd _ _ _ => inferInstanceAs (Decidable False)
  | .sendmmsg bind c => inferInstanceAs (Decidable (bind = true ∧ c = s.receiver.pending.length))
  | .fwdF | .sendmsg _ | .sent | .recv _ _ | .recvAgain => inferInstanceAs (Decidable True)

/-- What such a run keeps. -/
structure Lossless (resolve : List UInt8 → Option (List.Vector UInt8 16)) (s : UdpForward) :
    Prop where
  deliverable : ∀ frame ∈ s.accepted, frame.Deliverable resolve
  live : s.sender ≠ .failed
  unended : s.ended = false
  idle : s.sender = .idle → s.link.unsent = []
  started : ∀ n out, s.sender = .sending n out → 0 < n ∧ (s.link.unsent = [] → 0 < out)
  undecided : ∃ n, HevSocks5UDPMsg.judge s.link.got = .more n
  receiver : s.receiver = .recvmmsg ∨ ∃ d dvec, s.receiver = .sendmmsg (d :: dvec)
  complete : ∃ past, s.link.read = past ++ s.svec ∧
    s.handed ++ s.receiver.pending = past.filterMap (HevSocks5UDPMsg.datagram resolve)

/-- A session begins with nothing to lose. -/
theorem lossless_new : ({} : UdpForward).Lossless resolve where
  deliverable := by simp
  live := by simp
  unended := rfl
  idle := fun _ => rfl
  started := by simp
  undecided := ⟨5, rfl⟩
  receiver := .inl rfl
  complete := ⟨[], rfl, rfl⟩

/-- A message that has been written is of a datagram that can be delivered. -/
theorem Lossless.of_mem_sent (h : s.Lossless resolve) (hw : s.Writing) {msg : HevSocks5UDPMsg}
    (hmsg : msg ∈ s.link.sent) :
    HevSocks5UDPMsg.format.Accepts msg ∧ (msg.datagram resolve).isSome := by
  obtain ⟨rest, hrest, -⟩ := hw.taken
  have hmem : msg ∈ s.accepted.map HevSocks5UDPFrame.msg := by
    rw [← hrest]
    exact List.mem_append_left rest hmsg
  obtain ⟨frame, hframe, rfl⟩ := List.mem_map.mp hmem
  have hdeliverable := h.deliverable frame hframe
  refine ⟨hdeliverable.accepts, ?_⟩
  rw [datagram_msg]
  exact hdeliverable.sent

/-- What has been read of a frame is not refused. -/
theorem Lossless.not_refused (h : s.Lossless resolve) (hw : s.Writing) {n k : Nat}
    (hjudge : HevSocks5UDPMsg.judge s.link.got = .more n) (hpos : 0 < k) (hk : k ≤ n)
    (hwire : k ≤ s.link.wire.length) : ¬ s.Refused k := by
  have htake := hw.order.take hw.within hjudge hk hpos hwire
  have hgot : (s.link.take k).got ≠ [] := by
    show s.link.got ++ s.link.wire.take k ≠ []
    intro hnil
    have hlen := congrArg List.length (List.append_eq_nil_iff.mp hnil).2
    rw [List.length_take_of_le hwire, List.length_nil] at hlen
    omega
  exact htake.judge_ne_bad (fun m hm => (h.of_mem_sent hw hm).1) hgot

/-- A run in which nothing fails is one that is not cut short: what fits is not refused. -/
theorem Undisturbed.uncut {a : UdpAction} (hok : s.Undisturbed resolve a) (h : s.Lossless resolve)
    (hw : s.Writing) (ht : UdpForward.step resolve num s a = some t) : s.Uncut a := by
  cases a with
  | udpRecvHandler addr p malloc => exact hok.addr_le
  | sendFailed => exact absurd hok id
  | recv k again =>
    simp only [UdpForward.step, UdpForward.recv] at ht
    split_ifs at ht
    split at ht
    · next n hjudge =>
      split_ifs at ht with hk
      exact fun _ => h.not_refused hw hjudge hk.1 hk.2.1 hk.2.2
    · cases ht
  | recvEnd closed res again => exact absurd hok id
  | _ => trivial

/-- What the server has read is a datagram. -/
theorem Lossless.of_mem_read (h : s.Lossless resolve) (hw : s.Writing) {msg : HevSocks5UDPMsg}
    (hmsg : msg ∈ s.link.read) : (msg.datagram resolve).isSome :=
  (h.of_mem_sent hw (hw.order.read_prefix.subset hmsg)).2

/-- A batch that is complete is about to be sent. -/
theorem received_eq (hsvec : ∀ msg ∈ s.svec, (HevSocks5UDPMsg.datagram resolve msg).isSome) :
    received resolve s s.svec = { s with
      svec := []
      receiver := .sendmmsg (s.svec.filterMap (HevSocks5UDPMsg.datagram resolve)) } := by
  unfold received
  rw [mapM_of_forall_isSome hsvec]

/-- A batch that is not empty has a first datagram. -/
theorem exists_filterMap (hne : s.svec ≠ [])
    (hsvec : ∀ msg ∈ s.svec, (HevSocks5UDPMsg.datagram resolve msg).isSome) :
    ∃ d dvec, s.svec.filterMap (HevSocks5UDPMsg.datagram resolve) = d :: dvec := by
  cases hfull : s.svec with
  | nil => exact absurd hfull hne
  | cons msg svec =>
    obtain ⟨d, hd⟩ := Option.isSome_iff_exists.mp (hsvec msg (by simp [hfull]))
    exact ⟨d, _, by rw [List.filterMap_cons, hd]⟩

/-- A batch is sent as a whole. -/
theorem Lossless.received (h : s.Lossless resolve) (hready : s.receiver = .recvmmsg)
    (hne : s.svec ≠ [])
    (hsvec : ∀ msg ∈ s.svec, (HevSocks5UDPMsg.datagram resolve msg).isSome) :
    (UdpForward.received resolve s s.svec).Lossless resolve := by
  rw [received_eq hsvec]
  obtain ⟨past, hread, hcomplete⟩ := h.complete
  rw [hready] at hcomplete
  obtain ⟨d, dvec, hdvec⟩ := exists_filterMap hne hsvec
  refine ⟨h.deliverable, h.live, h.unended, h.idle, h.started, h.undecided,
    .inr ⟨d, dvec, congrArg _ hdvec⟩, past ++ s.svec, ?_, ?_⟩
  · show s.link.read = past ++ s.svec ++ []
    rw [hread, List.append_nil]
  · show s.handed ++ s.svec.filterMap _ = _
    rw [List.filterMap_append, ← hcomplete]
    simp [Receiver.pending]

/-- So is a batch that is full. -/
theorem Lossless.filled (h : s.Lossless resolve) (hw : s.Writing)
    (hready : s.receiver = .recvmmsg) (hne : s.svec ≠ []) :
    (UdpForward.filled resolve num s).Lossless resolve := by
  unfold UdpForward.filled
  split_ifs
  · exact h
  · refine h.received hready hne fun msg hmsg => h.of_mem_read hw ?_
    obtain ⟨past, hread, -⟩ := h.complete
    rw [hread]
    exact List.mem_append_right past hmsg

/-- What the server reads of a frame is never refused. -/
theorem Lossless.recv (h : s.Lossless resolve) (hw : s.Writing) (hready : s.receiver = .recvmmsg)
    {k : Nat} {again : Bool} (ht : UdpForward.recv resolve num s k again = some t) :
    t.Lossless resolve := by
  unfold UdpForward.recv at ht
  split at ht
  · next n hjudge =>
    split_ifs at ht with hk
    obtain rfl := Option.some.inj ht
    -- the bytes are of the frame that is being read
    have htake := hw.order.take hw.within hjudge hk.2.1 hk.1 hk.2.2
    unfold arrived
    split
    · next j hmore =>
      exact ⟨h.deliverable, h.live, h.unended, h.idle, h.started, ⟨j, hmore⟩, h.receiver,
        h.complete⟩
    · next hbad => exact absurd hbad (h.not_refused hw hjudge hk.1 hk.2.1 hk.2.2)
    · next msg hwhole =>
      have haccept := htake.accept hw.within (got_ne_nil_of_whole hwhole) hwhole
      obtain ⟨past, hread, hcomplete⟩ := h.complete
      -- the message is whole, and is a datagram
      refine Lossless.filled (s := { s with
        link := (s.link.take k).accept msg
        svec := s.svec ++ [msg] }) ?_ ?_ hready (by simp)
      · refine ⟨h.deliverable, h.live, h.unended, h.idle, h.started, ⟨5, rfl⟩, h.receiver, past,
          ?_, hcomplete⟩
        show s.link.read ++ [msg] = past ++ (s.svec ++ [msg])
        rw [hread, List.append_assoc]
      · exact hw.of_same haccept rfl rfl rfl rfl
  · cases ht

/-- Frames have bytes. -/
theorem flatMap_frame_ne_nil {msgs : List HevSocks5UDPMsg} (h : msgs ≠ []) :
    msgs.flatMap HevSocks5UDPMsg.format.frame ≠ [] := by
  cases msgs with
  | nil => exact absurd rfl h
  | cons msg msgs =>
    intro hnil
    cases hnil

/-- A batch that is begun is not empty, and neither are its bytes. -/
theorem Lossless.fwdF (h : s.Lossless resolve) (hnum : 0 < num) :
    (UdpForward.fwdF num s).Lossless resolve := by
  unfold UdpForward.fwdF
  split_ifs with hframes
  · exact h
  · have hpos : 0 < min s.frames.length num :=
      lt_min (List.length_pos_of_ne_nil hframes) hnum
    refine ⟨h.deliverable, by simp, h.unended, ?_, ?_, h.undecided, h.receiver, h.complete⟩
    · intro hsender
      cases hsender
    · intro n out hsender
      obtain ⟨rfl, rfl⟩ := Sender.sending.inj hsender
      refine ⟨hpos, fun hunsent => ?_⟩
      -- a frame has bytes
      have hnil := (List.append_eq_nil_iff.mp hunsent).2
      refine absurd hnil (flatMap_frame_ne_nil fun hmap => ?_)
      have hlen := congrArg List.length hmap
      rw [List.length_map, List.length_take, List.length_nil] at hlen
      omega

/-- **Step lemma**: nothing is lost where nothing fails. -/
theorem Lossless.step (h : s.Lossless resolve) (hw : s.Writing) (hnum : 0 < num) {a : UdpAction}
    (hok : s.Undisturbed resolve a) (ht : UdpForward.step resolve num s a = some t) :
    t.Lossless resolve := by
  cases a with
  | udpRecvHandler addr p malloc =>
    simp only [UdpForward.step, UdpForward.udpRecvHandler] at ht
    split_ifs at ht
    · exact Option.some.inj ht ▸ h
    · exact Option.some.inj ht ▸ h
    · obtain rfl := Option.some.inj ht
      refine ⟨fun frame hframe => ?_, h.live, h.unended, h.idle, h.started, h.undecided, h.receiver,
        h.complete⟩
      obtain hframe | hframe := List.mem_append.mp hframe
      · exact h.deliverable frame hframe
      · exact List.mem_singleton.mp hframe ▸ hok
  | fwdF =>
    simp only [UdpForward.step] at ht
    split_ifs at ht
    exact Option.some.inj ht ▸ h.fwdF hnum
  | sendmsg k =>
    simp only [UdpForward.step, UdpForward.sendmsg] at ht
    split at ht
    · next n out hsender =>
      split_ifs at ht with hk
      obtain rfl := Option.some.inj ht
      refine ⟨h.deliverable, by simp, h.unended, ?_, ?_, h.undecided,
        h.receiver, h.complete⟩
      · intro hidle
        cases hidle
      intro n' out' hsender'
      obtain ⟨rfl, rfl⟩ := Sender.sending.inj hsender'
      exact ⟨(h.started n out hsender).1, fun _ => by omega⟩
    · cases ht
  | sent =>
    simp only [UdpForward.step, UdpForward.sent] at ht
    split at ht
    · split_ifs at ht with hout
      obtain rfl := Option.some.inj ht
      refine ⟨h.deliverable, by simp, h.unended, fun _ => hout.1, ?_, h.undecided, h.receiver,
        h.complete⟩
      intro n' out' hsender
      cases hsender
    · cases ht
  -- no write fails
  | sendFailed => exact absurd hok id
  | recv k again =>
    simp only [UdpForward.step] at ht
    split_ifs at ht with hready
    exact h.recv hw hready.1 ht
  | recvAgain =>
    simp only [UdpForward.step, UdpForward.recvAgain] at ht
    split_ifs at ht with hready hgot hsvec
    · exact Option.some.inj ht ▸ h
    · obtain rfl := Option.some.inj ht
      refine h.received hready.1 hsvec fun msg hmsg => h.of_mem_read hw ?_
      obtain ⟨past, hread, -⟩ := h.complete
      rw [hread]
      exact List.mem_append_right past hmsg
  | recvEnd closed res again => exact absurd hok id
  | sendmmsg bind c =>
    simp only [UdpForward.step, UdpForward.sendmmsg] at ht
    split at ht
    · next dvec hreceiver =>
      -- the whole batch is sent
      obtain ⟨rfl, rfl⟩ := hok
      rw [hreceiver] at ht
      obtain hrecv | ⟨d, more, hmore⟩ := h.receiver
      · cases hreceiver.symm.trans hrecv
      · obtain rfl : dvec = d :: more := Receiver.sendmmsg.inj (hreceiver.symm.trans hmore)
        simp only [Receiver.pending, Nat.le_refl, if_true, List.take_length] at ht
        rw [if_neg (by simp)] at ht
        obtain rfl := Option.some.inj ht
        obtain ⟨past, hread, hcomplete⟩ := h.complete
        rw [hreceiver] at hcomplete
        refine ⟨h.deliverable, h.live, h.unended, h.idle, h.started, h.undecided, .inl rfl, past,
          hread, ?_⟩
        show s.handed ++ (d :: more) ++ [] = _
        rw [List.append_nil]
        exact hcomplete
    · cases ht

/-! ## Coming to rest -/

/-- Nothing is queued, in the stream, or in the hands of the server. -/
def AtRest (s : UdpForward) : Prop :=
  s.frames = [] ∧ s.link.wire = [] ∧ s.svec = [] ∧ s.receiver = .recvmmsg

/-- What frames are in the stream. -/
def bytes (frames : List HevSocks5UDPFrame) : List UInt8 :=
  (frames.map HevSocks5UDPFrame.msg).flatMap HevSocks5UDPMsg.format.frame

/-- What is still to be done: a byte counts less the farther it has come, and so does a message. -/
def load (s : UdpForward) : Nat :=
  4 * (bytes (s.frames.drop s.sender.taken)).length + (s.frames.drop s.sender.taken).length +
    s.frames.length + 4 * s.link.unsent.length + 3 * s.link.wire.length + 2 * s.svec.length +
    if s.receiver = .recvmmsg then 0 else 1

/-- A step of the two ends that brings the work forward. -/
def Advances (resolve : List UInt8 → Option (List.Vector UInt8 16)) (num : Nat)
    (s : UdpForward) : Prop :=
  ∃ a t, s.Undisturbed resolve a ∧ UdpForward.step resolve num s a = some t ∧
    t.accepted = s.accepted ∧ t.load < s.load

/-- A complete batch leaves less to be done. -/
theorem load_received_lt (hready : s.receiver = .recvmmsg) (hne : s.svec ≠ []) :
    (UdpForward.received resolve s s.svec).load < s.load := by
  obtain ⟨receiver, heq, -⟩ := exists_received resolve s s.svec
  have hpos := List.length_pos_of_ne_nil hne
  rw [heq]
  simp only [load, hready, if_true, List.length_nil]
  split_ifs <;> omega

/-- A full batch is no more to do than it was. -/
theorem load_filled_le (hready : s.receiver = .recvmmsg) (hne : s.svec ≠ []) :
    (UdpForward.filled resolve num s).load ≤ s.load := by
  unfold UdpForward.filled
  split_ifs
  · exact Nat.le_refl _
  · exact (load_received_lt hready hne).le

/-- What the server does takes no datagram from the application. -/
theorem accepted_received (s : UdpForward) (svec : List HevSocks5UDPMsg) :
    (UdpForward.received resolve s svec).accepted = s.accepted := by
  obtain ⟨receiver, heq, -⟩ := exists_received resolve s svec
  rw [heq]

/-- Nor does a full batch. -/
theorem accepted_filled (s : UdpForward) :
    (UdpForward.filled resolve num s).accepted = s.accepted := by
  unfold UdpForward.filled
  split_ifs
  · rfl
  · exact accepted_received s s.svec

/-- Where there are bytes on the wire, the server can read one. -/
theorem advances_recv (h : s.Lossless resolve) (hw : s.Writing) (hready : s.receiver = .recvmmsg)
    (hwire : s.link.wire ≠ []) : s.Advances resolve num := by
  obtain ⟨m, ms, q, hsent, hframe, -⟩ := hw.order.exists_next hwire
  obtain ⟨n, hjudge⟩ := h.undecided
  -- the server still waits for bytes of this frame
  have hpos : 0 < n := by
    obtain ⟨k, hk, hpos, -⟩ | hbad | ⟨hwhole, -⟩ :=
      hw.within m (by rw [hsent]; simp) _ _ hframe
    · cases hjudge.symm.trans hk
      exact hpos
    · cases hjudge.symm.trans hbad
    · cases hjudge.symm.trans hwhole
  have hlen := List.length_pos_of_ne_nil hwire
  -- one byte of the stream is read
  have hstep : UdpForward.step resolve num s (.recv 1 false) =
      some (arrived resolve num false { s with link := s.link.take 1 }) := by
    simp only [UdpForward.step]
    rw [if_pos ⟨hready, h.unended⟩]
    have hread : 0 < 1 ∧ 1 ≤ n ∧ 1 ≤ s.link.wire.length := ⟨Nat.one_pos, hpos, hlen⟩
    unfold UdpForward.recv
    rw [hjudge]
    show (if 0 < 1 ∧ 1 ≤ n ∧ 1 ≤ s.link.wire.length then some _ else none) = some _
    rw [if_pos hread]
  refine ⟨.recv 1 false, _, trivial, hstep, ?_, ?_⟩
  · unfold arrived
    split
    · rfl
    · rfl
    · rw [accepted_filled]
  · have htake : (s.link.wire.drop 1).length + 1 = s.link.wire.length := by
      rw [List.length_drop]
      omega
    unfold arrived
    split
    · simp only [load, Link.take, hready, if_true]
      omega
    · next hbad => exact absurd hbad (h.not_refused hw hjudge Nat.one_pos hpos hlen)
    · next msg hwhole =>
      refine lt_of_le_of_lt (load_filled_le (s := { s with
        link := (s.link.take 1).accept msg
        svec := s.svec ++ [msg] }) hready (by simp)) ?_
      simp only [load, Link.take, Link.accept, hready, if_true, List.length_append,
        List.length_singleton]
      omega

/-- Where a batch is being written, the session can go on with it or end it. -/
theorem advances_sender (h : s.Lossless resolve) (hw : s.Writing)
    (hready : s.receiver = .recvmmsg) {n out : Nat} (hsender : s.sender = .sending n out) :
    s.Advances resolve num := by
  obtain ⟨hn, hout⟩ := h.started n out hsender
  by_cases hunsent : s.link.unsent = []
  · -- the write is over
    have hstep : UdpForward.step resolve num s .sent =
        some { s with frames := s.frames.drop n, sender := .idle } := by
      simp only [UdpForward.step, UdpForward.sent, hsender]
      exact if_pos ⟨hunsent, hout hunsent⟩
    refine ⟨.sent, _, trivial, hstep, rfl, ?_⟩
    have hcount := hw.count
    rw [hsender] at hcount
    simp only [Sender.taken] at hcount
    simp only [load, hsender, Sender.taken, List.drop_zero, List.length_drop, hready, if_true]
    omega
  · have hlen := List.length_pos_of_ne_nil hunsent
    have hstep : UdpForward.step resolve num s (.sendmsg 1) =
        some { s with sender := .sending n (out + 1), link := s.link.give 1 } := by
      simp only [UdpForward.step, UdpForward.sendmsg, hsender]
      exact if_pos ⟨Nat.one_pos, hlen⟩
    refine ⟨.sendmsg 1, _, trivial, hstep, rfl, ?_⟩
    simp only [load, hsender, Sender.taken, Link.give, List.length_drop, List.length_append,
      List.length_take_of_le hlen, hready, if_true]
    omega

/-- Where datagrams are waiting, the session can begin a batch. -/
theorem advances_fwdF (hready : s.receiver = .recvmmsg) (hidle : s.sender = .idle)
    (hnum : 0 < num) (hframes : s.frames ≠ []) : s.Advances resolve num := by
  have hstep : UdpForward.step resolve num s .fwdF = some (UdpForward.fwdF num s) := by
    simp only [UdpForward.step]
    exact if_pos hidle
  have hpos : 0 < min s.frames.length num := lt_min (List.length_pos_of_ne_nil hframes) hnum
  refine ⟨.fwdF, _, trivial, hstep, ?_, ?_⟩
  · unfold UdpForward.fwdF
    rw [if_neg hframes]
  · unfold UdpForward.fwdF
    rw [if_neg hframes]
    -- the first frames become bytes
    have hall : (bytes s.frames).length =
        (bytes (s.frames.take (min s.frames.length num))).length +
          (bytes (s.frames.drop (min s.frames.length num))).length := by
      unfold bytes
      rw [← List.length_append, ← List.flatMap_append, ← List.map_append, List.take_append_drop]
    have hsent : (bytes (s.frames.take (min s.frames.length num))).length =
        (((s.frames.take (min s.frames.length num)).map HevSocks5UDPFrame.msg).flatMap
          HevSocks5UDPMsg.format.frame).length := rfl
    simp only [load, hidle, Sender.taken, List.drop_zero, Link.send, List.length_append,
      List.length_drop, hready, if_true]
    omega

/-- **Where there is work, there is a step that brings it forward.** -/
theorem advances_of_not_atRest (h : s.Lossless resolve) (hw : s.Writing) (hnum : 0 < num)
    (hrest : ¬ s.AtRest) : s.Advances resolve num := by
  obtain hready | ⟨d, dvec, hbusy⟩ := h.receiver
  · by_cases hwire : s.link.wire = []
    · cases hsender : s.sender with
      | sending n out => exact advances_sender h hw hready hsender
      | failed => exact absurd hsender h.live
      | idle =>
        by_cases hframes : s.frames = []
        · -- only a batch is left, and no more comes
          have hgot := hw.order.got_eq_nil hw.within h.undecided hwire (h.idle hsender)
          have hne : s.svec ≠ [] := fun hsvec => hrest ⟨hframes, hwire, hsvec, hready⟩
          refine ⟨.recvAgain, UdpForward.received resolve s s.svec, trivial, ?_,
            accepted_received s s.svec, load_received_lt hready hne⟩
          simp only [UdpForward.step, UdpForward.recvAgain]
          rw [if_pos ⟨hready, h.unended⟩, if_pos hgot, if_neg hne]
        · exact advances_fwdF hready hsender hnum hframes
    · exact advances_recv h hw hready hwire
  · -- the server sends its batch
    have hstep : UdpForward.step resolve num s (.sendmmsg true (d :: dvec).length) =
        some { s with handed := s.handed ++ d :: dvec, receiver := .recvmmsg } := by
      simp only [UdpForward.step, UdpForward.sendmmsg, hbusy, Nat.le_refl, if_true,
        List.take_length]
      exact congrArg some (if_neg (by simp))
    refine ⟨.sendmmsg true (d :: dvec).length, _, ⟨rfl, by rw [hbusy]; rfl⟩, hstep, rfl, ?_⟩
    simp only [load, hbusy, if_true]
    rw [if_neg (by simp)]
    omega

/-- What has come to rest has sent everything. -/
theorem handed_of_atRest (h : s.Lossless resolve) (hw : s.Writing) (hrest : s.AtRest) :
    s.handed.map some = s.accepted.map (HevSocks5UDPFrame.datagram resolve) := by
  obtain ⟨hframes, hwire, hsvec, hready⟩ := hrest
  -- with no frames queued, no write is in progress
  have hidle : s.sender = .idle := by
    cases hsender : s.sender with
    | idle => rfl
    | failed => exact absurd hsender h.live
    | sending n out =>
      have hcount := hw.count
      rw [hsender, hframes] at hcount
      exact absurd (h.started n out hsender).1 (Nat.not_lt.mpr hcount)
  have hunsent := h.idle hidle
  have hgot := hw.order.got_eq_nil hw.within h.undecided hwire hunsent
  have hread := hw.order.read_eq (fun m _ => by intro hnil; cases hnil) hgot hwire hunsent
  obtain ⟨rest, hall, hwaiting⟩ := hw.taken
  -- nothing is left to be written
  have hnone : rest = [] := by
    rw [hwaiting h.live, hframes]
    simp
  rw [hnone, List.append_nil] at hall
  obtain ⟨past, hpast, hcomplete⟩ := h.complete
  rw [hready, hsvec, List.append_nil] at *
  have hhanded : s.handed = s.accepted.filterMap (HevSocks5UDPFrame.datagram resolve) := by
    rw [← filterMap_datagram, ← hall, ← hread, hpast, ← hcomplete]
    simp [Receiver.pending]
  rw [hhanded]
  exact map_some_filterMap fun frame hframe => (h.deliverable frame hframe).sent

/-- From any state of such a run, steps of the two ends bring it to rest. -/
theorem exists_rest (hnum : 0 < num) (h : s.Lossless resolve) (hw : s.Writing) :
    ∃ more t, AllSteps (UdpForward.step resolve num) (Undisturbed resolve) s more ∧
      run (UdpForward.step resolve num) s more = some t ∧ t.AtRest ∧ t.accepted = s.accepted := by
  induction hload : s.load using Nat.strong_induction_on generalizing s with
  | _ n ih =>
    by_cases hrest : s.AtRest
    · exact ⟨[], s, trivial, rfl, hrest, rfl⟩
    · obtain ⟨a, u, hok, hstep, haccepted, hless⟩ := advances_of_not_atRest h hw hnum hrest
      obtain ⟨more, t, hall, hrun, ht, hsame⟩ := ih u.load (hload ▸ hless)
        (h.step hw hnum hok hstep) (hw.step (hok.uncut h hw hstep) hstep) rfl
      refine ⟨a :: more, t, ⟨hok, fun v hv => ?_⟩, ?_, ht, hsame.trans haccepted⟩
      · obtain rfl := Option.some.inj (hstep.symm.trans hv)
        exact hall
      · rw [run_cons, hstep]
        exact hrun

/-- **Every datagram arrives.**  In a run in which nothing fails and every datagram can be
    delivered, the two ends can come to rest from wherever they are, and wherever they are at rest,
    the server has sent all that the session has taken, in order. -/
theorem datagrams_arrive {as : List UdpAction} (hnum : 0 < num)
    (hok : AllSteps (UdpForward.step resolve num) (Undisturbed resolve) {} as)
    (hrun : run (UdpForward.step resolve num) {} as = some s) :
    (s.AtRest → s.handed.map some = s.accepted.map (HevSocks5UDPFrame.datagram resolve)) ∧
      ∃ more t, AllSteps (UdpForward.step resolve num) (Undisturbed resolve) s more ∧
        run (UdpForward.step resolve num) s more = some t ∧ t.AtRest ∧
        t.accepted = s.accepted ∧
        t.handed.map some = s.accepted.map (HevSocks5UDPFrame.datagram resolve) := by
  let I := fun s : UdpForward => s.Lossless resolve ∧ s.Writing
  have hkeep : ∀ s a t, I s → s.Undisturbed resolve a →
      UdpForward.step resolve num s a = some t → I t := fun _ _ _ hI hok ht =>
    ⟨hI.1.step hI.2 hnum hok ht, hI.2.step (hok.uncut hI.1 hI.2 ht) ht⟩
  -- the two invariants are kept together, as the first needs the second
  have hs : I s := run_invariant_of_allSteps hkeep ⟨lossless_new, writing_new⟩ hok hrun
  refine ⟨handed_of_atRest hs.1 hs.2, ?_⟩
  obtain ⟨more, t, hmore, hrest, ht, hsame⟩ := exists_rest hnum hs.1 hs.2
  have hI : I t := run_invariant_of_allSteps hkeep hs hmore hrest
  refine ⟨more, t, hmore, hrest, ht, hsame, ?_⟩
  rw [← hsame]
  exact handed_of_atRest hI.1 hI.2 ht

/-- The server has got a part of the first datagram. -/
theorem datagrams_arrive_exchange : ∃ s,
    run (UdpForward.step (fun _ => none) 2) {} (exchange.take 6) = some s ∧ s.handed = [] ∧
    ∃ more t, run (UdpForward.step (fun _ => none) 2) s more = some t ∧ t.AtRest ∧
      t.handed.map some = s.accepted.map (HevSocks5UDPFrame.datagram fun _ => none) := by
  have hrun : (run (UdpForward.step (fun _ => none) 2) {} (exchange.take 6)).map
      UdpForward.handed = some [] := by decide +kernel
  have hok : AllSteps (UdpForward.step (fun _ => none) 2) (Undisturbed fun _ => none) {}
      (exchange.take 6) := by decide +kernel
  obtain ⟨s, hs, hhanded⟩ := Option.map_eq_some_iff.mp hrun
  obtain ⟨more, t, -, hmore, hrest, -, hall⟩ := (datagrams_arrive Nat.two_pos hok hs).2
  exact ⟨s, hs, hhanded, more, t, hmore, hrest, hall⟩

end UdpForward

end DarkMed.Tunnel
