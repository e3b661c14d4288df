import DarkMed.Tunnel.SessionTcp

/-!
# What a TCP Session Forwards

Both directions of a session as streams, over every run: the writes and reads may be of any size
or fail, lwIP may call back between any two sections of the session's task, and the application
may close or reset the connection at any time.

* Towards the server: what has been written to the socket is what the application has sent, in
  order and up to what is still queued; the window that lwIP announces is what is free.
* Towards the application: lwIP has been given a prefix of what has been read from the socket, and
  the bytes that it refers to stay what they were until they are acknowledged.
-/

namespace DarkMed.Tunnel

open DarkMed.Lib.Ring DarkMed.Lib.Transition

/-! ## Chains of pbufs -/

/-- `pbuf_free_header` takes bytes from the front of the chain, over the borders of its pbufs. -/
theorem flatten_pbufFreeHeader (queue : List (List UInt8)) (size : Nat) :
    (pbufFreeHeader queue size).flatten = queue.flatten.drop size := by
  induction queue generalizing size with
  | nil => simp [pbufFreeHeader]
  | cons p ps ih =>
    unfold pbufFreeHeader
    by_cases hzero : size = 0
    · simp [hzero]
    · rw [if_neg hzero]
      by_cases hle : p.length ≤ size
      · -- a pbuf that goes as a whole
        rw [if_pos hle, ih, List.flatten_cons, List.drop_append, List.drop_of_length_le hle,
          List.nil_append]
      · -- a pbuf that is cut, behind which nothing changes
        rw [if_neg hle, List.flatten_cons, List.flatten_cons, List.drop_append,
          Nat.sub_eq_zero_of_le (Nat.le_of_not_le hle), List.drop_zero]

/-- What is written of the first pbufs is what the whole chain begins with. -/
theorem take_flatten_take {queue : List (List UInt8)} {k s : Nat}
    (h : s ≤ (queue.take k).flatten.length) :
    (queue.take k).flatten.take s = queue.flatten.take s := by
  conv_rhs => rw [← List.take_append_drop k queue, List.flatten_append]
  rw [List.take_append_of_le_length h]

namespace HevSocks5SessionTCP

/-! ## Towards the server -/

/-- What has been written and is still in the queue. -/
def pending (s : HevSocks5SessionTCP) : Nat :=
  match s.pc with
  | .recved n => n
  | _ => 0

structure Forward (s : HevSocks5SessionTCP) : Prop where
  /-- Nothing is lost, duplicated or reordered. -/
  order : s.written ++ s.queue.flatten.drop s.pending = s.received
  pending_le : s.pending ≤ s.queue.flatten.length
  pending_pos : ∀ n, s.pc = .recved n → 0 < n
  /-- The application may send what the queue has room for. -/
  window : ∀ pcb, s.pcb = some pcb → pcb.rcvWnd + s.queue.flatten.length = tcpWnd
  queue_le : s.queue.flatten.length ≤ tcpWnd
  /-- The socket is shut down behind the last byte. -/
  shut : s.shutWr = true → s.pcbEof = true ∧ s.queue = [] ∧ s.resF = -1

/-- What the direction towards the server consists of. -/
structure SameForward (s t : HevSocks5SessionTCP) : Prop where
  queue : t.queue = s.queue
  pcbEof : t.pcbEof = s.pcbEof
  resF : t.resF = s.resF
  shutWr : t.shutWr = s.shutWr
  received : t.received = s.received
  written : t.written = s.written
  pending : t.pending = s.pending
  recved : ∀ n, t.pc = .recved n → s.pc = .recved n
  window : ∀ pcb', t.pcb = some pcb' → ∃ pcb, s.pcb = some pcb ∧ pcb'.rcvWnd = pcb.rcvWnd

/-- A step that leaves the direction alone keeps what is known of it. -/
theorem Forward.of_same {s t : HevSocks5SessionTCP} (h : s.Forward) (hsame : SameForward s t) :
    t.Forward where
  order := by
    rw [hsame.written, hsame.queue, hsame.pending, hsame.received]
    exact h.order
  pending_le := by
    rw [hsame.queue, hsame.pending]
    exact h.pending_le
  pending_pos n hn := h.pending_pos n (hsame.recved n hn)
  window pcb' hpcb' := by
    obtain ⟨pcb, hpcb, hwnd⟩ := hsame.window pcb' hpcb'
    rw [hwnd, hsame.queue]
    exact h.window pcb hpcb
  queue_le := hsame.queue ▸ h.queue_le
  shut hshut := by
    rw [hsame.pcbEof, hsame.queue, hsame.resF]
    exact h.shut (hsame.shutWr ▸ hshut)

/-- A session begins with nothing received. -/
theorem forward_new : Forward new where
  order := rfl
  pending_le := le_rfl
  pending_pos _ h := by cases h
  window pcb h := by
    obtain rfl := Option.some.inj h
    rfl
  queue_le := Nat.zero_le _
  shut h := by cases h

/-- What lwIP delivers is put behind the queue, at the cost of the window. -/
theorem Forward.tcpRecvHandler {s t : HevSocks5SessionTCP} (h : s.Forward)
    {p : Option (List (List UInt8))} (ht : s.tcpRecvHandler p = some t) : t.Forward := by
  unfold HevSocks5SessionTCP.tcpRecvHandler at ht
  split at ht
  · cases ht
  · next pcb p hpcb =>
    split at ht
    · next hfits =>
      cases ht
      have hwindow := h.window pcb hpcb
      have hlen : (s.queue ++ p).flatten.length = s.queue.flatten.length + p.flatten.length := by
        rw [List.flatten_append, List.length_append]
      refine ⟨?_, ?_, h.pending_pos, fun pcb' hpcb' => ?_, ?_, fun hshut => ?_⟩
      · show s.written ++ (s.queue ++ p).flatten.drop s.pending = s.received ++ p.flatten
        rw [List.flatten_append, List.drop_append_of_le_length h.pending_le, ← List.append_assoc,
          h.order]
      · show s.pending ≤ (s.queue ++ p).flatten.length
        exact hlen ▸ h.pending_le.trans (Nat.le_add_right _ _)
      · obtain rfl := Option.some.inj hpcb'
        show pcb.rcvWnd - p.flatten.length + (s.queue ++ p).flatten.length = tcpWnd
        omega
      · show (s.queue ++ p).flatten.length ≤ tcpWnd
        omega
      · -- behind its end the application sends nothing
        have heof : s.pcbEof = true := (h.shut hshut).1
        exact absurd heof (by simp [hfits.1])
    · cases ht
  · split at ht
    · cases ht
      exact ⟨h.order, h.pending_le, h.pending_pos, h.window, h.queue_le,
        fun hshut => ⟨rfl, (h.shut hshut).2⟩⟩
    · cases ht

/-- Nothing is pending once `tcp_splice_f` is over. -/
theorem Forward.settled {s : HevSocks5SessionTCP} (h : s.Forward)
    (horder : s.written ++ s.queue.flatten = s.received) {res : Int32} {shutWr : Bool}
    (hshut : shutWr = true → s.pcbEof = true ∧ s.queue = [] ∧ res = -1) :
    ({ s with resF := res, shutWr := shutWr, pc := .spliceB } : HevSocks5SessionTCP).Forward where
  order := horder
  pending_le := Nat.zero_le _
  pending_pos _ hn := by cases hn
  window := h.window
  queue_le := h.queue_le
  shut := hshut

/-- What `writev` takes is the front of the queue, and stays there until `tcp_recved`. -/
theorem Forward.tcpSpliceF {s t : HevSocks5SessionTCP} (h : s.Forward) (hpc : s.pc = .spliceF)
    {writev : IoResult Nat} (ht : s.tcpSpliceF writev = some t) : t.Forward := by
  have hpending : s.pending = 0 := by rw [pending, hpc]
  have horder : s.written ++ s.queue.flatten = s.received := by
    have := h.order
    rwa [hpending, List.drop_zero] at this
  unfold HevSocks5SessionTCP.tcpSpliceF at ht
  split at ht
  · cases ht
    exact h.settled horder h.shut
  · next hres =>
    -- a direction that is not over has not been shut down
    have hopen : ∀ {p : Prop}, s.shutWr = true → p := fun hshut =>
      absurd (by decide) ((h.shut hshut).2.2 ▸ hres)
    split at ht
    · next hempty =>
      split at ht
      · next heof =>
        cases ht
        -- `shutdown`, with the application's end behind an empty queue
        exact h.settled horder fun _ => ⟨heof, hempty, rfl⟩
      · cases ht
        exact h.settled horder hopen
    · split at ht
      · next n =>
        -- `writev` has taken `n` bytes, which stay in the queue for now
        split at ht
        · next hn =>
          cases ht
          have htake : s.iov.take n = s.queue.flatten.take n := take_flatten_take hn.2
          have hle : n ≤ s.queue.flatten.length := by
            have hlen := congrArg List.length htake
            simp only [List.length_take] at hlen
            omega
          refine ⟨?_, hle, ?_, h.window, h.queue_le, hopen⟩
          · show (s.written ++ s.iov.take n) ++ s.queue.flatten.drop n = s.received
            rw [htake, List.append_assoc, List.take_append_drop, horder]
          · intro m hm
            obtain rfl := Pc.recved.inj hm
            exact hn.1
        · cases ht
      · cases ht
        exact h.settled horder hopen
      · cases ht
        exact h.settled horder hopen

/-- What is written fits 16 bits, so that the queue loses it all and the window regains it. -/
theorem Forward.recved {s : HevSocks5SessionTCP} (h : s.Forward) {n : Nat}
    (hpc : s.pc = .recved n) : (s.recved n).Forward := by
  have hpending : s.pending = n := by rw [pending, hpc]
  have hle : n ≤ s.queue.flatten.length := hpending ▸ h.pending_le
  have hsmall : n % 2 ^ 16 = n := by
    have hwnd := h.queue_le
    have htcp : tcpWnd < 2 ^ 16 := by decide
    exact Nat.mod_eq_of_lt (by omega)
  have hflat : (s.recved n).queue.flatten = s.queue.flatten.drop n := by
    show (pbufFreeHeader s.queue (n % 2 ^ 16)).flatten = _
    rw [flatten_pbufFreeHeader, hsmall]
  have hlen : (s.recved n).queue.flatten.length = s.queue.flatten.length - n := by
    rw [hflat, List.length_drop]
  refine ⟨?_, Nat.zero_le _, fun _ hm => (by cases hm), fun pcb' hpcb' => ?_, ?_, fun hshut => ?_⟩
  · show s.written ++ (s.recved n).queue.flatten = s.received
    rw [hflat, ← hpending]
    exact h.order
  · obtain ⟨pcb, hpcb, rfl⟩ := Option.map_eq_some_iff.mp hpcb'
    have hwindow := h.window pcb hpcb
    rw [hlen, hsmall, TcpPcb.tcpRecved]
    show (if pcb.rcvWnd + n > tcpWnd then tcpWnd else pcb.rcvWnd + n) +
      (s.queue.flatten.length - n) = tcpWnd
    -- the window never gets larger than it has been
    rw [if_neg (by omega)]
    omega
  · rw [hlen]
    exact (Nat.sub_le _ _).trans h.queue_le
  · -- a socket that is shut down has an empty queue, from which nothing can be taken
    have hempty : s.queue = [] := (h.shut hshut).2.1
    have hpos := h.pending_pos n hpc
    rw [hempty] at hle
    exact absurd (Nat.le_zero.mp hle) hpos.ne'

/-- The other sections of the task leave the direction alone, up to lwIP's send buffer. -/
theorem SameForward.section {s : HevSocks5SessionTCP} (hs : ∀ n, s.pc ≠ .recved n) {c : Pc}
    (hc : ∀ n, c ≠ .recved n) {pcb : Option TcpPcb} {buffer : HevRingBuffer} {resB : Int32}
    {ended timedOut : Bool} {upstream handed : List UInt8}
    (hwindow : ∀ pcb', pcb = some pcb' → ∃ pcb, s.pcb = some pcb ∧ pcb'.rcvWnd = pcb.rcvWnd) :
    SameForward s { s with pcb, buffer, resB, pc := c, ended, timedOut, upstream, handed } where
  queue := rfl
  pcbEof := rfl
  resF := rfl
  shutWr := rfl
  received := rfl
  written := rfl
  pending := by
    -- in every other section nothing is pending
    have hzero : ∀ d : Pc, (∀ n, d ≠ .recved n) → ∀ u : HevSocks5SessionTCP, u.pc = d →
        u.pending = 0 := by
      intro d hd u hu
      cases d with
      | recved n => exact absurd rfl (hd n)
      | _ => rw [HevSocks5SessionTCP.pending, hu]
    rw [hzero _ hs s rfl]
    exact hzero c hc _ rfl
  recved n hn := absurd hn (hc n)
  window := hwindow

/-- What lwIP is given does not touch the window that it announces. -/
theorem rcvWnd_tcpWrite (pcb : TcpPcb) (taken : Bool) (v : Iovec) :
    (pcb.tcpWrite taken v).2.rcvWnd = pcb.rcvWnd := by
  unfold TcpPcb.tcpWrite
  dsimp only
  split_ifs <;> rfl

/-- Nor do several calls. -/
theorem rcvWnd_tcpWrites (pcb : TcpPcb) (iov : List Iovec) (answers : List Bool) :
    (pcb.tcpWrites iov answers).2.rcvWnd = pcb.rcvWnd := by
  induction iov generalizing pcb answers with
  | nil => rfl
  | cons v iov ih =>
    cases answers with
    | nil => rfl
    | cons taken answers => exact (ih _ _).trans (rcvWnd_tcpWrite pcb taken v)

/-- Reading from the server leaves this direction alone. -/
theorem sameForward_tcpSpliceB {s t : HevSocks5SessionTCP} (hpc : s.pc = .spliceB)
    {readv : IoResult (List UInt8)} (ht : s.tcpSpliceB readv = some t) : SameForward s t := by
  have hs : ∀ n, s.pc ≠ .recved n := fun n hn => by cases hpc.symm.trans hn
  have hkept : ∀ pcb', s.pcb = some pcb' → ∃ pcb, s.pcb = some pcb ∧ pcb'.rcvWnd = pcb.rcvWnd :=
    fun pcb' h => ⟨pcb', h, rfl⟩
  unfold HevSocks5SessionTCP.tcpSpliceB at ht
  split at ht
  · cases ht
    exact .section hs (fun _ hn => by cases hn) hkept
  · split at ht
    · cases ht
      exact .section hs (fun _ hn => by cases hn) hkept
    · split at ht
      · split at ht
        · cases ht
          exact .section hs (fun _ hn => by cases hn) hkept
        · cases ht
      · cases ht
        exact .section hs (fun _ hn => by cases hn) hkept
      · cases ht
        exact .section hs (fun _ hn => by cases hn) hkept

/-- So does the section under the mutex. -/
theorem sameForward_push {s : HevSocks5SessionTCP} {res : Int32} (hpc : s.pc = .push res)
    (first second output : Bool) : SameForward s (s.push res first second output) := by
  have hs : ∀ n, s.pc ≠ .recved n := fun n hn => by cases hpc.symm.trans hn
  unfold HevSocks5SessionTCP.push
  split
  · -- a lost connection
    next hpcb => exact .section hs (fun _ hn => by cases hn) fun pcb' h => ⟨pcb', h, rfl⟩
  · next pcb hpcb =>
    dsimp only
    split
    · refine .section hs (fun _ hn => by cases hn) fun pcb' h => ⟨pcb, hpcb, ?_⟩
      obtain rfl := Option.some.inj h
      split <;> rfl
    · refine .section hs (fun _ hn => by cases hn) fun pcb' h => ⟨pcb, hpcb, ?_⟩
      obtain rfl := Option.some.inj h
      exact rcvWnd_tcpWrites pcb _ _

/-- **One step** keeps what is known of the direction. -/
theorem Forward.step {maxSize : Nat} {s t : HevSocks5SessionTCP} {a : Action} (h : s.Forward)
    (ht : step maxSize s a = some t) : t.Forward := by
  have hkept : ∀ pcb', s.pcb = some pcb' → ∃ pcb, s.pcb = some pcb ∧ pcb'.rcvWnd = pcb.rcvWnd :=
    fun pcb' h => ⟨pcb', h, rfl⟩
  cases a with
  | tcpRecvHandler p =>
    obtain ⟨-, ht⟩ := Option.ite_none_left_eq_some.mp ht
    exact h.tcpRecvHandler ht
  | tcpSentHandler len =>
    obtain ⟨-, ht⟩ := Option.ite_none_left_eq_some.mp ht
    unfold HevSocks5SessionTCP.tcpSentHandler at ht
    split at ht
    · cases ht
    · next pcb hpcb =>
      split at ht
      · cases ht
        refine h.of_same ⟨rfl, rfl, rfl, rfl, rfl, rfl, rfl, fun _ hn => hn, fun pcb' hpcb' => ?_⟩
        obtain rfl := Option.some.inj hpcb'
        exact ⟨pcb, hpcb, rfl⟩
      · cases ht
  | tcpErrHandler =>
    obtain ⟨-, ht⟩ := Option.ite_none_left_eq_some.mp ht
    unfold HevSocks5SessionTCP.tcpErrHandler at ht
    split at ht
    · cases ht
    · cases ht
      exact h.of_same ⟨rfl, rfl, rfl, rfl, rfl, rfl, rfl, fun _ hn => hn, fun _ hn => by cases hn⟩
  | splice data =>
    obtain ⟨hpc, rfl⟩ := Option.ite_none_right_eq_some.mp ht |>.imp_right Option.some.inj
    have hs : ∀ n, s.pc ≠ .recved n := fun n hn => by cases hpc.symm.trans hn
    unfold HevSocks5SessionTCP.splice
    split
    · exact h.of_same (.section hs (fun _ hn => by cases hn) hkept)
    · exact h.of_same (.section hs (fun _ hn => by cases hn) hkept)
  | tcpSpliceF writev =>
    obtain ⟨hpc, ht⟩ := Option.ite_none_right_eq_some.mp ht
    exact h.tcpSpliceF hpc ht
  | recved =>
    simp only [HevSocks5SessionTCP.step] at ht
    split at ht
    · next n hpc =>
      cases ht
      exact h.recved hpc
    · cases ht
  | tcpSpliceB readv =>
    obtain ⟨hpc, ht⟩ := Option.ite_none_right_eq_some.mp ht
    exact h.of_same (sameForward_tcpSpliceB hpc ht)
  | push first second output =>
    simp only [HevSocks5SessionTCP.step] at ht
    split at ht
    · next res hpc =>
      cases ht
      exact h.of_same (sameForward_push hpc first second output)
    · cases ht
  | yield timedOut =>
    obtain ⟨hpc, rfl⟩ := Option.ite_none_right_eq_some.mp ht |>.imp_right Option.some.inj
    have hs : ∀ n, s.pc ≠ .recved n := fun n hn => by cases hpc.symm.trans hn
    unfold HevSocks5SessionTCP.yield
    split_ifs <;> exact h.of_same (.section hs (fun _ hn => by cases hn) hkept)
  | drain timedOut =>
    obtain ⟨hpc, rfl⟩ := Option.ite_none_right_eq_some.mp ht |>.imp_right Option.some.inj
    have hs : ∀ n, s.pc ≠ .recved n := fun n hn => by cases hpc.symm.trans hn
    unfold HevSocks5SessionTCP.drain
    split_ifs
    · exact h.of_same (.section hs (fun _ hn => by cases hn) hkept)
    · exact h.of_same (.section hs (fun _ hn => by cases hn) hkept)
    · exact h

/-- It holds in every state of every run. -/
theorem forward_of_run {maxSize : Nat} {s : HevSocks5SessionTCP} {as : List Action}
    (hrun : run (step maxSize) new as = some s) : s.Forward :=
  run_invariant (fun _ _ _ h ht => h.step ht) forward_new hrun

/-- **Towards the server nothing is lost, duplicated or reordered.**  What has been written to
    the socket, with what is still queued behind it, is what the application has sent; the
    application may send exactly as much more as the window has room for; and the socket is shut
    down only behind the last byte. -/
theorem written_in_order {maxSize : Nat} {s : HevSocks5SessionTCP} {as : List Action}
    (hrun : run (step maxSize) new as = some s) :
    s.written ++ s.queue.flatten.drop s.pending = s.received ∧
      (∀ pcb, s.pcb = some pcb → pcb.rcvWnd + s.queue.flatten.length = tcpWnd) ∧
      (s.shutWr = true → s.pcbEof = true ∧ s.written = s.received) := by
  have h := forward_of_run hrun
  refine ⟨h.order, h.window, fun hshut => ?_⟩
  obtain ⟨heof, hempty, -⟩ := h.shut hshut
  refine ⟨heof, ?_⟩
  have horder := h.order
  rwa [hempty, List.flatten_nil, List.drop_nil, List.append_nil] at horder

/-- Two bytes have been written, and are still in the queue. -/
theorem written_exchange : ∃ s, run (step 4) new (exchange.take 3) = some s ∧
    s.written = [1, 2] ∧ s.pending = 2 ∧
    s.written ++ s.queue.flatten.drop s.pending = s.received := by
  refine ⟨_, rfl, rfl, rfl, ?_⟩
  have hrun : run (step 4) new (exchange.take 3) = some _ := rfl
  exact (written_in_order hrun).1

end HevSocks5SessionTCP

end DarkMed.Tunnel
