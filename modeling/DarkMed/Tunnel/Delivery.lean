import DarkMed.Tunnel.Streams

/-!
# What a TCP Session Delivers

The direction towards the application.  lwIP refers to bytes in the ring buffer until they are
acknowledged, so two things must hold at once: it is given the bytes of the socket in order, and
the buffer does not reuse the place of a byte too early.
-/

namespace DarkMed.Tunnel

open DarkMed.Lib.Ring DarkMed.Lib.Transition

/-! ## What lwIP queues -/

namespace TcpPcb

/-- `new` has been queued. -/
def queue (pcb : TcpPcb) (new : List Nat) : TcpPcb :=
  { pcb with sndBuf := pcb.sndBuf - new.length, queued := pcb.queued ++ new }

theorem queue_nil (pcb : TcpPcb) : pcb.queue [] = pcb := by simp [queue]

theorem queue_queue (pcb : TcpPcb) (xs ys : List Nat) :
    (pcb.queue xs).queue ys = pcb.queue (xs ++ ys) := by
  simp [queue, Nat.sub_sub]

@[simp] theorem length_addresses (v : Iovec) : v.addresses.length = v.len := by
  simp [Iovec.addresses]

/-- `tcp_write` queues the front of the stretch, or nothing. -/
theorem exists_tcpWrite (pcb : TcpPcb) (taken : Bool) (v : Iovec) :
    ∃ new, new.Sublist v.addresses ∧ new.length ≤ pcb.sndBuf ∧
      (pcb.tcpWrite taken v).2 = pcb.queue new := by
  unfold tcpWrite
  dsimp only
  split_ifs with htaken hzero hfull
  · exact ⟨[], List.nil_sublist _, Nat.zero_le _, pcb.queue_nil.symm⟩
  · exact ⟨[], List.nil_sublist _, Nat.zero_le _, pcb.queue_nil.symm⟩
  · exact ⟨[], List.nil_sublist _, Nat.zero_le _, pcb.queue_nil.symm⟩
  · refine ⟨Iovec.addresses ⟨v.base, v.len % 2 ^ 16⟩, ?_, ?_, ?_⟩
    · exact List.range'_sublist_right.mpr (Nat.mod_le _ _)
    · rw [length_addresses]
      exact Nat.le_of_not_gt hfull
    · rw [queue, length_addresses]

theorem exists_tcpWrites (pcb : TcpPcb) (iov : List Iovec) (answers : List Bool) :
    ∃ new, new.Sublist (addresses iov) ∧ new.length ≤ pcb.sndBuf ∧
      (pcb.tcpWrites iov answers).2 = pcb.queue new := by
  induction iov generalizing pcb answers with
  | nil => exact ⟨[], List.nil_sublist _, Nat.zero_le _, pcb.queue_nil.symm⟩
  | cons v iov ih =>
    cases answers with
    | nil => exact ⟨[], List.nil_sublist _, Nat.zero_le _, pcb.queue_nil.symm⟩
    | cons taken answers =>
      obtain ⟨xs, hxs, hxlen, hfirst⟩ := pcb.exists_tcpWrite taken v
      obtain ⟨ys, hys, hylen, hrest⟩ := ih (pcb.queue xs) answers
      refine ⟨xs ++ ys, hxs.append hys, ?_, ?_⟩
      · have hroom : ys.length ≤ pcb.sndBuf - xs.length := hylen
        rw [List.length_append]
        omega
      · show ((pcb.tcpWrite taken v).2.tcpWrites iov answers).2 = pcb.queue (xs ++ ys)
        rw [hfirst, hrest, queue_queue]

/-- A stretch of a buffer that is no larger than lwIP's is refused only for want of something
    else. -/
theorem tcpWrite_true {pcb : TcpPcb} {v : Iovec} (hsmall : v.len < 2 ^ 16)
    (hfits : v.len ≤ pcb.sndBuf) : pcb.tcpWrite true v = (true, pcb.queue v.addresses) := by
  have hmod : v.len % 2 ^ 16 = v.len := Nat.mod_eq_of_lt hsmall
  unfold tcpWrite
  rw [hmod]
  dsimp only
  rw [if_neg (by simp)]
  by_cases hzero : v.len = 0
  · have hnone : v.addresses = [] := List.length_eq_zero_iff.mp ((length_addresses v).trans hzero)
    rw [if_pos hzero, hnone, queue_nil]
  · rw [if_neg hzero, if_neg (Nat.not_lt.mpr hfits), queue, length_addresses]

/-- A refused call leaves lwIP as it was. -/
@[simp] theorem tcpWrite_false (pcb : TcpPcb) (v : Iovec) : pcb.tcpWrite false v = (false, pcb) :=
  rfl

/-- Where every call is refused, nothing is queued. -/
theorem tcpWrites_of_forall_false {answers : List Bool} (h : ∀ taken ∈ answers, taken = false)
    (pcb : TcpPcb) (iov : List Iovec) : (pcb.tcpWrites iov answers).2 = pcb := by
  induction iov generalizing answers with
  | nil => rfl
  | cons v iov ih =>
    cases answers with
    | nil => rfl
    | cons taken answers =>
      obtain ⟨rfl, hrest⟩ := List.forall_mem_cons.mp h
      exact ih hrest

/-- Where nothing is taken behind what is refused, lwIP queues a prefix. -/
theorem exists_prefix_tcpWrites {answers : List Bool}
    (hsorted : answers.Pairwise fun a b => b = true → a = true) {iov : List Iovec} {pcb : TcpPcb}
    (hsmall : ∀ v ∈ iov, v.len < 2 ^ 16) (hfits : (iov.map Iovec.len).sum ≤ pcb.sndBuf) :
    ∃ new, new <+: addresses iov ∧ (pcb.tcpWrites iov answers).2 = pcb.queue new := by
  induction iov generalizing pcb answers with
  | nil => exact ⟨[], List.nil_prefix, pcb.queue_nil.symm⟩
  | cons v iov ih =>
    cases answers with
    | nil => exact ⟨[], List.nil_prefix, pcb.queue_nil.symm⟩
    | cons taken answers =>
      obtain ⟨hfirst, hbehind⟩ := List.pairwise_cons.mp hsorted
      obtain ⟨hv, hsmall'⟩ := List.forall_mem_cons.mp hsmall
      rw [List.map_cons, List.sum_cons] at hfits
      cases taken with
      | false =>
        -- the rest is refused, too
        refine ⟨[], List.nil_prefix, ?_⟩
        show (pcb.tcpWrites iov answers).2 = pcb.queue []
        have hrest : ∀ taken ∈ answers, taken = false := fun taken htaken =>
          Bool.eq_false_iff.mpr fun h => by cases hfirst taken htaken h
        rw [tcpWrites_of_forall_false hrest, queue_nil]
      | true =>
        -- what has been taken has used up its own room only
        have hroom : (iov.map Iovec.len).sum ≤ (pcb.queue v.addresses).sndBuf := by
          show _ ≤ pcb.sndBuf - v.addresses.length
          rw [length_addresses]
          omega
        obtain ⟨new, hnew, hqueue⟩ := ih hbehind hsmall' hroom
        refine ⟨v.addresses ++ new, (List.prefix_append_right_inj _).mpr hnew, ?_⟩
        show ((pcb.tcpWrite true v).2.tcpWrites iov answers).2 = _
        rw [tcpWrite_true hv (by omega)]
        exact hqueue.trans (queue_queue _ _ _)

/-- Where no call fails, everything has been queued. -/
theorem tcpWrites_of_fst {iov : List Iovec} {pcb : TcpPcb} {answers : List Bool}
    (hsmall : ∀ v ∈ iov, v.len < 2 ^ 16) (hlen : iov.length ≤ answers.length)
    (hok : (pcb.tcpWrites iov answers).1 = true) :
    (pcb.tcpWrites iov answers).2 = pcb.queue (addresses iov) := by
  induction iov generalizing pcb answers with
  | nil => exact pcb.queue_nil.symm
  | cons v iov ih =>
    cases answers with
    | nil => exact absurd hlen (Nat.not_succ_le_zero _)
    | cons taken answers =>
      obtain ⟨hv, hsmall⟩ := List.forall_mem_cons.mp hsmall
      obtain ⟨hfirst, hrest⟩ := Bool.and_eq_true_iff.mp hok
      -- a call that has not failed has queued its whole stretch
      have hqueue : (pcb.tcpWrite taken v).2 = pcb.queue v.addresses := by
        cases taken with
        | false => cases hfirst
        | true =>
          by_cases hfits : v.len ≤ pcb.sndBuf
          · rw [tcpWrite_true hv hfits]
          · have hmod : v.len % 2 ^ 16 = v.len := Nat.mod_eq_of_lt hv
            have hne : v.len ≠ 0 := fun h => hfits (h ▸ Nat.zero_le _)
            have hrefused : pcb.tcpWrite true v = (false, pcb) := by
              unfold tcpWrite
              rw [hmod]
              exact (if_neg (by simp)).trans ((if_neg hne).trans (if_pos (Nat.lt_of_not_le hfits)))
            rw [hrefused] at hfirst
            cases hfirst
      show ((pcb.tcpWrite taken v).2.tcpWrites iov answers).2 = _
      rw [hqueue] at hrest ⊢
      rw [ih hsmall (Nat.le_of_succ_le_succ hlen) hrest, queue_queue]
      rfl

/-- Where every call is taken and there is room, no call fails. -/
theorem tcpWrites_fst_of_forall_true {answers : List Bool} (h : ∀ taken ∈ answers, taken = true)
    {iov : List Iovec} {pcb : TcpPcb} (hsmall : ∀ v ∈ iov, v.len < 2 ^ 16)
    (hfits : (iov.map Iovec.len).sum ≤ pcb.sndBuf) : (pcb.tcpWrites iov answers).1 = true := by
  induction iov generalizing pcb answers with
  | nil => rfl
  | cons v iov ih =>
    cases answers with
    | nil => rfl
    | cons taken answers =>
      obtain ⟨rfl, hrest⟩ := List.forall_mem_cons.mp h
      obtain ⟨hv, hsmall⟩ := List.forall_mem_cons.mp hsmall
      rw [List.map_cons, List.sum_cons] at hfits
      show ((pcb.tcpWrite true v).1 && ((pcb.tcpWrite true v).2.tcpWrites iov answers).1) = true
      rw [tcpWrite_true hv (by omega), Bool.true_and]
      refine ih hrest hsmall ?_
      show _ ≤ pcb.sndBuf - v.addresses.length
      rw [length_addresses]
      omega

end TcpPcb

/-- lwIP takes nothing behind what it has refused in the same section. -/
def Action.InOrder : Action → Prop
  | .push first second _ => second = true → first = true
  | _ => True

namespace HevSocks5SessionTCP

/-! ## The direction towards the application -/

structure Backward (maxSize : Nat) (s : HevSocks5SessionTCP) : Prop where
  wellFormed : s.buffer.WellFormed
  size_le : s.buffer.maxSize ≤ maxSize
  queued_le : ∀ pcb, s.pcb = some pcb → pcb.queued.length ≤ s.buffer.heldSize
  /-- What lwIP refers to is what it has been given. -/
  intact : ∀ pcb, s.pcb = some pcb → pcb.queued.map s.buffer.data = s.handed.drop s.acked
  acked_le : s.acked ≤ s.handed.length
  sndBuf : ∀ pcb, s.pcb = some pcb → pcb.sndBuf + pcb.queued.length = tcpSndBuf
  /-- For as long as the direction is at work, nothing is missing. -/
  stream : s.resB ≠ -1 → s.handed ++ s.buffer.ready = s.upstream
  held : s.resB ≠ -1 → ∀ pcb, s.pcb = some pcb → pcb.queued = s.buffer.heldAddresses
  pushing : ∀ res, s.pc = .push res → s.resB ≠ -1 ∧ (res < 0 → res = -1 ∧ s.ended = true)
  /-- The application sees the end of the stream behind its last byte. -/
  fin : ∀ pcb, s.pcb = some pcb → pcb.finSent = true →
    s.ended = true ∧ s.resB = -1 ∧ s.handed = s.upstream
  starting : s.pc = .starting →
    s.buffer.maxSize = 0 ∧ s.handed = [] ∧ s.upstream = [] ∧ s.resB = 1

/-- A session begins with nothing on its way. -/
theorem backward_new (maxSize : Nat) : Backward maxSize new where
  wellFormed := HevRingBuffer.wellFormed_alloca 0 _
  size_le := Nat.zero_le _
  queued_le pcb h := by
    obtain rfl := Option.some.inj h
    exact Nat.zero_le _
  intact pcb h := by
    obtain rfl := Option.some.inj h
    rfl
  acked_le := le_rfl
  sndBuf pcb h := by
    obtain rfl := Option.some.inj h
    rfl
  stream _ := rfl
  held _ pcb h := by
    obtain rfl := Option.some.inj h
    rfl
  pushing res h := by cases h
  fin pcb h hfin := by
    obtain rfl := Option.some.inj h
    cases hfin
  starting _ := ⟨rfl, rfl, rfl, rfl⟩

/-- The steps of the other direction touch this one in lwIP's window at most. -/
structure SameBackward (s t : HevSocks5SessionTCP) : Prop where
  buffer : t.buffer = s.buffer
  resB : t.resB = s.resB
  ended : t.ended = s.ended
  upstream : t.upstream = s.upstream
  handed : t.handed = s.handed
  acked : t.acked = s.acked
  pushing : ∀ res, t.pc = .push res → s.pc = .push res
  starting : t.pc = .starting → s.pc = .starting
  pcb : ∀ pcb', t.pcb = some pcb' → ∃ pcb, s.pcb = some pcb ∧ pcb'.sndBuf = pcb.sndBuf ∧
    pcb'.queued = pcb.queued ∧ pcb'.finSent = pcb.finSent

/-- A step that leaves the direction alone keeps what is known of it. -/
theorem Backward.of_same {maxSize : Nat} {s t : HevSocks5SessionTCP} (h : s.Backward maxSize)
    (hsame : SameBackward s t) : t.Backward maxSize where
  wellFormed := hsame.buffer ▸ h.wellFormed
  size_le := hsame.buffer ▸ h.size_le
  queued_le pcb' hpcb' := by
    obtain ⟨pcb, hpcb, -, hqueued, -⟩ := hsame.pcb pcb' hpcb'
    rw [hqueued, hsame.buffer]
    exact h.queued_le pcb hpcb
  intact pcb' hpcb' := by
    obtain ⟨pcb, hpcb, -, hqueued, -⟩ := hsame.pcb pcb' hpcb'
    rw [hqueued, hsame.buffer, hsame.handed, hsame.acked]
    exact h.intact pcb hpcb
  acked_le := by
    rw [hsame.acked, hsame.handed]
    exact h.acked_le
  sndBuf pcb' hpcb' := by
    obtain ⟨pcb, hpcb, hsnd, hqueued, -⟩ := hsame.pcb pcb' hpcb'
    rw [hqueued, hsnd]
    exact h.sndBuf pcb hpcb
  stream hres := by
    rw [hsame.handed, hsame.buffer, hsame.upstream]
    exact h.stream (hsame.resB ▸ hres)
  held hres pcb' hpcb' := by
    obtain ⟨pcb, hpcb, -, hqueued, -⟩ := hsame.pcb pcb' hpcb'
    rw [hqueued, hsame.buffer]
    exact h.held (hsame.resB ▸ hres) pcb hpcb
  pushing res hpc := by
    rw [hsame.resB, hsame.ended]
    exact h.pushing res (hsame.pushing res hpc)
  fin pcb' hpcb' hfin := by
    obtain ⟨pcb, hpcb, -, -, hfin'⟩ := hsame.pcb pcb' hpcb'
    rw [hsame.ended, hsame.resB, hsame.handed, hsame.upstream]
    exact h.fin pcb hpcb (hfin' ▸ hfin)
  starting hpc := by
    rw [hsame.buffer, hsame.handed, hsame.upstream, hsame.resB]
    exact h.starting (hsame.starting hpc)

/-! ### The steps of this direction -/

/-- What is acknowledged leaves the front of the queue, and the buffer releases the same bytes. -/
theorem Backward.tcpSentHandler {maxSize : Nat} {s t : HevSocks5SessionTCP}
    (h : s.Backward maxSize) {len : Nat} (ht : s.tcpSentHandler len = some t) :
    t.Backward maxSize := by
  unfold HevSocks5SessionTCP.tcpSentHandler at ht
  split at ht
  · cases ht
  · next pcb hpcb =>
    split at ht
    · next hlen =>
      cases ht
      have hqueued := h.queued_le pcb hpcb
      have hheld : len ≤ s.buffer.heldSize := hlen.2.trans hqueued
      have hintact := h.intact pcb hpcb
      -- as lwIP refers to what it has been given, the lengths agree
      have hleft : pcb.queued.length = s.handed.length - s.acked := by
        have := congrArg List.length hintact
        simpa using this
      refine ⟨h.wellFormed.readRelease hheld, ?_, fun pcb' hpcb' => ?_, fun pcb' hpcb' => ?_, ?_,
        fun pcb' hpcb' => ?_, fun hres => ?_, fun hres pcb' hpcb' => ?_, h.pushing,
        fun pcb' hpcb' hfin => ?_, fun hpc => ?_⟩
      · show (s.buffer.readRelease len).maxSize ≤ maxSize
        rw [HevRingBuffer.maxSize_readRelease]
        exact h.size_le
      · obtain rfl := Option.some.inj hpcb'
        show (pcb.queued.drop len).length ≤ (s.buffer.readRelease len).heldSize
        rw [List.length_drop, HevRingBuffer.heldSize_readRelease]
        omega
      · -- the front goes on both sides
        obtain rfl := Option.some.inj hpcb'
        show (pcb.queued.drop len).map (s.buffer.readRelease len).data =
          s.handed.drop (s.acked + len)
        rw [HevRingBuffer.data_readRelease, List.map_drop, hintact, List.drop_drop]
      · show s.acked + len ≤ s.handed.length
        omega
      · obtain rfl := Option.some.inj hpcb'
        have hsnd := h.sndBuf pcb hpcb
        show pcb.sndBuf + len + (pcb.queued.drop len).length = tcpSndBuf
        rw [List.length_drop]
        omega
      · have hready := congrArg HevRingBuffer.Pipe.ready (h.wellFormed.pipe_readRelease hheld)
        show s.handed ++ (s.buffer.readRelease len).pipe.ready = s.upstream
        rw [hready]
        exact h.stream hres
      · obtain rfl := Option.some.inj hpcb'
        show pcb.queued.drop len = (s.buffer.readRelease len).heldAddresses
        rw [h.wellFormed.heldAddresses_readRelease hheld, h.held hres pcb hpcb]
      · obtain rfl := Option.some.inj hpcb'
        exact h.fin pcb hpcb hfin
      · obtain ⟨hmax, hrest⟩ := h.starting hpc
        refine ⟨?_, hrest⟩
        show (s.buffer.readRelease len).maxSize = 0
        rw [HevRingBuffer.maxSize_readRelease, hmax]
    · cases ht

/-- What is read lies behind what is ready, and moves nothing. -/
theorem Backward.tcpSpliceB {maxSize : Nat} {s t : HevSocks5SessionTCP} (h : s.Backward maxSize)
    {readv : IoResult (List UInt8)} (ht : s.tcpSpliceB readv = some t) : t.Backward maxSize := by
  unfold HevSocks5SessionTCP.tcpSpliceB at ht
  split at ht
  · cases ht
    exact { h with pushing := fun _ hpc => (by cases hpc), starting := fun hpc => (by cases hpc) }
  · next hres =>
    -- a direction that is at work
    have hlive : s.resB ≠ -1 := fun heq => hres (heq ▸ by decide)
    split at ht
    · cases ht
      refine { h with pushing := fun res hpc => ?_, starting := fun hpc => (by cases hpc) }
      obtain rfl := Pc.push.inj hpc
      exact ⟨hlive, fun hneg => absurd hneg (by decide)⟩
    · split at ht
      · next bytes =>
        -- the free space is filled: what is held or ready does not move
        split at ht
        · next hbytes =>
          cases ht
          have hroom : bytes.length ≤ s.buffer.maxSize - s.buffer.useSize := by
            have hlen := hbytes.2
            rwa [h.wellFormed.addresses_writing, length_arc] at hlen
          have hready := congrArg HevRingBuffer.Pipe.ready (h.wellFormed.pipe_write hroom)
          have hheld : ((s.buffer.fill bytes).writeFinish bytes.length).heldAddresses =
              s.buffer.heldAddresses := HevRingBuffer.heldAddresses_writeFinish _
          refine ⟨(h.wellFormed.fill bytes).writeFinish hroom, h.size_le, fun pcb hpcb => ?_,
            fun pcb hpcb => ?_, h.acked_le, h.sndBuf, fun _ => ?_, fun _ pcb hpcb => ?_,
            fun res hpc => ?_, fun pcb hpcb hfin => ?_, fun hpc => (by cases hpc)⟩
          · have hsize : ((s.buffer.fill bytes).writeFinish bytes.length).heldSize =
                s.buffer.heldSize := Nat.add_sub_add_right _ _ _
            rw [hsize]
            exact h.queued_le pcb hpcb
          · -- what lwIP refers to is held, so the new bytes do not touch it
            have hsub : pcb.queued ⊆ s.buffer.heldAddresses ++ s.buffer.readyAddresses := by
              rw [h.held hlive pcb hpcb]
              exact List.subset_append_left _ _
            exact (h.wellFormed.map_fill hsub bytes).trans (h.intact pcb hpcb)
          · show s.handed ++ ((s.buffer.fill bytes).writeFinish bytes.length).pipe.ready =
              s.upstream ++ bytes
            rw [hready, ← h.stream hlive, List.append_assoc]
            rfl
          · rw [hheld]
            exact h.held hlive pcb hpcb
          · obtain rfl := Pc.push.inj hpc
            exact ⟨hlive, fun hneg => absurd hneg (by decide)⟩
          · exact absurd (h.fin pcb hpcb hfin).2.1 hlive
        · cases ht
      · cases ht
        refine { h with pushing := fun res hpc => ?_, starting := fun hpc => (by cases hpc) }
        obtain rfl := Pc.push.inj hpc
        exact ⟨hlive, fun hneg => absurd hneg (by decide)⟩
      · cases ht
        refine { h with
          pushing := fun res hpc => ⟨hlive, fun _ => ⟨(Pc.push.inj hpc).symm, rfl⟩⟩
          fin := fun pcb hpcb hfin => ⟨rfl, (h.fin pcb hpcb hfin).2⟩
          starting := fun hpc => (by cases hpc) }

/-- A section that gives way to `yield` and has given lwIP nothing. -/
theorem Backward.closed {maxSize : Nat} {s : HevSocks5SessionTCP} (h : s.Backward maxSize)
    (hpcb : s.pcb = none) : ({ s with resB := -1, pc := .yield } : HevSocks5SessionTCP).Backward
      maxSize where
  wellFormed := h.wellFormed
  size_le := h.size_le
  queued_le _ hp := by cases hpcb.symm.trans hp
  intact _ hp := by cases hpcb.symm.trans hp
  acked_le := h.acked_le
  sndBuf _ hp := by cases hpcb.symm.trans hp
  stream hres := absurd rfl hres
  held hres := absurd rfl hres
  pushing _ hpc := by cases hpc
  fin _ hp := by cases hpcb.symm.trans hp
  starting hpc := by cases hpc

/-! ### What a section under the mutex does -/

theorem push_of_none {s : HevSocks5SessionTCP} (hpcb : s.pcb = none) (res : Int32)
    (first second output : Bool) :
    s.push res first second output = { s with resB := -1, pc := .yield } := by
  simp only [HevSocks5SessionTCP.push, hpcb]

/-- Nothing is ready: the stream may be over. -/
theorem push_of_empty {s : HevSocks5SessionTCP} {pcb : TcpPcb} (hpcb : s.pcb = some pcb)
    (hready : s.buffer.rdaSize = 0) (res : Int32) (first second output : Bool) :
    s.push res first second output =
      { s with
        pcb := some { pcb with finSent := decide (res < 0) || pcb.finSent }
        resB := res
        pc := .yield } := by
  have hempty : s.buffer.reading = [] := if_pos hready
  simp only [HevSocks5SessionTCP.push, hpcb, hempty, if_true]
  by_cases hneg : res < 0
  · simp [hneg]
  · simp [hneg]

/-- lwIP is given what is ready, and queues `new`. -/
theorem push_of_ready {s : HevSocks5SessionTCP} {pcb : TcpPcb} (hpcb : s.pcb = some pcb)
    (hready : s.buffer.rdaSize ≠ 0) (res : Int32) {first second : Bool} (output : Bool)
    {new : List Nat}
    (hnew : (pcb.tcpWrites s.buffer.reading [first, second]).2 = pcb.queue new) :
    s.push res first second output =
      { s with
        pcb := some (pcb.queue new)
        buffer := s.buffer.readFinish s.buffer.rdaSize
        handed := s.handed ++ new.map s.buffer.data
        resB := if ((pcb.tcpWrites s.buffer.reading [first, second]).1 && output) = true
          then 1 else -1
        pc := .yield } := by
  have hsome : s.buffer.reading ≠ [] := fun h => hready (segments_eq_nil.mp h)
  have hsize : (s.buffer.reading.map Iovec.len).sum = s.buffer.rdaSize := sum_len_segments _ _ _
  have hdrop : (pcb.queue new).queued.drop pcb.queued.length = new := List.drop_left' rfl
  simp only [HevSocks5SessionTCP.push, hpcb, hsome, if_false, hnew, hsize, hdrop]

/-- No stretch is too long for the length that lwIP takes, which has sixteen bits. -/
theorem Backward.len_reading {maxSize : Nat} {s : HevSocks5SessionTCP} (h : s.Backward maxSize)
    (hmax : maxSize ≤ tcpSndBuf) : ∀ v ∈ s.buffer.reading, v.len < 2 ^ 16 := fun v hv => by
  have hle : v.len ≤ s.buffer.rdaSize := len_le_of_mem_segments hv
  have hrda := h.wellFormed.rda_le
  have huse := h.wellFormed.use_le
  have hsize := h.size_le
  have hsnd : tcpSndBuf < 2 ^ 16 := by decide
  omega

/-- Where no call has failed, lwIP has queued all that was ready. -/
theorem Backward.new_eq_ready {maxSize : Nat} {s : HevSocks5SessionTCP} (h : s.Backward maxSize)
    (hmax : maxSize ≤ tcpSndBuf) {pcb : TcpPcb} {first second output : Bool} {new : List Nat}
    (hnew : (pcb.tcpWrites s.buffer.reading [first, second]).2 = pcb.queue new)
    (hres : (if ((pcb.tcpWrites s.buffer.reading [first, second]).1 && output) = true
      then (1 : Int32) else -1) ≠ -1) : new = s.buffer.readyAddresses := by
  -- otherwise the direction would be over
  have hok : ((pcb.tcpWrites s.buffer.reading [first, second]).1 && output) = true := by
    by_contra hfailed
    exact hres (if_neg hfailed)
  have hlen : s.buffer.reading.length ≤ [first, second].length := length_segments_le _ _ _
  have htaken := TcpPcb.tcpWrites_of_fst (h.len_reading hmax) hlen (Bool.and_eq_true_iff.mp hok).1
  have hqueued := congrArg TcpPcb.queued (hnew.symm.trans htaken)
  rw [← h.wellFormed.addresses_reading]
  exact List.append_cancel_left hqueued

/-- What is ready has been handed over. -/
theorem handed_ready {s : HevSocks5SessionTCP} (h : s.buffer.WellFormed) :
    (s.handed ++ s.buffer.readyAddresses.map s.buffer.data) ++
        (s.buffer.readFinish s.buffer.rdaSize).ready = s.handed ++ s.buffer.ready := by
  have hready : (s.buffer.readFinish s.buffer.rdaSize).ready =
      s.buffer.ready.drop s.buffer.rdaSize :=
    congrArg HevRingBuffer.Pipe.ready (h.pipe_readFinish le_rfl)
  have hnone : s.buffer.ready.drop s.buffer.rdaSize = [] :=
    List.drop_of_length_le (by simp [HevRingBuffer.ready, HevRingBuffer.readyAddresses])
  rw [hready, hnone, List.append_nil]
  rfl

/-- lwIP refers to what it has queued, all of which is held. -/
theorem Backward.push_ready {maxSize : Nat} {s : HevSocks5SessionTCP} (h : s.Backward maxSize)
    (hlive : s.resB ≠ -1) {pcb : TcpPcb} (hpcb : s.pcb = some pcb) {new : List Nat}
    (hsub : new.Sublist s.buffer.readyAddresses) (hroom : new.length ≤ pcb.sndBuf) {res : Int32}
    (hall : res ≠ -1 → new = s.buffer.readyAddresses) :
    Backward maxSize { s with
      pcb := some (pcb.queue new)
      buffer := s.buffer.readFinish s.buffer.rdaSize
      handed := s.handed ++ new.map s.buffer.data
      resB := res
      pc := .yield } where
  wellFormed := h.wellFormed.readFinish le_rfl
  size_le := h.size_le
  queued_le pcb' hpcb' := by
    obtain rfl := Option.some.inj hpcb'
    have hqueued := h.queued_le pcb hpcb
    have hlen : new.length ≤ s.buffer.rdaSize := hsub.length_le.trans (length_arc _ _ _).le
    have hrda := h.wellFormed.rda_le
    show (pcb.queued ++ new).length ≤ s.buffer.useSize - (s.buffer.rdaSize - s.buffer.rdaSize)
    rw [List.length_append]
    rw [HevRingBuffer.heldSize] at hqueued
    omega
  intact pcb' hpcb' := by
    obtain rfl := Option.some.inj hpcb'
    show (pcb.queued ++ new).map s.buffer.data = (s.handed ++ new.map s.buffer.data).drop s.acked
    rw [List.map_append, h.intact pcb hpcb, List.drop_append_of_le_length h.acked_le]
  acked_le := by
    show s.acked ≤ (s.handed ++ new.map s.buffer.data).length
    rw [List.length_append]
    exact h.acked_le.trans (Nat.le_add_right _ _)
  sndBuf pcb' hpcb' := by
    obtain rfl := Option.some.inj hpcb'
    have hsnd := h.sndBuf pcb hpcb
    show pcb.sndBuf - new.length + (pcb.queued ++ new).length = tcpSndBuf
    rw [List.length_append]
    omega
  stream hres := by
    show s.handed ++ new.map s.buffer.data ++ (s.buffer.readFinish s.buffer.rdaSize).ready =
      s.upstream
    rw [hall hres, handed_ready h.wellFormed]
    exact h.stream hlive
  held hres pcb' hpcb' := by
    obtain rfl := Option.some.inj hpcb'
    show pcb.queued ++ new = (s.buffer.readFinish s.buffer.rdaSize).heldAddresses
    -- all that was ready is held now
    have hwhole : s.buffer.readyAddresses.take s.buffer.rdaSize = s.buffer.readyAddresses :=
      List.take_of_length_le (length_arc _ _ _).le
    rw [h.wellFormed.heldAddresses_readFinish le_rfl, hwhole, hall hres, h.held hlive pcb hpcb]
  pushing _ hpc := by cases hpc
  fin pcb' hpcb' hfin := by
    obtain rfl := Option.some.inj hpcb'
    exact absurd (h.fin pcb hpcb hfin).2.1 hlive
  starting hpc := by cases hpc

/-- Nothing is ready. -/
theorem ready_eq_nil {s : HevSocks5SessionTCP} (h : s.buffer.rdaSize = 0) :
    s.buffer.ready = [] := by
  rw [HevRingBuffer.ready, HevRingBuffer.readyAddresses, h]
  rfl

/-- With nothing ready, the end of the stream may be sent behind the last byte. -/
theorem Backward.push_empty {maxSize : Nat} {s : HevSocks5SessionTCP} (h : s.Backward maxSize)
    {res : Int32} (hpc : s.pc = .push res) {pcb : TcpPcb} (hpcb : s.pcb = some pcb)
    (hready : s.buffer.rdaSize = 0) :
    Backward maxSize { s with
      pcb := some { pcb with finSent := decide (res < 0) || pcb.finSent }
      resB := res
      pc := .yield } where
  wellFormed := h.wellFormed
  size_le := h.size_le
  queued_le pcb' hpcb' := by
    obtain rfl := Option.some.inj hpcb'
    exact h.queued_le pcb hpcb
  intact pcb' hpcb' := by
    obtain rfl := Option.some.inj hpcb'
    exact h.intact pcb hpcb
  acked_le := h.acked_le
  sndBuf pcb' hpcb' := by
    obtain rfl := Option.some.inj hpcb'
    exact h.sndBuf pcb hpcb
  stream _ := h.stream (h.pushing res hpc).1
  held _ pcb' hpcb' := by
    obtain rfl := Option.some.inj hpcb'
    exact h.held (h.pushing res hpc).1 pcb hpcb
  pushing _ hpc := by cases hpc
  fin pcb' hpcb' hfin := by
    obtain rfl := Option.some.inj hpcb'
    obtain ⟨hlive, hended⟩ := h.pushing res hpc
    have hstream := h.stream hlive
    rw [ready_eq_nil hready, List.append_nil] at hstream
    cases Bool.or_eq_true_iff.mp hfin with
    -- the end is sent now: nothing is ready, so all of the stream has been handed over
    | inl hneg =>
      obtain ⟨hminus, hend⟩ := hended (of_decide_eq_true hneg)
      exact ⟨hend, hminus, hstream⟩
    | inr hfin => exact absurd (h.fin pcb hpcb hfin).2.1 hlive
  starting hpc := by cases hpc

/-- The section under the mutex keeps what is known of the direction, whatever lwIP answers. -/
theorem Backward.push {maxSize : Nat} {s : HevSocks5SessionTCP} (h : s.Backward maxSize)
    (hmax : maxSize ≤ tcpSndBuf) {res : Int32} (hpc : s.pc = .push res)
    (first second output : Bool) : (s.push res first second output).Backward maxSize := by
  cases hpcb : s.pcb with
  -- the connection is lost
  | none =>
    rw [push_of_none hpcb]
    exact h.closed hpcb
  | some pcb =>
    by_cases hready : s.buffer.rdaSize = 0
    · rw [push_of_empty hpcb hready]
      exact h.push_empty hpc hpcb hready
    · -- lwIP queues some of what is ready, as far as it has room
      obtain ⟨new, hsub, hroom, hnew⟩ := pcb.exists_tcpWrites s.buffer.reading [first, second]
      rw [h.wellFormed.addresses_reading] at hsub
      rw [push_of_ready hpcb hready res output hnew]
      exact h.push_ready (h.pushing res hpc).1 hpcb hsub hroom (h.new_eq_ready hmax hnew)

/-! ### The steps of the other direction -/

/-- What lwIP delivers is for the other direction. -/
theorem sameBackward_tcpRecvHandler {s t : HevSocks5SessionTCP}
    {p : Option (List (List UInt8))} (ht : s.tcpRecvHandler p = some t) : SameBackward s t := by
  unfold HevSocks5SessionTCP.tcpRecvHandler at ht
  split at ht
  · cases ht
  · next pcb p hpcb =>
    split at ht
    · cases ht
      refine ⟨rfl, rfl, rfl, rfl, rfl, rfl, fun _ h => h, fun h => h, fun pcb' h => ⟨pcb, hpcb, ?_⟩⟩
      obtain rfl := Option.some.inj h
      exact ⟨rfl, rfl, rfl⟩
    · cases ht
  · split at ht
    · cases ht
      exact ⟨rfl, rfl, rfl, rfl, rfl, rfl, fun _ h => h, fun h => h,
        fun pcb' h => ⟨pcb', h, rfl, rfl, rfl⟩⟩
    · cases ht

/-- A lost connection takes lwIP's side away, and nothing else. -/
theorem sameBackward_tcpErrHandler {s t : HevSocks5SessionTCP} (ht : s.tcpErrHandler = some t) :
    SameBackward s t := by
  unfold HevSocks5SessionTCP.tcpErrHandler at ht
  split at ht
  · cases ht
  · cases ht
    exact ⟨rfl, rfl, rfl, rfl, rfl, rfl, fun _ h => h, fun h => h, fun _ h => by cases h⟩

/-- A section that changes nothing of this direction, and does not lead to the mutex. -/
theorem SameBackward.section {s : HevSocks5SessionTCP} {c : Pc} (hpush : ∀ res, c ≠ .push res)
    (hstart : c ≠ .starting) {queue : List (List UInt8)} {resF : Int32} {shutWr timedOut : Bool}
    {written : List UInt8} :
    SameBackward s { s with queue, resF, shutWr, timedOut, written, pc := c } where
  buffer := rfl
  resB := rfl
  ended := rfl
  upstream := rfl
  handed := rfl
  acked := rfl
  pushing res h := absurd h (hpush res)
  starting h := absurd h hstart
  pcb pcb' h := ⟨pcb', h, rfl, rfl, rfl⟩

/-- Writing to the server leaves this direction alone. -/
theorem sameBackward_tcpSpliceF {s t : HevSocks5SessionTCP} {writev : IoResult Nat}
    (ht : s.tcpSpliceF writev = some t) : SameBackward s t := by
  unfold HevSocks5SessionTCP.tcpSpliceF at ht
  split at ht
  · cases ht
    exact .section (fun _ h => by cases h) (fun h => by cases h)
  · split at ht
    · split at ht
      · cases ht
        exact .section (fun _ h => by cases h) (fun h => by cases h)
      · cases ht
        exact .section (fun _ h => by cases h) (fun h => by cases h)
    · split at ht
      · split at ht
        · cases ht
          exact .section (fun _ h => by cases h) (fun h => by cases h)
        · cases ht
      · cases ht
        exact .section (fun _ h => by cases h) (fun h => by cases h)
      · cases ht
        exact .section (fun _ h => by cases h) (fun h => by cases h)

/-- What the application is told to have been received is for the other direction. -/
theorem sameBackward_recved (s : HevSocks5SessionTCP) (n : Nat) : SameBackward s (s.recved n) := by
  refine ⟨rfl, rfl, rfl, rfl, rfl, rfl, fun _ h => (by cases h), fun h => (by cases h),
    fun pcb' h => ?_⟩
  obtain ⟨pcb, hpcb, rfl⟩ := Option.map_eq_some_iff.mp h
  exact ⟨pcb, hpcb, rfl, rfl, rfl⟩

/-- The loop goes on or is left, with this direction as it is. -/
theorem sameBackward_yield (s : HevSocks5SessionTCP) (timedOut : Bool) :
    SameBackward s (s.yield timedOut) := by
  unfold HevSocks5SessionTCP.yield
  split_ifs <;> exact .section (fun _ h => by cases h) (fun h => by cases h)

/-- The draining only waits. -/
theorem sameBackward_drain {s : HevSocks5SessionTCP} (timedOut : Bool) :
    SameBackward s (s.drain timedOut) := by
  unfold HevSocks5SessionTCP.drain
  split_ifs
  · exact .section (fun _ h => by cases h) (fun h => by cases h)
  · exact .section (fun _ h => by cases h) (fun h => by cases h)
  · exact ⟨rfl, rfl, rfl, rfl, rfl, rfl, fun _ h => h, fun h => h,
      fun pcb' h => ⟨pcb', h, rfl, rfl, rfl⟩⟩

/-- Every step either leaves the direction alone or is one of four. -/
theorem sameBackward_or {maxSize : Nat} {s t : HevSocks5SessionTCP} {a : Action}
    (ht : step maxSize s a = some t) :
    SameBackward s t ∨ (∃ len, s.tcpSentHandler len = some t) ∨
      (∃ data, s.pc = .starting ∧ s.splice maxSize data = t) ∨
      (∃ readv, s.tcpSpliceB readv = some t) ∨
      (∃ res first second output, a = .push first second output ∧ s.pc = .push res ∧
        s.push res first second output = t) := by
  cases a with
  | tcpRecvHandler p =>
    exact .inl (sameBackward_tcpRecvHandler (Option.ite_none_left_eq_some.mp ht).2)
  | tcpSentHandler len => exact .inr (.inl ⟨len, (Option.ite_none_left_eq_some.mp ht).2⟩)
  | tcpErrHandler =>
    exact .inl (sameBackward_tcpErrHandler (Option.ite_none_left_eq_some.mp ht).2)
  | splice data =>
    obtain ⟨hpc, h⟩ := Option.ite_none_right_eq_some.mp ht
    exact .inr (.inr (.inl ⟨data, hpc, Option.some.inj h⟩))
  | tcpSpliceF writev =>
    exact .inl (sameBackward_tcpSpliceF (Option.ite_none_right_eq_some.mp ht).2)
  | recved =>
    simp only [HevSocks5SessionTCP.step] at ht
    split at ht
    · next n hpc =>
      cases ht
      exact .inl (sameBackward_recved s n)
    · cases ht
  | tcpSpliceB readv =>
    exact .inr (.inr (.inr (.inl ⟨readv, (Option.ite_none_right_eq_some.mp ht).2⟩)))
  -- only this step is at the mutex
  | push first second output =>
    simp only [HevSocks5SessionTCP.step] at ht
    split at ht
    · next res hpc =>
      exact .inr (.inr (.inr (.inr ⟨res, first, second, output, rfl, hpc, Option.some.inj ht⟩)))
    · cases ht
  | yield timedOut =>
    obtain ⟨-, rfl⟩ := Option.ite_none_right_eq_some.mp ht |>.imp_right Option.some.inj
    exact .inl (sameBackward_yield s timedOut)
  | drain timedOut =>
    obtain ⟨-, rfl⟩ := Option.ite_none_right_eq_some.mp ht |>.imp_right Option.some.inj
    exact .inl (sameBackward_drain timedOut)

/-- The loop is entered with an empty buffer of the size that is configured. -/
theorem Backward.splice {maxSize : Nat} {s : HevSocks5SessionTCP} (h : s.Backward maxSize)
    (hpc : s.pc = .starting) (data : Nat → UInt8) : (s.splice maxSize data).Backward maxSize := by
  obtain ⟨hzero, hhanded, hupstream, hres⟩ := h.starting hpc
  -- the buffer of the start has no room, so nothing is held in it
  have hnone : ∀ pcb, s.pcb = some pcb → pcb.queued = [] := fun pcb hpcb => by
    have hqueued := h.queued_le pcb hpcb
    have huse := h.wellFormed.use_le
    rw [HevRingBuffer.heldSize] at hqueued
    exact List.length_eq_zero_iff.mp (by omega)
  unfold HevSocks5SessionTCP.splice
  split
  · exact { h with pushing := fun _ h => (by cases h), starting := fun h => (by cases h) }
  · refine ⟨HevRingBuffer.wellFormed_alloca _ _, le_rfl, fun pcb hpcb => ?_, fun pcb hpcb => ?_,
      h.acked_le, h.sndBuf, fun _ => ?_, fun _ pcb hpcb => hnone pcb hpcb,
      fun _ h => (by cases h), h.fin, fun h => (by cases h)⟩
    · rw [hnone pcb hpcb]
      exact Nat.zero_le _
    · have hintact := h.intact pcb hpcb
      rw [hnone pcb hpcb] at hintact ⊢
      exact hintact
    · show s.handed ++ [] = s.upstream
      rw [hhanded, hupstream]
      rfl

/-- **One step** keeps what is known of the direction. -/
theorem Backward.step {maxSize : Nat} {s t : HevSocks5SessionTCP} {a : Action}
    (h : s.Backward maxSize) (hmax : maxSize ≤ tcpSndBuf) (ht : step maxSize s a = some t) :
    t.Backward maxSize := by
  obtain hsame | ⟨len, ht⟩ | ⟨data, hpc, rfl⟩ | ⟨readv, ht⟩ |
    ⟨res, first, second, output, -, hpc, rfl⟩ := sameBackward_or ht
  · exact h.of_same hsame
  · exact h.tcpSentHandler ht
  · exact h.splice hpc data
  · exact h.tcpSpliceB ht
  · exact h.push hmax hpc first second output

/-- A size that is allowed is taken as it is. -/
@[simp] theorem tcpBufferSize_four : tcpBufferSize 4 = 4 := by simp [tcpBufferSize, tcpSndBuf]

/-- The buffer is no larger than lwIP's. -/
theorem tcpBufferSize_le (configured : Nat) : tcpBufferSize configured ≤ tcpSndBuf := by
  unfold tcpBufferSize
  split <;> omega

/-- It holds in every state of every run. -/
theorem backward_of_run {configured : Nat} {s : HevSocks5SessionTCP} {as : List Action}
    (hrun : run (step (tcpBufferSize configured)) new as = some s) :
    s.Backward (tcpBufferSize configured) :=
  run_invariant (fun _ _ _ h ht => h.step (tcpBufferSize_le configured) ht) (backward_new _) hrun

/-- **What lwIP refers to does not change under its hands.**  In every run, the bytes that lwIP
    has queued and not seen acknowledged are, in the ring buffer, the ones that it has been given;
    and the application is told that the stream is over only when all of it has been handed over. -/
theorem queued_intact {configured : Nat} {s : HevSocks5SessionTCP} {as : List Action}
    (hrun : run (step (tcpBufferSize configured)) new as = some s) (pcb : TcpPcb)
    (hpcb : s.pcb = some pcb) :
    pcb.queued.map s.buffer.data = s.handed.drop s.acked ∧
      (pcb.finSent = true → s.ended = true ∧ s.handed = s.upstream) := by
  have h := backward_of_run hrun
  exact ⟨h.intact pcb hpcb, fun hfin => ⟨(h.fin pcb hpcb hfin).1, (h.fin pcb hpcb hfin).2.2⟩⟩

/-- The last two bytes lie at the end of the buffer and at its start. -/
theorem queued_exchange : ∃ s pcb, run (step 4) new (exchange.take 13) = some s ∧
    s.pcb = some pcb ∧ pcb.queued = [2, 3, 0] ∧
    pcb.queued.map s.buffer.data = s.handed.drop s.acked := by
  obtain ⟨s, pcb, hrun, hpcb, hqueued⟩ : ∃ s pcb, run (step 4) new (exchange.take 13) = some s ∧
    s.pcb = some pcb ∧ pcb.queued = [2, 3, 0] := ⟨_, _, rfl, rfl, rfl⟩
  have hbuffer : run (step (tcpBufferSize 4)) new (exchange.take 13) = some s := by
    rwa [tcpBufferSize_four]
  have hintact := (queued_intact hbuffer pcb hpcb).1
  exact ⟨s, pcb, hrun, hpcb, hqueued, hintact⟩

/-! ## When the direction is over -/

/-- Nothing moves any more but the acknowledgements. -/
theorem Backward.over {maxSize : Nat} {s t : HevSocks5SessionTCP} {a : Action}
    (h : s.Backward maxSize) (hres : s.resB = -1)
    (ht : HevSocks5SessionTCP.step maxSize s a = some t) :
    t.resB = -1 ∧ t.handed = s.handed ∧ t.upstream = s.upstream ∧ t.buffer.ready = s.buffer.ready ∧
      ∀ pcb', t.pcb = some pcb' → ∃ pcb, s.pcb = some pcb ∧ pcb'.finSent = pcb.finSent := by
  obtain hsame | ⟨len, ht⟩ | ⟨data, hpc, rfl⟩ | ⟨readv, ht⟩ |
    ⟨res, first, second, output, -, hpc, rfl⟩ := sameBackward_or ht
  · refine ⟨hsame.resB ▸ hres, hsame.handed, hsame.upstream, by rw [hsame.buffer],
      fun pcb' hpcb' => ?_⟩
    obtain ⟨pcb, hpcb, -, -, hfin⟩ := hsame.pcb pcb' hpcb'
    exact ⟨pcb, hpcb, hfin⟩
  · unfold HevSocks5SessionTCP.tcpSentHandler at ht
    split at ht
    · cases ht
    · next pcb hpcb =>
      split at ht
      · next hlen =>
        cases ht
        have hready := congrArg HevRingBuffer.Pipe.ready
          (h.wellFormed.pipe_readRelease (hlen.2.trans (h.queued_le pcb hpcb)))
        refine ⟨hres, rfl, rfl, hready, fun pcb' hpcb' => ⟨pcb, hpcb, ?_⟩⟩
        obtain rfl := Option.some.inj hpcb'
        rfl
      · cases ht
  · -- the direction is at work when the loop is entered
    exact absurd ((h.starting hpc).2.2.2.symm.trans hres) (by decide)
  · have hneg : s.resB < 0 := hres ▸ by decide
    obtain rfl := Option.some.inj ((if_pos hneg).symm.trans ht)
    exact ⟨hres, rfl, rfl, rfl, fun pcb' hpcb' => ⟨pcb', hpcb', rfl⟩⟩
  · -- and in front of the mutex
    exact absurd hres (h.pushing res hpc).1

/-- It is only ever over in the section under the mutex. -/
theorem closing {maxSize : Nat} {s t : HevSocks5SessionTCP} {a : Action} (hlive : s.resB ≠ -1)
    (ht : step maxSize s a = some t) (hdone : t.resB = -1) :
    ∃ res first second output, a = .push first second output ∧ s.pc = .push res ∧
      s.push res first second output = t := by
  -- of the five kinds of step, four leave `resB` alone
  obtain hsame | ⟨len, ht⟩ | ⟨data, -, rfl⟩ | ⟨readv, ht⟩ | hpush := sameBackward_or ht
  · exact absurd (hsame.resB ▸ hdone) hlive
  · unfold HevSocks5SessionTCP.tcpSentHandler at ht
    split at ht
    · cases ht
    · split at ht
      · cases ht
        exact absurd hdone hlive
      · cases ht
  · unfold HevSocks5SessionTCP.splice at hdone
    split at hdone <;> exact absurd hdone hlive
  · unfold HevSocks5SessionTCP.tcpSpliceB at ht
    split at ht
    · cases ht
      exact absurd hdone hlive
    · split at ht
      · cases ht
        exact absurd hdone hlive
      · split at ht
        · split at ht
          · cases ht
            exact absurd hdone hlive
          · cases ht
        · cases ht
          exact absurd hdone hlive
        · cases ht
          exact absurd hdone hlive
  · exact hpush

/-- What is ready fits lwIP's send buffer. -/
theorem Backward.fits {maxSize : Nat} {s : HevSocks5SessionTCP} (h : s.Backward maxSize)
    (hmax : maxSize ≤ tcpSndBuf) (hlive : s.resB ≠ -1) {pcb : TcpPcb} (hpcb : s.pcb = some pcb) :
    (s.buffer.reading.map Iovec.len).sum ≤ pcb.sndBuf := by
  have hsum : (s.buffer.reading.map Iovec.len).sum = s.buffer.rdaSize := sum_len_segments _ _ _
  have hqueued : pcb.queued.length = s.buffer.heldSize := by
    rw [h.held hlive pcb hpcb]
    exact length_arc _ _ _
  have hheld := h.wellFormed.heldSize_add
  have huse := h.wellFormed.use_le
  have hsize := h.size_le
  have hsnd := h.sndBuf pcb hpcb
  omega

/-! ## A prefix of the stream -/

/-- A step leaves what has been handed over a front of what has been read. -/
theorem prefix_step {maxSize : Nat} {s t : HevSocks5SessionTCP} {a : Action}
    (h : s.Backward maxSize) (hmax : maxSize ≤ tcpSndBuf) (ha : a.InOrder)
    (hpre : s.handed <+: s.upstream) (ht : step maxSize s a = some t) :
    t.handed <+: t.upstream := by
  -- while the direction is at work nothing is missing
  by_cases hdone : t.resB = -1
  · by_cases hover : s.resB = -1
    · -- it was over before
      obtain ⟨-, hhanded, hupstream, -⟩ := h.over hover ht
      rw [hhanded, hupstream]
      exact hpre
    · -- it is over with this step: lwIP has queued the front of what was ready
      obtain ⟨res, first, second, output, rfl, hpc, rfl⟩ := closing hover ht hdone
      cases hpcb : s.pcb with
      | none =>
        rw [push_of_none hpcb]
        exact hpre
      | some pcb =>
        by_cases hready : s.buffer.rdaSize = 0
        · rw [push_of_empty hpcb hready]
          exact hpre
        · have hsorted : [first, second].Pairwise fun a b => b = true → a = true := by
            simpa [Action.InOrder] using ha
          obtain ⟨new, hnew, hqueue⟩ := TcpPcb.exists_prefix_tcpWrites hsorted
            (h.len_reading hmax) (h.fits hmax hover hpcb)
          rw [h.wellFormed.addresses_reading] at hnew
          rw [push_of_ready hpcb hready res output hqueue]
          show s.handed ++ new.map s.buffer.data <+: s.upstream
          rw [← h.stream hover]
          exact (List.prefix_append_right_inj _).mpr (hnew.map s.buffer.data)
  · have hstream := (h.step hmax ht).stream hdone
    exact ⟨t.buffer.ready, hstream⟩

/-- **The application gets a prefix of what the server has sent**, whatever fails, if lwIP takes
    nothing behind what it has refused. -/
theorem handed_in_order {configured : Nat} {s : HevSocks5SessionTCP} {as : List Action}
    (hok : ∀ a ∈ as, a.InOrder)
    (hrun : run (step (tcpBufferSize configured)) new as = some s) :
    s.handed <+: s.upstream := by
  have hmax := tcpBufferSize_le configured
  let I := fun s : HevSocks5SessionTCP =>
    s.Backward (tcpBufferSize configured) ∧ s.handed <+: s.upstream
  have hboth : I s :=
    run_invariant_of_mem (fun s a ha hs t ht => ⟨hs.1.step hmax ht,
      prefix_step hs.1 hmax (hok a ha) hs.2 ht⟩) ⟨backward_new _, List.prefix_rfl⟩ hrun
  exact hboth.2

/-- lwIP takes the first stretch, and not the second. -/
theorem handed_refused : ∃ s, run (step 4) new
      (exchange.take 11 ++ [.push true false true]) = some s ∧
    s.handed = [3, 4, 5, 6] ∧ s.upstream = [3, 4, 5, 6, 7] ∧ s.handed <+: s.upstream := by
  have hstreams : (run (step 4) new (exchange.take 11 ++ [.push true false true])).map
      (fun s => (s.handed, s.upstream)) = some ([3, 4, 5, 6], [3, 4, 5, 6, 7]) := by
    decide +kernel
  obtain ⟨s, hrun, hs⟩ := Option.map_eq_some_iff.mp hstreams
  obtain ⟨hhanded, hupstream⟩ := Prod.mk.inj hs
  have hbuffer : run (step (tcpBufferSize 4)) new
      (exchange.take 11 ++ [.push true false true]) = some s := by
    rwa [tcpBufferSize_four]
  have hprefix := handed_in_order (by simp [exchange, Action.InOrder]) hbuffer
  exact ⟨s, hrun, hhanded, hupstream, hprefix⟩

end HevSocks5SessionTCP

end DarkMed.Tunnel
