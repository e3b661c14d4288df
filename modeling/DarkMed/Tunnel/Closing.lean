import DarkMed.Tunnel.Delivery

/-!
# How a TCP Session Ends

A session that has not timed out is over when both directions are.  If neither `writev` nor lwIP
has failed and the application's connection is still there, then both streams have arrived whole,
each with its end behind its last byte.
-/

namespace DarkMed.Tunnel

open DarkMed.Lib.Ring DarkMed.Lib.Transition

/-- Neither `writev` nor lwIP fails. -/
def Action.Undisturbed : Action → Prop
  | .tcpSpliceF writev => writev ≠ .failed
  | .push first second output => first = true ∧ second = true ∧ output = true
  | _ => True

/-- The values of `res_f` and `res_b`. -/
def IsRes (res : Int32) : Prop := res = -1 ∨ res = 0 ∨ res = 1

/-- With neither direction active and nothing to wait for, both are over: this is what `res_f &
    res_b` asks. -/
theorem IsRes.eq_minus_one {f b : Int32} (hf : IsRes f) (hb : IsRes b) (hactive : ¬(f > 0 ∨ b > 0))
    (hwait : f &&& b ≠ 0) : f = -1 ∧ b = -1 := by
  -- three values each, of which all pairs but one are excluded
  obtain rfl | rfl | rfl := hf
  · obtain rfl | rfl | rfl := hb
    · exact ⟨rfl, rfl⟩
    · exact absurd rfl hwait
    · exact absurd (.inr (by decide)) hactive
  · exact absurd Int32.zero_and hwait
  · exact absurd (.inl (by decide)) hactive

namespace HevSocks5SessionTCP

structure Ending (s : HevSocks5SessionTCP) : Prop where
  isResF : IsRes s.resF
  isResB : IsRes s.resB
  pushing : ∀ res, s.pc = .push res → IsRes res
  shut : s.resF = -1 → s.shutWr = true
  fin : s.resB = -1 → ∀ pcb, s.pcb = some pcb → pcb.finSent = true
  drain : s.pc = .drain → s.timedOut = false → s.resF = -1 ∧ s.resB = -1
  done : s.pc = .done → s.timedOut = false →
    s.pcb = none ∨ (s.resF = -1 ∧ s.resB = -1 ∧ s.buffer.useSize = 0)

/-- A session begins with both directions going on. -/
theorem ending_new : Ending new where
  isResF := .inr (.inr rfl)
  isResB := .inr (.inr rfl)
  pushing _ h := by cases h
  shut h := by cases h
  fin h := by cases h
  drain h := by cases h
  done h := by cases h

/-- The callbacks of lwIP end neither direction. -/
structure SameEnding (s t : HevSocks5SessionTCP) : Prop where
  pc : t.pc = s.pc
  running : s.pc ≠ .done
  resF : t.resF = s.resF
  resB : t.resB = s.resB
  shutWr : t.shutWr = s.shutWr
  timedOut : t.timedOut = s.timedOut
  pcb : ∀ pcb', t.pcb = some pcb' → ∃ pcb, s.pcb = some pcb ∧ pcb'.finSent = pcb.finSent

/-- A step that ends neither direction keeps what is known of the end. -/
theorem Ending.of_same {s t : HevSocks5SessionTCP} (h : s.Ending) (hsame : SameEnding s t) :
    t.Ending where
  isResF := hsame.resF ▸ h.isResF
  isResB := hsame.resB ▸ h.isResB
  pushing res hpc := h.pushing res (hsame.pc ▸ hpc)
  shut hres := hsame.shutWr ▸ h.shut (hsame.resF ▸ hres)
  fin hres pcb' hpcb' := by
    obtain ⟨pcb, hpcb, hfin⟩ := hsame.pcb pcb' hpcb'
    rw [hfin]
    exact h.fin (hsame.resB ▸ hres) pcb hpcb
  drain hpc htime := by
    rw [hsame.resF, hsame.resB]
    exact h.drain (hsame.pc ▸ hpc) (hsame.timedOut ▸ htime)
  done hpc := absurd (hsame.pc ▸ hpc) hsame.running

/-- What lwIP delivers is queued, and ends nothing. -/
theorem sameEnding_tcpRecvHandler {s t : HevSocks5SessionTCP} (hrunning : s.pc ≠ .done)
    {p : Option (List (List UInt8))} (ht : s.tcpRecvHandler p = some t) : SameEnding s t := by
  unfold HevSocks5SessionTCP.tcpRecvHandler at ht
  split at ht
  · cases ht
  · next pcb p hpcb =>
    split at ht
    · cases ht
      refine ⟨rfl, hrunning, rfl, rfl, rfl, rfl, fun pcb' h => ⟨pcb, hpcb, ?_⟩⟩
      obtain rfl := Option.some.inj h
      rfl
    · cases ht
  · split at ht
    · cases ht
      exact ⟨rfl, hrunning, rfl, rfl, rfl, rfl, fun pcb' h => ⟨pcb', h, rfl⟩⟩
    · cases ht

/-- What lwIP has had acknowledged is released, and ends nothing. -/
theorem sameEnding_tcpSentHandler {s t : HevSocks5SessionTCP} (hrunning : s.pc ≠ .done) {len : Nat}
    (ht : s.tcpSentHandler len = some t) : SameEnding s t := by
  unfold HevSocks5SessionTCP.tcpSentHandler at ht
  split at ht
  · cases ht
  · next pcb hpcb =>
    split at ht
    · cases ht
      refine ⟨rfl, hrunning, rfl, rfl, rfl, rfl, fun pcb' h => ⟨pcb, hpcb, ?_⟩⟩
      obtain rfl := Option.some.inj h
      rfl
    · cases ht

/-- A lost connection is noticed by the directions, and ends none of them itself. -/
theorem sameEnding_tcpErrHandler {s t : HevSocks5SessionTCP} (hrunning : s.pc ≠ .done)
    (ht : s.tcpErrHandler = some t) : SameEnding s t := by
  unfold HevSocks5SessionTCP.tcpErrHandler at ht
  split at ht
  · cases ht
  · cases ht
    exact ⟨rfl, hrunning, rfl, rfl, rfl, rfl, fun _ h => by cases h⟩

/-- A section of the direction towards the server. -/
theorem Ending.spliceF {s : HevSocks5SessionTCP} (h : s.Ending) {res : Int32} (hres : IsRes res)
    {c : Pc} (hc : c = .spliceB ∨ ∃ n, c = .recved n) {shutWr : Bool}
    (hshut : res = -1 → shutWr = true) {queue : List (List UInt8)} {pcb : Option TcpPcb}
    (hpcb : ∀ pcb', pcb = some pcb' → ∃ pcb, s.pcb = some pcb ∧ pcb'.finSent = pcb.finSent)
    {written : List UInt8} :
    Ending { s with resF := res, pc := c, shutWr, queue, pcb, written } where
  isResF := hres
  isResB := h.isResB
  pushing _ hpc := by obtain rfl | ⟨n, rfl⟩ := hc <;> cases hpc
  shut := hshut
  fin hresB pcb' hpcb' := by
    obtain ⟨pcb, hsome, hfin⟩ := hpcb pcb' hpcb'
    rw [hfin]
    exact h.fin hresB pcb hsome
  drain hpc := by obtain rfl | ⟨n, rfl⟩ := hc <;> cases hpc
  done hpc := by obtain rfl | ⟨n, rfl⟩ := hc <;> cases hpc

/-- The direction towards the server is over only behind `shutdown`, unless `writev` fails. -/
theorem Ending.tcpSpliceF {s t : HevSocks5SessionTCP} (h : s.Ending) {writev : IoResult Nat}
    (hwritev : writev ≠ .failed) (ht : s.tcpSpliceF writev = some t) : t.Ending := by
  have hkept : ∀ pcb', s.pcb = some pcb' → ∃ pcb, s.pcb = some pcb ∧ pcb'.finSent = pcb.finSent :=
    fun pcb' hpcb => ⟨pcb', hpcb, rfl⟩
  unfold HevSocks5SessionTCP.tcpSpliceF at ht
  split at ht
  · -- a closed direction is passed over
    cases ht
    exact h.spliceF h.isResF (.inl rfl) h.shut hkept
  · split at ht
    · split at ht
      · cases ht
        -- the queue is empty behind the application's end: `shutdown`
        exact h.spliceF (.inl rfl) (.inl rfl) (fun _ => rfl) hkept
      · cases ht
        exact h.spliceF (.inr (.inl rfl)) (.inl rfl) (fun hres => by cases hres) hkept
    · split at ht
      · next n =>
        split at ht
        · cases ht
          exact h.spliceF h.isResF (.inr ⟨n, rfl⟩) h.shut hkept
        · cases ht
      · cases ht
        exact h.spliceF (.inr (.inl rfl)) (.inl rfl) (fun hres => by cases hres) hkept
      · exact absurd rfl hwritev

/-- What the application is told to have been received ends nothing. -/
theorem Ending.recved {s : HevSocks5SessionTCP} (h : s.Ending) (n : Nat) : (s.recved n).Ending := by
  refine h.spliceF (.inr (.inr rfl)) (.inl rfl) (fun hres => by cases hres) fun pcb' hpcb' => ?_
  obtain ⟨pcb, hpcb, rfl⟩ := Option.map_eq_some_iff.mp hpcb'
  exact ⟨pcb, hpcb, rfl⟩

/-- A section of the other direction. -/
theorem Ending.spliceB {s : HevSocks5SessionTCP} (h : s.Ending) {c : Pc}
    (hc : c = .yield ∨ ∃ res, IsRes res ∧ c = .push res) {res : Int32} (hres : IsRes res)
    {pcb : Option TcpPcb} (hfin : res = -1 → ∀ pcb', pcb = some pcb' → pcb'.finSent = true)
    {buffer : HevRingBuffer} {ended : Bool} {upstream handed : List UInt8} :
    Ending { s with pc := c, resB := res, pcb, buffer, ended, upstream, handed } where
  isResF := h.isResF
  isResB := hres
  pushing res' hpc := by
    obtain rfl | ⟨res, hres, rfl⟩ := hc
    · cases hpc
    · obtain rfl := Pc.push.inj hpc
      exact hres
  shut := h.shut
  fin := hfin
  drain hpc := by obtain rfl | ⟨_, _, rfl⟩ := hc <;> cases hpc
  done hpc := by obtain rfl | ⟨_, _, rfl⟩ := hc <;> cases hpc

/-- Reading from the server never ends its direction by itself: the end is pushed first. -/
theorem Ending.tcpSpliceB {s t : HevSocks5SessionTCP} (h : s.Ending)
    {readv : IoResult (List UInt8)} (ht : s.tcpSpliceB readv = some t) : t.Ending := by
  unfold HevSocks5SessionTCP.tcpSpliceB at ht
  split at ht
  · cases ht
    exact h.spliceB (.inl rfl) h.isResB h.fin
  · split at ht
    · cases ht
      exact h.spliceB (.inr ⟨0, .inr (.inl rfl), rfl⟩) h.isResB h.fin
    · split at ht
      · split at ht
        · cases ht
          exact h.spliceB (.inr ⟨1, .inr (.inr rfl), rfl⟩) h.isResB h.fin
        · cases ht
      · cases ht
        exact h.spliceB (.inr ⟨0, .inr (.inl rfl), rfl⟩) h.isResB h.fin
      · cases ht
        -- the end of the server's stream, or a failure
        exact h.spliceB (.inr ⟨-1, .inl rfl, rfl⟩) h.isResB h.fin

/-- What is ready always fits, so that lwIP takes it unless something fails. -/
theorem Ending.push {maxSize : Nat} {s : HevSocks5SessionTCP} (h : s.Ending)
    (hback : s.Backward maxSize) (hmax : maxSize ≤ tcpSndBuf) {res : Int32}
    (hpc : s.pc = .push res) : (s.push res true true true).Ending := by
  cases hpcb : s.pcb with
  | none =>
    rw [push_of_none hpcb]
    exact h.spliceB (.inl rfl) (.inl rfl) fun _ _ hsome => by cases hpcb.symm.trans hsome
  | some pcb =>
    -- with nothing ready the end goes out, if there is one to send
    by_cases hready : s.buffer.rdaSize = 0
    · rw [push_of_empty hpcb hready]
      refine h.spliceB (.inl rfl) (h.pushing res hpc) fun hres pcb' hpcb' => ?_
      obtain rfl := Option.some.inj hpcb'
      have hneg : res < 0 := hres ▸ by decide
      show (decide (res < 0) || pcb.finSent) = true
      rw [decide_eq_true hneg, Bool.true_or]
    · have hsmall := hback.len_reading hmax
      have htaken : ∀ taken ∈ [true, true], taken = true := by simp
      -- the buffer is no larger than lwIP's, which therefore has room
      have hfits := hback.fits hmax (hback.pushing res hpc).1 hpcb
      have hok := TcpPcb.tcpWrites_fst_of_forall_true htaken hsmall hfits
      have hlen : s.buffer.reading.length ≤ [true, true].length := length_segments_le _ _ _
      have hqueue := TcpPcb.tcpWrites_of_fst hsmall hlen hok
      rw [push_of_ready hpcb hready res true hqueue, hok]
      exact h.spliceB (.inl rfl) (.inr (.inr rfl)) fun hres => by cases hres

/-- The loop is left for the draining only if both directions are over or time is up. -/
theorem Ending.yield {s : HevSocks5SessionTCP} (h : s.Ending) (timedOut : Bool) :
    (s.yield timedOut).Ending := by
  unfold HevSocks5SessionTCP.yield
  split_ifs with hactive hwait htime
  · exact { h with
      pushing := fun _ hpc => (by cases hpc)
      drain := fun hpc => (by cases hpc)
      done := fun hpc => (by cases hpc) }
  · exact { h with
      pushing := fun _ hpc => (by cases hpc)
      drain := fun _ htime => (by cases htime)
      done := fun hpc => (by cases hpc) }
  · exact { h with
      pushing := fun _ hpc => (by cases hpc)
      drain := fun hpc => (by cases hpc)
      done := fun hpc => (by cases hpc) }
  · -- the loop is left, with both directions over
    exact { h with
      pushing := fun _ hpc => (by cases hpc)
      drain := fun _ _ => h.isResF.eq_minus_one h.isResB hactive hwait
      done := fun hpc => (by cases hpc) }

/-- The draining ends with an empty buffer, a lost connection or a timeout. -/
theorem Ending.drained {s : HevSocks5SessionTCP} (h : s.Ending) (hpc : s.pc = .drain)
    (timedOut : Bool) : (s.drain timedOut).Ending := by
  unfold HevSocks5SessionTCP.drain
  split_ifs with hempty htime
  · refine { h with
      pushing := fun _ hpc => (by cases hpc)
      drain := fun hpc => (by cases hpc)
      done := fun _ htime => ?_ }
    -- the connection is lost, or the buffer is empty
    obtain hnone | huse := hempty
    · exact .inl (Option.isNone_iff_eq_none.mp hnone)
    · obtain ⟨hf, hb⟩ := h.drain hpc htime
      exact .inr ⟨hf, hb, huse⟩
  · exact { h with
      pushing := fun _ hpc => (by cases hpc)
      drain := fun hpc => (by cases hpc)
      done := fun _ htime => (by cases htime) }
  · exact h

/-- A session that finds its connection lost is over before it begins. -/
theorem Ending.splice {s : HevSocks5SessionTCP} (h : s.Ending) (maxSize : Nat)
    (data : Nat → UInt8) : (s.splice maxSize data).Ending := by
  unfold HevSocks5SessionTCP.splice
  split
  · next hnone =>
    exact { h with
      pushing := fun _ hpc => (by cases hpc)
      drain := fun hpc => (by cases hpc)
      done := fun _ _ => .inl (Option.isNone_iff_eq_none.mp hnone) }
  · exact { h with
      pushing := fun _ hpc => (by cases hpc)
      drain := fun hpc => (by cases hpc)
      done := fun hpc => (by cases hpc) }

/-- **One undisturbed step** keeps what is known of the end. -/
theorem Ending.step {maxSize : Nat} {s t : HevSocks5SessionTCP} {a : Action} (h : s.Ending)
    (hback : s.Backward maxSize) (hmax : maxSize ≤ tcpSndBuf) (ha : a.Undisturbed)
    (ht : HevSocks5SessionTCP.step maxSize s a = some t) : t.Ending := by
  cases a with
  | tcpRecvHandler p =>
    obtain ⟨hrunning, ht⟩ := Option.ite_none_left_eq_some.mp ht
    exact h.of_same (sameEnding_tcpRecvHandler hrunning ht)
  | tcpSentHandler len =>
    obtain ⟨hrunning, ht⟩ := Option.ite_none_left_eq_some.mp ht
    exact h.of_same (sameEnding_tcpSentHandler hrunning ht)
  | tcpErrHandler =>
    obtain ⟨hrunning, ht⟩ := Option.ite_none_left_eq_some.mp ht
    exact h.of_same (sameEnding_tcpErrHandler hrunning ht)
  | splice data =>
    obtain ⟨-, rfl⟩ := Option.ite_none_right_eq_some.mp ht |>.imp_right Option.some.inj
    exact h.splice maxSize data
  | tcpSpliceF writev => exact h.tcpSpliceF ha (Option.ite_none_right_eq_some.mp ht).2
  | recved =>
    simp only [HevSocks5SessionTCP.step] at ht
    split at ht
    · next n _ =>
      cases ht
      exact h.recved n
    · cases ht
  | tcpSpliceB readv => exact h.tcpSpliceB (Option.ite_none_right_eq_some.mp ht).2
  | push first second output =>
    simp only [HevSocks5SessionTCP.step] at ht
    split at ht
    · next res hpc =>
      obtain ⟨rfl, rfl, rfl⟩ := ha
      cases ht
      exact h.push hback hmax hpc
    · cases ht
  | yield timedOut =>
    obtain ⟨-, rfl⟩ := Option.ite_none_right_eq_some.mp ht |>.imp_right Option.some.inj
    exact h.yield timedOut
  | drain timedOut =>
    obtain ⟨hpc, rfl⟩ := Option.ite_none_right_eq_some.mp ht |>.imp_right Option.some.inj
    exact h.drained hpc timedOut

/-- It holds in every state of every undisturbed run. -/
theorem ending_of_run {configured : Nat} {s : HevSocks5SessionTCP} {as : List Action}
    (hok : ∀ a ∈ as, a.Undisturbed)
    (hrun : run (step (tcpBufferSize configured)) new as = some s) : s.Ending := by
  have hmax := tcpBufferSize_le configured
  let I := fun s : HevSocks5SessionTCP => s.Backward (tcpBufferSize configured) ∧ s.Ending
  have hboth : I s :=
    run_invariant_of_mem (fun s a ha hs t ht => ⟨hs.1.step hmax ht,
      hs.2.step hs.1 hmax (hok a ha) ht⟩) ⟨backward_new _, ending_new⟩ hrun
  exact hboth.2

/-- **A session that ends by itself has delivered everything.**  If nothing has failed or timed
    out and the application's connection is still there at the end, then the server has got what
    the application has sent, the application has got and acknowledged what the server has sent,
    and each has seen the end of the other's stream. -/
theorem delivered_when_done {configured : Nat} {s : HevSocks5SessionTCP} {as : List Action}
    (hok : ∀ a ∈ as, a.Undisturbed)
    (hrun : run (step (tcpBufferSize configured)) new as = some s) (hdone : s.pc = .done)
    (htime : s.timedOut = false) {pcb : TcpPcb} (hpcb : s.pcb = some pcb) :
    (s.pcbEof = true ∧ s.shutWr = true ∧ s.written = s.received) ∧
      s.ended = true ∧ pcb.finSent = true ∧ s.handed = s.upstream ∧
      s.acked = s.upstream.length := by
  have hending := ending_of_run hok hrun
  obtain hnone | ⟨hf, hb, huse⟩ := hending.done hdone htime
  · cases hpcb.symm.trans hnone
  · -- both directions are over, and each has closed its stream behind its last byte
    have hshut := hending.shut hf
    have hfin := hending.fin hb pcb hpcb
    obtain ⟨heof, hwritten⟩ := (written_in_order hrun).2.2 hshut
    obtain ⟨hintact, hover⟩ := queued_intact hrun pcb hpcb
    obtain ⟨hended, hhanded⟩ := hover hfin
    have hback := backward_of_run hrun
    -- nothing is held for lwIP any more, so all has been acknowledged
    have hqueued : pcb.queued.length = 0 := by
      have hle := hback.queued_le pcb hpcb
      rw [HevRingBuffer.heldSize] at hle
      omega
    have hlen := congrArg List.length hintact
    rw [List.length_map, hqueued, List.length_drop] at hlen
    have hacked := hback.acked_le
    refine ⟨⟨heof, hshut, hwritten⟩, hended, hfin, hhanded, ?_⟩
    rw [← hhanded]
    omega

theorem delivered_exchange : ∃ s, run (step 4) new exchange = some s ∧ s.pc = .done ∧
    s.received = [1, 2] ∧ s.upstream = [3, 4, 5, 6, 7] ∧ s.written = s.received ∧
    s.handed = s.upstream := by
  have hok : ∀ a ∈ exchange, a.Undisturbed := by simp [exchange, Action.Undisturbed]
  obtain ⟨s, pcb, hrun, hdone, htime, hpcb, hreceived, hupstream⟩ : ∃ s pcb,
    run (step 4) new exchange = some s ∧ s.pc = .done ∧ s.timedOut = false ∧ s.pcb = some pcb ∧
      s.received = [1, 2] ∧ s.upstream = [3, 4, 5, 6, 7] :=
    ⟨_, _, rfl, rfl, rfl, rfl, rfl, rfl⟩
  have hbuffer : run (step (tcpBufferSize 4)) new exchange = some s := by
    rwa [tcpBufferSize_four]
  obtain ⟨⟨-, -, hwritten⟩, -, -, hhanded, -⟩ :=
    delivered_when_done hok hbuffer hdone htime hpcb
  exact ⟨s, hrun, hdone, hreceived, hupstream, hwritten, hhanded⟩

end HevSocks5SessionTCP

end DarkMed.Tunnel
