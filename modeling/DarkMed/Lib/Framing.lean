import Mathlib.Data.List.Infix

/-!
# Messages in a Stream of Bytes

Messages are written as frames, one behind the other, into a stream; a reader takes the stream in
stretches, and judges what it has got of the frame that it is at.  `Link` is the stream with both
of its ends, and `Link.InOrder` says that what is between them are the frames of the messages that
have been sent and not been read.

Nothing here names a particular format.
-/

namespace DarkMed.Lib.Framing

variable {μ : Type}

/-- What a reader makes of the bytes of a frame that it has got. -/
inductive Verdict (μ : Type) where
  /-- A part of a frame, of which `n` bytes at most are to be read next. -/
  | more (n : Nat)
  | whole (m : μ)
  | bad
  deriving DecidableEq

structure Format (μ : Type) where
  frame : μ → List UInt8
  judge : List UInt8 → Verdict μ

namespace Format

/-- At any point of the frame of `m` the reader goes on within it, refuses it, or has read `m` at
    its end. -/
def Within (F : Format μ) (m : μ) : Prop :=
  ∀ p q, F.frame m = p ++ q →
    (∃ n, F.judge p = .more n ∧ 0 < n ∧ n ≤ q.length) ∨ F.judge p = .bad ∨
      (F.judge p = .whole m ∧ q = [])

/-- The reader refuses no part of the frame. -/
def Accepts (F : Format μ) (m : μ) : Prop := ∀ p, p <+: F.frame m → F.judge p ≠ .bad

end Format

/-! ## A stream with its two ends -/

structure Link (μ : Type) where
  /-- The messages that have been given to the writer. -/
  sent : List μ := []
  /-- What is left of its write. -/
  unsent : List UInt8 := []
  wire : List UInt8 := []
  /-- What the reader has got of a frame. -/
  got : List UInt8 := []
  /-- The messages that it has read. -/
  read : List μ := []

namespace Link

variable {F : Format μ} {l : Link μ}

/-- A write of `ms` begins. -/
def send (F : Format μ) (l : Link μ) (ms : List μ) : Link μ :=
  { l with sent := l.sent ++ ms, unsent := l.unsent ++ ms.flatMap F.frame }

/-- `n` bytes of it go out. -/
def give (l : Link μ) (n : Nat) : Link μ :=
  { l with unsent := l.unsent.drop n, wire := l.wire ++ l.unsent.take n }

/-- The reader takes `n` bytes. -/
def take (l : Link μ) (n : Nat) : Link μ :=
  { l with wire := l.wire.drop n, got := l.got ++ l.wire.take n }

/-- The reader has read `m`. -/
def accept (l : Link μ) (m : μ) : Link μ :=
  { l with got := [], read := l.read ++ [m] }

/-- What has been sent and not been read is in the stream, in order, and the reader is in the first
    frame of it. -/
def InOrder (F : Format μ) (l : Link μ) : Prop :=
  ∃ rest, l.sent = l.read ++ rest ∧ l.got ++ (l.wire ++ l.unsent) = rest.flatMap F.frame ∧
    (l.got = [] ∨ ∃ m ms, rest = m :: ms ∧ l.got <+: F.frame m)

/-- A stream that nothing has been sent on. -/
theorem inOrder_empty : InOrder F {} := ⟨[], rfl, rfl, .inl rfl⟩

/-- What is sent comes behind all that is on its way. -/
theorem InOrder.send (h : l.InOrder F) (ms : List μ) : (l.send F ms).InOrder F := by
  obtain ⟨rest, hsent, hbytes, hgot⟩ := h
  refine ⟨rest ++ ms, ?_, ?_, ?_⟩
  · show l.sent ++ ms = l.read ++ (rest ++ ms)
    rw [hsent, List.append_assoc]
  · show l.got ++ (l.wire ++ (l.unsent ++ ms.flatMap F.frame)) = (rest ++ ms).flatMap F.frame
    rw [List.flatMap_append, ← hbytes]
    simp only [List.append_assoc]
  · obtain hnil | ⟨m, more, rfl, hpre⟩ := hgot
    · exact .inl hnil
    · exact .inr ⟨m, more ++ ms, rfl, hpre⟩

/-- What the socket takes moves from what is unsent to the wire. -/
theorem InOrder.give (h : l.InOrder F) (n : Nat) : (l.give n).InOrder F := by
  obtain ⟨rest, hsent, hbytes, hgot⟩ := h
  refine ⟨rest, hsent, ?_, hgot⟩
  show l.got ++ (l.wire ++ l.unsent.take n ++ l.unsent.drop n) = rest.flatMap F.frame
  rw [List.append_assoc, List.take_append_drop, hbytes]

/-- Where the reader is, if anything is left in the stream: in the frame of the next message. -/
theorem InOrder.exists_next (h : l.InOrder F) (hwire : l.wire ≠ []) :
    ∃ m ms q, l.sent = l.read ++ m :: ms ∧ F.frame m = l.got ++ q ∧
      l.wire ++ l.unsent = q ++ ms.flatMap F.frame := by
  obtain ⟨rest, hsent, hbytes, hgot⟩ := h
  obtain hnil | ⟨m, ms, rfl, q, hq⟩ := hgot
  · cases rest with
    | nil =>
      -- nothing would be in the stream
      rw [List.flatMap_nil, hnil] at hbytes
      exact absurd (List.append_eq_nil_iff.mp (List.append_eq_nil_iff.mp hbytes).2).1 hwire
    | cons m ms =>
      refine ⟨m, ms, F.frame m, hsent, ?_, ?_⟩
      · rw [hnil, List.nil_append]
      · rwa [hnil, List.nil_append, List.flatMap_cons] at hbytes
  · refine ⟨m, ms, q, hsent, hq.symm, ?_⟩
    rw [List.flatMap_cons, ← hq, List.append_assoc] at hbytes
    exact List.append_cancel_left hbytes

/-- The reader takes no more than it has asked for. -/
theorem InOrder.take (h : l.InOrder F) (hF : ∀ m ∈ l.sent, F.Within m) {n k : Nat}
    (hjudge : F.judge l.got = .more k) (hk : n ≤ k) (hpos : 0 < n) (hn : n ≤ l.wire.length) :
    (l.take n).InOrder F := by
  have hwire : l.wire ≠ [] := List.ne_nil_of_length_pos (by omega)
  obtain ⟨m, ms, q, hsent, hframe, hq⟩ := h.exists_next hwire
  have hwithin := hF m (by rw [hsent]; simp) _ _ hframe
  -- what has been asked for does not go beyond the frame
  have hkq : k ≤ q.length := by
    obtain ⟨j, hj, -, hle⟩ | hbad | ⟨hwhole, -⟩ := hwithin
    · rw [hjudge] at hj
      cases hj
      exact hle
    · rw [hjudge] at hbad
      cases hbad
    · rw [hjudge] at hwhole
      cases hwhole
  have htake : l.wire.take n = q.take n := by
    have := congrArg (List.take n) hq
    rwa [List.take_append_of_le_length hn, List.take_append_of_le_length (by omega)] at this
  refine ⟨m :: ms, hsent, ?_, .inr ⟨m, ms, rfl, ?_⟩⟩
  · show l.got ++ l.wire.take n ++ (l.wire.drop n ++ l.unsent) = F.frame m ++ ms.flatMap F.frame
    rw [List.append_assoc, ← List.append_assoc (l.wire.take n), List.take_append_drop, hq, hframe,
      List.append_assoc]
  · show l.got ++ l.wire.take n <+: F.frame m
    rw [htake, hframe]
    exact (List.prefix_append_right_inj _).mpr (List.take_prefix n q)

/-- What the reader has read is what has been sent. -/
theorem InOrder.accept (h : l.InOrder F) (hF : ∀ m ∈ l.sent, F.Within m) {m : μ}
    (hgot : l.got ≠ []) (hjudge : F.judge l.got = .whole m) : (l.accept m).InOrder F := by
  obtain ⟨rest, hsent, hbytes, hwhere⟩ := h
  obtain hnil | ⟨m', ms, rfl, q, hq⟩ := hwhere
  · exact absurd hnil hgot
  · obtain ⟨k, hk, -⟩ | hbad | ⟨hwhole, hend⟩ := hF m' (by rw [hsent]; simp) _ _ hq.symm
    · rw [hjudge] at hk
      cases hk
    · rw [hjudge] at hbad
      cases hbad
    · rw [hjudge] at hwhole
      cases hwhole
      refine ⟨ms, ?_, ?_, .inl rfl⟩
      · show l.sent = l.read ++ [m] ++ ms
        rw [hsent, List.append_assoc]
        rfl
      · rw [List.flatMap_cons, ← hq, hend, List.append_nil] at hbytes
        show [] ++ (l.wire ++ l.unsent) = ms.flatMap F.frame
        exact List.append_cancel_left hbytes

/-- What has been read is the front of what has been sent. -/
theorem InOrder.read_prefix (h : l.InOrder F) : l.read <+: l.sent := by
  obtain ⟨rest, hsent, -⟩ := h
  rw [hsent]
  exact List.prefix_append _ _

/-- If nothing is left in the stream, everything has been read. -/
theorem InOrder.read_eq (h : l.InOrder F) (hF : ∀ m ∈ l.sent, F.frame m ≠ [])
    (hgot : l.got = []) (hwire : l.wire = []) (hunsent : l.unsent = []) : l.read = l.sent := by
  obtain ⟨rest, hsent, hbytes, -⟩ := h
  cases rest with
  | nil => rw [hsent, List.append_nil]
  | cons m ms =>
    rw [hgot, hwire, hunsent, List.flatMap_cons] at hbytes
    exact absurd (List.append_eq_nil_iff.mp hbytes.symm).1 (hF m (by rw [hsent]; simp))

/-- Where nothing is left in the stream, the reader is between two frames. -/
theorem InOrder.got_eq_nil (h : l.InOrder F) (hF : ∀ m ∈ l.sent, F.Within m)
    (hmore : ∃ n, F.judge l.got = .more n) (hwire : l.wire = []) (hunsent : l.unsent = []) :
    l.got = [] := by
  obtain ⟨rest, hsent, hbytes, hgot⟩ := h
  obtain hnil | ⟨m, ms, rfl, q, hq⟩ := hgot
  · exact hnil
  · rw [hwire, hunsent, List.flatMap_cons, ← hq, List.append_assoc] at hbytes
    have hend : q = [] := (List.append_eq_nil_iff.mp (List.append_cancel_left hbytes).symm).1
    obtain ⟨n, hn⟩ := hmore
    obtain ⟨k, -, hpos, hle⟩ | hbad | ⟨hwhole, -⟩ := hF m (by rw [hsent]; simp) _ _ hq.symm
    · rw [hend, List.length_nil] at hle
      omega
    · rw [hn] at hbad
      cases hbad
    · rw [hn] at hwhole
      cases hwhole

/-- An accepted frame is not refused on the way. -/
theorem InOrder.judge_ne_bad (h : l.InOrder F) (hF : ∀ m ∈ l.sent, F.Accepts m)
    (hgot : l.got ≠ []) : F.judge l.got ≠ .bad := by
  obtain ⟨rest, hsent, -, hwhere⟩ := h
  obtain hnil | ⟨m, ms, rfl, hpre⟩ := hwhere
  · exact absurd hnil hgot
  · exact hF m (by rw [hsent]; simp) _ hpre

end Link

end DarkMed.Lib.Framing
