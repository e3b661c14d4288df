import DarkMed.Lib.Ring

/-!
# The Ring Buffer of a TCP Session

`hev-ring-buffer.c`: a ring of bytes with three regions.  Bytes that have been written wait to be
read (`rda_size` of them, from `rp` on); bytes that have been read stay where they are until they
are released, since the TCP stack still refers to them; the rest is free (from `wp` on).

`WellFormed` is what every operation keeps, and `Pipe` is what the buffer is for: two queues, one
of bytes that are held for the reader and one of bytes that are ready for it.
-/

namespace DarkMed.Tunnel

open DarkMed.Lib.Ring

structure HevRingBuffer where
  rp : Nat
  wp : Nat
  rdaSize : Nat
  useSize : Nat
  maxSize : Nat
  data : Nat → UInt8

namespace HevRingBuffer

/-- `hev_ring_buffer_alloca`: the bytes are whatever the stack holds. -/
def alloca (s : Nat) (data : Nat → UInt8) : HevRingBuffer :=
  { rp := 0, wp := 0, rdaSize := 0, useSize := 0, maxSize := s, data }

def getUseSize (self : HevRingBuffer) : Nat := self.useSize

def reading (self : HevRingBuffer) : List Iovec :=
  if self.rdaSize = 0 then []
  else
    let upperSize := self.maxSize - self.rp
    if self.rdaSize ≤ upperSize then [⟨self.rp, self.rdaSize⟩]
    else [⟨self.rp, upperSize⟩, ⟨0, self.rdaSize - upperSize⟩]

def readFinish (self : HevRingBuffer) (size : Nat) : HevRingBuffer :=
  { self with rp := (self.rp + size) % self.maxSize, rdaSize := self.rdaSize - size }

def readRelease (self : HevRingBuffer) (size : Nat) : HevRingBuffer :=
  let useSize := self.useSize - size
  if useSize = 0 then { self with useSize, rp := 0, wp := 0 } else { self with useSize }

def writing (self : HevRingBuffer) : List Iovec :=
  if self.useSize = self.maxSize then []
  else
    let upperSize := self.maxSize - self.wp
    let spcSize := self.maxSize - self.useSize
    if spcSize ≤ upperSize then [⟨self.wp, spcSize⟩]
    else [⟨self.wp, upperSize⟩, ⟨0, spcSize - upperSize⟩]

def writeFinish (self : HevRingBuffer) (size : Nat) : HevRingBuffer :=
  { self with
    wp := (self.wp + size) % self.maxSize
    useSize := self.useSize + size
    rdaSize := self.rdaSize + size }

/-- What `readv` leaves in the buffer when it has `bytes` to store in the free space. -/
def fill (self : HevRingBuffer) (bytes : List UInt8) : HevRingBuffer :=
  { self with data := scatter self.data (addresses self.writing) bytes }

/-! ## The regions -/

/-- How many bytes have been read and not been released. -/
def heldSize (self : HevRingBuffer) : Nat := self.useSize - self.rdaSize

/-- Where the oldest byte lies that has not been released. -/
def start (self : HevRingBuffer) : Nat :=
  self.rp + (self.maxSize - self.heldSize)

def heldAddresses (self : HevRingBuffer) : List Nat :=
  arc self.maxSize self.start self.heldSize

def readyAddresses (self : HevRingBuffer) : List Nat :=
  arc self.maxSize self.rp self.rdaSize

def held (self : HevRingBuffer) : List UInt8 := self.heldAddresses.map self.data

def ready (self : HevRingBuffer) : List UInt8 := self.readyAddresses.map self.data

structure WellFormed (b : HevRingBuffer) : Prop where
  rda_le : b.rdaSize ≤ b.useSize
  use_le : b.useSize ≤ b.maxSize
  rp_lt : 0 < b.maxSize → b.rp < b.maxSize
  wp_eq : 0 < b.maxSize → b.wp = (b.rp + b.rdaSize) % b.maxSize

variable {b : HevRingBuffer}

/-- A buffer that has just been made. -/
theorem wellFormed_alloca (s : Nat) (data : Nat → UInt8) : (alloca s data).WellFormed where
  rda_le := le_rfl
  use_le := Nat.zero_le s
  rp_lt h := h
  wp_eq _ := by simp [alloca]

/-- A release of the last bytes in use rewinds the ring. -/
theorem readRelease_of_eq {size : Nat} (h : b.useSize - size = 0) :
    b.readRelease size = { b with useSize := b.useSize - size, rp := 0, wp := 0 } :=
  if_pos h

/-- Any other release only counts. -/
theorem readRelease_of_ne {size : Nat} (h : b.useSize - size ≠ 0) :
    b.readRelease size = { b with useSize := b.useSize - size } :=
  if_neg h

/-- No release touches the bytes themselves. -/
@[simp] theorem data_readRelease (size : Nat) : (b.readRelease size).data = b.data := by
  by_cases h : b.useSize - size = 0
  · rw [readRelease_of_eq h]
  · rw [readRelease_of_ne h]

@[simp] theorem maxSize_readRelease (size : Nat) :
    (b.readRelease size).maxSize = b.maxSize := by
  by_cases h : b.useSize - size = 0
  · rw [readRelease_of_eq h]
  · rw [readRelease_of_ne h]

/-- `hev_ring_buffer_reading` gives the stretches of what is ready. -/
theorem reading_eq_segments (b : HevRingBuffer) :
    b.reading = segments b.maxSize b.rp b.rdaSize := rfl

namespace WellFormed

/-- The free space begins within the ring. -/
theorem wp_lt (h : b.WellFormed) (hpos : 0 < b.maxSize) : b.wp < b.maxSize := by
  rw [h.wp_eq hpos]
  exact Nat.mod_lt _ hpos

/-- `hev_ring_buffer_writing` gives the stretches of what is free. -/
theorem writing_eq_segments (h : b.WellFormed) :
    b.writing = segments b.maxSize b.wp (b.maxSize - b.useSize) := by
  have hfull : b.useSize = b.maxSize ↔ b.maxSize - b.useSize = 0 := by
    have := h.use_le
    omega
  simp only [writing, segments, hfull]

/-- The free space lies behind what is ready. -/
theorem addresses_writing (h : b.WellFormed) :
    addresses b.writing =
      arc b.maxSize (b.rp + b.rdaSize) (b.maxSize - b.useSize) := by
  rw [h.writing_eq_segments]
  cases Nat.eq_zero_or_pos b.maxSize with
  -- a ring of no bytes has no free ones either
  | inl hzero => simp [hzero, addresses]
  | inr hpos =>
    rw [addresses_segments (h.wp_lt hpos) (Nat.sub_le _ _), h.wp_eq hpos, arc_mod]

/-- What it gives to read is what is ready. -/
theorem addresses_reading (h : b.WellFormed) :
    addresses b.reading = b.readyAddresses := by
  have hle : b.rdaSize ≤ b.maxSize := h.rda_le.trans h.use_le
  cases Nat.eq_zero_or_pos b.maxSize with
  | inl hzero =>
    have hnone : b.rdaSize = 0 := by omega
    simp [reading, readyAddresses, hnone, addresses]
  | inr hpos => rw [reading_eq_segments, addresses_segments (h.rp_lt hpos) hle, readyAddresses]

/-- Held bytes, ready bytes and free space make up the ring, in this order. -/
theorem arc_regions (h : b.WellFormed) (k : Nat) :
    arc b.maxSize b.start (b.heldSize + (b.rdaSize + k)) =
      b.heldAddresses ++ (b.readyAddresses ++
        arc b.maxSize (b.rp + b.rdaSize) k) := by
  have hheld : b.heldSize ≤ b.maxSize := (Nat.sub_le _ _).trans h.use_le
  -- behind the held bytes one is once around, at `rp`
  have hring : ∀ j, arc b.maxSize (b.start + b.heldSize) j =
      arc b.maxSize b.rp j := fun j => by
    have hround : b.start + b.heldSize = b.rp + b.maxSize := by
      rw [start]
      omega
    rw [hround, ← arc_mod, Nat.add_mod_right, arc_mod]
  rw [arc_add, hring, arc_add, heldAddresses, readyAddresses]

/-- Held and ready bytes are the ones in use. -/
theorem heldSize_add (h : b.WellFormed) : b.heldSize + b.rdaSize = b.useSize :=
  Nat.sub_add_cancel h.rda_le

/-- Nothing that is held or ready lies in the free space. -/
theorem notMem_writing (h : b.WellFormed) {a : Nat}
    (ha : a ∈ b.heldAddresses ++ b.readyAddresses) : a ∉ addresses b.writing := by
  have hsize := h.heldSize_add
  have huse := h.use_le
  -- the three regions are one arc, which goes around at most once
  have hnodup := nodup_arc (n := b.maxSize) (p := b.start)
    (k := b.heldSize + (b.rdaSize + (b.maxSize - b.useSize))) (by omega)
  rw [h.arc_regions, ← List.append_assoc] at hnodup
  rw [h.addresses_writing]
  exact List.disjoint_of_nodup_append hnodup ha

/-! ## The operations -/

/-- Storing bytes moves no pointer. -/
theorem fill (h : b.WellFormed) (bytes : List UInt8) : (b.fill bytes).WellFormed :=
  ⟨h.rda_le, h.use_le, h.rp_lt, h.wp_eq⟩

/-- What is counted as written must have been free. -/
theorem writeFinish (h : b.WellFormed) {size : Nat}
    (hsize : size ≤ b.maxSize - b.useSize) : (b.writeFinish size).WellFormed where
  rda_le := Nat.add_le_add_right h.rda_le size
  use_le := by
    have := h.use_le
    show b.useSize + size ≤ b.maxSize
    omega
  rp_lt := h.rp_lt
  wp_eq hpos := by
    show (b.wp + size) % b.maxSize = (b.rp + (b.rdaSize + size)) % b.maxSize
    rw [h.wp_eq hpos, Nat.mod_add_mod, Nat.add_assoc]

/-- What is counted as read must have been ready. -/
theorem readFinish (h : b.WellFormed) {size : Nat} (hsize : size ≤ b.rdaSize) :
    (b.readFinish size).WellFormed where
  rda_le := (Nat.sub_le _ _).trans h.rda_le
  use_le := h.use_le
  rp_lt hpos := Nat.mod_lt _ hpos
  wp_eq hpos := by
    show b.wp = ((b.rp + size) % b.maxSize + (b.rdaSize - size)) % b.maxSize
    rw [h.wp_eq hpos, Nat.mod_add_mod, Nat.add_assoc, Nat.add_sub_cancel' hsize]

/-- What is released must have been held. -/
theorem readRelease (h : b.WellFormed) {size : Nat} (hsize : size ≤ b.heldSize) :
    (b.readRelease size).WellFormed := by
  have hsum := h.heldSize_add
  by_cases hempty : b.useSize - size = 0
  · -- only an empty ring is rewound
    have hnone : b.rdaSize = 0 := by omega
    rw [readRelease_of_eq hempty]
    exact ⟨hnone.le.trans (Nat.zero_le _), hempty.le.trans (Nat.zero_le _), fun hpos => hpos,
      fun _ => by simp [hnone]⟩
  · rw [readRelease_of_ne hempty]
    refine ⟨?_, (Nat.sub_le _ _).trans h.use_le, h.rp_lt, h.wp_eq⟩
    show b.rdaSize ≤ b.useSize - size
    omega

end WellFormed

/-! ## Where the regions move -/

/-- Writing leaves what is held where it is. -/
theorem heldAddresses_writeFinish (size : Nat) :
    (b.writeFinish size).heldAddresses = b.heldAddresses := by
  have hheld : (b.writeFinish size).heldSize = b.heldSize := Nat.add_sub_add_right _ _ _
  simp only [heldAddresses, start, hheld]
  rfl

/-- What is written lies behind what has been ready. -/
theorem readyAddresses_writeFinish (size : Nat) :
    (b.writeFinish size).readyAddresses =
      b.readyAddresses ++ arc b.maxSize (b.rp + b.rdaSize) size :=
  arc_add _ _ _ _

/-- What is read lies behind what has been held. -/
theorem WellFormed.heldAddresses_readFinish (h : b.WellFormed) {size : Nat}
    (hsize : size ≤ b.rdaSize) :
    (b.readFinish size).heldAddresses = b.heldAddresses ++ b.readyAddresses.take size := by
  have hsum := h.heldSize_add
  have huse := h.use_le
  have hheld : (b.readFinish size).heldSize = b.heldSize + size := by
    show b.useSize - (b.rdaSize - size) = b.heldSize + size
    omega
  -- the oldest held byte stays where it is
  have hstart : (b.rp + size) + (b.maxSize - (b.heldSize + size)) = b.start := by
    rw [start]
    omega
  have hmoved : (b.readFinish size).heldAddresses = arc b.maxSize b.start (b.heldSize + size) := by
    show arc b.maxSize ((b.rp + size) % b.maxSize + (b.maxSize - (b.readFinish size).heldSize))
      (b.readFinish size).heldSize = _
    rw [hheld, ← hstart, ← arc_mod, Nat.mod_add_mod, arc_mod]
  have hring := h.arc_regions 0
  rw [arc_zero, List.append_nil, Nat.add_zero] at hring
  calc (b.readFinish size).heldAddresses
      = (arc b.maxSize b.start (b.heldSize + b.rdaSize)).take (b.heldSize + size) := by
        rw [hmoved, take_arc (by omega)]
    _ = (b.heldAddresses ++ b.readyAddresses).take (b.heldSize + size) := by rw [hring]
    _ = b.heldAddresses ++ b.readyAddresses.take size := by
        have hlen : b.heldAddresses.length = b.heldSize := length_arc _ _ _
        rw [← hlen, List.take_length_add_append]

/-- It is the front of what has been ready. -/
theorem readyAddresses_readFinish {size : Nat} (hsize : size ≤ b.rdaSize) :
    (b.readFinish size).readyAddresses = b.readyAddresses.drop size := by
  rw [readyAddresses, readyAddresses, drop_arc hsize, ← arc_mod b.maxSize (b.rp + size)]
  rfl

/-- What is released is the front of what has been held. -/
theorem WellFormed.heldAddresses_readRelease (h : b.WellFormed) {size : Nat}
    (hsize : size ≤ b.heldSize) :
    (b.readRelease size).heldAddresses = b.heldAddresses.drop size := by
  have hsum := h.heldSize_add
  have huse := h.use_le
  rw [heldAddresses, heldAddresses, drop_arc hsize]
  by_cases hempty : b.useSize - size = 0
  · -- the ring is rewound, but then nothing is held
    have hnone : b.heldSize - size = 0 := by omega
    have hnone' : (b.readRelease size).heldSize = 0 := by
      rw [readRelease_of_eq hempty]
      exact Nat.sub_eq_zero_of_le (hempty.le.trans (Nat.zero_le _))
    rw [hnone, hnone', arc_zero, arc_zero]
  · rw [readRelease_of_ne hempty]
    have hheld : ({ b with useSize := b.useSize - size } : HevRingBuffer).heldSize =
        b.heldSize - size := by
      show b.useSize - size - b.rdaSize = b.useSize - b.rdaSize - size
      omega
    have hstart : ({ b with useSize := b.useSize - size } : HevRingBuffer).start =
        b.start + size := by
      rw [start, start, hheld]
      show b.rp + (b.maxSize - (b.heldSize - size)) = b.rp + (b.maxSize - b.heldSize) + size
      omega
    rw [hheld, hstart]

/-- As many bytes less are held. -/
theorem heldSize_readRelease (size : Nat) :
    (b.readRelease size).heldSize = b.heldSize - size := by
  by_cases hempty : b.useSize - size = 0
  · rw [readRelease_of_eq hempty]
    show b.useSize - size - b.rdaSize = b.useSize - b.rdaSize - size
    omega
  · rw [readRelease_of_ne hempty]
    show b.useSize - size - b.rdaSize = b.useSize - b.rdaSize - size
    omega

/-- A release leaves what is ready where it is, even if it rewinds the ring. -/
theorem WellFormed.readyAddresses_readRelease (h : b.WellFormed) {size : Nat}
    (hsize : size ≤ b.heldSize) : (b.readRelease size).readyAddresses = b.readyAddresses := by
  have hsum := h.heldSize_add
  by_cases hempty : b.useSize - size = 0
  · -- the ring is rewound, but then nothing is ready
    have hnone : b.rdaSize = 0 := by omega
    rw [readRelease_of_eq hempty, readyAddresses, readyAddresses, hnone, arc_zero, arc_zero]
  · rw [readRelease_of_ne hempty]
    rfl

/-! ## What the buffer is for -/

/-- Bytes on their way to a reader that still refers to what it has been given. -/
structure Pipe where
  held : List UInt8
  ready : List UInt8
  deriving DecidableEq, Repr

namespace Pipe

def write (p : Pipe) (bytes : List UInt8) : Pipe := { p with ready := p.ready ++ bytes }

def read (p : Pipe) (size : Nat) : Pipe :=
  { held := p.held ++ p.ready.take size, ready := p.ready.drop size }

def release (p : Pipe) (size : Nat) : Pipe := { p with held := p.held.drop size }

end Pipe

def pipe (self : HevRingBuffer) : Pipe := { held := self.held, ready := self.ready }

namespace WellFormed

/-- What is held or ready stays what it is while the free space is filled. -/
theorem map_fill (h : b.WellFormed) {as : List Nat}
    (has : as ⊆ b.heldAddresses ++ b.readyAddresses) (bytes : List UInt8) :
    as.map (b.fill bytes).data = as.map b.data :=
  map_scatter_of_disjoint fun _ ha => h.notMem_writing (has ha)

/-- **Writing** appends to what is ready, and touches neither that nor what is held. -/
theorem pipe_write (h : b.WellFormed) {bytes : List UInt8}
    (hlen : bytes.length ≤ b.maxSize - b.useSize) :
    ((b.fill bytes).writeFinish bytes.length).pipe = b.pipe.write bytes := by
  have hnew : (arc b.maxSize (b.rp + b.rdaSize) bytes.length).map (b.fill bytes).data = bytes := by
    rw [← take_arc hlen, ← h.addresses_writing]
    -- the stretches are filled in order, as no address comes twice
    refine map_scatter ?_ ?_
    · rw [h.addresses_writing]
      exact nodup_arc (Nat.sub_le _ _)
    · rw [h.addresses_writing, length_arc]
      exact hlen
  have hheld : ((b.fill bytes).writeFinish bytes.length).held = b.held := by
    rw [held, heldAddresses_writeFinish]
    exact h.map_fill (List.subset_append_left _ _) bytes
  have hready : ((b.fill bytes).writeFinish bytes.length).ready = b.ready ++ bytes := by
    rw [ready, readyAddresses_writeFinish, List.map_append]
    exact congrArg₂ _ (h.map_fill (List.subset_append_right _ _) bytes) hnew
  rw [pipe, hheld, hready]
  rfl

/-- **Reading** hands on the oldest bytes that are ready and holds them. -/
theorem pipe_readFinish (h : b.WellFormed) {size : Nat} (hsize : size ≤ b.rdaSize) :
    (b.readFinish size).pipe = b.pipe.read size := by
  have hheld : (b.readFinish size).held = b.held ++ b.ready.take size := by
    rw [held, h.heldAddresses_readFinish hsize, List.map_append, List.map_take]
    rfl
  have hready : (b.readFinish size).ready = b.ready.drop size := by
    rw [ready, readyAddresses_readFinish hsize, List.map_drop]
    rfl
  rw [pipe, hheld, hready]
  rfl

/-- **Releasing** gives up the oldest bytes that are held; rewinding an empty buffer loses
    nothing. -/
theorem pipe_readRelease (h : b.WellFormed) {size : Nat} (hsize : size ≤ b.heldSize) :
    (b.readRelease size).pipe = b.pipe.release size := by
  have hheld : (b.readRelease size).held = b.held.drop size := by
    rw [held, h.heldAddresses_readRelease hsize, data_readRelease, List.map_drop, held]
  have hready : (b.readRelease size).ready = b.ready := by
    rw [ready, h.readyAddresses_readRelease hsize, data_readRelease, ready]
  rw [pipe, hheld, hready]
  rfl

end WellFormed

end HevRingBuffer

end DarkMed.Tunnel
