import Mathlib.Data.List.Nodup
import Mathlib.Data.List.Range
import Mathlib.Data.Nat.ModEq
import Mathlib.Logic.Function.Basic

/-!
# Arcs of a Ring

A memory is a function from addresses.  What a scattering read or a gathering write touches is a
list of addresses: the stretches it is given, one behind the other.  In a buffer of `n` bytes that
is used as a ring, an *arc* is the list of addresses from a position on, modulo `n`.

The two facts that programs with ring buffers rest on are that an arc of at most `n` addresses has
no address twice, and that it is made up of at most two stretches, of which the second one starts
at the beginning of the buffer.
-/

namespace DarkMed.Lib.Ring

/-! ## Stretches of memory -/

/-- A stretch of memory, as the entries of an I/O vector are. -/
structure Iovec where
  base : Nat
  len : Nat
  deriving DecidableEq, Repr

def Iovec.addresses (v : Iovec) : List Nat :=
  List.range' v.base v.len

/-- The addresses that an I/O vector speaks of, in order. -/
def addresses (iov : List Iovec) : List Nat :=
  iov.flatMap Iovec.addresses

section Memory

variable {β : Type*}

/-- Stores `bytes` at the first of the addresses. -/
def scatter (memory : Nat → β) : List Nat → List β → Nat → β
  | a :: as, b :: bs => scatter (Function.update memory a b) as bs
  | _, _ => memory

/-- An address that is not among the first ones keeps what it holds. -/
theorem scatter_of_notMem {as : List Nat} {bytes : List β} {a : Nat} {memory : Nat → β}
    (h : a ∉ as.take bytes.length) : scatter memory as bytes a = memory a := by
  induction as generalizing memory bytes with
  | nil => rfl
  | cons a' as ih =>
    cases bytes with
    | nil => rfl
    | cons b bs =>
      rw [List.length_cons, List.take_succ_cons, List.mem_cons, not_or] at h
      calc scatter memory (a' :: as) (b :: bs) a
          = Function.update memory a' b a := ih h.2
        _ = memory a := Function.update_of_ne h.1 b memory

/-- What has been stored is read back. -/
theorem map_scatter {as : List Nat} {bytes : List β} {memory : Nat → β} (hnodup : as.Nodup)
    (hlen : bytes.length ≤ as.length) :
    (as.take bytes.length).map (scatter memory as bytes) = bytes := by
  induction as generalizing memory bytes with
  | nil => rw [List.length_nil, Nat.le_zero, List.length_eq_zero_iff] at hlen; simp [hlen]
  | cons a as ih =>
    cases bytes with
    | nil => rfl
    | cons b bs =>
      obtain ⟨ha, hrest⟩ := List.nodup_cons.mp hnodup
      -- the later bytes go to other addresses
      have hkept : scatter (Function.update memory a b) as bs a = b := by
        rw [scatter_of_notMem fun h => ha (List.mem_of_mem_take h), Function.update_self]
      rw [List.length_cons, List.take_succ_cons, List.map_cons]
      exact congrArg₂ List.cons hkept (ih hrest (Nat.le_of_succ_le_succ hlen))

/-- Addresses that are not written keep what they hold. -/
theorem map_scatter_of_disjoint {as others : List Nat} {bytes : List β} {memory : Nat → β}
    (h : ∀ a ∈ others, a ∉ as) : others.map (scatter memory as bytes) = others.map memory :=
  List.map_congr_left fun a ha => scatter_of_notMem fun hmem => h a ha (List.mem_of_mem_take hmem)

end Memory

/-! ## Arcs -/

/-- The `k` addresses from `p` on in a ring of `n`. -/
def arc (n p k : Nat) : List Nat :=
  (List.range k).map fun i => (p + i) % n

/-- An arc has as many addresses as it is long. -/
@[simp] theorem length_arc (n p k : Nat) : (arc n p k).length = k := by simp [arc]

@[simp] theorem arc_zero (n p : Nat) : arc n p 0 = [] := rfl

/-- Where an arc begins matters modulo `n` only. -/
theorem arc_mod (n p k : Nat) : arc n (p % n) k = arc n p k := by simp [arc, Nat.mod_add_mod]

/-- An arc is made up of two, the second of which begins where the first one ends. -/
theorem arc_add (n p j k : Nat) : arc n p (j + k) = arc n p j ++ arc n (p + j) k := by
  simp only [arc, List.range_add, List.map_append, List.map_map]
  congr 1
  refine List.map_congr_left fun i _ => ?_
  simp [Nat.add_assoc]

/-- The front of an arc. -/
theorem take_arc {n p j k : Nat} (h : j ≤ k) : (arc n p k).take j = arc n p j := by
  obtain ⟨m, rfl⟩ := Nat.exists_eq_add_of_le h
  rw [arc_add, List.take_left' (length_arc n p j)]

/-- The rest of an arc. -/
theorem drop_arc {n p j k : Nat} (h : j ≤ k) : (arc n p k).drop j = arc n (p + j) (k - j) := by
  obtain ⟨m, rfl⟩ := Nat.exists_eq_add_of_le h
  rw [arc_add, List.drop_left' (length_arc n p j), Nat.add_sub_cancel_left]

/-- Once around at most, no address comes twice. -/
theorem nodup_arc {n p k : Nat} (h : k ≤ n) : (arc n p k).Nodup := by
  refine List.Nodup.map_on (fun i hi j hj hij => ?_) List.nodup_range
  have hi : i < n := (List.mem_range.mp hi).trans_le h
  have hj : j < n := (List.mem_range.mp hj).trans_le h
  -- the position cancels
  have hmod : i % n = j % n := Nat.ModEq.add_left_cancel' p hij
  rwa [Nat.mod_eq_of_lt hi, Nat.mod_eq_of_lt hj] at hmod

/-- A stretch that does not run over the end of the ring. -/
theorem addresses_eq_arc {n p k : Nat} (h : p + k ≤ n) : Iovec.addresses ⟨p, k⟩ = arc n p k := by
  rw [Iovec.addresses, List.range'_eq_map_range, arc]
  refine List.map_congr_left fun i hi => ?_
  have hi : i < k := List.mem_range.mp hi
  rw [Nat.mod_eq_of_lt (by omega)]

/-! ## An arc as an I/O vector -/

/-- The stretches that make up the arc of `k` addresses from `p` on. -/
def segments (n p k : Nat) : List Iovec :=
  if k = 0 then []
  else if k ≤ n - p then [⟨p, k⟩]
  else [⟨p, n - p⟩, ⟨0, k - (n - p)⟩]

@[simp] theorem segments_zero (n p : Nat) : segments n p 0 = [] := rfl

/-- Only the empty arc has no stretches. -/
theorem segments_eq_nil {n p k : Nat} : segments n p k = [] ↔ k = 0 := by
  unfold segments
  split
  · simp [*]
  · split <;> simp [*]

/-- **The stretches of an arc** are its addresses, in order. -/
theorem addresses_segments {n p k : Nat} (hp : p < n) (hk : k ≤ n) :
    addresses (segments n p k) = arc n p k := by
  unfold segments
  split
  · simp [*, addresses]
  · split
    · rw [addresses, List.flatMap_singleton]
      exact addresses_eq_arc (by omega)
    · -- the second stretch begins at the beginning of the ring
      have hback : arc n (p + (n - p)) (k - (n - p)) = arc n 0 (k - (n - p)) := by
        rw [Nat.add_sub_cancel' hp.le, ← arc_mod, Nat.mod_self]
      have harc : arc n p k = arc n p (n - p) ++ arc n 0 (k - (n - p)) := by
        rw [← hback, ← arc_add, Nat.add_sub_cancel' (by omega)]
      rw [harc, ← addresses_eq_arc (by omega : p + (n - p) ≤ n),
        ← addresses_eq_arc (by omega : 0 + (k - (n - p)) ≤ n)]
      simp [addresses]

/-- They are as long as the arc. -/
theorem sum_len_segments (n p k : Nat) :
    ((segments n p k).map Iovec.len).sum = k := by
  unfold segments
  split
  · simp [*]
  · split
    · simp
    · simp; omega

/-- There are two of them at most. -/
theorem length_segments_le (n p k : Nat) : (segments n p k).length ≤ 2 := by
  unfold segments
  split_ifs <;> simp

/-- No stretch is longer than the arc. -/
theorem len_le_of_mem_segments {n p k : Nat} {v : Iovec} (h : v ∈ segments n p k) : v.len ≤ k := by
  unfold segments at h
  split_ifs at h with hzero hone
  · cases h
  · rw [List.mem_singleton.mp h]
  · simp only [List.mem_cons, List.not_mem_nil, or_false] at h
    rcases h with rfl | rfl
    · exact (Nat.lt_of_not_le hone).le
    · exact Nat.sub_le _ _

end DarkMed.Lib.Ring
