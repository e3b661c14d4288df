import DarkMed.Lib.Kotlin

/-!
# Base64

`java.util.Base64`: the basic encoder, which pads its last unit, and the basic decoder, which
takes a last unit with its padding or without any, and nothing outside the alphabet.
-/

namespace DarkMed.Lib.Base64

/-- The character of a 6-bit value. -/
def digit (n : Nat) : UInt16 :=
  if n < 26 then (0x41 + n).toUInt16
  else if n < 52 then (0x61 + (n - 26)).toUInt16
  else if n < 62 then (0x30 + (n - 52)).toUInt16
  else if n = 62 then 0x2B
  else 0x2F

/-- The 6-bit value of a character of the alphabet. -/
def value (c : UInt16) : Option Nat :=
  if 0x41 ≤ c ∧ c ≤ 0x5A then some (c.toNat - 0x41)
  else if 0x61 ≤ c ∧ c ≤ 0x7A then some (c.toNat - 0x61 + 26)
  else if 0x30 ≤ c ∧ c ≤ 0x39 then some (c.toNat - 0x30 + 52)
  else if c = 0x2B then some 62
  else if c = 0x2F then some 63
  else none

/-- The padding, `=` -/
def pad : UInt16 := 0x3D

/-- `Base64.getEncoder().encodeToString(bytes)` -/
def encode : List UInt8 → JString
  | [] => []
  | [x] => [digit (x.toNat / 4), digit (x.toNat % 4 * 16), pad, pad]
  | [x, y] =>
    [digit (x.toNat / 4), digit (x.toNat % 4 * 16 + y.toNat / 16), digit (y.toNat % 16 * 4), pad]
  | x :: y :: z :: bytes =>
    digit (x.toNat / 4) :: digit (x.toNat % 4 * 16 + y.toNat / 16) ::
      digit (y.toNat % 16 * 4 + z.toNat / 64) :: digit (z.toNat % 64) :: encode bytes

/-- The byte of a unit of two characters; bits that are left over are dropped. -/
def one (a b : UInt16) : Option (List UInt8) := do
  let a ← value a
  let b ← value b
  return [UInt8.ofNat (a * 4 + b / 16)]

def two (a b c : UInt16) : Option (List UInt8) := do
  let a ← value a
  let b ← value b
  let c ← value c
  return [UInt8.ofNat (a * 4 + b / 16), UInt8.ofNat (b % 16 * 16 + c / 4)]

def three (a b c d : UInt16) : Option (List UInt8) := do
  let a ← value a
  let b ← value b
  let c ← value c
  let d ← value d
  return [UInt8.ofNat (a * 4 + b / 16), UInt8.ofNat (b % 16 * 16 + c / 4),
    UInt8.ofNat (c % 4 * 64 + d)]

/-- `Base64.getDecoder().decode(text)`; `none` where it throws. -/
def decode : JString → Option (List UInt8)
  | [] => some []
  | [_] => none
  | [a, b] => one a b
  | [a, b, c] => if c = pad then none else two a b c
  | a :: b :: c :: d :: text =>
    -- the padding ends the text
    if d = pad then
      if text ≠ [] then none
      else if c = pad then one a b
      else two a b c
    else do
      let bytes ← three a b c d
      let rest ← decode text
      return bytes ++ rest

/-! ## Round trip -/

/-- A character of the alphabet has its value. -/
theorem value_digit {n : Nat} (h : n < 64) : value (digit n) = some n := by
  have hall : ∀ m : Fin 64, value (digit m) = some m.val := by decide +kernel
  exact hall ⟨n, h⟩

/-- No character of the alphabet is the padding, a white space or a line break. -/
theorem digit_spec (n : Nat) :
    digit n ≠ pad ∧ JString.isWhitespace (digit n) = false := by
  have hall : ∀ m : Fin 64, digit m ≠ pad ∧ JString.isWhitespace (digit m) = false := by
    decide +kernel
  by_cases h : n < 64
  · exact hall ⟨n, h⟩
  · -- beyond the alphabet it is the last character
    have hlast : digit n = digit (63 : Fin 64) := by
      have h26 : ¬ n < 26 := by omega
      have h52 : ¬ n < 52 := by omega
      have h62 : ¬ n < 62 := by omega
      have hne : n ≠ 62 := by omega
      rw [digit, if_neg h26, if_neg h52, if_neg h62, if_neg hne]
      rfl
    rw [hlast]
    exact hall 63

/-- Two characters are one byte. -/
theorem one_digits {m n : Nat} (hm : m < 64) (hn : n < 64) :
    one (digit m) (digit n) = some [UInt8.ofNat (m * 4 + n / 16)] := by
  rw [one, value_digit hm, value_digit hn]
  rfl

/-- Three characters are two bytes. -/
theorem two_digits {l m n : Nat} (hl : l < 64) (hm : m < 64) (hn : n < 64) :
    two (digit l) (digit m) (digit n) =
      some [UInt8.ofNat (l * 4 + m / 16), UInt8.ofNat (m % 16 * 16 + n / 4)] := by
  rw [two, value_digit hl, value_digit hm, value_digit hn]
  rfl

/-- Four characters are three bytes. -/
theorem three_digits {k l m n : Nat} (hk : k < 64) (hl : l < 64) (hm : m < 64) (hn : n < 64) :
    three (digit k) (digit l) (digit m) (digit n) =
      some [UInt8.ofNat (k * 4 + l / 16), UInt8.ofNat (l % 16 * 16 + m / 4),
        UInt8.ofNat (m % 4 * 64 + n)] := by
  rw [three, value_digit hk, value_digit hl, value_digit hm, value_digit hn]
  rfl

/-- **What has been encoded is decoded.** -/
theorem decode_encode (bytes : List UInt8) : decode (encode bytes) = some bytes := by
  -- three bytes at a time, and one or two at the end
  induction bytes using encode.induct with
  | case1 => rfl
  | case2 x =>
    have hx := x.toNat_lt
    have hfirst : x.toNat / 4 * 4 + x.toNat % 4 * 16 / 16 = x.toNat := by omega
    rw [encode, decode, if_pos rfl, if_neg (not_not.mpr rfl), if_pos rfl,
      one_digits (by omega) (by omega), hfirst, UInt8.ofNat_toNat]
  | case3 x y =>
    have hx := x.toNat_lt
    have hy := y.toNat_lt
    have hfirst : x.toNat / 4 * 4 + (x.toNat % 4 * 16 + y.toNat / 16) / 16 = x.toNat := by omega
    have hsecond : (x.toNat % 4 * 16 + y.toNat / 16) % 16 * 16 + y.toNat % 16 * 4 / 4 = y.toNat := by
      omega
    rw [encode, decode, if_pos rfl, if_neg (not_not.mpr rfl), if_neg (digit_spec _).1,
      two_digits (by omega) (by omega) (by omega), hfirst, hsecond, UInt8.ofNat_toNat,
      UInt8.ofNat_toNat]
  | case4 x y z bytes ih =>
    have hx := x.toNat_lt
    have hy := y.toNat_lt
    have hz := z.toNat_lt
    have hfirst : x.toNat / 4 * 4 + (x.toNat % 4 * 16 + y.toNat / 16) / 16 = x.toNat := by omega
    have hsecond : (x.toNat % 4 * 16 + y.toNat / 16) % 16 * 16 +
        (y.toNat % 16 * 4 + z.toNat / 64) / 4 = y.toNat := by omega
    have hthird : (y.toNat % 16 * 4 + z.toNat / 64) % 4 * 64 + z.toNat % 64 = z.toNat := by omega
    rw [encode, decode, if_neg (digit_spec _).1,
      three_digits (by omega) (by omega) (by omega) (by omega), hfirst, hsecond, hthird,
      UInt8.ofNat_toNat, UInt8.ofNat_toNat, UInt8.ofNat_toNat, ih]
    rfl

/-- The characters of an encoding are those of the alphabet and the padding. -/
theorem isWhitespace_of_mem_encode {bytes : List UInt8} {c : UInt16} (h : c ∈ encode bytes) :
    JString.isWhitespace c = false := by
  have hpad : JString.isWhitespace pad = false := by decide
  induction bytes using encode.induct with
  | case1 => cases h
  | case2 x =>
    simp only [encode, List.mem_cons, List.not_mem_nil, or_false] at h
    rcases h with rfl | rfl | rfl | rfl
    · exact (digit_spec _).2
    · exact (digit_spec _).2
    · exact hpad
    · exact hpad
  | case3 x y =>
    simp only [encode, List.mem_cons, List.not_mem_nil, or_false] at h
    rcases h with rfl | rfl | rfl | rfl
    · exact (digit_spec _).2
    · exact (digit_spec _).2
    · exact (digit_spec _).2
    · exact hpad
  | case4 x y z bytes ih =>
    simp only [encode, List.mem_cons] at h
    rcases h with rfl | rfl | rfl | rfl | h
    · exact (digit_spec _).2
    · exact (digit_spec _).2
    · exact (digit_spec _).2
    · exact (digit_spec _).2
    · exact ih h

/-- Only no bytes at all are encoded as nothing. -/
theorem encode_ne_nil {bytes : List UInt8} (h : bytes ≠ []) : encode bytes ≠ [] := by
  fun_cases encode bytes with
  | case1 => exact absurd rfl h
  | case2 => exact List.cons_ne_nil _ _
  | case3 => exact List.cons_ne_nil _ _
  | case4 => exact List.cons_ne_nil _ _

end DarkMed.Lib.Base64
