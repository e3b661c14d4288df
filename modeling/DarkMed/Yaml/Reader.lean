import DarkMed.Lib.Unicode

/-!
# The Reader

`reader.c` of the vendored libyaml, for UTF-8 input: the bytes are decoded, and
characters outside the allowed range are refused.  The scanner works on the decoded
characters.

The main result: what the encoder wrote is read back unless it has a character that
the reader refuses.
-/

namespace DarkMed.Yaml

open DarkMed.Lib

/-! ## Reader -/

/-- The length of the sequence that an octet leads, 0 when it leads none. -/
def width (octet : UInt8) : Nat :=
  if octet &&& 0x80 == 0x00 then 1
  else if octet &&& 0xE0 == 0xC0 then 2
  else if octet &&& 0xF0 == 0xE0 then 3
  else if octet &&& 0xF8 == 0xF0 then 4
  else 0

/-- The bits of the leading octet that belong to the value. -/
def leadValue (octet : UInt8) : Nat :=
  if octet &&& 0x80 == 0x00 then (octet &&& 0x7F).toNat
  else if octet &&& 0xE0 == 0xC0 then (octet &&& 0x1F).toNat
  else if octet &&& 0xF0 == 0xE0 then (octet &&& 0x0F).toNat
  else if octet &&& 0xF8 == 0xF0 then (octet &&& 0x07).toNat
  else 0

/-- The value with the bits of a trailing octet. -/
def trailValue (value : Nat) (octet : UInt8) : Option Nat :=
  if octet &&& 0xC0 == 0x80 then some (value * 64 + (octet &&& 0x3F).toNat) else none

/-- The characters that a YAML stream may have. -/
def allowed (value : Nat) : Bool :=
  value == 0x09 || value == 0x0A || value == 0x0D ||
    (0x20 ≤ value && value ≤ 0x7E) ||
    value == 0x85 || (0xA0 ≤ value && value ≤ 0xD7FF) ||
    (0xE000 ≤ value && value ≤ 0xFFFD) ||
    (0x10000 ≤ value && value ≤ 0x10FFFF)

/-- The checks of a decoded value: the length of its sequence, its range, and whether it is
    allowed. -/
def character (width value : Nat) : Option Char :=
  if !(width == 1 || (width == 2 && 0x80 ≤ value) || (width == 3 && 0x800 ≤ value) ||
      (width == 4 && 0x10000 ≤ value)) then none
  else if (0xD800 ≤ value && value ≤ 0xDFFF) || 0x10FFFF < value then none
  else if allowed value then some (Char.ofNat value)
  else none

/-- The UTF-8 case of `yaml_parser_update_buffer`, run to the end of the input.  An octet that
    leads no sequence and a sequence that the input cuts off are errors. -/
def updateBuffer : List UInt8 → Option (List Char)
  | [] => some []
  | octet :: raw =>
    match width octet, raw with
    | 1, raw => do
      let c ← character 1 (leadValue octet)
      (updateBuffer raw).map (c :: ·)
    | 2, second :: raw => do
      let value ← trailValue (leadValue octet) second
      let c ← character 2 value
      (updateBuffer raw).map (c :: ·)
    | 3, second :: third :: raw => do
      let value ← trailValue (← trailValue (leadValue octet) second) third
      let c ← character 3 value
      (updateBuffer raw).map (c :: ·)
    | 4, second :: third :: fourth :: raw => do
      let value ← trailValue (← trailValue (← trailValue (leadValue octet) second) third) fourth
      let c ← character 4 value
      (updateBuffer raw).map (c :: ·)
    | _, _ => none

/-- `yaml_parser_determine_encoding`, and the characters of the input.  UTF-16 input, which a
    byte order mark announces, is left out. -/
def read : List UInt8 → Option (List Char)
  | 0xFF :: 0xFE :: _ => none
  | 0xFE :: 0xFF :: _ => none
  | 0xEF :: 0xBB :: 0xBF :: raw => updateBuffer raw
  | raw => updateBuffer raw

/-! ## Octets -/

/-- The octets of each sequence length, and what the reader takes from them. -/
theorem lead_one {x : Nat} (h : x < 0x80) :
    width (UInt8.ofNat x) = 1 ∧ leadValue (UInt8.ofNat x) = x := by
  revert x
  decide

/-- The first octet of two holds five bits. -/
theorem lead_two {x : Nat} (h : x < 0x20) :
    width (UInt8.ofNat (x + 0xC0)) = 2 ∧ leadValue (UInt8.ofNat (x + 0xC0)) = x := by
  revert x
  decide

/-- The first octet of three holds four bits. -/
theorem lead_three {x : Nat} (h : x < 0x10) :
    width (UInt8.ofNat (x + 0xE0)) = 3 ∧ leadValue (UInt8.ofNat (x + 0xE0)) = x := by
  revert x
  decide

/-- The first octet of four holds three bits. -/
theorem lead_four {x : Nat} (h : x < 0x08) :
    width (UInt8.ofNat (x + 0xF0)) = 4 ∧ leadValue (UInt8.ofNat (x + 0xF0)) = x := by
  revert x
  decide

/-- Each of the others holds six bits more. -/
theorem trailValue_ofNat (value : Nat) {x : Nat} (h : x < 0x40) :
    trailValue value (UInt8.ofNat (x + 0x80)) = some (value * 64 + x) := by
  have hoctet : (UInt8.ofNat (x + 0x80) &&& 0xC0 == 0x80) = true ∧
      (UInt8.ofNat (x + 0x80) &&& 0x3F).toNat = x := by
    revert x
    decide
  rw [trailValue, if_pos hoctet.1, hoctet.2]

/-! ## Reading what was written -/

/-- A character of its own length is taken if the reader allows it. -/
theorem character_toNat {width : Nat} {c : Char}
    (hwidth : width = 1 ∨ (width = 2 ∧ 0x80 ≤ c.toNat) ∨ (width = 3 ∧ 0x800 ≤ c.toNat) ∨
      (width = 4 ∧ 0x10000 ≤ c.toNat)) :
    character width c.toNat = if allowed c.toNat then some c else none := by
  have hvalid : c.toNat < 0xD800 ∨ (0xDFFF < c.toNat ∧ c.toNat < 0x110000) := c.valid
  -- the length is the shortest for the value
  have hlength : (!(width == 1 || (width == 2 && decide (0x80 ≤ c.toNat)) ||
      (width == 3 && decide (0x800 ≤ c.toNat)) ||
      (width == 4 && decide (0x10000 ≤ c.toNat)))) = false := by
    rcases hwidth with rfl | ⟨rfl, h⟩ | ⟨rfl, h⟩ | ⟨rfl, h⟩ <;> simp_all
  -- no character of Lean is a surrogate
  have hrange : (decide (0xD800 ≤ c.toNat) && decide (c.toNat ≤ 0xDFFF) ||
      decide (0x10FFFF < c.toNat)) = false := by
    simp only [Bool.or_eq_false_iff, Bool.and_eq_false_iff, decide_eq_false_iff_not]
    omega
  rw [character, hlength, hrange, Char.ofNat_toNat]
  rfl

section Steps

variable {octet second third fourth : UInt8} {raw : List UInt8} {value : Nat}

/-- One octet is taken by itself. -/
theorem updateBuffer_one (hwidth : width octet = 1) :
    updateBuffer (octet :: raw) =
      (character 1 (leadValue octet)).bind fun c => (updateBuffer raw).map (c :: ·) := by
  rw [updateBuffer.eq_def]
  simp only [hwidth]
  rfl

/-- Two octets are taken together. -/
theorem updateBuffer_two (hwidth : width octet = 2)
    (hvalue : trailValue (leadValue octet) second = some value) :
    updateBuffer (octet :: second :: raw) =
      (character 2 value).bind fun c => (updateBuffer raw).map (c :: ·) := by
  rw [updateBuffer.eq_def]
  simp only [hwidth, hvalue]
  rfl

/-- Three octets are taken together. -/
theorem updateBuffer_three {value₂ : Nat} (hwidth : width octet = 3)
    (hvalue₂ : trailValue (leadValue octet) second = some value₂)
    (hvalue : trailValue value₂ third = some value) :
    updateBuffer (octet :: second :: third :: raw) =
      (character 3 value).bind fun c => (updateBuffer raw).map (c :: ·) := by
  rw [updateBuffer.eq_def]
  simp only [hwidth, hvalue₂, Option.bind_eq_bind, Option.bind_some, hvalue]

/-- Four octets are taken together. -/
theorem updateBuffer_four {value₂ value₃ : Nat} (hwidth : width octet = 4)
    (hvalue₂ : trailValue (leadValue octet) second = some value₂)
    (hvalue₃ : trailValue value₂ third = some value₃)
    (hvalue : trailValue value₃ fourth = some value) :
    updateBuffer (octet :: second :: third :: fourth :: raw) =
      (character 4 value).bind fun c => (updateBuffer raw).map (c :: ·) := by
  rw [updateBuffer.eq_def]
  simp only [hwidth, hvalue₂, Option.bind_eq_bind, Option.bind_some, hvalue₃, hvalue]

end Steps

/-- A character's sequence is decoded to its value, with a length that fits the value. -/
theorem exists_width_utf8EncodeChar (c : Char) (raw : List UInt8) :
    ∃ width, (width = 1 ∨ (width = 2 ∧ 0x80 ≤ c.toNat) ∨ (width = 3 ∧ 0x800 ≤ c.toNat) ∨
        (width = 4 ∧ 0x10000 ≤ c.toNat)) ∧
      updateBuffer (String.utf8EncodeChar c ++ raw) =
        (character width c.toNat).bind fun c => (updateBuffer raw).map (c :: ·) := by
  have hvalid : c.toNat < 0xD800 ∨ (0xDFFF < c.toNat ∧ c.toNat < 0x110000) := c.valid
  have htoNat : c.val.toNat = c.toNat := rfl
  unfold String.utf8EncodeChar
  simp only [htoNat]
  -- the six bits of each trailing octet are below 64
  have hlow : ∀ n, n % 0x40 < 0x40 := fun n => Nat.mod_lt n (by decide)
  split
  · next h1 =>
    obtain ⟨hwidth, hlead⟩ := @lead_one c.toNat (by omega)
    refine ⟨1, .inl rfl, ?_⟩
    rw [List.cons_append, List.nil_append, updateBuffer_one hwidth, hlead]
  · next h1 =>
    split
    · next h2 =>
      obtain ⟨hwidth, hlead⟩ := @lead_two (c.toNat / 64 % 0x20) (by omega)
      have hvalue := trailValue_ofNat (c.toNat / 64 % 0x20) (hlow c.toNat)
      -- put together, the bits are those of the character
      have hsum : c.toNat / 64 % 0x20 * 64 + c.toNat % 0x40 = c.toNat := by omega
      rw [hsum] at hvalue
      refine ⟨2, .inr (.inl ⟨rfl, by omega⟩), ?_⟩
      simp only [List.cons_append, List.nil_append]
      rw [updateBuffer_two hwidth (hlead.symm ▸ hvalue)]
    · next h2 =>
      split
      · next h3 =>
        obtain ⟨hwidth, hlead⟩ := @lead_three (c.toNat / 4096 % 0x10) (by omega)
        have hvalue₂ := trailValue_ofNat (c.toNat / 4096 % 0x10) (hlow (c.toNat / 64))
        have hvalue := trailValue_ofNat (c.toNat / 4096 % 0x10 * 64 + c.toNat / 64 % 0x40)
          (hlow c.toNat)
        have hsum : (c.toNat / 4096 % 0x10 * 64 + c.toNat / 64 % 0x40) * 64 + c.toNat % 0x40 =
            c.toNat := by omega
        rw [hsum] at hvalue
        refine ⟨3, .inr (.inr (.inl ⟨rfl, by omega⟩)), ?_⟩
        simp only [List.cons_append, List.nil_append]
        rw [updateBuffer_three hwidth (hlead.symm ▸ hvalue₂) hvalue]
      · next h3 =>
        obtain ⟨hwidth, hlead⟩ := @lead_four (c.toNat / 262144 % 0x08) (by omega)
        have hvalue₂ := trailValue_ofNat (c.toNat / 262144 % 0x08) (hlow (c.toNat / 4096))
        have hvalue₃ := trailValue_ofNat (c.toNat / 262144 % 0x08 * 64 + c.toNat / 4096 % 0x40)
          (hlow (c.toNat / 64))
        have hvalue := trailValue_ofNat
          ((c.toNat / 262144 % 0x08 * 64 + c.toNat / 4096 % 0x40) * 64 + c.toNat / 64 % 0x40)
          (hlow c.toNat)
        have hsum : ((c.toNat / 262144 % 0x08 * 64 + c.toNat / 4096 % 0x40) * 64 +
            c.toNat / 64 % 0x40) * 64 + c.toNat % 0x40 = c.toNat := by omega
        rw [hsum] at hvalue
        refine ⟨4, .inr (.inr (.inr ⟨rfl, by omega⟩)), ?_⟩
        simp only [List.cons_append, List.nil_append]
        rw [updateBuffer_four hwidth (hlead.symm ▸ hvalue₂) hvalue₃ hvalue]

/-- **The reader reads what the encoder wrote**, unless a character is not allowed. -/
theorem updateBuffer_utf8 (cs : List Char) :
    updateBuffer (utf8 cs) = if cs.all fun c => allowed c.toNat then some cs else none := by
  induction cs with
  | nil => rfl
  | cons c cs ih =>
    obtain ⟨width, hwidth, hread⟩ := exists_width_utf8EncodeChar c (utf8 cs)
    rw [utf8_cons, hread, character_toNat hwidth, ih]
    cases hc : allowed c.toNat <;> cases hcs : cs.all fun c => allowed c.toNat <;>
      simp [hc, hcs]

end DarkMed.Yaml
