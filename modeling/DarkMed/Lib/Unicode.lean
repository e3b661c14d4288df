import DarkMed.Lib.Kotlin

/-!
# Unicode

What a Java string becomes in a UTF-8 file.  Two code units are one character when
they are a surrogate pair; a surrogate without its partner has no encoding, and the
encoder writes `?` for it.
-/

namespace DarkMed.Lib

def isHighSurrogate (u : UInt16) : Bool :=
  0xD800 ≤ u && u ≤ 0xDBFF

def isLowSurrogate (u : UInt16) : Bool :=
  0xDC00 ≤ u && u ≤ 0xDFFF

/-- The character of a surrogate pair. -/
def supplementary (high low : UInt16) : Char :=
  Char.ofNat (0x10000 + (high.toNat - 0xD800) * 0x400 + (low.toNat - 0xDC00))

/-- The character of a code unit by itself. -/
def unitChar (u : UInt16) : Option Char :=
  if isHighSurrogate u || isLowSurrogate u then none else some (Char.ofNat u.toNat)

namespace JString

/-- The characters of a string, with `none` for a surrogate without its partner. -/
def chars : JString → List (Option Char)
  | [] => []
  | [u] => [unitChar u]
  | u :: l :: s =>
    if isHighSurrogate u && isLowSurrogate l then some (supplementary u l) :: chars s
    else unitChar u :: chars (l :: s)

/-- The characters that a UTF-8 file made of the string holds. -/
def written (s : JString) : List Char :=
  s.chars.map (·.getD '?')

/-- Every surrogate has its partner. -/
def Paired (s : JString) : Prop :=
  none ∉ s.chars

instance (s : JString) : Decidable s.Paired :=
  inferInstanceAs (Decidable (none ∉ s.chars))

end JString

/-- The UTF-8 encoding of a text. -/
def utf8 (cs : List Char) : List UInt8 :=
  cs.flatMap String.utf8EncodeChar

/-- A text is encoded character by character. -/
theorem utf8_cons (c : Char) (cs : List Char) :
    utf8 (c :: cs) = String.utf8EncodeChar c ++ utf8 cs :=
  List.flatMap_cons

/-- Two texts with one encoding are the same text. -/
theorem utf8_inj {cs ds : List Char} : utf8 cs = utf8 ds ↔ cs = ds := by
  refine ⟨fun h => ?_, fun h => h ▸ rfl⟩
  have hbytes : cs.utf8Encode = ds.utf8Encode := congrArg List.toByteArray h
  exact String.ofList_inj.mp (String.toByteArray_inj.mp hbytes)

/-- A text whose encoding starts another's, and is no shorter, is that text. -/
theorem eq_of_take_utf8 {n : Nat} {cs ds : List Char} (h : (utf8 cs).take n = utf8 ds)
    (hlength : (utf8 cs).length ≤ (utf8 ds).length) : cs = ds := by
  have hstart : utf8 ds <+: utf8 cs := h ▸ List.take_prefix n _
  exact utf8_inj.mp (hstart.eq_of_length_le hlength).symm

/-! ## Characters of concatenated strings -/

namespace JString

/-- Only the empty string is an empty file. -/
theorem written_eq_nil_iff {s : JString} : s.written = [] ↔ s = [] := by
  rw [written, List.map_eq_nil_iff]
  fun_cases chars s with
  | case1 => exact iff_of_true rfl rfl
  | _ => exact iff_of_false (List.cons_ne_nil _ _) (List.cons_ne_nil _ _)

/-- The characters of two strings come one behind the other, if no pair lies across the border. -/
theorem chars_append {s t : JString} (h : ∀ u ∈ t.head?, isLowSurrogate u = false) :
    chars (s ++ t) = chars s ++ chars t := by
  induction s using chars.induct with
  | case1 => rfl
  | case2 u =>
    cases t with
    | nil => rfl
    | cons l t =>
      have hlow : isLowSurrogate l = false := h l rfl
      simp [chars, hlow]
  | case3 u l s hpair ih => simpa [chars, hpair] using ih
  | case4 u l s hpair ih => simpa [chars, hpair] using ih

/-- So do the characters of the files. -/
theorem written_append {s t : JString} (h : ∀ u ∈ t.head?, isLowSurrogate u = false) :
    written (s ++ t) = written s ++ written t := by
  rw [written, chars_append h, List.map_append]
  rfl

/-- A code unit that is no surrogate. -/
theorem chars_cons {u : UInt16} (hhigh : isHighSurrogate u = false)
    (hlow : isLowSurrogate u = false) (s : JString) :
    chars (u :: s) = some (Char.ofNat u.toNat) :: chars s := by
  cases s <;> simp [chars, unitChar, hhigh, hlow]

end JString

/-! ## Back to code units -/

/-- The code units of a character. -/
def units (c : Char) : JString :=
  if c.toNat < 0x10000 then [c.toNat.toUInt16]
  else
    [(0xD800 + (c.toNat - 0x10000) / 0x400).toUInt16,
      (0xDC00 + (c.toNat - 0x10000) % 0x400).toUInt16]

def utf16 (cs : List Char) : JString :=
  cs.flatMap units

/-- Only the empty text has no code units. -/
theorem utf16_eq_nil_iff {cs : List Char} : utf16 cs = [] ↔ cs = [] := by
  cases cs with
  | nil => exact iff_of_true rfl rfl
  | cons c cs =>
    have hunits : units c ≠ [] := by
      unfold units
      split <;> exact List.cons_ne_nil _ _
    simp [utf16, hunits]

/-- `String(bytes, UTF_8)`.  What the constructor makes of bytes that are no UTF-8 text differs
    from one platform to the next. -/
def decodeUtf8 (malformed : List UInt8 → JString) (bytes : List UInt8) : JString :=
  match bytes.toByteArray.utf8Decode? with
  | some cs => utf16 cs.toList
  | none => malformed bytes

/-- What has been encoded is decoded to the code units of the text, on any platform. -/
theorem decodeUtf8_utf8 (malformed : List UInt8 → JString) (cs : List Char) :
    decodeUtf8 malformed (utf8 cs) = utf16 cs := by
  have hdecode : (utf8 cs).toByteArray.utf8Decode? = some cs.toArray :=
    List.utf8Decode?_utf8Encode
  simp [decodeUtf8, hdecode]

section Units

variable {c : Char} {u l : UInt16}

/-- A character of one unit, whose number is no surrogate. -/
theorem units_of_lt (h : c.toNat < 0x10000) :
    units c = [c.toNat.toUInt16] ∧ isHighSurrogate c.toNat.toUInt16 = false ∧
      isLowSurrogate c.toNat.toUInt16 = false ∧ Char.ofNat c.toNat.toUInt16.toNat = c := by
  have hnat : c.toNat.toUInt16.toNat = c.toNat := by
    rw [Nat.toUInt16, UInt16.toNat_ofNat']
    omega
  -- no character is a surrogate
  have hvalid : c.toNat < 0xD800 ∨ 0xDFFF < c.toNat ∧ c.toNat < 0x110000 := c.valid
  refine ⟨if_pos h, ?_, ?_, by rw [hnat, Char.ofNat_toNat]⟩
  · simp only [isHighSurrogate, Bool.and_eq_false_iff, decide_eq_false_iff_not,
      UInt16.le_iff_toNat_le, hnat]
    simp only [UInt16.reduceToNat]
    omega
  · simp only [isLowSurrogate, Bool.and_eq_false_iff, decide_eq_false_iff_not,
      UInt16.le_iff_toNat_le, hnat]
    simp only [UInt16.reduceToNat]
    omega

/-- A character of two units, which are a surrogate pair. -/
theorem units_of_le (h : 0x10000 ≤ c.toNat) :
    ∃ u l, units c = [u, l] ∧ (isHighSurrogate u && isLowSurrogate l) = true ∧
      supplementary u l = c := by
  have hmax : c.toNat < 0x110000 := by
    have hvalid : c.toNat < 0xD800 ∨ 0xDFFF < c.toNat ∧ c.toNat < 0x110000 := c.valid
    omega
  have hhigh : (0xD800 + (c.toNat - 0x10000) / 0x400).toUInt16.toNat =
      0xD800 + (c.toNat - 0x10000) / 0x400 := by
    rw [Nat.toUInt16, UInt16.toNat_ofNat']
    omega
  have hlow : (0xDC00 + (c.toNat - 0x10000) % 0x400).toUInt16.toNat =
      0xDC00 + (c.toNat - 0x10000) % 0x400 := by
    rw [Nat.toUInt16, UInt16.toNat_ofNat']
    omega
  refine ⟨_, _, if_neg (by omega), ?_, ?_⟩
  · simp only [isHighSurrogate, isLowSurrogate, Bool.and_eq_true, decide_eq_true_eq,
      UInt16.le_iff_toNat_le, hhigh, hlow]
    simp only [UInt16.reduceToNat]
    omega
  · rw [supplementary, hhigh, hlow]
    -- the ten bits of either unit, put together
    have hsum : 0x10000 + (0xD800 + (c.toNat - 0x10000) / 0x400 - 0xD800) * 0x400 +
        (0xDC00 + (c.toNat - 0x10000) % 0x400 - 0xDC00) = c.toNat := by omega
    rw [hsum, Char.ofNat_toNat]

/-- A unit that is no surrogate is its character's only one. -/
theorem units_unitChar (h : unitChar u = some c) : units c = [u] := by
  unfold unitChar at h
  split at h
  · cases h
  next hsurrogate =>
    cases h
    simp only [isHighSurrogate, isLowSurrogate, Bool.or_eq_true, Bool.and_eq_true,
      decide_eq_true_eq, UInt16.le_iff_toNat_le, UInt16.reduceToNat] at hsurrogate
    have hmax := u.toNat_lt
    -- a unit below or above the surrogates is a character
    have hvalid : u.toNat.isValidChar := by
      simp only [Nat.isValidChar]
      omega
    have hnat : (Char.ofNat u.toNat).toNat = u.toNat := by
      rw [Char.ofNat, dif_pos hvalid]
      rfl
    rw [units, hnat, if_pos (by omega)]
    simp

/-- The two units of a pair are those of its character. -/
theorem units_supplementary (h : (isHighSurrogate u && isLowSurrogate l) = true) :
    units (supplementary u l) = [u, l] := by
  simp only [isHighSurrogate, isLowSurrogate, Bool.and_eq_true, decide_eq_true_eq,
    UInt16.le_iff_toNat_le, UInt16.reduceToNat] at h
  have hvalid : (0x10000 + (u.toNat - 0xD800) * 0x400 + (l.toNat - 0xDC00)).isValidChar := by
    simp only [Nat.isValidChar]
    omega
  have hnat : (supplementary u l).toNat =
      0x10000 + (u.toNat - 0xD800) * 0x400 + (l.toNat - 0xDC00) := by
    rw [supplementary, Char.ofNat, dif_pos hvalid]
    rfl
  have hhigh : 0xD800 + ((supplementary u l).toNat - 0x10000) / 0x400 = u.toNat := by omega
  have hlow : 0xDC00 + ((supplementary u l).toNat - 0x10000) % 0x400 = l.toNat := by omega
  rw [units, if_neg (by omega), hhigh, hlow]
  simp

end Units

namespace JString

/-- The units of a character in front are read as that character. -/
theorem chars_units_append (c : Char) (s : JString) : chars (units c ++ s) = some c :: chars s := by
  by_cases h : c.toNat < 0x10000
  · obtain ⟨hunits, hhigh, hlow, hchar⟩ := units_of_lt h
    rw [hunits, List.singleton_append, chars_cons hhigh hlow, hchar]
  · obtain ⟨u, l, hunits, hpair, hchar⟩ := units_of_le (not_lt.mp h)
    rw [hunits, List.cons_append, List.singleton_append, chars, if_pos hpair, hchar]

/-- The units of a text are read as its characters. -/
theorem chars_utf16 (cs : List Char) : chars (utf16 cs) = cs.map some := by
  induction cs with
  | nil => rfl
  | cons c cs ih =>
    rw [utf16, List.flatMap_cons, chars_units_append]
    exact congrArg (some c :: ·) ih

/-- What a UTF-8 file holds of a string is the string, if its surrogates come in pairs. -/
theorem utf16_written {s : JString} (h : s.Paired) : utf16 s.written = s := by
  induction s using chars.induct with
  | case1 => rfl
  | case2 u =>
    cases hchar : unitChar u with
    -- a surrogate at the end has no partner
    | none => exact absurd (by simp [chars, hchar]) h
    | some c => simp [written, chars, hchar, utf16, units_unitChar hchar]
  | case3 u l s hpair ih =>
    have hrest : Paired s := fun hmem => h (by rw [chars, if_pos hpair]; exact .tail _ hmem)
    rw [written, chars, if_pos hpair, List.map_cons, utf16, List.flatMap_cons, Option.getD_some,
      units_supplementary hpair]
    exact congrArg ([u, l] ++ ·) (ih hrest)
  | case4 u l s hpair ih =>
    have hrest : Paired (l :: s) := fun hmem => h (by rw [chars, if_neg hpair]; exact .tail _ hmem)
    cases hchar : unitChar u with
    -- nor has one in front of anything else
    | none => exact absurd (by rw [chars, if_neg hpair, hchar]; exact List.mem_cons_self) h
    | some c =>
      rw [written, chars, if_neg hpair, hchar, List.map_cons, utf16, List.flatMap_cons,
        Option.getD_some, units_unitChar hchar]
      exact congrArg ([u] ++ ·) (ih hrest)

/-- **A string survives UTF-8 exactly when** its surrogates come in pairs. -/
theorem utf16_written_eq_iff {s : JString} : utf16 s.written = s ↔ s.Paired := by
  refine ⟨fun h hmem => ?_, utf16_written⟩
  rw [← h, chars_utf16] at hmem
  obtain ⟨c, -, hc⟩ := List.mem_map.mp hmem
  cases hc

/-- What UTF-8 has made of a string survives it. -/
theorem paired_utf16 (cs : List Char) : Paired (utf16 cs) := by
  intro hmem
  rw [chars_utf16] at hmem
  obtain ⟨c, -, hc⟩ := List.mem_map.mp hmem
  cases hc

end JString

end DarkMed.Lib
