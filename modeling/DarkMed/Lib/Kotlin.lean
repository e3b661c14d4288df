import Mathlib.Data.List.Basic
import Mathlib.Data.List.DropRight
import Mathlib.Tactic.IntervalCases

/-!
# Kotlin's Standard Library

The parts that the application uses: strings, which on the Java virtual machine
are sequences of 16-bit code units with no demand that surrogates come in pairs,
numbers in decimal, and `require`.
-/

namespace DarkMed.Lib

/-- A Java string. -/
abbrev JString := List UInt16

/-- The code units of an ASCII literal. -/
def ascii (s : String) : JString :=
  s.toList.map fun c => c.toNat.toUInt16

/-- The decimal digits of a number. -/
def digits (n : Nat) : JString :=
  (Nat.toDigits 10 n).map fun c => c.toNat.toUInt16

/-- `"$n"` for an `Int`. -/
def decimal : Int → JString
  | .ofNat n => digits n
  | .negSucc n => ascii "-" ++ digits (n + 1)

namespace JString

/-- `s.startsWith(p)` -/
def startsWith (s p : JString) : Bool :=
  p.isPrefixOf s

/-- `s.contains(c)` -/
def contains (s : JString) (c : UInt16) : Bool :=
  s.elem c

/-- `Char.isWhitespace()`: the separators of the Unicode categories Zs, Zl and Zp, and nine
    control characters. -/
def isWhitespace (c : UInt16) : Bool :=
  (0x9 ≤ c && c ≤ 0xD) || (0x1C ≤ c && c ≤ 0x20) || c == 0xA0 || c == 0x1680 ||
    (0x2000 ≤ c && c ≤ 0x200A) || c == 0x2028 || c == 0x2029 || c == 0x202F || c == 0x205F ||
    c == 0x3000

/-- `s.isNotBlank()` -/
def isNotBlank (s : JString) : Bool :=
  s.any fun c => !isWhitespace c

/-- `s.trim()` -/
def trim (s : JString) : JString :=
  (s.dropWhile isWhitespace).rdropWhile isWhitespace

theorem trim_trim (s : JString) : s.trim.trim = s.trim := by
  have hleft : s.trim.dropWhile isWhitespace = s.trim := by
    rw [List.dropWhile_eq_self_iff]
    intro hlength
    -- what is left begins as the text without its leading white space does
    have hprefix : s.trim <+: s.dropWhile isWhitespace := List.rdropWhile_prefix _ _
    have hstart := List.dropWhile_eq_self_iff.mp (List.dropWhile_idempotent isWhitespace s)
      (hlength.trans_le hprefix.length_le)
    rwa [← hprefix.getElem hlength] at hstart
  calc s.trim.trim = (s.trim.dropWhile isWhitespace).rdropWhile isWhitespace := rfl
    _ = s.trim.rdropWhile isWhitespace := by rw [hleft]
    _ = s.trim := List.rdropWhile_idempotent _ _

/-- A code unit with its case taken away, for comparisons with ASCII letters.  Besides the ASCII
    capitals these are the two dotted and dotless i's, the long s and the Kelvin sign. -/
def foldCase (c : UInt16) : UInt16 :=
  if 0x41 ≤ c && c ≤ 0x5A then c + 0x20
  else if c == 0x130 || c == 0x131 then 0x69
  else if c == 0x17F then 0x73
  else if c == 0x212A then 0x6B
  else c

/-- `s.contains(text, ignoreCase = true)` for an ASCII text. -/
def containsIgnoreCase (s : JString) (text : String) : Bool :=
  (s.map foldCase).tails.any fun rest => ((ascii text).map foldCase).isPrefixOf rest

/-! ### Lines -/

/-- Line feed, carriage return and tab. -/
def lf : UInt16 := 0xA
def cr : UInt16 := 0xD
def tab : UInt16 := 0x9

/-- A text with one line feed for every carriage return and line feed in a row. -/
def joinCrLf : JString → JString
  | [] => []
  | [c] => [c]
  | c :: d :: s => if c = cr ∧ d = lf then joinCrLf (d :: s) else c :: joinCrLf (d :: s)

/-- `s.lineSequence()`: the lines between CRLF, LF and CR; an empty text is one empty line. -/
def lineSequence (s : JString) : List JString :=
  (joinCrLf s).splitOnP fun c => c == lf || c == cr

/-- `lines.joinToString("\n")` -/
def joinLines (lines : List JString) : JString :=
  [lf].intercalate lines

/-- `line.split('\t', limit = 2)` -/
def splitTab (line : JString) : List JString :=
  if line.elem tab then [line.takeWhile (· != tab), (line.dropWhile (· != tab)).tail] else [line]

/-- The string can stand in a line: it has no tab, line feed or carriage return. -/
def FitsLine (s : JString) : Prop :=
  ∀ c ∈ s, c ≠ tab ∧ c ≠ lf ∧ c ≠ cr

instance (s : JString) : Decidable s.FitsLine :=
  List.decidableBAll (fun c => c ≠ tab ∧ c ≠ lf ∧ c ≠ cr) s

/-- A text without carriage returns stays as it is. -/
theorem joinCrLf_of_notMem {s : JString} (h : cr ∉ s) : joinCrLf s = s := by
  induction s using joinCrLf.induct with
  | case1 => rfl
  | case2 c => rfl
  | case3 c d s hpair _ => exact absurd (hpair.1 ▸ List.mem_cons_self) h
  | case4 c d s hpair ih =>
    rw [joinCrLf, if_neg hpair, ih fun hmem => h (List.mem_cons_of_mem c hmem)]

/-- Lines without carriage returns are joined without any. -/
theorem cr_notMem_joinLines {lines : List JString}
    (h : ∀ line ∈ lines, ∀ c ∈ line, c ≠ lf ∧ c ≠ cr) : cr ∉ joinLines lines := by
  intro hmem
  induction lines with
  | nil => cases hmem
  | cons line lines ih =>
    rw [List.forall_mem_cons] at h
    cases lines with
    | nil =>
      rw [joinLines, List.intercalate_singleton] at hmem
      exact (h.1 cr hmem).2 rfl
    | cons next lines =>
      rw [joinLines, List.intercalate_cons_cons] at hmem
      rcases List.mem_append.mp hmem with hmem | hmem
      · -- it would be in the first line or be the line feed
        rcases List.mem_append.mp hmem with hline | hlf
        · exact (h.1 cr hline).2 rfl
        · exact absurd (List.mem_singleton.mp hlf) (by decide)
      · exact ih h.2 hmem

/-- **Lines that are joined come apart again**, if there is at least one. -/
theorem lineSequence_joinLines {lines : List JString} (hne : lines ≠ [])
    (h : ∀ line ∈ lines, ∀ c ∈ line, c ≠ lf ∧ c ≠ cr) : lineSequence (joinLines lines) = lines := by
  rw [lineSequence, joinCrLf_of_notMem (cr_notMem_joinLines h)]
  induction lines with
  | nil => exact absurd rfl hne
  | cons line lines ih =>
    rw [List.forall_mem_cons] at h
    -- a line has no place at which it comes apart
    have hline : ∀ c ∈ line, (c == lf || c == cr) = false := by
      intro c hc
      simpa using h.1 c hc
    cases lines with
    | nil =>
      rw [joinLines, List.intercalate_singleton]
      exact List.splitOnP_eq_singleton hline
    | cons next lines =>
      rw [joinLines, List.intercalate_cons_cons, List.append_assoc, List.singleton_append,
        List.splitOnP_append_cons_of_forall_mem hline lf rfl]
      exact congrArg (line :: ·) (ih (List.cons_ne_nil _ _) h.2)

/-- A line of two parts, the first of which has no tab. -/
theorem splitTab_append {s t : JString} (h : tab ∉ s) : splitTab (s ++ tab :: t) = [s, t] := by
  have hne : ∀ c ∈ s, (c != tab) = true := by
    intro c hc
    rw [bne_iff_ne]
    rintro rfl
    exact h hc
  -- the first tab is the one between the two
  have htake : (s ++ tab :: t).takeWhile (· != tab) = s := by
    rw [List.takeWhile_append_of_pos hne]
    simp
  have hdrop : (s ++ tab :: t).dropWhile (· != tab) = tab :: t := by
    rw [List.dropWhile_append_of_pos hne]
    simp
  rw [splitTab, if_pos (by simp), htake, hdrop]
  rfl

end JString

/-- `require(condition) { message }` -/
def require (condition : Bool) (message : String) : Except String Unit :=
  if condition then .ok () else .error message

/-- Behind a check that has failed nothing is returned. -/
theorem require_bind_eq_ok {α : Type} {condition : Bool} {message : String}
    {next : Unit → Except String α} {result : α}
    (h : (require condition message >>= next) = .ok result) :
    condition = true ∧ next () = .ok result := by
  cases condition with
  | true => exact ⟨rfl, h⟩
  | false => cases h

/-- A checked program returns exactly what it returns behind a check that has succeeded. -/
theorem require_bind_eq_ok_iff {α : Type} {condition : Bool} {message : String}
    {next : Unit → Except String α} {result : α} :
    (require condition message >>= next) = .ok result ↔
      condition = true ∧ next () = .ok result := by
  refine ⟨require_bind_eq_ok, ?_⟩
  rintro ⟨rfl, h⟩
  exact h

/-- Literals one behind the other. -/
theorem ascii_append (s t : String) : ascii (s ++ t) = ascii s ++ ascii t := by
  simp [ascii]

/-! ## Digits -/

/-- The code unit is an ASCII digit. -/
def isDigit (c : UInt16) : Bool :=
  0x30 ≤ c && c ≤ 0x39

/-- A number in decimal consists of digits. -/
theorem isDigit_of_mem_digits {n : Nat} {c : UInt16} (h : c ∈ digits n) : isDigit c = true := by
  obtain ⟨d, hd, rfl⟩ := List.mem_map.mp h
  have hdigit : d.isDigit = true := Nat.isDigit_of_mem_toDigits (by decide) (by decide) hd
  obtain ⟨hlow, hhigh⟩ : 48 ≤ d.toNat ∧ d.toNat ≤ 57 := by
    simpa [Char.isDigit, UInt32.le_iff_toNat_le] using hdigit
  generalize d.toNat = n at hlow hhigh
  interval_cases n <;> rfl

/-- Every number has a digit. -/
theorem digits_ne_nil (n : Nat) : digits n ≠ [] := by
  simp [digits, Nat.toDigits_ne_nil]

end DarkMed.Lib
