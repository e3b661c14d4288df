import DarkMed.Lib.Kotlin
import Mathlib.Data.List.Infix

/-!
# Reading a torrc

What is assumed of Tor's reader.  The text stops at a NUL; a line whose last
character is a backslash continues on the next line; `#` starts a comment outside
quotes; a logical line is one option, a keyword and a value behind a blank.  What
becomes of the blanks around a value is left open: it is a parameter.

The main result is about texts with one `keyword value` line for each option: the
reader gives the options back exactly when each value reads back by itself.
-/

namespace DarkMed.Torrc

open DarkMed.Lib

/-- An option: a keyword and its value. -/
abbrev Directive := JString × JString

def newline : UInt16 := 0x0A
def space : UInt16 := 0x20
def quote : UInt16 := 0x22
def hash : UInt16 := 0x23
def backslash : UInt16 := 0x5C

/-! ## The reader -/

/-- The text up to the first NUL. -/
def cutAtNul (text : JString) : JString :=
  text.takeWhile (· != 0)

/-- The lines of a text; the last one may lack its newline. -/
def physicalLines : JString → List JString
  | [] => []
  | c :: text =>
    if c = newline then [] :: physicalLines text
    else
      match physicalLines text with
      | [] => [[c]]
      | line :: lines => (c :: line) :: lines

/-- The line without its comment. -/
def stripComment (inQuotes : Bool) : JString → JString
  | [] => []
  | c :: line =>
    if c = hash && !inQuotes then []
    else c :: stripComment (if c = quote then !inQuotes else inQuotes) line

/-- The option of a logical line, if it has one. -/
def readOption (trim : JString → JString) (line : JString) : List Directive :=
  match stripComment false line with
  | [] => []
  | text => [(text.takeWhile (· != space), trim (text.dropWhile (· != space)).tail)]

/-- The options of the lines, with the part of a continued line that was read before them. -/
def readLines (trim : JString → JString) (continued : JString) : List JString → List Directive
  | [] => readOption trim continued
  | line :: lines =>
    let whole := continued ++ line
    if whole.getLast? = some backslash then readLines trim whole.dropLast lines
    else readOption trim whole ++ readLines trim [] lines

/-- The options of a torrc. -/
def readTorrc (trim : JString → JString) (text : JString) : List Directive :=
  readLines trim [] (physicalLines (cutAtNul text))

/-- What is known of the reader's handling of the blanks around a value: it takes characters away
    at the ends only, and none from a value without blanks there. -/
structure TrimsEnds (trim : JString → JString) : Prop where
  infix_ : ∀ v, trim v <:+: v
  keeps : ∀ v : JString, (∀ c ∈ v.head?, c ≠ space ∧ c ≠ 0x09) →
    (∀ c ∈ v.getLast?, c ≠ space ∧ c ≠ 0x09) → trim v = v

/-! ## Values that read back -/

/-- A `#` outside quotes. -/
def opensComment (inQuotes : Bool) : JString → Bool
  | [] => false
  | c :: line =>
    (c = hash && !inQuotes) || opensComment (if c = quote then !inQuotes else inQuotes) line

/-- The value comes through the reader as it is. -/
structure ReadsBack (trim : JString → JString) (v : JString) : Prop where
  nul : (0 : UInt16) ∉ v
  continuation : v.getLast? ≠ some backslash
  comment : opensComment false v = false
  trim : trim v = v

/-- The value of a line by itself, the last one of the text. -/
def readValue (trim : JString → JString) (v : JString) : JString :=
  trim (stripComment false (if v.getLast? = some backslash then v.dropLast else v))

/-- A comment that goes makes a line no longer. -/
theorem stripComment_length_le (inQuotes : Bool) (line : JString) :
    (stripComment inQuotes line).length ≤ line.length := by
  induction line generalizing inQuotes with
  | nil => exact Nat.le_refl _
  | cons c line ih =>
    simp only [stripComment]
    split
    · exact Nat.zero_le _
    · exact Nat.succ_le_succ (ih _)

/-- A line in which no comment opens stays as it is. -/
theorem stripComment_of_not_opensComment {inQuotes : Bool} {line : JString}
    (h : opensComment inQuotes line = false) : stripComment inQuotes line = line := by
  induction line generalizing inQuotes with
  | nil => rfl
  | cons c line ih =>
    obtain ⟨hhash, hrest⟩ := Bool.or_eq_false_iff.mp h
    simp only [stripComment, hhash, Bool.false_eq_true, if_false, ih hrest]

/-- A comment that opens takes at least its `#` away. -/
theorem stripComment_length_lt {inQuotes : Bool} {line : JString}
    (h : opensComment inQuotes line = true) :
    (stripComment inQuotes line).length < line.length := by
  induction line generalizing inQuotes with
  | nil => cases h
  | cons c line ih =>
    simp only [stripComment]
    split
    · exact Nat.succ_pos _
    · -- the comment opens farther behind
      next hhash =>
      have hrest : opensComment (if c = quote then !inQuotes else inQuotes) line = true := by
        simpa [opensComment, hhash] using h
      exact Nat.succ_lt_succ (ih hrest)

section Trim

variable {trim : JString → JString}

/-- A value never gets longer on its way through the reader. -/
theorem readValue_length_le (ht : TrimsEnds trim) (v : JString) :
    (readValue trim v).length ≤ v.length := by
  calc (readValue trim v).length
      ≤ (stripComment false (if v.getLast? = some backslash then v.dropLast else v)).length :=
        (ht.infix_ _).length_le
    _ ≤ (if v.getLast? = some backslash then v.dropLast else v).length :=
        stripComment_length_le _ _
    _ ≤ v.length := by
        split
        · exact (List.dropLast_prefix v).length_le
        · exact Nat.le_refl _

/-- A value that reads back by itself has lost nothing on the way. -/
theorem readsBack_of_readValue_eq (ht : TrimsEnds trim) {v : JString} (hnul : (0 : UInt16) ∉ v)
    (h : readValue trim v = v) : ReadsBack trim v := by
  have hlength : v.length ≤
      (stripComment false (if v.getLast? = some backslash then v.dropLast else v)).length := by
    calc v.length = (readValue trim v).length := by rw [h]
      _ ≤ _ := (ht.infix_ _).length_le
  have hcontinuation : v.getLast? ≠ some backslash := by
    intro hlast
    -- the backslash would be missing in what was read
    rw [if_pos hlast] at hlength
    have hne : v ≠ [] := by
      rintro rfl
      cases hlast
    have hpos : 0 < v.length := List.length_pos_iff.mpr hne
    have hle := hlength.trans (stripComment_length_le _ _)
    rw [List.length_dropLast] at hle
    omega
  rw [if_neg hcontinuation] at hlength
  -- a comment that opens would be missing too
  have hcomment : opensComment false v = false := by
    by_contra hopens
    exact absurd hlength (Nat.not_le.mpr (stripComment_length_lt (by simpa using hopens)))
  refine ⟨hnul, hcontinuation, hcomment, ?_⟩
  rwa [readValue, if_neg hcontinuation, stripComment_of_not_opensComment hcomment] at h

/-! ## Lines -/

/-- A keyword without a character that the reader treats specially. -/
structure Keyword (k : JString) : Prop where
  nonempty : k ≠ []
  plain : ∀ c ∈ k, c ≠ 0 ∧ c ≠ newline ∧ c ≠ space ∧ c ≠ quote ∧ c ≠ hash

/-- `Keyword` as a check. -/
def isKeyword (k : JString) : Bool :=
  !k.isEmpty && k.all fun c => c != 0 && c != newline && c != space && c != quote && c != hash

theorem keyword_of_isKeyword {k : JString} (h : isKeyword k = true) : Keyword k := by
  simp only [isKeyword, Bool.and_eq_true, Bool.not_eq_true', List.isEmpty_eq_false_iff,
    List.all_eq_true, bne_iff_ne, and_assoc] at h
  exact ⟨h.1, h.2⟩

/-- The line of an option. -/
def line (o : Directive) : JString :=
  o.1 ++ space :: o.2

theorem getLast?_line (o : Directive) : (line o).getLast? = some (o.2.getLast?.getD space) := by
  simp [line, List.getLast?_append, List.getLast?_cons]

/-- A line continues exactly when its value ends in a backslash: the blank in front of an empty
    value is none. -/
theorem line_ends_iff (o : Directive) :
    (line o).getLast? = some backslash ↔ o.2.getLast? = some backslash := by
  rw [getLast?_line]
  cases o.2.getLast? with
  | none => simp [space, backslash]
  | some c => simp

theorem dropLast_line {o : Directive} (h : o.2 ≠ []) :
    (line o).dropLast = line (o.1, o.2.dropLast) := by
  simp [line, List.dropLast_append_of_ne_nil, List.dropLast_cons_of_ne_nil h]

/-- A keyword without quotes and `#` neither opens a comment nor changes how the rest is read. -/
theorem stripComment_keyword {k : JString} (hk : ∀ c ∈ k, c ≠ quote ∧ c ≠ hash) (v : JString) :
    stripComment false (k ++ v) = k ++ stripComment false v := by
  induction k with
  | nil => rfl
  | cons c k ih =>
    obtain ⟨hquote, hhash⟩ := hk c List.mem_cons_self
    have hrest := ih fun d hd => hk d (List.mem_cons_of_mem _ hd)
    simp [stripComment, hquote, hhash, hrest]

/-- The line of an option gives its keyword back, and its value without comment and blanks. -/
theorem readOption_line {o : Directive} (hk : Keyword o.1) :
    readOption trim (line o) = [(o.1, trim (stripComment false o.2))] := by
  have hstrip : stripComment false (line o) = o.1 ++ space :: stripComment false o.2 := by
    rw [line, stripComment_keyword fun c hc => ⟨(hk.plain c hc).2.2.2.1, (hk.plain c hc).2.2.2.2⟩]
    rfl
  -- so the first blank of the line is the one behind the keyword
  have hnospace : ∀ c ∈ o.1, (c != space) = true := fun c hc => by simp [(hk.plain c hc).2.2.1]
  have htake : (o.1 ++ space :: stripComment false o.2).takeWhile (· != space) = o.1 := by
    rw [List.takeWhile_append_of_pos hnospace]
    simp
  have hdrop : (o.1 ++ space :: stripComment false o.2).dropWhile (· != space) =
      space :: stripComment false o.2 := by
    rw [List.dropWhile_append_of_pos hnospace]
    simp
  simp only [readOption, hstrip]
  split
  · next hnil => simp at hnil
  · rw [htake, hdrop, List.tail_cons]

theorem readOption_length_le (l : JString) : (readOption trim l).length ≤ 1 := by
  unfold readOption
  split <;> simp

/-- A continued line and the one it continues on are one option at most. -/
theorem readLines_length_le (continued : JString) {ls : List JString} (hne : ls ≠ []) :
    (readLines trim continued ls).length ≤ ls.length := by
  induction ls generalizing continued with
  | nil => exact absurd rfl hne
  | cons l ls ih =>
    simp only [readLines]
    cases ls with
    | nil =>
      split
      · exact readOption_length_le _
      · simpa [readLines, readOption, stripComment] using readOption_length_le (continued ++ l)
    | cons next ls =>
      split
      · -- a continued line is no option of its own
        exact (ih _ (List.cons_ne_nil _ _)).trans (Nat.le_succ _)
      · have hone : (readOption trim (continued ++ l)).length ≤ 1 := readOption_length_le _
        have hrest := ih [] (List.cons_ne_nil _ _)
        simp only [List.length_append, List.length_cons] at hrest ⊢
        omega

/-- When no line is lost, none but the last continues, and every value is read by itself. -/
theorem readLines_of_length {os : List Directive} (hk : ∀ o ∈ os, Keyword o.1)
    (h : (readLines trim [] (os.map line)).length = os.length) :
    readLines trim [] (os.map line) = os.map fun o => (o.1, readValue trim o.2) := by
  induction os with
  | nil => rfl
  | cons o os ih =>
    have ho := hk o List.mem_cons_self
    simp only [List.map_cons, readLines, List.nil_append, line_ends_iff] at h ⊢
    by_cases hlast : o.2.getLast? = some backslash
    · rw [if_pos hlast] at h ⊢
      -- only the last line may continue, as nothing follows it
      cases os with
      | nil =>
        have hne : o.2 ≠ [] := by
          intro hnil
          simp [hnil] at hlast
        rw [dropLast_line hne]
        simp only [List.map_nil, readLines, readOption_line (o := (o.1, o.2.dropLast)) ho, readValue,
          if_pos hlast]
      | cons next os =>
        -- two lines became one
        have hne : (next :: os).map line ≠ [] := List.cons_ne_nil _ _
        have hle : (readLines trim (line o).dropLast ((next :: os).map line)).length ≤
            ((next :: os).map line).length := readLines_length_le _ hne
        simp only [List.length_cons, List.length_map] at h hle
        omega
    · rw [if_neg hlast, readOption_line ho] at h ⊢
      have hvalue : readValue trim o.2 = trim (stripComment false o.2) := by
        rw [readValue, if_neg hlast]
      rw [ih (fun p hp => hk p (List.mem_cons_of_mem _ hp)) (by simpa using h), hvalue,
        List.singleton_append]

/-- Lines whose values all read back give their options back. -/
theorem readLines_of_readsBack {os : List Directive} (hk : ∀ o ∈ os, Keyword o.1)
    (h : ∀ o ∈ os, ReadsBack trim o.2) : readLines trim [] (os.map line) = os := by
  induction os with
  | nil => rfl
  | cons o os ih =>
    have hback := h o List.mem_cons_self
    -- each line is one option, the one that it was written for
    have hread : readOption trim (line o) = [o] := by
      rw [readOption_line (hk o List.mem_cons_self),
        stripComment_of_not_opensComment hback.comment, hback.trim]
    simp only [List.map_cons, readLines, List.nil_append, line_ends_iff]
    rw [if_neg hback.continuation, hread, ih (fun p hp => hk p (List.mem_cons_of_mem _ hp))
      fun p hp => h p (List.mem_cons_of_mem _ hp), List.singleton_append]

/-! ## Texts -/

/-- One line for each option. -/
def renderOptions (os : List Directive) : JString :=
  os.flatMap fun o => line o ++ [newline]

/-- A line ends at its newline, and what follows is read for itself. -/
theorem physicalLines_append {l : JString} (hl : newline ∉ l) (text : JString) :
    physicalLines (l ++ newline :: text) = l :: physicalLines text := by
  induction l with
  | nil => simp [physicalLines]
  | cons c l ih =>
    have hc : c ≠ newline := fun heq => hl (heq ▸ List.mem_cons_self)
    have hrest := ih fun hmem => hl (List.mem_cons_of_mem _ hmem)
    simp [physicalLines, hc, hrest]

/-- A last line needs no newline. -/
theorem physicalLines_of_notMem {l : JString} (hl : newline ∉ l) (hne : l ≠ []) :
    physicalLines l = [l] := by
  induction l with
  | nil => exact absurd rfl hne
  | cons c l ih =>
    have hc : c ≠ newline := fun heq => hl (heq ▸ List.mem_cons_self)
    by_cases hnil : l = []
    · simp [physicalLines, hc, hnil]
    · have hrest := ih (fun hmem => hl (List.mem_cons_of_mem _ hmem)) hnil
      simp [physicalLines, hc, hrest]

/-- What the NUL leaves: the options before it, and the value that it cuts. -/
def cutOptions : List Directive → List Directive
  | [] => []
  | o :: os => if 0 ∈ o.2 then [(o.1, cutAtNul o.2)] else o :: cutOptions os

theorem newline_notMem_line {o : Directive} (hk : Keyword o.1) (hv : newline ∉ o.2) :
    newline ∉ line o := by
  simp only [line, List.mem_append, List.mem_cons, not_or]
  exact ⟨fun hmem => (hk.plain _ hmem).2.1 rfl, by decide, hv⟩

/-- A NUL behind a text without one is a NUL of what follows. -/
theorem cutAtNul_append {l : JString} (hl : (0 : UInt16) ∉ l) (text : JString) :
    cutAtNul (l ++ text) = l ++ cutAtNul text :=
  List.takeWhile_append_of_pos fun c hc => by
    simpa using fun heq : c = 0 => hl (heq ▸ hc)

/-- Behind the first NUL nothing counts. -/
theorem cutAtNul_append_of_mem {l : JString} (hl : (0 : UInt16) ∈ l) (text : JString) :
    cutAtNul (l ++ text) = cutAtNul l := by
  induction l with
  | nil => cases hl
  | cons c l ih =>
    by_cases hc : c = 0
    · simp [cutAtNul, hc]
    · have hrest := ih ((List.mem_cons.mp hl).resolve_left (Ne.symm hc))
      simpa [cutAtNul, hc] using hrest

/-- A NUL takes at least itself away. -/
theorem cutAtNul_length_lt {l : JString} (hl : (0 : UInt16) ∈ l) :
    (cutAtNul l).length < l.length := by
  induction l with
  | nil => cases hl
  | cons c l ih =>
    by_cases hc : c = 0
    · simp [cutAtNul, hc]
    · have hrest := ih ((List.mem_cons.mp hl).resolve_left (Ne.symm hc))
      simpa [cutAtNul, hc] using hrest

/-- **The lines that a NUL leaves**: those of the options before it, and the front of the one that
    it is in. -/
theorem physicalLines_cut {os : List Directive} (hk : ∀ o ∈ os, Keyword o.1)
    (hv : ∀ o ∈ os, newline ∉ o.2) :
    physicalLines (cutAtNul (renderOptions os)) = (cutOptions os).map line := by
  induction os with
  | nil => rfl
  | cons o os ih =>
    have ho := hk o List.mem_cons_self
    have hvalue := hv o List.mem_cons_self
    have hrest := ih (fun p hp => hk p (List.mem_cons_of_mem _ hp))
      fun p hp => hv p (List.mem_cons_of_mem _ hp)
    -- the keyword and its blank have no NUL, so it is in the value or behind the line
    have hkey : (0 : UInt16) ∉ o.1 ++ [space] := by
      simp only [List.mem_append, List.mem_singleton, not_or]
      exact ⟨fun hmem => (ho.plain _ hmem).1 rfl, by decide⟩
    have htext : renderOptions (o :: os) =
        (o.1 ++ [space]) ++ (o.2 ++ newline :: renderOptions os) := by
      simp [renderOptions, line]
    rw [htext, cutAtNul_append hkey, cutOptions]
    -- a NUL in this value ends the text here
    by_cases hnul : (0 : UInt16) ∈ o.2
    · rw [cutAtNul_append_of_mem hnul, if_pos hnul]
      have hcut : newline ∉ cutAtNul o.2 := fun hmem =>
        hvalue ((List.takeWhile_prefix _).subset hmem)
      have hlines := physicalLines_of_notMem
        (newline_notMem_line (o := (o.1, cutAtNul o.2)) ho hcut) (by simp [line])
      simpa [line] using hlines
    · -- otherwise the whole line is left, and the rest is cut
      have hend : (0 : UInt16) ∉ [newline] := by decide
      have hsplit : o.2 ++ newline :: renderOptions os =
          o.2 ++ ([newline] ++ renderOptions os) := rfl
      rw [hsplit, cutAtNul_append hnul, cutAtNul_append hend, if_neg hnul, List.map_cons, ← hrest]
      have hlines := physicalLines_append (newline_notMem_line ho hvalue)
        (cutAtNul (renderOptions os))
      simpa [line] using hlines

/-- A NUL only ever takes options away. -/
theorem cutOptions_length_le (os : List Directive) : (cutOptions os).length ≤ os.length := by
  induction os with
  | nil => exact Nat.le_refl _
  | cons o os ih =>
    rw [cutOptions]
    split
    · simp
    · simpa using ih

/-- The keywords of what is left are keywords. -/
theorem keyword_of_mem_cutOptions {os : List Directive} (hk : ∀ o ∈ os, Keyword o.1) :
    ∀ o ∈ cutOptions os, Keyword o.1 := by
  induction os with
  | nil => nofun
  | cons o os ih =>
    have hrest := ih fun p hp => hk p (List.mem_cons_of_mem _ hp)
    rw [cutOptions]
    split
    · simpa using hk o List.mem_cons_self
    · intro p hp
      rcases List.mem_cons.mp hp with rfl | hp
      · exact hk p List.mem_cons_self
      · exact hrest p hp

/-- Without a NUL every option is left. -/
theorem cutOptions_of_no_nul {os : List Directive} (h : ∀ o ∈ os, (0 : UInt16) ∉ o.2) :
    cutOptions os = os := by
  induction os with
  | nil => rfl
  | cons o os ih =>
    rw [cutOptions, if_neg (h o List.mem_cons_self),
      ih fun p hp => h p (List.mem_cons_of_mem _ hp)]

/-- A text that reads back has no NUL, and each of its values reads back by itself. -/
theorem readsBack_of_cutOptions_eq (ht : TrimsEnds trim) {os : List Directive}
    (h : (cutOptions os).map (fun o => (o.1, readValue trim o.2)) = os) :
    ∀ o ∈ os, ReadsBack trim o.2 := by
  induction os with
  | nil => nofun
  | cons o os ih =>
    rw [cutOptions] at h
    split at h
    · next hnul =>
      -- the value that the NUL has cut is too short
      have hvalue : readValue trim (cutAtNul o.2) = o.2 := by
        have hhead := (List.cons.inj h).1
        exact (Prod.mk.inj hhead).2
      have hle := readValue_length_le ht (cutAtNul o.2)
      rw [hvalue] at hle
      exact absurd (cutAtNul_length_lt hnul) (Nat.not_lt.mpr hle)
    · next hnul =>
      obtain ⟨hhead, htail⟩ := List.cons.inj h
      intro p hp
      rcases List.mem_cons.mp hp with rfl | hp
      · exact readsBack_of_readValue_eq ht hnul (Prod.mk.inj hhead).2
      · exact ih htail p hp

/-- **A text of one line for each option reads back exactly when** each value reads back by
    itself: without a NUL, a backslash at its end, a `#` outside quotes, or blanks that the
    reader takes away. -/
theorem readTorrc_renderOptions_iff (ht : TrimsEnds trim) {os : List Directive}
    (hk : ∀ o ∈ os, Keyword o.1) (hv : ∀ o ∈ os, newline ∉ o.2) :
    readTorrc trim (renderOptions os) = os ↔ ∀ o ∈ os, ReadsBack trim o.2 := by
  rw [readTorrc, physicalLines_cut hk hv]
  constructor
  · intro h
    -- first the number of options, then the options
    have hcut := keyword_of_mem_cutOptions hk
    have hlength : (readLines trim [] ((cutOptions os).map line)).length =
        (cutOptions os).length := by
      -- lines are only ever joined, and here as many options come out as went in
      apply Nat.le_antisymm
      · cases hos : cutOptions os with
        | nil => exact Nat.le_refl _
        | cons o os =>
          have hne : (o :: os).map line ≠ [] := List.cons_ne_nil _ _
          simpa only [List.length_map] using @readLines_length_le trim [] _ hne
      · rw [h]
        exact cutOptions_length_le os
    rw [readLines_of_length hcut hlength] at h
    exact readsBack_of_cutOptions_eq ht h
  · intro h
    rw [cutOptions_of_no_nul fun o ho => (h o ho).nul]
    exact readLines_of_readsBack hk h

end Trim

/-! ## A handling of blanks -/

def isBlank (c : UInt16) : Bool :=
  c == space || c == 0x09

/-- The value without the spaces and tabs around it. -/
def stripBlanks (v : JString) : JString :=
  ((v.dropWhile isBlank).reverse.dropWhile isBlank).reverse

theorem dropWhile_isBlank_of_head? {v : JString} (h : ∀ c ∈ v.head?, c ≠ space ∧ c ≠ 0x09) :
    v.dropWhile isBlank = v := by
  cases v with
  | nil => rfl
  | cons c v =>
    obtain ⟨hspace, htab⟩ := h c rfl
    simp [isBlank, hspace, htab]

/-- Taking spaces and tabs away at both ends is such a handling of blanks. -/
theorem trimsEnds_stripBlanks : TrimsEnds stripBlanks where
  infix_ := fun v => by
    -- what is taken away at the end is a front of the reversed value
    have hsuffix : (v.dropWhile isBlank).reverse.dropWhile isBlank <:+
        (v.dropWhile isBlank).reverse := List.dropWhile_suffix _
    have hprefix : stripBlanks v <+: v.dropWhile isBlank := by
      simpa [stripBlanks] using List.reverse_prefix.mpr hsuffix
    exact hprefix.isInfix.trans (List.dropWhile_suffix _).isInfix
  keeps := fun v hhead hlast => by
    have hreverse : v.reverse.dropWhile isBlank = v.reverse :=
      dropWhile_isBlank_of_head? (by simpa using hlast)
    rw [stripBlanks, dropWhile_isBlank_of_head? hhead, hreverse, List.reverse_reverse]

end DarkMed.Torrc
