import DarkMed.Yaml.Scanner
import Mathlib.Data.List.Chain
import Mathlib.Algebra.Order.BigOperators.Group.List

/-!
# Single-Quoted Scalars

What comes out of `scanFlowScalar` when a text with its single quotes doubled goes in.

- Nothing gets longer, and the scan ends at the closing quote.
- A text without CR and LF comes out as it is exactly when it is `Intact`: it has no
  NEL, no blank beside a line or paragraph separator, and no document indicator
  behind one.
-/

namespace DarkMed.Yaml

open DarkMed.Lib

/-- The text of a single-quoted scalar. -/
def doubled (cs : List Char) : List Char :=
  cs.flatMap fun c => if c == '\'' then ['\'', '\''] else [c]

/-! ## Pending blanks -/

/-- The state of the scan in the middle of a run of blanks and line breaks. -/
def pending (run : List Char) : Blanks :=
  run.foldl Blanks.consume {}

/-- What a run of blanks and line breaks becomes. -/
def folded (run : List Char) : List Char :=
  (pending run).join

/-- One character more is one more step of the scanner. -/
theorem pending_concat (run : List Char) (c : Char) :
    pending (run ++ [c]) = (pending run).consume c := by
  simp [pending]

/-- A run of blanks is kept; of a run with line breaks, the breaks are. -/
theorem pending_eq {run : List Char} (hrun : ∀ c ∈ run, blankOrBreak c = true) :
    ((∀ c ∈ run, isBreak c = false) → pending run = { whitespaces := run }) ∧
    ((∃ c ∈ run, isBreak c = true) → ∃ b bs, b :: bs = (run.filter isBreak).map readLine ∧
      pending run = { leadingBlanks := true, leadingBreak := [b], trailingBreaks := bs }) := by
  induction run using List.reverseRecOn with
  | nil => simp [pending]
  | append_singleton run c ih =>
    obtain ⟨hwhites, hbreaks⟩ := ih fun d hd => hrun d (by simp [hd])
    have hblank : isBreak c = false → isBlank c = true := fun hc => by
      simpa [blankOrBreak, hc] using hrun c (by simp)
    have hnotBlank : isBreak c = true → isBlank c = false := fun hc => by
      simp only [isBreak, Bool.or_eq_true, beq_iff_eq] at hc
      rcases hc with (((rfl | rfl) | rfl) | rfl) | rfl <;> rfl
    rw [pending_concat]
    refine ⟨fun hno => ?_, fun hsome => ?_⟩
    · have hc := hno c (by simp)
      rw [hwhites fun d hd => hno d (by simp [hd])]
      simp [Blanks.consume, hblank hc]
    · by_cases hrunBreak : ∃ d ∈ run, isBreak d = true
      · obtain ⟨b, bs, hmap, hpending⟩ := hbreaks hrunBreak
        rw [hpending]
        cases hc : isBreak c with
        | true =>
          refine ⟨b, bs ++ [readLine c], ?_, by simp [Blanks.consume, hnotBlank hc]⟩
          simp [List.filter_append, hc, ← hmap]
        | false =>
          exact ⟨b, bs, by simp [List.filter_append, hc, hmap], by simp [Blanks.consume, hblank hc]⟩
      · have hno : ∀ d ∈ run, isBreak d = false := by simpa using hrunBreak
        have hc : isBreak c = true := by
          obtain ⟨d, hd, hdBreak⟩ := hsome
          rcases List.mem_append.mp hd with hd | hd
          · exact absurd hdBreak (by simp [hno d hd])
          · rwa [List.mem_singleton.mp hd] at hdBreak
        have hfilter : run.filter isBreak = [] := by simpa [List.filter_eq_nil_iff] using hno
        rw [hwhites hno]
        exact ⟨readLine c, [], by simp [List.filter_append, hc, hfilter],
          by simp [Blanks.consume, hnotBlank hc]⟩

/-- Line breaks are folded into a space, lose the first of them, or are kept. -/
theorem join_breaks (b : Char) (bs : List Char) :
    let joined := Blanks.join { leadingBlanks := true, leadingBreak := [b], trailingBreaks := bs }
    joined = [' '] ∨ joined.Sublist (b :: bs) := by
  intro joined
  by_cases hb : b = '\n'
  · cases bs with
    | nil => exact .inl (by simp [joined, Blanks.join, hb])
    | cons b' bs => exact .inr (by simp [joined, Blanks.join, hb])
  · exact .inr (by simp [joined, Blanks.join, hb])

/-- A size of characters that folding a line break does not increase. -/
def BreakSize (f : Char → Nat) : Prop :=
  ∀ c, isBreak c = true → f (readLine c) ≤ f c ∧ f ' ' ≤ f c

/-- A run that is folded gets no longer, by any measure of which a line break is worth at least a
    space. -/
theorem folded_size_le {f : Char → Nat} (hf : BreakSize f) {run : List Char}
    (hrun : ∀ c ∈ run, blankOrBreak c = true) :
    ((folded run).map f).sum ≤ (run.map f).sum := by
  obtain ⟨hwhites, hbreaks⟩ := pending_eq hrun
  by_cases hsome : ∃ c ∈ run, isBreak c = true
  · obtain ⟨b, bs, hmap, hpending⟩ := hbreaks hsome
    have hfilter : ((run.filter isBreak).map f).sum ≤ (run.map f).sum :=
      (List.filter_sublist.map f).sum_le_sum fun n _ => Nat.zero_le n
    have hread : ((b :: bs).map f).sum ≤ ((run.filter isBreak).map f).sum := by
      rw [hmap, List.map_map]
      exact List.sum_le_sum fun c hc => (hf c (List.mem_filter.mp hc).2).1
    -- where a single line feed has been, there is a space now
    have hspace : f ' ' ≤ (run.map f).sum := by
      obtain ⟨c, hc, hcBreak⟩ := hsome
      exact ((hf c hcBreak).2).trans (List.single_le_sum (fun n _ => Nat.zero_le n) _
        (List.mem_map_of_mem hc))
    rw [folded, hpending]
    rcases join_breaks b bs with hjoin | hjoin
    · simpa [hjoin] using hspace
    · have hkept := (hjoin.map f).sum_le_sum fun n _ => Nat.zero_le n
      exact hkept.trans (hread.trans hfilter)
  · have hno : ∀ c ∈ run, isBreak c = false := by simpa using hsome
    simp [folded, hwhites hno, Blanks.join]

/-- A NEL does not survive folding. -/
theorem nel_notMem_folded {run : List Char} (hrun : ∀ c ∈ run, blankOrBreak c = true) :
    '\u0085' ∉ folded run := by
  obtain ⟨hwhites, hbreaks⟩ := pending_eq hrun
  by_cases hsome : ∃ c ∈ run, isBreak c = true
  · obtain ⟨b, bs, hmap, hpending⟩ := hbreaks hsome
    have hread : '\u0085' ∉ b :: bs := by
      rw [hmap]
      intro hmem
      obtain ⟨c, -, hc⟩ := List.mem_map.mp hmem
      unfold readLine at hc
      split at hc
      · next hsep => simp [hc] at hsep
      · cases hc
    rw [folded, hpending]
    rcases join_breaks b bs with hjoin | hjoin
    · simp [hjoin]
    · exact fun hmem => hread (hjoin.subset hmem)
  · have hno : ∀ c ∈ run, isBreak c = false := by simpa using hsome
    rw [folded, hwhites hno]
    exact fun hmem => by simpa [isBreak] using hno _ hmem

/-- A blank is never beside a line or paragraph separator. -/
def Apart (a b : Char) : Prop :=
  ¬ (isBlank a = true ∧ isBreak b = true) ∧ ¬ (isBreak a = true ∧ isBlank b = true)

instance : DecidableRel Apart := fun a b =>
  inferInstanceAs (Decidable (¬ (isBlank a = true ∧ isBreak b = true) ∧
    ¬ (isBreak a = true ∧ isBlank b = true)))

/-- The line breaks of a text are line and paragraph separators. -/
def Separated (cs : List Char) : Prop :=
  ∀ c ∈ cs, isBreak c = true → c = '\u2028' ∨ c = '\u2029'

/-- A run of blanks and separators without a blank beside a separator has one kind only. -/
theorem uniform_of_isChain {run : List Char} (hrun : ∀ c ∈ run, blankOrBreak c = true)
    (h : run.IsChain Apart) :
    (∀ c ∈ run, isBreak c = true) ∨ (∀ c ∈ run, isBreak c = false) := by
  induction run with
  | nil => exact .inl nofun
  | cons c run ih =>
    have hc := hrun c List.mem_cons_self
    cases run with
    | nil => cases hbreak : isBreak c <;> simp [hbreak]
    | cons d run =>
      obtain ⟨hapart, hrest⟩ := List.isChain_cons_cons.mp h
      have hd := hrun d (by simp)
      -- neighbours are of one kind
      have hsame : isBreak c = isBreak d := by
        simp only [blankOrBreak, Bool.or_eq_true] at hc hd
        obtain ⟨hleft, hright⟩ := hapart
        cases hcBreak : isBreak c <;> cases hdBreak : isBreak d <;> simp_all
      rcases ih (fun e he => hrun e (List.mem_cons_of_mem _ he)) hrest with hall | hnone
      · refine .inl fun e he => ?_
        rcases List.mem_cons.mp he with rfl | he
        · rw [hsame, hall d List.mem_cons_self]
        · exact hall e he
      · refine .inr fun e he => ?_
        rcases List.mem_cons.mp he with rfl | he
        · rw [hsame, hnone d List.mem_cons_self]
        · exact hnone e he

/-- A run of separators is folded to itself exactly if no blank is beside a separator. -/
theorem folded_eq_iff {run : List Char} (hrun : ∀ c ∈ run, blankOrBreak c = true)
    (hsep : Separated run) : folded run = run ↔ run.IsChain Apart := by
  obtain ⟨hwhites, hbreaks⟩ := pending_eq hrun
  have hnotBlank : ∀ c ∈ run, isBreak c = true → isBlank c = false := fun c hc hbreak => by
    rcases hsep c hc hbreak with rfl | rfl <;> rfl
  by_cases hsome : ∃ c ∈ run, isBreak c = true
  · -- a separator is copied as it is, and blanks beside it are dropped
    obtain ⟨b, bs, hmap, hpending⟩ := hbreaks hsome
    have hread : (run.filter isBreak).map readLine = run.filter isBreak := by
      refine (List.map_congr_left fun c hc => ?_).trans (List.map_id _)
      obtain ⟨hmem, hbreak⟩ := List.mem_filter.mp hc
      rcases hsep c hmem hbreak with rfl | rfl <;> rfl
    -- the first separator is no line feed, so it is not folded into a space
    have hb : b ≠ '\n' := by
      rintro rfl
      have hmem : '\n' ∈ run.filter isBreak := by rw [← hread, ← hmap]; exact List.mem_cons_self
      obtain ⟨hmem, hbreak⟩ := List.mem_filter.mp hmem
      rcases hsep _ hmem hbreak with h | h <;> exact absurd h (by decide)
    have hfolded : folded run = run.filter isBreak := by
      rw [folded, hpending, ← hread, ← hmap]
      simp [Blanks.join, hb]
    rw [hfolded, List.filter_eq_self]
    constructor
    · intro hall
      have hapart : ∀ c ∈ run, ∀ d ∈ run, Apart c d := fun c hc d hd =>
        ⟨fun h => absurd h.1 (by simp [hnotBlank c hc (hall c hc)]),
          fun h => absurd h.2 (by simp [hnotBlank d hd (hall d hd)])⟩
      exact (List.pairwise_of_forall_mem_list @hapart).isChain
    · intro hchain
      refine (uniform_of_isChain hrun hchain).resolve_right fun hnone => ?_
      obtain ⟨c, hc, hbreak⟩ := hsome
      exact absurd hbreak (by simp [hnone c hc])
  · have hno : ∀ c ∈ run, isBreak c = false := by simpa using hsome
    have hfolded : folded run = run := by simp [folded, hwhites hno, Blanks.join]
    have hapart : ∀ c ∈ run, ∀ d ∈ run, Apart c d := fun c hc d hd =>
      ⟨fun h => absurd h.2 (by simp [hno d hd]), fun h => absurd h.1 (by simp [hno c hc])⟩
    exact iff_of_true hfolded (List.pairwise_of_forall_mem_list @hapart).isChain

/-! ## Document indicators -/

/-- The text starts with a document indicator that a blank or a line break follows. -/
def startsIndicator (cs : List Char) : Bool :=
  (cs.take 3 == ['-', '-', '-'] || cs.take 3 == ['.', '.', '.']) &&
    (cs.drop 3).head?.any blankOrBreak

/-- No document indicator is behind a line break. -/
def indicatorFree : List Char → Bool
  | [] => true
  | c :: cs => !(isBreak c && startsIndicator cs) && indicatorFree cs

/-- One quote becomes two. -/
theorem doubled_cons (c : Char) (cs : List Char) :
    doubled (c :: cs) = (if c == '\'' then ['\'', '\''] else [c]) ++ doubled cs :=
  List.flatMap_cons

/-- Doubling the quotes, and closing the last line, neither makes nor breaks an indicator. -/
theorem documentIndicator_doubled (cs rest : List Char) :
    documentIndicator (doubled cs ++ '\'' :: rest) = startsIndicator cs := by
  have hblankz : ∀ cs, blankz (doubled cs ++ '\'' :: rest) = cs.head?.any blankOrBreak := by
    intro cs
    cases cs with
    | nil => rfl
    | cons c cs =>
      by_cases hc : c = '\''
      · subst hc
        rfl
      · simp [doubled_cons, hc, blankz, blankOrBreak]
  rcases cs with _ | ⟨a, _ | ⟨b, _ | ⟨c, cs⟩⟩⟩
  · simp [documentIndicator, startsIndicator, doubled]
  · by_cases ha : a = '\'' <;> simp [documentIndicator, startsIndicator, doubled, ha]
  · by_cases ha : a = '\'' <;> by_cases hb : b = '\'' <;>
      simp [documentIndicator, startsIndicator, doubled, ha, hb]
  · by_cases ha : a = '\'' <;> by_cases hb : b = '\'' <;> by_cases hc : c = '\'' <;>
      simp [documentIndicator, startsIndicator, doubled_cons, ha, hb, hc, hblankz]

/-- No document indicator begins with a blank or a line break. -/
theorem startsIndicator_of_blankOrBreak {c : Char} (hc : blankOrBreak c = true) (cs : List Char) :
    startsIndicator (c :: cs) = false := by
  have hdash : c ≠ '-' := by
    rintro rfl
    exact absurd hc (by decide)
  have hdot : c ≠ '.' := by
    rintro rfl
    exact absurd hc (by decide)
  simp [startsIndicator, hdash, hdot]

/-- There is none in a run of these. -/
theorem indicatorFree_run {run : List Char} (hrun : ∀ c ∈ run, blankOrBreak c = true) :
    indicatorFree run = true := by
  induction run with
  | nil => rfl
  | cons c run ih =>
    have hrest := ih fun d hd => hrun d (List.mem_cons_of_mem _ hd)
    cases run with
    | nil => simp [indicatorFree, startsIndicator]
    | cons d run =>
      have hstart := startsIndicator_of_blankOrBreak (hrun d (by simp)) run
      rw [indicatorFree, hrest, hstart]
      simp

/-- Between a run of blanks and line breaks and the character behind it, the last of the run
    decides. -/
theorem indicatorFree_append {run : List Char} (hrun : ∀ c ∈ run, blankOrBreak c = true)
    {c : Char} (hc : blankOrBreak c = false) (cs : List Char) :
    indicatorFree (run ++ c :: cs) = true ↔
      ¬ (run.getLast?.any isBreak = true ∧ startsIndicator (c :: cs) = true) ∧
        indicatorFree cs = true := by
  have hbreak : isBreak c = false := (Bool.or_eq_false_iff.mp hc).2
  induction run with
  | nil => simp [indicatorFree, hbreak]
  | cons d run ih =>
    have hrest := ih fun e he => hrun e (List.mem_cons_of_mem _ he)
    cases run with
    | nil => cases hd : isBreak d <;> simp [indicatorFree, hbreak, hd]
    | cons e run =>
      have hstart := startsIndicator_of_blankOrBreak (hrun e (by simp)) (run ++ c :: cs)
      have hskip : indicatorFree (d :: e :: run ++ c :: cs) =
          indicatorFree (e :: run ++ c :: cs) := by
        simp only [List.cons_append] at hstart ⊢
        rw [indicatorFree, hstart, Bool.and_false, Bool.not_false, Bool.true_and]
      rw [hskip, List.getLast?_cons_cons]
      exact hrest

/-! ## The scan -/

section Steps

variable {mark : Mark} {string rest : List Char} {blanks : Blanks} {c : Char}

/-- A blank or a line break is kept until it is known what comes behind it. -/
theorem scanFlowScalar_blank (hc : blankOrBreak c = true) (hcr : c ≠ '\r') :
    scanFlowScalar mark string blanks (c :: rest) =
      scanFlowScalar (mark.skipBlank c rest) string (blanks.consume c) rest := by
  have hcrlf : crlf c rest = false := by simp [crlf, hcr]
  rw [scanFlowScalar.eq_def]
  simp only [hc, hcrlf]
  rfl

/-- A document indicator at the start of a line stops the scanner. -/
theorem scanFlowScalar_indicator (hc : blankOrBreak c = false) (hcolumn : mark.column = 0)
    (hindicator : documentIndicator (c :: rest) = true) :
    scanFlowScalar mark string blanks (c :: rest) = none := by
  rw [scanFlowScalar.eq_def]
  simp [hc, hcolumn, hindicator]

/-- Two quotes are one. -/
theorem scanFlowScalar_quotes :
    scanFlowScalar mark string blanks ('\'' :: '\'' :: rest) =
      scanFlowScalar mark.skip.skip (string ++ blanks.join ++ ['\'']) {} rest := by
  simp [scanFlowScalar, blankOrBreak, isBlank, isBreak, documentIndicator]

/-- A quote by itself ends the scalar. -/
theorem scanFlowScalar_close (hrest : rest.head? ≠ some '\'') :
    scanFlowScalar mark string blanks ('\'' :: rest) =
      some (string ++ blanks.join, mark.skip, rest) := by
  cases rest with
  | nil => simp [scanFlowScalar, blankOrBreak, isBlank, isBreak, documentIndicator]
  | cons d rest =>
    have hd : d ≠ '\'' := by simpa using hrest
    simp [scanFlowScalar, blankOrBreak, isBlank, isBreak, documentIndicator, hd]

/-- Any other character is taken, with what has been kept in front of it. -/
theorem scanFlowScalar_char (hc : blankOrBreak c = false) (hquote : c ≠ '\'')
    (hindicator : ¬ (mark.column = 0 ∧ documentIndicator (c :: rest) = true)) :
    scanFlowScalar mark string blanks (c :: rest) =
      scanFlowScalar mark.skip (string ++ blanks.join ++ [c]) {} rest := by
  have hgo : (mark.column == 0 && documentIndicator (c :: rest)) = false := by
    simpa using hindicator
  rw [scanFlowScalar.eq_def]
  simp [hc, hgo, hquote]

end Steps

/-- Only behind a line break does a line start. -/
theorem column_skipBlank {mark : Mark} {c : Char} {rest : List Char} (hcr : c ≠ '\r') :
    (mark.skipBlank c rest).column = 0 ↔ isBreak c = true := by
  have hcrlf : crlf c rest = false := by simp [crlf, hcr]
  cases hc : isBreak c <;> simp [Mark.skipBlank, hc, hcrlf, Mark.skip, Mark.skipLine]

/-- A character that is no blank and no line break is copied, behind what the run before it
    becomes. -/
theorem scanFlowScalar_doubled_cons {mark : Mark} {string : List Char} {blanks : Blanks} {c : Char}
    (hc : blankOrBreak c = false) (cs rest : List Char) :
    scanFlowScalar mark string blanks (doubled (c :: cs) ++ '\'' :: rest) =
      if mark.column = 0 ∧ startsIndicator (c :: cs) = true then none
      else scanFlowScalar (if c == '\'' then mark.skip.skip else mark.skip)
        (string ++ blanks.join ++ [c]) {} (doubled cs ++ '\'' :: rest) := by
  by_cases hquote : c = '\''
  · subst hquote
    have hstart : startsIndicator ('\'' :: cs) = false := by simp [startsIndicator]
    rw [if_neg (by simp [hstart])]
    exact scanFlowScalar_quotes
  · have htext : doubled (c :: cs) ++ '\'' :: rest = c :: (doubled cs ++ '\'' :: rest) := by
      rw [doubled_cons, if_neg (by simpa using hquote)]
      rfl
    -- what the scanner looks at is the text without its doubled quotes
    have hindicator : documentIndicator (c :: (doubled cs ++ '\'' :: rest)) =
        startsIndicator (c :: cs) := by
      rw [← htext, documentIndicator_doubled]
    have hskip : (if c == '\'' then mark.skip.skip else mark.skip) = mark.skip :=
      if_neg (by simpa using hquote)
    rw [htext, hskip]
    split
    · next hstop => exact scanFlowScalar_indicator hc hstop.1 (hindicator.trans hstop.2)
    · next hgo => exact scanFlowScalar_char hc hquote (by rwa [hindicator])

/-- A blank of the text is added to the run that is pending. -/
theorem scanFlowScalar_doubled_blank {mark : Mark} {string run : List Char} {c : Char}
    (hc : blankOrBreak c = true) (hcr : c ≠ '\r') (cs rest : List Char) :
    scanFlowScalar mark string (pending run) (doubled (c :: cs) ++ '\'' :: rest) =
      scanFlowScalar (mark.skipBlank c (doubled cs ++ '\'' :: rest)) string (pending (run ++ [c]))
        (doubled cs ++ '\'' :: rest) := by
  have hquote : c ≠ '\'' := by
    rintro rfl
    exact absurd hc (by decide)
  rw [doubled_cons, if_neg (by simpa using hquote), List.singleton_append, List.cons_append,
    scanFlowScalar_blank hc hcr, ← pending_concat]

/-- The run stays one of blanks and line breaks. -/
theorem forall_mem_concat {run : List Char} (hrun : ∀ c ∈ run, blankOrBreak c = true) {c : Char}
    (hc : blankOrBreak c = true) : ∀ d ∈ run ++ [c], blankOrBreak d = true := fun d hd => by
  rcases List.mem_append.mp hd with hd | hd
  · exact hrun d hd
  · rwa [List.mem_singleton.mp hd]

/-- The value of a scalar from a text on: behind a run of blanks and line breaks that is still
    pending, and at the start of a line or not. -/
def scalarValue (lineStart : Bool) (run : List Char) : List Char → Option (List Char)
  | [] => some (folded run)
  | c :: cs =>
    if blankOrBreak c then scalarValue (isBreak c) (run ++ [c]) cs
    else if lineStart && startsIndicator (c :: cs) then none
    else (scalarValue false [] cs).map (folded run ++ c :: ·)

/-- The scan of a text with its quotes doubled gives the value, and ends at the closing quote. -/
theorem scanFlowScalar_doubled {mark : Mark} {string run cs rest : List Char}
    (hcr : '\r' ∉ cs) (hrest : rest.head? ≠ some '\'') :
    match scalarValue (mark.column == 0) run cs with
    | none =>
      scanFlowScalar mark string (pending run) (doubled cs ++ '\'' :: rest) = none
    | some value => ∃ m, 0 < m.column ∧
      scanFlowScalar mark string (pending run) (doubled cs ++ '\'' :: rest) =
        some (string ++ value, m, rest) := by
  -- over the text, with the run that is pending and the text before it as they come
  induction cs generalizing mark string run with
  | nil =>
    refine ⟨mark.skip, Nat.succ_pos _, ?_⟩
    rw [doubled, List.flatMap_nil, List.nil_append, scanFlowScalar_close hrest]
    rfl
  | cons c cs ih =>
    have hcne : c ≠ '\r' := fun hc => hcr (hc ▸ List.mem_cons_self)
    have hcr' : '\r' ∉ cs := fun hmem => hcr (List.mem_cons_of_mem _ hmem)
    cases hc : blankOrBreak c with
    | true =>
      have hih := @ih (mark.skipBlank c (doubled cs ++ '\'' :: rest)) string (run ++ [c]) hcr'
      have hlineStart :
          ((mark.skipBlank c (doubled cs ++ '\'' :: rest)).column == 0) = isBreak c := by
        rw [Bool.eq_iff_iff, beq_iff_eq]
        exact column_skipBlank hcne
      rw [scalarValue, if_pos hc, scanFlowScalar_doubled_blank hc hcne]
      rwa [hlineStart] at hih
    | false =>
      rw [scalarValue, if_neg (by simp [hc]), scanFlowScalar_doubled_cons hc]
      by_cases hstop : mark.column = 0 ∧ startsIndicator (c :: cs) = true
      · rw [if_pos (by simpa using hstop), if_pos hstop]
      · rw [if_neg (by simpa using hstop), if_neg hstop]
        have hih := @ih (if c == '\'' then mark.skip.skip else mark.skip)
          (string ++ (pending run).join ++ [c]) [] hcr'
        -- behind a character no line starts, whether the character took one place or two
        have hcolumn : ((if c == '\'' then mark.skip.skip else mark.skip).column == 0) = false := by
          split <;> rfl
        rw [hcolumn] at hih
        cases hvalue : scalarValue false [] cs with
        | none => simpa [hvalue, pending] using hih
        | some value =>
          rw [hvalue] at hih
          obtain ⟨m, hm, hscan⟩ := hih
          refine ⟨m, hm, hscan.trans ?_⟩
          simp [folded]

/-! ## Values -/

/-- A value has no NEL, and is no larger than its text. -/
theorem scalarValue_size {lineStart : Bool} {run cs value : List Char}
    (hrun : ∀ c ∈ run, blankOrBreak c = true) (h : scalarValue lineStart run cs = some value) :
    '\u0085' ∉ value ∧
      ∀ f, BreakSize f → (value.map f).sum ≤ (run.map f).sum + (cs.map f).sum := by
  induction cs generalizing lineStart run value with
  | nil =>
    cases h
    exact ⟨nel_notMem_folded hrun, fun f hf => by simpa using folded_size_le hf hrun⟩
  | cons c cs ih =>
    rw [scalarValue] at h
    cases hc : blankOrBreak c with
    | true =>
      rw [if_pos hc] at h
      obtain ⟨hnel, hsize⟩ := ih (forall_mem_concat hrun hc) h
      refine ⟨hnel, fun f hf => ?_⟩
      have hle := hsize f hf
      simp only [List.map_append, List.sum_append, List.map_cons, List.map_nil, List.sum_cons,
        List.sum_nil] at hle ⊢
      omega
    | false =>
      rw [if_neg (by simp [hc])] at h
      split at h
      · cases h
      · obtain ⟨value', hvalue', rfl⟩ := Option.map_eq_some_iff.mp h
        obtain ⟨hnel, hsize⟩ := @ih false [] value' nofun hvalue'
        -- a NEL is a line break
        have hcnel : '\u0085' ≠ c := by
          rintro rfl
          exact absurd hc (by decide)
        refine ⟨?_, fun f hf => ?_⟩
        · simp only [List.mem_append, List.mem_cons, not_or]
          exact ⟨nel_notMem_folded hrun, hcnel, hnel⟩
        · have hle := hsize f hf
          have hfolded := folded_size_le hf hrun
          simp only [List.map_append, List.sum_append, List.map_cons, List.map_nil, List.sum_cons,
            List.sum_nil] at hle ⊢
          omega

/-! ## Sizes -/

/-- The number of characters is such a measure. -/
theorem breakSize_one : BreakSize fun _ => 1 :=
  fun _ _ => ⟨Nat.le_refl _, Nat.le_refl _⟩

/-- So is the number of bytes. -/
theorem breakSize_utf8 : BreakSize fun c => (String.utf8EncodeChar c).length := by
  intro c hc
  simp only [isBreak, Bool.or_eq_true, beq_iff_eq] at hc
  rcases hc with (((rfl | rfl) | rfl) | rfl) | rfl <;> decide

/-- A value is no longer than its text. -/
theorem length_le_of_size {v run cs : List Char}
    (h : ∀ f, BreakSize f → (v.map f).sum ≤ (run.map f).sum + (cs.map f).sum) :
    v.length ≤ run.length + cs.length := by
  simpa using h _ breakSize_one

/-- Between a run of blanks and separators and the rest of the text: the text is its own value
    when the run is kept, and nothing behind it is an indicator. -/
theorem scalarValue_eq_some_iff {lineStart : Bool} {run cs : List Char}
    (hrun : ∀ c ∈ run, blankOrBreak c = true) (hsep : Separated (run ++ cs))
    (hlineStart : lineStart = run.getLast?.any isBreak) :
    scalarValue lineStart run cs = some (run ++ cs) ↔
      (run ++ cs).IsChain Apart ∧ indicatorFree (run ++ cs) = true := by
  induction cs generalizing lineStart run with
  | nil =>
    rw [List.append_nil] at hsep ⊢
    rw [scalarValue, Option.some.injEq, folded_eq_iff hrun hsep, indicatorFree_run hrun]
    simp
  | cons c cs ih =>
    cases hc : blankOrBreak c with
    | true =>
      have htext : run ++ c :: cs = (run ++ [c]) ++ cs := by simp
      rw [htext] at hsep ⊢
      rw [scalarValue, if_pos hc]
      exact ih (forall_mem_concat hrun hc) hsep (by simp)
    | false =>
      -- a character that is no blank and no break splits the text into two independent parts
      have hapart : ∀ d, Apart c d ∧ Apart d c := fun d => by
        obtain ⟨hblank, hbreak⟩ := Bool.or_eq_false_iff.mp hc
        simp [Apart, hblank, hbreak]
      have hchain : (run ++ c :: cs).IsChain Apart ↔ run.IsChain Apart ∧ cs.IsChain Apart := by
        rw [List.isChain_append, List.isChain_cons]
        simp [hapart]
      have hsepRun : Separated run := fun d hd => hsep d (List.mem_append_left _ hd)
      have hsepRest : Separated ([] ++ cs) := fun d hd => hsep d (by simp_all)
      rw [scalarValue, if_neg (by simp [hc]), hchain, indicatorFree_append hrun hc, ← hlineStart]
      by_cases hstop : lineStart = true ∧ startsIndicator (c :: cs) = true
      · rw [if_pos (by simpa using hstop)]
        simp [hstop]
      · rw [if_neg (by simpa using hstop), ← folded_eq_iff hrun hsepRun]
        have hih := @ih false [] nofun hsepRest rfl
        constructor
        · intro hvalue
          -- neither the run nor the rest gets longer, so each of them is kept
          obtain ⟨value, hrest, heq⟩ := Option.map_eq_some_iff.mp hvalue
          have hlength := congrArg List.length heq
          have hvalueLength := length_le_of_size (scalarValue_size (List.forall_mem_nil _) hrest).2
          have hfoldedLength : (folded run).length ≤ run.length := by
            simpa using folded_size_le breakSize_one hrun
          simp only [List.length_append, List.length_cons, List.length_nil] at hlength hvalueLength
          obtain ⟨hkept, hcons⟩ := List.append_inj heq (by omega)
          obtain ⟨-, rfl⟩ := List.cons.inj hcons
          obtain ⟨hchainRest, hfree⟩ := hih.mp hrest
          exact ⟨⟨hkept, hchainRest⟩, hstop, hfree⟩
        · rintro ⟨⟨hkept, hchainRest⟩, -, hfree⟩
          rw [hih.mpr ⟨hchainRest, hfree⟩, hkept]
          rfl

/-- A text that a single-quoted scalar can hold. -/
structure Intact (cs : List Char) : Prop where
  nel : '\u0085' ∉ cs
  apart : cs.IsChain Apart
  indicators : indicatorFree cs = true

/-- The value of a single-quoted scalar. -/
def quotedValue (cs : List Char) : Option (List Char) :=
  scalarValue false [] cs

/-- Nor has it more bytes. -/
theorem utf8_quotedValue_le {cs value : List Char} (h : quotedValue cs = some value) :
    (utf8 value).length ≤ (utf8 cs).length := by
  have hsize := (scalarValue_size (List.forall_mem_nil _) h).2 _ breakSize_utf8
  simpa [utf8, List.length_flatMap] using hsize

/-- **A text on one line is the value of its scalar exactly when** it is intact. -/
theorem quotedValue_eq_some_iff {cs : List Char} (hlf : '\n' ∉ cs) (hcr : '\r' ∉ cs) :
    quotedValue cs = some cs ↔ Intact cs := by
  have hsep : '\u0085' ∉ cs → Separated cs := fun hnel c hc hbreak => by
    simp only [isBreak, Bool.or_eq_true, beq_iff_eq] at hbreak
    rcases hbreak with (((rfl | rfl) | rfl) | hls) | hps
    · exact absurd hc hcr
    · exact absurd hc hlf
    · exact absurd hc hnel
    · exact .inl hls
    · exact .inr hps
  have hiff := fun hnel => @scalarValue_eq_some_iff false [] cs nofun (hsep hnel) rfl
  constructor
  · intro hvalue
    -- a value has no NEL, so a text that is its own value has none either
    have hnel := (scalarValue_size (List.forall_mem_nil _) hvalue).1
    obtain ⟨hapart, hindicators⟩ := (hiff hnel).mp hvalue
    exact ⟨hnel, hapart, hindicators⟩
  · rintro ⟨hnel, hapart, hindicators⟩
    exact (hiff hnel).mpr ⟨hapart, hindicators⟩

end DarkMed.Yaml
