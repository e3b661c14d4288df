import Mathlib.Data.List.Infix
import Mathlib.Order.Notation

/-!
# Runs of Partial Step Functions

A system is a partial step function `step : σ → α → Option σ`: `none` says that
the action is not enabled in the state.  This module fixes what a run is, what it
means for every step of a run to meet a condition, and the induction principles
that turn a statement about one step into a statement about a whole run.

Nothing here names a particular system.
-/

namespace DarkMed.Lib.Transition

variable {σ α : Type*}

/-! ## Runs -/

/-- The state after the actions `as`, or `none` when one of them is not enabled. -/
def run (step : σ → α → Option σ) : σ → List α → Option σ
  | s, [] => some s
  | s, a :: as => (step s a).bind fun t => run step t as

/-- Every action of `as` meets `ok` in the state in which it is taken. -/
def AllSteps (step : σ → α → Option σ) (ok : σ → α → Prop) : σ → List α → Prop
  | _, [] => True
  | s, a :: as => ok s a ∧ ∀ t, step s a = some t → AllSteps step ok t as

/-- A total transition function, seen as a step function that is always enabled. -/
def total (f : σ → α → σ) : σ → α → Option σ :=
  fun s a => some (f s a)

section Runs

variable {step : σ → α → Option σ}

/-- The run without actions. -/
@[simp] theorem run_nil (s : σ) : run step s [] = some s := rfl

/-- One action in front. -/
@[simp] theorem run_cons (s : σ) (a : α) (as : List α) :
    run step s (a :: as) = (step s a).bind fun t => run step t as := rfl

/-- Actions in two parts. -/
theorem run_append (s : σ) (as bs : List α) :
    run step s (as ++ bs) = (run step s as).bind fun t => run step t bs := by
  induction as generalizing s with
  | nil => rfl
  | cons a as ih =>
    simp only [List.cons_append, run_cons]
    cases step s a with
    | none => rfl
    | some t => exact ih t

/-- The last step of a run starts in the state that the earlier steps reach. -/
theorem run_concat {s u : σ} {as : List α} {a : α} (h : run step s (as ++ [a]) = some u) :
    ∃ t, run step s as = some t ∧ step t a = some u := by
  rw [run_append] at h
  obtain ⟨t, ht, hu⟩ := Option.bind_eq_some_iff.mp h
  refine ⟨t, ht, ?_⟩
  simpa using hu

/-! ## Conditions on steps -/

/-- No action, no condition. -/
@[simp] theorem allSteps_nil {ok : σ → α → Prop} (s : σ) : AllSteps step ok s [] := trivial

/-- The condition of the first step, and of all steps behind it. -/
theorem allSteps_cons {ok : σ → α → Prop} {s : σ} {a : α} {as : List α} :
    AllSteps step ok s (a :: as) ↔
      ok s a ∧ ∀ t, step s a = some t → AllSteps step ok t as := Iff.rfl

/-- The same where every action can be taken. -/
@[simp] theorem allSteps_total_cons {f : σ → α → σ} {ok : σ → α → Prop} {s : σ} {a : α}
    {as : List α} :
    AllSteps (total f) ok s (a :: as) ↔ ok s a ∧ AllSteps (total f) ok (f s a) as := by
  simp [allSteps_cons, total]

/-- A run all of whose steps meet a condition meets it at the step after any prefix. -/
theorem AllSteps.after_run {ok : σ → α → Prop} {s t : σ} {pre suf : List α} {a : α}
    (h : AllSteps step ok s (pre ++ a :: suf)) (hrun : run step s pre = some t) : ok t a := by
  induction pre generalizing s with
  | nil =>
    rw [run_nil, Option.some.injEq] at hrun
    exact hrun ▸ h.1
  | cons b pre ih =>
    obtain ⟨u, hu, hrest⟩ := Option.bind_eq_some_iff.mp hrun
    exact ih (h.2 u hu) hrest

/-- What all steps of a run meet, those at its beginning do. -/
theorem AllSteps.of_prefix {ok : σ → α → Prop} {s : σ} {pre as : List α}
    (h : AllSteps step ok s as) (hpre : pre <+: as) : AllSteps step ok s pre := by
  induction pre generalizing s as with
  | nil => trivial
  | cons a pre ih =>
    obtain ⟨suf, rfl⟩ := hpre
    exact ⟨h.1, fun t ht => ih (h.2 t ht) (List.prefix_append pre suf)⟩

/-- Where a run breaks a condition, it does so in a state that it reaches. -/
theorem exists_of_not_allSteps {ok : σ → α → Prop} {s : σ} {as : List α}
    (h : ¬ AllSteps step ok s as) :
    ∃ pre a suf t, as = pre ++ a :: suf ∧ run step s pre = some t ∧ ¬ ok t a := by
  induction as generalizing s with
  | nil => exact absurd trivial h
  | cons a as ih =>
    by_cases hok : ok s a
    · rw [allSteps_cons, not_and] at h
      obtain ⟨t, ht⟩ := not_forall.mp (h hok)
      obtain ⟨hstep, hrest⟩ := Classical.not_imp.mp ht
      obtain ⟨pre, b, suf, u, rfl, hrun, hbroken⟩ := ih hrest
      exact ⟨a :: pre, b, suf, u, rfl, Option.bind_eq_some_iff.mpr ⟨t, hstep, hrun⟩, hbroken⟩
    · exact ⟨[], a, as, s, rfl, rfl, hok⟩

/-- Conditions that can be checked at each step can be checked along a run. -/
instance decidableAllSteps {ok : σ → α → Prop} [∀ s a, Decidable (ok s a)] :
    ∀ (s : σ) (as : List α), Decidable (AllSteps step ok s as)
  | _, [] => .isTrue trivial
  | s, a :: as =>
    match h : step s a with
    | none => decidable_of_iff (ok s a) (by simp [allSteps_cons, h])
    | some t =>
      have : Decidable (AllSteps step ok t as) := decidableAllSteps t as
      decidable_of_iff (ok s a ∧ AllSteps step ok t as) (by simp [allSteps_cons, h])

/-! ## Invariants -/

/-- **Guarded invariant rule**: an invariant that every admitted step keeps holds after every
    run all of whose steps are admitted. -/
theorem run_invariant_of_allSteps {I : σ → Prop} {ok : σ → α → Prop}
    (hstep : ∀ s a t, I s → ok s a → step s a = some t → I t)
    {s t : σ} {as : List α} (hI : I s) (hok : AllSteps step ok s as)
    (hrun : run step s as = some t) : I t := by
  induction as generalizing s with
  | nil =>
    rw [run_nil, Option.some.injEq] at hrun
    exact hrun ▸ hI
  | cons a as ih =>
    obtain ⟨u, hu, hrest⟩ := Option.bind_eq_some_iff.mp hrun
    have hIu : I u := hstep s a u hI hok.1 hu
    exact ih hIu (hok.2 u hu) hrest

/-- A condition that every step meets. -/
theorem allSteps_of_forall {ok : σ → α → Prop} (h : ∀ s a, ok s a) (s : σ) (as : List α) :
    AllSteps step ok s as := by
  induction as generalizing s with
  | nil => trivial
  | cons a as ih => exact ⟨h s a, fun t _ => ih t⟩

/-- Every action of a run is one of them. -/
theorem allSteps_mem (s : σ) (as : List α) : AllSteps step (fun _ a => a ∈ as) s as := by
  have hall : ∀ bs, bs ⊆ as → ∀ s, AllSteps step (fun _ a => a ∈ as) s bs := by
    intro bs
    induction bs with
    | nil => exact fun _ _ => trivial
    | cons b bs ih =>
      intro hbs s
      obtain ⟨hb, hrest⟩ := List.cons_subset.mp hbs
      exact ⟨hb, fun t _ => ih hrest t⟩
  exact hall as (List.Subset.refl as) s

/-- **Invariant rule**: an invariant that every step keeps holds after every run. -/
theorem run_invariant {I : σ → Prop}
    (hstep : ∀ s a t, I s → step s a = some t → I t)
    {s t : σ} {as : List α} (hI : I s) (hrun : run step s as = some t) : I t := by
  have hadmitted : AllSteps step (fun _ _ => True) s as :=
    allSteps_of_forall (fun _ _ => trivial) s as
  exact run_invariant_of_allSteps (fun s a t hs _ ht => hstep s a t hs ht) hI hadmitted hrun

/-- The same, for the actions of one run. -/
theorem run_invariant_of_mem {I : σ → Prop} {as : List α}
    (hstep : ∀ s, ∀ a ∈ as, I s → ∀ t, step s a = some t → I t)
    {s t : σ} (hI : I s) (hrun : run step s as = some t) : I t :=
  run_invariant_of_allSteps (fun s a t hs ha ht => hstep s a ha hs t ht) hI (allSteps_mem s as) hrun

/-- Two conditions on steps admit the same runs when they agree in the states of an
    invariant that admitted steps keep.  The invariant may fail after a step that
    neither condition admits. -/
theorem allSteps_congr {J : σ → Prop} {ok ok' : σ → α → Prop}
    (hiff : ∀ s a, J s → (ok s a ↔ ok' s a))
    (hkeep : ∀ s a t, J s → ok s a → step s a = some t → J t)
    {s : σ} (hJ : J s) (as : List α) :
    AllSteps step ok s as ↔ AllSteps step ok' s as := by
  induction as generalizing s with
  | nil => exact Iff.rfl
  | cons a as ih =>
    rw [allSteps_cons, allSteps_cons, ← hiff s a hJ]
    refine and_congr_right fun hok => ?_
    refine forall_congr' fun t => imp_congr_right fun ht => ?_
    exact ih (hkeep s a t hJ hok ht)

end Runs

/-- **Exactness rule**: a property holds in every state that a run passes through exactly when
    every step of the run meets the condition under which that step keeps it. -/
theorem forall_run_iff_allSteps {step : σ → α → Option σ} {P : σ → Prop} {ok : σ → α → Prop}
    {s : σ} {as : List α} (h0 : P s)
    (hstep : ∀ s, ∀ a ∈ as, P s → ((∀ t, step s a = some t → P t) ↔ ok s a)) :
    (∀ pre t, pre <+: as → run step s pre = some t → P t) ↔ AllSteps step ok s as := by
  induction as generalizing s with
  | nil =>
    refine ⟨fun _ => trivial, fun _ pre t hpre hrun => ?_⟩
    rw [List.prefix_nil.mp hpre, run_nil, Option.some.injEq] at hrun
    exact hrun ▸ h0
  | cons a as ih =>
    have hrest : ∀ s, ∀ b ∈ as, P s → ((∀ t, step s b = some t → P t) ↔ ok s b) :=
      fun s b hb => hstep s b (List.mem_cons_of_mem a hb)
    rw [allSteps_cons, ← hstep s a List.mem_cons_self h0]
    constructor
    · intro hall
      have hfirst : ∀ t, step s a = some t → P t := fun t ht =>
        hall [a] t (List.prefix_append [a] as) (by simp [ht])
      refine ⟨hfirst, fun t ht => (ih (hfirst t ht) hrest).mp fun pre u hpre hrun => ?_⟩
      exact hall (a :: pre) u ((List.prefix_cons_inj a).mpr hpre) (by simp [ht, hrun])
    · rintro ⟨hfirst, hall⟩ pre u hpre hrun
      cases pre with
      | nil =>
        rw [run_nil, Option.some.injEq] at hrun
        exact hrun ▸ h0
      | cons b pre =>
        obtain ⟨rfl, htail⟩ := List.cons_prefix_cons.mp hpre
        obtain ⟨t, ht, hrun⟩ := Option.bind_eq_some_iff.mp hrun
        exact (ih (hfirst t ht) hrest).mpr (hall t ht) pre u htail hrun

/-- The same, with an invariant at hand that every step keeps. -/
theorem forall_run_iff_allSteps_of_invariant {step : σ → α → Option σ} {J P : σ → Prop}
    {ok : σ → α → Prop} {s : σ} {as : List α}
    (hkeep : ∀ s, ∀ a ∈ as, J s → ∀ t, step s a = some t → J t)
    (hstep : ∀ s, ∀ a ∈ as, J s → P s → ((∀ t, step s a = some t → P t) ↔ ok s a))
    (hJ : J s) (h0 : P s) :
    (∀ pre t, pre <+: as → run step s pre = some t → P t) ↔ AllSteps step ok s as := by
  have hboth : ∀ s, ∀ a ∈ as, J s ∧ P s →
      ((∀ t, step s a = some t → J t ∧ P t) ↔ ok s a) := by
    rintro s a ha ⟨hJ, hP⟩
    rw [← hstep s a ha hJ hP]
    exact ⟨fun h t ht => (h t ht).2, fun h t ht => ⟨hkeep s a ha hJ t ht, h t ht⟩⟩
  rw [← forall_run_iff_allSteps ⟨hJ, h0⟩ hboth]
  refine forall₂_congr fun pre t => forall₂_congr fun hpre hrun => ?_
  have hkept : J t :=
    run_invariant_of_mem (fun s a ha => hkeep s a (hpre.subset ha)) hJ hrun
  exact (and_iff_right hkept).symm

/-! ## Total systems -/

section Total

variable {f : σ → α → σ}

/-- A function makes one run of any actions. -/
@[simp] theorem run_total (s : σ) (as : List α) : run (total f) s as = some (as.foldl f s) := by
  induction as generalizing s with
  | nil => rfl
  | cons a as ih => exact ih (f s a)

/-- Its states are those behind the prefixes of the actions. -/
theorem forall_run_total {P : σ → Prop} {s : σ} {as : List α} :
    (∀ pre t, pre <+: as → run (total f) s pre = some t → P t) ↔
      ∀ pre, pre <+: as → P (pre.foldl f s) := by
  refine forall_congr' fun pre => ?_
  simp

/-- The same for a system whose actions are always enabled. -/
theorem forall_prefix_iff_allSteps {P : σ → Prop} {ok : σ → α → Prop} {s : σ} {as : List α}
    (h0 : P s) (hstep : ∀ s, ∀ a ∈ as, P s → (P (f s a) ↔ ok s a)) :
    (∀ pre, pre <+: as → P (pre.foldl f s)) ↔ AllSteps (total f) ok s as := by
  rw [← forall_run_total]
  refine forall_run_iff_allSteps h0 fun s a ha hP => ?_
  simpa [total] using hstep s a ha hP

/-- An invariant of every action that is taken. -/
theorem foldl_invariant {J : σ → Prop} {as : List α} (hkeep : ∀ s, ∀ a ∈ as, J s → J (f s a))
    {s : σ} (hJ : J s) : J (as.foldl f s) := by
  have hrun : run (total f) s as = some (as.foldl f s) := run_total s as
  refine run_invariant_of_mem (fun s a ha h t ht => ?_) hJ hrun
  obtain rfl := Option.some.inj ht
  exact hkeep s a ha h

/-- The same, with an invariant at hand that every step keeps. -/
theorem forall_prefix_iff_allSteps_of_invariant {J P : σ → Prop} {ok : σ → α → Prop} {as : List α}
    (hkeep : ∀ s, ∀ a ∈ as, J s → J (f s a))
    (hstep : ∀ s, ∀ a ∈ as, J s → P s → (P (f s a) ↔ ok s a)) {s : σ} (hJ : J s) (h0 : P s) :
    (∀ pre, pre <+: as → P (pre.foldl f s)) ↔ AllSteps (total f) ok s as := by
  rw [← forall_run_total]
  refine forall_run_iff_allSteps_of_invariant (fun s a ha h t ht => ?_) (fun s a ha hJ hP => ?_)
    hJ h0
  · obtain rfl := Option.some.inj ht
    exact hkeep s a ha h
  · simpa [total] using hstep s a ha hJ hP

end Total

/-! ## What has happened since -/

section Since

/-- Some entry of `as` meets `set`, and no later one meets `reset`. -/
def Since (set reset : α → Prop) (as : List α) : Prop :=
  ∃ pre a suf, as = pre ++ a :: suf ∧ set a ∧ ∀ b ∈ suf, ¬ reset b

variable {set reset : α → Prop}

/-- Nothing has been set yet. -/
theorem not_since_nil : ¬ Since set reset [] := by
  rintro ⟨pre, a, suf, h, -⟩
  exact List.append_ne_nil_of_right_ne_nil pre (List.cons_ne_nil a suf) h.symm

/-- The last action has set it. -/
theorem since_concat_of_set {as : List α} {a : α} (ha : set a) : Since set reset (as ++ [a]) :=
  ⟨as, a, [], rfl, ha, fun _ hb => absurd hb List.not_mem_nil⟩

/-- An entry that does not set only keeps what has been set before. -/
theorem since_concat_iff {as : List α} {a : α} (ha : ¬ set a) :
    Since set reset (as ++ [a]) ↔ Since set reset as ∧ ¬ reset a := by
  constructor
  · rintro ⟨pre, b, suf, h, hb, hsuf⟩
    -- the entry that sets is not the last one, so the last one stands behind it
    obtain rfl | ⟨suf, c, rfl⟩ := suf.eq_nil_or_concat'
    · have hlast : a = b := (List.append_inj' h rfl).2 |> List.singleton_inj.mp
      exact absurd (hlast ▸ hb) ha
    · have hsplit : as ++ [a] = (pre ++ b :: suf) ++ [c] := by simp [h]
      obtain ⟨rfl, hc⟩ := List.append_inj' hsplit rfl
      obtain rfl : a = c := List.singleton_inj.mp hc
      refine ⟨⟨pre, b, suf, rfl, hb, fun d hd => ?_⟩, hsuf a (by simp)⟩
      exact hsuf d (List.mem_append_left _ hd)
  · rintro ⟨⟨pre, b, suf, rfl, hb, hsuf⟩, hreset⟩
    refine ⟨pre, b, suf ++ [a], by simp, hb, fun d hd => ?_⟩
    rcases List.mem_append.mp hd with hd | hd
    · exact hsuf d hd
    · rw [List.mem_singleton.mp hd]
      exact hreset

/-- **A flag that one kind of step sets and another clears** says that the last setting step
    has not been undone since. -/
theorem flag_foldl_iff {f : σ → α → σ} {flag : σ → Bool}
    (hset : ∀ s a, set a → flag (f s a) = true)
    (hreset : ∀ s a, ¬ set a → reset a → flag (f s a) = false)
    (hkeep : ∀ s a, ¬ set a → ¬ reset a → flag (f s a) = flag s)
    {s : σ} (h0 : flag s = false) (as : List α) :
    flag (as.foldl f s) = true ↔ Since set reset as := by
  induction as using List.reverseRecOn with
  | nil => exact iff_of_false (by simp [h0]) not_since_nil
  | append_singleton as a ih =>
    rw [List.foldl_concat]
    by_cases ha : set a
    · exact iff_of_true (hset _ a ha) (since_concat_of_set ha)
    · rw [since_concat_iff ha, ← ih]
      by_cases hb : reset a
      · simp [hreset _ a ha hb, hb]
      · simp [hkeep _ a ha hb, hb]

end Since

end DarkMed.Lib.Transition
