import Mathlib.Data.List.Infix

/-!
# Programs That Call Their Environment

A program is a tree: it ends, or it makes a call and goes on as the answer says.  An environment
answers each call; under it, a program has one trace and one result.  Two calls that can be
answered differently have to differ, so a program that makes the same call twice would number it.

The variables of a program, and its exceptions, are `StateT` and `ExceptT` over programs; what a
variable holds outlives an exception.

Nothing here names a particular program.
-/

namespace DarkMed.Lib

/-- A program with calls `Op`, each answered by an `Ans`. -/
inductive Program (Op : Type) (Ans : Op → Type) (α : Type) where
  | done (a : α)
  | call (op : Op) (next : Ans op → Program Op Ans α)

namespace Program

variable {Op : Type} {Ans : Op → Type} {α β ε σ : Type}

/-! ## Meaning -/

def bind : Program Op Ans α → (α → Program Op Ans β) → Program Op Ans β
  | .done a, f => f a
  | .call op next, f => .call op fun answer => (next answer).bind f

instance : Monad (Program Op Ans) where
  pure := .done
  bind := bind

section Meaning

variable (answers : (op : Op) → Ans op)

/-- What the program ends with. -/
def result : Program Op Ans α → α
  | .done a => a
  | .call op next => (next (answers op)).result

/-- The calls that the program makes, in their order. -/
def trace : Program Op Ans α → List Op
  | .done _ => []
  | .call op next => op :: (next (answers op)).trace

/-- A program made of two ends as the second one does. -/
theorem result_bind (p : Program Op Ans α) (f : α → Program Op Ans β) :
    (p >>= f).result answers = (f (p.result answers)).result answers := by
  induction p with
  | done a => rfl
  | call op next ih => exact ih (answers op)

/-- It makes the calls of the first one, and then those of the second. -/
theorem trace_bind (p : Program Op Ans α) (f : α → Program Op Ans β) :
    (p >>= f).trace answers = p.trace answers ++ (f (p.result answers)).trace answers := by
  induction p with
  | done a => rfl
  | call op next ih => exact congrArg (op :: ·) (ih (answers op))

end Meaning

/-! ## Variables and exceptions -/

/-- A program with variables `σ` that may throw an `ε`. -/
abbrev Procedure (Op : Type) (Ans : Op → Type) (σ ε α : Type) :=
  ExceptT ε (StateT σ (Program Op Ans)) α

section Procedures

/-- A call whose answer is the result, and does not throw. -/
def ask (op : Op) : Procedure Op Ans σ ε (Ans op) :=
  ExceptT.mk fun s => .call op fun answer => .done (.ok answer, s)

/-- What is thrown or returned without a call. -/
def liftResult (r : Except ε α) : Procedure Op Ans σ ε α :=
  ExceptT.mk fun s => .done (r, s)

section Runs

variable (answers : (op : Op) → Ans op)

/-- The calls of a procedure that begins with the variables `s`. -/
def calls (x : Procedure Op Ans σ ε α) (s : σ) : List Op :=
  (x.run.run s).trace answers

/-- What a procedure returns or throws, and its variables then. -/
def ending (x : Procedure Op Ans σ ε α) (s : σ) : Except ε α × σ :=
  (x.run.run s).result answers

/-- From the variables `s`, the procedure makes these calls and ends like this. -/
structure Runs (x : Procedure Op Ans σ ε α) (s : σ) (made : List Op) (r : Except ε α) (t : σ) :
    Prop where
  calls_eq : calls answers x s = made
  ending_eq : ending answers x s = (r, t)

end Runs

variable {answers : (op : Op) → Ans op} {x : Procedure Op Ans σ ε α}
  {f : α → Procedure Op Ans σ ε β} {made more : List Op} {s t u : σ}

/-- A procedure has one run. -/
theorem Runs.run (x : Procedure Op Ans σ ε α) (s : σ) :
    Runs answers x s (calls answers x s) (ending answers x s).1 (ending answers x s).2 :=
  ⟨rfl, rfl⟩

/-- A call by itself. -/
theorem Runs.ask (op : Op) :
    Runs answers (ask op : Procedure Op Ans σ ε (Ans op)) s [op] (.ok (answers op)) s :=
  ⟨rfl, rfl⟩

/-- What is returned or thrown at once makes no call. -/
theorem Runs.liftResult (r : Except ε α) :
    Runs answers (liftResult r : Procedure Op Ans σ ε α) s [] r s :=
  ⟨rfl, rfl⟩

/-- Nothing is called by an exception. -/
theorem Runs.throw (e : ε) :
    Runs answers (throw e : Procedure Op Ans σ ε α) s [] (.error e) s :=
  ⟨rfl, rfl⟩

/-- Nothing is called by a value. -/
theorem Runs.pure (a : α) :
    Runs answers (Pure.pure a : Procedure Op Ans σ ε α) s [] (.ok a) s :=
  ⟨rfl, rfl⟩

/-- A variable is set without a call. -/
theorem Runs.modify (g : σ → σ) :
    Runs answers (modify g : Procedure Op Ans σ ε Unit) s [] (.ok ()) (g s) :=
  ⟨rfl, rfl⟩

/-- So is it read. -/
theorem Runs.get : Runs answers (get : Procedure Op Ans σ ε σ) s [] (.ok s) s :=
  ⟨rfl, rfl⟩

/-- The calls of the second program are made only if the first one returns. -/
theorem calls_bind (x : Procedure Op Ans σ ε α) (f : α → Procedure Op Ans σ ε β) (s : σ) :
    calls answers (x >>= f) s = calls answers x s ++
      match ending answers x s with
      | (.ok a, t) => calls answers (f a) t
      | (.error _, _) => [] := by
  rw [calls, ExceptT.run_bind, StateT.run_bind, trace_bind]
  show calls answers x s ++ _ = _
  unfold ending
  -- the first program returns or throws
  obtain ⟨a | e, t⟩ := (x.run.run s).result answers
  · rfl
  · rfl

/-- **Sequence rule.** -/
theorem Runs.bind {a : α} {r : Except ε β} (h : Runs answers x s made (.ok a) t)
    (hf : Runs answers (f a) t more r u) : Runs answers (x >>= f) s (made ++ more) r u where
  calls_eq := by
    rw [calls_bind, h.calls_eq, h.ending_eq]
    exact congrArg (made ++ ·) hf.calls_eq
  ending_eq := by
    rw [ending, ExceptT.run_bind, StateT.run_bind, result_bind]
    -- the second program begins with what the first one has left
    have hx : (x.run.run s).result answers = (.ok a, t) := h.ending_eq
    rw [hx]
    exact hf.ending_eq

/-- A call in front. -/
theorem Runs.ask_bind {op : Op} {f : Ans op → Procedure Op Ans σ ε β} {r : Except ε β}
    (h : Runs answers (f (answers op)) s made r t) :
    Runs answers (Program.ask op >>= f) s (op :: made) r t :=
  (Runs.ask op).bind h

/-- **Exception rule**: behind a program that throws, nothing is done. -/
theorem Runs.bind_error {e : ε} (h : Runs answers x s made (.error e) t) :
    Runs answers (x >>= f) s made (.error e) t where
  calls_eq := by
    rw [calls_bind, h.calls_eq, h.ending_eq]
    exact List.append_nil made
  ending_eq := by
    rw [ending, ExceptT.run_bind, StateT.run_bind, result_bind]
    have hx : (x.run.run s).result answers = (.error e, t) := h.ending_eq
    rw [hx]
    rfl

/-- A handler is not reached. -/
theorem Runs.tryCatch_ok {h : ε → Procedure Op Ans σ ε α} {a : α}
    (hx : Runs answers x s made (.ok a) t) :
    Runs answers (tryCatch x h : Procedure Op Ans σ ε α) s made (.ok a) t where
  calls_eq := by
    show ((x.run.run s >>= _ : Program Op Ans _).trace answers) = made
    have hcalls : (x.run.run s).trace answers = made := hx.calls_eq
    have hending : (x.run.run s).result answers = (.ok a, t) := hx.ending_eq
    rw [trace_bind, hcalls, hending]
    exact List.append_nil made
  ending_eq := by
    show ((x.run.run s >>= _ : Program Op Ans (Except ε α × σ)).result answers) = (.ok a, t)
    have hending : (x.run.run s).result answers = (.ok a, t) := hx.ending_eq
    rw [result_bind, hending]
    rfl

/-- A handler begins with the variables as they were when the exception was thrown. -/
theorem Runs.tryCatch_error {h : ε → Procedure Op Ans σ ε α} {e : ε} {r : Except ε α}
    (hx : Runs answers x s made (.error e) t) (hh : Runs answers (h e) t more r u) :
    Runs answers (tryCatch x h : Procedure Op Ans σ ε α) s (made ++ more) r u where
  calls_eq := by
    show ((x.run.run s >>= _ : Program Op Ans _).trace answers) = made ++ more
    have hcalls : (x.run.run s).trace answers = made := hx.calls_eq
    have hending : (x.run.run s).result answers = (.error e, t) := hx.ending_eq
    rw [trace_bind, hcalls, hending]
    exact congrArg (made ++ ·) hh.calls_eq
  ending_eq := by
    show ((x.run.run s >>= _ : Program Op Ans (Except ε α × σ)).result answers) = (r, u)
    have hending : (x.run.run s).result answers = (.error e, t) := hx.ending_eq
    rw [result_bind, hending]
    exact hh.ending_eq

/-- The calls of the first program are made in any case. -/
theorem prefix_calls_bind (x : Procedure Op Ans σ ε α) (f : α → Procedure Op Ans σ ε β) (s : σ) :
    calls answers x s <+: calls answers (x >>= f) s := by
  rw [calls_bind]
  exact List.prefix_append _ _

/-! ## Exact triples -/

section Exact

variable {K : Op → Prop} {C D : Prop} {post : α → σ → Prop} {post' : β → σ → Prop}

/-- From the variables `s`, the procedure returns exactly if `C`, and then as `post` says; in any
    case it makes calls of the kind `K` only. -/
def Exactly (answers : (op : Op) → Ans op) (K : Op → Prop) (C : Prop)
    (x : Procedure Op Ans σ ε α) (s : σ) (post : α → σ → Prop) : Prop :=
  ∃ made, (∀ op ∈ made, K op) ∧
    ((C ∧ ∃ a t, Runs answers x s made (.ok a) t ∧ post a t) ∨
      (¬ C ∧ ∃ e t, Runs answers x s made (.error e) t))

/-- A run that returns, for an exact triple. -/
theorem Runs.exactly_ok {a : α} (h : Runs answers x s made (.ok a) t) (hmade : ∀ op ∈ made, K op)
    (hC : C) (hpost : post a t) : Exactly answers K C x s post :=
  ⟨made, hmade, .inl ⟨hC, a, t, h, hpost⟩⟩

/-- A run that throws, for an exact triple. -/
theorem Runs.exactly_error {e : ε} (h : Runs answers x s made (.error e) t)
    (hmade : ∀ op ∈ made, K op) (hC : ¬ C) : Exactly answers K C x s post :=
  ⟨made, hmade, .inr ⟨hC, e, t, h⟩⟩

/-- A value is returned in any case. -/
theorem Exactly.pure {a : α} (hC : C) (h : post a s) :
    Exactly answers K C (Pure.pure a : Procedure Op Ans σ ε α) s post :=
  (Runs.pure a).exactly_ok (by simp) hC h

/-- **Assignment rule** of exact triples. -/
theorem Exactly.modify_bind {g : σ → σ} {f : Unit → Procedure Op Ans σ ε β}
    (h : Exactly answers K C (f ()) (g s) post') :
    Exactly answers K C (modify g >>= f) s post' := by
  obtain ⟨made, hmade, ⟨hC, b, t, hrun, hpost⟩ | ⟨hC, e, t, hrun⟩⟩ := h
  · exact ⟨made, hmade, .inl ⟨hC, b, t, (Runs.modify g).bind hrun, hpost⟩⟩
  · exact ⟨made, hmade, .inr ⟨hC, e, t, (Runs.modify g).bind hrun⟩⟩

/-- An assignment returns in any case. -/
theorem Exactly.modify {g : σ → σ} {post : Unit → σ → Prop} (hC : C) (h : post () (g s)) :
    Exactly answers K C (modify g : Procedure Op Ans σ ε Unit) s post :=
  (Runs.modify g).exactly_ok (by simp) hC h

/-- **Call rule** of exact triples. -/
theorem Exactly.ask_bind {op : Op} {f : Ans op → Procedure Op Ans σ ε β} (hop : K op)
    (h : Exactly answers K C (f (answers op)) s post') :
    Exactly answers K C (ask op >>= f) s post' := by
  obtain ⟨made, hmade, ⟨hC, b, t, hrun, hpost⟩ | ⟨hC, e, t, hrun⟩⟩ := h
  · exact ⟨op :: made, List.forall_mem_cons.mpr ⟨hop, hmade⟩,
      .inl ⟨hC, b, t, (Runs.ask op).bind hrun, hpost⟩⟩
  · exact ⟨op :: made, List.forall_mem_cons.mpr ⟨hop, hmade⟩,
      .inr ⟨hC, e, t, (Runs.ask op).bind hrun⟩⟩

/-- **Sequence rule** of exact triples: both parts return. -/
theorem Exactly.bind (h : Exactly answers K C x s post)
    (hf : ∀ a t, post a t → Exactly answers K D (f a) t post') :
    Exactly answers K (C ∧ D) (x >>= f) s post' := by
  obtain ⟨made, hmade, ⟨hC, a, t, hrun, hpost⟩ | ⟨hC, e, t, hrun⟩⟩ := h
  · obtain ⟨more, hmore, ⟨hD, b, u, hrest, hpost'⟩ | ⟨hD, e, u, hrest⟩⟩ := hf a t hpost
    · exact ⟨made ++ more, List.forall_mem_append.mpr ⟨hmade, hmore⟩,
        .inl ⟨⟨hC, hD⟩, b, u, hrun.bind hrest, hpost'⟩⟩
    · exact ⟨made ++ more, List.forall_mem_append.mpr ⟨hmade, hmore⟩,
        .inr ⟨fun hboth => hD hboth.2, e, u, hrun.bind hrest⟩⟩
  · -- the first part throws, and the second one is not reached
    exact ⟨made, hmade, .inr ⟨fun hboth => hC hboth.1, e, t, hrun.bind_error⟩⟩

/-- The condition may be said in another way. -/
theorem Exactly.congr (h : Exactly answers K C x s post) (hiff : C ↔ D) :
    Exactly answers K D x s post := by
  rwa [Exactly, ← hiff]

/-- What is known behind a return may be weakened. -/
theorem Exactly.mono {post'' : α → σ → Prop} (h : Exactly answers K C x s post)
    (hpost : ∀ a t, post a t → post'' a t) : Exactly answers K C x s post'' := by
  obtain ⟨made, hmade, ⟨hC, a, t, hrun, ha⟩ | hthrows⟩ := h
  · exact ⟨made, hmade, .inl ⟨hC, a, t, hrun, hpost a t ha⟩⟩
  · exact ⟨made, hmade, .inr hthrows⟩

end Exact

end Procedures

/-! ## Attempts -/

section Attempts

variable {answers : Op → Bool} {s : σ}

/-- A call that is answered with yes or no, and throws where the answer is no. -/
def attempt (e : ε) (op : Op) : Procedure Op (fun _ => Bool) σ ε Unit :=
  ExceptT.mk fun s => .call op fun answer => .done (if answer then .ok () else .error e, s)

/-- One call after another, up to the first that is answered with no. -/
def attemptAll (e : ε) : List Op → Procedure Op (fun _ => Bool) σ ε Unit
  | [] => pure ()
  | op :: ops => do
    attempt e op
    attemptAll e ops

/-- A call that is answered with yes. -/
theorem Runs.attempt {e : ε} {op : Op} (h : answers op = true) :
    Runs answers (attempt e op) s [op] (.ok ()) s :=
  ⟨rfl, congrArg (·, s) (if_pos h)⟩

/-- A call that is answered with no. -/
theorem Runs.attempt_error {e : ε} {op : Op} (h : answers op = false) :
    Runs answers (Program.attempt e op) s [op] (.error e) s :=
  ⟨rfl, congrArg (·, s) (if_neg (ne_true_of_eq_false h))⟩

/-- All calls are answered with yes. -/
theorem Runs.attemptAll {e : ε} {ops : List Op} (h : ∀ op ∈ ops, answers op = true) :
    Runs answers (attemptAll e ops) s ops (.ok ()) s := by
  induction ops with
  | nil => exact Runs.pure ()
  | cons op ops ih =>
    obtain ⟨hop, hops⟩ := List.forall_mem_cons.mp h
    exact (Runs.attempt hop).bind (ih hops)

/-- One call is the first to be answered with no. -/
theorem Runs.attemptAll_error {e : ε} {ops rest : List Op} {op : Op}
    (h : ∀ op ∈ ops, answers op = true) (hop : answers op = false) :
    Runs answers (Program.attemptAll e (ops ++ op :: rest)) s (ops ++ [op]) (.error e) s := by
  induction ops with
  | nil => exact (Runs.attempt_error hop).bind_error
  | cons first ops ih =>
    obtain ⟨hfirst, hops⟩ := List.forall_mem_cons.mp h
    exact (Runs.attempt hfirst).bind (ih hops)

/-- A call is made where all calls before it are answered with yes. -/
theorem prefix_calls_attemptAll {e : ε} {ops rest : List Op} {op : Op}
    (h : ∀ op ∈ ops, answers op = true) :
    ops ++ [op] <+: calls answers (Program.attemptAll e (ops ++ op :: rest)) s := by
  induction ops with
  | nil => exact prefix_calls_bind (Program.attempt e op) _ s
  | cons first ops ih =>
    obtain ⟨hfirst, hops⟩ := List.forall_mem_cons.mp h
    -- the first call goes well, and the rest is behind it
    have hrun : Runs answers (Program.attemptAll e (first :: (ops ++ op :: rest))) s _ _ _ :=
      (Runs.attempt hfirst).bind (Runs.run _ s)
    rw [List.cons_append, List.cons_append, hrun.calls_eq]
    exact (List.prefix_cons_inj first).mpr (ih hops)

/-- Either no answer is no, or one is the first. -/
theorem all_or_exists_first (answers : Op → Bool) (ops : List Op) :
    (∀ op ∈ ops, answers op = true) ∨
      ∃ pre op rest, ops = pre ++ op :: rest ∧ (∀ op ∈ pre, answers op = true) ∧
        answers op = false := by
  induction ops with
  | nil => exact .inl nofun
  | cons op ops ih =>
    cases hop : answers op with
    | false => exact .inr ⟨[], op, ops, rfl, nofun, hop⟩
    | true =>
      obtain hall | ⟨pre, first, rest, rfl, hpre, hfirst⟩ := ih
      · exact .inl (List.forall_mem_cons.mpr ⟨hop, hall⟩)
      · exact .inr ⟨op :: pre, first, rest, rfl, List.forall_mem_cons.mpr ⟨hop, hpre⟩, hfirst⟩

end Attempts

end Program

end DarkMed.Lib
