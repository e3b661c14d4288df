import DarkMed.Lib.Transition

/-!
# Two Processes and Two Streams of Bytes

A process reads and writes with calls that block: a write is over when all its bytes are out, a
read when all its bytes are there.  A call may fail before that, and then the process goes on with
what has been moved so far.  Two processes that read what the other writes make a system, each of
whose steps moves one byte at most.

* `Exec` says what a process may read and write, whoever is at the other end, and follows the
  structure of the process.  Every run of a system is one of either process (`exec_of_run`).
* As long as no call fails, every interleaving of the two comes to the same end
  (`exists_run_of_reach`).
-/

namespace DarkMed.Lib.Wire

open DarkMed.Lib.Transition

variable {ρ α β : Type}

/-! ## Interleavings that commute -/

section Commute

variable {σ γ : Type} {step : σ → γ → Option σ}

/-- Two different steps can be taken in either order. -/
def Commutes (step : σ → γ → Option σ) : Prop :=
  ∀ s a b t u, a ≠ b → step s a = some t → step s b = some u →
    ∃ v, step t b = some v ∧ step u a = some v

/-- Any first step is a step towards a state in which nothing is left to do. -/
theorem Commutes.exists_run_of_step (h : Commutes step) {f : σ} (hstuck : ∀ a, step f a = none)
    {s t : σ} {as : List γ} {b : γ} (hrun : run step s as = some f) (hb : step s b = some t) :
    ∃ bs, run step t bs = some f ∧ as.length = bs.length + 1 := by
  induction as generalizing s t with
  | nil =>
    obtain rfl := Option.some.inj hrun
    cases (hstuck b).symm.trans hb
  | cons a as ih =>
    obtain ⟨u, ha, hrest⟩ := Option.bind_eq_some_iff.mp hrun
    by_cases hab : a = b
    · obtain rfl := hab
      obtain rfl := Option.some.inj (ha.symm.trans hb)
      exact ⟨as, hrest, rfl⟩
    · -- the two first steps commute, and the induction goes on behind the given one
      obtain ⟨v, hv, hv'⟩ := h s a b u t hab ha hb
      obtain ⟨bs, hbs, hlen⟩ := ih hrest hv
      refine ⟨a :: bs, Option.bind_eq_some_iff.mpr ⟨v, hv', hbs⟩, ?_⟩
      rw [List.length_cons, List.length_cons, hlen]

/-- **Confluence**: where one run ends, every run ends, after the same number of steps. -/
theorem Commutes.exists_run_of_run (h : Commutes step) {f : σ} (hstuck : ∀ a, step f a = none)
    {s t : σ} {as bs : List γ} (hrun : run step s as = some f) (hbs : run step s bs = some t) :
    ∃ cs, run step t cs = some f ∧ as.length = bs.length + cs.length := by
  induction bs generalizing s as with
  | nil =>
    obtain rfl := Option.some.inj hbs
    exact ⟨as, hrun, (Nat.zero_add _).symm⟩
  | cons b bs ih =>
    obtain ⟨u, hb, hrest⟩ := Option.bind_eq_some_iff.mp hbs
    obtain ⟨as', hrun', hlen⟩ := h.exists_run_of_step hstuck hrun hb
    obtain ⟨cs, hcs, hlen'⟩ := ih hrun' hrest
    refine ⟨cs, hcs, ?_⟩
    rw [List.length_cons]
    omega

end Commute

/-! ## Processes -/

/-- A process that ends with a `ρ`. -/
inductive Proc (ρ : Type) where
  | done (r : ρ)
  /-- `sent` bytes of a write are out, and `bytes` are left. -/
  | send (sent : Nat) (bytes : List UInt8) (next : Nat → Proc ρ)
  /-- `got` has been read, and `n` bytes are missing. -/
  | recv (got : List UInt8) (n : Nat) (next : List UInt8 → Proc ρ)

namespace Proc

def bind : Proc α → (α → Proc β) → Proc β
  | .done a, f => f a
  | .send sent bytes next, f => .send sent bytes fun n => (next n).bind f
  | .recv got n next, f => .recv got n fun bytes => (next bytes).bind f

instance : Monad Proc where
  pure := .done
  bind := bind

/-- A write ends with the number of bytes that are out. -/
def write (bytes : List UInt8) : Proc Nat := .send 0 bytes .done

/-- A read ends with the bytes that it has got. -/
def read (n : Nat) : Proc (List UInt8) := .recv [] n .done

/-- The second process runs only if the first one has succeeded. -/
def andThen (x y : Proc Bool) : Proc Bool := x >>= fun ok => if ok then y else .done false

@[simp] theorem pure_eq (a : α) : (pure a : Proc α) = .done a := rfl

@[simp] theorem done_bind (a : α) (f : α → Proc β) : (Proc.done a >>= f) = f a := rfl

@[simp] theorem send_bind (sent : Nat) (bytes : List UInt8) (next : Nat → Proc α)
    (f : α → Proc β) :
    (Proc.send sent bytes next >>= f) = .send sent bytes fun n => next n >>= f := rfl

@[simp] theorem recv_bind (got : List UInt8) (n : Nat) (next : List UInt8 → Proc α)
    (f : α → Proc β) : (Proc.recv got n next >>= f) = .recv got n fun bytes => next bytes >>= f :=
  rfl

/-! ### One process by itself -/

/-- What a process does, or what is done to it. -/
inductive Move where
  /-- The call is over. -/
  | finish
  | give (b : UInt8)
  | take (b : UInt8)
  /-- The call fails; a write that does has moved nothing. -/
  | fail
  /-- A write fails with some of its bytes out. -/
  | cut
  deriving DecidableEq, Repr

def step : Proc ρ → Move → Option (Proc ρ)
  | .send sent [] next, .finish => some (next sent)
  | .send sent (b :: bytes) next, .give c =>
    if b = c then some (.send (sent + 1) bytes next) else none
  | .send 0 (_ :: _) next, .fail => some (next 0)
  | .send (sent + 1) (_ :: _) next, .cut => some (next (sent + 1))
  | .recv got 0 next, .finish => some (next got)
  | .recv got (n + 1) next, .take b => some (.recv (got ++ [b]) n next)
  | .recv got (_ + 1) next, .fail => some (next got)
  | _, _ => none

def Move.taken : Move → List UInt8
  | .take b => [b]
  | _ => []

def Move.given : Move → List UInt8
  | .give b => [b]
  | _ => []

/-- How a call goes on. -/
inductive How where
  | go
  | fail
  | cut
  deriving DecidableEq, Repr

/-- No call fails. -/
def Undisturbed (how : How) : Prop := how = .go

/-- A call that goes on is not disturbed. -/
theorem undisturbed_go : Undisturbed .go := rfl

/-- No write is cut short. -/
def Uncut (how : How) : Prop := how ≠ .cut

theorem not_uncut_cut : ¬ Uncut .cut := fun h => h rfl

def Move.how : Move → How
  | .fail => .fail
  | .cut => .cut
  | _ => .go

@[simp] theorem Move.taken_take (b : UInt8) : (Move.take b).taken = [b] := rfl

@[simp] theorem Move.given_give (b : UInt8) : (Move.give b).given = [b] := rfl

/-- Where calls go on as `ok` admits, the process reads `c`, writes `w` and becomes `q`. -/
def Exec (ok : How → Prop) (p : Proc ρ) (c w : List UInt8) (q : Proc ρ) : Prop :=
  ∃ moves, (∀ m ∈ moves, ok (Move.how m)) ∧ run step p moves = some q ∧ moves.flatMap Move.taken = c ∧
    moves.flatMap Move.given = w

variable {ok : How → Prop} {p q : Proc ρ} {c w : List UInt8}

/-- A process that has not moved. -/
theorem Exec.refl (p : Proc ρ) : Exec ok p [] [] p := ⟨[], by simp, rfl, rfl, rfl⟩

/-- One move in front. -/
theorem Exec.head {m : Move} (hm : ok m.how) {p' : Proc ρ} (hstep : step p m = some p')
    (h : Exec ok p' c w q) : Exec ok p (m.taken ++ c) (m.given ++ w) q := by
  obtain ⟨moves, hok, hrun, rfl, rfl⟩ := h
  refine ⟨m :: moves, List.forall_mem_cons.mpr ⟨hm, hok⟩, ?_, rfl, rfl⟩
  exact Option.bind_eq_some_iff.mpr ⟨p', hstep, hrun⟩

/-- One move behind. -/
theorem Exec.tail {m : Move} (h : Exec ok p c w q) (hm : ok m.how) {q' : Proc ρ}
    (hstep : step q m = some q') : Exec ok p (c ++ m.taken) (w ++ m.given) q' := by
  obtain ⟨moves, hok, hrun, rfl, rfl⟩ := h
  refine ⟨moves ++ [m], ?_, ?_, ?_, ?_⟩
  · intro n hn
    rcases List.mem_append.mp hn with hn | hn
    · exact hok n hn
    · exact List.mem_singleton.mp hn ▸ hm
  · rw [run_append, hrun]
    show run step q [m] = some q'
    rw [run_cons, hstep]
    rfl
  · simp
  · simp

/-- A process that has ended does nothing. -/
theorem Exec.of_done {r : ρ} (h : Exec ok (.done r) c w q) : q = .done r ∧ c = [] ∧ w = [] := by
  obtain ⟨moves, -, hrun, rfl, rfl⟩ := h
  cases moves with
  | nil => exact ⟨(Option.some.inj hrun).symm, rfl, rfl⟩
  | cons m moves => cases hrun

/-- A process made of two moves as its first part does, until that has ended. -/
theorem step_bind {x : Proc α} {f : α → Proc β} (hx : ∀ a, x ≠ .done a) (m : Move) :
    step (x >>= f) m = (step x m).map fun y => y >>= f := by
  cases x with
  | done a => exact absurd rfl (hx a)
  | send sent bytes next =>
    cases bytes with
    | nil => cases m <;> rfl
    | cons b bytes =>
      cases m with
      | give c =>
        show (if b = c then _ else none) = Option.map _ (if b = c then _ else none)
        by_cases hbc : b = c
        · rw [if_pos hbc, if_pos hbc]
          rfl
        · rw [if_neg hbc, if_neg hbc]
          rfl
      | _ => cases sent <;> rfl
  | recv got n next => cases n <;> cases m <;> rfl

/-- A process made of two is still in the first, or has come through it. -/
theorem Exec.bind {x : Proc α} {f : α → Proc β} {q : Proc β} (h : Exec ok (x >>= f) c w q) :
    (∃ y, q = y >>= f ∧ Exec ok x c w y) ∨
      ∃ a c₁ c₂ w₁ w₂, c = c₁ ++ c₂ ∧ w = w₁ ++ w₂ ∧ Exec ok x c₁ w₁ (.done a) ∧
        Exec ok (f a) c₂ w₂ q := by
  obtain ⟨moves, hok, hrun, hc, hw⟩ := h
  induction moves generalizing x c w with
  | nil =>
    obtain rfl := Option.some.inj hrun
    exact .inl ⟨x, rfl, [], by simp, rfl, hc, hw⟩
  | cons m moves ih =>
    -- all that follows belongs to the second process once the first has ended
    by_cases hx : ∃ a, x = .done a
    · obtain ⟨a, rfl⟩ := hx
      exact .inr ⟨a, [], c, [], w, rfl, rfl, .refl _, m :: moves, hok, hrun, hc, hw⟩
    · have hlive : ∀ a, x ≠ .done a := fun a ha => hx ⟨a, ha⟩
      obtain ⟨y, hstep, hrest⟩ := Option.bind_eq_some_iff.mp hrun
      -- until then the move is one of the first process
      rw [step_bind hlive] at hstep
      obtain ⟨x', hx', rfl⟩ := Option.map_eq_some_iff.mp hstep
      obtain ⟨hm, hok⟩ := List.forall_mem_cons.mp hok
      rw [List.flatMap_cons] at hc hw
      obtain ⟨y, rfl, hy⟩ | ⟨a, c₁, c₂, w₁, w₂, hc', hw', h₁, h₂⟩ := ih hok hrest rfl rfl
      · exact .inl ⟨y, rfl, hc ▸ hw ▸ hy.head hm hx'⟩
      · refine .inr ⟨a, m.taken ++ c₁, c₂, m.given ++ w₁, w₂, ?_, ?_, h₁.head hm hx', h₂⟩
        · rw [← hc, hc', List.append_assoc]
        · rw [← hw, hw', List.append_assoc]

/-- **Sequence rule** for a process that has ended. -/
theorem Exec.bind_done {x : Proc α} {f : α → Proc β} {r : β}
    (h : Exec ok (x >>= f) c w (.done r)) :
    ∃ a c₁ c₂ w₁ w₂, c = c₁ ++ c₂ ∧ w = w₁ ++ w₂ ∧ Exec ok x c₁ w₁ (.done a) ∧
      Exec ok (f a) c₂ w₂ (.done r) := by
  obtain ⟨y, hy, hexec⟩ | h := h.bind
  · -- within the first process nothing has ended but by way of a value
    cases y with
    | done a =>
      refine ⟨a, c, [], w, [], by simp, by simp, hexec, ?_⟩
      rw [done_bind] at hy
      exact hy ▸ .refl _
    | send sent bytes next => cases hy
    | recv got n next => cases hy
  · exact h

/-- One part of a run after the other. -/
theorem Exec.append {p' : Proc ρ} {c' w' : List UInt8} (h : Exec ok p c w p')
    (h' : Exec ok p' c' w' q) : Exec ok p (c ++ c') (w ++ w') q := by
  obtain ⟨moves, hok, hrun, rfl, rfl⟩ := h
  obtain ⟨moves', hok', hrun', rfl, rfl⟩ := h'
  refine ⟨moves ++ moves', ?_, ?_, List.flatMap_append, List.flatMap_append⟩
  · exact fun m hm => (List.mem_append.mp hm).elim (hok m) (hok' m)
  · rw [run_append, hrun]
    exact hrun'

/-- What a process does, it does in front of another. -/
theorem Exec.then {x y : Proc α} (h : Exec ok x c w y) (f : α → Proc β) :
    Exec ok (x >>= f) c w (y >>= f) := by
  obtain ⟨moves, hok, hrun, rfl, rfl⟩ := h
  induction moves generalizing x with
  | nil =>
    obtain rfl := Option.some.inj hrun
    exact .refl _
  | cons m moves ih =>
    obtain ⟨x', hstep, hrest⟩ := Option.bind_eq_some_iff.mp hrun
    obtain ⟨hm, hmoves⟩ := List.forall_mem_cons.mp hok
    have hlive : ∀ b, x ≠ .done b := by
      rintro b rfl
      cases hstep
    have hstep' : step (x >>= f) m = some (x' >>= f) := by
      rw [step_bind hlive, hstep]
      rfl
    exact (ih hmoves hrest).head hm hstep'

/-- **Sequence rule**, the other way round. -/
theorem Exec.trans {x : Proc α} {f : α → Proc β} {a : α} {c' w' : List UInt8} {q : Proc β}
    (h : Exec ok x c w (.done a)) (h' : Exec ok (f a) c' w' q) :
    Exec ok (x >>= f) (c ++ c') (w ++ w') q :=
  (h.then f).append h'

/-! ### Writes and reads -/

/-- A write in progress, and a write that is over. -/
theorem Exec.send {sent : Nat} {bytes : List UInt8} {q : Proc Nat}
    (h : Exec ok (.send sent bytes .done) c w q) :
    c = [] ∧ ((∃ rest, bytes = w ++ rest ∧ q = .send (sent + w.length) rest .done) ∨
      (w <+: bytes ∧ q = .done (sent + w.length) ∧
        (¬ ok .cut → w = bytes ∨ (sent = 0 ∧ w = [])))) := by
  obtain ⟨moves, hok, hrun, rfl, rfl⟩ := h
  induction moves generalizing sent bytes with
  | nil =>
    obtain rfl := Option.some.inj hrun
    exact ⟨rfl, .inl ⟨bytes, rfl, rfl⟩⟩
  | cons m moves ih =>
    obtain ⟨y, hstep, hrest⟩ := Option.bind_eq_some_iff.mp hrun
    obtain ⟨hm, hmoves⟩ := List.forall_mem_cons.mp hok
    -- a call that is over moves nothing any more
    have hover : ∀ {k : Nat}, run Proc.step (.done k : Proc Nat) moves = some q →
        q = .done k ∧ moves.flatMap Move.taken = [] ∧ moves.flatMap Move.given = [] :=
      fun hdone => Exec.of_done ⟨moves, hmoves, hdone, rfl, rfl⟩
    cases m with
    | finish =>
      cases bytes with
      | nil =>
        obtain rfl := Option.some.inj hstep
        obtain ⟨rfl, htaken, hgiven⟩ := hover hrest
        rw [List.flatMap_cons, List.flatMap_cons, htaken, hgiven]
        exact ⟨rfl, .inr ⟨List.nil_prefix, rfl, fun _ => .inl rfl⟩⟩
      | cons b bytes => cases sent <;> cases hstep
    | give c =>
      cases bytes with
      | nil => cases hstep
      | cons b bytes =>
        -- the byte that is given is the next of the write
        obtain ⟨rfl, hy⟩ := Option.ite_none_right_eq_some.mp hstep
        obtain rfl := Option.some.inj hy
        obtain ⟨htaken, hcases⟩ := ih hmoves hrest
        rw [List.flatMap_cons, List.flatMap_cons, htaken]
        refine ⟨rfl, ?_⟩
        have hlen : sent + 1 + (moves.flatMap Move.given).length =
            sent + (Move.given (.give b) ++ moves.flatMap Move.given).length := by
          simp [Nat.add_assoc, Nat.add_comm 1]
        rw [← hlen]
        obtain ⟨rest, hbytes, hq⟩ | ⟨hpre, hq, hwhole⟩ := hcases
        · exact .inl ⟨rest, congrArg (b :: ·) hbytes, hq⟩
        · refine .inr ⟨(List.prefix_cons_inj b).mpr hpre, hq, fun hcut => .inl ?_⟩
          obtain hw | ⟨hzero, -⟩ := hwhole hcut
          · exact congrArg (b :: ·) hw
          · cases hzero
    | take b => cases bytes <;> cases sent <;> cases hstep
    | fail =>
      cases bytes with
      | nil => cases hstep
      | cons b bytes =>
        cases sent with
        | zero =>
          obtain rfl := Option.some.inj hstep
          obtain ⟨rfl, htaken, hgiven⟩ := hover hrest
          rw [List.flatMap_cons, List.flatMap_cons, htaken, hgiven]
          exact ⟨rfl, .inr ⟨List.nil_prefix, rfl, fun _ => .inr ⟨rfl, rfl⟩⟩⟩
        | succ sent => cases hstep
    -- the only end with some of the bytes out and some left
    | cut =>
      cases bytes with
      | nil => cases hstep
      | cons b bytes =>
        cases sent with
        | zero => cases hstep
        | succ sent =>
          obtain rfl := Option.some.inj hstep
          obtain ⟨rfl, htaken, hgiven⟩ := hover hrest
          rw [List.flatMap_cons, List.flatMap_cons, htaken, hgiven]
          exact ⟨rfl, .inr ⟨List.nil_prefix, rfl, fun hcut => absurd hm hcut⟩⟩

/-- A read in progress, and a read that is over: either way it has got what it has taken. -/
theorem Exec.recv {got : List UInt8} {n : Nat} {q : Proc (List UInt8)}
    (h : Exec ok (.recv got n .done) c w q) :
    w = [] ∧ c.length ≤ n ∧ (q = .recv (got ++ c) (n - c.length) .done ∨ q = .done (got ++ c)) := by
  obtain ⟨moves, hok, hrun, rfl, rfl⟩ := h
  induction moves generalizing got n with
  | nil =>
    obtain rfl := Option.some.inj hrun
    exact ⟨rfl, Nat.zero_le _, .inl (by simp)⟩
  | cons m moves ih =>
    obtain ⟨y, hstep, hrest⟩ := Option.bind_eq_some_iff.mp hrun
    obtain ⟨hm, hmoves⟩ := List.forall_mem_cons.mp hok
    -- a call that is over moves nothing any more
    have hover : ∀ {k : List UInt8}, run Proc.step (.done k : Proc (List UInt8)) moves = some q →
        q = .done k ∧ moves.flatMap Move.taken = [] ∧ moves.flatMap Move.given = [] :=
      fun hdone => Exec.of_done ⟨moves, hmoves, hdone, rfl, rfl⟩
    cases n with
    | zero =>
      cases m with
      | finish =>
        obtain rfl := Option.some.inj hstep
        obtain ⟨rfl, htaken, hgiven⟩ := hover hrest
        rw [List.flatMap_cons, List.flatMap_cons, htaken, hgiven]
        exact ⟨rfl, Nat.zero_le _, .inr (by simp [Move.taken])⟩
      | _ => cases hstep
    | succ n =>
      cases m with
      -- the byte is added behind what has been got
      | take b =>
        obtain rfl := Option.some.inj hstep
        obtain ⟨hgiven, hle, hq⟩ := ih hmoves hrest
        rw [List.flatMap_cons, List.flatMap_cons, hgiven]
        refine ⟨rfl, Nat.succ_le_succ hle, ?_⟩
        have happend : got ++ [b] ++ moves.flatMap Move.taken =
            got ++ (Move.taken (.take b) ++ moves.flatMap Move.taken) := List.append_assoc _ _ _
        rw [← happend]
        obtain rfl | rfl := hq
        · left
          congr 1
          simp
        · exact .inr rfl
      | fail =>
        obtain rfl := Option.some.inj hstep
        obtain ⟨rfl, htaken, hgiven⟩ := hover hrest
        rw [List.flatMap_cons, List.flatMap_cons, htaken, hgiven]
        exact ⟨rfl, Nat.zero_le _, .inr (by simp [Move.taken])⟩
      | _ => cases hstep

/-- A write reads nothing, and puts out the front of its bytes. -/
theorem Exec.write {bytes : List UInt8} {q : Proc Nat} (h : Exec ok (write bytes) c w q) :
    c = [] ∧ w <+: bytes := by
  obtain ⟨hc, ⟨rest, hbytes, -⟩ | ⟨hpre, -, -⟩⟩ := h.send
  · exact ⟨hc, rest, hbytes.symm⟩
  · exact ⟨hc, hpre⟩

/-- Only a write that is cut short ends with some of its bytes out. -/
theorem Exec.write_done {bytes : List UInt8} {n : Nat}
    (h : Exec ok (Proc.write bytes) c w (.done n)) :
    c = [] ∧ w <+: bytes ∧ n = w.length ∧ (¬ ok .cut → w = bytes ∨ n = 0) := by
  obtain ⟨hc, ⟨rest, -, hq⟩ | ⟨hpre, hq, hwhole⟩⟩ := h.send
  · cases hq
  · have hn : n = w.length := by
      have := Proc.done.inj hq
      omega
    refine ⟨hc, hpre, hn, fun hcut => ?_⟩
    obtain hw | ⟨-, hw⟩ := hwhole hcut
    · exact .inl hw
    · exact .inr (by rw [hn, hw]; rfl)

/-- A read writes nothing, and takes no more than it asks for. -/
theorem Exec.read {n : Nat} {q : Proc (List UInt8)} (h : Exec ok (read n) c w q) :
    w = [] ∧ c.length ≤ n := ⟨h.recv.1, h.recv.2.1⟩

/-- A read ends with what it has taken. -/
theorem Exec.read_done {n : Nat} {got : List UInt8} (h : Exec ok (Proc.read n) c w (.done got)) :
    w = [] ∧ c = got ∧ got.length ≤ n := by
  obtain ⟨hw, hle, hq | hq⟩ := h.recv
  · cases hq
  · obtain rfl : got = c := Proc.done.inj hq
    exact ⟨hw, rfl, hle⟩

/-- A process that has ended comes to no other end. -/
@[simp] theorem exec_done_iff {r r' : ρ} :
    Exec ok (.done r) c w (.done r') ↔ r' = r ∧ c = [] ∧ w = [] := by
  constructor
  · intro h
    obtain ⟨hr, hc, hw⟩ := h.of_done
    exact ⟨Proc.done.inj hr, hc, hw⟩
  · rintro ⟨rfl, rfl, rfl⟩
    exact .refl _

/-- **Read rule**: what is left goes on behind what the call has got. -/
theorem Exec.read_bind_done {n : Nat} {f : List UInt8 → Proc β} {r : β}
    (h : Exec ok (Proc.read n >>= f) c w (.done r)) :
    ∃ got rest, got.length ≤ n ∧ c = got ++ rest ∧ Exec ok (f got) rest w (.done r) := by
  obtain ⟨got, c₁, c₂, w₁, w₂, rfl, rfl, hread, hrest⟩ := h.bind_done
  obtain ⟨rfl, rfl, hle⟩ := hread.read_done
  exact ⟨c₁, c₂, hle, rfl, hrest⟩

/-- **Write rule**: what is left goes on with the number of bytes that are out. -/
theorem Exec.write_bind_done {bytes : List UInt8} {f : Nat → Proc β} {r : β}
    (h : Exec ok (Proc.write bytes >>= f) c w (.done r)) :
    ∃ out rest, out <+: bytes ∧ w = out ++ rest ∧ Exec ok (f out.length) c rest (.done r) := by
  obtain ⟨n, c₁, c₂, w₁, w₂, rfl, rfl, hwrite, hrest⟩ := h.bind_done
  obtain ⟨rfl, hpre, rfl, -⟩ := hwrite.write_done
  exact ⟨w₁, w₂, hpre, rfl, hrest⟩

/-- **Conjunction rule.** -/
theorem exec_andThen_iff {x y : Proc Bool} :
    Exec ok (x.andThen y) c w (.done true) ↔
      ∃ c₁ c₂ w₁ w₂, c = c₁ ++ c₂ ∧ w = w₁ ++ w₂ ∧ Exec ok x c₁ w₁ (.done true) ∧
        Exec ok y c₂ w₂ (.done true) := by
  constructor
  · intro h
    obtain ⟨b, c₁, c₂, w₁, w₂, hc, hw, hx, hy⟩ := h.bind_done
    cases b with
    | true => exact ⟨c₁, c₂, w₁, w₂, hc, hw, hx, hy⟩
    -- a failure does not become a success behind the first process
    | false => cases (exec_done_iff.mp hy).1
  · rintro ⟨c₁, c₂, w₁, w₂, rfl, rfl, hx, hy⟩
    exact hx.trans hy

/-- A conjunction is in its first part, has come through it, or has ended with it. -/
theorem Exec.andThen {x y : Proc Bool} {q : Proc Bool} (h : Exec ok (x.andThen y) c w q) :
    (∃ x', Exec ok x c w x') ∨
      ∃ c₁ c₂ w₁ w₂, c = c₁ ++ c₂ ∧ w = w₁ ++ w₂ ∧ Exec ok x c₁ w₁ (.done true) ∧
        Exec ok y c₂ w₂ q := by
  obtain ⟨x', -, hx⟩ | ⟨b, c₁, c₂, w₁, w₂, hc, hw, hx, hy⟩ := h.bind
  · exact .inl ⟨x', hx⟩
  · cases b with
    | true => exact .inr ⟨c₁, c₂, w₁, w₂, hc, hw, hx, hy⟩
    | false =>
      obtain ⟨-, rfl, rfl⟩ := Exec.of_done hy
      rw [List.append_nil] at hc hw
      exact .inl ⟨_, hc ▸ hw ▸ hx⟩

/-- Behind a failure the second process does not run. -/
theorem Exec.andThen_false {x : Proc Bool} (h : Exec ok x c w (.done false)) (y : Proc Bool) :
    Exec ok (x.andThen y) c w (.done false) :=
  h.then fun b => if b then y else .done false

/-- Behind a success the second process runs. -/
theorem Exec.andThen_true {x y : Proc Bool} {c' w' : List UInt8} {q : Proc Bool}
    (h : Exec ok x c w (.done true)) (h' : Exec ok y c' w' q) :
    Exec ok (x.andThen y) (c ++ c') (w ++ w') q :=
  h.trans h'

/-- A write can put out all its bytes. -/
theorem exec_write (hgo : ok .go) (bytes : List UInt8) :
    Exec ok (Proc.write bytes) [] bytes (.done bytes.length) := by
  -- the induction is on what is left, for any number of bytes that are out
  have hsend : ∀ (bytes : List UInt8) (sent : Nat),
      Exec ok (.send sent bytes .done) [] bytes (.done (sent + bytes.length)) := by
    intro bytes
    induction bytes with
    | nil => exact fun sent => Exec.head (m := .finish) hgo rfl (.refl _)
    | cons b bytes ih =>
      intro sent
      have hstep : step (.send sent (b :: bytes) .done : Proc Nat) (.give b) =
          some (.send (sent + 1) bytes .done) := if_pos rfl
      have htail := (ih (sent + 1)).head hgo hstep
      rw [Nat.add_assoc, Nat.add_comm 1] at htail
      exact htail
  have h := hsend bytes 0
  rwa [Nat.zero_add] at h

/-- A read can get all the bytes that it asks for. -/
theorem exec_read (hgo : ok .go) (bytes : List UInt8) :
    Exec ok (Proc.read bytes.length) bytes [] (.done bytes) := by
  -- the induction is on what is missing, for any bytes that have been got
  have hrecv : ∀ (bytes got : List UInt8),
      Exec ok (.recv got bytes.length .done) bytes [] (.done (got ++ bytes)) := by
    intro bytes
    induction bytes with
    | nil =>
      intro got
      rw [List.append_nil]
      exact Exec.head (m := .finish) hgo rfl (.refl _)
    | cons b bytes ih =>
      intro got
      have hstep : step (.recv got (bytes.length + 1) .done : Proc (List UInt8)) (.take b) =
          some (.recv (got ++ [b]) bytes.length .done) := rfl
      have htail := (ih (got ++ [b])).head hgo hstep
      rw [List.append_assoc] at htail
      exact htail
  exact hrecv bytes []

/-- A write that is whole, in front of a process. -/
theorem Exec.write_then {bytes : List UInt8} {f : Nat → Proc α} {q : Proc α}
    (h : Exec ok (f bytes.length) c w q) (hgo : ok .go) :
    Exec ok (Proc.write bytes >>= f) c (bytes ++ w) q :=
  (exec_write hgo bytes).trans h

/-- A read that is whole, in front of a process. -/
theorem Exec.read_then {bytes : List UInt8} {f : List UInt8 → Proc α} {q : Proc α}
    (h : Exec ok (f bytes) c w q) (hgo : ok .go) {n : Nat} (hn : bytes.length = n) :
    Exec ok (Proc.read n >>= f) (bytes ++ c) w q :=
  (hn ▸ exec_read hgo bytes).trans h

/-- A call behind which the process reads or writes nothing. -/
theorem Exec.write_last {bytes : List UInt8} {f : Nat → Proc α} {q : Proc α}
    (h : Exec ok (f bytes.length) c [] q) (hgo : ok .go) :
    Exec ok (Proc.write bytes >>= f) c bytes q := by
  have hwrite := h.write_then hgo
  rwa [List.append_nil] at hwrite

/-- A read behind which the process reads nothing. -/
theorem Exec.read_last {bytes : List UInt8} {f : List UInt8 → Proc α} {q : Proc α}
    (h : Exec ok (f bytes) [] w q) (hgo : ok .go) {n : Nat} (hn : bytes.length = n) :
    Exec ok (Proc.read n >>= f) bytes w q := by
  have hread := h.read_then hgo hn
  rwa [List.append_nil] at hread

/-! ### What a process writes at most -/

/-- The process writes the front of `bytes`, and all of it if it succeeds. -/
structure Writes (ok : How → Prop) (x : Proc Bool) (bytes : List UInt8) : Prop where
  pre : ∀ {c w q}, Exec ok x c w q → w <+: bytes
  whole : ∀ {c w}, Exec ok x c w (.done true) → w = bytes

/-- A process that has ended writes nothing. -/
theorem writes_done (r : Bool) : Writes ok (.done r) [] where
  pre h := h.of_done.2.2 ▸ List.nil_prefix
  whole h := h.of_done.2.2

/-- A write that is not cut short. -/
theorem writes_write (hcut : ¬ ok .cut) (bytes : List UInt8) :
    Writes ok (Proc.write bytes >>= fun res => .done (0 < res)) bytes where
  pre h := by
    obtain ⟨y, -, hy⟩ | ⟨n, c₁, c₂, w₁, w₂, rfl, rfl, hwrite, hdone⟩ := h.bind
    · exact hy.write.2
    · obtain ⟨-, rfl, rfl⟩ := hdone.of_done
      rw [List.append_nil]
      exact hwrite.write.2
  whole h := by
    obtain ⟨n, c₁, c₂, w₁, w₂, rfl, rfl, hwrite, hdone⟩ := h.bind_done
    obtain ⟨hpos, rfl, rfl⟩ := exec_done_iff.mp hdone
    obtain ⟨-, -, -, hwhole⟩ := hwrite.write_done
    rw [List.append_nil]
    -- a write that has put out nothing is no success
    obtain hw | hzero := hwhole hcut
    · exact hw
    · rw [hzero] at hpos
      cases hpos

/-- The second process writes behind the whole of the first. -/
theorem Writes.andThen {x y : Proc Bool} {a b : List UInt8} (hx : Writes ok x a)
    (hy : Writes ok y b) : Writes ok (x.andThen y) (a ++ b) where
  pre h := by
    obtain ⟨x', h⟩ | ⟨c₁, c₂, w₁, w₂, rfl, rfl, h₁, h₂⟩ := h.andThen
    · -- the first process has not ended
      exact (hx.pre h).trans (List.prefix_append a b)
    · rw [hx.whole h₁]
      exact (List.prefix_append_right_inj a).mpr (hy.pre h₂)
  whole h := by
    obtain ⟨c₁, c₂, w₁, w₂, rfl, rfl, h₁, h₂⟩ := exec_andThen_iff.mp h
    rw [hx.whole h₁, hy.whole h₂]

/-- The process writes nothing. -/
structure Silent (ok : How → Prop) (x : Proc α) : Prop where
  nothing : ∀ {c w q}, Exec ok x c w q → w = []

/-- A process that has ended is silent. -/
theorem silent_done (a : α) : Silent ok (.done a) := ⟨fun h => h.of_done.2.2⟩

/-- A read is silent. -/
theorem silent_read (n : Nat) : Silent ok (Proc.read n) := ⟨fun h => h.read.1⟩

/-- A process made of silent ones is silent. -/
theorem Silent.bind {x : Proc α} {f : α → Proc β} (hx : Silent ok x) (hf : ∀ a, Silent ok (f a)) :
    Silent ok (x >>= f) := by
  refine ⟨fun h => ?_⟩
  obtain ⟨y, -, hy⟩ | ⟨a, c₁, c₂, w₁, w₂, rfl, rfl, h₁, h₂⟩ := h.bind
  · exact hx.nothing hy
  · rw [hx.nothing h₁, (hf a).nothing h₂]
    rfl

/-- So is a conjunction of silent ones. -/
theorem Silent.andThen {x y : Proc Bool} (hx : Silent ok x) (hy : Silent ok y) :
    Silent ok (x.andThen y) :=
  hx.bind fun b => by
    cases b with
    | true => exact hy
    | false => exact silent_done false

/-- A silent process writes the front of no bytes. -/
theorem Silent.writes {x : Proc Bool} (h : Silent ok x) : Writes ok x [] where
  pre hx := h.nothing hx ▸ List.nil_prefix
  whole hx := h.nothing hx

/-! ### One process and what it has been sent -/

/-- The next step of a process that is not disturbed: what it becomes, what is left of what it has
    been sent, and what it writes. -/
def advance : Proc ρ → List UInt8 → Option (Proc ρ × List UInt8 × List UInt8)
  | .done _, _ => none
  | .send sent [] next, inbox => some (next sent, inbox, [])
  | .send sent (b :: bytes) next, inbox => some (.send (sent + 1) bytes next, inbox, [b])
  | .recv got 0 next, inbox => some (next got, inbox, [])
  | .recv got (n + 1) next, b :: inbox => some (.recv (got ++ [b]) n next, inbox, [])
  | .recv _ (_ + 1) _, [] => none

def move (p : Proc ρ) (inbox : List UInt8) (how : How) :
    Option (Proc ρ × List UInt8 × List UInt8) :=
  match how with
  | .go => p.advance inbox
  | .fail => (p.step .fail).map fun q => (q, inbox, [])
  | .cut => (p.step .cut).map fun q => (q, inbox, [])

/-- What a process does with what it has been sent is a move of its own. -/
theorem exists_step_of_advance {inbox rest out : List UInt8}
    (h : p.advance inbox = some (q, rest, out)) :
    ∃ m, m.how = .go ∧ p.step m = some q ∧ inbox = m.taken ++ rest ∧ out = m.given := by
  unfold advance at h
  split at h
  · cases h
  · cases h
    exact ⟨.finish, rfl, rfl, rfl, rfl⟩
  · next sent b bytes next =>
    cases h
    exact ⟨.give b, rfl, if_pos rfl, rfl, rfl⟩
  · cases h
    exact ⟨.finish, rfl, rfl, rfl, rfl⟩
  · next got n next b inbox =>
    cases h
    exact ⟨.take b, rfl, rfl, rfl, rfl⟩
  · cases h

/-- The same for a call that fails. -/
theorem exists_step_of_move {inbox rest out : List UInt8} {how : How}
    (h : p.move inbox how = some (q, rest, out)) :
    ∃ m, m.how = how ∧ p.step m = some q ∧ inbox = m.taken ++ rest ∧ out = m.given := by
  cases how with
  | go => exact exists_step_of_advance h
  | fail =>
    obtain ⟨q', hstep, hq⟩ := Option.map_eq_some_iff.mp h
    cases hq
    exact ⟨.fail, rfl, hstep, rfl, rfl⟩
  | cut =>
    obtain ⟨q', hstep, hq⟩ := Option.map_eq_some_iff.mp h
    cases hq
    exact ⟨.cut, rfl, hstep, rfl, rfl⟩

/-- A move that can be made by itself can be made with what has been sent. -/
theorem advance_of_step {m : Move} (hm : m.how = .go) (h : p.step m = some q)
    (inbox : List UInt8) : p.advance (m.taken ++ inbox) = some (q, inbox, m.given) := by
  unfold step at h
  split at h
  · cases h
    rfl
  · next sent b bytes next c =>
    obtain ⟨rfl, hq⟩ := Option.ite_none_right_eq_some.mp h
    obtain rfl := Option.some.inj hq
    rfl
  · cases hm
  · cases hm
  · cases h
    rfl
  · cases h
    rfl
  · cases hm
  · cases h

/-- What comes behind does not matter to a step that can be taken. -/
theorem advance_append {inbox rest out : List UInt8}
    (h : p.advance inbox = some (q, rest, out)) (more : List UInt8) :
    p.advance (inbox ++ more) = some (q, rest ++ more, out) := by
  unfold advance at h
  split at h
  · cases h
  · cases h
    rfl
  · cases h
    rfl
  · cases h
    rfl
  · cases h
    rfl
  · cases h

end Proc

/-! ## Two processes -/

/-- Two processes, each of which reads what the other writes. -/
structure Duplex (α β : Type) where
  left : Proc α
  right : Proc β
  /-- What the left process has written and the right one has not read. -/
  up : List UInt8
  down : List UInt8

inductive Side where
  | left
  | right
  deriving DecidableEq, Repr

structure Action where
  side : Side
  how : Proc.How
  deriving DecidableEq, Repr

namespace Duplex

def step (s : Duplex α β) (a : Action) : Option (Duplex α β) :=
  match a.side with
  | .left => (s.left.move s.down a.how).map fun r =>
      { left := r.1, right := s.right, up := s.up ++ r.2.2, down := r.2.1 }
  | .right => (s.right.move s.up a.how).map fun r =>
      { left := s.left, right := r.1, up := r.2.1, down := s.down ++ r.2.2 }

/-- A step that is not disturbed. -/
def go (s : Duplex α β) (side : Side) : Option (Duplex α β) := s.step ⟨side, .go⟩

/-- Before anything is written. -/
def start (p : Proc α) (q : Proc β) : Duplex α β := ⟨p, q, [], []⟩

/-! ### Every run is one of either process -/

/-- Each process has come this far by itself, and what one has written is what the other has read,
    with what is in between. -/
def Split (ok : Proc.How → Prop) (p : Proc α) (q : Proc β) (s : Duplex α β) : Prop :=
  ∃ c₁ w₁ c₂ w₂, Proc.Exec ok p c₁ w₁ s.left ∧ Proc.Exec ok q c₂ w₂ s.right ∧
    w₁ = c₂ ++ s.up ∧ w₂ = c₁ ++ s.down

/-- A step of the system is a move of one of the two, and what is in between accounts for it. -/
theorem Split.step {ok : Proc.How → Prop} {p : Proc α} {q : Proc β} {s t : Duplex α β}
    {a : Action} (h : Split ok p q s) (ha : ok a.how) (ht : s.step a = some t) :
    Split ok p q t := by
  obtain ⟨c₁, w₁, c₂, w₂, hleft, hright, hup, hdown⟩ := h
  obtain ⟨side, how⟩ := a
  cases side with
  -- the left process takes from `down` and adds to `up`
  | left =>
    obtain ⟨⟨p', rest, out⟩, hmove, rfl⟩ := Option.map_eq_some_iff.mp ht
    obtain ⟨m, rfl, hstep, htaken, rfl⟩ := Proc.exists_step_of_move hmove
    refine ⟨_, _, c₂, w₂, hleft.tail ha hstep, hright, ?_, ?_⟩
    · rw [hup, List.append_assoc]
    · rw [hdown, htaken, List.append_assoc]
  -- the right process the other way round
  | right =>
    obtain ⟨⟨q', rest, out⟩, hmove, rfl⟩ := Option.map_eq_some_iff.mp ht
    obtain ⟨m, rfl, hstep, htaken, rfl⟩ := Proc.exists_step_of_move hmove
    refine ⟨c₁, w₁, _, _, hleft, hright.tail ha hstep, ?_, ?_⟩
    · rw [hup, htaken, List.append_assoc]
    · rw [hdown, List.append_assoc]

/-- **Every run is one of either process**, whose bytes are those of the other. -/
theorem exec_of_run {ok : Proc.How → Prop} {p : Proc α} {q : Proc β} {s : Duplex α β}
    {as : List Action} (hok : ∀ a ∈ as, ok a.how) (hrun : run step (start p q) as = some s) :
    Split ok p q s :=
  run_invariant_of_mem (fun _ a ha h _ ht => h.step (hok a ha) ht)
    ⟨[], [], [], [], .refl p, .refl q, rfl, rfl⟩ hrun

/-! ### All runs end alike -/

/-- The left process only takes from the front of what the right one appends to. -/
theorem commutes_go : Commutes (go : Duplex α β → Side → Option (Duplex α β)) := by
  have hboth : ∀ {s t u : Duplex α β}, s.go .left = some t → s.go .right = some u →
      ∃ v, t.go .right = some v ∧ u.go .left = some v := by
    intro s t u ht hu
    obtain ⟨⟨p, down, given⟩, hp, rfl⟩ := Option.map_eq_some_iff.mp ht
    obtain ⟨⟨q, up, given'⟩, hq, rfl⟩ := Option.map_eq_some_iff.mp hu
    -- what the other process has added lies behind what this one takes
    have hp' := Proc.advance_append hp given'
    have hq' := Proc.advance_append hq given
    exact ⟨⟨p, q, up ++ given, down ++ given'⟩,
      Option.map_eq_some_iff.mpr ⟨(q, up ++ given, given'), hq', rfl⟩,
      Option.map_eq_some_iff.mpr ⟨(p, down ++ given', given), hp', rfl⟩⟩
  intro s a b t u hab ha hb
  cases a with
  | left =>
    cases b with
    | left => exact absurd rfl hab
    | right => exact hboth ha hb
  | right =>
    cases b with
    | left =>
      obtain ⟨v, hv, hv'⟩ := hboth hb ha
      exact ⟨v, hv', hv⟩
    | right => exact absurd rfl hab

/-- One run leads from `s` to `t`. -/
def Reach (s t : Duplex α β) : Prop := ∃ sides, run go s sides = some t

/-- The run without steps. -/
theorem Reach.refl (s : Duplex α β) : Reach s s := ⟨[], rfl⟩

/-- One run after the other. -/
theorem Reach.trans {s t u : Duplex α β} (h : Reach s t) (h' : Reach t u) : Reach s u := by
  obtain ⟨as, has⟩ := h
  obtain ⟨bs, hbs⟩ := h'
  refine ⟨as ++ bs, ?_⟩
  rw [run_append, has]
  exact hbs

/-- One step. -/
theorem Reach.single {s t : Duplex α β} (side : Side) (h : s.go side = some t) : Reach s t :=
  ⟨[side], Option.bind_eq_some_iff.mpr ⟨t, h, rfl⟩⟩

/-- **Where one run ends, every run ends.**  A run that has come to any state `t` can go on to the
    end, and no run is longer. -/
theorem exists_run_of_reach {s : Duplex α β} {a : α} {b : β} {up down : List UInt8}
    (h : Reach s ⟨.done a, .done b, up, down⟩) :
    ∃ n, ∀ sides t, run go s sides = some t →
      ∃ more, run go t more = some ⟨.done a, .done b, up, down⟩ ∧
        sides.length + more.length = n := by
  obtain ⟨as, has⟩ := h
  refine ⟨as.length, fun sides _ hrun => ?_⟩
  -- two processes that have ended do nothing
  have hstuck : ∀ side, go (⟨.done a, .done b, up, down⟩ : Duplex α β) side = none := by
    intro side
    cases side <;> rfl
  obtain ⟨more, hmore, hlen⟩ := commutes_go.exists_run_of_run hstuck has hrun
  exact ⟨more, hmore, hlen.symm⟩

/-! ### One process after the other -/

/-- The left process reads what is there, and writes. -/
theorem reach_left {p p' : Proc α} {c w : List UInt8} (h : Proc.Exec Proc.Undisturbed p c w p')
    (q : Proc β) (up down : List UInt8) :
    Reach ⟨p, q, up, c ++ down⟩ ⟨p', q, up ++ w, down⟩ := by
  obtain ⟨moves, hok, hrun, rfl, rfl⟩ := h
  induction moves generalizing p up with
  | nil =>
    obtain rfl := Option.some.inj hrun
    show Reach ⟨p, q, up, down⟩ ⟨p, q, up ++ [], down⟩
    rw [List.append_nil]
    exact .refl _
  | cons m moves ih =>
    obtain ⟨p₁, hstep, hrest⟩ := Option.bind_eq_some_iff.mp hrun
    obtain ⟨hm, hmoves⟩ := List.forall_mem_cons.mp hok
    -- the first move takes from the front and adds behind, and the rest follows it
    rw [List.flatMap_cons, List.flatMap_cons, List.append_assoc, ← List.append_assoc up]
    refine Reach.trans (.single .left ?_) (ih (up ++ m.given) hmoves hrest)
    exact Option.map_eq_some_iff.mpr ⟨_, Proc.advance_of_step hm hstep _, rfl⟩

/-- The two processes change places. -/
def swap (s : Duplex α β) : Duplex β α := ⟨s.right, s.left, s.down, s.up⟩

def Side.swap : Side → Side
  | .left => .right
  | .right => .left

/-- A step is the other side's step with the processes exchanged. -/
theorem go_swap (s : Duplex α β) (side : Side) :
    s.swap.go (Side.swap side) = (s.go side).map Duplex.swap := by
  cases side with
  | left =>
    show Option.map _ _ = Option.map _ (Option.map _ _)
    rw [Option.map_map]
    rfl
  | right =>
    show Option.map _ _ = Option.map _ (Option.map _ _)
    rw [Option.map_map]
    rfl

/-- A run with the processes exchanged. -/
theorem Reach.swap {s t : Duplex α β} (h : Reach s t) : Reach s.swap t.swap := by
  obtain ⟨sides, hrun⟩ := h
  refine ⟨sides.map Side.swap, ?_⟩
  induction sides generalizing s with
  | nil =>
    obtain rfl := Option.some.inj hrun
    rfl
  | cons side sides ih =>
    obtain ⟨u, hu, hrest⟩ := Option.bind_eq_some_iff.mp hrun
    rw [List.map_cons, run_cons, go_swap, hu]
    exact ih hrest

/-- The right process reads what is there, and writes. -/
theorem reach_right {q q' : Proc β} {c w : List UInt8} (h : Proc.Exec Proc.Undisturbed q c w q')
    (p : Proc α) (up down : List UInt8) :
    Reach ⟨p, q, c ++ up, down⟩ ⟨p, q', up, down ++ w⟩ :=
  (reach_left h p down up).swap

end Duplex

end DarkMed.Lib.Wire
