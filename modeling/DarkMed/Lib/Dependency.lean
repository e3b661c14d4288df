import Mathlib.Logic.Relation
import Mathlib.Order.WellFounded

/-!
# Dependency Relations

A relation `needs x y` between things of any kind that come into being one after
another.  It stays well founded when a new thing only needs others, and nothing
needs the new one yet.
-/

namespace DarkMed.Lib

open Relation

variable {α : Type*} {needs needs' : α → α → Prop}

/-- Nothing needs itself, over any number of steps. -/
theorem not_transGen_self (hwf : WellFounded (Function.swap needs)) (x : α) :
    ¬ TransGen needs x x := by
  intro hcycle
  have hswap : TransGen (Function.swap needs) x x := transGen_swap.mpr hcycle
  exact hwf.transGen.irrefl.irrefl x hswap

/-- **A new thing keeps a dependency relation well founded**, when nothing needs it. -/
theorem wellFounded_of_fresh {new : α} (hwf : WellFounded (Function.swap needs))
    (hold : ∀ x y, needs' x y → x ≠ new → needs x y) (hfresh : ∀ x y, needs' x y → y ≠ new) :
    WellFounded (Function.swap needs') := by
  have hacc : ∀ x, x ≠ new → Acc (Function.swap needs') x := by
    intro x
    induction x using hwf.induction with
    | h x ih => exact fun hx => ⟨x, fun y hy => ih y (hold x y hy hx) (hfresh x y hy)⟩
  refine ⟨fun x => ?_⟩
  by_cases hx : x = new
  · exact ⟨x, fun y hy => hacc y (hfresh x y hy)⟩
  · exact hacc x hx

/-- What holds of everything needed directly holds of everything needed at all, when it passes
    on along the relation. -/
theorem forall_transGen {P : α → Prop} (hpass : ∀ x, P x → ∀ y, needs x y → P y) {x : α}
    (hdirect : ∀ y, needs x y → P y) : ∀ y, TransGen needs x y → P y := by
  intro y hy
  induction hy with
  | single h => exact hdirect _ h
  | tail _ hlast ih => exact hpass _ ih _ hlast

end DarkMed.Lib
