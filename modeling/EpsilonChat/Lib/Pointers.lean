import Mathlib.Logic.Function.Iterate
import Mathlib.Logic.Function.Basic

/-!
# Chains of pointers

Every node `a` points to `f a`.  A chain from `a` reaches the root `r` if following the pointers
leads there (`Reaches`).  Pointers are changed one at a time, by `Function.update f c v`:

* `Reaches.redirect`: a pointer to the root itself breaks no chain;
* `Reaches.update`: a pointer that was on no chain breaks none either, wherever it goes;
* `Reaches.of_update_self`: a loop at a node makes no chain.
-/

namespace Lib

section
variable {α : Type*} {f : α → α} {r a c v : α}

def Reaches (f : α → α) (r a : α) : Prop := ∃ n, f^[n] a = r

theorem Reaches.root : Reaches f r r := ⟨0, rfl⟩

theorem Reaches.step (h : Reaches f r (f a)) : Reaches f r a := by
  obtain ⟨n, hn⟩ := h
  exact ⟨n + 1, hn⟩

/-- a chain can be followed by induction from its root -/
theorem Reaches.induction {p : α → Prop} (hroot : p r)
    (hstep : ∀ x, Reaches f r (f x) → p (f x) → p x) (h : Reaches f r a) : p a := by
  obtain ⟨n, hn⟩ := h
  induction n generalizing a with
  | zero =>
    have ha : a = r := hn
    rw [ha]
    exact hroot
  | succ n ih => exact hstep a ⟨n, hn⟩ (ih hn)

theorem not_reaches_of_fixed (hfix : f a = a) (hne : a ≠ r) : ¬ Reaches f r a := by
  intro ⟨n, hn⟩
  rw [Function.iterate_fixed hfix] at hn
  exact hne hn

theorem not_reaches_of_step (hne : a ≠ r) (h : ¬ Reaches f r (f a)) : ¬ Reaches f r a := by
  intro ⟨n, hn⟩
  cases n with
  | zero => exact hne hn
  | succ n => exact h ⟨n, hn⟩

variable [DecidableEq α]

theorem Reaches.redirect (h : Reaches f r a) : Reaches (Function.update f c r) r a := by
  refine Reaches.induction (p := Reaches (Function.update f c r) r) Reaches.root ?_ h
  intro x _ ih
  refine Reaches.step ?_
  by_cases e : x = c
  · rw [e, Function.update_self]
    exact Reaches.root
  · rw [Function.update_of_ne e]
    exact ih

/-- a pointer that was on no chain breaks none -/
theorem Reaches.update (hc : ¬ Reaches f r c) (h : Reaches f r a) :
    Reaches (Function.update f c v) r a := by
  refine Reaches.induction (p := Reaches (Function.update f c v) r) Reaches.root ?_ h
  intro x hx ih
  refine Reaches.step ?_
  have e : x ≠ c := fun e => hc (e ▸ hx.step)
  rw [Function.update_of_ne e]
  exact ih

theorem Reaches.of_update_self (hne : c ≠ r) (h : Reaches (Function.update f c c) r a) :
    Reaches f r a := by
  refine Reaches.induction Reaches.root ?_ h
  intro x hx ih
  by_cases e : x = c
  · subst e
    rw [Function.update_self] at hx
    exact absurd hx (not_reaches_of_fixed (Function.update_self ..) hne)
  · rw [Function.update_of_ne e] at ih
    exact ih.step

end

end Lib
