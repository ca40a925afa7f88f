import Mathlib.Data.Nat.Basic
import Mathlib.Tactic.Basic

/-!
# Leads-to

Properties of the moments `0, 1, 2, …` of an endless run.  `LeadsTo P Q`: whenever `P` holds, `Q`
holds then or later.

* `stays_or_reaches`: what holds until something else does;
* `LeadsTo.of_fair`: `P` stays until `Q` comes, and a step taken sooner or later brings `Q`;
* `LeadsTo.of_lt`: a number gets smaller until `Q` comes;
* `LeadsTo.of_unless`: `P` stays until `Q` comes, and a number gets smaller meanwhile.
-/

namespace Lib

def LeadsTo (P Q : ℕ → Prop) : Prop := ∀ t, P t → ∃ u ≥ t, Q u

section
variable {P Q A : ℕ → Prop}

theorem stays_or_reaches (hstep : ∀ t, P t → P (t + 1) ∨ Q (t + 1)) {t u : ℕ} (hP : P t)
    (htu : t ≤ u) : P u ∨ ∃ v, t ≤ v ∧ v ≤ u ∧ Q v := by
  induction u, htu using Nat.le_induction with
  | base => exact .inl hP
  | succ u hu ih =>
    rcases ih with hPu | ⟨v, htv, hvu, hQ⟩
    · rcases hstep u hPu with hP' | hQ
      · exact .inl hP'
      · exact .inr ⟨u + 1, Nat.le_succ_of_le hu, le_rfl, hQ⟩
    · exact .inr ⟨v, htv, Nat.le_succ_of_le hvu, hQ⟩

theorem LeadsTo.of_fair (hstep : ∀ t, P t → P (t + 1) ∨ Q (t + 1))
    (hfair : ∀ t, P t → ∃ u ≥ t, A u) (hact : ∀ t, P t → A t → Q (t + 1)) : LeadsTo P Q := by
  intro t hP
  obtain ⟨u, htu, hA⟩ := hfair t hP
  rcases stays_or_reaches hstep hP htu with hPu | ⟨v, htv, -, hQ⟩
  · exact ⟨u + 1, Nat.le_succ_of_le htu, hact u hPu hA⟩
  · exact ⟨v, htv, hQ⟩

/-- the number `m` decreases as long as `P` holds and `Q` does not -/
theorem LeadsTo.of_lt (m : ℕ → ℕ)
    (h : ∀ k, LeadsTo (fun t => P t ∧ m t = k) fun t => Q t ∨ P t ∧ m t < k) : LeadsTo P Q := by
  intro t hP
  induction hk : m t using Nat.strong_induction_on generalizing t with
  | _ k ih =>
    obtain ⟨u, htu, hQ | ⟨hPu, hlt⟩⟩ := h k t ⟨hP, hk⟩
    · exact ⟨u, htu, hQ⟩
    · obtain ⟨v, huv, hQ⟩ := ih (m u) hlt u hPu rfl
      exact ⟨v, le_trans htu huv, hQ⟩

/-- `P` holds until `Q` comes, and the number `m` decreases meanwhile -/
theorem LeadsTo.of_unless (m : ℕ → ℕ) (hstep : ∀ t, P t → P (t + 1) ∨ Q (t + 1))
    (hm : ∀ k, LeadsTo (fun t => P t ∧ m t = k) fun t => m t < k) : LeadsTo P Q := by
  refine LeadsTo.of_lt m fun k t ht => ?_
  obtain ⟨u, htu, hlt⟩ := hm k t ht
  rcases stays_or_reaches hstep ht.1 htu with hP | ⟨v, htv, -, hQ⟩
  · exact ⟨u, htu, .inr ⟨hP, hlt⟩⟩
  · exact ⟨v, htv, .inl hQ⟩

end

end Lib
