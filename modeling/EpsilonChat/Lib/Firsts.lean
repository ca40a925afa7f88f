import Mathlib.Data.List.Induction
import Mathlib.Data.List.Pairwise

/-!
# The first element of each key

A loop that collects the elements of a list and leaves out those whose key it has seen already.

* `pushNew`, `firsts`: the loop;
* `exists_mem_firsts`: no key is lost;
* `pairwise_firsts`: no key is there twice;
* **`mem_firsts_iff`**: what is collected is what comes FIRST with its key;
* `exists_mem_firsts_filter_concat`: what one more element does to the first ones in a part;
* `mem_eraseP_iff`: erasing one element by a property that its key decides.
-/

set_option linter.unusedSectionVars false

namespace Lib

section
variable {α β : Type*} [DecidableEq β] (key : α → β)

def pushNew (seen : List α) (x : α) : List α :=
  if ∃ y ∈ seen, key y = key x then seen else seen ++ [x]

def firsts (l : List α) : List α := l.foldl (pushNew key) []

/-- `x` is in the list, behind nothing with its key -/
def First (l : List α) (x : α) : Prop :=
  ∃ front back, l = front ++ x :: back ∧ ∀ y ∈ front, key y ≠ key x

theorem firsts_concat (l : List α) (x : α) :
    firsts key (l ++ [x]) = pushNew key (firsts key l) x := by
  rw [firsts, List.foldl_append]
  rfl

theorem exists_mem_pushNew (P : α → Prop) (seen : List α) (x : α) :
    (∃ y ∈ pushNew key seen x, P y) ↔
      (∃ y ∈ seen, P y) ∨ (¬ ∃ y ∈ seen, key y = key x) ∧ P x := by
  unfold pushNew
  by_cases hx : ∃ y ∈ seen, key y = key x
  · rw [if_pos hx]
    exact ⟨.inl, fun h => h.resolve_right fun h' => h'.1 hx⟩
  · rw [if_neg hx]
    simp only [List.mem_append, List.mem_singleton, or_and_right, exists_or, exists_eq_left, hx,
      not_false_eq_true, true_and]

theorem exists_mem_firsts (l : List α) (k : β) :
    (∃ y ∈ firsts key l, key y = k) ↔ ∃ y ∈ l, key y = k := by
  induction l using List.reverseRecOn with
  | nil => exact Iff.rfl
  | append_singleton l x ih =>
    have hcons : (∃ y ∈ l ++ [x], key y = k) ↔ (∃ y ∈ l, key y = k) ∨ key x = k := by
      simp only [List.mem_append, List.mem_singleton, or_and_right, exists_or, exists_eq_left]
    rw [firsts_concat, exists_mem_pushNew, hcons, ← ih]
    constructor
    · exact Or.imp_right And.right
    · rintro (h | rfl)
      · exact .inl h
      · exact or_iff_not_imp_left.mpr fun h => ⟨h, rfl⟩

theorem pairwise_firsts (l : List α) : (firsts key l).Pairwise fun x y => key x ≠ key y := by
  induction l using List.reverseRecOn with
  | nil => exact List.Pairwise.nil
  | append_singleton l x ih =>
    rw [firsts_concat, pushNew]
    by_cases hx : ∃ y ∈ firsts key l, key y = key x
    · rw [if_pos hx]
      exact ih
    · rw [if_neg hx, List.pairwise_append]
      refine ⟨ih, List.pairwise_singleton _ x, fun y hy z hz => ?_⟩
      rw [List.mem_singleton.mp hz]
      exact fun h => hx ⟨y, hy, h⟩

theorem first_concat_iff (l : List α) (x z : α) :
    First key (l ++ [x]) z ↔ First key l z ∨ z = x ∧ ∀ y ∈ l, key y ≠ key x := by
  constructor
  · rintro ⟨front, back, h, hfirst⟩
    rcases List.eq_nil_or_concat back with rfl | ⟨back, b, rfl⟩
    · obtain ⟨hl, hx⟩ := List.append_inj' h rfl
      subst hl
      cases hx
      exact .inr ⟨rfl, hfirst⟩
    · rw [List.concat_eq_append, ← List.cons_append, ← List.append_assoc] at h
      obtain ⟨hl, -⟩ := List.append_inj' h rfl
      exact .inl ⟨front, back, hl, hfirst⟩
  · rintro (⟨front, back, rfl, hfirst⟩ | ⟨rfl, hnew⟩)
    · exact ⟨front, back ++ [x], by simp, hfirst⟩
    · exact ⟨l, [], rfl, hnew⟩

theorem mem_firsts_iff (l : List α) (z : α) : z ∈ firsts key l ↔ First key l z := by
  induction l using List.reverseRecOn with
  | nil =>
    refine iff_of_false List.not_mem_nil ?_
    rintro ⟨front, back, h, -⟩
    cases front <;> cases h
  | append_singleton l x ih =>
    have hseen := exists_mem_firsts key l (key x)
    rw [firsts_concat, pushNew, first_concat_iff, ← ih]
    by_cases hx : ∃ y ∈ firsts key l, key y = key x
    · rw [if_pos hx]
      refine ⟨.inl, ?_⟩
      rintro (h | ⟨-, hnew⟩)
      · exact h
      · obtain ⟨y, hy, hk⟩ := hseen.mp hx
        exact absurd hk (hnew y hy)
    · rw [if_neg hx, List.mem_append, List.mem_singleton]
      refine or_congr_right ⟨fun h => ⟨h, fun y hy hk => hx (hseen.mpr ⟨y, hy, hk⟩)⟩, And.left⟩

theorem length_firsts_le_one_iff {l : List α} {z : α} (hz : z ∈ firsts key l) :
    (firsts key l).length ≤ 1 ↔ ∀ y ∈ l, key y = key z := by
  have hall : (∀ y ∈ l, key y = key z) ↔ ∀ y ∈ firsts key l, key y = key z := by
    constructor
    · intro h y hy
      obtain ⟨x, hx, hk⟩ := (exists_mem_firsts key l (key y)).mp ⟨y, hy, rfl⟩
      rw [← hk, h x hx]
    · intro h y hy
      obtain ⟨x, hx, hk⟩ := (exists_mem_firsts key l (key y)).mpr ⟨y, hy, rfl⟩
      rw [← hk, h x hx]
  rw [hall]
  have hdistinct := pairwise_firsts key l
  match firsts key l, hz, hdistinct with
  | [x], hz, _ =>
    refine iff_of_true (Nat.le_refl 1) fun y hy => ?_
    rw [List.mem_singleton.mp hy, List.mem_singleton.mp hz]
  | x :: y :: rest, hz, hdistinct =>
    refine iff_of_false (by simp) fun h => ?_
    have hne := (List.pairwise_cons.mp hdistinct).1 y List.mem_cons_self
    exact hne ((h x List.mem_cons_self).trans
      (h y (List.mem_cons_of_mem x List.mem_cons_self)).symm)

/-! ## in a part of the list -/

theorem firsts_filter_concat (p : α → Bool) (l : List α) (x : α) :
    firsts key ((l ++ [x]).filter p) =
      if p x then pushNew key (firsts key (l.filter p)) x else firsts key (l.filter p) := by
  rw [List.filter_append]
  by_cases h : p x = true
  · rw [if_pos h, List.filter_cons_of_pos h, List.filter_nil, firsts_concat]
  · rw [if_neg h, List.filter_cons_of_neg h, List.filter_nil, List.append_nil]

theorem exists_mem_firsts_filter_concat (P : α → Prop) (p : α → Bool) (l : List α) (x : α) :
    (∃ y ∈ firsts key ((l ++ [x]).filter p), P y) ↔ (∃ y ∈ firsts key (l.filter p), P y) ∨
      p x = true ∧ (¬ ∃ y ∈ firsts key (l.filter p), key y = key x) ∧ P x := by
  rw [firsts_filter_concat]
  by_cases h : p x = true
  · rw [if_pos h, exists_mem_pushNew]
    simp only [h, true_and]
  · rw [if_neg h]
    simp only [h, Bool.false_eq_true, false_and, or_false]

theorem mem_eraseP_iff {l : List α} (hl : l.Pairwise fun x y => key x ≠ key y) {p : α → Bool}
    (hp : ∀ x y, p x = true → p y = true → key x = key y) {z : α} (hz : z ∈ l) :
    z ∈ l.eraseP p ↔ p z = false := by
  have hinj : ∀ x ∈ l, ∀ y ∈ l, key x = key y → x = y := fun x hx y hy hk => by
    by_contra hne
    have : Std.Symm fun x y => key x ≠ key y := ⟨fun _ _ h => h.symm⟩
    exact hl.forall hx hy hne hk
  cases hpz : p z with
  | false =>
    refine iff_of_true ?_ rfl
    rwa [List.mem_eraseP_of_neg (by rw [hpz]; exact Bool.false_ne_true)]
  | true =>
    refine iff_of_false ?_ Bool.noConfusion
    obtain ⟨w, front, back, -, hpw, hsplit, herase⟩ := List.exists_of_eraseP hz hpz
    have hw : w = z := hinj w (by rw [hsplit]; simp) z hz (hp w z hpw hpz)
    subst hw
    rw [herase]
    rw [hsplit, List.pairwise_append, List.pairwise_cons] at hl
    intro hmem
    rcases List.mem_append.mp hmem with h | h
    · exact hl.2.2 w h w List.mem_cons_self rfl
    · exact hl.2.1.1 w h rfl

end

end Lib
