import Mathlib.Order.Lattice
import Mathlib.Data.List.Basic

/-!
# Guarded runs, and replicas whose updates are joins

A replica is a state of type `σ` together with an update `step : σ → ι → σ`; a run applies a list
of updates from the left (`List.foldl step`).

* `RunOk step ok s l`: every update of `l` meets the guard `ok` in the state it is applied to;
* `RunOk.inv`: what one guarded update preserves, a guarded run preserves;
* `joinAll elt x l`: the join of `x` and of the elements of the updates in `l`; it depends only on
  WHICH updates occur in `l` (`joinAll_congr`);
* `JoinView`: seen through `view : σ → L`, a guarded update is the join with its own element
  `elt i`;
* `JoinView.converge`: **two guarded runs over the same updates, in any order and with any
  repetitions, end with the same view.**
-/

namespace Lib

/-! ## guarded runs -/

section
variable {σ ι : Type*} {step : σ → ι → σ} {ok : σ → ι → Prop}

/-- every update of the list meets `ok` in the state it is applied to -/
def RunOk (step : σ → ι → σ) (ok : σ → ι → Prop) : σ → List ι → Prop
  | _, [] => True
  | s, i :: l => ok s i ∧ RunOk step ok (step s i) l

theorem RunOk.of_mem (l : List ι) (h : ∀ i ∈ l, ∀ s, ok s i) (s : σ) : RunOk step ok s l := by
  induction l generalizing s with
  | nil => exact trivial
  | cons i l ih =>
    exact ⟨h i List.mem_cons_self s, ih (fun j hj => h j (List.mem_cons_of_mem _ hj)) (step s i)⟩

theorem runOk_append (s : σ) (l l' : List ι) :
    RunOk step ok s (l ++ l') ↔ RunOk step ok s l ∧ RunOk step ok (l.foldl step s) l' := by
  induction l generalizing s with
  | nil => exact ⟨fun h => ⟨trivial, h⟩, fun h => h.2⟩
  | cons i l ih =>
    show (ok s i ∧ RunOk step ok (step s i) (l ++ l'))
      ↔ (ok s i ∧ RunOk step ok (step s i) l) ∧ RunOk step ok (l.foldl step (step s i)) l'
    rw [ih (step s i), and_assoc]

theorem RunOk.inv {Inv : σ → Prop} (hstep : ∀ s i, ok s i → Inv s → Inv (step s i))
    {s : σ} {l : List ι} (h : RunOk step ok s l) (hs : Inv s) : Inv (l.foldl step s) := by
  induction l generalizing s with
  | nil => exact hs
  | cons i l ih => exact ih h.2 (hstep s i h.1 hs)

end

/-! ## joins over lists -/

section
variable {ι L : Type*} [SemilatticeSup L]

def joinAll (elt : ι → L) (x : L) (l : List ι) : L := l.foldl (fun y i => y ⊔ elt i) x

theorem joinAll_cons (elt : ι → L) (x : L) (i : ι) (l : List ι) :
    joinAll elt x (i :: l) = joinAll elt (x ⊔ elt i) l := rfl

theorem joinAll_le_iff (elt : ι → L) (x b : L) (l : List ι) :
    joinAll elt x l ≤ b ↔ x ≤ b ∧ ∀ i ∈ l, elt i ≤ b := by
  induction l generalizing x with
  | nil => simp [joinAll]
  | cons i l ih => rw [joinAll_cons, ih, sup_le_iff, and_assoc, List.forall_mem_cons]

theorem le_joinAll (elt : ι → L) (x : L) (l : List ι) : x ≤ joinAll elt x l :=
  ((joinAll_le_iff elt x _ l).mp le_rfl).1

theorem elt_le_joinAll (elt : ι → L) (x : L) (l : List ι) (i : ι) (hi : i ∈ l) :
    elt i ≤ joinAll elt x l :=
  ((joinAll_le_iff elt x _ l).mp le_rfl).2 i hi

theorem joinAll_sup (elt : ι → L) (x y : L) (l : List ι) :
    joinAll elt (x ⊔ y) l = x ⊔ joinAll elt y l := by
  apply eq_of_forall_ge_iff
  intro b
  rw [sup_le_iff, joinAll_le_iff, joinAll_le_iff, sup_le_iff, and_assoc]

theorem joinAll_congr (elt : ι → L) (x : L) (l l' : List ι) (h : ∀ i, i ∈ l ↔ i ∈ l') :
    joinAll elt x l = joinAll elt x l' := by
  apply eq_of_forall_ge_iff
  intro b
  rw [joinAll_le_iff, joinAll_le_iff]
  simp only [h]

end

section
variable {σ ι L : Type*} [SemilatticeSup L]

/-- seen through `view`, an update that meets the guard is the join with its element -/
structure JoinView (step : σ → ι → σ) (ok : σ → ι → Prop) (view : σ → L) (elt : ι → L) : Prop where
  step_view : ∀ s i, ok s i → view (step s i) = view s ⊔ elt i

variable {step : σ → ι → σ} {ok : σ → ι → Prop} {view : σ → L} {elt : ι → L}

theorem JoinView.run (J : JoinView step ok view elt) (s : σ) (l : List ι)
    (h : RunOk step ok s l) : view (l.foldl step s) = joinAll elt (view s) l := by
  induction l generalizing s with
  | nil => rfl
  | cons i l ih =>
    rw [List.foldl_cons, ih _ h.2, J.step_view s i h.1, joinAll_cons]

/-- **Convergence**: two guarded runs over the same updates end with the same view. -/
theorem JoinView.converge (J : JoinView step ok view elt) (s : σ) (l l' : List ι)
    (h : RunOk step ok s l) (h' : RunOk step ok s l') (hmem : ∀ i, i ∈ l ↔ i ∈ l') :
    view (l.foldl step s) = view (l'.foldl step s) := by
  rw [J.run s l h, J.run s l' h', joinAll_congr elt (view s) l l' hmem]

end

end Lib
