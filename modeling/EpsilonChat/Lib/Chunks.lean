import Mathlib.Data.List.Basic

/-!
# Chunks of a list

`chunks n l` cuts `l` into pieces of `n` elements, the last one possibly shorter.

* `flatten_chunks`: nothing is lost;
* `mem_chunks`: no piece is empty or longer than `n`;
* `length_chunks_le_one_iff`: when one piece is enough.
-/

namespace Lib

section
variable {α : Type*}

def chunksFuel (n : ℕ) : ℕ → List α → List (List α)
  | 0, _ => []
  | _ + 1, [] => []
  | fuel + 1, x :: xs => (x :: xs).take n :: chunksFuel n fuel ((x :: xs).drop n)

def chunks (n : ℕ) (l : List α) : List (List α) := chunksFuel n l.length l

theorem flatten_chunksFuel {n : ℕ} (hn : 1 ≤ n) (fuel : ℕ) (l : List α) (h : l.length ≤ fuel) :
    (chunksFuel n fuel l).flatten = l := by
  induction fuel generalizing l with
  | zero =>
    rw [List.length_eq_zero_iff.mp (by omega : l.length = 0)]
    rfl
  | succ fuel ih =>
    cases l with
    | nil => rfl
    | cons x xs =>
      have hdrop : ((x :: xs).drop n).length ≤ fuel := by
        rw [List.length_drop]
        omega
      rw [chunksFuel, List.flatten_cons, ih _ hdrop, List.take_append_drop]

theorem flatten_chunks {n : ℕ} (hn : 1 ≤ n) (l : List α) : (chunks n l).flatten = l :=
  flatten_chunksFuel hn _ l (Nat.le_refl _)

theorem mem_chunksFuel {n : ℕ} (hn : 1 ≤ n) (fuel : ℕ) (l : List α) {chunk : List α}
    (h : chunk ∈ chunksFuel n fuel l) : chunk ≠ [] ∧ chunk.length ≤ n := by
  induction fuel generalizing l with
  | zero => exact absurd h List.not_mem_nil
  | succ fuel ih =>
    cases l with
    | nil => exact absurd h List.not_mem_nil
    | cons x xs =>
      rcases List.mem_cons.mp h with rfl | hmem
      · refine ⟨?_, List.length_take_le n _⟩
        rw [Ne, List.take_eq_nil_iff]
        rintro (h0 | hnil)
        · omega
        · cases hnil
      · exact ih _ hmem

theorem mem_chunks {n : ℕ} (hn : 1 ≤ n) {l chunk : List α} (h : chunk ∈ chunks n l) :
    chunk ≠ [] ∧ chunk.length ≤ n := mem_chunksFuel hn _ l h

theorem length_chunks_le_one_iff {n : ℕ} (hn : 1 ≤ n) (l : List α) :
    (chunks n l).length ≤ 1 ↔ l.length ≤ n := by
  constructor
  · intro h
    -- a single piece is the whole list
    have hflat := flatten_chunks hn l
    match hc : chunks n l with
    | [] =>
      rw [hc] at hflat
      rw [← hflat]
      exact Nat.zero_le n
    | [chunk] =>
      rw [hc, List.flatten_singleton] at hflat
      rw [← hflat]
      exact (mem_chunks hn (hc ▸ List.mem_singleton_self chunk)).2
    | _ :: _ :: _ =>
      rw [hc, List.length_cons, List.length_cons] at h
      omega
  · intro h
    cases l with
    | nil => exact Nat.zero_le 1
    | cons x xs =>
      show ((x :: xs).take n :: chunksFuel n xs.length ((x :: xs).drop n)).length ≤ 1
      rw [List.drop_of_length_le h]
      cases xs <;> exact Nat.le_refl 1

end

end Lib
