import Mathlib

/-!
# Last-writer-wins registers

A register holds a value with the time it was written.  A write of time `ts` is accepted unless
the register is newer (`write`): at equal times the later write wins.

* `write_run`: after a list of writes the register is untouched (all writes were older), or it holds
  a newest write of the list;
* `write_converge`: two lists with the same writes leave the same register, if writes of one time
  carry one value.
-/

namespace Lib

section
variable {T V : Type*} [LinearOrder T]

def write (s u : T × V) : T × V := if s.1 ≤ u.1 then u else s

theorem write_of_le {s u : T × V} (h : s.1 ≤ u.1) : write s u = u := if_pos h
theorem write_of_lt {s u : T × V} (h : u.1 < s.1) : write s u = s := if_neg (not_le.mpr h)

theorem write_run (s : T × V) (l : List (T × V)) :
    ((∀ u ∈ l, u.1 < s.1) ∧ l.foldl write s = s) ∨
      (l.foldl write s ∈ l ∧ s.1 ≤ (l.foldl write s).1 ∧ ∀ u ∈ l, u.1 ≤ (l.foldl write s).1) := by
  induction l generalizing s with
  | nil => exact .inl ⟨fun u hu => absurd hu List.not_mem_nil, rfl⟩
  | cons u l ih =>
    rw [List.foldl_cons]
    by_cases h : s.1 ≤ u.1
    · rw [write_of_le h]
      right
      rcases ih u with ⟨hlt, heq⟩ | ⟨hmem, hle, hmax⟩
      · rw [heq]
        refine ⟨List.mem_cons_self, h, fun v hv => ?_⟩
        rcases List.mem_cons.mp hv with rfl | hv'
        · exact le_rfl
        · exact (hlt v hv').le
      · refine ⟨List.mem_cons_of_mem _ hmem, h.trans hle, fun v hv => ?_⟩
        rcases List.mem_cons.mp hv with rfl | hv'
        · exact hle
        · exact hmax v hv'
    · have hu : u.1 < s.1 := not_le.mp h
      rw [write_of_lt hu]
      rcases ih s with ⟨hlt, heq⟩ | ⟨hmem, hle, hmax⟩
      · refine .inl ⟨fun v hv => ?_, heq⟩
        rcases List.mem_cons.mp hv with rfl | hv'
        · exact hu
        · exact hlt v hv'
      · refine .inr ⟨List.mem_cons_of_mem _ hmem, hle, fun v hv => ?_⟩
        rcases List.mem_cons.mp hv with rfl | hv'
        · exact hu.le.trans hle
        · exact hmax v hv'

/-- **Two lists with the same writes leave the same register.** -/
theorem write_converge (s : T × V) (l l' : List (T × V)) (h : ∀ u, u ∈ l ↔ u ∈ l')
    (huniq : ∀ u ∈ l, ∀ v ∈ l, u.1 = v.1 → u = v) : l.foldl write s = l'.foldl write s := by
  rcases write_run s l with ⟨hlt, heq⟩ | ⟨hmem, hle, hmax⟩
  · rcases write_run s l' with ⟨_, heq'⟩ | ⟨hmem', hle', _⟩
    · rw [heq, heq']
    · exact absurd hle' (not_le.mpr (hlt _ ((h _).mpr hmem')))
  · rcases write_run s l' with ⟨hlt', _⟩ | ⟨hmem', _, hmax'⟩
    · exact absurd hle (not_le.mpr (hlt' _ ((h _).mp hmem)))
    · exact huniq _ hmem _ ((h _).mpr hmem')
        (le_antisymm (hmax' _ ((h _).mp hmem)) (hmax _ ((h _).mpr hmem')))

end

end Lib
