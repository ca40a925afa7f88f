import Mathlib

/-!
# Slices of a text by byte positions

A text is a list of characters, and a position in it is a number of UTF-8 bytes: the one of a
character is the size of what stands before it.

* `charIndices s`: the characters with their positions;
* `getTo n s`: the first `n` bytes, unless they end beyond the text or inside a character;
* `rfind p s`: the position of the last character with `p`;
* `getTo_append`: a position in front of a character is never inside one;
* `rfind_cases`: what stands before and behind the character that is found.
-/

namespace Lib
namespace ByteSlice

def byteLen (s : List Char) : ℕ := (s.map Char.utf8Size).sum

theorem byteLen_cons (c : Char) (s : List Char) : byteLen (c :: s) = c.utf8Size + byteLen s := by
  rw [byteLen, List.map_cons, List.sum_cons, byteLen]

theorem byteLen_append (s t : List Char) : byteLen (s ++ t) = byteLen s + byteLen t := by
  rw [byteLen, List.map_append, List.sum_append, byteLen, byteLen]

def charIndicesFrom (index : ℕ) : List Char → List (ℕ × Char)
  | [] => []
  | c :: s => (index, c) :: charIndicesFrom (index + c.utf8Size) s

def charIndices (s : List Char) : List (ℕ × Char) := charIndicesFrom 0 s

def getTo : ℕ → List Char → Option (List Char)
  | 0, _ => some []
  | _ + 1, [] => none
  | n + 1, c :: s =>
    if c.utf8Size ≤ n + 1 then (getTo (n + 1 - c.utf8Size) s).map (c :: ·) else none

theorem getTo_append (s t : List Char) : getTo (byteLen s) (s ++ t) = some s := by
  induction s with
  | nil => exact getTo.eq_1 t
  | cons c s ih =>
    have hpos := Char.utf8Size_pos c
    obtain ⟨n, hn⟩ : ∃ n, byteLen (c :: s) = n + 1 :=
      Nat.exists_eq_succ_of_ne_zero (by rw [byteLen_cons]; omega)
    have hrest : n + 1 - c.utf8Size = byteLen s := by
      rw [byteLen_cons] at hn
      omega
    have hle : c.utf8Size ≤ n + 1 := by
      rw [byteLen_cons] at hn
      omega
    rw [hn, List.cons_append, getTo, if_pos hle, hrest, ih]
    rfl

def rfindFrom (p : Char → Bool) (index : ℕ) : List Char → Option ℕ
  | [] => none
  | c :: s => (rfindFrom p (index + c.utf8Size) s).or (if p c then some index else none)

def rfind (p : Char → Bool) (s : List Char) : Option ℕ := rfindFrom p 0 s

theorem rfindFrom_cases (p : Char → Bool) (index : ℕ) (s : List Char) :
    (rfindFrom p index s = none ∧ ∀ c ∈ s, p c = false) ∨
      ∃ x c y, s = x ++ c :: y ∧ p c = true ∧ (∀ d ∈ y, p d = false) ∧
        rfindFrom p index s = some (index + byteLen x) := by
  induction s generalizing index with
  | nil => exact .inl ⟨rfl, nofun⟩
  | cons c s ih =>
    rcases ih (index + c.utf8Size) with ⟨hnone, hs⟩ | ⟨x, d, y, rfl, hd, hy, hsome⟩
    · by_cases hc : p c = true
      · refine .inr ⟨[], c, s, rfl, hc, hs, ?_⟩
        rw [rfindFrom, hnone, if_pos hc]
        rfl
      · refine .inl ⟨?_, List.forall_mem_cons.mpr ⟨Bool.eq_false_iff.mpr hc, hs⟩⟩
        rw [rfindFrom, hnone, if_neg hc]
        rfl
    · refine .inr ⟨c :: x, d, y, rfl, hd, hy, ?_⟩
      rw [rfindFrom, hsome, byteLen_cons, Option.some_or, Nat.add_assoc]

theorem rfind_cases (p : Char → Bool) (s : List Char) :
    (rfind p s = none ∧ ∀ c ∈ s, p c = false) ∨
      ∃ x c y, s = x ++ c :: y ∧ p c = true ∧ (∀ d ∈ y, p d = false) ∧
        rfind p s = some (byteLen x) := by
  rcases rfindFrom_cases p 0 s with h | ⟨x, c, y, hs, hc, hy, hsome⟩
  · exact .inl h
  · exact .inr ⟨x, c, y, hs, hc, hy, by rw [rfind, hsome, Nat.zero_add]⟩

end ByteSlice
end Lib
