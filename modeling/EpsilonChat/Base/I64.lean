import Mathlib

/-!
# `i64`: parsing, printing and saturation

Timestamps travel as decimal text, in mail headers and in the `param` column.

* `I64.parse`: `str::parse::<i64>()`: an optional sign, then digits only, within the range;
* `I64.print`: `i64::to_string()`;
* `I64.parse_print`: what is printed is parsed back;
* `I64.saturatingAdd`, `I64.saturatingSub`: stop at the ends of the range.
-/

namespace EpsilonChat

abbrev I64 := { n : ℤ // -2^63 ≤ n ∧ n < 2^63 }

namespace I64

instance : DecidableLE I64 := fun a b => inferInstanceAs (Decidable (a.val ≤ b.val))

instance : DecidableLT I64 := fun a b => inferInstanceAs (Decidable (a.val < b.val))

def zero : I64 := ⟨0, by decide⟩

def ofInt? (n : ℤ) : Option I64 :=
  if h : -2^63 ≤ n ∧ n < 2^63 then some ⟨n, h⟩ else none

def parseDigits (cs : List Char) : Option ℕ :=
  if cs ≠ [] ∧ cs.all Char.isDigit then some (Nat.ofDigitChars 10 cs 0) else none

def parse (s : String) : Option I64 :=
  match s.toList with
  | '-' :: cs => (parseDigits cs).bind fun n => ofInt? (-(n : ℤ))
  | '+' :: cs => (parseDigits cs).bind fun n => ofInt? n
  | cs => (parseDigits cs).bind fun n => ofInt? n

def print (n : I64) : String := toString n.val

theorem ofInt?_val (n : I64) : ofInt? n.val = some n := dif_pos n.2

theorem parseDigits_toDigits (n : ℕ) : parseDigits (Nat.toDigits 10 n) = some n := by
  have h : Nat.toDigits 10 n ≠ [] ∧ (Nat.toDigits 10 n).all Char.isDigit := by
    refine ⟨Nat.toDigits_ne_nil, ?_⟩
    rw [List.all_eq_true]
    intro c hc
    exact Nat.isDigit_of_mem_toDigits (by decide) (by decide) hc
  rw [parseDigits, if_pos h, Nat.ofDigitChars_ten_toDigits]

theorem parse_repr (n : ℕ) : parse n.repr = ofInt? n := by
  have hd := parseDigits_toDigits n
  have hc : ∀ c ∈ Nat.toDigits 10 n, c.isDigit := fun c hc =>
    Nat.isDigit_of_mem_toDigits (by decide) (by decide) hc
  unfold parse
  rw [Nat.toList_repr]
  split
  · next cs e => exact absurd (hc '-' (by rw [e]; exact List.mem_cons_self)) (by decide)
  · next cs e => exact absurd (hc '+' (by rw [e]; exact List.mem_cons_self)) (by decide)
  · rw [hd, Option.bind_some]

theorem parse_neg_repr (n : ℕ) : parse ("-" ++ n.repr) = ofInt? (-(n : ℤ)) := by
  have e : ("-" ++ n.repr).toList = '-' :: Nat.toDigits 10 n := by
    rw [String.toList_append, Nat.toList_repr]; rfl
  unfold parse
  rw [e]
  show (parseDigits (Nat.toDigits 10 n)).bind _ = _
  rw [parseDigits_toDigits, Option.bind_some]

theorem parse_print (n : I64) : parse n.print = some n := by
  show parse (Int.repr n.val) = some n
  rw [Int.repr_eq_if]
  by_cases h : 0 ≤ n.val
  · rw [if_pos h, parse_repr, Int.toNat_of_nonneg h, ofInt?_val]
  · have h' : 0 ≤ -n.val := by omega
    rw [if_neg h, parse_neg_repr, Int.toNat_of_nonneg h', Int.neg_neg, ofInt?_val]

theorem print_ne_empty (n : I64) : n.print ≠ "" := by
  intro h
  have hparse := parse_print n
  have hempty : parse "" = none := by decide
  rw [h, hempty] at hparse
  cases hparse

theorem print_chars (n : I64) {c : Char} (hc : c ∈ n.print.toList) :
    c.isDigit = true ∨ c = '-' := by
  have hdigits : ∀ k : ℕ, c ∈ k.repr.toList → c.isDigit = true := by
    intro k hk
    rw [Nat.toList_repr] at hk
    exact Nat.isDigit_of_mem_toDigits (by decide) (by decide) hk
  change c ∈ (Int.repr n.val).toList at hc
  rw [Int.repr_eq_if] at hc
  split at hc
  · exact .inl (hdigits _ hc)
  · rw [String.toList_append] at hc
    rcases List.mem_append.mp hc with hsign | hnum
    · exact .inr (List.mem_singleton.mp hsign)
    · exact .inl (hdigits _ hnum)

def saturate (n : ℤ) : I64 := ⟨max (-2^63) (min n (2^63 - 1)), by omega⟩

def saturatingAdd (a b : I64) : I64 := saturate (a.val + b.val)

def saturatingSub (a b : I64) : I64 := saturate (a.val - b.val)

theorem val_saturatingAdd (a b : I64) :
    (saturatingAdd a b).val = max (-2^63) (min (a.val + b.val) (2^63 - 1)) := rfl

theorem val_saturatingSub (a b : I64) :
    (saturatingSub a b).val = max (-2^63) (min (a.val - b.val) (2^63 - 1)) := rfl

end I64

end EpsilonChat
