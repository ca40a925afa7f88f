import EpsilonChat.Lib.Split

/-!
# Sequence sets: what a list of numbers and ranges denotes

The text of an IMAP sequence set is a list of items, separated by commas; an item is a number or
a range `a:b` of numbers of 32 bits, written in decimal without leading zeros.  (The item `*`, the
last message of a mailbox, has no meaning without the mailbox and is not read.)

* `number`, `item`: read one number, one item;
* `span a b`: the numbers of the range, from the smaller end to the larger one;
* `denotes`: the numbers of a whole set, in the order of its items;
* **`denotes_intercalate`**: items that are joined by commas denote what they denote one by one.
-/

namespace Lib
namespace SequenceSet

def number (cs : List Char) : Option ℕ :=
  if cs ≠ [] ∧ cs.all Char.isDigit ∧ (cs.head? = some '0' → cs = ['0']) ∧
      Nat.ofDigitChars 10 cs 0 < 2 ^ 32 then
    some (Nat.ofDigitChars 10 cs 0)
  else none

def span (a b : ℕ) : List ℕ := List.range' (min a b) (max a b + 1 - min a b)

def item (cs : List Char) : Option (List ℕ) :=
  match cs.splitOn ':' with
  | [n] => (number n).map fun n => [n]
  | [a, b] => (number a).bind fun a => (number b).map fun b => span a b
  | _ => none

def items : List (List Char) → Option (List ℕ)
  | [] => some []
  | cs :: rest => (item cs).bind fun uids => (items rest).map (uids ++ ·)

def denotes (cs : List Char) : Option (List ℕ) := items (cs.splitOn ',')

theorem span_self (a : ℕ) : span a a = [a] := by
  rw [span, Nat.min_self, Nat.max_self, Nat.add_sub_cancel_left, List.range'_one]

theorem span_of_le {a b : ℕ} (h : a ≤ b) : span a b = List.range' a (b + 1 - a) := by
  rw [span, Nat.min_eq_left h, Nat.max_eq_right h]

theorem span_succ {a b : ℕ} (h : a ≤ b) : span a (b + 1) = span a b ++ [b + 1] := by
  have hlen : b + 1 + 1 - a = b + 1 - a + 1 := by omega
  have hlast : a + 1 * (b + 1 - a) = b + 1 := by omega
  rw [span_of_le h, span_of_le (Nat.le_succ_of_le h), hlen, List.range'_concat, hlast]

theorem mem_span {a b u : ℕ} (h : a ≤ b) : u ∈ span a b ↔ a ≤ u ∧ u ≤ b := by
  rw [span_of_le h, List.mem_range'_1]
  omega

/-! ## printed numbers -/

theorem isDigit_of_mem_toDigits {n : ℕ} {c : Char} (h : c ∈ Nat.toDigits 10 n) : c.isDigit = true :=
  Nat.isDigit_of_mem_toDigits (by decide) (by decide) h

theorem toDigits_of_head_zero (n : ℕ) (h : (Nat.toDigits 10 n).head? = some '0') :
    Nat.toDigits 10 n = ['0'] := by
  -- the first digit of `n` is the first digit of `n / 10`, which is not zero if `10 ≤ n`
  induction n using Nat.strong_induction_on with
  | _ n ih =>
    rcases Nat.lt_or_ge n 10 with hn | hn
    · rw [Nat.toDigits_of_lt_base hn] at h ⊢
      rw [List.head?_cons] at h
      rw [Option.some.inj h]
    · have hcut := Nat.toDigits_of_base_le (b := 10) (by decide) hn
      have hdiv : n / 10 < n := Nat.div_lt_self (by omega) (by decide)
      rw [hcut, List.head?_append_of_ne_nil _ Nat.toDigits_ne_nil] at h
      have hzero : n / 10 = 0 := by
        have hback := congrArg (fun cs => Nat.ofDigitChars 10 cs 0) (ih (n / 10) hdiv h)
        simp only [Nat.ofDigitChars_ten_toDigits] at hback
        rw [hback]
        decide
      omega

theorem number_toDigits {n : ℕ} (h : n < 2 ^ 32) : number (Nat.toDigits 10 n) = some n := by
  have hdigits : (Nat.toDigits 10 n).all Char.isDigit := by
    rw [List.all_eq_true]
    intro c hc
    exact isDigit_of_mem_toDigits hc
  rw [number, Nat.ofDigitChars_ten_toDigits,
    if_pos ⟨Nat.toDigits_ne_nil, hdigits, toDigits_of_head_zero n, h⟩]

theorem not_mem_toDigits {n : ℕ} {c : Char} (hc : c.isDigit = false) : c ∉ Nat.toDigits 10 n := by
  intro h
  rw [isDigit_of_mem_toDigits h] at hc
  cases hc

theorem item_number {n : ℕ} (h : n < 2 ^ 32) : item (Nat.toDigits 10 n) = some [n] := by
  rw [item, List.splitOn_eq_singleton (not_mem_toDigits (by decide))]
  show (number (Nat.toDigits 10 n)).map _ = _
  rw [number_toDigits h, Option.map_some]

theorem item_range {a b : ℕ} (ha : a < 2 ^ 32) (hb : b < 2 ^ 32) :
    item (Nat.toDigits 10 a ++ ':' :: Nat.toDigits 10 b) = some (span a b) := by
  rw [item, List.splitOn_append_cons_self_of_not_mem (not_mem_toDigits (by decide)),
    List.splitOn_eq_singleton (not_mem_toDigits (by decide))]
  show (number (Nat.toDigits 10 a)).bind _ = _
  rw [number_toDigits ha, Option.bind_some, number_toDigits hb, Option.map_some]

section
variable {ι : Type*} {text : ι → List Char} {uids : ι → List ℕ}

theorem items_map {l : List ι} (h : ∀ i ∈ l, item (text i) = some (uids i)) :
    items (l.map text) = some (l.flatMap uids) := by
  induction l with
  | nil => rfl
  | cons i l ih =>
    have hl : ∀ j ∈ l, item (text j) = some (uids j) := fun j hj => h j (List.mem_cons_of_mem _ hj)
    rw [List.map_cons, items, h i List.mem_cons_self, Option.bind_some, ih hl, Option.map_some,
      List.flatMap_cons]

theorem denotes_intercalate {l : List ι} (hne : l ≠ []) (hcomma : ∀ i ∈ l, ',' ∉ text i)
    (h : ∀ i ∈ l, item (text i) = some (uids i)) :
    denotes ([','].intercalate (l.map text)) = some (l.flatMap uids) := by
  have hnil : l.map text ≠ [] := mt List.map_eq_nil_iff.mp hne
  have hfree : ∀ cs ∈ l.map text, ',' ∉ cs := List.forall_mem_map.mpr hcomma
  rw [denotes, List.splitOn_intercalate ',' hfree hnil, items_map h]

end

end SequenceSet
end Lib
