import Mathlib.Data.List.Basic

/-!
# Base64

Three bytes are written as four characters; of the last group one or two bytes may be missing, and the
characters for them are `=`.

* `value_char`: the characters and their values;
* `decode_encode`: what is encoded is decoded to the same.
-/

namespace Lib.Base64

def alphabet : List Char := "ABCDEFGHIJKLMNOPQRSTUVWXYZabcdefghijklmnopqrstuvwxyz0123456789+/".toList

def char (n : ℕ) : Char := alphabet.getD n '='

def value (c : Char) : Option ℕ := if c ∈ alphabet then some (alphabet.idxOf c) else none

def encode : List UInt8 → List Char
  | [] => []
  | [a] => [char (a.toNat / 4), char (a.toNat % 4 * 16), '=', '=']
  | [a, b] =>
    [char (a.toNat / 4), char (a.toNat % 4 * 16 + b.toNat / 16), char (b.toNat % 16 * 4), '=']
  | a :: b :: c :: rest =>
    char (a.toNat / 4) :: char (a.toNat % 4 * 16 + b.toNat / 16) ::
      char (b.toNat % 16 * 4 + c.toNat / 64) :: char (c.toNat % 64) :: encode rest

/-- the bits behind the last byte have to be zero -/
def decode : List Char → Option (List UInt8)
  | [] => some []
  | w :: x :: y :: z :: rest => do
    let w ← value w
    let x ← value x
    let a := UInt8.ofNat (w * 4 + x / 16)
    if y = '=' ∧ z = '=' ∧ rest = [] then
      if x % 16 = 0 then return [a] else none
    else
      let y ← value y
      let b := UInt8.ofNat (x % 16 * 16 + y / 4)
      if z = '=' ∧ rest = [] then
        if y % 4 = 0 then return [a, b] else none
      else
        let z ← value z
        return a :: b :: UInt8.ofNat (y % 4 * 64 + z) :: (← decode rest)
  | _ => none

theorem value_char : ∀ n < 64, value (char n) = some n ∧ char n ≠ '=' ∧ char n ∈ alphabet := by
  decide +kernel

theorem mem_encode {bytes : List UInt8} : ∀ c ∈ encode bytes, c ∈ alphabet ∨ c = '=' := by
  have hchar : ∀ n, n < 64 → char n ∈ alphabet ∨ char n = '=' := fun n h => .inl (value_char n h).2.2
  induction bytes using encode.induct with
  | case1 => exact List.forall_mem_nil _
  | case2 a =>
    have ha := a.toNat_lt
    simp only [encode, List.forall_mem_cons]
    exact ⟨hchar _ (by omega), hchar _ (by omega), .inr trivial, .inr trivial, List.forall_mem_nil _⟩
  | case3 a b =>
    have ha := a.toNat_lt
    have hb := b.toNat_lt
    simp only [encode, List.forall_mem_cons]
    exact ⟨hchar _ (by omega), hchar _ (by omega), hchar _ (by omega), .inr trivial, List.forall_mem_nil _⟩
  | case4 a b c rest ih =>
    have ha := a.toNat_lt
    have hb := b.toNat_lt
    have hc := c.toNat_lt
    simp only [encode, List.forall_mem_cons]
    exact ⟨hchar _ (by omega), hchar _ (by omega), hchar _ (by omega), hchar _ (by omega), ih⟩

theorem ofNat_eq {a : UInt8} {n : ℕ} (h : n = a.toNat) : UInt8.ofNat n = a := by
  rw [h, UInt8.ofNat_toNat]

theorem decode_encode (bytes : List UInt8) : decode (encode bytes) = some bytes := by
  induction bytes using encode.induct with
  | case1 => rfl
  | case2 a =>
    have ha := a.toNat_lt
    have h1 := value_char (a.toNat / 4) (by omega)
    have h2 := value_char (a.toNat % 4 * 16) (by omega)
    have hzero : a.toNat % 4 * 16 % 16 = 0 := by omega
    simp only [encode, decode, h1.1, h2.1, hzero, Option.bind_eq_bind, Option.bind_some, and_self,
      if_true]
    exact congrArg (fun a => some [a]) (ofNat_eq (by omega))
  | case3 a b =>
    have ha := a.toNat_lt
    have hb := b.toNat_lt
    have h1 := value_char (a.toNat / 4) (by omega)
    have h2 := value_char (a.toNat % 4 * 16 + b.toNat / 16) (by omega)
    have h3 := value_char (b.toNat % 16 * 4) (by omega)
    have hzero : b.toNat % 16 * 4 % 4 = 0 := by omega
    simp only [encode, decode, h1.1, h2.1, h3.1, h3.2.1, hzero, Option.bind_eq_bind,
      Option.bind_some, false_and, and_self, if_true, if_false]
    exact congrArg₂ (fun a b => some [a, b]) (ofNat_eq (by omega)) (ofNat_eq (by omega))
  | case4 a b c rest ih =>
    have ha := a.toNat_lt
    have hb := b.toNat_lt
    have hc := c.toNat_lt
    have h1 := value_char (a.toNat / 4) (by omega)
    have h2 := value_char (a.toNat % 4 * 16 + b.toNat / 16) (by omega)
    have h3 := value_char (b.toNat % 16 * 4 + c.toNat / 64) (by omega)
    have h4 := value_char (c.toNat % 64) (by omega)
    simp only [encode, decode, h1.1, h2.1, h3.1, h3.2.1, h4.1, h4.2.1, Option.bind_eq_bind,
      Option.bind_some, false_and, if_false, ih]
    refine congrArg some (congrArg₂ List.cons (ofNat_eq (by omega)) ?_)
    exact congrArg₂ (fun b c => b :: c :: rest) (ofNat_eq (by omega)) (ofNat_eq (by omega))

end Lib.Base64
