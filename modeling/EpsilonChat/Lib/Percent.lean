import Mathlib

/-!
# UTF-8 and percent-encoding

A text is encoded byte by byte: the bytes of a given set stay as they are, every other byte is
written as `%` and two hexadecimal digits.  Decoding reads the bytes of the written text.

* `decodeUtf8_utf8`: decoding the bytes of a text gives the text;
* `percentDecode_encode`: decoding a percent-encoded list of bytes gives the bytes, for EVERY set of
  ASCII bytes without `%`.
-/

namespace Lib
namespace Percent

def utf8 (s : List Char) : List UInt8 := s.flatMap String.utf8EncodeChar

def decodeUtf8 (bytes : List UInt8) : Option (List Char) :=
  bytes.toByteArray.utf8Decode?.map Array.toList

theorem decodeUtf8_utf8 (s : List Char) : decodeUtf8 (utf8 s) = some s := by
  have hbytes : (utf8 s).toByteArray = s.utf8Encode := rfl
  rw [decodeUtf8, hbytes, List.utf8Decode?_utf8Encode, Option.map_some]

@[simp] theorem utf8_append (s t : List Char) : utf8 (s ++ t) = utf8 s ++ utf8 t :=
  List.flatMap_append

theorem utf8_cons_ascii {c : Char} (h : c.toNat < 128) (s : List Char) :
    utf8 (c :: s) = UInt8.ofNat c.toNat :: utf8 s := by
  have hc : c.val.toNat ≤ 127 := Nat.le_of_lt_succ h
  have hchar : String.utf8EncodeChar c = [UInt8.ofNat c.toNat] := by
    rw [String.utf8EncodeChar, if_pos hc]
    rfl
  rw [utf8, List.flatMap_cons, hchar, List.singleton_append]
  rfl

/-! ## percent-encoding -/

def hexDigit (n : ℕ) : Char := Char.ofNat (if n < 10 then 48 + n else 55 + n)

def hexValue (b : UInt8) : Option ℕ :=
  let n := b.toNat
  if 48 ≤ n ∧ n ≤ 57 then some (n - 48)
  else if 65 ≤ n ∧ n ≤ 70 then some (n - 55)
  else if 97 ≤ n ∧ n ≤ 102 then some (n - 87)
  else none

def encodeByte (keep : UInt8 → Bool) (b : UInt8) : List Char :=
  if keep b then [Char.ofNat b.toNat] else ['%', hexDigit (b.toNat / 16), hexDigit (b.toNat % 16)]

def percentEncode (keep : UInt8 → Bool) (bytes : List UInt8) : List Char :=
  bytes.flatMap (encodeByte keep)

def hexPair (h l : UInt8) : Option UInt8 :=
  (hexValue h).bind fun h => (hexValue l).map fun l => UInt8.ofNat (16 * h + l)

def percentDecode : List UInt8 → List UInt8
  | b :: h :: l :: rest =>
    if b = 37 then
      match hexPair h l with
      | some v => v :: percentDecode rest
      | none => b :: percentDecode (h :: l :: rest)
    else b :: percentDecode (h :: l :: rest)
  | b :: rest => b :: percentDecode rest
  | [] => []

theorem hexDigit_spec {n : ℕ} (h : n < 16) :
    (hexDigit n).toNat < 128 ∧ hexValue (UInt8.ofNat (hexDigit n).toNat) = some n := by
  revert n
  decide

theorem percentDecode_cons_of_ne {b : UInt8} (h : b ≠ 37) (rest : List UInt8) :
    percentDecode (b :: rest) = b :: percentDecode rest := by
  rcases rest with _ | ⟨h', _ | ⟨l, rest⟩⟩
  · rw [percentDecode]
    simp
  · rw [percentDecode]
    simp
  · rw [percentDecode, if_neg h]

theorem percentDecode_hex {h l : ℕ} (hh : h < 16) (hl : l < 16) (rest : List UInt8) :
    percentDecode (37 :: UInt8.ofNat (hexDigit h).toNat :: UInt8.ofNat (hexDigit l).toNat :: rest) =
      UInt8.ofNat (16 * h + l) :: percentDecode rest := by
  have hpair : hexPair (UInt8.ofNat (hexDigit h).toNat) (UInt8.ofNat (hexDigit l).toNat) =
      some (UInt8.ofNat (16 * h + l)) := by
    rw [hexPair, (hexDigit_spec hh).2, (hexDigit_spec hl).2]
    rfl
  rw [percentDecode, if_pos rfl, hpair]

section
variable {keep : UInt8 → Bool}

theorem percentDecode_encodeByte (hkeep : ∀ b, keep b = true → b.toNat < 128 ∧ b ≠ 37) (b : UInt8)
    (rest : List UInt8) :
    percentDecode (utf8 (encodeByte keep b) ++ rest) = b :: percentDecode rest := by
  rw [encodeByte]
  split
  case isTrue hb =>
    obtain ⟨hlt, hne⟩ := hkeep b hb
    have hchar : (Char.ofNat b.toNat).toNat = b.toNat := by
      rw [Char.toNat_ofNat, if_pos (.inl (by omega))]
    have hascii : (Char.ofNat b.toNat).toNat < 128 := hchar.symm ▸ hlt
    have hback : UInt8.ofNat b.toNat = b := UInt8.ofNat_toNat
    rw [utf8_cons_ascii hascii, hchar, hback]
    exact percentDecode_cons_of_ne hne rest
  case isFalse hb =>
    have hlt : b.toNat < 256 := UInt8.toNat_lt b
    have hh : b.toNat / 16 < 16 := by omega
    have hl : b.toNat % 16 < 16 := Nat.mod_lt _ (by omega)
    have hsum : 16 * (b.toNat / 16) + b.toNat % 16 = b.toNat := Nat.div_add_mod _ _
    have hpercent : '%'.toNat < 128 := by decide
    rw [utf8_cons_ascii hpercent, utf8_cons_ascii (hexDigit_spec hh).1,
      utf8_cons_ascii (hexDigit_spec hl).1]
    show percentDecode (37 :: UInt8.ofNat (hexDigit (b.toNat / 16)).toNat ::
      UInt8.ofNat (hexDigit (b.toNat % 16)).toNat :: rest) = _
    rw [percentDecode_hex hh hl, hsum, UInt8.ofNat_toNat]

theorem percentDecode_encode (hkeep : ∀ b, keep b = true → b.toNat < 128 ∧ b ≠ 37)
    (bytes : List UInt8) : percentDecode (utf8 (percentEncode keep bytes)) = bytes := by
  induction bytes with
  | nil => rfl
  | cons b bytes ih =>
    rw [percentEncode, List.flatMap_cons, utf8_append, percentDecode_encodeByte hkeep]
    congr 1

theorem mem_percentEncode {c : Char} {bytes : List UInt8} (h : c ∈ percentEncode keep bytes) :
    (∃ b, keep b = true ∧ c = Char.ofNat b.toNat) ∨ c = '%' ∨ ∃ n < 16, c = hexDigit n := by
  obtain ⟨b, _, hc⟩ := List.mem_flatMap.mp h
  have hlt : b.toNat < 256 := UInt8.toNat_lt b
  rw [encodeByte] at hc
  split at hc
  case isTrue hb => exact .inl ⟨b, hb, List.mem_singleton.mp hc⟩
  case isFalse hb =>
    rcases List.mem_cons.mp hc with hc | hc
    · exact .inr (.inl hc)
    rcases List.mem_cons.mp hc with hc | hc
    · exact .inr (.inr ⟨_, by omega, hc⟩)
    · exact .inr (.inr ⟨_, Nat.mod_lt _ (by omega), List.mem_singleton.mp hc⟩)

end

end Percent
end Lib
