import Mathlib.Data.List.Basic
import Mathlib.Data.List.Infix
import Mathlib.Data.List.TakeWhile

/-!
# SQL `LIKE`

A pattern is a text in which `%` stands for any characters and `_` for one; all other characters stand
for themselves, with no difference between upper and lower case ASCII letters.  Pattern and text are C
strings: both END AT THE FIRST NUL.

* `cString`: what is seen of a text;
* `like`: whether a text matches a pattern;
* `Fills`: texts that a pattern stands for; `likeFrom_iff`, the match finds exactly them;
* `SameText`: texts that are the same up to ASCII case;
* `SameText.space_mem`: such texts have spaces in the same places;
* `Fills.append`: two patterns, one after the other;
* `Fills.of_sameText`: every pattern stands for ITSELF, wildcards included;
* `Fills.sameText`: without wildcards it stands for nothing else;
* `exists_fills`: with a wildcard it does.
-/

namespace Lib

/-! ## C strings -/

def cString (text : List Char) : List Char := text.takeWhile (· ≠ '\x00')

theorem cString_append {a : List Char} (h : '\x00' ∉ a) (b : List Char) :
    cString (a ++ b) = a ++ cString b :=
  List.takeWhile_append_of_pos fun _ hc => decide_eq_true fun heq => h (heq ▸ hc)

theorem cString_eq_self {text : List Char} (h : '\x00' ∉ text) : cString text = text := by
  simpa [cString] using cString_append h []

theorem nul_notMem_cString (text : List Char) : '\x00' ∉ cString text := by
  intro h
  have hne := List.mem_takeWhile_imp h
  exact of_decide_eq_true hne rfl

/-! ## patterns -/

def likeFrom : List Char → List Char → Bool
  | [], text => text.isEmpty
  | p :: pattern, text =>
    if p = '%' then text.tails.any (likeFrom pattern)
    else (text.head?.any fun c => p = '_' || p.toLower = c.toLower) && likeFrom pattern text.tail

def like (pattern text : List Char) : Bool := likeFrom (cString pattern) (cString text)

inductive Fills : List Char → List Char → Prop
  | nil : Fills [] []
  | percent {pattern rest : List Char} (skipped : List Char) :
      Fills pattern rest → Fills ('%' :: pattern) (skipped ++ rest)
  | underscore {pattern rest : List Char} (c : Char) :
      Fills pattern rest → Fills ('_' :: pattern) (c :: rest)
  | char {pattern rest : List Char} {p c : Char} :
      p.toLower = c.toLower → Fills pattern rest → Fills (p :: pattern) (c :: rest)

def SameText (a b : List Char) : Prop := a.map Char.toLower = b.map Char.toLower

instance (a b : List Char) : Decidable (SameText a b) := inferInstanceAs (Decidable (_ = _))

def isWildcard (c : Char) : Bool := c = '%' || c = '_'

section
variable {pattern pattern' text text' : List Char} {p c : Char}

theorem fills_of_likeFrom (h : likeFrom pattern text = true) : Fills pattern text := by
  induction pattern generalizing text with
  | nil =>
    rw [List.isEmpty_iff.mp h]
    exact .nil
  | cons p pattern ih =>
    rw [likeFrom] at h
    split at h
    · next hp =>
      obtain ⟨rest, hmem, hrest⟩ := List.any_eq_true.mp h
      obtain ⟨skipped, rfl⟩ := (List.mem_tails _ _).mp hmem
      exact hp ▸ .percent skipped (ih hrest)
    · cases text with
      | nil => cases h
      | cons c rest =>
        rw [List.head?_cons, Option.any_some, List.tail_cons, Bool.and_eq_true, Bool.or_eq_true,
          decide_eq_true_eq, decide_eq_true_eq] at h
        rcases h with ⟨rfl | hc, hrest⟩
        · exact .underscore c (ih hrest)
        · exact .char hc (ih hrest)

theorem likeFrom_percent (h : ∃ rest, rest <:+ text ∧ likeFrom pattern rest = true) :
    likeFrom ('%' :: pattern) text = true := by
  obtain ⟨rest, hsuffix, hrest⟩ := h
  rw [likeFrom, if_pos rfl, List.any_eq_true]
  exact ⟨rest, (List.mem_tails _ _).mpr hsuffix, hrest⟩

theorem likeFrom_iff : likeFrom pattern text = true ↔ Fills pattern text := by
  refine ⟨fills_of_likeFrom, fun h => ?_⟩
  induction h with
  | nil => rfl
  | percent skipped _ ih => exact likeFrom_percent ⟨_, List.suffix_append skipped _, ih⟩
  | underscore c _ ih => rw [likeFrom, if_neg (by decide), List.tail_cons, ih]; rfl
  | @char _ rest p c hc _ ih =>
    by_cases hp : p = '%'
    · subst hp
      exact likeFrom_percent ⟨rest, List.suffix_cons c rest, ih⟩
    · simp [likeFrom, hp, hc, ih]

theorem like_iff : like pattern text = true ↔ Fills (cString pattern) (cString text) := likeFrom_iff

theorem Fills.append (h : Fills pattern text) (h' : Fills pattern' text') :
    Fills (pattern ++ pattern') (text ++ text') := by
  induction h with
  | nil => exact h'
  | percent skipped _ ih => rw [List.append_assoc]; exact .percent skipped ih
  | underscore c _ ih => exact .underscore c ih
  | char hc _ ih => exact .char hc ih

theorem toLower_eq_space {c : Char} (h : c.toLower = ' ') : c = ' ' := by
  unfold Char.toLower at h
  split at h
  · next hc =>
    have hge : 65 ≤ c.val.toNat := hc.1
    have hle : c.val.toNat ≤ 90 := hc.2
    have h32 : (c.val + 32).toNat = 32 := congrArg (fun d : Char => d.val.toNat) h
    rw [UInt32.toNat_add] at h32
    change (c.val.toNat + 32) % 2 ^ 32 = 32 at h32
    omega
  · exact h

theorem SameText.space_mem {a b : List Char} (h : SameText a b) (hb : ' ' ∈ b) : ' ' ∈ a := by
  have hmem : ' ' ∈ a.map Char.toLower := by
    rw [h]
    exact List.mem_map.mpr ⟨' ', hb, rfl⟩
  obtain ⟨c, hc, hlower⟩ := List.mem_map.mp hmem
  exact toLower_eq_space hlower ▸ hc

theorem Fills.of_sameText (h : SameText pattern text) : Fills pattern text := by
  induction pattern generalizing text with
  | nil =>
    have hnil : text = [] := List.map_eq_nil_iff.mp h.symm
    exact hnil ▸ .nil
  | cons p pattern ih =>
    cases text with
    | nil => cases h
    | cons c rest =>
      obtain ⟨hc, hrest⟩ := List.cons.inj h
      exact .char hc (ih hrest)

theorem Fills.sameText (h : Fills pattern text) (hplain : ∀ c ∈ pattern, isWildcard c = false) :
    SameText pattern text := by
  induction h with
  | nil => rfl
  | percent => exact absurd (hplain '%' List.mem_cons_self) (by decide)
  | underscore => exact absurd (hplain '_' List.mem_cons_self) (by decide)
  | char hc _ ih =>
    exact congrArg₂ List.cons hc (ih fun c hc => hplain c (List.mem_cons_of_mem _ hc))

theorem exists_fills (h : ∃ c ∈ pattern, isWildcard c = true) :
    ∃ text, Fills pattern text ∧ ¬ SameText pattern text ∧ ∀ c ∈ text, c ∈ pattern ∨ c = 'x' := by
  obtain ⟨w, hw, hwild⟩ := h
  obtain ⟨before, after, rfl⟩ := List.append_of_mem hw
  have hself : ∀ l : List Char, Fills l l := fun l => .of_sameText rfl
  rw [isWildcard, Bool.or_eq_true, decide_eq_true_eq, decide_eq_true_eq] at hwild
  rcases hwild with rfl | rfl
  · -- nothing in the place of `%`
    refine ⟨before ++ after, (hself before).append (.percent [] (hself after)), ?_, ?_⟩
    · intro hsame
      have hlen := congrArg List.length hsame
      simp at hlen
    · intro c hc
      rcases List.mem_append.mp hc with hc | hc
      · exact .inl (List.mem_append_left _ hc)
      · exact .inl (List.mem_append_right _ (List.mem_cons_of_mem _ hc))
  · -- an `x` in the place of `_`
    refine ⟨before ++ 'x' :: after, (hself before).append (.underscore 'x' (hself after)), ?_, ?_⟩
    · intro hsame
      unfold SameText at hsame
      rw [List.map_append, List.map_append] at hsame
      have hhead := List.append_cancel_left hsame
      exact absurd (List.cons.inj hhead).1 (by decide)
    · intro c hc
      rcases List.mem_append.mp hc with hc | hc
      · exact .inl (List.mem_append_left _ hc)
      rcases List.mem_cons.mp hc with rfl | hc
      · exact .inr rfl
      · exact .inl (List.mem_append_right _ (List.mem_cons_of_mem _ hc))

end

end Lib
