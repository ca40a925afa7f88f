import Mathlib

/-!
# Cutting a list at separators, and replacing a pattern

`List.splitOn` and `List.intercalate` are the core's.  Added here:

* `splitOnce a`: the part before the first `a` and the part after it;
* `replace pat rep`: every non-overlapping occurrence of `pat`, from the left, becomes `rep`;
* `replaceFirst`: only the first one.

`splitOn_filter`, `splitOn_flatMap` and `filter_splitOnP_intercalate` say how cutting commutes with
dropping elements and undoes joining, `infix_iff_of_splitOn` where a word stands behind a separator,
`rtakeWhile_append_cons` what is left behind the last separator,
`replace_singleton` that a pattern of one element is replaced element by element, and
**`replace_replace`** that a pattern written as ONE fresh element comes back.
-/

set_option linter.unusedSectionVars false

namespace Lib
namespace Split

variable {α : Type*} [DecidableEq α]

/-! ## pieces -/

section
variable {a : α} {xs hd : List α} {tl : List (List α)}

theorem not_mem_of_mem_splitOn {l : List α} (h : l ∈ xs.splitOn a) : a ∉ l := by
  induction xs generalizing l with
  | nil =>
    rw [List.splitOn_nil, List.mem_singleton] at h
    rw [h]
    exact List.not_mem_nil
  | cons x xs ih =>
    rw [List.splitOn_cons_eq_if_modifyHead] at h
    split at h
    case isTrue hx =>
      rcases List.mem_cons.mp h with h | h
      · rw [h]
        exact List.not_mem_nil
      · exact ih h
    case isFalse hx =>
      have hx' : a ≠ x := fun e => hx (beq_iff_eq.mpr e.symm)
      rcases hs : xs.splitOn a with _ | ⟨hd, tl⟩
      · exact absurd hs (List.splitOn_ne_nil a xs)
      · rw [hs, List.modifyHead_cons] at h
        rcases List.mem_cons.mp h with h | h
        · rw [h, List.mem_cons, not_or]
          exact ⟨hx', ih (hs ▸ List.mem_cons_self)⟩
        · exact ih (hs ▸ List.mem_cons_of_mem _ h)

theorem splitOn_eq_cons (a : α) (xs : List α) : ∃ hd tl, xs.splitOn a = hd :: tl :=
  List.exists_cons_of_ne_nil (List.splitOn_ne_nil a xs)

theorem splitOn_cons_self (a : α) (xs : List α) : (a :: xs).splitOn a = [] :: xs.splitOn a := by
  rw [List.splitOn_cons_eq_if_modifyHead, if_pos (beq_self_eq_true a)]

theorem splitOn_cons_of_ne {x : α} (h : x ≠ a) (hs : xs.splitOn a = hd :: tl) :
    (x :: xs).splitOn a = (x :: hd) :: tl := by
  rw [List.splitOn_cons_eq_if_modifyHead, if_neg (by simpa using h), hs, List.modifyHead_cons]

theorem intercalate_cons (sep x : List α) (xs : List (List α)) :
    sep.intercalate (x :: xs) = x ++ xs.flatMap (sep ++ ·) := by
  induction xs generalizing x with
  | nil => rw [List.intercalate_singleton, List.flatMap_nil, List.append_nil]
  | cons y ys ih =>
    rw [List.intercalate_cons_cons, ih y, List.flatMap_cons, List.append_assoc, List.append_assoc]

theorem intercalate_concat {sep : List α} {xs : List (List α)} (h : xs ≠ []) (y : List α) :
    sep.intercalate (xs ++ [y]) = sep.intercalate xs ++ sep ++ y := by
  cases xs with
  | nil => exact absurd rfl h
  | cons x xs =>
    rw [List.cons_append, intercalate_cons, intercalate_cons, List.flatMap_append,
      List.flatMap_singleton, List.append_assoc, List.append_assoc]

theorem eq_nil_of_intercalate {sep : List α} {xs : List (List α)} (h : ∀ x ∈ xs, x ≠ [])
    (he : sep.intercalate xs = []) : xs = [] := by
  cases xs with
  | nil => rfl
  | cons x xs =>
    rw [intercalate_cons] at he
    exact absurd (List.append_eq_nil_iff.mp he).1 (h x List.mem_cons_self)

theorem length_intercalate_le {xs ys : List (List α)} (sep : List α) (h : ys <:+ xs) :
    (sep.intercalate ys).length ≤ (sep.intercalate xs).length := by
  obtain ⟨pre, rfl⟩ := h
  induction pre with
  | nil => exact Nat.le_refl _
  | cons x pre ih =>
    rcases eq_or_ne (pre ++ ys) [] with h | h
    · rw [(List.append_eq_nil_iff.mp h).2, List.intercalate_nil]
      exact Nat.zero_le _
    · rw [List.cons_append, List.intercalate_cons_of_ne_nil h, List.length_append]
      exact ih.trans (Nat.le_add_left _ _)

theorem filter_not_dropWhile (p : α → Bool) (l : List α) :
    (l.dropWhile p).filter (fun x => !p x) = l.filter fun x => !p x := by
  induction l with
  | nil => rfl
  | cons x l ih =>
    cases hx : p x with
    | true => simpa [hx] using ih
    | false => simp [hx]

theorem rdropWhile_cons {q : α → Bool} (x : α) (l : List α) :
    (x :: l).rdropWhile q =
      if l.rdropWhile q = [] then (if q x then [] else [x]) else x :: l.rdropWhile q := by
  have hrev : l.rdropWhile q = [] ↔ (l.reverse.dropWhile q).isEmpty = true := by
    rw [List.rdropWhile, List.reverse_eq_nil_iff, List.isEmpty_iff]
  rw [List.rdropWhile, List.reverse_cons, List.dropWhile_append]
  by_cases h : l.rdropWhile q = []
  · rw [if_pos h, if_pos (hrev.mp h)]
    by_cases hx : q x
    · rw [List.dropWhile_cons_of_pos hx, if_pos hx]
      rfl
    · rw [List.dropWhile_cons_of_neg hx, if_neg hx]
      rfl
  · rw [if_neg h, if_neg fun e => h (hrev.mpr e), List.reverse_append]
    rfl

theorem rtakeWhile_append_cons {p : α → Bool} {x : α} (h : p x = false) (pre rest : List α) :
    (pre ++ x :: rest).rtakeWhile p = rest.rtakeWhile p := by
  have hstop : (x :: pre.reverse).takeWhile p = [] :=
    List.takeWhile_cons_of_neg (Bool.eq_false_iff.mp h)
  unfold List.rtakeWhile
  rw [List.reverse_append, List.reverse_cons, List.append_assoc, List.singleton_append,
    List.takeWhile_append]
  split
  · next h => rw [hstop, List.append_nil, (List.takeWhile_prefix _).eq_of_length h]
  · rfl

theorem eq_of_splitOn (h : xs.splitOn a = hd :: tl) : xs = hd ++ tl.flatMap (a :: ·) := by
  have hxs : [a].intercalate (xs.splitOn a) = xs := List.intercalate_splitOn a
  rw [h, intercalate_cons] at hxs
  exact hxs.symm

theorem infix_of_mem_splitOn {l : List α} (h : l ∈ xs.splitOn a) : l <:+: xs := by
  obtain ⟨hd, tl, hs⟩ := splitOn_eq_cons a xs
  rw [eq_of_splitOn hs]
  rcases List.mem_cons.mp (hs ▸ h) with rfl | hl
  · exact (List.prefix_append l _).isInfix
  · obtain ⟨tl₁, tl₂, rfl⟩ := List.append_of_mem hl
    refine ⟨hd ++ tl₁.flatMap (a :: ·) ++ [a], tl₂.flatMap (a :: ·), ?_⟩
    simp

theorem splitOn_flatMap (hhd : a ∉ hd) (htl : ∀ l ∈ tl, a ∉ l) :
    (hd ++ tl.flatMap (a :: ·)).splitOn a = hd :: tl := by
  induction tl generalizing hd with
  | nil => rw [List.flatMap_nil, List.append_nil, List.splitOn_eq_singleton hhd]
  | cons l tl ih =>
    have hl : a ∉ l := htl l List.mem_cons_self
    have htl' : ∀ l ∈ tl, a ∉ l := fun l' h' => htl l' (List.mem_cons_of_mem _ h')
    rw [List.flatMap_cons, List.cons_append, List.splitOn_append_cons_self_of_not_mem hhd,
      ih hl htl']

theorem splitOn_terminated {ls : List (List α)} (h : ∀ l ∈ ls, a ∉ l) (s : List α) :
    ((ls.flatMap (· ++ [a])) ++ s).splitOn a = ls ++ s.splitOn a := by
  induction ls with
  | nil => rfl
  | cons l ls ih =>
    have hl : a ∉ l := h l List.mem_cons_self
    rw [List.flatMap_cons, List.append_assoc, List.append_assoc, List.singleton_append,
      List.splitOn_append_cons_self_of_not_mem hl,
      ih fun l' hl' => h l' (List.mem_cons_of_mem _ hl'), List.cons_append]

theorem splitOn_filter (a : α) (p : α → Bool) (hp : p a = true) (xs : List α) :
    (xs.filter p).splitOn a = (xs.splitOn a).map (List.filter p) := by
  obtain ⟨hd, tl, hs⟩ := splitOn_eq_cons a xs
  have hmem : ∀ l ∈ hd :: tl, a ∉ l := fun l hl => not_mem_of_mem_splitOn (hs ▸ hl)
  have hfil : ∀ l ∈ hd :: tl, a ∉ l.filter p := fun l hl h => hmem l hl (List.mem_filter.mp h).1
  have htl : tl.flatMap (fun l => (a :: l).filter p) = (tl.map (List.filter p)).flatMap (a :: ·) := by
    rw [List.flatMap_map]
    exact List.flatMap_congr fun l _ => List.filter_cons_of_pos hp
  rw [hs, eq_of_splitOn hs, List.filter_append, List.filter_flatMap, htl]
  refine splitOn_flatMap (hfil hd List.mem_cons_self) ?_
  intro l hl
  obtain ⟨l', hl', rfl⟩ := List.mem_map.mp hl
  exact hfil l' (List.mem_cons_of_mem _ hl')

theorem splitOn_intercalate_cons (a : α) (x : List α) (xs : List (List α)) :
    ([a].intercalate (x :: xs)).splitOn a = (x :: xs).flatMap (List.splitOn a) := by
  induction xs generalizing x with
  | nil => rw [List.intercalate_singleton, List.flatMap_cons, List.flatMap_nil, List.append_nil]
  | cons y ys ih =>
    rw [List.intercalate_cons_cons, List.append_assoc, List.singleton_append,
      List.splitOn_append_cons_self, ih y, List.flatMap_cons, List.flatMap_cons,
      List.flatMap_cons]

theorem filter_splitOnP_intercalate {p : α → Bool} (ha : p a = true) {ls : List (List α)}
    (h : ∀ l ∈ ls, l ≠ [] ∧ ∀ x ∈ l, p x = false) :
    (([a].intercalate ls).splitOnP p).filter (· ≠ []) = ls := by
  induction ls with
  | nil => rfl
  | cons l ls ih =>
    have hl := h l List.mem_cons_self
    have hls : ∀ l' ∈ ls, l' ≠ [] ∧ ∀ x ∈ l', p x = false :=
      fun l' hl' => h l' (List.mem_cons_of_mem _ hl')
    have hkeep : ∀ rest : List (List α), (l :: rest).filter (· ≠ []) = l :: rest.filter (· ≠ []) :=
      fun rest => List.filter_cons_of_pos (by simpa using hl.1)
    cases ls with
    | nil =>
      rw [List.intercalate_singleton, List.splitOnP_eq_singleton hl.2, hkeep]
      rfl
    | cons l' ls =>
      rw [List.intercalate_cons_cons, List.append_assoc, List.singleton_append,
        List.splitOnP_append_cons_of_forall_mem hl.2 a ha, hkeep, ih hls]

end

/-! ## occurrences behind a separator -/

section
variable {a : α} {w xs hd : List α} {tl : List (List α)}

theorem prefix_append_flatMap_iff (h : a ∉ w) :
    w <+: hd ++ tl.flatMap (a :: ·) ↔ w <+: hd := by
  constructor
  · intro hw
    rcases tl with _ | ⟨l, tl⟩
    · rwa [List.flatMap_nil, List.append_nil] at hw
    · have hcut : hd ++ [a] <+: hd ++ (l :: tl).flatMap (a :: ·) := by
        rw [List.flatMap_cons, List.cons_append, List.prefix_append_right_inj,
          List.cons_prefix_cons]
        exact ⟨rfl, List.nil_prefix⟩
      rcases List.prefix_or_prefix_of_prefix hw hcut with hw | hw
      · rcases List.prefix_concat_iff.mp hw with hw | hw
        · exact absurd (hw ▸ List.mem_append_right hd (List.mem_singleton_self a)) h
        · exact hw
      · exact absurd (hw.subset (List.mem_append_right hd (List.mem_singleton_self a))) h
  · intro hw
    exact hw.trans (List.prefix_append hd _)

theorem cons_infix_append_iff (h : a ∉ hd) (s : List α) :
    a :: w <:+: hd ++ s ↔ a :: w <:+: s := by
  induction hd with
  | nil => rfl
  | cons x hd ih =>
    have hx : ¬ a :: w <+: x :: (hd ++ s) :=
      fun hp => h ((List.cons_prefix_cons.mp hp).1 ▸ List.mem_cons_self)
    have hhd : a ∉ hd := fun hm => h (List.mem_cons_of_mem _ hm)
    rw [List.cons_append, List.infix_cons_iff, ih hhd, or_iff_right hx]

theorem prefix_iff_of_splitOn (h : a ∉ w) (hs : xs.splitOn a = hd :: tl) :
    w <+: xs ↔ w <+: hd := by
  rw [eq_of_splitOn hs, prefix_append_flatMap_iff h]

theorem infix_iff_of_splitOn (h : a ∉ w) (hs : xs.splitOn a = hd :: tl) :
    a :: w <:+: xs ↔ ∃ l ∈ tl, w <+: l := by
  have hmem : ∀ l ∈ hd :: tl, a ∉ l := fun l hl => not_mem_of_mem_splitOn (hs ▸ hl)
  rw [eq_of_splitOn hs, cons_infix_append_iff (hmem hd List.mem_cons_self)]
  have htl : ∀ l ∈ tl, a ∉ l := fun l hl => hmem l (List.mem_cons_of_mem _ hl)
  clear hs hmem
  induction tl with
  | nil => simp
  | cons l tl ih =>
    have hl : a ∉ l := htl l List.mem_cons_self
    have ih' : a :: w <:+: tl.flatMap (a :: ·) ↔ ∃ l ∈ tl, w <+: l :=
      ih fun l' hl' => htl l' (List.mem_cons_of_mem _ hl')
    rw [List.flatMap_cons, List.cons_append, List.infix_cons_iff, List.cons_prefix_cons,
      prefix_append_flatMap_iff h, cons_infix_append_iff hl, ih', List.exists_mem_cons_iff]
    simp

end

/-! ## the first separator -/

def splitOnce (a : α) : List α → Option (List α × List α)
  | [] => none
  | x :: xs => if x = a then some ([], xs) else (splitOnce a xs).map fun p => (x :: p.1, p.2)

def splitOnceText (sep : List α) : List α → Option (List α × List α)
  | [] => none
  | x :: xs =>
    if sep <+: x :: xs then some ([], (x :: xs).drop sep.length)
    else (splitOnceText sep xs).map fun p => (x :: p.1, p.2)

section
variable {a c : α} {x p : List α}

theorem splitOnce_append (h : a ∉ x) (y : List α) : splitOnce a (x ++ a :: y) = some (x, y) := by
  induction x with
  | nil => exact if_pos rfl
  | cons c x ih =>
    have hc : c ≠ a := fun e => h (e ▸ List.mem_cons_self)
    have hx : a ∉ x := fun hm => h (List.mem_cons_of_mem _ hm)
    rw [List.cons_append, splitOnce, if_neg hc, ih hx, Option.map_some]

theorem splitOnce_eq_some_iff {l y : List α} :
    splitOnce a l = some (x, y) ↔ l = x ++ a :: y ∧ a ∉ x := by
  refine ⟨fun h => ?_, fun h => h.1 ▸ splitOnce_append h.2 y⟩
  induction l generalizing x with
  | nil => cases h
  | cons c l ih =>
    rw [splitOnce] at h
    split at h
    · next hc =>
      cases h
      exact ⟨by rw [hc]; rfl, List.not_mem_nil⟩
    · next hc =>
      obtain ⟨⟨x', y'⟩, hl, heq⟩ := Option.map_eq_some_iff.mp h
      cases heq
      obtain ⟨rfl, hx⟩ := ih hl
      refine ⟨rfl, fun hmem => ?_⟩
      rcases List.mem_cons.mp hmem with e | hmem
      · exact hc e.symm
      · exact hx hmem

/-! ## replacing -/

/-- the scan behind `replace`; `skip` elements still belong to the last occurrence -/
def replaceFrom (pat rep : List α) : ℕ → List α → List α
  | _, [] => []
  | skip + 1, _ :: s => replaceFrom pat rep skip s
  | 0, x :: s =>
    if pat <+: x :: s then rep ++ replaceFrom pat rep (pat.length - 1) s
    else x :: replaceFrom pat rep 0 s

def replace (pat rep s : List α) : List α := replaceFrom pat rep 0 s

def replaceFirst (pat rep : List α) : List α → List α
  | [] => []
  | x :: s => if pat <+: x :: s then rep ++ (x :: s).drop pat.length else x :: replaceFirst pat rep s

variable {pat rep s : List α}

theorem replaceFrom_length (x s : List α) :
    replaceFrom pat rep x.length (x ++ s) = replaceFrom pat rep 0 s := by
  induction x with
  | nil => rfl
  | cons a x ih => rw [List.length_cons, List.cons_append, replaceFrom, ih]

@[simp] theorem replace_nil : replace pat rep ([] : List α) = [] := by
  rw [replace, replaceFrom]

theorem replace_append_self (hpat : pat ≠ []) (s : List α) :
    replace pat rep (pat ++ s) = rep ++ replace pat rep s := by
  obtain ⟨c, p, rfl⟩ := List.exists_cons_of_ne_nil hpat
  have hpre : c :: p <+: c :: (p ++ s) := List.prefix_append (c :: p) s
  show replaceFrom (c :: p) rep 0 (c :: (p ++ s)) = _
  rw [replaceFrom, if_pos hpre]
  show rep ++ replaceFrom (c :: p) rep p.length (p ++ s) = _
  rw [replaceFrom_length, replace]

theorem replace_cons_of_not {x : α} (h : ¬ pat <+: x :: s) :
    replace pat rep (x :: s) = x :: replace pat rep s := by
  rw [replace, replaceFrom, if_neg h, replace]

theorem not_prefix_of_not_mem (h : c ∉ a :: x) (s : List α) : ¬ c :: p <+: a :: (x ++ s) := by
  intro hpre
  have hca : c = a := (List.cons_prefix_cons.mp hpre).1
  exact h (hca ▸ List.mem_cons_self)

theorem replace_append_of_not_mem (h : c ∉ x) (s : List α) :
    replace (c :: p) rep (x ++ s) = x ++ replace (c :: p) rep s := by
  induction x with
  | nil => rfl
  | cons a x ih =>
    have hx : c ∉ x := fun hm => h (List.mem_cons_of_mem _ hm)
    rw [List.cons_append, replace_cons_of_not (not_prefix_of_not_mem h s), ih hx, List.cons_append]

theorem mem_replaceFrom {x : α} (skip : ℕ) (s : List α) (h : x ∈ replaceFrom pat rep skip s) :
    x ∈ s ∨ x ∈ rep := by
  induction s generalizing skip with
  | nil => cases skip <;> exact absurd h List.not_mem_nil
  | cons y s ih =>
    cases skip with
    | zero =>
      rw [replaceFrom] at h
      split at h
      · rcases List.mem_append.mp h with h | h
        · exact .inr h
        · exact (ih _ h).imp_left (List.mem_cons_of_mem _)
      · rcases List.mem_cons.mp h with h | h
        · exact .inl (h ▸ List.mem_cons_self)
        · exact (ih _ h).imp_left (List.mem_cons_of_mem _)
    | succ skip =>
      rw [replaceFrom] at h
      exact (ih _ h).imp_left (List.mem_cons_of_mem _)

theorem mem_replace {x : α} (h : x ∈ replace pat rep s) : x ∈ s ∨ x ∈ rep := mem_replaceFrom 0 s h

theorem replace_replace {c : α} (hpat : pat ≠ []) (s : List α) (h : c ∉ s) :
    replace [c] pat (replace pat [c] s) = s := by
  -- the scan either eats one occurrence or one element, so the induction is on the length
  induction hn : s.length using Nat.strong_induction_on generalizing s with
  | _ n ih =>
    rcases s with _ | ⟨x, s⟩
    · rw [replace_nil, replace_nil]
    · by_cases hpre : pat <+: x :: s
      case pos =>
        obtain ⟨t, ht⟩ := hpre
        have hlen : t.length < n := by
          have hpos : 0 < pat.length := List.length_pos_iff.mpr hpat
          have hsum : pat.length + t.length = (x :: s).length := by rw [← ht, List.length_append]
          omega
        have hct : c ∉ t := fun hm => h (ht ▸ List.mem_append_right _ hm)
        rw [← ht, replace_append_self hpat, List.singleton_append]
        have hback : replace [c] pat (c :: replace pat [c] t) =
            pat ++ replace [c] pat (replace pat [c] t) :=
          replace_append_self (List.cons_ne_nil c []) _
        rw [hback, ih _ hlen t hct rfl]
      case neg =>
        have hx : x ≠ c := fun e => h (e ▸ List.mem_cons_self)
        have hs : c ∉ s := fun hm => h (List.mem_cons_of_mem _ hm)
        have hlen : s.length < n := by
          rw [List.length_cons] at hn
          omega
        have hxc : ¬ [c] <+: x :: replace pat [c] s :=
          fun hp => hx (List.cons_prefix_cons.mp hp).1.symm
        rw [replace_cons_of_not hpre, replace_cons_of_not hxc, ih _ hlen s hs rfl]

theorem replace_singleton (c : α) (rep s : List α) :
    replace [c] rep s = s.flatMap fun x => if x = c then rep else [x] := by
  induction s with
  | nil => exact replace_nil
  | cons x s ih =>
    rw [List.flatMap_cons, ← ih]
    by_cases hx : x = c
    · rw [if_pos hx, hx]
      exact replace_append_self (List.cons_ne_nil c []) s
    · rw [if_neg hx]
      exact replace_cons_of_not fun hp => hx (List.cons_prefix_cons.mp hp).1.symm

theorem replaceFirst_append_self (hpat : pat ≠ []) (s : List α) :
    replaceFirst pat rep (pat ++ s) = rep ++ s := by
  obtain ⟨c, p, rfl⟩ := List.exists_cons_of_ne_nil hpat
  have hpre : c :: p <+: c :: (p ++ s) := List.prefix_append (c :: p) s
  show replaceFirst (c :: p) rep (c :: (p ++ s)) = _
  rw [replaceFirst, if_pos hpre]
  show rep ++ (p ++ s).drop p.length = _
  rw [List.drop_left]

theorem replaceFirst_append_of_not_mem (h : c ∉ x) (s : List α) :
    replaceFirst (c :: p) rep (x ++ s) = x ++ replaceFirst (c :: p) rep s := by
  induction x with
  | nil => rfl
  | cons a x ih =>
    have hx : c ∉ x := fun hm => h (List.mem_cons_of_mem _ hm)
    rw [List.cons_append, replaceFirst, if_neg (not_prefix_of_not_mem h s), ih hx,
      List.cons_append]

end

theorem replaceFirst_of_not_infix (s : List α) (h : ¬ pat <:+: s) :
    replaceFirst pat rep s = s := by
  induction s with
  | nil => rfl
  | cons x s ih =>
    rw [List.infix_cons_iff, not_or] at h
    rw [replaceFirst, if_neg h.1, ih h.2]

theorem length_replaceFirst (s : List α) (hpat : pat ≠ []) (h : pat <:+: s) :
    (replaceFirst pat rep s).length + pat.length = s.length + rep.length := by
  induction s with
  | nil => exact absurd (List.infix_nil.mp h) hpat
  | cons x s ih =>
    rw [replaceFirst]
    split
    · next hpre =>
      have hle := hpre.length_le
      rw [List.length_append, List.length_drop]
      omega
    · next hpre =>
      have hlen := ih ((List.infix_cons_iff.mp h).resolve_left hpre)
      rw [List.length_cons, List.length_cons]
      omega

end Split
end Lib
