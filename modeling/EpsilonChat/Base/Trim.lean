import EpsilonChat.Base.Text
import EpsilonChat.Lib.Split

/-!
# Trimmed text

`str::trim` drops the whitespace at both ends, so its result is the text itself iff there is none
(`trim_eq_self_iff`); otherwise it is shorter.
-/

namespace EpsilonChat.Text

/-- neither the first nor the last character is whitespace -/
structure Trimmed (cs : List Char) : Prop where
  head : ∀ c, cs.head? = some c → isWhitespace c = false
  last : ∀ c, cs.getLast? = some c → isWhitespace c = false

section
variable {cs : List Char}

theorem trimmed_of_forall (h : ∀ c ∈ cs, isWhitespace c = false) : Trimmed cs :=
  ⟨fun c hc => h c (List.mem_of_head? hc), fun c hc => h c (List.mem_of_getLast? hc)⟩

theorem head?_trimStart {c : Char} (h : (trimStart cs).head? = some c) :
    isWhitespace c = false := by
  have hhead := List.head?_dropWhile_not isWhitespace cs
  rw [← trimStart, h] at hhead
  simpa using hhead

theorem trimStart_eq_self (h : ∀ c, cs.head? = some c → isWhitespace c = false) :
    trimStart cs = cs := by
  rcases cs with _ | ⟨c, cs⟩
  · rfl
  · have hc : ¬ isWhitespace c = true := by
      rw [h c rfl]
      exact Bool.false_ne_true
    rw [trimStart, List.dropWhile_cons_of_neg hc]

theorem trimEnd_eq (cs : List Char) : trimEnd cs = (trimStart cs.reverse).reverse := rfl

theorem getLast?_trimEnd {cs : List Char} {c : Char} (h : (trimEnd cs).getLast? = some c) :
    isWhitespace c = false := by
  rw [trimEnd_eq, List.getLast?_reverse] at h
  exact head?_trimStart h

theorem trimEnd_eq_self (h : ∀ c, cs.getLast? = some c → isWhitespace c = false) :
    trimEnd cs = cs := by
  rw [trimEnd_eq, trimStart_eq_self, List.reverse_reverse]
  intro c hc
  rw [List.head?_reverse] at hc
  exact h c hc

theorem trimEnd_isPrefix (cs : List Char) : trimEnd cs <+: cs := by
  have hsuffix : trimStart cs.reverse <:+ cs.reverse := List.dropWhile_suffix _
  rw [trimEnd_eq]
  exact List.reverse_suffix.mp (by rwa [List.reverse_reverse])

theorem trimEnd_append {x : List Char} (hx : trimEnd x = x) (y : List Char) :
    trimEnd (x ++ y) = x ++ trimEnd y := by
  have hrev : x.reverse.dropWhile isWhitespace = x.reverse := by
    rw [← List.reverse_inj, List.reverse_reverse]
    exact hx
  rw [trimEnd, trimEnd, List.reverse_append, List.dropWhile_append, hrev]
  split
  · next hempty =>
    rw [List.isEmpty_iff.mp hempty, List.reverse_reverse, List.reverse_nil, List.append_nil]
  · rw [List.reverse_append, List.reverse_reverse]

theorem trimStart_append_of_whitespace {lead : List Char} (h : ∀ c ∈ lead, isWhitespace c = true)
    (cs : List Char) : trimStart (lead ++ cs) = trimStart cs := by
  rw [trimStart, List.dropWhile_append_of_pos h, ← trimStart]

theorem trimEnd_append_of_whitespace {trail : List Char} (h : ∀ c ∈ trail, isWhitespace c = true)
    (cs : List Char) : trimEnd (cs ++ trail) = trimEnd cs := by
  rw [trimEnd_eq, List.reverse_append, trimStart_append_of_whitespace, ← trimEnd_eq]
  exact fun c hc => h c (List.mem_reverse.mp hc)

theorem exists_trim (cs : List Char) : ∃ lead trail,
    cs = lead ++ (trimEnd (trimStart cs) ++ trail) ∧
      (∀ c ∈ lead, isWhitespace c = true) ∧ ∀ c ∈ trail, isWhitespace c = true := by
  refine ⟨cs.takeWhile isWhitespace, ((trimStart cs).reverse.takeWhile isWhitespace).reverse, ?_,
    fun c hc => List.mem_takeWhile_imp hc,
    fun c hc => List.mem_takeWhile_imp (List.mem_reverse.mp hc)⟩
  rw [trimEnd, ← List.reverse_append, List.takeWhile_append_dropWhile, List.reverse_reverse,
    trimStart, List.takeWhile_append_dropWhile]

theorem trimEnd_concat {c : Char} (h : isWhitespace c = false) (l : List Char) :
    trimEnd (l ++ [c]) = l ++ [c] := by
  apply trimEnd_eq_self
  intro d hd
  rw [List.getLast?_concat] at hd
  exact Option.some.inj hd ▸ h

theorem filter_trimStart (cs : List Char) :
    (trimStart cs).filter (fun c => !isWhitespace c) = cs.filter fun c => !isWhitespace c :=
  Lib.Split.filter_not_dropWhile isWhitespace cs

theorem filter_trimEnd (cs : List Char) :
    (trimEnd cs).filter (fun c => !isWhitespace c) = cs.filter fun c => !isWhitespace c := by
  rw [trimEnd_eq, List.filter_reverse, filter_trimStart, List.filter_reverse, List.reverse_reverse]

theorem trimmed_trim (cs : List Char) : Trimmed (trimEnd (trimStart cs)) where
  head c hc := by
    obtain ⟨rest, hrest⟩ := trimEnd_isPrefix (trimStart cs)
    have hhead : (trimStart cs).head? = some c := by
      rw [← hrest, List.head?_append, hc]
      rfl
    exact head?_trimStart hhead
  last _ hc := getLast?_trimEnd hc

theorem trim_of_trimmed (h : Trimmed cs) : trimEnd (trimStart cs) = cs := by
  rw [trimStart_eq_self h.head, trimEnd_eq_self h.last]

theorem trim_eq_self_iff : trimEnd (trimStart cs) = cs ↔ Trimmed cs :=
  ⟨fun h => h ▸ trimmed_trim cs, trim_of_trimmed⟩

end

end EpsilonChat.Text
