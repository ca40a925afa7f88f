import EpsilonChat.Lib.ByteSlice
import EpsilonChat.Lib.Split

/-!
# Shortening a text

`truncate_by_lines` goes through the characters and counts lines: a newline starts a new one, and so
does the character behind a full line.  Where line number `max_lines + 1` would start is the break
point; the text is cut there, or behind the last space or newline before it.  Positions are BYTES,
the line length is in CHARACTERS.

The layout itself needs no scan: a paragraph of `n` characters takes `⌈n / max_line_len⌉` lines, an
empty one takes one (`layoutLines`).

* `layoutLines_eq`: the scan counts the lines of the layout;
* `breakPoint_cases`: the break point is in front of the first character that does not fit;
* `cutBack_append`: a cut at a character boundary never fails;
* **`truncate_by_lines_exact`**: what is returned.
-/

namespace EpsilonChat.Tools
open Lib.ByteSlice Lib.Split

def dcEllipsis : List Char := "[...]".toList

/-- `[' ', '\n']` -/
def isSpaceOrNewline (c : Char) : Bool := c == ' ' || c == '\n'

/-! ## the source -/

structure Cursor where
  lines : ℕ
  lineChars : ℕ
  deriving DecidableEq, Repr

def Cursor.advance (maxLineLen : ℕ) (p : Cursor) (c : Char) : Cursor :=
  if c = '\n' then ⟨p.lines + 1, 0⟩
  else if p.lineChars + 1 > maxLineLen then ⟨p.lines + 1, 1⟩
  else ⟨p.lines, p.lineChars + 1⟩

def breakPoint (maxLines maxLineLen : ℕ) (p : Cursor) : List (ℕ × Char) → Option ℕ
  | [] => none
  | (index, c) :: rest =>
    let p := p.advance maxLineLen c
    if p.lines = maxLines then some index else breakPoint maxLines maxLineLen p rest

def cutBack (buf : List Char) (endPos : ℕ) : Option (List Char) :=
  match getTo endPos buf with
  | some buffer =>
    match rfind isSpaceOrNewline buffer with
    | some index => getTo (index + 1) buf
    | none => getTo endPos buf
  | none => none

def truncationError : List Char :=
  "[Truncation of the message failed, this is a bug in the Delta Chat core. ".toList ++
    "Please report it.\nYou can still open the full text to view the original message.]".toList

def truncateByLines (buf : List Char) (maxLines maxLineLen : ℕ) : List Char × Bool :=
  match breakPoint maxLines maxLineLen ⟨0, 0⟩ (charIndices buf) with
  | some endPos =>
    match cutBack buf endPos with
    | some truncatedText => (truncatedText ++ dcEllipsis, true)
    | none => (truncationError, true)
  | none => (buf, false)

/-! ## the layout -/

/-- how many lines a paragraph takes, with `used` characters of it already set -/
def paragraphLines (maxLineLen used : ℕ) (par : List Char) : ℕ :=
  max 1 ((used + par.length + maxLineLen - 1) / maxLineLen)

def layoutLines (maxLineLen : ℕ) (s : List Char) : ℕ :=
  ((s.splitOn '\n').map (paragraphLines maxLineLen 0)).sum

section
variable {maxLineLen : ℕ}

theorem paragraphLines_nil {used : ℕ} (h : used ≤ maxLineLen) :
    paragraphLines maxLineLen used [] = 1 := by
  rw [paragraphLines, List.length_nil]
  refine max_eq_left ?_
  rcases Nat.eq_zero_or_pos maxLineLen with rfl | hpos
  · rw [Nat.div_zero]
    exact Nat.zero_le 1
  · rw [Nat.div_le_iff_le_mul_add_pred hpos]
    omega

theorem paragraphLines_cons (used : ℕ) (c : Char) (par : List Char) :
    paragraphLines maxLineLen used (c :: par) = paragraphLines maxLineLen (used + 1) par := by
  rw [paragraphLines, paragraphLines, List.length_cons, Nat.add_assoc used 1, Nat.add_comm 1]

theorem paragraphLines_full (h : 1 ≤ maxLineLen) (par : List Char) :
    paragraphLines maxLineLen (maxLineLen + 1) par = 1 + paragraphLines maxLineLen 1 par := by
  have hdiv : (maxLineLen + 1 + par.length + maxLineLen - 1) / maxLineLen =
      (1 + par.length + maxLineLen - 1) / maxLineLen + 1 := by
    rw [← Nat.add_div_right _ h]
    congr 1
    omega
  have hpos : 1 ≤ (1 + par.length + maxLineLen - 1) / maxLineLen := by
    rw [Nat.le_div_iff_mul_le h]
    omega
  rw [paragraphLines, paragraphLines, hdiv]
  omega

theorem lines_foldl (h : 1 ≤ maxLineLen) (p : Cursor) (hp : p.lineChars ≤ maxLineLen)
    (s hd : List Char) (tl : List (List Char)) (hs : s.splitOn '\n' = hd :: tl) :
    (s.foldl (Cursor.advance maxLineLen) p).lines + 1 =
      p.lines + paragraphLines maxLineLen p.lineChars hd +
        (tl.map (paragraphLines maxLineLen 0)).sum := by
  induction s generalizing p hd tl with
  | nil =>
    rw [List.splitOn_nil] at hs
    obtain ⟨rfl, rfl⟩ := List.cons.inj hs
    rw [paragraphLines_nil hp]
    rfl
  | cons c s ih =>
    obtain ⟨hd', tl', hs'⟩ := splitOn_eq_cons '\n' s
    rw [List.foldl_cons]
    by_cases hc : c = '\n'
    · subst hc
      rw [splitOn_cons_self, hs'] at hs
      obtain ⟨rfl, rfl⟩ := List.cons.inj hs
      have hadvance : p.advance maxLineLen '\n' = ⟨p.lines + 1, 0⟩ := if_pos rfl
      rw [hadvance, ih ⟨p.lines + 1, 0⟩ (Nat.zero_le _) hd' tl' hs', paragraphLines_nil hp,
        List.map_cons, List.sum_cons]
      dsimp only
      ring
    · rw [splitOn_cons_of_ne hc hs'] at hs
      obtain ⟨rfl, rfl⟩ := List.cons.inj hs
      rw [paragraphLines_cons]
      by_cases hfull : p.lineChars + 1 > maxLineLen
      · have hadvance : p.advance maxLineLen c = ⟨p.lines + 1, 1⟩ := by
          rw [Cursor.advance, if_neg hc, if_pos hfull]
        have hchars : p.lineChars = maxLineLen := by omega
        rw [hadvance, ih ⟨p.lines + 1, 1⟩ h hd' tl' hs', hchars, paragraphLines_full h]
        dsimp only
        ring
      · have hadvance : p.advance maxLineLen c = ⟨p.lines, p.lineChars + 1⟩ := by
          rw [Cursor.advance, if_neg hc, if_neg hfull]
        rw [hadvance, ih ⟨p.lines, p.lineChars + 1⟩ (not_lt.mp hfull) hd' tl' hs']

theorem lines_le_foldl (p : Cursor) (s : List Char) :
    p.lines ≤ (s.foldl (Cursor.advance maxLineLen) p).lines := by
  induction s generalizing p with
  | nil => exact Nat.le_refl _
  | cons c s ih =>
    refine Nat.le_trans ?_ (ih (p.advance maxLineLen c))
    unfold Cursor.advance
    split
    · exact Nat.le_succ _
    · split
      · exact Nat.le_succ _
      · exact Nat.le_refl _

theorem layoutLines_eq (h : 1 ≤ maxLineLen) (s : List Char) :
    layoutLines maxLineLen s = (s.foldl (Cursor.advance maxLineLen) ⟨0, 0⟩).lines + 1 := by
  obtain ⟨hd, tl, hs⟩ := splitOn_eq_cons '\n' s
  rw [lines_foldl h ⟨0, 0⟩ (Nat.zero_le _) s hd tl hs, layoutLines, hs, List.map_cons, List.sum_cons,
    Nat.zero_add]

theorem layoutLines_append_le (h : 1 ≤ maxLineLen) (s t : List Char) :
    layoutLines maxLineLen s ≤ layoutLines maxLineLen (s ++ t) := by
  rw [layoutLines_eq h, layoutLines_eq h, List.foldl_append]
  exact Nat.succ_le_succ (lines_le_foldl _ _)

theorem length_le_foldl (h : 1 ≤ maxLineLen) (s : List Char) :
    (s.foldl (Cursor.advance maxLineLen) ⟨0, 0⟩).lineChars ≤ maxLineLen ∧
      s.length ≤ (s.foldl (Cursor.advance maxLineLen) ⟨0, 0⟩).lines * (maxLineLen + 1) +
        (s.foldl (Cursor.advance maxLineLen) ⟨0, 0⟩).lineChars := by
  induction s using List.reverseRecOn with
  | nil => exact ⟨Nat.zero_le _, Nat.zero_le _⟩
  | append_singleton s c ih =>
    rw [List.foldl_concat, List.length_append, List.length_singleton]
    generalize s.foldl (Cursor.advance maxLineLen) ⟨0, 0⟩ = p at ih ⊢
    obtain ⟨hchars, hlength⟩ := ih
    have hmul : (p.lines + 1) * (maxLineLen + 1) =
        p.lines * (maxLineLen + 1) + maxLineLen + 1 := by ring
    unfold Cursor.advance
    split
    · dsimp only
      omega
    · split
      · dsimp only
        omega
      · dsimp only
        omega

theorem length_le_of_layoutLines {maxLines : ℕ} (hl : 1 ≤ maxLines) (h : 1 ≤ maxLineLen)
    {s : List Char} (hs : layoutLines maxLineLen s ≤ maxLines) :
    s.length ≤ maxLines * maxLineLen + maxLines - 1 := by
  rw [layoutLines_eq h] at hs
  obtain ⟨hchars, hlength⟩ := length_le_foldl h s
  generalize s.foldl (Cursor.advance maxLineLen) ⟨0, 0⟩ = p at hs hchars hlength
  have hmul : p.lines * (maxLineLen + 1) ≤ (maxLines - 1) * (maxLineLen + 1) :=
    Nat.mul_le_mul_right _ (by omega)
  obtain ⟨n, rfl⟩ : ∃ n, maxLines = n + 1 := ⟨maxLines - 1, by omega⟩
  have hexpand : (n + 1) * maxLineLen + (n + 1) - 1 = n * (maxLineLen + 1) + maxLineLen := by
    rw [Nat.add_mul, Nat.mul_add]
    omega
  rw [hexpand]
  rw [Nat.add_sub_cancel] at hmul
  omega

end

/-! ## the break point and the cut -/

theorem breakPoint_cases {maxLines : ℕ} (maxLineLen : ℕ) {p : Cursor} (hp : p.lines < maxLines)
    (index : ℕ) (s : List Char) :
    (breakPoint maxLines maxLineLen p (charIndicesFrom index s) = none ∧
      (s.foldl (Cursor.advance maxLineLen) p).lines < maxLines) ∨
    ∃ before c after, s = before ++ c :: after ∧
      breakPoint maxLines maxLineLen p (charIndicesFrom index s) = some (index + byteLen before) ∧
      (before.foldl (Cursor.advance maxLineLen) p).lines < maxLines ∧
      ((before ++ [c]).foldl (Cursor.advance maxLineLen) p).lines = maxLines := by
  induction s generalizing p index with
  | nil => exact .inl ⟨rfl, hp⟩
  | cons c s ih =>
    rw [charIndicesFrom, breakPoint]
    by_cases hbreak : (p.advance maxLineLen c).lines = maxLines
    · rw [if_pos hbreak]
      exact .inr ⟨[], c, s, rfl, rfl, hp, hbreak⟩
    · have hle : (p.advance maxLineLen c).lines ≤ p.lines + 1 := by
        unfold Cursor.advance
        split
        · exact Nat.le_refl _
        · split
          · exact Nat.le_refl _
          · exact Nat.le_succ _
      rw [if_neg hbreak]
      rcases ih (p := p.advance maxLineLen c) (by omega) (index + c.utf8Size) with
        ⟨hnone, hlines⟩ | ⟨before, d, after, rfl, hsome, hlines, hnext⟩
      · exact .inl ⟨hnone, hlines⟩
      · refine .inr ⟨c :: before, d, after, rfl, ?_, hlines, hnext⟩
        rw [hsome, byteLen_cons, Nat.add_assoc]

/-- what is kept of the text before the break point: up to its last space or newline, if there is
one -/
def IsCutBack (before kept : List Char) : Prop :=
  (∃ x c rest, before = x ++ c :: rest ∧ isSpaceOrNewline c = true ∧
    (∀ d ∈ rest, isSpaceOrNewline d = false) ∧ kept = x ++ [c]) ∨
  ((∀ c ∈ before, isSpaceOrNewline c = false) ∧ kept = before)

theorem byteLen_concat {x : List Char} {c : Char} (hc : isSpaceOrNewline c = true) :
    byteLen (x ++ [c]) = byteLen x + 1 := by
  have hsize : c.utf8Size = 1 := by
    rw [isSpaceOrNewline, Bool.or_eq_true, beq_iff_eq, beq_iff_eq] at hc
    rcases hc with rfl | rfl <;> rfl
  rw [byteLen_append, byteLen_cons, hsize]
  rfl

theorem getTo_concat {x : List Char} {c : Char} (hc : isSpaceOrNewline c = true) (y : List Char) :
    getTo (byteLen x + 1) (x ++ c :: y) = some (x ++ [c]) := by
  have h := getTo_append (x ++ [c]) y
  rwa [byteLen_concat hc, List.append_assoc] at h

theorem cutBack_append (before after : List Char) :
    ∃ kept, cutBack (before ++ after) (byteLen before) = some kept ∧ IsCutBack before kept := by
  unfold cutBack
  rw [getTo_append]
  dsimp only
  rcases rfind_cases isSpaceOrNewline before with ⟨hnone, hall⟩ | ⟨x, c, y, rfl, hc, hy, hsome⟩
  · rw [hnone]
    exact ⟨before, rfl, .inr ⟨hall, rfl⟩⟩
  · rw [hsome]
    dsimp only
    rw [List.append_assoc, List.cons_append, getTo_concat hc]
    exact ⟨x ++ [c], rfl, .inl ⟨x, c, y, rfl, hc, hy, rfl⟩⟩

theorem IsCutBack.length_le {before kept : List Char} (h : IsCutBack before kept) :
    kept.length ≤ before.length := by
  rcases h with ⟨x, c, rest, rfl, _, _, rfl⟩ | ⟨_, rfl⟩
  · simp
  · exact Nat.le_refl _

theorem IsCutBack.eq_nil {before : List Char} (h : IsCutBack before []) : before = [] := by
  rcases h with ⟨x, c, rest, _, _, _, hnil⟩ | ⟨_, hnil⟩
  · exact absurd hnil.symm (List.append_ne_nil_of_right_ne_nil _ (List.cons_ne_nil _ _))
  · exact hnil.symm

theorem IsCutBack.isPrefix {before kept : List Char} (h : IsCutBack before kept) :
    kept <+: before := by
  rcases h with ⟨x, c, rest, rfl, _, _, rfl⟩ | ⟨_, rfl⟩
  · exact ⟨rest, by rw [List.append_assoc]; rfl⟩
  · exact List.prefix_rfl

/-! ## what is returned -/

theorem not_suffix_truncationError : ¬ dcEllipsis <:+ truncationError := by decide +kernel

theorem truncateByLines_cases {maxLines maxLineLen : ℕ} (hl : 1 ≤ maxLines) (hll : 1 ≤ maxLineLen)
    (buf : List Char) :
    (truncateByLines buf maxLines maxLineLen = (buf, false) ∧
      layoutLines maxLineLen buf ≤ maxLines) ∨
    ∃ before c after kept, buf = before ++ c :: after ∧
      layoutLines maxLineLen before ≤ maxLines ∧ maxLines < layoutLines maxLineLen (before ++ [c]) ∧
      maxLines < layoutLines maxLineLen buf ∧ IsCutBack before kept ∧
      truncateByLines buf maxLines maxLineLen = (kept ++ dcEllipsis, true) := by
  have hstart : (⟨0, 0⟩ : Cursor).lines < maxLines := hl
  unfold truncateByLines charIndices
  rcases breakPoint_cases maxLineLen hstart 0 buf with
    ⟨hnone, hlines⟩ | ⟨before, c, after, rfl, hsome, hbefore, hbreak⟩
  · left
    rw [hnone, layoutLines_eq hll]
    exact ⟨rfl, hlines⟩
  · right
    obtain ⟨kept, hkept, hcut⟩ := cutBack_append before (c :: after)
    rw [hsome, Nat.zero_add]
    dsimp only
    rw [hkept]
    have hnext : maxLines < layoutLines maxLineLen (before ++ [c]) := by
      rw [layoutLines_eq hll, hbreak]
      exact Nat.lt_succ_self _
    refine ⟨before, c, after, kept, rfl, ?_, hnext, ?_, hcut, rfl⟩
    · rw [layoutLines_eq hll]
      exact hbefore
    · refine hnext.trans_le ?_
      have hle := layoutLines_append_le hll (before ++ [c]) after
      rwa [List.append_assoc] at hle

/-- **exact.**  The text is unchanged iff its layout needs at most `max_lines` lines.  Otherwise
what is kept ends behind the last space or newline before the break point, in front of the first
character that does not fit; it is not too long, and empty only if the break point is the start. -/
theorem truncate_by_lines_exact (buf : List Char) (maxLines maxLineLen : ℕ) (hl : 1 ≤ maxLines)
    (hll : 1 ≤ maxLineLen) :
    (truncateByLines buf maxLines maxLineLen = (buf, false) ↔
      layoutLines maxLineLen buf ≤ maxLines) ∧
    (¬ layoutLines maxLineLen buf ≤ maxLines →
      ∃ before c after kept, buf = before ++ c :: after ∧
        layoutLines maxLineLen before ≤ maxLines ∧
        maxLines < layoutLines maxLineLen (before ++ [c]) ∧
        truncateByLines buf maxLines maxLineLen = (kept ++ dcEllipsis, true) ∧
        kept <+: buf ∧ IsCutBack before kept ∧
        kept.length ≤ maxLines * maxLineLen + maxLines - 1 ∧ (kept = [] → before = [])) ∧
    ((truncateByLines buf maxLines maxLineLen).2 = true →
      (truncateByLines buf maxLines maxLineLen).1 ≠ truncationError) := by
  rcases truncateByLines_cases hl hll buf with
    ⟨hsame, hfits⟩ | ⟨before, c, after, kept, hbuf, hbefore, hnext, hlong, hcut, hcutEq⟩
  · refine ⟨⟨fun _ => hfits, fun _ => hsame⟩, fun h => absurd hfits h, fun h => ?_⟩
    rw [hsame] at h
    cases h
  · refine ⟨⟨fun h => ?_, fun h => absurd hlong (not_lt.mpr h)⟩, fun _ => ?_, fun _ => ?_⟩
    · rw [hcutEq] at h
      cases (Prod.mk.inj h).2
    · refine ⟨before, c, after, kept, hbuf, hbefore, hnext, hcutEq, ?_, hcut, ?_, ?_⟩
      · rw [hbuf]
        exact hcut.isPrefix.trans (List.prefix_append _ _)
      · exact hcut.length_le.trans (length_le_of_layoutLines hl hll hbefore)
      · rintro rfl
        exact hcut.eq_nil
    · rw [hcutEq]
      exact fun herror => not_suffix_truncationError ⟨kept, herror⟩

/-- a text of two paragraphs, cut in the second line of the second one -/
theorem truncate_by_lines_exact_two :
    ¬ layoutLines 4 "ab\ncd efgh".toList ≤ 2 ∧
      truncateByLines "ab\ncd efgh".toList 2 4 = ("ab\ncd ".toList ++ dcEllipsis, true) ∧
      (truncateByLines "ab\ncd efgh".toList 2 4).1 ≠ truncationError :=
  ⟨by decide, by decide, (truncate_by_lines_exact "ab\ncd efgh".toList 2 4 (by decide)
    (by decide)).2.2 (by decide)⟩

end EpsilonChat.Tools
