import EpsilonChat.Base.Trim
import EpsilonChat.Mime.Simplify

/-!
# Mails of other programs: nothing lost, nothing invented

`simplify` cuts a mail of another program at both ends: the forward header and the quote on top, then
the footer, a nonstandard footer and the quote at the bottom.  If only blank lines are left, the lines
behind the quote on top are shown after all.

* `filter_normaliseLines`: rendering keeps the lines that are not blank, in their order;
* `renderMessage_marked`: and writes ` [...]` behind them, if there are any;
* **`simplified_lines`**: what is shown of a mail.

The quote at the bottom is not missing if it is the only one: then it becomes the quote of the
message (`std::mem::swap`), and there is NO marker (`quote_without_marker`).
-/

namespace EpsilonChat.Simplify

open Lib.Split

/-! ## what is cut -/

theorem footerLoop_isPrefix (lines : List Line) (ix : ℕ) (nearly : Option ℕ) (rest : List Line) :
    (footerLoop lines ix nearly rest).1 <+: lines := by
  induction rest generalizing ix nearly with
  | nil =>
    cases nearly with
    | none => exact List.prefix_rfl
    | some ix => exact List.take_prefix _ _
  | cons line rest ih =>
    rw [footerLoop]
    split
    · exact List.take_prefix _ _
    · split <;> exact ih _ _

theorem take_spec {lines : List Line} {n : ℕ} (h : n < lines.length) :
    lines.take n <+: lines ∧ (true = true ↔ lines.take n ≠ lines) := by
  refine ⟨List.take_prefix _ _, fun _ heq => ?_, fun _ => rfl⟩
  have hlen := congrArg List.length heq
  rw [List.length_take] at hlen
  omega

theorem removeNonstandardFooter_spec (lines : List Line) :
    (removeNonstandardFooter lines).1 <+: lines ∧
      ((removeNonstandardFooter lines).2 = true ↔ (removeNonstandardFooter lines).1 ≠ lines) := by
  unfold removeNonstandardFooter
  split
  · next ix hix =>
    have hlt : ix < lines.length := (List.findIdx?_eq_some_iff_getElem.mp hix).1
    exact take_spec (by omega)
  · simp

theorem bottomQuoteLoop_lt {n first : ℕ} {last : Option ℕ} (hlast : ∀ l, last = some l → l < n)
    {rest : List (Line × ℕ)} (hrest : ∀ x ∈ rest, x.2 < n) {l : ℕ}
    (h : (bottomQuoteLoop first last rest).2 = some l) : l < n := by
  induction rest generalizing first last with
  | nil => exact hlast l h
  | cons x rest ih =>
    obtain ⟨hx, hrest⟩ := List.forall_mem_cons.mp hrest
    rw [bottomQuoteLoop] at h
    split at h
    · exact ih (fun l hl => Option.some.inj hl ▸ hx) hrest h
    · split at h
      · exact ih hlast hrest h
      · exact hlast l h

theorem stepUp_le (lines : List Line) (p : Line → Bool) (l : ℕ) : stepUp lines p l ≤ l := by
  unfold stepUp
  split <;> omega

theorem removeBottomQuote_spec (lines : List Line) :
    (removeBottomQuote lines).1 <+: lines ∧
      ((removeBottomQuote lines).2.isSome = true ↔ (removeBottomQuote lines).1 ≠ lines) := by
  unfold removeBottomQuote
  split
  · next first l hloop =>
    have hl : l < lines.length := by
      apply bottomQuoteLoop_lt (show ∀ i, (none : Option ℕ) = some i → i < lines.length by nofun)
      · show ∀ x ∈ lines.zipIdx.reverse, x.2 < lines.length
        intro x hx
        simpa using (List.mem_zipIdx (List.mem_reverse.mp hx)).2.1
      · rw [hloop]
    have hstep := (stepUp_le lines isQuotedHeadline (stepUp lines isEmptyLine l)).trans
      (stepUp_le lines isEmptyLine l)
    exact take_spec (by omega)
  · simp

theorem removeTopQuote_isSuffix (lines : List Line) (isChatMessage : Bool) :
    (removeTopQuote lines isChatMessage).1 <:+ lines := by
  unfold removeTopQuote
  split
  · exact List.drop_suffix _ _
  · exact List.suffix_rfl

theorem skipForwardHeader_isSuffix (lines : List Line) : (skipForwardHeader lines).1 <:+ lines := by
  unfold skipForwardHeader
  split
  · split
    · exact ⟨[_, _, _], rfl⟩
    · exact List.suffix_rfl
  · exact List.suffix_rfl

/-! ## rendering -/

theorem ne_nil_of_not_empty {l : Line} (h : isEmptyLine l = false) : l ≠ [] := by
  rintro rfl
  cases h

theorem filter_squeeze (ls : List Line) :
    (squeeze ls).filter (· ≠ []) = ls.filter fun l => !isEmptyLine l := by
  induction ls with
  | nil => rfl
  | cons l ls ih =>
    rw [squeeze]
    cases hl : isEmptyLine l with
    | true =>
      simp only [if_true]
      split <;> simpa [hl] using ih
    | false => simpa [hl, ne_nil_of_not_empty hl] using ih

theorem filter_normaliseLines (ls : List Line) :
    (normaliseLines ls).filter (· ≠ []) = ls.filter fun l => !isEmptyLine l := by
  rw [normaliseLines, filter_squeeze, List.rdropWhile, List.filter_reverse, filter_not_dropWhile,
    List.filter_reverse, List.reverse_reverse, filter_not_dropWhile]

theorem mem_squeeze {l : Line} {ls : List Line} (h : l ∈ squeeze ls) : l = [] ∨ l ∈ ls := by
  induction ls with
  | nil => cases h
  | cons x ls ih =>
    rw [squeeze] at h
    split at h
    · split at h
      · exact (ih h).imp_right (List.mem_cons_of_mem x)
      · rcases List.mem_cons.mp h with h | h
        · exact .inl h
        · exact (ih h).imp_right (List.mem_cons_of_mem x)
    · rcases List.mem_cons.mp h with h | h
      · exact .inr (h ▸ List.mem_cons_self)
      · exact (ih h).imp_right (List.mem_cons_of_mem x)

theorem not_mem_normaliseLines {c : Char} {ls : List Line} (h : ∀ l ∈ ls, c ∉ l) :
    ∀ l ∈ normaliseLines ls, c ∉ l := by
  intro l hl
  rcases mem_squeeze hl with rfl | hl
  · exact List.not_mem_nil
  · exact h l ((List.dropWhile_suffix _).subset ((List.rdropWhile_prefix _ _).subset hl))

def marker : List Char := " [...]".toList

theorem intercalate_normaliseLines {ls : List Line} (hnewline : ∀ l ∈ ls, '\n' ∉ l) :
    ['\n'].intercalate (normaliseLines ls) = [] ↔ ∀ l ∈ ls, isEmptyLine l = true := by
  constructor
  · intro h
    have hfilter : (normaliseLines ls).filter (· ≠ []) = [] := by
      by_cases hnil : normaliseLines ls = []
      · rw [hnil]
        rfl
      · have hsplit := List.splitOn_intercalate '\n' (not_mem_normaliseLines hnewline) hnil
        rw [← hsplit, h, List.splitOn_nil]
        rfl
    rw [filter_normaliseLines, List.filter_eq_nil_iff] at hfilter
    simpa using hfilter
  · intro h
    rw [normaliseLines, List.dropWhile_eq_nil_iff.mpr h]
    rfl

theorem renderMessage_marked {ls : List Line} (hzwsp : ∀ l ∈ ls, zwsp ∉ l) (isCut : Bool) :
    renderMessage ls isCut = ['\n'].intercalate (normaliseLines ls) ++
      if isCut ∧ ['\n'].intercalate (normaliseLines ls) ≠ [] then marker else [] := by
  have hclean : zwsp ∉ ['\n'].intercalate (normaliseLines ls) := by
    have hlines := not_mem_normaliseLines hzwsp
    have hnewline : zwsp ≠ '\n' := by decide
    cases hls : normaliseLines ls with
    | nil => simp
    | cons l rest =>
      rw [hls] at hlines
      obtain ⟨hl, hrest⟩ := List.forall_mem_cons.mp hlines
      simpa [intercalate_cons, hl, hnewline] using hrest
  have hmarker : zwsp ∉ marker := by decide
  have hfilter : ∀ cs : List Char, zwsp ∉ cs → cs.filter (· ≠ zwsp) = cs := by
    intro cs hcs
    rw [List.filter_eq_self]
    intro c hc
    simpa using fun h : c = zwsp => hcs (h ▸ hc)
  rw [renderMessage, renderLoop_start]
  by_cases hcut : isCut = true ∧ ['\n'].intercalate (normaliseLines ls) ≠ []
  · simp only [if_pos hcut, if_pos (show (isCut && !List.isEmpty _) = true by simpa using hcut)]
    apply hfilter
    exact fun hmem => (List.mem_append.mp hmem).elim hclean hmarker
  · rw [if_neg hcut, if_neg (by simpa using hcut), List.append_nil]
    exact hfilter _ hclean

theorem renderMessage_shown {ls : List Line} (hzwsp : ∀ l ∈ ls, zwsp ∉ l)
    (hnewline : ∀ l ∈ ls, '\n' ∉ l) (isCut : Bool) :
    ∃ shown mark, renderMessage ls isCut = ['\n'].intercalate shown ++ mark ∧
      (∀ l ∈ shown, '\n' ∉ l) ∧ (shown.filter (· ≠ [])).Sublist ls ∧
      (mark = marker ∨ mark = []) ∧
      (mark = marker ↔ (∃ l ∈ ls, isEmptyLine l = false) ∧ isCut = true) ∧
      (renderMessage ls isCut = [] → ∀ l ∈ ls, isEmptyLine l = true) := by
  have hsome : ['\n'].intercalate (normaliseLines ls) ≠ [] ↔ ∃ l ∈ ls, isEmptyLine l = false := by
    rw [← not_iff_not, not_not, intercalate_normaliseLines hnewline]
    simp
  refine ⟨normaliseLines ls, _, renderMessage_marked hzwsp isCut, not_mem_normaliseLines hnewline,
    ?_, ?_, ?_, fun h => ?_⟩
  · rw [filter_normaliseLines]
    exact List.filter_sublist
  · exact ite_eq_or_eq _ _ _
  · rw [← hsome]
    split
    · next hcut => exact iff_of_true rfl hcut.symm
    · next hcut => exact iff_of_false (by decide) fun h => hcut h.symm
  · rw [renderMessage_marked hzwsp] at h
    exact (intercalate_normaliseLines hnewline).mp (List.append_eq_nil_iff.mp h).1

/-! ## the mail -/

section
variable (input : String)

def inputLines : List Line := splitLines (input.toList.filter (· ≠ '\r'))

/-- the lines behind the forward header and the quote on top -/
def bodyLines : List Line := (removeTopQuote (skipForwardHeader (inputLines input)).1 false).1

def topQuote : Option (List Char) := (removeTopQuote (skipForwardHeader (inputLines input)).1 false).2

def withoutFooter : List Line := (removeMessageFooter (bodyLines input)).1

def withoutNonstandardFooter : List Line := (removeNonstandardFooter (withoutFooter input)).1

def withoutBottomQuote : List Line := (removeBottomQuote (withoutNonstandardFooter input)).1

/-- a nonstandard footer is cut, or a quote at the bottom besides the one on top -/
def IsCut : Prop :=
  withoutNonstandardFooter input ≠ withoutFooter input ∨
    withoutBottomQuote input ≠ withoutNonstandardFooter input ∧ topQuote input ≠ none

theorem bodyLines_isSuffix : bodyLines input <:+ inputLines input :=
  (removeTopQuote_isSuffix _ _).trans (skipForwardHeader_isSuffix _)

theorem withoutBottomQuote_isPrefix : withoutBottomQuote input <+: bodyLines input :=
  ((removeBottomQuote_spec _).1.trans (removeNonstandardFooter_spec _).1).trans
    (footerLoop_isPrefix _ _ _ _)

theorem isEmptyLine_iff (l : Line) :
    (Text.trimEnd (Text.trimStart l)).isEmpty = isEmptyLine l := by
  rw [Bool.eq_iff_iff, List.isEmpty_iff, isEmptyLine, List.all_eq_true]
  constructor
  · intro h
    have hfilter := Text.filter_trimEnd (Text.trimStart l)
    rw [h, Text.filter_trimStart, eq_comm, List.filter_nil, List.filter_eq_nil_iff] at hfilter
    simpa using hfilter
  · intro h
    rw [Text.trimStart, List.dropWhile_eq_nil_iff.mpr h]
    rfl

theorem text_simplify : ∃ isCut : Bool, (isCut = true ↔ IsCut input) ∧
    (simplify input false).text.toList =
      if ∀ l ∈ withoutBottomQuote input, isEmptyLine l = true then renderMessage (bodyLines input) false
      else renderMessage (withoutBottomQuote input) isCut := by
  refine ⟨(removeNonstandardFooter (withoutFooter input)).2 ||
    ((removeBottomQuote (withoutNonstandardFooter input)).2.isSome && (topQuote input).isSome), ?_, ?_⟩
  · rw [Bool.or_eq_true, Bool.and_eq_true, (removeNonstandardFooter_spec _).2,
      (removeBottomQuote_spec _).2, Option.isSome_iff_ne_none]
    rfl
  · show (String.ofList (simplifyForeign (bodyLines input) (topQuote input)).1).toList = _
    rw [String.toList_ofList, simplifyForeign]
    have hblank : ((withoutBottomQuote input).all fun l =>
        (Text.trimEnd (Text.trimStart l)).isEmpty) = true ↔
        ∀ l ∈ withoutBottomQuote input, isEmptyLine l = true := by
      simp only [isEmptyLine_iff, List.all_eq_true]
    have hbottom : ∀ b : Option (List Char), (if (topQuote input).isNone && b.isSome then none
        else b).isSome = (b.isSome && (topQuote input).isSome) := by
      intro b
      cases b <;> cases topQuote input <;> rfl
    dsimp only
    by_cases h : ∀ l ∈ withoutBottomQuote input, isEmptyLine l = true
    · rw [if_pos h]
      exact congrArg Prod.fst (if_pos (hblank.mpr h))
    · rw [if_neg h, ← hbottom]
      exact congrArg Prod.fst (if_neg (mt hblank.mp h))

end

/-- **nothing lost, nothing invented.** For every text without U+200B that is not a chat message: what
is shown are lines, perhaps with a marker behind the last one.  Those that are not empty are lines of
the input without carriage returns, in their order.  The marker is there iff something was cut off
behind them, a quote that is the only one of the mail apart.  Nothing is shown only if all lines behind
the forward header and the quote on top are blank -/
theorem simplified_lines (input : String) (hzwsp : zwsp ∉ input.toList) :
    ∃ shown mark, (simplify input false).text.toList = ['\n'].intercalate shown ++ mark ∧
      (∀ l ∈ shown, '\n' ∉ l) ∧ (shown.filter (· ≠ [])).Sublist (inputLines input) ∧
      (mark = marker ∨ mark = []) ∧
      (mark = marker ↔ (∃ l ∈ withoutBottomQuote input, isEmptyLine l = false) ∧ IsCut input) ∧
      ((simplify input false).text = "" → ∀ l ∈ bodyLines input, isEmptyLine l = true) := by
  obtain ⟨isCut, hcut, htext⟩ := text_simplify input
  have hbody := bodyLines_isSuffix input
  have hleft := withoutBottomQuote_isPrefix input
  have hlines : ∀ l ∈ bodyLines input, zwsp ∉ l ∧ '\n' ∉ l := by
    intro l hl
    have hpiece := hbody.subset hl
    refine ⟨fun hmem => hzwsp ?_, not_mem_of_mem_splitOn hpiece⟩
    exact (List.mem_filter.mp ((infix_of_mem_splitOn hpiece).subset hmem)).1
  have hnil : (simplify input false).text = "" ↔ (simplify input false).text.toList = [] := by simp
  rw [hnil, htext]
  by_cases hblank : ∀ l ∈ withoutBottomQuote input, isEmptyLine l = true
  · rw [if_pos hblank]
    obtain ⟨shown, mark, heq, hshown, hsub, hmark, hiff, hempty⟩ := renderMessage_shown
      (fun l hl => (hlines l hl).1) (fun l hl => (hlines l hl).2) false
    refine ⟨shown, mark, heq, hshown, hsub.trans hbody.sublist, hmark, ?_, hempty⟩
    rw [hiff]
    refine iff_of_false (fun h => Bool.false_ne_true h.2) fun ⟨⟨l, hl, hl'⟩, _⟩ => ?_
    rw [hblank l hl] at hl'
    cases hl'
  · rw [if_neg hblank]
    obtain ⟨shown, mark, heq, hshown, hsub, hmark, hiff, hempty⟩ := renderMessage_shown
      (fun l hl => (hlines l (hleft.subset hl)).1) (fun l hl => (hlines l (hleft.subset hl)).2) isCut
    rw [hcut] at hiff
    exact ⟨shown, mark, heq, hshown, hsub.trans (hleft.sublist.trans hbody.sublist), hmark, hiff,
      fun h => absurd (hempty h) hblank⟩

/-- a quote on top and one at the bottom, which is cut off -/
theorem simplified_lines_cut :
    (simplify "> a\n\nhello\n> b" false).text = "hello [...]" ∧
      ∃ shown mark, (simplify "> a\n\nhello\n> b" false).text.toList =
        ['\n'].intercalate shown ++ mark ∧ ∀ l ∈ shown, '\n' ∉ l := by
  obtain ⟨shown, mark, htext, hlines, -⟩ := simplified_lines "> a\n\nhello\n> b" (by decide)
  exact ⟨by decide +kernel, shown, mark, htext, hlines⟩

/-- the only quote is cut off, and there is no marker -/
theorem quote_without_marker :
    (simplify "hello\n\n> quote" false).text = "hello" ∧
      withoutBottomQuote "hello\n\n> quote" ≠ withoutNonstandardFooter "hello\n\n> quote" := by
  decide +kernel

end EpsilonChat.Simplify
