import EpsilonChat.Base.Params
import EpsilonChat.Mime.Simplify

/-!
# Text, quote and signature on the wire

`messageText` is the text the mime factory composes for a message: forward hint, quote, the text
with escaped footer marks, and the signature behind a footer mark.  The receiver takes it apart
with `simplify`.

* `lines_escape`: escaping works line by line: a line that starts with `--` gets a zero width space
  behind its first dash, all other lines stay;
* `body_parts`: the lines of text and signature: no line of the text looks like a mark, and
  rendering them gives the normalised text;
* **`simplify_messageText`**: the receiver gets back what was sent, up to carriage returns and
  needless empty lines.
-/

namespace EpsilonChat.Simplify

open Lib.Split

/-! ## composing the text -/

inductive PreMessageMode where
  | post
  | pre (postMsgRfc724Mid : String)
  | none
  deriving DecidableEq, Repr

def fwdhint : List Char :=
  "---------- Forwarded message ----------\r\nFrom: Delta Chat\r\n\r\n".toList

def someQuotedText (quote : List Char) : List Char :=
  ((quote.splitOn '\n').flatMap fun quotedLine => ['>', ' '] ++ quotedLine ++ ['\r', '\n']) ++
    ['\r', '\n']

def quotedText (isEncrypted : Bool) (param : Params) (finalText : List Char) : List Char :=
  if !isEncrypted && (param.getBool .protectQuote).getD false then
    ['>', ' ', '.', '.', '.', '\r', '\n', '\r', '\n']
  else
    match param.get .quote with
    | some quote => someQuotedText quote.toList
    -- an empty line, or the receiver takes the user's own quote for the quoted message
    | none => if finalText.head? = some '>' then ['\r', '\n'] else []

def bodyText (finalText footer : List Char) : List Char :=
  escapeMessageFooterMarks finalText ++
    (if ¬ finalText = [] ∧ ¬ footer = [] then ['\r', '\n', '\r', '\n'] else []) ++
    (if ¬ footer = [] then ['-', '-', ' ', '\r', '\n'] else []) ++ footer

/-- `message_text` of `render_message` -/
def messageText (isEncrypted : Bool) (preMessageMode : PreMessageMode) (selfstatus : String)
    (placeholdertext : Option String) (text : String) (param : Params) : String :=
  let finalText := (placeholdertext.getD text).toList
  let isReaction := (param.getInt .reaction).getD 0 ≠ 0
  let footer := if isReaction then [] else selfstatus.toList
  if preMessageMode = .post then ""
  else
    String.ofList ((if (param.get .forwarded).isSome then fwdhint else []) ++
      quotedText isEncrypted param finalText ++ bodyText finalText footer)

/-! ## what is to arrive -/

def stripCr (s : List Char) : List Char := s.filter (· ≠ '\r')

def normalise (s : List Char) : List Char :=
  ['\n'].intercalate (normaliseLines (splitLines (stripCr s)))

def CrLf (s : List Char) : Prop := ∀ pre post, s = pre ++ '\r' :: post → post.head? = some '\n'

theorem crLf_nil : CrLf [] := by
  intro pre post h
  exact absurd h (by simp)

theorem crLf_cons_iff {c : Char} {s : List Char} :
    CrLf (c :: s) ↔ (c = '\r' → s.head? = some '\n') ∧ CrLf s := by
  constructor
  · intro h
    refine ⟨fun hc => h [] s (by rw [hc]; rfl), ?_⟩
    intro pre post hs
    exact h (c :: pre) post (by rw [hs]; rfl)
  · rintro ⟨hc, hs⟩ pre post h
    rcases pre with _ | ⟨c', pre⟩
    · obtain ⟨rfl, rfl⟩ := List.cons.inj h
      exact hc rfl
    · exact hs pre post (List.cons.inj h).2

instance decidableCrLf : DecidablePred CrLf
  | [] => isTrue crLf_nil
  | _ :: s =>
    have : Decidable (CrLf s) := decidableCrLf s
    decidable_of_iff' _ crLf_cons_iff

/-! ## escaped lines -/

def escapeLine (l : Line) : Line :=
  if ['-', '-'] <+: l then '-' :: zwsp :: '-' :: l.drop 2 else l

theorem replace_marks {hd : Line} {tl : List Line} (hhd : '\n' ∉ hd) (htl : ∀ l ∈ tl, '\n' ∉ l) :
    replace ['\n', '-', '-'] ['\n', '-', zwsp, '-'] (hd ++ tl.flatMap ('\n' :: ·)) =
      hd ++ (tl.map escapeLine).flatMap ('\n' :: ·) := by
  induction tl generalizing hd with
  | nil => rw [replace_append_of_not_mem hhd]; simp
  | cons l tl ih =>
    have hl : '\n' ∉ l := htl l List.mem_cons_self
    have htl' : ∀ l ∈ tl, '\n' ∉ l := fun l' hl' => htl l' (List.mem_cons_of_mem _ hl')
    have hdash : '\n' ∉ ['-', '-'] := by decide
    rw [replace_append_of_not_mem hhd, List.flatMap_cons, List.map_cons, List.flatMap_cons,
      List.append_right_inj, List.cons_append, List.cons_append]
    by_cases hmark : ['-', '-'] <+: l
    case pos =>
      obtain ⟨l', rfl⟩ := hmark
      have hl' : '\n' ∉ l' := fun h => hl (List.mem_append_right _ h)
      have hpat : ['\n', '-', '-'] ++ (l' ++ tl.flatMap ('\n' :: ·)) =
          '\n' :: (['-', '-'] ++ l' ++ tl.flatMap ('\n' :: ·)) := by simp
      rw [← hpat, replace_append_self (List.cons_ne_nil _ _), ih hl' htl', escapeLine,
        if_pos (List.prefix_append _ _)]
      rfl
    case neg =>
      have hno : ¬ ['\n', '-', '-'] <+: '\n' :: (l ++ tl.flatMap ('\n' :: ·)) := by
        intro hp
        exact hmark ((prefix_append_flatMap_iff hdash).mp (List.cons_prefix_cons.mp hp).2)
      rw [replace_cons_of_not hno, ih hl htl', escapeLine, if_neg hmark]

theorem lines_escape (t : List Char) :
    (escapeMessageFooterMarks t).splitOn '\n' = (t.splitOn '\n').map escapeLine := by
  obtain ⟨hd, tl, hs⟩ := splitOn_eq_cons '\n' t
  have hmem : ∀ l ∈ hd :: tl, '\n' ∉ l := fun l hl => not_mem_of_mem_splitOn (hs ▸ hl)
  have hhd : '\n' ∉ hd := hmem hd List.mem_cons_self
  have htl : ∀ l ∈ tl, '\n' ∉ l := fun l hl => hmem l (List.mem_cons_of_mem _ hl)
  have hesc : ∀ l ∈ tl.map escapeLine, '\n' ∉ l := by
    intro l hl
    obtain ⟨l', hl', rfl⟩ := List.mem_map.mp hl
    rw [escapeLine]
    split
    · intro hm
      have hdrop : '\n' ∉ l'.drop 2 := fun h => htl l' hl' (List.mem_of_mem_drop h)
      simp [zwsp, hdrop] at hm
    · exact htl l' hl'
  have hdash : '\n' ∉ ['-', '-'] := by decide
  rw [hs, List.map_cons, escapeMessageFooterMarks]
  by_cases hmark : ['-', '-'] <+: hd
  case pos =>
    obtain ⟨hd', rfl⟩ := hmark
    have hhd' : '\n' ∉ hd' := fun h => hhd (List.mem_append_right _ h)
    have hfirst : '\n' ∉ ['-', zwsp, '-'] ++ hd' := by
      intro hm
      simp [zwsp, hhd'] at hm
    have ht : t = ['-', '-'] ++ (hd' ++ tl.flatMap ('\n' :: ·)) := by
      rw [eq_of_splitOn hs, List.append_assoc]
    have hdrop : t.drop 2 = hd' ++ tl.flatMap ('\n' :: ·) := by rw [ht]; rfl
    rw [if_pos (ht ▸ List.prefix_append _ _), hdrop, replace_marks hhd' htl, ← List.append_assoc,
      splitOn_flatMap hfirst hesc, escapeLine, if_pos (List.prefix_append _ _)]
    rfl
  case neg =>
    have hno : ¬ ['-', '-'] <+: t := fun hp => hmark ((prefix_iff_of_splitOn hdash hs).mp hp)
    rw [if_neg hno, eq_of_splitOn hs, replace_marks hhd htl, splitOn_flatMap hhd hesc, escapeLine,
      if_neg hmark]

/-! ## what carriage returns leave of a line -/

theorem stripCr_prefix_of_line {l : Line} (h : ∀ c, ¬ ['\r', c] <:+: l) : stripCr l <+: l := by
  induction l with
  | nil => exact List.prefix_rfl
  | cons c l ih =>
    have hl : ∀ c, ¬ ['\r', c] <:+: l := fun c' hc' => h c' (List.infix_cons hc')
    by_cases hc : c = '\r'
    · rcases l with _ | ⟨c', l⟩
      · subst hc
        exact List.nil_prefix
      · have hin : ['\r', c'] <:+: c :: c' :: l := by
          rw [hc]
          exact (List.prefix_append ['\r', c'] l).isInfix
        exact absurd hin (h c')
    · have hkeep : stripCr (c :: l) = c :: stripCr l := by
        rw [stripCr, List.filter_cons_of_pos (by simpa using hc)]
        rfl
      rw [hkeep, List.cons_prefix_cons]
      exact ⟨rfl, ih hl⟩

theorem CrLf.line {t : List Char} (h : CrLf t) {l : Line} (hl : l ∈ t.splitOn '\n') :
    ∀ c, ¬ ['\r', c] <:+: l := by
  intro c hc
  have hc' : c ≠ '\n' := by
    intro e
    exact not_mem_of_mem_splitOn hl (e ▸ hc.subset (List.mem_cons_of_mem _ List.mem_cons_self))
  obtain ⟨pre, post, ht⟩ := hc.trans (infix_of_mem_splitOn hl)
  have hsplit : t = pre ++ '\r' :: (c :: post) := by
    rw [← ht]
    simp
  have hhead := h pre (c :: post) hsplit
  exact hc' (Option.some.inj hhead)

def sentLine (l : Line) : Line := stripCr (escapeLine l)

section
variable {t : List Char} {l : Line}

theorem sentLine_of_not_mark (h : ¬ ['-', '-'] <+: l) : sentLine l = stripCr l := by
  rw [sentLine, escapeLine, if_neg h]

theorem sentLine_of_mark (l : Line) :
    sentLine (['-', '-'] ++ l) = '-' :: zwsp :: '-' :: stripCr l := by
  rw [sentLine, escapeLine, if_pos (List.prefix_append _ _)]
  rfl

theorem stripCr_mark (l : Line) : stripCr (['-', '-'] ++ l) = '-' :: '-' :: stripCr l := rfl

theorem sentLine_no_mark (h : CrLf t) (hl : l ∈ t.splitOn '\n') : ¬ ['-', '-'] <+: sentLine l := by
  by_cases hmark : ['-', '-'] <+: l
  · obtain ⟨l', rfl⟩ := hmark
    rw [sentLine_of_mark, List.cons_prefix_cons, List.cons_prefix_cons]
    rintro ⟨-, hz, -⟩
    exact absurd hz (by decide)
  · rw [sentLine_of_not_mark hmark]
    exact fun hp => hmark (hp.trans (stripCr_prefix_of_line (h.line hl)))

theorem sentLine_unescaped (hz : zwsp ∉ t) (hl : l ∈ t.splitOn '\n') :
    (sentLine l).filter (· ≠ zwsp) = stripCr l := by
  have hzl : ∀ c ∈ stripCr l, c ≠ zwsp := by
    intro c hc e
    exact hz (e ▸ (infix_of_mem_splitOn hl).subset (List.mem_filter.mp hc).1)
  have hkeep : (stripCr l).filter (· ≠ zwsp) = stripCr l := by
    rw [List.filter_eq_self]
    intro c hc
    exact decide_eq_true (hzl c hc)
  by_cases hmark : ['-', '-'] <+: l
  · obtain ⟨l', rfl⟩ := hmark
    rw [stripCr_mark] at hkeep
    rw [sentLine_of_mark, stripCr_mark, ← hkeep]
    rfl
  · rw [sentLine_of_not_mark hmark, hkeep]

theorem isEmptyLine_sentLine (l : Line) : isEmptyLine (sentLine l) = isEmptyLine (stripCr l) := by
  by_cases hmark : ['-', '-'] <+: l
  · obtain ⟨l', rfl⟩ := hmark
    rw [sentLine_of_mark, stripCr_mark]
    rfl
  · rw [sentLine_of_not_mark hmark]

theorem isPlainQuote_sentLine (h : CrLf t) (hl : l ∈ t.splitOn '\n')
    (hq : isPlainQuote (sentLine l) = true) : isPlainQuote l = true := by
  by_cases hmark : ['-', '-'] <+: l
  · obtain ⟨l', rfl⟩ := hmark
    rw [sentLine_of_mark] at hq
    exact absurd hq (by simp [isPlainQuote])
  · rw [sentLine_of_not_mark hmark] at hq
    obtain ⟨r, hr⟩ := stripCr_prefix_of_line (h.line hl)
    rcases hs : stripCr l with _ | ⟨c, s⟩
    · rw [hs] at hq
      exact absurd hq (by decide)
    · rw [hs] at hq hr
      rw [← hr]
      exact hq

end

/-! ## rendering and escapes -/

section
variable {ls : List Line} {f : Line → Line}

theorem dropWhile_map_of (h : ∀ l ∈ ls, isEmptyLine (f l) = isEmptyLine l) :
    (ls.map f).dropWhile isEmptyLine = (ls.dropWhile isEmptyLine).map f := by
  induction ls with
  | nil => rfl
  | cons l ls ih =>
    have hl : isEmptyLine (f l) = isEmptyLine l := h l List.mem_cons_self
    rw [List.map_cons, List.dropWhile_cons, List.dropWhile_cons, hl]
    split
    · exact ih fun l' hl' => h l' (List.mem_cons_of_mem _ hl')
    · rfl

theorem rdropWhile_map_of (h : ∀ l ∈ ls, isEmptyLine (f l) = isEmptyLine l) :
    (ls.map f).rdropWhile isEmptyLine = (ls.rdropWhile isEmptyLine).map f := by
  rw [List.rdropWhile, List.rdropWhile, ← List.map_reverse, dropWhile_map_of, List.map_reverse]
  intro l hl
  exact h l (List.mem_reverse.mp hl)

theorem squeeze_map_of (h : ∀ l ∈ ls, isEmptyLine (f l) = isEmptyLine l) (hnil : f [] = []) :
    squeeze (ls.map f) = (squeeze ls).map f := by
  induction ls with
  | nil => rfl
  | cons l ls ih =>
    have hl : isEmptyLine (f l) = isEmptyLine l := h l List.mem_cons_self
    have ih' : squeeze (ls.map f) = (squeeze ls).map f :=
      ih fun l' hl' => h l' (List.mem_cons_of_mem _ hl')
    have hnext : (ls.map f).head?.any isEmptyLine = ls.head?.any isEmptyLine := by
      rcases ls with _ | ⟨l', ls⟩
      · rfl
      · exact h l' (List.mem_cons_of_mem _ List.mem_cons_self)
    rw [List.map_cons, squeeze, squeeze, hl, hnext, ih']
    split
    · split
      · rfl
      · rw [List.map_cons, hnil]
    · rw [List.map_cons]

theorem normaliseLines_map (h : ∀ l ∈ ls, isEmptyLine (f l) = isEmptyLine l) (hnil : f [] = []) :
    normaliseLines (ls.map f) = (normaliseLines ls).map f := by
  have h₁ : ∀ l ∈ ls.dropWhile isEmptyLine, isEmptyLine (f l) = isEmptyLine l :=
    fun l hl => h l ((List.dropWhile_sublist _).subset hl)
  have h₂ : ∀ l ∈ (ls.dropWhile isEmptyLine).rdropWhile isEmptyLine,
      isEmptyLine (f l) = isEmptyLine l :=
    fun l hl => h₁ l ((List.rdropWhile_prefix _ _).subset hl)
  rw [normaliseLines, normaliseLines, dropWhile_map_of h, rdropWhile_map_of h₁, squeeze_map_of h₂ hnil]

theorem filter_intercalate (p : Char → Bool) (hp : p '\n' = true) (ls : List Line) :
    (['\n'].intercalate ls).filter p = ['\n'].intercalate (ls.map (List.filter p)) := by
  rcases ls with _ | ⟨l, ls⟩
  · rfl
  · rw [intercalate_cons, List.map_cons, intercalate_cons, List.filter_append, List.filter_flatMap,
      List.flatMap_map]
    congr 1
    refine List.flatMap_congr fun l' _ => ?_
    rw [List.filter_append]
    congr 1
    exact List.filter_cons_of_pos hp

theorem renderMessage_of_unescaped {stripped : List Line}
    (h : ls.map (List.filter (· ≠ zwsp)) = stripped)
    (hempty : ∀ l ∈ ls, isEmptyLine (l.filter (· ≠ zwsp)) = isEmptyLine l) :
    renderMessage ls false = ['\n'].intercalate (normaliseLines stripped) := by
  have hkeep : decide ('\n' ≠ zwsp) = true := by decide
  rw [renderMessage_eq, filter_intercalate _ hkeep, ← h, normaliseLines_map hempty rfl]

theorem normaliseLines_append_nil (ls : List Line) :
    normaliseLines (ls ++ [[]]) = normaliseLines ls := by
  have hnil : isEmptyLine [] = true := rfl
  rw [normaliseLines, normaliseLines, List.dropWhile_append]
  split
  case isTrue h =>
    rw [List.isEmpty_iff.mp h, List.dropWhile_cons_of_pos hnil]
    rfl
  case isFalse h => rw [List.rdropWhile_concat_pos _ _ _ hnil]

theorem renderMessage_append_nil (ls : List Line) :
    renderMessage (ls ++ [[]]) false = renderMessage ls false := by
  rw [renderMessage_eq, renderMessage_eq, normaliseLines_append_nil]

theorem renderMessage_nil_cons (ls : List Line) :
    renderMessage ([] :: ls) false = renderMessage ls false := by
  have hnil : isEmptyLine [] = true := rfl
  rw [renderMessage_eq, renderMessage_eq, normaliseLines, normaliseLines,
    List.dropWhile_cons_of_pos hnil]

end

/-! ## the lines of text and signature -/

theorem stripCr_append (s t : List Char) : stripCr (s ++ t) = stripCr s ++ stripCr t :=
  List.filter_append s t

theorem splitLines_stripCr (s : List Char) :
    splitLines (stripCr s) = (s.splitOn '\n').map stripCr :=
  splitOn_filter '\n' _ (by decide) s

theorem splitLines_escaped (t : List Char) :
    splitLines (stripCr (escapeMessageFooterMarks t)) = (t.splitOn '\n').map sentLine := by
  rw [splitLines_stripCr, lines_escape, List.map_map]
  rfl

def footerLines (footer : List Char) : List Line :=
  if footer = [] then [] else ['-', '-', ' '] :: splitLines (stripCr footer)

structure Body (t : List Char) (pre : List Line) : Prop where
  noMark : ∀ l ∈ pre, ¬ ['-', '-'] <+: l
  render : renderMessage pre false = normalise t
  quote : ∀ l, pre.head? = some l → isPlainQuote l = true → t.head? = some '>'

section
variable {t : List Char}

theorem render_sentLines (hz : zwsp ∉ t) :
    renderMessage ((t.splitOn '\n').map sentLine) false = normalise t := by
  refine renderMessage_of_unescaped ?_ ?_
  · rw [splitLines_stripCr, List.map_map]
    exact List.map_congr_left fun l hl => sentLine_unescaped hz hl
  · intro m hm
    obtain ⟨l, hl, rfl⟩ := List.mem_map.mp hm
    rw [sentLine_unescaped hz hl, isEmptyLine_sentLine]

theorem body_sentLines (h : CrLf t) (hz : zwsp ∉ t) : Body t ((t.splitOn '\n').map sentLine) where
  noMark := by
    intro m hm
    obtain ⟨l, hl, rfl⟩ := List.mem_map.mp hm
    exact sentLine_no_mark h hl
  render := render_sentLines hz
  quote := by
    obtain ⟨hd, tl, hs⟩ := splitOn_eq_cons '\n' t
    have hmem : hd ∈ t.splitOn '\n' := hs ▸ List.mem_cons_self
    rintro m hm hq
    rw [hs, List.map_cons, List.head?_cons, Option.some.injEq] at hm
    rw [← hm] at hq
    have hhd : isPlainQuote hd = true := isPlainQuote_sentLine h hmem hq
    rw [eq_of_splitOn hs]
    rcases hd with _ | ⟨c, hd⟩
    · exact absurd hhd (by decide)
    · exact beq_iff_eq.mp hhd

theorem body_sentLines_gap (h : CrLf t) (hz : zwsp ∉ t) :
    Body t ((t.splitOn '\n').map sentLine ++ [[]]) where
  noMark := by
    intro l hl
    rcases List.mem_append.mp hl with hl | hl
    · exact (body_sentLines h hz).noMark l hl
    · rw [List.mem_singleton.mp hl]
      decide
  render := by rw [renderMessage_append_nil, render_sentLines hz]
  quote := by
    intro l hl
    refine (body_sentLines h hz).quote l ?_
    obtain ⟨hd, tl, hs⟩ := splitOn_eq_cons '\n' t
    rw [hs] at hl ⊢
    exact hl

theorem body_nil : Body [] [] where
  noMark := fun _ h => absurd h List.not_mem_nil
  render := rfl
  quote := fun _ h => absurd h (by simp)

theorem body_parts (h : CrLf t) (hz : zwsp ∉ t) (footer : List Char) :
    ∃ pre, splitLines (stripCr (bodyText t footer)) = pre ++ footerLines footer ∧ Body t pre := by
  by_cases hf : footer = []
  case pos =>
    refine ⟨_, ?_, body_sentLines h hz⟩
    rw [← splitLines_escaped, bodyText, footerLines, hf]
    simp
  case neg =>
    by_cases ht : t = []
    case pos =>
      subst ht
      refine ⟨[], ?_, body_nil⟩
      have htext : stripCr (bodyText [] footer) = ['-', '-', ' '] ++ '\n' :: stripCr footer := by
        rw [bodyText, if_neg (fun e => e.1 rfl), if_pos hf, stripCr_append]
        rfl
      rw [htext, splitLines, List.splitOn_append_cons_self_of_not_mem (by decide), footerLines,
        if_neg hf]
      rfl
    case neg =>
      refine ⟨_, ?_, body_sentLines_gap h hz⟩
      have htext : stripCr (bodyText t footer) =
          stripCr (escapeMessageFooterMarks t) ++
            '\n' :: ([] ++ '\n' :: (['-', '-', ' '] ++ '\n' :: stripCr footer)) := by
        rw [bodyText, if_pos ⟨ht, hf⟩, if_pos hf, stripCr_append, stripCr_append, stripCr_append,
          List.append_assoc, List.append_assoc]
        rfl
      rw [htext, ← splitLines_escaped, splitLines, splitLines, List.splitOn_append_cons_self,
        List.splitOn_append_cons_self_of_not_mem List.not_mem_nil,
        List.splitOn_append_cons_self_of_not_mem (by decide), footerLines, if_neg hf]
      simp [splitLines]

end

theorem render_footer {footer : List Char} (hz : zwsp ∉ footer) :
    renderMessage (splitLines (stripCr footer)) false = normalise footer := by
  have hkeep : ∀ l ∈ splitLines (stripCr footer), l.filter (· ≠ zwsp) = l := by
    intro l hl
    rw [List.filter_eq_self]
    intro c hc
    have hcf : c ∈ footer := (List.mem_filter.mp ((infix_of_mem_splitOn hl).subset hc)).1
    exact decide_eq_true fun e => hz (e ▸ hcf)
  refine renderMessage_of_unescaped ?_ ?_
  · calc (splitLines (stripCr footer)).map (List.filter (· ≠ zwsp))
        = (splitLines (stripCr footer)).map id := List.map_congr_left hkeep
      _ = splitLines (stripCr footer) := List.map_id _
  · intro l hl
    rw [hkeep l hl]

/-! ## taking it apart -/

theorem removeMessageFooter_body {footer : List Char} {pre : List Line}
    (hpre : ∀ l ∈ pre, ¬ ['-', '-'] <+: l) :
    removeMessageFooter (pre ++ footerLines footer) =
      (pre, if footer = [] then none else some (splitLines (stripCr footer))) := by
  have hmark : ∀ l ∈ pre, ¬ IsFooterMark l := by
    intro l hl hm
    refine hpre l hl ?_
    rcases hm with rfl | rfl | rfl <;> decide
  rw [footerLines]
  split
  · rw [List.append_nil, removeMessageFooter_plain hmark]
  · rw [removeMessageFooter_marked hmark]

theorem skipForwardHeader_of_ne {lines : List Line} (h : lines.head? ≠ some forwardHeader) :
    skipForwardHeader lines = (lines, false) := by
  unfold skipForwardHeader
  split
  · split
    case isTrue hh => exact absurd (congrArg some hh.1) h
    case isFalse hh => rfl
  · rfl

theorem skipForwardHeader_fwdhint (s : List Char) :
    skipForwardHeader (splitLines (stripCr (fwdhint ++ s))) = (splitLines (stripCr s), true) := by
  have hhint : stripCr (fwdhint ++ s) =
      forwardHeader ++ '\n' :: ("From: Delta Chat".toList ++ '\n' :: ([] ++ '\n' :: stripCr s)) := by
    rw [stripCr_append]
    rfl
  have h₁ : '\n' ∉ forwardHeader := by decide
  have h₂ : '\n' ∉ "From: Delta Chat".toList := by decide
  have hfrom : "From: ".toList <+: "From: Delta Chat".toList := by decide
  rw [hhint, splitLines, List.splitOn_append_cons_self_of_not_mem h₁,
    List.splitOn_append_cons_self_of_not_mem h₂,
    List.splitOn_append_cons_self_of_not_mem List.not_mem_nil]
  rw [skipForwardHeader, if_pos (And.intro rfl hfrom)]
  rfl

theorem lines_someQuotedText (quote s : List Char) :
    splitLines (stripCr (someQuotedText quote ++ s)) =
      (quote.splitOn '\n').map (fun l => '>' :: ' ' :: stripCr l) ++ [] :: splitLines (stripCr s) := by
  have hlines : ∀ l ∈ (quote.splitOn '\n').map (fun l => '>' :: ' ' :: stripCr l), '\n' ∉ l := by
    intro m hm hn
    obtain ⟨l, hl, rfl⟩ := List.mem_map.mp hm
    have hl' : '\n' ∉ stripCr l := fun h => not_mem_of_mem_splitOn hl (List.mem_filter.mp h).1
    simp [hl'] at hn
  have htext : stripCr (someQuotedText quote ++ s) =
      ((quote.splitOn '\n').map (fun l => '>' :: ' ' :: stripCr l)).flatMap (· ++ ['\n']) ++
        ([] ++ '\n' :: stripCr s) := by
    rw [stripCr_append, someQuotedText, stripCr_append, List.append_assoc, List.flatMap_map]
    congr 1
    rw [stripCr, List.filter_flatMap]
    refine List.flatMap_congr fun l _ => ?_
    rw [List.filter_append, List.filter_append]
    rfl
  rw [htext, splitLines, splitOn_terminated hlines,
    List.splitOn_append_cons_self_of_not_mem List.not_mem_nil]
  rfl

theorem head_footerLines (footer : List Char) :
    (footerLines footer).head? = none ∨ (footerLines footer).head? = some ['-', '-', ' '] := by
  rw [footerLines]
  split
  · exact .inl rfl
  · exact .inr rfl

theorem head_body {t footer : List Char} {pre : List Line} (h : Body t pre) {l : Line}
    (hl : (pre ++ footerLines footer).head? = some l) :
    (isPlainQuote l = true → t.head? = some '>') ∧ l ≠ forwardHeader := by
  rcases pre with _ | ⟨l', pre⟩
  · rw [List.nil_append] at hl
    rcases head_footerLines footer with hf | hf
    · rw [hf] at hl
      cases hl
    · rw [hf, Option.some.injEq] at hl
      rw [← hl]
      exact ⟨fun hq => absurd hq (by decide), by decide⟩
  · rw [List.cons_append, List.head?_cons, Option.some.injEq] at hl
    subst hl
    refine ⟨h.quote l' rfl, ?_⟩
    rintro rfl
    exact h.noMark _ List.mem_cons_self (by decide)

theorem intercalate_unquote (quote : List Char) :
    ['\n'].intercalate
        (((quote.splitOn '\n').map (fun l => '>' :: ' ' :: stripCr l)).map unquote) =
      stripCr quote := by
  rw [List.map_map]
  show ['\n'].intercalate ((quote.splitOn '\n').map stripCr) = _
  rw [← splitLines_stripCr, splitLines, List.intercalate_splitOn]

def ReadsAs (lines : List Line) (quote : Option (List Char)) (t footer : List Char) : Prop :=
  ∃ pre, (∀ l ∈ pre, ¬ ['-', '-'] <+: l) ∧ renderMessage pre false = normalise t ∧
    removeTopQuote lines true = (pre ++ footerLines footer, quote) ∧
    lines.head? ≠ some forwardHeader

section
variable {t footer : List Char} {pre : List Line}

theorem gap_body (h : Body t pre) :
    (∀ l ∈ [] :: pre, ¬ ['-', '-'] <+: l) ∧ renderMessage ([] :: pre) false = normalise t := by
  refine ⟨?_, by rw [renderMessage_nil_cons, h.render]⟩
  intro l hl
  rcases List.mem_cons.mp hl with rfl | hl
  · decide
  · exact h.noMark l hl

theorem isPlainQuote_gap (ls : List Line) (l : Line) (hl : ([] :: ls).head? = some l) :
    isPlainQuote l = false := by
  rw [List.head?_cons, Option.some.injEq] at hl
  rw [← hl]
  rfl

theorem readsAs_quote (h : Body t pre) (quote : List Char) :
    ReadsAs ((quote.splitOn '\n').map (fun l => '>' :: ' ' :: stripCr l) ++
      [] :: (pre ++ footerLines footer)) (some (stripCr quote)) t footer := by
  obtain ⟨hd, tl, hs⟩ := splitOn_eq_cons '\n' quote
  have hquoted : ∀ l ∈ (quote.splitOn '\n').map (fun l => '>' :: ' ' :: stripCr l),
      isPlainQuote l = true := by
    intro m hm
    obtain ⟨l, _, rfl⟩ := List.mem_map.mp hm
    rfl
  refine ⟨[] :: pre, (gap_body h).1, (gap_body h).2, ?_, ?_⟩
  · rw [← intercalate_unquote]
    rw [hs, List.map_cons] at hquoted ⊢
    exact removeTopQuote_chat hquoted (isPlainQuote_gap _)
  · rw [hs]
    intro e
    have hfirst : '>' :: ' ' :: stripCr hd = forwardHeader := Option.some.inj e
    have hc : some '>' = some '-' := congrArg List.head? hfirst
    exact absurd hc (by decide)

theorem readsAs_gap (h : Body t pre) :
    ReadsAs ([] :: (pre ++ footerLines footer)) none t footer := by
  refine ⟨[] :: pre, (gap_body h).1, (gap_body h).2, removeTopQuote_none (isPlainQuote_gap _), ?_⟩
  intro e
  have hfirst : [] = forwardHeader := Option.some.inj e
  exact absurd (congrArg List.head? hfirst) (by decide)

theorem readsAs_text (h : Body t pre) (hq : t.head? ≠ some '>') :
    ReadsAs (pre ++ footerLines footer) none t footer := by
  refine ⟨pre, h.noMark, h.render, removeTopQuote_none ?_, fun e => (head_body h e).2 rfl⟩
  intro l hl
  have hno : ¬ isPlainQuote l = true := fun e => hq ((head_body h hl).1 e)
  simpa using hno

end

theorem quoted_parts {isEncrypted : Bool} {param : Params} {t : List Char}
    (hprotect : (!isEncrypted && (param.getBool .protectQuote).getD false) = false)
    (h : CrLf t) (hz : zwsp ∉ t) (footer : List Char) :
    ReadsAs (splitLines (stripCr (quotedText isEncrypted param t ++ bodyText t footer)))
      ((param.get .quote).map fun quote => stripCr quote.toList) t footer := by
  obtain ⟨pre, hlines, hbody⟩ := body_parts h hz footer
  rw [quotedText, if_neg (by rw [hprotect]; exact Bool.false_ne_true)]
  rcases param.get .quote with _ | quote
  case some =>
    show ReadsAs (splitLines (stripCr (someQuotedText quote.toList ++ _))) _ t footer
    rw [lines_someQuotedText, hlines]
    exact readsAs_quote hbody quote.toList
  case none =>
    show ReadsAs (splitLines (stripCr
      ((if t.head? = some '>' then ['\r', '\n'] else []) ++ bodyText t footer))) none t footer
    by_cases hq : t.head? = some '>'
    case pos =>
      have hsplit : splitLines (stripCr (['\r', '\n'] ++ bodyText t footer)) =
          [] :: (pre ++ footerLines footer) := by
        rw [stripCr_append, ← hlines]
        exact List.splitOn_append_cons_self_of_not_mem List.not_mem_nil _
      rw [if_pos hq, hsplit]
      exact readsAs_gap hbody
    case neg =>
      rw [if_neg hq, List.nil_append, hlines]
      exact readsAs_text hbody hq

theorem simplify_chat {input : String} {fwd lines body : List Line} {forwarded : Bool}
    {quote : Option (List Char)} {footer : Option (List Line)}
    (hfwd : skipForwardHeader (splitLines (stripCr input.toList)) = (fwd, forwarded))
    (htop : removeTopQuote fwd true = (lines, quote))
    (hfooter : removeMessageFooter lines = (body, footer)) :
    simplify input true =
      { text := String.ofList (renderMessage body false)
        isForwarded := forwarded
        isCut := false
        topQuote := quote.map String.ofList
        footer := footer.map fun footerLines => String.ofList (renderMessage footerLines false) } := by
  rw [stripCr] at hfwd
  rw [simplify, hfwd]
  simp only [htop, hfooter, if_true]

/-- **text, quote and signature arrive as they were sent**, up to carriage returns and needless
empty lines, and the receiver sees whether the message was forwarded -/
theorem simplify_messageText (isEncrypted : Bool) {preMessageMode : PreMessageMode}
    (selfstatus text : String) (param : Params)
    (hmode : preMessageMode ≠ .post)
    (hreaction : (param.getInt .reaction).getD 0 = 0)
    (hprotect : (!isEncrypted && (param.getBool .protectQuote).getD false) = false)
    (hcr : CrLf text.toList) (hz : zwsp ∉ text.toList) (hzs : zwsp ∉ selfstatus.toList) :
    simplify (messageText isEncrypted preMessageMode selfstatus none text param) true =
      { text := String.ofList (normalise text.toList)
        isForwarded := (param.get .forwarded).isSome
        isCut := false
        topQuote := (param.get .quote).map fun quote => String.ofList (stripCr quote.toList)
        footer :=
          if selfstatus = "" then none
          else some (String.ofList (normalise selfstatus.toList)) } := by
  obtain ⟨pre, hpre, hrender, htop, hhead⟩ := quoted_parts hprotect hcr hz selfstatus.toList
  have hempty : selfstatus.toList = [] ↔ selfstatus = "" := by
    rw [← String.toList_inj]
    rfl
  have hfwd : skipForwardHeader (splitLines (stripCr
      (messageText isEncrypted preMessageMode selfstatus none text param).toList)) =
        (splitLines (stripCr (quotedText isEncrypted param text.toList ++
          bodyText text.toList selfstatus.toList)), (param.get .forwarded).isSome) := by
    rw [messageText, if_neg hmode, String.toList_ofList, hreaction]
    rcases param.get .forwarded with _ | value
    · exact skipForwardHeader_of_ne hhead
    · exact skipForwardHeader_fwdhint _
  rw [simplify_chat hfwd htop (removeMessageFooter_body hpre), hrender]
  congr 1
  · exact Option.map_map _ _ _
  · by_cases hs : selfstatus = ""
    · rw [if_pos hs, if_pos (hempty.mpr hs)]
      rfl
    · rw [if_neg hs, if_neg (fun e => hs (hempty.mp e)), Option.map_some, render_footer hzs]

theorem simplify_messageText_forwarded :
    simplify (messageText true .none "-- \n" none "> a\r\n--\n\n\nb" (Params.new.set .forwarded "1"))
        true =
      { text := "> a\n--\n\nb"
        isForwarded := true
        isCut := false
        topQuote := none
        footer := some "-- " } := by
  rw [simplify_messageText true "-- \n" "> a\r\n--\n\n\nb" (Params.new.set .forwarded "1")
    (by decide) rfl rfl (by decide) (by decide) (by decide)]
  decide

end EpsilonChat.Simplify
