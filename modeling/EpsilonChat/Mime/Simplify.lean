import EpsilonChat.Base.Text
import EpsilonChat.Lib.Split

/-!
# `simplify`: what is shown of a received text

The received text is cut into lines, and a fixed chain of steps peels off what a mail program put
around the text: the forward header, the quote on top, the footer, and for mails of other programs
also nonstandard footers and the quote at the bottom.  What is left is rendered without needless
empty lines.

The second half says what the steps do to lines of a KNOWN shape:

* `removeTopQuote_chat`: the leading quoted lines, and no others, are the quote;
* `removeMessageFooter_marked`: the first footer mark cuts;
* `removeMessageFooter_plain`: without marks nothing is cut;
* **`renderMessage_eq`**: rendering drops leading and trailing empty lines and writes each inner run
  of them as ONE empty line (`normaliseLines`).
-/

namespace EpsilonChat.Simplify

open Lib.Split

abbrev Line := List Char

/-- U+200B ZERO WIDTH SPACE -/
def zwsp : Char := '\u200b'

def escapeMessageFooterMarks (text : List Char) : List Char :=
  if ['-', '-'] <+: text then
    ['-', zwsp, '-'] ++ replace ['\n', '-', '-'] ['\n', '-', zwsp, '-'] (text.drop 2)
  else replace ['\n', '-', '-'] ['\n', '-', zwsp, '-'] text

def isNoneOrEmpty (line : Option Line) : Bool := line.all List.isEmpty

/-- the loop of `remove_message_footer`; `nearly` is `nearly_standard_footer` -/
def footerLoop (lines : List Line) (ix : ℕ) (nearly : Option ℕ) :
    List Line → List Line × Option (List Line)
  | [] =>
    match nearly with
    | some ix => (lines.take ix, some (lines.drop (ix + 1)))
    | none => (lines, none)
  | line :: rest =>
    if line = ['-', '-', ' '] ∨ line = ['-', '-', ' ', ' '] then
      (lines.take ix, some (lines.drop (ix + 1)))
    else if line = ['-', '-'] ∧ (ix = 0 ∨ isNoneOrEmpty lines[ix - 1]?) ∧
        ¬ isNoneOrEmpty lines[ix + 1]? then
      footerLoop lines (ix + 1) (some ix) rest
    else footerLoop lines (ix + 1) nearly rest

def removeMessageFooter (lines : List Line) : List Line × Option (List Line) :=
  footerLoop lines 0 none lines

def isNonstandardFooter (line : Line) : Bool :=
  line == ['-', '-'] || ['-', '-', '-'].isPrefixOf line || ['_', '_', '_', '_', '_'].isPrefixOf line ||
    ['=', '=', '=', '=', '='].isPrefixOf line || ['*', '*', '*', '*', '*'].isPrefixOf line ||
    ['~', '~', '~', '~', '~'].isPrefixOf line

def removeNonstandardFooter (lines : List Line) : List Line × Bool :=
  match lines.findIdx? isNonstandardFooter with
  | some ix => (lines.take ix, true)
  | none => (lines, false)

def splitLines (buf : List Char) : List Line := buf.splitOn '\n'

def isEmptyLine (buf : Line) : Bool := buf.all Text.isWhitespace

/-- `buf.len()` counts bytes -/
def isQuotedHeadline (buf : Line) : Bool :=
  (String.ofList buf).utf8ByteSize ≤ 120 && buf.getLast? == some ':'

def isPlainQuote (buf : Line) : Bool := buf.head? == some '>'

/-- the loop of `render_message`; `pending` is `pending_linebreaks` -/
def renderLoop (ret : List Char) (pending : ℕ) : List Line → List Char
  | [] => ret
  | line :: lines =>
    if isEmptyLine line then renderLoop ret (pending + 1) lines
    else
      let ret := if ret.isEmpty then ret else ret ++ List.replicate (min pending 2) '\n'
      renderLoop (ret ++ line) 1 lines

def renderMessage (lines : List Line) (isCutAtEnd : Bool) : List Char :=
  let ret := renderLoop [] 0 lines
  let ret := if isCutAtEnd && !ret.isEmpty then ret ++ [' ', '[', '.', '.', '.', ']'] else ret
  ret.filter (· ≠ zwsp)

def forwardHeader : Line := "---------- Forwarded message ----------".toList

def skipForwardHeader (lines : List Line) : List Line × Bool :=
  match lines with
  | header :: firstLine :: [] :: rest =>
    if header = forwardHeader ∧ "From: ".toList <+: firstLine then (rest, true) else (lines, false)
  | _ => (lines, false)

def unquote : Line → Line
  | '>' :: ' ' :: u => u
  | '>' :: u => u
  | s => s

/-- the loop of `remove_top_quote`: `first_quoted_line` and `last_quoted_line` -/
def topQuoteLoop (isChatMessage : Bool) (l first : ℕ) (last : Option ℕ) (hasHeadline : Bool) :
    List Line → ℕ × Option ℕ
  | [] => (first, last)
  | line :: rest =>
    if isPlainQuote line then
      topQuoteLoop isChatMessage (l + 1) (if last.isNone then l else first) (some l) hasHeadline rest
    else if !isChatMessage && isQuotedHeadline line && !hasHeadline && last.isNone then
      topQuoteLoop isChatMessage (l + 1) first last true rest
    else (first, last)

def removeTopQuote (lines : List Line) (isChatMessage : Bool) : List Line × Option (List Char) :=
  match topQuoteLoop isChatMessage 0 0 none false lines with
  | (first, some last) =>
    (lines.drop (last + 1),
      some (['\n'].intercalate (((lines.take (last + 1)).drop first).map unquote)))
  | (_, none) => (lines, none)

/-- the loop of `remove_bottom_quote`, over the numbered lines from the last to the first -/
def bottomQuoteLoop (first : ℕ) (last : Option ℕ) : List (Line × ℕ) → ℕ × Option ℕ
  | [] => (first, last)
  | (line, l) :: rest =>
    if isPlainQuote line then
      bottomQuoteLoop (if last.isNone then l + 1 else first) (some l) rest
    else if isEmptyLine line then bottomQuoteLoop first last rest
    else (first, last)

/-- one line further up if it satisfies `p` -/
def stepUp (lines : List Line) (p : Line → Bool) (lLast : ℕ) : ℕ :=
  if lLast > 1 ∧ lines[lLast - 1]?.any p then lLast - 1 else lLast

def removeBottomQuote (lines : List Line) : List Line × Option (List Char) :=
  match bottomQuoteLoop lines.length none lines.zipIdx.reverse with
  | (first, some lLast) =>
    let quotedText := ['\n'].intercalate (((lines.take first).drop lLast).map unquote)
    (lines.take (stepUp lines isQuotedHeadline (stepUp lines isEmptyLine lLast)), some quotedText)
  | (_, none) => (lines, none)

def simplifyQuote (quote : List Char) : List Char × Bool :=
  let r := removeMessageFooter (splitLines quote)
  (renderMessage r.1 false, r.2.isSome)

structure SimplifiedText where
  text : String
  isForwarded : Bool
  isCut : Bool
  topQuote : Option String
  footer : Option String
  deriving DecidableEq, Repr

/-- the branch of `simplify` for mails of other programs: text, whether it is cut, and the quote -/
def simplifyForeign (lines : List Line) (topQuote : Option (List Char)) :
    List Char × Bool × Option (List Char) :=
  let f := removeNonstandardFooter (removeMessageFooter lines).1
  let b := removeBottomQuote f.1
  -- the swap: with no quote on top, the one at the bottom takes its place
  let swapped := topQuote.isNone && b.2.isSome
  let topQuote := if swapped then b.2 else topQuote
  let bottomQuote := if swapped then none else b.2
  let text :=
    if b.1.all fun line => (Text.trimEnd (Text.trimStart line)).isEmpty then
      (renderMessage lines false, false)
    else (renderMessage b.1 (f.2 || bottomQuote.isSome), f.2 || bottomQuote.isSome)
  let quote := topQuote.map simplifyQuote
  (text.1, text.2 || quote.any Prod.snd, quote.map Prod.fst)

def simplify (input : String) (isChatMessage : Bool) : SimplifiedText :=
  let fwd := skipForwardHeader (splitLines (input.toList.filter (· ≠ '\r')))
  let top := removeTopQuote fwd.1 isChatMessage
  let body := removeMessageFooter top.1
  let shown :=
    if isChatMessage then (renderMessage body.1 false, false, top.2)
    else simplifyForeign top.1 top.2
  { text := String.ofList shown.1
    isForwarded := fwd.2
    isCut := shown.2.1
    topQuote := shown.2.2.map String.ofList
    footer := body.2.map fun footerLines => String.ofList (renderMessage footerLines false) }

/-! ## the steps on lines of a known shape -/

def IsFooterMark (line : Line) : Prop :=
  line = ['-', '-', ' '] ∨ line = ['-', '-', ' ', ' '] ∨ line = ['-', '-']

theorem footerLoop_skip {lines pre : List Line} (h : ∀ l ∈ pre, ¬ IsFooterMark l) (ix : ℕ)
    (nearly : Option ℕ) (rest : List Line) :
    footerLoop lines ix nearly (pre ++ rest) = footerLoop lines (ix + pre.length) nearly rest := by
  induction pre generalizing ix with
  | nil => rfl
  | cons l pre ih =>
    have hl : ¬ IsFooterMark l := h l List.mem_cons_self
    have h₁ : ¬ (l = ['-', '-', ' '] ∨ l = ['-', '-', ' ', ' ']) :=
      fun e => hl (e.imp_right .inl)
    have h₂ : l ≠ ['-', '-'] := fun e => hl (.inr (.inr e))
    rw [List.cons_append, footerLoop, if_neg h₁, if_neg (fun e => h₂ e.1),
      ih (fun l' hl' => h l' (List.mem_cons_of_mem _ hl')), List.length_cons]
    congr 1
    omega

theorem removeMessageFooter_plain {lines : List Line} (h : ∀ l ∈ lines, ¬ IsFooterMark l) :
    removeMessageFooter lines = (lines, none) := by
  have hskip : footerLoop lines 0 none (lines ++ []) =
      footerLoop lines (0 + lines.length) none [] := footerLoop_skip h 0 none []
  rw [List.append_nil] at hskip
  rw [removeMessageFooter, hskip, footerLoop]

theorem removeMessageFooter_marked {pre rest : List Line} (h : ∀ l ∈ pre, ¬ IsFooterMark l) :
    removeMessageFooter (pre ++ ['-', '-', ' '] :: rest) = (pre, some rest) := by
  rw [removeMessageFooter, footerLoop_skip h, footerLoop, if_pos (.inl rfl), Nat.zero_add,
    List.take_left, List.drop_append]
  simp

theorem topQuoteLoop_quoted {qs : List Line} (h : ∀ l ∈ qs, isPlainQuote l = true) (l first k : ℕ)
    (rest : List Line) :
    topQuoteLoop true l first (some k) false (qs ++ rest) =
      topQuoteLoop true (l + qs.length) first (some (if qs = [] then k else l + qs.length - 1)) false
        rest := by
  induction qs generalizing l k with
  | nil => rfl
  | cons q qs ih =>
    have hq : isPlainQuote q = true := h q List.mem_cons_self
    have hqs : ∀ l ∈ qs, isPlainQuote l = true := fun l' hl' => h l' (List.mem_cons_of_mem _ hl')
    rw [List.cons_append, topQuoteLoop, if_pos hq]
    simp only [Option.isNone_some, Bool.false_eq_true, if_false]
    rw [ih hqs, List.length_cons, if_neg (List.cons_ne_nil q qs)]
    have hlen : l + 1 + qs.length = l + (qs.length + 1) := by omega
    by_cases hnil : qs = []
    · subst hnil
      rfl
    · rw [if_neg hnil, hlen]

theorem topQuoteLoop_stop {rest : List Line} (h : ∀ l, rest.head? = some l → isPlainQuote l = false)
    (l first : ℕ) (last : Option ℕ) :
    topQuoteLoop true l first last false rest = (first, last) := by
  rcases rest with _ | ⟨line, rest⟩
  · rfl
  · have hline : ¬ isPlainQuote line = true := by
      rw [h line rfl]
      exact Bool.false_ne_true
    rw [topQuoteLoop, if_neg hline]
    rfl

theorem removeTopQuote_chat {q : Line} {qs rest : List Line}
    (hq : ∀ l ∈ q :: qs, isPlainQuote l = true)
    (hrest : ∀ l, rest.head? = some l → isPlainQuote l = false) :
    removeTopQuote (q :: qs ++ rest) true =
      (rest, some (['\n'].intercalate ((q :: qs).map unquote))) := by
  have hq0 : isPlainQuote q = true := hq q List.mem_cons_self
  have hloop : topQuoteLoop true 0 0 none false (q :: qs ++ rest) = (0, some qs.length) := by
    rw [List.cons_append, topQuoteLoop, if_pos hq0]
    simp only [Option.isNone_none, if_true]
    rw [topQuoteLoop_quoted fun l hl => hq l (List.mem_cons_of_mem _ hl), topQuoteLoop_stop hrest]
    by_cases hnil : qs = []
    · subst hnil
      rfl
    · rw [if_neg hnil]
      congr 2
      omega
  rw [removeTopQuote, hloop]
  have hlen : qs.length + 1 = (q :: qs).length := rfl
  show ((q :: qs ++ rest).drop (qs.length + 1), some _) = _
  rw [hlen, List.drop_left, List.take_left, List.drop_zero]

theorem removeTopQuote_none {lines : List Line}
    (h : ∀ l, lines.head? = some l → isPlainQuote l = false) :
    removeTopQuote lines true = (lines, none) := by
  rw [removeTopQuote, topQuoteLoop_stop h]

/-! ## rendering -/

def squeeze : List Line → List Line
  | [] => []
  | l :: ls =>
    if isEmptyLine l then
      if ls.head?.any isEmptyLine then squeeze ls else [] :: squeeze ls
    else l :: squeeze ls

/-- without leading and trailing empty lines, and each inner run of them as one -/
def normaliseLines (lines : List Line) : List Line :=
  squeeze ((lines.dropWhile isEmptyLine).rdropWhile isEmptyLine)

def laterLines (gap : Bool) : List Line → List Line
  | [] => []
  | l :: ls =>
    if isEmptyLine l then laterLines true ls
    else if gap then [] :: l :: laterLines false ls else l :: laterLines false ls

theorem squeeze_cons_of_empty {l l' : Line} (h : isEmptyLine l = true) (h' : isEmptyLine l' = true)
    (ls : List Line) : squeeze (l :: ls) = squeeze (l' :: ls) := by
  rw [squeeze, squeeze, if_pos h, if_pos h']

theorem squeeze_cons_cons_of_empty {l l' : Line} (h : isEmptyLine l = true)
    (h' : isEmptyLine l' = true) (ls : List Line) :
    squeeze (l :: l' :: ls) = squeeze (l' :: ls) := by
  have hany : (l' :: ls).head?.any isEmptyLine = true := h'
  rw [squeeze, if_pos h, if_pos hany]

theorem laterLines_eq (gap : Bool) (ls : List Line) :
    laterLines gap ls = squeeze ((if gap then [] :: ls else ls).rdropWhile isEmptyLine) := by
  have hnil : isEmptyLine [] = true := rfl
  induction ls generalizing gap with
  | nil => cases gap <;> rfl
  | cons l ls ih =>
    by_cases hl : isEmptyLine l = true
    case pos =>
      -- an empty line only makes the gap sure
      have hgap : squeeze (([] :: ls).rdropWhile isEmptyLine) =
          squeeze ((l :: ls).rdropWhile isEmptyLine) := by
        rw [rdropWhile_cons, rdropWhile_cons, if_pos hnil, if_pos hl]
        split
        · rfl
        · exact squeeze_cons_of_empty hnil hl _
      rw [laterLines, if_pos hl, ih true]
      cases gap with
      | false => exact hgap
      | true =>
        show squeeze (([] :: ls).rdropWhile isEmptyLine) =
          squeeze (([] :: l :: ls).rdropWhile isEmptyLine)
        rw [hgap, rdropWhile_cons [], if_pos hnil]
        split
        case isTrue h => rw [h]
        case isFalse h =>
          rw [rdropWhile_cons, if_pos hl] at h ⊢
          split
          case isTrue h' => rw [if_pos h'] at h; exact absurd rfl h
          case isFalse h' => exact (squeeze_cons_cons_of_empty hnil hl _).symm
    case neg =>
      have hkeep : (l :: ls).rdropWhile isEmptyLine = l :: ls.rdropWhile isEmptyLine := by
        rw [rdropWhile_cons, if_neg hl]
        split
        case isTrue h => rw [h]
        case isFalse h => rfl
      have hrest : laterLines false ls = squeeze (ls.rdropWhile isEmptyLine) := ih false
      rw [laterLines, if_neg hl, hrest]
      cases gap with
      | false =>
        show l :: squeeze (ls.rdropWhile isEmptyLine) = squeeze ((l :: ls).rdropWhile isEmptyLine)
        rw [hkeep, squeeze, if_neg hl]
      | true =>
        have hany : ¬ (l :: ls.rdropWhile isEmptyLine).head?.any isEmptyLine = true := hl
        show [] :: l :: squeeze (ls.rdropWhile isEmptyLine) =
          squeeze (([] :: l :: ls).rdropWhile isEmptyLine)
        rw [rdropWhile_cons [], hkeep, if_neg (List.cons_ne_nil _ _), squeeze, if_pos hnil,
          if_neg hany, squeeze, if_neg hl]

theorem renderLoop_later {ret : List Char} (hret : ret ≠ []) (pending : ℕ) (hp : 0 < pending)
    (ls : List Line) :
    renderLoop ret pending ls = ret ++ (laterLines (1 < pending) ls).flatMap ('\n' :: ·) := by
  induction ls generalizing ret pending with
  | nil => rw [renderLoop, laterLines, List.flatMap_nil, List.append_nil]
  | cons l ls ih =>
    by_cases hl : isEmptyLine l = true
    case pos =>
      have hgap : decide (1 < pending + 1) = true := by
        rw [decide_eq_true_eq]
        omega
      rw [renderLoop, if_pos hl, laterLines, if_pos hl, ih hret _ (Nat.succ_pos _), hgap]
    case neg =>
      have hne : ¬ ret.isEmpty = true := fun e => hret (List.isEmpty_iff.mp e)
      have hret' : ret ++ List.replicate (min pending 2) '\n' ++ l ≠ [] := by
        intro e
        exact hret (List.append_eq_nil_iff.mp (List.append_eq_nil_iff.mp e).1).1
      rw [renderLoop, if_neg hl, laterLines, if_neg hl]
      simp only [if_neg hne]
      rw [ih hret' 1 Nat.one_pos]
      by_cases hgap : 1 < pending
      · have hmin : min pending 2 = 2 := by omega
        rw [hmin, if_pos (decide_eq_true hgap)]
        simp [List.replicate]
      · have hmin : min pending 2 = 1 := by omega
        rw [hmin, if_neg (by simpa using hgap)]
        simp

theorem renderLoop_start (pending : ℕ) (lines : List Line) :
    renderLoop [] pending lines = ['\n'].intercalate (normaliseLines lines) := by
  induction lines generalizing pending with
  | nil => rfl
  | cons l ls ih =>
    by_cases hl : isEmptyLine l = true
    case pos =>
      rw [renderLoop, if_pos hl, ih, normaliseLines, normaliseLines, List.dropWhile_cons_of_pos hl]
    case neg =>
      have hne : l ≠ [] := fun e => hl (by rw [e]; rfl)
      have hnorm : normaliseLines (l :: ls) = l :: laterLines false ls := by
        rw [normaliseLines, List.dropWhile_cons_of_neg hl, laterLines_eq, rdropWhile_cons, if_neg hl]
        split
        case isTrue h => simp [squeeze, hl, h]
        case isFalse h => simp [squeeze, hl]
      rw [renderLoop, if_neg hl, hnorm, intercalate_cons]
      simp only [List.isEmpty_nil, if_true, List.nil_append]
      rw [renderLoop_later hne 1 Nat.one_pos]
      rfl

theorem renderMessage_eq (lines : List Line) :
    renderMessage lines false =
      (['\n'].intercalate (normaliseLines lines)).filter (· ≠ zwsp) := by
  rw [renderMessage, renderLoop_start]
  rfl

end EpsilonChat.Simplify
