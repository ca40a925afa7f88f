import EpsilonChat.Base.Trim

/-!
# `format=flowed`

The crate `format-flowed`: long lines are broken after a space, a line that starts with a space is
STUFFED with one more, and the quote marks of a line are repeated on each of its continuations.
The receiver joins a line that ends in a space with the next one.

* `formatLineFlowed`, `formatFlowed`: the sender;
* `unformatFlowed`: the receiver;
* `Wrapped`: what the receiver makes of the lines written so far;
* `lineInv_formatChar`: one character more;
* **`unformatFlowed_formatFlowed`**, **`unformatFlowed_formatFlowedQuote`**: the receiver gets back
  the text, or the quote.

The proof does not use the 72 bytes: a break could come after any space that is followed by a
character that is no whitespace and no quote mark.
-/

namespace EpsilonChat.Flowed
open Lib.Split Text

/-! ## formatting -/

/-- `String::len`, in bytes -/
def len (cs : List Char) : ℕ := (cs.map Char.utf8Size).sum

def crlf : List Char := ['\r', '\n']

structure Line where
  result : List Char
  buffer : List Char
  afterSpace : Bool

def stuff (buffer : List Char) : List Char := if buffer = [] then [' '] else buffer

def formatChar (quote : List Char) (s : Line) (c : Char) : Line :=
  if c = ' ' then { s with buffer := stuff s.buffer ++ [c], afterSpace := true }
  else if c = '>' then { s with buffer := stuff s.buffer ++ [c], afterSpace := false }
  else
    let s :=
      if s.afterSpace && decide (len s.buffer ≥ 72) && !isWhitespace c then
        -- a soft break
        { s with result := s.result ++ s.buffer ++ crlf, buffer := quote }
      else s
    { s with buffer := s.buffer ++ [c], afterSpace := false }

def startLine (quote : List Char) : Line := ⟨[], quote, quote.getLast? = some ' '⟩

/-- `quote` is the `prefix` of the source -/
def formatLineFlowed (line quote : List Char) : List Char :=
  let s := line.foldl (formatChar quote) (startLine quote)
  s.result ++ s.buffer

/-- the quote marks of a line, with the space behind them, and the rest of it -/
def splitQuote (line : List Char) : List Char × List Char :=
  let quoteDepth := (line.takeWhile (· == '>')).length
  let quote := line.take quoteDepth
  let line := line.drop quoteDepth
  if quoteDepth > 0 then
    match line with
    | ' ' :: s => (quote ++ [' '], s)
    | _ => (quote, line)
  else (quote, line)

def formatFlowedLine (result line : List Char) : List Char :=
  let result := if result ≠ [] then result ++ crlf else result
  let p := splitQuote (trimEnd line)
  result ++ formatLineFlowed p.2 p.1

def formatFlowed (text : String) : String :=
  String.ofList ((text.toList.splitOn '\n').foldl formatFlowedLine [])

def quoteLine (result line : List Char) : List Char :=
  (if result ≠ [] then result ++ ['\n'] else result) ++ ['>', ' '] ++ line

def formatFlowedQuote (text : String) : String :=
  formatFlowed (String.ofList ((text.toList.splitOn '\n').foldl quoteLine []))

/-! ## joining lines -/

structure Joined where
  result : List Char
  skipNewline : Bool

def unstuff : List Char → List Char
  | ' ' :: cs => cs
  | cs => cs

def Joined.continues (s : Joined) : Bool := s.result ≠ [] && s.skipNewline

def content (continues : Bool) (line : List Char) : List Char :=
  unstuff (if continues then line.dropWhile (· == '>') else line)

def unformatLine (delsp : Bool) (s : Joined) (line : List Char) : Joined :=
  let line := content s.continues line
  let result := if !s.skipNewline then s.result ++ ['\n'] else s.result
  if line.getLast? = some ' ' then
    -- flowed
    ⟨result ++ line.dropLast ++ (if !delsp then [' '] else []), true⟩
  else ⟨result ++ line, false⟩

def unformatFlowed (text : String) (delsp : Bool) : String :=
  String.ofList ((text.toList.splitOn '\n').foldl (unformatLine delsp) ⟨[], true⟩).result

/-- `round_trip` of the fuzz target -/
def roundTrip (input : String) : String :=
  unformatFlowed (String.ofList ((formatFlowed input).toList.filter (· ≠ '\r'))) false

/-! ## one line, as it is read -/

section
variable {d : Joined} {quote line buffer base done : List Char} {c : Char}

def Joined.start (d : Joined) : List Char :=
  if d.skipNewline then d.result else d.result ++ ['\n']

theorem unformatLine_false (d : Joined) (line : List Char) :
    unformatLine false d line = ⟨d.start ++ content d.continues line,
      (content d.continues line).getLast? = some ' '⟩ := by
  have hstart : (if !d.skipNewline then d.result ++ ['\n'] else d.result) = d.start := by
    unfold Joined.start
    cases d.skipNewline <;> rfl
  unfold unformatLine
  rw [hstart]
  dsimp only
  by_cases h : (content d.continues line).getLast? = some ' '
  · have hne : content d.continues line ≠ [] := by
      intro hnil
      rw [hnil] at h
      cases h
    have hlast : (content d.continues line).getLast hne = ' ' := by
      rw [List.getLast?_eq_some_getLast hne] at h
      exact Option.some.inj h
    have hback := List.dropLast_append_getLast hne
    rw [hlast] at hback
    rw [if_pos h, decide_eq_true h, List.append_assoc]
    show (⟨_ ++ (_ ++ [' ']), _⟩ : Joined) = _
    rw [hback]
  · rw [if_neg h, decide_eq_false h]

theorem unformatLine_eq {text : List Char} (h : (unformatLine false d line).result = text)
    (hlast : text.getLast? ≠ some ' ') : unformatLine false d line = ⟨text, false⟩ := by
  rw [unformatLine_false] at h ⊢
  have h' : d.start ++ content d.continues line = text := h
  have hfixed : (content d.continues line).getLast? ≠ some ' ' := by
    intro hspace
    rw [← h', List.getLast?_append, hspace] at hlast
    exact hlast rfl
  rw [h', decide_eq_false hfixed]

theorem unstuff_cons_of_ne (h : c ≠ ' ') (cs : List Char) : unstuff (c :: cs) = c :: cs := by
  unfold unstuff
  split
  next heq => exact absurd (List.cons.inj heq).1 h
  next => rfl

theorem unstuff_append (h : buffer ≠ []) (cs : List Char) :
    unstuff (buffer ++ cs) = unstuff buffer ++ cs := by
  obtain ⟨b, bs, rfl⟩ := List.exists_cons_of_ne_nil h
  rw [List.cons_append]
  by_cases hb : b = ' '
  · rw [hb]
    rfl
  · rw [unstuff_cons_of_ne hb, unstuff_cons_of_ne hb, List.cons_append]

/-! ## what the receiver makes of the lines written so far -/

def IsQuote (quote : List Char) : Prop :=
  ∃ depth, quote = List.replicate depth '>' ∨
    0 < depth ∧ quote = List.replicate depth '>' ++ [' ']

def Plain (c : Char) : Prop := c ≠ ' ' ∧ c ≠ '>'

theorem content_quote (hquote : IsQuote quote) (hc : Plain c) (cs : List Char) :
    content true (quote ++ c :: cs) = c :: cs := by
  have hmarks (depth : ℕ) (xs : List Char) :
      (List.replicate depth '>' ++ xs).dropWhile (· == '>') = xs.dropWhile (· == '>') :=
    List.dropWhile_append_of_pos fun x hx => by
      rw [List.eq_of_mem_replicate hx]
      rfl
  have hplain : ¬ (c == '>') = true := fun h => hc.2 (eq_of_beq h)
  obtain ⟨depth, rfl | ⟨-, rfl⟩⟩ := hquote
  · show unstuff ((List.replicate depth '>' ++ c :: cs).dropWhile (· == '>')) = _
    rw [hmarks, List.dropWhile_cons, if_neg hplain, unstuff_cons_of_ne hc.1]
  · show unstuff ((List.replicate depth '>' ++ [' '] ++ c :: cs).dropWhile (· == '>')) = _
    rw [List.append_assoc, hmarks]
    rfl

theorem content_quote_first (hquote : IsQuote quote) : content false quote = quote := by
  obtain ⟨depth, h⟩ := hquote
  cases depth with
  | zero =>
    rcases h with rfl | ⟨hpos, -⟩
    · rfl
    · exact absurd hpos (lt_irrefl 0)
  | succ depth =>
    rcases h with rfl | ⟨-, rfl⟩
    · rfl
    · rfl

/-- after the characters `done` of a line: reading the `buffer` in the state `d` gives them back,
and more can be appended -/
structure Wrapped (base quote done : List Char) (d : Joined) (buffer : List Char)
    (afterSpace : Bool) : Prop where
  result : (unformatLine false d buffer).result = base ++ quote ++ done
  flowed : afterSpace = true → (unformatLine false d buffer).skipNewline = true
  grows : d.continues = false ∨ ∃ c cs, Plain c ∧ buffer = quote ++ c :: cs

variable {afterSpace : Bool}

theorem Wrapped.content_push (w : Wrapped base quote done d buffer afterSpace)
    (hquote : IsQuote quote) (hbuffer : buffer ≠ []) (c : Char) :
    content d.continues (buffer ++ [c]) = content d.continues buffer ++ [c] := by
  cases hcont : d.continues with
  | false => exact unstuff_append hbuffer [c]
  | true =>
    obtain ⟨c₀, cs, hplain, rfl⟩ := w.grows.resolve_left (by rw [hcont]; exact Bool.noConfusion)
    rw [List.append_assoc, List.cons_append, content_quote hquote hplain,
      content_quote hquote hplain, List.cons_append]

theorem Wrapped.continues_of_nil (w : Wrapped base quote done d buffer afterSpace)
    (hbuffer : buffer = []) : d.continues = false := by
  refine w.grows.resolve_right ?_
  rintro ⟨c₀, cs, -, h⟩
  rw [hbuffer] at h
  exact List.append_ne_nil_of_right_ne_nil quote (List.cons_ne_nil c₀ cs) h.symm

theorem Wrapped.content_stuff (w : Wrapped base quote done d buffer afterSpace)
    (hquote : IsQuote quote) (c : Char) :
    content d.continues (stuff buffer ++ [c]) = content d.continues buffer ++ [c] := by
  by_cases hbuffer : buffer = []
  case neg =>
    rw [stuff, if_neg hbuffer]
    exact w.content_push hquote hbuffer c
  case pos =>
    rw [w.continues_of_nil hbuffer, hbuffer]
    rfl

theorem Wrapped.push {buffer' : List Char} (w : Wrapped base quote done d buffer afterSpace)
    (h : content d.continues buffer' = content d.continues buffer ++ [c])
    (hgrows : d.continues = false ∨ ∃ tail, buffer' = buffer ++ tail) :
    Wrapped base quote (done ++ [c]) d buffer' (c = ' ') where
  result := by
    have hresult := w.result
    rw [unformatLine_false] at hresult ⊢
    show d.start ++ content d.continues buffer' = _
    rw [h, ← List.append_assoc, ← List.append_assoc]
    exact congrArg (· ++ [c]) hresult
  flowed := by
    intro hc
    rw [unformatLine_false]
    show decide ((content d.continues buffer').getLast? = some ' ') = true
    rw [h, List.getLast?_concat, of_decide_eq_true hc]
    rfl
  grows := by
    rcases hgrows with hfirst | ⟨tail, rfl⟩
    · exact .inl hfirst
    · refine w.grows.imp_right ?_
      rintro ⟨c₀, cs, hplain, rfl⟩
      exact ⟨c₀, cs ++ tail, hplain, by rw [List.append_assoc, List.cons_append]⟩

theorem Wrapped.push_stuffed (w : Wrapped base quote done d buffer afterSpace)
    (hquote : IsQuote quote) (c : Char) :
    Wrapped base quote (done ++ [c]) d (stuff buffer ++ [c]) (c = ' ') := by
  refine w.push (w.content_stuff hquote c) ?_
  by_cases hbuffer : buffer = []
  · exact .inl (w.continues_of_nil hbuffer)
  · rw [stuff, if_neg hbuffer]
    exact .inr ⟨[c], rfl⟩

theorem Wrapped.push_plain (w : Wrapped base quote done d buffer afterSpace)
    (hquote : IsQuote quote) (hc : Plain c) :
    Wrapped base quote (done ++ [c]) d (buffer ++ [c]) (c = ' ') := by
  refine w.push ?_ (.inr ⟨[c], rfl⟩)
  by_cases hbuffer : buffer = []
  · rw [w.continues_of_nil hbuffer, hbuffer]
    exact unstuff_cons_of_ne hc.1 []
  · exact w.content_push hquote hbuffer c

theorem Wrapped.flush (w : Wrapped base quote done d buffer true) (hquote : IsQuote quote)
    (hc : Plain c) :
    Wrapped base quote (done ++ [c]) (unformatLine false d buffer) (quote ++ [c]) (c = ' ') := by
  have hskip := w.flowed rfl
  have hne : (unformatLine false d buffer).result ≠ [] := by
    rw [unformatLine_false] at hskip ⊢
    have hlast : (content d.continues buffer).getLast? = some ' ' := of_decide_eq_true hskip
    intro hnil
    rw [(List.append_eq_nil_iff.mp hnil).2] at hlast
    cases hlast
  have hcont : (unformatLine false d buffer).continues = true := by
    rw [Joined.continues, hskip, decide_eq_true hne]
    rfl
  have hread : content (unformatLine false d buffer).continues (quote ++ [c]) = [c] := by
    rw [hcont]
    exact content_quote hquote hc []
  have hstart : (unformatLine false d buffer).start = base ++ quote ++ done := by
    rw [Joined.start, if_pos hskip, w.result]
  refine ⟨?_, fun h => absurd (of_decide_eq_true h) hc.1, .inr ⟨c, [], hc, rfl⟩⟩
  rw [unformatLine_false _ (quote ++ [c])]
  show (unformatLine false d buffer).start ++ content _ (quote ++ [c]) = _
  rw [hread, hstart, List.append_assoc]

/-! ## a line -/

def OneLine (l : List Char) : Prop := '\n' ∉ l ∧ '\r' ∉ l

theorem OneLine.append {l l' : List Char} (h : OneLine l) (h' : OneLine l') :
    OneLine (l ++ l') := by
  constructor
  · exact fun hm => (List.mem_append.mp hm).elim h.1 h'.1
  · exact fun hm => (List.mem_append.mp hm).elim h.2 h'.2

theorem oneLine_stuff (h : OneLine buffer) : OneLine (stuff buffer) := by
  unfold stuff
  split
  · exact ⟨by decide, by decide⟩
  · exact h

/-- the loop of `format_line_flowed` after the characters `done`; the lines broken off so far take
the receiver from the state `start` to one that reads the buffer -/
structure LineInv (start : Joined) (quote done : List Char) (s : Line)
    (pieces : List (List Char)) : Prop where
  result : s.result = pieces.flatMap (· ++ crlf)
  oneLine : ∀ l ∈ pieces ++ [s.buffer], OneLine l
  wrapped : Wrapped start.start quote done (pieces.foldl (unformatLine false) start) s.buffer
    s.afterSpace

variable {start : Joined} {s : Line} {pieces : List (List Char)}

theorem lineInv_formatChar (hquote : IsQuote quote) (hone : OneLine quote) (hc : OneLine [c])
    (inv : LineInv start quote done s pieces) :
    ∃ pieces', LineInv start quote (done ++ [c]) (formatChar quote s c) pieces' := by
  have hpieces : ∀ l ∈ pieces, OneLine l := fun l hl => inv.oneLine l (List.mem_append_left _ hl)
  have hbuffer : OneLine s.buffer :=
    inv.oneLine s.buffer (List.mem_append_right _ List.mem_cons_self)
  have hlines {ls : List (List Char)} {b : List Char} (hls : ∀ l ∈ ls, OneLine l)
      (hb : OneLine b) : ∀ l ∈ ls ++ [b], OneLine l := fun l hl => by
    rcases List.mem_append.mp hl with hl | hl
    · exact hls l hl
    · rw [List.mem_singleton.mp hl]
      exact hb
  unfold formatChar
  by_cases hspace : c = ' '
  · rw [if_pos hspace]
    have w := inv.wrapped.push_stuffed hquote c
    rw [decide_eq_true hspace] at w
    exact ⟨pieces, inv.result, hlines hpieces ((oneLine_stuff hbuffer).append hc), w⟩
  rw [if_neg hspace]
  by_cases hmark : c = '>'
  · rw [if_pos hmark]
    have w := inv.wrapped.push_stuffed hquote c
    rw [decide_eq_false hspace] at w
    exact ⟨pieces, inv.result, hlines hpieces ((oneLine_stuff hbuffer).append hc), w⟩
  rw [if_neg hmark]
  have hplain : Plain c := ⟨hspace, hmark⟩
  dsimp only
  by_cases hbreak : (s.afterSpace && decide (len s.buffer ≥ 72) && !isWhitespace c) = true
  · rw [if_pos hbreak]
    have hafter : s.afterSpace = true := by
      rw [Bool.and_eq_true, Bool.and_eq_true] at hbreak
      exact hbreak.1.1
    have w := inv.wrapped
    rw [hafter] at w
    have w' := w.flush hquote hplain
    rw [decide_eq_false hspace] at w'
    refine ⟨pieces ++ [s.buffer], ?_, hlines inv.oneLine (hone.append hc), ?_⟩
    · show s.result ++ s.buffer ++ crlf = _
      rw [inv.result, List.flatMap_append, List.flatMap_singleton, List.append_assoc]
    · rw [List.foldl_append]
      exact w'
  · rw [if_neg hbreak]
    have w := inv.wrapped.push_plain hquote hplain
    rw [decide_eq_false hspace] at w
    exact ⟨pieces, inv.result, hlines hpieces (hbuffer.append hc), w⟩

theorem lineInv_foldl (hquote : IsQuote quote) (hone : OneLine quote) :
    ∀ {todo done : List Char} {s : Line} {pieces : List (List Char)}, OneLine todo →
      LineInv start quote done s pieces →
      ∃ pieces', LineInv start quote (done ++ todo) (todo.foldl (formatChar quote) s) pieces'
  | [], done, s, pieces, _, inv => ⟨pieces, by rwa [List.append_nil]⟩
  | c :: todo, done, s, pieces, htodo, inv => by
    have hc : OneLine [c] :=
      ⟨fun h => htodo.1 (List.mem_singleton.mp h ▸ List.mem_cons_self),
        fun h => htodo.2 (List.mem_singleton.mp h ▸ List.mem_cons_self)⟩
    have hrest : OneLine todo :=
      ⟨fun h => htodo.1 (List.mem_cons_of_mem _ h), fun h => htodo.2 (List.mem_cons_of_mem _ h)⟩
    obtain ⟨pieces₁, inv₁⟩ := lineInv_formatChar hquote hone hc inv
    obtain ⟨pieces₂, inv₂⟩ := lineInv_foldl hquote hone hrest inv₁
    rw [List.append_assoc, List.singleton_append] at inv₂
    exact ⟨pieces₂, inv₂⟩

def Reads (start : Joined) (out : List Char) (d : Joined) : Prop :=
  ∃ (pieces : List (List Char)) (last : List Char), out = pieces.flatMap (· ++ crlf) ++ last ∧
    (∀ l ∈ pieces ++ [last], OneLine l) ∧
    (pieces ++ [last]).foldl (unformatLine false) start = d

theorem reads_formatLineFlowed (hfirst : start.continues = false)
    (hstart : start.start.getLast? ≠ some ' ') (hquote : IsQuote quote) (hone : OneLine quote)
    (hline : OneLine line) (hlast : (quote ++ line).getLast? ≠ some ' ') :
    Reads start (formatLineFlowed line quote) ⟨start.start ++ (quote ++ line), false⟩ := by
  have hinit : LineInv start quote [] (startLine quote) [] := by
    refine ⟨rfl, fun l hl => List.mem_singleton.mp hl ▸ hone, ?_, ?_, .inl hfirst⟩
    · show (unformatLine false start quote).result = _
      rw [unformatLine_false, hfirst, content_quote_first hquote, List.append_nil]
    · intro hspace
      show (unformatLine false start quote).skipNewline = true
      rw [unformatLine_false, hfirst, content_quote_first hquote]
      exact hspace
  obtain ⟨pieces, inv⟩ := lineInv_foldl hquote hone hline hinit
  refine ⟨pieces, _, congrArg (· ++ _) inv.result, inv.oneLine, ?_⟩
  rw [List.foldl_append]
  refine unformatLine_eq (by rw [inv.wrapped.result, List.nil_append, List.append_assoc]) ?_
  rw [List.getLast?_append]
  cases hl : (quote ++ line).getLast? with
  | none => exact hstart
  | some c => exact fun h => hlast (hl.trans h)

theorem splitQuote_spec (line : List Char) :
    IsQuote (splitQuote line).1 ∧ (splitQuote line).1 ++ (splitQuote line).2 = line := by
  have hmarks : line.take (line.takeWhile (· == '>')).length =
      List.replicate (line.takeWhile (· == '>')).length '>' := by
    rw [← List.prefix_iff_eq_take.mp (List.takeWhile_prefix _)]
    refine List.eq_replicate_of_mem fun x hx => ?_
    have hmark := List.mem_takeWhile_imp hx
    exact eq_of_beq hmark
  unfold splitQuote
  dsimp only
  split
  next hpos =>
    split
    next s heq =>
      refine ⟨⟨_, .inr ⟨hpos, by rw [hmarks]⟩⟩, ?_⟩
      rw [List.append_assoc, List.singleton_append, ← heq, List.take_append_drop]
    next => exact ⟨⟨_, .inl hmarks⟩, List.take_append_drop _ _⟩
  next => exact ⟨⟨_, .inl hmarks⟩, List.take_append_drop _ _⟩

/-! ## the text -/

theorem Reads.trans {d d' : Joined} {out out' : List Char} (h : Reads start out d)
    (h' : Reads d out' d') : Reads start (out ++ crlf ++ out') d' := by
  obtain ⟨pieces, last, rfl, hone, hread⟩ := h
  obtain ⟨pieces', last', rfl, hone', hread'⟩ := h'
  refine ⟨pieces ++ [last] ++ pieces', last', ?_, ?_, ?_⟩
  · simp
  · intro l hl
    rw [List.append_assoc, List.mem_append] at hl
    exact hl.elim (hone l) (hone' l)
  · rw [List.append_assoc, List.foldl_append, hread, hread']

structure Sound (line : List Char) : Prop where
  oneLine : OneLine line
  last : line.getLast?.any isWhitespace = false

theorem reads_splitQuote {line : List Char} (hline : Sound line)
    (hfirst : start.continues = false) (hstart : start.start.getLast? ≠ some ' ') :
    Reads start (formatLineFlowed (splitQuote (trimEnd line)).2 (splitQuote (trimEnd line)).1)
      ⟨start.start ++ line, false⟩ := by
  have htrim : trimEnd line = line := by
    apply trimEnd_eq_self
    intro c hc
    have hlast := hline.last
    rwa [hc, Option.any_some] at hlast
  rw [htrim]
  obtain ⟨hquote, hsplit⟩ := splitQuote_spec line
  have hlast : line.getLast? ≠ some ' ' := fun h => by
    have hspace := hline.last
    rw [h] at hspace
    cases hspace
  have hone := hline.oneLine
  rw [← hsplit] at hone hlast
  have h := reads_formatLineFlowed hfirst hstart hquote
    ⟨fun hm => hone.1 (List.mem_append_left _ hm), fun hm => hone.2 (List.mem_append_left _ hm)⟩
    ⟨fun hm => hone.1 (List.mem_append_right _ hm), fun hm => hone.2 (List.mem_append_right _ hm)⟩
    hlast
  rwa [hsplit] at h

theorem Reads.ne_nil {out : List Char} {d : Joined} (h : Reads ⟨[], true⟩ out d)
    (hd : d.result ≠ []) : out ≠ [] := by
  obtain ⟨pieces, last, rfl, -, rfl⟩ := h
  intro hnil
  obtain ⟨hpieces, hlast⟩ := List.append_eq_nil_iff.mp hnil
  cases pieces with
  | nil =>
    rw [hlast] at hd
    exact hd rfl
  | cons l pieces =>
    rw [List.flatMap_cons, List.append_assoc] at hpieces
    exact List.cons_ne_nil _ _ (List.append_eq_nil_iff.mp (List.append_eq_nil_iff.mp hpieces).2).1

theorem reads_foldl {lines : List (List Char)} {out text : List Char}
    (hlines : ∀ line ∈ lines, Sound line) (htext : text ≠ [])
    (h : Reads ⟨[], true⟩ out ⟨text, false⟩) :
    Reads ⟨[], true⟩ (lines.foldl formatFlowedLine out)
      ⟨text ++ lines.flatMap ('\n' :: ·), false⟩ := by
  induction lines generalizing out text with
  | nil =>
    rw [List.flatMap_nil, List.append_nil]
    exact h
  | cons line lines ih =>
    have hstart : (⟨text, false⟩ : Joined).start.getLast? ≠ some ' ' := by
      show (text ++ ['\n']).getLast? ≠ some ' '
      rw [List.getLast?_concat]
      decide
    have hfirst : (⟨text, false⟩ : Joined).continues = false := Bool.and_false _
    have hnext := reads_splitQuote (hlines line List.mem_cons_self) hfirst hstart
    have hout : formatFlowedLine out line = out ++ crlf ++
        formatLineFlowed (splitQuote (trimEnd line)).2 (splitQuote (trimEnd line)).1 := by
      rw [formatFlowedLine, if_pos (h.ne_nil htext)]
    have hboth := h.trans hnext
    rw [← hout] at hboth
    have hall := ih (fun l hl => hlines l (List.mem_cons_of_mem _ hl))
      (List.append_ne_nil_of_left_ne_nil (List.append_ne_nil_of_left_ne_nil htext _) _) hboth
    rw [List.foldl_cons, List.flatMap_cons]
    simpa [Joined.start] using hall

theorem Reads.unformatFlowed {out : List Char} {d : Joined} (h : Reads ⟨[], true⟩ out d) :
    unformatFlowed (String.ofList (out.filter (· ≠ '\r'))) false = String.ofList d.result := by
  obtain ⟨pieces, last, rfl, hone, rfl⟩ := h
  have hkeep : ∀ l ∈ pieces ++ [last], l.filter (· ≠ '\r') = l := fun l hl => by
    refine List.filter_eq_self.mpr fun c hc => decide_eq_true fun h => ?_
    exact (hone l hl).2 (h ▸ hc)
  have hfilter : (pieces.flatMap (· ++ crlf)).filter (· ≠ '\r') =
      pieces.flatMap (· ++ ['\n']) := by
    rw [List.filter_flatMap]
    refine List.flatMap_congr fun l hl => ?_
    rw [List.filter_append, hkeep l (List.mem_append_left _ hl)]
    rfl
  have hlast := hkeep last (List.mem_append_right _ List.mem_cons_self)
  have hsplit : ((pieces.flatMap (· ++ crlf) ++ last).filter (· ≠ '\r')).splitOn '\n' =
      pieces ++ [last] := by
    rw [List.filter_append, hfilter, hlast,
      splitOn_terminated fun l hl => (hone l (List.mem_append_left _ hl)).1,
      List.splitOn_eq_singleton (hone last (List.mem_append_right _ List.mem_cons_self)).1]
  rw [Flowed.unformatFlowed, String.toList_ofList, hsplit]

theorem roundTrip_eq {text : String} {hd : List Char} {tl : List (List Char)}
    (hsplit : text.toList.splitOn '\n' = hd :: tl) (hsound : ∀ line ∈ hd :: tl, Sound line)
    (hne : hd ≠ []) : roundTrip text = text := by
  have hread : Reads ⟨[], true⟩ _ ⟨[] ++ hd, false⟩ :=
    reads_splitQuote (hsound hd List.mem_cons_self) rfl (by decide)
  have hall := reads_foldl (fun l hl => hsound l (List.mem_cons_of_mem _ hl)) hne hread
  have htext := hall.unformatFlowed
  show unformatFlowed (String.ofList ((formatFlowed text).toList.filter (· ≠ '\r'))) false = text
  rw [formatFlowed, String.toList_ofList, hsplit, List.foldl_cons]
  refine Eq.trans htext ?_
  show String.ofList (hd ++ tl.flatMap ('\n' :: ·)) = text
  rw [← eq_of_splitOn hsplit, String.ofList_toList]

/-- **decoding undoes encoding**: a text without carriage returns, with a first line that is not
empty and no whitespace at the end of a line, comes back as it was -/
theorem unformatFlowed_formatFlowed (text : String) (hcr : '\r' ∉ text.toList)
    (hfirst : (text.toList.splitOn '\n').head? ≠ some [])
    (hlast : ∀ line ∈ text.toList.splitOn '\n', line.getLast?.any isWhitespace = false) :
    roundTrip text = text := by
  obtain ⟨hd, tl, hsplit⟩ := splitOn_eq_cons '\n' text.toList
  refine roundTrip_eq hsplit (fun line hl => ?_) ?_
  · rw [← hsplit] at hl
    exact ⟨⟨not_mem_of_mem_splitOn hl, fun h => hcr ((infix_of_mem_splitOn hl).subset h)⟩,
      hlast line hl⟩
  · intro hnil
    rw [hsplit, hnil] at hfirst
    exact hfirst rfl

theorem unformatFlowed_formatFlowed_quoted : roundTrip "> a\n  b >\n\n>>c" = "> a\n  b >\n\n>>c" :=
  unformatFlowed_formatFlowed "> a\n  b >\n\n>>c" (by decide) (by decide) (by decide)

end

/-! ## quotes -/

theorem formatFlowedLine_trimEnd (result line : List Char) :
    formatFlowedLine result (trimEnd line) = formatFlowedLine result line := by
  unfold formatFlowedLine
  rw [trimEnd_eq_self fun _ h => getLast?_trimEnd h]

theorem sound_trimEnd {line : List Char} (h : OneLine line) : Sound (trimEnd line) where
  oneLine := ⟨fun hm => h.1 ((trimEnd_isPrefix line).subset hm),
    fun hm => h.2 ((trimEnd_isPrefix line).subset hm)⟩
  last := by
    rw [Option.any_eq_false_iff_get]
    exact fun hsome => getLast?_trimEnd (Option.some_get hsome).symm

/-- the whitespace at the end of a line is all that gets lost -/
theorem roundTrip_lines {hd : List Char} {tl : List (List Char)}
    (hone : ∀ line ∈ hd :: tl, OneLine line) (hne : trimEnd hd ≠ []) :
    roundTrip (String.ofList (['\n'].intercalate (hd :: tl))) =
      String.ofList (['\n'].intercalate ((hd :: tl).map trimEnd)) := by
  have hsound : ∀ line ∈ (hd :: tl).map trimEnd, Sound line :=
    List.forall_mem_map.mpr fun line hl => sound_trimEnd (hone line hl)
  have hsplit := List.splitOn_intercalate '\n' (fun l hl => (hone l hl).1) (List.cons_ne_nil _ _)
  have hsplit' := List.splitOn_intercalate '\n' (fun l hl => (hsound l hl).oneLine.1)
    (List.cons_ne_nil _ _)
  refine Eq.trans ?_ (roundTrip_eq ((congrArg _ String.toList_ofList).trans hsplit') hsound hne)
  simp only [roundTrip, formatFlowed, String.toList_ofList, hsplit, hsplit', List.foldl_map,
    formatFlowedLine_trimEnd]

theorem foldl_quoteLine (lines : List (List Char)) {result : List Char} (h : result ≠ []) :
    lines.foldl quoteLine result =
      result ++ (lines.map (['>', ' '] ++ ·)).flatMap ('\n' :: ·) := by
  induction lines generalizing result with
  | nil => exact (List.append_nil result).symm
  | cons line lines ih =>
    have hne : quoteLine result line ≠ [] := by
      rw [quoteLine, if_pos h, List.append_assoc, List.append_assoc]
      exact List.append_ne_nil_of_left_ne_nil h _
    rw [List.foldl_cons, ih hne, List.map_cons, List.flatMap_cons, quoteLine, if_pos h]
    simp only [List.append_assoc, List.cons_append, List.nil_append]

/-- **a quote is read as it was written**: every line behind its mark, blank lines too -/
theorem unformatFlowed_formatFlowedQuote (text : String) (hcr : '\r' ∉ text.toList) :
    unformatFlowed (String.ofList ((formatFlowedQuote text).toList.filter (· ≠ '\r'))) false =
      String.ofList (['\n'].intercalate
        ((text.toList.splitOn '\n').map fun line => trimEnd (['>', ' '] ++ line))) := by
  obtain ⟨hd, tl, hsplit⟩ := splitOn_eq_cons '\n' text.toList
  have hquoted : ∀ line ∈ (hd :: tl).map (['>', ' '] ++ ·), OneLine line := by
    refine List.forall_mem_map.mpr fun line hl => OneLine.append ⟨by decide, by decide⟩ ?_
    rw [← hsplit] at hl
    exact ⟨not_mem_of_mem_splitOn hl, fun h => hcr ((infix_of_mem_splitOn hl).subset h)⟩
  have htext : (hd :: tl).foldl quoteLine [] =
      ['\n'].intercalate ((hd :: tl).map (['>', ' '] ++ ·)) := by
    have hne : quoteLine [] hd ≠ [] := List.cons_ne_nil _ _
    rw [List.foldl_cons, foldl_quoteLine tl hne, List.map_cons, intercalate_cons]
    rfl
  have hmark : trimEnd (['>'] ++ (' ' :: hd)) = ['>'] ++ trimEnd (' ' :: hd) :=
    trimEnd_append (by decide) _
  show roundTrip (String.ofList ((text.toList.splitOn '\n').foldl quoteLine [])) = _
  rw [hsplit, htext]
  refine (roundTrip_lines hquoted ?_).trans ?_
  · exact hmark ▸ List.cons_ne_nil _ _
  · simp only [List.map_cons, List.map_map, Function.comp_def]

theorem unformatFlowed_formatFlowedQuote_blank :
    unformatFlowed (String.ofList ((formatFlowedQuote "a\n\nb ").toList.filter (· ≠ '\r'))) false =
      "> a\n>\n> b" :=
  (unformatFlowed_formatFlowedQuote "a\n\nb " (by decide)).trans (by decide)

end EpsilonChat.Flowed
