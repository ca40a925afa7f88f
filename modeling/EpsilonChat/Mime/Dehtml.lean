import EpsilonChat.Lib.Join
import EpsilonChat.Mime.Simplify

/-!
# De-HTML

`dehtml_quick_xml` runs over the events of the XML reader and writes the text into one of two
buffers, the text and the quote.  What must not be shown is left out in two ways: the COUNTERS of open
`div`s, and the MODE `add_text`, which `style`, `script` and `title` switch off and many other tags
switch on again.  Links look at neither.

* `step`: one event;
* `dehtml`: the text and the quote, cleaned up; a text without any is stripped by hand;
* `Quiet`: what a step must meet to write nothing but newlines, judged on the state before it;
* `step_quiet`, `step_disturbs`: it is exact;
* **`quiet_iff`**: a run writes nothing but newlines, at every point, IFF all its steps are quiet.
-/

set_option linter.dupNamespace false

namespace EpsilonChat.Dehtml
open Lib Text

/-! ## the reader's events -/

inductive Tag where
  | p | table | td | div | br | style | script | title | pre | a | b | strong | i | em | blockquote
  | other
  deriving DecidableEq, Repr

def Tag.ofName : String → Tag
  | "p" => .p
  | "table" => .table
  | "td" => .td
  | "div" => .div
  | "br" => .br
  | "style" => .style
  | "script" => .script
  | "title" => .title
  | "pre" => .pre
  | "a" => .a
  | "b" => .b
  | "strong" => .strong
  | "i" => .i
  | "em" => .em
  | "blockquote" => .blockquote
  | _ => .other

abbrev Attribute := String × Option String

structure BytesStart where
  name : String
  attributes : List (Option Attribute) := []
  /-- as `html_attributes` reads them -/
  htmlAttributes : List (Option Attribute) := []

inductive GeneralRef where
  | error
  | char (c : Char)
  /-- the name, and what `resolve_html5_entity` knows of it -/
  | entity (name : String) (resolved : Option String)

inductive Event where
  | start (e : BytesStart)
  | close (name : String)
  | text (s : String)
  | cData (s : String)
  /-- `<p/>` -/
  | empty (e : BytesStart)
  | generalRef (r : GeneralRef)
  /-- no HTML at all; what was read -/
  | illFormed (buf : String)
  | error
  | other

/-! ## the state -/

inductive AddText where
  | no
  | yesRemoveLineEnds
  | yesPreserveLineEnds
  deriving DecidableEq, Repr

/-- the counters are `u32` -/
structure Dehtml where
  strbuilder : List Char := []
  quote : List Char := []
  addText : AddText := .yesRemoveLineEnds
  lastHref : Option String := none
  divsSinceQuoteDiv : ℕ := 0
  divsSinceQuotedContentDiv : ℕ := 0
  divsSinceHpLegacyDisplay : ℕ := 0
  blockquotesSinceBlockquote : ℕ := 0
  deriving DecidableEq

def isQuote (s : Dehtml) : Bool :=
  0 < s.divsSinceQuotedContentDiv || 0 < s.blockquotesSinceBlockquote

def getBuf (s : Dehtml) : List Char := if isQuote s then s.quote else s.strbuilder

/-- `*get_buf() = buf` -/
def setBuf (s : Dehtml) (buf : List Char) : Dehtml :=
  if isQuote s then { s with quote := buf } else { s with strbuilder := buf }

/-- `*get_buf() += x` -/
def push (s : Dehtml) (x : List Char) : Dehtml := setBuf s (getBuf s ++ x)

def getAddText (s : Dehtml) : AddText :=
  if 0 < s.divsSinceQuoteDiv && s.divsSinceQuotedContentDiv == 0 || 0 < s.divsSinceHpLegacyDisplay then
    .no
  else s.addText

def popTag (count : ℕ) : ℕ := if 0 < count then count - 1 else count

def tagContainsAttr (e : BytesStart) (name : String) : Bool :=
  e.attributes.any fun attr => attr.any fun attr => attr.2 == some name

/-- `+= 1` wraps around in a release build -/
def maybePushTag (e : BytesStart) (tagName : String) (count : ℕ) : ℕ :=
  if 0 < count ∨ tagContainsAttr e tagName then (count + 1) % 2 ^ 32 else count

/-- every run of line ends, as `(\r?\n)+` finds them, becomes `rep` -/
def replaceLineEnds (rep : List Char) (inRun : Bool) : List Char → List Char
  | [] => []
  | '\n' :: cs => (if inRun then [] else rep) ++ replaceLineEnds rep true cs
  | '\r' :: '\n' :: cs => (if inRun then [] else rep) ++ replaceLineEnds rep true cs
  | c :: cs => c :: replaceLineEnds rep false cs

def oneLine (eventStr : String) : List Char := replaceLineEnds [' '] false eventStr.toList

def endsBlank (buf : List Char) : Bool := buf.getLast? == some ' ' || buf.getLast? == some '\n'

def strCb (eventStr : String) (s : Dehtml) : Dehtml :=
  match getAddText s with
  | .no => s
  | .yesRemoveLineEnds =>
    let line := oneLine eventStr
    let s := if !endsBlank (getBuf s) && line.head? == some ' ' then push s [' '] else s
    push s (trimStart line)
  | .yesPreserveLineEnds => push s (replaceLineEnds ['\n'] false eventStr.toList)

def textCb (eventStr : String) (s : Dehtml) : Dehtml :=
  if getAddText s = .yesPreserveLineEnds ∨ getAddText s = .yesRemoveLineEnds then strCb eventStr s
  else s

section
variable (toLowercase : String → String)

def tagName (name : String) : String := toLowercase (trim name)

def tagOf (name : String) : Tag := Tag.ofName (tagName toLowercase name)

def linkTarget (e : BytesStart) : Option String :=
  match (e.htmlAttributes.filterMap id).find? fun attr => tagName toLowercase attr.1 == "href" with
  | none => none
  | some href => if href.2.getD "" = "" then none else some (href.2.getD "")

def starttagCb (e : BytesStart) (s : Dehtml) : Dehtml :=
  match tagOf toLowercase e.name with
  | .p | .table | .td =>
    let s := if s.strbuilder.isEmpty then s else push s ['\n', '\n']
    { s with addText := .yesRemoveLineEnds }
  | .div =>
    let s := { s with
      divsSinceQuoteDiv := maybePushTag e "quote" s.divsSinceQuoteDiv
      divsSinceQuotedContentDiv := maybePushTag e "quoted-content" s.divsSinceQuotedContentDiv
      divsSinceHpLegacyDisplay :=
        maybePushTag e "header-protection-legacy-display" s.divsSinceHpLegacyDisplay }
    { push s ['\n', '\n'] with addText := .yesRemoveLineEnds }
  | .br => { push s ['\n'] with addText := .yesRemoveLineEnds }
  | .style | .script | .title => { s with addText := .no }
  | .pre => { push s ['\n', '\n'] with addText := .yesPreserveLineEnds }
  | .a =>
    match linkTarget toLowercase e with
    | some href => push { s with lastHref := some href } ['[']
    | none => s
  | .b | .strong => if getAddText s ≠ .no then push s ['*'] else s
  | .i | .em => if getAddText s ≠ .no then push s ['_'] else s
  | .blockquote => { s with blockquotesSinceBlockquote := (s.blockquotesSinceBlockquote + 1) % 2 ^ 32 }
  | .other => s

def endtagCb (name : String) (s : Dehtml) : Dehtml :=
  match tagOf toLowercase name with
  | .style | .script | .title | .pre =>
    { push s ['\n', '\n'] with addText := .yesRemoveLineEnds }
  | .div =>
    let s := { s with
      divsSinceQuoteDiv := popTag s.divsSinceQuoteDiv
      divsSinceQuotedContentDiv := popTag s.divsSinceQuotedContentDiv
      divsSinceHpLegacyDisplay := popTag s.divsSinceHpLegacyDisplay }
    { push s ['\n', '\n'] with addText := .yesRemoveLineEnds }
  | .a =>
    match s.lastHref with
    | none => s
    | some lastHref =>
      let s := { s with lastHref := none }
      if (getBuf s).getLast? = some '[' then setBuf s (getBuf s).dropLast
      else push s ([']', '('] ++ lastHref.toList ++ [')'])
  | .b | .strong => if getAddText s ≠ .no then push s ['*'] else s
  | .i | .em => if getAddText s ≠ .no then push s ['_'] else s
  | .blockquote => { s with blockquotesSinceBlockquote := popTag s.blockquotesSinceBlockquote }
  | .p | .table | .td | .br | .other => s

def GeneralRef.str : GeneralRef → Option String
  | .error => none
  | .char c => some (String.singleton c)
  | .entity _ (some s) => some s
  | .entity name none => some ("&" ++ name ++ ";")

/-- one turn of the loop of `dehtml_quick_xml` -/
def step (s : Dehtml) : Event → Dehtml
  | .start e => starttagCb toLowercase e s
  | .close name => endtagCb toLowercase name s
  | .text eventStr => textCb eventStr s
  | .cData eventStr => strCb eventStr s
  | .empty e => endtagCb toLowercase e.name (starttagCb toLowercase e s)
  | .generalRef r =>
    match r.str with
    | some eventStr => strCb eventStr s
    | none => s
  | .illFormed buf => strCb buf s
  | .error => s
  | .other => s

/-- `trim_start_matches("<!doctype html>")` -/
def trimDoctype : ℕ → List Char → List Char
  | 0, cs => cs
  | n + 1, cs =>
    if "<!doctype html>".toList <+: cs then trimDoctype n (cs.drop 15) else cs

/-- `reader` is the XML reader: the events of a text, up to its end -/
def dehtmlQuickXml (reader : String → List Event) (buf : String) : String × String :=
  let buf := trimDoctype buf.length (trim buf).toList
  let s := (reader (String.ofList buf)).foldl (step toLowercase) {}
  (String.ofList s.strbuilder, String.ofList s.quote)

def cleanupLoop (text : List Char) (linebreak : Bool) : List (List Char) → List Char
  | [] => text
  | line :: lines =>
    if line.all isWhitespace then cleanupLoop text true lines
    else
      let text := if text.isEmpty then text
        else text ++ '\n' :: (if linebreak then ['\n'] else [])
      cleanupLoop (text ++ trimEnd line) false lines

def dehtmlCleanup (text : List Char) : List Char :=
  cleanupLoop [] false ((trimEnd (trimStart (text.filter (· ≠ '\r')))).splitOn '\n')

def manuallyLoop (show_ : Bool) : List Char → List Char
  | [] => []
  | '<' :: cs => manuallyLoop false cs
  | '>' :: cs => manuallyLoop true cs
  | c :: cs => if show_ then c :: manuallyLoop show_ cs else manuallyLoop show_ cs

def dehtmlManually (buf : String) : List Char := manuallyLoop true buf.toList

def dehtml (reader : String → List Event) (buf : String) : Option Simplify.SimplifiedText :=
  let (s, quote) := dehtmlQuickXml toLowercase reader buf
  if trim s ≠ "" then
    let topQuote := if trim quote ≠ "" then
      some (String.ofList (dehtmlCleanup (Simplify.simplifyQuote quote.toList).1)) else none
    some { text := String.ofList (dehtmlCleanup s.toList), isForwarded := false, isCut := false
           topQuote, footer := none }
  else
    let s := dehtmlManually buf
    if trim (String.ofList s) ≠ "" then
      some { text := String.ofList (dehtmlCleanup s), isForwarded := false, isCut := false
             topQuote := none, footer := none }
    else none

end

/-! ## nothing but newlines -/

def Newlines (b b' : List Char) : Prop := ∃ n, b' = b ++ List.replicate n '\n'

def Disturbed (b b' : List Char) : Prop :=
  (∃ x, (∃ c ∈ x, c ≠ '\n') ∧ b' = b ++ x) ∨ b.getLast? = some '[' ∧ b' = b.dropLast

def OnlyNewlines (s s' : Dehtml) : Prop :=
  Newlines s.strbuilder s'.strbuilder ∧ Newlines s.quote s'.quote

def Disturbs (s s' : Dehtml) : Prop :=
  Disturbed s.strbuilder s'.strbuilder ∨ Disturbed s.quote s'.quote

section
variable {b b' b'' : List Char} {s s' s'' : Dehtml}

theorem Newlines.refl (b : List Char) : Newlines b b := ⟨0, (List.append_nil b).symm⟩

theorem Newlines.trans (h : Newlines b b') (h' : Newlines b' b'') : Newlines b b'' := by
  obtain ⟨m, rfl⟩ := h
  obtain ⟨n, rfl⟩ := h'
  exact ⟨m + n, by rw [List.append_assoc, List.replicate_append_replicate]⟩

theorem Disturbed.not_newlines (h : Newlines b b') (hd : Disturbed b' b'') : ¬ Newlines b b'' := by
  obtain ⟨m, rfl⟩ := h
  rintro ⟨n, hn⟩
  rcases hd with ⟨x, ⟨c, hc, hne⟩, rfl⟩ | ⟨hlast, rfl⟩
  · rw [List.append_assoc, List.append_cancel_left_eq] at hn
    have hmem : c ∈ List.replicate n '\n' := hn ▸ List.mem_append_right _ hc
    exact hne (List.eq_of_mem_replicate hmem)
  · cases m with
    | zero =>
      rw [List.replicate_zero, List.append_nil] at hlast hn
      have hpos : b ≠ [] := by
        rintro rfl
        cases hlast
      have hlen := congrArg List.length hn
      rw [List.length_dropLast, List.length_append] at hlen
      have := List.length_pos_of_ne_nil hpos
      omega
    | succ m =>
      rw [List.replicate_succ', ← List.append_assoc, List.getLast?_concat] at hlast
      cases hlast

theorem OnlyNewlines.refl (s : Dehtml) : OnlyNewlines s s := ⟨.refl _, .refl _⟩

theorem OnlyNewlines.trans (h : OnlyNewlines s s') (h' : OnlyNewlines s' s'') :
    OnlyNewlines s s'' := ⟨h.1.trans h'.1, h.2.trans h'.2⟩

theorem Disturbs.not_onlyNewlines (h : OnlyNewlines s s') (hd : Disturbs s' s'') :
    ¬ OnlyNewlines s s'' := by
  intro h'
  rcases hd with hd | hd
  · exact hd.not_newlines h.1 h'.1
  · exact hd.not_newlines h.2 h'.2

theorem onlyNewlines_setBuf (h : Newlines (getBuf s) b) : OnlyNewlines s (setBuf s b) := by
  unfold getBuf at h
  unfold setBuf
  cases hq : isQuote s with
  | true => exact ⟨.refl _, by simpa [hq] using h⟩
  | false => exact ⟨by simpa [hq] using h, .refl _⟩

theorem disturbs_setBuf (h : Disturbed (getBuf s) b) : Disturbs s (setBuf s b) := by
  unfold getBuf at h
  unfold setBuf
  cases hq : isQuote s with
  | true => exact .inr (by simpa [hq] using h)
  | false => exact .inl (by simpa [hq] using h)

theorem onlyNewlines_push (s : Dehtml) (n : ℕ) :
    OnlyNewlines s (push s (List.replicate n '\n')) := onlyNewlines_setBuf ⟨n, rfl⟩

theorem disturbs_push (s : Dehtml) {x : List Char} (h : ∃ c ∈ x, c ≠ '\n') :
    Disturbs s (push s x) := disturbs_setBuf (.inl ⟨x, h, rfl⟩)

end

/-! ## one step -/

def Tag.marks : Tag → Bool
  | .b | .strong | .i | .em => true
  | _ => false

def Blank (eventStr : String) (s : Dehtml) : Prop :=
  match getAddText s with
  | .no => True
  | .yesRemoveLineEnds =>
    trimStart (oneLine eventStr) = [] ∧
      ((oneLine eventStr).head? = some ' ' → endsBlank (getBuf s) = true)
  | .yesPreserveLineEnds => ∀ c ∈ replaceLineEnds ['\n'] false eventStr.toList, c = '\n'

section
variable (toLowercase : String → String)

def LinkQuiet (s : Dehtml) : Event → Prop
  | .start e => tagOf toLowercase e.name = .a → linkTarget toLowercase e = none
  | .close name => tagOf toLowercase name = .a → s.lastHref = none
  -- the bracket is taken back at once
  | .empty e => tagOf toLowercase e.name = .a →
      (linkTarget toLowercase e).isSome ∨ s.lastHref = none
  | _ => True

def TextQuiet (s : Dehtml) : Event → Prop
  | .start e => (tagOf toLowercase e.name).marks → getAddText s = .no
  | .close name => (tagOf toLowercase name).marks → getAddText s = .no
  | .empty e => (tagOf toLowercase e.name).marks → getAddText s = .no
  | .text eventStr => Blank eventStr s
  | .cData eventStr => Blank eventStr s
  | .generalRef r => ∀ eventStr, r.str = some eventStr → Blank eventStr s
  | .illFormed buf => Blank buf s
  | .error => True
  | .other => True

def Quiet (s : Dehtml) (e : Event) : Prop := LinkQuiet toLowercase s e ∧ TextQuiet toLowercase s e

end

section
variable {toLowercase : String → String} {s : Dehtml} {eventStr name : String} {e : BytesStart}

theorem textCb_eq_strCb (eventStr : String) (s : Dehtml) : textCb eventStr s = strCb eventStr s := by
  unfold textCb strCb
  cases getAddText s <;> simp

theorem trimStart_cases (cs : List Char) :
    trimStart cs = [] ∨ ∃ c ∈ trimStart cs, c ≠ '\n' := by
  cases h : trimStart cs with
  | nil => exact .inl rfl
  | cons c rest =>
    have hc : isWhitespace c = false := by
      have hhead := List.head?_dropWhile_not isWhitespace cs
      rw [show cs.dropWhile isWhitespace = c :: rest from h] at hhead
      simpa using hhead
    refine .inr ⟨c, List.mem_cons_self, ?_⟩
    rintro rfl
    exact absurd hc (by decide)

theorem exists_ne_of_not_forall {cs : List Char} (h : ¬ ∀ c ∈ cs, c = '\n') :
    ∃ c ∈ cs, c ≠ '\n' := by
  push Not at h
  exact h

theorem strCb_blank (h : Blank eventStr s) : OnlyNewlines s (strCb eventStr s) := by
  unfold Blank at h
  unfold strCb
  cases hmode : getAddText s with
  | no => exact .refl s
  | yesRemoveLineEnds =>
    rw [hmode] at h
    obtain ⟨htrim, hhead⟩ := h
    have hpad : (!endsBlank (getBuf s) && (oneLine eventStr).head? == some ' ') = false := by
      cases hh : (oneLine eventStr).head? == some ' ' with
      | false => exact Bool.and_false _
      | true => rw [hhead (eq_of_beq hh)]; rfl
    dsimp only
    rw [hpad, htrim]
    exact onlyNewlines_push s 0
  | yesPreserveLineEnds =>
    rw [hmode] at h
    dsimp only at h ⊢
    rw [List.eq_replicate_of_mem h]
    exact onlyNewlines_push s _

theorem push_append (s : Dehtml) (x y : List Char) : push (push s x) y = push s (x ++ y) := by
  unfold push setBuf getBuf
  cases hq : isQuote s with
  | true =>
    have hq' : ∀ q, isQuote { s with quote := q } = true := fun _ => hq
    simp [hq']
  | false =>
    have hq' : ∀ q, isQuote { s with strbuilder := q } = false := fun _ => hq
    simp [hq']

theorem strCb_disturbs (h : ¬ Blank eventStr s) : Disturbs s (strCb eventStr s) := by
  unfold Blank at h
  unfold strCb
  cases hmode : getAddText s with
  | no =>
    rw [hmode] at h
    exact absurd trivial h
  | yesRemoveLineEnds =>
    rw [hmode] at h
    dsimp only at h ⊢
    split
    · -- the space before the text
      rw [push_append]
      exact disturbs_push s ⟨' ', List.mem_cons_self, by decide⟩
    · next hpad =>
      rcases trimStart_cases (oneLine eventStr) with htrim | hvisible
      · refine absurd ⟨htrim, ?_⟩ h
        intro hhead
        simpa [hhead] using hpad
      · exact disturbs_push s hvisible
  | yesPreserveLineEnds =>
    rw [hmode] at h
    exact disturbs_push s (exists_ne_of_not_forall h)

@[simp] theorem getAddText_push (s : Dehtml) (x : List Char) :
    getAddText (push s x) = getAddText s := by
  unfold push setBuf
  split <;> rfl

theorem starttagCb_quiet (hlink : LinkQuiet toLowercase s (.start e))
    (htext : TextQuiet toLowercase s (.start e)) : OnlyNewlines s (starttagCb toLowercase e s) := by
  unfold LinkQuiet at hlink
  unfold TextQuiet at htext
  unfold starttagCb
  cases htag : tagOf toLowercase e.name with
  | p | table | td =>
    dsimp only
    split
    · exact .refl s
    · exact onlyNewlines_push s 2
  | div => exact onlyNewlines_push { s with
      divsSinceQuoteDiv := _, divsSinceQuotedContentDiv := _, divsSinceHpLegacyDisplay := _ } 2
  | br => exact onlyNewlines_push s 1
  | pre => exact onlyNewlines_push s 2
  | a =>
    rw [hlink htag]
    exact .refl s
  | b | strong | i | em =>
    have hno : getAddText s = .no := htext (by rw [htag]; rfl)
    dsimp only
    rw [if_neg (not_not.mpr hno)]
    exact .refl s
  | style | script | title | blockquote | other => exact .refl s

theorem endtagCb_quiet (hlink : LinkQuiet toLowercase s (.close name))
    (htext : TextQuiet toLowercase s (.close name)) : OnlyNewlines s (endtagCb toLowercase name s) := by
  unfold LinkQuiet at hlink
  unfold TextQuiet at htext
  unfold endtagCb
  cases htag : tagOf toLowercase name with
  | style | script | title | pre => exact onlyNewlines_push s 2
  | div => exact onlyNewlines_push { s with
      divsSinceQuoteDiv := _, divsSinceQuotedContentDiv := _, divsSinceHpLegacyDisplay := _ } 2
  | a =>
    rw [hlink htag]
    exact .refl s
  | b | strong | i | em =>
    have hno : getAddText s = .no := htext (by rw [htag]; rfl)
    dsimp only
    rw [if_neg (not_not.mpr hno)]
    exact .refl s
  | p | table | td | br | blockquote | other => exact .refl s

theorem starttagCb_marks (h : (tagOf toLowercase e.name).marks = true) (hshown : getAddText s ≠ .no) :
    ∃ c, c ≠ '\n' ∧ starttagCb toLowercase e s = push s [c] := by
  unfold starttagCb
  cases htag : tagOf toLowercase e.name with
  | b | strong => exact ⟨'*', by decide, if_pos hshown⟩
  | i | em => exact ⟨'_', by decide, if_pos hshown⟩
  | _ => rw [htag] at h; cases h

theorem endtagCb_marks (h : (tagOf toLowercase name).marks = true) (hshown : getAddText s ≠ .no) :
    ∃ c, c ≠ '\n' ∧ endtagCb toLowercase name s = push s [c] := by
  unfold endtagCb
  cases htag : tagOf toLowercase name with
  | b | strong => exact ⟨'*', by decide, if_pos hshown⟩
  | i | em => exact ⟨'_', by decide, if_pos hshown⟩
  | _ => rw [htag] at h; cases h

theorem disturbs_singleton {c : Char} (hc : c ≠ '\n') (s : Dehtml) : Disturbs s (push s [c]) :=
  disturbs_push s ⟨c, List.mem_singleton_self c, hc⟩

theorem starttagCb_link (htag : tagOf toLowercase e.name = .a) :
    starttagCb toLowercase e s =
      match linkTarget toLowercase e with
      | some href => push { s with lastHref := some href } ['[']
      | none => s := by
  unfold starttagCb
  rw [htag]

theorem endtagCb_link (htag : tagOf toLowercase name = .a) {href : String}
    (hhref : s.lastHref = some href) : Disturbs s (endtagCb toLowercase name s) := by
  unfold endtagCb
  rw [htag, hhref]
  dsimp only
  split
  · next hlast => exact disturbs_setBuf (s := { s with lastHref := none }) (.inr ⟨hlast, rfl⟩)
  · exact disturbs_push { s with lastHref := none } ⟨']', List.mem_cons_self, by decide⟩

theorem link_taken_back (s : Dehtml) (htag : tagOf toLowercase name = .a) (href : String) :
    endtagCb toLowercase name (push { s with lastHref := some href } ['[']) =
      { s with lastHref := none } := by
  unfold endtagCb push setBuf getBuf
  rw [htag]
  cases hq : isQuote s with
  | true =>
    have hq' : ∀ q h, isQuote { s with quote := q, lastHref := h } = true := fun _ _ => hq
    simp [hq']
  | false =>
    have hq' : ∀ q h, isQuote { s with strbuilder := q, lastHref := h } = false := fun _ _ => hq
    simp [hq']

theorem empty_quiet (hlink : LinkQuiet toLowercase s (.empty e))
    (htext : TextQuiet toLowercase s (.empty e)) :
    OnlyNewlines s (endtagCb toLowercase e.name (starttagCb toLowercase e s)) := by
  by_cases htag : tagOf toLowercase e.name = .a
  · rw [starttagCb_link htag]
    cases htarget : linkTarget toLowercase e with
    | some href =>
      dsimp only
      rw [link_taken_back s htag href]
      exact .refl s
    | none =>
      have hnone : s.lastHref = none := by
        rcases hlink htag with h | h
        · rw [htarget] at h
          cases h
        · exact h
      exact endtagCb_quiet (fun _ => hnone) htext
  · have hstart : OnlyNewlines s (starttagCb toLowercase e s) :=
      starttagCb_quiet (fun h => absurd h htag) htext
    refine hstart.trans (endtagCb_quiet (fun h => absurd h htag) ?_)
    intro hmarks
    -- such a start tag writes nothing where no text is shown
    have hno : getAddText s = .no := htext hmarks
    have hsame : starttagCb toLowercase e s = s := by
      unfold starttagCb
      cases htag' : tagOf toLowercase e.name with
      | b | strong | i | em => exact if_neg (not_not.mpr hno)
      | _ => exact absurd hmarks (by rw [htag']; decide)
    rw [hsame]
    exact hno

theorem step_quiet {ev : Event} (h : Quiet toLowercase s ev) :
    OnlyNewlines s (step toLowercase s ev) := by
  obtain ⟨hlink, htext⟩ := h
  cases ev with
  | start e => exact starttagCb_quiet hlink htext
  | close name => exact endtagCb_quiet hlink htext
  | text eventStr =>
    rw [step, textCb_eq_strCb]
    exact strCb_blank htext
  | cData eventStr => exact strCb_blank htext
  | empty e => exact empty_quiet hlink htext
  | generalRef r =>
    rw [step]
    cases hstr : r.str with
    | none => exact .refl s
    | some eventStr => exact strCb_blank (htext eventStr hstr)
  | illFormed buf => exact strCb_blank htext
  | error => exact .refl s
  | other => exact .refl s

theorem starttagCb_disturbs
    (h : ¬ LinkQuiet toLowercase s (.start e) ∨ ¬ TextQuiet toLowercase s (.start e)) :
    Disturbs s (starttagCb toLowercase e s) := by
  rcases h with h | h
  · obtain ⟨htag, htarget⟩ := Classical.not_imp.mp h
    obtain ⟨href, hhref⟩ := Option.ne_none_iff_exists'.mp htarget
    rw [starttagCb_link htag, hhref]
    exact disturbs_singleton (by decide) { s with lastHref := some href }
  · obtain ⟨hmarks, hshown⟩ := Classical.not_imp.mp h
    obtain ⟨c, hc, hpush⟩ := starttagCb_marks hmarks hshown
    rw [hpush]
    exact disturbs_singleton hc s

theorem endtagCb_disturbs
    (h : ¬ LinkQuiet toLowercase s (.close name) ∨ ¬ TextQuiet toLowercase s (.close name)) :
    Disturbs s (endtagCb toLowercase name s) := by
  rcases h with h | h
  · obtain ⟨htag, hlast⟩ := Classical.not_imp.mp h
    obtain ⟨href, hhref⟩ := Option.ne_none_iff_exists'.mp hlast
    exact endtagCb_link htag hhref
  · obtain ⟨hmarks, hshown⟩ := Classical.not_imp.mp h
    obtain ⟨c, hc, hpush⟩ := endtagCb_marks hmarks hshown
    rw [hpush]
    exact disturbs_singleton hc s

theorem empty_disturbs
    (h : ¬ LinkQuiet toLowercase s (.empty e) ∨ ¬ TextQuiet toLowercase s (.empty e)) :
    Disturbs s (endtagCb toLowercase e.name (starttagCb toLowercase e s)) := by
  rcases h with h | h
  · obtain ⟨htag, hnot⟩ := Classical.not_imp.mp h
    rw [not_or, Option.not_isSome_iff_eq_none] at hnot
    obtain ⟨href, hhref⟩ := Option.ne_none_iff_exists'.mp hnot.2
    rw [starttagCb_link htag, hnot.1]
    exact endtagCb_link htag hhref
  · obtain ⟨hmarks, hshown⟩ := Classical.not_imp.mp h
    obtain ⟨c, hc, hpush⟩ := starttagCb_marks hmarks hshown
    obtain ⟨c', -, hpush'⟩ := endtagCb_marks (s := push s [c]) hmarks
      (by rw [getAddText_push]; exact hshown)
    rw [hpush, hpush', push_append]
    exact disturbs_push s ⟨c, List.mem_cons_self, hc⟩

theorem step_disturbs {ev : Event} (h : ¬ Quiet toLowercase s ev) :
    Disturbs s (step toLowercase s ev) := by
  rw [Quiet, not_and_or] at h
  cases ev with
  | start e => exact starttagCb_disturbs h
  | close name => exact endtagCb_disturbs h
  | text eventStr =>
    rw [step, textCb_eq_strCb]
    exact strCb_disturbs (h.resolve_left (not_not.mpr trivial))
  | cData eventStr => exact strCb_disturbs (h.resolve_left (not_not.mpr trivial))
  | empty e => exact empty_disturbs h
  | generalRef r =>
    have h' := h.resolve_left (not_not.mpr trivial)
    unfold TextQuiet at h'
    push Not at h'
    obtain ⟨eventStr, hstr, hblank⟩ := h'
    rw [step, hstr]
    exact strCb_disturbs hblank
  | illFormed buf => exact strCb_disturbs (h.resolve_left (not_not.mpr trivial))
  | error => exact absurd trivial (h.resolve_left (not_not.mpr trivial))
  | other => exact absurd trivial (h.resolve_left (not_not.mpr trivial))

end

/-! ## runs -/

section
variable {toLowercase : String → String} {s s₀ : Dehtml} {events : List Event}

theorem quiet_run_iff (h₀ : OnlyNewlines s₀ s) (events : List Event) :
    (∀ pre, pre <+: events → OnlyNewlines s₀ (pre.foldl (step toLowercase) s)) ↔
      RunOk (step toLowercase) (Quiet toLowercase) s events := by
  induction events generalizing s with
  | nil =>
    refine iff_of_true ?_ trivial
    intro pre hpre
    rw [List.prefix_nil.mp hpre]
    exact h₀
  | cons ev events ih =>
    constructor
    · intro h
      have hstep : OnlyNewlines s₀ (step toLowercase s ev) :=
        h [ev] (List.prefix_append [ev] events)
      have hquiet : Quiet toLowercase s ev := by
        by_contra hnot
        exact (step_disturbs hnot).not_onlyNewlines h₀ hstep
      refine ⟨hquiet, (ih hstep).mp ?_⟩
      intro pre hpre
      exact h (ev :: pre) (List.cons_prefix_cons.mpr ⟨rfl, hpre⟩)
    · rintro ⟨hquiet, hrest⟩ pre hpre
      rcases List.prefix_cons_iff.mp hpre with rfl | ⟨pre', rfl, hpre'⟩
      · exact h₀
      · exact (ih (h₀.trans (step_quiet hquiet))).mpr hrest pre' hpre'

/-- **A run writes nothing but newlines, at every point, IFF all its steps are quiet.** -/
theorem quiet_iff (s : Dehtml) (events : List Event) :
    (∀ pre, pre <+: events → OnlyNewlines s (pre.foldl (step toLowercase) s)) ↔
      RunOk (step toLowercase) (Quiet toLowercase) s events :=
  quiet_run_iff (.refl s) events

end

end EpsilonChat.Dehtml
