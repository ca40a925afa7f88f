import EpsilonChat.Contact.Vcard
import EpsilonChat.Mime.Dehtml
import EpsilonChat.Mime.Flowed
import EpsilonChat.Tools.Truncate

/-!
# Text parts

A part `text/plain` or `text/html` is shown after `simplify` or `dehtml`, without the headers that a
mail with protected headers repeats at the top of its text, unflowed, and cut if it is too long.

* `textPart`: the text branch of `add_single_part_if_known`;
* `rmLegacyDisplayElements`: the headers at the top go, up to an empty line;
* `rmLegacyDisplayElements_eq`: what it returns: the lines after the LAST empty line;
* `withoutLegacyDisplay`: what is meant: everything after the FIRST one;
* **`rmLegacyDisplayElements_iff`**: they are the same IFF the message has one paragraph.
-/

namespace EpsilonChat.TextPart
open Lib Text Simplify

def displayStep (res : Option (List Char)) (l : Line) : Option (List Char) :=
  let res := res.map fun r => if r.isEmpty then l else r ++ ['\r', '\n'] ++ l
  if l.isEmpty then some [] else res

def rmLegacyDisplayElements (text : String) : String :=
  String.ofList (((Vcard.lines text.toList).foldl displayStep none).getD [])

/-! ## the whole text -/

def desiredTextLines : ℕ := 38
def desiredTextLineLen : ℕ := 100

def truncateMsgText (bot : Bool) (text : String) : String × Bool :=
  if bot then (text, false)
  else
    let r := Tools.truncateByLines text.toList desiredTextLines desiredTextLineLen
    (String.ofList r.1, r.2)

inductive TextSubtype where
  | plain
  /-- `text/plain+…` -/
  | plainWithSuffix
  | html
  | other
  deriving DecidableEq, Repr

structure TextMail where
  subtype : TextSubtype
  format : Option String := none
  delsp : Option String := none
  hpLegacyDisplay : Option String := none
  body : String

structure Shown where
  text : String
  quote : Option String
  added : Bool
  dehtmlFailed : Bool
  mimeModified : Bool
  isForwarded : Bool
  footer : Option String

def eqIgnoreAsciiCase (s t : String) : Bool := asciiLowercase s == asciiLowercase t

section
variable (toLowercase : String → String) (reader : String → List Dehtml.Event)

def plainText (text : String) : SimplifiedText :=
  { text, isForwarded := false, isCut := false, topQuote := none, footer := none }

def simplified (hasChatVersion : Bool) (mail : TextMail) : SimplifiedText × Bool :=
  if mail.body = "" then (plainText "", false)
  else if mail.subtype = .html then
    match Dehtml.dehtml toLowercase reader mail.body with
    | some text => (text, false)
    | none => (plainText mail.body, true)
  else (simplify mail.body hasChatVersion, false)

def unflowed (mail : TextMail) (text : String) (topQuote : Option String) :
    String × Option String :=
  if mail.subtype = .plain ∨ mail.subtype = .plainWithSuffix then
    let text := if mail.hpLegacyDisplay = some "1" then rmLegacyDisplayElements text else text
    if mail.format.any (eqIgnoreAsciiCase "flowed") then
      let delsp := mail.delsp.any (eqIgnoreAsciiCase "yes")
      (Flowed.unformatFlowed text delsp, topQuote.map fun q => Flowed.unformatFlowed q delsp)
    else (text, topQuote)
  else (text, topQuote)

def textPart (hasChatVersion bot : Bool) (mail : TextMail) : Shown :=
  let (s, dehtmlFailed) := simplified toLowercase reader hasChatVersion mail
  let isHtml := mail.subtype = .html ∧ mail.body ≠ ""
  let u := unflowed mail s.text s.topQuote
  let t := truncateMsgText bot u.1
  { text := t.1, quote := u.2
    added := t.1 ≠ "" || u.2.isSome
    dehtmlFailed
    mimeModified := isHtml ||
      ((s.isForwarded || s.isCut || s.topQuote.isSome) && !hasChatVersion) || t.2
    isForwarded := s.isForwarded
    footer := if mail.subtype = .plain then some (s.footer.getD "") else none }

end

/-! ## the lines after the last empty one -/

/-- everything after the first empty line, without leading empty lines -/
def messageLines (lines : List Line) : List Line :=
  (lines.dropWhile fun l => l ≠ []).dropWhile fun l => l = []

/-- the text without its first paragraph, which repeats headers -/
def withoutLegacyDisplay (text : String) : String :=
  String.ofList (['\r', '\n'].intercalate (messageLines (Vcard.lines text.toList)))

def lastLines (lines : List Line) : List Line :=
  if [] ∈ lines then lines.rtakeWhile fun l => l ≠ [] else []

section
variable {l : Line} {ls : List Line}

theorem lastLines_concat_nil (ls : List Line) : lastLines (ls ++ [[]]) = [] := by
  have hmem : [] ∈ ls ++ [[]] := List.mem_append_right _ (List.mem_singleton_self _)
  unfold lastLines
  rw [if_pos hmem, List.rtakeWhile_concat_neg _ _ _ (by simp)]

theorem lastLines_concat (hmem : [] ∈ ls) (hl : l ≠ []) :
    lastLines (ls ++ [l]) = lastLines ls ++ [l] := by
  unfold lastLines
  rw [if_pos hmem, if_pos (List.mem_append_left _ hmem),
    List.rtakeWhile_concat_pos _ _ _ (by simpa using hl)]

theorem mem_lastLines (h : l ∈ lastLines ls) : l ≠ [] := by
  unfold lastLines at h
  split at h
  · simpa using List.mem_rtakeWhile_imp h
  · cases h

theorem foldl_displayStep (ls : List Line) : ls.foldl displayStep none =
    if [] ∈ ls then some (['\r', '\n'].intercalate (lastLines ls)) else none := by
  induction ls using List.reverseRecOn with
  | nil => rfl
  | append_singleton ls l ih =>
    rw [List.foldl_append, ih, List.foldl_cons, List.foldl_nil]
    rcases eq_or_ne l [] with rfl | hl
    · rw [if_pos (List.mem_append_right _ (List.mem_singleton_self _)), lastLines_concat_nil]
      rfl
    · have hempty : l.isEmpty = false := by simpa using hl
      unfold displayStep
      rw [hempty]
      by_cases hmem : [] ∈ ls
      · rw [if_pos hmem, if_pos (List.mem_append_left _ hmem), lastLines_concat hmem hl]
        rcases eq_or_ne (lastLines ls) [] with he | he
        · rw [he, List.nil_append, List.intercalate_singleton]
          rfl
        · -- some line was kept already
          have hne : ['\r', '\n'].intercalate (lastLines ls) ≠ [] :=
            fun h => he (Split.eq_nil_of_intercalate (fun l => mem_lastLines) h)
          rw [Split.intercalate_concat he]
          simp [hne]
      · have hmem' : [] ∉ ls ++ [l] := by
          rw [List.mem_append, List.mem_singleton]
          rintro (h | h)
          · exact hmem h
          · exact hl h.symm
        rw [if_neg hmem, if_neg hmem']
        rfl

/-- **What is returned are the lines after the last empty line.** -/
theorem rmLegacyDisplayElements_eq (text : String) : rmLegacyDisplayElements text =
    String.ofList (['\r', '\n'].intercalate (lastLines (Vcard.lines text.toList))) := by
  unfold rmLegacyDisplayElements
  rw [foldl_displayStep]
  by_cases h : [] ∈ Vcard.lines text.toList
  · rw [if_pos h, Option.getD_some]
  · rw [if_neg h, Option.getD_none, lastLines, if_neg h, List.intercalate_nil]

/-! ## one paragraph -/

theorem rtakeWhile_append_nil (pre rest : List Line) :
    (pre ++ [] :: rest).rtakeWhile (fun l => l ≠ []) = rest.rtakeWhile fun l => l ≠ [] :=
  Split.rtakeWhile_append_cons (by simp) pre rest

theorem rtakeWhile_suffix (pre post : List Line) :
    post.rtakeWhile (fun l => l ≠ []) <:+ pre ++ [] :: post :=
  ((List.rtakeWhile_suffix _ _).trans (List.suffix_cons [] post)).trans (List.suffix_append pre _)

theorem exists_rest (h : [] ∈ ls) : ∃ rest : List Line,
    messageLines ls = rest.dropWhile (fun l => l = []) ∧
      lastLines ls = rest.rtakeWhile fun l => l ≠ [] := by
  obtain ⟨pre, rest, rfl, hpre⟩ := List.eq_append_cons_of_mem h
  refine ⟨rest, ?_, ?_⟩
  · unfold messageLines
    rw [List.dropWhile_append_of_pos, List.dropWhile_cons_of_neg (by simp),
      List.dropWhile_cons_of_pos (by simp)]
    intro l hl
    rw [decide_eq_true_iff]
    rintro rfl
    exact hpre hl
  · unfold lastLines
    rw [if_pos h, rtakeWhile_append_nil]

theorem rtakeWhile_dropWhile (ls : List Line) :
    (ls.dropWhile fun l => l = []).rtakeWhile (fun l => l ≠ []) = ls.rtakeWhile fun l => l ≠ [] := by
  induction ls with
  | nil => rfl
  | cons l ls ih =>
    rcases eq_or_ne l [] with rfl | hl
    · rw [List.dropWhile_cons_of_pos (by simp), ih]
      exact (rtakeWhile_append_nil [] ls).symm
    · rw [List.dropWhile_cons_of_neg (by simpa using hl)]

theorem ne_nil_of_kept {message : List Line} (hhead : ∀ l ls, message = l :: ls → l ≠ [])
    (h : ['\r', '\n'].intercalate (message.rtakeWhile fun l => l ≠ []) =
      ['\r', '\n'].intercalate message) : ∀ l ∈ message, l ≠ [] := by
  rintro l hl rfl
  obtain ⟨pre, post, rfl⟩ := List.append_of_mem hl
  cases pre with
  | nil => exact hhead [] post rfl rfl
  | cons l pre =>
    have hpos := List.length_pos_of_ne_nil (hhead l _ rfl)
    have hlen := congrArg List.length h
    rw [rtakeWhile_append_nil, List.cons_append, List.intercalate_cons_of_ne_nil (by simp),
      List.length_append, List.length_append] at hlen
    have hle := Split.length_intercalate_le ['\r', '\n'] (rtakeWhile_suffix pre post)
    omega

theorem messageLines_eq_nil (h : [] ∉ ls) : messageLines ls = [] := by
  have hdrop : (ls.dropWhile fun l => l ≠ []) = [] := by
    rw [List.dropWhile_eq_nil_iff]
    intro l hl
    rw [decide_eq_true_iff]
    rintro rfl
    exact h hl
  rw [messageLines, hdrop]
  rfl

theorem intercalate_lastLines_iff (ls : List Line) :
    ['\r', '\n'].intercalate (lastLines ls) = ['\r', '\n'].intercalate (messageLines ls) ↔
      ∀ l ∈ messageLines ls, l ≠ [] := by
  by_cases hmem : [] ∈ ls
  · obtain ⟨rest, hmessage, hlast⟩ := exists_rest hmem
    rw [hmessage, hlast, ← rtakeWhile_dropWhile]
    -- the message starts with a line that is not empty
    have hhead : ∀ l ls', (rest.dropWhile fun l => l = []) = l :: ls' → l ≠ [] := by
      intro l ls' h
      have := List.head?_dropWhile_not (fun l : Line => l = []) rest
      rw [h] at this
      simpa using this
    generalize rest.dropWhile (fun l => l = []) = message at hhead
    refine ⟨ne_nil_of_kept hhead, fun h => ?_⟩
    rw [List.rtakeWhile_eq_self_iff.mpr (by simpa using h)]
  · rw [messageLines_eq_nil hmem, lastLines, if_neg hmem]
    exact iff_of_true rfl fun l hl => absurd hl List.not_mem_nil

/-- **The message is kept as it is IFF no empty line is left in it: if it has one paragraph.** -/
theorem rmLegacyDisplayElements_iff (text : String) :
    rmLegacyDisplayElements text = withoutLegacyDisplay text ↔
      ∀ l ∈ messageLines (Vcard.lines text.toList), l ≠ [] := by
  rw [rmLegacyDisplayElements_eq, withoutLegacyDisplay, String.ofList_inj, intercalate_lastLines_iff]

/-- Of the two paragraphs of the message only the second one is left. -/
theorem first_paragraph_lost :
    let text := "Subject: x\n\nfirst\n\nsecond"
    (∀ l ∈ Vcard.lines text.toList, '\r' ∉ l) ∧
      withoutLegacyDisplay text = "first\r\n\r\nsecond" ∧
      rmLegacyDisplayElements text = "second" := by
  decide +kernel

end

end EpsilonChat.TextPart
