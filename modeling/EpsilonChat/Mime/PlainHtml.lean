import EpsilonChat.Mime.Simplify
import EpsilonChat.Contact.Vcard

/-!
# Plain text as HTML

`PlainText::to_html` makes links of mail addresses and URLs FIRST and escapes the line after that.  The
markup of the links is written with placeholders (`\rLT`, `\rGT`, `\rQUOT`) that become real after the
escaping; the carriage returns of the line itself are removed before.

* `Marked`: text with links, whose markup is written in one way or another;
* `marked_url`: URLs are not found inside the links of the addresses;
* `marked_replace`: a placeholder becomes real;
* `Html`: text without markup, the tags for breaks and quotes, and links;
* **`no_markup`**: the page is the template around such HTML, for every text.

The regular expressions are those of the `regex` crate, and escaping is that of the `escaper` crate
(`Linkify`, `Escaper`).
-/

namespace EpsilonChat.PlainHtml
open Lib.Split

/-! ## the libraries -/

/-- `\w`; on ASCII it stands for letters, digits and `_` -/
structure WordClass where
  isWord : Char → Bool
  ascii : ∀ c, c.toNat < 128 → isWord c = (c.isAlphanum || c == '_')

/-- `[\w.\-+]+@[\w.\-]+` -/
def IsMail (w : WordClass) (m : List Char) : Prop :=
  ∃ l d, m = l ++ '@' :: d ∧ l ≠ [] ∧ d ≠ [] ∧
    (∀ c ∈ l, w.isWord c = true ∨ c ∈ ".-+".toList) ∧ ∀ c ∈ d, w.isWord c = true ∨ c ∈ ".-".toList

/-- `(http|https|ftp|ftps):[\w.,:;$/@!?&%\-~=#+]+` -/
def IsUrl (w : WordClass) (m : List Char) : Prop :=
  ∃ scheme ∈ ["http".toList, "https".toList, "ftp".toList, "ftps".toList], ∃ rest,
    m = scheme ++ ':' :: rest ∧ rest ≠ [] ∧
      ∀ c ∈ rest, w.isWord c = true ∨ c ∈ ".,:;$/@!?&%-~=#+".toList

/-- some matches, which do not overlap, are replaced -/
inductive Rewrites (p : List Char → Prop) (rep : List Char → List Char) :
    List Char → List Char → Prop
  | nil : Rewrites p rep [] []
  | keep (c : Char) {s s' : List Char} : Rewrites p rep s s' → Rewrites p rep (c :: s) (c :: s')
  | replace {m s s' : List Char} : p m → Rewrites p rep s s' → Rewrites p rep (m ++ s) (rep m ++ s')

def link (lt gt quot href label : List Char) : List Char :=
  lt ++ "a href=".toList ++ quot ++ href ++ quot ++ gt ++ label ++ lt ++ "/a".toList ++ gt

def markLt : List Char := ['\r', 'L', 'T']
def markGt : List Char := ['\r', 'G', 'T']
def markQuot : List Char := ['\r', 'Q', 'U', 'O', 'T']

def mailLink (m : List Char) : List Char := link markLt markGt markQuot ("mailto:".toList ++ m) m

def urlLink (m : List Char) : List Char := link markLt markGt markQuot m m

/-- `replace_all` of the two expressions -/
structure Linkify where
  word : WordClass
  replaceMail : List Char → List Char
  replaceUrl : List Char → List Char
  rewrites_mail : ∀ s, Rewrites (IsMail word) mailLink s (replaceMail s)
  rewrites_url : ∀ s, Rewrites (IsUrl word) urlLink s (replaceUrl s)

def markup : List Char := ['<', '>', '"']

/-- `encode_minimal`, by characters: besides the markup it escapes `&` and the apostrophe -/
structure Escaper where
  encode : Char → List Char
  other : ∀ c, c ∉ markup → c ≠ '&' → c ≠ '\x27' → encode c = [c]
  clean : ∀ c, ∀ d ∈ encode c, d ∉ markup
  noReturn : ∀ c, c ≠ '\r' → '\r' ∉ encode c

/-! ## the source -/

structure PlainText where
  text : List Char
  flowed : Bool
  delsp : Bool

def header : List Char :=
  "<!DOCTYPE html>\n<html><head>\n".toList ++
    "<meta http-equiv=\"Content-Type\" content=\"text/html; charset=utf-8\" />\n".toList ++
    "<meta name=\"color-scheme\" content=\"light dark\" />\n".toList ++
    "</head><body dir=\"auto\" style=\"unicode-bidi: plaintext\">\n".toList

def footer : List Char := "</body></html>\n".toList

section
variable (linkify : Linkify) (escaper : Escaper)

def encodeLine (line : List Char) : List Char :=
  let line := line.filter (· ≠ '\r')
  let line := linkify.replaceUrl (linkify.replaceMail line)
  let line := line.flatMap escaper.encode
  replace markQuot ['"'] (replace markGt ['>'] (replace markLt ['<'] line))

def quoted (isQuote : Bool) (line : List Char) : List Char :=
  if isQuote then "<em>".toList ++ line ++ "</em>".toList else line

def layoutLine (flowed delsp isQuote : Bool) (line : List Char) : List Char :=
  if flowed then
    let line := if line.head? = some ' ' then line.tail else line
    let line := quoted isQuote line
    if line.getLast? = some ' ' ∧ !isQuote then (if delsp then line.dropLast else line)
    else line ++ "<br/>\n".toList
  else quoted isQuote line ++ "<br/>\n".toList

def indent (line : List Char) : List Char :=
  let trimmed := line.dropWhile (· == ' ')
  (List.replicate (line.length - trimmed.length) "&nbsp;".toList).flatten ++ trimmed

def PlainText.toHtml (pt : PlainText) : List Char :=
  let lines := (Simplify.removeMessageFooter (Vcard.lines pt.text)).1
  header ++ lines.flatMap (fun line =>
    indent (layoutLine pt.flowed pt.delsp (line.head? = some '>') (encodeLine linkify escaper line))) ++
    footer

end

/-! ## text with links -/

inductive Marked (lt gt quot : List Char) (T : Char → Prop) (L : List Char → List Char → Prop) :
    List Char → Prop
  | nil : Marked lt gt quot T L []
  | text {c : Char} {s : List Char} : T c → Marked lt gt quot T L s → Marked lt gt quot T L (c :: s)
  | link {href label s : List Char} : L href label → Marked lt gt quot T L s →
      Marked lt gt quot T L (link lt gt quot href label ++ s)

theorem WordClass.not_isWord (w : WordClass) : w.isWord '\r' = false ∧ w.isWord ':' = false := by
  rw [w.ascii _ (by decide), w.ascii _ (by decide)]
  decide

section
variable {w : WordClass} {m : List Char}

theorem IsMail.free (h : IsMail w m) : '\r' ∉ m ∧ ':' ∉ m := by
  obtain ⟨l, d, rfl, -, -, hl, hd⟩ := h
  have hnot : ∀ c, w.isWord c = false → c ∉ ".-+@".toList → c ∉ l ++ '@' :: d := by
    intro c hword hc hmem
    simp at hc
    rcases List.mem_append.mp hmem with hmem | hmem
    · simpa [hword, hc] using hl c hmem
    · rcases List.mem_cons.mp hmem with rfl | hmem
      · exact hc.2.2.2 rfl
      · simpa [hword, hc] using hd c hmem
  exact ⟨hnot _ w.not_isWord.1 (by decide), hnot _ w.not_isWord.2 (by decide)⟩

theorem IsUrl.free (h : IsUrl w m) : '\r' ∉ m := by
  obtain ⟨scheme, hscheme, rest, rfl, -, hrest⟩ := h
  intro hc
  rcases List.mem_append.mp hc with hc | hc
  · have hfree : ∀ l ∈ ["http".toList, "https".toList, "ftp".toList, "ftps".toList], '\r' ∉ l := by
      decide
    exact hfree scheme hscheme hc
  · rcases List.mem_cons.mp hc with hc | hc
    · cases hc
    · simpa [w.not_isWord] using hrest _ hc

theorem IsUrl.start (h : IsUrl w m) : ∃ c rest, m = c :: 't' :: rest ∧ (c = 'h' ∨ c = 'f') := by
  obtain ⟨scheme, hscheme, rest, rfl, -, -⟩ := h
  simp only [List.mem_cons, List.not_mem_nil, or_false] at hscheme
  rcases hscheme with rfl | rfl | rfl | rfl
  · exact ⟨'h', _, rfl, .inl rfl⟩
  · exact ⟨'h', _, rfl, .inl rfl⟩
  · exact ⟨'f', _, rfl, .inr rfl⟩
  · exact ⟨'f', _, rfl, .inr rfl⟩

/-! ### the links of the addresses -/

def OfMail (w : WordClass) (href label : List Char) : Prop :=
  href = "mailto:".toList ++ label ∧ IsMail w label

def Generated (w : WordClass) (href label : List Char) : Prop :=
  OfMail w href label ∨ IsUrl w href ∧ label = href

theorem Generated.free {href label : List Char} (h : Generated w href label) :
    '\r' ∉ href ∧ '\r' ∉ label := by
  rcases h with ⟨rfl, hmail⟩ | ⟨hurl, rfl⟩
  · refine ⟨fun hc => ?_, hmail.free.1⟩
    rcases List.mem_append.mp hc with hc | hc
    · exact absurd hc (by decide)
    · exact hmail.free.1 hc
  · exact ⟨hurl.free, hurl.free⟩

theorem marked_mail {s s' : List Char} (h : Rewrites (IsMail w) mailLink s s') (hs : '\r' ∉ s) :
    Marked markLt markGt markQuot (· ≠ '\r') (OfMail w) s' := by
  induction h with
  | nil => exact .nil
  | keep c _ ih =>
    rw [List.mem_cons, not_or] at hs
    exact .text (Ne.symm hs.1) (ih hs.2)
  | replace hm _ ih =>
    rw [List.mem_append, not_or] at hs
    exact .link ⟨rfl, hm⟩ (ih hs.2)

end

section
variable {w : WordClass}

def Skips (w : WordClass) (x rest : List Char) : Prop :=
  ∀ s', Rewrites (IsUrl w) urlLink (x ++ rest) s' →
    ∃ s'', s' = x ++ s'' ∧ Rewrites (IsUrl w) urlLink rest s''

theorem Skips.append {x y rest : List Char} (hx : Skips w x (y ++ rest)) (hy : Skips w y rest) :
    Skips w (x ++ y) rest := by
  intro s' h
  rw [List.append_assoc] at h
  obtain ⟨s₁, rfl, h₁⟩ := hx s' h
  obtain ⟨s₂, rfl, h₂⟩ := hy s₁ h₁
  exact ⟨s₂, (List.append_assoc x y s₂).symm, h₂⟩

theorem skips_of_not_url {x rest : List Char}
    (h : ∀ y, y <:+ x → y ≠ [] → ∀ m, IsUrl w m → ¬ m <+: y ++ rest) : Skips w x rest := by
  induction x with
  | nil => exact fun s' hs' => ⟨s', rfl, hs'⟩
  | cons c x ih =>
    intro s' hs'
    have hx := ih fun y hy => h y (hy.trans (List.suffix_cons c x))
    generalize ht : c :: x ++ rest = t at hs'
    cases hs' with
    | nil => cases ht
    | keep d hs' =>
      cases ht
      obtain ⟨s'', rfl, hs''⟩ := hx _ hs'
      exact ⟨s'', rfl, hs''⟩
    | @replace m s s' hm _ =>
      refine absurd ?_ (h (c :: x) List.suffix_rfl (List.cons_ne_nil c x) m hm)
      rw [ht]
      exact List.prefix_append m s

/-- no `h` or `f` with a `t` behind it, and none at the end -/
def cannotStart : List Char → Bool
  | [] => true
  | c :: x => ((c != 'h' && c != 'f') || x.head?.any (· != 't')) && cannotStart x

theorem skips_fixed {x : List Char} (hx : cannotStart x = true) (rest : List Char) :
    Skips w x rest := by
  apply skips_of_not_url
  intro y hy hne m hm hpre
  obtain ⟨c, m', rfl, hc⟩ := hm.start
  have hsuffix : cannotStart y = true := by
    obtain ⟨z, rfl⟩ := hy
    clear hpre hm
    induction z with
    | nil => exact hx
    | cons d z ih =>
      rw [List.cons_append, cannotStart, Bool.and_eq_true] at hx
      exact ih hx.2
  rcases y with _ | ⟨d, y⟩
  · exact hne rfl
  · obtain ⟨rfl, hnext⟩ := List.cons_prefix_cons.mp hpre
    rcases y with _ | ⟨e, y⟩
    · rcases hc with rfl | rfl <;> cases hsuffix
    · have he : 't' = e := (List.cons_prefix_cons.mp hnext).1
      subst he
      rcases hc with rfl | rfl <;> cases hsuffix

theorem skips_address {a : List Char} (ha : IsMail w a) (rest : List Char) :
    Skips w a ('\r' :: rest) := by
  apply skips_of_not_url
  intro y hy _ m hm hpre
  obtain ⟨scheme, hscheme, tail, rfl, -, -⟩ := hm
  have hfree : ∀ l ∈ ["http".toList, "https".toList, "ftp".toList, "ftps".toList],
      '\r' ∉ l ++ [':'] := by decide
  have hstart : scheme ++ [':'] <+: y ++ [rest].flatMap ('\r' :: ·) := by
    rw [List.flatMap_singleton]
    refine List.IsPrefix.trans ?_ hpre
    exact ⟨tail, by simp⟩
  rw [prefix_append_flatMap_iff (hfree scheme hscheme)] at hstart
  exact ha.free.2 (hy.subset (hstart.subset (by simp)))

theorem skips_mailLink {a : List Char} (ha : IsMail w a) (rest : List Char) :
    Skips w (mailLink a) rest := by
  have hshape : mailLink a = "\rLTa href=\rQUOTmailto:".toList ++ (a ++ ("\rQUOT\rGT".toList ++
      (a ++ "\rLT/a\rGT".toList))) := by
    simp [mailLink, link, markLt, markGt, markQuot]
  rw [hshape]
  exact (skips_fixed (by decide) _).append (.append (skips_address ha _)
    (.append (skips_fixed (by decide) _) (.append (skips_address ha _) (skips_fixed (by decide) _))))

theorem Marked.tail {lt gt quot : List Char} {T : Char → Prop} {L : List Char → List Char → Prop}
    {m s : List Char} (h : Marked lt gt quot T L (m ++ s)) (hlt : ∀ c, lt.head? = some c → c ∉ m)
    (hne : lt ≠ []) : Marked lt gt quot T L s := by
  obtain ⟨d, lt', rfl⟩ := List.exists_cons_of_ne_nil hne
  induction m with
  | nil => exact h
  | cons c m ih =>
    have hm := hlt d rfl
    rw [List.mem_cons, not_or] at hm
    apply ih _ fun c hc => Option.some.inj hc ▸ hm.2
    generalize ht : c :: m ++ s = t at h
    cases h with
    | nil => cases ht
    | text _ h => cases ht; exact h
    | link =>
      have hhead := congrArg List.head? ht
      simp only [PlainHtml.link, List.cons_append, List.head?_cons, Option.some.injEq] at hhead
      exact absurd hhead.symm hm.1

theorem marked_url {s s' : List Char} (h : Rewrites (IsUrl w) urlLink s s')
    (hs : Marked markLt markGt markQuot (· ≠ '\r') (OfMail w) s) :
    Marked markLt markGt markQuot (· ≠ '\r') (Generated w) s' := by
  -- a match covers several characters of the text, so the induction is on the length
  induction hn : s.length using Nat.strong_induction_on generalizing s s' with
  | _ n ih =>
    subst hn
    cases hs with
    | nil =>
      generalize ht : ([] : List Char) = t at h
      cases h with
      | nil => exact .nil
      | keep => cases ht
      | replace hm _ =>
        obtain ⟨c, rest, rfl, -⟩ := hm.start
        cases ht
    | @text c s hc hs =>
      generalize ht : c :: s = t at h
      cases h with
      | nil => cases ht
      | keep d h =>
        cases ht
        exact .text hc (ih _ (by simp) h hs rfl)
      | @replace m s₁ s₁' hm h =>
        have hs₁ : Marked markLt markGt markQuot (· ≠ '\r') (OfMail w) (m ++ s₁) :=
          ht ▸ .text hc hs
        have hlen : s₁.length < (c :: s).length := by
          obtain ⟨c, rest, rfl, -⟩ := hm.start
          rw [ht]
          simp
          omega
        have htail := hs₁.tail (fun c hc => Option.some.inj hc ▸ hm.free) (by decide)
        exact .link (.inr ⟨hm, rfl⟩) (ih _ hlen h htail rfl)
    | @link href label s hlink hs =>
      obtain ⟨rfl, hmail⟩ := hlink
      obtain ⟨s'', rfl, h''⟩ := skips_mailLink hmail s s' h
      refine .link (.inl ⟨rfl, hmail⟩) (ih _ ?_ h'' hs rfl)
      simp [PlainHtml.link, markLt]
      omega

end

/-! ## escaping, and the placeholders -/

def Clean (c : Char) : Prop := c ≠ '\r' ∧ c ∉ markup

structure EscapedLink (w : WordClass) (escaper : Escaper) (href label : List Char) : Prop where
  generated : ∃ h l, Generated w h l ∧ href = h.flatMap escaper.encode ∧
    label = l.flatMap escaper.encode
  href : ∀ c ∈ href, Clean c
  label : ∀ c ∈ label, Clean c

theorem Marked.texts {lt gt quot : List Char} {T : Char → Prop} {L : List Char → List Char → Prop}
    {x s : List Char} (hx : ∀ c ∈ x, T c) (h : Marked lt gt quot T L s) :
    Marked lt gt quot T L (x ++ s) := by
  induction x with
  | nil => exact h
  | cons c x ih =>
    obtain ⟨hc, hx⟩ := List.forall_mem_cons.mp hx
    exact .text hc (ih hx)

theorem clean_encode (escaper : Escaper) {s : List Char} (hs : '\r' ∉ s) :
    ∀ c ∈ s.flatMap escaper.encode, Clean c := by
  intro c hc
  obtain ⟨d, hd, hc⟩ := List.mem_flatMap.mp hc
  have hne : d ≠ '\r' := fun h => hs (h ▸ hd)
  exact ⟨fun h => escaper.noReturn d hne (h ▸ hc), escaper.clean d c hc⟩

theorem flatMap_encode (escaper : Escaper) {x : List Char}
    (hx : ∀ c ∈ x, c ∉ markup ∧ c ≠ '&' ∧ c ≠ '\x27') : x.flatMap escaper.encode = x := by
  induction x with
  | nil => rfl
  | cons c x ih =>
    obtain ⟨hc, hx⟩ := List.forall_mem_cons.mp hx
    rw [List.flatMap_cons, escaper.other c hc.1 hc.2.1 hc.2.2, ih hx]
    rfl

section
variable {w : WordClass} {escaper : Escaper}
variable {s t line : List Char}

theorem marked_encode (hs : Marked markLt markGt markQuot (· ≠ '\r') (Generated w) s) :
    Marked markLt markGt markQuot Clean (EscapedLink w escaper) (s.flatMap escaper.encode) := by
  induction hs with
  | nil => exact .nil
  | text hc _ ih =>
    rw [List.flatMap_cons]
    refine .texts (fun d hd => ?_) ih
    exact ⟨fun h => escaper.noReturn _ hc (h ▸ hd), escaper.clean _ _ hd⟩
  | @link href label s hlink _ ih =>
    have hfixed : ∀ x ∈ [markLt, markGt, markQuot, "a href=".toList, "/a".toList],
        x.flatMap escaper.encode = x := by
      have hplain : ∀ x ∈ [markLt, markGt, markQuot, "a href=".toList, "/a".toList],
          ∀ c ∈ x, c ∉ markup ∧ c ≠ '&' ∧ c ≠ '\x27' := by
        simp [markLt, markGt, markQuot, markup]
      exact fun x hx => flatMap_encode escaper (hplain x hx)
    have hshape : (link markLt markGt markQuot href label).flatMap escaper.encode =
        link markLt markGt markQuot (href.flatMap escaper.encode) (label.flatMap escaper.encode) := by
      simp only [link, List.flatMap_append]
      rw [hfixed markLt (by simp), hfixed markGt (by simp), hfixed markQuot (by simp),
        hfixed "a href=".toList (by simp), hfixed "/a".toList (by simp)]
    rw [List.flatMap_append, hshape]
    exact .link ⟨⟨href, label, hlink, rfl, rfl⟩, clean_encode escaper hlink.free.1,
      clean_encode escaper hlink.free.2⟩ ih

theorem replace_other {a b : Char} (hab : a ≠ b) {x y rep : List Char} (hy : '\r' ∉ b :: y)
    (s : List Char) : replace ('\r' :: a :: x) rep ('\r' :: b :: y ++ s) =
      '\r' :: b :: y ++ replace ('\r' :: a :: x) rep s := by
  have hnot : ¬ '\r' :: a :: x <+: '\r' :: (b :: y ++ s) := by
    intro hpre
    exact hab (List.cons_prefix_cons.mp (List.cons_prefix_cons.mp hpre).2).1
  rw [List.cons_append, replace_cons_of_not hnot, replace_append_of_not_mem hy]
  rfl

/-- the marks are replaced one by one, and nothing else -/
theorem marked_replace {lt gt quot lt' gt' quot' p rep : List Char}
    (h : Marked lt gt quot Clean (EscapedLink w escaper) s)
    (hlt : ∀ s, replace ('\r' :: p) rep (lt ++ s) = lt' ++ replace ('\r' :: p) rep s)
    (hgt : ∀ s, replace ('\r' :: p) rep (gt ++ s) = gt' ++ replace ('\r' :: p) rep s)
    (hquot : ∀ s, replace ('\r' :: p) rep (quot ++ s) = quot' ++ replace ('\r' :: p) rep s) :
    Marked lt' gt' quot' Clean (EscapedLink w escaper) (replace ('\r' :: p) rep s) := by
  have hclean : ∀ x : List Char, (∀ c ∈ x, Clean c) → ∀ s,
      replace ('\r' :: p) rep (x ++ s) = x ++ replace ('\r' :: p) rep s :=
    fun x hx s => replace_append_of_not_mem (fun hmem => (hx _ hmem).1 rfl) s
  induction h with
  | nil => exact .nil
  | @text c s hc _ ih =>
    have hone := hclean [c] (by simpa using hc) s
    rw [List.singleton_append] at hone
    rw [hone]
    exact .text hc ih
  | @link href label s hlink _ ih =>
    have hfixed : ∀ x ∈ ["a href=".toList, "/a".toList], ∀ s,
        replace ('\r' :: p) rep (x ++ s) = x ++ replace ('\r' :: p) rep s := by
      intro x hx s
      have hplain : ∀ x ∈ ["a href=".toList, "/a".toList], '\r' ∉ x := by decide
      exact replace_append_of_not_mem (hplain x hx) s
    have hshape : replace ('\r' :: p) rep (link lt gt quot href label ++ s) =
        link lt' gt' quot' href label ++ replace ('\r' :: p) rep s := by
      simp only [link, List.append_assoc, hlt, hgt, hquot, hclean href hlink.href,
        hclean label hlink.label, hfixed "a href=".toList (by simp), hfixed "/a".toList (by simp)]
    rw [hshape]
    exact .link hlink ih

theorem marked_encodeLine (linkify : Linkify) (line : List Char) :
    Marked ['<'] ['>'] ['"'] Clean (EscapedLink linkify.word escaper)
      (encodeLine linkify escaper line) := by
  have hfree : '\r' ∉ line.filter (· ≠ '\r') := by simp
  have hmail := marked_mail (linkify.rewrites_mail _) hfree
  have hurl := marked_url (linkify.rewrites_url _) hmail
  have hL : Marked ['<'] markGt markQuot Clean (EscapedLink linkify.word escaper)
      (replace markLt ['<'] _) :=
    marked_replace (marked_encode hurl) (replace_append_self (by decide))
      (replace_other (by decide) (by decide)) (replace_other (by decide) (by decide))
  have hG : Marked ['<'] ['>'] markQuot Clean (EscapedLink linkify.word escaper)
      (replace markGt ['>'] _) :=
    marked_replace hL (replace_append_of_not_mem (by decide)) (replace_append_self (by decide))
      (replace_other (by decide) (by decide))
  exact marked_replace hG (replace_append_of_not_mem (by decide))
    (replace_append_of_not_mem (by decide)) (replace_append_self (by decide))

/-! ## HTML -/

/-- text without markup, line breaks, the tags of quotes, and links without markup in them -/
inductive Html (w : WordClass) (escaper : Escaper) : List Char → Prop
  | nil : Html w escaper []
  | text {c : Char} {s : List Char} : c ∉ markup → Html w escaper s → Html w escaper (c :: s)
  | tag {t s : List Char} : t ∈ ["<br/>\n".toList, "<em>".toList, "</em>".toList] →
      Html w escaper s → Html w escaper (t ++ s)
  | link {href label s : List Char} : EscapedLink w escaper href label →
      (∀ c ∈ href, c ∉ markup) → (∀ c ∈ label, c ∉ markup) → Html w escaper s →
      Html w escaper (link ['<'] ['>'] ['"'] href label ++ s)

theorem Marked.html (h : Marked ['<'] ['>'] ['"'] Clean (EscapedLink w escaper) s) :
    Html w escaper s := by
  induction h with
  | nil => exact .nil
  | text hc _ ih => exact .text hc.2 ih
  | link hlink _ ih =>
    exact .link hlink (fun c hc => (hlink.href c hc).2) (fun c hc => (hlink.label c hc).2) ih

theorem Html.append (hs : Html w escaper s) (ht : Html w escaper t) : Html w escaper (s ++ t) := by
  induction hs with
  | nil => exact ht
  | text hc _ ih => exact .text hc ih
  | tag htag _ ih => exact List.append_assoc .. ▸ .tag htag ih
  | link hlink hhref hlabel _ ih => exact List.append_assoc .. ▸ .link hlink hhref hlabel ih

theorem html_tag (ht : t ∈ ["<br/>\n".toList, "<em>".toList, "</em>".toList]) :
    Html w escaper t := by
  rw [← List.append_nil t]
  exact .tag ht .nil

theorem Html.tail (h : Html w escaper (' ' :: s)) : Html w escaper s := by
  generalize ht : ' ' :: s = t at h
  cases h with
  | nil => cases ht
  | text _ h => cases ht; exact h
  | tag htag =>
    simp only [List.mem_cons, List.not_mem_nil, or_false] at htag
    rcases htag with rfl | rfl | rfl <;> cases ht
  | link => cases ht

theorem exists_of_append_space {x : List Char} (hx : x.getLast? ≠ some ' ')
    (h : s ++ [' '] = x ++ t) : ∃ s', s = x ++ s' ∧ s' ++ [' '] = t := by
  rcases List.eq_nil_or_concat t with rfl | ⟨t', c, rfl⟩
  · rw [List.append_nil] at h
    simp [← h] at hx
  · rw [List.concat_eq_append, ← List.append_assoc] at h
    obtain ⟨rfl, hc⟩ := List.append_inj' h rfl
    exact ⟨t', rfl, by rw [hc, List.concat_eq_append]⟩

theorem Html.dropLast (h : Html w escaper (s ++ [' '])) : Html w escaper s := by
  generalize ht : s ++ [' '] = t at h
  induction h generalizing s with
  | nil => simp at ht
  | @text c t hc h ih =>
    rcases s with _ | ⟨d, s⟩
    · exact .nil
    · cases ht
      exact .text hc (ih rfl)
  | @tag x t htag h ih =>
    have hlast : ∀ x ∈ ["<br/>\n".toList, "<em>".toList, "</em>".toList], x.getLast? ≠ some ' ' := by
      decide
    obtain ⟨s', rfl, hs'⟩ := exists_of_append_space (hlast x htag) ht
    exact .tag htag (ih hs')
  | @link href label t hlink hhref hlabel h ih =>
    have hlast : (PlainHtml.link ['<'] ['>'] ['"'] href label).getLast? ≠ some ' ' := by
      rw [PlainHtml.link, List.getLast?_concat]
      decide
    obtain ⟨s', rfl, hs'⟩ := exists_of_append_space hlast ht
    exact .link hlink hhref hlabel (ih hs')

theorem html_quoted {isQuote : Bool} (h : Html w escaper line) :
    Html w escaper (quoted isQuote line) := by
  unfold quoted
  split
  · exact ((html_tag (by simp)).append h).append (html_tag (by simp))
  · exact h

theorem html_layoutLine (flowed delsp isQuote : Bool) (h : Html w escaper line) :
    Html w escaper (layoutLine flowed delsp isQuote line) := by
  have hbr : Html w escaper "<br/>\n".toList := html_tag (by simp)
  unfold layoutLine
  split
  · have hstrip : Html w escaper (if line.head? = some ' ' then line.tail else line) := by
      split
      · next hhead =>
        obtain ⟨rest, rfl⟩ := List.head?_eq_some_iff.mp hhead
        exact h.tail
      · exact h
    have hline : Html w escaper (quoted isQuote _) := html_quoted hstrip
    dsimp only
    generalize quoted isQuote (if line.head? = some ' ' then line.tail else line) = line at hline ⊢
    split
    · next hlast =>
      split
      · obtain ⟨rest, hrest⟩ := List.getLast?_eq_some_iff.mp hlast.1
        rw [hrest] at hline ⊢
        rw [List.dropLast_concat]
        exact hline.dropLast
      · exact hline
    · exact hline.append hbr
  · exact (html_quoted h).append hbr

theorem html_indent (h : Html w escaper line) : Html w escaper (indent line) := by
  have hnbsp : ∀ n, Html w escaper (List.replicate n "&nbsp;".toList).flatten := by
    intro n
    induction n with
    | zero => exact .nil
    | succ n ih =>
      have hone : Html w escaper "&nbsp;".toList := by
        repeat refine .text (by decide) ?_
        exact .nil
      exact hone.append ih
  refine (hnbsp _).append ?_
  induction line with
  | nil => exact .nil
  | cons c line ih =>
    rw [List.dropWhile_cons]
    split
    · next hc => exact ih (Html.tail (beq_iff_eq.mp hc ▸ h))
    · exact h

end

/-- **no markup from the text.** For every text, whatever the flags: the page is the template, and
between its two parts every `<`, `>` and `"` is one of a line break, of the tags of a quote, or of a
link that was made of an address or a URL, whose target and label are escaped and have none of them -/
theorem no_markup (linkify : Linkify) (escaper : Escaper) (pt : PlainText) :
    ∃ body, pt.toHtml linkify escaper = header ++ body ++ footer ∧ Html linkify.word escaper body := by
  refine ⟨_, rfl, ?_⟩
  generalize (Simplify.removeMessageFooter (Vcard.lines pt.text)).1 = lines
  induction lines with
  | nil => exact .nil
  | cons line lines ih =>
    rw [List.flatMap_cons]
    exact (html_indent (html_layoutLine _ _ _ (marked_encodeLine linkify line).html)).append ih

/-! ## the expressions on ASCII text -/

def asciiWord : WordClass := ⟨fun c => c.isAlphanum || c == '_', fun _ _ => rfl⟩

/-- `\b` -/
def boundary (before after : Option Char) : Bool :=
  before.any asciiWord.isWord != after.any asciiWord.isWord

def mailChar (c : Char) : Bool := asciiWord.isWord c || c ∈ ".-+".toList
def domainChar (c : Char) : Bool := asciiWord.isWord c || c ∈ ".-".toList
def urlChar (c : Char) : Bool := asciiWord.isWord c || c ∈ ".,:;$/@!?&%-~=#+".toList

/-- the match at this place, and what is behind it; the domain is as long as it can be while it ends
at a boundary -/
def findMail (before : Option Char) (s : List Char) : Option (List Char × List Char) :=
  let l := s.takeWhile mailChar
  match s.dropWhile mailChar with
  | '@' :: tail =>
    if boundary before s.head? ∧ l ≠ [] then
      ((List.range' 1 (tail.takeWhile domainChar).length).reverse.find? fun k =>
        boundary (tail.take k).getLast? (tail.drop k).head?).map fun k =>
          (l ++ '@' :: tail.take k, tail.drop k)
    else none
  | _ => none

def findUrl (before : Option Char) (s : List Char) : Option (List Char × List Char) :=
  if boundary before s.head? then
    (["http".toList, "https".toList, "ftp".toList, "ftps".toList].find? fun scheme =>
      scheme ++ [':'] <+: s).bind fun scheme =>
        let tail := s.drop (scheme ++ [':']).length
        if tail.takeWhile urlChar ≠ [] then
          some (scheme ++ ':' :: tail.takeWhile urlChar, tail.dropWhile urlChar)
        else none
  else none

/-- the matches from left to right; `fuel` is the length of the text -/
def replaceAll (find : Option Char → List Char → Option (List Char × List Char))
    (rep : List Char → List Char) : ℕ → Option Char → List Char → List Char
  | 0, _, s => s
  | _ + 1, _, [] => []
  | fuel + 1, before, c :: s =>
    match find before (c :: s) with
    | some (m, rest) => rep m ++ replaceAll find rep fuel m.getLast? rest
    | none => c :: replaceAll find rep fuel (some c) s

theorem rewrites_replaceAll {p : List Char → Prop} {rep : List Char → List Char}
    {find : Option Char → List Char → Option (List Char × List Char)}
    (hfind : ∀ before s m rest, find before s = some (m, rest) → s = m ++ rest ∧ p m)
    (fuel : ℕ) (before : Option Char) (s : List Char) :
    Rewrites p rep s (replaceAll find rep fuel before s) := by
  induction fuel generalizing before s with
  | zero =>
    induction s with
    | nil => exact .nil
    | cons c s ih => exact .keep c ih
  | succ fuel ih =>
    cases s with
    | nil => exact .nil
    | cons c s =>
      rw [replaceAll]
      split
      · next m rest h =>
        obtain ⟨heq, hm⟩ := hfind _ _ _ _ h
        rw [heq]
        exact .replace hm (ih _ _)
      · exact .keep c (ih _ _)

theorem findMail_spec (before : Option Char) (s m rest : List Char)
    (h : findMail before s = some (m, rest)) : s = m ++ rest ∧ IsMail asciiWord m := by
  unfold findMail at h
  dsimp only at h
  split at h
  · next tail htail =>
    split at h
    · next hstart =>
      obtain ⟨k, hk, hmatch⟩ := Option.map_eq_some_iff.mp h
      cases hmatch
      have hrange := List.mem_of_find?_eq_some hk
      rw [List.mem_reverse, List.mem_range'_1] at hrange
      have hpre : tail.take k <+: tail.takeWhile domainChar := by
        refine List.prefix_of_prefix_length_le (List.take_prefix k tail) (List.takeWhile_prefix _) ?_
        exact (List.length_take_le k tail).trans (by omega)
      have hne : tail.take k ≠ [] := by
        have hlen := (List.takeWhile_prefix domainChar (l := tail)).length_le
        rw [← List.length_pos_iff, List.length_take]
        omega
      refine ⟨?_, _, _, rfl, hstart.2, hne, ?_, ?_⟩
      · rw [List.append_assoc, List.cons_append, List.take_append_drop, ← htail,
          List.takeWhile_append_dropWhile]
      · intro c hc
        simpa [mailChar] using List.mem_takeWhile_imp hc
      · intro c hc
        simpa [domainChar] using List.mem_takeWhile_imp (hpre.subset hc)
    · cases h
  · cases h

theorem findUrl_spec (before : Option Char) (s m rest : List Char)
    (h : findUrl before s = some (m, rest)) : s = m ++ rest ∧ IsUrl asciiWord m := by
  unfold findUrl at h
  split at h
  · obtain ⟨scheme, hscheme, h⟩ := Option.bind_eq_some_iff.mp h
    have hpre := List.find?_some hscheme
    obtain ⟨tail, rfl⟩ := of_decide_eq_true hpre
    dsimp only at h
    rw [List.drop_left] at h
    split at h
    · next hne =>
      cases h
      refine ⟨?_, scheme, List.mem_of_find?_eq_some hscheme, _, rfl, hne, ?_⟩
      · simp [List.takeWhile_append_dropWhile]
      · intro c hc
        simpa [urlChar] using List.mem_takeWhile_imp hc
    · cases h
  · cases h

def asciiLinkify : Linkify where
  word := asciiWord
  replaceMail s := replaceAll findMail mailLink s.length none s
  replaceUrl s := replaceAll findUrl urlLink s.length none s
  rewrites_mail s := rewrites_replaceAll findMail_spec s.length none s
  rewrites_url s := rewrites_replaceAll findUrl_spec s.length none s

def minimalEscaper : Escaper where
  encode
    | '<' => "&lt;".toList
    | '>' => "&gt;".toList
    | '"' => "&quot;".toList
    | '&' => "&amp;".toList
    | '\x27' => "&#x27;".toList
    | c => [c]
  other c hmarkup hamp hapos := by
    simp only [markup, List.mem_cons, not_or] at hmarkup
    split <;> simp_all
  clean c := by split <;> simp_all [markup]
  noReturn c hc := by
    split
    iterate 5 decide
    simpa using hc.symm

/-- an address and a URL inside markup -/
theorem no_markup_links :
    (∃ body, (PlainText.mk "Mail <me@x.org> or \"https://x.org/?a=1&b\"".toList false false).toHtml
        asciiLinkify minimalEscaper = header ++ body ++ footer ∧ Html asciiWord minimalEscaper body) ∧
    encodeLine asciiLinkify minimalEscaper "Mail <me@x.org> or \"https://x.org/?a=1&b\"".toList =
      ("Mail &lt;<a href=\"mailto:me@x.org\">me@x.org</a>&gt; or ".toList ++
        "&quot;<a href=\"https://x.org/?a=1&amp;b\">https://x.org/?a=1&amp;b</a>&quot;".toList) :=
  ⟨no_markup asciiLinkify minimalEscaper _, by decide +kernel⟩

end EpsilonChat.PlainHtml
