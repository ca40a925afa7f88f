import EpsilonChat.Mime.Dehtml

/-!
# Hidden elements of an HTML mail

The headers that a mail repeats for old programs stand in `<div
class="header-protection-legacy-display">` and must not be shown again; neither must scripts, styles
and titles.

* `WellNested`: every start tag has its end tag;
* `HiddenElement`: an element of this kind, with any content;
* `Undisturbed`: the events that leave it hidden;
* `legacy_content`: inside the `div` only LINKS disturb: by induction over the nesting the counter
  is positive at every step, whatever the tags do to the mode;
* `Watch`: inside a script links disturb, and text after a tag that switches the mode; both can be
  followed through the events (`watch_step`);
* **`hidden_only_newlines`**: an undisturbed hidden element leaves nothing but newlines.
-/

namespace EpsilonChat.Dehtml
open Lib

/-! ## hidden elements -/

section
variable (toLowercase : String → String)

def Event.isData : Event → Bool
  | .start _ => false
  | .close _ => false
  | _ => true

/-- every start tag has its end tag; `br` may stand alone -/
inductive WellNested : List Event → Prop where
  | nil : WellNested []
  | data (ev : Event) : ev.isData → WellNested [ev]
  | br (e : BytesStart) : tagOf toLowercase e.name = .br → WellNested [.start e]
  | append {l l' : List Event} : WellNested l → WellNested l' → WellNested (l ++ l')
  | element (e : BytesStart) (name : String) {content : List Event} :
      tagName toLowercase name = tagName toLowercase e.name → WellNested content →
      WellNested (.start e :: (content ++ [.close name]))

inductive Hidden where
  /-- `<div class="header-protection-legacy-display">` -/
  | legacyDisplay
  /-- `style`, `script` or `title` -/
  | script
  deriving DecidableEq

def Hidden.starts : Hidden → BytesStart → Prop
  | .legacyDisplay, e => tagOf toLowercase e.name = .div ∧
      some ("class", some "header-protection-legacy-display") ∈ e.attributes
  | .script, e => tagOf toLowercase e.name ∈ [Tag.style, Tag.script, Tag.title]

/-- the events of a hidden element, its tags included -/
inductive HiddenElement (kind : Hidden) : List Event → Prop where
  | mk (e : BytesStart) (name : String) {content : List Event} :
      kind.starts toLowercase e → tagName toLowercase name = tagName toLowercase e.name →
      WellNested toLowercase content → HiddenElement kind (.start e :: (content ++ [.close name]))

def opensDiv : Event → Prop
  | .start e => tagOf toLowercase e.name = .div
  | .empty e => tagOf toLowercase e.name = .div
  | _ => False

/-- in the `div`: no links; and the counter does not wrap around -/
def LegacyOk (s : Dehtml) (ev : Event) : Prop :=
  LinkQuiet toLowercase s ev ∧ (opensDiv toLowercase ev → s.divsSinceHpLegacyDisplay + 1 < 2 ^ 32)

/-- what the events so far have done -/
structure Watch where
  addText : AddText
  /-- a link with a target has no end tag yet -/
  link : Bool

def Watch.of (s : Dehtml) : Watch := { addText := s.addText, link := s.lastHref.isSome }

def Tag.startMode (mode : AddText) : Tag → AddText
  | .p | .table | .td | .div | .br => .yesRemoveLineEnds
  | .style | .script | .title => .no
  | .pre => .yesPreserveLineEnds
  | _ => mode

def Tag.endMode (mode : AddText) : Tag → AddText
  | .style | .script | .title | .pre | .div => .yesRemoveLineEnds
  | _ => mode

def watchStart (w : Watch) (e : BytesStart) : Watch where
  addText := (tagOf toLowercase e.name).startMode w.addText
  link := if tagOf toLowercase e.name = .a then (linkTarget toLowercase e).isSome || w.link else w.link

def watchEnd (w : Watch) (name : String) : Watch where
  addText := (tagOf toLowercase name).endMode w.addText
  link := if tagOf toLowercase name = .a then false else w.link

def watch (w : Watch) : Event → Watch
  | .start e => watchStart toLowercase w e
  | .close name => watchEnd toLowercase w name
  | .empty e => watchEnd toLowercase (watchStart toLowercase w e) e.name
  | _ => w

/-- there is something to be shown -/
def Event.isText : Event → Prop
  | .start e => (tagOf toLowercase e.name).marks
  | .close name => (tagOf toLowercase name).marks
  | .empty e => (tagOf toLowercase e.name).marks
  | .text eventStr => eventStr ≠ ""
  | .cData eventStr => eventStr ≠ ""
  | .generalRef r => ∃ eventStr, r.str = some eventStr ∧ eventStr ≠ ""
  | .illFormed buf => buf ≠ ""
  | .error => False
  | .other => False

/-- a link with a target starts or ends; `<a href="x"/>` takes its bracket back -/
def Event.isLink (w : Watch) : Event → Prop
  | .start e => tagOf toLowercase e.name = .a ∧ linkTarget toLowercase e ≠ none
  | .close name => tagOf toLowercase name = .a ∧ w.link
  | .empty e => tagOf toLowercase e.name = .a ∧ linkTarget toLowercase e = none ∧ w.link
  | _ => False

/-- in a script: no links; and no text after a tag that switches the text on -/
def ScriptOk (w : Watch) (ev : Event) : Prop :=
  ¬ ev.isLink toLowercase w ∧ (w.addText = .no ∨ ¬ ev.isText toLowercase)

/-- the elements that stay hidden, after the state `s` -/
def Undisturbed (s : Dehtml) (elem : List Event) : Hidden → Prop
  | .legacyDisplay => RunOk (step toLowercase) (LegacyOk toLowercase) s elem
  | .script => RunOk (watch toLowercase) (ScriptOk toLowercase) (Watch.of s) elem

end

section
variable {toLowercase : String → String} {s : Dehtml} {events : List Event}

/-! ## what an event does besides writing -/

@[simp] theorem setBuf_fields (s : Dehtml) (x : List Char) :
    (setBuf s x).addText = s.addText ∧ (setBuf s x).lastHref = s.lastHref ∧
      (setBuf s x).divsSinceHpLegacyDisplay = s.divsSinceHpLegacyDisplay := by
  unfold setBuf
  split <;> exact ⟨rfl, rfl, rfl⟩

@[simp] theorem push_fields (s : Dehtml) (x : List Char) :
    (push s x).addText = s.addText ∧ (push s x).lastHref = s.lastHref ∧
      (push s x).divsSinceHpLegacyDisplay = s.divsSinceHpLegacyDisplay :=
  setBuf_fields s _

theorem strCb_fields (eventStr : String) (s : Dehtml) :
    (strCb eventStr s).addText = s.addText ∧ (strCb eventStr s).lastHref = s.lastHref ∧
      (strCb eventStr s).divsSinceHpLegacyDisplay = s.divsSinceHpLegacyDisplay := by
  unfold strCb
  cases getAddText s with
  | no => exact ⟨rfl, rfl, rfl⟩
  | yesRemoveLineEnds =>
    dsimp only
    split <;> simp
  | yesPreserveLineEnds => exact push_fields s _

theorem starttagCb_fields (e : BytesStart) (s : Dehtml) :
    (starttagCb toLowercase e s).addText = (tagOf toLowercase e.name).startMode s.addText ∧
      (starttagCb toLowercase e s).lastHref =
        (if tagOf toLowercase e.name = .a then (linkTarget toLowercase e).or s.lastHref
          else s.lastHref) ∧
      (starttagCb toLowercase e s).divsSinceHpLegacyDisplay =
        if tagOf toLowercase e.name = .div then
          maybePushTag e "header-protection-legacy-display" s.divsSinceHpLegacyDisplay
        else s.divsSinceHpLegacyDisplay := by
  unfold starttagCb
  cases tagOf toLowercase e.name with
  | p | table | td | b | strong | i | em =>
    dsimp only
    split <;> simp [Tag.startMode]
  | a => cases linkTarget toLowercase e <;> simp [Tag.startMode]
  | div | br | pre => simp [Tag.startMode]
  | style | script | title | blockquote | other => exact ⟨rfl, rfl, rfl⟩

theorem endtagCb_fields (name : String) (s : Dehtml) :
    (endtagCb toLowercase name s).addText = (tagOf toLowercase name).endMode s.addText ∧
      (endtagCb toLowercase name s).lastHref =
        (if tagOf toLowercase name = .a then none else s.lastHref) ∧
      (endtagCb toLowercase name s).divsSinceHpLegacyDisplay =
        if tagOf toLowercase name = .div then popTag s.divsSinceHpLegacyDisplay
        else s.divsSinceHpLegacyDisplay := by
  unfold endtagCb
  cases tagOf toLowercase name with
  | a =>
    cases hlast : s.lastHref with
    | none => exact ⟨rfl, hlast, rfl⟩
    | some href =>
      dsimp only
      split <;> simp [Tag.endMode]
  | b | strong | i | em =>
    dsimp only
    split <;> simp [Tag.endMode]
  | style | script | title | pre | div => simp [Tag.endMode]
  | p | table | td | br | blockquote | other => exact ⟨rfl, rfl, rfl⟩

/-! ## legacy displays -/

theorem getAddText_of_divs (h : 0 < s.divsSinceHpLegacyDisplay) : getAddText s = .no := by
  unfold getAddText
  rw [decide_eq_true h, Bool.or_true, if_pos rfl]

theorem blank_of_no (h : getAddText s = .no) (eventStr : String) : Blank eventStr s := by
  unfold Blank
  rw [h]
  trivial

theorem blank_empty (s : Dehtml) : Blank "" s := by
  unfold Blank
  cases getAddText s with
  | no => trivial
  | yesRemoveLineEnds => exact ⟨rfl, fun h => absurd h (by decide)⟩
  | yesPreserveLineEnds => exact fun c hc => absurd hc List.not_mem_nil

theorem blank_of {eventStr : String} (h : getAddText s = .no ∨ ¬ eventStr ≠ "") :
    Blank eventStr s := by
  rcases h with hno | hempty
  · exact blank_of_no hno eventStr
  · obtain rfl := not_not.mp hempty
    exact blank_empty s

/-- where the text is off, or there is none, nothing is written -/
theorem textQuiet_of {ev : Event} (h : getAddText s = .no ∨ ¬ ev.isText toLowercase) :
    TextQuiet toLowercase s ev := by
  cases ev with
  | start e => exact fun hmarks => h.resolve_right (not_not.mpr hmarks)
  | close name => exact fun hmarks => h.resolve_right (not_not.mpr hmarks)
  | empty e => exact fun hmarks => h.resolve_right (not_not.mpr hmarks)
  | text eventStr => exact blank_of h
  | cData eventStr => exact blank_of h
  | generalRef r =>
    exact fun eventStr hstr => blank_of (h.imp_right fun hnot hne => hnot ⟨eventStr, hstr, hne⟩)
  | illFormed buf => exact blank_of h
  | error => trivial
  | other => trivial

theorem textQuiet_of_divs (h : 0 < s.divsSinceHpLegacyDisplay) (ev : Event) :
    TextQuiet toLowercase s ev := textQuiet_of (.inl (getAddText_of_divs h))

theorem maybePushTag_of_lt {count : ℕ} (e : BytesStart) (tagName : String)
    (h : 0 < count ∨ tagContainsAttr e tagName) (hlt : count + 1 < 2 ^ 32) :
    maybePushTag e tagName count = count + 1 := by
  unfold maybePushTag
  rw [if_pos h, Nat.mod_eq_of_lt hlt]

theorem popTag_succ (n : ℕ) : popTag (n + 1) = n := if_pos (Nat.succ_pos n)

theorem divs_start_pos {e : BytesStart} (hpos : 0 < s.divsSinceHpLegacyDisplay)
    (hlt : tagOf toLowercase e.name = .div → s.divsSinceHpLegacyDisplay + 1 < 2 ^ 32) :
    0 < (starttagCb toLowercase e s).divsSinceHpLegacyDisplay := by
  rw [(starttagCb_fields _ _).2.2]
  split
  · next hdiv =>
    rw [maybePushTag_of_lt e _ (.inl hpos) (hlt hdiv)]
    exact Nat.succ_pos _
  · exact hpos

theorem divs_element {e : BytesStart} {name : String} {s' : Dehtml}
    (hname : tagName toLowercase name = tagName toLowercase e.name)
    (hpos : 0 < s.divsSinceHpLegacyDisplay)
    (hlt : tagOf toLowercase e.name = .div → s.divsSinceHpLegacyDisplay + 1 < 2 ^ 32)
    (hinner : s'.divsSinceHpLegacyDisplay =
      (starttagCb toLowercase e s).divsSinceHpLegacyDisplay) :
    (endtagCb toLowercase name s').divsSinceHpLegacyDisplay = s.divsSinceHpLegacyDisplay := by
  have htag : tagOf toLowercase name = tagOf toLowercase e.name := by
    unfold tagOf
    rw [hname]
  rw [(endtagCb_fields _ _).2.2, htag, hinner, (starttagCb_fields _ _).2.2]
  by_cases hdiv : tagOf toLowercase e.name = .div
  · rw [if_pos hdiv, if_pos hdiv, maybePushTag_of_lt e _ (.inl hpos) (hlt hdiv), popTag_succ]
  · rw [if_neg hdiv, if_neg hdiv]

theorem divs_data {ev : Event} (hdata : ev.isData = true) (hpos : 0 < s.divsSinceHpLegacyDisplay)
    (hlt : opensDiv toLowercase ev → s.divsSinceHpLegacyDisplay + 1 < 2 ^ 32) :
    (step toLowercase s ev).divsSinceHpLegacyDisplay = s.divsSinceHpLegacyDisplay := by
  cases ev with
  | start e => cases hdata
  | close name => cases hdata
  | text eventStr =>
    rw [step, textCb_eq_strCb]
    exact (strCb_fields eventStr s).2.2
  | cData eventStr => exact (strCb_fields eventStr s).2.2
  | empty e => exact divs_element rfl hpos hlt rfl
  | generalRef r =>
    rw [step]
    cases r.str with
    | none => rfl
    | some eventStr => exact (strCb_fields eventStr s).2.2
  | illFormed buf => exact (strCb_fields buf s).2.2
  | error => rfl
  | other => rfl

/-- **Inside a counted `div` the counter comes back to its value, and only links disturb.** -/
theorem legacy_content {content : List Event} (h : WellNested toLowercase content)
    (hpos : 0 < s.divsSinceHpLegacyDisplay)
    (hrun : RunOk (step toLowercase) (LegacyOk toLowercase) s content) :
    (content.foldl (step toLowercase) s).divsSinceHpLegacyDisplay = s.divsSinceHpLegacyDisplay ∧
      RunOk (step toLowercase) (Quiet toLowercase) s content := by
  induction h generalizing s with
  | nil => exact ⟨rfl, trivial⟩
  | data ev hdata =>
    obtain ⟨⟨hlink, hlt⟩, -⟩ := hrun
    exact ⟨divs_data hdata hpos hlt, ⟨hlink, textQuiet_of_divs hpos ev⟩, trivial⟩
  | br e htag =>
    obtain ⟨⟨hlink, -⟩, -⟩ := hrun
    refine ⟨?_, ⟨hlink, textQuiet_of_divs hpos _⟩, trivial⟩
    show (starttagCb toLowercase e s).divsSinceHpLegacyDisplay = _
    rw [(starttagCb_fields _ _).2.2, htag, if_neg (by decide)]
  | append _ _ ih ih' =>
    rw [runOk_append] at hrun ⊢
    obtain ⟨hdivs, hquiet⟩ := ih hpos hrun.1
    obtain ⟨hdivs', hquiet'⟩ := ih' (hdivs ▸ hpos) hrun.2
    rw [List.foldl_append]
    exact ⟨hdivs'.trans hdivs, hquiet, hquiet'⟩
  | element e name hname _ ih =>
    obtain ⟨⟨hlink, hlt⟩, hrest⟩ := hrun
    rw [runOk_append] at hrest
    have hstart := divs_start_pos hpos hlt
    obtain ⟨hdivs, hquiet⟩ := ih hstart hrest.1
    obtain ⟨⟨hlink', -⟩, -⟩ := hrest.2
    constructor
    · show ((_ ++ [Event.close name]).foldl (step toLowercase)
        (starttagCb toLowercase e s)).divsSinceHpLegacyDisplay = _
      rw [List.foldl_append]
      exact divs_element hname hpos hlt hdivs
    · refine ⟨⟨hlink, textQuiet_of_divs hpos _⟩, (runOk_append ..).mpr ⟨hquiet, ⟨hlink', ?_⟩, trivial⟩⟩
      exact textQuiet_of_divs (hdivs ▸ hstart) _

theorem legacyDisplay_quiet {elem : List Event} (h : HiddenElement toLowercase .legacyDisplay elem)
    (hrun : RunOk (step toLowercase) (LegacyOk toLowercase) s elem) :
    RunOk (step toLowercase) (Quiet toLowercase) s elem := by
  obtain ⟨e, name, ⟨hdiv, hclass⟩, hname, hcontent⟩ := h
  obtain ⟨⟨hlink, hlt⟩, hrest⟩ := hrun
  rw [runOk_append] at hrest
  -- the element itself is counted
  have hattr : tagContainsAttr e "header-protection-legacy-display" = true :=
    List.any_eq_true.mpr ⟨_, hclass, beq_self_eq_true _⟩
  have hstart : 0 < (starttagCb toLowercase e s).divsSinceHpLegacyDisplay := by
    rw [(starttagCb_fields _ _).2.2, if_pos hdiv, maybePushTag_of_lt e _ (.inr hattr) (hlt hdiv)]
    exact Nat.succ_pos _
  obtain ⟨hdivs, hquiet⟩ := legacy_content hcontent hstart hrest.1
  obtain ⟨⟨hlink', -⟩, -⟩ := hrest.2
  have htext : TextQuiet toLowercase s (.start e) := by
    intro hmarks
    rw [hdiv] at hmarks
    cases hmarks
  refine ⟨⟨hlink, htext⟩, (runOk_append ..).mpr ⟨hquiet, ⟨hlink', ?_⟩, trivial⟩⟩
  exact textQuiet_of_divs (hdivs ▸ hstart) _

/-! ## scripts -/

theorem getAddText_of_no (h : s.addText = .no) : getAddText s = .no := by
  unfold getAddText
  rw [h, ite_self]

theorem watch_start (e : BytesStart) (s : Dehtml) :
    watchStart toLowercase (Watch.of s) e = Watch.of (starttagCb toLowercase e s) := by
  obtain ⟨haddText, hlastHref, -⟩ := @starttagCb_fields toLowercase e s
  unfold watchStart Watch.of
  rw [haddText, hlastHref]
  split
  · rw [Option.isSome_or]
  · rfl

theorem watch_end (name : String) (s : Dehtml) :
    watchEnd toLowercase (Watch.of s) name = Watch.of (endtagCb toLowercase name s) := by
  obtain ⟨haddText, hlastHref, -⟩ := @endtagCb_fields toLowercase name s
  unfold watchEnd Watch.of
  rw [haddText, hlastHref]
  split <;> rfl

theorem watch_str (eventStr : String) (s : Dehtml) : Watch.of s = Watch.of (strCb eventStr s) := by
  obtain ⟨haddText, hlastHref, -⟩ := strCb_fields eventStr s
  unfold Watch.of
  rw [haddText, hlastHref]

theorem watch_step (s : Dehtml) (ev : Event) :
    watch toLowercase (Watch.of s) ev = Watch.of (step toLowercase s ev) := by
  cases ev with
  | start e => exact watch_start e s
  | close name => exact watch_end name s
  | empty e =>
    rw [watch, watch_start, watch_end]
    rfl
  | text eventStr =>
    rw [step, textCb_eq_strCb]
    exact watch_str eventStr s
  | cData eventStr => exact watch_str eventStr s
  | generalRef r =>
    rw [step]
    split
    · exact watch_str _ s
    · rfl
  | illFormed buf => exact watch_str buf s
  | error => rfl
  | other => rfl

theorem linkQuiet_of {ev : Event} (h : ¬ ev.isLink toLowercase (Watch.of s)) :
    LinkQuiet toLowercase s ev := by
  have hlast : ¬ (Watch.of s).link = true → s.lastHref = none := Option.not_isSome_iff_eq_none.mp
  cases ev with
  | start e => exact fun htag => not_not.mp fun htarget => h ⟨htag, htarget⟩
  | close name => exact fun htag => hlast fun hopen => h ⟨htag, hopen⟩
  | empty e =>
    intro htag
    cases htarget : linkTarget toLowercase e with
    | some href => exact .inl rfl
    | none => exact .inr (hlast fun hopen => h ⟨htag, htarget, hopen⟩)
  | _ => trivial

/-- the text is off from the start tag on -/
theorem script_quiet {elem : List Event}
    (hrun : RunOk (watch toLowercase) (ScriptOk toLowercase) (Watch.of s) elem) :
    RunOk (step toLowercase) (Quiet toLowercase) s elem := by
  induction elem generalizing s with
  | nil => trivial
  | cons ev elem ih =>
    obtain ⟨⟨hlink, htext⟩, hrest⟩ := hrun
    rw [watch_step] at hrest
    exact ⟨⟨linkQuiet_of hlink, textQuiet_of (htext.imp_left getAddText_of_no)⟩, ih hrest⟩

end

/-- **From its start to its end, a hidden element leaves nothing but newlines, if no link in it has a
target, no link of the outside ends in it, and, in `style`, `script` and `title`, no text follows a
tag that switches the text on.** -/
theorem hidden_only_newlines (toLowercase : String → String) (kind : Hidden) (elem : List Event)
    (h : HiddenElement toLowercase kind elem) (s : Dehtml)
    (hrun : Undisturbed toLowercase s elem kind) (pre : List Event)
    (hpre : pre <+: elem) : OnlyNewlines s (pre.foldl (step toLowercase) s) := by
  refine (quiet_iff s elem).mpr ?_ pre hpre
  cases kind with
  | legacyDisplay => exact legacyDisplay_quiet h hrun
  | script => exact script_quiet hrun

/-! ## elements -/

def legacyDiv : BytesStart :=
  { name := "div", attributes := [some ("class", some "header-protection-legacy-display")] }

theorem legacyDiv_starts : Hidden.legacyDisplay.starts id legacyDiv :=
  And.intro (by decide) (List.mem_singleton_self _)

def bare (name : String) : BytesStart := { name }

/-- `<div class="header-protection-legacy-display"><pre>Subject: x</pre></div>` -/
def legacySubject : List Event :=
  [.start legacyDiv, .start (bare "pre"), .text "Subject: x", .close "pre", .close "div"]

/-- `<script>f(x)<b>y</b></script>` -/
def scriptBold : List Event :=
  [.start (bare "script"), .text "f(x)", .start (bare "b"), .text "y", .close "b", .close "script"]

theorem script_starts : Hidden.script.starts id (bare "script") := by
  show tagOf id "script" ∈ [Tag.style, Tag.script, Tag.title]
  decide

theorem hidden_only_newlines_subject :
    (HiddenElement id .legacyDisplay legacySubject ∧
      OnlyNewlines {} (legacySubject.foldl (step id) {})) ∧
    HiddenElement id .script scriptBold ∧ OnlyNewlines {} (scriptBold.foldl (step id) {}) := by
  have hpre : WellNested id [.start (bare "pre"), .text "Subject: x", .close "pre"] :=
    .element (bare "pre") "pre" rfl (.data (.text "Subject: x") rfl)
  have hlegacy : HiddenElement id .legacyDisplay legacySubject :=
    .mk legacyDiv "div" legacyDiv_starts rfl hpre
  have hlegacyRun : Undisturbed id {} legacySubject .legacyDisplay :=
    ⟨⟨fun h => absurd h (by decide), fun _ => by decide⟩,
      ⟨fun h => absurd h (by decide), fun _ => by decide⟩, ⟨trivial, False.elim⟩,
      ⟨fun h => absurd h (by decide), False.elim⟩, ⟨fun h => absurd h (by decide), False.elim⟩,
      trivial⟩
  have hbold : WellNested id [.text "f(x)", .start (bare "b"), .text "y", .close "b"] :=
    .append (.data (.text "f(x)") rfl) (.element (bare "b") "b" rfl (.data (.text "y") rfl))
  have hscript : HiddenElement id .script scriptBold :=
    .mk (bare "script") "script" script_starts rfl hbold
  have hscriptRun : Undisturbed id {} scriptBold .script :=
    ⟨⟨fun h => absurd h.1 (by decide), .inr (by decide : ¬ (tagOf id "script").marks = true)⟩,
      ⟨False.elim, .inl (by decide)⟩, ⟨fun h => absurd h.1 (by decide), .inl (by decide)⟩,
      ⟨False.elim, .inl (by decide)⟩, ⟨fun h => absurd h.1 (by decide), .inl (by decide)⟩,
      ⟨fun h => absurd h.1 (by decide), .inl (by decide)⟩, trivial⟩
  exact ⟨⟨hlegacy, hidden_only_newlines id _ _ hlegacy {} hlegacyRun _ List.prefix_rfl⟩,
    hscript, hidden_only_newlines id _ _ hscript {} hscriptRun _ List.prefix_rfl⟩

def link : BytesStart := { name := "a", htmlAttributes := [some ("href", some "x")] }

/-- `<div class="header-protection-legacy-display"><a href="x"><br></a></div>` -/
def legacyLink : List Event :=
  [.start legacyDiv, .start link, .start (bare "br"), .close "a", .close "div"]

/-- `<script><p>x</p></script>` -/
def scriptParagraph : List Event :=
  [.start (bare "script"), .start (bare "p"), .text "x", .close "p", .close "script"]

/-- The link shows its brackets and its target, and the paragraph its text. -/
theorem hidden_shown :
    HiddenElement id .legacyDisplay legacyLink ∧
      (legacyLink.foldl (step id) {}).strbuilder = "\n\n[\n](x)\n\n".toList ∧
      ¬ OnlyNewlines {} (legacyLink.foldl (step id) {}) ∧
      HiddenElement id .script scriptParagraph ∧
      (scriptParagraph.foldl (step id) {}).strbuilder = "x\n\n".toList ∧
      ¬ OnlyNewlines {} (scriptParagraph.foldl (step id) {}) := by
  have hlink : (legacyLink.foldl (step id) {}).strbuilder = "\n\n[\n](x)\n\n".toList := by decide
  have hpar : (scriptParagraph.foldl (step id) {}).strbuilder = "x\n\n".toList := by decide
  have hshown : ∀ {s : Dehtml} {c : Char}, c ∈ s.strbuilder → c ≠ '\n' → ¬ OnlyNewlines {} s := by
    rintro s c hmem hne ⟨⟨n, hn⟩, -⟩
    rw [hn] at hmem
    exact hne (List.eq_of_mem_replicate hmem)
  refine ⟨?_, hlink, hshown (c := '[') (by rw [hlink]; decide) (by decide), ?_, hpar,
    hshown (c := 'x') (by rw [hpar]; decide) (by decide)⟩
  · have hbr : tagOf id (bare "br").name = .br := by decide
    have hcontent : WellNested id [.start link, .start (bare "br"), .close "a"] :=
      .element link "a" rfl (.br (bare "br") hbr)
    exact .mk legacyDiv "div" legacyDiv_starts rfl hcontent
  · have hcontent : WellNested id [.start (bare "p"), .text "x", .close "p"] :=
      .element (bare "p") "p" rfl (.data (.text "x") rfl)
    exact .mk (bare "script") "script" script_starts rfl hcontent

end EpsilonChat.Dehtml
