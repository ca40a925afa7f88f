import EpsilonChat.Base.Params
import EpsilonChat.Lib.Like
import EpsilonChat.Lib.Split

/-!
# The printed form of `Params`

`Display` writes one entry `k=value` per key, in the order of the key bytes, entries separated by
ONE newline and every newline inside a value doubled.  `FromStr` reads line by line and takes an
empty line, together with the line behind it, as the next part of the value before it.

* `lines_display`: the lines of a printed map: per entry, its first line, then pairs
  `(empty, part of the value)`;
* `takeValue_parts`: the inner loop of the parser eats exactly the pairs of its entry;
* **`fromStr_display`**: a map that is not empty is read back as it was;
* **`matchesEncrypted_agrees_iff`**: when the text test for encrypted messages says the same as the
  flag, if the values have no NUL.
-/

namespace EpsilonChat

open Lib Lib.Split

/-! ## the keys -/

namespace Param

/-- `*key as u8 as char` -/
def char : Param → Char
  | file => 'f' | filename => 'v' | overrideSenderDisplayname => 'O' | width => 'w'
  | height => 'h' | duration => 'd' | mimeType => 'm' | sendHtml => 'T' | guaranteeE2ee => 'c'
  | protectQuote => '0' | erroneousE2ee => 'e' | forcePlaintext => 'u'
  | deprecatedSkipAutocrypt => 'o' | wantsMdn => 'r' | reaction => 'x'
  | lastReactionTimestamp => 'y' | lastReactionMsgId => 'Y' | lastReactionContactId => '1'
  | bot => 'b' | forwarded => 'a' | quote => 'q' | summary1 => '4' | cmd => 'S' | arg => 'E'
  | arg2 => 'F' | arg3 => 'G' | arg4 => 'H' | attachChatAvatarAndDescription => 'A'
  | webrtcRoom => 'V' | webrtcAccepted => '7' | webrtcHasVideoInitially => 'z'
  | prepForwards => 'P' | setLatitude => 'l' | setLongitude => 'n' | unpromoted => 'U'
  | profileImage => 'i' | selftalk => 'K' | lastSubject => 't' | devicetalk => 'D'
  | listPost => 'p' | listId => 's' | statusTimestamp => 'j' | avatarTimestamp => 'J'
  | ephemeralSettingsTimestamp => 'B' | subjectTimestamp => 'C' | groupNameTimestamp => 'g'
  | groupDescriptionTimestamp => '6' | memberListTimestamp => 'k' | webxdcDocument => 'R'
  | webxdcDocumentTimestamp => 'W' | webxdcSummary => 'N' | webxdcSummaryTimestamp => 'Q'
  | webxdcIntegration => '3' | webxdcIntegrateFor => '2' | deleteRequestFor => 'M'
  | textEditFor => 'I' | isEdited => 'L' | contactAddedRemoved => '5'
  | postMessageViewtype => '8' | postMessageFileBytes => '9'

/-- the keys in the order of their bytes, which is the order of the `BTreeMap` -/
def all : List Param :=
  [protectQuote, lastReactionContactId, webxdcIntegrateFor, webxdcIntegration, summary1,
    contactAddedRemoved, groupDescriptionTimestamp, webrtcAccepted, postMessageViewtype,
    postMessageFileBytes, attachChatAvatarAndDescription, ephemeralSettingsTimestamp,
    subjectTimestamp, devicetalk, arg, arg2, arg3, arg4, textEditFor, avatarTimestamp, selftalk,
    isEdited, deleteRequestFor, webxdcSummary, overrideSenderDisplayname, prepForwards,
    webxdcSummaryTimestamp, webxdcDocument, cmd, sendHtml, unpromoted, webrtcRoom,
    webxdcDocumentTimestamp, lastReactionMsgId, forwarded, bot, guaranteeE2ee, duration,
    erroneousE2ee, file, groupNameTimestamp, height, profileImage, statusTimestamp,
    memberListTimestamp, setLatitude, mimeType, setLongitude, deprecatedSkipAutocrypt, listPost,
    quote, wantsMdn, listId, lastSubject, forcePlaintext, filename, width, reaction,
    lastReactionTimestamp, webrtcHasVideoInitially]

example : (all.map fun key => key.char.toNat).Pairwise (· < ·) := by decide

/-- `Param::from_u8`: the key of a byte, none for a byte no key uses -/
def ofChar (c : Char) : Option Param := all.find? fun key => key.char == c

theorem ofChar_char (key : Param) : ofChar key.char = some key := by
  cases key <;> rfl

theorem mem_all (key : Param) : key ∈ all := List.mem_of_find?_eq_some (ofChar_char key)

theorem char_ne_eq (key : Param) : key.char ≠ '=' := by
  cases key <;> decide

theorem char_ne_newline (key : Param) : key.char ≠ '\n' := by
  cases key <;> decide

end Param

namespace Params

def entries (p : Params) : List (Param × String) :=
  Param.all.filterMap fun key => (p key).map fun value => (key, value)

/-- `value.split('\n').collect().join("\n\n")` -/
def escape (value : List Char) : List Char := ['\n', '\n'].intercalate (value.splitOn '\n')

def displayEntry (e : Param × String) : List Char := e.1.char :: '=' :: escape e.2.toList

def display (p : Params) : String :=
  String.ofList (['\n'].intercalate (p.entries.map displayEntry))

/-! ## `FromStr` -/

/-- "Not a key-value pair: {line:?}" -/
inductive ParseError where
  | notAKeyValuePair (line : String)
  deriving DecidableEq, Repr

/-- the inner loop: an empty line and the line behind it continue the value -/
def takeValue : List (List Char) → List Char × List (List Char)
  | [] :: line :: lines => ('\n' :: line ++ (takeValue lines).1, (takeValue lines).2)
  | [[]] => (['\n'], [])
  | lines => ([], lines)

theorem length_takeValue_le (lines : List (List Char)) :
    (takeValue lines).2.length ≤ lines.length := by
  induction lines using takeValue.induct with
  | case1 line lines ih =>
    rw [takeValue, List.length_cons, List.length_cons]
    show (takeValue lines).2.length ≤ lines.length + 1 + 1
    omega
  | case2 => rw [takeValue, List.length_nil]; exact Nat.zero_le _
  | case3 lines h₁ h₂ => rw [takeValue] <;> assumption

/-- `key.as_bytes().first()`; the first byte of a character that is not ASCII is no key -/
def keyOf (key : List Char) : Option Param := key.head?.bind Param.ofChar

def parseLines (inner : Params) (lines : List (List Char)) : Except ParseError Params :=
  match lines with
  | [] => .ok inner
  | line :: lines =>
    match splitOnce '=' line with
    | none => .error (.notAKeyValuePair (String.ofList line))
    | some (key, value) =>
      let value := String.ofList (value ++ (takeValue lines).1)
      match keyOf key with
      | some key => parseLines (inner.set key value) (takeValue lines).2
      | none => parseLines inner (takeValue lines).2
termination_by lines.length
decreasing_by
  all_goals
    have h := length_takeValue_le lines
    rw [List.length_cons]
    omega

def fromStr (s : String) : Except ParseError Params := parseLines new (s.toList.splitOn '\n')

/-! ## reading back -/

section
variable {value hd : List Char} {tl : List (List Char)}

theorem lines_escape (h : value.splitOn '\n' = hd :: tl) :
    (escape value).splitOn '\n' = hd :: tl.flatMap fun l => [[], l] := by
  have hmem : ∀ l ∈ hd :: tl, '\n' ∉ l := fun l hl => not_mem_of_mem_splitOn (h ▸ hl)
  have hesc : escape value = hd ++ (tl.flatMap fun l => [[], l]).flatMap ('\n' :: ·) := by
    rw [escape, h, intercalate_cons, List.flatMap_assoc]
    simp
  rw [hesc]
  refine splitOn_flatMap (hmem hd List.mem_cons_self) ?_
  intro l hl
  obtain ⟨l', hl', hl⟩ := List.mem_flatMap.mp hl
  rcases List.mem_cons.mp hl with rfl | hl
  · exact List.not_mem_nil
  · rw [List.mem_singleton.mp hl]
    exact hmem l' (List.mem_cons_of_mem _ hl')

theorem takeValue_parts (tl : List (List Char)) {rest : List (List Char)}
    (h : rest.head? ≠ some []) :
    takeValue ((tl.flatMap fun l => [[], l]) ++ rest) = (tl.flatMap ('\n' :: ·), rest) := by
  induction tl with
  | nil =>
    show takeValue rest = ([], rest)
    rcases rest with _ | ⟨_ | ⟨c, line⟩, rest⟩
    · rw [takeValue] <;> simp
    · exact absurd rfl h
    · rw [takeValue] <;> simp
  | cons l tl ih =>
    show takeValue ([] :: l :: ((tl.flatMap fun l => [[], l]) ++ rest)) = _
    rw [takeValue, ih]
    rfl

end

theorem lines_displayEntry (e : Param × String) {hd : List Char} {tl : List (List Char)}
    (h : e.2.toList.splitOn '\n' = hd :: tl) :
    (displayEntry e).splitOn '\n' = (e.1.char :: '=' :: hd) :: tl.flatMap fun l => [[], l] := by
  have hc : ¬ (e.1.char == '\n') = true := fun he => e.1.char_ne_newline (beq_iff_eq.mp he)
  have heq : ¬ ('=' == '\n') = true := by decide
  rw [displayEntry, List.splitOn_cons_eq_if_modifyHead, if_neg hc,
    List.splitOn_cons_eq_if_modifyHead, if_neg heq, lines_escape h, List.modifyHead_cons,
    List.modifyHead_cons]

theorem parseLines_entry (inner : Params) (e : Param × String) {rest : List (List Char)}
    (hrest : rest.head? ≠ some []) :
    parseLines inner ((displayEntry e).splitOn '\n' ++ rest) =
      parseLines (inner.set e.1 e.2) rest := by
  obtain ⟨hd, tl, hs⟩ := splitOn_eq_cons '\n' e.2.toList
  have hkey : '=' ∉ [e.1.char] := fun h => e.1.char_ne_eq (List.mem_singleton.mp h).symm
  have hval : String.ofList (hd ++ tl.flatMap ('\n' :: ·)) = e.2 := by
    rw [← eq_of_splitOn hs, String.ofList_toList]
  have honce : splitOnce '=' (e.1.char :: '=' :: hd) = some ([e.1.char], hd) :=
    splitOnce_append hkey hd
  rw [lines_displayEntry e hs, List.cons_append, parseLines, honce]
  simp only [takeValue_parts tl hrest, hval]
  rw [keyOf, List.head?_cons, Option.bind_some, Param.ofChar_char]

theorem head_lines_display (e : Param × String) (es : List (Param × String)) :
    ((['\n'].intercalate ((e :: es).map displayEntry)).splitOn '\n').head? ≠ some [] := by
  have hc : ¬ (e.1.char == '\n') = true := fun he => e.1.char_ne_newline (beq_iff_eq.mp he)
  rw [List.map_cons, intercalate_cons, displayEntry, List.cons_append,
    List.splitOn_cons_eq_if_modifyHead, if_neg hc]
  intro h
  rw [List.head?_modifyHead, Option.map_eq_some_iff] at h
  obtain ⟨l, _, hl⟩ := h
  exact List.cons_ne_nil _ _ hl

theorem parseLines_display (inner : Params) (e : Param × String) (es : List (Param × String)) :
    parseLines inner ((['\n'].intercalate ((e :: es).map displayEntry)).splitOn '\n') =
      .ok ((e :: es).foldl (fun q e => q.set e.1 e.2) inner) := by
  induction es generalizing inner e with
  | nil =>
    have hrest : ([] : List (List Char)).head? ≠ some [] := by simp
    have hentry := parseLines_entry inner e hrest
    rw [List.append_nil] at hentry
    rw [List.map_singleton, List.intercalate_singleton, hentry, parseLines]
    rfl
  | cons e' es ih =>
    have hsplit : (['\n'].intercalate ((e :: e' :: es).map displayEntry)).splitOn '\n' =
        (displayEntry e).splitOn '\n' ++
          (['\n'].intercalate ((e' :: es).map displayEntry)).splitOn '\n' := by
      rw [List.map_cons, List.map_cons, splitOn_intercalate_cons, splitOn_intercalate_cons,
        List.flatMap_cons]
    rw [hsplit, parseLines_entry inner e (head_lines_display e' es), ih]
    rfl

theorem foldl_set_apply (p q : Params) (keys : List Param) (key : Param) :
    (keys.filterMap fun key => (p key).map fun value => (key, value)).foldl
        (fun q e => q.set e.1 e.2) q key =
      if key ∈ keys then (p key).or (q key) else q key := by
  induction keys generalizing q with
  | nil => rfl
  | cons k keys ih =>
    rcases hk : p k with _ | value
    · rw [List.filterMap_cons_none (by rw [hk]; rfl), ih]
      by_cases hkey : key = k
      · subst hkey
        simp [hk]
      · simp [hkey]
    · rw [List.filterMap_cons_some (b := (k, value)) (by rw [hk]; rfl), List.foldl_cons, ih]
      by_cases hkey : key = k
      · subst hkey
        simp [hk, set]
      · simp [hkey, set]

theorem foldl_set_entries (p : Params) : p.entries.foldl (fun q e => q.set e.1 e.2) new = p := by
  funext key
  rw [entries, foldl_set_apply, if_pos (Param.mem_all key), new, Option.or_none]

theorem entries_ne_nil {p : Params} (h : p ≠ new) : p.entries ≠ [] := by
  intro hnil
  apply h
  rw [← foldl_set_entries p, hnil]
  rfl

theorem parse_display {p : Params} (h : p ≠ new) : fromStr p.display = .ok p := by
  obtain ⟨e, es, hes⟩ := List.exists_cons_of_ne_nil (entries_ne_nil h)
  rw [fromStr, display, String.toList_ofList, hes, parseLines_display, ← hes, foldl_set_entries]

/-- **a printed map is read back**, whatever its values hold; so printing what was read and
reading it again changes nothing -/
theorem fromStr_display :
    (∀ p : Params, p ≠ new → fromStr p.display = .ok p) ∧
      ∀ (s : String) (p : Params), fromStr s = .ok p → p ≠ new → fromStr p.display = .ok p :=
  ⟨fun _ h => parse_display h, fun _ _ _ h => parse_display h⟩

theorem fromStr_display_newlines :
    fromStr ((new.set .width "\n\n\na=\n=").set .quote "").display =
      .ok ((new.set .width "\n\n\na=\n=").set .quote "") := by
  refine fromStr_display.1 _ fun h => ?_
  have hq : some "" = none := congrFun h .quote
  cases hq

/-! ## the text test for encrypted messages

The statements that pick encrypted messages test the column as TEXT:
`param GLOB '*\nc=1*' OR param GLOB 'c=1*'`. -/

/-- `GLOB` with the wildcards `*` and `?`; character sets are not used here -/
def glob : List Char → List Char → Bool
  | [], s => s.isEmpty
  | '*' :: pat, s => s.tails.any (glob pat)
  | '?' :: pat, s => match s with
    | [] => false
    | _ :: s => glob pat s
  | c :: pat, s => match s with
    | [] => false
    | c' :: s => c == c' && glob pat s

/-- `GLOB` is given a C string -/
def matchesEncrypted (param : String) : Bool :=
  let param := cString param.toList
  glob "*\nc=1*".toList param || glob "c=1*".toList param

theorem glob_star (pat s : List Char) : glob ('*' :: pat) s = s.tails.any (glob pat) := by
  rw [glob]

theorem glob_lit {c : Char} (h₁ : c ≠ '*') (h₂ : c ≠ '?') (pat : List Char) (c' : Char)
    (s : List Char) : glob (c :: pat) (c' :: s) = (c == c' && glob pat s) := by
  rw [glob] <;> simp [h₁, h₂]

theorem glob_starts (w s : List Char) (h : ∀ c ∈ w, c ≠ '*' ∧ c ≠ '?') :
    glob (w ++ ['*']) s = true ↔ w <+: s := by
  induction w generalizing s with
  | nil =>
    have hs : [] ∈ s.tails := (List.mem_tails _ _).mpr List.nil_suffix
    rw [List.nil_append, glob_star, List.any_eq_true]
    exact iff_of_true ⟨[], hs, rfl⟩ List.nil_prefix
  | cons c w ih =>
    obtain ⟨h₁, h₂⟩ := h c List.mem_cons_self
    have hw : ∀ c ∈ w, c ≠ '*' ∧ c ≠ '?' := fun c' hc' => h c' (List.mem_cons_of_mem _ hc')
    rcases s with _ | ⟨c', s⟩
    · rw [List.cons_append, glob] <;> simp [h₁, h₂]
    · rw [List.cons_append, glob_lit h₁ h₂, Bool.and_eq_true, beq_iff_eq, ih s hw,
        List.cons_prefix_cons]

theorem glob_contains (w s : List Char) (h : ∀ c ∈ w, c ≠ '*' ∧ c ≠ '?') :
    glob ('*' :: (w ++ ['*'])) s = true ↔ w <:+: s := by
  rw [glob_star, List.any_eq_true, List.infix_iff_prefix_suffix]
  constructor
  · rintro ⟨t, ht, hg⟩
    exact ⟨t, (glob_starts w t h).mp hg, (List.mem_tails _ _).mp ht⟩
  · rintro ⟨t, hw, ht⟩
    exact ⟨t, (List.mem_tails _ _).mpr ht, (glob_starts w t h).mpr hw⟩

theorem matchesEncrypted_iff_line (s : String) : matchesEncrypted s = true ↔
    ∃ l ∈ (cString s.toList).splitOn '\n', ['c', '=', '1'] <+: l := by
  have hw : '\n' ∉ ['c', '=', '1'] := by decide
  obtain ⟨hd, tl, hs⟩ := splitOn_eq_cons '\n' (cString s.toList)
  have hin : glob "*\nc=1*".toList (cString s.toList) = true ↔
      ['\n', 'c', '=', '1'] <:+: cString s.toList := glob_contains ['\n', 'c', '=', '1'] _ (by simp)
  have hpre : glob "c=1*".toList (cString s.toList) = true ↔ ['c', '=', '1'] <+: cString s.toList :=
    glob_starts ['c', '=', '1'] _ (by simp)
  rw [matchesEncrypted, Bool.or_eq_true, hin, hpre, infix_iff_of_splitOn hw hs,
    prefix_iff_of_splitOn hw hs, hs, List.exists_mem_cons_iff, or_comm]

/-! ### texts without NUL -/

def NulFree (p : Params) : Prop := ∀ key value, p.get key = some value → '\x00' ∉ value.toList

theorem nul_notMem_escape {value : List Char} (h : '\x00' ∉ value) : '\x00' ∉ escape value := by
  obtain ⟨hd, tl, hs⟩ := splitOn_eq_cons '\n' value
  rw [eq_of_splitOn hs] at h
  rw [escape, hs, intercalate_cons]
  simpa using h

theorem char_ne_nul (key : Param) : key.char ≠ '\x00' := by
  cases key <;> decide

theorem lines_display {p : Params} (h : p.entries ≠ []) :
    p.display.toList.splitOn '\n' = p.entries.flatMap fun e => (displayEntry e).splitOn '\n' := by
  obtain ⟨e, es, hes⟩ := List.exists_cons_of_ne_nil h
  rw [display, String.toList_ofList, hes, List.map_cons, splitOn_intercalate_cons,
    ← List.map_cons, List.flatMap_map]

theorem mem_entries {p : Params} {e : Param × String} : e ∈ p.entries ↔ p e.1 = some e.2 := by
  obtain ⟨key, value⟩ := e
  constructor
  · intro h
    obtain ⟨k, _, hk⟩ := List.mem_filterMap.mp h
    obtain ⟨v, hv, hkv⟩ := Option.map_eq_some_iff.mp hk
    cases hkv
    exact hv
  · intro h
    exact List.mem_filterMap.mpr ⟨key, Param.mem_all key, by rw [h]; rfl⟩

theorem line_displayEntry_iff (e : Param × String) :
    (∃ l ∈ (displayEntry e).splitOn '\n', ['c', '=', '1'] <+: l) ↔
      (e.1 = .guaranteeE2ee ∧ ['1'] <+: e.2.toList) ∨
        ['\n', 'c', '=', '1'] <:+: e.2.toList := by
  have hw : '\n' ∉ ['c', '=', '1'] := by decide
  have hw1 : '\n' ∉ ['1'] := by decide
  have hc : e.1.char = 'c' ↔ e.1 = .guaranteeE2ee := by
    cases e.1 <;> simp [Param.char]
  obtain ⟨hd, tl, hs⟩ := splitOn_eq_cons '\n' e.2.toList
  rw [lines_displayEntry e hs, List.exists_mem_cons_iff, infix_iff_of_splitOn hw hs,
    prefix_iff_of_splitOn hw1 hs]
  refine or_congr ?_ ?_
  · rw [List.cons_prefix_cons, List.cons_prefix_cons, eq_comm, hc]
    simp
  · constructor
    · rintro ⟨l, hl, hpre⟩
      obtain ⟨l', hl', hl⟩ := List.mem_flatMap.mp hl
      rcases List.mem_cons.mp hl with rfl | hl
      · exact absurd (List.prefix_nil.mp hpre) (List.cons_ne_nil _ _)
      · rw [List.mem_singleton.mp hl] at hpre
        exact ⟨l', hl', hpre⟩
    · rintro ⟨l, hl, hpre⟩
      refine ⟨l, List.mem_flatMap.mpr ⟨l, hl, ?_⟩, hpre⟩
      exact List.mem_cons_of_mem _ (List.mem_singleton_self l)

theorem nul_notMem_display {p : Params} (h : NulFree p) : '\x00' ∉ p.display.toList := by
  have hentry : ∀ e ∈ p.entries, '\x00' ∉ displayEntry e := by
    intro e he
    simp [displayEntry, (char_ne_nul e.1).symm, nul_notMem_escape (h _ _ (mem_entries.mp he))]
  rw [display, String.toList_ofList]
  cases hes : p.entries with
  | nil => exact List.not_mem_nil
  | cons e es =>
    rw [hes] at hentry
    simpa [intercalate_cons] using hentry

theorem matchesEncrypted_display {p : Params} (h : NulFree p) :
    matchesEncrypted p.display = true ↔
      ∃ key value, p.get key = some value ∧
        ((key = .guaranteeE2ee ∧ ['1'] <+: value.toList) ∨
          ['\n', 'c', '=', '1'] <:+: value.toList) := by
  rw [matchesEncrypted_iff_line, cString_eq_self (nul_notMem_display h)]
  by_cases hnil : p.entries = []
  case pos =>
    have hnone : ∀ key, p key = none := by
      intro key
      rw [← foldl_set_entries p, hnil]
      rfl
    have hlines : p.display.toList.splitOn '\n' = [[]] := by rw [display, hnil]; rfl
    rw [hlines]
    simp [get, hnone]
  case neg =>
    rw [lines_display hnil]
    constructor
    · rintro ⟨l, hl, hpre⟩
      obtain ⟨e, he, hl⟩ := List.mem_flatMap.mp hl
      exact ⟨e.1, e.2, mem_entries.mp he, (line_displayEntry_iff e).mp ⟨l, hl, hpre⟩⟩
    · rintro ⟨key, value, hv, h⟩
      have he : (key, value) ∈ p.entries := mem_entries.mpr hv
      obtain ⟨l, hl, hpre⟩ := (line_displayEntry_iff (key, value)).mpr h
      exact ⟨l, List.mem_flatMap.mpr ⟨(key, value), he, hl⟩, hpre⟩

/-- the values the key takes in the code -/
def IsFlag (value : Option String) : Prop := value = none ∨ value = some "0" ∨ value = some "1"

theorem IsFlag.starts_with_one {value : Option String} (h : IsFlag value) :
    (∃ v, value = some v ∧ ['1'] <+: v.toList) ↔ value = some "1" := by
  rcases h with rfl | rfl | rfl
  · simp
  · simp
  · simp

theorem IsFlag.no_newline {value : Option String} (h : IsFlag value) {v : String}
    (hv : value = some v) : ¬ ['\n', 'c', '=', '1'] <:+: v.toList := by
  rcases h with rfl | rfl | rfl
  · cases hv
  · cases hv
    decide
  · cases hv
    decide

/-- without NUL in the values, the text test and the parameter agree EXACTLY when the flag is set, or
when no other value holds a line that starts with `c=1` behind a newline -/
theorem matchesEncrypted_agrees_iff {p : Params} (h : IsFlag (p.get .guaranteeE2ee))
    (hnul : NulFree p) :
    (matchesEncrypted p.display = true ↔ p.get .guaranteeE2ee = some "1") ↔
      (p.get .guaranteeE2ee = some "1" ∨
        ∀ key value, key ≠ .guaranteeE2ee → p.get key = some value →
          ¬ "\nc=1".toList <:+: value.toList) := by
  rw [matchesEncrypted_display hnul]
  by_cases hone : p.get .guaranteeE2ee = some "1"
  case pos =>
    refine iff_of_true (iff_of_true ?_ hone) (.inl hone)
    exact ⟨.guaranteeE2ee, "1", hone, .inl ⟨rfl, List.prefix_rfl⟩⟩
  case neg =>
    rw [iff_false_right hone, or_iff_right hone]
    constructor
    · intro hno key value _ hv hin
      exact hno ⟨key, value, hv, .inr hin⟩
    · rintro hno ⟨key, value, hv, ⟨rfl, hpre⟩ | hin⟩
      · exact hone (h.starts_with_one.mp ⟨value, hv, hpre⟩)
      · by_cases hkey : key = .guaranteeE2ee
        · subst hkey
          exact h.no_newline hv hin
        · exact hno key value hkey hv hin

/-- a quote that starts with `c=1`, without the flag -/
theorem matchesEncrypted_agrees_iff_plain :
    (matchesEncrypted (new.set .quote "c=1\nx").display = true ↔
        (new.set .quote "c=1\nx").get .guaranteeE2ee = some "1") ↔
      ((new.set .quote "c=1\nx").get .guaranteeE2ee = some "1" ∨
        ∀ key value, key ≠ .guaranteeE2ee → (new.set .quote "c=1\nx").get key = some value →
          ¬ "\nc=1".toList <:+: value.toList) := by
  refine matchesEncrypted_agrees_iff (.inl rfl) fun key value hv => ?_
  by_cases hkey : key = .quote
  · subst hkey
    cases hv
    decide
  · rw [get, set, Function.update_of_ne hkey] at hv
    cases hv

/-- a quoted text whose second line is `c=1` passes for encrypted, and a NUL in the name of a document
hides the flag -/
theorem quote_matches_encrypted :
    (matchesEncrypted (new.set .quote "x\nc=1").display = true ∧
      (new.set .quote "x\nc=1").get .guaranteeE2ee = none) ∧
    (matchesEncrypted ((new.set .webxdcDocument "a\x00").set .guaranteeE2ee "1").display = false ∧
      ((new.set .webxdcDocument "a\x00").set .guaranteeE2ee "1").get .guaranteeE2ee = some "1") := by
  decide +kernel

end Params
end EpsilonChat
