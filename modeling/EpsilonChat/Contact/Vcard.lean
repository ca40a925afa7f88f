import EpsilonChat.Base.I64
import EpsilonChat.Base.Text
import EpsilonChat.Lib.Split
import Mathlib.Data.Nat.Find

/-!
# vCards

`make_vcard` and `parse_vcard` of `deltachat-contact-tools`.  A contact is written as a card of
lines, one property a line; names, addresses and biographies are escaped, the data of keys and
images is not.

* `unescape_escape`: escaping is undone, for any text;
* `lines_unfold_flatMap`: the lines that were written are the lines that are read, if none has a
  line feed in it or starts with a space;
* `parseCards_cardLines`: a card gives back its contact and leaves the lines behind it;
* **`parseVcard_makeVcard`**: what is exported is imported again.

Dates are formatted and parsed by `chrono`; that it parses back what it formats for a contact is
`Chrono.ParsesBack`.
-/

namespace EpsilonChat.Vcard
open Lib Lib.Split Text

/-! ## names and addresses -/

def rsplitOnce (a : Char) (s : List Char) : Option (List Char × List Char) :=
  (splitOnce a s.reverse).map fun p => (p.2.reverse, p.1.reverse)

/-- the groups of `(.*)<(.*)>` in one line: they are greedy -/
def captureLine (line : List Char) : Option (List Char × List Char) :=
  (rsplitOnce '>' line).bind fun p => rsplitOnce '<' p.1

/-- `ADDR_WITH_NAME_REGEX.captures`: the dot matches no line feed, so the leftmost match is in the
first line that has one -/
def captures (addr : String) : Option (String × String) :=
  ((addr.toList.splitOn '\n').findSome? captureLine).map fun p =>
    (String.ofList p.1, String.ofList p.2)

/-- the text starts with `a`, ends with `b`, and these are not the same character -/
def enclosed (a b : Char) (s : List Char) : Bool :=
  2 ≤ s.length && s.head? == some a && s.getLast? == some b

def sanitizeName (name : String) : String :=
  let name := sanitizeSingleLine name
  let cs := name.toList
  if enclosed '\'' '\'' cs || enclosed '"' '"' cs || enclosed '<' '>' cs then
    trim (String.ofList (cs.drop 1).dropLast)
  else name

def sanitizeNameAndAddr (name addr : String) : String × String :=
  let (name, addr) :=
    match captures addr with
    | some (g₁, g₂) => (if name = "" then g₁ else name, g₂)
    | none => (name, addr)
  let name := sanitizeName name
  (if name = addr then "" else name, addr)

def escape (s : List Char) : List Char :=
  replace ['\n'] ['\\', 'n']
    (replace [';'] ['\\', ';']
      (replace [','] ['\\', ',']
        -- backslash must be first
        (replace ['\\'] ['\\', '\\'] s)))

def unescape : List Char → List Char
  | [] => []
  | '\\' :: next :: cs =>
    if next = '\\' ∨ next = ',' ∨ next = ';' then next :: unescape cs
    else if next = 'n' ∨ next = 'N' then '\n' :: unescape cs
    else '\\' :: next :: unescape cs
  | c :: cs => c :: unescape cs

/-! ## export -/

def FourDigitYear (t : I64) : Prop := -62167219200 ≤ t.val ∧ t.val ≤ 253402300799

instance (t : I64) : Decidable (FourDigitYear t) := inferInstanceAs (Decidable (_ ∧ _))

structure Chrono where
  /-- `DateTime::from_timestamp(t, 0)?.format("%Y%m%dT%H%M%SZ")` -/
  format : I64 → Option String
  /-- the timestamp of `DateTime::parse_from_str(s, "%Y%m%dT%H%M%S%#z")` -/
  parseFromStr : String → Except String I64
  /-- `NaiveDateTime::parse_from_str(s, "%Y%m%dT%H%M%S")`, and the timestamp in the local timezone
  if there is a single one -/
  parseLocal : String → Option (Option I64)

structure VcardContact where
  addr : String
  authname : String
  key : Option String
  profileImage : Option String
  biography : Option String
  timestamp : Except String I64

def VcardContact.displayName (c : VcardContact) : String :=
  if c.authname = "" then c.addr else c.authname

def crlf : List Char := ['\r', '\n']

def formatTimestamp (chrono : Chrono) (c : VcardContact) : Option String :=
  match c.timestamp with
  | .ok timestamp => chrono.format timestamp
  | .error _ => none

def makeCard (chrono : Chrono) (c : VcardContact) : List Char :=
  "BEGIN:VCARD".toList ++ crlf ++
  "VERSION:4.0".toList ++ crlf ++
  "EMAIL:".toList ++ escape c.addr.toList ++ crlf ++
  "FN:".toList ++ escape c.displayName.toList ++ crlf ++
  (match c.key with
    | some key => "KEY:data:application/pgp-keys;base64\\,".toList ++ key.toList ++ crlf
    | none => []) ++
  (match c.profileImage with
    | some profileImage => "PHOTO:data:image/jpeg;base64\\,".toList ++ profileImage.toList ++ crlf
    | none => []) ++
  (match c.biography with
    | some biography => "NOTE:".toList ++ escape biography.toList ++ crlf
    | none => []) ++
  (match formatTimestamp chrono c with
    | some timestamp => "REV:".toList ++ timestamp.toList ++ crlf
    | none => []) ++
  "END:VCARD".toList ++ crlf

def makeVcard (chrono : Chrono) (contacts : List VcardContact) : String :=
  String.ofList (contacts.foldl (fun res c => res ++ makeCard chrono c) [])

/-! ## import -/

/-- `remove_prefix`, for a `pat` in ASCII -/
def removePrefix (s pat : List Char) : Option (List Char) :=
  match pat with
  | [] => some s
  | p :: pat =>
    match s with
    | [] => none
    | c :: s => if c.toLower = p.toLower then removePrefix s pat else none
termination_by structural pat

def eqIgnoreAsciiCase (s t : List Char) : Bool := s.map Char.toLower == t.map Char.toLower

def isAsciiPunctuation (c : Char) : Bool :=
  let n := c.toNat
  (33 ≤ n && n ≤ 47) || (58 ≤ n && n ≤ 64) || (91 ≤ n && n ≤ 96) || (123 ≤ n && n ≤ 126)

def vcardPropertyRaw (line property : List Char) : Option (List Char × List Char) := do
  let remainder ← removePrefix line property
  let (params, value) ← splitOnce ':' remainder
  if (params.head?.filter fun c => !isAsciiPunctuation c || c == '_').isSome then none
  else
    let params := (removePrefix params [';']).getD params
    let params := (removePrefix params "PREF=1".toList).getD params
    some (params, value)

def vcardProperty (line property : List Char) : Option String :=
  (vcardPropertyRaw line property).map fun p => String.ofList (unescape p.2)

/-- `base64_key` and `base64_photo`: data that the parameters or a prefix of the value announce -/
def base64Property (property : List Char) (params prefixes : List (List Char)) (line : List Char) :
    Option String := do
  let (p, value) ← vcardPropertyRaw line property
  if params.any (eqIgnoreAsciiCase p) then some (String.ofList value)
  else (prefixes.findSome? (removePrefix value)).map String.ofList

def base64Key (line : List Char) : Option String :=
  base64Property "key".toList ["PGP;ENCODING=BASE64".toList, "TYPE=PGP;ENCODING=b".toList]
    ["data:application/pgp-keys;base64\\,".toList, "data:application/pgp-keys;base64,".toList] line

def base64Photo (line : List Char) : Option String :=
  base64Property "photo".toList
    ["JPEG;ENCODING=BASE64".toList, "ENCODING=BASE64;JPEG".toList, "TYPE=JPEG;ENCODING=b".toList,
      "ENCODING=b;TYPE=JPEG".toList, "ENCODING=BASE64;TYPE=JPEG".toList,
      "TYPE=JPEG;ENCODING=BASE64".toList]
    ["data:image/jpeg;base64\\,".toList, "data:image/jpeg;base64,".toList] line

def parseDatetime (chrono : Chrono) (datetime : String) : Except String I64 :=
  match chrono.parseFromStr datetime with
  | .ok timestamp => .ok timestamp
  | .error e =>
    match chrono.parseLocal datetime with
    | some (some timestamp) => .ok timestamp
    | some none => .error "Could not apply local timezone to parsed date and time"
    | none => .error e

structure Card where
  displayName : Option String := none
  addr : Option String := none
  key : Option String := none
  photo : Option String := none
  biography : Option String := none
  datetime : Option String := none

def Card.contact (chrono : Chrono) (card : Card) : VcardContact :=
  let (authname, addr) := sanitizeNameAndAddr (card.displayName.getD "") (card.addr.getD "")
  { authname, addr, key := card.key, profileImage := card.photo, biography := card.biography
    timestamp :=
      match card.datetime with
      | some datetime => parseDatetime chrono datetime
      | none => .error "No timestamp in vcard" }

/-- a line of a card; at its end there is nothing to go on with.  `Option.or` is
`get_or_insert`: the first value stays -/
def Card.read (card : Card) (line : List Char) : Option Card :=
  let line := (removePrefix line "item1.".toList).getD line
  match vcardProperty line "email".toList with
  | some email => some { card with addr := card.addr.or (some email) }
  | none =>
  match vcardProperty line "fn".toList with
  | some name => some { card with displayName := card.displayName.or (some name) }
  | none =>
  match base64Key line with
  | some k => some { card with key := card.key.or (some k) }
  | none =>
  match base64Photo line with
  | some p => some { card with photo := card.photo.or (some p) }
  | none =>
  match vcardProperty line "note".toList with
  | some bio => some { card with biography := card.biography.or (some bio) }
  | none =>
  match vcardProperty line "rev".toList with
  | some rev => some { card with datetime := card.datetime.or (some rev) }
  | none => if eqIgnoreAsciiCase line "END:VCARD".toList then none else some card

/-- the `while` loop: outside of a card it looks for the start of the next one -/
def parseCards (chrono : Chrono) : Option Card → List (List Char) → List VcardContact
  | _, [] => []
  | none, line :: lines =>
    if eqIgnoreAsciiCase line "BEGIN:VCARD".toList then parseCards chrono (some {}) lines
    else parseCards chrono none lines
  | some card, line :: lines =>
    match card.read line with
    | some card => parseCards chrono (some card) lines
    | none => card.contact chrono :: parseCards chrono none lines

/-- `NEWLINE_AND_SPACE_OR_TAB.replace_all(vcard, "")` -/
def unfold : List Char → List Char
  | [] => []
  | '\r' :: '\n' :: c :: cs =>
    if c = '\t' ∨ c = ' ' then unfold cs else '\r' :: '\n' :: unfold (c :: cs)
  | '\n' :: c :: cs => if c = '\t' ∨ c = ' ' then unfold cs else '\n' :: unfold (c :: cs)
  | c :: cs => c :: unfold cs

/-- a line ending at the end of a line is removed, with one carriage return -/
def stripCr (line : List Char) : List Char :=
  if line.getLast? = some '\r' then line.dropLast else line

/-- `str::lines`; what stands behind the last line feed is a line if it is not empty -/
def lines (text : List Char) : List (List Char) :=
  let pieces := text.splitOn '\n'
  pieces.dropLast.map stripCr ++ (pieces.getLast?.filter (· ≠ [])).toList

def parseVcard (chrono : Chrono) (vcard : String) : List VcardContact :=
  parseCards chrono none (lines (unfold vcard.toList))

/-! ## escaping is undone -/

section
variable {chrono : Chrono} {card card' : Card} {line : List Char} {rest : List (List Char)}
variable {ls : List (List Char)} {c : VcardContact}

def escapeChar (c : Char) : List Char :=
  if c = '\\' then ['\\', '\\']
  else if c = ',' then ['\\', ',']
  else if c = ';' then ['\\', ';']
  else if c = '\n' then ['\\', 'n']
  else [c]

/-- no replacement sees what an earlier one wrote, except the backslash -/
theorem escape_eq_flatMap (s : List Char) : escape s = s.flatMap escapeChar := by
  unfold escape
  rw [replace_singleton, replace_singleton, replace_singleton, replace_singleton,
    List.flatMap_assoc, List.flatMap_assoc, List.flatMap_assoc]
  refine List.flatMap_congr fun c _ => ?_
  unfold escapeChar
  split_ifs <;> simp [*]

theorem unescape_escapeChar (c : Char) (cs : List Char) :
    unescape (escapeChar c ++ cs) = c :: unescape cs := by
  unfold escapeChar
  split_ifs with h₁ h₂ h₃ h₄
  · rw [h₁]; rfl
  · rw [h₂]; rfl
  · rw [h₃]; rfl
  · rw [h₄]; rfl
  · rw [List.singleton_append, unescape]
    exact fun _ _ h _ => h₁ h

theorem unescape_escape (s : List Char) : unescape (escape s) = s := by
  rw [escape_eq_flatMap]
  induction s with
  | nil => rfl
  | cons c s ih => rw [List.flatMap_cons, unescape_escapeChar, ih]

theorem not_mem_escape (s : List Char) : '\n' ∉ escape s := by
  rw [escape_eq_flatMap, List.mem_flatMap]
  rintro ⟨c, -, hc⟩
  unfold escapeChar at hc
  split_ifs at hc with h₁ h₂ h₃ h₄
  · exact absurd hc (by decide)
  · exact absurd hc (by decide)
  · exact absurd hc (by decide)
  · exact absurd hc (by decide)
  · exact h₄ (List.mem_singleton.mp hc).symm

theorem unescape_of_not_mem {s : List Char} (h : '\\' ∉ s) : unescape s = s := by
  induction s with
  | nil => rfl
  | cons c s ih =>
    rw [List.mem_cons, not_or] at h
    rw [unescape, ih h.2]
    exact fun _ _ hc _ => h.1 hc.symm

/-! ## the lines are found again -/

theorem unfold_eq_self {cs : List Char} (htab : ¬ ['\n', '\t'] <:+: cs)
    (hspace : ¬ ['\n', ' '] <:+: cs) : unfold cs = cs := by
  -- a tail that starts at `front` has no fold either
  have htail (front : List Char) {cs : List Char} (c : Char) (h : ¬ ['\n', c] <:+: front ++ cs) :
      ¬ ['\n', c] <:+: cs := fun hin => h (hin.trans (List.suffix_append front cs).isInfix)
  have hhead (front : List Char) {cs : List Char} {c : Char}
      (htab : ¬ ['\n', '\t'] <:+: front ++ '\n' :: c :: cs)
      (hspace : ¬ ['\n', ' '] <:+: front ++ '\n' :: c :: cs) (hc : c = '\t' ∨ c = ' ') : False := by
    rcases hc with rfl | rfl
    · exact htab ⟨front, cs, by simp⟩
    · exact hspace ⟨front, cs, by simp⟩
  fun_induction unfold cs with
  | case1 => rfl
  | case2 c cs hc => exact (hhead ['\r'] htab hspace hc).elim
  | case3 c cs hc ih =>
    rw [ih (htail ['\r', '\n'] _ htab) (htail ['\r', '\n'] _ hspace)]
  | case4 c cs hc => exact (hhead [] htab hspace hc).elim
  | case5 c cs hc ih =>
    rw [ih (htail ['\n'] _ htab) (htail ['\n'] _ hspace)]
  | case6 c cs _ _ ih =>
    rw [ih (htail [c] _ htab) (htail [c] _ hspace)]

structure Written (line : List Char) : Prop where
  newline : '\n' ∉ line
  head : line.head? ≠ some '\t' ∧ line.head? ≠ some ' '

theorem splitOn_flatMap_crlf (h : ∀ l ∈ ls, Written l) :
    (ls.flatMap (· ++ crlf)).splitOn '\n' = ls.map (· ++ ['\r']) ++ [[]] := by
  have hcr : ∀ l ∈ ls.map (· ++ ['\r']), '\n' ∉ l := fun l hl => by
    obtain ⟨l', hl', rfl⟩ := List.mem_map.mp hl
    rw [List.mem_append, not_or]
    exact ⟨(h l' hl').newline, by decide⟩
  have hsplit := splitOn_terminated hcr []
  rw [List.flatMap_map, List.append_nil] at hsplit
  have heq : ls.flatMap (· ++ crlf) = ls.flatMap (fun l => l ++ ['\r'] ++ ['\n']) := by
    refine List.flatMap_congr fun l _ => ?_
    rw [List.append_assoc]
    rfl
  rw [heq]
  exact hsplit

theorem unfold_flatMap_crlf (h : ∀ l ∈ ls, Written l) :
    unfold (ls.flatMap (· ++ crlf)) = ls.flatMap (· ++ crlf) := by
  have hsplit := splitOn_flatMap_crlf h
  have hfold (c : Char) (hc : c ≠ '\r') (hne : c ≠ '\n') (hhead : ∀ l ∈ ls, l.head? ≠ some c) :
      ¬ ['\n', c] <:+: ls.flatMap (· ++ crlf) := by
    obtain ⟨hd, tl, hs⟩ := splitOn_eq_cons '\n' (ls.flatMap (· ++ crlf))
    rw [infix_iff_of_splitOn (fun hm => hne (List.mem_singleton.mp hm).symm) hs]
    rintro ⟨l, hl, t, ht⟩
    have hl' : l ∈ ls.map (· ++ ['\r']) ++ [[]] := by
      rw [← hsplit, hs]
      exact List.mem_cons_of_mem _ hl
    rcases List.mem_append.mp hl' with hl' | hl'
    · obtain ⟨l', hmem, rfl⟩ := List.mem_map.mp hl'
      cases l' with
      | nil => exact hc (List.cons.inj ht).1
      | cons x l' => exact hhead _ hmem (congrArg some (List.cons.inj ht).1.symm)
    · rw [List.mem_singleton.mp hl'] at ht
      cases ht
  exact unfold_eq_self (hfold '\t' (by decide) (by decide) fun l hl => (h l hl).head.1)
    (hfold ' ' (by decide) (by decide) fun l hl => (h l hl).head.2)

theorem stripCr_append (l : List Char) : stripCr (l ++ ['\r']) = l := by
  rw [stripCr, List.getLast?_concat, if_pos rfl, List.dropLast_concat]

theorem lines_unfold_flatMap (h : ∀ l ∈ ls, Written l) :
    lines (unfold (ls.flatMap (· ++ crlf))) = ls := by
  unfold lines
  rw [unfold_flatMap_crlf h, splitOn_flatMap_crlf h]
  dsimp only
  rw [List.dropLast_concat, List.getLast?_concat, List.map_map]
  show ls.map (fun l => stripCr (l ++ ['\r'])) ++ [] = ls
  rw [List.append_nil]
  conv_rhs => rw [← List.map_id ls]
  exact List.map_congr_left fun l _ => stripCr_append l

/-! ## a card gives back its contact -/

theorem read_email (card : Card) (v : List Char) : card.read ("EMAIL:".toList ++ v) =
    some { card with addr := card.addr.or (some (String.ofList (unescape v))) } := rfl

theorem read_fn (card : Card) (v : List Char) : card.read ("FN:".toList ++ v) =
    some { card with displayName := card.displayName.or (some (String.ofList (unescape v))) } := rfl

theorem read_key (card : Card) (v : List Char) :
    card.read ("KEY:data:application/pgp-keys;base64\\,".toList ++ v) =
      some { card with key := card.key.or (some (String.ofList v)) } := rfl

theorem read_photo (card : Card) (v : List Char) :
    card.read ("PHOTO:data:image/jpeg;base64\\,".toList ++ v) =
      some { card with photo := card.photo.or (some (String.ofList v)) } := rfl

theorem read_note (card : Card) (v : List Char) : card.read ("NOTE:".toList ++ v) =
    some { card with biography := card.biography.or (some (String.ofList (unescape v))) } := rfl

theorem read_rev (card : Card) (v : List Char) : card.read ("REV:".toList ++ v) =
    some { card with datetime := card.datetime.or (some (String.ofList (unescape v))) } := rfl

def cardLines (chrono : Chrono) (c : VcardContact) : List (List Char) :=
  ["BEGIN:VCARD".toList, "VERSION:4.0".toList, "EMAIL:".toList ++ escape c.addr.toList,
    "FN:".toList ++ escape c.displayName.toList] ++
  (c.key.map fun key => "KEY:data:application/pgp-keys;base64\\,".toList ++ key.toList).toList ++
  (c.profileImage.map fun image =>
    "PHOTO:data:image/jpeg;base64\\,".toList ++ image.toList).toList ++
  (c.biography.map fun bio => "NOTE:".toList ++ escape bio.toList).toList ++
  ((formatTimestamp chrono c).map fun timestamp => "REV:".toList ++ timestamp.toList).toList ++
  ["END:VCARD".toList]

theorem flatMap_optional (value : Option String) (f : String → List Char) :
    (value.map f).toList.flatMap (· ++ crlf) =
      match value with
      | some s => f s ++ crlf
      | none => [] := by
  cases value with
  | none => rfl
  | some s => exact List.append_nil _

theorem makeCard_eq (chrono : Chrono) (c : VcardContact) :
    makeCard chrono c = (cardLines chrono c).flatMap (· ++ crlf) := by
  unfold makeCard cardLines
  rw [List.flatMap_append, List.flatMap_append, List.flatMap_append, List.flatMap_append,
    List.flatMap_append, flatMap_optional, flatMap_optional, flatMap_optional, flatMap_optional]
  -- what the fixed texts are does not matter, and `simp` is not to look into them
  generalize "BEGIN:VCARD".toList = start, "VERSION:4.0".toList = version,
    "EMAIL:".toList = email, "FN:".toList = name, "END:VCARD".toList = stop
  simp only [List.flatMap_cons, List.flatMap_nil, List.append_assoc, List.append_nil]

theorem makeVcard_eq (chrono : Chrono) (contacts : List VcardContact) :
    makeVcard chrono contacts =
      String.ofList ((contacts.flatMap (cardLines chrono)).flatMap (· ++ crlf)) := by
  have hfoldl (res : List Char) : contacts.foldl (fun res c => res ++ makeCard chrono c) res =
      res ++ (contacts.flatMap (cardLines chrono)).flatMap (· ++ crlf) := by
    induction contacts generalizing res with
    | nil => exact (List.append_nil res).symm
    | cons c contacts ih =>
      rw [List.foldl_cons, ih, makeCard_eq, List.flatMap_cons, List.flatMap_append,
        List.append_assoc]
  rw [makeVcard, hfoldl, List.nil_append]

theorem parseCards_optional {value : Option String} {f : String → List Char}
    (set : Option String → Card)
    (h : ∀ s, value = some s → (set none).read (f s) = some (set (some s))) :
    parseCards chrono (some (set none)) ((value.map f).toList ++ rest) =
      parseCards chrono (some (set value)) rest := by
  cases value with
  | none => rfl
  | some s =>
    show parseCards chrono (some (set none)) (f s :: rest) = _
    rw [parseCards, h s rfl]

structure Exportable (c : VcardContact) : Prop where
  sanitized : sanitizeNameAndAddr c.displayName c.addr = (c.authname, c.addr)
  key : ∀ key, c.key = some key → '\n' ∉ key.toList
  profileImage : ∀ image, c.profileImage = some image → '\n' ∉ image.toList
  timestamp : ∃ t, c.timestamp = .ok t ∧ FourDigitYear t

def Chrono.ParsesBack (chrono : Chrono) (c : VcardContact) : Prop :=
  ∀ t, c.timestamp = .ok t → FourDigitYear t → ∃ s, chrono.format t = some s ∧
    s.toList.all (fun c => c.isDigit || c == 'T' || c == 'Z') ∧ chrono.parseFromStr s = .ok t

def VcardContact.toCard (c : VcardContact) (key photo biography datetime : Option String) : Card :=
  ⟨some c.displayName, some c.addr, key, photo, biography, datetime⟩

theorem contact_toCard (hc : Exportable c) {datetime : String}
    (h : parseDatetime chrono datetime = c.timestamp) :
    (c.toCard c.key c.profileImage c.biography (some datetime)).contact chrono = c := by
  unfold Card.contact VcardContact.toCard
  simp only [Option.getD_some, hc.sanitized, h]

theorem ofList_unescape_escape (s : String) : String.ofList (unescape (escape s.toList)) = s := by
  rw [unescape_escape, String.ofList_toList]

theorem parseCards_first (c : VcardContact) (ls : List (List Char)) :
    parseCards chrono none
      ("BEGIN:VCARD".toList :: "VERSION:4.0".toList :: ("EMAIL:".toList ++ escape c.addr.toList) ::
        ("FN:".toList ++ escape c.displayName.toList) :: ls) =
      parseCards chrono (some (c.toCard none none none none)) ls := by
  rw [parseCards, if_pos (by decide), parseCards]
  show parseCards chrono (some {}) _ = _
  rw [parseCards, read_email, ofList_unescape_escape]
  show parseCards chrono (some _) _ = _
  rw [parseCards, read_fn, ofList_unescape_escape]
  rfl

theorem formatTimestamp_spec (hc : Exportable c) (hdate : chrono.ParsesBack c) :
    ∃ s, formatTimestamp chrono c = some s ∧ '\\' ∉ s.toList ∧ '\n' ∉ s.toList ∧
      parseDatetime chrono s = c.timestamp := by
  obtain ⟨t, ht, hyear⟩ := hc.timestamp
  obtain ⟨s, hs, hchars, hparse⟩ := hdate t ht hyear
  refine ⟨s, ?_, fun h => ?_, fun h => ?_, ?_⟩
  · rw [formatTimestamp, ht]
    exact hs
  · exact absurd (List.all_eq_true.mp hchars _ h) (by decide)
  · exact absurd (List.all_eq_true.mp hchars _ h) (by decide)
  · rw [parseDatetime, hparse, ht]

theorem parseCards_cardLines (hc : Exportable c) (hdate : chrono.ParsesBack c)
    (rest : List (List Char)) :
    parseCards chrono none (cardLines chrono c ++ rest) = c :: parseCards chrono none rest := by
  obtain ⟨s, hformat, hslash, -, hdatetime⟩ := formatTimestamp_spec hc hdate
  unfold cardLines
  simp only [List.append_assoc, List.cons_append, List.nil_append]
  rw [parseCards_first,
    parseCards_optional (c.toCard · none none none) fun key _ => by
      rw [read_key, String.ofList_toList]; rfl,
    parseCards_optional (c.toCard c.key · none none) fun image _ => by
      rw [read_photo, String.ofList_toList]; rfl,
    parseCards_optional (c.toCard c.key c.profileImage · none) fun bio _ => by
      rw [read_note, ofList_unescape_escape]; rfl,
    hformat,
    parseCards_optional (c.toCard c.key c.profileImage c.biography ·) fun rev hrev => by
      cases hrev
      rw [read_rev, unescape_of_not_mem hslash, String.ofList_toList]; rfl,
    parseCards]
  show Card.contact chrono _ :: _ = _
  rw [contact_toCard hc hdatetime]

theorem Written.append {p v : List Char} (hp : Written p) (hne : p ≠ []) (hv : '\n' ∉ v) :
    Written (p ++ v) := by
  refine ⟨fun hm => (List.mem_append.mp hm).elim hp.newline hv, ?_⟩
  rw [List.head?_append_of_ne_nil p hne]
  exact hp.head

theorem written_cardLines (hc : Exportable c) (hdate : chrono.ParsesBack c) :
    ∀ l ∈ cardLines chrono c, Written l := by
  obtain ⟨s, hformat, -, hnewline, -⟩ := formatTimestamp_spec hc hdate
  intro l hl
  unfold cardLines at hl
  simp only [hformat, List.mem_append, List.mem_cons, List.not_mem_nil, or_false, Option.mem_toList,
    Option.map_eq_some_iff, Option.map_some, Option.some.injEq] at hl
  rcases hl with (((((rfl | rfl | rfl | rfl) | ⟨key, hkey, rfl⟩) | ⟨image, himage, rfl⟩) |
    ⟨bio, -, rfl⟩) | rfl) | rfl
  · exact ⟨by decide, by decide⟩
  · exact ⟨by decide, by decide⟩
  · exact Written.append ⟨by decide, by decide⟩ (by decide) (not_mem_escape _)
  · exact Written.append ⟨by decide, by decide⟩ (by decide) (not_mem_escape _)
  · exact Written.append ⟨by decide, by decide⟩ (by decide) (hc.key key hkey)
  · exact Written.append ⟨by decide, by decide⟩ (by decide) (hc.profileImage image himage)
  · exact Written.append ⟨by decide, by decide⟩ (by decide) (not_mem_escape _)
  · exact Written.append ⟨by decide, by decide⟩ (by decide) hnewline
  · exact ⟨by decide, by decide⟩

theorem parseCards_flatMap {contacts : List VcardContact} (h : ∀ c ∈ contacts, Exportable c)
    (hdate : ∀ c ∈ contacts, chrono.ParsesBack c) :
    parseCards chrono none (contacts.flatMap (cardLines chrono)) = contacts := by
  induction contacts with
  | nil => rfl
  | cons c contacts ih =>
    obtain ⟨hc, h⟩ := List.forall_mem_cons.mp h
    obtain ⟨hcdate, hdate⟩ := List.forall_mem_cons.mp hdate
    rw [List.flatMap_cons, parseCards_cardLines hc hcdate, ih h hdate]

/-- **export and import are inverse**: the contacts come back, all of them, in their order and with
every field -/
theorem parseVcard_makeVcard (chrono : Chrono) (contacts : List VcardContact)
    (h : ∀ c ∈ contacts, Exportable c) (hdate : ∀ c ∈ contacts, chrono.ParsesBack c) :
    parseVcard chrono (makeVcard chrono contacts) = contacts := by
  have hwritten : ∀ l ∈ contacts.flatMap (cardLines chrono), Written l := fun l hl => by
    obtain ⟨c, hc, hl⟩ := List.mem_flatMap.mp hl
    exact written_cardLines (h c hc) (hdate c hc) l hl
  rw [parseVcard, makeVcard_eq, String.toList_ofList, lines_unfold_flatMap hwritten,
    parseCards_flatMap h hdate]

end

/-! ## an address book -/

def isLeap (y : ℕ) : Bool := y % 4 = 0 && (y % 100 ≠ 0 || y % 400 = 0)

/-- the days of all years before a year, from the year 0 -/
def daysBefore (y : ℕ) : ℕ := 365 * y + (y + 3) / 4 - (y + 99) / 100 + (y + 399) / 400

/-- the days of a year, as `MMDD` -/
def days (leap : Bool) : List ℕ :=
  ([31, if leap then 29 else 28, 31, 30, 31, 30, 31, 31, 30, 31, 30, 31].zipIdx 1).flatMap
    fun (n, month) => (List.range n).map fun day => 100 * month + (day + 1)

def digits (w n : ℕ) : List Char := (Nat.toDigits 10 n).leftpad w '0'

def value (l : List Char) : ℕ := l.foldl (fun n c => 10 * n + (c.toNat - 48)) 0

/-- the seconds since the beginning of the year 0, as `YYYYMMDDTHHMMSS` -/
def writeDate (t : ℕ) : List Char :=
  let day := t / 86400
  let s := t % 86400
  let y := Nat.findGreatest (fun y => daysBefore y ≤ day) (day / 365)
  digits 4 y ++ digits 4 ((days (isLeap y)).getD (day - daysBefore y) 0) ++
    'T' :: digits 6 (s / 3600 * 10000 + s / 60 % 60 * 100 + s % 60)

def readDate (l : List Char) : Option ℕ :=
  let y := value (l.take 4)
  let day := value ((l.drop 4).take 4)
  let time := value (l.drop 9)
  if l.length = 15 ∧ l[8]? = some 'T' ∧ (l.eraseIdx 8).all Char.isDigit ∧ day ∈ days (isLeap y) ∧
      time / 10000 < 24 ∧ time / 100 % 100 < 60 ∧ time % 100 < 60 then
    some ((daysBefore y + (days (isLeap y)).idxOf day) * 86400 + time / 10000 * 3600 +
      time / 100 % 100 * 60 + time % 100)
  else none

/-- the years 0 to 9999, in UTC -/
def utc : Chrono where
  format t := if FourDigitYear t then
      some (String.ofList (writeDate (t.val + 62167219200).toNat ++ ['Z']))
    else none
  parseFromStr s :=
    match (if s.toList.getLast? = some 'Z' then readDate s.toList.dropLast else none) with
    | some n => (I64.ofInt? (n - 62167219200)).elim (.error "input is out of range") .ok
    | none => .error "input contains invalid characters"
  parseLocal s := (readDate s.toList).map fun n => I64.ofInt? (n - 62167219200)

def alice : VcardContact where
  addr := "alice@example.org"
  authname := "Alice, W."
  key := some "a2V5"
  profileImage := none
  biography := some "Hi;\r\n I'm here: \\"
  timestamp := .ok I64.zero

def bob : VcardContact := ⟨"bob@example.net", "", none, some "", none, .ok I64.zero⟩

theorem parseVcard_makeVcard_pair :
    formatTimestamp utc alice = some "19700101T000000Z" ∧
    parseVcard utc (makeVcard utc [alice, bob]) = [alice, bob] := by
  have hdate : ∀ c ∈ [alice, bob], utc.ParsesBack c := by
    have hzero : utc.parseFromStr "19700101T000000Z" = .ok I64.zero := by decide +kernel
    rintro c hc t ht -
    have htime : c.timestamp = .ok I64.zero := by
      rw [List.mem_cons, List.mem_singleton] at hc
      rcases hc with rfl | rfl <;> rfl
    cases htime.symm.trans ht
    exact ⟨"19700101T000000Z", by decide +kernel, by decide +kernel, hzero⟩
  refine ⟨by decide +kernel, parseVcard_makeVcard utc [alice, bob] (fun c hc => ?_) hdate⟩
  rw [List.mem_cons, List.mem_singleton] at hc
  rcases hc with rfl | rfl
  · refine ⟨by decide, ?_, ?_, I64.zero, rfl, by decide, by decide⟩
    · rintro key ⟨⟩
      decide
    · rintro image ⟨⟩
  · refine ⟨by decide, ?_, ?_, I64.zero, rfl, by decide, by decide⟩
    · rintro key ⟨⟩
    · rintro image ⟨⟩
      decide

end EpsilonChat.Vcard
