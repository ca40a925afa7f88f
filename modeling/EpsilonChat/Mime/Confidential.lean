import EpsilonChat.Mime.Headers

/-!
# Which headers an outgoing message shows

`group_headers_by_confidentiality` splits the headers of an outgoing message: some stand in the
header section for everybody, some only in the encrypted part, and some are replaced by a stub in the
one and kept in the other.  `add_headers_to_encrypted_part` writes them into the encrypted part, from
where `merge_headers` of the receiver reads them.

* `unprotected_eq`: the header section of an encrypted message does not depend on what the other
  headers say;
* `group_inside`: the protected and the hidden headers together are the whole list;
* `parse_fields`, `mergeFields_value`: the receiver gets the last value that was written, not the
  stub;
* **`headers_confidential`**: both, and no secret in an unencrypted message.
  Chat-Disposition-Notification-To is not found in the map but in a variable of its own, and a
  header HP-Outer would be overwritten (`headers_not_in_map`).

`mail_builder`, `mailparse` and `chrono` are functions of their input: `Wire.read` is what the
receiver reads of a header that was written, `rfc2822` is `none` for a date that `chrono` does not
have.
-/

namespace EpsilonChat.Mime

inductive Address where
  | address (name : Option String) (email : String)
  | group (name : Option String) (addresses : List Address)
  | list (addresses : List Address)

inductive HeaderType where
  | address (address : Address)
  | contentType (ctype : String) (attributes : List (String × String))
  | date (timestamp : I64)
  | messageId (ids : List String)
  | raw (text : String)
  | text (text : String)
  | url (urls : List String)

abbrev HeaderName := { name : String // ':' ∉ name.toList }

structure Header where
  name : HeaderName
  value : HeaderType

/-! ## `group_headers_by_confidentiality` -/

structure HeadersByConfidentiality where
  unprotectedHeaders : List Header := []
  hiddenHeaders : List Header := []
  protectedHeaders : List Header := []

def HeadersByConfidentiality.append (a b : HeadersByConfidentiality) : HeadersByConfidentiality where
  unprotectedHeaders := a.unprotectedHeaders ++ b.unprotectedHeaders
  hiddenHeaders := a.hiddenHeaders ++ b.hiddenHeaders
  protectedHeaders := a.protectedHeaders ++ b.protectedHeaders

def hiddenRecipients : Address := .group (some "hidden-recipients") []

/-- the other arguments of the function, and the libraries -/
structure Compose where
  parser : Mailparse
  /-- `from_timestamp` and `to_rfc2822` -/
  rfc2822 : I64 → Option String
  fromAddr : String
  timestamp : I64
  isEncrypted : Bool
  isSecurejoinMessage : Bool

section
variable (c : Compose)

/-- `rand::random_range(0..518400)` -/
abbrev Offset := Fin 518400

/-- the date for the header section; `unwrap` panics without one -/
def unprotectedDate (offset : Offset) : Option String :=
  c.rfc2822 (I64.saturatingSub c.timestamp ⟨(offset.val : ℤ), by have := offset.2; omega⟩)

/-- one round of the loop: what is pushed for a header -/
def pushes (offset : Offset) (header : Header) : Option HeadersByConfidentiality :=
  let headerName := c.parser.toLowercase header.name.val
  if headerName = "message-id" then
    some { unprotectedHeaders := [header], hiddenHeaders := [header] }
  else if isHidden headerName then some { hiddenHeaders := [header] }
  else if headerName = "from" then
    some {
      -- an unencrypted securejoin message does not have the display name
      protectedHeaders := if c.isEncrypted || !c.isSecurejoinMessage then [header] else []
      unprotectedHeaders := [⟨header.name, .address (.address none c.fromAddr)⟩] }
  else if headerName = "to" then
    some {
      protectedHeaders := [header]
      unprotectedHeaders :=
        if c.isEncrypted then [⟨⟨"To", by decide⟩, .address hiddenRecipients⟩] else [header] }
  else if headerName = "chat-broadcast-secret" then
    some { protectedHeaders := if c.isEncrypted then [header] else [] }
  else if c.isEncrypted && headerName = "date" then
    (unprotectedDate c offset).map fun date =>
      { protectedHeaders := [header], unprotectedHeaders := [⟨⟨"Date", by decide⟩, .raw date⟩] }
  else if c.isEncrypted then
    some {
      protectedHeaders := [header]
      unprotectedHeaders :=
        if headerName = "subject" then [⟨⟨"Subject", by decide⟩, .raw "[...]"⟩]
        else if headerName = "chat-version" ∨ headerName = "autocrypt-setup-message" ∨
            headerName = "chat-is-post-message" then [header]
        else [] }
  else some { unprotectedHeaders := [header] }

/-- the loop; `offset i` is drawn for the `i`-th header, if it needs one -/
def pushAll : (ℕ → Offset) → List Header → Option HeadersByConfidentiality
  | _, [] => some {}
  | offset, header :: headers =>
    (pushes c (offset 0) header).bind fun a =>
      (pushAll (fun i => offset (i + 1)) headers).map fun b => a.append b

def mimeVersion : Header := ⟨⟨"MIME-Version", by decide⟩, .raw "1.0"⟩

def groupHeadersByConfidentiality (offset : ℕ → Offset) (headers : List Header) :
    Option HeadersByConfidentiality :=
  (pushAll c offset headers).map fun b =>
    HeadersByConfidentiality.append { unprotectedHeaders := [mimeVersion] } b

end

/-! ## `add_headers_to_encrypted_part` -/

structure MimePart where
  headers : List (String × HeaderType)
  first : ∃ ctype attributes rest, headers = ("Content-Type", .contentType ctype attributes) :: rest

def MimePart.header (part : MimePart) (name : String) (value : HeaderType) : MimePart where
  headers := part.headers ++ [(name, value)]
  first := by
    obtain ⟨ctype, attributes, rest, h⟩ := part.first
    exact ⟨ctype, attributes, rest ++ [(name, value)], by rw [h, List.cons_append]⟩

def isStructural (name : String) : Bool :=
  ["mime-version", "content-type", "content-transfer-encoding", "content-disposition"].contains
    (Text.asciiLowercase name)

def markContentType : List (String × HeaderType) → List (String × HeaderType)
  | [] => []
  | (name, .contentType ctype attributes) :: headers =>
    if name = "Content-Type" then
      (name, .contentType ctype (attributes ++ [("protected-headers", "v1"), ("hp", "cipher")])) ::
        headers
    else (name, .contentType ctype attributes) :: markContentType headers
  | header :: headers => header :: markContentType headers

theorem markContentType_first (ctype : String) (attributes : List (String × String))
    (rest : List (String × HeaderType)) :
    markContentType (("Content-Type", .contentType ctype attributes) :: rest) =
      ("Content-Type", .contentType ctype
        (attributes ++ [("protected-headers", "v1"), ("hp", "cipher")])) :: rest := by
  rw [markContentType, if_pos rfl]

def MimePart.mark (part : MimePart) : MimePart where
  headers := markContentType part.headers
  first := by
    obtain ⟨ctype, attributes, rest, h⟩ := part.first
    exact ⟨ctype, _, rest, by rw [h, markContentType_first]⟩

def addHeadersToEncryptedPart (message : MimePart) (unprotectedHeaders hiddenHeaders
    protectedHeaders : List Header) : MimePart :=
  let message := protectedHeaders.foldl (fun m h => m.header h.name.val h.value) message
  let message := hiddenHeaders.foldl (fun m h => m.header h.name.val h.value) message
  let message := (unprotectedHeaders.filter fun h => !isStructural h.name.val).foldl
    (fun m h => m.header ("HP-Outer: " ++ h.name.val) h.value) message
  message.mark

/-- writing a header with `mail_builder` and reading it with `mailparse`: the name ends at the first
colon of the line -/
structure Wire where
  read : String → HeaderType → MailHeader
  read_key : ∀ name value, (read name value).key = String.ofList (name.toList.takeWhile (· ≠ ':'))

def hasHp (toLowercase : String → String) (headers : List (String × HeaderType)) : Bool :=
  match headers.find? fun h => toLowercase h.1 == "content-type" with
  | some (_, .contentType _ attributes) => attributes.any fun a => toLowercase a.1 == "hp"
  | _ => false

def Wire.parse (W : Wire) (toLowercase : String → String) (part : MimePart) : ParsedMail where
  headers := part.headers.map fun h => W.read h.1 h.2
  hp := hasHp toLowercase part.headers

/-! ## what everybody sees -/

/-- the same name, and the same value if it is one of those that are not hidden -/
def SameOutside (toLowercase : String → String) (h h' : Header) : Prop :=
  h.name = h'.name ∧
    (["message-id", "chat-version", "autocrypt-setup-message", "chat-is-post-message"].contains
      (toLowercase h.name.val) → h.value = h'.value)

section
variable {c : Compose}
variable {h x : Header} {headers : List Header} {offset : Offset} {a : HeadersByConfidentiality}

def goesHidden (c : Compose) (h : Header) : Bool :=
  c.parser.toLowercase h.name.val == "message-id" || isHidden (c.parser.toLowercase h.name.val)

def stub (c : Compose) (offset : Offset) (h : Header) : Option (List Header) :=
  let headerName := c.parser.toLowercase h.name.val
  if headerName = "from" then some [⟨h.name, .address (.address none c.fromAddr)⟩]
  else if headerName = "to" then some [⟨⟨"To", by decide⟩, .address hiddenRecipients⟩]
  else if headerName = "chat-broadcast-secret" then some []
  else if headerName = "date" then
    (unprotectedDate c offset).map fun date => [⟨⟨"Date", by decide⟩, .raw date⟩]
  else some (if headerName = "subject" then [⟨⟨"Subject", by decide⟩, .raw "[...]"⟩]
    else if headerName = "chat-version" ∨ headerName = "autocrypt-setup-message" ∨
      headerName = "chat-is-post-message" then [h] else [])

theorem pushes_encrypted (henc : c.isEncrypted = true) (offset : Offset) (h : Header) :
    pushes c offset h =
      if goesHidden c h then
        some {
          unprotectedHeaders := if c.parser.toLowercase h.name.val = "message-id" then [h] else []
          hiddenHeaders := [h] }
      else (stub c offset h).map fun u => { unprotectedHeaders := u, protectedHeaders := [h] } := by
  unfold pushes stub goesHidden
  simp only [henc, Bool.true_or, Bool.true_and, if_true, decide_eq_true_eq, apply_ite (Option.map _),
    Option.map_some, Option.map_map]
  by_cases hid : c.parser.toLowercase h.name.val = "message-id"
  · simp [hid]
  · simp only [hid, if_false, beq_eq_false_iff_ne.mpr hid, Bool.false_or]
    rfl

theorem pushes_unprotected_eq (henc : c.isEncrypted = true) (offset : Offset) {h' : Header}
    (hsame : SameOutside c.parser.toLowercase h h') :
    (pushes c offset h).map HeadersByConfidentiality.unprotectedHeaders =
      (pushes c offset h').map HeadersByConfidentiality.unprotectedHeaders := by
  obtain ⟨name, value⟩ := h
  obtain ⟨name', value'⟩ := h'
  obtain ⟨rfl, hvalue⟩ := hsame
  by_cases hshown : ["message-id", "chat-version", "autocrypt-setup-message",
      "chat-is-post-message"].contains (c.parser.toLowercase name.val) = true
  case pos =>
    have hv : value = value' := hvalue hshown
    rw [hv]
  case neg =>
    -- the value is not used in any branch that is left
    simp only [List.contains_iff_mem, List.mem_cons, List.not_mem_nil, or_false, not_or] at hshown
    obtain ⟨hid, hversion, hsetup, hpost⟩ := hshown
    have hstub : stub c offset ⟨name, value⟩ = stub c offset ⟨name, value'⟩ := by
      simp only [stub, hversion, hsetup, hpost, or_self, if_false]
    have hgoes : goesHidden c ⟨name, value⟩ = goesHidden c ⟨name, value'⟩ := rfl
    rw [pushes_encrypted henc, pushes_encrypted henc, hstub, hgoes, if_neg hid, if_neg hid]
    split
    · rfl
    · rw [Option.map_map, Option.map_map]
      rfl

theorem pushAll_map (offset : ℕ → Offset) (h : Header) (headers : List Header) :
    (pushAll c offset (h :: headers)).map HeadersByConfidentiality.unprotectedHeaders =
      ((pushes c (offset 0) h).map HeadersByConfidentiality.unprotectedHeaders).bind fun u =>
        ((pushAll c (fun i => offset (i + 1)) headers).map
          HeadersByConfidentiality.unprotectedHeaders).map (u ++ ·) := by
  rw [pushAll]
  cases pushes c (offset 0) h with
  | none => rfl
  | some a =>
    simp only [Option.bind_some, Option.map_some, Option.map_map]
    rfl

theorem pushAll_unprotected_eq (henc : c.isEncrypted = true) (offset : ℕ → Offset)
    {headers' : List Header}
    (hsame : List.Forall₂ (SameOutside c.parser.toLowercase) headers headers') :
    (pushAll c offset headers).map HeadersByConfidentiality.unprotectedHeaders =
      (pushAll c offset headers').map HeadersByConfidentiality.unprotectedHeaders := by
  induction hsame generalizing offset with
  | nil => rfl
  | cons hh _ ih => rw [pushAll_map, pushAll_map, pushes_unprotected_eq henc _ hh, ih]

/-- **the header section does not tell** what the other headers say -/
theorem unprotected_eq (henc : c.isEncrypted = true) (offset : ℕ → Offset)
    {headers' : List Header}
    (hsame : List.Forall₂ (SameOutside c.parser.toLowercase) headers headers') :
    (groupHeadersByConfidentiality c offset headers).map HeadersByConfidentiality.unprotectedHeaders =
      (groupHeadersByConfidentiality c offset headers').map
        HeadersByConfidentiality.unprotectedHeaders := by
  have hall := pushAll_unprotected_eq henc offset hsame
  have hmap := congrArg (Option.map (mimeVersion :: ·)) hall
  rw [Option.map_map, Option.map_map] at hmap
  unfold groupHeadersByConfidentiality
  rw [Option.map_map, Option.map_map]
  exact hmap

/-! ## nothing is lost -/

theorem pushes_inside (henc : c.isEncrypted = true) (ha : pushes c offset h = some a) :
    a.protectedHeaders = (if goesHidden c h then [] else [h]) ∧
      a.hiddenHeaders = if goesHidden c h then [h] else [] := by
  rw [pushes_encrypted henc] at ha
  split at ha
  · next hgoes =>
    cases ha
    rw [if_pos hgoes, if_pos hgoes]
    exact ⟨rfl, rfl⟩
  · next hgoes =>
    obtain ⟨u, -, rfl⟩ := Option.map_eq_some_iff.mp ha
    rw [if_neg hgoes, if_neg hgoes]
    exact ⟨rfl, rfl⟩

theorem pushAll_inside (henc : c.isEncrypted = true) {offset : ℕ → Offset}
    (ha : pushAll c offset headers = some a) :
    a.protectedHeaders = headers.filter (fun h => !goesHidden c h) ∧
      a.hiddenHeaders = headers.filter (goesHidden c) := by
  induction headers generalizing offset a with
  | nil =>
    cases ha
    exact ⟨rfl, rfl⟩
  | cons h headers ih =>
    obtain ⟨a₁, ha₁, hrest⟩ := Option.bind_eq_some_iff.mp ha
    obtain ⟨a₂, ha₂, rfl⟩ := Option.map_eq_some_iff.mp hrest
    obtain ⟨hprot, hhid⟩ := pushes_inside henc ha₁
    obtain ⟨hprot', hhid'⟩ := ih ha₂
    show a₁.protectedHeaders ++ a₂.protectedHeaders = _ ∧
      a₁.hiddenHeaders ++ a₂.hiddenHeaders = _
    rw [hprot, hhid, hprot', hhid', List.filter_cons, List.filter_cons]
    by_cases hgoes : goesHidden c h = true
    · simp [hgoes]
    · simp [hgoes]

theorem exists_pushAll (henc : c.isEncrypted = true)
    (hdate : ∀ offset, (unprotectedDate c offset).isSome) (offset : ℕ → Offset)
    (headers : List Header) : ∃ a, pushAll c offset headers = some a := by
  have hstub : ∀ offset h, ∃ u, stub c offset h = some u := by
    intro offset h
    obtain ⟨date, hd⟩ := Option.isSome_iff_exists.mp (hdate offset)
    unfold stub
    rw [hd, Option.map_some]
    simp only [← apply_ite some]
    exact ⟨_, rfl⟩
  have hone : ∀ offset h, ∃ a, pushes c offset h = some a := by
    intro offset h
    obtain ⟨u, hu⟩ := hstub offset h
    rw [pushes_encrypted henc, hu, Option.map_some]
    simp only [← apply_ite some]
    exact ⟨_, rfl⟩
  induction headers generalizing offset with
  | nil => exact ⟨_, rfl⟩
  | cons h headers ih =>
    obtain ⟨a, ha⟩ := hone (offset 0) h
    obtain ⟨b, hb⟩ := ih fun i => offset (i + 1)
    exact ⟨a.append b, by rw [pushAll, ha, Option.bind_some, hb, Option.map_some]⟩

theorem group_inside (henc : c.isEncrypted = true)
    (hdate : ∀ offset, (unprotectedDate c offset).isSome) (offset : ℕ → Offset)
    (headers : List Header) :
    ∃ g, groupHeadersByConfidentiality c offset headers = some g ∧
      g.protectedHeaders = headers.filter (fun h => !goesHidden c h) ∧
      g.hiddenHeaders = headers.filter (goesHidden c) := by
  obtain ⟨a, ha⟩ := exists_pushAll henc hdate offset headers
  have hinside := pushAll_inside henc ha
  refine ⟨HeadersByConfidentiality.append { unprotectedHeaders := [mimeVersion] } a, ?_, hinside⟩
  rw [groupHeadersByConfidentiality, ha, Option.map_some]

/-! ## secrets -/

theorem pushes_name (henc : c.isEncrypted = false) (ha : pushes c offset h = some a)
    (hx : x ∈ a.unprotectedHeaders ++ a.hiddenHeaders ++ a.protectedHeaders) : x.name = h.name := by
  unfold pushes at ha
  simp only [henc, Bool.false_or, Bool.false_and, Bool.false_eq_true, if_false] at ha
  split_ifs at ha
  all_goals
    cases ha
    simp at hx
    try rcases hx with rfl | rfl
    all_goals simp_all

theorem pushes_no_secret (henc : c.isEncrypted = false) (ha : pushes c offset h = some a)
    (hx : x ∈ a.unprotectedHeaders ++ a.hiddenHeaders ++ a.protectedHeaders) :
    c.parser.toLowercase x.name.val ≠ "chat-broadcast-secret" := by
  intro hname
  rw [pushes_name henc ha hx] at hname
  have hempty : pushes c offset h = some {} := by
    simp [pushes, hname, henc, isHidden]
  cases ha.symm.trans hempty
  cases hx

theorem pushAll_no_secret (henc : c.isEncrypted = false) {offset : ℕ → Offset}
    (ha : pushAll c offset headers = some a)
    (hx : x ∈ a.unprotectedHeaders ++ a.hiddenHeaders ++ a.protectedHeaders) :
    c.parser.toLowercase x.name.val ≠ "chat-broadcast-secret" := by
  induction headers generalizing offset a with
  | nil =>
    cases ha
    cases hx
  | cons h headers ih =>
    obtain ⟨a₁, ha₁, hrest⟩ := Option.bind_eq_some_iff.mp ha
    obtain ⟨a₂, ha₂, rfl⟩ := Option.map_eq_some_iff.mp hrest
    simp only [HeadersByConfidentiality.append, List.mem_append] at hx
    by_cases hfirst :
        x ∈ a₁.unprotectedHeaders ++ a₁.hiddenHeaders ++ a₁.protectedHeaders
    · exact pushes_no_secret henc ha₁ hfirst
    · refine ih ha₂ ?_
      simp only [List.mem_append] at hfirst ⊢
      tauto

end

/-! ## what the receiver reads -/

section
variable {P : Mailparse}
variable {fields : List MailHeader} {field : MailHeader}

def OnlyField (P : Mailparse) (fields : List MailHeader) (field : MailHeader) : Prop :=
  field ∈ fields ∧ ∀ f ∈ fields, P.toLowercase f.key = P.toLowercase field.key → f = field

theorem OnlyField.of_concat {last : MailHeader} (h : OnlyField P (fields ++ [last]) field)
    (hkey : P.toLowercase last.key ≠ P.toLowercase field.key) : OnlyField P fields field := by
  obtain ⟨hmem, hall⟩ := h
  refine ⟨?_, fun f hf => hall f (List.mem_append_left _ hf)⟩
  rcases List.mem_append.mp hmem with hold | hnew
  · exact hold
  · rw [List.mem_singleton.mp hnew] at hkey
    exact absurd rfl hkey

theorem OnlyField.foldl (honly : OnlyField P fields field) {Q : HeaderState → Prop}
    (hfield : ∀ s, Q (mergeField P s field))
    (hother : ∀ s f, P.toLowercase f.key ≠ P.toLowercase field.key → Q s → Q (mergeField P s f))
    (s : HeaderState) : Q (fields.foldl (mergeField P) s) := by
  induction fields using List.reverseRecOn with
  | nil => exact absurd honly.1 List.not_mem_nil
  | append_singleton fields last ih =>
    rw [List.foldl_append, List.foldl_cons, List.foldl_nil]
    by_cases hkey : P.toLowercase last.key = P.toLowercase field.key
    · rw [honly.2 last (List.mem_append_right _ List.mem_cons_self) hkey]
      exact hfield _
    · exact hother _ last hkey (ih (honly.of_concat hkey))

theorem mergeFields_value (honly : OnlyField P fields field)
    (hdisp : P.toLowercase field.key ≠ HeaderDef.chatDispositionNotificationTo.getHeadername)
    (s : HeaderState) :
    (fields.foldl (mergeField P) s).headers (P.toLowercase field.key) = some field.value := by
  refine honly.foldl (Q := fun s => s.headers (P.toLowercase field.key) = some field.value)
    (fun s => ?_) (fun s f hkey hbefore => ?_) s
  · simp only [mergeField, if_neg hdisp, Function.update_self]
  · unfold mergeField
    dsimp only
    split
    · cases P.addrparseHeader f with
      | none => exact hbefore
      | some addrlist => exact hbefore
    · show Function.update s.headers (P.toLowercase f.key) _ _ = _
      rw [Function.update_of_ne (Ne.symm hkey), hbefore]

theorem mergeFields_onlyDisposition (honly : OnlyField P fields field)
    (hdisp : P.toLowercase field.key = HeaderDef.chatDispositionNotificationTo.getHeadername)
    {addrlist : List MailAddr} (hparse : P.addrparseHeader field = some addrlist)
    (s : HeaderState) :
    (fields.foldl (mergeField P) s).chatDispositionNotificationTo = extractSingleInfo addrlist := by
  refine honly.foldl
    (Q := fun s => s.chatDispositionNotificationTo = extractSingleInfo addrlist)
    (fun s => ?_) (fun s f hkey hbefore => ?_) s
  · simp only [mergeField, if_pos hdisp, hparse]
  · have hne : P.toLowercase f.key ≠ HeaderDef.chatDispositionNotificationTo.getHeadername :=
      hdisp ▸ hkey
    simp only [mergeField, if_neg hne]
    exact hbefore

theorem foldl_header (f : Header → String) (headers : List Header) (part : MimePart) :
    (headers.foldl (fun m h => m.header (f h) h.value) part).headers =
      part.headers ++ headers.map fun h => (f h, h.value) := by
  induction headers generalizing part with
  | nil => rw [List.foldl_nil, List.map_nil, List.append_nil]
  | cons h headers ih =>
    rw [List.foldl_cons, ih, MimePart.header, List.map_cons, List.append_assoc,
      List.singleton_append]

theorem addHeaders_headers (message : MimePart) (unprotectedHeaders hiddenHeaders
    protectedHeaders : List Header) :
    ∃ before, (addHeadersToEncryptedPart message unprotectedHeaders hiddenHeaders
        protectedHeaders).headers =
      before ++ (protectedHeaders ++ hiddenHeaders).map (fun h => (h.name.val, h.value)) ++
        (unprotectedHeaders.filter fun h => !isStructural h.name.val).map
          fun h => ("HP-Outer: " ++ h.name.val, h.value) := by
  obtain ⟨ctype, attributes, rest, hfirst⟩ := message.first
  refine ⟨("Content-Type", .contentType ctype
    (attributes ++ [("protected-headers", "v1"), ("hp", "cipher")])) :: rest, ?_⟩
  have hfold := foldl_header (fun h => "HP-Outer: " ++ h.name.val)
    (unprotectedHeaders.filter fun h => !isStructural h.name.val)
    (hiddenHeaders.foldl (fun m h => m.header h.name.val h.value)
      (protectedHeaders.foldl (fun m h => m.header h.name.val h.value) message))
  rw [foldl_header (fun h => h.name.val), foldl_header (fun h => h.name.val), hfirst] at hfold
  show markContentType _ = _
  rw [hfold, List.cons_append, List.cons_append, List.cons_append, markContentType_first]
  simp only [List.map_append, List.append_assoc, List.cons_append]

theorem read_key_name (W : Wire) (name : HeaderName) (value : HeaderType) :
    (W.read name.val value).key = name.val := by
  have hall : name.val.toList.takeWhile (· ≠ ':') = name.val.toList := by
    refine List.takeWhile_eq_self_iff.mpr fun ch hch => ?_
    exact decide_eq_true fun e => name.2 (e ▸ hch)
  rw [W.read_key, hall, String.ofList_toList]

theorem read_key_outer (W : Wire) (name : String) (value : HeaderType) :
    (W.read ("HP-Outer: " ++ name) value).key = "HP-Outer" := by
  rw [W.read_key, String.toList_append]
  rfl

end

section
variable {c : Compose} (W : Wire)

theorem mem_filter_or {headers : List Header} {h : Header} :
    h ∈ headers.filter (fun h => !goesHidden c h) ++ headers.filter (goesHidden c) ↔
      h ∈ headers := by
  rw [List.mem_append, List.mem_filter, List.mem_filter]
  rcases hgoes : goesHidden c h <;> simp

theorem parse_fields (hcase : Text.AsciiLower c.parser.toLowercase) {headers : List Header}
    {g : HeadersByConfidentiality}
    (hprot : g.protectedHeaders = headers.filter (fun h => !goesHidden c h))
    (hhid : g.hiddenHeaders = headers.filter (goesHidden c))
    (hnodup : (headers.map fun h => c.parser.toLowercase h.name.val).Nodup) (message : MimePart) :
    ∃ before fields, (W.parse c.parser.toLowercase (addHeadersToEncryptedPart message
        g.unprotectedHeaders g.hiddenHeaders g.protectedHeaders)).headers = before ++ fields ∧
      ∀ h ∈ headers, c.parser.toLowercase h.name.val ≠ "hp-outer" →
        OnlyField c.parser fields (W.read h.name.val h.value) := by
  obtain ⟨before, hheaders⟩ := addHeaders_headers message g.unprotectedHeaders g.hiddenHeaders
    g.protectedHeaders
  have hlower : c.parser.toLowercase "HP-Outer" = "hp-outer" := by
    have hascii : "HP-Outer".toList.all (fun ch => decide (ch.toNat < 128)) = true := by decide
    rw [hcase "HP-Outer" fun ch hch => of_decide_eq_true (List.all_eq_true.mp hascii ch hch)]
    decide
  rw [List.append_assoc] at hheaders
  refine ⟨before.map fun h => W.read h.1 h.2,
    ((g.protectedHeaders ++ g.hiddenHeaders).map (fun h => (h.name.val, h.value)) ++
      (g.unprotectedHeaders.filter fun h => !isStructural h.name.val).map
        fun h => ("HP-Outer: " ++ h.name.val, h.value)).map fun h => W.read h.1 h.2, ?_, ?_⟩
  · rw [Wire.parse, hheaders, List.map_append]
  · intro h hh hhp
    rw [hprot, hhid]
    constructor
    · refine List.mem_map.mpr ⟨(h.name.val, h.value), List.mem_append_left _ ?_, rfl⟩
      exact List.mem_map.mpr ⟨h, mem_filter_or.mpr hh, rfl⟩
    · intro f hf hkey
      rw [read_key_name] at hkey
      obtain ⟨x, hx, rfl⟩ := List.mem_map.mp hf
      rcases List.mem_append.mp hx with hlist | hstub
      · obtain ⟨h', hh', rfl⟩ := List.mem_map.mp hlist
        rw [read_key_name] at hkey
        rw [List.inj_on_of_nodup_map hnodup (mem_filter_or.mp hh') hh hkey]
      · obtain ⟨h', -, rfl⟩ := List.mem_map.mp hstub
        rw [read_key_outer, hlower] at hkey
        exact absurd hkey.symm hhp

end

/-- **the header section of an encrypted message tells nothing, and nothing is lost**: two messages
that differ in what is hidden have the same header section; the receiver finds every header with its
value, in the map or, for Chat-Disposition-Notification-To, in the variable; and the secret of a
broadcast is never written into an unencrypted message -/
theorem headers_confidential (c : Compose) (W : Wire) (offset : ℕ → Offset)
    (hcase : Text.AsciiLower c.parser.toLowercase)
    (hdate : ∀ offset, (unprotectedDate c offset).isSome) :
    (c.isEncrypted = true → ∀ headers headers',
      List.Forall₂ (SameOutside c.parser.toLowercase) headers headers' →
      (groupHeadersByConfidentiality c offset headers).map
          HeadersByConfidentiality.unprotectedHeaders =
        (groupHeadersByConfidentiality c offset headers').map
          HeadersByConfidentiality.unprotectedHeaders) ∧
    (c.isEncrypted = true → ∀ headers,
      (headers.map fun h => c.parser.toLowercase h.name.val).Nodup →
      ∃ g, groupHeadersByConfidentiality c offset headers = some g ∧ ∀ h ∈ headers,
        (h ∈ g.protectedHeaders ∨ h ∈ g.hiddenHeaders) ∧
        (c.parser.toLowercase h.name.val ≠ "hp-outer" → ∀ message s merged,
          merged = mergeHeaders c.parser s (W.parse c.parser.toLowercase
            (addHeadersToEncryptedPart message g.unprotectedHeaders g.hiddenHeaders
              g.protectedHeaders)) →
          (c.parser.toLowercase h.name.val ≠
              HeaderDef.chatDispositionNotificationTo.getHeadername →
            merged.headers (c.parser.toLowercase h.name.val) =
              some (W.read h.name.val h.value).value) ∧
          (c.parser.toLowercase h.name.val =
              HeaderDef.chatDispositionNotificationTo.getHeadername →
            ∀ addrlist, c.parser.addrparseHeader (W.read h.name.val h.value) = some addrlist →
              merged.chatDispositionNotificationTo = extractSingleInfo addrlist))) ∧
    (c.isEncrypted = false → ∀ headers g,
      groupHeadersByConfidentiality c offset headers = some g →
      ∀ x ∈ g.unprotectedHeaders ++ g.hiddenHeaders ++ g.protectedHeaders,
        c.parser.toLowercase x.name.val ≠ "chat-broadcast-secret") := by
  refine ⟨fun henc headers headers' hsame => unprotected_eq henc offset hsame, ?_, ?_⟩
  · intro henc headers hnodup
    obtain ⟨g, hg, hprot, hhid⟩ := group_inside henc hdate offset headers
    refine ⟨g, hg, fun h hh => ⟨?_, ?_⟩⟩
    · rw [hprot, hhid, ← List.mem_append]
      exact mem_filter_or.mpr hh
    · rintro hhp message s merged rfl
      obtain ⟨before, fields, hfields, hall⟩ := parse_fields W hcase hprot hhid hnodup message
      have honly := hall h hh hhp
      constructor
      · intro hdisp
        show (List.foldl (mergeField c.parser) _ (W.parse _ _).headers).headers _ = _
        rw [hfields, List.foldl_append]
        have hvalue := mergeFields_value honly (by rw [read_key_name]; exact hdisp)
        rw [read_key_name] at hvalue
        exact hvalue _
      · intro hdisp addrlist hparse
        show (List.foldl (mergeField c.parser) _ (W.parse _ _).headers).chatDispositionNotificationTo = _
        rw [hfields, List.foldl_append]
        exact mergeFields_onlyDisposition honly (by rw [read_key_name]; exact hdisp) hparse _
  · intro henc headers g hg x hx
    obtain ⟨a, ha, rfl⟩ := Option.map_eq_some_iff.mp hg
    simp only [HeadersByConfidentiality.append, List.mem_append, List.mem_singleton] at hx
    by_cases hmime : x = mimeVersion
    · have hascii : "MIME-Version".toList.all (fun ch => decide (ch.toNat < 128)) = true := by decide
      rw [hmime, mimeVersion, hcase "MIME-Version" fun ch hch =>
        of_decide_eq_true (List.all_eq_true.mp hascii ch hch)]
      decide
    · refine pushAll_no_secret henc ha ?_
      simp only [List.mem_append]
      simpa [hmime] using hx

/-! ### examples of a message -/

def plainWire : Wire where
  read name value :=
    ⟨String.ofList (name.toList.takeWhile (· ≠ ':')), match value with
      | .raw text => text
      | .text text => text
      | _ => ""⟩
  read_key _ _ := rfl

def encryptedMessage : Compose where
  parser := { toLowercase := Text.asciiLowercase, addrparseHeader := fun _ => none }
  rfc2822 _ := some "Thu, 01 Jan 1970 00:00:00 +0000"
  fromAddr := "alice@example.org"
  timestamp := I64.zero
  isEncrypted := true
  isSecurejoinMessage := false

def textPart : MimePart := ⟨[("Content-Type", .contentType "text/plain" [])], _, _, _, rfl⟩

def groupHeaders (subject : String) : List Header :=
  [⟨⟨"Message-ID", by decide⟩, .raw "<a@localhost>"⟩, ⟨⟨"Subject", by decide⟩, .text subject⟩,
    ⟨⟨"Chat-Group-Name", by decide⟩, .text subject⟩]

def outerStub : HeaderState := { headers := fun key => if key = "subject" then some "[...]" else none }

/-- the subject is not seen outside, and the receiver finds it in place of the stub -/
theorem headers_confidential_subject :
    (groupHeadersByConfidentiality encryptedMessage (fun _ => 0) (groupHeaders "a")).map
        HeadersByConfidentiality.unprotectedHeaders =
      (groupHeadersByConfidentiality encryptedMessage (fun _ => 0) (groupHeaders "b")).map
        HeadersByConfidentiality.unprotectedHeaders ∧
    ∃ g, groupHeadersByConfidentiality encryptedMessage (fun _ => 0) (groupHeaders "a") = some g ∧
      (mergeHeaders encryptedMessage.parser outerStub (plainWire.parse Text.asciiLowercase
        (addHeadersToEncryptedPart textPart g.unprotectedHeaders g.hiddenHeaders
          g.protectedHeaders))).headers "subject" = some "a" := by
  obtain ⟨hsame, hmerged, -⟩ := headers_confidential encryptedMessage plainWire (fun _ => 0)
    (fun _ _ => rfl) fun _ => rfl
  constructor
  · refine hsame rfl _ _ (.cons ⟨rfl, fun _ => rfl⟩ (.cons ⟨rfl, ?_⟩ (.cons ⟨rfl, ?_⟩ .nil)))
    · exact fun hshown => absurd hshown (by decide)
    · exact fun hshown => absurd hshown (by decide)
  · obtain ⟨g, hg, hheaders⟩ := hmerged rfl (groupHeaders "a") (by decide)
    refine ⟨g, hg, ?_⟩
    have hsubject := hheaders ⟨⟨"Subject", by decide⟩, .text "a"⟩ (by simp [groupHeaders])
    exact (hsubject.2 (by decide) textPart outerStub _ rfl).1 (by decide)

/-- **two headers that the map does not hold**: Chat-Disposition-Notification-To goes into a variable,
and HP-Outer is overwritten by the stub of another header -/
theorem headers_not_in_map :
    (∃ g, groupHeadersByConfidentiality encryptedMessage (fun _ => 0)
        [⟨⟨"Chat-Disposition-Notification-To", by decide⟩, .text "alice@example.org"⟩] = some g ∧
      (mergeHeaders encryptedMessage.parser {} (plainWire.parse Text.asciiLowercase
        (addHeadersToEncryptedPart textPart g.unprotectedHeaders g.hiddenHeaders
          g.protectedHeaders))).headers "chat-disposition-notification-to" = none) ∧
    ∃ g, groupHeadersByConfidentiality encryptedMessage (fun _ => 0)
        [⟨⟨"HP-Outer", by decide⟩, .text "a"⟩, ⟨⟨"Message-ID", by decide⟩, .text "b"⟩] = some g ∧
      (mergeHeaders encryptedMessage.parser {} (plainWire.parse Text.asciiLowercase
        (addHeadersToEncryptedPart textPart g.unprotectedHeaders g.hiddenHeaders
          g.protectedHeaders))).headers "hp-outer" = some "b" :=
  ⟨⟨_, rfl, rfl⟩, ⟨_, rfl, rfl⟩⟩

end EpsilonChat.Mime
