import EpsilonChat.Group.MemberVectors
import EpsilonChat.Lib.Split
import EpsilonChat.SecureJoin.State

/-!
# The member list on the wire

A group message carries its members in `To`, its past members in `Chat-Group-Past-Members`, and the
timestamps and fingerprints of both, joined by blanks, in two more headers.  The receiver cuts the
fingerprints at the number of `To` addresses, turns addresses and fingerprints into contacts and
merges the timestamps into its own table.

* `render`: the four headers;
* `getToAndPastContactIds`: the contacts, for a message to an encrypted group that is there;
* `applyMemberList`: what `apply_group_changes` then does to the table;
* **`member_list_survives`**: `update_chats_contacts_timestamps` is called with the rows that were
  sent, each in its role, if no member list is STALE and all addresses are valid.
-/

namespace EpsilonChat.MemberList
open Text Members Settings SecureJoin

/-! ## sending -/

def timestampSentTolerance : I64 := ⟨60, by decide⟩

def memberListIsStale (now memberListTimestamp : I64) : Bool :=
  I64.saturatingAdd now timestampSentTolerance ≥ I64.saturatingAdd memberListTimestamp days60

inductive Address where
  | address (name : Option String) (addr : String)
  | group (name : String) (addrs : List (Option String × String))
  deriving DecidableEq, Repr

def newAddress (e : String × String) : Address :=
  .address (if e.1 = "" then none else some e.1) e.2

def hiddenRecipients : Address := .group "hidden-recipients" []

structure MemberHeaders where
  toAddrs : List Address
  chatGroupPastMembers : Option (List Address)
  chatGroupMemberTimestamps : Option String
  chatGroupMemberFpr : Option String
  deriving DecidableEq, Repr

/-- what `render` reads of the chat -/
structure SenderChat where
  typ : Chattype
  /-- the parameter `MemberListTimestamp`, or when the chat was created -/
  memberListTimestamp : I64

def render (chat : SenderChat) (now : I64) (v : MemberVectors) : Except Failure MemberHeaders := do
  ensureLengths "self.member_timestamps" v
  return {
    toAddrs := if v.toAddrs = [] then [hiddenRecipients] else v.toAddrs.map newAddress
    chatGroupPastMembers :=
      if v.pastMembers = [] then none else some (v.pastMembers.map newAddress)
    chatGroupMemberTimestamps :=
      if chat.typ = .group ∧ v.memberTimestamps ≠ [] ∧
          memberListIsStale now chat.memberListTimestamp = false then
        some (" ".intercalate (v.memberTimestamps.map I64.print))
      else none
    chatGroupMemberFpr :=
      if chat.typ = .group ∧ v.memberFingerprints ≠ [] then
        some (" ".intercalate v.memberFingerprints)
      else none }

/-! ## parsing -/

structure Receiver where
  selfFingerprint : Fingerprint
  primarySelfAddr : String
  isSelfAddr : String → Bool
  toLowercase : String → String
  toUppercase : String → String
  now : I64

section
variable (r : Receiver)

def singleInfo (name : Option String) (addr : String) : SingleInfo :=
  ⟨r.toLowercase (addrNormalize r.toLowercase addr), name⟩

def addressesOf : List Address → List SingleInfo
  | [] => []
  | .address name addr :: l => singleInfo r name addr :: addressesOf l
  | .group _ addrs :: l => addrs.map (fun a => singleInfo r a.1 a.2) ++ addressesOf l

def chatGroupMemberTimestamps (h : MemberHeaders) : Option (List ℤ) :=
  h.chatGroupMemberTimestamps.map fun text =>
    ((splitAsciiWhitespace text).filterMap I64.parse).map fun ts =>
      min (r.now.val + timestampSentTolerance.val) ts.val

def chatGroupMemberFingerprints (h : MemberHeaders) : List Fingerprint :=
  match h.chatGroupMemberFpr with
  | some text => (splitAsciiWhitespace text).filterMap (Fingerprint.parse r.toUppercase)
  | none => []

/-! ## contacts -/

structure KeyContact where
  id : ContactId
  addr : String
  fingerprint : Fingerprint
  origin : ℕ
  deriving DecidableEq, Repr

/-- the table `contacts`, as far as it is read here -/
structure Contacts where
  rows : List KeyContact
  nextId : ContactId
  deriving DecidableEq, Repr

def originHidden : ℕ := 0x8

def Contacts.find (t : Contacts) (addr : String) (fingerprint : Fingerprint) : Option KeyContact :=
  t.rows.find? fun row => row.fingerprint == fingerprint &&
    (fingerprint != "" || asciiLowercase row.addr == asciiLowercase addr)

/-- its `UPDATE`: the address is replaced if the origin is at least the one stored -/
def Contacts.update (t : Contacts) (id : ContactId) (addr : String) (origin : ℕ) : Contacts :=
  { t with rows := t.rows.map fun row =>
      if row.id = id then
        { row with
          addr := if origin ≥ row.origin then addr else row.addr
          origin := max origin row.origin }
      else row }

/-- `Contact::add_or_lookup_ex`, without the names, in a configured account -/
def addOrLookupEx (t : Contacts) (addr : String) (fingerprint : Fingerprint) (origin : ℕ) :
    ContactId × Contacts :=
  if r.isSelfAddr addr then (ContactId.self, t)
  else if fingerprint ≠ "" ∧ fingerprint = r.selfFingerprint then (ContactId.self, t)
  else
    match t.find addr fingerprint with
    | some row => (row.id, t.update row.id addr origin)
    | none =>
      (t.nextId, ⟨t.rows ++ [⟨t.nextId, addr, fingerprint, origin⟩], t.nextId + 1⟩)

/-- the end of a round of both loops below -/
def contactWithFingerprint (info : SingleInfo) (fingerprint : Fingerprint) (t : Contacts) :
    Option ContactId × Contacts :=
  match contactAddress r.toLowercase info.addr with
  | some addr =>
    let found := addOrLookupEx r t addr fingerprint originHidden
    (some found.1, found.2)
  | none => (none, t)

/-- a round of `add_or_lookup_key_contacts` -/
def addOrLookupKeyContact (gossipedKeys : String → Option Fingerprint) (info : SingleInfo)
    (fp : Option Fingerprint) (t : Contacts) : Option ContactId × Contacts :=
  if !mayBeValidAddr info.addr then (none, t)
  else
    match fp.or (gossipedKeys info.addr) with
    | some fingerprint => contactWithFingerprint r info fingerprint t
    | none => if r.isSelfAddr info.addr then (some ContactId.self, t) else (none, t)

/-- `lookup_key_contact_by_address` in a chat; `inChat` are the contacts with a row in
`chats_contacts`, members or not -/
def lookupKeyContactByAddress (inChat : List ContactId) (addr : String) (t : Contacts) :
    Option ContactId :=
  if r.isSelfAddr addr && inChat.contains ContactId.self then some ContactId.self
  else
    (t.rows.find? fun row => asciiLowercase row.addr == asciiLowercase addr &&
      inChat.contains row.id && row.fingerprint != "").map KeyContact.id

/-- a round of `lookup_key_contacts_fallback_to_chat` -/
def lookupKeyContactFallbackToChat (inChat : List ContactId) (info : SingleInfo)
    (fp : Option Fingerprint) (t : Contacts) : Option ContactId × Contacts :=
  if !mayBeValidAddr info.addr then (none, t)
  else
    match fp with
    | some fingerprint => contactWithFingerprint r info fingerprint t
    | none => (lookupKeyContactByAddress r inChat info.addr t, t)

end

def lookupContacts (round : SingleInfo → Option Fingerprint → Contacts →
      Option ContactId × Contacts) :
    List SingleInfo → List Fingerprint → Contacts → List (Option ContactId) × Contacts
  | [], _, t => ([], t)
  | info :: infos, fps, t =>
    let (id, t) := round info fps.head? t
    let (ids, t) := lookupContacts round infos fps.tail t
    (id :: ids, t)

/-! ## receiving -/

structure ReceiverChat where
  id : ChatId
  typ : Chattype
  grpid : String
  memberListTimestamp : I64
  /-- `get_chat_contacts` -/
  chatContacts : Finset ContactId
  inChat : List ContactId

structure GroupMessage where
  fromId : ContactId
  fromIsKeyContact : Bool
  wasEncrypted : Bool
  hasChatVersion : Bool
  timestampSent : I64
  gossipedKeys : String → Option Fingerprint
  addedAddr : Option String
  addedId : Option ContactId
  removedId : Option ContactId

inductive MemberListUpdate where
  | unchanged
  /-- all rows of the chat are deleted, then these contacts are inserted -/
  | rebuild (newMembers : Finset ContactId)
  | write (op : MemberOp)

section
variable (r : Receiver) (chat : ReceiverChat) (m : GroupMessage) (h : MemberHeaders)

/-- `get_to_and_past_contact_ids` for a message that is assigned to an encrypted group which exists,
by its group id or because of a reply -/
def getToAndPastContactIds (t : Contacts) :
    List (Option ContactId) × List (Option ContactId) × Contacts :=
  let recipients := addressesOf r h.toAddrs
  let pastMembers := addressesOf r (h.chatGroupPastMembers.getD [])
  let memberFingerprints := chatGroupMemberFingerprints r h
  let (toMemberFingerprints, pastMemberFingerprints) :=
    if memberFingerprints.length ≥ recipients.length then
      (memberFingerprints.take recipients.length, memberFingerprints.drop recipients.length)
    else ([], [])
  let (toIds, t) :=
    lookupContacts (addOrLookupKeyContact r m.gossipedKeys) recipients toMemberFingerprints t
  let (pastIds, t) := lookupContacts (lookupKeyContactFallbackToChat r chat.inChat) pastMembers
    pastMemberFingerprints t
  (toIds, pastIds, t)

def isFromInChat : Bool :=
  ContactId.self ∉ chat.chatContacts ∨ m.fromId ∈ chat.chatContacts

def rebuiltMembers (toIds : List (Option ContactId)) : Finset ContactId :=
  let newMembers := insert ContactId.self (toIds.filterMap id).toFinset
  let newMembers := if m.fromId.isSpecial then newMembers else insert m.fromId newMembers
  if m.wasEncrypted ∧ chat.grpid = "" then newMembers.erase ContactId.self else newMembers

def explicitMembers (toIds : List (Option ContactId)) : Finset ContactId :=
  let selfAdded := m.addedAddr.any (addrCmp r.toLowercase r.primarySelfAddr) ∧
    ContactId.self ∉ chat.chatContacts
  let toIdsFlat := (toIds.filterMap id).toFinset
  let newMembers :=
    if selfAdded then
      let newMembers := insert ContactId.self toIdsFlat
      if ¬ m.fromId.isSpecial ∧ m.fromIsKeyContact ≠ (chat.grpid == "") then
        insert m.fromId newMembers
      else newMembers
    else chat.chatContacts
  let newMembers := if m.hasChatVersion then newMembers else newMembers ∪ toIdsFlat
  let newMembers := newMembers ∪ m.addedId.toFinset
  let newMembers := newMembers \ m.removedId.toFinset
  if m.wasEncrypted ∧ chat.grpid = "" then newMembers.erase ContactId.self else newMembers

def applyMemberList (toIds pastIds : List (Option ContactId)) :
    Except Failure MemberListUpdate := do
  ensure (m.fromIsKeyContact || chat.grpid == "")
    "Condition failed: `from_is_key_contact || chat.grpid.is_empty()`"
  ensure (chat.typ = .group) "Condition failed: `chat.typ == Chattype::Group`"
  ensure (chat.id > 9) "Condition failed: `!chat.id.is_special()`"
  if isFromInChat chat m then
    if m.fromIsKeyContact != (chat.grpid == "") &&
        memberListIsStale r.now chat.memberListTimestamp then
      return .rebuild (rebuiltMembers chat m toIds)
    else
      match chatGroupMemberTimestamps r h with
      | some timestamps =>
        return .write (.updateTimestamps chat.id (some m.fromId) toIds pastIds timestamps)
      | none =>
        let newMembers := explicitMembers r chat m toIds
        if newMembers ≠ chat.chatContacts then
          return .write (.updateTable m.timestampSent.val chat.id (newMembers.sort (· ≤ ·)))
        else return .unchanged
  else return .unchanged

def receiveMemberList (t : Contacts) : Except Failure MemberListUpdate :=
  let (toIds, pastIds, _) := getToAndPastContactIds r chat m h t
  applyMemberList r chat m h toIds pastIds

end

/-! ## the headers are read back -/

section
variable (r : Receiver)
variable {fingerprint : Fingerprint} {info : SingleInfo}

theorem addressesOf_map (l : List (String × String)) :
    addressesOf r (l.map newAddress) =
      l.map fun e => singleInfo r (if e.1 = "" then none else some e.1) e.2 := by
  induction l with
  | nil => rfl
  | cons e l ih =>
    rw [List.map_cons, List.map_cons, ← ih]
    rfl

theorem splitAsciiWhitespace_intercalate {words : List String}
    (h : ∀ w ∈ words, w ≠ "" ∧ ∀ c ∈ w.toList, isAsciiWhitespace c = false) :
    splitAsciiWhitespace (" ".intercalate words) = words := by
  have hwords : ∀ l ∈ words.map String.toList, l ≠ [] ∧ ∀ c ∈ l, isAsciiWhitespace c = false := by
    intro l hl
    obtain ⟨w, hw, rfl⟩ := List.mem_map.mp hl
    exact ⟨fun e => (h w hw).1 (String.toList_eq_nil_iff.mp e), (h w hw).2⟩
  rw [splitAsciiWhitespace, String.toList_intercalate]
  show ((([' '].intercalate (words.map String.toList)).splitOnP isAsciiWhitespace).filter
    (· ≠ [])).map String.ofList = words
  rw [Lib.Split.filter_splitOnP_intercalate rfl hwords, List.map_map]
  simp

theorem isAsciiWhitespace_eq_false (p : Char → Bool) {c : Char} (hc : p c = true)
    (hp : (!p ' ' && !p '\t' && !p '\n' && !p '\x0C' && !p '\r') = true) :
    isAsciiWhitespace c = false := by
  rw [← Bool.not_eq_true]
  intro hw
  simp only [isAsciiWhitespace, Bool.or_eq_true, beq_iff_eq] at hw
  rcases hw with (((rfl | rfl) | rfl) | rfl) | rfl <;> simp [hc] at hp

theorem chatGroupMemberTimestamps_eq {h : MemberHeaders} {timestamps : List I64}
    (hh : h.chatGroupMemberTimestamps = some (" ".intercalate (timestamps.map I64.print)))
    (hnow : ∀ ts ∈ timestamps, ts ≤ r.now) :
    chatGroupMemberTimestamps r h = some (timestamps.map Subtype.val) := by
  have hsplit : splitAsciiWhitespace (" ".intercalate (timestamps.map I64.print)) =
      timestamps.map I64.print := by
    refine splitAsciiWhitespace_intercalate fun w hw => ?_
    obtain ⟨ts, _, rfl⟩ := List.mem_map.mp hw
    refine ⟨I64.print_ne_empty ts, fun c hc => ?_⟩
    have hdigit : (c.isDigit || c == '-') = true := by simpa using I64.print_chars ts hc
    exact isAsciiWhitespace_eq_false (fun c => c.isDigit || c == '-') hdigit (by decide)
  rw [chatGroupMemberTimestamps, hh, Option.map_some, hsplit, List.filterMap_map]
  have hparse : I64.parse ∘ I64.print = some := funext I64.parse_print
  rw [hparse, List.filterMap_some]
  refine congrArg some (List.map_congr_left fun ts hts => ?_)
  have hle : ts.val ≤ r.now.val := hnow ts hts
  show min (r.now.val + 60) ts.val = ts.val
  omega

def IsHex (fingerprint : Fingerprint) : Prop :=
  Fingerprint.parse r.toUppercase fingerprint = some fingerprint

variable {r}

theorem IsHex.chars (h : IsHex r fingerprint) :
    fingerprint ≠ "" ∧ ∀ c ∈ fingerprint.toList, isAsciiWhitespace c = false := by
  rw [IsHex, Fingerprint.parse] at h
  split at h
  case isFalse => cases h
  case isTrue hlen =>
    have htext := Option.some.inj h
    constructor
    · intro hempty
      have hnil : (r.toUppercase fingerprint).toList.filter isAsciiHexdigit = [] := by
        rw [hempty] at htext ⊢
        exact String.ofList_eq_empty_iff.mp htext
      rw [hnil] at hlen
      revert hlen
      decide
    · intro c hc
      rw [← htext, String.toList_ofList] at hc
      exact isAsciiWhitespace_eq_false isAsciiHexdigit (List.mem_filter.mp hc).2 (by decide)

theorem chatGroupMemberFingerprints_eq {h : MemberHeaders} {fingerprints : List Fingerprint}
    (hh : h.chatGroupMemberFpr = some (" ".intercalate fingerprints))
    (hhex : ∀ fp ∈ fingerprints, IsHex r fp) :
    chatGroupMemberFingerprints r h = fingerprints := by
  rw [chatGroupMemberFingerprints, hh]
  show (splitAsciiWhitespace (" ".intercalate fingerprints)).filterMap _ = _
  rw [splitAsciiWhitespace_intercalate fun fp hfp => (hhex fp hfp).chars]
  clear hh
  induction fingerprints with
  | nil => rfl
  | cons fp fps ih =>
    have hfp : Fingerprint.parse r.toUppercase fp = some fp := hhex fp List.mem_cons_self
    rw [List.filterMap_cons_some hfp, ih fun fp' hfp' => hhex fp' (List.mem_cons_of_mem _ hfp')]

/-! ## known contacts -/

def contactOf (r : Receiver) (t : Contacts) (fingerprint : Fingerprint) : Option ContactId :=
  if fingerprint = r.selfFingerprint then some ContactId.self
  else (t.rows.find? fun row => row.fingerprint == fingerprint).map KeyContact.id

def SameContacts (r : Receiver) (t t' : Contacts) : Prop :=
  ∀ fingerprint, contactOf r t' fingerprint = contactOf r t fingerprint

theorem Contacts.find_eq (t : Contacts) (addr : String) (h : fingerprint ≠ "") :
    t.find addr fingerprint = t.rows.find? fun row => row.fingerprint == fingerprint := by
  have hne : (fingerprint != "") = true := bne_iff_ne.mpr h
  simp only [Contacts.find, hne, Bool.true_or, Bool.and_true]

theorem sameContacts_update (t : Contacts) (id : ContactId) (addr : String) (origin : ℕ) :
    SameContacts r t (t.update id addr origin) := by
  intro fingerprint
  unfold contactOf Contacts.update
  by_cases hself : fingerprint = r.selfFingerprint
  · rw [if_pos hself, if_pos hself]
  · rw [if_neg hself, if_neg hself]
    show ((t.rows.map _).find? _).map KeyContact.id = _
    rw [List.find?_map, Option.map_map]
    have hfp : ∀ row : KeyContact, (if row.id = id then
        { row with
          addr := if origin ≥ row.origin then addr else row.addr
          origin := max origin row.origin } else row).fingerprint = row.fingerprint := by
      intro row
      split <;> rfl
    have hid : ∀ row : KeyContact, (if row.id = id then
        { row with
          addr := if origin ≥ row.origin then addr else row.addr
          origin := max origin row.origin } else row).id = row.id := by
      intro row
      split <;> rfl
    simp only [Function.comp_def, hfp, hid]

theorem addOrLookupEx_known {t : Contacts} {addr : String} {id : ContactId} (origin : ℕ)
    (hne : fingerprint ≠ "") (hself : r.isSelfAddr addr = true → fingerprint = r.selfFingerprint)
    (hknown : contactOf r t fingerprint = some id) :
    ∃ t', addOrLookupEx r t addr fingerprint origin = (id, t') ∧ SameContacts r t t' := by
  unfold contactOf at hknown
  by_cases hfp : fingerprint = r.selfFingerprint
  case pos =>
    rw [if_pos hfp] at hknown
    refine ⟨t, ?_, fun _ => rfl⟩
    rw [addOrLookupEx, if_pos (And.intro hne hfp), ite_self, Option.some.inj hknown]
  case neg =>
    rw [if_neg hfp] at hknown
    obtain ⟨row, hrow, rfl⟩ := Option.map_eq_some_iff.mp hknown
    refine ⟨t.update row.id addr origin, ?_, sameContacts_update t row.id addr origin⟩
    rw [addOrLookupEx, if_neg fun h => hfp (hself h), if_neg fun h => hfp h.2,
      Contacts.find_eq t addr hne, hrow]

theorem contactWithFingerprint_known {t : Contacts}
    (hvalid : mayBeValidAddr (addrNormalize r.toLowercase info.addr) = true)
    (hne : fingerprint ≠ "")
    (hself : r.isSelfAddr (addrNormalize r.toLowercase info.addr) = true →
      fingerprint = r.selfFingerprint)
    (hknown : (contactOf r t fingerprint).isSome) :
    ∃ t', contactWithFingerprint r info fingerprint t = (contactOf r t fingerprint, t') ∧
      SameContacts r t t' := by
  obtain ⟨id, hid⟩ := Option.isSome_iff_exists.mp hknown
  obtain ⟨t', hcall, hsame⟩ := addOrLookupEx_known originHidden hne hself hid
  refine ⟨t', ?_, hsame⟩
  have haddr : contactAddress r.toLowercase info.addr =
      some (addrNormalize r.toLowercase info.addr) := if_pos hvalid
  delta contactWithFingerprint
  rw [haddr, hid]
  simp only [hcall]

/-! with a valid address and a fingerprint the two kinds of rounds do the same -/

theorem addOrLookupKeyContact_some {gossipedKeys : String → Option Fingerprint}
    (hvalid : mayBeValidAddr info.addr = true) (fingerprint : Fingerprint) (t : Contacts) :
    addOrLookupKeyContact r gossipedKeys info (some fingerprint) t =
      contactWithFingerprint r info fingerprint t := by
  delta addOrLookupKeyContact
  rw [hvalid, Bool.not_true, if_neg Bool.false_ne_true, Option.some_or]

theorem lookupKeyContactFallbackToChat_some {inChat : List ContactId}
    (hvalid : mayBeValidAddr info.addr = true) (fingerprint : Fingerprint) (t : Contacts) :
    lookupKeyContactFallbackToChat r inChat info (some fingerprint) t =
      contactWithFingerprint r info fingerprint t := by
  delta lookupKeyContactFallbackToChat
  rw [hvalid, Bool.not_true, if_neg Bool.false_ne_true]

theorem lookupContacts_map {α : Type} {round : SingleInfo → Option Fingerprint → Contacts →
      Option ContactId × Contacts}
    {info : α → SingleInfo} {fp : α → Fingerprint} {t₀ : Contacts} {rows : List α}
    (h : ∀ row ∈ rows, ∀ t, SameContacts r t₀ t → ∃ t',
      round (info row) (some (fp row)) t = (contactOf r t (fp row), t') ∧ SameContacts r t t')
    {t : Contacts} (ht : SameContacts r t₀ t) :
    ∃ t', lookupContacts round (rows.map info) (rows.map fp) t =
        (rows.map fun row => contactOf r t₀ (fp row), t') ∧ SameContacts r t₀ t' := by
  induction rows generalizing t with
  | nil => exact ⟨t, rfl, ht⟩
  | cons row rows ih =>
    obtain ⟨t₁, hround, hsame⟩ := h row List.mem_cons_self t ht
    have ht₁ : SameContacts r t₀ t₁ := fun fp => (hsame fp).trans (ht fp)
    obtain ⟨t₂, hrest, ht₂⟩ := ih (fun row' h' => h row' (List.mem_cons_of_mem _ h')) ht₁
    refine ⟨t₂, ?_, ht₂⟩
    simp only [List.map_cons, lookupContacts, List.head?_cons, List.tail_cons, hround, hrest,
      ht (fp row)]

end

/-! ## the way over the wire -/

def received (c : Sending) (r : Receiver) (row : ContactRow) : SingleInfo :=
  singleInfo r (if (entry c row).1 = "" then none else some (entry c row).1) (entry c row).2

/-- the receiver has the encrypted group and knows everyone who is listed -/
structure Knows (c : Sending) (r : Receiver) (chat : ReceiverChat) (t : Contacts)
    (members past : List ContactRow) : Prop where
  encrypted : c.isEncrypted = true
  isGroup : chat.typ = .group
  not_special : chat.id > 9
  isHex : ∀ row ∈ members ++ past, IsHex r (fingerprintOf c row)
  known : ∀ row ∈ members ++ past, (contactOf r t (fingerprintOf c row)).isSome
  /-- the own address is only listed for the own key -/
  self_addr : ∀ row ∈ members ++ past,
    r.isSelfAddr (addrNormalize r.toLowercase (received c r row).addr) = true →
      fingerprintOf c row = r.selfFingerprint
  added_past : ∀ row ∈ members, row.addTimestamp ≤ r.now
  removed_past : ∀ row ∈ past, row.removeTimestamp ≤ r.now

structure Merges (c : Sending) (sender : SenderChat) (now : I64) (r : Receiver)
    (chat : ReceiverChat) (m : GroupMessage) (members past : List ContactRow) : Prop where
  listed : members ++ past ≠ []
  sender_fresh : memberListIsStale now sender.memberListTimestamp = false
  fresh : memberListIsStale r.now chat.memberListTimestamp = false
  fromInChat : isFromInChat chat m = true
  fromIsKeyContact : m.fromIsKeyContact = true
  valid : ∀ row ∈ members ++ past, mayBeValidAddr (received c r row).addr = true ∧
    mayBeValidAddr (addrNormalize r.toLowercase (received c r row).addr) = true

section
variable {c : Sending} {rows members past : List ContactRow} {v : MemberVectors}
  {sender : SenderChat} {now : I64} {r : Receiver} {chat : ReceiverChat} {m : GroupMessage}
  {t : Contacts}

def headersOfRows (c : Sending) (sender : SenderChat) (now : I64)
    (members past : List ContactRow) : MemberHeaders where
  toAddrs :=
    if members = [] then [hiddenRecipients] else (members.map (entry c)).map newAddress
  chatGroupPastMembers := if past = [] then none else some ((past.map (entry c)).map newAddress)
  chatGroupMemberTimestamps :=
    if sender.typ = .group ∧ members ++ past ≠ [] ∧
        memberListIsStale now sender.memberListTimestamp = false then
      some (" ".intercalate ((members.map ContactRow.addTimestamp ++
        past.map ContactRow.removeTimestamp).map I64.print))
    else none
  chatGroupMemberFpr :=
    if sender.typ = .group ∧ c.isEncrypted = true ∧ members ++ past ≠ [] then
      some (" ".intercalate ((members ++ past).map (fingerprintOf c)))
    else none

theorem render_aligned (h : Aligned c rows v members past) :
    render sender now v = .ok (headersOfRows c sender now members past) := by
  rw [render, ensureLengths_ok h]
  refine congrArg Except.ok ?_
  rw [headersOfRows, h.toAddrs, h.pastMembers, h.timestamps, h.fingerprints]
  simp only [List.map_eq_nil_iff, ne_eq, List.append_eq_nil_iff]
  by_cases henc : c.isEncrypted = true
  · simp [henc]
  · simp [henc]

theorem addressesOf_toAddrs :
    addressesOf r (headersOfRows c sender now members past).toAddrs =
      members.map (received c r) := by
  show addressesOf r (if members = [] then _ else _) = _
  by_cases hnil : members = []
  · rw [if_pos hnil, hnil]
    rfl
  · rw [if_neg hnil, addressesOf_map, List.map_map]
    rfl

theorem addressesOf_pastMembers :
    addressesOf r ((headersOfRows c sender now members past).chatGroupPastMembers.getD []) =
      past.map (received c r) := by
  show addressesOf r (Option.getD (if past = [] then _ else _) []) = _
  by_cases hnil : past = []
  · rw [if_pos hnil, hnil]
    rfl
  · rw [if_neg hnil, Option.getD_some, addressesOf_map, List.map_map]
    rfl

section
variable (htyp : sender.typ = .group) (hknows : Knows c r chat t members past)
  (hmerges : Merges c sender now r chat m members past)
include htyp hknows hmerges

theorem fingerprints_received :
    chatGroupMemberFingerprints r (headersOfRows c sender now members past) =
      (members ++ past).map (fingerprintOf c) := by
  refine chatGroupMemberFingerprints_eq ?_ ?_
  · exact if_pos ⟨htyp, hknows.encrypted, hmerges.listed⟩
  · intro fp hfp
    obtain ⟨row, hrow, rfl⟩ := List.mem_map.mp hfp
    exact hknows.isHex row hrow

theorem timestamps_received :
    chatGroupMemberTimestamps r (headersOfRows c sender now members past) =
      some (members.map (fun row => row.addTimestamp.val) ++
        past.map fun row => row.removeTimestamp.val) := by
  have hheader : (headersOfRows c sender now members past).chatGroupMemberTimestamps =
      some (" ".intercalate ((members.map ContactRow.addTimestamp ++
        past.map ContactRow.removeTimestamp).map I64.print)) :=
    if_pos ⟨htyp, hmerges.listed, hmerges.sender_fresh⟩
  rw [chatGroupMemberTimestamps_eq r hheader, List.map_append, List.map_map, List.map_map]
  · rfl
  · intro ts hts
    rcases List.mem_append.mp hts with hadd | hremove
    · obtain ⟨row, hrow, rfl⟩ := List.mem_map.mp hadd
      exact hknows.added_past row hrow
    · obtain ⟨row, hrow, rfl⟩ := List.mem_map.mp hremove
      exact hknows.removed_past row hrow

omit htyp in
theorem contact_received {row : ContactRow} (hrow : row ∈ members ++ past) {t' : Contacts}
    (hsame : SameContacts r t t') :
    ∃ t'', contactWithFingerprint r (received c r row) (fingerprintOf c row) t' =
        (contactOf r t' (fingerprintOf c row), t'') ∧ SameContacts r t' t'' := by
  refine contactWithFingerprint_known (hmerges.valid row hrow).2 (hknows.isHex row hrow).chars.1
    (hknows.self_addr row hrow) ?_
  rw [hsame]
  exact hknows.known row hrow

theorem contactIds_received :
    ∃ t', getToAndPastContactIds r chat m (headersOfRows c sender now members past) t =
      (members.map fun row => contactOf r t (fingerprintOf c row),
        past.map fun row => contactOf r t (fingerprintOf c row), t') := by
  have hto : ∃ t', lookupContacts (addOrLookupKeyContact r m.gossipedKeys)
      (members.map (received c r)) (members.map (fingerprintOf c)) t =
        (members.map fun row => contactOf r t (fingerprintOf c row), t') ∧
      SameContacts r t t' := by
    refine lookupContacts_map (fun row hrow t' hsame => ?_) fun _ => rfl
    have hlisted : row ∈ members ++ past := List.mem_append_left past hrow
    rw [addOrLookupKeyContact_some (hmerges.valid row hlisted).1]
    exact contact_received hknows hmerges hlisted hsame
  obtain ⟨t₁, hto, hsame₁⟩ := hto
  have hpast : ∃ t', lookupContacts (lookupKeyContactFallbackToChat r chat.inChat)
      (past.map (received c r)) (past.map (fingerprintOf c)) t₁ =
        (past.map fun row => contactOf r t (fingerprintOf c row), t') ∧ SameContacts r t t' := by
    refine lookupContacts_map (fun row hrow t' hsame => ?_) hsame₁
    have hlisted : row ∈ members ++ past := List.mem_append_right members hrow
    rw [lookupKeyContactFallbackToChat_some (hmerges.valid row hlisted).1]
    exact contact_received hknows hmerges hlisted hsame
  obtain ⟨t₂, hpast, _⟩ := hpast
  have hlen : ((members ++ past).map (fingerprintOf c)).length ≥
      (members.map (received c r)).length := by
    simp
  have htake : ((members ++ past).map (fingerprintOf c)).take (members.map (received c r)).length =
      members.map (fingerprintOf c) := by
    simp
  have hdrop : ((members ++ past).map (fingerprintOf c)).drop (members.map (received c r)).length =
      past.map (fingerprintOf c) := by
    simp
  refine ⟨t₂, ?_⟩
  unfold getToAndPastContactIds
  simp only [addressesOf_toAddrs, addressesOf_pastMembers,
    fingerprints_received htyp hknows hmerges, if_pos hlen, htake, hdrop, hto, hpast]

theorem memberList_received :
    receiveMemberList r chat m (headersOfRows c sender now members past) t =
      .ok (.write (.updateTimestamps chat.id (some m.fromId)
        (members.map fun row => contactOf r t (fingerprintOf c row))
        (past.map fun row => contactOf r t (fingerprintOf c row))
        (members.map (fun row => row.addTimestamp.val) ++
          past.map fun row => row.removeTimestamp.val))) := by
  obtain ⟨t', hids⟩ := contactIds_received htyp hknows hmerges
  have hspecial : decide (chat.id > 9) = true := decide_eq_true hknows.not_special
  have hgroup : decide (chat.typ = .group) = true := decide_eq_true hknows.isGroup
  simp only [receiveMemberList, hids, applyMemberList, ensure, hmerges.fromIsKeyContact,
    Bool.true_or, hgroup, hspecial, if_true, hmerges.fromInChat, hmerges.fresh, Bool.and_false,
    timestamps_received htyp hknows hmerges]
  rfl

end

/-- **the member list survives the wire**: the vectors of `from_msg` list the same rows in the same
order, no check fails, and a receiver who knows all of them merges exactly these rows, members and
past members, with their timestamps -/
theorem member_list_survives (c : Sending) (rows : List ContactRow)
    (hfp : c.isEncrypted = true → ∀ row ∈ rows, row.id ≠ ContactId.self → row.fingerprint ≠ "") :
    ∃ v members past, fromMsg c rows = .ok v ∧ Aligned c rows v members past ∧
      ∀ (sender : SenderChat) (now : I64), ∃ h, render sender now v = .ok h ∧
        ∀ (r : Receiver) (chat : ReceiverChat) (m : GroupMessage) (t : Contacts),
          sender.typ = .group → Knows c r chat t members past →
          Merges c sender now r chat m members past →
          receiveMemberList r chat m h t =
            .ok (.write (.updateTimestamps chat.id (some m.fromId)
              (members.map fun row => contactOf r t (fingerprintOf c row))
              (past.map fun row => contactOf r t (fingerprintOf c row))
              (members.map (fun row => row.addTimestamp.val) ++
                past.map fun row => row.removeTimestamp.val))) := by
  obtain ⟨v, members, past, hmsg, haligned⟩ := fromMsg_aligned c rows hfp
  refine ⟨v, members, past, hmsg, haligned, fun sender now => ?_⟩
  refine ⟨headersOfRows c sender now members past, render_aligned haligned, ?_⟩
  intro r chat m t htyp hknows hmerges
  exact memberList_received htyp hknows hmerges

end

/-! ## alice writes to bob -/

def today : I64 := ⟨6000000, by decide⟩

def fingerprintA : Fingerprint := "AAAAAAAAAAAAAAAAAAAAAAAAAAAAAAAAAAAAAAAA"
def fingerprintB : Fingerprint := "BBBBBBBBBBBBBBBBBBBBBBBBBBBBBBBBBBBBBBBB"
def fingerprintC : Fingerprint := "CCCCCCCCCCCCCCCCCCCCCCCCCCCCCCCCCCCCCCCC"

def aliceRows : List ContactRow :=
  [⟨"Bob", "bob@example.org", fingerprintB, 10, ⟨4100000, by decide⟩, I64.zero⟩,
    ⟨"Claire", "claire@example.org", fingerprintC, 11, ⟨4000000, by decide⟩, ⟨5000000, by decide⟩⟩,
    ⟨"", "", "", ContactId.self, I64.zero, I64.zero⟩]

def alice : Sending where
  toLowercase := asciiLowercase
  fromAddr := "alice@example.org"
  selfFingerprint := fingerprintA
  attachProfileData := true
  isEncrypted := true
  undisclosedRecipients := false
  now := today

def bob : Receiver where
  selfFingerprint := fingerprintB
  primarySelfAddr := "bob@example.org"
  isSelfAddr addr := addr == "bob@example.org"
  toLowercase := asciiLowercase
  toUppercase := id
  now := today

def bobContacts : Contacts :=
  ⟨[⟨10, "alice@example.org", fingerprintA, 0x40⟩, ⟨11, "claire@example.org", fingerprintC, 0x8⟩],
    12⟩

def bobChat : ReceiverChat where
  id := 12
  typ := .group
  grpid := "grpgrpgrpgr"
  memberListTimestamp := today
  chatContacts := {ContactId.self, 10}
  inChat := [ContactId.self, 10, 11]

def fromAlice : GroupMessage where
  fromId := 10
  fromIsKeyContact := true
  wasEncrypted := true
  hasChatVersion := true
  timestampSent := today
  gossipedKeys _ := none
  addedAddr := none
  addedId := none
  removedId := none

def aliceVectors : MemberVectors :=
  ⟨[("Bob", "bob@example.org")], [("Claire", "claire@example.org")],
    [⟨4100000, by decide⟩, ⟨5000000, by decide⟩], [fingerprintB, fingerprintC]⟩

theorem fromMsg_alice : fromMsg alice aliceRows = .ok aliceVectors := rfl

abbrev KnownToBob (row : ContactRow) : Prop :=
  Fingerprint.parse id (fingerprintOf alice row) = some (fingerprintOf alice row) ∧
    (contactOf bob bobContacts (fingerprintOf alice row)).isSome ∧
    (bob.isSelfAddr (addrNormalize bob.toLowercase (received alice bob row).addr) = true →
      fingerprintOf alice row = bob.selfFingerprint) ∧
    row.addTimestamp ≤ today ∧ row.removeTimestamp ≤ today

theorem bob_knows {chat : ReceiverChat} {rows members past : List ContactRow}
    (hrows : ∀ row ∈ rows, KnownToBob row)
    (hgroup : chat.typ = .group) (hid : chat.id > 9) (hmembers : members.Sublist rows)
    (hpast : past.Sublist rows) : Knows alice bob chat bobContacts members past := by
  have hrow : ∀ row ∈ members ++ past, row ∈ rows := by
    intro row h
    rcases List.mem_append.mp h with h | h
    · exact hmembers.subset h
    · exact hpast.subset h
  exact {
    encrypted := rfl
    isGroup := hgroup
    not_special := hid
    isHex := fun row h => (hrows row (hrow row h)).1
    known := fun row h => (hrows row (hrow row h)).2.1
    self_addr := fun row h => (hrows row (hrow row h)).2.2.1
    added_past := fun row h => (hrows row (hmembers.subset h)).2.2.2.1
    removed_past := fun row h => (hrows row (hpast.subset h)).2.2.2.2 }

theorem member_list_survives_alice :
    ∃ h, render ⟨.group, today⟩ today aliceVectors = .ok h ∧
      receiveMemberList bob bobChat fromAlice h bobContacts =
        .ok (.write (.updateTimestamps 12 (some 10) [some ContactId.self] [some 11]
          [4100000, 5000000])) := by
  have hfp : ∀ row ∈ aliceRows, row.id ≠ ContactId.self → row.fingerprint ≠ "" := by
    decide
  have hvalid : ∀ row ∈ aliceRows, mayBeValidAddr (received alice bob row).addr = true ∧
      mayBeValidAddr (addrNormalize bob.toLowercase (received alice bob row).addr) = true := by
    decide +kernel
  obtain ⟨v, members, past, hmsg, haligned, hwire⟩ :=
    member_list_survives alice aliceRows fun _ => hfp
  rw [fromMsg_alice] at hmsg
  cases hmsg
  obtain ⟨h, hrender, hreceive⟩ := hwire ⟨.group, today⟩ today
  -- one member and one past member are listed
  obtain ⟨row, rfl, _⟩ := List.map_eq_singleton_iff.mp haligned.toAddrs.symm
  obtain ⟨row', rfl, _⟩ := List.map_eq_singleton_iff.mp haligned.pastMembers.symm
  have hrow : ∀ r ∈ [row] ++ [row'], r ∈ aliceRows := by
    intro r hr
    rcases List.mem_append.mp hr with hr | hr
    · exact haligned.members_sublist.subset hr
    · exact haligned.past_sublist.subset hr
  have hreceived := hreceive bob bobChat fromAlice bobContacts rfl
    (bob_knows (by decide +kernel) rfl (by decide) haligned.members_sublist haligned.past_sublist) {
      listed := List.cons_ne_nil _ _
      sender_fresh := by decide
      fresh := by decide
      fromInChat := by decide
      fromIsKeyContact := rfl
      valid := fun r hr => hvalid r (hrow r hr) }
  have hfps : [fingerprintB, fingerprintC] = [fingerprintOf alice row, fingerprintOf alice row'] :=
    haligned.fingerprints
  have htimes : [⟨4100000, by decide⟩, ⟨5000000, by decide⟩] =
      [row.addTimestamp, row'.removeTimestamp] :=
    haligned.timestamps
  obtain ⟨hb, hc⟩ := List.cons_eq_cons.mp hfps
  obtain ⟨hadd, hremove⟩ := List.cons_eq_cons.mp htimes
  refine ⟨h, hrender, hreceived.trans ?_⟩
  show Except.ok (MemberListUpdate.write (.updateTimestamps 12 (some 10)
    [contactOf bob bobContacts (fingerprintOf alice row)]
    [contactOf bob bobContacts (fingerprintOf alice row')]
    [row.addTimestamp.val, row'.removeTimestamp.val])) = _
  rw [← hb, ← List.singleton_inj.mp hc, ← hadd, ← List.singleton_inj.mp hremove]
  rfl

/-- claire has no valid address -/
def invalidRows : List ContactRow :=
  [⟨"Bob", "bob@example.org", fingerprintB, 10, ⟨4100000, by decide⟩, I64.zero⟩,
    ⟨"Claire", "claire", fingerprintC, 11, ⟨4000000, by decide⟩, I64.zero⟩]

def delivered (rows : List ContactRow) (memberListTimestamp : I64) (chat : ReceiverChat)
    (m : GroupMessage) : Except Failure MemberListUpdate := do
  let v ← fromMsg alice rows
  let h ← render ⟨.group, memberListTimestamp⟩ today v
  receiveMemberList bob chat m h bobContacts

/-- bob knows everyone; but the list of alice is stale, the list of bob is stale, alice is not in the
chat, alice is no key-contact, nobody is listed, or claire is listed with an invalid address -/
theorem stale_list_not_merged :
    (∀ rows ∈ [aliceRows, [], invalidRows], ∃ v members past, fromMsg alice rows = .ok v ∧
      Aligned alice rows v members past ∧ ∀ chat : ReceiverChat, chat.typ = .group → chat.id > 9 →
        Knows alice bob chat bobContacts members past) ∧
    delivered aliceRows ⟨50, by decide⟩ bobChat fromAlice = .ok .unchanged ∧
    (∃ newMembers, delivered aliceRows today { bobChat with memberListTimestamp := ⟨50, by decide⟩ }
      fromAlice = .ok (.rebuild newMembers)) ∧
    delivered aliceRows today { bobChat with chatContacts := {ContactId.self} } fromAlice
      = .ok .unchanged ∧
    delivered aliceRows today bobChat { fromAlice with fromIsKeyContact := false }
      = .error (.ensure "Condition failed: `from_is_key_contact || chat.grpid.is_empty()`") ∧
    delivered [] today bobChat fromAlice = .ok .unchanged ∧
    delivered invalidRows today bobChat fromAlice = .ok (.write (.updateTimestamps 12 (some 10)
      [some ContactId.self, none] [] [4100000, 4000000])) := by
  refine ⟨?_, rfl, ⟨_, rfl⟩, rfl, rfl, rfl, rfl⟩
  have hfp : ∀ rows ∈ [aliceRows, [], invalidRows], ∀ row ∈ rows, row.id ≠ ContactId.self →
      row.fingerprint ≠ "" := by
    decide
  have hknown : ∀ rows ∈ [aliceRows, [], invalidRows], ∀ row ∈ rows, KnownToBob row := by
    decide +kernel
  intro rows hrows
  obtain ⟨v, members, past, hmsg, haligned⟩ := fromMsg_aligned alice rows fun _ => hfp rows hrows
  exact ⟨v, members, past, hmsg, haligned, fun chat hgroup hid =>
    bob_knows (hknown rows hrows) hgroup hid haligned.members_sublist haligned.past_sublist⟩

end EpsilonChat.MemberList
