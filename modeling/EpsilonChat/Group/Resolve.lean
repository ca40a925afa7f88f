import EpsilonChat.Group.MemberWire

/-!
# Whose fingerprint it is

`get_to_and_past_contact_ids` for any assignment of a message to a chat.  Addresses are turned into
contacts with the fingerprints of the header `Chat-Group-Member-Fpr`, with gossiped keys, with the
keys a message is encrypted to, or by the address alone.

Every such lookup is a CALL of `add_or_lookup_ex`, and `Resolving` keeps a list of them.

* `getToAndPastContactIdsFor`: the function, with the calls it makes;
* `lookedUp_getToAndPastContactIdsFor`: which address is looked up with which fingerprint of the
  header;
* **`header_fingerprints_iff`**: the fingerprints belong to the addresses at their places iff the
  header is ignored, or each word in use is also the word that comes there if the words that do not
  parse are left out.
-/

namespace EpsilonChat.MemberList
open Text Settings SecureJoin

/-! ## calls -/

inductive Role where
  | recipient
  | pastMember
  deriving DecidableEq, Repr

inductive Source where
  /-- `Chat-Group-Member-Fpr` -/
  | header
  /-- the keys the message is encrypted to -/
  | recipientFps
  | gossip
  /-- there is none, the contact is an address -/
  | address
  deriving DecidableEq, Repr

structure Query where
  addr : String
  fingerprint : Fingerprint
  origin : ℕ
  source : Source
  deriving DecidableEq, Repr

/-- a call for the address at a place in one of the lists -/
structure Call extends Query where
  role : Role
  index : ℕ
  deriving DecidableEq, Repr

def Query.perform (r : Receiver) (t : Contacts) (q : Query) : Contacts :=
  (addOrLookupEx r t q.addr q.fingerprint q.origin).2

structure Lookup (r : Receiver) where
  round : SingleInfo → Option Fingerprint → Contacts → Option ContactId × Contacts
  query : SingleInfo → Option Fingerprint → Option Query
  /-- there is no other change -/
  round_contacts : ∀ info fp t, (round info fp t).2 = (query info fp).elim t (Query.perform r t)

structure Resolving where
  contacts : Contacts
  calls : List Call

section
variable {r : Receiver}

def Lookup.calls (l : Lookup r) (role : Role) :
    ℕ → List SingleInfo → List Fingerprint → List Call
  | _, [], _ => []
  | i, info :: infos, fps =>
    ((l.query info fps.head?).map fun q => ⟨q, role, i⟩).toList ++
      l.calls role (i + 1) infos fps.tail

def Lookup.run (l : Lookup r) (role : Role) (infos : List SingleInfo) (fps : List Fingerprint)
    (s : Resolving) : List (Option ContactId) × Resolving :=
  let found := lookupContacts l.round infos fps s.contacts
  (found.1, ⟨found.2, s.calls ++ l.calls role 0 infos fps⟩)

end

/-! ## the lookups -/

section
variable (r : Receiver)

/-- the call at the end of a round; an address that is valid may still be no `ContactAddress` -/
def keyQuery (info : SingleInfo) (source : Source) (fingerprint : Fingerprint) : Option Query :=
  (contactAddress r.toLowercase info.addr).map fun addr => ⟨addr, fingerprint, originHidden, source⟩

theorem contactWithFingerprint_contacts (info : SingleInfo) (fingerprint : Fingerprint)
    (source : Source) (t : Contacts) : (contactWithFingerprint r info fingerprint t).2 =
      (keyQuery r info source fingerprint).elim t (Query.perform r t) := by
  unfold contactWithFingerprint keyQuery
  cases contactAddress r.toLowercase info.addr <;> rfl

def addOrLookupKeyContacts (gossipedKeys : String → Option Fingerprint) (source : Source) :
    Lookup r where
  round := addOrLookupKeyContact r gossipedKeys
  query info fp :=
    if !mayBeValidAddr info.addr then none
    else
      match fp with
      | some fp => keyQuery r info source fp
      | none => (gossipedKeys info.addr).bind (keyQuery r info .gossip)
  round_contacts info fp t := by
    unfold addOrLookupKeyContact
    split
    · rfl
    · cases fp with
      | some fp => exact contactWithFingerprint_contacts r info fp source t
      | none =>
        cases gossipedKeys info.addr with
        | some fp => exact contactWithFingerprint_contacts r info fp .gossip t
        | none =>
          show (if r.isSelfAddr info.addr then _ else _ : Option ContactId × Contacts).2 = t
          split <;> rfl

structure Directory where
  /-- `get_chat_id_by_grpid` -/
  chatIdByGrpid : String → Option ChatId
  /-- the chat is there, and it is encrypted or not -/
  isEncrypted : ChatId → Option Bool
  inChat : ChatId → List ContactId
  acceptedChats : ContactId → ℕ
  lastSeen : ContactId → ℤ

/-- the order of the query without a chat: most accepted chats first, then the contact that was seen
last, then the newest one -/
def isBefore (db : Directory) (a b : KeyContact) : Bool :=
  db.acceptedChats a.id > db.acceptedChats b.id ||
    (db.acceptedChats a.id == db.acceptedChats b.id && (db.lastSeen a.id > db.lastSeen b.id ||
      (db.lastSeen a.id == db.lastSeen b.id && a.id > b.id)))

/-- `lookup_key_contact_by_address` without a chat -/
def lookupKeyContactAnywhere (db : Directory) (addr : String) (t : Contacts) : Option ContactId :=
  if r.isSelfAddr addr then some ContactId.self
  else
    let rows := t.rows.filter fun row =>
      asciiLowercase row.addr == asciiLowercase addr && row.fingerprint != ""
    (rows.find? fun row => rows.all fun other => other == row || isBefore db row other).map
      KeyContact.id

/-- a round of `lookup_key_contacts_fallback_to_chat`, with a chat or without -/
def lookupKeyContactFallback (db : Directory) (chatId : Option ChatId) (info : SingleInfo)
    (fp : Option Fingerprint) (t : Contacts) : Option ContactId × Contacts :=
  match chatId with
  | some chatId => lookupKeyContactFallbackToChat r (db.inChat chatId) info fp t
  | none =>
    if !mayBeValidAddr info.addr then (none, t)
    else
      match fp with
      | some fingerprint => contactWithFingerprint r info fingerprint t
      | none => (lookupKeyContactAnywhere r db info.addr t, t)

def lookupKeyContactsFallbackToChat (db : Directory) (chatId : Option ChatId) : Lookup r where
  round := lookupKeyContactFallback r db chatId
  query info fp := if !mayBeValidAddr info.addr then none else fp.bind (keyQuery r info .header)
  round_contacts info fp t := by
    unfold lookupKeyContactFallback lookupKeyContactFallbackToChat
    cases chatId <;> dsimp only <;> split
    · rfl
    · cases fp with
      | some fp => exact contactWithFingerprint_contacts r info fp .header t
      | none => rfl
    · rfl
    · cases fp with
      | some fp => exact contactWithFingerprint_contacts r info fp .header t
      | none => rfl

/-- `Origin::OutgoingTo`, `IncomingReplyTo`, `IncomingTo` and `IncomingUnknownTo` -/
def originOutgoingTo : ℕ := 0x4000
def originIncomingReplyTo : ℕ := 0x100
def originIncomingTo : ℕ := 0x400
def originIncomingUnknownTo : ℕ := 0x40

/-- `add_or_lookup_ex` hides addresses that nobody reads -/
def hideOrigin (addr : String) (origin : ℕ) : ℕ :=
  if origin ≤ originOutgoingTo ∧
      ("noreply".toList <:+: addr.toList ∨ "no-reply".toList <:+: addr.toList ∨
        startsWith addr "notifications@" ∨ (addr.utf8ByteSize > 50 ∧ '+' ∈ addr.toList)) then
    originHidden
  else origin

def addOrLookupContactsByAddressList (origin : ℕ) : Lookup r where
  round info _ t :=
    if !mayBeValidAddr info.addr then (none, t)
    else
      match contactAddress r.toLowercase info.addr with
      | some addr =>
        let found := addOrLookupEx r t addr "" (hideOrigin addr origin)
        (some found.1, found.2)
      | none => (none, t)
  query info _ :=
    if !mayBeValidAddr info.addr then none
    else
      (contactAddress r.toLowercase info.addr).map fun addr =>
        ⟨addr, "", hideOrigin addr origin, .address⟩
  round_contacts info _ t := by
    split
    · rfl
    · cases contactAddress r.toLowercase info.addr <;> rfl

end

/-! ## `get_to_and_past_contact_ids` -/

inductive ChatAssignment where
  | trash
  | groupChat (grpid : String)
  | mailingListOrBroadcast
  | adHocGroup
  | existingChat (chatId : ChatId)
  | oneOneChat
  deriving DecidableEq, Repr

structure Incoming where
  recipients : List SingleInfo
  pastMembers : List SingleInfo
  memberFpr : Option String
  gossipedKeys : String → Option Fingerprint
  incoming : Bool
  wasEncrypted : Bool
  /-- the fingerprints the message is encrypted to, beside the one it is signed with -/
  recipientFps : Option (List Fingerprint)
  parentChatId : Option ChatId
  incomingOrigin : ℕ

def Incoming.words (m : Incoming) : List String := (m.memberFpr.map splitAsciiWhitespace).getD []

/-- `chat_group_member_fingerprints`: words that do not parse are left out -/
def Incoming.memberFingerprints (r : Receiver) (m : Incoming) : List Fingerprint :=
  m.words.filterMap (Fingerprint.parse r.toUppercase)

def splitFingerprints (r : Receiver) (m : Incoming) : List Fingerprint × List Fingerprint :=
  let fps := m.memberFingerprints r
  if fps ≠ [] then
    if fps.length ≥ m.recipients.length then fps.splitAt m.recipients.length else ([], [])
  else ([], [])

structure Resolved where
  toIds : List (Option ContactId)
  pastIds : List (Option ContactId)
  /-- a message may be downgraded -/
  assignment : ChatAssignment
  state : Resolving

section
variable (r : Receiver) (db : Directory) (m : Incoming)

def lookupChatId : ChatAssignment → Option ChatId
  | .groupChat grpid => db.chatIdByGrpid grpid
  | .existingChat chatId => some chatId
  | .oneOneChat => if !m.incoming then m.parentChatId else none
  | _ => none

def originTo : ℕ :=
  if !m.incoming then originOutgoingTo
  else if m.incomingOrigin ≥ originIncomingReplyTo then originIncomingTo
  else originIncomingUnknownTo

def lookupByAddress (assignment : ChatAssignment) (s : Resolving) : Resolved :=
  let (toIds, s) :=
    (addOrLookupContactsByAddressList r (originTo m)).run .recipient m.recipients [] s
  let (pastIds, s) :=
    (addOrLookupContactsByAddressList r originHidden).run .pastMember m.pastMembers [] s
  ⟨toIds, pastIds, assignment, s⟩

/-- `ids` of a message that was encrypted, but has no key-contact as its first recipient -/
def lookupEncrypted (assignment : ChatAssignment) (toFps : List Fingerprint) (s : Resolving) :
    List (Option ContactId) × Resolving :=
  let recipientFps := m.recipientFps.getD []
  if recipientFps ≠ [] ∧ recipientFps.length ≤ 2 then
    let recipientFps := recipientFps.filter (· ≠ r.selfFingerprint)
    if recipientFps = [] then ([some ContactId.self], s)
    else
      (addOrLookupKeyContacts r m.gossipedKeys .recipientFps).run .recipient m.recipients
        recipientFps s
  else
    (lookupKeyContactsFallbackToChat r db (lookupChatId db m assignment)).run .recipient
      m.recipients toFps s

/-- key-contacts are preferred; a message without any is downgraded to an ad-hoc group -/
def preferKeyContacts (assignment : ChatAssignment) (ids : List (Option ContactId))
    (s : Resolving) : List (Option ContactId) × ChatAssignment × Resolving :=
  if m.wasEncrypted ∧ none ∉ ids ∨ ∃ id ∈ ids, id.isSome ∧ id ≠ some ContactId.self then
    (ids, assignment, s)
  else
    let (toIds, s) :=
      (addOrLookupContactsByAddressList r (originTo m)).run .recipient m.recipients [] s
    (toIds, if m.wasEncrypted then .adHocGroup else assignment, s)

def lookupOneOne (assignment : ChatAssignment) (toFps : List Fingerprint) (s : Resolving) :
    List (Option ContactId) × ChatAssignment × Resolving :=
  let (pgpToIds, s) :=
    (addOrLookupKeyContacts r m.gossipedKeys .header).run .recipient m.recipients toFps s
  if pgpToIds.head?.join.isSome then (pgpToIds, assignment, s)
  else
    let (ids, s) := if m.wasEncrypted then lookupEncrypted r db m assignment toFps s else ([], s)
    preferKeyContacts r m assignment ids s

def getToAndPastContactIdsFor (assignment : ChatAssignment) (t : Contacts) :
    Except Failure Resolved :=
  let (toFps, pastFps) := splitFingerprints r m
  let s : Resolving := ⟨t, []⟩
  match assignment with
  | .groupChat grpid =>
    let (toIds, s) :=
      (addOrLookupKeyContacts r m.gossipedKeys .header).run .recipient m.recipients toFps s
    let (pastIds, s) :=
      match db.chatIdByGrpid grpid with
      | some chatId =>
        (lookupKeyContactsFallbackToChat r db (some chatId)).run .pastMember m.pastMembers pastFps s
      | none =>
        (addOrLookupKeyContacts r m.gossipedKeys .header).run .pastMember m.pastMembers pastFps s
    .ok ⟨toIds, pastIds, assignment, s⟩
  | .trash => .ok ⟨[], [], assignment, s⟩
  | .existingChat chatId =>
    match db.isEncrypted chatId with
    | none => .error (.ensure s!"Failed loading chat Chat#{chatId} from database")
    | some true =>
      let (toIds, s) :=
        (addOrLookupKeyContacts r m.gossipedKeys .header).run .recipient m.recipients toFps s
      let (pastIds, s) :=
        (lookupKeyContactsFallbackToChat r db (some chatId)).run .pastMember m.pastMembers pastFps s
      .ok ⟨toIds, pastIds, assignment, s⟩
    | some false => .ok (lookupByAddress r m assignment s)
  | .adHocGroup => .ok (lookupByAddress r m assignment s)
  | .oneOneChat | .mailingListOrBroadcast =>
    let (toIds, assignment, s) := lookupOneOne r db m assignment toFps s
    let (pastIds, s) :=
      (addOrLookupContactsByAddressList r originHidden).run .pastMember m.pastMembers [] s
    .ok ⟨toIds, pastIds, assignment, s⟩

end

/-! ## calls with a fingerprint of the header -/

section
variable {r : Receiver}

def Resolvable (r : Receiver) (info : SingleInfo) : Prop :=
  mayBeValidAddr info.addr = true ∧ (contactAddress r.toLowercase info.addr).isSome = true

/-- the address at this place in one of the lists is looked up with this fingerprint, and it is from
the header -/
def HeaderCall (calls : List Call) (role : Role) (i : ℕ) (fp : Fingerprint) : Prop :=
  ∃ c ∈ calls, c.source = .header ∧ c.role = role ∧ c.index = i ∧ c.fingerprint = fp

/-- the query of a round has a fingerprint of the header IFF `p`; it is the one that is given -/
def Lookup.Reads (l : Lookup r) (p : Prop) : Prop :=
  ∀ info fp fp', (∃ q, l.query info fp = some q ∧ q.source = .header ∧ q.fingerprint = fp') ↔
    p ∧ Resolvable r info ∧ fp = some fp'

theorem keyQuery_iff (info : SingleInfo) (source : Source) (fp fp' : Fingerprint) :
    (∃ q, keyQuery r info source fp = some q ∧ q.source = .header ∧ q.fingerprint = fp') ↔
      source = .header ∧ (contactAddress r.toLowercase info.addr).isSome = true ∧ fp = fp' := by
  unfold keyQuery
  cases contactAddress r.toLowercase info.addr <;> simp

theorem addOrLookupKeyContacts_reads (gossipedKeys : String → Option Fingerprint) (source : Source) :
    (addOrLookupKeyContacts r gossipedKeys source).Reads (source = .header) := by
  intro info fp fp'
  dsimp only [addOrLookupKeyContacts, Resolvable]
  cases mayBeValidAddr info.addr with
  | false => simp
  | true =>
    cases fp with
    | some fp => simp [keyQuery_iff]
    | none => cases gossipedKeys info.addr <;> simp [keyQuery_iff]

theorem lookupKeyContactsFallbackToChat_reads (db : Directory) (chatId : Option ChatId) :
    (lookupKeyContactsFallbackToChat r db chatId).Reads True := by
  intro info fp fp'
  dsimp only [lookupKeyContactsFallbackToChat, Resolvable]
  cases mayBeValidAddr info.addr <;> cases fp <;> simp [keyQuery_iff]

theorem addOrLookupContactsByAddressList_reads (origin : ℕ) :
    (addOrLookupContactsByAddressList r origin).Reads False := by
  intro info fp fp'
  dsimp only [addOrLookupContactsByAddressList]
  cases mayBeValidAddr info.addr <;> cases contactAddress r.toLowercase info.addr <;> simp

/-! ## runs -/

theorem Lookup.mem_calls (l : Lookup r) (role : Role) (start : ℕ) (infos : List SingleInfo)
    (fps : List Fingerprint) (c : Call) :
    c ∈ l.calls role start infos fps ↔ ∃ k info q, infos[k]? = some info ∧
      l.query info fps[k]? = some q ∧ c = ⟨q, role, start + k⟩ := by
  induction infos generalizing start fps with
  | nil =>
    refine iff_of_false List.not_mem_nil ?_
    rintro ⟨k, info, q, h, -⟩
    cases h
  | cons info infos ih =>
    rw [calls, List.mem_append, ih, Option.mem_toList, Option.map_eq_some_iff]
    constructor
    · rintro (⟨q, hq, rfl⟩ | ⟨k, info', q, hk, hq, rfl⟩)
      · exact ⟨0, info, q, rfl, by rwa [List.head?_eq_getElem?] at hq, rfl⟩
      · refine ⟨k + 1, info', q, hk, by rwa [List.getElem?_tail] at hq, ?_⟩
        rw [Nat.add_right_comm, Nat.add_assoc]
    · rintro ⟨k, info', q, hk, hq, rfl⟩
      cases k with
      | zero =>
        cases hk
        exact .inl ⟨q, by rwa [List.head?_eq_getElem?], rfl⟩
      | succ k =>
        refine .inr ⟨k, info', q, hk, by rwa [List.getElem?_tail], ?_⟩
        rw [Nat.add_right_comm, Nat.add_assoc]

def Looks (r : Receiver) (infos : List SingleInfo) (fps : List Fingerprint) (i : ℕ)
    (fp : Fingerprint) : Prop :=
  ∃ info, infos[i]? = some info ∧ Resolvable r info ∧ fps[i]? = some fp

theorem headerCall_run {l : Lookup r} {p : Prop} (hl : l.Reads p) {role role' : Role}
    {infos : List SingleInfo} {fps : List Fingerprint} {i : ℕ} {fp : Fingerprint} {s : Resolving} :
    HeaderCall (l.run role infos fps s).2.calls role' i fp ↔
      HeaderCall s.calls role' i fp ∨ p ∧ role' = role ∧ Looks r infos fps i fp := by
  show HeaderCall (s.calls ++ l.calls role 0 infos fps) role' i fp ↔ _
  unfold HeaderCall
  simp only [List.mem_append, or_and_right, exists_or]
  refine or_congr_right ?_
  constructor
  · rintro ⟨c, hc, hsource, rfl, rfl, rfl⟩
    obtain ⟨k, info, q, hk, hq, rfl⟩ := (l.mem_calls role 0 infos fps c).mp hc
    obtain ⟨hp, hinfo, hfp⟩ := (hl info fps[k]? q.fingerprint).mp ⟨q, hq, hsource, rfl⟩
    rw [Nat.zero_add]
    exact ⟨hp, rfl, info, hk, hinfo, hfp⟩
  · rintro ⟨hp, rfl, info, hk, hinfo, hfp⟩
    obtain ⟨q, hq, hsource, rfl⟩ := (hl info fps[i]? fp).mpr ⟨hp, hinfo, hfp⟩
    refine ⟨⟨q, role', 0 + i⟩, ?_, hsource, rfl, Nat.zero_add i, rfl⟩
    exact (l.mem_calls role' 0 infos fps _).mpr ⟨i, info, q, hk, hq, rfl⟩

end

/-! ## the whole function -/

def Incoming.addresses (m : Incoming) : Role → List SingleInfo
  | .recipient => m.recipients
  | .pastMember => m.pastMembers

def Incoming.slice (r : Receiver) (m : Incoming) : Role → List Fingerprint
  | .recipient => (splitFingerprints r m).1
  | .pastMember => (splitFingerprints r m).2

/-- so far, the lists of these roles have been looked up with the header -/
def LookedUp (r : Receiver) (m : Incoming) (roles : Role → Bool) (s : Resolving) : Prop :=
  ∀ role i fp, HeaderCall s.calls role i fp ↔
    roles role = true ∧ Looks r (m.addresses role) (m.slice r role) i fp

def UsesHeader (db : Directory) : ChatAssignment → Role → Bool
  | .groupChat _, _ => true
  | .existingChat chatId, _ => db.isEncrypted chatId == some true
  | .oneOneChat, role => role == .recipient
  | .mailingListOrBroadcast, role => role == .recipient
  | .trash, _ => false
  | .adHocGroup, _ => false

section
variable {r : Receiver} {db : Directory} {m : Incoming} {assignment : ChatAssignment} {t : Contacts}
  {s : Resolving} {roles roles' : Role → Bool} {l : Lookup r}

theorem LookedUp.header (h : LookedUp r m roles s) (hl : l.Reads True) (role : Role)
    (hroles : ∀ x, roles' x = true ↔ roles x = true ∨ x = role) :
    LookedUp r m roles' (l.run role (m.addresses role) (m.slice r role) s).2 := by
  intro role' i fp
  rw [headerCall_run hl, h role' i fp, hroles, or_and_right, true_and]
  refine or_congr_right ⟨?_, ?_⟩
  · rintro ⟨rfl, hlooks⟩
    exact ⟨rfl, hlooks⟩
  · rintro ⟨rfl, hlooks⟩
    exact ⟨rfl, hlooks⟩

theorem LookedUp.other {p : Prop} (h : LookedUp r m roles s) (hl : l.Reads p) (hp : ¬ p) {role : Role}
    {infos : List SingleInfo} {fps : List Fingerprint} :
    LookedUp r m roles (l.run role infos fps s).2 := by
  intro role' i fp
  rw [headerCall_run hl, or_iff_left fun hq => hp hq.1]
  exact h role' i fp

theorem LookedUp.byAddress (h : LookedUp r m roles s) {origin : ℕ} {role : Role}
    {infos : List SingleInfo} {fps : List Fingerprint} : LookedUp r m roles
      ((addOrLookupContactsByAddressList r origin).run role infos fps s).2 :=
  h.other (addOrLookupContactsByAddressList_reads origin) id

theorem lookedUp_start (r : Receiver) (m : Incoming) (t : Contacts) :
    LookedUp r m (fun _ => false) ⟨t, []⟩ := by
  refine fun role i fp => iff_of_false ?_ fun h => Bool.false_ne_true h.1
  rintro ⟨c, hc, -⟩
  cases hc

theorem lookedUp_recipients (r : Receiver) (m : Incoming) (t : Contacts) :
    LookedUp r m (· == .recipient) ((addOrLookupKeyContacts r m.gossipedKeys .header).run .recipient
      m.recipients (m.slice r .recipient) ⟨t, []⟩).2 := by
  refine (lookedUp_start r m t).header (l := addOrLookupKeyContacts r m.gossipedKeys .header) ?_
    .recipient (by simp)
  exact (eq_true rfl : (Source.header = .header) = True) ▸ addOrLookupKeyContacts_reads _ _

theorem lookedUp_lookupEncrypted (h : LookedUp r m (· == .recipient) s) :
    LookedUp r m (· == .recipient)
      (lookupEncrypted r db m assignment (m.slice r .recipient) s).2 := by
  unfold lookupEncrypted
  dsimp only
  split
  · split
    · exact h
    · exact h.other (addOrLookupKeyContacts_reads _ .recipientFps) nofun
  · exact h.header (lookupKeyContactsFallbackToChat_reads db _) .recipient (by simp)

theorem lookedUp_lookupOneOne (db : Directory) (assignment : ChatAssignment) (t : Contacts) :
    LookedUp r m (· == .recipient)
      (lookupOneOne r db m assignment (m.slice r .recipient) ⟨t, []⟩).2.2 := by
  have hprefer (ids : List (Option ContactId)) {s : Resolving} (h : LookedUp r m (· == .recipient) s) :
      LookedUp r m (· == .recipient) (preferKeyContacts r m assignment ids s).2.2 := by
    unfold preferKeyContacts
    split
    · exact h
    · exact h.byAddress
  have hpgp := lookedUp_recipients r m t
  unfold lookupOneOne
  dsimp only
  split
  · exact hpgp
  · split
    · exact hprefer _ (lookedUp_lookupEncrypted hpgp)
    · exact hprefer _ hpgp

theorem lookedUp_getToAndPastContactIdsFor {res : Resolved}
    (hok : getToAndPastContactIdsFor r db m assignment t = .ok res) :
    LookedUp r m (UsesHeader db assignment) res.state := by
  have hto := lookedUp_recipients r m t
  have hpast {l : Lookup r} (hl : l.Reads True) : LookedUp r m (fun _ => true) _ :=
    hto.header hl .pastMember (by rintro (_ | _) <;> simp)
  have haddress : LookedUp r m (fun _ => false) (lookupByAddress r m assignment ⟨t, []⟩).state :=
    (lookedUp_start r m t).byAddress.byAddress
  unfold getToAndPastContactIdsFor at hok
  cases assignment with
  | trash =>
    cases hok
    exact lookedUp_start r m t
  | groupChat grpid =>
    cases hok
    dsimp only
    split
    · exact hpast (lookupKeyContactsFallbackToChat_reads db _)
    · exact hpast ((eq_true rfl : (Source.header = .header) = True) ▸ addOrLookupKeyContacts_reads _ _)
  | adHocGroup =>
    cases hok
    exact haddress
  | existingChat chatId =>
    have huses {encrypted : Bool} (h : db.isEncrypted chatId = some encrypted) :
        UsesHeader db (.existingChat chatId) = fun _ => encrypted := by
      funext role
      simp [UsesHeader, h]
    dsimp only at hok
    cases henc : db.isEncrypted chatId with
    | none =>
      rw [henc] at hok
      cases hok
    | some encrypted =>
      rw [henc] at hok
      rw [huses henc]
      cases encrypted with
      | true =>
        cases hok
        exact hpast (lookupKeyContactsFallbackToChat_reads db _)
      | false =>
        cases hok
        exact haddress
  | oneOneChat =>
    cases hok
    exact (lookedUp_lookupOneOne db .oneOneChat t).byAddress
  | mailingListOrBroadcast =>
    cases hok
    exact (lookedUp_lookupOneOne db .mailingListOrBroadcast t).byAddress

theorem splitFingerprints_eq (r : Receiver) (m : Incoming) : splitFingerprints r m =
    if (m.memberFingerprints r).length ≥ m.recipients.length then
      ((m.memberFingerprints r).take m.recipients.length,
        (m.memberFingerprints r).drop m.recipients.length)
    else ([], []) := by
  unfold splitFingerprints
  dsimp only
  by_cases hnil : m.memberFingerprints r = []
  · rw [hnil, if_neg (not_not.mpr rfl), List.take_nil, List.drop_nil, ite_self]
  · rw [if_pos hnil, List.splitAt_eq]

/-- a message to a group that is there: the ids and the contacts are those of
`getToAndPastContactIds` -/
theorem getToAndPastContactIdsFor_group {grpid : String} {chat : ReceiverChat} {gm : GroupMessage}
    {h : MemberHeaders} (hchat : db.chatIdByGrpid grpid = some chat.id)
    (hinChat : db.inChat chat.id = chat.inChat) (hto : m.recipients = addressesOf r h.toAddrs)
    (hpast : m.pastMembers = addressesOf r (h.chatGroupPastMembers.getD []))
    (hfpr : m.memberFpr = h.chatGroupMemberFpr) (hgossip : m.gossipedKeys = gm.gossipedKeys) :
    ∃ res, getToAndPastContactIdsFor r db m (.groupChat grpid) t = .ok res ∧
      (res.toIds, res.pastIds, res.state.contacts) = getToAndPastContactIds r chat gm h t := by
  have hfps : m.memberFingerprints r = chatGroupMemberFingerprints r h := by
    unfold Incoming.memberFingerprints Incoming.words chatGroupMemberFingerprints
    rw [hfpr]
    cases h.chatGroupMemberFpr <;> rfl
  unfold getToAndPastContactIdsFor getToAndPastContactIds
  rw [splitFingerprints_eq, hfps, hto, hpast, hgossip]
  dsimp only
  rw [hchat, ← hinChat]
  exact ⟨_, rfl, rfl⟩

def Incoming.place (m : Incoming) : Role → ℕ → ℕ
  | .recipient, i => i
  | .pastMember, i => m.recipients.length + i

theorem looks_iff (r : Receiver) (m : Incoming) (role : Role) (i : ℕ) (fp : Fingerprint) :
    Looks r (m.addresses role) (m.slice r role) i fp ↔
      (m.memberFingerprints r).length ≥ m.recipients.length ∧
        ∃ info, (m.addresses role)[i]? = some info ∧ Resolvable r info ∧
          (m.memberFingerprints r)[m.place role i]? = some fp := by
  have hslice : (m.addresses role)[i]? ≠ none → ((m.slice r role)[i]? = some fp ↔
      (m.memberFingerprints r).length ≥ m.recipients.length ∧
        (m.memberFingerprints r)[m.place role i]? = some fp) := by
    intro hi
    unfold Incoming.slice
    rw [splitFingerprints_eq]
    by_cases hlen : (m.memberFingerprints r).length ≥ m.recipients.length
    case neg =>
      rw [if_neg hlen]
      refine iff_of_false ?_ fun h => hlen h.1
      cases role <;> exact fun h => nomatch h
    case pos =>
      rw [if_pos hlen]
      cases role with
      | recipient =>
        have hlt : i < m.recipients.length := by
          by_contra hge
          exact hi (List.getElem?_eq_none (not_lt.mp hge))
        show (List.take _ _)[i]? = some fp ↔ _
        rw [List.getElem?_take_of_lt hlt]
        exact (and_iff_right hlen).symm
      | pastMember =>
        show (List.drop _ _)[i]? = some fp ↔ _
        rw [List.getElem?_drop]
        exact (and_iff_right hlen).symm
  unfold Looks
  constructor
  · rintro ⟨info, hinfo, hres, hfp⟩
    obtain ⟨hlen, hfp⟩ := (hslice (by rw [hinfo]; exact Option.some_ne_none info)).mp hfp
    exact ⟨hlen, info, hinfo, hres, hfp⟩
  · rintro ⟨hlen, info, hinfo, hres, hfp⟩
    exact ⟨info, hinfo, hres,
      (hslice (by rw [hinfo]; exact Option.some_ne_none info)).mpr ⟨hlen, hfp⟩⟩

def Incoming.wordFingerprint (r : Receiver) (m : Incoming) (k : ℕ) : Option Fingerprint :=
  m.words[k]?.bind (Fingerprint.parse r.toUppercase)

/-- how many of the words before a place parse -/
def Incoming.parsedBefore (r : Receiver) (m : Incoming) (k : ℕ) : ℕ :=
  (m.words.take k).countP fun word => (Fingerprint.parse r.toUppercase word).isSome

/-- all words up to this place parse; or fewer words parse in all than are needed to get there; or the
word that moves up to this place has the same fingerprint as the word there -/
def Incoming.InPlace (r : Receiver) (m : Incoming) (k : ℕ) : Prop :=
  (∀ j ≤ k, (m.wordFingerprint r j).isSome) ∨ m.parsedBefore r m.words.length ≤ k ∨
    ∃ j fp, k < j ∧ m.parsedBefore r j = k ∧ m.wordFingerprint r j = some fp ∧
      m.wordFingerprint r k = some fp

theorem getElem?_filterMap {α β : Type} {f : α → Option β} {l : List α} {k : ℕ} {b : β} :
    (l.filterMap f)[k]? = some b ↔
      ∃ j, l[j]?.bind f = some b ∧ (l.take j).countP (fun a => (f a).isSome) = k := by
  induction l generalizing k with
  | nil => simp
  | cons a l ih =>
    cases hf : f a with
    | none =>
      rw [List.filterMap_cons_none hf, ih]
      constructor
      · rintro ⟨j, hj, hcount⟩
        exact ⟨j + 1, by simpa using hj, by simpa [hf] using hcount⟩
      · rintro ⟨j, hj, hcount⟩
        cases j with
        | zero => simp [hf] at hj
        | succ j => exact ⟨j, by simpa using hj, by simpa [hf] using hcount⟩
    | some b' =>
      rw [List.filterMap_cons_some hf]
      cases k with
      | zero =>
        constructor
        · intro h
          exact ⟨0, by simpa [hf] using h, rfl⟩
        · rintro ⟨j, hj, hcount⟩
          cases j with
          | zero => simpa [hf] using hj
          | succ j => simp [hf] at hcount
      | succ k =>
        rw [List.getElem?_cons_succ, ih]
        constructor
        · rintro ⟨j, hj, hcount⟩
          exact ⟨j + 1, by simpa using hj, by simpa [hf] using hcount⟩
        · rintro ⟨j, hj, hcount⟩
          cases j with
          | zero => simp at hcount
          | succ j => exact ⟨j, by simpa using hj, by simpa [hf] using hcount⟩

theorem memberFingerprints_get (r : Receiver) (m : Incoming) (k : ℕ) (fp : Fingerprint) :
    (m.memberFingerprints r)[k]? = some fp ↔
      ∃ j, m.wordFingerprint r j = some fp ∧ m.parsedBefore r j = k := getElem?_filterMap

theorem memberFingerprints_length (r : Receiver) (m : Incoming) :
    (m.memberFingerprints r).length = m.parsedBefore r m.words.length := by
  rw [Incoming.parsedBefore, List.take_length, Incoming.memberFingerprints,
    List.length_filterMap_eq_countP]

theorem wordFingerprint_lt {r : Receiver} {m : Incoming} {k : ℕ} {fp : Fingerprint}
    (h : m.wordFingerprint r k = some fp) : k < m.words.length := by
  obtain ⟨word, hword, -⟩ := Option.bind_eq_some_iff.mp h
  exact (List.getElem?_eq_some_iff.mp hword).1

theorem parsedBefore_eq_self {r : Receiver} {m : Incoming} {k : ℕ} (hk : k ≤ m.words.length) :
    m.parsedBefore r k = k ↔ ∀ j < k, (m.wordFingerprint r j).isSome := by
  have hlen : (m.words.take k).length = k := List.length_take_of_le hk
  unfold Incoming.parsedBefore Incoming.wordFingerprint
  conv_lhs => rhs; rw [← hlen]
  rw [List.countP_eq_length]
  constructor
  · intro h j hj
    have hword := List.getElem?_eq_getElem (hj.trans_le hk)
    rw [hword]
    exact h _ (List.mem_take_iff_getElem.mpr ⟨j, by omega, rfl⟩)
  · intro h word hmem
    obtain ⟨j, hj, rfl⟩ := List.mem_take_iff_getElem.mp hmem
    have hparsed := h j (by omega)
    rwa [List.getElem?_eq_getElem (by omega)] at hparsed

theorem inPlace_iff (r : Receiver) (m : Incoming) (k : ℕ) : m.InPlace r k ↔
    ∀ fp, (m.memberFingerprints r)[k]? = some fp → m.wordFingerprint r k = some fp := by
  constructor
  · rintro (hall | hfew | ⟨j, fp', -, hcount, hj, hk⟩) fp hfp
    · obtain ⟨fp', hfp'⟩ := Option.isSome_iff_exists.mp (hall k le_rfl)
      have hcount := (parsedBefore_eq_self (wordFingerprint_lt hfp').le).mpr
        fun j hj => hall j hj.le
      rw [(memberFingerprints_get r m k fp').mpr ⟨k, hfp', hcount⟩] at hfp
      rw [hfp', hfp]
    · rw [← memberFingerprints_length] at hfew
      rw [List.getElem?_eq_none hfew] at hfp
      cases hfp
    · rw [(memberFingerprints_get r m k fp').mpr ⟨j, hj, hcount⟩] at hfp
      rw [hk, hfp]
  · intro h
    by_cases hfew : m.parsedBefore r m.words.length ≤ k
    · exact .inr (.inl hfew)
    · rw [← memberFingerprints_length, not_le] at hfew
      have hfp := List.getElem?_eq_getElem hfew
      obtain ⟨j, hj, hcount⟩ := (memberFingerprints_get r m k _).mp hfp
      have hle : m.parsedBefore r j ≤ j := List.countP_le_length.trans (List.length_take_le j _)
      rcases eq_or_lt_of_le (hcount ▸ hle) with rfl | hlt
      · have hbefore := (parsedBefore_eq_self (wordFingerprint_lt hj).le).mp hcount
        refine .inl fun i hi => ?_
        rcases eq_or_lt_of_le hi with rfl | hlt
        · rw [hj]
          rfl
        · exact hbefore i hlt
      · exact .inr (.inr ⟨j, _, hlt, hcount, hj, h _ hfp⟩)

/-- **whose fingerprint it is**: every address that is looked up with the header is looked up with
the word at its place, iff the header has too few words that parse for the recipients, or no word moves
up to the place of an address that is looked up, unless it says the same -/
theorem header_fingerprints_iff (r : Receiver) (db : Directory) (m : Incoming)
    (assignment : ChatAssignment) (t : Contacts) {res : Resolved}
    (hok : getToAndPastContactIdsFor r db m assignment t = .ok res) :
    (∀ role i fp, HeaderCall res.state.calls role i fp →
        m.wordFingerprint r (m.place role i) = some fp) ↔
      m.parsedBefore r m.words.length < m.recipients.length ∨
        ∀ role i info, UsesHeader db assignment role = true → (m.addresses role)[i]? = some info →
          Resolvable r info → m.InPlace r (m.place role i) := by
  have hcall (role : Role) (i : ℕ) (fp : Fingerprint) :
      HeaderCall res.state.calls role i fp ↔ _ := lookedUp_getToAndPastContactIdsFor hok role i fp
  simp only [hcall, looks_iff, inPlace_iff, ← memberFingerprints_length]
  constructor
  · intro h
    rcases lt_or_ge (m.memberFingerprints r).length m.recipients.length with hlt | hge
    · exact .inl hlt
    · exact .inr fun role i info huses hinfo hres fp hfp =>
        h role i fp ⟨huses, hge, info, hinfo, hres, hfp⟩
  · rintro (hlt | h) role i fp ⟨huses, hge, info, hinfo, hres, hfp⟩
    · exact absurd hlt (not_lt.mpr hge)
    · exact h role i info huses hinfo hres fp hfp

end

/-! ## a word that does not parse -/

namespace ShiftedHeader

def directory : Directory where
  chatIdByGrpid grpid := if grpid = "grpgrpgrpgr" then some 12 else none
  isEncrypted _ := some true
  inChat _ := bobChat.inChat
  acceptedChats _ := 0
  lastSeen _ := 0

def message (memberFpr : String) : Incoming where
  recipients := [⟨"claire@example.org", none⟩, ⟨"dave@example.org", none⟩]
  pastMembers := []
  memberFpr := some memberFpr
  gossipedKeys _ := none
  incoming := true
  wasEncrypted := true
  recipientFps := none
  parentChatId := none
  incomingOrigin := 0x40

def wellFormed : Incoming := message (fingerprintC ++ " " ++ fingerprintA)

/-- the first word does not parse, so each recipient gets the word behind its own -/
def shifted : Incoming := message ("? " ++ fingerprintC ++ " " ++ fingerprintA)

end ShiftedHeader

open ShiftedHeader in
theorem header_fingerprints_iff_wellFormed :
    ∃ res, getToAndPastContactIdsFor bob directory wellFormed (.groupChat "grpgrpgrpgr")
        bobContacts = .ok res ∧
      ∀ role i fp, HeaderCall res.state.calls role i fp →
        wellFormed.wordFingerprint bob (wellFormed.place role i) = some fp := by
  refine ⟨_, rfl, (header_fingerprints_iff bob directory wellFormed (.groupChat "grpgrpgrpgr")
    bobContacts rfl).mpr (.inr ?_)⟩
  intro role i info _ hinfo _
  have hall : ∀ j < 2, (wellFormed.wordFingerprint bob j).isSome := by decide +kernel
  cases role with
  | recipient =>
    have hlt : i < 2 := (List.getElem?_eq_some_iff.mp hinfo).1
    exact .inl fun j hj => hall j (hj.trans_lt hlt)
  | pastMember => cases hinfo

open ShiftedHeader in
theorem recipients_get_next_fingerprint :
    ∃ res, getToAndPastContactIdsFor bob directory shifted (.groupChat "grpgrpgrpgr") bobContacts =
        .ok res ∧
      HeaderCall res.state.calls .recipient 0 fingerprintC ∧
      HeaderCall res.state.calls .recipient 1 fingerprintA ∧
      shifted.wordFingerprint bob 0 = none ∧ shifted.wordFingerprint bob 1 = some fingerprintC := by
  refine ⟨_, rfl, ?_, ?_, ?_, ?_⟩
  · exact ⟨_, List.mem_cons_self, rfl, rfl, rfl, rfl⟩
  · exact ⟨_, List.mem_cons_of_mem _ List.mem_cons_self, rfl, rfl, rfl, rfl⟩
  · decide
  · decide

end EpsilonChat.MemberList
