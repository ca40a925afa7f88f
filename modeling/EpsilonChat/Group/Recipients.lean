import EpsilonChat.Group.MemberVectors
import EpsilonChat.Group.Settings
import EpsilonChat.Lib.Eff
import EpsilonChat.Lib.Firsts

/-!
# Who gets a message

The loop of `MimeFactory::from_msg` again, now with what it collects for the sending: the keys to
encrypt to and the addresses for SMTP.  A contact is delivered to at the RELAYS its key lists, or at
its own address if the key lists none.

Members are told apart by their addresses in lower case, not by their keys, and this has a price:

* a member is left out if an earlier row has the same address;
* a member with the own address of the user is left out of the lists;
* of the relays of a key only three are used, and none at all if the key names relays without a
  valid address;
* when a removed contact without a key is told that it was removed, its address is taken out of the
  recipients, even if it is a relay of someone else.

`collect_inv` says what the loop has collected after any number of rows, and from it follows
**`member_reached_iff`**: a member is listed and reached iff none of these apply.
-/

namespace EpsilonChat.MemberList
open Lib Settings Text

/-- a public key: its fingerprint, and the text of its notation `relays@chatmail.at` -/
structure PublicKey where
  fingerprint : String
  relays : Option String
  deriving DecidableEq, Repr

def listedRelays (value : String) : List String :=
  (((value.toList.splitOnP (· == ',')).map String.ofList)).filter fun s => mayBeValidAddr s

/-- `addresses_from_public_key`: not more than three -/
def addressesFromPublicKey (key : PublicKey) : Option (List String) :=
  key.relays.map fun value => (listedRelays value).take 3

/-- a row of the query, joined with `public_keys` -/
structure KeyRow extends ContactRow where
  publicKey : Option PublicKey

/-! ## the loop -/

structure Outgoing where
  sending : Sending
  emailToRemove : Option String
  shouldEncryptSymmetrically : Bool

structure Collected where
  vectors : Vectors := {}
  recipients : List String := []
  keys : List (String × PublicKey) := []
  missingKeyAddresses : Finset String := ∅

def addrOf (c : Sending) (row : KeyRow) : String := (entry c row.toContactRow).2

def relaysOf (c : Sending) (row : KeyRow) : List String :=
  (row.publicKey.bind addressesFromPublicKey).getD [addrOf c row]

def takeKey (o : Outgoing) (s : Collected) (row : KeyRow) : Collected :=
  match row.publicKey with
  | some publicKey => { s with keys := s.keys ++ [(addrOf o.sending row, publicKey)] }
  | none =>
    if row.id ≠ ContactId.self ∧ !o.shouldEncryptSymmetrically then
      { s with missingKeyAddresses := insert (addrOf o.sending row) s.missingKeyAddresses }
    else s

/-- `recipients.extend(relays)`, except for the user -/
def deliverTo (c : Sending) (s : Collected) (row : KeyRow) : Collected :=
  if row.id ≠ ContactId.self then { s with recipients := s.recipients ++ relaysOf c row } else s

def collectRow (o : Outgoing) (s : Collected) (row : KeyRow) : Except Failure Collected :=
  let addr := addrOf o.sending row
  let s' :=
    if row.addTimestamp ≥ row.removeTimestamp then
      let s' := takeKey o s row
      if !recipientsContainAddr o.sending s.vectors.toAddrs addr then deliverTo o.sending s' row
      else s'
    else if I64.saturatingAdd row.removeTimestamp days60 > o.sending.now then
      if !recipientsContainAddr o.sending s.vectors.pastMembers addr ∧ o.emailToRemove = some addr then
        deliverTo o.sending (takeKey o s row) row
      else s
    else s
  (memberRow o.sending s.vectors row.toContactRow).map fun vectors => { s' with vectors := vectors }

def collectRows (o : Outgoing) : List KeyRow → Collected → Except Failure Collected
  | [], s => .ok s
  | row :: rows, s => (collectRow o s row).bind (collectRows o rows)

/-! ## `from_msg` -/

structure Account where
  toLowercase : String → String
  fromAddr : String
  displayname : String
  selfFingerprint : String
  now : I64

structure OutgoingChat where
  typ : Chattype
  grpid : String
  isSelfTalk : Bool
  /-- the contact of a single chat has a key -/
  singleIsKey : Bool
  listPost : Option String

structure OutgoingMsg where
  cmd : SystemMessage
  arg : Option String
  arg4 : Option String
  overrideSenderDisplayname : Option String
  forcePlaintext : Bool
  guaranteeE2ee : Bool

/-- the fields of `MimeFactory` that are modelled -/
structure Factory where
  vectors : MemberVectors
  recipients : List String
  encryptionPubkeys : Option (List (String × PublicKey))

def shouldAttachProfileData (msg : OutgoingMsg) : Bool :=
  msg.cmd ≠ .securejoinMessage ||
    ["vg-request-with-auth", "vc-request-with-auth", "vg-member-added", "vc-contact-confirm"].contains
      (msg.arg.getD "")

/-- `must_have_only_one_recipient`: the fingerprint of the only recipient -/
def mustHaveOnlyOneRecipient (chat : OutgoingChat) (msg : OutgoingMsg) :
    Option (Except Failure String) :=
  if chat.typ ≠ .outBroadcast then none
  else
    match msg.arg4 with
    | some fp => some (.ok fp)
    | none =>
      if msg.cmd = .memberRemovedFromGroup ∨ msg.cmd = .memberAddedToGroup then
        some (.error (.ensure "Missing removed/added member"))
      else none

def shouldEncryptWithBroadcastSecret (chat : OutgoingChat) (msg : OutgoingMsg) : Bool :=
  chat.typ = .outBroadcast && (mustHaveOnlyOneRecipient chat msg).isNone

def OutgoingChat.isEncrypted (chat : OutgoingChat) : Bool :=
  chat.isSelfTalk || match chat.typ with
    | .single => chat.singleIsKey
    | .group => chat.grpid ≠ ""
    | .mailinglist => false
    | .outBroadcast | .inBroadcast => true

def outgoing (account : Account) (chat : OutgoingChat) (msg : OutgoingMsg) : Outgoing where
  sending :=
    { toLowercase := account.toLowercase
      fromAddr := account.fromAddr
      selfFingerprint := account.selfFingerprint
      attachProfileData := shouldAttachProfileData msg
      isEncrypted := if msg.forcePlaintext then false else msg.guaranteeE2ee || chat.isEncrypted
      undisclosedRecipients := shouldEncryptWithBroadcastSecret chat msg
      now := account.now }
  emailToRemove := if msg.cmd = .memberRemovedFromGroup then msg.arg else none
  shouldEncryptSymmetrically := shouldEncryptWithBroadcastSecret chat msg

def fromDisplayname (account : Account) (msg : OutgoingMsg) : String :=
  match msg.overrideSenderDisplayname with
  | some overrideName => overrideName
  | none => if shouldAttachProfileData msg then account.displayname else ""

/-- what is encrypted to; recipients without a key are removed -/
def encryptTo (o : Outgoing) (s : Collected) :
    Except Failure (List String × Option (List (String × PublicKey))) :=
  if !o.sending.isEncrypted then .ok (s.recipients, none)
  else if o.shouldEncryptSymmetrically then .ok (s.recipients, some [])
  else if s.keys = [] ∧ s.recipients ≠ [] then
    .error (.ensure ("No recipient keys are available, cannot encrypt to " ++
      toString (s.recipients.map String.quote) ++ "."))
  else .ok (s.recipients.filter fun addr => addr ∉ s.missingKeyAddresses, some s.keys)

def fromMembers (o : Outgoing) (rows : List KeyRow) : Except Failure Factory := do
  let s ← collectRows o rows {}
  let vectors ← finishMembers o.sending s.vectors
  let (recipients, encryptionPubkeys) ← encryptTo o s
  return { vectors, recipients, encryptionPubkeys }

/-- `MimeFactory::from_msg`; `rows` are in the order of the query, and `onlyOne` gives the name, the
address and the key for a fingerprint -/
def fromMsgFactory (account : Account) (chat : OutgoingChat) (msg : OutgoingMsg)
    (rows : List KeyRow) (onlyOne : String → Except Failure (String × String × PublicKey)) :
    Except Failure Factory := do
  let factory ←
    (if chat.isSelfTalk then
      .ok { vectors := ⟨[(fromDisplayname account msg, account.fromAddr)], [], [], []⟩
            recipients := [], encryptionPubkeys := some [] }
    else if chat.typ = .mailinglist then
      match chat.listPost with
      | some listPost =>
        .ok { vectors := ⟨[("", listPost)], [], [], []⟩
              recipients := [listPost], encryptionPubkeys := none }
      | none => .error (.ensure "Can't write to mailinglist without ListPost param")
    else
      match mustHaveOnlyOneRecipient chat msg with
      | some fp => do
        let (authname, addr, publicKey) ← onlyOne (← fp)
        return { vectors := ⟨[(authname, addr)], [], [], []⟩
                 recipients := (addressesFromPublicKey publicKey).getD [addr]
                 encryptionPubkeys := some [(addr, publicKey)] }
      | none => fromMembers (outgoing account chat msg) rows)
  ensureLengths "member_timestamps" factory.vectors
  return factory

/-! ## who is listed -/

def isMemberRow (row : KeyRow) : Bool := row.addTimestamp ≥ row.removeTimestamp

def isRecentPast (c : Sending) (row : KeyRow) : Bool :=
  !isMemberRow row && decide (I64.saturatingAdd row.removeTimestamp days60 > c.now)

def addrKey (c : Sending) (row : KeyRow) : String := c.toLowercase (addrOf c row)

def listed (c : Sending) (rows : List KeyRow) : List KeyRow :=
  firsts (addrKey c) (rows.filter isMemberRow)

def listedPast (c : Sending) (rows : List KeyRow) : List KeyRow :=
  firsts (addrKey c) (rows.filter (isRecentPast c))

/-- an address that someone is delivered to at: a member, or the contact that was removed -/
def Sent (o : Outgoing) (rows : List KeyRow) (addr : String) : Prop :=
  (∃ row ∈ listed o.sending rows, row.id ≠ ContactId.self ∧ addr ∈ relaysOf o.sending row) ∨
    ∃ row ∈ listedPast o.sending rows, row.id ≠ ContactId.self ∧
      o.emailToRemove = some (addrOf o.sending row) ∧ addr ∈ relaysOf o.sending row

def MissingKey (o : Outgoing) (rows : List KeyRow) (addr : String) : Prop :=
  ∃ row ∈ listedPast o.sending rows, row.id ≠ ContactId.self ∧ row.publicKey = none ∧
    o.emailToRemove = some (addrOf o.sending row) ∧ addr = addrOf o.sending row

section
variable {o : Outgoing} {s s' : Collected} {row : KeyRow} {done rows : List KeyRow}
variable {c : Sending} {message : String} {account : Account}

theorem listed_concat (c : Sending) (done : List KeyRow) (row : KeyRow) :
    listed c (done ++ [row]) =
      if isMemberRow row then pushNew (addrKey c) (listed c done) row else listed c done :=
  firsts_filter_concat (addrKey c) isMemberRow done row

theorem listedPast_concat (c : Sending) (done : List KeyRow) (row : KeyRow) :
    listedPast c (done ++ [row]) =
      if isRecentPast c row then pushNew (addrKey c) (listedPast c done) row
      else listedPast c done :=
  firsts_filter_concat (addrKey c) (isRecentPast c) done row

theorem recipientsContainAddr_map (c : Sending) (seen : List KeyRow) (row : KeyRow) :
    recipientsContainAddr c (seen.map fun r => entry c r.toContactRow) (addrOf c row) = true ↔
      ∃ y ∈ seen, addrKey c y = addrKey c row := by
  rw [recipientsContainAddr, List.any_map, List.any_eq_true]
  simp only [Function.comp_apply, beq_iff_eq]
  rfl

theorem takeKey_vectors (o : Outgoing) (s : Collected) (row : KeyRow) :
    (takeKey o s row).vectors = s.vectors := by
  unfold takeKey
  split
  · rfl
  · split <;> rfl

/-! ## what the loop has collected -/

theorem isRecentPast_of_member (h : isMemberRow row = true) : isRecentPast c row = false := by
  rw [isRecentPast, h]
  rfl

theorem isMemberRow_of_past (h : isRecentPast c row = true) : isMemberRow row = false := by
  cases hrow : isMemberRow row with
  | false => rfl
  | true =>
    rw [isRecentPast_of_member hrow] at h
    cases h

@[simp] theorem takeKey_recipients (o : Outgoing) (s : Collected) (row : KeyRow) :
    (takeKey o s row).recipients = s.recipients := by
  unfold takeKey
  split
  · rfl
  · split <;> rfl

theorem mem_takeKey_missing (hsym : o.shouldEncryptSymmetrically = false) (addr : String) :
    addr ∈ (takeKey o s row).missingKeyAddresses ↔ addr ∈ s.missingKeyAddresses ∨
      row.id ≠ ContactId.self ∧ row.publicKey = none ∧ addr = addrOf o.sending row := by
  unfold takeKey
  cases hkey : row.publicKey with
  | some key => simp
  | none =>
    by_cases hid : row.id = ContactId.self
    · simp [hid]
    · simp [hid, hsym, or_comm]

theorem mem_deliverTo_recipients (c : Sending) (s : Collected) (row : KeyRow) (addr : String) :
    addr ∈ (deliverTo c s row).recipients ↔
      addr ∈ s.recipients ∨ row.id ≠ ContactId.self ∧ addr ∈ relaysOf c row := by
  unfold deliverTo
  by_cases hid : row.id = ContactId.self
  · simp [hid]
  · simp [hid]

@[simp] theorem deliverTo_missing (c : Sending) (s : Collected) (row : KeyRow) :
    (deliverTo c s row).missingKeyAddresses = s.missingKeyAddresses := by
  unfold deliverTo
  split <;> rfl

theorem pushFingerprint_cases {r : ContactRow} {fps fps' : List String}
    (h : pushFingerprint c r fps message = .ok fps') :
    fps' = fps ∨ c.isEncrypted = true ∧ fps' = fps ++ [fingerprintOf c r] := by
  unfold pushFingerprint at h
  split at h
  · next henc =>
    split at h
    · next hne =>
      rw [fingerprintOf, if_pos hne]
      exact .inr ⟨henc, (Except.ok.inj h).symm⟩
    · next hne =>
      rw [fingerprintOf, if_neg hne]
      split at h
      · exact .inr ⟨henc, (Except.ok.inj h).symm⟩
      · split at h
        · exact .inl (Except.ok.inj h).symm
        · cases h
  · exact .inl (Except.ok.inj h).symm

def Keyed (row : KeyRow) : Prop :=
  isMemberRow row = true → row.id ≠ ContactId.self → row.fingerprint ≠ "" ∧ row.publicKey ≠ none

structure VectorsInv (c : Sending) (done : List KeyRow) (v : Vectors) : Prop where
  toAddrs : v.toAddrs = (listed c done).map fun r => entry c r.toContactRow
  timestamps : v.memberTimestamps = (listed c done).map fun r => r.addTimestamp
  fingerprints : v.memberFingerprints = if c.isEncrypted then
    ((listed c done).map KeyRow.toContactRow).map (fingerprintOf c) else []
  pastMembers : v.pastMembers = (listedPast c done).map fun r => entry c r.toContactRow
  pastFingerprints : ∀ fp ∈ v.pastMemberFingerprints, c.isEncrypted = true ∧
    ∃ r ∈ done, isMemberRow r = false ∧ fingerprintOf c r.toContactRow = fp

structure CollectInv (o : Outgoing) (done : List KeyRow) (s : Collected) : Prop where
  vectors : VectorsInv o.sending done s.vectors
  recipients : ∀ addr, addr ∈ s.recipients ↔ Sent o done addr
  missing : ∀ addr, addr ∈ s.missingKeyAddresses ↔ MissingKey o done addr

theorem VectorsInv.past_mono {v : Vectors} (inv : VectorsInv c done v) (row : KeyRow) :
    ∀ fp ∈ v.pastMemberFingerprints, c.isEncrypted = true ∧
      ∃ r ∈ done ++ [row], isMemberRow r = false ∧ fingerprintOf c r.toContactRow = fp := by
  intro fp hfp
  obtain ⟨henc, r, hr, h⟩ := inv.pastFingerprints fp hfp
  exact ⟨henc, r, List.mem_append_left _ hr, h⟩

theorem CollectInv.skip (inv : CollectInv o done s)
    (hlisted : listed o.sending (done ++ [row]) = listed o.sending done)
    (hpast : listedPast o.sending (done ++ [row]) = listedPast o.sending done) :
    CollectInv o (done ++ [row]) s where
  vectors :=
    { toAddrs := by rw [inv.vectors.toAddrs, hlisted]
      timestamps := by rw [inv.vectors.timestamps, hlisted]
      fingerprints := by rw [inv.vectors.fingerprints, hlisted]
      pastMembers := by rw [inv.vectors.pastMembers, hpast]
      pastFingerprints := inv.vectors.past_mono row }
  recipients addr := by rw [inv.recipients, Sent, Sent, hlisted, hpast]
  missing addr := by rw [inv.missing, MissingKey, MissingKey, hpast]

theorem sent_concat (o : Outgoing) (done : List KeyRow) (row : KeyRow) (addr : String) :
    Sent o (done ++ [row]) addr ↔ Sent o done addr ∨
      (isMemberRow row = true ∧
        (¬ ∃ y ∈ listed o.sending done, addrKey o.sending y = addrKey o.sending row) ∧
        row.id ≠ ContactId.self ∧ addr ∈ relaysOf o.sending row) ∨
      (isRecentPast o.sending row = true ∧
        (¬ ∃ y ∈ listedPast o.sending done, addrKey o.sending y = addrKey o.sending row) ∧
        row.id ≠ ContactId.self ∧ o.emailToRemove = some (addrOf o.sending row) ∧
        addr ∈ relaysOf o.sending row) := by
  unfold Sent listed listedPast
  rw [exists_mem_firsts_filter_concat, exists_mem_firsts_filter_concat]
  exact or_or_or_comm

theorem missingKey_concat (o : Outgoing) (done : List KeyRow) (row : KeyRow) (addr : String) :
    MissingKey o (done ++ [row]) addr ↔ MissingKey o done addr ∨
      (isRecentPast o.sending row = true ∧
        (¬ ∃ y ∈ listedPast o.sending done, addrKey o.sending y = addrKey o.sending row) ∧
        row.id ≠ ContactId.self ∧ row.publicKey = none ∧
        o.emailToRemove = some (addrOf o.sending row) ∧ addr = addrOf o.sending row) := by
  unfold MissingKey listedPast
  exact exists_mem_firsts_filter_concat (addrKey o.sending) _ (isRecentPast o.sending) done row

theorem CollectInv.takeKey (inv : CollectInv o done s)
    (hsym : o.shouldEncryptSymmetrically = false)
    (hkey : row.id ≠ ContactId.self → row.publicKey ≠ none) :
    CollectInv o done (takeKey o s row) where
  vectors := by
    rw [takeKey_vectors]
    exact inv.vectors
  recipients addr := by rw [takeKey_recipients, inv.recipients]
  missing addr := by
    rw [mem_takeKey_missing hsym, inv.missing]
    exact or_iff_left fun h => hkey h.1 h.2.1

theorem collectInv_member (hkeyed : Keyed row) (hsym : o.shouldEncryptSymmetrically = false)
    (inv : CollectInv o done s) (hrow : isMemberRow row = true)
    (hunseen : ¬ ∃ y ∈ listed o.sending done, addrKey o.sending y = addrKey o.sending row)
    {fingerprints : List String}
    (hpush : pushFingerprint o.sending row.toContactRow s.vectors.memberFingerprints message =
      .ok fingerprints) :
    CollectInv o (done ++ [row]) { deliverTo o.sending (takeKey o s row) row with
      vectors := { s.vectors with
        toAddrs := s.vectors.toAddrs ++ [entry o.sending row.toContactRow]
        memberFingerprints := fingerprints
        memberTimestamps := s.vectors.memberTimestamps ++ [row.addTimestamp] } } := by
  have hpast : isRecentPast o.sending row = false := isRecentPast_of_member hrow
  have hlisted : listed o.sending (done ++ [row]) = listed o.sending done ++ [row] := by
    rw [listed_concat, if_pos hrow, pushNew, if_neg hunseen]
  have hlistedPast : listedPast o.sending (done ++ [row]) = listedPast o.sending done := by
    rw [listedPast_concat, hpast, if_neg Bool.false_ne_true]
  have hfps := pushFingerprint_eq (fun _ hid => (hkeyed hrow hid).1) message inv.vectors.fingerprints
  have hkey : CollectInv o done (takeKey o s row) :=
    inv.takeKey hsym fun hid => (hkeyed hrow hid).2
  refine ⟨⟨?_, ?_, ?_, ?_, inv.vectors.past_mono row⟩, fun addr => ?_, fun addr => ?_⟩
  · show s.vectors.toAddrs ++ [_] = _
    rw [hlisted, inv.vectors.toAddrs, List.map_append, List.map_singleton]
  · show s.vectors.memberTimestamps ++ [_] = _
    rw [hlisted, inv.vectors.timestamps, List.map_append, List.map_singleton]
  · show fingerprints = _
    rw [hlisted, List.map_append, List.map_singleton]
    exact Except.ok.inj (hpush.symm.trans hfps)
  · show s.vectors.pastMembers = _
    rw [hlistedPast, inv.vectors.pastMembers]
  · show addr ∈ (deliverTo o.sending (takeKey o s row) row).recipients ↔ _
    rw [mem_deliverTo_recipients, hkey.recipients, sent_concat]
    simp only [hrow, hunseen, hpast, not_false_eq_true, true_and, Bool.false_eq_true, false_and,
      or_false]
  · show addr ∈ (deliverTo o.sending (takeKey o s row) row).missingKeyAddresses ↔ _
    rw [deliverTo_missing, hkey.missing, missingKey_concat]
    simp only [hpast, Bool.false_eq_true, false_and, or_false]

theorem collectInv_past (hsym : o.shouldEncryptSymmetrically = false) (inv : CollectInv o done s)
    (hrow : isRecentPast o.sending row = true)
    (hunseen : ¬ ∃ y ∈ listedPast o.sending done, addrKey o.sending y = addrKey o.sending row)
    {fingerprints : List String}
    (hpush : pushFingerprint o.sending row.toContactRow s.vectors.pastMemberFingerprints message =
      .ok fingerprints) :
    CollectInv o (done ++ [row]) { (if o.emailToRemove = some (addrOf o.sending row) then
        deliverTo o.sending (takeKey o s row) row else s) with
      vectors := { s.vectors with
        pastMembers := s.vectors.pastMembers ++ [entry o.sending row.toContactRow]
        pastMemberTimestamps := s.vectors.pastMemberTimestamps ++ [row.removeTimestamp]
        pastMemberFingerprints := fingerprints } } := by
  have hmember := isMemberRow_of_past hrow
  have hlisted : listed o.sending (done ++ [row]) = listed o.sending done := by
    rw [listed_concat, hmember, if_neg Bool.false_ne_true]
  have hlistedPast :
      listedPast o.sending (done ++ [row]) = listedPast o.sending done ++ [row] := by
    rw [listedPast_concat, if_pos hrow, pushNew, if_neg hunseen]
  have hskip := inv.vectors
  refine ⟨⟨hlisted ▸ hskip.toAddrs, hlisted ▸ hskip.timestamps, hlisted ▸ hskip.fingerprints, ?_,
    fun fp hfp => ?_⟩, fun addr => ?_, fun addr => ?_⟩
  · show s.vectors.pastMembers ++ [_] = _
    rw [hlistedPast, hskip.pastMembers, List.map_append, List.map_singleton]
  · rcases pushFingerprint_cases hpush with rfl | ⟨henc, rfl⟩
    · exact hskip.past_mono row fp hfp
    · rcases List.mem_append.mp hfp with hold | hnew
      · exact hskip.past_mono row fp hold
      · exact ⟨henc, row, List.mem_append_right _ List.mem_cons_self, hmember,
          (List.mem_singleton.mp hnew).symm⟩
  · show addr ∈ (ite _ _ _ : Collected).recipients ↔ _
    rw [sent_concat]
    simp only [hrow, hunseen, hmember, not_false_eq_true, true_and, Bool.false_eq_true, false_and,
      false_or]
    split
    next hremove =>
      rw [mem_deliverTo_recipients, takeKey_recipients, inv.recipients]
      simp only [hremove, true_and]
    next hremove =>
      rw [inv.recipients]
      simp only [hremove, false_and, and_false, or_false]
  · show addr ∈ (ite _ _ _ : Collected).missingKeyAddresses ↔ _
    rw [missingKey_concat]
    simp only [hrow, hunseen, not_false_eq_true, true_and]
    split
    next hremove =>
      rw [deliverTo_missing, mem_takeKey_missing hsym, inv.missing]
      simp only [hremove, true_and]
    next hremove =>
      rw [inv.missing]
      simp only [hremove, false_and, and_false, or_false]

/-- one round of the loop; a row is that of a member, of a recent past member, or of neither -/
theorem collectInv_row (hdisclosed : o.sending.undisclosedRecipients = false)
    (hsym : o.shouldEncryptSymmetrically = false) (hkeyed : Keyed row) (inv : CollectInv o done s)
    (h : collectRow o s row = .ok s') : CollectInv o (done ++ [row]) s' := by
  have hseen := recipientsContainAddr_map o.sending (listed o.sending done) row
  have hseenPast := recipientsContainAddr_map o.sending (listedPast o.sending done) row
  rw [← inv.vectors.toAddrs] at hseen
  rw [← inv.vectors.pastMembers] at hseenPast
  unfold collectRow memberRow at h
  have haddr : (entry o.sending row.toContactRow).2 = addrOf o.sending row := rfl
  rw [haddr, hdisclosed] at h
  simp only [Bool.not_false, Bool.and_true] at h
  by_cases hadd : row.addTimestamp ≥ row.removeTimestamp
  · have hrow : isMemberRow row = true := decide_eq_true hadd
    rw [if_pos hadd, if_pos hadd] at h
    cases hknown : recipientsContainAddr o.sending s.vectors.toAddrs (addrOf o.sending row) with
    | true =>
      simp only [hknown, Bool.not_true, Bool.false_eq_true, if_false] at h
      rw [← takeKey_vectors o s row] at h
      obtain rfl := Except.ok.inj h
      refine (inv.skip ?_ ?_).takeKey hsym fun hid => (hkeyed hrow hid).2
      · rw [listed_concat, if_pos hrow, pushNew, if_pos (hseen.mp hknown)]
      · rw [listedPast_concat, isRecentPast_of_member hrow, if_neg Bool.false_ne_true]
    | false =>
      simp only [hknown, Bool.not_false, if_true] at h
      obtain ⟨_, hmap, rfl⟩ := ok_of_map_ok h
      obtain ⟨fingerprints, hpush, rfl⟩ := ok_of_map_ok hmap
      exact collectInv_member hkeyed hsym inv hrow
        (fun hex => Bool.false_ne_true (hknown.symm.trans (hseen.mpr hex))) hpush
  · have hrow : isMemberRow row = false := decide_eq_false hadd
    have hlisted : listed o.sending (done ++ [row]) = listed o.sending done := by
      rw [listed_concat, hrow, if_neg Bool.false_ne_true]
    rw [if_neg hadd, if_neg hadd] at h
    by_cases hrecent : I64.saturatingAdd row.removeTimestamp days60 > o.sending.now
    · have hpast : isRecentPast o.sending row = true := by
        rw [isRecentPast, hrow]
        exact decide_eq_true hrecent
      rw [if_pos hrecent, if_pos hrecent] at h
      cases hknown : recipientsContainAddr o.sending s.vectors.pastMembers
          (addrOf o.sending row) with
      | true =>
        simp only [hknown, Bool.not_true, Bool.false_eq_true, false_and, if_false] at h
        obtain rfl := Except.ok.inj h
        refine inv.skip hlisted ?_
        rw [listedPast_concat, if_pos hpast, pushNew, if_pos (hseenPast.mp hknown)]
      | false =>
        simp only [hknown, Bool.not_false, true_and, if_true] at h
        obtain ⟨_, hmap, rfl⟩ := ok_of_map_ok h
        obtain ⟨fingerprints, hpush, rfl⟩ := ok_of_map_ok hmap
        exact collectInv_past hsym inv hpast
          (fun hex => Bool.false_ne_true (hknown.symm.trans (hseenPast.mpr hex))) hpush
    · rw [if_neg hrecent, if_neg hrecent] at h
      obtain rfl := Except.ok.inj h
      refine inv.skip hlisted ?_
      rw [listedPast_concat, isRecentPast, decide_eq_false hrecent, Bool.and_false,
        if_neg Bool.false_ne_true]

theorem collectInv_nil (o : Outgoing) : CollectInv o [] {} where
  vectors := ⟨rfl, rfl, by cases o.sending.isEncrypted <;> rfl, rfl, fun _ hfp => by cases hfp⟩
  recipients addr := by simp [Sent, listed, listedPast, firsts]
  missing addr := by simp [MissingKey, listedPast, firsts]

theorem collect_inv (hdisclosed : o.sending.undisclosedRecipients = false)
    (hsym : o.shouldEncryptSymmetrically = false) :
    ∀ {rows done : List KeyRow} {s : Collected}, (∀ row ∈ rows, Keyed row) →
      CollectInv o done s → collectRows o rows s = .ok s' → CollectInv o (done ++ rows) s'
  | [], done, s, _, inv, h => by
    rw [List.append_nil, ← Except.ok.inj h]
    exact inv
  | row :: rows, done, s, hkeyed, inv, h => by
    cases hrow : collectRow o s row with
    | error err =>
      rw [collectRows, hrow] at h
      cases h
    | ok s₁ =>
      rw [collectRows, hrow] at h
      have inv₁ := collectInv_row hdisclosed hsym (hkeyed row List.mem_cons_self) inv hrow
      have := collect_inv hdisclosed hsym
        (fun r hr => hkeyed r (List.mem_cons_of_mem _ hr)) inv₁ h
      rwa [List.append_assoc, List.singleton_append] at this

/-! ## who is named -/

/-- the members that are listed, without the one of the own address unless it is the only one -/
def namedRows (c : Sending) (rows : List KeyRow) : List KeyRow :=
  if (listed c rows).length > 1 then
    (listed c rows).eraseP fun row => addrOf c row == c.fromAddr
  else listed c rows

theorem withoutSelf_listed (c : Sending) (rows : List KeyRow) :
    withoutSelf c ((listed c rows).map KeyRow.toContactRow) =
      (namedRows c rows).map KeyRow.toContactRow := by
  unfold withoutSelf namedRows
  rw [List.length_map]
  split
  · rw [List.eraseP_map]
    rfl
  · rfl

theorem mem_namedRows_iff (c : Sending) (rows : List KeyRow) (row : KeyRow) :
    row ∈ namedRows c rows ↔ First (addrKey c) (rows.filter isMemberRow) row ∧
      (addrOf c row = c.fromAddr →
        ∀ r ∈ rows.filter isMemberRow, addrKey c r = addrKey c row) := by
  rw [← mem_firsts_iff]
  by_cases hfirst : row ∈ listed c rows
  case neg =>
    refine iff_of_false (fun h => hfirst ?_) fun h => hfirst h.1
    unfold namedRows at h
    split at h
    · exact List.mem_of_mem_eraseP h
    · exact h
  case pos =>
    have hone := length_firsts_le_one_iff (addrKey c) hfirst
    have herase := mem_eraseP_iff (addrKey c) (pairwise_firsts _ _)
      (p := fun r => addrOf c r == c.fromAddr)
      (fun x y hx hy => congrArg c.toLowercase ((eq_of_beq hx).trans (eq_of_beq hy).symm)) hfirst
    refine Iff.trans ?_ (and_iff_right hfirst).symm
    unfold namedRows
    by_cases hlen : (listed c rows).length > 1
    · rw [if_pos hlen, listed, herase, beq_eq_false_iff_ne]
      have hmany := mt hone.mpr (not_le.mpr hlen)
      exact ⟨fun h heq => absurd heq h, fun h heq => hmany (h heq)⟩
    · rw [if_neg hlen]
      exact iff_of_true hfirst fun _ => hone.mp (not_lt.mp hlen)

theorem finishMembers_named (inv : CollectInv o rows s) {v : MemberVectors}
    (h : finishMembers o.sending s.vectors = .ok v) :
    v.memberTimestamps = (namedRows o.sending rows).map (fun r => r.addTimestamp) ++
        s.vectors.pastMemberTimestamps ∧
      v.memberFingerprints = if o.sending.isEncrypted then
        (namedRows o.sending rows).map (fun r => fingerprintOf o.sending r.toContactRow) ++
          s.vectors.pastMemberFingerprints else [] := by
  have hto : s.vectors.toAddrs =
      ((listed o.sending rows).map KeyRow.toContactRow).map (entry o.sending) := by
    rw [inv.vectors.toAddrs, List.map_map]
    rfl
  have hts : s.vectors.memberTimestamps =
      ((listed o.sending rows).map KeyRow.toContactRow).map ContactRow.addTimestamp := by
    rw [inv.vectors.timestamps, List.map_map]
    rfl
  have hfinish := finishMembers_eq hto hts inv.vectors.fingerprints
  rw [withoutSelf_listed, List.map_map, List.map_map, List.map_map] at hfinish
  rw [← Except.ok.inj (hfinish.symm.trans h)]
  exact ⟨rfl, rfl⟩

/-- the group: members are key-contacts whose keys are stored; a fingerprint is that of one contact,
and the one of the own key belongs to `SELF` -/
structure KeyGroup (account : Account) where
  rows : List KeyRow
  keyed : ∀ row ∈ rows, Keyed row
  distinct : rows.Pairwise fun a b => a.fingerprint = b.fingerprint → a.fingerprint = ""
  notSelf : ∀ row ∈ rows, row.id ≠ ContactId.self → row.fingerprint ≠ account.selfFingerprint

/-- the fingerprint of the row is in the list, with the time of its addition at the same place -/
def Named (v : MemberVectors) (row : KeyRow) : Prop :=
  ∃ i : ℕ, v.memberFingerprints[i]? = some row.fingerprint ∧
    v.memberTimestamps[i]? = some row.addTimestamp

/-- where a contact expects its messages: at the addresses its key lists -/
def dueAddresses (row : KeyRow) : List String :=
  match row.publicKey.bind PublicKey.relays with
  | some value => if listedRelays value = [] then [row.addr] else listedRelays value
  | none => [row.addr]

theorem KeyGroup.eq_of_fingerprint (group : KeyGroup account)
    (hself : c.selfFingerprint = account.selfFingerprint) {row r : KeyRow}
    (hrow : row ∈ group.rows) (hmember : isMemberRow row = true) (hid : row.id ≠ ContactId.self)
    (hr : r ∈ group.rows) (h : fingerprintOf c r.toContactRow = row.fingerprint) : r = row := by
  have hne := (group.keyed row hrow hmember hid).1
  unfold fingerprintOf at h
  by_cases hr' : r.fingerprint ≠ ""
  · rw [if_pos hr'] at h
    by_contra hdiff
    have : Std.Symm fun a b : KeyRow => a.fingerprint = b.fingerprint → a.fingerprint = "" :=
      ⟨fun a b hab heq => heq.trans (hab heq.symm)⟩
    exact hr' (group.distinct.forall hr hrow hdiff h)
  · rw [if_neg hr', hself] at h
    exact absurd h.symm (group.notSelf row hrow hid)

theorem named_iff (group : KeyGroup account)
    (hself : o.sending.selfFingerprint = account.selfFingerprint)
    (inv : CollectInv o group.rows s) {v : MemberVectors}
    (h : finishMembers o.sending s.vectors = .ok v) (hrow : row ∈ group.rows)
    (hmember : isMemberRow row = true) (hid : row.id ≠ ContactId.self) :
    Named v row ↔ o.sending.isEncrypted = true ∧ row ∈ namedRows o.sending group.rows := by
  obtain ⟨hts, hfps⟩ := finishMembers_named inv h
  have heq {r : KeyRow} := group.eq_of_fingerprint (r := r) hself hrow hmember hid
  have hsub : ∀ r ∈ namedRows o.sending group.rows, r ∈ group.rows := fun r hr => by
    obtain ⟨front, back, hsplit, -⟩ := ((mem_namedRows_iff _ _ r).mp hr).1
    have hmem : r ∈ group.rows.filter isMemberRow := by
      rw [hsplit]
      exact List.mem_append_right front List.mem_cons_self
    exact List.mem_of_mem_filter hmem
  by_cases henc : o.sending.isEncrypted = true
  case neg =>
    refine iff_of_false ?_ fun hn => henc hn.1
    rintro ⟨i, hi, -⟩
    rw [hfps, if_neg henc] at hi
    cases hi
  case pos =>
    rw [if_pos henc] at hfps
    refine Iff.trans ?_ (and_iff_right henc).symm
    constructor
    · rintro ⟨i, hi, -⟩
      have hfp := List.mem_of_getElem? hi
      rw [hfps] at hfp
      rcases List.mem_append.mp hfp with hin | hpast
      · obtain ⟨r, hr, hof⟩ := List.mem_map.mp hin
        rwa [← heq (hsub r hr) hof]
      · -- a row of the past with this fingerprint would be the row itself
        obtain ⟨-, r, hr, hnot, hof⟩ := inv.vectors.pastFingerprints _ hpast
        rw [heq hr hof, hmember] at hnot
        cases hnot
    · intro hin
      obtain ⟨i, hi⟩ := List.mem_iff_getElem?.mp hin
      have hfp : fingerprintOf o.sending row.toContactRow = row.fingerprint :=
        if_pos (group.keyed row hrow hmember hid).1
      refine ⟨i, ?_, ?_⟩
      · rw [hfps, List.getElem?_append_left (by
          rw [List.length_map]; exact (List.getElem?_eq_some_iff.mp hi).1), List.getElem?_map, hi,
          Option.map_some, hfp]
      · rw [hts, List.getElem?_append_left (by
          rw [List.length_map]; exact (List.getElem?_eq_some_iff.mp hi).1), List.getElem?_map, hi]
        rfl

/-! ## who is reached -/

theorem mem_encryptTo {recipients : List String} {pubkeys : Option (List (String × PublicKey))}
    (hsym : o.shouldEncryptSymmetrically = false) (inv : CollectInv o rows s)
    (h : encryptTo o s = .ok (recipients, pubkeys)) (addr : String) :
    addr ∈ recipients ↔
      Sent o rows addr ∧ (o.sending.isEncrypted = true → ¬ MissingKey o rows addr) := by
  unfold encryptTo at h
  rw [hsym] at h
  rw [← inv.recipients, ← inv.missing]
  by_cases henc : o.sending.isEncrypted = true
  · rw [henc] at h
    simp only [Bool.not_true, Bool.false_eq_true, if_false] at h
    split at h
    · cases h
    · obtain ⟨rfl, -⟩ := Prod.mk.inj (Except.ok.inj h)
      rw [List.mem_filter, decide_eq_true_iff]
      simp only [henc, true_implies]
  · rw [Bool.not_eq_true] at henc
    rw [henc] at h
    obtain ⟨rfl, -⟩ := Prod.mk.inj (Except.ok.inj h)
    simp [henc]

theorem fromMsgFactory_group {chat : OutgoingChat} {msg : OutgoingMsg}
    {onlyOne : String → Except Failure (String × String × PublicKey)} {factory : Factory}
    (htyp : chat.typ = .group) (htalk : chat.isSelfTalk = false)
    (h : fromMsgFactory account chat msg rows onlyOne = .ok factory) :
    ∃ s, collectRows (outgoing account chat msg) rows {} = .ok s ∧
      finishMembers (outgoing account chat msg).sending s.vectors = .ok factory.vectors ∧
      encryptTo (outgoing account chat msg) s =
        .ok (factory.recipients, factory.encryptionPubkeys) := by
  have hone : mustHaveOnlyOneRecipient chat msg = none := by
    rw [mustHaveOnlyOneRecipient, htyp]
    rfl
  unfold fromMsgFactory at h
  simp only [htalk, htyp, hone, Bool.false_eq_true, if_false, reduceCtorEq, fromMembers] at h
  obtain ⟨f, hf, h⟩ := ok_of_bind_ok h
  obtain ⟨-, -, h⟩ := ok_of_bind_ok h
  obtain ⟨s, hs, hf⟩ := ok_of_bind_ok hf
  obtain ⟨vectors, hvectors, hf⟩ := ok_of_bind_ok hf
  obtain ⟨recipients, hrecipients, hf⟩ := ok_of_bind_ok hf
  cases h
  cases hf
  exact ⟨s, hs, hvectors, hrecipients⟩

theorem isEncrypted_group (account : Account) {chat : OutgoingChat} (msg : OutgoingMsg)
    (htyp : chat.typ = .group) (hgrpid : chat.grpid ≠ "") :
    (outgoing account chat msg).sending.isEncrypted = true ↔ msg.forcePlaintext = false := by
  have hchat : chat.isEncrypted = true := by
    rw [OutgoingChat.isEncrypted, htyp, Bool.or_eq_true]
    exact .inr (decide_eq_true hgrpid)
  show (if msg.forcePlaintext then false else msg.guaranteeE2ee || chat.isEncrypted) = true ↔ _
  rw [hchat, Bool.or_true]
  cases msg.forcePlaintext
  · exact iff_of_true rfl rfl
  · exact iff_of_false Bool.false_ne_true Bool.noConfusion

/-- **who is listed and reached**: in an encrypted group a member is named with the time of its
addition, and gets the message at every address it is due at, iff the message is not forced to be
plain, no earlier member row has its address, its address is not the own one (unless nobody has
another one), and each of the addresses is one that is sent to and not that of a contact without a
key -/
theorem member_reached_iff {account : Account} (group : KeyGroup account) {chat : OutgoingChat}
    (htyp : chat.typ = .group) (htalk : chat.isSelfTalk = false) (hgrpid : chat.grpid ≠ "")
    (msg : OutgoingMsg) (onlyOne : String → Except Failure (String × String × PublicKey))
    {factory : Factory}
    (hok : fromMsgFactory account chat msg group.rows onlyOne = .ok factory)
    {row : KeyRow} (hrow : row ∈ group.rows) (hmember : isMemberRow row = true)
    (hid : row.id ≠ ContactId.self) :
    (Named factory.vectors row ∧ ∀ addr ∈ dueAddresses row, addr ∈ factory.recipients) ↔
      msg.forcePlaintext = false ∧
      First (fun r => account.toLowercase (addrOf (outgoing account chat msg).sending r))
        (group.rows.filter isMemberRow) row ∧
      (row.addr = account.fromAddr → ∀ r ∈ group.rows.filter isMemberRow,
        account.toLowercase (addrOf (outgoing account chat msg).sending r) =
          account.toLowercase row.addr) ∧
      ∀ addr ∈ dueAddresses row, Sent (outgoing account chat msg) group.rows addr ∧
        ¬ MissingKey (outgoing account chat msg) group.rows addr := by
  obtain ⟨s, hs, hvectors, hrecipients⟩ := fromMsgFactory_group htyp htalk hok
  have hsym : shouldEncryptWithBroadcastSecret chat msg = false := by
    rw [shouldEncryptWithBroadcastSecret, htyp]
    rfl
  have inv : CollectInv (outgoing account chat msg) group.rows s :=
    collect_inv hsym hsym group.keyed (collectInv_nil _) hs
  have haddr : addrOf (outgoing account chat msg).sending row = row.addr := if_neg hid
  have henc := isEncrypted_group account msg htyp hgrpid
  rw [named_iff group rfl inv hvectors hrow hmember hid, mem_namedRows_iff, haddr, henc]
  unfold addrKey
  rw [haddr]
  simp only [mem_encryptTo hsym inv hrecipients, henc]
  constructor
  · rintro ⟨⟨hplain, hfirst, hown⟩, hdue⟩
    exact ⟨hplain, hfirst, hown, fun addr ha => ⟨(hdue addr ha).1, (hdue addr ha).2 hplain⟩⟩
  · rintro ⟨hplain, hfirst, hown, hdue⟩
    exact ⟨⟨hplain, hfirst, hown⟩, fun addr ha => ⟨(hdue addr ha).1, fun _ => (hdue addr ha).2⟩⟩

end

/-! ## two members with one address -/

namespace SharedAddress

def account : Account where
  toLowercase := id
  fromAddr := "self@example.org"
  displayname := ""
  selfFingerprint := "SELF"
  now := I64.zero

def chat : OutgoingChat := ⟨.group, "grpid", false, false, none⟩

def msg : OutgoingMsg := ⟨.unknown, none, none, none, false, false⟩

def member (fingerprint relay : String) (id : ContactId) : KeyRow where
  authname := ""
  addr := "team@example.org"
  fingerprint := fingerprint
  id := id
  addTimestamp := I64.zero
  removeTimestamp := I64.zero
  publicKey := some ⟨fingerprint, some relay⟩

def first : KeyRow := member "A" "a@one.org" 10

def second : KeyRow := member "B" "b@two.org" 11

def self : KeyRow := ⟨⟨"", "", "", ContactId.self, I64.zero, I64.zero⟩, none⟩

def group : KeyGroup account where
  rows := [first, second, self]
  keyed := by
    intro row hrow _ hid
    simp only [List.mem_cons, List.not_mem_nil, or_false] at hrow
    rcases hrow with rfl | rfl | rfl
    · decide
    · decide
    · exact absurd rfl hid
  distinct := by decide
  notSelf := by decide

def factory : Factory where
  vectors := ⟨[("", "team@example.org")], [], [I64.zero], ["A"]⟩
  recipients := ["a@one.org"]
  encryptionPubkeys := some [("team@example.org", ⟨"A", some "a@one.org"⟩),
    ("team@example.org", ⟨"B", some "b@two.org"⟩)]

theorem fromMsgFactory_eq (onlyOne : String → Except Failure (String × String × PublicKey)) :
    fromMsgFactory account chat msg group.rows onlyOne = .ok factory := rfl

end SharedAddress

open SharedAddress in
theorem member_reached_iff_first :
    Named factory.vectors first ∧ ∀ addr ∈ dueAddresses first, addr ∈ factory.recipients := by
  refine (member_reached_iff group rfl rfl (by decide) msg (fun _ => .error .outOfRange)
    (fromMsgFactory_eq _) List.mem_cons_self rfl (by decide)).mpr ⟨rfl, ?_, ?_, ?_⟩
  · exact ⟨[], [second, self], rfl, fun y hy => absurd hy List.not_mem_nil⟩
  · intro h
    exact absurd h (by decide)
  · intro addr haddr
    have hpast : listedPast (outgoing account chat msg).sending group.rows = [] := rfl
    refine ⟨.inl ⟨first, ?_, by decide, haddr⟩, ?_⟩
    · exact List.mem_cons_self
    · rw [MissingKey, hpast]
      rintro ⟨row, hrow, -⟩
      cases hrow

open SharedAddress in
theorem second_member_dropped :
    fromMsgFactory account chat msg group.rows (fun _ => .error .outOfRange) = .ok factory ∧
      second ∈ group.rows ∧ isMemberRow second = true ∧ second.id ≠ ContactId.self ∧
      ¬ Named factory.vectors second ∧
      dueAddresses second = ["b@two.org"] ∧ "b@two.org" ∉ factory.recipients := by
  refine ⟨fromMsgFactory_eq _, List.mem_cons_of_mem _ List.mem_cons_self, rfl, by decide, ?_, rfl,
    by decide⟩
  rintro ⟨i, hi, -⟩
  exact absurd (List.mem_of_getElem? hi) (by decide)

end EpsilonChat.MemberList
