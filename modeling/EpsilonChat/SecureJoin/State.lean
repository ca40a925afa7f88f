import EpsilonChat.Contact.Verify
import EpsilonChat.Group.Members
import EpsilonChat.Group.Settings
import EpsilonChat.Lib.Eff
import EpsilonChat.Lib.IdTable

/-!
# What Secure-Join reads and writes

* `State`: the tables `contacts`, `chats`, `chats_contacts` and `bobstate`;
* `Account`: what belongs to the own account and does not change;
* `Ctx`: what a step finds besides: the clock, the tokens of the own invites, the keys that are
  known, and which of the calls that can fail do so (`Call`).

The programs below are the parts of chat.rs and contact.rs that Secure-Join calls.  A program that
fails keeps what it wrote.
-/

namespace EpsilonChat.SecureJoin
open Lib Verify Members Settings

/-! ## fingerprints, invites, tokens -/

abbrev Fingerprint := String

def isAsciiHexdigit (c : Char) : Bool :=
  ('0' ≤ c && c ≤ '9') || ('A' ≤ c && c ≤ 'F') || ('a' ≤ c && c ≤ 'f')

/-- `Fingerprint::from_str`: 20 or 32 bytes -/
def Fingerprint.parse (toUppercase : String → String) (input : String) : Option Fingerprint :=
  let hexRepr := (toUppercase input).toList.filter isAsciiHexdigit
  if hexRepr.length = 40 ∨ hexRepr.length = 64 then some (String.ofList hexRepr) else none

inductive InviteTarget where
  | contact
  | group (name grpid : String)
  | broadcast (name grpid : String)
  deriving DecidableEq, Repr

structure QrInvite where
  contactId : ContactId
  fingerprint : Fingerprint
  addrs : List String := []
  invitenumber : String := ""
  authcode : String := ""
  isV3 : Bool := false
  target : InviteTarget := .contact
  deriving DecidableEq, Repr

inductive Namespace where
  | unknown | auth | inviteNumber
  deriving DecidableEq, Repr

structure Token where
  namespc : Namespace
  foreignKey : String := ""
  token : String
  timestamp : I64
  deriving DecidableEq, Repr

/-- `SELECT … FROM tokens WHERE namespc=? AND token=?` -/
def findToken (tokens : List Token) (namespc : Namespace) (token : String) : Option Token :=
  tokens.find? fun row => row.namespc = namespc && row.token == token

/-! ## state -/

structure ChatRow where
  typ : Chattype
  grpid : String := ""
  param : Params := Params.new

structure State where
  contacts : Contacts
  chats : IdTable ChatRow
  members : ChatsContacts
  bobstate : IdTable QrInvite

structure Account where
  selfFingerprint : Fingerprint
  isSelfAddr : String → Bool := fun _ => false
  toLowercase : String → String := id
  toUppercase : String → String := id

/-- the calls that can fail for reasons outside of the modelled tables -/
inductive Call where
  | loadSelfPublicKey
  /-- `ContactAddress::new` -/
  | contactAddress
  /-- a known key that does not parse -/
  | publicKey
  | render
  | sendMsg (chatId : ChatId)
  | addInfoMsg (chatId : ChatId)
  /-- "Failed to find broadcast shared secret" -/
  | loadBroadcastSecret
  deriving DecidableEq, Repr

structure Ctx where
  now : I64
  tokens : List Token := []
  /-- the addresses in the keys of `public_keys`, in keys that list their addresses -/
  publicKeys : Fingerprint → Option (Option (List String)) := fun _ => none
  /-- whether `lookup_id_by_addr_ex` finds a blocked contact for the sender's address -/
  isAddrBlocked : Bool := false
  /-- the row that `add_or_lookup_ex` finds or adds for the sender's Autocrypt key -/
  autocryptContactId : ContactId := ContactId.undefined
  fails : Call → Bool := fun _ => false

inductive Error where
  /-- "Can not be called with special contact ID" -/
  | specialContact
  /-- "Not a Secure-Join message" -/
  | notSecureJoin
  | badFingerprint
  | verify (e : VerifyError)
  | noContact (id : ContactId)
  | noChat (id : ChatId)
  /-- "Can not create chat for non-existing contact" -/
  | createChat (id : ContactId)
  /-- the conditions on whom `add_contact_to_chat_ex` adds to what -/
  | addContact (chatId : ChatId) (contactId : ContactId)
  | failed (call : Call)
  deriving DecidableEq, Repr

abbrev Prog (α : Type) := Eff State Error α

def call (ctx : Ctx) (c : Call) : Prog Unit := Eff.ensure (!ctx.fails c) (.failed c)

/-! ## contacts -/

/-- `Contact::fingerprint` -/
def fingerprintOf (acc : Account) (contact : ContactRow) : Option Fingerprint :=
  if contact.fingerprint = "" then none
  else Fingerprint.parse acc.toUppercase contact.fingerprint

/-- `mark_contact_id_as_verified(id, Some(ContactId::SELF))` -/
def markVerified (id : ContactId) : Prog Unit := do
  let s ← Eff.get
  match markContactIdAsVerified s.contacts id (some ContactId.self) with
  | .error e => Eff.fail (.verify e)
  | .ok contacts => Eff.modify fun s => { s with contacts := contacts }

def verifySenderByFingerprint (acc : Account) (fingerprint : Fingerprint) (contactId : ContactId) :
    Prog Bool := do
  let s ← Eff.get
  match s.contacts.row contactId with
  | none => pure false
  | some contact =>
    if fingerprintOf acc contact = some fingerprint then do
      markVerified contactId
      pure true
    else pure false

/-- `Contact::add_or_lookup_ex` for the row `id` that it finds or adds: a row that is there may get
another address, a new one is not verified, the own one stays -/
def Contacts.addOrLookup (t : Contacts) (id : ContactId) (addr fingerprint : String) :
    Contacts where
  row := if id.isSpecial then t.row else
    upsert t.row id { fingerprint := fingerprint, addr := addr } fun r => some { r with addr := addr }
  row_undefined := by
    split
    · exact t.row_undefined
    · next h =>
      have hne : ContactId.undefined ≠ id := by
        rintro rfl
        exact h rfl
      rw [upsert_of_ne _ _ hne, t.row_undefined]

def addOrLookup (id : ContactId) (addr fingerprint : String) : Prog ContactId := do
  Eff.modify fun s => { s with contacts := Contacts.addOrLookup s.contacts id addr fingerprint }
  pure id

/-! ## chats -/

def chatIdLastSpecial : ChatId := 9

def lookupByContact (s : State) (contactId : ContactId) : Option ChatId :=
  (s.chats.ids fun chat => chat.typ = .single).find? fun id =>
    chatIdLastSpecial < id && (s.members (id, contactId)).isSome

def State.newSingle (s : State) (contactId : ContactId) : State :=
  { s with
    chats := s.chats.insert { typ := .single }
    members := upsert s.members (s.chats.seq + 1, contactId) {} fun _ => none }

def getForContact (contactId : ContactId) : Prog ChatId := do
  let s ← Eff.get
  match lookupByContact s contactId with
  | some chatId => pure chatId
  | none =>
    match s.contacts.row contactId with
    | none => Eff.fail (.noContact contactId)
    | some _ => do
      Eff.modify fun s => s.newSingle contactId
      pure (s.chats.seq + 1)

def createForContact (contactId : ContactId) : Prog ChatId := do
  let s ← Eff.get
  match lookupByContact s contactId with
  | some chatId => pure chatId
  | none =>
    if (!contactId.isSpecial && (s.contacts.row contactId).isSome) || contactId = ContactId.self then
      getForContact contactId
    else Eff.fail (.createChat contactId)

def getChatIdByGrpid (s : State) (grpid : String) : Option ChatId :=
  (s.chats.ids fun chat => chat.grpid == grpid).head?

def createMultiuserRecord (chattype : Chattype) (grpid : String) : Prog ChatId := do
  let s ← Eff.get
  Eff.modify fun s => { s with chats := s.chats.insert { typ := chattype, grpid := grpid } }
  pure (s.chats.seq + 1)

/-- `Chat::is_encrypted`, of a group or channel -/
def ChatRow.isEncrypted (chat : ChatRow) : Bool :=
  (chat.param.get .selftalk).isSome ||
    match chat.typ with
    | .group => chat.grpid ≠ ""
    | .outBroadcast => true
    | .inBroadcast => true
    | _ => false

def isSelfInChat (s : State) (chatId : ChatId) (chat : ChatRow) : Bool :=
  match chat.typ with
  | .group | .inBroadcast => isMember s.members chatId ContactId.self
  | _ => true

/-- `remove(Param::Unpromoted)` and the times of the settings, in `add_contact_to_chat_ex` -/
def ChatRow.promote (now : I64) (chat : ChatRow) : ChatRow :=
  if chat.param.getInt .unpromoted = some 1 then
    let param := (chat.param.remove .unpromoted).setI64 .groupNameTimestamp now
    { chat with param := param.setI64 .groupDescriptionTimestamp now }
  else chat

/-- `add_to_chat_contacts_table`, for a contact that is no member -/
def addMember (ctx : Ctx) (chatId : ChatId) (contactId : ContactId) : Prog Unit := do
  let s ← Eff.get
  if isMember s.members chatId contactId then pure ()
  else Eff.modify fun s =>
    { s with members := addToChatContactsTable s.members ctx.now.val chatId [contactId] }

def announceMember (ctx : Ctx) (chatId : ChatId) (chat : ChatRow) : Prog Unit :=
  if (chat.param.getBool .unpromoted).getD false then pure ()
  else if chat.typ = .outBroadcast then do
    call ctx .loadBroadcastSecret
    call ctx (.sendMsg chatId)
  else call ctx (.sendMsg chatId)

/-- `add_contact_to_chat_ex`, called from the handshake -/
def addContactToChatEx (acc : Account) (ctx : Ctx) (chatId : ChatId) (contactId : ContactId) :
    Prog Bool := do
  let s ← Eff.get
  match s.contacts.row contactId, s.chats.row chatId with
  | some contact, some chat =>
    if chatId ≤ chatIdLastSpecial ∨ ¬ (chat.typ = .group ∨ chat.typ = .outBroadcast) ∨
        (contactId.isSpecial ∧ contactId ≠ ContactId.self) ∨
        (chat.typ = .outBroadcast ∧ contactId = ContactId.self) ∨
        chat.isEncrypted ≠ decide (contact.fingerprint ≠ "") then
      Eff.fail (.addContact chatId contactId)
    else if !isSelfInChat s chatId chat then pure false
    else do
      Eff.modify fun s => { s with chats := s.chats.update chatId (ChatRow.promote ctx.now) }
      if acc.isSelfAddr contact.addr then pure false
      else do
        addMember ctx chatId contactId
        announceMember ctx chatId (chat.promote ctx.now)
        pure true
  | none, _ => Eff.fail (.noContact contactId)
  | _, none => Eff.fail (.noChat chatId)

end EpsilonChat.SecureJoin
