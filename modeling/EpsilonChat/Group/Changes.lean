import EpsilonChat.Group.MemberWire

/-!
# Changes of a group by a message

`apply_group_changes` as a whole: the headers that name one added or removed member, then name,
description and avatar, then the member list, and what is told about it.

Whether the sender may change anything is decided once, at the start (`isFromInChat`): anyone may
as long as the user is not in the group, otherwise only members.  Every write asks for it.

* `explicitChanges`: `Chat-Group-Member-Removed` and `Chat-Group-Member-Added`;
* `applyGroupChanges`: the whole function;
* `applySettings_of_outsider`, `applyMemberList_of_outsider`: its parts for a sender who is not in
  the group;
* **`outsider_changes_nothing`**: such a message leaves the chat and its members as they are.
-/

namespace EpsilonChat.GroupChanges
open Members Settings MemberList

/-! ## the state -/

structure Group where
  id : ChatId
  grpid : String
  createdTimestamp : I64
  chat : Chat

structure Db where
  /-- the rows of the chat in `chats` and `chats_descriptions` -/
  chat : ChatDb
  chatsContacts : ChatsContacts

/-- `get_chat_contacts` -/
abbrev ChatContacts (t : ChatsContacts) (chatId : ChatId) :=
  { ids : Finset ContactId // ∀ c, c ∈ ids ↔ isMember t chatId c = true }

inductive MemberMsg where
  | groupLeft (fromId : ContactId)
  | delMember (id fromId : ContactId)
  | addMember (id fromId : ContactId)
  deriving DecidableEq, Repr

structure Env where
  receiver : Receiver
  contacts : Contacts
  /-- `Contact::get_by_id(context, from_id).await?.is_key_contact()` -/
  fromIsKeyContact : Bool
  stockStr : MemberMsg → String

structure GroupChangesInfo where
  betterMsg : Option BetterMsg
  addedRemovedId : Option ContactId
  silent : Bool
  extraMsgs : List (String × SystemMessage × Option ContactId)
  chatModified : Bool

/-! ## an explicit change -/

structure Explicit where
  chatsContacts : ChatsContacts
  removedId : Option ContactId := none
  addedId : Option ContactId := none
  betterMsg : Option BetterMsg := none
  silent : Bool := false

section
variable (env : Env) (g : Group) (m : MimeMessage) (fromId : ContactId)

def lookupKeyContactByFingerprint (fingerprint : String) : Option ContactId :=
  if fingerprint = "" then none
  else
    match env.contacts.rows.find? fun row => row.fingerprint == fingerprint with
    | some row => some row.id
    | none => if env.receiver.selfFingerprint = fingerprint then some ContactId.self else none

def inChat (t : ChatsContacts) : List ContactId :=
  (ContactId.self :: env.contacts.rows.map KeyContact.id).filter fun c => (t (g.id, c)).isSome

def explicitRemoval (t : ChatsContacts) (removedAddr : String) : Explicit :=
  let removedId := match m.getHeader .chatGroupMemberRemovedFpr with
    | some removedFpr => lookupKeyContactByFingerprint env removedFpr
    -- sent by a legacy client
    | none => lookupKeyContactByAddress env.receiver (inChat env g t) removedAddr env.contacts
  match removedId with
  | some id =>
    if id = fromId then
      { chatsContacts := t, removedId := some id, silent := true
        betterMsg := some (.membership (env.stockStr (.groupLeft fromId))) }
    else
      { chatsContacts := t, removedId := some id
        betterMsg := some (.membership (env.stockStr (.delMember id fromId))) }
  | none => { chatsContacts := t }

def explicitAddition (t : ChatsContacts) (chatContacts : Finset ContactId) (addedAddr : String) :
    Explicit :=
  match m.gossipedKeys.lookup addedAddr with
  | some key =>
    let t := if fromId ∈ chatContacts then t
      else addToChatContactsTable t m.timestampSent.val g.id [fromId]
    match lookupKeyContactByFingerprint env key.fingerprint with
    | some contactId =>
      { chatsContacts := t, addedId := some contactId
        betterMsg := some (.membership (env.stockStr (.addMember contactId fromId))) }
    | none => { chatsContacts := t }
  | none => { chatsContacts := t }

def explicitChanges (t : ChatsContacts) (chatContacts : Finset ContactId) (isFromInChat : Bool) :
    Explicit :=
  match m.getHeader .chatGroupMemberRemoved, m.getHeader .chatGroupMemberAdded with
  | some removedAddr, _ =>
    if isFromInChat then explicitRemoval env g m fromId t removedAddr
    else { chatsContacts := t, betterMsg := some .trash }
  | none, some addedAddr =>
    if isFromInChat then explicitAddition env g m fromId t chatContacts addedAddr
    else { chatsContacts := t, betterMsg := some .trash }
  | none, none => { chatsContacts := t }

/-! ## the member list -/

def receiverChat (chat : Chat) (t : ChatsContacts) (chatContacts : Finset ContactId) :
    ReceiverChat where
  id := g.id
  typ := chat.typ
  grpid := g.grpid
  memberListTimestamp := (chat.param.getI64 .memberListTimestamp).getD g.createdTimestamp
  chatContacts := chatContacts
  inChat := inChat env g t

def groupMessage (e : Explicit) : GroupMessage where
  fromId := fromId
  fromIsKeyContact := env.fromIsKeyContact
  wasEncrypted := m.wasEncrypted
  hasChatVersion := (m.getHeader .chatVersion).isSome
  timestampSent := m.timestampSent
  gossipedKeys := fun addr => (m.gossipedKeys.lookup addr).map GossipedKey.fingerprint
  addedAddr := m.getHeader .chatGroupMemberAdded
  addedId := e.addedId
  removedId := e.removedId

def memberHeaders : MemberHeaders where
  toAddrs := []
  chatGroupPastMembers := none
  chatGroupMemberTimestamps := m.getHeader .chatGroupMemberTimestamps
  chatGroupMemberFpr := m.getHeader .chatGroupMemberFpr

def applyUpdate (t : ChatsContacts) : MemberListUpdate → ChatsContacts × Bool
  | .unchanged => (t, false)
  | .rebuild newMembers =>
    (fun k => if k.1 = g.id then (if k.2 ∈ newMembers then some {} else none) else t k, true)
  | .write (.updateTimestamps chatId ignoredId toIds pastIds ts) =>
    updateChatsContactsTimestamps t chatId ignoredId toIds pastIds ts
  | .write op => (op.apply t, true)

/-! ## what is told -/

def groupChangesMsgs (addedIds removedIds : Finset ContactId) :
    List (String × SystemMessage × Option ContactId) :=
  (addedIds.sort.map fun id =>
    (env.stockStr (.addMember id ContactId.undefined), .memberAddedToGroup, some id)) ++
  (removedIds.sort.map fun id =>
    (env.stockStr (.delMember id ContactId.undefined), .memberRemovedFromGroup, some id))

def candidates (e : Explicit) (toIds pastIds : List (Option ContactId))
    (chatContacts : Finset ContactId) : Finset ContactId :=
  chatContacts ∪ {ContactId.self, fromId} ∪ e.addedId.toFinset ∪ (toIds.filterMap id).toFinset ∪
    (pastIds.filterMap id).toFinset

def groupChangesInfo (e : Explicit) (betterMsg : Option BetterMsg) (chatModified isChatCreated : Bool)
    (chatContacts newChatContacts : Finset ContactId) : GroupChangesInfo :=
  let addedIds := newChatContacts \ chatContacts
  let removedIds := chatContacts \ newChatContacts
  let idWasAlreadyAdded := e.addedId.any fun addedId => addedId ∉ addedIds
  let msgs :=
    if ContactId.self ∉ chatContacts ∧ ContactId.self ∈ newChatContacts then []
    else groupChangesMsgs env (addedIds \ e.addedId.toFinset) (removedIds \ e.removedId.toFinset)
  { betterMsg :=
      if idWasAlreadyAdded && msgs.isEmpty && !isChatCreated then some .trash else betterMsg
    addedRemovedId := e.addedId.or e.removedId
    silent := e.silent
    extraMsgs := msgs
    chatModified := chatModified }

def applyGroupChanges (db : Db) (chatContacts : ChatContacts db.chatsContacts g.id)
    (toIds pastIds : List (Option ContactId)) (isChatCreated : Bool) :
    Except Failure (GroupChangesInfo × Group × Db) := do
  ensure (env.fromIsKeyContact || g.grpid == "")
    "Condition failed: `from_is_key_contact || chat.grpid.is_empty()`"
  ensure (g.chat.typ = .group) "Condition failed: `chat.typ == Chattype::Group`"
  ensure (g.id > 9) "Condition failed: `!chat.id.is_special()`"
  let chatContacts := chatContacts.val
  let isFromInChat : Bool := ContactId.self ∉ chatContacts ∨ fromId ∈ chatContacts
  let e := explicitChanges env g m fromId db.chatsContacts chatContacts isFromInChat
  let s := applyChatNameAvatarAndDescriptionChanges m fromId isFromInChat
    { db := db.chat, chat := g.chat, sendEventChatModified := false, betterMsg := e.betterMsg }
  let update ← applyMemberList env.receiver (receiverChat env g s.chat e.chatsContacts chatContacts)
    (groupMessage env m fromId e) (memberHeaders m) toIds pastIds
  let (t, modified) := applyUpdate g e.chatsContacts update
  let chatDb := if isFromInChat then
      (s.db.updateTimestamp .memberListTimestamp m.timestampSent).1
    else s.db
  let newChatContacts := (candidates fromId e toIds pastIds chatContacts).filter fun c =>
    isMember t g.id c
  return (groupChangesInfo env e s.betterMsg (s.sendEventChatModified || modified) isChatCreated
    chatContacts newChatContacts, { g with chat := s.chat }, { chat := chatDb, chatsContacts := t })

end

/-! ## a sender who is not in the group -/

theorem explicitChanges_of_outsider (env : Env) (g : Group) (m : MimeMessage) (fromId : ContactId)
    (t : ChatsContacts) (chatContacts : Finset ContactId) :
    ∃ betterMsg, explicitChanges env g m fromId t chatContacts false =
      { chatsContacts := t, betterMsg := betterMsg } := by
  unfold explicitChanges
  split
  · exact ⟨some .trash, rfl⟩
  · exact ⟨some .trash, rfl⟩
  · exact ⟨none, rfl⟩

def SameSettings (s s' : Changes) : Prop := s'.db = s.db ∧ s'.chat = s.chat

theorem SameSettings.trans {s₁ s₂ s₃ : Changes} (h : SameSettings s₁ s₂) (h' : SameSettings s₂ s₃) :
    SameSettings s₁ s₃ := ⟨h'.1.trans h.1, h'.2.trans h.2⟩

theorem setName_of_outsider (s : Changes) (grpname : String) (ts : I64) :
    s.setName false grpname ts = s := by
  unfold Changes.setName
  exact if_neg fun h => Bool.false_ne_true h.1

theorem applyName_of_outsider (m : MimeMessage) (fromId : ContactId) (s : Changes) :
    SameSettings s (applyName m fromId false s) := by
  unfold applyName
  split
  · dsimp only
    rw [setName_of_outsider]
    split <;> exact ⟨rfl, rfl⟩
  · exact ⟨rfl, rfl⟩

theorem setDescription_of_outsider (s : Changes) (new : String) (ts : I64) :
    s.setDescription false new ts = s := by
  unfold Changes.setDescription
  exact if_neg fun h => Bool.false_ne_true h.1

theorem applyDescription_of_outsider (m : MimeMessage) (fromId : ContactId) (s : Changes) :
    SameSettings s (applyDescription m fromId false s) := by
  unfold applyDescription
  split
  · dsimp only
    rw [setDescription_of_outsider]
    split <;> exact ⟨rfl, rfl⟩
  · exact ⟨rfl, rfl⟩

theorem sayAvatar_of_outsider (m : MimeMessage) (fromId : ContactId) (s : Changes) :
    SameSettings s (sayAvatar m fromId false s) := by
  unfold sayAvatar
  split
  · split <;> exact ⟨rfl, rfl⟩
  · exact ⟨rfl, rfl⟩

theorem applyAvatar_of_outsider (m : MimeMessage) (s : Changes) : applyAvatar m false s = s := by
  unfold applyAvatar
  split
  · exact if_neg Bool.false_ne_true
  · rfl

theorem applySettings_of_outsider (m : MimeMessage) (fromId : ContactId) (s : Changes) :
    SameSettings s (applyChatNameAvatarAndDescriptionChanges m fromId false s) := by
  unfold applyChatNameAvatarAndDescriptionChanges
  dsimp only
  rw [applyAvatar_of_outsider]
  exact ((applyName_of_outsider m fromId s).trans (applyDescription_of_outsider m fromId _)).trans
    (sayAvatar_of_outsider m fromId _)

theorem ensure_bind {α : Type} {cond : Bool} {message : String} {f : Unit → Except Failure α}
    {a : α} (h : (ensure cond message >>= f) = .ok a) : cond = true ∧ f () = .ok a := by
  unfold ensure at h
  cases cond with
  | true => exact ⟨rfl, h⟩
  | false => cases h

theorem applyMemberList_of_outsider {r : Receiver} {chat : ReceiverChat} {gm : GroupMessage}
    {h : MemberHeaders} {toIds pastIds : List (Option ContactId)} {update : MemberListUpdate}
    (hout : isFromInChat chat gm = false)
    (hok : applyMemberList r chat gm h toIds pastIds = .ok update) : update = .unchanged := by
  unfold applyMemberList at hok
  obtain ⟨-, hok⟩ := ensure_bind hok
  obtain ⟨-, hok⟩ := ensure_bind hok
  obtain ⟨-, hok⟩ := ensure_bind hok
  rw [hout, if_neg Bool.false_ne_true] at hok
  exact (Except.ok.inj hok).symm

theorem groupChangesInfo_same (env : Env) (e : Explicit) (betterMsg : Option BetterMsg)
    (chatModified isChatCreated : Bool) (chatContacts : Finset ContactId) :
    (groupChangesInfo env e betterMsg chatModified isChatCreated chatContacts
      chatContacts).extraMsgs = [] := by
  have hself : ¬ (ContactId.self ∉ chatContacts ∧ ContactId.self ∈ chatContacts) :=
    fun h => h.1 h.2
  show (if _ then _ else _) = []
  rw [if_neg hself, Finset.sdiff_self, Finset.empty_sdiff, Finset.empty_sdiff]
  simp [groupChangesMsgs]

theorem filter_candidates {t : ChatsContacts} {chatId : ChatId}
    (chatContacts : ChatContacts t chatId) (fromId : ContactId) (e : Explicit)
    (toIds pastIds : List (Option ContactId)) :
    (candidates fromId e toIds pastIds chatContacts.val).filter (fun c => isMember t chatId c) =
      chatContacts.val := by
  ext c
  rw [Finset.mem_filter, chatContacts.property c]
  refine ⟨fun h => h.2, fun h => ⟨?_, h⟩⟩
  have hc : c ∈ chatContacts.val := (chatContacts.property c).mpr h
  simp only [candidates, Finset.mem_union]
  exact .inl (.inl (.inl (.inl hc)))

/-- **A message from outside of a group the user is in changes nothing**: not the members, the
name, the description, the avatar or a stored time, and no contact is reported. -/
theorem outsider_changes_nothing (env : Env) (g : Group) (m : MimeMessage) (fromId : ContactId)
    (db : Db) (chatContacts : ChatContacts db.chatsContacts g.id)
    (toIds pastIds : List (Option ContactId)) (isChatCreated : Bool) (info : GroupChangesInfo)
    (g' : Group) (db' : Db) (hself : isMember db.chatsContacts g.id ContactId.self = true)
    (hfrom : isMember db.chatsContacts g.id fromId = false)
    (hok : applyGroupChanges env g m fromId db chatContacts toIds pastIds isChatCreated =
      .ok (info, g', db')) :
    db' = db ∧ g' = g ∧ info.addedRemovedId = none ∧ info.extraMsgs = [] := by
  have hself' : ContactId.self ∈ chatContacts.val := (chatContacts.property _).mpr hself
  have hfrom' : fromId ∉ chatContacts.val := fun h => by
    rw [(chatContacts.property fromId).mp h] at hfrom
    cases hfrom
  have hout : decide (ContactId.self ∉ chatContacts.val ∨ fromId ∈ chatContacts.val) = false := by
    simp [hself', hfrom']
  unfold applyGroupChanges at hok
  obtain ⟨-, hok⟩ := ensure_bind hok
  obtain ⟨-, hok⟩ := ensure_bind hok
  obtain ⟨-, hok⟩ := ensure_bind hok
  dsimp only at hok
  rw [hout] at hok
  obtain ⟨betterMsg, he⟩ :=
    explicitChanges_of_outsider env g m fromId db.chatsContacts chatContacts.val
  rw [he] at hok
  obtain ⟨hdb, hchat⟩ := applySettings_of_outsider m fromId
    { db := db.chat, chat := g.chat, sendEventChatModified := false, betterMsg := betterMsg }
  generalize applyChatNameAvatarAndDescriptionChanges m fromId false _ = s at hok hdb hchat
  change s.db = db.chat at hdb
  change s.chat = g.chat at hchat
  cases hupdate : applyMemberList env.receiver
      (receiverChat env g s.chat db.chatsContacts chatContacts.val)
      (groupMessage env m fromId { chatsContacts := db.chatsContacts, betterMsg := betterMsg })
      (memberHeaders m) toIds pastIds with
  | error err =>
    rw [hupdate] at hok
    cases hok
  | ok update =>
    obtain rfl : update = .unchanged := by
      refine applyMemberList_of_outsider ?_ hupdate
      exact hout
    rw [hupdate] at hok
    have hres := Except.ok.inj hok
    have hinfo := congrArg Prod.fst hres
    have hg := congrArg (fun r => r.2.1) hres
    have hdb' := congrArg (fun r => r.2.2) hres
    change _ = info at hinfo
    change { g with chat := s.chat } = g' at hg
    change { chat := s.db, chatsContacts := db.chatsContacts } = db' at hdb'
    refine ⟨?_, ?_, ?_, ?_⟩
    · rw [← hdb', hdb]
    · rw [← hg, hchat]
    · rw [← hinfo]
      rfl
    · rw [← hinfo]
      show (groupChangesInfo env _ _ _ _ _ ((candidates fromId _ toIds pastIds
        chatContacts.val).filter fun c => isMember db.chatsContacts g.id c)).extraMsgs = []
      rw [filter_candidates]
      exact groupChangesInfo_same env _ _ _ _ _

/-! ## an attempt to rename a group -/

def soloContacts : ChatsContacts := fun k => if k = (12, ContactId.self) then some {} else none

def soloMembers : ChatContacts soloContacts 12 :=
  ⟨{ContactId.self}, fun c => by
    rw [Finset.mem_singleton]
    by_cases hc : c = ContactId.self
    · subst hc
      decide
    · have hk : ((12, c) : ChatId × ContactId) ≠ (12, ContactId.self) := fun h =>
        hc (congrArg Prod.snd h)
      simp [isMember, soloContacts, hk, hc]⟩

def soloGroup : Group where
  id := 12
  grpid := "grpid"
  createdTimestamp := I64.zero
  chat := { typ := .group, name := "old", param := Params.new }

def renameMessage : MimeMessage where
  headers := fun name =>
    if name = "chat-group-name" then some "new"
    else if name = "chat-group-name-changed" then some "old"
    else none

def soloEnv : Env where
  receiver := bob
  contacts := bobContacts
  fromIsKeyContact := true
  stockStr := fun _ => ""

theorem outsider_changes_nothing_renaming :
    ∃ info g' db', applyGroupChanges soloEnv soloGroup renameMessage 10
        ⟨⟨.group, "old", Params.new, none⟩, soloContacts⟩ soloMembers [] [] false =
          .ok (info, g', db') ∧ db'.chat.name = "old" := by
  refine ⟨_, _, _, rfl, ?_⟩
  exact congrArg (fun db => db.chat.name) (outsider_changes_nothing soloEnv soloGroup renameMessage 10
    ⟨⟨.group, "old", Params.new, none⟩, soloContacts⟩ soloMembers [] [] false _ _ _ (by decide)
    (by decide) rfl).1

end EpsilonChat.GroupChanges
