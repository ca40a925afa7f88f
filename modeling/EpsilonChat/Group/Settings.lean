import EpsilonChat.Mime.Message

/-!
# Name, description and avatar of a chat

`apply_chat_name_avatar_and_description_changes`, in its three parts.  The chat is in memory AND in
the database, and the parts do not use the same copy:

* the name and the description compare with the copy in memory, and store their times by reading,
  changing and writing the `param` column (`ChatDb.updateTimestamp`);
* the avatar stores its time in the copy in memory, and then writes all of that copy
  (`ChatDb.updateParam`).
-/

namespace EpsilonChat.Settings
open Text

inductive Chattype where
  | single | group | mailinglist | inBroadcast | outBroadcast
  deriving DecidableEq, Repr

def Chattype.isBroadcast : Chattype → Bool
  | inBroadcast | outBroadcast => true
  | _ => false

/-- the row of the chat in `chats`, and its row in `chats_descriptions` if there is one -/
structure ChatDb where
  typ : Chattype
  name : String
  param : Params
  description : Option String

structure Chat where
  typ : Chattype
  name : String
  param : Params

def loadFromDb (db : ChatDb) : Chat := { typ := db.typ, name := db.name, param := db.param }

def ChatDb.updateTimestamp (db : ChatDb) (scope : Param) (newTimestamp : I64) : ChatDb × Bool :=
  let (param, update) := db.param.updateTimestamp scope newTimestamp
  if update then ({ db with param }, true) else (db, false)

theorem updateTimestamp_of_le (db : ChatDb) (scope : Param) (ts : I64)
    (h : db.param.timestamp scope ≤ ts) :
    db.updateTimestamp scope ts = ({ db with param := db.param.setI64 scope ts }, true) := by
  unfold ChatDb.updateTimestamp Params.updateTimestamp
  rw [if_pos h]
  rfl

theorem updateTimestamp_of_lt (db : ChatDb) (scope : Param) (ts : I64)
    (h : ts < db.param.timestamp scope) : db.updateTimestamp scope ts = (db, false) := by
  unfold ChatDb.updateTimestamp Params.updateTimestamp
  rw [if_neg (not_le.mpr h)]
  rfl

def ChatDb.updateParam (db : ChatDb) (chat : Chat) : ChatDb := { db with param := chat.param }

def ChatDb.getChatDescription (db : ChatDb) : String := db.description.getD ""

/-- what the info message says; `trash` is the empty text -/
inductive BetterMsg where
  | trash
  | membership (text : String)
  | broadcastNameChanged (oldName grpname : String)
  | grpName (oldName grpname : String) (fromId : ContactId)
  | chatDescriptionChanged (fromId : ContactId)
  | broadcastImgChanged
  | grpImgDeleted (fromId : ContactId)
  | grpImgChanged (fromId : ContactId)
  deriving DecidableEq, Repr

structure Changes where
  db : ChatDb
  chat : Chat
  sendEventChatModified : Bool
  betterMsg : Option BetterMsg

/-- `better_msg.get_or_insert(msg)` for a member, `Some(String::new())` for anyone else -/
def Changes.sayOrTrash (s : Changes) (isFromInChat : Bool) (msg : BetterMsg) : Changes :=
  if isFromInChat then { s with betterMsg := s.betterMsg.or (some msg) }
  else { s with betterMsg := some .trash }

/-! ## name -/

def groupNameTimestamp (m : MimeMessage) : Option I64 :=
  (m.getHeader .chatGroupNameTimestamp).bind I64.parse

def oldName (m : MimeMessage) (chat : Chat) : Option String :=
  ((m.getHeader .chatGroupNameChanged).map trim).or
    (match groupNameTimestamp m with
      | some t => if t = I64.zero then none else some chat.name
      | none => none)

def newName (m : MimeMessage) : Option String :=
  ((m.getHeader .chatGroupName).map trim).filter fun grpname => grpname.utf8ByteSize < 200

def Changes.setName (s : Changes) (isFromInChat : Bool) (grpname : String) (timestamp : I64) :
    Changes :=
  let stored := s.chat.param.timestamp .groupNameTimestamp
  if isFromInChat ∧ (stored < timestamp ∨ (stored = timestamp ∧ grpname < s.chat.name)) then
    let (db, update) := s.db.updateTimestamp .groupNameTimestamp timestamp
    if update ∧ grpname ≠ s.chat.name then
      { s with db := { db with name := grpname }, sendEventChatModified := true }
    else { s with db }
  else s

def applyName (m : MimeMessage) (fromId : ContactId) (isFromInChat : Bool) (s : Changes) :
    Changes :=
  match oldName m s.chat, newName m with
  | some oldName, some grpname =>
    let grpname := sanitizeSingleLine grpname
    let s := s.setName isFromInChat grpname ((groupNameTimestamp m).getD m.timestampSent)
    if (m.getHeader .chatGroupNameChanged).isSome then
      let oldName := sanitizeSingleLine oldName
      s.sayOrTrash isFromInChat
        (if s.chat.typ.isBroadcast then .broadcastNameChanged oldName grpname
          else .grpName oldName grpname fromId)
    else s
  | _, _ => s

def newDescription (m : MimeMessage) : Option String :=
  ((m.getHeader .chatGroupDescription).map trim).map fun d => sanitizeBidiCharacters (trim d)

def descriptionTimestamp (m : MimeMessage) : I64 :=
  ((m.getHeader .chatGroupDescriptionTimestamp).bind I64.parse).getD m.timestampSent

def Changes.setDescription (s : Changes) (isFromInChat : Bool) (new : String) (timestamp : I64) :
    Changes :=
  let old := s.db.getChatDescription
  let stored := s.chat.param.timestamp .groupDescriptionTimestamp
  if isFromInChat ∧ (stored < timestamp ∨ (stored = timestamp ∧ old < new)) then
    let (db, update) := s.db.updateTimestamp .groupDescriptionTimestamp timestamp
    if update ∧ new ≠ old then
      { s with db := { db with description := some new }, sendEventChatModified := true }
    else { s with db }
  else s

def applyDescription (m : MimeMessage) (fromId : ContactId) (isFromInChat : Bool) (s : Changes) :
    Changes :=
  match newDescription m with
  | some new =>
    let s := s.setDescription isFromInChat new (descriptionTimestamp m)
    if (m.getHeader .chatGroupDescriptionChanged).isSome then
      s.sayOrTrash isFromInChat (.chatDescriptionChanged fromId)
    else s
  | none => s

/-! ## avatar -/

def avatarMsg (typ : Chattype) (fromId : ContactId) : AvatarAction → BetterMsg
  | .delete => if typ.isBroadcast then .broadcastImgChanged else .grpImgDeleted fromId
  | .change _ => if typ.isBroadcast then .broadcastImgChanged else .grpImgChanged fromId

def setProfileImage (param : Params) : AvatarAction → Params
  | .change profileImage => param.set .profileImage profileImage
  | .delete => param.remove .profileImage

def sayAvatar (m : MimeMessage) (fromId : ContactId) (isFromInChat : Bool) (s : Changes) :
    Changes :=
  match m.getHeader .chatContent, s.betterMsg, m.groupAvatar with
  | some value, none, some avatarAction =>
    if value = "group-avatar-changed" then
      s.sayOrTrash isFromInChat (avatarMsg s.chat.typ fromId avatarAction)
    else s
  | _, _, _ => s

def applyAvatar (m : MimeMessage) (isFromInChat : Bool) (s : Changes) : Changes :=
  match m.groupAvatar with
  | some avatarAction =>
    if isFromInChat then
      let (param, update) := s.chat.param.updateTimestamp .avatarTimestamp m.timestampSent
      if update then
        let chat := { s.chat with param := setProfileImage param avatarAction }
        { s with chat, db := s.db.updateParam chat, sendEventChatModified := true }
      else s
    else s
  | none => s

def applyChatNameAvatarAndDescriptionChanges (m : MimeMessage) (fromId : ContactId)
    (isFromInChat : Bool) (s : Changes) : Changes :=
  let s := applyName m fromId isFromInChat s
  let s := applyDescription m fromId isFromInChat s
  let s := sayAvatar m fromId isFromInChat s
  applyAvatar m isFromInChat s

end EpsilonChat.Settings
