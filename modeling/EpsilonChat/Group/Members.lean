import EpsilonChat.Base.Ids
import EpsilonChat.Lib.Table
import Mathlib.Data.Int.Order.Basic

/-!
# The table `chats_contacts` and its four writers

A row holds the time a contact was added to a chat and the time it was removed; both columns are
`NOT NULL DEFAULT 0`.  The contact is a member of the chat iff
`add_timestamp >= remove_timestamp`, otherwise the row is a tombstone of a past member.

* `updateChatsContactsTimestamps`: merges the member list of a received message (receive_imf.rs);
* `updateChatContactsTable`: rewrites the whole member list of a chat (chat.rs);
* `addToChatContactsTable`, `removeFromChatContactsTable`: one contact added or removed (chat.rs).

`Row.clock` is the newest time a row knows of.
-/

namespace EpsilonChat.Members
open Lib

structure Row where
  addTimestamp : Int := 0
  removeTimestamp : Int := 0
  deriving DecidableEq, Repr

/-- `chats_contacts`, with `UNIQUE(chat_id, contact_id)` -/
abbrev ChatsContacts := ChatId × ContactId → Option Row

namespace Row

/-- the newest time the row knows of -/
def clock (r : Row) : Int := max r.addTimestamp r.removeTimestamp

def isMember (r : Row) : Bool := r.addTimestamp ≥ r.removeTimestamp

end Row

/-- the condition of `get_chat_contacts` -/
def isMember (t : ChatsContacts) (chatId : ChatId) (c : ContactId) : Bool :=
  (t (chatId, c)).any Row.isMember

def clock (t : ChatsContacts) (chatId : ChatId) (c : ContactId) : Option Int :=
  (t (chatId, c)).map Row.clock

/-! ## merging a received member list -/

/-- `SET add_timestamp=?3 WHERE ?3>add_timestamp AND ?3>=remove_timestamp` -/
def Row.mergeAdd (ts : Int) (r : Row) : Option Row :=
  if ts > r.addTimestamp ∧ ts ≥ r.removeTimestamp then some { r with addTimestamp := ts } else none

/-- `SET remove_timestamp=?3 WHERE ?3>remove_timestamp AND ?3>add_timestamp` -/
def Row.mergeRemove (ts : Int) (r : Row) : Option Row :=
  if ts > r.removeTimestamp ∧ ts > r.addTimestamp then some { r with removeTimestamp := ts }
  else none

abbrev MergeState := ChatsContacts × Bool

def addStatement (chatId : ChatId) (ignoredId : Option ContactId) (s : MergeState)
    (e : Option ContactId × Int) : MergeState :=
  match e with
  | (none, _) => s
  | (some c, ts) =>
    if some c = ignoredId then s
    else (upsert s.1 (chatId, c) { addTimestamp := ts } (Row.mergeAdd ts),
      s.2 || upserted s.1 (chatId, c) (Row.mergeAdd ts))

def removeStatement (chatId : ChatId) (s : MergeState) (e : Option ContactId × Int) : MergeState :=
  match e with
  | (none, _) => s
  | (some c, ts) =>
    (upsert s.1 (chatId, c) { removeTimestamp := ts } (Row.mergeRemove ts),
      s.2 || upserted s.1 (chatId, c) (Row.mergeRemove ts))

/-- `update_chats_contacts_timestamps`: the new table and whether a row was modified -/
def updateChatsContactsTimestamps (t : ChatsContacts) (chatId : ChatId)
    (ignoredId : Option ContactId) (toIds pastIds : List (Option ContactId))
    (chatGroupMemberTimestamps : List Int) : ChatsContacts × Bool :=
  if chatGroupMemberTimestamps.length ≠ toIds.length + pastIds.length then (t, false)
  else
    let s := (toIds.zip (chatGroupMemberTimestamps.take toIds.length)).foldl
      (addStatement chatId ignoredId) (t, false)
    (pastIds.zip (chatGroupMemberTimestamps.drop toIds.length)).foldl (removeStatement chatId) s

/-! ## the writers of chat.rs -/

/-- `remove_timestamp=MAX(add_timestamp+1, ?)` -/
def Row.bumpRemove (timestamp : Int) (r : Row) : Row :=
  { r with removeTimestamp := max (r.addTimestamp + 1) timestamp }

/-- `add_timestamp=remove_timestamp` -/
def Row.addBack (r : Row) : Row := { r with addTimestamp := r.removeTimestamp }

/-- `add_timestamp=MAX(remove_timestamp, ?3)` -/
def Row.bumpAdd (timestamp : Int) (r : Row) : Row :=
  { r with addTimestamp := max r.removeTimestamp timestamp }

/-- `UPDATE chats_contacts SET remove_timestamp=MAX(add_timestamp+1, ?) WHERE chat_id=?` -/
def bumpRemoveAll (t : ChatsContacts) (timestamp : Int) (id : ChatId) : ChatsContacts := fun k =>
  if k.1 = id then (t k).map (Row.bumpRemove timestamp) else t k

def updateChatContactsTable (t : ChatsContacts) (timestamp : Int) (id : ChatId)
    (contacts : List ContactId) : ChatsContacts :=
  contacts.foldl (fun t c => upsert t (id, c) { addTimestamp := timestamp } fun r => some r.addBack)
    (bumpRemoveAll t timestamp id)

def addToChatContactsTable (t : ChatsContacts) (timestamp : Int) (chatId : ChatId)
    (contactIds : List ContactId) : ChatsContacts :=
  contactIds.foldl (fun t c => upsert t (chatId, c) { addTimestamp := timestamp } fun r =>
    some (r.bumpAdd timestamp)) t

/-- `remove_from_chat_contacts_table`; `now` is the local clock -/
def removeFromChatContactsTable (t : ChatsContacts) (chatId : ChatId) (contactId : ContactId)
    (now : Int) : ChatsContacts × Bool :=
  (updateRow t (chatId, contactId) (Row.bumpRemove now), (t (chatId, contactId)).isSome)

inductive MemberOp where
  | updateTimestamps (chatId : ChatId) (ignoredId : Option ContactId)
      (toIds pastIds : List (Option ContactId)) (chatGroupMemberTimestamps : List Int)
  | updateTable (timestamp : Int) (id : ChatId) (contacts : List ContactId)
  | addToTable (timestamp : Int) (chatId : ChatId) (contactIds : List ContactId)
  | removeFromTable (chatId : ChatId) (contactId : ContactId) (now : Int)

def MemberOp.apply (t : ChatsContacts) : MemberOp → ChatsContacts
  | .updateTimestamps chatId ignoredId toIds pastIds ts =>
    (updateChatsContactsTimestamps t chatId ignoredId toIds pastIds ts).1
  | .updateTable timestamp id contacts => updateChatContactsTable t timestamp id contacts
  | .addToTable timestamp chatId contactIds => addToChatContactsTable t timestamp chatId contactIds
  | .removeFromTable chatId contactId now => (removeFromChatContactsTable t chatId contactId now).1

end EpsilonChat.Members
