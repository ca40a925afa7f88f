import EpsilonChat.Base.I64

/-!
# `Params`: the key-value column of chats, messages and contacts

A `Params` value is a partial map from `Param` keys to strings.  The `param` column holds its
printed form, which parses back to the same map, so the column is modelled by the map itself.

`Params.updateTimestamp` is the guard of all timestamped settings: a time that is not older than
the stored one is stored and accepted.
-/

namespace EpsilonChat

inductive Param where
  | file | filename | overrideSenderDisplayname | width | height | duration | mimeType | sendHtml
  | guaranteeE2ee | protectQuote | erroneousE2ee | forcePlaintext | deprecatedSkipAutocrypt
  | wantsMdn | reaction | lastReactionTimestamp | lastReactionMsgId | lastReactionContactId | bot
  | forwarded | quote | summary1 | cmd | arg | arg2 | arg3 | arg4 | attachChatAvatarAndDescription
  | webrtcRoom | webrtcAccepted | webrtcHasVideoInitially | prepForwards | setLatitude
  | setLongitude | unpromoted | profileImage | selftalk | lastSubject | devicetalk | listPost
  | listId | statusTimestamp | avatarTimestamp | ephemeralSettingsTimestamp | subjectTimestamp
  | groupNameTimestamp | groupDescriptionTimestamp | memberListTimestamp | webxdcDocument
  | webxdcDocumentTimestamp | webxdcSummary | webxdcSummaryTimestamp | webxdcIntegration
  | webxdcIntegrateFor | deleteRequestFor | textEditFor | isEdited | contactAddedRemoved
  | postMessageViewtype | postMessageFileBytes
  deriving DecidableEq, Repr

abbrev Params := Param → Option String

namespace Params

def new : Params := fun _ => none

def get (p : Params) (key : Param) : Option String := p key

def set (p : Params) (key : Param) (value : String) : Params := Function.update p key (some value)

def remove (p : Params) (key : Param) : Params := Function.update p key none

def getI64 (p : Params) (key : Param) : Option I64 := (p.get key).bind I64.parse

def getInt (p : Params) (key : Param) : Option ℤ :=
  ((p.getI64 key).map Subtype.val).filter fun n => -2^31 ≤ n ∧ n < 2^31

def getBool (p : Params) (key : Param) : Option Bool := (p.getInt key).map (· ≠ 0)

def mergeInParams (p newParams : Params) : Params := fun key => (newParams key).or (p key)

def setI64 (p : Params) (key : Param) (value : I64) : Params := p.set key value.print

theorem getI64_setI64 (p : Params) (key : Param) (value : I64) :
    (p.setI64 key value).getI64 key = some value := by
  show ((Function.update p key (some value.print)) key).bind I64.parse = some value
  rw [Function.update_self, Option.bind_some, I64.parse_print]

theorem get_set_of_ne (p : Params) {key key' : Param} (value : String) (h : key' ≠ key) :
    (p.set key value).get key' = p.get key' := Function.update_of_ne h _ _

theorem get_set_self (p : Params) (key : Param) (value : String) :
    (p.set key value).get key = some value := Function.update_self ..

theorem get_remove_of_ne (p : Params) {key key' : Param} (h : key' ≠ key) :
    (p.remove key).get key' = p.get key' := Function.update_of_ne h _ _

theorem get_remove_self (p : Params) (key : Param) : (p.remove key).get key = none :=
  Function.update_self ..

/-- the stored time of a setting, `get_i64(scope).unwrap_or(0)` -/
def timestamp (p : Params) (scope : Param) : I64 := (p.getI64 scope).getD I64.zero

def updateTimestamp (p : Params) (scope : Param) (newTimestamp : I64) : Params × Bool :=
  if newTimestamp ≥ p.timestamp scope then (p.setI64 scope newTimestamp, true) else (p, false)

theorem timestamp_setI64 (p : Params) (scope : Param) (ts : I64) :
    (p.setI64 scope ts).timestamp scope = ts := by
  rw [timestamp, getI64_setI64, Option.getD_some]

theorem timestamp_congr {p q : Params} {scope : Param} (h : p.get scope = q.get scope) :
    p.timestamp scope = q.timestamp scope := by
  rw [timestamp, timestamp, getI64, getI64, h]

end Params

end EpsilonChat
