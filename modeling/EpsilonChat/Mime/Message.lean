import EpsilonChat.Base.Ids
import EpsilonChat.Base.Params
import EpsilonChat.Base.Text

/-!
# Parsed messages

* `HeaderDef`: the headers the code knows, with their names in the header map;
* `MimeMessage`: what `MimeMessage::from_bytes` leaves of a message, as far as the modelled
  receivers read it.
-/

namespace EpsilonChat

inductive HeaderDef where
  | messageId | subject | date | from_ | to_ | autoSubmitted | cc | disposition | originalMessageId
  | additionalMessageIds | xMicrosoftOriginalMessageId | xMozillaDraftInfo | listId | listPost
  | chatListId | listHelp | references | inReplyTo | precedence | contentType | contentId
  | chatVersion | chatGroupId | chatGroupName | chatGroupNameChanged | chatGroupNameTimestamp
  | chatGroupDescription | chatGroupDescriptionChanged | chatGroupDescriptionTimestamp
  | chatVerified | chatGroupAvatar | chatUserAvatar | chatVoiceMessage | chatGroupMemberRemoved
  | chatGroupMemberRemovedFpr | chatGroupMemberAdded | chatGroupMemberAddedFpr | chatContent
  | chatGroupPastMembers | chatGroupMemberTimestamps | chatGroupMemberFpr | chatDuration
  | chatDispositionNotificationTo | chatWebrtcRoom | chatWebrtcAccepted
  | chatWebrtcHasVideoInitially | chatDelete | chatEdit | chatBroadcastSecret | chatPostMessageId
  | chatPostMessageMetadata | chatIsPostMessage | autocrypt | autocryptGossip | secureJoin
  | secureJoinGroup | secureJoinFingerprint | secureJoinInvitenumber | secureJoinAuth | sender
  | ephemeralTimer | received | authenticationResults | irohNodeAddr | irohGossipTopic | hpOuter
  deriving DecidableEq, Repr

namespace HeaderDef

def getHeadername : HeaderDef → String
  | messageId => "message-id" | subject => "subject" | date => "date" | from_ => "from"
  | to_ => "to" | autoSubmitted => "auto-submitted" | cc => "cc" | disposition => "disposition"
  | originalMessageId => "original-message-id"
  | additionalMessageIds => "additional-message-ids"
  | xMicrosoftOriginalMessageId => "x-microsoft-original-message-id"
  | xMozillaDraftInfo => "x-mozilla-draft-info" | listId => "list-id" | listPost => "list-post"
  | chatListId => "chat-list-id" | listHelp => "list-help" | references => "references"
  | inReplyTo => "in-reply-to" | precedence => "precedence" | contentType => "content-type"
  | contentId => "content-id" | chatVersion => "chat-version" | chatGroupId => "chat-group-id"
  | chatGroupName => "chat-group-name" | chatGroupNameChanged => "chat-group-name-changed"
  | chatGroupNameTimestamp => "chat-group-name-timestamp"
  | chatGroupDescription => "chat-group-description"
  | chatGroupDescriptionChanged => "chat-group-description-changed"
  | chatGroupDescriptionTimestamp => "chat-group-description-timestamp"
  | chatVerified => "chat-verified" | chatGroupAvatar => "chat-group-avatar"
  | chatUserAvatar => "chat-user-avatar" | chatVoiceMessage => "chat-voice-message"
  | chatGroupMemberRemoved => "chat-group-member-removed"
  | chatGroupMemberRemovedFpr => "chat-group-member-removed-fpr"
  | chatGroupMemberAdded => "chat-group-member-added"
  | chatGroupMemberAddedFpr => "chat-group-member-added-fpr" | chatContent => "chat-content"
  | chatGroupPastMembers => "chat-group-past-members"
  | chatGroupMemberTimestamps => "chat-group-member-timestamps"
  | chatGroupMemberFpr => "chat-group-member-fpr" | chatDuration => "chat-duration"
  | chatDispositionNotificationTo => "chat-disposition-notification-to"
  | chatWebrtcRoom => "chat-webrtc-room" | chatWebrtcAccepted => "chat-webrtc-accepted"
  | chatWebrtcHasVideoInitially => "chat-webrtc-has-video-initially"
  | chatDelete => "chat-delete" | chatEdit => "chat-edit"
  | chatBroadcastSecret => "chat-broadcast-secret" | chatPostMessageId => "chat-post-message-id"
  | chatPostMessageMetadata => "chat-post-message-metadata"
  | chatIsPostMessage => "chat-is-post-message" | autocrypt => "autocrypt"
  | autocryptGossip => "autocrypt-gossip" | secureJoin => "secure-join"
  | secureJoinGroup => "secure-join-group" | secureJoinFingerprint => "secure-join-fingerprint"
  | secureJoinInvitenumber => "secure-join-invitenumber" | secureJoinAuth => "secure-join-auth"
  | sender => "sender" | ephemeralTimer => "ephemeral-timer" | received => "received"
  | authenticationResults => "authentication-results" | irohNodeAddr => "iroh-node-addr"
  | irohGossipTopic => "iroh-gossip-topic" | hpOuter => "hp-outer"

end HeaderDef

abbrev Headers := String → Option String

def headersOf (l : List (HeaderDef × String)) : Headers := fun key =>
  (l.find? fun h => h.1.getHeadername = key).map Prod.snd

structure SingleInfo where
  addr : String
  displayName : Option String := none
  deriving DecidableEq, Repr

inductive AvatarAction where
  | delete
  | change (profileImage : String)
  deriving DecidableEq, Repr

structure GossipedKey where
  fingerprint : String
  verified : Bool

/-! ## parts -/

inductive Viewtype where
  | unknown | text | image | gif | sticker | audio | voice | video | file | call | webxdc | vcard
  deriving DecidableEq, Repr

namespace Viewtype

def hasFile : Viewtype → Bool
  | unknown => false | text => false | image => true | gif => true | sticker => true
  | audio => true | voice => true | video => true | file => true | call => false
  | webxdc => true | vcard => true

def toNat : Viewtype → Nat
  | unknown => 0 | text => 10 | image => 20 | gif => 21 | sticker => 23 | audio => 40
  | voice => 41 | video => 50 | file => 60 | call => 71 | webxdc => 80 | vcard => 90

end Viewtype

inductive SystemMessage where
  | unknown | groupNameChanged | groupImageChanged | memberAddedToGroup | memberRemovedFromGroup
  | autocryptSetupMessage | securejoinMessage | locationStreamingEnabled | locationOnly
  | ephemeralTimerChanged | chatProtectionEnabled | chatProtectionDisabled
  | invalidUnencryptedMail | securejoinWait | securejoinWaitTimeout | multiDeviceSync
  | webxdcStatusUpdate | webxdcInfoMessage | irohNodeAddr | chatE2ee | callAccepted | callEnded
  | groupDescriptionChanged
  deriving DecidableEq, Repr

/-- `is_system_message as i32` -/
def SystemMessage.toNat : SystemMessage → Nat
  | unknown => 0 | groupNameChanged => 2 | groupImageChanged => 3 | memberAddedToGroup => 4
  | memberRemovedFromGroup => 5 | autocryptSetupMessage => 6 | securejoinMessage => 7
  | locationStreamingEnabled => 8 | locationOnly => 9 | ephemeralTimerChanged => 10
  | chatProtectionEnabled => 11 | chatProtectionDisabled => 12 | invalidUnencryptedMail => 13
  | securejoinWait => 14 | securejoinWaitTimeout => 15 | multiDeviceSync => 20
  | webxdcStatusUpdate => 30 | webxdcInfoMessage => 32 | irohNodeAddr => 40 | chatE2ee => 50
  | callAccepted => 66 | callEnded => 67 | groupDescriptionChanged => 70

def SystemMessage.fromI32 (n : ℤ) : Option SystemMessage :=
  [unknown, groupNameChanged, groupImageChanged, memberAddedToGroup, memberRemovedFromGroup,
    autocryptSetupMessage, securejoinMessage, locationStreamingEnabled, locationOnly,
    ephemeralTimerChanged, chatProtectionEnabled, chatProtectionDisabled, invalidUnencryptedMail,
    securejoinWait, securejoinWaitTimeout, multiDeviceSync, webxdcStatusUpdate, webxdcInfoMessage,
    irohNodeAddr, chatE2ee, callAccepted, callEnded, groupDescriptionChanged].find? fun cmd =>
      (cmd.toNat : ℤ) = n

def Params.getCmd (p : Params) : SystemMessage :=
  ((p.getInt .cmd).bind SystemMessage.fromI32).getD .unknown

structure Part where
  typ : Viewtype := .text
  msg : String := ""
  param : Params := Params.new
  isReaction : Bool := false

structure PostMsgMetadata where
  size : Nat
  viewtype : Viewtype
  filename : String
  wh : Option (Int × Int) := none
  duration : Option Int := none
  deriving DecidableEq, Repr

/-- `Params::apply_post_msg_metadata` -/
def PostMsgMetadata.apply (d : PostMsgMetadata) (p : Params) : Params :=
  let p := p.set .postMessageFileBytes (toString d.size)
  let p := if d.filename = "" then p else p.set .filename d.filename
  let p := p.set .postMessageViewtype (toString d.viewtype.toNat)
  let p := match d.wh with
    | some (width, height) => (p.set .width (toString width)).set .height (toString height)
    | none => p
  match d.duration with
  | some duration => p.set .duration (toString duration)
  | none => p

inductive PreMessageMode where
  | post
  | pre (postMsgRfc724Mid : String) (metadata : Option PostMsgMetadata)
  | none
  deriving DecidableEq, Repr

/-! ## messages -/

structure MimeMessage where
  headers : Headers := fun _ => none
  groupAvatar : Option AvatarAction := none
  timestampSent : I64 := I64.zero
  from_ : SingleInfo := { addr := "" }
  incoming : Bool := true
  /-- the fingerprint of the key that signed the encrypted message, and those of the keys it is
  meant for -/
  signature : Option (String × List String) := none
  autocryptFingerprint : Option String := none
  gossipedKeys : List (String × GossipedKey) := []
  decryptionError : Option String := none
  parts : List Part := []
  preMessage : PreMessageMode := .none
  isSystemMessage : SystemMessage := .unknown
  /-- the Message-IDs that the MDNs in the message report as read -/
  mdnReports : List (Option String × List String) := []
  /-- the Message-ID that a delivery report is about, and whether the delivery failed -/
  deliveryReport : Option (String × Bool) := none
  syncItems : Option String := none
  webxdcStatusUpdate : Option String := none
  locationKml : Option String := none
  isMimeModified : Bool := false

def parseMessageIds (ids : String) : List String :=
  ((Text.splitWhitespace ids).map fun id =>
    Text.stripSuffix (Text.stripPrefix id '<') '>').filter (· ≠ "")

namespace MimeMessage

def getHeader (m : MimeMessage) (headerdef : HeaderDef) : Option String :=
  m.headers headerdef.getHeadername

def wasEncrypted (m : MimeMessage) : Bool := m.signature.isSome

def getRfc724Mid (m : MimeMessage) : Option String :=
  (m.getHeader .messageId).bind fun msgid => (parseMessageIds msgid).head?

end MimeMessage

inductive HandshakeMessage where
  /-- handled, to be deleted -/
  | done
  /-- hidden, but left on the server for other devices -/
  | ignore
  /-- to be processed like other messages -/
  | propagate
  deriving DecidableEq, Repr

end EpsilonChat
