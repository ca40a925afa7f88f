import EpsilonChat.Receive.Msgs

/-!
# Receiving a message

`receive_imf_inner`, as far as it decides whether a message is let in and what it does to the table
`msgs`.

* `Mail`: a message as it was fetched and parsed, with what the contacts and chats of the device
  make of it (its sender, its chat, the outcome of its handshake);
* `precheck`: the checks before the message is looked at: is it broken, unencrypted though
  encryption is enforced, meant for another key, already known, without sender;
* `decideTrash`: the part of `decide_chat_assignment` that sends messages to the trash;
* `handleEditDelete`: edits and deletes messages on behalf of the sender;
* `receiveImf`: the whole.

Left out are the effects of sync items, reactions, calls and status updates, which come from
messages of their own kind.
-/

namespace EpsilonChat.Receive
open Lib

structure Device where
  forceEncryption : Bool := false
  /-- the fingerprint of the own key, once there is one -/
  selfFingerprint : Option String := none

structure Mail where
  /-- the Message-ID found while fetching -/
  rfc724Mid : String
  /-- nothing if the message is broken -/
  mime : Option MimeMessage
  /-- `from_field_to_contact_id` -/
  fromId : Option ContactId
  /-- `handle_securejoin_handshake` or `observe_securejoin_on_other_device`; messages that are no
  Secure-Join messages are propagated -/
  handshake : Except String HandshakeMessage := .ok .propagate
  /-- `do_chat_assignment`, unless the message was assigned to the trash before -/
  chatId : ChatId
  betterMsg : Option String := none
  /-- the name shown for a sender that is no member of the chat -/
  overrideSenderDisplayname : Option String := none
  addedRemovedId : Option ContactId := none

structure ReceivedMsg where
  chatId : ChatId
  msgIds : List MsgId
  deriving DecidableEq, Repr

/-- `Result<Option<ReceivedMsg>>`, and the table after the call -/
abbrev Received := Msgs × Except String (Option ReceivedMsg)

def msgIds : Except String (Option ReceivedMsg) → List MsgId
  | .ok (some received) => received.msgIds
  | _ => []

def generatedPrefix : String := "GEN_"

def editedPrefix : String := "✏️"

/-- `part.msg.strip_prefix(EDITED_PREFIX).unwrap_or(&part.msg)` -/
def editedText (msg : String) : String :=
  if Text.startsWith msg editedPrefix then
    String.ofList (msg.toList.drop editedPrefix.toList.length)
  else msg

def deletionList (rfc724MidList : String) : List String :=
  (Text.splitWhitespace rfc724MidList).map trimMid

def Mail.rfc724MidOrig (x : Mail) (m : MimeMessage) : String := m.getRfc724Mid.getD x.rfc724Mid

section
variable (pick : Pick) (dev : Device)

/-! ## edits and deletions -/

def deleteRequested (fromId : ContactId) (t : Msgs) (rfc724Mid : String) : Msgs :=
  match rfc724MidExists pick t rfc724Mid with
  | none =>
    -- so that the message will be ignored if it arrives later
    insertTombstone t rfc724Mid
  | some msgId =>
    match loadFromDbOptional t msgId with
    | none => t
    | some msg => if msg.fromId ≠ fromId then t else trash t msgId

def handleEdit (m : MimeMessage) (fromId : ContactId) (t : Msgs) (rfc724Mid : String) : Msgs :=
  match rfc724MidExists pick t rfc724Mid with
  | none => t
  | some originalMsgId =>
    match loadFromDbOptional t originalMsgId with
    | none => t
    | some originalMsg =>
      if originalMsg.fromId ≠ fromId then t
      else
        match m.parts.head? with
        | none => t
        | some part =>
          let editMsgShowpadlock := (part.param.getBool .guaranteeE2ee).getD false
          if !editMsgShowpadlock && originalMsg.getShowpadlock then t
          else saveTextEditToDb t originalMsgId originalMsg (editedText part.msg)

def handleEditDelete (m : MimeMessage) (fromId : ContactId) (t : Msgs) : Msgs :=
  match m.getHeader .chatEdit with
  | some rfc724Mid => handleEdit pick m fromId t rfc724Mid
  | none =>
    match m.getHeader .chatDelete, m.parts.head? with
    | some rfc724MidList, some part =>
      if part.param.getBool .guaranteeE2ee ≠ some true then t
      else (deletionList rfc724MidList).foldl (deleteRequested pick fromId) t
    | _, _ => t

def handlePostMessage (m : MimeMessage) (fromId : ContactId) (t : Msgs) : Except String Msgs :=
  if m.preMessage ≠ .post then .ok t
  else
    match m.getRfc724Mid with
    | none => .error "expected Post-Message to have a message id"
    | some rfc724Mid =>
      match rfc724MidExists pick t rfc724Mid with
      | none => .ok t
      | some msgId =>
        match loadFromDbOptional t msgId, m.parts.head? with
        | some originalMsg, some part =>
          let postMsgShowpadlock := (part.param.getBool .guaranteeE2ee).getD false
          if fromId ≠ originalMsg.fromId then .ok t
          else if !postMsgShowpadlock && originalMsg.getShowpadlock then .ok t
          else if !part.typ.hasFile then .ok t
          else
            let newParams := ((originalMsg.param.mergeInParams part.param).remove
              .postMessageFileBytes).remove .postMessageViewtype
            .ok (t.update msgId fun r =>
              { r with param := newParams, typ := part.typ, downloadState := .done })
        | _, _ => .ok t

/-! ## rows of a message -/

def partParam (x : Mail) (m : MimeMessage) (part : Part) : Params :=
  let param := match x.overrideSenderDisplayname with
    | some name => part.param.set .overrideSenderDisplayname name
    | none => part.param
  let param := if m.isSystemMessage ≠ .unknown then
      param.set .cmd (toString m.isSystemMessage.toNat) else param
  let param := match x.addedRemovedId with
    | some contactId => param.set .contactAddedRemoved (toString contactId)
    | none => param
  match m.preMessage with
  | .pre _ (some metadata) => metadata.apply param
  | _ => param

def partRow (x : Mail) (m : MimeMessage) (fromId : ContactId) (chatId : ChatId) (part : Part)
    (msg : String) (typ : Viewtype) (isTrash : Bool) : MsgRow where
  rfc724Mid := match m.preMessage with
    | .pre postMsgRfc724Mid _ => postMsgRfc724Mid
    | _ => x.rfc724MidOrig m
  preRfc724Mid := match m.preMessage with
    | .pre _ _ => x.rfc724MidOrig m
    | _ => ""
  chatId := if isTrash then chatIdTrash else chatId
  fromId := if isTrash then ContactId.undefined else fromId
  typ := if isTrash then .unknown else
    match m.preMessage with
    | .pre _ _ => .text
    | _ => typ
  txt := if isTrash || part.isReaction then "" else msg
  param := if isTrash then Params.new else partParam x m part
  hidden := !isTrash && part.isReaction
  downloadState := if isTrash then .done
    else if m.decryptionError.isSome then .undecipherable
    else
      match m.preMessage with
      | .pre _ _ => .available
      | _ => .done

/-- the loop over the parts; `saveMimeModified` is carried from part to part, but only the last one
shows the full message -/
def partRows (x : Mail) (m : MimeMessage) (fromId : ContactId) (chatId : ChatId)
    (saveMimeModified : Bool) : List Part → List MsgRow
  | [] => []
  | part :: parts =>
    let (msg, typ) := match x.betterMsg with
      | some betterMsg => (betterMsg, Viewtype.text)
      | none => (part.msg, part.typ)
    let partIsEmpty := decide (typ = .text) && msg == "" && (part.param.get .quote).isNone
    let saveMimeModified :=
      saveMimeModified || (m.isMimeModified && !partIsEmpty && !part.isReaction)
    let isTrash := decide (chatId = chatIdTrash) ||
      (m.locationKml.isSome && partIsEmpty && !(saveMimeModified && parts.isEmpty))
    partRow x m fromId chatId part msg typ isTrash
      :: partRows x m fromId chatId saveMimeModified parts

/-- an address for realtime data of an app that is not there ends `add_parts` -/
def irohInstanceMissing (m : MimeMessage) (t : Msgs) : Bool :=
  (m.getHeader .irohNodeAddr).isSome &&
    (m.getHeader .inReplyTo).any fun inReplyTo => (rfc724MidExists pick t inReplyTo).isNone

def addParts (x : Mail) (m : MimeMessage) (fromId : ContactId) (chatId : ChatId) (t : Msgs) :
    Received :=
  let chatId := if x.betterMsg = some "" then chatIdTrash else chatId
  if irohInstanceMissing pick m t then (t, .ok (some ⟨chatId, []⟩))
  else
    let t := handleEditDelete pick m fromId t
    match handlePostMessage pick m fromId t with
    | .error e => (t, .error e)
    | .ok t =>
      let (t, ids) := insertRows t (partRows x m fromId chatId false m.parts)
      (t, .ok (some ⟨chatId, ids⟩))

/-! ## the way in -/

def isControl (m : MimeMessage) : Bool :=
  if !m.mdnReports.isEmpty then true
  else if m.deliveryReport.isSome then true
  else if (m.getHeader .chatEdit).isSome || (m.getHeader .chatDelete).isSome ||
      (m.getHeader .irohNodeAddr).isSome || m.syncItems.isSome then true
  else if m.isSystemMessage = .callAccepted || m.isSystemMessage = .callEnded then true
  else if m.decryptionError.isSome && !m.incoming then true
  else if (m.getHeader .xMozillaDraftInfo).isSome then true
  else
    match m.preMessage with
    | .pre _ _ => false
    | _ =>
      match m.webxdcStatusUpdate, m.parts with
      | some _, [part] => decide (part.typ = .text) && part.msg == ""
      | _, _ => false

/-- `should_trash` of `decide_chat_assignment`; a pre-message with its post-message there is noted in
its row -/
def decideTrash (rfc724Mid : String) (m : MimeMessage) (t : Msgs) : Msgs × Bool :=
  match m.preMessage with
  | .post => (t, isControl m || msgIsDownloadedFor pick t rfc724Mid)
  | .pre postMsgRfc724Mid _ =>
    match rfc724MidExistsEx pick t postMsgRfc724Mid fun r => r.downloadState ≠ .done with
    | some (msgId, notDownloaded) =>
      (t.update msgId fun r => { r with preRfc724Mid := rfc724Mid }, isControl m || !notDownloaded)
    | none => (t, isControl m)
  | .none => (t, isControl m)

inductive Verdict where
  /-- a tombstone is all that is left of the message -/
  | trash
  | ignore
  | accept (m : MimeMessage) (fromId : ContactId)

def precheck (t : Msgs) (x : Mail) : Verdict :=
  match x.mime with
  | none => if Text.startsWith x.rfc724Mid generatedPrefix then .ignore else .trash
  | some m =>
    if !m.wasEncrypted && (m.getHeader .secureJoin).isNone && dev.forceEncryption then .trash
    else if m.signature.any fun (_, recipientFps) => !recipientFps.isEmpty &&
        dev.selfFingerprint.any fun self => !recipientFps.contains self then .trash
    -- an outgoing message is ignored, too; only its sending jobs are dropped
    else if m.preMessage ≠ .post ∧ (rfc724MidExists pick t (x.rfc724MidOrig m)).isSome then .ignore
    else
      match x.fromId with
      | none => .ignore
      | some fromId => .accept m fromId

def receiveTombstone (t : Msgs) (rfc724Mid : String) : Received :=
  (insertTombstone t rfc724Mid, .ok (some ⟨chatIdTrash, [t.seq + 1]⟩))

def receiveImf (t : Msgs) (x : Mail) : Received :=
  match precheck pick dev t x with
  | .trash => receiveTombstone t x.rfc724Mid
  | .ignore => (t, .ok none)
  | .accept m fromId =>
    let (t, shouldTrash) := decideTrash pick x.rfc724Mid m t
    match x.handshake with
    | .error e => (t, .error e)
    | .ok .done => receiveTombstone t x.rfc724Mid
    | .ok .ignore => receiveTombstone t x.rfc724Mid
    | .ok .propagate =>
      addParts pick x m fromId (if shouldTrash then chatIdTrash else x.chatId) t

end

end EpsilonChat.Receive
