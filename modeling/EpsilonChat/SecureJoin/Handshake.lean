import EpsilonChat.SecureJoin.State

/-!
# The Secure-Join protocol

The inviter is called Alice and the joiner Bob.

* `startProtocol`: Bob scans an invite; if he knows Alice's key he marks her as verified at once,
  otherwise the invite goes to `bobstate`;
* `handleSecurejoinHandshake`: one message of either side; Alice marks Bob as verified and adds him
  to the group on a `request-with-auth`, Bob marks Alice when she answers with her key
  (`handleAuthRequiredOrPubkey`);
* `observeSecurejoinOnOtherDevice`: messages that another device of the account sent;
* `Event`, `step`: these three, and contacts that are added on the way, in any order.
-/

namespace EpsilonChat.SecureJoin
open Lib Verify Members Settings

inductive SecureJoinStep where
  | request (invitenumber : String)
  | authRequired
  | requestPubkey
  | pubkey
  | requestWithAuth
  | contactConfirm
  | memberAdded
  | deprecated
  | unknown (step : String)
  deriving DecidableEq, Repr

def getSecureJoinStep (m : MimeMessage) : Option SecureJoinStep :=
  match m.getHeader .secureJoinInvitenumber with
  | some invitenumber => some (.request invitenumber)
  | none =>
    (m.getHeader .secureJoin).map fun step =>
      if step = "vc-request-pubkey" then .requestPubkey
      else if step = "vc-pubkey" then .pubkey
      else if step = "vg-auth-required" ∨ step = "vc-auth-required" then .authRequired
      else if step = "vg-request-with-auth" ∨ step = "vc-request-with-auth" then .requestWithAuth
      else if step = "vc-contact-confirm" then .contactConfirm
      else if step = "vg-member-added" then .memberAdded
      else if step = "vg-member-added-received" ∨ step = "vc-contact-confirm-received" then
        .deprecated
      else .unknown step

def encryptedAndSigned (m : MimeMessage) (expectedFingerprint : Fingerprint) : Bool :=
  match m.signature with
  | some (signature, _) => signature == expectedFingerprint
  | none => false

def verificationTimeoutSeconds : ℤ := 7 * 24 * 3600

/-- `a + n` on `i64`, which wraps around -/
def i64Add (a : I64) (n : ℤ) : ℤ := (a.val + n).bmod (2 ^ 64)

section
variable (acc : Account) (ctx : Ctx)

/-! ## Bob -/

inductive BobHandshakeMsg where
  | request
  | requestWithAuth
  deriving DecidableEq, Repr

def sendHandshakeMessage (invite : QrInvite) (chatId : ChatId) (step : BobHandshakeMsg) :
    Prog Unit :=
  if invite.isV3 ∧ step = .request then call ctx .render else call ctx (.sendMsg chatId)

def privateChatId (invite : QrInvite) : Prog ChatId := createForContact invite.contactId

def joiningChatId (invite : QrInvite) (aliceChatId : ChatId) : Prog ChatId := do
  let s ← Eff.get
  match invite.target with
  | .contact => pure aliceChatId
  | .group _ grpid =>
    match getChatIdByGrpid s grpid with
    | some chatId => pure chatId
    | none => createMultiuserRecord .group grpid
  | .broadcast _ grpid =>
    match getChatIdByGrpid s grpid with
    | some chatId => pure chatId
    | none => createMultiuserRecord .inBroadcast grpid

def joinedChatId (s : State) (invite : QrInvite) : Option ChatId :=
  match invite.target with
  | .contact => none
  | .group _ grpid | .broadcast _ grpid =>
    (getChatIdByGrpid s grpid).filter fun chatId => isMember s.members chatId ContactId.self

def keyContainsAllInviteAddrs (invite : QrInvite) : Bool :=
  match ctx.publicKeys invite.fingerprint with
  | some (some addrsInKey) => invite.addrs.all addrsInKey.contains
  | _ => false

def finishStart (invite : QrInvite) (privateChatId : ChatId) : Prog ChatId :=
  match invite.target with
  | .group _ _ => do
    let chatId ← joiningChatId invite privateChatId
    call ctx (.addInfoMsg chatId)
    pure chatId
  | .broadcast _ _ => do
    let chatId ← joiningChatId invite privateChatId
    addMember ctx chatId invite.contactId
    let s ← Eff.get
    if isMember s.members chatId ContactId.self then pure chatId
    else do
      call ctx (.addInfoMsg chatId)
      pure chatId
  | .contact =>
    if keyContainsAllInviteAddrs ctx invite then pure privateChatId
    else do
      call ctx (.addInfoMsg privateChatId)
      pure privateChatId

def takeShortcut (invite : QrInvite) : Prog Bool :=
  if keyContainsAllInviteAddrs ctx invite then
    verifySenderByFingerprint acc invite.fingerprint invite.contactId
  else pure false

def sendFirst (invite : QrInvite) (chatId : ChatId) (shortcut : Bool) : Prog Unit :=
  if shortcut then sendHandshakeMessage ctx invite chatId .requestWithAuth
  else do
    sendHandshakeMessage ctx invite chatId .request
    Eff.modify fun s => { s with bobstate := s.bobstate.insert invite }

/-- "SELECT public_key": a key that does not parse ends the protocol -/
def loadPublicKey (invite : QrInvite) : Prog Unit :=
  if (ctx.publicKeys invite.fingerprint).isSome then call ctx .publicKey else pure ()

def startProtocol (invite : QrInvite) : Prog ChatId := do
  let chatId ← privateChatId invite
  loadPublicKey ctx invite
  let s ← Eff.get
  match joinedChatId s invite with
  | some joiningChatId => pure joiningChatId
  | none => do
    let shortcut ← takeShortcut acc ctx invite
    sendFirst ctx invite chatId shortcut
    finishStart ctx invite chatId

/-- "Alice replied, waiting to be added to the group…" -/
def announceReply (invite : QrInvite) (chatId : ChatId) : Prog Unit :=
  match invite.target with
  | .group _ _ => do
    let chatId ← joiningChatId invite chatId
    call ctx (.addInfoMsg chatId)
  | _ => pure ()

/-- the loop of `bob::handle_auth_required_or_pubkey` over the rows of `bobstate`; gives whether
there was a row for the message -/
def answerInvites (m : MimeMessage) : List (Nat × QrInvite) → Bool → Prog Bool
  | [], authSent => pure authSent
  | (rowId, invite) :: rows, authSent =>
    if !encryptedAndSigned m invite.fingerprint then answerInvites m rows authSent
    else do
      let isVerified ← verifySenderByFingerprint acc invite.fingerprint invite.contactId
      if !isVerified then answerInvites m rows authSent
      else do
        let chatId ← privateChatId invite
        sendHandshakeMessage ctx invite chatId .requestWithAuth
        Eff.modify fun s => { s with bobstate := s.bobstate.delete rowId }
        announceReply ctx invite chatId
        answerInvites m rows true

/-- `SELECT id, invite FROM bobstate` -/
def bobStates (s : State) : List (Nat × QrInvite) :=
  (s.bobstate.ids fun _ => true).filterMap fun id => (s.bobstate.row id).map fun row => (id, row)

def handleAuthRequiredOrPubkey (m : MimeMessage) : Prog HandshakeMessage := do
  let s ← Eff.get
  let authSent ← answerInvites acc ctx m (bobStates s) false
  pure (if authSent then .done else .ignore)

/-! ## Alice -/

def sendAliceHandshakeMsg (contactId : ContactId) : Prog Unit := do
  let chatId ← getForContact contactId
  call ctx (.sendMsg chatId)

def handleRequest (m : MimeMessage) (invitenumber : String) : Prog HandshakeMessage :=
  if (findToken ctx.tokens .inviteNumber invitenumber).isNone then pure .ignore
  else do
    call ctx .contactAddress
    let autocryptContactId ← addOrLookup ctx.autocryptContactId m.from_.addr
      (m.autocryptFingerprint.getD "")
    sendAliceHandshakeMsg ctx autocryptContactId
    pure .done

def handleRequestPubkey (m : MimeMessage) : Prog HandshakeMessage :=
  match m.getHeader .secureJoinAuth with
  | none => pure .ignore
  | some auth =>
    if (findToken ctx.tokens .auth auth).isNone then pure .ignore
    else if ctx.isAddrBlocked then pure .ignore
    else do
      call ctx .contactAddress
      call ctx .render
      pure .done

/-- a token that is too old does not verify -/
def verifyByToken (token : Token) (contactId : ContactId) : Prog Unit :=
  if ctx.now.val < i64Add token.timestamp verificationTimeoutSeconds then markVerified contactId
  else pure ()

def acceptAuth (token : Token) (joiningChatId : Option ChatId) (senderContact : ContactRow)
    (contactId : ContactId) : Prog HandshakeMessage := do
  verifyByToken ctx token contactId
  if senderContact.blocked then pure .ignore
  else
    match joiningChatId with
    | some chatId => do
      let _ ← addContactToChatEx acc ctx chatId contactId
      pure .done
    | none => do
      let _ ← createForContact contactId
      let _ ← getForContact contactId
      sendAliceHandshakeMsg ctx contactId
      pure .ignore

def tokenChatId (s : State) (token : Token) : Option ChatId :=
  if token.foreignKey = "" then none else getChatIdByGrpid s token.foreignKey

def handleRequestWithAuth (m : MimeMessage) (contactId : ContactId) : Prog HandshakeMessage := do
  let s ← Eff.get
  match m.getHeader .secureJoinFingerprint with
  | none => pure .ignore
  | some fp =>
    match Fingerprint.parse acc.toUppercase fp with
    | none => Eff.fail .badFingerprint
    | some fingerprint =>
      if !encryptedAndSigned m fingerprint then pure .ignore
      else
        match (m.getHeader .secureJoinAuth).bind (findToken ctx.tokens .auth) with
        | none => pure .ignore
        | some token =>
          if token.foreignKey ≠ "" ∧ tokenChatId s token = none then pure .ignore
          else
            match s.contacts.row contactId with
            | none => Eff.fail (.noContact contactId)
            | some senderContact =>
              if fingerprintOf acc senderContact ≠ some fingerprint then pure .ignore
              else acceptAuth acc ctx token (tokenChatId s token) senderContact contactId

/-! ## both -/

/-- a message that does not gossip the own key may have been meant for somebody else -/
def gossipsSelf (m : MimeMessage) : Bool :=
  m.gossipedKeys.any fun key => key.2.fingerprint == acc.selfFingerprint

def handleStep (m : MimeMessage) (contactId : ContactId) : SecureJoinStep → Prog HandshakeMessage
  | .request invitenumber => handleRequest ctx m invitenumber
  | .authRequired => handleAuthRequiredOrPubkey acc ctx m
  | .requestPubkey => handleRequestPubkey ctx m
  | .pubkey => handleAuthRequiredOrPubkey acc ctx m
  | .requestWithAuth => handleRequestWithAuth acc ctx m contactId
  | .contactConfirm => pure .ignore
  | .memberAdded => pure .propagate
  | .deprecated => pure .done
  | .unknown _ => pure .ignore

def SecureJoinStep.isUnverified : SecureJoinStep → Bool
  | .request _ | .requestPubkey | .pubkey => true
  | _ => false

def handleSecurejoinHandshake (m : MimeMessage) (contactId : ContactId) : Prog HandshakeMessage :=
  if contactId.isSpecial then Eff.fail .specialContact
  else
    match getSecureJoinStep m with
    | none => Eff.fail .notSecureJoin
    | some step =>
      if step.isUnverified then handleStep acc ctx m contactId step
      else do
        call ctx .loadSelfPublicKey
        if !gossipsSelf acc m then pure .ignore else handleStep acc ctx m contactId step

def SecureJoinStep.isObserved : SecureJoinStep → Bool
  | .requestWithAuth | .memberAdded | .contactConfirm => true
  | _ => false

def observeSecurejoinOnOtherDevice (m : MimeMessage) (contactId : ContactId) :
    Prog HandshakeMessage :=
  if contactId.isSpecial then Eff.fail .specialContact
  else
    match getSecureJoinStep m with
    | none => Eff.fail .notSecureJoin
    | some step =>
      if !step.isObserved then pure .ignore
      else if !encryptedAndSigned m acc.selfFingerprint then pure .ignore
      else do
        let s ← Eff.get
        match s.contacts.row contactId with
        | none => Eff.fail (.noContact contactId)
        | some contact =>
          match m.gossipedKeys.lookup (acc.toLowercase contact.addr) with
          | none => pure .ignore
          | some key =>
            if fingerprintOf acc contact ≠ some key.fingerprint then pure .ignore
            else do
              markVerified contactId
              if contact.blocked && step ≠ .memberAdded then pure .ignore
              else if step = .memberAdded then pure .propagate
              else pure .ignore

inductive Event where
  /-- `Contact::add_or_lookup_ex`, for a scanned invite or the sender of a message -/
  | contact (id : ContactId) (addr fingerprint : String)
  | scan (ctx : Ctx) (invite : QrInvite)
  | handle (ctx : Ctx) (m : MimeMessage) (contactId : ContactId)
  | observe (ctx : Ctx) (m : MimeMessage) (contactId : ContactId)

def step (s : State) : Event → State
  | .contact id addr fingerprint => (addOrLookup id addr fingerprint s).1
  | .scan ctx invite => (startProtocol acc ctx invite s).1
  | .handle ctx m contactId => (handleSecurejoinHandshake acc ctx m contactId s).1
  | .observe _ m contactId => (observeSecurejoinOnOtherDevice acc m contactId s).1

def run (s : State) (events : List Event) : State := events.foldl (step acc) s

end

end EpsilonChat.SecureJoin
