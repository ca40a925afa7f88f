import EpsilonChat.Mime.Message

/-!
# The header passes of `MimeMessage::from_bytes`

What `from_bytes` does with the headers of the message and of its decrypted part:

* `mergeHeaders`: the headers of one part are added; those that are protected, or all of them if the
  part announces header protection, are thrown away before;
* `outerHeaders`: the passes over the message as it arrived;
* `innerHeaders`: the passes over the decrypted part;
* `removeSecuredHeaders`: what an unsigned message may not carry.

The parser `mailparse` and the lowercasing of the standard library are functions of their input
(`Mailparse`).  The set `headers_removed`, which only the tests read, is left out.
-/

namespace EpsilonChat.Mime
open Text

structure MailHeader where
  key : String
  value : String
  deriving DecidableEq, Repr

inductive MailAddr where
  | single (info : SingleInfo)
  | group (addrs : List SingleInfo)

/-- the functions of the libraries; `addrparseHeader` is `none` for an error -/
structure Mailparse where
  toLowercase : String → String
  addrparseHeader : MailHeader → Option (List MailAddr)

/-- a parsed part: `hp` says if the content type has the parameter of that name, `mimetype` is the
type and subtype (`none` if they cannot be parsed), `firstSubpart` has the headers of the first
subpart -/
structure ParsedMail where
  headers : List MailHeader
  hp : Bool := false
  mimetype : Option (String × String) := some ("text", "plain")
  firstSubpart : Option (List MailHeader) := none

/-! ## addresses -/

section
variable (P : Mailparse)

def MailAddr.infos : MailAddr → List SingleInfo
  | single info => [info]
  | group addrs => addrs

def extractSingleInfo : List MailAddr → Option SingleInfo
  | [.single info] => some info
  | _ => none

def getAllAddressesFromHeader (headers : List MailHeader) (header : String) : List SingleInfo :=
  match headers.reverse.find? fun h => P.toLowercase h.key == header with
  | none => []
  | some h =>
    match P.addrparseHeader h with
    | none => []
    | some addrs => (addrs.flatMap MailAddr.infos).map fun info =>
        { info with addr := P.toLowercase (addrNormalize P.toLowercase info.addr) }

def getRecipients (headers : List MailHeader) : List SingleInfo :=
  getAllAddressesFromHeader P headers "to" ++ getAllAddressesFromHeader P headers "cc"

def getPastMembers (headers : List MailHeader) : List SingleInfo :=
  getAllAddressesFromHeader P headers "chat-group-past-members"

def singleValue {α : Type} : List α → Option α
  | [value] => some value
  | _ => none

def getFrom (headers : List MailHeader) : Option SingleInfo :=
  singleValue (getAllAddressesFromHeader P headers "from")

def getListPost (headers : List MailHeader) : Option String :=
  (getAllAddressesFromHeader P headers "list-post").head?.map SingleInfo.addr

def isProtected (key : String) : Bool :=
  startsWith key "chat-" ||
    ["return-path", "auto-submitted", "autocrypt-setup-message", "date", "from", "sender",
      "reply-to", "to", "cc", "bcc", "message-id", "in-reply-to", "references",
      "secure-join"].contains key

def isHidden (key : String) : Bool :=
  ["chat-user-avatar", "chat-group-avatar", "chat-delete", "chat-edit"].contains key

/-! ## `merge_headers` -/

structure HeaderState where
  headers : Headers := fun _ => none
  recipients : List SingleInfo := []
  pastMembers : List SingleInfo := []
  from_ : Option SingleInfo := none
  listPost : Option String := none
  chatDispositionNotificationTo : Option SingleInfo := none

/-- `headers.extract_if(p)`, and what remains -/
def dropHeaders (headers : Headers) (p : String → Bool) : Headers := fun k =>
  if p k then none else headers k

def mergeField (s : HeaderState) (field : MailHeader) : HeaderState :=
  let key := P.toLowercase field.key
  if key = HeaderDef.chatDispositionNotificationTo.getHeadername then
    match P.addrparseHeader field with
    | some addrlist => { s with chatDispositionNotificationTo := extractSingleInfo addrlist }
    | none => s
  else { s with headers := Function.update s.headers key (some field.value) }

def mergeHeaders (s : HeaderState) (part : ParsedMail) : HeaderState :=
  let s := { s with headers := dropHeaders s.headers fun k => part.hp || isProtected k }
  let s := part.headers.foldl (mergeField P) s
  let recipients := getRecipients P part.headers
  let pastMembers := getPastMembers P part.headers
  { s with
    recipients := if recipients.isEmpty then s.recipients else recipients
    pastMembers := if pastMembers.isEmpty then s.pastMembers else pastMembers
    from_ := (getFrom P part.headers).or s.from_
    listPost := (getListPost P part.headers).or s.listPost }

/-! ## the passes -/

def removeHeader (headers : Headers) (key : String) : Headers := Function.update headers key none

def removeSecuredHeaders (headers : Headers) (encrypted : Bool) : Headers :=
  let headers := removeHeader headers "secure-join-fingerprint"
  let headers := removeHeader headers "chat-verified"
  let headers := removeHeader headers "autocrypt-gossip"
  if headers "secure-join" = some "vc-request-pubkey" ∧ encrypted then headers
  else
    let headers := removeHeader headers "secure-join-auth"
    match headers "secure-join" with
    | none => headers
    | some secureJoin =>
      if secureJoin = "vc-request" ∨ secureJoin = "vg-request" then headers
      else removeHeader headers "secure-join"

def addHiddenHeaders (headers : Headers) (fields : List MailHeader) : Headers :=
  fields.foldl (fun headers field =>
    let key := P.toLowercase field.key
    if ((headers key).isNone && isHidden key) || key = "message-id" then
      Function.update headers key (some field.value)
    else headers) headers

def restoreMicrosoftMessageId (headers : Headers) : Headers :=
  let key := HeaderDef.xMicrosoftOriginalMessageId.getHeadername
  match headers key with
  | some id =>
    Function.update (removeHeader headers key) HeaderDef.messageId.getHeadername (some id)
  | none => headers

inductive HeaderError where
  | badMimetype
  | noFrom
  | forgedFrom
  deriving DecidableEq, Repr

def outerHeaders (mail : ParsedMail) : Except HeaderError (HeaderState × SingleInfo) :=
  let s := mergeHeaders P {} mail
  let headers := dropHeaders s.headers isHidden
  match mail.mimetype with
  | none => .error .badMimetype
  | some mimetype =>
    let headers :=
      match mail.firstSubpart with
      | some fields =>
        if mimetype = ("multipart", "mixed") then addHiddenHeaders P headers fields else headers
      | none => headers
    let headers := removeSecuredHeaders (restoreMicrosoftMessageId headers) false
    match s.from_ with
    | none => .error .noFrom
    | some from_ => .ok ({ s with headers }, from_)

def innerHeaders (s : HeaderState) (from_ : SingleInfo) (mail : ParsedMail) (signed : Bool) :
    Except HeaderError HeaderState :=
  let headers :=
    if signed then removeHeader (removeHeader s.headers "subject") "list-id" else s.headers
  -- the signature was checked for the outer address, which is not replaced by another one
  let s := mergeHeaders P { s with headers, from_ := none } mail
  let s := if signed then s else { s with headers := removeSecuredHeaders s.headers true }
  match s.from_ with
  | none => .ok { s with from_ := some from_ }
  | some innerFrom =>
    if addrCmp P.toLowercase innerFrom.addr from_.addr then .ok s else .error .forgedFrom

/-- the headers of a message; `decrypted` is its decrypted part, if it is encrypted -/
def fromBytesHeaders (mail : ParsedMail) (decrypted : Option ParsedMail) (signed : Bool) :
    Except HeaderError HeaderState :=
  (outerHeaders P mail).bind fun (s, from_) =>
    match decrypted with
    | some part => innerHeaders P s from_ part signed
    | none =>
      .ok { s with headers := removeSecuredHeaders s.headers false, from_ := some from_ }

end

end EpsilonChat.Mime
