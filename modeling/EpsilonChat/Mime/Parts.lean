import EpsilonChat.Mime.FilePart

/-!
# The parts of a MIME tree

`parse_mime_recursive` walks over the tree that the mail library parsed and adds a part to the
message for each text and each file that it wants.  A multipart chooses among its children by its
subtype: one of the alternatives, the signed part, the parts of a report, or all of them.

* `Mail`: the tree; an embedded message has a tree of its own;
* `addSinglePartIfKnown`: one node;
* `handleMultiple`: a multipart, with its children and their parsers;
* `parseMimeRecursive`: the recursion.

Two branches store something else than the node they look at: a calendar is stored with the content of
its PARENT, and the second part of a sync message or status update is stored whole even if it is a
multipart.
-/

namespace EpsilonChat.Parts
open Lib Text Mime

/-! ## the tree -/

inductive Disposition where
  | inline
  | attachment
  | formData
  | extension (name : String)
  deriving DecidableEq, Repr

structure Info where
  mimetype : String
  params : List (String × String) := []
  disposition : Disposition := .inline
  dispositionParams : List (String × String) := []
  headers : List MailHeader := []
  /-- `get_body_raw` -/
  body : Option Bytes := some []
  /-- `get_body` -/
  text : Option String := some ""

/-- `embedded` is what `parse_mail` makes of the body -/
inductive Mail where
  | mk (info : Info) (subparts : List Mail) (embedded : Option Mail)

def Mail.info : Mail → Info
  | .mk info _ _ => info

def lookup (params : List (String × String)) (key : String) : Option String :=
  (params.find? fun p => p.1 == key).map Prod.snd

/-! ## one node -/

def isAttachmentDisposition (mail : Info) : Bool :=
  mail.disposition == .attachment && mail.dispositionParams.any fun p => startsWith p.1 "filename"

def getAttachmentFilename (mail : Info) : Option (Option String) :=
  let desired := (lookup mail.dispositionParams "filename").or
    ((lookup mail.dispositionParams "filename*").or
      ((lookup mail.dispositionParams "name").or (lookup mail.params "name")))
  let desired :=
    if desired.isNone && mail.disposition == .attachment then
      match (mail.mimetype.toList.splitOn '/')[1]? with
      | some subtype => some (some ("file." ++ String.ofList subtype))
      | none => none
    else some desired
  desired.map fun filename => filename.map sanitizeBidiCharacters

def viewtypeOfSuffix (suffix : String) : Option Viewtype :=
  if suffix ∈ ["3gp", "avi", "mov", "mp4", "wmv"] then some .video
  else if suffix ∈ ["aac", "flac", "m4a", "mp3", "oga", "ogg", "wav"] then some .audio
  else if suffix ∈ ["jpeg", "jpe", "jpg", "png", "webp"] then some .image
  else if suffix = "gif" then some .gif
  else if suffix ∈ ["vcard", "vcf"] then some .vcard
  else if suffix = "xdc" then some .webxdc
  else if suffix ∈ ["avif", "doc", "docx", "epub", "heic", "heif", "html", "htm", "ico", "jar",
      "json", "odp", "ods", "odt", "ogv", "opus", "otf", "pdf", "ppt", "pptx", "rar", "rtf", "spx",
      "svg", "tgs", "tiff", "tif", "ttf", "txt", "weba", "webm", "xhtml", "xls", "xlsx", "xml",
      "zip"] then some .file
  else none

section
variable (env : Env)

/-- `guess_msgtype_from_path_suffix`, without the MIME type -/
def guessMsgtypeFromPathSuffix (path : String) : Option Viewtype :=
  (env.extension path).bind fun suffix => viewtypeOfSuffix (env.toLowercase suffix)

def viewtypeOf (mail : Info) (mimetype : MimeType) (filename : Option String) (isChatMsg : Bool) :
    Viewtype :=
  match mimetype.type_ with
  | "text" =>
    if mimetype.subtype = "vcard" then .vcard
    else if (mimetype.subtype = "plain" ∨ mimetype.subtype = "html") ∧
        ¬ isAttachmentDisposition mail then .text
    else .file
  | "image" =>
    if mimetype.subtype = "gif" then .gif else if mimetype.subtype = "svg" then .file else .image
  | "audio" => .audio
  | "video" => .video
  | "multipart" => .unknown
  | "message" => if isAttachmentDisposition mail then .file else .unknown
  | "application" =>
    match filename with
    | some filename =>
      if mimetype.subtype = "octet-stream" ∧ ¬ isChatMsg then
        (guessMsgtypeFromPathSuffix env filename).getD .file
      else .file
    | none => .file
  | _ => .unknown

def getMimeType (mail : Info) (filename : Option String) (isChatMsg : Bool) :
    Option (MimeType × Viewtype) :=
  (env.parseMime mail.mimetype).map fun mimetype =>
    (mimetype, viewtypeOf env mail mimetype filename isChatMsg)

def textPlain : MimeType := { type_ := "text", subtype := "plain" }
def textHtml : MimeType := { type_ := "text", subtype := "html" }

def subtypeOf (mimeType : MimeType) : TextPart.TextSubtype :=
  if mimeType = textPlain then .plain
  else if mimeType.type_ = "text" ∧ mimeType.subtype = "plain" then .plainWithSuffix
  else if mimeType = textHtml then .html
  else .other

def textMail (mail : Info) (mimeType : MimeType) (body : String) : TextPart.TextMail where
  subtype := subtypeOf mimeType
  format := lookup mail.params "format"
  delsp := lookup mail.params "delsp"
  hpLegacyDisplay := lookup mail.params "hp-legacy-display"
  body

def shownPart (mimeType : MimeType) (body : String) (shown : TextPart.Shown) : Part where
  typ := .text
  mimetype := some mimeType
  msg := shown.text
  msgRaw := some body
  dehtmlFailed := shown.dehtmlFailed
  param :=
    match shown.quote with
    | some quote => Params.new.set .quote quote
    | none => Params.new

def addShownPart (mimeType : MimeType) (body : String) (shown : TextPart.Shown) : Prog Unit :=
  if shown.added then doAddSinglePart (shownPart mimeType body shown) else pure ()

/-- the text branch of `add_single_part_if_known` -/
def addTextPart (mail : Info) (mimeType : MimeType) (body : String) : Prog Unit := do
  let s ← Eff.get
  let bot ← orFail .config env.bot
  let shown := TextPart.textPart env.toLowercase env.reader s.hasChatVersion bot
    (textMail mail mimeType body)
  Eff.modify fun s => { s with isMimeModified := s.isMimeModified || shown.mimeModified }
  addShownPart mimeType body shown
  Eff.modify fun s => { s with
    isForwarded := s.isForwarded || shown.isForwarded
    footer := s.footer.or shown.footer }

def addNamedPart (mail : Info) (isRelated : Bool) (mimeType : MimeType) (msgType : Viewtype)
    (filename : String) : Prog Unit := do
  let data ← orFail .body mail.body
  doAddSingleFilePart env msgType mimeType (env.toLowercase mail.mimetype) data filename isRelated

def addUnnamedPart (mail : Info) (mimeType : MimeType) : Prog Unit :=
  if mimeType.type_ = "text" ∧ mail.disposition = .extension "reaction" then
    match mail.text with
    | some body =>
      doAddSinglePart { typ := .text, mimetype := some mimeType, msg := body, isReaction := true }
    | none => pure ()
  else if mimeType.type_ = "text" ∨ mimeType.type_ = "html" then
    match mail.text with
    | some body => addTextPart env mail mimeType body
    | none => pure ()
  else pure ()

def addSinglePartIfKnown (mail : Info) (isRelated : Bool) : Prog Bool := do
  let filename ← orFail .filename (getAttachmentFilename mail)
  let s ← Eff.get
  let (mimeType, msgType) ← orFail .mimeType (getMimeType env mail filename s.hasChatVersion)
  match filename with
  | some filename => addNamedPart env mail isRelated mimeType msgType filename
  | none => addUnnamedPart env mail mimeType
  let s' ← Eff.get
  pure (s.parts.length < s'.parts.length)

/-! ## reports -/

def getHeaderValue (headers : List MailHeader) (name : String) : Option String :=
  (headers.find? fun h => TextPart.eqIgnoreAsciiCase h.key name).map MailHeader.value

def parseMessageId (ids : String) : Option String := (parseMessageIds ids).head?

def processReport (report : Info) (subparts : List Info) : Except PartError (Option Report) := do
  let second ← orError .noSecondPart subparts[1]?
  let body ← orError .body second.body
  let (fields, _) ← orError .headers (env.parseHeaders body)
  if (getHeaderValue fields "disposition").isNone then pure none
  else
    let originalMessageId := ((getHeaderValue fields "original-message-id").or
      (getHeaderValue report.headers "in-reply-to")).bind parseMessageId
    let additionalMessageIds := match getHeaderValue fields "additional-message-ids" with
      | none => []
      | some v => (v.toList.splitOn ' ').filterMap fun s => parseMessageId (String.ofList s)
    pure (some { originalMessageId, additionalMessageIds })

def contains (s pat : String) : Bool := s.toList.tails.any fun t => pat.toList.isPrefixOf t

/-- failure is assumed unless there is another action; `found` if there are fields at all -/
def deliveryFailed (body : Bytes) (found : Bool) : Except PartError Bool := do
  if found then
    let (fields, _) ← orError .headers (env.parseHeaders body)
    pure ((getHeaderValue fields "action").all (· == "failed"))
  else pure true

def processDeliveryStatus (subparts : List Info) : Except PartError (Option DeliveryReport) := do
  match subparts[1]? with
  | none => pure none
  | some status =>
    if status.mimetype ≠ "message/delivery-status" ∧
        status.mimetype ≠ "message/global-delivery-status" then pure none
    else
      let body ← orError .body status.body
      let (_, size) ← orError .headers (env.parseHeaders body)
      let failure ← deliveryFailed env (body.drop size) (size ≤ body.length)
      match subparts[2]?.filter fun p => contains p.mimetype "rfc822" ||
          p.mimetype == "message/global" || p.mimetype == "message/global-headers" with
      | none => pure none
      | some original =>
        let body ← orError .body original.body
        let (fields, _) ← orError .headers (env.parseHeaders body)
        pure (((getHeaderValue fields "message-id").bind parseMessageId).map fun rfc724Mid =>
          { rfc724Mid, failure })

/-! ## multiparts -/

structure Child where
  info : Info
  parse : Bool → Prog Bool

inductive Branch where
  | alternative
  | signed
  | dispositionNotification
  | deliveryStatus
  /-- `multi-device-sync` and `status-update` -/
  | secondPart
  | all
  | nothing
  deriving DecidableEq, Repr

def branch (mimetype : MimeType) (mail : Info) (subparts : ℕ) : Branch :=
  if mimetype.type_ ≠ "multipart" then .all
  else
    match mimetype.subtype with
    | "alternative" => .alternative
    | "signed" => .signed
    | "report" =>
      if 2 ≤ subparts then
        match lookup mail.params "report-type" with
        | some "disposition-notification" => .dispositionNotification
        | some "delivery-status" => .deliveryStatus
        -- some providers forget to set the report-type
        | none => .deliveryStatus
        | some "multi-device-sync" => .secondPart
        | some "status-update" => .secondPart
        | some _ => .all
      else .nothing
    | _ => .all

section
variable (isRelated : Bool)

def addAll : List Child → Prog Bool
  | [] => pure false
  | child :: children => do
    let added ← child.parse isRelated
    let anyAdded ← addAll children
    pure (added || anyAdded)

def addPreferred : List Child → Prog Bool
  | [] => pure false
  | child :: children => do
    let filename ← orFail .filename (getAttachmentFilename child.info)
    let s ← Eff.get
    let (mimeType, _) ← orFail .mimeType (getMimeType env child.info filename s.hasChatVersion)
    if mimeType = textPlain ∨ mimeType.type_ = "multipart" then child.parse isRelated
    else addPreferred children

def isCalendar (mimetype : MimeType) : Bool :=
  mimetype.type_ == "text" && mimetype.subtype == "calendar"

/-- a calendar becomes an attachment; `mail` is the multipart -/
def addCalendar (mail child : Info) : Prog Unit := do
  let mimetype ← orFail .mimeType (env.parseMime child.mimetype)
  if isCalendar mimetype then
    let filename ← orFail .filename (getAttachmentFilename child)
    let data ← orFail .body mail.body
    doAddSingleFilePart env .file mimetype (env.toLowercase mail.mimetype) data
      (filename.getD "calendar.ics") isRelated
  else pure ()

def addCalendars (mail : Info) : List Child → Prog Unit
  | [] => pure ()
  | child :: children => do
    addCalendar env isRelated mail child.info
    addCalendars mail children

def addFirst : List Child → Prog Bool
  | [] => pure false
  | child :: children => do
    if ← child.parse isRelated then pure true else addFirst children

def addFallback (anyPartAdded : Bool) (children : List Child) : Prog Bool :=
  if anyPartAdded then pure true else addFirst isRelated children

def addAlternative (mail : Info) (subparts : List Child) : Prog Bool := do
  let preferred ← addPreferred env isRelated subparts.reverse
  addCalendars env isRelated mail subparts.reverse
  let anyPartAdded ← addFallback isRelated preferred subparts.reverse
  -- other alternatives are not shown
  Eff.modify fun s => { s with
    isMimeModified := s.isMimeModified || (anyPartAdded && 1 < subparts.length) }
  pure anyPartAdded

def handleMultiple (mail : Info) (subparts : List Child) : Prog Bool := do
  let filename ← orFail .filename (getAttachmentFilename mail)
  let s ← Eff.get
  let (mimetype, _) ← orFail .mimeType (getMimeType env mail filename s.hasChatVersion)
  match branch mimetype mail subparts.length with
  | .alternative => addAlternative env isRelated mail subparts
  | .signed =>
    match subparts with
    | [] => pure false
    | first :: _ => first.parse isRelated
  | .dispositionNotification =>
    let report ← Eff.ofExcept (processReport env mail (subparts.map Child.info))
    Eff.modify fun s => { s with
      mdnReports := s.mdnReports ++ report.toList
      -- without the mark of an encrypted message
      parts := s.parts ++ [{ typ := .unknown }] }
    pure true
  | .deliveryStatus =>
    let report ← Eff.ofExcept (processDeliveryStatus env (subparts.map Child.info))
    Eff.modify fun s => { s with deliveryReport := report.or s.deliveryReport }
    addAll isRelated subparts
  | .secondPart =>
    match subparts[1]? with
    | none => pure false
    | some second =>
      let _ ← addSinglePartIfKnown env second.info isRelated
      pure false
  | .all => addAll isRelated subparts
  | .nothing => pure false

end

/-! ## the recursion -/

inductive MimeS where
  | multiple
  | single
  | message
  deriving DecidableEq, Repr

def mimeS (mail : Info) : MimeS :=
  let mimetype := env.toLowercase mail.mimetype
  if startsWith mimetype "multipart" then
    if (lookup mail.params "boundary").isSome then .multiple else .single
  else if mimetype = "message/rfc822" ∧ ¬ isAttachmentDisposition mail then .message
  else .single

mutual
def parseMimeRecursive : Mail → Bool → Prog Bool
  | .mk mail subparts embedded, isRelated =>
    let isRelated := isRelated || env.toLowercase mail.mimetype == "multipart/related"
    match mimeS env mail with
    | .multiple => handleMultiple env isRelated mail (parsers subparts)
    | .message => do
      let raw ← orFail .body mail.body
      if raw.isEmpty then pure false else parseEmbedded embedded isRelated
    | .single => addSinglePartIfKnown env mail isRelated
def parsers : List Mail → List Child
  | [] => []
  | mail :: mails =>
    { info := mail.info, parse := fun isRelated => parseMimeRecursive mail isRelated } ::
      parsers mails
def parseEmbedded : Option Mail → Bool → Prog Bool
  | none, _ => Eff.fail .mail
  | some mail, isRelated => parseMimeRecursive mail isRelated
end

end

end EpsilonChat.Parts
