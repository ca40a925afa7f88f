import EpsilonChat.Lib.Eff
import EpsilonChat.Mime.Headers
import EpsilonChat.Mime.TextPart

/-!
# File parts

`do_add_single_file_part` decides what becomes of an attachment: a key is imported, location data,
sync messages and status updates are kept elsewhere, and anything else becomes a part with a file.
An image stays an image if it is not too big.

* `Env`: the libraries and the database;
* `Part`, `Parser`: what is parsed so far;
* `classify`: where an attachment goes, and the type of its part;
* `doAddSingleFilePart_parts`: one part is added, or none;
* **`image_kept_iff`**: the number of pixels is computed in `u32`: the limit is checked IFF the
  image is within it or its number of pixels is still too big modulo `2^32`.
-/

namespace EpsilonChat.Parts
open Lib Text Mime

abbrev Bytes := List UInt8

/-- a MIME type, as the library parses it; the suffix is what stands behind the `+` -/
structure MimeType where
  type_ : String
  subtype : String
  suffix : Option String := none
  deriving DecidableEq, Repr

/-- the libraries, the files and the settings; `none` stands for an error -/
structure Env where
  toLowercase : String → String
  parseMime : String → Option MimeType
  chrono : Vcard.Chrono
  reader : String → List Dehtml.Event
  fromUtf8 : Bytes → Option String
  fromUtf8Lossy : Bytes → String
  /-- the file is a ZIP archive with an `index.html` -/
  hasIndexHtml : Bytes → Bool
  /-- `try_set_peer_key_from_file_part` -/
  trySetPeerKey : Bytes → Bool
  parseKml : Bytes → Option String
  parseSyncItems : String → Option String
  getFilemeta : Bytes → Option (UInt32 × UInt32)
  /-- the name of the file that holds these data; it depends on the original name's suffix -/
  createBlob : Bytes → String → Option String
  parseHeaders : Bytes → Option (List MailHeader × ℕ)
  /-- `Path::extension` -/
  extension : String → Option String
  syncMsgs : Option Bool
  bot : Option Bool
  parse_lowercase : ∀ x y m m', parseMime x = some m → parseMime y = some m' →
    toLowercase x = toLowercase y → m = m'

structure Part where
  typ : Viewtype := .unknown
  mimetype : Option MimeType := none
  msg : String := ""
  msgRaw : Option String := none
  bytes : ℕ := 0
  param : Params := Params.new
  orgFilename : Option String := none
  dehtmlFailed : Bool := false
  isRelated : Bool := false
  isReaction : Bool := false

structure Report where
  originalMessageId : Option String
  additionalMessageIds : List String

structure DeliveryReport where
  rfc724Mid : String
  failure : Bool

/-- the fields of `MimeMessage` that the parser of the parts reads and writes -/
structure Parser where
  hasChatVersion : Bool := false
  wasEncrypted : Bool := false
  parts : List Part := []
  isMimeModified : Bool := false
  isForwarded : Bool := false
  footer : Option String := none
  locationKml : Option String := none
  messageKml : Option String := none
  syncItems : Option String := none
  webxdcStatusUpdate : Option String := none
  mdnReports : List Report := []
  deliveryReport : Option DeliveryReport := none

inductive PartError where
  | mimeType
  | body
  /-- "could not determine attachment filename" -/
  | filename
  | config
  | headers
  /-- "failed to parse mail" -/
  | mail
  /-- "Report does not have second MIME part" -/
  | noSecondPart
  deriving DecidableEq, Repr

abbrev Prog := Eff Parser PartError

def orError {α : Type} (e : PartError) : Option α → Except PartError α
  | some a => .ok a
  | none => .error e

def orFail {α : Type} (e : PartError) (o : Option α) : Prog α := Eff.ofExcept (orError e o)

def marked (s : Parser) (part : Part) : Part :=
  if s.wasEncrypted then { part with param := part.param.set .guaranteeE2ee "1" } else part

def doAddSinglePart (part : Part) : Prog Unit :=
  Eff.modify fun s => { s with parts := s.parts ++ [marked s part] }

/-! ## where a file goes -/

def maxRcvdImagePixels : UInt32 := 50000000

def endsWith (s pat : String) : Bool := pat.toList.isSuffixOf s.toList

/-- an image of known size, not too big, keeps its type -/
def imagePart (msgType : Viewtype) : Option (UInt32 × UInt32) → Viewtype × Params
  | some (width, height) =>
    if width * height ≤ maxRcvdImagePixels then
      (msgType, (Params.new.set .width (toString width.toNat)).set .height (toString height.toNat))
    else (.file, Params.new)
  | none => (.file, Params.new)

inductive Classified where
  /-- a part of that type -/
  | stored (typ : Viewtype) (param : Params)
  /-- no part; the data are kept elsewhere -/
  | taken (update : Parser → Parser)
  | failed

section
variable (env : Env)

def isWebxdcFile (filename : String) (data : Bytes) : Bool :=
  endsWith filename ".xdc" && env.hasIndexHtml data

def getVcardSummary (vcard : Bytes) : Option String :=
  match (env.fromUtf8 vcard).map (Vcard.parseVcard env.chrono) with
  | some [c] => if mayBeValidAddr c.addr then some c.displayName else none
  | _ => none

def classify (msgType : Viewtype) (data : Bytes) (filename : String) : Classified :=
  if isWebxdcFile env filename data then .stored .webxdc Params.new
  else if endsWith filename ".kml" then
    if startsWith filename "location" then
      .taken fun s => { s with locationKml := env.parseKml data }
    else if startsWith filename "message" then
      .taken fun s => { s with messageKml := env.parseKml data }
    else .stored msgType Params.new
  else if filename = "multi-device-sync.json" then
    match env.syncMsgs with
    | none => .failed
    | some false => .taken id
    | some true => .taken fun s => { s with syncItems := env.parseSyncItems (env.fromUtf8Lossy data) }
  else if filename = "status-update.json" then
    .taken fun s => { s with webxdcStatusUpdate := some (env.fromUtf8Lossy data) }
  else if msgType = .vcard then
    match getVcardSummary env data with
    | some summary => .stored msgType (Params.new.set .summary1 summary)
    | none => .stored .file Params.new
  else if msgType = .image ∨ msgType = .gif ∨ msgType = .sticker then
    .stored (imagePart msgType (env.getFilemeta data)).1 (imagePart msgType (env.getFilemeta data)).2
  else .stored msgType Params.new

def importsKey (mimeType : MimeType) (data : Bytes) : Bool :=
  mimeType.type_ == "application" && mimeType.subtype == "pgp-keys" && env.trySetPeerKey data

def filePart (typ : Viewtype) (param : Params) (mimeType : MimeType) (rawMime : String)
    (data : Bytes) (filename blob : String) (isRelated : Bool) : Part where
  typ
  orgFilename := some filename
  mimetype := some mimeType
  bytes := data.length
  param := ((param.set .file blob).set .filename filename).set .mimeType rawMime
  isRelated

def doAddSingleFilePart (msgType : Viewtype) (mimeType : MimeType) (rawMime : String)
    (data : Bytes) (filename : String) (isRelated : Bool) : Prog Unit :=
  if importsKey env mimeType data then pure ()
  else
    match classify env msgType data filename with
    | .failed => Eff.fail .config
    | .taken update => Eff.modify update
    | .stored typ param =>
      match env.createBlob data filename with
      | none => pure ()
      | some blob =>
        doAddSinglePart (filePart typ param mimeType rawMime data filename blob isRelated)

end

/-! ## what is added -/

/-- the names of data that are kept elsewhere -/
def isKeptElsewhere (filename : String) : Bool :=
  if endsWith filename ".kml" then startsWith filename "location" || startsWith filename "message"
  else filename = "multi-device-sync.json" || filename = "status-update.json"

/-- the data are no key, their name is none of those, and they can be written -/
def isStored (env : Env) (mimeType : MimeType) (data : Bytes) (filename : String) : Bool :=
  !importsKey env mimeType data && (isWebxdcFile env filename data || !isKeptElsewhere filename) &&
    (env.createBlob data filename).isSome

theorem classify_spec (env : Env) (msgType : Viewtype) (data : Bytes) (filename : String) :
    match classify env msgType data filename with
    | .stored _ _ => (isWebxdcFile env filename data || !isKeptElsewhere filename) = true
    | .taken update => (isWebxdcFile env filename data || !isKeptElsewhere filename) = false ∧
        ∀ s, (update s).parts = s.parts
    | .failed => (isWebxdcFile env filename data || !isKeptElsewhere filename) = false := by
  unfold classify isKeptElsewhere
  by_cases hsync : filename = "multi-device-sync.json"
  · rcases env.syncMsgs with _ | _ | _ <;> split_ifs <;> simp_all
  · by_cases hvcard : msgType = .vcard
    · cases getVcardSummary env data <;> split_ifs <;> simp_all
    · split_ifs <;> simp_all

theorem doAddSingleFilePart_parts (env : Env) (msgType : Viewtype) (mimeType : MimeType)
    (rawMime : String) (data : Bytes) (filename : String) (isRelated : Bool) (s : Parser) :
    let s' := (doAddSingleFilePart env msgType mimeType rawMime data filename isRelated s).1
    if isStored env mimeType data filename then
      ∃ typ param blob, env.createBlob data filename = some blob ∧ s'.parts =
        s.parts ++ [marked s (filePart typ param mimeType rawMime data filename blob isRelated)]
    else s'.parts = s.parts := by
  have hspec := classify_spec env msgType data filename
  unfold doAddSingleFilePart isStored
  cases importsKey env mimeType data with
  | true => rfl
  | false =>
    cases hclass : classify env msgType data filename with
    | failed =>
      rw [hclass] at hspec
      rw [hspec]
      rfl
    | taken update =>
      rw [hclass] at hspec
      rw [hspec.1]
      exact hspec.2 s
    | stored typ param =>
      rw [hclass] at hspec
      rw [hspec]
      cases hblob : env.createBlob data filename with
      | none => rfl
      | some blob => exact ⟨typ, param, blob, rfl, rfl⟩

/-! ## the size of images -/

def isPlainFile (env : Env) (mimeType : MimeType) (data : Bytes) (filename : String) : Bool :=
  !importsKey env mimeType data && !isWebxdcFile env filename data && !endsWith filename ".kml" &&
    filename != "multi-device-sync.json" && filename != "status-update.json"

section
variable {env : Env} {msgType : Viewtype} {mimeType : MimeType} {data : Bytes} {filename : String}

theorem classify_image (himage : msgType = .image ∨ msgType = .gif ∨ msgType = .sticker)
    (hfile : isPlainFile env mimeType data filename) :
    classify env msgType data filename =
      .stored (imagePart msgType (env.getFilemeta data)).1
        (imagePart msgType (env.getFilemeta data)).2 := by
  have hvcard : msgType ≠ .vcard := by
    rcases himage with rfl | rfl | rfl <;> decide
  simp only [isPlainFile, Bool.and_eq_true, Bool.not_eq_true', bne_iff_ne] at hfile
  obtain ⟨⟨⟨⟨-, hxdc⟩, hkml⟩, hsync⟩, hstatus⟩ := hfile
  unfold classify
  rw [hxdc, hkml, if_neg (by decide), if_neg (by decide), if_neg hsync, if_neg hstatus,
    if_neg hvcard, if_pos himage]

theorem doAddSingleFilePart_image (himage : msgType = .image ∨ msgType = .gif ∨ msgType = .sticker)
    (hfile : isPlainFile env mimeType data filename) {blob : String}
    (hblob : env.createBlob data filename = some blob) (rawMime : String) (isRelated : Bool)
    (s : Parser) :
    ∃ part, (doAddSingleFilePart env msgType mimeType rawMime data filename isRelated s).1.parts =
      s.parts ++ [part] ∧ part.typ = (imagePart msgType (env.getFilemeta data)).1 := by
  have hkey : importsKey env mimeType data = false := by
    simp only [isPlainFile, Bool.and_eq_true, Bool.not_eq_true'] at hfile
    exact hfile.1.1.1.1
  unfold doAddSingleFilePart
  rw [hkey, if_neg (by decide), classify_image himage hfile]
  dsimp only
  rw [hblob]
  refine ⟨_, rfl, ?_⟩
  unfold marked
  split <;> rfl

theorem imagePart_typ (himage : msgType = .image ∨ msgType = .gif ∨ msgType = .sticker)
    (width height : UInt32) : (imagePart msgType (some (width, height))).1 = msgType ↔
      width.toNat * height.toNat % 2 ^ 32 ≤ 50000000 := by
  have hfile : Viewtype.file ≠ msgType := by
    rcases himage with rfl | rfl | rfl <;> decide
  have hmul : width * height ≤ maxRcvdImagePixels ↔
      width.toNat * height.toNat % 2 ^ 32 ≤ 50000000 := by
    rw [UInt32.le_iff_toNat_le, UInt32.toNat_mul]
    rfl
  unfold imagePart
  dsimp only
  rw [← hmul]
  split
  · next h => exact iff_of_true rfl h
  · next h => exact iff_of_false hfile h

end

def keptAs (s s' : Parser) (msgType : Viewtype) : Prop :=
  ∃ part, s'.parts = s.parts ++ [part] ∧ part.typ = msgType

/-- **An image stays an image exactly if its number of pixels is within the limit, IFF that number is
within it, or is beyond it also modulo `2^32`.** -/
theorem image_kept_iff (env : Env) (s : Parser) (msgType : Viewtype) (mimeType : MimeType)
    (rawMime : String) (data : Bytes) (filename : String) (isRelated : Bool) (blob : String)
    (width height : UInt32) (himage : msgType = .image ∨ msgType = .gif ∨ msgType = .sticker)
    (hfile : isPlainFile env mimeType data filename)
    (hblob : env.createBlob data filename = some blob)
    (hsize : env.getFilemeta data = some (width, height)) :
    (keptAs s (doAddSingleFilePart env msgType mimeType rawMime data filename isRelated s).1 msgType ↔
        width.toNat * height.toNat ≤ 50000000) ↔
      width.toNat * height.toNat ≤ 50000000 ∨
        50000000 < width.toNat * height.toNat % 2 ^ 32 := by
  have hkept : keptAs s (doAddSingleFilePart env msgType mimeType rawMime data filename isRelated s).1
      msgType ↔ width.toNat * height.toNat % 2 ^ 32 ≤ 50000000 := by
    obtain ⟨part, hparts, htyp⟩ := doAddSingleFilePart_image himage hfile hblob rawMime isRelated s
    rw [hsize] at htyp
    rw [← imagePart_typ himage]
    constructor
    · rintro ⟨part', hparts', htyp'⟩
      obtain rfl : part = part' := by
        rw [hparts] at hparts'
        exact List.singleton_inj.mp (List.append_cancel_left hparts')
      exact htyp.symm.trans htyp'
    · intro h
      exact ⟨part, hparts, htyp.trans h⟩
  rw [hkept]
  omega

/-! ## images of `65536 × 65536` and `100 × 100` -/

def pngSignature : Bytes :=
  [0x89, 0x50, 0x4E, 0x47, 0x0D, 0x0A, 0x1A, 0x0A, 0, 0, 0, 13, 0x49, 0x48, 0x44, 0x52]

/-- the beginning of a PNG file of grey pixels: the header with its checksum, and the chunk behind it -/
def pngFile (width height crc : Bytes) : Bytes :=
  pngSignature ++ width ++ height ++ [8, 0, 0, 0, 0] ++ crc ++ [0, 0, 0, 10, 0x49, 0x44, 0x41, 0x54]

def u32FromBigEndian (bytes : Bytes) : UInt32 :=
  (bytes.take 4).foldl (fun n b => n * 256 + b.toUInt32) 0

/-- the libraries on ASCII text, and on PNG files; there are no archives, keys or KML files -/
def plainEnv : Env where
  toLowercase s := String.ofList (s.toList.map Char.toLower)
  parseMime s :=
    match (s.toList.map Char.toLower).splitOn '/' with
    | [type_, subtype] => some { type_ := String.ofList type_, subtype := String.ofList subtype }
    | _ => none
  chrono := Vcard.utc
  reader _ := []
  fromUtf8 data := if data.all (· < 128) then
    some (String.ofList (data.map fun b => Char.ofNat b.toNat)) else none
  fromUtf8Lossy data := String.ofList (data.map fun b => if b < 128 then Char.ofNat b.toNat else '\uFFFD')
  hasIndexHtml _ := false
  trySetPeerKey _ := false
  parseKml _ := none
  parseSyncItems _ := none
  getFilemeta data :=
    if data.take 16 = pngSignature ∧ 24 ≤ data.length then
      some (u32FromBigEndian (data.drop 16), u32FromBigEndian (data.drop 20))
    else none
  createBlob _ filename := some ("$BLOBDIR/ce940175885d7b78f7b7e9f1396611f." ++
    String.ofList (filename.toList.rtakeWhile (· ≠ '.')))
  parseHeaders _ := none
  extension filename := some (String.ofList (filename.toList.rtakeWhile (· ≠ '.')))
  syncMsgs := some true
  bot := some false
  parse_lowercase := by
    intro x y m m' hx hy hxy
    rw [String.ofList_injective hxy] at hx
    exact Option.some.inj (hx.symm.trans hy)

def png : MimeType := { type_ := "image", subtype := "png" }

/-- The image has `2^32` pixels, and it is shown. -/
theorem huge_image_kept :
    keptAs {} (doAddSingleFilePart plainEnv .image png "image/png"
      (pngFile [0, 1, 0, 0] [0, 1, 0, 0] [0x49, 0xEF, 0x6F, 0x3F]) "a.png" false {}).1 .image ∧
    plainEnv.getFilemeta (pngFile [0, 1, 0, 0] [0, 1, 0, 0] [0x49, 0xEF, 0x6F, 0x3F]) =
      some (65536, 65536) ∧
    ¬ (65536 : UInt32).toNat * (65536 : UInt32).toNat ≤ 50000000 :=
  ⟨⟨_, rfl, by decide +kernel⟩, by decide +kernel, by decide⟩

theorem image_kept_iff_small :
    (keptAs {} (doAddSingleFilePart plainEnv .image png "image/png"
        (pngFile [0, 0, 0, 100] [0, 0, 0, 100] [0x55, 0x89, 0xCA, 0x88]) "a.png" false {}).1 .image ↔
        (100 : UInt32).toNat * (100 : UInt32).toNat ≤ 50000000) ↔
      (100 : UInt32).toNat * (100 : UInt32).toNat ≤ 50000000 ∨
        50000000 < (100 : UInt32).toNat * (100 : UInt32).toNat % 2 ^ 32 :=
  image_kept_iff plainEnv {} .image png "image/png" _ "a.png" false _ 100 100 (.inl rfl)
    (by decide +kernel) rfl (by decide +kernel)

end EpsilonChat.Parts
