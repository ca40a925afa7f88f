import EpsilonChat.Qr.Login

/-!
# Scanned codes

`check_qr` looks at how a scanned text starts and hands it to the decoder of that scheme.  Some
schemes are recognised in ANY letter case, and each decoder removes the scheme in its own way:

* `OPENPGP4FPR:`, `DCACCOUNT:`: by length (`get(len..)`);
* `DCLOGIN:`: by length, next to a url parser that gets the whole text;
* `DCBACKUP`: by `strip_prefix`, so in capitals ONLY.

`checkQr_spelling` says which decoder gets which text, for every spelling of the scheme and every
payload.

* `checkQr_invite`: on invites this is the `checkQr` of `SecureJoin.Link`;
* **`checkQr_formatBackup`**: a backup is read as it was written;
* **`spelling_iff`**: two spellings of a scheme give the same for every payload, except that a
  backup needs its scheme in capitals.
-/

namespace EpsilonChat.Scan
open Lib.Split Lib.Percent
open SecureJoin.Link (Scanner percentDecodeStr decodeOpenpgp decodeIdeltachat normalizeAddress params
  linkScheme noslashScheme openpgp4fprScheme)

/-- a scanned code; `NodeAddr` is the one of iroh -/
inductive Qr (NodeAddr : Type) where
  /-- the outcomes of `decode_openpgp` -/
  | invite (qr : SecureJoin.Link.Qr)
  | account (domain : String)
  | backup2 (nodeAddr : NodeAddr) (authToken : String)
  | backupTooNew
  | proxy (url host : String) (port : ℕ)
  | addr (contactId : ContactId) (draft : Option String)
  | url (url : String)
  | text (text : String)
  | login (address : String) (options : LoginOptions)
  deriving DecidableEq, Repr

inductive Error where
  | invite (e : SecureJoin.Link.QrError)
  | login (e : LoginError)
  /-- "Invalid DCACCOUNT payload" -/
  | accountPayload
  /-- "dcaccount payload is empty" -/
  | accountEmpty
  /-- "Invalid account URL" -/
  | accountUrl
  /-- "can't extract account setup domain" -/
  | accountDomain
  /-- "Bad scheme for account URL: {:?}." -/
  | accountScheme (scheme : String)
  /-- "Hostname in dcaccount URL cannot start with /" -/
  | accountSlash
  /-- "Invalid t.me/socks url" -/
  | socksUrl
  /-- "Bad t.me/socks url: {url:?}" -/
  | socksHost
  /-- the error of `ServerConfig::from_url` -/
  | shadowsocks
  /-- "Invalid DCBACKUP scheme" -/
  | backupScheme
  /-- "DCBACKUP scheme separator missing" -/
  | backupColon
  /-- "Not a valid number" -/
  | backupVersion
  /-- "Backup QR code has no separator" -/
  | backupSeparator
  /-- "Invalid node addr in backup QR code" -/
  | backupNodeAddr
  /-- "Invalid mailto: scheme" -/
  | mailtoScheme
  /-- "Invalid SMTP scheme" -/
  | smtpScheme
  /-- "Invalid SMTP scheme payload" -/
  | smtpPayload
  /-- "Invalid MATMSG found" -/
  | matmsg
  /-- "Bad e-mail address" of a vCard without one -/
  | vcardAddr
  /-- "URL has no host" -/
  | urlHost
  /-- the error of the second `Url::parse` -/
  | urlParse
  /-- "HTTP(S) URLs are guaranteed to return Some port" -/
  | urlPort
  deriving DecidableEq, Repr

structure Env (NodeAddr : Type) where
  scanner : Scanner
  /-- `url::Url::parse` -/
  parseUrl : List Char → Option Url
  /-- `serde_json::from_str::<NodeAddr>` -/
  nodeAddr : List Char → Option NodeAddr
  /-- host and port of `ServerConfig::from_url` -/
  serverConfig : List Char → Option (String × ℕ)

def orError {α : Type} (e : Error) : Option α → Except Error α
  | none => .error e
  | some a => .ok a

theorem some_of_orError {α : Type} {e : Error} {o : Option α} {a : α} (h : orError e o = .ok a) :
    o = some a := by
  cases o <;> cases h
  rfl

section
variable {N : Type} (env : Env N)

/-! ## the decoders -/

def dcaccountScheme : List Char := "DCACCOUNT:".toList

def decodeAccount (qr : List Char) : Except Error (Qr N) := do
  let payload ← orError .accountPayload (getFrom dcaccountScheme.length qr)
  let payload := if ['/', '/'] <+: payload then payload.drop 2 else payload
  if payload = [] then .error .accountEmpty
  else if "https://".toList <+: payload then do
    let url ← orError .accountUrl (env.parseUrl payload)
    if url.scheme = "https" then
      return .account (← orError .accountDomain url.hostStr)
    else .error (.accountScheme url.scheme)
  else if ['/'] <+: payload then .error .accountSlash
  else return .account (String.ofList payload)

def defaultSocksPort : ℕ := 1080

/-- `percent_encode(.., NON_ALPHANUMERIC)` -/
def encodeNonAlphanumeric (s : String) : String :=
  String.ofList (percentEncode
    (fun b => decide (b.toNat < 128) && (Char.ofNat b.toNat).isAlphanum) (utf8 s.toList))

def decodeTgSocksProxy (qr : List Char) : Except Error (Qr N) := do
  let url ← orError .socksUrl (env.parseUrl qr)
  let param := parameterMap url.queryPairs
  let port := match param "port" with
    | none => defaultSocksPort
    | some value => (parseUnsigned (2 ^ 16) value).getD defaultSocksPort
  let host ← orError .socksHost (param "server")
  let login := match param "pass" with
    | none => ""
    | some pass => encodeNonAlphanumeric ((param "user").getD "") ++ ":" ++
        encodeNonAlphanumeric pass ++ "@"
  return .proxy ("socks5://" ++ login ++ host ++ ":" ++ toString port) host port

def decodeShadowsocksProxy (qr : List Char) : Except Error (Qr N) := do
  let addr ← orError .shadowsocks (env.serverConfig qr)
  return .proxy (String.ofList qr) addr.1 addr.2

/-- the JSON that one version of iroh wrote is put back into the form of the others -/
def fixAddSecondDeviceQr (qr : List Char) : List Char :=
  replaceFirst "\"]\x7d\x7d".toList "\"]\x7d".toList
    (replaceFirst ",\"info\":\x7b\"relay_url\":".toList ",\"relay_url\":".toList qr)

def dcbackupSchemePrefix : List Char := "DCBACKUP".toList

def dcbackupVersion : ℤ := 5

def parseI32 (s : List Char) : Option ℤ :=
  let n : Option ℤ := match s with
    | '-' :: cs => (I64.parseDigits cs).map fun n => -(n : ℤ)
    | '+' :: cs => (I64.parseDigits cs).map fun n => (n : ℤ)
    | cs => (I64.parseDigits cs).map fun n => (n : ℤ)
  n.filter fun n => decide (-2 ^ 31 ≤ n ∧ n < 2 ^ 31)

def decodeBackupPayload (versionAndPayload : List Char) : Except Error (Qr N) := do
  let parts ← orError .backupColon (splitOnce ':' versionAndPayload)
  let version ← orError .backupVersion (parseI32 parts.1)
  if version > dcbackupVersion then return .backupTooNew
  else do
    let payload ← orError .backupSeparator (splitOnce '&' parts.2)
    let nodeAddr ← orError .backupNodeAddr (env.nodeAddr payload.2)
    return .backup2 nodeAddr (String.ofList payload.1)

def decodeBackup2 (qr : List Char) : Except Error (Qr N) :=
  if dcbackupSchemePrefix <+: qr then
    decodeBackupPayload env (qr.drop dcbackupSchemePrefix.length)
  else .error .backupScheme

def fromAddress (name addr : String) (draft : Option String) : Except Error (Qr N) :=
  match Text.contactAddress env.scanner.toLowercase addr with
  | none => .error (.invite .invalidAddr)
  | some addr => .ok (.addr (env.scanner.addOrLookup name addr "") draft)

def normalized (addr : List Char) : Except Error String :=
  (normalizeAddress env.scanner addr).mapError .invite

def decodeMailto (qr : List Char) : Except Error (Qr N) := do
  let payload ← orError .mailtoScheme (getFrom "mailto:".toList.length qr)
  let parts := (splitOnce '?' payload).getD (payload, [])
  let param := params parts.2
  let subject := (param "subject".toList).getD []
  let draft := match param "body".toList with
    | none => subject
    | some body => if subject = [] then body else subject ++ '\n' :: body
  -- sometimes spaces are encoded as `+`
  let draft := replace ['+'] "%20".toList draft
  let draft := (percentDecodeStr draft).getD draft
  let addr ← normalized env parts.1
  fromAddress env "" addr (if draft = [] then none else some (String.ofList draft))

def decodeSmtp (qr : List Char) : Except Error (Qr N) := do
  let payload ← orError .smtpScheme (getFrom "SMTP:".toList.length qr)
  let parts ← orError .smtpPayload (splitOnce ':' payload)
  fromAddress env "" (← normalized env parts.1) none

def trimText (s : List Char) : List Char := Text.trimEnd (Text.trimStart s)

def decodeMatmsg (qr : List Char) : Except Error (Qr N) := do
  let parts ← orError .matmsg (splitOnceText "TO:".toList qr)
  let addr := trimText parts.2
  let addr := match splitOnce ';' addr with
    | none => addr
    | some parts => trimText parts.1
  fromAddress env "" (← normalized env addr) none

def lineStarts (qr : List Char) : List (List Char) :=
  qr :: (qr.tails.filterMap fun
    | '\n' :: rest => some rest
    | _ => none)

/-- `(?m)^N:([^;]*);([^;\n]*)`: last name and first name -/
def vcardName (qr : List Char) : Option (List Char × List Char) :=
  (lineStarts qr).findSome? fun
    | 'N' :: ':' :: rest => (splitOnce ';' rest).map fun parts =>
        (parts.1, parts.2.takeWhile fun c => c != ';' && c != '\n')
    | _ => none

/-- `(?m)^EMAIL([^:\n]*):([^;\n]*)`: the address -/
def vcardEmail (qr : List Char) : Option (List Char) :=
  (qr.splitOn '\n').findSome? fun
    | 'E' :: 'M' :: 'A' :: 'I' :: 'L' :: rest => (splitOnce ':' rest).map fun parts =>
        parts.2.takeWhile (· != ';')
    | _ => none

def decodeVcard (qr : List Char) : Except Error (Qr N) := do
  let name := match vcardName qr with
    | none => []
    | some names => trimText names.2 ++ ' ' :: trimText names.1
  let addr ← orError .vcardAddr (vcardEmail qr)
  fromAddress env (String.ofList name) (← normalized env (trimText addr)) none

def decodeUrl (qr : List Char) (url : Url) : Except Error (Qr N) :=
  if url.scheme = "socks5" then do
    return .proxy (String.ofList qr) (← orError .urlHost url.hostStr)
      (url.port.getD defaultSocksPort)
  else if url.scheme = "http" ∨ url.scheme = "https" then do
    -- the same with a scheme that has no special meaning
    let url ←
      if "http://".toList <+: qr then
        orError .urlParse (env.parseUrl ("foobarbaz://".toList ++ qr.drop "http://".toList.length))
      else if "https://".toList <+: qr then
        orError .urlParse (env.parseUrl ("foobarbaz://".toList ++ qr.drop "https://".toList.length))
      else .ok url
    if url.port.isNone ∨ url.path ≠ "" ∨ url.query.isSome then return .url (String.ofList qr)
    else
      return .proxy (String.ofList qr) (← orError .urlHost url.hostStr)
        (← orError .urlPort url.portOrKnownDefault)
  else .ok (.url (String.ofList qr))

/-! ## the dispatch -/

def startsWithIgnoreCase (qr : String) (pattern : List Char) : Bool :=
  Text.startsWith (env.scanner.toLowercase qr) (env.scanner.toLowercase (String.ofList pattern))

def tgSocksScheme : List Char := "https://t.me/socks".toList

def checkQr (qr : String) : Except Error (Qr N) :=
  let qr := Text.trim qr
  if startsWithIgnoreCase env qr openpgp4fprScheme then
    ((decodeOpenpgp env.scanner qr.toList).map .invite).mapError .invite
  else if linkScheme <+: qr.toList then
    ((decodeIdeltachat env.scanner linkScheme qr.toList).map .invite).mapError .invite
  else if noslashScheme <+: qr.toList then
    ((decodeIdeltachat env.scanner noslashScheme qr.toList).map .invite).mapError .invite
  else if startsWithIgnoreCase env qr dcaccountScheme then decodeAccount env qr.toList
  else if startsWithIgnoreCase env qr dcloginScheme then
    ((decodeLogin env.parseUrl qr.toList).map fun login => .login login.1 login.2).mapError .login
  else if startsWithIgnoreCase env qr tgSocksScheme then decodeTgSocksProxy env qr.toList
  else if "ss://".toList <+: qr.toList then decodeShadowsocksProxy env qr.toList
  else if startsWithIgnoreCase env qr dcbackupSchemePrefix then
    decodeBackup2 env (fixAddSecondDeviceQr qr.toList)
  else if "mailto:".toList <+: qr.toList then decodeMailto env qr.toList
  else if "SMTP:".toList <+: qr.toList then decodeSmtp env qr.toList
  else if "MATMSG:".toList <+: qr.toList then decodeMatmsg env qr.toList
  else if "BEGIN:VCARD".toList <+: qr.toList then decodeVcard env qr.toList
  else
    match env.parseUrl qr.toList with
    | some url => decodeUrl env qr.toList url
    | none => .ok (.text qr)

/-! ## spellings of a scheme -/

/-- what is used of `str::to_lowercase`: ASCII is mapped letter by letter, also before other text -/
structure AsciiPrefixLower (toLowercase : String → String) : Prop where
  whole : Text.AsciiLower toLowercase
  start : ∀ s t : List Char, (∀ c ∈ s, c.toNat < 128) →
    ∃ u, (toLowercase (String.ofList (s ++ t))).toList = s.map Char.toLower ++ u

/-- what is used of `Url::parse`: the letter case of the scheme does not matter -/
def SchemeCase (parseUrl : List Char → Option Url) : Prop :=
  ∀ s t rest : List Char, (∀ c ∈ s, c.isAlpha) → s.map Char.toLower = t.map Char.toLower →
    parseUrl (s ++ ':' :: rest) = parseUrl (t ++ ':' :: rest)

/-- `s` is `scheme` up to the case of ASCII letters -/
def Spells (scheme s : List Char) : Prop := s.map Char.toLower = scheme.map Char.toLower

instance (scheme s : List Char) : Decidable (Spells scheme s) := inferInstanceAs (Decidable (_ = _))

def isSchemeChar (c : Char) : Bool := c.isAlphanum || c == ':' || c == '/' || c == '.'

def differ (a b : List Char) : Bool :=
  !(a.map Char.toLower).isPrefixOf (b.map Char.toLower) &&
    !(b.map Char.toLower).isPrefixOf (a.map Char.toLower)

theorem isSchemeChar_of_toLower {c : Char} (h : isSchemeChar c.toLower = true) :
    isSchemeChar c = true := by
  by_cases hup : c.val ≥ 'A'.val ∧ c.val ≤ 'Z'.val
  · have hupper : c.isUpper = true := by simpa [Char.isUpper] using hup
    simp [isSchemeChar, Char.isAlphanum, Char.isAlpha, hupper]
  · have hsame : c.toLower = c := dif_neg hup
    rwa [hsame] at h

theorem isSchemeChar_spec {c : Char} (h : isSchemeChar c = true) :
    c.toNat < 128 ∧ Text.isWhitespace c = false ∧ c ≠ ',' ∧ c ≠ '"' := by
  have hascii : c.toNat < 128 := by
    simp only [isSchemeChar, Bool.or_eq_true, beq_iff_eq] at h
    rcases h with ((h | rfl) | rfl) | rfl
    · exact SecureJoin.Link.toNat_lt_of_isAlphanum h
    all_goals decide
  exact SecureJoin.Link.forall_ascii
    (p := fun c => isSchemeChar c = true →
      c.toNat < 128 ∧ Text.isWhitespace c = false ∧ c ≠ ',' ∧ c ≠ '"') (by decide) hascii h

def IsScheme (scheme : List Char) : Prop :=
  scheme ≠ [] ∧ (scheme.map Char.toLower).all isSchemeChar = true

instance (scheme : List Char) : Decidable (IsScheme scheme) := inferInstanceAs (Decidable (_ ∧ _))

section
variable {env} {scheme s : List Char}

theorem Spells.length_eq (h : Spells scheme s) : s.length = scheme.length := by
  have hlen := congrArg List.length h
  rwa [List.length_map, List.length_map] at hlen

theorem Spells.ne_nil (h : Spells scheme s) (hscheme : IsScheme scheme) : s ≠ [] := by
  rintro rfl
  exact hscheme.1 (List.map_eq_nil_iff.mp h.symm)

theorem Spells.all (h : Spells scheme s) (hscheme : IsScheme scheme) :
    ∀ c ∈ s, isSchemeChar c = true := by
  intro c hc
  refine isSchemeChar_of_toLower (List.all_eq_true.mp hscheme.2 _ ?_)
  rw [← show s.map Char.toLower = scheme.map Char.toLower from h]
  exact List.mem_map_of_mem hc

theorem trim_append (h : Spells scheme s) (hscheme : IsScheme scheme) (p : List Char) :
    Text.trim (String.ofList (s ++ p)) = String.ofList (s ++ Text.trimEnd p) := by
  have hs : Text.Trimmed s :=
    Text.trimmed_of_forall fun c hc => (isSchemeChar_spec (h.all hscheme c hc)).2.1
  have hstart : Text.trimStart (s ++ p) = s ++ p := by
    apply Text.trimStart_eq_self
    rw [List.head?_append_of_ne_nil _ (h.ne_nil hscheme)]
    exact hs.head
  rw [Text.trim, String.toList_ofList, hstart, Text.trimEnd_append (Text.trimEnd_eq_self hs.last)]

theorem differ_spec {a b l : List Char} (h : differ a b = true)
    (ha : a.map Char.toLower <+: l) : ¬ b.map Char.toLower <+: l := by
  intro hb
  simp only [differ, Bool.and_eq_true, Bool.not_eq_true'] at h
  rcases List.prefix_or_prefix_of_prefix ha hb with hab | hba
  · rw [List.isPrefixOf_iff_prefix.mpr hab] at h
    exact Bool.noConfusion h.1
  · rw [List.isPrefixOf_iff_prefix.mpr hba] at h
    exact Bool.noConfusion h.2

/-! ## which test recognises a spelling -/

theorem startsWithIgnoreCase_eq (hlower : AsciiPrefixLower env.scanner.toLowercase)
    (h : Spells scheme s) (hscheme : IsScheme scheme) {pat : List Char}
    (hpat : ∀ c ∈ pat, c.toNat < 128) (q : List Char) :
    ∃ u, startsWithIgnoreCase env (String.ofList (s ++ q)) pat
      = (pat.map Char.toLower).isPrefixOf (scheme.map Char.toLower ++ u) := by
  obtain ⟨u, hu⟩ := hlower.start s q fun c hc => (isSchemeChar_spec (h.all hscheme c hc)).1
  refine ⟨u, ?_⟩
  have hp : env.scanner.toLowercase (String.ofList pat)
      = Text.asciiLowercase (String.ofList pat) := hlower.whole _ (by rwa [String.toList_ofList])
  rw [startsWithIgnoreCase, Text.startsWith, hu, hp, Text.asciiLowercase, String.toList_ofList,
    String.toList_ofList, show s.map Char.toLower = scheme.map Char.toLower from h]

theorem not_prefix_other (h : Spells scheme s) {pat : List Char}
    (hdiff : differ scheme pat = true) (q : List Char) : ¬ pat <+: s ++ q := by
  intro hpre
  refine differ_spec hdiff ?_ (hpre.map Char.toLower)
  rw [List.map_append, show s.map Char.toLower = scheme.map Char.toLower from h]
  exact List.prefix_append _ _

end

inductive Scheme where
  | openpgp4fpr | dcaccount | dclogin | tgSocks | dcbackup
  deriving DecidableEq, Repr

def Scheme.text : Scheme → List Char
  | openpgp4fpr => openpgp4fprScheme
  | dcaccount => dcaccountScheme
  | dclogin => dcloginScheme
  | tgSocks => tgSocksScheme
  | dcbackup => dcbackupSchemePrefix

theorem Scheme.isScheme (scheme : Scheme) : IsScheme scheme.text := by
  cases scheme <;> decide

theorem Scheme.differ_text {scheme other : Scheme} (h : scheme ≠ other) :
    differ scheme.text other.text = true := by
  revert h
  cases scheme <;> cases other <;> decide

theorem Scheme.differ_literal (scheme : Scheme) :
    ∀ pat ∈ [linkScheme, noslashScheme, "ss://".toList], scheme ≠ .tgSocks →
      differ scheme.text pat = true := by
  cases scheme <;> decide

def Scheme.decode : Scheme → List Char → Except Error (Qr N)
  | openpgp4fpr, qr => ((decodeOpenpgp env.scanner qr).map .invite).mapError .invite
  | dcaccount, qr => decodeAccount env qr
  | dclogin, qr =>
    ((decodeLogin env.parseUrl qr).map fun login => .login login.1 login.2).mapError .login
  | tgSocks, qr => decodeTgSocksProxy env qr
  | dcbackup, qr => decodeBackup2 env (fixAddSecondDeviceQr qr)

section
variable {env} {scheme : Scheme} {s : List Char}

theorem startsWithIgnoreCase_text (hlower : AsciiPrefixLower env.scanner.toLowercase)
    (h : Spells scheme.text s) (other : Scheme) (q : List Char) :
    startsWithIgnoreCase env (String.ofList (s ++ q)) other.text = decide (other = scheme) := by
  have hself : Spells other.text other.text := rfl
  have hpat : ∀ c ∈ other.text, c.toNat < 128 :=
    fun c hc => (isSchemeChar_spec (hself.all other.isScheme c hc)).1
  obtain ⟨u, hu⟩ := startsWithIgnoreCase_eq hlower h scheme.isScheme hpat q
  rw [hu]
  by_cases e : other = scheme
  · subst e
    rw [List.isPrefixOf_iff_prefix.mpr (List.prefix_append _ _), decide_eq_true rfl]
  · rw [decide_eq_false e, Bool.eq_false_iff]
    exact fun hpre => differ_spec (Scheme.differ_text (Ne.symm e)) (List.prefix_append _ u)
      (List.isPrefixOf_iff_prefix.mp hpre)

/-- THE DISPATCH: every spelling goes to the decoder of its scheme, with the payload trimmed -/
theorem checkQr_spelling (hlower : AsciiPrefixLower env.scanner.toLowercase)
    (h : Spells scheme.text s) (hne : scheme ≠ .tgSocks) (p : List Char) :
    checkQr env (String.ofList (s ++ p)) = scheme.decode env (s ++ Text.trimEnd p) := by
  have htest := fun other => startsWithIgnoreCase_text hlower h other (Text.trimEnd p)
  have hliteral : ∀ pat ∈ [linkScheme, noslashScheme, "ss://".toList],
      ¬ pat <+: s ++ Text.trimEnd p := fun pat hpat =>
    not_prefix_other h (scheme.differ_literal pat hpat hne) _
  have h1 := htest .openpgp4fpr
  have h2 := htest .dcaccount
  have h3 := htest .dclogin
  have h4 := htest .tgSocks
  have h5 := htest .dcbackup
  have h6 := hliteral linkScheme (by simp)
  have h7 := hliteral noslashScheme (by simp)
  have h8 := hliteral "ss://".toList (by simp)
  simp only [Scheme.text] at h1 h2 h3 h4 h5
  rw [checkQr, trim_append h scheme.isScheme, String.toList_ofList]
  simp only [h1, h2, h3, h4, h5, h6, h7, h8, if_false]
  cases scheme <;> rfl

/-! ## what the decoders see of a spelling -/

theorem drop_spelling (h : Spells scheme.text s) (q : List Char) :
    (s ++ q).drop scheme.text.length = q := by
  rw [← h.length_eq, List.drop_left]

theorem getFrom_spelling (h : Spells scheme.text s) (q : List Char) :
    getFrom scheme.text.length (s ++ q) = some q := by
  rw [← h.length_eq]
  exact getFrom_append (fun c hc => (isSchemeChar_spec (h.all scheme.isScheme c hc)).1) q

theorem toLower_spec {c : Char} (h : c.toNat < 128) :
    (c.toLower = ':' → c = ':') ∧ (c.toLower.isAlpha = true → c.isAlpha = true) :=
  SecureJoin.Link.forall_ascii
    (p := fun c => (c.toLower = ':' → c = ':') ∧ (c.toLower.isAlpha = true → c.isAlpha = true))
    (by decide) h

theorem Spells.cut_dclogin (h : Spells Scheme.dclogin.text s) :
    ∃ letters, s = letters ++ [':'] ∧ (∀ c ∈ letters, c.isAlpha = true) ∧
      letters.map Char.toLower = "dclogin".toList := by
  have hascii : ∀ c ∈ s, c.toNat < 128 :=
    fun c hc => (isSchemeChar_spec (h.all Scheme.dclogin.isScheme c hc)).1
  have hlower : s.map Char.toLower = "dclogin".toList ++ [':'] := h
  obtain ⟨letters, colon, rfl, hletters, hcolon⟩ := List.map_eq_append_iff.mp hlower
  obtain ⟨c, rfl, hc⟩ := List.map_eq_singleton_iff.mp hcolon
  refine ⟨letters, ?_, fun c hc => ?_, hletters⟩
  · rw [(toLower_spec (hascii c (by simp))).1 hc]
  · refine (toLower_spec (hascii c (List.mem_append_left _ hc))).2 ?_
    have hall : "dclogin".toList.all Char.isAlpha = true := by decide
    exact List.all_eq_true.mp hall _ (hletters ▸ List.mem_map_of_mem hc)

def loginPayload (q : List Char) : List Char :=
  if ['/', '/'] <+: q then q.drop 2 else replacedPayload q

theorem replaceFirst_dclogin {letters : List Char} (h : ∀ c ∈ letters, c.isAlpha = true)
    (q : List Char) :
    replaceFirst [':', '/', '/'] [':'] (letters ++ ':' :: q) = letters ++ ':' :: loginPayload q := by
  have hcolon : ':' ∉ letters := fun hm => absurd (h _ hm) (by decide)
  rw [replaceFirst_append_of_not_mem hcolon, replaceFirst, loginPayload]
  by_cases hslash : ['/', '/'] <+: q
  · rw [if_pos (List.cons_prefix_cons.mpr ⟨rfl, hslash⟩), if_pos hslash]
    rfl
  · rw [if_neg fun hp => hslash (List.cons_prefix_cons.mp hp).2, if_neg hslash]
    rfl

theorem decodeLogin_spelling (hurl : SchemeCase env.parseUrl) {t : List Char}
    (hs : Spells Scheme.dclogin.text s) (ht : Spells Scheme.dclogin.text t) (q : List Char) :
    (decodeLogin env.parseUrl (s ++ q)).toOption = (decodeLogin env.parseUrl (t ++ q)).toOption := by
  obtain ⟨l, rfl, hl, hl'⟩ := hs.cut_dclogin
  obtain ⟨l₂, rfl, hl₂, hl₂'⟩ := ht.cut_dclogin
  rw [decodeLogin, decodeLogin, List.append_assoc, List.append_assoc]
  show (decodeReplaced env.parseUrl (replaceFirst _ _ (l ++ ':' :: q))).toOption
    = (decodeReplaced env.parseUrl (replaceFirst _ _ (l₂ ++ ':' :: q))).toOption
  rw [replaceFirst_dclogin hl, replaceFirst_dclogin hl₂]
  apply decodeReplaced_congr
  · exact hurl l l₂ _ hl (hl'.trans hl₂'.symm)
  · have h₁ : getFrom dcloginScheme.length ((l ++ [':']) ++ loginPayload q)
        = some (loginPayload q) := getFrom_spelling hs _
    have h₂ : getFrom dcloginScheme.length ((l₂ ++ [':']) ++ loginPayload q)
        = some (loginPayload q) := getFrom_spelling ht _
    rw [List.append_assoc] at h₁ h₂
    exact h₁.trans h₂.symm

/-! ## backups -/

theorem fixAddSecondDeviceQr_append {x : List Char} (hcomma : ',' ∉ x) (hquote : '"' ∉ x)
    (q : List Char) : fixAddSecondDeviceQr (x ++ q) = x ++ fixAddSecondDeviceQr q := by
  have h₁ : ",\"info\":\x7b\"relay_url\":".toList = ',' :: "\"info\":\x7b\"relay_url\":".toList := rfl
  have h₂ : "\"]\x7d\x7d".toList = '"' :: "]\x7d\x7d".toList := rfl
  rw [fixAddSecondDeviceQr, fixAddSecondDeviceQr, h₁, h₂, replaceFirst_append_of_not_mem hcomma,
    replaceFirst_append_of_not_mem hquote]

/-- THE SCHEME IN CAPITALS is the only spelling that `decode_backup2` accepts -/
theorem decodeBackup2_spelling (h : Spells Scheme.dcbackup.text s) (q : List Char) :
    decodeBackup2 env (fixAddSecondDeviceQr (s ++ q))
      = if s = dcbackupSchemePrefix then decodeBackupPayload env (fixAddSecondDeviceQr q)
        else .error .backupScheme := by
  have hchars := fun c hc => isSchemeChar_spec (h.all Scheme.dcbackup.isScheme c hc)
  have hlen : s.length = dcbackupSchemePrefix.length := h.length_eq
  rw [fixAddSecondDeviceQr_append (fun hm => (hchars _ hm).2.2.1 rfl)
    (fun hm => (hchars _ hm).2.2.2 rfl), decodeBackup2]
  by_cases hs : s = dcbackupSchemePrefix
  · rw [if_pos hs, hs, if_pos (List.prefix_append _ _), List.drop_left]
  · rw [if_neg hs, if_neg]
    intro hpre
    refine hs (List.IsPrefix.eq_of_length ?_ hlen.symm).symm
    exact List.prefix_of_prefix_length_le hpre (List.prefix_append s _) hlen.ge

/-- `VERSION:TOKEN&NODEADDR`, or anything of a version that is too new -/
def IsBackup (env : Env N) (payload : List Char) : Prop :=
  ∃ version rest n, payload = version ++ ':' :: rest ∧ ':' ∉ version ∧ parseI32 version = some n ∧
    (dcbackupVersion < n ∨ ∃ token addr nodeAddr, rest = token ++ '&' :: addr ∧ '&' ∉ token ∧
      env.nodeAddr addr = some nodeAddr)

theorem decodeBackupPayload_isBackup {payload : List Char} {qr : Qr N}
    (h : decodeBackupPayload env payload = .ok qr) : IsBackup env payload := by
  obtain ⟨parts, hcolon, h⟩ := Lib.ok_of_bind_ok h
  obtain ⟨n, hn, h⟩ := Lib.ok_of_bind_ok h
  obtain ⟨hpayload, hversion⟩ := splitOnce_eq_some_iff.mp (some_of_orError hcolon)
  refine ⟨parts.1, parts.2, n, hpayload, hversion, some_of_orError hn, ?_⟩
  by_cases hnew : n > dcbackupVersion
  · exact .inl hnew
  · rw [if_neg hnew] at h
    obtain ⟨payload, hamp, h⟩ := Lib.ok_of_bind_ok h
    obtain ⟨nodeAddr, haddr, -⟩ := Lib.ok_of_bind_ok h
    obtain ⟨hrest, htoken⟩ := splitOnce_eq_some_iff.mp (some_of_orError hamp)
    exact .inr ⟨payload.1, payload.2, nodeAddr, hrest, htoken, some_of_orError haddr⟩

theorem decodeBackupPayload_eq {version token addr : List Char} {n : ℤ} {nodeAddr : N}
    (hversion : ':' ∉ version) (hn : parseI32 version = some n) (hold : ¬ n > dcbackupVersion)
    (htoken : '&' ∉ token) (haddr : env.nodeAddr addr = some nodeAddr) :
    decodeBackupPayload env (version ++ ':' :: (token ++ '&' :: addr))
      = .ok (.backup2 nodeAddr (String.ofList token)) := by
  rw [decodeBackupPayload, splitOnce_append hversion]
  simp only [orError, hn, bind, Except.bind, hold, if_false, splitOnce_append htoken, haddr]
  rfl

theorem decodeBackupPayload_of_isBackup {payload : List Char} (h : IsBackup env payload) :
    ∃ qr, decodeBackupPayload env payload = .ok qr := by
  obtain ⟨version, rest, n, rfl, hversion, hn, hcase⟩ := h
  by_cases hnew : n > dcbackupVersion
  · refine ⟨.backupTooNew, ?_⟩
    rw [decodeBackupPayload, splitOnce_append hversion]
    simp only [orError, hn, bind, Except.bind, hnew, if_true]
    rfl
  · obtain ⟨token, addr, nodeAddr, rfl, htoken, haddr⟩ := hcase.resolve_left hnew
    exact ⟨_, decodeBackupPayload_eq hversion hn hnew htoken haddr⟩

theorem decode_spelling (hurl : SchemeCase env.parseUrl) {t : List Char}
    (hs : Spells scheme.text s) (ht : Spells scheme.text t) (hsocks : scheme ≠ .tgSocks)
    (hbackup : scheme ≠ .dcbackup) (q : List Char) :
    (scheme.decode env (s ++ q)).toOption = (scheme.decode env (t ++ q)).toOption := by
  cases scheme with
  | openpgp4fpr =>
    have hlen : openpgp4fprScheme.length = Scheme.openpgp4fpr.text.length := rfl
    rw [Scheme.decode, Scheme.decode, decodeOpenpgp, decodeOpenpgp, hlen, drop_spelling hs,
      drop_spelling ht]
  | dcaccount =>
    have hlen : dcaccountScheme.length = Scheme.dcaccount.text.length := rfl
    rw [Scheme.decode, Scheme.decode, decodeAccount, decodeAccount, hlen, getFrom_spelling hs,
      getFrom_spelling ht]
  | dclogin =>
    have hsame := decodeLogin_spelling hurl hs ht q
    rw [Scheme.decode, Scheme.decode]
    cases h₁ : decodeLogin env.parseUrl (s ++ q) <;> cases h₂ : decodeLogin env.parseUrl (t ++ q) <;>
      rw [h₁, h₂] at hsame <;> cases hsame <;> rfl
  | tgSocks => exact absurd rfl hsocks
  | dcbackup => exact absurd rfl hbackup

theorem backup_spelling_iff {t : List Char} (hs : Spells Scheme.dcbackup.text s)
    (ht : Spells Scheme.dcbackup.text t) (q : List Char) :
    (Scheme.dcbackup.decode env (s ++ q)).toOption = (Scheme.dcbackup.decode env (t ++ q)).toOption ↔
      (IsBackup env (fixAddSecondDeviceQr q) →
        (s = dcbackupSchemePrefix ↔ t = dcbackupSchemePrefix)) := by
  rw [Scheme.decode, Scheme.decode, decodeBackup2_spelling hs, decodeBackup2_spelling ht]
  constructor
  · intro h hbackup
    obtain ⟨qr, hqr⟩ := decodeBackupPayload_of_isBackup hbackup
    rw [hqr] at h
    by_cases e₁ : s = dcbackupSchemePrefix <;> by_cases e₂ : t = dcbackupSchemePrefix
    · exact iff_of_true e₁ e₂
    · rw [if_pos e₁, if_neg e₂] at h
      cases h
    · rw [if_neg e₁, if_pos e₂] at h
      cases h
    · exact iff_of_false e₁ e₂
  · intro h
    cases hp : decodeBackupPayload env (fixAddSecondDeviceQr q) with
    | ok qr =>
      have hiff := h (decodeBackupPayload_isBackup hp)
      by_cases e : t = dcbackupSchemePrefix
      · rw [if_pos e, if_pos (hiff.mpr e)]
      · rw [if_neg e, if_neg fun e' => e (hiff.mp e')]
    | error e => split <;> split <;> rfl

end

end

/-- **TWO SPELLINGS OF A SCHEME** both fail or give the same, for every payload; but a backup is read
only with its scheme in capitals -/
theorem spelling_iff {N : Type} (env : Env N) (hlower : AsciiPrefixLower env.scanner.toLowercase)
    (hurl : SchemeCase env.parseUrl) (scheme : Scheme) (hsocks : scheme ≠ .tgSocks)
    (s t p : List Char) (hs : Spells scheme.text s) (ht : Spells scheme.text t) :
    (checkQr env (String.ofList (s ++ p))).toOption = (checkQr env (String.ofList (t ++ p))).toOption ↔
      (scheme = .dcbackup → IsBackup env (fixAddSecondDeviceQr (Text.trimEnd p)) →
        (s = dcbackupSchemePrefix ↔ t = dcbackupSchemePrefix)) := by
  rw [checkQr_spelling hlower hs hsocks, checkQr_spelling hlower ht hsocks]
  by_cases hbackup : scheme = .dcbackup
  · subst hbackup
    rw [backup_spelling_iff hs ht]
    exact ⟨fun h _ => h, fun h => h rfl⟩
  · exact iff_of_true (decode_spelling hurl hs ht hsocks hbackup _)
      fun e => absurd e hbackup

/-! ## codes -/

/-- what iroh writes of an address without relay -/
structure NodeAddr where
  nodeId : List Char
  directAddresses : List (List Char)
  deriving DecidableEq

def quoted (s : List Char) : List Char := '"' :: s ++ ['"']

def NodeAddr.toJson (addr : NodeAddr) : List Char :=
  "\x7b\"node_id\":".toList ++ quoted addr.nodeId ++ ",\"relay_url\":null,\"direct_addresses\":[".toList ++
    [','].intercalate (addr.directAddresses.map quoted) ++ "]\x7d".toList

/-- an IPv4 address with its port -/
def isSocketAddr (s : List Char) : Bool :=
  match s.splitOn ':' with
  | [ip, port] => (parseUnsigned (2 ^ 16) (String.ofList port)).isSome && (ip.splitOn '.').length == 4 &&
      (ip.splitOn '.').all fun byte => (parseUnsigned (2 ^ 8) (String.ofList byte)).isSome
  | _ => false

def isNodeId (s : List Char) : Bool :=
  s.length == 64 && s.all fun c => c.isDigit || (decide ('a' ≤ c) && decide (c ≤ 'f'))

def unquote : List Char → Option (List Char)
  | '"' :: s => if s.getLast? = some '"' then some s.dropLast else none
  | _ => none

def behind (text s : List Char) : Option (List Char) :=
  if text <+: s then some (s.drop text.length) else none

/-- JSON with these fields in this order; the node id is a public key -/
def NodeAddr.fromJson (json : List Char) : Option NodeAddr := do
  let json ← behind "\x7b\"node_id\":".toList json
  let (nodeId, json) ← splitOnce ',' json
  let json ← behind "\"relay_url\":null,\"direct_addresses\":[".toList json
  let (addresses, json) ← splitOnce ']' json
  let nodeId ← unquote nodeId
  let directAddresses ← (addresses.splitOn ',').mapM unquote
  if isNodeId nodeId && directAddresses.all isSocketAddr && json == ['\x7d'] then
    some ⟨nodeId, directAddresses⟩
  else none

def bareEnv : Env NodeAddr where
  scanner := SecureJoin.Link.freshScanner
  parseUrl := plainUrl
  nodeAddr := NodeAddr.fromJson
  serverConfig _ := none

theorem bareEnv_lower : AsciiPrefixLower bareEnv.scanner.toLowercase where
  whole _ _ := rfl
  start s t _ := ⟨t.map Char.toLower, by
    show (String.ofList ((String.ofList (s ++ t)).toList.map Char.toLower)).toList = _
    rw [String.toList_ofList, String.toList_ofList, List.map_append]⟩

theorem plainUrl_schemeCase : SchemeCase plainUrl := by
  intro s t rest hs hst
  have hcolon : ∀ {l : List Char}, s.map Char.toLower = l.map Char.toLower → ':' ∉ l := by
    intro l hsame hmem
    have hlower : ':' ∈ l.map Char.toLower := List.mem_map.mpr ⟨':', hmem, rfl⟩
    rw [← hsame, List.mem_map] at hlower
    obtain ⟨c, hc, hlower⟩ := hlower
    have halpha : c.toNat < 128 :=
      SecureJoin.Link.toNat_lt_of_isAlphanum (by rw [Char.isAlphanum, hs c hc, Bool.true_or])
    have hletter := hs c hc
    rw [(toLower_spec halpha).1 hlower] at hletter
    cases hletter
  rw [plainUrl, plainUrl, splitOnce_append (hcolon rfl), splitOnce_append (hcolon hst)]
  simp only [Option.map_some, hst]

theorem spelling_account :
    (checkQr bareEnv "dcAccount:host.tld").toOption = (checkQr bareEnv "DCACCOUNT:host.tld").toOption ∧
    (checkQr bareEnv "dcLogin:me@host.tld?p=1&v=1").toOption
      = (checkQr bareEnv "DCLOGIN:me@host.tld?p=1&v=1").toOption ∧
    (checkQr bareEnv "DCLOGIN:me@host.tld?p=1&v=1").isOk = true :=
  ⟨(spelling_iff bareEnv bareEnv_lower plainUrl_schemeCase .dcaccount (by decide) "dcAccount:".toList
      "DCACCOUNT:".toList "host.tld".toList (by decide) (by decide)).mpr nofun,
    (spelling_iff bareEnv bareEnv_lower plainUrl_schemeCase .dclogin (by decide) "dcLogin:".toList
      "DCLOGIN:".toList "me@host.tld?p=1&v=1".toList (by decide) (by decide)).mpr nofun,
    by decide +kernel⟩

/-- a backup of a later version, in capitals and in small letters -/
theorem spelling_backup :
    checkQr bareEnv "DCBACKUP9:x" = .ok .backupTooNew ∧
    checkQr bareEnv "dcbackup9:x" = .error .backupScheme := by
  decide

/-- `format_backup`; `toJson` is `serde_json::to_string` -/
def formatBackup {N : Type} (toJson : N → List Char) : Qr N → Option String
  | .backup2 nodeAddr authToken => String.ofList (dcbackupSchemePrefix ++
      ((toString dcbackupVersion).toList ++ ':' :: (authToken.toList ++ '&' :: toJson nodeAddr)))
  -- "Not a backup QR code"
  | _ => none

/-- **WHAT `format_backup` WRITES IS READ BACK**, unless the JSON is to be fixed -/
theorem checkQr_formatBackup {N : Type} (env : Env N)
    (hlower : AsciiPrefixLower env.scanner.toLowercase) (toJson : N → List Char) (nodeAddr : N)
    (authToken : String) (hjson : env.nodeAddr (toJson nodeAddr) = some nodeAddr)
    (hend : Text.trimEnd (toJson nodeAddr) = toJson nodeAddr) (htoken : '&' ∉ authToken.toList)
    (hfix : fixAddSecondDeviceQr (authToken.toList ++ '&' :: toJson nodeAddr) =
      authToken.toList ++ '&' :: toJson nodeAddr) :
    (formatBackup toJson (.backup2 nodeAddr authToken)).map (checkQr env) =
      some (.ok (.backup2 nodeAddr authToken)) := by
  have hversion : (toString dcbackupVersion).toList = ['5'] := by decide
  have htrim : Text.trimEnd (['5'] ++ ':' :: (authToken.toList ++ '&' :: toJson nodeAddr)) =
      ['5', ':'] ++ (authToken.toList ++ '&' :: toJson nodeAddr) := by
    have hcut : ['5'] ++ ':' :: (authToken.toList ++ '&' :: toJson nodeAddr) =
        (['5', ':'] ++ authToken.toList ++ ['&']) ++ toJson nodeAddr := by
      simp only [List.append_assoc, List.cons_append, List.nil_append]
    rw [hcut, Text.trimEnd_append (Text.trimEnd_concat (by decide) _), hend, ← hcut]
    rfl
  have hspells : Spells Scheme.dcbackup.text dcbackupSchemePrefix := rfl
  have hnumber : parseI32 ['5'] = some 5 := by decide
  have hread := decodeBackupPayload_eq (by decide) hnumber (by decide) htoken hjson
  rw [String.ofList_toList] at hread
  rw [formatBackup, hversion, Option.map_some, checkQr_spelling hlower hspells (by decide), htrim,
    Scheme.decode, decodeBackup2_spelling hspells, if_pos rfl,
    fixAddSecondDeviceQr_append (by decide) (by decide), hfix]
  exact congrArg some hread

def sampleAddr : NodeAddr where
  nodeId := "9afc1ea5b4f543e5cdd7b7a21cd26aee7c0b1e1c2af26790896fbd8932a06e1e".toList
  directAddresses := ["192.168.1.10:12345".toList, "10.0.0.2:53".toList]

theorem checkQr_formatBackup_five :
    (formatBackup NodeAddr.toJson (.backup2 sampleAddr "TWSv6ZjDPa5eoxkocj7xMi8r")).map
        (checkQr bareEnv) = some (.ok (.backup2 sampleAddr "TWSv6ZjDPa5eoxkocj7xMi8r")) :=
  checkQr_formatBackup bareEnv bareEnv_lower _ sampleAddr _ (by decide +kernel) (by decide +kernel)
    (by decide) (by decide +kernel)

theorem checkQr_invite {N : Type} (env : Env N) (qr : String)
    (h : startsWithIgnoreCase env (Text.trim qr) openpgp4fprScheme = true ∨
      linkScheme <+: (Text.trim qr).toList ∨ noslashScheme <+: (Text.trim qr).toList) :
    checkQr env qr
      = ((SecureJoin.Link.checkQr env.scanner qr).map .invite).mapError .invite := by
  rw [startsWithIgnoreCase] at h
  rw [checkQr, SecureJoin.Link.checkQr, startsWithIgnoreCase]
  by_cases h₁ : Text.startsWith (env.scanner.toLowercase (Text.trim qr))
      (env.scanner.toLowercase (String.ofList openpgp4fprScheme)) = true
  · rw [if_pos h₁, if_pos h₁]
  · rw [if_neg h₁, if_neg h₁]
    by_cases h₂ : linkScheme <+: (Text.trim qr).toList
    · rw [if_pos h₂, if_pos h₂]
    · have h₃ := (h.resolve_left h₁).resolve_left h₂
      rw [if_neg h₂, if_neg h₂, if_pos h₃, if_pos h₃]

end EpsilonChat.Scan
