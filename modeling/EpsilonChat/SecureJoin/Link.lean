import EpsilonChat.Base.Trim
import EpsilonChat.Lib.Percent
import EpsilonChat.SecureJoin.State

/-!
# Invite links

`getSecurejoinQr` writes an invite as a link: fingerprint, tokens and group id as they are, names
and the own address percent-encoded.  `checkQr` of the other side reads it: the link is rewritten
to the older `OPENPGP4FPR:` form by two textual replacements, cut at `#`, `&` and `=`, and decoded.

* `lookup_link`: the parameters that are read are those that were written;
* `decodeName_encode`: a name comes back, with a final `_` shown as an ellipsis;
* **`checkQr_link`**: the scanned link gives the invite: contact, group or channel, with the same
  fingerprint, tokens, group id and address.
-/

namespace EpsilonChat.SecureJoin
namespace Link

open Lib.Split Lib.Percent Settings

/-! ## writing a link -/

/-- `DISALLOWED_CHARACTERS` leaves letters, digits, `.` and `_` -/
def isAllowed (b : UInt8) : Bool :=
  let c := Char.ofNat b.toNat
  b.toNat < 128 && (c.isAlphanum || c == '.' || c == '_')

def utf8PercentEncode (s : List Char) : List Char := percentEncode isAllowed (utf8 s)

/-- max. `length` characters; `_` rather than dots, which confuse linkifiers -/
def shortenName (name : List Char) (length : ℕ) : List Char :=
  if name.length > length then name.take (length - 1) ++ ['_'] else name

def encodeName (name : List Char) : List Char :=
  replace ['%', '2', '0'] ['+'] (utf8PercentEncode name)

structure Inviter where
  fingerprint : Fingerprint
  selfAddr : String
  displayname : String

structure InviteChat where
  typ : Chattype
  grpid : String
  name : String
  /-- whether `load_broadcast_secret` finds one -/
  hasBroadcastSecret : Bool

inductive LinkError where
  /-- "Can't generate SecureJoin QR code for chat {id} of type {}" -/
  | chattype (typ : Chattype)
  /-- "Can't generate QR code, chat {id} is a email thread" -/
  | emailThread
  /-- `BROADCAST_INCOMPATIBILITY_MSG` -/
  | broadcastIncompatibility
  deriving DecidableEq, Repr

def field (key : Char) (value : List Char) : List Char := ['&', key, '='] ++ value

def linkScheme : List Char := "https://i.delta.chat/#".toList

def contactLink (acc : Inviter) (invitenumber auth : String) : List Char :=
  linkScheme ++ acc.fingerprint.toList ++ field 'v' ['3'] ++ field 'i' invitenumber.toList ++
    field 's' auth.toList ++ field 'a' (utf8PercentEncode acc.selfAddr.toList) ++
    field 'n' (encodeName (shortenName acc.displayname.toList 25))

def chatLink (acc : Inviter) (chat : InviteChat) (invitenumber auth : String) : List Char :=
  linkScheme ++ acc.fingerprint.toList ++ field 'v' ['3'] ++ field 'x' chat.grpid.toList ++
    -- for historic reasons, broadcasts use j instead of i for the invite number
    field (if chat.typ = .outBroadcast then 'j' else 'i') invitenumber.toList ++
    field 's' auth.toList ++ field 'a' (utf8PercentEncode acc.selfAddr.toList) ++
    field 'n' (encodeName (shortenName acc.displayname.toList 16)) ++
    field (if chat.typ = .outBroadcast then 'b' else 'g')
      (encodeName (shortenName chat.name.toList 25))

/-- `get_securejoin_qr`; `invitenumber` is the token that is looked up, `auth` the new one -/
def getSecurejoinQr (acc : Inviter) (chat : Option InviteChat) (invitenumber auth : String) :
    Except LinkError String :=
  match chat with
  | none => .ok (String.ofList (contactLink acc invitenumber auth))
  | some chat =>
    if ¬ (chat.typ = .group ∨ chat.typ = .outBroadcast) then .error (.chattype chat.typ)
    else if chat.grpid = "" then .error .emailThread
    else if chat.typ = .outBroadcast ∧ ¬ chat.hasBroadcastSecret then
      .error .broadcastIncompatibility
    else .ok (String.ofList (chatLink acc chat invitenumber auth))

/-! ## reading a link -/

/-- a scanned code; `ask` stands for `AskVerifyContact`, `AskVerifyGroup` and `AskJoinBroadcast`,
by the target of the invite, and so do `withdraw` and `revive`, which do not carry addresses -/
inductive Qr where
  | ask (invite : QrInvite)
  | withdraw (invite : QrInvite)
  | revive (invite : QrInvite)
  | fprOk (contactId : ContactId)
  | fprMismatch (contactId : ContactId)
  | fprWithoutAddr (fingerprint : String)
  deriving DecidableEq, Repr

inductive QrError where
  /-- "Failed to parse fingerprint in the QR code" -/
  | badFingerprint
  /-- "Invalid QR param {key}: {err}" -/
  | invalidParam (key : Char)
  /-- an address that is no UTF-8 -/
  | addrEncoding
  /-- "Bad e-mail address" -/
  | badAddr
  /-- "invalid address {s:?}" -/
  | invalidAddr
  | other
  deriving DecidableEq, Repr

structure Scanner where
  toLowercase : String → String
  toUppercase : String → String
  isSelfAddr : String → Bool
  /-- `token::exists` of an auth token -/
  tokenExists : String → Bool
  /-- the row that `Contact::add_or_lookup_ex` finds or adds for name, address and fingerprint -/
  addOrLookup : String → String → Fingerprint → ContactId
  /-- `Contact::public_key` finds a key -/
  hasPublicKey : ContactId → Bool
  /-- the schemes other than OPENPGP4FPR and links to i.delta.chat -/
  decodeOther : String → Except QrError Qr

def isIdChar (c : Char) : Bool := c.isAlphanum || c == '-' || c == '_'

def validateId (s : List Char) : Bool := s.all isIdChar && s.length > 10 && s.length ≤ 32

/-- the `BTreeMap` of the parameters: a later one wins -/
def params (fragment : List Char) : List Char → Option (List Char) :=
  ((fragment.splitOn '&').filterMap (splitOnce '=')).foldl
    (fun m kv => Function.update m kv.1 (some kv.2)) fun _ => none

/-- `percent_decode_str(..).decode_utf8()` -/
def percentDecodeStr (s : List Char) : Option (List Char) := decodeUtf8 (percentDecode (utf8 s))

def showEllipsis (name : List Char) : List Char :=
  if name.getLast? = some '_' then name.dropLast ++ ['…'] else name

def decodeName (param : List Char → Option (List Char)) (key : Char) :
    Except QrError (Option (List Char)) :=
  match param [key] with
  | none => .ok none
  | some encodedName =>
    match percentDecodeStr (replace ['+'] ['%', '2', '0'] encodedName) with
    | none => .error (.invalidParam key)
    | some name => .ok (some (showEllipsis name))

def normalizeAddress (sc : Scanner) (addr : List Char) : Except QrError String :=
  match percentDecodeStr addr with
  | none => .error .addrEncoding
  | some newAddr =>
    let newAddr := Text.addrNormalize sc.toLowercase (String.ofList newAddr)
    if Text.mayBeValidAddr newAddr then .ok newAddr else .error .badAddr

def validId (s : Option (List Char)) : Option String :=
  (s.filter validateId).map String.ofList

def humanReadable (fingerprint : Fingerprint) : String :=
  String.ofList (fingerprint.toList.zipIdx.flatMap fun (c, i) =>
    if i > 0 ∧ i % 20 = 0 then ['\n', c] else if i > 0 ∧ i % 4 = 0 then [' ', c] else [c])

def inviteQr (sc : Scanner) (invite : QrInvite) (addr : String) : Qr :=
  if sc.isSelfAddr addr then
    if sc.tokenExists invite.authcode then .withdraw { invite with addrs := [], isV3 := false }
    else .revive { invite with addrs := [], isV3 := false }
  else .ask invite

def target (grpid : Option String) (grpname broadcastName : Option (List Char)) : InviteTarget :=
  match grpid, grpname, broadcastName with
  | some grpid, some grpname, _ => .group (String.ofList grpname) grpid
  | some grpid, none, some name => .broadcast (String.ofList name) grpid
  | _, _, _ => .contact

def decodeParams (sc : Scanner) (fingerprint : Fingerprint)
    (param : List Char → Option (List Char)) : Except QrError Qr := do
  let addr ← match param ['a'] with
    | some addr => (normalizeAddress sc addr).map some
    | none => .ok none
  let name := (← decodeName param 'n').getD []
  let invitenumber := validId ((param ['i']).or (param ['j']))
  let authcode := validId (param ['s'])
  let grpid := validId (param ['x'])
  let grpname ← decodeName param 'g'
  let broadcastName ← decodeName param 'b'
  -- Securejoin v3 does not need an invite number
  let isV3 := param ['v'] = some ['3'] ∨ (authcode.isSome ∧ invitenumber.isNone)
  let invitenumber := if authcode.isSome ∧ invitenumber.isNone then some "" else invitenumber
  match addr, invitenumber, authcode with
  | some addr, some invitenumber, some authcode =>
    match Text.contactAddress sc.toLowercase addr with
    | none => .error .invalidAddr
    | some addr =>
      .ok (inviteQr sc
        { contactId := sc.addOrLookup (String.ofList name) addr fingerprint
          fingerprint := fingerprint, addrs := [addr], invitenumber := invitenumber
          authcode := authcode, isV3 := isV3
          target := target grpid grpname broadcastName } addr)
  | some addr, _, _ =>
    let contactId := sc.addOrLookup "" addr fingerprint
    .ok (if sc.hasPublicKey contactId then .fprOk contactId else .fprMismatch contactId)
  | none, _, _ => .ok (.fprWithoutAddr (humanReadable fingerprint))

def openpgp4fprScheme : List Char := "OPENPGP4FPR:".toList

def splitPayload (payload : List Char) : List Char × List Char :=
  ((splitOnce '#' payload).or (splitOnceText ['%', '2', '3'] payload)).getD (payload, [])

def decodeOpenpgp (sc : Scanner) (qr : List Char) : Except QrError Qr :=
  let payload := splitPayload (qr.drop openpgp4fprScheme.length)
  match Fingerprint.parse sc.toUppercase (String.ofList payload.1) with
  | none => .error .badFingerprint
  | some fingerprint => decodeParams sc fingerprint (params payload.2)

def decodeIdeltachat (sc : Scanner) (scheme qr : List Char) : Except QrError Qr :=
  decodeOpenpgp sc (replaceFirst ['&'] ['#'] (replaceFirst scheme openpgp4fprScheme qr))

def noslashScheme : List Char := "https://i.delta.chat#".toList

def checkQr (sc : Scanner) (qr : String) : Except QrError Qr :=
  let qr := Text.trim qr
  if Text.startsWith (sc.toLowercase qr) (sc.toLowercase (String.ofList openpgp4fprScheme)) then
    decodeOpenpgp sc qr.toList
  else if linkScheme <+: qr.toList then decodeIdeltachat sc linkScheme qr.toList
  else if noslashScheme <+: qr.toList then decodeIdeltachat sc noslashScheme qr.toList
  else sc.decodeOther qr

/-! ## the characters of a link -/

def isLinkChar (c : Char) : Bool := isIdChar c || c == '.' || c == '%' || c == '+'

theorem toNat_lt_of_isAlphanum {c : Char} (h : c.isAlphanum = true) : c.toNat < 128 := by
  simp only [Char.isAlphanum, Char.isAlpha, Char.isUpper, Char.isLower, Char.isDigit,
    Bool.or_eq_true, Bool.and_eq_true, decide_eq_true_eq, UInt32.le_iff_toNat_le] at h
  have hZ : 'Z'.val.toNat < 128 := by decide
  have hz : 'z'.val.toNat < 128 := by decide
  have h9 : '9'.val.toNat < 128 := by decide
  show c.val.toNat < 128
  omega

theorem IsLinkChar.toNat_lt {c : Char} (h : isLinkChar c = true) : c.toNat < 128 := by
  simp only [isLinkChar, isIdChar, Bool.or_eq_true, beq_iff_eq] at h
  rcases h with ((((h | rfl) | rfl) | rfl) | rfl) | rfl
  · exact toNat_lt_of_isAlphanum h
  all_goals decide

theorem isLinkChar_of_isIdChar {c : Char} (h : isIdChar c = true) : isLinkChar c = true := by
  simp [isLinkChar, h]

theorem isLinkChar_hexDigit {n : ℕ} (h : n < 16) :
    isLinkChar (hexDigit n) = true ∧ hexDigit n ≠ '+' := by
  revert n
  decide

theorem isAllowed_spec {b : UInt8} (h : isAllowed b = true) : b.toNat < 128 ∧ b ≠ 37 := by
  simp only [isAllowed, Bool.and_eq_true, decide_eq_true_eq] at h
  refine ⟨h.1, ?_⟩
  rintro rfl
  exact absurd h.2 (by decide)

theorem mem_utf8PercentEncode {c : Char} {s : List Char} (h : c ∈ utf8PercentEncode s) :
    isLinkChar c = true ∧ c ≠ '+' := by
  rcases mem_percentEncode h with ⟨b, hb, rfl⟩ | rfl | ⟨n, hn, rfl⟩
  · simp only [isAllowed, Bool.and_eq_true, Bool.or_eq_true, beq_iff_eq, decide_eq_true_eq] at hb
    rcases hb.2 with (hc | hc) | hc
    · refine ⟨by simp [isLinkChar, isIdChar, hc], ?_⟩
      intro e
      rw [e] at hc
      exact absurd hc (by decide)
    · rw [hc]
      decide
    · rw [hc]
      decide
  · decide
  · exact isLinkChar_hexDigit hn

theorem mem_encodeName {c : Char} {s : List Char} (h : c ∈ encodeName s) : isLinkChar c = true := by
  rcases mem_replace h with h | h
  · exact (mem_utf8PercentEncode h).1
  · rw [List.mem_singleton.mp h]
    decide

theorem percentDecodeStr_encode (s : List Char) :
    percentDecodeStr (utf8PercentEncode s) = some s := by
  rw [percentDecodeStr, utf8PercentEncode, percentDecode_encode fun b => isAllowed_spec,
    decodeUtf8_utf8]

theorem decodeName_encode {param : List Char → Option (List Char)} {key : Char} {name : List Char}
    (h : param [key] = some (encodeName name)) :
    decodeName param key = .ok (some (showEllipsis name)) := by
  have hplus : '+' ∉ utf8PercentEncode name := fun hm => (mem_utf8PercentEncode hm).2 rfl
  have hback : replace ['+'] ['%', '2', '0'] (encodeName name) = utf8PercentEncode name :=
    replace_replace (List.cons_ne_nil _ _) _ hplus
  rw [decodeName, h]
  simp only [hback, percentDecodeStr_encode]

theorem decodeName_none {param : List Char → Option (List Char)} {key : Char}
    (h : param [key] = none) : decodeName param key = .ok none := by
  rw [decodeName, h]

theorem normalizeAddress_encode {sc : Scanner} {addr : String}
    (h : Text.mayBeValidAddr (Text.addrNormalize sc.toLowercase addr) = true) :
    normalizeAddress sc (utf8PercentEncode addr.toList) =
      .ok (Text.addrNormalize sc.toLowercase addr) := by
  rw [normalizeAddress, percentDecodeStr_encode]
  simp only [String.ofList_toList, h, if_true]

/-! ## the parameters of a link -/

def linkText (fingerprint : List Char) (fields : List (Char × List Char)) : List Char :=
  linkScheme ++ fingerprint ++ fields.flatMap fun kv => field kv.1 kv.2

def lookup (fields : List (Char × List Char)) : List Char → Option (List Char) :=
  fields.foldl (fun m kv => Function.update m [kv.1] (some kv.2)) fun _ => none

section
variable {fields : List (Char × List Char)}

theorem params_fields {kv : Char × List Char} (h : ∀ kv' ∈ kv :: fields,
    kv'.1 ≠ '&' ∧ kv'.1 ≠ '=' ∧ '&' ∉ kv'.2) :
    params ([kv.1, '='] ++ kv.2 ++ fields.flatMap fun kv => field kv.1 kv.2) =
      lookup (kv :: fields) := by
  have hpiece : ∀ kv' ∈ kv :: fields, '&' ∉ [kv'.1, '='] ++ kv'.2 := by
    intro kv' hkv' hm
    obtain ⟨hk, _, hv⟩ := h kv' hkv'
    simp [hv, hk.symm] at hm
  have hsplit : ([kv.1, '='] ++ kv.2 ++ fields.flatMap fun kv => field kv.1 kv.2).splitOn '&' =
      (kv :: fields).map fun kv => [kv.1, '='] ++ kv.2 := by
    have htl : fields.flatMap (fun kv => field kv.1 kv.2) =
        (fields.map fun kv => [kv.1, '='] ++ kv.2).flatMap ('&' :: ·) := by
      rw [List.flatMap_map]
      rfl
    rw [htl, splitOn_flatMap (hpiece kv List.mem_cons_self), List.map_cons]
    intro l hl
    obtain ⟨kv', hkv', rfl⟩ := List.mem_map.mp hl
    exact hpiece kv' (List.mem_cons_of_mem _ hkv')
  have honce : ∀ kv' ∈ kv :: fields,
      splitOnce '=' ([kv'.1, '='] ++ kv'.2) = some ([kv'.1], kv'.2) := by
    intro kv' hkv'
    obtain ⟨_, hk, _⟩ := h kv' hkv'
    have hkey : '=' ∉ [kv'.1] := fun hm => hk (List.mem_singleton.mp hm).symm
    exact splitOnce_append hkey kv'.2
  have hmap : ((kv :: fields).map fun kv => [kv.1, '='] ++ kv.2).filterMap (splitOnce '=') =
      (kv :: fields).map fun kv => ([kv.1], kv.2) := by
    rw [List.filterMap_map, ← List.filterMap_eq_map]
    exact List.filterMap_congr honce
  rw [params, hsplit, hmap, List.foldl_map]
  rfl

/-- **the scanned link is taken apart** into the fingerprint and its parameters -/
theorem decodeIdeltachat_linkText (sc : Scanner) {fingerprint : Fingerprint}
    {kv : Char × List Char}
    (hfp : ∀ c ∈ fingerprint.toList, c ≠ '&' ∧ c ≠ '#')
    (h : ∀ kv' ∈ kv :: fields, kv'.1 ≠ '&' ∧ kv'.1 ≠ '=' ∧ '&' ∉ kv'.2)
    (hparse : Fingerprint.parse sc.toUppercase fingerprint = some fingerprint) :
    decodeIdeltachat sc linkScheme (linkText fingerprint.toList (kv :: fields)) =
      decodeParams sc fingerprint (lookup (kv :: fields)) := by
  have hamp : '&' ∉ openpgp4fprScheme ++ fingerprint.toList := by
    intro hm
    rcases List.mem_append.mp hm with hm | hm
    · exact absurd hm (by decide)
    · exact (hfp _ hm).1 rfl
  have hhash : '#' ∉ fingerprint.toList := fun hm => (hfp _ hm).2 rfl
  have hscheme : linkScheme ≠ [] := by decide
  have hlink : linkText fingerprint.toList (kv :: fields) =
      linkScheme ++ (fingerprint.toList ++ (['&'] ++
        ([kv.1, '='] ++ kv.2 ++ fields.flatMap fun kv => field kv.1 kv.2))) := by
    simp [linkText, field]
  have hsplit : splitPayload (fingerprint.toList ++ (['#'] ++
      ([kv.1, '='] ++ kv.2 ++ fields.flatMap fun kv => field kv.1 kv.2))) =
        (fingerprint.toList, [kv.1, '='] ++ kv.2 ++ fields.flatMap fun kv => field kv.1 kv.2) := by
    rw [splitPayload, List.singleton_append, splitOnce_append hhash, Option.some_or,
      Option.getD_some]
  rw [decodeIdeltachat, hlink, replaceFirst_append_self hscheme, ← List.append_assoc,
    replaceFirst_append_of_not_mem hamp, replaceFirst_append_self (List.cons_ne_nil _ _),
    List.append_assoc, decodeOpenpgp, List.drop_left, hsplit]
  simp only [String.ofList_toList, hparse, params_fields h]

end

/-! ## the invite -/

section
variable {s : String} {sc : Scanner} {c : Char} {fingerprint : Fingerprint}

theorem validId_of_validateId (h : validateId s.toList = true) :
    validId (some s.toList) = some s := by
  rw [validId, Option.filter_some, if_pos h, Option.map_some, String.ofList_toList]

structure AddrOk (sc : Scanner) (selfAddr addr : String) : Prop where
  valid : Text.mayBeValidAddr (Text.addrNormalize sc.toLowercase selfAddr) = true
  contact : Text.contactAddress sc.toLowercase (Text.addrNormalize sc.toLowercase selfAddr) =
    some addr
  other : sc.isSelfAddr addr = false

/-- the parameters that all links have -/
structure InviteParams (param : List Char → Option (List Char)) (selfAddr : String) (name : List Char)
    (invitenumber auth : String) : Prop where
  addr : param ['a'] = some (utf8PercentEncode selfAddr.toList)
  name : param ['n'] = some (encodeName name)
  invitenumber : (param ['i']).or (param ['j']) = some invitenumber.toList
  auth : param ['s'] = some auth.toList
  version : param ['v'] = some ['3']

def invited (sc : Scanner) (fingerprint : Fingerprint) (name : List Char)
    (addr invitenumber auth : String) (target : InviteTarget) : QrInvite where
  contactId := sc.addOrLookup (String.ofList (showEllipsis name)) addr fingerprint
  fingerprint := fingerprint
  addrs := [addr]
  invitenumber := invitenumber
  authcode := auth
  isV3 := true
  target := target

theorem decodeParams_invite {param : List Char → Option (List Char)} {selfAddr addr : String}
    (fingerprint : Fingerprint) {name : List Char} {grpname broadcastName : Option (List Char)}
    {invitenumber auth : String} (h : InviteParams param selfAddr name invitenumber auth)
    (hg : decodeName param 'g' = .ok grpname) (hb : decodeName param 'b' = .ok broadcastName)
    (hinvite : validateId invitenumber.toList = true) (hauth : validateId auth.toList = true)
    (haddr : AddrOk sc selfAddr addr) :
    decodeParams sc fingerprint param = .ok (.ask (invited sc fingerprint name addr invitenumber auth
      (target (validId (param ['x'])) grpname broadcastName))) := by
  have hvi := validId_of_validateId hinvite
  have hva := validId_of_validateId hauth
  have hname := decodeName_encode h.name
  have hnormalized := normalizeAddress_encode haddr.valid
  unfold decodeParams
  simp only [h.addr, hnormalized, hname, hg, hb, h.invitenumber, h.auth, h.version, hvi, hva]
  simp [Except.map, bind, Except.bind, haddr.contact, inviteQr, haddr.other, invited]

/-! ## scanning a link -/

/-- what is used of the case mappings of the standard library: on ASCII they work letter by letter -/
structure AsciiCase (toLowercase toUppercase : String → String) : Prop where
  lower : ∀ s : String, (∀ c ∈ s.toList, c.toNat < 128) →
    toLowercase s = String.ofList (s.toList.map Char.toLower)
  upper : ∀ s : String, (∀ c ∈ s.toList, c.toNat < 128) →
    toUppercase s = String.ofList (s.toList.map Char.toUpper)

def isUpperHex (c : Char) : Bool := c.isDigit || ['A', 'B', 'C', 'D', 'E', 'F'].contains c

/-- a fingerprint has 20 or 32 bytes -/
def IsFingerprint (fingerprint : Fingerprint) : Prop :=
  (∀ c ∈ fingerprint.toList, isUpperHex c = true) ∧
    (fingerprint.toList.length = 40 ∨ fingerprint.toList.length = 64)

theorem forall_ascii {p : Char → Prop} (h : ∀ n < 128, p (Char.ofNat n)) (hc : c.toNat < 128) :
    p c := by
  have hn := h c.toNat hc
  rwa [Char.ofNat_toNat] at hn

theorem isLinkChar_of_isUpperHex (h : isUpperHex c = true) : isLinkChar c = true := by
  simp only [isUpperHex, Bool.or_eq_true, List.contains_iff_mem] at h
  rcases h with h | h
  · exact isLinkChar_of_isIdChar (by simp [isIdChar, Char.isAlphanum, h])
  · simp only [List.mem_cons, List.not_mem_nil, or_false] at h
    rcases h with rfl | rfl | rfl | rfl | rfl | rfl <;> rfl

theorem isUpperHex_spec (h : isUpperHex c = true) : c.toUpper = c ∧ isAsciiHexdigit c = true := by
  have hc : c.toNat < 128 := IsLinkChar.toNat_lt (isLinkChar_of_isUpperHex h)
  exact forall_ascii (p := fun c => isUpperHex c = true → c.toUpper = c ∧ isAsciiHexdigit c = true)
    (by decide) hc h

theorem isLinkChar_spec (h : isLinkChar c = true) :
    c ≠ '&' ∧ c ≠ '#' ∧ Text.isWhitespace c = false :=
  forall_ascii
    (p := fun c => isLinkChar c = true → c ≠ '&' ∧ c ≠ '#' ∧ Text.isWhitespace c = false)
    (by decide) (IsLinkChar.toNat_lt h) h

theorem IsFingerprint.parse (hcase : AsciiCase sc.toLowercase sc.toUppercase)
    (h : IsFingerprint fingerprint) :
    Fingerprint.parse sc.toUppercase fingerprint = some fingerprint := by
  have hascii : ∀ c ∈ fingerprint.toList, c.toNat < 128 :=
    fun c hc => IsLinkChar.toNat_lt (isLinkChar_of_isUpperHex (h.1 c hc))
  have hupper : fingerprint.toList.map Char.toUpper = fingerprint.toList := by
    calc fingerprint.toList.map Char.toUpper
        = fingerprint.toList.map id := List.map_congr_left fun c hc => (isUpperHex_spec (h.1 c hc)).1
      _ = fingerprint.toList := List.map_id _
  have hhex : fingerprint.toList.filter isAsciiHexdigit = fingerprint.toList :=
    List.filter_eq_self.mpr fun c hc => (isUpperHex_spec (h.1 c hc)).2
  rw [Fingerprint.parse, hcase.upper _ hascii, hupper, String.toList_ofList, hhex]
  simp only [h.2, if_true, String.ofList_toList]

/-! ### the link as a whole -/

def isPlainChar (c : Char) : Bool := c.toNat < 128 && !Text.isWhitespace c

theorem isPlainChar_of_isLinkChar (h : isLinkChar c = true) : isPlainChar c = true := by
  simp [isPlainChar, IsLinkChar.toNat_lt h, (isLinkChar_spec h).2.2]

theorem isPlainChar_spec (h : isPlainChar c = true) :
    c.toNat < 128 ∧ Text.isWhitespace c = false := by
  simpa [isPlainChar] using h

def FieldOk (kv : Char × List Char) : Prop :=
  isLinkChar kv.1 = true ∧ kv.1 ≠ '=' ∧ ∀ c ∈ kv.2, isLinkChar c = true

theorem linkText_plain (hfp : IsFingerprint fingerprint) {fields : List (Char × List Char)}
    (h : ∀ kv ∈ fields, FieldOk kv) :
    ∀ c ∈ linkText fingerprint.toList fields, isPlainChar c = true := by
  have hscheme : linkScheme.all isPlainChar = true := by decide
  intro c hc
  rcases List.mem_append.mp hc with hc | hc
  · rcases List.mem_append.mp hc with hc | hc
    · exact List.all_eq_true.mp hscheme c hc
    · exact isPlainChar_of_isLinkChar (isLinkChar_of_isUpperHex (hfp.1 c hc))
  · obtain ⟨kv, hkv, hc⟩ := List.mem_flatMap.mp hc
    obtain ⟨hk, _, hv⟩ := h kv hkv
    rcases List.mem_append.mp hc with hc | hc
    · simp only [List.mem_cons, List.not_mem_nil, or_false] at hc
      rcases hc with rfl | rfl | rfl
      · rfl
      · exact isPlainChar_of_isLinkChar hk
      · rfl
    · exact isPlainChar_of_isLinkChar (hv c hc)

theorem trim_of_plain (h : ∀ c ∈ s.toList, isPlainChar c = true) : Text.trim s = s := by
  have hs : Text.Trimmed s.toList :=
    Text.trimmed_of_forall fun c hc => (isPlainChar_spec (h c hc)).2
  rw [Text.trim, Text.trim_of_trimmed hs, String.ofList_toList]

theorem checkQr_linkText (hcase : AsciiCase sc.toLowercase sc.toUppercase)
    (hfp : IsFingerprint fingerprint) {kv : Char × List Char} {fields : List (Char × List Char)}
    (h : ∀ kv' ∈ kv :: fields, FieldOk kv') :
    checkQr sc (String.ofList (linkText fingerprint.toList (kv :: fields))) =
      decodeParams sc fingerprint (lookup (kv :: fields)) := by
  have hplain := linkText_plain hfp h
  have hplain' : ∀ c ∈ (String.ofList (linkText fingerprint.toList (kv :: fields))).toList,
      isPlainChar c = true := by
    rw [String.toList_ofList]
    exact hplain
  have hscheme : openpgp4fprScheme.all isPlainChar = true := by decide
  have hscheme' : ∀ c ∈ (String.ofList openpgp4fprScheme).toList, c.toNat < 128 := by
    rw [String.toList_ofList]
    exact fun c hc => (isPlainChar_spec (List.all_eq_true.mp hscheme c hc)).1
  have hnot : Text.startsWith
      (sc.toLowercase (String.ofList (linkText fingerprint.toList (kv :: fields))))
      (sc.toLowercase (String.ofList openpgp4fprScheme)) = false := by
    rw [hcase.lower _ fun c hc => (isPlainChar_spec (hplain' c hc)).1, hcase.lower _ hscheme']
    simp only [Text.startsWith, String.toList_ofList]
    rfl
  have hlink : linkScheme <+: linkText fingerprint.toList (kv :: fields) := by
    rw [linkText, List.append_assoc]
    exact List.prefix_append _ _
  have hfp' : ∀ c ∈ fingerprint.toList, c ≠ '&' ∧ c ≠ '#' := by
    intro c hc
    have hspec := isLinkChar_spec (isLinkChar_of_isUpperHex (hfp.1 c hc))
    exact ⟨hspec.1, hspec.2.1⟩
  have hfields : ∀ kv' ∈ kv :: fields, kv'.1 ≠ '&' ∧ kv'.1 ≠ '=' ∧ '&' ∉ kv'.2 := by
    intro kv' hkv'
    obtain ⟨hk, hne, hv⟩ := h kv' hkv'
    exact ⟨(isLinkChar_spec hk).1, hne, fun hm => (isLinkChar_spec (hv _ hm)).1 rfl⟩
  have hdec := decodeIdeltachat_linkText sc hfp' hfields (hfp.parse hcase)
  rw [checkQr, trim_of_plain hplain']
  simp only [hnot, String.toList_ofList, hlink, if_true, hdec, Bool.false_eq_true, if_false]

/-! ### what the other side gets -/

def contactFields (acc : Inviter) (invitenumber auth : String) : List (Char × List Char) :=
  [('i', invitenumber.toList), ('s', auth.toList), ('a', utf8PercentEncode acc.selfAddr.toList),
    ('n', encodeName (shortenName acc.displayname.toList 25))]

theorem contactLink_eq (acc : Inviter) (invitenumber auth : String) :
    contactLink acc invitenumber auth =
      linkText acc.fingerprint.toList (('v', ['3']) :: contactFields acc invitenumber auth) := by
  simp [contactLink, linkText, contactFields]

def chatFields (acc : Inviter) (chat : InviteChat) (invitenumber auth : String) :
    List (Char × List Char) :=
  [('x', chat.grpid.toList),
    (if chat.typ = .outBroadcast then 'j' else 'i', invitenumber.toList),
    ('s', auth.toList), ('a', utf8PercentEncode acc.selfAddr.toList),
    ('n', encodeName (shortenName acc.displayname.toList 16)),
    (if chat.typ = .outBroadcast then 'b' else 'g', encodeName (shortenName chat.name.toList 25))]

theorem chatLink_eq (acc : Inviter) (chat : InviteChat) (invitenumber auth : String) :
    chatLink acc chat invitenumber auth =
      linkText acc.fingerprint.toList (('v', ['3']) :: chatFields acc chat invitenumber auth) := by
  simp [chatLink, linkText, chatFields]

def IsIdText (s : String) : Prop := ∀ c ∈ s.toList, isIdChar c = true

theorem isIdText_of_validateId (h : validateId s.toList = true) : IsIdText s := by
  simp only [validateId, Bool.and_eq_true] at h
  exact List.all_eq_true.mp h.1.1

theorem IsIdText.isLinkChar (h : IsIdText s) : ∀ c ∈ s.toList, isLinkChar c = true :=
  fun c hc => isLinkChar_of_isIdChar (h c hc)

end

theorem fieldOk_version : FieldOk ('v', ['3']) :=
  ⟨rfl, by decide, fun c hc => by rw [List.mem_singleton.mp hc]; rfl⟩

section
variable {sc : Scanner} {acc : Inviter} {invitenumber auth addr : String}
  (hinvite : validateId invitenumber.toList = true) (hauth : validateId auth.toList = true)
include hinvite hauth

theorem fieldOk_contactFields :
    ∀ kv ∈ ('v', ['3']) :: contactFields acc invitenumber auth, FieldOk kv := by
  have hi := (isIdText_of_validateId hinvite).isLinkChar
  have hs := (isIdText_of_validateId hauth).isLinkChar
  intro kv hkv
  simp only [contactFields, List.mem_cons, List.not_mem_nil, or_false] at hkv
  rcases hkv with rfl | rfl | rfl | rfl | rfl
  · exact fieldOk_version
  · exact ⟨rfl, by simp, hi⟩
  · exact ⟨rfl, by simp, hs⟩
  · exact ⟨rfl, by simp, fun _ hc => (mem_utf8PercentEncode hc).1⟩
  · exact ⟨rfl, by simp, fun _ => mem_encodeName⟩

theorem fieldOk_chatFields {chat : InviteChat} (hgrpid : IsIdText chat.grpid) :
    ∀ kv ∈ ('v', ['3']) :: chatFields acc chat invitenumber auth, FieldOk kv := by
  have hi := (isIdText_of_validateId hinvite).isLinkChar
  have hs := (isIdText_of_validateId hauth).isLinkChar
  intro kv hkv
  simp only [chatFields, List.mem_cons, List.not_mem_nil, or_false] at hkv
  rcases hkv with rfl | rfl | rfl | rfl | rfl | rfl | rfl
  · exact fieldOk_version
  · exact ⟨rfl, by simp, hgrpid.isLinkChar⟩
  · split <;> exact ⟨rfl, by simp, hi⟩
  · exact ⟨rfl, by simp, hs⟩
  · exact ⟨rfl, by simp, fun _ hc => (mem_utf8PercentEncode hc).1⟩
  · exact ⟨rfl, by simp, fun _ => mem_encodeName⟩
  · split <;> exact ⟨rfl, by simp, fun _ => mem_encodeName⟩

theorem checkQr_contactLink (hcase : AsciiCase sc.toLowercase sc.toUppercase)
    (hfp : IsFingerprint acc.fingerprint) (haddr : AddrOk sc acc.selfAddr addr) :
    checkQr sc (String.ofList (contactLink acc invitenumber auth)) =
      .ok (.ask (invited sc acc.fingerprint (shortenName acc.displayname.toList 25) addr invitenumber
        auth .contact)) := by
  rw [contactLink_eq, checkQr_linkText hcase hfp (fieldOk_contactFields hinvite hauth)]
  generalize hp : lookup (('v', ['3']) :: contactFields acc invitenumber auth) = param
  have hparams : InviteParams param acc.selfAddr (shortenName acc.displayname.toList 25) invitenumber
      auth := by
    constructor <;> simp [← hp, lookup, contactFields]
  have hx : param ['x'] = none := by simp [← hp, lookup, contactFields]
  have hg : decodeName param 'g' = .ok none :=
    decodeName_none (by simp [← hp, lookup, contactFields])
  have hb : decodeName param 'b' = .ok none :=
    decodeName_none (by simp [← hp, lookup, contactFields])
  rw [decodeParams_invite acc.fingerprint hparams hg hb hinvite hauth haddr, hx]
  rfl

/-- the link of a group or channel, for ANY group id that fits into the link -/
theorem checkQr_chatLink {chat : InviteChat} (hcase : AsciiCase sc.toLowercase sc.toUppercase)
    (hfp : IsFingerprint acc.fingerprint) (hgrpid : IsIdText chat.grpid)
    (haddr : AddrOk sc acc.selfAddr addr) :
    checkQr sc (String.ofList (chatLink acc chat invitenumber auth)) =
      .ok (.ask (invited sc acc.fingerprint (shortenName acc.displayname.toList 16) addr invitenumber
        auth
        (if chat.typ = .outBroadcast then
          target (validId (some chat.grpid.toList)) none
            (some (showEllipsis (shortenName chat.name.toList 25)))
        else
          target (validId (some chat.grpid.toList))
            (some (showEllipsis (shortenName chat.name.toList 25))) none))) := by
  rw [chatLink_eq, checkQr_linkText hcase hfp (fieldOk_chatFields hinvite hauth hgrpid)]
  generalize hp : lookup (('v', ['3']) :: chatFields acc chat invitenumber auth) = param
  have hparams : InviteParams param acc.selfAddr (shortenName acc.displayname.toList 16) invitenumber
      auth := by
    by_cases h : chat.typ = .outBroadcast <;> constructor <;> simp [← hp, lookup, chatFields, h]
  have hx : param ['x'] = some chat.grpid.toList := by
    by_cases h : chat.typ = .outBroadcast <;> simp [← hp, lookup, chatFields, h]
  -- only the name of the chat stands under different keys
  by_cases hbroadcast : chat.typ = .outBroadcast
  case pos =>
    have hg : decodeName param 'g' = .ok none :=
      decodeName_none (by simp [← hp, lookup, chatFields, hbroadcast])
    have hb : decodeName param 'b' = .ok (some (showEllipsis (shortenName chat.name.toList 25))) :=
      decodeName_encode (by simp [← hp, lookup, chatFields, hbroadcast])
    rw [decodeParams_invite acc.fingerprint hparams hg hb hinvite hauth haddr, hx, if_pos hbroadcast]
  case neg =>
    have hg : decodeName param 'g' = .ok (some (showEllipsis (shortenName chat.name.toList 25))) :=
      decodeName_encode (by simp [← hp, lookup, chatFields, hbroadcast])
    have hb : decodeName param 'b' = .ok none :=
      decodeName_none (by simp [← hp, lookup, chatFields, hbroadcast])
    rw [decodeParams_invite acc.fingerprint hparams hg hb hinvite hauth haddr, hx, if_neg hbroadcast]

end

/-- what the invite is for, as the inviter means it -/
def inviteTarget : Option InviteChat → InviteTarget
  | none => .contact
  | some chat =>
    let name := String.ofList (showEllipsis (shortenName chat.name.toList 25))
    if chat.typ = .outBroadcast then .broadcast name chat.grpid else .group name chat.grpid

theorem link_of_getSecurejoinQr {acc : Inviter} {chat : InviteChat} {invitenumber auth link : String}
    (h : getSecurejoinQr acc (some chat) invitenumber auth = .ok link) :
    link = String.ofList (chatLink acc chat invitenumber auth) := by
  unfold getSecurejoinQr at h
  dsimp only at h
  split at h
  · cases h
  · split at h
    · cases h
    · split at h
      · cases h
      · exact (Except.ok.inj h).symm

/-- **the other side understands the link**: the same fingerprint, tokens and group id, the
normalised address as the only one, and the name of the chat as it was shortened -/
theorem checkQr_link {sc : Scanner} {acc : Inviter} {chat : Option InviteChat}
    {invitenumber auth link : String}
    (hcase : AsciiCase sc.toLowercase sc.toUppercase)
    (hfp : IsFingerprint acc.fingerprint)
    (hinvite : validateId invitenumber.toList = true) (hauth : validateId auth.toList = true)
    (hgrpid : ∀ c, chat = some c → validateId c.grpid.toList = true)
    (hvalid : Text.mayBeValidAddr (Text.addrNormalize sc.toLowercase acc.selfAddr) = true)
    (hstable : Text.addrNormalize sc.toLowercase (Text.addrNormalize sc.toLowercase acc.selfAddr) =
      Text.addrNormalize sc.toLowercase acc.selfAddr)
    (hother : sc.isSelfAddr (Text.addrNormalize sc.toLowercase acc.selfAddr) = false)
    (hlink : getSecurejoinQr acc chat invitenumber auth = .ok link) :
    ∃ contactId, checkQr sc link =
      .ok (.ask
        { contactId := contactId
          fingerprint := acc.fingerprint
          addrs := [Text.addrNormalize sc.toLowercase acc.selfAddr]
          invitenumber := invitenumber, authcode := auth, isV3 := true
          target := inviteTarget chat }) := by
  have haddr : AddrOk sc acc.selfAddr (Text.addrNormalize sc.toLowercase acc.selfAddr) :=
    { valid := hvalid
      contact := by rw [Text.contactAddress, hstable, if_pos hvalid]
      other := hother }
  rcases chat with _ | chat
  case none =>
    have hok : String.ofList (contactLink acc invitenumber auth) = link := Except.ok.inj hlink
    rw [← hok]
    exact ⟨_, checkQr_contactLink hinvite hauth hcase hfp haddr⟩
  case some =>
    have hid : validateId chat.grpid.toList = true := hgrpid chat rfl
    have hscan := checkQr_chatLink hinvite hauth hcase hfp (isIdText_of_validateId hid) haddr
    rw [validId_of_validateId hid] at hscan
    rw [link_of_getSecurejoinQr hlink]
    exact ⟨_, hscan⟩

/-! ### examples of a scan -/

def freshScanner : Scanner where
  toLowercase s := String.ofList (s.toList.map Char.toLower)
  toUppercase s := String.ofList (s.toList.map Char.toUpper)
  isSelfAddr _ := false
  tokenExists _ := false
  addOrLookup _ _ _ := 10
  hasPublicKey _ := false
  decodeOther _ := .error .other

theorem freshScanner_case : AsciiCase freshScanner.toLowercase freshScanner.toUppercase :=
  ⟨fun _ _ => rfl, fun _ _ => rfl⟩

def alice : Inviter where
  fingerprint := "0123456789ABCDEF0123456789ABCDEF01234567"
  selfAddr := "Alice@example.org"
  displayname := "Alice & Bob_"

theorem alice_fingerprint : IsFingerprint alice.fingerprint := by
  have hall : alice.fingerprint.toList.all isUpperHex = true := by decide
  exact ⟨List.all_eq_true.mp hall, .inl (by decide)⟩

def friends : InviteChat := ⟨.group, "abcdefghijkl", "100% + more", true⟩

theorem checkQr_link_alice :
    ∃ contactId, checkQr freshScanner
        (String.ofList (chatLink alice friends "invitenumber0" "authcode00000")) =
      .ok (.ask
        { contactId := contactId
          fingerprint := alice.fingerprint
          addrs := [Text.addrNormalize freshScanner.toLowercase alice.selfAddr]
          invitenumber := "invitenumber0", authcode := "authcode00000", isV3 := true
          target := inviteTarget (some friends) }) := by
  have hgrpid : ∀ c, some friends = some c → validateId c.grpid.toList = true := by
    intro c hc
    cases hc
    decide
  have hnorm : Text.addrNormalize freshScanner.toLowercase alice.selfAddr = "alice@example.org" := by
    decide
  have hvalid : Text.mayBeValidAddr "alice@example.org" = true := by decide
  have hstable : Text.addrNormalize freshScanner.toLowercase "alice@example.org" =
      "alice@example.org" := by decide
  have hlink : getSecurejoinQr alice (some friends) "invitenumber0" "authcode00000" =
      .ok (String.ofList (chatLink alice friends "invitenumber0" "authcode00000")) := by
    simp [getSecurejoinQr, friends]
  refine checkQr_link freshScanner_case alice_fingerprint (by decide) (by decide) hgrpid ?_ ?_ rfl
    hlink
  · rw [hnorm]
    exact hvalid
  · rw [hnorm]
    exact hstable

def prefixedAlice : Inviter := { alice with selfAddr := "mailto:mailto:a@b" }

/-- a group id of three characters is ignored, so the group becomes a contact; and an address
with two prefixes loses both -/
theorem checkQr_link_short_id :
    checkQr freshScanner
        (String.ofList (chatLink alice ⟨.group, "abc", "x", true⟩ "invitenumber0" "authcode00000")) =
      .ok (.ask
        { contactId := 10
          fingerprint := alice.fingerprint
          addrs := ["alice@example.org"]
          invitenumber := "invitenumber0", authcode := "authcode00000", isV3 := true
          target := .contact }) ∧
      checkQr freshScanner
          (String.ofList (contactLink prefixedAlice "invitenumber0" "authcode00000")) =
        .ok (.ask
          { contactId := 10
            fingerprint := prefixedAlice.fingerprint
            addrs := ["a@b"]
            invitenumber := "invitenumber0", authcode := "authcode00000", isV3 := true
            target := .contact }) ∧
      Text.addrNormalize freshScanner.toLowercase prefixedAlice.selfAddr = "mailto:a@b" := by
  have hid : IsIdText "abc" := List.all_eq_true.mp (by decide)
  have haddr : AddrOk freshScanner alice.selfAddr "alice@example.org" := ⟨by decide, by decide, rfl⟩
  have haddr' : AddrOk freshScanner prefixedAlice.selfAddr "a@b" := ⟨by decide, by decide, rfl⟩
  have hfp : IsFingerprint prefixedAlice.fingerprint := alice_fingerprint
  refine ⟨?_, ?_, by decide⟩
  · rw [checkQr_chatLink (by decide) (by decide) freshScanner_case alice_fingerprint hid haddr]
    rfl
  · exact checkQr_contactLink (by decide) (by decide) freshScanner_case hfp haddr'

end Link
end EpsilonChat.SecureJoin
