import EpsilonChat.Key.Aheader
import EpsilonChat.Lib.Eff
import EpsilonChat.Mime.Protection

/-!
# Secured headers

Some headers are honoured only in messages that are encrypted AND signed.  Headers enter the map in
three passes (the outer section, the first subpart, the decrypted part) and are purged in two; which
purge runs is decided by the signatures, and these are found at three places.

* `Decryption`: what `decrypt` gives, with the signatures of the decrypted message;
* `fromBytes`: the headers and the gossiped keys of a message, for every such result;
* `fromBytes_headers`: its header map is that of `fromBytesHeaders`;
* `Purged`: the secured headers that may be left;
* **`secured_headers`**: a message that is not both encrypted and signed has purged headers and no
  gossiped keys.

The Autocrypt header, the keyrings and the parts of the message are left out: they do not touch the
header map.
-/

namespace EpsilonChat.Mime
open Lib Text

/-! ## decryption and signatures -/

/-- a parsed mail, and what `validate_detached_signature` makes of it: the signed content and the
fingerprints of valid signatures -/
structure Received where
  mail : ParsedMail
  detached : Option (ParsedMail × List String) := none

abbrev Signatures := List (String × List String)

inductive Decryption where
  /-- `mail` is `none` if the decrypted data cannot be parsed -/
  | decrypted (mail : Option Received) (signatures : Signatures)
      (expectedSenderFingerprint : Option String)
  | notEncrypted
  | failed

/-- a key is known by its fingerprint -/
structure Aheader where
  addr : String
  publicKey : String
  verified : Bool

structure Crypto where
  /-- `Aheader::from_str` -/
  parseAheader : String → Option Aheader
  importPublicKey : String → Bool
  parseFingerprint : String → Option String

inductive ParseError where
  | header (e : HeaderError)
  /-- the decrypted data -/
  | mail
  /-- "Unsigned message is not allowed to be encrypted with this shared secret" -/
  | unsigned
  /-- "Too many signatures on symm-encrypted message" -/
  | tooManySignatures
  | fingerprint
  /-- "This sender is not allowed to encrypt with this secret key" -/
  | otherSender
  /-- "Failed to import Autocrypt-Gossip key" -/
  | gossip
  deriving DecidableEq, Repr

structure Opened where
  /-- `none` if decryption failed -/
  content : Option Received
  isEncrypted : Bool
  signatures : Signatures
  expectedSenderFingerprint : Option String

def Decryption.opened (mail : Received) : Decryption → Except ParseError Opened
  | .decrypted none _ _ => .error .mail
  | .decrypted (some inner) signatures expected => .ok ⟨some inner, true, signatures, expected⟩
  | .notEncrypted => .ok ⟨some mail, false, [], none⟩
  | .failed => .ok ⟨none, false, [], none⟩

def extendSignatures (signatures : Signatures) (detached : List String) : Signatures :=
  detached.foldl (fun s fp => s.filter (fun x => x.1 ≠ fp) ++ [(fp, [])]) signatures

def Opened.validate (o : Opened) : Option ParsedMail × Signatures :=
  match o.content with
  | none => (none, o.signatures)
  | some mail =>
    let (content, detached) := mail.detached.getD (mail.mail, [])
    (some content, if o.isEncrypted then extendSignatures o.signatures detached else o.signatures)

section
variable (P : Mailparse) (crypto : Crypto)

def checkSender (signatures : Signatures) : Option String → Except ParseError Unit
  | none => .ok ()
  | some expected =>
    if signatures.isEmpty then .error .unsigned
    else if signatures.length ≠ 1 then .error .tooManySignatures
    else
      match crypto.parseFingerprint expected with
      | none => .error .fingerprint
      | some fp => if signatures.any fun x => x.1 == fp then .ok () else .error .otherSender

/-! ## gossip -/

def getAllValues (headers : List MailHeader) (name : String) : List String :=
  (headers.filter fun h => asciiLowercase h.key == asciiLowercase name).map MailHeader.value

def insertKey (keys : List (String × GossipedKey)) (addr : String) (key : GossipedKey) :
    List (String × GossipedKey) :=
  keys.filter (fun x => x.1 ≠ addr) ++ [(addr, key)]

/-- the address of a gossip header must be a recipient's, and not the sender's -/
def gossipAllowed (from_ : String) (recipients : List SingleInfo) (header : Aheader) : Bool :=
  (recipients.any fun info => addrCmp P.toLowercase info.addr header.addr) &&
    !addrCmp P.toLowercase from_ header.addr

def gossipLoop (from_ : String) (recipients : List SingleInfo) (keys : List (String × GossipedKey)) :
    List String → Except ParseError (List (String × GossipedKey))
  | [] => .ok keys
  | value :: values =>
    match (crypto.parseAheader value).filter (gossipAllowed P from_ recipients) with
    | none => gossipLoop from_ recipients keys values
    | some header =>
      if crypto.importPublicKey header.publicKey then
        gossipLoop from_ recipients (insertKey keys (P.toLowercase header.addr)
          { fingerprint := header.publicKey, verified := header.verified }) values
      else .error .gossip

def parseGossipHeaders (from_ : String) (recipients : List SingleInfo) (values : List String) :
    Except ParseError (List (String × GossipedKey)) :=
  gossipLoop P crypto from_ recipients [] values

/-! ## `from_bytes` -/

structure Parsed where
  state : HeaderState
  isEncrypted : Bool
  signatures : Signatures
  gossipedKeys : List (String × GossipedKey) := []

def gossipOf (from_ : SingleInfo) (s : HeaderState) (mail : ParsedMail) (signed : Bool) :
    Except ParseError (List (String × GossipedKey)) :=
  if signed then
    parseGossipHeaders P crypto from_.addr s.recipients (getAllValues mail.headers "Autocrypt-Gossip")
  else .ok []

def checkFrom (s : HeaderState) (from_ : SingleInfo) : Except ParseError HeaderState :=
  match s.from_ with
  | none => .ok { s with from_ := some from_ }
  | some innerFrom =>
    if addrCmp P.toLowercase innerFrom.addr from_.addr then .ok s
    else .error (.header .forgedFrom)

def mergeDecrypted (s : HeaderState) (from_ : SingleInfo) (mail : ParsedMail) (signed : Bool) :
    Except ParseError (HeaderState × List (String × GossipedKey)) := do
  let headers :=
    if signed then removeHeader (removeHeader s.headers "subject") "list-id" else s.headers
  let s := mergeHeaders P { s with headers, from_ := none } mail
  let gossipedKeys ← gossipOf P crypto from_ s mail signed
  let s ← checkFrom P s from_
  pure (s, gossipedKeys)

def mergeContent (s : HeaderState) (from_ : SingleInfo) (content : Option ParsedMail)
    (isEncrypted signed : Bool) : Except ParseError (HeaderState × List (String × GossipedKey)) :=
  match content, isEncrypted with
  | some mail, true => mergeDecrypted P crypto s from_ mail signed
  | _, _ => .ok ({ s with from_ := some from_ }, [])

def purge (s : HeaderState) (isEncrypted signed : Bool) : HeaderState :=
  if signed then s else { s with headers := removeSecuredHeaders s.headers isEncrypted }

def fromBytes (mail : Received) (decryption : Decryption) : Except ParseError Parsed := do
  let (s, from_) ← (outerHeaders P mail.mail).mapError .header
  let o ← decryption.opened mail
  let (content, signatures) := o.validate
  checkSender crypto signatures o.expectedSenderFingerprint
  let signed := !signatures.isEmpty
  let (s, gossipedKeys) ← mergeContent P crypto s from_ content o.isEncrypted signed
  pure
    { state := purge s o.isEncrypted signed
      isEncrypted := o.isEncrypted
      signatures := if o.isEncrypted then signatures else []
      gossipedKeys }

end

/-! ## the purge -/

/-- the secured headers that may be left in a message that is not signed -/
structure Purged (headers : Headers) (encrypted : Bool) : Prop where
  fingerprint : headers "secure-join-fingerprint" = none
  verified : headers "chat-verified" = none
  gossip : headers "autocrypt-gossip" = none
  auth : ∀ v, headers "secure-join-auth" = some v →
    encrypted = true ∧ headers "secure-join" = some "vc-request-pubkey"
  secureJoin : ∀ v, headers "secure-join" = some v → v = "vc-request" ∨ v = "vg-request" ∨
    encrypted = true ∧ v = "vc-request-pubkey"

theorem removeHeader_self (headers : Headers) (key : String) : removeHeader headers key key = none :=
  Function.update_self ..

theorem removeHeader_of_ne (headers : Headers) {key key' : String} (h : key' ≠ key) :
    removeHeader headers key key' = headers key' := Function.update_of_ne h _ _

theorem removeHeader_eq_none {headers : Headers} {key : String} (h : headers key = none)
    (key' : String) : removeHeader headers key' key = none := by
  by_cases e : key = key'
  · rw [e]
    exact removeHeader_self headers key'
  · exact (removeHeader_of_ne headers e).trans h

def withoutSecured (headers : Headers) : Headers :=
  removeHeader (removeHeader (removeHeader headers "secure-join-fingerprint") "chat-verified")
    "autocrypt-gossip"

/-- the one request that is encrypted and not signed keeps the rest; all others lose the auth token,
and the handshake header unless it is that of a first request -/
theorem removeSecuredHeaders_cases (headers : Headers) (encrypted : Bool) :
    ((encrypted = true ∧ withoutSecured headers "secure-join" = some "vc-request-pubkey") ∧
        removeSecuredHeaders headers encrypted = withoutSecured headers) ∨
      ((∀ v, withoutSecured headers "secure-join" = some v → v = "vc-request" ∨ v = "vg-request") ∧
        removeSecuredHeaders headers encrypted =
          removeHeader (withoutSecured headers) "secure-join-auth") ∨
      removeSecuredHeaders headers encrypted =
        removeHeader (removeHeader (withoutSecured headers) "secure-join-auth") "secure-join" := by
  unfold removeSecuredHeaders
  dsimp only
  split
  · next hpubkey => exact .inl ⟨hpubkey.symm, rfl⟩
  · right
    split
    · next hnone =>
      refine .inl ⟨fun v hv => ?_, rfl⟩
      cases hnone.symm.trans ((removeHeader_of_ne _ (by decide)).trans hv)
    · next secureJoin hsome =>
      split
      · next hrequest =>
        refine .inl ⟨fun v hv => ?_, rfl⟩
        cases hsome.symm.trans ((removeHeader_of_ne _ (by decide)).trans hv)
        exact hrequest
      · exact .inr rfl

theorem removeSecuredHeaders_eq_none {headers : Headers} {key : String}
    (h : withoutSecured headers key = none) (encrypted : Bool) :
    removeSecuredHeaders headers encrypted key = none := by
  rcases removeSecuredHeaders_cases headers encrypted with ⟨-, e⟩ | ⟨-, e⟩ | e <;> rw [e]
  · exact h
  · exact removeHeader_eq_none h _
  · exact removeHeader_eq_none (removeHeader_eq_none h _) _

/-- **The purge leaves only what may be left.** -/
theorem removeSecuredHeaders_purged (headers : Headers) (encrypted : Bool) :
    Purged (removeSecuredHeaders headers encrypted) encrypted where
  fingerprint := removeSecuredHeaders_eq_none
    (removeHeader_eq_none (removeHeader_eq_none (removeHeader_self _ _) _) _) encrypted
  verified := removeSecuredHeaders_eq_none (removeHeader_eq_none (removeHeader_self _ _) _) encrypted
  gossip := removeSecuredHeaders_eq_none (removeHeader_self _ _) encrypted
  auth := by
    intro v hv
    rcases removeSecuredHeaders_cases headers encrypted with ⟨hpubkey, e⟩ | ⟨-, e⟩ | e <;>
      rw [e] at hv ⊢
    · exact hpubkey
    · cases (removeHeader_self _ _).symm.trans hv
    · cases (removeHeader_eq_none (removeHeader_self _ _) _).symm.trans hv
  secureJoin := by
    intro v hv
    rcases removeSecuredHeaders_cases headers encrypted with ⟨⟨henc, hpubkey⟩, e⟩ | ⟨hfirst, e⟩ | e <;>
      rw [e] at hv
    · exact .inr (.inr ⟨henc, Option.some.inj (hv.symm.trans hpubkey)⟩)
    · rw [removeHeader_of_ne _ (by decide)] at hv
      exact (hfirst v hv).imp_right .inl
    · cases (removeHeader_self _ _).symm.trans hv

/-! ## which messages are signed -/

def Decryption.encrypted : Decryption → Bool
  | .decrypted _ _ _ => true
  | .notEncrypted => false
  | .failed => false

/-- there is a valid signature: of the decrypted message, or a detached one -/
def Decryption.signed (mail : Received) : Decryption → Bool
  | .decrypted inner signatures _ =>
    !signatures.isEmpty || (inner.bind Received.detached).any fun d => !d.2.isEmpty
  | .notEncrypted => mail.detached.any fun d => !d.2.isEmpty
  | .failed => false

def Decryption.content : Decryption → Option ParsedMail
  | .decrypted (some inner) _ _ => some (inner.detached.getD (inner.mail, [])).1
  | _ => none

theorem extendSignatures_eq_nil {signatures : Signatures} {detached : List String} :
    extendSignatures signatures detached = [] ↔ signatures = [] ∧ detached = [] := by
  rcases List.eq_nil_or_concat detached with rfl | ⟨init, last, rfl⟩
  · exact ⟨fun h => ⟨h, rfl⟩, And.left⟩
  · unfold extendSignatures
    rw [List.concat_eq_append, List.foldl_append]
    refine iff_of_false (List.append_ne_nil_of_right_ne_nil _ (List.cons_ne_nil _ _)) ?_
    rintro ⟨-, h⟩
    exact List.append_ne_nil_of_right_ne_nil _ (List.cons_ne_nil _ _) h

theorem opened_signed {mail : Received} {decryption : Decryption} {o : Opened}
    (h : decryption.opened mail = .ok o) : o.isEncrypted = decryption.encrypted ∧
      (o.validate.2 = [] ↔ ¬ (decryption.encrypted = true ∧ decryption.signed mail = true)) := by
  cases decryption with
  | notEncrypted =>
    cases h
    exact ⟨rfl, iff_of_true rfl fun h => Bool.false_ne_true h.1⟩
  | failed =>
    cases h
    exact ⟨rfl, iff_of_true rfl fun h => Bool.false_ne_true h.1⟩
  | decrypted inner signatures expected =>
    cases inner with
    | none => cases h
    | some inner =>
      cases h
      refine ⟨rfl, ?_⟩
      show extendSignatures signatures (inner.detached.getD (inner.mail, [])).2 = [] ↔
        ¬ (true = true ∧ (!signatures.isEmpty || inner.detached.any fun d => !d.2.isEmpty) = true)
      rw [extendSignatures_eq_nil]
      cases inner.detached <;> simp

section
variable {P : Mailparse} {crypto : Crypto} {mail : Received} {decryption : Decryption} {r : Parsed}

theorem fromBytes_ok (h : fromBytes P crypto mail decryption = .ok r) :
    ∃ s from_ o s' gossipedKeys, outerHeaders P mail.mail = .ok (s, from_) ∧
      decryption.opened mail = .ok o ∧
      mergeContent P crypto s from_ o.validate.1 o.isEncrypted (!o.validate.2.isEmpty) =
        .ok (s', gossipedKeys) ∧
      r = { state := purge s' o.isEncrypted (!o.validate.2.isEmpty)
            isEncrypted := o.isEncrypted
            signatures := if o.isEncrypted then o.validate.2 else []
            gossipedKeys } := by
  obtain ⟨⟨s, from_⟩, houter, h⟩ := ok_of_bind_ok h
  obtain ⟨o, ho, h⟩ := ok_of_bind_ok h
  obtain ⟨_, -, h⟩ := ok_of_bind_ok h
  obtain ⟨⟨s', gossipedKeys⟩, hmerge, h⟩ := ok_of_bind_ok h
  refine ⟨s, from_, o, s', gossipedKeys, ?_, ho, hmerge, (Except.ok.inj h).symm⟩
  cases hrun : outerHeaders P mail.mail with
  | error e =>
    rw [hrun] at houter
    cases houter
  | ok so =>
    rw [hrun] at houter
    exact congrArg Except.ok (Except.ok.inj houter)

theorem mergeDecrypted_ok {s s' : HeaderState} {from_ : SingleInfo} {content : ParsedMail}
    {signed : Bool} {keys : List (String × GossipedKey)}
    (h : mergeDecrypted P crypto s from_ content signed = .ok (s', keys)) :
    innerHeaders P s from_ content signed = .ok (purge s' true signed) := by
  obtain ⟨keys', -, h⟩ := ok_of_bind_ok h
  obtain ⟨s'', hfrom, h⟩ := ok_of_bind_ok h
  cases h
  unfold innerHeaders
  unfold checkFrom at hfrom
  dsimp only
  split at hfrom
  · next hnone =>
    cases hfrom
    cases signed <;> simp_all [purge]
  · next innerFrom hsome =>
    split at hfrom
    · next haddr =>
      cases hfrom
      cases signed <;> simp_all [purge]
    · cases hfrom

theorem fromBytes_headers (h : fromBytes P crypto mail decryption = .ok r) :
    fromBytesHeaders P mail.mail decryption.content (!r.signatures.isEmpty) = .ok r.state := by
  obtain ⟨s, from_, o, s', keys, houter, ho, hmerge, rfl⟩ := fromBytes_ok h
  unfold fromBytesHeaders
  rw [houter]
  cases decryption with
  | notEncrypted =>
    cases ho
    cases hmerge
    rfl
  | failed =>
    cases ho
    cases hmerge
    rfl
  | decrypted inner signatures expected =>
    cases inner with
    | none => cases ho
    | some inner =>
      cases ho
      exact mergeDecrypted_ok hmerge

theorem mergeContent_unsigned {s s' : HeaderState} {from_ : SingleInfo}
    {content : Option ParsedMail} {isEncrypted : Bool} {keys : List (String × GossipedKey)}
    (h : mergeContent P crypto s from_ content isEncrypted false = .ok (s', keys)) : keys = [] := by
  unfold mergeContent at h
  split at h
  · obtain ⟨keys', hkeys, h⟩ := ok_of_bind_ok h
    obtain ⟨s'', -, h⟩ := ok_of_bind_ok h
    cases h
    exact (Except.ok.inj hkeys).symm
  · cases h
    rfl

theorem gossipedKeys_of_unsigned (h : fromBytes P crypto mail decryption = .ok r)
    (hnot : ¬ (decryption.encrypted = true ∧ decryption.signed mail = true)) :
    r.gossipedKeys = [] := by
  obtain ⟨s, from_, o, s', keys, -, ho, hmerge, rfl⟩ := fromBytes_ok h
  rw [(opened_signed ho).2.mpr hnot] at hmerge
  exact mergeContent_unsigned hmerge

end

/-- **A message that is not both encrypted and validly signed keeps no secured header but those of a
request, and no gossiped keys, wherever they stood.** -/
theorem secured_headers (P : Mailparse) (crypto : Crypto) (mail : Received) (decryption : Decryption)
    (r : Parsed) (h : fromBytes P crypto mail decryption = .ok r)
    (hnot : ¬ (decryption.encrypted = true ∧ decryption.signed mail = true)) :
    Purged r.state.headers decryption.encrypted ∧ r.gossipedKeys = [] := by
  refine ⟨?_, gossipedKeys_of_unsigned h hnot⟩
  obtain ⟨s, from_, o, s', keys, -, ho, -, rfl⟩ := fromBytes_ok h
  obtain ⟨henc, hsigned⟩ := opened_signed ho
  rw [← henc, hsigned.mpr hnot]
  exact removeSecuredHeaders_purged s'.headers o.isEncrypted

/-! ## a forged request -/

def forgedRequest : Received where
  mail :=
    { headers := [⟨"from", "eve@x"⟩, ⟨"chat-verified", "1"⟩, ⟨"secure-join", "vg-request-with-auth"⟩]
      mimetype := some ("multipart", "mixed")
      firstSubpart := some [⟨"secure-join-auth", "token"⟩] }

def bobGossip : String := "addr=bob@x.org; _verified=1; " ++
  "keydata=xjwEBQYHCAkKCwwNDg8QERITFBUWFxgZGhscHR4fICEiIyQlJicoKSorLC0uLzAxMjM0NT Y3ODk6Ozw9Pj8="

/-- and in the part that is encrypted to the receiver, which anyone can do -/
def forgedInner : Received where
  mail :=
    { headers := [⟨"secure-join", "vc-request-pubkey"⟩, ⟨"secure-join-auth", "token"⟩,
        ⟨"secure-join-fingerprint", "eve"⟩, ⟨"autocrypt-gossip", bobGossip⟩] }

/-- keys are packets, and the digits of the first bytes stand for the hash -/
def plainCrypto : Crypto where
  parseAheader value := (Autocrypt.fromStr Autocrypt.packets value.toList).toOption.map fun h =>
    { addr := String.ofList h.addr
      publicKey := String.ofList ((h.publicKey.val.take 20).flatMap fun b =>
        [Nat.digitChar (b.toNat / 16), Nat.digitChar (b.toNat % 16)])
      verified := h.verified }
  importPublicKey _ := true
  parseFingerprint := some

theorem fromBytes_headers_forged :
    let decryption := Decryption.decrypted (some forgedInner) [] none
    ∃ r, fromBytes plainParse plainCrypto forgedRequest decryption = .ok r ∧
      fromBytesHeaders plainParse forgedRequest.mail decryption.content (!r.signatures.isEmpty) =
        .ok r.state := by
  intro decryption
  have h : ∃ r, fromBytes plainParse plainCrypto forgedRequest decryption = .ok r := ⟨_, rfl⟩
  obtain ⟨r, h⟩ := h
  exact ⟨r, h, fromBytes_headers h⟩

theorem secured_headers_forged :
    ∃ r, fromBytes plainParse plainCrypto forgedRequest (.decrypted (some forgedInner) [] none) =
        .ok r ∧
      (Purged r.state.headers true ∧ r.gossipedKeys = []) :=
  ⟨_, rfl, secured_headers plainParse plainCrypto forgedRequest
    (.decrypted (some forgedInner) [] none) _ rfl (by decide)⟩

end EpsilonChat.Mime
