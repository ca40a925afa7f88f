import EpsilonChat.SecureJoin.Link

/-!
# Login links

`decode_login` reads `dclogin:user@host?p=password&v=1` and the same with slashes.  The slashes are
removed by replacing the FIRST `://` of the text by `:`, wherever that is:

    dclogin://p   ↦   dclogin:p
    dclogin:p     ↦   dclogin:p'      with p' the payload without ITS first `://`

then the address is cut out of the text, and the options come from a url parser (`Url` is what is
read of its result).

* `decodeReplaced_addr`: what is accepted has a valid address;
* **`login_slashes_iff`**: both spellings of a link mean the same for every url parser iff the
  payload has no `://`, or has no address with or without the replacement.
-/

namespace EpsilonChat.Scan
open Lib.Split

/-- what is read of a `url::Url` -/
structure Url where
  scheme : String
  hostStr : Option String := none
  port : Option ℕ := none
  portOrKnownDefault : Option ℕ := none
  path : String := ""
  query : Option String := none
  queryPairs : List (String × String) := []
  deriving DecidableEq, Repr

/-- `str::get(n..)`, by bytes: nothing beyond the end and nothing from inside a character -/
def getFrom : ℕ → List Char → Option (List Char)
  | 0, s => some s
  | _ + 1, [] => none
  | n + 1, c :: s => if c.utf8Size ≤ n + 1 then getFrom (n + 1 - c.utf8Size) s else none

/-- `str::parse` of an unsigned integer below `bound` -/
def parseUnsigned (bound : ℕ) (s : String) : Option ℕ :=
  let digits := match s.toList with
    | '+' :: cs => cs
    | cs => cs
  (I64.parseDigits digits).filter (· < bound)

/-! ## the options -/

inductive Socket where
  | automatic | ssl | starttls | plain
  deriving DecidableEq, Repr

inductive EnteredCertificateChecks where
  | automatic | strict | acceptInvalidCertificates | acceptInvalidCertificates2
  deriving DecidableEq, Repr

inductive LoginOptions where
  | unsuportedVersion (v : ℕ)
  | v1 (mailPw : String)
      (imapHost : Option String) (imapPort : Option ℕ) (imapUsername imapPassword : Option String)
      (imapSecurity : Option Socket)
      (smtpHost : Option String) (smtpPort : Option ℕ) (smtpUsername smtpPassword : Option String)
      (smtpSecurity : Option Socket)
      (certificateChecks : Option EnteredCertificateChecks)
  deriving DecidableEq, Repr

inductive LoginError where
  /-- "Malformed url: {qr:?}" -/
  | malformedUrl (qr : List Char)
  /-- "invalid DCLOGIN payload E1" -/
  | e1
  /-- "invalid DCLOGIN payload E4" -/
  | e4
  /-- "Address must be UTF-8" -/
  | addressUtf8
  /-- "Invalid DCLOGIN payload: invalid username {addr:?}." -/
  | invalidUsername (addr : String)
  /-- "password missing" -/
  | passwordMissing
  /-- "could not parse imap port" -/
  | imapPort
  /-- "could not parse smtp port" -/
  | smtpPort
  /-- "Unknown security level: {other}" -/
  | securityLevel (other : String)
  /-- "Unknown certificatecheck level: {other}" -/
  | certificatecheckLevel (other : String)
  /-- "version could not be parsed as number E6" -/
  | e6
  /-- "invalid DCLOGIN payload: version missing E7" -/
  | e7
  /-- "Bad scheme for account URL: {payload:?}." -/
  | badScheme (payload : List Char)
  deriving DecidableEq, Repr

def parsePort (error : LoginError) : Option String → Except LoginError (Option ℕ)
  | none => .ok none
  | some p =>
    match parseUnsigned (2 ^ 16) p with
    | some port => .ok (some port)
    | none => .error error

def parseSocketSecurity : Option String → Except LoginError (Option Socket)
  | some "ssl" => .ok (some .ssl)
  | some "starttls" => .ok (some .starttls)
  | some "default" => .ok (some .automatic)
  | some "plain" => .ok (some .plain)
  | some other => .error (.securityLevel other)
  | none => .ok none

def parseCertificateChecks : Option String → Except LoginError (Option EnteredCertificateChecks)
  | some "0" => .ok (some .automatic)
  | some "1" => .ok (some .strict)
  | some "2" => .ok (some .acceptInvalidCertificates)
  | some "3" => .ok (some .acceptInvalidCertificates2)
  | some other => .error (.certificatecheckLevel other)
  | none => .ok none

/-- the `HashMap` of the query: of several values for a key the last one stays -/
def parameterMap (pairs : List (String × String)) (key : String) : Option String :=
  (pairs.reverse.find? fun kv => kv.1 == key).map Prod.snd

def loginOptions (param : String → Option String) : Except LoginError LoginOptions :=
  match (param "v").map (parseUnsigned (2 ^ 32)) with
  | none => .error .e7
  | some none => .error .e6
  | some (some 1) => do
    let mailPw ← (param "p").elim (.error .passwordMissing) .ok
    let imapPort ← parsePort .imapPort (param "ip")
    let imapSecurity ← parseSocketSecurity (param "is")
    let smtpPort ← parsePort .smtpPort (param "sp")
    let smtpSecurity ← parseSocketSecurity (param "ss")
    let certificateChecks ← parseCertificateChecks (param "ic")
    return .v1 mailPw (param "ih") imapPort (param "iu") (param "ipw") imapSecurity
      (param "sh") smtpPort (param "su") (param "spw") smtpSecurity certificateChecks
  | some (some v) => .ok (.unsuportedVersion v)

/-! ## the link -/

def dcloginScheme : List Char := "DCLOGIN:".toList

def addrPart (payload : List Char) : List Char := payload.takeWhile fun c => c != '?' && c != '/'

/-- `decode_login` after the replacement; the result is the address with the options -/
def decodeReplaced (parse : List Char → Option Url) (qr : List Char) :
    Except LoginError (String × LoginOptions) :=
  match parse qr with
  | none => .error (.malformedUrl qr)
  | some url =>
    match getFrom dcloginScheme.length qr with
    | none => .error .e1
    | some payload =>
      if Text.asciiLowercase url.scheme = "dclogin" then
        if url.queryPairs = [] then .error .e4
        else
          match SecureJoin.Link.percentDecodeStr (addrPart payload) with
          | none => .error .addressUtf8
          | some addr =>
            if Text.mayBeValidAddr (String.ofList addr) then
              (loginOptions (parameterMap url.queryPairs)).map fun options =>
                (String.ofList addr, options)
            else .error (.invalidUsername (String.ofList addr))
      else .error (.badScheme payload)

def decodeLogin (parse : List Char → Option Url) (qr : List Char) :
    Except LoginError (String × LoginOptions) :=
  decodeReplaced parse (replaceFirst [':', '/', '/'] [':'] qr)

section
variable {parse : List Char → Option Url} {qr p : List Char}

theorem decodeReplaced_congr {qr' : List Char} (hurl : parse qr = parse qr')
    (hget : getFrom dcloginScheme.length qr = getFrom dcloginScheme.length qr') :
    (decodeReplaced parse qr).toOption = (decodeReplaced parse qr').toOption := by
  unfold decodeReplaced
  rw [hurl, hget]
  cases parse qr' <;> rfl

/-- the payload as `decode_login` reads it after `dclogin:` -/
def replacedPayload (p : List Char) : List Char := replaceFirst [':', '/', '/'] [':'] p

theorem decodeLogin_slashes (parse : List Char → Option Url) (p : List Char) :
    decodeLogin parse ("dclogin://".toList ++ p) = decodeReplaced parse ("dclogin:".toList ++ p) := by
  have hcut : "dclogin://".toList ++ p = "dclogin".toList ++ ([':', '/', '/'] ++ p) := rfl
  rw [decodeLogin, hcut, replaceFirst_append_of_not_mem (by decide),
    replaceFirst_append_self (by decide)]
  rfl

theorem decodeLogin_noSlashes (parse : List Char → Option Url) (hp : p.head? ≠ some '/') :
    decodeLogin parse ("dclogin:".toList ++ p)
      = decodeReplaced parse ("dclogin:".toList ++ replacedPayload p) := by
  have hcut : "dclogin:".toList ++ p = "dclogin".toList ++ (':' :: p) := rfl
  have hscheme : ¬ [':', '/', '/'] <+: ':' :: p := by
    intro h
    obtain ⟨rest, hrest⟩ := (List.cons_prefix_cons.mp h).2
    exact hp (by rw [← hrest]; rfl)
  rw [decodeLogin, hcut, replaceFirst_append_of_not_mem (by decide), replaceFirst, if_neg hscheme]
  rfl

/-! ## the address -/

/-- there is an address before the first `?` or `/` -/
def HasAddr (p : List Char) : Prop :=
  ∃ addr, SecureJoin.Link.percentDecodeStr (addrPart p) = some addr ∧
    Text.mayBeValidAddr (String.ofList addr) = true

theorem getFrom_append {x : List Char} (h : ∀ c ∈ x, c.toNat < 128) (s : List Char) :
    getFrom x.length (x ++ s) = some s := by
  induction x with
  | nil => cases s <;> rfl
  | cons c x ih =>
    have hc : c.utf8Size = 1 := by
      refine Char.utf8Size_eq_one_iff.mpr (UInt32.le_iff_toNat_le.mpr ?_)
      exact Nat.le_of_lt_succ (h c List.mem_cons_self)
    rw [List.length_cons, List.cons_append, getFrom, hc, if_pos (Nat.le_add_left 1 _),
      Nat.add_sub_cancel, ih fun c' hc' => h c' (List.mem_cons_of_mem _ hc')]

theorem getFrom_dclogin (p : List Char) :
    getFrom dcloginScheme.length ("dclogin:".toList ++ p) = some p := by
  have hlen : dcloginScheme.length = "dclogin:".toList.length := by decide
  rw [hlen]
  exact getFrom_append (by simp) p

theorem decodeReplaced_addr (hget : getFrom dcloginScheme.length qr = some p)
    {login : String × LoginOptions} (h : decodeReplaced parse qr = .ok login) : HasAddr p := by
  unfold decodeReplaced at h
  rw [hget] at h
  split at h
  · cases h
  · dsimp only at h
    split at h
    · split at h
      · cases h
      · split at h
        · cases h
        · next addr haddr =>
          split at h
          · next hvalid => exact ⟨addr, haddr, hvalid⟩
          · cases h
    · cases h

theorem decodeReplaced_none (hget : getFrom dcloginScheme.length qr = some p) (hno : ¬ HasAddr p) :
    (decodeReplaced parse qr).toOption = none := by
  cases h : decodeReplaced parse qr with
  | error e => rfl
  | ok login => exact absurd (decodeReplaced_addr hget h) hno

def oneUrl (text : List Char) : List Char → Option Url := fun qr =>
  if qr = text then some { scheme := "dclogin", queryPairs := [("v", "2")] } else none

theorem decodeReplaced_oneUrl (hget : getFrom dcloginScheme.length qr = some p) (h : HasAddr p) :
    ∃ login, decodeReplaced (oneUrl qr) qr = .ok login := by
  obtain ⟨addr, haddr, hvalid⟩ := h
  have hscheme : Text.asciiLowercase "dclogin" = "dclogin" := by decide
  refine ⟨(String.ofList addr, .unsuportedVersion 2), ?_⟩
  unfold decodeReplaced
  simp only [oneUrl, if_true, hget, hscheme, haddr, hvalid]
  rfl

theorem decodeReplaced_oneUrl_of_ne {text : List Char} (h : qr ≠ text) :
    (decodeReplaced (oneUrl text) qr).toOption = none := by
  unfold decodeReplaced
  simp only [oneUrl, if_neg h]
  rfl

end

/-- **BOTH SPELLINGS OF A LINK** fail or give the same address and options, for every url parser, iff
the payload has no `://`, or has no address before and after the replacement -/
theorem login_slashes_iff (p : List Char) (hp : p.head? ≠ some '/') :
    (∀ parse : List Char → Option Url,
      (decodeLogin parse ("dclogin:".toList ++ p)).toOption
        = (decodeLogin parse ("dclogin://".toList ++ p)).toOption) ↔
    (¬ [':', '/', '/'] <:+: p ∨ (¬ HasAddr p ∧ ¬ HasAddr (replacedPayload p))) := by
  simp only [decodeLogin_slashes, decodeLogin_noSlashes _ hp]
  constructor
  · intro h
    by_cases hin : [':', '/', '/'] <:+: p
    · -- the replacement makes the payload shorter, so the parser sees two texts
      have hne : "dclogin:".toList ++ replacedPayload p ≠ "dclogin:".toList ++ p := by
        intro e
        have hlen : (replacedPayload p).length + 3 = p.length + 1 :=
          length_replaceFirst p (List.cons_ne_nil _ _) hin
        have heq := congrArg List.length (List.append_cancel_left e)
        omega
      refine .inr ⟨fun haddr => ?_, fun haddr => ?_⟩
      · obtain ⟨login, hok⟩ := decodeReplaced_oneUrl (getFrom_dclogin p) haddr
        have hagree := h (oneUrl ("dclogin:".toList ++ p))
        rw [hok, decodeReplaced_oneUrl_of_ne hne] at hagree
        cases hagree
      · obtain ⟨login, hok⟩ := decodeReplaced_oneUrl (getFrom_dclogin (replacedPayload p)) haddr
        have hagree := h (oneUrl ("dclogin:".toList ++ replacedPayload p))
        rw [hok, decodeReplaced_oneUrl_of_ne hne.symm] at hagree
        cases hagree
    · exact .inl hin
  · rintro (hno | ⟨hno, hno'⟩) parse
    · rw [replacedPayload, replaceFirst_of_not_infix p hno]
    · rw [decodeReplaced_none (getFrom_dclogin p) hno,
        decodeReplaced_none (getFrom_dclogin (replacedPayload p)) hno']

/-- the parts of a url of a scheme without special meaning, where nothing is encoded -/
def plainUrl (qr : List Char) : Option Url :=
  (splitOnce ':' qr).map fun parts =>
    { scheme := String.ofList (parts.1.map Char.toLower)
      queryPairs := match splitOnce '?' parts.2 with
        | none => []
        | some rest => (rest.2.splitOn '&').filterMap fun pair =>
            (splitOnce '=' pair).map fun kv => (String.ofList kv.1, String.ofList kv.2) }

def plainPayload : List Char := "me@host.tld?p=1&v=1".toList

theorem login_slashes_plain :
    plainPayload.head? ≠ some '/' ∧
    ∀ parse : List Char → Option Url,
      (decodeLogin parse ("dclogin:".toList ++ plainPayload)).toOption
        = (decodeLogin parse ("dclogin://".toList ++ plainPayload)).toOption := by
  have hhead : plainPayload.head? ≠ some '/' := by decide
  have hno : ¬ [':', '/', '/'] <:+: plainPayload := by decide
  exact ⟨hhead, (login_slashes_iff plainPayload hhead).mpr (.inl hno)⟩

/-- the password `a://b` is read as `a:b` without the slashes -/
theorem login_slashes_password :
    decodeLogin plainUrl "dclogin:me@host.tld?p=a://b&v=1".toList
      = .ok ("me@host.tld", .v1 "a:b" none none none none none none none none none none none) ∧
    decodeLogin plainUrl "dclogin://me@host.tld?p=a://b&v=1".toList
      = .ok ("me@host.tld", .v1 "a://b" none none none none none none none none none none none) := by
  decide

end EpsilonChat.Scan
