import EpsilonChat.Base.Ids
import EpsilonChat.Contact.Vcard
import EpsilonChat.Lib.IdTable

/-!
# `add_or_lookup_ex`: private names stay private

A contact has two names: `authname`, which came from its own messages and is passed on to others,
and `name`, which the user gave it.  `add_or_lookup_ex` gets a name, an address, a fingerprint and
an `Origin`, finds or creates the row, and writes the name into one of the two columns.  If the
origin says that the name is from the user (`Origin.isManual`), that must not be `authname`.

* `Contact.public`: what others may learn of a row;
* `publicStep`: what a call does to the PUBLIC table: it gets a name only if the origin is not
  manual;
* `addOrLookupEx_public`: the public part of a table changes as `publicStep` says, so the private
  part cannot have a say in it;
* **`private_names_stay_private`**: two runs of calls that differ in private names only leave the
  same public table, after every call.

The statement `UPDATE contacts` rewrites four columns whenever one of them is to change, and one of
the conditions is about the private name: the other columns then get the values they have.
-/

namespace EpsilonChat.AddOrLookup
open Lib Text

/-! ## origins -/

inductive Origin where
  | unknown | mailinglistAddress | hidden | incomingUnknownFrom | incomingUnknownCc
  | incomingUnknownTo | unhandledQrScan | unhandledSecurejoinQrScan | incomingReplyTo | incomingCc
  | incomingTo | createChat | outgoingBcc | outgoingCc | outgoingTo | internal | addressBook
  | securejoinInvited | securejoinJoined | manuallyCreated
  deriving DecidableEq, Repr

namespace Origin

/-- the number that is stored, by which origins are compared -/
def value : Origin → ℕ
  | unknown => 0
  | mailinglistAddress => 0x2
  | hidden => 0x8
  | incomingUnknownFrom => 0x10
  | incomingUnknownCc => 0x20
  | incomingUnknownTo => 0x40
  | unhandledQrScan => 0x80
  | unhandledSecurejoinQrScan => 0x81
  | incomingReplyTo => 0x100
  | incomingCc => 0x200
  | incomingTo => 0x400
  | createChat => 0x800
  | outgoingBcc => 0x1000
  | outgoingCc => 0x2000
  | outgoingTo => 0x4000
  | internal => 0x40000
  | addressBook => 0x80000
  | securejoinInvited => 0x1000000
  | securejoinJoined => 0x2000000
  | manuallyCreated => 0x4000000

instance : LE Origin := ⟨fun a b => a.value ≤ b.value⟩

instance : LT Origin := ⟨fun a b => a.value < b.value⟩

instance : DecidableLE Origin := fun a b => inferInstanceAs (Decidable (a.value ≤ b.value))

instance : DecidableLT Origin := fun a b => inferInstanceAs (Decidable (a.value < b.value))

def isManual : Origin → Bool
  | manuallyCreated | addressBook | unhandledQrScan => true
  | _ => false

end Origin

/-! ## the tables -/

structure Contact where
  name : String
  nameNormalized : Option String
  addr : String
  fingerprint : String
  origin : Origin
  authname : String
  deriving DecidableEq, Repr

structure ChatRow where
  name : String
  nameNormalized : Option String
  deriving DecidableEq, Repr

structure Db where
  contacts : IdTable Contact
  chats : ChatId → Option ChatRow := fun _ => none

structure Account where
  isConfigured : Bool
  isSelfAddr : String → Bool
  /-- `self_fingerprint`, `none` if it fails -/
  selfFingerprint : Option String
  singleChat : ContactId → Option ChatId
  toLowercase : String → String

inductive Modifier where
  | none
  | modified
  | created
  deriving DecidableEq, Repr

inductive AddError where
  | emptyAddress
  | missingOrigin
  | selfFingerprint
  | contactId
  deriving DecidableEq, Repr

abbrev Found := Except AddError (ContactId × Modifier)

structure Call where
  name : String
  addr : String
  fingerprint : String
  origin : Origin

/-! ## the function -/

def normalizeText (acc : Account) (text : String) : Option String :=
  if text.toList.all (fun c => c.toNat < 128) then none
  else some (acc.toLowercase text) |>.filter (· ≠ text)

def isNoreply (addr : String) : Bool :=
  "noreply".toList <:+: addr.toList || "no-reply".toList <:+: addr.toList ||
    startsWith addr "notifications@" || (addr.utf8ByteSize > 50 && '+' ∈ addr.toList)

def earlyReturn (acc : Account) (addr fingerprint : String) (origin : Origin) : Option Found :=
  if addr = "" ∧ fingerprint = "" then some (.error .emptyAddress)
  else if origin = .unknown then some (.error .missingOrigin)
  else if acc.isConfigured && acc.isSelfAddr addr then some (.ok (ContactId.self, .none))
  else if fingerprint ≠ "" ∧ acc.isConfigured then
    match acc.selfFingerprint with
    | none => some (.error .selfFingerprint)
    | some selfFingerprint =>
      if fingerprint = selfFingerprint then some (.ok (ContactId.self, .none)) else none
  else none

def effective (c : Call) : String × Origin :=
  if c.origin ≤ .outgoingTo ∧ isNoreply c.addr then ("", .hidden)
  else (Vcard.sanitizeName c.name, c.origin)

/-- `WHERE fingerprint=?1 AND (?1<>'' OR addr=?2 COLLATE NOCASE)` -/
def isSought (c : Call) (fingerprint addr : String) : Bool :=
  fingerprint == c.fingerprint &&
    (c.fingerprint != "" || asciiLowercase addr == asciiLowercase c.addr)

def updateName (name : String) (manual : Bool) (row : Contact) : Bool := manual && name != row.name

def updateAuthname (name : String) (origin : Origin) (manual : Bool) (row : Contact) : Bool :=
  !manual && name != row.authname && name != "" &&
    (origin ≥ row.origin || origin == .incomingUnknownFrom || row.authname == "")

def updateAddr (addr : String) (origin : Origin) (row : Contact) : Bool :=
  origin ≥ row.origin && addr != row.addr

def newRow (acc : Account) (name addr : String) (origin : Origin) (manual : Bool)
    (row : Contact) : Contact :=
  let newName := if updateName name manual row then name else row.name
  let newAuthname := if updateAuthname name origin manual row then name else row.authname
  { row with
    name := newName
    nameNormalized := normalizeText acc (if newName ≠ "" then newName else newAuthname)
    addr := if updateAddr addr origin row then addr else row.addr
    origin := if origin > row.origin then origin else row.origin
    authname := newAuthname }

def updateChatNames (acc : Account) (db : Db) (contactId : ContactId) : Db :=
  match acc.singleChat contactId, db.contacts.row contactId with
  | some chatId, some row =>
    let chatName :=
      if row.name ≠ "" then row.name else if row.authname ≠ "" then row.authname else row.addr
    { db with
      chats := updateRow db.chats chatId fun chat =>
        if chat.name ≠ chatName then ⟨chatName, normalizeText acc chatName⟩ else chat }
  | _, _ => db

def addOrLookupEx (acc : Account) (db : Db) (c : Call) : Db × Found :=
  match earlyReturn acc c.addr c.fingerprint c.origin with
  | some found => (db, found)
  | none =>
    let (name, origin) := effective c
    let manual := origin.isManual
    match db.contacts.queryRow fun row => isSought c row.fingerprint row.addr with
    | some (id, row) =>
      if updateName name manual row || updateAuthname name origin manual row ||
          updateAddr c.addr origin row || origin > row.origin then
        let contacts := db.contacts.update id fun _ => newRow acc name c.addr origin manual row
        let db := { db with contacts }
        let db := if updateName name manual row || updateAuthname name origin manual row then
          updateChatNames acc db id else db
        (db, .ok (id, .modified))
      else (db, .ok (id, .none))
    | none =>
      -- the transaction is rolled back if the row id is no `u32`
      if db.contacts.seq + 1 < 2 ^ 32 then
        ({ db with
          contacts := db.contacts.insert
            { name := if manual then name else ""
              nameNormalized := normalizeText acc name
              addr := c.addr
              fingerprint := c.fingerprint
              origin
              authname := if manual then "" else name } },
          .ok (db.contacts.seq + 1, .created))
      else (db, .error .contactId)

def runCalls (acc : Account) (db : Db) (calls : List Call) : Db :=
  calls.foldl (fun db c => (addOrLookupEx acc db c).1) db

/-! ## the public table -/

structure Public where
  addr : String
  fingerprint : String
  origin : Origin
  authname : String
  deriving DecidableEq, Repr

def Contact.public (row : Contact) : Public := ⟨row.addr, row.fingerprint, row.origin, row.authname⟩

/-- in public, a manual call is one without a name -/
def Call.public (c : Call) : Call := { c with name := if c.origin.isManual then "" else c.name }

/-- an origin that is not lower may change the address, and a name may change `authname` -/
def publicRow (name addr : String) (origin : Origin) (row : Public) : Public :=
  { row with
    addr := if origin ≥ row.origin then addr else row.addr
    origin := if origin > row.origin then origin else row.origin
    authname :=
      if name ≠ "" ∧ (origin ≥ row.origin ∨ origin = .incomingUnknownFrom ∨ row.authname = "") then
        name
      else row.authname }

def publicStep (acc : Account) (t : IdTable Public) (c : Call) : IdTable Public :=
  match earlyReturn acc c.addr c.fingerprint c.origin with
  | some _ => t
  | none =>
    let (name, origin) := effective c
    match t.queryRow fun row => isSought c row.fingerprint row.addr with
    | some (id, row) => t.update id fun _ => publicRow name c.addr origin row
    | none =>
      if t.seq + 1 < 2 ^ 32 then t.insert ⟨c.addr, c.fingerprint, origin, name⟩ else t

theorem sanitizeName_empty : Vcard.sanitizeName "" = "" := by decide

theorem effective_public (c : Call) :
    effective c.public =
      (if (effective c).2.isManual then "" else (effective c).1, (effective c).2) := by
  by_cases hhide : c.origin ≤ .outgoingTo ∧ isNoreply c.addr
  · have hprivate : effective c = ("", .hidden) := if_pos hhide
    have hpublic : effective c.public = ("", .hidden) := if_pos hhide
    rw [hpublic, hprivate]
    rfl
  · have hprivate : effective c = (Vcard.sanitizeName c.name, c.origin) := if_neg hhide
    have hpublic : effective c.public = (Vcard.sanitizeName c.public.name, c.origin) := if_neg hhide
    rw [hpublic, hprivate, Call.public]
    dsimp only
    split
    · rw [sanitizeName_empty]
    · rfl

theorem newRow_public (acc : Account) (name addr : String) (origin : Origin) (manual : Bool)
    (row : Contact) : (newRow acc name addr origin manual row).public =
      publicRow (if manual then "" else name) addr origin row.public := by
  have haddr : (if updateAddr addr origin row then addr else row.addr) =
      if origin ≥ row.origin then addr else row.addr := by
    unfold updateAddr
    by_cases hge : origin ≥ row.origin <;> by_cases heq : addr = row.addr <;> simp [hge, heq]
  have hauth : (if updateAuthname name origin manual row then name else row.authname) =
      if (if manual then "" else name) ≠ "" ∧ (origin ≥ row.origin ∨
        origin = .incomingUnknownFrom ∨ row.authname = "") then (if manual then "" else name)
      else row.authname := by
    unfold updateAuthname
    cases manual
    · by_cases heq : name = row.authname
      · simp [heq]
      · simp [heq, or_assoc]
    · simp
  unfold newRow Contact.public publicRow
  dsimp only
  rw [haddr, hauth]

theorem public_of_no_update {acc : Account} {name addr : String} {origin : Origin} {manual : Bool}
    {row : Contact}
    (h : ¬ (updateName name manual row || updateAuthname name origin manual row ||
      updateAddr addr origin row || origin > row.origin) = true) :
    (newRow acc name addr origin manual row).public = row.public := by
  simp only [Bool.or_eq_true, not_or, Bool.not_eq_true, decide_eq_true_eq] at h
  obtain ⟨⟨⟨-, hauth⟩, haddr⟩, horigin⟩ := h
  unfold newRow Contact.public
  dsimp only
  rw [hauth, haddr, if_neg horigin]
  rfl

theorem updateChatNames_contacts (acc : Account) (b : Bool) (db : Db) (id : ContactId) :
    (if b then updateChatNames acc db id else db).contacts = db.contacts := by
  unfold updateChatNames
  split
  · split <;> rfl
  · rfl

theorem addOrLookupEx_public (acc : Account) (db : Db) (c : Call) :
    (addOrLookupEx acc db c).1.contacts.map Contact.public =
      publicStep acc (db.contacts.map Contact.public) c.public := by
  have haddr : c.public.addr = c.addr := rfl
  have hsought : isSought c.public = isSought c := rfl
  have hearly : earlyReturn acc c.public.addr c.public.fingerprint c.public.origin =
      earlyReturn acc c.addr c.fingerprint c.origin := rfl
  rw [publicStep, hearly, addOrLookupEx]
  split
  · rfl
  · rw [effective_public, hsought, IdTable.queryRow_map]
    dsimp only
    rcases hquery : db.contacts.queryRow fun row => isSought c row.fingerprint row.addr with
      _ | ⟨id, row⟩
    case none =>
      have hnone : (db.contacts.queryRow fun r =>
          isSought c r.public.fingerprint r.public.addr) = none := hquery
      rw [hnone]
      show IdTable.map _ (if db.contacts.seq + 1 < 2 ^ 32 then _ else _ : Db × Found).1.contacts =
        if db.contacts.seq + 1 < 2 ^ 32 then _ else _
      split
      · rw [IdTable.map_insert]
        rfl
      · rfl
    case some =>
      have hsome : (db.contacts.queryRow fun r =>
          isSought c r.public.fingerprint r.public.addr) = some (id, row) := hquery
      have hrow : db.contacts.row id = some row := IdTable.row_of_queryRow hquery
      have hpublic : (db.contacts.map Contact.public).row id = some row.public :=
        congrArg (Option.map Contact.public) hrow
      rw [hsome]
      dsimp only [Option.map_some]
      rw [← newRow_public acc]
      split
      · rw [updateChatNames_contacts, IdTable.map_update_const, haddr]
      · next hupd => rw [haddr, public_of_no_update hupd, IdTable.update_const_self hpublic]

theorem runCalls_public (acc : Account) (db : Db) (calls : List Call) :
    (runCalls acc db calls).contacts.map Contact.public =
      (calls.map Call.public).foldl (publicStep acc) (db.contacts.map Contact.public) := by
  induction calls generalizing db with
  | nil => rfl
  | cons c calls ih =>
    show (runCalls acc (addOrLookupEx acc db c).1 calls).contacts.map Contact.public = _
    rw [ih, addOrLookupEx_public, List.map_cons, List.foldl_cons]

/-! ## two runs -/

/-- the calls agree, except for a name that is from the user -/
structure Agree (c c' : Call) : Prop where
  addr : c.addr = c'.addr
  fingerprint : c.fingerprint = c'.fingerprint
  origin : c.origin = c'.origin
  name : c.origin.isManual = false → c.name = c'.name

theorem Agree.public {c c' : Call} (h : Agree c c') : c.public = c'.public := by
  obtain ⟨name, addr, fingerprint, origin⟩ := c
  obtain ⟨name', addr', fingerprint', origin'⟩ := c'
  obtain ⟨rfl, rfl, rfl, hname⟩ := h
  cases hmanual : origin.isManual with
  | true => simp only [Call.public, hmanual, if_true]
  | false =>
    obtain rfl : name = name' := hname hmanual
    rfl

/-- **private names stay private**: after every call of two runs that agree except for private
names, the tables have the same ids with the same `authname`, address, fingerprint and origin -/
theorem private_names_stay_private (acc : Account) (db : Db) (calls calls' : List Call)
    (h : List.Forall₂ Agree calls calls') (n : ℕ) :
    ((runCalls acc db (calls.take n)).contacts.map Contact.public) =
      ((runCalls acc db (calls'.take n)).contacts.map Contact.public) := by
  have hpublic : calls.map Call.public = calls'.map Call.public := by
    induction h with
    | nil => rfl
    | cons hc hcalls ih => rw [List.map_cons, List.map_cons, hc.public, ih]
  rw [runCalls_public, runCalls_public, List.map_take, List.map_take, hpublic]

def sample : Account where
  isConfigured := true
  isSelfAddr addr := addr == "me@x.org"
  selfFingerprint := some "AA"
  singleChat _ := none
  toLowercase := asciiLowercase

/-- the user calls a contact by two different names before its own name arrives -/
theorem private_names_stay_private_renamed :
    ((runCalls sample { contacts := IdTable.empty }
      [⟨"Bob from work", "bob@x.org", "", .manuallyCreated⟩,
        ⟨"Bob", "bob@x.org", "", .incomingUnknownFrom⟩]).contacts.map Contact.public).row 1 =
      ((runCalls sample { contacts := IdTable.empty }
        [⟨"Robert", "bob@x.org", "", .manuallyCreated⟩,
          ⟨"Bob", "bob@x.org", "", .incomingUnknownFrom⟩]).contacts.map Contact.public).row 1 := by
  have hagree : List.Forall₂ Agree
      [⟨"Bob from work", "bob@x.org", "", .manuallyCreated⟩,
        ⟨"Bob", "bob@x.org", "", .incomingUnknownFrom⟩]
      [⟨"Robert", "bob@x.org", "", .manuallyCreated⟩,
        ⟨"Bob", "bob@x.org", "", .incomingUnknownFrom⟩] :=
    .cons ⟨rfl, rfl, rfl, nofun⟩ (.cons ⟨rfl, rfl, rfl, fun _ => rfl⟩ .nil)
  have h := private_names_stay_private sample { contacts := IdTable.empty } _ _ hagree 2
  exact congrArg (fun t => t.row 1) h

end EpsilonChat.AddOrLookup
