import EpsilonChat.Group.Settings
import EpsilonChat.Webxdc.StatusUpdates

/-!
# Document and summary of a webxdc instance

`receive_status_update` stores the updates of a message one by one.  An update may carry a new
document name and a new summary, which go into the parameters of the instance.

Every update works on ITS OWN copy of the instance as it was before the message, and writes all
parameters of that copy back: the second of two updates that set different fields takes back what
the first one wrote.

* `createStatusUpdateRecord`: one update;
* `receiveItems_param`: after the loop the parameters are those of the instance before the message,
  with the fields of the LAST update that has any;
* **`metadata_newest_iff`**: the newest document and summary are stored iff that update does not
  take one of them back.
-/

namespace EpsilonChat.Webxdc
namespace Metadata
open Lib Settings Text

/-! ## the database -/

structure StatusUpdateItem where
  /-- JSON -/
  payload : String := "null"
  info : Option String := none
  href : Option String := none
  document : Option String := none
  summary : Option String := none
  uid : Option String := none
  notify : Option (List (String × String)) := none
  deriving DecidableEq, Repr

structure StatusUpdate where
  msgId : MsgId
  item : StatusUpdateItem
  deriving DecidableEq, Repr

structure MsgRow where
  chatId : ChatId
  fromId : ContactId
  viewtype : Viewtype
  rfc724Mid : String
  mimeInReplyTo : String := ""
  hidden : Bool := false
  text : String := ""
  timestamp : I64
  timestampRcvd : I64
  param : Params

inductive Event where
  | msgsChanged (chatId : ChatId) (msgId : MsgId)
  | webxdcStatusUpdate (msgId : MsgId) (serial : ℕ)
  | incomingWebxdcNotify (chatId : ChatId) (contactId : ContactId) (msgId : MsgId) (text : String)
      (href : Option String)
  deriving DecidableEq, Repr

structure Db where
  msgs : IdTable MsgRow
  updates : IdTable StatusUpdate
  events : List Event := []

structure Instance where
  id : MsgId
  chatId : ChatId
  viewtype : Viewtype
  rfc724Mid : String
  param : Params

def loadInstance (id : MsgId) (row : MsgRow) : Instance :=
  { id, chatId := row.chatId, viewtype := row.viewtype, rfc724Mid := row.rfc724Mid
    param := row.param }

/-- the arguments of `receive_status_update`, and what the functions outside of the model return -/
structure Receiving where
  fromId : ContactId
  timestamp : I64
  canInfoMsg : Bool
  isContactInChat : Bool
  /-- `SELECT type FROM chats WHERE id=?` -/
  chatType : Option Chattype
  isMuted : Bool
  /-- `get_webxdc_self_addr` of the instance -/
  selfAddr : String
  /-- `create_outgoing_rfc724_mid` for a new message -/
  newMid : MsgId → String

/-! ## one update -/

/-- `ON CONFLICT (uid)`: an update without `uid` is never a duplicate -/
def isDuplicate (updates : IdTable StatusUpdate) (item : StatusUpdateItem) : Bool :=
  match item.uid with
  | some uid => !(updates.ids fun u => u.item.uid == some uid).isEmpty
  | none => false

/-- `SELECT … WHERE chat_id=?1 AND hidden=0 ORDER BY timestamp DESC, id DESC LIMIT 1` -/
def lastVisible (db : Db) (chatId : ChatId) : Option (MsgId × MsgRow) :=
  (db.msgs.ids fun row => row.chatId == chatId && !row.hidden).foldl
    (fun last id => match db.msgs.row id, last with
      | some row, some (id', row') =>
        if row'.timestamp ≤ row.timestamp then some (id, row) else some (id', row')
      | some row, none => some (id, row)
      | none, last => last) none

section
variable (r : Receiving) (inst : Instance)

/-- `write_status_update_inner`: a serial beyond `u32` is an error, and nothing is written -/
def writeStatusUpdateInner (db : Db) (item : StatusUpdateItem) : Except String (Db × Option ℕ) :=
  let msgs := db.msgs.update inst.id fun row => { row with timestampRcvd := r.timestamp }
  if isDuplicate db.updates item then .ok ({ db with msgs }, none)
  else if db.updates.seq + 1 ≤ u32Max then
    .ok ({ db with msgs, updates := db.updates.insert ⟨inst.id, item⟩ }, some (db.updates.seq + 1))
  else .error "IntegralValueOutOfRange"

def setDocument (param : Params) (item : StatusUpdateItem) : Params × Bool :=
  match item.document with
  | some document =>
    let (param, update) := param.updateTimestamp .webxdcDocumentTimestamp r.timestamp
    if update then (param.set .webxdcDocument document, true) else (param, false)
  | none => (param, false)

def setSummary (param : Params) (item : StatusUpdateItem) : Params × Bool :=
  match item.summary with
  | some summary =>
    let (param, update) := param.updateTimestamp .webxdcSummaryTimestamp r.timestamp
    if update then (param.set .webxdcSummary (sanitizeBidiCharacters summary), true)
    else (param, false)
  | none => (param, false)

def setMetadata (item : StatusUpdateItem) : Params × Bool :=
  let (param, documentChanged) := setDocument r inst.param item
  let (param, summaryChanged) := setSummary r param item
  (param, documentChanged || summaryChanged)

def getOverwritableInfoMsgId (db : Db) : Option MsgId :=
  match lastVisible db inst.chatId with
  | some (lastMsgId, last) =>
    if last.fromId = r.fromId ∧
        last.param.getInt .cmd = some (SystemMessage.webxdcInfoMessage.toNat : ℤ) ∧
        last.mimeInReplyTo = inst.rfc724Mid then some lastMsgId
    else none
  | none => none

def updateMsgTextAndTimestamp (db : Db) (msgId : MsgId) (text : String) : Db :=
  { db with
    msgs := db.msgs.update msgId fun row => { row with text := text, timestamp := r.timestamp }
    events := db.events ++ [.msgsChanged inst.chatId msgId] }

/-- `add_info_msg_with_cmd` for the instance; `href` is put into the parameters afterwards -/
def addInfoMsg (db : Db) (text : String) (href : Option String) : Db × MsgId :=
  let msgId := db.msgs.seq + 1
  let param := Params.new.set .cmd (toString SystemMessage.webxdcInfoMessage.toNat)
  let row : MsgRow :=
    { chatId := inst.chatId
      fromId := r.fromId
      viewtype := .text
      rfc724Mid := r.newMid msgId
      mimeInReplyTo := inst.rfc724Mid
      text := text
      timestamp := r.timestamp
      timestampRcvd := r.timestamp
      param := match href with
        | some href => param.set .arg href
        | none => param }
  ({ db with
      msgs := db.msgs.insert row
      events := db.events ++ [.msgsChanged inst.chatId msgId] }, msgId)

/-- the info message of an update, and the message a notification is about -/
def sayInfo (db : Db) (item : StatusUpdateItem) : Db × MsgId :=
  match r.canInfoMsg, item.info with
  | true, some info =>
    match getOverwritableInfoMsgId r inst db, item.href with
    | some infoMsgId, none => (updateMsgTextAndTimestamp r inst db infoMsgId info, infoMsgId)
    | _, href => addInfoMsg r inst db info href
  | _, _ => (db, inst.id)

def storeParam (db : Db) (changed : Params × Bool) : Db :=
  if changed.2 then
    { db with
      msgs := db.msgs.update inst.id fun row => { row with param := changed.1 }
      events := db.events ++ [.msgsChanged inst.chatId inst.id] }
  else db

/-- whom the update notifies: the entry of the user, or that of everyone in a chat that is not
muted -/
def notifyText (notifyList : List (String × String)) : Option String :=
  (notifyList.lookup r.selfAddr).or (if r.isMuted then none else notifyList.lookup "*")

def updateEvents (item : StatusUpdateItem) (serial : ℕ) (notifyMsgId : MsgId) : List Event :=
  (if inst.viewtype = .webxdc then [.webxdcStatusUpdate inst.id serial] else []) ++
    (if r.fromId ≠ ContactId.self then
      ((item.notify.bind (notifyText r)).map fun text =>
        .incomingWebxdcNotify inst.chatId r.fromId notifyMsgId text item.href).toList
    else [])

def createStatusUpdateRecord (db : Db) (item : StatusUpdateItem) :
    Except String (Db × Option ℕ) := do
  match ← writeStatusUpdateInner r inst db item with
  | (db, none) => return (db, none)
  | (db, some serial) =>
    let (db, notifyMsgId) := sayInfo r inst db item
    let db := storeParam inst db (setMetadata r inst item)
    return ({ db with events := db.events ++ updateEvents r inst item serial notifyMsgId },
      some serial)

/-! ## all updates of a message -/

def receiveItems : Db → List StatusUpdateItem → Db × Except String Unit
  | db, [] => (db, .ok ())
  | db, item :: items =>
    match createStatusUpdateRecord r inst db item with
    | .error err => (db, .error err)
    | .ok (db, _) => receiveItems db items

def displayContact (id : ContactId) : String :=
  if id = ContactId.undefined then "Contact#Undefined"
  else if id = ContactId.self then "Contact#Self"
  else if id = 2 then "Contact#Info"
  else if id = ContactId.device then "Contact#Device"
  else if ContactId.isSpecial id then s!"Contact#Special{id}"
  else s!"Contact#{id}"

def displayChat (id : ChatId) : String :=
  if id = 3 then "Chat#Trash"
  else if id = 6 then "Chat#ArchivedLink"
  else if id = 7 then "Chat#AlldoneHint"
  else if id ≤ 9 then s!"Chat#Special{id}"
  else s!"Chat#{id}"

def checkSender : Except String Unit :=
  if r.fromId ≠ ContactId.self ∧ !r.isContactInChat then
    match r.chatType with
    | none => .error s!"Chat type for chat {displayChat inst.chatId} not found"
    | some .mailinglist => .ok ()
    | some _ => .error (s!"receive_status_update: status sender {displayContact r.fromId} is not a "
        ++ s!"member of chat {displayChat inst.chatId}")
  else .ok ()

/-- `receive_status_update`; `updates` is the parsed JSON text -/
def receiveStatusUpdate (db : Db) (updates : Except String (List StatusUpdateItem)) :
    Db × Except String Unit :=
  match checkSender r inst, updates with
  | .error err, _ => (db, .error err)
  | .ok (), .error err => (db, .error err)
  | .ok (), .ok items => receiveItems r inst db items

end

/-! ## accepted updates -/

def accepted (msgId : MsgId) : IdTable StatusUpdate → List StatusUpdateItem → List StatusUpdateItem
  | _, [] => []
  | t, item :: items =>
    if isDuplicate t item then accepted msgId t items
    else if t.seq + 1 ≤ u32Max then item :: accepted msgId (t.insert ⟨msgId, item⟩) items
    else []

def hasMetadata (item : StatusUpdateItem) : Bool := item.document.isSome || item.summary.isSome

def lastMetadata (items : List StatusUpdateItem) : Option StatusUpdateItem :=
  items.reverse.find? hasMetadata

def lastDocument (items : List StatusUpdateItem) : Option String :=
  items.reverse.findSome? StatusUpdateItem.document

def lastSummary (items : List StatusUpdateItem) : Option String :=
  items.reverse.findSome? fun item => item.summary.map sanitizeBidiCharacters

theorem lastMetadata_cons (item : StatusUpdateItem) (items : List StatusUpdateItem) :
    lastMetadata (item :: items) =
      (lastMetadata items).or (if hasMetadata item then some item else none) := by
  rw [lastMetadata, List.reverse_cons, List.find?_append, lastMetadata]
  congr 1
  by_cases h : hasMetadata item
  · rw [if_pos h, List.find?_cons_of_pos h]
  · rw [if_neg h, List.find?_cons_of_neg h, List.find?_nil]

theorem findSome?_of_find? {f : StatusUpdateItem → Option String}
    (hf : ∀ item, hasMetadata item = false → f item = none) {items : List StatusUpdateItem}
    {item : StatusUpdateItem} (h : items.find? hasMetadata = some item) {value : String}
    (hvalue : f item = some value) : items.findSome? f = some value := by
  induction items with
  | nil => cases h
  | cons x xs ih =>
    by_cases hx : hasMetadata x
    · rw [List.find?_cons_of_pos hx] at h
      cases h
      rw [List.findSome?_cons, hvalue]
    · rw [List.find?_cons_of_neg hx] at h
      rw [List.findSome?_cons, hf x (Bool.not_eq_true _ ▸ hx)]
      exact ih h

theorem findSome?_of_find?_none {f : StatusUpdateItem → Option String}
    (hf : ∀ item, hasMetadata item = false → f item = none) {items : List StatusUpdateItem}
    (h : items.find? hasMetadata = none) : items.findSome? f = none := by
  rw [List.findSome?_eq_none_iff]
  intro item hitem
  exact hf item (Bool.not_eq_true _ ▸ List.find?_eq_none.mp h item hitem)

/-! ## what one update does to the instance -/

section
variable {r : Receiving} {inst : Instance}
variable {db : Db} {param : Params}

theorem writeStatusUpdateInner_cases (r : Receiving) (inst : Instance) (db : Db)
    (item : StatusUpdateItem) :
    (isDuplicate db.updates item = true ∧
      ∃ db', writeStatusUpdateInner r inst db item = .ok (db', none) ∧
        db'.updates = db.updates ∧
        db'.msgs = db.msgs.update inst.id fun row => { row with timestampRcvd := r.timestamp }) ∨
    (isDuplicate db.updates item = false ∧ db.updates.seq + 1 ≤ u32Max ∧
      ∃ db', writeStatusUpdateInner r inst db item = .ok (db', some (db.updates.seq + 1)) ∧
        db'.updates = db.updates.insert ⟨inst.id, item⟩ ∧
        db'.msgs = db.msgs.update inst.id fun row => { row with timestampRcvd := r.timestamp }) ∨
    (isDuplicate db.updates item = false ∧ ¬ db.updates.seq + 1 ≤ u32Max ∧
      ∃ err, writeStatusUpdateInner r inst db item = .error err) := by
  unfold writeStatusUpdateInner
  by_cases hdup : isDuplicate db.updates item
  · rw [if_pos hdup]
    exact .inl ⟨hdup, _, rfl, rfl, rfl⟩
  · have hdup' : isDuplicate db.updates item = false := Bool.not_eq_true _ ▸ hdup
    rw [if_neg hdup]
    by_cases hseq : db.updates.seq + 1 ≤ u32Max
    · rw [if_pos hseq]
      exact .inr (.inl ⟨hdup', hseq, _, rfl, rfl, rfl⟩)
    · rw [if_neg hseq]
      exact .inr (.inr ⟨hdup', hseq, _, rfl⟩)

def paramOf (db : Db) (id : MsgId) : Option Params := (db.msgs.row id).map MsgRow.param

theorem paramOf_update {t : IdTable MsgRow} (id id' : MsgId) {f : MsgRow → MsgRow}
    (hf : ∀ row, (f row).param = row.param) :
    ((t.update id' f).row id).map MsgRow.param = (t.row id).map MsgRow.param := by
  by_cases e : id = id'
  · subst e
    rw [show (t.update id f).row id = (t.row id).map f from updateRow_self t.row id f,
      Option.map_map]
    exact congrArg (Option.map · (t.row id)) (funext hf)
  · rw [IdTable.update_row_of_ne f e]

theorem sayInfo_paramOf {item : StatusUpdateItem} {id : MsgId} (h : paramOf db id = some param) :
    paramOf (sayInfo r inst db item).1 id = some param := by
  have hadd (text : String) (href : Option String) :
      paramOf (addInfoMsg r inst db text href).1 id = some param := by
    obtain ⟨row, hrow, rfl⟩ := Option.map_eq_some_iff.mp h
    show ((db.msgs.insert _).row id).map MsgRow.param = some row.param
    rw [IdTable.insert_row_of_some _ hrow]
    rfl
  unfold sayInfo
  split
  · split
    · refine (paramOf_update id _ ?_).trans h
      exact fun _ => rfl
    · exact hadd _ _
  · exact h

theorem sayInfo_updates (db : Db) (item : StatusUpdateItem) :
    (sayInfo r inst db item).1.updates = db.updates := by
  unfold sayInfo
  split
  · split <;> rfl
  · rfl

theorem storeParam_paramOf {changed : Params × Bool} (h : paramOf db inst.id = some param) :
    paramOf (storeParam inst db changed) inst.id =
      some (if changed.2 then changed.1 else param) := by
  obtain ⟨row, hrow, rfl⟩ := Option.map_eq_some_iff.mp h
  unfold storeParam
  by_cases hc : changed.2
  · rw [if_pos hc, if_pos hc]
    show ((db.msgs.update inst.id _).row inst.id).map MsgRow.param = some changed.1
    rw [IdTable.update_row_self _ hrow]
    rfl
  · rw [if_neg hc, if_neg hc]
    exact h

theorem storeParam_updates (db : Db) (changed : Params × Bool) :
    (storeParam inst db changed).updates = db.updates := by
  unfold storeParam
  split <;> rfl

theorem createStatusUpdateRecord_cases (item : StatusUpdateItem)
    (h : paramOf db inst.id = some param) :
    (isDuplicate db.updates item = true ∧
      ∃ db', createStatusUpdateRecord r inst db item = .ok (db', none) ∧
        db'.updates = db.updates ∧ paramOf db' inst.id = some param) ∨
    (isDuplicate db.updates item = false ∧ db.updates.seq + 1 ≤ u32Max ∧
      ∃ db' serial, createStatusUpdateRecord r inst db item = .ok (db', serial) ∧
        db'.updates = db.updates.insert ⟨inst.id, item⟩ ∧
        paramOf db' inst.id =
          some (if (setMetadata r inst item).2 then (setMetadata r inst item).1 else param)) ∨
    (isDuplicate db.updates item = false ∧ ¬ db.updates.seq + 1 ≤ u32Max ∧
      ∃ err, createStatusUpdateRecord r inst db item = .error err) := by
  unfold createStatusUpdateRecord
  rcases writeStatusUpdateInner_cases r inst db item with
    ⟨hdup, db', hw, hu, hm⟩ | ⟨hdup, hseq, db', hw, hu, hm⟩ | ⟨hdup, hseq, err, hw⟩
  · refine .inl ⟨hdup, db', by rw [hw]; rfl, hu, ?_⟩
    rw [paramOf, hm]
    refine (paramOf_update inst.id _ ?_).trans h
    exact fun _ => rfl
  · have hparam : paramOf db' inst.id = some param := by
      rw [paramOf, hm]
      refine (paramOf_update inst.id _ ?_).trans h
      exact fun _ => rfl
    refine .inr (.inl ⟨hdup, hseq, _, _, by rw [hw]; rfl, ?_, ?_⟩)
    · show (storeParam inst (sayInfo r inst db' item).1 _).updates = _
      rw [storeParam_updates, sayInfo_updates, hu]
    · show paramOf (storeParam inst (sayInfo r inst db' item).1 _) inst.id = _
      exact storeParam_paramOf (sayInfo_paramOf hparam)
  · exact .inr (.inr ⟨hdup, hseq, err, by rw [hw]; rfl⟩)

/-! ## the parameters of the copy -/

theorem updateTimestamp_of_le {scope : Param} {ts : I64} (h : param.timestamp scope ≤ ts) :
    param.updateTimestamp scope ts = (param.setI64 scope ts, true) := if_pos h

/-- a value that is written with its time -/
theorem get_stamped (param : Params) {scope stamp : Param} (ts : I64) (value : String) :
    ((param.setI64 stamp ts).set scope value).get scope = some value ∧
    ∀ key, key ≠ scope → key ≠ stamp →
      ((param.setI64 stamp ts).set scope value).get key = param.get key := by
  refine ⟨Params.get_set_self _ _ _, fun key hkey hkey' => ?_⟩
  rw [Params.get_set_of_ne _ _ hkey]
  exact Params.get_set_of_ne _ _ hkey'

theorem setDocument_of_le (item : StatusUpdateItem)
    (h : param.timestamp .webxdcDocumentTimestamp ≤ r.timestamp) :
    (setDocument r param item).2 = item.document.isSome ∧
    (setDocument r param item).1.get .webxdcDocument =
      item.document.or (param.get .webxdcDocument) ∧
    ∀ key, key ≠ .webxdcDocument → key ≠ .webxdcDocumentTimestamp →
      (setDocument r param item).1.get key = param.get key := by
  unfold setDocument
  cases item.document with
  | none => exact ⟨rfl, rfl, fun _ _ _ => rfl⟩
  | some document =>
    simp only [updateTimestamp_of_le h, if_true]
    exact ⟨rfl, get_stamped _ _ _⟩

theorem setSummary_of_le (item : StatusUpdateItem)
    (h : param.timestamp .webxdcSummaryTimestamp ≤ r.timestamp) :
    (setSummary r param item).2 = item.summary.isSome ∧
    (setSummary r param item).1.get .webxdcSummary =
      (item.summary.map sanitizeBidiCharacters).or (param.get .webxdcSummary) ∧
    ∀ key, key ≠ .webxdcSummary → key ≠ .webxdcSummaryTimestamp →
      (setSummary r param item).1.get key = param.get key := by
  unfold setSummary
  cases item.summary with
  | none => exact ⟨rfl, rfl, fun _ _ _ => rfl⟩
  | some summary =>
    simp only [updateTimestamp_of_le h, if_true]
    exact ⟨rfl, get_stamped _ _ _⟩

/-- the time of the message is not older than the stored ones -/
structure NotOlder (r : Receiving) (param : Params) : Prop where
  document : param.timestamp .webxdcDocumentTimestamp ≤ r.timestamp
  summary : param.timestamp .webxdcSummaryTimestamp ≤ r.timestamp

theorem setMetadata_of_notOlder (h : NotOlder r inst.param) (item : StatusUpdateItem) :
    (setMetadata r inst item).2 = hasMetadata item ∧
    (setMetadata r inst item).1.get .webxdcDocument =
      item.document.or (inst.param.get .webxdcDocument) ∧
    (setMetadata r inst item).1.get .webxdcSummary =
      (item.summary.map sanitizeBidiCharacters).or (inst.param.get .webxdcSummary) := by
  obtain ⟨hd, hdoc, hother⟩ := setDocument_of_le item h.document
  have htime : (setDocument r inst.param item).1.timestamp .webxdcSummaryTimestamp ≤
      r.timestamp := by
    rw [Params.timestamp_congr (hother _ (by decide) (by decide))]
    exact h.summary
  obtain ⟨hs, hsum, hother'⟩ := setSummary_of_le item htime
  refine ⟨?_, ?_, ?_⟩
  · show ((setDocument r inst.param item).2 ||
      (setSummary r (setDocument r inst.param item).1 item).2) = _
    rw [hd, hs, hasMetadata]
  · exact (hother' _ (by decide) (by decide)).trans hdoc
  · exact hsum.trans (by rw [hother _ (by decide) (by decide)])

/-! ## the loop -/

theorem receiveItems_param (h : NotOlder r inst.param) (items : List StatusUpdateItem) :
    ∀ (db : Db) (param : Params), paramOf db inst.id = some param →
      paramOf (receiveItems r inst db items).1 inst.id =
        some (match lastMetadata (accepted inst.id db.updates items) with
          | some item => (setMetadata r inst item).1
          | none => param) := by
  induction items with
  | nil =>
    intro db param hparam
    exact hparam
  | cons item items ih =>
    intro db param hparam
    rw [receiveItems, accepted]
    rcases createStatusUpdateRecord_cases (r := r) item hparam with
      ⟨hdup, db', hc, hu, hp⟩ | ⟨hdup, hseq, db', serial, hc, hu, hp⟩ | ⟨hdup, hseq, err, hc⟩
    · simp only [hc, hdup, if_true]
      rw [ih db' param hp, hu]
    · rw [(setMetadata_of_notOlder h item).1] at hp
      simp only [hc, hdup, hseq, Bool.false_eq_true, if_false, if_true]
      rw [ih db' _ hp, hu, lastMetadata_cons]
      cases lastMetadata (accepted inst.id (db.updates.insert ⟨inst.id, item⟩) items) with
      | some l => rfl
      | none => by_cases hm : hasMetadata item <;> simp [hm]
    · simp only [hc, hdup, hseq, Bool.false_eq_true, if_false]
      exact hparam

def acceptedUpdates (r : Receiving) (inst : Instance) (db : Db)
    (updates : Except String (List StatusUpdateItem)) : List StatusUpdateItem :=
  match checkSender r inst, updates with
  | .ok (), .ok items => accepted inst.id db.updates items
  | _, _ => []

theorem receiveStatusUpdate_param (h : NotOlder r inst.param)
    (updates : Except String (List StatusUpdateItem))
    (hparam : paramOf db inst.id = some inst.param) :
    paramOf (receiveStatusUpdate r inst db updates).1 inst.id =
      some (match lastMetadata (acceptedUpdates r inst db updates) with
        | some item => (setMetadata r inst item).1
        | none => inst.param) := by
  unfold receiveStatusUpdate acceptedUpdates
  rcases checkSender r inst with err | _
  · exact hparam
  · rcases updates with err | items
    · exact hparam
    · exact receiveItems_param h items db inst.param hparam

end

/-! ## the newest metadata -/

def stored (db : Db) (id : MsgId) (key : Param) : Option String :=
  (paramOf db id).bind fun param => param.get key

/-- the field is as the last update left it: it has a value itself, or no update had one, or the
newest value is the one that was stored before -/
theorem or_eq_or_iff {cur last : Option String} (prev : Option String)
    (h : ∀ v, cur = some v → last = some v) :
    cur.or prev = last.or prev ↔ cur.isSome ∨ last = none ∨ last = prev := by
  cases cur with
  | some v =>
    rw [h v rfl]
    simp
  | none =>
    cases last with
    | none => simp
    | some x => simp [eq_comm]

/-- **After a batch the newest document and summary are stored** iff the last accepted update that
has one of them does not take back the other. -/
theorem metadata_newest_iff (r : Receiving) (db : Db) (id : MsgId) (row : MsgRow)
    (updates : Except String (List StatusUpdateItem)) (hrow : db.msgs.row id = some row)
    (htime : NotOlder r row.param) :
    let db' := (receiveStatusUpdate r (loadInstance id row) db updates).1
    let items := acceptedUpdates r (loadInstance id row) db updates
    (stored db' id .webxdcDocument = (lastDocument items).or (stored db id .webxdcDocument) ∧
        stored db' id .webxdcSummary = (lastSummary items).or (stored db id .webxdcSummary)) ↔
      ∀ item, lastMetadata items = some item →
        (item.document.isSome ∨ lastDocument items = none ∨
          lastDocument items = stored db id .webxdcDocument) ∧
        (item.summary.isSome ∨ lastSummary items = none ∨
          lastSummary items = stored db id .webxdcSummary) := by
  intro db' items
  have hbefore : paramOf db id = some row.param := by
    rw [paramOf, hrow]
    rfl
  have hafter : paramOf db' id = some (match lastMetadata items with
      | some item => (setMetadata r (loadInstance id row) item).1
      | none => row.param) := by
    have hloaded : NotOlder r (loadInstance id row).param := htime
    exact receiveStatusUpdate_param hloaded updates hbefore
  have hnodoc (item : StatusUpdateItem) (h : hasMetadata item = false) : item.document = none :=
    Option.not_isSome_iff_eq_none.mp (by simp_all [hasMetadata])
  have hnosum (item : StatusUpdateItem) (h : hasMetadata item = false) :
      item.summary.map sanitizeBidiCharacters = none := by
    rw [Option.map_eq_none_iff]
    exact Option.not_isSome_iff_eq_none.mp (by simp_all [hasMetadata])
  have hstored (key : Param) : stored db id key = row.param.get key := by
    rw [stored, hbefore]
    rfl
  rw [hstored, hstored, stored, stored, hafter]
  cases hlast : lastMetadata items with
  | none =>
    have hd : lastDocument items = none := findSome?_of_find?_none hnodoc hlast
    have hs : lastSummary items = none := findSome?_of_find?_none hnosum hlast
    rw [hd, hs]
    exact iff_of_true ⟨rfl, rfl⟩ (fun _ h => nomatch h)
  | some item =>
    have hloaded : NotOlder r (loadInstance id row).param := htime
    obtain ⟨-, hd, hs⟩ := setMetadata_of_notOlder hloaded item
    have hdoc := or_eq_or_iff (row.param.get .webxdcDocument) fun v hv =>
      findSome?_of_find? hnodoc hlast hv
    have hsum := or_eq_or_iff (row.param.get .webxdcSummary) fun v hv =>
      findSome?_of_find? hnosum hlast hv
    rw [Option.isSome_map] at hsum
    rw [Option.bind_some, Option.bind_some, hd, hs]
    constructor
    · rintro ⟨h1, h2⟩ item' hitem'
      cases hitem'
      exact ⟨hdoc.mp h1, hsum.mp h2⟩
    · intro h
      obtain ⟨h1, h2⟩ := h item rfl
      exact ⟨hdoc.mpr h1, hsum.mpr h2⟩

/-! ## two updates that set different fields -/

def sampleReceiving : Receiving where
  fromId := 10
  timestamp := I64.zero
  canInfoMsg := false
  isContactInChat := true
  chatType := some .group
  isMuted := false
  selfAddr := ""
  newMid := fun _ => ""

def sampleRow : MsgRow where
  chatId := 12
  fromId := 10
  viewtype := .webxdc
  rfc724Mid := "app@localhost"
  timestamp := I64.zero
  timestampRcvd := I64.zero
  param := Params.new

def sampleDb : Db where
  msgs := (IdTable.emptyAfter 10).insert sampleRow
  updates := IdTable.empty

theorem metadata_newest_iff_both :
    stored (receiveStatusUpdate sampleReceiving (loadInstance 11 sampleRow) sampleDb
      (.ok [{ document := some "a.txt" }, { document := some "b.txt", summary := some "2" }])).1 11
      .webxdcDocument = some "b.txt" := by
  refine ((metadata_newest_iff sampleReceiving sampleDb 11 sampleRow
    (.ok [{ document := some "a.txt" }, { document := some "b.txt", summary := some "2" }]) rfl
    ⟨by decide, by decide⟩).mpr ?_).1
  intro item hitem
  cases hitem
  exact ⟨.inl rfl, .inl rfl⟩

/-- the summary of the second update takes back the document of the first -/
theorem document_taken_back :
    acceptedUpdates sampleReceiving (loadInstance 11 sampleRow) sampleDb
      (.ok [{ document := some "a.txt" }, { summary := some "2" }]) =
        [{ document := some "a.txt" }, { summary := some "2" }] ∧
    stored (receiveStatusUpdate sampleReceiving (loadInstance 11 sampleRow) sampleDb
      (.ok [{ document := some "a.txt" }, { summary := some "2" }])).1 11 .webxdcDocument = none :=
  ⟨by decide, by decide⟩

end Metadata
end EpsilonChat.Webxdc
