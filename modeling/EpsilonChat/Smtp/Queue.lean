import EpsilonChat.Group.Members
import EpsilonChat.Group.Settings
import EpsilonChat.Lib.Chunks
import EpsilonChat.Smtp.Jobs

/-!
# Filling the SMTP queue

`create_send_msg_jobs` renders a message, cuts its recipients into chunks and inserts a row of
`smtp` for each chunk, preceded by a row for the pre-message if there is one.  What it returns is
meant to be the ids of these rows: `send_msg_sync` sends the rows it is given.

But `Statement::execute` does not return an id.  It returns the number of rows that were changed,
and that is `1` for every `INSERT`.

* `insertJobs`: the transaction at the end, `trans_fn`;
* `createSendMsgJobs`: the whole function;
* `sendMsgSync`: what is then sent;
* **`createSendMsgJobs_row_ids_iff`**: the inserted rows are the chunks of the recipients, in order;
  the vector names them only if there is ONE row and it is the first row the table ever had.
-/

namespace EpsilonChat.Smtp
open Lib Settings

/-! ## the database -/

/-- a row of the table `smtp`, with the columns that only the sending reads -/
structure SmtpRow extends Job where
  rfc724Mid : String
  recipients : String
  mime : String
  deriving DecidableEq, Repr

structure Columns where
  timestamp : Option I64
  param : Params
  subject : String
  preRfc724Mid : String

structure Db where
  smtp : IdTable SmtpRow
  msgs : MsgId → Option Msg
  columns : MsgId → Columns
  chat : ChatDb
  locationsLastSent : I64
  chatsContacts : Members.ChatsContacts
  selfavatarSent : ContactId → I64
  multiDeviceSync : List ℕ
  infoMsgs : List (String × I64) := []
  events : List Event := []

def Db.state (db : Db) : State where
  smtp := db.smtp.map SmtpRow.toJob
  msgs := db.msgs
  events := db.events

def Db.onMsgs (db : Db) (f : State → State) : Db :=
  { db with msgs := (f db.state).msgs, events := (f db.state).events }

structure Message where
  id : MsgId
  chatId : ChatId
  state : MessageState
  error : Option String := none
  hidden : Bool := false
  param : Params
  timestampSort : I64
  subject : String := ""
  preRfc724Mid : String := ""

structure RenderedEmail where
  message : String
  isEncrypted : Bool
  lastAddedLocationId : Option ℕ := none
  syncIdsToDelete : Option (List ℕ) := none
  rfc724Mid : String
  subject : String := ""
  deriving DecidableEq, Repr

structure MimeFactory where
  attachSelfavatar : Bool
  recipients : List String

/-- the configuration, and what the functions outside of the model return -/
structure Env where
  forceEncryption : Bool
  bccSelf : Bool
  primarySelfAddr : String
  publishedSecondarySelfAddrs : List String
  configuredAddr : Option String
  /-- `get_max_smtp_rcpt_to` -/
  maxSmtpRcptTo : ℕ
  now : I64
  toLowercase : String → String
  /-- the translated text, by provider -/
  unencryptedEmail : String → String
  /-- `MimeFactory::from_msg` -/
  mimefactory : Except String MimeFactory
  /-- `render_mime_message_and_pre_message` -/
  rendered : Except String (Option RenderedEmail × RenderedEmail)

/-! ## the parts of the function -/

def failMessage (db : Db) (msg : Message) (error : String) : Db × Message :=
  (db.onMsgs fun s => setMsgFailed s msg.id { chatId := msg.chatId, state := msg.state } error,
    { msg with
      state := if msg.state.canFail then .outFailed else msg.state
      error := some error })

def updateParam (db : Db) (msg : Message) : Db :=
  let row := { db.columns msg.id with param := msg.param }
  { db with columns := Function.update db.columns msg.id row }

/-- the timestamp of a change of the name or the description is kept with the chat -/
def storeChangeTimestamp (db : Db) (msg : Message) : Db :=
  let cmd := msg.param.getInt .cmd
  if cmd = some (SystemMessage.groupNameChanged.toNat : ℤ) then
    { db with chat := (db.chat.updateTimestamp .groupNameTimestamp msg.timestampSort).1 }
  else if cmd = some (SystemMessage.groupDescriptionChanged.toNat : ℤ) then
    { db with chat := (db.chat.updateTimestamp .groupDescriptionTimestamp msg.timestampSort).1 }
  else db

section
variable (env : Env)

def needsEncryption (msg : Message) : Bool :=
  (msg.param.getBool .guaranteeE2ee).getD false ||
    (!(msg.param.getBool .forcePlaintext).getD false && env.forceEncryption)

def retainedRecipients (mimefactory : MimeFactory) : List String :=
  mimefactory.recipients.filter fun x => env.toLowercase x != env.toLowercase env.primarySelfAddr

/-- default webxdc integrations, and messages to nobody, are not sent -/
def skipsSending (msg : Message) (recipients : List String) : Bool :=
  ((msg.param.getInt .webxdcIntegration).isSome && msg.hidden) ||
    (!env.bccSelf && recipients.isEmpty)

/-- `add_self_recipients`: the primary address is the last one -/
def addSelfRecipients (recipients : List String) (encrypted : Bool) : List String :=
  recipients ++ (if encrypted then env.publishedSecondarySelfAddrs else []) ++ [env.primarySelfAddr]

def jobRecipients (mimefactory : MimeFactory) (renderedMsg : RenderedEmail) : List String :=
  let recipients := retainedRecipients env mimefactory
  if env.bccSelf then addSelfRecipients env recipients renderedMsg.isEncrypted else recipients

def configuredHost : String :=
  ((((env.configuredAddr.getD "").toList.splitOnP (· == '@')).map String.ofList)[1]?).getD ""

def MessageState.sortsToBottom : MessageState → Bool
  | inFresh | inNoticed | inSeen | outPending | outFailed | outDelivered => true
  | undefined | outDraft | outMdnRcvd => false

/-- `SELECT MAX(timestamp) FROM msgs … WHERE state IN(..) AND chat_id=? AND id<=?` -/
def bottomTimestamp (db : Db) (msg : Message) : Option I64 :=
  ((List.range (msg.id + 1)).filterMap fun id =>
    if (db.msgs id).any fun row => row.chatId = msg.chatId && row.state.sortsToBottom then
      (db.columns id).timestamp
    else none).max?

/-- `UPDATE msgs SET timestamp=.., pre_rfc724_mid=?, subject=?, param=? WHERE id=?` -/
def updateMsgs (db : Db) (msg : Message) : Db :=
  let row : Columns :=
    { timestamp := bottomTimestamp db msg
      param := msg.param
      subject := msg.subject
      preRfc724Mid := msg.preRfc724Mid }
  { db with columns := Function.update db.columns msg.id row }

def storeSentTimestamps (db : Db) (msg : Message) (attachSelfavatar : Bool)
    (renderedMsg : RenderedEmail) : Db :=
  { db with
    locationsLastSent :=
      if renderedMsg.lastAddedLocationId.isSome then env.now else db.locationsLastSent
    selfavatarSent := fun c =>
      if attachSelfavatar && Members.isMember db.chatsContacts msg.chatId c then env.now
      else db.selfavatarSent c }

def renderedMessage (msg : Message) (preMsg : Option RenderedEmail) (renderedMsg : RenderedEmail) :
    Message :=
  { msg with
    preRfc724Mid := (preMsg.map RenderedEmail.rfc724Mid).getD msg.preRfc724Mid
    param := if renderedMsg.isEncrypted then msg.param.set .guaranteeE2ee "1"
      else msg.param.remove .guaranteeE2ee
    subject := renderedMsg.subject }

/-! ## the transaction -/

def execute (smtp : IdTable SmtpRow) (row : SmtpRow) : IdTable SmtpRow × ℕ := (smtp.insert row, 1)

def newRow (msgId : MsgId) (recipientsChunk : String) (email : RenderedEmail) : SmtpRow where
  msgId := msgId
  rfc724Mid := email.rfc724Mid
  recipients := recipientsChunk
  mime := email.message

def insertChunk (msgId : MsgId) (preMsg : Option RenderedEmail) (renderedMsg : RenderedEmail)
    (s : IdTable SmtpRow × List ℕ) (chunk : List String) : IdTable SmtpRow × List ℕ :=
  let recipientsChunk := " ".intercalate chunk
  let s := match preMsg with
    | some preMsg =>
      let (smtp, rowId) := execute s.1 (newRow msgId recipientsChunk preMsg)
      (smtp, s.2 ++ [rowId])
    | none => s
  let (smtp, rowId) := execute s.1 (newRow msgId recipientsChunk renderedMsg)
  (smtp, s.2 ++ [rowId])

def insertJobs (smtp : IdTable SmtpRow) (msgId : MsgId) (preMsg : Option RenderedEmail)
    (renderedMsg : RenderedEmail) (recipients : List String) (chunkSize : ℕ) :
    IdTable SmtpRow × List ℕ :=
  (chunks chunkSize recipients).foldl (insertChunk msgId preMsg renderedMsg) (smtp, [])

/-- `create_send_msg_jobs`: the database, the message in memory and the result -/
def createSendMsgJobs (db : Db) (msg : Message) : Db × Message × Except String (List ℕ) :=
  let db := storeChangeTimestamp db msg
  let needsEncryption := needsEncryption env msg
  match env.mimefactory with
  | .error err =>
    let (db, msg) := failMessage db msg err
    (db, msg, .error err)
  | .ok mimefactory =>
    if skipsSending env msg (retainedRecipients env mimefactory) then
      let msg := { msg with param := msg.param.set .guaranteeE2ee "1" }
      let db := (updateParam db msg).onMsgs fun s => setDelivered s msg.id
      (db, { msg with state := .outDelivered }, .ok [])
    else
      match env.rendered with
      | .error err =>
        let (db, msg) := failMessage db msg err
        (db, msg, .error err)
      | .ok (preMsg, renderedMsg) =>
        if needsEncryption && !renderedMsg.isEncrypted then
          let msg :=
            { msg with preRfc724Mid := (preMsg.map RenderedEmail.rfc724Mid).getD msg.preRfc724Mid }
          let text := env.unencryptedEmail (configuredHost env)
          let (db, msg) := failMessage db msg text
          ({ db with infoMsgs := db.infoMsgs ++ [(text, msg.timestampSort)] }, msg,
            .error s!"e2e encryption unavailable Msg#{msg.id} - {needsEncryption}")
        else
          let db := storeSentTimestamps env db msg mimefactory.attachSelfavatar renderedMsg
          let msg := renderedMessage msg preMsg renderedMsg
          let db := updateMsgs db msg
          let multiDeviceSync := match renderedMsg.syncIdsToDelete with
            | some syncIds => db.multiDeviceSync.filter fun id => id ∉ syncIds
            | none => db.multiDeviceSync
          let (smtp, rowIds) := insertJobs db.smtp msg.id preMsg renderedMsg
            (jobRecipients env mimefactory renderedMsg) env.maxSmtpRcptTo
          ({ db with multiDeviceSync, smtp }, msg, .ok rowIds)

end

/-! ## sending at once -/

structure Answer where
  connected : Bool := true
  result : SendResult

/-- the loop of `send_msg_sync`: the state, the rows that were tried, and the result -/
def sendMsgSync (answer : ℕ → Answer) : State → List ℕ → State × List ℕ × Except String Unit
  | s, [] => (s, [], .ok ())
  | s, rowid :: rowids =>
    let a := answer rowids.length
    let (s, outcome) := sendMsgToSmtp s { rowid, connected := a.connected, result := a.result }
    match outcome.result with
    | .error err => (s, [rowid], .error ("failed to send message, queued for later sending: " ++ err))
    | .ok () =>
      let (s, tried, result) := sendMsgSync answer s rowids
      (s, rowid :: tried, result)

theorem sendMsgSync_tried (answer : ℕ → Answer) (s : State) (rowids : List ℕ)
    (h : (sendMsgSync answer s rowids).2.2 = .ok ()) :
    (sendMsgSync answer s rowids).2.1 = rowids := by
  induction rowids generalizing s with
  | nil => rfl
  | cons rowid rowids ih =>
    simp only [sendMsgSync] at h ⊢
    split at h
    · cases h
    · next hres =>
      simp only
      rw [ih _ h]

/-! ## what is inserted -/

def chunkRows (msgId : MsgId) (preMsg : Option RenderedEmail) (renderedMsg : RenderedEmail)
    (chunk : List String) : List SmtpRow :=
  (preMsg.toList ++ [renderedMsg]).map (newRow msgId (" ".intercalate chunk))

theorem insertChunk_eq (msgId : MsgId) (preMsg : Option RenderedEmail)
    (renderedMsg : RenderedEmail) (s : IdTable SmtpRow × List ℕ) (chunk : List String) :
    insertChunk msgId preMsg renderedMsg s chunk =
      (s.1.insertAll (chunkRows msgId preMsg renderedMsg chunk),
        s.2 ++ List.replicate (preMsg.toList.length + 1) 1) := by
  cases preMsg with
  | none => rfl
  | some preMsg =>
    show (_, s.2 ++ [1] ++ [1]) = (_, s.2 ++ [1, 1])
    rw [List.append_assoc]
    rfl

theorem foldl_insertChunk (msgId : MsgId) (preMsg : Option RenderedEmail)
    (renderedMsg : RenderedEmail) (cs : List (List String)) (s : IdTable SmtpRow × List ℕ) :
    cs.foldl (insertChunk msgId preMsg renderedMsg) s =
      (s.1.insertAll (cs.flatMap (chunkRows msgId preMsg renderedMsg)),
        s.2 ++ List.replicate (cs.length * (preMsg.toList.length + 1)) 1) := by
  induction cs generalizing s with
  | nil =>
    show s = (s.1, s.2 ++ List.replicate (0 * _) 1)
    rw [Nat.zero_mul, List.replicate_zero, List.append_nil]
  | cons c cs ih =>
    rw [List.foldl_cons, ih, insertChunk_eq, List.flatMap_cons, List.length_cons]
    refine Prod.ext ?_ ?_
    · show (s.1.insertAll _).insertAll _ = s.1.insertAll (_ ++ _)
      exact (List.foldl_append ..).symm
    · show s.2 ++ List.replicate _ 1 ++ List.replicate _ 1 = _
      rw [List.append_assoc, List.replicate_append_replicate, Nat.succ_mul, Nat.add_comm]

/-- the ids that were given out between two states of the table -/
def newIds (t t' : IdTable SmtpRow) : List ℕ := List.range' (t.seq + 1) (t'.seq - t.seq)

/-- the new rows are those of consecutive chunks of the recipients, and the old rows are still
there -/
def Queued (t t' : IdTable SmtpRow) (msgId : MsgId) (preMsg : Option RenderedEmail)
    (renderedMsg : RenderedEmail) (recipients : List String) (chunkSize : ℕ) : Prop :=
  (∀ id ≤ t.seq, t'.row id = t.row id) ∧
    ∃ cs : List (List String), cs.flatten = recipients ∧
      (∀ chunk ∈ cs, chunk ≠ [] ∧ chunk.length ≤ chunkSize) ∧
      (newIds t t').map t'.row = (cs.flatMap (chunkRows msgId preMsg renderedMsg)).map some

theorem newIds_insertAll (t : IdTable SmtpRow) (rows : List SmtpRow) :
    newIds t (t.insertAll rows) = List.range' (t.seq + 1) rows.length := by
  rw [newIds, IdTable.insertAll_seq, Nat.add_sub_cancel_left]

theorem map_row_newIds (t : IdTable SmtpRow) (rows : List SmtpRow) :
    (newIds t (t.insertAll rows)).map (t.insertAll rows).row = rows.map some := by
  rw [newIds_insertAll]
  refine List.ext_getElem (by simp) fun i hi hi' => ?_
  have hlt : i < rows.length := by simpa using hi'
  rw [List.getElem_map, List.getElem_range', Nat.one_mul, IdTable.insertAll_row_new,
    List.getElem?_eq_getElem hlt, List.getElem_map]

theorem length_flatMap_chunkRows (msgId : MsgId) (preMsg : Option RenderedEmail)
    (renderedMsg : RenderedEmail) (cs : List (List String)) :
    (cs.flatMap (chunkRows msgId preMsg renderedMsg)).length =
      cs.length * (preMsg.toList.length + 1) := by
  induction cs with
  | nil => rw [List.length_nil, Nat.zero_mul]; rfl
  | cons c cs ih =>
    rw [List.flatMap_cons, List.length_append, ih, List.length_cons, Nat.succ_mul, Nat.add_comm]
    simp [chunkRows]

section
variable {smtp : IdTable SmtpRow} {msgId : MsgId} {preMsg : Option RenderedEmail}
  {renderedMsg : RenderedEmail} {recipients : List String} {chunkSize : ℕ}

theorem insertJobs_queued (hsize : 1 ≤ chunkSize) :
    Queued smtp (insertJobs smtp msgId preMsg renderedMsg recipients chunkSize).1 msgId preMsg
      renderedMsg recipients chunkSize := by
  rw [insertJobs, foldl_insertChunk]
  refine ⟨fun id hid => ?_, chunks chunkSize recipients, flatten_chunks hsize _,
    fun chunk => mem_chunks hsize, map_row_newIds _ _⟩
  rw [IdTable.insertAll_row, if_pos hid]

theorem replicate_one_eq_range'_iff {n k : ℕ} (hn : n ≠ 0) :
    List.replicate n 1 = List.range' (k + 1) n ↔ n = 1 ∧ k = 0 := by
  constructor
  · intro h
    have hget (i : ℕ) (hi : i < n) : 1 = k + 1 + i := by
      have hi' : i < (List.replicate n 1).length := by simpa using hi
      have := List.getElem_of_eq h hi'
      rwa [List.getElem_replicate, List.getElem_range', Nat.one_mul] at this
    have h0 := hget 0 (by omega)
    by_contra hcon
    have h1 := hget 1 (by omega)
    omega
  · rintro ⟨rfl, rfl⟩
    rfl

theorem insertJobs_row_ids_iff (hsize : 1 ≤ chunkSize)
    (hins : (insertJobs smtp msgId preMsg renderedMsg recipients chunkSize).1.seq ≠ smtp.seq) :
    (insertJobs smtp msgId preMsg renderedMsg recipients chunkSize).2 =
        newIds smtp (insertJobs smtp msgId preMsg renderedMsg recipients chunkSize).1 ↔
      smtp.seq = 0 ∧ preMsg = none ∧ recipients.length ≤ chunkSize := by
  rw [insertJobs, foldl_insertChunk] at hins ⊢
  set cs := chunks chunkSize recipients with hcs
  have hlen := length_flatMap_chunkRows msgId preMsg renderedMsg cs
  have hn : cs.length * (preMsg.toList.length + 1) ≠ 0 := by
    intro h0
    rw [IdTable.insertAll_seq, hlen, h0] at hins
    exact hins rfl
  rw [newIds_insertAll, hlen, List.nil_append, replicate_one_eq_range'_iff hn,
    ← length_chunks_le_one_iff hsize recipients, ← hcs]
  cases preMsg with
  | none =>
    change cs.length * 1 ≠ 0 at hn
    show cs.length * 1 = 1 ∧ smtp.seq = 0 ↔ _
    simp only [true_and]
    omega
  | some preMsg =>
    refine iff_of_false ?_ (by simp)
    show ¬ (cs.length * 2 = 1 ∧ smtp.seq = 0)
    omega

end

theorem createSendMsgJobs_inv {env : Env} {db db' : Db} {msg msg' : Message} {rowIds : List ℕ}
    (h : createSendMsgJobs env db msg = (db', msg', .ok rowIds))
    (hins : db'.smtp.seq ≠ db.smtp.seq) :
    ∃ mimefactory preMsg renderedMsg, env.mimefactory = .ok mimefactory ∧
      env.rendered = .ok (preMsg, renderedMsg) ∧
      (db'.smtp, rowIds) = insertJobs db.smtp msg.id preMsg renderedMsg
        (jobRecipients env mimefactory renderedMsg) env.maxSmtpRcptTo := by
  have hstore : (storeChangeTimestamp db msg).smtp = db.smtp := by
    unfold storeChangeTimestamp
    dsimp only
    split
    · rfl
    · split <;> rfl
  unfold createSendMsgJobs at h
  rcases hfactory : env.mimefactory with err | mimefactory
  · simp only [hfactory] at h
    cases congrArg (fun r => r.2.2) h
  simp only [hfactory] at h
  split at h
  · -- nothing to send
    have hsmtp : (storeChangeTimestamp db msg).smtp = db'.smtp := congrArg (fun r => r.1.smtp) h
    rw [← hsmtp, hstore] at hins
    exact absurd rfl hins
  rcases hrendered : env.rendered with err | ⟨preMsg, renderedMsg⟩
  · simp only [hrendered] at h
    cases congrArg (fun r => r.2.2) h
  simp only [hrendered] at h
  split at h
  · cases congrArg (fun r => r.2.2) h
  · refine ⟨mimefactory, preMsg, renderedMsg, rfl, rfl, ?_⟩
    have hsmtp := congrArg (fun r => r.1.smtp) h
    have hids := Except.ok.inj (congrArg (fun r => r.2.2) h)
    rw [← hstore]
    exact (Prod.ext hsmtp hids).symm

/-- **The rows are complete, and their ids are returned** iff there is one row and it is the first
row of the table: its recipients fit into one chunk, there is no pre-message, and no id was given
out before. -/
theorem createSendMsgJobs_row_ids_iff (env : Env) (db : Db) (msg : Message) (db' : Db)
    (msg' : Message) (rowIds : List ℕ) (hsize : 1 ≤ env.maxSmtpRcptTo)
    (h : createSendMsgJobs env db msg = (db', msg', .ok rowIds))
    (hins : db'.smtp.seq ≠ db.smtp.seq) :
    ∃ mimefactory preMsg renderedMsg, env.mimefactory = .ok mimefactory ∧
      env.rendered = .ok (preMsg, renderedMsg) ∧
      Queued db.smtp db'.smtp msg.id preMsg renderedMsg (jobRecipients env mimefactory renderedMsg)
        env.maxSmtpRcptTo ∧
      ((rowIds = newIds db.smtp db'.smtp ∧
          ∀ answer, (sendMsgSync answer db'.state rowIds).2.2 = .ok () →
            (sendMsgSync answer db'.state rowIds).2.1 = newIds db.smtp db'.smtp) ↔
        db.smtp.seq = 0 ∧ preMsg = none ∧
          (jobRecipients env mimefactory renderedMsg).length ≤ env.maxSmtpRcptTo) := by
  obtain ⟨mimefactory, preMsg, renderedMsg, hfactory, hrendered, hjobs⟩ :=
    createSendMsgJobs_inv h hins
  have hsmtp := congrArg Prod.fst hjobs
  have hids := congrArg Prod.snd hjobs
  change db'.smtp = _ at hsmtp
  change rowIds = _ at hids
  refine ⟨mimefactory, preMsg, renderedMsg, hfactory, hrendered, ?_, ?_⟩
  · rw [hsmtp]
    exact insertJobs_queued hsize
  · rw [hsmtp] at hins
    rw [← insertJobs_row_ids_iff hsize hins, ← hsmtp, ← hids]
    refine ⟨fun h => h.1, fun h => ⟨h, fun answer hok => ?_⟩⟩
    rw [sendMsgSync_tried answer _ _ hok, h]

/-! ## a table that is in use -/

def sampleEnv : Env where
  forceEncryption := false
  bccSelf := false
  primarySelfAddr := "alice@example.org"
  publishedSecondarySelfAddrs := []
  configuredAddr := some "alice@example.org"
  maxSmtpRcptTo := 50
  now := I64.zero
  toLowercase := id
  unencryptedEmail := id
  mimefactory := .ok { attachSelfavatar := false, recipients := ["bob@example.net"] }
  rendered := .ok (none, { message := "", isEncrypted := true, rfc724Mid := "41@localhost" })

def sampleMsg : Message where
  id := 41
  chatId := 12
  state := .outPending
  param := Params.new
  timestampSort := I64.zero

def sampleDb (smtp : IdTable SmtpRow) : Db where
  smtp := smtp
  msgs := fun _ => some { chatId := 12, state := .outPending }
  columns := fun _ =>
    { timestamp := some I64.zero, param := Params.new, subject := "", preRfc724Mid := "" }
  chat := { typ := .group, name := "", param := Params.new, description := none }
  locationsLastSent := I64.zero
  chatsContacts := fun _ => none
  selfavatarSent := fun _ => I64.zero
  multiDeviceSync := []

theorem createSendMsgJobs_row_ids_iff_first :
    ∃ db' msg', createSendMsgJobs sampleEnv (sampleDb .empty) sampleMsg = (db', msg', .ok [1]) ∧
      [1] = newIds .empty db'.smtp := by
  refine ⟨_, _, rfl, ?_⟩
  obtain ⟨mimefactory, preMsg, renderedMsg, hfactory, hrendered, -, hiff⟩ :=
    createSendMsgJobs_row_ids_iff sampleEnv (sampleDb .empty) sampleMsg _ _ [1] (by decide) rfl
      (by decide)
  cases hfactory
  cases hrendered
  exact (hiff.mpr ⟨rfl, rfl, by decide⟩).1

def usedTable : IdTable SmtpRow :=
  IdTable.empty.insert { msgId := 40, rfc724Mid := "40@localhost", recipients := "", mime := "" }

/-- the job of the message 41 gets the id 2, but the row that `send_msg_sync` sends is 1, which is
the job of the message 40 -/
theorem createSendMsgJobs_names_other_row :
    ∃ db' msg', createSendMsgJobs sampleEnv (sampleDb usedTable) sampleMsg = (db', msg', .ok [1]) ∧
      newIds usedTable db'.smtp = [2] ∧
      (sendMsgSync (fun _ => { result := .success }) db'.state [1]).2 = ([1], .ok ()) ∧
      (db'.smtp.row 1).map (fun row => row.msgId) = some 40 ∧
      (db'.smtp.row 2).map (fun row => row.msgId) = some 41 :=
  ⟨_, _, rfl, rfl, rfl, rfl, rfl⟩

end EpsilonChat.Smtp
