import EpsilonChat.Lib.Eff
import EpsilonChat.Receive.Msgs
import EpsilonChat.Smtp.Jobs

/-!
# Deleting messages

`delete_msgs_ex` goes through the messages TWICE.  The first loop checks each message and, in the
same turn, schedules it for deletion on the server and drops its jobs; the second loop moves the
messages to the trash.  In between the deletion is announced, to the chat or to the other devices.
So a message that is rejected in the first loop finds the messages before it handled already, and a
message that is listed twice is rejected in the second loop, when its first turn has trashed it.

* `requestDeletion`: a turn of the first loop;
* `deleteMsgsEx`: the whole function;
* `check`, `checked`: what a turn checks, and the messages up to the first rejected one;
* `Untouched`: there is nothing to write for a message;
* `requestAll_run`: the first loop writes for the checked messages, and nothing else;
* `rejected_cases`: where a call can be rejected, and what it has done then;
* **`rejected_unchanged_iff`**: a rejected call leaves the tables as they are IFF it is rejected
  before the second loop and there is nothing to write for the messages it handled.
-/

namespace EpsilonChat.DeleteMsgs

open Lib
open Receive (chatIdTrash)

/-! ## the tables -/

structure Msg extends Receive.MsgRow where
  timestamp : I64 := I64.zero
  locationId : ℕ := 0
  deleted : Bool := false

/-- a row of `imap`; without a target the message is deleted on the server -/
structure ImapRow where
  rfc724Mid : String
  target : String
  deriving DecidableEq, Repr

inductive Event where
  | msgDeleted (chatId : ChatId) (msgId : MsgId)
  | webxdcInstanceDeleted (msgId : MsgId)
  /-- of one chat, or of no chat in particular -/
  | msgsChanged (chatId : Option ChatId)
  | chatlistItemChanged (chatId : ChatId)
  | chatlistChanged
  deriving DecidableEq, Repr

structure State where
  msgs : IdTable Msg
  imap : IdTable ImapRow := IdTable.empty
  smtp : IdTable Smtp.Job := IdTable.empty
  /-- the Message-IDs in `download` and in `available_post_msgs` -/
  download : IdTable String := IdTable.empty
  availablePostMsgs : IdTable String := IdTable.empty
  /-- `locations`, by their column `independent` -/
  locations : IdTable Bool := IdTable.empty
  multiDeviceSync : List (List String) := []
  debugLogging : Option MsgId := none
  lastHousekeeping : Option I64 := none
  events : List Event := []

inductive Err where
  | special (id : MsgId)
  | missing (id : MsgId)
  | notOwn
  | unencrypted
  | otherChats
  | sql (e : String)
  | send (e : String)
  deriving DecidableEq, Repr

def Err.text : Err → String
  | special id => s!"Can not load special message ID Msg#{id} from DB"
  | missing id => s!"Message Msg#{id} does not exist"
  | notOwn => "Can delete only own messages for others"
  | unencrypted => "Cannot request deletion of unencrypted message for others"
  | otherChats => "Can delete only from same chat."
  | sql e => e
  | send e => e

def Err.isRejection : Err → Bool
  | special _ | missing _ | notOwn | unencrypted | otherChats => true
  | sql _ | send _ => false

/-- what `send_msg` does: the rows it inserts, and how it ends -/
structure Sent where
  msgs : List Msg
  jobs : List Smtp.Job
  result : Except String Unit

structure Env where
  /-- how the transaction of a message fails, by the number of messages before it -/
  transactionError : ℕ → Option String
  sendMsg : State → ChatId → Msg → Sent
  shouldSendSyncMsgs : Bool

/-! ## the function -/

def loadFromDb (t : IdTable Msg) (id : MsgId) : Except Err Msg :=
  if id ≤ 9 then .error (.special id)
  else
    match (t.row id).filter fun r => r.chatId ≠ chatIdTrash with
    | some msg => .ok msg
    | none => .error (.missing id)

def load (id : MsgId) : Eff State Err Msg := fun s => (s, loadFromDb s.msgs id)

def Msg.mids (msg : Msg) : List String :=
  msg.rfc724Mid :: if msg.preRfc724Mid = "" then [] else [msg.preRfc724Mid]

/-- `UPDATE imap SET target='' WHERE rfc724_mid=?` -/
def clearTarget (t : IdTable ImapRow) (mid : String) : IdTable ImapRow :=
  t.updateWhere (fun r => r.rfc724Mid = mid) fun r => { r with target := "" }

def updateDb (s : State) (id : MsgId) (msg : Msg) : State :=
  { s with
    imap := msg.mids.foldl clearTarget s.imap
    smtp := s.smtp.deleteWhere fun job => job.msgId = id
    download := s.download.deleteWhere fun mid => mid = msg.rfc724Mid
    availablePostMsgs := s.availablePostMsgs.deleteWhere fun mid => mid = msg.rfc724Mid }

structure Collected where
  modifiedChatIds : Finset ChatId := ∅
  deletedRfc724Mid : List String := []
  res : Option Err := none

def Collected.push (c : Collected) (msg : Msg) : Collected :=
  { c with
    modifiedChatIds := insert msg.chatId c.modifiedChatIds
    deletedRfc724Mid := c.deletedRfc724Mid ++ [msg.rfc724Mid] }

section
variable (env : Env) (deleteForAll : Bool)

/-- a turn of the first loop; a transaction that fails does not stop the loop -/
def requestDeletion (c : Collected) (id : MsgId) : Eff State Err Collected := do
  let msg ← load id
  Eff.ensure (!deleteForAll || msg.fromId = ContactId.self) .notOwn
  Eff.ensure (!deleteForAll || msg.getShowpadlock) .unencrypted
  match env.transactionError c.deletedRfc724Mid.length with
  | some e => return { c.push msg with res := some (.sql e) }
  | none =>
    Eff.modify fun s => updateDb s id msg
    return c.push msg

def deletionRequest (deletedRfc724Mid : List String) : Msg where
  typ := .text
  txt := "🚮"
  param := (Params.new.set .guaranteeE2ee "1").set .deleteRequestFor
    (" ".intercalate deletedRfc724Mid)
  hidden := true

def sendMsg (chatId : ChatId) (msg : Msg) : Eff State Err Unit := fun s =>
  let sent := env.sendMsg s chatId msg
  ({ s with msgs := s.msgs.insertAll sent.msgs, smtp := s.smtp.insertAll sent.jobs },
    sent.result.mapError .send)

def addSyncItem (deletedRfc724Mid : List String) : Eff State Err Unit :=
  Eff.modify fun s =>
    if env.shouldSendSyncMsgs then
      { s with multiDeviceSync := s.multiDeviceSync ++ [deletedRfc724Mid] }
    else s

def announce (c : Collected) : Eff State Err Unit :=
  if deleteForAll then do
    Eff.ensure (c.modifiedChatIds.card = 1) .otherChats
    match (c.modifiedChatIds.sort (· ≤ ·)).head? with
    | some chatId => sendMsg env chatId (deletionRequest c.deletedRfc724Mid)
    | none => return
  else addSyncItem env c.deletedRfc724Mid

def Msg.trashed (r : Msg) : Msg where
  toMsgRow := r.toMsgRow.trashed
  timestamp := r.timestamp
  deleted := true

def deleteMsgLocally (id : MsgId) (msg : Msg) : Eff State Err Unit :=
  Eff.modify fun s =>
    { s with
      locations := if msg.locationId > 0 ∧ s.locations.row msg.locationId = some true then
        s.locations.delete msg.locationId else s.locations
      msgs := s.msgs.update id Msg.trashed
      debugLogging := if s.debugLogging = some id then none else s.debugLogging
      events := s.events ++ .msgDeleted msg.chatId id ::
        if msg.typ = .webxdc then [.webxdcInstanceDeleted id] else [] }

/-- a turn of the second loop -/
def deleteMsg (id : MsgId) : Eff State Err Unit := do
  let msg ← load id
  deleteMsgLocally id msg

def deleteMsgsLocallyDone (msgIds : List MsgId) (modifiedChatIds : Finset ChatId) :
    Eff State Err Unit :=
  Eff.modify fun s =>
    let changed := (modifiedChatIds.sort (· ≤ ·)).flatMap fun chatId =>
      [.msgsChanged (some chatId), .chatlistItemChanged chatId]
    if msgIds = [] then { s with events := s.events ++ changed }
    else
      { s with
        events := s.events ++ changed ++ [.msgsChanged none, .chatlistChanged]
        lastHousekeeping := none }

def deleteMsgsEx (msgIds : List MsgId) : Eff State Err Unit := do
  let c ← msgIds.foldlM (requestDeletion env deleteForAll) {}
  match c.res with
  | some e => Eff.fail e
  | none =>
    announce env deleteForAll c
    msgIds.forM deleteMsg
    deleteMsgsLocallyDone msgIds c.modifiedChatIds

end

/-! ## the checks of a turn -/

section
variable (env : Env) (deleteForAll : Bool)

def check (t : IdTable Msg) (id : MsgId) : Except Err Msg :=
  match loadFromDb t id with
  | .error e => .error e
  | .ok msg =>
    if deleteForAll && msg.fromId ≠ ContactId.self then .error .notOwn
    else if deleteForAll && !msg.getShowpadlock then .error .unencrypted
    else .ok msg

theorem requestDeletion_run (c : Collected) (id : MsgId) (s : State) :
    requestDeletion env deleteForAll c id s =
      match check deleteForAll s.msgs id with
      | .error e => (s, .error e)
      | .ok msg =>
        match env.transactionError c.deletedRfc724Mid.length with
        | some e => (s, .ok { c.push msg with res := some (.sql e) })
        | none => (updateDb s id msg, .ok (c.push msg)) := by
  unfold requestDeletion check
  cases hload : loadFromDb s.msgs id with
  | error e =>
    have hrun : load id s = (s, .error e) := Prod.ext rfl hload
    exact Eff.bind_of_error hrun _
  | ok msg =>
    have hrun : load id s = (s, .ok msg) := Prod.ext rfl hload
    rw [Eff.bind_of_ok hrun, Eff.ensure_bind]
    have hown : (!deleteForAll || decide (msg.fromId = ContactId.self)) =
        !(deleteForAll && decide (msg.fromId ≠ ContactId.self)) := by simp
    have hlock : (!deleteForAll || msg.getShowpadlock) =
        !(deleteForAll && !msg.getShowpadlock) := by simp
    dsimp only
    rw [hown]
    cases deleteForAll && decide (msg.fromId ≠ ContactId.self) with
    | true => rfl
    | false =>
      show (Eff.ensure _ _ >>= _) s = _
      rw [Eff.ensure_bind, hlock]
      cases deleteForAll && !msg.getShowpadlock with
      | true => rfl
      | false =>
        cases env.transactionError c.deletedRfc724Mid.length with
        | none => rfl
        | some e => rfl

/-- the messages up to the first one that is rejected -/
def checked (t : IdTable Msg) : List MsgId → List (MsgId × Msg)
  | [] => []
  | id :: ids =>
    match check deleteForAll t id with
    | .error _ => []
    | .ok msg => (id, msg) :: checked t ids

/-- the messages of these whose transaction goes through; the first of them has number `n` -/
def written : ℕ → List (MsgId × Msg) → List (MsgId × Msg)
  | _, [] => []
  | n, m :: ms =>
    if env.transactionError n = none then m :: written (n + 1) ms else written (n + 1) ms

def writeAll (s : State) (ms : List (MsgId × Msg)) : State :=
  ms.foldl (fun s m => updateDb s m.1 m.2) s

theorem writeAll_msgs (s : State) (ms : List (MsgId × Msg)) : (writeAll s ms).msgs = s.msgs := by
  induction ms generalizing s with
  | nil => rfl
  | cons m ms ih => exact ih (updateDb s m.1 m.2)

/-- how the first loop ends, of which `ms` are the checked messages: a message is rejected, or all
messages are checked and their chats are collected -/
def LoopEnd (c : Collected) (ids : List MsgId) (ms : List (MsgId × Msg)) :
    Except Err Collected → Prop
  | .error _ => ms.map Prod.fst ≠ ids
  | .ok c' => ms.map Prod.fst = ids ∧ (∀ e, c'.res = some e → e.isRejection = false) ∧
      c'.modifiedChatIds = c.modifiedChatIds ∪ (ms.map fun m => m.2.chatId).toFinset

theorem LoopEnd.cons {c c₁ : Collected} {ids : List MsgId} {ms : List (MsgId × Msg)}
    {result : Except Err Collected} (id : MsgId) (msg : Msg) (h : LoopEnd c₁ ids ms result)
    (hc : c₁.modifiedChatIds = insert msg.chatId c.modifiedChatIds) :
    LoopEnd c (id :: ids) ((id, msg) :: ms) result := by
  cases result with
  | error e => exact fun heq => h (List.cons.inj heq).2
  | ok c' =>
    obtain ⟨hall, hres, hchats⟩ := h
    refine ⟨congrArg (id :: ·) hall, hres, ?_⟩
    rw [hchats, hc, List.map_cons, List.toFinset_cons, Finset.insert_union, Finset.union_insert]

theorem requestAll_run (ids : List MsgId) (c : Collected) (s : State)
    (hres : ∀ e, c.res = some e → e.isRejection = false) :
    ∃ result, ids.foldlM (requestDeletion env deleteForAll) c s =
        (writeAll s (written env c.deletedRfc724Mid.length (checked deleteForAll s.msgs ids)),
          result) ∧
      LoopEnd c ids (checked deleteForAll s.msgs ids) result := by
  induction ids generalizing c s with
  | nil => exact ⟨.ok c, rfl, rfl, hres, (Finset.union_empty _).symm⟩
  | cons id ids ih =>
    rw [List.foldlM_cons]
    have hrun := requestDeletion_run env deleteForAll c id s
    unfold checked
    cases hcheck : check deleteForAll s.msgs id with
    | error e =>
      rw [hcheck] at hrun
      exact ⟨.error e, Eff.bind_of_error hrun _, (List.cons_ne_nil id ids).symm⟩
    | ok msg =>
      rw [hcheck] at hrun
      have hlength : (c.push msg).deletedRfc724Mid.length = c.deletedRfc724Mid.length + 1 :=
        List.length_append
      dsimp only at hrun ⊢
      unfold written
      cases htrans : env.transactionError c.deletedRfc724Mid.length with
      | none =>
        rw [htrans] at hrun
        obtain ⟨result, hrest, hend⟩ := ih (c.push msg) (updateDb s id msg) hres
        rw [hlength] at hrest
        exact ⟨result, (Eff.bind_of_ok hrun _).trans hrest, hend.cons id msg rfl⟩
      | some e =>
        rw [htrans] at hrun
        obtain ⟨result, hrest, hend⟩ := ih { c.push msg with res := some (.sql e) } s (by
          intro e' h
          cases h
          rfl)
        rw [hlength] at hrest
        exact ⟨result, (Eff.bind_of_ok hrun _).trans hrest, hend.cons id msg rfl⟩

/-! ## the tables after the first loop -/

def SameTables (s s' : State) : Prop :=
  s'.imap.row = s.imap.row ∧ s'.smtp.row = s.smtp.row ∧ s'.download.row = s.download.row ∧
    s'.availablePostMsgs.row = s.availablePostMsgs.row ∧ s'.msgs.row = s.msgs.row

/-- there is nothing to write for the message -/
def Untouched (s : State) (id : MsgId) (msg : Msg) : Prop :=
  (∀ i r, s.imap.row i = some r → r.rfc724Mid ∈ msg.mids → r.target = "") ∧
    (∀ i job, s.smtp.row i = some job → job.msgId ≠ id) ∧
    (∀ i mid, s.download.row i = some mid → mid ≠ msg.rfc724Mid) ∧
    ∀ i mid, s.availablePostMsgs.row i = some mid → mid ≠ msg.rfc724Mid

theorem writeAll_table {τ : Type} (table : State → τ) {f : τ → MsgId × Msg → τ}
    (hf : ∀ s m, table (updateDb s m.1 m.2) = f (table s) m) (s : State)
    (ms : List (MsgId × Msg)) : table (writeAll s ms) = ms.foldl f (table s) := by
  induction ms generalizing s with
  | nil => rfl
  | cons m ms ih =>
    rw [List.foldl_cons, ← hf]
    exact ih (updateDb s m.1 m.2)

theorem writeAll_imap (s : State) (ms : List (MsgId × Msg)) :
    (writeAll s ms).imap = (ms.flatMap fun m => m.2.mids).foldl clearTarget s.imap := by
  rw [List.foldl_flatMap]
  exact writeAll_table State.imap (fun _ _ => rfl) s ms

theorem writeAll_smtp (s : State) (ms : List (MsgId × Msg)) :
    (writeAll s ms).smtp =
      ms.foldl (fun t m => t.deleteWhere fun job => job.msgId = m.1) s.smtp :=
  writeAll_table State.smtp (fun _ _ => rfl) s ms

theorem writeAll_download (s : State) (ms : List (MsgId × Msg)) :
    (writeAll s ms).download =
      ms.foldl (fun t m => t.deleteWhere fun mid => mid = m.2.rfc724Mid) s.download :=
  writeAll_table State.download (fun _ _ => rfl) s ms

theorem writeAll_availablePostMsgs (s : State) (ms : List (MsgId × Msg)) :
    (writeAll s ms).availablePostMsgs =
      ms.foldl (fun t m => t.deleteWhere fun mid => mid = m.2.rfc724Mid) s.availablePostMsgs :=
  writeAll_table State.availablePostMsgs (fun _ _ => rfl) s ms

theorem clearTarget_same_iff (t : IdTable ImapRow) (mids : List String) :
    (mids.foldl clearTarget t).row = t.row ↔
      ∀ i r, t.row i = some r → r.rfc724Mid ∈ mids → r.target = "" := by
  unfold clearTarget
  rw [IdTable.foldl_updateWhere_row_eq_iff (f := fun r : ImapRow => { r with target := "" })
    (fun (mid : String) (r : ImapRow) => decide (r.rfc724Mid = mid)) fun _ => rfl]
  constructor
  · intro h i r hr hmem
    exact (congrArg ImapRow.target (h _ hmem i r hr (decide_eq_true rfl))).symm
  · intro h mid hmem i r hr hmid
    have htarget := h i r hr (of_decide_eq_true hmid ▸ hmem)
    rw [← htarget]

theorem writeAll_same_iff (s : State) (ms : List (MsgId × Msg)) :
    SameTables s (writeAll s ms) ↔ ∀ m ∈ ms, Untouched s m.1 m.2 := by
  unfold SameTables Untouched
  rw [writeAll_imap, writeAll_smtp, writeAll_download, writeAll_availablePostMsgs, writeAll_msgs,
    clearTarget_same_iff, IdTable.foldl_deleteWhere_row_eq_iff,
    IdTable.foldl_deleteWhere_row_eq_iff, IdTable.foldl_deleteWhere_row_eq_iff]
  simp only [decide_eq_false_iff_not, and_true, forall_and]
  refine and_congr_left fun _ => ⟨fun h m hm i r hr hmid => ?_, fun h i r hr hmid => ?_⟩
  · exact h i r hr (List.mem_flatMap.mpr ⟨m, hm, hmid⟩)
  · obtain ⟨m, hm, hmem⟩ := List.mem_flatMap.mp hmid
    exact h m hm i r hr hmem

end

/-! ## the second loop -/

def Trashed (s : State) (id : MsgId) : Prop := ∃ r, s.msgs.row id = some r ∧ r.chatId = chatIdTrash

def KeepsTrash (s s' : State) : Prop := ∀ id, Trashed s id → Trashed s' id

instance : IsPreorder State KeepsTrash where
  refl _ _ h := h
  trans _ _ _ h h' id hid := h' id (h id hid)

section
variable {s : State} {id : MsgId} {t : IdTable Msg} {ids : List MsgId} {deleteForAll : Bool}

theorem deleteMsgLocally_trashed {msg r : Msg} (hr : s.msgs.row id = some r) :
    Trashed (deleteMsgLocally id msg s).1 id :=
  ⟨r.trashed, IdTable.update_row_self _ hr, rfl⟩

theorem deleteMsg_keepsTrash (id : MsgId) (s : State) :
    Eff.Respects KeepsTrash (deleteMsg id) s := by
  refine Eff.respects_bind (refl s) fun s' msg _ _ => Eff.respects_modify fun id' hid' => ?_
  obtain ⟨r, hr, hchat⟩ := hid'
  by_cases e : id' = id
  · subst e
    exact ⟨r.trashed, IdTable.update_row_self _ hr, rfl⟩
  · exact ⟨r, (IdTable.update_row_of_ne _ e).trans hr, hchat⟩

theorem forM_keepsTrash (ids : List MsgId) (s : State) :
    Eff.Respects KeepsTrash (ids.forM deleteMsg) s := by
  induction ids generalizing s with
  | nil => exact Eff.respects_pure ()
  | cons id ids ih =>
    show Eff.Respects KeepsTrash (deleteMsg id >>= fun _ => ids.forM deleteMsg) s
    exact Eff.respects_bind (deleteMsg_keepsTrash id s) fun s' _ _ _ => ih s'

theorem loadFromDb_ok {msg : Msg} (h : loadFromDb t id = .ok msg) :
    t.row id = some msg ∧ msg.chatId ≠ chatIdTrash := by
  unfold loadFromDb at h
  split at h
  · cases h
  · split at h
    · next hrow =>
      cases h
      obtain ⟨hrow, hchat⟩ := Option.filter_eq_some_iff.mp hrow
      exact ⟨hrow, of_decide_eq_true hchat⟩
    · cases h

theorem forM_error {s' : State} {e : Err}
    (hload : ∀ id ∈ ids, ∃ msg, loadFromDb s.msgs id = .ok msg)
    (h : ids.forM deleteMsg s = (s', .error e)) : ∃ id ∈ ids, Trashed s' id := by
  cases ids with
  | nil => cases h
  | cons id ids =>
    obtain ⟨msg, hmsg⟩ := hload id List.mem_cons_self
    have hrun : load id s = (s, .ok msg) := Prod.ext rfl hmsg
    have hfirst : deleteMsg id s = ((deleteMsgLocally id msg s).1, .ok ()) := Eff.bind_of_ok hrun _
    change (deleteMsg id >>= fun _ => ids.forM deleteMsg) s = _ at h
    rw [Eff.bind_of_ok hfirst] at h
    refine ⟨id, List.mem_cons_self, ?_⟩
    have htrashed : Trashed (deleteMsgLocally id msg s).1 id :=
      deleteMsgLocally_trashed (loadFromDb_ok hmsg).1
    have hkeeps := forM_keepsTrash ids (deleteMsgLocally id msg s).1 id htrashed
    rw [h] at hkeeps
    exact hkeeps

/-! ## between the loops -/

theorem announce_cases (env : Env) (deleteForAll : Bool) (c : Collected) (s : State) :
    (deleteForAll ∧ c.modifiedChatIds.card ≠ 1 ∧
        announce env deleteForAll c s = (s, .error .otherChats)) ∨
      ((deleteForAll → c.modifiedChatIds.card = 1) ∧
        ∃ s' result, announce env deleteForAll c s = (s', result) ∧
          (∀ e, result = .error e → e.isRejection = false) ∧
          ∀ id r, s.msgs.row id = some r → s'.msgs.row id = some r) := by
  unfold announce
  cases deleteForAll with
  | false =>
    refine .inr ⟨nofun, _, .ok (), rfl, nofun, fun id r hr => ?_⟩
    dsimp only
    split
    · exact hr
    · exact hr
  | true =>
    rw [if_pos rfl, Eff.ensure_bind]
    by_cases hcard : c.modifiedChatIds.card = 1
    · right
      rw [if_pos (decide_eq_true hcard)]
      refine ⟨fun _ => hcard, ?_⟩
      cases (c.modifiedChatIds.sort (· ≤ ·)).head? with
      | none => exact ⟨s, .ok (), rfl, nofun, fun _ _ hr => hr⟩
      | some chatId =>
        refine ⟨_, _, rfl, ?_, fun id r hr => IdTable.insertAll_row_of_some _ hr⟩
        intro e he
        cases hsent : (env.sendMsg s chatId (deletionRequest c.deletedRfc724Mid)).result with
        | ok u =>
          rw [hsent] at he
          cases he
        | error e' =>
          rw [hsent] at he
          cases he
          rfl
    · left
      rw [if_neg (by simpa using hcard)]
      exact ⟨rfl, hcard, rfl⟩

/-! ## rejected calls -/

theorem mem_checked {m : MsgId × Msg} (h : m ∈ checked deleteForAll t ids) :
    loadFromDb t m.1 = .ok m.2 := by
  induction ids with
  | nil => cases h
  | cons id ids ih =>
    unfold checked at h
    cases hcheck : check deleteForAll t id with
    | error e =>
      rw [hcheck] at h
      cases h
    | ok msg =>
      rw [hcheck] at h
      rcases List.mem_cons.mp h with rfl | h
      · unfold check at hcheck
        cases hload : loadFromDb t id with
        | error e =>
          rw [hload] at hcheck
          cases hcheck
        | ok msg' =>
          rw [hload] at hcheck
          dsimp only at hcheck
          split_ifs at hcheck
          exact hcheck
      · exact ih h

theorem loadFromDb_congr {t' : IdTable Msg} (h : t'.row id = t.row id) :
    loadFromDb t' id = loadFromDb t id := by
  unfold loadFromDb
  rw [h]

/-- the call gets to the second loop: no message is rejected in the first one, and a deletion for
all is for one chat -/
def Accepted (deleteForAll : Bool) (t : IdTable Msg) (ids : List MsgId) : Prop :=
  (checked deleteForAll t ids).map Prod.fst = ids ∧
    (deleteForAll → ((checked deleteForAll t ids).map fun m => m.2.chatId).toFinset.card = 1)

theorem loadFromDb_kept {t' : IdTable Msg}
    (hall : (checked deleteForAll t ids).map Prod.fst = ids)
    (hkept : ∀ id msg, t.row id = some msg → t'.row id = some msg) :
    ∀ id ∈ ids, ∃ msg, loadFromDb t id = .ok msg ∧ loadFromDb t' id = .ok msg := by
  intro id hid
  rw [← hall] at hid
  obtain ⟨m, hm, rfl⟩ := List.mem_map.mp hid
  have hm' := mem_checked hm
  have hrow := (loadFromDb_ok hm').1
  refine ⟨m.2, hm', (loadFromDb_congr ?_).trans hm'⟩
  rw [hrow]
  exact hkept m.1 m.2 hrow

/-- **a rejected call**: it is rejected in the first loop or after it, and what the first loop wrote
stays; or it is rejected in the second loop, and a message is in the trash -/
theorem rejected_cases {env : Env} {s' : State} {e : Err}
    (h : deleteMsgsEx env deleteForAll ids s = (s', .error e)) (he : e.isRejection) :
    (¬ Accepted deleteForAll s.msgs ids ∧
        s' = writeAll s (written env 0 (checked deleteForAll s.msgs ids))) ∨
      (Accepted deleteForAll s.msgs ids ∧
        ∃ id msg, loadFromDb s.msgs id = .ok msg ∧ Trashed s' id) := by
  obtain ⟨result, hrun, hend⟩ := requestAll_run env deleteForAll ids {} s nofun
  have hloop : ids.foldlM (requestDeletion env deleteForAll) {} s =
      (writeAll s (written env 0 (checked deleteForAll s.msgs ids)), result) := hrun
  have hmsgs : (writeAll s (written env 0 (checked deleteForAll s.msgs ids))).msgs = s.msgs :=
    writeAll_msgs s _
  generalize writeAll s (written env 0 (checked deleteForAll s.msgs ids)) = s₁ at hloop hmsgs ⊢
  unfold deleteMsgsEx at h
  cases result with
  | error e' =>
    rw [Eff.bind_of_error hloop] at h
    cases h
    exact .inl ⟨fun hacc => hend hacc.1, rfl⟩
  | ok c =>
    obtain ⟨hall, hres, hchats⟩ := hend
    rw [Finset.empty_union] at hchats
    rw [Eff.bind_of_ok hloop] at h
    cases hc : c.res with
    | some e' =>
      rw [hc] at h
      cases h
      rw [hres e hc] at he
      cases he
    | none =>
      rw [hc] at h
      change (announce env deleteForAll c >>= fun _ => ids.forM deleteMsg >>= fun _ =>
        deleteMsgsLocallyDone ids c.modifiedChatIds) s₁ = _ at h
      rcases announce_cases env deleteForAll c s₁ with
        ⟨hfor, hcard, hrun⟩ | ⟨hone, s₂, result, hrun, hresult, hkept⟩
      · rw [hchats] at hcard
        rw [Eff.bind_of_error hrun] at h
        cases h
        exact .inl ⟨fun hacc => hcard (hacc.2 hfor), rfl⟩
      · rw [hchats] at hone
        cases result with
        | error e' =>
          rw [Eff.bind_of_error hrun] at h
          cases h
          rw [hresult e rfl] at he
          cases he
        | ok u =>
          rw [Eff.bind_of_ok hrun] at h
          have hload := loadFromDb_kept hall fun id msg hrow => hkept id msg (hmsgs ▸ hrow)
          rcases hsecond : ids.forM deleteMsg s₂ with ⟨s₃, e' | u⟩
          · rw [Eff.bind_of_error hsecond] at h
            cases h
            obtain ⟨id, hid, htrashed⟩ :=
              forM_error (fun id hid => (hload id hid).imp fun _ hm => hm.2) hsecond
            obtain ⟨msg, hmsg, -⟩ := hload id hid
            exact .inr ⟨⟨hall, hone⟩, id, msg, hmsg, htrashed⟩
          · rw [Eff.bind_of_ok hsecond] at h
            cases h

end

/-- **A rejected call leaves the tables as they are IFF it is rejected before the second loop, and
there is nothing to write for the messages that it handled before.** -/
theorem rejected_unchanged_iff (env : Env) (deleteForAll : Bool) (ids : List MsgId) (s s' : State)
    (e : Err) (h : deleteMsgsEx env deleteForAll ids s = (s', .error e)) (he : e.isRejection) :
    SameTables s s' ↔ ¬ Accepted deleteForAll s.msgs ids ∧
      ∀ m ∈ written env 0 (checked deleteForAll s.msgs ids), Untouched s m.1 m.2 := by
  rcases rejected_cases h he with ⟨hnot, rfl⟩ | ⟨hacc, id, msg, hload, r, hr, htrash⟩
  · rw [and_iff_right hnot]
    exact writeAll_same_iff s _
  · refine iff_of_false (fun hsame => ?_) fun hboth => hboth.1 hacc
    -- the message was not in the trash before
    obtain ⟨hrow, hchat⟩ := loadFromDb_ok hload
    rw [hsame.2.2.2.2, hrow] at hr
    cases hr
    exact hchat htrash

/-! ## a call that is rejected too late -/

def ownMsg : Msg where
  rfc724Mid := "m@x.org"
  chatId := 12
  fromId := ContactId.self

def ownOnServer : State where
  msgs := (⟨fun _ => none, 9, fun _ _ => rfl⟩ : IdTable Msg).insert ownMsg
  imap := IdTable.empty.insert ⟨"m@x.org", "INBOX"⟩

def quiet : Env where
  transactionError _ := none
  sendMsg _ _ _ := ⟨[], [], .ok ()⟩
  shouldSendSyncMsgs := false

theorem rejected_unchanged_iff_first :
    SameTables ownOnServer (deleteMsgsEx quiet false [11, 10] ownOnServer).1 ↔
      ¬ Accepted false ownOnServer.msgs [11, 10] ∧
        ∀ m ∈ written quiet 0 (checked false ownOnServer.msgs [11, 10]),
          Untouched ownOnServer m.1 m.2 :=
  rejected_unchanged_iff quiet false [11, 10] ownOnServer _ (.missing 11) rfl rfl

/-- message 11 does not exist, and message 10 before it is already to be deleted on the server -/
theorem rejected_changes_imap :
    (deleteMsgsEx quiet false [10, 11] ownOnServer).2 = .error (.missing 11) ∧
      (deleteMsgsEx quiet false [10, 11] ownOnServer).1.imap.row 1 = some ⟨"m@x.org", ""⟩ ∧
      ownOnServer.imap.row 1 = some ⟨"m@x.org", "INBOX"⟩ :=
  ⟨rfl, rfl, rfl⟩

end EpsilonChat.DeleteMsgs
