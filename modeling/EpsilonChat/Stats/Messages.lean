import EpsilonChat.Base.ParamText
import EpsilonChat.Group.Settings
import EpsilonChat.Lib.Table

/-!
# The message counters of the statistics

`update_message_stats` adds, for each of three chat types, the messages that are newer than the mark
`last_counted_msg_id` to four counters of the row of `stats_msgs`.  The row is touched by THREE
statements:

    SELECT last_counted_msg_id …            a missing row counts as the mark 0
    UPDATE … SET last_counted_msg_id=MAX    changes nothing where there is no row
    INSERT … ON CONFLICT DO NOTHING         creates the row, with the mark 0

so the FIRST update of a chat type counts and leaves the mark at 0, and the second counts the same
messages again.

* `newer_perm`: the four queries split the newer messages that meet the requirements;
* `updateMessageStats_cases`: a call updates the three rows, or changes nothing (`nextRow_sum` and
  `nextRow_mark` say how a row changes);
* `sum_run`: the counters add up to the number of messages counted over a run;
* **`counted_once_iff`**: a message is counted once iff the row was there before it, or there is no
  second update after it.
-/

namespace EpsilonChat.Stats
open Lib Settings

structure MsgRow where
  id : MsgId
  fromId : ContactId
  chatId : ChatId
  hidden : Bool
  param : String
  deriving DecidableEq, Repr

structure MsgStats where
  verified : Nat := 0
  unverifiedEncrypted : Nat := 0
  unencrypted : Nat := 0
  onlyToSelf : Nat := 0
  lastCountedMsgId : MsgId := 0
  deriving DecidableEq, Repr

structure Db where
  msgs : List MsgRow
  chats : ChatId → Option Chattype
  /-- the verifier of a contact, 0 if it is not verified -/
  contacts : ContactId → Option ContactId
  chatsContacts : List (ChatId × ContactId)
  statsMsgs : Chattype → Option MsgStats

namespace Db

/-- `EXISTS(SELECT * FROM contacts, chats_contacts WHERE … AND contacts.id>9 AND …)` -/
def hasMember (db : Db) (chat : ChatId) (verifier : ContactId → Bool) : Bool :=
  db.chatsContacts.any fun row => row.1 == chat && decide (9 < row.2) &&
    ((db.contacts row.2).any verifier)

def emptyChats (db : Db) (id : ChatId) : Bool :=
  (db.chats id).isSome && decide (9 < id) && !db.hasMember id fun _ => true

def verifiedChats (db : Db) (id : ChatId) : Bool :=
  (db.chats id).isSome && decide (9 < id) && !db.emptyChats id &&
    !db.hasMember id fun verifier => verifier == 0

def chatWithCorrectType (db : Db) (chattype : Chattype) (id : ChatId) : Bool :=
  db.chats id == some chattype

def generalRequirements (db : Db) (statsBotChatId : ChatId) (chattype : Chattype)
    (lastCountedMsgId : MsgId) (m : MsgRow) : Bool :=
  decide (lastCountedMsgId < m.id) && m.fromId == ContactId.self && m.chatId != statsBotChatId &&
    !m.hidden && decide (9 < m.chatId) && db.chatWithCorrectType chattype m.chatId

/-- the rows of one of the queries: `SELECT … FROM msgs WHERE which AND {general_requirements}` -/
def newerWhere (db : Db) (statsBotChatId : ChatId) (chattype : Chattype)
    (lastCountedMsgId : MsgId) (which : MsgRow → Bool) : List MsgRow :=
  db.msgs.filter fun m =>
    which m && db.generalRequirements statsBotChatId chattype lastCountedMsgId m

def inVerified (db : Db) (m : MsgRow) : Bool := db.verifiedChats m.chatId

def inUnverifiedEncrypted (db : Db) (m : MsgRow) : Bool :=
  !db.verifiedChats m.chatId && !db.emptyChats m.chatId && Params.matchesEncrypted m.param

def inUnencrypted (db : Db) (m : MsgRow) : Bool :=
  !db.verifiedChats m.chatId && !db.emptyChats m.chatId && !Params.matchesEncrypted m.param

def inOnlyToSelf (db : Db) (m : MsgRow) : Bool := db.emptyChats m.chatId

/-! ## one chat type -/

def lastCountedMsgId (db : Db) (chattype : Chattype) : MsgId :=
  ((db.statsMsgs chattype).map MsgStats.lastCountedMsgId).getD 0

/-- `(SELECT MAX(id) FROM msgs)`, NULL for the empty table -/
def maxId (db : Db) : Option MsgId := (db.msgs.map MsgRow.id).max?

/-- `UPDATE stats_msgs SET last_counted_msg_id=(SELECT MAX(id) FROM msgs) WHERE chattype=?`; a row
that would get NULL makes the statement fail -/
def advanceMark (chattype : Chattype) (db : Db) : Option Db :=
  match db.statsMsgs chattype with
  | none => some db
  | some _ => db.maxId.map fun id =>
      { db with statsMsgs := updateRow db.statsMsgs chattype fun r =>
          { r with lastCountedMsgId := id } }

end Db

def MsgStats.add (r : MsgStats) (verified unverifiedEncrypted unencrypted onlyToSelf : Nat) :
    MsgStats :=
  { r with
    verified := r.verified + verified
    unverifiedEncrypted := r.unverifiedEncrypted + unverifiedEncrypted
    unencrypted := r.unencrypted + unencrypted
    onlyToSelf := r.onlyToSelf + onlyToSelf }

/-- the transaction for one chat type; `none` is an error, which rolls it back -/
def updateMessageStatsInner (statsBotChatId : ChatId) (chattype : Chattype) (db : Db) :
    Option Db :=
  let lastCountedMsgId := db.lastCountedMsgId chattype
  (db.advanceMark chattype).map fun db =>
    let newer := db.newerWhere statsBotChatId chattype lastCountedMsgId
    let verified := (newer db.inVerified).length
    let unverifiedEncrypted := (newer db.inUnverifiedEncrypted).length
    let unencrypted := (newer db.inUnencrypted).length
    let onlyToSelf := (newer db.inOnlyToSelf).length
    -- `ON CONFLICT(chattype) DO NOTHING`
    let rows := upsert db.statsMsgs chattype {} fun _ => none
    let rows := updateRow rows chattype
      (·.add verified unverifiedEncrypted unencrypted onlyToSelf)
    { db with statsMsgs := rows }

def statsChattypes : List Chattype := [.single, .group, .outBroadcast]

/-- the loop of `update_message_stats`: the transactions committed before an error stay -/
def updateFor (statsBotChatId : ChatId) : List Chattype → Db → Db × Bool
  | [], db => (db, true)
  | chattype :: rest, db =>
    match updateMessageStatsInner statsBotChatId chattype db with
    | none => (db, false)
    | some db => updateFor statsBotChatId rest db

def updateMessageStats (statsBotChatId : ChatId) (db : Db) : Db × Bool :=
  updateFor statsBotChatId statsChattypes db

/-! ## runs -/

inductive Op where
  | insert (m : MsgRow)
  /-- any change of `contacts`, the verifiers among them -/
  | setContacts (contacts : ContactId → Option ContactId)
  | setChatsContacts (rows : List (ChatId × ContactId))
  | updateMessageStats

def step (statsBotChatId : ChatId) (db : Db) : Op → Db
  | .insert m => { db with msgs := db.msgs ++ [m] }
  | .setContacts contacts => { db with contacts := contacts }
  | .setChatsContacts rows => { db with chatsContacts := rows }
  | .updateMessageStats => (updateMessageStats statsBotChatId db).1

def run (statsBotChatId : ChatId) (db : Db) (ops : List Op) : Db :=
  ops.foldl (step statsBotChatId) db

def Op.Fresh (db : Db) : Op → Prop
  | insert m => ∀ x ∈ db.msgs, x.id < m.id
  | _ => True

def Increasing (statsBotChatId : ChatId) : Db → List Op → Prop
  | _, [] => True
  | db, op :: ops => op.Fresh db ∧ Increasing statsBotChatId (step statsBotChatId db op) ops

/-- the ids of the rows that an update counts for a chat type: one for each time a row is in the
result of one of the four queries -/
def Db.counted (statsBotChatId : ChatId) (chattype : Chattype) (db : Db) : List MsgId :=
  let newer := db.newerWhere statsBotChatId chattype (db.lastCountedMsgId chattype)
  (newer db.inVerified ++ newer db.inUnverifiedEncrypted ++ newer db.inUnencrypted ++
    newer db.inOnlyToSelf).map MsgRow.id

/-- the ids that all the updates of a run count for a chat type -/
def counted (statsBotChatId : ChatId) (chattype : Chattype) : Db → List Op → List MsgId
  | _, [] => []
  | db, op :: ops =>
    (match op with
      | .updateMessageStats => db.counted statsBotChatId chattype
      | _ => []) ++ counted statsBotChatId chattype (step statsBotChatId db op) ops

/-- `verified + unverified_encrypted + unencrypted + only_to_self`, of a missing row 0 -/
def MsgStats.sum (r : MsgStats) : Nat :=
  r.verified + r.unverifiedEncrypted + r.unencrypted + r.onlyToSelf

def Db.sum (db : Db) (chattype : Chattype) : Nat := ((db.statsMsgs chattype).map MsgStats.sum).getD 0

/-! ## the four queries split the newer messages -/

section
variable {statsBotChatId : ChatId} {chattype : Chattype} {db : Db}
variable {m : MsgRow}

theorem verifiedChats_not_empty {id : ChatId} (h : db.verifiedChats id = true) :
    db.emptyChats id = false := by
  simp only [Db.verifiedChats, Bool.and_eq_true, Bool.not_eq_true'] at h
  exact h.1.2

theorem count_filter_ite {α : Type} [DecidableEq α] (p : α → Bool) (a : α) (l : List α) :
    (l.filter p).count a = if p a then l.count a else 0 := by
  by_cases h : p a
  · rw [if_pos h, List.count_filter h]
  · rw [if_neg h, List.count_eq_zero]
    exact fun hmem => h (List.mem_filter.mp hmem).2

theorem newer_perm (last : MsgId) :
    (db.newerWhere statsBotChatId chattype last db.inVerified ++
      db.newerWhere statsBotChatId chattype last db.inUnverifiedEncrypted ++
      db.newerWhere statsBotChatId chattype last db.inUnencrypted ++
      db.newerWhere statsBotChatId chattype last db.inOnlyToSelf).Perm
    (db.msgs.filter (db.generalRequirements statsBotChatId chattype last)) := by
  rw [List.perm_iff_count]
  intro m
  simp only [List.count_append, Db.newerWhere, count_filter_ite, Db.inVerified,
    Db.inUnverifiedEncrypted, Db.inUnencrypted, Db.inOnlyToSelf]
  cases hv : db.verifiedChats m.chatId with
  | true => simp [verifiedChats_not_empty hv]
  | false => cases db.emptyChats m.chatId <;> cases Params.matchesEncrypted m.param <;> simp

theorem counted_perm :
    (db.counted statsBotChatId chattype).Perm
      ((db.msgs.filter (db.generalRequirements statsBotChatId chattype
        (db.lastCountedMsgId chattype))).map MsgRow.id) :=
  (newer_perm _).map _

/-! ## what an update does to a row -/

def Db.nextRow (statsBotChatId : ChatId) (chattype : Chattype) (db : Db) : MsgStats :=
  let newer := db.newerWhere statsBotChatId chattype (db.lastCountedMsgId chattype)
  let row : MsgStats := match db.statsMsgs chattype with
    | none => {}
    | some r => { r with lastCountedMsgId := db.maxId.getD 0 }
  row.add (newer db.inVerified).length (newer db.inUnverifiedEncrypted).length
    (newer db.inUnencrypted).length (newer db.inOnlyToSelf).length

theorem nextRow_sum :
    (db.nextRow statsBotChatId chattype).sum
      = db.sum chattype + (db.counted statsBotChatId chattype).length := by
  simp only [Db.nextRow, Db.sum, Db.counted, MsgStats.add, MsgStats.sum, List.length_map,
    List.length_append]
  cases db.statsMsgs chattype with
  | none => simp
  | some r =>
    simp only [Option.map_some, Option.getD_some, MsgStats.sum]
    omega

theorem nextRow_mark :
    (db.nextRow statsBotChatId chattype).lastCountedMsgId
      = match db.statsMsgs chattype with
        | none => 0
        | some _ => db.maxId.getD 0 := by
  simp only [Db.nextRow, MsgStats.add]
  cases db.statsMsgs chattype <;> rfl

theorem maxId_of_ne_nil (h : db.msgs ≠ []) : ∃ id, db.maxId = some id := by
  refine Option.ne_none_iff_exists'.mp fun hnone => h ?_
  simpa [Db.maxId] using hnone

theorem le_maxId (hm : m ∈ db.msgs) : m.id ≤ db.maxId.getD 0 := by
  obtain ⟨id, hid⟩ := maxId_of_ne_nil (List.ne_nil_of_mem hm)
  rw [hid]
  exact (List.max?_eq_some_iff.mp hid).2 _ (List.mem_map_of_mem hm)

def Db.withRow (db : Db) (chattype : Chattype) (r : MsgStats) : Db :=
  { db with statsMsgs := Function.update db.statsMsgs chattype (some r) }

theorem nextRow_withRow {c : Chattype} (h : c ≠ chattype) (r : MsgStats) :
    (db.withRow chattype r).nextRow statsBotChatId c = db.nextRow statsBotChatId c := by
  have hrow : (db.withRow chattype r).statsMsgs c = db.statsMsgs c := Function.update_of_ne h _ _
  simp only [Db.nextRow, Db.lastCountedMsgId, hrow]
  rfl

theorem updateMessageStatsInner_eq (hok : db.msgs = [] → db.statsMsgs chattype = none) :
    updateMessageStatsInner statsBotChatId chattype db
      = some (db.withRow chattype (db.nextRow statsBotChatId chattype)) := by
  cases hrow : db.statsMsgs chattype with
  | none =>
    simp only [updateMessageStatsInner, Db.advanceMark, hrow, Option.map_some, Db.withRow,
      Db.nextRow]
    congr 2
    funext c
    by_cases hc : c = chattype
    · subst hc
      rw [updateRow_self, upsert_of_none _ _ hrow, Function.update_self]
      rfl
    · rw [updateRow_of_ne _ hc, upsert_of_ne _ _ hc, Function.update_of_ne hc]
  | some r =>
    have hne : db.msgs ≠ [] := fun h => by rw [hok h] at hrow; cases hrow
    obtain ⟨id, hid⟩ := maxId_of_ne_nil hne
    simp only [updateMessageStatsInner, Db.advanceMark, hrow, hid, Option.map_some, Db.withRow,
      Db.nextRow]
    congr 2
    funext c
    by_cases hc : c = chattype
    · subst hc
      have hmark : updateRow db.statsMsgs c (fun r => { r with lastCountedMsgId := id }) c
          = some { r with lastCountedMsgId := id } := by rw [updateRow_self, hrow]; rfl
      rw [updateRow_self, upsert_of_some _ _ hmark, Function.update_self]
      rfl
    · rw [updateRow_of_ne _ hc, upsert_of_ne _ _ hc, updateRow_of_ne _ hc,
        Function.update_of_ne hc]

theorem updateMessageStatsInner_none (hnil : db.msgs = []) (hrow : db.statsMsgs chattype ≠ none) :
    updateMessageStatsInner statsBotChatId chattype db = none := by
  obtain ⟨r, hr⟩ := Option.ne_none_iff_exists'.mp hrow
  simp [updateMessageStatsInner, Db.advanceMark, hr, Db.maxId, hnil]

def Db.updatedFor (statsBotChatId : ChatId) (db : Db) (chattypes : List Chattype) : Db :=
  { db with statsMsgs := fun c =>
      if c ∈ chattypes then some (db.nextRow statsBotChatId c) else db.statsMsgs c }

theorem updateFor_eq (chattypes : List Chattype) (hnodup : chattypes.Nodup) :
    ∀ db : Db, (db.msgs = [] → ∀ c ∈ chattypes, db.statsMsgs c = none) →
      updateFor statsBotChatId chattypes db
        = (db.updatedFor statsBotChatId chattypes, true) := by
  induction chattypes with
  | nil => intro db _; simp [updateFor, Db.updatedFor]
  | cons c cs ih =>
    intro db hok
    obtain ⟨hc, hnodup'⟩ := List.nodup_cons.mp hnodup
    have hne : ∀ c' ∈ cs, c' ≠ c := fun c' hmem e => hc (e ▸ hmem)
    have hrest : ∀ c' ∈ cs, (db.withRow c (db.nextRow statsBotChatId c)).statsMsgs c'
        = db.statsMsgs c' := fun c' hmem => Function.update_of_ne (hne c' hmem) _ _
    rw [updateFor, updateMessageStatsInner_eq fun h => hok h c List.mem_cons_self]
    show updateFor statsBotChatId cs (db.withRow c (db.nextRow statsBotChatId c)) = _
    rw [ih hnodup' _ fun h c' hmem =>
      (hrest c' hmem).trans (hok h c' (List.mem_cons_of_mem _ hmem))]
    congr 1
    simp only [Db.updatedFor, Db.withRow, Db.mk.injEq, true_and]
    funext c'
    by_cases hmem : c' ∈ cs
    · rw [if_pos hmem, if_pos (List.mem_cons_of_mem _ hmem)]
      exact congrArg some (nextRow_withRow (hne c' hmem) _)
    · by_cases e : c' = c
      · subst e
        simp [hc]
      · simp [hmem, e]

theorem statsChattypes_nodup : statsChattypes.Nodup := by decide

def Db.Uniform (db : Db) : Prop :=
  (∀ c ∈ statsChattypes, db.statsMsgs c = none) ∨ ∀ c ∈ statsChattypes, db.statsMsgs c ≠ none

theorem updateMessageStats_cases (statsBotChatId : ChatId) (hu : db.Uniform) :
    ((db.msgs = [] → ∀ c ∈ statsChattypes, db.statsMsgs c = none) ∧
      updateMessageStats statsBotChatId db
        = (db.updatedFor statsBotChatId statsChattypes, true)) ∨
    (db.msgs = [] ∧ (∀ c ∈ statsChattypes, db.statsMsgs c ≠ none) ∧
      updateMessageStats statsBotChatId db = (db, false)) := by
  by_cases hnil : db.msgs = []
  · rcases hu with hnone | hsome
    · exact .inl ⟨fun _ => hnone, updateFor_eq _ statsChattypes_nodup db fun _ => hnone⟩
    · refine .inr ⟨hnil, hsome, ?_⟩
      rw [updateMessageStats, statsChattypes, updateFor,
        updateMessageStatsInner_none hnil (hsome _ List.mem_cons_self)]
  · have hok : db.msgs = [] → ∀ c ∈ statsChattypes, db.statsMsgs c = none :=
      fun h => absurd h hnil
    exact .inl ⟨hok, updateFor_eq _ statsChattypes_nodup db hok⟩

theorem updatedFor_row (hc : chattype ∈ statsChattypes) :
    (db.updatedFor statsBotChatId statsChattypes).statsMsgs chattype
      = some (db.nextRow statsBotChatId chattype) := if_pos hc

/-! ## one step -/

theorem counted_of_nil (hnil : db.msgs = []) : db.counted statsBotChatId chattype = [] := by
  simp [Db.counted, Db.newerWhere, hnil]

theorem counted_cons (op : Op) (ops : List Op) :
    counted statsBotChatId chattype db (op :: ops)
      = counted statsBotChatId chattype db [op] ++
        counted statsBotChatId chattype (step statsBotChatId db op) ops := by
  simp only [counted, List.append_nil]

theorem counted_no_update (ops : List Op) (hno : Op.updateMessageStats ∉ ops) : ∀ db : Db,
    counted statsBotChatId chattype db ops = [] := by
  induction ops with
  | nil => intro db; rfl
  | cons op ops ih =>
    intro db
    rw [counted_cons, ih fun h => hno (List.mem_cons_of_mem _ h)]
    cases op with
    | updateMessageStats => exact absurd List.mem_cons_self hno
    | _ => rfl

def Op.inserted : Op → List MsgRow
  | insert m => [m]
  | _ => []

/-- WHAT A STEP CAN DO: leave `stats_msgs` and the chats, update the three rows, or nothing at all -/
theorem step_cases (statsBotChatId : ChatId) (op : Op) (hu : db.Uniform) :
    (op ≠ .updateMessageStats ∧ ∃ contacts rows, step statsBotChatId db op =
      { db with msgs := db.msgs ++ op.inserted, contacts := contacts, chatsContacts := rows }) ∨
    (op = .updateMessageStats ∧
      step statsBotChatId db op = db.updatedFor statsBotChatId statsChattypes) ∨
    (op = .updateMessageStats ∧ db.msgs = [] ∧ (∀ c ∈ statsChattypes, db.statsMsgs c ≠ none) ∧
      step statsBotChatId db op = db) := by
  cases op with
  | insert m => exact .inl ⟨nofun, _, _, rfl⟩
  | setContacts contacts =>
    refine .inl ⟨nofun, contacts, db.chatsContacts, ?_⟩
    show _ = { db with msgs := db.msgs ++ [], contacts := contacts }
    rw [List.append_nil]
    rfl
  | setChatsContacts rows =>
    refine .inl ⟨nofun, db.contacts, rows, ?_⟩
    show _ = { db with msgs := db.msgs ++ [], chatsContacts := rows }
    rw [List.append_nil]
    rfl
  | updateMessageStats =>
    rcases updateMessageStats_cases statsBotChatId hu with ⟨-, h⟩ | ⟨hnil, hsome, h⟩
    · exact .inr (.inl ⟨rfl, congrArg Prod.fst h⟩)
    · exact .inr (.inr ⟨rfl, hnil, hsome, congrArg Prod.fst h⟩)

theorem step_uniform (statsBotChatId : ChatId) (op : Op) (hu : db.Uniform) :
    (step statsBotChatId db op).Uniform := by
  rcases step_cases statsBotChatId op hu with ⟨-, contacts, rows, h⟩ | ⟨-, h⟩ | ⟨-, -, -, h⟩
  · rw [h]
    exact hu
  · rw [h]
    exact .inr fun c hc => by rw [updatedFor_row hc]; exact Option.some_ne_none _
  · rw [h]
    exact hu

theorem step_sum (op : Op) (hu : db.Uniform) (hc : chattype ∈ statsChattypes) :
    (step statsBotChatId db op).sum chattype
      = db.sum chattype + (counted statsBotChatId chattype db [op]).length := by
  rcases step_cases statsBotChatId op hu with ⟨hop, contacts, rows, h⟩ | ⟨rfl, h⟩ | ⟨rfl, hnil, -, h⟩
  · rw [h, counted_no_update [op] fun hmem => hop (List.mem_singleton.mp hmem).symm]
    rfl
  · rw [h, Db.sum, updatedFor_row hc, counted, counted, List.append_nil]
    exact nextRow_sum
  · rw [h, counted, counted, List.append_nil, counted_of_nil hnil]
    rfl

theorem step_chats (op : Op) (hu : db.Uniform) : (step statsBotChatId db op).chats = db.chats := by
  rcases step_cases statsBotChatId op hu with ⟨-, contacts, rows, h⟩ | ⟨-, h⟩ | ⟨-, -, -, h⟩ <;>
    rw [h]
  rfl

theorem step_msgs (statsBotChatId : ChatId) (op : Op) (hu : db.Uniform) :
    (step statsBotChatId db op).msgs = db.msgs ++ op.inserted := by
  rcases step_cases statsBotChatId op hu with ⟨-, contacts, rows, h⟩ | ⟨rfl, h⟩ | ⟨rfl, -, -, h⟩
  · rw [h]
  · rw [h]
    exact (List.append_nil _).symm
  · rw [h]
    exact (List.append_nil _).symm

theorem step_statsMsgs {op : Op} (hop : op ≠ .updateMessageStats) :
    (step statsBotChatId db op).statsMsgs = db.statsMsgs := by
  cases op with
  | updateMessageStats => exact absurd rfl hop
  | _ => rfl

def Db.Past (db : Db) (chattype : Chattype) (m : MsgRow) : Prop :=
  m ∈ db.msgs ∧ ∃ r, db.statsMsgs chattype = some r ∧ m.id ≤ r.lastCountedMsgId

theorem past_of_update (statsBotChatId : ChatId) (hu : db.Uniform)
    (hc : chattype ∈ statsChattypes) (hm : m ∈ db.msgs) (hrow : db.statsMsgs chattype ≠ none) :
    (step statsBotChatId db .updateMessageStats).Past chattype m := by
  obtain ⟨r, hr⟩ := Option.ne_none_iff_exists'.mp hrow
  rcases step_cases statsBotChatId .updateMessageStats hu with
    ⟨hop, -⟩ | ⟨-, h⟩ | ⟨-, hnil, -⟩
  · exact absurd rfl hop
  · rw [h]
    refine ⟨hm, _, updatedFor_row hc, ?_⟩
    rw [nextRow_mark, hr]
    exact le_maxId hm
  · exact absurd hnil (List.ne_nil_of_mem hm)

theorem step_past (op : Op) (hu : db.Uniform) (hc : chattype ∈ statsChattypes)
    (hpast : db.Past chattype m) : (step statsBotChatId db op).Past chattype m := by
  obtain ⟨hm, r, hr, hle⟩ := hpast
  by_cases hop : op = .updateMessageStats
  · subst hop
    exact past_of_update _ hu hc hm (hr ▸ Option.some_ne_none r)
  · refine ⟨?_, r, (congrFun (step_statsMsgs hop) _).trans hr, hle⟩
    rw [step_msgs _ op hu]
    exact List.mem_append_left _ hm

theorem not_mem_counted (hpast : db.Past chattype m) :
    m.id ∉ db.counted statsBotChatId chattype := by
  obtain ⟨-, r, hr, hle⟩ := hpast
  intro hmem
  obtain ⟨y, hy, he⟩ := List.mem_map.mp (counted_perm.mem_iff.mp hmem)
  have hreq := (List.mem_filter.mp hy).2
  have hlt : r.lastCountedMsgId < y.id := by
    simp only [Db.generalRequirements, Db.lastCountedMsgId, hr, Bool.and_eq_true,
      decide_eq_true_eq] at hreq
    exact hreq.1.1.1.1.1
  exact Nat.not_lt.mpr hle (he ▸ hlt)

theorem count_counted (hm : m ∈ db.msgs) (huniq : (db.msgs.map MsgRow.id).count m.id = 1) :
    (db.counted statsBotChatId chattype).count m.id
      = if db.generalRequirements statsBotChatId chattype (db.lastCountedMsgId chattype) m
        then 1 else 0 := by
  rw [counted_perm.count_eq]
  obtain ⟨before, after, heq⟩ := List.append_of_mem hm
  rw [heq] at huniq ⊢
  have hothers : (before.map MsgRow.id).count m.id = 0 ∧ (after.map MsgRow.id).count m.id = 0 := by
    simp only [List.map_append, List.map_cons, List.count_append, List.count_cons_self] at huniq
    omega
  have hnone : ∀ l : List MsgRow, (l.map MsgRow.id).count m.id = 0 → ∀ p : MsgRow → Bool,
      ((l.filter p).map MsgRow.id).count m.id = 0 := fun l hl p =>
    Nat.le_zero.mp (hl ▸ (List.filter_sublist.map MsgRow.id).count_le m.id)
  rw [List.filter_append, List.map_append, List.count_append, hnone before hothers.1,
    List.filter_cons]
  split
  · rw [List.map_cons, List.count_cons_self, hnone after hothers.2]
  · rw [hnone after hothers.2]

/-! ## runs -/

theorem run_append (ops ops' : List Op) :
    run statsBotChatId db (ops ++ ops') = run statsBotChatId (run statsBotChatId db ops) ops' :=
  List.foldl_append

theorem counted_append (ops ops' : List Op) : ∀ db : Db,
    counted statsBotChatId chattype db (ops ++ ops')
      = counted statsBotChatId chattype db ops ++
        counted statsBotChatId chattype (run statsBotChatId db ops) ops' := by
  induction ops with
  | nil => intro db; rfl
  | cons op ops ih =>
    intro db
    rw [List.cons_append, counted_cons, ih, counted_cons op ops, List.append_assoc]
    rfl

theorem run_uniform (statsBotChatId : ChatId) (ops : List Op) (hu : db.Uniform) :
    (run statsBotChatId db ops).Uniform :=
  List.foldlRecOn ops _ hu fun _ h op _ => step_uniform _ op h

theorem run_chats (ops : List Op) (hu : db.Uniform) :
    (run statsBotChatId db ops).chats = db.chats :=
  (List.foldlRecOn ops _ (motive := fun s : Db => s.Uniform ∧ s.chats = db.chats) ⟨hu, rfl⟩
    fun _ h op _ => ⟨step_uniform _ op h.1, (step_chats op h.1).trans h.2⟩).2

theorem run_mem (ops : List Op) (hu : db.Uniform) (hm : m ∈ db.msgs) :
    m ∈ (run statsBotChatId db ops).msgs := by
  refine (List.foldlRecOn ops _ (motive := fun s : Db => s.Uniform ∧ m ∈ s.msgs) ⟨hu, hm⟩ ?_).2
  intro s h op _
  refine ⟨step_uniform _ op h.1, ?_⟩
  rw [step_msgs _ op h.1]
  exact List.mem_append_left _ h.2

theorem run_statsMsgs (ops : List Op) (hno : Op.updateMessageStats ∉ ops) :
    (run statsBotChatId db ops).statsMsgs = db.statsMsgs := by
  refine List.foldlRecOn ops _ (motive := fun s : Db => s.statsMsgs = db.statsMsgs) rfl ?_
  intro s h op hop
  rw [step_statsMsgs fun e => hno (e ▸ hop), h]

theorem sum_run (hc : chattype ∈ statsChattypes) (ops : List Op) : ∀ db : Db, db.Uniform →
    (run statsBotChatId db ops).sum chattype
      = db.sum chattype + (counted statsBotChatId chattype db ops).length := by
  induction ops with
  | nil => intro db _; rfl
  | cons op ops ih =>
    intro db hu
    rw [counted_cons, List.length_append, ← Nat.add_assoc, ← step_sum op hu hc,
      ← ih _ (step_uniform _ op hu)]
    rfl

theorem mem_msgs_of_counted {id : MsgId} (h : id ∈ db.counted statsBotChatId chattype) :
    ∃ m ∈ db.msgs, m.id = id := by
  obtain ⟨m, hm, he⟩ := List.mem_map.mp (counted_perm.mem_iff.mp h)
  exact ⟨m, (List.mem_filter.mp hm).1, he⟩

theorem mem_msgs_of_counted_run {id : MsgId} (ops : List Op) : ∀ db : Db, db.Uniform →
    id ∈ counted statsBotChatId chattype db ops →
      ∃ m ∈ (run statsBotChatId db ops).msgs, m.id = id := by
  induction ops with
  | nil => intro db _ h; cases h
  | cons op ops ih =>
    intro db hu h
    rw [counted_cons, List.mem_append] at h
    rcases h with h | h
    · have hnow : id ∈ db.counted statsBotChatId chattype := by
        cases op with
        | updateMessageStats => simpa [counted] using h
        | _ => cases h
      obtain ⟨m, hm, he⟩ := mem_msgs_of_counted hnow
      exact ⟨m, run_mem (op :: ops) hu hm, he⟩
    · exact ih _ (step_uniform _ op hu) h

theorem not_mem_counted_run (statsBotChatId : ChatId) (hc : chattype ∈ statsChattypes)
    (ops : List Op) : ∀ db : Db, db.Uniform → db.Past chattype m →
      m.id ∉ counted statsBotChatId chattype db ops := by
  induction ops with
  | nil => intro db _ _ h; cases h
  | cons op ops ih =>
    intro db hu hpast h
    rw [counted_cons, List.mem_append] at h
    rcases h with h | h
    · cases op with
      | updateMessageStats =>
        exact not_mem_counted hpast (by simpa [counted] using h)
      | _ => cases h
    · exact ih _ (step_uniform _ op hu) (step_past op hu hc hpast) h

theorem increasing_append (ops ops' : List Op) : ∀ db : Db,
    Increasing statsBotChatId db (ops ++ ops') →
      Increasing statsBotChatId (run statsBotChatId db ops) ops' := by
  induction ops with
  | nil => intro db h; exact h
  | cons op ops ih => intro db h; exact ih _ h.2

theorem increasing_append_left (ops ops' : List Op) : ∀ db : Db,
    Increasing statsBotChatId db (ops ++ ops') → Increasing statsBotChatId db ops := by
  induction ops with
  | nil => intro db _; trivial
  | cons op ops ih => intro db h; exact ⟨h.1, ih _ h.2⟩

theorem run_count_id (ops : List Op) : ∀ db : Db, db.Uniform → m ∈ db.msgs →
    Increasing statsBotChatId db ops →
      ((run statsBotChatId db ops).msgs.map MsgRow.id).count m.id
        = (db.msgs.map MsgRow.id).count m.id := by
  induction ops with
  | nil => intro db _ _ _; rfl
  | cons op ops ih =>
    intro db hu hm hinc
    have hmsgs := step_msgs statsBotChatId op hu
    have hm' : m ∈ (step statsBotChatId db op).msgs := hmsgs ▸ List.mem_append_left _ hm
    have hnew : (op.inserted.map MsgRow.id).count m.id = 0 := by
      cases op with
      | insert x =>
        have hlt : m.id < x.id := hinc.1 m hm
        exact List.count_eq_zero.mpr fun h => hlt.ne (List.mem_singleton.mp h)
      | _ => rfl
    refine (ih _ (step_uniform _ op hu) hm' hinc.2).trans ?_
    rw [hmsgs, List.map_append, List.count_append, hnew, Nat.add_zero]

/-! ## a message in a run -/

theorem mem_counted_of_requirements (hm : m ∈ db.msgs)
    (hreq : db.generalRequirements statsBotChatId chattype (db.lastCountedMsgId chattype) m) :
    m.id ∈ db.counted statsBotChatId chattype :=
  counted_perm.mem_iff.mpr (List.mem_map_of_mem (List.mem_filter.mpr ⟨hm, hreq⟩))

theorem update_mark_of_none (hu : db.Uniform) (hc : chattype ∈ statsChattypes)
    (hrow : db.statsMsgs chattype = none) :
    (step statsBotChatId db .updateMessageStats).lastCountedMsgId chattype = 0 := by
  rcases step_cases statsBotChatId .updateMessageStats hu with
    ⟨hop, -⟩ | ⟨-, h⟩ | ⟨-, -, hsome, -⟩
  · exact absurd rfl hop
  · rw [h, Db.lastCountedMsgId, updatedFor_row hc, Option.map_some, nextRow_mark, hrow]
    rfl
  · exact absurd hrow (hsome chattype hc)

theorem update_row (hu : db.Uniform) (hc : chattype ∈ statsChattypes) :
    (step statsBotChatId db .updateMessageStats).statsMsgs chattype ≠ none := by
  rcases step_cases statsBotChatId .updateMessageStats hu with
    ⟨hop, -⟩ | ⟨-, h⟩ | ⟨-, -, hsome, h⟩
  · exact absurd rfl hop
  · rw [h, updatedFor_row hc]
    exact Option.some_ne_none _
  · rw [h]
    exact hsome chattype hc

theorem run_row {ops : List Op} (hmem : Op.updateMessageStats ∈ ops) (hu : db.Uniform)
    (hc : chattype ∈ statsChattypes) : (run statsBotChatId db ops).statsMsgs chattype ≠ none := by
  obtain ⟨before, after, rfl⟩ := List.append_of_mem hmem
  rw [run_append]
  have hu' := run_uniform statsBotChatId before hu
  refine (List.foldlRecOn after _
    (motive := fun s : Db => s.Uniform ∧ s.statsMsgs chattype ≠ none)
    ⟨step_uniform _ .updateMessageStats hu', update_row hu' hc⟩ ?_).2
  intro s h op _
  refine ⟨step_uniform _ op h.1, ?_⟩
  by_cases hop : op = .updateMessageStats
  · subst hop
    exact update_row h.1 hc
  · rw [step_statsMsgs hop]
    exact h.2

theorem mem_counted_again (hu : db.Uniform) (hc : chattype ∈ statsChattypes) (hm : m ∈ db.msgs)
    (hrow : db.statsMsgs chattype = none)
    (hreq : db.generalRequirements statsBotChatId chattype (db.lastCountedMsgId chattype) m)
    {post : List Op} (hpost : Op.updateMessageStats ∈ post) :
    m.id ∈ counted statsBotChatId chattype (step statsBotChatId db .updateMessageStats) post := by
  -- the operations up to the next update
  obtain ⟨between, rest, rfl, hno⟩ := List.eq_append_cons_of_mem hpost
  have hu' := step_uniform statsBotChatId .updateMessageStats hu
  rw [counted_append, counted_cons]
  refine List.mem_append_right _ (List.mem_append_left _ ?_)
  rw [counted, counted, List.append_nil]
  apply mem_counted_of_requirements
  · exact run_mem between hu' (run_mem [.updateMessageStats] hu hm)
  · -- neither the mark nor the chats have changed
    have hmark : (run statsBotChatId (step statsBotChatId db .updateMessageStats)
        between).lastCountedMsgId chattype = db.lastCountedMsgId chattype := by
      rw [Db.lastCountedMsgId, run_statsMsgs between hno]
      refine (update_mark_of_none hu hc hrow).trans ?_
      rw [Db.lastCountedMsgId, hrow]
      rfl
    have hchats : (run statsBotChatId (step statsBotChatId db .updateMessageStats)
        between).chats = db.chats := (run_chats between hu').trans (step_chats _ hu)
    rw [hmark]
    simp only [Db.generalRequirements, Db.chatWithCorrectType, hchats]
    exact hreq

theorem inserted_unique {pre mid : List Op} (hu : db.Uniform)
    (hinc : Increasing statsBotChatId db (pre ++ .insert m :: mid)) :
    m ∈ (run statsBotChatId db (pre ++ .insert m :: mid)).msgs ∧
    ((run statsBotChatId db (pre ++ .insert m :: mid)).msgs.map MsgRow.id).count m.id = 1 := by
  have hu' := run_uniform statsBotChatId pre hu
  obtain ⟨hfresh, hinc'⟩ := increasing_append pre _ db hinc
  have hm : m ∈ (step statsBotChatId (run statsBotChatId db pre) (.insert m)).msgs :=
    List.mem_append_right _ List.mem_cons_self
  rw [run_append]
  refine ⟨run_mem mid (step_uniform _ (.insert m) hu') hm, ?_⟩
  refine (run_count_id mid _ (step_uniform _ (.insert m) hu') hm hinc').trans ?_
  have hold : ((run statsBotChatId db pre).msgs.map MsgRow.id).count m.id = 0 := by
    refine List.count_eq_zero.mpr fun h => ?_
    obtain ⟨x, hx, he⟩ := List.mem_map.mp h
    exact (hfresh x hx).ne he
  show (((run statsBotChatId db pre).msgs ++ [m]).map MsgRow.id).count m.id = 1
  rw [List.map_append, List.count_append, hold]
  simp

theorem not_counted_before {pre mid : List Op} (hu : db.Uniform)
    (hinc : Increasing statsBotChatId db (pre ++ .insert m :: mid))
    (hmid : Op.updateMessageStats ∉ mid) :
    (counted statsBotChatId chattype db (pre ++ .insert m :: mid)).count m.id = 0 := by
  rw [counted_append, counted_cons, counted_no_update mid hmid]
  refine List.count_eq_zero.mpr fun h => ?_
  rw [List.append_nil, List.mem_append] at h
  rcases h with h | h
  · obtain ⟨x, hx, he⟩ := mem_msgs_of_counted_run pre db hu h
    exact ((increasing_append pre _ db hinc).1 x hx).ne he
  · cases h

end

/-- **A MESSAGE IS COUNTED ONCE** over all updates iff `stats_msgs` had its row before the message
came, or there is only one update after it -/
theorem counted_once_iff (statsBotChatId : ChatId) (db : Db) (hempty : ∀ c, db.statsMsgs c = none)
    (pre mid post ops : List Op) (m : MsgRow)
    (hops : ops = pre ++ .insert m :: mid ++ .updateMessageStats :: post)
    (hinc : Increasing statsBotChatId db ops) (hmid : Op.updateMessageStats ∉ mid)
    (chattype : Chattype) (hc : chattype ∈ statsChattypes)
    (hreq : (run statsBotChatId db (pre ++ .insert m :: mid)).generalRequirements statsBotChatId
      chattype ((run statsBotChatId db (pre ++ .insert m :: mid)).lastCountedMsgId chattype) m) :
    (run statsBotChatId db ops).sum chattype
      = (counted statsBotChatId chattype db ops).length ∧
    ((counted statsBotChatId chattype db ops).count m.id = 1 ↔
      Op.updateMessageStats ∈ pre ∨ Op.updateMessageStats ∉ post) := by
  have hu : db.Uniform := .inl fun c _ => hempty c
  constructor
  · rw [sum_run hc ops db hu, Db.sum, hempty]
    exact Nat.zero_add _
  subst hops
  have hinc' := increasing_append_left _ _ db hinc
  have hu' := run_uniform statsBotChatId (pre ++ .insert m :: mid) hu
  obtain ⟨hm, huniq⟩ := inserted_unique hu hinc'
  rw [counted_append, counted_cons, List.count_append, List.count_append,
    not_counted_before hu hinc' hmid]
  -- the first update counts it once; the rest decides
  have hfirst : (counted statsBotChatId chattype
      (run statsBotChatId db (pre ++ .insert m :: mid)) [.updateMessageStats]).count m.id = 1 := by
    rw [counted, counted, List.append_nil, count_counted hm huniq, if_pos hreq]
  rw [hfirst]
  by_cases hpost : Op.updateMessageStats ∈ post
  · by_cases hpre : Op.updateMessageStats ∈ pre
    · have hrow : (run statsBotChatId db (pre ++ .insert m :: mid)).statsMsgs chattype ≠ none :=
        run_row (List.mem_append_left _ hpre) hu hc
      have hrest := not_mem_counted_run statsBotChatId hc post _
        (step_uniform _ .updateMessageStats hu') (past_of_update statsBotChatId hu' hc hm hrow)
      simp [hpre, List.count_eq_zero.mpr hrest]
    · have hno : Op.updateMessageStats ∉ pre ++ .insert m :: mid := by simp [hpre, hmid]
      have hrow : (run statsBotChatId db (pre ++ .insert m :: mid)).statsMsgs chattype = none := by
        rw [run_statsMsgs _ hno, hempty]
      have hagain := List.count_pos_iff.mpr (mem_counted_again hu' hc hm hrow hreq hpost)
      simp only [hpre, hpost, not_true_eq_false, or_self, iff_false]
      omega
  · simp [hpost, counted_no_update post hpost]

def oneChat : Db :=
  { msgs := [], chats := fun id => if id = 10 then some .single else none
    contacts := fun id => if id = 12 then some 0 else none
    chatsContacts := [(10, 12)], statsMsgs := fun _ => none }

def hello : MsgRow :=
  { id := 15, fromId := ContactId.self, chatId := 10, hidden := false, param := "c=1" }

/-- updated before the message was sent, and twice after -/
theorem counted_once_updated :
    (run 11 oneChat [.updateMessageStats, .insert hello, .updateMessageStats,
        .updateMessageStats]).sum .single
      = (counted 11 .single oneChat [.updateMessageStats, .insert hello, .updateMessageStats,
        .updateMessageStats]).length ∧
    ((counted 11 .single oneChat [.updateMessageStats, .insert hello, .updateMessageStats,
        .updateMessageStats]).count 15 = 1 ↔
      Op.updateMessageStats ∈ [Op.updateMessageStats] ∨
        Op.updateMessageStats ∉ [Op.updateMessageStats]) :=
  counted_once_iff 11 oneChat (fun _ => rfl) [.updateMessageStats] [] [.updateMessageStats] _ hello
    rfl ⟨trivial, nofun, trivial, trivial, trivial⟩ (List.not_mem_nil) .single (by decide)
    (by decide)

/-- the message is there at the first update ever: it is in `unverified_encrypted` twice -/
theorem counted_twice :
    (run 11 oneChat [.insert hello]).generalRequirements 11 .single
      ((run 11 oneChat [.insert hello]).lastCountedMsgId .single) hello = true ∧
    counted 11 .single oneChat [.insert hello, .updateMessageStats, .updateMessageStats] = [15, 15] ∧
    (run 11 oneChat [.insert hello, .updateMessageStats, .updateMessageStats]).statsMsgs .single
      = some { unverifiedEncrypted := 2, lastCountedMsgId := 15 } := by
  decide

end EpsilonChat.Stats
