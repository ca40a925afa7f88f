import EpsilonChat.Lib.IdTable
import EpsilonChat.Mime.Message

/-!
# Messages that expire

A message expires when its own timer is over (`ephemeral_timestamp`), or when it is older than the
setting `delete_device_after` allows.  `next_expiration_timestamp` says when the next message
expires, `select_expired_messages` which ones have expired, `delete_expired_messages` moves these to
the trash, and `ephemeral_loop` waits for the one and then does the other.

* `Due.selected`, `Selected.due`: one message and one clock value: the comparisons of the two
  queries agree;
* `next_le`, `next_attained`: the schedule is the least time of all messages;
* `deleteExpiredMessages_eq`: the deletion fails for a reserved id, and then nothing is deleted;
* **`schedule_agrees`**: what is scheduled is selected when its time is over, nothing is selected
  before, and after a deletion the next time lies ahead.
-/

namespace EpsilonChat.Ephemeral

open Lib

/-! ## the tables -/

def DC_CHAT_ID_TRASH : ChatId := 3

def DC_CHAT_ID_LAST_SPECIAL : ChatId := 9

/-- a row of `msgs`; a column that is not given has its default -/
structure Msg where
  rfc724Mid : String
  preRfc724Mid : String
  timestamp : I64
  chatId : ChatId
  timestampRcvd : I64 := I64.zero
  ephemeralTimestamp : I64 := I64.zero
  viewtype : Viewtype := .unknown
  locationId : ℕ := 0

abbrev I32 := { n : ℤ // -2^31 ≤ n ∧ n < 2^31 }

inductive Event where
  | msgDeleted (chatId : ChatId) (msgId : MsgId)
  | msgsChanged (chatId : ChatId)
  | webxdcInstanceDeleted (msgId : MsgId)
  deriving DecidableEq, Repr

structure State where
  msgs : IdTable Msg
  /-- `locations`, by their column `independent` -/
  locations : IdTable Bool
  deleteDeviceAfter : I32
  /-- `ChatIdBlocked::lookup_by_contact` of `SELF` and `DEVICE` -/
  selfChatId : Option ChatId
  deviceChatId : Option ChatId
  events : List Event

def getConfigDeleteDeviceAfter (s : State) : Option I64 :=
  if s.deleteDeviceAfter.val = 0 then none
  else some ⟨s.deleteDeviceAfter.val, by have := s.deleteDeviceAfter.2; omega⟩

def inOtherChat (s : State) (m : Msg) : Bool :=
  m.chatId != s.selfChatId.getD 0 && m.chatId != s.deviceChatId.getD 0

def ephemeralExpired (now : I64) (m : Msg) : Bool :=
  m.ephemeralTimestamp ≠ I64.zero && m.ephemeralTimestamp ≤ now && m.chatId != DC_CHAT_ID_TRASH

def deviceExpired (s : State) (threshold : I64) (m : Msg) : Bool :=
  m.timestamp < threshold && m.timestampRcvd < threshold &&
    decide (m.chatId > DC_CHAT_ID_LAST_SPECIAL) && inOtherChat s m

structure Expired where
  msgId : MsgId
  chatId : ChatId
  viewtype : Viewtype
  locationId : ℕ

/-- `SELECT id, chat_id, type, location_id FROM msgs WHERE …` -/
def selectMsgs (msgs : IdTable Msg) (p : Msg → Bool) : List Expired :=
  (msgs.ids p).filterMap fun id =>
    (msgs.row id).map fun m => ⟨id, m.chatId, m.viewtype, m.locationId⟩

def selectExpiredMessages (s : State) (now : I64) : List Expired :=
  selectMsgs s.msgs (ephemeralExpired now) ++
    match getConfigDeleteDeviceAfter s with
    | none => []
    | some d => selectMsgs s.msgs (deviceExpired s (I64.saturatingSub now d))

/-- `SELECT min(…) FROM msgs WHERE … HAVING count(*) > 0` -/
def minOf (msgs : IdTable Msg) (p : Msg → Bool) (column : Msg → I64) : Option I64 :=
  ((msgs.ids p).filterMap fun id => (msgs.row id).map column).min?

def hasEphemeral (m : Msg) : Bool :=
  m.ephemeralTimestamp ≠ I64.zero && m.chatId != DC_CHAT_ID_TRASH

def mayAge (s : State) (m : Msg) : Bool := decide (m.chatId > DC_CHAT_ID_TRASH) && inOtherChat s m

def age (m : Msg) : I64 := max m.timestamp m.timestampRcvd

def nextDeleteDeviceAfterTimestamp (s : State) : Option I64 :=
  match getConfigDeleteDeviceAfter s with
  | none => none
  | some d => (minOf s.msgs (mayAge s) age).map fun x => I64.saturatingAdd x d

def nextExpirationTimestamp (s : State) : Option I64 :=
  ((minOf s.msgs hasEphemeral Msg.ephemeralTimestamp).toList ++
    (nextDeleteDeviceAfterTimestamp s).toList).min?

/-- `INSERT OR REPLACE INTO msgs (id, rfc724_mid, pre_rfc724_mid, timestamp, chat_id) SELECT …` -/
def trash (m : Msg) : Msg where
  rfc724Mid := m.rfc724Mid
  preRfc724Mid := m.preRfc724Mid
  timestamp := m.timestamp
  chatId := DC_CHAT_ID_TRASH

/-- a location that is no position of the track goes with the message -/
def trashOne (s : State) (e : Expired) : State :=
  { s with
    msgs := s.msgs.update e.msgId trash
    locations := if e.locationId > 0 ∧ s.locations.row e.locationId = some true then
      s.locations.delete e.locationId else s.locations }

/-- the statements for one message -/
def deleteOne (s : State) (e : Expired) : Except String State :=
  e.msgId.toSql.map fun _ => trashOne s e

def emitDeleted (s : State) (rows : List Expired) : State :=
  { s with
    events := s.events ++ rows.map (fun e => Event.msgDeleted e.chatId e.msgId) ++
      ((rows.map Expired.chatId).dedup.insertionSort (· ≤ ·)).map Event.msgsChanged ++
      (rows.filter fun e => e.viewtype = .webxdc).map fun e => Event.webxdcInstanceDeleted e.msgId }

/-- after an error the transaction is rolled back, and no event is emitted -/
def deleteExpiredMessages (s : State) (now : I64) : Except String State :=
  let rows := selectExpiredMessages s now
  (rows.foldlM deleteOne s).map fun s => emitDeleted s rows

/-- `SystemTime + Duration`, in seconds; beyond `i64` it panics -/
def addDuration (time : ℤ) (seconds : ℕ) : Option ℤ :=
  if time + seconds < 2^63 then some (time + seconds) else none

/-- until when `ephemeral_loop` waits; `none` is a panic -/
def waitUntil (next : Option I64) (now : ℤ) : Option ℤ :=
  match next with
  | some t =>
    (addDuration 0 (if 0 ≤ t.val then t.val.toNat else 2^64 - 1)).bind fun time => addDuration time 1
  | none => addDuration now 86400

/-! ## one message and the clock -/

/-- when the message expires, by one rule or the other -/
def Due (s : State) (m : Msg) (t : I64) : Prop :=
  (hasEphemeral m = true ∧ m.ephemeralTimestamp = t) ∨
    ∃ d, getConfigDeleteDeviceAfter s = some d ∧ mayAge s m = true ∧ I64.saturatingAdd (age m) d = t

section
variable {s : State} {now : I64}
variable {x t : I64} {m : Msg} {msgs : IdTable Msg} {p : Msg → Bool} {id : MsgId}

theorem lt_saturatingSub {d : I64} (hd : now.val - d.val < 2^63) (h : I64.saturatingAdd x d < now) :
    x < I64.saturatingSub now d := by
  have hx := x.2
  have hlt : (I64.saturatingAdd x d).val < now.val := h
  rw [I64.val_saturatingAdd] at hlt
  show x.val < (I64.saturatingSub now d).val
  rw [I64.val_saturatingSub]
  omega

theorem saturatingAdd_le {d : I64} (h : x < I64.saturatingSub now d) :
    I64.saturatingAdd x d ≤ now := by
  have hx := x.2
  have hnow := now.2
  have hlt : x.val < (I64.saturatingSub now d).val := h
  rw [I64.val_saturatingSub] at hlt
  show (I64.saturatingAdd x d).val ≤ now.val
  rw [I64.val_saturatingAdd]
  omega

theorem saturatingAdd_mono {y : I64} (d : I64) (h : x ≤ y) :
    I64.saturatingAdd x d ≤ I64.saturatingAdd y d := by
  have hxy : x.val ≤ y.val := h
  show (I64.saturatingAdd x d).val ≤ (I64.saturatingAdd y d).val
  rw [I64.val_saturatingAdd, I64.val_saturatingAdd]
  omega

def Selected (s : State) (now : I64) (m : Msg) : Prop :=
  ephemeralExpired now m = true ∨
    ∃ d, getConfigDeleteDeviceAfter s = some d ∧ deviceExpired s (I64.saturatingSub now d) m = true

theorem deviceExpired_iff {threshold : I64} : deviceExpired s threshold m = true ↔
    age m < threshold ∧ m.chatId > DC_CHAT_ID_LAST_SPECIAL ∧ inOtherChat s m = true := by
  simp only [deviceExpired, Bool.and_eq_true, decide_eq_true_eq, age, max_lt_iff, and_assoc]

theorem Due.selected (hchat : m.chatId = DC_CHAT_ID_TRASH ∨ DC_CHAT_ID_LAST_SPECIAL < m.chatId)
    (hd : ∀ d, getConfigDeleteDeviceAfter s = some d → now.val - d.val < 2^63) (h : Due s m t)
    (ht : t < now) : Selected s now m := by
  rcases h with ⟨heph, rfl⟩ | ⟨d, hcfg, hage, rfl⟩
  · refine .inl ?_
    simp only [hasEphemeral, Bool.and_eq_true] at heph
    simp only [ephemeralExpired, Bool.and_eq_true, decide_eq_true_eq]
    exact ⟨⟨of_decide_eq_true heph.1, ht.le⟩, heph.2⟩
  · refine .inr ⟨d, hcfg, deviceExpired_iff.mpr ?_⟩
    simp only [mayAge, Bool.and_eq_true, decide_eq_true_eq] at hage
    refine ⟨lt_saturatingSub (hd d hcfg) ht, ?_, hage.2⟩
    rcases hchat with htrash | hlast
    · exact absurd hage.1 (by rw [htrash]; exact Nat.lt_irrefl _)
    · exact hlast

theorem Selected.due (h : Selected s now m) : ∃ t, Due s m t ∧ t ≤ now := by
  rcases h with heph | ⟨d, hcfg, hexp⟩
  · simp only [ephemeralExpired, Bool.and_eq_true, decide_eq_true_eq] at heph
    refine ⟨m.ephemeralTimestamp, .inl ⟨?_, rfl⟩, heph.1.2⟩
    simp only [hasEphemeral, Bool.and_eq_true, decide_eq_true_eq]
    exact ⟨heph.1.1, heph.2⟩
  · obtain ⟨hage, hchat, hother⟩ := deviceExpired_iff.mp hexp
    refine ⟨_, .inr ⟨d, hcfg, ?_, rfl⟩, saturatingAdd_le hage⟩
    simp only [mayAge, Bool.and_eq_true, decide_eq_true_eq]
    exact ⟨lt_trans (by decide) hchat, hother⟩

/-! ## the queries -/

theorem mem_selectMsgs {e : Expired} :
    e ∈ selectMsgs msgs p ↔ ∃ m, msgs.row e.msgId = some m ∧ p m = true ∧
      e = ⟨e.msgId, m.chatId, m.viewtype, m.locationId⟩ := by
  constructor
  · intro h
    obtain ⟨id, hid, hmap⟩ := List.mem_filterMap.mp h
    obtain ⟨m, hrow, rfl⟩ := Option.map_eq_some_iff.mp hmap
    obtain ⟨m', hrow', hp⟩ := IdTable.mem_ids.mp hid
    rw [hrow] at hrow'
    cases hrow'
    exact ⟨m, hrow, hp, rfl⟩
  · rintro ⟨m, hrow, hp, he⟩
    refine List.mem_filterMap.mpr ⟨e.msgId, IdTable.mem_ids.mpr ⟨m, hrow, hp⟩, ?_⟩
    rw [hrow, Option.map_some, he]

theorem exists_mem_select :
    (∃ e ∈ selectExpiredMessages s now, e.msgId = id) ↔
      ∃ m, s.msgs.row id = some m ∧ Selected s now m := by
  constructor
  · rintro ⟨e, he, rfl⟩
    rcases List.mem_append.mp he with heph | hdev
    · obtain ⟨m, hrow, hp, -⟩ := mem_selectMsgs.mp heph
      exact ⟨m, hrow, .inl hp⟩
    · rcases hcfg : getConfigDeleteDeviceAfter s with _ | d
      · rw [hcfg] at hdev
        cases hdev
      · rw [hcfg] at hdev
        obtain ⟨m, hrow, hp, -⟩ := mem_selectMsgs.mp hdev
        exact ⟨m, hrow, .inr ⟨d, hcfg, hp⟩⟩
  · rintro ⟨m, hrow, hsel⟩
    refine ⟨⟨id, m.chatId, m.viewtype, m.locationId⟩, List.mem_append.mpr ?_, rfl⟩
    rcases hsel with hp | ⟨d, hcfg, hp⟩
    · exact .inl (mem_selectMsgs.mpr ⟨m, hrow, hp, rfl⟩)
    · rw [hcfg]
      exact .inr (mem_selectMsgs.mpr ⟨m, hrow, hp, rfl⟩)

theorem minOf_eq_some {column : Msg → I64} (h : minOf msgs p column = some t) :
    ∃ id m, msgs.row id = some m ∧ p m = true ∧ column m = t := by
  obtain ⟨id, hid, hmap⟩ := List.mem_filterMap.mp (List.min?_mem h)
  obtain ⟨m, hrow, hcol⟩ := Option.map_eq_some_iff.mp hmap
  obtain ⟨m', hrow', hp⟩ := IdTable.mem_ids.mp hid
  rw [hrow] at hrow'
  cases hrow'
  exact ⟨id, m, hrow, hp, hcol⟩

theorem exists_min?_le {l : List I64} (h : x ∈ l) : ∃ t, l.min? = some t ∧ t ≤ x := by
  rcases hmin : l.min? with _ | t
  · rw [List.min?_eq_none_iff.mp hmin] at h
    cases h
  · exact ⟨t, rfl, (List.min?_eq_some_iff.mp hmin).2 x h⟩

theorem minOf_le {column : Msg → I64} (hrow : msgs.row id = some m) (hp : p m = true) :
    ∃ t, minOf msgs p column = some t ∧ t ≤ column m := by
  refine exists_min?_le (List.mem_filterMap.mpr ⟨id, IdTable.mem_ids.mpr ⟨m, hrow, hp⟩, ?_⟩)
  rw [hrow, Option.map_some]

theorem next_attained (h : nextExpirationTimestamp s = some t) :
    ∃ id m, s.msgs.row id = some m ∧ Due s m t := by
  rcases List.mem_append.mp (List.min?_mem h) with heph | hdev
  · obtain ⟨id, m, hrow, hp, hcol⟩ := minOf_eq_some (Option.mem_toList.mp heph)
    exact ⟨id, m, hrow, .inl ⟨hp, hcol⟩⟩
  · have hnext : nextDeleteDeviceAfterTimestamp s = some t := Option.mem_toList.mp hdev
    unfold nextDeleteDeviceAfterTimestamp at hnext
    rcases hcfg : getConfigDeleteDeviceAfter s with _ | d
    · rw [hcfg] at hnext
      cases hnext
    · rw [hcfg] at hnext
      obtain ⟨x, hmin, hx⟩ := Option.map_eq_some_iff.mp hnext
      obtain ⟨id, m, hrow, hp, hcol⟩ := minOf_eq_some hmin
      exact ⟨id, m, hrow, .inr ⟨d, hcfg, hp, by rw [hcol, hx]⟩⟩

theorem next_le (hrow : s.msgs.row id = some m) (h : Due s m t) :
    ∃ t', nextExpirationTimestamp s = some t' ∧ t' ≤ t := by
  rcases h with ⟨heph, rfl⟩ | ⟨d, hcfg, hage, rfl⟩
  · obtain ⟨t₁, hmin, hle⟩ := minOf_le (p := hasEphemeral) hrow heph
    obtain ⟨t', hnext, hle'⟩ := exists_min?_le
      (List.mem_append_left (nextDeleteDeviceAfterTimestamp s).toList (Option.mem_toList.mpr hmin))
    exact ⟨t', hnext, hle'.trans hle⟩
  · obtain ⟨x, hmin, hle⟩ := minOf_le (p := mayAge s) hrow hage
    have hdev : nextDeleteDeviceAfterTimestamp s = some (I64.saturatingAdd x d) := by
      unfold nextDeleteDeviceAfterTimestamp
      rw [hcfg]
      exact congrArg (Option.map fun x => I64.saturatingAdd x d) hmin
    obtain ⟨t', hnext, hle'⟩ := exists_min?_le
      (List.mem_append_right (minOf s.msgs hasEphemeral Msg.ephemeralTimestamp).toList
        (Option.mem_toList.mpr hdev))
    exact ⟨t', hnext, hle'.trans (saturatingAdd_mono d hle)⟩

/-! ## deletion -/

theorem foldl_trashOne (s : State) (rows : List Expired) :
    (rows.foldl trashOne s).msgs =
        (rows.map Expired.msgId).foldl (fun t id => t.update id trash) s.msgs ∧
      (rows.foldl trashOne s).deleteDeviceAfter = s.deleteDeviceAfter ∧
      (rows.foldl trashOne s).selfChatId = s.selfChatId ∧
      (rows.foldl trashOne s).deviceChatId = s.deviceChatId := by
  induction rows generalizing s with
  | nil => exact ⟨rfl, rfl, rfl, rfl⟩
  | cons e rows ih => exact ih (trashOne s e)

/-- the state after a deletion that does not fail -/
def afterDeletion (s : State) (now : I64) : State :=
  emitDeleted ((selectExpiredMessages s now).foldl trashOne s) (selectExpiredMessages s now)

theorem deleteExpiredMessages_eq (s : State) (now : I64) : deleteExpiredMessages s now =
    match ((selectExpiredMessages s now).map Expired.msgId).find? MsgId.isSpecial with
    | none => .ok (afterDeletion s now)
    | some id => .error s!"Invalid MsgId {id}" := by
  have hfold : (selectExpiredMessages s now).foldlM deleteOne s = _ :=
    MsgId.foldlM_toSql Expired.msgId trashOne _ s
  unfold deleteExpiredMessages
  dsimp only
  rw [hfold]
  cases ((selectExpiredMessages s now).map Expired.msgId).find? MsgId.isSpecial <;> rfl

theorem deleteExpiredMessages_ok_iff {s s' : State} {now : I64} :
    deleteExpiredMessages s now = .ok s' ↔
      (∀ e ∈ selectExpiredMessages s now, MsgId.lastSpecial < e.msgId) ∧ afterDeletion s now = s' := by
  have hfind : ((selectExpiredMessages s now).map Expired.msgId).find? MsgId.isSpecial = none ↔
      ∀ e ∈ selectExpiredMessages s now, MsgId.lastSpecial < e.msgId := by
    simp [MsgId.isSpecial]
  rw [deleteExpiredMessages_eq, ← hfind]
  split
  · next h => simp [h]
  · next h => simp [h]

theorem afterDeletion_row (s : State) (now : I64) (id : MsgId) :
    (afterDeletion s now).msgs.row id =
      if id ∈ (selectExpiredMessages s now).map Expired.msgId then (s.msgs.row id).map trash
      else s.msgs.row id := by
  have htwice : ∀ m, trash (trash m) = trash m := fun _ => rfl
  show ((selectExpiredMessages s now).foldl trashOne s).msgs.row id = _
  rw [(foldl_trashOne s _).1, IdTable.foldl_update_row htwice]

theorem not_due_trash : ¬ Due s (trash m) t := by
  rintro (⟨heph, -⟩ | ⟨d, -, hage, -⟩)
  · simp [hasEphemeral, trash] at heph
  · simp [mayAge, trash] at hage

theorem due_of_delete (hrow : (afterDeletion s now).msgs.row id = some m)
    (h : Due (afterDeletion s now) m t) :
    s.msgs.row id = some m ∧ Due s m t ∧ ¬ Selected s now m := by
  obtain ⟨-, hcfg, hself, hdevice⟩ := foldl_trashOne s (selectExpiredMessages s now)
  rw [afterDeletion_row] at hrow
  have hdue : Due s m t := by
    have hother : inOtherChat (afterDeletion s now) m = inOtherChat s m := by
      show inOtherChat ((selectExpiredMessages s now).foldl trashOne s) m = _
      rw [inOtherChat, hself, hdevice, inOtherChat]
    have hafter : getConfigDeleteDeviceAfter (afterDeletion s now) =
        getConfigDeleteDeviceAfter s := by
      show getConfigDeleteDeviceAfter ((selectExpiredMessages s now).foldl trashOne s) = _
      simp only [getConfigDeleteDeviceAfter, hcfg]
    unfold Due mayAge at h ⊢
    rw [hother, hafter] at h
    exact h
  by_cases hmem : id ∈ (selectExpiredMessages s now).map Expired.msgId
  · rw [if_pos hmem] at hrow
    obtain ⟨m', -, rfl⟩ := Option.map_eq_some_iff.mp hrow
    exact absurd hdue not_due_trash
  · rw [if_neg hmem] at hrow
    refine ⟨hrow, hdue, fun hsel => hmem (List.mem_map.mpr ?_)⟩
    exact exists_mem_select.mpr ⟨m, hrow, hsel⟩

end

/-! ## schedule and deletion -/

theorem le_next_of_delete {s : State} {now t : I64}
    (hchats : ∀ id m, s.msgs.row id = some m →
      m.chatId = DC_CHAT_ID_TRASH ∨ DC_CHAT_ID_LAST_SPECIAL < m.chatId)
    (hd : ∀ d, getConfigDeleteDeviceAfter s = some d → now.val - d.val < 2^63)
    (h : nextExpirationTimestamp (afterDeletion s now) = some t) : now ≤ t := by
  obtain ⟨id, m, hrow, hdue⟩ := next_attained h
  obtain ⟨hrow', hdue', hnot⟩ := due_of_delete hrow hdue
  by_contra hlt
  exact hnot (hdue'.selected (hchats id m hrow') hd (not_le.mp hlt))

theorem waitUntil_some {t : I64} (h0 : 0 ≤ t.val) (hmax : t.val + 1 < 2^63) (clock : ℤ) :
    waitUntil (some t) clock = some (t.val + 1) := by
  have hnat : ((t.val.toNat : ℕ) : ℤ) = t.val := Int.toNat_of_nonneg h0
  have hadd : addDuration 0 t.val.toNat = some t.val := by
    rw [addDuration, hnat, zero_add, if_pos (by omega)]
  simp only [waitUntil, if_pos h0, hadd, Option.bind_some]
  exact if_pos hmax

theorem lt_waitUntil {next : Option I64} {now : I64} {u : ℤ} (hnext : ∀ t, next = some t → now ≤ t)
    (h : waitUntil next now.val = some u) : now.val < u := by
  cases next with
  | none =>
    have hadd : addDuration now.val 86400 = some u := h
    unfold addDuration at hadd
    split at hadd
    · cases hadd
      omega
    · cases hadd
  | some t =>
    have hle : now.val ≤ t.val := hnext t rfl
    have hbind : (addDuration 0 (if 0 ≤ t.val then t.val.toNat else 2^64 - 1)).bind
        (fun time => addDuration time 1) = some u := h
    obtain ⟨time, htime, hone⟩ := Option.bind_eq_some_iff.mp hbind
    have ht : t.val ≤ time := by
      unfold addDuration at htime
      by_cases h0 : 0 ≤ t.val
      · rw [if_pos h0] at htime
        split at htime
        · cases htime
          omega
        · cases htime
      · rw [if_neg h0] at htime
        split at htime
        · cases htime
          omega
        · cases htime
    unfold addDuration at hone
    split at hone
    · cases hone
      omega
    · cases hone

/-- **schedule and deletion agree**, as long as the clock value less the setting is a timestamp:
what is scheduled is selected when its time is over, a deletion does not fail unless it comes to a
reserved id, after it the next time lies ahead, and nothing is selected before; so the loop waits for
the scheduled time, and then for a later one -/
theorem schedule_agrees (s : State) (now : I64)
    (hchats : ∀ id m, s.msgs.row id = some m →
      m.chatId = DC_CHAT_ID_TRASH ∨ DC_CHAT_ID_LAST_SPECIAL < m.chatId)
    (hd : ∀ d, getConfigDeleteDeviceAfter s = some d → now.val - d.val < 2^63) :
    (∀ t, nextExpirationTimestamp s = some t → t.val + 1 ≤ now.val →
      ∃ e ∈ selectExpiredMessages s now, ∃ m, s.msgs.row e.msgId = some m ∧ Due s m t) ∧
    ((∀ e ∈ selectExpiredMessages s now, MsgId.lastSpecial < e.msgId) →
      ∃ s', deleteExpiredMessages s now = .ok s' ∧
        (∀ t, nextExpirationTimestamp s' = some t → now ≤ t) ∧
        ∀ u, waitUntil (nextExpirationTimestamp s') now.val = some u → now.val < u) ∧
    ((∀ t, nextExpirationTimestamp s = some t → now < t) → selectExpiredMessages s now = []) ∧
    ∀ t, nextExpirationTimestamp s = some t → 0 ≤ t.val → t.val + 1 < 2^63 →
      ∀ clock, waitUntil (nextExpirationTimestamp s) clock = some (t.val + 1) := by
  refine ⟨?_, ?_, ?_, ?_⟩
  · intro t hnext ht
    obtain ⟨id, m, hrow, hdue⟩ := next_attained hnext
    have hlt : t < now := Int.lt_of_add_one_le ht
    have hsel : Selected s now m := hdue.selected (hchats id m hrow) hd hlt
    obtain ⟨e, he, rfl⟩ := exists_mem_select.mpr ⟨m, hrow, hsel⟩
    exact ⟨e, he, m, hrow, hdue⟩
  · intro hids
    exact ⟨afterDeletion s now, deleteExpiredMessages_ok_iff.mpr ⟨hids, rfl⟩,
      fun t => le_next_of_delete hchats hd, fun u => lt_waitUntil fun t => le_next_of_delete hchats hd⟩
  · intro hahead
    refine List.eq_nil_iff_forall_not_mem.mpr ?_
    intro e he
    obtain ⟨m, hrow, hsel⟩ := exists_mem_select.mp ⟨e, he, rfl⟩
    obtain ⟨t, hdue, ht⟩ := hsel.due
    obtain ⟨t', hnext, hle⟩ := next_le hrow hdue
    exact absurd (hahead t' hnext) (not_lt.mpr (hle.trans ht))
  · intro t hnext h0 hmax clock
    rw [hnext]
    exact waitUntil_some h0 hmax clock

/-- a message behind the ids up to `seq` -/
def oneMsg (seq : ℕ) (timestamp ephemeralTimestamp : I64) (deleteDeviceAfter : I32) : State where
  msgs := (IdTable.emptyAfter seq).insert
    { rfc724Mid := "a@b", preRfc724Mid := "", timestamp := timestamp, chatId := 10,
      ephemeralTimestamp := ephemeralTimestamp }
  locations := IdTable.empty
  deleteDeviceAfter := deleteDeviceAfter
  selfChatId := none
  deviceChatId := none
  events := []

theorem schedule_agrees_one_minute :
    (∃ e ∈ selectExpiredMessages (oneMsg 9 ⟨1000, by decide⟩ I64.zero ⟨60, by decide⟩) ⟨2000, by decide⟩,
      ∃ m, (oneMsg 9 ⟨1000, by decide⟩ I64.zero ⟨60, by decide⟩).msgs.row e.msgId = some m ∧
        Due (oneMsg 9 ⟨1000, by decide⟩ I64.zero ⟨60, by decide⟩) m ⟨1060, by decide⟩) ∧
    ∃ s', deleteExpiredMessages (oneMsg 9 ⟨1000, by decide⟩ I64.zero ⟨60, by decide⟩)
        ⟨2000, by decide⟩ = .ok s' ∧
      ∀ t, nextExpirationTimestamp s' = some t → ⟨2000, by decide⟩ ≤ t := by
  have hagrees := schedule_agrees (oneMsg 9 ⟨1000, by decide⟩ I64.zero ⟨60, by decide⟩)
    ⟨2000, by decide⟩ ?_ ?_
  · obtain ⟨s', hdelete, hnext, -⟩ := hagrees.2.1 (by decide)
    exact ⟨hagrees.1 ⟨1060, by decide⟩ rfl (by decide), s', hdelete, hnext⟩
  · intro id m hrow
    rcases IdTable.row_of_insert hrow with ⟨-, rfl⟩ | h
    · exact .inr (by decide)
    · cases h
  · intro d hcfg
    cases hcfg
    decide

/-- a negative setting and the last clock value: the threshold stops at `i64::MAX`, and what was
scheduled for the second before is not selected.  A message that expired before 1970 makes the wait
overflow, and one with a reserved id makes the deletion fail -/
theorem schedule_saturated :
    (nextExpirationTimestamp (oneMsg 9 ⟨2^63 - 1, by decide⟩ I64.zero ⟨-1, by decide⟩) =
        some ⟨2^63 - 2, by decide⟩ ∧
      selectExpiredMessages (oneMsg 9 ⟨2^63 - 1, by decide⟩ I64.zero ⟨-1, by decide⟩)
        ⟨2^63 - 1, by decide⟩ = []) ∧
    (nextExpirationTimestamp (oneMsg 9 I64.zero ⟨-5, by decide⟩ ⟨0, by decide⟩) =
        some ⟨-5, by decide⟩ ∧
      ∀ clock, waitUntil (some ⟨-5, by decide⟩) clock = none) ∧
    deleteExpiredMessages (oneMsg 0 I64.zero ⟨1150, by decide⟩ ⟨0, by decide⟩) ⟨1200, by decide⟩ =
      .error "Invalid MsgId 1" :=
  ⟨⟨rfl, rfl⟩, ⟨rfl, fun _ => rfl⟩, rfl⟩

end EpsilonChat.Ephemeral
