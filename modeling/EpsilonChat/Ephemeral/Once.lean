import EpsilonChat.Ephemeral.Schedule

/-!
# What the deletion of expired messages announces

`delete_expired_messages` walks a list that two queries filled one after the other.  The rows are
replaced in place, so a message that BOTH queries found is trashed twice to the same effect; its
events are emitted twice.

* `ageExpired`: the second rule, next to `ephemeralExpired`;
* `selectMsgs_of_id`: a query finds a message once, or not at all;
* `deleteExpired_selected`, `deleteExpired_other`: a row that meets one of the rules is trashed, any
  other row stays;
* **`announced_once_iff`**: the deletion is as it should be, with one `MsgDeleted` for each message,
  IFF no message meets both rules, and none with a reserved id meets one.
-/

namespace EpsilonChat.Ephemeral

open Lib

def ageExpired (s : State) (now : I64) (m : Msg) : Bool :=
  (getConfigDeleteDeviceAfter s).any fun d => deviceExpired s (I64.saturatingSub now d) m

theorem selected_iff {s : State} {now : I64} {m : Msg} :
    Selected s now m ↔ ephemeralExpired now m = true ∨ ageExpired s now m = true := by
  rw [ageExpired, Option.any_eq_true]
  exact Iff.rfl

/-! ## one message in the list -/

def expiredOf (id : MsgId) (m : Msg) : Expired := ⟨id, m.chatId, m.viewtype, m.locationId⟩

theorem selectMsgs_of_id (msgs : IdTable Msg) (p : Msg → Bool) (id : MsgId) :
    (selectMsgs msgs p).filter (fun e => e.msgId = id) =
      ((msgs.row id).filter p).toList.map (expiredOf id) := by
  have hid : ∀ i, ((msgs.row i).map (expiredOf i)).filter (fun e => e.msgId = id) =
      if decide (i = id) = true then (msgs.row i).map (expiredOf i) else none := by
    intro i
    rcases msgs.row i with _ | m
    · exact (ite_self none).symm
    · rfl
  show ((msgs.ids p).filterMap fun i => (msgs.row i).map (expiredOf i)).filter _ = _
  rw [List.filter_filterMap, funext hid, ← List.filterMap_filter, IdTable.filter_ids]
  rcases hrow : msgs.row id with _ | m
  · rfl
  · rw [Option.any_some, Option.filter_some]
    by_cases hp : p m = true
    · rw [if_pos hp, if_pos hp, List.filterMap_cons, hrow]
      rfl
    · rw [if_neg hp, if_neg hp]
      rfl

theorem selectExpired_of_id (s : State) (now : I64) {id : MsgId} {m : Msg}
    (hrow : s.msgs.row id = some m) :
    (selectExpiredMessages s now).filter (fun e => e.msgId = id) =
      (if ephemeralExpired now m then [expiredOf id m] else []) ++
        if ageExpired s now m then [expiredOf id m] else [] := by
  have hone : ∀ p : Msg → Bool, (selectMsgs s.msgs p).filter (fun e => e.msgId = id) =
      if p m then [expiredOf id m] else [] := by
    intro p
    rw [selectMsgs_of_id, hrow, Option.filter_some]
    cases p m <;> rfl
  unfold selectExpiredMessages ageExpired
  rw [List.filter_append, hone]
  rcases getConfigDeleteDeviceAfter s with _ | d
  · rfl
  · exact congrArg _ (hone _)

section
variable {s : State} {now : I64} {id : MsgId} {m : Msg}

theorem mem_select_iff (hrow : s.msgs.row id = some m) :
    id ∈ (selectExpiredMessages s now).map Expired.msgId ↔ Selected s now m := by
  rw [List.mem_map, exists_mem_select, hrow]
  constructor
  · rintro ⟨m', heq, hsel⟩
    cases heq
    exact hsel
  · exact fun hsel => ⟨m, rfl, hsel⟩

theorem deleteExpired_selected (hrow : s.msgs.row id = some m) (hsel : Selected s now m) :
    (afterDeletion s now).msgs.row id = some (trash m) := by
  rw [afterDeletion_row, if_pos ((mem_select_iff hrow).mpr hsel), hrow, Option.map_some]

theorem deleteExpired_other (h : ∀ m, s.msgs.row id = some m → ¬ Selected s now m) :
    (afterDeletion s now).msgs.row id = s.msgs.row id := by
  rcases hrow : s.msgs.row id with _ | m
  · rw [afterDeletion_row, hrow, Option.map_none, ite_self]
  · rw [afterDeletion_row, if_neg (mt (mem_select_iff hrow).mp (h m hrow)), hrow]

end

/-! ## the events -/

def announced (s s' : State) : List Event := s'.events.drop s.events.length

def Event.isMsgDeleted (id : MsgId) : Event → Bool
  | .msgDeleted _ msgId => msgId = id
  | _ => false

def Event.isWebxdcDeleted (id : MsgId) : Event → Bool
  | .webxdcInstanceDeleted msgId => msgId = id
  | _ => false

section
variable (s : State) (now : I64) (id : MsgId)

theorem foldl_trashOne_events (rows : List Expired) :
    (rows.foldl trashOne s).events = s.events := by
  induction rows generalizing s with
  | nil => rfl
  | cons e rows ih => exact ih (trashOne s e)

theorem announced_eq : announced s (afterDeletion s now) =
    (selectExpiredMessages s now).map (fun e => Event.msgDeleted e.chatId e.msgId) ++
      (((selectExpiredMessages s now).map Expired.chatId).dedup.insertionSort (· ≤ ·)).map
        Event.msgsChanged ++
      ((selectExpiredMessages s now).filter fun e => e.viewtype = .webxdc).map
        fun e => Event.webxdcInstanceDeleted e.msgId := by
  unfold announced afterDeletion emitDeleted
  dsimp only
  rw [foldl_trashOne_events, List.append_assoc, List.append_assoc, List.drop_left,
    List.append_assoc]

theorem announced_msgDeleted : (announced s (afterDeletion s now)).filter (Event.isMsgDeleted id) =
    ((selectExpiredMessages s now).filter fun e => e.msgId = id).map
      fun e => Event.msgDeleted e.chatId e.msgId := by
  rw [announced_eq, List.filter_append, List.filter_append, List.filter_map, List.filter_map,
    List.filter_map]
  have hchanged : (Event.isMsgDeleted id ∘ Event.msgsChanged) = fun _ => false := rfl
  have hwebxdc : (Event.isMsgDeleted id ∘ fun e : Expired => Event.webxdcInstanceDeleted e.msgId) =
      fun _ => false := rfl
  rw [hchanged, hwebxdc, List.filter_false, List.filter_false, List.map_nil, List.map_nil,
    List.append_nil, List.append_nil]
  rfl

theorem announced_webxdcDeleted : (announced s (afterDeletion s now)).filter (Event.isWebxdcDeleted id) =
    (((selectExpiredMessages s now).filter fun e => e.msgId = id).filter
      fun e => e.viewtype = .webxdc).map fun e => Event.webxdcInstanceDeleted e.msgId := by
  rw [announced_eq, List.filter_append, List.filter_append, List.filter_map, List.filter_map,
    List.filter_map]
  have hdeleted : (Event.isWebxdcDeleted id ∘ fun e : Expired => Event.msgDeleted e.chatId e.msgId) =
      fun _ => false := rfl
  have hchanged : (Event.isWebxdcDeleted id ∘ Event.msgsChanged) = fun _ => false := rfl
  rw [hdeleted, hchanged, List.filter_false, List.filter_false, List.map_nil, List.map_nil,
    List.nil_append, List.nil_append, List.filter_comm]
  rfl

end

/-! ## once, or twice -/

/-- what the deletion is for: the messages that meet a rule are trashed and keep their Message-IDs,
all other rows stay, and each deleted message is announced by ONE event, and by one more if it was a
webxdc -/
def DeletedOnce (s : State) (now : I64) : Prop :=
  ∃ s', deleteExpiredMessages s now = .ok s' ∧
    (∀ id, (∀ m, s.msgs.row id = some m → ¬ Selected s now m) → s'.msgs.row id = s.msgs.row id) ∧
    ∀ id m, s.msgs.row id = some m → Selected s now m →
      (∃ m', s'.msgs.row id = some m' ∧ m'.chatId = DC_CHAT_ID_TRASH ∧
        m'.rfc724Mid = m.rfc724Mid ∧ m'.preRfc724Mid = m.preRfc724Mid) ∧
      (announced s s').filter (Event.isMsgDeleted id) = [.msgDeleted m.chatId id] ∧
      (announced s s').filter (Event.isWebxdcDeleted id) =
        if m.viewtype = .webxdc then [.webxdcInstanceDeleted id] else []

/-- **expired messages are deleted and announced once iff no message meets both rules, and no message
with a reserved id meets one** -/
theorem announced_once_iff (s : State) (now : I64) :
    DeletedOnce s now ↔ ∀ id m, s.msgs.row id = some m →
      ¬ (ephemeralExpired now m = true ∧ ageExpired s now m = true) ∧
      (ephemeralExpired now m = true ∨ ageExpired s now m = true → MsgId.lastSpecial < id) := by
  constructor
  · rintro ⟨s', hdelete, -, honce⟩ id m hrow
    obtain ⟨hids, rfl⟩ := deleteExpiredMessages_ok_iff.mp hdelete
    constructor
    · rintro ⟨htimer, hage⟩
      obtain ⟨-, hevents, -⟩ := honce id m hrow (selected_iff.mpr (.inl htimer))
      rw [announced_msgDeleted, selectExpired_of_id s now hrow, if_pos htimer, if_pos hage] at hevents
      cases hevents
    · intro hsel
      obtain ⟨e, he, rfl⟩ := exists_mem_select.mpr ⟨m, hrow, selected_iff.mpr hsel⟩
      exact hids e he
  · intro h
    have hids : ∀ e ∈ selectExpiredMessages s now, MsgId.lastSpecial < e.msgId := by
      intro e he
      obtain ⟨m, hrow, hsel⟩ := exists_mem_select.mp ⟨e, he, rfl⟩
      exact (h e.msgId m hrow).2 (selected_iff.mp hsel)
    refine ⟨afterDeletion s now, deleteExpiredMessages_ok_iff.mpr ⟨hids, rfl⟩,
      fun id => deleteExpired_other, ?_⟩
    intro id m hrow hsel
    have hone : (selectExpiredMessages s now).filter (fun e => e.msgId = id) = [expiredOf id m] := by
      rw [selectExpired_of_id s now hrow]
      rcases selected_iff.mp hsel with htimer | hage
      · have hage := fun hage => (h id m hrow).1 ⟨htimer, hage⟩
        rw [if_pos htimer, if_neg hage, List.append_nil]
      · have htimer := fun htimer => (h id m hrow).1 ⟨htimer, hage⟩
        rw [if_neg htimer, if_pos hage, List.nil_append]
    refine ⟨⟨trash m, deleteExpired_selected hrow hsel, rfl, rfl, rfl⟩, ?_, ?_⟩
    · rw [announced_msgDeleted, hone]
      rfl
    · rw [announced_webxdcDeleted, hone]
      by_cases hx : m.viewtype = .webxdc
      · simp only [List.filter_cons, List.filter_nil, expiredOf, hx, decide_true, if_true,
          List.map_cons, List.map_nil]
      · simp only [List.filter_cons, List.filter_nil, expiredOf, hx, decide_false, if_false,
          Bool.false_eq_true, List.map_nil]

def timedAndOld : State where
  msgs := (IdTable.emptyAfter 10).insert ⟨"a@b", "", ⟨1100, by decide⟩, 12, ⟨1100, by decide⟩,
    ⟨1150, by decide⟩, .webxdc, 0⟩
  locations := IdTable.empty
  deleteDeviceAfter := ⟨60, by decide⟩
  selfChatId := none
  deviceChatId := none
  events := []

/-- **the message meets both rules**: both events are emitted twice -/
theorem announced_twice :
    (∃ s', deleteExpiredMessages timedAndOld ⟨1200, by decide⟩ = .ok s' ∧
      announced timedAndOld s' = [.msgDeleted 12 11, .msgDeleted 12 11, .msgsChanged 12,
        .webxdcInstanceDeleted 11, .webxdcInstanceDeleted 11]) ∧
    ¬ DeletedOnce timedAndOld ⟨1200, by decide⟩ := by
  refine ⟨⟨_, rfl, by decide⟩, ?_⟩
  rintro ⟨s', hdelete, -, honce⟩
  obtain ⟨-, rfl⟩ := deleteExpiredMessages_ok_iff.mp hdelete
  obtain ⟨-, hevents, -⟩ := honce 11 _ rfl (.inl (by decide))
  revert hevents
  decide

end EpsilonChat.Ephemeral
