import EpsilonChat.Group.Members
import EpsilonChat.Lib.Join

/-!
# When the membership clock runs backwards

`update_chats_contacts_timestamps` never writes a time below the newest one its row knows of.  The
three writers of chat.rs do: `MAX(add_timestamp+1, ?)` is written over `remove_timestamp` and
`MAX(remove_timestamp, ?3)` over `add_timestamp`, without looking at the value that is overwritten.
A tombstone from the future of the given time becomes older, and with it the newest time of the row.

* `mergeAdd_clock`, `mergeRemove_clock`: the statements of receive_imf.rs keep the clock;
* `bumpRemove_clock_iff`, `bumpAdd_clock_iff`, `bumpRemove_addBack_clock_iff`: the updates of
  chat.rs keep it iff the column they overwrite is not newer;
* `clock_kept_iff`: the same for a whole call of any of the four writers, on any row.
-/

namespace EpsilonChat.Members
open Lib

/-! ## one row -/

theorem mergeAdd_clock (ts : Int) (r : Row) : r.clock ≤ ((r.mergeAdd ts).getD r).clock := by
  unfold Row.mergeAdd
  by_cases h : ts > r.addTimestamp ∧ ts ≥ r.removeTimestamp
  · rw [if_pos h]
    show max r.addTimestamp r.removeTimestamp ≤ max ts r.removeTimestamp
    omega
  · rw [if_neg h]
    exact le_rfl

theorem mergeRemove_clock (ts : Int) (r : Row) : r.clock ≤ ((r.mergeRemove ts).getD r).clock := by
  unfold Row.mergeRemove
  by_cases h : ts > r.removeTimestamp ∧ ts > r.addTimestamp
  · rw [if_pos h]
    show max r.addTimestamp r.removeTimestamp ≤ max r.addTimestamp ts
    omega
  · rw [if_neg h]
    exact le_rfl

theorem bumpRemove_clock_iff (timestamp : Int) (r : Row) :
    r.clock ≤ (r.bumpRemove timestamp).clock
      ↔ r.removeTimestamp ≤ max (r.addTimestamp + 1) timestamp := by
  simp only [Row.clock, Row.bumpRemove]
  omega

theorem bumpRemove_addBack_clock_iff (timestamp : Int) (r : Row) :
    r.clock ≤ (r.bumpRemove timestamp).addBack.clock
      ↔ r.removeTimestamp ≤ max (r.addTimestamp + 1) timestamp := by
  simp only [Row.clock, Row.bumpRemove, Row.addBack]
  omega

theorem bumpAdd_clock_iff (timestamp : Int) (r : Row) :
    r.clock ≤ (r.bumpAdd timestamp).clock ↔ r.addTimestamp ≤ max r.removeTimestamp timestamp := by
  simp only [Row.clock, Row.bumpAdd]
  omega

/-! ## the merge of a received member list -/

def ClockKept (k : ChatId × ContactId) (r : Row) (t : ChatsContacts) : Prop :=
  ∃ r', t k = some r' ∧ r.clock ≤ r'.clock

theorem ClockKept.upsert {k : ChatId × ContactId} {r : Row} {t : ChatsContacts}
    (h : ClockKept k r t) (k' : ChatId × ContactId) (new : Row) (upd : Row → Option Row)
    (hupd : ∀ r, r.clock ≤ ((upd r).getD r).clock) : ClockKept k r (upsert t k' new upd) := by
  obtain ⟨r', hr', hle⟩ := h
  by_cases e : k = k'
  · subst e
    exact ⟨_, upsert_of_some new upd hr', hle.trans (hupd r')⟩
  · exact ⟨r', by rw [upsert_of_ne new upd e, hr'], hle⟩

theorem addStatement_clockKept (chatId : ChatId) (ignoredId : Option ContactId)
    (k : ChatId × ContactId) (r : Row) (s : MergeState) (e : Option ContactId × Int)
    (h : ClockKept k r s.1) : ClockKept k r (addStatement chatId ignoredId s e).1 := by
  obtain ⟨_ | c, ts⟩ := e
  · exact h
  · show ClockKept k r (if some c = ignoredId then s else _).1
    by_cases e : some c = ignoredId
    · rw [if_pos e]
      exact h
    · rw [if_neg e]
      exact h.upsert _ _ _ (mergeAdd_clock ts)

theorem removeStatement_clockKept (chatId : ChatId) (k : ChatId × ContactId) (r : Row)
    (s : MergeState) (e : Option ContactId × Int) (h : ClockKept k r s.1) :
    ClockKept k r (removeStatement chatId s e).1 := by
  obtain ⟨_ | c, ts⟩ := e
  · exact h
  · exact h.upsert _ _ _ (mergeRemove_clock ts)

theorem updateChatsContactsTimestamps_clockKept (t : ChatsContacts) (chatId : ChatId)
    (ignoredId : Option ContactId) (toIds pastIds : List (Option ContactId)) (ts : List Int)
    (k : ChatId × ContactId) (r : Row) (h : t k = some r) :
    ClockKept k r (updateChatsContactsTimestamps t chatId ignoredId toIds pastIds ts).1 := by
  have h0 : ClockKept k r t := ⟨r, h, le_rfl⟩
  unfold updateChatsContactsTimestamps
  by_cases hl : ts.length ≠ toIds.length + pastIds.length
  · rw [if_pos hl]
    exact h0
  · rw [if_neg hl]
    have hadd : ClockKept k r ((toIds.zip (ts.take toIds.length)).foldl
        (addStatement chatId ignoredId) (t, false)).1 :=
      List.foldlRecOn _ (addStatement chatId ignoredId) (motive := fun s => ClockKept k r s.1) h0
        (fun s hs e _ => addStatement_clockKept chatId ignoredId k r s e hs)
    exact List.foldlRecOn _ (removeStatement chatId) (motive := fun s => ClockKept k r s.1) hadd
      (fun s hs e _ => removeStatement_clockKept chatId k r s e hs)

/-! ## any call on any row -/

/-- the column the call overwrites in the row `r` under `k` is not newer than what it writes -/
def MemberOp.NotNewer (k : ChatId × ContactId) (r : Row) : MemberOp → Prop
  | .updateTimestamps _ _ _ _ _ => True
  | .updateTable timestamp id _ =>
    k.1 = id → r.removeTimestamp ≤ max (r.addTimestamp + 1) timestamp
  | .addToTable timestamp chatId contactIds =>
    k.1 = chatId → k.2 ∈ contactIds → r.addTimestamp ≤ max r.removeTimestamp timestamp
  | .removeFromTable chatId contactId now =>
    k = (chatId, contactId) → r.removeTimestamp ≤ max (r.addTimestamp + 1) now

theorem clockKept_iff_of_eq {k : ChatId × ContactId} {r r' : Row} {t : ChatsContacts}
    (h : t k = some r') : ClockKept k r t ↔ r.clock ≤ r'.clock := by
  constructor
  · rintro ⟨r'', h'', hle⟩
    rw [h] at h''
    exact (Option.some.inj h'') ▸ hle
  · exact fun hle => ⟨r', h, hle⟩

theorem mem_map_mk_iff (chatId : ChatId) (ids : List ContactId) (k : ChatId × ContactId) :
    k ∈ ids.map (fun c => (chatId, c)) ↔ k.1 = chatId ∧ k.2 ∈ ids := by
  rw [List.mem_map]
  constructor
  · rintro ⟨c, hc, rfl⟩
    exact ⟨rfl, hc⟩
  · rintro ⟨h1, h2⟩
    exact ⟨k.2, h2, by rw [← h1]⟩

theorem updateChatContactsTable_row (t : ChatsContacts) (timestamp : Int) (id : ChatId)
    (contacts : List ContactId) (k : ChatId × ContactId) (r : Row) (h : t k = some r) :
    updateChatContactsTable t timestamp id contacts k
      = some (if k.1 = id then
          (if k.2 ∈ contacts then (r.bumpRemove timestamp).addBack else r.bumpRemove timestamp)
        else r) := by
  have h1 : bumpRemoveAll t timestamp id k
      = some (if k.1 = id then r.bumpRemove timestamp else r) := by
    unfold bumpRemoveAll
    rw [h]
    split <;> rfl
  have h2 := foldl_upsert (fun c : ContactId => ((id, c) : ChatId × ContactId))
    { addTimestamp := timestamp } Row.addBack (fun _ => rfl) contacts k _ _ h1
  rw [updateChatContactsTable, h2]
  by_cases e : k.1 = id
  · simp only [mem_map_mk_iff, e, true_and, if_true]
  · have e' : k ∉ contacts.map fun c => ((id, c) : ChatId × ContactId) := fun hk =>
      e ((mem_map_mk_iff id contacts k).mp hk).1
    rw [if_neg e', if_neg e, if_neg e]

theorem addToChatContactsTable_row (t : ChatsContacts) (timestamp : Int) (chatId : ChatId)
    (contactIds : List ContactId) (k : ChatId × ContactId) (r : Row) (h : t k = some r) :
    addToChatContactsTable t timestamp chatId contactIds k
      = some (if k.1 = chatId ∧ k.2 ∈ contactIds then r.bumpAdd timestamp else r) := by
  have h2 := foldl_upsert (fun c : ContactId => ((chatId, c) : ChatId × ContactId))
    { addTimestamp := timestamp } (Row.bumpAdd timestamp) (fun _ => rfl) contactIds k t r h
  rw [addToChatContactsTable, h2]
  simp only [mem_map_mk_iff]

/-- **A call keeps the newest time of a row iff the column it overwrites there is not newer.** -/
theorem clock_kept_iff (op : MemberOp) (t : ChatsContacts) (k : ChatId × ContactId) (r : Row)
    (h : t k = some r) :
    (∃ r', op.apply t k = some r' ∧ r.clock ≤ r'.clock) ↔ op.NotNewer k r := by
  show ClockKept k r (op.apply t) ↔ op.NotNewer k r
  cases op with
  | updateTimestamps chatId ignoredId toIds pastIds ts =>
    exact iff_of_true
      (updateChatsContactsTimestamps_clockKept t chatId ignoredId toIds pastIds ts k r h) trivial
  | updateTable timestamp id contacts =>
    show ClockKept k r (updateChatContactsTable t timestamp id contacts)
      ↔ (k.1 = id → r.removeTimestamp ≤ max (r.addTimestamp + 1) timestamp)
    rw [clockKept_iff_of_eq (updateChatContactsTable_row t timestamp id contacts k r h)]
    by_cases e : k.1 = id
    · by_cases hc : k.2 ∈ contacts
      · rw [if_pos e, if_pos hc, bumpRemove_addBack_clock_iff]
        exact ⟨fun h _ => h, fun h => h e⟩
      · rw [if_pos e, if_neg hc, bumpRemove_clock_iff]
        exact ⟨fun h _ => h, fun h => h e⟩
    · rw [if_neg e]
      exact iff_of_true le_rfl (fun h => absurd h e)
  | addToTable timestamp chatId contactIds =>
    show ClockKept k r (addToChatContactsTable t timestamp chatId contactIds)
      ↔ (k.1 = chatId → k.2 ∈ contactIds → r.addTimestamp ≤ max r.removeTimestamp timestamp)
    rw [clockKept_iff_of_eq (addToChatContactsTable_row t timestamp chatId contactIds k r h)]
    by_cases e : k.1 = chatId ∧ k.2 ∈ contactIds
    · rw [if_pos e, bumpAdd_clock_iff]
      exact ⟨fun h _ _ => h, fun h => h e.1 e.2⟩
    · rw [if_neg e]
      exact iff_of_true le_rfl (fun h1 h2 => absurd ⟨h1, h2⟩ e)
  | removeFromTable chatId contactId now =>
    show ClockKept k r (updateRow t (chatId, contactId) (Row.bumpRemove now))
      ↔ (k = (chatId, contactId) → r.removeTimestamp ≤ max (r.addTimestamp + 1) now)
    by_cases e : k = (chatId, contactId)
    · have h1 : updateRow t (chatId, contactId) (Row.bumpRemove now) k
          = some (r.bumpRemove now) := by
        rw [← e, updateRow_self, h]; rfl
      rw [clockKept_iff_of_eq h1, bumpRemove_clock_iff]
      exact ⟨fun h _ => h, fun h => h e⟩
    · have h1 : updateRow t (chatId, contactId) (Row.bumpRemove now) k = some r := by
        rw [updateRow_of_ne _ e, h]
      rw [clockKept_iff_of_eq h1]
      exact iff_of_true le_rfl (fun h => absurd h e)

def tombstoneAt1000 : ChatsContacts := fun k =>
  if k = (12, 10) then some { addTimestamp := 5, removeTimestamp := 1000 } else none

theorem clock_kept_removal :
    tombstoneAt1000 (12, 10) = some { addTimestamp := 5, removeTimestamp := 1000 } ∧
      ((∃ r', (MemberOp.removeFromTable 12 10 2000).apply tombstoneAt1000 (12, 10) = some r' ∧
          (1000 : Int) ≤ r'.clock)
        ↔ (MemberOp.removeFromTable 12 10 2000).NotNewer (12, 10)
            { addTimestamp := 5, removeTimestamp := 1000 }) :=
  ⟨rfl, clock_kept_iff (.removeFromTable 12 10 2000) tombstoneAt1000 (12, 10) _ rfl⟩

/-- A full rewrite of the member list at time 10 turns the tombstone of time 1000 into one of time
10, and a stale addition of time 500 then makes the removed contact a member again. -/
theorem clock_runs_backwards :
    clock tombstoneAt1000 12 10 = some 1000 ∧
      clock ((MemberOp.updateTable 10 12 []).apply tombstoneAt1000) 12 10 = some 10 ∧
      isMember ((MemberOp.updateTimestamps 12 none [some 10] [] [500]).apply
        ((MemberOp.updateTable 10 12 []).apply tombstoneAt1000)) 12 10 = true ∧
      isMember ((MemberOp.updateTimestamps 12 none [some 10] [] [500]).apply tombstoneAt1000)
        12 10 = false := by
  decide

end EpsilonChat.Members
