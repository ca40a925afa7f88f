import EpsilonChat.Base.Ids
import EpsilonChat.Lib.IdTable
import Mathlib

/-!
# Read receipts

`handle_mdn` records in `msgs_mdns` which contact has read which of our messages.  ONE row of an
outer join answers three questions: which message the receipt is about (the newest with that
Message-ID), whether this contact has read it before, and whether anybody has.

    ORDER BY msg_id DESC, mdn_contact=? DESC LIMIT 1

`mdn_contact` is NULL where nobody has read the message, a comparison with NULL is NULL, and SQLite
sorts NULL below 0 and 1 (`rank`).

* `joinRows`, `firstRow`: the join and the row it is about;
* `firstRow_isDup_iff`, `firstRow_hasMdns_iff`: what the row says is so for the whole table;
* `handleMdn_cases`: a call changes nothing, or it records a new reader;
* **`read_once`**: there is one row for a reader, only for our own messages, and `MsgRead` is
  emitted once for each message that was read.
-/

namespace EpsilonChat.HandleMdn
open Lib

structure MsgRow where
  rfc724Mid : String
  fromId : ContactId
  chatId : ChatId
  deriving DecidableEq, Repr

structure MdnRow where
  msgId : MsgId
  contactId : ContactId
  timestampSent : ℤ
  deriving DecidableEq, Repr

structure Store where
  msgs : IdTable MsgRow
  chats : ChatId → Bool

/-! ## the query -/

structure JoinRow where
  msgId : MsgId
  chatId : Option ChatId
  mdnContact : Option ContactId
  deriving DecidableEq, Repr

/-- `LEFT JOIN msgs_mdns mdns ON mdns.msg_id=m.id` -/
def readers (mdns : List MdnRow) (msgId : MsgId) : List (Option ContactId) :=
  let contacts := (mdns.filter fun r => r.msgId = msgId).map MdnRow.contactId
  if contacts.isEmpty then [none] else contacts.map some

def joinMsg (st : Store) (mdns : List MdnRow) (msgId : MsgId) : List JoinRow :=
  let chatId := (st.msgs.row msgId).bind fun m => if st.chats m.chatId then some m.chatId else none
  (readers mdns msgId).map fun contact => ⟨msgId, chatId, contact⟩

/-- `WHERE rfc724_mid=? AND from_id=1` -/
def joinRows (st : Store) (mdns : List MdnRow) (rfc724Mid : String) : List JoinRow :=
  (st.msgs.ids fun m => m.rfc724Mid = rfc724Mid ∧ m.fromId = ContactId.self).flatMap
    (joinMsg st mdns)

/-- the place of `mdn_contact=?` in the order of SQLite: NULL, 0, 1 -/
def rank (fromId : ContactId) : Option ContactId → ℕ
  | none => 0
  | some contact => if contact = fromId then 2 else 1

/-- `ORDER BY … LIMIT 1` -/
def firstRow (rows : List JoinRow) (fromId : ContactId) : Option JoinRow :=
  rows.argmax fun row => toLex (row.msgId, rank fromId row.mdnContact)

/-! ## the function -/

inductive Event where
  | msgRead (chatId : ChatId) (msgId : MsgId)
  | chatlistItemChanged (chatId : ChatId)
  | msgReadCountChanged (chatId : ChatId) (msgId : MsgId)
  deriving DecidableEq, Repr

structure MdnCall where
  fromId : ContactId
  rfc724Mid : String
  timestampSent : ℤ

/-- the last component says whether the call succeeds -/
def handleMdn (st : Store) (mdns : List MdnRow) (call : MdnCall) : List MdnRow × List Event × Bool :=
  if call.fromId = ContactId.self then (mdns, [], true)
  else
    match firstRow (joinRows st mdns call.rfc724Mid) call.fromId with
    | none => (mdns, [], true)
    | some row =>
      match row.chatId with
      | none => (mdns, [], false)
      | some chatId =>
        if row.mdnContact = some call.fromId then (mdns, [], true)
        else if row.msgId.isSpecial then (mdns, [], false)
        else
          (mdns ++ [⟨row.msgId, call.fromId, call.timestampSent⟩],
            (if row.mdnContact.isSome then []
              else [.msgRead chatId row.msgId, .chatlistItemChanged chatId]) ++
              [.msgReadCountChanged chatId row.msgId],
            true)

/-- `msgs_mdns` and all events after some calls -/
def runMdns (st : Store) (calls : List MdnCall) : List MdnRow × List Event :=
  calls.foldl (fun s call =>
    ((handleMdn st s.1 call).1, s.2 ++ (handleMdn st s.1 call).2.1)) ([], [])

/-! ## what the row says -/

section
variable {st : Store} {mdns : List MdnRow} {rfc724Mid : String} {fromId : ContactId} {row : JoinRow}

theorem mem_readers_some {msgId : MsgId} {contact : ContactId} :
    some contact ∈ readers mdns msgId ↔ ∃ r ∈ mdns, r.msgId = msgId ∧ r.contactId = contact := by
  unfold readers
  dsimp only
  split
  · next hempty =>
    rw [List.isEmpty_iff, List.map_eq_nil_iff, List.filter_eq_nil_iff] at hempty
    refine iff_of_false (by simp) ?_
    rintro ⟨r, hr, hmsg, -⟩
    exact hempty r hr (decide_eq_true hmsg)
  · simp [and_assoc]

theorem mem_readers_none {msgId : MsgId} :
    none ∈ readers mdns msgId ↔ ∀ r ∈ mdns, r.msgId ≠ msgId := by
  unfold readers
  dsimp only
  split
  · next hempty =>
    rw [List.isEmpty_iff, List.map_eq_nil_iff, List.filter_eq_nil_iff] at hempty
    refine iff_of_true List.mem_cons_self ?_
    intro r hr hmsg
    exact hempty r hr (decide_eq_true hmsg)
  · next hne =>
    refine iff_of_false (by simp) ?_
    intro h
    rw [List.isEmpty_iff, List.map_eq_nil_iff, List.filter_eq_nil_iff] at hne
    exact hne fun r hr hmsg => h r hr (of_decide_eq_true hmsg)

theorem mem_joinRows (h : row ∈ joinRows st mdns rfc724Mid) :
    (∃ m, st.msgs.row row.msgId = some m ∧ m.fromId = ContactId.self) ∧
      row.mdnContact ∈ readers mdns row.msgId ∧
      ∀ contact ∈ readers mdns row.msgId,
        ⟨row.msgId, row.chatId, contact⟩ ∈ joinRows st mdns rfc724Mid := by
  obtain ⟨msgId, hid, hrow⟩ := List.mem_flatMap.mp h
  obtain ⟨contact, hcontact, rfl⟩ := List.mem_map.mp hrow
  obtain ⟨m, hm, hp⟩ := IdTable.mem_ids.mp hid
  refine ⟨⟨m, hm, (of_decide_eq_true hp).2⟩, hcontact, ?_⟩
  intro contact' hcontact'
  exact List.mem_flatMap.mpr ⟨msgId, hid, List.mem_map.mpr ⟨contact', hcontact', rfl⟩⟩

theorem firstRow_mem (h : firstRow (joinRows st mdns rfc724Mid) fromId = some row) :
    row ∈ joinRows st mdns rfc724Mid := List.argmax_mem h

theorem firstRow_isDup_iff (h : firstRow (joinRows st mdns rfc724Mid) fromId = some row) :
    row.mdnContact = some fromId ↔ ∃ r ∈ mdns, r.msgId = row.msgId ∧ r.contactId = fromId := by
  obtain ⟨-, hreader, hall⟩ := mem_joinRows (firstRow_mem h)
  rw [← mem_readers_some]
  constructor
  · intro hdup
    rwa [hdup] at hreader
  · intro hmem
    -- the row of this contact is not behind the first one
    have hle := List.le_of_mem_argmax (hall (some fromId) hmem) h
    rw [Prod.Lex.toLex_le_toLex] at hle
    have hrank : rank fromId (some fromId) ≤ rank fromId row.mdnContact := by
      rcases hle with hlt | ⟨-, hle⟩
      · exact absurd hlt (Nat.lt_irrefl _)
      · exact hle
    have htwo : rank fromId (some fromId) = 2 := if_pos rfl
    rw [htwo] at hrank
    cases hcontact : row.mdnContact with
    | none =>
      rw [hcontact] at hrank
      exact absurd hrank (Nat.not_succ_le_zero 1)
    | some contact =>
      rw [hcontact, rank] at hrank
      split at hrank
      · next heq => rw [heq]
      · exact absurd hrank (by decide)

theorem firstRow_hasMdns_iff (h : firstRow (joinRows st mdns rfc724Mid) fromId = some row) :
    row.mdnContact.isSome ↔ ∃ r ∈ mdns, r.msgId = row.msgId := by
  obtain ⟨-, hreader, -⟩ := mem_joinRows (firstRow_mem h)
  cases hcontact : row.mdnContact with
  | none =>
    rw [hcontact, mem_readers_none] at hreader
    refine iff_of_false Bool.false_ne_true ?_
    rintro ⟨r, hr, hmsg⟩
    exact hreader r hr hmsg
  | some contact =>
    rw [hcontact, mem_readers_some] at hreader
    obtain ⟨r, hr, hmsg, -⟩ := hreader
    exact iff_of_true rfl ⟨r, hr, hmsg⟩

end

/-! ## one call -/

def Event.isMsgRead (msgId : MsgId) : Event → Bool
  | .msgRead _ msgId' => msgId' = msgId
  | _ => false

/-- a call changes nothing, or it records a new reader of a message of ours and says so if it is
the first one -/
theorem handleMdn_cases (st : Store) (mdns : List MdnRow) (call : MdnCall) :
    ((handleMdn st mdns call).1 = mdns ∧ (handleMdn st mdns call).2.1 = []) ∨
      ∃ msgId chatId, (∃ m, st.msgs.row msgId = some m ∧ m.fromId = ContactId.self) ∧
        (¬ ∃ r ∈ mdns, r.msgId = msgId ∧ r.contactId = call.fromId) ∧
        (handleMdn st mdns call).1 = mdns ++ [⟨msgId, call.fromId, call.timestampSent⟩] ∧
        (handleMdn st mdns call).2.1 =
          (if ∃ r ∈ mdns, r.msgId = msgId then []
            else [.msgRead chatId msgId, .chatlistItemChanged chatId]) ++
            [.msgReadCountChanged chatId msgId] := by
  unfold handleMdn
  split
  · exact .inl ⟨rfl, rfl⟩
  · split
    · exact .inl ⟨rfl, rfl⟩
    · next row hrow =>
      split
      · exact .inl ⟨rfl, rfl⟩
      · next chatId hchat =>
        split
        · exact .inl ⟨rfl, rfl⟩
        · next hdup =>
          split
          · exact .inl ⟨rfl, rfl⟩
          refine .inr ⟨row.msgId, chatId, (mem_joinRows (firstRow_mem hrow)).1, ?_, rfl, ?_⟩
          · rwa [firstRow_isDup_iff hrow] at hdup
          · simp only [firstRow_hasMdns_iff hrow]

/-! ## runs -/

structure ReadOnce (st : Store) (mdns : List MdnRow) (events : List Event) : Prop where
  nodup : (mdns.map fun r => (r.msgId, r.contactId)).Nodup
  own : ∀ r ∈ mdns, ∃ m, st.msgs.row r.msgId = some m ∧ m.fromId = ContactId.self
  /-- one `MsgRead` for a message that has rows, none for another -/
  once : ∀ msgId,
    events.countP (Event.isMsgRead msgId) = if ∃ r ∈ mdns, r.msgId = msgId then 1 else 0

theorem ReadOnce.step {st : Store} {mdns : List MdnRow} {events : List Event}
    (h : ReadOnce st mdns events) (call : MdnCall) :
    ReadOnce st (handleMdn st mdns call).1 (events ++ (handleMdn st mdns call).2.1) := by
  rcases handleMdn_cases st mdns call with
    ⟨hmdns, hevents⟩ | ⟨msgId, chatId, hown, hnew, hmdns, hevents⟩
  · rw [hmdns, hevents, List.append_nil]
    exact h
  · rw [hmdns, hevents]
    constructor
    case nodup =>
      rw [List.map_append, List.map_singleton, List.nodup_append]
      refine ⟨h.nodup, List.nodup_singleton _, ?_⟩
      rintro ⟨msgId', contact⟩ hmem pair hpair heq
      obtain ⟨r, hr, hr'⟩ := List.mem_map.mp hmem
      rw [List.mem_singleton.mp hpair] at heq
      rw [heq] at hr'
      exact hnew ⟨r, hr, congrArg Prod.fst hr', congrArg Prod.snd hr'⟩
    case own => exact List.forall_mem_append.mpr ⟨h.own, List.forall_mem_singleton.mpr hown⟩
    case once =>
      intro msgId'
      have hmem : (∃ r ∈ mdns ++ [⟨msgId, call.fromId, call.timestampSent⟩], r.msgId = msgId') ↔
          (∃ r ∈ mdns, r.msgId = msgId') ∨ msgId = msgId' := by
        simp [or_and_right, exists_or]
      rw [List.countP_append, h.once msgId']
      simp only [hmem]
      by_cases hsame : msgId = msgId'
      · subst hsame
        by_cases hread : ∃ r ∈ mdns, r.msgId = msgId
        · simp [hread, Event.isMsgRead]
        · simp [hread, Event.isMsgRead]
      · by_cases hread : ∃ r ∈ mdns, r.msgId = msgId <;> simp [hread, hsame, Event.isMsgRead]

/-- **receipts are recorded once per reader** -/
theorem read_once (st : Store) (calls : List MdnCall) :
    ReadOnce st (runMdns st calls).1 (runMdns st calls).2 := by
  have hempty : ReadOnce st [] [] := ⟨.nil, nofun, fun _ => (if_neg (by simp)).symm⟩
  refine List.foldlRecOn calls _ (motive := fun s : List MdnRow × List Event => ReadOnce st s.1 s.2)
    hempty ?_
  intro s hs call _
  exact hs.step call

def twice : Store where
  msgs := ((IdTable.emptyAfter 9).insert ⟨"a@x.org", ContactId.self, 12⟩).insert
    ⟨"a@x.org", ContactId.self, 12⟩
  chats _ := true

/-- three receipts from two contacts: the second message is read, once -/
theorem read_once_twice :
    (runMdns twice [⟨13, "a@x.org", 40⟩, ⟨14, "a@x.org", 41⟩, ⟨13, "a@x.org", 42⟩]).2.countP
      (Event.isMsgRead 11) = 1 := by
  rw [(read_once twice [⟨13, "a@x.org", 40⟩, ⟨14, "a@x.org", 41⟩, ⟨13, "a@x.org", 42⟩]).once]
  decide

end EpsilonChat.HandleMdn
