import EpsilonChat.Base.I64
import EpsilonChat.Base.Ids
import EpsilonChat.Lib.IdTable

/-!
# Storing received locations

`location::save` goes through the locations of a message.  A location of a stream is inserted unless
there is one of the same contact with the same timestamp; the query that looks for it does not name
the CHAT, although rows belong to chats.

* `Row`: a row of `locations`;
* `saveOne`, `save`: the body of the loop, and the function;
* `Inserted`: what is known after a part of the loop: the rows that were inserted so far;
* `Inserted.saveOne`: one turn;
* **`saved_iff`**: what a message says about a contact is in its chat after the call IFF no location
  of it was there before in OTHER chats only.
-/

set_option linter.dupNamespace false

namespace EpsilonChat.Location
open Lib

/-! ## the table -/

abbrev F64 := BitVec 64

structure Location where
  timestamp : I64
  latitude : F64
  longitude : F64
  accuracy : F64
  deriving DecidableEq

structure Row where
  timestamp : I64
  fromId : ContactId
  chatId : ChatId
  latitude : F64
  longitude : F64
  accuracy : F64
  independent : Bool
  deriving DecidableEq

abbrev Locations := IdTable Row

def isSpecial (chatId : ChatId) : Bool := chatId ≤ 9

/-- `WHERE timestamp=? AND from_id=?` -/
def sentAt (timestamp : I64) (contactId : ContactId) (r : Row) : Bool :=
  r.timestamp = timestamp && r.fromId = contactId

def sentAtIn (timestamp : I64) (contactId : ContactId) (chatId : ChatId) (r : Row) : Bool :=
  sentAt timestamp contactId r && r.chatId = chatId

/-! ## `save` -/

inductive SaveError where
  /-- "Invalid chat id" -/
  | invalidChatId
  /-- `u32::try_from(conn.last_insert_rowid())` -/
  | rowid (id : Nat)
  deriving DecidableEq, Repr

structure Loop where
  table : Locations
  newestTimestamp : I64 := I64.zero
  newestLocationId : Option Nat := none

section
variable (chatId : ChatId) (contactId : ContactId)

def newRow (independent : Bool) (location : Location) : Row where
  timestamp := location.timestamp
  fromId := contactId
  chatId := chatId
  latitude := location.latitude
  longitude := location.longitude
  accuracy := location.accuracy
  independent := independent

def saveOne (independent : Bool) (s : Loop) (location : Location) : Loop × Except SaveError Unit :=
  let found := s.table.ids (sentAt location.timestamp contactId)
  if independent || found.isEmpty then
    let rowid := s.table.seq + 1
    let s := { s with table := s.table.insert (newRow chatId contactId independent location) }
    if s.newestTimestamp < location.timestamp then
      let s := { s with newestTimestamp := location.timestamp }
      if rowid < 2 ^ 32 then ({ s with newestLocationId := some rowid }, .ok ())
      else (s, .error (.rowid rowid))
    else (s, .ok ())
  else (s, .ok ())

def saveAll (independent : Bool) (s : Loop) : List Location → Loop × Except SaveError Unit
  | [] => (s, .ok ())
  | location :: locations =>
    match saveOne chatId contactId independent s location with
    | (s', .ok ()) => saveAll independent s' locations
    | (s', .error e) => (s', .error e)

def save (t : Locations) (locations : List Location) (independent : Bool) :
    Locations × Except SaveError (Option Nat) :=
  if isSpecial chatId then (t, .error .invalidChatId)
  else
    match saveAll chatId contactId independent { table := t } locations with
    | (s, .ok ()) => (s.table, .ok s.newestLocationId)
    | (s, .error e) => (s.table, .error e)

end

/-! ## the loop, for the locations of a stream -/

structure Inserted (chatId : ChatId) (contactId : ContactId) (t : Locations)
    (seen : List Location) (s : Loop) (rows : List Row) : Prop where
  table : s.table = t.insertAll rows
  own : ∀ r ∈ rows, r.fromId = contactId ∧ r.chatId = chatId
  fresh : ∀ r ∈ rows, ¬ t.Any (sentAt r.timestamp contactId)
  distinct : (rows.map Row.timestamp).Nodup
  covered : ∀ l ∈ seen, t.Any (sentAt l.timestamp contactId) ∨ ∃ r ∈ rows, r.timestamp = l.timestamp
  bound : ∀ r ∈ rows, r.timestamp ≤ s.newestTimestamp
  newest : (rows = [] ∧ s.newestTimestamp = I64.zero ∧ s.newestLocationId = none) ∨
    ∃ i r, rows[i]? = some r ∧ s.newestLocationId = some (t.seq + 1 + i) ∧
      r.timestamp = s.newestTimestamp

section
variable {chatId : ChatId} {contactId : ContactId} {t : Locations} {seen : List Location}
  {s : Loop} {rows : List Row}

theorem Inserted.start : Inserted chatId contactId t [] { table := t } [] where
  table := rfl
  own := by intro r hr; cases hr
  fresh := by intro r hr; cases hr
  distinct := List.nodup_nil
  covered := by intro l hl; cases hl
  bound := by intro r hr; cases hr
  newest := .inl ⟨rfl, rfl, rfl⟩

theorem sentAt_iff {timestamp : I64} {r : Row} :
    sentAt timestamp contactId r ↔ r.timestamp = timestamp ∧ r.fromId = contactId := by
  rw [sentAt, Bool.and_eq_true, decide_eq_true_iff, decide_eq_true_iff]

theorem Inserted.found_iff (h : Inserted chatId contactId t seen s rows) (timestamp : I64) :
    s.table.Any (sentAt timestamp contactId) ↔
      t.Any (sentAt timestamp contactId) ∨ ∃ r ∈ rows, r.timestamp = timestamp := by
  rw [h.table, IdTable.any_insertAll]
  refine or_congr_right ⟨?_, ?_⟩
  · rintro ⟨r, hr, hsent⟩
    exact ⟨r, hr, (sentAt_iff.mp hsent).1⟩
  · rintro ⟨r, hr, e⟩
    exact ⟨r, hr, sentAt_iff.mpr ⟨e, (h.own r hr).1⟩⟩

theorem Inserted.skip (h : Inserted chatId contactId t seen s rows) {l : Location}
    (hfound : s.table.Any (sentAt l.timestamp contactId)) :
    Inserted chatId contactId t (seen ++ [l]) s rows where
  table := h.table
  own := h.own
  fresh := h.fresh
  distinct := h.distinct
  covered := List.forall_mem_append.mpr
    ⟨h.covered, List.forall_mem_singleton.mpr ((h.found_iff l.timestamp).mp hfound)⟩
  bound := h.bound
  newest := h.newest

theorem Inserted.insert (h : Inserted chatId contactId t seen s rows) {l : Location} {s' : Loop}
    (hfound : ¬ s.table.Any (sentAt l.timestamp contactId))
    (htable : s'.table = s.table.insert (newRow chatId contactId false l))
    (hvars : (s.newestTimestamp < l.timestamp ∧ s'.newestTimestamp = l.timestamp ∧
        s'.newestLocationId = some (s.table.seq + 1)) ∨
      (l.timestamp ≤ s.newestTimestamp ∧ rows ≠ [] ∧ s'.newestTimestamp = s.newestTimestamp ∧
        s'.newestLocationId = s.newestLocationId)) :
    Inserted chatId contactId t (seen ++ [l]) s' (rows ++ [newRow chatId contactId false l]) where
  table := by rw [htable, h.table, IdTable.insertAll_concat]
  own := List.forall_mem_append.mpr ⟨h.own, List.forall_mem_singleton.mpr ⟨rfl, rfl⟩⟩
  fresh := by
    rw [h.found_iff, not_or] at hfound
    exact List.forall_mem_append.mpr ⟨h.fresh, List.forall_mem_singleton.mpr hfound.1⟩
  distinct := by
    rw [h.found_iff, not_or] at hfound
    rw [List.map_append, List.map_singleton, ← List.concat_eq_append]
    refine h.distinct.concat fun hmem => ?_
    obtain ⟨r, hr, e⟩ := List.mem_map.mp hmem
    exact hfound.2 ⟨r, hr, e⟩
  covered := by
    refine List.forall_mem_append.mpr ⟨fun l' hl' => ?_, List.forall_mem_singleton.mpr ?_⟩
    · refine (h.covered l' hl').imp_right ?_
      rintro ⟨r, hr, e⟩
      exact ⟨r, List.mem_append_left _ hr, e⟩
    · exact .inr ⟨_, List.mem_append_right _ (List.mem_singleton_self _), rfl⟩
  bound := by
    have hboth : s.newestTimestamp ≤ s'.newestTimestamp ∧ l.timestamp ≤ s'.newestTimestamp := by
      rcases hvars with ⟨hlt, e, -⟩ | ⟨hle, -, e, -⟩
      · exact ⟨e ▸ hlt.le, e.ge⟩
      · exact ⟨e.ge, e ▸ hle⟩
    exact List.forall_mem_append.mpr
      ⟨fun r hr => (h.bound r hr).trans hboth.1, List.forall_mem_singleton.mpr hboth.2⟩
  newest := by
    right
    rcases hvars with ⟨-, hts, hid⟩ | ⟨-, hne, hts, hid⟩
    · refine ⟨rows.length, _, List.getElem?_concat_length, ?_, hts.symm⟩
      rw [hid, h.table, IdTable.insertAll_seq]
      congr 1
      omega
    · rcases h.newest with ⟨e, -⟩ | ⟨i, r, hr, hold, e⟩
      · exact absurd e hne
      · have hi : i < rows.length := (List.getElem?_eq_some_iff.mp hr).1
        exact ⟨i, r, (List.getElem?_append_left hi).trans hr, hid.trans hold, e.trans hts.symm⟩

theorem Inserted.saveOne (h : Inserted chatId contactId t seen s rows) {l : Location} {s' : Loop}
    (hpos : I64.zero < l.timestamp) (hrun : saveOne chatId contactId false s l = (s', .ok ())) :
    ∃ rows', Inserted chatId contactId t (seen ++ [l]) s' rows' := by
  unfold Location.saveOne at hrun
  dsimp only at hrun
  rw [Bool.false_or] at hrun
  split at hrun
  · next hempty =>
    have hfound := IdTable.isEmpty_ids_iff.mp hempty
    refine ⟨_, h.insert hfound ?_ ?_⟩
    · split at hrun
      · split at hrun
        · cases hrun
          rfl
        · cases hrun
      · cases hrun
        rfl
    · split at hrun
      · next hlt =>
        split at hrun
        · cases hrun
          exact .inl ⟨hlt, rfl, rfl⟩
        · cases hrun
      · next hlt =>
        cases hrun
        refine .inr ⟨not_lt.mp hlt, ?_, rfl, rfl⟩
        -- with nothing inserted yet the location is newer than time 0
        rintro rfl
        rcases h.newest with ⟨-, e, -⟩ | ⟨i, r, hr, -⟩
        · rw [e] at hlt
          exact hlt hpos
        · cases hr
  · next hempty =>
    cases hrun
    refine ⟨rows, h.skip ?_⟩
    by_contra hnone
    exact hempty (IdTable.isEmpty_ids_iff.mpr hnone)

theorem Inserted.saveAll {s' : Loop} (locations : List Location)
    (hpos : ∀ l ∈ locations, I64.zero < l.timestamp)
    (h : Inserted chatId contactId t seen s rows)
    (hrun : saveAll chatId contactId false s locations = (s', .ok ())) :
    ∃ rows', Inserted chatId contactId t (seen ++ locations) s' rows' := by
  induction locations generalizing s seen rows with
  | nil =>
    cases hrun
    exact ⟨rows, by rwa [List.append_nil]⟩
  | cons l locations ih =>
    rw [Location.saveAll] at hrun
    split at hrun
    · next s₁ hone =>
      obtain ⟨rows₁, h₁⟩ := h.saveOne (hpos l List.mem_cons_self) hone
      obtain ⟨rows', h'⟩ := ih (fun l' hl' => hpos l' (List.mem_cons_of_mem _ hl')) h₁ hrun
      rw [List.append_assoc] at h'
      exact ⟨rows', h'⟩
    · cases hrun

/-! ## what is stored -/

theorem Inserted.row_new (h : Inserted chatId contactId t seen s rows) {id : Nat} {r : Row}
    (hnone : t.row id = none) (hrow : s.table.row id = some r) : r ∈ rows := by
  rw [h.table, IdTable.insertAll_row] at hrow
  split at hrow
  · rw [hnone] at hrow
    cases hrow
  · exact List.mem_of_getElem? hrow

theorem Inserted.row_at (h : Inserted chatId contactId t seen s rows) {i : Nat} {r : Row}
    (hr : rows[i]? = some r) :
    t.row (t.seq + 1 + i) = none ∧ s.table.row (t.seq + 1 + i) = some r := by
  refine ⟨t.row_of_lt _ (by omega), ?_⟩
  rw [h.table, IdTable.insertAll_row_new, hr]

theorem Inserted.length_ids (h : Inserted chatId contactId t seen s rows) (timestamp : I64)
    (c : ContactId) (chat : ChatId) :
    (s.table.ids (sentAtIn timestamp c chat)).length ≤
      (t.ids (sentAtIn timestamp c chat)).length + 1 := by
  have hone : rows.countP (sentAtIn timestamp c chat) ≤ 1 := by
    calc rows.countP (sentAtIn timestamp c chat)
        ≤ rows.countP fun r => r.timestamp == timestamp := by
          refine List.countP_mono_left fun r _ hr => ?_
          rw [sentAtIn, Bool.and_eq_true, sentAt_iff] at hr
          exact beq_iff_eq.mpr hr.1.1
      _ = (rows.map Row.timestamp).count timestamp := by
          rw [List.count, List.countP_map]
          rfl
      _ ≤ 1 := List.nodup_iff_count_le_one.mp h.distinct timestamp
  rw [h.table, IdTable.length_ids_insertAll]
  omega

theorem Inserted.nothing_iff (h : Inserted chatId contactId t seen s rows) :
    s.newestLocationId = none ↔ s.table.row = t.row := by
  rcases h.newest with ⟨e, -, hid⟩ | ⟨i, r, hr, hid, -⟩
  · refine iff_of_true hid ?_
    rw [h.table, e]
    rfl
  · refine iff_of_false (by rw [hid]; exact Option.some_ne_none _) fun e => ?_
    obtain ⟨hold, hnew⟩ := h.row_at hr
    rw [e, hold] at hnew
    cases hnew

/-- each timestamp has a row in the chat, no triple has two rows more, and the returned id is that of
a newest one among the new rows, which are in the chat -/
def Stored (chatId : ChatId) (contactId : ContactId) (t t' : Locations) (locations : List Location)
    (newest : Option Nat) : Prop :=
  (∀ l ∈ locations, t'.Any (sentAtIn l.timestamp contactId chatId)) ∧
    (∀ timestamp c chat, (t'.ids (sentAtIn timestamp c chat)).length ≤
      (t.ids (sentAtIn timestamp c chat)).length + 1) ∧
    (newest = none ↔ t'.row = t.row) ∧
    ∀ id, newest = some id → ∃ r, t.row id = none ∧ t'.row id = some r ∧ r.chatId = chatId ∧
      ∀ id' r', t.row id' = none → t'.row id' = some r' → r'.timestamp ≤ r.timestamp

theorem Inserted.stored_iff {locations : List Location}
    (h : Inserted chatId contactId t locations s rows) :
    Stored chatId contactId t s.table locations s.newestLocationId ↔
      ∀ l ∈ locations, t.Any (sentAt l.timestamp contactId) →
        t.Any (sentAtIn l.timestamp contactId chatId) := by
  have hin : ∀ timestamp, s.table.Any (sentAtIn timestamp contactId chatId) ↔
      t.Any (sentAtIn timestamp contactId chatId) ∨ ∃ r ∈ rows, r.timestamp = timestamp := by
    intro timestamp
    rw [h.table, IdTable.any_insertAll]
    refine or_congr_right (exists_congr fun r => and_congr_right fun hr => ?_)
    rw [sentAtIn, Bool.and_eq_true, sentAt_iff, decide_eq_true_iff]
    exact ⟨fun e => e.1.1, fun e => ⟨⟨e, (h.own r hr).1⟩, (h.own r hr).2⟩⟩
  constructor
  · rintro ⟨hall, -⟩ l hl hbefore
    refine ((hin l.timestamp).mp (hall l hl)).resolve_right ?_
    rintro ⟨r, hr, e⟩
    exact h.fresh r hr (e ▸ hbefore)
  · intro hbefore
    refine ⟨fun l hl => (hin l.timestamp).mpr ((h.covered l hl).imp_left (hbefore l hl)),
      h.length_ids, h.nothing_iff, ?_⟩
    intro id hid
    rcases h.newest with ⟨-, -, hnone⟩ | ⟨i, r, hr, hsome, hts⟩
    · rw [hnone] at hid
      cases hid
    · obtain rfl := Option.some.inj (hsome.symm.trans hid)
      obtain ⟨hold, hnew⟩ := h.row_at hr
      refine ⟨r, hold, hnew, (h.own r (List.mem_of_getElem? hr)).2, ?_⟩
      intro id' r' hold' hnew'
      exact (h.bound r' (h.row_new hold' hnew')).trans hts.ge

theorem save_ok {locations : List Location} {independent : Bool} {t' : Locations}
    {newest : Option Nat} (h : save chatId contactId t locations independent = (t', .ok newest)) :
    ∃ s, saveAll chatId contactId independent { table := t } locations = (s, .ok ()) ∧
      t' = s.table ∧ newest = s.newestLocationId := by
  unfold save at h
  split at h
  · cases h
  · split at h
    · next s hrun =>
      cases h
      exact ⟨s, hrun, rfl, rfl⟩
    · cases h

end

/-- **After `save` the locations of a stream are in the chat they were sent to IFF none of their
timestamps was stored before for the contact in other chats only.** -/
theorem saved_iff (chatId : ChatId) (contactId : ContactId) (t t' : Locations)
    (locations : List Location) (newest : Option Nat)
    (hpos : ∀ l ∈ locations, I64.zero < l.timestamp)
    (h : save chatId contactId t locations false = (t', .ok newest)) :
    Stored chatId contactId t t' locations newest ↔
      ∀ l ∈ locations, t.Any (sentAt l.timestamp contactId) →
        t.Any (sentAtIn l.timestamp contactId chatId) := by
  obtain ⟨s, hrun, rfl, rfl⟩ := save_ok h
  obtain ⟨rows, hrows⟩ := Inserted.start.saveAll locations hpos hrun
  exact hrows.stored_iff

/-! ## one position, two chats -/

def position (timestamp : I64) : Location :=
  ⟨timestamp, 0x4048000000000000#64, 0x401F800000000000#64, 0#64⟩

def streamed : Locations := (save 12 11 IdTable.empty [position ⟨70, by decide⟩] false).1

/-- The same position comes in a message to chat 13: nothing is stored there. -/
theorem second_chat_empty :
    ∃ t', save 13 11 streamed [position ⟨70, by decide⟩] false = (t', .ok none) ∧
      ¬ t'.Any (fun r => r.chatId = 13) ∧
      ¬ Stored 13 11 streamed t' [position ⟨70, by decide⟩] none := by
  have hnone : ¬ streamed.Any fun r => r.chatId = 13 := by
    rw [← IdTable.isEmpty_ids_iff]
    decide +kernel
  refine ⟨streamed, rfl, hnone, fun h => ?_⟩
  obtain ⟨id, r, hr, hin⟩ := h.1 _ (List.mem_singleton_self _)
  rw [sentAtIn, Bool.and_eq_true] at hin
  exact hnone ⟨id, r, hr, hin.2⟩

/-- The position is sent again to chat 12, with a new one: both are there, the first one as before. -/
theorem saved_iff_same_chat :
    ∃ t', save 12 11 streamed [position ⟨70, by decide⟩, position ⟨80, by decide⟩] false
        = (t', .ok (some 2)) ∧
      Stored 12 11 streamed t' [position ⟨70, by decide⟩, position ⟨80, by decide⟩] (some 2) := by
  refine ⟨_, rfl, (saved_iff 12 11 streamed _ _ _ (by decide) rfl).mpr ?_⟩
  intro l hl hbefore
  rcases List.mem_pair.mp hl with rfl | rfl
  · exact ⟨1, _, rfl, by decide⟩
  · exact absurd hbefore (IdTable.isEmpty_ids_iff.mp (by decide +kernel))

end EpsilonChat.Location
