import Mathlib
import EpsilonChat.Base.Ids
import EpsilonChat.Lib.IdTable
import EpsilonChat.Lib.Join

/-!
# The queue of webxdc status updates

A call of `send_webxdc_status_update` on a sent instance makes two statements: it inserts the update
into `msgs_status_updates`, which gives the serial, and then puts the serial into the row of the
instance in `smtp_status_updates`, a range of serials that are still to be sent.
`flush_status_updates` takes a row, renders the updates of its range into a message, sends it and
removes the serials it sent from the range.  All these statements may interleave.

* `renderRows`: the updates that go into one message, up to the size limit;
* `State.step`: one statement of a call or of the flush;
* `Inv`: every serial is waiting for its second statement, or rendered, or in the range of its
  instance; what the flush has read is still good when it uses it;
* **`updates_not_lost`**: when every second statement finds no serial beyond its own in the range,
  nothing is lost; two calls that overtake each other lose BOTH updates (`overtaken`).
-/

namespace EpsilonChat.Webxdc

open Lib

/-! ## rendering -/

def STATUS_UPDATE_SIZE_MAX : ℕ := 100 <<< 10

def u32Max : ℕ := 2 ^ 32 - 1

/-- the JSON text of an update; `serde_json` writes an object -/
structure UpdateItem where
  json : String
  ne_empty : json ≠ ""

structure Update where
  msgId : MsgId
  item : UpdateItem

/-- the loop over the rows: the text so far and the rows in it; the serial that did not fit -/
def renderRows (sizeMax : ℕ) : String → List (ℕ × UpdateItem) → List (ℕ × UpdateItem) →
    String × List (ℕ × UpdateItem) × Option ℕ
  | json, included, [] => (json, included, none)
  | json, included, (id, item) :: rows =>
    if json ≠ "" ∧ json.utf8ByteSize + item.json.utf8ByteSize ≥ sizeMax then
      (json, included, some id)
    else
      renderRows sizeMax (if json = "" then item.json else json ++ ",\n" ++ item.json)
        (included ++ [(id, item)]) rows

/-- `SELECT id, update_item … WHERE msg_id=? AND id>=? AND id<=? ORDER BY id` -/
def selectUpdates (updates : IdTable Update) (msgId : MsgId) (first last : ℕ) :
    List (ℕ × UpdateItem) :=
  ((updates.ids fun u => u.msgId = msgId).filter fun id => first ≤ id ∧ id ≤ last).filterMap
    fun id => (updates.row id).map fun u => (id, u.item)

structure Outgoing where
  instanceId : MsgId
  rows : List (ℕ × UpdateItem)
  json : String

def objectJson (json : String) : String := "\x7b\"updates\":[" ++ json ++ "]\x7d"

/-- `render_webxdc_status_update_object`: the message, if there is something to send, and the first
serial that is not in it -/
def renderWebxdcStatusUpdateObject (updates : IdTable Update) (msgId : MsgId) (first last : ℕ) :
    Option Outgoing × ℕ :=
  let (json, included, cut) :=
    renderRows STATUS_UPDATE_SIZE_MAX "" [] (selectUpdates updates msgId first last)
  (if json = "" then none else some ⟨msgId, included, objectJson json⟩,
    cut.getD (min (last + 1) u32Max))

/-! ## the statements -/

structure Range where
  first : ℕ
  last : ℕ
  deriving DecidableEq

inductive Flush where
  | idle
  | got (msgId : MsgId) (first last : ℕ)
  | rendered (msgId : MsgId) (first firstNew : ℕ) (message : Option Outgoing)
  | sent (msgId : MsgId) (first firstNew : ℕ)
  /-- the `DELETE` of `smtp_status_update_pop_serials` found no row -/
  | kept (msgId : MsgId) (first firstNew : ℕ)

structure State where
  updates : IdTable Update
  queue : MsgId → Option Range
  flush : Flush
  /-- the calls that have their serial and are not yet in the queue -/
  waiting : List (MsgId × ℕ)
  obtained : List (MsgId × ℕ)
  outgoing : List Outgoing

def start (updates : IdTable Update) : State := ⟨updates, fun _ => none, .idle, [], [], []⟩

inductive Step where
  /-- `write_status_update_inner` of a call -/
  | insert (msgId : MsgId) (item : UpdateItem)
  /-- the second statement of the call that has this serial -/
  | upsert (msgId : MsgId) (serial : ℕ)
  /-- `smtp_status_update_get`: `LIMIT 1` may give any row -/
  | get (msgId : MsgId)
  | render
  | send
  | popDelete
  | popUpdate
  | fail

/-- a serial beyond `u32` is an error, and the transaction is rolled back -/
def State.insert (s : State) (msgId : MsgId) (item : UpdateItem) : State :=
  if s.updates.seq + 1 ≤ u32Max then
    { s with
      updates := s.updates.insert ⟨msgId, item⟩
      waiting := s.waiting ++ [(msgId, s.updates.seq + 1)]
      obtained := s.obtained ++ [(msgId, s.updates.seq + 1)] }
  else s

def State.upsert (s : State) (msgId : MsgId) (serial : ℕ) : State :=
  if (msgId, serial) ∈ s.waiting then
    { s with
      waiting := s.waiting.erase (msgId, serial)
      queue := Lib.upsert s.queue msgId ⟨serial, serial⟩ fun row => some { row with last := serial } }
  else s

def State.get (s : State) (msgId : MsgId) : State :=
  match s.flush, s.queue msgId with
  | .idle, some row => { s with flush := .got msgId row.first row.last }
  | _, _ => s

def State.render (s : State) : State :=
  match s.flush with
  | .got msgId first last =>
    let (message, firstNew) := renderWebxdcStatusUpdateObject s.updates msgId (max first 1) last
    { s with flush := .rendered msgId first firstNew message }
  | _ => s

def State.send (s : State) : State :=
  match s.flush with
  | .rendered msgId first firstNew message =>
    { s with outgoing := s.outgoing ++ message.toList, flush := .sent msgId first firstNew }
  | _ => s

def State.popDelete (s : State) : State :=
  match s.flush with
  | .sent msgId first firstNew =>
    if (s.queue msgId).any fun row => row.first = first ∧ row.last < firstNew then
      { s with queue := Function.update s.queue msgId none, flush := .idle }
    else { s with flush := .kept msgId first firstNew }
  | _ => s

def State.popUpdate (s : State) : State :=
  match s.flush with
  | .kept msgId first firstNew =>
    { s with
      queue := updateRow s.queue msgId fun row =>
        if row.first = first then { row with first := firstNew } else row
      flush := .idle }
  | _ => s

def State.step (s : State) : Step → State
  | .insert msgId item => s.insert msgId item
  | .upsert msgId serial => s.upsert msgId serial
  | .get msgId => s.get msgId
  | .render => s.render
  | .send => s.send
  | .popDelete => s.popDelete
  | .popUpdate => s.popUpdate
  | .fail => { s with flush := .idle }

/-- the second statement of a call does not move the end of a range back -/
def InOrder (s : State) : Step → Prop
  | .upsert msgId serial => ∀ row, s.queue msgId = some row → row.last ≤ serial
  | _ => True

def text (rows : List (ℕ × UpdateItem)) : String :=
  String.intercalate ",\n" (rows.map fun row => row.2.json)

def Holds (updates : IdTable Update) (o : Outgoing) (msgId : MsgId) (serial : ℕ) : Prop :=
  o.instanceId = msgId ∧ o.json = objectJson (text o.rows) ∧
    ∃ item, updates.row serial = some ⟨msgId, item⟩ ∧ (serial, item) ∈ o.rows

def Sent (s : State) (msgId : MsgId) (serial : ℕ) : Prop :=
  ∃ o ∈ s.outgoing, Holds s.updates o msgId serial

/-- all calls returned, and the flush found the queue empty -/
def Finished (s : State) : Prop := s.waiting = [] ∧ s.flush = .idle ∧ ∀ msgId, s.queue msgId = none

/-! ## what is rendered -/

theorem text_eq_empty_iff {rows : List (ℕ × UpdateItem)} : text rows = "" ↔ rows = [] := by
  constructor
  · intro h
    rcases rows with _ | ⟨row, _ | ⟨row', rows⟩⟩
    · rfl
    · rw [text, List.map_singleton, String.intercalate_singleton] at h
      exact absurd h row.2.ne_empty
    · rw [text, List.map_cons, List.map_cons, String.intercalate_cons_cons, String.append_assoc,
        String.append_eq_empty_iff] at h
      exact absurd h.1 row.2.ne_empty
  · rintro rfl
    rfl

theorem text_concat (rows : List (ℕ × UpdateItem)) (id : ℕ) (item : UpdateItem) :
    text (rows ++ [(id, item)]) =
      if text rows = "" then item.json else text rows ++ ",\n" ++ item.json := by
  cases rows with
  | nil => rfl
  | cons row rows =>
    rw [if_neg (mt text_eq_empty_iff.mp (List.cons_ne_nil row rows)), text, List.map_append,
      String.intercalate_append_of_ne_nil (by simp) (by simp), List.map_singleton,
      String.intercalate_singleton, text]

theorem renderRows_eq (sizeMax : ℕ) (included rows : List (ℕ × UpdateItem)) :
    ∃ taken rest, rows = taken ++ rest ∧
      renderRows sizeMax (text included) included rows =
        (text (included ++ taken), included ++ taken, rest.head?.map Prod.fst) := by
  induction rows generalizing included with
  | nil => exact ⟨[], [], rfl, by rw [List.append_nil]; rfl⟩
  | cons row rows ih =>
    obtain ⟨id, item⟩ := row
    rw [renderRows]
    by_cases hcut : text included ≠ "" ∧
        (text included).utf8ByteSize + item.json.utf8ByteSize ≥ sizeMax
    · refine ⟨[], (id, item) :: rows, rfl, ?_⟩
      rw [if_pos hcut, List.append_nil]
      rfl
    · obtain ⟨taken, rest, hrows, hrender⟩ := ih (included ++ [(id, item)])
      refine ⟨(id, item) :: taken, rest, by rw [hrows, List.cons_append], ?_⟩
      rw [if_neg hcut, ← text_concat, hrender, List.append_assoc, List.singleton_append]

section
variable {updates : IdTable Update} {msgId : MsgId} {first last id : ℕ} {item : UpdateItem}

theorem mem_selectUpdates : (id, item) ∈ selectUpdates updates msgId first last ↔
    updates.row id = some ⟨msgId, item⟩ ∧ first ≤ id ∧ id ≤ last := by
  constructor
  · intro h
    obtain ⟨id', hid', hmap⟩ := List.mem_filterMap.mp h
    obtain ⟨u, hrow, heq⟩ := Option.map_eq_some_iff.mp hmap
    cases heq
    obtain ⟨hids, hrange⟩ := List.mem_filter.mp hid'
    obtain ⟨u', hrow', hmsg⟩ := IdTable.mem_ids.mp hids
    rw [hrow] at hrow'
    cases hrow'
    have hm : u.msgId = msgId := of_decide_eq_true hmsg
    exact ⟨hm ▸ hrow, of_decide_eq_true hrange⟩
  · rintro ⟨hrow, hrange⟩
    refine List.mem_filterMap.mpr ⟨id, List.mem_filter.mpr ⟨?_, decide_eq_true hrange⟩, ?_⟩
    · exact IdTable.mem_ids.mpr ⟨_, hrow, decide_eq_true rfl⟩
    · rw [hrow]
      rfl

theorem selectUpdates_pairwise :
    (selectUpdates updates msgId first last).Pairwise fun a b => a.1 < b.1 := by
  have hids : (updates.ids fun u => u.msgId = msgId).Pairwise (· < ·) :=
    List.Pairwise.filter _ List.pairwise_lt_range
  refine List.Pairwise.filterMap _ ?_ (hids.filter _)
  intro a b hlt x hx y hy
  obtain ⟨_, _, rfl⟩ := Option.map_eq_some_iff.mp hx
  obtain ⟨_, _, rfl⟩ := Option.map_eq_some_iff.mp hy
  exact hlt

theorem render_holds (hrow : updates.row id = some ⟨msgId, item⟩) (hfirst : first ≤ id)
    (hlast : id ≤ last)
    (hnew : id < (renderWebxdcStatusUpdateObject updates msgId first last).2) :
    ∃ o, (renderWebxdcStatusUpdateObject updates msgId first last).1 = some o ∧
      Holds updates o msgId id := by
  have hmem : (id, item) ∈ selectUpdates updates msgId first last :=
    mem_selectUpdates.mpr ⟨hrow, hfirst, hlast⟩
  have hsorted : (selectUpdates updates msgId first last).Pairwise fun a b => a.1 < b.1 :=
    selectUpdates_pairwise
  obtain ⟨taken, rest, hrows, hrender⟩ :=
    renderRows_eq STATUS_UPDATE_SIZE_MAX [] (selectUpdates updates msgId first last)
  rw [List.nil_append, show text [] = "" from rfl] at hrender
  unfold renderWebxdcStatusUpdateObject at hnew ⊢
  rw [hrender] at hnew ⊢
  have htaken : (id, item) ∈ taken := by
    rw [hrows] at hmem hsorted
    rcases List.mem_append.mp hmem with h | hrest
    · exact h
    · -- the first row that was left out has the smallest serial of those left out
      cases rest with
      | nil => cases hrest
      | cons row rest =>
        have hlt : id < row.1 := hnew
        rcases List.mem_cons.mp hrest with heq | htail
        · rw [← heq] at hlt
          exact absurd hlt (Nat.lt_irrefl id)
        · have hrow' := (List.pairwise_cons.mp (List.pairwise_append.mp hsorted).2.1).1 _ htail
          omega
  have hne : text taken ≠ "" := fun h => List.ne_nil_of_mem htaken (text_eq_empty_iff.mp h)
  exact ⟨⟨msgId, taken, objectJson (text taken)⟩, if_neg hne, rfl, rfl, item, hrow, htaken⟩

theorem render_firstNew_le :
    (renderWebxdcStatusUpdateObject updates msgId first last).2 ≤ last + 1 := by
  obtain ⟨taken, rest, hrows, hrender⟩ :=
    renderRows_eq STATUS_UPDATE_SIZE_MAX [] (selectUpdates updates msgId first last)
  rw [List.nil_append, show text [] = "" from rfl] at hrender
  unfold renderWebxdcStatusUpdateObject
  rw [hrender]
  cases rest with
  | nil => exact Nat.min_le_left _ _
  | cons row rest =>
    have hmem : (row.1, row.2) ∈ selectUpdates updates msgId first last := by
      rw [hrows]
      exact List.mem_append_right _ List.mem_cons_self
    have hle := (mem_selectUpdates.mp hmem).2.2
    show row.1 ≤ last + 1
    omega

end

/-! ## the invariant -/

def Queued (s : State) (msgId : MsgId) (serial : ℕ) : Prop :=
  ∃ row, s.queue msgId = some row ∧ row.first ≤ serial ∧ serial ≤ row.last

/-- the row that the flush took starts where it started and ends at `last` or later, and `P` holds
for the serials before the new start -/
structure Fresh (s : State) (msgId : MsgId) (first last firstNew : ℕ) (P : ℕ → Prop) : Prop where
  row : ∃ row, s.queue msgId = some row ∧ row.first = first ∧ last ≤ row.last
  new : firstNew ≤ s.updates.seq + 1
  all : ∀ n, (msgId, n) ∈ s.obtained → first ≤ n → n < firstNew → P n

/-- what the flush has read is still good -/
def FlushInv (s : State) : Flush → Prop
  | .idle => True
  | .got msgId first last => Fresh s msgId first last 0 fun _ => True
  | .rendered msgId first firstNew message =>
    Fresh s msgId first 0 firstNew fun n => ∃ o, message = some o ∧ Holds s.updates o msgId n
  | .sent msgId first firstNew => Fresh s msgId first 0 firstNew (Sent s msgId)
  | .kept msgId first firstNew => Fresh s msgId first firstNew firstNew (Sent s msgId)

structure Inv (s : State) : Prop where
  stored : ∀ msgId n, (msgId, n) ∈ s.obtained →
    1 ≤ n ∧ ∃ item, s.updates.row n = some ⟨msgId, item⟩
  waiting : ∀ call ∈ s.waiting, call ∈ s.obtained
  range : ∀ msgId row, s.queue msgId = some row →
    row.first ≤ row.last ∧ row.last ≤ s.updates.seq
  accounted : ∀ msgId n, (msgId, n) ∈ s.obtained →
    (msgId, n) ∈ s.waiting ∨ Sent s msgId n ∨ Queued s msgId n
  flush : FlushInv s s.flush

theorem inv_start (updates : IdTable Update) : Inv (start updates) where
  stored := fun _ _ h => absurd h List.not_mem_nil
  waiting := fun _ h => absurd h List.not_mem_nil
  range := fun _ row h => absurd h.symm (Option.some_ne_none row)
  accounted := fun _ _ h => absurd h List.not_mem_nil
  flush := trivial

/-- a step of a call, seen from the flush: new serials are beyond the old ones, ranges only grow
at their end -/
structure Ext (s s' : State) : Prop where
  rows : ∀ id u, s.updates.row id = some u → s'.updates.row id = some u
  seq : s.updates.seq ≤ s'.updates.seq
  obtained : ∀ msgId n, (msgId, n) ∈ s'.obtained → (msgId, n) ∈ s.obtained ∨ s.updates.seq < n
  outgoing : s'.outgoing = s.outgoing
  queue : ∀ msgId row, s.queue msgId = some row →
    ∃ row', s'.queue msgId = some row' ∧ row'.first = row.first ∧ row.last ≤ row'.last

section
variable {s s' : State} {msgId : MsgId} {n : ℕ}

theorem Holds.mono {updates updates' : IdTable Update} {o : Outgoing}
    (hrows : ∀ id u, updates.row id = some u → updates'.row id = some u)
    (h : Holds updates o msgId n) : Holds updates' o msgId n := by
  obtain ⟨hid, hjson, item, hrow, hmem⟩ := h
  exact ⟨hid, hjson, item, hrows n _ hrow, hmem⟩

theorem Ext.sent (e : Ext s s') (h : Sent s msgId n) : Sent s' msgId n := by
  obtain ⟨o, ho, hholds⟩ := h
  exact ⟨o, e.outgoing ▸ ho, hholds.mono e.rows⟩

theorem Ext.queued (e : Ext s s') (h : Queued s msgId n) : Queued s' msgId n := by
  obtain ⟨row, hrow, hfirst, hlast⟩ := h
  obtain ⟨row', hrow', hfirst', hlast'⟩ := e.queue msgId row hrow
  exact ⟨row', hrow', by omega, by omega⟩

theorem Ext.fresh (e : Ext s s') {first last firstNew : ℕ} {P P' : ℕ → Prop}
    (hP : ∀ n, P n → P' n) (h : Fresh s msgId first last firstNew P) :
    Fresh s' msgId first last firstNew P' := by
  obtain ⟨⟨row, hrow, hfirst, hlast⟩, hnew, hall⟩ := h
  obtain ⟨row', hrow', hfirst', hlast'⟩ := e.queue msgId row hrow
  refine ⟨⟨row', hrow', hfirst'.trans hfirst, hlast.trans hlast'⟩,
    hnew.trans (Nat.succ_le_succ e.seq), fun n hn hle hlt => ?_⟩
  rcases e.obtained msgId n hn with hold | hgt
  · exact hP n (hall n hold hle hlt)
  · omega

theorem Ext.flushInv (e : Ext s s') {flush : Flush} (h : FlushInv s flush) :
    FlushInv s' flush := by
  cases flush with
  | idle => trivial
  | got m first last => exact e.fresh (fun _ h => h) h
  | rendered m first firstNew message =>
    exact e.fresh (fun n ⟨o, ho, hholds⟩ => ⟨o, ho, hholds.mono e.rows⟩) h
  | sent m first firstNew => exact e.fresh (fun n hsent => e.sent hsent) h
  | kept m first firstNew => exact e.fresh (fun n hsent => e.sent hsent) h

/-! ## steps of the calls -/

theorem inv_insert (inv : Inv s) (msgId : MsgId) (item : UpdateItem) :
    Inv (s.insert msgId item) := by
  unfold State.insert
  by_cases hu32 : s.updates.seq + 1 ≤ u32Max
  case neg =>
    rw [if_neg hu32]
    exact inv
  case pos =>
    rw [if_pos hu32]
    have hext : Ext s { s with
        updates := s.updates.insert ⟨msgId, item⟩
        waiting := s.waiting ++ [(msgId, s.updates.seq + 1)]
        obtained := s.obtained ++ [(msgId, s.updates.seq + 1)] } := by
      refine ⟨fun id u hrow => IdTable.insert_row_of_some _ hrow, Nat.le_succ _, ?_, rfl, ?_⟩
      · intro m n hn
        rcases List.mem_append.mp hn with hold | hnew
        · exact .inl hold
        · cases List.mem_singleton.mp hnew
          exact .inr (Nat.lt_succ_self _)
      · exact fun m row hrow => ⟨row, hrow, rfl, le_rfl⟩
    constructor
    case stored =>
      intro m n hn
      rcases List.mem_append.mp hn with hold | hnew
      · obtain ⟨hpos, item', hrow⟩ := inv.stored m n hold
        exact ⟨hpos, item', hext.rows n _ hrow⟩
      · cases List.mem_singleton.mp hnew
        exact ⟨Nat.succ_pos _, item, IdTable.insert_row_new _ _⟩
    case waiting =>
      intro call hcall
      rcases List.mem_append.mp hcall with hold | hnew
      · exact List.mem_append_left _ (inv.waiting call hold)
      · exact List.mem_append_right _ hnew
    case range =>
      intro m row hrow
      obtain ⟨hle, hseq⟩ := inv.range m row hrow
      exact ⟨hle, hseq.trans hext.seq⟩
    case accounted =>
      intro m n hn
      rcases List.mem_append.mp hn with hold | hnew
      · rcases inv.accounted m n hold with hwait | hsent | hqueued
        · exact .inl (List.mem_append_left _ hwait)
        · exact .inr (.inl (hext.sent hsent))
        · exact .inr (.inr (hext.queued hqueued))
      · exact .inl (List.mem_append_right _ hnew)
    case flush => exact hext.flushInv inv.flush

theorem le_seq_of_obtained (inv : Inv s) (h : (msgId, n) ∈ s.obtained) : n ≤ s.updates.seq := by
  obtain ⟨-, item, hrow⟩ := inv.stored msgId n h
  exact IdTable.le_seq_of_row hrow

theorem upsert_queue (serial : ℕ) (horder : ∀ row, s.queue msgId = some row → row.last ≤ serial)
    (hrange : ∀ row, s.queue msgId = some row → row.first ≤ row.last) :
    ∃ row', Lib.upsert s.queue msgId ⟨serial, serial⟩ (fun row => some { row with last := serial })
        msgId = some row' ∧ row'.first ≤ serial ∧ row'.last = serial ∧
      ∀ row, s.queue msgId = some row → row'.first = row.first ∧ row.last ≤ row'.last := by
  rcases hrow : s.queue msgId with _ | row
  · refine ⟨⟨serial, serial⟩, Lib.upsert_of_none _ _ hrow, le_rfl, rfl, ?_⟩
    intro row h
    cases h
  · refine ⟨{ row with last := serial }, Lib.upsert_of_some _ _ hrow, ?_, rfl, ?_⟩
    · exact (hrange row hrow).trans (horder row hrow)
    · intro row' h
      cases h
      exact ⟨rfl, horder row hrow⟩

theorem inv_upsert (inv : Inv s) (msgId : MsgId) (serial : ℕ)
    (horder : ∀ row, s.queue msgId = some row → row.last ≤ serial) :
    Inv (s.upsert msgId serial) := by
  unfold State.upsert
  by_cases hwait : (msgId, serial) ∈ s.waiting
  case neg =>
    rw [if_neg hwait]
    exact inv
  case pos =>
    rw [if_pos hwait]
    have hle : serial ≤ s.updates.seq := le_seq_of_obtained inv (inv.waiting _ hwait)
    obtain ⟨row', hrow', hfirst', hlast', hgrow⟩ :=
      upsert_queue serial horder fun row hrow => (inv.range msgId row hrow).1
    have hext : Ext s { s with
        waiting := s.waiting.erase (msgId, serial)
        queue := Lib.upsert s.queue msgId ⟨serial, serial⟩
          fun row => some { row with last := serial } } := by
      refine ⟨fun _ _ h => h, le_rfl, fun _ _ h => .inl h, rfl, ?_⟩
      intro m row hrow
      by_cases hm : m = msgId
      · subst hm
        exact ⟨row', hrow', hgrow row hrow⟩
      · exact ⟨row, (Lib.upsert_of_ne _ _ hm).trans hrow, rfl, le_rfl⟩
    constructor
    case stored => exact inv.stored
    case waiting => exact fun call hcall => inv.waiting call (List.mem_of_mem_erase hcall)
    case range =>
      intro m row hrow
      by_cases hm : m = msgId
      · subst hm
        have heq : row' = row := Option.some.inj (hrow'.symm.trans hrow)
        exact heq ▸ ⟨hlast' ▸ hfirst', hlast' ▸ hle⟩
      · exact inv.range m row ((Lib.upsert_of_ne _ _ hm).symm.trans hrow)
    case accounted =>
      intro m n hn
      rcases inv.accounted m n hn with hw | hsent | hqueued
      · by_cases heq : (m, n) = (msgId, serial)
        · cases heq
          exact .inr (.inr ⟨row', hrow', hfirst', hlast'.ge⟩)
        · exact .inl ((List.mem_erase_of_ne heq).mpr hw)
      · exact .inr (.inl (hext.sent hsent))
      · exact .inr (.inr (hext.queued hqueued))
    case flush => exact hext.flushInv inv.flush

/-! ## steps of the flush -/

theorem Inv.of_flush (inv : Inv s) {flush : Flush} (h : FlushInv s flush) :
    Inv { s with flush := flush } := by
  have hext : Ext s { s with flush := flush } :=
    ⟨fun _ _ h => h, le_rfl, fun _ _ h => .inl h, rfl, fun _ row h => ⟨row, h, rfl, le_rfl⟩⟩
  exact ⟨inv.stored, inv.waiting, inv.range, inv.accounted, hext.flushInv h⟩

theorem inv_get (inv : Inv s) (msgId : MsgId) : Inv (s.get msgId) := by
  unfold State.get
  split
  case h_1 row _ hrow => exact inv.of_flush ⟨⟨row, hrow, rfl, le_rfl⟩, Nat.zero_le _, fun _ _ _ _ => trivial⟩
  case h_2 => exact inv

theorem inv_render (inv : Inv s) : Inv s.render := by
  unfold State.render
  split
  case h_2 => exact inv
  case h_1 m first last hflush =>
    have hgot : FlushInv s (.got m first last) := hflush ▸ inv.flush
    obtain ⟨row, hrow, hfirst, hlast⟩ := hgot.row
    have hseq := (inv.range m row hrow).2
    have hnew : (renderWebxdcStatusUpdateObject s.updates m (max first 1) last).2 ≤ last + 1 :=
      render_firstNew_le
    have hrendered : FlushInv s (.rendered m first
        (renderWebxdcStatusUpdateObject s.updates m (max first 1) last).2
        (renderWebxdcStatusUpdateObject s.updates m (max first 1) last).1) := by
      refine ⟨⟨row, hrow, hfirst, Nat.zero_le _⟩, by omega, ?_⟩
      intro n hn hle hlt
      obtain ⟨hpos, item, hitem⟩ := inv.stored m n hn
      exact render_holds hitem (max_le hle hpos) (by omega) hlt
    exact inv.of_flush hrendered

theorem inv_send (inv : Inv s) : Inv s.send := by
  unfold State.send
  split
  case h_2 => exact inv
  case h_1 m first firstNew message hflush =>
    have hrendered : FlushInv s (.rendered m first firstNew message) := hflush ▸ inv.flush
    obtain ⟨hrow, hnew, hall⟩ := hrendered
    constructor
    case stored => exact inv.stored
    case waiting => exact inv.waiting
    case range => exact inv.range
    case accounted =>
      intro m n hn
      rcases inv.accounted m n hn with hwait | ⟨o, ho, hholds⟩ | hqueued
      · exact .inl hwait
      · exact .inr (.inl ⟨o, List.mem_append_left _ ho, hholds⟩)
      · exact .inr (.inr hqueued)
    case flush =>
      refine ⟨hrow, hnew, ?_⟩
      intro n hn hle hlt
      obtain ⟨o, rfl, hholds⟩ := hall n hn hle hlt
      exact ⟨o, List.mem_append_right _ List.mem_cons_self, hholds⟩

theorem Inv.of_queue (inv : Inv s) {m : MsgId} {row : Range} (hrow : s.queue m = some row)
    {queue : MsgId → Option Range} (hother : ∀ m', m' ≠ m → queue m' = s.queue m')
    (hrange : ∀ row', queue m = some row' → row'.first ≤ row'.last ∧ row'.last ≤ s.updates.seq)
    (hqueued : ∀ n, (m, n) ∈ s.obtained → row.first ≤ n → n ≤ row.last →
      Sent s m n ∨ ∃ row', queue m = some row' ∧ row'.first ≤ n ∧ n ≤ row'.last) :
    Inv { s with queue := queue, flush := .idle } := by
  refine ⟨inv.stored, inv.waiting, ?_, ?_, trivial⟩
  · intro m' row' hrow'
    by_cases hm : m' = m
    · subst hm
      exact hrange row' hrow'
    · exact inv.range m' row' ((hother m' hm).symm.trans hrow')
  · intro m' n hn
    rcases inv.accounted m' n hn with hwait | hsent | ⟨row', hrow', hfirst', hlast'⟩
    · exact .inl hwait
    · exact .inr (.inl hsent)
    · by_cases hm : m' = m
      · subst hm
        rw [hrow] at hrow'
        cases hrow'
        exact .inr (hqueued n hn hfirst' hlast')
      · exact .inr (.inr ⟨row', (hother m' hm).trans hrow', hfirst', hlast'⟩)

theorem inv_popDelete (inv : Inv s) : Inv s.popDelete := by
  unfold State.popDelete
  split
  case h_2 => exact inv
  case h_1 m first firstNew hflush =>
    have hsent : FlushInv s (.sent m first firstNew) := hflush ▸ inv.flush
    obtain ⟨⟨row, hrow, hfirst, -⟩, hnew, hall⟩ := hsent
    simp only [hrow, Option.any_some, hfirst, true_and, decide_eq_true_eq]
    by_cases hlast : row.last < firstNew
    case pos =>
      rw [if_pos hlast]
      refine inv.of_queue hrow (fun m' hm => Function.update_of_ne hm _ _) ?_ ?_
      · intro row' hrow'
        rw [Function.update_self] at hrow'
        cases hrow'
      · exact fun n hn hfirst' hlast' => .inl (hall n hn (by omega) (by omega))
    case neg =>
      rw [if_neg hlast]
      exact inv.of_flush ⟨⟨row, hrow, hfirst, by omega⟩, hnew, hall⟩

theorem inv_popUpdate (inv : Inv s) : Inv s.popUpdate := by
  unfold State.popUpdate
  split
  case h_2 => exact inv
  case h_1 m first firstNew hflush =>
    have hkept : FlushInv s (.kept m first firstNew) := hflush ▸ inv.flush
    obtain ⟨⟨row, hrow, hfirst, hlast⟩, hnew, hall⟩ := hkept
    have hself : updateRow s.queue m (fun row =>
        if row.first = first then { row with first := firstNew } else row) m =
          some { row with first := firstNew } := by
      rw [updateRow_self, hrow, Option.map_some, if_pos hfirst]
    refine inv.of_queue hrow (fun m' hm => updateRow_of_ne _ hm) ?_ ?_
    · intro row' hrow'
      rw [hself] at hrow'
      cases hrow'
      exact ⟨hlast, (inv.range m row hrow).2⟩
    · intro n hn hfirst' hlast'
      by_cases hlt : n < firstNew
      · exact .inl (hall n hn (by omega) hlt)
      · exact .inr ⟨_, hself, Nat.le_of_not_lt hlt, hlast'⟩

theorem inv_step (s : State) (i : Step) (horder : InOrder s i) (inv : Inv s) : Inv (s.step i) := by
  cases i with
  | insert msgId item => exact inv_insert inv msgId item
  | upsert msgId serial => exact inv_upsert inv msgId serial horder
  | get msgId => exact inv_get inv msgId
  | render => exact inv_render inv
  | send => exact inv_send inv
  | popDelete => exact inv_popDelete inv
  | popUpdate => exact inv_popUpdate inv
  | fail => exact inv.of_flush trivial

end

/-! ## whole runs -/

/-- **no update is lost** in a run where the second statement of a call never finds a later serial
in the queue: when all is done, every serial a call got is in a message -/
theorem updates_not_lost (updates : IdTable Update) (steps : List Step)
    (horder : RunOk State.step InOrder (start updates) steps) :
    Finished (steps.foldl State.step (start updates)) →
      ∀ msgId n, (msgId, n) ∈ (steps.foldl State.step (start updates)).obtained →
        Sent (steps.foldl State.step (start updates)) msgId n := by
  rintro ⟨hwaiting, -, hqueue⟩ msgId n hn
  have inv : Inv (steps.foldl State.step (start updates)) :=
    horder.inv inv_step (inv_start updates)
  rcases inv.accounted msgId n hn with hwait | hsent | ⟨row, hrow, -⟩
  · rw [hwaiting] at hwait
    cases hwait
  · exact hsent
  · rw [hqueue msgId] at hrow
    cases hrow

def ping : UpdateItem := ⟨"\x7b\"payload\":1\x7d", by decide⟩

/-- two calls one after the other, the second while the flush is at work on the first -/
theorem updates_not_lost_two_calls :
    Sent ([.insert 20 ping, .upsert 20 1, .get 20, .insert 20 ping, .upsert 20 2, .render, .send,
      .popDelete, .popUpdate, .get 20, .render, .send, .popDelete].foldl State.step
        (start IdTable.empty)) 20 2 := by
  refine updates_not_lost _ _ ?_ ⟨rfl, rfl, ?_⟩ 20 2 ?_
  · refine ⟨trivial, ?_, trivial, trivial, ?_, trivial, trivial, trivial, trivial, trivial, trivial,
      trivial, trivial, trivial⟩
    · intro row hrow
      cases hrow
    · intro row hrow
      cases hrow
      decide
  · intro msgId
    by_cases hm : msgId = 20
    · subst hm
      rfl
    · refine (Function.update_of_ne hm _ _).trans ?_
      refine (Function.update_of_ne hm _ _).trans ?_
      refine (Function.update_of_ne hm _ _).trans ?_
      exact Function.update_of_ne hm _ _
  · exact List.mem_cons_of_mem _ List.mem_cons_self

/-- **two calls overtake each other**, and both updates are lost: the second call gets its serial
later and queues it first, so the range ends before it starts -/
theorem overtaken :
    ∃ steps : List Step, Finished (steps.foldl State.step (start IdTable.empty)) ∧
      (steps.foldl State.step (start IdTable.empty)).obtained = [(20, 1), (20, 2)] ∧
      (steps.foldl State.step (start IdTable.empty)).outgoing = [] := by
  refine ⟨[.insert 20 ping, .insert 20 ping, .upsert 20 2, .upsert 20 1, .get 20, .render, .send,
    .popDelete], ⟨rfl, rfl, ?_⟩, rfl, rfl⟩
  intro msgId
  by_cases hm : msgId = 20
  · subst hm
    rfl
  · refine (Function.update_of_ne hm _ _).trans ?_
    refine (Function.update_of_ne hm _ _).trans ?_
    exact Function.update_of_ne hm _ _

end EpsilonChat.Webxdc
