import EpsilonChat.Lib.Join
import EpsilonChat.Location.Save

/-!
# Streaming the own location

While a chat streams, `location::set` stores the own position for it, and every message that is sent
to the chat carries the positions since the last one in a KML file.  The file is made when the
message is RENDERED (`get_kml`); the time from which the next file starts, `locations_last_sent`, is
written when the message is QUEUED (`set_kml_sent_timestamp`), from the clock of that later moment.
In between anything can happen:

* `Event.tick`: the clock goes on;
* `Event.set`: a position is stored for all chats that stream;
* `Event.render`: a message is rendered;
* `Event.sent`: a rendered message is queued.

`getKml` also takes the newest position of all, however old it is.

* `SentOk`: no position of an EARLIER second was stored since the message was rendered;
* `Covered`: a position has got into a file;
* `Waiting`: it is still in time for the next one;
* `Waiting.step`: after one event it still is, or it is covered;
* **`recorded_sent`**: in a run whose messages are all queued in time, each position is in the file
  of a message that was rendered after it;
* `recorded_lost`: a run that loses one.
-/

set_option linter.dupNamespace false

namespace EpsilonChat.Location
open Lib

/-! ## the file -/

/-- what a row of `chats` says about streaming -/
structure ChatStream where
  locationsSendBegin : I64
  locationsSendUntil : I64
  locationsLastSent : I64
  deriving DecidableEq

def timestamps (t : Locations) (p : Row → Bool) : List I64 :=
  (t.ids p).filterMap fun id => (t.row id).map Row.timestamp

/-- `SELECT MAX(timestamp) FROM locations WHERE from_id=?` -/
def maxTimestamp (t : Locations) : Option I64 :=
  (timestamps t fun r => r.fromId = ContactId.self).max?

def inKml (t : Locations) (chat : ChatStream) (r : Row) : Bool :=
  r.fromId = ContactId.self && chat.locationsSendBegin ≤ r.timestamp &&
    (chat.locationsLastSent ≤ r.timestamp || maxTimestamp t = some r.timestamp) && !r.independent

/-- the timestamps in the file, one for each group and in order; without any there is no file.  Which
row of a group gives the coordinates is left open. -/
def getKml (t : Locations) (chat : ChatStream) (now : I64) : List I64 :=
  if chat.locationsSendBegin ≠ I64.zero ∧ now ≤ chat.locationsSendUntil then
    (timestamps t (inKml t chat)).dedup.insertionSort (· ≤ ·)
  else []

theorem mem_timestamps {t : Locations} {p : Row → Bool} {timestamp : I64} :
    timestamp ∈ timestamps t p ↔ ∃ id r, t.row id = some r ∧ p r ∧ r.timestamp = timestamp := by
  unfold timestamps
  rw [List.mem_filterMap]
  constructor
  · rintro ⟨id, hid, h⟩
    obtain ⟨r, hr, hp⟩ := IdTable.mem_ids.mp hid
    rw [hr] at h
    exact ⟨id, r, hr, hp, Option.some.inj h⟩
  · rintro ⟨id, r, hr, hp, rfl⟩
    exact ⟨id, IdTable.mem_ids.mpr ⟨r, hr, hp⟩, by rw [hr]; rfl⟩

theorem mem_getKml {t : Locations} {chat : ChatStream} {now timestamp : I64} :
    timestamp ∈ getKml t chat now ↔
      (chat.locationsSendBegin ≠ I64.zero ∧ now ≤ chat.locationsSendUntil) ∧
        ∃ id r, t.row id = some r ∧ inKml t chat r ∧ r.timestamp = timestamp := by
  unfold getKml
  split
  · next h =>
    rw [(List.perm_insertionSort _ _).mem_iff, List.mem_dedup, mem_timestamps, and_iff_right h]
  · next h => exact iff_of_false List.not_mem_nil fun e => h e.1

/-! ## the events -/

structure Message where
  chatId : ChatId
  kml : List I64
  /-- `last_added_location_id.is_some()` -/
  lastAdded : Bool
  pending : Bool := true
  /-- the greatest row id when the message was rendered -/
  seq : Nat
  deriving DecidableEq

structure State where
  now : I64
  table : Locations
  chats : IdTable ChatStream
  messages : List Message := []

inductive Event where
  | tick (now : I64)
  | set (latitude longitude accuracy : F64)
  /-- `files` is false for a message that has a position of its own, and for a pre-message -/
  | render (chatId : ChatId) (files : Bool)
  | sent (i : Nat)
  deriving DecidableEq

/-- `x == 0.0`, of both signs -/
def isZero (x : F64) : Bool := x = 0#64 || x = 0x8000000000000000#64

def ownRow (now : I64) (latitude longitude accuracy : F64) (chatId : ChatId) : Row where
  timestamp := now
  fromId := ContactId.self
  chatId := chatId
  latitude := latitude
  longitude := longitude
  accuracy := accuracy
  independent := false

/-- `SELECT id FROM chats WHERE locations_send_until>?` -/
def streamingChats (s : State) : List ChatId :=
  s.chats.ids fun chat => s.now < chat.locationsSendUntil

def setLocation (s : State) (latitude longitude accuracy : F64) : State :=
  if isZero latitude && isZero longitude then s
  else
    let rows := (streamingChats s).map (ownRow s.now latitude longitude accuracy)
    { s with table := s.table.insertAll rows }

def rendered (s : State) (chatId : ChatId) (chat : ChatStream) (files : Bool) : Message :=
  -- `is_sending_to_chat`
  let kml := if s.now < chat.locationsSendUntil then getKml s.table chat s.now else []
  { chatId, kml, lastAdded := !kml.isEmpty && files, seq := s.table.seq }

def renderMessage (s : State) (chatId : ChatId) (files : Bool) : State :=
  match s.chats.row chatId with
  | none => s
  | some chat => { s with messages := s.messages ++ [rendered s chatId chat files] }

def setKmlSentTimestamp (chats : IdTable ChatStream) (chatId : ChatId) (timestamp : I64) :
    IdTable ChatStream :=
  chats.update chatId fun chat => { chat with locationsLastSent := timestamp }

def queueMessage (s : State) (i : Nat) : State :=
  match s.messages[i]? with
  | none => s
  | some m =>
    if m.pending then
      let chats := if m.lastAdded then setKmlSentTimestamp s.chats m.chatId s.now else s.chats
      { s with chats, messages := s.messages.set i { m with pending := false } }
    else s

def step (s : State) : Event → State
  | .tick now => { s with now := max s.now now }
  | .set latitude longitude accuracy => setLocation s latitude longitude accuracy
  | .render chatId files => renderMessage s chatId files
  | .sent i => queueMessage s i

def run (s : State) (events : List Event) : State := events.foldl step s

theorem run_append (s : State) (events events' : List Event) :
    run s (events ++ events') = run (run s events) events' := List.foldl_append

/-- a message whose file counts is queued before any position of an earlier second was stored behind
its back -/
def SentOk (s : State) : Event → Prop
  | .sent i => ∀ m, s.messages[i]? = some m → m.pending → m.lastAdded → ∀ id r, m.seq < id →
      s.table.row id = some r → r.fromId = ContactId.self → s.now ≤ r.timestamp
  | _ => True

/-! ## what an event does -/

section
variable {s : State} {e : Event}

theorem step_cases (s : State) (e : Event) :
    (∃ now, s.now ≤ now ∧ step s e = { s with now }) ∨
      (∃ rows, step s e = { s with table := s.table.insertAll rows }) ∨
      (∃ chatId chat files, s.chats.row chatId = some chat ∧
        step s e = { s with messages := s.messages ++ [rendered s chatId chat files] }) ∨
      ∃ i m chats, e = .sent i ∧ s.messages[i]? = some m ∧ m.pending = true ∧
        chats = (if m.lastAdded then setKmlSentTimestamp s.chats m.chatId s.now else s.chats) ∧
        step s e = { s with chats, messages := s.messages.set i { m with pending := false } } := by
  have hnothing : ∃ now, s.now ≤ now ∧ s = { s with now } := ⟨s.now, le_rfl, rfl⟩
  cases e with
  | tick now => exact .inl ⟨max s.now now, le_max_left _ _, rfl⟩
  | set latitude longitude accuracy =>
    unfold step setLocation
    dsimp only
    split
    · exact .inl hnothing
    · exact .inr (.inl ⟨_, rfl⟩)
  | render chatId files =>
    unfold step renderMessage
    dsimp only
    split
    · exact .inl hnothing
    · next chat hchat => exact .inr (.inr (.inl ⟨chatId, chat, files, hchat, rfl⟩))
  | sent i =>
    unfold step queueMessage
    dsimp only
    split
    · exact .inl hnothing
    · next m hm =>
      split
      · next hpending =>
        exact .inr (.inr (.inr ⟨i, m, _, rfl, hm, hpending, rfl, rfl⟩))
      · exact .inl hnothing

theorem message_step {i : Nat} {m : Message} (h : s.messages[i]? = some m) (e : Event) :
    ∃ m', (step s e).messages[i]? = some m' ∧ m'.chatId = m.chatId ∧ m'.kml = m.kml := by
  have hi : i < s.messages.length := (List.getElem?_eq_some_iff.mp h).1
  rcases step_cases s e with
    ⟨now, -, e'⟩ | ⟨rows, e'⟩ | ⟨chatId, chat, files, -, e'⟩ | ⟨j, mj, chats, -, hj, -, -, e'⟩
  · exact ⟨m, by rw [e']; exact h, rfl, rfl⟩
  · exact ⟨m, by rw [e']; exact h, rfl, rfl⟩
  · exact ⟨m, by rw [e']; exact (List.getElem?_append_left hi).trans h, rfl, rfl⟩
  · rw [e']
    by_cases hij : j = i
    · subst hij
      obtain rfl := Option.some.inj (hj.symm.trans h)
      exact ⟨_, List.getElem?_set_self hi, rfl, rfl⟩
    · exact ⟨m, (List.getElem?_set_ne hij).trans h, rfl, rfl⟩

theorem length_step (s : State) (e : Event) : s.messages.length ≤ (step s e).messages.length := by
  rcases step_cases s e with
    ⟨now, -, e'⟩ | ⟨rows, e'⟩ | ⟨chatId, chat, files, -, e'⟩ | ⟨j, m, chats, -, -, -, -, e'⟩
  · rw [e']
  · rw [e']
  · rw [e', List.length_append]
    omega
  · rw [e', List.length_set]

theorem message_of_step {i : Nat} {m' : Message} (h : (step s e).messages[i]? = some m') :
    (∃ m, s.messages[i]? = some m ∧ m'.chatId = m.chatId ∧ m'.lastAdded = m.lastAdded ∧
      m'.seq = m.seq) ∨
    (i = s.messages.length ∧ ∃ chatId chat files, s.chats.row chatId = some chat ∧
      m' = rendered s chatId chat files) := by
  rcases step_cases s e with
    ⟨now, -, e'⟩ | ⟨rows, e'⟩ | ⟨chatId, chat, files, hchat, e'⟩ | ⟨j, m, chats, -, hm, -, -, e'⟩
  · rw [e'] at h
    exact .inl ⟨m', h, rfl, rfl, rfl⟩
  · rw [e'] at h
    exact .inl ⟨m', h, rfl, rfl, rfl⟩
  · rw [e'] at h
    dsimp only at h
    rcases Nat.lt_or_ge i s.messages.length with hi | hi
    · rw [List.getElem?_append_left hi] at h
      exact .inl ⟨m', h, rfl, rfl, rfl⟩
    · rw [List.getElem?_append_right hi, List.getElem?_singleton] at h
      split at h
      · next hzero => exact .inr ⟨by omega, chatId, chat, files, hchat, (Option.some.inj h).symm⟩
      · cases h
  · rw [e'] at h
    dsimp only at h
    by_cases hij : j = i
    · subst hij
      have hlt : j < s.messages.length := (List.getElem?_eq_some_iff.mp hm).1
      rw [List.getElem?_set_self hlt] at h
      obtain rfl := Option.some.inj h
      exact .inl ⟨m, hm, rfl, rfl, rfl⟩
    · rw [List.getElem?_set_ne hij] at h
      exact .inl ⟨m', h, rfl, rfl, rfl⟩

theorem row_step {id : Nat} {r : Row} (h : s.table.row id = some r) (e : Event) :
    (step s e).table.row id = some r := by
  rcases step_cases s e with
    ⟨now, -, e'⟩ | ⟨rows, e'⟩ | ⟨chatId, chat, files, -, e'⟩ | ⟨j, m, chats, -, -, -, -, e'⟩
  · rw [e']; exact h
  · rw [e']; exact IdTable.insertAll_row_of_some rows h
  · rw [e']; exact h
  · rw [e']; exact h

theorem seq_step (s : State) (e : Event) : s.table.seq ≤ (step s e).table.seq := by
  rcases step_cases s e with
    ⟨now, -, e'⟩ | ⟨rows, e'⟩ | ⟨chatId, chat, files, -, e'⟩ | ⟨j, m, chats, -, -, -, -, e'⟩
  · rw [e']
  · rw [e']
    show _ ≤ (s.table.insertAll rows).seq
    rw [IdTable.insertAll_seq]
    omega
  · rw [e']
  · rw [e']

theorem chat_step (s : State) (e : Event) (chatId : ChatId) :
    (step s e).chats.row chatId = s.chats.row chatId ∨
      ∃ i m, e = .sent i ∧ s.messages[i]? = some m ∧ m.pending = true ∧ m.lastAdded = true ∧
        m.chatId = chatId ∧ (step s e).chats.row chatId =
          (s.chats.row chatId).map fun chat => { chat with locationsLastSent := s.now } := by
  rcases step_cases s e with
    ⟨now, -, e'⟩ | ⟨rows, e'⟩ | ⟨_, chat, files, -, e'⟩ | ⟨i, m, chats, hi, hm, hpending, hchats, e'⟩
  · rw [e']
    exact .inl rfl
  · rw [e']
    exact .inl rfl
  · rw [e']
    exact .inl rfl
  · rw [e', hchats]
    dsimp only
    by_cases hadded : m.lastAdded = true
    · rw [if_pos hadded]
      by_cases hchat : chatId = m.chatId
      · subst hchat
        exact .inr ⟨i, m, hi, hm, hpending, hadded, rfl, updateRow_self ..⟩
      · exact .inl (IdTable.update_row_of_ne _ hchat)
    · rw [if_neg hadded]
      exact .inl rfl

end

/-! ## valid states -/

/-- no file was sent in the future, and no message was rendered on rows that are not there yet -/
structure Valid (s : State) : Prop where
  lastSent : ∀ chatId chat, s.chats.row chatId = some chat → chat.locationsLastSent ≤ s.now
  seq : ∀ (i : Nat) (m : Message), s.messages[i]? = some m → m.seq ≤ s.table.seq

theorem now_step (s : State) (e : Event) : s.now ≤ (step s e).now := by
  rcases step_cases s e with
    ⟨now, hnow, e'⟩ | ⟨rows, e'⟩ | ⟨chatId, chat, files, -, e'⟩ | ⟨j, m, chats, -, -, -, -, e'⟩
  · rw [e']; exact hnow
  · rw [e']
  · rw [e']
  · rw [e']

theorem Valid.step {s : State} (h : Valid s) (e : Event) : Valid (step s e) where
  lastSent := by
    intro chatId chat hchat
    rcases chat_step s e chatId with e' | ⟨i, m, -, -, -, -, -, e'⟩
    · exact (h.lastSent chatId chat (e' ▸ hchat)).trans (now_step s e)
    · rw [e'] at hchat
      obtain ⟨before, -, rfl⟩ := Option.map_eq_some_iff.mp hchat
      exact now_step s e
  seq := by
    intro i m' hm'
    refine le_trans ?_ (seq_step s e)
    rcases message_of_step hm' with ⟨m, hm, -, -, hseq⟩ | ⟨-, chatId, chat, files, -, rfl⟩
    · exact hseq ▸ h.seq i m hm
    · exact Nat.le_refl _

theorem Valid.run {s : State} (h : Valid s) (events : List Event) : Valid (run s events) := by
  induction events generalizing s with
  | nil => exact h
  | cons e events ih => exact ih (h.step e)

/-! ## a position on its way -/

section
variable {chatId : ChatId} {begin_ until_ timestamp : I64} {id n : Nat} {s : State} {e : Event}

/-- the position is in the file of a message that was rendered after the first `n` -/
def Covered (chatId : ChatId) (timestamp : I64) (n : Nat) (s : State) : Prop :=
  ∃ i m, n ≤ i ∧ s.messages[i]? = some m ∧ m.chatId = chatId ∧ timestamp ∈ m.kml

theorem Covered.step (h : Covered chatId timestamp n s) (e : Event) :
    Covered chatId timestamp n (step s e) := by
  obtain ⟨i, m, hi, hm, hchat, hmem⟩ := h
  obtain ⟨m', hm', hchat', hkml⟩ := message_step hm e
  exact ⟨i, m', hi, hm', hchat'.trans hchat, hkml ▸ hmem⟩

/-- the position is stored as row `id` and will be in the next file: the time from which that file
starts is not later, and the messages that may still change this time were rendered before -/
structure Waiting (chatId : ChatId) (begin_ until_ timestamp : I64) (id n : Nat) (s : State) :
    Prop where
  chat : ∃ chat, s.chats.row chatId = some chat ∧ chat.locationsSendBegin = begin_ ∧
    chat.locationsSendUntil = until_ ∧ chat.locationsLastSent ≤ timestamp
  row : ∃ r, s.table.row id = some r ∧ r.fromId = ContactId.self ∧ r.independent = false ∧
    r.timestamp = timestamp
  before : ∀ (i : Nat) (m : Message), s.messages[i]? = some m → m.chatId = chatId →
    m.lastAdded = true → m.seq < id
  count : n ≤ s.messages.length

theorem Waiting.mem_rendered (h : Waiting chatId begin_ until_ timestamp id n s)
    (hbegin : begin_ ≠ I64.zero) (hle : begin_ ≤ timestamp) (hnow : s.now < until_)
    {chat : ChatStream} (hchat : s.chats.row chatId = some chat) (files : Bool) :
    timestamp ∈ (rendered s chatId chat files).kml := by
  obtain ⟨chat', hchat', rfl, rfl, hlast⟩ := h.chat
  obtain rfl := Option.some.inj (hchat'.symm.trans hchat)
  obtain ⟨r, hr, hself, hindep, rfl⟩ := h.row
  show r.timestamp ∈ if s.now < chat'.locationsSendUntil then getKml s.table chat' s.now else []
  rw [if_pos hnow, mem_getKml]
  refine ⟨⟨hbegin, hnow.le⟩, id, r, hr, ?_, rfl⟩
  rw [inKml, hself, hindep]
  simp [hle, hlast]

theorem Waiting.step (h : Waiting chatId begin_ until_ timestamp id n s)
    (hbegin : begin_ ≠ I64.zero) (hle : begin_ ≤ timestamp) (hok : SentOk s e) :
    Covered chatId timestamp n (step s e) ∨
      Waiting chatId begin_ until_ timestamp id n (step s e) := by
  by_cases hcovered : Covered chatId timestamp n (Location.step s e)
  · exact .inl hcovered
  right
  constructor
  case chat =>
    obtain ⟨chat, hchat, hb, hu, hlast⟩ := h.chat
    rcases chat_step s e chatId with e' | ⟨i, m, rfl, hm, hpending, hadded, hm', e'⟩
    · exact ⟨chat, e'.trans hchat, hb, hu, hlast⟩
    · -- the message was rendered before the position was stored, so it is queued in the same second
      obtain ⟨r, hr, hself, -, rfl⟩ := h.row
      have hnow : s.now ≤ r.timestamp :=
        hok m hm hpending hadded id r (h.before i m hm hm' hadded) hr hself
      rw [hchat] at e'
      exact ⟨_, e', hb, hu, hnow⟩
  case row =>
    obtain ⟨r, hr, hrow⟩ := h.row
    exact ⟨r, row_step hr e, hrow⟩
  case before =>
    intro i m' hm' hchat' hadded
    rcases message_of_step hm' with ⟨m, hm, hc, ha, hs⟩ | ⟨hi, c, chat, files, hchat, rfl⟩
    · exact hs ▸ h.before i m hm (hc.symm.trans hchat') (ha.symm.trans hadded)
    · -- a file with anything in it would have the position
      exfalso
      obtain rfl : c = chatId := hchat'
      obtain ⟨chat₀, hchat₀, -, hu, -⟩ := h.chat
      obtain rfl := Option.some.inj (hchat₀.symm.trans hchat)
      have hnow : s.now < chat₀.locationsSendUntil := by
        by_contra hend
        rw [rendered, if_neg hend] at hadded
        exact Bool.false_ne_true hadded
      refine hcovered ⟨i, _, hi ▸ h.count, hm', rfl, ?_⟩
      exact h.mem_rendered hbegin hle (hu ▸ hnow) hchat files
  case count => exact h.count.trans (length_step s e)

theorem Waiting.run {events : List Event} (h : Waiting chatId begin_ until_ timestamp id n s)
    (hbegin : begin_ ≠ I64.zero) (hle : begin_ ≤ timestamp)
    (hok : RunOk Location.step SentOk s events) :
    Covered chatId timestamp n (run s events) ∨
      Waiting chatId begin_ until_ timestamp id n (run s events) := by
  have hstep : ∀ s e, SentOk s e →
      (Covered chatId timestamp n s ∨ Waiting chatId begin_ until_ timestamp id n s) →
      (Covered chatId timestamp n (Location.step s e) ∨
        Waiting chatId begin_ until_ timestamp id n (Location.step s e)) := by
    intro s e hok hinv
    rcases hinv with hcov | hwait
    · exact .inl (hcov.step e)
    · exact hwait.step hbegin hle hok
  exact RunOk.inv hstep hok (.inr h)

end

/-! ## runs -/

/-- the chat streams: a position that is stored now is stored for it -/
def Streams (s : State) (chatId : ChatId) (chat : ChatStream) : Prop :=
  s.chats.row chatId = some chat ∧ chat.locationsSendBegin ≠ I64.zero ∧
    chat.locationsSendBegin ≤ s.now ∧ s.now < chat.locationsSendUntil

theorem waiting_set {s : State} (hvalid : Valid s) {chatId : ChatId} {chat : ChatStream}
    (hstreams : Streams s chatId chat) {latitude longitude : F64} (accuracy : F64)
    (hpos : ¬ (isZero latitude ∧ isZero longitude)) :
    ∃ id, Waiting chatId chat.locationsSendBegin chat.locationsSendUntil s.now id
      s.messages.length (step s (.set latitude longitude accuracy)) := by
  obtain ⟨hchat, -, -, hnow⟩ := hstreams
  have hmem : chatId ∈ streamingChats s :=
    IdTable.mem_ids.mpr ⟨chat, hchat, decide_eq_true hnow⟩
  obtain ⟨i, hi⟩ := List.mem_iff_getElem?.mp hmem
  have hset : step s (.set latitude longitude accuracy) = { s with
      table := s.table.insertAll
        ((streamingChats s).map (ownRow s.now latitude longitude accuracy)) } := by
    show setLocation s latitude longitude accuracy = _
    rw [setLocation, if_neg (by rwa [Bool.and_eq_true])]
  refine ⟨s.table.seq + 1 + i, ?_⟩
  rw [hset]
  constructor
  case chat => exact ⟨chat, hchat, rfl, rfl, hvalid.lastSent chatId chat hchat⟩
  case row =>
    refine ⟨ownRow s.now latitude longitude accuracy chatId, ?_, rfl, rfl, rfl⟩
    rw [IdTable.insertAll_row_new, List.getElem?_map, hi]
    rfl
  case before =>
    intro j m hm _ _
    have := hvalid.seq j m hm
    omega
  case count => exact Nat.le_refl _

/-- **In a run whose messages are all queued in time, a position that was stored while the chat
streamed is in the file of a message that was rendered after it, as soon as one was rendered before
the end of the streaming.** -/
theorem recorded_sent (s : State) (hvalid : Valid s) (chatId : ChatId) (chat : ChatStream)
    (before between : List Event) (latitude longitude accuracy : F64) (files : Bool)
    (hok : RunOk step SentOk s (before ++ .set latitude longitude accuracy :: (between ++
      [.render chatId files])))
    (hstreams : Streams (run s before) chatId chat)
    (hpos : ¬ (isZero latitude ∧ isZero longitude))
    (hend : (run s (before ++ .set latitude longitude accuracy :: between)).now
      < chat.locationsSendUntil) :
    Covered chatId (run s before).now (run s before).messages.length
      (run s (before ++ .set latitude longitude accuracy :: (between ++ [.render chatId files]))) := by
  obtain ⟨-, hok⟩ := (runOk_append s before _).mp hok
  obtain ⟨hok, -⟩ := (runOk_append _ between _).mp hok.2
  obtain ⟨id, hwait⟩ := waiting_set (hvalid.run before) hstreams accuracy hpos
  obtain ⟨hchat, hbegin, hle, -⟩ := hstreams
  have hrun : ∀ events, run s (before ++ .set latitude longitude accuracy :: events) =
      run (step (run s before) (.set latitude longitude accuracy)) events :=
    fun events => run_append s before _
  rw [hrun] at hend ⊢
  rw [run_append]
  rcases hwait.run hbegin hle hok with hcov | hlast
  · exact hcov.step (.render chatId files)
  · obtain ⟨chat', hchat', -⟩ := hlast.chat
    refine ⟨_, rendered _ chatId chat' files, hlast.count, ?_, rfl,
      hlast.mem_rendered hbegin hle hend hchat' files⟩
    show (renderMessage _ chatId files).messages[_]? = _
    rw [renderMessage, hchat']
    exact List.getElem?_concat_length

/-! ## a position that is lost -/

def streamingChat : ChatStream := ⟨⟨3000, by decide⟩, ⟨9000, by decide⟩, I64.zero⟩

def streaming : State where
  now := ⟨3000, by decide⟩
  table := IdTable.empty
  chats :=
    { row := fun id => if id = 12 then some streamingChat else none
      seq := 12
      row_of_lt := fun id h => if_neg (by omega) }

def here : Event := .set 0x4048000000000000#64 0x401F800000000000#64 0#64

def at_ (now : ℤ) (h : -2^63 ≤ now ∧ now < 2^63) : Event := .tick ⟨now, h⟩

/-- A message is rendered at 3001 and queued at 3003; the position of 3002 comes in between and is
not the newest one any more when the next message is rendered. -/
theorem recorded_lost :
    let before := [here, at_ 3001 (by decide), .render 12 true, at_ 3002 (by decide)]
    let between := [at_ 3003 (by decide), .sent 0, at_ 3004 (by decide), here, at_ 3005 (by decide)]
    Streams (run streaming before) 12 streamingChat ∧
      (run streaming before).now = ⟨3002, by decide⟩ ∧
      (run streaming (before ++ here :: (between ++ [.render 12 true]))).messages.map Message.kml
        = [[⟨3000, by decide⟩], [⟨3004, by decide⟩]] ∧
      ¬ Covered 12 ⟨3002, by decide⟩ (run streaming before).messages.length
        (run streaming (before ++ here :: (between ++ [.render 12 true]))) := by
  intro before between
  have hkml : (run streaming (before ++ here :: (between ++ [.render 12 true]))).messages.map
      Message.kml = [[⟨3000, by decide⟩], [⟨3004, by decide⟩]] := by decide +kernel
  refine ⟨⟨rfl, by decide, by decide +kernel, by decide +kernel⟩, by decide +kernel, hkml, ?_⟩
  rintro ⟨i, m, -, hm, -, hmem⟩
  have hin : m.kml ∈ [[(⟨3000, by decide⟩ : I64)], [⟨3004, by decide⟩]] :=
    hkml ▸ List.mem_map_of_mem (List.mem_of_getElem? hm)
  rcases List.mem_pair.mp hin with e | e
  · rw [e] at hmem
    exact absurd hmem (by decide)
  · rw [e] at hmem
    exact absurd hmem (by decide)

theorem valid_streaming : Valid streaming where
  lastSent := by
    intro chatId chat h
    change (if chatId = 12 then some streamingChat else none) = some chat at h
    split at h
    · cases h
      decide
    · cases h
  seq := by
    intro i m h
    cases h

/-- The message is queued before the clock goes on. -/
theorem recorded_sent_at_once :
    let before := [here, at_ 3001 (by decide), .render 12 true, .sent 0, at_ 3002 (by decide)]
    let between := [at_ 3004 (by decide), here]
    Covered 12 (run streaming before).now (run streaming before).messages.length
      (run streaming (before ++ here :: (between ++ [.render 12 true]))) := by
  intro before between
  refine recorded_sent streaming valid_streaming 12
    { streamingChat with locationsLastSent := ⟨3001, by decide⟩ } before between _ _ _ true ?_
    ⟨rfl, by decide, by decide +kernel, by decide +kernel⟩ (by decide) (by decide +kernel)
  refine ⟨trivial, trivial, trivial, ?_, trivial, trivial, trivial, trivial, trivial, trivial⟩
  rintro m hm - - id r hid hr -
  -- no row is newer than the message
  obtain rfl := Option.some.inj hm
  exact absurd (hr.symm.trans (IdTable.row_of_lt _ id hid)) (Option.some_ne_none r)

end EpsilonChat.Location
