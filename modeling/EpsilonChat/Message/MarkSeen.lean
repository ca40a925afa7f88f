import EpsilonChat.Ephemeral.Start
import EpsilonChat.Lib.Eff
import EpsilonChat.Smtp.Mdns

/-!
# Read receipts of seen messages

`markseen_msgs` reads ALL messages of the call first and then goes through what it read: a message
that was not seen yet is set to seen, and a receipt is queued in `smtp_mdns`, to the sender if the
sender wants one and to oneself otherwise.  `markfresh_chat` makes a seen message fresh again, so
the flag `WantsMdn` is cleared with the receipt to the sender.  A message that is listed twice in
one call is read twice before the flag is cleared.  A reserved id in the list makes the call fail.

* `queryMsgs`: what a call reads;
* `markseen`: one turn of the loop over it;
* `receipts`: the queued receipts of a message to a contact;
* `answers`: a call queues receipts to the sender, one each time the message is listed;
* `answeringCalls_le_one`: a sender other than oneself is answered by one call at most, because of
  the flag;
* **`one_receipt_iff`**: a run queues at most one receipt to the sender IFF no call that answers
  lists the message twice, and only one call answers oneself.
-/

namespace EpsilonChat.MarkSeen

open Lib
open Smtp (MessageState Mdn Mdns)
open Ephemeral.Start (MsgRow RealAdd startEphemeralTimersMsgids startEphemeralTimersMsgids_eq)

/-! ## the tables -/

inductive Blocked where
  | not | yes | request
  deriving DecidableEq, Repr

inductive ChatVisibility where
  | normal | archived | pinned
  deriving DecidableEq, Repr

structure Chat where
  archived : ChatVisibility := .normal
  blocked : Blocked := .not

structure Msg extends MsgRow where
  fromId : ContactId
  rfc724Mid : String
  timestamp : I64 := I64.zero
  state : MessageState
  hidden : Bool := false
  param : Params := Params.new

inductive Event where
  | msgsNoticed (chatId : ChatId)
  | chatlistItemChanged (chatId : ChatId)
  | archivedChatsMaybeNoticed
  | msgsChanged (chatId : ChatId)
  deriving DecidableEq, Repr

structure State where
  msgs : IdTable Msg
  chats : ChatId → Option Chat
  /-- the configurations `MdnsEnabled`, `BccSelf` and `LastMsgId` -/
  mdnsEnabled : Bool
  bccSelf : Bool
  lastMsgId : MsgId := 0
  imap : IdTable String := IdTable.empty
  imapMarkseen : Finset ℕ := ∅
  smtpMdns : Mdns := IdTable.empty
  events : List Event := []

/-! ## `markseen_msgs` -/

structure Seen where
  id : MsgId
  msg : Msg
  chat : Chat

/-- `SELECT … FROM msgs m LEFT JOIN chats c ON c.id=m.chat_id WHERE m.id=? AND m.chat_id>9`; without
a chat the column `archived` is `NULL`, and the query fails -/
def queryMsg (s : State) (id : MsgId) : Except String (Option Seen) := do
  let id ← id.toSql
  match s.msgs.row id with
  | none => .ok none
  | some msg =>
    if msg.chatId > 9 then
      match s.chats msg.chatId with
      | some chat => .ok (some ⟨id, msg, chat⟩)
      | none => .error "Invalid column type Null at index: 7, name: archived"
    else .ok none

def queryMsgs (s : State) : List MsgId → Except String (List Seen)
  | [] => .ok []
  | id :: ids => do
    let msg ← queryMsg s id
    let msgs ← queryMsgs s ids
    return msg.toList ++ msgs

def startTimers (real : RealAdd) (s : State) (now : I64) (ids : List MsgId) (msgs : List Seen) :
    Except String State :=
  if msgs.any fun m => m.msg.ephemeralTimer ≠ 0 then
    match startEphemeralTimersMsgids (fun f m => { m with toMsgRow := f m.toMsgRow }) real s.msgs now
        ids with
    | .ok msgs => .ok { s with msgs := msgs }
    | .error _ => .error "failed to start ephemeral timers"
  else .ok s

/-- `INSERT OR IGNORE INTO imap_markseen (id) SELECT id FROM imap WHERE rfc724_mid=?` -/
def markseenOnImapTable (s : State) (rfc724Mid : String) : State :=
  { s with imapMarkseen := s.imapMarkseen ∪ (s.imap.ids fun mid => mid = rfc724Mid).toFinset }

def isUnseen : MessageState → Bool
  | .inFresh | .inNoticed => true
  | _ => false

def Msg.wantsMdn (m : Msg) : Bool := (m.param.getBool .wantsMdn).getD false

def toSender (s : State) (m : Seen) : Bool :=
  m.chat.blocked = .not && !m.msg.hidden && m.msg.wantsMdn && m.msg.param.getCmd = .unknown &&
    s.mdnsEnabled

def toId (s : State) (m : Seen) : Option ContactId :=
  if toSender s m then some m.msg.fromId
  else if s.bccSelf then some ContactId.self
  else none

def updateMsgState (s : State) (id : MsgId) (state : MessageState) : State :=
  { s with msgs := s.msgs.update id fun r => { r with state := state } }

/-- what is written to `param` comes from what was read before the loop -/
def clearWantsMdn (s : State) (m : Seen) : State :=
  if toSender s m then
    { s with msgs := s.msgs.update m.id fun r => { r with param := m.msg.param.remove .wantsMdn } }
  else s

def queueMdn (s : State) (m : Seen) : State :=
  match toId s m with
  | some toId =>
    let mdn := { msgId := m.id, fromId := toId, rfc724Mid := m.msg.rfc724Mid }
    { s with smtpMdns := s.smtpMdns.insert mdn }
  | none => s

def markseen (s : State) (m : Seen) : State :=
  if isUnseen m.msg.state then
    let s := updateMsgState s m.id .inSeen
    let s := markseenOnImapTable s m.msg.rfc724Mid
    let s := clearWantsMdn s m
    queueMdn s m
  else s

def updatedChatIds (msgs : List Seen) : List ChatId :=
  ((msgs.filter fun m => isUnseen m.msg.state && !m.msg.hidden).map fun m =>
    m.msg.chatId).dedup.insertionSort (· ≤ ·)

def archivedChatsMaybeNoticed (msgs : List Seen) : Bool :=
  msgs.any fun m =>
    m.msg.state = .inFresh && !m.msg.hidden && m.chat.archived = .archived

def emitNoticed (s : State) (msgs : List Seen) : State :=
  let noticed := (updatedChatIds msgs).flatMap fun chatId =>
    [.msgsNoticed chatId, .chatlistItemChanged chatId]
  let archived := if archivedChatsMaybeNoticed msgs then [.archivedChatsMaybeNoticed] else []
  { s with events := s.events ++ noticed ++ archived }

/-- the ids of the messages that were read are not special, so the statements of the loop do not
fail -/
def markseenMsgs (real : RealAdd) (s : State) (now : I64) (ids : List MsgId) :
    State × Except String Unit :=
  if ids = [] then (s, .ok ())
  else
    let s := { s with lastMsgId := ids.foldl max s.lastMsgId }
    match queryMsgs s ids with
    | .error e => (s, .error e)
    | .ok msgs =>
      match startTimers real s now ids msgs with
      | .error e => (s, .error e)
      | .ok s => (emitNoticed (msgs.foldl markseen s) msgs, .ok ())

/-- `SELECT id FROM msgs WHERE state IN (…) AND hidden=0 AND chat_id=?
ORDER BY timestamp DESC, id DESC LIMIT 1` -/
def lastIncoming (s : State) (chatId : ChatId) : Option MsgId :=
  let ids := s.msgs.ids fun m =>
    (isUnseen m.state || m.state = .inSeen) && !m.hidden && m.chatId = chatId
  let timestamp := fun id => (s.msgs.row id).elim I64.zero Msg.timestamp
  (ids.filter fun id => ids.all fun id' => timestamp id' ≤ timestamp id).getLast?

def markfreshChat (s : State) (chatId : ChatId) : State :=
  match lastIncoming s chatId with
  | none => s
  | some id =>
    if (s.msgs.row id).any fun m => m.state ≠ .inFresh then
      { s with
        msgs := s.msgs.update id fun r => { r with state := .inFresh }
        events := s.events ++ [.msgsChanged chatId, .chatlistItemChanged chatId] }
    else s

/-! ## runs -/

inductive Op where
  | markseenMsgs (now : I64) (ids : List MsgId)
  | markfreshChat (chatId : ChatId)
  | setConfig (mdnsEnabled bccSelf : Bool)

section
variable (real : RealAdd)

def step (s : State) : Op → State
  | .markseenMsgs now ids => (markseenMsgs real s now ids).1
  | .markfreshChat chatId => markfreshChat s chatId
  | .setConfig mdnsEnabled bccSelf => { s with mdnsEnabled := mdnsEnabled, bccSelf := bccSelf }

/-- the receipts of a message that are queued to a contact -/
def receipts (t : Mdns) (id : MsgId) (c : ContactId) : ℕ :=
  (t.ids fun r => r.msgId = id && r.fromId = c).length

def due (s : State) (id : MsgId) : Bool :=
  (queryMsg s id).toOption.join.any fun m =>
    isUnseen m.msg.state && toId s m = some m.msg.fromId

/-- the call succeeds, and queues a receipt to the sender -/
def answers (id : MsgId) (s : State) : Op → Bool
  | .markseenMsgs now ids => decide (id ∈ ids) && due s id && (markseenMsgs real s now ids).2.isOk
  | _ => false

def listed (id : MsgId) : Op → ℕ
  | .markseenMsgs _ ids => ids.count id
  | _ => 0

def answeringCalls (id : MsgId) : State → List Op → ℕ
  | _, [] => 0
  | s, op :: ops => (if answers real id s op then 1 else 0) + answeringCalls id (step real s op) ops

/-- a call that answers lists the message once -/
def ListedOnce (id : MsgId) (s : State) (op : Op) : Prop := answers real id s op → listed id op ≤ 1

end

/-! ## one turn of the loop -/

section
variable {s : State} {id : MsgId} {c : ContactId}
variable {s' : State} {msgs : List Seen} {m : Msg} {op : Op}

def config (s : State) : Bool × Bool := (s.mdnsEnabled, s.bccSelf)

theorem toSender_congr (h : config s' = config s) (m : Seen) : toSender s' m = toSender s m := by
  unfold toSender
  rw [show s'.mdnsEnabled = s.mdnsEnabled from congrArg Prod.fst h]

theorem toId_congr (h : config s' = config s) (m : Seen) : toId s' m = toId s m := by
  unfold toId
  rw [toSender_congr h, show s'.bccSelf = s.bccSelf from congrArg Prod.snd h]

/-- a turn for a message that was not seen -/
structure Turn (s : State) (m : Seen) (s' : State) : Prop where
  config : config s' = config s
  smtpMdns : s'.smtpMdns = (toId s m).elim s.smtpMdns fun toId =>
    s.smtpMdns.insert { msgId := m.id, fromId := toId, rfc724Mid := m.msg.rfc724Mid }
  msgs : s'.msgs =
    let t := s.msgs.update m.id fun r => { r with state := .inSeen }
    if toSender s m then t.update m.id fun r => { r with param := m.msg.param.remove .wantsMdn }
    else t

theorem markseen_turn {m : Seen} (h : isUnseen m.msg.state) : Turn s m (markseen s m) := by
  let s₁ := markseenOnImapTable (updateMsgState s m.id .inSeen) m.msg.rfc724Mid
  let s₂ := clearWantsMdn s₁ m
  have hmarkseen : markseen s m = queueMdn s₂ m := if_pos h
  have hclear : MarkSeen.config s₂ = MarkSeen.config s ∧ s₂.smtpMdns = s.smtpMdns ∧
      s₂.msgs = if toSender s m then s₁.msgs.update m.id fun r =>
        { r with param := m.msg.param.remove .wantsMdn } else s₁.msgs := by
    show MarkSeen.config (if toSender s m then _ else _ : State) = _ ∧
      (if toSender s m then _ else _ : State).smtpMdns = _ ∧
      (if toSender s m then _ else _ : State).msgs = _
    split <;> exact ⟨rfl, rfl, rfl⟩
  obtain ⟨hconfig, hmdns, hmsgs⟩ := hclear
  rw [hmarkseen, queueMdn, toId_congr hconfig]
  cases hto : toId s m with
  | none => exact ⟨hconfig, by rw [hto]; exact hmdns, hmsgs⟩
  | some c =>
    refine ⟨hconfig, ?_, hmsgs⟩
    rw [hto]
    exact congrArg (fun t : Mdns => t.insert _) hmdns

theorem markseen_config (s : State) (m : Seen) : config (markseen s m) = config s := by
  by_cases h : isUnseen m.msg.state
  · exact (markseen_turn h).config
  · rw [markseen, if_neg h]

theorem foldl_markseen_config (msgs : List Seen) : config (msgs.foldl markseen s) = config s := by
  induction msgs generalizing s with
  | nil => rfl
  | cons m msgs ih => exact ih.trans (markseen_config s m)

def answered (s : State) (c : ContactId) (m : Seen) : Bool :=
  isUnseen m.msg.state && toId s m = some c

theorem answered_congr (h : config s' = config s) : answered s' c = answered s c := by
  funext m
  unfold answered
  rw [toId_congr h]

theorem receipts_markseen (s : State) (m : Seen) :
    receipts (markseen s m).smtpMdns id c =
      receipts s.smtpMdns id c + if m.id = id && answered s c m then 1 else 0 := by
  unfold answered receipts
  by_cases h : isUnseen m.msg.state
  · rw [(markseen_turn h).smtpMdns]
    cases hto : toId s m with
    | none => simp
    | some c' => simp [h, IdTable.length_ids_insert]
  · rw [markseen, if_neg h]
    simp [h]

theorem receipts_foldl (msgs : List Seen) :
    receipts (msgs.foldl markseen s).smtpMdns id c =
      receipts s.smtpMdns id c + msgs.countP fun m => m.id = id && answered s c m := by
  induction msgs generalizing s with
  | nil => rfl
  | cons m msgs ih =>
    rw [List.foldl_cons, ih, receipts_markseen, answered_congr (markseen_config s m),
      List.countP_cons]
    omega

/-! ## what a call reads -/

theorem queryMsg_some {m : Seen} {i : MsgId} (h : queryMsg s i = .ok (some m)) :
    m.id = i ∧ s.msgs.row i = some m.msg := by
  obtain ⟨id, hid, h⟩ := ok_of_bind_ok h
  rw [MsgId.toSql_eq_ok hid] at h
  split at h
  · cases h
  · next msg hrow =>
    split at h
    · split at h
      · cases h
        exact ⟨rfl, hrow⟩
      · cases h
    · cases h

theorem queryMsgs_countP (p : Seen → Bool) (ids : List MsgId) (h : queryMsgs s ids = .ok msgs) :
    msgs.countP (fun m => m.id = id && p m) =
      if (queryMsg s id).toOption.join.any p then ids.count id else 0 := by
  induction ids generalizing msgs with
  | nil =>
    cases h
    simp
  | cons i ids ih =>
    obtain ⟨found, hfound, h⟩ := ok_of_bind_ok h
    obtain ⟨rest, hrest, h⟩ := ok_of_bind_ok h
    cases h
    rw [List.countP_append, ih hrest]
    have hid : ∀ m, found = some m → m.id = i := fun m e => (queryMsg_some (e ▸ hfound)).1
    by_cases e : i = id
    · subst e
      rw [hfound, List.count_cons_self]
      show _ = if found.any p then _ else _
      cases found with
      | none => rfl
      | some m =>
        show List.countP _ [m] + (if p m then _ else 0) = if p m then _ else 0
        by_cases hp : p m
        · rw [if_pos hp, if_pos hp, List.countP_singleton, if_pos (by simp [hid m rfl, hp])]
          omega
        · rw [if_neg hp, if_neg hp, List.countP_singleton, if_neg (by simp [hp])]
    · have hnone : found.toList.countP (fun m => m.id = id && p m) = 0 := by
        cases found with
        | none => rfl
        | some m => exact (List.countP_singleton ..).trans (if_neg (by simp [hid m rfl, e]))
      rw [hnone, List.count_cons_of_ne e, Nat.zero_add]

theorem queryMsgs_mem {ids : List MsgId} {m : Seen} (h : queryMsgs s ids = .ok msgs)
    (hmem : id ∈ ids) (hm : queryMsg s id = .ok (some m)) : m ∈ msgs := by
  induction ids generalizing msgs with
  | nil => cases hmem
  | cons i ids ih =>
    obtain ⟨found, hfound, h⟩ := ok_of_bind_ok h
    obtain ⟨rest, hrest, h⟩ := ok_of_bind_ok h
    cases h
    rcases List.mem_cons.mp hmem with rfl | hmem
    · cases hm.symm.trans hfound
      exact List.mem_append_left _ (List.mem_singleton_self m)
    · exact List.mem_append_right _ (ih hrest hmem)

/-! ## the flag -/

theorem wantsMdn_remove (m : Msg) (p : Params) :
    ({ m with param := p.remove .wantsMdn } : Msg).wantsMdn = false := by
  unfold Msg.wantsMdn Params.getBool Params.getInt Params.getI64
  rw [Params.get_remove_self]
  rfl

def Kept (m m' : Msg) : Prop := m'.fromId = m.fromId ∧ (m'.wantsMdn → m.wantsMdn)

def TableKept (t t' : IdTable Msg) : Prop :=
  ∀ id m, t.row id = some m → ∃ m', t'.row id = some m' ∧ Kept m m'

theorem TableKept.refl (t : IdTable Msg) : TableKept t t := fun _ m h => ⟨m, h, rfl, fun hw => hw⟩

theorem TableKept.trans {t t' t'' : IdTable Msg} (h : TableKept t t') (h' : TableKept t' t'') :
    TableKept t t'' := by
  intro id m hm
  obtain ⟨m', hm', hfrom, hwants⟩ := h id m hm
  obtain ⟨m'', hm'', hfrom', hwants'⟩ := h' id m' hm'
  exact ⟨m'', hm'', hfrom'.trans hfrom, fun hw => hwants (hwants' hw)⟩

theorem TableKept.update (t : IdTable Msg) (i : MsgId) {f : Msg → Msg} (hf : ∀ r, Kept r (f r)) :
    TableKept t (t.update i f) := by
  intro id m hm
  by_cases e : id = i
  · subst e
    exact ⟨f m, IdTable.update_row_self f hm, hf m⟩
  · exact ⟨m, (IdTable.update_row_of_ne f e).trans hm, rfl, fun hw => hw⟩

theorem TableKept.foldl {ι σ : Type} (msgs : σ → IdTable Msg) {f : σ → ι → σ}
    (hf : ∀ s i, TableKept (msgs s) (msgs (f s i))) (l : List ι) (s : σ) :
    TableKept (msgs s) (msgs (l.foldl f s)) := by
  induction l generalizing s with
  | nil => exact TableKept.refl _
  | cons i l ih => exact (hf s i).trans (ih (f s i))

theorem markseen_kept (s : State) (m : Seen) : TableKept s.msgs (markseen s m).msgs := by
  by_cases h : isUnseen m.msg.state
  · have hseen : TableKept s.msgs (s.msgs.update m.id fun r => { r with state := .inSeen }) :=
      TableKept.update _ _ fun _ => ⟨rfl, fun hw => hw⟩
    rw [(markseen_turn h).msgs]
    dsimp only
    split
    · refine hseen.trans (TableKept.update _ _ fun r => ⟨rfl, fun hw => ?_⟩)
      rw [wantsMdn_remove] at hw
      cases hw
    · exact hseen
  · rw [markseen, if_neg h]
    exact TableKept.refl _

theorem startTimers_spec {real : RealAdd} {s : State} {now : I64} {ids : List MsgId}
    (h : startTimers real s now ids msgs = .ok s') :
    config s' = config s ∧ s'.smtpMdns = s.smtpMdns ∧ TableKept s.msgs s'.msgs := by
  unfold startTimers at h
  split at h
  · rw [startEphemeralTimersMsgids_eq] at h
    cases hfind : ids.find? MsgId.isSpecial with
    | some id =>
      rw [hfind] at h
      cases h
    | none =>
      rw [hfind] at h
      cases h
      refine ⟨rfl, rfl, TableKept.foldl id (f := fun t i => t.update i fun m : Msg =>
        { m with toMsgRow := Ephemeral.Start.startRow real now m.toMsgRow }) (fun t i => ?_) ids s.msgs⟩
      exact TableKept.update t i fun r => ⟨rfl, fun hw => hw⟩
  · cases h
    exact ⟨rfl, rfl, TableKept.refl _⟩

theorem markfreshChat_kept (s : State) (chatId : ChatId) :
    TableKept s.msgs (markfreshChat s chatId).msgs := by
  unfold markfreshChat
  split
  · exact TableKept.refl _
  · split
    · exact TableKept.update _ _ fun _ => ⟨rfl, fun hw => hw⟩
    · exact TableKept.refl _

theorem markseen_cleared {m : Seen} {r : Msg} (hs : toSender s m) (hu : isUnseen m.msg.state)
    (hr : (markseen s m).msgs.row m.id = some r) : r.wantsMdn = false := by
  rw [(markseen_turn hu).msgs] at hr
  dsimp only at hr
  rw [if_pos hs] at hr
  obtain ⟨r', -, rfl⟩ := Option.map_eq_some_iff.mp ((updateRow_self _ _ _).symm.trans hr)
  exact wantsMdn_remove r' m.msg.param

/-! ## one call -/

theorem queryMsgs_lastMsgId (s : State) (n : MsgId) (ids : List MsgId) :
    queryMsgs { s with lastMsgId := n } ids = queryMsgs s ids := by
  induction ids with
  | nil => rfl
  | cons i ids ih =>
    show (do
      let msg ← queryMsg s i
      let msgs ← queryMsgs { s with lastMsgId := n } ids
      return msg.toList ++ msgs) = _
    rw [ih]
    rfl

/-- a call fails before the loop, or the loop starts from a state in which only the timers may be
others -/
theorem markseenMsgs_cases (real : RealAdd) (s : State) (now : I64) (ids : List MsgId) :
    (∃ n, (markseenMsgs real s now ids).1 = { s with lastMsgId := n } ∧
        (ids = [] ∨ (markseenMsgs real s now ids).2.isOk = false)) ∨
      ∃ msgs s' events, queryMsgs s ids = .ok msgs ∧
        (config s' = config s ∧ s'.smtpMdns = s.smtpMdns ∧ TableKept s.msgs s'.msgs) ∧
        markseenMsgs real s now ids = ({ msgs.foldl markseen s' with events := events }, .ok ()) := by
  unfold markseenMsgs
  by_cases hnil : ids = []
  · rw [if_pos hnil]
    exact .inl ⟨s.lastMsgId, rfl, .inl hnil⟩
  · rw [if_neg hnil]
    dsimp only
    rw [queryMsgs_lastMsgId]
    cases hq : queryMsgs s ids with
    | error e => exact .inl ⟨_, rfl, .inr rfl⟩
    | ok msgs =>
      dsimp only
      cases ht : startTimers real { s with lastMsgId := ids.foldl max s.lastMsgId } now ids msgs with
      | error e => exact .inl ⟨_, rfl, .inr rfl⟩
      | ok s' =>
        obtain ⟨hconfig, hmdns, hkept⟩ := startTimers_spec ht
        exact .inr ⟨msgs, s', _, rfl, ⟨hconfig, hmdns, hkept⟩, rfl⟩

variable (real : RealAdd)

theorem receipts_step (hm : s.msgs.row id = some m) (op : Op) :
    receipts (step real s op).smtpMdns id m.fromId =
      receipts s.smtpMdns id m.fromId + if answers real id s op then listed id op else 0 := by
  cases op with
  | markfreshChat chatId =>
    show receipts (markfreshChat s chatId).smtpMdns id m.fromId = _
    unfold markfreshChat
    split
    · rfl
    · split <;> rfl
  | setConfig mdnsEnabled bccSelf => rfl
  | markseenMsgs now ids =>
    show receipts (markseenMsgs real s now ids).1.smtpMdns id m.fromId = _ +
      if (decide (id ∈ ids) && due s id && (markseenMsgs real s now ids).2.isOk) = true then
        ids.count id else 0
    rcases markseenMsgs_cases real s now ids with
      ⟨n, heq, hnot⟩ | ⟨msgs, s', events, hok, ⟨hconfig, hmdns, -⟩, heq⟩
    · rw [heq]
      rcases hnot with rfl | hnot
      · rfl
      · rw [hnot, Bool.and_false]
        rfl
    · have hdue : (queryMsg s id).toOption.join.any (answered s m.fromId) = due s id := by
        unfold due
        rcases hq : queryMsg s id with e | _ | m'
        · rfl
        · rfl
        · have hrow := (queryMsg_some hq).2.symm.trans hm
          cases hrow
          rfl
      rw [heq]
      show receipts (msgs.foldl markseen s').smtpMdns id m.fromId = _
      rw [receipts_foldl, hmdns, answered_congr hconfig, queryMsgs_countP _ ids hok, hdue]
      by_cases hmem : id ∈ ids
      · simp [hmem, Except.isOk, Except.toBool]
      · simp [hmem, List.count_eq_zero_of_not_mem hmem]

theorem step_kept (s : State) (op : Op) : TableKept s.msgs (step real s op).msgs := by
  cases op with
  | markfreshChat chatId => exact markfreshChat_kept s chatId
  | setConfig mdnsEnabled bccSelf => exact TableKept.refl _
  | markseenMsgs now ids =>
    show TableKept s.msgs (markseenMsgs real s now ids).1.msgs
    rcases markseenMsgs_cases real s now ids with
      ⟨n, heq, -⟩ | ⟨msgs, s', events, -, ⟨-, -, hkept⟩, heq⟩
    · rw [heq]
      exact TableKept.refl _
    · rw [heq]
      exact hkept.trans (TableKept.foldl State.msgs markseen_kept msgs s')

theorem toSender_of_toId {m : Seen} (h : toId s m = some m.msg.fromId)
    (hself : m.msg.fromId ≠ ContactId.self) : toSender s m := by
  unfold toId at h
  split at h
  · next hs => exact hs
  · split at h
    · exact absurd (Option.some.inj h).symm hself
    · cases h

theorem due_some (h : due s id) : ∃ m, queryMsg s id = .ok (some m) ∧ isUnseen m.msg.state ∧
    toId s m = some m.msg.fromId := by
  unfold due at h
  rcases hq : queryMsg s id with e | _ | m
  · rw [hq] at h
    cases h
  · rw [hq] at h
    cases h
  · rw [hq] at h
    have hboth := Bool.and_eq_true_iff.mp h
    exact ⟨m, rfl, hboth.1, of_decide_eq_true hboth.2⟩

theorem answers_some (h : answers real id s op) :
    ∃ now ids, ∃ m : Seen, ∃ msgs : List Seen, ∃ s' events,
      op = .markseenMsgs now ids ∧ m ∈ msgs ∧ m.id = id ∧ s.msgs.row id = some m.msg ∧
      isUnseen m.msg.state ∧ toId s m = some m.msg.fromId ∧ id ∈ ids ∧
      (config s' = config s ∧ TableKept s.msgs s'.msgs) ∧
      step real s op = { msgs.foldl markseen s' with events := events } := by
  cases op with
  | markfreshChat chatId => cases h
  | setConfig mdnsEnabled bccSelf => cases h
  | markseenMsgs now ids =>
    change (decide (id ∈ ids) && due s id && (markseenMsgs real s now ids).2.isOk) = true at h
    simp only [Bool.and_eq_true, decide_eq_true_eq] at h
    obtain ⟨⟨hmem, hdue⟩, hisOk⟩ := h
    obtain ⟨m, hq, hunseen, hto⟩ := due_some hdue
    obtain ⟨hid, hrow⟩ := queryMsg_some hq
    rcases markseenMsgs_cases real s now ids with
      ⟨n, -, hnot⟩ | ⟨msgs, s', events, hok, ⟨hconfig, -, hkept⟩, heq⟩
    · rcases hnot with rfl | hnot
      · cases hmem
      · rw [hisOk] at hnot
        cases hnot
    · exact ⟨now, ids, m, msgs, s', events, rfl, queryMsgs_mem hok hmem hq, hid, hrow, hunseen, hto,
        hmem, ⟨hconfig, hkept⟩, congrArg Prod.fst heq⟩

theorem not_answers (hm : s.msgs.row id = some m) (hself : m.fromId ≠ ContactId.self)
    (hwants : m.wantsMdn = false) (op : Op) : answers real id s op = false := by
  rw [Bool.eq_false_iff]
  intro h
  obtain ⟨-, -, seen, -, -, -, -, -, -, hrow, -, hto, -⟩ := answers_some real h
  cases hrow.symm.trans hm
  have hs := toSender_of_toId hto hself
  unfold toSender at hs
  rw [hwants, Bool.and_false, Bool.false_and, Bool.false_and] at hs
  cases hs

theorem step_cleared {m' : Msg} (hm : s.msgs.row id = some m) (hself : m.fromId ≠ ContactId.self)
    (h : answers real id s op) (hm' : (step real s op).msgs.row id = some m') :
    m'.wantsMdn = false := by
  obtain ⟨now, ids, seen, msgs, s', events, -, hseen, hid, hrow, hunseen, hto, -,
    ⟨hconfig, hstart⟩, heq⟩ := answers_some real h
  cases hrow.symm.trans hm
  have hs := toSender_of_toId hto hself
  obtain ⟨before, after, rfl⟩ := List.append_of_mem hseen
  -- the flag is cleared in the turn of the message, and stays so in the turns after it
  let s₁ := before.foldl markseen s'
  have hs₁ : toSender s₁ seen := by
    rw [toSender_congr ((foldl_markseen_config before).trans hconfig)]
    exact hs
  have hkept : TableKept s₁.msgs (markseen s₁ seen).msgs := markseen_kept s₁ seen
  have hafter := TableKept.foldl State.msgs markseen_kept after (markseen s₁ seen)
  have hbefore := hstart.trans (TableKept.foldl State.msgs markseen_kept before s')
  obtain ⟨m₁, hm₁, -⟩ := (hbefore.trans hkept) id _ hm
  obtain ⟨m₂, hm₂, -, hwants⟩ := hafter id m₁ hm₁
  rw [heq] at hm'
  change ((before ++ seen :: after).foldl markseen _).msgs.row id = some m' at hm'
  rw [List.foldl_append, List.foldl_cons] at hm'
  cases hm₂.symm.trans hm'
  rw [Bool.eq_false_iff]
  intro hset
  have hclear := markseen_cleared hs₁ hunseen (hid ▸ hm₁)
  rw [hclear] at hwants
  exact Bool.false_ne_true (hwants hset)

/-! ## whole runs -/

/-- how often each of the calls that answer lists the message -/
def sends (id : MsgId) : State → List Op → List ℕ
  | _, [] => []
  | s, op :: ops =>
    (if answers real id s op then [listed id op] else []) ++ sends id (step real s op) ops

theorem receipts_run (hm : s.msgs.row id = some m) (ops : List Op) :
    receipts (ops.foldl (step real) s).smtpMdns id m.fromId =
      receipts s.smtpMdns id m.fromId + (sends real id s ops).sum := by
  induction ops generalizing s m with
  | nil => rfl
  | cons op ops ih =>
    obtain ⟨m', hm', hfrom, -⟩ := step_kept real s op id m hm
    have hrest := ih hm'
    rw [hfrom] at hrest
    rw [List.foldl_cons, hrest, receipts_step real hm, sends, List.sum_append, Nat.add_assoc]
    split <;> rfl

theorem listed_pos (h : answers real id s op) : 0 < listed id op := by
  obtain ⟨now, ids, -, -, -, -, rfl, -, -, -, -, -, hmem, -⟩ := answers_some real h
  exact List.count_pos_iff.mpr hmem

theorem sends_spec (ops : List Op) :
    (sends real id s ops).length = answeringCalls real id s ops ∧
      (RunOk (step real) (ListedOnce real id) s ops ↔ ∀ n ∈ sends real id s ops, n ≤ 1) ∧
      ∀ n ∈ sends real id s ops, 0 < n := by
  induction ops generalizing s with
  | nil => exact ⟨rfl, iff_of_true trivial nofun, nofun⟩
  | cons op ops ih =>
    obtain ⟨hlength, honce, hpos⟩ := ih (s := step real s op)
    by_cases h : answers real id s op
    · have hone := listed_pos real h
      rw [sends, if_pos h, answeringCalls, if_pos h, List.singleton_append]
      refine ⟨by rw [List.length_cons, hlength, Nat.add_comm], ?_, List.forall_mem_cons.mpr ⟨hone, hpos⟩⟩
      rw [List.forall_mem_cons, ← honce]
      exact and_congr_left' ⟨fun hle => hle h, fun hle _ => hle⟩
    · rw [sends, if_neg h, answeringCalls, if_neg h, List.nil_append, Nat.zero_add]
      exact ⟨hlength, (and_iff_right fun hans => absurd hans h).trans honce, hpos⟩

theorem sum_le_one_iff {l : List ℕ} (hpos : ∀ n ∈ l, 0 < n) :
    l.sum ≤ 1 ↔ (∀ n ∈ l, n ≤ 1) ∧ l.length ≤ 1 := by
  match l with
  | [] => simp
  | [n] => simp
  | n :: n' :: l =>
    have hn := hpos n (by simp)
    have hn' := hpos n' (by simp)
    refine iff_of_false ?_ fun h => ?_
    · simp only [List.sum_cons]
      omega
    · have hlength := h.2
      simp at hlength

theorem answeringCalls_of_cleared (hm : s.msgs.row id = some m)
    (hself : m.fromId ≠ ContactId.self) (hwants : m.wantsMdn = false) (ops : List Op) :
    answeringCalls real id s ops = 0 := by
  induction ops generalizing s m with
  | nil => rfl
  | cons op ops ih =>
    obtain ⟨m', hm', hfrom, hkept⟩ := step_kept real s op id m hm
    have hwants' : m'.wantsMdn = false := by
      rw [Bool.eq_false_iff]
      intro hset
      exact Bool.false_ne_true (hwants.symm.trans (hkept hset))
    show (if answers real id s op then 1 else 0) + answeringCalls real id (step real s op) ops = 0
    rw [ih hm' (hfrom ▸ hself) hwants', not_answers real hm hself hwants op]
    rfl

/-- **someone else is answered by one call at most**, also after `markfresh_chat` -/
theorem answeringCalls_le_one (hm : s.msgs.row id = some m) (hself : m.fromId ≠ ContactId.self)
    (ops : List Op) : answeringCalls real id s ops ≤ 1 := by
  induction ops generalizing s m with
  | nil => exact Nat.zero_le 1
  | cons op ops ih =>
    obtain ⟨m', hm', hfrom, -⟩ := step_kept real s op id m hm
    show (if answers real id s op then 1 else 0) + answeringCalls real id (step real s op) ops ≤ 1
    by_cases h : answers real id s op
    · have hcleared := step_cleared real hm hself h hm'
      rw [if_pos h, answeringCalls_of_cleared real hm' (hfrom ▸ hself) hcleared]
    · rw [if_neg h, Nat.zero_add]
      exact ih hm' (hfrom ▸ hself)

end

/-- **A run queues at most one receipt to the sender IFF no call that answers lists the message
twice, and, if the sender is oneself, only one call answers.** -/
theorem one_receipt_iff (real : RealAdd) (s : State) (ops : List Op) (id : MsgId) (m : Msg)
    (hm : s.msgs.row id = some m) :
    receipts (ops.foldl (step real) s).smtpMdns id m.fromId ≤ receipts s.smtpMdns id m.fromId + 1 ↔
      RunOk (step real) (ListedOnce real id) s ops ∧
        (m.fromId = ContactId.self → answeringCalls real id s ops ≤ 1) := by
  obtain ⟨hlength, honce, hpos⟩ := @sends_spec s id real ops
  rw [receipts_run real hm, Nat.add_le_add_iff_left, sum_le_one_iff hpos, ← honce, hlength]
  refine and_congr_right fun _ => ⟨fun h _ => h, fun h => ?_⟩
  by_cases hself : m.fromId = ContactId.self
  · exact h hself
  · exact answeringCalls_le_one real hm hself ops

/-! ## a message listed twice -/

def wantedMsg : Msg where
  chatId := 12
  fromId := 11
  rfc724Mid := "m@x.org"
  state := .inFresh
  param := Params.new.set .wantsMdn "1"

def oneFresh : State where
  msgs := (IdTable.emptyAfter 10).insert wantedMsg
  chats := Function.update (fun _ => none) 12 (some {})
  mdnsEnabled := true
  bccSelf := false

theorem one_receipt_iff_refreshed :
    receipts ([.markseenMsgs I64.zero [11], .markfreshChat 12, .markseenMsgs I64.zero [11]].foldl
        (step Ephemeral.Start.exactReal) oneFresh).smtpMdns 11 11 ≤
      receipts oneFresh.smtpMdns 11 11 + 1 := by
  refine (one_receipt_iff _ oneFresh _ 11 wantedMsg (IdTable.insert_row_new _ _)).mpr ⟨?_, nofun⟩
  exact ⟨fun _ => le_refl 1, fun _ => Nat.zero_le 1, fun _ => le_refl 1, trivial⟩

/-- one call that lists the message twice queues two receipts -/
theorem two_receipts :
    receipts ([.markseenMsgs I64.zero [11, 11]].foldl (step Ephemeral.Start.exactReal)
      oneFresh).smtpMdns 11 11 = 2 := by
  decide +kernel

end EpsilonChat.MarkSeen
