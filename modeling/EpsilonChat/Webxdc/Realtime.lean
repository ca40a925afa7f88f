import EpsilonChat.Base.Ids
import EpsilonChat.Lib.Eff
import Mathlib

/-!
# Realtime channels

The apps of a webxdc instance talk over a gossip topic.  A message on the wire is the data of the
app, a sequence number and the public key of the sender; `subscribe_loop` cuts the last 36 bytes off
and hands the rest to the app.  The length is computed by subtraction, without a check, and whatever
fails in the loop ENDS it.

* `sendWebxdcRealtimeData`: what is put on the wire;
* `dataRange`: the bytes that belong to the app, by the arithmetic of a release build;
* `subscribeLoop`: the receiver;
* `stops`: the items after which nothing is received any more;
* `subscribeLoop_run`: the loop up to there;
* **`delivers_iff`**: every message that is long enough is delivered, in order, and no length
  underflows IFF the first item that stops the loop is no short message and has no such message
  behind it;
* `delivers_broadcasts`: a topic on which only `send_webxdc_realtime_data` speaks.
-/

namespace EpsilonChat.Realtime
open Lib

abbrev Bytes := List UInt8

abbrev PublicKey := { key : Bytes // key.length = 32 }

def toLeBytes (n : BitVec 32) : Bytes :=
  (List.range 4).map fun i => ⟨n.extractLsb' (8 * i) 8⟩

def getAndIncr (seqNum : BitVec 32) : BitVec 32 := seqNum + 1

def broadcast (publicKey : PublicKey) (seqNum : BitVec 32) (data : Bytes) : Bytes :=
  data ++ toLeBytes seqNum ++ publicKey.val

def sendWebxdcRealtimeData (publicKey : PublicKey) (seqNum : BitVec 32) (data : Bytes) :
    BitVec 32 × Bytes :=
  let seqNum := getAndIncr seqNum
  (seqNum, broadcast publicKey seqNum data)

/-! ## the receiver -/

structure Peer where
  node : PublicKey
  stored : Bool := true

inductive GossipEvent where
  | joined (nodes : List Peer)
  | neighborUp (node : Peer)
  | neighborDown (node : PublicKey)
  | received (content : Bytes)

inductive Event where
  | gossip (event : GossipEvent)
  | lagged

/-- what `try_next` gives -/
inductive Item where
  | event (event : Event)
  | error

structure RealtimeData where
  msgId : MsgId
  data : Bytes
  deriving DecidableEq

inductive LoopError where
  | stream
  | sql
  /-- "too few bytes in iroh message" -/
  | tooFewBytes
  deriving DecidableEq, Repr

structure Receiver where
  /-- `join_tx` was sent -/
  joinSent : Bool := false
  /-- the rows of `iroh_gossip_peers` for this instance -/
  peers : List PublicKey := []
  emitted : List RealtimeData := []
  /-- some subtraction of lengths went below zero -/
  underflow : Bool := false

/-- `usize` subtraction in a release build -/
def usizeSub (a b : ℕ) : ℕ := if b ≤ a then a - b else a + 2 ^ 64 - b

/-- `len - 4 - PUBLIC_KEY_LENGTH`, and whether a subtraction underflows -/
def dataRange (len : ℕ) : ℕ × Bool :=
  let n := usizeSub len 4
  (usizeSub n 32, len < 4 || n < 32)

section
variable (msgId : MsgId)

abbrev Prog := Eff Receiver LoopError

/-- `INSERT OR REPLACE INTO iroh_gossip_peers` -/
def irohAddPeerForTopic (peer : Peer) : Prog Unit :=
  if peer.stored then
    Eff.modify fun s => { s with peers := s.peers.filter (· ≠ peer.node) ++ [peer.node] }
  else Eff.fail .sql

def addPeers : List Peer → Prog Unit
  | [] => pure ()
  | peer :: peers => do
    irohAddPeerForTopic peer
    addPeers peers

/-- `content.get(0..n).context("too few bytes in iroh message")?` -/
def emitData (content : Bytes) : Prog Unit := do
  let range := dataRange content.length
  Eff.modify fun s => { s with underflow := s.underflow || range.2 }
  Eff.ensure (range.1 ≤ content.length) .tooFewBytes
  Eff.modify fun s => { s with emitted := s.emitted ++ [⟨msgId, content.take range.1⟩] }

def handleItem : Item → Prog Unit
  | .event (.gossip (.joined nodes)) => do
    Eff.modify fun s => { s with joinSent := true }
    addPeers nodes
  | .event (.gossip (.neighborUp node)) => irohAddPeerForTopic node
  | .event (.gossip (.neighborDown _)) => pure ()
  | .event (.gossip (.received content)) => emitData msgId content
  | .event .lagged => pure ()
  | .error => Eff.fail .stream

def subscribeLoop : List Item → Prog Unit
  | [] => pure ()
  | item :: items => do
    handleItem msgId item
    subscribeLoop items

end

theorem dataRange_of_le {len : ℕ} (h : 36 ≤ len) : dataRange len = (len - 36, false) := by
  have h4 : 4 ≤ len := by omega
  have h32 : 32 ≤ len - 4 := by omega
  unfold dataRange usizeSub
  rw [if_pos h4]
  dsimp only
  rw [if_pos h32, decide_eq_false (by omega), decide_eq_false (by omega)]
  show (len - 4 - 32, false) = (len - 36, false)
  rw [Nat.sub_sub]

/-- one of the two subtractions underflows, and the range ends far behind the message -/
theorem dataRange_of_lt {len : ℕ} (h : len < 36) :
    len < (dataRange len).1 ∧ (dataRange len).2 = true := by
  unfold dataRange usizeSub
  dsimp only
  by_cases h4 : 4 ≤ len
  · rw [if_pos h4, if_neg (by omega), Bool.or_eq_true, decide_eq_true_iff, decide_eq_true_iff]
    omega
  · rw [if_neg h4, if_pos (by omega), Bool.or_eq_true, decide_eq_true_iff, decide_eq_true_iff]
    omega

/-! ## one item -/

def wanted (msgId : MsgId) : Item → Option RealtimeData
  | .event (.gossip (.received content)) =>
    if 36 ≤ content.length then some ⟨msgId, content.take (content.length - 36)⟩ else none
  | _ => none

def isShort : Item → Bool
  | .event (.gossip (.received content)) => content.length < 36
  | _ => false

/-- the loop does not get past the item: a short message, a peer that the database does not take, or
the end of the stream by an error -/
def stops : Item → Bool
  | .event (.gossip (.joined nodes)) => nodes.any fun peer => !peer.stored
  | .event (.gossip (.neighborUp node)) => !node.stored
  | .event (.gossip (.received content)) => content.length < 36
  | .error => true
  | _ => false

def SameData (s s' : Receiver) : Prop := s'.emitted = s.emitted ∧ s'.underflow = s.underflow

theorem irohAddPeerForTopic_run (peer : Peer) (s : Receiver) :
    ∃ s', SameData s s' ∧ irohAddPeerForTopic peer s =
      (s', if peer.stored then .ok () else .error .sql) := by
  unfold irohAddPeerForTopic
  cases peer.stored with
  | false => exact ⟨s, ⟨rfl, rfl⟩, rfl⟩
  | true =>
    exact ⟨{ s with peers := s.peers.filter (· ≠ peer.node) ++ [peer.node] }, ⟨rfl, rfl⟩, rfl⟩

theorem addPeers_run (peers : List Peer) (s : Receiver) :
    ∃ s', SameData s s' ∧ addPeers peers s =
      (s', if peers.any fun peer => !peer.stored then .error .sql else .ok ()) := by
  induction peers generalizing s with
  | nil => exact ⟨s, ⟨rfl, rfl⟩, rfl⟩
  | cons peer peers ih =>
    obtain ⟨s₁, h₁, hrun⟩ := irohAddPeerForTopic_run peer s
    rw [addPeers, List.any_cons]
    cases hstored : peer.stored with
    | false =>
      rw [hstored] at hrun
      exact ⟨s₁, h₁, Eff.bind_of_error hrun _⟩
    | true =>
      rw [hstored] at hrun
      obtain ⟨s', h', hrest⟩ := ih s₁
      exact ⟨s', ⟨h'.1.trans h₁.1, h'.2.trans h₁.2⟩, (Eff.bind_of_ok hrun _).trans hrest⟩

section
variable {msgId : MsgId} {item : Item}

theorem emitData_of_le {content : Bytes} (h : 36 ≤ content.length) (s : Receiver) :
    ∃ s', emitData msgId content s = (s', .ok ()) ∧
      s'.emitted = s.emitted ++ [⟨msgId, content.take (content.length - 36)⟩] ∧
      s'.underflow = s.underflow := by
  have hle : content.length - 36 ≤ content.length := Nat.sub_le _ _
  refine ⟨{ s with
    underflow := s.underflow || false
    emitted := s.emitted ++ [⟨msgId, content.take (content.length - 36)⟩] }, ?_, rfl,
    Bool.or_false _⟩
  unfold emitData
  rw [dataRange_of_le h]
  dsimp only
  rw [decide_eq_true hle]
  rfl

theorem emitData_of_lt (msgId : MsgId) {content : Bytes} (h : content.length < 36) (s : Receiver) :
    ∃ s', emitData msgId content s = (s', .error .tooFewBytes) ∧ s'.emitted = s.emitted ∧
      s'.underflow = true := by
  obtain ⟨hlt, hunder⟩ := dataRange_of_lt h
  refine ⟨{ s with underflow := s.underflow || true }, ?_, rfl, Bool.or_true _⟩
  unfold emitData
  rw [decide_eq_false (Nat.not_le.mpr hlt), hunder]
  rfl

theorem handleItem_go (h : stops item = false) (s : Receiver) :
    ∃ s', handleItem msgId item s = (s', .ok ()) ∧
      s'.emitted = s.emitted ++ (wanted msgId item).toList ∧ s'.underflow = s.underflow := by
  have hnothing : ∀ s', SameData s s' → s'.emitted = s.emitted ++ [] ∧ s'.underflow = s.underflow :=
    fun s' h => ⟨h.1.trans (List.append_nil _).symm, h.2⟩
  match item with
  | .event (.gossip (.joined nodes)) =>
    change (nodes.any fun peer => !peer.stored) = false at h
    obtain ⟨s', hs', hrun⟩ := addPeers_run nodes { s with joinSent := true }
    rw [h] at hrun
    exact ⟨s', hrun, hnothing s' hs'⟩
  | .event (.gossip (.neighborUp node)) =>
    change (!node.stored) = false at h
    obtain ⟨s', hs', hrun⟩ := irohAddPeerForTopic_run node s
    have hstored : node.stored = true := by simpa using h
    rw [hstored] at hrun
    exact ⟨s', hrun, hnothing s' hs'⟩
  | .event (.gossip (.neighborDown _)) => exact ⟨s, rfl, hnothing s ⟨rfl, rfl⟩⟩
  | .event (.gossip (.received content)) =>
    have hle : 36 ≤ content.length := Nat.not_lt.mp (of_decide_eq_false h)
    have hwanted : wanted msgId (.event (.gossip (.received content))) =
        some ⟨msgId, content.take (content.length - 36)⟩ := if_pos hle
    rw [hwanted]
    exact emitData_of_le hle s
  | .event .lagged => exact ⟨s, rfl, hnothing s ⟨rfl, rfl⟩⟩
  | .error => cases h

theorem handleItem_stop (h : stops item = true) (s : Receiver) :
    ∃ s' e, handleItem msgId item s = (s', .error e) ∧ s'.emitted = s.emitted ∧
      s'.underflow = (s.underflow || isShort item) := by
  match item with
  | .event (.gossip (.joined nodes)) =>
    change (nodes.any fun peer => !peer.stored) = true at h
    obtain ⟨s', hs', hrun⟩ := addPeers_run nodes { s with joinSent := true }
    rw [h] at hrun
    exact ⟨s', _, hrun, hs'.1, hs'.2.trans (Bool.or_false _).symm⟩
  | .event (.gossip (.neighborUp node)) =>
    change (!node.stored) = true at h
    obtain ⟨s', hs', hrun⟩ := irohAddPeerForTopic_run node s
    have hstored : node.stored = false := by simpa using h
    rw [hstored] at hrun
    exact ⟨s', _, hrun, hs'.1, hs'.2.trans (Bool.or_false _).symm⟩
  | .event (.gossip (.neighborDown _)) => cases h
  | .event (.gossip (.received content)) =>
    have hlt : content.length < 36 := of_decide_eq_true h
    obtain ⟨s', hrun, hemitted, hunder⟩ := emitData_of_lt msgId hlt s
    refine ⟨s', _, hrun, hemitted, hunder.trans ?_⟩
    show true = (s.underflow || decide (content.length < 36))
    rw [decide_eq_true hlt, Bool.or_true]
  | .event .lagged => cases h
  | .error => exact ⟨s, _, rfl, rfl, (Bool.or_false _).symm⟩

/-! ## the loop -/

def passed (items : List Item) : List Item := items.takeWhile fun item => !stops item

def unread (items : List Item) : List Item := items.dropWhile fun item => !stops item

theorem passed_cons (items : List Item) :
    passed (item :: items) = if stops item then [] else item :: passed items := by
  unfold passed
  rw [List.takeWhile_cons]
  cases stops item <;> rfl

theorem unread_cons (items : List Item) :
    unread (item :: items) = if stops item then item :: items else unread items := by
  unfold unread
  rw [List.dropWhile_cons]
  cases stops item <;> rfl

theorem subscribeLoop_run (msgId : MsgId) (items : List Item) (s : Receiver) :
    (subscribeLoop msgId items s).1.emitted =
        s.emitted ++ (passed items).filterMap (wanted msgId) ∧
      (subscribeLoop msgId items s).1.underflow =
        (s.underflow || (unread items).head?.any isShort) := by
  induction items generalizing s with
  | nil => exact ⟨(List.append_nil _).symm, (Bool.or_false _).symm⟩
  | cons item items ih =>
    rw [subscribeLoop, passed_cons, unread_cons]
    cases hstops : stops item with
    | true =>
      obtain ⟨s', e, hrun, hemitted, hunder⟩ := handleItem_stop hstops s
      rw [Eff.bind_of_error hrun]
      exact ⟨hemitted.trans (List.append_nil _).symm, hunder⟩
    | false =>
      obtain ⟨s', hrun, hemitted, hunder⟩ := handleItem_go hstops s
      rw [Eff.bind_of_ok hrun]
      obtain ⟨ih₁, ih₂⟩ := ih s'
      refine ⟨ih₁.trans ?_, ih₂.trans (by rw [hunder]; rfl)⟩
      show s'.emitted ++ _ = s.emitted ++ (item :: passed items).filterMap (wanted msgId)
      rw [hemitted, List.append_assoc, List.filterMap_cons]
      cases wanted msgId item <;> rfl

/-- every message that is long enough is delivered, in order, and no length underflows -/
def Delivers (msgId : MsgId) (items : List Item) (s : Receiver) : Prop :=
  (subscribeLoop msgId items s).1.emitted = s.emitted ++ items.filterMap (wanted msgId) ∧
    (subscribeLoop msgId items s).1.underflow = s.underflow

/-- the first item that stops the loop, if any, is no short message, and no message behind it is
long enough -/
def EndsWell (items : List Item) : Prop :=
  match unread items with
  | [] => True
  | item :: rest => isShort item = false ∧
      ∀ content, .event (.gossip (.received content)) ∈ rest → content.length < 36

theorem wanted_of_stops (h : stops item = true) : wanted msgId item = none := by
  match item with
  | .event (.gossip (.joined nodes)) => rfl
  | .event (.gossip (.neighborUp node)) => rfl
  | .event (.gossip (.neighborDown _)) => rfl
  | .event (.gossip (.received content)) =>
    exact if_neg (Nat.not_le.mpr (of_decide_eq_true h))
  | .event .lagged => rfl
  | .error => rfl

theorem filterMap_wanted_eq_nil_iff (items : List Item) : items.filterMap (wanted msgId) = [] ↔
    ∀ content, .event (.gossip (.received content)) ∈ items → content.length < 36 := by
  rw [List.filterMap_eq_nil_iff]
  constructor
  · intro h content hmem
    by_contra hle
    have hnone := h _ hmem
    rw [wanted, if_pos (Nat.not_lt.mp hle)] at hnone
    cases hnone
  · intro h item hmem
    match item, hmem with
    | .event (.gossip (.received content)), hmem => exact if_neg (Nat.not_le.mpr (h content hmem))
    | .event (.gossip (.joined _)), _ => rfl
    | .event (.gossip (.neighborUp _)), _ => rfl
    | .event (.gossip (.neighborDown _)), _ => rfl
    | .event .lagged, _ => rfl
    | .error, _ => rfl

end

/-- **The messages that are long enough are all delivered, and no length underflows, IFF the first
item that ends the loop is no short message and none that is long enough comes after it.** -/
theorem delivers_iff (msgId : MsgId) (items : List Item) (s : Receiver)
    (hs : s.underflow = false) : Delivers msgId items s ↔ EndsWell items := by
  obtain ⟨hemitted, hunder⟩ := subscribeLoop_run msgId items s
  have hsplit : items = passed items ++ unread items := List.takeWhile_append_dropWhile.symm
  have hall : items.filterMap (wanted msgId) =
      (passed items).filterMap (wanted msgId) ++ (unread items).filterMap (wanted msgId) := by
    conv_lhs => rw [hsplit]
    exact List.filterMap_append
  unfold Delivers EndsWell
  rw [hemitted, hunder, hall, hs, List.append_cancel_left_eq, Bool.false_or]
  cases hrest : unread items with
  | nil => exact iff_of_true ⟨(List.append_nil _).symm, rfl⟩ trivial
  | cons item rest =>
    have hstops : stops item = true := by
      have hhead := List.head?_dropWhile_not (fun item => !stops item) items
      rw [show items.dropWhile _ = item :: rest from hrest] at hhead
      simpa using hhead
    rw [List.filterMap_cons, wanted_of_stops hstops, List.self_eq_append_right, and_comm]
    exact and_congr Iff.rfl (filterMap_wanted_eq_nil_iff rest)

/-! ## a topic of our own messages -/

theorem length_broadcast (publicKey : PublicKey) (seqNum : BitVec 32) (data : Bytes) :
    (broadcast publicKey seqNum data).length = data.length + 36 := by
  unfold broadcast toLeBytes
  rw [List.length_append, List.length_append, List.length_map, List.length_range, publicKey.2]

theorem wanted_broadcast (msgId : MsgId) (publicKey : PublicKey) (seqNum : BitVec 32) (data : Bytes) :
    wanted msgId (.event (.gossip (.received (broadcast publicKey seqNum data)))) =
      some ⟨msgId, data⟩ := by
  have hlen := length_broadcast publicKey seqNum data
  have hle : 36 ≤ (broadcast publicKey seqNum data).length := by omega
  rw [wanted, if_pos hle, hlen, Nat.add_sub_cancel]
  unfold broadcast
  rw [List.append_assoc, List.take_left]

/-- a message of a member of the topic, and the number stored there before -/
structure Sent where
  publicKey : PublicKey
  seqNum : BitVec 32
  data : Bytes

def Sent.item (m : Sent) : Item :=
  .event (.gossip (.received (sendWebxdcRealtimeData m.publicKey m.seqNum m.data).2))

theorem delivers_broadcasts (msgId : MsgId) (messages : List Sent) (s : Receiver) :
    (subscribeLoop msgId (messages.map Sent.item) s).1.emitted =
      s.emitted ++ messages.map fun m => ⟨msgId, m.data⟩ := by
  have hgo : ∀ item ∈ messages.map Sent.item, (!stops item) = true := by
    intro item hmem
    obtain ⟨m, -, rfl⟩ := List.mem_map.mp hmem
    have hlen := length_broadcast m.publicKey (getAndIncr m.seqNum) m.data
    show (!decide ((broadcast m.publicKey (getAndIncr m.seqNum) m.data).length < 36)) = true
    rw [decide_eq_false (by omega)]
    rfl
  rw [(subscribeLoop_run msgId _ s).1, passed, List.takeWhile_eq_self_iff.mpr hgo,
    List.filterMap_map]
  congr 1
  rw [← List.filterMap_eq_map]
  exact List.filterMap_congr fun m _ => wanted_broadcast msgId m.publicKey _ m.data

def receivedItem (content : Bytes) : Item := .event (.gossip (.received content))

/-- The length of the first message underflows, and the second one, of 37 bytes, is never read. -/
theorem short_message_silences :
    subscribeLoop 1 [receivedItem [7], receivedItem (List.replicate 37 8)] {} =
        ({ underflow := true }, .error .tooFewBytes) ∧
      ¬ Delivers 1 [receivedItem [7], receivedItem (List.replicate 37 8)] {} := by
  have hrun : subscribeLoop 1 [receivedItem [7], receivedItem (List.replicate 37 8)] {} =
      ({ underflow := true }, .error .tooFewBytes) := rfl
  refine ⟨hrun, fun h => ?_⟩
  have hunder := h.2
  rw [hrun] at hunder
  cases hunder

theorem delivers_iff_two :
    Delivers 1 [receivedItem (List.replicate 37 8), .event .lagged, receivedItem (List.replicate 36 9)]
        {} ↔
      EndsWell [receivedItem (List.replicate 37 8), .event .lagged,
        receivedItem (List.replicate 36 9)] :=
  delivers_iff 1 _ {} rfl

end EpsilonChat.Realtime
