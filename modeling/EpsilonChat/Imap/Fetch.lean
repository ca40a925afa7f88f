import EpsilonChat.Base.Ids
import Mathlib

/-!
# Fetching new messages from an IMAP folder

`fetch_new_msg_batch` for one folder of fixed UIDVALIDITY:

* the server lists up to 500 UIDs from the stored `uid_next` on (`PrefetchList`);
* the loop over the list decides for each UID: fetch now, postpone, or skip (`planMsg`);
* `fetch_many_msgs` asks for the UIDs to be fetched now and passes the messages to
  `receive_imf_inner`; it can fail after any of them (`fetchManyMsgs`);
* `uid_next` is advanced, and the Message-IDs of the postponed messages are stored.

What the server, the configuration and the message database answer is part of the input
(`Prefetched`, `Batch`).  Statements on the database are taken to succeed.
-/

namespace EpsilonChat.Imap

def u32Add (a b : ℕ) : ℕ := (a + b) % 2 ^ 32

def saturatingAdd (a b : ℕ) : ℕ := min (a + b) (2 ^ 32 - 1)

structure Prefetched where
  uid : ℕ
  /-- `get_fetch_headers` can parse the headers -/
  headersOk : Bool := true
  /-- `prefetch_get_message_id` -/
  messageId : Option String
  createdMessageId : String := ""
  size : Option ℕ
  /-- the message is known and all its rows have `deleted=1` -/
  locallyDeleted : Bool := false
  /-- `prefetch_should_download` -/
  shouldDownload : Bool := true
  /-- there is a `Chat-Is-Post-Message` header -/
  isPostMessage : Bool := false

structure PrefetchList where
  msgs : List Prefetched
  sorted : (msgs.map Prefetched.uid).Pairwise (· < ·)

def uidsToPrefetch : ℕ := 500

def uidLast (uidNext : ℕ) : ℕ := saturatingAdd uidNext (uidsToPrefetch - 1)

/-! ## `fetch_many_msgs` -/

/-- what the server answers to the request for the body of one UID; `gone` are messages that are
flagged as deleted or come without a body -/
inductive Answer where
  | delivered
  | gone
  | missing
  deriving DecidableEq, Repr

/-- the answers to `fetch_many_msgs`: it fails after `failAfter` UIDs, if at all, and the error
may come from `add_device_msg`, when the next message was passed on already -/
structure Answers where
  answer : ℕ → Answer := fun _ => .delivered
  failAfter : Option ℕ := none
  deviceMsgFails : Bool := false

/-- what `fetch_many_msgs` did: `sent` are the UIDs sent to the channel -/
structure Fetched where
  ok : Bool
  sent : List ℕ
  delivered : List ℕ
  reportedMissing : List ℕ

def fetchManyMsgs (requestUids : List ℕ) (a : Answers) : Fetched :=
  if requestUids.isEmpty then { ok := true, sent := [], delivered := [], reportedMissing := [] }
  else
    let processed := a.failAfter.elim requestUids fun n => requestUids.take n
    let passedOn := a.failAfter.elim [] fun n =>
      if a.deviceMsgFails then (requestUids.drop n).take 1 else []
    { ok := a.failAfter.isNone
      sent := processed.filter fun uid => a.answer uid != .missing
      delivered := (processed.filter fun uid => a.answer uid == .delivered) ++ passedOn
      reportedMissing := processed.filter fun uid => a.answer uid != .delivered }

/-! ## the loop over the list -/

/-- the tables of the folder: `imap` gives Message-ID and target of a UID -/
structure Folder where
  name : String
  uidNext : ℕ
  imap : ℕ → Option (String × String) := fun _ => none
  availablePostMsgs : List String := []
  download : List String := []

/-- the local variables of the loop; `uidsFetch` holds the keys and values of `uid_message_ids` -/
structure Plan where
  imap : ℕ → Option (String × String)
  uidsFetch : List (ℕ × String) := []
  availablePostMsgs : List String := []
  downloadLater : List String := []
  largestUidSkipped : Option ℕ := none

/-- `Config::DownloadLimit` (0 is no limit) and `Config::Bot` -/
structure Config where
  downloadLimit : Option ℕ := none
  isBot : Bool := false

def Config.withinLimit (cfg : Config) (size : ℕ) : Bool :=
  (cfg.downloadLimit.filter (0 < ·)).all (size ≤ ·)

def Prefetched.rfc724Mid (m : Prefetched) : String := m.messageId.getD m.createdMessageId

def Prefetched.delete (m : Prefetched) : Bool := m.messageId.isSome && m.locallyDeleted

def Prefetched.target (m : Prefetched) (folder : String) : String :=
  if m.delete then "" else folder

def Prefetched.wanted (m : Prefetched) (folder : String) : Bool :=
  folder == m.target folder && m.shouldDownload

def planMsg (folder : String) (cfg : Config) (p : Plan) (m : Prefetched) (size : ℕ) : Plan :=
  let mid := m.rfc724Mid
  let p := { p with imap := Function.update p.imap m.uid (some (mid, m.target folder)) }
  if m.wanted folder then
    if m.isPostMessage then
      let p := { p with availablePostMsgs := p.availablePostMsgs ++ [mid] }
      if cfg.isBot && cfg.withinLimit size then
        { p with uidsFetch := p.uidsFetch ++ [(m.uid, mid)] }
      else
        let p := if cfg.withinLimit size then { p with downloadLater := p.downloadLater ++ [mid] }
          else p
        { p with largestUidSkipped := some m.uid }
    else if cfg.withinLimit size then
      { p with uidsFetch := p.uidsFetch ++ [(m.uid, mid)] }
    else
      { p with downloadLater := p.downloadLater ++ [mid], largestUidSkipped := some m.uid }
  else { p with largestUidSkipped := some m.uid }

/-- the loop; a message without size ends it, with what was stored so far -/
def planMsgs (folder : String) (cfg : Config) : Plan → List Prefetched → Except Plan Plan
  | p, [] => .ok p
  | p, m :: ms =>
    if m.headersOk then
      match m.size with
      | some size => planMsgs folder cfg (planMsg folder cfg p m size) ms
      | none => .error p
    else planMsgs folder cfg p ms

/-! ## the batch -/

/-- what the world answers during one call: `prefetch` is `none` if it fails, `selectedMailbox` has
the UIDNEXT of the mailbox, if one is selected and if it has one -/
structure Batch where
  prefetch : Option PrefetchList
  config : Config := {}
  selectedMailbox : Option (Option ℕ) := some none
  answers : Answers := {}

inductive FetchError where
  | prefetch
  | noSize
  | notSelected
  | fetchManyMsgs
  deriving DecidableEq, Repr

def Fetched.largestUid (f : Fetched) : ℕ := f.sent.foldl max 0

def newUidNext (oldUidNext mailboxUidNext : ℕ) (p : Plan) (f : Fetched) : ℕ :=
  let new := u32Add f.largestUid 1
  if f.ok then
    max (max new (min (u32Add oldUidNext uidsToPrefetch) mailboxUidNext))
      (u32Add (p.largestUidSkipped.getD 0) 1)
  else new

def fetchMore (oldUidNext mailboxUidNext : ℕ) (f : Fetched) : Bool :=
  f.ok && u32Add oldUidNext uidsToPrefetch < mailboxUidNext

/-- the end of the function: `uid_next` moves, and after success the postponed messages are
stored (`INSERT OR IGNORE`) -/
def Folder.finish (s : Folder) (mailboxUidNext : ℕ) (p : Plan) (f : Fetched) : Folder :=
  let new := newUidNext s.uidNext mailboxUidNext p f
  let s := { s with imap := p.imap, uidNext := if new > s.uidNext then new else s.uidNext }
  if f.ok then
    { s with
      availablePostMsgs := p.availablePostMsgs.foldl (fun l mid => l.insert mid) s.availablePostMsgs
      download := p.downloadLater.foldl (fun l mid => l.insert mid) s.download }
  else s

def Folder.plan (s : Folder) : Plan := { imap := s.imap }

def Batch.fetched (b : Batch) (p : Plan) : Fetched :=
  fetchManyMsgs (p.uidsFetch.map Prod.fst) b.answers

def fetchNewMsgBatch (s : Folder) (b : Batch) : Folder × Except FetchError (ℕ × Bool) :=
  match b.prefetch with
  | none => (s, .error .prefetch)
  | some list =>
    match planMsgs s.name b.config s.plan list.msgs with
    | .error p => ({ s with imap := p.imap }, .error .noSize)
    | .ok p =>
      match b.selectedMailbox with
      | none => ({ s with imap := p.imap }, .error .notSelected)
      | some uidNext =>
        let mailboxUidNext := uidNext.getD 0
        let f := b.fetched p
        (s.finish mailboxUidNext p f,
          if f.ok then .ok (list.msgs.length, fetchMore s.uidNext mailboxUidNext f)
          else .error .fetchManyMsgs)

end EpsilonChat.Imap
