import EpsilonChat.Lib.Eff
import EpsilonChat.Mime.Message
import EpsilonChat.Smtp.Jobs
import EpsilonChat.Webxdc.Rendering

/-!
# Resending a webxdc with all its updates

`resend_msgs_ex` puts the whole range of the serials of an instance into `smtp_status_updates`, a
table that `send_webxdc_status_update` and a running `flush_status_updates` write as well.  Where the
instance has a row already, the statement lowers `first_serial` below the old one, so that a flush
that has read the old row does not find it again; it does NOT raise `last_serial`.

* `SerialRange`: a row; its columns are `i64`, also where the code reads them as serials;
* `popSerials`: `smtp_status_update_pop_serials`;
* `queueUpdates`: the statements of `resend_msgs_ex` for one instance;
* `resendMsgsEx`: the whole call: all checks first, then message by message;
* **`resent_covered_iff`**: the row covers all updates, and a flush that has read the old row does
  not touch the new one, IFF the old row reaches up to the last update.
-/

namespace EpsilonChat.Webxdc

open Lib
open Smtp (MessageState)

/-! ## rows with `i64` columns -/

abbrev Serial := { n : ℕ // n ≤ u32Max }

/-- reading a column as a serial: beyond `u32` it is an error -/
def serial? (n : ℤ) : Option Serial :=
  if h : 0 ≤ n ∧ n ≤ u32Max then some ⟨n.toNat, by omega⟩ else none

def Serial.toI64 (n : Serial) : I64 := ⟨n.val, by have := n.2; unfold u32Max at this; omega⟩

structure SerialRange where
  first : I64
  last : I64
  deriving DecidableEq

abbrev Queue := MsgId → Option SerialRange

def popSerials (queue : Queue) (msgId : MsgId) (first : I64) (firstNew : Serial) : Queue :=
  if (queue msgId).any fun row => row.first = first ∧ row.last < firstNew.toI64 then
    deleteRow queue msgId fun row => row.first = first ∧ row.last < firstNew.toI64
  else
    updateRow queue msgId fun row =>
      if row.first = first then { row with first := firstNew.toI64 } else row

/-- an iteration of `flush_status_updates` that has read `row`, up to the pop: the serial it will pop
with, unless it fails -/
def flushRead (updates : IdTable Update) (msgId : MsgId) (row : SerialRange) : Option Serial := do
  let last ← serial? row.last.val
  let first ← serial? (max row.first.val 1)
  serial? (renderObject updates msgId first.val last.val (some STATUS_UPDATE_SIZE_MAX)).2

/-! ## the call -/

def serialsOf (updates : IdTable Update) (msgId : MsgId) : List ℕ :=
  updates.ids fun u => u.msgId = msgId

/-- `first_serial - 1` leaves the range only at its lower end, where SQLite computes the same value
as a floating point number -/
def lowered (first : I64) : I64 := first.saturatingSub ⟨1, by decide⟩

/-- the statements for one instance; an id beyond `u32` is an error -/
def queueUpdates (updates : IdTable Update) (msgId : MsgId) (queue : Queue) : Option Queue := do
  let minId ← serial? ((serialsOf updates msgId).min?.getD 1)
  let maxId ← serial? ((serialsOf updates msgId).max?.getD 0)
  if minId.val > maxId.val then return queue
  return Lib.upsert queue msgId ⟨minId.toI64, maxId.toI64⟩ fun row =>
    some { row with first := min (lowered row.first) minId.toI64 }

/-- what `resend_msgs_ex` reads of a message -/
structure ResendMsg where
  fromId : ContactId
  toId : ContactId
  cmd : SystemMessage
  state : MessageState
  viewtype : Viewtype

def contactIdInfo : ContactId := 2

def ResendMsg.isInfo (m : ResendMsg) : Bool :=
  m.fromId == contactIdInfo || m.toId == contactIdInfo ||
    m.cmd ≠ .unknown && m.cmd ≠ .autocryptSetupMessage

def stateText : MessageState → String
  | .undefined => "Undefined" | .inFresh => "Fresh" | .inNoticed => "Noticed" | .inSeen => "Seen"
  | .outDraft => "Draft" | .outPending => "Pending" | .outFailed => "Failed"
  | .outDelivered => "Delivered" | .outMdnRcvd => "Read"

def canResend : MessageState → Bool
  | .outPending | .outFailed | .outDelivered | .outMdnRcvd => true
  | _ => false

inductive ResendError where
  /-- of `Message::load_from_db`, an `ensure!` or a `bail!` -/
  | text (e : String)
  /-- of `create_send_msg_jobs` -/
  | jobs (e : String)
  /-- a serial beyond `u32` -/
  | outOfRange
  deriving DecidableEq

structure Resend where
  queue : Queue
  resent : List MsgId

section
variable (load : MsgId → Except String ResendMsg) (updates : IdTable Update)
  (jobs : ℕ → Except String Bool)

def loadMsgs : List MsgId → Except ResendError (List (MsgId × ResendMsg))
  | [] => .ok []
  | id :: ids =>
    match load id with
    | .error e => .error (.text e)
    | .ok msg =>
      if msg.fromId ≠ ContactId.self then .error (.text "can resend only own messages")
      else if msg.isInfo then .error (.text "cannot resend info messages")
      else (loadMsgs ids).map ((id, msg) :: ·)

/-- the end of the second loop's body: the updates of an instance are queued as well -/
def queueResent (id : MsgId) (msg : ResendMsg) : Eff Resend ResendError Unit := do
  let r ← Eff.get
  if msg.viewtype = .webxdc then
    match queueUpdates updates id r.queue with
    | none => Eff.fail .outOfRange
    | some queue => Eff.modify fun r => { queue := queue, resent := r.resent ++ [id] }
  else Eff.modify fun r => { r with resent := r.resent ++ [id] }

/-- the second loop; `jobs n` is what `create_send_msg_jobs` does when `n` messages are left: an
error, or whether there is anything to send -/
def resendLoop : List (MsgId × ResendMsg) → Eff Resend ResendError Unit
  | [] => pure ()
  | (id, msg) :: msgs => do
    Eff.ensure (canResend msg.state) (.text ("Unexpected message state " ++ stateText msg.state))
    match jobs msgs.length with
    | .error e => Eff.fail (.jobs e)
    | .ok false => resendLoop msgs
    | .ok true => do
      queueResent updates id msg
      resendLoop msgs

def resendMsgsEx (msgIds : List MsgId) : Eff Resend ResendError Unit :=
  match loadMsgs load msgIds with
  | .error e => Eff.fail e
  | .ok msgs => resendLoop updates jobs msgs

end

/-! ## what one instance's statements do -/

/-- the range has all updates of the instance -/
def Covers (updates : IdTable Update) (queue : Queue) (msgId : MsgId) : Prop :=
  ∃ row, queue msgId = some row ∧
    ∀ n ∈ serialsOf updates msgId, row.first.val ≤ n ∧ (n : ℤ) ≤ row.last.val

/-- a flush that has read the old row leaves the new one as it is -/
def StaleFlushSafe (old new : Queue) (msgId : MsgId) : Prop :=
  ∀ row, old msgId = some row → ∀ updates firstNew, flushRead updates msgId row = some firstNew →
    popSerials new msgId row.first firstNew = new

def Requeued (serials : List ℕ) (old new : Option SerialRange) : Prop :=
  ∃ row, new = some row ∧ (∀ n ∈ serials, row.first.val ≤ n) ∧
    (old = none → ∀ n ∈ serials, (n : ℤ) ≤ row.last.val) ∧
    ∀ row₀, old = some row₀ → row.first ≤ lowered row₀.first ∧ row.last = row₀.last

theorem lowered_val (first : I64) : (lowered first).val = max (-2 ^ 63) (first.val - 1) := by
  show max (-2 ^ 63) (min (first.val - 1) (2 ^ 63 - 1)) = _
  have := first.2
  omega

theorem lowered_le (first : I64) : lowered first ≤ first := by
  show (lowered first).val ≤ first.val
  rw [lowered_val]
  have := first.2
  omega

theorem Requeued.trans {serials : List ℕ} {a b c : Option SerialRange}
    (hab : Requeued serials a b) (hbc : Requeued serials b c) : Requeued serials a c := by
  obtain ⟨row, rfl, -, hnone, hsome⟩ := hab
  obtain ⟨row', rfl, hfirst', -, hsome'⟩ := hbc
  obtain ⟨hlow, hlast⟩ := hsome' row rfl
  refine ⟨row', rfl, hfirst', ?_, ?_⟩
  · intro ha n hn
    rw [hlast]
    exact hnone ha n hn
  · intro row₀ ha
    obtain ⟨hlow₀, hlast₀⟩ := hsome row₀ ha
    exact ⟨hlow.trans ((lowered_le row.first).trans hlow₀), hlast.trans hlast₀⟩

theorem serial?_eq_some {n : ℤ} {k : Serial} (h : serial? n = some k) : (k.val : ℤ) = n := by
  unfold serial? at h
  split at h
  · next hn =>
    cases h
    exact Int.toNat_of_nonneg hn.1
  · cases h

section
variable {updates : IdTable Update} {msgId m : MsgId} {queue queue' : Queue}

theorem queueUpdates_of_ne (h : queueUpdates updates m queue = some queue') (hne : msgId ≠ m) :
    queue' msgId = queue msgId := by
  unfold queueUpdates at h
  obtain ⟨minId, -, h⟩ := Option.bind_eq_some_iff.mp h
  obtain ⟨maxId, -, h⟩ := Option.bind_eq_some_iff.mp h
  split at h
  · cases h
    rfl
  · cases h
    exact upsert_of_ne _ _ hne

theorem queueUpdates_self (h : queueUpdates updates msgId queue = some queue')
    (hne : serialsOf updates msgId ≠ []) :
    Requeued (serialsOf updates msgId) (queue msgId) (queue' msgId) := by
  unfold queueUpdates at h
  obtain ⟨minId, hminId, h⟩ := Option.bind_eq_some_iff.mp h
  obtain ⟨maxId, hmaxId, h⟩ := Option.bind_eq_some_iff.mp h
  obtain ⟨least, hleast⟩ := Option.isSome_iff_exists.mp (List.isSome_min?_of_ne_nil hne)
  obtain ⟨most, hmost⟩ := Option.isSome_iff_exists.mp (List.isSome_max?_of_ne_nil hne)
  have hmin := serial?_eq_some hminId
  have hmax := serial?_eq_some hmaxId
  rw [hleast, Option.getD_some] at hmin
  rw [hmost, Option.getD_some] at hmax
  obtain ⟨hmem, hle⟩ := List.min?_eq_some_iff.mp hleast
  obtain ⟨-, hge⟩ := List.max?_eq_some_iff.mp hmost
  have horder := hge least hmem
  split at h
  · omega
  · have hqueue := Option.some.inj h
    rw [← hqueue]
    rcases hrow : queue msgId with _ | row
    · refine ⟨⟨minId.toI64, maxId.toI64⟩, upsert_of_none _ _ hrow, ?_, ?_, ?_⟩
      · intro n hn
        have := hle n hn
        show ((minId.val : ℕ) : ℤ) ≤ n
        omega
      · intro _ n hn
        have := hge n hn
        show (n : ℤ) ≤ (maxId.val : ℕ)
        omega
      · intro row₀ h₀
        cases h₀
    · refine ⟨{ row with first := min (lowered row.first) minId.toI64 },
        upsert_of_some _ _ hrow, ?_, ?_, ?_⟩
      · intro n hn
        have := hle n hn
        have hmin' : min (lowered row.first) minId.toI64 ≤ minId.toI64 := min_le_right _ _
        have hval : (min (lowered row.first) minId.toI64).val ≤ minId.val := hmin'
        show (min (lowered row.first) minId.toI64).val ≤ n
        omega
      · intro h₀
        cases h₀
      · intro row₀ h₀
        cases h₀
        exact ⟨min_le_left _ _, rfl⟩

end

/-! ## the whole call -/

/-- from a state of the call to a later one: the row of the instance is as it was, or its updates
were queued; they were if the message was sent again in between -/
def Progress (updates : IdTable Update) (msgId : MsgId) (r r' : Resend) : Prop :=
  (r'.queue msgId = r.queue msgId ∧ (msgId ∈ r'.resent → msgId ∈ r.resent)) ∨
    Requeued (serialsOf updates msgId) (r.queue msgId) (r'.queue msgId)

instance (updates : IdTable Update) (msgId : MsgId) : IsPreorder Resend (Progress updates msgId) where
  refl r := .inl ⟨rfl, id⟩
  trans a b c hab hbc := by
    rcases hab with ⟨hq, hmem⟩ | hre
    · rcases hbc with ⟨hq', hmem'⟩ | hre'
      · exact .inl ⟨hq'.trans hq, fun h => hmem (hmem' h)⟩
      · exact .inr (hq ▸ hre')
    · rcases hbc with ⟨hq', -⟩ | hre'
      · exact .inr (hq' ▸ hre)
      · exact .inr (hre.trans hre')

section
variable {updates : IdTable Update} {msgId : MsgId} {jobs : ℕ → Except String Bool}

theorem loadMsgs_mem {load : MsgId → Except String ResendMsg} {ids : List MsgId}
    {msgs : List (MsgId × ResendMsg)} (h : loadMsgs load ids = .ok msgs) {id : MsgId}
    {msg : ResendMsg} (hmem : (id, msg) ∈ msgs) : load id = .ok msg := by
  induction ids generalizing msgs with
  | nil =>
    cases h
    cases hmem
  | cons i ids ih =>
    unfold loadMsgs at h
    rcases hload : load i with e | msg'
    · rw [hload] at h
      cases h
    · rw [hload] at h
      dsimp only at h
      split at h
      · cases h
      split at h
      · cases h
      rcases hrest : loadMsgs load ids with e | rest
      · rw [hrest] at h
        cases h
      · rw [hrest] at h
        cases h
        rcases List.mem_cons.mp hmem with heq | htail
        · cases heq
          exact hload
        · exact ih hrest htail

theorem respects_queueResent (hne : serialsOf updates msgId ≠ []) (id : MsgId) (msg : ResendMsg)
    (hxdc : id = msgId → msg.viewtype = .webxdc) (r : Resend) :
    Eff.Respects (Progress updates msgId) (queueResent updates id msg) r := by
  have hother : id ≠ msgId → msgId ∈ r.resent ++ [id] → msgId ∈ r.resent := by
    intro hid h
    rcases List.mem_append.mp h with h | h
    · exact h
    · exact absurd (List.mem_singleton.mp h).symm hid
  unfold queueResent
  refine Eff.respects_get ?_
  by_cases hview : msg.viewtype = .webxdc
  · rw [if_pos hview]
    rcases hqueue : queueUpdates updates id r.queue with _ | queue
    · exact Eff.respects_fail _
    · refine Eff.respects_modify ?_
      by_cases hid : id = msgId
      · exact .inr (queueUpdates_self (hid ▸ hqueue) hne)
      · exact .inl ⟨queueUpdates_of_ne hqueue (Ne.symm hid), hother hid⟩
  · rw [if_neg hview]
    exact Eff.respects_modify (.inl ⟨rfl, hother fun hid => hview (hxdc hid)⟩)

theorem respects_resendLoop (jobs : ℕ → Except String Bool) (hne : serialsOf updates msgId ≠ [])
    (msgs : List (MsgId × ResendMsg))
    (hxdc : ∀ msg, (msgId, msg) ∈ msgs → msg.viewtype = .webxdc) (r : Resend) :
    Eff.Respects (Progress updates msgId) (resendLoop updates jobs msgs) r := by
  induction msgs generalizing r with
  | nil => exact Eff.respects_pure ()
  | cons head msgs ih =>
    obtain ⟨id, msg⟩ := head
    have ih' := ih fun msg h => hxdc msg (List.mem_cons_of_mem _ h)
    unfold resendLoop
    refine Eff.respects_bind (Eff.respects_ensure _ _) ?_
    intro r₁ _ _ _
    split
    case h_1 => exact Eff.respects_fail _
    case h_2 => exact ih' r₁
    case h_3 =>
      refine Eff.respects_bind (respects_queueResent hne id msg ?_ r₁) fun r₂ _ _ _ => ih' r₂
      rintro rfl
      exact hxdc msg List.mem_cons_self

theorem requeued_of_resent {load : MsgId → Except String ResendMsg} {msgIds : List MsgId}
    {queue : Queue} {msg : ResendMsg} (hload : load msgId = .ok msg) (hxdc : msg.viewtype = .webxdc)
    (hne : serialsOf updates msgId ≠ [])
    (hresent : msgId ∈ (resendMsgsEx load updates jobs msgIds ⟨queue, []⟩).1.resent) :
    Requeued (serialsOf updates msgId) (queue msgId)
      ((resendMsgsEx load updates jobs msgIds ⟨queue, []⟩).1.queue msgId) := by
  unfold resendMsgsEx at hresent ⊢
  rcases hmsgs : loadMsgs load msgIds with e | msgs
  · rw [hmsgs] at hresent
    cases hresent
  · rw [hmsgs] at hresent
    have hall : ∀ m, (msgId, m) ∈ msgs → m.viewtype = .webxdc := by
      intro m hm
      have hm' := loadMsgs_mem hmsgs hm
      rw [hload] at hm'
      cases hm'
      exact hxdc
    rcases respects_resendLoop jobs hne msgs hall ⟨queue, []⟩ with ⟨-, hmem⟩ | hre
    · exact absurd (hmem hresent) List.not_mem_nil
    · exact hre

end

/-! ## a flush that is at work -/

section
variable {queue : Queue} {msgId : MsgId} {row : SerialRange} {first : I64} {firstNew : Serial}

theorem popSerials_of_first_ne (hrow : queue msgId = some row) (hne : row.first ≠ first) :
    popSerials queue msgId first firstNew = queue := by
  have hany : ¬ (queue msgId).any fun row => row.first = first ∧ row.last < firstNew.toI64 := by
    rw [hrow, Option.any_some, decide_eq_true_eq]
    exact fun h => hne h.1
  unfold popSerials updateRow
  rw [if_neg hany, hrow, Option.map_some, if_neg hne, ← hrow, Function.update_eq_self]

theorem popSerials_ne (hrow : queue msgId = some row) (heq : row.first = first)
    (hnew : row.first ≠ firstNew.toI64) : popSerials queue msgId first firstNew ≠ queue := by
  intro h
  have hself := congrFun h msgId
  unfold popSerials at hself
  split at hself
  · next hany =>
    rw [hrow, Option.any_some] at hany
    rw [deleteRow_self, hrow, Option.filter_some, hany] at hself
    cases hself
  · rw [updateRow_self, hrow, Option.map_some, if_pos heq] at hself
    exact hnew (congrArg SerialRange.first (Option.some.inj hself)).symm

end

theorem exists_serial? {n : ℤ} (h : 0 ≤ n ∧ n ≤ u32Max) : ∃ k, serial? n = some k :=
  ⟨_, dif_pos h⟩

theorem exists_flushRead (msgId : MsgId) (row : SerialRange) (hfirst : row.first.val ≤ u32Max)
    (hlast : 0 ≤ row.last.val ∧ row.last.val ≤ u32Max) :
    ∃ firstNew, flushRead IdTable.empty msgId row = some firstNew := by
  have hmax : 0 ≤ max row.first.val 1 ∧ max row.first.val 1 ≤ u32Max := by
    unfold u32Max at hfirst ⊢
    omega
  obtain ⟨last, hlast'⟩ := exists_serial? hlast
  obtain ⟨first, hfirst'⟩ := exists_serial? hmax
  have hnew : (renderObject IdTable.empty msgId first.val last.val
      (some STATUS_UPDATE_SIZE_MAX)).2 ≤ u32Max := Nat.min_le_right _ _
  obtain ⟨firstNew, hfirstNew⟩ := exists_serial? (n := (renderObject IdTable.empty msgId first.val
    last.val (some STATUS_UPDATE_SIZE_MAX)).2) ⟨by omega, by omega⟩
  refine ⟨firstNew, ?_⟩
  unfold flushRead
  rw [hlast', hfirst']
  exact hfirstNew

theorem not_staleFlushSafe_of_lowest {queue queue' : Queue} {msgId : MsgId} {old new : SerialRange}
    (hold : queue msgId = some old) (hnew : queue' msgId = some new) (hsame : new.first = old.first)
    (hmin : old.first.val = -2 ^ 63) (hlast : 0 ≤ old.last.val ∧ old.last.val ≤ u32Max) :
    ¬ StaleFlushSafe queue queue' msgId := by
  intro hstale
  obtain ⟨firstNew, hread⟩ := exists_flushRead msgId old
    (by rw [hmin]; unfold u32Max; omega) hlast
  refine popSerials_ne hnew hsame ?_ (hstale old hold _ firstNew hread)
  intro heq
  have hval : new.first.val = (firstNew.val : ℤ) := congrArg Subtype.val heq
  rw [hsame, hmin] at hval
  omega

/-- **resending a webxdc covers all its updates, and a running flush does not undo that, iff** the row
that was there, if any, reaches up to the last update (and could be lowered, or is beyond what a
flush can read) -/
theorem resent_covered_iff (load : MsgId → Except String ResendMsg) (updates : IdTable Update)
    (jobs : ℕ → Except String Bool) (msgIds : List MsgId) (queue : Queue) (msgId : MsgId)
    (msg : ResendMsg) (hload : load msgId = .ok msg) (hxdc : msg.viewtype = .webxdc)
    (hne : serialsOf updates msgId ≠ [])
    (hresent : msgId ∈ (resendMsgsEx load updates jobs msgIds ⟨queue, []⟩).1.resent) :
    Covers updates (resendMsgsEx load updates jobs msgIds ⟨queue, []⟩).1.queue msgId ∧
        StaleFlushSafe queue (resendMsgsEx load updates jobs msgIds ⟨queue, []⟩).1.queue msgId ↔
      ∀ row, queue msgId = some row → (∀ n ∈ serialsOf updates msgId, (n : ℤ) ≤ row.last.val) ∧
        (row.first.val = -2 ^ 63 → u32Max < row.last.val) := by
  obtain ⟨new, hnew, hfirst, hnone, hsome⟩ := requeued_of_resent hload hxdc hne hresent
  constructor
  · rintro ⟨⟨row, hrow, hcovers⟩, hstale⟩ old hold
    rw [hnew] at hrow
    cases hrow
    obtain ⟨hlow, hlast⟩ := hsome old hold
    have hreach : ∀ n ∈ serialsOf updates msgId, (n : ℤ) ≤ old.last.val := by
      intro n hn
      rw [← hlast]
      exact (hcovers n hn).2
    refine ⟨hreach, fun hmin => ?_⟩
    by_contra hle
    obtain ⟨n, hn⟩ := List.exists_mem_of_ne_nil _ hne
    have hpos := hreach n hn
    have hsame : new.first = old.first := by
      have hval : new.first.val ≤ (lowered old.first).val := hlow
      have := new.first.2
      rw [lowered_val] at hval
      exact Subtype.ext (by omega)
    exact not_staleFlushSafe_of_lowest hold hnew hsame hmin ⟨by omega, by omega⟩ hstale
  · intro hcond
    constructor
    · refine ⟨new, hnew, fun n hn => ⟨hfirst n hn, ?_⟩⟩
      rcases hold : queue msgId with _ | old
      · exact hnone hold n hn
      · rw [(hsome old hold).2]
        exact (hcond old hold).1 n hn
    · intro old hold updates' firstNew hread
      obtain ⟨hlow, -⟩ := hsome old hold
      refine popSerials_of_first_ne hnew fun heq => ?_
      have hval : new.first.val ≤ (lowered old.first).val := hlow
      rw [heq, lowered_val] at hval
      have hmin : old.first.val = -2 ^ 63 := by
        have := old.first.2
        omega
      -- beyond `u32` the flush could not read the row
      have hbeyond := (hcond old hold).2 hmin
      obtain ⟨last, hlast, -⟩ := Option.bind_eq_some_iff.mp hread
      have := serial?_eq_some hlast
      have := last.2
      omega

/-! ## an update of somebody else -/

/-- an own update, and after it one that was received: only the own one was ever queued -/
def ownAndReceived : IdTable Update := (IdTable.empty.insert ⟨20, ping⟩).insert ⟨20, ping⟩

def sentApp : ResendMsg :=
  ⟨ContactId.self, ContactId.undefined, .unknown, .outDelivered, .webxdc⟩

def ownQueued : Queue := Function.update (fun _ => none) 20 (some ⟨⟨1, by decide⟩, ⟨1, by decide⟩⟩)

/-- once the own update is sent, all is resent -/
theorem resent_covered_iff_flushed :
    Covers ownAndReceived (resendMsgsEx (fun _ => .ok sentApp) ownAndReceived (fun _ => .ok true)
      [20] ⟨fun _ => none, []⟩).1.queue 20 :=
  ((resent_covered_iff _ _ _ _ _ 20 sentApp rfl rfl (by decide) (by decide)).mpr
    fun _ h => absurd h.symm (Option.some_ne_none _)).1

/-- **before that**, the received update is left out -/
theorem resent_not_covered :
    20 ∈ (resendMsgsEx (fun _ => .ok sentApp) ownAndReceived (fun _ => .ok true)
      [20] ⟨ownQueued, []⟩).1.resent ∧
    ¬ Covers ownAndReceived (resendMsgsEx (fun _ => .ok sentApp) ownAndReceived (fun _ => .ok true)
      [20] ⟨ownQueued, []⟩).1.queue 20 := by
  refine ⟨by decide, ?_⟩
  rintro ⟨row, hrow, hcovers⟩
  have hlast := (hcovers 2 (by decide)).2
  cases hrow
  revert hlast
  decide

end EpsilonChat.Webxdc
