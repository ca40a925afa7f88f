import Mathlib
import EpsilonChat.Base.Ids
import EpsilonChat.Lib.IdTable
import EpsilonChat.Lib.Join

/-!
# Jobs of the SMTP queue

A message that is sent has rows in the table `smtp`, one job each.  `sendMsgToSmtp` runs one job:
it counts the try, gives up beyond the limit, sends, and removes the row unless the sending is to
be tried again.  The message is delivered when the last job of it succeeded, and failed as soon as
one job failed.

`Run` keeps what every call came to in a log.  `Effect` says what one call can do; from it follow

* `rowInv_call`: rows only disappear, and a row that is left counted every call on it;
* `msgInv_call`: the state of a message is told by the log and by the rows that are left;
* **`final_state`**: the final state of a message tells the truth about its jobs.
-/

namespace EpsilonChat.Smtp

open Lib

/-! ## messages and jobs -/

inductive MessageState where
  | undefined | inFresh | inNoticed | inSeen | outDraft | outPending | outFailed | outDelivered
  | outMdnRcvd
  deriving DecidableEq, Repr

/-- a group message that some recipients read can still fail for others -/
def MessageState.canFail : MessageState → Bool
  | outPending | outDelivered | outMdnRcvd => true
  | _ => false

structure Msg where
  chatId : ChatId
  state : MessageState
  error : String := ""
  deriving DecidableEq, Repr

structure Job where
  msgId : MsgId
  retries : ℕ := 0
  deriving DecidableEq, Repr

inductive Event where
  | msgDelivered (msgId : MsgId)
  | msgFailed (msgId : MsgId)
  deriving DecidableEq, Repr

inductive SendResult where
  | success
  | failure (err : String)
  | retry
  deriving DecidableEq, Repr

structure State where
  smtp : IdTable Job
  msgs : MsgId → Option Msg
  events : List Event := []

/-- ids up to `DC_MSG_ID_LAST_SPECIAL` are no messages -/
def isSpecial (msgId : MsgId) : Bool := msgId ≤ 9

def DC_CHAT_ID_TRASH : ChatId := 3

/-- `Message::load_from_db_optional`: what is in the trash is not found -/
def loadFromDbOptional (s : State) (msgId : MsgId) : Except String (Option Msg) :=
  if isSpecial msgId then .error s!"Can not load special message ID Msg#{msgId} from DB"
  else .ok ((s.msgs msgId).filter fun msg => msg.chatId != DC_CHAT_ID_TRASH)

def setMsgFailed (s : State) (msgId : MsgId) (msg : Msg) (error : String) : State :=
  { s with
    msgs := updateRow s.msgs msgId fun row =>
      { row with state := if msg.state.canFail then .outFailed else msg.state, error := error }
    events := s.events ++ [.msgFailed msgId] }

def markFailed (s : State) (msgId : MsgId) (error : String) : State :=
  match loadFromDbOptional s msgId with
  | .ok (some msg) => setMsgFailed s msgId msg error
  | _ => s

/-- `MsgId::set_delivered`: only a pending message is delivered -/
def setDelivered (s : State) (msgId : MsgId) : State :=
  if (s.msgs msgId).any fun msg => msg.state = .outPending then
    { s with
      msgs := updateRow s.msgs msgId fun row => { row with state := .outDelivered, error := "" }
      events := s.events ++ [.msgDelivered msgId] }
  else s

def msgHasPendingSmtpJob (s : State) (msgId : MsgId) : Bool :=
  !(s.smtp.ids fun job => job.msgId == msgId).isEmpty

/-! ## one call -/

structure Call where
  rowid : ℕ
  connected : Bool := true
  result : SendResult

inductive Outcome where
  | noConnection
  | absent
  /-- the row was removed because of its retries; with the error of loading the message, if any -/
  | limit (loadError : Option String)
  | attempted (result : SendResult)
  deriving DecidableEq, Repr

def Outcome.result : Outcome → Except String Unit
  | noConnection => .error "SMTP connection failure"
  | absent | limit none | attempted .success => .ok ()
  | limit (some err) => .error err
  | attempted .retry => .error "Retry"
  | attempted (.failure err) => .error err

/-- `UPDATE smtp SET retries=retries+1 WHERE id=?` -/
def countRetry (s : State) (rowid : ℕ) : State :=
  { s with smtp := s.smtp.update rowid fun job => { job with retries := job.retries + 1 } }

def deleteJob (s : State) (rowid : ℕ) : State := { s with smtp := s.smtp.delete rowid }

def sendMsgToSmtp (s : State) (c : Call) : State × Outcome :=
  if !c.connected then (s, .noConnection)
  else
    let s := countRetry s c.rowid
    match s.smtp.row c.rowid with
    | none => (s, .absent)
    | some job =>
      if job.retries > 6 then
        let s := deleteJob s c.rowid
        let loadError := match loadFromDbOptional s job.msgId with
          | .error err => some err
          | .ok _ => none
        (markFailed s job.msgId "Number of retries exceeded the limit.", .limit loadError)
      else
        match c.result with
        | .retry => (s, .attempted .retry)
        | .success =>
          let s := deleteJob s c.rowid
          (if msgHasPendingSmtpJob s job.msgId then s else setDelivered s job.msgId,
            .attempted .success)
        | .failure err =>
          -- the message is marked in `smtp_send`, before the row is removed
          (deleteJob (markFailed s job.msgId err) c.rowid, .attempted (.failure err))

structure Run where
  s : State
  log : List (ℕ × Outcome)

def Run.call (R : Run) (c : Call) : Run where
  s := (sendMsgToSmtp R.s c).1
  log := R.log ++ [(c.rowid, (sendMsgToSmtp R.s c).2)]

def run (s : State) (calls : List Call) : Run := calls.foldl Run.call ⟨s, []⟩

/-! ## what one call can do -/

def stateOf (s : State) (msgId : MsgId) : Option MessageState := (s.msgs msgId).map Msg.state

def delivered (s : State) (msgId : MsgId) : ℕ := s.events.count (.msgDelivered msgId)

def Loads (s : State) (msgId : MsgId) : Prop :=
  isSpecial msgId = false ∧ ∃ msg, s.msgs msgId = some msg ∧ msg.chatId ≠ DC_CHAT_ID_TRASH

def IsJob (s : State) (msgId : MsgId) (rowid : ℕ) : Prop :=
  ∃ job, s.smtp.row rowid = some job ∧ job.msgId = msgId

def MessageState.fail (st : MessageState) : MessageState := if st.canFail then .outFailed else st

def MessageState.deliver (st : MessageState) : MessageState :=
  if st = .outPending then .outDelivered else st

def Kept (s s' : State) (m : MsgId) : Prop :=
  stateOf s' m = stateOf s m ∧ delivered s' m = delivered s m

/-- the state of the message changes by `f` if it can be loaded, and it is delivered `n` more times -/
structure Alters (s s' : State) (msgId : MsgId) (f : MessageState → MessageState) (n : ℕ) : Prop where
  state : Loads s msgId → stateOf s' msgId = (stateOf s msgId).map f
  events : delivered s' msgId = delivered s msgId + n
  others : ∀ m, m ≠ msgId → Kept s s' m
  loads : ∀ m, Loads s m → Loads s' m

def Outcome.isAttempt : Outcome → Bool
  | attempted _ => true
  | _ => false

def Outcome.isEnd : Outcome → Bool
  | limit _ | attempted .success | attempted (.failure _) => true
  | _ => false

def Outcome.isBad : Outcome → Bool
  | limit _ | attempted (.failure _) => true
  | _ => false

inductive Ending (s s' : State) (msgId : MsgId) : Outcome → Prop where
  | bad {outcome : Outcome} (hbad : outcome.isBad = true) (h : Alters s s' msgId .fail 0) :
      Ending s s' msgId outcome
  | pending (hleft : ∃ rowid, IsJob s' msgId rowid) (h : Alters s s' msgId id 0) :
      Ending s s' msgId (.attempted .success)
  | last (hleft : ¬ ∃ rowid, IsJob s' msgId rowid)
      (h : Alters s s' msgId .deliver (if stateOf s msgId = some .outPending then 1 else 0)) :
      Ending s s' msgId (.attempted .success)

def Job.count (job : Job) : Job := { job with retries := job.retries + 1 }

inductive Effect (s : State) (rowid : ℕ) (s' : State) (outcome : Outcome) : Prop where
  | stays (hrows : s'.smtp.row = Function.update s.smtp.row rowid ((s.smtp.row rowid).map Job.count))
      (hle : ∀ job, s.smtp.row rowid = some job → job.retries + 1 ≤ 6) (hend : outcome.isEnd = false)
      (hatt : outcome.isAttempt = true → (s.smtp.row rowid).isSome) (hkept : ∀ m, Kept s s' m)
      (hloads : ∀ m, Loads s m → Loads s' m)
  | ended (job : Job) (hrow : s.smtp.row rowid = some job)
      (hrows : s'.smtp.row = Function.update s.smtp.row rowid none)
      (hle : outcome.isAttempt = true → job.retries + 1 ≤ 6) (hend : Ending s s' job.msgId outcome)

section
variable {s : State} {msgId m : MsgId}

theorem alters_update {f : Msg → Msg} {g : MessageState → MessageState} {e : Event} {n : ℕ}
    (hf : ∀ msg, (f msg).chatId = msg.chatId)
    (hg : ∀ msg, s.msgs msgId = some msg → (f msg).state = g msg.state)
    (he : ∀ m, [e].count (.msgDelivered m) = if m = msgId then n else 0) :
    Alters s { s with msgs := updateRow s.msgs msgId f, events := s.events ++ [e] } msgId g n where
  state _ := by
    rcases hmsg : s.msgs msgId with _ | msg
    · simp [stateOf, hmsg]
    · simp [stateOf, hmsg, hg msg hmsg]
  events := by simp only [delivered, List.count_append, he, if_true]
  others m hm := by
    refine ⟨by simp [stateOf, hm], ?_⟩
    simp only [delivered, List.count_append, he, if_neg hm, add_zero]
  loads m h := by
    obtain ⟨hspecial, msg, hmsg, hchat⟩ := h
    by_cases e : m = msgId
    · subst e
      exact ⟨hspecial, f msg, by simp [hmsg], by rwa [hf]⟩
    · exact ⟨hspecial, msg, by simp [e, hmsg], hchat⟩

/-- the jobs do not matter -/
theorem Alters.of_smtp {s' : State} {f : MessageState → MessageState} {n : ℕ} {smtp smtp' : IdTable Job}
    (h : Alters { s with smtp := smtp } s' msgId f n) :
    Alters s { s' with smtp := smtp' } msgId f n :=
  ⟨h.state, h.events, h.others, h.loads⟩

theorem msgs_of_load {msg : Msg} (h : loadFromDbOptional s msgId = .ok (some msg)) :
    s.msgs msgId = some msg := by
  unfold loadFromDbOptional at h
  split at h
  · cases h
  · exact (Option.filter_eq_some_iff.mp (Except.ok.inj h)).1

theorem load_of_loads (h : Loads s msgId) : ∃ msg, loadFromDbOptional s msgId = .ok (some msg) := by
  obtain ⟨hspecial, msg, hmsg, hchat⟩ := h
  refine ⟨msg, ?_⟩
  rw [loadFromDbOptional, hspecial, hmsg]
  simp [hchat]

theorem markFailed_alters (s : State) (msgId : MsgId) (error : String) :
    Alters s (markFailed s msgId error) msgId .fail 0 := by
  unfold markFailed
  split
  · next msg hload =>
    refine alters_update (fun _ => rfl) (fun msg' hmsg => ?_) fun m => by simp
    obtain rfl := Option.some.inj ((msgs_of_load hload).symm.trans hmsg)
    rfl
  · next hnot =>
    refine ⟨fun h => ?_, rfl, fun _ _ => ⟨rfl, rfl⟩, fun _ h => h⟩
    obtain ⟨msg, hload⟩ := load_of_loads h
    exact absurd hload (hnot msg)

theorem setDelivered_alters (s : State) (msgId : MsgId) : Alters s (setDelivered s msgId) msgId
    .deliver (if stateOf s msgId = some .outPending then 1 else 0) := by
  have hany : ((s.msgs msgId).any fun msg => msg.state = .outPending) = true ↔
      stateOf s msgId = some .outPending := by
    rcases h : s.msgs msgId with _ | msg <;> simp [stateOf, h]
  unfold setDelivered
  by_cases hp : stateOf s msgId = some .outPending
  · rw [if_pos (hany.mpr hp), if_pos hp]
    refine alters_update (fun _ => rfl) (fun msg hmsg => ?_) fun m => ?_
    · rw [stateOf, hmsg] at hp
      rw [MessageState.deliver, if_pos (Option.some.inj hp)]
    · rw [List.count_singleton]
      simp only [beq_iff_eq, Event.msgDelivered.injEq, @eq_comm _ msgId m]
  · rw [if_neg fun h => hp (hany.mp h), if_neg hp]
    refine ⟨fun _ => ?_, rfl, fun _ _ => ⟨rfl, rfl⟩, fun _ h => h⟩
    rcases hst : stateOf s msgId with _ | st
    · rfl
    · rw [Option.map_some, MessageState.deliver, if_neg fun e => hp (by rw [hst, e])]

theorem smtp_markFailed (s : State) (msgId : MsgId) (error : String) :
    (markFailed s msgId error).smtp = s.smtp := by
  unfold markFailed
  split <;> rfl

theorem smtp_setDelivered (s : State) (msgId : MsgId) : (setDelivered s msgId).smtp = s.smtp := by
  unfold setDelivered
  split <;> rfl

theorem hasPending_iff : msgHasPendingSmtpJob s msgId = true ↔ ∃ rowid, IsJob s msgId rowid := by
  rw [msgHasPendingSmtpJob, Bool.not_eq_true', List.isEmpty_eq_false_iff_exists_mem]
  simp only [IdTable.mem_ids, beq_iff_eq, IsJob]

end

theorem deleteJob_countRetry (s : State) (rowid : ℕ) :
    (deleteJob (countRetry s rowid) rowid).smtp.row = Function.update s.smtp.row rowid none :=
  Function.update_idem ..

/-- the last job of a message, or not -/
theorem success_ending (s : State) (smtp : IdTable Job) (msgId : MsgId) : Ending s
    (if msgHasPendingSmtpJob { s with smtp := smtp } msgId then { s with smtp := smtp }
      else setDelivered { s with smtp := smtp } msgId) msgId (.attempted .success) := by
  split
  · next hpending =>
    refine .pending (hasPending_iff.mp hpending) ⟨fun _ => ?_, rfl, fun _ _ => ⟨rfl, rfl⟩, fun _ h => h⟩
    exact Option.map_id_apply.symm
  · next hpending =>
    refine .last ?_ (setDelivered_alters { s with smtp := smtp } msgId).of_smtp
    rintro ⟨r, job, hjob, hid⟩
    rw [smtp_setDelivered] at hjob
    exact hpending (hasPending_iff.mpr ⟨r, job, hjob, hid⟩)

theorem sendMsgToSmtp_effect (s : State) {c : Call} (hc : c.connected = true) :
    Effect s c.rowid (sendMsgToSmtp s c).1 (sendMsgToSmtp s c).2 := by
  have hcon : ¬ (!c.connected) = true := by simp [hc]
  have hself : (countRetry s c.rowid).smtp.row c.rowid = (s.smtp.row c.rowid).map Job.count :=
    Function.update_self ..
  unfold sendMsgToSmtp
  rw [if_neg hcon]
  rcases hrow : s.smtp.row c.rowid with _ | job
  case none =>
    rw [hrow, Option.map_none] at hself
    simp only [hself]
    exact .stays rfl (by simp [hrow]) rfl (by simp [Outcome.isAttempt]) (fun _ => ⟨rfl, rfl⟩)
      fun _ h => h
  case some =>
    rw [hrow, Option.map_some] at hself
    simp only [hself]
    by_cases hlimit : job.count.retries > 6
    case pos =>
      rw [if_pos hlimit]
      dsimp only
      refine .ended job hrow ?_ nofun (.bad rfl ?_)
      · rw [smtp_markFailed, deleteJob_countRetry]
      · have halters := markFailed_alters (deleteJob (countRetry s c.rowid) c.rowid) job.msgId
        exact Alters.of_smtp (s := s) (halters _)
    case neg =>
      have hle : job.retries + 1 ≤ 6 := Nat.le_of_not_lt hlimit
      rw [if_neg hlimit]
      rcases c.result with _ | err | _
      case success =>
        refine .ended job hrow ?_ (fun _ => hle) (success_ending s _ _)
        dsimp only
        split
        · exact deleteJob_countRetry ..
        · rw [smtp_setDelivered, deleteJob_countRetry]
      case failure =>
        dsimp only
        refine .ended job hrow ?_ (fun _ => hle)
          (.bad rfl (.of_smtp (s := s) (markFailed_alters (countRetry s _) _ _)))
        rw [← deleteJob_countRetry, deleteJob, smtp_markFailed, deleteJob]
      case retry =>
        refine .stays rfl (fun job' h => ?_) rfl (fun _ => by simp [hrow]) (fun _ => ⟨rfl, rfl⟩)
          fun _ h => h
        cases hrow.symm.trans h
        exact hle

/-! ## rows over a run -/

def callsOn (log : List (ℕ × Outcome)) (rowid : ℕ) : ℕ := log.countP fun e => e.1 = rowid

def attempts (log : List (ℕ × Outcome)) (rowid : ℕ) : ℕ :=
  log.countP fun e => e.1 = rowid && e.2.isAttempt

def ends (log : List (ℕ × Outcome)) (rowid : ℕ) : ℕ :=
  log.countP fun e => e.1 = rowid && e.2.isEnd

theorem attempts_le_callsOn (log : List (ℕ × Outcome)) (rowid : ℕ) :
    attempts log rowid ≤ callsOn log rowid := by
  refine List.countP_mono_left fun e _ h => ?_
  rw [Bool.and_eq_true] at h
  exact h.1

/-- a job that is gone has ended once -/
structure RowInv (s₀ : State) (R : Run) : Prop where
  kept : ∀ rowid job, R.s.smtp.row rowid = some job →
    ∃ job₀, s₀.smtp.row rowid = some job₀ ∧ job.msgId = job₀.msgId
  counted : ∀ rowid job, R.s.smtp.row rowid = some job →
    callsOn R.log rowid ≤ job.retries ∧ (callsOn R.log rowid = 0 ∨ job.retries ≤ 6)
  attempted : ∀ rowid, attempts R.log rowid ≤ 6
  ended : ∀ rowid, ends R.log rowid + (R.s.smtp.row rowid).isSome.toNat =
    (s₀.smtp.row rowid).isSome.toNat

theorem rowInv_start (s₀ : State) : RowInv s₀ ⟨s₀, []⟩ where
  kept := fun _ job h => ⟨job, h, rfl⟩
  counted := fun _ _ _ => ⟨Nat.zero_le _, .inl rfl⟩
  attempted := fun _ => Nat.zero_le _
  ended := fun _ => Nat.zero_add _

section
variable {s s₀ s' : State} {R : Run} {rowid : ℕ} {outcome : Outcome}

theorem Outcome.isEnd_of_isBad (h : outcome.isBad = true) : outcome.isEnd = true := by
  unfold isBad at h
  split at h
  · rfl
  · rfl
  · cases h

theorem Ending.isEnd {msgId : MsgId} (h : Ending s s' msgId outcome) : outcome.isEnd = true := by
  cases h with
  | bad hbad => exact Outcome.isEnd_of_isBad hbad
  | pending => rfl
  | last => rfl

theorem Effect.retries_of_isAttempt (h : Effect s rowid s' outcome)
    (hatt : outcome.isAttempt = true) : ∃ job, s.smtp.row rowid = some job ∧ job.retries + 1 ≤ 6 := by
  cases h with
  | stays _ hle _ hsome =>
    obtain ⟨job, hrow⟩ := Option.isSome_iff_exists.mp (hsome hatt)
    exact ⟨job, hrow, hle job hrow⟩
  | ended job hrow _ hle => exact ⟨job, hrow, hle hatt⟩

theorem rowInv_call (inv : RowInv s₀ R) (h : Effect R.s rowid s' outcome) :
    RowInv s₀ ⟨s', R.log ++ [(rowid, outcome)]⟩ where
  kept := by
    intro r job hjob
    by_cases hr : r = rowid
    · subst hr
      cases h with
      | stays hrows =>
        rw [hrows, Function.update_self] at hjob
        obtain ⟨job', hrow, rfl⟩ := Option.map_eq_some_iff.mp hjob
        exact inv.kept r job' hrow
      | ended _ _ hrows => simp [hrows] at hjob
    · refine inv.kept r job ?_
      cases h <;> simpa [*] using hjob
  counted := by
    intro r job hjob
    by_cases hr : r = rowid
    · subst hr
      cases h with
      | stays hrows hle =>
        rw [hrows, Function.update_self] at hjob
        obtain ⟨job', hrow, rfl⟩ := Option.map_eq_some_iff.mp hjob
        have hcount := (inv.counted r job' hrow).1
        simp only [callsOn, List.countP_append, List.countP_singleton, decide_true, if_true] at *
        exact ⟨Nat.succ_le_succ hcount, .inr (hle job' hrow)⟩
      | ended _ _ hrows => simp [hrows] at hjob
    · have hrow : R.s.smtp.row r = some job := by cases h <;> simpa [*] using hjob
      simpa [callsOn, List.countP_append, List.countP_singleton, Ne.symm hr] using
        inv.counted r job hrow
  attempted := by
    intro r
    simp only [attempts, List.countP_append, List.countP_singleton, Bool.and_eq_true, decide_eq_true_eq]
    by_cases hatt : rowid = r ∧ outcome.isAttempt = true
    · obtain ⟨rfl, hatt⟩ := hatt
      obtain ⟨job, hrow, hle⟩ := h.retries_of_isAttempt hatt
      have hcount := (inv.counted rowid job hrow).1
      have hcalls := attempts_le_callsOn R.log rowid
      rw [if_pos (And.intro rfl hatt)]
      unfold attempts at hcalls
      omega
    · rw [if_neg hatt]
      exact inv.attempted r
  ended := by
    intro r
    have hended := inv.ended r
    simp only [ends, List.countP_append, List.countP_singleton] at hended ⊢
    by_cases hr : r = rowid
    · subst hr
      cases h with
      | stays hrows _ hend => simpa [hrows, hend] using hended
      | ended job hrow hrows _ hend => simpa [hrows, hend.isEnd, hrow] using hended
    · cases h <;> simp [*, Ne.symm hr]

theorem RowInv.once (inv : RowInv s₀ R) {o o' : Outcome} (ho : (rowid, o) ∈ R.log)
    (ho' : (rowid, o') ∈ R.log) (hend : o.isEnd = true) (hend' : o'.isEnd = true) : o = o' := by
  have hmem : ∀ {o}, (rowid, o) ∈ R.log → o.isEnd = true →
      (rowid, o) ∈ R.log.filter fun e => e.1 = rowid && e.2.isEnd :=
    fun ho hend => List.mem_filter.mpr ⟨ho, by simp [hend]⟩
  have hlength : (R.log.filter fun e => e.1 = rowid && e.2.isEnd).length ≤ 1 := by
    have hended := inv.ended rowid
    have hle := (s₀.smtp.row rowid).isSome.toNat_le
    rw [ends, List.countP_eq_length_filter] at hended
    omega
  have h := hmem ho hend
  have h' := hmem ho' hend'
  generalize (R.log.filter fun e => e.1 = rowid && e.2.isEnd) = log at h h' hlength
  rcases log with _ | ⟨e, _ | ⟨e', log⟩⟩
  · cases h
  · rw [List.mem_singleton] at h h'
    exact (Prod.mk.inj (h.trans h'.symm)).2
  · simp at hlength

end

/-! ## messages over a run -/

/-- a job of the message ended, but not in a success -/
def EndedBadly (s₀ : State) (msgId : MsgId) (log : List (ℕ × Outcome)) : Prop :=
  ∃ rowid outcome, IsJob s₀ msgId rowid ∧ (rowid, outcome) ∈ log ∧ outcome.isBad = true

/-- what the log and the rows that are left tell of a message that was pending -/
inductive MsgInv (s₀ : State) (msgId : MsgId) (R : Run) : Prop where
  | failed (hbad : EndedBadly s₀ msgId R.log) (hstate : stateOf R.s msgId = some .outFailed)
      (hev : delivered R.s msgId = delivered s₀ msgId)
  | pending (hgood : ¬ EndedBadly s₀ msgId R.log) (hstate : stateOf R.s msgId = some .outPending)
      (hev : delivered R.s msgId = delivered s₀ msgId) (hleft : ∃ rowid, IsJob R.s msgId rowid)
  | done (hgood : ¬ EndedBadly s₀ msgId R.log) (hleft : ¬ ∃ rowid, IsJob R.s msgId rowid)
      (hstate : stateOf R.s msgId = some .outDelivered)
      (hev : delivered R.s msgId = delivered s₀ msgId + 1)

section
variable {s₀ : State} {R : Run} {rowid : ℕ} {s' : State} {outcome : Outcome} {msgId : MsgId}

theorem endedBadly_append : EndedBadly s₀ msgId (R.log ++ [(rowid, outcome)]) ↔
    EndedBadly s₀ msgId R.log ∨ (IsJob s₀ msgId rowid ∧ outcome.isBad = true) := by
  constructor
  · rintro ⟨r, o, hjob, ho, hbad⟩
    rcases List.mem_append.mp ho with hold | hnew
    · exact .inl ⟨r, o, hjob, hold, hbad⟩
    · cases List.mem_singleton.mp hnew
      exact .inr ⟨hjob, hbad⟩
  · rintro (⟨r, o, hjob, ho, hbad⟩ | ⟨hjob, hbad⟩)
    · exact ⟨r, o, hjob, List.mem_append_left _ ho, hbad⟩
    · exact ⟨rowid, outcome, hjob, List.mem_append_right _ List.mem_cons_self, hbad⟩

theorem endedBadly_append_of_not_isBad (h : outcome.isBad = false) :
    EndedBadly s₀ msgId (R.log ++ [(rowid, outcome)]) ↔ EndedBadly s₀ msgId R.log := by
  rw [endedBadly_append, h]
  exact or_iff_left fun hnew => Bool.false_ne_true hnew.2

theorem MsgInv.frame (inv : MsgInv s₀ msgId R) {log : List (ℕ × Outcome)}
    (hlog : EndedBadly s₀ msgId log ↔ EndedBadly s₀ msgId R.log) (hkept : Kept R.s s' msgId)
    (hjobs : ∀ r, IsJob s' msgId r ↔ IsJob R.s msgId r) : MsgInv s₀ msgId ⟨s', log⟩ := by
  obtain ⟨hstate, hev⟩ := hkept
  cases inv with
  | failed hbad hst hd => exact .failed (hlog.mpr hbad) (hstate.trans hst) (hev.trans hd)
  | pending hgood hst hd hleft =>
    obtain ⟨r, hr⟩ := hleft
    exact .pending (fun h => hgood (hlog.mp h)) (hstate.trans hst) (hev.trans hd)
      ⟨r, (hjobs r).mpr hr⟩
  | done hgood hleft hst hd =>
    exact .done (fun h => hgood (hlog.mp h)) (fun ⟨r, hr⟩ => hleft ⟨r, (hjobs r).mp hr⟩)
      (hstate.trans hst) (hev.trans hd)

theorem MsgInv.ending (inv : MsgInv s₀ msgId R) (hjob₀ : IsJob s₀ msgId rowid)
    (hjob : IsJob R.s msgId rowid) (hloads : Loads R.s msgId) (h : Ending R.s s' msgId outcome) :
    MsgInv s₀ msgId ⟨s', R.log ++ [(rowid, outcome)]⟩ := by
  have hlog : EndedBadly s₀ msgId (R.log ++ [(rowid, .attempted .success)]) ↔
      EndedBadly s₀ msgId R.log := endedBadly_append_of_not_isBad rfl
  cases h with
  | bad hbad h =>
    -- whatever happened before, a bad end leaves the message failed
    have hb : EndedBadly s₀ msgId (R.log ++ [(rowid, outcome)]) :=
      endedBadly_append.mpr (.inr ⟨hjob₀, hbad⟩)
    have hstate := h.state hloads
    cases inv with
    | failed _ hst hd => exact .failed hb (by rw [hstate, hst]; rfl) (h.events.trans hd)
    | pending _ hst hd => exact .failed hb (by rw [hstate, hst]; rfl) (h.events.trans hd)
    | done _ hleft => exact absurd ⟨rowid, hjob⟩ hleft
  | pending hleft h =>
    have hstate := h.state hloads
    rw [Option.map_id_apply] at hstate
    cases inv with
    | failed hb hst hd => exact .failed (hlog.mpr hb) (hstate.trans hst) (h.events.trans hd)
    | pending hgood hst hd =>
      exact .pending (fun h => hgood (hlog.mp h)) (hstate.trans hst) (h.events.trans hd) hleft
    | done _ hl => exact absurd ⟨rowid, hjob⟩ hl
  | last hleft h =>
    have hstate := h.state hloads
    have hev := h.events
    cases inv with
    | failed hb hst hd =>
      -- the last success does not overwrite an earlier failure
      rw [hst] at hstate hev
      exact .failed (hlog.mpr hb) hstate (hev.trans hd)
    | pending hgood hst hd =>
      rw [hst] at hstate hev
      exact .done (fun h => hgood (hlog.mp h)) hleft hstate (hev.trans (congrArg (· + 1) hd))
    | done _ hl => exact absurd ⟨rowid, hjob⟩ hl

theorem Effect.loads {s : State} (h : Effect s rowid s' outcome) (hloads : Loads s msgId) :
    Loads s' msgId := by
  cases h with
  | stays _ _ _ _ _ hkeep => exact hkeep msgId hloads
  | ended _ _ _ _ hend => cases hend <;> exact Alters.loads (by assumption) msgId hloads

theorem Ending.others {s : State} {m : MsgId} (h : Ending s s' msgId outcome) (hm : m ≠ msgId) :
    Kept s s' m := by
  cases h <;> exact Alters.others (by assumption) m hm

theorem msgInv_call (rows : RowInv s₀ R) (hloads : Loads R.s msgId) (inv : MsgInv s₀ msgId R)
    (h : Effect R.s rowid s' outcome) : MsgInv s₀ msgId ⟨s', R.log ++ [(rowid, outcome)]⟩ := by
  cases h with
  | stays hrows _ hend _ hkept =>
    have hgood : outcome.isBad = false :=
      Bool.eq_false_iff.mpr fun hbad => by rw [Outcome.isEnd_of_isBad hbad] at hend; cases hend
    refine inv.frame (endedBadly_append_of_not_isBad hgood) (hkept msgId) fun r => ?_
    rw [IsJob, hrows, IsJob]
    by_cases hr : r = rowid
    · subst hr
      cases R.s.smtp.row r <;> simp [Job.count]
    · rw [Function.update_of_ne hr]
  | ended job hrow hrows _ hend =>
    obtain ⟨job₀, hrow₀, hid₀⟩ := rows.kept rowid job hrow
    by_cases hm : msgId = job.msgId
    · subst hm
      exact inv.ending ⟨job₀, hrow₀, hid₀.symm⟩ ⟨job, hrow, rfl⟩ hloads hend
    · refine inv.frame ?_ (hend.others hm) fun r => ?_
      · rw [endedBadly_append]
        refine or_iff_left ?_
        rintro ⟨⟨job₁, hrow₁, hid₁⟩, -⟩
        rw [hrow₀] at hrow₁
        cases hrow₁
        exact hm (hid₁.symm.trans hid₀.symm)
      · rw [IsJob, hrows, IsJob]
        by_cases hr : r = rowid
        · subst hr
          simp [hrow, Ne.symm hm]
        · rw [Function.update_of_ne hr]

end

/-! ## whole runs -/

section
variable {s₀ : State} {calls : List Call}

theorem rowInv_run (hcon : ∀ c ∈ calls, c.connected = true) : RowInv s₀ (run s₀ calls) := by
  have hok : RunOk Run.call (fun _ c => c.connected = true) ⟨s₀, []⟩ calls :=
    .of_mem calls (fun c hc _ => hcon c hc) _
  exact hok.inv (fun _ _ hc inv => rowInv_call inv (sendMsgToSmtp_effect _ hc)) (rowInv_start s₀)

theorem msgInv_run {msgId : MsgId} (hcon : ∀ c ∈ calls, c.connected = true)
    (hloads : Loads s₀ msgId) (hpending : stateOf s₀ msgId = some .outPending)
    (hjobs : ∃ rowid, IsJob s₀ msgId rowid) : MsgInv s₀ msgId (run s₀ calls) := by
  have hok : RunOk Run.call (fun _ c => c.connected = true) ⟨s₀, []⟩ calls :=
    .of_mem calls (fun c hc _ => hcon c hc) _
  have hstart : MsgInv s₀ msgId ⟨s₀, []⟩ :=
    .pending (fun ⟨_, _, _, h, _⟩ => absurd h List.not_mem_nil) hpending rfl hjobs
  have hkeep : ∀ R c, c.connected = true →
      RowInv s₀ R ∧ Loads R.s msgId ∧ MsgInv s₀ msgId R →
      RowInv s₀ (R.call c) ∧ Loads (R.call c).s msgId ∧ MsgInv s₀ msgId (R.call c) := by
    rintro R c hc ⟨rows, hl, inv⟩
    have heffect := sendMsgToSmtp_effect R.s hc
    exact ⟨rowInv_call rows heffect, heffect.loads hl, msgInv_call rows hl inv heffect⟩
  have hall : RowInv s₀ (run s₀ calls) ∧ Loads (run s₀ calls).s msgId ∧
      MsgInv s₀ msgId (run s₀ calls) := hok.inv hkeep ⟨rowInv_start s₀, hloads, hstart⟩
  exact hall.2.2

theorem log_foldl (R : Run) (calls : List Call) :
    (calls.foldl Run.call R).log.map Prod.fst = R.log.map Prod.fst ++ calls.map Call.rowid := by
  induction calls generalizing R with
  | nil => simp
  | cons c calls ih =>
    rw [List.foldl_cons, ih]
    simp [Run.call]

theorem callsOn_run (s₀ : State) (calls : List Call) (rowid : ℕ) :
    callsOn (run s₀ calls).log rowid = calls.countP fun c => c.rowid = rowid := by
  have hlog : (run s₀ calls).log.map Prod.fst = calls.map Call.rowid := log_foldl ⟨s₀, []⟩ calls
  have hcount := congrArg (List.countP fun r => decide (r = rowid)) hlog
  rw [List.countP_map, List.countP_map] at hcount
  exact hcount

end

section
variable {s₀ : State} {R : Run} {rowid : ℕ} {msgId : MsgId}

theorem RowInv.ended_of_none (rows : RowInv s₀ R) (hnone : ¬ ∃ rowid, IsJob R.s msgId rowid)
    (hjob : IsJob s₀ msgId rowid) :
    (rowid, .attempted .success) ∈ R.log ∨
      ∃ outcome, (rowid, outcome) ∈ R.log ∧ outcome.isBad = true := by
  obtain ⟨job₀, hrow₀, hid⟩ := hjob
  have hgone : R.s.smtp.row rowid = none := by
    rcases hrow : R.s.smtp.row rowid with _ | job
    · rfl
    · obtain ⟨job₁, hrow₁, hid₁⟩ := rows.kept rowid job hrow
      rw [hrow₀] at hrow₁
      cases hrow₁
      exact absurd ⟨rowid, job, hrow, hid₁.trans hid⟩ hnone
  have hends : 0 < ends R.log rowid := by
    have hended := rows.ended rowid
    rw [hgone, hrow₀] at hended
    exact Nat.one_pos.trans_eq hended.symm
  obtain ⟨⟨_, outcome⟩, ho, hend⟩ := List.countP_pos_iff.mp hends
  rw [Bool.and_eq_true, decide_eq_true_eq] at hend
  obtain ⟨rfl, hend⟩ := hend
  cases outcome with
  | limit _ => exact .inr ⟨_, ho, rfl⟩
  | attempted result =>
    cases result with
    | success => exact .inl ho
    | failure _ => exact .inr ⟨_, ho, rfl⟩
    | retry => cases hend
  | noConnection => cases hend
  | absent => cases hend

theorem RowInv.not_endedBadly (rows : RowInv s₀ R)
    (hall : ∀ rowid, IsJob s₀ msgId rowid → (rowid, .attempted .success) ∈ R.log) :
    ¬ EndedBadly s₀ msgId R.log := by
  rintro ⟨rowid, outcome, hjob, ho, hbad⟩
  have heq := rows.once (hall rowid hjob) ho rfl (Outcome.isEnd_of_isBad hbad)
  rw [← heq] at hbad
  cases hbad

end

/-- **the final state tells the truth about the jobs**: a message that was pending, with at least
one job, after any calls with a working connection -/
theorem final_state (s₀ : State) (msgId : MsgId) (calls : List Call)
    (hcon : ∀ c ∈ calls, c.connected = true) (hloads : Loads s₀ msgId)
    (hpending : stateOf s₀ msgId = some .outPending) (hjobs : ∃ rowid, IsJob s₀ msgId rowid) :
    ((¬ ∃ rowid, IsJob (run s₀ calls).s msgId rowid) →
      (∀ rowid, IsJob s₀ msgId rowid →
        (rowid, .attempted .success) ∈ (run s₀ calls).log ∨
          ∃ outcome, (rowid, outcome) ∈ (run s₀ calls).log ∧ outcome.isBad = true) ∧
      ((∀ rowid, IsJob s₀ msgId rowid → (rowid, .attempted .success) ∈ (run s₀ calls).log) →
        stateOf (run s₀ calls).s msgId = some .outDelivered) ∧
      (EndedBadly s₀ msgId (run s₀ calls).log →
        stateOf (run s₀ calls).s msgId = some .outFailed)) ∧
    ((∃ rowid, IsJob (run s₀ calls).s msgId rowid) →
      stateOf (run s₀ calls).s msgId ≠ some .outDelivered) ∧
    delivered (run s₀ calls).s msgId ≤ delivered s₀ msgId + 1 ∧
    (∀ rowid, attempts (run s₀ calls).log rowid ≤ 6) ∧
    ∀ rowid, 7 ≤ (calls.countP fun c => c.rowid = rowid) →
      (run s₀ calls).s.smtp.row rowid = none := by
  have rows : RowInv s₀ (run s₀ calls) := rowInv_run hcon
  have inv : MsgInv s₀ msgId (run s₀ calls) := msgInv_run hcon hloads hpending hjobs
  refine ⟨fun hnone => ⟨fun rowid => rows.ended_of_none hnone, ?_, ?_⟩, ?_, ?_, rows.attempted, ?_⟩
  · intro hall
    cases inv with
    | failed hbad => exact absurd hbad (rows.not_endedBadly hall)
    | pending _ _ _ hleft => exact absurd hleft hnone
    | done _ _ hstate => exact hstate
  · intro hbad
    cases inv with
    | failed _ hstate => exact hstate
    | pending hgood => exact absurd hbad hgood
    | done hgood => exact absurd hbad hgood
  · intro hleft hstate
    cases inv with
    | failed _ hst =>
      rw [hst] at hstate
      cases hstate
    | pending _ hst =>
      rw [hst] at hstate
      cases hstate
    | done _ hnone => exact hnone hleft
  · cases inv with
    | failed _ _ hev => omega
    | pending _ _ hev => omega
    | done _ _ _ hev => omega
  · intro rowid hcalls
    rcases hrow : (run s₀ calls).s.smtp.row rowid with _ | job
    · rfl
    · have hcount := rows.counted rowid job hrow
      rw [callsOn_run] at hcount
      omega

def twoJobs : State where
  smtp := (IdTable.empty.insert { msgId := 20 }).insert { msgId := 20 }
  msgs := fun m => if m = 20 then some { chatId := 10, state := .outPending } else none

/-- the success of the second job does not hide the failure of the first -/
theorem final_state_two_jobs :
    stateOf (run twoJobs [⟨1, true, .failure "550"⟩, ⟨2, true, .success⟩]).s 20 =
      some .outFailed := by
  have hjob : IsJob twoJobs 20 1 := ⟨{ msgId := 20 }, rfl, rfl⟩
  have hloads : Loads twoJobs 20 :=
    ⟨rfl, { chatId := 10, state := .outPending }, rfl, by simp [DC_CHAT_ID_TRASH]⟩
  have hnone : ¬ ∃ rowid,
      IsJob (run twoJobs [⟨1, true, .failure "550"⟩, ⟨2, true, .success⟩]).s 20 rowid := by
    rintro ⟨rowid, job, hrow, -⟩
    rcases rowid with _ | _ | _ | rowid <;> cases hrow
  have hfinal := final_state twoJobs 20 [⟨1, true, .failure "550"⟩, ⟨2, true, .success⟩] (by simp)
    hloads rfl ⟨1, hjob⟩
  exact (hfinal.1 hnone).2.2 ⟨1, _, hjob, List.mem_cons_self, rfl⟩

/-- without jobs nothing is left from the start, and the message stays pending; so does a message in
the trash, whose job failed -/
theorem final_state_no_jobs :
    (∃ s₀ : State, Loads s₀ 20 ∧ stateOf s₀ 20 = some .outPending ∧
      (¬ ∃ rowid, IsJob (run s₀ []).s 20 rowid) ∧
      (∀ rowid, IsJob s₀ 20 rowid → (rowid, .attempted .success) ∈ (run s₀ []).log) ∧
      stateOf (run s₀ []).s 20 ≠ some .outDelivered) ∧
    ∃ s₀ : State, s₀.msgs 20 = some { chatId := DC_CHAT_ID_TRASH, state := .outPending } ∧
      IsJob s₀ 20 1 ∧ (¬ ∃ rowid, IsJob (run s₀ [⟨1, true, .failure "550"⟩]).s 20 rowid) ∧
      EndedBadly s₀ 20 (run s₀ [⟨1, true, .failure "550"⟩]).log ∧
      stateOf (run s₀ [⟨1, true, .failure "550"⟩]).s 20 = some .outPending := by
  constructor
  · refine ⟨{ smtp := IdTable.empty, msgs := fun _ => some { chatId := 10, state := .outPending } },
      ⟨rfl, _, rfl, by simp [DC_CHAT_ID_TRASH]⟩, rfl, ?_, ?_, ?_⟩
    · rintro ⟨rowid, job, hrow, -⟩
      cases hrow
    · rintro rowid ⟨job, hrow, -⟩
      cases hrow
    · simp [run, stateOf]
  · have hjob : (IdTable.empty.insert { msgId := 20 } : IdTable Job).row 1 = some { msgId := 20 } :=
      rfl
    refine ⟨{ smtp := IdTable.empty.insert { msgId := 20 },
              msgs := fun _ => some { chatId := DC_CHAT_ID_TRASH, state := .outPending } },
      rfl, ⟨_, hjob, rfl⟩, ?_, ⟨1, _, ⟨_, hjob, rfl⟩, List.mem_cons_self, rfl⟩, rfl⟩
    rintro ⟨rowid, job, hrow, -⟩
    rcases rowid with _ | _ | rowid <;> cases hrow

end EpsilonChat.Smtp
