import EpsilonChat.Base.I64
import EpsilonChat.Base.Ids
import EpsilonChat.Lib.IdTable

/-!
# Starting the timers of messages

Three functions start the timer of a message, each with a statement of its own.  A message may be
covered by any of them, any number of times, with clocks that run forwards or backwards.  All guards
say the same: the timestamp is set if there is none, or if it becomes EARLIER (`earlier`).

The sums are not the same.  `start_ephemeral_timer` adds in Rust and stops at the end of the range;
the two others add in SQL, where a sum that does not fit is a REAL (`RealAdd`).  A call that is given a
reserved id FAILS, and starts no timer at all.

* `row_run`: what a call does to a message;
* `foldl_earlier`: over a whole history the timestamp is the minimum;
* **`timer_never_postponed`**: it only gets earlier, and is the minimum of clock + timer, provided
  that this minimum fits into an `i64`.
-/

namespace EpsilonChat.Ephemeral
namespace Start

open Lib

/-- the columns of `msgs` that are used; a timestamp that does not fit into an `i64` is a REAL of that
size, and a whole number -/
structure MsgRow where
  chatId : ChatId
  ephemeralTimer : UInt32 := 0
  ephemeralTimestamp : ℤ := 0
  deriving DecidableEq

inductive Timer where
  | disabled
  | enabled (duration : UInt32)
  deriving DecidableEq

/-- `time()` is an `i64`; here it is positive -/
structure Clock where
  now : I64
  pos : 0 < now.val

/-- the sum of two integers in SQLite, if it does not fit into 64 bits: both are converted to REAL,
added and rounded; `2^63` is a REAL, so the sum does not drop below it -/
structure RealAdd where
  add : ℤ → ℤ → ℤ
  le_add : ∀ a b, 2^63 ≤ a + b → 2^63 ≤ add a b

/-! ## the source -/

def ofU32 (n : UInt32) : I64 := ⟨n.toNat, by have := n.toNat_lt; omega⟩

/-- `?1 + ephemeral_timer` -/
def sqlAdd (real : RealAdd) (a b : ℤ) : ℤ :=
  if -2^63 ≤ a + b ∧ a + b < 2^63 then a + b else real.add a b

def ephemeralTimer (msgs : IdTable MsgRow) (id : MsgId) : Except String Timer :=
  id.toSql.map fun id =>
    match (msgs.row id).map MsgRow.ephemeralTimer with
    | none => .disabled
    | some duration => if duration = 0 then .disabled else .enabled duration

def startEphemeralTimer (msgs : IdTable MsgRow) (c : Clock) (id : MsgId) :
    Except String (IdTable MsgRow) := do
  match ← ephemeralTimer msgs id with
  | .enabled duration =>
    let ephemeralTimestamp := (I64.saturatingAdd c.now (ofU32 duration)).val
    let id ← id.toSql
    return msgs.update id fun r =>
      if r.ephemeralTimestamp = 0 ∨ r.ephemeralTimestamp > ephemeralTimestamp then
        { r with ephemeralTimestamp := ephemeralTimestamp }
      else r
  | .disabled => return msgs

/-- the prepared statement of `start_ephemeral_timers_msgids` -/
def startRow (real : RealAdd) (now : I64) (r : MsgRow) : MsgRow :=
  if (r.ephemeralTimestamp = 0 ∨
      r.ephemeralTimestamp > sqlAdd real now.val r.ephemeralTimer.toNat) ∧ r.ephemeralTimer > 0 then
    { r with ephemeralTimestamp := sqlAdd real now.val r.ephemeralTimer.toNat }
  else r

/-- the rows may have more columns, which `row` leaves as they are; after an error the transaction is
rolled back -/
def startEphemeralTimersMsgids {ρ : Type} (row : (MsgRow → MsgRow) → ρ → ρ) (real : RealAdd)
    (msgs : IdTable ρ) (now : I64) (msgIds : List MsgId) : Except String (IdTable ρ) :=
  msgIds.foldlM (fun t id => id.toSql.map fun _ => t.update id (row (startRow real now))) msgs

def startChatEphemeralTimers (real : RealAdd) (msgs : IdTable MsgRow) (c : Clock)
    (chatId : ChatId) : IdTable MsgRow :=
  msgs.updateWhere
    (fun r => r.chatId = chatId ∧ r.ephemeralTimer > 0 ∧
      (r.ephemeralTimestamp = 0 ∨
        r.ephemeralTimestamp > sqlAdd real c.now.val r.ephemeralTimer.toNat))
    (fun r => { r with ephemeralTimestamp := sqlAdd real c.now.val r.ephemeralTimer.toNat })

inductive Call where
  | startEphemeralTimer (c : Clock) (id : MsgId)
  | startEphemeralTimersMsgids (c : Clock) (msgIds : List MsgId)
  | startChatEphemeralTimers (c : Clock) (chatId : ChatId)

def Call.exec (real : RealAdd) (msgs : IdTable MsgRow) : Call → Except String (IdTable MsgRow)
  | .startEphemeralTimer c id => Start.startEphemeralTimer msgs c id
  | .startEphemeralTimersMsgids c msgIds =>
    Start.startEphemeralTimersMsgids (fun f => f) real msgs c.now msgIds
  | .startChatEphemeralTimers c chatId => .ok (Start.startChatEphemeralTimers real msgs c chatId)

def Call.apply (real : RealAdd) (msgs : IdTable MsgRow) (call : Call) : IdTable MsgRow :=
  match call.exec real msgs with
  | .ok msgs => msgs
  | .error _ => msgs

def run (real : RealAdd) (msgs : IdTable MsgRow) (calls : List Call) : IdTable MsgRow :=
  calls.foldl (Call.apply real) msgs

/-! ## what a call does to a message -/

def Call.clock : Call → Clock
  | .startEphemeralTimer c _ | .startEphemeralTimersMsgids c _ | .startChatEphemeralTimers c _ => c

/-- the call is about the message, and does not fail -/
def Call.covers (id : MsgId) (r : MsgRow) : Call → Bool
  | .startEphemeralTimer _ id' => id = id' ∧ MsgId.lastSpecial < id
  | .startEphemeralTimersMsgids _ msgIds => id ∈ msgIds ∧ ∀ i ∈ msgIds, MsgId.lastSpecial < i
  | .startChatEphemeralTimers _ chatId => r.chatId = chatId

def Call.sum (timer : UInt32) (c : Call) : ℤ := c.clock.now.val + timer.toNat

def Call.stamp (real : RealAdd) (timer : UInt32) : Call → ℤ
  | .startEphemeralTimer c _ => (I64.saturatingAdd c.now (ofU32 timer)).val
  | .startEphemeralTimersMsgids c _ | .startChatEphemeralTimers c _ =>
    sqlAdd real c.now.val timer.toNat

def earlier (t stamp : ℤ) : ℤ := if t = 0 ∨ t > stamp then stamp else t

def MsgRow.start (r : MsgRow) (stamp : ℤ) : MsgRow :=
  { r with ephemeralTimestamp := earlier r.ephemeralTimestamp stamp }

theorem start_eq (r : MsgRow) (stamp : ℤ) :
    r.start stamp = if r.ephemeralTimestamp = 0 ∨ r.ephemeralTimestamp > stamp then
      { r with ephemeralTimestamp := stamp } else r := by
  unfold MsgRow.start earlier
  split <;> rfl

theorem earlier_idem (t stamp : ℤ) : earlier (earlier t stamp) stamp = earlier t stamp := by
  unfold earlier
  by_cases h : t = 0 ∨ t > stamp
  · rw [if_pos h, ite_self]
  · rw [if_neg h, if_neg h]

section
variable (real : RealAdd)

def afterCall (id : MsgId) (c : Call) (r : MsgRow) : MsgRow :=
  if c.covers id r = true ∧ r.ephemeralTimer > 0 then r.start (c.stamp real r.ephemeralTimer) else r

theorem afterCall_covered {id : MsgId} {c : Call} {r : MsgRow} (hc : c.covers id r = true)
    (hr : r.ephemeralTimer > 0) : afterCall real id c r = r.start (c.stamp real r.ephemeralTimer) :=
  if_pos ⟨hc, hr⟩

theorem afterCall_other {id : MsgId} {c : Call} {r : MsgRow}
    (h : c.covers id r = false ∨ ¬ r.ephemeralTimer > 0) : afterCall real id c r = r := by
  refine if_neg fun hboth => ?_
  rcases h with h | h
  · rw [h] at hboth
    cases hboth.1
  · exact h hboth.2

theorem toSql_of_lt {id : MsgId} (h : MsgId.lastSpecial < id) : id.toSql = .ok id := by
  rw [MsgId.toSql, MsgId.isSpecial, if_neg (by simpa using h)]

theorem toSql_of_le {id : MsgId} (h : ¬ MsgId.lastSpecial < id) :
    id.toSql = .error s!"Invalid MsgId {id}" := by
  rw [MsgId.toSql, MsgId.isSpecial, if_pos (by simpa using h)]

theorem startEphemeralTimer_ok (msgs : IdTable MsgRow) (c : Clock) {id : MsgId}
    (hlt : MsgId.lastSpecial < id) : ∃ msgs', startEphemeralTimer msgs c id = .ok msgs' ∧
      (∀ id', id' ≠ id → msgs'.row id' = msgs.row id') ∧
      msgs'.row id = (msgs.row id).map fun r => if r.ephemeralTimer > 0 then
        r.start (I64.saturatingAdd c.now (ofU32 r.ephemeralTimer)).val else r := by
  unfold startEphemeralTimer ephemeralTimer
  rw [toSql_of_lt hlt]
  dsimp only [Except.map, bind, Except.bind]
  rcases hrow : msgs.row id with _ | r
  · exact ⟨msgs, rfl, fun _ _ => rfl, hrow⟩
  · dsimp only [Option.map_some]
    by_cases hzero : r.ephemeralTimer = 0
    · have hnot : ¬ r.ephemeralTimer > 0 := by rw [hzero]; decide
      rw [if_pos hzero, if_neg hnot]
      exact ⟨msgs, rfl, fun _ _ => rfl, hrow⟩
    · have hpos : r.ephemeralTimer > 0 := UInt32.pos_iff_ne_zero.mpr hzero
      rw [if_neg hzero, if_pos hpos, start_eq]
      exact ⟨_, rfl, fun _ hid => IdTable.update_row_of_ne _ hid, IdTable.update_row_self _ hrow⟩

theorem row_startEphemeralTimer (msgs : IdTable MsgRow) (c : Clock) (id' id : MsgId) :
    ((Call.startEphemeralTimer c id').apply real msgs).row id =
      (msgs.row id).map (afterCall real id (.startEphemeralTimer c id')) := by
  have hother : ¬ (id = id' ∧ MsgId.lastSpecial < id) →
      ∀ r, afterCall real id (.startEphemeralTimer c id') r = r :=
    fun h _ => afterCall_other real (.inl (decide_eq_false h))
  by_cases hlt : MsgId.lastSpecial < id'
  · obtain ⟨msgs', hexec, hne, hself⟩ := startEphemeralTimer_ok msgs c hlt
    have happly : (Call.startEphemeralTimer c id').apply real msgs = msgs' := by
      show (match startEphemeralTimer msgs c id' with | .ok msgs => msgs | .error _ => msgs) = msgs'
      rw [hexec]
    rw [happly]
    by_cases hid : id = id'
    · subst hid
      rw [hself]
      congr 1
      funext r
      have hcovers : (Call.startEphemeralTimer c id).covers id r = true :=
        decide_eq_true ⟨rfl, hlt⟩
      by_cases hpos : r.ephemeralTimer > 0
      · rw [if_pos hpos, afterCall_covered real hcovers hpos]
        rfl
      · rw [if_neg hpos, afterCall_other real (.inr hpos)]
    · rw [hne id hid, funext (hother fun h => hid h.1), Option.map_id']
  · have happly : (Call.startEphemeralTimer c id').apply real msgs = msgs := by
      show (match startEphemeralTimer msgs c id' with | .ok msgs => msgs | .error _ => msgs) = msgs
      unfold startEphemeralTimer ephemeralTimer
      rw [toSql_of_le hlt]
      rfl
    rw [happly, funext (hother fun h => hlt (h.1 ▸ h.2)), Option.map_id']

theorem startRow_eq (c : Clock) (r : MsgRow) : startRow real c.now r =
    if r.ephemeralTimer > 0 then r.start (sqlAdd real c.now.val r.ephemeralTimer.toNat) else r := by
  unfold startRow
  by_cases hpos : r.ephemeralTimer > 0
  · rw [if_pos hpos, start_eq]
    simp only [hpos, and_true]
  · rw [if_neg hpos, if_neg fun h => hpos h.2]

theorem startRow_idem (c : Clock) (r : MsgRow) :
    startRow real c.now (startRow real c.now r) = startRow real c.now r := by
  rw [startRow_eq, startRow_eq]
  by_cases hpos : r.ephemeralTimer > 0
  · have hpos' : (r.start (sqlAdd real c.now.val r.ephemeralTimer.toNat)).ephemeralTimer > 0 := hpos
    rw [if_pos hpos, if_pos hpos']
    unfold MsgRow.start
    dsimp only
    rw [earlier_idem]
  · rw [if_neg hpos, if_neg hpos]

theorem startEphemeralTimersMsgids_eq {ρ : Type} (row : (MsgRow → MsgRow) → ρ → ρ)
    (msgs : IdTable ρ) (now : I64) (msgIds : List MsgId) :
    startEphemeralTimersMsgids row real msgs now msgIds =
      match msgIds.find? MsgId.isSpecial with
      | none => .ok (msgIds.foldl (fun t id => t.update id (row (startRow real now))) msgs)
      | some id => .error s!"Invalid MsgId {id}" := by
  have hfold := MsgId.foldlM_toSql (fun id => id)
    (fun (t : IdTable ρ) id => t.update id (row (startRow real now))) msgIds msgs
  rwa [List.map_id'] at hfold

theorem row_startEphemeralTimersMsgids (msgs : IdTable MsgRow) (c : Clock) (msgIds : List MsgId)
    (id : MsgId) :
    ((Call.startEphemeralTimersMsgids c msgIds).apply real msgs).row id =
      (msgs.row id).map (afterCall real id (.startEphemeralTimersMsgids c msgIds)) := by
  show (match startEphemeralTimersMsgids (fun f => f) real msgs c.now msgIds with
    | .ok msgs => msgs | .error _ => msgs).row id = _
  rw [startEphemeralTimersMsgids_eq]
  by_cases hcovers : id ∈ msgIds ∧ ∀ i ∈ msgIds, MsgId.lastSpecial < i
  case neg =>
    have hafter : ∀ r, afterCall real id (.startEphemeralTimersMsgids c msgIds) r = r := fun r =>
      afterCall_other real (.inl (decide_eq_false hcovers))
    rw [funext hafter, Option.map_id']
    cases hfind : msgIds.find? MsgId.isSpecial with
    | some i => rfl
    | none =>
      have hids : ∀ i ∈ msgIds, MsgId.lastSpecial < i := by
        simpa [MsgId.isSpecial] using hfind
      have hid : id ∉ msgIds := fun h => hcovers ⟨h, hids⟩
      dsimp only
      rw [IdTable.foldl_update_row (startRow_idem real c), if_neg hid]
  case pos =>
    have hfind : msgIds.find? MsgId.isSpecial = none := by
      simpa [MsgId.isSpecial] using hcovers.2
    rw [hfind]
    dsimp only
    rw [IdTable.foldl_update_row (startRow_idem real c), if_pos hcovers.1]
    congr 1
    funext r
    have hcall : (Call.startEphemeralTimersMsgids c msgIds).covers id r = true :=
      decide_eq_true hcovers
    rw [startRow_eq]
    by_cases hpos : r.ephemeralTimer > 0
    · rw [if_pos hpos, afterCall_covered real hcall hpos]
      rfl
    · rw [if_neg hpos, afterCall_other real (.inr hpos)]

theorem row_startChatEphemeralTimers (msgs : IdTable MsgRow) (c : Clock) (chatId : ChatId)
    (id : MsgId) :
    (startChatEphemeralTimers real msgs c chatId).row id =
      (msgs.row id).map (afterCall real id (.startChatEphemeralTimers c chatId)) := by
  rw [startChatEphemeralTimers, IdTable.updateWhere_row]
  congr 1
  funext r
  simp only [decide_eq_true_eq]
  by_cases hcovered : r.chatId = chatId ∧ r.ephemeralTimer > 0
  · obtain ⟨hchat, hpos⟩ := hcovered
    have hcovers : (Call.startChatEphemeralTimers c chatId).covers id r = true :=
      decide_eq_true hchat
    rw [afterCall_covered real hcovers hpos, start_eq]
    simp only [hchat, hpos, true_and]
    rfl
  · have hother : (Call.startChatEphemeralTimers c chatId).covers id r = false ∨
        ¬ r.ephemeralTimer > 0 := by
      rcases not_and_or.mp hcovered with h | h
      · exact .inl (decide_eq_false h)
      · exact .inr h
    rw [afterCall_other real hother, if_neg fun h => hcovered ⟨h.1, h.2.1⟩]

theorem row_apply (msgs : IdTable MsgRow) (call : Call) (id : MsgId) :
    (call.apply real msgs).row id = (msgs.row id).map (afterCall real id call) := by
  cases call with
  | startEphemeralTimer c id' => exact row_startEphemeralTimer real msgs c id' id
  | startEphemeralTimersMsgids c msgIds => exact row_startEphemeralTimersMsgids real msgs c msgIds id
  | startChatEphemeralTimers c chatId => exact row_startChatEphemeralTimers real msgs c chatId id

theorem row_run (msgs : IdTable MsgRow) (calls : List Call) (id : MsgId) :
    (run real msgs calls).row id =
      (msgs.row id).map fun r => calls.foldl (fun r call => afterCall real id call r) r := by
  induction calls generalizing msgs with
  | nil => exact Option.map_id'.symm
  | cons call calls ih =>
    show (run real (call.apply real msgs) calls).row id = _
    rw [ih, row_apply, Option.map_map]
    rfl

/-! ## the timestamp over a history -/

def stamps (id : MsgId) (r : MsgRow) (calls : List Call) : List ℤ :=
  (calls.filter (Call.covers id r)).map (Call.stamp real r.ephemeralTimer)

theorem foldl_afterCall (id : MsgId) (r : MsgRow) (calls : List Call) :
    calls.foldl (fun r call => afterCall real id call r) r =
      if r.ephemeralTimer > 0 then
        { r with ephemeralTimestamp := (stamps real id r calls).foldl earlier r.ephemeralTimestamp }
      else r := by
  by_cases hpos : r.ephemeralTimer > 0
  case neg =>
    rw [if_neg hpos]
    induction calls with
    | nil => rfl
    | cons call calls ih => rw [List.foldl_cons, afterCall_other real (.inr hpos), ih]
  case pos =>
    rw [if_pos hpos]
    induction calls generalizing r with
    | nil => rfl
    | cons call calls ih =>
      rw [List.foldl_cons]
      cases hcovers : call.covers id r with
      | false =>
        rw [afterCall_other real (.inl hcovers), ih r hpos, stamps, stamps,
          List.filter_cons_of_neg (by rw [hcovers]; exact Bool.false_ne_true)]
      | true =>
        rw [afterCall_covered real hcovers hpos, ih (r.start _) hpos, stamps, stamps,
          List.filter_cons_of_pos hcovers, List.map_cons, List.foldl_cons]
        rfl

end

theorem foldl_earlier_le {ts : List ℤ} (hpos : ∀ s ∈ ts, 0 < s) {t : ℤ} (ht : t ≠ 0) :
    ts.foldl earlier t ≠ 0 ∧ ts.foldl earlier t ≤ t := by
  induction ts generalizing t with
  | nil => exact ⟨ht, le_refl t⟩
  | cons s ts ih =>
    obtain ⟨hs, hts⟩ := List.forall_mem_cons.mp hpos
    have hstep : earlier t s ≠ 0 ∧ earlier t s ≤ t := by
      unfold earlier
      split <;> omega
    obtain ⟨hne, hle⟩ := ih hts hstep.1
    exact ⟨hne, hle.trans hstep.2⟩

theorem foldl_earlier_min {ts : List ℤ} (hpos : ∀ s ∈ ts, 0 < s) {t : ℤ} (ht : 0 < t) :
    ts.foldl earlier t = ts.foldl min t := by
  induction ts generalizing t with
  | nil => rfl
  | cons s ts ih =>
    obtain ⟨hs, hts⟩ := List.forall_mem_cons.mp hpos
    have hstep : earlier t s = min t s := by
      unfold earlier
      split <;> omega
    rw [List.foldl_cons, List.foldl_cons, hstep, ih hts (lt_min ht hs)]

theorem foldl_earlier {ts : List ℤ} (hpos : ∀ s ∈ ts, 0 < s) :
    ts.foldl earlier 0 = ts.min?.getD 0 := by
  rcases ts with _ | ⟨s, ts⟩
  · rfl
  · obtain ⟨hs, hts⟩ := List.forall_mem_cons.mp hpos
    have hfirst : earlier 0 s = s := if_pos (.inl rfl)
    rw [List.foldl_cons, hfirst, foldl_earlier_min hts hs, List.min?_cons']
    rfl

/-! ## the sums -/

section
variable (real : RealAdd) (timer : UInt32)

theorem sum_pos (call : Call) : 0 < call.sum timer := by
  have hclock := call.clock.pos
  show 0 < call.clock.now.val + (timer.toNat : ℤ)
  omega

theorem stamp_cases (call : Call) :
    (call.sum timer < 2^63 ∧ call.stamp real timer = call.sum timer) ∨
      (2^63 ≤ call.sum timer ∧ 2^63 - 1 ≤ call.stamp real timer) := by
  have hpos := sum_pos timer call
  have hsql : ∀ c : Clock, 0 < c.now.val + (timer.toNat : ℤ) →
      (c.now.val + (timer.toNat : ℤ) < 2^63 ∧
        sqlAdd real c.now.val timer.toNat = c.now.val + timer.toNat) ∨
      (2^63 ≤ c.now.val + (timer.toNat : ℤ) ∧ 2^63 - 1 ≤ sqlAdd real c.now.val timer.toNat) := by
    intro c hpos
    by_cases hfits : c.now.val + (timer.toNat : ℤ) < 2^63
    · exact .inl ⟨hfits, if_pos ⟨by omega, hfits⟩⟩
    · have hreal := real.le_add c.now.val timer.toNat (not_lt.mp hfits)
      refine .inr ⟨not_lt.mp hfits, ?_⟩
      rw [sqlAdd, if_neg fun h => hfits h.2]
      omega
  cases call with
  | startEphemeralTimer c id =>
    have hstamp : (Call.startEphemeralTimer c id).stamp real timer =
        max (-2^63) (min (c.now.val + timer.toNat) (2^63 - 1)) := rfl
    have hsum : (Call.startEphemeralTimer c id).sum timer = c.now.val + timer.toNat := rfl
    rw [hstamp, hsum]
    rw [hsum] at hpos
    omega
  | startEphemeralTimersMsgids c msgIds => exact hsql c hpos
  | startChatEphemeralTimers c chatId => exact hsql c hpos

theorem stamp_pos (call : Call) : 0 < call.stamp real timer := by
  have hpos := sum_pos timer call
  rcases stamp_cases real timer call with ⟨_, h⟩ | ⟨_, h⟩ <;> omega

theorem stamps_pos (id : MsgId) (r : MsgRow) (calls : List Call) :
    ∀ s ∈ stamps real id r calls, 0 < s := by
  intro s hs
  obtain ⟨call, _, rfl⟩ := List.mem_map.mp hs
  exact stamp_pos real r.ephemeralTimer call

/-- a minimum that fits is attained by an exact sum, and the others are not below it -/
theorem min_stamps {calls : List Call} {x : ℤ} (hmin : (calls.map (Call.sum timer)).min? = some x)
    (hfits : x < 2^63) : (calls.map (Call.stamp real timer)).min? = some x := by
  rw [List.min?_eq_some_iff] at hmin ⊢
  obtain ⟨hmem, hle⟩ := hmin
  constructor
  · obtain ⟨call, hcall, rfl⟩ := List.mem_map.mp hmem
    refine List.mem_map.mpr ⟨call, hcall, ?_⟩
    rcases stamp_cases real timer call with ⟨_, h⟩ | ⟨h, _⟩
    · exact h
    · exact absurd hfits (not_lt.mpr h)
  · intro s hs
    obtain ⟨call, hcall, rfl⟩ := List.mem_map.mp hs
    have hcallSum := hle _ (List.mem_map_of_mem hcall)
    rcases stamp_cases real timer call with ⟨_, h⟩ | ⟨_, h⟩ <;> omega

end

/-- **never postponed.**  In every history of calls, split at any point: a timestamp that is set
stays set and does not increase; it is not set if the timer is 0; and for a message that started at
zero it is the minimum of the sums of the calls that covered the message, as the calls compute them.
If the minimum of clock + timer over these calls fits into an `i64`, it is that minimum. -/
theorem timer_never_postponed (real : RealAdd) (msgs : IdTable MsgRow) (before after : List Call)
    (id : MsgId) (m : MsgRow) (hm : msgs.row id = some m) :
    ∃ t₁ t₂ : ℤ,
      (run real msgs before).row id = some { m with ephemeralTimestamp := t₁ } ∧
      (run real msgs (before ++ after)).row id = some { m with ephemeralTimestamp := t₂ } ∧
      (t₁ ≠ 0 → t₂ ≠ 0 ∧ t₂ ≤ t₁) ∧
      (m.ephemeralTimer = 0 → t₂ = m.ephemeralTimestamp) ∧
      (m.ephemeralTimestamp = 0 → m.ephemeralTimer > 0 →
        t₂ = (stamps real id m (before ++ after)).min?.getD 0 ∧
        ((∀ x, (((before ++ after).filter (Call.covers id m)).map
            (Call.sum m.ephemeralTimer)).min? = some x → x < 2^63) →
          t₂ = (((before ++ after).filter (Call.covers id m)).map
            (Call.sum m.ephemeralTimer)).min?.getD 0)) := by
  rw [row_run, row_run, hm, Option.map_some, Option.map_some, foldl_afterCall, foldl_afterCall]
  by_cases hpos : m.ephemeralTimer > 0
  case neg =>
    rw [if_neg hpos, if_neg hpos]
    exact ⟨m.ephemeralTimestamp, m.ephemeralTimestamp, rfl, rfl, fun h => ⟨h, le_refl _⟩,
      fun _ => rfl, fun _ h => absurd h hpos⟩
  case pos =>
    rw [if_pos hpos, if_pos hpos]
    refine ⟨_, _, rfl, rfl, ?_, ?_, ?_⟩
    · intro hset
      rw [stamps, List.filter_append, List.map_append, List.foldl_append]
      exact foldl_earlier_le (stamps_pos real id m after) hset
    · intro hzero
      rw [hzero] at hpos
      exact absurd hpos (by decide)
    · intro hstart _
      have hmin : (stamps real id m (before ++ after)).foldl earlier m.ephemeralTimestamp =
          (stamps real id m (before ++ after)).min?.getD 0 := by
        rw [hstart, foldl_earlier (stamps_pos real id m _)]
      refine ⟨hmin, fun hfits => ?_⟩
      rw [hmin]
      cases hsum : (((before ++ after).filter (Call.covers id m)).map
          (Call.sum m.ephemeralTimer)).min? with
      | none =>
        rw [List.min?_eq_none_iff, List.map_eq_nil_iff] at hsum
        rw [stamps, hsum]
        rfl
      | some x => rw [stamps, min_stamps real m.ephemeralTimer hsum (hfits x hsum)]

def oneMsg : IdTable MsgRow := (IdTable.emptyAfter 10).insert { chatId := 10, ephemeralTimer := 1 }

def clockAt (now : ℤ) (h : 0 < now ∧ now < 2^63) : Clock := ⟨⟨now, by omega⟩, h.1⟩

def exactReal : RealAdd := ⟨fun a b => a + b, fun _ _ h => h⟩

/-- the second of two calls is earlier -/
theorem timer_never_postponed_backwards :
    ∃ t : ℤ, (run exactReal oneMsg
        ([.startEphemeralTimer (clockAt 50 (by decide)) 11] ++
          [.startChatEphemeralTimers (clockAt 20 (by decide)) 10])).row 11 =
      some { chatId := 10, ephemeralTimer := 1, ephemeralTimestamp := t } ∧ t = 21 := by
  obtain ⟨_, t, _, hrow, _, _, hmin⟩ := timer_never_postponed exactReal oneMsg
    [.startEphemeralTimer (clockAt 50 (by decide)) 11]
    [.startChatEphemeralTimers (clockAt 20 (by decide)) 10] 11 { chatId := 10, ephemeralTimer := 1 } rfl
  refine ⟨t, hrow, ?_⟩
  rw [(hmin rfl (by decide)).1]
  rfl

/-- at the end of the range the sum of `start_ephemeral_timer` is not clock + timer, and a list with a
reserved id starts nothing -/
theorem timer_saturates :
    (¬ ∀ (c : Clock) (t : ℤ), (run exactReal oneMsg [.startEphemeralTimer c 11]).row 11 =
        some { chatId := 10, ephemeralTimer := 1, ephemeralTimestamp := t } →
      t = (([Call.startEphemeralTimer c 11].filter
        (Call.covers 11 { chatId := 10, ephemeralTimer := 1 })).map (Call.sum 1)).min?.getD 0) ∧
    ∀ c, (run exactReal oneMsg [.startEphemeralTimersMsgids c [3, 11]]).row 11 =
      some { chatId := 10, ephemeralTimer := 1, ephemeralTimestamp := 0 } := by
  refine ⟨fun h => ?_, fun c => rfl⟩
  have hmax : (2^63 - 1 : ℤ) = 2^63 := h (clockAt (2^63 - 1) (by decide)) (2^63 - 1) rfl
  norm_num at hmax

end Start
end EpsilonChat.Ephemeral
