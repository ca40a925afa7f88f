import EpsilonChat.Base.Ids
import EpsilonChat.Base.Params

/-!
# Calls

A call is a message with three timestamps in its `param` column: when it was accepted, ended and
canceled.  They are written by the user's own actions, by messages from the other side or from
another device, and by the timer that stops the ringing; what is shown of the call is computed from
them and from the clock.

* `CallMsg`: the message, as far as calls read and write it;
* `acceptIncomingCall`, `endCall`, `handleCallMsg`, `emitEndCallIfUnaccepted`: what can happen to
  it;
* `callState`: what is shown;
* `Effect`, `step_effect`: an operation leaves the timestamps alone, or accepts a call that was
  neither accepted nor ended, or ends one that was not ended;
* **`ended_stays_ended`**: a call that has ended does not change any more, it is accepted and ended
  at most once, in this order, and if it was accepted it ends as completed.

`World` has the clock and the parts that can fail after the timestamps were written (no event is
emitted then).  Operations do not overlap.  Arithmetic on `i64` wraps.
-/

namespace EpsilonChat.Call

def ringingSeconds : ℤ := 120

def callAcceptedTimestamp : Param := .arg
def callEndedTimestamp : Param := .arg4
def callCanceledTimestamp : Param := .arg2

def wrapping (n : ℤ) : I64 :=
  ⟨n.bmod (2 ^ 64), by
    have hlow := Int.le_bmod (x := n) (m := 2 ^ 64) (by decide)
    have hhigh := Int.bmod_lt (x := n) (m := 2 ^ 64) (by decide)
    omega⟩

/-! ## the message -/

structure CallMsg where
  /-- `viewtype == Viewtype::Call` -/
  isCall : Bool := true
  fromId : ContactId
  timestampSent : I64
  param : Params := Params.new
  text : String := ""

structure Stock where
  incomingCall : (hasVideo : Bool) → String
  outgoingCall : (hasVideo : Bool) → String
  missedCall : String
  declinedCall : String
  canceledCall : String

namespace CallMsg
variable (m : CallMsg)

def isIncoming : Bool := m.fromId != ContactId.self

def remainingRingSeconds (now : I64) : ℤ :=
  max 0 (min (wrapping ((wrapping (m.timestampSent.val + ringingSeconds)).val - now.val)).val
    ringingSeconds)

def isStale (now : I64) : Bool :=
  (m.isIncoming || m.timestampSent.val != 0) && m.remainingRingSeconds now ≤ 0

def isAccepted : Bool := (m.param.get callAcceptedTimestamp).isSome

def isCanceled : Bool := (m.param.get callCanceledTimestamp).isSome

def isEnded : Bool := (m.param.get callEndedTimestamp).isSome

def hasVideoInitially : Bool := (m.param.getBool .webrtcHasVideoInitially).getD false

def markAsAccepted (now : I64) : CallMsg :=
  { m with param := m.param.setI64 callAcceptedTimestamp now }

def markAsEnded (now : I64) : CallMsg := { m with param := m.param.setI64 callEndedTimestamp now }

def markAsCanceled (now : I64) : CallMsg :=
  { m with
    param := (m.param.setI64 callEndedTimestamp now).setI64 callCanceledTimestamp now }

def durationSeconds : ℤ :=
  match m.param.getI64 callAcceptedTimestamp, m.param.getI64 callEndedTimestamp with
  | some start, some stop =>
    let seconds := (wrapping (stop.val - start.val)).val
    if seconds ≤ 0 then 1 else seconds
  | _, _ => 0

def updateText (text : String) : CallMsg := { m with text }

def updateTextDuration (stock : Stock) : CallMsg :=
  let minutes := m.durationSeconds.tdiv 60
  let duration :=
    if minutes = 0 then "<1 minute" else if minutes = 1 then "1 minute"
    else toString minutes ++ " minutes"
  if m.isIncoming then m.updateText (stock.incomingCall m.hasVideoInitially ++ "\n" ++ duration)
  else m.updateText (stock.outgoingCall m.hasVideoInitially ++ "\n" ++ duration)

/-- `load_call_by_id` -/
def load : Option CallMsg := if m.isCall then some m else none

end CallMsg

/-! ## the operations -/

inductive Event where
  | msgsChanged
  | incomingMsg
  | incomingCall (placeCallInfo : String) (hasVideo : Bool)
  | incomingCallAccepted (fromThisDevice : Bool)
  | outgoingCallAccepted (acceptCallInfo : String)
  | callEnded
  deriving DecidableEq, Repr

def Event.isCallEnded (e : Event) : Bool := e == .callEnded

def Event.isAccepted : Event → Bool
  | .incomingCallAccepted _ | .outgoingCallAccepted _ => true
  | _ => false

structure World where
  now : I64
  /-- loading the chat and accepting it if it is a contact request -/
  chatOk : Bool := true
  markseenOk : Bool := true
  /-- quoting the call and sending the hidden message -/
  sendOk : Bool := true
  /-- whether the caller is allowed to call, if this can be found out -/
  canCallMe : Option Bool := some true
  stock : Stock

structure Done where
  msg : CallMsg
  events : List Event := []
  ok : Bool := true

def acceptIncomingCall (w : World) (m : CallMsg) : Done :=
  match m.load with
  | none => ⟨m, [], false⟩
  | some call =>
    if !call.isIncoming then ⟨m, [], false⟩
    else if call.isAccepted || call.isEnded then ⟨m, [], true⟩
    else
      let call := call.markAsAccepted w.now
      if w.chatOk && w.markseenOk && w.sendOk then
        ⟨call, [.incomingCallAccepted true, .msgsChanged], true⟩
      else ⟨call, [], false⟩

def sendEnded (w : World) (call : CallMsg) : Done :=
  if w.sendOk then ⟨call, [.callEnded, .msgsChanged], true⟩ else ⟨call, [], false⟩

def endCall (w : World) (m : CallMsg) : Done :=
  match m.load with
  | none => ⟨m, [], false⟩
  | some call =>
    if call.isEnded then ⟨m, [], true⟩
    else if !call.isAccepted then
      if call.isIncoming then
        let call := call.markAsEnded w.now
        if w.markseenOk then sendEnded w (call.updateText w.stock.declinedCall)
        else ⟨call, [], false⟩
      else sendEnded w ((call.markAsCanceled w.now).updateText w.stock.canceledCall)
    else sendEnded w ((call.markAsEnded w.now).updateTextDuration w.stock)

def emitEndCallIfUnaccepted (w : World) (m : CallMsg) : Done :=
  match m.load with
  | none => ⟨m, [], true⟩
  | some call =>
    if !call.isAccepted && !call.isEnded then
      let call :=
        if call.isIncoming then (call.markAsCanceled w.now).updateText w.stock.missedCall
        else (call.markAsEnded w.now).updateText w.stock.canceledCall
      ⟨call, [.msgsChanged, .callEnded], true⟩
    else ⟨m, [], true⟩

/-- what is read of the `MimeMessage`: `is_call` or the system message it is -/
inductive CallMime where
  | call
  | callAccepted (chatWebrtcAccepted : Option String)
  | callEnded
  | other
  deriving DecidableEq, Repr

def handleCall (w : World) (call : CallMsg) : Done :=
  if call.isIncoming then
    if call.isStale w.now then ⟨call.updateText w.stock.missedCall, [.incomingMsg], true⟩
    else
      let call := call.updateText (w.stock.incomingCall call.hasVideoInitially)
      match w.canCallMe with
      | none => ⟨call, [.msgsChanged], false⟩
      | some true =>
        ⟨call, [.msgsChanged,
          .incomingCall ((call.param.get .webrtcRoom).getD "") call.hasVideoInitially], true⟩
      | some false => ⟨call, [.msgsChanged], true⟩
  else
    ⟨call.updateText (w.stock.outgoingCall call.hasVideoInitially), [.msgsChanged], true⟩

def handleCallAccepted (w : World) (call : CallMsg) (chatWebrtcAccepted : Option String) : Done :=
  if call.isEnded || call.isAccepted then ⟨call, [], true⟩
  else
    let call := call.markAsAccepted w.now
    if call.isIncoming then ⟨call, [.msgsChanged, .incomingCallAccepted false], true⟩
    else ⟨call, [.msgsChanged, .outgoingCallAccepted (chatWebrtcAccepted.getD "")], true⟩

def handleCallEnded (w : World) (call : CallMsg) (fromId : ContactId) : Done :=
  if call.isEnded then ⟨call, [], true⟩
  else
    let call :=
      if !call.isAccepted then
        if call.isIncoming then
          if fromId = ContactId.self then
            (call.markAsEnded w.now).updateText w.stock.declinedCall
          else (call.markAsCanceled w.now).updateText w.stock.missedCall
        else if fromId = ContactId.self then
          (call.markAsCanceled w.now).updateText w.stock.canceledCall
        else (call.markAsEnded w.now).updateText w.stock.declinedCall
      else (call.markAsEnded w.now).updateTextDuration w.stock
    ⟨call, [.msgsChanged, .callEnded], true⟩

def handleCallMsg (w : World) (mime : CallMime) (fromId : ContactId) (m : CallMsg) : Done :=
  match mime, m.load with
  | .other, _ => ⟨m, [], true⟩
  | _, none => ⟨m, [], true⟩
  | .call, some call => handleCall w call
  | .callAccepted info, some call => handleCallAccepted w call info
  | .callEnded, some call => handleCallEnded w call fromId

inductive Op where
  | acceptIncomingCall (w : World)
  | endCall (w : World)
  | handleCallMsg (w : World) (mime : CallMime) (fromId : ContactId)
  | emitEndCallIfUnaccepted (w : World)

def step (m : CallMsg) : Op → Done
  | .acceptIncomingCall w => acceptIncomingCall w m
  | .endCall w => endCall w m
  | .handleCallMsg w mime fromId => handleCallMsg w mime fromId m
  | .emitEndCallIfUnaccepted w => emitEndCallIfUnaccepted w m

def after (m : CallMsg) : List Op → CallMsg
  | [] => m
  | op :: ops => after (step m op).msg ops

def emitted (m : CallMsg) : List Op → List Event
  | [] => []
  | op :: ops => (step m op).events ++ emitted (step m op).msg ops

inductive CallState where
  | alerting
  | active
  | completed (duration : ℤ)
  | missed
  | declined
  | canceled
  deriving DecidableEq, Repr

/-- `call_state`, `none` if the message is no call -/
def callState (now : I64) (m : CallMsg) : Option CallState :=
  m.load.map fun call =>
    if call.isIncoming then
      if call.isAccepted then
        if call.isEnded then .completed call.durationSeconds else .active
      else if call.isCanceled then .missed
      else if call.isEnded then .declined
      else if call.isStale now then .missed
      else .alerting
    else if call.isAccepted then
      if call.isEnded then .completed call.durationSeconds else .active
    else if call.isCanceled then .canceled
    else if call.isEnded || call.isStale now then .declined
    else .alerting

/-! ## the timestamps -/

def CallMsg.stamps (m : CallMsg) : Option String × Option String × Option String :=
  (m.param.get callAcceptedTimestamp, m.param.get callEndedTimestamp,
    m.param.get callCanceledTimestamp)

section
variable {m m' : CallMsg}

theorem isAccepted_of_stamps (h : m'.stamps = m.stamps) : m'.isAccepted = m.isAccepted :=
  congrArg (fun s => s.1.isSome) h

theorem isEnded_of_stamps (h : m'.stamps = m.stamps) : m'.isEnded = m.isEnded :=
  congrArg (fun s => s.2.1.isSome) h

theorem isCanceled_of_stamps (h : m'.stamps = m.stamps) : m'.isCanceled = m.isCanceled :=
  congrArg (fun s => s.2.2.isSome) h

theorem durationSeconds_of_stamps (h : m'.stamps = m.stamps) :
    m'.durationSeconds = m.durationSeconds := by
  have haccepted : m'.param.getI64 callAcceptedTimestamp = m.param.getI64 callAcceptedTimestamp :=
    congrArg (fun s => s.1.bind I64.parse) h
  have hended : m'.param.getI64 callEndedTimestamp = m.param.getI64 callEndedTimestamp :=
    congrArg (fun s => s.2.1.bind I64.parse) h
  rw [CallMsg.durationSeconds, CallMsg.durationSeconds, haccepted, hended]

theorem callState_of_ended (hcall : m'.isCall = m.isCall) (hfrom : m'.fromId = m.fromId)
    (hstamps : m'.stamps = m.stamps) (hended : m.isEnded = true) (now now' : I64) :
    callState now' m' = callState now m := by
  have hincoming : m'.isIncoming = m.isIncoming := by
    rw [CallMsg.isIncoming, CallMsg.isIncoming, hfrom]
  rw [callState, callState, CallMsg.load, CallMsg.load, hcall]
  split
  · simp only [Option.map_some, hincoming, isAccepted_of_stamps hstamps, isEnded_of_stamps hstamps,
      isCanceled_of_stamps hstamps, durationSeconds_of_stamps hstamps, hended, if_true, Bool.true_or]
  · rfl

theorem callState_of_completed (hcall : m.isCall = true) (haccepted : m.isAccepted = true)
    (hended : m.isEnded = true) (now : I64) :
    callState now m = some (.completed m.durationSeconds) := by
  rw [callState, CallMsg.load, if_pos hcall]
  simp only [Option.map_some, haccepted, hended, if_true, ite_self]

end

/-! ## one operation -/

structure SameMsg (m m' : CallMsg) : Prop where
  isCall : m'.isCall = m.isCall
  fromId : m'.fromId = m.fromId

theorem SameMsg.trans {m m' m'' : CallMsg} (h : SameMsg m m') (h' : SameMsg m' m'') :
    SameMsg m m'' := ⟨h'.isCall.trans h.isCall, h'.fromId.trans h.fromId⟩

inductive Effect (m : CallMsg) (d : Done) : Prop where
  | keeps (hmsg : SameMsg m d.msg) (hstamps : d.msg.stamps = m.stamps)
      (hquiet : ∀ e ∈ d.events, e.isCallEnded = false ∧ e.isAccepted = false)
  | accepts (hmsg : SameMsg m d.msg) (hcall : m.isCall = true) (haccepted : m.isAccepted = false)
      (hended : m.isEnded = false) (hnow : d.msg.isAccepted = true) (hstill : d.msg.isEnded = false)
      (hquiet : ∀ e ∈ d.events, e.isCallEnded = false) (honce : d.events.countP Event.isAccepted ≤ 1)
  | ends (hmsg : SameMsg m d.msg) (hcall : m.isCall = true) (hended : m.isEnded = false)
      (hnow : d.msg.isEnded = true) (hsame : d.msg.isAccepted = m.isAccepted)
      (hquiet : ∀ e ∈ d.events, e.isAccepted = false)
      (honce : d.events.countP Event.isCallEnded ≤ 1)

section
variable {m m' : CallMsg} {now : I64}

theorem isAccepted_markAsAccepted (m : CallMsg) (now : I64) :
    (m.markAsAccepted now).isAccepted = true := by
  rw [CallMsg.isAccepted, CallMsg.markAsAccepted, Params.setI64, Params.get_set_self,
    Option.isSome_some]

theorem isEnded_markAsAccepted (m : CallMsg) (now : I64) :
    (m.markAsAccepted now).isEnded = m.isEnded := by
  rw [CallMsg.isEnded, CallMsg.markAsAccepted, Params.setI64, Params.get_set_of_ne _ _ (by decide),
    CallMsg.isEnded]

structure Marked (m : CallMsg) (now : I64) (m' : CallMsg) : Prop where
  same : SameMsg m m'
  param : m'.param = (m.markAsEnded now).param ∨ m'.param = (m.markAsCanceled now).param

theorem marked_ended (m : CallMsg) (now : I64) : Marked m now (m.markAsEnded now) :=
  ⟨⟨rfl, rfl⟩, .inl rfl⟩

theorem marked_canceled (m : CallMsg) (now : I64) : Marked m now (m.markAsCanceled now) :=
  ⟨⟨rfl, rfl⟩, .inr rfl⟩

theorem Marked.updateText (h : Marked m now m') (text : String) : Marked m now (m'.updateText text) :=
  ⟨⟨h.same.isCall, h.same.fromId⟩, h.param⟩

theorem Marked.updateTextDuration (h : Marked m now m') (stock : Stock) :
    Marked m now (m'.updateTextDuration stock) := by
  unfold CallMsg.updateTextDuration
  dsimp only
  split
  · exact h.updateText _
  · exact h.updateText _

theorem Marked.isEnded (h : Marked m now m') : m'.isEnded = true := by
  rw [CallMsg.isEnded]
  rcases h.param with h | h
  · rw [h, CallMsg.markAsEnded, Params.setI64, Params.get_set_self, Option.isSome_some]
  · rw [h, CallMsg.markAsCanceled, Params.setI64, Params.setI64,
      Params.get_set_of_ne _ _ (by decide), Params.get_set_self, Option.isSome_some]

theorem Marked.isAccepted (h : Marked m now m') : m'.isAccepted = m.isAccepted := by
  rw [CallMsg.isAccepted, CallMsg.isAccepted]
  rcases h.param with h | h
  · rw [h, CallMsg.markAsEnded, Params.setI64, Params.get_set_of_ne _ _ (by decide)]
  · rw [h, CallMsg.markAsCanceled, Params.setI64, Params.setI64,
      Params.get_set_of_ne _ _ (by decide), Params.get_set_of_ne _ _ (by decide)]

theorem eq_of_load {call : CallMsg} (h : m.load = some call) : m.isCall = true ∧ call = m := by
  unfold CallMsg.load at h
  split at h
  · next hcall => exact ⟨hcall, (Option.some.inj h).symm⟩
  · cases h

theorem Effect.refl (m : CallMsg) (ok : Bool) : Effect m ⟨m, [], ok⟩ := .keeps ⟨rfl, rfl⟩ rfl nofun

theorem Effect.of_text (m : CallMsg) (text : String) (events : List Event) (ok : Bool)
    (hquiet : ∀ e ∈ events, e.isCallEnded = false ∧ e.isAccepted = false) :
    Effect m ⟨m.updateText text, events, ok⟩ := .keeps ⟨rfl, rfl⟩ rfl hquiet

theorem Effect.of_accepted (hcall : m.isCall = true) (haccepted : m.isAccepted = false)
    (hended : m.isEnded = false) (now : I64) (events : List Event) (ok : Bool)
    (hquiet : ∀ e ∈ events, e.isCallEnded = false) (honce : events.countP Event.isAccepted ≤ 1) :
    Effect m ⟨m.markAsAccepted now, events, ok⟩ :=
  .accepts ⟨rfl, rfl⟩ hcall haccepted hended (isAccepted_markAsAccepted m now)
    ((isEnded_markAsAccepted m now).trans hended) hquiet honce

theorem Effect.of_marked (hcall : m.isCall = true) (hended : m.isEnded = false)
    (hmarked : Marked m now m') (events : List Event) (ok : Bool)
    (hquiet : ∀ e ∈ events, e.isAccepted = false) (honce : events.countP Event.isCallEnded ≤ 1) :
    Effect m ⟨m', events, ok⟩ :=
  .ends hmarked.same hcall hended hmarked.isEnded hmarked.isAccepted hquiet honce

theorem acceptIncomingCall_effect (w : World) (m : CallMsg) : Effect m (acceptIncomingCall w m) := by
  unfold acceptIncomingCall
  split
  · exact .refl m false
  · next call hload =>
    obtain ⟨hcall, rfl⟩ := eq_of_load hload
    split
    · exact .refl call false
    · split
      · exact .refl call true
      · next hopen =>
        obtain ⟨haccepted, hended⟩ : call.isAccepted = false ∧ call.isEnded = false := by
          simpa using hopen
        dsimp only
        split
        · exact .of_accepted hcall haccepted hended w.now [.incomingCallAccepted true, .msgsChanged]
            true (by decide) (by decide)
        · exact .of_accepted hcall haccepted hended w.now [] false nofun (by decide)

theorem sendEnded_effect (w : World) (hcall : m.isCall = true) (hended : m.isEnded = false)
    (hmarked : Marked m now m') : Effect m (sendEnded w m') := by
  unfold sendEnded
  split
  · exact .of_marked hcall hended hmarked [.callEnded, .msgsChanged] true (by decide) (by decide)
  · exact .of_marked hcall hended hmarked [] false nofun (by decide)

theorem endCall_effect (w : World) (m : CallMsg) : Effect m (endCall w m) := by
  unfold endCall
  split
  · exact .refl m false
  · next call hload =>
    obtain ⟨hcall, rfl⟩ := eq_of_load hload
    split
    · exact .refl call true
    · next hended =>
      have hended : call.isEnded = false := Bool.eq_false_iff.mpr hended
      split
      · split
        · dsimp only
          split
          · exact sendEnded_effect w hcall hended ((marked_ended call w.now).updateText _)
          · exact .of_marked hcall hended (marked_ended call w.now) [] false nofun (by decide)
        · exact sendEnded_effect w hcall hended ((marked_canceled call w.now).updateText _)
      · exact sendEnded_effect w hcall hended ((marked_ended call w.now).updateTextDuration _)

theorem emitEndCallIfUnaccepted_effect (w : World) (m : CallMsg) :
    Effect m (emitEndCallIfUnaccepted w m) := by
  unfold emitEndCallIfUnaccepted
  split
  · exact .refl m true
  · next call hload =>
    obtain ⟨hcall, rfl⟩ := eq_of_load hload
    split
    · next hopen =>
      have hended : call.isEnded = false := by simpa using (Bool.and_eq_true_iff.mp hopen).2
      refine .of_marked hcall hended (?_ : Marked call w.now _) [.msgsChanged, .callEnded] true
        (by decide) (by decide)
      split
      · exact (marked_canceled call w.now).updateText _
      · exact (marked_ended call w.now).updateText _
    · exact .refl call true

theorem handleCall_effect (w : World) (m : CallMsg) : Effect m (handleCall w m) := by
  unfold handleCall
  split
  · split
    · exact .of_text m _ [.incomingMsg] true (by decide)
    · dsimp only
      split
      · exact .of_text m _ [.msgsChanged] false (by decide)
      · refine .of_text m _ [.msgsChanged, .incomingCall _ _] true ?_
        exact List.forall_mem_cons.mpr ⟨⟨rfl, rfl⟩, List.forall_mem_singleton.mpr ⟨rfl, rfl⟩⟩
      · exact .of_text m _ [.msgsChanged] true (by decide)
  · exact .of_text m _ [.msgsChanged] true (by decide)

theorem handleCallAccepted_effect (w : World) (hcall : m.isCall = true) (info : Option String) :
    Effect m (handleCallAccepted w m info) := by
  unfold handleCallAccepted
  split
  · exact .refl m true
  · next hopen =>
    obtain ⟨hended, haccepted⟩ : m.isEnded = false ∧ m.isAccepted = false := by simpa using hopen
    dsimp only
    split
    · exact .of_accepted hcall haccepted hended w.now [.msgsChanged, .incomingCallAccepted false]
        true (by decide) (by decide)
    · refine .of_accepted hcall haccepted hended w.now [.msgsChanged, .outgoingCallAccepted _]
        true ?_ (Nat.le_refl 1)
      exact List.forall_mem_cons.mpr ⟨rfl, List.forall_mem_singleton.mpr rfl⟩

theorem handleCallEnded_effect (w : World) (hcall : m.isCall = true) (fromId : ContactId) :
    Effect m (handleCallEnded w m fromId) := by
  unfold handleCallEnded
  split
  · exact .refl m true
  · next hended =>
    have hended : m.isEnded = false := Bool.eq_false_iff.mpr hended
    refine .of_marked hcall hended (?_ : Marked m w.now _) [.msgsChanged, .callEnded] true
      (by decide) (by decide)
    split
    · split
      · split
        · exact (marked_ended m w.now).updateText _
        · exact (marked_canceled m w.now).updateText _
      · split
        · exact (marked_canceled m w.now).updateText _
        · exact (marked_ended m w.now).updateText _
    · exact (marked_ended m w.now).updateTextDuration _

/-- **one operation**: it leaves the timestamps alone, accepts or ends -/
theorem step_effect (m : CallMsg) (op : Op) : Effect m (step m op) := by
  cases op with
  | acceptIncomingCall w => exact acceptIncomingCall_effect w m
  | endCall w => exact endCall_effect w m
  | emitEndCallIfUnaccepted w => exact emitEndCallIfUnaccepted_effect w m
  | handleCallMsg w mime fromId =>
    show Effect m (handleCallMsg w mime fromId m)
    unfold handleCallMsg
    split
    · exact .refl m true
    · exact .refl m true
    · next hload =>
      obtain ⟨-, rfl⟩ := eq_of_load hload
      exact handleCall_effect w _
    · next hload =>
      obtain ⟨hcall, rfl⟩ := eq_of_load hload
      exact handleCallAccepted_effect w hcall _
    · next hload =>
      obtain ⟨hcall, rfl⟩ := eq_of_load hload
      exact handleCallEnded_effect w hcall fromId

end

/-! ## runs -/

section
variable {m : CallMsg}

theorem after_append (m : CallMsg) (ops ops' : List Op) :
    after m (ops ++ ops') = after (after m ops) ops' := by
  induction ops generalizing m with
  | nil => rfl
  | cons op ops ih => exact ih (step m op).msg

theorem run_of_ended (hended : m.isEnded = true) (ops : List Op) :
    SameMsg m (after m ops) ∧ (after m ops).stamps = m.stamps ∧
      ∀ e ∈ emitted m ops, e.isCallEnded = false ∧ e.isAccepted = false := by
  induction ops generalizing m with
  | nil => exact ⟨⟨rfl, rfl⟩, rfl, nofun⟩
  | cons op ops ih =>
    cases step_effect m op with
    | keeps hmsg hstamps hquiet =>
      obtain ⟨hmsg', hstamps', hquiet'⟩ := ih ((isEnded_of_stamps hstamps).trans hended)
      exact ⟨hmsg.trans hmsg', hstamps'.trans hstamps, List.forall_mem_append.mpr ⟨hquiet, hquiet'⟩⟩
    | accepts hmsg hcall haccepted hopen hnow hstill hquiet honce =>
      rw [hended] at hopen
      cases hopen
    | ends hmsg hcall hopen hnow hsame hquiet honce =>
      rw [hended] at hopen
      cases hopen

theorem run_of_accepted (haccepted : m.isAccepted = true) (ops : List Op) :
    (after m ops).isAccepted = true ∧ ∀ e ∈ emitted m ops, e.isAccepted = false := by
  induction ops generalizing m with
  | nil => exact ⟨haccepted, nofun⟩
  | cons op ops ih =>
    cases step_effect m op with
    | keeps hmsg hstamps hquiet =>
      obtain ⟨hafter, hquiet'⟩ := ih ((isAccepted_of_stamps hstamps).trans haccepted)
      exact ⟨hafter, List.forall_mem_append.mpr ⟨fun e he => (hquiet e he).2, hquiet'⟩⟩
    | accepts hmsg hcall hopen hended hnow hstill hquiet honce =>
      rw [haccepted] at hopen
      cases hopen
    | ends hmsg hcall hopen hnow hsame hquiet honce =>
      obtain ⟨hafter, hquiet'⟩ := ih (hsame.trans haccepted)
      exact ⟨hafter, List.forall_mem_append.mpr ⟨hquiet, hquiet'⟩⟩

theorem isCall_of_ends (hopen : m.isEnded = false) (ops : List Op)
    (hended : (after m ops).isEnded = true) : m.isCall = true ∧ SameMsg m (after m ops) := by
  induction ops generalizing m with
  | nil =>
    rw [show after m [] = m from rfl, hopen] at hended
    cases hended
  | cons op ops ih =>
    cases step_effect m op with
    | keeps hmsg hstamps hquiet =>
      obtain ⟨hcall, hmsg'⟩ := ih ((isEnded_of_stamps hstamps).trans hopen) hended
      exact ⟨hmsg.isCall.symm.trans hcall, hmsg.trans hmsg'⟩
    | accepts hmsg hcall haccepted hopen hnow hstill hquiet honce =>
      exact ⟨hcall, hmsg.trans (ih hstill hended).2⟩
    | ends hmsg hcall hopen hnow hsame hquiet honce =>
      exact ⟨hcall, hmsg.trans (run_of_ended hnow ops).1⟩

theorem countP_eq_zero {p : Event → Bool} {events : List Event} (h : ∀ e ∈ events, p e = false) :
    events.countP p = 0 := by
  rw [List.countP_eq_zero]
  intro e he
  rw [h e he]
  exact Bool.false_ne_true

theorem emitted_once (m : CallMsg) (ops : List Op) :
    (emitted m ops).countP Event.isCallEnded ≤ 1 ∧ (emitted m ops).countP Event.isAccepted ≤ 1 ∧
      (emitted m ops).Pairwise fun e e' => e.isCallEnded = true → e'.isAccepted = false := by
  induction ops generalizing m with
  | nil => exact ⟨Nat.zero_le 1, Nat.zero_le 1, .nil⟩
  | cons op ops ih =>
    obtain ⟨hended, haccepted, horder⟩ := ih (step m op).msg
    show ((step m op).events ++ emitted _ ops).countP _ ≤ 1 ∧
      ((step m op).events ++ emitted _ ops).countP _ ≤ 1 ∧
      ((step m op).events ++ emitted _ ops).Pairwise _
    rw [List.countP_append, List.countP_append, List.pairwise_append]
    -- what is no end may be followed by anything, what is no acceptance may follow anything
    have hnoEnd : (∀ e ∈ (step m op).events, e.isCallEnded = false) →
        (step m op).events.Pairwise (fun e e' => e.isCallEnded = true → e'.isAccepted = false) ∧
          ∀ e ∈ (step m op).events, ∀ e' ∈ emitted (step m op).msg ops,
            e.isCallEnded = true → e'.isAccepted = false := by
      intro h
      refine ⟨List.pairwise_iff_forall_sublist.mpr ?_, ?_⟩
      · intro e e' hsub hend
        rw [h e (hsub.subset List.mem_cons_self)] at hend
        cases hend
      · intro e he e' _ hend
        rw [h e he] at hend
        cases hend
    cases step_effect m op with
    | keeps hmsg hstamps hquiet =>
      obtain ⟨hpair, hcross⟩ := hnoEnd fun e he => (hquiet e he).1
      rw [countP_eq_zero fun e he => (hquiet e he).1, countP_eq_zero fun e he => (hquiet e he).2]
      exact ⟨by omega, by omega, hpair, horder, hcross⟩
    | accepts hmsg hcall hopen hopen' hnow hstill hquiet honce =>
      obtain ⟨hpair, hcross⟩ := hnoEnd hquiet
      rw [countP_eq_zero hquiet, countP_eq_zero (run_of_accepted hnow ops).2]
      exact ⟨by omega, by omega, hpair, horder, hcross⟩
    | ends hmsg hcall hopen hnow hsame hquiet honce =>
      have hrest := (run_of_ended hnow ops).2.2
      rw [countP_eq_zero fun e he => (hrest e he).1, countP_eq_zero hquiet]
      refine ⟨by omega, by omega, ?_, horder, fun e _ e' he' _ => (hrest e' he').2⟩
      exact List.pairwise_iff_forall_sublist.mpr fun hsub _ =>
        hquiet _ (hsub.subset (List.mem_cons_of_mem _ List.mem_cons_self))

end

/-- **a call that has ended stays ended** -/
theorem ended_stays_ended (m : CallMsg) (ops ops' : List Op) (now now' : I64) :
    ((after m ops).isEnded = true →
        (after m (ops ++ ops')).stamps = (after m ops).stamps ∧
          callState now' (after m (ops ++ ops')) = callState now (after m ops)) ∧
      (emitted m ops).countP Event.isCallEnded ≤ 1 ∧ (emitted m ops).countP Event.isAccepted ≤ 1 ∧
      ((emitted m ops).Pairwise fun e e' => e.isCallEnded = true → e'.isAccepted = false) ∧
      ((after m ops).isAccepted = true → (after m ops).isEnded = false →
        (after m (ops ++ ops')).isEnded = true →
          callState now' (after m (ops ++ ops')) =
            some (.completed (after m (ops ++ ops')).durationSeconds)) := by
  obtain ⟨hended, haccepted, horder⟩ := emitted_once m ops
  refine ⟨?_, hended, haccepted, horder, ?_⟩
  · intro h
    obtain ⟨hmsg, hstamps, -⟩ := run_of_ended h ops'
    rw [after_append]
    exact ⟨hstamps, callState_of_ended hmsg.isCall hmsg.fromId hstamps h now now'⟩
  · intro haccepted hopen hend
    rw [after_append] at hend ⊢
    obtain ⟨hcall, hmsg⟩ := isCall_of_ends hopen ops' hend
    exact callState_of_completed (hmsg.isCall.trans hcall) (run_of_accepted haccepted ops').1 hend now'

def plainStock : Stock where
  incomingCall _ := "Incoming call"
  outgoingCall _ := "Outgoing call"
  missedCall := "Missed call"
  declinedCall := "Declined call"
  canceledCall := "Canceled call"

def at5020 : World := { now := ⟨5020, by decide⟩, stock := plainStock }

def at5080 : World := { now := ⟨5080, by decide⟩, stock := plainStock }

def ringing : CallMsg := { fromId := 12, timestampSent := ⟨5010, by decide⟩ }

/-- it is accepted and hung up; then another device accepts it, and the timer runs out -/
theorem ended_stays_ended_late :
    (after ringing [.acceptIncomingCall at5020, .endCall at5080]).isEnded = true ∧
      (after ringing ([.acceptIncomingCall at5020, .endCall at5080] ++
        [.handleCallMsg at5080 (.callAccepted none) ContactId.self,
          .emitEndCallIfUnaccepted at5080])).stamps =
        (after ringing [.acceptIncomingCall at5020, .endCall at5080]).stamps :=
  ⟨rfl, ((ended_stays_ended ringing [.acceptIncomingCall at5020, .endCall at5080]
    [.handleCallMsg at5080 (.callAccepted none) ContactId.self, .emitEndCallIfUnaccepted at5080]
    at5080.now at5080.now).1 rfl).1⟩

end EpsilonChat.Call
