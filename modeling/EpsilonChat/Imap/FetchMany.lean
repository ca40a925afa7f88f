import EpsilonChat.Imap.UidSets

/-!
# `fetch_many_msgs`: responses in any order

`fetch_many_msgs` sends one FETCH command per sequence set and reads the stream of responses.  The
messages are processed in the order of the REQUEST, so a response that comes too early waits in
`uid_msgs`:

* `Reader.search`: reads the stream up to the response for one UID, and keeps the responses for
  other requested UIDs;
* `Env.process`: what is done with a response (`Outcome`);
* `fetchUids`: the loop over the requested UIDs of one set;
* `fetchSet`: one set, with the rest of the stream read at the end;
* `fetchSets`: all sets, one after the other; the first error ends the function.

Streams may break off, `receive_imf_inner` and the device message about its failure may fail; the
log says for every UID that was reached what became of it.

* **`fetch_set_in_request_order`**: one set: whatever the order of the responses, what is handled is
  what was requested and answered, in the order of the request;
* **`fetchManyMsgs_refines`**: the whole function does what `Imap.fetchManyMsgs` says, for some
  answers of the server.
-/

namespace EpsilonChat.Imap
namespace FetchMany

/-- a FETCH response; `uid` is missing in unsolicited ones -/
structure FetchResponse where
  uid : Option ℕ
  isDeleted : Bool := false
  isSeen : Bool := false
  body : Option String := none
  deriving DecidableEq, Repr

structure Reply where
  responses : List FetchResponse
  broken : Bool := false

inductive Outcome where
  | missed
  | deleted
  | noBody
  | noMessageId
  | received
  | failed
  | deviceMsgFailed
  deriving DecidableEq, Repr

def Outcome.isSent : Outcome → Bool
  | .deleted | .noBody | .received | .failed => true
  | .missed | .noMessageId | .deviceMsgFailed => false

def Outcome.isDelivered : Outcome → Bool
  | .received | .failed | .deviceMsgFailed => true
  | .missed | .deleted | .noBody | .noMessageId => false

structure Logged where
  uid : ℕ
  response : Option FetchResponse
  outcome : Outcome
  deriving DecidableEq, Repr

/-- `receive_imf_inner` and, after an error, `add_device_msg` -/
inductive Received where
  | ok
  | error
  | errorTwice
  deriving DecidableEq, Repr

/-- the rest of the program and the server; what they answer may depend on everything before -/
structure Env where
  uidMessageIds : ℕ → Option String
  receiveImf : List Logged → (rfc724Mid body : String) → (isSeen : Bool) → Received
  uidFetch : List Logged → (set : String) → Option Reply

def Received.outcome : Received → Outcome
  | .ok => .received
  | .error => .failed
  | .errorTwice => .deviceMsgFailed

def Env.process (env : Env) (log : List Logged) (uid : ℕ) (response : FetchResponse) : Outcome :=
  if response.isDeleted then .deleted
  else
    match response.body with
    | none => .noBody
    | some body =>
      match env.uidMessageIds uid with
      | none => .noMessageId
      | some rfc724Mid => (env.receiveImf log rfc724Mid body response.isSeen).outcome

/-! ## one sequence set -/

structure Reader where
  uidMsgs : ℕ → Option FetchResponse := fun _ => none
  responses : List FetchResponse

/-- the `while` loop that looks for a UID in the stream -/
def search (requestUids : List ℕ) (requestUid : ℕ) (uidMsgs : ℕ → Option FetchResponse) :
    List FetchResponse → Option FetchResponse × Reader
  | [] => (none, ⟨uidMsgs, []⟩)
  | next :: rest =>
    match next.uid with
    | none => search requestUids requestUid uidMsgs rest
    | some nextUid =>
      if nextUid = requestUid then (some next, ⟨uidMsgs, rest⟩)
      else if nextUid ∉ requestUids then search requestUids requestUid uidMsgs rest
      else search requestUids requestUid (Function.update uidMsgs nextUid (some next)) rest

/-- `uid_msgs.remove`, then the search -/
def Reader.find (s : Reader) (requestUids : List ℕ) (requestUid : ℕ) :
    Option FetchResponse × Reader :=
  match s.uidMsgs requestUid with
  | some response => (some response, { s with uidMsgs := Function.update s.uidMsgs requestUid none })
  | none => search requestUids requestUid s.uidMsgs s.responses

structure Progress where
  log : List Logged
  reader : Reader
  ok : Bool

def fetchUids (env : Env) (requestUids : List ℕ) (broken : Bool) :
    List ℕ → List Logged → Reader → Progress
  | [], log, s => ⟨log, s, true⟩
  | uid :: uids, log, s =>
    match s.find requestUids uid with
    | (none, s) =>
      -- the end of the stream, or the error it ends with
      if broken then ⟨log, s, false⟩
      else fetchUids env requestUids broken uids (log ++ [⟨uid, none, .missed⟩]) s
    | (some response, s) =>
      let outcome := env.process log uid response
      let log := log ++ [⟨uid, some response, outcome⟩]
      if outcome = .deviceMsgFailed then ⟨log, s, false⟩
      else fetchUids env requestUids broken uids log s

/-- one set; after the loop the stream is read to its end -/
def fetchSet (env : Env) (requestUids : List ℕ) (reply : Reply) (log : List Logged) : Progress :=
  let p := fetchUids env requestUids reply.broken requestUids log ⟨fun _ => none, reply.responses⟩
  if p.ok then { p with reader := { p.reader with responses := [] }, ok := !reply.broken } else p

def fetchSets (env : Env) : List (List ℕ × String) → List Logged → List Logged × Bool
  | [], log => (log, true)
  | (requestUids, set) :: sets, log =>
    match env.uidFetch log set with
    | none => (log, false)
    | some reply =>
      let p := fetchSet env requestUids reply log
      if p.ok then fetchSets env sets p.log else (p.log, false)

def fetchManyMsgs (env : Env) (requestUids : List ℕ) : List Logged × Bool :=
  if requestUids.isEmpty then ([], true) else fetchSets env (buildSequenceSets requestUids) []

/-! ## the search -/

/-- a response for `uid` that was kept or is still to be read -/
def Reader.Answers (s : Reader) (uid : ℕ) (response : FetchResponse) : Prop :=
  s.uidMsgs uid = some response ∨ response ∈ s.responses ∧ response.uid = some uid

structure Found (requestUids : List ℕ) (requestUid : ℕ) (s : Reader)
    (found : Option FetchResponse × Reader) : Prop where
  response : ∀ response, found.1 = some response → s.Answers requestUid response
  missed : found.1 = none → ∀ response, ¬ s.Answers requestUid response
  sound : ∀ uid response, found.2.Answers uid response → s.Answers uid response
  others : ∀ uid ∈ requestUids, uid ≠ requestUid → ∀ response, s.Answers uid response →
    ∃ response, found.2.Answers uid response

section
variable {requestUids : List ℕ} {requestUid : ℕ} {s s' : Reader}
  {uidMsgs : ℕ → Option FetchResponse} {next : FetchResponse} {rest : List FetchResponse}
  {found : Option FetchResponse × Reader}

theorem answers_cons {uid : ℕ} {response : FetchResponse} :
    Reader.Answers ⟨uidMsgs, next :: rest⟩ uid response ↔
      response = next ∧ next.uid = some uid ∨ Reader.Answers ⟨uidMsgs, rest⟩ uid response := by
  simp only [Reader.Answers, List.mem_cons]
  grind

theorem answers_skip {uid : ℕ} (hne : next.uid ≠ some uid) {response : FetchResponse} :
    Reader.Answers ⟨uidMsgs, next :: rest⟩ uid response ↔
      Reader.Answers ⟨uidMsgs, rest⟩ uid response := by
  rw [answers_cons, or_iff_right fun h => hne h.2]

/-- a step of the search: it may drop responses, but not the last one for a requested UID -/
theorem Found.step (h : Found requestUids requestUid s' found)
    (hsound : ∀ uid response, s'.Answers uid response → s.Answers uid response)
    (hkept : ∀ uid, uid = requestUid ∨ uid ∈ requestUids → ∀ response, s.Answers uid response →
      ∃ response, s'.Answers uid response) :
    Found requestUids requestUid s found where
  response r hr := hsound _ r (h.response r hr)
  missed hnone r hr := by
    obtain ⟨r', hr'⟩ := hkept requestUid (.inl rfl) r hr
    exact h.missed hnone r' hr'
  sound uid r hr := hsound uid r (h.sound uid r hr)
  others uid huid hne r hr := by
    obtain ⟨r', hr'⟩ := hkept uid (.inr huid) r hr
    exact h.others uid huid hne r' hr'

theorem Found.skip (h : Found requestUids requestUid ⟨uidMsgs, rest⟩ found)
    (hskip : ∀ uid, uid = requestUid ∨ uid ∈ requestUids → next.uid ≠ some uid) :
    Found requestUids requestUid ⟨uidMsgs, next :: rest⟩ found :=
  h.step (fun _ _ hr => answers_cons.mpr (.inr hr))
    fun uid huid r hr => ⟨r, (answers_skip (hskip uid huid)).mp hr⟩

theorem Found.keep {nextUid : ℕ}
    (h : Found requestUids requestUid ⟨Function.update uidMsgs nextUid (some next), rest⟩ found)
    (hnext : next.uid = some nextUid) :
    Found requestUids requestUid ⟨uidMsgs, next :: rest⟩ found := by
  refine h.step ?_ ?_
  all_goals
    intro uid
    rcases eq_or_ne uid nextUid with rfl | hne
  · rintro r (hr | hr)
    · cases (Function.update_self uid (some next) uidMsgs).symm.trans hr
      exact .inr ⟨List.mem_cons_self, hnext⟩
    · exact .inr ⟨List.mem_cons_of_mem _ hr.1, hr.2⟩
  · rintro r (hr | hr)
    · exact .inl ((Function.update_of_ne hne _ _).symm.trans hr)
    · exact .inr ⟨List.mem_cons_of_mem _ hr.1, hr.2⟩
  · exact fun _ _ _ => ⟨next, .inl (Function.update_self ..)⟩
  · intro _ r hr
    have hskip : next.uid ≠ some uid := by
      rw [hnext]
      exact fun heq => hne (Option.some.inj heq).symm
    refine ⟨r, ((answers_skip hskip).mp hr).imp_left fun hr => ?_⟩
    exact (Function.update_of_ne hne _ _).trans hr

theorem search_found (responses : List FetchResponse) (hnone : uidMsgs requestUid = none) :
    Found requestUids requestUid ⟨uidMsgs, responses⟩
      (search requestUids requestUid uidMsgs responses) := by
  fun_induction search requestUids requestUid uidMsgs responses with
  | case1 uidMsgs =>
    exact ⟨nofun, by simp [Reader.Answers, hnone], fun _ _ h => h, fun _ _ _ r hr => ⟨r, hr⟩⟩
  | case2 uidMsgs next rest huid ih => exact (ih hnone).skip (by simp [huid])
  | case3 uidMsgs next rest huid =>
    refine ⟨?_, nofun, fun _ _ hr => answers_cons.mpr (.inr hr), ?_⟩
    · rintro response ⟨⟩
      exact .inr ⟨List.mem_cons_self, huid⟩
    · intro uid _ hne r hr
      refine ⟨r, (answers_skip ?_).mp hr⟩
      rw [huid]
      exact fun heq => hne (Option.some.inj heq).symm
  | case4 uidMsgs next rest nextUid huid hne hskip ih =>
    refine (ih hnone).skip fun uid hmem heq => ?_
    cases huid.symm.trans heq
    exact hmem.elim hne hskip
  | case5 uidMsgs next rest nextUid huid hne hkeep ih =>
    have hnone' : Function.update uidMsgs nextUid (some next) requestUid = none := by
      rw [Function.update_of_ne (Ne.symm hne), hnone]
    exact (ih hnone').keep huid

theorem Reader.find_found : Found requestUids requestUid s (s.find requestUids requestUid) := by
  rw [Reader.find]
  split
  · next response hkept =>
    refine ⟨?_, nofun, ?_, ?_⟩
    · rintro r ⟨⟩
      exact .inl hkept
    · rintro uid r (hr | hr)
      · rcases eq_or_ne uid requestUid with rfl | hne
        · cases (Function.update_self uid none s.uidMsgs).symm.trans hr
        · exact .inl ((Function.update_of_ne hne _ _).symm.trans hr)
      · exact .inr hr
    · intro uid _ hne r hr
      exact ⟨r, hr.imp_left fun hr => (Function.update_of_ne hne _ _).trans hr⟩
  · next hnone => exact search_found s.responses hnone

end

/-! ## the loop -/

/-- a log of the loop over the UIDs: it follows them until the end or until an error, and only the
last entry before an error can be a device message that could not be written -/
def Ran (uids : List ℕ) (log : List Logged) (ok : Bool) : Prop :=
  ∃ processed passedOn rest, log = processed ++ passedOn ∧
    uids = processed.map Logged.uid ++ (passedOn.map Logged.uid ++ rest) ∧
    (∀ l ∈ processed, l.outcome ≠ .deviceMsgFailed) ∧
    (passedOn = [] ∨ ∃ l, passedOn = [l] ∧ l.outcome = .deviceMsgFailed) ∧
    (ok = true → passedOn = [] ∧ rest = [])

/-- the UID was handled if there was a response, and with one -/
structure Fair (s : Reader) (l : Logged) : Prop where
  missed : l.outcome = .missed → ∀ response, ¬ s.Answers l.uid response
  response : l.outcome ≠ .missed → ∃ response, s.Answers l.uid response ∧ l.response = some response

section
variable {env : Env} {requestUids : List ℕ} {broken : Bool} {uids : List ℕ} {log : List Logged}
  {ok : Bool}

theorem process_induction {P : Outcome → Prop} (hdeleted : P .deleted) (hnoBody : P .noBody)
    (hnoMessageId : P .noMessageId)
    (hreceive : ∀ mid body seen, P (env.receiveImf log mid body seen).outcome) (uid : ℕ)
    (response : FetchResponse) : P (env.process log uid response) := by
  unfold Env.process
  split
  · exact hdeleted
  · split
    · exact hnoBody
    · split
      · exact hnoMessageId
      · exact hreceive ..

theorem process_ne_missed (env : Env) (log : List Logged) (uid : ℕ) (response : FetchResponse) :
    env.process log uid response ≠ .missed := by
  refine process_induction (P := (· ≠ .missed)) nofun nofun nofun (fun mid body seen => ?_) uid
    response
  cases env.receiveImf log mid body seen <;> nofun

theorem process_ne_deviceMsgFailed
    (hdevice : ∀ log mid body seen, env.receiveImf log mid body seen ≠ .errorTwice)
    (log : List Logged) (uid : ℕ) (response : FetchResponse) :
    env.process log uid response ≠ .deviceMsgFailed := by
  refine process_induction (P := (· ≠ .deviceMsgFailed)) nofun nofun nofun (fun mid body seen => ?_)
    uid response
  have hne := hdevice log mid body seen
  cases hr : env.receiveImf log mid body seen
  case errorTwice => exact absurd hr hne
  all_goals nofun

theorem Ran.stopped (uids : List ℕ) : Ran uids [] false :=
  ⟨[], [], uids, rfl, rfl, nofun, .inl rfl, nofun⟩

theorem Ran.done : Ran [] [] true :=
  ⟨[], [], [], rfl, rfl, nofun, .inl rfl, fun _ => ⟨rfl, rfl⟩⟩

theorem Ran.one {l : Logged} (hl : l.outcome ≠ .deviceMsgFailed) : Ran [l.uid] [l] true :=
  ⟨[l], [], [], rfl, rfl, List.forall_mem_singleton.mpr hl, .inl rfl, fun _ => ⟨rfl, rfl⟩⟩

theorem Ran.append {uids' : List ℕ} {log' : List Logged} (h : Ran uids log true)
    (h' : Ran uids' log' ok) : Ran (uids ++ uids') (log ++ log') ok := by
  obtain ⟨processed, _, _, rfl, rfl, hgood, -, hdone⟩ := h
  obtain ⟨rfl, rfl⟩ := hdone rfl
  obtain ⟨processed', passedOn, rest, rfl, rfl, hgood', hbad, hok⟩ := h'
  exact ⟨processed ++ processed', passedOn, rest, by simp, by simp,
    List.forall_mem_append.mpr ⟨hgood, hgood'⟩, hbad, hok⟩

theorem Ran.abort (h : Ran uids log ok) (uids' : List ℕ) : Ran (uids ++ uids') log false := by
  obtain ⟨processed, passedOn, rest, rfl, rfl, hgood, hbad, -⟩ := h
  exact ⟨processed, passedOn, rest ++ uids', rfl, by simp, hgood, hbad, nofun⟩

theorem Ran.uids_prefix (h : Ran uids log ok) : log.map Logged.uid <+: uids := by
  obtain ⟨processed, passedOn, rest, rfl, rfl, -⟩ := h
  exact ⟨rest, by simp⟩

theorem Ran.uids_eq (h : Ran uids log true) : log.map Logged.uid = uids := by
  obtain ⟨processed, _, _, rfl, rfl, -, -, hdone⟩ := h
  obtain ⟨rfl, rfl⟩ := hdone rfl
  simp

theorem Found.fair {uid : ℕ} {s : Reader} {found : Option FetchResponse × Reader}
    (h : Found requestUids uid s found) {l : Logged} (hmem : l.uid ∈ requestUids)
    (hne : l.uid ≠ uid) (hl : Fair found.2 l) : Fair s l where
  missed hmissed r hr := by
    obtain ⟨r', hr'⟩ := h.others l.uid hmem hne r hr
    exact hl.missed hmissed r' hr'
  response hhandled := by
    obtain ⟨r, hr, hresponse⟩ := hl.response hhandled
    exact ⟨r, h.sound _ _ hr, hresponse⟩

theorem fetchUids_fair (env : Env) (broken : Bool) (uids : List ℕ) (log : List Logged) (s : Reader)
    (hsub : ∀ uid ∈ uids, uid ∈ requestUids) (hnodup : uids.Nodup) :
    ∃ log', (fetchUids env requestUids broken uids log s).log = log ++ log' ∧
      Ran uids log' (fetchUids env requestUids broken uids log s).ok ∧ ∀ l ∈ log', Fair s l := by
  induction uids generalizing log s with
  | nil => exact ⟨[], (List.append_nil log).symm, .done, nofun⟩
  | cons uid uids ih =>
    obtain ⟨hfresh, hnodup'⟩ := List.nodup_cons.mp hnodup
    have hsub' : ∀ u ∈ uids, u ∈ requestUids := fun u hu => hsub u (List.mem_cons_of_mem _ hu)
    have hfound : Found requestUids uid s (s.find requestUids uid) := Reader.find_found
    -- the rest of the loop, after an entry for `uid`
    have hrest : ∀ l : Logged, l.uid = uid → l.outcome ≠ .deviceMsgFailed → Fair s l →
        ∃ log', (fetchUids env requestUids broken uids (log ++ [l]) (s.find requestUids uid).2).log =
            log ++ log' ∧
          Ran (uid :: uids) log'
            (fetchUids env requestUids broken uids (log ++ [l]) (s.find requestUids uid).2).ok ∧
          ∀ l ∈ log', Fair s l := by
      rintro l rfl hl hfair
      obtain ⟨log', hlog, hran, hfair'⟩ := ih (log ++ [l]) (s.find requestUids l.uid).2 hsub' hnodup'
      refine ⟨l :: log', by rw [hlog, List.append_assoc, List.singleton_append],
        (Ran.one hl).append hran, List.forall_mem_cons.mpr ⟨hfair, fun l' hl' => ?_⟩⟩
      have huid : l'.uid ∈ uids := hran.uids_prefix.subset (List.mem_map_of_mem hl')
      exact hfound.fair (hsub' _ huid) (ne_of_mem_of_not_mem huid hfresh) (hfair' l' hl')
    rw [fetchUids]
    rcases hfind : s.find requestUids uid with ⟨_ | response, s'⟩
    case none =>
      rw [hfind] at hrest hfound
      show ∃ log', (if broken then _ else _ : Progress).log = _ ∧
        Ran _ _ (if broken then _ else _ : Progress).ok ∧ _
      split
      · exact ⟨[], (List.append_nil log).symm, .stopped _, nofun⟩
      · exact hrest ⟨uid, none, .missed⟩ rfl nofun ⟨fun _ => hfound.missed rfl, fun h => absurd rfl h⟩
    case some =>
      rw [hfind] at hrest hfound
      have hfair : Fair s ⟨uid, some response, env.process log uid response⟩ :=
        ⟨fun h => absurd h (process_ne_missed env log uid response),
          fun _ => ⟨response, hfound.response response rfl, rfl⟩⟩
      show ∃ log', (if env.process log uid response = .deviceMsgFailed then _ else _ : Progress).log =
          _ ∧ Ran _ _ (if env.process log uid response = .deviceMsgFailed then _ else _ :
            Progress).ok ∧ _
      split
      · next hdevice =>
        exact ⟨_, rfl, ⟨[], [_], uids, rfl, rfl, nofun, .inr ⟨_, rfl, hdevice⟩, nofun⟩,
          List.forall_mem_singleton.mpr hfair⟩
      · next hdevice => exact hrest ⟨uid, some response, _⟩ rfl hdevice hfair

theorem fetchUids_ok (hdevice : ∀ log mid body seen, env.receiveImf log mid body seen ≠ .errorTwice)
    (uids : List ℕ) (log : List Logged) (s : Reader) :
    (fetchUids env requestUids false uids log s).ok = true := by
  induction uids generalizing log s with
  | nil => rfl
  | cons uid uids ih =>
    rw [fetchUids]
    rcases s.find requestUids uid with ⟨_ | response, s'⟩
    · exact ih _ s'
    · show (if env.process log uid response = .deviceMsgFailed then _ else _ : Progress).ok = true
      rw [if_neg (process_ne_deviceMsgFailed hdevice log uid response)]
      exact ih _ s'

end

/-! ## one set -/

def handled (log : List Logged) : List Logged := log.filter fun l => l.outcome ≠ .missed

theorem initial_answers {responses : List FetchResponse} {uid : ℕ} {response : FetchResponse} :
    Reader.Answers ⟨fun _ => none, responses⟩ uid response ↔
      response ∈ responses ∧ response.uid = some uid := or_iff_right nofun

theorem fetchSet_log (env : Env) (requestUids : List ℕ) (reply : Reply) (log : List Logged) :
    (fetchSet env requestUids reply log).log =
      (fetchUids env requestUids reply.broken requestUids log
        ⟨fun _ => none, reply.responses⟩).log := by
  rw [fetchSet]
  split <;> rfl

/-- **one set**: whatever the order of the responses, what is handled is what was requested and
answered, once each and in the order of the request, and the stream is read to its end.  The device
message about a failed reception is assumed to be written: if `add_device_msg` fails, the function
ends with its error -/
theorem fetch_set_in_request_order (env : Env)
    (hdevice : ∀ log mid body seen, env.receiveImf log mid body seen ≠ .errorTwice)
    (requestUids : List ℕ) (hnodup : requestUids.Nodup) (responses : List FetchResponse)
    (log : List Logged) :
    (fetchSet env requestUids ⟨responses, false⟩ log).ok = true ∧
      (fetchSet env requestUids ⟨responses, false⟩ log).reader.responses = [] ∧
      ∃ log', (fetchSet env requestUids ⟨responses, false⟩ log).log = log ++ log' ∧
        (handled log').map Logged.uid =
          requestUids.filter (fun uid => some uid ∈ responses.map FetchResponse.uid) ∧
        ((handled log').map Logged.uid).Nodup ∧
        ∀ l ∈ handled log', ∃ response ∈ responses,
          l.response = some response ∧ response.uid = some l.uid := by
  have hok : (fetchUids env requestUids false requestUids log ⟨fun _ => none, responses⟩).ok = true :=
    fetchUids_ok hdevice requestUids log _
  obtain ⟨log', hlog, hran, hfair⟩ := fetchUids_fair env false requestUids log
    ⟨fun _ => none, responses⟩ (fun _ h => h) hnodup
  rw [hok] at hran
  have huids : (handled log').map Logged.uid =
      requestUids.filter (fun uid => some uid ∈ responses.map FetchResponse.uid) := by
    rw [← hran.uids_eq, List.filter_map, handled]
    congr 1
    apply List.filter_congr
    intro l hl
    show decide _ = decide (some l.uid ∈ responses.map FetchResponse.uid)
    rw [decide_eq_decide, List.mem_map]
    constructor
    · intro hne
      obtain ⟨r, hr, -⟩ := (hfair l hl).response hne
      exact ⟨r, initial_answers.mp hr⟩
    · rintro ⟨r, hr⟩ hmissed
      exact (hfair l hl).missed hmissed r (initial_answers.mpr hr)
  refine ⟨?_, ?_, log', ?_, huids, ?_, ?_⟩
  · rw [fetchSet, if_pos hok]
    rfl
  · rw [fetchSet, if_pos hok]
  · rw [fetchSet_log, hlog]
  · rw [huids]
    exact hnodup.filter _
  · intro l hl
    obtain ⟨hmem, hne⟩ := List.mem_filter.mp hl
    obtain ⟨r, hr, hresponse⟩ := (hfair l hmem).response (of_decide_eq_true hne)
    exact ⟨r, (initial_answers.mp hr).1, hresponse, (initial_answers.mp hr).2⟩

/-- two UIDs, the second one first, a duplicate, a stranger and a response without UID -/
def swapped : List FetchResponse :=
  [⟨some 2, false, false, some "b"⟩, ⟨none, false, true, none⟩, ⟨some 9, false, true, none⟩,
    ⟨some 1, true, false, none⟩, ⟨some 2, false, false, some "b"⟩]

def swapping : Env := ⟨fun _ => some "mid", fun _ _ _ _ => .ok, fun _ _ => some ⟨swapped, false⟩⟩

theorem fetch_set_in_request_order_swapped :
    (handled (fetchSet swapping [1, 2, 3] ⟨swapped, false⟩ []).log).map Logged.uid = [1, 2] := by
  obtain ⟨-, -, log', hlog, huids, -⟩ := fetch_set_in_request_order swapping
    (fun _ _ _ _ => nofun) [1, 2, 3] (by decide) swapped []
  rw [hlog, List.nil_append, huids]
  decide

/-! ## all sets -/

theorem fetchSet_ran (env : Env) {requestUids : List ℕ} (hnodup : requestUids.Nodup) (reply : Reply)
    (log : List Logged) :
    ∃ log', (fetchSet env requestUids reply log).log = log ++ log' ∧
      Ran requestUids log' (fetchSet env requestUids reply log).ok := by
  obtain ⟨log', hlog, hran, -⟩ := fetchUids_fair env reply.broken requestUids log
    ⟨fun _ => none, reply.responses⟩ (fun _ h => h) hnodup
  refine ⟨log', by rw [fetchSet_log, hlog], ?_⟩
  rw [fetchSet]
  split
  · next hok =>
    rw [hok] at hran
    show Ran requestUids log' (!reply.broken)
    cases reply.broken
    · exact hran
    · exact List.append_nil requestUids ▸ hran.abort []
  · exact hran

theorem fetchSets_ran (env : Env) (sets : List (List ℕ × String))
    (hnodup : (sets.flatMap Prod.fst).Nodup) (log : List Logged) :
    ∃ log', (fetchSets env sets log).1 = log ++ log' ∧
      Ran (sets.flatMap Prod.fst) log' (fetchSets env sets log).2 := by
  induction sets generalizing log with
  | nil => exact ⟨[], (List.append_nil log).symm, .done⟩
  | cons set sets ih =>
    obtain ⟨requestUids, set⟩ := set
    rw [List.flatMap_cons] at hnodup ⊢
    rw [fetchSets]
    split
    · exact ⟨[], (List.append_nil log).symm, .stopped _⟩
    · next reply hreply =>
      obtain ⟨log', hlog, hran⟩ := fetchSet_ran env hnodup.of_append_left reply log
      dsimp only
      split
      · next hok =>
        obtain ⟨log'', hlog', hran'⟩ := ih hnodup.of_append_right
          (fetchSet env requestUids reply log).log
        rw [hok] at hran
        exact ⟨log' ++ log'', by rw [hlog', hlog, List.append_assoc], hran.append hran'⟩
      · exact ⟨log', hlog, hran.abort _⟩

/-- the log as `Imap.fetchManyMsgs` reports it -/
def fetched (r : List Logged × Bool) : Fetched where
  ok := r.2
  sent := (r.1.filter fun l => l.outcome.isSent).map Logged.uid
  delivered := (r.1.filter fun l => l.outcome.isDelivered).map Logged.uid
  reportedMissing := (r.1.filter fun l => !l.outcome.isDelivered).map Logged.uid

def Outcome.answer (o : Outcome) : Answer :=
  if o.isDelivered then .delivered else if o.isSent then .gone else .missing

theorem exists_outcome (log : List Logged) (hnodup : (log.map Logged.uid).Nodup) :
    ∃ outcome : ℕ → Outcome, ∀ l ∈ log, outcome l.uid = l.outcome := by
  induction log with
  | nil => exact ⟨fun _ => .missed, nofun⟩
  | cons l log ih =>
    rw [List.map_cons, List.nodup_cons] at hnodup
    obtain ⟨outcome, houtcome⟩ := ih hnodup.2
    refine ⟨Function.update outcome l.uid l.outcome, List.forall_mem_cons.mpr ⟨?_, ?_⟩⟩
    · exact Function.update_self ..
    · intro l' hl'
      have hne : l'.uid ≠ l.uid := fun heq => hnodup.1 (heq ▸ List.mem_map_of_mem hl')
      rw [Function.update_of_ne hne, houtcome l' hl']

theorem Outcome.answer_ne_missing {o : Outcome} (h : o ≠ .deviceMsgFailed) :
    (o.answer != .missing) = o.isSent := by
  cases o <;> first | rfl | exact absurd rfl h

theorem Outcome.answer_delivered (o : Outcome) : (o.answer == .delivered) = o.isDelivered := by
  cases o <;> rfl

section
variable {processed passedOn : List Logged} {outcome : ℕ → Outcome}

theorem filter_outcome (houtcome : ∀ l ∈ processed, outcome l.uid = l.outcome)
    (hgood : ∀ l ∈ processed, l.outcome ≠ .deviceMsgFailed) {p : Outcome → Bool}
    (q : Outcome → Bool) (hpq : ∀ o, o ≠ .deviceMsgFailed → p o = q o) :
    (processed.map Logged.uid).filter (fun uid => p (outcome uid)) =
      (processed.filter fun l => q l.outcome).map Logged.uid := by
  rw [List.filter_map]
  congr 1
  apply List.filter_congr
  intro l hl
  show p (outcome l.uid) = q l.outcome
  rw [houtcome l hl, hpq _ (hgood l hl)]

theorem filter_passedOn (hbad : passedOn = [] ∨ ∃ l, passedOn = [l] ∧ l.outcome = .deviceMsgFailed)
    (p : Outcome → Bool) :
    (passedOn.filter fun l => p l.outcome) = if p .deviceMsgFailed then passedOn else [] := by
  rcases hbad with rfl | ⟨l, rfl, hl⟩
  · rw [ite_self, List.filter_nil]
  · rw [List.filter_cons, hl, List.filter_nil]

end

theorem Ran.refines {uids : List ℕ} {log : List Logged} {ok : Bool} (h : Ran uids log ok)
    (hne : uids ≠ []) (hnodup : uids.Nodup) :
    ∃ a : Answers, Imap.fetchManyMsgs uids a = fetched (log, ok) := by
  obtain ⟨processed, passedOn, rest, rfl, rfl, hgood, hbad, hok⟩ := h
  have hlog : ((processed ++ passedOn).map Logged.uid).Nodup := by
    rw [← List.append_assoc, ← List.map_append] at hnodup
    exact hnodup.of_append_left
  obtain ⟨outcome, houtcome⟩ := exists_outcome (processed ++ passedOn) hlog
  have hfilter := fun p q => filter_outcome (p := p)
    (fun l hl => houtcome l (List.mem_append_left passedOn hl)) hgood q
  -- the error came after the UIDs that were processed, perhaps when one more was passed on
  refine ⟨⟨fun uid => (outcome uid).answer, if ok then none else some processed.length,
    !passedOn.isEmpty⟩, ?_⟩
  have hprocessed : (if ok then none else some processed.length).elim
      (processed.map Logged.uid ++ (passedOn.map Logged.uid ++ rest))
      (fun n => (processed.map Logged.uid ++ (passedOn.map Logged.uid ++ rest)).take n) =
        processed.map Logged.uid := by
    cases ok with
    | true =>
      obtain ⟨rfl, rfl⟩ := hok rfl
      exact List.append_nil _
    | false => exact List.take_left' (List.length_map _)
  have hpassedOn : (if ok then none else some processed.length).elim []
      (fun n => if !passedOn.isEmpty then
        ((processed.map Logged.uid ++ (passedOn.map Logged.uid ++ rest)).drop n).take 1 else []) =
        passedOn.map Logged.uid := by
    cases ok with
    | true =>
      rw [(hok rfl).1]
      rfl
    | false =>
      show (if !passedOn.isEmpty then (List.drop processed.length _).take 1 else []) = _
      rw [List.drop_left' (List.length_map _)]
      rcases hbad with rfl | ⟨l, rfl, -⟩ <;> rfl
  have hisNone : (if ok then none else some processed.length).isNone = ok := by cases ok <;> rfl
  rw [Imap.fetchManyMsgs, if_neg (by simpa using hne)]
  show Fetched.mk _ _ _ _ = Fetched.mk _ _ _ _
  rw [hprocessed, hpassedOn, hisNone, hfilter _ _ fun o ho => Outcome.answer_ne_missing ho,
    hfilter _ _ fun o _ => o.answer_delivered,
    hfilter (fun o => o.answer != .delivered) _ fun o _ => congrArg not o.answer_delivered,
    List.filter_append, List.filter_append, List.filter_append, filter_passedOn hbad,
    filter_passedOn hbad, filter_passedOn hbad fun o => !o.isDelivered]
  show Fetched.mk ok _ _ _ = Fetched.mk ok (List.map _ (_ ++ [])) (List.map _ (_ ++ passedOn))
    (List.map _ (_ ++ []))
  rw [List.append_nil, List.append_nil, List.map_append]

/-- **refinement**: for distinct UIDs the function does what `Imap.fetchManyMsgs` says, for some
answers of the server -/
theorem fetchManyMsgs_refines (env : Env) (requestUids : List ℕ) (hnodup : requestUids.Nodup)
    (hlt : ∀ uid ∈ requestUids, uid < u32Max) :
    ∃ a : Answers, Imap.fetchManyMsgs requestUids a = fetched (fetchManyMsgs env requestUids) := by
  rcases eq_or_ne requestUids [] with rfl | hne
  · exact ⟨{}, rfl⟩
  · have hsets := (buildSequenceSets_ok requestUids hlt).1
    obtain ⟨log, hlog, hran⟩ := fetchSets_ran env (buildSequenceSets requestUids)
      (by rwa [hsets]) []
    rw [hsets] at hran
    rw [List.nil_append] at hlog
    obtain ⟨a, ha⟩ := hran.refines hne hnodup
    refine ⟨a, ha.trans (congrArg fetched ?_)⟩
    rw [fetchManyMsgs, if_neg (by simpa using hne), ← hlog]

/-- the second UID is answered first, the first one is marked as deleted, the third not answered -/
theorem fetchManyMsgs_refines_swapped :
    fetched (fetchManyMsgs swapping [1, 2, 3]) = ⟨true, [1, 2], [2], [1, 3]⟩ ∧
      ∃ a : Answers, Imap.fetchManyMsgs [1, 2, 3] a = fetched (fetchManyMsgs swapping [1, 2, 3]) :=
  ⟨by rfl, fetchManyMsgs_refines swapping [1, 2, 3] (by decide) (by decide)⟩

end FetchMany
end EpsilonChat.Imap
