import Mathlib
import EpsilonChat.Lib.IdTable
import EpsilonChat.Lib.Join

/-!
# Background fetches

`background_fetch` puts the sender of a new interrupt channel into a slot that all fetches share,
unless there is one already, and returns a future.  The future runs the fetches of all accounts
until they finish, the time is over, or something comes out of the channel; then it clears the slot.
`stop_background_fetch` takes the sender out of the slot and sends on it.  A receiver also wakes up
when its sender is dropped.

* `State.step`: a call, a stop, or a step of one of the futures;
* `Inv`: one fetch is active, and its sender is in the slot unless it was stopped;
* **`fetches_exclusive`**: as long as no call comes between a stop and the end of the fetch that was
  stopped, one fetch runs at a time and is only ended by itself or by a stop of its own; otherwise
  two run at once, and the end of the first one ends the second one too (`stopped_fetch_ends_next`).
-/

namespace EpsilonChat.BackgroundFetch

open Lib

/-! ## fetches -/

inductive Reason where
  | finished
  | timedOut
  | interrupted
  deriving DecidableEq, Repr

inductive Status where
  | refused
  | created
  | running
  /-- the race is over, the slot is not cleared yet -/
  | ended (reason : Reason)
  | done (reason : Reason)
  deriving DecidableEq, Repr

inductive Event where
  | warning (text : String)
  | accountsBackgroundFetchDone
  deriving DecidableEq, Repr

inductive Entry where
  | started (fetch : ℕ)
  /-- `stop_background_fetch` sent on the channel of this fetch -/
  | stopped (fetch : ℕ)
  deriving DecidableEq, Repr

structure State where
  fetches : IdTable Status
  /-- `background_fetch_interrupt_sender`: the fetch whose sender it holds -/
  slot : Option ℕ
  /-- there is a message in the channel of the fetch -/
  signalled : ℕ → Bool
  events : List Event
  log : List Entry

def init : State := ⟨IdTable.empty, none, fun _ => false, [], []⟩

/-- `recv` gives a message, or an error if the sender was dropped -/
def recvReady (s : State) (fetch : ℕ) : Bool := s.signalled fetch || s.slot != some fetch

def backgroundFetch (s : State) : State :=
  match s.slot with
  | some _ => { s with fetches := s.fetches.insert .refused }
  | none =>
    { s with
      fetches := s.fetches.insert .created
      slot := some (s.fetches.seq + 1)
      log := s.log ++ [.started (s.fetches.seq + 1)] }

/-- `Accounts::stop_background_fetch`; the sender is dropped at the end -/
def stopBackgroundFetch (s : State) : State :=
  match s.slot with
  | none => s
  | some fetch =>
    { s with
      slot := none
      signalled := Function.update s.signalled fetch true
      log := s.log ++ [.stopped fetch] }

/-! ### `background_fetch_with_timeout` -/

def poll (s : State) (fetch : ℕ) : State :=
  match s.fetches.row fetch with
  | some .created => { s with fetches := s.fetches.update fetch fun _ => .running }
  | _ => s

/-- the race can end at any poll, by an interrupt only if the receiver is ready -/
def endRace (s : State) (fetch : ℕ) (reason : Reason) : State :=
  match s.fetches.row fetch with
  | some .running =>
    if reason = .interrupted → recvReady s fetch then
      { s with
        fetches := s.fetches.update fetch fun _ => .ended reason
        events := s.events ++
          (if reason = .timedOut then [.warning "Background fetch timed out."] else []) ++
          [.accountsBackgroundFetchDone] }
    else s
  | _ => s

/-- `(*interrupt_sender.lock()) = None`, whatever sender it holds -/
def clear (s : State) (fetch : ℕ) : State :=
  match s.fetches.row fetch with
  | some (.ended reason) =>
    { s with fetches := s.fetches.update fetch fun _ => .done reason, slot := none }
  | _ => s

inductive Step where
  | backgroundFetch
  | stopBackgroundFetch
  | poll (fetch : ℕ)
  | endRace (fetch : ℕ) (reason : Reason)
  | clear (fetch : ℕ)
  deriving DecidableEq, Repr

def State.step (s : State) : Step → State
  | .backgroundFetch => backgroundFetch s
  | .stopBackgroundFetch => stopBackgroundFetch s
  | .poll fetch => poll s fetch
  | .endRace fetch reason => endRace s fetch reason
  | .clear fetch => clear s fetch

def run (steps : List Step) : State := steps.foldl State.step init

def Status.active : Status → Bool
  | created | running | ended _ => true
  | refused | done _ => false

/-- a call finds the slot taken, or all fetches over: a fetch that was stopped is not still there -/
def NoneLeft (s : State) : Step → Prop
  | .backgroundFetch => s.slot = none →
    ∀ fetch status, s.fetches.row fetch = some status → status.active = false
  | _ => True

/-! ## the invariant -/

def StoppedAfterStart (log : List Entry) (fetch : ℕ) : Prop :=
  ∃ a b c, log = a ++ .started fetch :: b ++ .stopped fetch :: c

structure Inv (s : State) : Prop where
  one : ∀ f g st st', s.fetches.row f = some st → s.fetches.row g = some st' →
    st.active = true → st'.active = true → f = g
  held : ∀ f, s.slot = some f → ∃ st, s.fetches.row f = some st ∧ st.active = true
  kept : ∀ f st, s.fetches.row f = some st → st.active = true →
    s.slot = some f ∨ s.signalled f = true
  started : ∀ f st, s.fetches.row f = some st → st.active = true → Entry.started f ∈ s.log
  stopped : ∀ f, s.signalled f = true → StoppedAfterStart s.log f
  interrupted : ∀ f, s.fetches.row f = some (.ended .interrupted) ∨
    s.fetches.row f = some (.done .interrupted) → s.signalled f = true

theorem inv_init : Inv init where
  one := fun _ _ _ _ h => nomatch h
  held := fun _ h => nomatch h
  kept := fun _ _ h => nomatch h
  started := fun _ _ h => nomatch h
  stopped := fun _ h => nomatch h
  interrupted := fun _ h => by rcases h with h | h <;> nomatch h

section
variable {s : State} {fetch : ℕ}

theorem StoppedAfterStart.append {log : List Entry} (h : StoppedAfterStart log fetch)
    (entries : List Entry) : StoppedAfterStart (log ++ entries) fetch := by
  obtain ⟨a, b, c, rfl⟩ := h
  exact ⟨a, b, c ++ entries, by simp⟩

theorem Inv.move (inv : Inv s) {old new : Status} (hrow : s.fetches.row fetch = some old)
    (hold : old.active = true) (hnew : new.active = true)
    (hint : new = .ended .interrupted → s.signalled fetch = true) (events : List Event) :
    Inv { s with fetches := s.fetches.update fetch fun _ => new, events := events } := by
  have hself : (s.fetches.update fetch fun _ => new).row fetch = some new :=
    IdTable.update_row_self _ hrow
  -- what is active was active before
  have hbefore : ∀ f st, (s.fetches.update fetch fun _ => new).row f = some st →
      st.active = true → ∃ st', s.fetches.row f = some st' ∧ st'.active = true := by
    intro f st hf hactive
    by_cases e : f = fetch
    · exact ⟨old, e ▸ hrow, hold⟩
    · exact ⟨st, (IdTable.update_row_of_ne _ e).symm.trans hf, hactive⟩
  constructor
  case one =>
    intro f g st st' hf hg hst hst'
    obtain ⟨_, hf', hactive⟩ := hbefore f st hf hst
    obtain ⟨_, hg', hactive'⟩ := hbefore g st' hg hst'
    exact inv.one f g _ _ hf' hg' hactive hactive'
  case held =>
    intro f hslot
    obtain ⟨st, hf, hactive⟩ := inv.held f hslot
    by_cases e : f = fetch
    · exact ⟨new, e ▸ hself, hnew⟩
    · exact ⟨st, (IdTable.update_row_of_ne _ e).trans hf, hactive⟩
  case kept =>
    intro f st hf hst
    obtain ⟨_, hf', hactive⟩ := hbefore f st hf hst
    exact inv.kept f _ hf' hactive
  case started =>
    intro f st hf hst
    obtain ⟨_, hf', hactive⟩ := hbefore f st hf hst
    exact inv.started f _ hf' hactive
  case stopped => exact inv.stopped
  case interrupted =>
    intro f hf
    by_cases e : f = fetch
    · subst e
      rcases hf with hf | hf
      · exact hint (Option.some.inj (hself.symm.trans hf))
      · have hdone : new = .done .interrupted := Option.some.inj (hself.symm.trans hf)
        rw [hdone] at hnew
        cases hnew
    · have hrow' : (s.fetches.update fetch fun _ => new).row f = s.fetches.row f :=
        IdTable.update_row_of_ne _ e
      exact inv.interrupted f (hf.imp hrow'.symm.trans hrow'.symm.trans)

theorem inv_poll (inv : Inv s) (fetch : ℕ) : Inv (poll s fetch) := by
  unfold poll
  split
  case h_1 hrow =>
    refine inv.move hrow rfl rfl ?_ s.events
    intro h
    cases h
  case h_2 => exact inv

theorem inv_endRace (inv : Inv s) (fetch : ℕ) (reason : Reason) : Inv (endRace s fetch reason) := by
  unfold endRace
  split
  case h_2 => exact inv
  case h_1 hrow =>
    by_cases hready : reason = .interrupted → recvReady s fetch
    case neg =>
      rw [if_neg hready]
      exact inv
    case pos =>
      rw [if_pos hready]
      refine inv.move hrow rfl rfl ?_ _
      -- the sender of an active fetch is dropped by a stop only
      intro hint
      have hrecv := hready (Status.ended.inj hint)
      rcases inv.kept fetch _ hrow rfl with hslot | hsignal
      · rw [recvReady, hslot] at hrecv
        simpa using hrecv
      · exact hsignal

theorem inv_clear (inv : Inv s) (fetch : ℕ) : Inv (clear s fetch) := by
  unfold clear
  split
  case h_2 => exact inv
  case h_1 reason hrow =>
    have hself : (s.fetches.update fetch fun _ => .done reason).row fetch = some (.done reason) :=
      IdTable.update_row_self _ hrow
    have hover : ∀ f st, (s.fetches.update fetch fun _ => .done reason).row f = some st →
        st.active = true → False := by
      intro f st hf hactive
      by_cases e : f = fetch
      · subst e
        rw [hself] at hf
        cases hf
        cases hactive
      · rw [IdTable.update_row_of_ne _ e] at hf
        exact e (inv.one f fetch st _ hf hrow hactive rfl)
    constructor
    case one => exact fun f g st st' hf _ hst _ => (hover f st hf hst).elim
    case held => exact fun f h => nomatch h
    case kept => exact fun f st hf hst => (hover f st hf hst).elim
    case started => exact fun f st hf hst => (hover f st hf hst).elim
    case stopped => exact inv.stopped
    case interrupted =>
      intro f hf
      by_cases e : f = fetch
      · subst e
        rcases hf with hf | hf
        · exact nomatch hself.symm.trans hf
        · have hr : reason = .interrupted :=
            Status.done.inj (Option.some.inj (hself.symm.trans hf))
          exact inv.interrupted f (.inl (hr ▸ hrow))
      · have hrow' : (s.fetches.update fetch fun _ => .done reason).row f = s.fetches.row f :=
          IdTable.update_row_of_ne _ e
        exact inv.interrupted f (hf.imp hrow'.symm.trans hrow'.symm.trans)

theorem inv_stopBackgroundFetch (inv : Inv s) : Inv (stopBackgroundFetch s) := by
  unfold stopBackgroundFetch
  split
  case h_1 => exact inv
  case h_2 fetch hslot =>
    have hsignal : ∀ f, s.signalled f = true →
        Function.update s.signalled fetch true f = true := by
      intro f hf
      by_cases e : f = fetch
      · rw [e, Function.update_self]
      · rw [Function.update_of_ne e, hf]
    constructor
    case one => exact inv.one
    case held => exact fun f h => nomatch h
    case kept =>
      intro f st hf hst
      refine .inr ?_
      rcases inv.kept f st hf hst with h | h
      · have e : fetch = f := Option.some.inj (hslot.symm.trans h)
        show Function.update s.signalled fetch true f = true
        rw [e, Function.update_self]
      · exact hsignal f h
    case started => exact fun f st hf hst => List.mem_append_left _ (inv.started f st hf hst)
    case stopped =>
      intro f hf
      by_cases e : f = fetch
      · subst e
        obtain ⟨st, hrow, hactive⟩ := inv.held f hslot
        obtain ⟨a, b, hlog⟩ := List.append_of_mem (inv.started f st hrow hactive)
        exact ⟨a, b, [], by rw [hlog]⟩
      · have hf' : s.signalled f = true := (Function.update_of_ne e _ _).symm.trans hf
        exact (inv.stopped f hf').append _
    case interrupted => exact fun f hf => hsignal f (inv.interrupted f hf)

theorem Inv.interrupted_insert (inv : Inv s) {new : Status} (hended : new ≠ .ended .interrupted)
    (hdone : new ≠ .done .interrupted) (f : ℕ)
    (h : (s.fetches.insert new).row f = some (.ended .interrupted) ∨
      (s.fetches.insert new).row f = some (.done .interrupted)) : s.signalled f = true := by
  rcases h with hf | hf
  · rcases IdTable.row_of_insert hf with ⟨-, h⟩ | hrow
    · exact absurd h.symm hended
    · exact inv.interrupted f (.inl hrow)
  · rcases IdTable.row_of_insert hf with ⟨-, h⟩ | hrow
    · exact absurd h.symm hdone
    · exact inv.interrupted f (.inr hrow)

theorem inv_backgroundFetch (inv : Inv s) (hleft : NoneLeft s .backgroundFetch) :
    Inv (backgroundFetch s) := by
  unfold backgroundFetch
  split
  case h_1 held hslot =>
    have hactive : ∀ f st, (s.fetches.insert .refused).row f = some st → st.active = true →
        s.fetches.row f = some st := by
      intro f st hf hst
      rcases IdTable.row_of_insert hf with ⟨-, rfl⟩ | hrow
      · cases hst
      · exact hrow
    constructor
    case one =>
      intro f g st st' hf hg hst hst'
      exact inv.one f g st st' (hactive f st hf hst) (hactive g st' hg hst') hst hst'
    case held =>
      intro f hf
      obtain ⟨st, hrow, hst⟩ := inv.held f hf
      exact ⟨st, IdTable.insert_row_of_some _ hrow, hst⟩
    case kept => exact fun f st hf hst => inv.kept f st (hactive f st hf hst) hst
    case started => exact fun f st hf hst => inv.started f st (hactive f st hf hst) hst
    case stopped => exact inv.stopped
    case interrupted => exact inv.interrupted_insert (fun h => nomatch h) (fun h => nomatch h)
  case h_2 hslot =>
    -- all earlier fetches are over, so the new one is the only one
    have hactive : ∀ f st, (s.fetches.insert .created).row f = some st → st.active = true →
        f = s.fetches.seq + 1 := by
      intro f st hf hst
      rcases IdTable.row_of_insert hf with ⟨hnew, -⟩ | hrow
      · exact hnew
      · rw [hleft hslot f st hrow] at hst
        cases hst
    constructor
    case one =>
      intro f g st st' hf hg hst hst'
      exact (hactive f st hf hst).trans (hactive g st' hg hst').symm
    case held =>
      intro f hf
      cases hf
      exact ⟨.created, IdTable.insert_row_new _ _, rfl⟩
    case kept => exact fun f st hf hst => .inl (congrArg some (hactive f st hf hst).symm)
    case started =>
      intro f st hf hst
      rw [hactive f st hf hst]
      exact List.mem_append_right _ List.mem_cons_self
    case stopped => exact fun f hf => (inv.stopped f hf).append _
    case interrupted => exact inv.interrupted_insert (fun h => nomatch h) (fun h => nomatch h)

theorem inv_step (s : State) (i : Step) (hleft : NoneLeft s i) (inv : Inv s) : Inv (s.step i) := by
  cases i with
  | backgroundFetch => exact inv_backgroundFetch inv hleft
  | stopBackgroundFetch => exact inv_stopBackgroundFetch inv
  | poll fetch => exact inv_poll inv fetch
  | endRace fetch reason => exact inv_endRace inv fetch reason
  | clear fetch => exact inv_clear inv fetch

end

/-! ## whole runs -/

/-- **background fetches are exclusive and are ended only by themselves or by a stop of their own**,
at any time of a run without a call between a stop and the end of the fetch that was stopped -/
theorem fetches_exclusive (steps : List Step) (hleft : RunOk State.step NoneLeft init steps)
    (before after : List Step) (htime : steps = before ++ after) :
    (∀ f g, (run before).fetches.row f = some .running →
      (run before).fetches.row g = some .running → f = g) ∧
    ∀ f, (run before).fetches.row f = some (.ended .interrupted) ∨
      (run before).fetches.row f = some (.done .interrupted) →
        StoppedAfterStart (run before).log f := by
  subst htime
  have hbefore : RunOk State.step NoneLeft init before := ((runOk_append init before after).mp hleft).1
  have inv : Inv (run before) := hbefore.inv inv_step inv_init
  refine ⟨?_, ?_⟩
  · intro f g hf hg
    exact inv.one f g _ _ hf hg rfl rfl
  · intro f hf
    exact inv.stopped f (inv.interrupted f hf)

/-- a fetch is stopped, and the next one starts after it has ended -/
theorem fetches_exclusive_stopped :
    StoppedAfterStart (run [.backgroundFetch, .poll 1, .stopBackgroundFetch,
      .endRace 1 .interrupted]).log 1 := by
  have hleft : RunOk State.step NoneLeft init [.backgroundFetch, .poll 1, .stopBackgroundFetch,
      .endRace 1 .interrupted, .clear 1, .backgroundFetch, .poll 2] := by
    refine ⟨?_, trivial, trivial, trivial, trivial, ?_, trivial, trivial⟩
    · intro _ fetch status hrow
      cases hrow
    · intro _ fetch status hrow
      rcases fetch with _ | _ | fetch
      · cases hrow
      · cases hrow
        rfl
      · cases hrow
  exact (fetches_exclusive _ hleft [.backgroundFetch, .poll 1, .stopBackgroundFetch,
    .endRace 1 .interrupted] [.clear 1, .backgroundFetch, .poll 2] rfl).2 1 (.inl rfl)

/-- **a call right after a stop**: the new fetch runs beside the one that was stopped, and when that
one clears the slot the new one is interrupted although nobody stopped it -/
theorem stopped_fetch_ends_next :
    ∃ before after : List Step,
      (run before).fetches.row 1 = some .running ∧ (run before).fetches.row 2 = some .running ∧
      (run (before ++ after)).fetches.row 2 = some (.ended .interrupted) ∧
      ¬ StoppedAfterStart (run (before ++ after)).log 2 := by
  refine ⟨[.backgroundFetch, .poll 1, .stopBackgroundFetch, .backgroundFetch, .poll 2],
    [.endRace 1 .interrupted, .clear 1, .endRace 2 .interrupted], rfl, rfl, rfl, ?_⟩
  rintro ⟨a, b, c, hlog⟩
  have hlog' : [Entry.started 1, .stopped 1, .started 2] =
      a ++ .started 2 :: b ++ .stopped 2 :: c := hlog
  have hmem : Entry.stopped 2 ∈ a ++ .started 2 :: b ++ .stopped 2 :: c := by simp
  rw [← hlog'] at hmem
  simp at hmem

end EpsilonChat.BackgroundFetch
