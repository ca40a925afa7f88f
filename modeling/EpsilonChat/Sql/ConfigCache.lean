import Mathlib.Logic.Function.Basic
import Mathlib.Data.List.Basic

/-!
# The cache of the configuration

`get_raw_config` answers from `config_cache` if it can; otherwise it takes the WRITE lock, asks the
database and stores the answer.  `set_raw_config` writes the table and the cache under that lock.  A
new `configured_addr` is written by a transaction of its own, WITHOUT the lock, and
`uncache_raw_config` is called some time later, or never if there is an error in between.

* `State.step`: what happens under the lock at once; who has to wait for it does nothing;
* `Coherent`: cache and reader have what the table has, for all keys but those left `behind`;
* **`getRawConfig_coherent`**: in every interleaving, whatever fails, such a key is read as stored.
-/

namespace EpsilonChat.ConfigCache

structure State where
  config : String → Option String
  cache : String → Option (Option String) := fun _ => none
  /-- the call of `get_raw_config` that has the lock, and what it has read -/
  reading : Option (String × Option String) := none
  /-- the keys of transactions that `uncache_raw_config` was not called for yet -/
  behind : List String := []

/-- `ok` says whether the statement succeeds -/
inductive Event where
  /-- also the end of `store_self_keypair`, for `key_id` -/
  | setRawConfig (key : String) (value : Option String) (ok : Bool)
  /-- `get_raw_config` up to the query -/
  | query (key : String) (ok : Bool)
  /-- and from there -/
  | insert
  | transaction (key : String) (value : Option String)
  | uncacheRawConfig (key : String)
  /-- `Sql::import` has the lock all the time; also if it fails, the table is another one -/
  | importDb (config : String → Option String)

/-- who has to wait for the lock does nothing -/
def State.locked (s next : State) : State := if s.reading.isSome then s else next

def State.step (s : State) : Event → State
  | .setRawConfig key value ok => s.locked <|
    if ok then
      { s with
        config := Function.update s.config key value
        cache := Function.update s.cache key (some value) }
    else s
  | .query key ok => s.locked <| if ok then { s with reading := some (key, s.config key) } else s
  | .insert =>
    match s.reading with
    | none => s
    | some (key, value) =>
      { s with cache := Function.update s.cache key (some value), reading := none }
  | .transaction key value =>
    { s with config := Function.update s.config key value, behind := key :: s.behind }
  | .uncacheRawConfig key => s.locked
    { s with cache := Function.update s.cache key none, behind := s.behind.erase key }
  | .importDb config => s.locked { s with config, cache := fun _ => none }

def run (config : String → Option String) (events : List Event) : State :=
  events.foldl State.step { config }

/-- a call that does not have to wait -/
def getRawConfig (s : State) (key : String) : Option String := (s.cache key).getD (s.config key)

structure Coherent (s : State) : Prop where
  cache : ∀ key ∉ s.behind, ∀ value, s.cache key = some value → value = s.config key
  reading : ∀ key value, s.reading = some (key, value) → key ∉ s.behind → value = s.config key

theorem Coherent.locked {s next : State} (h : Coherent s)
    (hnext : s.reading = none → Coherent next) : Coherent (s.locked next) := by
  unfold State.locked
  split
  · exact h
  · next hfree => exact hnext (by simpa using hfree)

theorem Coherent.step {s : State} (h : Coherent s) (e : Event) : Coherent (s.step e) := by
  cases e with
  | setRawConfig key value ok =>
    refine h.locked fun hfree => ?_
    split
    · refine ⟨fun k hk v hv => ?_, fun k v hr => absurd (hfree.symm.trans hr) nofun⟩
      by_cases e : k = key
      · subst e
        simpa using hv.symm
      · simp only [Function.update_of_ne e] at hv ⊢
        exact h.cache k hk v hv
    · exact h
  | query key ok =>
    refine h.locked fun _ => ?_
    split
    · refine ⟨h.cache, fun k v hr _ => ?_⟩
      cases hr
      rfl
    · exact h
  | insert =>
    rw [State.step]
    split
    · exact h
    · next key value hreading =>
      refine ⟨fun k hk v hv => ?_, nofun⟩
      by_cases e : k = key
      · subst e
        have hvalue : value = v := by simpa using hv
        exact hvalue ▸ h.reading k value hreading hk
      · exact h.cache k hk v (by simpa only [Function.update_of_ne e] using hv)
  | transaction key value =>
    -- the key is left behind, also for a reader that has the old value
    have hne : ∀ {k}, k ∉ key :: s.behind → k ≠ key ∧ k ∉ s.behind := by simp
    refine ⟨fun k hk v hv => ?_, fun k v hr hk => ?_⟩
    · exact (h.cache k (hne hk).2 v hv).trans (Function.update_of_ne (hne hk).1 _ _).symm
    · exact (h.reading k v hr (hne hk).2).trans (Function.update_of_ne (hne hk).1 _ _).symm
  | uncacheRawConfig key =>
    refine h.locked fun hfree => ?_
    refine ⟨fun k hk v hv => ?_, fun k v hr => absurd (hfree.symm.trans hr) nofun⟩
    by_cases e : k = key
    · subst e
      simp at hv
    · simp only [Function.update_of_ne e] at hv
      exact h.cache k (fun hmem => hk ((List.mem_erase_of_ne e).mpr hmem)) v hv
  | importDb config =>
    exact h.locked fun hfree => ⟨nofun, fun k v hr => absurd (hfree.symm.trans hr) nofun⟩

theorem coherent_run (config : String → Option String) (events : List Event) :
    Coherent (run config events) :=
  List.foldlRecOn events State.step ⟨nofun, nofun⟩ fun _ h e _ => h.step e

/-- **A key is read as it is stored**, by a call that does not wait and by the one that has the lock,
after every run of which no transaction has left the key behind. -/
theorem getRawConfig_coherent (config : String → Option String) (events : List Event)
    (key : String) (h : key ∉ (run config events).behind) :
    getRawConfig (run config events) key = (run config events).config key ∧
      ∀ value, (run config events).reading = some (key, value) →
        value = (run config events).config key := by
  have hinv := coherent_run config events
  refine ⟨?_, fun value hr => hinv.reading key value hr h⟩
  unfold getRawConfig
  cases hc : (run config events).cache key with
  | none => rfl
  | some value => exact hinv.cache key h value hc

/-- a transaction comes between the two parts of a read, and its value is uncached -/
theorem getRawConfig_coherent_late :
    let events := [Event.query "configured_addr" true, .transaction "configured_addr" (some "b"),
      .uncacheRawConfig "configured_addr", .insert, .uncacheRawConfig "configured_addr"]
    let s := run (fun _ => some "a") events
    s.behind = [] ∧ getRawConfig s "configured_addr" = s.config "configured_addr" := by
  intro events s
  have hbehind : s.behind = [] := by decide
  refine ⟨hbehind, (getRawConfig_coherent (fun _ => some "a") events "configured_addr" ?_).1⟩
  show _ ∉ s.behind
  rw [hbehind]
  exact List.not_mem_nil

end EpsilonChat.ConfigCache
