import Mathlib.Data.List.Basic
import Mathlib.Logic.Function.Basic
import EpsilonChat.Lib.Semaphore

/-!
# The pool of database connections

`sql/pool.rs` and `sql/pool/wal_checkpoint.rs`: connections on a stack, a semaphore with a permit
for each of them, and the write mutex.  Whoever uses the pool is a PROCESS, a straight list of
instructions: a `get` followed by the use and the drop of what it returned, or a whole
`wal_checkpoint`.  Any number of processes start at any moment and their steps interleave in any
way; a task that has several connections at a time is several processes here.  The semaphore and
the mutex are fair: both are a `Lib.Semaphore`.

An instruction that can fail, or at which the future can be dropped, may also end the process
early; it then gives back what it has, as the destructors do.

* `get`, `dropRead`, `dropWrite`, `walCheckpoint`: the programs;
* `Proc.destructors`: what an early end still executes;
* `State.exec`, `step`: one step of one process, one step of the pool.
-/

namespace EpsilonChat

namespace Pool

open Lib (Semaphore)

/-! ## the instructions -/

/-- `semaphore` counts the connections; `write_mutex` is a semaphore of one permit -/
inductive Sem where
  | semaphore
  | writeMutex
deriving DecidableEq

inductive Instr where
  /-- `acquire_owned().await`, `lock_owned().await` -/
  | acquire (r : Sem)
  | pop
  /-- `pragma_update(None, "query_only", …)`, after which `get` returns -/
  | pragma (queryOnly : Bool)
  /-- what is done with the connections while they are out -/
  | use
  /-- `InnerPool::put` of the connection number `i` of the process -/
  | put (i : ℕ)
  | release (r : Sem)
deriving DecidableEq

/-- where a `?` can leave, or an `.await` be dropped; destructors run to their end -/
def Instr.fallible : Instr → Bool
  | .acquire _ | .pop | .pragma _ | .use => true
  | .put _ | .release _ => false

def get : Bool → List Instr
  | true => [.acquire .semaphore, .pop, .pragma true]
  -- the write guard first
  | false => [.acquire .writeMutex, .acquire .semaphore, .pop, .pragma false]

/-- the drop of a `PooledConnection` without write guard -/
def dropRead (i : ℕ) : List Instr := [.put i, .release .semaphore]

/-- the drop of a `PooledConnection` with its write guard; the fields go in their order -/
def dropWrite : List Instr := [.put 0, .release .semaphore, .release .writeMutex]

def nDbConnections : ℕ := 3

def rep (k : ℕ) (code : List Instr) : List Instr := (List.replicate k code).flatten

/-- `wal_checkpoint`, where `N_DB_CONNECTIONS` is `n + 1` -/
def walCheckpoint (n : ℕ) : List Instr :=
  -- `wal_checkpoint(PASSIVE)`
  get true ++ .use :: dropRead 0 ++
  .acquire .writeMutex :: get true ++
  -- `read_conns` is filled and cleared, for `wal_checkpoint(FULL)`
  rep n (get true) ++ rep n (dropRead 1) ++ .use ::
  -- and filled again, for `wal_checkpoint(TRUNCATE)`
  rep n (get true) ++ .use ::
  rep n (dropRead 1) ++ dropRead 0 ++ [.release .writeMutex]

inductive Kind where
  | reader
  | writer
  | checkpoint
deriving DecidableEq

def program (n : ℕ) : Kind → List Instr
  | .reader => get true ++ .use :: dropRead 0
  | .writer => get false ++ .use :: dropWrite
  | .checkpoint => walCheckpoint n

/-! ## processes -/

structure Conn where
  id : ℕ
  queryOnly : Bool

structure Taken where
  conn : Conn
  returned : Bool

def Taken.writable (c : Taken) : Bool := c.returned && !c.conn.queryOnly

structure Proc where
  kind : Kind
  todo : List Instr
  held : List Taken
  permits : ℕ
  guards : ℕ

namespace Proc

def start (n : ℕ) (kind : Kind) : Proc := ⟨kind, program n kind, [], 0, 0⟩

def count (r : Sem) (p : Proc) : ℕ :=
  match r with
  | .semaphore => p.permits
  | .writeMutex => p.guards

def next (p : Proc) : Proc := { p with todo := p.todo.tail }

def take (r : Sem) (p : Proc) : Proc :=
  match r with
  | .semaphore => { p with todo := p.todo.tail, permits := p.permits + 1 }
  | .writeMutex => { p with todo := p.todo.tail, guards := p.guards + 1 }

def giveBack (r : Sem) (p : Proc) : Proc :=
  match r with
  | .semaphore => { p with todo := p.todo.tail, permits := p.permits - 1 }
  | .writeMutex => { p with todo := p.todo.tail, guards := p.guards - 1 }

def pop (c : Conn) (p : Proc) : Proc :=
  { p with todo := p.todo.tail, held := p.held ++ [⟨c, false⟩] }

/-- the connection popped last gets its `query_only` and is returned -/
def pragma (queryOnly : Bool) (p : Proc) : Proc :=
  { p with
    todo := p.todo.tail
    held := p.held.dropLast ++ p.held.getLast?.toList.map fun c =>
      ⟨⟨c.conn.id, queryOnly⟩, true⟩ }

def put (i : ℕ) (p : Proc) : Proc := { p with todo := p.todo.tail, held := p.held.eraseIdx i }

def dropAll : ℕ → List Instr
  | 0 => []
  | k + 1 => rep k (dropRead 1) ++ dropRead 0

/-- the connection of a `get` that has not returned goes before the others -/
def dropHeld (held : List Taken) : List Instr :=
  if held.getLast?.any (!·.returned) then dropRead (held.length - 1) ++ dropAll (held.length - 1)
  else dropAll held.length

/-- the destructors: a permit without connection, the connections, the guard -/
def destructors (p : Proc) : List Instr :=
  rep (p.permits - p.held.length) [.release .semaphore] ++ (dropHeld p.held ++
  rep p.guards [.release .writeMutex])

def unwind (p : Proc) : Proc := { p with todo := p.destructors }

end Proc

/-! ## the pool and its steps -/

structure State where
  /-- the stack, its top first -/
  connections : List Conn
  sems : Sem → Semaphore ℕ
  spawned : ℕ
  procs : ℕ → Proc

def new (connections : List Conn) : State where
  connections := connections
  sems
    | .semaphore => .new connections.length
    | .writeMutex => .new 1
  spawned := 0
  procs _ := ⟨.reader, [], [], 0, 0⟩

namespace State

def setSem (s : State) (r : Sem) (x : Semaphore ℕ) : State :=
  { s with sems := Function.update s.sems r x }

def modify (s : State) (pid : ℕ) (f : Proc → Proc) : State :=
  { s with procs := Function.update s.procs pid (f (s.procs pid)) }

def Waiting (s : State) (pid : ℕ) : Prop :=
  pid ∈ (s.sems .semaphore).waiters ∨ pid ∈ (s.sems .writeMutex).waiters

instance (s : State) (pid : ℕ) : Decidable (s.Waiting pid) := inferInstanceAs (Decidable (_ ∨ _))

/-- the process ends early; a waiter that is dropped leaves the queue -/
def unwind (s : State) (pid : ℕ) : State :=
  { s with sems := fun r => (s.sems r).leave pid }.modify pid Proc.unwind

def acquire (s : State) (pid : ℕ) (r : Sem) : State :=
  if (s.sems r).Free then (s.setSem r (s.sems r).take).modify pid (Proc.take r)
  else s.setSem r ((s.sems r).enqueue pid)

def release (s : State) (pid : ℕ) (r : Sem) : State :=
  let s' := (s.setSem r (s.sems r).release.2).modify pid (Proc.giveBack r)
  match (s.sems r).release.1 with
  | none => s'
  | some q => s'.modify q (Proc.take r)

def spawn (s : State) (n : ℕ) (kind : Kind) : State :=
  { s with
    spawned := s.spawned + 1
    procs := Function.update s.procs s.spawned (Proc.start n kind) }

def exec (s : State) (pid : ℕ) : Instr → State
  | .acquire r => s.acquire pid r
  | .pop =>
    match s.connections with
    -- "Got a permit when there are no connections in the pool"
    | [] => s.unwind pid
    | c :: rest => { s with connections := rest }.modify pid (Proc.pop c)
  | .pragma queryOnly => s.modify pid (Proc.pragma queryOnly)
  | .use => s.modify pid Proc.next
  | .put i =>
    { s with connections := ((s.procs pid).held[i]?.map Taken.conn).toList ++ s.connections }.modify
      pid (Proc.put i)
  | .release r => s.release pid r

end State

inductive Event where
  | spawn (kind : Kind)
  | run (pid : ℕ)
  /-- its next instruction fails, or its future is dropped -/
  | fail (pid : ℕ)
  | idle
deriving DecidableEq

def step (n : ℕ) (s : State) : Event → Option State
  | .spawn kind => some (s.spawn n kind)
  | .run pid =>
    if pid < s.spawned ∧ ¬ s.Waiting pid then
      (s.procs pid).todo.head?.map (s.exec pid)
    else none
  | .fail pid =>
    if pid < s.spawned ∧ (s.procs pid).todo.head?.any Instr.fallible then some (s.unwind pid)
    else none
  | .idle => some s

inductive Step (n : ℕ) (s : State) : Event → State → Prop where
  | spawn (kind : Kind) : Step n s (.spawn kind) (s.spawn n kind)
  | run {pid : ℕ} {i : Instr} (hpid : pid < s.spawned) (hw : ¬ s.Waiting pid)
      (hi : (s.procs pid).todo.head? = some i) : Step n s (.run pid) (s.exec pid i)
  | fail {pid : ℕ} {i : Instr} (hpid : pid < s.spawned) (hf : i.fallible = true)
      (hi : (s.procs pid).todo.head? = some i) : Step n s (.fail pid) (s.unwind pid)
  | idle : Step n s .idle s

theorem step_cases {n : ℕ} {s s' : State} {e : Event} (h : step n s e = some s') :
    Step n s e s' := by
  cases e with
  | spawn kind =>
    cases h
    exact .spawn kind
  | run pid =>
    simp only [step] at h
    split at h
    · next hpid =>
      obtain ⟨i, hi, rfl⟩ := Option.map_eq_some_iff.mp h
      exact .run hpid.1 hpid.2 hi
    · cases h
  | fail pid =>
    simp only [step] at h
    split at h
    · next hpid =>
      cases h
      obtain ⟨hpid, hf⟩ := hpid
      cases hi : (s.procs pid).todo.head? with
      | none =>
        rw [hi] at hf
        cases hf
      | some i =>
        rw [hi] at hf
        exact .fail hpid hf hi
    · cases h
  | idle =>
    cases h
    exact .idle

end Pool

end EpsilonChat
