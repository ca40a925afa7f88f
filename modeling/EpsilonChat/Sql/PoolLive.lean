import EpsilonChat.Lib.LeadsTo
import EpsilonChat.Sql.PoolSafe

/-!
# The pool of database connections: everybody is served

An endless run of the pool in which every process that can go on does so sooner or later, those
that use a connection included.  Then every process ends, whatever else is started meanwhile.

* `fate`: what a step of the pool does to ONE process;
* `Run.closer_of_holder`: who waits comes closer, if a holder of a permit gets on;
* `Inv.exists_freeHolder`: when a permit is waited for, somebody has one and waits for nothing: only
  the owner of the write mutex asks for a permit while it has some, and then it has not all of them;
* `Run.Fair.len_lt_of_semaphore`: hence who waits for a permit gets on;
* `Run.Fair.len_lt_of_writeMutex`: hence the owner of the write mutex does, and who waits for it;
* **`Run.Fair.finishes`**: hence every process ends.
-/

namespace EpsilonChat

namespace Pool

open Lib (Semaphore LeadsTo)

/-! ## what a step does to one process -/

def Event.actor : Event → Option ℕ
  | .run pid | .fail pid => some pid
  | .spawn _ | .idle => none

inductive Change (e : Event) (s s' : State) (q : ℕ) : Prop where
  | took (r : Sem) (hi : (s.procs q).todo.head? = some (.acquire r))
      (hcount : ∀ r', (s.procs q).count r' ≤ (s'.procs q).count r')
  | kept (hcount : ∀ r, (s'.procs q).count r = (s.procs q).count r)
  | released (r : Sem) (he : e = .run q) (hi : (s.procs q).todo.head? = some (.release r))
      (hcount : ∀ r' ≠ r, (s'.procs q).count r' = (s.procs q).count r')

inductive Fate (e : Event) (s s' : State) (q : ℕ) : Prop where
  /-- nothing; in a queue it gets no worse place -/
  | same (hactor : e.actor ≠ some q) (hproc : s'.procs q = s.procs q)
      (hstay : ∀ r, q ∈ (s'.sems r).waiters ↔ q ∈ (s.sems r).waiters)
      (hplace : ∀ r, q ∈ (s.sems r).waiters →
        (s'.sems r).waiters.idxOf q ≤ (s.sems r).waiters.idxOf q)
  /-- it has to wait for `r` -/
  | queued (r : Sem) (hactor : e.actor = some q) (hw : ¬ s.Waiting q)
      (hproc : s'.procs q = s.procs q) (hq : q ∈ (s'.sems r).waiters)
  /-- it gets on, by its own step or because it gets what it waits for -/
  | moved (hactor : e.actor = some q ∨ s.Waiting q)
      (hlen : (s'.procs q).todo.length < (s.procs q).todo.length)
      (htail : e = .fail q ∨ (s'.procs q).todo = (s.procs q).todo.tail) (hw : ¬ s'.Waiting q)
      (hc : Change e s s' q)

section
variable {n : ℕ} {s : State} {e : Event} {pid q : ℕ}
variable {i : Instr} {s' : State} {r : Sem}

theorem some_ne_of_ne (hq : q ≠ pid) : some pid ≠ some q := fun h => hq (Option.some.inj h).symm

theorem release_sems (s : State) (pid : ℕ) (r : Sem) :
    (s.release pid r).sems = (s.setSem r (s.sems r).release.2).sems := by
  unfold State.release
  cases (s.sems r).release.1 <;> rfl

theorem exec_spawned (s : State) (pid : ℕ) (i : Instr) : (s.exec pid i).spawned = s.spawned := by
  cases i with
  | acquire r =>
    simp only [State.exec, State.acquire]
    split <;> rfl
  | pop =>
    simp only [State.exec]
    split <;> rfl
  | release r =>
    simp only [State.exec, State.release]
    cases (s.sems r).release.1 <;> rfl
  | _ => rfl

theorem setSem_self (s : State) (r : Sem) (x : Semaphore ℕ) : (s.setSem r x).sems r = x :=
  Function.update_self ..

theorem length_tail_lt {todo : List Instr} (hi : todo.head? = some i) :
    todo.tail.length < todo.length := by
  obtain ⟨rest, rfl⟩ := List.head?_eq_some_iff.mp hi
  exact Nat.lt_succ_self _

theorem Fate.of_tail (hactor : e.actor = some q ∨ s.Waiting q)
    (hi : (s.procs q).todo.head? = some i) (htail : (s'.procs q).todo = (s.procs q).todo.tail)
    (hw : ¬ s'.Waiting q) (hc : Change e s s' q) : Fate e s s' q := by
  refine .moved hactor ?_ (.inr htail) hw hc
  rw [htail]
  exact length_tail_lt hi

theorem Fate.of_modify {f : Proc → Proc} {connections : List Conn} (he : e.actor = some pid)
    (hw : ¬ s.Waiting pid) (hi : (s.procs pid).todo.head? = some i)
    (htail : (f (s.procs pid)).todo = (s.procs pid).todo.tail)
    (hcount : ∀ r, (f (s.procs pid)).count r = (s.procs pid).count r) (q : ℕ) :
    Fate e s ({ s with connections := connections }.modify pid f) q := by
  by_cases hq : q = pid
  · subst hq
    have hself : ({ s with connections := connections }.modify q f).procs q = f (s.procs q) :=
      Function.update_self ..
    refine .of_tail (.inl he) hi ?_ hw (.kept fun r => ?_)
    · rw [hself, htail]
    · rw [hself, hcount r]
  · refine .same ?_ (Function.update_of_ne hq _ _) (fun r => Iff.rfl) fun r _ => Nat.le_refl _
    rw [he]
    exact some_ne_of_ne hq

theorem Fate.of_unwind (h : Inv n s) (hpid : pid < s.spawned)
    (hi : (s.procs pid).todo.head? = some i) (hf : i.fallible = true) (q : ℕ) :
    Fate (.fail pid) s (s.unwind pid) q := by
  by_cases hq : q = pid
  · subst hq
    have hself : (s.unwind q).procs q = (s.procs q).unwind := Function.update_self ..
    refine .moved (.inl rfl) ?_ (.inl rfl) (fun hw => ?_) (.kept fun r => ?_)
    · rw [hself]
      exact (h.ok q hpid).length_unwind hi hf
    · obtain ⟨r, hr⟩ := waiting_iff.mp hw
      exact (h.fair r).not_mem_leave hr
    · rw [hself]
      cases r <;> rfl
  · exact .same (some_ne_of_ne hq) (Function.update_of_ne hq _ _)
      (fun r => Semaphore.mem_leave hq) fun r _ => Semaphore.idxOf_leave_le hq

theorem Fate.of_take (hactor : e.actor = some q ∨ s.Waiting q)
    (hi : (s.procs q).todo.head? = some (.acquire r)) (hproc : s'.procs q = (s.procs q).take r)
    (hw : ¬ s'.Waiting q) : Fate e s s' q := by
  refine .of_tail hactor hi ?_ hw (.took r hi fun r' => ?_)
  · rw [hproc]
    cases r <;> rfl
  · rw [hproc, Proc.count_take]
    exact Nat.le_add_right _ _

theorem Fate.of_acquire (hw : ¬ s.Waiting pid) (hi : (s.procs pid).todo.head? = some (.acquire r))
    (q : ℕ) : Fate (.run pid) s (s.acquire pid r) q := by
  unfold State.acquire
  split
  · next hfree =>
    have hsems : ∀ r', ((s.setSem r (s.sems r).take).sems r').waiters = (s.sems r').waiters :=
      forall_setSem (fun r' y => y.waiters = (s.sems r').waiters)
        (show (s.sems r).take.waiters = _ from rfl) fun r' _ => rfl
    by_cases hq : q = pid
    · subst hq
      refine .of_take (.inl rfl) hi (Function.update_self ..) fun hw' => hw ?_
      obtain ⟨r', hr'⟩ := waiting_iff.mp hw'
      exact waiting_iff.mpr ⟨r', hsems r' ▸ hr'⟩
    · refine .same (some_ne_of_ne hq) (Function.update_of_ne hq _ _)
        (fun r' => ?_) fun r' _ => ?_
      · show q ∈ ((s.setSem r (s.sems r).take).sems r').waiters ↔ _
        rw [hsems r']
      · show ((s.setSem r (s.sems r).take).sems r').waiters.idxOf q ≤ _
        rw [hsems r']
  · by_cases hq : q = pid
    · subst hq
      refine .queued r rfl hw rfl ?_
      rw [setSem_self]
      exact List.mem_append_right _ (List.mem_singleton_self q)
    · refine .same (some_ne_of_ne hq) rfl ?_ ?_
      · refine forall_setSem (fun r' y => q ∈ y.waiters ↔ q ∈ (s.sems r').waiters) ?_
          fun r' _ => Iff.rfl
        simp [Semaphore.enqueue, hq]
      · exact forall_setSem (fun r' y => q ∈ (s.sems r').waiters →
          y.waiters.idxOf q ≤ (s.sems r').waiters.idxOf q)
          (fun hmem => (Semaphore.idxOf_enqueue hmem).le) fun r' _ _ => Nat.le_refl _

theorem release_procs (hq : (s.sems r).release.1 ≠ some q) :
    (s.release pid r).procs q = (s.modify pid (Proc.giveBack r)).procs q := by
  unfold State.release
  cases hnext : (s.sems r).release.1 with
  | none => rfl
  | some q' =>
    rw [hnext] at hq
    exact Function.update_of_ne (fun h => hq (congrArg some h.symm)) _ _

theorem release_procs_served (hq : (s.sems r).release.1 = some q) (hne : q ≠ pid) :
    (s.release pid r).procs q = (s.procs q).take r := by
  unfold State.release
  rw [hq]
  show Function.update _ q _ q = _
  rw [Function.update_self]
  exact congrArg (Proc.take r) (Function.update_of_ne hne _ _)

theorem Fate.of_release (h : Inv n s) (hpid : pid < s.spawned) (hw : ¬ s.Waiting pid)
    (hi : (s.procs pid).todo.head? = some (.release r)) (q : ℕ) :
    Fate (.run pid) s (s.release pid r) q := by
  have hsub : ∀ r' q', q' ∈ ((s.release pid r).sems r').waiters → q' ∈ (s.sems r').waiters := by
    rw [release_sems]
    exact forall_setSem (fun r' y => ∀ q' ∈ y.waiters, q' ∈ (s.sems r').waiters)
      (fun q' hq' => Semaphore.mem_of_mem_release hq') fun r' _ q' hq' => hq'
  by_cases hq : q = pid
  · subst hq
    have hne : (s.sems r).release.1 ≠ some q := fun hserved =>
      not_mem_of_not_waiting hw r ((h.fair r).not_mem_release hserved).1
    have hproc : (s.release q r).procs q = (s.procs q).giveBack r := by
      rw [release_procs hne]
      exact Function.update_self ..
    refine .of_tail (.inl rfl) hi ?_ (fun hw' => hw ?_) (.released r rfl hi fun r' hr' => ?_)
    · rw [hproc]
      cases r <;> rfl
    · obtain ⟨r', hr'⟩ := waiting_iff.mp hw'
      exact waiting_iff.mpr ⟨r', hsub r' q hr'⟩
    · have hcount := Proc.count_giveBack r' ((h.ok q hpid).count_pos hi)
      rw [if_neg hr'] at hcount
      rw [hproc]
      exact hcount
  by_cases hserved : (s.sems r).release.1 = some q
  · obtain ⟨hmem, hgone⟩ := (h.fair r).not_mem_release hserved
    refine .of_take (.inr (waiting_iff.mpr ⟨r, hmem⟩)) (h.waits r q hmem).2
      (release_procs_served hserved hq) fun hw' => ?_
    obtain ⟨r', hr'⟩ := waiting_iff.mp hw'
    have hr := h.sem_unique hmem (hsub r' q hr')
    subst hr
    rw [release_sems, setSem_self] at hr'
    exact hgone hr'
  · have hcases (hmem : q ∈ (s.sems r).waiters) :=
      (Semaphore.release_cases hmem).resolve_left hserved
    refine .same (some_ne_of_ne hq) ?_ (fun r' => ⟨hsub r' q, ?_⟩) ?_
    · rw [release_procs hserved]
      exact Function.update_of_ne hq _ _
    · rw [release_sems]
      exact forall_setSem (fun r' y => q ∈ (s.sems r').waiters → q ∈ y.waiters)
        (fun hmem => (hcases hmem).1) (fun r' _ hmem => hmem) r'
    · rw [release_sems]
      exact forall_setSem (fun r' y => q ∈ (s.sems r').waiters →
        y.waiters.idxOf q ≤ (s.sems r').waiters.idxOf q)
        (fun hmem => (hcases hmem).2.le) fun r' _ _ => Nat.le_refl _

theorem fate (h : Inv n s) (hstep : step n s e = some s') (hq : q < s.spawned) : Fate e s s' q := by
  have hsame {e : Event} (he : e.actor = none) (h : s'.procs q = s.procs q)
      (hsems : s'.sems = s.sems) : Fate e s s' q := by
    refine .same ?_ h (fun r => ?_) fun r _ => ?_
    · rw [he]
      exact nofun
    · rw [hsems]
    · rw [hsems]
  cases step_cases hstep with
  | spawn kind => exact hsame rfl (spawn_procs kind hq) rfl
  | idle => exact hsame rfl rfl rfl
  | fail hpid hf hi => exact .of_unwind h hpid hi hf q
  | @run pid i hpid hw hi =>
    cases i with
    | acquire r => exact .of_acquire hw hi q
    | pop =>
      obtain ⟨c, rest, hc⟩ := List.exists_cons_of_ne_nil (h.connections_ne_nil hpid hi)
      rw [show s.exec pid .pop = { s with connections := rest }.modify pid (Proc.pop c) by
        simp only [State.exec, hc]]
      exact .of_modify rfl hw hi rfl (fun r => by cases r <;> rfl) q
    | pragma b => exact .of_modify rfl hw hi rfl (fun r => by cases r <;> rfl) q
    | use => exact .of_modify rfl hw hi rfl (fun r => by cases r <;> rfl) q
    | put j => exact .of_modify rfl hw hi rfl (fun r => by cases r <;> rfl) q
    | release r => exact .of_release h hpid hw hi q

theorem release_closer (h : Inv n s) (hstep : step n s (.run pid) = some s')
    (hi : (s.procs pid).todo.head? = some (.release r)) (hq : q ∈ (s.sems r).waiters)
    (hq' : q ∈ (s'.sems r).waiters) : (s'.sems r).waiters.idxOf q < (s.sems r).waiters.idxOf q := by
  cases step_cases hstep with
  | run hpid hw hi' =>
    cases hi.symm.trans hi'
    have hsem : (s.exec pid (.release r)).sems r = (s.sems r).release.2 := by
      show (s.release pid r).sems r = _
      rw [release_sems, setSem_self]
    rw [hsem] at hq' ⊢
    rcases Semaphore.release_cases hq with hserved | ⟨-, hlt⟩
    · exact absurd hq' ((h.fair r).not_mem_release hserved).2
    · exact hlt

end

namespace Fate

variable {e : Event} {s s' : State} {q : ℕ}

theorem proc_cases (h : Fate e s s' q) : s'.procs q = s.procs q ∨
    (s'.procs q).todo.length < (s.procs q).todo.length := by
  cases h with
  | same _ hproc => exact .inl hproc
  | queued r _ _ hproc => exact .inl hproc
  | moved _ hlen => exact .inr hlen

theorem todo_cases (h : Fate e s s' q) (he : e ≠ .fail q) :
    (s'.procs q).todo = (s.procs q).todo ∨ (s'.procs q).todo = (s.procs q).todo.tail := by
  cases h with
  | same _ hproc => exact .inl (congrArg Proc.todo hproc)
  | queued r _ _ hproc => exact .inl (congrArg Proc.todo hproc)
  | moved _ _ htail => exact .inr (htail.resolve_left he)

theorem of_actor (h : Fate e s s' q) (he : e.actor = some q) :
    (s'.procs q).todo.length < (s.procs q).todo.length ∨
      s'.procs q = s.procs q ∧ s'.Waiting q := by
  cases h with
  | same hactor => exact absurd he hactor
  | queued r _ _ hproc hq => exact .inr ⟨hproc, waiting_iff.mpr ⟨r, hq⟩⟩
  | moved _ hlen => exact .inl hlen

theorem of_other (h : Fate e s s' q) (he : e.actor ≠ some q) (hw : ¬ s.Waiting q) :
    s'.procs q = s.procs q ∧ ¬ s'.Waiting q := by
  cases h with
  | same _ hproc hstay =>
    refine ⟨hproc, fun hw' => hw ?_⟩
    obtain ⟨r, hr⟩ := waiting_iff.mp hw'
    exact waiting_iff.mpr ⟨r, (hstay r).mp hr⟩
  | queued r hactor => exact absurd hactor he
  | moved hactor => exact absurd (hactor.resolve_left he) hw

theorem of_waits {r : Sem} (h : Fate e s s' q) (hq : q ∈ (s.sems r).waiters) :
    (s'.procs q = s.procs q ∧ q ∈ (s'.sems r).waiters ∧
      (s'.sems r).waiters.idxOf q ≤ (s.sems r).waiters.idxOf q) ∨
    ((s'.procs q).todo.length < (s.procs q).todo.length ∧ q ∉ (s'.sems r).waiters) := by
  cases h with
  | same _ hproc hstay hplace => exact .inl ⟨hproc, (hstay r).mpr hq, hplace r hq⟩
  | queued r' _ hw => exact absurd (waiting_iff.mpr ⟨r, hq⟩) hw
  | moved _ hlen _ hw => exact .inr ⟨hlen, not_mem_of_not_waiting hw r⟩

end Fate

/-! ## who has what another waits for -/

/-- it has a permit and waits for nothing: it has no write guard, or all permits -/
def FreeHolder (n : ℕ) (s : State) (pid : ℕ) : Prop :=
  pid < s.spawned ∧ 0 < (s.procs pid).permits ∧
    ((s.procs pid).guards = 0 ∨ (s.procs pid).permits = n + 1)

section
variable {n : ℕ} {s : State} {pid : ℕ}

theorem FreeHolder.congr {s' : State} (h : FreeHolder n s pid) (hpid : pid < s'.spawned)
    (hproc : s'.procs pid = s.procs pid) : FreeHolder n s' pid := by
  refine ⟨hpid, ?_⟩
  rw [hproc]
  exact h.2

theorem Inv.not_acquire (h : Inv n s) (hpid : FreeHolder n s pid) (r : Sem) :
    (s.procs pid).todo.head? ≠ some (.acquire r) := by
  intro hi
  obtain ⟨hspawned, hpos, hfree⟩ := hpid
  have hready := (h.ok pid hspawned).ready hi
  cases r with
  | semaphore =>
    have hguard : (s.procs pid).permits = 0 ∨ 0 < (s.procs pid).guards := hready.1
    have hle : (s.procs pid).permits ≤ n := hready.2
    omega
  | writeMutex => exact hpos.ne' hready.1

theorem Inv.not_waiting (h : Inv n s) (hpid : FreeHolder n s pid) : ¬ s.Waiting pid := by
  intro hw
  obtain ⟨r, hr⟩ := waiting_iff.mp hw
  exact h.not_acquire hpid r (h.waits r pid hr).2

theorem Inv.total_of_waiters (h : Inv n s) {r : Sem} (hw : (s.sems r).waiters ≠ []) :
    s.total (Proc.count r) = capacity n r := by
  have hpermits := h.permits r
  rw [(h.fair r).full hw, Nat.zero_add] at hpermits
  exact hpermits

theorem exists_count_pos {r : Sem} (h : 0 < s.total (Proc.count r)) :
    ∃ pid < s.spawned, 0 < (s.procs pid).count r := by
  obtain ⟨pid, hpid, hne⟩ := Finset.exists_ne_zero_of_sum_ne_zero h.ne'
  exact ⟨pid, Finset.mem_range.mp hpid, Nat.pos_of_ne_zero hne⟩

theorem Inv.guards_eq_zero (h : Inv n s) {other : ℕ} (hpid : pid < s.spawned)
    (hother : other < s.spawned) (hguard : 0 < (s.procs pid).guards) (hne : other ≠ pid) :
    (s.procs other).guards = 0 := by
  have hsum : (s.procs pid).guards + (s.procs other).guards ≤ s.total (Proc.count .writeMutex) := by
    have hsub : {pid, other} ⊆ Finset.range s.spawned := by
      intro i hi
      rcases Finset.mem_insert.mp hi with rfl | hi
      · exact Finset.mem_range.mpr hpid
      · rw [Finset.mem_singleton.mp hi]
        exact Finset.mem_range.mpr hother
    have hpair : ∑ i ∈ {pid, other}, (s.procs i).count .writeMutex =
        (s.procs pid).guards + (s.procs other).guards :=
      Finset.sum_pair (f := fun i => (s.procs i).count .writeMutex) hne.symm
    rw [← hpair]
    exact Finset.sum_le_sum_of_subset hsub
  have hone : _ = 1 := h.permits .writeMutex
  omega

/-- **When somebody waits for a permit, somebody has one and waits for nothing.** -/
theorem Inv.exists_freeHolder (h : Inv n s) (hw : (s.sems .semaphore).waiters ≠ []) :
    ∃ pid, FreeHolder n s pid := by
  have htotal : s.total (Proc.count .semaphore) = n + 1 := h.total_of_waiters hw
  have htotal_pos : 0 < s.total (Proc.count .semaphore) := by
    rw [htotal]
    exact Nat.succ_pos n
  obtain ⟨pid, hpid, hpos⟩ := exists_count_pos htotal_pos
  by_cases hguard : (s.procs pid).guards = 0
  · exact ⟨pid, hpid, hpos, .inl hguard⟩
  by_cases hother : ∃ i < s.spawned, i ≠ pid ∧ 0 < (s.procs i).permits
  · obtain ⟨i, hi, hne, hposi⟩ := hother
    exact ⟨i, hi, hposi, .inl (h.guards_eq_zero hpid hi (Nat.pos_of_ne_zero hguard) hne)⟩
  · -- all permits are with the owner of the write mutex
    refine ⟨pid, hpid, hpos, .inr ?_⟩
    have hsum : s.total (Proc.count .semaphore) = (s.procs pid).count .semaphore := by
      refine Finset.sum_eq_single (f := fun i => (s.procs i).count .semaphore) pid
        (fun i hi hne => ?_) fun hnot => ?_
      · exact Nat.eq_zero_of_not_pos fun hposi => hother ⟨i, Finset.mem_range.mp hi, hne, hposi⟩
      · exact absurd (Finset.mem_range.mpr hpid) hnot
    exact hsum.symm.trans htotal

end

/-! ## runs -/

/-- an endless interleaving, from a pool of `n + 1` connections; `idle` may fill it up -/
structure Run (n : ℕ) where
  connections : List Conn
  size : connections.length = n + 1
  state : ℕ → State
  event : ℕ → Event
  init : state 0 = new connections
  next : ∀ t, step n (state t) (event t) = some (state (t + 1))

namespace Run

variable {n : ℕ} (ρ : Run n)

theorem inv (t : ℕ) : Inv n (ρ.state t) := by
  induction t with
  | zero =>
    rw [ρ.init]
    exact inv_new ρ.size
  | succ t ih => exact ih.step (ρ.next t)

def Enabled (pid t : ℕ) : Prop :=
  pid < (ρ.state t).spawned ∧ ¬ (ρ.state t).Waiting pid ∧ ((ρ.state t).procs pid).todo ≠ []

/-- it has the connection that its `get` returned and does what it wants with it -/
def Holding (pid t : ℕ) : Prop :=
  ((ρ.state t).procs pid).kind ≠ .checkpoint ∧
    ((ρ.state t).procs pid).todo.head? = some .use

/-- what is not in the hands of a holder is executed sooner or later -/
def Scheduled : Prop :=
  ∀ pid t, ρ.Enabled pid t → ¬ ρ.Holding pid t → ∃ u ≥ t, (ρ.event u).actor = some pid

/-- every holder but a checkpoint drops its connection sooner or later, whatever the others do -/
def Releasing : Prop :=
  ∀ pid t, ρ.Enabled pid t → ρ.Holding pid t → ∃ u ≥ t, (ρ.event u).actor = some pid

def Fair : Prop := ∀ pid t, ρ.Enabled pid t → ∃ u ≥ t, (ρ.event u).actor = some pid

theorem fair_of_scheduled (hs : ρ.Scheduled) (hr : ρ.Releasing) : ρ.Fair := by
  intro pid t hpid
  by_cases hh : ρ.Holding pid t
  · exact hr pid t hpid hh
  · exact hs pid t hpid hh

def len (pid t : ℕ) : ℕ := ((ρ.state t).procs pid).todo.length

def waiters (r : Sem) (t : ℕ) : List ℕ := ((ρ.state t).sems r).waiters

section
variable {ρ} {q t u : ℕ} {r : Sem}

theorem fate (hq : q < (ρ.state t).spawned) :
    Fate (ρ.event t) (ρ.state t) (ρ.state (t + 1)) q :=
  Pool.fate (ρ.inv t) (ρ.next t) hq

theorem spawned_le (hq : q < (ρ.state t).spawned) (htu : t ≤ u) : q < (ρ.state u).spawned := by
  induction u, htu using Nat.le_induction with
  | base => exact hq
  | succ u _ ih =>
    have hstep := step_cases (ρ.next u)
    generalize ρ.state (u + 1) = s', ρ.event u = e at hstep ⊢
    cases hstep with
    | spawn kind => exact Nat.lt_succ_of_lt ih
    | idle => exact ih
    | fail => exact ih
    | run =>
      rw [exec_spawned]
      exact ih

theorem proc_eq_or_len_lt (hq : q < (ρ.state t).spawned) (htu : t ≤ u) :
    (ρ.state u).procs q = (ρ.state t).procs q ∨ ρ.len q u < ρ.len q t := by
  induction u, htu using Nat.le_induction with
  | base => exact .inl rfl
  | succ u htu ih =>
    rcases (fate (spawned_le hq htu)).proc_cases with hproc | hlt
    · unfold len
      rw [hproc]
      exact ih
    · refine .inr (Nat.lt_of_lt_of_le hlt ?_)
      rcases ih with hproc | hlt'
      · rw [hproc]
        exact Nat.le_refl _
      · exact hlt'.le

theorem len_le (hq : q < (ρ.state t).spawned) (htu : t ≤ u) : ρ.len q u ≤ ρ.len q t := by
  rcases proc_eq_or_len_lt hq htu with hproc | hlt
  · exact (congrArg (·.todo.length) hproc).le
  · exact hlt.le

theorem waits (hq : q ∈ ρ.waiters r t) : q < (ρ.state t).spawned ∧
    ((ρ.state t).procs q).todo.head? = some (.acquire r) :=
  (ρ.inv t).waits r q hq

theorem mem_waiters_or_len_lt (hq : q ∈ ρ.waiters r t) (htu : t ≤ u) :
    q ∈ ρ.waiters r u ∨ ρ.len q u < ρ.len q t := by
  induction u, htu using Nat.le_induction with
  | base => exact .inl hq
  | succ u htu ih =>
    have hspawned := spawned_le (waits hq).1 htu
    rcases ih with hmem | hlt
    · rcases (fate hspawned).of_waits hmem with ⟨-, hmem', -⟩ | ⟨hlt, -⟩
      · exact .inl hmem'
      · exact .inr (Nat.lt_of_lt_of_le hlt (len_le (waits hq).1 htu))
    · exact .inr (Nat.lt_of_le_of_lt (len_le hspawned (Nat.le_succ u)) hlt)

theorem Fair.goes_on (hfair : ρ.Fair) (hq : ρ.Enabled q t) : ∃ u ≥ t, ρ.len q u < ρ.len q t ∨
    (ρ.state u).procs q = (ρ.state t).procs q ∧ (ρ.state u).Waiting q := by
  have hlead : LeadsTo
      (fun u => t ≤ u ∧ ¬ (ρ.state u).Waiting q ∧ (ρ.state u).procs q = (ρ.state t).procs q)
      fun u => ρ.len q u < ρ.len q t ∨
        (ρ.state u).procs q = (ρ.state t).procs q ∧ (ρ.state u).Waiting q := by
    have hact (u : ℕ) (htu : t ≤ u) (hproc : (ρ.state u).procs q = (ρ.state t).procs q)
        (he : (ρ.event u).actor = some q) : ρ.len q (u + 1) < ρ.len q t ∨
          (ρ.state (u + 1)).procs q = (ρ.state t).procs q ∧ (ρ.state (u + 1)).Waiting q := by
      have h := (fate (spawned_le hq.1 htu)).of_actor he
      rw [hproc] at h
      exact h
    refine LeadsTo.of_fair (fun u hu => ?_) (fun u hu => ?_)
      (fun u hu => hact u hu.1 hu.2.2)
    · obtain ⟨htu, hw, hproc⟩ := hu
      by_cases he : (ρ.event u).actor = some q
      · exact .inr (hact u htu hproc he)
      · obtain ⟨hproc', hw'⟩ := (fate (spawned_le hq.1 htu)).of_other he hw
        exact .inl ⟨Nat.le_succ_of_le htu, hw', hproc'.trans hproc⟩
    · obtain ⟨htu, hw, hproc⟩ := hu
      exact hfair q u ⟨spawned_le hq.1 htu, hw, by rw [hproc]; exact hq.2.2⟩
  exact hlead t ⟨Nat.le_refl t, hq.2.1, rfl⟩

theorem Fair.len_lt_of_waiting (hfair : ρ.Fair) (hq : q < (ρ.state t).spawned)
    (hne : ((ρ.state t).procs q).todo ≠ [])
    (hwait : ∀ u ≥ t, (ρ.state u).procs q = (ρ.state t).procs q → (ρ.state u).Waiting q →
      ∃ v ≥ u, ρ.len q v < ρ.len q u) : ∃ u ≥ t, ρ.len q u < ρ.len q t := by
  by_cases hw : (ρ.state t).Waiting q
  · exact hwait t (Nat.le_refl t) rfl hw
  obtain ⟨u, htu, hlt | ⟨hproc, hw'⟩⟩ := hfair.goes_on ⟨hq, hw, hne⟩
  · exact ⟨u, htu, hlt⟩
  · obtain ⟨v, huv, hlt⟩ := hwait u htu hproc hw'
    exact ⟨v, Nat.le_trans htu huv, Nat.lt_of_lt_of_le hlt (len_le hq htu)⟩

/-! ## who waits comes closer -/

theorem closer_of_holder {holder k : ℕ} (Hold : ℕ → Prop)
    (hstay : ∀ t, Hold t → Hold (t + 1) ∨ ρ.event t = .run holder ∧
      ((ρ.state t).procs holder).todo.head? = some (.release r))
    (hprog : ∀ t, Hold t → ∃ u ≥ t, ρ.len holder u < ρ.len holder t) :
    LeadsTo (fun t => Hold t ∧ q ∈ ρ.waiters r t ∧ (ρ.waiters r t).idxOf q = k)
      fun t => q ∈ ρ.waiters r t → (ρ.waiters r t).idxOf q < k := by
  refine LeadsTo.of_unless (ρ.len holder) (fun t ht => ?_) fun m t ht => ?_
  · obtain ⟨hhold, hq, rfl⟩ := ht
    by_cases hq' : q ∈ ρ.waiters r (t + 1)
    · rcases hstay t hhold with hhold' | ⟨he, hi⟩
      · rcases (fate (waits hq).1).of_waits hq with ⟨-, -, hle⟩ | ⟨-, hgone⟩
        · rcases Nat.lt_or_eq_of_le hle with hlt | heq
          · exact .inr fun _ => hlt
          · exact .inl ⟨hhold', hq', heq⟩
        · exact absurd hq' hgone
      · have hnext := ρ.next t
        rw [he] at hnext
        exact .inr fun _ => release_closer (ρ.inv t) hnext hi hq hq'
    · exact .inr fun h => absurd h hq'
  · obtain ⟨⟨hhold, -⟩, rfl⟩ := ht
    exact hprog t hhold

theorem len_lt_of_holders (Hold : ℕ → ℕ → Prop)
    (hex : ∀ t, ρ.waiters r t ≠ [] → ∃ holder, Hold holder t)
    (hstay : ∀ holder t, Hold holder t → Hold holder (t + 1) ∨ ρ.event t = .run holder ∧
      ((ρ.state t).procs holder).todo.head? = some (.release r))
    (hprog : ∀ holder t, Hold holder t → ∃ u ≥ t, ρ.len holder u < ρ.len holder t)
    (hq : q ∈ ρ.waiters r t) : ∃ u ≥ t, ρ.len q u < ρ.len q t := by
  have hleave : LeadsTo (fun t => q ∈ ρ.waiters r t) fun t => q ∉ ρ.waiters r t := by
    refine LeadsTo.of_lt (fun t => (ρ.waiters r t).idxOf q) fun k t ht => ?_
    obtain ⟨holder, hhold⟩ := hex t (List.ne_nil_of_mem ht.1)
    obtain ⟨u, htu, hcloser⟩ :=
      closer_of_holder (Hold holder) (hstay holder) (hprog holder) t ⟨hhold, ht⟩
    refine ⟨u, htu, ?_⟩
    by_cases hu : q ∈ ρ.waiters r u
    · exact .inr ⟨hu, hcloser hu⟩
    · exact .inl hu
  obtain ⟨u, htu, hgone⟩ := hleave t hq
  exact ⟨u, htu, (mem_waiters_or_len_lt hq htu).resolve_left hgone⟩

/-! ## nobody waits forever -/

theorem freeHolder_step {holder : ℕ} (h : FreeHolder n (ρ.state t) holder) :
    FreeHolder n (ρ.state (t + 1)) holder ∨ ρ.event t = .run holder ∧
      ((ρ.state t).procs holder).todo.head? = some (.release .semaphore) := by
  have hspawned := spawned_le h.1 (Nat.le_succ t)
  cases fate h.1 with
  | same _ hproc => exact .inl (h.congr hspawned hproc)
  | queued r _ _ hproc => exact .inl (h.congr hspawned hproc)
  | moved _ _ _ _ hc =>
    cases hc with
    | took r hi => exact absurd hi ((ρ.inv t).not_acquire h r)
    | kept hcount =>
      have hpermits : ((ρ.state (t + 1)).procs holder).permits = _ := hcount .semaphore
      have hguards : ((ρ.state (t + 1)).procs holder).guards = _ := hcount .writeMutex
      refine .inl ⟨hspawned, ?_⟩
      rw [hpermits, hguards]
      exact h.2
    | released r he hi =>
      cases r with
      | semaphore => exact .inr ⟨he, hi⟩
      | writeMutex => exact absurd (((ρ.inv t).ok holder h.1).ready hi).2 h.2.1.ne'

theorem todo_ne_nil_of_count (hq : q < (ρ.state t).spawned)
    (hpos : 0 < ((ρ.state t).procs q).count r) : ((ρ.state t).procs q).todo ≠ [] := by
  intro hnil
  have hok : Fits n _ _ := (ρ.inv t).ok q hq
  rw [hnil] at hok
  have hgrip : ((ρ.state t).procs q).grip = ⟨0, 0, 0, false⟩ := hok
  cases r with
  | semaphore => exact hpos.ne' (congrArg Grip.permits hgrip)
  | writeMutex => exact hpos.ne' (congrArg Grip.guards hgrip)

theorem Fair.freeHolder_goes_on (hfair : ρ.Fair) {holder : ℕ}
    (h : FreeHolder n (ρ.state t) holder) : ∃ u ≥ t, ρ.len holder u < ρ.len holder t := by
  refine hfair.len_lt_of_waiting h.1 (todo_ne_nil_of_count (r := .semaphore) h.1 h.2.1)
    fun u htu hproc hw => ?_
  exact absurd hw ((ρ.inv u).not_waiting (h.congr (spawned_le h.1 htu) hproc))

theorem Fair.len_lt_of_semaphore (hfair : ρ.Fair) (hq : q ∈ ρ.waiters .semaphore t) :
    ∃ u ≥ t, ρ.len q u < ρ.len q t :=
  len_lt_of_holders (fun holder t => FreeHolder n (ρ.state t) holder)
    (fun t hw => (ρ.inv t).exists_freeHolder hw) (fun _ _ => freeHolder_step)
    (fun _ _ => hfair.freeHolder_goes_on) hq

def Owner (pid t : ℕ) : Prop :=
  pid < (ρ.state t).spawned ∧ 0 < ((ρ.state t).procs pid).guards

theorem owner_step {holder : ℕ} (h : ρ.Owner holder t) :
    ρ.Owner holder (t + 1) ∨ ρ.event t = .run holder ∧
      ((ρ.state t).procs holder).todo.head? = some (.release .writeMutex) := by
  obtain ⟨hspawned, hpos⟩ := h
  have hspawned' := spawned_le hspawned (Nat.le_succ t)
  -- unless it unlocks, its guard is still there
  have hkeep (hle : ((ρ.state t).procs holder).guards ≤ ((ρ.state (t + 1)).procs holder).guards) :
      ρ.Owner holder (t + 1) := ⟨hspawned', Nat.lt_of_lt_of_le hpos hle⟩
  cases fate hspawned with
  | same _ hproc => exact .inl (hkeep (congrArg Proc.guards hproc).ge)
  | queued r _ _ hproc => exact .inl (hkeep (congrArg Proc.guards hproc).ge)
  | moved _ _ _ _ hc =>
    cases hc with
    | took r _ hcount => exact .inl (hkeep (hcount .writeMutex))
    | kept hcount => exact .inl (hkeep (hcount .writeMutex).ge)
    | released r he hi hcount =>
      cases r with
      | semaphore => exact .inl (hkeep (hcount .writeMutex nofun).ge)
      | writeMutex => exact .inr ⟨he, hi⟩

theorem Fair.owner_goes_on (hfair : ρ.Fair) {holder : ℕ} (h : ρ.Owner holder t) :
    ∃ u ≥ t, ρ.len holder u < ρ.len holder t := by
  refine hfair.len_lt_of_waiting h.1 (todo_ne_nil_of_count (r := .writeMutex) h.1 h.2)
    fun u htu hproc hw => ?_
  rcases hw with hmem | hmem
  · exact hfair.len_lt_of_semaphore hmem
  · have hready := ((ρ.inv u).ok holder (spawned_le h.1 htu)).ready (waits hmem).2
    rw [hproc] at hready
    exact absurd hready.2 h.2.ne'

theorem Fair.len_lt_of_writeMutex (hfair : ρ.Fair) (hq : q ∈ ρ.waiters .writeMutex t) :
    ∃ u ≥ t, ρ.len q u < ρ.len q t := by
  refine len_lt_of_holders (fun holder t => ρ.Owner holder t) (fun t hw => ?_)
    (fun _ _ => owner_step) (fun _ _ => hfair.owner_goes_on) hq
  have hone : (ρ.state t).total (Proc.count .writeMutex) = 1 := (ρ.inv t).total_of_waiters hw
  have hpos : 0 < (ρ.state t).total (Proc.count .writeMutex) := by
    rw [hone]
    exact Nat.one_pos
  exact exists_count_pos hpos

theorem Fair.len_lt (hfair : ρ.Fair) (hq : q < (ρ.state t).spawned)
    (hne : ((ρ.state t).procs q).todo ≠ []) : ∃ u ≥ t, ρ.len q u < ρ.len q t := by
  refine hfair.len_lt_of_waiting hq hne fun u _ _ hw => ?_
  rcases hw with hmem | hmem
  · exact hfair.len_lt_of_semaphore hmem
  · exact hfair.len_lt_of_writeMutex hmem

theorem Fair.finishes (hfair : ρ.Fair) (hq : q < (ρ.state t).spawned) :
    ∃ u ≥ t, ((ρ.state u).procs q).todo = [] := by
  have hlead : LeadsTo (fun t => q < (ρ.state t).spawned)
      fun t => ((ρ.state t).procs q).todo = [] := by
    refine LeadsTo.of_lt (ρ.len q) fun k t ht => ?_
    obtain ⟨hq, rfl⟩ := ht
    by_cases hnil : ((ρ.state t).procs q).todo = []
    · exact ⟨t, Nat.le_refl t, .inl hnil⟩
    · obtain ⟨u, htu, hlt⟩ := hfair.len_lt hq hnil
      exact ⟨u, htu, .inr ⟨spawned_le hq htu, hlt⟩⟩
  exact hlead t hq

theorem suffix_tail {code todo : List Instr} (h : code <:+ todo) (hne : todo ≠ code) :
    code <:+ todo.tail := by
  cases todo with
  | nil => exact h
  | cons i rest => exact (List.suffix_cons_iff.mp h).resolve_left (Ne.symm hne)

theorem Fair.reaches (hfair : ρ.Fair) (hq : q < (ρ.state t).spawned)
    (hno : ∀ u ≥ t, ρ.event u ≠ .fail q) {code : List Instr}
    (hcode : code <:+ ((ρ.state t).procs q).todo) :
    ∃ u ≥ t, ((ρ.state u).procs q).todo = code := by
  have hlead : LeadsTo
      (fun u => t ≤ u ∧ code <:+ ((ρ.state u).procs q).todo ∧ ((ρ.state u).procs q).todo ≠ code)
      fun u => ((ρ.state u).procs q).todo = code := by
    refine LeadsTo.of_unless (ρ.len q) (fun u hu => ?_) fun k u hu => ?_
    · obtain ⟨htu, hsuffix, hne⟩ := hu
      by_cases hu' : ((ρ.state (u + 1)).procs q).todo = code
      · exact .inr hu'
      · refine .inl ⟨Nat.le_succ_of_le htu, ?_, hu'⟩
        rcases (fate (spawned_le hq htu)).todo_cases (hno u htu) with hsame | htail
        · rw [hsame]
          exact hsuffix
        · rw [htail]
          exact suffix_tail hsuffix hne
    · obtain ⟨⟨htu, hsuffix, hne⟩, rfl⟩ := hu
      refine hfair.len_lt (spawned_le hq htu) fun hnil => hne ?_
      rw [hnil] at hsuffix ⊢
      exact (List.suffix_nil.mp hsuffix).symm
  by_cases ht : ((ρ.state t).procs q).todo = code
  · exact ⟨t, Nat.le_refl t, ht⟩
  · exact hlead t ⟨Nat.le_refl t, hcode, ht⟩

end

/-! ## schedules that come to an end -/

def after (n : ℕ) : State → List Event → State
  | s, [] => s
  | s, e :: rest => after n ((step n s e).getD s) rest

def Valid (n : ℕ) : State → List Event → Bool
  | _, [] => true
  | s, e :: rest =>
    match step n s e with
    | none => false
    | some s' => Valid n s' rest

theorem after_take_succ {events : List Event} {s : State} (h : Valid n s events = true) (t : ℕ) :
    step n (after n s (events.take t)) (events.getD t .idle) =
      some (after n s (events.take (t + 1))) := by
  induction events generalizing s t with
  | nil => simp [after, step]
  | cons e rest ih =>
    cases hs : step n s e with
    | none => simp [Valid, hs] at h
    | some s' =>
      simp only [Valid, hs] at h
      cases t with
      | zero => simp [after, hs]
      | succ t =>
        have hrest := ih h t
        simpa [after, hs] using hrest

def ofEvents {connections : List Conn} (size : connections.length = n + 1) {events : List Event}
    (h : Valid n (new connections) events = true) : Run n where
  connections := connections
  size := size
  state t := after n (new connections) (events.take t)
  event t := events.getD t .idle
  init := rfl
  next t := after_take_succ h t

theorem fair_of_finished {ρ : Run n} {T : ℕ}
    (hT : ∀ t ≥ T, (ρ.state t).spawned ≤ (ρ.state T).spawned)
    (hend : ∀ pid < (ρ.state T).spawned, ((ρ.state T).procs pid).todo = []) : ρ.Fair := by
  intro pid t hpid
  by_contra hnone
  -- nobody changes a process that waits for nothing
  have hstay : ∀ u ≥ t, (ρ.state u).procs pid = (ρ.state t).procs pid ∧
      ¬ (ρ.state u).Waiting pid := by
    intro u htu
    induction u, htu using Nat.le_induction with
    | base => exact ⟨rfl, hpid.2.1⟩
    | succ u htu ih =>
      have hother : (ρ.event u).actor ≠ some pid := fun he => hnone ⟨u, htu, he⟩
      obtain ⟨hproc, hw⟩ := (fate (spawned_le hpid.1 htu)).of_other hother ih.2
      exact ⟨hproc.trans ih.1, hw⟩
  have hspawned : pid < (ρ.state T).spawned := by
    rcases Nat.le_total t T with htT | hTt
    · exact spawned_le hpid.1 htT
    · exact Nat.lt_of_lt_of_le hpid.1 (hT t hTt)
  have hnil : ((ρ.state (max t T)).procs pid).todo = [] := by
    have hle := len_le hspawned (Nat.le_max_right t T)
    rw [len, len, hend pid hspawned] at hle
    exact List.length_eq_zero_iff.mp (Nat.le_zero.mp hle)
  rw [(hstay (max t T) (Nat.le_max_left t T)).1] at hnil
  exact hpid.2.2 hnil

/-! ## the pool as a whole -/

/-- **The pool is safe, and everybody is served.** -/
theorem safe_and_served (ρ : Run n) :
    (∀ t, (ρ.state t).writable ≤ 1 ∧
      (∀ pid < (ρ.state t).spawned, ((ρ.state t).procs pid).todo.head? = some .pop →
        (ρ.state t).connections ≠ []) ∧
      (ρ.state t).connections.length + (ρ.state t).taken = n + 1) ∧
    (ρ.Scheduled → ρ.Releasing → ∀ t, ∀ pid < (ρ.state t).spawned,
      (∃ u ≥ t, ((ρ.state u).procs pid).todo = []) ∧
      ((∀ u ≥ t, ρ.event u ≠ .fail pid) → ∀ code, code <:+ ((ρ.state t).procs pid).todo →
        ∃ u ≥ t, ((ρ.state u).procs pid).todo = code)) := by
  refine ⟨fun t => ?_, fun hs hr t pid hpid => ?_⟩
  · have h := (ρ.inv t).toCore
    exact ⟨h.writable_le_one, fun pid hpid hi => h.connections_ne_nil hpid hi, h.conns⟩
  · have hfair := ρ.fair_of_scheduled hs hr
    exact ⟨hfair.finishes hpid, fun hno code hcode => hfair.reaches hpid hno hcode⟩

/-! A writer, a checkpoint and a reader.  The checkpoint waits for the writer first, and for the
connection of the reader later. -/

namespace Sample

def connections : List Conn := (List.range nDbConnections).map fun i => ⟨i, false⟩

def turns : List (ℕ × ℕ) := [(0, 4), (1, 7), (0, 4), (2, 3), (1, 7), (2, 3), (1, 21)]

def events : List Event :=
  [.spawn .writer, .spawn .checkpoint, .spawn .reader] ++
    turns.flatMap fun (pid, k) => List.replicate k (Event.run pid)

theorem valid_events : Valid 2 (new connections) events = true := by decide +kernel

def run : Run 2 := ofEvents (show connections.length = 3 from rfl) valid_events

theorem todo_nil : ∀ pid < (after 2 (new connections) events).spawned,
    ((after 2 (new connections) events).procs pid).todo = [] := by decide +kernel

theorem fair_run : run.Fair := by
  have hend {t : ℕ} (ht : t ≥ events.length) :
      run.state t = after 2 (new connections) events :=
    congrArg (after 2 (new connections)) (List.take_of_length_le ht)
  refine fair_of_finished (T := events.length) (fun t ht => ?_) ?_
  · rw [hend ht, hend (Nat.le_refl _)]
  · rw [hend (Nat.le_refl _)]
    exact todo_nil

theorem event_ne_fail (t : ℕ) : run.event t ≠ .fail 1 := by
  have hall : ∀ e ∈ events, e ≠ .fail 1 := by decide +kernel
  show events.getD t .idle ≠ .fail 1
  rcases Nat.lt_or_ge t events.length with hlt | hge
  · rw [List.getD_eq_getElem _ _ hlt]
    exact hall _ (List.getElem_mem hlt)
  · rw [List.getD_eq_default _ _ hge]
    exact nofun

end Sample

theorem safe_and_served_sample : Sample.run.Scheduled ∧ Sample.run.Releasing ∧
    ∃ u ≥ 3, ((Sample.run.state u).procs 1).todo = [.release .writeMutex] := by
  have hs : Sample.run.Scheduled := fun pid t hpid _ => Sample.fair_run pid t hpid
  have hr : Sample.run.Releasing := fun pid t hpid _ => Sample.fair_run pid t hpid
  exact ⟨hs, hr, ((safe_and_served Sample.run).2 hs hr 3 1 (by decide +kernel)).2
    (fun u _ => Sample.event_ne_fail u) _ (by decide +kernel)⟩

end Run

end Pool

end EpsilonChat
