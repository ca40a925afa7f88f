import Mathlib.Data.List.Nodup

/-!
# A semaphore that serves first come first served

Permits that are free, and the queue of those who wait for one.  A permit that comes back goes to
the first of the queue; it becomes free only if nobody waits.  A mutex is such a semaphore with ONE
permit.

* `Semaphore.Ok`: nobody waits while a permit is free, and each waits once;
* `Semaphore.release_cases`, `Semaphore.idxOf_leave_le` the place in the queue never gets worse.
-/

set_option linter.unusedSectionVars false

namespace Lib

structure Semaphore (κ : Type) where
  available : ℕ
  /-- who waits, the next one first -/
  waiters : List κ

namespace Semaphore

def new {κ : Type} (permits : ℕ) : Semaphore κ := ⟨permits, []⟩

def Free {κ : Type} (s : Semaphore κ) : Prop := s.waiters.isEmpty = true ∧ 0 < s.available

instance {κ : Type} (s : Semaphore κ) : Decidable s.Free :=
  inferInstanceAs (Decidable (_ ∧ _))

def take {κ : Type} (s : Semaphore κ) : Semaphore κ := { s with available := s.available - 1 }

def enqueue {κ : Type} (s : Semaphore κ) (k : κ) : Semaphore κ :=
  { s with waiters := s.waiters ++ [k] }

def release {κ : Type} (s : Semaphore κ) : Option κ × Semaphore κ :=
  match s.waiters with
  | [] => (none, { s with available := s.available + 1 })
  | k :: rest => (some k, { s with waiters := rest })

theorem release_of_nil {κ : Type} {s : Semaphore κ} (h : s.waiters = []) :
    s.release = (none, { s with available := s.available + 1 }) := by
  simp only [release, h]

theorem release_of_cons {κ : Type} {s : Semaphore κ} {k : κ} {rest : List κ}
    (h : s.waiters = k :: rest) : s.release = (some k, { s with waiters := rest }) := by
  simp only [release, h]

section
variable {κ : Type} [DecidableEq κ]

def leave (s : Semaphore κ) (k : κ) : Semaphore κ := { s with waiters := s.waiters.erase k }

structure Ok (s : Semaphore κ) : Prop where
  nodup : s.waiters.Nodup
  full : s.waiters ≠ [] → s.available = 0

theorem ok_new (permits : ℕ) : (new permits : Semaphore κ).Ok :=
  ⟨List.nodup_nil, fun h => absurd rfl h⟩

variable {s : Semaphore κ} {k q : κ}

theorem Free.waiters_eq (h : s.Free) : s.waiters = [] := List.isEmpty_iff.mp h.1

theorem Ok.take (hs : s.Ok) (h : s.Free) : s.take.Ok :=
  ⟨hs.nodup, fun hne => absurd h.waiters_eq hne⟩

theorem Ok.enqueue (hs : s.Ok) (h : ¬ s.Free) (hk : k ∉ s.waiters) : (s.enqueue k).Ok := by
  refine ⟨hs.nodup.append (List.nodup_singleton k) ?_, fun _ => ?_⟩
  · intro x hx hk'
    rw [List.mem_singleton.mp hk'] at hx
    exact hk hx
  · show s.available = 0
    by_cases hw : s.waiters = []
    · have h0 : ¬ 0 < s.available := fun hpos => h ⟨List.isEmpty_iff.mpr hw, hpos⟩
      omega
    · exact hs.full hw

theorem Ok.release (hs : s.Ok) : s.release.2.Ok := by
  cases hw : s.waiters with
  | nil =>
    rw [release_of_nil hw]
    exact ⟨hs.nodup, fun hne => absurd hw hne⟩
  | cons x rest =>
    rw [release_of_cons hw]
    refine ⟨(List.nodup_cons.mp (hw ▸ hs.nodup)).2, fun _ => hs.full ?_⟩
    rw [hw]
    exact List.cons_ne_nil x rest

theorem Ok.leave (hs : s.Ok) : (s.leave k).Ok := by
  refine ⟨hs.nodup.erase k, fun hne => hs.full fun hw => hne ?_⟩
  show s.waiters.erase k = []
  rw [hw]
  rfl

theorem Ok.not_mem_leave (hs : s.Ok) : k ∉ (s.leave k).waiters := hs.nodup.not_mem_erase

theorem mem_leave (h : q ≠ k) : q ∈ (s.leave k).waiters ↔ q ∈ s.waiters := List.mem_erase_of_ne h

theorem release_cases (h : q ∈ s.waiters) :
    s.release.1 = some q ∨ q ∈ s.release.2.waiters ∧
      s.release.2.waiters.idxOf q < s.waiters.idxOf q := by
  cases hw : s.waiters with
  | nil =>
    rw [hw] at h
    exact absurd h List.not_mem_nil
  | cons x rest =>
    rw [release_of_cons hw]
    by_cases hx : x = q
    · exact .inl (congrArg some hx)
    · rw [hw] at h
      refine .inr ⟨(List.mem_cons.mp h).resolve_left (Ne.symm hx), ?_⟩
      rw [List.idxOf_cons_ne rest hx]
      exact Nat.lt_succ_self _

theorem mem_of_mem_release (h : q ∈ s.release.2.waiters) : q ∈ s.waiters := by
  cases hw : s.waiters with
  | nil =>
    rw [release_of_nil hw] at h
    exact hw ▸ h
  | cons x rest =>
    rw [release_of_cons hw] at h
    exact List.mem_cons_of_mem x h

theorem Ok.not_mem_release (hs : s.Ok) (h : s.release.1 = some q) :
    q ∈ s.waiters ∧ q ∉ s.release.2.waiters := by
  cases hw : s.waiters with
  | nil =>
    rw [release_of_nil hw] at h
    cases h
  | cons x rest =>
    rw [release_of_cons hw] at h ⊢
    cases h
    exact ⟨List.mem_cons_self, (List.nodup_cons.mp (hw ▸ hs.nodup)).1⟩

theorem idxOf_enqueue (h : q ∈ s.waiters) : (s.enqueue k).waiters.idxOf q = s.waiters.idxOf q :=
  List.idxOf_append_of_mem h

theorem idxOf_leave_le (h : q ≠ k) : (s.leave k).waiters.idxOf q ≤ s.waiters.idxOf q := by
  show (s.waiters.erase k).idxOf q ≤ s.waiters.idxOf q
  induction s.waiters with
  | nil => exact Nat.le_refl _
  | cons x rest ih =>
    by_cases hx : x = k
    · subst hx
      rw [List.erase_cons_head, List.idxOf_cons_ne rest (Ne.symm h)]
      exact Nat.le_succ _
    · rw [List.erase_cons_tail (by simpa using hx)]
      by_cases hq : x = q
      · rw [hq, List.idxOf_cons_self]
        exact Nat.zero_le _
      · rw [List.idxOf_cons_ne _ hq, List.idxOf_cons_ne _ hq]
        exact Nat.succ_le_succ ih

end

end Semaphore

end Lib
