import Mathlib
import EpsilonChat.Sql.Pool

/-!
# The pool of database connections: its account

What every process has, what the rest of its program gives back, and the sums over all processes.
Each step keeps both, whoever takes it.

* `fits_program`, `Proc.fits_destructors`: the programs, and what an early end executes, give back
  everything;
* `Inv.step`: every step keeps the account;
* `Core.connections_ne_nil`: a permit comes with a connection;
* **`Core.writable_le_one`**: ONE connection at most can write.
-/

namespace EpsilonChat

namespace Pool

open Lib (Semaphore)

/-! ## what a process has and what it will give back -/

structure Grip where
  conns : ℕ
  permits : ℕ
  guards : ℕ
  /-- it has a connection that can write -/
  writable : Bool

namespace Grip

/-- each connection has its permit; only the holder of the write guard writes, on ONE connection -/
def Wf (g : Grip) : Prop := g.conns ≤ g.permits ∧ (g.writable = true → 0 < g.guards ∧ g.conns = 1)

def after : Instr → Grip → Grip
  | .acquire .semaphore, g => { g with permits := g.permits + 1 }
  | .acquire .writeMutex, g => { g with guards := g.guards + 1 }
  | .pop, g => { g with conns := g.conns + 1 }
  | .pragma queryOnly, g => { g with writable := !queryOnly }
  | .use, g => g
  | .put _, g => { g with conns := g.conns - 1, writable := false }
  | .release .semaphore, g => { g with permits := g.permits - 1 }
  | .release .writeMutex, g => { g with guards := g.guards - 1 }

end Grip

/-- what an instruction asks of the one who executes it.  The write mutex is locked with empty
hands, and only its owner asks for a permit while having one. -/
def Ready (n : ℕ) : Instr → Grip → Prop
  | .acquire .semaphore, g => (g.permits = 0 ∨ 0 < g.guards) ∧ g.permits ≤ n
  | .acquire .writeMutex, g => g.permits = 0 ∧ g.guards = 0
  | .pop, g => g.conns < g.permits ∧ g.writable = false
  | .pragma queryOnly, g =>
    0 < g.conns ∧ g.writable = false ∧ (queryOnly = false → 0 < g.guards ∧ g.conns = 1)
  | .use, _ => True
  | .put i, g => i < g.conns
  | .release .semaphore, g => g.conns < g.permits
  | .release .writeMutex, g => 0 < g.guards ∧ g.permits = 0

/-- the instructions can be executed and leave nothing behind -/
def Fits (n : ℕ) : List Instr → Grip → Prop
  | [], g => g = ⟨0, 0, 0, false⟩
  | i :: rest, g => g.Wf ∧ Ready n i g ∧ Fits n rest (g.after i)

section
variable {n : ℕ} {code rest : List Instr} {g : Grip}
variable {c p l : ℕ} {w : Bool}

theorem Fits.wf (h : Fits n code g) : g.Wf := by
  cases code with
  | nil =>
    rw [show g = ⟨0, 0, 0, false⟩ from h]
    exact ⟨Nat.le_refl 0, fun h => by cases h⟩
  | cons i rest => exact h.1

theorem Fits.length_le (h : Fits n code g) : g.conns + g.permits + g.guards ≤ code.length := by
  induction code generalizing g with
  | nil =>
    rw [show g = ⟨0, 0, 0, false⟩ from h]
    exact Nat.le_refl 0
  | cons i rest ih =>
    have hrest := ih h.2.2
    rcases i with (_ | _) | _ | _ | _ | _ | (_ | _) <;>
      simp only [Grip.after, List.length_cons] at hrest ⊢ <;> omega

theorem Fits.length_lt_of_fallible {i : Instr} (h : Fits n (i :: rest) g)
    (hi : i.fallible = true) : g.conns + g.permits + g.guards < (i :: rest).length := by
  have hrest := h.2.2.length_le
  rcases i with (_ | _) | _ | _ | _ | _ | (_ | _) <;>
    simp only [Instr.fallible, Bool.false_eq_true] at hi <;>
    simp only [Grip.after, List.length_cons] at hrest ⊢ <;> omega

theorem rep_succ (k : ℕ) (code : List Instr) : rep (k + 1) code = code ++ rep k code := by
  simp only [rep, List.replicate_succ, List.flatten_cons]

theorem length_rep (k : ℕ) (code : List Instr) : (rep k code).length = k * code.length := by
  induction k with
  | zero => simp [rep]
  | succ k ih => rw [rep_succ, List.length_append, ih, Nat.succ_mul, Nat.add_comm]

theorem wf_of_le (l : ℕ) (h : c ≤ p) : (Grip.mk c p l false).Wf :=
  ⟨h, fun hw => by cases hw⟩

theorem Grip.Wf.writable_eq (h : (Grip.mk c p l w).Wf) (hc : c ≠ 1) : w = false := by
  cases w with
  | false => rfl
  | true => exact absurd (h.2 rfl).2 hc

theorem fits_get_true (hc : c = 0 ∨ 0 < l) (hn : c ≤ n) (h : Fits n rest ⟨c + 1, c + 1, l, false⟩) :
    Fits n (get true ++ rest) ⟨c, c, l, false⟩ :=
  ⟨wf_of_le l (Nat.le_refl c), ⟨hc, hn⟩,
    wf_of_le l (Nat.le_succ c), ⟨Nat.lt_succ_self c, rfl⟩,
    wf_of_le l (Nat.le_refl _), ⟨Nat.succ_pos c, rfl, fun h => by cases h⟩, h⟩

theorem fits_rep_get {k : ℕ} (hl : 0 < l) (hn : c + k ≤ n + 1)
    (h : Fits n rest ⟨c + k, c + k, l, false⟩) :
    Fits n (rep k (get true) ++ rest) ⟨c, c, l, false⟩ := by
  induction k generalizing c with
  | zero => exact h
  | succ k ih =>
    rw [rep_succ, List.append_assoc]
    refine fits_get_true (.inr hl) (by omega) (ih (by omega) ?_)
    rw [show c + 1 + k = c + (k + 1) by omega]
    exact h

theorem fits_dropRead {i : ℕ} (hwf : (Grip.mk (c + 1) (p + 1) l w).Wf)
    (hi : i ≤ c) (h : Fits n rest ⟨c, p, l, false⟩) :
    Fits n (dropRead i ++ rest) ⟨c + 1, p + 1, l, w⟩ := by
  have hcp : c ≤ p := Nat.le_of_succ_le_succ hwf.1
  exact ⟨hwf, Nat.lt_succ_of_le hi, wf_of_le l (Nat.le_succ_of_le hcp), Nat.lt_succ_of_le hcp, h⟩

theorem fits_rep_dropRead (k : ℕ) (hc : c + 1 ≤ p) (h : Fits n rest ⟨c + 1, p, l, false⟩) :
    Fits n (rep k (dropRead 1) ++ rest) ⟨c + 1 + k, p + k, l, false⟩ := by
  induction k with
  | zero => exact h
  | succ k ih =>
    rw [rep_succ, List.append_assoc]
    have hle : c + 1 + k ≤ p + k := Nat.add_le_add_right hc k
    have hone : 1 ≤ c + 1 + k := by omega
    exact fits_dropRead (wf_of_le l (Nat.succ_le_succ hle)) hone ih

theorem fits_dropAll {k : ℕ} (hwf : (Grip.mk k k l w).Wf) (h : Fits n rest ⟨0, 0, l, false⟩) :
    Fits n (Proc.dropAll k ++ rest) ⟨k, k, l, w⟩ := by
  match k with
  | 0 =>
    rw [hwf.writable_eq (by decide)]
    exact h
  | 1 => exact fits_dropRead hwf (Nat.le_refl 0) h
  | k + 2 =>
    -- more than one connection: none of them writes
    rw [hwf.writable_eq (by simp), Proc.dropAll, List.append_assoc]
    have hone : Fits n (dropRead 0 ++ rest) ⟨0 + 1, 0 + 1, l, false⟩ :=
      fits_dropRead (wf_of_le l (Nat.le_refl 1)) (Nat.le_refl 0) h
    have hall := fits_rep_dropRead (k + 1) (Nat.le_refl 1) hone
    rw [show 0 + 1 + (k + 1) = k + 2 by omega] at hall
    exact hall

theorem fits_rep_release (k : ℕ) (h : Fits n rest ⟨c, p, l, w⟩) :
    Fits n (rep k [.release .semaphore] ++ rest) ⟨c, p + k, l, w⟩ := by
  have hwf : (Grip.mk c p l w).Wf := h.wf
  induction k with
  | zero => exact h
  | succ k ih =>
    rw [rep_succ, List.append_assoc]
    have hcp : c ≤ p + k := Nat.le_trans hwf.1 (Nat.le_add_right p k)
    exact ⟨⟨Nat.le_succ_of_le hcp, hwf.2⟩, Nat.lt_succ_of_le hcp, ih⟩

theorem fits_rep_unlock (n l : ℕ) : Fits n (rep l [.release .writeMutex]) ⟨0, 0, l, false⟩ := by
  induction l with
  | zero => rfl
  | succ l ih =>
    rw [rep_succ]
    exact ⟨wf_of_le (l + 1) (Nat.le_refl 0), ⟨Nat.succ_pos l, rfl⟩, ih⟩

theorem fits_program (n : ℕ) (kind : Kind) : Fits n (program n kind) ⟨0, 0, 0, false⟩ := by
  have hnil : Fits n [] ⟨0, 0, 0, false⟩ := rfl
  have hwf : ∀ c l, (Grip.mk c c l false).Wf := fun c l => wf_of_le l (Nat.le_refl c)
  cases kind with
  | reader =>
    refine fits_get_true (.inl rfl) (Nat.zero_le n) ⟨hwf 1 0, trivial, ?_⟩
    exact fits_dropRead (hwf 1 0) (Nat.le_refl 0) hnil
  | writer =>
    have hwrite : (Grip.mk 1 1 1 true).Wf := ⟨Nat.le_refl 1, fun _ => ⟨Nat.one_pos, rfl⟩⟩
    have hdrop : Fits n dropWrite ⟨1, 1, 1, true⟩ :=
      fits_dropRead hwrite (Nat.le_refl 0) (fits_rep_unlock n 1)
    exact ⟨hwf 0 0, ⟨rfl, rfl⟩, hwf 0 1, ⟨.inl rfl, Nat.zero_le n⟩,
      wf_of_le 1 (Nat.zero_le 1), ⟨Nat.one_pos, rfl⟩,
      hwf 1 1, ⟨Nat.one_pos, rfl, fun _ => ⟨Nat.one_pos, rfl⟩⟩, hwrite, trivial, hdrop⟩
  | checkpoint =>
    have hall (rest : List Instr) (h : Fits n rest ⟨1, 1, 1, false⟩) :
        Fits n (rep n (dropRead 1) ++ rest) ⟨n + 1, n + 1, 1, false⟩ := by
      rw [Nat.add_comm n 1]
      exact fits_rep_dropRead n (Nat.le_refl 1) h
    have hfill (rest : List Instr) (h : Fits n rest ⟨n + 1, n + 1, 1, false⟩) :
        Fits n (rep n (get true) ++ rest) ⟨1, 1, 1, false⟩ := by
      rw [Nat.add_comm n 1] at h
      exact fits_rep_get Nat.one_pos (by omega) h
    have hend : Fits n (dropRead 0 ++ [.release .writeMutex]) ⟨1, 1, 1, false⟩ :=
      fits_dropRead (hwf 1 1) (Nat.le_refl 0) (fits_rep_unlock n 1)
    simp only [program, walCheckpoint, List.append_assoc, List.cons_append]
    refine fits_get_true (.inl rfl) (Nat.zero_le n) ⟨hwf 1 0, trivial, ?_⟩
    refine fits_dropRead (hwf 1 0) (Nat.le_refl 0) ⟨hwf 0 0, ⟨rfl, rfl⟩, ?_⟩
    refine fits_get_true (.inl rfl) (Nat.zero_le n) ?_
    refine hfill _ (hall _ ⟨hwf 1 1, trivial, ?_⟩)
    exact hfill _ ⟨hwf (n + 1) 1, trivial, hall _ hend⟩

theorem length_dropAll (k : ℕ) : (Proc.dropAll k).length = 2 * k := by
  cases k with
  | zero => rfl
  | succ k =>
    rw [Proc.dropAll, List.length_append, length_rep]
    simp only [dropRead, List.length_cons, List.length_nil]
    omega

end

namespace Proc

variable {n : ℕ} {p : Proc} {rest : List Instr}

def grip (p : Proc) : Grip := ⟨p.held.length, p.permits, p.guards, p.held.any Taken.writable⟩

theorem length_pos_of_getLast? {held : List Taken} {f : Taken → Bool}
    (h : held.getLast?.any f = true) : 0 < held.length := by
  cases held with
  | nil => cases h
  | cons c rest => exact Nat.succ_pos _

theorem fits_dropHeld {held : List Taken} {l : ℕ} {w : Bool}
    (hwf : (Grip.mk held.length held.length l w).Wf) (h : Fits n rest ⟨0, 0, l, false⟩) :
    Fits n (dropHeld held ++ rest) ⟨held.length, held.length, l, w⟩ := by
  unfold dropHeld
  split
  · next hlast =>
    obtain ⟨k, hk⟩ := Nat.exists_eq_succ_of_ne_zero (length_pos_of_getLast? hlast).ne'
    rw [hk] at hwf ⊢
    rw [List.append_assoc]
    exact fits_dropRead hwf (Nat.le_refl k) (fits_dropAll (wf_of_le l (Nat.le_refl k)) h)
  · exact fits_dropAll hwf h

theorem length_dropHeld (held : List Taken) : (dropHeld held).length = 2 * held.length := by
  unfold dropHeld
  split
  · next hlast =>
    have hpos := length_pos_of_getLast? hlast
    rw [List.length_append, length_dropAll]
    simp only [dropRead, List.length_cons, List.length_nil]
    omega
  · exact length_dropAll _

theorem fits_destructors (hwf : p.grip.Wf) : Fits n p.destructors p.grip := by
  have hle : p.held.length ≤ p.permits := hwf.1
  have hheld : Fits n (dropHeld p.held ++ rep p.guards [.release .writeMutex])
      ⟨p.held.length, p.held.length, p.guards, p.held.any Taken.writable⟩ :=
    fits_dropHeld ⟨Nat.le_refl _, hwf.2⟩ (fits_rep_unlock n p.guards)
  have hall := fits_rep_release (p.permits - p.held.length) hheld
  rw [Nat.add_sub_cancel' hle] at hall
  exact hall

theorem length_destructors (hwf : p.grip.Wf) :
    p.destructors.length = p.grip.conns + p.grip.permits + p.grip.guards := by
  have hle : p.held.length ≤ p.permits := hwf.1
  simp only [destructors, List.length_append, length_rep, length_dropHeld, List.length_cons,
    List.length_nil, grip]
  omega

def Ok (n : ℕ) (p : Proc) : Prop := Fits n p.todo p.grip

theorem ok_start (n : ℕ) (kind : Kind) : (start n kind).Ok n := fits_program n kind

theorem ok_unwind (h : p.Ok n) : p.unwind.Ok n := fits_destructors h.wf

section
variable {i : Instr}

theorem Ok.ready (h : p.Ok n) (hi : p.todo.head? = some i) : Ready n i p.grip := by
  obtain ⟨rest, hrest⟩ := List.head?_eq_some_iff.mp hi
  unfold Ok at h
  rw [hrest] at h
  exact h.2.1

theorem Ok.after (h : p.Ok n) (hi : p.todo.head? = some i) :
    Fits n p.todo.tail (p.grip.after i) := by
  obtain ⟨rest, hrest⟩ := List.head?_eq_some_iff.mp hi
  unfold Ok at h
  rw [hrest] at h ⊢
  exact h.2.2

theorem Ok.length_unwind (h : p.Ok n) (hi : p.todo.head? = some i) (hf : i.fallible = true) :
    p.unwind.todo.length < p.todo.length := by
  obtain ⟨rest, hrest⟩ := List.head?_eq_some_iff.mp hi
  have hfits : Fits n (i :: rest) p.grip := hrest ▸ show Fits n p.todo p.grip from h
  have hlt := hfits.length_lt_of_fallible hf
  rw [← hrest, ← length_destructors h.wf] at hlt
  exact hlt

end

theorem Ok.take {r : Sem} (h : p.Ok n) (hi : p.todo.head? = some (.acquire r)) :
    (p.take r).Ok n := by
  cases r <;> exact h.after hi

theorem Ok.giveBack {r : Sem} (h : p.Ok n) (hi : p.todo.head? = some (.release r)) :
    (p.giveBack r).Ok n := by
  cases r <;> exact h.after hi

theorem Ok.next (h : p.Ok n) (hi : p.todo.head? = some .use) : p.next.Ok n := h.after hi

theorem Ok.pop (c : Conn) (h : p.Ok n) (hi : p.todo.head? = some .pop) : (p.pop c).Ok n := by
  have hgrip : (p.pop c).grip = p.grip.after .pop := by
    simp [grip, Proc.pop, Grip.after, Taken.writable]
  unfold Ok
  rw [hgrip]
  exact h.after hi

theorem length_held_pragma (b : Bool) (p : Proc) : (p.pragma b).held.length = p.held.length := by
  rcases List.eq_nil_or_concat p.held with hnil | ⟨front, c, hheld⟩
  · simp [Proc.pragma, hnil]
  · simp [Proc.pragma, hheld]

theorem Ok.pragma {b : Bool} (h : p.Ok n) (hi : p.todo.head? = some (.pragma b)) :
    (p.pragma b).Ok n := by
  obtain ⟨hpos, hw, -⟩ := h.ready hi
  have hgrip : (p.pragma b).grip = p.grip.after (.pragma b) := by
    rcases List.eq_nil_or_concat p.held with hnil | ⟨front, c, hheld⟩
    · exact absurd hpos (by simp [grip, hnil])
    · have hfront : front.any Taken.writable = false := by
        have hw' : p.held.any Taken.writable = false := hw
        rw [hheld, List.concat_eq_append, List.any_append, Bool.or_eq_false_iff] at hw'
        exact hw'.1
      simp [grip, Proc.pragma, Grip.after, hheld, hfront, Taken.writable]
  unfold Ok
  rw [hgrip]
  exact h.after hi

theorem any_writable_eraseIdx (hwf : p.grip.Wf) {j : ℕ} (hj : j < p.held.length) :
    (p.held.eraseIdx j).any Taken.writable = false := by
  cases hw : p.held.any Taken.writable with
  | false =>
    rw [List.any_eq_false] at hw ⊢
    intro c hc
    exact hw c (List.mem_of_mem_eraseIdx hc)
  | true =>
    have hone : p.held.length = 1 := (hwf.2 hw).2
    have hlen : (p.held.eraseIdx j).length = 0 := by rw [List.length_eraseIdx_of_lt hj, hone]
    rw [List.length_eq_zero_iff.mp hlen]
    rfl

theorem Ok.put {j : ℕ} (h : p.Ok n) (hi : p.todo.head? = some (.put j)) : (p.put j).Ok n := by
  have hj : j < p.held.length := h.ready hi
  have hgrip : (p.put j).grip = p.grip.after (.put j) := by
    simp only [grip, Proc.put, Grip.after, any_writable_eraseIdx h.wf hj,
      List.length_eraseIdx_of_lt hj]
  unfold Ok
  rw [hgrip]
  exact h.after hi

theorem count_take (r r' : Sem) (p : Proc) :
    (p.take r).count r' = p.count r' + if r' = r then 1 else 0 := by
  cases r <;> cases r' <;> rfl

theorem count_giveBack {r : Sem} (r' : Sem) (hpos : 0 < p.count r) :
    (p.giveBack r).count r' + (if r' = r then 1 else 0) = p.count r' := by
  cases r <;> cases r' <;> first | rfl | exact Nat.sub_add_cancel hpos

theorem Ok.count_pos {r : Sem} (h : p.Ok n) (hi : p.todo.head? = some (.release r)) :
    0 < p.count r := by
  have hready := h.ready hi
  cases r with
  | semaphore => exact Nat.zero_lt_of_lt hready
  | writeMutex => exact hready.1

end Proc

/-! ## the account of the whole pool -/

def capacity (n : ℕ) : Sem → ℕ
  | .semaphore => n + 1
  | .writeMutex => 1

def State.total (s : State) (f : Proc → ℕ) : ℕ := ∑ i ∈ Finset.range s.spawned, f (s.procs i)

/-- the connections that are out of the pool -/
def State.taken (s : State) : ℕ := s.total fun p => p.held.length

structure Core (n : ℕ) (s : State) : Prop where
  conns : s.connections.length + s.taken = n + 1
  permits : ∀ r, (s.sems r).available + s.total (Proc.count r) = capacity n r
  ok : ∀ pid < s.spawned, (s.procs pid).Ok n
  waits : ∀ r, ∀ q ∈ (s.sems r).waiters, q < s.spawned ∧
    (s.procs q).todo.head? = some (.acquire r)

structure Inv (n : ℕ) (s : State) : Prop extends Core n s where
  fair : ∀ r, (s.sems r).Ok

section
variable {n : ℕ} {s : State} {pid : ℕ}
variable {connections : List Conn} {r : Sem} {x : Semaphore ℕ}

theorem waiting_iff : s.Waiting pid ↔ ∃ r, pid ∈ (s.sems r).waiters := by
  constructor
  · rintro (h | h)
    · exact ⟨.semaphore, h⟩
    · exact ⟨.writeMutex, h⟩
  · rintro ⟨_ | _, h⟩
    · exact .inl h
    · exact .inr h

theorem not_mem_of_not_waiting (hw : ¬ s.Waiting pid) (r : Sem) : pid ∉ (s.sems r).waiters :=
  fun hmem => hw (waiting_iff.mpr ⟨r, hmem⟩)

theorem total_update (f : Proc → ℕ) (hpid : pid < s.spawned) (p : Proc) :
    (∑ i ∈ Finset.range s.spawned, f (Function.update s.procs pid p i)) + f (s.procs pid) =
      s.total f + f p := by
  have hmem : pid ∈ Finset.range s.spawned := Finset.mem_range.mpr hpid
  have hrest : ∀ i ∈ (Finset.range s.spawned).erase pid,
      f (Function.update s.procs pid p i) = f (s.procs i) := by
    intro i hi
    rw [Function.update_of_ne (Finset.ne_of_mem_erase hi)]
  rw [State.total, ← Finset.sum_erase_add _ _ hmem, ← Finset.sum_erase_add _ _ hmem,
    Finset.sum_congr rfl hrest, Function.update_self]
  omega

theorem Core.set (h : Core n s) (hpid : pid < s.spawned) {sems : Sem → Semaphore ℕ} {p : Proc}
    (hok : p.Ok n)
    (hconns : connections.length + p.held.length = s.connections.length + (s.procs pid).held.length)
    (hpermits : ∀ r, (sems r).available + p.count r = (s.sems r).available + (s.procs pid).count r)
    (hwaits : ∀ r, ∀ q ∈ (sems r).waiters, q ∈ (s.sems r).waiters ∧ q ≠ pid) :
    Core n ⟨connections, sems, s.spawned, Function.update s.procs pid p⟩ where
  conns := by
    have htotal := total_update (fun p => p.held.length) hpid p
    have hconns' := h.conns
    simp only [State.taken, State.total] at htotal hconns' ⊢
    omega
  permits r := by
    have htotal := total_update (Proc.count r) hpid p
    have hpermits' := h.permits r
    have hr := hpermits r
    simp only [State.total] at htotal hpermits' ⊢
    omega
  ok i hi := by
    by_cases hip : i = pid
    · subst hip
      simpa using hok
    · simpa [Function.update_of_ne hip] using h.ok i hi
  waits r q hq := by
    obtain ⟨hmem, hne⟩ := hwaits r q hq
    simpa [Function.update_of_ne hne] using h.waits r q hmem

theorem Core.modify (h : Core n s) (hpid : pid < s.spawned) (hw : ¬ s.Waiting pid)
    {f : Proc → Proc} (hok : (f (s.procs pid)).Ok n)
    (hconns : connections.length + (f (s.procs pid)).held.length =
      s.connections.length + (s.procs pid).held.length)
    (hcount : ∀ r, (f (s.procs pid)).count r = (s.procs pid).count r) :
    Core n ({ s with connections := connections }.modify pid f) := by
  refine h.set hpid hok hconns (fun r => ?_) fun r q hq => ⟨hq, ?_⟩
  · rw [hcount r]
  · rintro rfl
    exact not_mem_of_not_waiting hw r hq

theorem Inv.unwind (h : Inv n s) (hpid : pid < s.spawned) : Inv n (s.unwind pid) where
  toCore := by
    refine h.toCore.set hpid (Proc.ok_unwind (h.ok pid hpid)) rfl (fun r => ?_) fun r q hq => ?_
    · cases r <;> rfl
    · have hne : q ≠ pid := by
        rintro rfl
        exact (h.fair r).not_mem_leave hq
      exact ⟨(Semaphore.mem_leave hne).mp hq, hne⟩
  fair r := (h.fair r).leave

theorem Core.sem_unique (h : Core n s) {r' : Sem} {q : ℕ} (hr : q ∈ (s.sems r).waiters)
    (hr' : q ∈ (s.sems r').waiters) : r' = r := by
  have heq := (h.waits r' q hr').2.symm.trans (h.waits r q hr).2
  cases heq
  rfl

theorem forall_setSem (P : Sem → Semaphore ℕ → Prop) (hr : P r x)
    (hs : ∀ r' ≠ r, P r' (s.sems r')) : ∀ r', P r' ((s.setSem r x).sems r') :=
  (Function.forall_update_iff s.sems P).mpr ⟨hr, hs⟩

theorem Core.exchange (h : Core n s) (hpid : pid < s.spawned) {f : Proc → Proc}
    (hok : (f (s.procs pid)).Ok n)
    (hheld : (f (s.procs pid)).held = (s.procs pid).held)
    (hr : x.available + (f (s.procs pid)).count r =
      (s.sems r).available + (s.procs pid).count r)
    (hrest : ∀ r' ≠ r, (f (s.procs pid)).count r' = (s.procs pid).count r')
    (hx : ∀ q ∈ x.waiters, q ∈ (s.sems r).waiters ∧ q ≠ pid)
    (hpw : ∀ r' ≠ r, pid ∉ (s.sems r').waiters) : Core n ((s.setSem r x).modify pid f) := by
  refine h.set hpid hok (congrArg (s.connections.length + List.length ·) hheld) ?_ ?_
  · refine forall_setSem (fun r' y => y.available + (f (s.procs pid)).count r' =
      (s.sems r').available + (s.procs pid).count r') hr fun r' hr' => ?_
    rw [hrest r' hr']
  · refine forall_setSem (fun r' y => ∀ q ∈ y.waiters, q ∈ (s.sems r').waiters ∧ q ≠ pid) hx
      fun r' hr' q hq => ⟨hq, ?_⟩
    rintro rfl
    exact hpw r' hr' hq

theorem Core.grant (h : Core n s) (hpid : pid < s.spawned)
    (hi : (s.procs pid).todo.head? = some (.acquire r))
    (havail : x.available + 1 = (s.sems r).available)
    (hx : ∀ q ∈ x.waiters, q ∈ (s.sems r).waiters ∧ q ≠ pid)
    (hpw : ∀ r' ≠ r, pid ∉ (s.sems r').waiters) :
    Core n ((s.setSem r x).modify pid (Proc.take r)) := by
  refine h.exchange hpid ((h.ok pid hpid).take hi) ?_ ?_ (fun r' hr' => ?_) hx hpw
  · cases r <;> rfl
  · rw [Proc.count_take, if_pos rfl]
    omega
  · rw [Proc.count_take, if_neg hr']
    rfl

theorem Inv.acquire (h : Inv n s) (hpid : pid < s.spawned) (hw : ¬ s.Waiting pid)
    (hi : (s.procs pid).todo.head? = some (.acquire r)) : Inv n (s.acquire pid r) := by
  have hnot := not_mem_of_not_waiting hw
  unfold State.acquire
  split
  · next hfree =>
    refine ⟨h.grant hpid hi ?_ (fun q hq => ⟨hq, ?_⟩) fun r' _ => hnot r', ?_⟩
    · exact Nat.sub_add_cancel hfree.2
    · rintro rfl
      exact hnot r hq
    · exact forall_setSem (fun _ y => y.Ok) ((h.fair r).take hfree) fun r' _ => h.fair r'
  · next hfree =>
    refine ⟨⟨h.conns, ?_, h.ok, ?_⟩, ?_⟩
    · exact forall_setSem (fun r' y => y.available + s.total (Proc.count r') = capacity n r')
        (h.permits r) fun r' _ => h.permits r'
    · refine forall_setSem (fun r' y => ∀ q ∈ y.waiters, q < s.spawned ∧
        (s.procs q).todo.head? = some (.acquire r')) (fun q hq => ?_) fun r' _ => h.waits r'
      rcases List.mem_append.mp hq with hq | hq
      · exact h.waits r q hq
      · rw [List.mem_singleton.mp hq]
        exact ⟨hpid, hi⟩
    · exact forall_setSem (fun _ y => y.Ok) ((h.fair r).enqueue hfree (hnot r))
        fun r' _ => h.fair r'

def State.giveBack (s : State) (pid : ℕ) (r : Sem) : State :=
  (s.setSem r ⟨(s.sems r).available + 1, (s.sems r).waiters⟩).modify pid (Proc.giveBack r)

theorem giveBack_sems (s : State) (pid : ℕ) (r : Sem) :
    (s.giveBack pid r).sems r = ⟨(s.sems r).available + 1, (s.sems r).waiters⟩ :=
  Function.update_self ..

theorem Core.giveBack (h : Core n s) (hpid : pid < s.spawned) (hw : ¬ s.Waiting pid)
    (hi : (s.procs pid).todo.head? = some (.release r)) : Core n (s.giveBack pid r) := by
  have hcount := fun r' => Proc.count_giveBack r' ((h.ok pid hpid).count_pos hi)
  have hnot := not_mem_of_not_waiting hw
  refine h.exchange hpid ((h.ok pid hpid).giveBack hi) ?_ ?_ (fun r' hr' => ?_)
    (fun q hq => ⟨hq, ?_⟩) fun r' _ => hnot r'
  · cases r <;> rfl
  · rw [← hcount r, if_pos rfl]
    exact Nat.add_right_comm _ 1 _
  · rw [← hcount r', if_neg hr']
    rfl
  · rintro rfl
    exact hnot r hq

theorem Inv.release (h : Inv n s) (hpid : pid < s.spawned) (hw : ¬ s.Waiting pid)
    (hi : (s.procs pid).todo.head? = some (.release r)) : Inv n (s.release pid r) := by
  have hback := h.toCore.giveBack hpid hw hi
  have hfair : ∀ r', ((s.setSem r (s.sems r).release.2).sems r').Ok :=
    forall_setSem (fun _ y => y.Ok) (h.fair r).release fun r' _ => h.fair r'
  unfold State.release
  cases hq : (s.sems r).waiters with
  | nil =>
    rw [Semaphore.release_of_nil hq] at hfair ⊢
    exact ⟨hback, hfair⟩
  | cons q rest =>
    rw [Semaphore.release_of_cons hq] at hfair ⊢
    have hwaiters : ((s.giveBack pid r).sems r).waiters = q :: rest := by rw [giveBack_sems, hq]
    have hmem : q ∈ ((s.giveBack pid r).sems r).waiters := by
      rw [hwaiters]
      exact List.mem_cons_self
    obtain ⟨hqs, hqi⟩ := hback.waits r q hmem
    have hnodup : (q :: rest).Nodup := hq ▸ (h.fair r).nodup
    have hgrant := hback.grant (x := ⟨(s.sems r).available, rest⟩) hqs hqi (by rw [giveBack_sems])
      (fun q' hq' => ⟨by rw [hwaiters]; exact List.mem_cons_of_mem q hq', ?_⟩)
      fun r' hr' hmem' => hr' (hback.sem_unique hmem hmem')
    · refine ⟨?_, hfair⟩
      simpa only [State.giveBack, State.setSem, State.modify, Function.update_idem] using hgrant
    · rintro rfl
      exact (List.nodup_cons.mp hnodup).1 hq'

theorem Core.connections_ne_nil (h : Core n s) (hpid : pid < s.spawned)
    (hi : (s.procs pid).todo.head? = some .pop) : s.connections ≠ [] := by
  have hlt : s.taken < s.total (Proc.count .semaphore) := by
    refine Finset.sum_lt_sum (fun i hi => ?_) ⟨pid, Finset.mem_range.mpr hpid, ?_⟩
    · exact (h.ok i (Finset.mem_range.mp hi)).wf.1
    · exact ((h.ok pid hpid).ready hi).1
  have hconns := h.conns
  have hpermits : _ = n + 1 := h.permits .semaphore
  rintro hnil
  rw [hnil, List.length_nil] at hconns
  omega

theorem Inv.exec {i : Instr} (h : Inv n s) (hpid : pid < s.spawned) (hw : ¬ s.Waiting pid)
    (hi : (s.procs pid).todo.head? = some i) : Inv n (s.exec pid i) := by
  have hok := h.ok pid hpid
  have hcount : ∀ f : Proc → Proc, (f (s.procs pid)).permits = (s.procs pid).permits →
      (f (s.procs pid)).guards = (s.procs pid).guards →
      ∀ r, (f (s.procs pid)).count r = (s.procs pid).count r := by
    rintro f hp hg (_ | _)
    · exact hp
    · exact hg
  cases i with
  | acquire r => exact h.acquire hpid hw hi
  | pop =>
    simp only [State.exec]
    split
    · exact h.unwind hpid
    · next c rest hc =>
      refine ⟨h.toCore.modify hpid hw (hok.pop c hi) ?_ (hcount _ rfl rfl), h.fair⟩
      simp only [Proc.pop, hc, List.length_append, List.length_cons, List.length_nil]
      omega
  | pragma b =>
    refine ⟨h.toCore.modify hpid hw (hok.pragma hi) ?_ (hcount _ rfl rfl), h.fair⟩
    rw [Proc.length_held_pragma]
  | use => exact ⟨h.toCore.modify hpid hw (hok.next hi) rfl (hcount _ rfl rfl), h.fair⟩
  | put j =>
    refine ⟨h.toCore.modify hpid hw (hok.put hi) ?_ (hcount _ rfl rfl), h.fair⟩
    have hj : j < (s.procs pid).held.length := hok.ready hi
    simp only [Proc.put, List.length_append, List.length_eraseIdx_of_lt hj,
      List.getElem?_eq_getElem hj, Option.map_some, Option.toList_some, List.length_cons,
      List.length_nil]
    omega
  | release r => exact h.release hpid hw hi

theorem inv_new (h : connections.length = n + 1) :
    Inv n (new connections) where
  conns := by simpa [new, State.taken, State.total] using h
  permits r := by cases r <;> simp [new, State.total, capacity, Semaphore.new, h]
  ok pid hpid := absurd hpid (Nat.not_lt_zero pid)
  waits r q hq := by cases r <;> exact absurd hq List.not_mem_nil
  fair r := by cases r <;> exact Semaphore.ok_new _

theorem spawn_procs {i : ℕ} (kind : Kind) (hi : i < s.spawned) :
    (s.spawn n kind).procs i = s.procs i :=
  Function.update_of_ne (Nat.ne_of_lt hi) _ _

theorem Inv.spawn (h : Inv n s) (kind : Kind) : Inv n (s.spawn n kind) := by
  have htotal (f : Proc → ℕ) (h0 : f (Proc.start n kind) = 0) :
      (s.spawn n kind).total f = s.total f := by
    have hnew : (s.spawn n kind).procs s.spawned = Proc.start n kind := Function.update_self ..
    show ∑ i ∈ Finset.range (s.spawned + 1), f ((s.spawn n kind).procs i) = s.total f
    rw [Finset.sum_range_succ, hnew, h0, Nat.add_zero]
    refine Finset.sum_congr rfl fun i hi => ?_
    rw [spawn_procs kind (Finset.mem_range.mp hi)]
  refine ⟨⟨?_, fun r => ?_, fun i hi => ?_, fun r q hq => ?_⟩, h.fair⟩
  · rw [State.taken, htotal (fun p => p.held.length) rfl]
    exact h.conns
  · rw [htotal (Proc.count r) (by cases r <;> rfl)]
    exact h.permits r
  · rcases Nat.lt_succ_iff_lt_or_eq.mp hi with hlt | rfl
    · rw [spawn_procs kind hlt]
      exact h.ok i hlt
    · rw [show (s.spawn n kind).procs s.spawned = Proc.start n kind from Function.update_self ..]
      exact Proc.ok_start n kind
  · obtain ⟨hlt, hq'⟩ := h.waits r q hq
    rw [spawn_procs kind hlt]
    exact ⟨Nat.lt_succ_of_lt hlt, hq'⟩

theorem Inv.step {s' : State} {e : Event} (h : Inv n s) (hstep : step n s e = some s') :
    Inv n s' := by
  cases step_cases hstep with
  | spawn kind => exact h.spawn kind
  | run hpid hw hi => exact h.exec hpid hw hi
  | fail hpid _ _ => exact h.unwind hpid
  | idle => exact h

/-- the connections `get` has returned that can write -/
def State.writable (s : State) : ℕ := s.total fun p => p.held.countP Taken.writable

/-- **One connection at most can write.** -/
theorem Core.writable_le_one (h : Core n s) : s.writable ≤ 1 := by
  have hle : s.writable ≤ s.total (Proc.count .writeMutex) := by
    unfold State.writable State.total
    refine Finset.sum_le_sum fun i hi => ?_
    have hwf := (h.ok i (Finset.mem_range.mp hi)).wf
    cases hw : (s.procs i).held.any Taken.writable with
    | false =>
      have hnone : (s.procs i).held.countP Taken.writable = 0 := by
        rw [List.countP_eq_zero]
        exact List.any_eq_false.mp hw
      exact hnone.trans_le (Nat.zero_le _)
    | true =>
      obtain ⟨hguard, hone⟩ := hwf.2 hw
      calc (s.procs i).held.countP Taken.writable
          ≤ (s.procs i).held.length := List.countP_le_length
        _ = 1 := hone
        _ ≤ (s.procs i).guards := hguard
  have hguards : _ = 1 := h.permits .writeMutex
  omega

end

end Pool

end EpsilonChat
