import Mathlib.Algebra.Order.Field.Basic
import Mathlib.Data.Rat.Defs
import Mathlib.Algebra.Order.Ring.Rat
import Mathlib.Order.Bounds.Basic
import Mathlib.Tactic.Linarith
import Mathlib.Tactic.FieldSimp
import Mathlib.Tactic.Ring
import EpsilonChat.Lib.Join

/-!
# The rate limiter

`Ratelimit` is a bucket: every message adds 1 to `current_value`, and the value drains with the rate
`quota / window`.  It is drained lazily, when the value is read, and clipped at 0 and at `quota`.
Times and durations are seconds; the arithmetic is EXACT (the source computes with `f64`).

* `currentValue_mem`: the value stays between 0 and `quota`, whatever the clock does;
* `untilCanSendAt_isLeast`: the waiting time is the least one;
* `count_le`: the POTENTIAL argument: an allowed send is never clipped at `quota`, and clipping at 0
  only raises the value, so the sends of an interval are paid for by what drains in it and by the
  quota;
* **`ratelimit_keeps_quota`**: all three.
-/

namespace EpsilonChat.Smtp

open Lib

structure Ratelimit where
  lastUpdate : ℚ
  currentValue : ℚ
  window : ℚ
  quota : ℚ
  deriving DecidableEq, Repr

namespace Ratelimit

def newAt (window quota now : ℚ) : Ratelimit :=
  { lastUpdate := now, currentValue := 0, window := window, quota := quota }

/-- `SystemTime::duration_since`: an error if `earlier` is later -/
def durationSince (now earlier : ℚ) : Option ℚ :=
  if earlier ≤ now then some (now - earlier) else none

def currentValueAt (r : Ratelimit) (now : ℚ) : ℚ :=
  let rate := r.quota / r.window
  let elapsed := (durationSince now r.lastUpdate).getD 0
  max 0 (r.currentValue - rate * elapsed)

def canSendAt (r : Ratelimit) (now : ℚ) : Bool := r.currentValueAt now + 1 ≤ r.quota

def sendAt (r : Ratelimit) (now : ℚ) : Ratelimit :=
  { r with
    currentValue := min r.quota (r.currentValueAt now + 1)
    lastUpdate := now }

def untilCanSendAt (r : Ratelimit) (now : ℚ) : ℚ :=
  let currentValue := r.currentValueAt now
  if currentValue + 1 ≤ r.quota then 0
  else
    let requirement := currentValue + 1 - r.quota
    let rate := r.quota / r.window
    requirement / rate

section
variable {r : Ratelimit} {now t : ℚ}

theorem canSendAt_iff : r.canSendAt now = true ↔ r.currentValueAt now + 1 ≤ r.quota :=
  decide_eq_true_iff

theorem currentValueAt_nonneg (r : Ratelimit) (now : ℚ) : 0 ≤ r.currentValueAt now :=
  le_max_left _ _

theorem currentValueAt_of_le (h : r.lastUpdate ≤ now) :
    r.currentValueAt now = max 0 (r.currentValue - r.quota / r.window * (now - r.lastUpdate)) := by
  rw [currentValueAt, durationSince, if_pos h]
  rfl

theorem currentValue_sendAt (h : r.canSendAt now = true) :
    (r.sendAt now).currentValue = r.currentValueAt now + 1 :=
  min_eq_right (canSendAt_iff.mp h)

theorem le_currentValueAt_sendAt (h : r.canSendAt now = true) (ht : now ≤ t) :
    r.currentValueAt now + 1 - r.quota / r.window * (t - now) ≤ (r.sendAt now).currentValueAt t := by
  have hle : (r.sendAt now).lastUpdate ≤ t := ht
  rw [currentValueAt_of_le hle, currentValue_sendAt h]
  exact le_max_right _ _

end

structure Bounded (r : Ratelimit) : Prop where
  nonneg : 0 ≤ r.currentValue
  le_quota : r.currentValue ≤ r.quota

section
variable {r : Ratelimit} {t stop : ℚ} {times : List ℚ}

theorem Bounded.sendAt (hq : 1 ≤ r.quota) (now : ℚ) : Bounded (r.sendAt now) where
  nonneg := by
    have hvalue := currentValueAt_nonneg r now
    exact le_min (by linarith) (by linarith)
  le_quota := min_le_left _ _

theorem quota_foldl (r : Ratelimit) (times : List ℚ) : (times.foldl sendAt r).quota = r.quota := by
  induction times generalizing r with
  | nil => rfl
  | cons now times ih => exact ih (r.sendAt now)

theorem currentValue_mem (hq : 1 ≤ r.quota) (hr : Bounded r) (times : List ℚ) :
    Bounded (times.foldl sendAt r) := by
  induction times generalizing r with
  | nil => exact hr
  | cons now times ih => exact ih (r := r.sendAt now) hq (.sendAt hq now)

/-! ## the waiting time -/

theorem untilCanSendAt_isLeast (hw : 0 < r.window) (hq : 1 ≤ r.quota) {now : ℚ}
    (hnow : r.lastUpdate ≤ now) :
    IsLeast {d | 0 ≤ d ∧ r.canSendAt (now + d) = true} (r.untilCanSendAt now) := by
  have hrate : 0 < r.quota / r.window := div_pos (by linarith) hw
  have hat : ∀ {d : ℚ}, 0 ≤ d → r.currentValueAt (now + d) =
      max 0 (r.currentValue - r.quota / r.window * (now - r.lastUpdate) -
        r.quota / r.window * d) := by
    intro d hd
    rw [currentValueAt_of_le (by linarith)]
    congr 1
    ring
  unfold untilCanSendAt
  dsimp only
  split
  case isTrue hcan =>
    refine ⟨⟨le_refl 0, ?_⟩, fun d hd => hd.1⟩
    rw [add_zero]
    exact canSendAt_iff.mpr hcan
  case isFalse hcannot =>
    -- the value is above `quota - 1`, so it is not the clipped one
    rw [currentValueAt_of_le hnow] at hcannot ⊢
    generalize r.currentValue - r.quota / r.window * (now - r.lastUpdate) = value at hat hcannot ⊢
    have hpos : 0 < value := by
      by_contra hneg
      rw [max_eq_left (not_lt.mp hneg)] at hcannot
      exact hcannot (by linarith)
    rw [max_eq_right hpos.le] at hcannot ⊢
    have hwait : 0 ≤ (value + 1 - r.quota) / (r.quota / r.window) :=
      div_nonneg (by linarith) hrate.le
    refine ⟨⟨hwait, ?_⟩, fun d hd => ?_⟩
    · rw [canSendAt_iff, hat hwait, mul_div_cancel₀ _ hrate.ne']
      have hmax : max 0 (value - (value + 1 - r.quota)) = r.quota - 1 := by
        rw [max_eq_right (by linarith)]
        ring
      linarith
    · obtain ⟨hd0, hcan⟩ := hd
      rw [canSendAt_iff, hat hd0] at hcan
      have hdrained : value - r.quota / r.window * d ≤ r.quota - 1 := by
        have := le_max_right 0 (value - r.quota / r.window * d)
        linarith
      rw [div_le_iff₀ hrate]
      linarith

/-! ## the sends of an interval -/

def Allowed (r : Ratelimit) (times : List ℚ) : Prop :=
  RunOk sendAt (fun r now => r.canSendAt now = true) r times

theorem count_cons (h : t ≤ stop) (times : List ℚ) :
    (t :: times).countP (fun now => now ≤ stop) = times.countP (fun now => now ≤ stop) + 1 :=
  List.countP_cons_of_pos (by simpa using h)

theorem count_late (hsorted : (t :: times).Pairwise (· ≤ ·)) (h : stop < t) :
    (t :: times).countP (fun now => now ≤ stop) = 0 := by
  rw [List.countP_eq_zero]
  intro now hnow
  have hle : t ≤ now := by
    rcases List.mem_cons.mp hnow with rfl | hnow
    · exact le_refl _
    · exact (List.pairwise_cons.mp hsorted).1 now hnow
  rw [decide_eq_true_iff]
  linarith

/-- The sends until `stop`, the first of them at `t`: the induction is on the later sends, and the
value before the first one is the potential. -/
theorem count_le_of_first (hrate : 0 ≤ r.quota / r.window)
    (hsorted : (t :: times).Pairwise (· ≤ ·)) (hallowed : Allowed r (t :: times))
    (hstop : t ≤ stop) :
    (((t :: times).countP (fun now => now ≤ stop) : ℕ) : ℚ) ≤
      r.quota - r.currentValueAt t + r.quota / r.window * (stop - t) := by
  induction times generalizing r t with
  | nil =>
    have hsend := canSendAt_iff.mp hallowed.1
    have hdrain : 0 ≤ r.quota / r.window * (stop - t) := mul_nonneg hrate (by linarith)
    rw [count_cons hstop, List.countP_nil]
    push_cast
    linarith
  | cons t' times ih =>
    obtain ⟨hfirst, hrest⟩ := List.pairwise_cons.mp hsorted
    have htt' : t ≤ t' := hfirst t' List.mem_cons_self
    have hsend := canSendAt_iff.mp hallowed.1
    rw [count_cons hstop]
    by_cases hstop' : t' ≤ stop
    · have hlater := ih (r := r.sendAt t) hrate hrest hallowed.2 hstop'
      have hvalue := le_currentValueAt_sendAt hallowed.1 htt'
      have hquota : (r.sendAt t).quota = r.quota := rfl
      have hwindow : (r.sendAt t).window = r.window := rfl
      rw [hquota, hwindow] at hlater
      have hsum : r.quota / r.window * (t' - t) + r.quota / r.window * (stop - t') =
          r.quota / r.window * (stop - t) := by ring
      push_cast
      linarith
    · -- the others are later than `stop`
      have hdrain : 0 ≤ r.quota / r.window * (stop - t) := mul_nonneg hrate (by linarith)
      rw [count_late hrest (not_le.mp hstop')]
      push_cast
      linarith

theorem count_le (hw : 0 < r.window) (hq : 1 ≤ r.quota) (hsorted : times.Pairwise (· ≤ ·))
    (hallowed : Allowed r times) (start : ℚ) {d : ℚ} (hd : 0 ≤ d) :
    ((times.countP (fun now => start ≤ now ∧ now ≤ start + d) : ℕ) : ℚ) ≤
      r.quota + r.quota * d / r.window := by
  have hrate : 0 ≤ r.quota / r.window := div_nonneg (by linarith) hw.le
  have hbudget : r.quota * d / r.window = r.quota / r.window * d := by ring
  rw [hbudget]
  induction times generalizing r with
  | nil =>
    rw [List.countP_nil]
    push_cast
    have := mul_nonneg hrate hd
    linarith
  | cons t times ih =>
    obtain ⟨hfirst, hrest⟩ := List.pairwise_cons.mp hsorted
    by_cases hbefore : t < start
    · rw [List.countP_cons_of_neg (by simp [hbefore])]
      exact ih (r := r.sendAt t) hw hq hrest hallowed.2 hrate hbudget
    · -- the first send of the interval, or none
      have hlate : ∀ now ∈ t :: times, start ≤ now := by
        intro now hnow
        rcases List.mem_cons.mp hnow with rfl | hnow
        · exact not_lt.mp hbefore
        · exact (not_lt.mp hbefore).trans (hfirst now hnow)
      have hcount : (t :: times).countP (fun now => start ≤ now ∧ now ≤ start + d) =
          (t :: times).countP (fun now => now ≤ start + d) := by
        refine List.countP_congr fun now hnow => ?_
        simp [hlate now hnow]
      rw [hcount]
      by_cases hstop : t ≤ start + d
      · have hle := count_le_of_first hrate hsorted hallowed hstop
        have hvalue := currentValueAt_nonneg r t
        have hshort : r.quota / r.window * (start + d - t) ≤ r.quota / r.window * d :=
          mul_le_mul_of_nonneg_left (by linarith [not_lt.mp hbefore]) hrate
        linarith
      · rw [count_late hsorted (not_le.mp hstop)]
        push_cast
        have := mul_nonneg hrate hd
        linarith

end

/-- **the quota is kept.**  For every window and quota: the value is between 0 and the quota after
any sends at any times; the waiting time is the least one; and in every run with non-decreasing
times, with allowed sends only, an interval of length `d` has at most `quota + quota * d / window`
sends. -/
theorem ratelimit_keeps_quota (window quota : ℚ) (hw : 0 < window) (hq : 1 ≤ quota) :
    (∀ (start : ℚ) (times : List ℚ),
      0 ≤ (times.foldl sendAt (newAt window quota start)).currentValue ∧
        (times.foldl sendAt (newAt window quota start)).currentValue ≤ quota) ∧
    (∀ r : Ratelimit, r.window = window → r.quota = quota → ∀ now, r.lastUpdate ≤ now →
      IsLeast {d | 0 ≤ d ∧ r.canSendAt (now + d) = true} (r.untilCanSendAt now)) ∧
    (∀ r : Ratelimit, r.window = window → r.quota = quota → ∀ times : List ℚ,
      times.Pairwise (· ≤ ·) → Allowed r times → ∀ start d : ℚ, 0 ≤ d →
        ((times.countP (fun now => start ≤ now ∧ now ≤ start + d) : ℕ) : ℚ) ≤
          quota + quota * d / window) := by
  refine ⟨?_, ?_, ?_⟩
  · intro start times
    have hnew : Bounded (newAt window quota start) := ⟨le_refl 0, zero_le_one.trans hq⟩
    obtain ⟨hnonneg, hle⟩ := currentValue_mem hq hnew times
    rw [quota_foldl] at hle
    exact ⟨hnonneg, hle⟩
  · rintro r rfl rfl now hnow
    exact untilCanSendAt_isLeast hw hq hnow
  · rintro r rfl rfl times hsorted hallowed start d hd
    exact count_le hw hq hsorted hallowed start hd

/-- 3 messages a minute: three at once, then one every 20 seconds -/
theorem ratelimit_keeps_quota_three :
    Allowed (newAt 60 3 0) [0, 0, 0, 20, 40] ∧
      (([0, 0, 0, 20, 40] : List ℚ).countP (fun now => 0 ≤ now ∧ now ≤ 0 + 40) : ℚ) ≤
        3 + 3 * 40 / 60 := by
  have hallowed : Allowed (newAt 60 3 0) [0, 0, 0, 20, 40] := by
    refine ⟨?_, ?_, ?_, ?_, ?_, trivial⟩ <;> decide +kernel
  refine ⟨hallowed, ?_⟩
  exact (ratelimit_keeps_quota 60 3 (by norm_num) (by norm_num)).2.2 (newAt 60 3 0) rfl rfl
    [0, 0, 0, 20, 40] (by decide +kernel) hallowed 0 40 (by norm_num)

end Ratelimit
end EpsilonChat.Smtp
