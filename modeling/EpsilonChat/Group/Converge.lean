import EpsilonChat.Group.Members
import EpsilonChat.Lib.Join
import Mathlib.Data.Prod.Lex
import Mathlib.Order.WithBot
import Mathlib.Order.BoundedOrder.Lattice
import Mathlib.Tactic.Tauto

/-!
# Merging member lists converges

The two statements of `update_chats_contacts_timestamps` compare in different ways and each writes
one column only, so the rows themselves depend on the order in which member lists arrive.  What
does not depend on it is the STAMP of a row, the pair

  (newest time the row knows of, is the contact a member)

in the lexicographic order with `true` above `false`: at equal times an addition beats a removal.
Without a row the stamp is `⊥`.

* `Row.stamp_mergeAdd`, `Row.stamp_mergeRemove`: both `ON CONFLICT` branches are joins of stamps;
* `addStatement_joinView`, `removeStatement_joinView`: so is one prepared statement, the `INSERT`
  branch included, for a positive time;
* `applyUpdate_joinView`: so is one whole call;
* `members_converge`: hence the member set and the clocks after any list of calls depend only on
  which calls it contains.
-/

namespace EpsilonChat.Members
open Lib

/-! ## stamps -/

abbrev Stamp := ℤ ×ₗ Bool

def Row.stamp (r : Row) : Stamp := toLex (r.clock, r.isMember)

theorem stamp_le {a b : Int} {x y : Bool} :
    (toLex (a, x) : Stamp) ≤ toLex (b, y) ↔ a < b ∨ a = b ∧ (x = true → y = true) := by
  rw [Prod.Lex.toLex_le_toLex]
  exact Iff.rfl

theorem Row.stamp_mergeAdd (ts : Int) (r : Row) :
    ((r.mergeAdd ts).getD r).stamp = r.stamp ⊔ toLex (ts, true) := by
  unfold Row.mergeAdd
  by_cases h : ts > r.addTimestamp ∧ ts ≥ r.removeTimestamp
  · rw [if_pos h, sup_eq_right.mpr]
    · simp [Row.stamp, Row.clock, Row.isMember, h.2]
    · have hc : max r.addTimestamp r.removeTimestamp ≤ ts := max_le h.1.le h.2
      rw [Row.stamp, stamp_le]
      rcases lt_or_eq_of_le hc with hlt | heq
      · exact .inl hlt
      · exact .inr ⟨heq, fun _ => rfl⟩
  · rw [if_neg h, sup_eq_left.mpr]
    · rfl
    · rw [Row.stamp, stamp_le]
      simp only [Row.clock, Row.isMember, decide_eq_true_eq]
      omega

theorem Row.stamp_mergeRemove (ts : Int) (r : Row) :
    ((r.mergeRemove ts).getD r).stamp = r.stamp ⊔ toLex (ts, false) := by
  unfold Row.mergeRemove
  by_cases h : ts > r.removeTimestamp ∧ ts > r.addTimestamp
  · rw [if_pos h, sup_eq_right.mpr]
    · have hc : max r.addTimestamp ts = ts := max_eq_right h.2.le
      have hm : ¬ r.addTimestamp ≥ ts := not_le.mpr h.2
      simp [Row.stamp, Row.clock, Row.isMember, hc, hm]
    · rw [Row.stamp, stamp_le]
      exact .inl (max_lt h.2 h.1)
  · rw [if_neg h, sup_eq_left.mpr]
    · rfl
    · have hc : ts ≤ max r.addTimestamp r.removeTimestamp := by omega
      rw [Row.stamp, stamp_le]
      rcases lt_or_eq_of_le hc with hlt | heq
      · exact .inl hlt
      · exact .inr ⟨heq, fun h => absurd h Bool.false_ne_true⟩

def stamps (chatId : ChatId) (t : ChatsContacts) : ContactId → WithBot Stamp := fun c =>
  match t (chatId, c) with
  | none => ⊥
  | some r => (r.stamp : WithBot Stamp)

theorem stamps_of_none {chatId : ChatId} {t : ChatsContacts} {c : ContactId}
    (h : t (chatId, c) = none) : stamps chatId t c = ⊥ := by
  unfold stamps; rw [h]

theorem stamps_of_some {chatId : ChatId} {t : ChatsContacts} {c : ContactId} {r : Row}
    (h : t (chatId, c) = some r) : stamps chatId t c = (r.stamp : WithBot Stamp) := by
  unfold stamps; rw [h]

def entryStamp (member : Bool) (e : Option ContactId × Int) : ContactId → WithBot Stamp := fun c =>
  if e.1 = some c then ((toLex (e.2, member) : Stamp) : WithBot Stamp) else ⊥

/-! ## one prepared statement -/

theorem stamps_upsert (chatId : ChatId) (t : ChatsContacts) (c : ContactId) (new : Row)
    (upd : Row → Option Row) (x : Stamp) (hnew : new.stamp = x)
    (hupd : ∀ r, ((upd r).getD r).stamp = r.stamp ⊔ x) :
    stamps chatId (upsert t (chatId, c) new upd)
      = stamps chatId t ⊔ fun c' => if some c = some c' then (x : WithBot Stamp) else ⊥ := by
  funext c'
  rw [Pi.sup_apply]
  by_cases e : c' = c
  · subst e
    rw [if_pos rfl]
    cases hr : t (chatId, c') with
    | none =>
      rw [stamps_of_some (upsert_of_none new upd hr), stamps_of_none hr, hnew, bot_sup_eq]
    | some r =>
      rw [stamps_of_some (upsert_of_some new upd hr), stamps_of_some hr, hupd, WithBot.coe_sup]
  · have hk : ((chatId, c') : ChatId × ContactId) ≠ (chatId, c) := fun h =>
      e (congrArg Prod.snd h)
    have hne : ¬ (some c = some c') := fun h => e (Option.some.inj h).symm
    rw [if_neg hne, sup_bot_eq]
    unfold stamps
    rw [upsert_of_ne new upd hk]

theorem stamp_insertAdd (ts : Int) (h : 0 < ts) :
    ({ addTimestamp := ts } : Row).stamp = toLex (ts, true) := by
  simp [Row.stamp, Row.clock, Row.isMember, h.le]

theorem stamp_insertRemove (ts : Int) (h : 0 < ts) :
    ({ removeTimestamp := ts } : Row).stamp = toLex (ts, false) := by
  have hc : max 0 ts = ts := max_eq_right h.le
  simp [Row.stamp, Row.clock, Row.isMember, hc, h]

def PosEntry (_ : MergeState) (e : Option ContactId × Int) : Prop := 0 < e.2

theorem addStatement_joinView (chatId : ChatId) :
    JoinView (addStatement chatId none) PosEntry (fun s => stamps chatId s.1) (entryStamp true) := by
  constructor
  rintro s ⟨_ | c, ts⟩ hpos
  · show stamps chatId s.1 = stamps chatId s.1 ⊔ ⊥
    rw [sup_bot_eq]
  · exact stamps_upsert chatId s.1 c _ _ _ (stamp_insertAdd ts hpos) (Row.stamp_mergeAdd ts)

theorem removeStatement_joinView (chatId : ChatId) :
    JoinView (removeStatement chatId) PosEntry (fun s => stamps chatId s.1) (entryStamp false) := by
  constructor
  rintro s ⟨_ | c, ts⟩ hpos
  · show stamps chatId s.1 = stamps chatId s.1 ⊔ ⊥
    rw [sup_bot_eq]
  · exact stamps_upsert chatId s.1 c _ _ _ (stamp_insertRemove ts hpos) (Row.stamp_mergeRemove ts)

/-! ## one call, and lists of calls -/

/-- the arguments of one call of `update_chats_contacts_timestamps`: the lengths match and all
times are positive -/
structure MemberUpdate where
  toIds : List (Option ContactId)
  pastIds : List (Option ContactId)
  timestamps : List Int
  length_eq : timestamps.length = toIds.length + pastIds.length
  pos : ∀ ts ∈ timestamps, 0 < ts

namespace MemberUpdate

def adds (u : MemberUpdate) : List (Option ContactId × Int) :=
  u.toIds.zip (u.timestamps.take u.toIds.length)

def removes (u : MemberUpdate) : List (Option ContactId × Int) :=
  u.pastIds.zip (u.timestamps.drop u.toIds.length)

theorem adds_pos (u : MemberUpdate) : ∀ e ∈ u.adds, 0 < e.2 := fun e he =>
  u.pos e.2 (List.mem_of_mem_take (List.of_mem_zip he).2)

theorem removes_pos (u : MemberUpdate) : ∀ e ∈ u.removes, 0 < e.2 := fun e he =>
  u.pos e.2 (List.mem_of_mem_drop (List.of_mem_zip he).2)

def stamps (u : MemberUpdate) : ContactId → WithBot Stamp :=
  joinAll (entryStamp false) (joinAll (entryStamp true) ⊥ u.adds) u.removes

end MemberUpdate

/-- one call with `ignored_id = None` -/
def applyUpdate (chatId : ChatId) (t : ChatsContacts) (u : MemberUpdate) : ChatsContacts :=
  (updateChatsContactsTimestamps t chatId none u.toIds u.pastIds u.timestamps).1

theorem applyUpdate_eq (chatId : ChatId) (t : ChatsContacts) (u : MemberUpdate) :
    applyUpdate chatId t u
      = (u.removes.foldl (removeStatement chatId)
          (u.adds.foldl (addStatement chatId none) (t, false))).1 := by
  unfold applyUpdate updateChatsContactsTimestamps
  rw [if_neg (not_not.mpr u.length_eq)]
  rfl

theorem applyUpdate_joinView (chatId : ChatId) :
    JoinView (applyUpdate chatId) (fun _ _ => True) (stamps chatId) MemberUpdate.stamps := by
  constructor
  intro t u _
  have hadd := (addStatement_joinView chatId).run (t, false) u.adds
    (RunOk.of_mem _ (fun e he _ => u.adds_pos e he) _)
  have hrem := (removeStatement_joinView chatId).run (u.adds.foldl (addStatement chatId none)
    (t, false)) u.removes (RunOk.of_mem _ (fun e he _ => u.removes_pos e he) _)
  rw [applyUpdate_eq, hrem, hadd]
  show joinAll (entryStamp false) (joinAll (entryStamp true) (stamps chatId t) u.adds) u.removes = _
  have e := joinAll_sup (entryStamp true) (stamps chatId t) ⊥ u.adds
  rw [sup_bot_eq] at e
  rw [e, joinAll_sup]
  rfl

theorem isMember_iff_stamps (t : ChatsContacts) (chatId : ChatId) (c : ContactId) :
    isMember t chatId c = true
      ↔ ∃ ts : Int, stamps chatId t c = ((toLex (ts, true) : Stamp) : WithBot Stamp) := by
  unfold isMember stamps
  cases t (chatId, c) with
  | none => simp
  | some r => simp [Row.stamp]

theorem clock_eq_stamps (t : ChatsContacts) (chatId : ChatId) (c : ContactId) :
    clock t chatId c = (stamps chatId t c : Option Stamp).map fun x => (ofLex x).1 := by
  unfold clock stamps
  cases t (chatId, c) with
  | none => rfl
  | some r => rfl

/-- **Merging member lists converges**: from any table, two lists of calls that contain the same
calls, in any order and with any repetitions, end with the same members and the same newest times
of the chat. -/
theorem members_converge (chatId : ChatId) (t : ChatsContacts) (l l' : List MemberUpdate)
    (h : ∀ u, u ∈ l ↔ u ∈ l') :
    (∀ c, isMember (l.foldl (applyUpdate chatId) t) chatId c
        = isMember (l'.foldl (applyUpdate chatId) t) chatId c) ∧
      ∀ c, clock (l.foldl (applyUpdate chatId) t) chatId c
        = clock (l'.foldl (applyUpdate chatId) t) chatId c := by
  have hs := (applyUpdate_joinView chatId).converge t l l'
    (RunOk.of_mem l (fun _ _ _ => trivial) t) (RunOk.of_mem l' (fun _ _ _ => trivial) t) h
  constructor
  · intro c
    rw [Bool.eq_iff_iff, isMember_iff_stamps, isMember_iff_stamps, hs]
  · intro c
    rw [clock_eq_stamps, clock_eq_stamps, hs]

def addedAt5 : MemberUpdate := ⟨[some 10], [], [5], rfl, by decide⟩

def removedAt5 : MemberUpdate := ⟨[some 11], [some 10], [7, 5], rfl, by decide⟩

/-- the addition and the removal at time 5 in both orders, one of them repeated -/
theorem members_converge_tie :
    (∀ u, u ∈ [addedAt5, removedAt5] ↔ u ∈ [removedAt5, addedAt5, removedAt5]) ∧
      (∀ c, isMember ([addedAt5, removedAt5].foldl (applyUpdate 12) fun _ => none) 12 c
          = isMember ([removedAt5, addedAt5, removedAt5].foldl (applyUpdate 12) fun _ => none) 12 c) ∧
        ∀ c, clock ([addedAt5, removedAt5].foldl (applyUpdate 12) fun _ => none) 12 c
          = clock ([removedAt5, addedAt5, removedAt5].foldl (applyUpdate 12) fun _ => none) 12 c := by
  have h : ∀ u, u ∈ [addedAt5, removedAt5] ↔ u ∈ [removedAt5, addedAt5, removedAt5] := by
    intro u
    simp only [List.mem_cons, List.not_mem_nil, or_false]
    tauto
  exact ⟨h, members_converge 12 (fun _ => none) _ _ h⟩

end EpsilonChat.Members
