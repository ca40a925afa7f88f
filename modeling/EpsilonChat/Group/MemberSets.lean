import EpsilonChat.Group.Clock
import EpsilonChat.Group.MemberWire

/-!
# Who is a member after a write

* `updateChatContactsTable_members`: after `update_chat_contacts_table` the members are exactly the
  given set, and no row is older than the given time;
* **`past_member_stays_out_iff`**: a contact of a received list of PAST members that is not a member
  stays out iff it has a row already, or is listed there with a positive time, or the list is not
  used at all.

The second is not what one expects.  Membership compares two columns, and the `INSERT` for a past
member writes only `remove_timestamp`: the other column is left at its default `0`.  A time that is
not positive, which the sender is free to choose, thus makes a row with
`add_timestamp >= remove_timestamp`, and its contact a member.
-/

namespace EpsilonChat.Members
open Lib

/-! ## explicit member lists -/

section
variable {t : ChatsContacts} {chatId : ChatId} {c : ContactId} {r : Row}

theorem isMember_of_row (h : t (chatId, c) = some r) :
    isMember t chatId c = true ↔ r.removeTimestamp ≤ r.addTimestamp := by
  rw [isMember, h]
  exact decide_eq_true_iff

theorem isMember_of_none (h : t (chatId, c) = none) : isMember t chatId c = false := by
  rw [isMember, h]
  rfl

theorem updateChatContactsTable_of_none (t : ChatsContacts) (timestamp : Int) (id : ChatId)
    (contacts : List ContactId) (hnodup : contacts.Nodup) (k : ChatId × ContactId)
    (h : t k = none) :
    updateChatContactsTable t timestamp id contacts k
      = if k.1 = id ∧ k.2 ∈ contacts then some { addTimestamp := timestamp } else none := by
  have hnone : bumpRemoveAll t timestamp id k = none := by
    unfold bumpRemoveAll
    rw [h]
    exact ite_self none
  have hinj : Function.Injective fun c : ContactId => ((id, c) : ChatId × ContactId) :=
    Prod.mk_right_injective id
  rw [updateChatContactsTable, foldl_upsert_of_none _ _ _ _ _ (hnodup.map hinj) _ hnone]
  simp only [mem_map_mk_iff]

structure Rewritten (timestamp : Int) (S : Finset ContactId) (before after : Option Row)
    (c : ContactId) : Prop where
  member : c ∈ S → ∃ r, after = some r ∧ r.removeTimestamp ≤ r.addTimestamp ∧
    timestamp ≤ r.addTimestamp
  past : c ∉ S → before.isSome → ∃ r, after = some r ∧ r.addTimestamp < r.removeTimestamp ∧
    timestamp ≤ r.removeTimestamp
  absent : c ∉ S → before = none → after = none

theorem updateChatContactsTable_rewritten (t : ChatsContacts) (timestamp : Int)
    (htime : 0 ≤ timestamp) (id : ChatId) (S : Finset ContactId) (c : ContactId) :
    Rewritten timestamp S (t (id, c))
      (updateChatContactsTable t timestamp id S.sort (id, c)) c := by
  cases hrow : t (id, c) with
  | none =>
    rw [updateChatContactsTable_of_none t timestamp id _ (S.sort_nodup _) _ hrow]
    simp only [true_and, Finset.mem_sort]
    constructor
    · intro hc
      rw [if_pos hc]
      exact ⟨_, rfl, htime, le_rfl⟩
    · intro _ h
      cases h
    · intro hc _
      rw [if_neg hc]
  | some r =>
    rw [updateChatContactsTable_row t timestamp id _ _ r hrow, if_pos rfl]
    simp only [Finset.mem_sort]
    constructor
    · intro hc
      rw [if_pos hc]
      exact ⟨_, rfl, le_rfl, le_max_right _ _⟩
    · intro hc _
      rw [if_neg hc]
      refine ⟨_, rfl, ?_, le_max_right _ _⟩
      show r.addTimestamp < max (r.addTimestamp + 1) timestamp
      omega
    · intro _ h
      cases h

theorem updateChatContactsTable_other_chat (t : ChatsContacts) (timestamp : Int) (id : ChatId)
    (S : Finset ContactId) (k : ChatId × ContactId) (hk : k.1 ≠ id) :
    updateChatContactsTable t timestamp id S.sort k = t k := by
  cases hrow : t k with
  | none =>
    rw [updateChatContactsTable_of_none t timestamp id _ (S.sort_nodup _) _ hrow,
      if_neg fun h => hk h.1]
  | some r => rw [updateChatContactsTable_row t timestamp id _ _ r hrow, if_neg hk]

/-- **`update_chat_contacts_table` makes `S` the members**; a `BTreeSet` is walked in order -/
theorem updateChatContactsTable_members (t : ChatsContacts) (timestamp : Int)
    (htime : 0 ≤ timestamp) (id : ChatId) (S : Finset ContactId) :
    let t' := updateChatContactsTable t timestamp id S.sort
    (∀ c, isMember t' id c = true ↔ c ∈ S) ∧
    (∀ c ∈ S, ∃ r, t' (id, c) = some r ∧ timestamp ≤ r.addTimestamp) ∧
    (∀ c ∉ S, ∀ r, t (id, c) = some r → ∃ r', t' (id, c) = some r' ∧
      r'.addTimestamp < r'.removeTimestamp ∧ timestamp ≤ r'.removeTimestamp) ∧
    (∀ k : ChatId × ContactId, k.1 ≠ id → t' k = t k) := by
  intro t'
  have hrow := updateChatContactsTable_rewritten t timestamp htime id S
  refine ⟨fun c => ?_, fun c hc => ?_, fun c hc r hr => ?_, ?_⟩
  · constructor
    · intro hmem
      by_contra hc
      cases hbefore : t (id, c) with
      | none =>
        rw [isMember_of_none ((hrow c).absent hc hbefore)] at hmem
        cases hmem
      | some r =>
        obtain ⟨r', hr', hlt, _⟩ := (hrow c).past hc (by rw [hbefore]; rfl)
        have hle := (isMember_of_row hr').mp hmem
        omega
    · intro hc
      obtain ⟨r, hr, hle, _⟩ := (hrow c).member hc
      exact (isMember_of_row hr).mpr hle
  · obtain ⟨r, hr, _, hle⟩ := (hrow c).member hc
    exact ⟨r, hr, hle⟩
  · exact (hrow c).past hc (by rw [hr]; rfl)
  · exact updateChatContactsTable_other_chat t timestamp id S

/-- contact 8 was a member of chat 12 and contact 9 is one -/
def olderRows : ChatsContacts := fun k =>
  if k = (12, 8) then some { addTimestamp := 1500000000, removeTimestamp := 1600000000 }
  else if k = (12, 9) then some { addTimestamp := 1800000000, removeTimestamp := 0 }
  else none

/-- a new member comes, and neither the former member nor the one outside the new list is one -/
theorem updateChatContactsTable_members_older_rows :
    let t' := updateChatContactsTable olderRows 1700000000 12 ({7, 5} : Finset ℕ).sort
    isMember t' 12 7 = true ∧ isMember t' 12 9 = false ∧
      ∃ r, t' (12, 8) = some r ∧ r.addTimestamp < r.removeTimestamp ∧
        1700000000 ≤ r.removeTimestamp := by
  obtain ⟨hmembers, -, hpast, -⟩ := updateChatContactsTable_members olderRows 1700000000
    (by decide) 12 {7, 5}
  refine ⟨(hmembers 7).mpr (by decide), ?_, hpast 8 (by decide) _ rfl⟩
  exact Bool.eq_false_iff.mpr fun h => absurd ((hmembers 9).mp h) (by decide)

/-! ## past members -/

theorem removeStatement_row (chatId : ChatId) (s : MergeState) (e : Option ContactId × Int)
    (c : ContactId) :
    (removeStatement chatId s e).1 (chatId, c) =
      if e.1 = some c then
        some (match s.1 (chatId, c) with
          | none => { removeTimestamp := e.2 }
          | some r => (r.mergeRemove e.2).getD r)
      else s.1 (chatId, c) := by
  obtain ⟨_ | c', ts⟩ := e
  · rfl
  · by_cases hc : c' = c
    · subst hc
      rw [if_pos rfl]
      show upsert s.1 _ _ _ _ = _
      cases hrow : s.1 (chatId, c') with
      | none => exact upsert_of_none _ _ hrow
      | some r => exact upsert_of_some _ _ hrow
    · rw [if_neg fun h => hc (Option.some.inj h)]
      exact upsert_of_ne _ _ fun h => hc (congrArg Prod.snd h).symm

theorem addStatement_row_of_ne (chatId : ChatId) (ignoredId : Option ContactId) (s : MergeState)
    (e : Option ContactId × Int) (c : ContactId) (h : e.1 ≠ some c) :
    (addStatement chatId ignoredId s e).1 (chatId, c) = s.1 (chatId, c) := by
  obtain ⟨_ | c', ts⟩ := e
  · rfl
  · show (if some c' = ignoredId then s else _).1 _ = _
    by_cases hign : some c' = ignoredId
    · rw [if_pos hign]
    · rw [if_neg hign]
      exact upsert_of_ne _ _ fun hk => h (congrArg some (congrArg Prod.snd hk).symm)

def Row.Past (r : Row) : Prop := r.addTimestamp < r.removeTimestamp

theorem isMember_eq_false_iff_past (h : t (chatId, c) = some r) :
    isMember t chatId c = false ↔ r.Past := by
  rw [← Bool.not_eq_true, isMember_of_row h]
  exact not_le

theorem Row.Past.mergeRemove (h : r.Past) (ts : Int) : ((r.mergeRemove ts).getD r).Past := by
  unfold Row.mergeRemove
  by_cases hts : ts > r.removeTimestamp ∧ ts > r.addTimestamp
  · rw [if_pos hts]
    exact hts.2
  · rw [if_neg hts]
    exact h

theorem removeStatements_past (chatId : ChatId) (c : ContactId)
    (es : List (Option ContactId × Int)) (s : MergeState) (hr : s.1 (chatId, c) = some r)
    (hpast : r.Past) : isMember (es.foldl (removeStatement chatId) s).1 chatId c = false := by
  have hrow : ∃ r, (es.foldl (removeStatement chatId) s).1 (chatId, c) = some r ∧ r.Past := by
    refine List.foldlRecOn es (removeStatement chatId)
      (motive := fun s => ∃ r, s.1 (chatId, c) = some r ∧ r.Past) ⟨r, hr, hpast⟩ ?_
    rintro s ⟨r, hr, hpast⟩ e _
    rw [removeStatement_row, hr]
    by_cases he : e.1 = some c
    · rw [if_pos he]
      exact ⟨_, rfl, hpast.mergeRemove e.2⟩
    · rw [if_neg he]
      exact ⟨r, rfl, hpast⟩
  obtain ⟨r', hr', hpast'⟩ := hrow
  exact (isMember_eq_false_iff_past hr').mpr hpast'

/-- `c` is listed with a positive time -/
def ListedAfterEpoch (c : ContactId) (es : List (Option ContactId × Int)) : Prop :=
  ∃ e ∈ es, e.1 = some c ∧ 0 < e.2

theorem listedAfterEpoch_cons {e : Option ContactId × Int} {es : List (Option ContactId × Int)} :
    ListedAfterEpoch c (e :: es) ↔ (e.1 = some c ∧ 0 < e.2) ∨ ListedAfterEpoch c es := by
  simp only [ListedAfterEpoch, List.mem_cons, exists_eq_or_imp]

/-- a row that an `INSERT` with a time that is not positive leaves behind -/
def Row.Phantom (r : Row) : Prop := r.addTimestamp = 0 ∧ r.removeTimestamp ≤ 0

theorem Row.Phantom.mergeRemove (h : r.Phantom) {ts : Int} (hts : ts ≤ 0) :
    (r.mergeRemove ts).getD r = r := by
  unfold Row.mergeRemove
  rw [if_neg fun hgt => by have := h.1; omega]
  rfl

theorem Row.Phantom.mergeRemove_pos (h : r.Phantom) {ts : Int} (hts : 0 < ts) :
    ((r.mergeRemove ts).getD r).Past := by
  obtain ⟨hadd, hremove⟩ := h
  unfold Row.mergeRemove
  rw [if_pos ⟨by omega, by omega⟩]
  show r.addTimestamp < ts
  omega

end

theorem removeStatements_phantom (chatId : ChatId) (c : ContactId)
    (es : List (Option ContactId × Int)) :
    ∀ (s : MergeState) (r : Row), s.1 (chatId, c) = some r → r.Phantom →
      (isMember (es.foldl (removeStatement chatId) s).1 chatId c = false ↔
        ListedAfterEpoch c es) := by
  induction es with
  | nil =>
    intro s r hr hph
    rw [List.foldl_nil, isMember_eq_false_iff_past hr]
    refine iff_of_false ?_ (by simp [ListedAfterEpoch])
    obtain ⟨hadd, hremove⟩ := hph
    show ¬ r.addTimestamp < r.removeTimestamp
    omega
  | cons e es ih =>
    intro s r hr hph
    rw [List.foldl_cons, listedAfterEpoch_cons]
    have hrow := removeStatement_row chatId s e c
    rw [hr] at hrow
    by_cases he : e.1 = some c
    · rw [if_pos he] at hrow
      by_cases hts : 0 < e.2
      · -- from here on the contact is a past member
        have hpast := removeStatements_past chatId c es _ hrow (hph.mergeRemove_pos hts)
        exact iff_of_true hpast (.inl ⟨he, hts⟩)
      · have hsame : (r.mergeRemove e.2).getD r = r := hph.mergeRemove (not_lt.mp hts)
        rw [ih _ r (hrow.trans (congrArg some hsame)) hph]
        simp only [he, hts, and_false, false_or]
    · rw [if_neg he] at hrow
      rw [ih _ r hrow hph]
      simp only [he, false_and, false_or]

theorem removeStatements_of_none (chatId : ChatId) (c : ContactId)
    (es : List (Option ContactId × Int)) (hlisted : ∃ e ∈ es, e.1 = some c) :
    ∀ s : MergeState, s.1 (chatId, c) = none →
      (isMember (es.foldl (removeStatement chatId) s).1 chatId c = false ↔
        ListedAfterEpoch c es) := by
  induction es with
  | nil => simp at hlisted
  | cons e es ih =>
    intro s hnone
    rw [List.foldl_cons, listedAfterEpoch_cons]
    have hrow := removeStatement_row chatId s e c
    rw [hnone] at hrow
    by_cases he : e.1 = some c
    · rw [if_pos he] at hrow
      by_cases hts : 0 < e.2
      · have hpast := removeStatements_past chatId c es _ hrow hts
        exact iff_of_true hpast (.inl ⟨he, hts⟩)
      · rw [removeStatements_phantom chatId c es _ _ hrow ⟨rfl, not_lt.mp hts⟩]
        simp only [he, hts, and_false, false_or]
    · rw [if_neg he] at hrow
      have hlisted' : ∃ e ∈ es, e.1 = some c := by
        obtain ⟨e', he', hc⟩ := hlisted
        rcases List.mem_cons.mp he' with rfl | hmem
        · exact absurd hc he
        · exact ⟨e', hmem, hc⟩
      rw [ih hlisted' _ hrow]
      simp only [he, false_and, false_or]

/-- **A past member stays out** iff the number of timestamps is wrong, or it has a row, or it is
listed with a positive time. -/
theorem past_member_stays_out_iff (t : ChatsContacts) (chatId : ChatId)
    (ignoredId : Option ContactId) (toIds pastIds : List (Option ContactId)) (ts : List Int)
    (c : ContactId) (hpast : some c ∈ pastIds) (hto : some c ∉ toIds)
    (hbefore : isMember t chatId c = false) :
    isMember (updateChatsContactsTimestamps t chatId ignoredId toIds pastIds ts).1 chatId c = false
      ↔ ts.length ≠ toIds.length + pastIds.length ∨ (t (chatId, c)).isSome ∨
        ListedAfterEpoch c (pastIds.zip (ts.drop toIds.length)) := by
  unfold updateChatsContactsTimestamps
  by_cases hlen : ts.length ≠ toIds.length + pastIds.length
  · rw [if_pos hlen]
    exact iff_of_true hbefore (.inl hlen)
  rw [if_neg hlen]
  -- the statements for members do not touch the row of `c`
  have hadd : ((toIds.zip (ts.take toIds.length)).foldl (addStatement chatId ignoredId)
      (t, false)).1 (chatId, c) = t (chatId, c) := by
    refine List.foldlRecOn (toIds.zip (ts.take toIds.length)) (addStatement chatId ignoredId)
      (motive := fun s => s.1 (chatId, c) = t (chatId, c)) (b := (t, false)) rfl ?_
    intro s hs e he
    have hne : e.1 ≠ some c := fun h => hto (h ▸ (List.of_mem_zip he).1)
    rw [addStatement_row_of_ne chatId ignoredId s e c hne, hs]
  generalize (toIds.zip (ts.take toIds.length)).foldl (addStatement chatId ignoredId) (t, false) = s
    at hadd ⊢
  set es := pastIds.zip (ts.drop toIds.length) with hes
  -- every past member has a timestamp
  have hlisted : ∃ e ∈ es, e.1 = some c := by
    have hfst : es.map Prod.fst = pastIds := by
      refine List.map_fst_zip ?_
      rw [List.length_drop]
      omega
    rw [← hfst] at hpast
    exact List.mem_map.mp hpast
  cases hrow : t (chatId, c) with
  | none =>
    rw [removeStatements_of_none chatId c es hlisted s (hadd.trans hrow)]
    simp only [hlen, Option.isSome_none, Bool.false_eq_true, false_or]
  | some r =>
    have hr := (isMember_eq_false_iff_past hrow).mp hbefore
    exact iff_of_true (removeStatements_past chatId c es s (hadd.trans hrow) hr)
      (.inr (.inl rfl))

theorem past_member_stays_out_iff_known :
    isMember (updateChatsContactsTimestamps (fun _ => some ⟨3, 4⟩) 12 none [] [some 10] [-5]).1
      12 10 = false :=
  (past_member_stays_out_iff (fun _ => some ⟨3, 4⟩) 12 none [] [some 10] [-5] 10
    List.mem_cons_self List.not_mem_nil rfl).mpr (.inr (.inl rfl))

def epochHeaders : MemberList.MemberHeaders where
  toAddrs := []
  chatGroupPastMembers := some [.address none "bob@example.net"]
  chatGroupMemberTimestamps := some (" ".intercalate ([I64.zero].map I64.print))
  chatGroupMemberFpr := none

/-- the receiver has no row for the past member, and gets a MEMBER -/
theorem past_member_becomes_member :
    ∃ ts, MemberList.chatGroupMemberTimestamps MemberList.bob epochHeaders = some ts ∧
      isMember (fun _ => none) 12 10 = false ∧
      isMember (updateChatsContactsTimestamps (fun _ => none) 12 none [] [some 10] ts).1
        12 10 = true := by
  refine ⟨_, MemberList.chatGroupMemberTimestamps_eq _ rfl ?_, rfl, rfl⟩
  intro ts hts
  rw [List.mem_singleton.mp hts]
  decide

end EpsilonChat.Members
