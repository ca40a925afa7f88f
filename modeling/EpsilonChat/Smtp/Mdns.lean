import EpsilonChat.Receive.Msgs
import EpsilonChat.Smtp.Jobs

/-!
# Sending queued read receipts

A row of `smtp_mdns` is a receipt that is to be sent to a contact for a message.  `send_mdn` takes a
row with the fewest retries, sends a receipt to its contact for ALL messages that wait for one, and
deletes these rows.  It finds the rows it deletes, and those whose retries it counts, by the
Message-ID alone, so it also hits receipts to other contacts for the same message.

* `Mdn`: a row; nothing in the table is unique;
* `sendMdnRfc724Mid`, `sendMdn`: the two functions;
* `sendMdn_cases`: the three ways a call that takes a row can end, and the table after each;
* **`sendMdn_others_iff`**: the receipts to other contacts stay as they are IFF none of them has used
  up its retries, and none is for a message that the call finds by its Message-ID.
-/

namespace EpsilonChat.Smtp

open Lib
open Receive (Pick)

/-! ## the table -/

structure Mdn where
  msgId : MsgId
  fromId : ContactId
  rfc724Mid : String
  retries : ℤ := 0
  deriving DecidableEq

abbrev Mdns := IdTable Mdn

structure MdnEnv where
  shouldSendMdns : Bool
  /-- which of several rows with the fewest retries is taken -/
  pick : Pick
  /-- `Contact::get_by_id`, and whether the contact is blocked -/
  isBlocked : ContactId → Except String Bool
  /-- rendering and sending the receipt, with the additional Message-IDs -/
  send : ContactId → String → List String → SendResult

section
variable (env : MdnEnv)

/-- `SELECT rfc724_mid FROM smtp_mdns WHERE from_id=? AND rfc724_mid!=?` -/
def additionalRfc724Mids (t : Mdns) (contactId : ContactId) (rfc724Mid : String) : List String :=
  (t.ids fun r => r.fromId = contactId && r.rfc724Mid ≠ rfc724Mid).filterMap fun id =>
    (t.row id).map Mdn.rfc724Mid

def sendMdnRfc724Mid (t : Mdns) (rfc724Mid : String) (contactId : ContactId) :
    Mdns × Except String Bool :=
  match env.isBlocked contactId with
  | .error e => (t, .error e)
  | .ok true => (t, .error "Contact is blocked")
  | .ok false =>
    let additional := additionalRfc724Mids t contactId rfc724Mid
    match env.send contactId rfc724Mid additional with
    | .success => ((rfc724Mid :: additional).foldl
        (fun t mid => t.deleteWhere fun r => r.rfc724Mid = mid) t, .ok true)
    | .retry => (t, .ok false)
    | .failure e => (t, .error e)

/-- `SELECT rfc724_mid, from_id FROM smtp_mdns ORDER BY retries LIMIT 1` -/
def selectMdn (t : Mdns) : Option Mdn :=
  let ids := t.ids fun _ => true
  let least := ids.filter fun id =>
    ids.all fun id' => (t.row id).any fun r => (t.row id').any fun r' => r.retries ≤ r'.retries
  (env.pick.choose least).bind t.row

/-- `DELETE FROM smtp_mdns WHERE retries > 6` -/
def purge (t : Mdns) : Mdns := t.deleteWhere fun r => r.retries > 6

/-- `UPDATE smtp_mdns SET retries=retries+1 WHERE rfc724_mid=?` -/
def countMdnRetry (t : Mdns) (rfc724Mid : String) : Mdns :=
  t.updateWhere (fun r => r.rfc724Mid = rfc724Mid) fun r => { r with retries := r.retries + 1 }

def sendMdn (t : Mdns) : Mdns × Except String Bool :=
  if !env.shouldSendMdns then (t.deleteWhere fun _ => true, .ok false)
  else
    let t := purge t
    match selectMdn env t with
    | none => (t, .ok false)
    | some row =>
      match sendMdnRfc724Mid env (countMdnRetry t row.rfc724Mid) row.rfc724Mid row.fromId with
      | (t, .error e) => (t.deleteWhere fun r => r.rfc724Mid = row.rfc724Mid, .error e)
      | (t, .ok false) => (t, .error "Temporary error while sending an MDN")
      | (t, .ok true) => (t, .ok true)

end

/-! ## what a call writes -/

def sentMids (t : Mdns) (row : Mdn) : List String :=
  row.rfc724Mid ::
    additionalRfc724Mids (countMdnRetry (purge t) row.rfc724Mid) row.fromId row.rfc724Mid

def Sends (env : MdnEnv) (t : Mdns) (row : Mdn) : Prop :=
  env.isBlocked row.fromId = .ok false ∧
    env.send row.fromId row.rfc724Mid
      (additionalRfc724Mids (countMdnRetry (purge t) row.rfc724Mid) row.fromId row.rfc724Mid) = .success

section
variable {env : MdnEnv} {t : Mdns} {row : Mdn}

/-- **a call that takes a row** sends it and deletes all rows with the Message-IDs it sent; or it fails
for now, with the retries counted; or it fails for good and deletes the rows with the Message-ID of the
row -/
theorem sendMdn_cases (hsend : env.shouldSendMdns = true)
    (hrow : selectMdn env (purge t) = some row) :
    (Sends env t row ∧ sendMdn env t = ((sentMids t row).foldl
      (fun t mid => t.deleteWhere fun r => r.rfc724Mid = mid) (countMdnRetry (purge t) row.rfc724Mid),
        .ok true)) ∨
    (¬ Sends env t row ∧ sendMdn env t = (countMdnRetry (purge t) row.rfc724Mid,
      .error "Temporary error while sending an MDN")) ∨
    (¬ Sends env t row ∧ ∃ e, sendMdn env t = ((countMdnRetry (purge t) row.rfc724Mid).deleteWhere
      fun r => r.rfc724Mid = row.rfc724Mid, .error e)) := by
  unfold sendMdn Sends sentMids
  rw [hsend]
  simp only [Bool.not_true, Bool.false_eq_true, if_false, hrow]
  unfold sendMdnRfc724Mid
  rcases hblocked : env.isBlocked row.fromId with e | _ | _
  · exact .inr (.inr ⟨(fun h => nomatch h.1), e, rfl⟩)
  · dsimp only
    rcases hres : env.send row.fromId row.rfc724Mid (additionalRfc724Mids
      (countMdnRetry (purge t) row.rfc724Mid) row.fromId row.rfc724Mid) with _ | e | _
    · exact .inl ⟨⟨rfl, rfl⟩, rfl⟩
    · exact .inr (.inr ⟨(fun h => nomatch h.2), e, rfl⟩)
    · exact .inr (.inl ⟨(fun h => nomatch h.2), rfl⟩)
  · exact .inr (.inr ⟨(fun h => nomatch h.1), _, rfl⟩)

theorem purge_eq_some {id : ℕ} {r : Mdn} :
    (purge t).row id = some r ↔ t.row id = some r ∧ r.retries ≤ 6 := by
  show (t.row id).filter _ = some r ↔ _
  rw [Option.filter_eq_some_iff, Bool.not_eq_true', decide_eq_false_iff_not, not_lt]

theorem countMdnRetry_row {id : ℕ} {r : Mdn} (h : t.row id = some r) (rfc724Mid : String) :
    (countMdnRetry t rfc724Mid).row id =
      some (if r.rfc724Mid = rfc724Mid then { r with retries := r.retries + 1 } else r) := by
  show (t.row id).map _ = _
  rw [h, Option.map_some]
  simp only [decide_eq_true_eq]

theorem mem_sentMids {mid : String} : mid ∈ sentMids t row ↔ mid = row.rfc724Mid ∨
    ∃ id r, t.row id = some r ∧ r.fromId = row.fromId ∧ r.retries ≤ 6 ∧ r.rfc724Mid = mid := by
  unfold sentMids additionalRfc724Mids
  rw [List.mem_cons, List.mem_filterMap]
  refine or_congr_right' fun hne => ?_
  constructor
  · rintro ⟨id, hid, hmap⟩
    obtain ⟨r', hrow', rfl⟩ := Option.map_eq_some_iff.mp hmap
    obtain ⟨r'', hrow'', hcond⟩ := IdTable.mem_ids.mp hid
    rw [hrow'] at hrow''
    cases hrow''
    obtain ⟨r, hrow, -⟩ :=
      Option.map_eq_some_iff.mp (show ((purge t).row id).map _ = some r' from hrow')
    rw [countMdnRetry_row hrow] at hrow'
    obtain ⟨hrow₀, hretries⟩ := purge_eq_some.mp hrow
    cases hrow'
    have hmid : r.rfc724Mid ≠ row.rfc724Mid := by
      intro heq
      rw [if_pos heq] at hne
      exact hne heq
    rw [if_neg hmid, Bool.and_eq_true, decide_eq_true_eq] at hcond
    exact ⟨id, r, hrow₀, hcond.1, hretries, by rw [if_neg hmid]⟩
  · rintro ⟨id, r, hrow, hfrom, hretries, rfl⟩
    have hcount := countMdnRetry_row (purge_eq_some.mpr ⟨hrow, hretries⟩) row.rfc724Mid
    rw [if_neg hne] at hcount
    refine ⟨id, IdTable.mem_ids.mpr ⟨r, hcount, ?_⟩, by rw [hcount, Option.map_some]⟩
    simp [hfrom, hne]

end

/-! ## receipts to other contacts -/

theorem counted_iff {t : Mdns} {id : ℕ} {r : Mdn} (h : t.row id = some r) (rfc724Mid : String) :
    (countMdnRetry (purge t) rfc724Mid).row id = some r ↔ r.retries ≤ 6 ∧ r.rfc724Mid ≠ rfc724Mid := by
  by_cases hretries : r.retries ≤ 6
  · rw [countMdnRetry_row (purge_eq_some.mpr ⟨h, hretries⟩)]
    by_cases hmid : r.rfc724Mid = rfc724Mid
    · rw [if_pos hmid]
      refine iff_of_false (fun heq => ?_) fun hcond => hcond.2 hmid
      have hval : r.retries + 1 = r.retries := congrArg Mdn.retries (Option.some.inj heq)
      omega
    · rw [if_neg hmid]
      exact iff_of_true rfl ⟨hretries, hmid⟩
  · refine iff_of_false (fun heq => ?_) fun hcond => hretries hcond.1
    obtain ⟨r₀, hrow₀, -⟩ := Option.map_eq_some_iff.mp
      (show ((purge t).row id).map _ = some r from heq)
    obtain ⟨hrow, hle⟩ := purge_eq_some.mp hrow₀
    rw [h] at hrow
    cases hrow
    exact hretries hle

/-- **the receipts to other contacts stay as they are iff** none of them has used up its retries, none
has the Message-ID of the row that is taken and, where the receipt is sent, none has the Message-ID of
a receipt that is sent along with it -/
theorem sendMdn_others_iff (env : MdnEnv) (t : Mdns) (row : Mdn)
    (hsend : env.shouldSendMdns = true) (hrow : selectMdn env (purge t) = some row) :
    (∀ id r, t.row id = some r → r.fromId ≠ row.fromId → (sendMdn env t).1.row id = some r) ↔
      ∀ id r, t.row id = some r → r.fromId ≠ row.fromId →
        r.retries ≤ 6 ∧ r.rfc724Mid ≠ row.rfc724Mid ∧
          (Sends env t row → ∀ id' r', t.row id' = some r' → r'.fromId = row.fromId →
            r'.retries ≤ 6 → r'.rfc724Mid ≠ r.rfc724Mid) := by
  refine forall_congr' fun id => forall_congr' fun r => imp_congr_right fun hr =>
    imp_congr_right fun _ => ?_
  have hcounted := counted_iff hr row.rfc724Mid
  rcases sendMdn_cases hsend hrow with ⟨hsends, hrun⟩ | ⟨hsends, hrun⟩ | ⟨hsends, e, hrun⟩
  · have hkept : (!(sentMids t row).any fun mid => r.rfc724Mid = mid) = true ↔
        r.rfc724Mid ∉ sentMids t row := by
      simp only [Bool.not_eq_true', List.any_eq_false, decide_eq_true_eq]
      exact ⟨fun h hmem => h _ hmem rfl, fun h mid hmem heq => h (heq ▸ hmem)⟩
    have hsent : r.rfc724Mid ≠ row.rfc724Mid → (r.rfc724Mid ∉ sentMids t row ↔ ∀ id' r',
        t.row id' = some r' → r'.fromId = row.fromId → r'.retries ≤ 6 →
          r'.rfc724Mid ≠ r.rfc724Mid) := by
      intro hmid
      rw [mem_sentMids, or_iff_right hmid]
      simp only [not_exists, not_and, Ne]
    rw [hrun, IdTable.foldl_deleteWhere_row fun (mid : String) (r : Mdn) => r.rfc724Mid = mid,
      Option.filter_eq_some_iff, hcounted, hkept, and_assoc]
    refine and_congr_right fun _ => and_congr_right fun hmid => ?_
    rw [hsent hmid]
    exact ⟨fun h _ => h, fun h => h hsends⟩
  · rw [hrun]
    show (countMdnRetry (purge t) row.rfc724Mid).row id = some r ↔ _
    rw [hcounted]
    exact and_congr_right fun _ => (and_iff_left fun h => absurd h hsends).symm
  · rw [hrun]
    show ((countMdnRetry (purge t) row.rfc724Mid).row id).filter _ = some r ↔ _
    rw [Option.filter_eq_some_iff, hcounted, Bool.not_eq_true', decide_eq_false_iff_not, and_assoc]
    refine and_congr_right fun _ => ⟨fun h => ⟨h.1, fun hs => absurd hs hsends⟩, fun h => ⟨h.1, h.1⟩⟩

def senderAndSelf : Mdns :=
  (IdTable.empty.insert ⟨20, 10, "a@b", 0⟩).insert ⟨20, ContactId.self, "a@b", 0⟩

def apart : Mdns :=
  ((IdTable.empty.insert ⟨20, 10, "a@b", 0⟩).insert ⟨21, 10, "c@d", 0⟩).insert
    ⟨22, ContactId.self, "e@f", 0⟩

def online : MdnEnv := ⟨true, Pick.first, fun _ => .ok false, fun _ _ _ => .success⟩

/-- the receipt to oneself stays -/
theorem sendMdn_others_iff_apart : (sendMdn online apart).1.row 3 = apart.row 3 := by
  refine (sendMdn_others_iff online apart ⟨20, 10, "a@b", 0⟩ rfl (by decide)).mpr ?_ 3 _ rfl (by decide)
  have hrows : ∀ id r, apart.row id = some r →
      r = ⟨22, ContactId.self, "e@f", 0⟩ ∨ r = ⟨21, 10, "c@d", 0⟩ ∨ r = ⟨20, 10, "a@b", 0⟩ := by
    intro id r h
    rcases IdTable.row_of_insert h with ⟨-, rfl⟩ | h
    · exact .inl rfl
    rcases IdTable.row_of_insert h with ⟨-, rfl⟩ | h
    · exact .inr (.inl rfl)
    rcases IdTable.row_of_insert h with ⟨-, rfl⟩ | h
    · exact .inr (.inr rfl)
    · cases h
  intro id r hr hfrom
  rcases hrows id r hr with rfl | rfl | rfl
  · refine ⟨by decide, by decide, ?_⟩
    intro _ id' r' hr' hfrom' _
    rcases hrows id' r' hr' with rfl | rfl | rfl
    · exact absurd hfrom' (by decide)
    · decide
    · decide
  · exact absurd rfl hfrom
  · exact absurd rfl hfrom

/-- **sent to the contact, the receipt to oneself is gone as well** -/
theorem sendMdn_deletes_self :
    selectMdn online (purge senderAndSelf) = some ⟨20, 10, "a@b", 0⟩ ∧
    (sendMdn online senderAndSelf).2 = .ok true ∧
    senderAndSelf.row 2 = some ⟨20, ContactId.self, "a@b", 0⟩ ∧
    (sendMdn online senderAndSelf).1.row 2 = none := by
  refine ⟨by decide, rfl, rfl, by decide⟩

end EpsilonChat.Smtp
