import EpsilonChat.Lib.Like
import EpsilonChat.Lib.Split
import EpsilonChat.Smtp.Queue

/-!
# An own message comes back

A job of `smtp` holds its recipients as one text, separated by spaces; the own address is the last one
of the last chunk.  When `receive_imf_inner` sees a copy of an own message, the job that went to the
own address was sent, and is deleted.  The statement finds it by two `LIKE` patterns that are made of
the own address as it is, so a `_` or a `%` in the address is a WILDCARD; and nothing behind a NUL is
seen.

* `matchesSelf`: the two patterns;
* `EndsWithAddr`: what they are meant to say: the last recipient is the own address;
* `TailFills`: what they say: the recipients, or those behind some space, are a text the address
  stands for as a pattern (`matchesSelf_iff`);
* `receivedAgain`: the statements of `receive_imf_inner`;
* `tailFills_of_endsWithAddr`: the job that went to the own address is found, if there is no NUL;
* **`cancels_own_job_iff`**: no other job is, whatever addresses are in the table, IFF the own
  address has no wildcard and no NUL.
-/

namespace EpsilonChat.Smtp

open Lib

/-! ## recipients -/

def lastRecipient (recipients : String) : List Char := recipients.toList.rtakeWhile (· ≠ ' ')

/-- the last recipient is the address, up to ASCII case -/
def EndsWithAddr (addr recipients : String) : Prop := SameText addr.toList (lastRecipient recipients)

instance (addr recipients : String) : Decidable (EndsWithAddr addr recipients) :=
  inferInstanceAs (Decidable (SameText _ _))

/-- `recipients LIKE ?2 OR recipients LIKE ('% ' || ?2)` -/
def matchesSelf (selfAddr recipients : String) : Bool :=
  like selfAddr.toList recipients.toList || like ('%' :: ' ' :: selfAddr.toList) recipients.toList

structure OwnJobs where
  smtp : IdTable SmtpRow
  msgs : MsgId → Option Msg
  events : List Event

def OwnJobs.state (db : OwnJobs) : State := ⟨db.smtp.map SmtpRow.toJob, db.msgs, db.events⟩

def receivedAgain (db : OwnJobs) (msgId : MsgId) (rfc724MidOrig selfAddr : String) : OwnJobs :=
  let db := { db with smtp := db.smtp.deleteWhere fun r =>
    r.rfc724Mid = rfc724MidOrig && matchesSelf selfAddr r.recipients }
  if msgHasPendingSmtpJob db.state msgId then db
  else
    let s := setDelivered db.state msgId
    { db with msgs := s.msgs, events := s.events }

/-- the jobs that are deleted are those of the message that went to the own address -/
def CancelsOwnJob (db : OwnJobs) (msgId : MsgId) (rfc724MidOrig selfAddr : String) : Prop :=
  ∀ id r, db.smtp.row id = some r →
    (receivedAgain db msgId rfc724MidOrig selfAddr).smtp.row id =
      if r.rfc724Mid = rfc724MidOrig ∧ EndsWithAddr selfAddr r.recipients then none else some r

theorem rtakeWhile_append_space {before l : List Char} (h : ∀ c ∈ l, c ≠ ' ') :
    (before ++ ' ' :: l).rtakeWhile (· ≠ ' ') = l := by
  rw [Split.rtakeWhile_append_cons (by simp), List.rtakeWhile_eq_self_iff]
  exact fun c hc => decide_eq_true (h c hc)

theorem rtakeWhile_space (l : List Char) :
    ((∀ c ∈ l, c ≠ ' ') ∧ l.rtakeWhile (· ≠ ' ') = l) ∨
      ∃ before, l = before ++ ' ' :: l.rtakeWhile (· ≠ ' ') := by
  by_cases hmem : ' ' ∈ l.reverse
  · obtain ⟨after, before, hsplit, hafter⟩ := List.eq_append_cons_of_mem hmem
    have hl : l = before.reverse ++ ' ' :: after.reverse := by
      rw [← List.reverse_reverse l, hsplit]
      simp
    refine .inr ⟨before.reverse, ?_⟩
    rw [hl, rtakeWhile_append_space]
    exact fun c hc heq => hafter (heq ▸ List.mem_reverse.mp hc)
  · have hfree : ∀ c ∈ l, c ≠ ' ' := fun c hc heq => hmem (List.mem_reverse.mpr (heq ▸ hc))
    exact .inl ⟨hfree, List.rtakeWhile_eq_self_iff.mpr fun c hc => decide_eq_true (hfree c hc)⟩

theorem space_notMem_of_valid {addr : String} (h : Text.mayBeValidAddr addr = true) :
    ' ' ∉ addr.toList := by
  intro hspace
  have hany : (addr.toList.any fun c => Text.isWhitespace c || c == '<' || c == '>') = true :=
    List.any_eq_true.mpr ⟨' ', hspace, by decide⟩
  unfold Text.mayBeValidAddr Text.emailAddress at h
  simp only [hany, if_true, Option.isSome_none, Bool.false_eq_true] at h

/-! ## the patterns -/

/-- all recipients, or those behind a space, up to the first NUL -/
def TailFills (addr recipients : String) : Prop :=
  ∃ tail, (tail = cString recipients.toList ∨
      ∃ before, cString recipients.toList = before ++ ' ' :: tail) ∧ Fills (cString addr.toList) tail

section
variable {addr recipients : String}

theorem fills_percent_space {pattern text : List Char} : Fills ('%' :: ' ' :: pattern) text ↔
    ∃ before tail, text = before ++ ' ' :: tail ∧ Fills pattern tail := by
  constructor
  · intro h
    obtain ⟨before, rest, rfl, hrest⟩ :
        ∃ before rest, text = before ++ rest ∧ Fills (' ' :: pattern) rest := by
      cases h with
      | percent skipped hrest => exact ⟨skipped, _, rfl, hrest⟩
      | @char _ rest _ c _ hrest => exact ⟨[c], rest, rfl, hrest⟩
    cases hrest with
    | @char _ tail _ c hc htail => exact ⟨before, tail, by rw [toLower_eq_space hc.symm], htail⟩
  · rintro ⟨before, tail, rfl, htail⟩
    exact .percent before (.char rfl htail)

theorem matchesSelf_iff : matchesSelf addr recipients = true ↔ TailFills addr recipients := by
  have hpattern : cString ('%' :: ' ' :: addr.toList) = '%' :: ' ' :: cString addr.toList :=
    cString_append (a := ['%', ' ']) (by decide) _
  unfold matchesSelf TailFills
  rw [Bool.or_eq_true, like_iff, like_iff, hpattern, fills_percent_space]
  constructor
  · rintro (h | ⟨before, tail, heq, h⟩)
    · exact ⟨_, .inl rfl, h⟩
    · exact ⟨tail, .inr ⟨before, heq⟩, h⟩
  · rintro ⟨tail, rfl | ⟨before, heq⟩, h⟩
    · exact .inl h
    · exact .inr ⟨before, tail, heq, h⟩

theorem tailFills_of_endsWithAddr (haddr : '\x00' ∉ addr.toList) (hnul : '\x00' ∉ recipients.toList)
    (h : EndsWithAddr addr recipients) : TailFills addr recipients := by
  refine ⟨lastRecipient recipients, ?_, ?_⟩
  · rw [cString_eq_self hnul]
    exact (rtakeWhile_space recipients.toList).imp And.right id
  · rw [cString_eq_self haddr]
    exact .of_sameText h

theorem endsWithAddr_of_tailFills (hspace : ' ' ∉ addr.toList) (haddr : '\x00' ∉ addr.toList)
    (hplain : ∀ c ∈ addr.toList, isWildcard c = false) (hnul : '\x00' ∉ recipients.toList)
    (h : TailFills addr recipients) : EndsWithAddr addr recipients := by
  obtain ⟨tail, htail, hfills⟩ := h
  rw [cString_eq_self haddr] at hfills
  rw [cString_eq_self hnul] at htail
  have hsame := hfills.sameText hplain
  have hfree : ∀ c ∈ tail, c ≠ ' ' := by
    rintro c hc rfl
    exact hspace (hsame.space_mem hc)
  unfold EndsWithAddr lastRecipient
  rcases htail with rfl | ⟨before, heq⟩
  · rwa [List.rtakeWhile_eq_self_iff.mpr fun c hc => decide_eq_true (hfree c hc)]
  · rwa [heq, rtakeWhile_append_space hfree]

end

theorem endsWithAddr_intercalate {addr : String} (hspace : ' ' ∉ addr.toList) (l : List String) :
    EndsWithAddr addr (" ".intercalate (l ++ [addr])) := by
  have hfree : ∀ c ∈ addr.toList, c ≠ ' ' := by
    rintro c hc rfl
    exact hspace hc
  unfold EndsWithAddr lastRecipient
  by_cases hl : l = []
  · rw [hl, List.nil_append, String.intercalate_singleton,
      List.rtakeWhile_eq_self_iff.mpr fun c hc => decide_eq_true (hfree c hc)]
    rfl
  · have hlist : (" ".intercalate (l ++ [addr])).toList =
        (" ".intercalate l).toList ++ ' ' :: addr.toList := by
      rw [String.intercalate_append_of_ne_nil hl (List.cons_ne_nil _ _),
        String.intercalate_singleton, String.append_assoc, String.toList_append,
        String.toList_append]
      rfl
    rw [hlist, rtakeWhile_append_space hfree]
    rfl

/-! ## the jobs that are deleted -/

section
variable {db : OwnJobs} {msgId : MsgId} {mid addr : String}

theorem receivedAgain_smtp : (receivedAgain db msgId mid addr).smtp =
    db.smtp.deleteWhere fun r => r.rfc724Mid = mid && matchesSelf addr r.recipients := by
  unfold receivedAgain
  dsimp only
  split <;> rfl

theorem cancelsOwnJob_iff : CancelsOwnJob db msgId mid addr ↔
    ∀ id r, db.smtp.row id = some r → r.rfc724Mid = mid →
      (TailFills addr r.recipients ↔ EndsWithAddr addr r.recipients) := by
  unfold CancelsOwnJob
  rw [receivedAgain_smtp]
  refine forall_congr' fun id => forall_congr' fun r => imp_congr_right fun hrow => ?_
  rw [IdTable.deleteWhere_row, hrow, Option.filter_some, ← matchesSelf_iff]
  by_cases hmid : r.rfc724Mid = mid
  case neg => simp [hmid]
  by_cases hends : EndsWithAddr addr r.recipients
  · simp [hmid, hends]
  · simp [hmid, hends]

def oneJob (mid recipients : String) : OwnJobs where
  smtp := IdTable.empty.insert { msgId := 20, rfc724Mid := mid, recipients := recipients, mime := "" }
  msgs _ := none
  events := []

theorem oneJob_row {recipients : String} {id : ℕ} {r : SmtpRow}
    (h : (oneJob mid recipients).smtp.row id = some r) :
    r = { msgId := 20, rfc724Mid := mid, recipients := recipients, mime := "" } := by
  rcases IdTable.row_of_insert h with ⟨-, hr⟩ | hr
  · exact hr
  · cases hr

end

/-- the part of an address before a NUL is another recipient, and a wildcard stands for another one -/
theorem exists_other_recipient {addr : String} (hspace : ' ' ∉ addr.toList)
    (h : ∃ c ∈ addr.toList, isWildcard c = true ∨ c = '\x00') :
    ∃ recipients : String, '\x00' ∉ recipients.toList ∧ TailFills addr recipients ∧
      ¬ EndsWithAddr addr recipients := by
  obtain ⟨text, hnul, hfree, hfills, hother⟩ : ∃ text, '\x00' ∉ text ∧ ' ' ∉ text ∧
      Fills (cString addr.toList) text ∧ ¬ SameText addr.toList text := by
    by_cases haddr : '\x00' ∈ addr.toList
    · have hmem := List.takeWhile_subset (fun c => decide (c ≠ '\x00')) (l := addr.toList)
      refine ⟨cString addr.toList, nul_notMem_cString _, fun hc => hspace (hmem hc),
        .of_sameText rfl, fun hsame => ?_⟩
      have hlen : addr.toList.length = (cString addr.toList).length := by
        simpa using congrArg List.length hsame
      have heq : cString addr.toList = addr.toList := (List.takeWhile_prefix _).eq_of_length hlen.symm
      have hnot := nul_notMem_cString addr.toList
      rw [heq] at hnot
      exact hnot haddr
    · obtain ⟨c, hc, hwild⟩ := h
      have hnot : c ≠ '\x00' := fun heq => haddr (heq ▸ hc)
      obtain ⟨text, hfills, hother, hchars⟩ := exists_fills ⟨c, hc, hwild.resolve_right hnot⟩
      refine ⟨text, fun hc => ?_, fun hc => ?_, ?_, hother⟩
      · exact (hchars _ hc).elim haddr (by decide)
      · exact (hchars _ hc).elim hspace (by decide)
      · rwa [cString_eq_self haddr]
  refine ⟨String.ofList text, by rwa [String.toList_ofList], ⟨text, .inl ?_, hfills⟩, ?_⟩
  · rw [String.toList_ofList, cString_eq_self hnul]
  · unfold EndsWithAddr lastRecipient
    rw [String.toList_ofList, List.rtakeWhile_eq_self_iff.mpr]
    · exact hother
    · exact fun c hc => decide_eq_true fun heq => hfree (heq ▸ hc)

/-- **seeing the own copy cancels only the job that went to the own address**, whatever is in the
table, **iff the address has no `_`, no `%` and no NUL**; for one table, iff the address as a pattern
stands for the recipients of a job of the message, or for those behind a space, only if the last
recipient is the address.  That is where `add_self_recipients` puts the address. -/
theorem cancels_own_job_iff (addr : String) (hvalid : Text.mayBeValidAddr addr = true) :
    ((∀ db msgId mid, (∀ id r, db.smtp.row id = some r → '\x00' ∉ r.recipients.toList) →
        CancelsOwnJob db msgId mid addr) ↔
      ∀ c ∈ addr.toList, ¬ (isWildcard c = true ∨ c = '\x00')) ∧
    (∀ db msgId mid, CancelsOwnJob db msgId mid addr ↔ ∀ id r, db.smtp.row id = some r →
      r.rfc724Mid = mid → (TailFills addr r.recipients ↔ EndsWithAddr addr r.recipients)) ∧
    ∀ env recipients encrypted, env.primarySelfAddr = addr →
      EndsWithAddr addr (" ".intercalate (addSelfRecipients env recipients encrypted)) := by
  have hspace := space_notMem_of_valid hvalid
  refine ⟨⟨?_, ?_⟩, fun db msgId mid => cancelsOwnJob_iff, ?_⟩
  · intro h c hc hbad
    obtain ⟨recipients, hnul, hfills, hother⟩ := exists_other_recipient hspace ⟨c, hc, hbad⟩
    have hcancel := h (oneJob "m@x" recipients) 20 "m@x" ?_
    · exact hother ((cancelsOwnJob_iff.mp hcancel 1 _ rfl rfl).mp hfills)
    · intro id r hrow
      obtain rfl := oneJob_row hrow
      exact hnul
  · intro hgood db msgId mid hnul
    have haddr : '\x00' ∉ addr.toList := fun hc => hgood _ hc (.inr rfl)
    have hplain : ∀ c ∈ addr.toList, isWildcard c = false :=
      fun c hc => Bool.eq_false_iff.mpr fun hwild => hgood c hc (.inl hwild)
    exact cancelsOwnJob_iff.mpr fun id r hrow _ =>
      ⟨endsWithAddr_of_tailFills hspace haddr hplain (hnul id r hrow),
        tailFills_of_endsWithAddr haddr (hnul id r hrow)⟩
  · rintro env recipients encrypted rfl
    exact endsWithAddr_intercalate hspace _

/-- an address without wildcards -/
theorem cancels_own_job_iff_plain :
    CancelsOwnJob (oneJob "m@x" "bob@x.org alice@x.org") 20 "m@x" "alice@x.org" := by
  have hplain : ("alice@x.org".toList.all fun c => !(isWildcard c || c == '\x00')) = true := by decide
  refine (cancels_own_job_iff "alice@x.org" (by decide)).1.mpr ?_ _ _ _ ?_
  · intro c hc
    simpa using List.all_eq_true.mp hplain c hc
  · intro id r hrow
    obtain rfl := oneJob_row hrow
    decide

/-- **the own address has a `_`**: the job to a similar address is deleted; and so is one to a text
with a NUL behind the own address -/
theorem cancels_other_job :
    Text.mayBeValidAddr "a_b@x.org" = true ∧
    ¬ CancelsOwnJob (oneJob "m@x" "a.b@x.org") 20 "m@x" "a_b@x.org" ∧
    (receivedAgain (oneJob "m@x" "a.b@x.org") 20 "m@x" "a_b@x.org").smtp.row 1 = none ∧
    (receivedAgain (oneJob "m@x" "me@x.org\x00z.org") 20 "m@x" "me@x.org").smtp.row 1 = none := by
  have hdeleted : (receivedAgain (oneJob "m@x" "a.b@x.org") 20 "m@x" "a_b@x.org").smtp.row 1 = none := by
    decide
  refine ⟨by decide, fun h => ?_, hdeleted, by decide⟩
  have hkept := h 1 _ rfl
  rw [hdeleted, if_neg (by decide)] at hkept
  cases hkept

end EpsilonChat.Smtp
