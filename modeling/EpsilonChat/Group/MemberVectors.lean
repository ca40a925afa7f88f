import EpsilonChat.Base.I64
import EpsilonChat.Base.Ids

/-!
# The member list of an outgoing message

`MimeFactory::from_msg` goes over the rows of a group, newest addition first, and fills vectors with
the addresses, the timestamps and the fingerprints of the members and of the past members.
Addresses that are there already are skipped, tombstones older than 60 days too, and at the end the
own address is taken out of three of the vectors BY ITS POSITION.

* `memberRow`: one round of the loop;
* `finishMembers`: the checks behind the loop and the removal;
* `Aligned`: all vectors list the same rows in the same order;
* **`fromMsg_aligned`**: they always do, and no check fails.

The recipients and keys for sending, which the loop collects as well, are in `Group/Recipients`.
-/

namespace EpsilonChat.MemberList

/-! ## the loop -/

structure ContactRow where
  authname : String
  addr : String
  /-- empty for a contact without a key -/
  fingerprint : String
  id : ContactId
  addTimestamp : I64
  removeTimestamp : I64

structure Sending where
  toLowercase : String → String
  fromAddr : String
  selfFingerprint : String
  attachProfileData : Bool
  isEncrypted : Bool
  undisclosedRecipients : Bool
  now : I64

structure Vectors where
  toAddrs : List (String × String) := []
  memberTimestamps : List I64 := []
  memberFingerprints : List String := []
  pastMembers : List (String × String) := []
  pastMemberTimestamps : List I64 := []
  pastMemberFingerprints : List String := []

/-- `ensure_and_debug_assert!`, or `Vec::remove` beyond the end -/
inductive Failure where
  | ensure (message : String)
  | outOfRange
  deriving DecidableEq, Repr

def recipientsContainAddr (c : Sending) (recipients : List (String × String)) (addr : String) :
    Bool :=
  recipients.any fun r => c.toLowercase r.2 == c.toLowercase addr

def entry (c : Sending) (row : ContactRow) : String × String :=
  (if c.attachProfileData then row.authname else "",
    if row.id = ContactId.self then c.fromAddr else row.addr)

def pushFingerprint (c : Sending) (row : ContactRow) (fingerprints : List String)
    (message : String) : Except Failure (List String) :=
  if c.isEncrypted then
    if row.fingerprint ≠ "" then .ok (fingerprints ++ [row.fingerprint])
    else if row.id = ContactId.self then .ok (fingerprints ++ [c.selfFingerprint])
    else if fingerprints = [] then .ok fingerprints
    else .error (.ensure message)
  else .ok fingerprints

def days60 : I64 := ⟨60 * 24 * 3600, by decide⟩

def memberRow (c : Sending) (v : Vectors) (row : ContactRow) : Except Failure Vectors :=
  if row.addTimestamp ≥ row.removeTimestamp then
    if !recipientsContainAddr c v.toAddrs (entry c row).2 && !c.undisclosedRecipients then
      (pushFingerprint c row v.memberFingerprints
        "If some member is a key-contact, all other members should be key-contacts too").map
        fun fingerprints =>
          { v with
            toAddrs := v.toAddrs ++ [entry c row]
            memberFingerprints := fingerprints
            memberTimestamps := v.memberTimestamps ++ [row.addTimestamp] }
    else .ok v
  else if I64.saturatingAdd row.removeTimestamp days60 > c.now then
    -- a tombstone
    if !recipientsContainAddr c v.pastMembers (entry c row).2 && !c.undisclosedRecipients then
      (pushFingerprint c row v.pastMemberFingerprints
        ("If some past member is a key-contact, " ++
          "all other past members should be key-contacts too")).map
        fun fingerprints =>
          { v with
            pastMembers := v.pastMembers ++ [entry c row]
            pastMemberTimestamps := v.pastMemberTimestamps ++ [row.removeTimestamp]
            pastMemberFingerprints := fingerprints }
    else .ok v
  else .ok v

def memberRows (c : Sending) : List ContactRow → Vectors → Except Failure Vectors
  | [], v => .ok v
  | row :: rows, v => (memberRow c v row).bind (memberRows c rows)

/-! ## behind the loop -/

structure MemberVectors where
  toAddrs : List (String × String)
  pastMembers : List (String × String)
  memberTimestamps : List I64
  memberFingerprints : List String

def ensure (cond : Bool) (message : String) : Except Failure Unit :=
  if cond then .ok () else .error (.ensure message)

def vecRemove {α : Type} (v : List α) (position : ℕ) : Except Failure (List α) :=
  if position < v.length then .ok (v.eraseIdx position) else .error .outOfRange

/-- the own address is not listed, unless it is the only one -/
def removeSelf (c : Sending) (v : Vectors) : Except Failure Vectors :=
  if v.toAddrs.length > 1 then
    match v.toAddrs.findIdx? fun e => e.2 == c.fromAddr with
    | none => .ok v
    | some position => do
      let toAddrs ← vecRemove v.toAddrs position
      let timestamps ← vecRemove v.memberTimestamps position
      let fingerprints ←
        (if c.isEncrypted then vecRemove v.memberFingerprints position
          else .ok v.memberFingerprints)
      return { v with
        toAddrs := toAddrs, memberTimestamps := timestamps, memberFingerprints := fingerprints }
  else .ok v

def finishMembers (c : Sending) (v : Vectors) : Except Failure MemberVectors := do
  ensure (v.memberTimestamps.length ≥ v.toAddrs.length)
    s!"member_timestamps.len() ({v.memberTimestamps.length}) < to.len() ({v.toAddrs.length})"
  ensure (v.memberFingerprints.isEmpty || v.memberFingerprints.length ≥ v.toAddrs.length)
    s!"member_fingerprints.len() ({v.memberFingerprints.length}) < to.len() ({v.toAddrs.length})"
  let v ← removeSelf c v
  return {
    toAddrs := v.toAddrs
    pastMembers := v.pastMembers
    memberTimestamps := v.memberTimestamps ++ v.pastMemberTimestamps
    memberFingerprints :=
      if c.isEncrypted then v.memberFingerprints ++ v.pastMemberFingerprints
      else v.memberFingerprints }

/-- the check at the end of `from_msg`, which `render` makes again under the name `self.…` -/
def ensureLengths (name : String) (v : MemberVectors) : Except Failure Unit :=
  ensure (v.memberTimestamps.isEmpty ||
      v.toAddrs.length + v.pastMembers.length == v.memberTimestamps.length)
    (s!"to.len() ({v.toAddrs.length}) + past_members.len() ({v.pastMembers.length}) != " ++
      s!"{name}.len() ({v.memberTimestamps.length})")

/-- the member vectors of `from_msg`; `rows` are in the order of the query -/
def fromMsg (c : Sending) (rows : List ContactRow) : Except Failure MemberVectors := do
  let v ← memberRows c rows {}
  let v ← finishMembers c v
  ensureLengths "member_timestamps" v
  return v

/-! ## alignment -/

/-- the fingerprint of a contact; that of `SELF` is the one of the own key -/
def fingerprintOf (c : Sending) (row : ContactRow) : String :=
  if row.fingerprint ≠ "" then row.fingerprint else c.selfFingerprint

/-- the rows without the one of the own address, unless it is the only one -/
def withoutSelf (c : Sending) (members : List ContactRow) : List ContactRow :=
  if members.length > 1 then members.eraseP fun row => (entry c row).2 == c.fromAddr else members

/-- the vectors list these members and these past members, each at the same place in all of them -/
structure Aligned (c : Sending) (rows : List ContactRow) (v : MemberVectors)
    (members past : List ContactRow) : Prop where
  toAddrs : v.toAddrs = members.map (entry c)
  pastMembers : v.pastMembers = past.map (entry c)
  timestamps : v.memberTimestamps =
    members.map ContactRow.addTimestamp ++ past.map ContactRow.removeTimestamp
  fingerprints : v.memberFingerprints =
    if c.isEncrypted then (members ++ past).map (fingerprintOf c) else []
  members_sublist : members.Sublist rows
  past_sublist : past.Sublist rows
  members_added : ∀ row ∈ members, row.addTimestamp ≥ row.removeTimestamp
  past_removed : ∀ row ∈ past, row.addTimestamp < row.removeTimestamp ∧
    I64.saturatingAdd row.removeTimestamp days60 > c.now

structure LoopInv (c : Sending) (done : List ContactRow) (v : Vectors)
    (members past : List ContactRow) : Prop where
  toAddrs : v.toAddrs = members.map (entry c)
  memberTimestamps : v.memberTimestamps = members.map ContactRow.addTimestamp
  memberFingerprints : v.memberFingerprints =
    if c.isEncrypted then members.map (fingerprintOf c) else []
  pastMembers : v.pastMembers = past.map (entry c)
  pastMemberTimestamps : v.pastMemberTimestamps = past.map ContactRow.removeTimestamp
  pastMemberFingerprints : v.pastMemberFingerprints =
    if c.isEncrypted then past.map (fingerprintOf c) else []
  members_sublist : members.Sublist done
  past_sublist : past.Sublist done
  members_added : ∀ row ∈ members, row.addTimestamp ≥ row.removeTimestamp
  past_removed : ∀ row ∈ past, row.addTimestamp < row.removeTimestamp ∧
    I64.saturatingAdd row.removeTimestamp days60 > c.now

section
variable {c : Sending} {rows done : List ContactRow} {v : Vectors} {members past : List ContactRow}
  {row : ContactRow}

theorem pushFingerprint_eq
    (hfp : c.isEncrypted = true → row.id ≠ ContactId.self → row.fingerprint ≠ "")
    {fingerprints : List String} {listed : List ContactRow} (message : String)
    (h : fingerprints = if c.isEncrypted then listed.map (fingerprintOf c) else []) :
    pushFingerprint c row fingerprints message =
      .ok (if c.isEncrypted then (listed ++ [row]).map (fingerprintOf c) else []) := by
  unfold pushFingerprint
  by_cases henc : c.isEncrypted = true
  case neg =>
    rw [if_neg henc, h, if_neg henc, if_neg henc]
  case pos =>
    rw [if_pos henc, h, if_pos henc, if_pos henc, List.map_append, List.map_singleton]
    by_cases hne : row.fingerprint ≠ ""
    · rw [if_pos hne, fingerprintOf, if_pos hne]
    · have hself : row.id = ContactId.self := by
        by_contra hid
        exact hne (hfp henc hid)
      rw [if_neg hne, if_pos hself, fingerprintOf, if_neg hne]

theorem LoopInv.skip (inv : LoopInv c done v members past) (row : ContactRow) :
    LoopInv c (done ++ [row]) v members past :=
  { inv with
    members_sublist := inv.members_sublist.trans (List.sublist_append_left done [row])
    past_sublist := inv.past_sublist.trans (List.sublist_append_left done [row]) }

theorem LoopInv.addMember (inv : LoopInv c done v members past)
    (hadd : row.addTimestamp ≥ row.removeTimestamp) :
    LoopInv c (done ++ [row])
      { v with
        toAddrs := v.toAddrs ++ [entry c row]
        memberFingerprints := if c.isEncrypted then (members ++ [row]).map (fingerprintOf c) else []
        memberTimestamps := v.memberTimestamps ++ [row.addTimestamp] }
      (members ++ [row]) past := by
  refine { inv.skip row with
    toAddrs := ?_, memberTimestamps := ?_, memberFingerprints := rfl,
    members_sublist := inv.members_sublist.append (List.Sublist.refl [row]), members_added := ?_ }
  · show v.toAddrs ++ [entry c row] = _
    rw [inv.toAddrs, List.map_append, List.map_singleton]
  · show v.memberTimestamps ++ [row.addTimestamp] = _
    rw [inv.memberTimestamps, List.map_append, List.map_singleton]
  · exact List.forall_mem_append.mpr ⟨inv.members_added, List.forall_mem_singleton.mpr hadd⟩

theorem LoopInv.addPast (inv : LoopInv c done v members past)
    (hremoved : row.addTimestamp < row.removeTimestamp ∧
      I64.saturatingAdd row.removeTimestamp days60 > c.now) :
    LoopInv c (done ++ [row])
      { v with
        pastMembers := v.pastMembers ++ [entry c row]
        pastMemberTimestamps := v.pastMemberTimestamps ++ [row.removeTimestamp]
        pastMemberFingerprints :=
          if c.isEncrypted then (past ++ [row]).map (fingerprintOf c) else [] }
      members (past ++ [row]) := by
  refine { inv.skip row with
    pastMembers := ?_, pastMemberTimestamps := ?_, pastMemberFingerprints := rfl,
    past_sublist := inv.past_sublist.append (List.Sublist.refl [row]), past_removed := ?_ }
  · show v.pastMembers ++ [entry c row] = _
    rw [inv.pastMembers, List.map_append, List.map_singleton]
  · show v.pastMemberTimestamps ++ [row.removeTimestamp] = _
    rw [inv.pastMemberTimestamps, List.map_append, List.map_singleton]
  · exact List.forall_mem_append.mpr ⟨inv.past_removed, List.forall_mem_singleton.mpr hremoved⟩

theorem loopInv_memberRow
    (hfp : c.isEncrypted = true → row.id ≠ ContactId.self → row.fingerprint ≠ "")
    (inv : LoopInv c done v members past) :
    ∃ v' members' past',
      memberRow c v row = .ok v' ∧ LoopInv c (done ++ [row]) v' members' past' := by
  unfold memberRow
  by_cases hadd : row.addTimestamp ≥ row.removeTimestamp
  case pos =>
    rw [if_pos hadd]
    by_cases hnew : (!recipientsContainAddr c v.toAddrs (entry c row).2 &&
        !c.undisclosedRecipients) = true
    case neg =>
      rw [if_neg hnew]
      exact ⟨v, members, past, rfl, inv.skip row⟩
    case pos =>
      rw [if_pos hnew, pushFingerprint_eq hfp _ inv.memberFingerprints]
      exact ⟨_, members ++ [row], past, rfl, inv.addMember hadd⟩
  case neg =>
    rw [if_neg hadd]
    by_cases hrecent : I64.saturatingAdd row.removeTimestamp days60 > c.now
    case neg =>
      rw [if_neg hrecent]
      exact ⟨v, members, past, rfl, inv.skip row⟩
    case pos =>
      rw [if_pos hrecent]
      by_cases hnew : (!recipientsContainAddr c v.pastMembers (entry c row).2 &&
          !c.undisclosedRecipients) = true
      case neg =>
        rw [if_neg hnew]
        exact ⟨v, members, past, rfl, inv.skip row⟩
      case pos =>
        rw [if_pos hnew, pushFingerprint_eq hfp _ inv.pastMemberFingerprints]
        exact ⟨_, members, past ++ [row], rfl, inv.addPast ⟨not_le.mp hadd, hrecent⟩⟩

theorem loopInv_memberRows {todo : List ContactRow}
    (hfp : c.isEncrypted = true → ∀ row ∈ todo, row.id ≠ ContactId.self → row.fingerprint ≠ "")
    (inv : LoopInv c done v members past) :
    ∃ v' members' past',
      memberRows c todo v = .ok v' ∧ LoopInv c (done ++ todo) v' members' past' := by
  induction todo generalizing done v members past with
  | nil =>
    rw [List.append_nil]
    exact ⟨v, members, past, rfl, inv⟩
  | cons row todo ih =>
    obtain ⟨v₁, members₁, past₁, hstep, inv₁⟩ :=
      loopInv_memberRow (fun henc => hfp henc row List.mem_cons_self) inv
    obtain ⟨v₂, members₂, past₂, hrest, inv₂⟩ :=
      ih (fun henc r hr => hfp henc r (List.mem_cons_of_mem _ hr)) inv₁
    rw [List.append_assoc, List.singleton_append] at inv₂
    refine ⟨v₂, members₂, past₂, ?_, inv₂⟩
    rw [memberRows, hstep]
    exact hrest

theorem vecRemove_map {α β : Type} {f : α → β} {l : List α} {position : ℕ}
    (h : position < l.length) :
    vecRemove (l.map f) position = .ok ((l.eraseIdx position).map f) := by
  rw [vecRemove, if_pos (by rw [List.length_map]; exact h), List.eraseIdx_map]

theorem removeSelf_eq (hto : v.toAddrs = members.map (entry c))
    (hts : v.memberTimestamps = members.map ContactRow.addTimestamp)
    (hfp : v.memberFingerprints = if c.isEncrypted then members.map (fingerprintOf c) else []) :
    removeSelf c v = .ok { v with
      toAddrs := (withoutSelf c members).map (entry c)
      memberTimestamps := (withoutSelf c members).map ContactRow.addTimestamp
      memberFingerprints :=
        if c.isEncrypted then (withoutSelf c members).map (fingerprintOf c) else [] } := by
  have hsame : v = { v with
      toAddrs := members.map (entry c)
      memberTimestamps := members.map ContactRow.addTimestamp
      memberFingerprints := if c.isEncrypted then members.map (fingerprintOf c) else [] } := by
    rw [← hto, ← hts, ← hfp]
  have hfind : (v.toAddrs.findIdx? fun e => e.2 == c.fromAddr) =
      members.findIdx? fun row => (entry c row).2 == c.fromAddr := by
    rw [hto, List.findIdx?_map]
    rfl
  unfold removeSelf withoutSelf
  rw [hfind, hto, List.length_map]
  by_cases hlen : members.length > 1
  case neg =>
    rw [if_neg hlen, if_neg hlen]
    exact congrArg Except.ok hsame
  case pos =>
    rw [if_pos hlen, if_pos hlen, List.eraseP_eq_eraseIdx]
    cases hpos : (members.findIdx? fun row => (entry c row).2 == c.fromAddr) with
    | none => exact congrArg Except.ok hsame
    | some position =>
      have hlt : position < members.length :=
        (List.findIdx?_eq_some_iff_findIdx_eq.mp hpos).1
      have hfprs : (if c.isEncrypted then vecRemove v.memberFingerprints position
          else .ok v.memberFingerprints) = .ok (if c.isEncrypted then
            (members.eraseIdx position).map (fingerprintOf c) else []) := by
        rw [hfp]
        by_cases henc : c.isEncrypted = true
        · simp only [henc, if_true]
          exact vecRemove_map hlt
        · simp only [henc]
          rfl
      have hts' : vecRemove v.memberTimestamps position =
          .ok ((members.eraseIdx position).map ContactRow.addTimestamp) := by
        rw [hts, vecRemove_map hlt]
      simp only [vecRemove_map hlt, hts', hfprs, bind, Except.bind, pure, Except.pure]

theorem withoutSelf_sublist (c : Sending) (members : List ContactRow) :
    (withoutSelf c members).Sublist members := by
  unfold withoutSelf
  split
  · exact List.eraseP_sublist
  · exact List.Sublist.refl members

theorem finishMembers_eq (hto : v.toAddrs = members.map (entry c))
    (hts : v.memberTimestamps = members.map ContactRow.addTimestamp)
    (hfp : v.memberFingerprints = if c.isEncrypted then members.map (fingerprintOf c) else []) :
    finishMembers c v = .ok {
      toAddrs := (withoutSelf c members).map (entry c)
      pastMembers := v.pastMembers
      memberTimestamps :=
        (withoutSelf c members).map ContactRow.addTimestamp ++ v.pastMemberTimestamps
      memberFingerprints := if c.isEncrypted then
        (withoutSelf c members).map (fingerprintOf c) ++ v.pastMemberFingerprints else [] } := by
  have htimestamps : decide (v.memberTimestamps.length ≥ v.toAddrs.length) = true := by
    rw [hts, hto, List.length_map, List.length_map]
    exact decide_eq_true le_rfl
  have hfingerprints : (v.memberFingerprints.isEmpty ||
      decide (v.memberFingerprints.length ≥ v.toAddrs.length)) = true := by
    rw [hfp, hto]
    by_cases henc : c.isEncrypted = true
    · simp [henc]
    · simp [henc]
  unfold finishMembers
  simp only [ensure, htimestamps, hfingerprints, if_true, removeSelf_eq hto hts hfp, bind,
    Except.bind, pure, Except.pure]
  by_cases henc : c.isEncrypted = true
  · simp only [henc, if_true]
  · simp only [henc, Bool.false_eq_true, if_false]

theorem finishMembers_aligned (inv : LoopInv c rows v members past) :
    ∃ v' members', finishMembers c v = .ok v' ∧ Aligned c rows v' members' past := by
  have hsub := withoutSelf_sublist c members
  refine ⟨_, withoutSelf c members,
    finishMembers_eq inv.toAddrs inv.memberTimestamps inv.memberFingerprints,
    { toAddrs := rfl
      pastMembers := inv.pastMembers
      timestamps := by rw [inv.pastMemberTimestamps]
      fingerprints := ?_
      members_sublist := hsub.trans inv.members_sublist
      past_sublist := inv.past_sublist
      members_added := fun row hrow => inv.members_added row (hsub.subset hrow)
      past_removed := inv.past_removed }⟩
  rw [inv.pastMemberFingerprints]
  by_cases henc : c.isEncrypted = true
  · simp [henc]
  · simp [henc]

theorem ensureLengths_ok {v : MemberVectors} (h : Aligned c rows v members past) (name : String) :
    ensureLengths name v = .ok () := by
  have hlen : (v.toAddrs.length + v.pastMembers.length == v.memberTimestamps.length) = true := by
    rw [h.toAddrs, h.pastMembers, h.timestamps]
    simp
  rw [ensureLengths, hlen, Bool.or_true]
  rfl

/-- **the vectors are aligned** and no check fails, if an encrypted message only lists contacts with
a key -/
theorem fromMsg_aligned (c : Sending) (rows : List ContactRow)
    (hfp : c.isEncrypted = true → ∀ row ∈ rows, row.id ≠ ContactId.self → row.fingerprint ≠ "") :
    ∃ v members past, fromMsg c rows = .ok v ∧ Aligned c rows v members past := by
  have hstart : LoopInv c [] {} [] [] := by
    refine ⟨rfl, rfl, ?_, rfl, rfl, ?_, List.Sublist.refl [], List.Sublist.refl [],
      fun r h => ?_, fun r h => ?_⟩
    · simp
    · simp
    · cases h
    · cases h
  obtain ⟨v₁, members₁, past, hrows, inv⟩ := loopInv_memberRows hfp hstart
  obtain ⟨v, members, hfinish, haligned⟩ := finishMembers_aligned inv
  refine ⟨v, members, past, ?_, haligned⟩
  unfold fromMsg
  simp only [hrows, hfinish, ensureLengths_ok haligned, bind, Except.bind, pure, Except.pure]

end

end EpsilonChat.MemberList
