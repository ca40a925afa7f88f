import EpsilonChat.Receive.Imf

/-!
# Deletion requests and their authors

A `Chat-Delete` header asks to delete messages by their Message-IDs.  A message that is there is
deleted only for its own sender.  For a Message-ID that is not there a tombstone is written,
WHOEVER asked, and a tombstone makes the message with this Message-ID be ignored.

* `alone`: what a message shows after it was received: its rows outside the trash;
* `blocked`: the look-ups that keep a message out; they are all that `alone` reads of the table
  (`alone_eq`), and they see single rows (`blocked_iff`);
* `requested`: the Message-IDs whose deletion a message asks for with success;
* `receive_adds`: receiving a message of `c` changes no rows of other contacts, so a message that
  came first stays;
* `unaffected_iff`: **a message of `d` is shown in both orders as it is alone iff it shows nothing
  anyway, or is known already, or the request of `c` is not carried out and leaves no tombstone of
  its own in the way.** A request that is itself a pre-message is noted in the row of its
  post-message, and the Message-ID noted before is lost (`KnownElsewhere`, `NotedOver`).
-/

namespace EpsilonChat.Receive
open Lib

section
variable (pick : Pick) (dev : Device)
variable {x : Mail} {m : MimeMessage} {t : Msgs} {c : ContactId}

/-- the look-ups that keep a message out or send it to the trash -/
def blocked (t : Msgs) (x : Mail) : Bool :=
  match x.mime with
  | none => false
  | some m =>
    match m.preMessage with
    | .post => msgIsDownloadedFor pick t x.rfc724Mid
    | .pre postMsgRfc724Mid _ =>
      (rfc724MidExists pick t (x.rfc724MidOrig m)).isSome ||
        (rfc724MidExistsEx pick t postMsgRfc724Mid fun r => r.downloadState ≠ .done).any
          fun found => !found.2
    | .none => (rfc724MidExists pick t (x.rfc724MidOrig m)).isSome

def Mail.blocks (x : Mail) (r : MsgRow) : Bool :=
  match x.mime with
  | none => false
  | some m =>
    match m.preMessage with
    | .post => r.isUnder x.rfc724Mid
    | .pre postMsgRfc724Mid _ =>
      r.isUnder (x.rfc724MidOrig m) || (r.isUnder postMsgRfc724Mid && r.downloadState = .done)
    | .none => r.isUnder (x.rfc724MidOrig m)

def Mail.lookupMid (x : Mail) : String :=
  match x.mime with
  | none => x.rfc724Mid
  | some m => if m.preMessage = .post then x.rfc724Mid else x.rfc724MidOrig m

/-- what the message shows after it was received in the table `t` -/
def alone (t : Msgs) (x : Mail) : List MsgRow :=
  stored (receiveImf pick dev t x).1 (msgIds (receiveImf pick dev t x).2)

/-- the Message-IDs that the loop of `handle_edit_delete` goes through -/
def deletions (m : MimeMessage) : List String :=
  match m.getHeader .chatEdit, m.getHeader .chatDelete, m.parts.head? with
  | none, some rfc724MidList, some part =>
    if part.param.getBool .guaranteeE2ee ≠ some true then [] else deletionList rfc724MidList
  | _, _, _ => []

/-- the Message-IDs whose deletion a message asks for when it is received: none if the message does
not get as far as `handle_edit_delete` -/
def requested (t : Msgs) (x : Mail) : List String :=
  match precheck pick dev t x, x.handshake with
  | .accept m _, .ok .propagate =>
    if irohInstanceMissing pick m (decideTrash pick x.rfc724Mid m t).1 then [] else deletions m
  | _, _ => []

/-- a tombstone is all that is left of the message -/
def tombstoned (t : Msgs) (x : Mail) : Bool :=
  match precheck pick dev t x, x.handshake with
  | .trash, _ => true
  | .accept _ _, .ok .done => true
  | .accept _ _, .ok .ignore => true
  | _, _ => false

/-- the row of its post-message in which an accepted pre-message is noted -/
def notedIn (t : Msgs) (x : Mail) : Option MsgId :=
  match precheck pick dev t x with
  | .accept m _ =>
    match m.preMessage with
    | .pre postMsgRfc724Mid _ =>
      (rfc724MidExistsEx pick t postMsgRfc724Mid fun r => r.downloadState ≠ .done).map (·.1)
    | _ => none
  | _ => none

/-- `m` is looked up under a row in which `r` is not noted -/
def KnownElsewhere (t : Msgs) (m r : Mail) : Prop :=
  ∃ id row, t.row id = some row ∧ m.blocks row ∧ notedIn pick dev t r ≠ some id

/-- `m` is looked up under the row in which `r` is noted, once it is -/
def NotedOver (t : Msgs) (m r : Mail) : Prop :=
  ∃ id row, notedIn pick dev t r = some id ∧ t.row id = some row ∧
    m.blocks { row with preRfc724Mid := r.rfc724Mid }

/-- the message `m` shows the same when it comes before `r`, when it comes after `r` and alone -/
def Unaffected (t : Msgs) (m r : Mail) : Prop :=
  stored (receiveImf pick dev (receiveImf pick dev t m).1 r).1
      (msgIds (receiveImf pick dev t m).2) = alone pick dev t m ∧
    alone pick dev (receiveImf pick dev t r).1 m = alone pick dev t m

/-! ## what a message shows -/

theorem stored_receiveTombstone (t : Msgs) (rfc724Mid : String) :
    stored (receiveTombstone t rfc724Mid).1 (msgIds (receiveTombstone t rfc724Mid).2) = [] :=
  stored_insertRows t [tombstone rfc724Mid]

theorem mem_partRows {fromId : ContactId} {chatId : ChatId} {saveMimeModified : Bool}
    {parts : List Part} {r : MsgRow} (h : r ∈ partRows x m fromId chatId saveMimeModified parts) :
    ∃ part msg typ isTrash, r = partRow x m fromId chatId part msg typ isTrash := by
  induction parts generalizing saveMimeModified with
  | nil => exact absurd h List.not_mem_nil
  | cons part parts ih =>
    rcases List.mem_cons.mp h with h | h
    · exact ⟨part, _, _, _, h⟩
    · exact ih h

theorem partRow_trash (x : Mail) (m : MimeMessage) (fromId : ContactId) (part : Part)
    (msg : String) (typ : Viewtype) (isTrash : Bool) :
    (partRow x m fromId chatIdTrash part msg typ isTrash).chatId = chatIdTrash := ite_self _

theorem partRow_fromId {x : Mail} {m : MimeMessage} {fromId : ContactId} {chatId : ChatId}
    {part : Part} {msg : String} {typ : Viewtype} {isTrash : Bool}
    (h : (partRow x m fromId chatId part msg typ isTrash).chatId ≠ chatIdTrash) :
    (partRow x m fromId chatId part msg typ isTrash).fromId = fromId := by
  cases isTrash with
  | true => exact absurd rfl h
  | false => rfl

/-- what the rows of a message show that are added for the chat `chatId` -/
def shown (x : Mail) (m : MimeMessage) (fromId : ContactId) (chatId : ChatId) : List MsgRow :=
  if m.preMessage = .post ∧ m.getRfc724Mid = none then []
  else
    ((partRows x m fromId (if x.betterMsg = some "" then chatIdTrash else chatId) false
      m.parts).filter fun r => r.chatId ≠ chatIdTrash).map MsgRow.content

theorem shown_trash (x : Mail) (m : MimeMessage) (fromId : ContactId) :
    shown x m fromId chatIdTrash = [] := by
  unfold shown
  split
  · rfl
  · rw [ite_self, List.map_eq_nil_iff, List.filter_eq_nil_iff]
    intro r hr
    obtain ⟨part, msg, typ, isTrash, rfl⟩ := mem_partRows hr
    simp [partRow_trash]

/-- what the message shows if it is not kept out: nothing if it is refused or a control message -/
def content (x : Mail) : List MsgRow :=
  match precheck pick dev IdTable.empty x, x.handshake with
  | .accept m fromId, .ok .propagate =>
    shown x m fromId (if isControl m then chatIdTrash else x.chatId)
  | _, _ => []

/-! ## what edits, deletions and post-messages do to the table -/

theorem deleteRequested_cases (c : ContactId) (t : Msgs) (rfc724Mid : String) :
    (rfc724MidExists pick t rfc724Mid = none ∧
        deleteRequested pick c t rfc724Mid = insertTombstone t rfc724Mid) ∨
      ((rfc724MidExists pick t rfc724Mid).isSome ∧
        OwnUpdate c t (deleteRequested pick c t rfc724Mid)) := by
  unfold deleteRequested
  split
  · next he => exact .inl ⟨he, rfl⟩
  · next msgId he =>
    refine .inr ⟨by rw [he]; rfl, ?_⟩
    split
    · exact .inl rfl
    · next msg hload =>
      split
      · exact .inl rfl
      · next hfrom =>
        refine .inr ⟨msgId, msg, _, hload, not_not.mp hfrom, ?_, rfl⟩
        exact fun _ _ => rfl

theorem handleEdit_own (m : MimeMessage) (c : ContactId) (t : Msgs) (rfc724Mid : String) :
    OwnUpdate c t (handleEdit pick m c t rfc724Mid) := by
  unfold handleEdit
  split
  · exact .inl rfl
  · next msgId _ =>
    split
    · exact .inl rfl
    · next originalMsg hload =>
      split
      · exact .inl rfl
      · next hfrom =>
        split
        · exact .inl rfl
        · dsimp only
          split
          · exact .inl rfl
          · refine .inr ⟨msgId, originalMsg, _, hload, not_not.mp hfrom, ?_, rfl⟩
            exact fun _ _ => rfl

theorem handlePostMessage_cases (m : MimeMessage) (c : ContactId) (t : Msgs) :
    (m.preMessage = .post ∧ m.getRfc724Mid = none ∧
        ∃ e, handlePostMessage pick m c t = .error e) ∨
      ¬ (m.preMessage = .post ∧ m.getRfc724Mid = none) ∧
        ∃ t', handlePostMessage pick m c t = .ok t' ∧ OwnUpdate c t t' := by
  unfold handlePostMessage
  split
  · next hpost => exact .inr ⟨fun h => hpost h.1, t, rfl, .inl rfl⟩
  · next hpost =>
    split
    · next hmid => exact .inl ⟨not_not.mp hpost, hmid, _, rfl⟩
    · next rfc724Mid hmid =>
      refine .inr ⟨fun h => (by cases hmid.symm.trans h.2), ?_⟩
      split
      · exact ⟨t, rfl, .inl rfl⟩
      · next msgId _ =>
        split
        · next originalMsg part hload _ =>
          dsimp only
          split
          · exact ⟨t, rfl, .inl rfl⟩
          · next hfrom =>
            split
            · exact ⟨t, rfl, .inl rfl⟩
            · split
              · exact ⟨t, rfl, .inl rfl⟩
              · have hown : originalMsg.fromId = c := (not_not.mp hfrom).symm
                refine ⟨_, rfl, .inr ⟨msgId, originalMsg, _, hload, hown, ?_, rfl⟩⟩
                exact fun _ _ => rfl
        · exact ⟨t, rfl, .inl rfl⟩

theorem stored_addParts (x : Mail) (m : MimeMessage) (fromId : ContactId) (chatId : ChatId)
    (t : Msgs) (h : irohInstanceMissing pick m t = true → chatId = chatIdTrash) :
    stored (addParts pick x m fromId chatId t).1 (msgIds (addParts pick x m fromId chatId t).2)
      = shown x m fromId chatId := by
  unfold addParts
  dsimp only
  by_cases hiroh : irohInstanceMissing pick m t = true
  · rw [if_pos hiroh, h hiroh, shown_trash]
    rfl
  rw [if_neg hiroh]
  rcases handlePostMessage_cases pick m fromId (handleEditDelete pick m fromId t) with
    ⟨hpost, hmid, e, hp⟩ | ⟨hmid, t', hp, -⟩
  · rw [hp, shown, if_pos (And.intro hpost hmid)]
    rfl
  · rw [hp, shown, if_neg hmid]
    exact stored_insertRows t' _

/-! ## the look-ups are all that is read of the table -/

theorem precheck_accept {fromId : ContactId} (h : precheck pick dev t x = .accept m fromId) :
    x.mime = some m ∧ x.fromId = some fromId ∧
      ¬ (m.preMessage ≠ .post ∧ (rfc724MidExists pick t (x.rfc724MidOrig m)).isSome) := by
  unfold precheck at h
  cases hm : x.mime with
  | none =>
    rw [hm] at h
    dsimp only at h
    split at h <;> cases h
  | some m' =>
    rw [hm] at h
    dsimp only at h
    split at h
    · cases h
    · split at h
      · cases h
      · split at h
        · cases h
        · next hknown =>
          cases hf : x.fromId with
          | none => rw [hf] at h; cases h
          | some fromId' => rw [hf] at h; cases h; exact ⟨rfl, rfl, hknown⟩

theorem blocked_iff : blocked pick t x = true ↔ t.Any x.blocks := by
  unfold blocked Mail.blocks
  cases x.mime with
  | none => simp [IdTable.Any]
  | some m =>
    dsimp only
    cases m.preMessage with
    | post => exact rfc724MidExists_isSome pick
    | pre mid metadata =>
      dsimp only
      rw [Bool.or_eq_true, rfc724MidExists_isSome, rfc724MidExistsEx_any, IdTable.any_or]
      simp
    | none => exact rfc724MidExists_isSome pick

theorem blocked_of_isUnder (hm : x.mime = some m) (h : t.Any (MsgRow.isUnder x.lookupMid)) :
    blocked pick t x = true := by
  obtain ⟨id, r, hr, hunder⟩ := h
  refine (blocked_iff pick).mpr ⟨id, r, hr, ?_⟩
  unfold Mail.lookupMid at hunder
  unfold Mail.blocks
  rw [hm] at hunder ⊢
  dsimp only at hunder ⊢
  cases hp : m.preMessage with
  | post =>
    rw [hp, if_pos rfl] at hunder
    exact hunder
  | pre mid metadata =>
    rw [hp, if_neg (by simp)] at hunder
    dsimp only
    rw [hunder, Bool.true_or]
  | none =>
    rw [hp, if_neg (by simp)] at hunder
    exact hunder

theorem known_of_blocked (hm : x.mime = some m) (hb : blocked pick t x = false) :
    ¬ (m.preMessage ≠ .post ∧ (rfc724MidExists pick t (x.rfc724MidOrig m)).isSome) := by
  rintro ⟨hpost, hknown⟩
  have hlookup : x.lookupMid = x.rfc724MidOrig m := by
    rw [Mail.lookupMid, hm]
    exact if_neg hpost
  rw [rfc724MidExists_isSome, ← hlookup] at hknown
  exact Bool.false_ne_true (hb.symm.trans (blocked_of_isUnder pick hm hknown))

theorem precheck_congr {t' : Msgs} (hb : blocked pick t x = false)
    (hb' : blocked pick t' x = false) : precheck pick dev t x = precheck pick dev t' x := by
  unfold precheck
  cases hm : x.mime with
  | none => rfl
  | some m =>
    dsimp only
    rw [if_neg (known_of_blocked pick hm hb), if_neg (known_of_blocked pick hm hb')]

theorem decideTrash_eq (hm : x.mime = some m)
    (hknown : ¬ (m.preMessage ≠ .post ∧ (rfc724MidExists pick t (x.rfc724MidOrig m)).isSome)) :
    (decideTrash pick x.rfc724Mid m t).2 = (isControl m || blocked pick t x) := by
  unfold decideTrash blocked
  rw [hm]
  dsimp only
  cases hp : m.preMessage with
  | post => rfl
  | pre mid metadata =>
    rw [hp] at hknown
    have hnone : (rfc724MidExists pick t (x.rfc724MidOrig m)).isSome = false := by
      simpa using hknown
    dsimp only
    rw [hnone, Bool.false_or]
    cases rfc724MidExistsEx pick t mid fun r => r.downloadState ≠ .done with
    | none => simp
    | some found => rfl
  | none =>
    rw [hp] at hknown
    have hnone : (rfc724MidExists pick t (x.rfc724MidOrig m)).isSome = false := by
      simpa using hknown
    dsimp only
    rw [hnone, Bool.or_false]

theorem irohInstanceMissing_of_not_control (t : Msgs) (h : isControl m = false) :
    irohInstanceMissing pick m t = false := by
  have hnone : (m.getHeader .irohNodeAddr).isSome = false := by
    by_contra hsome
    rw [Bool.not_eq_false] at hsome
    unfold isControl at h
    simp [hsome] at h
  rw [irohInstanceMissing, hnone, Bool.false_and]

theorem alone_verdict (t : Msgs) (x : Mail) :
    alone pick dev t x =
      match precheck pick dev t x, x.handshake with
      | .accept m fromId, .ok .propagate =>
        shown x m fromId (if isControl m || blocked pick t x then chatIdTrash else x.chatId)
      | _, _ => [] := by
  unfold alone receiveImf
  cases hv : precheck pick dev t x with
  | trash => exact stored_receiveTombstone t x.rfc724Mid
  | ignore => rfl
  | accept m fromId =>
    obtain ⟨hm, -, hknown⟩ := precheck_accept pick dev hv
    dsimp only
    rcases x.handshake with e | _ | _ | _
    · rfl
    · exact stored_receiveTombstone _ x.rfc724Mid
    · exact stored_receiveTombstone _ x.rfc724Mid
    · dsimp only
      rw [← decideTrash_eq pick hm hknown]
      refine stored_addParts pick x m fromId _ _ fun hiroh => ?_
      have hcontrol : isControl m = true := by
        by_contra hc
        rw [irohInstanceMissing_of_not_control pick _ (Bool.not_eq_true _ ▸ hc)] at hiroh
        cases hiroh
      rw [decideTrash_eq pick hm hknown, hcontrol]
      rfl

theorem blocked_empty (x : Mail) : blocked pick IdTable.empty x = false := by
  rw [Bool.eq_false_iff, ne_eq, blocked_iff]
  exact IdTable.not_any_empty

theorem alone_eq (t : Msgs) (x : Mail) :
    alone pick dev t x = if blocked pick t x then [] else content pick dev x := by
  rw [alone_verdict]
  by_cases hb : blocked pick t x = true
  · rw [if_pos hb, hb]
    split
    · rw [Bool.or_true, if_pos rfl, shown_trash]
    · rfl
  · have hb : blocked pick t x = false := Bool.not_eq_true _ ▸ hb
    rw [hb, if_neg Bool.false_ne_true, content,
      precheck_congr pick dev hb (blocked_empty pick x)]
    simp only [Bool.or_false]

/-! ## rows of other contacts stay -/

theorem deleteRequested_keeps (c : ContactId) (t : Msgs) (rfc724Mid : String) :
    Keeps c t (deleteRequested pick c t rfc724Mid) := by
  rcases deleteRequested_cases pick c t rfc724Mid with ⟨-, h⟩ | ⟨-, h⟩
  · rw [h]
    exact keeps_insert t _
  · exact h.keeps

theorem handleEditDelete_keeps (m : MimeMessage) (c : ContactId) (t : Msgs) :
    Keeps c t (handleEditDelete pick m c t) := by
  unfold handleEditDelete
  split
  · exact (handleEdit_own pick m c t _).keeps
  · split
    · split
      · exact Keeps.refl t
      · next rfc724MidList _ _ _ _ =>
        refine List.foldlRecOn (motive := Keeps c t) _ _ (Keeps.refl t) fun t' ht' mid _ => ?_
        exact ht'.trans (deleteRequested_keeps pick c t' mid)
    · exact Keeps.refl t

theorem decideTrash_keeps (c : ContactId) (rfc724Mid : String) (m : MimeMessage) (t : Msgs) :
    Keeps c t (decideTrash pick rfc724Mid m t).1 := by
  unfold decideTrash
  split
  · exact Keeps.refl t
  · split
    · exact keeps_update fun r _ => ⟨fun h => h, fun _ _ => rfl⟩
    · exact Keeps.refl t
  · exact Keeps.refl t

theorem mem_insertRows {rows : List MsgRow} {id : MsgId} (h : id ∈ (insertRows t rows).2) :
    ∃ r ∈ rows, (insertRows t rows).1.row id = some r := by
  induction rows generalizing t with
  | nil => exact absurd h List.not_mem_nil
  | cons r rows ih =>
    rcases List.mem_cons.mp h with rfl | h
    · have hle : t.seq + 1 ≤ (t.insert r).seq := Nat.le_refl _
      exact ⟨r, List.mem_cons_self, (insertRows_row hle).trans (IdTable.insert_row_new t r)⟩
    · obtain ⟨r', hr', hrow⟩ := ih h
      exact ⟨r', List.mem_cons_of_mem _ hr', hrow⟩

/-- what is done in the name of `c`: rows of others are kept, and the rows that are added are in the
trash or from `c` -/
def Adds (c : ContactId) (t : Msgs) (received : Received) : Prop :=
  ∃ t' rows, Keeps c t t' ∧ received.1 = (insertRows t' rows).1 ∧
    msgIds received.2 = (insertRows t' rows).2 ∧ ∀ r ∈ rows, r.chatId ≠ chatIdTrash → r.fromId = c

theorem Keeps.adds_nil {received : Received} (h : Keeps c t received.1)
    (hids : msgIds received.2 = []) : Adds c t received :=
  ⟨received.1, [], h, rfl, hids, nofun⟩

theorem Keeps.adds_tombstone {t' : Msgs} (h : Keeps c t t') (rfc724Mid : String) :
    Adds c t (receiveTombstone t' rfc724Mid) :=
  ⟨t', [tombstone rfc724Mid], h, rfl, rfl, fun _ hr hchat => by
    cases List.mem_singleton.mp hr
    exact absurd rfl hchat⟩

theorem addParts_adds {t₀ : Msgs} (h : Keeps c t₀ t) (x : Mail) (m : MimeMessage)
    (chatId : ChatId) : Adds c t₀ (addParts pick x m c chatId t) := by
  have hedit := h.trans (handleEditDelete_keeps pick m c t)
  unfold addParts
  dsimp only
  split
  · exact h.adds_nil rfl
  · rcases handlePostMessage_cases pick m c (handleEditDelete pick m c t) with
      ⟨-, -, e, hp⟩ | ⟨-, t', hp, hown⟩
    · rw [hp]
      exact hedit.adds_nil rfl
    · rw [hp]
      refine ⟨t', _, hedit.trans hown.keeps, rfl, rfl, fun r hr => ?_⟩
      obtain ⟨part, msg, typ, isTrash, rfl⟩ := mem_partRows hr
      exact partRow_fromId

theorem receive_adds (hc : x.fromId = some c) (t : Msgs) : Adds c t (receiveImf pick dev t x) := by
  unfold receiveImf
  cases hv : precheck pick dev t x with
  | trash => exact (Keeps.refl t).adds_tombstone _
  | ignore => exact (Keeps.refl t).adds_nil rfl
  | accept m fromId =>
    obtain ⟨-, hfrom, -⟩ := precheck_accept pick dev hv
    cases hfrom.symm.trans hc
    have hdecide := decideTrash_keeps pick c x.rfc724Mid m t
    dsimp only
    rcases x.handshake with e | _ | _ | _
    · exact hdecide.adds_nil rfl
    · exact hdecide.adds_tombstone _
    · exact hdecide.adds_tombstone _
    · exact addParts_adds pick hdecide x m _

/-! ## known Message-IDs -/

section
variable {k : String}
variable {c : ContactId} {t : Msgs}

theorem hasMid_deleteRequested {rfc724Mid : String} (htrim : trimMid rfc724Mid = rfc724Mid)
    (h : HasMid t k ∨ k = rfc724Mid) : HasMid (deleteRequested pick c t rfc724Mid) k := by
  rcases deleteRequested_cases pick c t rfc724Mid with ⟨-, heq⟩ | ⟨he, hown⟩
  · rw [heq]
    refine IdTable.any_insert.mpr (h.imp_right ?_)
    rintro rfl
    simp [MsgRow.hasMid, tombstone]
  · refine hown.hasMid.mpr (h.elim (fun h => h) ?_)
    rintro rfl
    exact htrim ▸ (any_isUnder.mp ((rfc724MidExists_isSome pick).mp he)).2

theorem hasMid_deletions {l : List String} (htrim : ∀ mid ∈ l, trimMid mid = mid)
    (h : HasMid t k ∨ k ∈ l) : HasMid (l.foldl (deleteRequested pick c) t) k := by
  induction l generalizing t with
  | nil => exact h.resolve_right List.not_mem_nil
  | cons mid l ih =>
    rw [List.mem_cons, ← or_assoc] at h
    have hone := hasMid_deleteRequested (k := k) (c := c) (t := t) pick (htrim mid List.mem_cons_self)
    rw [List.foldl_cons]
    exact ih (fun mid' h => htrim mid' (List.mem_cons_of_mem _ h)) (h.imp_left hone)

theorem hasMid_handleEditDelete {m : MimeMessage} (h : k ∈ deletions m) :
    HasMid (handleEditDelete pick m c t) k := by
  unfold deletions at h
  split at h
  · next rfc724MidList part hedit hdelete hpart =>
    split at h
    · exact absurd h List.not_mem_nil
    · next he2ee =>
      unfold handleEditDelete
      rw [hedit, hdelete, hpart]
      dsimp only
      rw [if_neg he2ee]
      refine hasMid_deletions pick (fun mid hmid => ?_) (.inr h)
      obtain ⟨mid', -, rfl⟩ := List.mem_map.mp hmid
      exact trimMid_trimMid mid'
  · exact absurd h List.not_mem_nil

theorem hasMid_addParts (x : Mail) {m : MimeMessage} (c : ContactId) (chatId : ChatId)
    (hiroh : irohInstanceMissing pick m t = false) (h : k ∈ deletions m) :
    HasMid (addParts pick x m c chatId t).1 k := by
  have hedit := hasMid_handleEditDelete pick (c := c) (t := t) h
  unfold addParts
  dsimp only
  rw [hiroh, if_neg Bool.false_ne_true]
  rcases handlePostMessage_cases pick m c (handleEditDelete pick m c t) with
    ⟨-, -, e, hp⟩ | ⟨-, t', hp, hown⟩
  · rw [hp]
    exact hedit
  · rw [hp]
    exact any_insertRows.mpr (.inl (hown.hasMid.mpr hedit))

theorem hasMid_of_requested {x : Mail} (h : k ∈ requested pick dev t x) :
    HasMid (receiveImf pick dev t x).1 k := by
  unfold requested at h
  split at h
  · next m fromId hv hhandshake =>
    split at h
    · exact absurd h List.not_mem_nil
    · next hiroh =>
      unfold receiveImf
      rw [hv, hhandshake]
      exact hasMid_addParts pick x fromId _ (Bool.not_eq_true _ ▸ hiroh) h
  · exact absurd h List.not_mem_nil

end

/-! ## both orders -/

theorem content_broken {x : Mail} (hm : x.mime = none) : content pick dev x = [] := by
  unfold content
  split
  · next h _ => cases (precheck_accept pick dev h).1.symm.trans hm
  · rfl

theorem shown_before {c d : ContactId} {m r : Mail} (hd : m.fromId = some d)
    (hc : r.fromId = some c) (hne : c ≠ d) (t : Msgs) :
    stored (receiveImf pick dev (receiveImf pick dev t m).1 r).1
      (msgIds (receiveImf pick dev t m).2) = alone pick dev t m := by
  obtain ⟨t', rows, -, htable, hids, hrows⟩ := receive_adds pick dev hd t
  obtain ⟨t'', rows', hkeeps, htable', -⟩ := receive_adds pick dev hc (receiveImf pick dev t m).1
  refine stored_of_keeps (htable' ▸ hkeeps.trans (keeps_insertRows t'' rows')) fun id hid => ?_
  obtain ⟨row, hmem, hrow⟩ := mem_insertRows (hids ▸ hid)
  exact ⟨row, htable ▸ hrow, fun htrash => hrows row hmem htrash ▸ hne.symm⟩

theorem ite_nil_eq_ite_nil {α : Type*} {l : List α} {b b' : Bool} :
    (if b' then [] else l) = (if b then [] else l) ↔ l = [] ∨ b' = b := by
  cases b <;> cases b' <;> simp [eq_comm]

theorem blocked_receiveTombstone {t : Msgs} {rfc724Mid : String} {m : Mail} :
    blocked pick (receiveTombstone t rfc724Mid).1 m = true ↔
      m.blocks (tombstone rfc724Mid) ∨ blocked pick t m = true := by
  show blocked pick (t.insert (tombstone rfc724Mid)) m = true ↔ _
  rw [blocked_iff, blocked_iff, IdTable.any_insert, or_comm]

/-- the table after `decide_chat_assignment`: only the row in which `r` is noted has changed -/
theorem blocked_decideTrash {t : Msgs} {m r : Mail} {request : MimeMessage} {fromId : ContactId}
    (hv : precheck pick dev t r = .accept request fromId) :
    blocked pick (decideTrash pick r.rfc724Mid request t).1 m = true ↔
      KnownElsewhere pick dev t m r ∨ NotedOver pick dev t m r := by
  have hnoted : notedIn pick dev t r = match request.preMessage with
      | .pre mid _ => (rfc724MidExistsEx pick t mid fun r => r.downloadState ≠ .done).map (·.1)
      | _ => none := by
    unfold notedIn
    rw [hv]
  have hnone (hn : notedIn pick dev t r = none) :
      blocked pick t m = true ↔ KnownElsewhere pick dev t m r ∨ NotedOver pick dev t m r := by
    simp [blocked_iff, KnownElsewhere, NotedOver, hn, IdTable.Any]
  unfold decideTrash
  cases hp : request.preMessage with
  | post => exact hnone (by rw [hnoted, hp])
  | none => exact hnone (by rw [hnoted, hp])
  | pre mid metadata =>
    rw [hp] at hnoted
    dsimp only at hnoted ⊢
    cases hfound : rfc724MidExistsEx pick t mid fun r => r.downloadState ≠ .done with
    | none => exact hnone (by rw [hnoted, hfound]; rfl)
    | some found =>
      rw [hfound] at hnoted
      dsimp only [Option.map_some] at hnoted ⊢
      rw [blocked_iff, IdTable.any_update_iff, KnownElsewhere, NotedOver, hnoted]
      simp only [ne_eq, Option.some.injEq, exists_and_left, exists_eq_left', @eq_comm _ _ found.1]

theorem blocked_receive {t : Msgs} {m r : Mail} {mime request : MimeMessage}
    (hm : m.mime = some mime) (hmid : trimMid m.lookupMid ≠ "") (hr : r.mime = some request)
    (hreq : trimMid m.lookupMid ∈ deletions request) :
    blocked pick (receiveImf pick dev t r).1 m = true ↔
      KnownElsewhere pick dev t m r ∨ trimMid m.lookupMid ∈ requested pick dev t r ∨
        (tombstoned pick dev t r ∧ m.blocks (tombstone r.rfc724Mid)) ∨
        NotedOver pick dev t m r := by
  by_cases hdone : trimMid m.lookupMid ∈ requested pick dev t r
  · have hknown := any_isUnder.mpr ⟨hmid, hasMid_of_requested pick dev hdone⟩
    simp only [blocked_of_isUnder pick hm hknown, hdone, true_or, or_true]
  rw [or_iff_right (a := trimMid m.lookupMid ∈ requested pick dev t r) hdone]
  unfold requested at hdone
  unfold receiveImf tombstoned
  cases hv : precheck pick dev t r with
  | trash =>
    rw [blocked_receiveTombstone]
    simp [KnownElsewhere, NotedOver, notedIn, hv, blocked_iff, IdTable.Any, or_comm]
  | ignore => simp [KnownElsewhere, NotedOver, notedIn, hv, blocked_iff, IdTable.Any]
  | accept m' fromId =>
    cases hr.symm.trans (precheck_accept pick dev hv).1
    have hdecide := blocked_decideTrash pick dev (m := m) hv
    rw [hv] at hdone
    dsimp only
    rcases hhandshake : r.handshake with e | _ | _ | _
    · simp [hdecide]
    · simp [blocked_receiveTombstone, hdecide, or_left_comm]
    · simp [blocked_receiveTombstone, hdecide, or_left_comm]
    · -- the request is not carried out, so `add_parts` ended early
      have hiroh : irohInstanceMissing pick request (decideTrash pick r.rfc724Mid request t).1
          = true := by
        by_contra hiroh
        rw [hhandshake] at hdone
        dsimp only at hdone
        rw [if_neg hiroh] at hdone
        exact hdone hreq
      simp [addParts, hiroh, hdecide]

theorem blocked_of_knownElsewhere {t : Msgs} {m r : Mail} (h : KnownElsewhere pick dev t m r) :
    blocked pick t m = true := by
  obtain ⟨id, row, hrow, hblocks, -⟩ := h
  exact (blocked_iff pick).mpr ⟨id, row, hrow, hblocks⟩

theorem or_iff_cases {known left₁ left₂ left₃ before : Prop} (h : known → before) :
    (known ∨ left₁ ∨ left₂ ∨ left₃ ↔ before) ↔
      known ∨ (before ∧ (left₁ ∨ left₂ ∨ left₃)) ∨ (¬ before ∧ ¬ left₁ ∧ ¬ left₂ ∧ ¬ left₃) := by
  tauto

/-- a message of `d`, and an encrypted message of somebody else that asks to delete it -/
theorem unaffected_iff {c d : ContactId} {m r : Mail} {request : MimeMessage} (t : Msgs)
    (hd : m.fromId = some d) (hc : r.fromId = some c) (hne : c ≠ d)
    (hmid : trimMid m.lookupMid ≠ "") (hr : r.mime = some request)
    (hreq : trimMid m.lookupMid ∈ deletions request) :
    Unaffected pick dev t m r ↔
      content pick dev m = [] ∨
      -- kept out before and after
      KnownElsewhere pick dev t m r ∨
      (blocked pick t m = true ∧ (trimMid m.lookupMid ∈ requested pick dev t r ∨
        (tombstoned pick dev t r ∧ m.blocks (tombstone r.rfc724Mid)) ∨
        NotedOver pick dev t m r)) ∨
      -- kept out neither before nor after
      (blocked pick t m = false ∧ trimMid m.lookupMid ∉ requested pick dev t r ∧
        ¬ (tombstoned pick dev t r ∧ m.blocks (tombstone r.rfc724Mid)) ∧
        ¬ NotedOver pick dev t m r) := by
  -- the order in which `m` comes first does not matter, and in the other one only the look-ups do
  rw [Unaffected, and_iff_right (shown_before pick dev hd hc hne t),
    alone_eq pick dev (receiveImf pick dev t r).1, alone_eq pick dev t, ite_nil_eq_ite_nil]
  rcases hm : m.mime with _ | mime
  · simp only [content_broken pick dev hm, true_or]
  rw [Bool.eq_iff_iff, blocked_receive pick dev hm hmid hr hreq, ← Bool.not_eq_true]
  refine or_congr_right (or_iff_cases ?_)
  exact blocked_of_knownElsewhere pick dev

end

/-! ## a request that comes first -/

def hello : Mail where
  rfc724Mid := "hello@localhost"
  mime := some { headers := headersOf [(.messageId, "<hello@localhost>")],
                 parts := [{ msg := "hello" }] }
  fromId := some 10
  chatId := 12

def request : Mail where
  rfc724Mid := "request@localhost"
  mime := some { headers := headersOf [(.messageId, "<request@localhost>"),
                   (.chatDelete, "<hello@localhost>")],
                 signature := some ("11FF", []),
                 parts := [{ msg := "🚮", param := Params.new.set .guaranteeE2ee "1" }] }
  fromId := some 11
  chatId := 13

/-- the message of contact 10 is stored if it comes alone, and lost if the request of contact 11
comes first -/
theorem request_first_suppresses :
    (alone Pick.first {} IdTable.empty hello).length = 1 ∧
      (alone Pick.first {} (receiveImf Pick.first {} IdTable.empty request).1 hello).length = 0 ∧
      ¬ Unaffected Pick.first {} IdTable.empty hello request := by
  have halone : (alone Pick.first {} IdTable.empty hello).length = 1 := by decide +kernel
  have hafter :
      (alone Pick.first {} (receiveImf Pick.first {} IdTable.empty request).1 hello).length = 0 := by
    decide +kernel
  refine ⟨halone, hafter, fun h => ?_⟩
  rw [h.2, halone] at hafter
  cases hafter

/-- the same request for a message that is there already and comes again, and a request that
Secure-Join ignores -/
theorem unaffected_iff_known :
    Unaffected Pick.first {} (receiveImf Pick.first {} IdTable.empty hello).1 hello request ∧
      Unaffected Pick.first {} IdTable.empty hello { request with handshake := .ok .ignore } := by
  constructor
  · refine (unaffected_iff Pick.first {} _ rfl rfl (by decide) (by decide +kernel) rfl
      (by decide +kernel)).mpr (.inr (.inl ?_))
    exact ⟨1, _, rfl, by decide +kernel, by decide +kernel⟩
  · refine (unaffected_iff Pick.first {} _ rfl rfl (by decide) (by decide +kernel) rfl
      (by decide +kernel)).mpr (.inr (.inr (.inr ?_)))
    refine ⟨by decide +kernel, by decide +kernel, by decide +kernel, ?_⟩
    rintro ⟨id, row, -, hrow, -⟩
    cases hrow

end EpsilonChat.Receive
