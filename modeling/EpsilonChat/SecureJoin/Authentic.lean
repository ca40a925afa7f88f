import EpsilonChat.SecureJoin.Handshake

/-!
# Secure-Join authenticates

Who is marked as verified by the owner of the account, and who is added to a group, in any run of
scanned invites, handled messages and observed messages.

* `Presents`: a message with a token of ours, signed with the key whose fingerprint it carries, and
  meant for us;
* `Grant`: what a program may do: mark contacts as verified, add members, store invites;
* `Within G`: the states that a program with the grant `G` can lead to.  A PREORDER, so it passes
  through programs statement by statement;
* `handle_within`, `start_within`, `observe_within`: the grant of each of the three;
* `authenticated`: **a contact is marked as verified only by a message that presents a fresh token,
  by an invite with its fingerprint, or by an own message that gossips its key; and a message makes
  somebody a member only if it presents a token of that group.**
-/

namespace EpsilonChat.SecureJoin
open Lib Verify Members Settings

/-! ## grants -/

structure Grant where
  /-- contacts that may be marked as verified, with the fingerprint they must have -/
  verify : ContactId → Fingerprint → Prop
  /-- who may be added to the groups and channels with this id -/
  join : String → ContactId → Prop
  invite : QrInvite → Prop

section
variable {acc : Account} {G : Grant}
variable {s : State} {chatId : ChatId} {contactId : ContactId}

structure Within (acc : Account) (G : Grant) (s s' : State) : Prop where
  contact : ∀ {id r}, s.contacts.row id = some r →
    ∃ r', s'.contacts.row id = some r' ∧ r'.fingerprint = r.fingerprint
  verified : ∀ {id r'}, s'.contacts.row id = some r' → r'.verifier = ContactId.self →
    (∃ r, s.contacts.row id = some r ∧ r.verifier = ContactId.self) ∨
      ∃ fp, fingerprintOf acc r' = some fp ∧ G.verify id fp
  chat : ∀ {g c}, s.chats.row g = some c →
    ∃ c', s'.chats.row g = some c' ∧ c'.typ = c.typ ∧ c'.grpid = c.grpid
  member : ∀ {g id}, isMember s'.members g id = true → isMember s.members g id = true ∨
    ∃ c, s'.chats.row g = some c ∧ (c.typ = .single ∨ G.join c.grpid id)
  invite : ∀ {k inv}, s'.bobstate.row k = some inv →
    (∃ k', s.bobstate.row k' = some inv) ∨ G.invite inv

theorem fingerprintOf_congr {r r' : ContactRow} (h : r'.fingerprint = r.fingerprint) :
    fingerprintOf acc r' = fingerprintOf acc r := by
  rw [fingerprintOf, fingerprintOf, h]

theorem Within.refl (s : State) : Within acc G s s where
  contact h := ⟨_, h, rfl⟩
  verified h hv := .inl ⟨_, h, hv⟩
  chat h := ⟨_, h, rfl, rfl⟩
  member h := .inl h
  invite h := .inl ⟨_, h⟩

theorem Within.trans {s s' s'' : State} (h : Within acc G s s') (h' : Within acc G s' s'') :
    Within acc G s s'' where
  contact hr := by
    obtain ⟨r', hr', hfp⟩ := h.contact hr
    obtain ⟨r'', hr'', hfp'⟩ := h'.contact hr'
    exact ⟨r'', hr'', hfp'.trans hfp⟩
  verified hr'' hv := by
    rcases h'.verified hr'' hv with ⟨r', hr', hv'⟩ | hgrant
    · rcases h.verified hr' hv' with hold | ⟨fp, hfp, hgrant⟩
      · exact .inl hold
      · -- the fingerprint of the row is still the same
        obtain ⟨_, hrow, hsame⟩ := h'.contact hr'
        cases hrow.symm.trans hr''
        exact .inr ⟨fp, (fingerprintOf_congr hsame).trans hfp, hgrant⟩
    · exact .inr hgrant
  chat hc := by
    obtain ⟨c', hc', htyp, hgrpid⟩ := h.chat hc
    obtain ⟨c'', hc'', htyp', hgrpid'⟩ := h'.chat hc'
    exact ⟨c'', hc'', htyp'.trans htyp, hgrpid'.trans hgrpid⟩
  member hm := by
    rcases h'.member hm with hm' | hnew
    · rcases h.member hm' with hold | ⟨c, hc, hjoin⟩
      · exact .inl hold
      · obtain ⟨c', hc', htyp, hgrpid⟩ := h'.chat hc
        exact .inr ⟨c', hc', by rw [htyp, hgrpid]; exact hjoin⟩
    · exact .inr hnew
  invite hk := by
    rcases h'.invite hk with ⟨k', hk'⟩ | hnew
    · exact h.invite hk'
    · exact .inr hnew

instance : IsPreorder State (Within acc G) where
  refl := Within.refl
  trans _ _ _ := Within.trans

/-! ## the tables one by one -/

theorem within_contacts {t : Contacts}
    (contact : ∀ {id r}, s.contacts.row id = some r →
      ∃ r', t.row id = some r' ∧ r'.fingerprint = r.fingerprint)
    (verified : ∀ {id r'}, t.row id = some r' → r'.verifier = ContactId.self →
      (∃ r, s.contacts.row id = some r ∧ r.verifier = ContactId.self) ∨
        ∃ fp, fingerprintOf acc r' = some fp ∧ G.verify id fp) :
    Within acc G s { s with contacts := t } where
  contact := contact
  verified := verified
  chat h := ⟨_, h, rfl, rfl⟩
  member h := .inl h
  invite h := .inl ⟨_, h⟩

theorem within_chats {s : State} {chats : IdTable ChatRow} {members : ChatsContacts}
    (chat : ∀ {g c}, s.chats.row g = some c →
      ∃ c', chats.row g = some c' ∧ c'.typ = c.typ ∧ c'.grpid = c.grpid)
    (member : ∀ {g id}, isMember members g id = true → isMember s.members g id = true ∨
      ∃ c, chats.row g = some c ∧ (c.typ = .single ∨ G.join c.grpid id)) :
    Within acc G s { s with chats := chats, members := members } where
  contact h := ⟨_, h, rfl⟩
  verified h hv := .inl ⟨_, h, hv⟩
  chat := chat
  member := member
  invite h := .inl ⟨_, h⟩

theorem within_bobstate {s : State} {bobstate : IdTable QrInvite}
    (invite : ∀ {k inv}, bobstate.row k = some inv →
      (∃ k', s.bobstate.row k' = some inv) ∨ G.invite inv) :
    Within acc G s { s with bobstate := bobstate } where
  contact h := ⟨_, h, rfl⟩
  verified h hv := .inl ⟨_, h, hv⟩
  chat h := ⟨_, h, rfl, rfl⟩
  member h := .inl h
  invite := invite

/-! ## contacts -/

theorem markContactIdAsVerified_self {t t' : Contacts} {id : ContactId}
    (h : markContactIdAsVerified t id (some ContactId.self) = .ok t') :
    t' = t.setVerifier id ContactId.self true := by
  unfold markContactIdAsVerified at h
  split at h
  · cases h
  · split at h
    · cases h
    · split at h
      · cases h
      · split at h
        · cases h
        · cases h
          rfl

theorem markVerified_within {id : ContactId}
    (h : ∀ r, s.contacts.row id = some r → ∃ fp, fingerprintOf acc r = some fp ∧ G.verify id fp) :
    Eff.Respects (Within acc G) (markVerified id) s := by
  apply Eff.respects_get
  cases hmark : markContactIdAsVerified s.contacts id (some ContactId.self) with
  | error e => exact Eff.respects_fail _
  | ok t =>
    cases markContactIdAsVerified_self hmark
    have hrow : ∀ id', (s.contacts.setVerifier id ContactId.self true).row id'
        = if id' = id then (s.contacts.row id).map fun r => { r with verifier := ContactId.self }
          else s.contacts.row id' := by
      intro id'
      dsimp only [Contacts.setVerifier]
      by_cases e : id' = id
      · rw [e, updateRow_self, if_pos rfl]
        simp
      · rw [updateRow_of_ne _ e, if_neg e]
    refine Eff.respects_modify (within_contacts ?_ ?_)
    · intro id' r hr
      rw [hrow]
      by_cases e : id' = id
      · rw [if_pos e, ← e, hr]
        exact ⟨_, rfl, rfl⟩
      · rw [if_neg e]
        exact ⟨r, hr, rfl⟩
    · intro id' r' hr' hv
      rw [hrow] at hr'
      by_cases e : id' = id
      · rw [if_pos e] at hr'
        obtain ⟨r, hr, rfl⟩ := Option.map_eq_some_iff.mp hr'
        obtain ⟨fp, hfp, hgrant⟩ := h r hr
        exact .inr ⟨fp, hfp, e ▸ hgrant⟩
      · rw [if_neg e] at hr'
        exact .inl ⟨r', hr', hv⟩

theorem verifySenderByFingerprint_within {fp : Fingerprint} {id : ContactId} (h : G.verify id fp) :
    Eff.Respects (Within acc G) (verifySenderByFingerprint acc fp id) s := by
  apply Eff.respects_get
  cases hrow : s.contacts.row id with
  | none => exact Eff.respects_pure _
  | some contact =>
    dsimp only
    split
    · next hfp =>
      refine Eff.respects_bind_pure (markVerified_within fun r hr => ?_)
      cases hr.symm.trans hrow
      exact ⟨fp, hfp, h⟩
    · exact Eff.respects_pure _

theorem addOrLookup_within (s : State) (id : ContactId) (addr fingerprint : String) :
    Eff.Respects (Within acc G) (addOrLookup id addr fingerprint) s := by
  refine Eff.respects_bind_pure (Eff.respects_modify (within_contacts ?_ ?_))
  · intro id' r hr
    dsimp only [Contacts.addOrLookup]
    split
    · exact ⟨r, hr, rfl⟩
    · by_cases e : id' = id
      · subst e
        exact ⟨_, upsert_of_some _ _ hr, rfl⟩
      · exact ⟨r, (upsert_of_ne _ _ e).trans hr, rfl⟩
  · intro id' r' hr' hv
    dsimp only [Contacts.addOrLookup] at hr'
    split at hr'
    · exact .inl ⟨r', hr', hv⟩
    · by_cases e : id' = id
      · subst e
        cases hr : s.contacts.row id' with
        | none =>
          rw [upsert_of_none _ _ hr] at hr'
          cases hr'
          cases hv
        | some r =>
          rw [upsert_of_some _ _ hr] at hr'
          cases hr'
          exact .inl ⟨r, rfl, hv⟩
      · rw [upsert_of_ne _ _ e] at hr'
        exact .inl ⟨r', hr', hv⟩

/-! ## chats -/

theorem call_within (ctx : Ctx) (c : Call) :
    Eff.Respects (Within acc G) (call ctx c) s := Eff.respects_ensure _ _

theorem newSingle_within (s : State) (contactId : ContactId) :
    Within acc G s (s.newSingle contactId) := by
  refine within_chats (fun hc => ⟨_, IdTable.insert_row_of_some _ hc, rfl, rfl⟩) ?_
  intro g id hm
  by_cases e : (g, id) = (s.chats.seq + 1, contactId)
  · cases e
    exact .inr ⟨_, IdTable.insert_row_new _ _, .inl rfl⟩
  · unfold isMember at hm
    rw [upsert_of_ne _ _ e] at hm
    exact .inl hm

theorem getForContact_within (s : State) (contactId : ContactId) :
    Eff.Respects (Within acc G) (getForContact contactId) s := by
  apply Eff.respects_get
  split
  · exact Eff.respects_pure _
  · split
    · exact Eff.respects_fail _
    · exact Eff.respects_bind_pure (Eff.respects_modify (newSingle_within s contactId))

theorem createForContact_within (s : State) (contactId : ContactId) :
    Eff.Respects (Within acc G) (createForContact contactId) s := by
  apply Eff.respects_get
  split
  · exact Eff.respects_pure _
  · split
    · exact getForContact_within s contactId
    · exact Eff.respects_fail _

theorem createMultiuserRecord_within (s : State) (chattype : Chattype) (grpid : String) :
    Eff.Respects (Within acc G) (createMultiuserRecord chattype grpid) s := by
  apply Eff.respects_get
  refine Eff.respects_bind_pure (Eff.respects_modify (within_chats ?_ fun hm => .inl hm))
  exact fun hc => ⟨_, IdTable.insert_row_of_some _ hc, rfl, rfl⟩

theorem joiningChatId_within (s : State) (invite : QrInvite) (chatId : ChatId) :
    Eff.Respects (Within acc G) (joiningChatId invite chatId) s := by
  apply Eff.respects_get
  split
  · exact Eff.respects_pure _
  · split
    · exact Eff.respects_pure _
    · exact createMultiuserRecord_within s _ _
  · split
    · exact Eff.respects_pure _
    · exact createMultiuserRecord_within s _ _

theorem addToChatContactsTable_within {timestamp : ℤ}
    (h : ∃ c, s.chats.row chatId = some c ∧ G.join c.grpid contactId) :
    Within acc G s
      { s with members := addToChatContactsTable s.members timestamp chatId [contactId] } := by
  refine within_chats (fun hc => ⟨_, hc, rfl, rfl⟩) ?_
  intro g id hm
  by_cases e : (g, id) = (chatId, contactId)
  · cases e
    obtain ⟨c, hc, hjoin⟩ := h
    exact .inr ⟨c, hc, .inr hjoin⟩
  · unfold isMember addToChatContactsTable at hm
    rw [List.foldl_cons, List.foldl_nil, upsert_of_ne _ _ e] at hm
    exact .inl hm

theorem promote_same (now : I64) (chat : ChatRow) :
    (chat.promote now).typ = chat.typ ∧ (chat.promote now).grpid = chat.grpid := by
  unfold ChatRow.promote
  split
  · exact ⟨rfl, rfl⟩
  · exact ⟨rfl, rfl⟩

theorem promote_within (s : State) (now : I64) (chatId : ChatId) :
    Within acc G s { s with chats := s.chats.update chatId (ChatRow.promote now) } := by
  refine within_chats (fun {g c} hc => ?_) fun hm => .inl hm
  by_cases e : g = chatId
  · subst e
    exact ⟨_, IdTable.update_row_self _ hc, promote_same now c⟩
  · exact ⟨c, (IdTable.update_row_of_ne _ e).trans hc, rfl, rfl⟩

theorem addMember_within (ctx : Ctx)
    (h : ∃ c, s.chats.row chatId = some c ∧ G.join c.grpid contactId) :
    Eff.Respects (Within acc G) (addMember ctx chatId contactId) s := by
  apply Eff.respects_get
  split
  · exact Eff.respects_pure _
  · exact Eff.respects_modify (addToChatContactsTable_within h)

theorem announceMember_within (s : State) (ctx : Ctx) (chatId : ChatId) (chat : ChatRow) :
    Eff.Respects (Within acc G) (announceMember ctx chatId chat) s := by
  unfold announceMember
  split
  · exact Eff.respects_pure _
  · split
    · exact Eff.respects_bind (call_within ctx _) fun _ _ _ _ => call_within ctx _
    · exact call_within ctx _

theorem addContactToChatEx_within (ctx : Ctx)
    (h : ∀ chat, s.chats.row chatId = some chat → G.join chat.grpid contactId) :
    Eff.Respects (Within acc G) (addContactToChatEx acc ctx chatId contactId) s := by
  apply Eff.respects_get
  cases s.contacts.row contactId with
  | none => exact Eff.respects_fail _
  | some contact =>
    cases hchat : s.chats.row chatId with
    | none => exact Eff.respects_fail _
    | some chat =>
      dsimp only
      split
      · exact Eff.respects_fail _
      · split
        · exact Eff.respects_pure _
        · refine Eff.respects_bind (Eff.respects_modify (promote_within s _ _))
            fun s' _ hrun _ => ?_
          cases hrun
          split
          · exact Eff.respects_pure _
          · refine Eff.respects_bind (addMember_within ctx ⟨_, IdTable.update_row_self _ hchat, ?_⟩)
              fun s'' _ _ _ => Eff.respects_bind_pure (announceMember_within s'' ctx _ _)
            rw [(promote_same ctx.now chat).2]
            exact h chat hchat

theorem getChatIdByGrpid_some {grpid : String} (h : getChatIdByGrpid s grpid = some chatId) :
    ∃ c, s.chats.row chatId = some c ∧ c.grpid = grpid := by
  obtain ⟨c, hc, hgrpid⟩ := IdTable.mem_ids.mp (List.mem_of_head? h)
  exact ⟨c, hc, beq_iff_eq.mp hgrpid⟩

/-! ## Bob -/

theorem sendHandshakeMessage_within (s : State) (ctx : Ctx) (invite : QrInvite) (chatId : ChatId)
    (msg : BobHandshakeMsg) :
    Eff.Respects (Within acc G) (sendHandshakeMessage ctx invite chatId msg) s := by
  unfold sendHandshakeMessage
  split
  · exact call_within ctx _
  · exact call_within ctx _

theorem answerInvites_within (ctx : Ctx) (m : MimeMessage) (rows : List (Nat × QrInvite))
    (h : ∀ row ∈ rows, G.verify row.2.contactId row.2.fingerprint) (authSent : Bool) (s : State) :
    Eff.Respects (Within acc G) (answerInvites acc ctx m rows authSent) s := by
  induction rows generalizing authSent s with
  | nil => exact Eff.respects_pure _
  | cons row rows ih =>
    have ih := ih fun row' hrow' => h row' (List.mem_cons_of_mem _ hrow')
    obtain ⟨rowId, invite⟩ := row
    unfold answerInvites
    split
    · exact ih authSent s
    · refine Eff.respects_bind (verifySenderByFingerprint_within (h _ List.mem_cons_self))
        fun s₁ isVerified _ _ => ?_
      split
      · exact ih authSent s₁
      · refine Eff.respects_bind (createForContact_within s₁ _) fun s₂ chatId _ _ => ?_
        refine Eff.respects_bind (sendHandshakeMessage_within s₂ ctx _ _ _) fun s₃ _ _ _ => ?_
        refine Eff.respects_bind (Eff.respects_modify (within_bobstate fun hk =>
          .inl ⟨_, IdTable.row_of_delete hk⟩)) fun s₄ _ _ _ => ?_
        refine Eff.respects_bind ?_ fun s₅ _ _ _ => ih true s₅
        unfold announceReply
        split
        · exact Eff.respects_bind (joiningChatId_within s₄ _ _) fun _ _ _ _ => call_within ctx _
        · exact Eff.respects_pure _

theorem mem_bobStates {row : Nat × QrInvite} (h : row ∈ bobStates s) :
    s.bobstate.row row.1 = some row.2 := by
  obtain ⟨id, -, hid⟩ := List.mem_filterMap.mp h
  obtain ⟨invite, hrow, rfl⟩ := Option.map_eq_some_iff.mp hid
  exact hrow

theorem handleAuthRequiredOrPubkey_within (ctx : Ctx) (m : MimeMessage)
    (h : ∀ k invite, s.bobstate.row k = some invite →
      G.verify invite.contactId invite.fingerprint) :
    Eff.Respects (Within acc G) (handleAuthRequiredOrPubkey acc ctx m) s := by
  apply Eff.respects_get
  refine Eff.respects_bind_pure (answerInvites_within ctx m _ (fun row hrow => ?_) _ _)
  exact h row.1 row.2 (mem_bobStates hrow)

theorem joiningChatId_row {s' : State} {invite : QrInvite} {aliceChatId : ChatId}
    {name grpid : String} (htarget : invite.target = .broadcast name grpid)
    (h : joiningChatId invite aliceChatId s = (s', .ok chatId)) :
    ∃ c, s'.chats.row chatId = some c := by
  unfold joiningChatId at h
  rw [htarget, Eff.get_bind] at h
  dsimp only at h
  cases hgrpid : getChatIdByGrpid s grpid with
  | some found =>
    rw [hgrpid] at h
    cases h
    obtain ⟨c, hc, -⟩ := getChatIdByGrpid_some hgrpid
    exact ⟨c, hc⟩
  | none =>
    rw [hgrpid] at h
    cases h
    exact ⟨_, IdTable.insert_row_new _ _⟩

theorem finishStart_within (s : State) (ctx : Ctx) (invite : QrInvite) (chatId : ChatId)
    (h : ∀ grpid, G.join grpid invite.contactId) :
    Eff.Respects (Within acc G) (finishStart ctx invite chatId) s := by
  unfold finishStart
  cases htarget : invite.target with
  | contact =>
    dsimp only
    split
    · exact Eff.respects_pure _
    · exact Eff.respects_bind_pure (call_within ctx _)
  | group name grpid =>
    refine Eff.respects_bind (joiningChatId_within s _ _) fun _ _ _ _ => ?_
    exact Eff.respects_bind_pure (call_within ctx _)
  | broadcast name grpid =>
    refine Eff.respects_bind (joiningChatId_within s _ _) fun s₁ chatId hrun _ => ?_
    obtain ⟨c, hc⟩ := joiningChatId_row htarget hrun
    refine Eff.respects_bind (addMember_within ctx ⟨c, hc, h c.grpid⟩) fun s₂ _ _ _ => ?_
    apply Eff.respects_get
    split
    · exact Eff.respects_pure _
    · exact Eff.respects_bind_pure (call_within ctx _)

theorem startProtocol_within (s : State) (ctx : Ctx) (invite : QrInvite)
    (hverify : G.verify invite.contactId invite.fingerprint)
    (hjoin : ∀ grpid, G.join grpid invite.contactId) (hinvite : G.invite invite) :
    Eff.Respects (Within acc G) (startProtocol acc ctx invite) s := by
  refine Eff.respects_bind (createForContact_within s _) fun s₁ chatId _ _ => ?_
  refine Eff.respects_bind ?_ fun s₂ _ _ _ => Eff.respects_get ?_
  · unfold loadPublicKey
    split
    · exact call_within ctx _
    · exact Eff.respects_pure _
  · split
    · exact Eff.respects_pure _
    · refine Eff.respects_bind ?_ fun s₃ shortcut _ _ => ?_
      · unfold takeShortcut
        split
        · exact verifySenderByFingerprint_within hverify
        · exact Eff.respects_pure _
      · refine Eff.respects_bind ?_ fun s₄ _ _ _ => finishStart_within s₄ ctx _ _ hjoin
        unfold sendFirst
        split
        · exact sendHandshakeMessage_within s₃ ctx _ _ _
        · refine Eff.respects_bind (sendHandshakeMessage_within s₃ ctx _ _ _) fun s₄ _ _ _ => ?_
          refine Eff.respects_modify (within_bobstate fun {k inv} hk => ?_)
          rcases IdTable.row_of_insert hk with ⟨-, rfl⟩ | hold
          · exact .inr hinvite
          · exact .inl ⟨k, hold⟩

/-! ## Alice -/

theorem sendAliceHandshakeMsg_within (s : State) (ctx : Ctx) (contactId : ContactId) :
    Eff.Respects (Within acc G) (sendAliceHandshakeMsg ctx contactId) s :=
  Eff.respects_bind (getForContact_within s contactId) fun _ _ _ _ => call_within ctx _

theorem handleRequest_within (s : State) (ctx : Ctx) (m : MimeMessage) (invitenumber : String) :
    Eff.Respects (Within acc G) (handleRequest ctx m invitenumber) s := by
  unfold handleRequest
  split
  · exact Eff.respects_pure _
  · refine Eff.respects_bind (call_within ctx _) fun s₁ _ _ _ => ?_
    refine Eff.respects_bind (addOrLookup_within s₁ _ _ _) fun s₂ _ _ _ => ?_
    exact Eff.respects_bind_pure (sendAliceHandshakeMsg_within s₂ ctx _)

theorem handleRequestPubkey_within (s : State) (ctx : Ctx) (m : MimeMessage) :
    Eff.Respects (Within acc G) (handleRequestPubkey ctx m) s := by
  unfold handleRequestPubkey
  split
  · exact Eff.respects_pure _
  · split
    · exact Eff.respects_pure _
    · split
      · exact Eff.respects_pure _
      · refine Eff.respects_bind (call_within ctx _) fun _ _ _ _ => ?_
        exact Eff.respects_bind_pure (call_within ctx _)

def HasFingerprint (acc : Account) (s : State) (id : ContactId) (fp : Fingerprint) : Prop :=
  ∃ r, s.contacts.row id = some r ∧ fingerprintOf acc r = some fp

def Fresh (ctx : Ctx) (token : Token) : Prop :=
  ctx.now.val < token.timestamp.val + verificationTimeoutSeconds

theorem fresh_of_lt {ctx : Ctx} {token : Token}
    (h : ctx.now.val < i64Add token.timestamp verificationTimeoutSeconds) : Fresh ctx token := by
  unfold Fresh verificationTimeoutSeconds
  unfold i64Add verificationTimeoutSeconds at h
  have hnow := ctx.now.2
  have hts := token.timestamp.2
  rw [Int.bmod_def] at h
  split at h <;> omega

theorem acceptAuth_within (ctx : Ctx) {token : Token} {joiningChatId : Option ChatId}
    {senderContact : ContactRow} {fp : Fingerprint} (hfp : HasFingerprint acc s contactId fp)
    (hverify : Fresh ctx token → G.verify contactId fp)
    (hjoin : ∀ chatId, joiningChatId = some chatId →
      ∃ c, s.chats.row chatId = some c ∧ G.join c.grpid contactId) :
    Eff.Respects (Within acc G) (acceptAuth acc ctx token joiningChatId senderContact contactId)
      s := by
  refine Eff.respects_bind ?_ fun s₁ _ _ hs₁ => ?_
  · unfold verifyByToken
    split
    · next hlt =>
      refine markVerified_within fun r hr => ?_
      obtain ⟨r', hr', hfp'⟩ := hfp
      cases hr.symm.trans hr'
      exact ⟨fp, hfp', hverify (fresh_of_lt hlt)⟩
    · exact Eff.respects_pure _
  · split
    · exact Eff.respects_pure _
    · split
      · next chatId =>
        refine Eff.respects_bind_pure (addContactToChatEx_within ctx fun chat hchat => ?_)
        -- marking the contact as verified left the chat as it was
        obtain ⟨c, hc, hgrant⟩ := hjoin chatId rfl
        obtain ⟨c', hc', -, hgrpid⟩ := hs₁.chat hc
        cases hchat.symm.trans hc'
        exact hgrpid ▸ hgrant
      · refine Eff.respects_bind (createForContact_within s₁ _) fun s₂ _ _ _ => ?_
        refine Eff.respects_bind (getForContact_within s₂ _) fun s₃ _ _ _ => ?_
        exact Eff.respects_bind_pure (sendAliceHandshakeMsg_within s₃ ctx _)

end

/-! ## what a message proves -/

section
variable (acc : Account) (ctx : Ctx)

/-- the message is signed with the key `fp` and says so, gossips the own key, and carries the token
of one of our invites -/
structure Presents (m : MimeMessage) (fp : Fingerprint) (token : Token) : Prop where
  signed : ∃ recipients, m.signature = some (fp, recipients)
  carries : (m.getHeader .secureJoinFingerprint).bind (Fingerprint.parse acc.toUppercase) = some fp
  gossips : ∃ key ∈ m.gossipedKeys, key.2.fingerprint = acc.selfFingerprint
  auth : m.getHeader .secureJoinAuth = some token.token
  stored : token ∈ ctx.tokens ∧ token.namespc = .auth

theorem signed_of_encryptedAndSigned {m : MimeMessage} {fp : Fingerprint}
    (h : encryptedAndSigned m fp = true) : ∃ recipients, m.signature = some (fp, recipients) := by
  unfold encryptedAndSigned at h
  split at h
  · next signature recipients hsig => exact ⟨recipients, by rw [hsig, beq_iff_eq.mp h]⟩
  · cases h

theorem findToken_some {tokens : List Token} {namespc : Namespace} {auth : String} {token : Token}
    (h : findToken tokens namespc auth = some token) :
    token ∈ tokens ∧ token.namespc = namespc ∧ token.token = auth := by
  refine ⟨List.mem_of_find?_eq_some h, ?_⟩
  have hp := List.find?_some h
  rw [Bool.and_eq_true, decide_eq_true_eq, beq_iff_eq] at hp
  exact hp

def Grant.ofMessage (s : State) (m : MimeMessage) (contactId : ContactId) : Grant where
  verify id fp :=
    (id = contactId ∧ ∃ token, Presents acc ctx m fp token ∧ Fresh ctx token) ∨
      ∃ k invite, s.bobstate.row k = some invite ∧ invite.fingerprint = fp
  join grpid id :=
    id = contactId ∧ ∃ fp token, HasFingerprint acc s id fp ∧ Presents acc ctx m fp token ∧
      token.foreignKey = grpid
  invite _ := False

theorem handleRequestWithAuth_within {s : State} {m : MimeMessage} {contactId : ContactId}
    (hgossip : gossipsSelf acc m = true) :
    Eff.Respects (Within acc (Grant.ofMessage acc ctx s m contactId))
      (handleRequestWithAuth acc ctx m contactId) s := by
  apply Eff.respects_get
  cases hheader : m.getHeader .secureJoinFingerprint with
  | none => exact Eff.respects_pure _
  | some text =>
    dsimp only
    cases hparse : Fingerprint.parse acc.toUppercase text with
    | none => exact Eff.respects_fail _
    | some fp =>
      dsimp only
      split
      · exact Eff.respects_pure _
      · next hsigned =>
        cases htoken : (m.getHeader .secureJoinAuth).bind (findToken ctx.tokens .auth) with
        | none => exact Eff.respects_pure _
        | some token =>
          dsimp only
          split
          · exact Eff.respects_pure _
          · cases hrow : s.contacts.row contactId with
            | none => exact Eff.respects_fail _
            | some senderContact =>
              dsimp only
              split
              · exact Eff.respects_pure _
              · next hfp =>
                obtain ⟨auth, hauth, hfind⟩ := Option.bind_eq_some_iff.mp htoken
                obtain ⟨hmem, hnamespc, htext⟩ := findToken_some hfind
                obtain ⟨key, hkey, hself⟩ := List.any_eq_true.mp hgossip
                have hpresents : Presents acc ctx m fp token :=
                  { signed := signed_of_encryptedAndSigned (by simpa using hsigned)
                    carries := by rw [hheader]; exact hparse
                    gossips := ⟨key, hkey, beq_iff_eq.mp hself⟩
                    auth := by rw [hauth, htext]
                    stored := ⟨hmem, hnamespc⟩ }
                have hhas : HasFingerprint acc s contactId fp :=
                  ⟨senderContact, hrow, not_not.mp hfp⟩
                refine acceptAuth_within ctx hhas
                  (fun hfresh => .inl ⟨rfl, token, hpresents, hfresh⟩) fun chatId hchat => ?_
                rw [tokenChatId, Option.ite_none_left_eq_some] at hchat
                obtain ⟨c, hc, hgrpid⟩ := getChatIdByGrpid_some hchat.2
                exact ⟨c, hc, rfl, fp, token, hhas, hpresents, hgrpid.symm⟩

theorem handle_within (s : State) (m : MimeMessage) (contactId : ContactId) :
    Eff.Respects (Within acc (Grant.ofMessage acc ctx s m contactId))
      (handleSecurejoinHandshake acc ctx m contactId) s := by
  have hbob : Eff.Respects (Within acc (Grant.ofMessage acc ctx s m contactId))
      (handleAuthRequiredOrPubkey acc ctx m) s :=
    handleAuthRequiredOrPubkey_within ctx m fun k invite hrow => .inr ⟨k, invite, hrow, rfl⟩
  unfold handleSecurejoinHandshake
  split
  · exact Eff.respects_fail _
  · split
    · exact Eff.respects_fail _
    · next step _ =>
      split
      · cases step with
        | request invitenumber => exact handleRequest_within s ctx m invitenumber
        | requestPubkey => exact handleRequestPubkey_within s ctx m
        | pubkey => exact hbob
        | _ => contradiction
      · refine Eff.respects_bind (call_within ctx _) fun s₁ _ hrun _ => ?_
        have hs₁ : s₁ = s := by
          unfold call Eff.ensure at hrun
          split at hrun
          · cases hrun; rfl
          · cases hrun
        subst hs₁
        split
        · exact Eff.respects_pure _
        · next hgossip =>
          cases step with
          | requestWithAuth =>
            exact handleRequestWithAuth_within acc ctx (by simpa using hgossip)
          | authRequired => exact hbob
          | contactConfirm => exact Eff.respects_pure _
          | memberAdded => exact Eff.respects_pure _
          | deprecated => exact Eff.respects_pure _
          | unknown step => exact Eff.respects_pure _
          | _ => contradiction

/-! ## own messages, seen on another device -/

/-- the message is signed with the own key and gossips `fp` for the address of the contact -/
structure Gossips (s : State) (m : MimeMessage) (id : ContactId) (fp : Fingerprint) : Prop where
  signed : ∃ recipients, m.signature = some (acc.selfFingerprint, recipients)
  gossips : ∃ r key, s.contacts.row id = some r ∧
    m.gossipedKeys.lookup (acc.toLowercase r.addr) = some key ∧ key.fingerprint = fp

def Grant.ofObserved (s : State) (m : MimeMessage) (contactId : ContactId) : Grant where
  verify id fp := id = contactId ∧ Gossips acc s m id fp
  join _ _ := False
  invite _ := False

theorem observe_within (s : State) (m : MimeMessage) (contactId : ContactId) :
    Eff.Respects (Within acc (Grant.ofObserved acc s m contactId))
      (observeSecurejoinOnOtherDevice acc m contactId) s := by
  unfold observeSecurejoinOnOtherDevice
  split
  · exact Eff.respects_fail _
  · split
    · exact Eff.respects_fail _
    · split
      · exact Eff.respects_pure _
      · split
        · exact Eff.respects_pure _
        · next hsigned =>
          apply Eff.respects_get
          cases hrow : s.contacts.row contactId with
          | none => exact Eff.respects_fail _
          | some contact =>
            dsimp only
            cases hkey : m.gossipedKeys.lookup (acc.toLowercase contact.addr) with
            | none => exact Eff.respects_pure _
            | some key =>
              dsimp only
              split
              · exact Eff.respects_pure _
              · next hfp =>
                refine Eff.respects_bind (markVerified_within fun r hr => ?_) fun _ _ _ _ => ?_
                · cases hr.symm.trans hrow
                  refine ⟨key.fingerprint, not_not.mp hfp, rfl, ?_, contact, key, hrow, hkey, rfl⟩
                  exact signed_of_encryptedAndSigned (by simpa using hsigned)
                · split
                  · exact Eff.respects_pure _
                  · split
                    · exact Eff.respects_pure _
                    · exact Eff.respects_pure _

end

/-! ## runs -/

section
variable (acc : Account)

def Grant.ofEvent (s : State) : Event → Grant
  | .contact _ _ _ => ⟨fun _ _ => False, fun _ _ => False, fun _ => False⟩
  | .scan _ invite =>
    ⟨fun _ fp => invite.fingerprint = fp, fun _ _ => True, fun inv => inv = invite⟩
  | .handle ctx m contactId => Grant.ofMessage acc ctx s m contactId
  | .observe _ m contactId => Grant.ofObserved acc s m contactId

theorem step_within (s : State) (e : Event) :
    Within acc (Grant.ofEvent acc s e) s (step acc s e) := by
  cases e with
  | contact id addr fingerprint => exact addOrLookup_within s id addr fingerprint
  | scan ctx invite => exact startProtocol_within s ctx invite rfl (fun _ => trivial) rfl
  | handle ctx m contactId => exact handle_within acc ctx s m contactId
  | observe ctx m contactId => exact observe_within acc s m contactId

theorem run_concat (s : State) (events : List Event) (e : Event) :
    run acc s (events ++ [e]) = step acc (run acc s events) e := by
  rw [run, List.foldl_append]
  rfl

theorem run_scanned {s : State} (hbob : ∀ k, s.bobstate.row k = none) (events : List Event) :
    ∀ k invite, (run acc s events).bobstate.row k = some invite →
      ∃ ctx, Event.scan ctx invite ∈ events := by
  induction events using List.reverseRecOn with
  | nil =>
    intro k invite hk
    cases (hbob k).symm.trans hk
  | append_singleton events e ih =>
    intro k invite hk
    rw [run_concat] at hk
    rcases (step_within acc (run acc s events) e).invite hk with ⟨k', hk'⟩ | hnew
    · obtain ⟨ctx, hctx⟩ := ih k' invite hk'
      exact ⟨ctx, List.mem_append_left _ hctx⟩
    · cases e with
      | contact id addr fingerprint => exact hnew.elim
      | scan ctx invite' => exact ⟨ctx, List.mem_append_right _ (hnew ▸ List.mem_singleton_self _)⟩
      | handle ctx m contactId => exact hnew.elim
      | observe ctx m contactId => exact hnew.elim

/-- why a contact with the fingerprint `fp` may become verified in the last step of a run -/
inductive Authenticated (s : State) (events : List Event) (e : Event) (id : ContactId)
    (fp : Fingerprint) : Prop where
  | token (ctx : Ctx) (m : MimeMessage) (token : Token) (handled : e = .handle ctx m id)
      (presents : Presents acc ctx m fp token) (fresh : Fresh ctx token)
  | invite (ctx : Ctx) (invite : QrInvite) (scanned : Event.scan ctx invite ∈ events ++ [e])
      (fingerprint : invite.fingerprint = fp)
  | gossip (ctx : Ctx) (m : MimeMessage) (observed : e = .observe ctx m id)
      (gossips : Gossips acc (run acc s events) m id fp)

theorem verifierOf_eq_self {t : Contacts} {id : ContactId} :
    t.verifierOf id = ContactId.self ↔ ∃ r, t.row id = some r ∧ r.verifier = ContactId.self := by
  unfold Contacts.verifierOf
  cases t.row id with
  | none =>
    constructor
    · intro h
      cases h
    · rintro ⟨_, h, _⟩
      cases h
  | some r => simp

theorem run_verified {s : State} (hbob : ∀ k, s.bobstate.row k = none) (events : List Event)
    (e : Event) (id : ContactId)
    (hbefore : (run acc s events).contacts.verifierOf id ≠ ContactId.self)
    (hafter : (run acc s (events ++ [e])).contacts.verifierOf id = ContactId.self) :
    ∃ fp, HasFingerprint acc (run acc s (events ++ [e])) id fp ∧
      Authenticated acc s events e id fp := by
  have hscanned := run_scanned acc hbob events
  rw [run_concat] at hafter ⊢
  obtain ⟨r', hr', hv⟩ := verifierOf_eq_self.mp hafter
  rcases (step_within acc (run acc s events) e).verified hr' hv with hold | ⟨fp, hfp, hgrant⟩
  · exact absurd (verifierOf_eq_self.mpr hold) hbefore
  · refine ⟨fp, ⟨r', hr', hfp⟩, ?_⟩
    cases e with
    | contact id' addr fingerprint => exact hgrant.elim
    | scan ctx invite =>
      exact .invite ctx invite (List.mem_append_right _ (List.mem_singleton_self _)) hgrant
    | handle ctx m contactId =>
      rcases hgrant with ⟨rfl, token, hpresents, hfresh⟩ | ⟨k, invite, hrow, hinvite⟩
      · exact .token ctx m token rfl hpresents hfresh
      · obtain ⟨ctx', hmem⟩ := hscanned k invite hrow
        exact .invite ctx' invite (List.mem_append_left _ hmem) hinvite
    | observe ctx m contactId =>
      obtain ⟨rfl, hgossips⟩ := hgrant
      exact .gossip ctx m rfl hgossips

theorem handle_joined (s : State) (ctx : Ctx) (m : MimeMessage) (contactId : ContactId)
    {g : ChatId} {id : ContactId} {chat : ChatRow}
    (hbefore : isMember s.members g id = false)
    (hafter : isMember (step acc s (.handle ctx m contactId)).members g id = true)
    (hchat : (step acc s (.handle ctx m contactId)).chats.row g = some chat)
    (htyp : chat.typ ≠ .single) :
    id = contactId ∧ ∃ fp token, HasFingerprint acc s id fp ∧ Presents acc ctx m fp token ∧
      token.foreignKey = chat.grpid := by
  rcases (step_within acc s (.handle ctx m contactId)).member hafter with hold | ⟨c, hc, hjoin⟩
  · rw [hbefore] at hold
    cases hold
  · cases hc.symm.trans hchat
    exact hjoin.resolve_left htyp

/-- in a run from a state without open invites: who becomes verified by the owner, and who becomes a
member by a message -/
theorem authenticated {s : State} (hbob : ∀ k, s.bobstate.row k = none) (events : List Event)
    (e : Event) :
    (∀ id, (run acc s events).contacts.verifierOf id ≠ ContactId.self →
      (run acc s (events ++ [e])).contacts.verifierOf id = ContactId.self →
      ∃ fp, HasFingerprint acc (run acc s (events ++ [e])) id fp ∧
        Authenticated acc s events e id fp) ∧
    ∀ ctx m contactId, e = .handle ctx m contactId → ∀ g id chat,
      isMember (run acc s events).members g id = false →
      isMember (run acc s (events ++ [e])).members g id = true →
      (run acc s (events ++ [e])).chats.row g = some chat → chat.typ ≠ .single →
      id = contactId ∧ ∃ fp token, HasFingerprint acc (run acc s events) id fp ∧
        Presents acc ctx m fp token ∧ token.foreignKey = chat.grpid := by
  refine ⟨run_verified acc hbob events e, ?_⟩
  rintro ctx m contactId rfl g id chat hbefore hafter hchat htyp
  rw [run_concat] at hafter hchat
  exact handle_joined acc (run acc s events) ctx m contactId hbefore hafter hchat htyp

end

/-! ## Bob joins the group of Alice -/

def aliceFingerprint : Fingerprint := "AAAAAAAAAAAAAAAAAAAAAAAAAAAAAAAAAAAAAAAA"

def alice : Account := { selfFingerprint := aliceFingerprint }

def bobFingerprint : Fingerprint := "BBBBBBBBBBBBBBBBBBBBBBBBBBBBBBBBBBBBBBBB"

def aliceState : State where
  contacts := ⟨fun id => if id = 10 then some { fingerprint := bobFingerprint } else none, rfl⟩
  chats := ⟨fun id => if id = 12 then some { typ := .group, grpid := "grp" } else none, 12,
    fun _ h => if_neg (Nat.ne_of_gt h)⟩
  members := fun k => if k = (12, ContactId.self) then some {} else none
  bobstate := IdTable.empty

def aliceCtx : Ctx where
  now := ⟨1000, by decide⟩
  tokens := [{ namespc := .auth, foreignKey := "grp", token := "secret",
               timestamp := ⟨900, by decide⟩ }]

def bobRequest : MimeMessage where
  headers := headersOf [(.secureJoin, "vg-request-with-auth"),
    (.secureJoinFingerprint, bobFingerprint), (.secureJoinAuth, "secret")]
  signature := some (bobFingerprint, [])
  gossipedKeys := [("alice@localhost", { fingerprint := aliceFingerprint, verified := false })]

theorem authenticated_bob :
    isMember (run alice aliceState [.handle aliceCtx bobRequest 10]).members 12 10 = true ∧
    ∃ fp, HasFingerprint alice (run alice aliceState ([] ++ [.handle aliceCtx bobRequest 10])) 10 fp ∧
      Authenticated alice aliceState [] (.handle aliceCtx bobRequest 10) 10 fp :=
  ⟨by decide +kernel,
    (authenticated alice (fun _ => rfl) [] (.handle aliceCtx bobRequest 10)).1 10
      (by decide +kernel) (by decide +kernel)⟩

end EpsilonChat.SecureJoin
