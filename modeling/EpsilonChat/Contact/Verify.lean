import EpsilonChat.Mime.Message
import EpsilonChat.Lib.Table
import EpsilonChat.Lib.Pointers

/-!
# Verification of contacts

Each contact has a `verifier`: 0 if it is not verified, its own id if the verifier is unknown, the
owner of the account or another contact.

* `markContactIdAsVerified`: looks one step ahead, at the verifier of the verifier;
* `markRecipientsAsVerified`: calls it for the keys that a message gossips;
* `markContactIdAsVerified_cases`: what a call can do: nothing, make the contact point to the owner,
  or give a contact that is on no chain to the owner a verifier that is on one, or the unknown
  verifier;
* `verifier_chains`: **after any calls, who has another contact as verifier is on a chain to the
  owner, and stays on one;**
* `gossip_of_strangers`: **gossip of others than those brings nobody on a chain.**
-/

namespace EpsilonChat.Verify
open Lib

structure ContactRow where
  fingerprint : String
  verifier : ContactId := ContactId.undefined
  addr : String := ""
  blocked : Bool := false
  deriving DecidableEq, Repr

/-- the table `contacts`; row ids start at 1 -/
structure Contacts where
  row : ContactId → Option ContactRow
  row_undefined : row ContactId.undefined = none

inductive VerifyError where
  | isSelf
  /-- "Contact cannot be verified by self" -/
  | bySelf
  | noContact (id : ContactId)
  /-- "Non-key-contact {contact_id} cannot be verified" -/
  | notKeyContact (id : ContactId)
  /-- "Contact {contact_id} cannot be verified by non-key-contact {verifier_id}" -/
  | byNonKeyContact (id verifier : ContactId)
  /-- "Contact {contact_id} cannot be verified by unverified contact {verifier_id}" -/
  | byUnverified (id verifier : ContactId)
  deriving DecidableEq, Repr

def checkVerifier (t : Contacts) (contactId verifierId : ContactId) :
    Except VerifyError ContactId :=
  if verifierId = ContactId.self then .ok verifierId
  else
    match t.row verifierId with
    | none => .error (.noContact verifierId)
    | some verifier =>
      if verifier.fingerprint = "" then .error (.byNonKeyContact contactId verifierId)
      else if ¬ (verifierId = contactId ∨ verifier.verifier ≠ ContactId.undefined) then
        .error (.byUnverified contactId verifierId)
      -- a verifier that does not know its own verifier may have been verified by the contact
      else if verifier.verifier = verifierId then .ok contactId
      else .ok verifierId

/-- `UPDATE contacts SET verifier=?1 WHERE id=?2 AND (verifier=0 OR verifier=id OR ?3)` -/
def Contacts.setVerifier (t : Contacts) (contactId verifierId : ContactId) (bySelf : Bool) :
    Contacts where
  row := updateRow t.row contactId fun r =>
    if r.verifier = ContactId.undefined ∨ r.verifier = contactId ∨ bySelf then
      { r with verifier := verifierId }
    else r
  row_undefined := by
    by_cases e : ContactId.undefined = contactId
    · rw [← e, updateRow_self, t.row_undefined]
      rfl
    · rw [updateRow_of_ne _ e, t.row_undefined]

def markContactIdAsVerified (t : Contacts) (contactId : ContactId)
    (verifierId : Option ContactId) : Except VerifyError Contacts :=
  if contactId = ContactId.self then .error .isSelf
  else if some contactId = verifierId then .error .bySelf
  else
    match t.row contactId with
    | none => .error (.noContact contactId)
    | some contact =>
      if contact.fingerprint = "" then .error (.notKeyContact contactId)
      else (checkVerifier t contactId (verifierId.getD contactId)).map fun verifier =>
        t.setVerifier contactId verifier (verifierId = some ContactId.self)

/-- the loop of `mark_recipients_as_verified`; `lookup` is `lookup_key_contact_by_fingerprint` -/
def markRecipientsAsVerified (lookup : String → Option ContactId) (fromId : ContactId)
    (chatVerified : Bool) : Contacts → List GossipedKey → Contacts × Option VerifyError
  | t, [] => (t, none)
  | t, key :: keys =>
    if !(key.verified || chatVerified) then
      markRecipientsAsVerified lookup fromId chatVerified t keys
    else
      match lookup key.fingerprint with
      | none => markRecipientsAsVerified lookup fromId chatVerified t keys
      | some toId =>
        if toId = ContactId.self ∨ toId = fromId then
          markRecipientsAsVerified lookup fromId chatVerified t keys
        else
          match markContactIdAsVerified t toId
              (if fromId = ContactId.self then none else some fromId) with
          | .error e => (t, some e)
          | .ok t => markRecipientsAsVerified lookup fromId chatVerified t keys

/-! ## calls -/

abbrev Call := ContactId × Option ContactId

/-- a call; one that fails leaves the table as it is -/
def call (t : Contacts) (c : Call) : Contacts :=
  match markContactIdAsVerified t c.1 c.2 with
  | .ok t => t
  | .error _ => t

def Contacts.verifierOf (t : Contacts) (id : ContactId) : ContactId :=
  (t.row id).elim ContactId.undefined ContactRow.verifier

/-- following the verifiers leads to the owner -/
abbrev OnChain (t : Contacts) (id : ContactId) : Prop :=
  Reaches t.verifierOf ContactId.self id

theorem markRecipientsAsVerified_induction {P : Contacts → Prop} {fromId : ContactId}
    (hcall : ∀ t toId, P t → P (call t (toId, if fromId = ContactId.self then none else some fromId)))
    (lookup : String → Option ContactId) (chatVerified : Bool) {t : Contacts} (h : P t)
    (keys : List GossipedKey) :
    P (markRecipientsAsVerified lookup fromId chatVerified t keys).1 := by
  induction keys generalizing t with
  | nil => exact h
  | cons key keys ih =>
    unfold markRecipientsAsVerified
    split
    · exact ih h
    · split
      · exact ih h
      · next toId _ =>
        split
        · exact ih h
        · split
          · exact h
          · next t' ht =>
            have hnext := hcall t toId h
            unfold call at hnext
            rw [ht] at hnext
            exact ih hnext

theorem setVerifier_verifierOf (t : Contacts) {contactId verifierId : ContactId} {bySelf : Bool}
    {r : ContactRow} (hr : t.row contactId = some r) :
    (t.setVerifier contactId verifierId bySelf).verifierOf =
      if r.verifier = ContactId.undefined ∨ r.verifier = contactId ∨ bySelf then
        Function.update t.verifierOf contactId verifierId
      else t.verifierOf := by
  funext id
  unfold Contacts.verifierOf Contacts.setVerifier
  dsimp only
  by_cases e : id = contactId
  · rw [e, updateRow_self, hr, Option.map_some]
    split
    · rw [Function.update_self, Option.elim_some]
    · simp only [hr]
  · rw [updateRow_of_ne _ e]
    split
    · rw [Function.update_of_ne e]
    · rfl

theorem not_onChain {t : Contacts} {id : ContactId} (hself : id ≠ ContactId.self)
    (h : t.verifierOf id = ContactId.undefined ∨ t.verifierOf id = id) : ¬ OnChain t id := by
  rcases h with h | h
  · refine not_reaches_of_step hself ?_
    rw [h]
    refine not_reaches_of_fixed ?_ (by decide)
    unfold Contacts.verifierOf
    rw [t.row_undefined]
    rfl
  · exact not_reaches_of_fixed h hself

def Contacts.Vouches (t : Contacts) (id : ContactId) : Prop :=
  t.verifierOf id ≠ ContactId.undefined ∧ t.verifierOf id ≠ id

theorem checkVerifier_ok {t : Contacts} {contactId verifierId v : ContactId}
    (hself : verifierId ≠ ContactId.self) (h : checkVerifier t contactId verifierId = .ok v) :
    v = contactId ∨ (v = verifierId ∧ t.Vouches v) := by
  unfold checkVerifier at h
  rw [if_neg hself] at h
  split at h
  · cases h
  · next verifier hrow =>
    have hv : t.verifierOf verifierId = verifier.verifier := by
      unfold Contacts.verifierOf
      rw [hrow, Option.elim_some]
    split at h
    · cases h
    · split at h
      · cases h
      · next hverified =>
        split at h
        · cases h
          exact .inl rfl
        · next hloop =>
          cases h
          rcases not_not.mp hverified with e | hne
          · exact .inl e
          · refine .inr ⟨rfl, ?_⟩
            unfold Contacts.Vouches
            rw [hv]
            exact ⟨hne, hloop⟩

theorem markContactIdAsVerified_cases {t t' : Contacts} {contactId : ContactId}
    {verifierId : Option ContactId} (h : markContactIdAsVerified t contactId verifierId = .ok t') :
    t'.verifierOf = t.verifierOf ∨
      t'.verifierOf = Function.update t.verifierOf contactId ContactId.self ∨
      (¬ OnChain t contactId ∧ ∃ v, (v = contactId ∨ t.Vouches v) ∧
        t'.verifierOf = Function.update t.verifierOf contactId v) := by
  unfold markContactIdAsVerified at h
  split at h
  · cases h
  · next hself =>
    split at h
    · cases h
    · split at h
      · cases h
      · next contact hrow =>
        split at h
        · cases h
        · cases hc : checkVerifier t contactId (verifierId.getD contactId) with
          | error e => rw [hc] at h; cases h
          | ok v =>
            rw [hc] at h
            cases h
            dsimp only
            by_cases hby : verifierId = some ContactId.self
            · -- the owner is stored whoever was the verifier before
              have hv : v = ContactId.self := by
                rw [hby, Option.getD_some, checkVerifier, if_pos rfl] at hc
                cases hc
                rfl
              refine .inr (.inl ?_)
              rw [setVerifier_verifierOf t hrow, if_pos (.inr (.inr (decide_eq_true hby))), hv]
            · have hnot : verifierId.getD contactId ≠ ContactId.self := by
                cases verifierId with
                | none => exact hself
                | some w => exact fun e => hby (congrArg some e)
              by_cases hfree : contact.verifier = ContactId.undefined ∨ contact.verifier = contactId
              · refine .inr (.inr ⟨?_, v, ?_, ?_⟩)
                · refine not_onChain hself ?_
                  unfold Contacts.verifierOf
                  rw [hrow, Option.elim_some]
                  exact hfree
                · exact (checkVerifier_ok hnot hc).imp_right And.right
                · exact (setVerifier_verifierOf t hrow).trans (if_pos (or_assoc.mp (.inl hfree)))
              · refine .inl ((setVerifier_verifierOf t hrow).trans (if_neg ?_))
                intro hor
                rcases or_assoc.mpr hor with hor | hor
                · exact hfree hor
                · exact hby (of_decide_eq_true hor)

/-! ## chains -/

def ChainInv (t : Contacts) : Prop := ∀ id, t.Vouches id → OnChain t id

theorem call_onChain (t : Contacts) (c : Call) (id : ContactId) (h : OnChain t id) :
    OnChain (call t c) id := by
  unfold call
  split
  · next t' ht =>
    unfold OnChain
    rcases markContactIdAsVerified_cases ht with e | e | ⟨hfree, v, _, e⟩
    · rw [e]
      exact h
    · rw [e]
      exact h.redirect
    · rw [e]
      exact h.update hfree
  · exact h

theorem call_chainInv (t : Contacts) (c : Call) (h : ChainInv t) : ChainInv (call t c) := by
  intro id hv
  by_cases hon : OnChain t id
  · exact call_onChain t c id hon
  · -- the contact was on no chain, so the call has given it its verifier
    unfold call at hv ⊢
    split at hv
    · next t' ht =>
      unfold Contacts.Vouches at hv
      rcases markContactIdAsVerified_cases ht with e | e | ⟨hfree, v, hvv, e⟩
      · rw [e] at hv
        exact absurd (h id hv) hon
      · by_cases eid : id = c.1
        · refine Reaches.step ?_
          rw [e, eid, Function.update_self]
          exact Reaches.root
        · rw [e, Function.update_of_ne eid] at hv
          exact absurd (h id hv) hon
      · by_cases eid : id = c.1
        · rw [e, eid, Function.update_self] at hv
          have hvon : OnChain t v := h v (hvv.resolve_left hv.2)
          refine Reaches.step ?_
          rw [e, eid, Function.update_self]
          exact hvon.update hfree
        · rw [e, Function.update_of_ne eid] at hv
          exact absurd (h id hv) hon
    · exact absurd (h id hv) hon

theorem calls_onChain (l : List Call) (t : Contacts) (id : ContactId) (h : OnChain t id) :
    OnChain (l.foldl call t) id := by
  exact List.foldlRecOn l call h fun t ht c _ => call_onChain t c id ht

theorem calls_chainInv (l : List Call) (t : Contacts) (h : ChainInv t) :
    ChainInv (l.foldl call t) := by
  exact List.foldlRecOn l call h fun t ht c _ => call_chainInv t c ht

/-- **After any calls each contact is unverified, of unknown verifier, or on a chain of verifiers to
the owner; and it stays on one.** -/
theorem verifier_chains (t : Contacts)
    (hstart : ∀ id r, t.row id = some r → r.verifier = ContactId.undefined) (l : List Call) :
    (∀ id r, (l.foldl call t).row id = some r →
        r.verifier = ContactId.undefined ∨ r.verifier = id ∨
          (r.verifier ≠ id ∧ OnChain (l.foldl call t) id)) ∧
      ∀ id l', OnChain (l.foldl call t) id → OnChain ((l ++ l').foldl call t) id := by
  have hinv : ChainInv t := by
    intro id hv
    refine absurd ?_ hv.1
    unfold Contacts.verifierOf
    cases hr : t.row id with
    | none => rfl
    | some r => exact hstart id r hr
  refine ⟨?_, ?_⟩
  · intro id r hr
    have hv : (l.foldl call t).verifierOf id = r.verifier := by
      unfold Contacts.verifierOf
      rw [hr, Option.elim_some]
    by_cases h0 : r.verifier = ContactId.undefined
    · exact .inl h0
    · by_cases hid : r.verifier = id
      · exact .inr (.inl hid)
      · refine .inr (.inr ⟨hid, calls_chainInv l t hinv id ?_⟩)
        unfold Contacts.Vouches
        rw [hv]
        exact ⟨h0, hid⟩
  · intro id l' h
    rw [List.foldl_append]
    exact calls_onChain l' _ id h

def threeContacts : Contacts where
  row id := if 10 ≤ id ∧ id ≤ 12 then some { fingerprint := "F" } else none
  row_undefined := rfl

theorem verifier_chains_three :
    (∀ id r, ([(10, some 1), (11, some 10), (12, none)].foldl call threeContacts).row id = some r →
        r.verifier = ContactId.undefined ∨ r.verifier = id ∨
          (r.verifier ≠ id ∧
            OnChain ([(10, some 1), (11, some 10), (12, none)].foldl call threeContacts) id)) ∧
      ∀ id l', OnChain ([(10, some 1), (11, some 10), (12, none)].foldl call threeContacts) id →
        OnChain (([(10, some 1), (11, some 10), (12, none)] ++ l').foldl call threeContacts) id :=
  verifier_chains threeContacts (fun id r h => by
    unfold threeContacts at h
    dsimp only at h
    split at h
    · cases h
      rfl
    · cases h) _

/-! ## messages -/

/-- a sender on no chain can at most leave a contact without a known verifier -/
theorem call_stranger {t : Contacts} (h : ChainInv t) {toId fromId id : ContactId}
    (hfrom : ¬ OnChain t fromId) (hid : OnChain (call t (toId, some fromId)) id) :
    OnChain t id := by
  have hself : fromId ≠ ContactId.self := fun e => hfrom (e ▸ Reaches.root)
  unfold call markContactIdAsVerified at hid
  split at hid
  · next t' ht =>
    split at ht
    · cases ht
    · next hto =>
      split at ht
      · cases ht
      · split at ht
        · cases ht
        · next contact hrow =>
          split at ht
          · cases ht
          · cases hc : checkVerifier t toId fromId with
            | error e =>
              rw [Option.getD_some, hc] at ht
              cases ht
            | ok v =>
              rw [Option.getD_some, hc] at ht
              cases ht
              rcases checkVerifier_ok hself hc with rfl | ⟨rfl, hv⟩
              · unfold OnChain at hid
                rw [setVerifier_verifierOf t hrow] at hid
                split at hid
                · exact hid.of_update_self hto
                · exact hid
              · exact absurd (h _ hv) hfrom
  · exact hid

structure Gossip where
  lookup : String → Option ContactId
  fromId : ContactId
  chatVerified : Bool
  keys : List GossipedKey

def receive (t : Contacts) (m : Gossip) : Contacts :=
  (markRecipientsAsVerified m.lookup m.fromId m.chatVerified t m.keys).1

/-- **Who is on no chain to the owner brings nobody on one**, and nobody off, whatever the messages
gossip. -/
theorem gossip_of_strangers (t : Contacts) (h : ChainInv t) (messages : List Gossip)
    (hfrom : ∀ m ∈ messages, ¬ OnChain t m.fromId) (id : ContactId) :
    OnChain (messages.foldl receive t) id ↔ OnChain t id := by
  -- the senders stay strangers, as the same contacts are on chains all the time
  let Same (t' : Contacts) : Prop := ChainInv t' ∧ ∀ id, OnChain t' id ↔ OnChain t id
  have hrun : Same (messages.foldl receive t) := by
    refine List.foldlRecOn messages receive ⟨h, fun _ => Iff.rfl⟩ fun s hs m hm => ?_
    refine markRecipientsAsVerified_induction (fun s' toId hs' => ?_) _ _ hs m.keys
    have hstranger : ¬ OnChain s' m.fromId := fun hon => hfrom m hm ((hs'.2 _).mp hon)
    have hself : m.fromId ≠ ContactId.self := fun e => hstranger (e ▸ Reaches.root)
    rw [if_neg hself]
    refine ⟨call_chainInv _ _ hs'.1, fun id => ?_⟩
    exact ⟨fun hid => (hs'.2 id).mp (call_stranger hs'.1 hstranger hid),
      fun hid => call_onChain _ _ id ((hs'.2 id).mpr hid)⟩
  exact hrun.2 id

/-- contact 11 gossips the key of contact 12 in a verified chat -/
theorem gossip_of_strangers_one :
    OnChain ([⟨fun _ => some 12, 11, true, [⟨"F", true⟩]⟩].foldl receive threeContacts) 12 ↔
      OnChain threeContacts 12 := by
  have hnone : ∀ id, threeContacts.verifierOf id = ContactId.undefined := by
    intro id
    unfold Contacts.verifierOf threeContacts
    dsimp only
    split <;> rfl
  refine gossip_of_strangers _ (fun id hv => absurd (hnone id) hv.1) _ ?_ 12
  intro m hm
  rw [List.mem_singleton.mp hm]
  exact not_onChain (by decide) (.inl (hnone 11))

end EpsilonChat.Verify
