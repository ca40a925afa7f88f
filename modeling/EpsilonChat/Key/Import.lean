import EpsilonChat.Lib.Table
import Mathlib

/-!
# Importing public keys

`import_public_key` merges a key that came with a message into the certificate that is stored under
its fingerprint (`merge_openpgp_certificates`).

* `bestDirectKeySignature`, `bestUser`: the newest valid ones of BOTH certificates are taken
  (`le_bestDirectKeySignature`, `le_bestUser`);
* the subkeys are those of the FIRST certificate, which is the imported one;
* `import_keeps_iff`: **an import never loses a newer signature, and it keeps the stored subkeys iff
  the imported certificate has them all.**

Keys and signatures are opaque, and what the OpenPGP library computes from them are functions
(`Pgp`).  User IDs and user attributes are texts.
-/

set_option linter.unusedSectionVars false

namespace EpsilonChat.Key
open Lib

structure SignedUser (Sig : Type) where
  id : String
  signatures : List Sig
  deriving DecidableEq, Repr

structure SignedSubkey (PubKey Sig : Type) where
  key : PubKey
  signatures : List Sig
  deriving DecidableEq, Repr

/-- `SignedPublicKey`, with the lists of its `details` -/
structure Certificate (PubKey Sig : Type) where
  primaryKey : PubKey
  revocationSignatures : List Sig := []
  directSignatures : List Sig := []
  users : List (SignedUser Sig) := []
  userAttributes : List String := []
  publicSubkeys : List (SignedSubkey PubKey Sig) := []
  deriving DecidableEq, Repr

/-- the OpenPGP library; `created` is `⊥` for a signature without creation time -/
structure Pgp (PubKey Sig Bytes : Type) where
  verifyBindings : Certificate PubKey Sig → Bool
  imprint : PubKey → Option String
  dcFingerprint : PubKey → String
  verifyKey : Sig → PubKey → Bool
  verifyCertification : Sig → PubKey → String → Bool
  created : Sig → WithBot ℕ
  toBytes : Certificate PubKey Sig → Bytes
  fromSlice : Bytes → Option (Certificate PubKey Sig)
  fromSlice_toBytes : ∀ c, fromSlice (toBytes c) = some c

/-- `Iterator::max_by_key`: the last one of the greatest elements -/
def maxByKey {α β : Type} [LinearOrder β] (f : α → β) (l : List α) : Option α := l.reverse.argmax f

theorem le_maxByKey {α β : Type} [LinearOrder β] (f : α → β) {l : List α} {a : α} (ha : a ∈ l) :
    ∃ m, maxByKey f l = some m ∧ f a ≤ f m := by
  have ha' : a ∈ l.reverse := List.mem_reverse.mpr ha
  cases h : maxByKey f l with
  | none => exact absurd (List.argmax_eq_none.mp h) (List.ne_nil_of_mem ha')
  | some m => exact ⟨m, rfl, List.le_of_mem_argmax ha' h⟩

section
variable {PubKey Sig Bytes : Type} [DecidableEq Bytes] (P : Pgp PubKey Sig Bytes)

/-! ## `merge_openpgp_certificates` -/

inductive MergeError where
  /-- "First key cannot be verified" -/
  | firstKey
  /-- "Second key cannot be verified" -/
  | secondKey
  /-- the imprint of a primary key cannot be computed -/
  | imprint
  /-- "Cannot merge certificates with different primary keys" -/
  | differentPrimaryKeys
  deriving DecidableEq, Repr

def bestDirectKeySignature (primaryKey : PubKey) (signatures : List Sig) : Option Sig :=
  maxByKey P.created (signatures.filter fun x => P.verifyKey x primaryKey)

def bestUserSignature (primaryKey : PubKey) (user : SignedUser Sig) : Option (String × Sig) :=
  (maxByKey P.created
    (user.signatures.filter fun x => P.verifyCertification x primaryKey user.id)).map
      fun signature => (user.id, signature)

def bestUser (primaryKey : PubKey) (users : List (SignedUser Sig)) : Option (SignedUser Sig) :=
  (maxByKey (fun u => P.created u.2) (users.filterMap (bestUserSignature P primaryKey))).map
    fun u => { id := u.1, signatures := [u.2] }

def mergeDetails (old new : Certificate PubKey Sig) : Certificate PubKey Sig where
  primaryKey := old.primaryKey
  revocationSignatures := []
  directSignatures := (bestDirectKeySignature P old.primaryKey
    (old.directSignatures ++ new.directSignatures)).toList
  users := (bestUser P old.primaryKey (old.users ++ new.users)).toList
  userAttributes := []
  publicSubkeys := old.publicSubkeys

def mergeOpenpgpCertificates (old new : Certificate PubKey Sig) :
    Except MergeError (Certificate PubKey Sig) :=
  if !P.verifyBindings old then .error .firstKey
  else if !P.verifyBindings new then .error .secondKey
  else
    match P.imprint old.primaryKey, P.imprint new.primaryKey with
    | some oldImprint, some newImprint =>
      if oldImprint = newImprint then .ok (mergeDetails P old new)
      else .error .differentPrimaryKeys
    | _, _ => .error .imprint

/-! ## `import_public_key` -/

abbrev PublicKeys (Bytes : Type) := String → Option Bytes

inductive ImportError where
  /-- "Attempt to import broken public key" -/
  | brokenKey
  /-- the stored key cannot be read -/
  | storedKey
  /-- "Failed to merge public keys" -/
  | merge (e : MergeError)
  deriving DecidableEq, Repr

def mergedPublicKey (db : PublicKeys Bytes) (publicKey : Certificate PubKey Sig) :
    Except ImportError (Certificate PubKey Sig) :=
  match db (P.dcFingerprint publicKey.primaryKey) with
  | none => .ok publicKey
  | some publicKeyBytes =>
    match P.fromSlice publicKeyBytes with
    | none => .error .storedKey
    | some oldPublicKey =>
      (mergeOpenpgpCertificates P publicKey oldPublicKey).mapError .merge

def importPublicKey (db : PublicKeys Bytes) (publicKey : Certificate PubKey Sig) :
    Except ImportError (PublicKeys Bytes) :=
  if !P.verifyBindings publicKey then .error .brokenKey
  else (mergedPublicKey P db publicKey).map fun merged =>
    upsert db (P.dcFingerprint publicKey.primaryKey) (P.toBytes merged) fun old =>
      if old ≠ P.toBytes merged then some (P.toBytes merged) else none

def stored (db : PublicKeys Bytes) (fingerprint : String) : Option (Certificate PubKey Sig) :=
  (db fingerprint).bind P.fromSlice

/-! ## what a merge keeps -/

theorem le_bestDirectKeySignature {primaryKey : PubKey} {signatures : List Sig} {s : Sig}
    (hs : s ∈ signatures) (hvalid : P.verifyKey s primaryKey) :
    ∃ s', bestDirectKeySignature P primaryKey signatures = some s' ∧ P.created s ≤ P.created s' :=
  le_maxByKey P.created (List.mem_filter.mpr ⟨hs, hvalid⟩)

theorem le_bestUser {primaryKey : PubKey} {users : List (SignedUser Sig)} {u : SignedUser Sig}
    {s : Sig} (hu : u ∈ users) (hs : s ∈ u.signatures)
    (hvalid : P.verifyCertification s primaryKey u.id) :
    ∃ id s', bestUser P primaryKey users = some { id, signatures := [s'] } ∧
      P.created s ≤ P.created s' := by
  obtain ⟨b, hb, hsb⟩ := le_maxByKey P.created
    (l := u.signatures.filter fun x => P.verifyCertification x primaryKey u.id)
    (List.mem_filter.mpr ⟨hs, hvalid⟩)
  have hbest : bestUserSignature P primaryKey u = some (u.id, b) := by
    rw [bestUserSignature, hb, Option.map_some]
  obtain ⟨c, hc, hbc⟩ := le_maxByKey (fun u : String × Sig => P.created u.2)
    (List.mem_filterMap.mpr ⟨u, hu, hbest⟩)
  refine ⟨c.1, c.2, ?_, hsb.trans hbc⟩
  rw [bestUser, hc, Option.map_some]

theorem merge_ok {old new merged : Certificate PubKey Sig}
    (h : mergeOpenpgpCertificates P old new = .ok merged) : merged = mergeDetails P old new := by
  unfold mergeOpenpgpCertificates at h
  split at h
  · cases h
  · split at h
    · cases h
    · split at h
      · split at h
        · cases h
          rfl
        · cases h
      · cases h

theorem import_ok {db db' : PublicKeys Bytes} {old new : Certificate PubKey Sig}
    (hstored : stored P db (P.dcFingerprint new.primaryKey) = some old)
    (h : importPublicKey P db new = .ok db') :
    stored P db' (P.dcFingerprint new.primaryKey) = some (mergeDetails P new old) := by
  obtain ⟨bytes, hbytes, hold⟩ := Option.bind_eq_some_iff.mp hstored
  have hmerged : mergedPublicKey P db new
      = (mergeOpenpgpCertificates P new old).mapError .merge := by
    unfold mergedPublicKey
    rw [hbytes]
    dsimp only
    rw [hold]
  unfold importPublicKey at h
  rw [hmerged] at h
  split at h
  · cases h
  · cases hm : mergeOpenpgpCertificates P new old with
    | error e => rw [hm] at h; cases h
    | ok merged =>
      rw [hm] at h
      cases h
      unfold stored
      dsimp only
      rw [upsert_of_some _ _ hbytes, ← merge_ok P hm, Option.bind_some]
      split
      · exact P.fromSlice_toBytes merged
      · next he =>
        rw [Option.getD_none, not_not.mp he]
        exact P.fromSlice_toBytes merged

/-- **An import never loses a newer signature, and it keeps the stored subkeys iff the imported
certificate has them all.** -/
theorem import_keeps_iff (db db' : PublicKeys Bytes) (old new : Certificate PubKey Sig)
    (hstored : stored P db (P.dcFingerprint new.primaryKey) = some old)
    (hkey : new.primaryKey = old.primaryKey) (h : importPublicKey P db new = .ok db') :
    ∃ merged, stored P db' (P.dcFingerprint new.primaryKey) = some merged ∧
      (∀ s ∈ old.directSignatures, P.verifyKey s old.primaryKey →
        ∃ s', merged.directSignatures = [s'] ∧ P.created s ≤ P.created s') ∧
      (∀ u ∈ old.users, ∀ s ∈ u.signatures, P.verifyCertification s old.primaryKey u.id →
        ∃ id s', merged.users = [{ id, signatures := [s'] }] ∧ P.created s ≤ P.created s') ∧
      ((∀ k ∈ old.publicSubkeys, ∃ k' ∈ merged.publicSubkeys, k'.key = k.key) ↔
        ∀ k ∈ old.publicSubkeys, ∃ k' ∈ new.publicSubkeys, k'.key = k.key) := by
  refine ⟨mergeDetails P new old, import_ok P hstored h, ?_, ?_, Iff.rfl⟩
  · intro s hs hvalid
    rw [← hkey] at hvalid
    obtain ⟨s', hs', hle⟩ := le_bestDirectKeySignature P
      (List.mem_append_right new.directSignatures hs) hvalid
    refine ⟨s', ?_, hle⟩
    show (bestDirectKeySignature P _ _).toList = _
    rw [hs']
    rfl
  · intro u hu s hs hvalid
    rw [← hkey] at hvalid
    obtain ⟨id, s', hs', hle⟩ := le_bestUser P (List.mem_append_right new.users hu) hs hvalid
    refine ⟨id, s', ?_, hle⟩
    show (bestUser P _ _).toList = _
    rw [hs']
    rfl

end

/-! ## a stripped certificate -/

def numberedPgp : Pgp ℕ ℕ (Certificate ℕ ℕ) where
  verifyBindings _ := true
  imprint k := some (toString k)
  dcFingerprint k := toString k
  verifyKey _ _ := true
  verifyCertification _ _ _ := true
  created s := s
  toBytes c := c
  fromSlice c := some c
  fromSlice_toBytes _ := rfl

def storedKey : Certificate ℕ ℕ where
  primaryKey := 1
  directSignatures := [5]
  publicSubkeys := [{ key := 2, signatures := [5] }]

def strippedKey : Certificate ℕ ℕ := { primaryKey := 1, directSignatures := [3] }

def keyStore : PublicKeys (Certificate ℕ ℕ) := fun fingerprint =>
  if fingerprint = "1" then some storedKey else none

theorem import_keeps_older :
    stored numberedPgp keyStore "1" = some storedKey ∧
      ∃ db', importPublicKey numberedPgp keyStore strippedKey = .ok db' ∧
      ∃ merged, stored numberedPgp db' (toString 1) = some merged ∧
        (∀ s ∈ storedKey.directSignatures, numberedPgp.verifyKey s storedKey.primaryKey →
          ∃ s', merged.directSignatures = [s'] ∧
            numberedPgp.created s ≤ numberedPgp.created s') ∧
        (∀ u ∈ storedKey.users, ∀ s ∈ u.signatures,
          numberedPgp.verifyCertification s storedKey.primaryKey u.id →
          ∃ id s', merged.users = [{ id, signatures := [s'] }] ∧
            numberedPgp.created s ≤ numberedPgp.created s') ∧
        ((∀ k ∈ storedKey.publicSubkeys, ∃ k' ∈ merged.publicSubkeys, k'.key = k.key) ↔
          ∀ k ∈ storedKey.publicSubkeys, ∃ k' ∈ strippedKey.publicSubkeys, k'.key = k.key) :=
  ⟨rfl, _, rfl, import_keeps_iff numberedPgp keyStore _ storedKey strippedKey rfl rfl rfl⟩

/-- A stripped certificate removes the encryption subkey from the stored one. -/
theorem import_drops_subkeys :
    (stored numberedPgp keyStore "1").map (fun c => c.publicSubkeys.map SignedSubkey.key)
        = some [2] ∧
      ∃ db', importPublicKey numberedPgp keyStore strippedKey = .ok db' ∧
        (stored numberedPgp db' "1").map Certificate.publicSubkeys = some [] ∧
        (stored numberedPgp db' "1").map Certificate.directSignatures = some [5] :=
  ⟨rfl, _, rfl, rfl, rfl⟩

end EpsilonChat.Key
