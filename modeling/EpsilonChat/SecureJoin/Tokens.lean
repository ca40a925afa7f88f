import EpsilonChat.SecureJoin.State

/-!
# Invites, and how another device withdraws them

An invite is a pair of rows of `tokens`, an invite number and an auth token, under the id of a group
or under the empty key.  The devices of a user tell each other about new and withdrawn invites with
sync items, which carry the time at which they were made.

* `Tokens`: the table; no token is stored twice;
* `addQrToken`, `deleteQrToken`: the two items;
* `names`: the WHERE clause of the inner query, in which AND binds closer than OR: the time is
  compared for the auth token only;
* `mem_deleteQrToken`: what the statement leaves: ALL tokens under the keys that were found go;
* **`withdraws_old_iff`**: the withdrawal spares what is newer than it IFF nothing newer is stored
  under the key of the invite number, or under that of an auth token that is old enough.
-/

namespace EpsilonChat.SecureJoin

/-! ## the table -/

structure Tokens where
  rows : List Token
  /-- `token TEXT NOT NULL UNIQUE` -/
  unique : (rows.map Token.token).Nodup

namespace Tokens

def empty : Tokens := ⟨[], List.nodup_nil⟩

def insertOrIgnore (t : Tokens) (row : Token) : Tokens :=
  if h : row.token ∈ t.rows.map Token.token then t
  else
    { rows := t.rows ++ [row]
      unique := by
        rw [List.map_append, List.map_singleton, ← List.concat_eq_append]
        exact t.unique.concat h }

def deleteWhere (t : Tokens) (p : Token → Bool) : Tokens where
  rows := t.rows.filter fun row => !p row
  unique := t.unique.sublist (List.filter_sublist.map _)

theorem mem_deleteWhere {t : Tokens} {p : Token → Bool} {row : Token} :
    row ∈ (t.deleteWhere p).rows ↔ row ∈ t.rows ∧ p row = false := by
  show row ∈ t.rows.filter _ ↔ _
  rw [List.mem_filter, Bool.not_eq_true']

end Tokens

def saveToken (t : Tokens) (namespc : Namespace) (foreignKey : Option String) (token : String)
    (timestamp : I64) : Tokens :=
  if token = "" then t
  else t.insertOrIgnore { namespc, foreignKey := foreignKey.getD "", token, timestamp }

structure QrTokenData where
  invitenumber : String
  auth : String
  grpid : Option String := none
  deriving DecidableEq, Repr

def addQrToken (t : Tokens) (token : QrTokenData) (timestamp : I64) : Tokens :=
  let t := saveToken t .inviteNumber token.grpid token.invitenumber timestamp
  saveToken t .auth token.grpid token.auth timestamp

/-- `token=? OR token=? AND timestamp <= ?` -/
def names (token : QrTokenData) (timestamp : I64) (row : Token) : Bool :=
  row.token == token.invitenumber || (row.token == token.auth && row.timestamp ≤ timestamp)

def deleteQrToken (t : Tokens) (token : QrTokenData) (timestamp : I64) : Tokens :=
  let foreignKeys := (t.rows.filter (names token timestamp)).map Token.foreignKey
  t.deleteWhere fun row => foreignKeys.contains row.foreignKey

/-! ## what a withdrawal deletes -/

section
variable {t : Tokens} {token : QrTokenData} {timestamp : I64} {row : Token}

theorem mem_deleteQrToken : row ∈ (deleteQrToken t token timestamp).rows ↔
    row ∈ t.rows ∧ ∀ named ∈ t.rows, names token timestamp named →
      row.foreignKey ≠ named.foreignKey := by
  unfold deleteQrToken
  rw [Tokens.mem_deleteWhere, List.contains_eq_mem, decide_eq_false_iff_not, List.mem_map]
  refine and_congr_right fun _ => ?_
  constructor
  · intro h named hmem hnames e
    exact h ⟨named, List.mem_filter.mpr ⟨hmem, hnames⟩, e.symm⟩
  · rintro h ⟨named, hmem, e⟩
    obtain ⟨hmem, hnames⟩ := List.mem_filter.mp hmem
    exact h named hmem hnames e.symm

/-- nothing newer than the withdrawal is deleted, and the invite is if it is not newer -/
def WithdrawsOld (t : Tokens) (token : QrTokenData) (timestamp : I64) : Prop :=
  (∀ row ∈ t.rows, timestamp < row.timestamp → row ∈ (deleteQrToken t token timestamp).rows) ∧
    ∀ row ∈ t.rows, row.token = token.invitenumber ∨ row.token = token.auth →
      row.timestamp ≤ timestamp → row ∉ (deleteQrToken t token timestamp).rows

/-- under the key of the invite number nothing is newer than the withdrawal, and neither under the
key of the auth token unless that one is newer itself -/
def NothingNewer (t : Tokens) (token : QrTokenData) (timestamp : I64) : Prop :=
  ∀ named ∈ t.rows, ∀ row ∈ t.rows, row.foreignKey = named.foreignKey →
    (named.token = token.invitenumber → row.timestamp ≤ timestamp) ∧
      (named.token = token.auth → named.timestamp ≤ timestamp → row.timestamp ≤ timestamp)

theorem names_iff {named : Token} : names token timestamp named ↔
    named.token = token.invitenumber ∨ (named.token = token.auth ∧ named.timestamp ≤ timestamp) := by
  unfold names
  rw [Bool.or_eq_true, Bool.and_eq_true, beq_iff_eq, beq_iff_eq, decide_eq_true_iff]

theorem not_mem_deleteQrToken (h : names token timestamp row) :
    row ∉ (deleteQrToken t token timestamp).rows := by
  intro hmem
  obtain ⟨hrow, hkeys⟩ := mem_deleteQrToken.mp hmem
  exact hkeys row hrow h rfl

theorem mem_deleteQrToken_of_newer (hnothing : NothingNewer t token timestamp)
    (hrow : row ∈ t.rows) (hnew : timestamp < row.timestamp) :
    row ∈ (deleteQrToken t token timestamp).rows := by
  refine mem_deleteQrToken.mpr ⟨hrow, fun named hnamed hnames hkey => ?_⟩
  obtain ⟨hinvite, hauth⟩ := hnothing named hnamed row hrow hkey
  rcases names_iff.mp hnames with h | ⟨h, h'⟩
  · exact not_le.mpr hnew (hinvite h)
  · exact not_le.mpr hnew (hauth h h')

/-- **A withdrawal deletes nothing that is newer IFF nothing newer is stored under the keys that it
finds.** -/
theorem withdraws_old_iff (t : Tokens) (token : QrTokenData) (timestamp : I64) :
    WithdrawsOld t token timestamp ↔ NothingNewer t token timestamp := by
  constructor
  · rintro ⟨hkeeps, -⟩ named hnamed row hrow hkey
    -- a newer row would have been kept, so its key was not found
    have hold : names token timestamp named → row.timestamp ≤ timestamp := by
      intro hnames
      by_contra hnew
      exact (mem_deleteQrToken.mp (hkeeps row hrow (not_le.mp hnew))).2 named hnamed hnames hkey
    exact ⟨fun h => hold (names_iff.mpr (.inl h)), fun h h' => hold (names_iff.mpr (.inr ⟨h, h'⟩))⟩
  · intro hnothing
    refine ⟨fun row hrow hnew => mem_deleteQrToken_of_newer hnothing hrow hnew, ?_⟩
    intro row _ htoken hold
    refine not_mem_deleteQrToken (names_iff.mpr ?_)
    exact htoken.imp_right fun h => ⟨h, hold⟩

end

/-- An invite of 10, another one of 30 for the same group; the withdrawal of the first, made at 20,
also takes the second. -/
theorem newer_invite_withdrawn :
    let first : QrTokenData := { invitenumber := "i1", auth := "a1", grpid := some "g" }
    let second : QrTokenData := { invitenumber := "i2", auth := "a2", grpid := some "g" }
    let t := addQrToken (addQrToken Tokens.empty first ⟨10, by decide⟩) second ⟨30, by decide⟩
    ¬ WithdrawsOld t { first with grpid := none } ⟨20, by decide⟩ ∧
      (deleteQrToken t { first with grpid := none } ⟨20, by decide⟩).rows = [] := by
  intro first second t
  have hgone : (deleteQrToken t { first with grpid := none } ⟨20, by decide⟩).rows = [] := by
    decide +kernel
  refine ⟨fun h => ?_, hgone⟩
  have hrow : (⟨.auth, "g", "a2", ⟨30, by decide⟩⟩ : Token) ∈ t.rows := by decide +kernel
  have hkept := h.1 _ hrow (by decide)
  rw [hgone] at hkept
  exact List.not_mem_nil hkept

end EpsilonChat.SecureJoin
