import Mathlib.Logic.Basic

/-!
# Row ids

`ContactId`, `ChatId` and `MsgId` wrap the `u32` row ids of their tables.  The first ids are
reserved: a contact is special up to `ContactId.lastSpecial`, a message up to `MsgId.lastSpecial`.  No
statement can be executed for a special message: `to_sql` fails (`foldlM_toSql`).
-/

namespace EpsilonChat

abbrev ContactId := Nat
abbrev ChatId := Nat
abbrev MsgId := Nat

namespace ContactId

def undefined : ContactId := 0

def self : ContactId := 1

def device : ContactId := 5

def lastSpecial : ContactId := 9

def isSpecial (id : ContactId) : Bool := id ≤ lastSpecial

end ContactId

namespace MsgId

def lastSpecial : MsgId := 9

def isSpecial (id : MsgId) : Bool := id ≤ lastSpecial

def toSql (id : MsgId) : Except String MsgId :=
  if id.isSpecial then .error s!"Invalid MsgId {id}" else .ok id

theorem toSql_eq_ok {id id' : MsgId} (h : id.toSql = .ok id') : id' = id := by
  unfold toSql at h
  split at h
  · cases h
  · exact (Except.ok.inj h).symm

/-- a statement for each id of a list, inside a transaction -/
theorem foldlM_toSql {σ ι : Type} (id : ι → MsgId) (f : σ → ι → σ) (l : List ι) (s : σ) :
    l.foldlM (fun s i => (id i).toSql.map fun _ => f s i) s =
      match (l.map id).find? isSpecial with
      | none => .ok (l.foldl f s)
      | some i => .error s!"Invalid MsgId {i}" := by
  induction l generalizing s with
  | nil => rfl
  | cons i l ih =>
    rw [List.foldlM_cons, List.map_cons, List.find?_cons, toSql]
    cases h : (id i).isSpecial with
    | true => rfl
    | false => exact ih (f s i)

end MsgId

end EpsilonChat
