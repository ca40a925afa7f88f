import Mathlib.Logic.Function.Basic

/-!
# Keyed tables and the SQL statements on them

A table with a unique key is a partial map `κ → Option ρ` from keys to rows.

* `upsert t k new upd`: `INSERT … ON CONFLICT DO UPDATE SET … WHERE …`: without a row under `k` the
  row `new` is inserted; otherwise the row `r` becomes `upd r`, and stays as it is where the `WHERE`
  clause fails (`upd r = none`);
* `upserted t k upd`: whether that statement changed a row (`execute(…) > 0`);
* `updateRow t k f`: `UPDATE … WHERE key = k`;
* `deleteRow t k p`: `DELETE … WHERE key = k AND p`.

`foldl_upsert` says what one prepared `upsert` does when it is executed for a list of keys: a row
whose key is not listed stays, a listed row is updated once if the update is idempotent.
`foldl_upsert_of_none` is the same where there is no row yet.
-/

namespace Lib

section
variable {κ ρ : Type*} [DecidableEq κ]

def upsert (t : κ → Option ρ) (k : κ) (new : ρ) (upd : ρ → Option ρ) : κ → Option ρ :=
  Function.update t k (match t k with
    | none => some new
    | some r => some ((upd r).getD r))

def upserted (t : κ → Option ρ) (k : κ) (upd : ρ → Option ρ) : Bool :=
  match t k with
  | none => true
  | some r => (upd r).isSome

def updateRow (t : κ → Option ρ) (k : κ) (f : ρ → ρ) : κ → Option ρ :=
  Function.update t k ((t k).map f)

def deleteRow (t : κ → Option ρ) (k : κ) (p : ρ → Bool) : κ → Option ρ :=
  Function.update t k ((t k).filter fun r => !p r)

theorem upsert_of_none {t : κ → Option ρ} {k : κ} (new : ρ) (upd : ρ → Option ρ)
    (h : t k = none) : upsert t k new upd k = some new := by
  rw [upsert, Function.update_self, h]

theorem upsert_of_some {t : κ → Option ρ} {k : κ} {r : ρ} (new : ρ) (upd : ρ → Option ρ)
    (h : t k = some r) : upsert t k new upd k = some ((upd r).getD r) := by
  rw [upsert, Function.update_self, h]

@[simp] theorem upsert_of_ne {t : κ → Option ρ} {k k' : κ} (new : ρ) (upd : ρ → Option ρ)
    (h : k' ≠ k) : upsert t k new upd k' = t k' := Function.update_of_ne h _ _

@[simp] theorem updateRow_self (t : κ → Option ρ) (k : κ) (f : ρ → ρ) :
    updateRow t k f k = (t k).map f := Function.update_self ..

@[simp] theorem updateRow_of_ne {t : κ → Option ρ} {k k' : κ} (f : ρ → ρ) (h : k' ≠ k) :
    updateRow t k f k' = t k' := Function.update_of_ne h _ _

@[simp] theorem deleteRow_self (t : κ → Option ρ) (k : κ) (p : ρ → Bool) :
    deleteRow t k p k = (t k).filter fun r => !p r := Function.update_self ..

@[simp] theorem deleteRow_of_ne {t : κ → Option ρ} {k k' : κ} (p : ρ → Bool) (h : k' ≠ k) :
    deleteRow t k p k' = t k' := Function.update_of_ne h _ _

theorem foldl_upsert {ι : Type*} [DecidableEq ι] (key : ι → κ) (new : ρ) (upd : ρ → ρ)
    (hidem : ∀ r, upd (upd r) = upd r) (ks : List ι) (k : κ) :
    ∀ (t : κ → Option ρ) (r : ρ), t k = some r →
      ks.foldl (fun t i => upsert t (key i) new fun r => some (upd r)) t k
        = some (if k ∈ ks.map key then upd r else r) := by
  induction ks with
  | nil => intro t r h; simpa using h
  | cons i ks ih =>
    intro t r h
    rw [List.foldl_cons]
    by_cases e : key i = k
    · have h1 : upsert t (key i) new (fun r => some (upd r)) k = some (upd r) := by
        subst e; rw [upsert_of_some _ _ h]; rfl
      rw [ih _ _ h1, hidem, ite_self, if_pos (by simp [e])]
    · have h1 : upsert t (key i) new (fun r => some (upd r)) k = some r := by
        rw [upsert_of_ne _ _ (Ne.symm e), h]
      have e' : (k ∈ (i :: ks).map key) ↔ k ∈ ks.map key := by
        rw [List.map_cons, List.mem_cons]
        exact ⟨fun h => h.resolve_left (Ne.symm e), .inr⟩
      rw [ih _ _ h1]
      simp only [e']

theorem foldl_upsert_of_none {ι : Type*} [DecidableEq ι] (key : ι → κ) (new : ρ)
    (upd : ρ → Option ρ) (k : κ) (ks : List ι) (hnodup : (ks.map key).Nodup) :
    ∀ t : κ → Option ρ, t k = none →
      ks.foldl (fun t i => upsert t (key i) new upd) t k
        = if k ∈ ks.map key then some new else none := by
  induction ks with
  | nil => intro t h; simpa using h
  | cons i ks ih =>
    intro t h
    obtain ⟨hfresh, hnodup'⟩ := List.nodup_cons.mp hnodup
    rw [List.foldl_cons]
    by_cases e : key i = k
    · -- the row is inserted now, and no later key is `k`
      subst e
      rw [List.map_cons, if_pos List.mem_cons_self]
      have hin : upsert t (key i) new upd (key i) = some new := upsert_of_none new upd h
      refine List.foldlRecOn ks _ (motive := fun t : κ → Option ρ => t (key i) = some new) hin ?_
      intro t' ht' j hj
      have hne : key i ≠ key j := fun e => hfresh (e ▸ List.mem_map_of_mem hj)
      rw [upsert_of_ne new upd hne, ht']
    · have h' : upsert t (key i) new upd k = none := by
        rw [upsert_of_ne new upd (Ne.symm e), h]
      rw [ih hnodup' _ h', List.map_cons]
      simp only [List.mem_cons, Ne.symm e, false_or]

end

end Lib
