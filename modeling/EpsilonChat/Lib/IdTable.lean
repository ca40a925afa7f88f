import EpsilonChat.Lib.Table

/-!
# Tables with row ids

A table with an `INTEGER PRIMARY KEY AUTOINCREMENT`: rows by their id, and the greatest id given out
so far (`seq`), beyond which there are no rows.

* `insert`, `update`, `delete`: the statements on it, for one row;
* `updateWhere`, `deleteWhere`: the statements for all rows that meet a condition;
* `insertAll`: one row after the other, under ids without a gap;
* `map`: the table of some columns only;
* `ids`: `SELECT id … WHERE …`, in the order of the ids;
* `queryRow`: the first of these rows;
* `Any`: some row has a property.

`map_insert`, `map_update_const` and `queryRow_map` say how the statements look through `map`.
-/

namespace Lib

structure IdTable (ρ : Type*) where
  row : Nat → Option ρ
  seq : Nat
  row_of_lt : ∀ id, seq < id → row id = none

namespace IdTable

variable {ρ : Type*} {t : IdTable ρ}

def empty : IdTable ρ := ⟨fun _ => none, 0, fun _ _ => rfl⟩

/-- no rows, and the first ids are used up -/
def emptyAfter (seq : Nat) : IdTable ρ := ⟨fun _ => none, seq, fun _ _ => rfl⟩

/-- the new row has the id `t.seq + 1` -/
def insert (t : IdTable ρ) (r : ρ) : IdTable ρ where
  row := Function.update t.row (t.seq + 1) (some r)
  seq := t.seq + 1
  row_of_lt id h := by
    rw [Function.update_of_ne (by omega)]
    exact t.row_of_lt id (by omega)

def update (t : IdTable ρ) (id : Nat) (f : ρ → ρ) : IdTable ρ where
  row := updateRow t.row id f
  seq := t.seq
  row_of_lt id' h := by
    by_cases e : id' = id
    · rw [e, updateRow_self, t.row_of_lt id (e ▸ h)]
      rfl
    · rw [updateRow_of_ne f e, t.row_of_lt id' h]

def delete (t : IdTable ρ) (id : Nat) : IdTable ρ where
  row := Function.update t.row id none
  seq := t.seq
  row_of_lt id' h := by
    by_cases e : id' = id
    · rw [e, Function.update_self]
    · rw [Function.update_of_ne e, t.row_of_lt id' h]

def updateWhere (t : IdTable ρ) (p : ρ → Bool) (f : ρ → ρ) : IdTable ρ where
  row id := (t.row id).map fun r => if p r then f r else r
  seq := t.seq
  row_of_lt id h := by rw [t.row_of_lt id h]; rfl

def deleteWhere (t : IdTable ρ) (p : ρ → Bool) : IdTable ρ where
  row id := (t.row id).filter fun r => !p r
  seq := t.seq
  row_of_lt id h := by rw [t.row_of_lt id h]; rfl

def map {ρ' : Type*} (f : ρ → ρ') (t : IdTable ρ) : IdTable ρ' where
  row id := (t.row id).map f
  seq := t.seq
  row_of_lt id h := by rw [t.row_of_lt id h]; rfl

def ids (t : IdTable ρ) (p : ρ → Bool) : List Nat :=
  (List.range (t.seq + 1)).filter fun id => (t.row id).any p

def queryRow (t : IdTable ρ) (p : ρ → Bool) : Option (Nat × ρ) :=
  (t.ids p).head?.bind fun id => (t.row id).map fun r => (id, r)

def Any (t : IdTable ρ) (p : ρ → Bool) : Prop := ∃ id r, t.row id = some r ∧ p r

section
variable {id : Nat} {r : ρ} {κ : Type*}

theorem le_seq_of_row (h : t.row id = some r) : id ≤ t.seq := by
  by_contra hlt
  rw [t.row_of_lt id (by omega)] at h
  cases h

theorem insert_row_new (t : IdTable ρ) (r : ρ) : (t.insert r).row (t.seq + 1) = some r :=
  Function.update_self ..

theorem insert_row_of_ne (r : ρ) (h : id ≠ t.seq + 1) :
    (t.insert r).row id = t.row id := Function.update_of_ne h _ _

theorem row_of_insert {id : Nat} {r r' : ρ} (h : (t.insert r).row id = some r') :
    (id = t.seq + 1 ∧ r' = r) ∨ t.row id = some r' := by
  by_cases e : id = t.seq + 1
  · rw [e, insert_row_new] at h
    exact .inl ⟨e, (Option.some.inj h).symm⟩
  · exact .inr ((insert_row_of_ne r e).symm.trans h)

theorem insert_row_of_some (r' : ρ) (h : t.row id = some r) : (t.insert r').row id = some r := by
  have hle := le_seq_of_row h
  rw [insert_row_of_ne r' (by omega), h]

def insertAll (t : IdTable ρ) (rs : List ρ) : IdTable ρ := rs.foldl insert t

theorem insertAll_seq (rs : List ρ) : (t.insertAll rs).seq = t.seq + rs.length := by
  induction rs generalizing t with
  | nil => rfl
  | cons r rs ih =>
    show ((t.insert r).insertAll rs).seq = _
    rw [ih, List.length_cons]
    show t.seq + 1 + rs.length = _
    omega

theorem insertAll_row (rs : List ρ) (id : Nat) :
    (t.insertAll rs).row id = if id ≤ t.seq then t.row id else rs[id - (t.seq + 1)]? := by
  induction rs generalizing t with
  | nil =>
    show t.row id = _
    by_cases h : id ≤ t.seq
    · rw [if_pos h]
    · rw [if_neg h, t.row_of_lt id (by omega)]
      rfl
  | cons r rs ih =>
    show ((t.insert r).insertAll rs).row id = _
    have hseq : (t.insert r).seq = t.seq + 1 := rfl
    rw [ih, hseq]
    rcases Nat.lt_trichotomy id (t.seq + 1) with hlt | heq | hgt
    · rw [if_pos (by omega), if_pos (by omega), insert_row_of_ne r (by omega)]
    · rw [if_pos (by omega), if_neg (by omega), heq, insert_row_new, Nat.sub_self]
      rfl
    · obtain ⟨k, rfl⟩ : ∃ k, id = t.seq + 2 + k := ⟨id - (t.seq + 2), by omega⟩
      have h1 : t.seq + 2 + k - (t.seq + 1 + 1) = k := by omega
      have h2 : t.seq + 2 + k - (t.seq + 1) = k + 1 := by omega
      rw [if_neg (by omega), if_neg (by omega), h1, h2, List.getElem?_cons_succ]

theorem insertAll_row_new (t : IdTable ρ) (rs : List ρ) (i : Nat) :
    (t.insertAll rs).row (t.seq + 1 + i) = rs[i]? := by
  rw [insertAll_row, if_neg (by omega), Nat.add_sub_cancel_left]

theorem update_row_self (f : ρ → ρ) (h : t.row id = some r) :
    (t.update id f).row id = some (f r) := (updateRow_self t.row id f).trans (h ▸ rfl)

theorem update_row_of_ne {id id' : Nat} (f : ρ → ρ) (h : id' ≠ id) :
    (t.update id f).row id' = t.row id' := updateRow_of_ne f h

theorem foldl_update_row {f : ρ → ρ} (hidem : ∀ r, f (f r) = f r) (ids : List Nat) (id : Nat) :
    (ids.foldl (fun t i => t.update i f) t).row id =
      if id ∈ ids then (t.row id).map f else t.row id := by
  induction ids generalizing t with
  | nil => rfl
  | cons i ids ih =>
    rw [List.foldl_cons, ih]
    by_cases e : id = i
    · subst e
      have hself : (t.update id f).row id = (t.row id).map f := updateRow_self t.row id f
      have htwice : ((t.row id).map f).map f = (t.row id).map f := by
        rw [Option.map_map]
        exact congrArg (Option.map · (t.row id)) (funext hidem)
      rw [hself, htwice, ite_self, if_pos List.mem_cons_self]
    · rw [update_row_of_ne f e]
      simp only [List.mem_cons, e, false_or]

@[simp] theorem updateWhere_row (t : IdTable ρ) (p : ρ → Bool) (f : ρ → ρ) (id : Nat) :
    (t.updateWhere p f).row id = (t.row id).map fun r => if p r then f r else r := rfl

@[simp] theorem deleteWhere_row (t : IdTable ρ) (p : ρ → Bool) (id : Nat) :
    (t.deleteWhere p).row id = (t.row id).filter fun r => !p r := rfl

theorem foldl_deleteWhere_row {κ : Type*} (p : κ → ρ → Bool) (ks : List κ) (id : Nat) :
    (ks.foldl (fun t k => t.deleteWhere (p k)) t).row id =
      (t.row id).filter fun r => !ks.any fun k => p k r := by
  induction ks generalizing t with
  | nil =>
    cases h : t.row id with
    | none => exact h
    | some r => exact h
  | cons k ks ih =>
    rw [List.foldl_cons, ih, deleteWhere_row, Option.filter_filter]
    simp only [List.any_cons, Bool.not_or]

theorem foldl_updateWhere_row (p : κ → ρ → Bool) {f : ρ → ρ} (hidem : ∀ r, f (f r) = f r)
    (ks : List κ) (id : Nat) :
    (ks.foldl (fun t k => t.updateWhere (p k) f) t).row id =
      (t.row id).map fun r => if ks.any fun k => p k r then f r else r := by
  induction ks generalizing t with
  | nil => exact Option.map_id'.symm
  | cons k ks ih =>
    rw [List.foldl_cons, ih, updateWhere_row, Option.map_map]
    refine congrArg (Option.map · (t.row id)) (funext fun r => ?_)
    show (if (ks.any fun k' => p k' (if p k r then f r else r)) then
      f (if p k r then f r else r) else if p k r then f r else r) = _
    rw [List.any_cons]
    by_cases h : p k r
    · rw [if_pos h, h, Bool.true_or, if_pos rfl, hidem, ite_self]
    · rw [if_neg h, Bool.eq_false_iff.mpr h, Bool.false_or]

theorem foldl_deleteWhere_row_eq_iff (p : κ → ρ → Bool) (ks : List κ) :
    (ks.foldl (fun t k => t.deleteWhere (p k)) t).row = t.row ↔
      ∀ k ∈ ks, ∀ id r, t.row id = some r → p k r = false := by
  constructor
  · intro h k hk id r hr
    have hrow := congrFun h id
    rw [foldl_deleteWhere_row, hr, Option.filter_eq_some_iff] at hrow
    have hnone := hrow.2
    rw [Bool.not_eq_true', List.any_eq_false] at hnone
    exact Bool.eq_false_iff.mpr (hnone k hk)
  · intro h
    funext id
    rw [foldl_deleteWhere_row]
    cases hr : t.row id with
    | none => rfl
    | some r =>
      have hnone : (ks.any fun k => p k r) = false :=
        List.any_eq_false.mpr fun k hk => Bool.eq_false_iff.mp (h k hk id r hr)
      rw [Option.filter_some, hnone]
      rfl

theorem foldl_updateWhere_row_eq_iff (p : κ → ρ → Bool) {f : ρ → ρ} (hidem : ∀ r, f (f r) = f r)
    (ks : List κ) :
    (ks.foldl (fun t k => t.updateWhere (p k) f) t).row = t.row ↔
      ∀ k ∈ ks, ∀ id r, t.row id = some r → p k r → f r = r := by
  constructor
  · intro h k hk id r hr hp
    have hrow := congrFun h id
    rw [foldl_updateWhere_row p hidem, hr, Option.map_some,
      if_pos (List.any_eq_true.mpr ⟨k, hk, hp⟩)] at hrow
    exact Option.some.inj hrow
  · intro h
    funext id
    rw [foldl_updateWhere_row p hidem]
    cases hr : t.row id with
    | none => rfl
    | some r =>
      rw [Option.map_some]
      split
      · next hany =>
        obtain ⟨k, hk, hp⟩ := List.any_eq_true.mp hany
        rw [h k hk id r hr hp]
      · rfl

theorem insertAll_row_of_some (rs : List ρ) (h : t.row id = some r) :
    (t.insertAll rs).row id = some r := by
  rw [insertAll_row, if_pos (le_seq_of_row h), h]

theorem row_of_delete {id' : Nat} (h : (t.delete id).row id' = some r) : t.row id' = some r := by
  change Function.update t.row id none id' = some r at h
  by_cases e : id' = id
  · rw [e, Function.update_self] at h
    cases h
  · rwa [Function.update_of_ne e] at h

theorem mem_ids {p : ρ → Bool} : id ∈ t.ids p ↔ ∃ r, t.row id = some r ∧ p r := by
  rw [ids, List.mem_filter, List.mem_range, Option.any_eq_true]
  refine ⟨fun h => h.2, fun h => ⟨?_, h⟩⟩
  obtain ⟨r, hr, -⟩ := h
  exact Nat.lt_succ_of_le (le_seq_of_row hr)

end

theorem isEmpty_ids_iff {p : ρ → Bool} : (t.ids p).isEmpty ↔ ¬ t.Any p := by
  rw [List.isEmpty_iff, List.eq_nil_iff_forall_not_mem]
  constructor
  · rintro h ⟨id, hrow⟩
    exact h id (mem_ids.mpr hrow)
  · intro h id hid
    exact h ⟨id, mem_ids.mp hid⟩

theorem filter_ids (p : ρ → Bool) (id : Nat) :
    (t.ids p).filter (fun i => i = id) = if (t.row id).any p then [id] else [] := by
  have hnodup : (t.ids p).Nodup := List.nodup_range.filter _
  have hmem : id ∈ t.ids p ↔ (t.row id).any p = true := by rw [mem_ids, Option.any_eq_true]
  rw [List.filter_eq, hnodup.count]
  simp only [hmem]
  split <;> rfl

theorem length_ids_insert (p : ρ → Bool) (r : ρ) :
    ((t.insert r).ids p).length = (t.ids p).length + if p r then 1 else 0 := by
  have hold : ∀ id ∈ List.range (t.seq + 1), ((t.insert r).row id).any p = (t.row id).any p := by
    intro id hid
    rw [insert_row_of_ne r (by have := List.mem_range.mp hid; omega)]
  have hseq : (t.insert r).seq + 1 = (t.seq + 1) + 1 := rfl
  rw [ids, ids, hseq, List.range_succ, List.filter_append, List.filter_congr hold,
    List.length_append, List.filter_cons, insert_row_new, Option.any_some]
  by_cases h : p r
  · rw [if_pos h, if_pos h]
    rfl
  · rw [if_neg h, if_neg h]
    rfl

theorem length_ids_insertAll (p : ρ → Bool) (rs : List ρ) :
    ((t.insertAll rs).ids p).length = (t.ids p).length + rs.countP p := by
  induction rs generalizing t with
  | nil => rfl
  | cons r rs ih =>
    show (((t.insert r).insertAll rs).ids p).length = _
    rw [ih, length_ids_insert, List.countP_cons]
    omega

theorem insertAll_concat (rs : List ρ) (r : ρ) :
    (t.insertAll rs).insert r = t.insertAll (rs ++ [r]) := by
  rw [insertAll, insertAll, List.foldl_append]
  rfl

section
variable {p q : ρ → Bool}

theorem any_or : t.Any (fun r => p r || q r) ↔ t.Any p ∨ t.Any q := by
  simp only [Any, Bool.or_eq_true, and_or_left, exists_or]

theorem not_any_empty : ¬ (empty : IdTable ρ).Any p := by
  rintro ⟨id, r, hr, -⟩
  cases hr

theorem any_insert {r : ρ} : (t.insert r).Any p ↔ t.Any p ∨ p r := by
  constructor
  · rintro ⟨id, r', hr', hp⟩
    by_cases e : id = t.seq + 1
    · rw [e, insert_row_new] at hr'
      cases hr'
      exact .inr hp
    · rw [insert_row_of_ne r e] at hr'
      exact .inl ⟨id, r', hr', hp⟩
  · rintro (⟨id, r', hr', hp⟩ | hp)
    · exact ⟨id, r', insert_row_of_some r hr', hp⟩
    · exact ⟨t.seq + 1, r, insert_row_new t r, hp⟩

theorem any_insertAll (rs : List ρ) : (t.insertAll rs).Any p ↔ t.Any p ∨ ∃ r ∈ rs, p r := by
  induction rs generalizing t with
  | nil => exact ⟨.inl, fun h => h.resolve_right (by rintro ⟨r, hr, -⟩; cases hr)⟩
  | cons r rs ih =>
    show ((t.insert r).insertAll rs).Any p ↔ _
    rw [ih, any_insert, or_assoc]
    simp only [List.mem_cons, or_and_right, exists_or, exists_eq_left]

/-- a row of the updated table is an old one, or the updated one -/
theorem any_update_iff {id : Nat} {f : ρ → ρ} :
    (t.update id f).Any p ↔
      (∃ id' r, t.row id' = some r ∧ p r ∧ id' ≠ id) ∨ ∃ r, t.row id = some r ∧ p (f r) := by
  constructor
  · rintro ⟨id', r, hr, hp⟩
    by_cases e : id' = id
    · obtain ⟨r', hr', rfl⟩ :=
        Option.map_eq_some_iff.mp ((updateRow_self t.row id f).symm.trans (e ▸ hr))
      exact .inr ⟨r', hr', hp⟩
    · exact .inl ⟨id', r, (update_row_of_ne f e).symm.trans hr, hp, e⟩
  · rintro (⟨id', r, hr, hp, e⟩ | ⟨r, hr, hp⟩)
    · exact ⟨id', r, (update_row_of_ne f e).trans hr, hp⟩
    · exact ⟨id, f r, update_row_self f hr, hp⟩

theorem any_update {id : Nat} {f : ρ → ρ} (hf : ∀ r, p (f r) = p r) :
    (t.update id f).Any p ↔ t.Any p := by
  rw [any_update_iff]
  constructor
  · rintro (⟨id', r, hr, hp, -⟩ | ⟨r, hr, hp⟩)
    · exact ⟨id', r, hr, hp⟩
    · exact ⟨id, r, hr, hf r ▸ hp⟩
  · rintro ⟨id', r, hr, hp⟩
    by_cases e : id' = id
    · exact .inr ⟨r, e ▸ hr, (hf r).symm ▸ hp⟩
    · exact .inl ⟨id', r, hr, hp, e⟩

end

/-! ## some columns only -/

section
variable {ρ' : Type*} {f : ρ → ρ'}

theorem ext_row {t t' : IdTable ρ} (hrow : ∀ id, t.row id = t'.row id) (hseq : t.seq = t'.seq) :
    t = t' := by
  obtain ⟨row, seq, _⟩ := t
  obtain ⟨row', seq', _⟩ := t'
  obtain rfl : row = row' := funext hrow
  obtain rfl : seq = seq' := hseq
  rfl

theorem update_const_self {id : Nat} {r : ρ} (h : t.row id = some r) :
    t.update id (fun _ => r) = t := by
  refine ext_row (fun id' => ?_) rfl
  by_cases e : id' = id
  · rw [e, update_row_self _ h, h]
  · exact update_row_of_ne _ e

theorem map_insert (f : ρ → ρ') (t : IdTable ρ) (r : ρ) :
    (t.insert r).map f = (t.map f).insert (f r) := by
  refine ext_row (fun id => ?_) rfl
  show ((t.insert r).row id).map f = _
  by_cases e : id = t.seq + 1
  · rw [e, insert_row_new, Option.map_some]
    exact (insert_row_new (t.map f) (f r)).symm
  · rw [insert_row_of_ne r e]
    exact (insert_row_of_ne (t := t.map f) (f r) e).symm

theorem map_update_const (f : ρ → ρ') (t : IdTable ρ) (id : Nat) (r : ρ) :
    (t.update id fun _ => r).map f = (t.map f).update id fun _ => f r := by
  refine ext_row (fun id' => ?_) rfl
  show (updateRow t.row id (fun _ => r) id').map f = updateRow (t.map f).row id (fun _ => f r) id'
  by_cases e : id' = id
  · rw [e, updateRow_self, updateRow_self]
    show _ = ((t.row id).map f).map _
    rw [Option.map_map, Option.map_map]
    rfl
  · rw [updateRow_of_ne _ e, updateRow_of_ne _ e]
    rfl

theorem ids_map (f : ρ → ρ') (t : IdTable ρ) (p : ρ' → Bool) :
    (t.map f).ids p = t.ids fun r => p (f r) := by
  refine List.filter_congr fun id _ => ?_
  show ((t.row id).map f).any p = _
  cases t.row id <;> rfl

theorem queryRow_map (f : ρ → ρ') (t : IdTable ρ) (p : ρ' → Bool) :
    (t.map f).queryRow p = (t.queryRow fun r => p (f r)).map fun found => (found.1, f found.2) := by
  rw [queryRow, queryRow, ids_map]
  cases (t.ids fun r => p (f r)).head? with
  | none => rfl
  | some id =>
    show ((t.row id).map f).map _ = ((t.row id).map _).map _
    rw [Option.map_map, Option.map_map]
    rfl

theorem row_of_queryRow {p : ρ → Bool} {id : Nat} {r : ρ} (h : t.queryRow p = some (id, r)) :
    t.row id = some r := by
  obtain ⟨id', -, hrow⟩ := Option.bind_eq_some_iff.mp h
  obtain ⟨r', hr', heq⟩ := Option.map_eq_some_iff.mp hrow
  cases heq
  exact hr'

end

end IdTable

end Lib
