import EpsilonChat.Webxdc.StatusUpdates

/-!
# Rendering status updates chunk by chunk

`render_webxdc_status_update_object` puts as many updates of a range of serials into one text as the
size limit allows, and returns the serial at which the next text has to start.

* `renderObject`: the function for ANY size limit, or none; the flush uses it with
  `STATUS_UPDATE_SIZE_MAX`;
* `renderChunks`: the function again and again, each time from the serial it returned;
* `Small`: the texts it may write: at most one byte beyond the limit, or a single update;
* `renderObject_spec`: one chunk: the first updates of the range, the rest starts at the returned
  serial;
* **`renderChunks_exact`**: the chunks end, move on at every step, hold every update of the range
  once and in order, and are `Small`.
-/

namespace EpsilonChat.Webxdc

open Lib

/-! ## any size limit -/

def usizeMax : ℕ := 2 ^ 64 - 1

def renderObject (updates : IdTable Update) (msgId : MsgId) (first last : ℕ)
    (sizeMax : Option ℕ) : Option Outgoing × ℕ :=
  let (json, included, cut) :=
    renderRows (sizeMax.getD usizeMax) "" [] (selectUpdates updates msgId first last)
  (if json = "" then none else some ⟨msgId, included, objectJson json⟩,
    cut.getD (min (last + 1) u32Max))

/-- the call of `flush_status_updates` -/
theorem renderWebxdcStatusUpdateObject_eq (updates : IdTable Update) (msgId : MsgId)
    (first last : ℕ) : renderWebxdcStatusUpdateObject updates msgId first last =
      renderObject updates msgId first last (some STATUS_UPDATE_SIZE_MAX) := rfl

/-- one call: where it started, its text, where the next one starts -/
structure Chunk where
  first : ℕ
  message : Option Outgoing
  firstNew : ℕ

def Chunk.rows (c : Chunk) : List (ℕ × UpdateItem) := c.message.toList.flatMap Outgoing.rows

/-- the calls from `serial` on, as long as it is not beyond `last`, and the serial at the end -/
def renderChunks (updates : IdTable Update) (msgId : MsgId) (last : ℕ) (sizeMax : Option ℕ) :
    ℕ → ℕ → List Chunk × ℕ
  | 0, serial => ([], serial)
  | fuel + 1, serial =>
    if serial ≤ last then
      let (message, firstNew) := renderObject updates msgId serial last sizeMax
      let (chunks, final) := renderChunks updates msgId last sizeMax fuel firstNew
      (⟨serial, message, firstNew⟩ :: chunks, final)
    else ([], serial)

/-! ## the size of a text -/

/-- the text of the updates is at most one byte beyond the limit, or it is a single update -/
def Small (sizeMax : ℕ) (rows : List (ℕ × UpdateItem)) : Prop :=
  (text rows).utf8ByteSize ≤ sizeMax + 1 ∨ rows.length ≤ 1

section
variable {sizeMax : ℕ} {included rows : List (ℕ × UpdateItem)} {id : ℕ} {item : UpdateItem}

theorem small_concat (hfits : ¬ (text included ≠ "" ∧
      (text included).utf8ByteSize + item.json.utf8ByteSize ≥ sizeMax)) :
    Small sizeMax (included ++ [(id, item)]) := by
  by_cases hempty : text included = ""
  · right
    rw [text_eq_empty_iff.mp hempty]
    exact Nat.le_refl 1
  · left
    have hlt : (text included).utf8ByteSize + item.json.utf8ByteSize < sizeMax := by
      by_contra hge
      exact hfits ⟨hempty, Nat.le_of_not_lt hge⟩
    have hsep : (",\n" : String).utf8ByteSize = 2 := by decide
    rw [text_concat, if_neg hempty, String.utf8ByteSize_append, String.utf8ByteSize_append, hsep]
    omega

theorem small_renderRows (h : Small sizeMax included) :
    Small sizeMax (renderRows sizeMax (text included) included rows).2.1 := by
  induction rows generalizing included with
  | nil => exact h
  | cons row rows ih =>
    obtain ⟨id, item⟩ := row
    rw [renderRows]
    by_cases hcut : text included ≠ "" ∧
        (text included).utf8ByteSize + item.json.utf8ByteSize ≥ sizeMax
    · rw [if_pos hcut]
      exact h
    · rw [if_neg hcut, ← text_concat included id item]
      exact ih (small_concat hcut)

theorem renderRows_first (sizeMax : ℕ) (row : ℕ × UpdateItem) (rows : List (ℕ × UpdateItem)) :
    ∃ taken rest, rows = taken ++ rest ∧ renderRows sizeMax "" [] (row :: rows) =
      (text (row :: taken), row :: taken, rest.head?.map Prod.fst) := by
  obtain ⟨id, item⟩ := row
  obtain ⟨taken, rest, hrows, hrender⟩ := renderRows_eq sizeMax [(id, item)] rows
  refine ⟨taken, rest, hrows, ?_⟩
  rw [renderRows, if_neg (fun h => h.1 rfl), if_pos rfl]
  exact hrender

end

/-! ## one chunk -/

section
variable {updates : IdTable Update} {msgId : MsgId} {first firstNew last : ℕ}

theorem selectUpdates_rest {taken rest : List (ℕ × UpdateItem)}
    (hrows : selectUpdates updates msgId first last = taken ++ rest) (hfirst : first ≤ firstNew)
    (htaken : ∀ row ∈ taken, row.1 < firstNew) (hrest : ∀ row ∈ rest, firstNew ≤ row.1) :
    selectUpdates updates msgId firstNew last = rest := by
  have hsorted : (taken ++ rest).Pairwise fun a b => a.1 < b.1 := hrows ▸ selectUpdates_pairwise
  have : Std.Asymm fun a b : ℕ × UpdateItem => a.1 < b.1 := ⟨fun _ _ h => Nat.lt_asymm h⟩
  have : Std.Irrefl fun a b : ℕ × UpdateItem => a.1 < b.1 := ⟨fun _ => Nat.lt_irrefl _⟩
  refine selectUpdates_pairwise.eq_of_mem_iff (List.pairwise_append.mp hsorted).2.1 ?_
  rintro ⟨id, item⟩
  have hmem : (id, item) ∈ taken ++ rest ↔ _ := hrows ▸ mem_selectUpdates
  rw [mem_selectUpdates]
  constructor
  · rintro ⟨hrow, hnew, hlast⟩
    rcases List.mem_append.mp (hmem.mpr ⟨hrow, hfirst.trans hnew, hlast⟩) with ht | hr
    · exact absurd (htaken _ ht) (Nat.not_lt.mpr hnew)
    · exact hr
  · intro hr
    obtain ⟨hrow, -, hlast⟩ := hmem.mp (List.mem_append_right _ hr)
    exact ⟨hrow, hrest _ hr, hlast⟩

end

structure IsChunk (updates : IdTable Update) (msgId : MsgId) (last sizeMax : ℕ) (c : Chunk) :
    Prop where
  moves : c.first < c.firstNew
  bound : c.firstNew ≤ last + 1
  rows : selectUpdates updates msgId c.first last =
    c.rows ++ selectUpdates updates msgId c.firstNew last
  small : Small sizeMax c.rows
  message : ∀ o, c.message = some o →
    o.instanceId = msgId ∧ o.rows ≠ [] ∧ o.json = objectJson (text o.rows)

section
variable {updates : IdTable Update} {msgId : MsgId} {first last : ℕ}

theorem selectUpdates_beyond (h : last < first) : selectUpdates updates msgId first last = [] := by
  rw [List.eq_nil_iff_forall_not_mem]
  rintro ⟨id, item⟩ hmem
  obtain ⟨-, hfirst, hlast⟩ := mem_selectUpdates.mp hmem
  omega

theorem isChunk_nothing (sizeMax : ℕ) (hfirst : first ≤ last)
    (hnone : selectUpdates updates msgId first last = []) :
    IsChunk updates msgId last sizeMax ⟨first, none, last + 1⟩ where
  moves := by show first < last + 1; omega
  bound := Nat.le_refl _
  rows := by
    rw [hnone, selectUpdates_beyond (Nat.lt_succ_self last)]
    rfl
  small := .inr (Nat.zero_le 1)
  message _ h := by cases h

theorem isChunk_taken {sizeMax : ℕ} {row : ℕ × UpdateItem} {taken rest : List (ℕ × UpdateItem)}
    (hfirst : first ≤ last)
    (hrows : selectUpdates updates msgId first last = (row :: taken) ++ rest)
    (hsmall : Small sizeMax (row :: taken)) :
    IsChunk updates msgId last sizeMax
      ⟨first, some ⟨msgId, row :: taken, objectJson (text (row :: taken))⟩,
        (rest.head?.map Prod.fst).getD (last + 1)⟩ := by
  have hrange : ∀ r ∈ (row :: taken) ++ rest, first ≤ r.1 ∧ r.1 ≤ last := by
    rintro ⟨id, item⟩ hr
    rw [← hrows] at hr
    exact (mem_selectUpdates.mp hr).2
  have hsorted : ((row :: taken) ++ rest).Pairwise fun a b => a.1 < b.1 :=
    hrows ▸ selectUpdates_pairwise
  obtain ⟨-, hsortedRest, hcross⟩ := List.pairwise_append.mp hsorted
  have hspec : first < (rest.head?.map Prod.fst).getD (last + 1) ∧
      (rest.head?.map Prod.fst).getD (last + 1) ≤ last + 1 ∧
      (∀ r ∈ row :: taken, r.1 < (rest.head?.map Prod.fst).getD (last + 1)) ∧
      ∀ r ∈ rest, (rest.head?.map Prod.fst).getD (last + 1) ≤ r.1 := by
    cases rest with
    | nil =>
      refine ⟨by show first < last + 1; omega, Nat.le_refl _, ?_, fun _ h => absurd h List.not_mem_nil⟩
      intro r hr
      exact Nat.lt_succ_of_le (hrange r (List.mem_append_left _ hr)).2
    | cons next rest =>
      have hnext : next ∈ (row :: taken) ++ next :: rest :=
        List.mem_append_right _ List.mem_cons_self
      refine ⟨?_, (hrange next hnext).2.trans (Nat.le_succ _), ?_, ?_⟩
      · exact (hrange row List.mem_cons_self).1.trans_lt
          (hcross row List.mem_cons_self next List.mem_cons_self)
      · intro r hr
        exact hcross r hr next List.mem_cons_self
      · intro r hr
        rcases List.mem_cons.mp hr with rfl | htail
        · exact Nat.le_refl _
        · exact ((List.pairwise_cons.mp hsortedRest).1 r htail).le
  obtain ⟨hmoves, hbound, htaken, hrest⟩ := hspec
  refine ⟨hmoves, hbound, ?_, ?_, ?_⟩
  · show selectUpdates updates msgId first last = ((row :: taken) ++ []) ++ _
    rw [List.append_nil, selectUpdates_rest hrows hmoves.le htaken hrest, hrows]
  · show Small sizeMax ((row :: taken) ++ [])
    rw [List.append_nil]
    exact hsmall
  · rintro o ho
    cases ho
    exact ⟨rfl, List.cons_ne_nil _ _, rfl⟩

theorem renderObject_isChunk (updates : IdTable Update) (msgId : MsgId) (sizeMax : Option ℕ)
    (hfirst : first ≤ last) (hlast : last < u32Max) :
    IsChunk updates msgId last (sizeMax.getD usizeMax)
      ⟨first, (renderObject updates msgId first last sizeMax).1,
        (renderObject updates msgId first last sizeMax).2⟩ := by
  have hend : min (last + 1) u32Max = last + 1 := Nat.min_eq_left hlast
  unfold renderObject
  rw [hend]
  rcases hrows : selectUpdates updates msgId first last with _ | ⟨row, rows⟩
  · exact isChunk_nothing _ hfirst hrows
  · obtain ⟨taken, rest, rfl, hrender⟩ := renderRows_first (sizeMax.getD usizeMax) row rows
    have hsmall : Small (sizeMax.getD usizeMax) (row :: taken) := by
      have h : Small (sizeMax.getD usizeMax) (renderRows (sizeMax.getD usizeMax) (text []) []
          (row :: (taken ++ rest))).2.1 := small_renderRows (.inr (Nat.zero_le 1))
      rw [show text [] = "" from rfl, hrender] at h
      exact h
    have hne : text (row :: taken) ≠ "" := mt text_eq_empty_iff.mp (List.cons_ne_nil row taken)
    rw [hrender]
    simp only [if_neg hne]
    exact isChunk_taken hfirst hrows hsmall

/-! ## all chunks -/

theorem renderChunks_run (updates : IdTable Update) (msgId : MsgId) (sizeMax : Option ℕ)
    (hlast : last < u32Max) (fuel first : ℕ) (hfuel : last + 1 - first ≤ fuel) :
    last < (renderChunks updates msgId last sizeMax fuel first).2 ∧
      (∀ c ∈ (renderChunks updates msgId last sizeMax fuel first).1,
        IsChunk updates msgId last (sizeMax.getD usizeMax) c) ∧
      (renderChunks updates msgId last sizeMax fuel first).1.flatMap Chunk.rows =
        selectUpdates updates msgId first last := by
  induction fuel generalizing first with
  | zero =>
    have hdone : last < first := by omega
    refine ⟨hdone, fun _ h => absurd h List.not_mem_nil, ?_⟩
    rw [selectUpdates_beyond hdone]
    rfl
  | succ fuel ih =>
    unfold renderChunks
    by_cases hle : first ≤ last
    · have hchunk := renderObject_isChunk updates msgId sizeMax hle hlast
      have hmoves : first < (renderObject updates msgId first last sizeMax).2 := hchunk.moves
      obtain ⟨hfinal, hall, hflat⟩ := ih (renderObject updates msgId first last sizeMax).2 (by omega)
      rw [if_pos hle]
      refine ⟨hfinal, ?_, ?_⟩
      · intro c hc
        rcases List.mem_cons.mp hc with rfl | htail
        · exact hchunk
        · exact hall c htail
      · rw [hchunk.rows, ← hflat]
        rfl
    · rw [if_neg hle, selectUpdates_beyond (Nat.lt_of_not_le hle)]
      exact ⟨Nat.lt_of_not_le hle, fun _ h => absurd h List.not_mem_nil, rfl⟩

end

/-- **the chunks of a range**, whatever the size limit: they end beyond the range, move on at every
step, hold each update of the range once and in ascending order, and a text is longer than the limit
and one byte only where it is a single update -/
theorem renderChunks_exact (updates : IdTable Update) (msgId : MsgId) (first last : ℕ)
    (sizeMax : Option ℕ) (hlast : last < u32Max) (fuel : ℕ) (hfuel : last + 1 - first ≤ fuel) :
    let chunks := (renderChunks updates msgId last sizeMax fuel first).1
    last < (renderChunks updates msgId last sizeMax fuel first).2 ∧
      (∀ c ∈ chunks, c.first < c.firstNew) ∧
      (chunks.flatMap Chunk.rows).Pairwise (fun a b => a.1 < b.1) ∧
      (∀ id item, (id, item) ∈ chunks.flatMap Chunk.rows ↔
        updates.row id = some ⟨msgId, item⟩ ∧ first ≤ id ∧ id ≤ last) ∧
      ∀ c ∈ chunks, ∀ o, c.message = some o → o.json = objectJson (text o.rows) ∧
        ((text o.rows).utf8ByteSize ≤ sizeMax.getD usizeMax + 1 ∨ o.rows.length = 1) := by
  obtain ⟨hfinal, hall, hflat⟩ := renderChunks_run updates msgId sizeMax hlast fuel first hfuel
  refine ⟨hfinal, fun c hc => (hall c hc).moves, ?_, ?_, ?_⟩
  · rw [hflat]
    exact selectUpdates_pairwise
  · intro id item
    rw [hflat]
    exact mem_selectUpdates
  · intro c hc o ho
    obtain ⟨-, hne, hjson⟩ := (hall c hc).message o ho
    have hrows : c.rows = o.rows := by rw [Chunk.rows, ho]; exact List.append_nil _
    refine ⟨hjson, ?_⟩
    rcases (hall c hc).small with hsize | hone
    · exact .inl (hrows ▸ hsize)
    · rw [hrows] at hone
      have := List.length_pos_of_ne_nil hne
      exact .inr (by omega)

/-- three updates, the second of another instance: under a limit of five bytes each goes alone -/
theorem renderChunks_exact_gap :
    ((renderChunks (((IdTable.empty.insert ⟨20, ping⟩).insert ⟨21, ping⟩).insert ⟨20, ping⟩) 20 3
      (some 5) 3 1).1.map Chunk.firstNew = [3, 4]) ∧
    3 < (renderChunks (((IdTable.empty.insert ⟨20, ping⟩).insert ⟨21, ping⟩).insert ⟨20, ping⟩) 20 3
      (some 5) 3 1).2 :=
  ⟨by decide +kernel, (renderChunks_exact _ 20 1 3 (some 5) (by decide) 3 (by decide)).1⟩

end EpsilonChat.Webxdc
