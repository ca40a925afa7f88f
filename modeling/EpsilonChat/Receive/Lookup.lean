import EpsilonChat.Receive.Msgs

/-!
# Which row a look-up by Message-ID finds

`rfc724_mid_exists_ex` asks for `id, timestamp_sent, MIN(expr)` of the rows under a Message-ID and
orders the result by `timestamp_sent`.  The aggregate leaves ONE row, and the order is applied after
that; the id is the one of a row where `expr` has its minimum, and SQLite leaves open which one if
there are several.

* `SentRow`: a row of `msgs` with its column `timestamp_sent`;
* `lookupMid`: the query over such rows; without that column it is `rfc724MidExistsEx`
  (`lookupMid_eq`);
* `MostRecent`: what the id is documented to be;
* **`lookupMid_mostRecent_iff`**: the look-up is as documented, whichever row is taken, IFF every row
  where `expr` has its minimum is a most recent one.
-/

namespace EpsilonChat.Receive

open Lib

/-! ## the query -/

structure SentRow extends MsgRow where
  timestampSent : I64 := I64.zero

abbrev SentMsgs := IdTable SentRow

def idsUnder (t : SentMsgs) (mid : String) : List MsgId := t.ids fun r => r.hasMid mid

/-- `MIN(expr)` over the rows -/
def minExpr (t : SentMsgs) (mid : String) (expr : SentRow → Bool) : Bool :=
  (idsUnder t mid).all fun id => (t.row id).any expr

/-- `rfc724_mid_exists_ex` -/
def lookupMid (pick : Pick) (t : SentMsgs) (rfc724Mid : String) (expr : SentRow → Bool) :
    Option (MsgId × Bool) :=
  let mid := trimMid rfc724Mid
  if mid = "" then none
  else
    let rows := (idsUnder t mid).filter fun id => (t.row id).any expr == minExpr t mid expr
    (pick.choose rows).map (·, minExpr t mid expr)

theorem idsUnder_eq (t : SentMsgs) (mid : String) :
    idsUnder t mid = (t.map SentRow.toMsgRow).ids (MsgRow.hasMid mid) := by
  unfold idsUnder IdTable.ids
  refine List.filter_congr fun id _ => ?_
  show _ = ((t.row id).map SentRow.toMsgRow).any _
  exact Option.any_map.symm

/-- an `expr` that does not read `timestamp_sent` -/
theorem lookupMid_eq (pick : Pick) (t : SentMsgs) (mid : String) (expr : MsgRow → Bool) :
    lookupMid pick t mid (fun r => expr r.toMsgRow) =
      rfc724MidExistsEx pick (t.map SentRow.toMsgRow) mid expr := by
  have hany : ∀ id, ((t.map SentRow.toMsgRow).row id).any expr =
      (t.row id).any fun r => expr r.toMsgRow := fun id => Option.any_map
  unfold lookupMid rfc724MidExistsEx minExpr
  simp only [idsUnder_eq, hany]

/-! ## the most recent row -/

/-- a row under the Message-ID, and none of the others was sent later -/
def MostRecent (t : SentMsgs) (mid : String) (id : MsgId) : Prop :=
  ∃ r, t.row id = some r ∧ r.hasMid mid = true ∧
    ∀ id' r', t.row id' = some r' → r'.hasMid mid = true → r'.timestampSent ≤ r.timestampSent

/-- what the function is documented to return -/
def LooksUpMostRecent (pick : Pick) (t : SentMsgs) (rfc724Mid : String) (expr : SentRow → Bool) :
    Prop :=
  (lookupMid pick t rfc724Mid expr = none ↔ ¬ t.Any fun r => r.hasMid (trimMid rfc724Mid)) ∧
  ∀ id exprRes, lookupMid pick t rfc724Mid expr = some (id, exprRes) →
    MostRecent t (trimMid rfc724Mid) id ∧
    (exprRes = true ↔ ∀ id r, t.row id = some r → r.hasMid (trimMid rfc724Mid) = true → expr r = true)

def Pick.prefer (id : MsgId) : Pick where
  choose l := if id ∈ l then some id else l.head?
  choose_mem {l id'} h := by
    split at h
    · cases h
      assumption
    · exact List.mem_of_head? h
  choose_nil {l} h := by
    split at h
    · cases h
    · exact List.head?_eq_none_iff.mp h

section
variable {t : SentMsgs} {mid : String} {expr : SentRow → Bool}
variable {id : MsgId} {rfc724Mid : String}

theorem mem_idsUnder :
    id ∈ idsUnder t mid ↔ ∃ r, t.row id = some r ∧ r.hasMid mid = true := IdTable.mem_ids

theorem minExpr_eq_true : minExpr t mid expr = true ↔
    ∀ id r, t.row id = some r → r.hasMid mid = true → expr r = true := by
  unfold minExpr
  rw [List.all_eq_true]
  constructor
  · intro h id r hrow hmid
    have hexpr := h id (mem_idsUnder.mpr ⟨r, hrow, hmid⟩)
    rw [hrow] at hexpr
    exact hexpr
  · intro h id hid
    obtain ⟨r, hrow, hmid⟩ := mem_idsUnder.mp hid
    rw [hrow]
    exact h id r hrow hmid

theorem exists_minExpr (expr : SentRow → Bool) (hid : id ∈ idsUnder t mid) :
    ∃ id' ∈ idsUnder t mid, (t.row id').any expr = minExpr t mid expr := by
  by_cases hall : minExpr t mid expr = true
  · refine ⟨id, hid, ?_⟩
    rw [hall]
    exact List.all_eq_true.mp hall id hid
  · rw [Bool.not_eq_true] at hall
    obtain ⟨id', hid', hexpr⟩ := List.all_eq_false.mp hall
    refine ⟨id', hid', ?_⟩
    rw [hall]
    exact Bool.not_eq_true _ ▸ hexpr

theorem lookupMid_eq_some {pick : Pick} {exprRes : Bool}
    (h : lookupMid pick t rfc724Mid expr = some (id, exprRes)) :
    exprRes = minExpr t (trimMid rfc724Mid) expr ∧
      ∃ r, t.row id = some r ∧ r.hasMid (trimMid rfc724Mid) = true ∧ expr r = exprRes := by
  unfold lookupMid at h
  dsimp only at h
  split at h
  · cases h
  · obtain ⟨id', hpick, heq⟩ := Option.map_eq_some_iff.mp h
    cases heq
    obtain ⟨hid, hmin⟩ := List.mem_filter.mp (pick.choose_mem hpick)
    obtain ⟨r, hrow, hmid⟩ := mem_idsUnder.mp hid
    rw [hrow, Option.any_some] at hmin
    exact ⟨rfl, r, hrow, hmid, beq_iff_eq.mp hmin⟩

theorem lookupMid_eq_none (pick : Pick) (hmid : trimMid rfc724Mid ≠ "") :
    lookupMid pick t rfc724Mid expr = none ↔ ¬ t.Any fun r => r.hasMid (trimMid rfc724Mid) := by
  constructor
  · rintro h ⟨id, r, hrow, hr⟩
    unfold lookupMid at h
    dsimp only at h
    rw [if_neg hmid, Option.map_eq_none_iff] at h
    obtain ⟨id', hid', hmin⟩ := exists_minExpr expr (mem_idsUnder.mpr ⟨r, hrow, hr⟩)
    have hnil := List.filter_eq_nil_iff.mp (pick.choose_nil h) id' hid'
    exact hnil (beq_iff_eq.mpr hmin)
  · intro hnone
    rcases h : lookupMid pick t rfc724Mid expr with _ | ⟨id, exprRes⟩
    · rfl
    · obtain ⟨-, r, hrow, hr, -⟩ := lookupMid_eq_some h
      exact absurd ⟨id, r, hrow, hr⟩ hnone

theorem lookupMid_prefer {r : SentRow} (hmid : trimMid rfc724Mid ≠ "") (hrow : t.row id = some r)
    (hr : r.hasMid (trimMid rfc724Mid) = true)
    (hexpr : expr r = minExpr t (trimMid rfc724Mid) expr) :
    lookupMid (Pick.prefer id) t rfc724Mid expr = some (id, minExpr t (trimMid rfc724Mid) expr) := by
  have hmem : id ∈ (idsUnder t (trimMid rfc724Mid)).filter fun id =>
      (t.row id).any expr == minExpr t (trimMid rfc724Mid) expr := by
    refine List.mem_filter.mpr ⟨mem_idsUnder.mpr ⟨r, hrow, hr⟩, ?_⟩
    rw [hrow, Option.any_some, hexpr]
    exact beq_self_eq_true _
  unfold lookupMid
  dsimp only
  rw [if_neg hmid]
  show Option.map _ (if id ∈ _ then some id else _) = _
  rw [if_pos hmem, Option.map_some]

end

/-- **the look-up finds a most recent row**, whichever row SQLite takes, **iff** all rows where `expr`
has its minimum are most recent -/
theorem lookupMid_mostRecent_iff (t : SentMsgs) (rfc724Mid : String) (expr : SentRow → Bool)
    (hmid : trimMid rfc724Mid ≠ "") :
    (∀ pick, LooksUpMostRecent pick t rfc724Mid expr) ↔
      ∀ id r, t.row id = some r → r.hasMid (trimMid rfc724Mid) = true →
        expr r = minExpr t (trimMid rfc724Mid) expr → MostRecent t (trimMid rfc724Mid) id := by
  constructor
  · intro h id r hrow hr hexpr
    exact ((h (Pick.prefer id)).2 id _ (lookupMid_prefer hmid hrow hr hexpr)).1
  · intro h pick
    refine ⟨lookupMid_eq_none pick hmid, ?_⟩
    intro id exprRes hfound
    obtain ⟨rfl, r, hrow, hr, hexpr⟩ := lookupMid_eq_some hfound
    exact ⟨h id r hrow hr hexpr, minExpr_eq_true⟩

def oneRow : SentMsgs := IdTable.empty.insert { rfc724Mid := "a@b", chatId := 12 }

/-- with one row under the Message-ID there is no choice -/
theorem lookupMid_mostRecent_oneRow :
    LooksUpMostRecent Pick.first oneRow "<a@b>" fun r => r.downloadState ≠ .done := by
  refine (lookupMid_mostRecent_iff oneRow "<a@b>" _ (by decide)).mpr ?_ Pick.first
  intro id r hrow hr _
  refine ⟨r, hrow, hr, ?_⟩
  intro id' r' hrow' _
  have honly : ∀ i x, oneRow.row i = some x → x = { rfc724Mid := "a@b", chatId := 12 } := by
    intro i x hx
    rcases IdTable.row_of_insert hx with ⟨-, h⟩ | h
    · exact h
    · cases h
  rw [honly id r hrow, honly id' r' hrow']

def sentTwice : SentMsgs :=
  (IdTable.empty.insert { rfc724Mid := "a@b", chatId := 12, timestampSent := ⟨310, by decide⟩ }).insert
    { rfc724Mid := "a@b", chatId := 12, downloadState := .available,
      timestampSent := ⟨410, by decide⟩ }

/-- **the older of two rows is found**, and there is no choice either: `download_state<>0` has its
minimum there -/
theorem lookupMid_finds_older :
    (∀ pick, lookupMid pick sentTwice "a@b" (fun r => r.downloadState ≠ .done) = some (1, false)) ∧
      ¬ MostRecent sentTwice "a@b" 1 := by
  constructor
  · intro pick
    have hrows : lookupMid pick sentTwice "a@b" (fun r => r.downloadState ≠ .done) =
        (pick.choose [1]).map (·, false) := rfl
    rw [hrows]
    rcases hchoose : pick.choose [1] with _ | id
    · cases pick.choose_nil hchoose
    · rw [List.mem_singleton.mp (pick.choose_mem hchoose)]
      rfl
  · rintro ⟨r, hrow, -, hlast⟩
    have hle := hlast 2 _ rfl (by decide)
    cases hrow
    revert hle
    decide

end EpsilonChat.Receive
